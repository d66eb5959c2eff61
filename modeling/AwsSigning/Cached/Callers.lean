/-
AwsSigning/Cached/Callers.lean

Many callers at one cell.

A caller looks at the cell first.  If the value is not fresh it waits for the
one lock there is, looks again when it has it (somebody else may have loaded
in the meantime), and only then loads.  It gives the lock back with its
answer, or when it is dropped.  A load that ends well goes into the cell; a
failed or dropped one leaves the cell as it was.

`Room.step?` says what each event does and when it can happen, under every
order of events.  `Room.serve` is one such order: everybody arrives, and the
lock goes to those who wait in order of arrival.
-/
import AwsSigning.Cached

namespace AwsSigning.Cached

/-! ### Callers and events -/

/-- How far a caller has come. -/
inductive Caller (α : Type) where
  /-- It has not looked yet. -/
  | arriving
  /-- It found nothing fresh and waits for the lock. -/
  | waiting
  /-- It has the lock and has not looked again yet. -/
  | checking
  /-- It has the lock and loads. -/
  | loading
  /-- It has its answer. -/
  | answered (answer : Except Error α)
  /-- It gave up. -/
  | dropped

/-- What can happen. -/
inductive Event (α : Type) where
  /-- A caller looks for the first time. -/
  | look (caller : Nat)
  /-- A waiting caller takes the lock. -/
  | acquire (caller : Nat)
  /-- The caller with the lock looks again. -/
  | recheck (caller : Nat)
  /-- The load of a caller ends. -/
  | finish (caller : Nat) (result : Except Error (Entry α))
  /-- A caller gives up. -/
  | drop (caller : Nat)
  /-- The cell is emptied. -/
  | clear
  /-- The clock moves. -/
  | move (now : Instant)

/-- A cell, a clock, a lock and the callers. -/
structure Room (α : Type) where
  cell : Cached α
  now : Instant
  /-- Who has the lock. -/
  holder : Option Nat := none
  callers : List (Caller α)

namespace Room

/-- The room with another state of a caller. -/
def put (room : Room α) (i : Nat) (caller : Caller α) : Room α :=
  { room with callers := room.callers.set i caller }

/-- The room with the lock given back. -/
def release (room : Room α) : Room α := { room with holder := none }

/-- The room after an event, if the event can happen. -/
def step? (room : Room α) : Event α → Option (Room α)
  | .look i =>
    match room.callers[i]? with
    | some .arriving =>
      match room.cell.get? room.now with
      | some value => some (room.put i (.answered (.ok value)))
      | none => some (room.put i .waiting)
    | _ => none
  | .acquire i =>
    match room.callers[i]?, room.holder with
    | some .waiting, none => some { room.put i .checking with holder := some i }
    | _, _ => none
  | .recheck i =>
    match room.callers[i]? with
    | some .checking =>
      match room.cell.get? room.now with
      | some value => some (room.put i (.answered (.ok value))).release
      | none => some (room.put i .loading)
    | _ => none
  | .finish i result =>
    match room.callers[i]? with
    | some .loading =>
      match result with
      | .ok entry =>
        some { (room.put i (.answered (.ok entry.value))).release with
          cell := room.cell.install entry }
      | .error e => some (room.put i (.answered (.error e))).release
    | _ => none
  | .drop i =>
    match room.callers[i]? with
    | some .arriving | some .waiting => some (room.put i .dropped)
    | some .checking | some .loading => some (room.put i .dropped).release
    | _ => none
  | .clear => some { room with cell := room.cell.clear }
  | .move now => some { room with now }

/-! ### First come, first served -/

/-- What a load gives, by the number of loads before it and the caller that runs it. -/
abbrev Loader (α : Type) := Nat → Nat → Except Error (Entry α)

/-- A caller looks; nothing happens if it cannot. -/
def look (room : Room α) (i : Nat) : Room α := (room.step? (.look i)).getD room

/-- A waiting caller is served to its end, and the loads are counted. -/
def serveOne (load : Loader α) (state : Room α × Nat) (i : Nat) : Room α × Nat :=
  let (room, runs) := state
  match (room.step? (.acquire i)).bind (·.step? (.recheck i)) with
  | none => (room, runs)
  | some checked =>
    match checked.step? (.finish i (load runs i)) with
    | some served => (served, runs + 1)
    | none => (checked, runs)

/-- Everybody looks, and those who wait are served in order. -/
def serve (load : Loader α) (room : Room α) : Room α × Nat :=
  let everyone := List.range room.callers.length
  everyone.foldl (serveOne load) (everyone.foldl look room, 0)

/-- The answers given so far. -/
def answers (room : Room α) : List (Except Error α) :=
  room.callers.filterMap fun
    | .answered answer => some answer
    | _ => none

end Room

/-- Callers that come to a cell together: their answers, how many loads ran, and the cell after. -/
def concurrently (cell : Cached α) (now : Instant) (n : Nat) (load : Room.Loader α) :
    List (Except Error α) × Nat × Cached α :=
  let (room, runs) :=
    Room.serve load { cell, now, callers := List.replicate n .arriving }
  (room.answers, runs, room.cell)

end AwsSigning.Cached
