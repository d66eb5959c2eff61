/-
AwsSigning/Proofs/Cached/SingleFlight.lean

One load at a time, under every order of events.

What an event can do to a room is said once (`Step`), and everything here goes
by cases on it.  Three things are carried along a run:

* the caller with the lock is the one that looks again or loads (`Guarded`);
* the cell holds what the last event that decides about it says
  (`lastWritten`), and only a load that ended well and a clearing do;
* whoever was given a value has earned it (`Earned`), by a load of its own or
  by a look at the cell while that value was there and fresh.

Together they are what a cell promises to callers that come at the same time
(`singleFlight_of_run`).  That the room is about the cell that everybody uses
is `run?_alone`: a caller on its own goes the way of `getOrLoad`.
-/
import Mathlib.Data.List.Induction
import AwsSigning.Cached.Callers
import AwsSigning.Proofs.Operation

namespace AwsSigning.Cached

variable {α : Type}

/-! ### Freshness -/

/-- An entry that never expires, or does so later than a margin from now. -/
def IsFresh (margin : Duration) (entry : Entry α) (now : Instant) : Prop :=
  ∀ expiry ∈ entry.expiry, now.before (expiry.sub margin) = true

theorem fresh_eq_true_iff {margin : Duration} {entry : Entry α} {now : Instant} :
    fresh margin entry now = true ↔ IsFresh margin entry now := by
  unfold fresh IsFresh
  rcases entry.expiry with - | expiry
  · simp
  · simp

/-- What is got out of a cell was in it, and fresh. -/
theorem get?_eq_some_iff {cell : Cached α} {now : Instant} {value : α} :
    cell.get? now = some value ↔
      ∃ entry, cell.entry = some entry ∧ entry.value = value ∧ IsFresh cell.margin entry now := by
  unfold get?
  rcases cell.entry with - | entry
  · simp
  · simp [fresh_eq_true_iff, and_comm]

/-- The caller has the lock. -/
def Caller.isInside : Caller α → Bool
  | .checking | .loading => true
  | _ => false

/-- What an event decides about what the cell holds. -/
def Event.decides? : Event α → Option (Option (Entry α))
  | .finish _ (.ok entry) => some (some entry)
  | .clear => some none
  | _ => none

/-- What a cell holds after some events, if it held something before: the last event that decides
counts. -/
def lastWritten (held : Option (Entry α)) (events : List (Event α)) : Option (Entry α) :=
  (events.reverse.findSome? Event.decides?).getD held

namespace Room

/-! ### What a step can do -/

/-- What an event does, and when it can happen. -/
inductive Step (room : Room α) : Event α → Room α → Prop
  /-- The first look finds a fresh value. -/
  | hit {i value} (hi : room.callers[i]? = some .arriving)
      (hfound : room.cell.get? room.now = some value) :
      Step room (.look i) (room.put i (.answered (.ok value)))
  /-- The first look finds nothing. -/
  | miss {i} (hi : room.callers[i]? = some .arriving) (hnone : room.cell.get? room.now = none) :
      Step room (.look i) (room.put i .waiting)
  /-- The lock is free and is taken. -/
  | acquire {i} (hi : room.callers[i]? = some .waiting) (hfree : room.holder = none) :
      Step room (.acquire i) { room.put i .checking with holder := some i }
  /-- Somebody else has loaded in the meantime. -/
  | share {i value} (hi : room.callers[i]? = some .checking)
      (hfound : room.cell.get? room.now = some value) :
      Step room (.recheck i) (room.put i (.answered (.ok value))).release
  /-- The second look finds nothing either. -/
  | load {i} (hi : room.callers[i]? = some .checking) (hnone : room.cell.get? room.now = none) :
      Step room (.recheck i) (room.put i .loading)
  /-- A load ends well. -/
  | install {i entry} (hi : room.callers[i]? = some .loading) :
      Step room (.finish i (.ok entry))
        { (room.put i (.answered (.ok entry.value))).release with
          cell := room.cell.install entry }
  /-- A load fails. -/
  | fail {i e} (hi : room.callers[i]? = some .loading) :
      Step room (.finish i (.error e)) (room.put i (.answered (.error e))).release
  /-- A caller without the lock gives up. -/
  | leave {i caller} (hi : room.callers[i]? = some caller) (hout : caller.isInside = false) :
      Step room (.drop i) (room.put i .dropped)
  /-- The caller with the lock gives up. -/
  | abandon {i caller} (hi : room.callers[i]? = some caller) (hin : caller.isInside = true) :
      Step room (.drop i) (room.put i .dropped).release
  /-- The cell is emptied. -/
  | clear : Step room .clear { room with cell := room.cell.clear }
  /-- The clock moves, in either direction. -/
  | move {now} : Step room (.move now) { room with now }

variable {room room' start : Room α} {event : Event α} {events : List (Event α)} {i j : Nat}
  {caller old new : Caller α} {value : α}

/-- An event that happens does one of these things. -/
theorem Step.of_step? (h : room.step? event = some room') : Step room event room' := by
  cases event with
  | look i =>
    simp only [step?] at h
    split at h
    · next hi =>
      split at h
      · next value hfound =>
        cases h
        exact .hit hi hfound
      · next hnone =>
        cases h
        exact .miss hi hnone
    · cases h
  | acquire i =>
    simp only [step?] at h
    split at h
    · next hi hfree =>
      cases h
      exact .acquire hi hfree
    · cases h
  | recheck i =>
    simp only [step?] at h
    split at h
    · next hi =>
      split at h
      · next value hfound =>
        cases h
        exact .share hi hfound
      · next hnone =>
        cases h
        exact .load hi hnone
    · cases h
  | finish i result =>
    simp only [step?] at h
    split at h
    · next hi =>
      rcases result with e | entry
      · cases h
        exact .fail hi
      · cases h
        exact .install hi
    · cases h
  | drop i =>
    simp only [step?] at h
    split at h
    · next hi =>
      cases h
      exact .leave hi rfl
    · next hi =>
      cases h
      exact .leave hi rfl
    · next hi =>
      cases h
      exact .abandon hi rfl
    · next hi =>
      cases h
      exact .abandon hi rfl
    · cases h
  | clear =>
    cases h
    exact .clear
  | move now =>
    cases h
    exact .move

/-! ### Runs -/

/-- The room after some events, if they can happen one after the other. -/
def run? (room : Room α) (events : List (Event α)) : Option (Room α) := events.foldlM step? room

/-- Callers that have just arrived at a cell. -/
def gathered (cell : Cached α) (now : Instant) (n : Nat) : Room α :=
  { cell, now, callers := List.replicate n .arriving }

theorem run?_append_singleton :
    run? start (events ++ [event]) = some room' ↔
      ∃ room, run? start events = some room ∧ room.step? event = some room' := by
  simp [run?, List.foldlM_append, Option.bind_eq_some_iff]

/-- What holds at the start and is kept by every step holds after every run. -/
theorem run_induction {P : List (Event α) → Room α → Prop} (hstart : P [] start)
    (hstep : ∀ {events room event room'}, run? start events = some room → P events room →
      Step room event room' → P (events ++ [event]) room') :
    run? start events = some room → P events room := by
  induction events using List.reverseRecOn generalizing room with
  | nil =>
    intro h
    cases h
    exact hstart
  | append_singleton events event ih =>
    intro h
    obtain ⟨mid, hmid, hlast⟩ := run?_append_singleton.mp h
    exact hstep hmid (ih hmid) (Step.of_step? hlast)

/-! ### Callers after a step -/

theorem callers_put_self (h : room.callers[i]? = some old) (new : Caller α) :
    (room.put i new).callers[i]? = some new := by
  obtain ⟨hlength, -⟩ := List.getElem?_eq_some_iff.mp h
  exact List.getElem?_set_self hlength

theorem callers_put_of_ne (h : j ≠ i) (new : Caller α) :
    (room.put i new).callers[j]? = room.callers[j]? :=
  List.getElem?_set_ne (Ne.symm h)

/-- A caller after a change of one is the one that was changed, or was like that before. -/
theorem eq_or_of_callers_put (h : (room.put i new).callers[j]? = some caller) :
    j = i ∧ caller = new ∨ room.callers[j]? = some caller := by
  by_cases hji : j = i
  · subst hji
    have hlength : j < (room.put j new).callers.length := (List.getElem?_eq_some_iff.mp h).1
    have hold : j < room.callers.length := by simpa [put] using hlength
    have hnew : (room.put j new).callers[j]? = some new := List.getElem?_set_self hold
    rw [hnew] at h
    exact .inl ⟨rfl, (Option.some.inj h).symm⟩
  · rw [callers_put_of_ne hji] at h
    exact .inr h

/-! ### The lock -/

/-- The caller with the lock is the one that looks again or loads. -/
def Guarded (room : Room α) : Prop :=
  ∀ i, room.holder = some i ↔ ∃ caller, room.callers[i]? = some caller ∧ caller.isInside = true

theorem Guarded.holder_iff (h : Guarded room) (hi : room.callers[i]? = some caller) :
    room.holder = some i ↔ caller.isInside = true := by
  rw [h i, hi]
  simp

/-- One caller changes, and the lock with it. -/
theorem Guarded.put {holder : Option Nat} (h : Guarded room) (hi : room.callers[i]? = some old)
    (hself : holder = some i ↔ new.isInside = true)
    (hother : ∀ j, j ≠ i → (holder = some j ↔ room.holder = some j)) :
    Guarded { room.put i new with holder } := by
  intro j
  by_cases hji : j = i
  · subst hji
    show holder = some j ↔ ∃ caller, (room.put j new).callers[j]? = some caller ∧ _
    rw [callers_put_self hi, hself]
    simp
  · show holder = some j ↔ ∃ caller, (room.put i new).callers[j]? = some caller ∧ _
    rw [callers_put_of_ne hji, hother j hji]
    exact h j

/-- The lock is not concerned if a caller is inside before and after, or neither. -/
theorem Guarded.put_same (h : Guarded room) (hi : room.callers[i]? = some old)
    (hsame : old.isInside = new.isInside) : Guarded (room.put i new) := by
  have hself : room.holder = some i ↔ new.isInside = true := hsame ▸ h.holder_iff hi
  exact h.put hi hself fun _ _ => Iff.rfl

/-- A caller that goes gives the lock back. -/
theorem Guarded.put_release (h : Guarded room) (hi : room.callers[i]? = some old)
    (hin : old.isInside = true) (hout : new.isInside = false) :
    Guarded (room.put i new).release := by
  have hholder : room.holder = some i := (h.holder_iff hi).mpr hin
  have hself : none = some i ↔ new.isInside = true := by simp [hout]
  refine h.put hi hself ?_
  intro j hji
  rw [hholder]
  simp [Ne.symm hji]

/-- **A step keeps the lock with the caller that is inside.** -/
theorem Guarded.step (h : Guarded room) (hstep : Step room event room') : Guarded room' := by
  cases hstep with
  | hit hi | miss hi => exact h.put_same hi rfl
  | load hi => exact h.put_same hi rfl
  | leave hi hout => exact h.put_same hi hout
  | acquire hi hfree =>
    -- nobody had the lock, so nobody else has it now
    refine h.put hi (by simp [Caller.isInside]) ?_
    intro j hji
    simp [hfree, Ne.symm hji]
  | share hi | fail hi => exact h.put_release hi rfl rfl
  | @install i entry hi =>
    -- the cell is another one, which is of no concern to the lock
    have hreleased : Guarded (room.put i (.answered (.ok entry.value))).release :=
      h.put_release hi rfl rfl
    exact hreleased
  | abandon hi hin => exact h.put_release hi hin rfl
  | clear | move => exact h

theorem guarded_gathered (cell : Cached α) (now : Instant) (n : Nat) :
    Guarded (gathered cell now n) := by
  intro i
  constructor
  · intro h
    cases h
  · rintro ⟨caller, hcaller, hin⟩
    have harriving : caller = .arriving :=
      List.eq_of_mem_replicate (List.mem_of_getElem? hcaller)
    rw [harriving] at hin
    cases hin

/-! ### The cell -/

theorem lastWritten_append_singleton (held : Option (Entry α)) (events : List (Event α))
    (event : Event α) :
    lastWritten held (events ++ [event]) = event.decides?.getD (lastWritten held events) := by
  rw [lastWritten, List.reverse_append, List.reverse_singleton, List.singleton_append,
    List.findSome?_cons]
  rcases event.decides? with - | decided <;> rfl

/-- A step leaves the cell to what its event decides. -/
theorem Step.cell (h : Step room event room') :
    room'.cell = { room.cell with entry := event.decides?.getD room.cell.entry } := by
  cases h <;> rfl

/-- **The cell holds what was written last.** -/
theorem cell_of_run (h : run? start events = some room) :
    room.cell = { start.cell with entry := lastWritten start.cell.entry events } := by
  refine run_induction (P := fun events room => room.cell = { start.cell with
    entry := lastWritten start.cell.entry events }) rfl ?_ h
  intro events room event room' _ hcell hstep
  rw [hstep.cell, hcell, lastWritten_append_singleton]

/-! ### Answers -/

/-- A caller has earned a value. -/
inductive Earned (start : Room α) (events : List (Event α)) (i : Nat) (value : α) : Prop
  /-- Its own load ended with this value. -/
  | loaded {before after : List (Event α)} {room : Room α} {entry : Entry α}
      (hevents : events = before ++ .finish i (.ok entry) :: after)
      (hrun : run? start before = some room) (hloading : room.callers[i]? = some .loading)
      (hvalue : entry.value = value)
  /-- At one of its two looks this value was in the cell, and fresh. -/
  | found {before after : List (Event α)} {room : Room α} {check : Event α} {entry : Entry α}
      (hcheck : check = .look i ∨ check = .recheck i) (hevents : events = before ++ check :: after)
      (hrun : run? start before = some room) (hentry : room.cell.entry = some entry)
      (hvalue : entry.value = value) (hfresh : IsFresh room.cell.margin entry room.now)

/-- What has been earned stays earned. -/
theorem Earned.snoc (h : Earned start events i value) (event : Event α) :
    Earned start (events ++ [event]) i value := by
  cases h with
  | @loaded before after room entry hevents hrun hloading hvalue =>
    have hmore : events ++ [event] = before ++ .finish i (.ok entry) :: (after ++ [event]) := by
      rw [hevents, List.append_assoc, List.cons_append]
    exact .loaded hmore hrun hloading hvalue
  | @found before after room check entry hcheck hevents hrun hentry hvalue hfresh =>
    have hmore : events ++ [event] = before ++ check :: (after ++ [event]) := by
      rw [hevents, List.append_assoc, List.cons_append]
    exact .found hcheck hmore hrun hentry hvalue hfresh

/-- An answer that is there after a step was there before, or it is given with this step. -/
theorem Step.answered (h : Step room event room')
    (hi : room'.callers[i]? = some (.answered (.ok value))) :
    room.callers[i]? = some (.answered (.ok value)) ∨
      (∃ entry, event = .finish i (.ok entry) ∧ entry.value = value ∧
        room.callers[i]? = some .loading) ∨
      ((event = .look i ∨ event = .recheck i) ∧ room.cell.get? room.now = some value) := by
  cases h with
  | hit hj hfound =>
    rcases eq_or_of_callers_put hi with ⟨rfl, hnew⟩ | hold
    · cases hnew
      exact .inr (.inr ⟨.inl rfl, hfound⟩)
    · exact .inl hold
  | share hj hfound =>
    rcases eq_or_of_callers_put hi with ⟨rfl, hnew⟩ | hold
    · cases hnew
      exact .inr (.inr ⟨.inr rfl, hfound⟩)
    · exact .inl hold
  | install hj =>
    rcases eq_or_of_callers_put hi with ⟨rfl, hnew⟩ | hold
    · cases hnew
      exact .inr (.inl ⟨_, rfl, rfl, hj⟩)
    · exact .inl hold
  | miss | acquire | load | fail | leave | abandon =>
    -- nobody is given a value
    rcases eq_or_of_callers_put hi with ⟨-, hnew⟩ | hold
    · cases hnew
    · exact .inl hold
  | clear | move => exact .inl hi

/-- **Whoever was given a value has earned it**, if nobody had been given one at the start. -/
theorem earned_of_run (hstart : ∀ value, start.callers[i]? ≠ some (.answered (.ok value)))
    (h : run? start events = some room) :
    ∀ value, room.callers[i]? = some (.answered (.ok value)) → Earned start events i value := by
  refine run_induction (P := fun events room => ∀ value,
    room.callers[i]? = some (.answered (.ok value)) → Earned start events i value) ?_ ?_ h
  · intro value hvalue
    exact absurd hvalue (hstart value)
  · intro events room event room' hrun ih hstep value hvalue
    rcases hstep.answered hvalue with hold | ⟨entry, rfl, hentry, hloading⟩ | ⟨hcheck, hget⟩
    · exact (ih value hold).snoc event
    · exact .loaded rfl hrun hloading hentry
    · obtain ⟨entry, hentry, hsame, hfresh⟩ := get?_eq_some_iff.mp hget
      exact .found hcheck rfl hrun hentry hsame hfresh

/-! ### What is promised -/

/-- What holds after a run of events. -/
structure SingleFlight (start : Room α) (events : List (Event α)) (room : Room α) : Prop where
  /-- At most one caller loads. -/
  sole : ∀ i j : Nat, room.callers[i]? = some .loading → room.callers[j]? = some .loading → i = j
  /-- It is the one with the lock. -/
  locked : ∀ i : Nat, room.callers[i]? = some .loading → room.holder = some i
  /-- While nobody loads or is about to look again, the lock is free. -/
  free : (∀ i : Nat, room.callers[i]? ≠ some .loading ∧ room.callers[i]? ≠ some .checking) →
    room.holder = none
  /-- The cell holds the entry of the last load that ended well since it was last emptied. -/
  entry : room.cell = { start.cell with entry := lastWritten start.cell.entry events }
  /-- A load that fails and a caller that gives up leave the cell as it is. -/
  kept : ∀ (i : Nat) e event room', event = .finish i (.error e) ∨ event = .drop i →
    room.step? event = some room' → room'.cell = room.cell
  /-- Values are handed out to those that have earned them. -/
  answers : ∀ (i : Nat) value, room.callers[i]? = some (.answered (.ok value)) →
    Earned start events i value

/-- **One load at a time, and only what was loaded well is kept and handed out**, whatever the
order of events. -/
theorem singleFlight_of_run {cell : Cached α} {now : Instant} {n : Nat}
    (h : run? (gathered cell now n) events = some room) :
    SingleFlight (gathered cell now n) events room := by
  have hguarded : Guarded room :=
    run_induction (P := fun _ room => Guarded room) (guarded_gathered cell now n)
      (fun _ hguarded hstep => hguarded.step hstep) h
  have hlocked : ∀ i : Nat, room.callers[i]? = some .loading → room.holder = some i :=
    fun i hi => (hguarded.holder_iff hi).mpr rfl
  constructor
  · intro i j hi hj
    exact Option.some.inj ((hlocked i hi).symm.trans (hlocked j hj))
  · exact hlocked
  · intro hnobody
    rcases hholder : room.holder with - | i
    · rfl
    · -- a caller with the lock is inside, and nobody is
      obtain ⟨caller, hi, hin⟩ := (hguarded i).mp hholder
      cases caller with
      | checking => exact absurd hi (hnobody i).2
      | loading => exact absurd hi (hnobody i).1
      | arriving | waiting | answered | dropped => cases hin
  · exact cell_of_run h
  · rintro i e event room' (rfl | rfl) hstep
    · exact (Step.of_step? hstep).cell
    · exact (Step.of_step? hstep).cell
  · intro i
    refine earned_of_run ?_ h
    intro value hvalue
    have harriving := List.eq_of_mem_replicate (List.mem_of_getElem? hvalue)
    cases harriving

/-- Three callers meet at an empty cell.  The load of the first one is cut off, then the last one
loads, and what it loads is fresh for the one that has been waiting all the time. -/
def handover : List (Event Nat) :=
  [.look 0, .look 1, .look 2, .acquire 0, .recheck 0, .drop 0, .acquire 2, .recheck 2,
   .finish 2 (.ok ⟨7, some (.ofSecond 100)⟩), .move (.ofSecond 20), .acquire 1, .recheck 1]

theorem singleFlight_of_run_handover :
    ∃ room, run? (gathered ⟨.ofSeconds 10, none⟩ (.ofSecond 0) 3) handover = some room ∧
      room.callers[1]? = some (.answered (.ok 7)) ∧
      SingleFlight (gathered ⟨.ofSeconds 10, none⟩ (.ofSecond 0) 3) handover room :=
  ⟨_, rfl, rfl, singleFlight_of_run rfl⟩

/-! ### A caller on its own -/

/-- What happens to a caller that is on its own, if its load has a given end. -/
def aloneEvents (cell : Cached α) (now : Instant) (result : Except Error (Entry α)) :
    List (Event α) :=
  match cell.get? now with
  | some _ => [.look 0]
  | none => [.look 0, .acquire 0, .recheck 0, .finish 0 result]

/-- **A caller on its own goes the way of `getOrLoad`**: it ends with the same answer, and leaves
the cell in the same state and the lock free. -/
theorem run?_alone (cell : Cached α) (now : Instant) (result : Except Error (Entry α)) :
    ∃ room answer, run? (gathered cell now 1) (aloneEvents cell now result) = some room ∧
      room.callers = [.answered answer] ∧ room.holder = none ∧
      (getOrLoad Prod.fst (fun cell s => (cell, s.2)) Prod.snd (Operation.ofExcept result)).outcome
        (cell, now) = (answer, (room.cell, now)) := by
  unfold aloneEvents getOrLoad
  rw [Operation.outcome_bind, Operation.outcome_get]
  dsimp only
  rcases hfound : cell.get? now with - | value
  · -- nothing changes until the load ends
    rcases result with e | entry
    · refine ⟨⟨cell, now, none, [.answered (.error e)]⟩, .error e, ?_, rfl, rfl, rfl⟩
      simp [run?, step?, gathered, put, release, hfound]
    · refine ⟨⟨cell.install entry, now, none, [.answered (.ok entry.value)]⟩, .ok entry.value, ?_,
        rfl, rfl, rfl⟩
      simp [run?, step?, gathered, put, release, hfound]
  · refine ⟨⟨cell, now, none, [.answered (.ok value)]⟩, .ok value, ?_, rfl, rfl, rfl⟩
    simp [run?, step?, gathered, put, hfound]

end Room

end AwsSigning.Cached
