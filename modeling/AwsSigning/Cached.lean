/-
AwsSigning/Cached.lean

A cell that holds one value until shortly before it expires.

The cell counts its value as expired a margin before the real expiry, so
nobody is handed something that is about to stop working.  `getOrLoad` gives
the value in the cell while it is fresh and loads another one otherwise; a
load that fails leaves the cell as it was.
-/
import AwsSigning.Operation
import AwsSigning.Text.Description
import AwsSigning.Time.Calendar

namespace AwsSigning

/-- A value with the time at which it stops working, or none if it never does. -/
structure Entry (α : Type) where
  value : α
  expiry : Option Instant
deriving DecidableEq, Repr

/-- A cell for one value. -/
structure Cached (α : Type) where
  /-- How long before its expiry a value counts as expired. -/
  margin : Duration
  /-- What the cell holds. -/
  entry : Option (Entry α) := none
deriving DecidableEq, Repr

namespace Cached

/-! ### Looking -/

/-- At a point in time an entry is still to be used. -/
def fresh (margin : Duration) (entry : Entry α) (now : Instant) : Bool :=
  match entry.expiry with
  | none => true
  | some expiry => now.before (expiry.sub margin)

/-- The value in the cell, if it is fresh. -/
def get? (cell : Cached α) (now : Instant) : Option α :=
  match cell.entry with
  | some entry => if fresh cell.margin entry now then some entry.value else none
  | none => none

/-- The cell has no fresh value. -/
def isExpired (cell : Cached α) (now : Instant) : Bool := (cell.get? now).isNone

/-! ### Changing -/

/-- The cell without its value. -/
def clear (cell : Cached α) : Cached α := { cell with entry := none }

/-- The cell with a new value. -/
def install (cell : Cached α) (entry : Entry α) : Cached α := { cell with entry := some entry }

/-- The fresh value of a cell, or else what `load` gives, which is kept.  The cell is a part of
the state: `part` reads it, `put` replaces it, and `clock` tells the time. -/
def getOrLoad (part : σ → Cached α) (put : Cached α → σ → σ) (clock : σ → Instant)
    (load : Operation σ (Entry α)) : Operation σ α := do
  let s ← get
  match (part s).get? (clock s) with
  | some value => pure value
  | none =>
    let entry ← load
    modify fun s => put ((part s).install entry) s
    pure entry.value

/-! ### Description -/

/-- The margin and the expiry, but not the value. -/
def describe (cell : Cached α) : String :=
  Text.describeRecord "CachedValue"
    [("buffer", cell.margin.describe),
     ("expires_at",
      Text.describeOption (Text.describeOption Instant.describe) (cell.entry.map (·.expiry)))]

end Cached

end AwsSigning
