/-
AwsSigning/Time/Rfc3339.lean

Reading points in time such as `2022-03-01T08:12:34.5+01:00`.

The fields have fixed widths, so reading is a sequence of steps that each
take something off the front of the text; a text that is left over at the end
is refused.  The letters `T` and `Z` may be small, a space may stand for the
`T`, and the sign of the offset may be U+2212.  Digits of a second beyond the
ninth are read and dropped.  Second 60 is a leap second in any minute.
-/
import AwsSigning.Error
import AwsSigning.Time.Calendar

namespace AwsSigning.Rfc3339

/-! ### Fields -/

/-- A step takes something off the front of a text. -/
abbrev Step (α : Type) := StateT (List Char) Option α

/-- The value of a decimal digit. -/
def digit? (c : Char) : Option Nat :=
  if '0' ≤ c ∧ c ≤ '9' then some (c.toNat - '0'.toNat) else none

/-- One digit. -/
def digit : Step Nat := fun s =>
  match s with
  | c :: rest => (digit? c).map (·, rest)
  | [] => none

/-- A number of exactly `n` digits. -/
def number : Nat → Step Nat
  | 0 => pure 0
  | n + 1 => do
    let high ← number n
    let low ← digit
    pure (high * 10 + low)

/-- One character out of a few. -/
def oneOf (allowed : List Char) : Step Char := fun s =>
  match s with
  | c :: rest => if allowed.contains c then some (c, rest) else none
  | [] => none

/-- A number between two bounds. -/
def bounded (low high : Nat) (n : Nat) : Step Unit :=
  if low ≤ n ∧ n ≤ high then pure () else fun _ => none

/-- The nanoseconds spelled by digits after the point; the first digit counts `unit` of them. -/
def nanosOf : Nat → List Nat → Nat
  | _, [] => 0
  | unit, d :: rest => d * unit + nanosOf (unit / 10) rest

/-- The fraction of a second, in nanoseconds; without a point it is zero. -/
def fraction : Step Nat := fun s =>
  match s with
  | '.' :: rest =>
    match rest.takeWhile (fun c => (digit? c).isSome) with
    | [] => none
    | digits =>
      some (nanosOf 100000000 (digits.filterMap digit?), rest.drop digits.length)
  | _ => some (0, s)

/-- The offset from universal time, in seconds. -/
def offset : Step Int := do
  let sign ← oneOf ['Z', 'z', '+', '-', '\u2212']
  if sign = 'Z' ∨ sign = 'z' then pure 0
  else
    let hours ← number 2
    let _ ← oneOf [':']
    let minutes ← number 2
    bounded 0 23 hours
    bounded 0 59 minutes
    let seconds : Int := hours * 3600 + minutes * 60
    pure (if sign = '+' then seconds else -seconds)

/-! ### The whole -/

/-- A point in time at the front of a text. -/
def instant : Step Instant := do
  let year ← number 4
  let _ ← oneOf ['-']
  let month ← number 2
  bounded 1 12 month
  let _ ← oneOf ['-']
  let day ← number 2
  bounded 1 (Date.daysInMonth year month) day
  let _ ← oneOf ['T', 't', ' ']
  let hour ← number 2
  bounded 0 23 hour
  let _ ← oneOf [':']
  let minute ← number 2
  bounded 0 59 minute
  let _ ← oneOf [':']
  let second ← number 2
  bounded 0 60 second
  let nanos ← fraction
  let ahead ← offset
  let onClock := min second 59
  let leap := if second = 60 then 1000000000 else 0
  let days := Date.toDays ⟨year, month, day⟩
  pure ⟨days * 86400 + hour * 3600 + minute * 60 + onClock - ahead, nanos + leap⟩

/-- The point in time that a whole text spells. -/
def parse? (s : String) : Option Instant :=
  match instant s.toList with
  | some (t, []) => some t
  | _ => none

/-- The point in time that a whole text spells; the failure names the text. -/
def parse (s : String) : Except Error Instant :=
  match parse? s with
  | some t => .ok t
  | none => .error ((Error.platform .malformedTime).causedOutside.within ("input: " ++ s))

end AwsSigning.Rfc3339
