/-
AwsSigning/Time/Instant.lean

Points in time and spans between them.

A span is a whole number of nanoseconds.  A point in time is a Unix second
and the nanoseconds since that second began; during a leap second the clock
stays on second 59 and the nanoseconds run on past a full second.  Points are
ordered by second first, so a leap second comes after second 59 and before
the next minute.

Moving a point by a span (`Instant.add`) leaves a leap second unless the move
stays within it; every other move is plain addition.
-/

namespace AwsSigning

/-! ### Spans -/

/-- A span of time, in nanoseconds; it may be negative. -/
structure Duration where
  /-- The length of the span. -/
  nanoseconds : Int
deriving DecidableEq, Repr, Inhabited

namespace Duration

/-- A span of whole milliseconds. -/
def ofMilliseconds (n : Int) : Duration := ⟨n * 1000000⟩

/-- A span of whole seconds. -/
def ofSeconds (n : Int) : Duration := ⟨n * 1000000000⟩

/-- A span of whole minutes. -/
def ofMinutes (n : Int) : Duration := ofSeconds (n * 60)

/-- The empty span. -/
def zero : Duration := ⟨0⟩

/-- The same span backwards. -/
def neg (d : Duration) : Duration := ⟨-d.nanoseconds⟩

/-- Whole seconds, cut toward zero. -/
def seconds (d : Duration) : Int := d.nanoseconds.tdiv 1000000000

/-- The nanoseconds beyond the whole seconds, with the sign of the span. -/
def subNanoseconds (d : Duration) : Int := d.nanoseconds.tmod 1000000000

/-- Whole milliseconds, cut toward zero. -/
def milliseconds (d : Duration) : Int := d.nanoseconds.tdiv 1000000

/-- A span is written with its seconds rounded down and the nanoseconds above them. -/
def describe (d : Duration) : String :=
  "TimeDelta \x7b secs: " ++ toString (d.nanoseconds.fdiv 1000000000) ++ ", nanos: "
    ++ toString (d.nanoseconds.fmod 1000000000) ++ " \x7d"

end Duration

/-! ### Points in time -/

/-- A point in time. -/
structure Instant where
  /-- Unix seconds. -/
  second : Int
  /-- Nanoseconds since that second began; one full second or more only in a leap second. -/
  nano : Nat
deriving DecidableEq, Repr, Inhabited

namespace Instant

/-- The start of a Unix second. -/
def ofSecond (s : Int) : Instant := ⟨s, 0⟩

/-- `a` is not after `b`. -/
def atMost (a b : Instant) : Bool :=
  a.second < b.second || (a.second = b.second && a.nano ≤ b.nano)

/-- `a` is before `b`. -/
def before (a b : Instant) : Bool := !b.atMost a

/-- The point `d` after `t` on a clock without leap seconds; `nanos` may exceed a second. -/
def shifted (second nanos : Int) (d : Duration) : Instant :=
  let total := second * 1000000000 + nanos + d.nanoseconds
  ⟨total.fdiv 1000000000, (total.fmod 1000000000).toNat⟩

/-- The point `d` after `t`.  Within a leap second only its nanoseconds move; a move that leaves it
forwards starts from second 59, one that leaves it backwards from the second after. -/
def add (t : Instant) (d : Duration) : Instant :=
  if t.nano < 1000000000 then shifted t.second t.nano d
  else
    let nano := (t.nano : Int) + d.subNanoseconds
    if d.seconds > 0 || (d.subNanoseconds > 0 && nano ≥ 2000000000) then
      shifted t.second (t.nano - 1000000000) d
    else if d.seconds < 0 then shifted (t.second + 1) (t.nano - 1000000000) d
    else ⟨t.second, nano.toNat⟩

/-- The point `d` before `t`. -/
def sub (t : Instant) (d : Duration) : Instant := t.add d.neg

end Instant

end AwsSigning
