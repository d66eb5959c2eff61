/-
AwsSigning/Operation.lean

Operations that keep what they did even when they fail.

An operation of a component with state `σ` ends with a value or a failure,
and in both cases with a new state: a token that was fetched stays cached
although the request after it failed.  That is the whole difference from a
computation that throws its state away with the failure.

A component is often a part of a larger one.  `Operation.focus` runs an
operation of the part on the whole, and leaves the rest alone.
-/
import AwsSigning.Error

namespace AwsSigning

/-- An operation of a component with state `σ`. -/
abbrev Operation (σ : Type) := ExceptT Error (StateM σ)

namespace Operation

/-- The operation given by its outcome and the state after it. -/
def of (run : σ → Except Error α × σ) : Operation σ α := ExceptT.mk run

/-- The outcome of an operation and the state after it. -/
def outcome (op : Operation σ α) (s : σ) : Except Error α × σ := op.run.run s

/-- An operation that fails. -/
def fail (e : Error) : Operation σ α := throw e

/-- An outcome that is known without looking at the state. -/
def ofExcept (r : Except Error α) : Operation σ α := of fun s => (r, s)

/-- An operation of a part, run on the whole. -/
def focus (part : σ → τ) (put : τ → σ → σ) (op : Operation τ α) : Operation σ α :=
  of fun s =>
    let (result, t) := op.outcome (part s)
    (result, put t s)

/-- An operation of the second component of a pair. -/
def onSecond (op : Operation τ α) : Operation (σ × τ) α :=
  focus Prod.snd (fun t s => (s.1, t)) op

/-- The operation with every failure changed. -/
def mapFailure (f : Error → Error) (op : Operation σ α) : Operation σ α :=
  of fun s =>
    let (result, s) := op.outcome s
    (result.mapError f, s)

/-- The operation with its failure as a value. -/
def attempt (op : Operation σ α) : Operation σ (Except Error α) :=
  of fun s =>
    let (result, s) := op.outcome s
    (.ok result, s)

/-- The operation, with `restore before after` as the state after a failure. -/
def restoring (restore : σ → σ → σ) (op : Operation σ α) : Operation σ α :=
  of fun before =>
    match op.outcome before with
    | (.ok a, after) => (.ok a, after)
    | (.error e, after) => (.error e, restore before after)

end Operation

end AwsSigning
