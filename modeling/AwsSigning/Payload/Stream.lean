/-
AwsSigning/Payload/Stream.lean

Streams of bytes.

A stream is anything that can be read chunk by chunk (`ByteStream`).  Reading
and rewinding may fail, and a stream that failed is still there in whatever
state the failure left it.  Every stream comes to an end: `left` bounds how
many chunks may still follow.

There are streams in memory that can be read again and again, streams that
are read once, streams that fail in a way that is known beforehand, and
streams that are one of two kinds.
-/
import AwsSigning.Digest.Sha256
import AwsSigning.Operation

namespace AwsSigning

/-! ### What a stream is -/

/-- Types whose values are read chunk by chunk. -/
class ByteStream (σ : Type) where
  /-- The number of bytes, if it is known. -/
  length? : σ → Option Nat
  /-- The stream can be read more than once. -/
  replayable : σ → Bool
  /-- The next chunk, or none at the end. -/
  next : Operation σ (Option Bytes)
  /-- Back to the first byte. -/
  rewind : Operation σ Unit
  /-- How many chunks may still follow. -/
  left : σ → Nat
  /-- Each chunk brings the end nearer. -/
  left_lt : ∀ s c s', next.outcome s = (.ok (some c), s') → left s' < left s

/-! ### In memory -/

/-- A stream in memory that can be read again and again. -/
structure ReplayableStream where
  /-- All chunks. -/
  chunks : List Bytes
  /-- How many of them have been read. -/
  position : Nat := 0
deriving DecidableEq, Repr

namespace ReplayableStream

/-- The next chunk. -/
def next : Operation ReplayableStream (Option Bytes) := Operation.of fun s =>
  match s.chunks[s.position]? with
  | some chunk => (.ok (some chunk), { s with position := s.position + 1 })
  | none => (.ok none, s)

/-- Back to the first chunk. -/
def rewind : Operation ReplayableStream Unit := Operation.of fun s =>
  (.ok (), { s with position := 0 })

theorem left_lt (s : ReplayableStream) (c : Bytes) (s' : ReplayableStream)
    (h : next.outcome s = (.ok (some c), s')) :
    s'.chunks.length - s'.position < s.chunks.length - s.position := by
  simp only [next, Operation.outcome, Operation.of, ExceptT.run, ExceptT.mk, StateT.run] at h
  split at h
  · rename_i chunk hc
    have hlt : s.position < s.chunks.length := by
      rw [List.getElem?_eq_some_iff] at hc
      exact hc.1
    simp only [Prod.mk.injEq] at h
    rw [← h.2]
    simp only
    omega
  · simp at h

end ReplayableStream

instance : ByteStream ReplayableStream where
  length? s := some s.chunks.flatten.length
  replayable _ := true
  next := ReplayableStream.next
  rewind := ReplayableStream.rewind
  left s := s.chunks.length - s.position
  left_lt := ReplayableStream.left_lt

/-! ### Read once -/

/-- A stream that is read once, such as a pipe. -/
structure OneShotStream where
  /-- The chunks that have not been read. -/
  chunks : List Bytes
deriving DecidableEq, Repr

namespace OneShotStream

/-- The next chunk. -/
def next : Operation OneShotStream (Option Bytes) := Operation.of fun s =>
  match s.chunks with
  | chunk :: rest => (.ok (some chunk), ⟨rest⟩)
  | [] => (.ok none, s)

/-- There is no way back. -/
def rewind : Operation OneShotStream Unit := Operation.fail (.signing .streamNotRewindable)

theorem left_lt (s : OneShotStream) (c : Bytes) (s' : OneShotStream)
    (h : next.outcome s = (.ok (some c), s')) : s'.chunks.length < s.chunks.length := by
  simp only [next, Operation.outcome, Operation.of, ExceptT.run, ExceptT.mk, StateT.run] at h
  split at h
  · rename_i chunk rest hc
    simp only [Prod.mk.injEq] at h
    rw [← h.2, hc]
    simp
  · simp at h

end OneShotStream

instance : ByteStream OneShotStream where
  length? _ := none
  replayable _ := false
  next := OneShotStream.next
  rewind := OneShotStream.rewind
  left s := s.chunks.length
  left_lt := OneShotStream.left_lt

/-! ### With faults -/

/-- A stream in memory that fails: at its end, when it is rewound, or both. -/
structure FaultyStream where
  inner : ReplayableStream
  /-- How reading fails at the end. -/
  readFault : Option Error := none
  /-- How rewinding fails. -/
  rewindFault : Option Error := none

namespace FaultyStream

/-- The next chunk, if there is one. -/
def next : Operation FaultyStream (Option Bytes) := Operation.of fun s =>
  match ReplayableStream.next.outcome s.inner, s.readFault with
  | (.ok none, inner), some e => (.error e, { s with inner })
  | (result, inner), _ => (result, { s with inner })

/-- Back to the first chunk, unless that fails. -/
def rewind : Operation FaultyStream Unit := Operation.of fun s =>
  match s.rewindFault with
  | some e => (.error e, s)
  | none => (.ok (), { s with inner := { s.inner with position := 0 } })

theorem left_lt (s : FaultyStream) (c : Bytes) (s' : FaultyStream)
    (h : next.outcome s = (.ok (some c), s')) :
    ByteStream.left s'.inner < ByteStream.left s.inner := by
  have hs : ReplayableStream.next.outcome s.inner = (.ok (some c), s'.inner) := by
    simp only [next, Operation.outcome, Operation.of, ExceptT.run, ExceptT.mk, StateT.run] at h ⊢
    split at h
    · simp at h
    · rename_i heq _
      simp only [Prod.mk.injEq] at h
      rw [heq, h.1, ← h.2]
  exact ReplayableStream.left_lt _ _ _ hs

end FaultyStream

instance : ByteStream FaultyStream where
  length? s := ByteStream.length? s.inner
  replayable _ := true
  next := FaultyStream.next
  rewind := FaultyStream.rewind
  left s := ByteStream.left s.inner
  left_lt := FaultyStream.left_lt

/-! ### One of two kinds -/

namespace ByteStream

variable {σ τ : Type} [ByteStream σ] [ByteStream τ]

/-- An operation of a stream of one of two kinds. -/
def either (left : Operation σ α) (right : Operation τ α) : Operation (σ ⊕ τ) α :=
  Operation.of fun
    | .inl s => (left.outcome s).map id .inl
    | .inr s => (right.outcome s).map id .inr

/-- How many chunks may still follow in a stream of one of two kinds. -/
def eitherLeft : σ ⊕ τ → Nat
  | .inl s => left s
  | .inr s => left s

theorem either_left_lt (s : σ ⊕ τ) (c : Bytes) (s' : σ ⊕ τ)
    (h : (either (next (σ := σ)) (next (σ := τ))).outcome s = (.ok (some c), s')) :
    eitherLeft s' < eitherLeft s := by
  cases s with
  | inl s =>
    simp only [either, Operation.outcome, Operation.of, ExceptT.run, ExceptT.mk, StateT.run,
      Prod.map, id, Prod.mk.injEq] at h
    rw [← h.2]
    exact left_lt s c _ (Prod.ext h.1 rfl)
  | inr s =>
    simp only [either, Operation.outcome, Operation.of, ExceptT.run, ExceptT.mk, StateT.run,
      Prod.map, id, Prod.mk.injEq] at h
    rw [← h.2]
    exact left_lt s c _ (Prod.ext h.1 rfl)

instance : ByteStream (σ ⊕ τ) where
  length?
    | .inl s => length? s
    | .inr s => length? s
  replayable
    | .inl s => replayable s
    | .inr s => replayable s
  next := either next next
  rewind := either rewind rewind
  left := eitherLeft
  left_lt := either_left_lt

end ByteStream

end AwsSigning
