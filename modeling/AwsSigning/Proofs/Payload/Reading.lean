/-
AwsSigning/Proofs/Payload/Reading.lean

What is still to come out of a stream.

Whoever sends a payload reads its stream chunk by chunk, from where it stands
to its end (`readRest`).  The digest of a payload is taken by a loop of the
same shape, so it is the digest of what `readRest` would have given at that
point (`hashRest_eq`), and of nothing that was read before:

    hexDigest (stream s)  =  SHA-256 of what is left in s

A stream in memory is back at its first byte afterwards
(`outcome_hexDigest_replayable`), so the next to read it gets every chunk,
whatever was read before.
-/
import AwsSigning.Payload
import AwsSigning.Proofs.Digest
import AwsSigning.Proofs.Operation

namespace AwsSigning

/-! ### Reading to the end -/

namespace ByteStream

variable {σ : Type} [ByteStream σ]

/-- Every chunk from here to the end, or why they cannot all be read. -/
def readRest (s : σ) : Except Error (List Bytes) × σ :=
  match _h : (next (σ := σ)).outcome s with
  | (.ok (some chunk), s') => ((readRest s').1.map (chunk :: ·), (readRest s').2)
  | (.ok none, s') => (.ok [], s')
  | (.error e, s') => (.error e, s')
termination_by left s
decreasing_by all_goals exact left_lt _ _ _ _h

variable {s s' : σ} {chunk : Bytes} {e : Error}

theorem readRest_of_some (h : next.outcome s = (.ok (some chunk), s')) :
    readRest s = ((readRest s').1.map (chunk :: ·), (readRest s').2) := by
  rw [readRest]
  split
  · next h' =>
    cases h.symm.trans h'
    rfl
  · next h' => cases h.symm.trans h'
  · next h' => cases h.symm.trans h'

theorem readRest_of_none (h : next.outcome s = (.ok none, s')) : readRest s = (.ok [], s') := by
  rw [readRest]
  split
  · next h' => cases h.symm.trans h'
  · next h' =>
    cases h.symm.trans h'
    rfl
  · next h' => cases h.symm.trans h'

theorem readRest_of_error (h : next.outcome s = (.error e, s')) :
    readRest s = (.error e, s') := by
  rw [readRest]
  split
  · next h' => cases h.symm.trans h'
  · next h' => cases h.symm.trans h'
  · next h' =>
    cases h.symm.trans h'
    rfl

/-! ### Calls in any order -/

/-- A call to a stream. -/
inductive Call where
  /-- For the next chunk. -/
  | next
  /-- To go back to the first byte. -/
  | rewind
deriving DecidableEq, Repr

/-- The stream after a call, whatever came of it. -/
def called (s : σ) : Call → σ
  | .next => (next.outcome s).2
  | .rewind => (rewind.outcome s).2

/-- The stream after some calls. -/
def after (s : σ) (calls : List Call) : σ := calls.foldl called s

end ByteStream

/-! ### Hashing -/

open ByteStream

/-- **The hasher is given what is left of the stream**, and fails where reading fails. -/
theorem hashRest_eq {σ : Type} [ByteStream σ] (s : σ) (hasher : Sha256.Hasher) :
    hashRest s hasher
      = ((readRest s).1.map fun chunks => ⟨hasher.message ++ chunks.flatten⟩, (readRest s).2) := by
  fun_induction hashRest s hasher with
  | case1 s hasher chunk s' h ih =>
    rw [readRest_of_some h, ih]
    rcases (readRest s').1 with e | chunks
    · rfl
    · simp [Except.map, Sha256.Hasher.update]
  | case2 s hasher s' h =>
    rw [readRest_of_none h]
    simp [Except.map]
  | case3 s hasher e s' h =>
    rw [readRest_of_error h]
    rfl

/-! ### Streams in memory -/

namespace ReplayableStream

/-- The chunks that have not been read. -/
def unread (s : ReplayableStream) : List Bytes := s.chunks.drop s.position

/-- A chunk is read, or the end has been reached. -/
theorem outcome_next (s : ReplayableStream) :
    (ByteStream.next.outcome s = (.ok none, s) ∧ s.unread = []) ∨
      ∃ chunk, ByteStream.next.outcome s = (.ok (some chunk), { s with position := s.position + 1 }) ∧
        s.unread = chunk :: { s with position := s.position + 1 : ReplayableStream }.unread := by
  show (ReplayableStream.next.outcome s = _ ∧ _) ∨ ∃ _, ReplayableStream.next.outcome s = _ ∧ _
  rw [next, Operation.outcome_of]
  rcases h : s.chunks[s.position]? with - | chunk
  · exact .inl ⟨rfl, List.drop_eq_nil_iff.mpr (List.getElem?_eq_none_iff.mp h)⟩
  · obtain ⟨hlt, hchunk⟩ := List.getElem?_eq_some_iff.mp h
    refine .inr ⟨chunk, rfl, ?_⟩
    rw [unread, List.drop_eq_getElem_cons hlt, hchunk]
    rfl

@[simp] theorem outcome_rewind (s : ReplayableStream) :
    ByteStream.rewind.outcome s = (.ok (), { s with position := 0 }) := rfl

/-- **Reading to the end gives all that has not been read**, and keeps all chunks. -/
theorem readRest_eq (s : ReplayableStream) :
    (readRest s).1 = .ok s.unread ∧ (readRest s).2.chunks = s.chunks := by
  induction s using readRest.induct with
  | case1 s chunk s' h ih =>
    rcases s.outcome_next with ⟨hend, -⟩ | ⟨chunk', hnext, hunread⟩
    · cases h.symm.trans hend
    · cases h.symm.trans hnext
      rw [readRest_of_some h, hunread, ih.1]
      exact ⟨rfl, ih.2⟩
  | case2 s s' h =>
    rcases s.outcome_next with ⟨hend, hunread⟩ | ⟨chunk', hnext, -⟩
    · cases h.symm.trans hend
      rw [readRest_of_none h, hunread]
      exact ⟨rfl, rfl⟩
    · cases h.symm.trans hnext
  | case3 s e s' h =>
    rcases s.outcome_next with ⟨hend, -⟩ | ⟨chunk', hnext, -⟩
    · cases h.symm.trans hend
    · cases h.symm.trans hnext

/-- No call changes the chunks. -/
theorem chunks_called (s : ReplayableStream) (call : Call) : (called s call).chunks = s.chunks := by
  cases call with
  | next =>
    rcases s.outcome_next with ⟨hend, -⟩ | ⟨chunk, hnext, -⟩
    · rw [called, hend]
    · rw [called, hnext]
  | rewind => rfl

theorem chunks_after (s : ReplayableStream) (calls : List Call) :
    (after s calls).chunks = s.chunks := by
  induction calls generalizing s with
  | nil => rfl
  | cons call calls ih => exact (ih (called s call)).trans (s.chunks_called call)

/-- A stream of some chunks after some calls. -/
def used (chunks : List Bytes) (calls : List Call) : ReplayableStream := after ⟨chunks, 0⟩ calls

@[simp] theorem chunks_used (chunks : List Bytes) (calls : List Call) :
    (used chunks calls).chunks = chunks :=
  chunks_after _ calls

end ReplayableStream

/-! ### Digests of payloads -/

namespace Payload

/-- The digest of a stream that can be read twice is that of all that is left in it; then the
stream goes back. -/
theorem outcome_hexDigest_stream {σ : Type} [ByteStream σ] {s : σ} (h : replayable s = true) :
    hexDigest.outcome (stream s) =
      match readRest s with
      | (.ok chunks, s') =>
        ((ByteStream.rewind.outcome s').1.map fun _ => Sha256.hexDigest chunks.flatten,
          stream (ByteStream.rewind.outcome s').2)
      | (.error e, s') => (.error e, stream s') := by
  rw [hexDigest, Operation.outcome_of]
  dsimp only
  rw [if_pos h, hashRest_eq]
  rcases readRest s with ⟨e | chunks, s'⟩ <;> rfl

/-- All that comes out of a payload when it is read from where it stands. -/
def content {σ : Type} [ByteStream σ] : Payload σ → Except Error Bytes
  | empty => .ok []
  | bytes content => .ok content
  | stream s => (readRest s).1.map List.flatten

/-- **A digest that is taken is that of the content**, from where the payload stands. -/
theorem exists_content_of_hexDigest {σ : Type} [ByteStream σ] {payload later : Payload σ}
    {digest : String} (h : hexDigest.outcome payload = (.ok digest, later)) :
    ∃ content, payload.content = .ok content ∧ digest = Sha256.hexDigest content := by
  rcases payload with - | bytes | s
  · cases h
    exact ⟨[], rfl, Sha256.hexDigest_nil.symm⟩
  · cases h
    exact ⟨bytes, rfl, rfl⟩
  · by_cases hreplayable : replayable s = true
    · rw [outcome_hexDigest_stream hreplayable] at h
      rcases hrest : readRest s with ⟨e | chunks, s'⟩
      · rw [hrest] at h
        cases h
      · rw [hrest] at h
        refine ⟨chunks.flatten, by rw [content, hrest]; rfl, ?_⟩
        -- the digest is lost if the stream cannot go back
        dsimp only at h
        rcases hback : (ByteStream.rewind.outcome s').1 with e | ⟨⟩
        · rw [hback] at h
          cases h
        · rw [hback] at h
          cases h
          rfl
    · rw [hexDigest, Operation.outcome_of] at h
      dsimp only at h
      rw [if_neg hreplayable] at h
      cases h

/-- **The digest of a stream in memory is that of its unread chunks**, and the stream is back at its
first byte. -/
theorem outcome_hexDigest_replayable (s : ReplayableStream) :
    hexDigest.outcome (stream s)
      = (.ok (Sha256.hexDigest s.unread.flatten), stream { s with position := 0 }) := by
  rw [outcome_hexDigest_stream (s := s) rfl]
  obtain ⟨hchunks, hkept⟩ := s.readRest_eq
  rcases h : readRest s with ⟨result, s'⟩
  rw [h] at hchunks hkept
  cases hchunks
  dsimp only
  rw [ReplayableStream.outcome_rewind, hkept]
  rfl

end Payload

end AwsSigning
