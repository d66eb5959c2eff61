/-
AwsSigning/Proofs/Signing/Streaming.lean

A stream in memory is signed like its bytes.

A payload can be handed to a middleware as the bytes that it is, or as a
stream that has not been read and brings them in chunks.  The chunks may be
cut anywhere, and some or all of them may be empty.  The middleware cannot
tell the two apart (`sign_streaming`):

    sign (desk with a stream of chunks)
      = sign (desk with chunks.flatten), with the stream in place of the bytes

The two signings are followed side by side.  What relates them is that one
desk has the stream, at its first byte, where the other has the bytes
(`Desk.Streams`).  Every step keeps this, those that look at the payload
because the digest of the unread chunks is that of the bytes.  So the stream
is at its first byte in the end, and it is there after a failure as well.
-/
import AwsSigning.Proofs.Lockstep
import AwsSigning.Proofs.Payload.Reading
import AwsSigning.Signing.Middleware

namespace AwsSigning

open Operation

/-! ### Payloads -/

namespace Payload

/-- A stream of some chunks that has not been read, and the bytes that it brings. -/
def Streams (chunks : List Bytes) (p q : Payload ReplayableStream) : Prop :=
  p = .stream ⟨chunks, 0⟩ ∧ q = .bytes chunks.flatten

variable {chunks : List Bytes}

/-- Both have the same digest, and taking it leaves the stream at its first byte. -/
theorem lockstep_hexDigest : Lockstep (Streams chunks) Eq hexDigest hexDigest := by
  rintro _ _ ⟨rfl, rfl⟩
  rw [outcome_hexDigest_replayable]
  exact ⟨.ok rfl, rfl, rfl⟩

/-- A stream that has not been read stays where it is. -/
theorem lockstep_rewind : Lockstep (Streams chunks) Eq rewind rewind := by
  rintro _ _ ⟨rfl, rfl⟩
  exact ⟨.ok rfl, rfl, rfl⟩

/-- Neither is missing. -/
theorem Streams.isEmpty_eq {p q : Payload ReplayableStream} (h : Streams chunks p q) :
    p.isEmpty = q.isEmpty := by
  obtain ⟨rfl, rfl⟩ := h
  rfl

/-- Either can be read twice. -/
theorem Streams.isUnbounded_eq {p q : Payload ReplayableStream} (h : Streams chunks p q) :
    p.isUnbounded = q.isUnbounded := by
  obtain ⟨rfl, rfl⟩ := h
  rfl

end Payload

/-! ### Desks -/

namespace Signing

variable {π : Type} {chunks : List Bytes}

/-- A stream of chunks that has not been read is the payload. -/
def Desk.streaming (desk : Desk π ReplayableStream) (chunks : List Bytes) :
    Desk π ReplayableStream :=
  { desk with payload := .stream ⟨chunks, 0⟩ }

/-- The bytes are the payload. -/
def Desk.holding (desk : Desk π ReplayableStream) (bytes : Bytes) : Desk π ReplayableStream :=
  { desk with payload := .bytes bytes }

/-- Desks that differ in nothing but how they hold the payload. -/
structure Desk.Streams (chunks : List Bytes) (s t : Desk π ReplayableStream) : Prop where
  provider : s.provider = t.provider
  platform : s.platform = t.platform
  request : s.request = t.request
  payload : Payload.Streams chunks s.payload t.payload
  context : s.context = t.context
  working : s.working = t.working

namespace Desk

theorem streams_streaming (desk : Desk π ReplayableStream) (chunks : List Bytes) :
    Streams chunks (desk.streaming chunks) (desk.holding chunks.flatten) where
  provider := rfl
  platform := rfl
  request := rfl
  payload := ⟨rfl, rfl⟩
  context := rfl
  working := rfl

/-- One of the two desks says what the other is. -/
theorem Streams.eq_streaming {s t : Desk π ReplayableStream} (h : Streams chunks s t) :
    s = t.streaming chunks := by
  obtain ⟨provider, platform, request, ⟨hstream, -⟩, context, working⟩ := h
  cases s
  simp_all [streaming]

variable {α : Type}

/-- What is asked of the provider does not depend on the payload. -/
theorem lockstep_onProvider (op : Operation (π × Platform) α) :
    Lockstep (Streams chunks) Eq (onProvider op) (onProvider op) := by
  refine (Lockstep.self op).focus ?_ ?_
  · intro s t h
    exact Prod.ext h.provider h.platform
  · rintro s t part _ h rfl
    exact { h with provider := rfl, platform := rfl }

/-- Neither does what is done to the request. -/
theorem lockstep_onBench (op : Operation Bench α) :
    Lockstep (Streams (π := π) chunks) Eq (onBench op) (onBench op) := by
  refine (Lockstep.self op).focus ?_ ?_
  · intro s t h
    rw [h.request, h.working]
  · rintro s t bench _ h rfl
    exact { h with request := rfl, working := rfl }

/-- An operation that cannot tell the payloads apart cannot tell the desks apart. -/
theorem lockstep_onPayload {op : Operation (Payload ReplayableStream) α}
    (h : Lockstep (Payload.Streams chunks) Eq op op) :
    Lockstep (Streams (π := π) chunks) Eq (onPayload op) (onPayload op) :=
  h.focus (fun _ _ hst => hst.payload) fun _ _ _ _ hst hpayload => { hst with payload := hpayload }

end Desk

/-! ### The steps -/

namespace Middleware

open Desk

theorem lockstep_credential [Source π Credential] :
    Lockstep (Streams (π := π) chunks) Eq credential credential := by
  refine (lockstep_onProvider Source.ask).bind_same fun found => ?_
  rcases found with - | given
  · exact .ofExcept_self (.error _)
  · -- the clock is one and the same on both desks
    refine Lockstep.get.bind fun s t hst => ?_
    rw [hst.platform]
    split
    · exact .pure rfl
    · exact .ofExcept_self (.error _)

/-- In place of a stream is signed what is signed in place of its bytes. -/
theorem lockstep_payloadValue : Lockstep (Streams (π := π) chunks) Eq payloadValue payloadValue := by
  refine Lockstep.get.bind fun s t hst => ?_
  rw [hst.context, hst.payload.isEmpty_eq, hst.payload.isUnbounded_eq]
  split
  · exact .pure rfl
  · split
    · exact .pure rfl
    · split
      · exact .pure rfl
      · -- neither can be unbounded, but both would be warned about alike
        split
        · refine Lockstep.bind_same (.modify fun s t hst => ?_) fun _ => .pure rfl
          exact { hst with platform := congrArg (·.warn unboundedWarning) hst.platform }
        · exact (lockstep_onPayload Payload.lockstep_hexDigest).map fun _ _ => congrArg _

theorem lockstep_sign [Source π Credential] (base : Draft) :
    Lockstep (Streams (π := π) chunks) Eq (sign base) (sign base) := by
  refine Lockstep.get.bind fun s t hst => ?_
  -- what is read from the desk at the start is not the payload
  rw [hst.context, hst.platform]
  refine lockstep_credential.bind_same fun given => ?_
  refine lockstep_payloadValue.bind_same fun value => ?_
  refine (Lockstep.ofExcept_self _).bind_same fun config => ?_
  refine (lockstep_onBench (Signing.sign config)).bind_same fun made => ?_
  refine Lockstep.bind_same (.modify fun s t hst => ?_) fun _ =>
    lockstep_onPayload Payload.lockstep_rewind
  exact { hst with context := congrArg (fun c => { c with signature := some made }) hst.context }

/-- **A stream is signed like its bytes**, wherever they are cut into chunks: the signing ends in the
same way and leaves the same desk, but for the payload, which is the stream at its first byte. -/
theorem sign_streaming [Source π Credential] (base : Draft) (desk : Desk π ReplayableStream)
    (chunks : List Bytes) :
    (sign base).outcome (desk.streaming chunks) =
      (((sign base).outcome (desk.holding chunks.flatten)).1,
        ((sign base).outcome (desk.holding chunks.flatten)).2.streaming chunks) := by
  obtain ⟨hend, hafter⟩ := lockstep_sign base _ _ (streams_streaming desk chunks)
  exact Prod.ext hend.eq hafter.eq_streaming

end Middleware

end Signing

end AwsSigning
