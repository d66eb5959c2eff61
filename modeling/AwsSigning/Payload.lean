/-
AwsSigning/Payload.lean

Payloads of requests: nothing, bytes held in memory, or a stream.

A stream is *replayable* if it can be read twice.  Only such a stream is ever
read to compute a digest, because the digest of any other would consume the
payload; after the digest it is rewound for whoever sends it.
-/
import AwsSigning.Payload.Stream

namespace AwsSigning

/-! ### Reading a stream to its end -/

/-- Every chunk from here to the end, given to a hasher; a failure to read ends the reading. -/
def hashRest [ByteStream σ] (s : σ) (hasher : Sha256.Hasher) :
    Except Error Sha256.Hasher × σ :=
  match _h : (ByteStream.next (σ := σ)).outcome s with
  | (.ok (some chunk), s') => hashRest s' (hasher.update chunk)
  | (.ok none, s') => (.ok hasher, s')
  | (.error e, s') => (.error e, s')
termination_by ByteStream.left s
decreasing_by exact ByteStream.left_lt _ _ _ _h

/-! ### Payloads -/

/-- The payload of a request. -/
inductive Payload (σ : Type) where
  /-- No payload at all. -/
  | empty
  /-- A payload held in memory. -/
  | bytes (bytes : Bytes)
  /-- A payload read chunk by chunk. -/
  | stream (stream : σ)

namespace Payload

variable {σ : Type}

/-- There is no payload at all. -/
def isEmpty : Payload σ → Bool
  | empty => true
  | _ => false

/-- A stream that cannot be read twice. -/
def isUnbounded [ByteStream σ] : Payload σ → Bool
  | stream s => !ByteStream.replayable s
  | _ => false

/-- An operation of the stream, if the payload is one. -/
def onStream (op : Operation σ α) : Operation (Payload σ) (Option α) := Operation.of fun payload =>
  match payload with
  | stream s =>
    let (result, s) := op.outcome s
    (result.map some, stream s)
  | other => (.ok none, other)

/-- The digest of the payload in hexadecimal.  A stream is read to its end and rewound. -/
def hexDigest [ByteStream σ] : Operation (Payload σ) String := Operation.of fun payload =>
  match payload with
  | empty => (.ok Sha256.hexDigestOfEmpty, empty)
  | bytes content => (.ok (Sha256.hexDigest content), bytes content)
  | stream s =>
    if ByteStream.replayable s then
      match hashRest s {} with
      | (.error e, s) => (.error e, stream s)
      | (.ok hasher, s) =>
        let (rewound, s) := ByteStream.rewind.outcome s
        (rewound.map fun _ => hasher.finish, stream s)
    else (.error (.signing .streamNotReplayable), stream s)

/-- A replayable stream is rewound; other payloads stay as they are. -/
def rewind [ByteStream σ] : Operation (Payload σ) Unit := Operation.of fun payload =>
  match payload with
  | stream s =>
    if ByteStream.replayable s then
      let (result, s) := ByteStream.rewind.outcome s
      (result, stream s)
    else (.ok (), stream s)
  | other => (.ok (), other)

end Payload

end AwsSigning
