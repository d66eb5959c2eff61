/-
AwsSigning/Http/Query.lean

Queries as lists of names and values.

A query is read as a form: pieces between `&`, each split at its first `=`,
where `+` is a space and percent-escapes stand for bytes; empty pieces are
skipped.  It is written back without any encoding of its own, and a pair
whose value is empty is written as its bare name.
-/
import AwsSigning.Text.Percent

namespace AwsSigning

/-- Names and values in order. -/
abbrev Query := List (String × String)

namespace Query

/-! ### Reading -/

/-- The pieces of some bytes between occurrences of a mark; there is always at least one. -/
def splitAt (mark : UInt8) : Bytes → List Bytes
  | [] => [[]]
  | b :: rest =>
    if b = mark then [] :: splitAt mark rest
    else match splitAt mark rest with
      | [] => [[b]]
      | piece :: pieces => (b :: piece) :: pieces

/-- The bytes before the first mark and those after it; without a mark, all of them and none. -/
def cutAt (mark : UInt8) : Bytes → Bytes × Bytes
  | [] => ([], [])
  | b :: rest =>
    if b = mark then ([], rest)
    else
      let (before, after) := cutAt mark rest
      (b :: before, after)

/-- One name or value of a form. -/
def decodePart (bytes : Bytes) : Bytes :=
  Percent.decode (bytes.map fun b => if b = 0x2B then 0x20 else b)

/-- The pairs of a form, as bytes. -/
def decodeBytes (form : Bytes) : List (Bytes × Bytes) :=
  ((splitAt 0x26 form).filter (· ≠ [])).map fun piece =>
    let (name, value) := cutAt 0x3D piece
    (decodePart name, decodePart value)

/-- The pairs of a form; what is no text becomes U+FFFD. -/
def decode (form : String) : Query :=
  (decodeBytes (Utf8.ofString form)).map fun (name, value) =>
    (Utf8.toStringLossy name, Utf8.toStringLossy value)

/-! ### Writing -/

/-- One pair written. -/
def renderPair (separator : String) (pair : String × String) : String :=
  if pair.2 = "" then pair.1 else pair.1 ++ separator ++ pair.2

/-- Pairs written in their order. -/
def render (query : Query) (separator joiner : String) : String :=
  joiner.intercalate (query.map (renderPair separator))

end Query

end AwsSigning
