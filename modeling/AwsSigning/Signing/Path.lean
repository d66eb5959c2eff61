/-
AwsSigning/Signing/Path.lean

The form of a path that is signed.

Two decisions are made about a path.  Its dot segments may be taken out
first, along with empty segments.  Then it is percent-encoded: either as it
is, which encodes its escapes a second time, or after its escapes have been
read, which leaves one canonical escape for each.  The second way needs the
escapes to spell text.
-/
import AwsSigning.Signing.Config
import AwsSigning.Text.Percent

namespace AwsSigning.Signing

/-! ### Dot segments -/

/-- What has been seen of a path. -/
structure Walk where
  /-- The segments that are kept, the last one first. -/
  kept : List (List Char)
  /-- The path seen so far ends in a slash. -/
  slash : Bool
deriving DecidableEq, Repr

/-- One more segment: `.` stays in place, `..` goes up, and any other goes down. -/
def Walk.step (w : Walk) (segment : List Char) : Walk :=
  if segment = ['.'] then ⟨w.kept, true⟩
  else if segment = ['.', '.'] then ⟨w.kept.tail, true⟩
  else ⟨segment :: w.kept, false⟩

/-- The segments of a path that are not empty. -/
def segments (path : List Char) : List (List Char) :=
  (Text.splitWhen (· = '/') path).filter (· ≠ [])

/-- The path without empty segments and dot segments; a slash at its end is kept. -/
def removeDotSegments (path : List Char) : List Char :=
  let endsInSlash := path.getLast? = some '/'
  let walk := (segments path).foldl Walk.step ⟨[], endsInSlash⟩
  let text := walk.kept.reverse.flatMap ('/' :: ·)
  if walk.slash || endsInSlash || text = [] then text ++ ['/'] else text

/-! ### The canonical path -/

/-- The path after its dot segments have been taken out, if they are to be. -/
def plainPath (m : Manner) (path : String) : String :=
  if m.normalizePath then String.ofList (removeDotSegments path.toList) else path

/-- A path with its escapes read. -/
def decodePath (path : String) : Except Error Bytes :=
  let bytes := Percent.decode (Utf8.ofString path)
  match Utf8.decode? bytes with
  | some _ => .ok bytes
  | none => .error ((Error.signing .pathNotUtf8).causedOutside.within ("path: " ++ path))

/-- The form of a path that is signed. -/
def canonicalPath (m : Manner) (path : String) : Except Error String :=
  let path := plainPath m path
  if m.encodeTwice then .ok (Percent.encodeString Percent.isPathByte path)
  else (decodePath path).map fun bytes =>
    String.ofList (Percent.encode Percent.isPathByte bytes)

end AwsSigning.Signing
