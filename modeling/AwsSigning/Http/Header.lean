/-
AwsSigning/Http/Header.lean

Header fields of requests.

A name is written in small letters and holds token characters only; a value
holds any bytes but controls, and may be marked as sensitive.  Both types
carry the proof of that, so a colon, a semicolon or a line feed can never
come out of a name, and no line feed out of a value.

The fields of a request are a list in order of arrival.  Several fields may
have one name; `set` leaves one field of a name, `append` adds another.

Two values are the same to a signature when they differ in spaces only at
the ends or in the length of inner runs; `HeaderValue.normalize` gives the
shortest such value.  `HeaderValue.collapsed` works it out from the bytes:
what is left of them is read as a value again, which never fails
(`HeaderValue.collapsed_eq`).
-/
import AwsSigning.Error

namespace AwsSigning

/-! ### Token characters -/

/-- A character that may stand in a method or in a header name. -/
def isTokenChar (c : Char) : Bool :=
  c.isAlphanum || "!#$%&'*+-.^_\x60|~".toList.contains c

/-- A character of a header name: a token character, in its small form. -/
def isNameChar (c : Char) : Bool := isTokenChar c && !c.isUpper

/-! ### Names -/

/-- The name of a header field. -/
structure HeaderName where
  /-- The name, in small letters. -/
  text : String
  /-- It holds nothing but token characters in their small form. -/
  legal : text.toList.all isNameChar = true
deriving DecidableEq

namespace HeaderName

/-- The longest name there may be. -/
def maxLength : Nat := 65535

/-- The name spelled by a text in letters of either kind. -/
def ofString (s : String) : Except Error HeaderName :=
  let text := String.ofList (s.toList.map Char.toLower)
  if h : text.toList.all isNameChar = true then
    if s.toList = [] ∨ s.utf8ByteSize > maxLength then .error (.http .headerName)
    else .ok ⟨text, h⟩
  else .error (.http .headerName)

/-- Names are ordered by their characters. -/
def atMost (a b : HeaderName) : Bool := decide (a.text ≤ b.text)

def authorization : HeaderName := ⟨"authorization", by decide⟩
def contentLength : HeaderName := ⟨"content-length", by decide⟩
def expect : HeaderName := ⟨"expect", by decide⟩
def host : HeaderName := ⟨"host", by decide⟩
def userAgent : HeaderName := ⟨"user-agent", by decide⟩
def amzContentSha256 : HeaderName := ⟨"x-amz-content-sha256", by decide⟩
def amzDate : HeaderName := ⟨"x-amz-date", by decide⟩
def amzSecurityToken : HeaderName := ⟨"x-amz-security-token", by decide⟩
def amznTraceId : HeaderName := ⟨"x-amzn-trace-id", by decide⟩
def metadataToken : HeaderName := ⟨"x-aws-ec2-metadata-token", by decide⟩
def metadataTokenTtl : HeaderName := ⟨"x-aws-ec2-metadata-token-ttl-seconds", by decide⟩

end HeaderName

/-! ### Values -/

/-- A byte that may stand in a header value: anything but a control, and the tab. -/
def isValueByte (b : UInt8) : Bool := b = 0x09 || (0x20 ≤ b && b ≠ 0x7F)

/-- A byte that reads as text: tab, space and visible ASCII. -/
def isTextByte (b : UInt8) : Bool := b = 0x09 || (0x20 ≤ b && b < 0x7F)

/-- The value of a header field. -/
structure HeaderValue where
  /-- The value. -/
  bytes : Bytes
  /-- The value must not be shown. -/
  sensitive : Bool
  /-- It holds no control but the tab. -/
  legal : bytes.all isValueByte = true
deriving DecidableEq

/-- Where a run of bytes stands with respect to spaces. -/
inductive Gap where
  /-- Nothing but spaces so far. -/
  | leading
  /-- Right after a byte that is kept. -/
  | closed
  /-- After at least one space that is owed if another byte follows. -/
  | owed
deriving DecidableEq, Repr

/-- Bytes without spaces at the ends and with single spaces inside. -/
def collapseSpaces : Gap → Bytes → Bytes
  | _, [] => []
  | gap, b :: rest =>
    if b = 0x20 then collapseSpaces (if gap = .leading then .leading else .owed) rest
    else if gap = .owed then 0x20 :: b :: collapseSpaces .closed rest
    else b :: collapseSpaces .closed rest

theorem all_collapseSpaces (gap : Gap) (bytes : Bytes) (h : bytes.all isValueByte = true) :
    (collapseSpaces gap bytes).all isValueByte = true := by
  induction bytes generalizing gap with
  | nil => rfl
  | cons b rest ih =>
    simp only [List.all_cons, Bool.and_eq_true] at h
    unfold collapseSpaces
    split
    · exact ih _ h.2
    · split
      · simp only [List.all_cons, Bool.and_eq_true]
        exact ⟨by decide, h.1, ih _ h.2⟩
      · simp only [List.all_cons, Bool.and_eq_true]
        exact ⟨h.1, ih _ h.2⟩

namespace HeaderValue

/-- The value that holds some bytes. -/
def ofBytes (bytes : Bytes) : Except Error HeaderValue :=
  if h : bytes.all isValueByte = true then .ok ⟨bytes, false, h⟩ else .error (.http .headerValue)

/-- The value that holds a text. -/
def ofString (s : String) : Except Error HeaderValue := ofBytes (Utf8.ofString s)

/-- The value, marked as one that must not be shown. -/
def secret (v : HeaderValue) : HeaderValue := { v with sensitive := true }

/-- The value as text, if it holds nothing but visible ASCII, spaces and tabs. -/
def text? (v : HeaderValue) : Option String :=
  if v.bytes.all isTextByte then some (String.ofList (v.bytes.map fun b => Char.ofNat b.toNat))
  else none

/-- The value as text. -/
def text (v : HeaderValue) : Except Error String :=
  match v.text? with
  | some s => .ok s
  | none => .error (.http .headerText)

/-- The value without spaces at the ends and with single spaces inside. -/
def normalize (v : HeaderValue) : HeaderValue where
  bytes := collapseSpaces .leading v.bytes
  sensitive := v.sensitive
  legal := all_collapseSpaces _ _ v.legal

/-- The value that the bytes of a value make up once their spaces are collapsed.  They are read as
any other bytes are, and what must not be shown stays so. -/
def collapsed (v : HeaderValue) : Except Error HeaderValue := do
  let left ← ofBytes (collapseSpaces .leading v.bytes)
  pure { left with sensitive := v.sensitive }

/-- **Collapsing spaces never fails**: it drops bytes of a value and writes spaces. -/
theorem collapsed_eq (v : HeaderValue) : v.collapsed = .ok v.normalize := by
  rw [collapsed, ofBytes, dif_pos (all_collapseSpaces _ _ v.legal)]
  rfl

end HeaderValue

/-! ### Fields -/

/-- The header fields of a request, in order of arrival. -/
abbrev Headers := List (HeaderName × HeaderValue)

namespace Headers

/-- The values under a name, in order of arrival. -/
def values (hs : Headers) (name : HeaderName) : List HeaderValue :=
  (hs.filter (·.1 = name)).map (·.2)

/-- Whether there is a field of a name. -/
def has (hs : Headers) (name : HeaderName) : Bool := hs.any (·.1 = name)

/-- The fields without those of a name. -/
def remove (hs : Headers) (name : HeaderName) : Headers := hs.filter (·.1 ≠ name)

/-- The fields with one more. -/
def append (hs : Headers) (name : HeaderName) (value : HeaderValue) : Headers :=
  hs ++ [(name, value)]

/-- The fields with one value under a name in place of all earlier ones. -/
def set (hs : Headers) (name : HeaderName) (value : HeaderValue) : Headers :=
  (hs.remove name).append name value

/-- The fields with normalized values. -/
def normalize (hs : Headers) : Headers := hs.map fun (name, value) => (name, value.normalize)

/-- The fields with collapsed values. -/
def collapsed (hs : Headers) : Except Error Headers :=
  hs.mapM fun (name, value) => do pure (name, ← value.collapsed)

theorem collapsed_eq (hs : Headers) : hs.collapsed = .ok hs.normalize := by
  simp only [collapsed, HeaderValue.collapsed_eq]
  exact List.mapM_pure

/-- Each name once, in order. -/
def names (hs : Headers) : List HeaderName := (hs.map (·.1)).eraseDups.mergeSort HeaderName.atMost

end Headers

end AwsSigning
