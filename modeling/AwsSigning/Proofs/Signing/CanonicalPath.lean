/-
AwsSigning/Proofs/Signing/CanonicalPath.lean

Which paths are signed as one and the same path.

The form of a path that is signed depends on two choices.  A path is encoded as
it is, and then different paths have different forms; or its escapes are read
first, and then paths have one form if they read the same.  Both rest on one
fact, that encoding loses nothing (`encodeString_injective`): what is encoded
can be decoded again, and the bytes of a text are the bytes of no other.

A path whose escapes are read has a form only if they spell a text.  That is
all that can go wrong, since strict reading accepts all bytes of texts
(`canonicalPath_of_spells`, `canonicalPath_of_not_isText`).

Either way the form is spelled with characters that stand for themselves, with
slashes and with escapes in capital letters (`IsSpelled`).  To read its escapes
and to encode it again gives the form itself.
-/
import AwsSigning.Proofs.Signing.QueryContent
import AwsSigning.Proofs.Text.Percent
import AwsSigning.Proofs.Text.WellFormed
import AwsSigning.Signing.Path

namespace AwsSigning.Signing

variable {m : Manner} {path text : String}

/-! ### How a form is spelled -/

/-- Letters and digits of ASCII, and the marks that need no escape anywhere. -/
def isUnreservedChar (c : Char) : Bool :=
  c.isAlphanum || c = '-' || c = '.' || c = '_' || c = '~'

/-- Digits of escapes, in capital letters. -/
def isCapitalHex (c : Char) : Bool := c.isDigit || ('A' ≤ c && c ≤ 'F')

/-- Unreserved characters, slashes and escapes, one behind the other. -/
inductive IsSpelled : List Char → Prop
  | nil : IsSpelled []
  | unreserved {c : Char} {rest : List Char} (hc : isUnreservedChar c = true)
      (hrest : IsSpelled rest) : IsSpelled (c :: rest)
  | slash {rest : List Char} (hrest : IsSpelled rest) : IsSpelled ('/' :: rest)
  | escape {high low : Char} {rest : List Char} (hhigh : isCapitalHex high = true)
      (hlow : isCapitalHex low = true) (hrest : IsSpelled rest) :
      IsSpelled ('%' :: high :: low :: rest)

/-- One unreserved character, one slash or one escape. -/
def isSpelledByte : List Char → Bool
  | [c] => isUnreservedChar c || c = '/'
  | ['%', high, low] => isCapitalHex high && isCapitalHex low
  | _ => false

theorem isSpelledByte_encodeByte (b : UInt8) :
    isSpelledByte (Percent.encodeByte Percent.isPathByte b) = true :=
  Percent.forall_byte (P := fun b => isSpelledByte (Percent.encodeByte Percent.isPathByte b) = true)
    (by decide +kernel) b

theorem IsSpelled.append {byte rest : List Char} (h : isSpelledByte byte = true)
    (hrest : IsSpelled rest) : IsSpelled (byte ++ rest) := by
  unfold isSpelledByte at h
  split at h
  · next c =>
    rcases Bool.or_eq_true_iff.mp h with hc | hc
    · exact .unreserved hc hrest
    · obtain rfl := of_decide_eq_true hc
      exact .slash hrest
  · obtain ⟨hhigh, hlow⟩ := Bool.and_eq_true_iff.mp h
    exact .escape hhigh hlow hrest
  · cases h

/-- **Whatever is encoded is spelled that way.** -/
theorem isSpelled_encode (bytes : Bytes) :
    IsSpelled (Percent.encode Percent.isPathByte bytes) := by
  induction bytes with
  | nil => exact .nil
  | cons b bytes ih => exact .append (isSpelledByte_encodeByte b) ih

/-! ### Encoding loses nothing -/

theorem isPlain_isPathByte : Percent.IsPlain Percent.isPathByte :=
  Percent.forall_byte (by decide +kernel)

/-- What is encoded is decoded again. -/
theorem decode_encodeString (text : String) :
    Percent.decode (Utf8.ofString (Percent.encodeString Percent.isPathByte text))
      = Utf8.ofString text := by
  rw [Percent.encodeString, Utf8.ofString, String.toList_ofList,
    Percent.decode_encode isPlain_isPathByte]

/-- **Different texts are encoded differently.** -/
theorem encodeString_injective : Function.Injective (Percent.encodeString Percent.isPathByte) := by
  intro s t h
  apply Utf8.ofString_injective
  rw [← decode_encodeString s, ← decode_encodeString t, h]

/-! ### What is encoded -/

/-- The bytes that a path stands for when its escapes have been read. -/
def pathBytes (m : Manner) (path : String) : Bytes :=
  Percent.decode (Utf8.ofString (plainPath m path))

theorem canonicalPath_of_encodeTwice (h : m.encodeTwice = true) (path : String) :
    canonicalPath m path = .ok (Percent.encodeString Percent.isPathByte (plainPath m path)) := by
  rw [canonicalPath, if_pos h]

/-- A path whose escapes spell a text is signed as this text. -/
theorem canonicalPath_of_spells (h : m.encodeTwice = false)
    (htext : pathBytes m path = Utf8.ofString text) :
    canonicalPath m path = .ok (Percent.encodeString Percent.isPathByte text) := by
  have hread : Utf8.decode? (pathBytes m path) = some text.toList :=
    Utf8.decode?_eq_some_iff.mpr htext
  have hdecode : decodePath (plainPath m path) = .ok (Utf8.ofString text) := by
    rw [pathBytes] at hread htext
    rw [decodePath, hread, htext]
  rw [canonicalPath, if_neg (by simp [h]), hdecode]
  rfl

/-- If its escapes spell no text, it is not signed. -/
theorem canonicalPath_of_not_isText (h : m.encodeTwice = false)
    (htext : ¬Utf8.IsText (pathBytes m path)) :
    canonicalPath m path = .error
      ((Error.signing .pathNotUtf8).causedOutside.within ("path: " ++ plainPath m path)) := by
  have hread : Utf8.decode? (pathBytes m path) = none := by
    rw [Option.eq_none_iff_forall_not_mem]
    intro s hs
    refine htext ⟨String.ofList s, ?_⟩
    rw [Utf8.ofString, String.toList_ofList]
    exact Utf8.decode?_eq_some_iff.mp hs
  rw [pathBytes] at hread
  rw [canonicalPath, if_neg (by simp [h]), decodePath, hread]
  rfl

/-- What is signed is always some text, encoded. -/
theorem exists_encodeString_of_canonicalPath {form : String} (h : canonicalPath m path = .ok form) :
    ∃ text, form = Percent.encodeString Percent.isPathByte text := by
  rcases htwice : m.encodeTwice with - | -
  · by_cases htext : Utf8.IsText (pathBytes m path)
    · obtain ⟨text, htext⟩ := htext
      rw [canonicalPath_of_spells htwice htext] at h
      exact ⟨text, (Except.ok.inj h).symm⟩
    · rw [canonicalPath_of_not_isText htwice htext] at h
      cases h
  · rw [canonicalPath_of_encodeTwice htwice] at h
    exact ⟨_, (Except.ok.inj h).symm⟩

/-- **To read the escapes of a form and to encode it again changes nothing.** -/
theorem canonicalPath_of_form {m' : Manner} {form : String} (h : canonicalPath m path = .ok form)
    (hnormal : m'.normalizePath = false) (htwice : m'.encodeTwice = false) :
    canonicalPath m' form = .ok form := by
  obtain ⟨text, rfl⟩ := exists_encodeString_of_canonicalPath h
  apply canonicalPath_of_spells htwice
  rw [pathBytes, plainPath, if_neg (by simp [hnormal]), decode_encodeString]

/-! ### Which paths have one form -/

/-- **A form stands for what it was made from, and for nothing else.**  Encoding a path as it is
always gives a form, the same for no two paths.  Encoding what its escapes spell gives one if they
spell a text, the same for all paths whose escapes spell that text, and it leaves such a form as
it is.  Every form is spelled with unreserved characters, slashes and escapes. -/
theorem canonicalPath_identifies (m : Manner) (p q : String) :
    (m.encodeTwice = true → ∃ form form', canonicalPath m p = .ok form ∧
      canonicalPath m q = .ok form' ∧ (form = form' ↔ plainPath m p = plainPath m q)) ∧
    (m.encodeTwice = false →
      ((∃ e, canonicalPath m p = .error e) ↔ ¬Utf8.IsText (pathBytes m p)) ∧
      (∀ text text', pathBytes m p = Utf8.ofString text → pathBytes m q = Utf8.ofString text' →
        ∃ form form', canonicalPath m p = .ok form ∧ canonicalPath m q = .ok form' ∧
          (form = form' ↔ text = text')) ∧
      ∀ form, canonicalPath m p = .ok form →
        canonicalPath { m with normalizePath := false } form = .ok form) ∧
    ∀ form, canonicalPath m p = .ok form → IsSpelled form.toList := by
  refine ⟨fun htwice => ?_, fun htwice => ⟨⟨?_, fun htext => ?_⟩, ?_, fun form hform => ?_⟩,
    fun form hform => ?_⟩
  · exact ⟨_, _, canonicalPath_of_encodeTwice htwice p, canonicalPath_of_encodeTwice htwice q,
      encodeString_injective.eq_iff⟩
  · rintro ⟨e, he⟩ ⟨text, htext⟩
    rw [canonicalPath_of_spells htwice htext] at he
    cases he
  · exact ⟨_, canonicalPath_of_not_isText htwice htext⟩
  · intro text text' htext htext'
    exact ⟨_, _, canonicalPath_of_spells htwice htext, canonicalPath_of_spells htwice htext',
      encodeString_injective.eq_iff⟩
  · exact canonicalPath_of_form hform rfl htwice
  · obtain ⟨text, rfl⟩ := exists_encodeString_of_canonicalPath hform
    rw [Percent.encodeString, String.toList_ofList]
    exact isSpelled_encode _

/-- Escapes in small letters, and a segment that is taken back: two paths have one form.  Encoded as
they are, two paths that read the same have not; and a path whose escape spells no text has none. -/
theorem canonicalPath_identifies_coffee :
    (∃ form, canonicalPath { encodeTwice := false } "/x/../caf%C3%A9" = .ok form ∧
      canonicalPath { encodeTwice := false } "/caf%c3%a9" = .ok form) ∧
    (∃ form form', canonicalPath {} "/foo%20bar" = .ok form ∧
      canonicalPath {} "/foo bar" = .ok form' ∧ form ≠ form') ∧
    ∃ e, canonicalPath { encodeTwice := false } "/%FF" = .error e := by
  refine ⟨?_, ?_, ?_⟩
  · obtain ⟨form, form', hform, hform', heq⟩ :=
      ((canonicalPath_identifies { encodeTwice := false } "/x/../caf%C3%A9" "/caf%c3%a9").2.1
        rfl).2.1 "/café" "/café" (by decide +kernel) (by decide +kernel)
    obtain rfl := heq.mpr rfl
    exact ⟨form, hform, hform'⟩
  · obtain ⟨form, form', hform, hform', heq⟩ :=
      (canonicalPath_identifies {} "/foo%20bar" "/foo bar").1 rfl
    exact ⟨form, form', hform, hform', fun h => absurd (heq.mp h) (by decide +kernel)⟩
  · have hnone : Utf8.decode? (pathBytes { encodeTwice := false } "/%FF") = none := by
      decide +kernel
    apply ((canonicalPath_identifies { encodeTwice := false } "/%FF" "/").2.1 rfl).1.mpr
    rintro ⟨text, htext⟩
    rw [Utf8.decode?_eq_some_iff.mpr htext] at hnone
    cases hnone

end AwsSigning.Signing
