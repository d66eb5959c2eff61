/-
AwsSigning/Proofs/Http/Header.lean

The laws of header fields as a table from names to values.

Each operation is described by what it does to `values` and `has`, under the
name it writes and under every other name.  Names are told apart by their
texts, and a text holds none of the marks that lists of names are written
with.

A normalized value is told by what it keeps, the words between its spaces
(`HeaderValue.bytes_normalize`).  These hold every byte that is no space
(`HeaderValue.flatten_words`), and normalizing again changes nothing.
-/
import AwsSigning.Http.Header
import AwsSigning.Proofs.Table

namespace AwsSigning

namespace HeaderName

theorem text_inj {a b : HeaderName} : a.text = b.text ↔ a = b := by
  constructor
  · intro h
    rcases a with ⟨text, legal⟩
    subst h
    rfl
  · exact congrArg text

theorem atMost_trans (a b c : HeaderName) (hab : atMost a b = true) (hbc : atMost b c = true) :
    atMost a c = true := by
  simp only [atMost, decide_eq_true_eq] at *
  exact String.le_trans hab hbc

theorem atMost_total (a b : HeaderName) : (atMost a b || atMost b a) = true := by
  simpa [atMost] using String.le_total a.text b.text

theorem atMost_antisymm {a b : HeaderName} (hab : atMost a b = true) (hba : atMost b a = true) :
    a = b := by
  simp only [atMost, decide_eq_true_eq] at *
  exact text_inj.mp (String.le_antisymm hab hba)

/-- A mark that is no token character does not occur in a name. -/
theorem not_mem_text {mark : Char} (h : isNameChar mark = false) (name : HeaderName) :
    mark ∉ name.text.toList := by
  intro hmem
  have hlegal := List.all_eq_true.mp name.legal mark hmem
  rw [h] at hlegal
  cases hlegal

end HeaderName

/-! ### Words of a value -/

/-- What is still to be written of some bytes: the words in them, and before these what the gap
owes.  After a byte that is kept the first piece goes on with the word of that byte, even if it is
empty, and after an owed space there is an empty piece in front. -/
def Gap.wordsOf : Gap → List Bytes → List Bytes
  | .leading, pieces => pieces.filter (· ≠ [])
  | .closed, pieces => pieces.head?.toList ++ pieces.tail.filter (· ≠ [])
  | .owed, pieces => [] :: pieces.filter (· ≠ [])

/-- Collapsing spaces keeps the words and writes one space between them. -/
theorem collapseSpaces_eq (gap : Gap) (bytes : Bytes) :
    collapseSpaces gap bytes = List.intercalate [0x20] (gap.wordsOf (bytes.splitOn 0x20)) := by
  induction bytes generalizing gap with
  | nil => cases gap <;> rfl
  | cons b rest ih =>
    obtain ⟨piece, pieces, hrest⟩ : ∃ piece pieces, rest.splitOn 0x20 = piece :: pieces :=
      List.exists_cons_of_ne_nil (List.splitOn_ne_nil _ rest)
    unfold collapseSpaces
    by_cases hb : b = 0x20
    · -- a space ends a piece, and one is owed unless nothing stands before it
      have hsplit : (b :: rest).splitOn 0x20 = [] :: piece :: pieces := by
        rw [List.splitOn_cons_eq_if_modifyHead, if_pos (by simp [hb]), hrest]
      rw [if_pos hb, ih, hrest, hsplit]
      cases gap <;> simp [Gap.wordsOf]
    · -- any other byte is kept, behind the space that is owed, and goes on with its word
      have hsplit : (b :: rest).splitOn 0x20 = (b :: piece) :: pieces := by
        rw [List.splitOn_cons_eq_if_modifyHead, if_neg (by simp [hb]), hrest]
        rfl
      have hclosed : b :: collapseSpaces .closed rest
          = List.intercalate [0x20] ((b :: piece) :: pieces.filter (· ≠ [])) := by
        rw [ih, hrest]
        show b :: List.intercalate [0x20] (piece :: pieces.filter (· ≠ [])) = _
        rcases pieces.filter (· ≠ []) with - | ⟨next, more⟩
        · simp
        · simp [List.intercalate_cons_cons]
      rw [if_neg hb, hclosed, hsplit]
      cases gap <;> simp [Gap.wordsOf, List.intercalate_cons_cons]

-- a tab is kept wherever it stands, and so are bytes beyond ASCII
example : collapseSpaces .leading (Utf8.ofString "  \té   b c\t ") = Utf8.ofString "\té b c\t" := by
  cbv

/-- The words of a value: what stands between its spaces. -/
def HeaderValue.words (v : HeaderValue) : List Bytes := (v.bytes.splitOn 0x20).filter (· ≠ [])

/-- **A normalized value is its words with one space between them.** -/
theorem HeaderValue.bytes_normalize (v : HeaderValue) :
    v.normalize.bytes = List.intercalate [0x20] v.words :=
  collapseSpaces_eq .leading v.bytes

/-- No piece holds the mark that it was cut at. -/
theorem not_mem_of_mem_splitOn {α : Type} [BEq α] [LawfulBEq α] {a : α} {xs : List α} :
    ∀ piece ∈ xs.splitOn a, a ∉ piece := by
  induction xs with
  | nil => simp
  | cons x xs ih =>
    obtain ⟨first, rest, hxs⟩ := List.exists_cons_of_ne_nil (List.splitOn_ne_nil a xs)
    rw [List.splitOn_cons_eq_if_modifyHead]
    rw [hxs] at ih ⊢
    by_cases hx : x = a
    · simpa [hx] using ih
    · simpa [hx, Ne.symm hx] using ih

/-- The pieces hold all but the mark that it was cut at, in order. -/
theorem flatten_splitOn {α : Type} [DecidableEq α] (a : α) (xs : List α) :
    (xs.splitOn a).flatten = xs.filter (· ≠ a) := by
  induction xs with
  | nil => rfl
  | cons x xs ih =>
    obtain ⟨first, rest, hxs⟩ := List.exists_cons_of_ne_nil (List.splitOn_ne_nil a xs)
    rw [hxs, List.flatten_cons] at ih
    rw [List.splitOn_cons_eq_if_modifyHead, hxs]
    by_cases hx : x = a
    · simpa [hx] using ih
    · simpa [hx] using ih

namespace HeaderValue

variable {v w : HeaderValue}

theorem eq_of_bytes (hbytes : v.bytes = w.bytes) (hsensitive : v.sensitive = w.sensitive) :
    v = w := by
  rcases v with ⟨bytes, sensitive, legal⟩
  rcases w with ⟨bytes', sensitive', legal'⟩
  dsimp only at hbytes hsensitive
  subst hbytes hsensitive
  rfl

/-- Normalizing keeps the words. -/
theorem words_normalize (v : HeaderValue) : v.normalize.words = v.words := by
  by_cases hnil : v.words = []
  · rw [words, bytes_normalize, hnil]
    rfl
  have hwords : ∀ word ∈ v.words, word ≠ [] ∧ 0x20 ∉ word := by
    intro word hword
    obtain ⟨hpiece, hne⟩ := List.mem_filter.mp hword
    exact ⟨by simpa using hne, not_mem_of_mem_splitOn word hpiece⟩
  rw [words, bytes_normalize, List.splitOn_intercalate _ (fun word h => (hwords word h).2) hnil,
    List.filter_eq_self]
  exact fun word hword => by simpa using (hwords word hword).1

/-- **Normalizing twice is normalizing once.** -/
@[simp] theorem normalize_normalize (v : HeaderValue) : v.normalize.normalize = v.normalize := by
  refine eq_of_bytes ?_ rfl
  rw [bytes_normalize, bytes_normalize, words_normalize]

/-- The words hold all bytes but the spaces, in order. -/
theorem flatten_words (v : HeaderValue) : v.words.flatten = v.bytes.filter (· ≠ 0x20) := by
  rw [words, List.flatten_filter_ne_nil, flatten_splitOn]

/-- Normalizing keeps all bytes but the spaces, in order. -/
theorem filter_normalize (v : HeaderValue) :
    v.normalize.bytes.filter (· ≠ 0x20) = v.bytes.filter (· ≠ 0x20) := by
  rw [← flatten_words, words_normalize, flatten_words]

/-- A value without spaces is normal. -/
theorem normalize_of_spaceless (h : 0x20 ∉ v.bytes) : v.normalize = v := by
  refine eq_of_bytes ?_ rfl
  rw [bytes_normalize, words, List.splitOn_eq_singleton h]
  rcases v.bytes with - | ⟨b, bytes⟩ <;> simp

end HeaderValue

theorem HeaderValue.bytes_of_ofString {text : String} {value : HeaderValue}
    (h : HeaderValue.ofString text = .ok value) : value.bytes = Utf8.ofString text := by
  unfold ofString ofBytes at h
  split at h
  · cases h
    rfl
  · cases h

namespace Headers

variable {hs : Headers} {name other : HeaderName} {value : HeaderValue}

/-! ### Values under a name -/

@[simp] theorem values_append (hs more : Headers) (name : HeaderName) :
    values (hs ++ more) name = values hs name ++ values more name := by
  simp [values]

@[simp] theorem values_remove_self (hs : Headers) (name : HeaderName) :
    (hs.remove name).values name = [] := by
  simp [values, remove, List.filter_filter]

theorem values_remove_of_ne (h : other ≠ name) :
    (hs.remove name).values other = hs.values other := by
  have hkeep : ∀ field : HeaderName × HeaderValue,
      (decide (field.1 = other) && decide (field.1 ≠ name)) = decide (field.1 = other) := by
    intro field
    by_cases hf : field.1 = other
    · simp [hf, h]
    · simp [hf]
  simp only [values, remove, List.filter_filter, hkeep]

@[simp] theorem values_set_self (hs : Headers) (name : HeaderName) (value : HeaderValue) :
    (hs.set name value).values name = [value] := by
  rw [set, append, values_append, values_remove_self]
  simp [values]

theorem values_set_of_ne (h : other ≠ name) :
    (hs.set name value).values other = hs.values other := by
  rw [set, append, values_append, values_remove_of_ne h]
  simp [values, Ne.symm h]

theorem values_normalize (hs : Headers) (name : HeaderName) :
    hs.normalize.values name = (hs.values name).map HeaderValue.normalize := by
  simp [values, normalize, List.filter_map, Function.comp_def]

/-! ### Whether there is a name -/

theorem has_eq_true_iff : hs.has name = true ↔ ∃ value, (name, value) ∈ hs := by
  simp [has]

theorem has_eq_true_iff_values : hs.has name = true ↔ hs.values name ≠ [] := by
  simp [has, values, List.filter_eq_nil_iff]

@[simp] theorem has_normalize (hs : Headers) (name : HeaderName) :
    hs.normalize.has name = hs.has name := by
  simp [has, normalize, List.any_map, Function.comp_def]

theorem has_remove_of_ne (h : other ≠ name) : (hs.remove name).has other = hs.has other := by
  rw [Bool.eq_iff_iff, has_eq_true_iff, has_eq_true_iff]
  simp [remove, h]

/-- The names of the fields are those under which there is one. -/
theorem mem_names : name ∈ hs.names ↔ hs.has name = true := by
  rw [has_eq_true_iff]
  simp [names]

/-! ### The list of names -/

theorem nodup_names (hs : Headers) : hs.names.Nodup :=
  (List.mergeSort_perm _ _).nodup_iff.mpr (nodup_eraseDups _)

theorem pairwise_names (hs : Headers) :
    hs.names.Pairwise fun a b => HeaderName.atMost a b = true :=
  List.pairwise_mergeSort HeaderName.atMost_trans HeaderName.atMost_total _

end Headers

end AwsSigning
