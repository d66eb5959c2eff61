/-
AwsSigning/Proofs/Http/Spaces.lean

Values that have no space to spare.

A sequence is *tidy* if no space stands at either end of it and none beside
another (`IsTidy`).  Words with one space between them are tidy
(`isTidy_intercalate`), so a normalized value is; and a tidy value is what it
is normalized to (`HeaderValue.normalize_eq_self_iff`).  A value that reads as
text is tidy if its text is (`HeaderValue.isTidy_iff`).

Collapsing the spaces of a value therefore gives a tidy value in every case,
the words of the value with one space between them, and nothing is left to
collapse in it (`HeaderValue.exists_collapsed`).
-/
import Mathlib.Data.List.Chain
import AwsSigning.Proofs.Http.Header
import AwsSigning.Proofs.Text.Percent

namespace AwsSigning

/-! ### Tidy sequences -/

/-- No space stands at either end, and none beside another. -/
structure IsTidy {α : Type} (space : α) (s : List α) : Prop where
  leading : s.head? ≠ some space
  trailing : s.getLast? ≠ some space
  double : s.IsChain fun a b => ¬(a = space ∧ b = space)

section Tidy

variable {α β : Type} {space : α} {s word : List α}

theorem isTidy_of_not_mem (h : space ∉ s) : IsTidy space s where
  leading hhead := h (List.mem_of_mem_head? hhead)
  trailing hlast := h (List.mem_of_mem_getLast? hlast)
  double := by
    refine (List.pairwise_of_forall_mem_list fun a ha b _ => ?_).isChain
    rintro ⟨rfl, -⟩
    exact h ha

/-- A word and a space may be put in front. -/
theorem IsTidy.append_cons (h : IsTidy space s) (hs : s ≠ []) (hword : word ≠ [])
    (hspace : space ∉ word) : IsTidy space (word ++ space :: s) := by
  have hfront := isTidy_of_not_mem hspace
  constructor
  · rw [List.head?_append, List.head?_eq_some_head hword, Option.some_or,
      ← List.head?_eq_some_head hword]
    exact hfront.leading
  · have hlast : (word ++ space :: s).getLast? = s.getLast? := by
      rw [List.getLast?_append, List.getLast?_cons, Option.some_or,
        List.getLast?_eq_some_getLast hs]
      rfl
    rw [hlast]
    exact h.trailing
  · have hback : (space :: s).IsChain fun a b => ¬(a = space ∧ b = space) := by
      refine List.isChain_cons.mpr ⟨?_, h.double⟩
      rintro b hb ⟨-, rfl⟩
      exact h.leading hb
    refine List.isChain_append.mpr ⟨hfront.double, hback, ?_⟩
    rintro a ha b - ⟨rfl, -⟩
    exact hfront.trailing ha

/-- **Words with one space between them are tidy.** -/
theorem isTidy_intercalate {words : List (List α)} (h : ∀ word ∈ words, word ≠ [] ∧ space ∉ word) :
    IsTidy space (List.intercalate [space] words) := by
  induction words with
  | nil => exact isTidy_of_not_mem (by simp)
  | cons word words ih =>
    obtain ⟨hword, hspace⟩ := h word List.mem_cons_self
    have hrest := ih fun w hw => h w (List.mem_cons_of_mem word hw)
    rcases words with - | ⟨next, words⟩
    · simpa using isTidy_of_not_mem hspace
    · have hne : List.intercalate [space] (next :: words) ≠ [] := by
        obtain ⟨hnext, -⟩ := h next (by simp)
        rcases words with - | ⟨more, words⟩
        · simpa using hnext
        · rw [List.intercalate_cons_cons]
          simp
      rw [List.intercalate_cons_cons, List.append_assoc, List.singleton_append]
      exact hrest.append_cons hne hword hspace

/-- What is read one by one is tidy as it is written, if nothing else reads as a space. -/
theorem isTidy_map_iff {f : α → β} (hf : ∀ a, f a = f space ↔ a = space) :
    IsTidy (f space) (s.map f) ↔ IsTidy space s := by
  have hsome : ∀ a? : Option α, a?.map f = some (f space) ↔ a? = some space := by
    rintro (- | a)
    · simp
    · simp [hf]
  have hdouble : (s.map f).IsChain (fun a b => ¬(a = f space ∧ b = f space))
      ↔ s.IsChain fun a b => ¬(a = space ∧ b = space) := by
    rw [List.isChain_map]
    simp only [hf]
  constructor
  · intro h
    have hleading := h.leading
    have htrailing := h.trailing
    rw [List.head?_map, ne_eq, hsome] at hleading
    rw [List.getLast?_map, ne_eq, hsome] at htrailing
    exact ⟨hleading, htrailing, hdouble.mp h.double⟩
  · intro h
    refine ⟨?_, ?_, hdouble.mpr h.double⟩
    · rw [List.head?_map, ne_eq, hsome]
      exact h.leading
    · rw [List.getLast?_map, ne_eq, hsome]
      exact h.trailing

end Tidy

/-! ### Normalized values -/

/-- Of tidy bytes nothing is dropped; at the start of them a space that is owed is written. -/
theorem collapseSpaces_of_tidy {gap : Gap} {bytes : Bytes}
    (hleading : gap ≠ .closed → bytes.head? ≠ some 0x20) (htrailing : bytes.getLast? ≠ some 0x20)
    (hdouble : bytes.IsChain fun a b => ¬(a = 0x20 ∧ b = 0x20)) :
    collapseSpaces gap bytes = (if gap = .owed ∧ bytes ≠ [] then [0x20] else []) ++ bytes := by
  induction bytes generalizing gap with
  | nil => simp [collapseSpaces]
  | cons b rest ih =>
    obtain ⟨hnext, hrest⟩ := List.isChain_cons.mp hdouble
    have hlast : rest.getLast? ≠ some 0x20 := by
      intro h
      rw [List.getLast?_cons, h] at htrailing
      exact htrailing rfl
    unfold collapseSpaces
    by_cases hb : b = 0x20
    · -- a single space between two words: one is owed, and the next byte is no space
      subst hb
      have hgap : gap = .closed := by
        by_contra hopen
        exact hleading hopen rfl
      have hne : rest ≠ [] := by
        rintro rfl
        exact htrailing rfl
      have hhead : rest.head? ≠ some 0x20 := fun h => hnext 0x20 h ⟨rfl, rfl⟩
      rw [if_pos rfl, hgap, if_neg (by decide), ih (fun _ => hhead) hlast hrest]
      simp [hne]
    · rw [if_neg hb, ih (fun h => absurd rfl h) hlast hrest]
      split
      · next howed => simp [howed]
      · next hopen => simp [hopen]

namespace HeaderValue

variable {v : HeaderValue}

theorem isTidy_normalize (v : HeaderValue) : IsTidy 0x20 v.normalize.bytes := by
  rw [bytes_normalize]
  refine isTidy_intercalate fun word hword => ?_
  obtain ⟨hpiece, hne⟩ := List.mem_filter.mp hword
  exact ⟨by simpa using hne, not_mem_of_mem_splitOn word hpiece⟩

/-- **The values that are normalized already are the tidy ones.** -/
theorem normalize_eq_self_iff : v.normalize = v ↔ IsTidy 0x20 v.bytes := by
  constructor
  · intro h
    rw [← h]
    exact v.isTidy_normalize
  · intro h
    refine eq_of_bytes ?_ rfl
    exact collapseSpaces_of_tidy (fun _ => h.leading) h.trailing h.double

/-- A value is tidy as its text is. -/
theorem isTidy_iff {text : String} (h : v.text? = some text) :
    IsTidy ' ' text.toList ↔ IsTidy 0x20 v.bytes := by
  have hspace : ∀ b : UInt8, Char.ofNat b.toNat = Char.ofNat (0x20 : UInt8).toNat ↔ b = 0x20 :=
    Percent.forall_byte (by decide +kernel)
  unfold text? at h
  split at h
  · cases h
    rw [String.toList_ofList]
    exact isTidy_map_iff hspace
  · cases h

/-! ### Collapsed values -/

/-- **Collapsing the spaces of a value never fails.**  What must not be shown stays so; what is left
are the words with one space between them, so no space stands at either end or beside another, and
all other bytes stand in order.  Collapsing once more changes nothing. -/
theorem exists_collapsed (v : HeaderValue) :
    ∃ w : HeaderValue, v.collapsed = .ok w ∧ w.sensitive = v.sensitive ∧
      w.bytes = List.intercalate [0x20] v.words ∧ IsTidy 0x20 w.bytes ∧
      w.bytes.filter (· ≠ 0x20) = v.bytes.filter (· ≠ 0x20) ∧
      w.collapsed = .ok w := by
  have hagain : v.normalize.collapsed = .ok v.normalize := by
    rw [collapsed_eq, normalize_normalize]
  exact ⟨v.normalize, v.collapsed_eq, rfl, v.bytes_normalize, v.isTidy_normalize,
    v.filter_normalize, hagain⟩

end HeaderValue

end AwsSigning
