/-
AwsSigning/Proofs/Text/Split.lean

Cutting text at marks, as the inverse of putting it together.

Cutting at every mark is the splitting of the library of lists
(`splitWhen_eq_splitOnP`), so its laws hold here too.  A cut at the first or
at the last mark is characterised by what it gives:

    splitFirst? m s = some (a, b)   ↔   s = a ++ m :: b,  m not in a
    splitLast?  m s = some (a, b)   ↔   s = a ++ m :: b,  m not in b
-/
import AwsSigning.Text.Blank

namespace AwsSigning.Text

variable {mark : Char} {s before after : List Char}

/-! ### At every mark -/

theorem splitWhen_eq_splitOnP (cut : Char → Bool) (s : List Char) :
    splitWhen cut s = s.splitOnP cut := by
  induction s with
  | nil => rfl
  | cons c s ih =>
    rw [splitWhen, List.splitOnP_cons_eq_if_modifyHead, ih]
    split
    · rfl
    · rcases h : s.splitOnP cut with - | ⟨piece, pieces⟩
      · exact absurd h (List.splitOnP_ne_nil cut s)
      · rfl

/-- There is always a piece. -/
theorem splitWhen_ne_nil (cut : Char → Bool) (s : List Char) : splitWhen cut s ≠ [] := by
  rw [splitWhen_eq_splitOnP]
  exact List.splitOnP_ne_nil cut s

/-- No piece holds a character that it was cut at. -/
theorem not_cut_of_mem_splitWhen {cut : Char → Bool} :
    ∀ piece ∈ splitWhen cut s, ∀ c ∈ piece, cut c = false := by
  induction s with
  | nil => simp [splitWhen]
  | cons c s ih =>
    rw [splitWhen]
    split
    · simpa using ih
    · next hkept =>
      split
      · simpa using hkept
      · next first pieces hpieces =>
        rw [hpieces] at ih
        have hfirst := ih first List.mem_cons_self
        have hrest := fun piece hpiece => ih piece (List.mem_cons_of_mem first hpiece)
        simp only [List.mem_cons, forall_eq_or_imp]
        exact ⟨⟨by simpa using hkept, hfirst⟩, hrest⟩

/-- A text without the mark is one piece. -/
theorem splitWhen_of_not_mem (h : mark ∉ s) : splitWhen (· = mark) s = [s] := by
  rw [splitWhen_eq_splitOnP, List.splitOnP_eq_singleton]
  intro c hc
  have hne : c ≠ mark := fun heq => h (heq ▸ hc)
  exact decide_eq_false hne

/-- A text with the mark in it is cut there. -/
theorem splitWhen_append_cons (mark : Char) (before after : List Char) :
    splitWhen (· = mark) (before ++ mark :: after)
      = splitWhen (· = mark) before ++ splitWhen (· = mark) after := by
  simp only [splitWhen_eq_splitOnP]
  exact List.splitOnP_append_cons before after (by simp)

/-- A character that is not cut at stands in one of the pieces. -/
theorem exists_mem_splitWhen {cut : Char → Bool} {c : Char} (hmem : c ∈ s) (hc : cut c = false) :
    ∃ piece ∈ splitWhen cut s, c ∈ piece := by
  induction s with
  | nil => cases hmem
  | cons d s ih =>
    rw [splitWhen]
    split
    · next hd =>
      have hne : c ≠ d := by
        rintro rfl
        rw [hc] at hd
        cases hd
      obtain ⟨piece, hpiece, hin⟩ := ih ((List.mem_cons.mp hmem).resolve_left hne)
      exact ⟨piece, List.mem_cons_of_mem _ hpiece, hin⟩
    · rcases hs : splitWhen cut s with - | ⟨first, pieces⟩
      · exact absurd hs (splitWhen_ne_nil cut s)
      · rcases List.mem_cons.mp hmem with rfl | hmem
        · exact ⟨c :: first, List.mem_cons_self, List.mem_cons_self⟩
        · obtain ⟨piece, hpiece, hin⟩ := ih hmem
          rw [hs] at hpiece
          -- the first piece of the rest has grown by the character in front
          rcases List.mem_cons.mp hpiece with rfl | hpiece
          · exact ⟨d :: piece, List.mem_cons_self, List.mem_cons_of_mem d hin⟩
          · exact ⟨piece, List.mem_cons_of_mem _ hpiece, hin⟩

/-- Pieces put together with a mark that is in none of them are found again. -/
theorem splitWhen_intercalate {pieces : List (List Char)} (hne : pieces ≠ [])
    (hmark : ∀ piece ∈ pieces, mark ∉ piece) :
    splitWhen (· = mark) (List.intercalate [mark] pieces) = pieces := by
  rw [splitWhen_eq_splitOnP]
  exact List.splitOn_intercalate mark hmark hne

/-- Pieces that are not empty are found again, even if there are none. -/
theorem filter_splitWhen_intercalate {pieces : List (List Char)}
    (hpieces : ∀ piece ∈ pieces, piece ≠ [] ∧ mark ∉ piece) :
    (splitWhen (· = mark) (List.intercalate [mark] pieces)).filter (· ≠ []) = pieces := by
  by_cases hne : pieces = []
  · subst hne
    rfl
  · rw [splitWhen_intercalate hne fun piece hpiece => (hpieces piece hpiece).2]
    apply List.filter_eq_self.mpr
    intro piece hpiece
    simpa using (hpieces piece hpiece).1

/-- What holds of the marks and of the pieces holds of the whole. -/
theorem forall_mem_intercalate {α : Type} {P : α → Prop} {sep : List α} {pieces : List (List α)}
    (hsep : ∀ x ∈ sep, P x) (hpieces : ∀ piece ∈ pieces, ∀ x ∈ piece, P x) :
    ∀ x ∈ List.intercalate sep pieces, P x := by
  induction pieces with
  | nil => simp
  | cons piece pieces ih =>
    have hrest := ih fun p hp => hpieces p (List.mem_cons_of_mem piece hp)
    -- marks stand behind a piece only if there is one more
    rcases pieces with - | ⟨next, pieces⟩
    · simpa using hpieces piece List.mem_cons_self
    · intro x hx
      rw [List.intercalate_cons_cons] at hx
      rcases List.mem_append.mp hx with hx | hx
      · rcases List.mem_append.mp hx with hx | hx
        · exact hpieces piece List.mem_cons_self x hx
        · exact hsep x hx
      · exact hrest x hx

/-! ### At the first mark -/

theorem splitFirst?_eq_some_iff :
    splitFirst? mark s = some (before, after) ↔ s = before ++ mark :: after ∧ mark ∉ before := by
  induction s generalizing before with
  | nil => simp [splitFirst?]
  | cons c s ih =>
    rw [splitFirst?]
    split
    · next h =>
      -- the cut is made here, and a text with the mark in front admits no other
      subst h
      constructor
      · intro h
        obtain ⟨rfl, rfl⟩ := Prod.mk.inj (Option.some.inj h)
        exact ⟨rfl, List.not_mem_nil⟩
      · rintro ⟨h, hmem⟩
        rcases before with - | ⟨d, before⟩
        · exact congrArg (fun s => some ([], s)) (List.cons.inj h).2
        · exact absurd ((List.cons.inj h).1 ▸ List.mem_cons_self) hmem
    · next h =>
      -- the character goes in front of what the rest is cut into
      simp only [Option.map_eq_some_iff, Prod.exists, Prod.mk.injEq]
      constructor
      · rintro ⟨a, b, hcut, rfl, rfl⟩
        obtain ⟨rfl, hmem⟩ := ih.mp hcut
        exact ⟨rfl, by simpa using ⟨Ne.symm h, hmem⟩⟩
      · rintro ⟨hs, hmem⟩
        rcases before with - | ⟨d, before⟩
        · exact absurd (List.cons.inj hs).1 h
        · obtain ⟨rfl, rfl⟩ := List.cons.inj hs
          exact ⟨before, after,
            ih.mpr ⟨rfl, fun hm => hmem (List.mem_cons_of_mem _ hm)⟩, rfl, rfl⟩

theorem splitFirst?_append (h : mark ∉ before) :
    splitFirst? mark (before ++ mark :: after) = some (before, after) :=
  splitFirst?_eq_some_iff.mpr ⟨rfl, h⟩

/-- Texts that are the same are cut at the same place. -/
theorem cut_inj {before' after' : List Char} (h : mark ∉ before) (h' : mark ∉ before')
    (heq : before ++ mark :: after = before' ++ mark :: after') :
    before = before' ∧ after = after' := by
  have hcut := congrArg (splitFirst? mark) heq
  rw [splitFirst?_append h, splitFirst?_append h'] at hcut
  exact Prod.mk.inj (Option.some.inj hcut)

theorem splitFirst?_eq_none_iff : splitFirst? mark s = none ↔ mark ∉ s := by
  induction s with
  | nil => simp [splitFirst?]
  | cons c s ih =>
    rw [splitFirst?]
    split
    · next h => simp [h]
    · next h => simp [ih, Ne.symm h]

/-- A text without the mark that is put behind goes to the second part. -/
theorem splitFirst?_append_of_not_mem {more : List Char} (h : mark ∉ more) :
    splitFirst? mark (s ++ more)
      = (splitFirst? mark s).map fun (before, after) => (before, after ++ more) := by
  rcases hsplit : splitFirst? mark s with - | ⟨before, after⟩
  · have hmark : mark ∉ s := splitFirst?_eq_none_iff.mp hsplit
    exact splitFirst?_eq_none_iff.mpr (by simp [hmark, h])
  · obtain ⟨rfl, hbefore⟩ := splitFirst?_eq_some_iff.mp hsplit
    exact splitFirst?_eq_some_iff.mpr ⟨by simp, hbefore⟩

/-! ### At the last mark -/

theorem splitLast?_eq_some_iff :
    splitLast? mark s = some (before, after) ↔ s = before ++ mark :: after ∧ mark ∉ after := by
  -- the last mark is the first one from behind
  simp only [splitLast?, Option.map_eq_some_iff, Prod.exists, Prod.mk.injEq,
    splitFirst?_eq_some_iff]
  constructor
  · rintro ⟨a, b, ⟨hs, hmem⟩, rfl, rfl⟩
    refine ⟨?_, by simpa using hmem⟩
    have h := congrArg List.reverse hs
    simpa using h
  · rintro ⟨rfl, hmem⟩
    exact ⟨after.reverse, before.reverse, by simpa using hmem, by simp, by simp⟩

theorem splitLast?_append (h : mark ∉ after) :
    splitLast? mark (before ++ mark :: after) = some (before, after) :=
  splitLast?_eq_some_iff.mpr ⟨rfl, h⟩

theorem splitLast?_eq_none_iff : splitLast? mark s = none ↔ mark ∉ s := by
  simp [splitLast?, splitFirst?_eq_none_iff]

/-- A text without the mark that is put behind goes to the second part. -/
theorem splitLast?_append_of_not_mem {more : List Char} (h : mark ∉ more) :
    splitLast? mark (s ++ more)
      = (splitLast? mark s).map fun (before, after) => (before, after ++ more) := by
  rcases hsplit : splitLast? mark s with - | ⟨before, after⟩
  · have hmark : mark ∉ s := splitLast?_eq_none_iff.mp hsplit
    exact splitLast?_eq_none_iff.mpr (by simp [hmark, h])
  · obtain ⟨rfl, hafter⟩ := splitLast?_eq_some_iff.mp hsplit
    exact splitLast?_eq_some_iff.mpr ⟨by simp, by simp [hafter, h]⟩

end AwsSigning.Text
