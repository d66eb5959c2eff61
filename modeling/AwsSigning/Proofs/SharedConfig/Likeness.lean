/-
AwsSigning/Proofs/SharedConfig/Likeness.lean

Lines that look alike to the parser.

Two lines *resemble* each other (`Resembles`) if they are of one kind, say the
same as headers and as continuations, and have an `=` or lack one together.  They
*look alike* (`LooksLike`) if they say the same as properties too.  Lines that look
alike may take each other's place in every text, also where it is malformed
(`outcomeOf_congr`).

Of lines that only resemble each other one may have a blank value and the other
one not.  If the new line has the value, nothing is asked of the lines below it that
was not asked before, so a text that was read is still read
(`foldingFault?_of_loosens`).
-/
import Mathlib.Data.List.Forall2
import AwsSigning.Proofs.SharedConfig.Outcome

namespace AwsSigning.SharedConfig

variable {kind : FileKind} {raw raw' : List Char} {lines lines' below below' : List (List Char)}

/-! ### Two lines -/

/-- Lines of one kind that may differ in what they say as properties. -/
structure Resembles (raw raw' : List Char) : Prop where
  header : isHeader raw = isHeader raw'
  plain : isPlain raw = isPlain raw'
  folded : isFolded raw = isFolded raw'
  marked : '=' ∈ raw ↔ '=' ∈ raw'
  text : isFolded raw = true → Text.trim raw = Text.trim raw'
  closing : isHeader raw = true → closingFault? raw = closingFault? raw'
  named : isHeader raw = true → ∀ kind, headerIn? kind raw = headerIn? kind raw'

/-- Lines that the parser cannot tell from each other. -/
structure LooksLike (raw raw' : List Char) : Prop extends Resembles raw raw' where
  value : blankValue raw = blankValue raw'
  property : isPlain raw = true → ownProperty raw = ownProperty raw'

/-- The second line asks no more of the lines below it than the first one does. -/
structure Loosens (raw raw' : List Char) : Prop extends Resembles raw raw' where
  blank : blankValue raw' = true → blankValue raw = true

theorem LooksLike.refl (raw : List Char) : LooksLike raw raw where
  header := rfl
  plain := rfl
  folded := rfl
  marked := Iff.rfl
  text _ := rfl
  closing _ := rfl
  named _ _ := rfl
  value := rfl
  property _ := rfl

theorem LooksLike.loosens (h : LooksLike raw raw') : Loosens raw raw' :=
  ⟨h.toResembles, fun hblank => h.value.trans hblank⟩

namespace Resembles

variable (h : Resembles raw raw')
include h

theorem opens_eq : opens raw = opens raw' := by
  rw [opens, opens, h.header, h.plain]

theorem headerBelow_eq (kind : FileKind) (current : Option Header) :
    headerBelow kind current raw = headerBelow kind current raw' := by
  rw [headerBelow, headerBelow, ← h.header]
  split
  · next hheader => exact h.named hheader kind
  · rfl

theorem isSubProperty_eq (hfolded : isFolded raw = true) :
    isSubProperty raw = isSubProperty raw' := by
  have hmarked : raw.contains '=' = raw'.contains '=' := by
    rw [Bool.eq_iff_iff, List.contains_iff_mem, List.contains_iff_mem]
    exact h.marked
  rw [isSubProperty, isSubProperty, hmarked, h.text hfolded]

end Resembles

/-! ### The lines that are folded -/

section Folded

variable (h : List.Forall₂ Resembles lines lines')
include h

theorem forall₂_foldedBelow : List.Forall₂ Resembles (foldedBelow lines) (foldedBelow lines') := by
  induction h with
  | nil => exact .nil
  | @cons raw raw' below below' hraw _ ih =>
    -- a line that opens something ends what is folded in both texts
    rcases hopens : opens raw with - | -
    · have hopens' : opens raw' = false := hraw.opens_eq ▸ hopens
      rw [foldedBelow_cons hopens, foldedBelow_cons hopens', ← hraw.folded]
      split
      · exact .cons hraw ih
      · exact ih
    · have hopens' : opens raw' = true := hraw.opens_eq ▸ hopens
      rw [foldedBelow_of_opens hopens, foldedBelow_of_opens hopens']
      exact .nil

/-- What is folded onto a line is the same text. -/
theorem map_trim_foldedBelow :
    (foldedBelow lines).map Text.trim = (foldedBelow lines').map Text.trim := by
  have hfolded : ∀ line ∈ foldedBelow lines, isFolded line = true :=
    fun line hline => (List.mem_filter.mp hline).2
  have hall := forall₂_foldedBelow h
  generalize foldedBelow lines = group, foldedBelow lines' = group' at hfolded hall
  induction hall with
  | nil => rfl
  | @cons line line' group group' hline _ ih =>
    have hrest := ih fun x hx => hfolded x (List.mem_cons_of_mem line hx)
    rw [List.map_cons, List.map_cons, hline.text (hfolded line List.mem_cons_self), hrest]

theorem exists_marked_iff : (∃ line ∈ lines, '=' ∈ line) ↔ ∃ line ∈ lines', '=' ∈ line := by
  induction h with
  | nil => simp
  | cons hraw _ ih =>
    rw [List.exists_mem_cons_iff, List.exists_mem_cons_iff, hraw.marked, ih]

end Folded

/-! ### The first pass -/

/-- What is to be seen above, when lines have been replaced. -/
structure View.Related (R : List Char → List Char → Prop) (view view' : View) : Prop where
  header : view.header = view'.header
  property : view.property = view'.property
  group : List.Forall₂ R view.group view'.group

namespace View.Related

variable {R : List Char → List Char → Prop} {view view' : View}

theorem nil : Related R {} {} := ⟨rfl, rfl, .nil⟩

theorem after (hR : ∀ raw raw', R raw raw' → Resembles raw raw') (h : view.Related R view')
    (hraw : R raw raw') : (view.after raw).Related R (view'.after raw') := by
  have hlike := hR raw raw' hraw
  have hmarked : raw.contains '=' = raw'.contains '=' := by
    rw [Bool.eq_iff_iff, List.contains_iff_mem, List.contains_iff_mem]
    exact hlike.marked
  unfold View.after
  rw [← hlike.header, ← hlike.plain, ← hlike.folded]
  split
  · exact ⟨rfl, rfl, .cons hraw .nil⟩
  · split
    · exact ⟨h.header, by rw [h.property, hmarked], .cons hraw .nil⟩
    · split
      · exact ⟨h.header, h.property, List.rel_append h.group (.cons hraw .nil)⟩
      · exact h

end View.Related

theorem awaitsKeys_of_loosens (h : List.Forall₂ Loosens lines lines')
    (hawaits : awaitsKeys lines' = true) : awaitsKeys lines = true := by
  induction h with
  | nil => exact hawaits
  | @cons raw raw' _ _ hraw _ ih =>
    rw [awaitsKeys] at hawaits ⊢
    by_cases hmark : '=' ∈ raw
    · rw [if_pos (hraw.marked.mp hmark)] at hawaits
      rw [if_pos hmark]
      exact hraw.blank hawaits
    · rw [if_neg (hraw.marked.not.mp hmark)] at hawaits
      rw [if_neg hmark]
      exact ih hawaits

theorem awaitsKeys_congr (h : List.Forall₂ LooksLike lines lines') :
    awaitsKeys lines = awaitsKeys lines' := by
  induction h with
  | nil => rfl
  | cons hraw _ ih => simp only [awaitsKeys, hraw.marked, hraw.value, ih]

/-- **A text that is read asks no more if its lines ask no more.** -/
theorem foldingFault?_of_loosens (h : List.Forall₂ Loosens lines lines') {view view' : View}
    (hview : view.Related Loosens view') {n : Nat} (hnone : foldingFault? view n lines = none) :
    foldingFault? view' n lines' = none := by
  -- the lines that were replaced are also in the group of the view, which is carried along
  induction h generalizing view view' n with
  | nil => rfl
  | @cons raw raw' _ _ hraw _ ih =>
    rw [foldingFault?, Option.or_eq_none_iff, Option.map_eq_none_iff] at hnone ⊢
    refine ⟨?_, ih (hview.after (fun _ _ h => h.toResembles) hraw) hnone.2⟩
    rw [View.fault?_eq_none_iff] at hnone ⊢
    intro hfolded'
    have hfolded : isFolded raw = true := hraw.folded.trans hfolded'
    obtain ⟨hheader, hproperty, hawaits⟩ := hnone.1 hfolded
    refine ⟨hview.header ▸ hheader, hview.property ▸ hproperty, fun hgroup => ?_⟩
    rw [← hraw.isSubProperty_eq hfolded]
    exact hawaits (awaitsKeys_of_loosens hview.group hgroup)

theorem foldingFault?_congr (h : List.Forall₂ LooksLike lines lines') {view view' : View}
    (hview : view.Related LooksLike view') (n : Nat) :
    foldingFault? view n lines = foldingFault? view' n lines' := by
  induction h generalizing view view' n with
  | nil => rfl
  | @cons raw raw' _ _ hraw _ ih =>
    have hfault : view.fault? raw = view'.fault? raw' := by
      rw [View.fault?, View.fault?, hview.header, hview.property, awaitsKeys_congr hview.group,
        ← hraw.folded]
      split
      · next hfolded => rw [hraw.isSubProperty_eq hfolded]
      · rfl
    rw [foldingFault?, foldingFault?, hfault,
      ih (hview.after (fun _ _ h => h.toResembles) hraw) (n + 1)]

/-! ### The second pass -/

theorem groupingFault?_congr (h : List.Forall₂ Resembles lines lines') (placed : Bool) (n : Nat) :
    groupingFault? placed n lines = groupingFault? placed n lines' := by
  induction h generalizing placed n with
  | nil => rfl
  | @cons raw raw' below below' hraw hbelow ih =>
    have hentry : entryFault? placed raw (foldedBelow below)
        = entryFault? placed raw' (foldedBelow below') := by
      rw [entryFault?, entryFault?, ← hraw.header]
      simp only [exists_marked_iff (.cons hraw (forall₂_foldedBelow hbelow))]
      split
      · next hheader => exact hraw.closing hheader
      · rfl
    rw [groupingFault?, groupingFault?, hraw.opens_eq, hentry, hraw.header, ih]

/-- Lines that look alike say the same above lines that resemble each other. -/
theorem statement?_congr (hraw : LooksLike raw raw') (hbelow : List.Forall₂ Resembles below below')
    (current : Option Header) :
    statement? kind current raw below = statement? kind current raw' below' := by
  rw [statement?, statement?, ← hraw.header, ← hraw.plain]
  split
  · next hheader => rw [hraw.named hheader kind]
  · split
    · next hplain =>
      rw [definition?, definition?, hraw.property hplain, map_trim_foldedBelow hbelow]
    · rfl

theorem statements_congr (h : List.Forall₂ LooksLike lines lines') (current : Option Header) :
    statements kind current lines = statements kind current lines' := by
  induction h generalizing current with
  | nil => rfl
  | cons hraw hbelow ih =>
    rw [statements, statements, statement?_congr hraw (hbelow.imp fun _ _ h => h.toResembles),
      hraw.headerBelow_eq, ih]

/-! ### Both passes -/

/-- **Lines that look alike may take each other's place**, also in a malformed text. -/
theorem outcomeOf_congr (h : List.Forall₂ LooksLike lines lines') :
    outcomeOf kind lines = outcomeOf kind lines' := by
  rw [outcomeOf, outcomeOf, foldingFault?_congr h .nil,
    groupingFault?_congr (h.imp fun _ _ h => h.toResembles), statements_congr h]

end AwsSigning.SharedConfig
