/-
AwsSigning/Proofs/Signing/DotSegments.lean

Dot segments are taken out of a path as the generic syntax of URIs has it.

There a path is rewritten character by character, from an input buffer into an
output buffer (`rewriteDots`); here a path is cut into its segments, and one
walk over them keeps those that stay.  For a path that starts with a slash, and
whose runs of slashes have become one (`collapseSlashes`), the two are the same
function (`removeDotSegments_eq_rewriteDots`).

Both are compared in one form, segments each behind a slash and perhaps one
more slash at the end (`rooted`).  In this form the rewriting takes one segment
at a time, and what is in its output buffer are the segments that the walk has
kept:

    output  =  rooted kept false          input  =  rooted (segments to come) slash

A path with neither empty segments nor dot segments (`IsNormal`) is left as it
is, and every path that comes out is one.
-/
import AwsSigning.Proofs.Text.Split
import AwsSigning.Signing.Path

namespace AwsSigning.Signing

variable {path output segment rest : List Char} {kept pieces : List (List Char)} {slash : Bool}

/-! ### Rewriting a path -/

/-- The output buffer without its last segment and the slash before it, if there is any. -/
def dropSegment (output : List Char) : List Char :=
  (output.reverse.dropWhile (· ≠ '/')).tail.reverse

/-- What is in the output buffer when the input buffer has become empty. -/
def rewriteDots (output : List Char) : List Char → List Char
  | [] => output
  -- dot segments in front of the first slash are dropped
  | '.' :: '.' :: '/' :: rest => rewriteDots output rest
  | '.' :: '/' :: rest => rewriteDots output rest
  | ['.'] => output
  | ['.', '.'] => output
  -- behind a slash the one stands for nothing, and the other takes back a segment
  | '/' :: '.' :: '/' :: rest => rewriteDots output ('/' :: rest)
  | ['/', '.'] => rewriteDots output ['/']
  | '/' :: '.' :: '.' :: '/' :: rest => rewriteDots (dropSegment output) ('/' :: rest)
  | ['/', '.', '.'] => rewriteDots (dropSegment output) ['/']
  -- any other segment moves to the output, with the slash before it
  | c :: rest =>
    rewriteDots (output ++ c :: rest.takeWhile (· ≠ '/')) (rest.dropWhile (· ≠ '/'))
termination_by input => input.length
decreasing_by all_goals grind [List.dropWhile_suffix, List.IsSuffix.length_le]

/-- The path with every run of slashes replaced by one. -/
def collapseSlashes : List Char → List Char
  | [] => []
  | c :: rest =>
    if c = '/' ∧ rest.head? = some '/' then collapseSlashes rest else c :: collapseSlashes rest

/-! ### Segments behind slashes -/

/-- A text that may stand between two slashes. -/
def IsSegment (segment : List Char) : Prop := segment ≠ [] ∧ '/' ∉ segment

/-- A segment that is not one of the two dot segments. -/
structure IsPlainSegment (segment : List Char) : Prop where
  isSegment : IsSegment segment
  ne_dot : segment ≠ ['.']
  ne_dots : segment ≠ ['.', '.']

/-- Segments, each behind a slash, and one more slash at the end if there is to be one. -/
def rooted (segments : List (List Char)) (slash : Bool) : List Char :=
  segments.flatMap ('/' :: ·) ++ if slash then ['/'] else []

theorem rooted_cons (segment : List Char) (segments : List (List Char)) (slash : Bool) :
    rooted (segment :: segments) slash = '/' :: (segment ++ rooted segments slash) := by
  simp [rooted]

/-- What stands behind a segment is nothing, or starts with a slash. -/
theorem rooted_cases (segments : List (List Char)) (slash : Bool) :
    (segments = [] ∧ slash = false ∧ rooted segments slash = []) ∨
      ∃ rest, rooted segments slash = '/' :: rest := by
  rcases segments with - | ⟨segment, segments⟩
  · rcases slash with - | -
    · exact .inl ⟨rfl, rfl, rfl⟩
    · exact .inr ⟨[], rfl⟩
  · exact .inr ⟨_, rooted_cons segment segments slash⟩

theorem rooted_reverse_cons (segment : List Char) (kept : List (List Char)) :
    rooted (segment :: kept).reverse false = rooted kept.reverse false ++ '/' :: segment := by
  simp [rooted]

/-! ### Runs of slashes -/

theorem collapseSlashes_append (h : '/' ∉ segment) (rest : List Char) :
    collapseSlashes (segment ++ rest) = segment ++ collapseSlashes rest := by
  induction segment with
  | nil => rfl
  | cons c segment ih =>
    obtain ⟨hc, hsegment⟩ := not_or.mp (mt List.mem_cons.mpr h)
    rw [List.cons_append, collapseSlashes, if_neg fun hrun => hc hrun.1.symm, ih hsegment]
    rfl

/-- **In a path without runs of slashes its segments stand behind one slash each.** -/
theorem collapseSlashes_flatMap (h : ∀ piece ∈ pieces, '/' ∉ piece) :
    collapseSlashes (pieces.flatMap ('/' :: ·))
      = rooted (pieces.filter (· ≠ [])) (pieces.getLast? = some []) := by
  induction pieces with
  | nil => rfl
  | cons piece pieces ih =>
    have hrest := ih fun p hp => h p (List.mem_cons_of_mem piece hp)
    have hpiece := h piece List.mem_cons_self
    rw [List.flatMap_cons]
    rcases piece with - | ⟨c, piece⟩
    · -- the slash before an empty piece is the one that the run loses
      rcases pieces with - | ⟨next, pieces⟩
      · rfl
      · rw [List.singleton_append, collapseSlashes, if_pos ⟨rfl, rfl⟩, hrest]
        simp
    · have hne : ¬('/' = '/' ∧ (c :: piece ++ pieces.flatMap ('/' :: ·)).head? = some '/') := by
        rintro ⟨-, hslash⟩
        exact hpiece (Option.some.inj hslash ▸ List.mem_cons_self)
      rw [List.cons_append, collapseSlashes, if_neg hne, collapseSlashes_append hpiece, hrest,
        List.filter_cons_of_pos (by simp), rooted_cons]
      rcases pieces with - | ⟨next, pieces⟩ <;> simp

/-! ### One segment at a time -/

theorem dropSegment_append (h : '/' ∉ segment) (output : List Char) :
    dropSegment (output ++ '/' :: segment) = output := by
  have hdrop : (segment.reverse ++ '/' :: output.reverse).dropWhile (· ≠ '/')
      = '/' :: output.reverse := by
    rw [List.dropWhile_append_of_pos]
    · rfl
    · intro c hc
      have hne : c ≠ '/' := fun heq => h (heq ▸ List.mem_reverse.mp hc)
      simpa using hne
  rw [dropSegment, List.reverse_append, List.reverse_cons, List.append_assoc,
    List.singleton_append, hdrop, List.tail_cons, List.reverse_reverse]

/-- The two dot segments leave a slash behind, also where nothing follows them. -/
theorem rewriteDots_rooted_dots (output : List Char) (segments : List (List Char)) (slash : Bool) :
    rewriteDots output (rooted (['.'] :: segments) slash)
        = rewriteDots output (rooted segments (slash || segments.isEmpty)) ∧
      rewriteDots output (rooted (['.', '.'] :: segments) slash)
        = rewriteDots (dropSegment output) (rooted segments (slash || segments.isEmpty)) := by
  rw [rooted_cons, rooted_cons]
  rcases rooted_cases segments slash with ⟨rfl, rfl, hnil⟩ | ⟨rest, hrest⟩
  · rw [hnil, List.append_nil, List.append_nil, rewriteDots, rewriteDots]
    exact ⟨rfl, rfl⟩
  · have hslash : rooted segments (slash || segments.isEmpty) = '/' :: rest := by
      rcases segments with - | ⟨segment, segments⟩
      · rcases slash with - | -
        · cases hrest
        · exact hrest
      · simpa using hrest
    rw [hslash, hrest]
    simp only [List.cons_append, List.nil_append]
    rw [rewriteDots, rewriteDots]
    exact ⟨rfl, rfl⟩

theorem takeWhile_segment (h : '/' ∉ segment) (hrest : ∀ c ∈ rest.head?, c = '/') :
    (segment ++ rest).takeWhile (· ≠ '/') = segment ∧
      (segment ++ rest).dropWhile (· ≠ '/') = rest := by
  have hsegment : ∀ c ∈ segment, decide (c ≠ '/') = true := by
    intro c hc
    have hne : c ≠ '/' := fun heq => h (heq ▸ hc)
    simpa using hne
  rw [List.takeWhile_append_of_pos hsegment, List.dropWhile_append_of_pos hsegment]
  rcases rest with - | ⟨c, rest⟩
  · simp
  · obtain rfl := hrest c rfl
    simp

/-- Any other segment moves to the output. -/
theorem rewriteDots_rooted_plain (h : IsPlainSegment segment) (output : List Char)
    (segments : List (List Char)) (slash : Bool) :
    rewriteDots output (rooted (segment :: segments) slash)
      = rewriteDots (output ++ '/' :: segment) (rooted segments slash) := by
  have hrest : ∀ c ∈ (rooted segments slash).head?, c = '/' := by
    intro c hc
    rcases rooted_cases segments slash with ⟨-, -, hnil⟩ | ⟨rest, hrest⟩
    · rw [hnil] at hc
      cases hc
    · rw [hrest] at hc
      exact (Option.some.inj hc).symm
  obtain ⟨htake, hdrop⟩ := takeWhile_segment h.isSegment.2 hrest
  rw [rooted_cons, rewriteDots, htake, hdrop]
  -- no other rule applies, since the segment up to the next slash is neither of the two
  case x_5 =>
    rintro rest - heq
    rw [heq] at htake
    exact h.ne_dot htake.symm
  case x_6 =>
    rintro - heq
    rw [heq] at htake
    exact h.ne_dot htake.symm
  case x_7 =>
    rintro rest - heq
    rw [heq] at htake
    exact h.ne_dots htake.symm
  case x_8 =>
    rintro - heq
    rw [heq] at htake
    exact h.ne_dots htake.symm
  all_goals simp

/-! ### The walk -/

/-- The walk has kept segments that are not dot segments. -/
def Walk.IsPlain (w : Walk) : Prop := ∀ segment ∈ w.kept, IsPlainSegment segment

theorem Walk.IsPlain.step {w : Walk} (h : w.IsPlain) (hsegment : IsSegment segment) :
    (w.step segment).IsPlain := by
  unfold Walk.step
  split
  · exact h
  split
  · exact fun s hs => h s (List.mem_of_mem_tail hs)
  · next hdot hdots => exact List.forall_mem_cons.mpr ⟨⟨hsegment, hdot, hdots⟩, h⟩

theorem Walk.IsPlain.foldl {segments : List (List Char)} {w : Walk} (h : w.IsPlain)
    (hsegments : ∀ segment ∈ segments, IsSegment segment) :
    (segments.foldl Walk.step w).IsPlain := by
  induction segments generalizing w with
  | nil => exact h
  | cons segment segments ih =>
    exact ih (h.step (hsegments segment List.mem_cons_self))
      fun s hs => hsegments s (List.mem_cons_of_mem segment hs)

/-- What the walk has kept, written as a path. -/
def Walk.written (w : Walk) : List Char := rooted w.kept.reverse false

theorem Walk.IsPlain.dropSegment_written {w : Walk} (h : w.IsPlain) :
    dropSegment w.written = rooted w.kept.tail.reverse false := by
  rw [Walk.written]
  rcases hkept : w.kept with - | ⟨last, kept⟩
  · rfl
  · have hlast : IsPlainSegment last := h last (hkept ▸ List.mem_cons_self)
    rw [rooted_reverse_cons, dropSegment_append hlast.isSegment.2, List.tail_cons]

/-- A walk whose last step met a dot segment ends in a slash. -/
theorem Walk.slash_foldl {w : Walk} (h : w.slash = true) (segments : List (List Char)) :
    ((segments.foldl Walk.step w).slash || (slash || segments.isEmpty))
      = ((segments.foldl Walk.step w).slash || slash) := by
  rcases segments with - | ⟨segment, segments⟩
  · simp [h]
  · simp

/-- **The rewriting keeps what the walk keeps**: from what was kept it goes on with the segments
that are to come. -/
theorem rewriteDots_written {segments : List (List Char)} {w : Walk} (slash : Bool) (h : w.IsPlain)
    (hsegments : ∀ segment ∈ segments, IsSegment segment)
    (hslash : segments = [] → (w.slash || slash) = slash) :
    rewriteDots w.written (rooted segments slash)
      = rooted (segments.foldl Walk.step w).kept.reverse
          ((segments.foldl Walk.step w).slash || slash) := by
  induction segments generalizing w slash with
  | nil =>
    rw [List.foldl_nil, hslash rfl]
    rcases slash with - | -
    · simp [rooted, Walk.written, rewriteDots]
    · simp [rooted, Walk.written, rewriteDots]
  | cons segment segments ih =>
    have hsegment := hsegments segment List.mem_cons_self
    have hrest := fun s hs => hsegments s (List.mem_cons_of_mem segment hs)
    have hstep := h.step hsegment
    rw [List.foldl_cons]
    by_cases hdot : segment = ['.']
    · -- the walk stays where it is, above a slash
      have hafter : w.step segment = ⟨w.kept, true⟩ := if_pos hdot
      have hend := ih (slash || segments.isEmpty) hstep hrest
        (by rintro rfl; simp)
      rw [Walk.slash_foldl (by rw [hafter])] at hend
      rw [← hend, hafter, hdot, (rewriteDots_rooted_dots _ _ _).1]
      rfl
    by_cases hdots : segment = ['.', '.']
    · have hafter : w.step segment = ⟨w.kept.tail, true⟩ := by
        rw [Walk.step, if_neg hdot, if_pos hdots]
      have hend := ih (slash || segments.isEmpty) hstep hrest
        (by rintro rfl; simp)
      rw [Walk.slash_foldl (by rw [hafter])] at hend
      rw [← hend, hafter, hdots, (rewriteDots_rooted_dots _ _ _).2, h.dropSegment_written]
      rfl
    · have hafter : w.step segment = ⟨segment :: w.kept, false⟩ := by
        rw [Walk.step, if_neg hdot, if_neg hdots]
      have hend := ih slash hstep hrest (by rw [hafter]; simp)
      rw [← hend, rewriteDots_rooted_plain ⟨hsegment, hdot, hdots⟩, Walk.written, Walk.written,
        hafter, rooted_reverse_cons]

/-! ### Paths that start with a slash -/

/-- Pieces behind one slash each are pieces between slashes, behind a first one. -/
theorem flatMap_eq_cons_intercalate (h : pieces ≠ []) :
    pieces.flatMap ('/' :: ·) = '/' :: List.intercalate ['/'] pieces := by
  induction pieces with
  | nil => exact absurd rfl h
  | cons piece pieces ih =>
    rcases pieces with - | ⟨next, pieces⟩
    · simp
    · rw [List.flatMap_cons, ih (by simp), List.intercalate_cons_cons]
      simp

/-- The pieces of a path behind each of its slashes. -/
theorem exists_pieces (rest : List Char) : ∃ pieces : List (List Char), pieces ≠ [] ∧
    (∀ piece ∈ pieces, '/' ∉ piece) ∧ '/' :: rest = pieces.flatMap ('/' :: ·) ∧
    segments ('/' :: rest) = pieces.filter (· ≠ []) := by
  have hne := Text.splitWhen_ne_nil (· = '/') rest
  refine ⟨Text.splitWhen (· = '/') rest, hne, fun piece hpiece hmem => ?_, ?_, ?_⟩
  · have hcut := Text.not_cut_of_mem_splitWhen piece hpiece _ hmem
    simp at hcut
  · rw [flatMap_eq_cons_intercalate hne, Text.splitWhen_eq_splitOnP]
    exact congrArg _ (List.intercalate_splitOn '/').symm
  · simp [segments, Text.splitWhen]

/-- A path ends in a slash if nothing stands behind its last one. -/
theorem getLast?_flatMap (hne : pieces ≠ []) (h : ∀ piece ∈ pieces, '/' ∉ piece) :
    (pieces.flatMap ('/' :: ·)).getLast? = some '/' ↔ pieces.getLast? = some [] := by
  obtain ⟨front, last, rfl⟩ := (List.eq_nil_or_concat pieces).resolve_left hne
  have hlast := h last (by simp)
  rcases List.eq_nil_or_concat last with rfl | ⟨last, c, rfl⟩
  · simp
  · have hc : c ≠ '/' := by
      rintro rfl
      exact hlast (by simp)
    simp [List.getLast?_cons, hc]

/-- Segments, and an empty piece behind the slash at the end. -/
def withEnd (segments : List (List Char)) (slash : Bool) : List (List Char) :=
  segments ++ if slash then [[]] else []

theorem rooted_eq_flatMap (segments : List (List Char)) (slash : Bool) :
    rooted segments slash = (withEnd segments slash).flatMap ('/' :: ·) := by
  rcases slash with - | - <;> simp [rooted, withEnd]

theorem withEnd_ne_nil {segments : List (List Char)} (h : segments = [] → slash = true) :
    withEnd segments slash ≠ [] := by
  intro hnil
  obtain ⟨rfl, hslash⟩ := List.append_eq_nil_iff.mp hnil
  simp [h rfl] at hslash

/-- A piece is one of the segments, or the empty one. -/
theorem mem_or_eq_nil_of_mem_withEnd {segments : List (List Char)} {piece : List Char}
    (h : piece ∈ withEnd segments slash) : piece ∈ segments ∨ piece = [] := by
  rcases List.mem_append.mp h with h | h
  · exact .inl h
  · split at h
    · exact .inr (List.mem_singleton.mp h)
    · cases h

theorem slash_not_mem_of_mem_withEnd {segments : List (List Char)}
    (hsegments : ∀ segment ∈ segments, '/' ∉ segment) (slash : Bool) :
    ∀ piece ∈ withEnd segments slash, '/' ∉ piece := by
  intro piece hpiece
  rcases mem_or_eq_nil_of_mem_withEnd hpiece with hmem | rfl
  · exact hsegments piece hmem
  · exact List.not_mem_nil

theorem getLast?_rooted {segments : List (List Char)} (h : segments = [] → slash = true)
    (hsegments : ∀ segment ∈ segments, IsSegment segment) :
    (rooted segments slash).getLast? = some '/' ↔ slash = true := by
  rw [rooted_eq_flatMap, getLast?_flatMap (withEnd_ne_nil h)
    (slash_not_mem_of_mem_withEnd (fun s hs => (hsegments s hs).2) slash)]
  rcases slash with - | -
  · have hfull : [] ∉ segments := fun hmem => (hsegments [] hmem).1 rfl
    have hlast : segments.getLast? ≠ some [] := fun heq => hfull (List.mem_of_getLast? heq)
    simpa [withEnd] using hlast
  · simp [withEnd]

theorem isSegment_of_mem_segments (h : segment ∈ segments ('/' :: rest)) : IsSegment segment := by
  obtain ⟨pieces, -, hslash, -, hsegments⟩ := exists_pieces rest
  rw [hsegments] at h
  obtain ⟨hmem, hne⟩ := List.mem_filter.mp h
  exact ⟨by simpa using hne, hslash segment hmem⟩

/-- **Without runs of slashes** the segments of a path stand behind one slash each. -/
theorem collapseSlashes_cons (rest : List Char) :
    collapseSlashes ('/' :: rest)
      = rooted (segments ('/' :: rest)) (('/' :: rest).getLast? = some '/') := by
  obtain ⟨pieces, hne, hslash, hpath, hsegments⟩ := exists_pieces rest
  rw [hsegments, hpath, collapseSlashes_flatMap hslash]
  simp only [getLast?_flatMap hne hslash]

/-- A path without segments ends in a slash. -/
theorem getLast?_of_segments_eq_nil (h : segments ('/' :: rest) = []) :
    ('/' :: rest).getLast? = some '/' := by
  obtain ⟨pieces, hne, hslash, hpath, hsegments⟩ := exists_pieces rest
  rw [hpath, getLast?_flatMap hne hslash]
  obtain ⟨front, last, rfl⟩ := (List.eq_nil_or_concat pieces).resolve_left hne
  rw [hsegments, List.filter_eq_nil_iff] at h
  have hlast := h last (by simp)
  simpa using hlast

/-! ### Both ways -/

/-- The walk over a path. -/
def walkOf (path : List Char) : Walk :=
  (segments path).foldl Walk.step ⟨[], path.getLast? = some '/'⟩

theorem isPlain_walkOf (rest : List Char) : (walkOf ('/' :: rest)).IsPlain :=
  Walk.IsPlain.foldl (by simp [Walk.IsPlain]) fun _ h => isSegment_of_mem_segments h

/-- A walk that has kept nothing ends in a slash. -/
theorem slash_walkOf_of_kept_eq_nil (h : (walkOf ('/' :: rest)).kept = []) :
    (walkOf ('/' :: rest)).slash = true := by
  rw [walkOf] at h ⊢
  rcases List.eq_nil_or_concat (segments ('/' :: rest)) with hnil | ⟨front, last, hsegments⟩
  · rw [hnil]
    exact decide_eq_true (getLast?_of_segments_eq_nil hnil)
  · rw [hsegments, List.concat_eq_append, List.foldl_append] at h ⊢
    rw [List.foldl_cons, List.foldl_nil, Walk.step] at h ⊢
    split
    · rfl
    split
    · rfl
    · next hdot hdots =>
      rw [if_neg hdot, if_neg hdots] at h
      cases h

/-- What is left of a path are the segments that the walk has kept. -/
theorem removeDotSegments_cons (rest : List Char) :
    removeDotSegments ('/' :: rest)
      = rooted (walkOf ('/' :: rest)).kept.reverse
          ((walkOf ('/' :: rest)).slash || decide (('/' :: rest).getLast? = some '/')) := by
  have hwalk : removeDotSegments ('/' :: rest)
      = if (walkOf ('/' :: rest)).slash || decide (('/' :: rest).getLast? = some '/')
          || decide ((walkOf ('/' :: rest)).kept.reverse.flatMap ('/' :: ·) = [])
        then (walkOf ('/' :: rest)).kept.reverse.flatMap ('/' :: ·) ++ ['/']
        else (walkOf ('/' :: rest)).kept.reverse.flatMap ('/' :: ·) := rfl
  rw [hwalk, rooted]
  by_cases hslash : (walkOf ('/' :: rest)).slash = true
  · simp [hslash]
  · -- then something was kept, so there is some text in front of where a slash might be
    have hkept : (walkOf ('/' :: rest)).kept ≠ [] := mt slash_walkOf_of_kept_eq_nil hslash
    have htext : (walkOf ('/' :: rest)).kept.reverse.flatMap ('/' :: ·) ≠ [] := by
      obtain ⟨last, kept, hkept⟩ := List.exists_cons_of_ne_nil hkept
      simp [hkept]
    simp only [htext, decide_false, Bool.or_false]
    split <;> simp

/-- **Dot segments are taken out as by rewriting.** -/
theorem removeDotSegments_eq_rewriteDots (rest : List Char) :
    removeDotSegments ('/' :: rest) = rewriteDots [] (collapseSlashes ('/' :: rest)) := by
  rw [removeDotSegments_cons, collapseSlashes_cons]
  have hsegments : ∀ segment ∈ segments ('/' :: rest), IsSegment segment :=
    fun _ h => isSegment_of_mem_segments h
  have hrun := rewriteDots_written (w := ⟨[], ('/' :: rest).getLast? = some '/'⟩)
    (('/' :: rest).getLast? = some '/') (by simp [Walk.IsPlain]) hsegments
    (fun _ => Bool.or_self _)
  exact hrun.symm

/-- The example that comes with the rules of rewriting. -/
example : rewriteDots [] "/a/b/c/./../../g".toList = "/a/g".toList := by cbv

/-! ### How a path ends -/

theorem isSuffix_append_cons_iff (h : '/' ∉ segment) (ending : List Char) (hending : '/' ∉ ending)
    (front : List Char) : ('/' :: ending) <:+ front ++ '/' :: segment ↔ segment = ending := by
  constructor
  · rintro ⟨before, hbefore⟩
    have hcut := congrArg (Text.splitLast? '/') hbefore
    rw [Text.splitLast?_append hending, Text.splitLast?_append h] at hcut
    exact (Prod.mk.inj (Option.some.inj hcut)).2.symm
  · rintro rfl
    exact List.suffix_append front _

/-- A walk ends in a slash after a dot segment. -/
theorem slash_step (w : Walk) (segment : List Char) :
    (w.step segment).slash = true ↔ segment = ['.'] ∨ segment = ['.', '.'] := by
  unfold Walk.step
  split
  · next h => simp [h]
  split
  · next h => simp [h]
  · next h h' => simp [h, h']

/-- What is left of a path ends in a slash if the path ends in one, or in a dot segment. -/
theorem slash_walkOf_iff :
    ((walkOf ('/' :: rest)).slash || decide (('/' :: rest).getLast? = some '/')) = true ↔
      ∃ ending ∈ [['/'], ['/', '.'], ['/', '.', '.']],
        ending <:+ collapseSlashes ('/' :: rest) := by
  rw [collapseSlashes_cons]
  by_cases hslash : ('/' :: rest).getLast? = some '/'
  · rw [decide_eq_true hslash, Bool.or_true]
    simp [rooted]
  · have hne : segments ('/' :: rest) ≠ [] := mt getLast?_of_segments_eq_nil hslash
    obtain ⟨front, last, hlast⟩ := (List.eq_nil_or_concat _).resolve_left hne
    rw [List.concat_eq_append] at hlast
    have hsegment : IsSegment last := isSegment_of_mem_segments (by rw [hlast]; simp)
    have hwalk : (walkOf ('/' :: rest)).slash = true ↔ last = ['.'] ∨ last = ['.', '.'] := by
      rw [walkOf, hlast, List.foldl_append]
      exact slash_step _ last
    have hwhole : rooted (segments ('/' :: rest)) false = rooted front false ++ '/' :: last := by
      simp [hlast, rooted]
    have hempty := isSuffix_append_cons_iff hsegment.2 [] (by simp)
    have hdot := isSuffix_append_cons_iff hsegment.2 ['.'] (by simp)
    have hdots := isSuffix_append_cons_iff hsegment.2 ['.', '.'] (by simp)
    rw [decide_eq_false hslash, Bool.or_false, hwalk, hwhole]
    simp [hempty, hdot, hdots, hsegment.1]

/-! ### Normal paths -/

/-- The pieces of a path behind its slashes. -/
def parts (path : List Char) : List (List Char) := (Text.splitWhen (· = '/') path).tail

/-- A path with neither empty segments nor dot segments. -/
structure IsNormal (path : List Char) : Prop where
  absolute : path.head? = some '/'
  /-- Only behind the last slash there may be nothing. -/
  nonempty : ∀ part ∈ (parts path).dropLast, part ≠ []
  noDots : ∀ part ∈ parts path, part ≠ ['.'] ∧ part ≠ ['.', '.']

/-- The path has segments, or at least a slash. -/
theorem exists_rooted_eq {segments : List (List Char)} (h : segments = [] → slash = true) :
    ∃ rest, rooted segments slash = '/' :: rest := by
  refine (rooted_cases segments slash).resolve_left ?_
  rintro ⟨hnil, hslash, -⟩
  rw [h hnil] at hslash
  cases hslash

theorem parts_rooted {segments : List (List Char)} (h : segments = [] → slash = true)
    (hsegments : ∀ segment ∈ segments, IsSegment segment) :
    parts (rooted segments slash) = withEnd segments slash := by
  have hslashes := slash_not_mem_of_mem_withEnd (fun s hs => (hsegments s hs).2) slash
  rw [parts, rooted_eq_flatMap, flatMap_eq_cons_intercalate (withEnd_ne_nil h), Text.splitWhen,
    if_pos (by simp), List.tail_cons, Text.splitWhen_intercalate (withEnd_ne_nil h) hslashes]

theorem isNormal_rooted {segments : List (List Char)} (h : segments = [] → slash = true)
    (hsegments : ∀ segment ∈ segments, IsPlainSegment segment) :
    IsNormal (rooted segments slash) := by
  have hparts := parts_rooted h fun s hs => (hsegments s hs).isSegment
  obtain ⟨rest, hrest⟩ := exists_rooted_eq h
  refine ⟨by rw [hrest]; rfl, fun part hpart => ?_, fun part hpart => ?_⟩
  · have hmem : part ∈ segments := by
      rw [hparts, withEnd] at hpart
      rcases slash with - | -
      · simpa using List.dropLast_subset _ hpart
      · simpa using hpart
    exact (hsegments part hmem).isSegment.1
  · rw [hparts] at hpart
    rcases mem_or_eq_nil_of_mem_withEnd hpart with hmem | rfl
    · exact ⟨(hsegments part hmem).ne_dot, (hsegments part hmem).ne_dots⟩
    · exact ⟨nofun, nofun⟩

theorem segments_rooted {segments : List (List Char)} (h : segments = [] → slash = true)
    (hsegments : ∀ segment ∈ segments, IsSegment segment) :
    Signing.segments (rooted segments slash) = segments := by
  obtain ⟨rest, hrest⟩ := exists_rooted_eq h
  have hparts : Signing.segments (rooted segments slash)
      = (parts (rooted segments slash)).filter (· ≠ []) := by
    rw [hrest]
    simp [Signing.segments, parts, Text.splitWhen]
  have hfull : segments.filter (· ≠ []) = segments :=
    List.filter_eq_self.mpr fun s hs => by simpa using (hsegments s hs).1
  rw [hparts, parts_rooted h hsegments, withEnd, List.filter_append, hfull]
  rcases slash with - | - <;> simp

/-- A walk along plain segments goes down all the way. -/
theorem foldl_step_of_plain {segments : List (List Char)}
    (hsegments : ∀ segment ∈ segments, IsPlainSegment segment) (w : Walk) :
    segments.foldl Walk.step w = ⟨segments.reverse ++ w.kept, segments.isEmpty && w.slash⟩ := by
  induction segments generalizing w with
  | nil => simp
  | cons segment segments ih =>
    have hplain := hsegments segment List.mem_cons_self
    rw [List.foldl_cons, ih fun s hs => hsegments s (List.mem_cons_of_mem segment hs), Walk.step,
      if_neg hplain.ne_dot, if_neg hplain.ne_dots]
    simp

/-- **A normal path is left as it is.** -/
theorem removeDotSegments_rooted {segments : List (List Char)} (h : segments = [] → slash = true)
    (hsegments : ∀ segment ∈ segments, IsPlainSegment segment) :
    removeDotSegments (rooted segments slash) = rooted segments slash := by
  have hplain : ∀ s ∈ segments, IsSegment s := fun s hs => (hsegments s hs).isSegment
  have hend : decide ((rooted segments slash).getLast? = some '/') = slash := by
    simp only [getLast?_rooted h hplain, Bool.decide_eq_true]
  have hwalk : walkOf (rooted segments slash) = ⟨segments.reverse, segments.isEmpty && slash⟩ := by
    rw [walkOf, segments_rooted h hplain, foldl_step_of_plain hsegments, List.append_nil, hend]
  obtain ⟨rest, hrest⟩ := exists_rooted_eq h
  have hpath := removeDotSegments_cons rest
  rw [← hrest, hwalk, hend, List.reverse_reverse] at hpath
  rw [hpath]
  rcases slash with - | - <;> simp

/-! ### The whole -/

/-- **Dot segments are taken out as by rewriting**, and nothing is left to be taken out: the path
that comes out is normal, it ends in a slash if the path did, up to a dot segment, or if nothing
else is left of it, and it comes out again as it is. -/
theorem removeDotSegments_eq_and_isNormal (rest : List Char) :
    removeDotSegments ('/' :: rest) = rewriteDots [] (collapseSlashes ('/' :: rest)) ∧
    IsNormal (removeDotSegments ('/' :: rest)) ∧
    ((removeDotSegments ('/' :: rest)).getLast? = some '/' ↔
      (∃ ending ∈ [['/'], ['/', '.'], ['/', '.', '.']],
        ending <:+ collapseSlashes ('/' :: rest)) ∨ removeDotSegments ('/' :: rest) = ['/']) ∧
    removeDotSegments (removeDotSegments ('/' :: rest)) = removeDotSegments ('/' :: rest) := by
  have hplain : ∀ segment ∈ (walkOf ('/' :: rest)).kept.reverse, IsPlainSegment segment :=
    fun s hs => isPlain_walkOf rest s (List.mem_reverse.mp hs)
  have hslash : (walkOf ('/' :: rest)).kept.reverse = [] →
      ((walkOf ('/' :: rest)).slash || decide (('/' :: rest).getLast? = some '/')) = true := by
    intro hkept
    rw [slash_walkOf_of_kept_eq_nil (List.reverse_eq_nil_iff.mp hkept), Bool.true_or]
  refine ⟨removeDotSegments_eq_rewriteDots rest, ?_, ⟨fun hend => ?_, ?_⟩, ?_⟩
  · rw [removeDotSegments_cons]
    exact isNormal_rooted hslash hplain
  · rw [removeDotSegments_cons, getLast?_rooted hslash fun s hs => (hplain s hs).isSegment] at hend
    exact .inl (slash_walkOf_iff.mp hend)
  · rintro (hending | hroot)
    · rw [removeDotSegments_cons, getLast?_rooted hslash fun s hs => (hplain s hs).isSegment]
      exact slash_walkOf_iff.mpr hending
    · rw [hroot]
      rfl
  · rw [removeDotSegments_cons, removeDotSegments_rooted hslash hplain]

end AwsSigning.Signing
