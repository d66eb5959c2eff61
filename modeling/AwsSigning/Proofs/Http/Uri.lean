/-
AwsSigning/Proofs/Http/Uri.lean

A target reads back as it was written:

    Target.parse t.render  =  .ok t

Every target carries the proof that its path and its query hold nothing but
their own characters, so the first question mark of the written form is the
one between them, and no fragment opens.

An authority carries no such proof, but one that was read holds no space
(`Uri.spaceless_of_parse`).

A scheme and an authority end before the first slash that belongs to neither,
so two texts that share what stands before such a slash name the same server
(`Uri.sameServer_of_parse`).
-/
import AwsSigning.Http.Uri
import AwsSigning.Proofs.Steps

namespace AwsSigning

/-! ### Characters -/

theorem ne_mark_of_isPathChar {c : Char} (h : isPathChar c = true) : c ≠ '?' ∧ c ≠ '#' := by
  constructor
  all_goals
    rintro rfl
    revert h
    decide

theorem ne_mark_of_isQueryChar {c : Char} (h : isQueryChar c = true) : c ≠ '#' := by
  rintro rfl
  revert h
  decide

/-- A legal target is the lone star, or has a path behind a slash. -/
theorem isTarget_iff {path : String} {query : Option String} :
    isTarget path query = true ↔
      (path = "*" ∧ query = none) ∨
        (∃ rest, path.toList = '/' :: rest) ∧ (∀ c ∈ path.toList, isPathChar c = true) ∧
          ∀ q ∈ query, ∀ c ∈ q.toList, isQueryChar c = true := by
  have hhead : path.toList.head? = some '/' ↔ ∃ rest, path.toList = '/' :: rest := by
    rcases path.toList with - | ⟨c, rest⟩ <;> simp
  rcases query with - | query <;> simp [isTarget, hhead, and_assoc]

/-- Without its query a target is still one. -/
theorem isTarget_none {path : String} {query : Option String} (h : isTarget path query = true) :
    isTarget path none = true := by
  rcases isTarget_iff.mp h with ⟨hstar, -⟩ | ⟨hslash, hchars, -⟩
  · exact isTarget_iff.mpr (.inl ⟨hstar, rfl⟩)
  · exact isTarget_iff.mpr (.inr ⟨hslash, hchars, by simp⟩)

namespace Target

/-! ### Reading what was written -/

/-- What a query adds to a written path. -/
def queryChars : Option String → List Char
  | none => []
  | some query => '?' :: query.toList

theorem toList_render (t : Target) : t.render.toList = t.path.toList ++ queryChars t.query := by
  rcases h : t.query with - | query <;> simp [render, queryChars, h]

/-- A path is read up to the question mark, or to the end. -/
theorem takeWhile_path {path : List Char} (hpath : ∀ c ∈ path, isPathChar c = true)
    (query : Option String) :
    (path ++ queryChars query).takeWhile (fun c => c ≠ '?' && c ≠ '#') = path := by
  have hkeep : ∀ c ∈ path, (decide (c ≠ '?') && decide (c ≠ '#')) = true := by
    intro c hc
    simpa using ne_mark_of_isPathChar (hpath c hc)
  rw [List.takeWhile_append_of_pos hkeep]
  rcases query with - | query <;> simp [queryChars]

/-- A query without a fragment is read to the end. -/
theorem queryAfter_queryChars {query : Option String}
    (h : ∀ q ∈ query, ∀ c ∈ q.toList, isQueryChar c = true) :
    queryAfter (queryChars query) = query := by
  rcases query with - | query
  · rfl
  · have hkeep : ∀ c ∈ query.toList, decide (c ≠ '#') = true := by
      intro c hc
      simpa using ne_mark_of_isQueryChar (h query rfl c hc)
    have hall : query.toList.takeWhile (fun c => decide (c ≠ '#')) = query.toList := by
      rw [← List.append_nil query.toList, List.takeWhile_append_of_pos (by simpa using hkeep),
        List.takeWhile_nil]
    rw [queryChars, queryAfter, dropFragment, hall, String.ofList_toList]

/-- **A written target is read back.** -/
theorem parse_render (t : Target) : Target.parse t.render = .ok t := by
  obtain ⟨path, query, legal⟩ := t
  rcases isTarget_iff.mp legal with ⟨rfl, rfl⟩ | ⟨⟨rest, hslash⟩, hpath, hquery⟩
  · simp [Target.parse, toList_render, queryChars, Target.star]
  have hchars : ofChars (path.toList ++ queryChars query) = .ok ⟨path, query, legal⟩ := by
    have hshown : (if path.toList = [] then "/" else String.ofList path.toList) = path := by
      rw [hslash, if_neg (List.cons_ne_nil _ _), ← hslash, String.ofList_toList]
    simp only [ofChars, takeWhile_path hpath, List.drop_left, queryAfter_queryChars hquery, hshown,
      legal, dif_pos]
  -- a path starts with a slash, so the written form is neither empty nor the star
  rw [Target.parse, toList_render]
  rw [hslash] at hchars ⊢
  exact hchars

end Target

/-! ### Authorities -/

namespace Uri

/-- There is no space in the authority. -/
def Spaceless (u : Uri) : Prop := ∀ authority ∈ u.authority, ' ' ∉ authority.toList

/-- A space is refused wherever it stands. -/
theorem not_mem_of_foldlM_step {scan scan' : AuthorityScan} {s : List Char}
    (h : s.foldlM AuthorityScan.step scan = .ok scan') : ' ' ∉ s := by
  induction s generalizing scan with
  | nil => simp
  | cons c s ih =>
    rw [List.foldlM_cons] at h
    obtain ⟨next, hstep, hrest⟩ := bind_eq_ok_iff.mp h
    have hc : c ≠ ' ' := by
      rintro rfl
      cases hstep
    simpa [hc.symm] using ih hrest

theorem not_mem_of_splitAuthority {s authority rest : List Char}
    (h : splitAuthority s = .ok (authority, rest)) : ' ' ∉ authority := by
  unfold splitAuthority at h
  split at h
  · cases h
  obtain ⟨scan, hscan, h⟩ := bind_eq_ok_iff.mp h
  split at h
  · cases h
    exact not_mem_of_foldlM_step hscan
  · cases h

theorem authority_of_parseFull {s : List Char} {u : Uri} (h : Uri.parseFull s = .ok u) :
    ∃ rest authority after, splitAuthority rest = .ok (authority, after) ∧
      u.authority = some (String.ofList authority) := by
  obtain ⟨⟨scheme, rest⟩, -, h⟩ := bind_eq_ok_iff.mp h
  obtain ⟨⟨authority, after⟩, hauthority, h⟩ := bind_eq_ok_iff.mp h
  refine ⟨rest, authority, after, hauthority, ?_⟩
  rcases scheme with - | scheme
  · dsimp only at h
    split at h
    · cases h
      rfl
    · split at h <;> cases h
  · dsimp only at h
    split at h
    · cases h
    · obtain ⟨target, -, h⟩ := bind_eq_ok_iff.mp h
      cases h
      rfl

/-- A URI that was read holds no space in its authority. -/
theorem spaceless_of_parse {text : String} {u : Uri} (h : Uri.parse text = .ok u) :
    u.Spaceless := by
  intro authority hauthority
  unfold Uri.parse at h
  split at h
  · cases h
  split at h
  · cases h
  · cases h
    cases hauthority
  · obtain ⟨target, -, h⟩ := bind_eq_ok_iff.mp h
    cases h
    cases hauthority
  · obtain ⟨rest, found, after, hfound, hu⟩ := authority_of_parseFull h
    rw [hu] at hauthority
    cases hauthority
    rw [String.toList_ofList]
    exact not_mem_of_splitAuthority hfound

end Uri

/-! ### Servers -/

/-- What stops at a character does not look behind it. -/
theorem takeWhile_append_cons {α : Type} {p : α → Bool} {a : α} (ha : p a = false) (s t : List α) :
    (s ++ a :: t).takeWhile p = s.takeWhile p := by
  induction s with
  | nil => simp [ha]
  | cons b s ih => simp [List.takeWhile_cons, ih]

/-- What is left behind the characters that were taken. -/
theorem drop_takeWhile_append {α : Type} (p : α → Bool) (s t : List α) :
    (s ++ t).drop (s.takeWhile p).length = s.dropWhile p ++ t := by
  induction s with
  | nil => rfl
  | cons b s ih => by_cases hb : p b <;> simp [hb, ih]

namespace Uri

variable {s rest t : List Char} {scheme : String} {u v : Uri}

/-- The part of a text before a slash has a scheme, and it has the same one whatever follows. -/
def HasScheme (s : List Char) (scheme : String) (rest : List Char) : Prop :=
  ∀ t, splitScheme (s ++ '/' :: t) = .ok (some scheme, rest ++ '/' :: t)

/-- A scheme ends before any slash. -/
theorem splitScheme_append (s t : List Char) : splitScheme (s ++ '/' :: t) =
    match s.dropWhile isSchemeChar ++ '/' :: t with
    | ':' :: '/' :: '/' :: rest =>
      if s.takeWhile isSchemeChar = [] ∧ rest = [] then .ok (none, s ++ '/' :: t)
      else if (s.takeWhile isSchemeChar).length > maxSchemeLength then .error .schemeTooLong
      else
        let small := (s.takeWhile isSchemeChar).map Char.toLower
        let known := small = "http".toList || small = "https".toList
        .ok (some (String.ofList (if known then small else s.takeWhile isSchemeChar)), rest)
    | _ => .ok (none, s ++ '/' :: t) := by
  have hscheme : (s ++ '/' :: t).takeWhile isSchemeChar = s.takeWhile isSchemeChar :=
    takeWhile_append_cons (by decide) s t
  have hrest : (s ++ '/' :: t).drop (s.takeWhile isSchemeChar).length
      = s.dropWhile isSchemeChar ++ '/' :: t :=
    drop_takeWhile_append isSchemeChar s _
  rw [← hrest, ← hscheme]
  rfl

/-- The marks behind a scheme are not made of what follows. -/
theorem exists_eq_of_append_eq {d : List Char} (hd : d.getLast? ≠ some '/')
    (ht : t.head? ≠ some '/') (h : d ++ '/' :: t = ':' :: '/' :: '/' :: rest) :
    ∃ r, d = ':' :: '/' :: '/' :: r ∧ rest = r ++ '/' :: t := by
  rcases d with - | ⟨a, - | ⟨b, - | ⟨c, r⟩⟩⟩
  · simp at h
  · simp only [List.cons_append, List.nil_append, List.cons.injEq] at h
    obtain ⟨-, -, rfl⟩ := h
    exact absurd rfl ht
  · simp only [List.cons_append, List.nil_append, List.cons.injEq] at h
    obtain ⟨-, rfl, -⟩ := h
    exact absurd rfl hd
  · simp only [List.cons_append, List.cons.injEq] at h
    obtain ⟨rfl, rfl, rfl, rfl⟩ := h
    exact ⟨r, rfl, rfl⟩

/-- An authority ends before any slash. -/
theorem splitAuthority_append {authority after : List Char}
    (h : splitAuthority (s ++ '/' :: t) = .ok (authority, after)) :
    authority = s.takeWhile (!endsAuthority ·) ∧ after ≠ [] := by
  have htaken : (s ++ '/' :: t).takeWhile (!endsAuthority ·) = s.takeWhile (!endsAuthority ·) :=
    takeWhile_append_cons (by decide) s t
  unfold splitAuthority at h
  split at h
  · cases h
  obtain ⟨scan, -, h⟩ := bind_eq_ok_iff.mp h
  split at h
  · cases h
    rw [htaken, drop_takeWhile_append]
    exact ⟨rfl, by simp⟩
  · cases h

/-- A URI with something behind its server has a scheme. -/
theorem exists_hasScheme (hs : s.getLast? ≠ some '/') (ht : t.head? ≠ some '/')
    (h : parseFull (s ++ '/' :: t) = .ok u) : ∃ scheme rest, HasScheme s scheme rest := by
  obtain ⟨⟨scheme?, rest⟩, hscheme, hrest⟩ := bind_eq_ok_iff.mp h
  obtain ⟨⟨authority, after⟩, hauthority, hafter⟩ := bind_eq_ok_iff.mp hrest
  rw [splitScheme_append] at hscheme
  split at hscheme
  · next _ heq =>
    have hd : (s.dropWhile isSchemeChar).getLast? ≠ some '/' := by
      intro hlast
      have hsplit := List.takeWhile_append_dropWhile (p := isSchemeChar) (l := s)
      exact hs (by rw [← hsplit, List.getLast?_append, hlast, Option.some_or])
    obtain ⟨r, hr, rfl⟩ := exists_eq_of_append_eq hd ht heq
    rw [if_neg (by simp)] at hscheme
    split at hscheme
    · cases hscheme
    · next hlength =>
      have hfound := (Prod.mk.inj (Except.ok.inj hscheme)).1
      rcases scheme? with - | scheme
      · cases hfound
      refine ⟨scheme, r, fun t => ?_⟩
      rw [splitScheme_append, hr]
      simp only [List.cons_append]
      rw [if_neg (by simp), if_neg hlength]
      exact congrArg (fun found => Except.ok (found, r ++ '/' :: t)) hfound
  · -- without a scheme there is nothing behind an authority
    obtain ⟨rfl, rfl⟩ := Prod.mk.inj (Except.ok.inj hscheme)
    dsimp only at hafter
    rw [if_neg (splitAuthority_append hauthority).2] at hafter
    split at hafter <;> cases hafter

theorem server_of_hasScheme (hscheme : HasScheme s scheme rest)
    (h : parseFull (s ++ '/' :: t) = .ok u) :
    u.scheme = some scheme ∧
      u.authority = some (String.ofList (rest.takeWhile (!endsAuthority ·))) := by
  simp only [parseFull, hscheme t, bind_eq_ok_iff] at h
  obtain ⟨_, ⟨⟩, ⟨authority, after⟩, hauthority, h⟩ := h
  dsimp only at h
  split at h
  · cases h
  · obtain ⟨target, -, h⟩ := bind_eq_ok_iff.mp h
    cases h
    exact ⟨rfl, by rw [(splitAuthority_append hauthority).1]⟩

/-- The two URIs name the same server, or neither names one. -/
def SameServer (u v : Uri) : Prop := u.scheme = v.scheme ∧ u.authority = v.authority

theorem parse_of_ne_slash {text : String} (h : text.toList = s ++ '/' :: t) (hs : s ≠ [])
    (hslash : s.head? ≠ some '/') (hu : Uri.parse text = .ok u) :
    parseFull (s ++ '/' :: t) = .ok u := by
  unfold Uri.parse at hu
  rw [h] at hu
  split at hu
  · cases hu
  split at hu
  · cases hu
  · next heq =>
    rcases s with - | ⟨c, s⟩
    · exact absurd rfl hs
    · simp at heq
  · next heq =>
    rcases s with - | ⟨c, s⟩
    · exact absurd rfl hs
    · simp only [List.cons_append, List.cons.injEq] at heq
      obtain ⟨rfl, -⟩ := heq
      exact absurd rfl hslash
  · exact hu

/-- Behind a slash no server is named. -/
theorem server_of_slash {text : String} (h : text.toList = '/' :: t) (hu : Uri.parse text = .ok u) :
    u.scheme = none ∧ u.authority = none := by
  unfold Uri.parse at hu
  rw [h] at hu
  split at hu
  · cases hu
  · obtain ⟨target, -, hu⟩ := bind_eq_ok_iff.mp hu
    cases hu
    exact ⟨rfl, rfl⟩

/-- **What follows a slash does not change the server.** -/
theorem sameServer_of_parse {base path path' : String} {t t' : List Char}
    (hbase : base.toList.getLast? ≠ some '/') (hpath : path.toList = '/' :: t)
    (ht : t.head? ≠ some '/') (hpath' : path'.toList = '/' :: t')
    (hu : Uri.parse (base ++ path) = .ok u) (hv : Uri.parse (base ++ path') = .ok v) :
    u.SameServer v := by
  have htext : (base ++ path).toList = base.toList ++ '/' :: t := by simp [hpath]
  have htext' : (base ++ path').toList = base.toList ++ '/' :: t' := by simp [hpath']
  generalize base.toList = s at hbase htext htext'
  by_cases hslash : ∀ t, ∃ rest, s ++ '/' :: t = '/' :: rest
  · obtain ⟨rest, hrest⟩ := hslash t
    obtain ⟨rest', hrest'⟩ := hslash t'
    obtain ⟨hscheme, hauthority⟩ := server_of_slash (htext.trans hrest) hu
    obtain ⟨hscheme', hauthority'⟩ := server_of_slash (htext'.trans hrest') hv
    exact ⟨hscheme.trans hscheme'.symm, hauthority.trans hauthority'.symm⟩
  · have hs : s ≠ [] := by
      rintro rfl
      exact hslash fun t => ⟨t, rfl⟩
    have hhead : s.head? ≠ some '/' := by
      intro hhead
      obtain ⟨rest, rfl⟩ := List.head?_eq_some_iff.mp hhead
      exact hslash fun t => ⟨_, rfl⟩
    have hfull := parse_of_ne_slash htext hs hhead hu
    obtain ⟨scheme, rest, hscheme⟩ := exists_hasScheme hbase ht hfull
    obtain ⟨hu, hu'⟩ := server_of_hasScheme hscheme hfull
    obtain ⟨hv, hv'⟩ := server_of_hasScheme hscheme (parse_of_ne_slash htext' hs hhead hv)
    exact ⟨hu.trans hv.symm, hu'.trans hv'.symm⟩

end Uri
end AwsSigning
