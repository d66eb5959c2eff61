/-
AwsSigning/Proofs/Secret.lean

What a description shows of a secret.

A description shows a secret by its bytes, so it has to cut a text between two
bytes.  A cut goes through no character if some characters of the text make up
exactly the bytes in front of it (`IsBoundary`), and whether it does can be
told from the byte behind the cut alone (`isBoundary_encode_iff`).  The cuts
are made only after that has been asked, so every one of them succeeds
(`redactByBytes?_eq_some`).

What is shown is therefore decided by little: two texts of one to eleven bytes
are shown alike, and so are two longer ones that agree on three bytes at either
end, if these are whole characters (`redact_eq_of_alike`).
-/
import AwsSigning.Proofs.Text.WellFormed
import AwsSigning.Secret

namespace AwsSigning.Secret

variable {n i j : Nat} {s t front back : List Char} {bytes : Bytes} {b : UInt8}

/-! ### Characters and bytes -/

/-- No character of the text straddles the place behind its first `n` bytes. -/
def IsBoundary (s : List Char) (n : Nat) : Prop :=
  ∃ front back, s = front ++ back ∧ (Utf8.encode front).length = n

theorem eq_nil_of_length_encode_eq_zero (h : (Utf8.encode s).length = 0) : s = [] := by
  rcases s with - | ⟨c, s⟩
  · rfl
  · have hpos := c.utf8Size_pos
    rw [Utf8.length_encode_cons] at h
    omega

theorem takeBytes?_eq_some_iff :
    takeBytes? n s = some front ↔ front <+: s ∧ (Utf8.encode front).length = n := by
  fun_induction takeBytes? n s generalizing front with
  | case1 s =>
    constructor
    · rintro ⟨⟩
      exact ⟨List.nil_prefix, rfl⟩
    · rintro ⟨-, hlength⟩
      rw [eq_nil_of_length_encode_eq_zero hlength]
  | case2 n =>
    refine ⟨nofun, ?_⟩
    rintro ⟨hleads, hlength⟩
    rw [List.prefix_nil.mp hleads] at hlength
    cases hlength
  | case3 n c rest hfits ih =>
    rw [Option.map_eq_some_iff]
    constructor
    · rintro ⟨more, hmore, rfl⟩
      obtain ⟨hleads, hlength⟩ := ih.mp hmore
      refine ⟨(List.prefix_cons_inj c).mpr hleads, ?_⟩
      rw [Utf8.length_encode_cons]
      omega
    · rintro ⟨hleads, hlength⟩
      rcases front with - | ⟨d, more⟩
      · cases hlength
      · obtain ⟨rfl, hmore⟩ := List.cons_prefix_cons.mp hleads
        rw [Utf8.length_encode_cons] at hlength
        exact ⟨more, ih.mpr ⟨hmore, by omega⟩, rfl⟩
  | case4 n c rest hfits =>
    refine ⟨nofun, ?_⟩
    rintro ⟨hleads, hlength⟩
    rcases front with - | ⟨d, more⟩
    · cases hlength
    · obtain ⟨rfl, -⟩ := List.cons_prefix_cons.mp hleads
      rw [Utf8.length_encode_cons] at hlength
      omega

theorem length_encode_reverse (s : List Char) :
    (Utf8.encode s.reverse).length = (Utf8.encode s).length := by
  induction s with
  | nil => rfl
  | cons c s ih =>
    rw [List.reverse_cons, Utf8.encode_append, List.length_append, ih, Utf8.length_encode_cons,
      Utf8.length_encode_cons, Utf8.encode_nil, List.length_nil]
    omega

theorem takeLastBytes?_eq_some_iff :
    takeLastBytes? n s = some back ↔ back <:+ s ∧ (Utf8.encode back).length = n := by
  rw [takeLastBytes?, Option.map_eq_some_iff]
  constructor
  · rintro ⟨front, hfront, rfl⟩
    obtain ⟨hleads, hlength⟩ := takeBytes?_eq_some_iff.mp hfront
    exact ⟨List.reverse_prefix.mp (by simpa using hleads), by rwa [length_encode_reverse]⟩
  · rintro ⟨hsuffix, hlength⟩
    refine ⟨back.reverse, takeBytes?_eq_some_iff.mpr ⟨List.reverse_prefix.mpr hsuffix, ?_⟩,
      List.reverse_reverse back⟩
    rwa [length_encode_reverse]

/-! ### Cuts -/

/-- A byte that stands inside a character, behind its first byte. -/
def isTail (b : UInt8) : Bool := 0x80 ≤ b && b < 0xC0

/-- Whether a text may be cut behind its first `i` bytes, told from its bytes: at either end, and
in front of a byte that opens a character. -/
def isBoundary (bytes : Bytes) (i : Nat) : Bool :=
  i = 0 || i = bytes.length || (bytes[i]?.any fun b => !isTail b)

theorem isTail_ofNat (h : n < 256) : isTail (UInt8.ofNat n) = decide (0x80 ≤ n ∧ n < 0xC0) := by
  revert n
  decide +kernel

/-- A character is a byte that opens it and bytes that do not. -/
theorem exists_tail_encodeChar (c : Char) : ∃ b tail, String.utf8EncodeChar c = b :: tail ∧
    isTail b = false ∧ ∀ x ∈ tail, isTail x = true := by
  have hvalid : c.val.toNat < 0xD800 ∨ (0xDFFF < c.val.toNat ∧ c.val.toNat < 0x110000) := c.valid
  unfold String.utf8EncodeChar
  generalize c.val.toNat = v at hvalid
  dsimp only
  have hopens : ∀ n < 256, n < 0x80 ∨ 0xC0 ≤ n → isTail (UInt8.ofNat n) = false := by
    intro n hn hrange
    rw [isTail_ofNat hn]
    exact decide_eq_false (by omega)
  have htail : ∀ ks : List Nat, ∀ x ∈ ks.map fun k => UInt8.ofNat (k % 64 + 0x80),
      isTail x = true := by
    intro ks x hx
    obtain ⟨k, -, rfl⟩ := List.mem_map.mp hx
    rw [isTail_ofNat (by omega)]
    exact decide_eq_true (by omega)
  split
  · exact ⟨_, [], rfl, hopens _ (by omega) (by omega), htail []⟩
  split
  · exact ⟨_, _, rfl, hopens _ (by omega) (by omega), htail [v]⟩
  split
  · exact ⟨_, _, rfl, hopens _ (by omega) (by omega), htail [v / 64, v]⟩
  · exact ⟨_, _, rfl, hopens _ (by omega) (by omega), htail [v / 4096, v / 64, v]⟩

/-- A byte that opens a character has whole characters in front of it. -/
theorem isBoundary_of_getElem? (h : (Utf8.encode s)[i]? = some b) (hb : isTail b = false) :
    IsBoundary s i := by
  induction s generalizing i with
  | nil => simp at h
  | cons c s ih =>
    obtain ⟨first, tail, hc, -, htail⟩ := exists_tail_encodeChar c
    have hbytes : Utf8.encode (c :: s) = String.utf8EncodeChar c ++ Utf8.encode s :=
      List.flatMap_cons
    rcases i with - | i
    · exact ⟨[], c :: s, rfl, rfl⟩
    · by_cases hi : i < tail.length
      · -- the byte would be one of those behind the first one of a character
        rw [hbytes, hc, List.cons_append, List.getElem?_cons_succ,
          List.getElem?_append_left hi] at h
        rw [htail b (List.mem_of_getElem? h)] at hb
        cases hb
      · rw [hbytes, hc, List.cons_append, List.getElem?_cons_succ,
          List.getElem?_append_right (by omega)] at h
        obtain ⟨front, back, rfl, hlength⟩ := ih h
        refine ⟨c :: front, back, rfl, ?_⟩
        rw [Utf8.length_encode_cons, ← String.length_utf8EncodeChar, hc, hlength, List.length_cons]
        omega

/-- **A cut goes through no character if the byte behind it opens one.** -/
theorem isBoundary_encode_iff : isBoundary (Utf8.encode s) i = true ↔ IsBoundary s i := by
  rw [isBoundary, Bool.or_eq_true, Bool.or_eq_true, decide_eq_true_iff, decide_eq_true_iff]
  constructor
  · rintro ((rfl | rfl) | hbyte)
    · exact ⟨[], s, rfl, rfl⟩
    · exact ⟨s, [], by simp, rfl⟩
    · rcases hb : (Utf8.encode s)[i]? with - | b
      · rw [hb] at hbyte
        cases hbyte
      · rw [hb] at hbyte
        exact isBoundary_of_getElem? hb (by simpa using hbyte)
  · rintro ⟨front, back, rfl, rfl⟩
    rcases back with - | ⟨c, back⟩
    · simp
    · obtain ⟨first, tail, hc, hfirst, -⟩ := exists_tail_encodeChar c
      have hbytes : Utf8.encode (c :: back) = first :: (tail ++ Utf8.encode back) := by
        rw [Utf8.encode, List.flatMap_cons, hc]
        rfl
      refine .inr ?_
      rw [Utf8.encode_append, List.getElem?_append_right (Nat.le_refl _), Nat.sub_self, hbytes]
      simp [hfirst]

/-- The text between two places of a text, by their bytes; none if a cut would go through a
character, or if the places are not in order. -/
def slice? (bytes : Bytes) (i j : Nat) : Option (List Char) :=
  if i ≤ j && isBoundary bytes i && isBoundary bytes j then
    Utf8.decode? ((bytes.take j).drop i)
  else none

/-- What is shown of a secret, told from its bytes. -/
def redactByBytes? (s : String) : Option String :=
  let bytes := Utf8.ofString s
  if bytes.length = 0 then some "EMPTY"
  else if bytes.length < leastBytes || !isBoundary bytes shownBytes
      || !isBoundary bytes (bytes.length - shownBytes) then some "***"
  else do
    let front ← slice? bytes 0 shownBytes
    let back ← slice? bytes (bytes.length - shownBytes) bytes.length
    pure (String.ofList front ++ "***" ++ String.ofList back)

/-- A piece of a text is cut out whole. -/
theorem slice?_encode (front middle back : List Char) :
    slice? (Utf8.encode (front ++ middle ++ back)) (Utf8.encode front).length
      ((Utf8.encode front).length + (Utf8.encode middle).length) = some middle := by
  have hfrom : IsBoundary (front ++ middle ++ back) (Utf8.encode front).length :=
    ⟨front, middle ++ back, List.append_assoc .., rfl⟩
  have hto : IsBoundary (front ++ middle ++ back)
      ((Utf8.encode front).length + (Utf8.encode middle).length) :=
    ⟨front ++ middle, back, rfl, by rw [Utf8.encode_append, List.length_append]⟩
  have hpiece : ((Utf8.encode (front ++ middle ++ back)).take
      ((Utf8.encode front).length + (Utf8.encode middle).length)).drop (Utf8.encode front).length
        = Utf8.encode middle := by
    rw [Utf8.encode_append, Utf8.encode_append, ← List.length_append, List.take_left' rfl,
      List.drop_left' rfl]
  rw [slice?, isBoundary_encode_iff.mpr hfrom, isBoundary_encode_iff.mpr hto, hpiece]
  simp

/-- A text that is long enough may be cut in front of its last bytes if some characters make up
these bytes. -/
theorem isBoundary_sub_iff (h : n ≤ (Utf8.encode s).length) :
    IsBoundary s ((Utf8.encode s).length - n) ↔ ∃ back, takeLastBytes? n s = some back := by
  simp only [takeLastBytes?_eq_some_iff]
  constructor
  · rintro ⟨front, back, rfl, hlength⟩
    refine ⟨back, List.suffix_append front back, ?_⟩
    rw [Utf8.encode_append, List.length_append] at h hlength
    omega
  · rintro ⟨back, ⟨front, rfl⟩, hlength⟩
    refine ⟨front, back, rfl, ?_⟩
    rw [Utf8.encode_append, List.length_append]
    omega

theorem isBoundary_iff : IsBoundary s n ↔ ∃ front, takeBytes? n s = some front := by
  simp only [takeBytes?_eq_some_iff]
  constructor
  · rintro ⟨front, back, rfl, hlength⟩
    exact ⟨front, List.prefix_append front back, hlength⟩
  · rintro ⟨front, ⟨back, rfl⟩, hlength⟩
    exact ⟨front, back, rfl, hlength⟩

/-- **Every cut that is made succeeds**, and what is cut out is what is shown. -/
theorem redactByBytes?_eq_some (s : String) : redactByBytes? s = some (redact s) := by
  rw [redactByBytes?, redact, ← Utf8.length_ofString, Utf8.ofString]
  by_cases hempty : (Utf8.encode s.toList).length = 0
  · rw [if_pos hempty, if_pos hempty]
  rw [if_neg hempty, if_neg hempty]
  by_cases hshort : (Utf8.encode s.toList).length < leastBytes
  · rw [if_pos (by simp [hshort]), if_pos hshort]
  have hlong : shownBytes ≤ (Utf8.encode s.toList).length :=
    Nat.le_trans (by decide) (Nat.le_of_not_lt hshort)
  rw [if_neg hshort, decide_eq_false hshort, Bool.false_or]
  rcases hfront : takeBytes? shownBytes s.toList with - | front
  · have hno : isBoundary (Utf8.encode s.toList) shownBytes = false := by
      rw [Bool.eq_false_iff, Ne, isBoundary_encode_iff, isBoundary_iff, hfront]
      simp
    simp [hno]
  rcases hback : takeLastBytes? shownBytes s.toList with - | back
  · have hno : isBoundary (Utf8.encode s.toList)
        ((Utf8.encode s.toList).length - shownBytes) = false := by
      rw [Bool.eq_false_iff, Ne, isBoundary_encode_iff, isBoundary_sub_iff hlong, hback]
      simp
    simp [hno]
  · obtain ⟨⟨rest, hrest⟩, hlength⟩ := takeBytes?_eq_some_iff.mp hfront
    obtain ⟨⟨init, hinit⟩, hlength'⟩ := takeLastBytes?_eq_some_iff.mp hback
    have hopen : isBoundary (Utf8.encode s.toList) shownBytes = true :=
      isBoundary_encode_iff.mpr (isBoundary_iff.mpr ⟨front, hfront⟩)
    have hclose : isBoundary (Utf8.encode s.toList)
        ((Utf8.encode s.toList).length - shownBytes) = true :=
      isBoundary_encode_iff.mpr ((isBoundary_sub_iff hlong).mpr ⟨back, hback⟩)
    have hinitLength : (Utf8.encode s.toList).length - shownBytes = (Utf8.encode init).length := by
      rw [← hinit, Utf8.encode_append, List.length_append]
      omega
    have hfirst : slice? (Utf8.encode s.toList) 0 shownBytes = some front := by
      have hslice := slice?_encode [] front rest
      rwa [List.nil_append, hrest, hlength, Utf8.encode_nil, List.length_nil, Nat.zero_add]
        at hslice
    have hlast : slice? (Utf8.encode s.toList) ((Utf8.encode s.toList).length - shownBytes)
        (Utf8.encode s.toList).length = some back := by
      have hslice := slice?_encode init back []
      rwa [List.append_nil, hinit, ← hinitLength, hlength', Nat.sub_add_cancel hlong] at hslice
    rw [hopen, hclose, hfirst, hlast]
    rfl

/-! ### Secrets that are shown alike -/

/-- The text has so few bytes that it is shown as stars. -/
def IsShort (s : String) : Prop := 1 ≤ s.utf8ByteSize ∧ s.utf8ByteSize ≤ 11

/-- The text is long enough for a part of it to be shown, and the parts are whole characters. -/
structure IsLong (s : String) : Prop where
  size : 12 ≤ s.utf8ByteSize
  front : IsBoundary s.toList 3
  back : IsBoundary s.toList (s.utf8ByteSize - 3)

/-- The first three bytes of two texts are the same, and so are the last three. -/
def SameEnds (s t : String) : Prop :=
  (Utf8.ofString s).take 3 = (Utf8.ofString t).take 3 ∧
    (Utf8.ofString s).drop (s.utf8ByteSize - 3) = (Utf8.ofString t).drop (t.utf8ByteSize - 3)

instance : DecidablePred IsShort :=
  fun s => inferInstanceAs (Decidable (1 ≤ s.utf8ByteSize ∧ s.utf8ByteSize ≤ 11))

theorem isLong_iff {s : String} : IsLong s ↔ 12 ≤ s.utf8ByteSize ∧
    isBoundary (Utf8.ofString s) 3 = true ∧
    isBoundary (Utf8.ofString s) (s.utf8ByteSize - 3) = true := by
  rw [Utf8.ofString, isBoundary_encode_iff, isBoundary_encode_iff]
  exact ⟨fun h => ⟨h.size, h.front, h.back⟩, fun h => ⟨h.1, h.2.1, h.2.2⟩⟩

instance : DecidablePred IsLong := fun _ => decidable_of_iff _ isLong_iff.symm

instance (s t : String) : Decidable (SameEnds s t) :=
  inferInstanceAs (Decidable ((Utf8.ofString s).take 3 = (Utf8.ofString t).take 3 ∧
    (Utf8.ofString s).drop (s.utf8ByteSize - 3) = (Utf8.ofString t).drop (t.utf8ByteSize - 3)))

/-- Two texts of which the same is to be seen. -/
inductive Alike : String → String → Prop
  | refl (s : String) : Alike s s
  | short {s t : String} (hs : IsShort s) (ht : IsShort t) : Alike s t
  | long {s t : String} (hs : IsLong s) (ht : IsLong t) (hends : SameEnds s t) : Alike s t

theorem redact_of_isShort {s : String} (h : IsShort s) : redact s = "***" := by
  obtain ⟨hlow, hhigh⟩ := h
  have hfew : s.utf8ByteSize < leastBytes := Nat.lt_succ_of_le hhigh
  rw [redact, if_neg (by omega), if_pos hfew]

/-- What is shown of a long text are the characters of its first and its last three bytes. -/
theorem IsLong.redact_eq {s : String} (h : IsLong s) : ∃ front back : List Char,
    redact s = String.ofList front ++ "***" ++ String.ofList back ∧
      Utf8.encode front = (Utf8.ofString s).take 3 ∧
      Utf8.encode back = (Utf8.ofString s).drop (s.utf8ByteSize - 3) := by
  have hsize := h.size
  have hclose := h.back
  rw [← Utf8.length_ofString, Utf8.ofString] at hsize hclose
  obtain ⟨front, hfront⟩ := isBoundary_iff.mp h.front
  obtain ⟨back, hback⟩ := (isBoundary_sub_iff (by omega)).mp hclose
  obtain ⟨⟨rest, hrest⟩, hlength⟩ := takeBytes?_eq_some_iff.mp hfront
  obtain ⟨⟨init, hinit⟩, hlength'⟩ := takeLastBytes?_eq_some_iff.mp hback
  refine ⟨front, back, ?_, ?_, ?_⟩
  · have hmany : ¬s.utf8ByteSize < leastBytes := Nat.not_lt_of_le h.size
    have hsome : s.utf8ByteSize ≠ 0 := Nat.ne_of_gt (Nat.lt_of_lt_of_le (by decide) h.size)
    rw [redact, if_neg hsome, if_neg hmany, shownBytes, hfront, hback]
  · rw [Utf8.ofString, ← hrest, Utf8.encode_append, List.take_left' hlength]
  · rw [← Utf8.length_ofString, Utf8.ofString, ← hinit, Utf8.encode_append]
    exact (List.drop_left' (by rw [List.length_append]; omega)).symm

/-- **Texts of which the same is to be seen are shown alike.** -/
theorem redact_eq_of_alike {s t : String} (h : Alike s t) : redact s = redact t := by
  cases h with
  | refl => rfl
  | short hs ht => rw [redact_of_isShort hs, redact_of_isShort ht]
  | long hs ht hends =>
    obtain ⟨front, back, hshown, hfront, hback⟩ := hs.redact_eq
    obtain ⟨front', back', hshown', hfront', hback'⟩ := ht.redact_eq
    have hsame : front = front' :=
      Utf8.encode_injective (hfront.trans (hends.1.trans hfront'.symm))
    have hsame' : back = back' := Utf8.encode_injective (hback.trans (hends.2.trans hback'.symm))
    rw [hshown, hshown', hsame, hsame']

end AwsSigning.Secret
