/-
AwsSigning/Proofs/Text/WellFormed.lean

Strict reading accepts the bytes of texts and no others.

That written text is read back says that enough is accepted; here it is shown
that no more is (`decode?_eq_some_iff`):

    decode? bytes = some s   ↔   bytes = encode s

The proof goes against the direction of the machine.  Whatever is read from a
stand without a broken piece starts with a byte that leads on from there, so
the bytes of one character are found one after the other (`Reads.first`,
`Reads.middle`, `Reads.last`), each as the six bits that it carries.  What is
left is arithmetic again: the character that was read is written with these
bits.
-/
import AwsSigning.Proofs.Text.Utf8

namespace AwsSigning.Utf8

variable {bytes rest : Bytes} {s : List Char} {seen owed bits : Nat} {low high b : UInt8}

/-- From a stand the bytes read as a text, without a broken piece. -/
def Reads (stand : Stand) (bytes : Bytes) (s : List Char) : Prop :=
  piecesFrom stand bytes = s.map Piece.char

/-! ### Bytes that are read -/

/-- A character that was read stands at the front of the text. -/
theorem exists_of_char_cons {c : Char} {more : List Piece}
    (h : .char c :: more = s.map Piece.char) : ∃ s', s = c :: s' ∧ more = s'.map Piece.char := by
  rcases s with - | ⟨d, s⟩
  · cases h
  · obtain ⟨hd, hmore⟩ := List.cons.inj h
    cases hd
    exact ⟨s, rfl, hmore⟩

theorem broken_cons_ne {length : Nat} {cut : Bool} {more : List Piece} :
    .broken length cut :: more ≠ s.map Piece.char := by
  rcases s with - | ⟨d, s⟩ <;> simp

/-- A byte with the six bits that it carries, inside a character: it is one of those allowed. -/
theorem Reads.inside (h : Reads (.inside seen owed low high bits) bytes s)
    (hlow : 0x80 ≤ low.toNat) :
    ∃ n rest, bytes = UInt8.ofNat (n + 0x80) :: rest ∧ low.toNat ≤ n + 0x80 ∧
      n + 0x80 ≤ high.toNat := by
  rcases bytes with - | ⟨b, rest⟩
  · exact absurd h broken_cons_ne
  · by_cases hrange : low ≤ b ∧ b ≤ high
    · have hmin := UInt8.le_iff_toNat_le.mp hrange.1
      have hmax := UInt8.le_iff_toNat_le.mp hrange.2
      have hb : b.toNat - 0x80 + 0x80 = b.toNat := by omega
      refine ⟨b.toNat - 0x80, rest, ?_, ?_, ?_⟩
      · rw [hb, UInt8.ofNat_toNat]
      · rwa [hb]
      · rwa [hb]
    · rw [Reads, piecesFrom_cons (by rw [step, if_neg hrange])] at h
      exact absurd h broken_cons_ne

/-- The last byte of a character. -/
theorem Reads.last (h : Reads (.inside seen 1 low high bits) bytes s) (hlow : 0x80 ≤ low.toNat) :
    ∃ n rest s', bytes = UInt8.ofNat (n + 0x80) :: rest ∧ low.toNat ≤ n + 0x80 ∧
      n + 0x80 ≤ high.toNat ∧ s = Char.ofNat (bits * 64 + n) :: s' ∧ Reads .between rest s' := by
  obtain ⟨n, rest, rfl, hmin, hmax⟩ := h.inside hlow
  rw [Reads, piecesFrom_last hmin hmax] at h
  obtain ⟨s', hs, hrest⟩ := exists_of_char_cons h
  exact ⟨n, rest, s', rfl, hmin, hmax, hs, hrest⟩

/-- A byte in the middle of a character. -/
theorem Reads.middle (h : Reads (.inside seen (owed + 2) low high bits) bytes s)
    (hlow : 0x80 ≤ low.toNat) :
    ∃ n rest, bytes = UInt8.ofNat (n + 0x80) :: rest ∧ low.toNat ≤ n + 0x80 ∧
      n + 0x80 ≤ high.toNat ∧
      Reads (.inside (seen + 1) (owed + 1) 0x80 0xBF (bits * 64 + n)) rest s := by
  obtain ⟨n, rest, rfl, hmin, hmax⟩ := h.inside hlow
  rw [Reads, piecesFrom_middle hmin hmax] at h
  exact ⟨n, rest, rfl, hmin, hmax, h⟩

/-- A byte that opens no character. -/
theorem step_stray : ∀ n < 256, 0x80 ≤ n → n < 0xC2 ∨ 0xF5 ≤ n →
    step .between (UInt8.ofNat n) = ([.broken 1 false], .between) := by
  decide +kernel

/-- The first byte of a character, and what may follow it. -/
inductive First : UInt8 → Bytes → List Char → Prop
  | one {n : Nat} {rest : Bytes} {s : List Char} (hn : n < 0x80) (h : Reads .between rest s) :
      First (UInt8.ofNat n) rest (Char.ofNat n :: s)
  | two {n : Nat} {rest : Bytes} {s : List Char} (hn : 2 ≤ n) (hn' : n < 0x20)
      (h : Reads (.inside 1 1 0x80 0xBF n) rest s) : First (UInt8.ofNat (n + 0xC0)) rest s
  | three {n : Nat} {rest : Bytes} {s : List Char} (hn : n < 0x10)
      (h : Reads (.inside 1 2 (if n = 0 then 0xA0 else 0x80) (if n = 13 then 0x9F else 0xBF) n)
        rest s) : First (UInt8.ofNat (n + 0xE0)) rest s
  | four {n : Nat} {rest : Bytes} {s : List Char} (hn : n < 5)
      (h : Reads (.inside 1 3 (if n = 0 then 0x90 else 0x80) (if n = 4 then 0x8F else 0xBF) n)
        rest s) : First (UInt8.ofNat (n + 0xF0)) rest s

theorem Reads.first (h : Reads .between (b :: rest) s) : First b rest s := by
  have hsize := b.toNat_lt
  rw [← UInt8.ofNat_toNat (x := b)] at h ⊢
  generalize b.toNat = n at h hsize
  by_cases hone : n < 0x80
  · rw [Reads, piecesFrom_cons (step_one n hone)] at h
    obtain ⟨s', rfl, hrest⟩ := exists_of_char_cons h
    exact .one hone hrest
  by_cases hstray : n < 0xC2 ∨ 0xF5 ≤ n
  · rw [Reads, piecesFrom_cons (step_stray n hsize (by omega) hstray)] at h
    exact absurd h broken_cons_ne
  by_cases htwo : n < 0xE0
  · obtain ⟨k, rfl⟩ : ∃ k, n = k + 0xC0 := ⟨n - 0xC0, by omega⟩
    rw [Reads, piecesFrom_cons (step_two k (by omega) (by omega))] at h
    exact .two (by omega) (by omega) h
  by_cases hthree : n < 0xF0
  · obtain ⟨k, rfl⟩ : ∃ k, n = k + 0xE0 := ⟨n - 0xE0, by omega⟩
    rw [Reads, piecesFrom_cons (step_three k (by omega))] at h
    exact .three (by omega) h
  · obtain ⟨k, rfl⟩ : ∃ k, n = k + 0xF0 := ⟨n - 0xF0, by omega⟩
    rw [Reads, piecesFrom_cons (step_four k (by omega))] at h
    exact .four (by omega) h

/-! ### Characters that are written -/

/-- The code point of a character given by its code point. -/
theorem toNat_val_ofNat {v : Nat} (h : v < 0xD800 ∨ 0xDFFF < v ∧ v < 0x110000) :
    (Char.ofNat v).val.toNat = v := by
  rw [Char.ofNat, dif_pos h]
  rfl

theorem encodeChar_two {v : Nat} (h : 0x80 ≤ v) (h' : v < 0x800) :
    String.utf8EncodeChar (Char.ofNat v)
      = [UInt8.ofNat (v / 64 + 0xC0), UInt8.ofNat (v % 64 + 0x80)] := by
  rw [String.utf8EncodeChar, toNat_val_ofNat (by omega), if_neg (by omega), if_pos (by omega),
    Nat.mod_eq_of_lt (a := v / 64) (by omega)]

theorem encodeChar_three {v : Nat} (h : 0x800 ≤ v) (h' : v < 0xD800 ∨ 0xDFFF < v ∧ v < 0x10000) :
    String.utf8EncodeChar (Char.ofNat v)
      = [UInt8.ofNat (v / 4096 + 0xE0), UInt8.ofNat (v / 64 % 64 + 0x80),
          UInt8.ofNat (v % 64 + 0x80)] := by
  rw [String.utf8EncodeChar, toNat_val_ofNat (by omega), if_neg (by omega), if_neg (by omega),
    if_pos (by omega), Nat.mod_eq_of_lt (a := v / 4096) (by omega)]

theorem encodeChar_four {v : Nat} (h : 0x10000 ≤ v) (h' : v < 0x110000) :
    String.utf8EncodeChar (Char.ofNat v)
      = [UInt8.ofNat (v / 262144 + 0xF0), UInt8.ofNat (v / 4096 % 64 + 0x80),
          UInt8.ofNat (v / 64 % 64 + 0x80), UInt8.ofNat (v % 64 + 0x80)] := by
  rw [String.utf8EncodeChar, toNat_val_ofNat (by omega), if_neg (by omega), if_neg (by omega),
    if_neg (by omega), Nat.mod_eq_of_lt (a := v / 262144) (by omega)]

/-! ### Texts -/

/-- What is read starts with the bytes of the character that is read. -/
theorem Reads.exists_char (h : Reads .between (b :: rest) s) : ∃ c s' rest', s = c :: s' ∧
    b :: rest = String.utf8EncodeChar c ++ rest' ∧ Reads .between rest' s' := by
  cases h.first with
  | @one n _ s' hn hrest =>
    have hchar : (Char.ofNat n).toNat = n := toNat_val_ofNat (by omega)
    refine ⟨_, s', rest, rfl, ?_, hrest⟩
    rw [encodeChar_ascii (by omega), hchar]
    rfl
  | @two n _ _ hn hn' hinside =>
    obtain ⟨k, rest, s', rfl, hk, hk', rfl, hrest⟩ := hinside.last (by decide)
    have hmax : k + 0x80 ≤ 0xBF := hk'
    refine ⟨_, s', rest, rfl, ?_, hrest⟩
    rw [encodeChar_two (by omega) (by omega), show (n * 64 + k) / 64 = n by omega,
      show (n * 64 + k) % 64 = k by omega]
    rfl
  | @three n _ _ hn hinside =>
    obtain ⟨j, rest, rfl, hj, hj', hinside⟩ := hinside.middle (by split <;> decide)
    obtain ⟨k, rest, s', rfl, hk, hk', rfl, hrest⟩ := hinside.last (by decide)
    -- the narrowed range leaves out overlong forms and surrogates
    have hmax : k + 0x80 ≤ 0xBF := hk'
    have hwide : j + 0x80 ≤ 0xBF := by split at hj' <;> simp at hj' <;> omega
    have hlong : 0x800 ≤ (n * 64 + j) * 64 + k := by split at hj <;> simp at hj <;> omega
    have hscalar : (n * 64 + j) * 64 + k < 0xD800 ∨
        0xDFFF < (n * 64 + j) * 64 + k ∧ (n * 64 + j) * 64 + k < 0x10000 := by
      split at hj' <;> simp at hj' <;> omega
    refine ⟨_, s', rest, rfl, ?_, hrest⟩
    rw [encodeChar_three hlong hscalar, show ((n * 64 + j) * 64 + k) / 4096 = n by omega,
      show ((n * 64 + j) * 64 + k) / 64 % 64 = j by omega,
      show ((n * 64 + j) * 64 + k) % 64 = k by omega]
    rfl
  | @four n _ _ hn hinside =>
    obtain ⟨i, rest, rfl, hi, hi', hinside⟩ := hinside.middle (by split <;> decide)
    obtain ⟨j, rest, rfl, hj, hj', hinside⟩ := hinside.middle (by decide)
    obtain ⟨k, rest, s', rfl, hk, hk', rfl, hrest⟩ := hinside.last (by decide)
    -- the narrowed range leaves out overlong forms and what is beyond the last code point
    have hmax : k + 0x80 ≤ 0xBF := hk'
    have hmax' : j + 0x80 ≤ 0xBF := hj'
    have hwide : i + 0x80 ≤ 0xBF := by split at hi' <;> simp at hi' <;> omega
    have hlong : 0x10000 ≤ ((n * 64 + i) * 64 + j) * 64 + k := by
      split at hi <;> simp at hi <;> omega
    have hscalar : ((n * 64 + i) * 64 + j) * 64 + k < 0x110000 := by
      split at hi' <;> simp at hi' <;> omega
    refine ⟨_, s', rest, rfl, ?_, hrest⟩
    rw [encodeChar_four hlong hscalar,
      show (((n * 64 + i) * 64 + j) * 64 + k) / 262144 = n by omega,
      show (((n * 64 + i) * 64 + j) * 64 + k) / 4096 % 64 = i by omega,
      show (((n * 64 + i) * 64 + j) * 64 + k) / 64 % 64 = j by omega,
      show (((n * 64 + i) * 64 + j) * 64 + k) % 64 = k by omega]
    rfl

/-- **What is read without a broken piece is written with the same bytes.** -/
theorem Reads.encode_eq (h : Reads .between bytes s) : encode s = bytes := by
  -- the induction is on the text: each character takes its bytes off the front
  induction s generalizing bytes with
  | nil =>
    rcases bytes with - | ⟨b, rest⟩
    · rfl
    · obtain ⟨c, s', rest', hs, -⟩ := h.exists_char
      cases hs
  | cons c s ih =>
    rcases bytes with - | ⟨b, rest⟩
    · cases h
    · obtain ⟨d, s', rest', hs, hbytes, hrest⟩ := h.exists_char
      obtain ⟨rfl, rfl⟩ := List.cons.inj hs
      rw [hbytes, encode, List.flatMap_cons, ← ih hrest]
      rfl

/-- Pieces that are all characters are the characters of a text. -/
theorem eq_map_of_mapM_char? {ps : List Piece} (h : ps.mapM Piece.char? = some s) :
    ps = s.map Piece.char := by
  induction ps generalizing s with
  | nil =>
    cases h
    rfl
  | cons piece ps ih =>
    simp only [List.mapM_cons, Option.bind_eq_bind, Option.bind_eq_some_iff, Option.pure_def,
      Option.some.injEq] at h
    obtain ⟨c, hc, more, hmore, rfl⟩ := h
    rw [List.map_cons, ← ih hmore]
    cases piece with
    | char d =>
      cases hc
      rfl
    | broken length cut => cases hc

/-- **Bytes read as a text if they are the bytes of the text.** -/
theorem decode?_eq_some_iff : decode? bytes = some s ↔ bytes = encode s := by
  constructor
  · intro h
    exact (Reads.encode_eq (eq_map_of_mapM_char? h)).symm
  · rintro rfl
    exact decode?_encode s

/-! ### Texts and their bytes -/

/-- Different texts have different bytes. -/
theorem encode_injective : Function.Injective encode :=
  Function.LeftInverse.injective decodeLossy_encode

theorem ofString_injective : Function.Injective ofString :=
  Function.LeftInverse.injective toStringLossy_ofString

theorem length_encode_cons (c : Char) (s : List Char) :
    (encode (c :: s)).length = c.utf8Size + (encode s).length := by
  rw [encode, List.flatMap_cons, List.length_append, String.length_utf8EncodeChar]
  rfl

@[simp] theorem length_ofString (s : String) : (ofString s).length = s.utf8ByteSize := by
  rw [← String.size_toByteArray, ← String.utf8Encode_toList, List.utf8Encode]
  exact List.size_toByteArray.symm

end AwsSigning.Utf8
