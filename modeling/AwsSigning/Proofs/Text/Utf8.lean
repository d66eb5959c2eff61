/-
AwsSigning/Proofs/Text/Utf8.lean

Reading what was written.

Written text reads back as the characters it was written from, with no
broken piece in between:

    pieces (encode s)  =  s.map Piece.char

and all three readings follow.  The proof runs the machine over the one to
four bytes of a character.  A first byte is one of few, so where it leads is
a table (`step_two`, `step_three`, `step_four`); a later byte carries six
bits, and one lemma (`step_tail`) serves all of them.  What remains is
arithmetic: the narrowed range of a second byte leaves out exactly what no
character has.
-/
import AwsSigning.Text.Utf8

namespace AwsSigning.Utf8

/-- One byte of an input: what it completes stands before the pieces of the rest. -/
theorem piecesFrom_cons {stand stand' : Stand} {b : UInt8} {pieces : List Piece}
    (h : step stand b = (pieces, stand')) (rest : Bytes) :
    piecesFrom stand (b :: rest) = pieces ++ piecesFrom stand' rest := by
  cases stand <;> simp [piecesFrom, h]

/-! ### First bytes -/

theorem step_one : ∀ n < 0x80,
    step .between (UInt8.ofNat n) = ([.char (Char.ofNat n)], .between) := by
  decide +kernel

theorem step_two : ∀ n < 0x20, 2 ≤ n →
    step .between (UInt8.ofNat (n + 0xC0)) = ([], .inside 1 1 0x80 0xBF n) := by
  decide

theorem step_three : ∀ n < 0x10,
    step .between (UInt8.ofNat (n + 0xE0))
      = ([], .inside 1 2 (if n = 0 then 0xA0 else 0x80) (if n = 13 then 0x9F else 0xBF) n) := by
  decide

theorem step_four : ∀ n < 5,
    step .between (UInt8.ofNat (n + 0xF0))
      = ([], .inside 1 3 (if n = 0 then 0x90 else 0x80) (if n = 4 then 0x8F else 0xBF) n) := by
  decide

/-! ### Later bytes -/

/-- A later byte within its range adds its six bits. -/
theorem step_tail {seen owed bits n : Nat} {low high : UInt8}
    (hlow : low.toNat ≤ n + 0x80) (hhigh : n + 0x80 ≤ high.toNat) :
    step (.inside seen owed low high bits) (UInt8.ofNat (n + 0x80))
      = if owed ≤ 1 then ([.char (Char.ofNat (bits * 64 + n))], .between)
        else ([], .inside (seen + 1) (owed - 1) 0x80 0xBF (bits * 64 + n)) := by
  have hb : (UInt8.ofNat (n + 0x80)).toNat = n + 0x80 :=
    UInt8.toNat_ofNat_of_lt' (Nat.lt_of_le_of_lt hhigh high.toNat_lt_size)
  have hrange : low ≤ UInt8.ofNat (n + 0x80) ∧ UInt8.ofNat (n + 0x80) ≤ high := by
    simp only [UInt8.le_iff_toNat_le, hb]
    exact ⟨hlow, hhigh⟩
  simp only [step, if_pos hrange, hb, Nat.add_sub_cancel]

/-- The last byte of a character completes it. -/
theorem piecesFrom_last {seen bits n : Nat} {low high : UInt8}
    (hlow : low.toNat ≤ n + 0x80) (hhigh : n + 0x80 ≤ high.toNat) (rest : Bytes) :
    piecesFrom (.inside seen 1 low high bits) (UInt8.ofNat (n + 0x80) :: rest)
      = .char (Char.ofNat (bits * 64 + n)) :: piecesFrom .between rest :=
  piecesFrom_cons (step_tail hlow hhigh) rest

/-- A byte in the middle of a character is only remembered. -/
theorem piecesFrom_middle {seen owed bits n : Nat} {low high : UInt8}
    (hlow : low.toNat ≤ n + 0x80) (hhigh : n + 0x80 ≤ high.toNat) (rest : Bytes) :
    piecesFrom (.inside seen (owed + 2) low high bits) (UInt8.ofNat (n + 0x80) :: rest)
      = piecesFrom (.inside (seen + 1) (owed + 1) 0x80 0xBF (bits * 64 + n)) rest :=
  piecesFrom_cons (step_tail hlow hhigh) rest

/-! ### Characters -/

/-- The bytes of a character read as this character. -/
theorem piecesFrom_encodeChar (c : Char) (rest : Bytes) :
    piecesFrom .between (String.utf8EncodeChar c ++ rest)
      = .char c :: piecesFrom .between rest := by
  have hvalid : c.val.toNat < 0xD800 ∨ (0xDFFF < c.val.toNat ∧ c.val.toNat < 0x110000) := c.valid
  have hc : Char.ofNat c.val.toNat = c := Char.ofNat_toNat c
  unfold String.utf8EncodeChar
  generalize c.val.toNat = v at hvalid hc
  dsimp only
  split
  · -- one byte
    exact (piecesFrom_cons (step_one v (by omega)) rest).trans (by rw [hc]; rfl)
  split
  · -- two bytes
    simp only [List.cons_append, List.nil_append]
    rw [piecesFrom_cons (step_two _ (by omega) (by omega)), List.nil_append,
      piecesFrom_last (by simp) (by simp; omega)]
    rw [show v / 64 % 32 * 64 + v % 64 = v by omega, hc]
  split
  · -- three bytes; the second one is narrowed against overlong forms and surrogates
    simp only [List.cons_append, List.nil_append]
    rw [piecesFrom_cons (step_three _ (by omega)), List.nil_append,
      piecesFrom_middle (by split <;> simp; omega) (by split <;> simp <;> omega),
      piecesFrom_last (by simp) (by simp; omega)]
    rw [show (v / 4096 % 16 * 64 + v / 64 % 64) * 64 + v % 64 = v by omega, hc]
  · -- four bytes; the second one is narrowed against overlong forms and the end of the range
    simp only [List.cons_append, List.nil_append]
    rw [piecesFrom_cons (step_four _ (by omega)), List.nil_append,
      piecesFrom_middle (by split <;> simp; omega) (by split <;> simp <;> omega),
      piecesFrom_middle (by simp) (by simp; omega),
      piecesFrom_last (by simp) (by simp; omega)]
    rw [show ((v / 262144 % 8 * 64 + v / 4096 % 64) * 64 + v / 64 % 64) * 64 + v % 64 = v by omega,
      hc]

/-- **Written text is read back** without a broken piece. -/
theorem pieces_encode (s : List Char) : pieces (encode s) = s.map Piece.char := by
  induction s with
  | nil => rfl
  | cons c s ih =>
    rw [pieces, encode, List.flatMap_cons, piecesFrom_encodeChar]
    exact congrArg _ ih

/-! ### The readings of written text -/

@[simp] theorem decodeLossy_encode (s : List Char) : decodeLossy (encode s) = s := by
  simp [decodeLossy, pieces_encode, Function.comp_def, Piece.charLossy]

@[simp] theorem decode?_encode (s : List Char) : decode? (encode s) = some s := by
  rw [decode?, pieces_encode, List.mapM_map]
  exact List.mapM_pure.trans (by simp)

@[simp] theorem toStringLossy_ofString (s : String) : toStringLossy (ofString s) = s := by
  simp [toStringLossy, ofString]

@[simp] theorem toString?_ofString (s : String) : toString? (ofString s) = some s := by
  simp [toString?, ofString]

/-! ### Bytes of joined and of ASCII text -/

@[simp] theorem encode_nil : encode [] = [] := rfl

@[simp] theorem encode_append (s t : List Char) : encode (s ++ t) = encode s ++ encode t :=
  List.flatMap_append

@[simp] theorem ofString_append (s t : String) :
    ofString (s ++ t) = ofString s ++ ofString t := by
  simp [ofString]

/-- An ASCII character is one byte. -/
theorem encodeChar_ascii {c : Char} (h : c.toNat < 0x80) :
    String.utf8EncodeChar c = [UInt8.ofNat c.toNat] := by
  unfold String.utf8EncodeChar
  exact if_pos (show c.val.toNat ≤ 0x7F from Nat.le_of_lt_succ h)

/-- ASCII text is one byte to a character. -/
theorem encode_ascii {s : List Char} (h : ∀ c ∈ s, c.toNat < 0x80) :
    encode s = s.map fun c => UInt8.ofNat c.toNat := by
  induction s with
  | nil => rfl
  | cons c s ih =>
    rw [encode, List.flatMap_cons, encodeChar_ascii (h c List.mem_cons_self)]
    exact congrArg _ (ih fun d hd => h d (List.mem_cons_of_mem c hd))

/-- A byte of ASCII stands in no character but the one it spells. -/
theorem toNat_of_mem_encodeChar {c : Char} {b : UInt8} (hb : b < 0x80)
    (h : b ∈ String.utf8EncodeChar c) : c.toNat = b.toNat := by
  have hvalid : c.val.toNat < 0xD800 ∨ (0xDFFF < c.val.toNat ∧ c.val.toNat < 0x110000) := c.valid
  have hascii : b.toNat < 0x80 := hb
  show c.val.toNat = b.toNat
  unfold String.utf8EncodeChar at h
  generalize c.val.toNat = v at hvalid h
  dsimp only at h
  split at h
  · rw [List.mem_singleton.mp h, UInt8.toNat_ofNat']
    omega
  -- the bytes of longer characters are none of ASCII
  split at h
  · simp only [List.mem_cons, List.not_mem_nil, or_false] at h
    rcases h with rfl | rfl <;> simp at hascii <;> omega
  split at h
  · simp only [List.mem_cons, List.not_mem_nil, or_false] at h
    rcases h with rfl | rfl | rfl <;> simp at hascii <;> omega
  · simp only [List.mem_cons, List.not_mem_nil, or_false] at h
    rcases h with rfl | rfl | rfl | rfl <;> simp at hascii <;> omega

/-- A mark of ASCII that is in a text is among its bytes. -/
theorem mem_ofString {mark : Char} {s : String} (hmark : mark.toNat < 0x80)
    (h : mark ∈ s.toList) : UInt8.ofNat mark.toNat ∈ ofString s := by
  refine List.mem_flatMap.mpr ⟨mark, h, ?_⟩
  rw [encodeChar_ascii hmark]
  exact List.mem_singleton_self _

/-- A mark of ASCII that is not in a text is not among its bytes. -/
theorem not_mem_ofString {mark : Char} {s : String} (hmark : mark.toNat < 0x80)
    (h : mark ∉ s.toList) : UInt8.ofNat mark.toNat ∉ ofString s := by
  have hbyte : (UInt8.ofNat mark.toNat).toNat = mark.toNat := by
    rw [UInt8.toNat_ofNat']
    omega
  intro hmem
  obtain ⟨c, hc, hb⟩ := List.mem_flatMap.mp hmem
  have hcode : c.toNat = mark.toNat :=
    (toNat_of_mem_encodeChar (UInt8.lt_iff_toNat_lt.mpr (hbyte.symm ▸ hmark)) hb).trans hbyte
  exact h (Char.toNat_inj.mp hcode ▸ hc)

end AwsSigning.Utf8
