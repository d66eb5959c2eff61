/-
AwsSigning/Proofs/Text/Percent.lean

Decoding undoes encoding.

A set of bytes that stand for themselves is *plain* if it is ASCII and does
not hold the percent sign.  For a plain set every byte of the input is one
byte or one escape of the output, and reading the output from the front
finds them again:

    decode (Utf8.encode (encode keep bytes))  =  bytes

An escape is a fact about one byte, so it is checked byte by byte
(`forall_byte`); the induction is over the bytes that were encoded.
-/
import AwsSigning.Proofs.Text.Utf8
import AwsSigning.Text.Percent

namespace AwsSigning.Percent

variable {keep : UInt8 → Bool}

/-! ### Single bytes -/

/-- A fact about all bytes, checked one by one. -/
theorem forall_byte {P : UInt8 → Prop} (h : ∀ n < 256, P (UInt8.ofNat n)) (b : UInt8) : P b := by
  have hb := h b.toNat b.toNat_lt
  rwa [UInt8.ofNat_toNat] at hb

/-- The bytes that stand for themselves are ASCII, and the percent sign is not among them. -/
def IsPlain (keep : UInt8 → Bool) : Prop := ∀ b, keep b = true → b < 0x80 ∧ b ≠ 0x25

theorem isPlain_isUnreserved : IsPlain isUnreserved := forall_byte (by decide +kernel)

/-- The bytes of the escape of a byte. -/
def escape (b : UInt8) : Bytes := Utf8.encode ('%' :: Hex.pair Hex.upperDigit b)

/-- An escape is a percent sign and two digits that spell the byte. -/
theorem escape_spells (b : UInt8) :
    ∃ high low, escape b = [0x25, high, low] ∧ escaped? high low = some b := by
  suffices h : escape b = [0x25, (escape b).getD 1 0, (escape b).getD 2 0]
      ∧ escaped? ((escape b).getD 1 0) ((escape b).getD 2 0) = some b from ⟨_, _, h⟩
  exact forall_byte (P := fun b => escape b = [0x25, (escape b).getD 1 0, (escape b).getD 2 0]
    ∧ escaped? ((escape b).getD 1 0) ((escape b).getD 2 0) = some b) (by decide +kernel) b

/-- A byte is written as itself or as its escape. -/
theorem encode_encodeByte (hkeep : IsPlain keep) (b : UInt8) :
    Utf8.encode (encodeByte keep b) = if keep b then [b] else escape b := by
  unfold encodeByte
  split
  · next h =>
    have hb : b.toNat < 0x80 := UInt8.lt_iff_toNat_lt.mp (hkeep b h).1
    have hchar : (Char.ofNat b.toNat).toNat = b.toNat := by
      rw [Char.ofNat, dif_pos (.inl (by omega))]
      rfl
    rw [Utf8.encode_ascii (by simpa [hchar] using hb)]
    simp [hchar]
  · rfl

/-- What holds of the characters of every single byte holds of all that is written. -/
theorem forall_mem_encode {p : Char → Bool}
    (h : ∀ n < 256, (encodeByte keep (UInt8.ofNat n)).all p = true) (bytes : Bytes) :
    ∀ c ∈ encode keep bytes, p c = true := by
  intro c hc
  obtain ⟨b, -, hb⟩ := List.mem_flatMap.mp hc
  have hbyte : (encodeByte keep b).all p = true :=
    forall_byte (P := fun b => (encodeByte keep b).all p = true) h b
  exact List.all_eq_true.mp hbyte c hb

/-- A text whose characters all stand for themselves is written as it is. -/
theorem encodeString_of_kept {s : String}
    (h : ∀ c ∈ s.toList, c.toNat < 0x80 ∧ keep (UInt8.ofNat c.toNat) = true) :
    encodeString keep s = s := by
  have hbyte : ∀ c ∈ s.toList, encodeByte keep (UInt8.ofNat c.toNat) = [c] := by
    intro c hc
    obtain ⟨hascii, hkept⟩ := h c hc
    have hback : (UInt8.ofNat c.toNat).toNat = c.toNat := by
      rw [UInt8.toNat_ofNat']
      omega
    rw [encodeByte, if_pos hkept, hback, Char.ofNat_toNat]
  have hchars : s.toList.flatMap (fun c => encodeByte keep (UInt8.ofNat c.toNat)) = s.toList := by
    rw [List.flatMap_def, List.map_congr_left hbyte, ← List.flatMap_def, List.flatMap_singleton']
  simp only [encodeString, Utf8.ofString, Utf8.encode_ascii fun c hc => (h c hc).1, encode,
    List.flatMap_map, hchars, String.ofList_toList]

/-! ### Decoding -/

theorem decode_cons_of_ne {b : UInt8} (h : b ≠ 0x25) (rest : Bytes) :
    decode (b :: rest) = b :: decode rest := by
  rw [decode]
  rintro high low rest' rfl
  exact absurd rfl h

theorem decode_escape (b : UInt8) (rest : Bytes) :
    decode (escape b ++ rest) = b :: decode rest := by
  obtain ⟨high, low, hbytes, hspell⟩ := escape_spells b
  simp only [hbytes, List.cons_append, List.nil_append, decode, hspell]

/-- **What was encoded is decoded again**, whatever follows it. -/
theorem decode_encode_append (hkeep : IsPlain keep) (bytes rest : Bytes) :
    decode (Utf8.encode (encode keep bytes) ++ rest) = bytes ++ decode rest := by
  induction bytes with
  | nil => rfl
  | cons b bytes ih =>
    have hcons : encode keep (b :: bytes) = encodeByte keep b ++ encode keep bytes := rfl
    rw [hcons, Utf8.encode_append, List.append_assoc, encode_encodeByte hkeep, List.cons_append]
    split
    · next h =>
      rw [List.singleton_append, decode_cons_of_ne (hkeep b h).2, ih]
    · rw [decode_escape, ih]

theorem decode_encode (hkeep : IsPlain keep) (bytes : Bytes) :
    decode (Utf8.encode (encode keep bytes)) = bytes := by
  simpa [decode] using decode_encode_append hkeep bytes []

end AwsSigning.Percent
