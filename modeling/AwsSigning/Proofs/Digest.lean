/-
AwsSigning/Proofs/Digest.lean

The shape of digests: 32 bytes, written with 64 hexadecimal digits in small
letters, whatever the message and the key are; and the digest of nothing.
-/
import AwsSigning.Digest.Hmac

namespace AwsSigning

/-! ### Digits -/

/-- What holds of sixteen digits holds of every character that bytes are written with. -/
theorem Hex.forall_mem_encode {P : Char → Prop} (h : ∀ n < 16, P (lowerDigit n)) (bytes : Bytes) :
    ∀ c ∈ (encode bytes).toList, P c := by
  intro c hc
  rw [encode, String.toList_ofList] at hc
  obtain ⟨b, -, hb⟩ := List.mem_flatMap.mp hc
  have hbound : b.toNat < 256 := b.toNat_lt
  rcases List.mem_cons.mp hb with rfl | hlow
  · exact h _ (by omega)
  · rw [List.mem_singleton.mp hlow]
    exact h _ (by omega)

theorem Hex.length_encode (bytes : Bytes) : (encode bytes).length = 2 * bytes.length := by
  have hpair : ∀ b : UInt8, (pair lowerDigit b).length = 2 := fun _ => rfl
  rw [encode, String.length_ofList]
  induction bytes with
  | nil => rfl
  | cons b bytes ih =>
    rw [List.flatMap_cons, List.length_append, ih, hpair, List.length_cons]
    omega

/-! ### Lengths -/

theorem Sha256.length_digest (message : Bytes) : (digest message).length = 32 := by
  have hbytes : ∀ r : Registers, r.bytes.length = 32 := fun _ => rfl
  exact hbytes _

/-- A keyed digest takes 64 digits. -/
theorem Hmac.length_hexDigest (key message : Bytes) : (hexDigest key message).length = 64 := by
  rw [hexDigest, Hex.length_encode, digest, Sha256.length_digest]

/-! ### The digest of nothing -/

/-- The digest that is known beforehand is the right one. -/
theorem Sha256.hexDigest_nil : hexDigest [] = hexDigestOfEmpty := by decide +kernel

end AwsSigning
