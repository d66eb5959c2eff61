/-
AwsSigning/Proofs/Http/Query.lean

A query that was written from encoded parameters reads back as these
parameters.

The form codec has two layers.  Below, one name or value is percent-encoded
and decoded (`decodePart_encodePart`); what makes the layers independent is
that an encoded part is written with unreserved characters and percent signs
alone, so `&`, `=` and `+` never come out of one (`separator_not_mem`).
Above, pieces between `&` are cut at their first `=`.

One pair is lost on the way, the pair of an empty name and an empty value:
it is written as nothing at all, and nothing is skipped by the reader.
But for it writing is undone by reading (`decode_render_encode`):

    decode (render (encode q) "=" "&")  =  q without ("", "")
-/
import AwsSigning.Http.Query
import AwsSigning.Proofs.Text.Percent

namespace AwsSigning.Query

/-! ### Cutting -/

theorem splitAt_eq_splitOn (mark : UInt8) (bytes : Bytes) :
    splitAt mark bytes = bytes.splitOn mark := by
  induction bytes with
  | nil => rfl
  | cons b bytes ih =>
    rw [splitAt, List.splitOn_cons_eq_if_modifyHead, ih]
    simp only [beq_iff_eq]
    split
    · rfl
    · rcases h : bytes.splitOn mark with - | ⟨piece, pieces⟩
      · exact absurd h (List.splitOn_ne_nil mark bytes)
      · rfl

theorem cutAt_append {mark : UInt8} {before : Bytes} (h : mark ∉ before) (after : Bytes) :
    cutAt mark (before ++ mark :: after) = (before, after) := by
  induction before with
  | nil => exact if_pos rfl
  | cons b before ih =>
    have hb : b ≠ mark := fun e => h (e ▸ List.mem_cons_self)
    rw [List.cons_append, cutAt, if_neg hb, ih fun hm => h (List.mem_cons_of_mem b hm)]

theorem cutAt_of_not_mem {mark : UInt8} {bytes : Bytes} (h : mark ∉ bytes) :
    cutAt mark bytes = (bytes, []) := by
  induction bytes with
  | nil => rfl
  | cons b bytes ih =>
    have hb : b ≠ mark := fun e => h (e ▸ List.mem_cons_self)
    rw [cutAt, if_neg hb, ih fun hm => h (List.mem_cons_of_mem b hm)]

/-! ### One name or value -/

/-- A name or value of a query, encoded. -/
def encodePart (s : String) : String := Percent.encodeString Percent.isUnreserved s

/-- The parameters with their names and values encoded. -/
def encode (query : Query) : Query :=
  query.map fun pair => (encodePart pair.1, encodePart pair.2)

theorem encode_append (query more : Query) : encode (query ++ more) = encode query ++ encode more :=
  List.map_append

theorem ofString_encodePart (s : String) :
    Utf8.ofString (encodePart s)
      = Utf8.encode (Percent.encode Percent.isUnreserved (Utf8.ofString s)) := by
  simp [encodePart, Percent.encodeString, Utf8.ofString]

/-- An encoded part is written with unreserved bytes and percent signs. -/
theorem mem_ofString_encodePart {s : String} {b : UInt8}
    (h : b ∈ Utf8.ofString (encodePart s)) : Percent.isUnreserved b = true ∨ b = 0x25 := by
  have hbyte : ∀ x, (Utf8.encode (Percent.encodeByte Percent.isUnreserved x)).all
      (fun b => Percent.isUnreserved b || b == 0x25) = true :=
    Percent.forall_byte (by decide +kernel)
  rw [ofString_encodePart, Percent.encode, Utf8.encode, List.flatMap_assoc] at h
  obtain ⟨x, -, hx⟩ := List.mem_flatMap.mp h
  simpa using List.all_eq_true.mp (hbyte x) b hx

/-- Marks of the form never come out of an encoded part. -/
theorem separator_not_mem {mark : UInt8} (hmark : Percent.isUnreserved mark = false ∧ mark ≠ 0x25)
    (s : String) : mark ∉ Utf8.ofString (encodePart s) := by
  intro h
  rcases mem_ofString_encodePart h with hu | hp
  · rw [hmark.1] at hu
    cases hu
  · exact hmark.2 hp

/-- **One part is read back**: no `+` was written, and decoding undoes encoding. -/
theorem decodePart_encodePart (s : String) :
    decodePart (Utf8.ofString (encodePart s)) = Utf8.ofString s := by
  have hplus : 0x2B ∉ Utf8.ofString (encodePart s) := separator_not_mem (by decide) s
  have hmap : (Utf8.ofString (encodePart s)).map (fun b => if b = 0x2B then 0x20 else b)
      = Utf8.ofString (encodePart s) := by
    refine (List.map_congr_left fun b hb => ?_).trans (List.map_id _)
    exact if_neg fun e : b = 0x2B => hplus (e ▸ hb)
  rw [decodePart, hmap, ofString_encodePart, Percent.decode_encode Percent.isPlain_isUnreserved]

theorem encodePart_eq_empty_iff {s : String} : encodePart s = "" ↔ s = "" := by
  constructor
  · intro h
    have hs := decodePart_encodePart s
    rw [h] at hs
    have hback := congrArg Utf8.toStringLossy hs
    rw [Utf8.toStringLossy_ofString] at hback
    exact hback.symm
  · rintro rfl
    rfl

/-! ### Pairs -/

/-- The bytes of a written pair. -/
def pairBytes (pair : String × String) : Bytes :=
  Utf8.ofString (renderPair "=" (encodePart pair.1, encodePart pair.2))

theorem pairBytes_eq (pair : String × String) :
    pairBytes pair =
      if pair.2 = "" then Utf8.ofString (encodePart pair.1)
      else Utf8.ofString (encodePart pair.1) ++ 0x3D :: Utf8.ofString (encodePart pair.2) := by
  have hmark : Utf8.ofString "=" = [0x3D] := by decide
  simp only [pairBytes, renderPair, encodePart_eq_empty_iff]
  split
  · rfl
  · simp only [Utf8.ofString_append, hmark, List.append_assoc, List.singleton_append]

theorem ampersand_not_mem_pairBytes (pair : String × String) : 0x26 ∉ pairBytes pair := by
  have hname : 0x26 ∉ Utf8.ofString (encodePart pair.1) := separator_not_mem (by decide) _
  have hvalue : 0x26 ∉ Utf8.ofString (encodePart pair.2) := separator_not_mem (by decide) _
  rw [pairBytes_eq]
  split
  · exact hname
  · simp only [List.mem_append, List.mem_cons, not_or]
    exact ⟨hname, by decide, hvalue⟩

theorem ofString_eq_nil_iff {s : String} : Utf8.ofString s = [] ↔ s = "" := by
  constructor
  · intro h
    have hs := Utf8.toStringLossy_ofString s
    rw [h] at hs
    exact hs.symm
  · rintro rfl
    rfl

/-- Only the pair of two empty texts is written as nothing. -/
theorem pairBytes_ne_nil {pair : String × String} (h : pair ≠ ("", "")) : pairBytes pair ≠ [] := by
  rw [pairBytes_eq]
  split
  · next hvalue =>
    rw [Ne, ofString_eq_nil_iff, encodePart_eq_empty_iff]
    exact fun hname => h (Prod.ext hname hvalue)
  · simp

/-- A written pair is cut into its encoded name and value. -/
theorem cutAt_pairBytes (pair : String × String) :
    cutAt 0x3D (pairBytes pair)
      = (Utf8.ofString (encodePart pair.1), Utf8.ofString (encodePart pair.2)) := by
  have hname : 0x3D ∉ Utf8.ofString (encodePart pair.1) := separator_not_mem (by decide) _
  rw [pairBytes_eq]
  split
  · next hvalue =>
    rw [cutAt_of_not_mem hname, hvalue]
    rfl
  · exact cutAt_append hname _

/-! ### Whole queries -/

theorem encode_intercalate (sep : List Char) (pieces : List (List Char)) :
    Utf8.encode (List.intercalate sep pieces)
      = List.intercalate (Utf8.encode sep) (pieces.map Utf8.encode) := by
  induction pieces with
  | nil => rfl
  | cons piece pieces ih =>
    rcases pieces with - | ⟨next, pieces⟩
    · simp
    · rw [List.intercalate_cons_cons, List.map_cons, List.map_cons, List.intercalate_cons_cons,
        ← List.map_cons, ← ih]
      simp

theorem ofString_render (query : Query) :
    Utf8.ofString (render (encode query) "=" "&")
      = List.intercalate [0x26] (query.map pairBytes) := by
  have hmark : Utf8.encode "&".toList = [0x26] := by decide
  rw [render, Utf8.ofString, String.toList_intercalate, encode_intercalate, hmark, encode,
    List.map_map, List.map_map, List.map_map]
  refine congrArg (List.intercalate [0x26]) (List.map_congr_left fun pair _ => ?_)
  simp only [Function.comp_apply, pairBytes, Utf8.ofString]

/-- Two lists of parameters are written one behind the other. -/
theorem render_append {query more : Query} (hquery : query ≠ []) (hmore : more ≠ [])
    (separator joiner : String) :
    render (query ++ more) separator joiner
      = render query separator joiner ++ joiner ++ render more separator joiner := by
  rw [render, List.map_append]
  exact String.intercalate_append_of_ne_nil (by simpa using hquery) (by simpa using hmore)

/-- The pairs of a query, as bytes. -/
def toBytes (query : Query) : List (Bytes × Bytes) :=
  query.map fun pair => (Utf8.ofString pair.1, Utf8.ofString pair.2)

/-- **Of a written query every pair is read back** but those of two empty texts. -/
theorem decodeBytes_render_encode (query : Query) :
    decodeBytes (Utf8.ofString (render (encode query) "=" "&"))
      = toBytes (query.filter (· ≠ ("", ""))) := by
  by_cases hne : query = []
  · subst hne
    rfl
  -- no piece holds the mark that is between them, and those that are skipped are empty pairs
  have hsplit : splitAt 0x26 (List.intercalate [0x26] (query.map pairBytes))
      = query.map pairBytes := by
    rw [splitAt_eq_splitOn]
    refine List.splitOn_intercalate _ ?_ (by simpa using hne)
    simp only [List.mem_map, forall_exists_index, and_imp, forall_apply_eq_imp_iff₂]
    exact fun pair _ => ampersand_not_mem_pairBytes pair
  have hkeep : ∀ pair : String × String,
      decide (pairBytes pair ≠ []) = decide (pair ≠ ("", "")) := by
    intro pair
    rw [decide_eq_decide]
    refine ⟨?_, pairBytes_ne_nil⟩
    rintro hpair rfl
    exact hpair rfl
  rw [decodeBytes, ofString_render, hsplit, List.filter_map, List.map_map, toBytes]
  simp only [Function.comp_def, hkeep, cutAt_pairBytes, decodePart_encodePart]

/-- **A written query is read back**, but for the pairs of two empty texts. -/
theorem decode_render_encode (query : Query) :
    decode (render (encode query) "=" "&") = query.filter (· ≠ ("", "")) := by
  rw [decode, decodeBytes_render_encode, toBytes, List.map_map]
  refine (List.map_congr_left fun pair _ => ?_).trans (List.map_id _)
  simp only [Function.comp_apply, Utf8.toStringLossy_ofString, id]

end AwsSigning.Query
