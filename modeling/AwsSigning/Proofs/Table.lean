/-
AwsSigning/Proofs/Table.lean

Tables that were written entry by entry.

A table is told by its keys, in order, and by the value under each.  Writing
a list of entries to an empty table gives the keys in the order of their
first entries, and under each the value of its last one (`keys_ofList`,
`get?_ofList`).  Writing one table into another replaces what is under the keys
they share and adds the rest behind (`get?_setAll`, `keys_setAll`).
-/
import Mathlib.Data.List.Induction
import AwsSigning.Table

namespace AwsSigning

/-! ### Lists without repetitions -/

section EraseDups

variable {α β : Type} [BEq α] [LawfulBEq α] {a : α} {l : List α}

theorem nodup_eraseDups (l : List α) : l.eraseDups.Nodup := by
  -- each step takes the first element out of the rest, which gets shorter
  induction hn : l.length using Nat.strongRecOn generalizing l with
  | ind n ih =>
    rcases l with - | ⟨a, l⟩
    · exact List.nodup_nil
    · rw [List.eraseDups_cons, List.nodup_cons]
      constructor
      · simp
      · have hshorter := List.length_filter_le (fun b => !b == a) l
        rw [List.length_cons] at hn
        exact ih _ (by omega) _ rfl

/-- What is there already is not added at the end. -/
theorem eraseDups_concat_of_mem (h : a ∈ l) : (l ++ [a]).eraseDups = l.eraseDups := by
  simp [List.eraseDups_append, List.removeAll, h]

theorem eraseDups_concat_of_not_mem (h : a ∉ l) : (l ++ [a]).eraseDups = l.eraseDups ++ [a] := by
  simp [List.eraseDups_append, List.removeAll, h, List.eraseDups_cons]

/-- A list that is paired with what belongs to each of its elements. -/
theorem lookup_map_pair (f : α → β) (h : a ∈ l) :
    (l.map fun x => (x, f x)).lookup a = some (f a) := by
  induction l with
  | nil => cases h
  | cons b l ih =>
    rw [List.map_cons, List.lookup_cons]
    by_cases hab : a = b
    · rw [beq_iff_eq.mpr hab, hab]
    · rw [beq_eq_false_iff_ne.mpr hab]
      exact ih (List.mem_of_ne_of_mem hab h)

theorem lookup_map_pair_of_not_mem (f : α → β) (h : a ∉ l) :
    (l.map fun x => (x, f x)).lookup a = none := by
  rw [List.lookup_eq_none_iff]
  intro pair hpair
  obtain ⟨x, hx, rfl⟩ := List.mem_map.mp hpair
  exact bne_iff_ne.mpr fun hax => h (hax ▸ hx)

end EraseDups

namespace Table

variable {α : Type} {table table' : Table α} {key other : String} {value : α}
  {entries : List (String × α)}

/-! ### Writing one entry -/

theorem get?_set_self (table : Table α) (key : String) (value : α) :
    (table.set key value).get? key = some value := by
  induction table with
  | nil => simp [set, get?]
  | cons entry table ih =>
    obtain ⟨k, v⟩ := entry
    rw [set]
    split
    · simp [get?]
    · next hne =>
      rw [get?, List.lookup_cons, beq_eq_false_iff_ne.mpr (Ne.symm hne)]
      exact ih

theorem get?_set_of_ne (h : other ≠ key) (table : Table α) (value : α) :
    (table.set key value).get? other = table.get? other := by
  induction table with
  | nil => simp [set, get?, h]
  | cons entry table ih =>
    obtain ⟨k, v⟩ := entry
    rw [set]
    split
    · next heq =>
      subst heq
      simp [get?, List.lookup_cons, beq_eq_false_iff_ne.mpr h]
    · rw [get?, List.lookup_cons, get?, List.lookup_cons]
      split
      · rfl
      · exact ih

/-- Whatever is there after writing was written or was there before. -/
theorem mem_set {entry : String × α} (h : entry ∈ table.set key value) :
    entry = (key, value) ∨ entry ∈ table := by
  induction table with
  | nil => exact .inl (List.mem_singleton.mp h)
  | cons first table ih =>
    obtain ⟨k, v⟩ := first
    rw [set] at h
    split at h
    · rcases List.mem_cons.mp h with rfl | hmem
      · exact .inl rfl
      · exact .inr (List.mem_cons_of_mem _ hmem)
    · rcases List.mem_cons.mp h with rfl | hmem
      · exact .inr List.mem_cons_self
      · exact (ih hmem).imp_right (List.mem_cons_of_mem _)

/-- A key that is there keeps its place. -/
theorem keys_set_of_mem (h : key ∈ table.map Prod.fst) (value : α) :
    (table.set key value).map Prod.fst = table.map Prod.fst := by
  induction table with
  | nil => cases h
  | cons entry table ih =>
    obtain ⟨k, v⟩ := entry
    rw [set]
    split
    · next heq =>
      rw [List.map_cons, List.map_cons, heq]
    · next hne =>
      have hmem : key ∈ table.map Prod.fst := List.mem_of_ne_of_mem (Ne.symm hne) h
      rw [List.map_cons, List.map_cons, ih hmem]

/-- A new key goes to the end. -/
theorem keys_set_of_not_mem (h : key ∉ table.map Prod.fst) (value : α) :
    (table.set key value).map Prod.fst = table.map Prod.fst ++ [key] := by
  induction table with
  | nil => rfl
  | cons entry table ih =>
    obtain ⟨k, v⟩ := entry
    obtain ⟨hne, hmem⟩ : key ≠ k ∧ key ∉ table.map Prod.fst := by simpa using h
    rw [set, if_neg (Ne.symm hne), List.map_cons, ih hmem, List.map_cons, List.cons_append]

theorem nodup_set (h : (table.map Prod.fst).Nodup) (key : String) (value : α) :
    ((table.set key value).map Prod.fst).Nodup := by
  by_cases hmem : key ∈ table.map Prod.fst
  · rw [keys_set_of_mem hmem]
    exact h
  · rw [keys_set_of_not_mem hmem, List.nodup_append]
    refine ⟨h, List.pairwise_singleton _ key, ?_⟩
    rintro a ha _ hb rfl
    rw [List.mem_singleton.mp hb] at ha
    exact hmem ha

/-! ### Writing a list of entries -/

theorem ofList_concat (entries : List (String × α)) (key : String) (value : α) :
    ofList (entries ++ [(key, value)]) = (ofList entries).set key value := by
  rw [ofList, setAll, List.foldl_append]
  rfl

/-- **The keys stand in the order of their first entries.** -/
theorem keys_ofList (entries : List (String × α)) :
    (ofList entries).map Prod.fst = (entries.map Prod.fst).eraseDups := by
  induction entries using List.reverseRecOn with
  | nil => rfl
  | append_singleton entries entry ih =>
    obtain ⟨key, value⟩ := entry
    have hmem : key ∈ (ofList entries).map Prod.fst ↔ key ∈ entries.map Prod.fst := by
      rw [ih, List.mem_eraseDups]
    rw [ofList_concat, List.map_append, List.map_singleton]
    by_cases hkey : key ∈ entries.map Prod.fst
    · rw [keys_set_of_mem (hmem.mpr hkey), ih, eraseDups_concat_of_mem hkey]
    · rw [keys_set_of_not_mem (hkey ∘ hmem.mp), ih, eraseDups_concat_of_not_mem hkey]

/-- **The last entry of a key counts.** -/
theorem get?_ofList (entries : List (String × α)) (key : String) :
    (ofList entries).get? key = entries.reverse.lookup key := by
  induction entries using List.reverseRecOn with
  | nil => rfl
  | append_singleton entries entry ih =>
    obtain ⟨k, value⟩ := entry
    rw [ofList_concat, List.reverse_append, List.reverse_singleton, List.singleton_append,
      List.lookup_cons]
    by_cases hkey : key = k
    · rw [beq_iff_eq.mpr hkey, hkey, get?_set_self]
    · rw [beq_eq_false_iff_ne.mpr hkey, get?_set_of_ne hkey, ih]

/-! ### Writing a table into another one -/

theorem get?_cons (k : String) (v : α) (table : Table α) (key : String) :
    Table.get? ((k, v) :: table) key = if key = k then some v else table.get? key := by
  rw [get?, List.lookup_cons]
  by_cases h : key = k
  · simp [h]
  · rw [beq_eq_false_iff_ne.mpr h, if_neg h]
    rfl

theorem get?_eq_none_iff : table.get? key = none ↔ key ∉ table.map Prod.fst := by
  induction table with
  | nil => simp [get?]
  | cons entry table ih =>
    obtain ⟨k, v⟩ := entry
    rw [get?_cons, List.map_cons, List.mem_cons, not_or]
    split
    · next h => simp [h]
    · next h => simp [h, ih]

theorem has_iff : table.has key = true ↔ key ∈ table.map Prod.fst := by
  rw [has, ← Option.ne_none_iff_isSome, ne_eq, get?_eq_none_iff, not_not]

/-- **Under each key stands what was written, and where nothing was, what was there.** -/
theorem get?_setAll (h : (entries.map Prod.fst).Nodup) (table : Table α) (key : String) :
    (table.setAll entries).get? key = (Table.get? entries key).or (table.get? key) := by
  induction entries generalizing table with
  | nil => rfl
  | cons entry entries ih =>
    obtain ⟨k, v⟩ := entry
    obtain ⟨hfresh, hrest⟩ := List.nodup_cons.mp h
    rw [setAll, List.foldl_cons]
    show (setAll (table.set k v) entries).get? key = _
    rw [ih hrest, get?_cons]
    by_cases hkey : key = k
    · -- each key is written once, so nothing is written over this one later
      subst hkey
      rw [get?_eq_none_iff.mpr hfresh, get?_set_self, if_pos rfl, Option.none_or, Option.some_or]
    · rw [get?_set_of_ne hkey, if_neg hkey]

/-- **The keys that were there keep their places, and the new ones follow in their order.** -/
theorem keys_setAll (h : (entries.map Prod.fst).Nodup) (table : Table α) :
    (table.setAll entries).map Prod.fst = table.map Prod.fst
      ++ (entries.map Prod.fst).filter fun key => key ∉ table.map Prod.fst := by
  induction entries generalizing table with
  | nil => simp [setAll]
  | cons entry entries ih =>
    obtain ⟨k, v⟩ := entry
    obtain ⟨hfresh, hrest⟩ := List.nodup_cons.mp h
    show ((table.set k v).setAll entries).map Prod.fst = _
    rw [ih hrest, List.map_cons, List.filter_cons]
    by_cases hkey : k ∈ table.map Prod.fst
    · rw [keys_set_of_mem hkey, if_neg (by simpa using hkey)]
    · have hsame : ∀ key ∈ entries.map Prod.fst,
          decide (key ∉ table.map Prod.fst ++ [k]) = decide (key ∉ table.map Prod.fst) := by
        intro key hmem
        have hne : key ≠ k := fun heq => hfresh (heq ▸ hmem)
        simp [hne]
      rw [keys_set_of_not_mem hkey, if_pos (by simpa using hkey), List.filter_congr hsame,
        List.append_assoc, List.singleton_append]

theorem nodup_setAll (h : (table.map Prod.fst).Nodup) (entries : List (String × α)) :
    ((table.setAll entries).map Prod.fst).Nodup := by
  induction entries generalizing table with
  | nil => exact h
  | cons entry entries ih => exact ih (nodup_set h entry.1 entry.2)

/-! ### Entries -/

/-- With different keys, what stands under a key is in its entry. -/
theorem get?_eq_some_iff (h : (table.map Prod.fst).Nodup) :
    table.get? key = some value ↔ (key, value) ∈ table := by
  induction table with
  | nil => simp [get?]
  | cons entry table ih =>
    obtain ⟨k, v⟩ := entry
    obtain ⟨hfresh, hrest⟩ := List.nodup_cons.mp h
    rw [get?_cons, List.mem_cons, Prod.mk.injEq]
    by_cases hkey : key = k
    · subst hkey
      have hnot : (key, value) ∉ table :=
        fun hmem => hfresh (List.mem_map.mpr ⟨(key, value), hmem, rfl⟩)
      simp [hnot, eq_comm]
    · simp [hkey, ih hrest]

/-- What stands under a key does not depend on the order of the entries. -/
theorem get?_eq_of_perm (h : (table.map Prod.fst).Nodup) (hperm : table.Perm table')
    (key : String) : table.get? key = table'.get? key := by
  apply Option.ext
  intro value
  rw [get?_eq_some_iff h, get?_eq_some_iff ((hperm.map Prod.fst).nodup h), hperm.mem_iff]

/-- **A table is given by its keys and what stands under them.** -/
theorem eq_of_get? (hkeys : table.map Prod.fst = table'.map Prod.fst)
    (h : (table.map Prod.fst).Nodup) (hget : ∀ key, table.get? key = table'.get? key) :
    table = table' := by
  induction table generalizing table' with
  | nil => exact (List.map_eq_nil_iff.mp hkeys.symm).symm
  | cons entry table ih =>
    obtain ⟨k, v⟩ := entry
    rcases table' with - | ⟨⟨k', v'⟩, table'⟩
    · cases hkeys
    · obtain ⟨hk, hrest⟩ := List.cons.inj hkeys
      obtain rfl : k = k' := hk
      obtain ⟨hfresh, hnodup⟩ := List.nodup_cons.mp h
      have hv := hget k
      rw [get?_cons, get?_cons, if_pos rfl, if_pos rfl] at hv
      obtain rfl := Option.some.inj hv
      rw [ih hrest hnodup]
      intro key
      by_cases hkey : key = k
      · -- the first key does not come again
        subst hkey
        rw [get?_eq_none_iff.mpr hfresh, get?_eq_none_iff.mpr (hrest ▸ hfresh)]
      · have hother := hget key
        rwa [get?_cons, get?_cons, if_neg hkey, if_neg hkey] at hother

/-- An entry whose key is written again later does not count. -/
theorem ofList_append_cons_congr {later : List (String × α)} (h : key ∈ later.map Prod.fst)
    (entries : List (String × α)) (value value' : α) :
    ofList (entries ++ (key, value) :: later) = ofList (entries ++ (key, value') :: later) := by
  have hnodup : ((ofList (entries ++ (key, value) :: later)).map Prod.fst).Nodup := by
    rw [keys_ofList]
    exact nodup_eraseDups _
  refine eq_of_get? ?_ hnodup ?_
  · rw [keys_ofList, keys_ofList]
    simp
  · intro other
    have hsplit : ∀ value : α, (entries ++ (key, value) :: later).reverse.lookup other
        = (later.reverse.lookup other).or
          (if other = key then some value else entries.reverse.lookup other) := by
      intro value
      rw [List.reverse_append, List.reverse_cons, List.append_assoc, List.lookup_append,
        List.singleton_append]
      exact congrArg _ (get?_cons key value entries.reverse other)
    rw [get?_ofList, get?_ofList, hsplit, hsplit]
    by_cases hother : other = key
    · subst hother
      rcases hlater : later.reverse.lookup other with - | found
      · have hnot : other ∉ later.reverse.map Prod.fst := get?_eq_none_iff.mp hlater
        rw [List.map_reverse, List.mem_reverse] at hnot
        exact absurd h hnot
      · rfl
    · rw [if_neg hother, if_neg hother]

end Table

end AwsSigning
