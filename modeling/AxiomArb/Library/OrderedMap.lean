import Mathlib.Data.List.Induction
import Mathlib.Logic.Function.Basic
import Std.Data.ExtTreeMap
import Std.Data.ExtTreeSet

/-!
# Maps with ordered keys

`BTreeMap κ ν` is the standard library's extensional tree map for the order of
`κ`: two maps are equal when they hold the same entries, and its entries are
listed in ascending key order.  The lemmas here restate its lookup laws with
key equality in place of `compare _ _ = .eq`, which is the form a proof about a
program meets them in.

The second half gives a record type a lawful order by listing its fields
(`Ord.byFields`), so that records can be keys.
-/

universe u v w

namespace AxiomArb.Library

/-- A map whose keys are kept in the order of `κ`. -/
abbrev BTreeMap (κ : Type u) (ν : Type v) [Ord κ] := Std.ExtTreeMap κ ν

/-- A set whose elements are kept in the order of `κ`. -/
abbrev BTreeSet (κ : Type u) [Ord κ] := Std.ExtTreeSet κ

namespace BTreeMap

open Std

variable {κ : Type u} {ν : Type v} [Ord κ] [TransOrd κ] [LawfulEqOrd κ] {m : BTreeMap κ ν}
  {k a : κ} {v : ν}

theorem lookup_insert [DecidableEq κ] :
    (m.insert k v)[a]? = if k = a then some v else m[a]? := by
  rw [ExtTreeMap.getElem?_insert]
  by_cases h : k = a <;> simp [h, LawfulEqCmp.compare_eq_iff_eq]

theorem lookup_insert_of_ne (h : k ≠ a) : (m.insert k v)[a]? = m[a]? := by
  rw [ExtTreeMap.getElem?_insert, if_neg (by rwa [LawfulEqCmp.compare_eq_iff_eq])]

theorem lookup_erase_of_ne (h : k ≠ a) : (m.erase k)[a]? = m[a]? := by
  rw [ExtTreeMap.getElem?_erase, if_neg (by rwa [LawfulEqCmp.compare_eq_iff_eq])]

/-- Writing the value a key already holds changes nothing. -/
theorem insert_eq_self_iff : m.insert k v = m ↔ m[k]? = some v := by
  constructor
  · intro h
    rw [← h, ExtTreeMap.getElem?_insert_self]
  · intro h
    apply ExtTreeMap.ext_getElem?
    intro a
    by_cases hk : k = a
    · subst hk
      rw [ExtTreeMap.getElem?_insert_self, h]
    · exact lookup_insert_of_ne hk

/-- Values under different keys are written in any order. -/
theorem insert_comm {b : κ} {w : ν} (h : k ≠ b) :
    (m.insert k v).insert b w = (m.insert b w).insert k v := by
  apply ExtTreeMap.ext_getElem?
  intro a
  by_cases hk : k = a
  · subst hk
    rw [lookup_insert_of_ne h.symm, ExtTreeMap.getElem?_insert_self, ExtTreeMap.getElem?_insert_self]
  · rw [lookup_insert_of_ne hk]
    by_cases hb : b = a
    · subst hb
      rw [ExtTreeMap.getElem?_insert_self, ExtTreeMap.getElem?_insert_self]
    · rw [lookup_insert_of_ne hb, lookup_insert_of_ne hb, lookup_insert_of_ne hk]

omit [LawfulEqOrd κ] in
theorem eq_empty_iff_lookup : m = ∅ ↔ ∀ k : κ, m[k]? = none := by
  rw [ExtTreeMap.eq_empty_iff_forall_not_mem]
  refine forall_congr' fun k ↦ ?_
  rw [ExtTreeMap.mem_iff_isSome_getElem?, Bool.not_eq_true, Option.isSome_eq_false_iff,
    Option.isNone_iff_eq_none]

omit [LawfulEqOrd κ] in
theorem ne_empty_of_lookup (h : m[k]? = some v) : m ≠ ∅ := fun he ↦ by
  rw [eq_empty_iff_lookup.mp he k] at h
  exact absurd h (by simp)

omit [LawfulEqOrd κ] in
@[simp] theorem insert_ne_empty : m.insert k v ≠ ∅ :=
  ne_empty_of_lookup ExtTreeMap.getElem?_insert_self

omit [LawfulEqOrd κ] in
@[simp] theorem size_pos_iff : 0 < m.size ↔ m ≠ ∅ := by
  rw [Nat.pos_iff_ne_zero, Ne, Ne, ExtTreeMap.eq_empty_iff_size_eq_zero]

/-- The map that files each entry of a list under its key; the last entry of a key stays. -/
def byKey (key : ν → κ) (entries : List ν) : BTreeMap κ ν :=
  .ofList (entries.map fun entry ↦ (key entry, entry)) compare

/-- The last entry of a list that has the key. -/
def lastOf {α : Type w} [DecidableEq κ] (key : α → κ) (entries : List α) (k : κ) : Option α :=
  (entries.filter fun entry ↦ key entry = k).getLast?

omit [Ord κ] [TransOrd κ] [LawfulEqOrd κ] in
theorem lastOf_map {α β : Type w} [DecidableEq κ] {key : β → κ} {entry : α → β} {items : List α} :
    lastOf key (items.map entry) k = (lastOf (key ∘ entry) items k).map entry := by
  rw [lastOf, List.filter_map, List.getLast?_map]
  rfl

omit [Ord κ] [TransOrd κ] [LawfulEqOrd κ] in
theorem lastOf_eq_find?_reverse {α : Type w} [DecidableEq κ] {key : α → κ} {items : List α} :
    lastOf key items k = items.reverse.find? fun item ↦ key item = k := by
  rw [lastOf, List.getLast?_eq_head?_reverse, ← List.filter_reverse, List.head?_filter]

omit [Ord κ] [TransOrd κ] [LawfulEqOrd κ] in
theorem lastOf_concat_self {α : Type w} [DecidableEq κ] {key : α → κ} {items : List α} {item : α}
    (h : key item = k) : lastOf key (items ++ [item]) k = some item := by
  simp [lastOf, h]

omit [Ord κ] [TransOrd κ] [LawfulEqOrd κ] in
theorem lastOf_concat_of_ne {α : Type w} [DecidableEq κ] {key : α → κ} {items : List α} {item : α}
    (h : key item ≠ k) : lastOf key (items ++ [item]) k = lastOf key items k := by
  simp [lastOf, h]

omit [Ord κ] [TransOrd κ] [LawfulEqOrd κ] in
/-- The last item of a key is the last of a finer key, if it has that one. -/
theorem lastOf_of_finer {α : Type w} {κ' : Type*} [DecidableEq κ] [DecidableEq κ'] {key : α → κ}
    {key' : α → κ'} {items : List α} {item : α} {k : κ} {k' : κ'}
    (hfiner : ∀ item, key' item = k' → key item = k) (h : lastOf key items k = some item)
    (hitem : key' item = k') : lastOf key' items k' = some item := by
  induction items using List.reverseRecOn with
  | nil => cases h
  | append_singleton items last ih =>
      by_cases hlast : key last = k
      · rw [lastOf_concat_self hlast] at h
        obtain rfl := Option.some.inj h
        exact lastOf_concat_self hitem
      · rw [lastOf_concat_of_ne hlast] at h
        rw [lastOf_concat_of_ne fun heq ↦ hlast (hfiner last heq)]
        exact ih h

/-- A map built from a list holds, under each key, what its last entry says. -/
theorem lookup_ofList_map {α : Type w} [DecidableEq κ] (key : α → κ) (value : α → ν)
    (entries : List α) (k : κ) :
    (ExtTreeMap.ofList (entries.map fun entry ↦ (key entry, value entry)) compare)[k]? =
      (lastOf key entries k).map value := by
  rw [ExtTreeMap.ofList_eq_insertMany_empty, ExtTreeMap.getElem?_insertMany_list, lastOf,
    List.getLast?_filter, List.findSomeRev?_eq_findSome?_reverse, ← List.map_reverse]
  induction entries.reverse with
  | nil => simp
  | cons entry rest ih =>
      by_cases h : key entry = k
      · simp [h]
      · simpa [h, LawfulEqCmp.compare_eq_iff_eq] using ih

theorem lookup_byKey [DecidableEq κ] (key : ν → κ) (entries : List ν) (k : κ) :
    (byKey key entries)[k]? = lastOf key entries k := by
  rw [byKey, lookup_ofList_map, Option.map_id']

omit [Ord κ] [TransOrd κ] [LawfulEqOrd κ] in
theorem lastOf_isSome_iff {α : Type w} [DecidableEq κ] {key : α → κ} {entries : List α} {k : κ} :
    (lastOf key entries k).isSome ↔ ∃ entry ∈ entries, key entry = k := by
  simp [lastOf]

theorem mem_byKey_iff [DecidableEq κ] {key : ν → κ} {entries : List ν} {k : κ} :
    k ∈ byKey key entries ↔ ∃ entry ∈ entries, key entry = k := by
  rw [ExtTreeMap.mem_iff_isSome_getElem?, lookup_byKey, lastOf_isSome_iff]

/-- Entries made from different items under different keys are all found again. -/
theorem lookup_byKey_map {α : Type w} [DecidableEq α] [DecidableEq κ] {key : ν → κ} {entry : α → ν}
    {items : List α} (hkey : Function.Injective (key ∘ entry)) (hitems : items.Nodup) (item : α) :
    (byKey key (items.map entry))[key (entry item)]? =
      if item ∈ items then some (entry item) else none := by
  by_cases h : item ∈ items
  · rw [if_pos h]
    refine ExtTreeMap.getElem?_ofList_of_mem ReflCmp.compare_self ?_ ?_
    · rw [List.map_map, List.pairwise_map]
      refine hitems.imp fun hne heq ↦ hne (hkey ?_)
      exact LawfulEqCmp.compare_eq_iff_eq.mp heq
    · rw [List.map_map]
      exact List.mem_map.mpr ⟨item, h, rfl⟩
  · rw [if_neg h]
    refine ExtTreeMap.getElem?_ofList_of_contains_eq_false ?_
    rw [Bool.eq_false_iff, Ne, List.contains_iff_mem]
    simp only [List.map_map, List.mem_map, Function.comp_apply]
    rintro ⟨other, hother, heq⟩
    exact h (hkey heq ▸ hother)

/-- The entries of a list, gathered under their keys. -/
def groupBy (key : ν → κ) (entries : List ν) : BTreeMap κ (List ν) :=
  entries.foldl (fun m entry ↦ m.insert (key entry) (m[key entry]?.getD [] ++ [entry])) ∅

theorem getD_lookup_groupBy [DecidableEq κ] (key : ν → κ) (entries : List ν) (k : κ) :
    (groupBy key entries)[k]?.getD [] = entries.filter fun entry ↦ key entry = k := by
  have hfold : ∀ m : BTreeMap κ (List ν), (entries.foldl (fun m entry ↦
      m.insert (key entry) (m[key entry]?.getD [] ++ [entry])) m)[k]?.getD [] =
        m[k]?.getD [] ++ entries.filter fun entry ↦ key entry = k := by
    induction entries with
    | nil => simp
    | cons entry entries ih =>
        intro m
        rw [List.foldl_cons, ih, lookup_insert]
        by_cases h : key entry = k <;> simp [h]
  rw [groupBy, hfold]
  simp

/-- The entries of a key are found under it, if there are any. -/
theorem lookup_groupBy [DecidableEq κ] (key : ν → κ) (entries : List ν) (k : κ) :
    (groupBy key entries)[k]? =
      if (entries.filter fun entry ↦ key entry = k) = [] then none
      else some (entries.filter fun entry ↦ key entry = k) := by
  induction entries using List.reverseRecOn with
  | nil => simp [groupBy]
  | append_singleton entries entry ih =>
      have hconcat : groupBy key (entries ++ [entry]) = (groupBy key entries).insert (key entry)
          ((groupBy key entries)[key entry]?.getD [] ++ [entry]) := by
        rw [groupBy, List.foldl_append]
        rfl
      rw [hconcat, lookup_insert, List.filter_append, getD_lookup_groupBy]
      by_cases h : key entry = k
      · subst h
        simp
      · simp [h, ih]

omit [Ord κ] [TransOrd κ] [LawfulEqOrd κ] in
/-- An entry whose key no other entry has is alone under it. -/
theorem filter_eq_singleton_of_nodup {α : Type w} [DecidableEq κ] {key : α → κ} {entries : List α}
    {entry : α} (h : (entries.map key).Nodup) (hentry : entry ∈ entries) :
    entries.filter (fun other ↦ key other = key entry) = [entry] := by
  induction entries with
  | nil => cases hentry
  | cons first entries ih =>
      rw [List.map_cons, List.nodup_cons, List.mem_map] at h
      rcases List.mem_cons.mp hentry with rfl | hmem
      · have hnone : entries.filter (fun other ↦ key other = key entry) = [] := by
          rw [List.filter_eq_nil_iff]
          intro other hother heq
          exact h.1 ⟨other, hother, of_decide_eq_true heq⟩
        rw [List.filter_cons_of_pos (by simp), hnone]
      · have hne : key first ≠ key entry := fun heq ↦ h.1 ⟨entry, hmem, heq.symm⟩
        rw [List.filter_cons_of_neg (by simpa using hne), ih h.2 hmem]

theorem getD_lookup_groupBy_of_nodup [DecidableEq κ] {key : ν → κ} {entries : List ν} {entry : ν}
    (h : (entries.map key).Nodup) (hentry : entry ∈ entries) :
    (groupBy key entries)[key entry]?.getD [] = [entry] := by
  rw [getD_lookup_groupBy, filter_eq_singleton_of_nodup h hentry]

/-- A map has one entry at a key, if any. -/
theorem filter_toList [DecidableEq κ] (m : BTreeMap κ ν) (k : κ) :
    m.toList.filter (·.1 = k) = (m[k]?).toList.map (k, ·) := by
  have hnodup : (m.toList.map Prod.fst).Nodup := by
    rw [ExtTreeMap.map_fst_toList_eq_keys]
    exact ExtTreeMap.nodup_keys
  cases hk : m[k]? with
  | none =>
      refine List.filter_eq_nil_iff.mpr fun entry hentry heq ↦ ?_
      have hlookup := ExtTreeMap.mem_toList_iff_getElem?_eq_some.mp hentry
      rw [of_decide_eq_true heq, hk] at hlookup
      cases hlookup
  | some v =>
      exact filter_eq_singleton_of_nodup hnodup (ExtTreeMap.mem_toList_iff_getElem?_eq_some.mpr hk)

theorem lastOf_toList [DecidableEq κ] (m : BTreeMap κ ν) (k : κ) :
    lastOf Prod.fst m.toList k = m[k]?.map (k, ·) := by
  rw [lastOf, filter_toList]
  cases m[k]? with
  | none => exact rfl
  | some v => exact rfl

/-- The values of the map, in ascending key order. -/
def vals (m : BTreeMap κ ν) : List ν := m.toList.map Prod.snd

section Vals

variable {key : ν → κ} {entries : List ν} {entry : ν}

/-- The values of a map whose entries name their keys. -/
theorem mem_vals_iff (hkey : ∀ (k : κ) (v : ν), m[k]? = some v → key v = k) :
    v ∈ m.vals ↔ m[key v]? = some v := by
  rw [vals, List.mem_map]
  constructor
  · rintro ⟨⟨k, v⟩, hmem, rfl⟩
    have hlookup := ExtTreeMap.mem_toList_iff_getElem?_eq_some.mp hmem
    rw [hkey k v hlookup]
    exact hlookup
  · intro h
    exact ⟨(key v, v), ExtTreeMap.mem_toList_iff_getElem?_eq_some.mpr h, rfl⟩

theorem map_key_vals (hkey : ∀ (k : κ) (v : ν), m[k]? = some v → key v = k) :
    m.vals.map key = m.keys := by
  rw [vals, List.map_map, ← ExtTreeMap.map_fst_toList_eq_keys]
  exact List.map_congr_left fun entry hmem ↦
    hkey entry.1 entry.2 (ExtTreeMap.mem_toList_iff_getElem?_eq_some.mp hmem)

theorem key_of_lookup_byKey [DecidableEq κ] (k : κ) (entry : ν)
    (h : (byKey key entries)[k]? = some entry) : key entry = k := by
  rw [lookup_byKey] at h
  exact of_decide_eq_true (List.mem_filter.mp (List.mem_of_getLast? h)).2

/-- The values are the entries that stay under their own keys. -/
theorem mem_vals_byKey_iff [DecidableEq κ] :
    entry ∈ (byKey key entries).vals ↔ lastOf key entries (key entry) = some entry := by
  rw [mem_vals_iff key_of_lookup_byKey, lookup_byKey]

/-- The keys of the values ascend. -/
theorem pairwise_key_vals_byKey [DecidableEq κ] (key : ν → κ) (entries : List ν) :
    ((byKey key entries).vals.map key).Pairwise fun k k' ↦ compare k k' = .lt := by
  rw [map_key_vals key_of_lookup_byKey]
  exact ExtTreeMap.ordered_keys

end Vals

end BTreeMap

/-! ## Records as keys -/

section Keys

open Std

variable {α : Type u} {β : Type v} [Ord β]

/-- Comparing by an injective key never identifies two different values. -/
theorem lawfulEqCmp_compareOn [LawfulEqOrd β] {f : α → β} (hf : Function.Injective f) :
    LawfulEqCmp (compareOn f) where
  eq_of_compare {a b} h := hf (show f a = f b from compare_eq_iff_eq.mp h)

/-- The order of a record type that compares the lists of its fields. -/
@[reducible] def Ord.byFields (fields : α → List β) : Ord α := ⟨compareOn fields⟩

theorem transOrd_byFields [TransOrd β] (fields : α → List β) :
    @TransOrd α (Ord.byFields fields) :=
  inferInstanceAs (TransCmp (compareOn fields))

theorem lawfulEqOrd_byFields [LawfulEqOrd β] {fields : α → List β}
    (h : Function.Injective fields) : @LawfulEqOrd α (Ord.byFields fields) :=
  lawfulEqCmp_compareOn h

end Keys

end AxiomArb.Library
