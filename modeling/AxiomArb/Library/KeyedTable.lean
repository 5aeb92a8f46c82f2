import AxiomArb.Library.OrderedMap
import Mathlib.Data.List.Nodup

/-!
# Tables with a key

A table holds rows, each filed under its key.  `insertNew` inserts a row unless the
table has one under the key, which then stays as it is.
-/

universe u v

namespace AxiomArb.Library

open Std

/-- A table whose rows are filed under `key`. -/
structure KeyedTable {κ : Type u} {ν : Type v} [Ord κ] [TransOrd κ] (key : ν → κ) where
  rows : BTreeMap κ ν
  keyed : ∀ k row, rows[k]? = some row → key row = k

namespace KeyedTable

section Definitions

variable {κ : Type u} {ν : Type v} [Ord κ] [TransOrd κ] [LawfulEqOrd κ] {key : ν → κ}

def empty : KeyedTable key := ⟨∅, fun k row h ↦ by simp at h⟩

def get? (table : KeyedTable key) (k : κ) : Option ν := table.rows[k]?

/-- All rows, in the order of their keys. -/
def all (table : KeyedTable key) : List ν := table.rows.vals

/-- Insert a row, unless there is one under its key. -/
def insertNew (table : KeyedTable key) (row : ν) : KeyedTable key :=
  match h : table.rows[key row]? with
  | some _ => table
  | none =>
      { rows := table.rows.insert (key row) row
        keyed := by
          intro k other hother
          rw [ExtTreeMap.getElem?_insert] at hother
          split at hother
          · rename_i heq
            cases hother
            exact LawfulEqCmp.compare_eq_iff_eq.mp heq
          · exact table.keyed k other hother }

/-- Write a row, over the one under its key. -/
def put (table : KeyedTable key) (row : ν) : KeyedTable key :=
  { rows := table.rows.insert (key row) row
    keyed := by
      intro k other hother
      rw [ExtTreeMap.getElem?_insert] at hother
      split at hother
      · rename_i heq
        cases hother
        exact LawfulEqCmp.compare_eq_iff_eq.mp heq
      · exact table.keyed k other hother }

/-- Delete the rows whose keys are not kept. -/
def keepKeys (table : KeyedTable key) (keep : κ → Bool) : KeyedTable key :=
  { rows := table.rows.filter fun k _ ↦ keep k
    keyed := by
      intro k row hrow
      rw [ExtTreeMap.getElem?_filter', Option.filter_eq_some_iff] at hrow
      exact table.keyed k row hrow.1 }

end Definitions

section Lemmas

variable {κ : Type u} {ν : Type v} [Ord κ] [TransOrd κ] [LawfulEqOrd κ] {key : ν → κ}
  {table table' : KeyedTable key} {k : κ} {row row' : ν}

@[ext] theorem ext (h : ∀ k, table.get? k = table'.get? k) : table = table' := by
  obtain ⟨rows, keyed⟩ := table
  obtain ⟨rows', keyed'⟩ := table'
  have heq : rows = rows' := ExtTreeMap.ext_getElem? h
  subst heq
  rfl

omit [LawfulEqOrd κ] in
theorem key_of_get? (h : table.get? k = some row) : key row = k := table.keyed k row h

theorem insertNew_of_some (h : table.get? (key row) = some row') : table.insertNew row = table := by
  unfold insertNew
  split
  · rfl
  · rename_i hnone
    rw [get?, hnone] at h
    cases h

theorem get?_insertNew_self : (table.insertNew row).get? (key row) =
    some ((table.get? (key row)).getD row) := by
  cases h : table.get? (key row) with
  | some row' => rw [insertNew_of_some h, h, Option.getD_some]
  | none =>
      unfold insertNew
      split
      · rename_i hsome
        rw [get?, hsome] at h
        cases h
      · rw [Option.getD_none]
        exact ExtTreeMap.getElem?_insert_self

theorem get?_insertNew_of_ne (h : key row ≠ k) : (table.insertNew row).get? k = table.get? k := by
  unfold insertNew
  split
  · rfl
  · exact BTreeMap.lookup_insert_of_ne h

theorem get?_insertNew [DecidableEq κ] : (table.insertNew row).get? k =
    if key row = k then some ((table.get? k).getD row) else table.get? k := by
  by_cases h : key row = k
  · subst h
    rw [if_pos rfl, get?_insertNew_self]
  · rw [if_neg h, get?_insertNew_of_ne h]

theorem get?_put [DecidableEq κ] :
    (table.put row).get? k = if key row = k then some row else table.get? k :=
  BTreeMap.lookup_insert

theorem get?_keepKeys {keep : κ → Bool} :
    (table.keepKeys keep).get? k = (table.get? k).filter fun _ ↦ keep k :=
  ExtTreeMap.getElem?_filter'

omit [LawfulEqOrd κ] in
@[simp] theorem get?_empty : (empty : KeyedTable key).get? k = none := ExtTreeMap.getElem?_empty

omit [LawfulEqOrd κ] in
@[simp] theorem all_empty : (empty : KeyedTable key).all = [] := rfl

/-- A row that is in the table stays in it. -/
theorem get?_insertNew_of_some (h : table.get? k = some row') :
    (table.insertNew row).get? k = some row' := by
  by_cases hk : key row = k
  · subst hk
    rw [get?_insertNew_self, h, Option.getD_some]
  · rw [get?_insertNew_of_ne hk, h]

/-- What is in the table after an insert was there, or is the row. -/
theorem get?_of_get?_insertNew (h : (table.insertNew row).get? k = some row') :
    table.get? k = some row' ∨
      table.get? (key row) = none ∧ k = key row ∧ row' = row := by
  by_cases hk : key row = k
  · subst hk
    rw [get?_insertNew_self, Option.some.injEq] at h
    cases hold : table.get? (key row) with
    | some other =>
        rw [hold, Option.getD_some] at h
        exact .inl (congrArg some h)
    | none =>
        rw [hold, Option.getD_none] at h
        exact .inr ⟨rfl, rfl, h.symm⟩
  · rw [get?_insertNew_of_ne hk] at h
    exact .inl h

theorem mem_all_iff : row ∈ table.all ↔ table.get? (key row) = some row := by
  unfold all BTreeMap.vals get?
  simp only [List.mem_map, Prod.exists, exists_eq_right]
  constructor
  · rintro ⟨k, hmem⟩
    have hk := ExtTreeMap.mem_toList_iff_getElem?_eq_some.mp hmem
    rw [table.keyed k row hk]
    exact hk
  · intro h
    exact ⟨key row, ExtTreeMap.mem_toList_iff_getElem?_eq_some.mpr h⟩

theorem nodup_all : table.all.Nodup := by
  unfold all BTreeMap.vals
  have hkeys : table.rows.toList.Nodup := ExtTreeMap.distinct_keys_toList.imp fun hne heq ↦
    hne (LawfulEqCmp.compare_eq_iff_eq.mpr (congrArg Prod.fst heq))
  refine List.Nodup.map_on ?_ hkeys
  rintro ⟨k, row⟩ hrow ⟨k', row'⟩ hrow' rfl
  have hk := table.keyed _ _ (ExtTreeMap.mem_toList_iff_getElem?_eq_some.mp hrow)
  have hk' := table.keyed _ _ (ExtTreeMap.mem_toList_iff_getElem?_eq_some.mp hrow')
  exact Prod.ext (hk.symm.trans hk') rfl

end Lemmas

end KeyedTable

end AxiomArb.Library
