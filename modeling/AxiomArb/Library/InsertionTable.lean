import Mathlib.Data.List.Induction
import Mathlib.Data.List.Nodup

/-!
# Tables in the order of insertion

A table of rows with different keys, in the order in which they were inserted.  A row
whose key is taken is refused.  If the rows of a key are all alike, the table is the list
of first occurrences.
-/

universe u v

namespace AxiomArb.Library

/-- Rows in the order of insertion, no two under one key. -/
structure InsertionTable {κ : Type u} {ν : Type v} (key : ν → κ) where
  rows : List ν
  distinct : (rows.map key).Nodup

namespace InsertionTable

variable {κ : Type u} {ν : Type v} [DecidableEq κ] {key : ν → κ} {table table' : InsertionTable key}
  {k : κ} {row : ν}

def empty : InsertionTable key := ⟨[], List.nodup_nil⟩

def get? (table : InsertionTable key) (k : κ) : Option ν := table.rows.find? (key · = k)

/-- Insert a row at the end, unless its key is taken. -/
def insert? (table : InsertionTable key) (row : ν) : Option (InsertionTable key) :=
  if h : key row ∈ table.rows.map key then
    none
  else
    some
      { rows := table.rows ++ [row]
        distinct := by
          rw [List.map_append, List.map_singleton, List.nodup_append]
          refine ⟨table.distinct, List.nodup_singleton _, ?_⟩
          rintro k hk k' hk' rfl
          rw [List.mem_singleton] at hk'
          exact h (hk' ▸ hk) }

theorem get?_eq_none_iff : table.get? k = none ↔ k ∉ table.rows.map key := by
  simp [get?]

/-- The row under a key is the one in the table that has it. -/
theorem get?_eq_some_iff : table.get? k = some row ↔ row ∈ table.rows ∧ key row = k := by
  have hfound : ∀ {found}, table.get? k = some found → found ∈ table.rows ∧ key found = k :=
    fun h ↦ ⟨List.mem_of_find?_eq_some h, by simpa using List.find?_some h⟩
  refine ⟨hfound, ?_⟩
  rintro ⟨hrow, hkey⟩
  cases hget : table.get? k with
  | none => exact absurd (hkey ▸ List.mem_map_of_mem hrow) (get?_eq_none_iff.mp hget)
  | some found =>
      obtain ⟨hmem, hsame⟩ := hfound hget
      rw [List.inj_on_of_nodup_map table.distinct hmem hrow (hsame.trans hkey.symm)]

theorem insert?_eq_some_iff :
    table.insert? row = some table' ↔
      table.get? (key row) = none ∧ table'.rows = table.rows ++ [row] := by
  rw [get?_eq_none_iff, insert?]
  split
  · rename_i htaken
    exact iff_of_false nofun fun h ↦ h.1 htaken
  · rename_i hfree
    obtain ⟨rows', distinct'⟩ := table'
    simp [hfree, eq_comm]

/-- A row under a free key is taken in. -/
theorem exists_insert?_eq_some (h : table.get? (key row) = none) :
    ∃ table', table.insert? row = some table' := by
  rw [get?_eq_none_iff] at h
  exact ⟨_, dif_neg h⟩

end InsertionTable

/-! ## First occurrences -/

section Firsts

variable {α : Type u} [DecidableEq α] {item : α} {items items' : List α}

theorem eraseDups_concat_of_mem (h : item ∈ items) :
    (items ++ [item]).eraseDups = items.eraseDups := by
  rw [List.eraseDups_append]
  simp [List.removeAll, h]

theorem eraseDups_concat_of_not_mem (h : item ∉ items) :
    (items ++ [item]).eraseDups = items.eraseDups ++ [item] := by
  rw [List.eraseDups_append]
  simp [List.removeAll, h, List.eraseDups_cons]

theorem nodup_eraseDups (items : List α) : items.eraseDups.Nodup := by
  induction items using List.reverseRecOn with
  | nil => exact List.nodup_nil
  | append_singleton items item ih =>
      by_cases h : item ∈ items
      · rwa [eraseDups_concat_of_mem h]
      · rw [eraseDups_concat_of_not_mem h, List.nodup_append]
        refine ⟨ih, List.nodup_singleton _, ?_⟩
        rintro item' hitem' item'' hitem'' rfl
        rw [List.mem_singleton.mp hitem'', List.mem_eraseDups] at hitem'
        exact h hitem'

/-- What is found first is found first among the first occurrences. -/
theorem find?_eraseDups (p : α → Bool) (items : List α) :
    items.eraseDups.find? p = items.find? p := by
  induction items using List.reverseRecOn with
  | nil => rfl
  | append_singleton items item ih =>
      by_cases h : item ∈ items
      · rw [eraseDups_concat_of_mem h, ih, List.find?_append]
        cases hfind : items.find? p with
        | some found => rfl
        | none =>
            have hitem : ¬p item := by simpa using List.find?_eq_none.mp hfind item h
            simp [hitem]
      · rw [eraseDups_concat_of_not_mem h, List.find?_append, List.find?_append, ih]

theorem perm_eraseDups (h : items.Perm items') : items.eraseDups.Perm items'.eraseDups := by
  rw [List.perm_ext_iff_of_nodup (nodup_eraseDups items) (nodup_eraseDups items')]
  intro item
  rw [List.mem_eraseDups, List.mem_eraseDups, h.mem_iff]

end Firsts

end AxiomArb.Library
