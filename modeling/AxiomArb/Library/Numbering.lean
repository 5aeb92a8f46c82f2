import AxiomArb.Library.OrderedMap
import Mathlib.Data.List.Nodup
import Mathlib.Data.List.Range

/-!
# Numbering by key

Items that come one after another get the next number of their key.  Whatever the order in
which the keys mix, no two items share key and number (`nodup_numbered`), and the items of
one key are numbered on from where its counter stood (`numbers_of_key`).
-/

universe u v

namespace AxiomArb.Library

open Std

variable {α : Type u} {κ : Type v} [Ord κ] [TransOrd κ] [LawfulEqOrd κ]

/-- The last number given to a key. -/
def lastNumber (counters : BTreeMap κ Nat) (k : κ) : Nat := counters[k]?.getD 0

/-- The items with the numbers they get. -/
def numbered (key : α → κ) : BTreeMap κ Nat → List α → List (α × Nat)
  | _, [] => []
  | counters, item :: items =>
      let number := lastNumber counters (key item) + 1
      (item, number) :: numbered key (counters.insert (key item) number) items

variable {key : α → κ} {counters : BTreeMap κ Nat} {item : α} {items : List α} {k : κ} {number : Nat}

theorem lastNumber_insert [DecidableEq κ] (counters : BTreeMap κ Nat) (k a : κ) (number : Nat) :
    lastNumber (counters.insert k number) a = if k = a then number else lastNumber counters a := by
  rw [lastNumber, BTreeMap.lookup_insert]
  split
  · exact rfl
  · exact rfl

/-- Numbers are given above the last one of the key. -/
theorem lt_of_mem_numbered [DecidableEq κ] (h : (item, number) ∈ numbered key counters items) :
    lastNumber counters (key item) < number := by
  induction items generalizing counters with
  | nil => cases h
  | cons first items ih =>
      rw [numbered, List.mem_cons, Prod.mk.injEq] at h
      rcases h with ⟨rfl, rfl⟩ | h
      · exact Nat.lt_succ_self _
      · have hlater := ih h
        rw [lastNumber_insert] at hlater
        split at hlater
        · rename_i hkey
          rw [← hkey]
          omega
        · exact hlater

theorem nodup_numbered [DecidableEq κ] (key : α → κ) (counters : BTreeMap κ Nat) (items : List α) :
    ((numbered key counters items).map fun entry ↦ (key entry.1, entry.2)).Nodup := by
  induction items generalizing counters with
  | nil => exact List.nodup_nil
  | cons first items ih =>
      rw [numbered, List.map_cons, List.nodup_cons]
      refine ⟨fun hmem ↦ ?_, ih _⟩
      -- a later item of this key is numbered above the first
      obtain ⟨⟨item, number⟩, hentry, heq⟩ := List.mem_map.mp hmem
      obtain ⟨hkey, rfl⟩ := Prod.mk.inj heq
      have hlater := lt_of_mem_numbered hentry
      rw [lastNumber_insert, if_pos hkey.symm] at hlater
      exact lt_irrefl _ hlater

theorem numbers_of_key [DecidableEq κ] (key : α → κ) (counters : BTreeMap κ Nat) (items : List α)
    (k : κ) :
    ((numbered key counters items).filter fun entry ↦ key entry.1 = k).map Prod.snd =
      List.range' (lastNumber counters k + 1) (items.countP fun item ↦ key item = k) := by
  induction items generalizing counters with
  | nil => exact rfl
  | cons first items ih =>
      by_cases hkey : key first = k
      · subst hkey
        rw [numbered, List.filter_cons_of_pos (by simp), List.map_cons, ih, lastNumber_insert,
          if_pos rfl, List.countP_cons_of_pos (by simp), List.range'_succ]
      · rw [numbered, List.filter_cons_of_neg (by simpa using hkey), ih, lastNumber_insert,
          if_neg hkey, List.countP_cons_of_neg (by simpa using hkey)]

end AxiomArb.Library
