import Mathlib.Data.List.Basic
import Mathlib.Data.List.Pairwise
import Std.Data.ExtTreeMap

/-!
# Sorting by a key

A list that is sorted by a key with a stable sort keeps the items of each key in their
order.  Two lists are sorted alike exactly if they have the same items for each key, in the
same order (`sortByKey_eq_iff`).
-/

universe u v

namespace AxiomArb.Library

open Std

variable {α : Type u} {κ : Type v} [Ord κ] {key : α → κ} {items items' : List α}

/-- Sort a list by a key; items of one key stay in their order. -/
def sortByKey (key : α → κ) (items : List α) : List α :=
  items.mergeSort fun item item' ↦ (compare (key item) (key item')).isLE

theorem mem_sortByKey {item : α} : item ∈ sortByKey key items ↔ item ∈ items := List.mem_mergeSort

theorem perm_sortByKey (key : α → κ) (items : List α) : (sortByKey key items).Perm items :=
  List.mergeSort_perm items _

section Stable

variable [TransOrd κ]

theorem isLE_self (k : κ) : (compare k k).isLE := by
  have hself : compare k k = .eq := ReflCmp.compare_self
  rw [hself]
  rfl

theorem isLE_trans (item item' item'' : α) (h : (compare (key item) (key item')).isLE)
    (h' : (compare (key item') (key item'')).isLE) : (compare (key item) (key item'')).isLE :=
  TransCmp.isLE_trans h h'

theorem isLE_total (item item' : α) :
    ((compare (key item) (key item')).isLE || (compare (key item') (key item)).isLE) = true := by
  have hswap : compare (key item') (key item) = (compare (key item) (key item')).swap :=
    OrientedCmp.eq_swap
  rw [hswap]
  cases compare (key item) (key item') <;> rfl

theorem pairwise_sortByKey (key : α → κ) (items : List α) :
    (sortByKey key items).Pairwise fun item item' ↦ (compare (key item) (key item')).isLE :=
  List.pairwise_mergeSort isLE_trans isLE_total items

omit [TransOrd κ] in
theorem exists_head?_sortByKey (key : α → κ) (h : items ≠ []) :
    ∃ first, (sortByKey key items).head? = some first := by
  have hsorted : sortByKey key items ≠ [] := fun hnil ↦
    h (List.nil_perm.mp (hnil ▸ perm_sortByKey key items))
  exact ⟨_, List.head?_eq_some_head hsorted⟩

/-- The first of the sorted items is one that no other precedes. -/
theorem of_head?_sortByKey {first : α} (h : (sortByKey key items).head? = some first) :
    first ∈ items ∧ ∀ item ∈ items, (compare (key first) (key item)).isLE := by
  obtain ⟨rest, hrest⟩ := List.head?_eq_some_iff.mp h
  have hsorted := pairwise_sortByKey key items
  rw [hrest, List.pairwise_cons] at hsorted
  have hmem : ∀ item, item ∈ items ↔ item ∈ first :: rest := fun item ↦ by
    rw [← hrest, mem_sortByKey]
  refine ⟨(hmem first).mpr List.mem_cons_self, fun item hitem ↦ ?_⟩
  rcases List.mem_cons.mp ((hmem item).mp hitem) with rfl | hlater
  · exact isLE_self _
  · exact hsorted.1 item hlater

variable [DecidableEq κ]

/-- The items of one key stay in their order. -/
theorem filter_sortByKey (k : κ) :
    (sortByKey key items).filter (key · = k) = items.filter (key · = k) := by
  have hsame : (items.filter (key · = k)).Pairwise
      fun item item' ↦ (compare (key item) (key item')).isLE := by
    refine List.pairwise_of_forall_mem_list fun item hitem item' hitem' ↦ ?_
    rw [List.mem_filter, decide_eq_true_eq] at hitem hitem'
    rw [hitem.2, hitem'.2]
    exact isLE_self k
  have hsub : (items.filter (key · = k)).Sublist (sortByKey key items) :=
    List.sublist_mergeSort isLE_trans isLE_total hsame List.filter_sublist
  have hfilter := hsub.filter (key · = k)
  rw [List.filter_filter] at hfilter
  simp only [Bool.and_self] at hfilter
  exact (hfilter.eq_of_length ((perm_sortByKey key items).filter _).length_eq.symm).symm

variable [LawfulEqOrd κ]

omit [DecidableEq κ] in
/-- Items of distinct keys are sorted strictly. -/
theorem pairwise_lt_sortByKey (h : (items.map key).Nodup) :
    (sortByKey key items).Pairwise fun item item' ↦ compare (key item) (key item') = .lt := by
  have hdistinct : (sortByKey key items).Pairwise fun item item' ↦ key item ≠ key item' :=
    List.pairwise_map.mp (((perm_sortByKey key items).map key).nodup_iff.mpr h)
  refine (pairwise_sortByKey key items).imp₂ ?_ hdistinct
  intro item item' hle hne
  cases hcompare : compare (key item) (key item') with
  | lt => rfl
  | eq => exact absurd (LawfulEqCmp.compare_eq_iff_eq.mp hcompare) hne
  | gt =>
      rw [hcompare] at hle
      cases hle

/-- A sorted list is known by its items of each key. -/
theorem eq_of_filter_eq
    (hsorted : items.Pairwise fun item item' ↦ (compare (key item) (key item')).isLE)
    (hsorted' : items'.Pairwise fun item item' ↦ (compare (key item) (key item')).isLE)
    (h : ∀ k, items.filter (key · = k) = items'.filter (key · = k)) : items = items' := by
  induction items generalizing items' with
  | nil =>
      cases items' with
      | nil => rfl
      | cons item' items' => simpa using h (key item')
  | cons item items ih =>
      cases items' with
      | nil => simpa using h (key item)
      | cons item' items' =>
          rw [List.pairwise_cons] at hsorted hsorted'
          have hmem : item ∈ item' :: items' := by
            have hitem : item ∈ (item :: items).filter (key · = key item) := by simp
            rw [h] at hitem
            exact (List.mem_filter.mp hitem).1
          have hmem' : item' ∈ item :: items := by
            have hitem' : item' ∈ (item' :: items').filter (key · = key item') := by simp
            rw [← h] at hitem'
            exact (List.mem_filter.mp hitem').1
          have hle : (compare (key item) (key item')).isLE := by
            rcases List.mem_cons.mp hmem' with rfl | hlater
            · exact isLE_self _
            · exact hsorted.1 item' hlater
          have hle' : (compare (key item') (key item)).isLE := by
            rcases List.mem_cons.mp hmem with rfl | hlater
            · exact isLE_self _
            · exact hsorted'.1 item hlater
          have hkey : key item = key item' := by
            rw [← LawfulEqOrd.compare_eq_iff_eq (α := κ)]
            exact OrientedCmp.isLE_antisymm hle hle'
          have hfirst := h (key item)
          rw [List.filter_cons_of_pos (by simp), List.filter_cons_of_pos (by simp [hkey]),
            List.cons.injEq] at hfirst
          obtain ⟨rfl, -⟩ := hfirst
          refine congrArg _ (ih hsorted.2 hsorted'.2 fun k ↦ ?_)
          have hall := h k
          by_cases hk : key item = k
          · rw [List.filter_cons_of_pos (by simp [hk]), List.filter_cons_of_pos (by simp [hk]),
              List.cons.injEq] at hall
            exact hall.2
          · rw [List.filter_cons_of_neg (by simp [hk]), List.filter_cons_of_neg (by simp [hk])] at hall
            exact hall

/-- Two lists are sorted alike exactly if their items of each key are alike. -/
theorem sortByKey_eq_iff :
    sortByKey key items = sortByKey key items' ↔
      ∀ k, items.filter (key · = k) = items'.filter (key · = k) := by
  constructor
  · intro h k
    rw [← filter_sortByKey, h, filter_sortByKey]
  · intro h
    refine eq_of_filter_eq (pairwise_sortByKey key items) (pairwise_sortByKey key items') fun k ↦ ?_
    rw [filter_sortByKey, filter_sortByKey, h]

/-- An item that no other precedes comes first. -/
theorem sortByKey_cons_of_isLE {item : α}
    (h : ∀ item' ∈ items, (compare (key item) (key item')).isLE) :
    sortByKey key (item :: items) = item :: sortByKey key items := by
  have hsorted : (item :: sortByKey key items).Pairwise
      fun item item' ↦ (compare (key item) (key item')).isLE :=
    List.pairwise_cons.mpr
      ⟨fun item' hitem' ↦ h item' (mem_sortByKey.mp hitem'), pairwise_sortByKey key items⟩
  refine eq_of_filter_eq (pairwise_sortByKey key _) hsorted fun k ↦ ?_
  rw [filter_sortByKey, List.filter_cons, List.filter_cons, filter_sortByKey]

omit [DecidableEq κ] in
/-- The keys of two sorted lists are alike exactly if the lists have the same keys. -/
theorem map_key_sortByKey_eq_iff :
    (sortByKey key items).map key = (sortByKey key items').map key ↔
      (items.map key).Perm (items'.map key) := by
  have hperm : ∀ items, ((sortByKey key items).map key).Perm (items.map key) :=
    fun items ↦ (perm_sortByKey key items).map key
  have hsorted : ∀ items, ((sortByKey key items).map key).Pairwise
      fun k k' ↦ (compare k k').isLE := fun items ↦
    List.pairwise_map.mpr (pairwise_sortByKey key items)
  constructor
  · intro h
    exact (hperm items).symm.trans (h ▸ hperm items')
  · intro h
    refine ((hperm items).trans (h.trans (hperm items').symm)).eq_of_pairwise ?_
      (hsorted items) (hsorted items')
    intro k k' _ _ hle hle'
    rw [← LawfulEqOrd.compare_eq_iff_eq (α := κ)]
    exact OrientedCmp.isLE_antisymm hle hle'

end Stable

/-! ## Lists under a view -/

section Views

variable {β : Type*} {γ : Type*} [Nonempty γ] {view : α → β} {view' : α → γ}

/-- Lists that one view shows alike, another shows alike that tells no more apart. -/
theorem map_eq_of_factorsThrough (hfactors : view'.FactorsThrough view)
    (h : items.map view = items'.map view) : items.map view' = items'.map view' := by
  obtain ⟨factor, rfl⟩ := (Function.factorsThrough_iff view').mp hfactors
  rw [← List.map_map, ← List.map_map, h]

theorem perm_map_of_factorsThrough (hfactors : view'.FactorsThrough view)
    (h : (items.map view).Perm (items'.map view)) : (items.map view').Perm (items'.map view') := by
  obtain ⟨factor, rfl⟩ := (Function.factorsThrough_iff view').mp hfactors
  rw [← List.map_map, ← List.map_map]
  exact h.map factor

end Views

end AxiomArb.Library
