import Mathlib.Data.List.Sort

/-!
# What does not depend on an order

A hash set is a listing of its members, each of them once, in an order of no meaning.  The
operations on such sets give listings of the same members whatever the order was, and so
does a fold of steps that commute.  A sort by a comparison that tells all values apart
takes the order away again.
-/

universe u v

namespace AxiomArb.Library

/-! ## Hash sets -/

section Sets

variable {α : Type u} [DecidableEq α]

def difference (set other : List α) : List α := set.filter (· ∉ other)

/-- The smaller of the two sets is gone through. -/
def intersection (set other : List α) : List α :=
  if set.length ≤ other.length then set.filter (· ∈ other) else other.filter (· ∈ set)

def symmetricDifference (set other : List α) : List α :=
  difference set other ++ difference other set

variable {set set' other other' : List α}

theorem difference_perm (h : set.Perm set') (hother : other.Perm other') :
    (difference set other).Perm (difference set' other') := by
  have hsame : difference set' other = difference set' other' := by
    simp only [difference, hother.mem_iff]
  rw [← hsame]
  exact h.filter _

theorem symmetricDifference_perm (h : set.Perm set') (hother : other.Perm other') :
    (symmetricDifference set other).Perm (symmetricDifference set' other') :=
  (difference_perm h hother).append (difference_perm hother h)

theorem mem_intersection {a : α} : a ∈ intersection set other ↔ a ∈ set ∧ a ∈ other := by
  unfold intersection
  split
  · simp
  · simp [and_comm]

theorem nodup_intersection (h : set.Nodup) (hother : other.Nodup) : (intersection set other).Nodup := by
  unfold intersection
  split
  · exact h.filter _
  · exact hother.filter _

theorem intersection_perm (hnodup : set'.Nodup) (hnodup' : other'.Nodup) (h : set.Perm set')
    (hother : other.Perm other') :
    (intersection set other).Perm (set'.filter (· ∈ other')) := by
  refine (List.perm_ext_iff_of_nodup ?_ (hnodup.filter _)).mpr fun a ↦ ?_
  · exact nodup_intersection (h.nodup_iff.mpr hnodup) (hother.nodup_iff.mpr hnodup')
  · simp [mem_intersection, h.mem_iff, hother.mem_iff]

end Sets

/-! ## Sorting -/

section Sorting

open Std

variable {α : Type u} {cmp : α → α → Ordering} {list list' : List α}

/-- Sorted lists of the same values are the same, where only equal values compare as such. -/
theorem eq_of_perm_of_sorted [OrientedCmp cmp] [LawfulEqCmp cmp]
    (h : list.Pairwise fun a b ↦ (cmp a b).isLE) (h' : list'.Pairwise fun a b ↦ (cmp a b).isLE)
    (hperm : list.Perm list') : list = list' := by
  refine hperm.eq_of_pairwise (fun a b _ _ hle hge ↦ ?_) h h'
  exact LawfulEqCmp.eq_of_compare (OrientedCmp.isLE_antisymm hle hge)

theorem sorted_insertionSort [TransCmp cmp] (list : List α) :
    (list.insertionSort fun a b ↦ (cmp a b).isLE).Pairwise fun a b ↦ (cmp a b).isLE := by
  have : Std.Total fun a b ↦ ((cmp a b).isLE = true) := ⟨by
    intro a b
    have hswap : cmp b a = (cmp a b).swap := OrientedCmp.eq_swap
    rw [hswap]
    cases cmp a b <;> simp⟩
  have : IsTrans α fun a b ↦ (cmp a b).isLE = true := ⟨fun _ _ _ ↦ TransCmp.isLE_trans⟩
  exact List.pairwise_insertionSort _ list

theorem insertionSort_eq_of_perm [TransCmp cmp] [LawfulEqCmp cmp] (hperm : list.Perm list') :
    (list.insertionSort fun a b ↦ (cmp a b).isLE) = list'.insertionSort fun a b ↦ (cmp a b).isLE := by
  refine eq_of_perm_of_sorted (sorted_insertionSort list) (sorted_insertionSort list') ?_
  exact (List.perm_insertionSort _ list).trans (hperm.trans (List.perm_insertionSort _ list').symm)

end Sorting

/-! ## Steps that commute -/

/-- Steps whose keys differ are taken in any order. -/
theorem foldl_eq_of_perm_of_nodup {α : Type u} {σ : Type v} {κ : Type*} {step : σ → α → σ} {key : α → κ}
    (hcomm : ∀ state a b, key a ≠ key b → step (step state a) b = step (step state b) a)
    {list list' : List α} (hnodup : (list.map key).Nodup) (hperm : list.Perm list') (state : σ) :
    list.foldl step state = list'.foldl step state := by
  refine hperm.foldl_eq' (fun a ha b hb state ↦ ?_) state
  by_cases hkey : key a = key b
  · rw [List.inj_on_of_nodup_map hnodup ha hb hkey]
  · exact hcomm state a b hkey

end AxiomArb.Library
