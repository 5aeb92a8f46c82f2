import Mathlib.Data.List.Basic
import Mathlib.Tactic.Common

/-!
# Lists in pieces

A list cut into pieces of one length, the last of which may be shorter.  What is shown of a list
piece by piece is shown by `chunks_induction`.
-/

universe u v

namespace AxiomArb.Library

variable {α : Type u} {β : Type v} {n : Nat} {first rest items : List α}

/-- The pieces of a list, of length `n`; the last may be shorter. -/
def chunks (n : Nat) (items : List α) : List (List α) :=
  (List.range ((items.length + (n - 1)) / n)).map fun i ↦ (items.drop (n * i)).take n

theorem chunks_nil (hn : 0 < n) : chunks n ([] : List α) = [] := by
  have hnone : ([] : List α).length + (n - 1) < n := by
    rw [List.length_nil]
    omega
  rw [chunks, Nat.div_eq_of_lt hnone]
  rfl

theorem chunks_append (hn : 0 < n) (h : first.length = n) :
    chunks n (first ++ rest) = first :: chunks n rest := by
  have hcount : ((first ++ rest).length + (n - 1)) / n = (rest.length + (n - 1)) / n + 1 := by
    rw [← Nat.add_div_right _ hn, List.length_append, h]
    congr 1
    omega
  have hpiece : ∀ i, ((first ++ rest).drop (n * (i + 1))).take n = (rest.drop (n * i)).take n := by
    intro i
    rw [Nat.mul_succ, Nat.add_comm, ← List.drop_drop, List.drop_left' h]
  rw [chunks, hcount, List.range_succ_eq_map, List.map_cons, List.map_map]
  simp only [Function.comp_def, Nat.succ_eq_add_one, hpiece]
  rw [Nat.mul_zero, List.drop_zero, List.take_left' h, chunks]

theorem chunks_of_length_le (hne : items ≠ []) (h : items.length ≤ n) : chunks n items = [items] := by
  have hpos := List.length_pos_iff.mpr hne
  have hcount : (items.length + (n - 1)) / n = 1 := by
    rw [Nat.div_eq_iff (by omega)]
    omega
  rw [chunks, hcount]
  simp [List.take_of_length_le h]

/-- Show it of the pieces from the end on. -/
theorem chunks_induction {motive : List α → Prop} (hn : 0 < n) (nil : motive [])
    (last : ∀ items, items ≠ [] → items.length < n → motive items)
    (append : ∀ first rest, first.length = n → motive rest → motive (first ++ rest))
    (items : List α) : motive items := by
  induction hlength : items.length using Nat.strongRecOn generalizing items with
  | ind length ih =>
      subst hlength
      by_cases hshort : items.length < n
      · by_cases hempty : items = []
        · exact hempty ▸ nil
        · exact last items hempty hshort
      · have hrest := ih (items.drop n).length (by rw [List.length_drop]; omega) _ rfl
        have hfirst : (items.take n).length = n := List.length_take_of_le (Nat.le_of_not_lt hshort)
        rw [← List.take_append_drop n items]
        exact append _ _ hfirst hrest

/-- What was put together from pieces is cut into them again. -/
theorem chunks_flatMap (hn : 0 < n) {piece : β → List α} {groups : List β}
    (h : ∀ group ∈ groups, (piece group).length = n) :
    chunks n (groups.flatMap piece) = groups.map piece := by
  induction groups with
  | nil => exact chunks_nil hn
  | cons group groups ih =>
      rw [List.forall_mem_cons] at h
      rw [List.flatMap_cons, chunks_append hn h.1, ih h.2, List.map_cons]

end AxiomArb.Library
