import AxiomArb.Library.StableSort
import Mathlib.Algebra.Order.Ring.Int
import Mathlib.Data.List.Induction

/-!
# Pages of numbered rows

Rows are read in the order of their numbers, a page at a time, each page after the last row of
the page before.  Pages read so are one longer page (`page_add`), and what has been read up to
some number is all there was up to it (`mem_of_front`).
-/

universe u

namespace AxiomArb.Library

variable {α : Type u} {number : α → ℕ} {rows : List α} {cursor : ℤ}

/-- The rows after a cursor. -/
def rowsAfter (number : α → ℕ) (rows : List α) (cursor : ℤ) : List α :=
  sortByKey number (rows.filter fun row ↦ cursor < number row)

def page (number : α → ℕ) (rows : List α) (cursor : ℤ) (limit : ℕ) : List α :=
  (rowsAfter number rows cursor).take limit

/-- Where the cursor stands once some rows have been read. -/
def cursorAfter (number : α → ℕ) (cursor : ℤ) (read : List α) : ℤ :=
  (read.getLast?.map fun row ↦ (number row : ℤ)).getD cursor

@[simp] theorem cursorAfter_nil : cursorAfter number cursor [] = cursor := rfl

@[simp] theorem cursorAfter_concat (read : List α) (row : α) :
    cursorAfter number cursor (read ++ [row]) = number row := by
  rw [cursorAfter, List.getLast?_concat, Option.map_some, Option.getD_some]

theorem mem_rowsAfter {row : α} :
    row ∈ rowsAfter number rows cursor ↔ row ∈ rows ∧ cursor < number row := by
  rw [rowsAfter, mem_sortByKey, List.mem_filter, decide_eq_true_iff]

variable (hdistinct : (rows.map number).Nodup)
include hdistinct

theorem pairwise_rowsAfter :
    (rowsAfter number rows cursor).Pairwise fun row row' ↦ number row < number row' :=
  (pairwise_lt_sortByKey ((List.filter_sublist.map number).nodup hdistinct)).imp
    fun hlt ↦ Nat.compare_eq_lt.mp hlt

/-- The rows after a later cursor are among those after an earlier one. -/
theorem rowsAfter_of_le {cursor' : ℤ} (hle : cursor ≤ cursor') :
    rowsAfter number rows cursor' =
      (rowsAfter number rows cursor).filter fun row ↦ cursor' < number row := by
  refine List.Perm.eq_of_pairwise (fun _ _ _ _ hlt hgt ↦ absurd hlt hgt.asymm)
    (pairwise_rowsAfter hdistinct) ((pairwise_rowsAfter hdistinct).filter _) ?_
  have hperm := (perm_sortByKey number (rows.filter fun row ↦ cursor < number row)).filter
    fun row ↦ cursor' < number row
  refine (perm_sortByKey number _).trans (.trans (.of_eq ?_) hperm.symm)
  rw [List.filter_filter]
  refine List.filter_congr fun row _ ↦ ?_
  rw [← Bool.decide_and, decide_eq_decide]
  constructor
  · intro hlt
    exact ⟨hlt, hle.trans_lt hlt⟩
  · exact And.left

/-- After the last row of a front there is what follows the front. -/
theorem rowsAfter_cursorAfter {front back : List α}
    (h : rowsAfter number rows cursor = front ++ back) :
    rowsAfter number rows (cursorAfter number cursor front) = back := by
  induction front using List.reverseRecOn with
  | nil => exact h
  | append_singleton front last _ =>
    have hpairwise : (rowsAfter number rows cursor).Pairwise _ := pairwise_rowsAfter hdistinct
    rw [h] at hpairwise
    rw [List.append_assoc, List.singleton_append] at h hpairwise
    obtain ⟨-, hlast, hbefore⟩ := List.pairwise_append.mp hpairwise
    obtain ⟨hlater, -⟩ := List.pairwise_cons.mp hlast
    have hmem : last ∈ rowsAfter number rows cursor := by
      rw [h]
      exact List.mem_append_right _ List.mem_cons_self
    rw [cursorAfter_concat, rowsAfter_of_le hdistinct (mem_rowsAfter.mp hmem).2.le, h,
      List.filter_append, List.filter_cons_of_neg (by simp)]
    have hfront : front.filter (fun row ↦ (number last : ℤ) < number row) = [] := by
      refine List.filter_eq_nil_iff.mpr fun row hrow ↦ ?_
      have hlt := hbefore row hrow last List.mem_cons_self
      simpa using hlt.le
    have hback : back.filter (fun row ↦ (number last : ℤ) < number row) = back := by
      refine List.filter_eq_self.mpr fun row hrow ↦ ?_
      simpa using hlater row hrow
    rw [hfront, hback, List.nil_append]

/-- Two pages, the second after the last row of the first, are one. -/
theorem page_add (limit limit' : ℕ) :
    page number rows cursor (limit + limit') = page number rows cursor limit ++
      page number rows (cursorAfter number cursor (page number rows cursor limit)) limit' := by
  have hsplit : rowsAfter number rows cursor = page number rows cursor limit ++
      (rowsAfter number rows cursor).drop limit := (List.take_append_drop limit _).symm
  rw [page, List.take_add]
  congr 1
  rw [page, rowsAfter_cursorAfter hdistinct hsplit]

/-- Rows read from the front on are all that there are up to the cursor. -/
theorem mem_of_front {front : List α} (h : front <+: rowsAfter number rows cursor) {row : α}
    (hrow : row ∈ rows) (hafter : cursor < number row)
    (hle : number row ≤ cursorAfter number cursor front) : row ∈ front := by
  obtain ⟨back, hback⟩ := h
  have hmem : row ∈ front ++ back := hback ▸ mem_rowsAfter.mpr ⟨hrow, hafter⟩
  refine (List.mem_append.mp hmem).resolve_right fun hlater ↦ ?_
  rw [← rowsAfter_cursorAfter hdistinct hback.symm] at hlater
  exact absurd (mem_rowsAfter.mp hlater).2 hle.not_gt

/-- No row that has been read is above the cursor. -/
theorem le_cursorAfter_of_mem {front : List α} (h : front <+: rowsAfter number rows cursor)
    {row : α} (hrow : row ∈ front) : number row ≤ cursorAfter number cursor front := by
  induction front using List.reverseRecOn with
  | nil => cases hrow
  | append_singleton front last _ =>
    have hpairwise := (pairwise_rowsAfter hdistinct).sublist h.sublist
    rw [cursorAfter_concat]
    rcases List.mem_append.mp hrow with hrow | hrow
    · have hlt := (List.pairwise_append.mp hpairwise).2.2 row hrow last (List.mem_singleton_self _)
      exact Int.ofNat_le.mpr hlt.le
    · rw [List.mem_singleton.mp hrow]

omit hdistinct in
/-- The cursor does not go back. -/
theorem le_cursorAfter {front : List α} (h : front <+: rowsAfter number rows cursor) :
    cursor ≤ cursorAfter number cursor front := by
  induction front using List.reverseRecOn with
  | nil => exact le_rfl
  | append_singleton front last _ =>
    rw [cursorAfter_concat]
    exact (mem_rowsAfter.mp (h.subset (List.mem_append_right _ List.mem_cons_self))).2.le

end AxiomArb.Library
