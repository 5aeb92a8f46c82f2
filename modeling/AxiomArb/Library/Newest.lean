import Mathlib.Data.List.Nodup
import Mathlib.Data.List.Perm.Basic
import Mathlib.Order.Lattice

/-!
# The newest rows

A query lists rows from the highest rank to the lowest, up to a limit.  A row is among the first
`n` exactly if fewer than `n` rank higher (`mem_newest`).  Listings that overlap are merged by
listing them again without the repetitions (`mem_merged`).
-/

universe u v w

namespace AxiomArb.Library

variable {α : Type u} {κ : Type v} {ι : Type w} [LinearOrder κ] {rank : α → κ} {rows : List α}
  {row : α}

def newestFirst (rank : α → κ) (rows : List α) : List α :=
  rows.mergeSort fun row row' ↦ rank row' ≤ rank row

def newest (rank : α → κ) (n : Nat) (rows : List α) : List α := (newestFirst rank rows).take n

theorem perm_newestFirst (rank : α → κ) (rows : List α) : (newestFirst rank rows).Perm rows :=
  List.mergeSort_perm rows _

@[simp] theorem mem_newestFirst : row ∈ newestFirst rank rows ↔ row ∈ rows := List.mem_mergeSort

theorem pairwise_newestFirst (rank : α → κ) (rows : List α) :
    (newestFirst rank rows).Pairwise fun row row' ↦ rank row' ≤ rank row := by
  refine (List.pairwise_mergeSort ?_ ?_ rows).imp fun h ↦ of_decide_eq_true h
  · intro row row' row'' h h'
    exact decide_eq_true ((of_decide_eq_true h').trans (of_decide_eq_true h))
  · intro row row'
    rw [Bool.or_eq_true, decide_eq_true_iff, decide_eq_true_iff]
    exact le_total (rank row') (rank row)

/-- Rows of distinct ranks descend strictly. -/
theorem pairwise_lt_newestFirst (h : (rows.map rank).Nodup) :
    (newestFirst rank rows).Pairwise fun row row' ↦ rank row' < rank row := by
  have hdistinct : ((newestFirst rank rows).map rank).Nodup :=
    ((perm_newestFirst rank rows).map rank).nodup_iff.mpr h
  refine (pairwise_newestFirst rank rows).imp₂ ?_ (List.pairwise_map.mp hdistinct)
  intro row row' hle hne
  exact hle.lt_of_ne' hne

/-! ## The first of them -/

theorem mem_take_of_descending {n : Nat} {rows : List α}
    (h : rows.Pairwise fun row row' ↦ rank row' < rank row) :
    row ∈ rows.take n ↔ row ∈ rows ∧ (rows.filter (rank row < rank ·)).length < n := by
  induction rows generalizing n with
  | nil => simp
  | cons first rows ih =>
      obtain ⟨hfirst, hrows⟩ := List.pairwise_cons.mp h
      cases n with
      | zero => simp
      | succ n =>
          rw [List.take_succ_cons, List.mem_cons, ih hrows, List.mem_cons]
          by_cases heq : row = first
          · subst heq
            have hnone : (row :: rows).filter (rank row < rank ·) = [] := by
              refine List.filter_eq_nil_iff.mpr fun row' hrow' ↦ ?_
              rw [decide_eq_true_iff, not_lt]
              rcases List.mem_cons.mp hrow' with rfl | hlater
              · exact le_rfl
              · exact (hfirst row' hlater).le
            rw [hnone]
            simp
          · simp only [heq, false_or]
            refine and_congr_right fun hmem ↦ ?_
            have hhigher : decide (rank row < rank first) = true := decide_eq_true (hfirst row hmem)
            rw [List.filter_cons, if_pos hhigher, List.length_cons, Nat.add_lt_add_iff_right]

/-- A row is among the first `n` if fewer than `n` rank higher. -/
theorem mem_newest (h : (rows.map rank).Nodup) {n : Nat} :
    row ∈ newest rank n rows ↔ row ∈ rows ∧ (rows.filter (rank row < rank ·)).length < n := by
  rw [newest, mem_take_of_descending (pairwise_lt_newestFirst h), mem_newestFirst,
    ((perm_newestFirst rank rows).filter _).length_eq]

/-- The first row is the one that ranks highest. -/
theorem head?_eq_some_iff_of_descending (h : rows.Pairwise fun row row' ↦ rank row' < rank row) :
    rows.head? = some row ↔ row ∈ rows ∧ ∀ row' ∈ rows, rank row' ≤ rank row := by
  have hhead : rows.head? = some row ↔ row ∈ rows.take 1 := by
    cases rows with
    | nil => simp
    | cons first rest => simp [eq_comm]
  rw [hhead, mem_take_of_descending h, Nat.lt_one_iff, List.length_eq_zero_iff,
    List.filter_eq_nil_iff]
  simp only [decide_eq_true_iff, not_lt]

/-- Of rows there is one that ranks highest. -/
theorem exists_highest (rank : α → κ) (h : row ∈ rows) :
    ∃ highest ∈ rows, ∀ row' ∈ rows, rank row' ≤ rank highest := by
  induction rows generalizing row with
  | nil => cases h
  | cons first rows ih =>
      cases rows with
      | nil => exact ⟨first, List.mem_cons_self, fun row' hrow' ↦ (List.mem_singleton.mp hrow') ▸ le_rfl⟩
      | cons second rows =>
          obtain ⟨highest, hmem, hhighest⟩ := ih List.mem_cons_self
          rcases le_total (rank first) (rank highest) with hle | hle
          · exact ⟨highest, List.mem_cons_of_mem _ hmem,
              List.forall_mem_cons.mpr ⟨hle, hhighest⟩⟩
          · exact ⟨first, List.mem_cons_self, List.forall_mem_cons.mpr
              ⟨le_rfl, fun row' hrow' ↦ (hhighest row' hrow').trans hle⟩⟩

/-! ## Merging -/

section Merge

variable [DecidableEq ι] {key : α → ι} {seen : List ι}

/-- The rows whose key was not seen before. -/
def firstSeen (key : α → ι) : List ι → List α → List α
  | _, [] => []
  | seen, row :: rows =>
      if key row ∈ seen then firstSeen key seen rows
      else row :: firstSeen key (key row :: seen) rows

theorem firstSeen_sublist (key : α → ι) (seen : List ι) (rows : List α) :
    (firstSeen key seen rows).Sublist rows := by
  induction rows generalizing seen with
  | nil => exact .slnil
  | cons row rows ih =>
      rw [firstSeen]
      split
      · exact (ih seen).cons row
      · exact (ih (key row :: seen)).cons_cons row

theorem notMem_seen (h : row ∈ firstSeen key seen rows) : key row ∉ seen := by
  induction rows generalizing seen with
  | nil => cases h
  | cons first rows ih =>
      rw [firstSeen] at h
      split at h
      · exact ih h
      · rename_i hfirst
        rcases List.mem_cons.mp h with rfl | hlater
        · exact hfirst
        · exact fun hseen ↦ ih hlater (List.mem_cons_of_mem _ hseen)

theorem nodup_firstSeen (key : α → ι) (seen : List ι) (rows : List α) :
    ((firstSeen key seen rows).map key).Nodup := by
  induction rows generalizing seen with
  | nil => exact List.nodup_nil
  | cons row rows ih =>
      rw [firstSeen]
      split
      · exact ih seen
      · rw [List.map_cons, List.nodup_cons]
        refine ⟨fun hmem ↦ ?_, ih _⟩
        obtain ⟨row', hrow', hkey⟩ := List.mem_map.mp hmem
        exact notMem_seen hrow' (hkey ▸ List.mem_cons_self)

/-- Where a key has one row, no row is lost. -/
theorem mem_firstSeen (h : ∀ row ∈ rows, ∀ row' ∈ rows, key row = key row' → row = row') :
    row ∈ firstSeen key seen rows ↔ row ∈ rows ∧ key row ∉ seen := by
  induction rows generalizing seen with
  | nil => simp [firstSeen]
  | cons first rows ih =>
      have hrest : ∀ row ∈ rows, ∀ row' ∈ rows, key row = key row' → row = row' :=
        fun row hrow row' hrow' ↦
          h row (List.mem_cons_of_mem _ hrow) row' (List.mem_cons_of_mem _ hrow')
      rw [firstSeen]
      split
      · rename_i hseen
        rw [ih hrest, List.mem_cons]
        constructor
        · rintro ⟨hmem, hnew⟩
          exact ⟨.inr hmem, hnew⟩
        · rintro ⟨rfl | hmem, hnew⟩
          · exact absurd hseen hnew
          · exact ⟨hmem, hnew⟩
      · rename_i hnew
        rw [List.mem_cons, ih hrest, List.mem_cons, List.mem_cons, not_or]
        constructor
        · rintro (rfl | ⟨hmem, -, hrow⟩)
          · exact ⟨.inl rfl, hnew⟩
          · exact ⟨.inr hmem, hrow⟩
        · rintro ⟨rfl | hmem, hrow⟩
          · exact .inl rfl
          · by_cases hkey : key row = key first
            · exact .inl (h row (List.mem_cons_of_mem _ hmem) first List.mem_cons_self hkey)
            · exact .inr ⟨hmem, hkey, hrow⟩

/-- Listed again from the highest rank, without the repetitions. -/
def merged (rank : α → κ) (key : α → ι) (rows : List α) : List α :=
  firstSeen key [] (newestFirst rank rows)

theorem mem_merged (h : ∀ row ∈ rows, ∀ row' ∈ rows, key row = key row' → row = row') :
    row ∈ merged rank key rows ↔ row ∈ rows := by
  rw [merged, mem_firstSeen]
  · simp
  · simpa only [mem_newestFirst] using h

theorem pairwise_merged (h : ∀ row row', rank row = rank row' → key row = key row') :
    (merged rank key rows).Pairwise fun row row' ↦ rank row' < rank row := by
  have hle := (pairwise_newestFirst rank rows).sublist (firstSeen_sublist key [] _)
  refine hle.imp₂ ?_ (List.pairwise_map.mp (nodup_firstSeen key [] (newestFirst rank rows)))
  intro row row' hle hne
  exact hle.lt_of_ne' fun heq ↦ hne (h row row' heq)

end Merge

end AxiomArb.Library
