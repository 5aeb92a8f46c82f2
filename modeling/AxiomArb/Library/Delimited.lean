import Mathlib.Data.List.Basic

/-!
# Lists joined by a separator

Joining lists with a separator between them forgets where the lists end when the
separator may also occur inside them.  What survives is the list of pieces between
separators: `intercalate_eq_iff` says that two joins agree exactly when the pieces
do, and `eq_of_pieces_eq` that lists free of the separator are found again.
-/

universe u

namespace AxiomArb.Library

variable {α : Type u} [BEq α] [LawfulBEq α] {sep : α} {xs ys : List (List α)}

/-- The pieces between separators, of all the lists in turn. -/
def pieces (sep : α) (xs : List (List α)) : List (List α) := xs.flatMap (List.splitOn sep)

/-- Splitting a join gives the pieces of what was joined. -/
theorem splitOn_intercalate_pieces (h : xs ≠ []) :
    ([sep].intercalate xs).splitOn sep = pieces sep xs := by
  induction xs with
  | nil => exact absurd rfl h
  | cons x xs ih =>
      cases xs with
      | nil => simp [pieces, List.intercalate]
      | cons y ys =>
          have htail := ih (List.cons_ne_nil y ys)
          have hjoin : [sep].intercalate (x :: y :: ys) =
              x ++ sep :: [sep].intercalate (y :: ys) := by
            simp [List.intercalate]
          rw [hjoin, List.splitOn_append_cons_self, htail]
          rfl

/-- Two joins agree exactly when their pieces do. -/
theorem intercalate_eq_iff (hxs : xs ≠ []) (hys : ys ≠ []) :
    [sep].intercalate xs = [sep].intercalate ys ↔ pieces sep xs = pieces sep ys := by
  rw [← splitOn_intercalate_pieces hxs, ← splitOn_intercalate_pieces hys]
  constructor
  · intro h
    rw [h]
  · intro h
    have hjoin := congrArg [sep].intercalate h
    rwa [List.intercalate_splitOn, List.intercalate_splitOn] at hjoin

theorem pieces_of_separatorFree (h : ∀ x ∈ xs, sep ∉ x) : pieces sep xs = xs := by
  induction xs with
  | nil => rfl
  | cons x xs ih =>
      have htail := ih fun y hy ↦ h y (List.mem_cons_of_mem x hy)
      rw [pieces, List.flatMap_cons, List.splitOn_eq_singleton (h x List.mem_cons_self)]
      rw [pieces] at htail
      rw [htail]
      rfl

/-- Lists that do not hold the separator are told apart by their pieces. -/
theorem eq_of_pieces_eq (hxs : ∀ x ∈ xs, sep ∉ x) (hys : ∀ y ∈ ys, sep ∉ y)
    (h : pieces sep xs = pieces sep ys) : xs = ys := by
  rwa [pieces_of_separatorFree hxs, pieces_of_separatorFree hys] at h

/-- What stands before the first separator is known from the whole. -/
theorem append_separator_inj {x y rest rest' : List α} (hx : sep ∉ x) (hy : sep ∉ y)
    (h : x ++ sep :: rest = y ++ sep :: rest') : x = y ∧ rest = rest' := by
  have hfirst : ∀ {x rest : List α}, sep ∉ x → (x ++ sep :: rest).takeWhile (· != sep) = x := by
    intro x rest hx
    have hall : ∀ item ∈ x, (item != sep) = true := fun item hitem ↦
      bne_iff_ne.mpr fun heq ↦ hx (heq ▸ hitem)
    rw [List.takeWhile_append_of_pos hall, List.takeWhile_cons_of_neg (by simp), List.append_nil]
  obtain rfl : x = y := by
    rw [← hfirst hx, h, hfirst hy]
  exact ⟨rfl, (List.cons.inj (List.append_cancel_left h)).2⟩

/-- What stands before the last separator is known from the whole. -/
theorem append_last_separator_inj {x y rest rest' : List α} (hrest : sep ∉ rest)
    (hrest' : sep ∉ rest') (h : x ++ sep :: rest = y ++ sep :: rest') : x = y ∧ rest = rest' := by
  have hreverse : rest.reverse ++ sep :: x.reverse = rest'.reverse ++ sep :: y.reverse := by
    simpa using congrArg List.reverse h
  obtain ⟨hlast, hfirst⟩ := append_separator_inj (by rwa [List.mem_reverse])
    (by rwa [List.mem_reverse]) hreverse
  exact ⟨List.reverse_injective hfirst, List.reverse_injective hlast⟩

omit [BEq α] [LawfulBEq α] in
theorem intercalate_append (hxs : xs ≠ []) (hys : ys ≠ []) :
    [sep].intercalate (xs ++ ys) = [sep].intercalate xs ++ sep :: [sep].intercalate ys := by
  induction xs with
  | nil => exact absurd rfl hxs
  | cons x xs ih =>
      rw [List.cons_append]
      cases xs with
      | nil =>
          rw [List.nil_append, List.intercalate_cons_of_ne_nil hys, List.intercalate_singleton,
            List.append_assoc, List.singleton_append]
      | cons x' xs =>
          rw [List.intercalate_cons_of_ne_nil (by simp), ih (List.cons_ne_nil x' xs),
            List.intercalate_cons_of_ne_nil (List.cons_ne_nil x' xs), List.append_assoc _ _ (sep :: _)]

omit [BEq α] [LawfulBEq α] in
/-- A join of many lists is each of the first with a separator behind it, then the join of
the rest. -/
theorem intercalate_append_flatMap (hys : ys ≠ []) :
    [sep].intercalate (xs ++ ys) = xs.flatMap (· ++ [sep]) ++ [sep].intercalate ys := by
  induction xs with
  | nil => rfl
  | cons x xs ih =>
      rw [List.cons_append, List.intercalate_cons_of_ne_nil (by simp [hys]), ih, List.flatMap_cons,
        List.append_assoc, List.append_assoc, List.singleton_append, List.append_assoc]
      rfl

/-- The pieces of a list begin those of another one if the other is the same or goes on
behind a separator. -/
theorem splitOn_isPrefix_iff {x y : List α} :
    x.splitOn sep <+: y.splitOn sep ↔ y = x ∨ ∃ rest, y = x ++ sep :: rest := by
  constructor
  · rintro ⟨more, hmore⟩
    have hy := congrArg [sep].intercalate hmore
    rw [List.intercalate_splitOn] at hy
    cases more with
    | nil =>
        rw [List.append_nil, List.intercalate_splitOn] at hy
        exact .inl hy.symm
    | cons piece more =>
        rw [intercalate_append (by simp) (List.cons_ne_nil piece more),
          List.intercalate_splitOn] at hy
        exact .inr ⟨_, hy.symm⟩
  · rintro (rfl | ⟨rest, rfl⟩)
    · exact List.prefix_rfl
    · rw [List.splitOn_append_cons_self]
      exact List.prefix_append _ _

end AxiomArb.Library
