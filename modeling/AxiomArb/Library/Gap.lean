import Mathlib.Data.List.Basic

/-!
# Counting what has a property

A count of the elements with a property is the length of an initial part only if those
elements come first (`take_length_filter_iff`).
-/

universe u

namespace AxiomArb.Library

variable {α : Type u} {p : α → Bool} {xs ys : List α}

/-- Whether `ys` has an element without the property before one that has it. -/
def Gap (p : α → Bool) (ys : List α) : Prop :=
  ∃ before gap middle last after, ys = before ++ gap :: (middle ++ last :: after) ∧
    p gap = false ∧ p last = true

theorem gap_cons {y : α} : Gap p (y :: ys) ↔ Gap p ys ∨ p y = false ∧ ∃ last ∈ ys, p last = true := by
  constructor
  · rintro ⟨_ | ⟨_, before⟩, gap, middle, last, after, heq, hgap, hlast⟩
    · obtain ⟨rfl, rfl⟩ := List.cons.inj heq
      exact .inr ⟨hgap, last, by simp, hlast⟩
    · obtain ⟨rfl, rfl⟩ := List.cons.inj heq
      exact .inl ⟨before, gap, middle, last, after, rfl, hgap, hlast⟩
  · rintro (⟨before, gap, middle, last, after, rfl, hgap, hlast⟩ | ⟨hgap, last, hmem, hlast⟩)
    · exact ⟨y :: before, gap, middle, last, after, rfl, hgap, hlast⟩
    · obtain ⟨middle, after, rfl⟩ := List.append_of_mem hmem
      exact ⟨[], y, middle, last, after, rfl, hgap, hlast⟩

/-- As many elements as have the property are those that have it, unless one without it
comes before. -/
theorem take_length_filter_iff (h : ys <+: xs) :
    xs.take (ys.filter p).length = ys.filter p ↔ ¬ Gap p ys := by
  induction ys generalizing xs with
  | nil => simp [Gap]
  | cons y ys ih =>
      obtain ⟨rest, rfl⟩ := h
      rw [gap_cons, List.cons_append]
      cases hy : p y with
      | true =>
          rw [List.filter_cons_of_pos hy, List.length_cons, List.take_succ_cons, List.cons.injEq,
            and_iff_right rfl, ih (List.prefix_append ys rest)]
          simp
      | false =>
          rw [List.filter_cons_of_neg (by simp [hy])]
          rcases hfilter : ys.filter p with _ | ⟨first, others⟩
          · have hnone : ∀ last ∈ ys, p last = false := by simpa using hfilter
            refine iff_of_true rfl ?_
            rintro (⟨before, gap, middle, last, after, rfl, -, hlast⟩ | ⟨-, last, hmem, hlast⟩)
            · rw [hnone last (by simp)] at hlast
              cases hlast
            · rw [hnone last hmem] at hlast
              cases hlast
          · have hfirst : first ∈ ys.filter p := by simp [hfilter]
            obtain ⟨hmem, hp⟩ := List.mem_filter.mp hfirst
            refine iff_of_false (fun heq ↦ ?_) fun hgap ↦ hgap (.inr ⟨rfl, first, hmem, hp⟩)
            rw [List.length_cons, List.take_succ_cons, List.cons.injEq] at heq
            rw [heq.1, hp] at hy
            cases hy

end AxiomArb.Library
