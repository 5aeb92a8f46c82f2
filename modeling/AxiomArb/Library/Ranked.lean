import Mathlib.Data.List.MinMax

/-!
# The entry of the highest rank

A query that orders its rows and takes the first asks for an entry of the highest
rank.  `List.argmax` answers it.  The lemmas say what it answers where the entries
are ranked in the order of the list, and where two lists are queried together.
-/

universe u v

namespace AxiomArb.Library

open List

variable {α : Type u} {β : Type v} [LinearOrder β] {rank : α → β} {xs ys : List α} {x y : α}

/-- In a list that ascends, the last entry has the highest rank. -/
theorem argmax_of_ascending (h : xs.Pairwise fun x y ↦ rank x < rank y) :
    xs.argmax rank = xs.getLast? := by
  induction xs using List.reverseRecOn with
  | nil => rfl
  | append_singleton xs x ih =>
      obtain ⟨hxs, -, hlast⟩ := List.pairwise_append.mp h
      rw [argmax_concat, ih hxs, List.getLast?_concat]
      cases hprevious : xs.getLast? with
      | none => rfl
      | some y => exact if_pos (hlast y (List.mem_of_getLast? hprevious) x (by simp))

/-- Of two lists, the one with the higher entry answers; the first does if neither has. -/
theorem argmax_append (hx : xs.argmax rank = some x) (hy : ys.argmax rank = some y) :
    (xs ++ ys).argmax rank = if rank x < rank y then some y else some x := by
  induction ys using List.reverseRecOn generalizing y with
  | nil => cases hy
  | append_singleton ys z ih =>
      rw [argmax_concat] at hy
      rw [← List.append_assoc, argmax_concat]
      cases hys : ys.argmax rank with
      | none =>
          rw [hys] at hy
          obtain rfl : z = y := by simpa using hy
          rw [argmax_eq_none.mp hys, List.append_nil, hx]
      | some w =>
          rw [hys] at hy
          rw [ih hys]
          -- the entry so far is the higher of the two, and the last one may pass it
          by_cases hzw : rank w < rank z
          · obtain rfl : z = y := by simpa [hzw] using hy
            by_cases hxw : rank x < rank w
            · simp [hxw, hzw, hxw.trans hzw]
            · simp [hxw]
          · obtain rfl : w = y := by simpa [hzw] using hy
            by_cases hxw : rank x < rank w
            · simp [hxw, hzw]
            · have hxz : ¬ rank x < rank z := fun h ↦
                hxw (h.trans_le (not_lt.mp hzw))
              simp [hxw, hxz]

end AxiomArb.Library
