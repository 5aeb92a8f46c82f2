import Mathlib.Data.List.MinMax
import Mathlib.Order.Bounds.Basic

/-!
# How far a set reaches

Two sets of an order reach equally far if each is cofinal for the other.  Such sets
have the same greatest element, and they stay alike when elements are added to both,
and when both lose what does not pass a bound.  A set may hence be replaced by its
greatest element wherever only greatest elements are asked for.

The latest of a list by a key is the last of its elements with the greatest key
(`latestBy`).
-/

universe u v

namespace AxiomArb.Library

/-- Neither set has an element past all of the other's. -/
structure SameReach {α : Type u} [LE α] (s t : Set α) : Prop where
  left : IsCofinalFor s t
  right : IsCofinalFor t s

namespace SameReach

section Preorder

variable {α : Type u} [Preorder α] {s t r : Set α} {a : α}

theorem refl (s : Set α) : SameReach s s := ⟨.rfl, .rfl⟩

theorem of_eq (h : s = t) : SameReach s t := h ▸ refl s

theorem symm (h : SameReach s t) : SameReach t s := ⟨h.right, h.left⟩

theorem trans (h : SameReach s t) (h' : SameReach t r) : SameReach s r :=
  ⟨h.left.trans h'.left, h'.right.trans h.right⟩

/-- The greatest element alone reaches as far as its set. -/
theorem singleton (h : IsGreatest s a) : SameReach {a} s where
  left _ hb := ⟨a, h.1, hb.le⟩
  right _ hb := ⟨a, rfl, h.2 hb⟩

theorem union (h : SameReach s t) (r : Set α) : SameReach (s ∪ r) (t ∪ r) := by
  have hside : ∀ {s t : Set α}, IsCofinalFor s t → IsCofinalFor (s ∪ r) (t ∪ r) := by
    rintro s t hst a (ha | ha)
    · obtain ⟨b, hb, hle⟩ := hst ha
      exact ⟨b, .inl hb, hle⟩
    · exact ⟨a, .inr ha, le_rfl⟩
  exact ⟨hside h.left, hside h.right⟩

/-- What is kept must be an upper set: whatever passes a bound is. -/
theorem sep (h : SameReach s t) {p : α → Prop} (hp : Monotone p) :
    SameReach {a ∈ s | p a} {a ∈ t | p a} := by
  have hside : ∀ {s t : Set α}, IsCofinalFor s t →
      IsCofinalFor {a ∈ s | p a} {a ∈ t | p a} := by
    rintro s t hst a ⟨ha, hpass⟩
    obtain ⟨b, hb, hle⟩ := hst ha
    exact ⟨b, ⟨hb, hp hle hpass⟩, hle⟩
  exact ⟨hside h.left, hside h.right⟩

end Preorder

variable {α : Type u} [PartialOrder α] {s t : Set α} {a : α}

theorem isGreatest (h : SameReach s t) (ha : IsGreatest s a) : IsGreatest t a := by
  obtain ⟨b, hb, hab⟩ := h.left ha.1
  obtain ⟨c, hc, hbc⟩ := h.right hb
  obtain rfl : a = b := le_antisymm hab (hbc.trans (ha.2 hc))
  exact ⟨hb, upperBounds_mono_of_isCofinalFor h.right ha.2⟩

theorem isGreatest_iff (h : SameReach s t) : IsGreatest s a ↔ IsGreatest t a :=
  ⟨h.isGreatest, h.symm.isGreatest⟩

end SameReach

section Maximum

variable {α : Type u} [LinearOrder α] {xs ys : List α} {a : α}

theorem max?_eq_some_iff_isGreatest : xs.max? = some a ↔ IsGreatest {b | b ∈ xs} a := by
  rw [List.max?_eq_some_iff]
  rfl

/-- Lists that reach equally far have the same maximum. -/
theorem max?_congr (h : SameReach {b | b ∈ xs} {b | b ∈ ys}) : xs.max? = ys.max? := by
  ext a
  rw [max?_eq_some_iff_isGreatest, max?_eq_some_iff_isGreatest, h.isGreatest_iff]

/-- The maximum alone reaches as far as its list. -/
theorem sameReach_max? (xs : List α) : SameReach {a | xs.max? = some a} {a | a ∈ xs} := by
  rcases hmax : xs.max? with _ | a
  · rw [List.max?_eq_none_iff.mp hmax]
    refine .of_eq (Set.ext fun a ↦ ?_)
    simp
  · have hgreatest := max?_eq_some_iff_isGreatest.mp hmax
    refine (SameReach.of_eq (Set.ext fun b ↦ ?_)).trans (.singleton hgreatest)
    simp [eq_comm]

end Maximum

section Latest

variable {α : Type u} {β : Type v} [LinearOrder β] {key : α → β} {xs : List α} {a : α}

/-- The last of the elements with the greatest key. -/
def latestBy (key : α → β) (xs : List α) : Option α := xs.reverse.argmax key

theorem mem_of_latestBy (h : latestBy key xs = some a) : a ∈ xs :=
  List.mem_reverse.mp (List.argmax_mem h)

theorem le_of_latestBy (h : latestBy key xs = some a) {b : α} (hb : b ∈ xs) : key b ≤ key a :=
  List.le_of_mem_argmax (List.mem_reverse.mpr hb) h

theorem exists_latestBy (h : a ∈ xs) : ∃ b, latestBy key xs = some b := by
  rcases hlatest : latestBy key xs with _ | b
  · rw [latestBy, List.argmax_eq_none, List.reverse_eq_nil_iff] at hlatest
    rw [hlatest] at h
    cases h
  · exact ⟨b, rfl⟩

theorem latestBy_cons (x : α) (xs : List α) :
    latestBy key (x :: xs) =
      (latestBy key xs).elim (some x) fun b ↦ if key b < key x then some x else some b := by
  rw [latestBy, latestBy, List.reverse_cons, List.argmax_concat]
  cases xs.reverse.argmax key <;> rfl

/-- No element before the latest passes it, and every element after it stays below. -/
theorem latestBy_eq_some_iff :
    latestBy key xs = some a ↔ ∃ before after, xs = before ++ a :: after ∧
      (∀ b ∈ before, key b ≤ key a) ∧ ∀ b ∈ after, key b < key a := by
  constructor
  · intro h
    induction xs with
    | nil => cases h
    | cons x xs ih =>
        rw [latestBy_cons] at h
        rcases hrest : latestBy key xs with _ | b
        · rw [hrest] at h
          obtain rfl := Option.some.inj h
          refine ⟨[], xs, rfl, by simp, fun c hc ↦ ?_⟩
          obtain ⟨b, hb⟩ := @exists_latestBy _ _ _ key _ _ hc
          rw [hrest] at hb
          cases hb
        · rw [hrest, Option.elim_some] at h
          split at h
          · rename_i hlt
            obtain rfl := Option.some.inj h
            exact ⟨[], xs, rfl, by simp, fun c hc ↦ (le_of_latestBy hrest hc).trans_lt hlt⟩
          · rename_i hnot
            obtain rfl := Option.some.inj h
            obtain ⟨before, after, rfl, hbefore, hafter⟩ := ih hrest
            exact ⟨x :: before, after, rfl, List.forall_mem_cons.mpr ⟨not_lt.mp hnot, hbefore⟩, hafter⟩
  · rintro ⟨before, after, rfl, hbefore, hafter⟩
    induction before with
    | nil =>
        rw [List.nil_append, latestBy_cons]
        rcases hrest : latestBy key after with _ | b
        · rfl
        · exact if_pos (hafter b (mem_of_latestBy hrest))
    | cons x before ih =>
        obtain ⟨hx, hbefore⟩ := List.forall_mem_cons.mp hbefore
        rw [List.cons_append, latestBy_cons, ih hbefore, Option.elim_some, if_neg (not_lt.mpr hx)]

end Latest

end AxiomArb.Library
