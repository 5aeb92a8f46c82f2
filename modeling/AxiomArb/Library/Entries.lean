import Mathlib.Data.List.Basic

/-!
# Entries

The entries of a table in the order in which they were written.  An entry is replaced in its
place, and a new one comes last.
-/

universe u v

namespace AxiomArb.Library

variable {κ : Type u} {ν : Type v} [DecidableEq κ] {k a : κ} {v : ν} {entries : List (κ × ν)}

/-- Put a value under a key, in the place of an earlier one. -/
def insertEntry (k : κ) (v : ν) : List (κ × ν) → List (κ × ν)
  | [] => [(k, v)]
  | (a, w) :: entries => if k = a then (k, v) :: entries else (a, w) :: insertEntry k v entries

/-- Put a value under a key that has none. -/
def insertNewEntry (k : κ) (v : ν) (entries : List (κ × ν)) : List (κ × ν) :=
  if (entries.lookup k).isSome then entries else entries ++ [(k, v)]

def eraseEntry (k : κ) (entries : List (κ × ν)) : List (κ × ν) := entries.filter (·.1 ≠ k)

theorem lookup_cons_eq (k : κ) (entry : κ × ν) (entries : List (κ × ν)) :
    (entry :: entries).lookup k = if k = entry.1 then some entry.2 else entries.lookup k := by
  rw [List.lookup_cons]
  split_ifs with h
  · rw [beq_iff_eq.mpr h]
  · rw [beq_eq_false_iff_ne.mpr h]

@[simp] theorem lookup_insertEntry_self : (insertEntry k v entries).lookup k = some v := by
  induction entries with
  | nil => exact List.lookup_cons_self
  | cons entry entries ih =>
      rw [insertEntry]
      split_ifs with h
      · exact List.lookup_cons_self
      · rw [lookup_cons_eq, if_neg h, ih]

theorem lookup_insertEntry_of_ne (h : a ≠ k) :
    (insertEntry k v entries).lookup a = entries.lookup a := by
  induction entries with
  | nil => rw [insertEntry, lookup_cons_eq, if_neg h]
  | cons entry entries ih =>
      rw [insertEntry]
      split_ifs with hk
      · rw [lookup_cons_eq, lookup_cons_eq, if_neg h, if_neg (hk ▸ h)]
      · rw [lookup_cons_eq, lookup_cons_eq, ih]

theorem lookup_insertNewEntry :
    (insertNewEntry k v entries).lookup a =
      (entries.lookup a).or (if a = k then some v else none) := by
  rw [insertNewEntry]
  split_ifs with hsome ha ha
  · subst ha
    rw [Option.or_of_isSome hsome]
  · rw [Option.or_none]
  · subst ha
    rw [List.lookup_append, lookup_cons_eq, if_pos rfl]
  · rw [List.lookup_append, lookup_cons_eq, if_neg ha, List.lookup_nil]

@[simp] theorem lookup_eraseEntry_self : (eraseEntry k entries).lookup k = none := by
  rw [eraseEntry, List.lookup_eq_none_iff]
  intro entry hentry
  have hne : entry.1 ≠ k := by simpa using (List.mem_filter.mp hentry).2
  exact bne_iff_ne.mpr hne.symm

theorem lookup_eraseEntry_of_ne (h : a ≠ k) :
    (eraseEntry k entries).lookup a = entries.lookup a := by
  induction entries with
  | nil => rfl
  | cons entry entries ih =>
      rw [eraseEntry, List.filter_cons, lookup_cons_eq]
      split_ifs with hk ha ha
      · rw [lookup_cons_eq, if_pos ha]
      · rw [lookup_cons_eq, if_neg ha]
        exact ih
      · simp [ha.symm, h] at hk
      · exact ih

/-- Nothing changes if the value is there already. -/
theorem insertEntry_eq_self (h : entries.lookup k = some v) : insertEntry k v entries = entries := by
  induction entries with
  | nil => cases h
  | cons entry entries ih =>
      rw [lookup_cons_eq] at h
      rw [insertEntry]
      split_ifs at h ⊢ with hk
      · rw [hk, ← Option.some.inj h]
      · rw [ih h]

/-- Nothing changes if there is no entry. -/
theorem eraseEntry_eq_self (h : entries.lookup k = none) : eraseEntry k entries = entries := by
  rw [eraseEntry, List.filter_eq_self]
  intro entry hentry
  have hne := bne_iff_ne.mp (List.lookup_eq_none_iff.mp h entry hentry)
  simpa using hne.symm

end AxiomArb.Library
