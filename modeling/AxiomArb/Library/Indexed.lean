import AxiomArb.Library.OrderedMap

/-!
# A second index of a map

Some of the entries of a map carry a name, and `index` says at which key the entry with
a given name is.  `Indexes` is the invariant of such an index: it has the names of the
entries, each at the key of its entry, and nothing else.  An entry may be written if its
name is free or already its own, and if it does not give up a name it had.
-/

universe u v w

namespace AxiomArb.Library

open Std

variable {ι : Type u} {κ : Type v} {ν : Type w} [Ord ι] [TransOrd ι] [Ord κ] [TransOrd κ]

/-- The index has exactly the names of the entries, each at the key of its entry. -/
def Indexes (index : BTreeMap ι κ) (entries : BTreeMap κ ν) (name : ν → Option ι) : Prop :=
  ∀ (i : ι) (k : κ), index[i]? = some k ↔ ∃ v, entries[k]? = some v ∧ name v = some i

/-- Enter a name, if there is one. -/
def enter (index : BTreeMap ι κ) (name : Option ι) (k : κ) : BTreeMap ι κ :=
  match name with
  | some i => index.insert i k
  | none => index

omit [Ord κ] [TransOrd κ] in
theorem lookup_enter [LawfulEqOrd ι] [DecidableEq ι] {index : BTreeMap ι κ} {name : Option ι}
    {k : κ} {i : ι} : (enter index name k)[i]? = if name = some i then some k else index[i]? := by
  cases name with
  | none => rfl
  | some i' => simp only [enter, BTreeMap.lookup_insert, Option.some.injEq]

namespace Indexes

variable {index : BTreeMap ι κ} {entries : BTreeMap κ ν} {name : ν → Option ι} {i i' : ι}
  {k k' : κ} {v v' : ν}

theorem empty : Indexes (∅ : BTreeMap ι κ) (∅ : BTreeMap κ ν) name := by
  intro i k
  simp

/-- No key has two names. -/
theorem injective (h : Indexes index entries name) (hi : index[i]? = some k)
    (hi' : index[i']? = some k) : i = i' := by
  obtain ⟨v, hv, hname⟩ := (h i k).mp hi
  obtain ⟨v', hv', hname'⟩ := (h i' k).mp hi'
  obtain rfl : v = v' := Option.some.inj (hv.symm.trans hv')
  exact Option.some.inj (hname.symm.trans hname')

/-- What is found by name is the entry that has the name. -/
theorem lookup_iff (h : Indexes index entries name) :
    (index[i]?.bind fun k ↦ entries[k]?) = some v ↔ ∃ k : κ, entries[k]? = some v ∧ name v = some i := by
  rw [Option.bind_eq_some_iff]
  refine exists_congr fun k ↦ ?_
  rw [h i k]
  constructor
  · rintro ⟨⟨v', hv', hname⟩, hv⟩
    obtain rfl : v' = v := Option.some.inj (hv'.symm.trans hv)
    exact ⟨hv, hname⟩
  · rintro ⟨hv, hname⟩
    exact ⟨⟨v, hv, hname⟩, hv⟩

variable [LawfulEqOrd ι]

/-- A name that is entered already stays where it is. -/
theorem enter_eq (h : Indexes index entries name) (hv : entries[k]? = some v) :
    enter index (name v) k = index := by
  cases hname : name v with
  | none => rfl
  | some i => exact BTreeMap.insert_eq_self_iff.mpr ((h i k).mpr ⟨v, hv, hname⟩)

variable [DecidableEq ι] [DecidableEq κ] [LawfulEqOrd κ]

/-- An entry is written under a name that is free or its own. -/
theorem insert (h : Indexes index entries name)
    (hfree : ∀ i, name v = some i → index[i]? = none ∨ index[i]? = some k)
    (hkept : ∀ v', entries[k]? = some v' → name v' = none ∨ name v' = name v) :
    Indexes (enter index (name v) k) (entries.insert k v) name := by
  intro i k'
  rw [lookup_enter, BTreeMap.lookup_insert]
  by_cases hname : name v = some i
  · rw [if_pos hname, Option.some.injEq]
    by_cases hk : k = k'
    · exact iff_of_true hk ⟨v, if_pos hk, hname⟩
    · refine iff_of_false hk ?_
      rw [if_neg hk, ← h i k']
      intro hother
      rcases hfree i hname with hi | hi
      · cases hi.symm.trans hother
      · exact hk (Option.some.inj (hi.symm.trans hother))
  · rw [if_neg hname, h i k']
    by_cases hk : k = k'
    · subst hk
      rw [if_pos rfl]
      refine iff_of_false ?_ ?_
      · rintro ⟨v', hv', hname'⟩
        rcases hkept v' hv' with hnone | hsame
        · cases hnone.symm.trans hname'
        · exact hname (hsame.symm.trans hname')
      · rintro ⟨v', hv', hname'⟩
        obtain rfl : v = v' := Option.some.inj hv'
        exact hname hname'
    · rw [if_neg hk]

end Indexes

end AxiomArb.Library
