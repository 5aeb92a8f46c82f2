import AxiomArb.Library.OrderedMap
import Mathlib.Algebra.BigOperators.Group.List.Basic
import Mathlib.Data.List.Perm.Basic

/-!
# Totals by key

Amounts that are entered under keys are summed up key by key.  The totals do not depend on
the order of the entries, and totals that are entered again count like the entries they were
made of (`foldl_tally_toList`).
-/

universe u v

namespace AxiomArb.Library

open Std

variable {α : Type u} {κ : Type u} {A : Type v} [DecidableEq κ]

/-! ## Items of each key -/

/-- Items that are taken out key by key are all of them. -/
theorem perm_flatMap_filter {key : α → κ} {keys : List κ} (hkeys : keys.Nodup) {items : List α}
    (hcover : ∀ item ∈ items, key item ∈ keys) :
    (keys.flatMap fun k ↦ items.filter (key · = k)).Perm items := by
  induction keys generalizing items with
  | nil =>
      have hnil : items = [] := List.eq_nil_iff_forall_not_mem.mpr fun item hitem ↦
        nomatch hcover item hitem
      rw [hnil]
      exact .nil
  | cons k keys ih =>
      obtain ⟨hk, hkeys⟩ := List.nodup_cons.mp hkeys
      have hothers : (keys.flatMap fun k' ↦ items.filter (key · = k')) =
          keys.flatMap fun k' ↦ (items.filter fun item ↦ !(decide (key item = k))).filter (key · = k') := by
        refine List.flatMap_congr fun k' hk' ↦ ?_
        rw [List.filter_filter]
        refine List.filter_congr fun item _ ↦ ?_
        by_cases hitem : key item = k'
        · have hne : key item ≠ k := fun heq ↦ hk (heq ▸ hitem ▸ hk')
          simp [hitem, hitem ▸ hne]
        · simp [hitem]
      have hrest : ∀ item ∈ items.filter fun item ↦ !(decide (key item = k)), key item ∈ keys := by
        intro item hitem
        obtain ⟨hitem, hne⟩ := List.mem_filter.mp hitem
        exact (List.mem_cons.mp (hcover item hitem)).resolve_left (by simpa using hne)
      rw [List.flatMap_cons, hothers]
      exact ((ih hkeys hrest).append_left _).trans (List.filter_append_perm _ items)

/-! ## Totals -/

variable [Ord κ] [TransOrd κ] [LawfulEqOrd κ] [AddCommMonoid A] {totals : BTreeMap κ A}
  {entry : κ × A} {entries : List (κ × A)}

/-- Add an amount to the total of its key, which starts from zero. -/
def tally (totals : BTreeMap κ A) (entry : κ × A) : BTreeMap κ A :=
  totals.insert entry.1 (totals[entry.1]?.getD 0 + entry.2)

/-- What the entries of a key amount to, if there are any. -/
def amount (entries : List (κ × A)) (k : κ) : Option A :=
  let amounts := (entries.filter (·.1 = k)).map Prod.snd
  if amounts.isEmpty then none else some amounts.sum

theorem lookup_tally (k : κ) : (tally totals entry)[k]? =
    if entry.1 = k then some (totals[k]?.getD 0 + entry.2) else totals[k]? := by
  rw [tally, BTreeMap.lookup_insert]
  split_ifs with hk
  · rw [hk]
  · exact rfl

theorem tally_right_comm (totals : BTreeMap κ A) (entry entry' : κ × A) :
    tally (tally totals entry) entry' = tally (tally totals entry') entry := by
  refine ExtTreeMap.ext_getElem? fun k ↦ ?_
  simp only [lookup_tally]
  split_ifs
  · rw [Option.getD_some, Option.getD_some, add_right_comm]
  · rfl
  · rfl
  · rfl

/-- Amounts may be entered in any order. -/
instance : RightCommutative (tally : BTreeMap κ A → κ × A → BTreeMap κ A) where
  right_comm := tally_right_comm

/-- A total goes up by what is entered under its key. -/
theorem lookup_foldl_tally (totals : BTreeMap κ A) (entries : List (κ × A)) (k : κ) :
    (entries.foldl tally totals)[k]? =
      match amount entries k with
      | none => totals[k]?
      | some total => some (totals[k]?.getD 0 + total) := by
  induction entries generalizing totals with
  | nil => exact rfl
  | cons entry entries ih =>
      rw [List.foldl_cons, ih, lookup_tally]
      by_cases hk : entry.1 = k
      · have hcons : amount (entry :: entries) k =
            some (entry.2 + ((entries.filter (·.1 = k)).map Prod.snd).sum) := by
          simp [amount, hk]
        rw [hcons, if_pos hk, amount]
        cases (entries.filter (·.1 = k)).map Prod.snd with
        | nil => simp
        | cons first amounts => simp [add_assoc]
      · have hcons : amount (entry :: entries) k = amount entries k := by
          rw [amount, List.filter_cons_of_neg (by simpa using hk), amount]
        rw [hcons, if_neg hk]

theorem lookup_foldl_tally_empty (entries : List (κ × A)) (k : κ) :
    (entries.foldl tally ∅)[k]? = amount entries k := by
  rw [lookup_foldl_tally]
  cases amount entries k with
  | none => exact ExtTreeMap.getElem?_empty
  | some total => simp

/-- The entries of a map amount to its values. -/
theorem amount_toList (totals : BTreeMap κ A) (k : κ) : amount totals.toList k = totals[k]? := by
  rw [amount, BTreeMap.filter_toList]
  cases totals[k]? with
  | none => exact rfl
  | some total => simp

/-- Totals are entered like the entries they are made of. -/
theorem foldl_tally_toList (totals : BTreeMap κ A) (entries : List (κ × A)) :
    (entries.foldl tally ∅).toList.foldl tally totals = entries.foldl tally totals := by
  refine ExtTreeMap.ext_getElem? fun k ↦ ?_
  rw [lookup_foldl_tally, lookup_foldl_tally, amount_toList, lookup_foldl_tally_empty]

end AxiomArb.Library
