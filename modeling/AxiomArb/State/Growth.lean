import AxiomArb.State.Machine

/-!
# A journal only grows

Applying a fact never takes back a binding of the journal, a fact that was applied,
or the first reconcile.  An admitted fact is bound to its number, and applied for
good if its branch settles it.
-/

namespace AxiomArb.State

open Library

namespace StateStore

variable {store : StateStore} {journalSeq seq : Int} {fact : StateFactInput} {key : FactKey}

/-- What every call leaves of the journal and of the first reconcile. -/
theorem applyStep_journal (h : store.Admits journalSeq fact.factKey) :
    (store.applyStep (journalSeq, fact)).consumedJournal =
        (store.consume journalSeq fact.factKey).consumedJournal ∧
      (store.applyStep (journalSeq, fact)).lastConsumedJournalSeq =
        (store.consume journalSeq fact.factKey).lastConsumedJournalSeq ∧
      (store.firstReconcileSucceeded = true →
        (store.applyStep (journalSeq, fact)).firstReconcileSucceeded = true) := by
  unfold applyStep
  rcases store.apply_cases journalSeq fact with ⟨hrefused, -⟩ | ⟨-, -, _, _, heq⟩ |
      ⟨-, -, -, _, _, heq⟩ | ⟨-, -, -, _, _, heq⟩
  · exact absurd h hrefused
  · rw [heq]
    exact ⟨rfl, rfl, by simp⟩
  · rw [heq]
    simp
  · rw [heq]
    simp

theorem applyStep_of_not_admits (h : ¬ store.Admits journalSeq fact.factKey) :
    store.applyStep (journalSeq, fact) = store := by
  obtain ⟨_, heq⟩ := apply_of_not_admits h
  rw [applyStep, heq]

theorem bound_consume : (store.consume journalSeq key).consumedJournal[journalSeq]? = some key := by
  unfold consume
  split
  · assumption
  · simp

/-- A binding is never taken back. -/
theorem bound_applyStep (h : store.consumedJournal[seq]? = some key) :
    (store.applyStep (journalSeq, fact)).consumedJournal[seq]? = some key := by
  by_cases hadmits : store.Admits journalSeq fact.factKey
  · rw [(applyStep_journal hadmits).1]
    unfold consume
    split
    · exact h
    · rename_i hfree
      -- the number just bound was free, so it is not the one in question
      have hne : journalSeq ≠ seq := by
        rintro rfl
        rcases hadmits with hbound | ⟨hnone, -⟩
        · exact hfree hbound
        · rw [h] at hnone
          cases hnone
      rwa [BTreeMap.lookup_insert_of_ne hne]
  · rwa [applyStep_of_not_admits hadmits]

theorem ready_applyStep (h : store.firstReconcileSucceeded = true) :
    (store.applyStep (journalSeq, fact)).firstReconcileSucceeded = true := by
  by_cases hadmits : store.Admits journalSeq fact.factKey
  · exact (applyStep_journal hadmits).2.2 h
  · rwa [applyStep_of_not_admits hadmits]

/-- A fact whose branch settles it is applied for good. -/
theorem hasApplied_applyStep (h : store.Admits journalSeq fact.factKey)
    (hsettles : fact.applyHint.Settles) :
    (store.applyStep (journalSeq, fact)).HasApplied fact.factKey := by
  unfold applyStep HasApplied
  rcases store.apply_cases journalSeq fact with ⟨hrefused, -⟩ | ⟨-, happlied, _, _, heq⟩ |
      ⟨-, -, -, _, _, heq⟩ | ⟨-, -, hopen, -⟩
  · exact absurd h hrefused
  · rw [heq, consume_appliedFactJournal]
    exact happlied
  · rw [heq]
    simp
  · exact absurd hsettles hopen

/-- A call is accepted exactly when its number is admitted. -/
theorem apply_eq_ok_iff : (∃ result, (store.apply journalSeq fact).1 = .ok result) ↔
    store.Admits journalSeq fact.factKey := by
  rcases store.apply_cases journalSeq fact with ⟨hrefused, _, heq⟩ | ⟨hadmits, -, _, _, heq⟩ |
      ⟨hadmits, -, -, _, _, heq⟩ | ⟨hadmits, -, -, _, _, heq⟩
  · simp [heq, hrefused]
  all_goals simp [heq, hadmits]

end StateStore

end AxiomArb.State
