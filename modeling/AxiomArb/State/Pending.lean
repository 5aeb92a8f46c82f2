import AxiomArb.State.Machine

/-!
# Pending work binds the posture

The pending anchors and the posture are stored apart.  `PendingRestricts` ties
them: while anything is pending the store is restricted, and a reconcile has
succeeded or been asked for, so that the next change re-derives the posture from
what is pending.
-/

namespace AxiomArb.State

open Domain Library

/-- A fact that settles adds nothing to the pending work. -/
theorem FactApplyHint.pendingAfter_of_settles {hint : FactApplyHint}
    {pending : BTreeMap String PendingReconcileAnchor} (h : hint.Settles)
    (hne : hint.pendingAfter pending ≠ ∅) : pending ≠ ∅ := by
  cases hint with
  | pendingReconcile anchor => exact h.elim
  | liveReconcileObserved pendingRef terminal =>
      obtain rfl : terminal = true := h
      rintro rfl
      exact hne (by simp [pendingAfter])
  | _ => exact hne

namespace StateStore

variable {store : StateStore} {input : JournaledFact}

/-- While anything is pending, the store is restricted and will stay so. -/
def PendingRestricts (store : StateStore) : Prop :=
  store.pendingReconcileAnchors ≠ ∅ →
    store.firstReconcileSucceeded = true ∧ store.posture = reconcileAttentionPolicy

theorem PendingRestricts.of_empty (h : store.pendingReconcileAnchors = ∅) :
    store.PendingRestricts := fun hne ↦ absurd h hne

theorem PendingRestricts.of_restoring (hfirst : store.firstReconcileSucceeded = true)
    (hposture : store.posture =
      if store.pendingReconcileAnchors = ∅ then reconciledPolicy else reconcileAttentionPolicy) :
    store.PendingRestricts := fun hne ↦ ⟨hfirst, by rw [hposture, if_neg hne]⟩

/-- Whatever fact is applied, and however the call ends, pending work binds the
posture. -/
theorem PendingRestricts.applyStep (h : store.PendingRestricts) (input : JournaledFact) :
    (store.applyStep input).PendingRestricts := by
  obtain ⟨journalSeq, fact⟩ := input
  show (store.apply journalSeq fact).2.PendingRestricts
  rcases store.apply_cases journalSeq fact with ⟨-, _, heq⟩ | ⟨-, -, _, _, heq⟩ |
      ⟨-, -, hsettles, _, _, heq⟩ | ⟨-, -, -, _, _, heq⟩
  · rw [heq]
    exact h
  · rw [heq]
    simpa [PendingRestricts] using h
  · rw [heq]
    unfold PendingRestricts
    simp only [recordAppliedFact_fields, absorb_frame, pendingReconcileAnchors_absorb,
      consume_frame, restorePolicy_absorb]
    intro hne
    have hfirst := (h (FactApplyHint.pendingAfter_of_settles hsettles hne)).1
    simp [hfirst, hne]
  · rw [heq]
    exact fun _ ↦ ⟨rfl, rfl⟩

theorem PendingRestricts.reconcile (h : store.PendingRestricts) (snapshot : RemoteSnapshot) :
    (store.reconcile snapshot).2.PendingRestricts := by
  cases hsucceeded : (store.reconcile snapshot).1.succeeded with
  | false =>
      obtain ⟨hfirst, hposture⟩ := store.reconcile_failed_fields snapshot hsucceeded
      intro hne
      rw [(store.reconcile_frame snapshot).2.2.2.2.2.2.2.1] at hne
      exact ⟨hfirst.trans (h hne).1, hposture⟩
  | true =>
      obtain ⟨hfirst, hposture⟩ := store.reconcile_succeeded_fields snapshot hsucceeded
      exact .of_restoring hfirst (by simpa using hposture)

theorem PendingRestricts.restoreCommittedAnchor (version : Nat) (seq : Int) :
    (store.restoreCommittedAnchor version seq).PendingRestricts :=
  .of_restoring (by simp) (by simp)

theorem PendingRestricts.restorePendingReconcileAnchor (anchor : PendingReconcileAnchor) :
    (store.restorePendingReconcileAnchor anchor).PendingRestricts := fun _ ↦ by simp

theorem PendingRestricts.markReconciledAfterRestore (seq : Int) :
    (store.markReconciledAfterRestore seq).PendingRestricts := .of_empty (by simp)

theorem PendingRestricts.clearPendingReconcileAfterRestore :
    store.clearPendingReconcileAfterRestore.PendingRestricts := .of_empty (by simp)

/-- A scope with pending work is not trusted. -/
theorem stateConfidence_of_pending {anchor : PendingReconcileAnchor}
    (h : anchor ∈ store.pendingReconcileAnchors.vals) :
    store.stateConfidence anchor.familyId = .uncertain := by
  unfold stateConfidence
  rw [if_pos]
  rw [List.any_eq_true]
  exact ⟨anchor, h, by simp⟩

end StateStore

end AxiomArb.State
