import AxiomArb.State.Apply

/-!
# The fields an application changes

One lemma for each stage of an application (consume the number, absorb the fact,
record it or ask for a reconcile) says what becomes of every field of the store.
Together with `apply_cases` they reduce a question about the applier to the
fields the question is about.
-/

namespace AxiomArb.State

open Domain Library

/-- The pending work left by a fact that is absorbed. -/
def FactApplyHint.pendingAfter (pending : BTreeMap String PendingReconcileAnchor) :
    FactApplyHint → BTreeMap String PendingReconcileAnchor
  | .pendingReconcile anchor => pending.insert anchor.pendingRef anchor
  | .liveReconcileObserved pendingRef true => pending.erase pendingRef
  | _ => pending

namespace StateStore

variable (store : StateStore) (journalSeq : Int) (factKey : FactKey) (fact : StateFactInput)
  (hint : FactApplyHint)

/-! ## Consuming a number -/

@[simp] theorem consume_frame :
    (store.consume journalSeq factKey).stateVersion = store.stateVersion ∧
    (store.consume journalSeq factKey).lastAppliedJournalSeq = store.lastAppliedJournalSeq ∧
    (store.consume journalSeq factKey).firstReconcileSucceeded =
      store.firstReconcileSucceeded ∧
    (store.consume journalSeq factKey).familyDiscoveryRecords = store.familyDiscoveryRecords ∧
    (store.consume journalSeq factKey).pendingFamilyBackfills = store.pendingFamilyBackfills ∧
    (store.consume journalSeq factKey).pendingReconcileAnchors =
      store.pendingReconcileAnchors ∧
    (store.consume journalSeq factKey).runtimeAttentionAnchors =
      store.runtimeAttentionAnchors ∧
    (store.consume journalSeq factKey).posture = store.posture := by
  unfold consume
  split <;> exact ⟨rfl, rfl, rfl, rfl, rfl, rfl, rfl, rfl⟩

/-! ## Absorbing a fact -/

@[simp] theorem recordFamilyDiscovery_frame (record : FamilyDiscoveryRecord) :
    (store.recordFamilyDiscovery record).stateVersion = store.stateVersion ∧
    (store.recordFamilyDiscovery record).lastConsumedJournalSeq = store.lastConsumedJournalSeq ∧
    (store.recordFamilyDiscovery record).lastAppliedJournalSeq = store.lastAppliedJournalSeq ∧
    (store.recordFamilyDiscovery record).firstReconcileSucceeded =
      store.firstReconcileSucceeded ∧
    (store.recordFamilyDiscovery record).appliedFactJournal = store.appliedFactJournal ∧
    (store.recordFamilyDiscovery record).consumedJournal = store.consumedJournal ∧
    (store.recordFamilyDiscovery record).pendingReconcileAnchors =
      store.pendingReconcileAnchors ∧
    (store.recordFamilyDiscovery record).runtimeAttentionAnchors =
      store.runtimeAttentionAnchors ∧
    (store.recordFamilyDiscovery record).posture = store.posture :=
  ⟨rfl, rfl, rfl, rfl, rfl, rfl, rfl, rfl, rfl⟩

@[simp] theorem recordFamilyBackfill_frame (familyId cursor : String)
    (completedAt : Option DateTime) :
    (store.recordFamilyBackfill familyId cursor completedAt).stateVersion = store.stateVersion ∧
    (store.recordFamilyBackfill familyId cursor completedAt).lastConsumedJournalSeq =
      store.lastConsumedJournalSeq ∧
    (store.recordFamilyBackfill familyId cursor completedAt).lastAppliedJournalSeq =
      store.lastAppliedJournalSeq ∧
    (store.recordFamilyBackfill familyId cursor completedAt).firstReconcileSucceeded =
      store.firstReconcileSucceeded ∧
    (store.recordFamilyBackfill familyId cursor completedAt).appliedFactJournal =
      store.appliedFactJournal ∧
    (store.recordFamilyBackfill familyId cursor completedAt).consumedJournal =
      store.consumedJournal ∧
    (store.recordFamilyBackfill familyId cursor completedAt).pendingReconcileAnchors =
      store.pendingReconcileAnchors ∧
    (store.recordFamilyBackfill familyId cursor completedAt).runtimeAttentionAnchors =
      store.runtimeAttentionAnchors ∧
    (store.recordFamilyBackfill familyId cursor completedAt).posture = store.posture := by
  unfold recordFamilyBackfill
  split <;> exact ⟨rfl, rfl, rfl, rfl, rfl, rfl, rfl, rfl, rfl⟩

/-- A fact is absorbed without touching the journal or the version. -/
@[simp] theorem absorb_frame :
    (store.absorb hint).stateVersion = store.stateVersion ∧
    (store.absorb hint).lastConsumedJournalSeq = store.lastConsumedJournalSeq ∧
    (store.absorb hint).lastAppliedJournalSeq = store.lastAppliedJournalSeq ∧
    (store.absorb hint).firstReconcileSucceeded = store.firstReconcileSucceeded ∧
    (store.absorb hint).appliedFactJournal = store.appliedFactJournal ∧
    (store.absorb hint).consumedJournal = store.consumedJournal := by
  cases hint with
  | none => exact ⟨rfl, rfl, rfl, rfl, rfl, rfl⟩
  | familyDiscovery record => exact ⟨rfl, rfl, rfl, rfl, rfl, rfl⟩
  | familyBackfill familyId cursor completedAt => simp [absorb]
  | pendingReconcile anchor => exact ⟨rfl, rfl, rfl, rfl, rfl, rfl⟩
  | runtimeAttention anchor => exact ⟨rfl, rfl, rfl, rfl, rfl, rfl⟩
  | liveReconcileObserved pendingRef terminal =>
      cases terminal <;> simp [absorb, clearPendingReconcile]

@[simp] theorem pendingReconcileAnchors_absorb :
    (store.absorb hint).pendingReconcileAnchors =
      hint.pendingAfter store.pendingReconcileAnchors := by
  cases hint with
  | familyBackfill familyId cursor completedAt => simp [absorb, FactApplyHint.pendingAfter]
  | liveReconcileObserved pendingRef terminal =>
      cases terminal <;> simp [absorb, clearPendingReconcile, FactApplyHint.pendingAfter]
  | _ => rfl

/-- Before a reconcile has been asked for or has succeeded, absorbing a fact
leaves the posture alone. -/
theorem posture_absorb (h : store.firstReconcileSucceeded = false) :
    (store.absorb hint).posture = store.posture := by
  cases hint with
  | familyBackfill familyId cursor completedAt => simp [absorb]
  | liveReconcileObserved pendingRef terminal =>
      cases terminal with
      | false => rfl
      | true =>
          simp only [absorb, if_true, clearPendingReconcile, posture_applyRestorePosture,
            restorePolicy, h]
          rfl
  | _ => rfl

/-- An open fact touches the pending work alone. -/
theorem absorb_of_open (h : ¬ hint.Settles) :
    (store.absorb hint).familyDiscoveryRecords = store.familyDiscoveryRecords ∧
    (store.absorb hint).pendingFamilyBackfills = store.pendingFamilyBackfills ∧
    (store.absorb hint).runtimeAttentionAnchors = store.runtimeAttentionAnchors := by
  cases hint with
  | pendingReconcile anchor => exact ⟨rfl, rfl, rfl⟩
  | liveReconcileObserved pendingRef terminal =>
      cases terminal with
      | false => exact ⟨rfl, rfl, rfl⟩
      | true => exact absurd rfl h
  | _ => exact absurd trivial h

/-! ## Settling a fact or leaving it open -/

@[simp] theorem recordAppliedFact_fields :
    (store.recordAppliedFact journalSeq factKey).2.stateVersion = store.stateVersion + 1 ∧
    (store.recordAppliedFact journalSeq factKey).2.lastConsumedJournalSeq =
      store.lastConsumedJournalSeq ∧
    (store.recordAppliedFact journalSeq factKey).2.lastAppliedJournalSeq = some journalSeq ∧
    (store.recordAppliedFact journalSeq factKey).2.firstReconcileSucceeded =
      store.firstReconcileSucceeded ∧
    (store.recordAppliedFact journalSeq factKey).2.appliedFactJournal =
      store.appliedFactJournal.insert factKey journalSeq ∧
    (store.recordAppliedFact journalSeq factKey).2.consumedJournal = store.consumedJournal ∧
    (store.recordAppliedFact journalSeq factKey).2.familyDiscoveryRecords =
      store.familyDiscoveryRecords ∧
    (store.recordAppliedFact journalSeq factKey).2.pendingFamilyBackfills =
      store.pendingFamilyBackfills ∧
    (store.recordAppliedFact journalSeq factKey).2.pendingReconcileAnchors =
      store.pendingReconcileAnchors ∧
    (store.recordAppliedFact journalSeq factKey).2.runtimeAttentionAnchors =
      store.runtimeAttentionAnchors ∧
    (store.recordAppliedFact journalSeq factKey).2.posture = store.restorePolicy := by
  unfold recordAppliedFact
  simp only [applyRestorePosture_frame, posture_applyRestorePosture]
  exact ⟨rfl, rfl, rfl, rfl, rfl, rfl, rfl, rfl, rfl, rfl, rfl⟩

@[simp] theorem markReconcileRequired_fields :
    store.markReconcileRequired.stateVersion = store.stateVersion ∧
    store.markReconcileRequired.lastConsumedJournalSeq = store.lastConsumedJournalSeq ∧
    store.markReconcileRequired.lastAppliedJournalSeq = store.lastAppliedJournalSeq ∧
    store.markReconcileRequired.firstReconcileSucceeded = true ∧
    store.markReconcileRequired.appliedFactJournal = store.appliedFactJournal ∧
    store.markReconcileRequired.consumedJournal = store.consumedJournal ∧
    store.markReconcileRequired.familyDiscoveryRecords = store.familyDiscoveryRecords ∧
    store.markReconcileRequired.pendingFamilyBackfills = store.pendingFamilyBackfills ∧
    store.markReconcileRequired.pendingReconcileAnchors = store.pendingReconcileAnchors ∧
    store.markReconcileRequired.runtimeAttentionAnchors = store.runtimeAttentionAnchors :=
  ⟨rfl, rfl, rfl, rfl, rfl, rfl, rfl, rfl, rfl, rfl⟩

/-! ## The other operations -/

section Other

variable (snapshot : RemoteSnapshot) (version : Nat) (anchor : PendingReconcileAnchor)

@[simp] theorem markBootstrapping_fields :
    store.markBootstrapping.stateVersion = store.stateVersion ∧
    store.markBootstrapping.lastConsumedJournalSeq = store.lastConsumedJournalSeq ∧
    store.markBootstrapping.lastAppliedJournalSeq = store.lastAppliedJournalSeq ∧
    store.markBootstrapping.firstReconcileSucceeded = store.firstReconcileSucceeded ∧
    store.markBootstrapping.appliedFactJournal = store.appliedFactJournal ∧
    store.markBootstrapping.consumedJournal = store.consumedJournal ∧
    store.markBootstrapping.familyDiscoveryRecords = store.familyDiscoveryRecords ∧
    store.markBootstrapping.pendingFamilyBackfills = store.pendingFamilyBackfills ∧
    store.markBootstrapping.pendingReconcileAnchors = store.pendingReconcileAnchors ∧
    store.markBootstrapping.runtimeAttentionAnchors = store.runtimeAttentionAnchors ∧
    store.markBootstrapping.posture =
      if store.firstReconcileSucceeded then store.posture else bootstrapPolicy := by
  unfold markBootstrapping
  split <;> exact ⟨rfl, rfl, rfl, rfl, rfl, rfl, rfl, rfl, rfl, rfl, rfl⟩

/-- A reconcile, failed or not, keeps the journal, the facts and the pending work. -/
@[simp] theorem reconcile_frame :
    (store.reconcile snapshot).2.stateVersion = store.stateVersion ∧
    (store.reconcile snapshot).2.lastConsumedJournalSeq = store.lastConsumedJournalSeq ∧
    (store.reconcile snapshot).2.lastAppliedJournalSeq = store.lastAppliedJournalSeq ∧
    (store.reconcile snapshot).2.appliedFactJournal = store.appliedFactJournal ∧
    (store.reconcile snapshot).2.consumedJournal = store.consumedJournal ∧
    (store.reconcile snapshot).2.familyDiscoveryRecords = store.familyDiscoveryRecords ∧
    (store.reconcile snapshot).2.pendingFamilyBackfills = store.pendingFamilyBackfills ∧
    (store.reconcile snapshot).2.pendingReconcileAnchors = store.pendingReconcileAnchors ∧
    (store.reconcile snapshot).2.runtimeAttentionAnchors = store.runtimeAttentionAnchors := by
  cases hsucceeded : (store.reconcile snapshot).1.succeeded with
  | false =>
      rw [store.reconcile_of_attention snapshot hsucceeded]
      exact ⟨rfl, rfl, rfl, rfl, rfl, rfl, rfl, rfl, rfl⟩
  | true =>
      rw [store.reconcile_of_success snapshot hsucceeded]
      simp only [setModeIfReconciled, completeReconcile, applyRestorePosture_frame]
      cases store.lastAppliedJournalSeq <;> exact ⟨rfl, rfl, rfl, rfl, rfl, rfl, rfl, rfl, rfl⟩

/-- A failed reconcile restricts the store. -/
theorem reconcile_failed_fields (h : (store.reconcile snapshot).1.succeeded = false) :
    (store.reconcile snapshot).2.firstReconcileSucceeded = store.firstReconcileSucceeded ∧
    (store.reconcile snapshot).2.posture = reconcileAttentionPolicy := by
  rw [store.reconcile_of_attention snapshot h]
  exact ⟨rfl, rfl⟩

/-- A successful reconcile opens the store exactly when nothing is pending. -/
theorem reconcile_succeeded_fields (h : (store.reconcile snapshot).1.succeeded = true) :
    (store.reconcile snapshot).2.firstReconcileSucceeded = true ∧
    (store.reconcile snapshot).2.posture =
      if store.pendingReconcileAnchors = ∅ then reconciledPolicy
      else reconcileAttentionPolicy := by
  rw [store.reconcile_of_success snapshot h]
  simp only [setModeIfReconciled, completeReconcile, applyRestorePosture_frame,
    posture_applyRestorePosture, restorePolicy]
  cases store.lastAppliedJournalSeq <;> exact ⟨trivial, rfl⟩

@[simp] theorem restoreCommittedAnchor_fields :
    (store.restoreCommittedAnchor version journalSeq).stateVersion = version ∧
    (store.restoreCommittedAnchor version journalSeq).lastConsumedJournalSeq = some journalSeq ∧
    (store.restoreCommittedAnchor version journalSeq).lastAppliedJournalSeq = some journalSeq ∧
    (store.restoreCommittedAnchor version journalSeq).firstReconcileSucceeded = true ∧
    (store.restoreCommittedAnchor version journalSeq).appliedFactJournal =
      store.appliedFactJournal ∧
    (store.restoreCommittedAnchor version journalSeq).pendingReconcileAnchors =
      store.pendingReconcileAnchors ∧
    (store.restoreCommittedAnchor version journalSeq).posture =
      if store.pendingReconcileAnchors = ∅ then reconciledPolicy
      else reconcileAttentionPolicy := by
  simp only [restoreCommittedAnchor, applyRestorePosture_frame, posture_applyRestorePosture,
    restorePolicy]
  exact ⟨rfl, rfl, rfl, trivial, rfl, rfl, rfl⟩

@[simp] theorem restorePendingReconcileAnchor_fields :
    (store.restorePendingReconcileAnchor anchor).lastConsumedJournalSeq =
      store.lastConsumedJournalSeq ∧
    (store.restorePendingReconcileAnchor anchor).lastAppliedJournalSeq =
      store.lastAppliedJournalSeq ∧
    (store.restorePendingReconcileAnchor anchor).firstReconcileSucceeded = true ∧
    (store.restorePendingReconcileAnchor anchor).appliedFactJournal = store.appliedFactJournal ∧
    (store.restorePendingReconcileAnchor anchor).pendingReconcileAnchors =
      store.pendingReconcileAnchors.insert anchor.pendingRef anchor ∧
    (store.restorePendingReconcileAnchor anchor).posture = reconcileAttentionPolicy := by
  simp only [restorePendingReconcileAnchor, applyRestorePosture_frame,
    posture_applyRestorePosture, restorePolicy, recordPendingReconcile]
  simp

/-- A store that has applied nothing is anchored at the baseline. -/
@[simp] theorem markReconciledAfterRestore_fields :
    (store.markReconciledAfterRestore journalSeq).stateVersion = store.stateVersion ∧
    (store.markReconciledAfterRestore journalSeq).lastConsumedJournalSeq =
      (if store.lastAppliedJournalSeq = none then some journalSeq
        else store.lastConsumedJournalSeq) ∧
    (store.markReconciledAfterRestore journalSeq).lastAppliedJournalSeq =
      (if store.lastAppliedJournalSeq = none then some journalSeq
        else store.lastAppliedJournalSeq) ∧
    (store.markReconciledAfterRestore journalSeq).firstReconcileSucceeded = true ∧
    (store.markReconciledAfterRestore journalSeq).appliedFactJournal =
      store.appliedFactJournal ∧
    (store.markReconciledAfterRestore journalSeq).consumedJournal = store.consumedJournal ∧
    (store.markReconciledAfterRestore journalSeq).familyDiscoveryRecords =
      store.familyDiscoveryRecords ∧
    (store.markReconciledAfterRestore journalSeq).pendingFamilyBackfills =
      store.pendingFamilyBackfills ∧
    (store.markReconciledAfterRestore journalSeq).pendingReconcileAnchors = ∅ ∧
    (store.markReconciledAfterRestore journalSeq).runtimeAttentionAnchors =
      store.runtimeAttentionAnchors ∧
    (store.markReconciledAfterRestore journalSeq).posture = reconciledPolicy := by
  unfold markReconciledAfterRestore
  cases hlast : store.lastAppliedJournalSeq with
  | none => simp [rebuildFullsetAnchor]
  | some seq => simp [hlast]

@[simp] theorem clearPendingReconcileAfterRestore_fields :
    store.clearPendingReconcileAfterRestore.stateVersion = store.stateVersion ∧
    store.clearPendingReconcileAfterRestore.lastConsumedJournalSeq =
      store.lastConsumedJournalSeq ∧
    store.clearPendingReconcileAfterRestore.lastAppliedJournalSeq =
      store.lastAppliedJournalSeq ∧
    store.clearPendingReconcileAfterRestore.firstReconcileSucceeded =
      store.firstReconcileSucceeded ∧
    store.clearPendingReconcileAfterRestore.appliedFactJournal = store.appliedFactJournal ∧
    store.clearPendingReconcileAfterRestore.consumedJournal = store.consumedJournal ∧
    store.clearPendingReconcileAfterRestore.familyDiscoveryRecords =
      store.familyDiscoveryRecords ∧
    store.clearPendingReconcileAfterRestore.pendingFamilyBackfills =
      store.pendingFamilyBackfills ∧
    store.clearPendingReconcileAfterRestore.pendingReconcileAnchors = ∅ ∧
    store.clearPendingReconcileAfterRestore.runtimeAttentionAnchors =
      store.runtimeAttentionAnchors ∧
    store.clearPendingReconcileAfterRestore.posture =
      if store.firstReconcileSucceeded then reconciledPolicy else store.posture := by
  simp only [clearPendingReconcileAfterRestore]
  cases hfirst : store.firstReconcileSucceeded with
  | false => exact ⟨rfl, rfl, rfl, rfl, rfl, rfl, rfl, rfl, rfl, rfl, rfl⟩
  | true => simp [restorePolicy]

end Other

variable {store journalSeq factKey fact hint}

/-- The posture of a store that has settled a fact. -/
theorem restorePolicy_absorb :
    (store.absorb hint).restorePolicy =
      if store.firstReconcileSucceeded then
        if hint.pendingAfter store.pendingReconcileAnchors = ∅ then reconciledPolicy
        else reconcileAttentionPolicy
      else store.posture := by
  unfold restorePolicy
  simp only [absorb_frame, pendingReconcileAnchors_absorb]
  cases h : store.firstReconcileSucceeded with
  | false => simp [store.posture_absorb hint h]
  | true => simp

end StateStore

end AxiomArb.State
