import AxiomArb.AppLive.ReconcileFirst

/-!
# A start from the durable store

What the durable store holds of an earlier run is loaded into a
`DurableLiveStartupState`, and a new supervisor is set up with it.  The module says what
the supervisor is seeded with, and what its runtime and its records are once it has
restored them.
-/

namespace AxiomArb.AppLive

open Domain Library State

structure DurableLiveStartupState where
  lastJournalSeq : Int
  lastStateVersion : Nat
  publishedSnapshotId : Option String
  pendingReconcileAnchors : List PendingReconcileAnchor
  liveExecutionRecords : List NegRiskLiveExecutionRecord
  shadowExecutionAttempts : List ExecutionAttemptRow
  shadowExecutionArtifacts : List ShadowExecutionArtifactRow
  candidateRestoreStatus : CandidateRestoreStatus

/-- What the operator supplies to a start: the families, and whether it is a smoke test
of a real user, whose orders are shadowed. -/
structure OperatorInputs where
  negRiskLiveTargets : BTreeMap String NegRiskFamilyLiveTarget
  negRiskLiveApprovedFamilies : BTreeSet String
  negRiskLiveReadyFamilies : BTreeSet String
  realUserShadowSmoke : Bool

namespace AppSupervisor

variable {env : SupervisorEnv} {supervisor restored : AppSupervisor}

/-! ## Seeding -/

/-- What is seeded of the durable state, smoke test or not. -/
def liveStateSeeds (durable : DurableLiveStartupState) : List SeedOp :=
  [.runtimeProgress durable.lastJournalSeq durable.lastStateVersion durable.publishedSnapshotId,
    .committedStateVersion durable.lastStateVersion,
    .pendingReconcileCount durable.pendingReconcileAnchors.length,
    .candidateRestoreStatus durable.candidateRestoreStatus] ++
  durable.pendingReconcileAnchors.map .pendingReconcileAnchor ++
  durable.liveExecutionRecords.map .negRiskLiveExecutionRecord

def shadowStateSeeds (durable : DurableLiveStartupState) : List SeedOp :=
  durable.shadowExecutionAttempts.map .negRiskShadowExecutionAttempt ++
  durable.shadowExecutionArtifacts.map .negRiskShadowExecutionArtifact

def operatorSeeds (inputs : OperatorInputs) : List SeedOp :=
  .negRiskLiveTargets inputs.negRiskLiveTargets ::
    (inputs.negRiskLiveApprovedFamilies.toList.map .negRiskLiveApproval ++
      inputs.negRiskLiveReadyFamilies.toList.map .negRiskLiveReadyFamily)

/-- The seeds of `run_live_from_durable_store`, in its order. -/
def durableSeeds (durable : DurableLiveStartupState) (inputs : OperatorInputs) : List SeedOp :=
  .enableDurableLivePersistence ::
    ((if inputs.realUserShadowSmoke then
        [.enableRealUserShadowSmoke, .enableDurableShadowPersistence]
      else []) ++
    liveStateSeeds durable ++
    (if inputs.realUserShadowSmoke then shadowStateSeeds durable else []) ++
    operatorSeeds inputs)

/-- The supervisor that `run_live_from_durable_store` runs. -/
def durableStart (env : SupervisorEnv) (bootstrapSnapshot : RemoteSnapshot)
    (durable : DurableLiveStartupState) (inputs : OperatorInputs) : AppSupervisor :=
  seededLive env bootstrapSnapshot (durableSeeds durable inputs)

/-- The seed that a durable state leaves. -/
def durableSeed (durable : DurableLiveStartupState) (smoke : Bool) : RuntimeSeed :=
  { lastJournalSeq := some durable.lastJournalSeq
    lastStateVersion := durable.lastStateVersion
    publishedSnapshotId := durable.publishedSnapshotId
    committedStateVersion := some durable.lastStateVersion
    pendingReconcileCount := some durable.pendingReconcileAnchors.length
    pendingReconcileAnchors := durable.pendingReconcileAnchors
    candidateRestoreStatus := durable.candidateRestoreStatus
    negRiskRolloutEvidence := none
    negRiskLiveExecutionRecords := durable.liveExecutionRecords
    negRiskShadowExecutionAttempts := if smoke then durable.shadowExecutionAttempts else []
    negRiskShadowExecutionArtifacts := if smoke then durable.shadowExecutionArtifacts else [] }

/-- Seeding a list appends it. -/
theorem seed_pendingReconcileAnchors (anchors : List PendingReconcileAnchor) :
    run (applySeed env) supervisor (anchors.map .pendingReconcileAnchor) =
      supervisor.seedWith { supervisor.seed with
        pendingReconcileAnchors := supervisor.seed.pendingReconcileAnchors ++ anchors } := by
  apply run_map
  · simp [seedWith]
  · simp [seedWith, applySeed]

theorem seed_negRiskLiveExecutionRecords (records : List NegRiskLiveExecutionRecord) :
    run (applySeed env) supervisor (records.map .negRiskLiveExecutionRecord) =
      supervisor.seedWith { supervisor.seed with
        negRiskLiveExecutionRecords := supervisor.seed.negRiskLiveExecutionRecords ++ records } := by
  apply run_map
  · simp [seedWith]
  · simp [seedWith, applySeed]

theorem seed_negRiskShadowExecutionAttempts (attempts : List ExecutionAttemptRow) :
    run (applySeed env) supervisor (attempts.map .negRiskShadowExecutionAttempt) =
      supervisor.seedWith { supervisor.seed with
        negRiskShadowExecutionAttempts :=
          supervisor.seed.negRiskShadowExecutionAttempts ++ attempts } := by
  apply run_map
  · simp [seedWith]
  · simp [seedWith, applySeed]

theorem seed_negRiskShadowExecutionArtifacts (artifacts : List ShadowExecutionArtifactRow) :
    run (applySeed env) supervisor (artifacts.map .negRiskShadowExecutionArtifact) =
      supervisor.seedWith { supervisor.seed with
        negRiskShadowExecutionArtifacts :=
          supervisor.seed.negRiskShadowExecutionArtifacts ++ artifacts } := by
  apply run_map
  · simp [seedWith]
  · simp [seedWith, applySeed]

theorem seed_negRiskLiveApprovals (familyIds : List String) :
    run (applySeed env) supervisor (familyIds.map .negRiskLiveApproval) =
      { supervisor with
        negRiskLiveApprovedFamilies := supervisor.negRiskLiveApprovedFamilies.insertMany familyIds } := by
  apply run_map
  · simp
  · simp [applySeed, Std.ExtTreeSet.insertMany_cons]

theorem seed_negRiskLiveReadyFamilies (familyIds : List String) :
    run (applySeed env) supervisor (familyIds.map .negRiskLiveReadyFamily) =
      { supervisor with
        negRiskLiveReadyFamilies := supervisor.negRiskLiveReadyFamilies.insertMany familyIds } := by
  apply run_map
  · simp
  · simp [applySeed, Std.ExtTreeSet.insertMany_cons]

/-- The families of a set are seeded one by one, and make up the set again. -/
theorem insertMany_toList (familyIds : BTreeSet String) :
    (∅ : BTreeSet String).insertMany familyIds.toList = familyIds := by
  refine Std.ExtTreeSet.ext_mem fun familyId ↦ ?_
  simp [Std.ExtTreeSet.mem_insertMany_list]

/-- What `run_live_from_durable_store` starts from. -/
theorem durableStart_eq (env : SupervisorEnv) (bootstrapSnapshot : RemoteSnapshot)
    (durable : DurableLiveStartupState) (inputs : OperatorInputs) :
    durableStart env bootstrapSnapshot durable inputs =
      { new .live bootstrapSnapshot with
        seed := durableSeed durable inputs.realUserShadowSmoke
        realUserShadowSmokeEnabled := inputs.realUserShadowSmoke
        durableLivePersistenceEnabled := true
        durableShadowPersistenceEnabled := inputs.realUserShadowSmoke
        negRiskLiveTargets := inputs.negRiskLiveTargets
        negRiskLiveTargetRevision :=
          if inputs.negRiskLiveTargets.isEmpty then none
          else some (env.liveTargetRevision inputs.negRiskLiveTargets)
        negRiskLiveApprovedFamilies := inputs.negRiskLiveApprovedFamilies
        negRiskLiveReadyFamilies := inputs.negRiskLiveReadyFamilies
        candidateRestoreStatus := durable.candidateRestoreStatus } := by
  obtain ⟨targets, approved, ready, smoke⟩ := inputs
  have hrun : durableStart env bootstrapSnapshot durable ⟨targets, approved, ready, smoke⟩ =
    run (applySeed env) (new .live bootstrapSnapshot)
      (durableSeeds durable ⟨targets, approved, ready, smoke⟩) := rfl
  rw [hrun]
  cases smoke with
  | false =>
      simp only [durableSeeds, liveStateSeeds, operatorSeeds, Bool.false_eq_true, if_false, run_cons,
        run_append, seed_pendingReconcileAnchors, seed_negRiskLiveExecutionRecords,
        seed_negRiskLiveApprovals, seed_negRiskLiveReadyFamilies]
      simp [applySeed, seedWith, seedNegRiskLiveTargets, insertMany_toList, new, durableSeed,
        RuntimeSeed.default]
  | true =>
      simp only [durableSeeds, liveStateSeeds, shadowStateSeeds, operatorSeeds, if_true, run_cons,
        run_append, seed_pendingReconcileAnchors, seed_negRiskLiveExecutionRecords,
        seed_negRiskShadowExecutionAttempts, seed_negRiskShadowExecutionArtifacts,
        seed_negRiskLiveApprovals, seed_negRiskLiveReadyFamilies]
      simp [applySeed, seedWith, seedNegRiskLiveTargets, insertMany_toList, new, durableSeed,
        RuntimeSeed.default]

/-! ## Restoring -/

theorem snapshotId_publishCurrentSnapshot (allow : Bool)
    (h : supervisor.runtime.store.lastAppliedJournalSeq ≠ none) :
    (supervisor.publishCurrentSnapshot allow).runtime.publishedSnapshotId =
      some (snapshotIdFor supervisor.runtime.stateVersion) ∧
    (supervisor.publishCurrentSnapshot allow).negRiskRolloutEvidence.map
        NegRiskRolloutEvidence.snapshotId =
      some (snapshotIdFor supervisor.runtime.stateVersion) := by
  obtain ⟨snapshot, hid, -, hpublished, hevidence, -⟩ := publishCurrentSnapshot_spec allow h
  rw [AppRuntime.publishedSnapshotId, hpublished, hevidence, Option.map_some, Option.map_some,
    snapshotId_rolloutEvidenceForSnapshot, hid]
  exact ⟨rfl, rfl⟩

/-- What a restore of the anchor of a committed journal leaves, where nothing was pending. -/
structure RestoredClear (supervisor restored : AppSupervisor) : Prop where
  stateVersion : restored.runtime.stateVersion =
    supervisor.seed.committedStateVersion.getD supervisor.seed.lastStateVersion
  applied : restored.runtime.store.lastAppliedJournalSeq ≠ none
  pending : restored.runtime.pendingReconcileCount = 0
  records : restored.negRiskLiveExecutionRecords =
    supervisor.seed.negRiskLiveExecutionRecords.filter
      (·.snapshotId == snapshotIdFor restored.runtime.stateVersion)
  attempts : restored.negRiskShadowExecutionAttempts =
    supervisor.seed.negRiskShadowExecutionAttempts.filter
      (·.snapshotId == snapshotIdFor restored.runtime.stateVersion)

/-- The supervisor with the anchor of a committed journal. -/
def atCommittedAnchor (supervisor : AppSupervisor) (lastJournalSeq : Int) : AppSupervisor :=
  { supervisor.resetForRestore with
    candidateRestoreStatus := supervisor.seed.candidateRestoreStatus
    runtime := (AppRuntime.new supervisor.runtime.appMode).restoreCommittedAnchor
      (supervisor.seed.committedStateVersion.getD supervisor.seed.lastStateVersion) lastJournalSeq }

/-- The supervisor once it has published what it restored. -/
def republished (supervisor : AppSupervisor) (lastJournalSeq : Int) : AppSupervisor :=
  ((supervisor.atCommittedAnchor lastJournalSeq).publishCurrentSnapshot false).restoreSeededRecords

theorem setup_republished (supervisor : AppSupervisor) (lastJournalSeq : Int) :
    (supervisor.republished lastJournalSeq).setup = supervisor.setup := by
  rw [republished, (restoreSeededRecords_frame _).1, (publishCurrentSnapshot_frame _ _).1]
  rfl

/-- Where nothing is pending in the seed, only its shadow records can fail a restore. -/
theorem exec_restoreSeededStartupState {lastJournalSeq : Int}
    (hseq : supervisor.seed.lastJournalSeq = some lastJournalSeq)
    (hanchors : supervisor.seed.pendingReconcileAnchors = [])
    (hcount : supervisor.seed.pendingReconcileCount = some 0) :
    exec restoreSeededStartupState supervisor =
      ((supervisor.republished lastJournalSeq).validateNegRiskShadowExecutionAnchor,
        supervisor.republished lastJournalSeq) := by
  have hpending : (supervisor.atCommittedAnchor lastJournalSeq).validateRestoredPendingCount = .ok ⟨⟩ := by
    simp [validateRestoredPendingCount, atCommittedAnchor, resetForRestore, hcount,
      AppRuntime.pendingReconcileCount, AppRuntime.restoreCommittedAnchor,
      StateStore.pendingReconcileCount, AppRuntime.new, StateStore.new]
  have hrestore : exec (restoreRuntime lastJournalSeq)
      { supervisor.resetForRestore with
        candidateRestoreStatus := supervisor.seed.candidateRestoreStatus } =
      (.ok ⟨⟩, supervisor.atCommittedAnchor lastJournalSeq) := by
    simp only [restoreRuntime, exec_bind, exec_modify, exec_get, exec_lift, resetForRestore, hanchors,
      List.foldl_nil]
    exact congrArg (·, supervisor.atCommittedAnchor lastJournalSeq) hpending
  simp only [restoreSeededStartupState, exec_bind, exec_modify, exec_get, resetForRestore, hseq]
  simp only [resetForRestore] at hrestore
  rw [hrestore]
  simp only [publishRestored, exec_bind, exec_modify, exec_get, exec_lift]
  rfl

theorem restoredClear_republished (supervisor : AppSupervisor) (lastJournalSeq : Int) :
    RestoredClear supervisor (supervisor.republished lastJournalSeq) := by
  have hstore : (supervisor.republished lastJournalSeq).runtime.store =
      (supervisor.atCommittedAnchor lastJournalSeq).runtime.store := by
    rw [republished, (restoreSeededRecords_frame _).2.1, (publishCurrentSnapshot_frame _ _).2.1]
  have happlied : (supervisor.atCommittedAnchor lastJournalSeq).runtime.store.lastAppliedJournalSeq ≠ none := by
    simp [atCommittedAnchor, AppRuntime.restoreCommittedAnchor]
  obtain ⟨hsnapshot, hevidence⟩ := snapshotId_publishCurrentSnapshot false happlied
  obtain ⟨hrecords, hattempts⟩ := records_restoreSeededRecords hsnapshot hevidence
  have hseed : ((supervisor.atCommittedAnchor lastJournalSeq).publishCurrentSnapshot false).seed =
      supervisor.seed :=
    congrArg Setup.seed (publishCurrentSnapshot_frame (supervisor.atCommittedAnchor lastJournalSeq) false).1
  have hversion : (supervisor.republished lastJournalSeq).runtime.stateVersion =
      (supervisor.atCommittedAnchor lastJournalSeq).runtime.stateVersion := by
    rw [AppRuntime.stateVersion, hstore]
    rfl
  rw [hseed] at hrecords hattempts
  refine ⟨?_, hstore ▸ happlied, ?_, ?_, ?_⟩
  · rw [hversion]
    simp [atCommittedAnchor, AppRuntime.stateVersion, AppRuntime.restoreCommittedAnchor]
  · rw [AppRuntime.pendingReconcileCount, hstore]
    simp [atCommittedAnchor, AppRuntime.restoreCommittedAnchor, StateStore.pendingReconcileCount,
      AppRuntime.new, StateStore.new]
  · rw [hversion]
    exact hrecords
  · rw [hversion]
    exact hattempts

end AppSupervisor

end AxiomArb.AppLive
