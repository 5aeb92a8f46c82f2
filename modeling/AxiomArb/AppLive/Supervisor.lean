import AxiomArb.AppLive.Dispatch
import AxiomArb.AppLive.NegRiskShadow

/-!
# The application supervisor

`AppSupervisor` owns the runtime, the ingress queue and the committed log, and
decides when families are submitted to the venue.  This module has its data, the
guards it consults and what it publishes; the commands are in `SupervisorRun`.

## Honest boundary

* Tracing and metrics are left out, with the recorder and the last evidence emitted.
* `SupervisorEnv` stands for the code that leaves the process: the venue behind the
  default backend, the shadow sink, the databases, discovery, the digest of the
  targets, and the clock.  `Effects` records what was done there.
* Text in a debug format is not escaped.
-/

namespace AxiomArb.AppLive

open Domain Library State

/-! ## Data -/

inductive NegRiskLiveStateSource where
  | none
  | syntheticBootstrap
  | durableRestore
deriving DecidableEq, Repr

inductive NegRiskRolloutEvidenceSource where
  | none
  | bootstrap
  | neutral
  | snapshot
deriving DecidableEq, Repr

structure NegRiskRolloutEvidence where
  snapshotId : String
  liveReadyFamilyCount : Nat
  blockedFamilyCount : Nat
  parityMismatchCount : Nat
deriving DecidableEq, Repr

/-- The evidence of a snapshot that says nothing about neg-risk. -/
def NegRiskRolloutEvidence.neutral (snapshotId : String) : NegRiskRolloutEvidence :=
  { snapshotId, liveReadyFamilyCount := 0, blockedFamilyCount := 0, parityMismatchCount := 0 }

/-- The debug format of the evidence. -/
def NegRiskRolloutEvidence.debug (evidence : NegRiskRolloutEvidence) : String :=
  "NegRiskRolloutEvidence \x7b snapshot_id: \"" ++ evidence.snapshotId ++
    s!"\", live_ready_family_count: {evidence.liveReadyFamilyCount}, blocked_family_count: {
      evidence.blockedFamilyCount}, parity_mismatch_count: {evidence.parityMismatchCount}" ++ " \x7d"

structure CandidateRestoreStatus where
  latestCandidateRevision : Option String
  latestAdoptableRevision : Option String
  latestCandidateOperatorTargetRevision : Option String
  adoptionProvenanceResolved : Bool
deriving DecidableEq, Repr

def CandidateRestoreStatus.default : CandidateRestoreStatus :=
  { latestCandidateRevision := none
    latestAdoptableRevision := none
    latestCandidateOperatorTargetRevision := none
    adoptionProvenanceResolved := false }

structure SupervisorError where
  message : String
deriving DecidableEq, Repr

inductive SupervisorPosture where
  | healthy
  | degradedIngress
  | degradedDispatch
  | globalHalt
deriving DecidableEq, Repr

/-- What a supervisor was told about an earlier run. -/
structure RuntimeSeed where
  lastJournalSeq : Option Int
  lastStateVersion : Nat
  publishedSnapshotId : Option String
  committedStateVersion : Option Nat
  pendingReconcileCount : Option Nat
  pendingReconcileAnchors : List PendingReconcileAnchor
  candidateRestoreStatus : CandidateRestoreStatus
  negRiskRolloutEvidence : Option NegRiskRolloutEvidence
  negRiskLiveExecutionRecords : List NegRiskLiveExecutionRecord
  negRiskShadowExecutionAttempts : List ExecutionAttemptRow
  negRiskShadowExecutionArtifacts : List ShadowExecutionArtifactRow

def RuntimeSeed.default : RuntimeSeed :=
  { lastJournalSeq := none
    lastStateVersion := 0
    publishedSnapshotId := none
    committedStateVersion := none
    pendingReconcileCount := none
    pendingReconcileAnchors := []
    candidateRestoreStatus := .default
    negRiskRolloutEvidence := none
    negRiskLiveExecutionRecords := []
    negRiskShadowExecutionAttempts := []
    negRiskShadowExecutionArtifacts := [] }

/-! ## Outside the process -/

structure ShadowBatch where
  attempts : List ExecutionAttemptRow
  artifacts : List ShadowExecutionArtifactRow
  runSessionId : Option String

/-- What has been done outside the process, in order. -/
structure Effects where
  venueCalls : List LiveCall
  liveSubmissions : List LiveSubmissionEntry
  shadowBatches : List ShadowBatch
  notices : List CandidateNotice
  clockReads : Nat

def Effects.empty : Effects :=
  { venueCalls := [], liveSubmissions := [], shadowBatches := [], notices := [], clockReads := 0 }

structure SupervisorEnv where
  hookBackend : NegRiskLiveExecutionBackend
  executeShadowFamily : ShadowSink
  liveDatabase : LiveDatabase
  persistShadow (batches : List ShadowBatch) (batch : ShadowBatch) : Except String Unit
  persistNotice (notices : List CandidateNotice) (notice : CandidateNotice) :
    Except String DiscoveryReport
  liveTargetRevision (targets : BTreeMap String NegRiskFamilyLiveTarget) : String
  now (clockReads : Nat) : DateTime

/-! ## The supervisor -/

structure AppSupervisor where
  dispatcher : DispatchLoop
  posture : SupervisorPosture
  runtime : AppRuntime
  bootstrapSnapshot : RemoteSnapshot
  committedLog : List InputTaskEvent
  inputTasks : IngressQueue
  seed : RuntimeSeed
  realUserShadowSmokeEnabled : Bool
  durableLivePersistenceEnabled : Bool
  durableShadowPersistenceEnabled : Bool
  runSessionId : Option String
  negRiskLiveTargets : BTreeMap String NegRiskFamilyLiveTarget
  negRiskLiveTargetRevision : Option String
  negRiskLiveApprovedFamilies : BTreeSet String
  negRiskLiveReadyFamilies : BTreeSet String
  negRiskLiveExecutionBackend : Option NegRiskLiveExecutionBackend
  negRiskRolloutEvidence : Option NegRiskRolloutEvidence
  negRiskRolloutEvidenceSource : NegRiskRolloutEvidenceSource
  candidateRestoreStatus : CandidateRestoreStatus
  negRiskLiveExecutionRecords : List NegRiskLiveExecutionRecord
  negRiskLiveStateSource : NegRiskLiveStateSource
  negRiskShadowExecutionAttempts : List ExecutionAttemptRow
  negRiskShadowExecutionArtifacts : List ShadowExecutionArtifactRow
  /-- Not a field of the source. -/
  effects : Effects

structure SupervisorSummary where
  fullsetMode : ExecutionMode
  negriskMode : ExecutionMode
  realUserShadowSmoke : Bool
  negRiskLiveAttemptCount : Nat
  negRiskLiveStateSource : NegRiskLiveStateSource
  negRiskRolloutEvidenceSource : NegRiskRolloutEvidenceSource
  bootstrapStatus : BootstrapStatus
  runtimeMode : RuntimeMode
  pendingReconcileCount : Nat
  lastJournalSeq : Int
  lastStateVersion : Nat
  publishedSnapshotId : Option String
  publishedSnapshotCommittedJournalSeq : Option Int
  latestCandidateRevision : Option String
  latestAdoptableRevision : Option String
  latestCandidateOperatorTargetRevision : Option String
  adoptionProvenanceResolved : Bool
  negRiskRolloutEvidence : Option NegRiskRolloutEvidence
  globalPosture : SupervisorPosture
  ingressBacklogCount : Nat
  followUpBacklogCount : Nat
deriving DecidableEq, Repr

def snapshotIdFor (stateVersion : Nat) : String := s!"snapshot-{stateVersion}"

def NegRiskFamilyRolloutReadiness.liveReady (family : NegRiskFamilyRolloutReadiness) : Bool :=
  family.shadowParityReady && family.recoveryReady && family.replayDriftReady &&
    family.faultInjectionReady && family.conversionPathReady && family.haltSemanticsReady

def rolloutEvidenceFromSnapshot (snapshot : PublishedSnapshot) : NegRiskRolloutEvidence :=
  match snapshot.negrisk with
  | none => .neutral snapshot.snapshotId
  | some negrisk =>
      let liveReadyFamilyCount :=
        negrisk.families.countP NegRiskFamilyRolloutReadiness.liveReady
      { snapshotId := snapshot.snapshotId
        liveReadyFamilyCount
        blockedFamilyCount := negrisk.families.length - liveReadyFamilyCount
        parityMismatchCount := negrisk.families.countP fun family ↦ !family.shadowParityReady }

namespace AppSupervisor

def new (appMode : AppRuntimeMode) (bootstrapSnapshot : RemoteSnapshot) : AppSupervisor :=
  { dispatcher := .empty
    posture := .healthy
    runtime := .new appMode
    bootstrapSnapshot
    committedLog := []
    inputTasks := .empty
    seed := .default
    realUserShadowSmokeEnabled := false
    durableLivePersistenceEnabled := false
    durableShadowPersistenceEnabled := false
    runSessionId := none
    negRiskLiveTargets := ∅
    negRiskLiveTargetRevision := none
    negRiskLiveApprovedFamilies := ∅
    negRiskLiveReadyFamilies := ∅
    negRiskLiveExecutionBackend := none
    negRiskRolloutEvidence := none
    negRiskRolloutEvidenceSource := .none
    candidateRestoreStatus := .default
    negRiskLiveExecutionRecords := []
    negRiskLiveStateSource := .none
    negRiskShadowExecutionAttempts := []
    negRiskShadowExecutionArtifacts := []
    effects := .empty }

variable (supervisor : AppSupervisor)

/-! ## Guards -/

def canResumeIngestLoops : Bool :=
  supervisor.runtime.pendingReconcileCount == 0 && supervisor.inputTasks.isEmpty

def hasSeededStartupState : Bool :=
  supervisor.seed.lastJournalSeq.isSome || supervisor.seed.committedStateVersion.isSome ||
    supervisor.seed.publishedSnapshotId.isSome || supervisor.seed.pendingReconcileCount.isSome ||
    !supervisor.seed.pendingReconcileAnchors.isEmpty ||
    !supervisor.seed.negRiskLiveExecutionRecords.isEmpty ||
    !supervisor.seed.negRiskShadowExecutionAttempts.isEmpty

def restoringSeededStartup : Bool :=
  supervisor.runtime.bootstrapStatus != .ready && supervisor.hasSeededStartupState

def pristineBootstrap : Bool :=
  supervisor.seed.lastJournalSeq.isNone && supervisor.seed.committedStateVersion.isNone &&
    supervisor.seed.publishedSnapshotId.isNone && supervisor.seed.pendingReconcileCount.isNone &&
    supervisor.seed.pendingReconcileAnchors.isEmpty &&
    supervisor.seed.negRiskRolloutEvidence.isNone &&
    supervisor.seed.negRiskLiveExecutionRecords.isEmpty &&
    supervisor.seed.negRiskShadowExecutionAttempts.isEmpty &&
    supervisor.committedLog.isEmpty &&
    supervisor.runtime.lastJournalSeq == some 0 && supervisor.runtime.stateVersion == 0

/-- Whether the families may be submitted on the operator's word alone. -/
def allowOperatorRolloutEvidenceSynthesis : Bool :=
  supervisor.pristineBootstrap ||
    (supervisor.hasSeededStartupState &&
      supervisor.runtime.pendingReconcileCount == 0 &&
      supervisor.negRiskLiveExecutionRecords.isEmpty &&
      supervisor.negRiskShadowExecutionAttempts.isEmpty &&
      supervisor.seed.pendingReconcileAnchors.isEmpty &&
      supervisor.seed.negRiskRolloutEvidence.isNone)

def syntheticLiveReadyFamilyCount : Nat :=
  supervisor.negRiskLiveTargets.keys.countP fun familyId ↦
    supervisor.negRiskLiveReadyFamilies.contains familyId &&
      supervisor.negRiskLiveApprovedFamilies.contains familyId

/-! ## Publication -/

def rolloutEvidenceForSnapshot (snapshot : PublishedSnapshot) (allowOperatorSynthesis : Bool) :
    NegRiskRolloutEvidence × NegRiskRolloutEvidenceSource :=
  if snapshot.negrisk.isSome then
    (rolloutEvidenceFromSnapshot snapshot, .snapshot)
  else if allowOperatorSynthesis then
    let liveReadyFamilyCount := supervisor.syntheticLiveReadyFamilyCount
    ({ snapshotId := snapshot.snapshotId
       liveReadyFamilyCount
       blockedFamilyCount := supervisor.negRiskLiveTargets.size - liveReadyFamilyCount
       parityMismatchCount := 0 },
      .bootstrap)
  else
    match supervisor.seed.negRiskRolloutEvidence with
    | some evidence =>
        if evidence.snapshotId = snapshot.snapshotId then (evidence, .bootstrap)
        else (.neutral snapshot.snapshotId, .neutral)
    | none => (.neutral snapshot.snapshotId, .neutral)

def retainCurrentNegRiskLiveExecutionRecords : AppSupervisor :=
  match supervisor.runtime.publishedSnapshotId with
  | none => { supervisor with negRiskLiveExecutionRecords := [], negRiskLiveStateSource := .none }
  | some snapshotId =>
      let evidenceSnapshotId :=
        (supervisor.negRiskRolloutEvidence.map NegRiskRolloutEvidence.snapshotId).getD snapshotId
      let records := supervisor.negRiskLiveExecutionRecords.filter fun record ↦
        record.snapshotId == snapshotId && record.snapshotId == evidenceSnapshotId
      { supervisor with
        negRiskLiveExecutionRecords := records
        negRiskLiveStateSource :=
          if records.isEmpty then .none else supervisor.negRiskLiveStateSource }

def retainCurrentNegRiskShadowExecutionRecords : AppSupervisor :=
  match supervisor.runtime.publishedSnapshotId with
  | none =>
      { supervisor with
        negRiskShadowExecutionAttempts := []
        negRiskShadowExecutionArtifacts := [] }
  | some snapshotId =>
      let attempts := supervisor.negRiskShadowExecutionAttempts.filter fun attempt ↦
        attempt.snapshotId == snapshotId
      let retainedAttemptIds := attempts.map ExecutionAttemptRow.attemptId
      { supervisor with
        negRiskShadowExecutionAttempts := attempts
        negRiskShadowExecutionArtifacts :=
          supervisor.negRiskShadowExecutionArtifacts.filter fun artifact ↦
            retainedAttemptIds.contains artifact.attemptId }

/-- Install the evidence of a publication, and drop the records it makes stale. -/
def installEvidence (evidence : Option NegRiskRolloutEvidence)
    (evidenceSource : NegRiskRolloutEvidenceSource) : AppSupervisor :=
  { supervisor with
    negRiskRolloutEvidence := evidence
    negRiskRolloutEvidenceSource := evidenceSource
  }.retainCurrentNegRiskLiveExecutionRecords.retainCurrentNegRiskShadowExecutionRecords

def publishCurrentSnapshot (allowOperatorSynthesis : Bool) : AppSupervisor :=
  match supervisor.runtime.publishSnapshot (snapshotIdFor supervisor.runtime.stateVersion) with
  | (some snapshot, runtime) =>
      let evidence := supervisor.rolloutEvidenceForSnapshot snapshot allowOperatorSynthesis
      { supervisor with
        runtime
        dispatcher := supervisor.dispatcher.observeSnapshot snapshot
      }.installEvidence (some evidence.1) evidence.2
  | (none, runtime) => { supervisor with runtime }.installEvidence none .none

/-- The log has no entry twice and is ordered by sequence number. -/
def recordCommittedInput (input : InputTaskEvent) : AppSupervisor :=
  if input ∈ supervisor.committedLog then
    supervisor
  else
    { supervisor with
      committedLog := InputTaskEvent.sortByJournalSeq (supervisor.committedLog ++ [input]) }

/-- The notice of the discovered candidates, if there are any. -/
def candidateNotice (authoritative : Bool) : Option CandidateNotice := do
  let publication ← supervisor.runtime.candidatePublication
  let view ← publication.view
  if view.discoveryRecords.isEmpty then
    none
  else
    some (.fromPublicationWithAuthority publication [.candidates]
      supervisor.negRiskLiveTargetRevision supervisor.negRiskLiveTargets .eligible authoritative)

/-- Hand the candidates to discovery; a failure there is ignored. -/
def materializeCandidateArtifactsWithAuthority (env : SupervisorEnv) (authoritative : Bool) :
    AppSupervisor :=
  match supervisor.candidateNotice authoritative with
  | none => supervisor
  | some notice =>
      let notified := { supervisor with
        effects.notices := supervisor.effects.notices ++ [notice] }
      match env.persistNotice supervisor.effects.notices notice with
      | .error _ => notified
      | .ok report =>
          { notified with
            candidateRestoreStatus :=
              { latestCandidateRevision := report.candidateRevision
                latestAdoptableRevision := report.adoptableRevision
                latestCandidateOperatorTargetRevision := report.operatorTargetRevision
                adoptionProvenanceResolved :=
                  supervisor.candidateRestoreStatus.adoptionProvenanceResolved &&
                    report.operatorTargetRevision == supervisor.negRiskLiveTargetRevision } }

def flushDispatch : AppSupervisor :=
  { supervisor with dispatcher := supervisor.dispatcher.flush.2 }

def summary : SupervisorSummary :=
  let negRiskLiveAttemptCount := supervisor.negRiskLiveExecutionRecords.length
  { fullsetMode := .live
    negriskMode := if 0 < negRiskLiveAttemptCount then .live else .shadow
    realUserShadowSmoke := supervisor.realUserShadowSmokeEnabled
    negRiskLiveAttemptCount
    negRiskLiveStateSource := supervisor.negRiskLiveStateSource
    negRiskRolloutEvidenceSource := supervisor.negRiskRolloutEvidenceSource
    bootstrapStatus := supervisor.runtime.bootstrapStatus
    runtimeMode := supervisor.runtime.runtimeMode
    pendingReconcileCount := supervisor.runtime.pendingReconcileCount
    lastJournalSeq := supervisor.runtime.lastJournalSeq.getD 0
    lastStateVersion := supervisor.runtime.stateVersion
    publishedSnapshotId := supervisor.runtime.publishedSnapshotId
    publishedSnapshotCommittedJournalSeq :=
      supervisor.runtime.publishedSnapshotCommittedJournalSeq
    latestCandidateRevision := supervisor.candidateRestoreStatus.latestCandidateRevision
    latestAdoptableRevision := supervisor.candidateRestoreStatus.latestAdoptableRevision
    latestCandidateOperatorTargetRevision :=
      supervisor.candidateRestoreStatus.latestCandidateOperatorTargetRevision
    adoptionProvenanceResolved := supervisor.candidateRestoreStatus.adoptionProvenanceResolved
    negRiskRolloutEvidence := supervisor.negRiskRolloutEvidence
    globalPosture := supervisor.posture
    ingressBacklogCount := supervisor.inputTasks.len
    followUpBacklogCount := supervisor.runtime.pendingReconcileCount }

/-! ## Validation of a restored state -/

def validateRolloutEvidenceAnchor : Except SupervisorError Unit :=
  let committedStateVersion :=
    supervisor.seed.committedStateVersion.getD supervisor.seed.lastStateVersion
  let restoringEmptyHistory : Bool := supervisor.seed.lastJournalSeq.isNone &&
    committedStateVersion == 0 && supervisor.runtime.lastJournalSeq == some 0 &&
    supervisor.runtime.stateVersion == 0
  if supervisor.runtime.appMode ≠ .live then
    .ok ()
  else if restoringEmptyHistory && supervisor.seed.negRiskRolloutEvidence.isNone then
    .ok ()
  else if supervisor.runtime.stateVersion == 0 && supervisor.seed.publishedSnapshotId.isNone &&
      supervisor.negRiskRolloutEvidence.isNone then
    .ok ()
  else
    match supervisor.seed.negRiskRolloutEvidence, supervisor.negRiskRolloutEvidence with
    | some expected, some actual =>
        if expected = actual then
          .ok ()
        else
          .error ⟨s!"durable rollout gate evidence {expected.debug} did not match rebuilt evidence {
            actual.debug}"⟩
    | some expected, none =>
        .error ⟨s!"durable rollout gate evidence {expected.debug} could not be rebuilt"⟩
    | none, some _ => .error ⟨"durable rollout gate evidence is required to resume live state"⟩
    | none, none => .ok ()

def validateNegRiskLiveExecutionAnchor : Except SupervisorError Unit :=
  let liveReadyCount :=
    (supervisor.negRiskRolloutEvidence.map NegRiskRolloutEvidence.liveReadyFamilyCount).getD 0
  if supervisor.runtime.appMode ≠ .live || supervisor.realUserShadowSmokeEnabled ||
      liveReadyCount == 0 then
    .ok ()
  else if supervisor.negRiskLiveExecutionRecords.isEmpty then
    .error ⟨"durable neg-risk live attempt anchors are required to resume live state"⟩
  else
    match supervisor.runtime.publishedSnapshotId with
    | none => .error ⟨"durable neg-risk live attempt anchors require a published snapshot"⟩
    | some snapshotId =>
        if supervisor.negRiskLiveExecutionRecords.any (·.snapshotId != snapshotId) then
          .error ⟨"durable neg-risk live attempt anchors did not match the rebuilt snapshot"⟩
        else
          .ok ()

def validateNegRiskShadowExecutionAnchor : Except SupervisorError Unit :=
  if !supervisor.realUserShadowSmokeEnabled ||
      (supervisor.seed.negRiskShadowExecutionAttempts.isEmpty &&
        supervisor.seed.negRiskShadowExecutionArtifacts.isEmpty) then
    .ok ()
  else
    match supervisor.runtime.publishedSnapshotId with
    | none =>
        .error ⟨"real-user shadow smoke requires a published snapshot to retain shadow execution records"⟩
    | some snapshotId =>
        if supervisor.negRiskShadowExecutionAttempts.isEmpty ||
            supervisor.negRiskShadowExecutionArtifacts.isEmpty then
          .error
            ⟨"real-user shadow smoke requires retained shadow execution records after restore"⟩
        else if supervisor.negRiskShadowExecutionAttempts.any (·.snapshotId != snapshotId) then
          .error ⟨"real-user shadow smoke retained shadow execution records did not match the restored snapshot"⟩
        else
          .ok ()

def validateSeededStartupRestore : Except SupervisorError Unit := do
  if supervisor.seed.negRiskRolloutEvidence.isSome then
    supervisor.validateRolloutEvidenceAnchor
  if !supervisor.seed.negRiskLiveExecutionRecords.isEmpty then
    supervisor.validateNegRiskLiveExecutionAnchor

end AppSupervisor

end AxiomArb.AppLive
