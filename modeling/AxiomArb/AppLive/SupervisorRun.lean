import AxiomArb.AppLive.Supervisor

/-!
# The commands of the supervisor

The methods of `AppSupervisor` that may fail, as commands on it: a `?` of the
source is a bind, and what a failing method has changed stays changed.
-/

namespace AxiomArb.AppLive

open Domain Library State

abbrev SupervisorCommand := Command SupervisorError AppSupervisor

/-- The fact that a live submission was observed. -/
def liveSubmitInput (journalSeq : Int) (record : NegRiskLiveExecutionRecord) (submissionRef : String)
    (observedAt : DateTime) : InputTaskEvent :=
  .new journalSeq (.negriskLiveSubmitObserved "app-live-bootstrap" s!"live-submit-{record.attemptId}"
    record.attemptId record.scope submissionRef observedAt)

namespace AppSupervisor

def applyInput (input : InputTaskEvent) : SupervisorCommand ApplyResult := do
  let supervisor ← get
  let (outcome, runtime) := supervisor.runtime.applyInput input
  set { supervisor with runtime }
  match outcome with
  | .ok result => return result
  | .error error => throw { message := error.message }

section

variable (env : SupervisorEnv)

def readClock : SupervisorCommand DateTime := do
  let supervisor ← get
  set { supervisor with effects.clockReads := supervisor.effects.clockReads + 1 }
  return env.now supervisor.effects.clockReads

/-! ## Live submission -/

def applyLiveSubmitFactsFrom (lastJournalSeq : Int) (appliedRecordCount : Nat) :
    List NegRiskLiveExecutionRecord → SupervisorCommand Nat
  | [] => return appliedRecordCount
  | record :: records =>
      match record.reference with
      | none => applyLiveSubmitFactsFrom lastJournalSeq appliedRecordCount records
      | some submissionRef => do
          let nextJournalSeq := lastJournalSeq + 1
          let observedAt ← readClock env
          let input := liveSubmitInput nextJournalSeq record submissionRef observedAt
          let result ← applyInput input
          modify fun supervisor ↦
            match result with
            | .applied _ stateVersion dirtySet =>
                { supervisor with
                  dispatcher := supervisor.dispatcher.recordApply stateVersion dirtySet
                }.publishCurrentSnapshot false
            | .duplicate .. | .deferred .. | .reconcileRequired .. => supervisor
          modify fun supervisor ↦ supervisor.recordCommittedInput input
          let supervisor ← get
          -- pending work ends the loop, and with it the facts of the later records
          if 0 < supervisor.runtime.pendingReconcileCount then
            return appliedRecordCount + 1
          else
            applyLiveSubmitFactsFrom nextJournalSeq (appliedRecordCount + 1) records

/-- Apply a submit fact for each record with a reference, and count them. -/
def applyLiveSubmitFacts (records : List NegRiskLiveExecutionRecord) : SupervisorCommand Nat := do
  let supervisor ← get
  applyLiveSubmitFactsFrom env (supervisor.runtime.lastJournalSeq.getD 0) 0 records

/-- The snapshot under which a refresh goes to work, past its early returns. -/
def refreshSnapshotId (supervisor : AppSupervisor) (allowOperatorSynthesis : Bool) :
    Option String :=
  if supervisor.runtime.appMode ≠ .live || !allowOperatorSynthesis then
    none
  else if supervisor.realUserShadowSmokeEnabled && !supervisor.negRiskShadowExecutionAttempts.isEmpty then
    none
  else if !supervisor.realUserShadowSmokeEnabled && !supervisor.negRiskLiveExecutionRecords.isEmpty then
    none
  else
    match supervisor.runtime.publishedSnapshotId, supervisor.negRiskRolloutEvidence with
    | some snapshotId, some rolloutEvidence =>
        if rolloutEvidence.liveReadyFamilyCount = 0 then none else some snapshotId
    | _, _ => none

def persistShadowRecords (batch : ShadowBatch) : SupervisorCommand Unit := do
  let supervisor ← get
  liftM ((env.persistShadow supervisor.effects.shadowBatches batch).mapError SupervisorError.mk)
  modify fun supervisor ↦ { supervisor with
    effects.shadowBatches := supervisor.effects.shadowBatches ++ [batch] }

def refreshShadowRecords (snapshotId : String) : SupervisorCommand Unit := do
  let supervisor ← get
  let records ← liftM
    ((eligibleShadowRecordsWithRunSessionId env.executeShadowFamily snapshotId
      supervisor.negRiskLiveTargets supervisor.negRiskLiveApprovedFamilies
      supervisor.negRiskLiveReadyFamilies supervisor.runSessionId).mapError
        fun error ↦ SupervisorError.mk error.toString)
  let attempts := records.map NegRiskShadowExecutionRecord.attempt
  let artifacts := records.flatMap NegRiskShadowExecutionRecord.artifacts
  (if supervisor.durableShadowPersistenceEnabled then
    persistShadowRecords env { attempts, artifacts, runSessionId := supervisor.runSessionId }
  else
    pure ())
  modify fun supervisor ↦ { supervisor with
    negRiskShadowExecutionAttempts := attempts
    negRiskShadowExecutionArtifacts := artifacts
    negRiskLiveExecutionRecords := []
    negRiskLiveStateSource := .none }

def backend (supervisor : AppSupervisor) : NegRiskLiveExecutionBackend :=
  supervisor.negRiskLiveExecutionBackend.getD env.hookBackend

/-- Submit the eligible families to the venue. -/
def executeLiveRecords (snapshotId : String) :
    SupervisorCommand (List NegRiskLiveExecutionRecord) := do
  let supervisor ← get
  focus (fun supervisor ↦ supervisor.effects.venueCalls)
    (fun supervisor venueCalls ↦ { supervisor with effects.venueCalls := venueCalls })
    (fun error ↦ { message := error.toString })
    (eligibleLiveRecordsWithBackend snapshotId supervisor.negRiskLiveTargets
      supervisor.negRiskLiveApprovedFamilies supervisor.negRiskLiveReadyFamilies
      (supervisor.backend env))

def persistLiveRecords (records : List NegRiskLiveExecutionRecord) : SupervisorCommand Unit := do
  let supervisor ← get
  focus (fun supervisor ↦ supervisor.effects.liveSubmissions)
    (fun supervisor liveSubmissions ↦
      { supervisor with effects.liveSubmissions := liveSubmissions })
    SupervisorError.mk
    (persistLiveExecutionRecords env.liveDatabase records supervisor.runSessionId)

/-- Persist the records where that is enabled, and hold them. -/
def keepLiveRecords (appliedRecords : List NegRiskLiveExecutionRecord) : SupervisorCommand Unit := do
  let supervisor ← get
  (if supervisor.durableLivePersistenceEnabled then
    persistLiveRecords env appliedRecords
  else
    pure ())
  modify fun supervisor ↦ { supervisor with
    negRiskLiveExecutionRecords := appliedRecords
    negRiskLiveStateSource := if appliedRecords.isEmpty then .none else .syntheticBootstrap }

/-- Apply the submit facts, and keep as many records as there were facts. -/
def recordLiveSubmissions (records : List NegRiskLiveExecutionRecord) : SupervisorCommand Unit := do
  let appliedRecordCount ← applyLiveSubmitFacts env records
  keepLiveRecords env (records.take appliedRecordCount)

def refreshLiveRecords (snapshotId : String) : SupervisorCommand Unit := do
  let records ← executeLiveRecords env snapshotId
  recordLiveSubmissions env records

def refreshNegRiskLiveExecutionRecords (allowOperatorSynthesis : Bool) :
    SupervisorCommand Unit := do
  let supervisor ← get
  match supervisor.refreshSnapshotId allowOperatorSynthesis with
  | none => return
  | some snapshotId =>
      if supervisor.realUserShadowSmokeEnabled then
        refreshShadowRecords env snapshotId
      else
        refreshLiveRecords env snapshotId

/-! ## Draining the ingress queue -/

/-- Apply one queued input; the result says whether it changed the candidates. -/
def drainInput (input : InputTaskEvent) : SupervisorCommand Bool := do
  let result ← applyInput input
  match result with
  | .applied _ stateVersion dirtySet =>
      modify fun supervisor ↦
        let supervisor := { supervisor with
          dispatcher := supervisor.dispatcher.recordApply stateVersion dirtySet
        }.recordCommittedInput input
        { supervisor with inputTasks := supervisor.inputTasks.remove input
        }.publishCurrentSnapshot false
      return dirtySet.domains.contains .candidates
  | .duplicate .. | .deferred .. | .reconcileRequired .. =>
      modify fun supervisor ↦
        let supervisor := supervisor.recordCommittedInput input
        { supervisor with inputTasks := supervisor.inputTasks.remove input }
      return false

/-- The loop over the queue.  Each round takes one input out, so the length of the
queue is fuel enough.  An authoritative drain leaves the candidates to the end. -/
def drainInputTasksFrom (authoritative : Bool) (durableAnchor : Option Int) :
    Nat → Nat → Bool → SupervisorCommand (Nat × Bool)
  | 0, processedCount, candidateDirtySeen => return (processedCount, candidateDirtySeen)
  | fuel + 1, processedCount, candidateDirtySeen => do
      let supervisor ← get
      match supervisor.inputTasks.nextAfter durableAnchor with
      | none => return (processedCount, candidateDirtySeen)
      | some input => do
          let candidateDirty ← drainInput input
          modify fun supervisor ↦
            if candidateDirty && !authoritative then
              supervisor.materializeCandidateArtifactsWithAuthority env false
            else
              supervisor
          drainInputTasksFrom authoritative durableAnchor fuel (processedCount + 1)
            (candidateDirtySeen || candidateDirty)

def drainInputTasks : SupervisorCommand Nat := do
  let supervisor ← get
  let (processedCount, _) ← drainInputTasksFrom env false supervisor.runtime.lastJournalSeq
    supervisor.inputTasks.len 0 false
  return processedCount

def drainInputTasksAuthoritativeDiscovery : SupervisorCommand Nat := do
  let supervisor ← get
  let (processedCount, candidateDirtySeen) ← drainInputTasksFrom env true
    supervisor.runtime.lastJournalSeq supervisor.inputTasks.len 0 false
  modify fun supervisor ↦
    if candidateDirtySeen then supervisor.materializeCandidateArtifactsWithAuthority env true
    else supervisor
  return processedCount

end

/-! ## Startup -/

/-- Forget what this process has observed, before a restore. -/
def resetForRestore (supervisor : AppSupervisor) : AppSupervisor :=
  { supervisor with
    runtime := .new supervisor.runtime.appMode
    negRiskRolloutEvidence := none
    negRiskRolloutEvidenceSource := .none
    negRiskLiveExecutionRecords := []
    negRiskLiveStateSource := .none
    negRiskShadowExecutionAttempts := []
    negRiskShadowExecutionArtifacts := [] }

/-- Take over the records the seed knows of, as far as they are current. -/
def restoreSeededRecords (supervisor : AppSupervisor) : AppSupervisor :=
  { supervisor with
    negRiskLiveExecutionRecords := supervisor.seed.negRiskLiveExecutionRecords
    negRiskLiveStateSource :=
      if supervisor.seed.negRiskLiveExecutionRecords.isEmpty then .none else .durableRestore
    negRiskShadowExecutionAttempts := supervisor.seed.negRiskShadowExecutionAttempts
    negRiskShadowExecutionArtifacts := supervisor.seed.negRiskShadowExecutionArtifacts
  }.retainCurrentNegRiskLiveExecutionRecords.retainCurrentNegRiskShadowExecutionRecords

/-- The pending work a seed promises is what its anchors leave. -/
def validateRestoredPendingCount (supervisor : AppSupervisor) : Except SupervisorError Unit :=
  match supervisor.seed.pendingReconcileCount with
  | some expected =>
      if supervisor.runtime.pendingReconcileCount ≠ expected then
        .error ⟨s!"durable pending reconcile count {expected} did not match restored count {
          supervisor.runtime.pendingReconcileCount}"⟩
      else
        .ok ()
  | none => .ok ()

/-- Restore the anchors of the seed. -/
def restoreRuntime (lastJournalSeq : Int) : SupervisorCommand Unit := do
  modify fun supervisor ↦
    let committedStateVersion :=
      supervisor.seed.committedStateVersion.getD supervisor.seed.lastStateVersion
    { supervisor with
      runtime := supervisor.seed.pendingReconcileAnchors.foldl
        AppRuntime.restorePendingReconcileAnchor
        (supervisor.runtime.restoreCommittedAnchor committedStateVersion lastJournalSeq) }
  let supervisor ← get
  liftM supervisor.validateRestoredPendingCount

/-- Publish what was restored, with the records the seed knows of. -/
def publishRestored : SupervisorCommand Unit := do
  modify fun supervisor ↦ (supervisor.publishCurrentSnapshot false).restoreSeededRecords
  let supervisor ← get
  liftM supervisor.validateNegRiskShadowExecutionAnchor

def restoreSeededStartupState : SupervisorCommand Unit := do
  modify fun supervisor ↦
    { supervisor.resetForRestore with
      candidateRestoreStatus := supervisor.seed.candidateRestoreStatus }
  let supervisor ← get
  match supervisor.seed.lastJournalSeq with
  | none =>
      throw { message :=
        "durable last journal sequence is required to restore seeded startup state" }
  | some lastJournalSeq => do
      restoreRuntime lastJournalSeq
      publishRestored

/-- Bring a runtime that is not ready up, from the seed or from the venue. -/
def startUp : SupervisorCommand Unit := do
  let supervisor ← get
  if supervisor.restoringSeededStartup then
    restoreSeededStartupState
  else if supervisor.runtime.bootstrapStatus ≠ .ready then
    set { supervisor with runtime := (supervisor.runtime.bootstrapOnce supervisor.bootstrapSnapshot).2 }

variable (env : SupervisorEnv)

/-- Publish, and submit the families if the operator's word is enough. -/
def publishAndRefresh : SupervisorCommand Unit := do
  let supervisor ← get
  let allowOperatorSynthesis := supervisor.allowOperatorRolloutEvidenceSynthesis
  modify fun supervisor ↦ supervisor.publishCurrentSnapshot allowOperatorSynthesis
  refreshNegRiskLiveExecutionRecords env allowOperatorSynthesis

/-- The end of every run: check the live records, flush, summarise. -/
def finishRun : SupervisorCommand SupervisorSummary := do
  let supervisor ← get
  liftM supervisor.validateNegRiskLiveExecutionAnchor
  modify flushDispatch
  let supervisor ← get
  return supervisor.summary

/-- What a run does once it has published and submitted. -/
def endRun (restoringSeededStartup : Bool) : SupervisorCommand SupervisorSummary := do
  let supervisor ← get
  liftM (if restoringSeededStartup then supervisor.validateSeededStartupRestore else .ok ())
  let _ ← drainInputTasks env
  finishRun

def runOnce : SupervisorCommand SupervisorSummary := do
  let supervisor ← get
  let restoringSeededStartup := supervisor.restoringSeededStartup
  startUp
  publishAndRefresh env
  endRun env restoringSeededStartup

/-- The source panics where this fails. -/
def runBootstrap : SupervisorCommand (ReconcileReport × SupervisorSummary) := do
  let supervisor ← get
  let (report, runtime) := supervisor.runtime.bootstrapOnce supervisor.bootstrapSnapshot
  set { supervisor with runtime }
  publishAndRefresh env
  modify flushDispatch
  let supervisor ← get
  return (report, supervisor.summary)

/-! ## Resuming from a committed log -/

/-- Rebuild the runtime from the committed log, and compare it with the seed. -/
def rebuildRuntime : SupervisorCommand Unit := do
  modify fun supervisor ↦
    { supervisor.resetForRestore with candidateRestoreStatus := .default }
  let supervisor ← get
  let seed := supervisor.seed
  let committedStateVersion := seed.committedStateVersion.getD seed.lastStateVersion
  let lastJournalSeq ←
    match seed.lastJournalSeq with
    | some lastJournalSeq => pure lastJournalSeq
    | none =>
        if committedStateVersion = 0 ∧ supervisor.committedLog = [] then
          pure 0
        else
          throw { message :=
            "durable last journal sequence is required to resume committed state" }
  let (outcome, runtime) := supervisor.runtime.replayCommittedHistory supervisor.committedLog
  set { supervisor with runtime }
  match outcome with
  | .ok () => pure ()
  | .error error => throw { message := error.message }
  let runtime := if seed.pendingReconcileCount = some 0 then
    runtime.clearPendingReconcileAfterRestore else runtime
  set { supervisor with runtime, candidateRestoreStatus := seed.candidateRestoreStatus }
  match seed.pendingReconcileCount with
  | some expected =>
      if expected ≠ 0 ∧ runtime.pendingReconcileCount ≠ expected then
        throw { message :=
          s!"durable pending reconcile count {expected} did not match rebuilt count {
            runtime.pendingReconcileCount}" }
  | none =>
      if runtime.pendingReconcileCount ≠ 0 then
        throw { message :=
          "durable pending reconcile count is required to resume pending follow-up work" }
  if runtime.stateVersion ≠ committedStateVersion then
    throw { message :=
      s!"durable history rebuilt state version {runtime.stateVersion} but expected {
        committedStateVersion}" }
  if runtime.lastJournalSeq ≠ some lastJournalSeq then
    throw { message :=
      s!"durable history rebuilt last journal seq {runtime.lastJournalSeq.getD 0} but expected {
        lastJournalSeq}" }

def resumeOnce : SupervisorCommand SupervisorSummary := do
  rebuildRuntime
  modify fun supervisor ↦
    if 0 < supervisor.runtime.stateVersion ∨ supervisor.seed.publishedSnapshotId.isSome ∨
        supervisor.seed.lastStateVersion = 0 then
      (supervisor.publishCurrentSnapshot false).restoreSeededRecords
    else
      supervisor.restoreSeededRecords
  let supervisor ← get
  liftM supervisor.validateNegRiskShadowExecutionAnchor
  liftM supervisor.validateRolloutEvidenceAnchor
  let _ ← drainInputTasks env
  modify fun supervisor ↦
    if supervisor.runtime.publishedSnapshotId.isNone ∧ 0 < supervisor.runtime.stateVersion then
      supervisor.publishCurrentSnapshot false
    else
      supervisor
  finishRun

/-! ## Seeding -/

/-- The operations by which a supervisor is set up, one for each `seed_`, `enable_`
and `set_` method. -/
inductive SeedOp where
  | runtimeProgress (lastJournalSeq : Int) (lastStateVersion : Nat)
      (publishedSnapshotId : Option String)
  | committedStateVersion (committedStateVersion : Nat)
  | pendingReconcileCount (pendingReconcileCount : Nat)
  | pendingReconcileAnchor (anchor : PendingReconcileAnchor)
  | negRiskRolloutEvidence (evidence : NegRiskRolloutEvidence)
  | candidateRestoreStatus (status : CandidateRestoreStatus)
  | negRiskLiveTargets (targets : BTreeMap String NegRiskFamilyLiveTarget)
  | negRiskLiveApproval (familyId : String)
  | negRiskLiveReadyFamily (familyId : String)
  | negRiskLiveExecutionRecord (record : NegRiskLiveExecutionRecord)
  | negRiskShadowExecutionAttempt (attempt : ExecutionAttemptRow)
  | negRiskShadowExecutionArtifact (artifact : ShadowExecutionArtifactRow)
  | negRiskLiveExecutionBackend (backend : NegRiskLiveExecutionBackend)
  | committedInput (input : InputTaskEvent)
  | unappliedJournalEntry (journalSeq : Int) (input : InputTaskEvent)
  | enableRealUserShadowSmoke
  | enableDurableShadowPersistence
  | enableDurableLivePersistence
  | runSessionId (runSessionId : String)

section

variable (supervisor : AppSupervisor)

def seedUnappliedJournalEntry (journalSeq : Int) (input : InputTaskEvent) : AppSupervisor :=
  { supervisor with inputTasks := supervisor.inputTasks.push { input with journalSeq } }

def seedNegRiskLiveTargets (targets : BTreeMap String NegRiskFamilyLiveTarget) : AppSupervisor :=
  { supervisor with
    negRiskLiveTargetRevision :=
      if targets.isEmpty then none else some (env.liveTargetRevision targets)
    negRiskLiveTargets := targets }

def seedWith (seed : RuntimeSeed) : AppSupervisor := { supervisor with seed }

def applySeed : SeedOp → AppSupervisor
  | .runtimeProgress lastJournalSeq lastStateVersion publishedSnapshotId =>
      supervisor.seedWith { supervisor.seed with
        lastJournalSeq := some lastJournalSeq, lastStateVersion, publishedSnapshotId }
  | .committedStateVersion committedStateVersion =>
      supervisor.seedWith { supervisor.seed with
        committedStateVersion := some committedStateVersion }
  | .pendingReconcileCount pendingReconcileCount =>
      supervisor.seedWith { supervisor.seed with
        pendingReconcileCount := some pendingReconcileCount }
  | .pendingReconcileAnchor anchor =>
      supervisor.seedWith { supervisor.seed with
        pendingReconcileAnchors := supervisor.seed.pendingReconcileAnchors ++ [anchor] }
  | .negRiskRolloutEvidence evidence =>
      supervisor.seedWith { supervisor.seed with negRiskRolloutEvidence := some evidence }
  | .candidateRestoreStatus status =>
      { supervisor.seedWith { supervisor.seed with candidateRestoreStatus := status } with
        candidateRestoreStatus := status }
  | .negRiskLiveTargets targets => supervisor.seedNegRiskLiveTargets env targets
  | .negRiskLiveApproval familyId =>
      { supervisor with
        negRiskLiveApprovedFamilies := supervisor.negRiskLiveApprovedFamilies.insert familyId }
  | .negRiskLiveReadyFamily familyId =>
      { supervisor with
        negRiskLiveReadyFamilies := supervisor.negRiskLiveReadyFamilies.insert familyId }
  | .negRiskLiveExecutionRecord record =>
      supervisor.seedWith { supervisor.seed with
        negRiskLiveExecutionRecords := supervisor.seed.negRiskLiveExecutionRecords ++ [record] }
  | .negRiskShadowExecutionAttempt attempt =>
      supervisor.seedWith { supervisor.seed with
        negRiskShadowExecutionAttempts :=
          supervisor.seed.negRiskShadowExecutionAttempts ++ [attempt] }
  | .negRiskShadowExecutionArtifact artifact =>
      supervisor.seedWith { supervisor.seed with
        negRiskShadowExecutionArtifacts :=
          supervisor.seed.negRiskShadowExecutionArtifacts ++ [artifact] }
  | .negRiskLiveExecutionBackend backend =>
      { supervisor with negRiskLiveExecutionBackend := some backend }
  | .committedInput input => supervisor.recordCommittedInput input
  | .unappliedJournalEntry journalSeq input => supervisor.seedUnappliedJournalEntry journalSeq input
  | .enableRealUserShadowSmoke => { supervisor with realUserShadowSmokeEnabled := true }
  | .enableDurableShadowPersistence => { supervisor with durableShadowPersistenceEnabled := true }
  | .enableDurableLivePersistence => { supervisor with durableLivePersistenceEnabled := true }
  | .runSessionId runSessionId => { supervisor with runSessionId := some runSessionId }

end

/-! ## Discovery -/

def runAuthoritativeDiscoveryOnce
    (renderedLiveTargets : BTreeMap String NegRiskFamilyLiveTarget) (inputs : List InputTaskEvent) :
    SupervisorCommand SupervisorSummary := do
  modify fun supervisor ↦ inputs.foldl
    (fun supervisor input ↦ supervisor.seedUnappliedJournalEntry input.journalSeq input)
    (supervisor.seedNegRiskLiveTargets env renderedLiveTargets)
  modify fun supervisor ↦
    if supervisor.runtime.bootstrapStatus ≠ .ready then
      { supervisor with
        runtime := (supervisor.runtime.bootstrapOnce supervisor.bootstrapSnapshot).2 }
    else
      supervisor
  publishAndRefresh env
  let _ ← drainInputTasksAuthoritativeDiscovery env
  finishRun

end AppSupervisor

end AxiomArb.AppLive
