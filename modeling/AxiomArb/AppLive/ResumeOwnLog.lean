import AxiomArb.AppLive.LiveHistory

/-!
# Resuming from one's own history

A supervisor writes down what it commits, the live records it holds and what its last
summary says.  A fresh supervisor that is told all this resumes: it replays the log and
compares the outcome with what it was told.  The module says exactly for which logs it
comes to where the run has come.
-/

namespace AxiomArb.State

open Library

/-- A fact has settled if some fact asked for a reconcile; and if no work is left open, no
fact has asked for one since the last that settled. -/
def FollowUpLedger.Resumable (ledger : FollowUpLedger) : Prop :=
  (ledger.asked = true → ledger.settled ≠ []) ∧
    (ledger.openWork = ∅ → ledger.unsettled = false)

instance (ledger : FollowUpLedger) : Decidable ledger.Resumable :=
  inferInstanceAs (Decidable (_ ∧ _))

end AxiomArb.State

namespace AxiomArb.AppLive

open Domain Library State

/-! ## The rebuilt store -/

namespace AppRuntime

variable {runtime : AppRuntime} {replica : StateStore} {ledger : FollowUpLedger}

/-- Work is open only where a fact has asked for a reconcile. -/
theorem Simulates.asked_of_open (h : Simulates runtime replica ledger)
    (hopen : ledger.openWork ≠ ∅) : ledger.asked = true := by
  by_contra hquiet
  exact hopen (h.quiet (Bool.eq_false_iff.mpr hquiet)).1

/-- What a replay leaves once its posture is set: all that the live store has, but for the
number applied last. -/
theorem Simulates.restored (h : Simulates runtime replica ledger) :
    (restorePosture replica ledger.asked).stateVersion = runtime.stateVersion ∧
    (restorePosture replica ledger.asked).lastConsumedJournalSeq = runtime.lastJournalSeq ∧
    (restorePosture replica ledger.asked).pendingReconcileAnchors = ledger.openWork ∧
    (restorePosture replica ledger.asked).firstReconcileSucceeded = true ∧
    ((restorePosture replica ledger.asked).lastAppliedJournalSeq = none ↔
      ledger.asked = true ∧ ledger.settled = []) ∧
    (ledger.asked = true → (restorePosture replica ledger.asked).runtimeMode = .reconciling) := by
  have hpending : replica.pendingReconcileAnchors = ledger.openWork :=
    h.mirror.pending.symm.trans h.live.openWork
  have hconsumed : replica.lastConsumedJournalSeq ≠ none →
      replica.lastConsumedJournalSeq = runtime.lastJournalSeq := by
    intro hsome
    obtain ⟨seq, hseq⟩ := Option.ne_none_iff_exists'.mp hsome
    rw [AppRuntime.lastJournalSeq, h.mirror.consumed, hseq]
    rfl
  unfold restorePosture
  cases hasked : ledger.asked with
  | true =>
      rw [if_pos rfl]
      refine ⟨h.mirror.stateVersion.symm, hconsumed fun hnone ↦ ?_, hpending, rfl, ?_, fun _ ↦ rfl⟩
      · have hquiet := (h.anchored.consumed.mp hnone).2
        rw [hasked] at hquiet
        cases hquiet
      · rw [and_iff_right rfl]
        exact h.anchored.applied
  | false =>
      rw [if_neg Bool.false_ne_true]
      have hempty : ledger.openWork = ∅ := (h.quiet hasked).1
      cases hlast : replica.lastAppliedJournalSeq with
      | none =>
          have hnothing : replica.lastConsumedJournalSeq = none :=
            h.anchored.consumed.mpr ⟨h.anchored.applied.mp hlast, hasked⟩
          rw [Option.isNone_none, if_pos rfl]
          refine ⟨?_, ?_, by simp [hempty], by simp, by simp [hlast],
            (absurd · Bool.false_ne_true)⟩
          · rw [(StateStore.markReconciledAfterRestore_fields replica 0).1]
            exact h.mirror.stateVersion.symm
          · rw [(StateStore.markReconciledAfterRestore_fields replica 0).2.1, if_pos hlast,
              AppRuntime.lastJournalSeq, h.mirror.consumed, hnothing]
            rfl
      | some seq =>
          rw [Option.isNone_some, if_neg Bool.false_ne_true]
          refine ⟨h.mirror.stateVersion.symm, hconsumed fun hnone ↦ ?_, hpending, rfl, ?_,
            (absurd · Bool.false_ne_true)⟩
          · rw [h.anchored.applied.mpr (h.anchored.consumed.mp hnone).1] at hlast
            cases hlast
          · simp [StateStore.restoreReconciledPolicy, StateStore.applyPolicy, hlast]

end AppRuntime

namespace AppSupervisor

open AppRuntime

variable {env : SupervisorEnv} {supervisor supervisor' : AppSupervisor}
  {summary : SupervisorSummary}

/-! ## The seeds -/

/-- The seeds that set a live supervisor up for its families. -/
def SeedOp.Configures : SeedOp → Prop
  | .negRiskLiveTargets _ | .negRiskLiveApproval _ | .negRiskLiveReadyFamily _
  | .negRiskLiveExecutionBackend _ | .enableDurableShadowPersistence
  | .enableDurableLivePersistence | .runSessionId _ => True
  | _ => False

/-- The seeds that tell a supervisor what another has left: its log, its live records and
what its last summary says. -/
def ownHistory (supervisor : AppSupervisor) (summary : SupervisorSummary) : List SeedOp :=
  supervisor.committedLog.map .committedInput ++
    (supervisor.negRiskLiveExecutionRecords.map .negRiskLiveExecutionRecord ++
      ([.runtimeProgress summary.lastJournalSeq summary.lastStateVersion
          summary.publishedSnapshotId,
        .pendingReconcileCount summary.pendingReconcileCount] ++
        summary.negRiskRolloutEvidence.toList.map .negRiskRolloutEvidence))

/-- What a supervisor knows by these seeds. -/
def ownSeed (supervisor : AppSupervisor) (summary : SupervisorSummary) : RuntimeSeed :=
  { RuntimeSeed.default with
    lastJournalSeq := some summary.lastJournalSeq
    lastStateVersion := summary.lastStateVersion
    publishedSnapshotId := summary.publishedSnapshotId
    pendingReconcileCount := some summary.pendingReconcileCount
    negRiskRolloutEvidence := summary.negRiskRolloutEvidence
    negRiskLiveExecutionRecords := supervisor.negRiskLiveExecutionRecords }

/-- A supervisor that has been configured and has not run. -/
structure New (supervisor : AppSupervisor) : Prop extends Fresh supervisor where
  setup : Configured supervisor.setup
  inputs : supervisor.inputTasks = .empty

theorem new_seededLive (env : SupervisorEnv) {config : List SeedOp}
    (h : ∀ seed ∈ config, seed.Configures) : New (seededLive env .empty config) := by
  have hfold : ∀ start, New start → New (config.foldl (applySeed env) start) := by
    induction config with
    | nil => exact fun _ ↦ id
    | cons seed config ih =>
        intro start hstart
        refine ih (fun other hother ↦ h other (List.mem_cons_of_mem seed hother)) _ ?_
        have hseed := h seed List.mem_cons_self
        cases seed <;> first | exact hseed.elim | exact { hstart with setup := { hstart.setup with } }
  exact hfold _ ⟨⟨rfl, rfl, rfl, rfl⟩, ⟨rfl, rfl, rfl, rfl⟩, rfl⟩

theorem recordCommittedInput_eq (supervisor : AppSupervisor) (input : InputTaskEvent) :
    supervisor.recordCommittedInput input =
      { supervisor with committedLog := commitTo supervisor.committedLog input } := by
  unfold recordCommittedInput commitTo
  split <;> rfl

/-- A log that is told in order is known as it was. -/
theorem foldl_committedInput {log : List InputTaskEvent}
    (hlog : (supervisor.committedLog ++ log).Pairwise fun input later ↦
      input.journalSeq < later.journalSeq) :
    (log.map SeedOp.committedInput).foldl (applySeed env) supervisor =
      { supervisor with committedLog := supervisor.committedLog ++ log } := by
  induction log generalizing supervisor with
  | nil => simp
  | cons input log ih =>
      have happend : commitTo supervisor.committedLog input = supervisor.committedLog ++ [input] :=
        commitTo_eq_append (List.pairwise_append.mp hlog).1 fun other hother ↦
          (List.pairwise_append.mp hlog).2.2 other hother input List.mem_cons_self
      rw [List.append_cons] at hlog
      rw [List.map_cons, List.foldl_cons]
      simp only [applySeed, recordCommittedInput_eq, happend]
      rw [ih hlog]
      simp

theorem foldl_negRiskLiveExecutionRecord (records : List NegRiskLiveExecutionRecord) :
    (records.map SeedOp.negRiskLiveExecutionRecord).foldl (applySeed env) supervisor =
      { supervisor with
        seed.negRiskLiveExecutionRecords :=
          supervisor.seed.negRiskLiveExecutionRecords ++ records } := by
  induction records generalizing supervisor with
  | nil => simp
  | cons record records ih =>
      rw [List.map_cons, List.foldl_cons, ih]
      simp [applySeed, seedWith]

/-- A new supervisor that has been told. -/
def told (fresh supervisor : AppSupervisor) (summary : SupervisorSummary) : AppSupervisor :=
  { fresh with
    committedLog := supervisor.committedLog
    seed := ownSeed supervisor summary }

theorem foldl_ownHistory {fresh : AppSupervisor} (hnew : New fresh) (h : LogTells supervisor) :
    (ownHistory supervisor summary).foldl (applySeed env) fresh = told fresh supervisor summary := by
  rw [ownHistory, List.foldl_append, List.foldl_append, List.foldl_append,
    foldl_committedInput (by rw [hnew.committed]; exact h.ascending),
    foldl_negRiskLiveExecutionRecord]
  cases hevidence : summary.negRiskRolloutEvidence <;>
    simp [applySeed, seedWith, told, ownSeed, hnew.committed, hnew.seed, hevidence,
      RuntimeSeed.default]

/-! ## Rebuilding -/

/-- A replayed runtime, without its pending work where the seed promises none. -/
def rebuilt (runtime : AppRuntime) (expected : Nat) : AppRuntime :=
  if expected = 0 then runtime.clearPendingReconcileAfterRestore else runtime

theorem rebuilt_frame (runtime : AppRuntime) (expected : Nat) :
    (rebuilt runtime expected).stateVersion = runtime.stateVersion ∧
    (rebuilt runtime expected).lastJournalSeq = runtime.lastJournalSeq ∧
    (rebuilt runtime expected).store.lastAppliedJournalSeq = runtime.store.lastAppliedJournalSeq ∧
    (rebuilt runtime expected).appMode = runtime.appMode := by
  obtain ⟨hversion, hconsumed, happlied, -⟩ :=
    StateStore.clearPendingReconcileAfterRestore_fields runtime.store
  unfold rebuilt
  split
  · exact ⟨hversion, hconsumed, happlied, rfl⟩
  · exact ⟨rfl, rfl, rfl, rfl⟩

/-- A supervisor that has rebuilt its runtime. -/
def withRebuilt (supervisor : AppSupervisor) (runtime : AppRuntime) (expected : Nat) :
    AppSupervisor :=
  { supervisor.resetForRestore with
    runtime := rebuilt runtime expected
    candidateRestoreStatus := supervisor.seed.candidateRestoreStatus }

/-- A replay that comes to what the seed says is taken over. -/
theorem exec_rebuildRuntime {runtime : AppRuntime} {expected : Nat} {seq : Int}
    (hreplay : (AppRuntime.new supervisor.runtime.appMode).replayCommittedHistory
      supervisor.committedLog = (.ok ⟨⟩, runtime))
    (hseq : supervisor.seed.lastJournalSeq = some seq)
    (hexpected : supervisor.seed.pendingReconcileCount = some expected)
    (hcount : runtime.pendingReconcileCount = expected)
    (hversion : runtime.stateVersion =
      supervisor.seed.committedStateVersion.getD supervisor.seed.lastStateVersion)
    (hlast : runtime.lastJournalSeq = some seq) :
    exec rebuildRuntime supervisor = (.ok ⟨⟩, supervisor.withRebuilt runtime expected) := by
  have hreset : supervisor.resetForRestore.runtime.replayCommittedHistory
      supervisor.resetForRestore.committedLog = (.ok ⟨⟩, runtime) := hreplay
  have hseed : supervisor.resetForRestore.seed = supervisor.seed := rfl
  obtain ⟨hversion', hlast', -⟩ := rebuilt_frame runtime expected
  rw [hversion] at hversion'
  rw [hlast] at hlast'
  have hcount' : ¬ (expected ≠ 0 ∧ (rebuilt runtime expected).pendingReconcileCount ≠ expected) := by
    rintro ⟨hsome, hdiffers⟩
    rw [rebuilt, if_neg hsome] at hdiffers
    exact hdiffers hcount
  rw [rebuilt] at hversion' hlast' hcount'
  simp only [rebuildRuntime, exec_bind, exec_modify, exec_get, exec_set, exec_pure, hreset, hseed,
    hseq, hexpected, Option.some.injEq]
  rw [if_neg hcount', if_neg (not_not.mpr hversion'), if_neg (not_not.mpr hlast')]
  rfl

/-! ## What a resume does with it -/

/-- A supervisor that has published what it rebuilt, and taken its records over. -/
def restored (supervisor : AppSupervisor) : AppSupervisor :=
  (supervisor.publishCurrentSnapshot false).restoreSeededRecords

/-- The rest of a resume that finds its queue empty: the evidence must be the one the seed
has. -/
theorem exec_resumeOnce (hrebuilt : exec rebuildRuntime supervisor = (.ok ⟨⟩, supervisor'))
    (hpublished : supervisor'.seed.publishedSnapshotId.isSome = true)
    (hsmoke : supervisor'.realUserShadowSmokeEnabled = false)
    (hinputs : supervisor'.inputTasks = .empty) :
    exec (resumeOnce env) supervisor =
      match supervisor'.restored.validateRolloutEvidenceAnchor with
      | .error error => (.error error, supervisor'.restored)
      | .ok _ =>
          exec finishRun
            (if supervisor'.restored.runtime.publishedSnapshotId.isNone ∧
                0 < supervisor'.restored.runtime.stateVersion then
              supervisor'.restored.publishCurrentSnapshot false
            else supervisor'.restored) := by
  obtain ⟨hsetup, -, -, hqueue, -⟩ := restoreSeededRecords_frame
    (supervisor'.publishCurrentSnapshot false)
  obtain ⟨hsetup', -, -, hqueue', -⟩ := publishCurrentSnapshot_frame supervisor' false
  have hsmoke' : supervisor'.restored.realUserShadowSmokeEnabled = false :=
    (congrArg Setup.realUserShadowSmokeEnabled (hsetup.trans hsetup')).trans hsmoke
  have hinputs' : supervisor'.restored.inputTasks = .empty := (hqueue.trans hqueue').trans hinputs
  have hshadow : supervisor'.restored.validateNegRiskShadowExecutionAnchor = .ok ⟨⟩ := by
    rw [validateNegRiskShadowExecutionAnchor, hsmoke']
    rfl
  have hdrain : exec (drainInputTasks env) supervisor'.restored = (.ok 0, supervisor'.restored) := by
    simp only [drainInputTasks, exec_bind, exec_get, hinputs']
    rfl
  simp only [resumeOnce, exec_bind, hrebuilt, exec_modify, hpublished, true_or, or_true, if_true,
    exec_get, exec_lift]
  rw [show (supervisor'.publishCurrentSnapshot false).restoreSeededRecords = supervisor'.restored
    from rfl, hshadow]
  cases supervisor'.restored.validateRolloutEvidenceAnchor with
  | error error => rfl
  | ok _ => simp only [hdrain]

/-- Of a supervisor that was told of a publication the evidence must be the one it was
told of. -/
theorem validateRolloutEvidenceAnchor_eq_ok_iff {expected : NegRiskRolloutEvidence}
    (hlive : supervisor.runtime.appMode = .live)
    (hseq : supervisor.seed.lastJournalSeq.isSome = true)
    (hpublished : supervisor.seed.publishedSnapshotId.isSome = true)
    (hexpected : supervisor.seed.negRiskRolloutEvidence = some expected) :
    supervisor.validateRolloutEvidenceAnchor = .ok ⟨⟩ ↔
      supervisor.negRiskRolloutEvidence = some expected := by
  have hnotEmpty : supervisor.seed.lastJournalSeq.isNone = false := by
    rw [Option.isNone_eq_false_iff]
    exact hseq
  have hnotNone : supervisor.seed.publishedSnapshotId.isNone = false := by
    rw [Option.isNone_eq_false_iff]
    exact hpublished
  unfold validateRolloutEvidenceAnchor
  simp only [hlive, ne_eq, not_true_eq_false, if_false, hnotEmpty, hnotNone, hexpected,
    Bool.false_and, Bool.and_false, Bool.false_eq_true]
  cases hactual : supervisor.negRiskRolloutEvidence with
  | none => simp
  | some actual =>
      by_cases heq : expected = actual
      · simp [heq]
      · simp [heq, Ne.symm heq]

theorem evidence_restored :
    supervisor.restored.negRiskRolloutEvidence =
      (supervisor.publishCurrentSnapshot false).negRiskRolloutEvidence :=
  (retainCurrentRecords_frame _).2.2.2.2.2

theorem setup_restored : supervisor.restored.setup = supervisor.setup :=
  (restoreSeededRecords_frame _).1.trans (publishCurrentSnapshot_frame supervisor false).1

theorem runtime_restored :
    supervisor.restored.runtime = (supervisor.publishCurrentSnapshot false).runtime :=
  (restoreSeededRecords_frame _).2.1

/-- Nothing is published of a store that has applied nothing. -/
theorem evidence_restored_of_not_applied
    (h : supervisor.runtime.store.lastAppliedJournalSeq = none) :
    supervisor.restored.negRiskRolloutEvidence = none := by
  rw [evidence_restored, publishCurrentSnapshot_of_not_applied h]
  exact (installEvidence_frame supervisor none .none).2.2.2.2.2

/-- The evidence the seed has is published again if it is of the version that was rebuilt,
and the records of that version are taken over. -/
theorem restored_of_applied {evidence : NegRiskRolloutEvidence}
    (h : supervisor.runtime.store.lastAppliedJournalSeq ≠ none)
    (hevidence : supervisor.seed.negRiskRolloutEvidence = some evidence)
    (hid : evidence.snapshotId = snapshotIdFor supervisor.runtime.stateVersion) :
    supervisor.restored.runtime.publishedSnapshotId =
      some (snapshotIdFor supervisor.runtime.stateVersion) ∧
    supervisor.restored.negRiskRolloutEvidence = some evidence ∧
    supervisor.restored.negRiskLiveExecutionRecords =
      supervisor.seed.negRiskLiveExecutionRecords.filter fun record ↦
        record.snapshotId == snapshotIdFor supervisor.runtime.stateVersion := by
  obtain ⟨snapshot, hsnapshot, hnegrisk, hpublished, hpublishedEvidence, -⟩ :=
    publishCurrentSnapshot_spec false h
  have hsame : (supervisor.rolloutEvidenceForSnapshot snapshot false).1 = evidence := by
    simp [rolloutEvidenceForSnapshot, hnegrisk, hevidence, hid, hsnapshot]
  rw [hsame] at hpublishedEvidence
  have hpublishedId : (supervisor.publishCurrentSnapshot false).runtime.publishedSnapshotId =
      some (snapshotIdFor supervisor.runtime.stateVersion) := by
    rw [AppRuntime.publishedSnapshotId, hpublished, Option.map_some, hsnapshot]
  have hseed : (supervisor.publishCurrentSnapshot false).seed = supervisor.seed :=
    congrArg Setup.seed (publishCurrentSnapshot_frame supervisor false).1
  refine ⟨runtime_restored ▸ hpublishedId, evidence_restored.trans hpublishedEvidence, ?_⟩
  rw [restored, (records_restoreSeededRecords hpublishedId (by simp [hpublishedEvidence, hid])).1,
    hseed]

/-- A supervisor that was told of a live run has rebuilt its runtime. -/
structure Resuming (supervisor taken : AppSupervisor) (evidence : NegRiskRolloutEvidence) :
    Prop where
  rebuilt : exec rebuildRuntime supervisor = (.ok ⟨⟩, taken)
  appMode : taken.runtime.appMode = .live
  realUserShadowSmokeEnabled : taken.realUserShadowSmokeEnabled = false
  inputs : taken.inputTasks = .empty
  lastJournalSeq : taken.seed.lastJournalSeq.isSome = true
  published : taken.seed.publishedSnapshotId.isSome = true
  evidence : taken.seed.negRiskRolloutEvidence = some evidence

section Resuming

variable {taken : AppSupervisor} {evidence : NegRiskRolloutEvidence}
  (h : Resuming supervisor taken evidence)

include h

theorem Resuming.valid_iff :
    taken.restored.validateRolloutEvidenceAnchor = .ok ⟨⟩ ↔
      taken.restored.negRiskRolloutEvidence = some evidence := by
  have hseed : taken.restored.seed = taken.seed := congrArg Setup.seed setup_restored
  refine validateRolloutEvidenceAnchor_eq_ok_iff
    ((congrArg Setup.appMode setup_restored).trans h.appMode) ?_ ?_ ?_
  · rw [hseed, h.lastJournalSeq]
  · rw [hseed, h.published]
  · rw [hseed, h.evidence]

/-- Where the replay has applied nothing the evidence cannot be rebuilt. -/
theorem Resuming.refused (env : SupervisorEnv)
    (hnone : taken.runtime.store.lastAppliedJournalSeq = none) :
    ∃ error, (exec (resumeOnce env) supervisor).1 = .error error := by
  have hevidence := evidence_restored_of_not_applied hnone
  rw [exec_resumeOnce h.rebuilt h.published h.realUserShadowSmokeEnabled h.inputs]
  cases hvalid : taken.restored.validateRolloutEvidenceAnchor with
  | error error => exact ⟨error, rfl⟩
  | ok _ =>
      rw [h.valid_iff.mp hvalid] at hevidence
      cases hevidence

/-- Otherwise the resume goes through, if the live records stand the check. -/
theorem Resuming.accepted (env : SupervisorEnv)
    (hsome : taken.runtime.store.lastAppliedJournalSeq ≠ none)
    (hid : evidence.snapshotId = snapshotIdFor taken.runtime.stateVersion)
    (hlive : taken.restored.validateNegRiskLiveExecutionAnchor = .ok ⟨⟩) :
    (exec (resumeOnce env) supervisor).1 = .ok taken.restored.flushDispatch.summary := by
  obtain ⟨hpublished, hevidence, -⟩ := restored_of_applied hsome h.evidence hid
  have hnotNone : ¬ (taken.restored.runtime.publishedSnapshotId.isNone = true ∧
      0 < taken.restored.runtime.stateVersion) := by
    rw [hpublished]
    simp
  rw [exec_resumeOnce h.rebuilt h.published h.realUserShadowSmokeEnabled h.inputs,
    h.valid_iff.mpr hevidence]
  simp only [if_neg hnotNone, exec_finishRun hlive]

end Resuming

/-! ## Where a resume comes to -/

/-- A resume returns `Ok`, at the place of the summary. -/
def ResumesTo (summary : SupervisorSummary)
    (outcome : Except SupervisorError SupervisorSummary) : Prop :=
  ∃ resumed, outcome = .ok resumed ∧ SamePlace summary resumed

/-- The check of the live records looks at nothing else. -/
theorem validateNegRiskLiveExecutionAnchor_congr
    (hmode : supervisor'.runtime.appMode = supervisor.runtime.appMode)
    (hsmoke : supervisor'.realUserShadowSmokeEnabled = supervisor.realUserShadowSmokeEnabled)
    (hpublished : supervisor'.runtime.publishedSnapshotId = supervisor.runtime.publishedSnapshotId)
    (hevidence : supervisor'.negRiskRolloutEvidence = supervisor.negRiskRolloutEvidence)
    (hrecords : supervisor'.negRiskLiveExecutionRecords =
      supervisor.negRiskLiveExecutionRecords) :
    supervisor'.validateNegRiskLiveExecutionAnchor =
      supervisor.validateNegRiskLiveExecutionAnchor := by
  unfold validateNegRiskLiveExecutionAnchor
  rw [hmode, hsmoke, hpublished, hevidence, hrecords]

/-- After a run that ended well the live records are of the version that is published. -/
theorem Ended.current (h : Ended supervisor summary) (hsetup : Configured supervisor.setup) :
    ∀ record ∈ supervisor.negRiskLiveExecutionRecords,
      record.snapshotId = snapshotIdFor supervisor.runtime.stateVersion := by
  rcases h.records with hcurrent | hready
  · exact hcurrent
  · have hvalid := h.validated
    have hlive : supervisor.runtime.appMode = .live := hsetup.appMode
    have hsmoke : supervisor.realUserShadowSmokeEnabled = false := hsetup.realUserShadowSmokeEnabled
    simp only [validateNegRiskLiveExecutionAnchor, hlive, hsmoke, beq_eq_false_iff_ne.mpr hready,
      h.published, ne_eq, not_true_eq_false, decide_false, Bool.or_self, Bool.false_eq_true,
      if_false] at hvalid
    split at hvalid
    · cases hvalid
    · split at hvalid
      · cases hvalid
      · rename_i hnone
        simpa using hnone

/-- What a replay of the log rebuilds. -/
def replayed (replica : StateStore) (ledger : FollowUpLedger) : AppRuntime :=
  { AppRuntime.new .live with store := restorePosture replica ledger.asked }

section Rebuilt

variable {replica : StateStore} {ledger : FollowUpLedger}
  (hsim : Simulates supervisor.runtime replica ledger)

include hsim

theorem openWork_size : ledger.openWork.size = supervisor.runtime.pendingReconcileCount :=
  congrArg Std.ExtTreeMap.size hsim.live.openWork.symm

theorem pending_rebuilt :
    (rebuilt (replayed replica ledger) ledger.openWork.size).pendingReconcileCount =
      ledger.openWork.size := by
  unfold rebuilt
  split
  · rename_i hzero
    have hcleared := (StateStore.clearPendingReconcileAfterRestore_fields
      (replayed replica ledger).store).2.2.2.2.2.2.2.2.1
    rw [hzero]
    exact congrArg Std.ExtTreeMap.size hcleared
  · exact congrArg Std.ExtTreeMap.size hsim.restored.2.2.1

/-- The mode is rebuilt unless the last new fact asked for a reconcile and nothing is open:
then the seed promises no pending work, and the posture is cleared with it. -/
theorem runtimeMode_rebuilt_iff :
    (rebuilt (replayed replica ledger) ledger.openWork.size).runtimeMode =
        supervisor.runtime.runtimeMode ↔
      (ledger.openWork = ∅ → ledger.unsettled = false) := by
  obtain ⟨-, -, -, hfirst, -, hmode⟩ := hsim.restored
  have hlive : supervisor.runtime.runtimeMode = ledger.policy.mode :=
    congrArg RuntimePolicy.mode hsim.live.posture
  rw [hlive, FollowUpLedger.policy, rebuilt]
  by_cases hempty : ledger.openWork = ∅
  · have hcleared : (replayed replica ledger).clearPendingReconcileAfterRestore.runtimeMode =
        .healthy := by
      have hposture := (StateStore.clearPendingReconcileAfterRestore_fields
        (replayed replica ledger).store).2.2.2.2.2.2.2.2.2.2
      rw [show (replayed replica ledger).store.firstReconcileSucceeded = true from hfirst,
        if_pos rfl] at hposture
      exact congrArg RuntimePolicy.mode hposture
    have hzero : ledger.openWork.size = 0 := by rw [hempty]; rfl
    rw [if_pos hzero, hcleared]
    cases ledger.unsettled with
    | false => simp [hempty, reconciledPolicy]
    | true => simp [hempty, reconcileAttentionPolicy]
  · have hsome : ledger.openWork.size ≠ 0 := (BTreeMap.size_pos_iff.mpr hempty).ne'
    rw [if_neg hsome, if_neg fun hquiet ↦ hempty hquiet.1]
    exact iff_of_true (hmode (hsim.asked_of_open hempty)) fun h ↦ absurd h hempty

variable {fresh : AppSupervisor} (hnew : New fresh) (h : Ended supervisor summary)

include hnew h

/-- The new supervisor rebuilds the runtime, whatever the log: all the counts agree. -/
theorem exec_rebuildRuntime_told
    (hreplay : replayInputs .new false supervisor.committedLog = (.ok ledger.asked, replica)) :
    exec rebuildRuntime (told fresh supervisor summary) = (.ok ⟨⟩,
      (told fresh supervisor summary).withRebuilt (replayed replica ledger)
        ledger.openWork.size) := by
  obtain ⟨hversion, hlast, hpending, -⟩ := hsim.restored
  obtain ⟨seq, hseq⟩ := Option.ne_none_iff_exists'.mp h.lastJournalSeq
  have hsaidSeq : summary.lastJournalSeq = seq := by
    rw [h.said.lastJournalSeq, AppSupervisor.summary, hseq, Option.getD_some]
  have hsaidCount : summary.pendingReconcileCount = ledger.openWork.size :=
    h.said.pendingReconcileCount.trans (openWork_size hsim).symm
  refine @exec_rebuildRuntime _ _ _ seq ?_ (congrArg some hsaidSeq) (congrArg some hsaidCount)
    ?_ ?_ ?_
  · rw [show (told fresh supervisor summary).runtime.appMode = .live from hnew.setup.appMode]
    exact replayCommittedHistory_of_ok hreplay
  · exact congrArg Std.ExtTreeMap.size hpending
  · exact hversion.trans h.said.lastStateVersion.symm
  · exact hlast.trans hseq

theorem resuming_told {evidence : NegRiskRolloutEvidence}
    (hevidence : supervisor.negRiskRolloutEvidence = some evidence)
    (hreplay : replayInputs .new false supervisor.committedLog = (.ok ledger.asked, replica)) :
    Resuming (told fresh supervisor summary)
      ((told fresh supervisor summary).withRebuilt (replayed replica ledger) ledger.openWork.size)
      evidence where
  rebuilt := exec_rebuildRuntime_told hsim hnew h hreplay
  appMode := (rebuilt_frame _ _).2.2.2
  realUserShadowSmokeEnabled := hnew.setup.realUserShadowSmokeEnabled
  inputs := hnew.inputs
  lastJournalSeq := rfl
  published := congrArg Option.isSome (h.said.publishedSnapshotId.trans h.published)
  evidence := h.saidEvidence.trans hevidence

/-- The resume goes through unless some fact asked for a reconcile and none has settled. -/
theorem exec_resumeOnce_told (env : SupervisorEnv) {evidence : NegRiskRolloutEvidence}
    (hsetup : Configured supervisor.setup)
    (hevidence : supervisor.negRiskRolloutEvidence = some evidence)
    (hreplay : replayInputs .new false supervisor.committedLog = (.ok ledger.asked, replica))
    (hsettled : ledger.asked = true → ledger.settled ≠ []) :
    ∃ resumed, (exec (resumeOnce env) (told fresh supervisor summary)).1 = .ok resumed ∧
      (SamePlace summary resumed ↔ (ledger.openWork = ∅ → ledger.unsettled = false)) := by
  obtain ⟨hversion, hlast, -, -, happlied, -⟩ := hsim.restored
  obtain ⟨hversion', hlast', happlied', -⟩ :=
    rebuilt_frame (replayed replica ledger) ledger.openWork.size
  have hpending := pending_rebuilt hsim
  have hmode := runtimeMode_rebuilt_iff hsim
  have hresuming := resuming_told hsim hnew h hevidence hreplay
  have hrecords : ((told fresh supervisor summary).withRebuilt (replayed replica ledger)
      ledger.openWork.size).seed.negRiskLiveExecutionRecords =
        supervisor.negRiskLiveExecutionRecords := rfl
  have hruntime : ((told fresh supervisor summary).withRebuilt (replayed replica ledger)
      ledger.openWork.size).runtime = rebuilt (replayed replica ledger) ledger.openWork.size := rfl
  generalize (told fresh supervisor summary).withRebuilt (replayed replica ledger)
    ledger.openWork.size = taken at hresuming hrecords hruntime
  rw [← hruntime] at hversion' hlast' happlied' hpending hmode
  have hsame : taken.runtime.stateVersion = supervisor.runtime.stateVersion :=
    hversion'.trans hversion
  have hsome : taken.runtime.store.lastAppliedJournalSeq ≠ none := by
    intro hnone
    obtain ⟨hasked, hnothing⟩ := happlied.mp (happlied'.symm.trans hnone)
    exact hsettled hasked hnothing
  have hid : evidence.snapshotId = snapshotIdFor supervisor.runtime.stateVersion := by
    simpa [hevidence] using h.evidence
  rw [← hsame] at hid
  obtain ⟨hpublished, hrestored, hkept⟩ := restored_of_applied hsome hresuming.evidence hid
  rw [hrecords, hsame, List.filter_eq_self.mpr fun record hrecord ↦
    beq_iff_eq.mpr (h.current hsetup record hrecord)] at hkept
  have hstore : taken.restored.runtime.store = taken.runtime.store := by
    rw [runtime_restored, (publishCurrentSnapshot_frame taken false).2.1]
  have hvalid : taken.restored.validateNegRiskLiveExecutionAnchor = .ok ⟨⟩ := by
    rw [← h.validated]
    refine validateNegRiskLiveExecutionAnchor_congr ?_ ?_ ?_ (hrestored.trans hevidence.symm) hkept
    · rw [show taken.restored.runtime.appMode = .live from
        (congrArg Setup.appMode setup_restored).trans hresuming.appMode]
      exact hsetup.appMode.symm
    · rw [show taken.restored.realUserShadowSmokeEnabled = false from
        (congrArg Setup.realUserShadowSmokeEnabled setup_restored).trans
          hresuming.realUserShadowSmokeEnabled]
      exact hsetup.realUserShadowSmokeEnabled.symm
    · rw [hpublished, hsame, h.published]
  refine ⟨_, hresuming.accepted env hsome hid hvalid, ?_⟩
  rw [← hmode]
  constructor
  · intro hplace
    have hmode' : taken.restored.runtime.store.runtimeMode = summary.runtimeMode :=
      hplace.runtimeMode
    rw [hstore, h.said.runtimeMode] at hmode'
    exact hmode'
  · intro hmode'
    have hnumber : taken.restored.runtime.lastJournalSeq = supervisor.runtime.lastJournalSeq := by
      rw [AppRuntime.lastJournalSeq, hstore]
      exact hlast'.trans hlast
    refine ⟨?_, ?_, ?_, ?_, ?_, ?_⟩
    · exact (congrArg (·.getD 0) hnumber).trans h.said.lastJournalSeq.symm
    · exact (congrArg StateStore.stateVersion hstore).trans
        (hsame.trans h.said.lastStateVersion.symm)
    · exact (congrArg StateStore.pendingReconcileCount hstore).trans
        ((hpending.trans (openWork_size hsim)).trans h.said.pendingReconcileCount.symm)
    · refine (hpublished.trans ?_).trans h.said.publishedSnapshotId.symm
      rw [hsame]
      exact h.published.symm
    · exact (congrArg StateStore.runtimeMode hstore).trans (hmode'.trans h.said.runtimeMode.symm)
    · exact (congrArg List.length hkept).trans h.said.negRiskLiveAttemptCount.symm

end Rebuilt

/-- **One log.**  A new supervisor that is told what a run has left resumes to its place
exactly if the ledger of the log is resumable. -/
theorem resumesTo_told_iff {fresh : AppSupervisor} (hnew : New fresh)
    (hsetup : Configured supervisor.setup) (h : Ended supervisor summary) :
    ResumesTo summary (exec (resumeOnce env) (told fresh supervisor summary)).1 ↔
      (followUpLedger supervisor.committedLog).Resumable := by
  obtain ⟨replica, hreplay, hsim⟩ := h.simulates
  obtain ⟨evidence, hevidence, -⟩ := Option.map_eq_some_iff.mp h.evidence
  generalize followUpLedger supervisor.committedLog = ledger at hreplay hsim ⊢
  by_cases hsettled : ledger.asked = true → ledger.settled ≠ []
  · obtain ⟨resumed, hresumed, hsame⟩ :=
      exec_resumeOnce_told hsim hnew h env hsetup hevidence hreplay hsettled
    rw [FollowUpLedger.Resumable, and_iff_right hsettled, ← hsame, ResumesTo, hresumed]
    simp
  · have hlost := hsettled
    rw [Classical.not_imp, not_not] at hlost
    have hnone : (rebuilt (replayed replica ledger) ledger.openWork.size
        ).store.lastAppliedJournalSeq = none :=
      (rebuilt_frame _ _).2.2.1.trans (hsim.restored.2.2.2.2.1.mpr hlost)
    obtain ⟨error, hrefused⟩ :=
      (resuming_told hsim hnew h hevidence hreplay).refused env hnone
    refine iff_of_false ?_ fun hresumable ↦ hsettled hresumable.1
    rintro ⟨resumed, hresumed, -⟩
    rw [hrefused] at hresumed
    cases hresumed

/-- **A run's own history resumes exactly if its ledger is resumable.**  A live supervisor
is configured and runs; the inputs are seeded at ascending numbers and every run returns
`Ok`.  A fresh one that is told the log, the live records and what the last summary says
resumes to the same place if and only if some fact of the log has settled or none has asked
for a reconcile, and, where no work is left open, none has asked since the last that
settled. -/
theorem own_history_resumes_iff (env : SupervisorEnv) (config config' : List SeedOp)
    (ops : List LifeOp) (summary : SupervisorSummary)
    (hconfig : ∀ seed ∈ config, seed.Configures) (hconfig' : ∀ seed ∈ config', seed.Configures)
    (hascending : Ascending ops)
    (hok : Steps (Lifetime.step env) (RunsOk env)
      (.start (seededLive env .empty config)) ops)
    (hsummary : (run (Lifetime.step env) (.start (seededLive env .empty config)) ops).lastSummary =
      some summary) :
    let final := (run (Lifetime.step env) (.start (seededLive env .empty config)) ops).supervisor
    ResumesTo summary
        (exec (resumeOnce env) (seededLive env .empty (config' ++ ownHistory final summary))).1 ↔
      (followUpLedger final.committedLog).Resumable := by
  intro final
  have hnew := new_seededLive env hconfig
  have hstart : Lives (.start (seededLive env .empty config)) :=
    { setup := hnew.setup
      queue := by
        rw [show (Lifetime.start (seededLive env .empty config)).supervisor.inputTasks = .empty
          from hnew.inputs]
        exact .nil
      came := .inl ⟨rfl, hnew.toFresh⟩ }
  have hlives := lives_run hstart hascending ?_ hok
  swap
  · intro seq _ queued hqueued
    rw [show (Lifetime.start (seededLive env .empty config)).supervisor.inputTasks = .empty
      from hnew.inputs] at hqueued
    cases hqueued
  obtain ⟨hnone, -⟩ | ⟨summary', hsome, hended⟩ := hlives.came
  · rw [hnone] at hsummary
    cases hsummary
  · rw [hsome, Option.some.injEq] at hsummary
    subst hsummary
    have hfresh := new_seededLive env hconfig'
    have htold : seededLive env .empty (config' ++ ownHistory final summary') =
        told (seededLive env .empty config') final summary' := by
      rw [seededLive, List.foldl_append]
      exact foldl_ownHistory hfresh hended.toLogTells
    rw [htold]
    exact resumesTo_told_iff hfresh hlives.setup hended

/-- A fact that settles comes after the submission of a family, whose end is open: the
history resumes. -/
theorem own_history_resumes_past_submission :
    let life := run (Lifetime.step takingEnv)
      (.start (seededLive takingEnv .empty (familySeeds ["family-a"])))
      [.seedUnappliedJournalEntry 2 (.new 2 (.new "market" "session" "event" "v1" 0)), .runOnce]
    ∃ summary, life.lastSummary = some summary ∧
      ResumesTo summary (exec (resumeOnce takingEnv) (seededLive takingEnv .empty
        (familySeeds ["family-a"] ++ ownHistory life.supervisor summary))).1 := by
  intro life
  obtain ⟨summary, hsummary⟩ : ∃ summary, life.lastSummary = some summary :=
    Option.isSome_iff_exists.mp (by decide +kernel)
  exact ⟨summary, hsummary, (own_history_resumes_iff takingEnv (familySeeds ["family-a"])
    (familySeeds ["family-a"]) _ summary (by simp [familySeeds, SeedOp.Configures])
    (by simp [familySeeds, SeedOp.Configures]) (by decide) (by decide +kernel) hsummary).mpr
      (by decide +kernel)⟩

/-- A single run that submits one family leaves a history that does not resume: the
submission is open, nothing has settled, and the evidence cannot be rebuilt. -/
theorem own_history_not_resumed :
    ¬ ∀ (env : SupervisorEnv) (config config' : List SeedOp) (ops : List LifeOp)
      (summary : SupervisorSummary),
      (∀ seed ∈ config, seed.Configures) → (∀ seed ∈ config', seed.Configures) →
      Ascending ops →
      Steps (Lifetime.step env) (RunsOk env) (.start (seededLive env .empty config)) ops →
      (run (Lifetime.step env) (.start (seededLive env .empty config)) ops).lastSummary =
        some summary →
      ResumesTo summary (exec (resumeOnce env) (seededLive env .empty (config' ++ ownHistory
        (run (Lifetime.step env) (.start (seededLive env .empty config)) ops).supervisor
        summary))).1 := by
  intro h
  have hconfig : ∀ seed ∈ familySeeds ["family-a"], seed.Configures := by
    simp [familySeeds, SeedOp.Configures]
  have hfails : (run (Lifetime.step takingEnv)
      (.start (seededLive takingEnv .empty (familySeeds ["family-a"]))) [.runOnce]
      ).lastSummary.map (fun summary ↦ (exec (resumeOnce takingEnv) (seededLive takingEnv .empty
        (familySeeds ["family-a"] ++ ownHistory (run (Lifetime.step takingEnv)
          (.start (seededLive takingEnv .empty (familySeeds ["family-a"]))) [.runOnce]).supervisor
          summary))).1.isOk) = some false := by
    decide +kernel
  obtain ⟨summary, hsummary, hrefused⟩ := Option.map_eq_some_iff.mp hfails
  obtain ⟨resumed, hresumed, -⟩ := h takingEnv (familySeeds ["family-a"])
    (familySeeds ["family-a"]) [.runOnce] summary hconfig hconfig (by decide) (by decide +kernel)
    hsummary
  rw [hresumed] at hrefused
  cases hrefused

end AppSupervisor

end AxiomArb.AppLive
