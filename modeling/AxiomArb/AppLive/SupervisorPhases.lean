import AxiomArb.AppLive.LiveSubmission

/-!
# The phases of a run

A supervisor is set up by seeds.  Its runs bring the runtime up, publish and submit,
and drain the queue.  The venue
is called in the second phase only, and only where the guard is open: this module
says when that is, and what the other phases leave of the journal.
-/

namespace AxiomArb.AppLive

open Domain Library State

namespace AppSupervisor

variable {env : SupervisorEnv} {supervisor supervisor' : AppSupervisor} {input : InputTaskEvent}
  {snapshotId : String}

/-! ## Setting up -/

/-- A live supervisor set up by any seeds. -/
def seededLive (env : SupervisorEnv) (bootstrapSnapshot : RemoteSnapshot) (seeds : List SeedOp) :
    AppSupervisor :=
  seeds.foldl (applySeed env) (new .live bootstrapSnapshot)

/-- A seed touches neither the runtime nor what is outside the process. -/
theorem applySeed_frame (env : SupervisorEnv) (supervisor : AppSupervisor) (seed : SeedOp) :
    (supervisor.applySeed env seed).runtime = supervisor.runtime ∧
    (supervisor.applySeed env seed).effects = supervisor.effects := by
  cases seed with
  | committedInput input => exact ⟨recordCommittedInput_frame.2.1, recordCommittedInput_frame.2.2.2.1⟩
  | _ => exact ⟨rfl, rfl⟩

theorem seededLive_frame (env : SupervisorEnv) (bootstrapSnapshot : RemoteSnapshot) (seeds : List SeedOp) :
    (seededLive env bootstrapSnapshot seeds).runtime = .new .live ∧
    (seededLive env bootstrapSnapshot seeds).effects = .empty := by
  have hstep : ∀ supervisor seed,
      supervisor.runtime = .new .live ∧ supervisor.effects = .empty →
      (applySeed env supervisor seed).runtime = .new .live ∧
        (applySeed env supervisor seed).effects = .empty := by
    intro supervisor seed h
    obtain ⟨hruntime, heffects⟩ := applySeed_frame env supervisor seed
    rwa [hruntime, heffects]
  exact run_inv hstep ⟨rfl, rfl⟩

/-! ## Bringing the runtime up -/

/-- The runtime has been reconciled or restored. -/
def Ready (supervisor : AppSupervisor) : Prop :=
  supervisor.runtime.store.firstReconcileSucceeded = true

theorem ready_iff : supervisor.Ready ↔ supervisor.runtime.bootstrapStatus = .ready := by
  simp [Ready, AppRuntime.bootstrapStatus, bootstrapStatus]

/-- A runtime that is not up has taken nothing from the journal, or the log knows. -/
def Settled (supervisor : AppSupervisor) : Prop :=
  ¬ supervisor.Ready → supervisor.runtime.lastJournalSeq = none ∨ supervisor.committedLog ≠ []

theorem exec_startUp_of_ready (h : supervisor.Ready) :
    exec startUp supervisor = (.ok ⟨⟩, supervisor) := by
  have hstatus := ready_iff.mp h
  simp [startUp, exec_bind, restoringSeededStartup, hstatus]

theorem ready_restoreAnchors (anchors : List PendingReconcileAnchor) {runtime : AppRuntime}
    (h : runtime.store.firstReconcileSucceeded = true) :
    (anchors.foldl AppRuntime.restorePendingReconcileAnchor runtime
      ).store.firstReconcileSucceeded = true := by
  induction anchors generalizing runtime with
  | nil => exact h
  | cons anchor anchors ih =>
      refine ih ?_
      simp [AppRuntime.restorePendingReconcileAnchor, StateStore.restorePendingReconcileAnchor]

theorem restoreSeededRecords_frame (supervisor : AppSupervisor) :
    supervisor.restoreSeededRecords.setup = supervisor.setup ∧
    supervisor.restoreSeededRecords.runtime = supervisor.runtime ∧
    supervisor.restoreSeededRecords.committedLog = supervisor.committedLog ∧
    supervisor.restoreSeededRecords.inputTasks = supervisor.inputTasks ∧
    supervisor.restoreSeededRecords.effects = supervisor.effects := by
  obtain ⟨hsetup, hruntime, hlog, hinputs, heffects, -⟩ := retainCurrentRecords_frame
    { supervisor with
      negRiskLiveExecutionRecords := supervisor.seed.negRiskLiveExecutionRecords
      negRiskLiveStateSource :=
        if supervisor.seed.negRiskLiveExecutionRecords.isEmpty then .none else .durableRestore
      negRiskShadowExecutionAttempts := supervisor.seed.negRiskShadowExecutionAttempts
      negRiskShadowExecutionArtifacts := supervisor.seed.negRiskShadowExecutionArtifacts }
  exact ⟨hsetup, hruntime, hlog, hinputs, heffects⟩

/-- Of the seeded records those of the published snapshot are taken over. -/
theorem records_restoreSeededRecords {snapshotId : String}
    (hsnapshot : supervisor.runtime.publishedSnapshotId = some snapshotId)
    (hevidence : supervisor.negRiskRolloutEvidence.map NegRiskRolloutEvidence.snapshotId =
      some snapshotId) :
    supervisor.restoreSeededRecords.negRiskLiveExecutionRecords =
      supervisor.seed.negRiskLiveExecutionRecords.filter (·.snapshotId == snapshotId) ∧
    supervisor.restoreSeededRecords.negRiskShadowExecutionAttempts =
      supervisor.seed.negRiskShadowExecutionAttempts.filter (·.snapshotId == snapshotId) := by
  simp [restoreSeededRecords, retainCurrentNegRiskLiveExecutionRecords,
    retainCurrentNegRiskShadowExecutionRecords, hsnapshot, hevidence]

theorem appMode_restoreAnchors (anchors : List PendingReconcileAnchor) (runtime : AppRuntime) :
    (anchors.foldl AppRuntime.restorePendingReconcileAnchor runtime).appMode = runtime.appMode := by
  induction anchors generalizing runtime with
  | nil => rfl
  | cons anchor anchors ih => exact ih _

theorem within_restoreRuntime (lastJournalSeq : Int) :
    Within Restarts (restoreRuntime lastJournalSeq) := by
  refine within_bind (within_modify fun supervisor ↦ ?_) fun _ ↦
    within_bind within_get fun _ ↦ within_lift
  refine ⟨?_, rfl, rfl, rfl⟩
  simp [setup, appMode_restoreAnchors, AppRuntime.restoreCommittedAnchor]

/-- The anchor of a committed journal brings the runtime up. -/
theorem ensures_restoreRuntime (lastJournalSeq : Int) :
    Ensures Ready (restoreRuntime lastJournalSeq) := by
  intro supervisor
  simp only [restoreRuntime, exec_bind, exec_modify, exec_get, exec_lift, Ready]
  exact ready_restoreAnchors _ (by simp [AppRuntime.restoreCommittedAnchor])

theorem within_publishRestored : Within Restarts publishRestored := by
  refine within_bind (within_modify fun supervisor ↦ ?_) fun _ ↦
    within_bind within_get fun _ ↦ within_lift
  obtain ⟨hsetup, hruntime, hlog, hinputs, heffects⟩ := restoreSeededRecords_frame
    (supervisor.publishCurrentSnapshot false)
  exact ⟨by simp [hsetup], by simp [hlog], by simp [hinputs], by simp [heffects]⟩

theorem ready_publishRestored : Within (Preserves Ready) publishRestored := by
  refine within_bind (within_modify fun supervisor ↦ ?_) fun _ ↦
    within_bind within_get fun _ ↦ within_lift
  intro h
  rw [Ready, (restoreSeededRecords_frame _).2.1, (publishCurrentSnapshot_frame _ _).2.1]
  exact h

theorem within_restoreSeededStartupState : Within Restarts restoreSeededStartupState := by
  refine within_bind (within_modify fun _ ↦ ⟨rfl, rfl, rfl, rfl⟩) fun _ ↦
    within_bind within_get fun supervisor ↦ ?_
  split
  · exact within_throw
  · exact within_bind (within_restoreRuntime _) fun _ ↦ within_publishRestored

/-- A restore brings the runtime up, or fails and leaves a new one. -/
theorem restoreSeededStartupState_cases (supervisor : AppSupervisor) :
    (exec restoreSeededStartupState supervisor).2.Ready ∨
    ((exec restoreSeededStartupState supervisor).2.runtime.lastJournalSeq = none ∧
      ∃ error, (exec restoreSeededStartupState supervisor).1 = .error error) := by
  cases hseq : supervisor.seed.lastJournalSeq with
  | none =>
      right
      simp only [restoreSeededStartupState, resetForRestore, exec_bind, exec_modify, exec_get, hseq]
      exact ⟨rfl, _, rfl⟩
  | some lastJournalSeq =>
      left
      simp only [restoreSeededStartupState, resetForRestore, exec_bind, exec_modify, exec_get, hseq]
      rw [← exec_bind]
      exact ensures_bind (ensures_restoreRuntime lastJournalSeq) (fun _ ↦ ready_publishRestored) _

/-- The supervisor once its runtime has been bootstrapped. -/
def bootstrapped (supervisor : AppSupervisor) : AppSupervisor :=
  { supervisor with runtime := (supervisor.runtime.bootstrapOnce supervisor.bootstrapSnapshot).2 }

/-- A bootstrap brings the runtime up, or changes nothing but its posture. -/
theorem bootstrapped_cases (supervisor : AppSupervisor) :
    supervisor.bootstrapped.Ready ∨
    ((supervisor.bootstrapped.Ready ↔ supervisor.Ready) ∧
      supervisor.bootstrapped.runtime.lastJournalSeq = supervisor.runtime.lastJournalSeq) := by
  simp only [Ready, bootstrapped, AppRuntime.lastJournalSeq, AppRuntime.store_bootstrapOnce]
  cases hsucceeded : (supervisor.runtime.store.reconcile supervisor.bootstrapSnapshot).1.succeeded with
  | true =>
      left
      split
      · simp
      · exact (StateStore.reconcile_succeeded_fields _ _ hsucceeded).1
  | false =>
      right
      simp [StateStore.reconcile_failed_fields _ _ hsucceeded]

theorem exec_startUp_of_restoring (h : supervisor.restoringSeededStartup = true) :
    exec startUp supervisor = exec restoreSeededStartupState supervisor := by
  simp only [startUp, exec_bind, exec_get, h, if_true]

theorem exec_startUp_of_bootstrapping (h : ¬ supervisor.Ready)
    (hseed : supervisor.hasSeededStartupState = false) :
    exec startUp supervisor = (.ok ⟨⟩, supervisor.bootstrapped) := by
  have hstatus : supervisor.runtime.bootstrapStatus ≠ .ready := mt ready_iff.mpr h
  simp [startUp, exec_bind, restoringSeededStartup, hstatus, hseed, bootstrapped]

theorem restoring_of_not_ready (h : ¬ supervisor.Ready)
    (hseed : supervisor.hasSeededStartupState = true) :
    supervisor.restoringSeededStartup = true := by
  have hstatus : supervisor.runtime.bootstrapStatus ≠ .ready := mt ready_iff.mpr h
  simp [restoringSeededStartup, hstatus, hseed]

/-- How a runtime comes up: it is up, or it is restored, or it is bootstrapped. -/
theorem startUp_cases (supervisor : AppSupervisor) :
    (supervisor.Ready ∧ exec startUp supervisor = (.ok ⟨⟩, supervisor)) ∨
    (¬ supervisor.Ready ∧ supervisor.hasSeededStartupState = true ∧
      exec startUp supervisor = exec restoreSeededStartupState supervisor) ∨
    (¬ supervisor.Ready ∧ supervisor.hasSeededStartupState = false ∧
      exec startUp supervisor = (.ok ⟨⟩, supervisor.bootstrapped)) := by
  by_cases hready : supervisor.Ready
  · exact .inl ⟨hready, exec_startUp_of_ready hready⟩
  · cases hseed : supervisor.hasSeededStartupState with
    | true =>
        exact .inr (.inl ⟨hready, rfl, exec_startUp_of_restoring (restoring_of_not_ready hready hseed)⟩)
    | false => exact .inr (.inr ⟨hready, rfl, exec_startUp_of_bootstrapping hready hseed⟩)

theorem within_startUp : Within Restarts startUp := by
  intro supervisor
  rcases startUp_cases supervisor with ⟨-, heq⟩ | ⟨-, -, heq⟩ | ⟨-, -, heq⟩
  · rw [heq]
    exact refl_of Restarts supervisor
  · rw [heq]
    exact within_restoreSeededStartupState supervisor
  · rw [heq]
    exact ⟨by simp [bootstrapped, setup], rfl, rfl, rfl⟩

/-- Coming up keeps a supervisor settled. -/
theorem settled_startUp : Within (Preserves Settled) startUp := by
  intro supervisor hsettled
  rcases startUp_cases supervisor with ⟨-, heq⟩ | ⟨-, -, heq⟩ | ⟨-, -, heq⟩
  · rwa [heq]
  · rw [heq]
    intro hready
    exact .inl ((restoreSeededStartupState_cases supervisor).resolve_left hready).1
  · rw [heq]
    intro hready
    rcases bootstrapped_cases supervisor with hup | ⟨hiff, hseq⟩
    · exact absurd hup hready
    · rw [hseq]
      exact hsettled (mt hiff.mpr hready)

/-- Where the guard is open, the runtime is up. -/
theorem ready_of_allow (hsettled : supervisor.Settled)
    (hup : exec startUp supervisor = (.ok ⟨⟩, supervisor'))
    (hallow : supervisor'.allowOperatorRolloutEvidenceSynthesis = true) : supervisor'.Ready := by
  rcases startUp_cases supervisor with ⟨hready, heq⟩ | ⟨-, -, heq⟩ | ⟨hready, hseed, heq⟩
  · rw [heq] at hup
    cases hup
    exact hready
  · rw [hup] at heq
    rcases restoreSeededStartupState_cases supervisor with hready | ⟨-, error, herror⟩
    · rwa [← heq] at hready
    · rw [← heq] at herror
      cases herror
  · rw [heq] at hup
    cases hup
    by_contra hdown
    have hsame := ((bootstrapped_cases supervisor).resolve_left hdown).2
    -- without a seed the guard asks for a pristine journal
    have hpristine : supervisor.bootstrapped.pristineBootstrap = true := by
      have hseed' : supervisor.bootstrapped.hasSeededStartupState = false := hseed
      simpa [allowOperatorRolloutEvidenceSynthesis, hseed'] using hallow
    simp only [pristineBootstrap, hsame, Bool.and_eq_true, beq_iff_eq] at hpristine
    rcases hsettled hready with hnone | hlog
    · rw [hnone] at hpristine
      simp at hpristine
    · exact hlog (by simpa [bootstrapped] using hpristine.1.1.2)

/-! ## Publishing and submitting -/

/-- A refresh adds its batch to the calls, only adds to the journal, and leaves the
queue alone. -/
theorem refresh_spec (env : SupervisorEnv) (supervisor : AppSupervisor) :
    Grows supervisor (exec (refreshNegRiskLiveExecutionRecords env true) supervisor).2 ∧
    (exec (refreshNegRiskLiveExecutionRecords env true) supervisor).2.inputTasks =
      supervisor.inputTasks ∧
    (exec (refreshNegRiskLiveExecutionRecords env true) supervisor).2.effects.venueCalls =
      supervisor.effects.venueCalls ++ liveBatch env supervisor := by
  rcases refresh_cases env supervisor with ⟨hbatch, hidle⟩ | ⟨-, heq⟩
  · exact ⟨hidle.still.toGrows, hidle.inputs, by rw [hidle.venueCalls, hbatch, List.append_nil]⟩
  · have hcalled : Grows supervisor (supervisor.called (liveBatch env supervisor)) :=
      { setup := rfl
        committed := fun _ ↦ id
        bound := fun _ _ ↦ id
        applied := fun _ ↦ id
        ready := id }
    rw [heq]
    cases (liveBatch env supervisor).mapM LiveCall.answer with
    | error error => exact ⟨hcalled, rfl, rfl⟩
    | ok records =>
        have hstill := within_recordLiveSubmissions env records
          (supervisor.called (liveBatch env supervisor))
        exact ⟨trans_of Grows hcalled hstill.toGrows, hstill.inputs, hstill.venueCalls⟩

/-- Publishing on the operator's word counts the families that are approved and ready,
and keeps the records of the snapshot that is published. -/
theorem publishCurrentSnapshot_true (h : supervisor.runtime.store.lastAppliedJournalSeq ≠ none) :
    (supervisor.publishCurrentSnapshot true).runtime.publishedSnapshotId =
      some (snapshotIdFor supervisor.runtime.stateVersion) ∧
    (supervisor.publishCurrentSnapshot true).negRiskRolloutEvidence.map
        NegRiskRolloutEvidence.liveReadyFamilyCount =
      some supervisor.syntheticLiveReadyFamilyCount ∧
    (supervisor.publishCurrentSnapshot true).negRiskLiveExecutionRecords =
      supervisor.negRiskLiveExecutionRecords.filter fun record ↦
        record.snapshotId == snapshotIdFor supervisor.runtime.stateVersion := by
  obtain ⟨snapshot, hid, hnegrisk, hpublished, hevidence, hrecords⟩ :=
    publishCurrentSnapshot_spec true h
  refine ⟨?_, ?_, hrecords⟩
  · rw [AppRuntime.publishedSnapshotId, hpublished, Option.map_some, hid]
  · rw [hevidence]
    simp [rolloutEvidenceForSnapshot, hnegrisk]

/-- Whether a run of a live supervisor submits its families. -/
def LiveBatchOpen (supervisor : AppSupervisor) : Prop :=
  supervisor.realUserShadowSmokeEnabled = false ∧
  supervisor.allowOperatorRolloutEvidenceSynthesis = true ∧
  supervisor.syntheticLiveReadyFamilyCount ≠ 0 ∧
  supervisor.runtime.store.lastAppliedJournalSeq ≠ none ∧
  ∀ record ∈ supervisor.negRiskLiveExecutionRecords,
    record.snapshotId ≠ snapshotIdFor supervisor.runtime.stateVersion

instance : DecidablePred LiveBatchOpen := fun _ ↦ inferInstanceAs (Decidable (_ ∧ _))

theorem eligibleFamilies_congr (hsetup : supervisor'.setup = supervisor.setup) :
    supervisor'.eligibleFamilies = supervisor.eligibleFamilies := by
  simp only [setup, Setup.mk.injEq] at hsetup
  simp [eligibleFamilies, hsetup]

theorem liveBatchFor_congr (env : SupervisorEnv) (hsetup : supervisor'.setup = supervisor.setup)
    (hcalls : supervisor'.effects.venueCalls = supervisor.effects.venueCalls) (snapshotId : String) :
    liveBatchFor env supervisor' snapshotId = liveBatchFor env supervisor snapshotId := by
  have heligible := eligibleFamilies_congr hsetup
  simp only [setup, Setup.mk.injEq] at hsetup
  simp [liveBatchFor, backend, hsetup, hcalls, heligible]

/-- The snapshot under which a refresh that follows a publication on the operator's
word goes to work. -/
theorem refreshSnapshotId_publishCurrentSnapshot (hlive : supervisor.runtime.appMode = .live)
    (hallow : supervisor.allowOperatorRolloutEvidenceSynthesis = true)
    (hsmoke : supervisor.realUserShadowSmokeEnabled = false) :
    (supervisor.publishCurrentSnapshot true).refreshSnapshotId true =
      if supervisor.LiveBatchOpen then some (snapshotIdFor supervisor.runtime.stateVersion)
      else none := by
  have hsetup := (publishCurrentSnapshot_frame supervisor true).1
  simp only [setup, Setup.mk.injEq] at hsetup
  by_cases hnone : supervisor.runtime.store.lastAppliedJournalSeq = none
  · have hclosed : ¬ supervisor.LiveBatchOpen := fun h ↦ h.2.2.2.1 hnone
    rw [if_neg hclosed]
    have hevidence : (supervisor.publishCurrentSnapshot true).negRiskRolloutEvidence = none := by
      rw [publishCurrentSnapshot_of_not_applied hnone]
      exact (installEvidence_frame supervisor none .none).2.2.2.2.2
    simp [refreshSnapshotId, hevidence]
  · obtain ⟨hid, hcount, hrecords⟩ := publishCurrentSnapshot_true hnone
    obtain ⟨evidence, hevidence, hcount⟩ := Option.map_eq_some_iff.mp hcount
    have hopen : supervisor.LiveBatchOpen ↔ supervisor.syntheticLiveReadyFamilyCount ≠ 0 ∧
        ∀ record ∈ supervisor.negRiskLiveExecutionRecords,
          record.snapshotId ≠ snapshotIdFor supervisor.runtime.stateVersion := by
      simp [LiveBatchOpen, hsmoke, hallow, hnone]
    simp only [refreshSnapshotId, hsetup, hid, hevidence, hcount, hrecords, hlive, hsmoke, hopen]
    by_cases hheld : ∀ record ∈ supervisor.negRiskLiveExecutionRecords,
        record.snapshotId ≠ snapshotIdFor supervisor.runtime.stateVersion
    · have hempty : (supervisor.negRiskLiveExecutionRecords.filter fun record ↦
          record.snapshotId == snapshotIdFor supervisor.runtime.stateVersion) = [] := by
        simpa using hheld
      simp only [hempty, and_iff_left hheld]
      by_cases hready : supervisor.syntheticLiveReadyFamilyCount = 0 <;> simp [hready]
    · have hheld' : (supervisor.negRiskLiveExecutionRecords.filter fun record ↦
          record.snapshotId == snapshotIdFor supervisor.runtime.stateVersion).isEmpty = false := by
        simpa using hheld
      simp only [hheld', hheld, and_false, if_false]
      simp

/-- The batch of a refresh that follows a publication on the operator's word. -/
theorem liveBatch_publishCurrentSnapshot (hlive : supervisor.runtime.appMode = .live)
    (hallow : supervisor.allowOperatorRolloutEvidenceSynthesis = true) :
    liveBatch env (supervisor.publishCurrentSnapshot true) =
      if supervisor.LiveBatchOpen then
        liveBatchFor env supervisor (snapshotIdFor supervisor.runtime.stateVersion)
      else [] := by
  have hsetup := (publishCurrentSnapshot_frame supervisor true).1
  have hsmoke' := congrArg Setup.realUserShadowSmokeEnabled hsetup
  simp only [setup] at hsmoke'
  cases hsmoke : supervisor.realUserShadowSmokeEnabled with
  | true =>
      have hclosed : ¬ supervisor.LiveBatchOpen := fun h ↦ by simp [h.1] at hsmoke
      simp only [liveBatch, hsmoke', hsmoke, if_true, if_neg hclosed]
      split <;> rfl
  | false =>
      have hbatch := liveBatchFor_congr env hsetup (by simp)
        (snapshotIdFor supervisor.runtime.stateVersion)
      simp only [liveBatch, refreshSnapshotId_publishCurrentSnapshot hlive hallow hsmoke, hsmoke',
        hsmoke]
      split <;> simp_all

/-- Where the guard is closed, a run publishes and does not submit. -/
theorem exec_publishAndRefresh_of_closed
    (hallow : supervisor.allowOperatorRolloutEvidenceSynthesis = false) :
    exec (publishAndRefresh env) supervisor = (.ok ⟨⟩, supervisor.publishCurrentSnapshot false) := by
  have hid : (supervisor.publishCurrentSnapshot false).refreshSnapshotId false = none := by
    simp [refreshSnapshotId]
  simp only [publishAndRefresh, refreshNegRiskLiveExecutionRecords, exec_bind, exec_get, exec_modify,
    hallow, hid, exec_pure]

/-- Publishing and submitting: the venue is called where the guard is open, for the
eligible families, and not otherwise. -/
theorem publishAndRefresh_spec (env : SupervisorEnv) (hlive : supervisor.runtime.appMode = .live) :
    Grows supervisor (exec (publishAndRefresh env) supervisor).2 ∧
    (exec (publishAndRefresh env) supervisor).2.inputTasks = supervisor.inputTasks ∧
    (exec (publishAndRefresh env) supervisor).2.effects.venueCalls =
      supervisor.effects.venueCalls ++
        if supervisor.LiveBatchOpen then
          liveBatchFor env supervisor (snapshotIdFor supervisor.runtime.stateVersion)
        else [] := by
  have hpublish : ∀ allow, Idle supervisor (supervisor.publishCurrentSnapshot allow) :=
    fun _ ↦ .publishCurrentSnapshot
  cases hallow : supervisor.allowOperatorRolloutEvidenceSynthesis with
  | false =>
      have hclosed : ¬ supervisor.LiveBatchOpen := fun h ↦ by simp [h.2.1] at hallow
      rw [if_neg hclosed, List.append_nil, exec_publishAndRefresh_of_closed hallow]
      exact ⟨(hpublish false).still.toGrows, (hpublish false).inputs, (hpublish false).venueCalls⟩
  | true =>
      simp only [publishAndRefresh, exec_bind, exec_get, exec_modify, hallow]
      obtain ⟨hgrows, hinputs, hcalls⟩ := refresh_spec env (supervisor.publishCurrentSnapshot true)
      rw [liveBatch_publishCurrentSnapshot hlive hallow, (hpublish true).venueCalls] at hcalls
      exact ⟨trans_of Grows (hpublish true).still.toGrows hgrows, hinputs.trans (hpublish true).inputs, hcalls⟩

/-! ## Draining the queue -/

/-- What is known of an input that has been taken from the queue. -/
structure Recorded (supervisor : AppSupervisor) (input : InputTaskEvent) : Prop where
  committed : input ∈ supervisor.committedLog
  bound : supervisor.runtime.store.consumedJournal[input.journalSeq]? = some input.factKey
  applied : input.intoStateFactInput.applyHint.Settles →
    supervisor.runtime.store.HasApplied input.factKey

theorem Recorded.grows (h : Recorded supervisor input) (hgrows : Grows supervisor supervisor') :
    Recorded supervisor' input where
  committed := hgrows.committed input h.committed
  bound := hgrows.bound _ _ h.bound
  applied := fun hsettles ↦ hgrows.applied _ (h.applied hsettles)

theorem mem_recordCommittedInput :
    input ∈ (supervisor.recordCommittedInput input).committedLog := by
  unfold recordCommittedInput
  split
  · assumption
  · simp

theorem committedLog_recordCommittedInput_congr
    (h : supervisor'.committedLog = supervisor.committedLog) :
    (supervisor'.recordCommittedInput input).committedLog =
      (supervisor.recordCommittedInput input).committedLog := by
  unfold recordCommittedInput
  rw [h]
  split
  · exact h
  · rfl

/-- An input whose fact the store has taken, and that the log knows, is recorded. -/
theorem recorded_of_applyStep
    (hadmits : supervisor.runtime.store.Admits input.journalSeq input.factKey)
    (hstore : supervisor'.runtime.store =
      supervisor.runtime.store.applyStep (input.journalSeq, input.intoStateFactInput))
    (hlog : input ∈ supervisor'.committedLog) : Recorded supervisor' input where
  committed := hlog
  bound := by
    rw [hstore, (StateStore.applyStep_journal hadmits).1]
    exact StateStore.bound_consume
  applied := fun hsettles ↦ by
    rw [hstore]
    exact StateStore.hasApplied_applyStep hadmits hsettles

/-- An input is refused and nothing changes, or the store takes it, the log knows it and
the queue gives it up. -/
theorem drainInput_effect (supervisor : AppSupervisor) (input : InputTaskEvent) :
    (∃ refusal, (supervisor.runtime.applyInput input).1 = .error refusal ∧
      exec (drainInput input) supervisor = (.error { message := refusal.message }, supervisor)) ∨
    supervisor.runtime.store.Admits input.journalSeq input.factKey ∧
    ∃ dirty supervisor', exec (drainInput input) supervisor = (.ok dirty, supervisor') ∧
      supervisor'.runtime.store =
        supervisor.runtime.store.applyStep (input.journalSeq, input.intoStateFactInput) ∧
      supervisor'.committedLog = (supervisor.recordCommittedInput input).committedLog ∧
      supervisor'.inputTasks = supervisor.inputTasks.remove input := by
  by_cases hadmits : supervisor.runtime.store.Admits input.journalSeq input.factKey
  · obtain ⟨result, hresult⟩ := StateStore.apply_eq_ok_iff.mpr hadmits
    rw [← AppRuntime.result_applyInput] at hresult
    simp only [drainInput, exec_bind, exec_applyInput, hresult]
    cases result with
    | applied seq version dirtySet =>
        simp only [exec_bind, exec_modify, exec_pure]
        refine .inr ⟨hadmits, _, _, rfl, ?_, ?_, ?_⟩
        · simp only [publishCurrentSnapshot_frame, recordCommittedInput_frame,
            AppRuntime.store_applyInput]
        · simp only [publishCurrentSnapshot_frame]
          exact committedLog_recordCommittedInput_congr rfl
        · simp only [publishCurrentSnapshot_frame, recordCommittedInput_frame]
    | duplicate _ _ _ | deferred _ _ _ | reconcileRequired _ _ _ =>
        simp only [exec_bind, exec_modify, exec_pure]
        refine .inr ⟨hadmits, _, _, rfl, ?_, ?_, ?_⟩
        · simp only [recordCommittedInput_frame, AppRuntime.store_applyInput]
        · exact committedLog_recordCommittedInput_congr rfl
        · simp only [recordCommittedInput_frame]
  · left
    obtain ⟨error, hrefused⟩ := AppRuntime.applyInput_of_refused _ _ hadmits
    refine ⟨error, by rw [hrefused], ?_⟩
    simp only [drainInput, exec_bind, exec_applyInput, hrefused]

/-- An input is refused and nothing changes, or it is recorded and leaves the queue. -/
theorem drainInput_cases (supervisor : AppSupervisor) (input : InputTaskEvent) :
    (∃ error, exec (drainInput input) supervisor = (.error error, supervisor)) ∨
    ∃ dirty supervisor', exec (drainInput input) supervisor = (.ok dirty, supervisor') ∧
      Recorded supervisor' input ∧
      supervisor'.inputTasks = supervisor.inputTasks.remove input := by
  rcases drainInput_effect supervisor input with
    ⟨refusal, -, heq⟩ | ⟨hadmits, dirty, supervisor', heq, hstore, hlog, hqueue⟩
  · exact .inl ⟨_, heq⟩
  · refine .inr ⟨dirty, supervisor', heq, recorded_of_applyStep hadmits hstore ?_, hqueue⟩
    rw [hlog]
    exact mem_recordCommittedInput

/-! ## A whole run -/

theorem Idle.settled (h : Idle supervisor supervisor') :
    Preserves Settled supervisor supervisor' := by
  intro hsettled
  rwa [Settled, Ready, AppRuntime.lastJournalSeq, h.store, h.committed]

theorem settled_drainInput : Within (Preserves Settled) (drainInput input) := by
  intro supervisor
  rcases drainInput_cases supervisor input with ⟨error, heq⟩ | ⟨_, _, heq, hrecorded, -⟩
  · rw [heq]
    exact id
  · rw [heq]
    exact fun _ _ ↦ .inr (List.ne_nil_of_mem hrecorded.committed)

/-- The end of a run keeps what each input of its drain keeps, and every idle step. -/
theorem within_endRun_of {R : AppSupervisor → AppSupervisor → Prop} [Std.Refl R]
    [IsTrans AppSupervisor R]
    (hidle : ∀ supervisor supervisor', Idle supervisor supervisor' → R supervisor supervisor')
    (hinput : ∀ input, Within R (drainInput input)) (restoring : Bool) :
    Within R (endRun env restoring) := by
  refine within_bind within_get fun _ ↦ within_bind within_lift fun _ ↦ within_bind ?_ fun _ ↦
    within_finishRun.mono hidle
  exact within_bind within_get fun _ ↦
    within_bind (within_drainInputTasksFrom_of env hidle hinput _ _ _ _ _) fun _ ↦ within_pure

theorem within_endRun (restoring : Bool) : Within Quiet (endRun env restoring) :=
  within_endRun_of (fun _ _ h ↦ h.still.toQuiet) (fun _ ↦ within_drainInput) restoring

theorem settled_endRun (restoring : Bool) : Within (Preserves Settled) (endRun env restoring) :=
  within_endRun_of (fun _ _ ↦ Idle.settled) (fun _ ↦ settled_drainInput) restoring

/-- A run whose runtime does not come up ends there. -/
theorem exec_runOnce_of_error {error : SupervisorError}
    (hup : exec startUp supervisor = (.error error, supervisor')) :
    exec (runOnce env) supervisor = (.error error, supervisor') := by
  simp only [runOnce, exec_bind, exec_get, hup]

theorem exec_runOnce (hup : exec startUp supervisor = (.ok ⟨⟩, supervisor')) :
    exec (runOnce env) supervisor =
      exec (publishAndRefresh env >>= fun _ ↦ endRun env supervisor.restoringSeededStartup)
        supervisor' := by
  simp only [runOnce, exec_bind, exec_get, hup]

/-- The end of a run that has come up, from the supervisor that came up. -/
theorem runOnce_spec (env : SupervisorEnv) (hlive : supervisor.runtime.appMode = .live) (hsettled : supervisor.Settled)
    (hup : exec startUp supervisor = (.ok ⟨⟩, supervisor')) :
    Grows supervisor' (exec (runOnce env) supervisor).2 ∧
    (exec (runOnce env) supervisor).2.Settled ∧
    (exec (runOnce env) supervisor).2.effects.venueCalls =
      supervisor.effects.venueCalls ++
        if supervisor'.LiveBatchOpen then
          liveBatchFor env supervisor (snapshotIdFor supervisor'.runtime.stateVersion)
        else [] := by
  have hrestarts := within_startUp supervisor
  have hsettled' := settled_startUp supervisor hsettled
  rw [hup] at hrestarts hsettled'
  have hlive' : supervisor'.runtime.appMode = .live :=
    (congrArg Setup.appMode hrestarts.setup).trans hlive
  obtain ⟨hgrows, -, hcalls⟩ := publishAndRefresh_spec env hlive'
  rw [hrestarts.venueCalls, liveBatchFor_congr env hrestarts.setup hrestarts.venueCalls] at hcalls
  rw [exec_runOnce hup]
  have hend : Quiet (exec (publishAndRefresh env) supervisor').2
      (exec (publishAndRefresh env >>= fun _ ↦ endRun env supervisor.restoringSeededStartup)
        supervisor').2 :=
    within_continuation (fun _ ↦ within_endRun _) supervisor'
  refine ⟨trans_of Grows hgrows hend.toGrows, ?_, hend.venueCalls.trans hcalls⟩
  refine within_continuation (fun _ ↦ settled_endRun supervisor.restoringSeededStartup) supervisor' ?_
  by_cases hready : supervisor'.Ready
  · exact fun hdown ↦ absurd (hgrows.ready hready) hdown
  · have hallow : supervisor'.allowOperatorRolloutEvidenceSynthesis = false := by
      rw [← Bool.not_eq_true]
      exact fun hallow ↦ hready (ready_of_allow hsettled hup hallow)
    rw [exec_publishAndRefresh_of_closed hallow]
    exact Idle.publishCurrentSnapshot.settled hsettled'

/-- The supervisor once a run has brought its runtime up.  Submitting is what the run
does next, so the store it has then is the one its orders are sent from. -/
def broughtUp (supervisor : AppSupervisor) : AppSupervisor := (exec startUp supervisor).2

theorem broughtUp_of_ready (h : supervisor.Ready) : supervisor.broughtUp = supervisor := by
  rw [broughtUp, exec_startUp_of_ready h]

theorem setup_broughtUp : supervisor.broughtUp.setup = supervisor.setup :=
  (within_startUp supervisor).setup

/-- A run of a live supervisor, whether its runtime comes up or not: it makes no calls,
or it makes the batch of a supervisor that has come up with the guard open. -/
theorem runOnce_calls (env : SupervisorEnv) (hlive : supervisor.runtime.appMode = .live)
    (hsettled : supervisor.Settled) :
    let final := (exec (runOnce env) supervisor).2
    final.setup = supervisor.setup ∧ final.Settled ∧ (supervisor.Ready → final.Ready) ∧
    ((final.effects.venueCalls = supervisor.effects.venueCalls ∧
        (supervisor.Ready → ¬ supervisor.LiveBatchOpen)) ∨
      (supervisor.broughtUp.Ready ∧ final.Ready ∧ supervisor.broughtUp.LiveBatchOpen ∧
        final.effects.venueCalls = supervisor.effects.venueCalls ++
          liveBatchFor env supervisor (snapshotIdFor supervisor.broughtUp.runtime.stateVersion))) := by
  intro final
  have hready : supervisor.Ready → exec startUp supervisor = (.ok ⟨⟩, supervisor) :=
    exec_startUp_of_ready
  rcases hup : exec startUp supervisor with ⟨error | ⟨⟩, started⟩
  · have hrun : exec (runOnce env) supervisor = (.error error, started) := exec_runOnce_of_error hup
    have hfinal : final = started := congrArg Prod.snd hrun
    have hdown : ¬ supervisor.Ready := by
      intro h
      rw [hready h] at hup
      cases hup
    have hrestarts := within_startUp supervisor
    have hsettled' := settled_startUp supervisor hsettled
    rw [hup] at hrestarts hsettled'
    rw [hfinal]
    exact ⟨hrestarts.setup, hsettled', fun h ↦ absurd h hdown,
      .inl ⟨hrestarts.venueCalls, fun h ↦ absurd h hdown⟩⟩
  · obtain ⟨hgrows, hsettled', hcalls⟩ := runOnce_spec env hlive hsettled hup
    have hbroughtUp : supervisor.broughtUp = started := congrArg Prod.snd hup
    have hsame : supervisor.Ready → supervisor = started := fun h ↦
      (broughtUp_of_ready h).symm.trans hbroughtUp
    have hsetup : started.setup = supervisor.setup := hbroughtUp ▸ setup_broughtUp
    rw [hbroughtUp]
    refine ⟨hgrows.setup.trans hsetup, hsettled', fun h ↦ hgrows.ready (hsame h ▸ h), ?_⟩
    by_cases hopen : started.LiveBatchOpen
    · have hready' := ready_of_allow hsettled hup hopen.2.1
      rw [if_pos hopen] at hcalls
      exact .inr ⟨hready', hgrows.ready hready', hopen, hcalls⟩
    · rw [if_neg hopen, List.append_nil] at hcalls
      exact .inl ⟨hcalls, fun h ↦ hsame h ▸ hopen⟩

end AppSupervisor

end AxiomArb.AppLive
