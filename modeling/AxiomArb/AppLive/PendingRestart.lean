import AxiomArb.AppLive.CrashPoints
import AxiomArb.AppLive.Resubmission
import AxiomArb.Persistence.ShadowBatch

/-!
# Pending work after a restart

A submission that is not confirmed is pending in memory.  A restart takes up what it finds
among the rows of the pending work, but nothing that a run persists is such a row: so no
pending work outlives its run (`pending_not_kept`).

## Honest boundary

* The shadow rows of a run are written after its live rows.
* Of a duplicate shadow attempt only the id is reported.
-/

namespace AxiomArb.AppLive

open Domain Library Persistence State

/-! ## What a run persists -/

def attemptRowWithRunSessionId (attempt : ExecutionAttemptRow) (runSessionId : Option String) :
    ExecutionAttemptRow :=
  { attempt with runSessionId := runSessionId <|> attempt.runSessionId }

/-- The first id, in key order, that is there more than once. -/
def duplicateAttemptId? (attempts : List ExecutionAttemptRow) : Option String :=
  let attemptIds := attempts.map ExecutionAttemptRow.attemptId
  (attemptIds.mergeSort fun id id' ↦ (compare id id').isLE).find? fun attemptId ↦
    1 < attemptIds.count attemptId

def persistShadowExecutionRecordsWithRunSessionId (batch : ShadowBatch) :
    Command String DurableDatabase Unit :=
  let attempts := batch.attempts.map (attemptRowWithRunSessionId · batch.runSessionId)
  match duplicateAttemptId? attempts with
  | some attemptId =>
      throw s!"duplicate shadow attempt rows reached persistence boundary: attempt_id={attemptId}"
  | none => appendShadowExecutionBatch attempts batch.artifacts

def persistShadowBatches : List ShadowBatch → Command String DurableDatabase Unit
  | [] => return
  | batch :: batches => do
      persistShadowExecutionRecordsWithRunSessionId batch
      persistShadowBatches batches

/-- What a run that ends like this persists: the rows of its live submissions, those of
its shadow batches, and the anchor of the operator. -/
def persistRun (request : LoadRequest) (activeRunSessionId : Option String) (final : AppSupervisor) :
    Command String DurableDatabase Unit := do
  writeAll (entryWrites final.effects.liveSubmissions)
  persistShadowBatches final.effects.shadowBatches
  onProgress (persistOperatorTargetRevisionAnchor final.summary request.operatorTargetRevision
    request.operatorStrategyRevision activeRunSessionId)

/-- The rows that a run leaves in a database without rows of executions. -/
def persistedRows (request : LoadRequest) (activeRunSessionId : Option String)
    (strategy : StrategyDatabase) (final : AppSupervisor) : DurableDatabase :=
  (exec (persistRun request activeRunSessionId final) { DurableDatabase.empty with strategy }).2

/-! ## The pending rows -/

/-- The pending rows are as they were. -/
def SamePending (database database' : DurableDatabase) : Prop :=
  database'.pendingItems = database.pendingItems

instance : Std.Refl SamePending := ⟨fun _ ↦ rfl⟩

instance : IsTrans DurableDatabase SamePending := ⟨fun _ _ _ h h' ↦ h'.trans h⟩

section Pending

variable {row : ExecutionAttemptRow} {submission : LiveSubmissionRecordRow}
  {artifact : ShadowExecutionArtifactRow}

theorem samePending_appendExecutionAttempt : Within SamePending (appendExecutionAttempt row) := by
  intro database
  simp only [appendExecutionAttempt, exec_bind, exec_get]
  cases hinsert : database.insertAttempt? row with
  | none => rfl
  | some inserted => exact (DurableDatabase.insertAttempt?_eq_some hinsert).2.pendingItems

theorem samePending_appendLiveSubmission : Within SamePending (appendLiveSubmission submission) := by
  refine within_bind within_lift fun _ database ↦ ?_
  simp only [exec_bind, exec_get]
  cases database.attemptIn? .live submission.attemptId with
  | none => rfl
  | some attempt =>
      simp only [exec_bind, exec_lift]
      cases validateLiveSubmissionRecordAgainstAttempt submission attempt.1.route attempt.1.scope with
      | error error => rfl
      | ok _ =>
          simp only
          cases hinsert : database.insertSubmission? submission attempt with
          | some inserted => exact (DurableDatabase.insertSubmission?_eq_some hinsert).pendingItems
          | none =>
              simp only
              cases database.submissions.get? submission.submissionRef with
              | none => rfl
              | some existing =>
                  simp only
                  cases database.attempts.get? existing.attemptId with
                  | none => rfl
                  | some joined =>
                      exact within_bind within_lift (fun _ ↦ within_ite within_pure within_throw)
                        database

theorem samePending_onProgress {command : Command String (Option RuntimeProgressRow) Unit} :
    Within SamePending (onProgress command) := within_focus fun _ _ ↦ rfl

theorem samePending_write (first : DurableWrite) : Within SamePending (write first) := by
  cases first with
  | attempt row => exact samePending_appendExecutionAttempt
  | submission row => exact samePending_appendLiveSubmission
  | progress excluded => exact samePending_onProgress

theorem samePending_writeAll (writes : List DurableWrite) : Within SamePending (writeAll writes) := by
  induction writes with
  | nil => exact within_pure
  | cons first writes ih => exact within_bind (samePending_write first) fun _ ↦ ih

theorem samePending_appendShadowAttempt :
    Within SamePending (appendShadowExecutionAttemptIdempotent row) := by
  intro database
  simp only [appendShadowExecutionAttemptIdempotent, exec_bind, exec_get]
  cases hinsert : database.insertAttempt? row with
  | some inserted => exact (DurableDatabase.insertAttempt?_eq_some hinsert).2.pendingItems
  | none =>
      simp only
      cases database.attempts.get? row.attemptId with
      | none => rfl
      | some existing => exact within_ite within_throw within_pure database

theorem samePending_appendShadowArtifact :
    Within SamePending (appendShadowExecutionArtifactIdempotent artifact) := by
  have happend : Within SamePending (appendShadowExecutionArtifact artifact) := by
    intro database
    simp only [appendShadowExecutionArtifact, exec_bind, exec_get]
    cases database.attemptIn? .shadow artifact.attemptId <;> rfl
  intro database
  simp only [appendShadowExecutionArtifactIdempotent, exec_bind, exec_get]
  cases database.shadowArtifacts.find? fun existing ↦
      existing.attemptId = artifact.attemptId ∧ existing.stream = artifact.stream with
  | none => exact happend database
  | some existing => exact within_ite within_throw within_pure database

theorem samePending_appendShadowRows (attempts : List ExecutionAttemptRow)
    (artifacts : List ShadowExecutionArtifactRow) :
    Within SamePending (appendShadowRows attempts artifacts) := by
  fun_induction appendShadowRows attempts artifacts with
  | case1 artifacts attempt attempts ih => exact within_bind samePending_appendShadowAttempt fun _ ↦ ih
  | case2 artifact artifacts ih => exact within_bind samePending_appendShadowArtifact fun _ ↦ ih
  | case3 => exact within_pure

/-- No row of the pending work is persisted by a run. -/
theorem samePending_persistRun (request : LoadRequest) (activeRunSessionId : Option String)
    (final : AppSupervisor) : Within SamePending (persistRun request activeRunSessionId final) := by
  refine within_bind (samePending_writeAll _) fun _ ↦ within_bind ?_ fun _ ↦ samePending_onProgress
  induction final.effects.shadowBatches with
  | nil => exact within_pure
  | cons batch batches ih =>
      refine within_bind ?_ fun _ ↦ ih
      simp only [persistShadowExecutionRecordsWithRunSessionId]
      cases duplicateAttemptId? (batch.attempts.map (attemptRowWithRunSessionId · batch.runSessionId)) with
      | some attemptId => exact within_throw
      | none => exact within_transaction (samePending_appendShadowRows _ _)

end Pending

/-! ## Restarting -/

namespace AppSupervisor

/-- The restored supervisor has an anchor for each submission that was pending, and waits
for them. -/
structure KeepsPending (final restored : AppSupervisor) : Prop where
  anchors : ∀ anchor ∈ final.runtime.store.pendingReconcileAnchors.vals,
    ∃ found ∈ restored.runtime.store.pendingReconcileAnchors.vals,
      found.submissionRef = anchor.submissionRef
  count : restored.runtime.pendingReconcileCount = final.runtime.pendingReconcileCount
  mode : restored.runtime.runtimeMode = .reconciling
  overlay : restored.runtime.store.modeOverlay = some .cancelOnly

/-- A restart that loads the rows restores what was pending. -/
def RestartKeepsPending (request : LoadRequest) (database : DurableDatabase) (env : SupervisorEnv)
    (bootstrapSnapshot : RemoteSnapshot) (inputs : OperatorInputs) (final : AppSupervisor) : Prop :=
  ∃ durable restored, loadDurableLiveStartupStateForStrategy request database = .ok durable ∧
    exec restoreSeededStartupState
      (durableStart env bootstrapSnapshot durable inputs) = (.ok ⟨⟩, restored) ∧
    KeepsPending final restored

section Restart

variable {request : LoadRequest} {database : DurableDatabase} {durable : DurableLiveStartupState}
  {env : SupervisorEnv} {bootstrapSnapshot : RemoteSnapshot} {inputs : OperatorInputs}
  {restored : AppSupervisor}

theorem anchors_of_load (hempty : database.pendingItems = .empty)
    (hload : loadDurableLiveStartupStateForStrategy request database = .ok durable) :
    durable.pendingReconcileAnchors = [] := by
  obtain ⟨pendingRows, hpending, hanchors, -⟩ := (load_eq_ok_iff.mp hload).work.pending
  rw [DurableDatabase.listPendingItems, hempty] at hpending
  cases hpending
  exact (Except.ok.inj hanchors).symm

/-- A state without anchors is restored with nothing pending. -/
theorem pendingReconcileCount_of_restore (hanchors : durable.pendingReconcileAnchors = [])
    (hrestore : exec restoreSeededStartupState
      (durableStart env bootstrapSnapshot durable inputs) = (.ok ⟨⟩, restored)) :
    restored.runtime.pendingReconcileCount = 0 := by
  have hseed : (durableStart env bootstrapSnapshot durable inputs).seed =
      durableSeed durable inputs.realUserShadowSmoke := by
    rw [durableStart_eq]
  have hseq : (durableStart env bootstrapSnapshot durable inputs).seed.lastJournalSeq =
      some durable.lastJournalSeq := by
    rw [hseed]
    rfl
  rw [exec_restoreSeededStartupState hseq (by rw [hseed]; exact hanchors)
    (by rw [hseed, durableSeed, hanchors]; rfl)] at hrestore
  rw [← (Prod.mk.inj hrestore).2]
  exact (restoredClear_republished _ _).pending

end Restart

theorem not_restartKeepsPending {final : AppSupervisor}
    (hpending : final.runtime.pendingReconcileCount ≠ 0) (request : LoadRequest)
    (activeRunSessionId : Option String) (strategy : StrategyDatabase) (env : SupervisorEnv)
    (bootstrapSnapshot : RemoteSnapshot) (inputs : OperatorInputs) :
    ¬RestartKeepsPending request (persistedRows request activeRunSessionId strategy final) env
      bootstrapSnapshot inputs final := by
  rintro ⟨durable, restored, hload, hrestore, hkept⟩
  have hempty : (persistedRows request activeRunSessionId strategy final).pendingItems = .empty :=
    samePending_persistRun request activeRunSessionId final _
  have hclear := pendingReconcileCount_of_restore (anchors_of_load hempty hload) hrestore
  exact hpending (hkept.count.symm.trans hclear)

/-- A live supervisor at the end of its run. -/
def afterRun (env : SupervisorEnv) (bootstrapSnapshot : RemoteSnapshot) (seeds : List SeedOp) :
    AppSupervisor :=
  (exec (runOnce env) (seededLive env bootstrapSnapshot seeds)).2

/-- **No pending work is kept.**  Whatever a run submits and whatever a restart is asked
for, what is pending at the end of the run is not restored from the rows that it
persisted. -/
theorem pending_not_kept (env : SupervisorEnv) (bootstrapSnapshot : RemoteSnapshot)
    (seeds : List SeedOp) (request : LoadRequest) (activeRunSessionId : Option String)
    (strategy : StrategyDatabase) (restartEnv : SupervisorEnv) (restartSnapshot : RemoteSnapshot)
    (inputs : OperatorInputs)
    (hpending : (afterRun env bootstrapSnapshot seeds).runtime.pendingReconcileCount ≠ 0) :
    ¬RestartKeepsPending request
      (persistedRows request activeRunSessionId strategy (afterRun env bootstrapSnapshot seeds))
      restartEnv restartSnapshot inputs (afterRun env bootstrapSnapshot seeds) :=
  not_restartKeepsPending hpending request activeRunSessionId strategy restartEnv restartSnapshot inputs

/-- A first start that submits one family. -/
def firstRun : AppSupervisor :=
  afterRun takingEnv .empty (durableSeeds firstState oneFamily)

theorem pendingReconcileCount_firstRun : firstRun.runtime.pendingReconcileCount = 1 := by
  decide +kernel

theorem pending_firstRun : firstRun.runtime.pendingReconcileCount ≠ 0 := by
  rw [pendingReconcileCount_firstRun]
  decide

theorem pending_not_kept_first :
    ¬RestartKeepsPending firstStart (persistedRows firstStart none .empty firstRun) takingEnv .empty
      oneFamily firstRun :=
  pending_not_kept takingEnv .empty (durableSeeds firstState oneFamily) firstStart none .empty takingEnv
    .empty oneFamily pending_firstRun

/-- The submission of a first start is loaded by the next one, but is not pending any
more. -/
theorem pending_lost_after_restart :
    loadDurableLiveStartupStateForStrategy firstStart .empty = .ok firstState ∧
      firstRun.runtime.pendingReconcileCount = 1 ∧
      (∃ durable, loadDurableLiveStartupStateForStrategy firstStart
        (persistedRows firstStart none .empty firstRun) = .ok durable) ∧
      ¬RestartKeepsPending firstStart (persistedRows firstStart none .empty firstRun) takingEnv .empty
        oneFamily firstRun := by
  have hloads : (loadDurableLiveStartupStateForStrategy firstStart
      (persistedRows firstStart none .empty firstRun)).isOk = true := by
    decide +kernel
  refine ⟨rfl, pendingReconcileCount_firstRun, ?_, ?_⟩
  · cases hload : loadDurableLiveStartupStateForStrategy firstStart
        (persistedRows firstStart none .empty firstRun) with
    | error error =>
        rw [hload] at hloads
        cases hloads
    | ok durable => exact ⟨durable, rfl⟩
  · exact not_restartKeepsPending pending_firstRun firstStart none .empty takingEnv .empty oneFamily

end AppSupervisor

end AxiomArb.AppLive
