import AxiomArb.AppLive.SupervisorRun
import AxiomArb.State.Growth

/-!
# What the commands of the supervisor leave alone

A supervisor's setup is never changed by its runs.  Once a runtime is up, its runs
only add: to the committed log, to the journal's bindings and to the applied facts.
`Grows` says so; `Quiet` adds that the venue was not called, and `Still` that the queue
was left alone.  A command that does none of this at all is `Idle`, and one that only
starts the runtime afresh `Restarts` it.
-/

namespace AxiomArb.AppLive

open Domain Library State

/-- What a supervisor is set up with. -/
structure Setup where
  appMode : AppRuntimeMode
  bootstrapSnapshot : RemoteSnapshot
  seed : RuntimeSeed
  realUserShadowSmokeEnabled : Bool
  durableLivePersistenceEnabled : Bool
  durableShadowPersistenceEnabled : Bool
  runSessionId : Option String
  negRiskLiveTargets : BTreeMap String NegRiskFamilyLiveTarget
  negRiskLiveApprovedFamilies : BTreeSet String
  negRiskLiveReadyFamilies : BTreeSet String
  negRiskLiveExecutionBackend : Option NegRiskLiveExecutionBackend

namespace AppSupervisor

def setup (supervisor : AppSupervisor) : Setup :=
  { appMode := supervisor.runtime.appMode
    bootstrapSnapshot := supervisor.bootstrapSnapshot
    seed := supervisor.seed
    realUserShadowSmokeEnabled := supervisor.realUserShadowSmokeEnabled
    durableLivePersistenceEnabled := supervisor.durableLivePersistenceEnabled
    durableShadowPersistenceEnabled := supervisor.durableShadowPersistenceEnabled
    runSessionId := supervisor.runSessionId
    negRiskLiveTargets := supervisor.negRiskLiveTargets
    negRiskLiveApprovedFamilies := supervisor.negRiskLiveApprovedFamilies
    negRiskLiveReadyFamilies := supervisor.negRiskLiveReadyFamilies
    negRiskLiveExecutionBackend := supervisor.negRiskLiveExecutionBackend }

/-- Nothing but the runtime, and what depends on it, has changed. -/
structure Restarts (supervisor supervisor' : AppSupervisor) : Prop where
  setup : supervisor'.setup = supervisor.setup
  committed : supervisor'.committedLog = supervisor.committedLog
  inputs : supervisor'.inputTasks = supervisor.inputTasks
  venueCalls : supervisor'.effects.venueCalls = supervisor.effects.venueCalls

/-- The runtime has kept its store, too. -/
structure Idle (supervisor supervisor' : AppSupervisor) : Prop extends
    Restarts supervisor supervisor' where
  store : supervisor'.runtime.store = supervisor.runtime.store

/-- The journal of `supervisor` is kept in `supervisor'`, which may know more. -/
structure Grows (supervisor supervisor' : AppSupervisor) : Prop where
  setup : supervisor'.setup = supervisor.setup
  committed : ∀ input ∈ supervisor.committedLog, input ∈ supervisor'.committedLog
  bound : ∀ (seq : Int) (key : FactKey), supervisor.runtime.store.consumedJournal[seq]? = some key →
    supervisor'.runtime.store.consumedJournal[seq]? = some key
  applied : ∀ key, supervisor.runtime.store.HasApplied key →
    supervisor'.runtime.store.HasApplied key
  ready : supervisor.runtime.store.firstReconcileSucceeded = true →
    supervisor'.runtime.store.firstReconcileSucceeded = true

/-- The journal is kept and the venue is not called. -/
structure Quiet (supervisor supervisor' : AppSupervisor) : Prop extends
    Grows supervisor supervisor' where
  venueCalls : supervisor'.effects.venueCalls = supervisor.effects.venueCalls

/-- Neither the venue is called nor the queue changed. -/
structure Still (supervisor supervisor' : AppSupervisor) : Prop extends
    Quiet supervisor supervisor' where
  inputs : supervisor'.inputTasks = supervisor.inputTasks

instance : Std.Refl Restarts := ⟨fun _ ↦ ⟨rfl, rfl, rfl, rfl⟩⟩

instance : IsTrans AppSupervisor Restarts := ⟨fun _ _ _ h h' ↦
  { setup := h'.setup.trans h.setup
    committed := h'.committed.trans h.committed
    inputs := h'.inputs.trans h.inputs
    venueCalls := h'.venueCalls.trans h.venueCalls }⟩

instance : Std.Refl Idle := ⟨fun supervisor ↦ { toRestarts := refl_of Restarts supervisor, store := rfl }⟩

instance : IsTrans AppSupervisor Idle := ⟨fun _ _ _ h h' ↦
  { toRestarts := trans_of Restarts h.toRestarts h'.toRestarts
    store := h'.store.trans h.store }⟩

instance : Std.Refl Grows := ⟨fun _ ↦ ⟨rfl, fun _ ↦ id, fun _ _ ↦ id, fun _ ↦ id, id⟩⟩

instance : IsTrans AppSupervisor Grows := ⟨fun _ _ _ h h' ↦
  { setup := h'.setup.trans h.setup
    committed := fun input ↦ h'.committed input ∘ h.committed input
    bound := fun seq key ↦ h'.bound seq key ∘ h.bound seq key
    applied := fun key ↦ h'.applied key ∘ h.applied key
    ready := h'.ready ∘ h.ready }⟩

instance : Std.Refl Quiet := ⟨fun supervisor ↦ { toGrows := refl_of Grows supervisor, venueCalls := rfl }⟩

instance : IsTrans AppSupervisor Quiet := ⟨fun _ _ _ h h' ↦
  { toGrows := trans_of Grows h.toGrows h'.toGrows
    venueCalls := h'.venueCalls.trans h.venueCalls }⟩

instance : Std.Refl Still := ⟨fun supervisor ↦ { toQuiet := refl_of Quiet supervisor, inputs := rfl }⟩

instance : IsTrans AppSupervisor Still := ⟨fun _ _ _ h h' ↦
  { toQuiet := trans_of Quiet h.toQuiet h'.toQuiet
    inputs := h'.inputs.trans h.inputs }⟩

variable {supervisor supervisor' : AppSupervisor} {input : InputTaskEvent} {allow : Bool}

theorem Idle.still (h : Idle supervisor supervisor') : Still supervisor supervisor' where
  setup := h.setup
  committed := fun _ hinput ↦ h.committed ▸ hinput
  bound := fun _ _ hbound ↦ h.store ▸ hbound
  applied := fun _ happlied ↦ h.store ▸ happlied
  ready := fun hready ↦ h.store ▸ hready
  venueCalls := h.venueCalls
  inputs := h.inputs

/-- A change of the queue alone. -/
theorem Quiet.of_inputs (inputTasks : IngressQueue) :
    Quiet supervisor { supervisor with inputTasks } where
  setup := rfl
  committed := fun _ ↦ id
  bound := fun _ _ ↦ id
  applied := fun _ ↦ id
  ready := id
  venueCalls := rfl

/-! ## Publication -/

/-- Dropping stale records leaves everything else alone. -/
theorem retainCurrentRecords_frame (supervisor : AppSupervisor) :
    let retained :=
      supervisor.retainCurrentNegRiskLiveExecutionRecords.retainCurrentNegRiskShadowExecutionRecords
    retained.setup = supervisor.setup ∧ retained.runtime = supervisor.runtime ∧
    retained.committedLog = supervisor.committedLog ∧
    retained.inputTasks = supervisor.inputTasks ∧ retained.effects = supervisor.effects ∧
    retained.negRiskRolloutEvidence = supervisor.negRiskRolloutEvidence := by
  unfold retainCurrentNegRiskShadowExecutionRecords retainCurrentNegRiskLiveExecutionRecords
  cases h : supervisor.runtime.publishedSnapshotId with
  | none => simp [h, setup]
  | some snapshotId => simp [h, setup]

theorem installEvidence_frame (supervisor : AppSupervisor)
    (evidence : Option NegRiskRolloutEvidence) (source : NegRiskRolloutEvidenceSource) :
    (supervisor.installEvidence evidence source).setup = supervisor.setup ∧
    (supervisor.installEvidence evidence source).runtime = supervisor.runtime ∧
    (supervisor.installEvidence evidence source).committedLog = supervisor.committedLog ∧
    (supervisor.installEvidence evidence source).inputTasks = supervisor.inputTasks ∧
    (supervisor.installEvidence evidence source).effects = supervisor.effects ∧
    (supervisor.installEvidence evidence source).negRiskRolloutEvidence = evidence :=
  retainCurrentRecords_frame _

/-- The supervisor once a snapshot is in place, but not yet its evidence. -/
def published (supervisor : AppSupervisor) (snapshot : PublishedSnapshot) : AppSupervisor :=
  { supervisor with
    runtime.publishedSnapshot := some snapshot
    dispatcher := supervisor.dispatcher.observeSnapshot snapshot }

theorem publishCurrentSnapshot_of_applied (allow : Bool)
    (h : supervisor.runtime.store.lastAppliedJournalSeq ≠ none) :
    ∃ snapshot : PublishedSnapshot,
      snapshot.snapshotId = snapshotIdFor supervisor.runtime.stateVersion ∧ snapshot.negrisk = none ∧
      supervisor.publishCurrentSnapshot allow =
        (supervisor.published snapshot).installEvidence
          (some (supervisor.rolloutEvidenceForSnapshot snapshot allow).1)
          (supervisor.rolloutEvidenceForSnapshot snapshot allow).2 := by
  obtain ⟨snapshot, hid, hnegrisk, hpublish⟩ := AppRuntime.publishSnapshot_of_applied
    (snapshotIdFor supervisor.runtime.stateVersion) h
  refine ⟨snapshot, hid, hnegrisk, ?_⟩
  rw [publishCurrentSnapshot, hpublish]
  rfl

/-- Evidence is evidence of the snapshot it is built for. -/
theorem snapshotId_rolloutEvidenceForSnapshot (supervisor : AppSupervisor)
    (snapshot : PublishedSnapshot) (allow : Bool) :
    (supervisor.rolloutEvidenceForSnapshot snapshot allow).1.snapshotId = snapshot.snapshotId := by
  unfold rolloutEvidenceForSnapshot rolloutEvidenceFromSnapshot
  split
  · split <;> rfl
  · split
    · rfl
    · split
      · split
        · assumption
        · rfl
      · rfl

/-- A publication of a store that has applied something: the snapshot, its evidence and the
records that are kept. -/
theorem publishCurrentSnapshot_spec (allow : Bool)
    (h : supervisor.runtime.store.lastAppliedJournalSeq ≠ none) :
    ∃ snapshot : PublishedSnapshot,
      snapshot.snapshotId = snapshotIdFor supervisor.runtime.stateVersion ∧ snapshot.negrisk = none ∧
      (supervisor.publishCurrentSnapshot allow).runtime.publishedSnapshot = some snapshot ∧
      (supervisor.publishCurrentSnapshot allow).negRiskRolloutEvidence =
        some (supervisor.rolloutEvidenceForSnapshot snapshot allow).1 ∧
      (supervisor.publishCurrentSnapshot allow).negRiskLiveExecutionRecords =
        supervisor.negRiskLiveExecutionRecords.filter fun record ↦
          record.snapshotId == snapshotIdFor supervisor.runtime.stateVersion := by
  obtain ⟨snapshot, hid, hnegrisk, heq⟩ := publishCurrentSnapshot_of_applied allow h
  obtain ⟨-, hruntime, -, -, -, hevidence⟩ := installEvidence_frame (supervisor.published snapshot)
    (some (supervisor.rolloutEvidenceForSnapshot snapshot allow).1)
    (supervisor.rolloutEvidenceForSnapshot snapshot allow).2
  refine ⟨snapshot, hid, hnegrisk, ?_, ?_, ?_⟩
  · rw [heq, hruntime]
    rfl
  · rw [heq, hevidence]
  · rw [heq, ← hid]
    simp [installEvidence, retainCurrentNegRiskLiveExecutionRecords,
      retainCurrentNegRiskShadowExecutionRecords, published, AppRuntime.publishedSnapshotId,
      snapshotId_rolloutEvidenceForSnapshot]

theorem publishCurrentSnapshot_of_not_applied
    (h : supervisor.runtime.store.lastAppliedJournalSeq = none) :
    supervisor.publishCurrentSnapshot allow = supervisor.installEvidence none .none := by
  rw [publishCurrentSnapshot, AppRuntime.publishSnapshot_of_not_applied h]

/-- Publishing writes the snapshot, its evidence and the records; nothing else. -/
@[simp] theorem publishCurrentSnapshot_frame (supervisor : AppSupervisor) (allow : Bool) :
    (supervisor.publishCurrentSnapshot allow).setup = supervisor.setup ∧
    (supervisor.publishCurrentSnapshot allow).runtime.store = supervisor.runtime.store ∧
    (supervisor.publishCurrentSnapshot allow).committedLog = supervisor.committedLog ∧
    (supervisor.publishCurrentSnapshot allow).inputTasks = supervisor.inputTasks ∧
    (supervisor.publishCurrentSnapshot allow).effects = supervisor.effects := by
  by_cases h : supervisor.runtime.store.lastAppliedJournalSeq = none
  · rw [publishCurrentSnapshot_of_not_applied h]
    simp [installEvidence_frame]
  · obtain ⟨snapshot, -, -, heq⟩ := publishCurrentSnapshot_of_applied allow h
    rw [heq]
    simp only [installEvidence_frame]
    exact ⟨rfl, rfl, rfl, rfl, rfl⟩

theorem Idle.publishCurrentSnapshot : Idle supervisor (supervisor.publishCurrentSnapshot allow) :=
  ⟨⟨by simp, by simp, by simp, by simp⟩, by simp⟩

theorem Idle.recordApply (dispatcher : DispatchLoop) :
    Idle supervisor { supervisor with dispatcher } :=
  ⟨⟨rfl, rfl, rfl, rfl⟩, rfl⟩

/-! ## One input -/

/-- Committing an input writes the log only. -/
@[simp] theorem recordCommittedInput_frame :
    (supervisor.recordCommittedInput input).setup = supervisor.setup ∧
    (supervisor.recordCommittedInput input).runtime = supervisor.runtime ∧
    (supervisor.recordCommittedInput input).inputTasks = supervisor.inputTasks ∧
    (supervisor.recordCommittedInput input).effects = supervisor.effects ∧
    (supervisor.recordCommittedInput input).negRiskLiveExecutionRecords =
      supervisor.negRiskLiveExecutionRecords := by
  unfold recordCommittedInput
  split <;> exact ⟨rfl, rfl, rfl, rfl, rfl⟩

theorem exec_applyInput :
    exec (applyInput input) supervisor =
      (match (supervisor.runtime.applyInput input).1 with
        | .ok result => .ok result
        | .error error => .error { message := error.message },
        { supervisor with runtime := (supervisor.runtime.applyInput input).2 }) := by
  simp only [applyInput, exec_bind, exec_get, exec_set]
  cases (supervisor.runtime.applyInput input).1 <;> rfl

theorem Still.recordCommittedInput : Still supervisor (supervisor.recordCommittedInput input) := by
  unfold AppSupervisor.recordCommittedInput
  split
  · exact refl_of Still supervisor
  · exact
      { setup := rfl
        committed := fun other h ↦ by simp [h]
        bound := fun _ _ ↦ id
        applied := fun _ ↦ id
        ready := id
        venueCalls := rfl
        inputs := rfl }

theorem within_applyInput : Within Still (applyInput input) := by
  intro supervisor
  rw [exec_applyInput]
  exact
    { setup := by simp [setup]
      committed := fun _ ↦ id
      bound := fun seq key h ↦ by simpa using StateStore.bound_applyStep h
      applied := fun key h ↦ by
        rw [AppRuntime.store_applyInput]
        exact h.step (.apply (input.journalSeq, input.intoStateFactInput))
      ready := fun h ↦ by simpa using StateStore.ready_applyStep h
      venueCalls := rfl
      inputs := rfl }

section

variable (env : SupervisorEnv)

theorem Idle.materializeCandidateArtifacts (authoritative : Bool) :
    Idle supervisor
      (supervisor.materializeCandidateArtifactsWithAuthority env authoritative) := by
  unfold materializeCandidateArtifactsWithAuthority
  split
  · exact refl_of Idle supervisor
  · simp only
    split <;> exact ⟨⟨rfl, rfl, rfl, rfl⟩, rfl⟩

/-! ## Draining -/

theorem within_drainInput : Within Quiet (drainInput input) := by
  refine within_bind (within_applyInput.mono fun _ _ ↦ Still.toQuiet) fun result ↦ ?_
  cases result with
  | applied seq version dirtySet =>
      refine within_bind (within_modify fun supervisor ↦ ?_) fun _ ↦ within_pure
      exact trans_of Quiet (trans_of Still (Idle.recordApply _).still .recordCommittedInput).toQuiet
        (trans_of Quiet (.of_inputs _) Idle.publishCurrentSnapshot.still.toQuiet)
  | duplicate _ _ _ | deferred _ _ _ | reconcileRequired _ _ _ =>
      refine within_bind (within_modify fun supervisor ↦ ?_) fun _ ↦ within_pure
      exact trans_of Quiet Still.recordCommittedInput.toQuiet (.of_inputs _)

/-- Between two inputs a drain may hand the candidates on. -/
theorem idle_drainRound (supervisor : AppSupervisor) (authoritative dirty : Bool) : Idle supervisor
    (if dirty && !authoritative then supervisor.materializeCandidateArtifactsWithAuthority env false
      else supervisor) := by
  split
  · exact .materializeCandidateArtifacts env false
  · exact refl_of Idle supervisor

/-- A drain keeps what each of its inputs keeps, and every idle step. -/
theorem within_drainInputTasksFrom_of {R : AppSupervisor → AppSupervisor → Prop} [Std.Refl R]
    [IsTrans AppSupervisor R]
    (hidle : ∀ supervisor supervisor', Idle supervisor supervisor' → R supervisor supervisor')
    (hinput : ∀ input, Within R (drainInput input)) (authoritative : Bool) (anchor : Option Int)
    (fuel processed : Nat) (seen : Bool) :
    Within R (drainInputTasksFrom env authoritative anchor fuel processed seen) := by
  induction fuel generalizing processed seen with
  | zero => exact within_pure
  | succ fuel ih =>
      refine within_bind within_get fun supervisor ↦ ?_
      split
      · exact within_pure
      · refine within_bind (hinput _) fun dirty ↦ ?_
        refine within_bind (within_modify fun supervisor ↦ ?_) fun _ ↦ ih _ _
        exact hidle _ _ (idle_drainRound env supervisor authoritative dirty)

theorem within_finishRun : Within Idle finishRun := by
  refine within_bind within_get fun supervisor ↦ within_bind within_lift fun _ ↦ ?_
  exact within_bind (within_modify fun _ ↦ ⟨⟨rfl, rfl, rfl, rfl⟩, rfl⟩) fun _ ↦
    within_bind within_get fun _ ↦ within_pure

/-! ## Refreshing -/

theorem within_readClock : Within Idle (readClock env) :=
  fun _ ↦ ⟨⟨rfl, rfl, rfl, rfl⟩, rfl⟩

theorem within_applyLiveSubmitFactsFrom (last : Int) (count : Nat)
    (records : List NegRiskLiveExecutionRecord) :
    Within Still (applyLiveSubmitFactsFrom env last count records) := by
  induction records generalizing last count with
  | nil => exact within_pure
  | cons record records ih =>
      unfold applyLiveSubmitFactsFrom
      split
      · exact ih _ _
      · refine within_bind ((within_readClock env).mono fun _ _ ↦ Idle.still) fun observedAt ↦ ?_
        refine within_bind within_applyInput fun result ↦ ?_
        refine within_bind (within_modify fun supervisor ↦ ?_) fun _ ↦ ?_
        · cases result with
          | applied seq version dirtySet =>
              exact (trans_of Idle (.recordApply _) .publishCurrentSnapshot).still
          | duplicate _ _ _ | deferred _ _ _ | reconcileRequired _ _ _ =>
              exact refl_of Still supervisor
        · refine within_bind (within_modify fun _ ↦ .recordCommittedInput) fun _ ↦ ?_
          refine within_bind within_get fun supervisor ↦ ?_
          exact within_ite within_pure (ih _ _)

theorem within_refreshShadowRecords (snapshotId : String) :
    Within Idle (refreshShadowRecords env snapshotId) := by
  refine within_bind within_get fun supervisor ↦ within_bind within_lift fun records ↦ ?_
  refine within_bind (within_ite ?_ within_pure) fun _ ↦ ?_
  · exact within_bind within_get fun _ ↦ within_bind within_lift fun _ ↦
      within_modify fun _ ↦ ⟨⟨rfl, rfl, rfl, rfl⟩, rfl⟩
  · exact within_modify fun _ ↦ ⟨⟨rfl, rfl, rfl, rfl⟩, rfl⟩

theorem within_keepLiveRecords (records : List NegRiskLiveExecutionRecord) :
    Within Idle (keepLiveRecords env records) := by
  have hpersist : Within Idle (persistLiveRecords env records) :=
    within_bind within_get fun _ ↦ within_focus fun _ _ ↦ ⟨⟨rfl, rfl, rfl, rfl⟩, rfl⟩
  refine within_bind within_get fun supervisor ↦ ?_
  refine within_bind (within_ite hpersist within_pure) fun _ ↦ ?_
  exact within_modify fun _ ↦ ⟨⟨rfl, rfl, rfl, rfl⟩, rfl⟩

/-- What follows the submission does not call the venue. -/
theorem within_recordLiveSubmissions (records : List NegRiskLiveExecutionRecord) :
    Within Still (recordLiveSubmissions env records) :=
  within_bind (within_bind within_get fun _ ↦ within_applyLiveSubmitFactsFrom env _ _ _)
    fun _ ↦ (within_keepLiveRecords env _).mono fun _ _ ↦ Idle.still

end

end AppSupervisor

end AxiomArb.AppLive
