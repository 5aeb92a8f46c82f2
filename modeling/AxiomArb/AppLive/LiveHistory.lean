import AxiomArb.AppLive.AtMostOnce
import AxiomArb.AppLive.Backlog
import AxiomArb.AppLive.Replay

/-!
# The history of a live supervisor

A live supervisor that knows of no earlier run numbers its submit facts past the last
number of the journal, and drains its queue past it.  So what it commits comes at the end
of the log, and the log tells the store (`LogTells`).  What it publishes is of the
version it has come to (`Current`).  Both hold after every run.
-/

namespace AxiomArb.AppLive

open Domain Library State

namespace AppSupervisor

open AppRuntime

variable {env : SupervisorEnv} {supervisor supervisor' : AppSupervisor} {input : InputTaskEvent}
  {inputs : List InputTaskEvent} {record : NegRiskLiveExecutionRecord}
  {records : List NegRiskLiveExecutionRecord} {submissionRef : String} {last : Int} {count : Nat}

/-! ## The log -/

/-- The runtime of a live supervisor that has bootstrapped and found nothing. -/
def baseline : AppRuntime := ((AppRuntime.new .live).bootstrapOnce .empty).2

/-- The log is in strict order, and taking it from the baseline gives the store. -/
structure LogTells (supervisor : AppSupervisor) : Prop where
  accepted : Steps inputStep Accepts baseline supervisor.committedLog
  store : supervisor.runtime.store = (run inputStep baseline supervisor.committedLog).store
  ascending : supervisor.committedLog.Pairwise fun input later ↦
    input.journalSeq < later.journalSeq
  consumed : ∀ input ∈ supervisor.committedLog,
    some input.journalSeq ≤ supervisor.runtime.lastJournalSeq

/-- An input past the log comes at its end. -/
theorem commitTo_eq_append {log : List InputTaskEvent}
    (hlog : log.Pairwise fun input later ↦ input.journalSeq < later.journalSeq)
    (hpast : ∀ other ∈ log, other.journalSeq < input.journalSeq) :
    commitTo log input = log ++ [input] := by
  have hnew : input ∉ log := fun hmem ↦ (hpast input hmem).false
  rw [commitTo, if_neg hnew]
  refine List.Pairwise.insertionSort_eq (List.pairwise_append.mpr ⟨?_, by simp, ?_⟩)
  · exact hlog.imp fun {_ _} hlt ↦ Int.le_of_lt hlt
  · intro other hother later hlater
    obtain rfl := List.mem_singleton.mp hlater
    exact Int.le_of_lt (hpast other hother)

theorem journalOrdered_baseline : baseline.store.JournalOrdered where
  bound seq factKey h := by
    rw [show baseline.store.consumedJournal = ∅ by decide] at h
    cases h
  applied := by
    rw [show baseline.store.lastAppliedJournalSeq = some 0 by decide,
      show baseline.store.lastConsumedJournalSeq = some 0 by decide]
    exact StateStore.seq_le_refl _

/-- The journal of the store is in order. -/
theorem LogTells.journalOrdered (h : LogTells supervisor) :
    supervisor.runtime.store.JournalOrdered := by
  rw [h.store]
  refine run_inv (P := fun runtime : AppRuntime ↦ runtime.store.JournalOrdered) ?_
    journalOrdered_baseline
  intro runtime input hordered
  rw [inputStep, store_applyInput]
  exact hordered.applyStep _

/-- The log speaks of the store and of nothing else. -/
theorem LogTells.congr (h : LogTells supervisor)
    (hstore : supervisor'.runtime.store = supervisor.runtime.store)
    (hlog : supervisor'.committedLog = supervisor.committedLog) : LogTells supervisor' := by
  obtain ⟨haccepted, htold, hascending, hconsumed⟩ := h
  refine ⟨hlog ▸ haccepted, by rw [hstore, hlog, htold], hlog ▸ hascending, ?_⟩
  rw [hlog, AppRuntime.lastJournalSeq, hstore]
  exact hconsumed

theorem LogTells.idle (h : LogTells supervisor) (hidle : Idle supervisor supervisor') :
    LogTells supervisor' := h.congr hidle.store hidle.committed

/-- An input past the last number, once it is taken and committed, ends the log. -/
theorem LogTells.commit (h : LogTells supervisor)
    (hadmits : supervisor.runtime.store.Admits input.journalSeq input.factKey)
    (hpast : input.past supervisor.runtime.lastJournalSeq = true)
    (hstore : supervisor'.runtime.store = supervisor.runtime.store.applyStep input.journaled)
    (hlog : supervisor'.committedLog = commitTo supervisor.committedLog input) :
    LogTells supervisor' ∧ supervisor'.runtime.lastJournalSeq = some input.journalSeq := by
  have hfree := h.journalOrdered.unbound hpast
  have hlast : supervisor'.runtime.lastJournalSeq = some input.journalSeq := by
    rw [AppRuntime.lastJournalSeq, hstore, InputTaskEvent.journaled,
      (StateStore.applyStep_journal hadmits).2.1, StateStore.consume, hfree,
      if_neg (Option.some_ne_none _).symm]
  have hearlier : ∀ other ∈ supervisor.committedLog, other.journalSeq < input.journalSeq := by
    intro other hother
    have hle := h.consumed other hother
    rw [InputTaskEvent.past] at hpast
    cases hlast : supervisor.runtime.lastJournalSeq with
    | none => simp [hlast] at hle
    | some last =>
        rw [hlast] at hle hpast
        exact lt_of_le_of_lt (Option.some_le_some.mp hle) (of_decide_eq_true hpast)
  have happend := commitTo_eq_append h.ascending hearlier
  rw [happend] at hlog
  refine ⟨⟨?_, ?_, ?_, ?_⟩, hlast⟩
  · rw [hlog, steps_concat]
    refine ⟨h.accepted, ?_⟩
    obtain ⟨result, hresult⟩ := StateStore.apply_eq_ok_iff.mpr hadmits
    rw [Accepts, result_applyInput, ← h.store, hresult]
    rfl
  · rw [hlog, run_append, run_cons, run_nil, inputStep, store_applyInput, ← h.store, hstore]
    rfl
  · rw [hlog, List.pairwise_append]
    refine ⟨h.ascending, by simp, fun other hother later hlater ↦ ?_⟩
    obtain rfl := List.mem_singleton.mp hlater
    exact hearlier other hother
  · rw [hlog, hlast]
    intro other hother
    rcases List.mem_append.mp hother with hold | hnew
    · exact Option.some_le_some.mpr (hearlier other hold).le
    · rw [List.mem_singleton.mp hnew]
      exact StateStore.seq_le_refl _

/-- What the log leaves to follow up, and its replay. -/
theorem LogTells.simulates (h : LogTells supervisor) :
    ∃ replica, replayInputs .new false supervisor.committedLog =
        (.ok (followUpLedger supervisor.committedLog).asked, replica) ∧
      Simulates supervisor.runtime replica (followUpLedger supervisor.committedLog) := by
  have hbaseline : Simulates baseline .new .empty :=
    .bootstrap unfed_new (by decide)
  obtain ⟨replica, hreplay, hlive, hmirror, hanchored, hquiet⟩ := hbaseline.replay h.accepted
  rw [← h.store] at hlive hmirror
  exact ⟨replica, hreplay, hlive, hmirror, hanchored, hquiet⟩

theorem LogTells.ready (h : LogTells supervisor) : supervisor.Ready := by
  obtain ⟨replica, -, hsim⟩ := h.simulates
  exact hsim.live.reconciled

theorem LogTells.applied (h : LogTells supervisor) :
    supervisor.runtime.store.lastAppliedJournalSeq ≠ none := by
  obtain ⟨replica, -, hsim⟩ := h.simulates
  rw [hsim.mirror.applied]
  exact Option.some_ne_none _

theorem LogTells.lastJournalSeq (h : LogTells supervisor) :
    supervisor.runtime.lastJournalSeq ≠ none := by
  obtain ⟨replica, -, hsim⟩ := h.simulates
  rw [AppRuntime.lastJournalSeq, hsim.mirror.consumed]
  exact Option.some_ne_none _

/-! ## What is published -/

/-- What is published is of the version the store has come to.  So are the live records, or
the end of the run will look at them. -/
structure Current (supervisor : AppSupervisor) : Prop where
  published : supervisor.runtime.publishedSnapshotId =
    some (snapshotIdFor supervisor.runtime.stateVersion)
  evidence : supervisor.negRiskRolloutEvidence.map NegRiskRolloutEvidence.snapshotId =
    some (snapshotIdFor supervisor.runtime.stateVersion)
  records : (∀ record ∈ supervisor.negRiskLiveExecutionRecords,
      record.snapshotId = snapshotIdFor supervisor.runtime.stateVersion) ∨
    (supervisor.negRiskRolloutEvidence.map NegRiskRolloutEvidence.liveReadyFamilyCount).getD 0 ≠ 0

/-- What a run leaves behind tells where it has come to. -/
structure Durable (supervisor : AppSupervisor) : Prop extends LogTells supervisor,
    Current supervisor

/-- What is published is current then. -/
theorem current_publishCurrentSnapshot (allow : Bool)
    (h : supervisor.runtime.store.lastAppliedJournalSeq ≠ none) :
    Current (supervisor.publishCurrentSnapshot allow) := by
  obtain ⟨snapshot, hid, -, hpublished, hevidence, hrecords⟩ := publishCurrentSnapshot_spec allow h
  have hversion : (supervisor.publishCurrentSnapshot allow).runtime.stateVersion =
      supervisor.runtime.stateVersion := by
    simp [AppRuntime.stateVersion]
  refine ⟨?_, ?_, .inl ?_⟩
  · rw [hversion, AppRuntime.publishedSnapshotId, hpublished, Option.map_some, hid]
  · rw [hversion, hevidence, Option.map_some, snapshotId_rolloutEvidenceForSnapshot, hid]
  · rw [hversion, hrecords]
    intro record hrecord
    exact beq_iff_eq.mp (List.mem_filter.mp hrecord).2

/-- Nothing but the version, the publication and the records matters. -/
theorem Current.congr (h : Current supervisor)
    (hsnapshot : supervisor'.runtime.publishedSnapshot = supervisor.runtime.publishedSnapshot)
    (hversion : supervisor'.runtime.stateVersion = supervisor.runtime.stateVersion)
    (hevidence : supervisor'.negRiskRolloutEvidence = supervisor.negRiskRolloutEvidence)
    (hrecords : supervisor'.negRiskLiveExecutionRecords =
      supervisor.negRiskLiveExecutionRecords) : Current supervisor' := by
  obtain ⟨hpublished, hid, hchecked⟩ := h
  refine ⟨?_, by rw [hversion, hevidence, hid], by rwa [hversion, hevidence, hrecords]⟩
  rw [AppRuntime.publishedSnapshotId, hsnapshot, hversion]
  exact hpublished

/-- An input is applied, or leaves what is published and the version as they are. -/
theorem applied_or_published (runtime : AppRuntime) (input : InputTaskEvent) :
    (∃ seq version dirtySet,
      (runtime.applyInput input).1 = .ok (.applied seq version dirtySet) ∧
      (runtime.applyInput input).2.store.lastAppliedJournalSeq ≠ none) ∨
    (∀ seq version dirtySet, (runtime.applyInput input).1 ≠ .ok (.applied seq version dirtySet)) ∧
      (runtime.applyInput input).2.publishedSnapshot = runtime.publishedSnapshot ∧
      (runtime.applyInput input).2.stateVersion = runtime.stateVersion := by
  unfold AppRuntime.applyInput
  rcases runtime.store.apply_cases input.journalSeq input.intoStateFactInput with
    ⟨-, error, heq⟩ | ⟨-, -, duplicateOf, version, heq⟩ | ⟨-, -, -, version, dirtySet, heq⟩ |
    ⟨-, -, -, pendingRef, reason, heq⟩
  · rw [heq]
    exact .inr ⟨fun _ _ _ h ↦ (by cases h), rfl, rfl⟩
  · rw [heq]
    exact .inr ⟨fun _ _ _ h ↦ (by cases h), rfl, by simp [AppRuntime.stateVersion]⟩
  · rw [heq]
    exact .inl ⟨_, _, _, rfl, by simp⟩
  · rw [heq]
    exact .inr ⟨fun _ _ _ h ↦ (by cases h), rfl, by simp [AppRuntime.stateVersion]⟩

theorem evidence_recordCommittedInput :
    (supervisor.recordCommittedInput input).negRiskRolloutEvidence =
      supervisor.negRiskRolloutEvidence := by
  unfold recordCommittedInput
  split <;> rfl

theorem current_drainInput : Within (Preserves Current) (drainInput input) := by
  intro supervisor hcurrent
  simp only [drainInput, exec_bind, exec_applyInput]
  rcases applied_or_published supervisor.runtime input with
    ⟨seq, version, dirtySet, hresult, happlied⟩ | ⟨hopen, hsnapshot, hversion⟩
  · rw [hresult]
    refine current_publishCurrentSnapshot false ?_
    simpa using happlied
  · have htaken : ∀ supervisor' : AppSupervisor,
        supervisor'.runtime = (supervisor.runtime.applyInput input).2 →
        supervisor'.negRiskRolloutEvidence = supervisor.negRiskRolloutEvidence →
        supervisor'.negRiskLiveExecutionRecords = supervisor.negRiskLiveExecutionRecords →
        Current supervisor' := fun supervisor' hruntime ↦
      hcurrent.congr (by rw [hruntime, hsnapshot]) (by rw [hruntime, hversion])
    cases hresult : (supervisor.runtime.applyInput input).1 with
    | error error => exact htaken _ rfl rfl rfl
    | ok result =>
        cases result with
        | applied seq version dirtySet => exact absurd hresult (hopen seq version dirtySet)
        | duplicate _ _ _ | deferred _ _ _ | reconcileRequired _ _ _ =>
            simp only [exec_bind, exec_modify, exec_pure]
            exact htaken _ recordCommittedInput_frame.2.1 evidence_recordCommittedInput
              recordCommittedInput_frame.2.2.2.2

/-! ## Draining -/

theorem current_materializeCandidateArtifacts (env : SupervisorEnv) (authoritative : Bool)
    (h : Current supervisor) :
    Current (supervisor.materializeCandidateArtifactsWithAuthority env authoritative) := by
  unfold materializeCandidateArtifactsWithAuthority
  split
  · exact h
  · simp only
    split <;> exact h.congr rfl rfl rfl rfl

theorem current_drainInOrder (env : SupervisorEnv) (authoritative : Bool)
    (inputs : List InputTaskEvent) (processed : Nat) (seen : Bool) :
    Within (Preserves Current) (drainInOrder env authoritative inputs processed seen) := by
  induction inputs generalizing processed seen with
  | nil => exact within_pure
  | cons input inputs ih =>
      refine within_bind current_drainInput fun dirty ↦ ?_
      refine within_bind (within_modify fun supervisor h ↦ ?_) fun _ ↦ ih _ _
      split
      · exact current_materializeCandidateArtifacts env false h
      · exact h

/-- Inputs that are past the last number, in strict order, end the log one by one. -/
theorem logTells_drainInOrder (env : SupervisorEnv) (authoritative : Bool) (processed : Nat)
    (seen : Bool) (h : LogTells supervisor)
    (hinputs : inputs.Pairwise fun input later ↦ input.journalSeq < later.journalSeq)
    (hpast : ∀ input ∈ inputs, input.past supervisor.runtime.lastJournalSeq = true) :
    LogTells (exec (drainInOrder env authoritative inputs processed seen) supervisor).2 := by
  induction inputs generalizing supervisor processed seen with
  | nil => exact h
  | cons input inputs ih =>
      obtain ⟨hlater, hinputs⟩ := List.pairwise_cons.mp hinputs
      rw [drainInOrder]
      rcases commitThen_cases env authoritative supervisor input with
        ⟨_, -, heq⟩ | ⟨hadmits, dirty, next, heq, -, hstore, hlog, -⟩
      · rw [heq]
        exact h
      · obtain ⟨hnext, hlast⟩ := h.commit hadmits (hpast input List.mem_cons_self) hstore hlog
        rw [heq]
        refine ih _ _ hnext hinputs fun later hmem ↦ ?_
        rw [InputTaskEvent.past, hlast]
        exact decide_eq_true (hlater later hmem)

/-- A drain of a queue with distinct numbers. -/
theorem durable_drainInputTasks (env : SupervisorEnv) (h : Durable supervisor)
    (hqueue : (supervisor.inputTasks.backlog.map InputTaskEvent.journalSeq).Nodup) :
    Durable (exec (drainInputTasks env) supervisor).2 := by
  have hdue : (supervisor.inputTasks.due supervisor.runtime.lastJournalSeq).Pairwise
      fun input later ↦ input.journalSeq < later.journalSeq := IngressQueue.due_pairwise_lt hqueue
  have hfuel : (supervisor.inputTasks.due supervisor.runtime.lastJournalSeq).length ≤
      supervisor.inputTasks.len := IngressQueue.length_due_le
  have hloop := exec_drainInputTasksFrom env false supervisor.runtime.lastJournalSeq 0 false hfuel
  have hlog := logTells_drainInOrder env false 0 false h.toLogTells hdue
    fun input hinput ↦ (List.mem_filter.mp hinput).2
  have hcurrent := current_drainInOrder env false
    (supervisor.inputTasks.due supervisor.runtime.lastJournalSeq) 0 false supervisor h.toCurrent
  simp only [drainInputTasks, exec_bind, exec_get, hloop]
  rcases hdrained : exec (drainInOrder env false
    (supervisor.inputTasks.due supervisor.runtime.lastJournalSeq) 0 false) supervisor with
    ⟨error | processed, drained⟩
  · rw [hdrained] at hlog hcurrent
    exact ⟨hlog, hcurrent⟩
  · rw [hdrained] at hlog hcurrent
    exact ⟨hlog, hcurrent⟩

/-! ## Submitting -/

theorem durable_tick (h : Durable supervisor) : Durable supervisor.tick :=
  ⟨h.toLogTells.congr rfl rfl, h.toCurrent.congr rfl rfl rfl rfl⟩

/-- The fact of a submission takes the next number, and leaves what is published alone. -/
theorem durable_submitted (env : SupervisorEnv) (submissionRef : String) (h : Durable supervisor)
    (hlast : supervisor.runtime.lastJournalSeq = some last)
    (hadmits : supervisor.runtime.store.Admits (last + 1) record.submitKey) :
    Durable (submitted env supervisor (last + 1) record submissionRef) ∧
      (submitted env supervisor (last + 1) record submissionRef).runtime.lastJournalSeq =
        some (last + 1) ∧
      (submitted env supervisor (last + 1) record submissionRef).negRiskRolloutEvidence =
        supervisor.negRiskRolloutEvidence := by
  have hpast : (liveSubmitInput (last + 1) record submissionRef
      (env.now supervisor.effects.clockReads)).past supervisor.runtime.lastJournalSeq = true := by
    rw [InputTaskEvent.past, hlast]
    exact decide_eq_true (Int.lt_succ last)
  obtain ⟨hlog, hnumber⟩ := h.commit hadmits hpast store_submitted
    (show (submitted env supervisor (last + 1) record submissionRef).committedLog = _ from
      committedLog_recordCommittedInput)
  have hversion : (submitted env supervisor (last + 1) record submissionRef).runtime.stateVersion =
      supervisor.runtime.stateVersion := by
    rw [AppRuntime.stateVersion, store_submitted]
    rcases applied_or_published supervisor.runtime (liveSubmitInput (last + 1) record submissionRef
      (env.now supervisor.effects.clockReads)) with ⟨_, _, _, hresult, -⟩ | ⟨-, -, hsame⟩
    · obtain ⟨_, hopen, heq⟩ := AppRuntime.applyInput_of_open supervisor.runtime
        (liveSubmitInput (last + 1) record submissionRef (env.now supervisor.effects.clockReads))
        hadmits id
      rw [heq, Except.ok.injEq] at hresult
      exact absurd hresult (hopen _ _ _)
    · rw [AppRuntime.stateVersion, AppRuntime.store_applyInput] at hsame
      exact hsame
  refine ⟨⟨hlog, h.toCurrent.congr ?_ hversion ?_ ?_⟩, hnumber, ?_⟩
  · simp only [submitted, recordCommittedInput_frame]
    rfl
  · simp only [submitted, evidence_recordCommittedInput]
    rfl
  · exact (submitted_frame _ _ _ _ _).1
  · simp only [submitted, evidence_recordCommittedInput]
    rfl

theorem durable_applyLiveSubmitFactsFrom (env : SupervisorEnv) (count : Nat)
    (records : List NegRiskLiveExecutionRecord) (h : Durable supervisor)
    (hlast : supervisor.runtime.lastJournalSeq = some last) :
    Durable (exec (applyLiveSubmitFactsFrom env last count records) supervisor).2 ∧
      (exec (applyLiveSubmitFactsFrom env last count records) supervisor).2.negRiskRolloutEvidence =
        supervisor.negRiskRolloutEvidence := by
  induction records generalizing supervisor last count with
  | nil => exact ⟨h, rfl⟩
  | cons record records ih =>
      cases href : record.reference with
      | none =>
          rw [exec_submit_of_none href]
          exact ih count h hlast
      | some submissionRef =>
          by_cases hadmits : supervisor.runtime.store.Admits (last + 1) record.submitKey
          · obtain ⟨hdurable, hnumber, hevidence⟩ :=
              durable_submitted env submissionRef h hlast hadmits
            rw [exec_submit_of_admitted href hadmits]
            split
            · exact ⟨hdurable, hevidence⟩
            · obtain ⟨hfinal, hsame⟩ := ih (count + 1) hdurable hnumber
              exact ⟨hfinal, hsame.trans hevidence⟩
          · obtain ⟨error, hrefused⟩ := exec_submit_of_refused env count records href hadmits
            rw [hrefused]
            exact ⟨durable_tick h, rfl⟩

/-- Records that are kept under an evidence with ready families will be looked at. -/
theorem durable_keepLiveRecords (env : SupervisorEnv) (records : List NegRiskLiveExecutionRecord)
    (h : Durable supervisor)
    (hready : (supervisor.negRiskRolloutEvidence.map
      NegRiskRolloutEvidence.liveReadyFamilyCount).getD 0 ≠ 0) :
    Durable (exec (keepLiveRecords env records) supervisor).2 := by
  have hkept : ∀ supervisor' : AppSupervisor, supervisor'.runtime = supervisor.runtime →
      supervisor'.committedLog = supervisor.committedLog →
      supervisor'.negRiskRolloutEvidence = supervisor.negRiskRolloutEvidence →
      Durable supervisor' := by
    intro supervisor' hruntime hlog hevidence
    refine ⟨h.toLogTells.congr (congrArg AppRuntime.store hruntime) hlog, ?_, ?_, .inr ?_⟩
    · rw [hruntime, h.published]
    · rw [hruntime, hevidence, h.evidence]
    · rwa [hevidence]
  simp only [keepLiveRecords, exec_bind, exec_get]
  by_cases hpersists : supervisor.durableLivePersistenceEnabled = true
  · rw [if_pos hpersists, persistLiveRecords]
    simp only [exec_bind, exec_get, exec_focus]
    rcases exec (persistLiveExecutionRecords env.liveDatabase records supervisor.runSessionId)
      supervisor.effects.liveSubmissions with ⟨error | _, rows⟩
    · exact hkept _ rfl rfl rfl
    · exact hkept _ rfl rfl rfl
  · rw [if_neg hpersists]
    exact hkept _ rfl rfl rfl

theorem ready_of_refreshSnapshotId {allow : Bool} {snapshotId : String}
    (h : supervisor.refreshSnapshotId allow = some snapshotId) :
    (supervisor.negRiskRolloutEvidence.map
      NegRiskRolloutEvidence.liveReadyFamilyCount).getD 0 ≠ 0 := by
  unfold refreshSnapshotId at h
  split at h
  · cases h
  split at h
  · cases h
  split at h
  · cases h
  cases hevidence : supervisor.negRiskRolloutEvidence with
  | none => simp [hevidence] at h
  | some evidence =>
      intro hzero
      rw [Option.map_some, Option.getD_some] at hzero
      cases hid : supervisor.runtime.publishedSnapshotId <;> simp [hevidence, hid, hzero] at h

theorem durable_refresh (env : SupervisorEnv) (allow : Bool) (h : Durable supervisor)
    (hsmoke : supervisor.realUserShadowSmokeEnabled = false) :
    Durable (exec (refreshNegRiskLiveExecutionRecords env allow) supervisor).2 := by
  simp only [refreshNegRiskLiveExecutionRecords, exec_bind, exec_get]
  cases hid : supervisor.refreshSnapshotId allow with
  | none => exact h
  | some snapshotId =>
      simp only [hsmoke, Bool.false_eq_true, if_false, refreshLiveRecords, exec_bind,
        exec_executeLiveRecords]
      generalize liveBatchFor env supervisor snapshotId = batch
      have hcalled : Durable (supervisor.called batch) :=
        ⟨h.toLogTells.congr rfl rfl, h.toCurrent.congr rfl rfl rfl rfl⟩
      cases batch.mapM LiveCall.answer with
      | error error => exact hcalled
      | ok records =>
          obtain ⟨last, hlast⟩ := Option.ne_none_iff_exists'.mp h.lastJournalSeq
          have hlast' : (supervisor.called batch).runtime.lastJournalSeq = some last := hlast
          obtain ⟨hloop, hevidence⟩ :=
            durable_applyLiveSubmitFactsFrom env 0 records hcalled hlast'
          show Durable (exec (recordLiveSubmissions env records) (supervisor.called batch)).2
          rw [exec_recordLiveSubmissions, hlast', Option.getD_some]
          rcases hexec : exec (applyLiveSubmitFactsFrom env last 0 records)
            (supervisor.called batch) with ⟨error | applied, submitted⟩
          · rw [hexec] at hloop
            exact hloop
          · rw [hexec] at hloop hevidence
            refine durable_keepLiveRecords env _ hloop ?_
            rw [hevidence]
            exact ready_of_refreshSnapshotId hid

/-! ## A run -/

theorem durable_publishAndRefresh (env : SupervisorEnv) (h : LogTells supervisor)
    (hsmoke : supervisor.realUserShadowSmokeEnabled = false) :
    Durable (exec (publishAndRefresh env) supervisor).2 := by
  simp only [publishAndRefresh, exec_bind, exec_get, exec_modify]
  refine durable_refresh env _
    ⟨h.idle .publishCurrentSnapshot, current_publishCurrentSnapshot _ h.applied⟩ ?_
  have hsetup := (publishCurrentSnapshot_frame supervisor
    supervisor.allowOperatorRolloutEvidenceSynthesis).1
  exact (congrArg Setup.realUserShadowSmokeEnabled hsetup).trans hsmoke

theorem exec_finishRun (h : supervisor.validateNegRiskLiveExecutionAnchor = .ok ⟨⟩) :
    exec finishRun supervisor = (.ok supervisor.flushDispatch.summary, supervisor.flushDispatch) := by
  simp only [finishRun, exec_bind, exec_get, exec_lift, h, exec_modify, exec_pure]

theorem finishRun_eq_ok_iff {summary : SupervisorSummary} :
    exec finishRun supervisor = (.ok summary, supervisor') ↔
      supervisor.validateNegRiskLiveExecutionAnchor = .ok ⟨⟩ ∧
        summary = supervisor.flushDispatch.summary ∧ supervisor' = supervisor.flushDispatch := by
  cases hvalid : supervisor.validateNegRiskLiveExecutionAnchor with
  | error error =>
      simp only [finishRun, exec_bind, exec_get, exec_lift, hvalid]
      simp
  | ok _ =>
      rw [exec_finishRun hvalid]
      simp [eq_comm]

/-- Set up live, with nothing at the venue and no word of an earlier run. -/
structure Configured (setup : Setup) : Prop where
  appMode : setup.appMode = .live
  bootstrapSnapshot : setup.bootstrapSnapshot = .empty
  seed : setup.seed = .default
  realUserShadowSmokeEnabled : setup.realUserShadowSmokeEnabled = false

/-- Two summaries say the same of the journal, the version, the pending work, the
publication, the mode and the live records. -/
structure SamePlace (summary summary' : SupervisorSummary) : Prop where
  lastJournalSeq : summary'.lastJournalSeq = summary.lastJournalSeq
  lastStateVersion : summary'.lastStateVersion = summary.lastStateVersion
  pendingReconcileCount : summary'.pendingReconcileCount = summary.pendingReconcileCount
  publishedSnapshotId : summary'.publishedSnapshotId = summary.publishedSnapshotId
  runtimeMode : summary'.runtimeMode = summary.runtimeMode
  negRiskLiveAttemptCount : summary'.negRiskLiveAttemptCount = summary.negRiskLiveAttemptCount

/-- A run has ended well, and said so in this summary.  Inputs may have been queued since. -/
structure Ended (supervisor : AppSupervisor) (summary : SupervisorSummary) : Prop extends
    Durable supervisor where
  validated : supervisor.validateNegRiskLiveExecutionAnchor = .ok ⟨⟩
  said : SamePlace supervisor.summary summary
  saidEvidence : summary.negRiskRolloutEvidence = supervisor.negRiskRolloutEvidence

/-- A configured supervisor comes up with a log that tells its store. -/
theorem startUp_ok (hsetup : Configured supervisor.setup)
    (hstart : Fresh supervisor ∨ LogTells supervisor) :
    ∃ started, exec startUp supervisor = (.ok ⟨⟩, started) ∧ LogTells started ∧
      supervisor.restoringSeededStartup = false := by
  have hseed : supervisor.hasSeededStartupState = false := by
    rw [hasSeededStartupState, show supervisor.seed = .default from hsetup.seed]
    rfl
  have hrestoring : supervisor.restoringSeededStartup = false := by
    rw [restoringSeededStartup, hseed, Bool.and_false]
  rcases hstart with hfresh | htells
  · refine ⟨supervisor.bootstrapped, exec_startUp_of_fresh hfresh, ?_, hrestoring⟩
    have hruntime : supervisor.bootstrapped.runtime = baseline := by
      rw [bootstrapped, hfresh.runtime,
        show supervisor.bootstrapSnapshot = .empty from hsetup.bootstrapSnapshot]
      rfl
    have hlog : supervisor.bootstrapped.committedLog = [] := hfresh.committed
    refine ⟨?_, ?_, ?_, ?_⟩
    · rw [hlog]
      trivial
    · rw [hlog, hruntime]
      rfl
    · rw [hlog]
      exact .nil
    · rw [hlog]
      exact fun _ ↦ (absurd · List.not_mem_nil)
  · exact ⟨supervisor, exec_startUp_of_ready htells.ready, htells, hrestoring⟩

theorem ended_runOnce {summary : SupervisorSummary} (hsetup : Configured supervisor.setup)
    (hstart : Fresh supervisor ∨ LogTells supervisor)
    (hqueue : (supervisor.inputTasks.backlog.map InputTaskEvent.journalSeq).Nodup)
    (hrun : exec (runOnce env) supervisor = (.ok summary, supervisor')) :
    Ended supervisor' summary ∧ supervisor'.setup = supervisor.setup ∧
      supervisor'.inputTasks.backlog.Sublist supervisor.inputTasks.backlog := by
  obtain ⟨started, hup, htells, hrestoring⟩ := startUp_ok hsetup hstart
  have hrestarts := within_startUp.of_exec hup
  have hlive : started.runtime.appMode = .live :=
    (congrArg Setup.appMode hrestarts.setup).trans hsetup.appMode
  have hsmoke : started.realUserShadowSmokeEnabled = false :=
    (congrArg Setup.realUserShadowSmokeEnabled hrestarts.setup).trans
      hsetup.realUserShadowSmokeEnabled
  rw [exec_runOnce hup, hrestoring] at hrun
  obtain ⟨_, refreshed, hrefresh, hend⟩ := exec_bind_eq_ok.mp hrun
  obtain ⟨hgrows, hinputs, -⟩ := publishAndRefresh_spec env hlive
  have hdurable := durable_publishAndRefresh env htells hsmoke
  rw [hrefresh] at hgrows hinputs hdurable
  have hqueued : refreshed.inputTasks = supervisor.inputTasks := hinputs.trans hrestarts.inputs
  have hquiet := (within_endRun false).of_exec hend
  obtain ⟨_, _, hget, hend⟩ := exec_bind_eq_ok.mp hend
  cases hget
  obtain ⟨_, -, hrest⟩ := exec_lift_bind_eq_ok.mp hend
  obtain ⟨_, drained, hdrain, hfinish⟩ := exec_bind_eq_ok.mp hrest
  have hdrained := durable_drainInputTasks env hdurable (hqueued ▸ hqueue)
  have hsublist : drained.inputTasks.backlog.Sublist refreshed.inputTasks.backlog := by
    rcases drainInputTasks_cases env refreshed with ⟨_, heq, hdone, -⟩ | ⟨_, _, _, _, _, _, heq, -⟩
    · rw [heq] at hdrain
      cases hdrain
      rw [hdone.backlog, ← List.diff_eq_foldl]
      exact List.diff_sublist _ _
    · rw [heq] at hdrain
      cases hdrain
  rw [hdrain] at hdrained
  obtain ⟨hvalid, rfl, rfl⟩ := finishRun_eq_ok_iff.mp hfinish
  refine ⟨⟨⟨hdrained.toLogTells.congr rfl rfl, hdrained.toCurrent.congr rfl rfl rfl rfl⟩, hvalid,
    ⟨rfl, rfl, rfl, rfl, rfl, rfl⟩, rfl⟩, hquiet.setup.trans (hgrows.setup.trans hrestarts.setup), ?_⟩
  rw [hqueued] at hsublist
  exact hsublist

/-! ## A life -/

/-- A supervisor in its life, and the summary of its last run. -/
structure Lifetime where
  supervisor : AppSupervisor
  lastSummary : Option SupervisorSummary

def Lifetime.start (supervisor : AppSupervisor) : Lifetime := { supervisor, lastSummary := none }

def Lifetime.step (env : SupervisorEnv) (life : Lifetime) (op : LifeOp) : Lifetime :=
  { supervisor := lifeStep env life.supervisor op
    lastSummary :=
      match op with
      | .runOnce => (exec (runOnce env) life.supervisor).1.toOption
      | .seedUnappliedJournalEntry _ _ => life.lastSummary }

/-- A run returns `Ok`. -/
def RunsOk (env : SupervisorEnv) (life : Lifetime) (op : LifeOp) : Prop :=
  op = .runOnce → (exec (runOnce env) life.supervisor).1.isOk = true

instance decidableRunsOk (env : SupervisorEnv) (life : Lifetime) :
    (op : LifeOp) → Decidable (RunsOk env life op)
  | .runOnce => decidable_of_iff ((exec (runOnce env) life.supervisor).1.isOk = true)
      (by simp [RunsOk])
  | .seedUnappliedJournalEntry _ _ => .isTrue fun h ↦ by cases h

def LifeOp.journalSeq : LifeOp → Option Int
  | .runOnce => none
  | .seedUnappliedJournalEntry journalSeq _ => some journalSeq

/-- The inputs are seeded at ascending numbers. -/
def Ascending (ops : List LifeOp) : Prop := (ops.filterMap LifeOp.journalSeq).Pairwise (· < ·)

instance (ops : List LifeOp) : Decidable (Ascending ops) :=
  inferInstanceAs (Decidable (List.Pairwise _ _))

/-- What holds of a configured supervisor in its life, if its runs end well. -/
structure Lives (life : Lifetime) : Prop where
  setup : Configured life.supervisor.setup
  queue : (life.supervisor.inputTasks.backlog.map InputTaskEvent.journalSeq).Nodup
  came : life.lastSummary = none ∧ Fresh life.supervisor ∨
    ∃ summary, life.lastSummary = some summary ∧ Ended life.supervisor summary

variable {life : Lifetime}

theorem Lives.seed (h : Lives life) {journalSeq : Int}
    (hnew : ∀ queued ∈ life.supervisor.inputTasks.backlog, queued.journalSeq < journalSeq) :
    Lives (life.step env (.seedUnappliedJournalEntry journalSeq input)) := by
  have hperm := (InputTaskEvent.sortByJournalSeq_perm
    (life.supervisor.inputTasks.backlog ++ [{ input with journalSeq }])).map
      InputTaskEvent.journalSeq
  refine ⟨h.setup, hperm.nodup_iff.mpr ?_, ?_⟩
  · rw [List.map_append, List.nodup_append]
    refine ⟨h.queue, by simp, ?_⟩
    intro seq hseq seq' hseq' heq
    obtain ⟨queued, hqueued, rfl⟩ := List.mem_map.mp hseq
    have hlt := hnew queued hqueued
    rw [heq] at hlt
    simp at hseq'
    omega
  · rcases h.came with ⟨hnone, hfresh⟩ | ⟨summary, hsome, hended⟩
    · exact .inl ⟨hnone, hfresh.runtime, hfresh.seed, hfresh.committed, hfresh.records⟩
    · refine .inr ⟨summary, hsome, ⟨hended.toLogTells.congr rfl rfl,
        hended.toCurrent.congr rfl rfl rfl rfl⟩, hended.validated, { hended.said with },
        hended.saidEvidence⟩

theorem Lives.run (h : Lives life) (hok : RunsOk env life .runOnce) :
    Lives (life.step env .runOnce) ∧
      ∀ input ∈ (life.step env .runOnce).supervisor.inputTasks.backlog,
        input ∈ life.supervisor.inputTasks.backlog := by
  have hstart : Fresh life.supervisor ∨ LogTells life.supervisor :=
    h.came.imp And.right fun ⟨_, _, hended⟩ ↦ hended.toLogTells
  have hok' := hok rfl
  rcases hrun : exec (runOnce env) life.supervisor with ⟨error | summary, final⟩
  · rw [hrun] at hok'
    cases hok'
  · obtain ⟨hended, hsetup, hqueue⟩ := ended_runOnce h.setup hstart h.queue hrun
    have hstep : life.step env .runOnce = { supervisor := final, lastSummary := some summary } := by
      simp only [Lifetime.step, lifeStep, hrun]
      rfl
    rw [hstep]
    exact ⟨⟨hsetup ▸ h.setup, (hqueue.map _).nodup h.queue, .inr ⟨summary, rfl, hended⟩⟩,
      fun input hinput ↦ hqueue.subset hinput⟩

/-- **A life leaves its history.**  If inputs are seeded at ascending numbers and the runs
end well, so does the life. -/
theorem lives_run {ops : List LifeOp} (h : Lives life) (hascending : Ascending ops)
    (hnew : ∀ seq ∈ ops.filterMap LifeOp.journalSeq,
      ∀ queued ∈ life.supervisor.inputTasks.backlog, queued.journalSeq < seq)
    (hok : Steps (Lifetime.step env) (RunsOk env) life ops) :
    Lives (Library.run (Lifetime.step env) life ops) := by
  induction ops generalizing life with
  | nil => exact h
  | cons op ops ih =>
      obtain ⟨hrun, hrest⟩ := hok
      cases op with
      | runOnce =>
          obtain ⟨hlives, hqueue⟩ := h.run hrun
          exact ih hlives hascending
            (fun seq hseq queued hqueued ↦ hnew seq hseq queued (hqueue queued hqueued)) hrest
      | seedUnappliedJournalEntry journalSeq input =>
          obtain ⟨hlater, hascending⟩ := List.pairwise_cons.mp hascending
          refine ih (h.seed (hnew journalSeq List.mem_cons_self)) hascending ?_ hrest
          intro seq hseq queued hqueued
          rcases List.mem_append.mp ((InputTaskEvent.sortByJournalSeq_perm _).mem_iff.mp hqueued)
            with hold | hpushed
          · exact hnew seq (List.mem_cons_of_mem _ hseq) queued hold
          · obtain rfl := List.mem_singleton.mp hpushed
            exact hlater seq hseq

end AppSupervisor

end AxiomArb.AppLive
