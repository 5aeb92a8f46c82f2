import AxiomArb.AppLive.SupervisorFrame

/-!
# No live submission is lost

A family the venue has taken is to leave a pending anchor in the store and its
record among those kept and persisted.  Three loops have to agree on that: the one
that calls the venue, the one that applies a submit fact for each record, which
stops at the first pending anchor, and the one that keeps as many records as there
were facts.  They agree on the first record of a batch and on no other.
-/

namespace AxiomArb.AppLive

open Domain Library State

/-! ## The fact of a submission -/

namespace NegRiskLiveExecutionRecord

variable (record : NegRiskLiveExecutionRecord)

/-- The identity of the fact that `record` was submitted. -/
def submitKey : FactKey :=
  { sourceKind := "negrisk_live_submit"
    sourceSessionId := "app-live-bootstrap"
    sourceEventId := s!"live-submit-{record.attemptId}"
    normalizerVersion := "v1-negrisk-live-submit" }

/-- The pending work a submission opens. -/
def submitAnchor (submissionRef : String) : PendingReconcileAnchor :=
  { pendingRef := PendingRef.fromFactKey record.submitKey
    submissionRef
    familyId := record.scope
    route := "negrisk_live_submit"
    reason := "live submit observed" }

variable {record} {record' : NegRiskLiveExecutionRecord}

/-- Two submissions share a reference only if they share their fact. -/
theorem submitKey_eq_of_pendingRef
    (h : PendingRef.fromFactKey record.submitKey = PendingRef.fromFactKey record'.submitKey) :
    record.submitKey = record'.submitKey := by
  simp only [PendingRef.fromFactKey_eq, submitKey, String.append_left_inj, String.append_right_inj] at h
  have hid : record.attemptId = record'.attemptId := h
  rw [submitKey, submitKey, hid]

end NegRiskLiveExecutionRecord

variable {record : NegRiskLiveExecutionRecord} {submissionRef : String} {seq : Int}
  {observedAt : DateTime}

@[simp] theorem factKey_liveSubmitInput :
    (liveSubmitInput seq record submissionRef observedAt).intoStateFactInput.factKey =
      record.submitKey := rfl

@[simp] theorem applyHint_liveSubmitInput :
    (liveSubmitInput seq record submissionRef observedAt).intoStateFactInput.applyHint =
      .pendingReconcile (record.submitAnchor submissionRef) := rfl

/-- What a submit fact does to the pending work of the store that takes it. -/
theorem pending_applyStep_liveSubmit {store : StateStore} (h : store.Admits seq record.submitKey) :
    (store.applyStep (seq, (liveSubmitInput seq record submissionRef observedAt).intoStateFactInput)
      ).pendingReconcileAnchors =
      if store.HasApplied record.submitKey then store.pendingReconcileAnchors
      else store.pendingReconcileAnchors.insert (PendingRef.fromFactKey record.submitKey)
        (record.submitAnchor submissionRef) := by
  unfold StateStore.applyStep
  rcases store.apply_cases seq (liveSubmitInput seq record submissionRef observedAt).intoStateFactInput
    with ⟨hrefused, -⟩ | ⟨-, happlied, _, _, heq⟩ | ⟨-, -, hsettles, -⟩ | ⟨-, hnew, -, _, _, heq⟩
  · exact absurd h hrefused
  · rw [heq, if_pos (by simpa using happlied)]
    simp
  · exact hsettles.elim
  · rw [heq, if_neg (by simpa using hnew)]
    simp [FactApplyHint.pendingAfter, NegRiskLiveExecutionRecord.submitAnchor]

/-- A runtime that takes a fact which stays open keeps its published snapshot. -/
theorem AppRuntime.applyInput_of_open (runtime : AppRuntime) (input : InputTaskEvent)
    (h : runtime.store.Admits input.journalSeq input.factKey)
    (hopen : ¬ input.intoStateFactInput.applyHint.Settles) :
    ∃ result, (∀ seq version dirtySet, result ≠ .applied seq version dirtySet) ∧
      runtime.applyInput input = (.ok result, { runtime with
        store := runtime.store.applyStep (input.journalSeq, input.intoStateFactInput) }) := by
  unfold applyInput StateStore.applyStep
  rcases runtime.store.apply_cases input.journalSeq input.intoStateFactInput with
    ⟨hrefused, -⟩ | ⟨-, -, duplicateOf, version, heq⟩ | ⟨-, -, hsettles, -⟩ |
    ⟨-, -, -, pendingRef, reason, heq⟩
  · exact absurd h hrefused
  · rw [heq]
    refine ⟨_, ?_, rfl⟩
    rintro _ _ _ ⟨⟩
  · exact absurd hsettles hopen
  · rw [heq]
    refine ⟨_, ?_, rfl⟩
    rintro _ _ _ ⟨⟩

theorem AppRuntime.applyInput_of_refused (runtime : AppRuntime) (input : InputTaskEvent)
    (h : ¬ runtime.store.Admits input.journalSeq input.factKey) :
    ∃ error, runtime.applyInput input = (.error error, runtime) := by
  obtain ⟨error, heq⟩ := StateStore.apply_of_not_admits h
  refine ⟨error, ?_⟩
  rw [applyInput, heq]

namespace AppSupervisor

variable {env : SupervisorEnv} {supervisor : AppSupervisor} {records : List NegRiskLiveExecutionRecord}
  {last : Int} {count : Nat}

/-! ## One submit fact -/

/-- The supervisor once the clock has been read. -/
def tick (supervisor : AppSupervisor) : AppSupervisor :=
  { supervisor with effects.clockReads := supervisor.effects.clockReads + 1 }

/-- The supervisor once it has taken the submit fact of a record. -/
def submitted (env : SupervisorEnv) (supervisor : AppSupervisor) (seq : Int)
    (record : NegRiskLiveExecutionRecord) (submissionRef : String) : AppSupervisor :=
  let input := liveSubmitInput seq record submissionRef (env.now supervisor.effects.clockReads)
  { supervisor.tick with
    runtime.store := supervisor.runtime.store.applyStep (seq, input.intoStateFactInput)
  }.recordCommittedInput input

theorem exec_readClock : exec (readClock env) supervisor =
    (.ok (env.now supervisor.effects.clockReads), supervisor.tick) := rfl

theorem exec_submit_of_none (h : record.reference = none) :
    exec (applyLiveSubmitFactsFrom env last count (record :: records)) supervisor =
      exec (applyLiveSubmitFactsFrom env last count records) supervisor := by
  rw [applyLiveSubmitFactsFrom, h]

theorem exec_submit_of_refused (env : SupervisorEnv) (count : Nat)
    (records : List NegRiskLiveExecutionRecord) (href : record.reference = some submissionRef)
    (h : ¬ supervisor.runtime.store.Admits (last + 1) record.submitKey) :
    ∃ error, exec (applyLiveSubmitFactsFrom env last count (record :: records)) supervisor =
      (.error error, supervisor.tick) := by
  obtain ⟨error, hinput⟩ := AppRuntime.applyInput_of_refused supervisor.tick.runtime
    (liveSubmitInput (last + 1) record submissionRef (env.now supervisor.effects.clockReads)) h
  refine ⟨{ message := error.message }, ?_⟩
  rw [applyLiveSubmitFactsFrom, href]
  simp only [exec_bind, exec_readClock, exec_applyInput, hinput]

theorem exec_submit_of_admitted (href : record.reference = some submissionRef)
    (h : supervisor.runtime.store.Admits (last + 1) record.submitKey) :
    exec (applyLiveSubmitFactsFrom env last count (record :: records)) supervisor =
      if 0 < (submitted env supervisor (last + 1) record submissionRef).runtime.pendingReconcileCount
      then (.ok (count + 1), submitted env supervisor (last + 1) record submissionRef)
      else exec (applyLiveSubmitFactsFrom env (last + 1) (count + 1) records)
        (submitted env supervisor (last + 1) record submissionRef) := by
  obtain ⟨result, hresult, hinput⟩ := AppRuntime.applyInput_of_open supervisor.tick.runtime
    (liveSubmitInput (last + 1) record submissionRef (env.now supervisor.effects.clockReads)) h id
  rw [applyLiveSubmitFactsFrom, href]
  simp only [exec_bind, exec_readClock, exec_applyInput, hinput, exec_modify, exec_get]
  cases result with
  | applied seq version dirtySet => exact absurd rfl (hresult seq version dirtySet)
  | duplicate _ _ _ | deferred _ _ _ | reconcileRequired _ _ _ =>
      change exec
        (if 0 < (submitted env supervisor (last + 1) record submissionRef).runtime.pendingReconcileCount
          then pure (count + 1)
          else applyLiveSubmitFactsFrom env (last + 1) (count + 1) records)
        (submitted env supervisor (last + 1) record submissionRef) = _
      split <;> rfl

/-- A record without a reference has no fact. -/
theorem exec_submit_of_skipped (env : SupervisorEnv) (supervisor : AppSupervisor) (last : Int)
    (count : Nat) {skipped : List NegRiskLiveExecutionRecord}
    (records : List NegRiskLiveExecutionRecord) (h : ∀ record ∈ skipped, record.reference = none) :
    exec (applyLiveSubmitFactsFrom env last count (skipped ++ records)) supervisor =
      exec (applyLiveSubmitFactsFrom env last count records) supervisor := by
  induction skipped with
  | nil => rfl
  | cons record skipped ih =>
      rw [List.cons_append, exec_submit_of_none (h record List.mem_cons_self)]
      exact ih fun other hother ↦ h other (List.mem_cons_of_mem record hother)

/-! ## A fact applied before

The fact of a submission that was applied before, and is not pending any more, is a
duplicate: it does not become pending again. -/

/-- Once `record` was applied, its pending work is left as it is. -/
def LeavesPending (record : NegRiskLiveExecutionRecord) (supervisor supervisor' : AppSupervisor) :
    Prop :=
  supervisor.runtime.store.HasApplied record.submitKey →
    supervisor'.runtime.store.HasApplied record.submitKey ∧
    supervisor'.runtime.store.pendingReconcileAnchors[PendingRef.fromFactKey record.submitKey]? =
      supervisor.runtime.store.pendingReconcileAnchors[PendingRef.fromFactKey record.submitKey]?

instance : Std.Refl (LeavesPending record) := ⟨fun _ h ↦ ⟨h, rfl⟩⟩

instance : IsTrans AppSupervisor (LeavesPending record) := ⟨fun _ _ _ h h' happlied ↦
  have first := h happlied
  have second := h' first.1
  ⟨second.1, second.2.trans first.2⟩⟩

theorem LeavesPending.of_eq {supervisor' : AppSupervisor}
    (h : supervisor'.runtime.store = supervisor.runtime.store) :
    LeavesPending record supervisor supervisor' := fun happlied ↦ by
  rw [h]
  exact ⟨happlied, rfl⟩

theorem leavesPending_applyInput {other : NegRiskLiveExecutionRecord} :
    Within (LeavesPending record) (applyInput (liveSubmitInput seq other submissionRef observedAt)) := by
  intro supervisor happlied
  rw [exec_applyInput]
  simp only [AppRuntime.store_applyInput]
  refine ⟨happlied.step (.apply (_, _)), ?_⟩
  by_cases hadmits : supervisor.runtime.store.Admits seq other.submitKey
  · rw [show (liveSubmitInput seq other submissionRef observedAt).journalSeq = seq from rfl,
      pending_applyStep_liveSubmit hadmits]
    by_cases hother : supervisor.runtime.store.HasApplied other.submitKey
    · rw [if_pos hother]
    · rw [if_neg hother, BTreeMap.lookup_insert_of_ne]
      -- the two facts differ, as one was applied and the other was not
      intro href
      rw [NegRiskLiveExecutionRecord.submitKey_eq_of_pendingRef href] at hother
      exact hother happlied
  · rw [StateStore.applyStep_of_not_admits hadmits]

theorem leavesPending_applyLiveSubmitFactsFrom :
    Within (LeavesPending record) (applyLiveSubmitFactsFrom env last count records) := by
  induction records generalizing last count with
  | nil => exact within_pure
  | cons other records ih =>
      unfold applyLiveSubmitFactsFrom
      split
      · exact ih
      · refine within_bind (fun _ ↦ .of_eq rfl) fun _ ↦ ?_
        refine within_bind leavesPending_applyInput fun result ↦ ?_
        refine within_bind (within_modify fun supervisor ↦ ?_) fun _ ↦ ?_
        · cases result with
          | applied seq version dirtySet => exact .of_eq (by simp)
          | duplicate _ _ _ | deferred _ _ _ | reconcileRequired _ _ _ => exact .of_eq rfl
        · refine within_bind (within_modify fun _ ↦ .of_eq (by simp)) fun _ ↦ ?_
          exact within_bind within_get fun _ ↦ within_ite within_pure ih

/-! ## Keeping the records -/

/-- Whether the rows of a single record can be appended. -/
def Persistable (env : SupervisorEnv) (supervisor : AppSupervisor)
    (record : NegRiskLiveExecutionRecord) : Prop :=
  env.liveDatabase.connect supervisor.effects.liveSubmissions = .ok () ∧
  ∃ entry, record.liveSubmissionEntry supervisor.runSessionId = .ok entry ∧
    env.liveDatabase.append supervisor.effects.liveSubmissions entry = .ok ()

/-- Records are held for this run, and persisted where that is enabled. -/
def Keeps (supervisor : AppSupervisor) (record : NegRiskLiveExecutionRecord) : Prop :=
  record ∈ supervisor.negRiskLiveExecutionRecords ∧
  (supervisor.durableLivePersistenceEnabled = true →
    ∃ entry ∈ supervisor.effects.liveSubmissions,
      record.liveSubmissionEntry supervisor.runSessionId = .ok entry)

/-- Keeping records does not touch the runtime, and no other record is held after it. -/
theorem keepLiveRecords_frame (kept : List NegRiskLiveExecutionRecord) :
    (exec (keepLiveRecords env kept) supervisor).2.runtime = supervisor.runtime ∧
    ∀ record ∈ (exec (keepLiveRecords env kept) supervisor).2.negRiskLiveExecutionRecords,
      record ∈ kept ∨ record ∈ supervisor.negRiskLiveExecutionRecords := by
  simp only [keepLiveRecords, exec_bind, exec_get]
  by_cases hdurable : supervisor.durableLivePersistenceEnabled = true
  · rw [if_pos hdurable, persistLiveRecords]
    simp only [exec_bind, exec_get, exec_focus]
    rcases exec (persistLiveExecutionRecords env.liveDatabase kept supervisor.runSessionId)
      supervisor.effects.liveSubmissions with ⟨error | _, rows⟩
    · exact ⟨rfl, fun _ ↦ Or.inr⟩
    · exact ⟨rfl, fun _ ↦ Or.inl⟩
  · rw [if_neg hdurable]
    exact ⟨rfl, fun _ ↦ Or.inl⟩

/-- Persisting a single record appends its rows, or changes nothing. -/
theorem exec_persistLiveRecords_single (env : SupervisorEnv) (supervisor : AppSupervisor)
    (record : NegRiskLiveExecutionRecord) :
    (∃ entry, record.liveSubmissionEntry supervisor.runSessionId = .ok entry ∧
      Persistable env supervisor record ∧
      exec (persistLiveRecords env [record]) supervisor = (.ok ⟨⟩, { supervisor with
        effects.liveSubmissions := supervisor.effects.liveSubmissions ++ [entry] })) ∨
    ¬ Persistable env supervisor record ∧
      ∃ error, exec (persistLiveRecords env [record]) supervisor = (.error error, supervisor) := by
  simp only [persistLiveRecords, persistLiveExecutionRecords, appendLiveRecords, exec_bind, exec_get,
    exec_focus, exec_lift]
  cases hconnect : env.liveDatabase.connect supervisor.effects.liveSubmissions with
  | error error =>
      refine .inr ⟨?_, _, rfl⟩
      rintro ⟨h, -⟩
      rw [hconnect] at h
      cases h
  | ok _ =>
      cases hentry : record.liveSubmissionEntry supervisor.runSessionId with
      | error error =>
          refine .inr ⟨?_, _, rfl⟩
          rintro ⟨-, _, h, -⟩
          rw [hentry] at h
          cases h
      | ok entry =>
          simp only [Except.ok.injEq, exists_eq_left']
          cases happend : env.liveDatabase.append supervisor.effects.liveSubmissions entry with
          | error error =>
              refine .inr ⟨?_, _, rfl⟩
              rintro ⟨-, _, h, hrows⟩
              rw [hentry] at h
              cases h
              rw [happend] at hrows
              cases hrows
          | ok _ => exact .inl ⟨⟨hconnect, entry, hentry, happend⟩, rfl⟩

/-- A single record is kept exactly when it need not be persisted or can be. -/
theorem keeps_keepLiveRecords_iff (hnone : supervisor.negRiskLiveExecutionRecords = []) :
    Keeps (exec (keepLiveRecords env [record]) supervisor).2 record ↔
      (supervisor.durableLivePersistenceEnabled = true → Persistable env supervisor record) := by
  simp only [keepLiveRecords, exec_bind, exec_get]
  by_cases hdurable : supervisor.durableLivePersistenceEnabled = true
  · rw [if_pos hdurable]
    rcases exec_persistLiveRecords_single env supervisor record with
      ⟨entry, hentry, hpersistable, heq⟩ | ⟨hpersistable, error, heq⟩
    · rw [heq]
      refine iff_of_true ⟨List.mem_singleton_self record, fun _ ↦ ⟨entry, ?_, hentry⟩⟩
        fun _ ↦ hpersistable
      simp
    · rw [heq]
      refine iff_of_false (fun h ↦ ?_) fun h ↦ hpersistable (h hdurable)
      have hmem := h.1
      rw [hnone] at hmem
      cases hmem
  · rw [if_neg hdurable]
    simp [Keeps, hdurable]

/-! ## The first submission decides -/

/-- Either no record has a reference, or there is a first one that has. -/
theorem first_reference_cases (records : List NegRiskLiveExecutionRecord) :
    (∀ record ∈ records, record.reference = none) ∨
    ∃ skipped record rest submissionRef, records = skipped ++ record :: rest ∧
      (∀ record ∈ skipped, record.reference = none) ∧ record.reference = some submissionRef := by
  cases hfind : records.find? fun record ↦ record.reference.isSome with
  | none => exact .inl fun record hrecord ↦ by simpa using List.find?_eq_none.mp hfind record hrecord
  | some record =>
      obtain ⟨hsome, skipped, rest, heq, hskipped⟩ := List.find?_eq_some_iff_append.mp hfind
      obtain ⟨submissionRef, href⟩ := Option.isSome_iff_exists.mp hsome
      exact .inr ⟨skipped, record, rest, submissionRef, heq,
        fun other hother ↦ by simpa using hskipped other hother, href⟩

/-- The fact that `record` was submitted is pending. -/
def Anchored (supervisor : AppSupervisor) (record : NegRiskLiveExecutionRecord)
    (submissionRef : String) : Prop :=
  supervisor.runtime.store.pendingReconcileAnchors[PendingRef.fromFactKey record.submitKey]? =
    some (record.submitAnchor submissionRef)

/-- Whether the fact of `record` becomes pending, and its rows can be appended. -/
def TakesSubmission (env : SupervisorEnv) (supervisor : AppSupervisor)
    (record : NegRiskLiveExecutionRecord) (submissionRef : String) : Prop :=
  supervisor.runtime.store.Admits (supervisor.runtime.lastJournalSeq.getD 0 + 1) record.submitKey ∧
  (supervisor.runtime.store.HasApplied record.submitKey →
    Anchored supervisor record submissionRef) ∧
  (supervisor.durableLivePersistenceEnabled = true → Persistable env supervisor record)

theorem pending_of_anchored (h : Anchored supervisor record submissionRef) :
    0 < supervisor.runtime.pendingReconcileCount :=
  BTreeMap.size_pos_iff.mpr (BTreeMap.ne_empty_of_lookup h)

section Submitted

variable {seq : Int}

theorem submitted_frame (env : SupervisorEnv) (supervisor : AppSupervisor) (seq : Int)
    (record : NegRiskLiveExecutionRecord) (submissionRef : String) :
    (submitted env supervisor seq record submissionRef).negRiskLiveExecutionRecords =
      supervisor.negRiskLiveExecutionRecords ∧
    (submitted env supervisor seq record submissionRef).setup = supervisor.setup ∧
    (submitted env supervisor seq record submissionRef).effects.liveSubmissions =
      supervisor.effects.liveSubmissions := by
  simp only [submitted, recordCommittedInput_frame]
  exact ⟨rfl, rfl, rfl⟩

/-- Applying the fact of a submission does not bear on whether its rows can be appended. -/
theorem durable_submitted_iff :
    ((submitted env supervisor seq record submissionRef).durableLivePersistenceEnabled = true →
      Persistable env (submitted env supervisor seq record submissionRef) record) ↔
    (supervisor.durableLivePersistenceEnabled = true → Persistable env supervisor record) := by
  obtain ⟨-, hsetup, hrows⟩ := submitted_frame env supervisor seq record submissionRef
  have hdurable := congrArg Setup.durableLivePersistenceEnabled hsetup
  have hsession := congrArg Setup.runSessionId hsetup
  simp only [setup] at hdurable hsession
  rw [Persistable, Persistable, hdurable, hsession, hrows]

theorem store_submitted :
    (submitted env supervisor seq record submissionRef).runtime.store =
      supervisor.runtime.store.applyStep (seq, (liveSubmitInput seq record submissionRef
        (env.now supervisor.effects.clockReads)).intoStateFactInput) := by
  simp [submitted]

/-- A fact that the store takes is pending, unless it was applied and is not any more. -/
theorem anchored_submitted_iff (env : SupervisorEnv) (submissionRef : String)
    (h : supervisor.runtime.store.Admits seq record.submitKey) :
    Anchored (submitted env supervisor seq record submissionRef) record submissionRef ↔
      (supervisor.runtime.store.HasApplied record.submitKey →
        Anchored supervisor record submissionRef) := by
  rw [Anchored, store_submitted, pending_applyStep_liveSubmit h]
  by_cases happlied : supervisor.runtime.store.HasApplied record.submitKey
  · simp [happlied, Anchored]
  · simp [happlied]

end Submitted

theorem exec_recordLiveSubmissions :
    exec (recordLiveSubmissions env records) supervisor =
      match exec (applyLiveSubmitFactsFrom env (supervisor.runtime.lastJournalSeq.getD 0) 0 records)
          supervisor with
      | (.ok applied, supervisor') => exec (keepLiveRecords env (records.take applied)) supervisor'
      | (.error error, supervisor') => (.error error, supervisor') := by
  simp only [recordLiveSubmissions, applyLiveSubmitFacts, exec_bind, exec_get]
  rcases exec (applyLiveSubmitFactsFrom env (supervisor.runtime.lastJournalSeq.getD 0) 0 records)
    supervisor with ⟨_ | _, _⟩ <;> rfl

/-- What is left once the submit fact of the first record with a reference has been
applied: the fact was refused, or it ended the loop, or it was a duplicate. -/
theorem recordLiveSubmissions_cases (env : SupervisorEnv) (supervisor : AppSupervisor)
    {skipped : List NegRiskLiveExecutionRecord} (records : List NegRiskLiveExecutionRecord)
    (hskipped : ∀ record ∈ skipped, record.reference = none)
    (href : record.reference = some submissionRef) :
    let last := supervisor.runtime.lastJournalSeq.getD 0
    let submitted := submitted env supervisor (last + 1) record submissionRef
    let final := (exec (recordLiveSubmissions env (skipped ++ record :: records)) supervisor).2
    (¬ supervisor.runtime.store.Admits (last + 1) record.submitKey ∧
      final.negRiskLiveExecutionRecords = supervisor.negRiskLiveExecutionRecords) ∨
    (supervisor.runtime.store.Admits (last + 1) record.submitKey ∧
      0 < submitted.runtime.pendingReconcileCount ∧
      final = (exec (keepLiveRecords env ((skipped ++ record :: records).take 1)) submitted).2) ∨
    (supervisor.runtime.store.Admits (last + 1) record.submitKey ∧
      submitted.runtime.pendingReconcileCount = 0 ∧ LeavesPending record submitted final) := by
  intro last submitted' final
  by_cases hadmits : supervisor.runtime.store.Admits (last + 1) record.submitKey
  · right
    have hfinal : final = (match
        if 0 < submitted'.runtime.pendingReconcileCount then
          ((.ok 1 : Except SupervisorError Nat), submitted')
        else exec (applyLiveSubmitFactsFrom env (last + 1) 1 records) submitted' with
        | (.ok applied, supervisor') =>
            exec (keepLiveRecords env ((skipped ++ record :: records).take applied)) supervisor'
        | (.error error, supervisor') => (.error error, supervisor')).2 := by
      show (exec (recordLiveSubmissions _ _) _).2 = _
      rw [exec_recordLiveSubmissions, exec_submit_of_skipped _ _ _ _ _ hskipped,
        exec_submit_of_admitted href hadmits]
    by_cases hpending : 0 < submitted'.runtime.pendingReconcileCount
    · left
      rw [if_pos hpending] at hfinal
      exact ⟨hadmits, hpending, hfinal⟩
    · right
      refine ⟨hadmits, Nat.eq_zero_of_not_pos hpending, ?_⟩
      rw [if_neg hpending] at hfinal
      have hloop : LeavesPending record submitted'
          (exec (applyLiveSubmitFactsFrom env (last + 1) 1 records) submitted').2 :=
        leavesPending_applyLiveSubmitFactsFrom submitted'
      rw [hfinal]
      generalize exec (applyLiveSubmitFactsFrom env (last + 1) 1 records) submitted' = loop at hloop
      obtain ⟨error | applied, supervisor'⟩ := loop
      · exact hloop
      · exact trans_of (LeavesPending record) hloop (.of_eq (by rw [(keepLiveRecords_frame _).1]))
  · left
    obtain ⟨error, hrefused⟩ := exec_submit_of_refused env 0 records href hadmits
    refine ⟨hadmits, ?_⟩
    show (exec (recordLiveSubmissions _ _) _).2.negRiskLiveExecutionRecords = _
    rw [exec_recordLiveSubmissions, exec_submit_of_skipped _ _ _ _ _ hskipped, hrefused]
    rfl

/-- When the first record with a reference is anchored and kept, it is the first
record of all, and the only one that is kept. -/
theorem of_first_submission_kept {skipped : List NegRiskLiveExecutionRecord}
    (hnone : supervisor.negRiskLiveExecutionRecords = [])
    (hskipped : ∀ record ∈ skipped, record.reference = none)
    (href : record.reference = some submissionRef)
    (hanchored : Anchored
      (exec (recordLiveSubmissions env (skipped ++ record :: records)) supervisor).2
      record submissionRef)
    (hkeeps : Keeps
      (exec (recordLiveSubmissions env (skipped ++ record :: records)) supervisor).2 record) :
    skipped = [] ∧ TakesSubmission env supervisor record submissionRef ∧
    ∀ other ∈
      (exec (recordLiveSubmissions env (skipped ++ record :: records)) supervisor).2
        |>.negRiskLiveExecutionRecords, other = record := by
  have hnone' : ∀ seq, (submitted env supervisor seq record submissionRef
      ).negRiskLiveExecutionRecords = [] := fun _ ↦ by rw [(submitted_frame _ _ _ _ _).1, hnone]
  rcases recordLiveSubmissions_cases env supervisor records hskipped href with
    ⟨-, hrecords⟩ | ⟨hadmits, -, hfinal⟩ | ⟨hadmits, hpending, hleaves⟩
  · have hmem := hkeeps.1
    rw [hrecords, hnone] at hmem
    cases hmem
  · have honly : ∀ other ∈
        (exec (recordLiveSubmissions env (skipped ++ record :: records)) supervisor).2
          |>.negRiskLiveExecutionRecords, other ∈ (skipped ++ record :: records).take 1 := by
      intro other hother
      rw [hfinal] at hother
      refine ((keepLiveRecords_frame _).2 other hother).resolve_right ?_
      simp [hnone']
    cases skipped with
    | cons first skipped =>
        -- a record without a reference would be kept in its place
        have heq : record = first := by simpa using honly record hkeeps.1
        have hfirst := hskipped first List.mem_cons_self
        rw [← heq, href] at hfirst
        cases hfirst
    | nil =>
        refine ⟨rfl, ⟨hadmits, ?_, ?_⟩, fun other hother ↦ by simpa using honly other hother⟩
        · rw [← anchored_submitted_iff env submissionRef hadmits]
          rw [hfinal, Anchored, (keepLiveRecords_frame _).1] at hanchored
          exact hanchored
        · rw [hfinal] at hkeeps
          exact durable_submitted_iff.mp ((keeps_keepLiveRecords_iff (hnone' _)).mp hkeeps)
  · -- the fact is a duplicate of one that is not pending any more
    exfalso
    have happlied : supervisor.runtime.store.HasApplied record.submitKey := by
      by_contra hnew
      have h := (anchored_submitted_iff env submissionRef hadmits).mpr
        (absurd · hnew)
      exact absurd hpending (pending_of_anchored h).ne'
    have hkey : (submitted env supervisor (supervisor.runtime.lastJournalSeq.getD 0 + 1) record
        submissionRef).runtime.store.HasApplied record.submitKey := by
      rw [store_submitted]
      exact happlied.step (.apply (_, _))
    have h : Anchored (submitted env supervisor (supervisor.runtime.lastJournalSeq.getD 0 + 1)
        record submissionRef) record submissionRef := (hleaves hkey).2.symm.trans hanchored
    exact absurd hpending (pending_of_anchored h).ne'

/-- A submission that is not lost: its fact is pending, its record held and persisted. -/
def SubmissionKept (supervisor : AppSupervisor) (record : NegRiskLiveExecutionRecord)
    (submissionRef : String) : Prop :=
  Anchored supervisor record submissionRef ∧ Keeps supervisor record

/-- The first of a batch of submissions is kept if the store and the database take it. -/
theorem submissionKept_first (hnone : supervisor.negRiskLiveExecutionRecords = [])
    (href : record.reference = some submissionRef)
    (htakes : TakesSubmission env supervisor record submissionRef) :
    SubmissionKept (exec (recordLiveSubmissions env (record :: records)) supervisor).2 record
      submissionRef := by
  obtain ⟨hadmits, hanchored, hdurable⟩ := htakes
  have hanchored := (anchored_submitted_iff env submissionRef hadmits).mpr hanchored
  rcases recordLiveSubmissions_cases env supervisor records
    (fun _ ↦ (absurd · List.not_mem_nil)) href with
    ⟨hrefused, -⟩ | ⟨-, -, hfinal⟩ | ⟨-, hpending, -⟩
  · exact absurd hadmits hrefused
  · rw [List.nil_append] at hfinal
    rw [hfinal]
    refine ⟨?_, (keeps_keepLiveRecords_iff ?_).mpr (durable_submitted_iff.mpr hdurable)⟩
    · rwa [Anchored, (keepLiveRecords_frame _).1]
    · rw [(submitted_frame _ _ _ _ _).1, hnone]
  · exact absurd hpending (pending_of_anchored hanchored).ne'

/-- Every submission of a batch is kept exactly when there is none, or the first
record is the only one submitted and the store and the database take it. -/
theorem forall_submissionKept_iff (env : SupervisorEnv) (supervisor : AppSupervisor)
    (records : List NegRiskLiveExecutionRecord) (hnone : supervisor.negRiskLiveExecutionRecords = []) :
    (∀ record ∈ records, ∀ submissionRef, record.reference = some submissionRef →
      SubmissionKept (exec (recordLiveSubmissions env records) supervisor).2 record submissionRef) ↔
    (∀ record ∈ records, record.reference = none) ∨
    ∃ record submissionRef, records.head? = some record ∧
      record.reference = some submissionRef ∧
      (∀ other ∈ records, other.reference = none ∨ other = record) ∧
      TakesSubmission env supervisor record submissionRef := by
  constructor
  · intro h
    rcases first_reference_cases records with
      hnever | ⟨skipped, record, rest, submissionRef, rfl, hskipped, href⟩
    · exact .inl hnever
    · right
      obtain ⟨hanchored, hkeeps⟩ := h record (by simp) submissionRef href
      obtain ⟨rfl, htakes, honly⟩ := of_first_submission_kept hnone hskipped href hanchored hkeeps
      refine ⟨record, submissionRef, rfl, href, fun other hother ↦ ?_, htakes⟩
      cases hreference : other.reference with
      | none => exact .inl rfl
      | some otherRef => exact .inr (honly other (h other hother otherRef hreference).2.1)
  · rintro (hunreferenced | ⟨record, submissionRef, hhead, href, hothers, htakes⟩) other hother
      otherRef hotherRef
    · rw [hunreferenced other hother] at hotherRef
      cases hotherRef
    · obtain ⟨rest, rfl⟩ := List.head?_eq_some_iff.mp hhead
      have heq : other = record := (hothers other hother).resolve_left (by simp [hotherRef])
      subst heq
      rw [href] at hotherRef
      cases hotherRef
      exact submissionKept_first hnone href htakes

/-! ## A refresh -/

/-- The supervisor once a batch of families has been submitted. -/
def called (supervisor : AppSupervisor) (batch : List LiveCall) : AppSupervisor :=
  { supervisor with effects.venueCalls := supervisor.effects.venueCalls ++ batch }

/-- The families that are approved and ready, with their targets. -/
def eligibleFamilies (supervisor : AppSupervisor) : Families :=
  eligible supervisor.negRiskLiveApprovedFamilies supervisor.negRiskLiveReadyFamilies
    supervisor.negRiskLiveTargets.toList

/-- The calls that submit the eligible families under a snapshot. -/
def liveBatchFor (env : SupervisorEnv) (supervisor : AppSupervisor) (snapshotId : String) :
    List LiveCall :=
  venueBatch (supervisor.backend env) snapshotId supervisor.negRiskLiveApprovedFamilies
    supervisor.effects.venueCalls supervisor.eligibleFamilies

/-- The calls to the venue of a refresh. -/
def liveBatch (env : SupervisorEnv) (supervisor : AppSupervisor) : List LiveCall :=
  match supervisor.refreshSnapshotId true with
  | none => []
  | some snapshotId =>
      if supervisor.realUserShadowSmokeEnabled then [] else liveBatchFor env supervisor snapshotId

theorem exec_executeLiveRecords (snapshotId : String) :
    exec (executeLiveRecords env snapshotId) supervisor =
      (((liveBatchFor env supervisor snapshotId).mapM LiveCall.answer).mapError
          fun error ↦ { message := error.toString },
        supervisor.called (liveBatchFor env supervisor snapshotId)) := by
  simp only [executeLiveRecords, eligibleLiveRecordsWithBackend, exec_bind, exec_get, exec_focus,
    exec_liveRecords, liveBatchFor, eligibleFamilies]
  generalize venueBatch (supervisor.backend env) _ _ _ _ = batch
  cases batch.mapM LiveCall.answer <;> rfl

theorem records_eq_nil_of_refreshSnapshotId {snapshotId : String}
    (h : supervisor.refreshSnapshotId true = some snapshotId)
    (hsmoke : supervisor.realUserShadowSmokeEnabled = false) :
    supervisor.negRiskLiveExecutionRecords = [] := by
  by_contra hrecords
  simp [refreshSnapshotId, hsmoke, hrecords] at h

/-- A refresh that submits nothing leaves the venue alone; any other submits its
batch, and records the submissions if none failed. -/
theorem refresh_cases (env : SupervisorEnv) (supervisor : AppSupervisor) :
    (liveBatch env supervisor = [] ∧
      Idle supervisor (exec (refreshNegRiskLiveExecutionRecords env true) supervisor).2) ∨
    (supervisor.negRiskLiveExecutionRecords = [] ∧
      exec (refreshNegRiskLiveExecutionRecords env true) supervisor =
        match (liveBatch env supervisor).mapM LiveCall.answer with
        | .ok records =>
            exec (recordLiveSubmissions env records)
              (supervisor.called (liveBatch env supervisor))
        | .error error =>
            (.error { message := error.toString },
              supervisor.called (liveBatch env supervisor))) := by
  cases hrefresh : supervisor.refreshSnapshotId true with
  | none =>
      left
      simp only [liveBatch, refreshNegRiskLiveExecutionRecords, exec_bind, exec_get, hrefresh]
      exact ⟨trivial, refl_of Idle supervisor⟩
  | some snapshotId =>
      cases hsmoke : supervisor.realUserShadowSmokeEnabled with
      | true =>
          left
          simp only [liveBatch, refreshNegRiskLiveExecutionRecords, exec_bind, exec_get, hrefresh,
            hsmoke, if_true]
          exact ⟨trivial, within_refreshShadowRecords env snapshotId supervisor⟩
      | false =>
          right
          refine ⟨records_eq_nil_of_refreshSnapshotId hrefresh hsmoke, ?_⟩
          simp only [liveBatch, refreshNegRiskLiveExecutionRecords, refreshLiveRecords, exec_bind,
            exec_get, hrefresh, hsmoke, Bool.false_eq_true, if_false, exec_executeLiveRecords]
          cases (liveBatchFor env supervisor snapshotId).mapM LiveCall.answer <;> rfl

/-- No submission that the venue took during a refresh is lost. -/
def NoSubmissionLost (env : SupervisorEnv) (supervisor : AppSupervisor) : Prop :=
  let final := (exec (refreshNegRiskLiveExecutionRecords env true) supervisor).2
  ∀ call ∈ final.effects.venueCalls.drop supervisor.effects.venueCalls.length,
    ∀ record submissionRef, call.answer = .ok record → record.reference = some submissionRef →
      SubmissionKept final record submissionRef

/-- The first family of a batch is the only one that is submitted: none fails, and the
store and the database take the submission. -/
def SoleSubmission (env : SupervisorEnv) (supervisor : AppSupervisor) (batch : List LiveCall) :
    Prop :=
  ∃ call record submissionRef, batch.head? = some call ∧ call.answer = .ok record ∧
    record.reference = some submissionRef ∧
    (∀ call ∈ batch, ∃ other, call.answer = .ok other ∧ (other.reference = none ∨ other = record)) ∧
    TakesSubmission env supervisor record submissionRef

section Batch

variable {batch : List LiveCall} (hnone : supervisor.negRiskLiveExecutionRecords = [])

include hnone

/-- A batch with a failed submission loses those before it. -/
theorem forall_kept_iff_of_failed {error : NegRiskLiveError}
    (hanswers : batch.mapM LiveCall.answer = .error error) :
    (∀ call ∈ batch, ∀ record submissionRef, call.answer = .ok record →
      record.reference = some submissionRef →
      SubmissionKept (supervisor.called batch) record submissionRef) ↔
      (∀ call ∈ batch, ∀ record, call.answer = .ok record → record.reference = none) ∨
      SoleSubmission env supervisor batch := by
  obtain ⟨failed, hfailed, hanswer⟩ := exists_error_of_mapM hanswers
  constructor
  · intro h
    left
    intro call hcall record hrecord
    cases href : record.reference with
    | none => rfl
    | some submissionRef =>
        have hmem := (h call hcall record submissionRef hrecord href).2.1
        rw [called, hnone] at hmem
        cases hmem
  · rintro (hunreferenced | ⟨-, _, -, -, -, -, hall, -⟩) call hcall record submissionRef
      hrecord href
    · rw [hunreferenced call hcall record hrecord] at href
      cases href
    · obtain ⟨other, hother, -⟩ := hall failed hfailed
      exact absurd hother (hanswer other)

/-- A batch that is answered keeps what the first submission alone can keep. -/
theorem forall_kept_iff_of_answered {records : List NegRiskLiveExecutionRecord}
    (hanswers : batch.mapM LiveCall.answer = .ok records) :
    (∀ call ∈ batch, ∀ record submissionRef, call.answer = .ok record →
      record.reference = some submissionRef →
      SubmissionKept (exec (recordLiveSubmissions env records) (supervisor.called batch)).2
        record submissionRef) ↔
      (∀ call ∈ batch, ∀ record, call.answer = .ok record → record.reference = none) ∨
      SoleSubmission env supervisor batch := by
  have hiff := forall_submissionKept_iff env (supervisor.called batch) records hnone
  have hhead : batch.head?.map LiveCall.answer = records.head?.map Except.ok := by
    rw [← List.head?_map, ← List.head?_map, mapM_eq_ok_iff.mp hanswers]
  simp only [mem_values_iff hanswers, forall_exists_index, and_imp] at hiff
  constructor
  · intro h
    rcases hiff.mp fun record call hcall hrecord submissionRef href ↦
        h call hcall record submissionRef hrecord href with
      hnone | ⟨record, submissionRef, hfirst, href, hothers, htakes⟩
    · exact .inl fun call hcall record hrecord ↦ hnone record call hcall hrecord
    · right
      rw [hfirst] at hhead
      obtain ⟨call, hcall, hrecord⟩ := Option.map_eq_some_iff.mp hhead
      refine ⟨call, record, submissionRef, hcall, hrecord, href, fun other hother ↦ ?_, htakes⟩
      obtain ⟨value, -, hvalue⟩ := exists_of_mapM_eq_ok hanswers hother
      exact ⟨value, hvalue, hothers value other hother hvalue⟩
  · intro h call hcall record submissionRef hrecord href
    refine hiff.mpr ?_ record call hcall hrecord submissionRef href
    rcases h with hnone | ⟨first, record, submissionRef, hfirst, hrecord, href, hothers, htakes⟩
    · exact .inl fun record call hcall hrecord ↦ hnone call hcall record hrecord
    · right
      refine ⟨record, submissionRef, ?_, href, fun other call hcall hother ↦ ?_, htakes⟩
      · rw [hfirst, Option.map_some, hrecord] at hhead
        obtain ⟨value, hvalue, heq⟩ := Option.map_eq_some_iff.mp hhead.symm
        cases heq
        exact hvalue
      · obtain ⟨value, hvalue, heq⟩ := hothers call hcall
        rw [hother] at hvalue
        cases hvalue
        exact heq

end Batch

/-- Submissions survive a refresh exactly when the venue took none, or took the first
of the batch and no other. -/
theorem noSubmissionLost_iff (env : SupervisorEnv) (supervisor : AppSupervisor) :
    NoSubmissionLost env supervisor ↔
      (∀ call ∈ liveBatch env supervisor, ∀ record, call.answer = .ok record →
        record.reference = none) ∨
      SoleSubmission env supervisor (liveBatch env supervisor) := by
  rcases refresh_cases env supervisor with ⟨hbatch, hidle⟩ | ⟨hnone, hrefresh⟩
  · refine iff_of_true ?_ (.inl (by simp [hbatch]))
    simp [NoSubmissionLost, hidle.venueCalls]
  · generalize liveBatch env supervisor = batch at hrefresh ⊢
    have hcalled : (supervisor.called batch).effects.venueCalls.drop
        supervisor.effects.venueCalls.length = batch := List.drop_left
    cases hanswers : batch.mapM LiveCall.answer with
    | error error =>
        simp only [NoSubmissionLost, hrefresh, hanswers, hcalled]
        exact forall_kept_iff_of_failed hnone hanswers
    | ok records =>
        have hstill := within_recordLiveSubmissions env records (supervisor.called batch)
        simp only [NoSubmissionLost, hrefresh, hanswers, hstill.venueCalls, hcalled]
        exact forall_kept_iff_of_answered hnone hanswers

/-! ## Two families -/

/-- The record of a submission that the venue takes under a reference of its own. -/
def takenRecord (snapshotId : String) (target : NegRiskFamilyLiveTarget) (matchedRuleId : String) :
    NegRiskLiveExecutionRecord :=
  { attemptId := s!"attempt-{target.familyId}"
    planId := s!"plan-{target.familyId}"
    snapshotId
    executionMode := .live
    attemptNo := 1
    idempotencyKey := s!"key-{target.familyId}"
    route := "neg-risk"
    scope := target.familyId
    matchedRuleId := some matchedRuleId
    submissionRef := some s!"submission-{target.familyId}"
    pendingRef := none
    artifacts := []
    orderRequests := [] }

/-- A venue that takes every submission, and databases that take every row. -/
def takingEnv : SupervisorEnv :=
  { hookBackend := ⟨fun _ snapshotId target rule ↦ .ok (takenRecord snapshotId target rule)⟩
    executeShadowFamily := fun _ _ _ _ ↦ .error (.sink "no shadow sink")
    liveDatabase := ⟨fun _ ↦ .ok (), fun _ _ ↦ .ok ()⟩
    persistShadow := fun _ _ ↦ .ok ()
    persistNotice := fun _ _ ↦ .error "no discovery"
    liveTargetRevision := fun _ ↦ "revision"
    now := fun clockReads ↦ clockReads }

/-- The seeds of families that are approved and ready. -/
def familySeeds (familyIds : List String) : List SeedOp :=
  .negRiskLiveTargets (.byKey NegRiskFamilyLiveTarget.familyId
      (familyIds.map fun familyId ↦ { familyId, members := [] })) ::
    familyIds.flatMap fun familyId ↦
      [.negRiskLiveApproval familyId, .negRiskLiveReadyFamily familyId]

/-- A fresh live supervisor that is about to submit the families. -/
def startedWith (familyIds : List String) : AppSupervisor :=
  let seeded := (familySeeds familyIds).foldl (applySeed takingEnv) (new .live .empty)
  { seeded with runtime := (seeded.runtime.bootstrapOnce seeded.bootstrapSnapshot).2
  }.publishCurrentSnapshot true

/-- Of two families that the venue takes, the second is lost. -/
theorem submission_lost_of_two :
    ¬ NoSubmissionLost takingEnv (startedWith ["family-a", "family-b"]) := by
  intro h
  have hcall := List.get_mem ((exec (refreshNegRiskLiveExecutionRecords takingEnv true)
    (startedWith ["family-a", "family-b"])).2.effects.venueCalls.drop
      (startedWith ["family-a", "family-b"]).effects.venueCalls.length) ⟨1, by decide⟩
  have hkept := (h _ hcall
    (takenRecord "snapshot-0" { familyId := "family-b", members := [] } "family-b-live")
    "submission-family-b" (by decide) (by decide)).2.1
  revert hkept
  decide

end AppSupervisor

end AxiomArb.AppLive
