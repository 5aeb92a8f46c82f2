import AxiomArb.AppLive.Resting

/-!
# Publishing what is published

A second publication changes nothing but what is dispatched.  Neither do the facts of the
submissions change what a publication would install, since none of them settles anything,
nor records that are held of the published snapshot.
-/

namespace AxiomArb.AppLive

open Domain Library State

namespace AppSupervisor

variable {env : SupervisorEnv} {supervisor supervisor' : AppSupervisor} {input : InputTaskEvent}

/-! ## Publishing again -/

/-- The evidence that a publication installs, and where it is from. -/
def currentEvidence (supervisor : AppSupervisor) (allow : Bool) :
    Option NegRiskRolloutEvidence × NegRiskRolloutEvidenceSource :=
  match (supervisor.runtime.publishSnapshot (snapshotIdFor supervisor.runtime.stateVersion)).1 with
  | some snapshot =>
      (some (supervisor.rolloutEvidenceForSnapshot snapshot allow).1,
        (supervisor.rolloutEvidenceForSnapshot snapshot allow).2)
  | none => (none, .none)

/-- The supervisor once its runtime has published, but not yet its evidence. -/
def publishedRuntime (supervisor : AppSupervisor) : AppRuntime :=
  (supervisor.runtime.publishSnapshot (snapshotIdFor supervisor.runtime.stateVersion)).2

theorem publishCurrentSnapshot_eq (supervisor : AppSupervisor) (allow : Bool) :
    ∃ dispatcher, supervisor.publishCurrentSnapshot allow =
      { supervisor with runtime := supervisor.publishedRuntime, dispatcher }.installEvidence
        (supervisor.currentEvidence allow).1 (supervisor.currentEvidence allow).2 := by
  unfold publishCurrentSnapshot currentEvidence publishedRuntime
  rcases supervisor.runtime.publishSnapshot (snapshotIdFor supervisor.runtime.stateVersion) with
    ⟨_ | snapshot, runtime⟩
  · exact ⟨supervisor.dispatcher, rfl⟩
  · exact ⟨_, rfl⟩

section Retain

variable (supervisor : AppSupervisor)

theorem retainLive_retainLive :
    supervisor.retainCurrentNegRiskLiveExecutionRecords.retainCurrentNegRiskLiveExecutionRecords =
      supervisor.retainCurrentNegRiskLiveExecutionRecords := by
  unfold retainCurrentNegRiskLiveExecutionRecords
  cases h : supervisor.runtime.publishedSnapshotId with
  | none => simp [h]
  | some snapshotId =>
      simp only [h, List.filter_filter, Bool.and_self]
      split <;> rfl

theorem retainShadow_retainShadow :
    supervisor.retainCurrentNegRiskShadowExecutionRecords.retainCurrentNegRiskShadowExecutionRecords =
      supervisor.retainCurrentNegRiskShadowExecutionRecords := by
  unfold retainCurrentNegRiskShadowExecutionRecords
  cases h : supervisor.runtime.publishedSnapshotId with
  | none => simp [h]
  | some snapshotId => simp [h, List.filter_filter]

theorem retainLive_retainShadow :
    supervisor.retainCurrentNegRiskShadowExecutionRecords.retainCurrentNegRiskLiveExecutionRecords =
      supervisor.retainCurrentNegRiskLiveExecutionRecords.retainCurrentNegRiskShadowExecutionRecords := by
  unfold retainCurrentNegRiskShadowExecutionRecords retainCurrentNegRiskLiveExecutionRecords
  cases h : supervisor.runtime.publishedSnapshotId with
  | none => simp [h]
  | some snapshotId => simp [h]

theorem retainLive_dispatcher (dispatcher : DispatchLoop) :
    { supervisor with dispatcher }.retainCurrentNegRiskLiveExecutionRecords =
      { supervisor.retainCurrentNegRiskLiveExecutionRecords with dispatcher } := by
  unfold retainCurrentNegRiskLiveExecutionRecords
  cases supervisor.runtime.publishedSnapshotId <;> rfl

theorem retainShadow_dispatcher (dispatcher : DispatchLoop) :
    { supervisor with dispatcher }.retainCurrentNegRiskShadowExecutionRecords =
      { supervisor.retainCurrentNegRiskShadowExecutionRecords with dispatcher } := by
  unfold retainCurrentNegRiskShadowExecutionRecords
  cases supervisor.runtime.publishedSnapshotId <;> rfl

theorem retainShadow_live (records : List NegRiskLiveExecutionRecord)
    (source : NegRiskLiveStateSource) (effects : Effects) :
    { supervisor with
      negRiskLiveExecutionRecords := records, negRiskLiveStateSource := source, effects
    }.retainCurrentNegRiskShadowExecutionRecords =
      { supervisor.retainCurrentNegRiskShadowExecutionRecords with
        negRiskLiveExecutionRecords := records, negRiskLiveStateSource := source, effects } := by
  unfold retainCurrentNegRiskShadowExecutionRecords
  cases supervisor.runtime.publishedSnapshotId <;> rfl

theorem retainLive_shadow (attempts : List ExecutionAttemptRow)
    (artifacts : List ShadowExecutionArtifactRow) :
    { supervisor with
      negRiskShadowExecutionAttempts := attempts, negRiskShadowExecutionArtifacts := artifacts
    }.retainCurrentNegRiskLiveExecutionRecords =
      { supervisor.retainCurrentNegRiskLiveExecutionRecords with
        negRiskShadowExecutionAttempts := attempts, negRiskShadowExecutionArtifacts := artifacts } := by
  unfold retainCurrentNegRiskLiveExecutionRecords
  cases supervisor.runtime.publishedSnapshotId <;> rfl

theorem retainLive_books (store : StateStore) (committedLog : List InputTaskEvent)
    (effects : Effects) :
    { supervisor with runtime.store := store, committedLog, effects
    }.retainCurrentNegRiskLiveExecutionRecords =
      { supervisor.retainCurrentNegRiskLiveExecutionRecords with
        runtime.store := store, committedLog, effects } := by
  unfold retainCurrentNegRiskLiveExecutionRecords AppRuntime.publishedSnapshotId
  cases supervisor.runtime.publishedSnapshot <;> rfl

theorem retainShadow_books (store : StateStore) (committedLog : List InputTaskEvent)
    (effects : Effects) :
    { supervisor with runtime.store := store, committedLog, effects
    }.retainCurrentNegRiskShadowExecutionRecords =
      { supervisor.retainCurrentNegRiskShadowExecutionRecords with
        runtime.store := store, committedLog, effects } := by
  unfold retainCurrentNegRiskShadowExecutionRecords AppRuntime.publishedSnapshotId
  cases supervisor.runtime.publishedSnapshot <;> rfl

end Retain

/-- A publication that would change nothing but what is dispatched. -/
structure UpToDate (allow : Bool) (supervisor : AppSupervisor) : Prop where
  runtime : supervisor.publishedRuntime = supervisor.runtime
  evidence : supervisor.negRiskRolloutEvidence = (supervisor.currentEvidence allow).1
  source : supervisor.negRiskRolloutEvidenceSource = (supervisor.currentEvidence allow).2
  live : supervisor.retainCurrentNegRiskLiveExecutionRecords = supervisor
  shadow : supervisor.retainCurrentNegRiskShadowExecutionRecords = supervisor

theorem UpToDate.publish {allow : Bool} (h : UpToDate allow supervisor) :
    ∃ dispatcher, supervisor.publishCurrentSnapshot allow = { supervisor with dispatcher } := by
  obtain ⟨dispatcher, heq⟩ := publishCurrentSnapshot_eq supervisor allow
  refine ⟨dispatcher, ?_⟩
  rw [heq, h.runtime, ← h.evidence, ← h.source]
  change { supervisor with dispatcher
    }.retainCurrentNegRiskLiveExecutionRecords.retainCurrentNegRiskShadowExecutionRecords =
      { supervisor with dispatcher }
  rw [retainLive_dispatcher, h.live, retainShadow_dispatcher, h.shadow]

theorem UpToDate.dispatch {allow : Bool} (h : UpToDate allow supervisor) (dispatcher : DispatchLoop) :
    UpToDate allow { supervisor with dispatcher } where
  runtime := h.runtime
  evidence := h.evidence
  source := h.source
  live := by rw [retainLive_dispatcher, h.live]
  shadow := by rw [retainShadow_dispatcher, h.shadow]

theorem publishSnapshot_again (runtime : AppRuntime) (snapshotId : String) :
    (runtime.publishSnapshot snapshotId).2.publishSnapshot snapshotId =
      runtime.publishSnapshot snapshotId := by
  unfold AppRuntime.publishSnapshot
  rcases hpublished : PublishedSnapshot.fromStore runtime.store
      (.readyFullsetPendingNegrisk snapshotId) with _ | snapshot
  · simp [hpublished]
  · simp [hpublished]

theorem publishSnapshot_fst (runtime : AppRuntime) (snapshotId : String) :
    (runtime.publishSnapshot snapshotId).1 =
      PublishedSnapshot.fromStore runtime.store (.readyFullsetPendingNegrisk snapshotId) := by
  unfold AppRuntime.publishSnapshot
  split
  · rename_i hnone
    exact hnone.symm
  · rename_i hsome
    exact hsome.symm

theorem stateVersion_publishSnapshot (runtime : AppRuntime) (snapshotId : String) :
    (runtime.publishSnapshot snapshotId).2.stateVersion = runtime.stateVersion := by
  unfold AppRuntime.publishSnapshot
  split <;> rfl

theorem rolloutEvidenceForSnapshot_congr (hsetup : supervisor'.setup = supervisor.setup)
    (snapshot : PublishedSnapshot) (allow : Bool) :
    supervisor'.rolloutEvidenceForSnapshot snapshot allow =
      supervisor.rolloutEvidenceForSnapshot snapshot allow := by
  simp only [setup, Setup.mk.injEq] at hsetup
  simp only [rolloutEvidenceForSnapshot, syntheticLiveReadyFamilyCount, hsetup]

/-- The evidence depends on the setup and on the snapshot that is published. -/
theorem currentEvidence_congr (hsetup : supervisor'.setup = supervisor.setup)
    (hsnapshot : (supervisor'.runtime.publishSnapshot
        (snapshotIdFor supervisor'.runtime.stateVersion)).1 =
      (supervisor.runtime.publishSnapshot (snapshotIdFor supervisor.runtime.stateVersion)).1)
    (allow : Bool) : supervisor'.currentEvidence allow = supervisor.currentEvidence allow := by
  unfold currentEvidence
  rw [hsnapshot]
  cases (supervisor.runtime.publishSnapshot (snapshotIdFor supervisor.runtime.stateVersion)).1 with
  | none => rfl
  | some snapshot => simp only [rolloutEvidenceForSnapshot_congr hsetup]

theorem source_installEvidence (supervisor : AppSupervisor)
    (evidence : Option NegRiskRolloutEvidence) (source : NegRiskRolloutEvidenceSource) :
    (supervisor.installEvidence evidence source).negRiskRolloutEvidenceSource = source := by
  unfold installEvidence retainCurrentNegRiskShadowExecutionRecords
    retainCurrentNegRiskLiveExecutionRecords
  cases h : supervisor.runtime.publishedSnapshotId with
  | none => simp [h]
  | some snapshotId => simp [h]

theorem upToDate_publish (supervisor : AppSupervisor) (allow : Bool) :
    UpToDate allow (supervisor.publishCurrentSnapshot allow) := by
  have hsetup := (publishCurrentSnapshot_frame supervisor allow).1
  obtain ⟨dispatcher, heq⟩ := publishCurrentSnapshot_eq supervisor allow
  rw [heq] at hsetup ⊢
  obtain ⟨-, hruntime, -, -, -, hevidence⟩ := installEvidence_frame
    { supervisor with runtime := supervisor.publishedRuntime, dispatcher }
    (supervisor.currentEvidence allow).1 (supervisor.currentEvidence allow).2
  have hpublish : (supervisor.publishedRuntime).publishSnapshot
      (snapshotIdFor supervisor.publishedRuntime.stateVersion) =
        supervisor.runtime.publishSnapshot (snapshotIdFor supervisor.runtime.stateVersion) := by
    rw [publishedRuntime, stateVersion_publishSnapshot, publishSnapshot_again]
  have hcurrent := currentEvidence_congr hsetup (by rw [hruntime, hpublish]) allow
  refine ⟨?_, ?_, ?_, ?_, ?_⟩
  · rw [publishedRuntime, hruntime, hpublish]
    rfl
  · rw [hcurrent, hevidence]
  · rw [hcurrent, source_installEvidence]
  · rw [installEvidence, retainLive_retainShadow, retainLive_retainLive]
  · rw [installEvidence, retainShadow_retainShadow]

/-! ## Publishing on another word -/

/-- Evidence of the snapshot is installed whatever it says. -/
theorem snapshotId_currentEvidence (supervisor : AppSupervisor) (allow allow' : Bool) :
    (supervisor.currentEvidence allow').1.map NegRiskRolloutEvidence.snapshotId =
      (supervisor.currentEvidence allow).1.map NegRiskRolloutEvidence.snapshotId := by
  unfold currentEvidence
  cases (supervisor.runtime.publishSnapshot (snapshotIdFor supervisor.runtime.stateVersion)).1 with
  | none => rfl
  | some snapshot => simp [snapshotId_rolloutEvidenceForSnapshot]

/-- The records that are kept are those of the snapshot that is published, and of its evidence. -/
theorem records_installEvidence {evidence : Option NegRiskRolloutEvidence}
    (source : NegRiskRolloutEvidenceSource)
    (h : evidence.map NegRiskRolloutEvidence.snapshotId =
      supervisor.negRiskRolloutEvidence.map NegRiskRolloutEvidence.snapshotId) :
    (supervisor.installEvidence evidence source).negRiskLiveExecutionRecords =
        supervisor.retainCurrentNegRiskLiveExecutionRecords.negRiskLiveExecutionRecords ∧
      (supervisor.installEvidence evidence source).negRiskShadowExecutionAttempts =
        supervisor.retainCurrentNegRiskShadowExecutionRecords.negRiskShadowExecutionAttempts := by
  unfold installEvidence retainCurrentNegRiskShadowExecutionRecords
    retainCurrentNegRiskLiveExecutionRecords
  cases hid : supervisor.runtime.publishedSnapshotId with
  | none => simp [hid]
  | some snapshotId => simp [hid, h]

/-- What is held of the published snapshot is held however it is published again. -/
theorem UpToDate.records_publish {allow : Bool} (h : UpToDate allow supervisor) (allow' : Bool) :
    (supervisor.publishCurrentSnapshot allow').negRiskLiveExecutionRecords =
        supervisor.negRiskLiveExecutionRecords ∧
      (supervisor.publishCurrentSnapshot allow').negRiskShadowExecutionAttempts =
        supervisor.negRiskShadowExecutionAttempts := by
  obtain ⟨dispatcher, heq⟩ := publishCurrentSnapshot_eq supervisor allow'
  have hevidence : (supervisor.currentEvidence allow').1.map NegRiskRolloutEvidence.snapshotId =
      supervisor.negRiskRolloutEvidence.map NegRiskRolloutEvidence.snapshotId := by
    rw [h.evidence, snapshotId_currentEvidence supervisor allow allow']
  have hrecords := @records_installEvidence { supervisor with dispatcher } _
    (supervisor.currentEvidence allow').2 hevidence
  rw [retainLive_dispatcher, retainShadow_dispatcher, h.live, h.shadow] at hrecords
  rw [heq, h.runtime]
  exact hrecords

theorem allow_congr (hsetup : supervisor'.setup = supervisor.setup)
    (hstore : supervisor'.runtime.store = supervisor.runtime.store)
    (hlog : supervisor'.committedLog = supervisor.committedLog)
    (hrecords : supervisor'.negRiskLiveExecutionRecords = supervisor.negRiskLiveExecutionRecords)
    (hattempts : supervisor'.negRiskShadowExecutionAttempts =
      supervisor.negRiskShadowExecutionAttempts) :
    supervisor'.allowOperatorRolloutEvidenceSynthesis =
      supervisor.allowOperatorRolloutEvidenceSynthesis := by
  have hseed : supervisor'.seed = supervisor.seed := congrArg Setup.seed hsetup
  simp only [allowOperatorRolloutEvidenceSynthesis, pristineBootstrap, hasSeededStartupState, hseed,
    hlog, hrecords, hattempts, AppRuntime.lastJournalSeq, AppRuntime.stateVersion,
    AppRuntime.pendingReconcileCount, hstore]

theorem UpToDate.allow_publish {allow : Bool} (h : UpToDate allow supervisor) (allow' : Bool) :
    (supervisor.publishCurrentSnapshot allow').allowOperatorRolloutEvidenceSynthesis =
      supervisor.allowOperatorRolloutEvidenceSynthesis := by
  obtain ⟨hsetup, hstore, hlog, -, -⟩ := publishCurrentSnapshot_frame supervisor allow'
  obtain ⟨hrecords, hattempts⟩ := h.records_publish allow'
  exact allow_congr hsetup hstore hlog hrecords hattempts

/-! ## What a refresh leaves -/

/-- The facts of the submissions change the journal and the log, and nothing that is
published. -/
inductive Books (supervisor : AppSupervisor) : AppSupervisor → Prop
  | mk (store : StateStore) (committedLog : List InputTaskEvent) (effects : Effects)
    (hpublished : ∀ readiness, PublishedSnapshot.fromStore store readiness =
      PublishedSnapshot.fromStore supervisor.runtime.store readiness)
    (hversion : store.stateVersion = supervisor.runtime.store.stateVersion) :
    Books supervisor { supervisor with runtime.store := store, committedLog, effects }

instance : Std.Refl Books := ⟨fun supervisor ↦
  .mk supervisor.runtime.store supervisor.committedLog supervisor.effects (fun _ ↦ rfl) rfl⟩

instance : IsTrans AppSupervisor Books := ⟨fun _ _ _ h h' ↦ by
  obtain ⟨_, _, _, hpublished, hversion⟩ := h
  obtain ⟨store, committedLog, effects, hpublished', hversion'⟩ := h'
  exact .mk store committedLog effects (fun readiness ↦ (hpublished' readiness).trans (hpublished readiness))
    (hversion'.trans hversion)⟩

/-- A snapshot is made of the version, the last applied fact and the copy of the orders. -/
theorem fromStore_congr {store store' : StateStore}
    (hversion : store'.stateVersion = store.stateVersion)
    (happlied : store'.lastAppliedJournalSeq = store.lastAppliedJournalSeq)
    (hanchor : store'.fullsetAnchor = store.fullsetAnchor) (readiness : ProjectionReadiness) :
    PublishedSnapshot.fromStore store' readiness = PublishedSnapshot.fromStore store readiness := by
  simp only [PublishedSnapshot.fromStore, StateStore.anchoredFullset, hversion, happlied, hanchor]

/-- A fact that stays open, or was applied before, changes nothing that is published. -/
theorem published_applyStep_of_open {store : StateStore} {input : JournaledFact}
    (hopen : ¬ input.2.applyHint.Settles) :
    (∀ readiness, PublishedSnapshot.fromStore (store.applyStep input) readiness =
      PublishedSnapshot.fromStore store readiness) ∧
    (store.applyStep input).stateVersion = store.stateVersion := by
  have hconsumed := StateStore.consume_frame store input.1 input.2.factKey
  have hcopy : (store.consume input.1 input.2.factKey).fullsetAnchor = store.fullsetAnchor :=
    StateStore.sameFullset_consume.2
  unfold StateStore.applyStep
  rcases store.apply_cases input.1 input.2 with ⟨-, _, heq⟩ | ⟨-, -, _, _, heq⟩ |
      ⟨-, -, hsettles, -⟩ | ⟨-, -, -, _, _, heq⟩
  · rw [heq]
    exact ⟨fun _ ↦ rfl, rfl⟩
  · rw [heq]
    exact ⟨fromStore_congr hconsumed.1 hconsumed.2.1 hcopy, hconsumed.1⟩
  · exact absurd hsettles hopen
  · rw [heq]
    simp only [StateStore.markReconcileRequired_fields, StateStore.absorb_frame, hconsumed.1,
      and_true]
    refine fromStore_congr ?_ ?_ ?_
    · simp
    · simp
    · exact (StateStore.sameFullset_absorb.2).trans hcopy

theorem books_recordCommittedInput : Books supervisor (supervisor.recordCommittedInput input) := by
  unfold recordCommittedInput
  split <;> exact .mk _ _ _ (fun _ ↦ rfl) rfl

theorem books_submitted {seq : Int} {record : NegRiskLiveExecutionRecord} {submissionRef : String} :
    Books supervisor (submitted env supervisor seq record submissionRef) := by
  let input := liveSubmitInput seq record submissionRef (env.now supervisor.effects.clockReads)
  have hopen : ¬ input.intoStateFactInput.applyHint.Settles := id
  obtain ⟨hpublished, hversion⟩ :=
    @published_applyStep_of_open supervisor.runtime.store (seq, input.intoStateFactInput) hopen
  exact trans_of Books (.mk _ _ supervisor.tick.effects hpublished hversion) books_recordCommittedInput

theorem books_applyLiveSubmitFactsFrom (last : Int) (count : Nat)
    (records : List NegRiskLiveExecutionRecord) :
    Within Books (applyLiveSubmitFactsFrom env last count records) := by
  induction records generalizing last count with
  | nil => exact within_pure
  | cons record records ih =>
      intro supervisor
      cases href : record.reference with
      | none =>
          rw [exec_submit_of_none href]
          exact ih last count supervisor
      | some submissionRef =>
          by_cases hadmits : supervisor.runtime.store.Admits (last + 1) record.submitKey
          · rw [exec_submit_of_admitted href hadmits]
            split
            · exact books_submitted
            · exact trans_of Books books_submitted (ih _ _ _)
          · obtain ⟨error, heq⟩ := exec_submit_of_refused env count records href hadmits
            rw [heq]
            exact .mk _ _ _ (fun _ ↦ rfl) rfl

/-! ### What stays up to date -/

section UpToDate

variable {allow : Bool} {snapshotId : String}

theorem fromStore_of_upToDate (h : UpToDate allow supervisor) {snapshot : PublishedSnapshot}
    (hsnapshot : PublishedSnapshot.fromStore supervisor.runtime.store
      (.readyFullsetPendingNegrisk (snapshotIdFor supervisor.runtime.stateVersion)) = some snapshot) :
    supervisor.runtime.publishedSnapshot = some snapshot := by
  have hruntime := h.runtime
  rw [publishedRuntime, AppRuntime.publishSnapshot, hsnapshot] at hruntime
  exact (congrArg AppRuntime.publishedSnapshot hruntime).symm

/-- The evidence is of the snapshot that is published. -/
theorem UpToDate.evidenceSnapshotId (h : UpToDate allow supervisor)
    (hid : supervisor.runtime.publishedSnapshotId = some snapshotId) :
    (supervisor.negRiskRolloutEvidence.map NegRiskRolloutEvidence.snapshotId).getD snapshotId =
      snapshotId := by
  rw [h.evidence, currentEvidence, AppRuntime.publishSnapshot]
  cases hsnapshot : PublishedSnapshot.fromStore supervisor.runtime.store
      (.readyFullsetPendingNegrisk (snapshotIdFor supervisor.runtime.stateVersion)) with
  | none => rfl
  | some snapshot =>
      rw [AppRuntime.publishedSnapshotId, fromStore_of_upToDate h hsnapshot] at hid
      simp [snapshotId_rolloutEvidenceForSnapshot, Option.some.inj hid]

/-- Other live records may be held, if they are of the published snapshot. -/
theorem UpToDate.holdLive (h : UpToDate allow supervisor)
    (hid : supervisor.runtime.publishedSnapshotId = some snapshotId)
    {records : List NegRiskLiveExecutionRecord} {source : NegRiskLiveStateSource}
    (hrecords : ∀ record ∈ records, record.snapshotId = snapshotId)
    (hsource : records = [] → source = .none) (effects : Effects) :
    UpToDate allow { supervisor with
      negRiskLiveExecutionRecords := records, negRiskLiveStateSource := source, effects } where
  runtime := h.runtime
  evidence := h.evidence
  source := h.source
  live := by
    have hkept : records.filter (fun record ↦
        record.snapshotId == snapshotId && record.snapshotId == snapshotId) = records :=
      List.filter_eq_self.mpr (by simpa using hrecords)
    unfold retainCurrentNegRiskLiveExecutionRecords
    simp only [hid, h.evidenceSnapshotId hid, hkept]
    cases records with
    | nil => rw [hsource rfl, List.isEmpty_nil, if_pos rfl]
    | cons record records => rfl
  shadow := by rw [retainShadow_live, h.shadow]

/-- So may other attempts, with their artifacts. -/
theorem UpToDate.holdShadow (h : UpToDate allow supervisor)
    (hid : supervisor.runtime.publishedSnapshotId = some snapshotId)
    {attempts : List ExecutionAttemptRow} {artifacts : List ShadowExecutionArtifactRow}
    (hattempts : ∀ attempt ∈ attempts, attempt.snapshotId = snapshotId)
    (hartifacts : ∀ artifact ∈ artifacts,
      artifact.attemptId ∈ attempts.map ExecutionAttemptRow.attemptId) :
    UpToDate allow { supervisor with
      negRiskShadowExecutionAttempts := attempts, negRiskShadowExecutionArtifacts := artifacts } where
  runtime := h.runtime
  evidence := h.evidence
  source := h.source
  live := by rw [retainLive_shadow, h.live]
  shadow := by
    have hkept : attempts.filter (fun attempt ↦ attempt.snapshotId == snapshotId) = attempts :=
      List.filter_eq_self.mpr (by simpa using hattempts)
    have hkept' : artifacts.filter (fun artifact ↦
        (attempts.map ExecutionAttemptRow.attemptId).contains artifact.attemptId) = artifacts :=
      List.filter_eq_self.mpr fun artifact hartifact ↦
        List.contains_iff_mem.mpr (hartifacts artifact hartifact)
    unfold retainCurrentNegRiskShadowExecutionRecords
    simp only [hid, hkept, hkept']

theorem UpToDate.books (h : UpToDate allow supervisor) (hbooks : Books supervisor supervisor') :
    UpToDate allow supervisor' := by
  obtain ⟨store, committedLog, effects, hpublished, hversion⟩ := hbooks
  have hsnapshot : PublishedSnapshot.fromStore store
      (.readyFullsetPendingNegrisk (snapshotIdFor store.stateVersion)) =
        PublishedSnapshot.fromStore supervisor.runtime.store
          (.readyFullsetPendingNegrisk (snapshotIdFor supervisor.runtime.stateVersion)) := by
    rw [hpublished, hversion]
    rfl
  have hcurrent : currentEvidence { supervisor with runtime.store := store, committedLog, effects } allow =
      supervisor.currentEvidence allow := by
    refine currentEvidence_congr ?_ ?_ allow
    · rfl
    · rw [publishSnapshot_fst, publishSnapshot_fst]
      exact hsnapshot
  refine ⟨?_, h.evidence.trans ?_, h.source.trans ?_, ?_, ?_⟩
  · simp only [publishedRuntime, AppRuntime.publishSnapshot, AppRuntime.stateVersion] at hsnapshot ⊢
    rw [hsnapshot]
    cases hcopy : PublishedSnapshot.fromStore supervisor.runtime.store
        (.readyFullsetPendingNegrisk (snapshotIdFor supervisor.runtime.store.stateVersion)) with
    | none => rfl
    | some snapshot => simp only [fromStore_of_upToDate h hcopy]
  · rw [hcurrent]
  · rw [hcurrent]
  · rw [retainLive_books, h.live]
  · rw [retainShadow_books, h.shadow]

end UpToDate

end AppSupervisor

end AxiomArb.AppLive
