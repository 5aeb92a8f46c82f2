import AxiomArb.AppLive.Drain
import Mathlib.Data.List.Count

/-!
# Submit facts and the backlog

The facts of the submissions take their sequence numbers from the store, and the
inputs of the journal bring their own.  A drain goes on from the last number the
store has consumed, so a submit fact that takes a number of the journal hides the
input that has it.  On a fresh supervisor the number is one.
-/

namespace AxiomArb.AppLive

open Domain Library State

namespace AppSupervisor

variable {env : SupervisorEnv} {supervisor supervisor' : AppSupervisor}
  {record : NegRiskLiveExecutionRecord} {records : List NegRiskLiveExecutionRecord} {last : Int}

/-! ## Numbers of the submit facts -/

theorem exec_recordLiveSubmissions_of_unreferenced (h : ∀ record ∈ records, record.reference = none) :
    exec (recordLiveSubmissions env records) supervisor = exec (keepLiveRecords env []) supervisor := by
  have hskip := exec_submit_of_skipped env supervisor
    (supervisor.runtime.lastJournalSeq.getD 0) 0 [] h
  rw [List.append_nil] at hskip
  rw [exec_recordLiveSubmissions, hskip]
  simp [applyLiveSubmitFactsFrom]

/-- Submissions of new facts take one number, however many there are: the first fact
is pending and ends the loop. -/
theorem lastJournalSeq_recordLiveSubmissions (env : SupervisorEnv) (supervisor : AppSupervisor)
    (records : List NegRiskLiveExecutionRecord)
    (hlast : supervisor.runtime.lastJournalSeq = some last)
    (hnew : ∀ key, ¬ supervisor.runtime.store.HasApplied key)
    (hfree : supervisor.runtime.store.consumedJournal[last + 1]? = none) :
    (exec (recordLiveSubmissions env records) supervisor).2.runtime.lastJournalSeq =
      if ∃ record ∈ records, record.reference ≠ none then some (last + 1) else some last := by
  rcases first_reference_cases records with
    hnever | ⟨skipped, record, rest, submissionRef, rfl, hskipped, href⟩
  · rw [exec_recordLiveSubmissions_of_unreferenced hnever, (keepLiveRecords_frame _).1, hlast,
      if_neg (by simpa using hnever)]
  · have hadmits : supervisor.runtime.store.Admits (last + 1) record.submitKey :=
      .inr ⟨hfree, by
        rw [show supervisor.runtime.store.lastConsumedJournalSeq = some last from hlast]
        exact decide_eq_true (Int.lt_succ last)⟩
    rw [if_pos ⟨record, by simp, by simp [href]⟩]
    have hcases := recordLiveSubmissions_cases env supervisor rest hskipped href
    simp only [hlast, Option.getD_some] at hcases
    rcases hcases with ⟨hrefused, -⟩ | ⟨-, -, hfinal⟩ | ⟨-, hpending, -⟩
    · exact absurd hadmits hrefused
    · rw [hfinal, (keepLiveRecords_frame _).1, AppRuntime.lastJournalSeq, store_submitted,
        (StateStore.applyStep_journal hadmits).2.1]
      simp [StateStore.consume, hfree]
    · have h := (anchored_submitted_iff env submissionRef hadmits).mpr
        (absurd · (hnew record.submitKey))
      exact absurd hpending (pending_of_anchored h).ne'

/-! ## A fresh supervisor -/

/-- The seeds that say nothing of an earlier run. -/
def SeedOp.SetsUp : SeedOp → Prop
  | .negRiskLiveTargets _ | .negRiskLiveApproval _ | .negRiskLiveReadyFamily _
  | .negRiskLiveExecutionBackend _ | .unappliedJournalEntry _ _ | .enableRealUserShadowSmoke
  | .enableDurableShadowPersistence | .enableDurableLivePersistence | .runSessionId _ => True
  | _ => False

/-- A live supervisor that knows of no earlier run and has made none. -/
structure Fresh (supervisor : AppSupervisor) : Prop where
  runtime : supervisor.runtime = .new .live
  seed : supervisor.seed = .default
  committed : supervisor.committedLog = []
  records : supervisor.negRiskLiveExecutionRecords = []

theorem Fresh.applySeed (h : Fresh supervisor) {seed : SeedOp} (hseed : seed.SetsUp) :
    Fresh (supervisor.applySeed env seed) := by
  cases seed <;> first | exact hseed.elim | exact ⟨h.runtime, h.seed, h.committed, h.records⟩

theorem fresh_seededLive (env : SupervisorEnv) (bootstrapSnapshot : RemoteSnapshot) {seeds : List SeedOp}
    (h : ∀ seed ∈ seeds, seed.SetsUp) : Fresh (seededLive env bootstrapSnapshot seeds) := by
  have hfold : ∀ start, Fresh start → Fresh (seeds.foldl (AppSupervisor.applySeed env) start) := by
    induction seeds with
    | nil => exact fun _ ↦ id
    | cons seed seeds ih =>
        exact fun start hstart ↦ ih (fun other hother ↦ h other (List.mem_cons_of_mem seed hother)) _
          (hstart.applySeed (h seed List.mem_cons_self))
  exact hfold _ ⟨rfl, rfl, rfl, rfl⟩

/-- Whether the first run of a fresh supervisor makes a submit fact: the bootstrap
succeeds, families are ready, and the venue takes one of them under a reference. -/
def SubmitsAtStartup (env : SupervisorEnv) (supervisor : AppSupervisor) : Prop :=
  collectAttention .new supervisor.bootstrapSnapshot = [] ∧
  supervisor.realUserShadowSmokeEnabled = false ∧
  supervisor.syntheticLiveReadyFamilyCount ≠ 0 ∧
  ∃ call ∈ liveBatchFor env supervisor (snapshotIdFor 0), ∃ record,
    call.answer = .ok record ∧ record.reference ≠ none

section Startup

variable (hfresh : Fresh supervisor)

include hfresh

theorem exec_startUp_of_fresh : exec startUp supervisor = (.ok ⟨⟩, supervisor.bootstrapped) := by
  refine exec_startUp_of_bootstrapping ?_ ?_
  · rw [Ready, hfresh.runtime]
    exact Bool.false_ne_true
  · rw [hasSeededStartupState, hfresh.seed]
    rfl

theorem settled_of_fresh : supervisor.Settled := fun _ ↦ .inl (by rw [hfresh.runtime]; rfl)

/-- A fresh runtime that fails to bootstrap has consumed nothing and is not up. -/
theorem bootstrapped_of_attention (h : collectAttention .new supervisor.bootstrapSnapshot ≠ []) :
    ¬ supervisor.bootstrapped.Ready ∧ supervisor.bootstrapped.runtime.lastJournalSeq = none := by
  have hfailed : (StateStore.new.reconcile supervisor.bootstrapSnapshot).1.succeeded = false := by
    rwa [← Bool.not_eq_true, StateStore.reconcile_succeeded_iff]
  simp only [Ready, bootstrapped, AppRuntime.lastJournalSeq, AppRuntime.store_bootstrapOnce,
    hfresh.runtime, AppRuntime.new, hfailed, Bool.false_eq_true, false_and, if_false,
    StateStore.reconcile_failed_fields _ _ hfailed, StateStore.reconcile_frame]
  exact ⟨Bool.false_ne_true, rfl⟩

/-- A fresh runtime that bootstraps is anchored at zero and has applied nothing. -/
theorem bootstrapped_of_no_attention (h : collectAttention .new supervisor.bootstrapSnapshot = []) :
    supervisor.bootstrapped.runtime.store.lastConsumedJournalSeq = some 0 ∧
    supervisor.bootstrapped.runtime.store.lastAppliedJournalSeq = some 0 ∧
    supervisor.bootstrapped.runtime.store.stateVersion = 0 ∧
    supervisor.bootstrapped.runtime.store.appliedFactJournal = ∅ ∧
    supervisor.bootstrapped.runtime.store.consumedJournal = ∅ := by
  have hsucceeded : (StateStore.new.reconcile supervisor.bootstrapSnapshot).1.succeeded = true :=
    (StateStore.reconcile_succeeded_iff _ _).mpr h
  have happlied : StateStore.new.lastAppliedJournalSeq = none := rfl
  simp only [bootstrapped, AppRuntime.store_bootstrapOnce, hfresh.runtime, AppRuntime.new, hsucceeded,
    happlied, and_self, if_true, StateStore.markReconciledAfterRestore_fields,
    StateStore.reconcile_frame]
  exact ⟨trivial, trivial, rfl, rfl, rfl⟩

/-- The guard is open for a fresh runtime that has bootstrapped. -/
theorem allow_of_fresh (h : collectAttention .new supervisor.bootstrapSnapshot = []) :
    supervisor.bootstrapped.allowOperatorRolloutEvidenceSynthesis = true := by
  obtain ⟨hseq, -, hversion, -, -⟩ := bootstrapped_of_no_attention hfresh h
  have hpristine : supervisor.bootstrapped.pristineBootstrap = true := by
    have hseed : supervisor.bootstrapped.seed = .default := hfresh.seed
    have hlog : supervisor.bootstrapped.committedLog = [] := hfresh.committed
    simp [pristineBootstrap, hseed, hlog, AppRuntime.lastJournalSeq, AppRuntime.stateVersion, hseq,
      hversion, RuntimeSeed.default]
  simp [allowOperatorRolloutEvidenceSynthesis, hpristine]

theorem liveBatchOpen_of_fresh (h : collectAttention .new supervisor.bootstrapSnapshot = []) :
    supervisor.bootstrapped.LiveBatchOpen ↔
      supervisor.realUserShadowSmokeEnabled = false ∧
        supervisor.syntheticLiveReadyFamilyCount ≠ 0 := by
  obtain ⟨-, happlied, -⟩ := bootstrapped_of_no_attention hfresh h
  have hrecords : supervisor.bootstrapped.negRiskLiveExecutionRecords = [] := hfresh.records
  have hcount : supervisor.bootstrapped.syntheticLiveReadyFamilyCount =
      supervisor.syntheticLiveReadyFamilyCount := rfl
  have hsmoke : supervisor.bootstrapped.realUserShadowSmokeEnabled =
      supervisor.realUserShadowSmokeEnabled := rfl
  simp [LiveBatchOpen, allow_of_fresh hfresh h, happlied, hrecords, hcount, hsmoke]

/-- A fresh supervisor that has bootstrapped makes a submit fact if the venue takes
some family of its batch under a reference. -/
theorem submitsAtStartup_iff (h : collectAttention .new supervisor.bootstrapSnapshot = []) :
    SubmitsAtStartup env supervisor ↔
      ∃ call ∈ liveBatch env (supervisor.bootstrapped.publishCurrentSnapshot true), ∃ record,
        call.answer = .ok record ∧ record.reference ≠ none := by
  have hlive : supervisor.bootstrapped.runtime.appMode = .live := by
    simp [bootstrapped, hfresh.runtime, AppRuntime.new]
  have hversion : supervisor.bootstrapped.runtime.stateVersion = 0 :=
    (bootstrapped_of_no_attention hfresh h).2.2.1
  have hbatch : liveBatchFor env supervisor.bootstrapped = liveBatchFor env supervisor := rfl
  rw [liveBatch_publishCurrentSnapshot hlive (allow_of_fresh hfresh h), hversion, hbatch,
    SubmitsAtStartup]
  have hopen := liveBatchOpen_of_fresh hfresh h
  by_cases hguard : supervisor.bootstrapped.LiveBatchOpen
  · simp [h, hguard, hopen.mp hguard]
  · rw [if_neg hguard]
    refine iff_of_false (fun hsubmits ↦ hguard (hopen.mpr ⟨hsubmits.2.1, hsubmits.2.2.1⟩)) ?_
    simp

/-- The last number consumed before a fresh supervisor drains its queue. -/
theorem lastJournalSeq_publishAndRefresh
    (hok : (exec (publishAndRefresh env) supervisor.bootstrapped).1 = .ok ⟨⟩) :
    (¬ SubmitsAtStartup env supervisor ∧
      (exec (publishAndRefresh env) supervisor.bootstrapped).2.runtime.lastJournalSeq.all (· ≤ 0) =
        true) ∨
    (SubmitsAtStartup env supervisor ∧
      (exec (publishAndRefresh env) supervisor.bootstrapped).2.runtime.lastJournalSeq = some 1) := by
  by_cases hattention : collectAttention .new supervisor.bootstrapSnapshot = []
  · have hallow := allow_of_fresh hfresh hattention
    obtain ⟨hseq, -, -, hfacts, hjournal⟩ := bootstrapped_of_no_attention hfresh hattention
    have hpublish : Idle supervisor.bootstrapped
        (supervisor.bootstrapped.publishCurrentSnapshot true) := .publishCurrentSnapshot
    rw [← hpublish.store] at hseq hfacts hjournal
    rw [submitsAtStartup_iff hfresh hattention]
    simp only [publishAndRefresh, exec_bind, exec_get, exec_modify, hallow] at hok ⊢
    generalize supervisor.bootstrapped.publishCurrentSnapshot true = published at *
    rcases refresh_cases env published with ⟨hnothing, hidle⟩ | ⟨-, hrefresh⟩
    · left
      rw [hnothing, AppRuntime.lastJournalSeq, hidle.store, hseq]
      exact ⟨by simp, rfl⟩
    · rw [hrefresh] at hok ⊢
      cases hanswers : (liveBatch env published).mapM LiveCall.answer with
      | error error =>
          rw [hanswers] at hok
          cases hok
      | ok records =>
          have hlast := lastJournalSeq_recordLiveSubmissions env
            (published.called (liveBatch env published)) records hseq
            (fun key ↦ by
              rw [StateStore.HasApplied, not_not]
              exact BTreeMap.eq_empty_iff_lookup.mp hfacts key)
            (BTreeMap.eq_empty_iff_lookup.mp hjournal 1)
          have hiff : (∃ record ∈ records, record.reference ≠ none) ↔
              ∃ call ∈ liveBatch env published, ∃ record,
                call.answer = .ok record ∧ record.reference ≠ none := by
            simp only [mem_values_iff hanswers]
            constructor
            · rintro ⟨record, ⟨call, hcall, hanswer⟩, href⟩
              exact ⟨call, hcall, record, hanswer, href⟩
            · rintro ⟨call, hcall, record, hanswer, href⟩
              exact ⟨record, ⟨call, hcall, hanswer⟩, href⟩
          by_cases hsubmits : ∃ record ∈ records, record.reference ≠ none
          · right
            rw [if_pos hsubmits] at hlast
            exact ⟨hiff.mp hsubmits, hlast⟩
          · left
            rw [if_neg hsubmits] at hlast
            exact ⟨mt hiff.mpr hsubmits, by rw [hlast]; rfl⟩
  · left
    obtain ⟨hdown, hseq⟩ := bootstrapped_of_attention hfresh hattention
    have hallow : supervisor.bootstrapped.allowOperatorRolloutEvidenceSynthesis = false := by
      rw [← Bool.not_eq_true]
      exact fun hallow ↦
        hdown (ready_of_allow (settled_of_fresh hfresh) (exec_startUp_of_fresh hfresh) hallow)
    rw [exec_publishAndRefresh_of_closed hallow, AppRuntime.lastJournalSeq,
      (publishCurrentSnapshot_frame _ _).2.1]
    refine ⟨fun h ↦ hattention h.1, ?_⟩
    rw [show supervisor.bootstrapped.runtime.store.lastConsumedJournalSeq = none from hseq]
    rfl

end Startup

/-! ## The first run -/

/-- After a run every input of the queue is recorded, and none is left. -/
def Drained (env : SupervisorEnv) (supervisor : AppSupervisor) : Prop :=
  (exec (runOnce env) supervisor).2.inputTasks.isEmpty = true ∧
  ∀ input ∈ supervisor.inputTasks.backlog, Recorded (exec (runOnce env) supervisor).2 input

/-- Taking out what is due leaves the rest. -/
theorem mem_foldl_erase_filter {past : InputTaskEvent → Bool} {backlog : List InputTaskEvent}
    {input : InputTaskEvent} :
    input ∈ (backlog.filter past).foldl List.erase backlog ↔ input ∈ backlog ∧ past input = false := by
  rw [← List.diff_eq_foldl, ← List.count_pos_iff, List.count_diff, ← List.count_pos_iff]
  cases hpast : past input with
  | true =>
      rw [List.count_filter hpast]
      simp
  | false =>
      have hnone : (backlog.filter past).count input = 0 :=
        List.count_eq_zero.mpr fun hmem ↦ by simp [hpast] at hmem
      rw [hnone]
      simp

/-- A run that ends well has recorded every input past the last number consumed before
the drain, and has left the others in the queue. -/
theorem endRun_ok {restoring : Bool} {summary : SupervisorSummary}
    (h : exec (endRun env restoring) supervisor = (.ok summary, supervisor')) :
    (∀ input ∈ supervisor.inputTasks.backlog,
      supervisor.runtime.lastJournalSeq.all (· < input.journalSeq) = true →
        Recorded supervisor' input) ∧
    ∀ input, input ∈ supervisor'.inputTasks.backlog ↔
      input ∈ supervisor.inputTasks.backlog ∧
        supervisor.runtime.lastJournalSeq.all (· < input.journalSeq) = false := by
  obtain ⟨_, _, hget, h⟩ := exec_bind_eq_ok.mp h
  cases hget
  obtain ⟨_, _, hvalid, h⟩ := exec_bind_eq_ok.mp h
  rw [exec_lift, Prod.mk.injEq] at hvalid
  obtain ⟨-, rfl⟩ := hvalid
  obtain ⟨_, drained, hdrain, hfinish⟩ := exec_bind_eq_ok.mp h
  have hidle := within_finishRun drained
  rw [hfinish] at hidle
  rcases drainInputTasks_cases env supervisor with
    ⟨_, heq, hdone, hrecorded⟩ | ⟨_, _, _, _, _, _, heq, -⟩
  · rw [heq] at hdrain
    cases hdrain
    refine ⟨fun input hinput hpast ↦ ?_, fun input ↦ ?_⟩
    · exact (hrecorded input (List.mem_filter.mpr ⟨hinput, hpast⟩)).grows hidle.still.toGrows
    · rw [hidle.inputs, hdone.backlog]
      exact mem_foldl_erase_filter
  · rw [heq] at hdrain
    cases hdrain

/-- A run that ends well drains the queue exactly when every input is past the last
number consumed before the drain. -/
theorem drained_iff_of_startUp (hup : exec startUp supervisor = (.ok ⟨⟩, supervisor'))
    (hlive : supervisor'.runtime.appMode = .live)
    (hok : (exec (runOnce env) supervisor).1.isOk = true) :
    (exec (publishAndRefresh env) supervisor').1 = .ok ⟨⟩ ∧
    (Drained env supervisor ↔ ∀ input ∈ supervisor.inputTasks.backlog,
      (exec (publishAndRefresh env) supervisor').2.runtime.lastJournalSeq.all
        (· < input.journalSeq) = true) := by
  have hrestarts := within_startUp supervisor
  rw [hup] at hrestarts
  obtain ⟨-, hinputs, -⟩ := publishAndRefresh_spec env hlive
  cases hrun : exec (runOnce env) supervisor with
  | mk outcome final =>
  rw [hrun] at hok
  cases outcome with
  | error error => cases hok
  | ok summary =>
      rw [exec_runOnce hup] at hrun
      obtain ⟨_, refreshed, hrefresh, hend⟩ := exec_bind_eq_ok.mp hrun
      obtain ⟨hrecorded, hleft⟩ := endRun_ok hend
      rw [hrefresh] at hinputs ⊢
      have hqueue : refreshed.inputTasks = supervisor.inputTasks := hinputs.trans hrestarts.inputs
      rw [hqueue] at hrecorded hleft
      refine ⟨rfl, ?_⟩
      rw [Drained, exec_runOnce hup, hrun]
      simp only [IngressQueue.isEmpty, List.isEmpty_iff]
      constructor
      · rintro ⟨hempty, -⟩ input hinput
        by_contra hpast
        have hmem := (hleft input).mpr ⟨hinput, Bool.eq_false_iff.mpr hpast⟩
        rw [hempty] at hmem
        cases hmem
      · refine fun hpast ↦ ⟨List.eq_nil_iff_forall_not_mem.mpr fun input hinput ↦ ?_,
          fun input hinput ↦ hrecorded input hinput (hpast input hinput)⟩
        obtain ⟨hqueued, hbefore⟩ := (hleft input).mp hinput
        rw [hpast input hqueued] at hbefore
        cases hbefore

/-- The first run of a fresh supervisor drains a queue of positive numbers exactly when
it makes no submit fact, or no input has the number one that such a fact takes. -/
theorem backlog_drained_iff (env : SupervisorEnv) (bootstrapSnapshot : RemoteSnapshot)
    (seeds : List SeedOp) (hseeds : ∀ seed ∈ seeds, seed.SetsUp)
    (hseqs : ∀ input ∈ (seededLive env bootstrapSnapshot seeds).inputTasks.backlog,
      0 < input.journalSeq)
    (hok : (exec (runOnce env) (seededLive env bootstrapSnapshot seeds)).1.isOk = true) :
    Drained env (seededLive env bootstrapSnapshot seeds) ↔
      ¬ SubmitsAtStartup env (seededLive env bootstrapSnapshot seeds) ∨
      ∀ input ∈ (seededLive env bootstrapSnapshot seeds).inputTasks.backlog,
        input.journalSeq ≠ 1 := by
  have hfresh := fresh_seededLive env bootstrapSnapshot hseeds
  generalize seededLive env bootstrapSnapshot seeds = supervisor at hfresh hseqs hok ⊢
  have hlive : supervisor.bootstrapped.runtime.appMode = .live := by
    simp [bootstrapped, hfresh.runtime, AppRuntime.new]
  obtain ⟨hrefresh, hdrained⟩ := drained_iff_of_startUp (exec_startUp_of_fresh hfresh) hlive hok
  rw [hdrained]
  rcases lastJournalSeq_publishAndRefresh hfresh hrefresh with ⟨hnone, hlast⟩ | ⟨hsubmits, hlast⟩
  · refine iff_of_true (fun input hinput ↦ ?_) (.inl hnone)
    have hseq := hseqs input hinput
    rw [Option.all_eq_true_iff_get] at hlast ⊢
    intro h
    have hle := of_decide_eq_true (hlast h)
    exact decide_eq_true (by omega)
  · rw [hlast]
    constructor
    · intro h
      right
      intro input hinput heq
      have hlt := of_decide_eq_true (h input hinput)
      omega
    · rintro (hnone | hne) input hinput
      · exact absurd hsubmits hnone
      · have hseq := hseqs input hinput
        have hone := hne input hinput
        exact decide_eq_true (by omega)

/-- A plain fact of the journal. -/
def journalInput (journalSeq : Int) : SeedOp :=
  .unappliedJournalEntry journalSeq (.new journalSeq (.new "market" "session" "event" "v1" 0))

theorem backlog_drained_past_one :
    Drained takingEnv (seededLive takingEnv .empty (journalInput 2 :: familySeeds ["family-a"])) :=
  (backlog_drained_iff takingEnv .empty (journalInput 2 :: familySeeds ["family-a"])
    (by simp [journalInput, familySeeds, SeedOp.SetsUp]) (by decide +kernel)
    (by decide +kernel)).mpr (.inr (by decide +kernel))

/-- The input with the number one stays in the queue: the submit fact has its number. -/
theorem backlog_input_hidden :
    (exec (runOnce takingEnv)
      (seededLive takingEnv .empty (journalInput 1 :: familySeeds ["family-a"]))).1.isOk = true ∧
    ¬ Drained takingEnv (seededLive takingEnv .empty (journalInput 1 :: familySeeds ["family-a"])) :=
  ⟨by decide +kernel, fun h ↦ absurd h.1 (by decide +kernel)⟩

end AppSupervisor

end AxiomArb.AppLive
