import AxiomArb.AppLive.AtMostOnce

/-!
# Orders and the first reconcile

No guard on the way to the venue looks at the posture of the runtime.  What keeps a
new runtime from sending orders before it has been reconciled is that the operator's
word counts only while nothing has been committed, and that nothing but a reconcile
brings a runtime up as long as the log is empty.  A supervisor with startup state
takes its runtime from the seed instead, and never reconciles.
-/

namespace AxiomArb.AppLive

open Domain Library State

namespace AppSupervisor

variable {env : SupervisorEnv} {supervisor supervisor' start : AppSupervisor}
  {input : InputTaskEvent} {reconciled : Prop} {op : LifeOp} {before ops : List LifeOp}

/-! ## What an empty log says -/

/-- If the log is empty in the end it was so before, and the store has not changed. -/
def Logged (supervisor supervisor' : AppSupervisor) : Prop :=
  supervisor'.committedLog = [] →
    supervisor.committedLog = [] ∧ supervisor'.runtime.store = supervisor.runtime.store

instance : Std.Refl Logged := ⟨fun _ hempty ↦ ⟨hempty, rfl⟩⟩

instance : IsTrans AppSupervisor Logged := ⟨fun _ _ _ h h' hempty ↦
  have second := h' hempty
  have first := h second.1
  ⟨first.1, second.2.trans first.2⟩⟩

theorem Idle.logged (h : Idle supervisor supervisor') : Logged supervisor supervisor' :=
  fun hempty ↦ ⟨h.committed.symm.trans hempty, h.store⟩

theorem Logged.of_mem (h : input ∈ supervisor'.committedLog) : Logged supervisor supervisor' :=
  fun hempty ↦ absurd hempty (List.ne_nil_of_mem h)

theorem logged_drainInput : Within Logged (drainInput input) := by
  intro supervisor
  rcases drainInput_cases supervisor input with ⟨_, heq⟩ | ⟨_, _, heq, hrecorded, -⟩
  · rw [heq]
    exact refl_of Logged supervisor
  · rw [heq]
    exact .of_mem hrecorded.committed

/-- Each submit fact the store takes is committed at once. -/
theorem logged_applyLiveSubmitFactsFrom (env : SupervisorEnv) (last : Int) (count : Nat)
    (records : List NegRiskLiveExecutionRecord) :
    Within Logged (applyLiveSubmitFactsFrom env last count records) := by
  induction records generalizing last count with
  | nil => exact within_pure
  | cons record records ih =>
      intro supervisor
      cases href : record.reference with
      | none =>
          rw [exec_submit_of_none href]
          exact ih last count supervisor
      | some submissionRef =>
          by_cases hadmits : supervisor.runtime.store.Admits (last + 1) record.submitKey
          · have hsubmitted : Logged supervisor
                (submitted env supervisor (last + 1) record submissionRef) :=
              .of_mem mem_recordCommittedInput
            rw [exec_submit_of_admitted href hadmits]
            split
            · exact hsubmitted
            · exact trans_of Logged hsubmitted (ih _ _ _)
          · obtain ⟨error, heq⟩ := exec_submit_of_refused env count records href hadmits
            rw [heq]
            exact fun hempty ↦ ⟨hempty, rfl⟩

theorem logged_recordLiveSubmissions (env : SupervisorEnv)
    (records : List NegRiskLiveExecutionRecord) : Within Logged (recordLiveSubmissions env records) :=
  within_bind (within_bind within_get fun _ ↦ logged_applyLiveSubmitFactsFrom env _ _ _)
    fun _ ↦ (within_keepLiveRecords env _).mono fun _ _ ↦ Idle.logged

theorem logged_refresh (env : SupervisorEnv) (supervisor : AppSupervisor) :
    Logged supervisor (exec (refreshNegRiskLiveExecutionRecords env true) supervisor).2 := by
  rcases refresh_cases env supervisor with ⟨-, hidle⟩ | ⟨-, heq⟩
  · exact hidle.logged
  · have hcalled : Logged supervisor (supervisor.called (liveBatch env supervisor)) :=
      fun hempty ↦ ⟨hempty, rfl⟩
    rw [heq]
    cases (liveBatch env supervisor).mapM LiveCall.answer with
    | error error => exact hcalled
    | ok records => exact trans_of Logged hcalled (logged_recordLiveSubmissions env records _)

theorem logged_publishAndRefresh : Within Logged (publishAndRefresh env) := by
  intro supervisor
  have hpublish : ∀ allow, Logged supervisor (supervisor.publishCurrentSnapshot allow) :=
    fun _ ↦ Idle.publishCurrentSnapshot.logged
  cases hallow : supervisor.allowOperatorRolloutEvidenceSynthesis with
  | false =>
      rw [exec_publishAndRefresh_of_closed hallow]
      exact hpublish false
  | true =>
      simp only [publishAndRefresh, exec_bind, exec_get, exec_modify, hallow]
      exact trans_of Logged (hpublish true) (logged_refresh env _)

theorem logged_endRun (restoring : Bool) : Within Logged (endRun env restoring) :=
  within_endRun_of (fun _ _ ↦ Idle.logged) (fun _ ↦ logged_drainInput) restoring

/-! ## Bringing the runtime up -/

theorem logged_runOnce (env : SupervisorEnv) (supervisor : AppSupervisor) :
    Logged supervisor.broughtUp (exec (runOnce env) supervisor).2 := by
  have hrest : ∀ _ : Unit, Within Logged
      (publishAndRefresh env >>= fun _ ↦ endRun env supervisor.restoringSeededStartup) :=
    fun _ ↦ within_bind logged_publishAndRefresh fun _ ↦ logged_endRun _
  exact within_continuation hrest supervisor

/-- Orders may be sent: the runtime is healthy, without `CancelOnly`, and nothing is
pending. -/
structure Clear (supervisor : AppSupervisor) : Prop where
  mode : supervisor.runtime.runtimeMode = .healthy
  overlay : supervisor.runtime.runtimeOverlay ≠ some .cancelOnly
  pending : supervisor.runtime.pendingReconcileCount = 0

theorem Clear.of_store (h : supervisor.Clear)
    (hstore : supervisor'.runtime.store = supervisor.runtime.store) : supervisor'.Clear := by
  obtain ⟨hmode, hoverlay, hpending⟩ := h
  refine ⟨?_, ?_, ?_⟩
  · rwa [AppRuntime.runtimeMode, hstore]
  · rwa [AppRuntime.runtimeOverlay, hstore]
  · rwa [AppRuntime.pendingReconcileCount, hstore]

theorem clear_of_posture (hposture : supervisor.runtime.store.posture = reconciledPolicy)
    (hpending : supervisor.runtime.store.pendingReconcileAnchors = ∅) : supervisor.Clear := by
  obtain ⟨hmode, hoverlay⟩ := RuntimePolicy.mk.injEq .. ▸ hposture
  refine ⟨hmode, ?_, ?_⟩
  · rw [AppRuntime.runtimeOverlay, StateStore.modeOverlay, hmode, hoverlay]
    decide
  · rw [AppRuntime.pendingReconcileCount, StateStore.pendingReconcileCount, hpending]
    rfl

/-- The step reconciles the runtime against the bootstrap snapshot, with success. -/
structure Reconciles (supervisor : AppSupervisor) (op : LifeOp) : Prop where
  run : op = .runOnce
  down : ¬ supervisor.Ready
  unseeded : supervisor.hasSeededStartupState = false
  succeeded : (supervisor.runtime.bootstrapOnce supervisor.bootstrapSnapshot).1.succeeded = true

/-- The step restores the runtime from the committed anchor of the seed. -/
structure Restores (supervisor : AppSupervisor) (op : LifeOp) : Prop where
  run : op = .runOnce
  down : ¬ supervisor.Ready
  seeded : supervisor.hasSeededStartupState = true
  anchor : supervisor.seed.lastJournalSeq ≠ none

/-! ## By a bootstrap -/

theorem pending_bootstrapped (h : supervisor.runtime.store.pendingReconcileAnchors = ∅) :
    supervisor.bootstrapped.runtime.store.pendingReconcileAnchors = ∅ := by
  simp only [bootstrapped, AppRuntime.store_bootstrapOnce]
  split
  · rfl
  · simpa using h

/-- A bootstrap that succeeds with nothing pending opens the runtime. -/
theorem clear_bootstrapped (h : supervisor.runtime.store.pendingReconcileAnchors = ∅)
    (hsucceeded : (supervisor.runtime.bootstrapOnce supervisor.bootstrapSnapshot).1.succeeded = true) :
    supervisor.bootstrapped.Clear := by
  refine clear_of_posture ?_ (pending_bootstrapped h)
  simp only [bootstrapped, AppRuntime.store_bootstrapOnce]
  split
  · rfl
  · rw [(StateStore.reconcile_succeeded_fields _ _ hsucceeded).2, if_pos h]

/-- A bootstrap brings no runtime up without a reconcile. -/
theorem succeeded_of_ready (hdown : ¬ supervisor.Ready) (hup : supervisor.bootstrapped.Ready) :
    (supervisor.runtime.bootstrapOnce supervisor.bootstrapSnapshot).1.succeeded = true := by
  by_contra hfailed
  rw [Bool.not_eq_true] at hfailed
  rw [Ready, bootstrapped, AppRuntime.store_bootstrapOnce_of_failed hfailed,
    (StateStore.reconcile_failed_fields _ _ hfailed).1] at hup
  exact hdown hup

/-- As long as nothing has been committed, nothing is pending, and a runtime that is up
has been reconciled and is clear. -/
structure ReconciledFirst (reconciled : Prop) (supervisor : AppSupervisor) : Prop where
  pending : supervisor.committedLog = [] → supervisor.runtime.store.pendingReconcileAnchors = ∅
  clear : supervisor.committedLog = [] → supervisor.Ready → reconciled ∧ supervisor.Clear

theorem ReconciledFirst.mono {reconciled' : Prop} (h : supervisor.ReconciledFirst reconciled)
    (hmono : reconciled → reconciled') : supervisor.ReconciledFirst reconciled' :=
  ⟨h.pending, fun hempty hready ↦ (h.clear hempty hready).imp_left hmono⟩

theorem ReconciledFirst.logged (h : supervisor.ReconciledFirst reconciled)
    (hlogged : Logged supervisor supervisor') : supervisor'.ReconciledFirst reconciled := by
  constructor
  · intro hempty
    obtain ⟨hbefore, hstore⟩ := hlogged hempty
    rw [hstore]
    exact h.pending hbefore
  · intro hempty hready
    obtain ⟨hbefore, hstore⟩ := hlogged hempty
    rw [Ready, hstore] at hready
    obtain ⟨hreconciled, hclear⟩ := h.clear hbefore hready
    exact ⟨hreconciled, hclear.of_store hstore⟩

theorem ReconciledFirst.broughtUp (h : supervisor.ReconciledFirst reconciled)
    (hseed : supervisor.hasSeededStartupState = false) :
    supervisor.broughtUp.ReconciledFirst (reconciled ∨ supervisor.Reconciles .runOnce) := by
  by_cases hready : supervisor.Ready
  · rw [broughtUp_of_ready hready]
    exact ⟨h.pending, fun hempty hup ↦ (h.clear hempty hup).imp_left .inl⟩
  · have hbroughtUp : supervisor.broughtUp = supervisor.bootstrapped := by
      rw [AppSupervisor.broughtUp, exec_startUp_of_bootstrapping hready hseed]
    rw [hbroughtUp]
    refine ⟨fun hempty ↦ pending_bootstrapped (h.pending hempty), fun hempty hup ↦ ?_⟩
    have hsucceeded := succeeded_of_ready hready hup
    exact ⟨.inr ⟨rfl, hready, hseed, hsucceeded⟩, clear_bootstrapped (h.pending hempty) hsucceeded⟩

/-! ## By a restore -/

/-- Without the anchor of a committed journal a restore fails, and brings nothing up. -/
theorem exec_restore_of_no_anchor (h : supervisor.seed.lastJournalSeq = none) :
    ∃ error supervisor', exec restoreSeededStartupState supervisor = (.error error, supervisor') ∧
      ¬ supervisor'.Ready := by
  simp only [restoreSeededStartupState, exec_bind, exec_modify, exec_get, resetForRestore, h]
  exact ⟨_, _, rfl, Bool.false_ne_true⟩

theorem store_publishRestored (supervisor : AppSupervisor) :
    (exec publishRestored supervisor).2.runtime.store = supervisor.runtime.store := by
  simp only [publishRestored, exec_bind, exec_modify, exec_get, exec_lift]
  rw [(restoreSeededRecords_frame _).2.1, (publishCurrentSnapshot_frame _ _).2.1]

/-- A restore with nothing pending opens the runtime. -/
theorem clear_restored (hanchor : supervisor.seed.lastJournalSeq ≠ none)
    (hpending : supervisor.seed.pendingReconcileAnchors = []) :
    (exec restoreSeededStartupState supervisor).2.Clear := by
  obtain ⟨lastJournalSeq, hseq⟩ := Option.ne_none_iff_exists'.mp hanchor
  have hrestored : ∀ reset : AppSupervisor, reset.seed.pendingReconcileAnchors = [] →
      reset.runtime.store.pendingReconcileAnchors = ∅ →
      (exec (restoreRuntime lastJournalSeq) reset).2.Clear := by
    intro reset hnone hempty
    simp only [restoreRuntime, exec_bind, exec_modify, exec_get, exec_lift, hnone, List.foldl_nil]
    refine clear_of_posture ?_ ?_
    · simp [AppRuntime.restoreCommittedAnchor, hempty]
    · simpa [AppRuntime.restoreCommittedAnchor] using hempty
  have hpublish : Within (Preserves Clear) publishRestored :=
    fun supervisor h ↦ h.of_store (store_publishRestored supervisor)
  simp only [restoreSeededStartupState, exec_bind, exec_modify, exec_get, resetForRestore, hseq]
  rw [← exec_bind]
  exact within_continuation (fun _ ↦ hpublish) _ (hrestored _ hpending rfl)

/-- A run that is to restore a runtime without an anchor ends there. -/
theorem runOnce_of_no_anchor (env : SupervisorEnv) (hdown : ¬ supervisor.Ready)
    (hseed : supervisor.hasSeededStartupState = true) (h : supervisor.seed.lastJournalSeq = none) :
    ¬ supervisor.broughtUp.Ready ∧ (exec (runOnce env) supervisor).2 = supervisor.broughtUp := by
  obtain ⟨error, supervisor', hrestore, hready⟩ := exec_restore_of_no_anchor h
  have hup : exec startUp supervisor = (.error error, supervisor') := by
    rw [exec_startUp_of_restoring (restoring_of_not_ready hdown hseed), hrestore]
  have hbroughtUp : supervisor.broughtUp = supervisor' := congrArg Prod.snd hup
  rw [hbroughtUp, exec_runOnce_of_error hup]
  exact ⟨hready, rfl⟩

/-! ## The guard -/

/-- Without startup state the operator's word counts until something is committed. -/
theorem committedLog_of_allow (hseed : supervisor.hasSeededStartupState = false)
    (hallow : supervisor.allowOperatorRolloutEvidenceSynthesis = true) :
    supervisor.committedLog = [] := by
  have hpristine : supervisor.pristineBootstrap = true := by
    simpa [allowOperatorRolloutEvidenceSynthesis, hseed] using hallow
  simp only [pristineBootstrap, Bool.and_eq_true] at hpristine
  simpa using hpristine.1.1.2

/-- With startup state it counts while nothing is pending, now or in the seed. -/
theorem pending_of_allow (hseed : supervisor.hasSeededStartupState = true)
    (hallow : supervisor.allowOperatorRolloutEvidenceSynthesis = true) :
    supervisor.runtime.pendingReconcileCount = 0 ∧ supervisor.seed.pendingReconcileAnchors = [] := by
  have hpristine : supervisor.pristineBootstrap = false := by
    by_contra hpristine
    simp only [Bool.not_eq_false, pristineBootstrap, Bool.and_eq_true] at hpristine
    simp_all [hasSeededStartupState]
  simp only [allowOperatorRolloutEvidenceSynthesis, hpristine, Bool.false_or, Bool.and_eq_true] at hallow
  exact ⟨by simpa using hallow.1.1.1.1.2, by simpa using hallow.1.2⟩

/-! ## The life of a supervisor -/

/-- The step calls the venue. -/
def Submits (env : SupervisorEnv) (supervisor : AppSupervisor) (op : LifeOp) : Prop :=
  (lifeStep env supervisor op).effects.venueCalls ≠ supervisor.effects.venueCalls

/-- A run submits only if the runtime comes up and the guard is open then. -/
theorem open_of_submits (hlive : supervisor.runtime.appMode = .live) (hsettled : supervisor.Settled)
    (hsubmits : Submits env supervisor .runOnce) :
    supervisor.broughtUp.Ready ∧ supervisor.broughtUp.LiveBatchOpen := by
  obtain ⟨-, -, -, ⟨hsame, -⟩ | ⟨hready, -, hopen, -⟩⟩ := runOnce_calls env hlive hsettled
  · exact absurd hsame hsubmits
  · exact ⟨hready, hopen⟩

theorem hasSeededStartupState_congr (hsetup : supervisor'.setup = supervisor.setup) :
    supervisor'.hasSeededStartupState = supervisor.hasSeededStartupState := by
  have hseed : supervisor'.seed = supervisor.seed := congrArg Setup.seed hsetup
  rw [hasSeededStartupState, hseed, hasSeededStartupState]

/-- What is known of a supervisor that was set up as `start` and has been through
`before`. -/
structure LivedThrough (env : SupervisorEnv) (start : AppSupervisor) (before : List LifeOp)
    (supervisor : AppSupervisor) : Prop where
  setup : supervisor.setup = start.setup
  settled : supervisor.Settled
  reconciled : start.hasSeededStartupState = false →
    supervisor.ReconciledFirst (SomeStep (lifeStep env) Reconciles start before)
  restored : start.hasSeededStartupState = true → supervisor.Ready →
    SomeStep (lifeStep env) Restores start before

theorem livedThrough_step (hlive : start.runtime.appMode = .live)
    (h : LivedThrough env start before (run (lifeStep env) start before)) (op : LifeOp) :
    LivedThrough env start (before ++ [op]) (run (lifeStep env) start (before ++ [op])) := by
  rw [run_append, run_cons, run_nil]
  generalize hnow : run (lifeStep env) start before = supervisor at h
  have hseeded := hasSeededStartupState_congr h.setup
  cases op with
  | seedUnappliedJournalEntry journalSeq input =>
      refine ⟨h.setup, h.settled, fun hseed ↦ ?_, fun hseed hready ↦ ?_⟩
      · have hlogged : Logged supervisor
            (supervisor.seedUnappliedJournalEntry journalSeq input) := fun hempty ↦ ⟨hempty, rfl⟩
        exact ((h.reconciled hseed).logged hlogged).mono fun hbefore ↦
          someStep_concat.mpr (.inl hbefore)
      · exact someStep_concat.mpr (.inl (h.restored hseed hready))
  | runOnce =>
      obtain ⟨hsetup, hsettled, -⟩ := runOnce_calls env
        ((congrArg Setup.appMode h.setup).trans hlive) h.settled
      refine ⟨hsetup.trans h.setup, hsettled, fun hseed ↦ ?_, fun hseed hready ↦ ?_⟩
      · have hup := (h.reconciled hseed).broughtUp (hseeded.trans hseed)
        refine (hup.logged (logged_runOnce env supervisor)).mono fun hreconciled ↦ ?_
        rwa [someStep_concat, hnow]
      · rw [someStep_concat, hnow]
        by_cases hbefore : supervisor.Ready
        · exact .inl (h.restored hseed hbefore)
        · refine .inr ⟨rfl, hbefore, hseeded.trans hseed, fun hnone ↦ ?_⟩
          obtain ⟨hdown, heq⟩ := runOnce_of_no_anchor env hbefore (hseeded.trans hseed) hnone
          exact hdown (heq ▸ hready)

theorem livedThrough_seededLive (env : SupervisorEnv) (bootstrapSnapshot : RemoteSnapshot)
    (seeds : List SeedOp) (before : List LifeOp) :
    LivedThrough env (seededLive env bootstrapSnapshot seeds) before
      (run (lifeStep env) (seededLive env bootstrapSnapshot seeds) before) := by
  obtain ⟨hruntime, -⟩ := seededLive_frame env bootstrapSnapshot seeds
  have hdown : ¬ (seededLive env bootstrapSnapshot seeds).Ready := by
    rw [Ready, hruntime]
    exact Bool.false_ne_true
  have hlive : (seededLive env bootstrapSnapshot seeds).runtime.appMode = .live := by
    rw [hruntime]
    rfl
  refine run_inv_history (Q := LivedThrough env (seededLive env bootstrapSnapshot seeds))
    (fun _ op h ↦ livedThrough_step hlive h op) ⟨rfl, fun _ ↦ .inl (by rw [hruntime]; rfl), ?_, ?_⟩
  · exact fun _ ↦ ⟨fun _ ↦ by rw [hruntime]; rfl, fun _ hready ↦ absurd hready hdown⟩
  · exact fun _ hready ↦ absurd hready hdown

/-- Without startup state nothing is submitted before a reconcile. -/
theorem LivedThrough.submits_unseeded (hlived : LivedThrough env start before supervisor)
    (hlive : supervisor.runtime.appMode = .live) (hsubmits : supervisor.Submits env .runOnce)
    (hseed : start.hasSeededStartupState = false) :
    (SomeStep (lifeStep env) Reconciles start before ∨ supervisor.Reconciles .runOnce) ∧
      supervisor.broughtUp.Clear := by
  obtain ⟨hready, hopen⟩ := open_of_submits hlive hlived.settled hsubmits
  have hseeded := (hasSeededStartupState_congr hlived.setup).trans hseed
  have hempty : supervisor.broughtUp.committedLog = [] :=
    committedLog_of_allow ((hasSeededStartupState_congr setup_broughtUp).trans hseeded) hopen.2.1
  exact ((hlived.reconciled hseed).broughtUp hseeded).clear hempty hready

/-- With startup state nothing is submitted before a restore, or while work is pending. -/
theorem LivedThrough.submits_seeded (hlived : LivedThrough env start before supervisor)
    (hlive : supervisor.runtime.appMode = .live) (hsubmits : supervisor.Submits env .runOnce)
    (hseed : start.hasSeededStartupState = true) :
    supervisor.broughtUp.runtime.pendingReconcileCount = 0 ∧
      (SomeStep (lifeStep env) Restores start before ∨ supervisor.Restores .runOnce) ∧
      (¬ supervisor.Ready → supervisor.broughtUp.Clear) := by
  obtain ⟨hready, hopen⟩ := open_of_submits hlive hlived.settled hsubmits
  have hseeded := (hasSeededStartupState_congr hlived.setup).trans hseed
  obtain ⟨hpending, hanchors⟩ :=
    pending_of_allow ((hasSeededStartupState_congr setup_broughtUp).trans hseeded) hopen.2.1
  have hrestores : ¬ supervisor.Ready → supervisor.Restores .runOnce :=
    fun hdown ↦ ⟨rfl, hdown, hseeded, fun hnone ↦
      (runOnce_of_no_anchor env hdown hseeded hnone).1 hready⟩
  refine ⟨hpending, ?_, fun hdown ↦ ?_⟩
  · by_cases hbefore : supervisor.Ready
    · exact .inl (hlived.restored hseed hbefore)
    · exact .inr (hrestores hbefore)
  · have hseedUp : supervisor.broughtUp.seed = supervisor.seed :=
      congrArg Setup.seed setup_broughtUp
    rw [hseedUp] at hanchors
    rw [broughtUp, exec_startUp_of_restoring (restoring_of_not_ready hdown hseeded)]
    exact clear_restored (hrestores hdown).anchor hanchors

/-- Whenever the venue is called, a reconcile has succeeded before, and the runtime is
clear. -/
def OrdersAfterReconcile (env : SupervisorEnv) (start : AppSupervisor) (ops : List LifeOp) : Prop :=
  ∀ before op, before ++ [op] <+: ops →
    let supervisor := run (lifeStep env) start before
    supervisor.Submits env op →
    SomeStep (lifeStep env) Reconciles start (before ++ [op]) ∧ supervisor.broughtUp.Clear

/-- Whenever the venue is called, nothing is pending, and the runtime was brought up as
the supervisor is set up to do it: without startup state it has been reconciled, and is
clear; with startup state it has been restored from the committed anchor, and is clear
in the run that restores it. -/
def OrdersAfterStartUp (env : SupervisorEnv) (start : AppSupervisor) (ops : List LifeOp) : Prop :=
  ∀ before op, before ++ [op] <+: ops →
    let supervisor := run (lifeStep env) start before
    supervisor.Submits env op →
    supervisor.broughtUp.runtime.pendingReconcileCount = 0 ∧
    (start.hasSeededStartupState = false →
      SomeStep (lifeStep env) Reconciles start (before ++ [op]) ∧ supervisor.broughtUp.Clear) ∧
    (start.hasSeededStartupState = true →
      SomeStep (lifeStep env) Restores start (before ++ [op]) ∧
        (¬ supervisor.Ready → supervisor.broughtUp.Clear))

/-- **Orders are sent after the start-up.**  In the life of a live supervisor, however it
is seeded, each order is sent by a runtime that was brought up as it should be. -/
theorem orders_after_startUp (env : SupervisorEnv) (bootstrapSnapshot : RemoteSnapshot)
    (seeds : List SeedOp) (ops : List LifeOp) :
    OrdersAfterStartUp env (seededLive env bootstrapSnapshot seeds) ops := by
  intro before op _ supervisor hsubmits
  have hlived : LivedThrough env (seededLive env bootstrapSnapshot seeds) before supervisor :=
    livedThrough_seededLive env bootstrapSnapshot seeds before
  have hlive : supervisor.runtime.appMode = .live := by
    refine (congrArg Setup.appMode hlived.setup).trans ?_
    rw [setup, (seededLive_frame env bootstrapSnapshot seeds).1]
    rfl
  cases op with
  | seedUnappliedJournalEntry journalSeq input => exact absurd rfl hsubmits
  | runOnce =>
      rw [someStep_concat, someStep_concat]
      cases hseed : (seededLive env bootstrapSnapshot seeds).hasSeededStartupState with
      | false =>
          have hafter := hlived.submits_unseeded hlive hsubmits hseed
          exact ⟨hafter.2.pending, fun _ ↦ hafter, fun h ↦ absurd h Bool.false_ne_true⟩
      | true =>
          obtain ⟨hpending, hafter⟩ := hlived.submits_seeded hlive hsubmits hseed
          exact ⟨hpending, fun h ↦ absurd h.symm Bool.false_ne_true, fun _ ↦ hafter⟩

/-- A supervisor with startup state never reconciles. -/
theorem not_reconciles_of_seeded {bootstrapSnapshot : RemoteSnapshot} {seeds : List SeedOp}
    (hseed : (seededLive env bootstrapSnapshot seeds).hasSeededStartupState = true) :
    ¬ SomeStep (lifeStep env) Reconciles (seededLive env bootstrapSnapshot seeds) ops := by
  rintro ⟨before, op, -, hreconciles⟩
  have hlived := livedThrough_seededLive env bootstrapSnapshot seeds before
  have hunseeded := hreconciles.unseeded
  rw [hasSeededStartupState_congr hlived.setup, hseed] at hunseeded
  cases hunseeded

/-- The seeds of a supervisor that holds a live record of the snapshot it resumes from. -/
def holdingSeeds : List SeedOp :=
  .negRiskLiveExecutionRecord
    (takenRecord "snapshot-1" { familyId := "family-a", members := [] } "family-a-live") ::
      resumingSeeds

/-- A run that takes in a plain fact and an observation that asks for a reconcile. -/
def restrictedBy : List LifeOp :=
  [.seedUnappliedJournalEntry 6 (.new 6 (.new "market" "session" "event" "v1" 0)),
    .seedUnappliedJournalEntry 7
      (.new 7 (.negriskLiveReconcileObserved "session" "reconcile" "pending" "family-a" false 0)),
    .runOnce]

/-- A supervisor that resumes submits in its first run, without a reconcile; and one
whose runtime was restricted meanwhile submits under `CancelOnly`. -/
theorem orders_before_reconcile :
    ¬ OrdersAfterReconcile takingEnv (seededLive takingEnv .empty resumingSeeds) [.runOnce] ∧
    let supervisor := run (lifeStep takingEnv) (seededLive takingEnv .empty holdingSeeds) restrictedBy
    supervisor.Submits takingEnv .runOnce ∧
      supervisor.broughtUp.runtime.runtimeOverlay = some .cancelOnly := by
  refine ⟨fun h ↦ ?_, fun hsame ↦ ?_, by decide +kernel⟩
  · refine not_reconciles_of_seeded (by decide) (h [] .runOnce List.prefix_rfl fun hsame ↦ ?_).1
    have hcount := congrArg List.length hsame
    revert hcount
    decide +kernel
  · have hcount := congrArg List.length hsame
    revert hcount
    decide +kernel

end AppSupervisor

end AxiomArb.AppLive
