import AxiomArb.AppLive.LiveHistory
import AxiomArb.AppLive.ReconcileFirst
import AxiomArb.State.FullSet
import AxiomArb.State.Restriction

/-!
# A supervisor at rest

A run that ends well leaves the runtime up, or its bootstrap stuck on the attention that
kept it from coming up, and nothing in the queue that is due.  The next run then neither
starts anything nor drains anything: it publishes, submits, and checks what it submitted.
-/

namespace AxiomArb.State

open Domain Library

namespace StateStore

variable {store store' : StateStore} {snapshot : RemoteSnapshot} {input : JournaledFact}
  {journalSeq : Int} {factKey : FactKey} {hint : FactApplyHint}

/-! ## A bootstrap that has failed fails again -/

/-- What a snapshot is compared with is as it was. -/
def SameLocal (store store' : StateStore) : Prop :=
  store'.openOrders = store.openOrders ∧ store'.approvals = store.approvals ∧
    store'.relayerTxs = store.relayerTxs

theorem SameLocal.trans {store'' : StateStore} (h : store.SameLocal store')
    (h' : store'.SameLocal store'') : store.SameLocal store'' :=
  ⟨h'.1.trans h.1, h'.2.1.trans h.2.1, h'.2.2.trans h.2.2⟩

theorem SameLocal.collectAttention (h : store.SameLocal store') :
    collectAttention store' snapshot = collectAttention store snapshot := by
  simp only [State.collectAttention, compareOrders, compareApprovals, compareRelayerTxs, h.1, h.2.1,
    h.2.2]

theorem sameLocal_applyRestorePosture : store.SameLocal store.applyRestorePosture := by
  rw [applyRestorePosture_eq]
  exact ⟨rfl, rfl, rfl⟩

theorem sameLocal_consume : store.SameLocal (store.consume journalSeq factKey) := by
  unfold consume
  split <;> exact ⟨rfl, rfl, rfl⟩

theorem sameLocal_absorb : store.SameLocal (store.absorb hint) := by
  cases hint with
  | familyBackfill familyId cursor completedAt =>
      unfold absorb recordFamilyBackfill
      dsimp only
      split <;> exact ⟨rfl, rfl, rfl⟩
  | liveReconcileObserved pendingRef terminal =>
      cases terminal with
      | false => exact ⟨rfl, rfl, rfl⟩
      | true => exact .trans ⟨rfl, rfl, rfl⟩ sameLocal_applyRestorePosture
  | none | familyDiscovery _ | pendingReconcile _ | runtimeAttention _ => exact ⟨rfl, rfl, rfl⟩

/-- A fact does not touch what a snapshot is compared with. -/
theorem sameLocal_applyStep : store.SameLocal (store.applyStep input) := by
  have habsorbed : store.SameLocal
      ((store.consume input.1 input.2.factKey).absorb input.2.applyHint) :=
    sameLocal_consume.trans sameLocal_absorb
  unfold applyStep
  rcases store.apply_cases input.1 input.2 with ⟨-, _, heq⟩ | ⟨-, -, _, _, heq⟩ |
      ⟨-, -, -, _, _, heq⟩ | ⟨-, -, -, _, _, heq⟩
  · rw [heq]
    exact ⟨rfl, rfl, rfl⟩
  · rw [heq]
    exact sameLocal_consume
  · rw [heq]
    exact habsorbed.trans (.trans ⟨rfl, rfl, rfl⟩ sameLocal_applyRestorePosture)
  · rw [heq]
    exact habsorbed.trans ⟨rfl, rfl, rfl⟩

/-- A bootstrap with the snapshot has failed, and would fail again. -/
structure Stuck (store : StateStore) (snapshot : RemoteSnapshot) : Prop where
  down : store.firstReconcileSucceeded = false
  attention : collectAttention store snapshot ≠ []
  posture : store.posture = reconcileAttentionPolicy

/-- A fact asks for a reconcile, which brings the store up, or leaves it stuck. -/
theorem Stuck.applyStep (h : store.Stuck snapshot) :
    (store.applyStep input).firstReconcileSucceeded = true ∨ (store.applyStep input).Stuck snapshot := by
  cases hfirst : (store.applyStep input).firstReconcileSucceeded with
  | true => exact .inl rfl
  | false =>
      refine .inr ⟨hfirst, ?_, ?_⟩
      · rw [sameLocal_applyStep.collectAttention]
        exact h.attention
      · rw [posture_applyStep, restorePolicy_absorb]
        simp only [consume_frame, h.down, h.posture, Bool.false_eq_true, if_false, ite_self]

theorem Stuck.enterReconciling (h : store.Stuck snapshot) : store.enterReconciling = store := by
  have hmode : store.runtimeMode = reconcileAttentionPolicy.mode :=
    congrArg RuntimePolicy.mode h.posture
  have hoverlay : store.overlay = reconcileAttentionPolicy.overlay :=
    congrArg RuntimePolicy.overlay h.posture
  rw [StateStore.enterReconciling, applyPolicy, ← hmode, ← hoverlay]

end StateStore

end AxiomArb.State

namespace AxiomArb.AppLive

open Domain Library State

namespace AppSupervisor

variable {env : SupervisorEnv} {supervisor supervisor' : AppSupervisor} {input : InputTaskEvent}

/-- Coming up again would change nothing. -/
def Up (supervisor : AppSupervisor) : Prop :=
  supervisor.Ready ∨ supervisor.hasSeededStartupState = false ∧
    supervisor.runtime.store.Stuck supervisor.bootstrapSnapshot

/-- A bootstrap that meets attention only restricts the store. -/
theorem bootstrapped_of_collectAttention
    (h : collectAttention supervisor.runtime.store supervisor.bootstrapSnapshot ≠ []) :
    supervisor.bootstrapped =
      { supervisor with runtime.store := supervisor.runtime.store.enterReconciling } := by
  have hreconciled : supervisor.runtime.store.reconcile supervisor.bootstrapSnapshot =
      ({ succeeded := false
         promotedFromBootstrap := false
         remoteApplied := false
         attention := collectAttention supervisor.runtime.store supervisor.bootstrapSnapshot },
        supervisor.runtime.store.enterReconciling) := by
    simp [StateStore.reconcile, reconcileStore, h]
  rw [bootstrapped, AppRuntime.bootstrapOnce, hreconciled]
  rfl

theorem ready_bootstrapped
    (h : collectAttention supervisor.runtime.store supervisor.bootstrapSnapshot = []) :
    supervisor.bootstrapped.Ready := by
  have hsucceeded := (StateStore.reconcile_succeeded_iff _ _).mpr h
  rw [Ready, bootstrapped, AppRuntime.store_bootstrapOnce]
  split
  · simp
  · exact (StateStore.reconcile_succeeded_fields _ _ hsucceeded).1

theorem up_startUp (h : exec startUp supervisor = (.ok ⟨⟩, supervisor')) : supervisor'.Up := by
  rcases startUp_cases supervisor with ⟨hready, heq⟩ | ⟨-, -, heq⟩ | ⟨hdown, hseed, heq⟩
  · rw [heq] at h
    cases h
    exact .inl hready
  · rw [h] at heq
    rcases restoreSeededStartupState_cases supervisor with hready | ⟨-, error, herror⟩
    · rw [← heq] at hready
      exact .inl hready
    · rw [← heq] at herror
      cases herror
  · rw [heq] at h
    cases h
    by_cases hattention :
        collectAttention supervisor.runtime.store supervisor.bootstrapSnapshot = []
    · exact .inl (ready_bootstrapped hattention)
    · rw [bootstrapped_of_collectAttention hattention]
      exact .inr ⟨hseed, Bool.eq_false_iff.mpr hdown, hattention, rfl⟩

theorem exec_startUp_of_up (h : supervisor.Up) :
    exec startUp supervisor = (.ok ⟨⟩, supervisor) := by
  rcases h with hready | ⟨hseed, hstuck⟩
  · exact exec_startUp_of_ready hready
  · have hdown : ¬ supervisor.Ready := Bool.eq_false_iff.mp hstuck.down
    rw [exec_startUp_of_bootstrapping hdown hseed,
      bootstrapped_of_collectAttention hstuck.attention, hstuck.enterReconciling]

/-! ## What a run does not undo -/

/-- Nothing but what the journal does to the store has changed, and the setup and the queue
have not. -/
structure Stays (supervisor supervisor' : AppSupervisor) : Prop where
  setup : supervisor'.setup = supervisor.setup
  store : supervisor'.runtime.store = supervisor.runtime.store

theorem Idle.stays (h : Idle supervisor supervisor') : Stays supervisor supervisor' :=
  ⟨h.setup, h.store⟩

/-- A supervisor that is up stays up, and the journal only goes on. -/
structure Advances (supervisor supervisor' : AppSupervisor) : Prop where
  setup : supervisor'.setup = supervisor.setup
  up : supervisor.Up → supervisor'.Up
  last : ∀ last, supervisor.runtime.lastJournalSeq = some last →
    ∃ last', supervisor'.runtime.lastJournalSeq = some last' ∧ last ≤ last'

instance : Std.Refl Advances := ⟨fun _ ↦ ⟨rfl, id, fun last h ↦ ⟨last, h, le_refl last⟩⟩⟩

instance : IsTrans AppSupervisor Advances := ⟨fun _ _ _ h h' ↦
  { setup := h'.setup.trans h.setup
    up := h'.up ∘ h.up
    last := fun last hlast ↦ by
      obtain ⟨last', hlast', hle⟩ := h.last last hlast
      obtain ⟨last'', hlast'', hle'⟩ := h'.last last' hlast'
      exact ⟨last'', hlast'', hle.trans hle'⟩ }⟩

/-- Being up is a matter of the setup and the store. -/
theorem Up.of_store (h : supervisor.Up) (hsetup : supervisor'.setup = supervisor.setup)
    (hready : supervisor.Ready → supervisor'.Ready)
    (hstuck : supervisor.runtime.store.Stuck supervisor.bootstrapSnapshot →
      supervisor'.Ready ∨ supervisor'.runtime.store.Stuck supervisor.bootstrapSnapshot) :
    supervisor'.Up := by
  have hsnapshot : supervisor'.bootstrapSnapshot = supervisor.bootstrapSnapshot :=
    congrArg Setup.bootstrapSnapshot hsetup
  rcases h with hup | ⟨hseed, hdown⟩
  · exact .inl (hready hup)
  · refine (hstuck hdown).imp id fun hstill ↦ ?_
    rw [hasSeededStartupState_congr hsetup, hsnapshot]
    exact ⟨hseed, hstill⟩

theorem Stays.advances (h : Stays supervisor supervisor') : Advances supervisor supervisor' where
  setup := h.setup
  up := fun hup ↦ hup.of_store h.setup (fun hready ↦ by rwa [Ready, h.store])
    fun hstuck ↦ .inr (h.store ▸ hstuck)
  last := fun last hlast ↦ ⟨last, by rwa [AppRuntime.lastJournalSeq, h.store], le_refl last⟩

/-- A fact that is taken moves the journal on, or had its number before. -/
theorem lastJournalSeq_applyStep {last : Int}
    (hlast : supervisor.runtime.store.lastConsumedJournalSeq = some last) :
    ∃ last', (supervisor.runtime.store.applyStep input.journaled).lastConsumedJournalSeq = some last' ∧
      last ≤ last' := by
  by_cases hadmits : supervisor.runtime.store.Admits input.journalSeq input.factKey
  · rw [InputTaskEvent.journaled, (StateStore.applyStep_journal hadmits).2.1, StateStore.consume]
    split
    · exact ⟨last, hlast, le_refl last⟩
    · rename_i hfree
      obtain ⟨-, hpast⟩ := hadmits.resolve_left hfree
      rw [hlast] at hpast
      exact ⟨input.journalSeq, rfl, le_of_lt (of_decide_eq_true hpast)⟩
  · rw [InputTaskEvent.journaled, StateStore.applyStep_of_not_admits hadmits]
    exact ⟨last, hlast, le_refl last⟩

theorem advances_of_applyStep (input : InputTaskEvent) (hsetup : supervisor'.setup = supervisor.setup)
    (hstore : supervisor'.runtime.store = supervisor.runtime.store.applyStep input.journaled) :
    Advances supervisor supervisor' where
  setup := hsetup
  up := fun hup ↦ by
    refine hup.of_store hsetup (fun hready ↦ ?_) fun hstuck ↦ ?_
    · rw [Ready, hstore]
      exact StateStore.ready_applyStep hready
    · rw [Ready, hstore]
      exact hstuck.applyStep
  last := fun last hlast ↦ by
    rw [AppRuntime.lastJournalSeq, hstore]
    exact lastJournalSeq_applyStep hlast

theorem advances_applyInput : Within Advances (applyInput input) := by
  intro supervisor
  have hsetup : (exec (applyInput input) supervisor).2.setup = supervisor.setup :=
    (within_applyInput supervisor).setup
  rw [exec_applyInput] at hsetup ⊢
  exact advances_of_applyStep input hsetup (AppRuntime.store_applyInput input)

theorem advances_drainInput : Within Advances (drainInput input) := by
  intro supervisor
  have hsetup : (exec (drainInput input) supervisor).2.setup = supervisor.setup :=
    (within_drainInput supervisor).setup
  rcases drainInput_effect supervisor input with ⟨_, -, heq⟩ | ⟨-, _, _, heq, hstore, -⟩
  · rw [heq]
    exact refl_of Advances supervisor
  · rw [heq] at hsetup ⊢
    exact advances_of_applyStep input hsetup hstore

theorem advances_endRun (env : SupervisorEnv) (restoring : Bool) :
    Within Advances (endRun env restoring) :=
  within_endRun_of (fun _ _ h ↦ h.stays.advances) (fun _ ↦ advances_drainInput) restoring

/-! ### Refreshing -/

theorem stays_executeLiveRecords (env : SupervisorEnv) (snapshotId : String) :
    Within Stays (executeLiveRecords env snapshotId) := by
  intro supervisor
  rw [exec_executeLiveRecords]
  exact ⟨rfl, rfl⟩

theorem advances_applyLiveSubmitFactsFrom (last : Int) (count : Nat)
    (records : List NegRiskLiveExecutionRecord) :
    Within Advances (applyLiveSubmitFactsFrom env last count records) := by
  induction records generalizing last count with
  | nil => exact within_pure
  | cons record records ih =>
      intro supervisor
      cases href : record.reference with
      | none =>
          rw [exec_submit_of_none href]
          exact ih last count supervisor
      | some submissionRef =>
          by_cases hadmits : supervisor.runtime.store.Admits (last + 1) record.submitKey
          · have htaken : Advances supervisor (submitted env supervisor (last + 1) record submissionRef) :=
              advances_of_applyStep
                (liveSubmitInput (last + 1) record submissionRef (env.now supervisor.effects.clockReads))
                (submitted_frame env supervisor _ record submissionRef).2.1 store_submitted
            rw [exec_submit_of_admitted href hadmits]
            split
            · exact htaken
            · exact trans_of Advances htaken (ih _ _ _)
          · obtain ⟨error, heq⟩ := exec_submit_of_refused env count records href hadmits
            rw [heq]
            exact Stays.advances ⟨rfl, rfl⟩

theorem advances_refresh (env : SupervisorEnv) (allow : Bool) :
    Within Advances (refreshNegRiskLiveExecutionRecords env allow) := by
  refine within_bind within_get fun supervisor ↦ ?_
  split
  · exact within_pure
  · refine within_ite ?_ ?_
    · exact (within_refreshShadowRecords env _).mono fun _ _ h ↦ h.stays.advances
    · refine within_bind ((stays_executeLiveRecords env _).mono fun _ _ ↦ Stays.advances)
        fun records ↦ within_bind ?_ fun count ↦ ?_
      · exact within_bind within_get fun _ ↦ advances_applyLiveSubmitFactsFrom _ _ _
      · exact (within_keepLiveRecords env _).mono fun _ _ h ↦ h.stays.advances

theorem advances_publishAndRefresh (env : SupervisorEnv) : Within Advances (publishAndRefresh env) :=
  within_bind within_get fun _ ↦
    within_bind (within_modify fun _ ↦ Idle.publishCurrentSnapshot.stays.advances) fun _ ↦
      advances_refresh env _

/-! ## The queue after a run -/

/-- No queued input is past the last number that the store has consumed. -/
def Quiescent (supervisor : AppSupervisor) : Prop :=
  ∀ input ∈ supervisor.inputTasks.backlog,
    ∃ last, supervisor.runtime.lastJournalSeq = some last ∧ input.journalSeq ≤ last

theorem Quiescent.advances (h : supervisor.Quiescent) (hadvances : Advances supervisor supervisor')
    (hqueue : ∀ input ∈ supervisor'.inputTasks.backlog, input ∈ supervisor.inputTasks.backlog) :
    supervisor'.Quiescent := by
  intro input hinput
  obtain ⟨last, hlast, hle⟩ := h input (hqueue input hinput)
  obtain ⟨last', hlast', hle'⟩ := hadvances.last last hlast
  exact ⟨last', hlast', hle.trans hle'⟩

theorem Quiescent.due (h : supervisor.Quiescent) :
    supervisor.inputTasks.due supervisor.runtime.lastJournalSeq = [] := by
  refine List.filter_eq_nil_iff.mpr fun input hinput ↦ ?_
  obtain ⟨last, hlast, hle⟩ := h input hinput
  simp [InputTaskEvent.past, hlast, hle]

/-- A run that ends well leaves nothing in the queue that is due. -/
theorem quiescent_endRun {restoring : Bool} {summary : SupervisorSummary}
    (h : exec (endRun env restoring) supervisor = (.ok summary, supervisor')) :
    supervisor'.Quiescent := by
  have hadvances := (advances_endRun env restoring).of_exec h
  obtain ⟨-, hleft⟩ := endRun_ok h
  intro input hinput
  obtain ⟨-, hpast⟩ := (hleft input).mp hinput
  cases hlast : supervisor.runtime.lastJournalSeq with
  | none => simp [hlast] at hpast
  | some last =>
      obtain ⟨last', hlast', hle⟩ := hadvances.last last hlast
      have hinput : input.journalSeq ≤ last := by simpa [hlast] using hpast
      exact ⟨last', hlast', hinput.trans hle⟩

/-- Where nothing is due, a drain does nothing. -/
theorem exec_drainInputTasks_of_quiescent (env : SupervisorEnv) (h : supervisor.Quiescent) :
    exec (drainInputTasks env) supervisor = (.ok 0, supervisor) := by
  have hloop := exec_drainInputTasksFrom env false supervisor.runtime.lastJournalSeq 0 false
    (supervisor.inputTasks.length_due_le)
  rw [h.due] at hloop
  simp only [drainInputTasks, exec_bind, exec_get]
  rw [hloop]
  rfl

/-- What a run leaves that ends well: it is up, and nothing is due. -/
structure Rested (supervisor : AppSupervisor) : Prop where
  up : supervisor.Up
  quiescent : supervisor.Quiescent

/-- A run that ends well brings the runtime up and drains the queue. -/
theorem rested_runOnce {summary : SupervisorSummary}
    (h : exec (runOnce env) supervisor = (.ok summary, supervisor')) : supervisor'.Rested := by
  rcases hup : exec startUp supervisor with ⟨error | ⟨⟩, started⟩
  · rw [exec_runOnce_of_error hup] at h
    cases h
  · rw [exec_runOnce hup] at h
    obtain ⟨_, refreshed, hrefresh, hend⟩ := exec_bind_eq_ok.mp h
    have hadvances : Advances started supervisor' :=
      trans_of Advances ((advances_publishAndRefresh env).of_exec hrefresh)
        ((advances_endRun env _).of_exec hend)
    exact ⟨hadvances.up (up_startUp hup), quiescent_endRun hend⟩

theorem inputTasks_publishAndRefresh (env : SupervisorEnv) (supervisor : AppSupervisor) :
    (exec (publishAndRefresh env) supervisor).2.inputTasks = supervisor.inputTasks := by
  cases hallow : supervisor.allowOperatorRolloutEvidenceSynthesis with
  | false =>
      rw [exec_publishAndRefresh_of_closed hallow]
      exact Idle.publishCurrentSnapshot.inputs
  | true =>
      simp only [publishAndRefresh, exec_bind, exec_get, exec_modify, hallow]
      exact (refresh_spec env _).2.1.trans Idle.publishCurrentSnapshot.inputs

/-- A run of a supervisor at rest publishes, submits and ends there. -/
theorem runOnce_of_rested {summary : SupervisorSummary} (hrested : supervisor.Rested)
    (h : exec (runOnce env) supervisor = (.ok summary, supervisor')) :
    ∃ refreshed, exec (publishAndRefresh env) supervisor = (.ok ⟨⟩, refreshed) ∧
      refreshed.validateNegRiskLiveExecutionAnchor = .ok ⟨⟩ ∧
      supervisor' = refreshed.flushDispatch ∧ summary = supervisor'.summary := by
  rw [exec_runOnce (exec_startUp_of_up hrested.up)] at h
  obtain ⟨_, refreshed, hrefresh, hend⟩ := exec_bind_eq_ok.mp h
  refine ⟨refreshed, hrefresh, ?_⟩
  have hqueue := inputTasks_publishAndRefresh env supervisor
  rw [hrefresh] at hqueue
  have hquiescent : refreshed.Quiescent :=
    hrested.quiescent.advances ((advances_publishAndRefresh env).of_exec hrefresh)
      fun input hinput ↦ hqueue ▸ hinput
  obtain ⟨_, _, hget, hend⟩ := exec_bind_eq_ok.mp hend
  cases hget
  obtain ⟨_, _, hvalid, hend⟩ := exec_bind_eq_ok.mp hend
  rw [exec_lift, Prod.mk.injEq] at hvalid
  obtain ⟨-, rfl⟩ := hvalid
  obtain ⟨_, drained, hdrain, hfinish⟩ := exec_bind_eq_ok.mp hend
  rw [exec_drainInputTasks_of_quiescent env hquiescent] at hdrain
  cases hdrain
  obtain ⟨hvalid, hsummary, rfl⟩ := finishRun_eq_ok_iff.mp hfinish
  exact ⟨hvalid, rfl, hsummary⟩

end AppSupervisor

end AxiomArb.AppLive
