import AxiomArb.AppLive.DurableStartup

/-!
# No resubmission after a restart

A supervisor that starts from the durable store is seeded with the records of what was
submitted before.  The guard that decides whether to submit looks at the records that
are left of them once a snapshot is published, and these are those of that very snapshot.
So a record of the version that is restored keeps every family from being submitted, and
any other record keeps none (`resubmitsNothing_iff`).
-/

namespace AxiomArb.AppLive

open Domain Library State

namespace AppSupervisor

variable {durable : DurableLiveStartupState} {inputs : OperatorInputs}

/-- A run calls the venue for no family of which a live record is seeded. -/
def ResubmitsNothing (env : SupervisorEnv) (supervisor : AppSupervisor) : Prop :=
  ∀ call ∈ (exec (runOnce env) supervisor).2.effects.venueCalls,
    ∀ record ∈ supervisor.seed.negRiskLiveExecutionRecords, record.scope ≠ call.familyId

/-- A start from the durable store submits families. -/
structure SubmitsOnStart (durable : DurableLiveStartupState) (inputs : OperatorInputs) : Prop where
  live : inputs.realUserShadowSmoke = false
  settled : durable.pendingReconcileAnchors = []
  ready : ∃ familyId ∈ inputs.negRiskLiveTargets.keys,
    familyId ∈ inputs.negRiskLiveReadyFamilies ∧ familyId ∈ inputs.negRiskLiveApprovedFamilies
  stale : ∀ record ∈ durable.liveExecutionRecords,
    record.snapshotId ≠ snapshotIdFor durable.lastStateVersion

instance : DecidablePred (SubmitsOnStart durable) := fun inputs ↦
  decidable_of_iff (inputs.realUserShadowSmoke = false ∧
      durable.pendingReconcileAnchors.isEmpty ∧
      (∃ familyId ∈ inputs.negRiskLiveTargets.keys,
        familyId ∈ inputs.negRiskLiveReadyFamilies ∧
          familyId ∈ inputs.negRiskLiveApprovedFamilies) ∧
      ∀ record ∈ durable.liveExecutionRecords,
        record.snapshotId ≠ snapshotIdFor durable.lastStateVersion)
    ⟨fun ⟨hlive, hsettled, hready, hstale⟩ ↦ ⟨hlive, by simpa using hsettled, hready, hstale⟩,
      fun ⟨hlive, hsettled, hready, hstale⟩ ↦ ⟨hlive, by simpa using hsettled, hready, hstale⟩⟩

/-- The family is eligible, and the venue takes the families that come before it. -/
def Reaches (env : SupervisorEnv) (inputs : OperatorInputs) (snapshotId familyId : String) : Prop :=
  ∃ earlier target later,
    eligible inputs.negRiskLiveApprovedFamilies inputs.negRiskLiveReadyFamilies
      inputs.negRiskLiveTargets.toList = earlier ++ (familyId, target) :: later ∧
    ∀ call ∈ venueBatch env.hookBackend snapshotId inputs.negRiskLiveApprovedFamilies [] earlier,
      ∃ record, call.answer = .ok record

/-! ## Coming up -/

variable (env : SupervisorEnv) (bootstrapSnapshot : RemoteSnapshot)

theorem syntheticLiveReadyFamilyCount_durableStart (durable : DurableLiveStartupState)
    (inputs : OperatorInputs) :
    (durableStart env bootstrapSnapshot durable inputs).syntheticLiveReadyFamilyCount ≠ 0 ↔
      ∃ familyId ∈ inputs.negRiskLiveTargets.keys, familyId ∈ inputs.negRiskLiveReadyFamilies ∧
        familyId ∈ inputs.negRiskLiveApprovedFamilies := by
  simp [syntheticLiveReadyFamilyCount, durableStart_eq, List.countP_eq_zero]

section Start

variable (hlive : inputs.realUserShadowSmoke = false) (hsettled : durable.pendingReconcileAnchors = [])

include hlive hsettled

/-- With nothing pending a start that is no smoke test comes up. -/
theorem exec_startUp_durableStart :
    let supervisor := durableStart env bootstrapSnapshot durable inputs
    exec startUp supervisor = (.ok ⟨⟩, supervisor.republished durable.lastJournalSeq) := by
  intro supervisor
  have hseed : supervisor.seed = durableSeed durable false := by
    simp only [supervisor, durableStart_eq, hlive]
  have hsmoke : supervisor.realUserShadowSmokeEnabled = false := by
    simp only [supervisor, durableStart_eq, hlive]
  have hrestoring : supervisor.restoringSeededStartup = true := by
    simp [restoringSeededStartup, hasSeededStartupState, durableSeed, supervisor, durableStart_eq,
      new, AppRuntime.bootstrapStatus, bootstrapStatus, AppRuntime.new, StateStore.new]
  have hshadow : (supervisor.republished durable.lastJournalSeq).validateNegRiskShadowExecutionAnchor =
      .ok ⟨⟩ := by
    have hsetup := congrArg Setup.realUserShadowSmokeEnabled
      (setup_republished supervisor durable.lastJournalSeq)
    simp only [setup, hsmoke] at hsetup
    simp [validateNegRiskShadowExecutionAnchor, hsetup]
  rw [exec_startUp_of_restoring hrestoring, exec_restoreSeededStartupState (by rw [hseed]; rfl)
    (by rw [hseed]; exact hsettled) (by rw [hseed, durableSeed, hsettled]; rfl), hshadow]

/-- Once restored, the guard is open exactly where no record is of the restored version. -/
theorem allow_republished_iff :
    ((durableStart env bootstrapSnapshot durable inputs).republished durable.lastJournalSeq
      ).allowOperatorRolloutEvidenceSynthesis = true ↔
    ∀ record ∈ durable.liveExecutionRecords,
      record.snapshotId ≠ snapshotIdFor durable.lastStateVersion := by
  generalize hstart : durableStart env bootstrapSnapshot durable inputs = supervisor
  have hseed : supervisor.seed = durableSeed durable false := by
    simp only [← hstart, durableStart_eq, hlive]
  obtain ⟨hversion, -, hpending, hrecords, hattempts⟩ :=
    restoredClear_republished supervisor durable.lastJournalSeq
  have hseed' := congrArg Setup.seed
    (setup_republished supervisor durable.lastJournalSeq)
  simp only [setup, hseed] at hseed'
  have hversion' : (supervisor.republished durable.lastJournalSeq).runtime.stateVersion =
      durable.lastStateVersion := by
    rw [hversion, hseed]
    rfl
  simp [allowOperatorRolloutEvidenceSynthesis, pristineBootstrap, hasSeededStartupState, hseed',
    durableSeed, hpending, hrecords, hattempts, hseed, hversion', hsettled]

theorem liveBatchOpen_republished_iff :
    ((durableStart env bootstrapSnapshot durable inputs).republished durable.lastJournalSeq
      ).LiveBatchOpen ↔ SubmitsOnStart durable inputs := by
  have hallow := allow_republished_iff env bootstrapSnapshot hlive hsettled
  have hready := syntheticLiveReadyFamilyCount_durableStart env bootstrapSnapshot durable inputs
  have hseed : (durableStart env bootstrapSnapshot durable inputs).seed = durableSeed durable false := by
    rw [durableStart_eq, hlive]
  have hsmoke : (durableStart env bootstrapSnapshot durable inputs).realUserShadowSmokeEnabled =
      false := by
    rw [durableStart_eq, hlive]
  generalize durableStart env bootstrapSnapshot durable inputs = supervisor at *
  obtain ⟨hversion, happlied, -, hrecords, -⟩ :=
    restoredClear_republished supervisor durable.lastJournalSeq
  have hsetup := setup_republished supervisor durable.lastJournalSeq
  generalize supervisor.republished durable.lastJournalSeq = restored at *
  simp only [setup, Setup.mk.injEq] at hsetup
  have hcount : restored.syntheticLiveReadyFamilyCount =
      supervisor.syntheticLiveReadyFamilyCount := by
    simp [syntheticLiveReadyFamilyCount, hsetup]
  constructor
  · rintro ⟨-, hopen, hfamilies, -⟩
    exact ⟨hlive, hsettled, hready.mp (hcount ▸ hfamilies), hallow.mp hopen⟩
  · rintro ⟨-, -, hfamilies, hstale⟩
    refine ⟨by simp [hsetup, hsmoke], hallow.mpr hstale, hcount ▸ hready.mpr hfamilies, happlied, ?_⟩
    intro record hrecord
    rw [hrecords, List.mem_filter, hseed] at hrecord
    rw [hversion, hseed]
    exact hstale record hrecord.1

end Start

/-! ## Submitting -/

/-- A start from the durable store submits its batch, or nothing. -/
theorem venueCalls_durableStart (durable : DurableLiveStartupState) (inputs : OperatorInputs) :
    (exec (runOnce env) (durableStart env bootstrapSnapshot durable inputs)).2.effects.venueCalls =
      if SubmitsOnStart durable inputs then
        venueBatch env.hookBackend (snapshotIdFor durable.lastStateVersion)
          inputs.negRiskLiveApprovedFamilies []
          (eligible inputs.negRiskLiveApprovedFamilies inputs.negRiskLiveReadyFamilies
            inputs.negRiskLiveTargets.toList)
      else [] := by
  have hframe := seededLive_frame env bootstrapSnapshot (durableSeeds durable inputs)
  have hmode : (durableStart env bootstrapSnapshot durable inputs).runtime.appMode = .live :=
    congrArg AppRuntime.appMode hframe.1
  have hsettled : (durableStart env bootstrapSnapshot durable inputs).Settled :=
    fun _ ↦ .inl (congrArg AppRuntime.lastJournalSeq hframe.1)
  have hcalls : (durableStart env bootstrapSnapshot durable inputs).effects.venueCalls = [] :=
    congrArg Effects.venueCalls hframe.2
  by_cases hclear : inputs.realUserShadowSmoke = false ∧ durable.pendingReconcileAnchors = []
  · have hup := exec_startUp_durableStart env bootstrapSnapshot hclear.1 hclear.2
    have hopen := liveBatchOpen_republished_iff env bootstrapSnapshot hclear.1 hclear.2
    have hversion := (restoredClear_republished (durableStart env bootstrapSnapshot durable inputs)
      durable.lastJournalSeq).stateVersion
    obtain ⟨-, -, hrun⟩ := runOnce_spec env hmode hsettled hup
    rw [hrun, hcalls, List.nil_append, hversion]
    simp only [hopen, liveBatchFor, eligibleFamilies, backend, hcalls]
    simp only [durableStart_eq]
    rfl
  · have hclosed : ¬ SubmitsOnStart durable inputs := fun h ↦ hclear ⟨h.live, h.settled⟩
    rw [if_neg hclosed]
    obtain ⟨-, -, -, ⟨hsame, -⟩ | ⟨-, -, hopen, -⟩⟩ := runOnce_calls env hmode hsettled
    · exact hsame.trans hcalls
    · -- the guard looks at the anchors of the seed
      have hseeded : (durableStart env bootstrapSnapshot durable inputs).hasSeededStartupState =
          true := by
        simp [hasSeededStartupState, durableStart_eq, durableSeed]
      have hanchors := (pending_of_allow
        ((hasSeededStartupState_congr setup_broughtUp).trans hseeded) hopen.2.1).2
      have hsmoke := hopen.1
      have hsetup : (durableStart env bootstrapSnapshot durable inputs).broughtUp.setup =
          (durableStart env bootstrapSnapshot durable inputs).setup := setup_broughtUp
      simp only [setup, Setup.mk.injEq] at hsetup
      simp only [hsetup] at hanchors hsmoke
      simp only [durableStart_eq, durableSeed] at hanchors hsmoke
      exact absurd ⟨hsmoke, hanchors⟩ hclear

/-- **No family is submitted again**, exactly when nothing is submitted at all, or the
submission does not get to a family of which there is a record. -/
theorem resubmitsNothing_iff (durable : DurableLiveStartupState) (inputs : OperatorInputs) :
    ResubmitsNothing env (durableStart env bootstrapSnapshot durable inputs) ↔
      (SubmitsOnStart durable inputs → ∀ record ∈ durable.liveExecutionRecords,
        ¬ Reaches env inputs (snapshotIdFor durable.lastStateVersion) record.scope) := by
  have hseed : (durableStart env bootstrapSnapshot durable inputs
      ).seed.negRiskLiveExecutionRecords = durable.liveExecutionRecords := by
    rw [durableStart_eq]
    rfl
  rw [ResubmitsNothing, venueCalls_durableStart, hseed]
  by_cases hsubmits : SubmitsOnStart durable inputs
  · simp only [hsubmits, if_true, true_implies, Reaches, ← mem_familyIds_venueBatch_iff,
      List.mem_map, not_exists, not_and]
    exact ⟨fun h record hrecord call hcall heq ↦ h call hcall record hrecord heq.symm,
      fun h call hcall record hrecord heq ↦ h record hrecord call hcall heq.symm⟩
  · simp [hsubmits]

/-- What the durable store holds after a submission at version 0, and another version. -/
def staleDurable : DurableLiveStartupState :=
  { lastJournalSeq := 5
    lastStateVersion := 1
    publishedSnapshotId := some "snapshot-1"
    pendingReconcileAnchors := []
    liveExecutionRecords :=
      [takenRecord "snapshot-0" { familyId := "family-a", members := [] } "family-a-live"]
    shadowExecutionAttempts := []
    shadowExecutionArtifacts := []
    candidateRestoreStatus := .default }

/-- The operator's word for one family. -/
def oneFamily : OperatorInputs :=
  { negRiskLiveTargets := .byKey NegRiskFamilyLiveTarget.familyId [{ familyId := "family-a", members := [] }]
    negRiskLiveApprovedFamilies := (∅ : BTreeSet String).insert "family-a"
    negRiskLiveReadyFamilies := (∅ : BTreeSet String).insert "family-a"
    realUserShadowSmoke := false }

/-- The record of an earlier version does not keep its family from the venue. -/
theorem family_resubmitted_after_restart :
    ¬ ResubmitsNothing takingEnv (durableStart takingEnv .empty staleDurable oneFamily) := by
  intro h
  rw [ResubmitsNothing, venueCalls_durableStart] at h
  revert h
  decide +kernel

end AppSupervisor

end AxiomArb.AppLive
