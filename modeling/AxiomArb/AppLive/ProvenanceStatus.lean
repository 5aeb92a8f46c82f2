import AxiomArb.AppLive.AdoptionGate
import AxiomArb.AppLive.DiscoveryBatch
import AxiomArb.AppLive.LiveSubmission
import AxiomArb.AppLive.RevisionAgreement
import AxiomArb.AppLive.SupervisorFrame

/-!
# The adoption provenance of a supervisor

When candidates are handed to discovery, the supervisor compares the operator revision that is
reported with the revision of its live targets, and takes its adoption provenance for resolved
only while the two are equal.  The first is a strategy revision, the digest of a bundle; the
second is a target revision.  No strategy revision is a target revision, so that a bundle of
exactly the live targets, once it is stored, unresolves the provenance like any other.

## Honest boundary

* Discovery runs on a database that is any function of the notices that were handed on before,
  or fails to reach it.
* A drain is a run of the steps it is made of, in any order and number.
-/

namespace AxiomArb.AppLive

open Domain Library Persistence State

/-! ## Discovery behind a supervisor -/

/-- Store a notice in the database as the notices before have left it. -/
def persistNoticeBlocking (sha256 : String → String)
    (databases : List CandidateNotice → Except String StrategyStore) (notices : List CandidateNotice)
    (notice : CandidateNotice) : Except String DiscoveryReport := do
  let store ← databases notices
  (exec (DiscoverySupervisor.persistNoticeForRuntime sha256 notice) store).1

/-- Surroundings with this discovery. -/
def discovering (env : SupervisorEnv) (sha256 : String → String)
    (databases : List CandidateNotice → Except String StrategyStore) : SupervisorEnv :=
  { env with
    persistNotice := persistNoticeBlocking sha256 databases
    liveTargetRevision := negRiskLiveTargetRevisionFromTargets sha256 }

section Reports

variable {sha256 : String → String} {databases : List CandidateNotice → Except String StrategyStore}
  {notices : List CandidateNotice} {notice : CandidateNotice} {report : DiscoveryReport}

/-- What is stored is reported as it was processed. -/
theorem exists_outcome_of_persisted
    (h : persistNoticeBlocking sha256 databases notices notice = .ok report) :
    ∃ outcome, DiscoverySupervisor.processNotice sha256 notice = .ok outcome ∧
      outcome.report = report := by
  obtain ⟨store, -, hexec⟩ := bind_eq_ok.mp h
  have hstored : exec (DiscoverySupervisor.persistNoticeForRuntime sha256 notice) store =
      (.ok report, (exec (DiscoverySupervisor.persistNoticeForRuntime sha256 notice) store).2) :=
    Prod.ext hexec rfl
  obtain ⟨outcome, hprocessed, hrows⟩ := exec_lift_bind_eq_ok.mp hstored
  refine ⟨outcome, hprocessed, ?_⟩
  have hreport : ∀ {store store' : StrategyStore},
      exec (pure outcome.report : Command String StrategyStore DiscoveryReport) store =
        (.ok report, store') → outcome.report = report :=
    fun hpure ↦ Except.ok.inj (congrArg Prod.fst hpure)
  rw [CandidateNotice.processNotice_provenance hprocessed] at hrows
  cases hcandidate : outcome.candidate with
  | none =>
      rw [hcandidate] at hrows
      cases hadoptable : outcome.adoptable with
      | none =>
          rw [hadoptable] at hrows
          exact hreport hrows
      | some adoptable =>
          rw [hadoptable] at hrows
          obtain ⟨_, _, -, hrows⟩ := exec_bind_eq_ok.mp hrows
          exact hreport hrows
  | some candidate =>
      rw [hcandidate] at hrows
      obtain ⟨_, _, -, hrows⟩ := exec_bind_eq_ok.mp hrows
      cases hadoptable : outcome.adoptable with
      | none =>
          rw [hadoptable] at hrows
          exact hreport hrows
      | some adoptable =>
          rw [hadoptable] at hrows
          obtain ⟨_, _, -, hrows⟩ := exec_bind_eq_ok.mp hrows
          exact hreport hrows

/-- The revision that is reported is that of the adoptable row, if there is one. -/
theorem reported_operatorTargetRevision (hdirty : .candidates ∈ notice.dirtyDomains)
    {outcome : DiscoveryOutcome} (h : DiscoverySupervisor.processNotice sha256 notice = .ok outcome) :
    outcome.report.operatorTargetRevision =
      outcome.adoptable.map AdoptableStrategyRevisionRow.renderedOperatorStrategyRevision := by
  simp only [DiscoverySupervisor.processNotice, hdirty, List.contains_eq_mem, decide_true,
    Bool.not_true, Bool.false_eq_true, if_false, pure, Except.pure] at h
  obtain ⟨set, -, h⟩ := bind_eq_ok.mp h
  split at h
  · rw [← Except.ok.inj h]
    rfl
  · obtain ⟨rendered, -, h⟩ := bind_eq_ok.mp h
    rw [← Except.ok.inj h]
    rfl

/-- No strategy revision is a target revision. -/
theorem bundleRevision_ne_targetRevision (artifacts : List RouteArtifact) (targets : LiveTargets) :
    bundleRevision sha256 "operator-strategy" artifacts ≠
      negRiskLiveTargetRevisionFromTargets sha256 targets := by
  intro h
  have hfirst := congrArg (fun text ↦ text.toList.head?) h
  have hstrategy : (toString "operator-strategy").toList.head? = some 'o' := by decide
  have htarget : (toString "sha256:").toList.head? = some 's' := by decide
  simp [bundleRevision, negRiskLiveTargetRevisionFromTargets, hstrategy, htarget] at hfirst

end Reports

/-! ## Bundles -/

/-- The families of the bundle of a notice, each with the target that is rendered for it. -/
def CandidateNotice.bundle (notice : CandidateNotice) :
    List (String × Option NegRiskFamilyLiveTarget) :=
  notice.listed.map fun entry ↦ (entry.1.familyId, entry.2)

/-- The bundle consists of exactly these targets. -/
def CandidateNotice.RendersExactly (notice : CandidateNotice) (targets : LiveTargets) : Prop :=
  ∀ familyId rendered, (familyId, rendered) ∈ notice.bundle ↔
    ∃ target, rendered = some target ∧ targets[familyId]? = some target

/-! ## Drains -/

/-- What a drain is made of: an input is taken, or the candidates are handed to discovery. -/
inductive DrainStep where
  | input (input : InputTaskEvent)
  | materialize (authoritative : Bool)

namespace AppSupervisor

def drainStep (env : SupervisorEnv) (supervisor : AppSupervisor) : DrainStep → AppSupervisor
  | .input input => (exec (drainInput input) supervisor).2
  | .materialize authoritative => supervisor.materializeCandidateArtifactsWithAuthority env authoritative

def drained (env : SupervisorEnv) (supervisor : AppSupervisor) (steps : List DrainStep) :
    AppSupervisor :=
  run (drainStep env) supervisor steps

/-- The supervisor's revision is that of its live targets. -/
structure RunsOn (supervisor : AppSupervisor) (sha256 : String → String) (targets : LiveTargets) :
    Prop where
  live : supervisor.negRiskLiveTargets = targets
  revision : supervisor.negRiskLiveTargetRevision =
    if targets.isEmpty then none else some (negRiskLiveTargetRevisionFromTargets sha256 targets)

/-- The provenance is resolved with a bundle of exactly these targets, and not with any other
that is stored. -/
def FollowsTargets (supervisor : AppSupervisor) (env : SupervisorEnv) (authoritative : Bool)
    (targets : LiveTargets) : Prop :=
  ∀ notice, supervisor.candidateNotice authoritative = some notice → notice.Adoptable →
    (notice.RendersExactly targets →
      (supervisor.materializeCandidateArtifactsWithAuthority env
        authoritative).candidateRestoreStatus.adoptionProvenanceResolved = true) ∧
    (¬notice.RendersExactly targets → (env.persistNotice supervisor.effects.notices notice).isOk →
      (supervisor.materializeCandidateArtifactsWithAuthority env
        authoritative).candidateRestoreStatus.adoptionProvenanceResolved = false)

section Drains

variable {env : SupervisorEnv} {sha256 : String → String}
  {databases : List CandidateNotice → Except String StrategyStore} {supervisor : AppSupervisor}
  {targets : LiveTargets} {authoritative : Bool} {notice : CandidateNotice}

theorem runsOn_seedNegRiskLiveTargets (supervisor : AppSupervisor) (targets : LiveTargets) :
    (supervisor.seedNegRiskLiveTargets (discovering env sha256 databases) targets).RunsOn sha256
      targets :=
  ⟨rfl, rfl⟩

/-- The live targets and their revision are left alone. -/
def SameTargets (supervisor supervisor' : AppSupervisor) : Prop :=
  supervisor'.negRiskLiveTargets = supervisor.negRiskLiveTargets ∧
    supervisor'.negRiskLiveTargetRevision = supervisor.negRiskLiveTargetRevision

instance : Std.Refl SameTargets := ⟨fun _ ↦ ⟨rfl, rfl⟩⟩

instance : IsTrans AppSupervisor SameTargets :=
  ⟨fun _ _ _ h h' ↦ ⟨h'.1.trans h.1, h'.2.trans h.2⟩⟩

theorem sameTargets_installEvidence {evidence : Option NegRiskRolloutEvidence}
    {source : NegRiskRolloutEvidenceSource} :
    SameTargets supervisor (supervisor.installEvidence evidence source) := by
  unfold installEvidence retainCurrentNegRiskShadowExecutionRecords
    retainCurrentNegRiskLiveExecutionRecords
  cases h : supervisor.runtime.publishedSnapshotId with
  | none => simp [h, SameTargets]
  | some snapshotId => simp [h, SameTargets]

theorem sameTargets_publishCurrentSnapshot {allow : Bool} :
    SameTargets supervisor (supervisor.publishCurrentSnapshot allow) := by
  unfold publishCurrentSnapshot
  split
  · exact trans_of SameTargets ⟨rfl, rfl⟩ sameTargets_installEvidence
  · exact trans_of SameTargets ⟨rfl, rfl⟩ sameTargets_installEvidence

theorem sameTargets_recordCommittedInput {input : InputTaskEvent} :
    SameTargets supervisor (supervisor.recordCommittedInput input) := by
  unfold recordCommittedInput
  split
  · exact refl_of SameTargets supervisor
  · exact ⟨rfl, rfl⟩

theorem sameTargets_materialize :
    SameTargets supervisor
      (supervisor.materializeCandidateArtifactsWithAuthority env authoritative) := by
  unfold materializeCandidateArtifactsWithAuthority
  split
  · exact refl_of SameTargets supervisor
  · simp only
    split
    · exact ⟨rfl, rfl⟩
    · exact ⟨rfl, rfl⟩

theorem within_sameTargets_drainInput (input : InputTaskEvent) :
    Within SameTargets (drainInput input) := by
  have happly : Within SameTargets (applyInput input) := by
    intro supervisor
    rw [exec_applyInput]
    exact ⟨rfl, rfl⟩
  refine within_bind happly fun result ↦ ?_
  cases result with
  | applied seq version dirtySet =>
      refine within_bind (within_modify fun supervisor ↦ ?_) fun _ ↦ within_pure
      refine trans_of SameTargets ?_ sameTargets_publishCurrentSnapshot
      exact trans_of SameTargets sameTargets_recordCommittedInput ⟨rfl, rfl⟩
  | duplicate _ _ _ | deferred _ _ _ | reconcileRequired _ _ _ =>
      refine within_bind (within_modify fun supervisor ↦ ?_) fun _ ↦ within_pure
      exact trans_of SameTargets sameTargets_recordCommittedInput ⟨rfl, rfl⟩

theorem RunsOn.drainStep (h : supervisor.RunsOn sha256 targets) (step : DrainStep) :
    (supervisor.drainStep env step).RunsOn sha256 targets := by
  have hsame : SameTargets supervisor (supervisor.drainStep env step) := by
    cases step with
    | input input => exact within_sameTargets_drainInput input supervisor
    | materialize authoritative => exact sameTargets_materialize
  exact ⟨hsame.1.trans h.live, hsame.2.trans h.revision⟩

/-- A run of the steps of a drain. -/
def Drains (env : SupervisorEnv) (supervisor supervisor' : AppSupervisor) : Prop :=
  ∃ steps, supervisor' = drained env supervisor steps

instance : Std.Refl (Drains env) := ⟨fun _ ↦ ⟨[], rfl⟩⟩

instance : IsTrans AppSupervisor (Drains env) := ⟨by
  rintro supervisor _ _ ⟨steps, rfl⟩ ⟨steps', rfl⟩
  exact ⟨steps ++ steps', (run_append _ _ _ _).symm⟩⟩

theorem drains_materialize (dirty authoritative : Bool) : Drains env supervisor
    (if dirty then supervisor.materializeCandidateArtifactsWithAuthority env authoritative
      else supervisor) := by
  split
  · exact ⟨[.materialize authoritative], rfl⟩
  · exact refl_of (Drains env) supervisor

theorem within_drains_drainInputTasksFrom (authoritative : Bool) (anchor : Option Int)
    (fuel processed : Nat) (seen : Bool) :
    Within (Drains env) (drainInputTasksFrom env authoritative anchor fuel processed seen) := by
  induction fuel generalizing processed seen with
  | zero => exact within_pure
  | succ fuel ih =>
      refine within_bind within_get fun supervisor ↦ ?_
      split
      · exact within_pure
      · rename_i input _
        refine within_bind (fun supervisor ↦ ⟨[.input input], rfl⟩) fun dirty ↦ ?_
        exact within_bind (within_modify fun _ ↦ drains_materialize _ false) fun _ ↦ ih _ _

/-- Both drains of the queue are runs of such steps. -/
theorem within_drains :
    Within (Drains env) (drainInputTasks env) ∧
      Within (Drains env) (drainInputTasksAuthoritativeDiscovery env) := by
  constructor
  · exact within_bind within_get fun _ ↦
      within_bind (within_drains_drainInputTasksFrom _ _ _ _ _) fun _ ↦ within_pure
  · refine within_bind within_get fun _ ↦
      within_bind (within_drains_drainInputTasksFrom _ _ _ _ _) fun drained ↦ ?_
    exact within_bind (within_modify fun _ ↦ drains_materialize _ true) fun _ ↦ within_pure

theorem candidates_mem_of_candidateNotice
    (h : supervisor.candidateNotice authoritative = some notice) :
    .candidates ∈ notice.dirtyDomains := by
  unfold candidateNotice at h
  obtain ⟨publication, -, h⟩ := Option.bind_eq_some_iff.mp h
  obtain ⟨view, -, h⟩ := Option.bind_eq_some_iff.mp h
  split at h
  · cases h
  · rw [← Option.some.inj h]
    exact List.mem_singleton_self _

/-- An adoptable notice leaves the provenance resolved if it is not stored, and was resolved
before. -/
theorem resolved_materialize_iff (hruns : supervisor.RunsOn sha256 targets)
    (hnotice : supervisor.candidateNotice authoritative = some notice)
    (hadoptable : notice.Adoptable) :
    (supervisor.materializeCandidateArtifactsWithAuthority (discovering env sha256 databases)
        authoritative).candidateRestoreStatus.adoptionProvenanceResolved = true ↔
      supervisor.candidateRestoreStatus.adoptionProvenanceResolved = true ∧
        ¬(persistNoticeBlocking sha256 databases supervisor.effects.notices notice).isOk := by
  rw [materializeCandidateArtifactsWithAuthority, hnotice]
  cases hstored : persistNoticeBlocking sha256 databases supervisor.effects.notices notice with
  | error error => simp [discovering, hstored, Except.isOk, Except.toBool]
  | ok report =>
      have hdiffer : report.operatorTargetRevision ≠ supervisor.negRiskLiveTargetRevision := by
        have hdirty := candidates_mem_of_candidateNotice hnotice
        obtain ⟨outcome, hprocessed, rfl⟩ := exists_outcome_of_persisted hstored
        obtain ⟨set, hset⟩ := (CandidateNotice.renders_of_processNotice hdirty hprocessed).1
        rw [reported_operatorTargetRevision hdirty hprocessed, hset.adoptable, if_pos hadoptable,
          hruns.revision]
        split
        · exact Option.some_ne_none _
        · rw [Option.map_some, ne_eq, Option.some.injEq]
          exact bundleRevision_ne_targetRevision _ _
      simp [discovering, hstored, hdiffer, Except.isOk, Except.toBool]

theorem RunsOn.drained (h : supervisor.RunsOn sha256 targets) (steps : List DrainStep) :
    (drained env supervisor steps).RunsOn sha256 targets :=
  run_inv (P := fun later : AppSupervisor ↦ later.RunsOn sha256 targets)
    (fun _ step h ↦ h.drainStep step) h

/-- **A stored bundle unresolves the provenance.**  After any drain of a supervisor that runs on
these targets, the provenance follows them exactly where no bundle that consists of them is
handed on, or where it is still resolved and the bundle is not stored. -/
theorem followsTargets_iff (hruns : supervisor.RunsOn sha256 targets) (env : SupervisorEnv)
    (databases : List CandidateNotice → Except String StrategyStore) (steps : List DrainStep)
    (authoritative : Bool) :
    (drained (discovering env sha256 databases) supervisor steps).FollowsTargets
        (discovering env sha256 databases) authoritative targets ↔
      ∀ notice,
        (drained (discovering env sha256 databases) supervisor steps).candidateNotice authoritative =
          some notice → notice.Adoptable → notice.RendersExactly targets →
        (drained (discovering env sha256 databases) supervisor
            steps).candidateRestoreStatus.adoptionProvenanceResolved = true ∧
          ¬(persistNoticeBlocking sha256 databases
            (drained (discovering env sha256 databases) supervisor steps).effects.notices
            notice).isOk := by
  have hlater : (drained (discovering env sha256 databases) supervisor steps).RunsOn sha256 targets :=
    hruns.drained steps
  refine forall_congr' fun notice ↦ forall_congr' fun hnotice ↦ forall_congr' fun hadoptable ↦ ?_
  rw [← Bool.not_eq_true, resolved_materialize_iff hlater hnotice hadoptable]
  refine and_iff_left ?_
  rintro - hstored ⟨-, hfailed⟩
  exact hfailed hstored

end Drains

/-! ## A bundle of exactly the live targets -/

section Sample

/-- On an empty database every notice that lists a record is stored. -/
theorem isOk_persistNoticeBlocking_empty (sha256 : String → String) {notices : List CandidateNotice}
    {notice : CandidateNotice} (h : notice.discoveryRecords ≠ []) :
    (persistNoticeBlocking sha256 (fun _ ↦ .ok ⟨.empty, []⟩) notices notice).isOk := by
  obtain ⟨outcome, hprocessed⟩ := CandidateNotice.exists_processNotice_eq_ok sha256 h
  have hprovenance := CandidateNotice.processNotice_provenance hprocessed
  show (exec (DiscoverySupervisor.persistNoticeForRuntime sha256 notice) ⟨.empty, []⟩).1.isOk
  simp only [DiscoverySupervisor.persistNoticeForRuntime, exec_bind, exec_lift, hprocessed, hprovenance]
  cases outcome.candidate with
  | none =>
      cases outcome.adoptable with
      | none => rfl
      | some adoptable => rfl
  | some candidate =>
      cases outcome.adoptable with
      | none => rfl
      | some adoptable => rfl

/-- The digests of the sample. -/
def sampleDiscovering : SupervisorEnv :=
  discovering takingEnv (tabled sampleRevisionDigests) fun _ ↦ .ok ⟨.empty, []⟩

/-- A supervisor that is up, with one live target and its provenance resolved. -/
def resolvedSupervisor : AppSupervisor :=
  let seeded := [SeedOp.candidateRestoreStatus
      { latestCandidateRevision := some "candidate-9"
        latestAdoptableRevision := some "adoptable-9"
        latestCandidateOperatorTargetRevision :=
          some (negRiskLiveTargetRevisionFromTargets (tabled sampleRevisionDigests)
            (sampleTargets ["family-a"]))
        adoptionProvenanceResolved := true },
    .negRiskLiveTargets (sampleTargets ["family-a"])].foldl (applySeed sampleDiscovering)
      (new .live .empty)
  { seeded with runtime := (seeded.runtime.bootstrapOnce seeded.bootstrapSnapshot).2 }

theorem runsOn_resolvedSupervisor :
    resolvedSupervisor.RunsOn (tabled sampleRevisionDigests) (sampleTargets ["family-a"]) :=
  ⟨rfl, rfl⟩

/-- The family of the target is discovered and backfilled. -/
def discoverySteps : List DrainStep :=
  [.input (.familyDiscoveryObserved 1 "session-1" "event-1" "family-a" 1),
    .input
      { journalSeq := 2
        event := .familyBackfillObserved "session-1" "event-2" "family-a" "cursor-1" true 2
        hint := .none }]

theorem resolvedSupervisor_bundle :
    ((drained sampleDiscovering resolvedSupervisor discoverySteps).candidateNotice true).map
      (fun notice ↦ (notice.bundle, decide notice.Adoptable)) =
        some ([("family-a", some (sampleLiveTarget "family-a"))], true) := by
  decide +kernel

/-- What is filed for the one family. -/
theorem sampleTargets_eq_some_iff {familyId : String} {target : NegRiskFamilyLiveTarget} :
    (sampleTargets ["family-a"])[familyId]? = some target ↔
      familyId = "family-a" ∧ target = sampleLiveTarget "family-a" := by
  rw [sampleTargets, BTreeMap.lookup_byKey]
  by_cases hfamily : familyId = "family-a"
  · simp [hfamily, BTreeMap.lastOf, sampleLiveTarget, eq_comm]
  · simp [hfamily, BTreeMap.lastOf, sampleLiveTarget, Ne.symm hfamily]

theorem followsTargets_resolvedSupervisor :
    (drained sampleDiscovering resolvedSupervisor discoverySteps).FollowsTargets sampleDiscovering
        true (sampleTargets ["family-a"]) ↔
      ∀ notice, (drained sampleDiscovering resolvedSupervisor discoverySteps).candidateNotice true =
          some notice → notice.Adoptable → notice.RendersExactly (sampleTargets ["family-a"]) →
        (drained sampleDiscovering resolvedSupervisor
            discoverySteps).candidateRestoreStatus.adoptionProvenanceResolved = true ∧
          ¬(persistNoticeBlocking (tabled sampleRevisionDigests) (fun _ ↦ .ok ⟨.empty, []⟩)
            (drained sampleDiscovering resolvedSupervisor discoverySteps).effects.notices
            notice).isOk :=
  followsTargets_iff runsOn_resolvedSupervisor takingEnv _ discoverySteps true

/-- A bundle of exactly the one live target unresolves the provenance. -/
theorem resolvedSupervisor_unresolved :
    (drained sampleDiscovering resolvedSupervisor
        discoverySteps).candidateRestoreStatus.adoptionProvenanceResolved = true ∧
      ((drained sampleDiscovering resolvedSupervisor discoverySteps).candidateNotice true).map
        CandidateNotice.bundle = some [("family-a", some (sampleLiveTarget "family-a"))] ∧
      ((drained sampleDiscovering resolvedSupervisor discoverySteps).drainStep sampleDiscovering
        (.materialize true)).candidateRestoreStatus.adoptionProvenanceResolved = false ∧
      ¬(drained sampleDiscovering resolvedSupervisor discoverySteps).FollowsTargets sampleDiscovering
        true (sampleTargets ["family-a"]) := by
  obtain ⟨notice, hnotice, hbundle⟩ := Option.map_eq_some_iff.mp resolvedSupervisor_bundle
  obtain ⟨hlisted, hadoptable⟩ := Prod.mk.inj hbundle
  rw [decide_eq_true_iff] at hadoptable
  have hexactly : notice.RendersExactly (sampleTargets ["family-a"]) := by
    intro familyId rendered
    simp only [hlisted, List.mem_singleton, Prod.mk.injEq, sampleTargets_eq_some_iff]
    constructor
    · rintro ⟨rfl, rfl⟩
      exact ⟨_, rfl, rfl, rfl⟩
    · rintro ⟨_, rfl, rfl, rfl⟩
      exact ⟨rfl, rfl⟩
  have hrecords : notice.discoveryRecords ≠ [] := by
    intro hnil
    simp [CandidateNotice.bundle, CandidateNotice.listed, CandidateNotice.targets, listing, hnil]
      at hlisted
  have hunresolved : ¬((drained sampleDiscovering resolvedSupervisor
      discoverySteps).drainStep sampleDiscovering
        (.materialize true)).candidateRestoreStatus.adoptionProvenanceResolved = true := by
    intro hresolved
    exact ((resolved_materialize_iff (runsOn_resolvedSupervisor.drained discoverySteps) hnotice
      hadoptable).mp hresolved).2 (isOk_persistNoticeBlocking_empty _ hrecords)
  refine ⟨by decide +kernel, ?_, Bool.not_eq_true _ ▸ hunresolved, fun hfollows ↦ ?_⟩
  · rw [hnotice, Option.map_some, hlisted]
  · exact hunresolved ((hfollows notice hnotice hadoptable).1 hexactly)

end Sample

end AppSupervisor

end AxiomArb.AppLive
