import AxiomArb.AppLive.TargetsCommands

/-!
# The configuration and the history stay in step

After an adoption or a rollback the configuration names the revision of the newest row
of the history.  A call changes the two one after the other, and an adoption that
migrates older input changes the configuration twice.  `in_step_iff` says that a
sequence of calls keeps the two in step, and changes neither where a call fails, exactly
if no call is interrupted between its changes.
-/

namespace AxiomArb.AppLive

open Domain Library Persistence

/-! ## What a migration leaves -/

/-- The rows of the lineage are in the neutral tables, and its provenance is read. -/
structure Holds (database : StrategyDatabase) (lineage : StrategyAdoptionProvenanceRow) :
    Prop where
  linked : database.Linked lineage
  read : database.getByOperatorStrategyRevision lineage.operatorStrategyRevision =
    .ok (some lineage)

section Migrated

variable {lineage : StrategyAdoptionProvenanceRow} {store store' : StrategyStore}

theorem holds_of_upserted (hlinked : store.database.Linked lineage)
    (h : exec (StrategyStore.upsertProvenance lineage) store = (.ok ⟨⟩, store')) :
    Holds store'.database lineage := by
  rcases StrategyStore.exec_upsertProvenance_eq_ok.mp h with ⟨hread, rfl⟩ | ⟨hfresh, rfl⟩
  · exact ⟨hlinked, hread⟩
  · exact ⟨(StrategyDatabase.extends_write _ _).linked hlinked, read_of_written hfresh hlinked⟩

theorem linked_of_present {database : StrategyDatabase}
    (h : ensureExistingCanonicalArtifactsPresent database lineage = .ok ()) :
    database.Linked lineage := by
  simp only [ensureExistingCanonicalArtifactsPresent] at h
  split at h
  · cases h
  · rename_i hcandidate
    split at h
    · cases h
    · rename_i adoptable hadoptable
      split at h
      · cases h
      · rename_i hmatches
        rw [not_or, not_not, not_not] at hmatches
        exact ⟨⟨adoptable, hadoptable, hmatches⟩, Option.isSome_iff_ne_none.mpr hcandidate⟩

theorem linked_of_inserted {candidate : StrategyCandidateSetRow}
    {adoptable : AdoptableStrategyRevisionRow} (hof : ArtifactsOf lineage candidate adoptable)
    (hcandidate : (store.insert (.candidateSet candidate)).database.Stored
      (.candidateSet candidate))
    (hadoptable : ((store.insert (.candidateSet candidate)).insert
      (.adoptableRevision adoptable)).database.Stored (.adoptableRevision adoptable)) :
    ((store.insert (.candidateSet candidate)).insert
      (.adoptableRevision adoptable)).database.Linked lineage := by
  refine hof.linked ?_ hadoptable
  exact (StrategyDatabase.extends_write _ (.adoptableRevision adoptable)).stored hcandidate

theorem holds_of_writeLineage {operatorTargetRevision : String}
    {legacy : Option CandidateAdoptionProvenanceRow} {plane plane' : ControlPlane}
    (h : exec (writeLineage operatorTargetRevision legacy lineage) plane = (.ok ⟨⟩, plane')) :
    Holds plane'.store.database lineage := by
  cases legacy with
  | none =>
      obtain ⟨hpresent, store, hprovenance, rfl⟩ := exec_writeLineage_none.mp h
      exact holds_of_upserted (linked_of_present hpresent) hprovenance
  | some provenance =>
      obtain ⟨candidate, adoptable, store, hartifacts, hcandidate, hadoptable, hprovenance, rfl⟩ :=
        exec_writeLineage_some.mp h
      have hlinked := linked_of_inserted (artifactsOf_migrated hartifacts) hcandidate hadoptable
      exact holds_of_upserted hlinked hprovenance

/-- The file after a rewrite that succeeded. -/
theorem rewritten_of_ok {validated : ValidatedConfig} {revision : String}
    {config config' : ConfigFile}
    (h : exec (rewriteOperatorStrategyRevision validated revision) config = (.ok ⟨⟩, config')) :
    config' = .rewritten revision ∧ validated (.rewritten revision) = .ok () := by
  rcases rewrite_cases validated revision config with ⟨-, hvalid, hok⟩ | ⟨error, herror⟩
  · rw [hok] at h
    cases h
    exact ⟨rfl, hvalid⟩
  · rw [herror] at h
    cases h

/-- What a successful migration leaves. -/
structure MigratedTo (env : MigrationEnv) (outcome : MigrationOutcome) (plane : ControlPlane) :
    Prop where
  holds : ∃ lineage, Holds plane.store.database lineage ∧
    lineage.operatorStrategyRevision = outcome.operatorStrategyRevision ∧
    lineage.adoptableStrategyRevision = outcome.adoptableStrategyRevision
  config : plane.config = .rewritten outcome.operatorStrategyRevision
  valid : env.validated (.rewritten outcome.operatorStrategyRevision) = .ok ()

variable {env : TargetsEnv} {plane plane' : ControlPlane} {outcome : MigrationOutcome}

theorem migratedTo_of_targetSource {env : MigrationEnv}
    (h : exec (migrateLegacyTargetSource env) plane = (.ok outcome, plane')) :
    MigratedTo env outcome plane' := by
  obtain ⟨_, _, lineage, _, config, -, -, hwrote, hconfig, rfl, rfl⟩ :=
    exec_migrateLegacyTargetSource.mp h
  obtain ⟨rfl, hvalid⟩ := rewritten_of_ok hconfig
  have hholds := holds_of_writeLineage hwrote
  exact ⟨⟨lineage, hholds, rfl, rfl⟩, rfl, hvalid⟩

theorem artifactsOf_explicit (lineage : StrategyAdoptionProvenanceRow) (renderedLiveTargets : Json) :
    ArtifactsOf lineage (explicitCandidate lineage)
      (explicitAdoptable lineage renderedLiveTargets) :=
  ⟨rfl, rfl, rfl, rfl⟩

theorem migratedTo_of_explicit
    (h : exec (migrateLegacyExplicitTargets env) plane = (.ok outcome, plane')) :
    MigratedTo env.toMigrationEnv outcome plane' := by
  simp only [migrateLegacyExplicitTargets, exec_bind, exec_get] at h
  split at h
  · cases h
  · simp only [onStore, exec_bind_eq_ok, exec_lift, exec_focus_eq_ok, exec_pure] at h
    obtain ⟨revision, _, -, targets, _, htargets, _, _, ⟨_, hcandidate, rfl⟩, _, _,
      ⟨_, hadoptable, rfl⟩, _, _, ⟨store, hprovenance, rfl⟩, _, _, ⟨config, hconfig, rfl⟩,
      hreturn⟩ := h
    cases hreturn
    obtain ⟨hcandidateStored, rfl⟩ := StrategyStore.exec_materialize_eq_ok.mp hcandidate
    obtain ⟨hadoptableStored, rfl⟩ := StrategyStore.exec_materialize_eq_ok.mp hadoptable
    obtain ⟨rfl, hvalid⟩ := rewritten_of_ok hconfig
    have hlinked := linked_of_inserted (artifactsOf_explicit _ _) hcandidateStored hadoptableStored
    exact ⟨⟨_, holds_of_upserted hlinked hprovenance, rfl, rfl⟩, rfl, hvalid⟩

/-- The migration of any legacy input ends in the rows of a lineage and its revision. -/
theorem migratedTo_of_migrated
    (h : exec (migrateLegacyStrategyControl env) plane = (.ok outcome, plane')) :
    MigratedTo env.toMigrationEnv outcome plane' := by
  simp only [migrateLegacyStrategyControl, exec_bind, exec_get] at h
  split at h
  · cases h
  · split at h
    · cases h
    · split at h
      · exact migratedTo_of_targetSource h
      · split at h
        · exact migratedTo_of_explicit h
        · cases h

/-! ## A migration that fails -/

/-- The configuration is the same. -/
def ControlPlane.SameConfig (plane plane' : ControlPlane) : Prop := plane'.config = plane.config

instance : Std.Refl ControlPlane.SameConfig := ⟨fun _ ↦ rfl⟩

instance : IsTrans ControlPlane ControlPlane.SameConfig := ⟨fun _ _ _ h h' ↦ Eq.trans h' h⟩

theorem sameConfig_onStore {ε α : Type} {rename : ε → StrategyControlMigrationError}
    {command : Command ε StrategyStore α} :
    Within ControlPlane.SameConfig (onStore rename command) :=
  within_focus fun _ _ ↦ rfl

theorem sameConfig_writeLineage {operatorTargetRevision : String}
    {legacy : Option CandidateAdoptionProvenanceRow} :
    Within ControlPlane.SameConfig (writeLineage operatorTargetRevision legacy lineage) := by
  refine within_bind within_get fun plane ↦ ?_
  cases legacy with
  | some provenance =>
      refine within_bind within_lift fun _ ↦ within_bind sameConfig_onStore fun _ ↦ ?_
      exact within_bind sameConfig_onStore fun _ ↦ sameConfig_onStore
  | none => exact within_bind within_lift fun _ ↦ sameConfig_onStore

/-- A rewrite that fails has not written. -/
theorem sameConfig_of_rewrite_fails {env : MigrationEnv} {revision : String} :
    FailsWithin ControlPlane.SameConfig
      (focus ControlPlane.config (fun plane config ↦ { plane with config })
        StrategyControlMigrationError.rewrite
        (rewriteOperatorStrategyRevision env.validated revision)) := by
  intro plane error plane' h
  rw [exec_focus] at h
  rcases rewrite_cases env.validated revision plane.config with ⟨-, -, hok⟩ | ⟨_, herror⟩
  · rw [hok] at h
    cases h
  · rw [herror] at h
    cases h
    rfl

/-- A migration that fails leaves the configuration alone. -/
theorem sameConfig_of_migration_fails :
    FailsWithin ControlPlane.SameConfig (migrateLegacyStrategyControl env) := by
  have htargetSource : FailsWithin ControlPlane.SameConfig
      (migrateLegacyTargetSource env.toMigrationEnv) := by
    refine failsWithin_bind within_get fun _ ↦ failsWithin_bind within_lift fun _ ↦ ?_
    refine failsWithin_bind within_get fun _ ↦ failsWithin_bind within_lift fun _ ↦ ?_
    refine failsWithin_bind sameConfig_writeLineage fun _ ↦ ?_
    exact failsWithin_bind_pure sameConfig_of_rewrite_fails
  have hexplicit : FailsWithin ControlPlane.SameConfig (migrateLegacyExplicitTargets env) := by
    refine failsWithin_bind within_get fun _ ↦ failsWithin_ite within_throw.fails ?_
    refine failsWithin_bind within_lift fun _ ↦ failsWithin_bind within_lift fun _ ↦ ?_
    refine failsWithin_bind sameConfig_onStore fun _ ↦ ?_
    refine failsWithin_bind sameConfig_onStore fun _ ↦ ?_
    refine failsWithin_bind sameConfig_onStore fun _ ↦ ?_
    exact failsWithin_bind_pure sameConfig_of_rewrite_fails
  refine failsWithin_bind within_get fun _ ↦ failsWithin_ite within_throw.fails ?_
  refine failsWithin_ite within_throw.fails (failsWithin_ite htargetSource ?_)
  exact failsWithin_ite hexplicit within_throw.fails

end Migrated

/-! ## The steps of a call -/

section Steps

variable {env : TargetsEnv} {call : TargetsCall} {world world' : TargetsWorld}
  {R : TargetsWorld → TargetsWorld → Prop}

theorem within_io [Std.Refl R] {step : TargetsIo} : Within R (io call step) := by
  intro world
  unfold io
  cases call.fault step with
  | some error => exact refl_of R world
  | none => exact refl_of R world

theorem exec_io_eq_ok {step : TargetsIo} {done : Unit} :
    exec (io call step) world = (.ok done, world') ↔ call.fault step = none ∧ world' = world := by
  unfold io
  cases call.fault step with
  | some error => simp
  | none => simp [eq_comm]

/-- Only the database may be different. -/
structure TargetsWorld.OnlyStore (world world' : TargetsWorld) : Prop where
  config : world'.plane.config = world.plane.config
  history : world'.history = world.history
  progress : world'.progress = world.progress

instance : Std.Refl TargetsWorld.OnlyStore := ⟨fun _ ↦ ⟨rfl, rfl, rfl⟩⟩

instance : IsTrans TargetsWorld TargetsWorld.OnlyStore := ⟨fun _ _ _ h h' ↦
  ⟨h'.config.trans h.config, h'.history.trans h.history, h'.progress.trans h.progress⟩⟩

theorem exec_loadValidatedConfig_eq_ok {config : ConfigFile} :
    exec (loadValidatedConfig env call) world = (.ok config, world') ↔
      call.fault .readConfig = none ∧ env.validated world.plane.config = .ok () ∧
        config = world.plane.config ∧ world' = world := by
  simp only [loadValidatedConfig, exec_bind_eq_ok, exec_get, exec_lift, exec_pure]
  constructor
  · rintro ⟨_, _, hio, _, _, ⟨⟩, _, _, hlift, ⟨⟩⟩
    obtain ⟨hread, rfl⟩ := exec_io_eq_ok.mp hio
    obtain ⟨hvalid, rfl⟩ := Prod.mk.inj hlift
    exact ⟨hread, hvalid, rfl, rfl⟩
  · rintro ⟨hread, hvalid, rfl, rfl⟩
    exact ⟨⟨⟩, _, exec_io_eq_ok.mpr ⟨hread, rfl⟩, _, _, rfl, ⟨⟩, _, by rw [hvalid], rfl⟩

theorem within_loadValidatedConfig [Std.Refl R] [IsTrans TargetsWorld R] :
    Within R (loadValidatedConfig env call) :=
  within_bind within_io fun _ ↦ within_bind within_get fun _ ↦
    within_bind within_lift fun _ ↦ within_pure

theorem within_validateSelectorFlags [Std.Refl R] [IsTrans TargetsWorld R]
    {operatorStrategyRevision adoptableRevision : Option String} :
    Within R (validateSelectorFlags call operatorStrategyRevision adoptableRevision) := by
  unfold validateSelectorFlags
  split
  · exact within_pure
  · exact within_pure
  · exact within_bind within_io fun _ ↦ within_bind within_get fun _ ↦
      within_ite within_pure within_throw
  · exact within_throw

/-- Of the steps that prepare an adoption only one writes. -/
theorem within_prepareAdoption [Std.Refl R] [IsTrans TargetsWorld R] {previous : Option String}
    {selection : ResolvedStrategyAdoptionSelection}
    (hensure : Within R (focus (fun world : TargetsWorld ↦ world.plane.store)
      (fun world store ↦ { world with plane.store := store }) id
      (ensureCanonicalProvenance selection))) :
    Within R (prepareAdoption call previous selection) := by
  refine within_bind within_io fun _ ↦ within_bind within_get fun _ ↦ ?_
  refine within_bind within_lift fun _ ↦ within_bind within_io fun _ ↦ ?_
  refine within_bind within_get fun _ ↦ within_bind within_io fun _ ↦ ?_
  refine within_bind hensure fun _ ↦ ?_
  exact within_bind within_io fun _ ↦ within_bind within_get fun _ ↦ within_pure

theorem onlyStore_prepareAdoption {previous : Option String}
    {selection : ResolvedStrategyAdoptionSelection} :
    Within TargetsWorld.OnlyStore (prepareAdoption call previous selection) :=
  within_prepareAdoption (within_focus fun _ _ ↦ ⟨rfl, rfl, rfl⟩)

/-- Nothing is written to prepare a rollback. -/
theorem within_prepareRollback [Std.Refl R] [IsTrans TargetsWorld R]
    {toOperatorStrategyRevision : Option String} :
    Within R (prepareRollback env call toOperatorStrategyRevision) := by
  refine within_bind within_loadValidatedConfig fun _ ↦ within_bind within_io fun _ ↦ ?_
  refine within_bind within_get fun _ ↦ within_bind within_lift fun _ ↦ ?_
  exact within_bind within_io fun _ ↦ within_bind within_lift fun _ ↦ within_pure

/-- The selection of a migration. -/
theorem exec_migrateStrategyControl_eq_ok {outcome : MigrationOutcome} :
    exec (migrateStrategyControl env call) world = (.ok outcome, world') ↔
      call.fault .migrate = none ∧
      ∃ plane, exec (migrateLegacyStrategyControl env) world.plane = (.ok outcome, plane) ∧
        world' = { world with plane } := by
  unfold migrateStrategyControl
  cases call.fault .migrate with
  | none => simp only [exec_focus_eq_ok, true_and]
  | some error =>
      refine iff_of_false ?_ (by simp)
      simp [exec_bind]

theorem onlyStore_of_migrate_fails :
    FailsWithin TargetsWorld.OnlyStore (migrateStrategyControl env call) := by
  intro world error world' h
  unfold migrateStrategyControl at h
  cases hfault : call.fault .migrate with
  | some fault =>
      simp only [hfault, exec_bind, exec_get, exec_set, exec_throw] at h
      cases h
      exact ⟨rfl, rfl, rfl⟩
  | none =>
      simp only [hfault, exec_focus] at h
      generalize hrun : exec (migrateLegacyStrategyControl env) world.plane = last at h
      obtain ⟨outcome, plane⟩ := last
      cases outcome with
      | ok outcome => cases h
      | error failed =>
          cases h
          exact ⟨sameConfig_of_migration_fails _ _ _ hrun, rfl, rfl⟩

/-! ## What is prepared -/

/-- What is prepared is a row for the revision that is selected, or nothing. -/
structure Planned (env : TargetsEnv) (plan : TargetsPlan) (world : TargetsWorld) : Prop where
  valid : env.validated world.plane.config = .ok ()
  row : plan.row = none ∧ plan.rewriteRequired = false ∨
    ∃ row, plan.row = some row ∧
      row.operatorStrategyRevision = plan.summary.selection.operatorStrategyRevision ∧
      (plan.rewriteRequired = false →
        world.plane.config.configuredRevision = some row.operatorStrategyRevision)

/-- What a prepared adoption has to do. -/
theorem planned_of_adoption {previous : Option String}
    {selection : ResolvedStrategyAdoptionSelection} {plan : TargetsPlan}
    (hvalid : env.validated world.plane.config = .ok ())
    (hprevious : previous = some selection.operatorStrategyRevision →
      world.plane.config.configuredRevision = some selection.operatorStrategyRevision)
    (h : exec (prepareAdoption call previous selection) world = (.ok plan, world')) :
    Planned env plan world' ∧ plan.summary.selection = selection ∧ plan.row.isSome := by
  have honly := onlyStore_prepareAdoption.of_exec h
  simp only [prepareAdoption, exec_bind_eq_ok, exec_get, exec_lift, exec_pure,
    exec_io_eq_ok] at h
  obtain ⟨_, _, ⟨-, rfl⟩, _, _, ⟨⟩, active, _, hactive, _, _, ⟨-, rfl⟩, _, _, ⟨⟩, _, _, ⟨-, rfl⟩,
    _, _, hstore, _, _, ⟨-, rfl⟩, _, _, ⟨⟩, hreturn⟩ := h
  cases hreturn
  refine ⟨⟨by rwa [honly.config], .inr ⟨_, rfl, rfl, fun hrequired ↦ ?_⟩⟩, rfl, rfl⟩
  rw [Bool.or_eq_false_iff, bne_eq_false_iff_eq] at hrequired
  rw [honly.config]
  exact hprevious hrequired.2

theorem planned_of_rollback {toOperatorStrategyRevision : Option String} {plan : TargetsPlan}
    (h : exec (prepareRollback env call toOperatorStrategyRevision) world = (.ok plan, world')) :
    Planned env plan world' := by
  have honly : world.OnlyStore world' := within_prepareRollback.of_exec h
  simp only [prepareRollback, exec_bind_eq_ok, exec_get, exec_lift, exec_pure,
    exec_io_eq_ok, exec_loadValidatedConfig_eq_ok] at h
  obtain ⟨_, _, ⟨-, hvalid, rfl, rfl⟩, _, _, ⟨-, rfl⟩, _, _, ⟨⟩, selection, _, -, _, _, ⟨-, rfl⟩,
    active, _, -, hreturn⟩ := h
  generalize hchanged : (_ != some selection.operatorStrategyRevision) = changed at hreturn
  cases hreturn
  refine ⟨by rwa [honly.config], ?_⟩
  cases changed with
  | false => exact .inl ⟨rfl, rfl⟩
  | true => exact .inr ⟨_, rfl, rfl, fun hrequired ↦ by cases hrequired⟩

/-- The steps that follow a migration do not fail, and the adoption is a new one. -/
structure Completes (call : TargetsCall) (world : TargetsWorld) (operatorStrategyRevision : String) :
    Prop where
  faults : ∀ step, step ∈ [TargetsIo.readProgress, .rereadConfig, .ensureProvenance, .readCandidate,
    .appendHistory, .rewriteConfig] → call.fault step = none
  progress : ∀ row ∈ world.progress, row.operatorStrategyRevision.isSome ∨
    row.operatorTargetRevision.isSome
  fresh : s!"adopt-{call.nanos}-{operatorStrategyRevision}" ∉
    world.history.entries.map fun entry ↦ entry.row.adoptionId

/-- The active revision is read where the progress row has one. -/
theorem active_eq_ok_iff {progress : Option RuntimeProgressRow} (configured : Option String) :
    (∃ active, loadActiveOperatorStrategyRevision progress configured = .ok active) ↔
      ∀ row ∈ progress, row.operatorStrategyRevision.isSome ∨ row.operatorTargetRevision.isSome := by
  cases progress with
  | none => simp [loadActiveOperatorStrategyRevision]
  | some row =>
      simp only [loadActiveOperatorStrategyRevision, Option.mem_def, Option.some.injEq,
        forall_eq']
      unfold normalizeActiveOperatorStrategyRevision
      cases row.operatorStrategyRevision with
      | some revision => simp
      | none => cases row.operatorTargetRevision <;> simp

theorem exec_materialize_of_stored {database : StrategyDatabase} {write : StrategyWrite}
    {writes : List StrategyWrite} {subject lineage : String} (h : database.Stored write) :
    exec (StrategyStore.materialize write subject lineage) { database, writes } =
      (.ok ⟨⟩, { database, writes := writes ++ [write] }) := by
  have hinsert : ({ database, writes } : StrategyStore).insert write =
      { database, writes := writes ++ [write] } := by
    rw [StrategyStore.insert, StrategyDatabase.write_of_stored h]
  refine StrategyStore.exec_materialize_eq_ok.mpr ⟨?_, hinsert.symm⟩
  rw [hinsert]
  exact h

/-- A lineage that is held is ensured without a write. -/
theorem exec_ensureCanonicalProvenance_of_holds {database : StrategyDatabase} {lineage : StrategyAdoptionProvenanceRow}
    {selection : ResolvedStrategyAdoptionSelection} (h : Holds database lineage)
    (hrevision : selection.operatorStrategyRevision = lineage.operatorStrategyRevision)
    (hadoptable : selection.adoptableRevision = some lineage.adoptableStrategyRevision)
    (writes : List StrategyWrite) :
    ∃ writes', exec (ensureCanonicalProvenance selection) { database, writes } =
      (.ok ⟨⟩, { database, writes := writes' }) := by
  obtain ⟨⟨⟨adoptable, hadopt, hcandidate, -⟩, hsome⟩, hread⟩ := h
  obtain ⟨candidate, hset⟩ := Option.isSome_iff_exists.mp hsome
  have hadoptStored : database.Stored (.adoptableRevision adoptable) :=
    StrategyDatabase.stored_adoptableRevision.mpr (by rwa [KeyedTable.key_of_get? hadopt])
  have hsetStored : database.Stored (.candidateSet candidate) :=
    StrategyDatabase.stored_candidateSet.mpr (by rwa [KeyedTable.key_of_get? hset])
  have hgetAdoptable : database.getAdoptableStrategyRevision
      lineage.adoptableStrategyRevision = some adoptable := by
    rw [StrategyDatabase.getAdoptableStrategyRevision, Option.mem_def.mp hadopt]
    rfl
  have hgetCandidate : database.getStrategyCandidateSet
      adoptable.strategyCandidateRevision = some candidate := by
    rw [StrategyDatabase.getStrategyCandidateSet, hcandidate, hset]
    rfl
  refine ⟨writes ++ [.candidateSet candidate] ++ [.adoptableRevision adoptable], ?_⟩
  rw [ensureCanonicalProvenance, hadoptable]
  simp only [ensureStrategyArtifactLineage, exec_bind, exec_get, hgetAdoptable, hgetCandidate,
    StrategyStore.materializeStrategyCandidateSet, exec_materialize_of_stored hsetStored,
    StrategyStore.materializeAdoptableStrategyRevision, exec_materialize_of_stored hadoptStored]
  simp [hrevision, hread, Except.mapError]

/-- An adoption of a lineage that is held is prepared if no step fails. -/
theorem exec_prepareAdoption_of_completes (previous : Option String)
    {lineage : StrategyAdoptionProvenanceRow} {selection : ResolvedStrategyAdoptionSelection}
    (hholds : Holds world.plane.store.database lineage)
    (hrevision : selection.operatorStrategyRevision = lineage.operatorStrategyRevision)
    (hadoptable : selection.adoptableRevision = some lineage.adoptableStrategyRevision)
    (h : Completes call world selection.operatorStrategyRevision) :
    ∃ plan row world', exec (prepareAdoption call previous selection) world = (.ok plan, world') ∧
      plan.row = some row ∧ row.ShapeOk ∧
      row.adoptionId = s!"adopt-{call.nanos}-{selection.operatorStrategyRevision}" := by
  obtain ⟨active, hactive⟩ :=
    (active_eq_ok_iff (some selection.operatorStrategyRevision)).mpr h.progress
  obtain ⟨writes, hensured⟩ := exec_ensureCanonicalProvenance_of_holds hholds hrevision hadoptable
    world.plane.store.writes
  obtain ⟨⟨⟨adoptable, hadopt, -⟩, -⟩, -⟩ := hholds
  have hcandidate : strategyCandidateRevisionForSelection world.plane.store.database selection =
      some adoptable.strategyCandidateRevision := by
    rw [strategyCandidateRevisionForSelection, hadoptable, Option.bind_some,
      StrategyDatabase.getAdoptableStrategyRevision, Option.mem_def.mp hadopt]
    rfl
  have hio : ∀ step, call.fault step = none → ∀ world,
      exec (io call step) world = (.ok ⟨⟩, world) := fun step hstep world ↦
    exec_io_eq_ok.mpr ⟨hstep, rfl⟩
  simp only [prepareAdoption, exec_bind, exec_get, exec_lift, exec_focus, exec_pure, hactive,
    hio .readProgress (h.faults _ (by simp)), hio .rereadConfig (h.faults _ (by simp)),
    hio .ensureProvenance (h.faults _ (by simp)), hio .readCandidate (h.faults _ (by simp)),
    hensured, hcandidate]
  exact ⟨_, _, _, rfl, rfl, .inl ⟨rfl, by simp [hadoptable], by simp⟩, rfl⟩

/-! ## What is carried out -/

/-- The row is appended. -/
structure Appends (call : TargetsCall) (world : TargetsWorld)
    (row : OperatorStrategyAdoptionHistoryRow) : Prop where
  fault : call.fault .appendHistory = none
  shape : row.ShapeOk
  fresh : row.adoptionId ∉ world.history.entries.map fun entry ↦ entry.row.adoptionId

/-- The file is rewritten. -/
structure Rewrites (env : TargetsEnv) (call : TargetsCall) (operatorStrategyRevision : String) :
    Prop where
  fault : call.fault .rewriteConfig = none
  valid : env.validated (.rewritten operatorStrategyRevision) = .ok ()

/-- The revision of the newest row. -/
def TargetsWorld.newestRevision (world : TargetsWorld) : Option String :=
  world.history.entries.getLast?.map fun entry ↦ entry.row.operatorStrategyRevision

/-- The configured revision and the history are the same. -/
structure TargetsWorld.Unchanged (world world' : TargetsWorld) : Prop where
  configured : world'.plane.config.configuredRevision = world.plane.config.configuredRevision
  entries : world'.history.entries = world.history.entries

theorem TargetsWorld.OnlyStore.unchanged (h : world.OnlyStore world') : world.Unchanged world' :=
  ⟨by rw [h.config], by rw [h.history]⟩

theorem TargetsWorld.Unchanged.trans {world'' : TargetsWorld} (h : world.Unchanged world')
    (h' : world'.Unchanged world'') : world.Unchanged world'' :=
  ⟨h'.configured.trans h.configured, h'.entries.trans h.entries⟩

variable {plan : TargetsPlan} {row : OperatorStrategyAdoptionHistoryRow}

/-- A row that is appended is the newest one; one that is not has changed nothing. -/
theorem exec_appendHistory (call : TargetsCall) (world : TargetsWorld)
    (row : OperatorStrategyAdoptionHistoryRow) :
    (Appends call world row ∧
      ∃ history, exec (appendHistory call row) world = (.ok ⟨⟩, { world with history }) ∧
        ∃ entry, history.entries = world.history.entries ++ [entry] ∧ entry.row = row) ∨
    (¬ Appends call world row ∧
      ∃ error world', exec (appendHistory call row) world = (.error error, world') ∧
        world'.plane = world.plane ∧ world'.history.entries = world.history.entries) := by
  simp only [appendHistory, exec_bind]
  cases hfault : call.fault .appendHistory with
  | some error =>
      refine .inr ⟨fun h ↦ ?_, error, world, ?_, rfl, rfl⟩
      · cases hfault.symm.trans h.fault
      · simp [io, hfault]
  | none =>
      have hio : exec (io call .appendHistory) world = (.ok ⟨⟩, world) :=
        exec_io_eq_ok.mpr ⟨hfault, rfl⟩
      simp only [hio, exec_focus, AdoptionHistory.append, exec_bind, exec_get, exec_set]
      by_cases hshape : row.ShapeOk
      · by_cases hfresh : row.adoptionId ∈ world.history.entries.map fun entry ↦ entry.row.adoptionId
        · refine .inr ⟨fun h ↦ h.fresh hfresh, ?_⟩
          simp only [if_neg (not_not.mpr hshape), if_pos hfresh]
          exact ⟨_, _, rfl, rfl, rfl⟩
        · refine .inl ⟨⟨hfault, hshape, hfresh⟩, ?_⟩
          simp only [if_neg (not_not.mpr hshape), if_neg hfresh]
          exact ⟨_, rfl, _, rfl, rfl⟩
      · refine .inr ⟨fun h ↦ hshape h.shape, ?_⟩
        simp only [if_pos hshape]
        exact ⟨_, _, rfl, rfl, rfl⟩

/-- A valid file is rewritten, or nothing is changed. -/
theorem exec_rewriteConfig (call : TargetsCall) (world : TargetsWorld)
    (hvalid : env.validated world.plane.config = .ok ()) (revision : String) :
    (Rewrites env call revision ∧ exec (rewriteConfig env call revision) world =
      (.ok ⟨⟩, { world with plane.config := .rewritten revision })) ∨
    (¬ Rewrites env call revision ∧
      ∃ error, exec (rewriteConfig env call revision) world = (.error error, world)) := by
  simp only [rewriteConfig, exec_bind]
  cases hfault : call.fault .rewriteConfig with
  | some error =>
      refine .inr ⟨fun h ↦ ?_, error, ?_⟩
      · cases hfault.symm.trans h.fault
      · simp [io, hfault]
  | none =>
      have hio : exec (io call .rewriteConfig) world = (.ok ⟨⟩, world) :=
        exec_io_eq_ok.mpr ⟨hfault, rfl⟩
      simp only [hio, exec_focus]
      rcases rewrite_cases env.validated revision world.plane.config with
        ⟨-, hafter, hok⟩ | ⟨error, herror⟩
      · rw [hok]
        exact .inl ⟨⟨hfault, hafter⟩, rfl⟩
      · refine .inr ⟨fun h ↦ ?_, error, by rw [herror]; rfl⟩
        rw [exec_rewrite_of_valid hvalid h.valid] at herror
        cases herror

/-- How a plan is carried out: there is nothing to do, the append fails, all is done, or
the file is not rewritten although the row was appended. -/
theorem carryOut_cases (h : Planned env plan world) :
    (plan.row = none ∧ exec (carryOut env call plan) world = (.ok plan.summary, world)) ∨
    ∃ row, plan.row = some row ∧ (
      (¬ Appends call world row ∧ ∃ error world',
        exec (carryOut env call plan) world = (.error error, world') ∧ world.Unchanged world') ∨
      (Appends call world row ∧ (plan.rewriteRequired → Rewrites env call
          plan.summary.selection.operatorStrategyRevision) ∧ ∃ world',
        exec (carryOut env call plan) world = (.ok plan.summary, world') ∧
        world'.plane.config.configuredRevision = world'.newestRevision) ∨
      (Appends call world row ∧ plan.rewriteRequired ∧ ¬ Rewrites env call
          plan.summary.selection.operatorStrategyRevision ∧ ∃ error world',
        exec (carryOut env call plan) world = (.error error, world') ∧
        world'.plane.config = world.plane.config ∧
        world'.history.entries ≠ world.history.entries)) := by
  simp only [carryOut, exec_bind]
  rcases h.row with ⟨hnone, hrequired⟩ | ⟨row, hsome, hrevision, hconfigured⟩
  · refine .inl ⟨hnone, ?_⟩
    simp [hnone, hrequired, appendPlanned]
  · refine .inr ⟨row, hsome, ?_⟩
    simp only [hsome, appendPlanned]
    rcases exec_appendHistory call world row with
      ⟨happends, history, hrun, entry, hentries, hrow⟩ |
      ⟨hrefused, error, world', hrun, hplane, hentries⟩
    · have hnewest : history.entries.getLast?.map (fun entry ↦ entry.row.operatorStrategyRevision) =
          some plan.summary.selection.operatorStrategyRevision := by
        rw [hentries, List.getLast?_concat, Option.map_some, hrow, hrevision]
      simp only [hrun]
      cases hrequired : plan.rewriteRequired with
      | false =>
          refine .inr (.inl ⟨happends, by simp, _, rfl, ?_⟩)
          exact (hconfigured hrequired).trans (hrevision ▸ hnewest.symm)
      | true =>
          rcases exec_rewriteConfig call { world with history } h.valid
            plan.summary.selection.operatorStrategyRevision with ⟨hrewrites, hok⟩ | ⟨hstops, error, herror⟩
          · simp only [if_true, exec_bind, hok]
            exact .inr (.inl ⟨happends, fun _ ↦ hrewrites, _, rfl, hnewest.symm⟩)
          · simp only [if_true, exec_bind, herror]
            refine .inr (.inr ⟨happends, trivial, hstops, _, _, rfl, rfl, ?_⟩)
            rw [hentries]
            simp
    · rw [hrun]
      exact .inl ⟨hrefused, _, _, rfl, ⟨by rw [hplane], hentries⟩⟩

/-! ## Calls that migrate -/

/-- The call migrates older input, and the migration succeeds. -/
structure Migrates (env : TargetsEnv) (call : TargetsCall) (world : TargetsWorld)
    (outcome : MigrationOutcome) (plane : ControlPlane) : Prop where
  action : call.action = .adopt none none
  read : call.fault .readConfig = none
  legacy : hasMigratableLegacyStrategyControl world.plane.config
  valid : env.validated world.plane.config = .ok ()
  fault : call.fault .migrate = none
  run : exec (migrateLegacyStrategyControl env) world.plane = (.ok outcome, plane)

/-- A call that migrates goes on to adopt what it migrated to. -/
theorem exec_prepare_of_migrates {outcome : MigrationOutcome} {plane : ControlPlane}
    (h : Migrates env call world outcome plane) :
    exec (prepare env call) world =
      exec (prepareAdoption call world.plane.config.configuredRevision outcome.selection)
        { world with plane } := by
  have hio : exec (io call .readConfig) world = (.ok ⟨⟩, world) := exec_io_eq_ok.mpr ⟨h.read, rfl⟩
  have hload : exec (loadValidatedConfig env call) world = (.ok world.plane.config, world) :=
    exec_loadValidatedConfig_eq_ok.mpr ⟨h.read, h.valid, rfl, rfl⟩
  have hmigrate : exec (migrateStrategyControl env call) world = (.ok outcome, { world with plane }) :=
    exec_migrateStrategyControl_eq_ok.mpr ⟨h.fault, plane, h.run, rfl⟩
  simp only [prepare, h.action, prepareAdopt, validateSelectorFlags, selectAdoption, exec_bind,
    exec_get, hio, h.legacy, if_true, hload, hmigrate, exec_pure, and_self]

/-- Flags that are accepted without a revision point at older input. -/
theorem legacy_of_flags {done : Unit}
    (h : exec (validateSelectorFlags call none none) world = (.ok done, world')) :
    call.fault .readConfig = none ∧ hasMigratableLegacyStrategyControl world.plane.config := by
  simp only [validateSelectorFlags, exec_bind_eq_ok, exec_io_eq_ok, exec_get] at h
  obtain ⟨_, _, ⟨hread, rfl⟩, _, _, ⟨⟩, h⟩ := h
  refine ⟨hread, ?_⟩
  by_contra hlegacy
  simp [hlegacy] at h

/-- The plan of an adoption of what is selected without a migration. -/
theorem prepareAdoption_of_selected {operatorStrategyRevision adoptableRevision : Option String}
    (hvalid : env.validated world.plane.config = .ok ())
    (hselected : operatorStrategyRevision ≠ none ∨ adoptableRevision ≠ none)
    {outcome : Except String TargetsPlan}
    (h : exec (selectAdoption env call operatorStrategyRevision adoptableRevision >>=
      prepareAdoption call world.plane.config.configuredRevision) world = (outcome, world')) :
    world.OnlyStore world' ∧ ∀ plan, outcome = .ok plan → Planned env plan world' := by
  have hselect : Within (fun world world' ↦ world' = world)
      (selectAdoption env call operatorStrategyRevision adoptableRevision) := by
    unfold selectAdoption
    rw [if_neg (by tauto)]
    exact within_bind within_io fun _ ↦ within_bind within_get fun _ ↦ within_lift
  rcases exec_bind_of_within_eq hselect
    (prepareAdoption call world.plane.config.configuredRevision) world with
    ⟨error, hfails⟩ | ⟨selection, -, hrun⟩
  · rw [hfails] at h
    cases h
    exact ⟨refl_of _ _, by simp⟩
  · rw [hrun] at h
    refine ⟨onlyStore_prepareAdoption.of_exec h, ?_⟩
    rintro plan rfl
    exact (planned_of_adoption hvalid id h).1

/-- A call that does not migrate leaves the configuration and the history alone until
its plan is carried out. -/
theorem prepare_of_not_migrates (hnot : ∀ outcome plane, ¬ Migrates env call world outcome plane)
    {outcome : Except String TargetsPlan} (h : exec (prepare env call) world = (outcome, world')) :
    world.OnlyStore world' ∧ ∀ plan, outcome = .ok plan → Planned env plan world' := by
  cases haction : call.action with
  | rollback toOperatorStrategyRevision =>
      simp only [prepare, haction] at h
      refine ⟨within_prepareRollback.of_exec h, ?_⟩
      rintro plan rfl
      exact planned_of_rollback h
  | adopt operatorStrategyRevision adoptableRevision =>
      have hflags : Within (fun world world' ↦ world' = world)
        (validateSelectorFlags call operatorStrategyRevision adoptableRevision) :=
          within_validateSelectorFlags
      have hload : Within (fun world world' ↦ world' = world) (loadValidatedConfig env call) :=
        within_loadValidatedConfig
      simp only [prepare, haction] at h
      rcases exec_bind_of_within_eq hflags _ world with ⟨error, hfails⟩ | ⟨done, hflagged, hrun⟩
      · obtain ⟨rfl, rfl⟩ := Prod.mk.inj (h.symm.trans hfails)
        exact ⟨refl_of _ _, by simp⟩
      rcases exec_bind_of_within_eq hload _ world with ⟨error, hfails⟩ | ⟨config, hloaded, hrun'⟩
      · obtain ⟨rfl, rfl⟩ := Prod.mk.inj (h.symm.trans (hrun.trans hfails))
        exact ⟨refl_of _ _, by simp⟩
      obtain ⟨-, hvalid, rfl, -⟩ := exec_loadValidatedConfig_eq_ok.mp hloaded
      have hselects := h.symm.trans (hrun.trans hrun')
      by_cases hselected : operatorStrategyRevision ≠ none ∨ adoptableRevision ≠ none
      · exact prepareAdoption_of_selected hvalid hselected hselects.symm
      · -- no revision is given, so that the call migrates unless the migration fails
        rw [not_or, not_not, not_not] at hselected
        obtain ⟨rfl, rfl⟩ := hselected
        obtain ⟨hread, hlegacy⟩ := legacy_of_flags hflagged
        simp only [selectAdoption, and_self, if_true, exec_bind] at hselects
        generalize hmigrate : exec (migrateStrategyControl env call) world = migrated at hselects
        obtain ⟨migrated, middle⟩ := migrated
        cases migrated with
        | ok migrated =>
            obtain ⟨hfault, plane, hran, -⟩ := exec_migrateStrategyControl_eq_ok.mp hmigrate
            exact absurd ⟨haction, hread, hlegacy, hvalid, hfault, hran⟩ (hnot migrated plane)
        | error error =>
            obtain ⟨rfl, rfl⟩ := Prod.mk.inj hselects
            exact ⟨onlyStore_of_migrate_fails _ _ _ hmigrate, by simp⟩

/-! ## Keeping in step -/

/-- The configured revision is that of the newest row. -/
def TargetsWorld.InStep (world : TargetsWorld) : Prop :=
  world.plane.config.configuredRevision = world.newestRevision

theorem TargetsWorld.Unchanged.inStep (h : world.Unchanged world') (hstep : world.InStep) :
    world'.InStep := by
  unfold TargetsWorld.InStep TargetsWorld.newestRevision at hstep ⊢
  rw [h.configured, h.entries]
  exact hstep

/-- A call that fails changes neither the configured revision nor the history. -/
def ErrKeeps (env : TargetsEnv) (world : TargetsWorld) (call : TargetsCall) : Prop :=
  ∀ error world', exec (perform env call) world = (.error error, world') → world.Unchanged world'

def targetsStep (env : TargetsEnv) (world : TargetsWorld) (call : TargetsCall) : TargetsWorld :=
  (exec (perform env call) world).2

/-- The call is not stopped between two of its changes: after a migration that moved the
configuration it completes, and after the row was appended the file is rewritten. -/
structure Uninterrupted (env : TargetsEnv) (world : TargetsWorld) (call : TargetsCall) : Prop where
  migration : ∀ outcome plane, Migrates env call world outcome plane →
    world.plane.config.configuredRevision ≠ some outcome.operatorStrategyRevision →
    Completes call world outcome.operatorStrategyRevision
  rewrite : ∀ plan row world', exec (prepare env call) world = (.ok plan, world') →
    plan.row = some row → plan.rewriteRequired → Appends call world' row →
    Rewrites env call plan.summary.selection.operatorStrategyRevision

/-- What a call that migrates has prepared. -/
theorem prepare_of_migrates {outcome : MigrationOutcome} {plane : ControlPlane}
    {prepared : Except String TargetsPlan} (h : Migrates env call world outcome plane)
    (hrun : exec (prepare env call) world = (prepared, world')) :
    world'.plane.config.configuredRevision = some outcome.operatorStrategyRevision ∧
      world'.history = world.history ∧
      ∀ plan, prepared = .ok plan → Planned env plan world' ∧
        plan.summary.selection = outcome.selection ∧ plan.row.isSome := by
  have hmigrated := migratedTo_of_migrated h.run
  rw [exec_prepare_of_migrates h] at hrun
  have honly := onlyStore_prepareAdoption.of_exec hrun
  have hconfigured : plane.config.configuredRevision = some outcome.operatorStrategyRevision := by
    rw [hmigrated.config, ConfigFile.configuredRevision_rewritten]
  refine ⟨by rw [honly.config, hconfigured], honly.history, ?_⟩
  rintro plan rfl
  have hvalid : env.validated plane.config = .ok () := by
    rw [hmigrated.config]
    exact hmigrated.valid
  exact planned_of_adoption hvalid (fun _ ↦ hconfigured) hrun

/-- If a plan is made, no step before failed; and a revision that was not configured is
written. -/
theorem prepared_adoption {previous : Option String}
    {selection : ResolvedStrategyAdoptionSelection}
    (h : exec (prepareAdoption call previous selection) world = (.ok plan, world')) :
    (∀ step ∈ [TargetsIo.readProgress, .rereadConfig, .ensureProvenance, .readCandidate],
      call.fault step = none) ∧
    (∀ row ∈ world.progress, row.operatorStrategyRevision.isSome ∨
      row.operatorTargetRevision.isSome) ∧
    (∀ row, plan.row = some row →
      row.adoptionId = s!"adopt-{call.nanos}-{selection.operatorStrategyRevision}") ∧
    (previous ≠ some selection.operatorStrategyRevision → plan.rewriteRequired) := by
  simp only [prepareAdoption, exec_bind_eq_ok, exec_get, exec_lift, exec_pure,
    exec_io_eq_ok] at h
  obtain ⟨_, _, ⟨hprogress, rfl⟩, _, _, ⟨⟩, active, _, hlift, _, _, ⟨hreread, rfl⟩, _, _, ⟨⟩,
    _, _, ⟨hensure, rfl⟩, _, _, -, _, _, ⟨hcandidate, rfl⟩, _, _, ⟨⟩, hreturn⟩ := h
  obtain ⟨hactive, rfl⟩ := Prod.mk.inj hlift
  cases hreturn
  refine ⟨by simp [hprogress, hreread, hensure, hcandidate],
    (active_eq_ok_iff _).mp ⟨active, hactive⟩, ?_, ?_⟩
  · rintro row ⟨⟩
    rfl
  · intro hdifferent
    simp [hdifferent]

/-- A call that migrated to a new revision and did not fail has completed. -/
theorem completes_of_ok {outcome : MigrationOutcome} {plane : ControlPlane}
    (h : Migrates env call world outcome plane)
    (hnew : world.plane.config.configuredRevision ≠ some outcome.operatorStrategyRevision)
    {middle : TargetsWorld} (hprepared : exec (prepare env call) world = (.ok plan, middle))
    (hrow : plan.row = some row) (happends : Appends call middle row)
    (hrewrites : plan.rewriteRequired →
      Rewrites env call plan.summary.selection.operatorStrategyRevision) :
    Completes call world outcome.operatorStrategyRevision := by
  have hhistory := (prepare_of_migrates h hprepared).2.1
  rw [exec_prepare_of_migrates h] at hprepared
  obtain ⟨hfaults, hprogress, hid, hrequired⟩ := prepared_adoption hprepared
  have hfresh := happends.fresh
  rw [hid row hrow, hhistory] at hfresh
  refine ⟨?_, hprogress, hfresh⟩
  simp only [List.mem_cons, List.not_mem_nil, or_false, forall_eq_or_imp, forall_eq] at hfaults ⊢
  obtain ⟨hreadProgress, hreread, hensure, hcandidate⟩ := hfaults
  exact ⟨hreadProgress, hreread, hensure, hcandidate, happends.fault,
    (hrewrites (hrequired hnew)).fault⟩

/-- Preparing a call does not touch the history. -/
theorem history_of_prepared {prepared : Except String TargetsPlan}
    (hrun : exec (prepare env call) world = (prepared, world')) :
    world'.history = world.history ∧ ∀ plan, prepared = .ok plan → Planned env plan world' := by
  by_cases hmigrates : ∃ outcome plane, Migrates env call world outcome plane
  · obtain ⟨outcome, plane, hmigrates⟩ := hmigrates
    obtain ⟨-, hhistory, hplanned⟩ := prepare_of_migrates hmigrates hrun
    exact ⟨hhistory, fun plan hplan ↦ (hplanned plan hplan).1⟩
  · rw [not_exists] at hmigrates
    obtain ⟨honly, hplanned⟩ := prepare_of_not_migrates
      (fun outcome ↦ not_exists.mp (hmigrates outcome)) hrun
    exact ⟨honly.history, hplanned⟩

theorem exec_perform_of_error {error : String}
    (h : exec (prepare env call) world = (.error error, world')) :
    exec (perform env call) world = (.error error, world') := by
  rw [perform, exec_bind, h]

theorem exec_perform_of_ok (h : exec (prepare env call) world = (.ok plan, world')) :
    exec (perform env call) world = exec (carryOut env call plan) world' := by
  rw [perform, exec_bind, h]

/-- If failures keep everything, a migration to a new revision is completed. -/
theorem ErrKeeps.completes (h : ErrKeeps env world call) {outcome : MigrationOutcome}
    {plane : ControlPlane} (hmigrates : Migrates env call world outcome plane)
    (hnew : world.plane.config.configuredRevision ≠ some outcome.operatorStrategyRevision) :
    Completes call world outcome.operatorStrategyRevision := by
  have hkept : ∀ error world', exec (perform env call) world = (.error error, world') →
      world'.plane.config.configuredRevision ≠ some outcome.operatorStrategyRevision :=
    fun error world' hfails ↦ (h error world' hfails).configured ▸ hnew
  generalize hprepared : exec (prepare env call) world = prepared
  obtain ⟨prepared, middle⟩ := prepared
  obtain ⟨hconfigured, -, hplanned⟩ := prepare_of_migrates hmigrates hprepared
  cases prepared with
  | error error => exact absurd hconfigured (hkept error middle (exec_perform_of_error hprepared))
  | ok plan =>
      obtain ⟨hplan, -, hsome⟩ := hplanned plan rfl
      have hrun := exec_perform_of_ok hprepared
      rcases carryOut_cases hplan with ⟨hnone, -⟩ | ⟨row, hrow, ⟨-, error, last, hfails, hsame⟩ |
        ⟨happends, hrewrites, -⟩ | ⟨-, -, -, error, last, hfails, hconfig, -⟩⟩
      · rw [hnone] at hsome
        cases hsome
      · exact absurd (hsame.configured.trans hconfigured) (hkept error last (hrun.trans hfails))
      · exact completes_of_ok hmigrates hnew hprepared hrow happends hrewrites
      · exact absurd (hconfig ▸ hconfigured) (hkept error last (hrun.trans hfails))

/-- If failures keep everything, the file is rewritten after an append. -/
theorem ErrKeeps.rewrites (h : ErrKeeps env world call) {middle : TargetsWorld}
    (hprepared : exec (prepare env call) world = (.ok plan, middle)) (hrow : plan.row = some row)
    (hrequired : plan.rewriteRequired) (happends : Appends call middle row) :
    Rewrites env call plan.summary.selection.operatorStrategyRevision := by
  obtain ⟨hhistory, hplanned⟩ := history_of_prepared hprepared
  have hrun := exec_perform_of_ok hprepared
  rcases carryOut_cases (hplanned plan rfl) with ⟨hnone, -⟩ | ⟨row', hrow', ⟨hrefused, -⟩ |
    ⟨-, hrewrites, -⟩ | ⟨-, -, -, error, last, hfails, -, hentries⟩⟩
  · rw [hnone] at hrow
    cases hrow
  · obtain rfl := Option.some.inj (hrow.symm.trans hrow')
    exact absurd happends hrefused
  · exact hrewrites hrequired
  · refine absurd ?_ hentries
    rw [(h error last (hrun.trans hfails)).entries, hhistory]

/-- A call that fails when it carries out its plan has not changed what it found, if the
file is rewritten after an append. -/
theorem unchanged_of_carryOut_fails {error : String} (hplan : Planned env plan world)
    (hrewrite : ∀ row, plan.row = some row → plan.rewriteRequired → Appends call world row →
      Rewrites env call plan.summary.selection.operatorStrategyRevision)
    (hrun : exec (carryOut env call plan) world = (.error error, world')) :
    world.Unchanged world' := by
  rcases carryOut_cases hplan with ⟨-, hok⟩ | ⟨row, hrow, ⟨-, _, _, hfails, hsame⟩ |
    ⟨-, -, _, hok, -⟩ | ⟨happends, hrequired, hstops, -⟩⟩
  · cases hrun.symm.trans hok
  · obtain ⟨-, rfl⟩ := Prod.mk.inj (hrun.symm.trans hfails)
    exact hsame
  · cases hrun.symm.trans hok
  · exact absurd (hrewrite row hrow hrequired happends) hstops

/-- A migration to a new revision that completes does not fail. -/
theorem not_fails_of_completes {outcome : MigrationOutcome} {plane : ControlPlane} {error : String}
    (hmigrates : Migrates env call world outcome plane)
    (hcompletes : Completes call world outcome.operatorStrategyRevision) :
    exec (perform env call) world ≠ (.error error, world') := by
  intro hfails
  obtain ⟨⟨lineage, hholds, hrevision, hadoptable⟩, -, hvalid⟩ :=
    migratedTo_of_migrated hmigrates.run
  have hselected : Completes call { world with plane } outcome.selection.operatorStrategyRevision :=
    ⟨hcompletes.faults, hcompletes.progress, hcompletes.fresh⟩
  obtain ⟨plan, row, middle, hrun, hrow, hshape, hid⟩ :=
    exec_prepareAdoption_of_completes world.plane.config.configuredRevision hholds hrevision.symm
      (congrArg some hadoptable.symm) hselected
  have hprepared := (exec_prepare_of_migrates hmigrates).trans hrun
  obtain ⟨-, hhistory, hplanned⟩ := prepare_of_migrates hmigrates hprepared
  have happends : Appends call middle row := by
    refine ⟨hcompletes.faults _ (by simp), hshape, ?_⟩
    rw [hid, hhistory]
    exact hcompletes.fresh
  obtain ⟨hplan, hselection, -⟩ := hplanned plan rfl
  have hrewrites : Rewrites env call plan.summary.selection.operatorStrategyRevision := by
    rw [hselection]
    exact ⟨hcompletes.faults _ (by simp), hvalid⟩
  rw [exec_perform_of_ok hprepared] at hfails
  rcases carryOut_cases hplan with ⟨-, hok⟩ | ⟨row', hrow', ⟨hrefused, -⟩ | ⟨-, -, _, hok, -⟩ |
    ⟨-, -, hstops, -⟩⟩
  · cases hfails.symm.trans hok
  · obtain rfl := Option.some.inj (hrow.symm.trans hrow')
    exact hrefused happends
  · cases hfails.symm.trans hok
  · exact hstops hrewrites

/-- **One call.**  A call that fails keeps the configuration and the history exactly if
it is not interrupted. -/
theorem errKeeps_iff : ErrKeeps env world call ↔ Uninterrupted env world call := by
  constructor
  · intro h
    exact ⟨fun _ _ hmigrates hnew ↦ h.completes hmigrates hnew,
      fun _ _ _ hprepared hrow hrequired happends ↦ h.rewrites hprepared hrow hrequired happends⟩
  · intro h error world' hfails
    generalize hprepared : exec (prepare env call) world = prepared
    obtain ⟨prepared, middle⟩ := prepared
    have hcarried : ∀ plan, prepared = .ok plan → middle.Unchanged world' := by
      rintro plan rfl
      rw [exec_perform_of_ok hprepared] at hfails
      exact unchanged_of_carryOut_fails ((history_of_prepared hprepared).2 plan rfl)
        (fun row hrow hrequired happends ↦
          h.rewrite plan row middle hprepared hrow hrequired happends) hfails
    have hmiddle : middle.Unchanged world' := by
      cases prepared with
      | ok plan => exact hcarried plan rfl
      | error stopped =>
          rw [exec_perform_of_error hprepared] at hfails
          cases hfails
          exact ⟨rfl, rfl⟩
    refine TargetsWorld.Unchanged.trans ?_ hmiddle
    by_cases hmigrates : ∃ outcome plane, Migrates env call world outcome plane
    · obtain ⟨outcome, plane, hmigrates⟩ := hmigrates
      obtain ⟨hconfigured, hhistory, -⟩ := prepare_of_migrates hmigrates hprepared
      by_cases hnew : world.plane.config.configuredRevision = some outcome.operatorStrategyRevision
      · exact ⟨hconfigured.trans hnew.symm, by rw [hhistory]⟩
      · exact absurd hfails (not_fails_of_completes hmigrates (h.migration _ _ hmigrates hnew))
    · rw [not_exists] at hmigrates
      exact (prepare_of_not_migrates (fun outcome ↦ not_exists.mp (hmigrates outcome))
        hprepared).1.unchanged

/-- A call that is not interrupted keeps the configuration and the history in step. -/
theorem inStep_targetsStep (h : Uninterrupted env world call) (hstep : world.InStep) :
    (targetsStep env world call).InStep := by
  unfold targetsStep
  generalize hrun : exec (perform env call) world = last
  obtain ⟨outcome, last⟩ := last
  cases outcome with
  | error error => exact (errKeeps_iff.mpr h error last hrun).inStep hstep
  | ok summary =>
      generalize hprepared : exec (prepare env call) world = prepared
      obtain ⟨prepared, middle⟩ := prepared
      cases prepared with
      | error error =>
          rw [exec_perform_of_error hprepared] at hrun
          cases hrun
      | ok plan =>
          rw [exec_perform_of_ok hprepared] at hrun
          rcases carryOut_cases ((history_of_prepared hprepared).2 plan rfl) with
            ⟨hnone, hok⟩ | ⟨row, hrow, ⟨-, _, _, hfails, -⟩ | ⟨-, -, _, hok, hnewest⟩ |
              ⟨-, -, -, _, _, hfails, -⟩⟩
          · -- nothing to do: only a call that does not migrate is prepared so
            obtain ⟨-, rfl⟩ := Prod.mk.inj (hrun.symm.trans hok)
            refine TargetsWorld.Unchanged.inStep ?_ hstep
            by_cases hmigrates : ∃ outcome plane, Migrates env call world outcome plane
            · obtain ⟨outcome, plane, hmigrates⟩ := hmigrates
              have hsome := ((prepare_of_migrates hmigrates hprepared).2.2 plan rfl).2.2
              rw [hnone] at hsome
              cases hsome
            · rw [not_exists] at hmigrates
              exact (prepare_of_not_migrates (fun outcome ↦ not_exists.mp (hmigrates outcome))
                hprepared).1.unchanged
          · cases hrun.symm.trans hfails
          · obtain ⟨-, rfl⟩ := Prod.mk.inj (hrun.symm.trans hok)
            exact hnewest
          · cases hrun.symm.trans hfails

end Steps

/-! ## Sequences of calls -/

/-- **In step.**  A sequence of calls keeps the configuration and the history in step, if
they were before, and a call of it that fails changes neither, exactly if no call is
interrupted between its changes. -/
theorem in_step_iff (env : TargetsEnv) (world : TargetsWorld) (calls : List TargetsCall) :
    ((world.InStep → Always (targetsStep env) TargetsWorld.InStep world calls) ∧
        Steps (targetsStep env) (ErrKeeps env) world calls) ↔
      Steps (targetsStep env) (Uninterrupted env) world calls := by
  have hsteps : Steps (targetsStep env) (ErrKeeps env) world calls ↔
      Steps (targetsStep env) (Uninterrupted env) world calls :=
    steps_congr fun _ _ ↦ errKeeps_iff
  rw [hsteps, and_iff_right_iff_imp]
  intro huninterrupted
  exact huninterrupted.always fun _ _ hstep hcall ↦ inStep_targetsStep hcall hstep

/-! ## An interrupted call -/

def acceptingTargetsEnv : TargetsEnv :=
  { acceptingMigrationEnv with
    parseLegacyExplicitTargets := fun _ ↦ .ok ∅
    liveTargetRevision := fun _ ↦ ""
    renderedLiveTargets := fun _ ↦ .object []
    validateStrategyPayload := fun _ _ ↦ .ok () }

/-- Tables that hold one adoptable revision. -/
def adoptableDatabase : StrategyDatabase :=
  { candidateTargetSets := .empty
    adoptableTargetRevisions := .empty
    candidateAdoptionProvenance := .empty
    strategyCandidateSets := KeyedTable.empty.insertNew
      { strategyCandidateRevision := "strategy-candidate-2", snapshotId := "snapshot-2"
        sourceRevision := "source-2", payload := .object [] }
    adoptableStrategyRevisions := KeyedTable.empty.insertNew
      { adoptableStrategyRevision := "adoptable-2"
        strategyCandidateRevision := "strategy-candidate-2"
        renderedOperatorStrategyRevision := "strategy-rev-2", payload := .object [] }
    strategyAdoptionProvenance := .empty }

/-- The first revision was adopted and is configured. -/
def adoptedWorld : TargetsWorld :=
  { plane :=
      { store := { database := adoptableDatabase, writes := [] }
        config := .rewritten "strategy-rev-1" }
    history :=
      { legacy := { rows := [], numbered := .nil, keyed := .nil }
        entries := [
          { historySeq := 1
            row :=
              { adoptionId := "adopt-1-strategy-rev-1", actionKind := "adopt"
                operatorStrategyRevision := "strategy-rev-1"
                previousOperatorStrategyRevision := none
                adoptableStrategyRevision := some "adoptable-1"
                strategyCandidateRevision := some "strategy-candidate-1", adoptedAt := 1 } }]
        nextHistorySeq := 2 }
    progress := none }

/-- The second revision is adopted, and the file cannot be written. -/
def interruptedAdoption : TargetsCall :=
  { action := .adopt none (some "adoptable-2")
    fault := fun step ↦ if step = .rewriteConfig then some "No space left on device" else none
    migratedWrites := 0
    nanos := 2
    now := 2 }

/-- The run of the call: the row is appended, and the file stays. -/
theorem exec_interruptedAdoption :
    ∃ entry error world', exec (perform acceptingTargetsEnv interruptedAdoption) adoptedWorld =
        (.error error, world') ∧
      world'.plane.config = .rewritten "strategy-rev-1" ∧
      world'.history.entries = adoptedWorld.history.entries ++ [entry] ∧
      entry.row.operatorStrategyRevision = "strategy-rev-2" := by
  obtain ⟨plan, row, middle, hprepared, hrow, hrequired, hshape, hid, hrevision, hconfig,
      hhistory⟩ : ∃ plan row middle,
      exec (prepare acceptingTargetsEnv interruptedAdoption) adoptedWorld = (.ok plan, middle) ∧
      plan.row = some row ∧ plan.rewriteRequired = true ∧ row.ShapeOk ∧
      row.adoptionId = "adopt-2-strategy-rev-2" ∧
      row.operatorStrategyRevision = "strategy-rev-2" ∧
      middle.plane.config = .rewritten "strategy-rev-1" ∧
      middle.history = adoptedWorld.history := by
    simp [prepare, prepareAdopt, interruptedAdoption, validateSelectorFlags, loadValidatedConfig,
      exec_bind, io, acceptingTargetsEnv, acceptingMigrationEnv, selectAdoption,
      resolveAdoptionSelection, adoptedWorld, adoptableDatabase, KeyedTable.get?_insertNew,
      StrategyDatabase.getAdoptableStrategyRevision, StrategyDatabase.getStrategyCandidateSet,
      prepareAdoption, ensureCanonicalProvenance, ensureStrategyArtifactLineage, exec_focus,
      StrategyStore.materializeStrategyCandidateSet, StrategyStore.materialize,
      StrategyStore.materializeAdoptableStrategyRevision, StrategyStore.insert,
      StrategyDatabase.write, StrategyDatabase.stored?, StrategyStore.upsertProvenance,
      StrategyDatabase.getByOperatorStrategyRevision, Except.mapError,
      loadActiveOperatorStrategyRevision, strategyCandidateRevisionForSelection,
      OperatorStrategyAdoptionHistoryRow.ShapeOk, -bind_pure_comp]
    decide
  rw [exec_perform_of_ok hprepared]
  simp only [carryOut, hrow, hrequired, appendPlanned, exec_bind]
  rcases exec_appendHistory interruptedAdoption middle row with
    ⟨-, history, hrun, entry, hentries, rfl⟩ | ⟨hrefused, -⟩
  · rcases exec_rewriteConfig interruptedAdoption { middle with history }
      (rfl : acceptingTargetsEnv.validated _ = _) plan.summary.selection.operatorStrategyRevision with
      ⟨hrewrites, -⟩ | ⟨-, error, herror⟩
    · exact absurd hrewrites.fault (by decide)
    · simp only [hrun, if_true, exec_bind, herror]
      exact ⟨entry, _, _, rfl, hconfig, by rw [hentries, hhistory], hrevision⟩
  · refine absurd ⟨by decide, hshape, ?_⟩ hrefused
    rw [hid, hhistory]
    decide

/-- The call fails after the row was appended: the newest row is not what is configured. -/
theorem not_in_step :
    adoptedWorld.InStep ∧
      ¬ (targetsStep acceptingTargetsEnv adoptedWorld interruptedAdoption).InStep ∧
      ¬ ErrKeeps acceptingTargetsEnv adoptedWorld interruptedAdoption := by
  obtain ⟨entry, error, world', hrun, hconfig, hentries, hrevision⟩ := exec_interruptedAdoption
  refine ⟨rfl, fun hstep ↦ ?_, fun hkeeps ↦ ?_⟩
  · have hsecond : world'.newestRevision = some "strategy-rev-2" := by
      rw [TargetsWorld.newestRevision, hentries, List.getLast?_concat, Option.map_some, hrevision]
    rw [targetsStep, hrun, TargetsWorld.InStep, hconfig, hsecond] at hstep
    exact absurd hstep (by decide)
  · have hsame := (hkeeps _ world' hrun).entries
    rw [hentries] at hsame
    simp at hsame

end AxiomArb.AppLive
