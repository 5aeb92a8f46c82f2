import AxiomArb.AppLive.StrategyMigration
import AxiomArb.Persistence.AdoptionHistory
import AxiomArb.Persistence.RuntimeProgress

/-!
# Adopting and rolling back

`adopt` and `rollback` select a strategy revision, append the change to the history of
adoptions and rewrite the configuration.  What is done is not undone if a later step
fails.

## Honest boundary

* A call carries the error with which each of its steps outside the process fails, if it
  does; a step that fails does nothing, but a migration that fails may have written rows.
* `TargetsEnv` stands for the reading and rendering of targets, and for the validation of
  files and payloads.
-/

namespace AxiomArb.AppLive

open Domain Library Persistence

structure TargetsEnv extends MigrationEnv where
  parseLegacyExplicitTargets (targets : List NegRiskTargetToml) :
    Except String (BTreeMap String NegRiskFamilyLiveTarget)
  liveTargetRevision (targets : BTreeMap String NegRiskFamilyLiveTarget) : String
  renderedLiveTargets (targets : BTreeMap String NegRiskFamilyLiveTarget) : Json
  validateStrategyPayload (payload : Json) (operatorStrategyRevision : String) : Except String Unit

/-! ## Migration of any legacy input -/

section Explicit

variable (env : TargetsEnv) (config : ConfigFile)

def legacyExplicitTargets : Except String (BTreeMap String NegRiskFamilyLiveTarget) := do
  env.validated config
  match config.targets with
  | none => .error "migration required: legacy explicit targets require explicit negrisk.targets"
  | some targets => env.parseLegacyExplicitTargets targets

def syntheticStrategyRevisionForLegacyExplicitConfig : Except String String := do
  let targets ← legacyExplicitTargets env config
  let digest := env.liveTargetRevision targets
  return "strategy-rev-" ++ (stripPrefix "sha256:" digest).getD digest

end Explicit

/-- The candidate that stands for explicit targets. -/
def explicitCandidate (lineage : StrategyAdoptionProvenanceRow) : StrategyCandidateSetRow :=
  { strategyCandidateRevision := lineage.strategyCandidateRevision
    snapshotId := s!"compatibility-migration-{lineage.operatorStrategyRevision}"
    sourceRevision := "legacy-explicit"
    payload := .object
      [("migration_source", .string "legacy-explicit"),
        ("strategy_candidate_revision", .string lineage.strategyCandidateRevision)] }

/-- The adoptable revision that holds explicit targets. -/
def explicitAdoptable (lineage : StrategyAdoptionProvenanceRow) (renderedLiveTargets : Json) :
    AdoptableStrategyRevisionRow :=
  { adoptableStrategyRevision := lineage.adoptableStrategyRevision
    strategyCandidateRevision := lineage.strategyCandidateRevision
    renderedOperatorStrategyRevision := lineage.operatorStrategyRevision
    payload := .object
      [("adoptable_strategy_revision", .string lineage.adoptableStrategyRevision),
        ("migration_source", .string "legacy-explicit"),
        ("rendered_live_targets", renderedLiveTargets),
        ("rendered_operator_strategy_revision", .string lineage.operatorStrategyRevision),
        ("strategy_candidate_revision", .string lineage.strategyCandidateRevision)] }

def migrateLegacyExplicitTargets (env : TargetsEnv) : MigrationCommand MigrationOutcome := do
  let config := (← get).config
  if config.targets = some [] then
    throw (.invalidConfig "empty negrisk.targets array is invalid legacy input")
  else do
    let operatorStrategyRevision ← liftM
      ((syntheticStrategyRevisionForLegacyExplicitConfig env config).mapError
        StrategyControlMigrationError.invalidConfig)
    let targets ← liftM
      ((legacyExplicitTargets env config).mapError StrategyControlMigrationError.invalidConfig)
    let lineage := syntheticLineage operatorStrategyRevision
    onStore .persistence
      (StrategyStore.materializeStrategyCandidateSet "canonical" (explicitCandidate lineage))
    onStore .persistence (StrategyStore.materializeAdoptableStrategyRevision "canonical"
      (explicitAdoptable lineage (env.renderedLiveTargets targets)))
    onStore (fun error ↦ .persistence error.toString) (StrategyStore.upsertProvenance lineage)
    focus ControlPlane.config (fun plane config ↦ { plane with config }) .rewrite
      (rewriteOperatorStrategyRevision env.validated operatorStrategyRevision)
    return outcomeOf lineage .legacyExplicitTargets

def migrateLegacyStrategyControl (env : TargetsEnv) : MigrationCommand MigrationOutcome := do
  let config := (← get).config
  if config.strategyControl.isSome ∧ (config.targetSource.isSome ∨ config.targets.isSome) then
    throw (.invalidConfig
      "canonical [strategy_control] cannot be combined with legacy negrisk control-plane input")
  else if config.targetSource.isSome ∧ config.targets.isSome then
    throw (.invalidConfig
      "legacy negrisk.target_source cannot be combined with explicit negrisk.targets")
  else if config.targetSource.isSome then
    migrateLegacyTargetSource env.toMigrationEnv
  else if config.targets.isSome then
    migrateLegacyExplicitTargets env
  else
    throw (.invalidConfig "config does not contain migratable legacy strategy-control input")

/-! ## Selections -/

structure ResolvedStrategyAdoptionSelection where
  operatorStrategyRevision : String
  adoptableRevision : Option String
  migrationSource : Option String
deriving DecidableEq, Repr

/-- The database, the configuration, the history and the progress row. -/
structure TargetsWorld where
  plane : ControlPlane
  history : AdoptionHistory
  progress : Option RuntimeProgressRow

section Selection

variable (env : TargetsEnv) (database : StrategyDatabase)

def selectionFromLineage (operatorStrategyRevision adoptableRevision
    strategyCandidateRevision : String) : Except String ResolvedStrategyAdoptionSelection := do
  match database.getAdoptableStrategyRevision adoptableRevision with
  | none => .error s!"adoptable_revision {adoptableRevision} is unavailable"
  | some adoptable =>
      if adoptable.strategyCandidateRevision ≠ strategyCandidateRevision ∨
          adoptable.renderedOperatorStrategyRevision ≠ operatorStrategyRevision then
        .error s!"adoptable_revision {adoptableRevision} does not match operator_strategy_revision {operatorStrategyRevision}"
      else if database.getStrategyCandidateSet strategyCandidateRevision = none then
        .error s!"strategy_candidate_revision {strategyCandidateRevision} is unavailable"
      else do
        env.validateStrategyPayload adoptable.payload operatorStrategyRevision
        return {
          operatorStrategyRevision
          adoptableRevision := some adoptableRevision
          migrationSource := none }

/-- The lineage of the first adoption in the list; rollbacks have none. -/
def latestHistoryLineageFromRows (operatorStrategyRevision : String) :
    List OperatorStrategyAdoptionHistoryRow → Except String (String × String)
  | [] => .error s!"operator_strategy_revision {operatorStrategyRevision} has history but no durable lineage"
  | row :: rows =>
      if row.actionKind = "rollback" ∧ row.adoptableStrategyRevision = none ∧
          row.strategyCandidateRevision = none then
        latestHistoryLineageFromRows operatorStrategyRevision rows
      else if row.actionKind = "adopt" then
        match row.adoptableStrategyRevision, row.strategyCandidateRevision with
        | some adoptableRevision, some strategyCandidateRevision =>
            .ok (adoptableRevision, strategyCandidateRevision)
        | _, _ => .error s!"operator_strategy_revision {operatorStrategyRevision} has history but no durable lineage"
      else
        .error s!"operator_strategy_revision {operatorStrategyRevision} has history but no durable lineage"

/-- The query orders by number, the highest first, and puts the newer table first. -/
def lineageRank (entry : CombinedEntry) : ℤᵒᵈ ×ₗ ℕ :=
  toLex (OrderDual.toDual entry.historySeq, entry.sourcePriority)

def latestHistoryLineage (history : AdoptionHistory) (operatorStrategyRevision : String) :
    Except String (Option (String × String)) :=
  let entries := history.combined fun row ↦
    row.operatorStrategyRevision == operatorStrategyRevision
  if entries = [] then
    .ok none
  else
    (latestHistoryLineageFromRows operatorStrategyRevision
      ((entries.insertionSort fun entry other ↦ lineageRank entry ≤ lineageRank other).map
        CombinedEntry.row)).map some

def resolveAdoptionSelection (history : AdoptionHistory) :
    (operatorStrategyRevision adoptableRevision : Option String) →
      Except String ResolvedStrategyAdoptionSelection
  | some _, some _ | none, none =>
      .error "exactly one of --operator-strategy-revision or --adoptable-revision must be provided"
  | some operatorStrategyRevision, none => do
      let provenance ← (database.getByOperatorStrategyRevision operatorStrategyRevision).mapError
        PersistenceError.toString
      match provenance with
      | some provenance =>
          selectionFromLineage env database provenance.operatorStrategyRevision
            provenance.adoptableStrategyRevision provenance.strategyCandidateRevision
      | none => do
          match ← latestHistoryLineage history operatorStrategyRevision with
          | some (adoptableRevision, strategyCandidateRevision) =>
              selectionFromLineage env database operatorStrategyRevision adoptableRevision
                strategyCandidateRevision
          | none =>
              .error s!"operator_strategy_revision {operatorStrategyRevision} has no durable adoption provenance or history lineage"
  | none, some adoptableRevision => do
      match database.getAdoptableStrategyRevision adoptableRevision with
      | none => .error s!"adoptable_revision {adoptableRevision} is unavailable"
      | some adoptable => do
          env.validateStrategyPayload adoptable.payload adoptable.renderedOperatorStrategyRevision
          if database.getStrategyCandidateSet adoptable.strategyCandidateRevision = none then
            .error s!"strategy_candidate_revision {adoptable.strategyCandidateRevision} is unavailable"
          else
            return {
              operatorStrategyRevision := adoptable.renderedOperatorStrategyRevision
              adoptableRevision := some adoptable.adoptableStrategyRevision
              migrationSource := none }

/-- A file that lists its targets is read in a mode of its own. -/
def compatibilityMode (config : ConfigFile) : Option String :=
  if config.targets.isSome then some "legacy-explicit" else none

/-- The revision to roll back to. -/
def rollbackDestination (history : AdoptionHistory) (configured : String) :
    Option String → Except String String
  | some revision => .ok revision
  | none =>
      match history.previousDistinctRevision configured with
      | some revision => .ok revision
      | none => .error s!"operator_strategy_revision {configured} has no previous distinct revision"

def resolveRollbackSelection (history : AdoptionHistory) (mode configured : Option String)
    (toOperatorStrategyRevision : Option String) :
    Except String ResolvedStrategyAdoptionSelection :=
  match configured with
  | none => .error "configured operator_strategy_revision is unavailable"
  | some configured =>
      if mode = some "legacy-explicit" ∧ ¬ history.entries.any fun entry ↦
          entry.row.operatorStrategyRevision == configured then
        .error "neutral adoption history is required before compatibility mode can roll back"
      else do
        let destination ← rollbackDestination history configured toOperatorStrategyRevision
        resolveAdoptionSelection env database history (some destination) none

end Selection

def legacyTargetRevisionMatchesStrategyRevision (operatorStrategyRevision
    operatorTargetRevision : String) : Bool :=
  match stripPrefix "strategy-rev-" operatorStrategyRevision with
  | some digest => operatorTargetRevision == "sha256:" ++ digest
  | none => false

def normalizeActiveOperatorStrategyRevision (configured activeTarget activeStrategy :
    Option String) : Option String :=
  activeStrategy <|> activeTarget.map fun active ↦
    (configured.filter fun configured ↦ configured == active ||
      legacyTargetRevisionMatchesStrategyRevision configured active).getD active

def loadActiveOperatorStrategyRevision (progress : Option RuntimeProgressRow)
    (configured : Option String) : Except String (Option String) :=
  match progress with
  | none => .ok none
  | some row =>
      match normalizeActiveOperatorStrategyRevision configured row.operatorTargetRevision
        row.operatorStrategyRevision with
      | some revision => .ok (some revision)
      | none => .error "runtime progress row exists without operator_strategy_revision anchor"

/-! ## Calls -/

/-- The steps of a call that leave the process. -/
inductive TargetsIo where
  | readConfig
  | migrate
  | readSelection
  | readProgress
  | rereadConfig
  | ensureProvenance
  | readCandidate
  | appendHistory
  | rewriteConfig
deriving DecidableEq, Repr

inductive TargetsAction where
  | adopt (operatorStrategyRevision adoptableRevision : Option String)
  | rollback (toOperatorStrategyRevision : Option String)
deriving DecidableEq, Repr

structure TargetsCall where
  action : TargetsAction
  /-- The error of each step that fails. -/
  fault : TargetsIo → Option String
  /-- How much a migration that fails has written. -/
  migratedWrites : Nat
  nanos : Int
  now : DateTime

abbrev TargetsCommand := Command String TargetsWorld

structure TargetsSummary where
  selection : ResolvedStrategyAdoptionSelection
  previousOperatorStrategyRevision : Option String
  restartRequired : Option Bool
deriving DecidableEq, Repr

/-- What a call that is prepared goes on to do. -/
structure TargetsPlan where
  summary : TargetsSummary
  row : Option OperatorStrategyAdoptionHistoryRow
  rewriteRequired : Bool
deriving DecidableEq, Repr

section Commands

variable (env : TargetsEnv) (call : TargetsCall)

/-- A step that leaves the process fails if the call says so. -/
def io (step : TargetsIo) : TargetsCommand Unit :=
  match call.fault step with
  | some error => throw error
  | none => return

/-- The configuration, which has to be valid. -/
def loadValidatedConfig : TargetsCommand ConfigFile := do
  io call .readConfig
  let config := (← get).plane.config
  liftM (env.validated config)
  return config

def hasMigratableLegacyStrategyControl (config : ConfigFile) : Bool :=
  config.strategyControl.isNone && (config.targetSource.isSome || config.targets.isSome)

/-- The file is looked at only if no revision is given. -/
def validateSelectorFlags :
    (operatorStrategyRevision adoptableRevision : Option String) → TargetsCommand Unit
  | some _, none | none, some _ => return
  | none, none => do
      io call .readConfig
      let config := (← get).plane.config
      if hasMigratableLegacyStrategyControl config then
        return
      else
        throw "exactly one of --operator-strategy-revision or --adoptable-revision must be provided"
  | some _, some _ =>
      throw "exactly one of --operator-strategy-revision or --adoptable-revision must be provided"

def StrategyControlMigrationError.message : StrategyControlMigrationError → String
  | invalidConfig message | missingLineage message | persistence message | rewrite message =>
      message

def MigrationSource.name : MigrationSource → String
  | legacyTargetSource => "legacy-target-source"
  | legacyExplicitTargets => "legacy-explicit"

/-- A migration that fails leaves the rows that it has written. -/
def migrateStrategyControl : TargetsCommand MigrationOutcome := do
  match call.fault .migrate with
  | none =>
      focus TargetsWorld.plane (fun world plane ↦ { world with plane })
        StrategyControlMigrationError.message (migrateLegacyStrategyControl env)
  | some error => do
      let world ← get
      let started : ControlPlane := { world.plane with store.writes := [] }
      let written := ((exec (migrateLegacyStrategyControl env) started).2.store.writes).take
        call.migratedWrites
      set { world with
        plane.store :=
          { database := world.plane.store.database.writeAll written
            writes := world.plane.store.writes ++ written } }
      throw error

def MigrationOutcome.selection (outcome : MigrationOutcome) : ResolvedStrategyAdoptionSelection :=
  { operatorStrategyRevision := outcome.operatorStrategyRevision
    adoptableRevision := some outcome.adoptableStrategyRevision
    migrationSource := some outcome.source.name }

def selectAdoption (operatorStrategyRevision adoptableRevision : Option String) :
    TargetsCommand ResolvedStrategyAdoptionSelection := do
  if operatorStrategyRevision = none ∧ adoptableRevision = none then do
    let outcome ← migrateStrategyControl env call
    return outcome.selection
  else do
    io call .readSelection
    let world ← get
    liftM (resolveAdoptionSelection env world.plane.store.database world.history
      operatorStrategyRevision adoptableRevision)

/-- The adoptable revision and its candidate are brought into the neutral tables. -/
def ensureStrategyArtifactLineage (adoptableRevision : String) :
    Command String StrategyStore AdoptableStrategyRevisionRow := do
  match (← get).database.getAdoptableStrategyRevision adoptableRevision with
  | none => throw s!"adoptable_revision {adoptableRevision} is unavailable"
  | some adoptable =>
      match (← get).database.getStrategyCandidateSet adoptable.strategyCandidateRevision with
      | none =>
          throw s!"strategy_candidate_revision {adoptable.strategyCandidateRevision} is unavailable"
      | some candidate => do
          StrategyStore.materializeStrategyCandidateSet "neutral" candidate
          StrategyStore.materializeAdoptableStrategyRevision "neutral" adoptable
          return adoptable

def ensureCanonicalProvenance (selection : ResolvedStrategyAdoptionSelection) :
    Command String StrategyStore Unit := do
  match selection.adoptableRevision with
  | none => return
  | some adoptableRevision => do
      let adoptable ← ensureStrategyArtifactLineage adoptableRevision
      let canonical : StrategyAdoptionProvenanceRow :=
        { operatorStrategyRevision := selection.operatorStrategyRevision
          adoptableStrategyRevision := adoptable.adoptableStrategyRevision
          strategyCandidateRevision := adoptable.strategyCandidateRevision }
      let existing ← liftM
        (((← get).database.getByOperatorStrategyRevision canonical.operatorStrategyRevision).mapError
          PersistenceError.toString)
      if existing.isNone then
        focus id (fun _ store ↦ store) PersistenceError.toString
          (StrategyStore.upsertProvenance canonical)

def strategyCandidateRevisionForSelection (database : StrategyDatabase)
    (selection : ResolvedStrategyAdoptionSelection) : Option String :=
  (selection.adoptableRevision.bind database.getAdoptableStrategyRevision).map
    AdoptableStrategyRevisionRow.strategyCandidateRevision

/-- The file has legacy input, or no control yet. -/
def configRequiresStrategyControlRewrite (config : ConfigFile) : Bool :=
  config.strategyControl.isNone || config.targetSource.isSome || config.targets.isSome

/-- What follows from a selection, up to the first change of the history. -/
def prepareAdoption (previous : Option String) (selection : ResolvedStrategyAdoptionSelection) :
    TargetsCommand TargetsPlan := do
  io call .readProgress
  let active ← liftM (loadActiveOperatorStrategyRevision (← get).progress
    (some selection.operatorStrategyRevision))
  io call .rereadConfig
  let rewriteRequired := configRequiresStrategyControlRewrite (← get).plane.config ||
    previous != some selection.operatorStrategyRevision
  io call .ensureProvenance
  focus (fun world ↦ world.plane.store) (fun world store ↦ { world with plane.store := store }) id
    (ensureCanonicalProvenance selection)
  io call .readCandidate
  let strategyCandidateRevision :=
    strategyCandidateRevisionForSelection (← get).plane.store.database selection
  return {
    summary :=
      { selection
        previousOperatorStrategyRevision := if rewriteRequired then previous else none
        restartRequired := active.map (· != selection.operatorStrategyRevision) }
    row := some
      { adoptionId := s!"adopt-{call.nanos}-{selection.operatorStrategyRevision}"
        actionKind := "adopt"
        operatorStrategyRevision := selection.operatorStrategyRevision
        previousOperatorStrategyRevision := previous
        adoptableStrategyRevision := selection.adoptableRevision
        strategyCandidateRevision
        adoptedAt := call.now }
    rewriteRequired }

def prepareRollback (toOperatorStrategyRevision : Option String) : TargetsCommand TargetsPlan := do
  let config ← loadValidatedConfig env call
  let mode := compatibilityMode config
  let previous := config.configuredRevision <|> mode.bind fun _ ↦
    (syntheticStrategyRevisionForLegacyExplicitConfig env config).toOption
  io call .readSelection
  let world ← get
  let selection ← liftM (resolveRollbackSelection env world.plane.store.database world.history mode
    previous toOperatorStrategyRevision)
  io call .readProgress
  let active ← liftM (loadActiveOperatorStrategyRevision world.progress
    (some selection.operatorStrategyRevision))
  let changed := previous != some selection.operatorStrategyRevision
  return {
    summary :=
      { selection
        previousOperatorStrategyRevision := if changed then previous else none
        restartRequired := active.map (· != selection.operatorStrategyRevision) }
    row :=
      if changed then
        some
          { adoptionId := s!"rollback-{call.nanos}-{selection.operatorStrategyRevision}"
            actionKind := "rollback"
            operatorStrategyRevision := selection.operatorStrategyRevision
            previousOperatorStrategyRevision := previous
            adoptableStrategyRevision := none
            strategyCandidateRevision := none
            adoptedAt := call.now }
      else
        none
    rewriteRequired := changed }

/-- Select what to adopt, and prepare it. -/
def prepareAdopt (operatorStrategyRevision adoptableRevision : Option String) :
    TargetsCommand TargetsPlan := do
  validateSelectorFlags call operatorStrategyRevision adoptableRevision
  let config ← loadValidatedConfig env call
  let selection ← selectAdoption env call operatorStrategyRevision adoptableRevision
  prepareAdoption call config.configuredRevision selection

def prepare : TargetsCommand TargetsPlan :=
  match call.action with
  | .adopt operatorStrategyRevision adoptableRevision =>
      prepareAdopt env call operatorStrategyRevision adoptableRevision
  | .rollback toOperatorStrategyRevision => prepareRollback env call toOperatorStrategyRevision

def appendHistory (row : OperatorStrategyAdoptionHistoryRow) : TargetsCommand Unit := do
  io call .appendHistory
  focus TargetsWorld.history (fun world history ↦ { world with history }) id
    (AdoptionHistory.append row)

def rewriteConfig (operatorStrategyRevision : String) : TargetsCommand Unit := do
  io call .rewriteConfig
  focus (fun world ↦ world.plane.config) (fun world config ↦ { world with plane.config := config })
    id (rewriteOperatorStrategyRevision env.validated operatorStrategyRevision)

def appendPlanned : Option OperatorStrategyAdoptionHistoryRow → TargetsCommand Unit
  | some row => appendHistory call row
  | none => return

/-- The history is appended to first, and the file is rewritten after it. -/
def carryOut (plan : TargetsPlan) : TargetsCommand TargetsSummary := do
  appendPlanned call plan.row
  if plan.rewriteRequired then
    rewriteConfig env call plan.summary.selection.operatorStrategyRevision
  return plan.summary

def perform : TargetsCommand TargetsSummary := do
  let plan ← prepare env call
  carryOut env call plan

end Commands

end AxiomArb.AppLive
