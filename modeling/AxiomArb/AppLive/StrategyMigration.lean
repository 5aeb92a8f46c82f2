import AxiomArb.AppLive.TargetConfig
import AxiomArb.Persistence.StrategyControl
import AxiomArb.Library.Slices

/-!
# Migration of the legacy control plane

A configuration that names a target revision is migrated to a strategy revision: the
lineage of the target revision is found or made up, its rows are copied into the neutral
tables, and the configuration is rewritten.

The rows are written one by one.  `migration_restartable` says that a migration that was
stopped after any of its writes is completed by running it again.

## Honest boundary

* `jsonbText` is the text that the database gives for a JSON value that is no string.
-/

namespace AxiomArb.AppLive

open Library Persistence

/-- The database and the configuration. -/
structure ControlPlane where
  store : StrategyStore
  config : ConfigFile

inductive MigrationSource where
  | legacyTargetSource
  | legacyExplicitTargets
deriving DecidableEq, Repr

structure MigrationOutcome where
  operatorStrategyRevision : String
  adoptableStrategyRevision : String
  strategyCandidateRevision : String
  source : MigrationSource
deriving DecidableEq, Repr

inductive StrategyControlMigrationError where
  | invalidConfig (message : String)
  | missingLineage (message : String)
  | persistence (message : String)
  | rewrite (message : String)
deriving DecidableEq, Repr

structure MigrationEnv where
  validated : ValidatedConfig
  jsonbText : Json → String

/-! ## Names -/

/-- Take the pattern off the start of a text as often as it is there, at most `n` times. -/
def trimStartMatchesFrom (pattern : String) : Nat → String → String
  | 0, text => text
  | n + 1, text =>
      match stripPrefix pattern text with
      | some rest => trimStartMatchesFrom pattern n rest
      | none => text

def trimStartMatches (pattern text : String) : String :=
  trimStartMatchesFrom pattern text.length text

def canonicalStrategyRevisionFromLegacyTargetRevision (operatorTargetRevision : String) :
    Except StrategyControlMigrationError String :=
  match stripPrefix "targets-rev-" operatorTargetRevision with
  | some suffix => .ok s!"strategy-rev-{suffix}"
  | none =>
      match stripPrefix "sha256:" operatorTargetRevision with
      | some suffix => .ok s!"strategy-rev-{suffix}"
      | none =>
          .error (.invalidConfig
            s!"legacy operator_target_revision {operatorTargetRevision} cannot be mapped to a canonical operator_strategy_revision")

def syntheticAdoptableRevision (operatorStrategyRevision : String) : String :=
  "adoptable-strategy-" ++ trimStartMatches "strategy-rev-" operatorStrategyRevision

def syntheticStrategyCandidateRevision (operatorStrategyRevision : String) : String :=
  "strategy-candidate-" ++ trimStartMatches "strategy-rev-" operatorStrategyRevision

def syntheticLineage (operatorStrategyRevision : String) : StrategyAdoptionProvenanceRow :=
  { operatorStrategyRevision
    adoptableStrategyRevision := syntheticAdoptableRevision operatorStrategyRevision
    strategyCandidateRevision := syntheticStrategyCandidateRevision operatorStrategyRevision }

/-! ## Payloads -/

/-- The text of a field, as the database reads it. -/
def jsonbField (jsonbText : Json → String) (payload : Json) (key : String) : Option String :=
  match payload.get? key with
  | none | some .null => none
  | some (.string text) => some text
  | some other => some (jsonbText other)

def payloadWithInsertedString (payload : Json) (key value : String) : Json :=
  payload.insert key (.string value)

def payloadWithRenderedStrategyRevision (payload : Json)
    (operatorStrategyRevision migrationSource : String) : Json :=
  (payload.insert "rendered_operator_strategy_revision" (.string operatorStrategyRevision)).insert
    "migration_source" (.string migrationSource)

/-! ## The lineage -/

section Lineage

variable (env : MigrationEnv) (database : StrategyDatabase) (operatorTargetRevision : String)

/-- The adoptable revision of the provenance is marked with the target revision. -/
def Marked (row : StrategyAdoptionProvenanceRow) : Prop :=
  ∃ adoptable ∈ database.adoptableStrategyRevisions.get? row.adoptableStrategyRevision,
    (adoptable.strategyCandidateRevision = row.strategyCandidateRevision ∧
      adoptable.renderedOperatorStrategyRevision = row.operatorStrategyRevision) ∧
    jsonbField env.jsonbText adoptable.payload "legacy_operator_target_revision" =
      some operatorTargetRevision

instance : DecidablePred (Marked env database operatorTargetRevision) := fun _ ↦
  inferInstanceAs (Decidable (∃ _ ∈ _, _))

def loadExistingCanonicalTargetSourceMigration :
    Except StrategyControlMigrationError (Option StrategyAdoptionProvenanceRow) :=
  let mapped := database.strategyAdoptionProvenance.all.filter
    fun row ↦ decide (Marked env database operatorTargetRevision row)
  if 1 < mapped.length then
    .error (.missingLineage
      s!"legacy operator_target_revision {operatorTargetRevision} maps to multiple canonical strategy revisions")
  else
    .ok mapped.getLast?

/-- The marked lineage, the lineage of the derived revision, or one made up for it. -/
def selectLineage (derivedRevision : String) :
    (marker derived : Option StrategyAdoptionProvenanceRow) →
      Except StrategyControlMigrationError StrategyAdoptionProvenanceRow
  | some marker, some derived =>
      if marker.operatorStrategyRevision ≠ derived.operatorStrategyRevision then
        .error (.missingLineage
          s!"legacy operator_target_revision {operatorTargetRevision} maps to conflicting canonical strategy revisions")
      else
        .ok marker
  | some marker, none => .ok marker
  | none, some derived => .ok derived
  | none, none => .ok (syntheticLineage derivedRevision)

def persistenceError {α : Type} (result : Except PersistenceError α) :
    Except StrategyControlMigrationError α :=
  result.mapError fun error ↦ .persistence error.toString

/-- The lineage of the derived revision, which is asked for if there is a legacy one. -/
def derivedLineage (legacy : Option CandidateAdoptionProvenanceRow) (derivedRevision : String) :
    Except StrategyControlMigrationError (Option StrategyAdoptionProvenanceRow) :=
  if legacy.isSome then
    persistenceError (database.getByOperatorStrategyRevision derivedRevision)
  else
    .ok none

/-- The legacy provenance of the target revision, and the lineage it is migrated to. -/
def migrationLineage : Except StrategyControlMigrationError
    (Option CandidateAdoptionProvenanceRow × StrategyAdoptionProvenanceRow) := do
  let marker ← loadExistingCanonicalTargetSourceMigration env database operatorTargetRevision
  let legacy ← persistenceError (database.getByOperatorTargetRevision operatorTargetRevision)
  let derivedRevision ← canonicalStrategyRevisionFromLegacyTargetRevision operatorTargetRevision
  let derived ← derivedLineage database legacy derivedRevision
  if legacy = none ∧ marker = none then
    .error (.missingLineage
      s!"legacy operator_target_revision {operatorTargetRevision} has no target-shaped provenance or canonical strategy lineage")
  else do
    let lineage ← selectLineage operatorTargetRevision derivedRevision marker derived
    return (legacy, lineage)

/-- The rows of the legacy provenance under the names of the lineage. -/
def migratedArtifacts (provenance : CandidateAdoptionProvenanceRow)
    (lineage : StrategyAdoptionProvenanceRow) :
    Except StrategyControlMigrationError
      (StrategyCandidateSetRow × AdoptableStrategyRevisionRow) :=
  match database.candidateTargetSets.get? provenance.candidateRevision with
  | none =>
      .error (.missingLineage s!"candidate_revision {provenance.candidateRevision} is unavailable")
  | some candidate =>
      match database.adoptableTargetRevisions.get? provenance.adoptableRevision with
      | none =>
          .error (.missingLineage
            s!"adoptable_revision {provenance.adoptableRevision} is unavailable")
      | some adoptable =>
          .ok
            ({ strategyCandidateRevision := lineage.strategyCandidateRevision
               snapshotId := candidate.snapshotId
               sourceRevision := candidate.sourceRevision
               payload := payloadWithInsertedString
                (payloadWithInsertedString candidate.payload "legacy_operator_target_revision"
                  operatorTargetRevision)
                "strategy_candidate_revision" lineage.strategyCandidateRevision },
             { adoptableStrategyRevision := lineage.adoptableStrategyRevision
               strategyCandidateRevision := lineage.strategyCandidateRevision
               renderedOperatorStrategyRevision := lineage.operatorStrategyRevision
               payload := payloadWithInsertedString
                (payloadWithInsertedString
                  (payloadWithRenderedStrategyRevision adoptable.payload
                    lineage.operatorStrategyRevision "legacy-target-source")
                  "legacy_operator_target_revision" operatorTargetRevision)
                "adoptable_strategy_revision" lineage.adoptableStrategyRevision })

def ensureExistingCanonicalArtifactsPresent (lineage : StrategyAdoptionProvenanceRow) :
    Except StrategyControlMigrationError Unit :=
  if database.strategyCandidateSets.get? lineage.strategyCandidateRevision = none then
    .error (.missingLineage
      s!"canonical strategy_candidate_revision {lineage.strategyCandidateRevision} is unavailable and no legacy artifacts exist to repair it")
  else
    match database.adoptableStrategyRevisions.get? lineage.adoptableStrategyRevision with
    | none =>
        .error (.missingLineage
          s!"canonical adoptable_strategy_revision {lineage.adoptableStrategyRevision} is unavailable and no legacy artifacts exist to repair it")
    | some adoptable =>
        if adoptable.strategyCandidateRevision ≠ lineage.strategyCandidateRevision ∨
            adoptable.renderedOperatorStrategyRevision ≠ lineage.operatorStrategyRevision then
          .error (.missingLineage
            s!"canonical adoptable_strategy_revision {lineage.adoptableStrategyRevision} does not match expected strategy lineage")
        else
          .ok ()

end Lineage

/-! ## The migration -/

abbrev MigrationCommand := Command StrategyControlMigrationError ControlPlane

/-- Work on the database. -/
def onStore {ε α : Type} (rename : ε → StrategyControlMigrationError)
    (command : Command ε StrategyStore α) : MigrationCommand α :=
  focus ControlPlane.store (fun plane store ↦ { plane with store }) rename command

/-- Write the rows of a lineage.  The rows of a legacy provenance are copied; without
one they have to be there. -/
def writeLineage (operatorTargetRevision : String)
    (legacy : Option CandidateAdoptionProvenanceRow) (lineage : StrategyAdoptionProvenanceRow) :
    MigrationCommand Unit := do
  let database := (← get).store.database
  match legacy with
  | some provenance => do
      let (candidate, adoptable) ←
        liftM (migratedArtifacts database operatorTargetRevision provenance lineage)
      onStore .persistence (StrategyStore.materializeStrategyCandidateSet "canonical" candidate)
      onStore .persistence
        (StrategyStore.materializeAdoptableStrategyRevision "canonical" adoptable)
  | none => liftM (ensureExistingCanonicalArtifactsPresent database lineage)
  onStore (fun error ↦ .persistence error.toString) (StrategyStore.upsertProvenance lineage)

/-- The target revision that the configuration names. -/
def legacyOperatorTargetRevision (config : ConfigFile) :
    Except StrategyControlMigrationError String :=
  match config.targetSource with
  | none => .error (.invalidConfig "missing required section: negrisk.target_source")
  | some targetSource =>
      match (targetSource.operatorTargetRevision.map trim).filter (!·.isEmpty) with
      | none =>
          .error (.invalidConfig "missing negrisk.target_source.operator_target_revision")
      | some operatorTargetRevision => .ok operatorTargetRevision

def outcomeOf (lineage : StrategyAdoptionProvenanceRow) (source : MigrationSource) :
    MigrationOutcome :=
  { operatorStrategyRevision := lineage.operatorStrategyRevision
    adoptableStrategyRevision := lineage.adoptableStrategyRevision
    strategyCandidateRevision := lineage.strategyCandidateRevision
    source }

def migrateLegacyTargetSource (env : MigrationEnv) : MigrationCommand MigrationOutcome := do
  let operatorTargetRevision ← liftM (legacyOperatorTargetRevision (← get).config)
  let (legacy, lineage) ←
    liftM (migrationLineage env (← get).store.database operatorTargetRevision)
  writeLineage operatorTargetRevision legacy lineage
  focus ControlPlane.config (fun plane config ↦ { plane with config }) .rewrite
    (rewriteOperatorStrategyRevision env.validated lineage.operatorStrategyRevision)
  return outcomeOf lineage .legacyTargetSource

/-! ## What the lineage is -/

section Select

variable {env : MigrationEnv} {database database' : StrategyDatabase}
  {operatorTargetRevision : String} {legacy : Option CandidateAdoptionProvenanceRow}
  {lineage row : StrategyAdoptionProvenanceRow}

theorem Marked.joins (h : Marked env database operatorTargetRevision row) :
    database.JoinsAdoptable row := by
  obtain ⟨adoptable, hadoptable, hmatches, -⟩ := h
  exact ⟨adoptable, hadoptable, hmatches⟩

/-- A marker is the only provenance that is marked. -/
theorem marker_eq_some (h : loadExistingCanonicalTargetSourceMigration env database
    operatorTargetRevision = .ok (some row)) :
    database.strategyAdoptionProvenance.get? row.operatorStrategyRevision = some row ∧
      Marked env database operatorTargetRevision row := by
  simp only [loadExistingCanonicalTargetSourceMigration] at h
  split at h
  · cases h
  · have hmem := List.mem_of_getLast? (Except.ok.inj h)
    rw [List.mem_filter, KeyedTable.mem_all_iff, decide_eq_true_iff] at hmem
    exact hmem

theorem marker_eq_none (h : loadExistingCanonicalTargetSourceMigration env database
    operatorTargetRevision = .ok none) {key : String}
    (hrow : database.strategyAdoptionProvenance.get? key = some row) :
    ¬ Marked env database operatorTargetRevision row := by
  simp only [loadExistingCanonicalTargetSourceMigration] at h
  split at h
  · cases h
  · intro hmarked
    have hnone := List.getLast?_eq_none_iff.mp (Except.ok.inj h)
    have hkey := KeyedTable.key_of_get? hrow
    have hmem : row ∈ database.strategyAdoptionProvenance.all := by
      rw [KeyedTable.mem_all_iff, hkey, hrow]
    exact List.filter_eq_nil_iff.mp hnone row hmem (decide_eq_true hmarked)

/-- The marker does not change where no provenance comes to be marked or stops to be. -/
theorem marker_congr
    (hprovenance : database'.strategyAdoptionProvenance = database.strategyAdoptionProvenance)
    (hmarked : ∀ row, database.strategyAdoptionProvenance.get? row.operatorStrategyRevision =
      some row → (Marked env database' operatorTargetRevision row ↔
        Marked env database operatorTargetRevision row)) :
    loadExistingCanonicalTargetSourceMigration env database' operatorTargetRevision =
      loadExistingCanonicalTargetSourceMigration env database operatorTargetRevision := by
  have hfilter : database'.strategyAdoptionProvenance.all.filter
        (fun row ↦ decide (Marked env database' operatorTargetRevision row)) =
      database.strategyAdoptionProvenance.all.filter
        fun row ↦ decide (Marked env database operatorTargetRevision row) := by
    rw [hprovenance]
    refine List.filter_congr fun row hrow ↦ ?_
    exact decide_eq_decide.mpr (hmarked row (KeyedTable.mem_all_iff.mp hrow))
  simp only [loadExistingCanonicalTargetSourceMigration, hfilter]

/-- Where the only provenance that can be marked is `lineage`, it is the marker or there
is none. -/
theorem marker_of_unique
    (hunique : ∀ row, database.strategyAdoptionProvenance.get? row.operatorStrategyRevision =
      some row → Marked env database operatorTargetRevision row → row = lineage) :
    loadExistingCanonicalTargetSourceMigration env database operatorTargetRevision = .ok none ∨
      loadExistingCanonicalTargetSourceMigration env database operatorTargetRevision =
        .ok (some lineage) := by
  have hall : ∀ row ∈ database.strategyAdoptionProvenance.all.filter
      (fun row ↦ decide (Marked env database operatorTargetRevision row)), row = lineage := by
    intro row hrow
    rw [List.mem_filter, KeyedTable.mem_all_iff, decide_eq_true_iff] at hrow
    exact hunique row hrow.1 hrow.2
  have hnodup : (database.strategyAdoptionProvenance.all.filter
      fun row ↦ decide (Marked env database operatorTargetRevision row)).Nodup :=
    KeyedTable.nodup_all.filter _
  simp only [loadExistingCanonicalTargetSourceMigration]
  generalize database.strategyAdoptionProvenance.all.filter _ = mapped at hall hnodup
  match mapped, hall, hnodup with
  | [], _, _ => exact .inl rfl
  | [row], hall, _ => exact .inr (by simp [hall row (by simp)])
  | row :: row' :: rest, hall, hnodup =>
      have hsame : row = row' := (hall row (by simp)).trans (hall row' (by simp)).symm
      simp [hsame] at hnodup

theorem persistenceError_eq_ok {α : Type} {result : Except PersistenceError α} {value : α} :
    persistenceError result = .ok value ↔ result = .ok value := mapError_eq_ok_iff

/-- What the lineage is selected from. -/
theorem migrationLineage_eq_ok :
    migrationLineage env database operatorTargetRevision = .ok (legacy, lineage) ↔
    ∃ derivedRevision marker derived,
      canonicalStrategyRevisionFromLegacyTargetRevision operatorTargetRevision =
        .ok derivedRevision ∧
      loadExistingCanonicalTargetSourceMigration env database operatorTargetRevision =
        .ok marker ∧
      database.getByOperatorTargetRevision operatorTargetRevision = .ok legacy ∧
      derivedLineage database legacy derivedRevision = .ok derived ∧
      ¬ (legacy = none ∧ marker = none) ∧
      selectLineage operatorTargetRevision derivedRevision marker derived = .ok lineage := by
  simp only [migrationLineage, bind_eq_ok, persistenceError_eq_ok]
  constructor
  · rintro ⟨marker, hmarker, found, hfound, derivedRevision, hrevision, derived, hderived, h⟩
    by_cases hmissing : found = none ∧ marker = none
    · simp [hmissing] at h
    · rw [if_neg hmissing, bind_eq_ok] at h
      obtain ⟨selected, hselected, h⟩ := h
      cases h
      exact ⟨derivedRevision, marker, derived, hrevision, hmarker, hfound, hderived, hmissing,
        hselected⟩
  · rintro ⟨derivedRevision, marker, derived, hrevision, hmarker, hfound, hderived, hmissing,
      hselected⟩
    refine ⟨marker, hmarker, legacy, hfound, derivedRevision, hrevision, derived, hderived, ?_⟩
    rw [if_neg hmissing, bind_eq_ok]
    exact ⟨lineage, hselected, rfl⟩

/-- If there is a marker, it is selected. -/
theorem eq_marker_of_selected {derivedRevision : String}
    {marker : StrategyAdoptionProvenanceRow} {derived : Option StrategyAdoptionProvenanceRow}
    (h : selectLineage operatorTargetRevision derivedRevision (some marker) derived = .ok lineage) :
    lineage = marker := by
  cases derived with
  | none => exact (Except.ok.inj h).symm
  | some derived =>
      rw [selectLineage] at h
      split at h
      · cases h
      · exact (Except.ok.inj h).symm

/-- A lineage whose revision has neutral provenance has its adoptable revision. -/
theorem joins_of_lineage
    (h : migrationLineage env database operatorTargetRevision = .ok (legacy, lineage))
    (hrow : database.strategyAdoptionProvenance.get? lineage.operatorStrategyRevision ≠ none) :
    database.JoinsAdoptable lineage := by
  obtain ⟨derivedRevision, marker, derived, -, hmarker, -, hderived, hmissing, hselected⟩ :=
    migrationLineage_eq_ok.mp h
  cases marker with
  | some marker =>
      have hlineage := eq_marker_of_selected hselected
      exact hlineage ▸ (marker_eq_some hmarker).2.joins
  | none =>
      have hlegacy : legacy.isSome := by
        rw [Option.isSome_iff_ne_none]
        exact fun hnone ↦ hmissing ⟨hnone, rfl⟩
      rw [derivedLineage, if_pos hlegacy, persistenceError_eq_ok] at hderived
      cases derived with
      | some derived =>
          cases hselected
          obtain ⟨hkey, ⟨-, hlinked⟩ | ⟨hnone, -⟩⟩ :=
            StrategyDatabase.getByOperatorStrategyRevision_eq_some hderived
          · exact hlinked.1
          · exact absurd (hkey ▸ hnone) hrow
      | none =>
          cases hselected
          exact absurd (StrategyDatabase.getByOperatorStrategyRevision_eq_none.mp hderived).1 hrow

/-- A lineage whose revision has no provenance at all was made up. -/
theorem synthetic_of_fresh
    (h : migrationLineage env database operatorTargetRevision = .ok (legacy, lineage))
    (hfresh : database.getByOperatorStrategyRevision lineage.operatorStrategyRevision = .ok none) :
    canonicalStrategyRevisionFromLegacyTargetRevision operatorTargetRevision =
        .ok lineage.operatorStrategyRevision ∧
      loadExistingCanonicalTargetSourceMigration env database operatorTargetRevision = .ok none ∧
      database.getByOperatorTargetRevision operatorTargetRevision = .ok legacy ∧
      legacy.isSome ∧ lineage = syntheticLineage lineage.operatorStrategyRevision := by
  obtain ⟨hneutral, holder⟩ := StrategyDatabase.getByOperatorStrategyRevision_eq_none.mp hfresh
  obtain ⟨derivedRevision, marker, derived, hrevision, hmarker, hfound, hderived, hmissing,
    hselected⟩ := migrationLineage_eq_ok.mp h
  cases marker with
  | some marker =>
      have hlineage := eq_marker_of_selected hselected
      have hstored := (marker_eq_some hmarker).1
      rw [← hlineage, hneutral] at hstored
      cases hstored
  | none =>
      have hlegacy : legacy.isSome := by
        rw [Option.isSome_iff_ne_none]
        exact fun hnone ↦ hmissing ⟨hnone, rfl⟩
      rw [derivedLineage, if_pos hlegacy, persistenceError_eq_ok] at hderived
      cases derived with
      | some derived =>
          cases hselected
          obtain ⟨hkey, ⟨hsome, -⟩ | ⟨-, hsome⟩⟩ :=
            StrategyDatabase.getByOperatorStrategyRevision_eq_some hderived
          · rw [← hkey, hneutral] at hsome
            cases hsome
          · exact absurd (hkey ▸ holder) hsome
      | none =>
          cases hselected
          exact ⟨hrevision, hmarker, hfound, hlegacy, rfl⟩

/-- Copying the rows of a lineage does not change it. -/
theorem migrationLineage_of_copied (hext : database.Extends database')
    (hprovenance : database'.strategyAdoptionProvenance = database.strategyAdoptionProvenance)
    (hadoptable : ∀ key adoptable,
      database'.adoptableStrategyRevisions.get? key = some adoptable →
        database.adoptableStrategyRevisions.get? key = some adoptable ∨
        database.adoptableStrategyRevisions.get? lineage.adoptableStrategyRevision = none ∧
          adoptable.renderedOperatorStrategyRevision = lineage.operatorStrategyRevision)
    (h : migrationLineage env database operatorTargetRevision = .ok (legacy, lineage)) :
    migrationLineage env database' operatorTargetRevision = .ok (legacy, lineage) := by
  have hmarked : ∀ row, database.strategyAdoptionProvenance.get? row.operatorStrategyRevision =
      some row → (Marked env database' operatorTargetRevision row ↔
        Marked env database operatorTargetRevision row) := by
    intro row hrow
    constructor
    · rintro ⟨adoptable, hget, hmatches, hmark⟩
      rcases hadoptable _ _ hget with hold | ⟨hnone, hrendered⟩
      · exact ⟨adoptable, hold, hmatches, hmark⟩
      · -- a row that is joined to the new one is the lineage, whose row is not new
        have hsame : lineage.operatorStrategyRevision = row.operatorStrategyRevision :=
          hrendered.symm.trans hmatches.2
        obtain ⟨_, hsome, -⟩ := joins_of_lineage h (by rw [hsame, hrow]; simp)
        rw [hnone] at hsome
        cases hsome
    · rintro ⟨adoptable, hget, hmatches⟩
      exact ⟨adoptable, hext.adoptableStrategyRevisions _ _ hget, hmatches⟩
  obtain ⟨derivedRevision, marker, derived, hrevision, hmarker, hfound, hderived, hmissing,
    hselected⟩ := migrationLineage_eq_ok.mp h
  refine migrationLineage_eq_ok.mpr ⟨derivedRevision, marker, derived, hrevision, ?_, ?_, ?_,
    hmissing, hselected⟩
  · rwa [marker_congr hprovenance hmarked]
  · rwa [hext.getByOperatorTargetRevision_eq]
  · unfold derivedLineage at hderived ⊢
    split at hderived
    · rw [if_pos ‹_›, persistenceError_eq_ok]
      exact hext.getByOperatorStrategyRevision_eq (by rw [hprovenance])
        (persistenceError_eq_ok.mp hderived)
    · rwa [if_neg ‹_›]

/-- Made-up provenance that was written is read. -/
theorem read_of_written
    (hfresh : database.getByOperatorStrategyRevision lineage.operatorStrategyRevision = .ok none)
    (hlinked : database.Linked lineage) :
    (database.write (.provenance lineage)).getByOperatorStrategyRevision
      lineage.operatorStrategyRevision = .ok (some lineage) := by
  have hnone := (StrategyDatabase.getByOperatorStrategyRevision_eq_none.mp hfresh).1
  have hself : (database.strategyAdoptionProvenance.insertNew lineage).get?
      lineage.operatorStrategyRevision = some ((database.strategyAdoptionProvenance.get?
        lineage.operatorStrategyRevision).getD lineage) := KeyedTable.get?_insertNew_self
  rw [hnone, Option.getD_none] at hself
  exact StrategyDatabase.getByOperatorStrategyRevision_of_linked hself
    ((StrategyDatabase.extends_write database (.provenance lineage)).linked hlinked)

/-- Writing the provenance of a lineage that was made up does not change it. -/
theorem migrationLineage_of_written
    (h : migrationLineage env database operatorTargetRevision = .ok (legacy, lineage))
    (hfresh : database.getByOperatorStrategyRevision lineage.operatorStrategyRevision = .ok none)
    (hlinked : database.Linked lineage) :
    migrationLineage env (database.write (.provenance lineage)) operatorTargetRevision =
      .ok (legacy, lineage) := by
  obtain ⟨hrevision, hmarker, hfound, hlegacy, -⟩ := synthetic_of_fresh h hfresh
  have hext := StrategyDatabase.extends_write database (.provenance lineage)
  have hderived := read_of_written hfresh hlinked
  have hunique : ∀ row, (database.write (.provenance lineage)).strategyAdoptionProvenance.get?
      row.operatorStrategyRevision = some row →
      Marked env (database.write (.provenance lineage)) operatorTargetRevision row →
        row = lineage := by
    intro row hrow hmarked
    rcases KeyedTable.get?_of_get?_insertNew hrow with hold | ⟨-, -, heq⟩
    · have hbefore : Marked env database operatorTargetRevision row := hmarked
      exact absurd hbefore (marker_eq_none hmarker hold)
    · exact heq
  have hmissing : legacy ≠ none := by
    rwa [Option.isSome_iff_ne_none] at hlegacy
  have hderivedLineage : derivedLineage (database.write (.provenance lineage)) legacy
      lineage.operatorStrategyRevision = .ok (some lineage) := by
    rw [derivedLineage, if_pos hlegacy, persistenceError_eq_ok, hderived]
  rcases marker_of_unique hunique with hmarker | hmarker
  · refine migrationLineage_eq_ok.mpr ⟨_, _, _, hrevision, hmarker, ?_, hderivedLineage,
      fun hnone ↦ hmissing hnone.1, rfl⟩
    rwa [hext.getByOperatorTargetRevision_eq]
  · refine migrationLineage_eq_ok.mpr ⟨_, _, _, hrevision, hmarker, ?_, hderivedLineage,
      fun hnone ↦ hmissing hnone.1, ?_⟩
    · rwa [hext.getByOperatorTargetRevision_eq]
    · rw [selectLineage, if_neg (by simp)]

end Select

/-! ## Running it again -/

section Rerun

variable {env : MigrationEnv} {database : StrategyDatabase} {config : ConfigFile}
  {operatorTargetRevision : String} {provenance : CandidateAdoptionProvenanceRow}
  {legacy : Option CandidateAdoptionProvenanceRow} {lineage : StrategyAdoptionProvenanceRow}
  {plane plane' : ControlPlane} {outcome : MigrationOutcome}

/-- The control plane before a run. -/
def ControlPlane.start (database : StrategyDatabase) (config : ConfigFile) : ControlPlane :=
  { store := { database, writes := [] }, config }

/-- What the rows of a lineage are after a run that writes them. -/
theorem exec_writeLineage_some :
    exec (writeLineage operatorTargetRevision (some provenance) lineage) plane = (.ok ⟨⟩, plane') ↔
      ∃ candidate adoptable store,
        migratedArtifacts plane.store.database operatorTargetRevision provenance lineage =
          .ok (candidate, adoptable) ∧
        (plane.store.insert (.candidateSet candidate)).database.Stored (.candidateSet candidate) ∧
        ((plane.store.insert (.candidateSet candidate)).insert
          (.adoptableRevision adoptable)).database.Stored (.adoptableRevision adoptable) ∧
        exec (StrategyStore.upsertProvenance lineage)
          ((plane.store.insert (.candidateSet candidate)).insert (.adoptableRevision adoptable)) =
            (.ok ⟨⟩, store) ∧
        plane' = { plane with store } := by
  simp only [writeLineage, onStore, exec_bind_eq_ok, exec_get, exec_lift, exec_focus_eq_ok]
  constructor
  · rintro ⟨_, _, ⟨⟩, ⟨candidate, adoptable⟩, _, hartifacts, _, _, ⟨_, hcandidate, rfl⟩, _, _,
      ⟨_, hadoptable, rfl⟩, store, hprovenance, rfl⟩
    simp only [Prod.mk.injEq] at hartifacts
    obtain ⟨hartifacts, rfl⟩ := hartifacts
    obtain ⟨hcandidateStored, rfl⟩ := StrategyStore.exec_materialize_eq_ok.mp hcandidate
    obtain ⟨hadoptableStored, rfl⟩ := StrategyStore.exec_materialize_eq_ok.mp hadoptable
    exact ⟨candidate, adoptable, store, hartifacts, hcandidateStored, hadoptableStored,
      hprovenance, rfl⟩
  · rintro ⟨candidate, adoptable, store, hartifacts, hcandidate, hadoptable, hprovenance, rfl⟩
    exact ⟨_, _, rfl, (candidate, adoptable), _, by rw [hartifacts], ⟨⟩, _,
      ⟨_, StrategyStore.exec_materialize_eq_ok.mpr ⟨hcandidate, rfl⟩, rfl⟩, ⟨⟩, _,
      ⟨_, StrategyStore.exec_materialize_eq_ok.mpr ⟨hadoptable, rfl⟩, rfl⟩, store, hprovenance, rfl⟩

theorem exec_writeLineage_none :
    exec (writeLineage operatorTargetRevision none lineage) plane = (.ok ⟨⟩, plane') ↔
      ensureExistingCanonicalArtifactsPresent plane.store.database lineage = .ok () ∧
      ∃ store, exec (StrategyStore.upsertProvenance lineage) plane.store = (.ok ⟨⟩, store) ∧
        plane' = { plane with store } := by
  simp only [writeLineage, onStore, exec_bind_eq_ok, exec_get, exec_lift, exec_focus_eq_ok]
  constructor
  · rintro ⟨_, _, ⟨⟩, _, _, hpresent, store, hprovenance, rfl⟩
    simp only [Prod.mk.injEq] at hpresent
    obtain ⟨hpresent, rfl⟩ := hpresent
    exact ⟨hpresent, store, hprovenance, rfl⟩
  · rintro ⟨hpresent, store, hprovenance, rfl⟩
    exact ⟨_, _, rfl, ⟨⟩, _, by rw [hpresent], store, hprovenance, rfl⟩

/-- Writing a lineage leaves the configuration alone. -/
theorem exec_writeLineage_config
    (h : exec (writeLineage operatorTargetRevision legacy lineage) plane = (.ok ⟨⟩, plane')) :
    ∃ store, plane' = { plane with store } := by
  cases legacy with
  | some provenance =>
      obtain ⟨_, _, store, -, -, -, -, heq⟩ := exec_writeLineage_some.mp h
      exact ⟨store, heq⟩
  | none =>
      obtain ⟨-, store, -, heq⟩ := exec_writeLineage_none.mp h
      exact ⟨store, heq⟩

/-- A migration that succeeds finds the lineage, writes it and rewrites the file. -/
theorem exec_migrateLegacyTargetSource :
    exec (migrateLegacyTargetSource env) plane = (.ok outcome, plane') ↔
      ∃ operatorTargetRevision legacy lineage store config,
        legacyOperatorTargetRevision plane.config = .ok operatorTargetRevision ∧
        migrationLineage env plane.store.database operatorTargetRevision = .ok (legacy, lineage) ∧
        exec (writeLineage operatorTargetRevision legacy lineage) plane =
          (.ok ⟨⟩, { plane with store }) ∧
        exec (rewriteOperatorStrategyRevision env.validated lineage.operatorStrategyRevision)
          plane.config = (.ok ⟨⟩, config) ∧
        plane' = { store, config } ∧
        outcome = outcomeOf lineage .legacyTargetSource := by
  simp only [migrateLegacyTargetSource, exec_bind_eq_ok, exec_get, exec_lift, exec_focus_eq_ok,
    exec_pure]
  constructor
  · rintro ⟨_, _, ⟨⟩, operatorTargetRevision, _, hrevision, _, _, ⟨⟩, ⟨legacy, lineage⟩, _,
      hlineage, _, written, hwritten, _, _, ⟨config, hconfig, rfl⟩, hreturn⟩
    simp only [Prod.mk.injEq] at hrevision hlineage
    obtain ⟨hrevision, rfl⟩ := hrevision
    obtain ⟨hlineage, rfl⟩ := hlineage
    cases hreturn
    obtain ⟨store, rfl⟩ := exec_writeLineage_config hwritten
    exact ⟨operatorTargetRevision, legacy, lineage, store, config, hrevision, hlineage, hwritten,
      hconfig, rfl, rfl⟩
  · rintro ⟨operatorTargetRevision, legacy, lineage, store, config, hrevision, hlineage, hwritten,
      hconfig, rfl, rfl⟩
    exact ⟨_, _, rfl, operatorTargetRevision, _, by rw [hrevision], _, _, rfl, (legacy, lineage), _,
      by rw [hlineage], ⟨⟩, _, hwritten, ⟨⟩, _, ⟨config, hconfig, rfl⟩, rfl⟩

theorem migratedArtifacts_eq {database' : StrategyDatabase} (hext : database.Extends database')
    (operatorTargetRevision : String) (provenance : CandidateAdoptionProvenanceRow)
    (lineage : StrategyAdoptionProvenanceRow) :
    migratedArtifacts database' operatorTargetRevision provenance lineage =
      migratedArtifacts database operatorTargetRevision provenance lineage := by
  rw [migratedArtifacts, migratedArtifacts, hext.candidateTargetSets,
    hext.adoptableTargetRevisions]

/-- The rows that are written are those of the lineage. -/
structure ArtifactsOf (lineage : StrategyAdoptionProvenanceRow)
    (candidate : StrategyCandidateSetRow) (adoptable : AdoptableStrategyRevisionRow) : Prop where
  candidateKey : candidate.strategyCandidateRevision = lineage.strategyCandidateRevision
  adoptableKey : adoptable.adoptableStrategyRevision = lineage.adoptableStrategyRevision
  adoptableCandidate : adoptable.strategyCandidateRevision = lineage.strategyCandidateRevision
  rendered : adoptable.renderedOperatorStrategyRevision = lineage.operatorStrategyRevision

theorem artifactsOf_migrated {candidate : StrategyCandidateSetRow}
    {adoptable : AdoptableStrategyRevisionRow}
    (h : migratedArtifacts database operatorTargetRevision provenance lineage =
      .ok (candidate, adoptable)) : ArtifactsOf lineage candidate adoptable := by
  rw [migratedArtifacts] at h
  split at h
  · cases h
  · split at h
    · cases h
    · cases h
      exact ⟨rfl, rfl, rfl, rfl⟩

section Copies

variable {candidate : StrategyCandidateSetRow} {adoptable : AdoptableStrategyRevisionRow}

/-- The copy of a lineage is linked. -/
theorem ArtifactsOf.linked (hof : ArtifactsOf lineage candidate adoptable)
    (hcandidate : database.Stored (.candidateSet candidate))
    (hadoptable : database.Stored (.adoptableRevision adoptable)) : database.Linked lineage := by
  rw [StrategyDatabase.stored_candidateSet, hof.candidateKey] at hcandidate
  rw [StrategyDatabase.stored_adoptableRevision, hof.adoptableKey] at hadoptable
  refine ⟨⟨adoptable, hadoptable, hof.adoptableCandidate, hof.rendered⟩, ?_⟩
  rw [hcandidate]
  rfl

/-- The adoptable revisions once the copy is made are the older ones and the new one. -/
theorem ArtifactsOf.adoptable_of_copied (hof : ArtifactsOf lineage candidate adoptable)
    {key : String} {other : AdoptableStrategyRevisionRow}
    (h : ((database.write (.candidateSet candidate)).write
      (.adoptableRevision adoptable)).adoptableStrategyRevisions.get? key = some other) :
    database.adoptableStrategyRevisions.get? key = some other ∨
      database.adoptableStrategyRevisions.get? lineage.adoptableStrategyRevision = none ∧
        other.renderedOperatorStrategyRevision = lineage.operatorStrategyRevision := by
  have hinsert : (database.adoptableStrategyRevisions.insertNew adoptable).get? key = some other := h
  rcases KeyedTable.get?_of_get?_insertNew hinsert with hold | ⟨hnone, -, rfl⟩
  · exact .inl hold
  · exact .inr ⟨hof.adoptableKey ▸ hnone, hof.rendered⟩

end Copies

/-- The lineage is found again, and writing it again ends in the same rows. -/
def Restarts (env : MigrationEnv) (operatorTargetRevision : String)
    (legacy : Option CandidateAdoptionProvenanceRow) (lineage : StrategyAdoptionProvenanceRow)
    (config : ConfigFile) (final database : StrategyDatabase) : Prop :=
  migrationLineage env database operatorTargetRevision = .ok (legacy, lineage) ∧
  ∃ store, store.database = final ∧
    exec (writeLineage operatorTargetRevision legacy lineage) (.start database config) =
      (.ok ⟨⟩, { store, config })

theorem insert_start (database : StrategyDatabase) (config : ConfigFile)
    (write write' : StrategyWrite) :
    ((ControlPlane.start database config).store.insert write).insert write' =
      { database := (database.write write).write write', writes := [write, write'] } := rfl

section Stopped

variable {candidate : StrategyCandidateSetRow} {adoptable : AdoptableStrategyRevisionRow}
  {stopped : StrategyDatabase} {store : StrategyStore}
  (hlineage : migrationLineage env database operatorTargetRevision =
    .ok (some provenance, lineage))
  (hartifacts : migratedArtifacts database operatorTargetRevision provenance lineage =
    .ok (candidate, adoptable))
  (hadoptable : ((database.write (.candidateSet candidate)).write
    (.adoptableRevision adoptable)).Stored (.adoptableRevision adoptable))
  (hprovenance : exec (StrategyStore.upsertProvenance lineage)
    { database := (database.write (.candidateSet candidate)).write (.adoptableRevision adoptable)
      writes := [.candidateSet candidate, .adoptableRevision adoptable] } = (.ok ⟨⟩, store))

include hlineage hartifacts hadoptable hprovenance

/-- A run that was stopped before the provenance goes on to the rows of the full run. -/
theorem restarts_of_copied (hext : database.Extends stopped)
    (hsame : stopped.strategyAdoptionProvenance = database.strategyAdoptionProvenance)
    (hadded : ∀ key other, stopped.adoptableStrategyRevisions.get? key = some other →
      database.adoptableStrategyRevisions.get? key = some other ∨
      database.adoptableStrategyRevisions.get? lineage.adoptableStrategyRevision = none ∧
        other.renderedOperatorStrategyRevision = lineage.operatorStrategyRevision)
    (hcandidate : (stopped.write (.candidateSet candidate)).Stored (.candidateSet candidate))
    (hboth : (stopped.write (.candidateSet candidate)).write (.adoptableRevision adoptable) =
      (database.write (.candidateSet candidate)).write (.adoptableRevision adoptable)) :
    Restarts env operatorTargetRevision (some provenance) lineage config store.database stopped := by
  refine ⟨migrationLineage_of_copied hext hsame hadded hlineage, store, rfl, ?_⟩
  refine exec_writeLineage_some.mpr ⟨candidate, adoptable, store, ?_, hcandidate, ?_, ?_, rfl⟩
  · exact (migratedArtifacts_eq hext _ _ _).trans hartifacts
  · rw [insert_start, hboth]
    exact hadoptable
  · rw [insert_start, hboth]
    exact hprovenance

omit hlineage hprovenance in
/-- A run that was stopped after the provenance finds everything there. -/
theorem restarts_of_written (hstopped : stopped =
      (database.write (.candidateSet candidate)).write (.adoptableRevision adoptable))
    (hfound : migrationLineage env stopped operatorTargetRevision = .ok (some provenance, lineage))
    (hcandidate : stopped.Stored (.candidateSet candidate))
    (hfresh : stopped.getByOperatorStrategyRevision lineage.operatorStrategyRevision = .ok none) :
    Restarts env operatorTargetRevision (some provenance) lineage config
      (stopped.write (.provenance lineage)) (stopped.write (.provenance lineage)) := by
  have hext : database.Extends stopped := by
    rw [hstopped]
    exact trans_of _ (StrategyDatabase.extends_write _ _) (StrategyDatabase.extends_write _ _)
  have hwrite := StrategyDatabase.extends_write stopped (.provenance lineage)
  rw [← hstopped] at hadoptable
  have hlinked := (artifactsOf_migrated hartifacts).linked hcandidate hadoptable
  have hcandidateThere := StrategyDatabase.write_of_stored (hwrite.stored hcandidate)
  have hadoptableThere := StrategyDatabase.write_of_stored (hwrite.stored hadoptable)
  refine ⟨migrationLineage_of_written hfound hfresh hlinked,
    { database := stopped.write (.provenance lineage)
      writes := [.candidateSet candidate, .adoptableRevision adoptable] }, rfl, ?_⟩
  refine exec_writeLineage_some.mpr ⟨candidate, adoptable, _, ?_, ?_, ?_, ?_, rfl⟩
  · exact (migratedArtifacts_eq (trans_of _ hext hwrite) _ _ _).trans hartifacts
  · change ((stopped.write (.provenance lineage)).write (.candidateSet candidate)).Stored
      (.candidateSet candidate)
    rw [hcandidateThere]
    exact hwrite.stored hcandidate
  · rw [insert_start, hcandidateThere, hadoptableThere]
    exact hwrite.stored hadoptable
  · rw [insert_start, hcandidateThere, hadoptableThere]
    exact StrategyStore.exec_upsertProvenance_eq_ok.mpr
      (.inl ⟨read_of_written hfresh hlinked, rfl⟩)

end Stopped

/-- A migration with a legacy provenance restarts from any of its writes. -/
theorem restarts_of_legacy {store : StrategyStore}
    (hlineage : migrationLineage env database operatorTargetRevision =
      .ok (some provenance, lineage))
    (hrun : exec (writeLineage operatorTargetRevision (some provenance) lineage)
      (.start database config) = (.ok ⟨⟩, { store, config }))
    {written : List StrategyWrite} (hwritten : written <+: store.writes) :
    Restarts env operatorTargetRevision (some provenance) lineage config store.database
      (database.writeAll written) := by
  obtain ⟨candidate, adoptable, store', hartifacts, hcandidate, hadoptable, hprovenance, heq⟩ :=
    exec_writeLineage_some.mp hrun
  obtain rfl : store = store' := congrArg ControlPlane.store heq
  rw [insert_start] at hadoptable hprovenance
  have hcandidate : (database.write (.candidateSet candidate)).Stored (.candidateSet candidate) :=
    hcandidate
  have hof := artifactsOf_migrated hartifacts
  have hcopied := StrategyDatabase.extends_write database (.candidateSet candidate)
  have hboth := StrategyDatabase.extends_write (database.write (.candidateSet candidate))
    (.adoptableRevision adoptable)
  have hcandidateBoth := hboth.stored hcandidate
  have hfirst : Restarts env operatorTargetRevision (some provenance) lineage config store.database
      database :=
    restarts_of_copied hlineage hartifacts hadoptable hprovenance (refl_of _ _) rfl
      (fun _ _ hother ↦ .inl hother) hcandidate rfl
  have hsecond : Restarts env operatorTargetRevision (some provenance) lineage config
      store.database (database.write (.candidateSet candidate)) :=
    restarts_of_copied hlineage hartifacts hadoptable hprovenance hcopied rfl
      (fun _ _ hother ↦ .inl hother) (by rwa [StrategyDatabase.write_of_stored hcandidate])
      (by rw [StrategyDatabase.write_of_stored hcandidate])
  have hthird : Restarts env operatorTargetRevision (some provenance) lineage config
      store.database ((database.write (.candidateSet candidate)).write
        (.adoptableRevision adoptable)) :=
    restarts_of_copied hlineage hartifacts hadoptable hprovenance (trans_of _ hcopied hboth) rfl
      (fun _ _ hother ↦ hof.adoptable_of_copied hother)
      (by rwa [StrategyDatabase.write_of_stored hcandidateBoth])
      (by rw [StrategyDatabase.write_of_stored hcandidateBoth,
        StrategyDatabase.write_of_stored hadoptable])
  rcases StrategyStore.exec_upsertProvenance_eq_ok.mp hprovenance with ⟨-, rfl⟩ | ⟨hfresh, rfl⟩
  · simp only [List.prefix_cons_iff, List.prefix_nil] at hwritten
    rcases hwritten with rfl | ⟨_, rfl, rfl | ⟨_, rfl, rfl⟩⟩
    · exact hfirst
    · exact hsecond
    · exact hthird
  · change written <+: [_, _, _] at hwritten
    simp only [List.prefix_cons_iff, List.prefix_nil] at hwritten
    rcases hwritten with rfl | ⟨_, rfl, rfl | ⟨_, rfl, rfl | ⟨_, rfl, rfl⟩⟩⟩
    · exact hfirst
    · exact hsecond
    · exact hthird
    · -- all was written: the provenance that the first run added is read now
      exact restarts_of_written hartifacts hadoptable rfl hthird.1 hcandidateBoth hfresh

/-- Without a legacy provenance nothing is written. -/
theorem restarts_of_none {store : StrategyStore}
    (hlineage : migrationLineage env database operatorTargetRevision = .ok (none, lineage))
    (hrun : exec (writeLineage operatorTargetRevision none lineage)
      (.start database config) = (.ok ⟨⟩, { store, config }))
    {written : List StrategyWrite} (hwritten : written <+: store.writes) :
    Restarts env operatorTargetRevision none lineage config store.database
      (database.writeAll written) := by
  obtain ⟨-, store', hprovenance, heq⟩ := exec_writeLineage_none.mp hrun
  obtain rfl : store = store' := congrArg ControlPlane.store heq
  rcases StrategyStore.exec_upsertProvenance_eq_ok.mp hprovenance with ⟨-, rfl⟩ | ⟨hfresh, -⟩
  · obtain rfl := List.prefix_nil.mp hwritten
    exact ⟨hlineage, _, rfl, hrun⟩
  · obtain ⟨-, -, -, hlegacy, -⟩ := synthetic_of_fresh hlineage hfresh
    cases hlegacy

end Rerun

/-! ## The log of a run -/

/-- What was done to the database was written and is logged. -/
def ControlPlane.Logs (plane plane' : ControlPlane) : Prop := plane.store.Logs plane'.store

instance : Std.Refl ControlPlane.Logs := ⟨fun plane ↦ refl_of StrategyStore.Logs plane.store⟩

instance : IsTrans ControlPlane ControlPlane.Logs :=
  ⟨fun _ _ _ h h' ↦ trans_of StrategyStore.Logs h h'⟩

theorem logs_onStore {ε α : Type} {rename : ε → StrategyControlMigrationError}
    {command : Command ε StrategyStore α} (h : Within StrategyStore.Logs command) :
    Within ControlPlane.Logs (onStore rename command) :=
  within_focus_of h fun _ _ hlogs ↦ hlogs

theorem logs_writeLineage (operatorTargetRevision : String)
    (legacy : Option CandidateAdoptionProvenanceRow) (lineage : StrategyAdoptionProvenanceRow) :
    Within ControlPlane.Logs (writeLineage operatorTargetRevision legacy lineage) := by
  have hupsert : Within ControlPlane.Logs (onStore (fun error ↦ .persistence error.toString)
      (StrategyStore.upsertProvenance lineage)) :=
    logs_onStore StrategyStore.logs_upsertProvenance
  refine within_bind within_get fun plane ↦ ?_
  cases legacy with
  | some provenance =>
      refine within_bind within_lift fun artifacts ↦ ?_
      refine within_bind (logs_onStore StrategyStore.logs_materialize) fun _ ↦ ?_
      exact within_bind (logs_onStore StrategyStore.logs_materialize) fun _ ↦ hupsert
  | none => exact within_bind within_lift fun _ ↦ hupsert

/-- Every run, whatever its outcome, has logged what it wrote. -/
theorem logs_migrateLegacyTargetSource (env : MigrationEnv) :
    Within ControlPlane.Logs (migrateLegacyTargetSource env) := by
  refine within_bind within_get fun _ ↦ within_bind within_lift fun _ ↦ ?_
  refine within_bind within_get fun _ ↦ within_bind within_lift fun found ↦ ?_
  refine within_bind (logs_writeLineage _ _ _) fun _ ↦ ?_
  refine within_bind (within_focus fun plane _ ↦ refl_of StrategyStore.Logs plane.store) fun _ ↦ ?_
  exact within_pure

/-! ## Restarting -/

section Restart

variable (env : MigrationEnv) (database : StrategyDatabase) (config : ConfigFile)
  (outcome : MigrationOutcome) (final : ControlPlane)

/-- The migration of the database succeeds, with this outcome and in these rows. -/
def MigratesTo (rows : StrategyDatabase) : Prop :=
  ∃ plane, exec (migrateLegacyTargetSource env) (.start database config) = (.ok outcome, plane) ∧
    plane.store.database = rows

/-- **The migration is idempotent and safe to stop.**  It succeeds again on the rows it
ends with, and on those left by any of its writes, with the same outcome and the same
rows; and no run, successful or not, overwrites a row. -/
theorem migration_restartable
    (h : exec (migrateLegacyTargetSource env) (.start database config) = (.ok outcome, final)) :
    MigratesTo env final.store.database config outcome final.store.database ∧
    (∀ written, written <+: final.store.writes →
      MigratesTo env (database.writeAll written) config outcome final.store.database) ∧
    ∀ (database' : StrategyDatabase) (config' : ConfigFile), database'.Extends
      (exec (migrateLegacyTargetSource env) (.start database' config')).2.store.database := by
  have hstopped : ∀ written, written <+: final.store.writes →
      MigratesTo env (database.writeAll written) config outcome final.store.database := by
    intro written hwritten
    obtain ⟨operatorTargetRevision, legacy, lineage, store, config', hrevision, hlineage, hwrote,
      hconfig, rfl, rfl⟩ := exec_migrateLegacyTargetSource.mp h
    obtain ⟨hagain, store', hrows, hrewrote⟩ : Restarts env operatorTargetRevision legacy lineage
        config store.database (database.writeAll written) := by
      cases legacy with
      | some provenance => exact restarts_of_legacy hlineage hwrote hwritten
      | none => exact restarts_of_none hlineage hwrote hwritten
    refine ⟨{ store := store', config := config' }, ?_, hrows⟩
    exact exec_migrateLegacyTargetSource.mpr ⟨operatorTargetRevision, legacy, lineage, store',
      config', hrevision, hagain, hrewrote, hconfig, rfl, rfl⟩
  have hlogs := logs_migrateLegacyTargetSource env (.start database config)
  rw [h] at hlogs
  obtain ⟨writes, hwrites, hrows⟩ := hlogs
  have hfull : database.writeAll final.store.writes = final.store.database := by
    rw [hwrites, hrows]
    rfl
  refine ⟨?_, hstopped, fun database' config' ↦ ?_⟩
  · have hagain := hstopped final.store.writes List.prefix_rfl
    rwa [hfull] at hagain
  · exact (logs_migrateLegacyTargetSource env (.start database' config')).extends

end Restart

/-- Older tables that hold one lineage. -/
def legacyDatabase : StrategyDatabase :=
  { candidateTargetSets := KeyedTable.empty.insertNew
      { candidateRevision := "candidate-1", snapshotId := "snapshot-1"
        sourceRevision := "source-1", payload := .object [] }
    adoptableTargetRevisions := KeyedTable.empty.insertNew
      { adoptableRevision := "adoptable-1", candidateRevision := "candidate-1"
        renderedOperatorTargetRevision := "targets-rev-1", payload := .object [] }
    candidateAdoptionProvenance := KeyedTable.empty.insertNew
      { operatorTargetRevision := "targets-rev-1", adoptableRevision := "adoptable-1"
        candidateRevision := "candidate-1" }
    strategyCandidateSets := .empty
    adoptableStrategyRevisions := .empty
    strategyAdoptionProvenance := .empty }

/-- A file that names the target revision of the provenance. -/
def legacyConfig : ConfigFile :=
  { strategyControl := none
    targetSource := some { operatorTargetRevision := some "targets-rev-1" }
    targets := none }

def acceptingMigrationEnv : MigrationEnv := { validated := fun _ ↦ .ok (), jsonbText := fun _ ↦ "" }

/-- The run makes up a strategy revision for the target revision. -/
theorem migrated_legacy :
    ∃ final, exec (migrateLegacyTargetSource acceptingMigrationEnv)
        (.start legacyDatabase legacyConfig) =
      (.ok (outcomeOf (syntheticLineage "strategy-rev-1") .legacyTargetSource), final) := by
  have hlineage : migrationLineage acceptingMigrationEnv legacyDatabase "targets-rev-1" =
      .ok (some ⟨"targets-rev-1", "adoptable-1", "candidate-1"⟩, syntheticLineage "strategy-rev-1") := by
    refine migrationLineage_eq_ok.mpr ⟨"strategy-rev-1", none, none, by decide, ?_, ?_, ?_, ?_, rfl⟩
    · simp [loadExistingCanonicalTargetSourceMigration, legacyDatabase]
    · simp [StrategyDatabase.getByOperatorTargetRevision, StrategyDatabase.TargetLinked,
        legacyDatabase, KeyedTable.get?_insertNew]
    · simp [derivedLineage, persistenceError_eq_ok, legacyDatabase, KeyedTable.get?_insertNew,
        StrategyDatabase.getByOperatorStrategyRevision_eq_none]
    · simp
  obtain ⟨artifacts, hartifacts⟩ : ∃ artifacts, migratedArtifacts legacyDatabase "targets-rev-1"
      ⟨"targets-rev-1", "adoptable-1", "candidate-1"⟩ (syntheticLineage "strategy-rev-1") =
        .ok artifacts := by
    simp [migratedArtifacts, legacyDatabase, KeyedTable.get?_insertNew]
  refine ⟨_, exec_migrateLegacyTargetSource.mpr ⟨"targets-rev-1", _, _, _, _, by decide, hlineage,
    exec_writeLineage_some.mpr ⟨artifacts.1, artifacts.2, _, hartifacts, ?_, ?_,
      StrategyStore.exec_upsertProvenance_eq_ok.mpr (.inr ⟨?_, rfl⟩), rfl⟩, rfl, rfl, rfl⟩⟩
  · simp [ControlPlane.start, StrategyStore.insert, StrategyDatabase.write, legacyDatabase,
      KeyedTable.get?_insertNew]
  · simp [ControlPlane.start, StrategyStore.insert, StrategyDatabase.write, legacyDatabase,
      KeyedTable.get?_insertNew]
  · simp [ControlPlane.start, StrategyStore.insert, StrategyDatabase.write, legacyDatabase,
      syntheticLineage, StrategyDatabase.getByOperatorStrategyRevision_eq_none,
      KeyedTable.get?_insertNew]

/-- The run restarts after each of its writes. -/
theorem migration_restartable_legacy :
    ∃ final, MigratesTo acceptingMigrationEnv final legacyConfig
        (outcomeOf (syntheticLineage "strategy-rev-1") .legacyTargetSource) final ∧
      MigratesTo acceptingMigrationEnv legacyDatabase legacyConfig
        (outcomeOf (syntheticLineage "strategy-rev-1") .legacyTargetSource) final := by
  obtain ⟨final, hrun⟩ := migrated_legacy
  obtain ⟨hagain, hstopped, -⟩ := migration_restartable acceptingMigrationEnv legacyDatabase
    legacyConfig _ final hrun
  exact ⟨final.store.database, hagain, hstopped [] List.nil_prefix⟩

end AxiomArb.AppLive
