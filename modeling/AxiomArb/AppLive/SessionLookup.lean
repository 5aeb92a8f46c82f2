import AxiomArb.ConfigSchema.Validate
import AxiomArb.Library.Fallible
import AxiomArb.Library.OrderedMap
import AxiomArb.Persistence.RunSessions
import AxiomArb.Persistence.RuntimeProgress

/-!
# Status looks for the session of a run

A run records the state of its rollout when it starts.  Status computes that state again, for
the families that are adopted, and looks for a session that recorded it.  The two rules differ:
one approved and ready family is enough for the run, where status wants them all
(`session_found_iff`).

## Honest boundary

* The revision of targets that are listed in the configuration is a parameter: status looks for
  no session of such a configuration.
* The identifier of a session, the path of the configuration and its fingerprint are any texts.
-/

namespace AxiomArb.AppLive

open ConfigSchema Domain Library Persistence RunSessionRepo

variable {reader : ConfigReader}

/-! ## The session of a run -/

/-- The state of the rollout as a run records it. -/
def rolloutStateAtStart (config : RawAxiomConfig reader) : Option String :=
  if config.runtime.mode = .paper then none
  else
    match config.negriskRollout with
    | none => some "required"
    | some rollout =>
        let ready := rollout.approved.any fun family ↦ rollout.ready.any (· = family)
        some (if ready then "ready" else "required")

structure StartupRevisionSnapshot where
  targetSourceKind : String
  startupTargetRevisionAtStart : String
  configuredOperatorTargetRevision : Option String
  activeOperatorTargetRevisionAtStart : Option String
  configuredOperatorStrategyRevision : Option String
  activeOperatorStrategyRevisionAtStart : Option String
deriving DecidableEq, Repr

/-- What a run is started with beside its configuration. -/
structure RunStart where
  runSessionId : String
  invokedBy : String
  startedAt : DateTime
  configPath : String
  configFingerprint : String
  activeProgress : Option RuntimeProgressRow
  /-- The revision of the targets that the configuration lists. -/
  explicitRevision : Except String String

/-- The kind of source, the revision that is started and the target revision configured. -/
def startupSnapshotTargetSource (explicitRevision : Except String String)
    (config : RawAxiomConfig reader) : Except String (String × String × Option String) :=
  if config.runtime.mode = .paper then .ok ("explicit", "paper-runtime", none)
  else if config.hasAdoptedStrategySource then
    let configuredTarget := (config.targetSource.filter (·.source = .adopted)).bind
      NegRiskTargetSourceToml.operatorTargetRevision
    match configuredTarget <|> config.operatorStrategyRevision with
    | some startupRevision => .ok ("adopted", startupRevision, configuredTarget)
    | none => .error "adopted run session snapshot requires operator_strategy_revision"
  else explicitRevision.map fun revision ↦ ("explicit", revision, none)

def startupRevisionSnapshot (start : RunStart) (config : RawAxiomConfig reader) :
    Except String StartupRevisionSnapshot := do
  let (targetSourceKind, startupTargetRevisionAtStart, configuredOperatorTargetRevision) ←
    startupSnapshotTargetSource start.explicitRevision config
  return {
    targetSourceKind
    startupTargetRevisionAtStart
    configuredOperatorTargetRevision
    activeOperatorTargetRevisionAtStart :=
      start.activeProgress.bind RuntimeProgressRow.operatorTargetRevision
    configuredOperatorStrategyRevision :=
      if config.targetSource.isSome then none else config.operatorStrategyRevision
    activeOperatorStrategyRevisionAtStart :=
      start.activeProgress.bind RuntimeProgressRow.operatorStrategyRevision }

def buildStartingRow (start : RunStart) (config : RawAxiomConfig reader) :
    Except String RunSessionRow := do
  let snapshot ← startupRevisionSnapshot start config
  return {
    runSessionId := start.runSessionId
    invokedBy := start.invokedBy
    mode := match config.runtime.mode with
      | .paper => "paper"
      | .live => "live"
    state := .starting
    startedAt := start.startedAt
    lastSeenAt := start.startedAt
    endedAt := none
    exitStatus := none
    exitReason := none
    configPath := start.configPath
    configFingerprint := start.configFingerprint
    targetSourceKind := snapshot.targetSourceKind
    startupTargetRevisionAtStart := snapshot.startupTargetRevisionAtStart
    configuredOperatorTargetRevision := snapshot.configuredOperatorTargetRevision
    activeOperatorTargetRevisionAtStart := snapshot.activeOperatorTargetRevisionAtStart
    configuredOperatorStrategyRevision := snapshot.configuredOperatorStrategyRevision
    activeOperatorStrategyRevisionAtStart := snapshot.activeOperatorStrategyRevisionAtStart
    rolloutStateAtStart := rolloutStateAtStart config
    realUserShadowSmoke := config.runtime.realUserShadowSmoke }

/-! ## The lookup of status -/

def RUN_SESSION_STALE_AFTER : Int := 300

/-- Every family is approved and ready. -/
def rolloutCoversFamilies (config : RawAxiomConfig reader) (familyIds : BTreeSet String) : Bool :=
  match config.negriskRollout with
  | none => false
  | some rollout =>
      familyIds.toList.all fun familyId ↦ familyId ∈ rollout.approved ∧ familyId ∈ rollout.ready

def missingNeutralAdoptedStrategyRevision (config : RawAxiomConfig reader) : Bool :=
  config.hasAdoptedStrategySource && config.targetSource.isNone &&
    config.operatorStrategyRevision.isNone

/-- The revision that status reports as configured. -/
def statusConfiguredRevision (config : RawAxiomConfig reader) : Option String :=
  -- with a target source, the control plane reads the revision from the same file
  let state := if config.targetSource.isSome then config.operatorStrategyRevision else none
  match state with
  | some revision => some revision
  | none => if config.targetSource.isNone then config.operatorStrategyRevision else none

/-- The revision that startup resolves for an adopted source. -/
def resolvedOperatorTargetRevision (config : RawAxiomConfig reader) : Option String :=
  match config.targetSource.filter (·.source = .adopted) with
  | some targetSource => targetSource.operatorTargetRevision
  | none => config.operatorStrategyRevision

/-- What status looks for, once the adopted families are resolved; `none` where it reports
something else before it comes to the lookup. -/
def statusQuery (configPath configFingerprint : String) (config : RawAxiomConfig reader)
    (familyIds : BTreeSet String) : Option LatestRelevantQuery := do
  guard (config.runtime.mode = .live ∧ ¬config.isLegacyExplicitStrategyConfig ∧
    ¬missingNeutralAdoptedStrategyRevision config ∧ config.hasAdoptedStrategySource)
  let configuredRevision ← statusConfiguredRevision config
  let startupTargetRevision ← resolvedOperatorTargetRevision config
  return {
    mode := "live"
    configPath
    configFingerprint
    configuredTarget := if config.targetSource.isSome then some configuredRevision else none
    configuredStrategy := if config.targetSource.isSome then none else some configuredRevision
    startupTargetRevisionAtStart := startupTargetRevision
    rolloutState := if rolloutCoversFamilies config familyIds then some "ready" else some "required"
    staleAfter := RUN_SESSION_STALE_AFTER }

/-! ## Agreement -/

/-- All the families are approved and ready and there is such a family, or there is none and
some family is adopted; or there is no rollout. -/
def SameRollout (config : RawAxiomConfig reader) (familyIds : BTreeSet String) : Prop :=
  ∀ rollout ∈ config.negriskRollout,
    ((∃ family ∈ rollout.approved, family ∈ rollout.ready) ∧
        ∀ familyId ∈ familyIds, familyId ∈ rollout.approved ∧ familyId ∈ rollout.ready) ∨
      ((∀ family ∈ rollout.approved, family ∉ rollout.ready) ∧ ∃ familyId, familyId ∈ familyIds)

/-- A revision of the control is also that of the target source, if there is one. -/
def SameRevision (config : RawAxiomConfig reader) : Prop :=
  ∀ revision ∈ config.strategyControl.bind StrategyControlToml.operatorStrategyRevision,
    ∀ targetSource ∈ config.targetSource, targetSource.operatorTargetRevision = some revision

section Agreement

variable {config : RawAxiomConfig reader} {familyIds : BTreeSet String} {start : RunStart}
  {row : RunSessionRow} {query : LatestRelevantQuery}

/-- The one kind of source is the adopted one. -/
theorem filter_adopted (targetSource : Option NegRiskTargetSourceToml) :
    targetSource.filter (·.source = .adopted) = targetSource := by
  cases targetSource with
  | none => rfl
  | some targetSource =>
      have hadopted : targetSource.source = .adopted := by cases targetSource.source; rfl
      rw [Option.filter_some, if_pos (decide_eq_true hadopted)]

theorem rolloutStateAtStart_eq_iff (hlive : config.runtime.mode = .live) :
    rolloutStateAtStart config =
        (if rolloutCoversFamilies config familyIds then some "ready" else some "required") ↔
      SameRollout config familyIds := by
  rw [rolloutStateAtStart, rolloutCoversFamilies, SameRollout, hlive]
  cases config.negriskRollout with
  | none => exact iff_of_true rfl nofun
  | some rollout =>
      have hready : (rollout.approved.any fun family ↦ rollout.ready.any (· = family)) = true ↔
          ∃ family ∈ rollout.approved, family ∈ rollout.ready := by
        simp
      have hcovered : (familyIds.toList.all fun familyId ↦
          familyId ∈ rollout.approved ∧ familyId ∈ rollout.ready) = true ↔
            ∀ familyId ∈ familyIds, familyId ∈ rollout.approved ∧ familyId ∈ rollout.ready := by
        simp
      show some (if _ then "ready" else "required") = (if _ then some "ready" else some "required") ↔ _
      simp only [Option.mem_def, Option.some.injEq, forall_eq']
      by_cases hone : ∃ family ∈ rollout.approved, family ∈ rollout.ready
      · by_cases hall : ∀ familyId ∈ familyIds, familyId ∈ rollout.approved ∧
            familyId ∈ rollout.ready
        · rw [if_pos (hready.mpr hone), if_pos (hcovered.mpr hall)]
          exact iff_of_true rfl (.inl ⟨hone, hall⟩)
        · rw [if_pos (hready.mpr hone), if_neg (mt hcovered.mp hall)]
          refine iff_of_false (by decide) ?_
          rintro (⟨-, hall'⟩ | ⟨hnone, -⟩)
          · exact hall hall'
          · obtain ⟨family, happroved, hfamily⟩ := hone
            exact hnone family happroved hfamily
      · by_cases hall : ∀ familyId ∈ familyIds, familyId ∈ rollout.approved ∧
            familyId ∈ rollout.ready
        · rw [if_neg (mt hready.mp hone), if_pos (hcovered.mpr hall)]
          refine iff_of_false (by decide) ?_
          rintro (⟨hone', -⟩ | ⟨-, familyId, hfamily⟩)
          · exact hone hone'
          · exact hone ⟨familyId, hall familyId hfamily⟩
        · rw [if_neg (mt hready.mp hone), if_neg (mt hcovered.mp hall)]
          refine iff_of_true rfl (.inr ⟨fun family happroved hfamily ↦
            hone ⟨family, happroved, hfamily⟩, ?_⟩)
          obtain ⟨familyId, hfamily⟩ := not_forall.mp hall
          exact ⟨familyId, (Classical.not_imp.mp hfamily).1⟩

theorem statusConfiguredRevision_eq (config : RawAxiomConfig reader) :
    statusConfiguredRevision config = config.operatorStrategyRevision := by
  rw [statusConfiguredRevision]
  cases config.targetSource with
  | none => rfl
  | some targetSource =>
      cases config.operatorStrategyRevision with
      | none => rfl
      | some revision => rfl

/-- What status asks for, of a configuration that it looks a session up for. -/
theorem statusQuery_cases {configPath configFingerprint : String}
    (h : statusQuery configPath configFingerprint config familyIds = some query) :
    config.runtime.mode = .live ∧ config.hasAdoptedStrategySource ∧
      ∃ configuredRevision startupTargetRevision,
        config.persistedRevision = some configuredRevision ∧
        config.operatorStrategyRevision = some configuredRevision ∧
        (match config.targetSource with
          | some targetSource => targetSource.operatorTargetRevision
          | none => config.operatorStrategyRevision) = some startupTargetRevision ∧
        query =
          { mode := "live"
            configPath
            configFingerprint
            configuredTarget :=
              if config.targetSource.isSome then some configuredRevision else none
            configuredStrategy :=
              if config.targetSource.isSome then none else some configuredRevision
            startupTargetRevisionAtStart := startupTargetRevision
            rolloutState :=
              if rolloutCoversFamilies config familyIds then some "ready" else some "required"
            staleAfter := RUN_SESSION_STALE_AFTER } := by
  simp only [statusQuery, guard, statusConfiguredRevision_eq, Option.bind_eq_bind,
    Option.bind_eq_some_iff] at h
  obtain ⟨_, hguard, configuredRevision, hconfigured, startupTargetRevision, hstartup, hquery⟩ := h
  split_ifs at hguard with hlookup
  obtain ⟨hlive, hlegacy, -, hadopted⟩ := hlookup
  have hpersisted := hconfigured
  rw [RawAxiomConfig.operatorStrategyRevision, if_neg hlegacy] at hpersisted
  rw [resolvedOperatorTargetRevision, filter_adopted] at hstartup
  exact ⟨hlive, hadopted, configuredRevision, startupTargetRevision, hpersisted, hconfigured,
    hstartup, (Option.some.inj hquery).symm⟩

/-- The session that such a configuration starts. -/
theorem buildStartingRow_cases (hlive : config.runtime.mode = .live)
    (hadopted : config.hasAdoptedStrategySource) (h : buildStartingRow start config = .ok row) :
    row.state = .starting ∧ row.endedAt = none ∧ row.exitStatus = none ∧ row.exitReason = none ∧
      row.targetSourceKind = "adopted" ∧ row.mode = "live" ∧ row.configPath = start.configPath ∧
      row.configFingerprint = start.configFingerprint ∧
      row.rolloutStateAtStart = rolloutStateAtStart config ∧
      row.configuredOperatorTargetRevision =
        config.targetSource.bind NegRiskTargetSourceToml.operatorTargetRevision ∧
      row.configuredOperatorStrategyRevision =
        (if config.targetSource.isSome then none else config.operatorStrategyRevision) ∧
      (config.targetSource.bind NegRiskTargetSourceToml.operatorTargetRevision <|>
        config.operatorStrategyRevision) = some row.startupTargetRevisionAtStart := by
  obtain ⟨snapshot, hsnapshot, hrow⟩ := bind_eq_ok.mp h
  obtain ⟨⟨kind, startup, configured⟩, hsource, hfields⟩ := bind_eq_ok.mp hsnapshot
  obtain rfl := Except.ok.inj hrow
  obtain rfl := Except.ok.inj hfields
  rw [startupSnapshotTargetSource, if_neg (by rw [hlive]; decide), if_pos hadopted,
    filter_adopted] at hsource
  simp only at hsource
  split at hsource
  · rename_i revision hrevision
    obtain ⟨rfl, rfl, rfl⟩ : "adopted" = kind ∧ revision = startup ∧ _ = configured := by
      simpa using hsource
    refine ⟨rfl, rfl, rfl, rfl, rfl, ?_, rfl, rfl, rfl, rfl, rfl, hrevision⟩
    simp only [hlive]
  · cases hsource

section Started

variable (hrow : buildStartingRow start config = .ok row)
  (hquery : statusQuery start.configPath start.configFingerprint config familyIds = some query)

include hrow hquery

theorem rolloutState_eq_iff : row.rolloutStateAtStart = query.rolloutState ↔
    SameRollout config familyIds := by
  obtain ⟨hlive, hadopted, _, _, -, -, -, rfl⟩ := statusQuery_cases hquery
  obtain ⟨-, -, -, -, -, -, -, -, hrollout, -⟩ := buildStartingRow_cases hlive hadopted hrow
  rw [hrollout]
  exact rolloutStateAtStart_eq_iff hlive

/-- The session is what status asks for if its rollout is, and if the revision of the control is
that of the target source. -/
theorem matches_iff : query.Matches row ↔
    row.rolloutStateAtStart = query.rolloutState ∧ SameRevision config := by
  obtain ⟨hlive, hadopted, configured, startup, hpersisted, hconfigured, hstartup, rfl⟩ :=
    statusQuery_cases hquery
  obtain ⟨-, -, -, -, -, hmode, hpath, hfingerprint, -, htarget, hstrategy, hrowStartup⟩ :=
    buildStartingRow_cases hlive hadopted hrow
  rw [LatestRelevantQuery.Matches, hmode, hpath, hfingerprint, htarget, hstrategy, SameRevision]
  cases hsource : config.targetSource with
  | none =>
      rw [hsource] at hstartup hrowStartup
      have hsame : some row.startupTargetRevisionAtStart = some startup :=
        hrowStartup.symm.trans hstartup
      simp [Option.some.inj hsame, hconfigured]
  | some targetSource =>
      rw [hsource] at hstartup hrowStartup
      simp only at hstartup
      rw [Option.bind_some, hstartup] at hrowStartup
      rw [RawAxiomConfig.persistedRevision] at hpersisted
      have hlegacy : config.negrisk.bind NegRiskToml.targetSource = some targetSource := hsource
      rw [hlegacy, Option.bind_some, hstartup] at hpersisted
      have hsame : startup = row.startupTargetRevisionAtStart := Option.some.inj hrowStartup
      cases hcontrol : config.strategyControl.bind StrategyControlToml.operatorStrategyRevision with
      | none =>
          rw [hcontrol] at hpersisted
          simp [hstartup, hsame, ← Option.some.inj hpersisted]
      | some revision =>
          rw [hcontrol] at hpersisted
          obtain rfl := Option.some.inj hpersisted
          simp [hstartup, hsame, and_comm]

/-- The session can be recorded. -/
theorem createStarting_nil : createStarting row [] = .ok [row] := by
  obtain ⟨hlive, hadopted, configured, startup, -, hconfigured, hstartup, -⟩ :=
    statusQuery_cases hquery
  obtain ⟨hstate, hended, hstatus, hreason, hkind, -, -, -, -, htarget, hstrategy, -⟩ :=
    buildStartingRow_cases hlive hadopted hrow
  have hsome : ¬ (row.configuredOperatorTargetRevision = none ∧
      row.configuredOperatorStrategyRevision = none) := by
    rw [htarget, hstrategy, hconfigured]
    cases hsource : config.targetSource with
    | none => simp
    | some targetSource =>
        rw [hsource] at hstartup
        simp only at hstartup
        simp [hstartup]
  simp [createStarting, hstate, hended, hstatus, hreason, hkind, hsome]

/-- The session of a run is found by status, whatever happens to it, if the rollout that the run
recorded is the one that status computes. -/
theorem session_found_iff :
    (row.rolloutStateAtStart = query.rolloutState ∧
      ∀ sessions sessions', createStarting row sessions = .ok sessions' → ∀ ops now,
        (latestRelevant now query (run step sessions' ops)).isSome) ↔
      SameRollout config familyIds ∧ SameRevision config := by
  rw [rolloutState_eq_iff hrow hquery, and_congr_right_iff]
  intro hrollout
  have hmatches : query.Matches row ↔ SameRevision config := by
    rw [matches_iff hrow hquery, rolloutState_eq_iff hrow hquery]
    exact and_iff_right hrollout
  rw [← hmatches]
  constructor
  · intro hfound
    obtain ⟨latest, hlatest⟩ := Option.isSome_iff_exists.mp
      (hfound [] [row] (createStarting_nil hrow hquery) [] 0)
    have hmem := List.mem_filter.mp (mem_of_latestBy hlatest)
    rw [← List.mem_singleton.mp hmem.1]
    exact of_decide_eq_true hmem.2
  · intro hrowMatches sessions sessions' hcreate ops now
    obtain ⟨latest, hlatest, -⟩ :=
      exists_latestRelevant (kept_of_createStarting hcreate ops) hrowMatches
    rw [hlatest]
    rfl

end Started

end Agreement

/-- A live configuration of a strategy with a rollout of some families. -/
def sampleRolloutConfig (familyIds : List String) : RawAxiomConfig sampleReader where
  runtime := { mode := .live, realUserShadowSmoke := false }
  strategyControl := some
    { source := .adopted, operatorStrategyRevision := some "strategy-rev-12" }
  strategies := some
    { fullSet := none
      negRisk := some { enabled := true, rollout := some { approved := familyIds, ready := familyIds } } }
  polymarket := none
  negrisk := none

def sampleRunStart : RunStart where
  runSessionId := "run-session-1"
  invokedBy := "run"
  startedAt := 0
  configPath := "config/axiom-arb.local.toml"
  configFingerprint := "fingerprint-1"
  activeProgress := none
  explicitRevision := .error "invalid targets"

def sampleFamilies (familyIds : List String) : BTreeSet String := .ofList familyIds

theorem session_found_iff_covered : ∃ row query,
    buildStartingRow sampleRunStart (sampleRolloutConfig ["family-a"]) = .ok row ∧
    statusQuery sampleRunStart.configPath sampleRunStart.configFingerprint
      (sampleRolloutConfig ["family-a"]) (sampleFamilies ["family-a"]) = some query ∧
    row.rolloutStateAtStart = query.rolloutState ∧
    ∀ sessions sessions', createStarting row sessions = .ok sessions' → ∀ ops now,
      (latestRelevant now query (run step sessions' ops)).isSome := by
  obtain ⟨row, hrow⟩ : ∃ row, buildStartingRow sampleRunStart (sampleRolloutConfig ["family-a"]) =
      .ok row := ⟨_, rfl⟩
  obtain ⟨query, hquery⟩ : ∃ query, statusQuery sampleRunStart.configPath
      sampleRunStart.configFingerprint (sampleRolloutConfig ["family-a"])
      (sampleFamilies ["family-a"]) = some query := ⟨_, rfl⟩
  refine ⟨row, query, hrow, hquery, (session_found_iff hrow hquery).mpr ⟨?_, nofun⟩⟩
  rintro rollout ⟨⟩
  refine .inl ⟨⟨"family-a", by decide, by decide⟩, fun familyId hfamily ↦ ?_⟩
  obtain rfl : "family-a" = familyId := by simpa [sampleFamilies] using hfamily
  decide

/-- One covered family of two is enough for the run, and not for status. -/
theorem session_of_partial_rollout_lost :
    ¬ ∀ (start : RunStart) (config : RawAxiomConfig sampleReader) familyIds row query,
      buildStartingRow start config = .ok row →
      statusQuery start.configPath start.configFingerprint config familyIds = some query →
      row.rolloutStateAtStart = query.rolloutState ∧
      ∀ sessions sessions', createStarting row sessions = .ok sessions' → ∀ ops now,
        (latestRelevant now query (run step sessions' ops)).isSome := by
  intro hall
  obtain ⟨row, hrow⟩ : ∃ row, buildStartingRow sampleRunStart (sampleRolloutConfig ["family-a"]) =
      .ok row := ⟨_, rfl⟩
  obtain ⟨query, hquery⟩ : ∃ query, statusQuery sampleRunStart.configPath
      sampleRunStart.configFingerprint (sampleRolloutConfig ["family-a"])
      (sampleFamilies ["family-a", "family-b"]) = some query := ⟨_, rfl⟩
  have hsame := (rolloutState_eq_iff hrow hquery).mp (hall _ _ _ row query hrow hquery).1
  rcases hsame _ rfl with ⟨-, hcovered⟩ | ⟨hnone, -⟩
  · have hfamily := (hcovered "family-b" (by simp [sampleFamilies])).1
    revert hfamily
    decide
  · exact hnone "family-a" (by decide) (by decide)

end AxiomArb.AppLive
