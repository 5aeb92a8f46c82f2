import AxiomArb.AppLive.VerifyEvidence
import Mathlib.Logic.Relation

/-!
# The verdict of a verification

A window is judged as a whole, and in the smoke and the live mode once more for each route; the
verdict is the worst of these.  It is a pass only of a clean window, on whichever routes its rows
are, and no row that the mode forbids makes it better.
-/

namespace AxiomArb.AppLive.Verify

open Domain Library Std

/-! ## Words of the report -/

inductive VerifyScenario where
  | paper
  | live
  | realUserShadowSmoke
deriving DecidableEq, Repr

def VerifyScenario.label : VerifyScenario → String
  | .paper => "paper"
  | .live => "live"
  | .realUserShadowSmoke => "real-user shadow smoke"

inductive VerifyVerdict where
  | pass
  | passWithWarnings
  | fail
deriving DecidableEq, Repr

def VerifyVerdict.label : VerifyVerdict → String
  | .pass => "pass"
  | .passWithWarnings => "pass-with-warnings"
  | .fail => "fail"

inductive VerifyExpectation where
  | auto
  | paperNoLive
  | smokeShadowOnly
  | liveConfigConsistent
deriving DecidableEq, Repr

def VerifyExpectation.label : VerifyExpectation → String
  | .auto => "auto"
  | .paperNoLive => "paper-no-live"
  | .smokeShadowOnly => "smoke-shadow-only"
  | .liveConfigConsistent => "live-config-consistent"

inductive VerifyControlPlaneMode where
  | paper
  | live
  | realUserShadowSmoke
deriving DecidableEq, Repr

def VerifyControlPlaneMode.label : VerifyControlPlaneMode → String
  | .paper => "paper"
  | .live => "live"
  | .realUserShadowSmoke => "real-user shadow smoke"

inductive VerifyControlPlaneTargetSource where
  | legacyExplicitTargets
  | adoptedTargets
deriving DecidableEq, Repr

inductive VerifyControlPlaneRolloutState where
  | required
  | ready
deriving DecidableEq, Repr

inductive StatusMode where
  | paper
  | realUserShadowSmoke
  | live
deriving DecidableEq, Repr

inductive StatusAction where
  | runDiscover
  | inspectDiscoveryReasons
  | chooseAndAdoptRevision
  | runDoctor
  | runAppLiveApply
  | performControlledRestart
  | runAppLiveRun
  | fixBlockingIssueAndRerunStatus
  | enableSmokeRollout
  | enableLiveRollout
  | migrateLegacyExplicitTargets
deriving DecidableEq, Repr

def renderActionTemplateWithMode (action : StatusAction) (mode : Option StatusMode) : String :=
  match action with
  | .runDiscover => "app-live discover --config \x7bconfig\x7d"
  | .inspectDiscoveryReasons => "app-live targets candidates --config \x7bconfig\x7d"
  | .chooseAndAdoptRevision =>
      if mode = some .realUserShadowSmoke then "app-live apply --config \x7bconfig\x7d"
      else "app-live targets adopt --config \x7bconfig\x7d"
  | .runAppLiveApply => "app-live apply --config \x7bconfig\x7d"
  | .enableSmokeRollout => "app-live apply --config \x7bconfig\x7d"
  | .runAppLiveRun => "app-live run --config \x7bconfig\x7d"
  | .runDoctor => "app-live doctor --config \x7bconfig\x7d"
  | .performControlledRestart => "perform controlled restart"
  | .fixBlockingIssueAndRerunStatus =>
      "fix the blocking issue, then rerun app-live status --config \x7bconfig\x7d"
  | .enableLiveRollout =>
      "edit \x7bconfig\x7d and set [strategies.neg_risk.rollout].approved_scopes and " ++
        "ready_scopes for adopted scopes"
  | .migrateLegacyExplicitTargets => "app-live targets adopt --config \x7bconfig\x7d"

structure VerifyControlPlaneContext where
  mode : Option VerifyControlPlaneMode
  targetSource : Option VerifyControlPlaneTargetSource
  configuredTarget : Option String
  activeTarget : Option String
  rolloutState : Option VerifyControlPlaneRolloutState
deriving DecidableEq, Repr

structure VerifyContext where
  scenario : VerifyScenario
  expectation : VerifyExpectation
  activeRoutes : List String
  controlPlane : VerifyControlPlaneContext
  actions : List StatusAction
  reason : Option String
deriving DecidableEq, Repr

structure ConfigAnchorComparison where
  comparable : Bool
  reason : Option String
deriving DecidableEq, Repr

structure RouteVerdictReport where
  route : String
  verdict : VerifyVerdict
  reason : Option String
deriving DecidableEq, Repr

/-- A verdict, its reason and what to do next. -/
abbrev Outcome := VerifyVerdict × Option String × List String

section Actions

variable (context : VerifyContext)

def mapVerifyModeToStatus : Option VerifyControlPlaneMode → Option StatusMode
  | some .paper => some .paper
  | some .realUserShadowSmoke => some .realUserShadowSmoke
  | some .live => some .live
  | none => none

def statusActionLabel (action : StatusAction) (mode : Option VerifyControlPlaneMode) : String :=
  renderActionTemplateWithMode action (mapVerifyModeToStatus mode)

def nextActionsFromContext (fallback : List String) : List String :=
  let actions := context.actions.map (statusActionLabel · context.controlPlane.mode)
  if actions.isEmpty then fallback else actions

/-- No action is listed twice. -/
def nextActionsWithPrefix (first : String) (fallback : List String) : List String :=
  (nextActionsFromContext context fallback).foldl
    (fun actions action ↦ if actions.contains action then actions else actions ++ [action]) [first]

def statusFallback : List String := ["run app-live status --config \x7bconfig\x7d"]

def incompatibleExpectationOutcome : Option (String × List String) :=
  let conflict (expected : VerifyExpectation) : Option (String × List String) :=
    if context.expectation = expected then none
    else
      let expectation := context.expectation.label
      let scenario := context.scenario.label
      let expectedLabel := expected.label
      some (s!"expectation {expectation} is not compatible with {scenario} verification",
        [s!"rerun verify with --expect {expectedLabel}"])
  match context.controlPlane.mode with
  | some .paper => conflict .paperNoLive
  | some .realUserShadowSmoke => conflict .smokeShadowOnly
  | some .live => conflict .liveConfigConsistent
  | none => none

end Actions

/-! ## Counts -/

section Counts

variable (evidence : VerifyEvidenceWindow)

def selectedIn (mode : ExecutionMode) : List ExecutionAttemptWithCreatedAtRow :=
  evidence.attempts.filter (·.attempt.executionMode = mode)

def attemptIdsOf (rows : List ExecutionAttemptWithCreatedAtRow) : BTreeSet String :=
  .ofList (rows.map (·.attempt.attemptId))

def paperLiveAttemptCount : Nat :=
  (attemptIdsOf (evidence.observedLiveAttempts ++ selectedIn evidence .live)).size

def smokeLiveAttemptCount : Nat :=
  (attemptIdsOf (evidence.observedLiveAttempts ++ selectedIn evidence .live)).size

def liveAttemptCount : Nat := (attemptIdsOf (selectedIn evidence .live)).size

def liveShadowAttemptCount : Nat :=
  (attemptIdsOf (evidence.observedShadowAttempts ++ selectedIn evidence .shadow)).size

/-- The attempts that have an artifact to replay. -/
def replayedAttemptIds : BTreeSet String :=
  .ofList ((evidence.replayShadowAttemptArtifacts.filter (!·.artifacts.isEmpty)).map
    (·.attempt.attemptId))

def replayShadowAttemptCount : Nat := (replayedAttemptIds evidence).size

def shadowAttemptsHaveConsistentArtifacts : Bool :=
  let shadowAttemptIds := attemptIdsOf (selectedIn evidence .shadow)
  let shadowArtifactAttemptIds : BTreeSet String :=
    .ofList (evidence.shadowArtifacts.map (·.attemptId))
  let replayShadowArtifactAttemptIds := replayedAttemptIds evidence
  if shadowAttemptIds.isEmpty then !replayShadowArtifactAttemptIds.isEmpty
  else shadowAttemptIds.toList.all fun attemptId ↦
    shadowArtifactAttemptIds.contains attemptId || replayShadowArtifactAttemptIds.contains attemptId

def liveSideEffectCount : Nat :=
  smokeLiveAttemptCount evidence + rowCount evidence.liveArtifacts + rowCount evidence.liveSubmissions

def liveEvidenceCount : Nat :=
  liveAttemptCount evidence + rowCount evidence.liveArtifacts + rowCount evidence.liveSubmissions

end Counts

/-! ## Verdicts -/

section Outcomes

variable (context : VerifyContext) (comparison : ConfigAnchorComparison)
  (evidence : VerifyEvidenceWindow)

def evaluateLiveOutcome : Outcome :=
  let liveAttempts := liveAttemptCount evidence
  let shadowAttempts := liveShadowAttemptCount evidence
  if 0 < shadowAttempts then
    (.fail,
      some s!"contradictory local outcomes: observed {shadowAttempts} shadow attempt(s) in live verification",
      ["inspect the latest local execution attempts before rerunning verify"])
  else if liveEvidenceCount evidence = 0 then
    (.fail,
      some "contradictory local outcomes: no live results were observed for a live config",
      nextActionsFromContext context statusFallback)
  else if context.controlPlane.rolloutState = some .ready ∧
      context.controlPlane.configuredTarget = context.controlPlane.activeTarget then
    (.pass,
      some s!"live-config-consistent: {liveAttempts} live attempt(s) with aligned control-plane state",
      ["continue normal live operations"])
  else
    (.passWithWarnings,
      some s!"live results are locally consistent but readiness remains incomplete; live attempts: {liveAttempts}",
      nextActionsFromContext context statusFallback)

def evaluateSmokeOutcome : Outcome :=
  let selectedShadowAttempts := (selectedIn evidence .shadow).length
  let replayShadowAttempts := replayShadowAttemptCount evidence
  let liveSideEffects := liveSideEffectCount evidence
  if 0 < liveSideEffects then
    (.fail,
      some s!"credible live strategy attempts: observed {liveSideEffects} live side effect(s)",
      ["stop live activity and inspect recent local execution state"])
  else if ¬(0 < selectedShadowAttempts ∨ 0 < replayShadowAttempts) then
    (.fail, some "no credible run evidence exists", nextActionsFromContext context statusFallback)
  else if shadowAttemptsHaveConsistentArtifacts evidence then
    let credible := if 0 < selectedShadowAttempts then selectedShadowAttempts else replayShadowAttempts
    (.pass, some s!"shadow smoke evidence is complete; shadow attempts: {credible}",
      nextActionsFromContext context statusFallback)
  else if context.controlPlane.rolloutState = some .required then
    (.passWithWarnings, some "rollout not ready; smoke run produced no shadow work",
      nextActionsFromContext context statusFallback)
  else
    (.fail, some "no credible run evidence exists", nextActionsFromContext context statusFallback)

def evaluatePaperOutcome : Outcome :=
  let forbidden := paperLiveAttemptCount evidence
  if 0 < forbidden then
    (.fail, some s!"forbidden live side effects: observed {forbidden} live attempt(s)",
      ["stop live activity and inspect recent local execution state"])
  else
    (.passWithWarnings,
      some ("paper verification is conservative: no forbidden live side effects were observed, " ++
        "but basic run evidence is incomplete"),
      nextActionsFromContext context statusFallback)

def evaluateNoncomparableHistoricalOutcome : Outcome :=
  match context.controlPlane.mode with
  | some .paper => evaluatePaperOutcome context evidence
  | some .realUserShadowSmoke =>
      let liveSideEffects := liveSideEffectCount evidence
      if 0 < liveSideEffects then
        (.fail,
          some s!"credible live strategy attempts: observed {liveSideEffects} live side effect(s)",
          ["stop live activity and inspect recent local execution state"])
      else if ¬(0 < (selectedIn evidence .shadow).length ∨
          evidence.replayShadowAttemptArtifacts.isEmpty = false) then
        (.fail, some "no credible run evidence exists",
          nextActionsFromContext context statusFallback)
      else
        (.passWithWarnings, comparison.reason, nextActionsWithPrefix context
          "rerun verify without an explicit historical window" statusFallback)
  | some .live =>
      let shadowAttempts := liveShadowAttemptCount evidence
      if 0 < shadowAttempts then
        (.fail,
          some s!"contradictory local outcomes: observed {shadowAttempts} shadow attempt(s) in live verification",
          ["inspect the latest local execution attempts before rerunning verify"])
      else if ¬(0 < liveEvidenceCount evidence ∨ 0 < shadowAttempts ∨
          evidence.journal.isEmpty = false) then
        (.fail, some "no credible run evidence exists",
          nextActionsFromContext context statusFallback)
      else
        (.passWithWarnings, comparison.reason, nextActionsWithPrefix context
          "rerun verify without an explicit historical window" statusFallback)
  | none =>
      (.passWithWarnings, comparison.reason, ["rerun verify without an explicit historical window"])

def evaluateFoundationOutcome : Outcome :=
  if context.controlPlane.targetSource = some .legacyExplicitTargets then
    (.fail,
      some (context.reason.getD "legacy explicit targets are not supported in verify"),
      ["migrate to adopted target source or use lower-level commands"])
  else match incompatibleExpectationOutcome context with
  | some (reason, nextActions) => (.fail, some reason, nextActions)
  | none =>
      if !comparison.comparable then
        evaluateNoncomparableHistoricalOutcome context comparison evidence
      else match context.controlPlane.mode with
      | some .paper => evaluatePaperOutcome context evidence
      | some .realUserShadowSmoke => evaluateSmokeOutcome context evidence
      | some .live => evaluateLiveOutcome context evidence
      | none =>
          (.fail,
            context.reason <|>
              some "verify verdict rules beyond control-plane foundation are not implemented yet",
            statusFallback)

/-- The report on one route, if there is one. -/
def routeVerdictReport (mode : VerifyControlPlaneMode) (route : String) :
    Option RouteVerdictReport :=
  let routeEvidence := windowForRoute evidence route
  let report (outcome : Outcome) : RouteVerdictReport :=
    { route := route, verdict := outcome.1, reason := outcome.2.1 }
  if routeHasLocalEvidence routeEvidence then
    match mode with
    | .live => some (report (evaluateLiveOutcome context routeEvidence))
    | .realUserShadowSmoke => some (report (evaluateSmokeOutcome context routeEvidence))
    | .paper => some (report (evaluatePaperOutcome context routeEvidence))
  else if mode = .realUserShadowSmoke then none
  else some (report (.passWithWarnings,
    some s!"no local evidence observed for active route {route}",
    nextActionsFromContext context statusFallback))

def routeVerdictReports : List RouteVerdictReport :=
  if context.controlPlane.targetSource = some .legacyExplicitTargets then []
  else if (incompatibleExpectationOutcome context).isSome then []
  else if !comparison.comparable then []
  else match context.controlPlane.mode with
  | none => []
  | some .paper => []
  | some mode => (routesToEvaluate evidence context.activeRoutes).toList.filterMap
      (routeVerdictReport context evidence mode)

end Outcomes

def aggregateVerdicts (verdicts : List VerifyVerdict) : VerifyVerdict :=
  if verdicts.any (· = .fail) then .fail
  else if verdicts.any (· = .passWithWarnings) then .passWithWarnings
  else .pass

def aggregateRouteVerdict (reports : List RouteVerdictReport) : VerifyVerdict :=
  aggregateVerdicts (reports.map (·.verdict))

def routeSummaryReason (reports : List RouteVerdictReport) : Option String :=
  let primaryReason := ((reports.find? (·.verdict = .fail)).or
    (reports.find? (·.verdict = .passWithWarnings))).bind (·.reason)
  let listed := ", ".intercalate (reports.map fun report ↦ report.route ++ "=" ++ report.verdict.label)
  let suffix := (primaryReason.map ("; " ++ ·)).getD ""
  some s!"route verdicts: {listed}{suffix}"

def verdictRank : VerifyVerdict → Nat
  | .pass => 0
  | .passWithWarnings => 1
  | .fail => 2

def evaluateOutcomeWithRouteReports (context : VerifyContext) (comparison : ConfigAnchorComparison)
    (evidence : VerifyEvidenceWindow) :
    VerifyVerdict × Option String × List String × List RouteVerdictReport :=
  let foundation := evaluateFoundationOutcome context comparison evidence
  let reports := routeVerdictReports context comparison evidence
  if reports.isEmpty then (foundation.1, foundation.2.1, foundation.2.2, [])
  else
    let routeVerdict := aggregateRouteVerdict reports
    let routeReason := routeSummaryReason reports
    let verdict := aggregateVerdicts [foundation.1, routeVerdict]
    if verdictRank foundation.1 < verdictRank routeVerdict then
      (verdict, routeReason <|> foundation.2.1, nextActionsFromContext context statusFallback, reports)
    else
      (verdict, foundation.2.1 <|> routeReason, foundation.2.2, reports)

/-! ## What is counted -/

section Counted

variable {evidence : VerifyEvidenceWindow} {mode : ExecutionMode}
  {rows : List ExecutionAttemptWithCreatedAtRow} {row : ExecutionAttemptWithCreatedAtRow}

theorem mem_selectedIn :
    row ∈ selectedIn evidence mode ↔ row ∈ evidence.attempts ∧ row.attempt.executionMode = mode := by
  simp only [selectedIn, List.mem_filter, decide_eq_true_eq]

/-- Rows count, however their attempts are named. -/
theorem size_attemptIdsOf_pos_iff : 0 < (attemptIdsOf rows).size ↔ ∃ row, row ∈ rows := by
  rw [attemptIdsOf, Nat.pos_iff_ne_zero, Ne, ← ExtTreeSet.eq_empty_iff_size_eq_zero,
    ExtTreeSet.ofList_eq_empty_iff, List.map_eq_nil_iff, List.eq_nil_iff_forall_not_mem,
    not_forall_not]

/-- A live attempt of the window: one that was selected, or observed besides. -/
def LiveAttempt (evidence : VerifyEvidenceWindow) (row : ExecutionAttemptWithCreatedAtRow) : Prop :=
  row ∈ evidence.observedLiveAttempts ∨
    row ∈ evidence.attempts ∧ row.attempt.executionMode = .live

/-- A shadow attempt of the window: one that was selected, or observed besides. -/
def ShadowAttempt (evidence : VerifyEvidenceWindow) (row : ExecutionAttemptWithCreatedAtRow) :
    Prop :=
  row ∈ evidence.observedShadowAttempts ∨
    row ∈ evidence.attempts ∧ row.attempt.executionMode = .shadow

theorem liveShadowAttemptCount_pos_iff :
    0 < liveShadowAttemptCount evidence ↔ ∃ row, ShadowAttempt evidence row := by
  simp only [liveShadowAttemptCount, size_attemptIdsOf_pos_iff, List.mem_append, mem_selectedIn,
    ShadowAttempt]

/-- What smoke forbids: an attempt, an artifact or a submission that is live. -/
def LiveSideEffect (evidence : VerifyEvidenceWindow) : Prop :=
  (∃ row, LiveAttempt evidence row) ∨ (∃ attemptId row, Filed evidence.liveArtifacts attemptId row) ∨
    ∃ attemptId row, Filed evidence.liveSubmissions attemptId row

theorem liveSideEffectCount_pos_iff : 0 < liveSideEffectCount evidence ↔ LiveSideEffect evidence := by
  have hattempts : 0 < smokeLiveAttemptCount evidence ↔ ∃ row, LiveAttempt evidence row := by
    simp only [smokeLiveAttemptCount, size_attemptIdsOf_pos_iff, List.mem_append, mem_selectedIn,
      LiveAttempt]
  rw [LiveSideEffect, ← hattempts, ← rowCount_pos_iff, ← rowCount_pos_iff, liveSideEffectCount]
  omega

/-- A selected live attempt, or an artifact or a submission of any attempt. -/
def LiveEvidence (evidence : VerifyEvidenceWindow) : Prop :=
  (∃ row ∈ evidence.attempts, row.attempt.executionMode = .live) ∨
    (∃ attemptId row, Filed evidence.liveArtifacts attemptId row) ∨
      ∃ attemptId row, Filed evidence.liveSubmissions attemptId row

theorem liveEvidenceCount_pos_iff : 0 < liveEvidenceCount evidence ↔ LiveEvidence evidence := by
  have hattempts : 0 < liveAttemptCount evidence ↔
      ∃ row ∈ evidence.attempts, row.attempt.executionMode = .live := by
    simp only [liveAttemptCount, size_attemptIdsOf_pos_iff, mem_selectedIn]
  rw [LiveEvidence, ← hattempts, ← rowCount_pos_iff, ← rowCount_pos_iff, liveEvidenceCount]
  omega

/-- The attempt has an artifact of its shadow run, or one to replay. -/
def HasShadowArtifact (evidence : VerifyEvidenceWindow) (attemptId : String) : Prop :=
  (∃ artifact ∈ evidence.shadowArtifacts, artifact.attemptId = attemptId) ∨
    ∃ replayed ∈ evidence.replayShadowAttemptArtifacts,
      replayed.artifacts ≠ [] ∧ replayed.attempt.attemptId = attemptId

theorem mem_replayedAttemptIds_iff {attemptId : String} :
    attemptId ∈ replayedAttemptIds evidence ↔
      ∃ replayed ∈ evidence.replayShadowAttemptArtifacts,
        replayed.artifacts ≠ [] ∧ replayed.attempt.attemptId = attemptId := by
  rw [replayedAttemptIds, mem_ofList_iff, List.mem_map]
  simp only [List.mem_filter, Bool.not_eq_true', List.isEmpty_eq_false_iff, and_assoc]

theorem hasShadowArtifact_of_consistent (h : shadowAttemptsHaveConsistentArtifacts evidence)
    (hrow : row ∈ evidence.attempts) (hmode : row.attempt.executionMode = .shadow) :
    HasShadowArtifact evidence row.attempt.attemptId := by
  have hmem : row.attempt.attemptId ∈ attemptIdsOf (selectedIn evidence .shadow) :=
    mem_ofList_iff.mpr (List.mem_map_of_mem (mem_selectedIn.mpr ⟨hrow, hmode⟩))
  have hne : (attemptIdsOf (selectedIn evidence .shadow)).isEmpty = false := by
    rw [ExtTreeSet.isEmpty_eq_false_iff]
    intro hempty
    rw [hempty] at hmem
    exact ExtTreeSet.not_mem_empty hmem
  simp only [shadowAttemptsHaveConsistentArtifacts, hne, Bool.false_eq_true, if_false] at h
  have hcovered := List.all_eq_true.mp h _ (ExtTreeSet.mem_toList.mpr hmem)
  rcases (Bool.or_eq_true _ _).mp hcovered with hartifact | hreplayed
  · left
    rw [ExtTreeSet.contains_iff_mem, mem_ofList_iff] at hartifact
    obtain ⟨artifact, hartifact, heq⟩ := List.mem_map.mp hartifact
    exact ⟨artifact, hartifact, heq⟩
  · exact .inr (mem_replayedAttemptIds_iff.mp (ExtTreeSet.contains_iff_mem.mp hreplayed))

end Counted

/-! ## Verdicts of a window -/

section Verdicts

variable {context : VerifyContext} {comparison : ConfigAnchorComparison}
  {evidence : VerifyEvidenceWindow}

theorem evaluateLiveOutcome_eq_pass_iff :
    (evaluateLiveOutcome context evidence).1 = .pass ↔
      (∀ row, ¬ShadowAttempt evidence row) ∧ LiveEvidence evidence ∧
        context.controlPlane.rolloutState = some .ready ∧
          context.controlPlane.configuredTarget = context.controlPlane.activeTarget := by
  rw [← not_exists, ← liveShadowAttemptCount_pos_iff, ← liveEvidenceCount_pos_iff,
    evaluateLiveOutcome]
  by_cases hshadow : 0 < liveShadowAttemptCount evidence
  · simp [hshadow]
  rw [if_neg hshadow]
  by_cases hnone : liveEvidenceCount evidence = 0
  · simp [hnone]
  rw [if_neg hnone]
  have hpos : 0 < liveEvidenceCount evidence := Nat.pos_of_ne_zero hnone
  split
  · rename_i hready
    exact ⟨fun _ ↦ ⟨hshadow, hpos, hready⟩, fun _ ↦ rfl⟩
  · rename_i hready
    exact ⟨(nomatch ·), fun h ↦ absurd h.2.2 hready⟩

theorem evaluateLiveOutcome_eq_fail (h : ∃ row, ShadowAttempt evidence row) :
    (evaluateLiveOutcome context evidence).1 = .fail := by
  simp only [evaluateLiveOutcome, if_pos (liveShadowAttemptCount_pos_iff.mpr h)]

theorem evaluateSmokeOutcome_clean (h : (evaluateSmokeOutcome context evidence).1 = .pass) :
    ¬LiveSideEffect evidence ∧ shadowAttemptsHaveConsistentArtifacts evidence := by
  rw [← liveSideEffectCount_pos_iff]
  rw [evaluateSmokeOutcome] at h
  dsimp only at h
  by_cases hlive : 0 < liveSideEffectCount evidence
  · rw [if_pos hlive] at h
    cases h
  refine ⟨hlive, ?_⟩
  rw [if_neg hlive] at h
  split at h
  · cases h
  · split at h
    · assumption
    · split at h <;> cases h

theorem evaluateSmokeOutcome_eq_fail (h : LiveSideEffect evidence) :
    (evaluateSmokeOutcome context evidence).1 = .fail := by
  simp only [evaluateSmokeOutcome, if_pos (liveSideEffectCount_pos_iff.mpr h)]

theorem evaluatePaperOutcome_ne_pass : (evaluatePaperOutcome context evidence).1 ≠ .pass := by
  rw [evaluatePaperOutcome]
  split <;> simp

/-- An old window is never passed. -/
theorem evaluateNoncomparableHistoricalOutcome_ne_pass :
    (evaluateNoncomparableHistoricalOutcome context comparison evidence).1 ≠ .pass := by
  rw [evaluateNoncomparableHistoricalOutcome]
  cases context.controlPlane.mode with
  | none => simp
  | some mode =>
      cases mode with
      | paper => exact evaluatePaperOutcome_ne_pass
      | live =>
          dsimp only
          split
          · simp
          · split <;> simp
      | realUserShadowSmoke =>
          dsimp only
          split
          · simp
          · split <;> simp

/-- What a mode forbids in a window. -/
def Forbidden (evidence : VerifyEvidenceWindow) : VerifyControlPlaneMode → Prop
  | .live => ∃ row, ShadowAttempt evidence row
  | .realUserShadowSmoke => LiveSideEffect evidence
  | .paper => False

theorem evaluateNoncomparableHistoricalOutcome_eq_fail {mode : VerifyControlPlaneMode}
    (hmode : context.controlPlane.mode = some mode) (h : Forbidden evidence mode) :
    (evaluateNoncomparableHistoricalOutcome context comparison evidence).1 = .fail := by
  rw [evaluateNoncomparableHistoricalOutcome, hmode]
  cases mode with
  | paper => cases h
  | live => exact congrArg Prod.fst (if_pos (liveShadowAttemptCount_pos_iff.mpr h))
  | realUserShadowSmoke => exact congrArg Prod.fst (if_pos (liveSideEffectCount_pos_iff.mpr h))

/-- Whatever else is the case, a window that holds what its mode forbids is failed. -/
theorem evaluateFoundationOutcome_eq_fail {mode : VerifyControlPlaneMode}
    (hmode : context.controlPlane.mode = some mode) (h : Forbidden evidence mode) :
    (evaluateFoundationOutcome context comparison evidence).1 = .fail := by
  rw [evaluateFoundationOutcome]
  split
  · rfl
  split
  · rfl
  split
  · exact evaluateNoncomparableHistoricalOutcome_eq_fail hmode h
  rw [hmode]
  cases mode with
  | paper => cases h
  | live => exact evaluateLiveOutcome_eq_fail h
  | realUserShadowSmoke => exact evaluateSmokeOutcome_eq_fail h

/-- What is passed as a whole was judged by its mode, and compared without a conflict. -/
theorem of_evaluateFoundationOutcome_eq_pass
    (h : (evaluateFoundationOutcome context comparison evidence).1 = .pass) :
    context.controlPlane.targetSource ≠ some .legacyExplicitTargets ∧
      incompatibleExpectationOutcome context = none ∧ comparison.comparable = true ∧
        (context.controlPlane.mode = some .realUserShadowSmoke ∧
            (evaluateSmokeOutcome context evidence).1 = .pass ∨
          context.controlPlane.mode = some .live ∧
            (evaluateLiveOutcome context evidence).1 = .pass) := by
  rw [evaluateFoundationOutcome] at h
  split at h
  · cases h
  rename_i hsource
  split at h
  · cases h
  rename_i hconflict
  split at h
  · exact absurd h evaluateNoncomparableHistoricalOutcome_ne_pass
  rename_i hcomparable
  refine ⟨hsource, hconflict, by simpa using hcomparable, ?_⟩
  split at h
  · exact absurd h evaluatePaperOutcome_ne_pass
  · exact .inl ⟨‹_›, h⟩
  · exact .inr ⟨‹_›, h⟩
  · cases h

end Verdicts

/-! ## The worst of several verdicts -/

section Aggregates

variable {verdicts : List VerifyVerdict}

theorem aggregateVerdicts_eq_pass_iff : aggregateVerdicts verdicts = .pass ↔ ∀ v ∈ verdicts, v = .pass := by
  simp only [aggregateVerdicts, List.any_eq_true, decide_eq_true_eq, exists_eq_right]
  constructor
  · intro h v hv
    cases v with
    | pass => rfl
    | passWithWarnings =>
        rw [if_pos hv] at h
        split at h <;> cases h
    | fail =>
        rw [if_pos hv] at h
        cases h
  · intro h
    have hfail : .fail ∉ verdicts := fun hv ↦ absurd (h _ hv) (by decide)
    have hwarnings : .passWithWarnings ∉ verdicts := fun hv ↦ absurd (h _ hv) (by decide)
    rw [if_neg hfail, if_neg hwarnings]

theorem aggregateVerdicts_eq_fail (h : .fail ∈ verdicts) : aggregateVerdicts verdicts = .fail :=
  if_pos (List.any_eq_true.mpr ⟨_, h, decide_eq_true rfl⟩)

variable {context : VerifyContext} {comparison : ConfigAnchorComparison}
  {evidence : VerifyEvidenceWindow}

theorem evaluateOutcomeWithRouteReports_fst :
    (evaluateOutcomeWithRouteReports context comparison evidence).1 =
      if (routeVerdictReports context comparison evidence).isEmpty then
        (evaluateFoundationOutcome context comparison evidence).1
      else aggregateVerdicts [(evaluateFoundationOutcome context comparison evidence).1,
        aggregateRouteVerdict (routeVerdictReports context comparison evidence)] := by
  rw [evaluateOutcomeWithRouteReports]
  dsimp only
  split
  · rfl
  · split <;> rfl

/-- The window as a whole and each of its routes have to pass. -/
theorem evaluateOutcomeWithRouteReports_eq_pass_iff :
    (evaluateOutcomeWithRouteReports context comparison evidence).1 = .pass ↔
      (evaluateFoundationOutcome context comparison evidence).1 = .pass ∧
        ∀ report ∈ routeVerdictReports context comparison evidence, report.verdict = .pass := by
  rw [evaluateOutcomeWithRouteReports_fst]
  split
  · rename_i hempty
    rw [List.isEmpty_iff.mp hempty]
    simp
  · rw [aggregateVerdicts_eq_pass_iff, List.forall_mem_cons, List.forall_mem_singleton,
      aggregateRouteVerdict, aggregateVerdicts_eq_pass_iff, List.forall_mem_map]

theorem evaluateOutcomeWithRouteReports_eq_fail
    (h : (evaluateFoundationOutcome context comparison evidence).1 = .fail) :
    (evaluateOutcomeWithRouteReports context comparison evidence).1 = .fail := by
  rw [evaluateOutcomeWithRouteReports_fst, h, ite_eq_left_iff]
  exact fun _ ↦ aggregateVerdicts_eq_fail (List.mem_cons_self ..)

end Aggregates

/-! ## Clean windows -/

/-- A window that smoke may pass. -/
structure CleanSmoke (evidence : VerifyEvidenceWindow) : Prop where
  noLiveSideEffect : ¬LiveSideEffect evidence
  hasShadowArtifact : ∀ row ∈ evidence.attempts, row.attempt.executionMode = .shadow →
    HasShadowArtifact evidence row.attempt.attemptId

/-- A route has live evidence of its own: a selected live attempt on it, an artifact of an
attempt on it, or a submission on it. -/
def LiveEvidenceOn (evidence : VerifyEvidenceWindow) (route : String) : Prop :=
  (∃ row ∈ evidence.attempts, row.attempt.route = route ∧ row.attempt.executionMode = .live) ∨
    (∃ attemptId ∈ attemptIdsOnRoute evidence route, ∃ row,
        Filed evidence.liveArtifacts attemptId row) ∨
      ∃ attemptId row, Filed evidence.liveSubmissions attemptId row ∧ row.route = route

/-- A window that a live verification may pass, together with its context. -/
structure CleanLive (context : VerifyContext) (evidence : VerifyEvidenceWindow) : Prop where
  noShadowAttempt : ∀ row, ¬ShadowAttempt evidence row
  ready : context.controlPlane.rolloutState = some .ready
  aligned : context.controlPlane.configuredTarget = context.controlPlane.activeTarget
  liveEvidenceOn : ∀ route, Judged evidence context.activeRoutes route →
    LiveEvidenceOn evidence route

/-- No other mode passes at all. -/
def Clean (context : VerifyContext) (evidence : VerifyEvidenceWindow) : Prop :=
  match context.controlPlane.mode with
  | some .realUserShadowSmoke => CleanSmoke evidence
  | some .live => CleanLive context evidence
  | some .paper | none => False

section Clean

variable {context : VerifyContext} {comparison : ConfigAnchorComparison}
  {evidence : VerifyEvidenceWindow} {route : String}

/-- What the part of a route shows is on that route in the whole window. -/
theorem liveEvidenceOn_of_windowForRoute (h : LiveEvidence (windowForRoute evidence route)) :
    LiveEvidenceOn evidence route := by
  rcases h with ⟨row, hrow, hmode⟩ | ⟨attemptId, row, hrow⟩ | ⟨attemptId, row, hrow⟩
  · obtain ⟨hrow, hroute⟩ := List.mem_filter.mp hrow
    exact .inl ⟨row, hrow, eq_of_beq hroute, hmode⟩
  · obtain ⟨hattempt, hrow⟩ := filed_liveArtifacts_windowForRoute hrow
    exact .inr (.inl ⟨attemptId, hattempt, row, hrow⟩)
  · obtain ⟨hroute, hrow⟩ := filed_liveSubmissions_windowForRoute hrow
    exact .inr (.inr ⟨attemptId, row, hrow, hroute⟩)

/-- A live report that passes is on a route with live evidence; a route with no evidence at all
is reported with a warning. -/
theorem exists_report_of_live (context : VerifyContext) (evidence : VerifyEvidenceWindow)
    (route : String) :
    ∃ report, routeVerdictReport context evidence .live route = some report ∧
      (report.verdict = .pass → LiveEvidenceOn evidence route) := by
  rw [routeVerdictReport]
  dsimp only
  split
  · refine ⟨_, rfl, fun hpass ↦ ?_⟩
    exact liveEvidenceOn_of_windowForRoute (evaluateLiveOutcome_eq_pass_iff.mp hpass).2.1
  · exact ⟨_, rfl, (nomatch ·)⟩

theorem clean_of_pass
    (h : (evaluateOutcomeWithRouteReports context comparison evidence).1 = .pass) :
    Clean context evidence := by
  obtain ⟨hfoundation, hreports⟩ := evaluateOutcomeWithRouteReports_eq_pass_iff.mp h
  obtain ⟨hsource, hconflict, hcomparable, ⟨hmode, hsmoke⟩ | ⟨hmode, hlive⟩⟩ :=
    of_evaluateFoundationOutcome_eq_pass hfoundation
  · rw [Clean, hmode]
    obtain ⟨hclean, hconsistent⟩ := evaluateSmokeOutcome_clean hsmoke
    exact ⟨hclean, fun row hrow hshadow ↦ hasShadowArtifact_of_consistent hconsistent hrow hshadow⟩
  · rw [Clean, hmode]
    obtain ⟨hshadow, -, hready, haligned⟩ := evaluateLiveOutcome_eq_pass_iff.mp hlive
    refine ⟨hshadow, hready, haligned, fun route hroute ↦ ?_⟩
    obtain ⟨report, hreport, hevidence⟩ := exists_report_of_live context evidence route
    refine hevidence (hreports report ?_)
    rw [routeVerdictReports, if_neg hsource, hconflict, hcomparable, hmode]
    exact List.mem_filterMap.mpr
      ⟨route, ExtTreeSet.mem_toList.mpr (mem_routesToEvaluate_iff.mpr hroute), hreport⟩

end Clean

/-! ## Forbidden rows -/

/-- One row that the mode forbids is added, anywhere among the rows of its kind. -/
inductive AddsForbidden :
    VerifyControlPlaneMode → VerifyEvidenceWindow → VerifyEvidenceWindow → Prop
  | selectedShadow {evidence before after row} (hrows : evidence.attempts = before ++ after)
      (hmode : row.attempt.executionMode = .shadow) :
      AddsForbidden .live evidence { evidence with attempts := before ++ row :: after }
  | observedShadow {evidence before after row}
      (hrows : evidence.observedShadowAttempts = before ++ after) :
      AddsForbidden .live evidence
        { evidence with observedShadowAttempts := before ++ row :: after }
  | selectedLive {evidence before after row} (hrows : evidence.attempts = before ++ after)
      (hmode : row.attempt.executionMode = .live) :
      AddsForbidden .realUserShadowSmoke evidence
        { evidence with attempts := before ++ row :: after }
  | observedLive {evidence before after row}
      (hrows : evidence.observedLiveAttempts = before ++ after) :
      AddsForbidden .realUserShadowSmoke evidence
        { evidence with observedLiveAttempts := before ++ row :: after }
  | liveArtifact {evidence before after row} {attemptId : String}
      (hrows : evidence.liveArtifacts[attemptId]?.getD [] = before ++ after) :
      AddsForbidden .realUserShadowSmoke evidence
        { evidence with
          liveArtifacts := evidence.liveArtifacts.insert attemptId (before ++ row :: after) }
  | liveSubmission {evidence before after row} {attemptId : String}
      (hrows : evidence.liveSubmissions[attemptId]?.getD [] = before ++ after) :
      AddsForbidden .realUserShadowSmoke evidence
        { evidence with
          liveSubmissions := evidence.liveSubmissions.insert attemptId (before ++ row :: after) }

section Added

variable {mode : VerifyControlPlaneMode} {evidence evidence' : VerifyEvidenceWindow}

theorem filed_insert {ν : Type*} {filed : BTreeMap String (List ν)} {attemptId : String} {row : ν}
    (before after : List ν) : Filed (filed.insert attemptId (before ++ row :: after)) attemptId row :=
  ⟨_, ExtTreeMap.getElem?_insert_self, by simp⟩

/-- What was added is in the window, and its mode forbids it. -/
theorem AddsForbidden.forbidden (h : AddsForbidden mode evidence evidence') :
    Forbidden evidence' mode := by
  cases h with
  | selectedShadow _ hmode => exact ⟨_, .inr ⟨by simp, hmode⟩⟩
  | observedShadow _ => exact ⟨_, .inl (List.mem_append_right _ (List.mem_cons_self ..))⟩
  | selectedLive _ hmode => exact .inl ⟨_, .inr ⟨by simp, hmode⟩⟩
  | observedLive _ => exact .inl ⟨_, .inl (List.mem_append_right _ (List.mem_cons_self ..))⟩
  | liveArtifact _ => exact .inr (.inl ⟨_, _, filed_insert _ _⟩)
  | liveSubmission _ => exact .inr (.inr ⟨_, _, filed_insert _ _⟩)

theorem verdictRank_le_fail (verdict : VerifyVerdict) : verdictRank verdict ≤ verdictRank .fail := by
  cases verdict <;> decide

end Added

/-- Only clean windows pass, and rows that the mode forbids never improve a verdict. -/
theorem passes_only_clean (context : VerifyContext) (comparison : ConfigAnchorComparison)
    (evidence : VerifyEvidenceWindow) :
    ((evaluateOutcomeWithRouteReports context comparison evidence).1 = .pass →
      Clean context evidence) ∧
    ∀ mode evidence', context.controlPlane.mode = some mode →
      Relation.ReflTransGen (AddsForbidden mode) evidence evidence' →
        verdictRank (evaluateOutcomeWithRouteReports context comparison evidence).1 ≤
          verdictRank (evaluateOutcomeWithRouteReports context comparison evidence').1 := by
  refine ⟨clean_of_pass, fun mode evidence' hmode hadds ↦ ?_⟩
  cases hadds with
  | refl => exact le_rfl
  | tail _ hlast =>
      -- the row that came last is still there, and fails the window by itself
      rw [evaluateOutcomeWithRouteReports_eq_fail
        (evaluateFoundationOutcome_eq_fail hmode hlast.forbidden)]
      exact verdictRank_le_fail _

/-! ## A live window -/

def sampleAttempt (attemptId : String) (mode : ExecutionMode) : ExecutionAttemptWithCreatedAtRow where
  attempt :=
    { attemptId
      planId := "plan-1"
      snapshotId := "snapshot-1"
      route := "neg-risk"
      scope := "family-a"
      matchedRuleId := none
      executionMode := mode
      attemptNo := 1
      idempotencyKey := attemptId
      runSessionId := none }
  createdAt := 0

def liveContext : VerifyContext where
  scenario := .live
  expectation := .liveConfigConsistent
  activeRoutes := ["neg-risk"]
  controlPlane :=
    { mode := some .live
      targetSource := some .adoptedTargets
      configuredTarget := some "targets-1"
      activeTarget := some "targets-1"
      rolloutState := some .ready }
  actions := []
  reason := none

def liveWindow : VerifyEvidenceWindow where
  attempts := [sampleAttempt "attempt-1" .live]
  observedLiveAttempts := []
  observedShadowAttempts := []
  replayShadowAttemptArtifacts := []
  journal := []
  shadowArtifacts := []
  liveArtifacts := ∅
  liveSubmissions := ∅

theorem passes_only_clean_liveWindow :
    Clean liveContext liveWindow ∧
      verdictRank (evaluateOutcomeWithRouteReports liveContext ⟨true, none⟩ liveWindow).1 ≤
        verdictRank (evaluateOutcomeWithRouteReports liveContext ⟨true, none⟩
          { liveWindow with attempts := [sampleAttempt "attempt-2" .shadow,
            sampleAttempt "attempt-1" .live] }).1 := by
  have h := passes_only_clean liveContext ⟨true, none⟩ liveWindow
  refine ⟨h.1 (by decide), h.2 .live _ rfl (.single ?_)⟩
  exact .selectedShadow (List.nil_append _).symm rfl

end AxiomArb.AppLive.Verify
