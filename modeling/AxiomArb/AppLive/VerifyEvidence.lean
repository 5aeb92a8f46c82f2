import AxiomArb.AppLive.NegRiskLive
import AxiomArb.Library.Json
import AxiomArb.Persistence.FamilyView

/-!
# The evidence window of a verification

What a verification looks at: attempts, artifacts, submissions and journal entries that were
read from the database.  A window is judged as a whole and once for each route; the part of it
that belongs to a route is found by three keys, the route of an attempt, the attempt of an
artifact and the route of a submission.
-/

namespace AxiomArb.AppLive.Verify

open Domain Library Persistence Std

/-! ## Rows -/

structure ExecutionAttemptWithCreatedAtRow where
  attempt : ExecutionAttemptRow
  createdAt : DateTime

structure ShadowExecutionArtifactRow where
  attemptId : String
  stream : String
  payload : Json

structure LiveExecutionArtifactRow where
  attemptId : String
  stream : String
  payload : Json

structure LiveSubmissionRecordRow where
  submissionRef : String
  attemptId : String
  route : String
  scope : String
  provider : String
  state : String
  payload : Json

structure NegRiskShadowAttemptArtifacts where
  attempt : ExecutionAttemptRow
  artifacts : List ShadowExecutionArtifactRow

/-- Live rows are filed under the attempt they belong to. -/
structure VerifyEvidenceWindow where
  attempts : List ExecutionAttemptWithCreatedAtRow
  observedLiveAttempts : List ExecutionAttemptWithCreatedAtRow
  observedShadowAttempts : List ExecutionAttemptWithCreatedAtRow
  replayShadowAttemptArtifacts : List NegRiskShadowAttemptArtifacts
  journal : List JournalEntryRow
  shadowArtifacts : List ShadowExecutionArtifactRow
  liveArtifacts : BTreeMap String (List LiveExecutionArtifactRow)
  liveSubmissions : BTreeMap String (List LiveSubmissionRecordRow)

/-! ## Lists under keys -/

section Filed

variable {ν : Type*} {filed : BTreeMap String (List ν)} {p : ν → Bool} {row : ν}

/-- How many rows a map holds under all of its keys. -/
def rowCount (filed : BTreeMap String (List ν)) : Nat := (filed.toList.map (·.2.length)).sum

def Filed (filed : BTreeMap String (List ν)) (attemptId : String) (row : ν) : Prop :=
  ∃ rows, filed[attemptId]? = some rows ∧ row ∈ rows

theorem rowCount_pos_iff : 0 < rowCount filed ↔ ∃ attemptId row, Filed filed attemptId row := by
  rw [rowCount, List.sum_pos_iff_exists_pos_nat]
  constructor
  · rintro ⟨count, hcount, hpos⟩
    obtain ⟨⟨attemptId, rows⟩, hmem, rfl⟩ := List.mem_map.mp hcount
    obtain ⟨row, hrow⟩ := List.exists_mem_of_length_pos hpos
    exact ⟨attemptId, row, rows, ExtTreeMap.mem_toList_iff_getElem?_eq_some.mp hmem, hrow⟩
  · rintro ⟨attemptId, row, rows, hrows, hrow⟩
    have hmem := ExtTreeMap.mem_toList_iff_getElem?_eq_some.mpr hrows
    exact ⟨rows.length, List.mem_map.mpr ⟨_, hmem, rfl⟩, List.length_pos_of_mem hrow⟩

theorem filed_filter_iff {keep : String → List ν → Bool} {attemptId : String} :
    Filed (filed.filter keep) attemptId row ↔
      ∃ rows, filed[attemptId]? = some rows ∧ keep attemptId rows ∧ row ∈ rows := by
  simp only [Filed, ExtTreeMap.getElem?_filter', Option.filter_eq_some_iff, and_assoc]

theorem filed_map_iff {part : String → List ν → List ν} {attemptId : String} :
    Filed (filed.map part) attemptId row ↔
      ∃ rows, filed[attemptId]? = some rows ∧ row ∈ part attemptId rows := by
  simp only [Filed, ExtTreeMap.getElem?_map, Option.map_eq_some_iff]
  constructor
  · rintro ⟨_, ⟨rows, hrows, rfl⟩, hrow⟩
    exact ⟨rows, hrows, hrow⟩
  · rintro ⟨rows, hrows, hrow⟩
    exact ⟨_, ⟨rows, hrows, rfl⟩, hrow⟩

end Filed

/-! ## Routes -/

def routeIsActive (route : String) (activeRoutes : List String) : Bool :=
  activeRoutes.isEmpty || activeRoutes.any (· == route)

def routeHasLocalEvidence (evidence : VerifyEvidenceWindow) : Bool :=
  !evidence.attempts.isEmpty || !evidence.observedLiveAttempts.isEmpty ||
    !evidence.observedShadowAttempts.isEmpty || !evidence.replayShadowAttemptArtifacts.isEmpty ||
      !evidence.shadowArtifacts.isEmpty || !evidence.liveArtifacts.isEmpty ||
        !evidence.liveSubmissions.isEmpty

def routesWithEvidence (evidence : VerifyEvidenceWindow) (activeRoutes : List String) :
    BTreeSet String :=
  let routes : BTreeSet String := .ofList (evidence.attempts.map (·.attempt.route) ++
    evidence.observedLiveAttempts.map (·.attempt.route) ++
      evidence.observedShadowAttempts.map (·.attempt.route) ++
        evidence.replayShadowAttemptArtifacts.map (·.attempt.route))
  .ofList (routes.toList.filter (routeIsActive · activeRoutes))

def routesToEvaluate (evidence : VerifyEvidenceWindow) (activeRoutes : List String) :
    BTreeSet String :=
  if activeRoutes.isEmpty then routesWithEvidence evidence activeRoutes else .ofList activeRoutes

/-- An attempt of the window is on the route, or one that is replayed. -/
def OnRoute (evidence : VerifyEvidenceWindow) (route : String) : Prop :=
  (∃ row, (row ∈ evidence.attempts ∨ row ∈ evidence.observedLiveAttempts ∨
    row ∈ evidence.observedShadowAttempts) ∧ row.attempt.route = route) ∨
      ∃ replayed ∈ evidence.replayShadowAttemptArtifacts, replayed.attempt.route = route

/-- The active routes are judged, whether or not anything in the window is on them; without any,
the routes are that something is on. -/
def Judged (evidence : VerifyEvidenceWindow) (activeRoutes : List String) (route : String) : Prop :=
  route ∈ activeRoutes ∨ activeRoutes = [] ∧ OnRoute evidence route

section Routes

variable {evidence : VerifyEvidenceWindow} {activeRoutes : List String} {route : String}

theorem mem_ofList_iff {keys : List String} :
    route ∈ (.ofList keys : BTreeSet String) ↔ route ∈ keys := by
  rw [ExtTreeSet.mem_ofList, List.contains_iff_mem]

theorem mem_routesWithEvidence_iff : route ∈ routesWithEvidence evidence [] ↔ OnRoute evidence route := by
  simp only [routesWithEvidence, mem_ofList_iff, List.mem_filter, ExtTreeSet.mem_toList,
    List.mem_append, List.mem_map, routeIsActive, List.isEmpty_nil, Bool.true_or, and_true, OnRoute,
    or_and_right, exists_or, or_assoc]

theorem mem_routesToEvaluate_iff :
    route ∈ routesToEvaluate evidence activeRoutes ↔ Judged evidence activeRoutes route := by
  cases activeRoutes with
  | nil =>
      rw [Judged, ← mem_routesWithEvidence_iff]
      simp [routesToEvaluate]
  | cons first rest =>
      rw [Judged, routesToEvaluate]
      simp

end Routes

/-- The attempts of a window that are on a route. -/
def attemptIdsOnRoute (evidence : VerifyEvidenceWindow) (route : String) : BTreeSet String :=
  .ofList (((evidence.attempts ++ evidence.observedLiveAttempts ++
    evidence.observedShadowAttempts).filter (·.attempt.route == route)).map (·.attempt.attemptId))

def windowForRoute (evidence : VerifyEvidenceWindow) (route : String) : VerifyEvidenceWindow :=
  let attemptIds := attemptIdsOnRoute evidence route
  { attempts := evidence.attempts.filter (·.attempt.route == route)
    observedLiveAttempts := evidence.observedLiveAttempts.filter (·.attempt.route == route)
    observedShadowAttempts := evidence.observedShadowAttempts.filter (·.attempt.route == route)
    replayShadowAttemptArtifacts :=
      evidence.replayShadowAttemptArtifacts.filter (·.attempt.route == route)
    journal := evidence.journal
    shadowArtifacts := evidence.shadowArtifacts.filter fun row ↦ attemptIds.contains row.attemptId
    liveArtifacts := evidence.liveArtifacts.filter fun attemptId _ ↦ attemptIds.contains attemptId
    liveSubmissions :=
      (evidence.liveSubmissions.filter fun _ rows ↦ rows.any (·.route == route)).map
        fun _ rows ↦ rows.filter (·.route == route) }

section Window

variable {evidence : VerifyEvidenceWindow} {route attemptId : String}

/-- An attempt is on a route if a row of it in the window is. -/
theorem mem_attemptIdsOnRoute_iff : attemptId ∈ attemptIdsOnRoute evidence route ↔
    ∃ row, (row ∈ evidence.attempts ∨ row ∈ evidence.observedLiveAttempts ∨
      row ∈ evidence.observedShadowAttempts) ∧ row.attempt.route = route ∧
        row.attempt.attemptId = attemptId := by
  rw [attemptIdsOnRoute, mem_ofList_iff, List.mem_map]
  simp only [List.mem_filter, List.mem_append, beq_iff_eq, or_assoc, and_assoc]

theorem filed_liveArtifacts_windowForRoute {row : LiveExecutionArtifactRow}
    (h : Filed (windowForRoute evidence route).liveArtifacts attemptId row) :
    attemptId ∈ attemptIdsOnRoute evidence route ∧ Filed evidence.liveArtifacts attemptId row := by
  obtain ⟨rows, hrows, hkept, hrow⟩ := filed_filter_iff.mp h
  exact ⟨ExtTreeSet.contains_iff_mem.mp hkept, rows, hrows, hrow⟩

theorem filed_liveSubmissions_windowForRoute {row : LiveSubmissionRecordRow}
    (h : Filed (windowForRoute evidence route).liveSubmissions attemptId row) :
    row.route = route ∧ Filed evidence.liveSubmissions attemptId row := by
  obtain ⟨rows, hrows, hrow⟩ := filed_map_iff.mp h
  obtain ⟨hrow, hroute⟩ := List.mem_filter.mp hrow
  rw [ExtTreeMap.getElem?_filter', Option.filter_eq_some_iff] at hrows
  exact ⟨eq_of_beq hroute, rows, hrows.1, hrow⟩

end Window

end AxiomArb.AppLive.Verify
