import AxiomArb.Domain.Runtime
import AxiomArb.Library.Reach
import AxiomArb.Library.Run
import Mathlib.Data.Prod.Lex
import Mathlib.Data.String.Basic

/-!
# Run sessions

A session is recorded when a run starts.  Later its state is changed in place; what it was
started with stays as it is, and no session is deleted.  Status looks up the latest session
that was started with what is configured now.

## Honest boundary

* Identifiers are ordered by their code points.
-/

namespace AxiomArb.Persistence

open Domain Library

inductive RunSessionState where
  | starting
  | running
  | exited
  | failed
deriving DecidableEq, Repr

def RunSessionState.asStr : RunSessionState → String
  | starting => "starting"
  | running => "running"
  | exited => "exited"
  | failed => "failed"

structure RunSessionRow where
  runSessionId : String
  invokedBy : String
  mode : String
  state : RunSessionState
  startedAt : DateTime
  lastSeenAt : DateTime
  endedAt : Option DateTime
  exitStatus : Option String
  exitReason : Option String
  configPath : String
  configFingerprint : String
  targetSourceKind : String
  startupTargetRevisionAtStart : String
  configuredOperatorTargetRevision : Option String
  activeOperatorTargetRevisionAtStart : Option String
  configuredOperatorStrategyRevision : Option String
  activeOperatorStrategyRevisionAtStart : Option String
  rolloutStateAtStart : Option String
  realUserShadowSmoke : Bool
deriving DecidableEq, Repr

inductive RunSessionError where
  | invalidValue (kind value : String)
  | duplicateKey (runSessionId : String)
  | invalidRunSessionTransition (runSessionId fromState toState : String)
  | missingRunSessionRow (runSessionId : String)
deriving DecidableEq, Repr

abbrev RunSessions := List RunSessionRow

namespace RunSessionRepo

/-! ## Writing -/

/-- A session is inserted when it starts, if its identifier is new. -/
def createStarting (row : RunSessionRow) (sessions : RunSessions) :
    Except RunSessionError RunSessions :=
  if row.state ≠ .starting then .error (.invalidValue "run_session.state" row.state.asStr)
  else if row.endedAt.isSome ∨ row.exitStatus.isSome ∨ row.exitReason.isSome then
    .error (.invalidValue "run_session.starting_payload"
      "terminal fields must be empty for starting sessions")
  else if row.targetSourceKind = "adopted" ∧ row.configuredOperatorTargetRevision = none ∧
      row.configuredOperatorStrategyRevision = none then
    .error (.invalidValue "run_session.configured_operator_strategy_revision"
      "adopted sessions require configured operator strategy revision")
  else if row.targetSourceKind ≠ "explicit" ∧ row.targetSourceKind ≠ "adopted" then
    .error (.invalidValue "run_session.target_source_kind" row.targetSourceKind)
  else if row.runSessionId ∈ sessions.map RunSessionRow.runSessionId then
    .error (.duplicateKey row.runSessionId)
  else .ok (sessions ++ [row])

/-- Change the session under an identifier if it is in one of some states. -/
def updateActive (runSessionId : String) (allowedFrom : List RunSessionState) (toState : String)
    (update : RunSessionRow → RunSessionRow) (sessions : RunSessions) :
    Except RunSessionError RunSessions :=
  let selected (row : RunSessionRow) : Bool :=
    row.runSessionId = runSessionId ∧ row.state ∈ allowedFrom
  if sessions.any selected then
    .ok (sessions.map fun row ↦ if selected row then update row else row)
  else
    match sessions.find? (·.runSessionId = runSessionId) with
    | some row =>
        .error (.invalidRunSessionTransition runSessionId row.state.asStr toState)
    | none => .error (.missingRunSessionRow runSessionId)

/-- What a change of state writes; the time of the end is kept for the final states alone. -/
def transitioned (toState : RunSessionState) (changedAt : DateTime)
    (exitStatus exitReason : Option String) (row : RunSessionRow) : RunSessionRow :=
  { row with
    state := toState
    lastSeenAt := max row.lastSeenAt changedAt
    endedAt := if toState = .exited ∨ toState = .failed then some changedAt else none
    exitStatus
    exitReason }

def transitionActiveState (runSessionId : String) (allowedFrom : List RunSessionState)
    (toState : RunSessionState) (changedAt : DateTime) (exitStatus exitReason : Option String) :
    RunSessions → Except RunSessionError RunSessions :=
  updateActive runSessionId allowedFrom toState.asStr
    (transitioned toState changedAt exitStatus exitReason)

def markRunning (runSessionId : String) (seenAt : DateTime) :
    RunSessions → Except RunSessionError RunSessions :=
  transitionActiveState runSessionId [.starting] .running seenAt none none

def markExited (runSessionId : String) (endedAt : DateTime) (exitStatus : String)
    (exitReason : Option String) : RunSessions → Except RunSessionError RunSessions :=
  transitionActiveState runSessionId [.starting, .running] .exited endedAt exitStatus exitReason

def markFailed (runSessionId : String) (endedAt : DateTime) (exitReason : String) :
    RunSessions → Except RunSessionError RunSessions :=
  transitionActiveState runSessionId [.starting, .running] .failed endedAt "failed" exitReason

def refreshLastSeen (runSessionId : String) (seenAt : DateTime) :
    RunSessions → Except RunSessionError RunSessions :=
  updateActive runSessionId [.starting, .running] "refresh_last_seen" fun row ↦
    { row with lastSeenAt := max row.lastSeenAt seenAt }

/-! ## Looking up -/

structure LatestRelevantQuery where
  mode : String
  configPath : String
  configFingerprint : String
  configuredTarget : Option String
  configuredStrategy : Option String
  startupTargetRevisionAtStart : String
  rolloutState : Option String
  staleAfter : Int
deriving DecidableEq, Repr

/-- The session was started with what is asked for. -/
def LatestRelevantQuery.Matches (query : LatestRelevantQuery) (row : RunSessionRow) : Prop :=
  row.mode = query.mode ∧ row.configPath = query.configPath ∧
    row.configFingerprint = query.configFingerprint ∧
    row.configuredOperatorTargetRevision = query.configuredTarget ∧
    row.configuredOperatorStrategyRevision = query.configuredStrategy ∧
    row.startupTargetRevisionAtStart = query.startupTargetRevisionAtStart ∧
    row.rolloutStateAtStart = query.rolloutState

instance (query : LatestRelevantQuery) (row : RunSessionRow) : Decidable (query.Matches row) :=
  inferInstanceAs (Decidable (_ ∧ _))

/-- Sessions that run come first, then those that start, those that ended, and the stale ones. -/
def stateRank (now staleAfter : Int) (row : RunSessionRow) : Nat :=
  match row.state with
  | .running => if now - staleAfter < row.lastSeenAt then 0 else 3
  | .starting => if now - staleAfter < row.lastSeenAt then 1 else 3
  | .exited | .failed => 2

/-- Of two sessions, the one with the greater precedence is returned. -/
def precedence (now staleAfter : Int) (row : RunSessionRow) : Int ×ₗ Int ×ₗ Int ×ₗ String :=
  toLex (-(stateRank now staleAfter row : Int), toLex (row.endedAt.getD row.startedAt,
    toLex (row.startedAt, row.runSessionId)))

def latestRelevant (now : DateTime) (query : LatestRelevantQuery) (sessions : RunSessions) :
    Option RunSessionRow :=
  latestBy (precedence now query.staleAfter) (sessions.filter fun row ↦ query.Matches row)

/-! ## Runs -/

inductive Op where
  | createStarting (row : RunSessionRow)
  | markRunning (runSessionId : String) (seenAt : DateTime)
  | refreshLastSeen (runSessionId : String) (seenAt : DateTime)
  | markExited (runSessionId : String) (endedAt : DateTime) (exitStatus : String)
      (exitReason : Option String)
  | markFailed (runSessionId : String) (endedAt : DateTime) (exitReason : String)

def Op.exec : Op → RunSessions → Except RunSessionError RunSessions
  | .createStarting row => RunSessionRepo.createStarting row
  | .markRunning runSessionId seenAt => RunSessionRepo.markRunning runSessionId seenAt
  | .refreshLastSeen runSessionId seenAt => RunSessionRepo.refreshLastSeen runSessionId seenAt
  | .markExited runSessionId endedAt exitStatus exitReason =>
      RunSessionRepo.markExited runSessionId endedAt exitStatus exitReason
  | .markFailed runSessionId endedAt exitReason =>
      RunSessionRepo.markFailed runSessionId endedAt exitReason

/-- An operation that fails leaves the sessions as they are. -/
def step (sessions : RunSessions) (op : Op) : RunSessions :=
  match op.exec sessions with
  | .ok sessions => sessions
  | .error _ => sessions

/-! ## What stays -/

section Kept

variable {sessions sessions' : RunSessions} {row row' : RunSessionRow} {query : LatestRelevantQuery}
  {now : DateTime}

/-- A session as it was started. -/
def atStart (row : RunSessionRow) : RunSessionRow :=
  { row with
    state := .starting, lastSeenAt := row.startedAt, endedAt := none, exitStatus := none
    exitReason := none }

theorem matches_iff_of_atStart (h : atStart row = atStart row') :
    query.Matches row ↔ query.Matches row' := by
  have hsame : ∀ row, query.Matches row ↔ query.Matches (atStart row) := fun _ ↦ Iff.rfl
  rw [hsame row, hsame row', h]

/-- The session, in whatever state, is among the sessions. -/
def Kept (row : RunSessionRow) (sessions : RunSessions) : Prop :=
  ∃ row' ∈ sessions, atStart row' = atStart row

theorem Kept.updateActive {runSessionId toState : String} {allowedFrom : List RunSessionState}
    {update : RunSessionRow → RunSessionRow} (hupdate : ∀ row, atStart (update row) = atStart row)
    (hkept : Kept row sessions)
    (h : RunSessionRepo.updateActive runSessionId allowedFrom toState update sessions =
      .ok sessions') : Kept row sessions' := by
  obtain ⟨row', hrow', hstart⟩ := hkept
  simp only [RunSessionRepo.updateActive] at h
  split at h
  · obtain rfl := Except.ok.inj h
    refine ⟨_, List.mem_map_of_mem hrow', ?_⟩
    split
    · exact (hupdate row').trans hstart
    · exact hstart
  · split at h <;> cases h

theorem createStarting_eq_ok (h : createStarting row sessions = .ok sessions') :
    sessions' = sessions ++ [row] := by
  rw [createStarting] at h
  split_ifs at h
  exact (Except.ok.inj h).symm

theorem Kept.exec {op : Op} (hkept : Kept row sessions) (h : op.exec sessions = .ok sessions') :
    Kept row sessions' := by
  cases op with
  | createStarting new =>
      obtain ⟨row', hrow', hstart⟩ := hkept
      rw [createStarting_eq_ok h]
      exact ⟨row', List.mem_append_left _ hrow', hstart⟩
  | markRunning runSessionId seenAt =>
      refine Kept.updateActive ?_ hkept h
      exact fun _ ↦ rfl
  | refreshLastSeen runSessionId seenAt =>
      refine Kept.updateActive ?_ hkept h
      exact fun _ ↦ rfl
  | markExited runSessionId endedAt exitStatus exitReason =>
      refine Kept.updateActive ?_ hkept h
      exact fun _ ↦ rfl
  | markFailed runSessionId endedAt exitReason =>
      refine Kept.updateActive ?_ hkept h
      exact fun _ ↦ rfl

theorem Kept.step (hkept : Kept row sessions) (op : Op) : Kept row (step sessions op) := by
  rw [RunSessionRepo.step]
  cases hop : op.exec sessions with
  | error e => exact hkept
  | ok sessions' => exact hkept.exec hop

/-- A session that was created is kept by every run. -/
theorem kept_of_createStarting (h : createStarting row sessions = .ok sessions') (ops : List Op) :
    Kept row (run step sessions' ops) := by
  refine run_inv (fun _ op hkept ↦ hkept.step op) ⟨row, ?_, rfl⟩
  rw [createStarting_eq_ok h]
  exact List.mem_append_right _ (List.mem_singleton_self row)

/-- A session that matches is looked up, or one that comes before it. -/
theorem exists_latestRelevant (hkept : Kept row sessions) (hmatches : query.Matches row) :
    ∃ latest, latestRelevant now query sessions = some latest ∧ query.Matches latest := by
  obtain ⟨row', hrow', hstart⟩ := hkept
  have hmem : row' ∈ sessions.filter fun row ↦ query.Matches row :=
    List.mem_filter.mpr ⟨hrow', decide_eq_true ((matches_iff_of_atStart hstart).mpr hmatches)⟩
  obtain ⟨latest, hlatest⟩ : ∃ latest, latestRelevant now query sessions = some latest :=
    exists_latestBy hmem
  exact ⟨latest, hlatest, of_decide_eq_true (List.mem_filter.mp (mem_of_latestBy hlatest)).2⟩

end Kept

end RunSessionRepo

end AxiomArb.Persistence
