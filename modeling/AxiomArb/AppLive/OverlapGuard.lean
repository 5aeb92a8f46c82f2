import AxiomArb.AppLive.RunCommand

/-!
# Runs beside runs

Before it starts a runtime, apply asks status for a session that is still active: the session
that the progress row names, or the latest one that fits the configuration.  A session counts as
active for five minutes after it was last seen.  It is seen when it starts and not again before
its runtime has returned, so that a runtime blocks another for its first five minutes and no
longer (`blocking_iff`).

## Honest boundary

* Status reads the progress row and the sessions at one time.
-/

namespace AxiomArb.AppLive

open ConfigSchema Domain Library Persistence RunSessionRepo

/-! ## What status tells of sessions -/

structure RunSessionProjectedRow where
  row : RunSessionRow
  stateLabel : String
  isStale : Bool
deriving DecidableEq, Repr

def projectRunSessionState (now staleAfter : Int) (row : RunSessionRow) : RunSessionProjectedRow :=
  let isStale := (row.state = .starting ∨ row.state = .running) ∧ row.lastSeenAt ≤ now - staleAfter
  { row, stateLabel := if isStale then "stale" else row.state.asStr, isStale }

def loadWithProjectedState (now staleAfter : Int) (runSessionId : String) (sessions : RunSessions) :
    Option RunSessionProjectedRow :=
  (sessions.find? (·.runSessionId = runSessionId)).map (projectRunSessionState now staleAfter)

inductive StatusTargetSource where
  | legacyExplicitTargets
  | adoptedTargets
deriving DecidableEq, Repr

inductive StatusRolloutState where
  | required
  | ready
deriving DecidableEq, Repr

structure StatusDetails where
  configuredTarget : Option String
  activeTarget : Option String
  targetSource : Option StatusTargetSource
  rolloutState : Option StatusRolloutState
  restartNeeded : Option Bool
  relevantRunSessionId : Option String
  relevantRunState : Option String
  relevantRunStartedAt : Option DateTime
  relevantStartupTargetRevision : Option String
  conflictingActiveRunSessionId : Option String
  conflictingActiveRunState : Option String
  conflictingActiveStartedAt : Option DateTime
  conflictingActiveStartupTargetRevision : Option String
  reason : Option String
deriving DecidableEq, Repr

def sessionDetails (relevant conflicting : Option RunSessionProjectedRow) : StatusDetails :=
  let conflicting := conflicting.filter fun session ↦
    relevant.all fun relevant ↦ relevant.row.runSessionId ≠ session.row.runSessionId
  { configuredTarget := none
    activeTarget := none
    targetSource := none
    rolloutState := none
    restartNeeded := none
    relevantRunSessionId := relevant.map (·.row.runSessionId)
    relevantRunState := relevant.map (·.stateLabel)
    relevantRunStartedAt := relevant.map (·.row.startedAt)
    relevantStartupTargetRevision := relevant.map (·.row.startupTargetRevisionAtStart)
    conflictingActiveRunSessionId := conflicting.map (·.row.runSessionId)
    conflictingActiveRunState := conflicting.map (·.stateLabel)
    conflictingActiveStartedAt := conflicting.map (·.row.startedAt)
    conflictingActiveStartupTargetRevision :=
      conflicting.map (·.row.startupTargetRevisionAtStart)
    reason := none }

/-- The sessions that status finds: the latest that fits the query, and the one that the progress
row names. -/
def statusSessions (world : Runs) (query : LatestRelevantQuery) :
    Option RunSessionProjectedRow × Option RunSessionProjectedRow :=
  ((latestRelevant world.now query world.sessions).bind fun row ↦
      loadWithProjectedState world.now RUN_SESSION_STALE_AFTER row.runSessionId world.sessions,
    (world.progress.bind RuntimeProgressRow.activeRunSessionId).bind fun runSessionId ↦
      loadWithProjectedState world.now RUN_SESSION_STALE_AFTER runSessionId world.sessions)

theorem projectRunSessionState_of_stale {now staleAfter : Int} {row : RunSessionRow}
    (h : (row.state = .starting ∨ row.state = .running) ∧ row.lastSeenAt ≤ now - staleAfter) :
    (projectRunSessionState now staleAfter row).stateLabel = "stale" := by
  simp only [projectRunSessionState, if_pos h]

theorem projectRunSessionState_of_notStale {now staleAfter : Int} {row : RunSessionRow}
    (h : ¬((row.state = .starting ∨ row.state = .running) ∧ row.lastSeenAt ≤ now - staleAfter)) :
    (projectRunSessionState now staleAfter row).stateLabel = row.state.asStr := by
  simp only [projectRunSessionState, if_neg h]

/-! ## What blocks a start -/

def isActiveLabel (label : Option String) : Bool := label = some "starting" ∨ label = some "running"

def activeConflictingRunSessionId (details : StatusDetails) : Option String :=
  if isActiveLabel details.conflictingActiveRunState then details.conflictingActiveRunSessionId
  else none

def liveStartBlockingRunSessionId (details : StatusDetails) : Option String :=
  (activeConflictingRunSessionId details).or
    (if isActiveLabel details.relevantRunState then details.relevantRunSessionId else none)

/-- The session that keeps apply from starting a runtime. -/
def blockingRunSessionId (world : Runs) (query : LatestRelevantQuery) : Option String :=
  let (relevant, conflicting) := statusSessions world query
  liveStartBlockingRunSessionId (sessionDetails relevant conflicting)

/-! ## Active sessions -/

def RunSessionProjectedRow.isActive (session : RunSessionProjectedRow) : Bool :=
  isActiveLabel (some session.stateLabel)

section Details

variable {relevant conflicting : Option RunSessionProjectedRow}

theorem ite_isActiveLabel (session : Option RunSessionProjectedRow) :
    (if isActiveLabel (session.map (·.stateLabel)) then session.map (·.row.runSessionId) else none) =
      (session.filter (·.isActive)).map (·.row.runSessionId) := by
  cases session with
  | none => rfl
  | some session =>
    rw [Option.map_some, Option.map_some, Option.filter_some]
    show (if session.isActive then _ else _) = _
    split_ifs <;> rfl

/-- The session that blocks: the one of the progress row if it is another than the latest and
active, or else the latest if it is active. -/
theorem blocking_eq :
    liveStartBlockingRunSessionId (sessionDetails relevant conflicting) =
      (((conflicting.filter fun session ↦ relevant.all fun relevant ↦
          relevant.row.runSessionId ≠ session.row.runSessionId).filter (·.isActive)).or
        (relevant.filter (·.isActive))).map (·.row.runSessionId) := by
  rw [Option.map_or, ← ite_isActiveLabel, ← ite_isActiveLabel]
  rfl

/-- What blocks is a session that status found active. -/
theorem exists_of_blocking {runSessionId : String}
    (h : liveStartBlockingRunSessionId (sessionDetails relevant conflicting) = some runSessionId) :
    ∃ session, (relevant = some session ∨ conflicting = some session) ∧ session.isActive ∧
      session.row.runSessionId = runSessionId := by
  rw [blocking_eq] at h
  obtain ⟨session, hsession, hid⟩ := Option.map_eq_some_iff.mp h
  refine ⟨session, ?_, ?_, hid⟩ <;> rcases Option.or_eq_some_iff.mp hsession with h | ⟨-, h⟩ <;>
    obtain ⟨h, hactive⟩ := Option.filter_eq_some_iff.mp h
  · exact .inr (Option.filter_eq_some_iff.mp h).1
  · exact .inl h
  · exact hactive
  · exact hactive

/-- A session that status found active blocks, or another one does. -/
theorem isSome_blocking
    (hsame : ∀ session ∈ relevant, ∀ session' ∈ conflicting,
      session.row.runSessionId = session'.row.runSessionId → session = session')
    {session : RunSessionProjectedRow} (hfound : relevant = some session ∨ conflicting = some session)
    (hactive : session.isActive) :
    (liveStartBlockingRunSessionId (sessionDetails relevant conflicting)).isSome := by
  rw [blocking_eq, Option.isSome_map, Option.isSome_or, Bool.or_eq_true]
  have hrelevant : relevant = some session → (relevant.filter (·.isActive)).isSome := by
    rintro rfl
    rw [Option.filter_some, if_pos hactive]
    rfl
  rcases hfound with hfound | hfound
  · exact .inr (hrelevant hfound)
  · by_cases hother : ∀ session' ∈ relevant, session'.row.runSessionId ≠ session.row.runSessionId
    · refine .inl ?_
      rw [hfound, Option.filter_some, if_pos, Option.filter_some, if_pos hactive]
      · rfl
      · exact (Option.all_eq_true _ _).mpr fun session' h ↦ decide_eq_true (hother session' h)
    · push Not at hother
      obtain ⟨session', hsession', hid⟩ := hother
      obtain rfl := hsame session' hsession' session hfound hid
      exact .inr (hrelevant hsession')

end Details

/-! ## The sessions of runs -/

/-- The run has not closed its session. -/
def Run.isOpen (run : Run) : Bool :=
  match run.phase with
  | .runtime | .markedRunning _ | .refreshed _ => true
  | .exited _ | .failed _ _ | .refused => false

variable {world : Runs} {run : Run}

/-- An open session is active for five minutes after it was last seen. -/
theorem isActive_project (hstart : AtStart run.started) (hphase : run.phase ≠ .refused)
    (now staleAfter : Int) :
    (projectRunSessionState now staleAfter run.row).isActive = true ↔
      run.isOpen ∧ now - staleAfter < run.row.lastSeenAt := by
  have hstate : (run.row.state = .starting ∨ run.row.state = .running) ↔ run.isOpen = true := by
    rw [Run.row, Run.isOpen]
    split <;> simp_all [hstart.state]
  have hactive : ∀ state : RunSessionState, isActiveLabel (some state.asStr) = true ↔
      state = .starting ∨ state = .running := by
    intro state
    cases state <;> decide
  rw [← hstate, RunSessionProjectedRow.isActive]
  by_cases hstale : (run.row.state = .starting ∨ run.row.state = .running) ∧
      run.row.lastSeenAt ≤ now - staleAfter
  · rw [projectRunSessionState_of_stale hstale]
    exact iff_of_false (by decide) fun h ↦ h.2.not_ge hstale.2
  · rw [projectRunSessionState_of_notStale hstale, hactive]
    exact (and_iff_left_of_imp fun h ↦ not_le.mp fun hle ↦ hstale ⟨h, hle⟩).symm

theorem load_runSessionId (h : world.Inv) (hrun : run ∈ world.runs) (staleAfter : Int) :
    loadWithProjectedState world.now staleAfter run.runSessionId world.sessions =
      some (projectRunSessionState world.now staleAfter run.row) := by
  rw [loadWithProjectedState]
  cases hfind : world.sessions.find? (·.runSessionId = run.runSessionId) with
  | none =>
    have hnone := List.find?_eq_none.mp hfind run.row (h.sessions ▸ List.mem_map_of_mem hrun)
    exact absurd (decide_eq_true run.row_runSessionId) hnone
  | some row =>
    have hid : row.runSessionId = run.runSessionId := by simpa using List.find?_some hfind
    have hmem := List.mem_of_find?_eq_some hfind
    rw [h.sessions] at hmem
    obtain ⟨run', hrun', rfl⟩ := List.mem_map.mp hmem
    obtain rfl : run' = run := List.inj_on_of_nodup_map h.distinct hrun' hrun
      (run'.row_runSessionId ▸ hid)
    rfl

/-- A session is looked at if status takes it for the latest that fits or the progress row names
it. -/
def Runs.LookedAt (world : Runs) (query : LatestRelevantQuery) (run : Run) : Prop :=
  latestRelevant world.now query world.sessions = some run.row ∨
    world.progress.bind RuntimeProgressRow.activeRunSessionId = some run.runSessionId

/-- The sessions that status finds are those of runs that it looks at. -/
theorem exists_of_statusSessions (h : world.Inv) {query : LatestRelevantQuery}
    {session : RunSessionProjectedRow}
    (hsession : (statusSessions world query).1 = some session ∨
      (statusSessions world query).2 = some session) :
    ∃ run ∈ world.runs, world.LookedAt query run ∧
      session = projectRunSessionState world.now RUN_SESSION_STALE_AFTER run.row := by
  rcases hsession with hsession | hsession
  · obtain ⟨row, hlatest, hload⟩ := Option.bind_eq_some_iff.mp hsession
    have hrow : row ∈ world.sessions := List.mem_of_mem_filter (mem_of_latestBy hlatest)
    rw [h.sessions] at hrow
    obtain ⟨run, hrun, rfl⟩ := List.mem_map.mp hrow
    rw [run.row_runSessionId, load_runSessionId h hrun] at hload
    exact ⟨run, hrun, .inl hlatest, (Option.some.inj hload).symm⟩
  · obtain ⟨runSessionId, hactive, hload⟩ := Option.bind_eq_some_iff.mp hsession
    obtain ⟨row, hfind, -⟩ := Option.map_eq_some_iff.mp hload
    have hrow := List.mem_of_find?_eq_some hfind
    have hid : row.runSessionId = runSessionId := by simpa using List.find?_some hfind
    rw [h.sessions] at hrow
    obtain ⟨run, hrun, rfl⟩ := List.mem_map.mp hrow
    rw [run.row_runSessionId] at hid
    rw [← hid, load_runSessionId h hrun] at hload
    exact ⟨run, hrun, .inr (hactive.trans (congrArg some hid.symm)), (Option.some.inj hload).symm⟩

/-- A run that status looks at is one of the sessions that it finds. -/
theorem statusSessions_of_lookedAt (h : world.Inv) {query : LatestRelevantQuery}
    (hrun : run ∈ world.runs) (hlooked : world.LookedAt query run) :
    (statusSessions world query).1 =
        some (projectRunSessionState world.now RUN_SESSION_STALE_AFTER run.row) ∨
      (statusSessions world query).2 =
        some (projectRunSessionState world.now RUN_SESSION_STALE_AFTER run.row) := by
  refine hlooked.imp (fun hlatest ↦ ?_) fun hactive ↦ ?_
  · exact Option.bind_eq_some_iff.mpr ⟨run.row, hlatest, by
      rw [run.row_runSessionId, load_runSessionId h hrun]⟩
  · exact Option.bind_eq_some_iff.mpr ⟨run.runSessionId, hactive, load_runSessionId h hrun _⟩

/-- What keeps apply from starting a runtime, in any state that runs reach: an open session that
status looks at and that was last seen within five minutes.  While a runtime runs, its session was
last seen when the run started. -/
theorem blocking_iff {reader : ConfigReader} (start : DateTime) (events : List (RunEvent reader))
    (query : LatestRelevantQuery) :
    let world := Library.run Runs.step (Runs.new start) events
    ((blockingRunSessionId world query).isSome ↔ ∃ run ∈ world.runs, world.LookedAt query run ∧
      run.isOpen ∧ world.now - RUN_SESSION_STALE_AFTER < run.row.lastSeenAt) ∧
    (∀ runSessionId, blockingRunSessionId world query = some runSessionId →
      ∃ run ∈ world.runs, run.runSessionId = runSessionId ∧ world.LookedAt query run ∧
        run.isOpen ∧ world.now - RUN_SESSION_STALE_AFTER < run.row.lastSeenAt) ∧
    ∀ run ∈ world.runs, run.phase = .runtime → run.row.lastSeenAt = run.started.startedAt := by
  intro world
  have h : world.Inv := Runs.inv_run start events
  have hblocking : ∀ runSessionId, blockingRunSessionId world query = some runSessionId →
      ∃ run ∈ world.runs, run.runSessionId = runSessionId ∧ world.LookedAt query run ∧
        run.isOpen ∧ world.now - RUN_SESSION_STALE_AFTER < run.row.lastSeenAt := by
    intro runSessionId hsome
    obtain ⟨session, hsession, hactive, hid⟩ := exists_of_blocking hsome
    obtain ⟨run, hrun, hlooked, rfl⟩ := exists_of_statusSessions h hsession
    obtain ⟨hopen, hseen⟩ := (isActive_project (h.atStart run hrun) (h.phase run hrun) _ _).mp
      hactive
    exact ⟨run, hrun, run.row_runSessionId.symm.trans hid, hlooked, hopen, hseen⟩
  refine ⟨⟨?_, ?_⟩, hblocking, ?_⟩
  · intro hsome
    obtain ⟨runSessionId, hsome⟩ := Option.isSome_iff_exists.mp hsome
    obtain ⟨run, hrun, -, hrest⟩ := hblocking runSessionId hsome
    exact ⟨run, hrun, hrest⟩
  · rintro ⟨run, hrun, hlooked, hopen, hseen⟩
    refine isSome_blocking ?_ (statusSessions_of_lookedAt h hrun hlooked)
      ((isActive_project (h.atStart run hrun) (h.phase run hrun) _ _).mpr ⟨hopen, hseen⟩)
    intro session (hsession : (statusSessions world query).1 = some session) session'
      (hsession' : (statusSessions world query).2 = some session') hid
    obtain ⟨run, hrun, -, rfl⟩ := exists_of_statusSessions h (.inl hsession)
    obtain ⟨run', hrun', -, rfl⟩ := exists_of_statusSessions h (.inr hsession')
    have hsame : run = run' := List.inj_on_of_nodup_map h.distinct hrun hrun' (by
      rw [← run.row_runSessionId, ← run'.row_runSessionId]
      exact hid)
    rw [hsame]
  · intro run hrun hphase
    rw [← (h.atStart run hrun).lastSeenAt, Run.row, hphase]

end AxiomArb.AppLive
