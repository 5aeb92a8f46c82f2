import AxiomArb.AppLive.SupervisorRun

/-!
# The daemon

The daemon runs its supervisor tick by tick.  It stops when a run fails, when the
supervisor is idle, when a run ends with the summary of the run before, or when it has made
as many ticks as it may.  A shutdown run may make as many as a machine word counts.
-/

namespace AxiomArb.AppLive

open Domain Library State

structure DaemonReport where
  startupOrder : List String
  ticksRun : Nat
  idleReached : Bool
  realUserShadowSmoke : Bool
  summary : SupervisorSummary
deriving DecidableEq, Repr

/-- What the loop of the daemon carries from tick to tick. -/
structure DaemonProgress where
  startupOrder : List String
  ticksRun : Nat
  idleReached : Bool
  lastSummary : Option SupervisorSummary
  finalSummary : Option SupervisorSummary

/-- What a loop whose last run had the summary reports. -/
def DaemonProgress.report (progress : DaemonProgress) (summary : SupervisorSummary) : DaemonReport :=
  { startupOrder := progress.startupOrder
    ticksRun := progress.ticksRun
    idleReached := progress.idleReached
    realUserShadowSmoke := summary.realUserShadowSmoke
    summary }

/-- The greatest `usize`. -/
def usizeMax : Nat := 2 ^ 64 - 1

namespace AppSupervisor

def startupPhaseLabel (supervisor : AppSupervisor) : String :=
  if supervisor.restoringSeededStartup then "restore" else "bootstrap"

def startDaemon (supervisor : AppSupervisor) : DaemonProgress :=
  { startupOrder := [supervisor.startupPhaseLabel, "state", "decision"]
    ticksRun := 0
    idleReached := false
    lastSummary := none
    finalSummary := none }

/-- The loop, with the ticks that remain. -/
def runTicks (env : SupervisorEnv) : Nat → DaemonProgress → SupervisorCommand DaemonProgress
  | 0, progress => return progress
  | remaining + 1, progress => do
      let summary ← runOnce env
      let supervisor ← get
      let noMoreProgressPossible : Bool := progress.lastSummary == some summary
      let idleReached := supervisor.canResumeIngestLoops
      let progress : DaemonProgress := { progress with
        startupOrder :=
          if idleReached && !progress.startupOrder.contains "ingest" then
            progress.startupOrder ++ ["ingest"]
          else
            progress.startupOrder
        ticksRun := progress.ticksRun + 1
        idleReached
        finalSummary := some summary }
      if idleReached || noMoreProgressPossible then
        return progress
      else
        runTicks env remaining { progress with lastSummary := some summary }

def runUntilIdleForTests (env : SupervisorEnv) (maxTicks : Nat) : SupervisorCommand DaemonReport := do
  let supervisor ← get
  if maxTicks = 0 then
    throw { message := "daemon test runner requires at least one tick" }
  else do
    let progress ← runTicks env maxTicks supervisor.startDaemon
    match progress.finalSummary with
    | some summary =>
        return progress.report summary
    -- the source panics here, and does not come here
    | none => throw { message := "max_ticks > 0 should execute at least one tick" }

def runUntilShutdown (env : SupervisorEnv) : SupervisorCommand DaemonReport :=
  runUntilIdleForTests env usizeMax

/-! ## Where the loop stops -/

/-- The summaries of so many runs, one after the other. -/
def runTimes (env : SupervisorEnv) : Nat → SupervisorCommand (List SupervisorSummary)
  | 0 => return []
  | ticks + 1 => do
      let summary ← runOnce env
      let summaries ← runTimes env ticks
      return summary :: summaries

variable {env : SupervisorEnv} {supervisor supervisor' : AppSupervisor} {progress : DaemonProgress}
  {summary : SupervisorSummary}

/-- After the summary `lastSummary`, one of the next runs stops the loop. -/
def StopsWithin (env : SupervisorEnv) : Nat → Option SupervisorSummary → AppSupervisor → Prop
  | 0, _, _ => False
  | ticks + 1, lastSummary, supervisor =>
      ∀ summary supervisor', exec (runOnce env) supervisor = (.ok summary, supervisor') →
        supervisor'.canResumeIngestLoops = true ∨ lastSummary = some summary ∨
          StopsWithin env ticks (some summary) supervisor'

theorem StopsWithin.mono {ticks ticks' : Nat} {lastSummary : Option SupervisorSummary}
    (h : StopsWithin env ticks lastSummary supervisor) (hle : ticks ≤ ticks') :
    StopsWithin env ticks' lastSummary supervisor := by
  induction ticks generalizing ticks' lastSummary supervisor with
  | zero => exact h.elim
  | succ ticks ih =>
      obtain ⟨ticks', rfl⟩ := Nat.exists_eq_add_of_lt hle
      intro summary supervisor' hrun
      rcases h summary supervisor' hrun with hidle | hsame | hstops
      · exact .inl hidle
      · exact .inr (.inl hsame)
      · exact .inr (.inr (ih hstops (Nat.le_add_right ticks ticks')))

/-- The progress after one more tick. -/
def ticked (progress : DaemonProgress) (summary : SupervisorSummary) (supervisor : AppSupervisor) :
    DaemonProgress :=
  { progress with
    startupOrder :=
      if supervisor.canResumeIngestLoops && !progress.startupOrder.contains "ingest" then
        progress.startupOrder ++ ["ingest"]
      else
        progress.startupOrder
    ticksRun := progress.ticksRun + 1
    idleReached := supervisor.canResumeIngestLoops
    finalSummary := some summary }

theorem exec_runTicks_succ (env : SupervisorEnv) (remaining : Nat) (progress : DaemonProgress)
    (supervisor : AppSupervisor) :
    exec (runTicks env (remaining + 1) progress) supervisor =
      match exec (runOnce env) supervisor with
      | (.error error, supervisor') => (.error error, supervisor')
      | (.ok summary, supervisor') =>
          if supervisor'.canResumeIngestLoops = true ∨ progress.lastSummary = some summary then
            (.ok (ticked progress summary supervisor'), supervisor')
          else
            exec (runTicks env remaining
              { ticked progress summary supervisor' with lastSummary := some summary }) supervisor' := by
  rw [runTicks, exec_bind]
  rcases exec (runOnce env) supervisor with ⟨_ | summary, supervisor'⟩
  · rfl
  · simp only [exec_bind, exec_get, Bool.or_eq_true, beq_iff_eq]
    split <;> rfl

theorem exec_runTimes_succ (env : SupervisorEnv) (ticks : Nat) (supervisor : AppSupervisor) :
    exec (runTimes env (ticks + 1)) supervisor =
      match exec (runOnce env) supervisor with
      | (.error error, supervisor') => (.error error, supervisor')
      | (.ok summary, supervisor') =>
          match exec (runTimes env ticks) supervisor' with
          | (.error error, supervisor'') => (.error error, supervisor'')
          | (.ok summaries, supervisor'') => (.ok (summary :: summaries), supervisor'') := by
  rw [runTimes, exec_bind]
  rcases exec (runOnce env) supervisor with ⟨_ | summary, supervisor'⟩
  · rfl
  · simp only [exec_bind]
    rcases exec (runTimes env ticks) supervisor' with ⟨_ | summaries, supervisor''⟩ <;> rfl

/-- The state that a series of runs ends in is the one its last run leaves. -/
theorem exists_runOnce_of_runTimes {ticks : Nat} {summaries : List SupervisorSummary}
    (h : exec (runTimes env (ticks + 1)) supervisor = (.ok summaries, supervisor')) :
    ∃ last summary, summaries.getLast? = some summary ∧
      exec (runOnce env) last = (.ok summary, supervisor') := by
  induction ticks generalizing supervisor summaries with
  | zero =>
      rw [exec_runTimes_succ] at h
      generalize hrun : exec (runOnce env) supervisor = run at h
      obtain ⟨_ | summary, next⟩ := run
      · cases h
      · cases h
        exact ⟨supervisor, summary, rfl, hrun⟩
  | succ ticks ih =>
      rw [exec_runTimes_succ] at h
      generalize exec (runOnce env) supervisor = run at h
      obtain ⟨_ | summary, next⟩ := run
      · cases h
      · dsimp only at h
        generalize hrest : exec (runTimes env (ticks + 1)) next = rest at h
        obtain ⟨_ | summaries, final⟩ := rest
        · cases h
        · cases h
          obtain ⟨last, summary', hlast, hrun⟩ := ih hrest
          refine ⟨last, summary', ?_, hrun⟩
          rw [List.getLast?_cons, hlast]
          rfl

/-- A loop that stops within some ticks ends alike whatever more it may make. -/
theorem runTicks_of_stopsWithin {ticks : Nat}
    (h : StopsWithin env ticks progress.lastSummary supervisor) :
    ∃ ran outcome final, ran < ticks ∧
      (∀ remaining, ran < remaining →
        exec (runTicks env remaining progress) supervisor = (outcome, final)) ∧
      match outcome with
      | .error error => exec (runTimes env (ran + 1)) supervisor = (.error error, final)
      | .ok progress' => ∃ summaries,
          exec (runTimes env (ran + 1)) supervisor = (.ok summaries, final) ∧
          progress'.ticksRun = progress.ticksRun + (ran + 1) ∧
          progress'.idleReached = final.canResumeIngestLoops ∧
          progress'.finalSummary = summaries.getLast? ∧
          (final.canResumeIngestLoops = true ∨
            ∃ earlier summary,
              progress.lastSummary.toList ++ summaries = earlier ++ [summary, summary]) := by
  induction ticks generalizing progress supervisor with
  | zero => exact h.elim
  | succ ticks ih =>
      rcases hrun : exec (runOnce env) supervisor with ⟨error | summary, next⟩
      · refine ⟨0, .error error, next, ticks.succ_pos, fun remaining hlt ↦ ?_, ?_⟩
        · obtain ⟨remaining, rfl⟩ := Nat.exists_eq_add_of_lt hlt
          rw [exec_runTicks_succ, hrun]
        · show exec (runTimes env (0 + 1)) supervisor = _
          rw [exec_runTimes_succ, hrun]
      · by_cases hstop : next.canResumeIngestLoops = true ∨ progress.lastSummary = some summary
        · refine ⟨0, .ok (ticked progress summary next), next, ticks.succ_pos, fun remaining hlt ↦ ?_,
            [summary], ?_, rfl, rfl, rfl, hstop.imp id fun hsame ↦ ⟨[], summary, ?_⟩⟩
          · obtain ⟨remaining, rfl⟩ := Nat.exists_eq_add_of_lt hlt
            rw [exec_runTicks_succ, hrun]
            exact if_pos hstop
          · rw [exec_runTimes_succ, hrun]
            rfl
          · rw [hsame]
            rfl
        · have hnext := h summary next hrun
          rw [← or_assoc] at hnext
          let carried : DaemonProgress :=
            { ticked progress summary next with lastSummary := some summary }
          have hrest : StopsWithin env ticks carried.lastSummary next := hnext.resolve_left hstop
          obtain ⟨ran, outcome, final, hlt, hloop, hends⟩ := ih hrest
          refine ⟨ran + 1, outcome, final, Nat.succ_lt_succ hlt, fun remaining hlt ↦ ?_, ?_⟩
          · obtain ⟨remaining, rfl⟩ := Nat.exists_eq_add_of_lt hlt
            rw [exec_runTicks_succ, hrun]
            exact (if_neg hstop).trans (hloop _ (by omega))
          · cases outcome with
            | error error =>
                show exec (runTimes env (ran + 1 + 1)) supervisor = _
                rw [exec_runTimes_succ, hrun]
                simp only [show exec (runTimes env (ran + 1)) next = (.error error, final) from hends]
            | ok progress' =>
                obtain ⟨summaries, htimes, hticks, hidle, hfinal, hstopped⟩ := hends
                refine ⟨summary :: summaries, ?_, ?_, hidle, ?_, hstopped.imp id ?_⟩
                · rw [exec_runTimes_succ, hrun]
                  simp only [htimes]
                · rw [hticks]
                  show progress.ticksRun + 1 + (ran + 1) = _
                  omega
                · obtain ⟨-, last, hlast, -⟩ := exists_runOnce_of_runTimes htimes
                  rw [hfinal, List.getLast?_cons, hlast]
                  rfl
                · rintro ⟨earlier, same, hsame⟩
                  refine ⟨progress.lastSummary.toList ++ earlier, same, ?_⟩
                  rw [List.append_assoc, ← hsame]
                  rfl

theorem exec_runUntilIdleForTests_error {maxTicks : Nat} {error : SupervisorError}
    (h : exec (runTicks env maxTicks supervisor.startDaemon) supervisor = (.error error, supervisor')) :
    exec (runUntilIdleForTests env maxTicks) supervisor = (.error error, supervisor') := by
  cases maxTicks with
  | zero => cases h
  | succ maxTicks =>
      simp only [runUntilIdleForTests, exec_bind, exec_get, Nat.add_eq_zero_iff, one_ne_zero, and_false,
        if_false, h]

theorem exec_runUntilIdleForTests_ok {maxTicks : Nat}
    (h : exec (runTicks env maxTicks supervisor.startDaemon) supervisor = (.ok progress, supervisor'))
    (hsummary : progress.finalSummary = some summary) :
    exec (runUntilIdleForTests env maxTicks) supervisor =
      (.ok (progress.report summary), supervisor') := by
  cases maxTicks with
  | zero =>
      cases h
      cases hsummary
  | succ maxTicks =>
      simp only [runUntilIdleForTests, exec_bind, exec_get, Nat.add_eq_zero_iff, one_ne_zero, and_false,
        if_false, h, hsummary]
      rfl

end AppSupervisor

end AxiomArb.AppLive
