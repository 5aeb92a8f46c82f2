import AxiomArb.AppLive.SessionLookup
import Mathlib.Data.List.Nodup

/-!
# Runs and their sessions

A run creates a session, runs the runtime, and closes the session once the runtime has returned:
it marks it running, refreshes it and marks it exited, or marks it failed.  Any number of runs
share the table of sessions, and each may crash at any point.  The table is the picture of the
runs (`sessions_eq`): no call of a run is refused, and while the runtime runs, its session stays
as it was when it started.

## Honest boundary

* There is one clock, and a call takes effect at the time that it writes.
* What a runtime does beside noting its session in the progress row is left open.
-/

namespace AxiomArb.AppLive

open ConfigSchema Domain Library Persistence RunSessionRepo

/-! ## Runs -/

/-- How far a run has come with its session. -/
inductive RunPhase where
  | runtime
  | markedRunning (seenAt : DateTime)
  | refreshed (seenAt : DateTime)
  | exited (endedAt : DateTime)
  | failed (endedAt : DateTime) (reason : String)
  /-- A call was refused. -/
  | refused
deriving DecidableEq, Repr

structure Run where
  /-- The session as it was created. -/
  started : RunSessionRow
  phase : RunPhase
  alive : Bool
deriving DecidableEq, Repr

def Run.runSessionId (run : Run) : String := run.started.runSessionId

structure Runs where
  now : DateTime
  sessions : RunSessions
  progress : Option RuntimeProgressRow
  runs : List Run

inductive RunEvent (reader : ConfigReader) where
  | tick (elapsed : Nat)
  | start (start : RunStart) (config : RawAxiomConfig reader)
  /-- The runtime of a run writes the progress row. -/
  | anchor (i : Nat) (excluded : RuntimeProgressRow)
  /-- The runtime of a run returns. -/
  | finish (i : Nat) (result : Except String Unit)
  /-- The next call of a run whose runtime returned well. -/
  | close (i : Nat)
  | crash (i : Nat)

namespace Runs

variable {reader : ConfigReader}

def new (now : DateTime) : Runs := { now, sessions := [], progress := none, runs := [] }

/-- A call of a run to the store. -/
def call (world : Runs) (i : Nat) (run : Run)
    (write : RunSessions → Except RunSessionError RunSessions) (phase : RunPhase) : Runs :=
  match write world.sessions with
  | .ok sessions => { world with sessions, runs := world.runs.set i { run with phase } }
  | .error _ => { world with runs := world.runs.set i { run with phase := .refused } }

/-- The run under a number, if it has not crashed. -/
def aliveAt (world : Runs) (i : Nat) : Option Run := world.runs[i]?.filter Run.alive

def step (world : Runs) : RunEvent reader → Runs
  | .tick elapsed => { world with now := world.now + elapsed }
  | .start start config =>
      match buildStartingRow { start with startedAt := world.now } config with
      | .error _ => world
      | .ok row =>
          match createStarting row world.sessions with
          | .error _ => world
          | .ok sessions =>
              { world with
                sessions, runs := world.runs ++ [{ started := row, phase := .runtime, alive := true }] }
  | .anchor i excluded =>
      match world.aliveAt i with
      | some run =>
          if run.phase = .runtime then
            let excluded := { excluded with activeRunSessionId := some run.runSessionId }
            { world with progress := some (excluded.upserted world.progress) }
          else world
      | none => world
  | .finish i result =>
      match world.aliveAt i with
      | some run =>
          if run.phase = .runtime then
            match result with
            | .ok () =>
                world.call i run (markRunning run.runSessionId world.now) (.markedRunning world.now)
            | .error reason =>
                world.call i run (markFailed run.runSessionId world.now reason)
                  (.failed world.now reason)
          else world
      | none => world
  | .close i =>
      match world.aliveAt i with
      | some run =>
          match run.phase with
          | .markedRunning _ =>
              world.call i run (refreshLastSeen run.runSessionId world.now) (.refreshed world.now)
          | .refreshed _ =>
              world.call i run (markExited run.runSessionId world.now "success" none)
                (.exited world.now)
          | _ => world
      | none => world
  | .crash i =>
      match world.aliveAt i with
      | some run => { world with runs := world.runs.set i { run with alive := false } }
      | none => world

end Runs

/-! ## The picture of the runs -/

/-- The session that a run should have. -/
def Run.row (run : Run) : RunSessionRow :=
  match run.phase with
  | .runtime | .refused => run.started
  | .markedRunning seenAt | .refreshed seenAt =>
      { run.started with state := .running, lastSeenAt := seenAt }
  | .exited endedAt =>
      { run.started with
        state := .exited, lastSeenAt := endedAt, endedAt := some endedAt
        exitStatus := some "success" }
  | .failed endedAt reason =>
      { run.started with
        state := .failed, lastSeenAt := endedAt, endedAt := some endedAt
        exitStatus := some "failed", exitReason := some reason }

@[simp] theorem Run.row_runSessionId (run : Run) : run.row.runSessionId = run.runSessionId := by
  rw [Run.row]
  split <;> rfl

/-- A session at its start. -/
structure AtStart (row : RunSessionRow) : Prop where
  state : row.state = .starting
  lastSeenAt : row.lastSeenAt = row.startedAt
  endedAt : row.endedAt = none
  exitStatus : row.exitStatus = none
  exitReason : row.exitReason = none

theorem atStart_of_buildStartingRow {reader : ConfigReader} {start : RunStart}
    {config : RawAxiomConfig reader} {row : RunSessionRow}
    (h : buildStartingRow start config = .ok row) : AtStart row ∧ row.startedAt = start.startedAt := by
  obtain ⟨snapshot, -, h⟩ := bind_eq_ok.mp h
  cases h
  exact ⟨⟨rfl, rfl, rfl, rfl, rfl⟩, rfl⟩

section Update

variable {runs : List Run} {run run' : Run} {i : Nat}

theorem runSessionId_ne (hdistinct : (runs.map Run.runSessionId).Nodup)
    (hi : runs[i]? = some run) {j : Nat} (hj : runs[j]? = some run') (hne : i ≠ j) :
    run'.runSessionId ≠ run.runSessionId := by
  intro heq
  have hlt : i < (runs.map Run.runSessionId).length := by
    rw [List.length_map]
    exact (List.getElem?_eq_some_iff.mp hi).1
  refine hne ((List.getElem?_inj hlt hdistinct).mp ?_)
  rw [List.getElem?_map, List.getElem?_map, hi, hj, Option.map_some, Option.map_some, heq]

/-- An update of the session of one run, in the picture. -/
theorem updateActive_map_row (hdistinct : (runs.map Run.runSessionId).Nodup)
    (hi : runs[i]? = some run) {allowedFrom : List RunSessionState}
    (hstate : run.row.state ∈ allowedFrom) {toState : String}
    {update : RunSessionRow → RunSessionRow} (hupdate : update run.row = run'.row) :
    updateActive run.runSessionId allowedFrom toState update (runs.map Run.row) =
      .ok ((runs.set i run').map Run.row) := by
  have hselected : (runs.map Run.row).any (fun row ↦
      decide (row.runSessionId = run.runSessionId ∧ row.state ∈ allowedFrom)) = true := by
    refine List.any_eq_true.mpr ⟨run.row, List.mem_map_of_mem (List.mem_of_getElem? hi), ?_⟩
    exact decide_eq_true ⟨run.row_runSessionId, hstate⟩
  rw [updateActive, if_pos hselected]
  refine congrArg Except.ok (List.ext_getElem? fun j ↦ ?_)
  rw [List.map_map, List.getElem?_map, List.getElem?_map, List.getElem?_set]
  split_ifs with hij hlt
  · obtain rfl := hij
    rw [hi, Option.map_some, Option.map_some, Function.comp_apply,
      if_pos (decide_eq_true ⟨run.row_runSessionId, hstate⟩), hupdate]
  · obtain rfl := hij
    exact absurd (List.getElem?_eq_some_iff.mp hi).1 hlt
  · cases hj : runs[j]? with
    | none => rfl
    | some other =>
      have hne : other.row.runSessionId ≠ run.runSessionId :=
        other.row_runSessionId ▸ runSessionId_ne hdistinct hi hj hij
      have hother : ¬(other.row.runSessionId = run.runSessionId ∧ other.row.state ∈ allowedFrom) :=
        fun h ↦ hne h.1
      rw [Option.map_some, Option.map_some, Function.comp_apply,
        if_neg (by rw [decide_eq_true_iff]; exact hother)]

theorem forall_mem_set {P : Run → Prop} (hall : ∀ run ∈ runs, P run) (hnew : P run') :
    ∀ run ∈ runs.set i run', P run := by
  intro run hrun
  rcases List.mem_or_eq_of_mem_set hrun with hold | rfl
  · exact hall run hold
  · exact hnew

theorem map_set_of_eq {α : Type} (view : Run → α) (hi : runs[i]? = some run)
    (hview : view run' = view run) : (runs.set i run').map view = runs.map view := by
  obtain ⟨hlt, hget⟩ := List.getElem?_eq_some_iff.mp hi
  rw [List.map_set, hview]
  refine (congrArg _ ?_).trans (List.set_getElem_self (by rwa [List.length_map]))
  rw [List.getElem_map, hget]

end Update

/-! ## Events -/

structure Runs.Inv (world : Runs) : Prop where
  sessions : world.sessions = world.runs.map Run.row
  distinct : (world.runs.map Run.runSessionId).Nodup
  atStart : ∀ run ∈ world.runs, AtStart run.started
  phase : ∀ run ∈ world.runs, run.phase ≠ .refused
  seen : ∀ run ∈ world.runs, run.row.lastSeenAt ≤ world.now

variable {world : Runs} {reader : ConfigReader}

theorem Runs.inv_new (now : DateTime) : (Runs.new now).Inv where
  sessions := rfl
  distinct := .nil
  atStart := List.forall_mem_nil _
  phase := List.forall_mem_nil _
  seen := List.forall_mem_nil _

/-- A call that is granted and written as the run's next phase says. -/
theorem Runs.Inv.call (h : world.Inv) {i : Nat} {run : Run} (hi : world.runs[i]? = some run)
    {allowedFrom : List RunSessionState} (hstate : run.row.state ∈ allowedFrom)
    {toState : String} {update : RunSessionRow → RunSessionRow} {phase : RunPhase}
    (hphase : phase ≠ .refused) (hupdate : update run.row = Run.row { run with phase })
    (hseen : (Run.row { run with phase }).lastSeenAt ≤ world.now) :
    (world.call i run (updateActive run.runSessionId allowedFrom toState update) phase).Inv := by
  rw [Runs.call, h.sessions, updateActive_map_row h.distinct hi hstate hupdate]
  have hmem : run ∈ world.runs := List.mem_of_getElem? hi
  refine ⟨rfl, ?_, forall_mem_set h.atStart (h.atStart run hmem), forall_mem_set h.phase hphase,
    forall_mem_set h.seen hseen⟩
  have hids : (world.runs.set i { run with phase }).map Run.runSessionId =
      world.runs.map Run.runSessionId := map_set_of_eq _ hi rfl
  exact hids ▸ h.distinct

/-- The run that steps is one of the runs. -/
theorem Runs.getElem?_of_aliveAt {i : Nat} {run : Run} (h : world.aliveAt i = some run) :
    world.runs[i]? = some run := (Option.filter_eq_some_iff.mp h).1

theorem Runs.Inv.start (h : world.Inv) (start : RunStart) (config : RawAxiomConfig reader) :
    (world.step (.start start config)).Inv := by
  rw [Runs.step]
  cases hrow : buildStartingRow { start with startedAt := world.now } config with
  | error _ => exact h
  | ok row =>
    obtain ⟨hstart, hstarted⟩ := atStart_of_buildStartingRow hrow
    dsimp only
    cases hcreate : createStarting row world.sessions with
    | error _ => exact h
    | ok sessions =>
      obtain rfl := createStarting_eq_ok hcreate
      have hnew : row.runSessionId ∉ world.sessions.map RunSessionRow.runSessionId := by
        rw [createStarting] at hcreate
        split_ifs at hcreate with _ _ _ _ hnew
        exact hnew
      have hids : world.sessions.map RunSessionRow.runSessionId =
          world.runs.map Run.runSessionId := by
        rw [h.sessions, List.map_map]
        exact List.map_congr_left fun run _ ↦ run.row_runSessionId
      have hadd : ∀ {P : Run → Prop}, (∀ run ∈ world.runs, P run) →
          P { started := row, phase := .runtime, alive := true } →
          ∀ run ∈ world.runs ++ [{ started := row, phase := .runtime, alive := true }], P run := by
        intro P hall hrun run hmem
        rcases List.mem_append.mp hmem with hold | hlast
        · exact hall run hold
        · exact List.mem_singleton.mp hlast ▸ hrun
      refine ⟨?_, ?_, hadd h.atStart hstart, hadd h.phase (by rintro ⟨⟩), hadd h.seen ?_⟩
      · rw [List.map_append, ← h.sessions]
        rfl
      · rw [List.map_append]
        refine List.nodup_append.mpr ⟨h.distinct, List.nodup_singleton _, ?_⟩
        rintro id hid id' hid' rfl
        obtain rfl : id = row.runSessionId := List.mem_singleton.mp hid'
        exact hnew (hids ▸ hid)
      · show row.lastSeenAt ≤ world.now
        rw [hstart.lastSeenAt, hstarted]

theorem Runs.Inv.finish (h : world.Inv) (i : Nat) (result : Except String Unit) :
    (world.step (.finish i result : RunEvent reader)).Inv := by
  rw [Runs.step]
  cases hrun : world.aliveAt i with
  | none => exact h
  | some run =>
    have hi := Runs.getElem?_of_aliveAt hrun
    have hmem := List.mem_of_getElem? hi
    have hstart := h.atStart run hmem
    dsimp only
    split_ifs with hphase
    · have hrow : run.row = run.started := by rw [Run.row, hphase]
      have hseen : max run.started.lastSeenAt world.now = world.now :=
        max_eq_right (hrow ▸ h.seen run hmem)
      cases result with
      | ok _ =>
        refine h.call hi ?_ (by rintro ⟨⟩) ?_ le_rfl
        · rw [hrow, hstart.state]
          decide
        · rw [hrow]
          simp [transitioned, Run.row, hseen, hstart.endedAt, hstart.exitStatus, hstart.exitReason]
      | error reason =>
        refine h.call hi ?_ (by rintro ⟨⟩) ?_ le_rfl
        · rw [hrow, hstart.state]
          decide
        · rw [hrow]
          simp [transitioned, Run.row, hseen]
    · exact h

theorem Runs.Inv.close (h : world.Inv) (i : Nat) :
    (world.step (.close i : RunEvent reader)).Inv := by
  rw [Runs.step]
  cases hrun : world.aliveAt i with
  | none => exact h
  | some run =>
    have hi := Runs.getElem?_of_aliveAt hrun
    have hmem := List.mem_of_getElem? hi
    have hstart := h.atStart run hmem
    have hseen : max run.row.lastSeenAt world.now = world.now := max_eq_right (h.seen run hmem)
    dsimp only
    split
    · rename_i seenAt hphase
      have hrow : run.row = { run.started with state := .running, lastSeenAt := seenAt } := by
        rw [Run.row, hphase]
      refine h.call hi ?_ (by rintro ⟨⟩) ?_ le_rfl
      · rw [hrow]
        exact List.mem_cons_of_mem _ (List.mem_singleton_self _)
      · rw [hseen, hrow]
        rfl
    · rename_i seenAt hphase
      have hrow : run.row = { run.started with state := .running, lastSeenAt := seenAt } := by
        rw [Run.row, hphase]
      refine h.call hi ?_ (by rintro ⟨⟩) ?_ le_rfl
      · rw [hrow]
        exact List.mem_cons_of_mem _ (List.mem_singleton_self _)
      · rw [transitioned, hseen, hrow]
        simp [Run.row, hstart.exitReason]
    · exact h

theorem Runs.Inv.crash (h : world.Inv) (i : Nat) :
    (world.step (.crash i : RunEvent reader)).Inv := by
  rw [Runs.step]
  cases hrun : world.aliveAt i with
  | none => exact h
  | some run =>
    have hi := Runs.getElem?_of_aliveAt hrun
    have hmem := List.mem_of_getElem? hi
    have hrows : (world.runs.set i { run with alive := false }).map Run.row =
        world.runs.map Run.row := map_set_of_eq _ hi rfl
    have hids : (world.runs.set i { run with alive := false }).map Run.runSessionId =
        world.runs.map Run.runSessionId := map_set_of_eq _ hi rfl
    exact ⟨h.sessions.trans hrows.symm, hids ▸ h.distinct,
      forall_mem_set h.atStart (h.atStart run hmem), forall_mem_set h.phase (h.phase run hmem),
      forall_mem_set h.seen (h.seen run hmem)⟩

theorem Runs.Inv.step (h : world.Inv) (event : RunEvent reader) : (world.step event).Inv := by
  cases event with
  | tick elapsed =>
    refine { h with seen := fun run hrun ↦ (h.seen run hrun).trans ?_ }
    exact Int.le_add_of_nonneg_right (Int.natCast_nonneg elapsed)
  | start start config => exact h.start start config
  | anchor i excluded =>
    rw [Runs.step]
    split
    · split_ifs
      · exact ⟨h.sessions, h.distinct, h.atStart, h.phase, h.seen⟩
      · exact h
    · exact h
  | finish i result => exact h.finish i result
  | close i => exact h.close i
  | crash i => exact h.crash i

theorem Runs.inv_run (now : DateTime) (events : List (RunEvent reader)) :
    (run Runs.step (Runs.new now) events).Inv :=
  run_inv (fun _ event h ↦ h.step event) (Runs.inv_new now)

/-- Whatever the runs do and wherever they crash, the table holds the session of each run in the
order of their starts, as its phase says, and no call was refused. -/
theorem sessions_eq (now : DateTime) (events : List (RunEvent reader)) :
    let world := run Runs.step (Runs.new now) events
    world.sessions = world.runs.map Run.row ∧
      (world.runs.map Run.runSessionId).Nodup ∧
      ∀ run ∈ world.runs, run.phase ≠ .refused ∧ AtStart run.started ∧
        run.row.lastSeenAt ≤ world.now := by
  intro world
  have h : world.Inv := Runs.inv_run now events
  exact ⟨h.sessions, h.distinct, fun run hrun ↦
    ⟨h.phase run hrun, h.atStart run hrun, h.seen run hrun⟩⟩

end AxiomArb.AppLive
