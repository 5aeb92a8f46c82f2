import AxiomArb.AppLive.Queues
import AxiomArb.Library.Run

/-!
# A heartbeat that stays away

The monitor raises attention when a poll fails past the gap after the last success.  The
task group asks it at the time of its own creation, on every tick, so the gap never passes
and no outage is reported.

## Honest boundary

* What a poll returns is an input, so the source and the id it is polled with are left out.
* The clock of a history is any sequence of instants.
-/

namespace AxiomArb.AppLive

open Domain Library

/-! ## The monitor -/

def seconds (count : Int) : Int := count * 1000000000

structure HeartbeatFetchResult where
  heartbeatId : String
  valid : Bool
deriving DecidableEq, Repr

inductive HeartbeatReconcileReason where
  | missedHeartbeat | invalidHeartbeat
deriving DecidableEq, Repr

structure OrderHeartbeatState where
  heartbeatId : Option String
  lastSuccessAt : DateTime
  reconcileAttentionSince : Option DateTime
  reconcileReason : Option HeartbeatReconcileReason
  requiresReconcileAttention : Bool
deriving DecidableEq, Repr

structure OrderHeartbeatMonitor where
  maxGap : Int
deriving DecidableEq, Repr

namespace OrderHeartbeatMonitor

variable (monitor : OrderHeartbeatMonitor) (state : OrderHeartbeatState)

/-- Attention is raised once, until a success takes it back. -/
def raiseAttention (since : DateTime) (reason : HeartbeatReconcileReason) :
    Option HeartbeatReconcileReason × OrderHeartbeatState :=
  if state.requiresReconcileAttention then
    (none, state)
  else
    (some reason,
      { state with
        reconcileAttentionSince := some since
        reconcileReason := some reason
        requiresReconcileAttention := true })

def recordSuccess (heartbeatId : String) (successAt : DateTime) : OrderHeartbeatState :=
  { heartbeatId := some heartbeatId
    lastSuccessAt := successAt
    reconcileAttentionSince := none
    reconcileReason := none
    requiresReconcileAttention := false }

def recordFetchResult (result : HeartbeatFetchResult) (fetchedAt : DateTime) :
    Option HeartbeatReconcileReason × OrderHeartbeatState :=
  if result.valid then
    (none, recordSuccess result.heartbeatId fetchedAt)
  else
    raiseAttention
      { state with
        heartbeatId := if result.heartbeatId.isEmpty then none else some result.heartbeatId }
      fetchedAt .invalidHeartbeat

def reconcileTrigger (now : DateTime) : Option HeartbeatReconcileReason × OrderHeartbeatState :=
  let staleOnset := state.lastSuccessAt + monitor.maxGap
  if staleOnset < now then
    raiseAttention state staleOnset .missedHeartbeat
  else
    (none, state)

variable {monitor state} {now : DateTime} {reason : HeartbeatReconcileReason}
  {result : HeartbeatFetchResult}

/-- Asked past the gap, the monitor raises attention unless it is raised already. -/
theorem reconcileTrigger_eq_some_iff :
    (monitor.reconcileTrigger state now).1 = some reason ↔
      state.lastSuccessAt + monitor.maxGap < now ∧ state.requiresReconcileAttention = false ∧
        reason = .missedHeartbeat := by
  rw [reconcileTrigger, raiseAttention]
  by_cases hstale : state.lastSuccessAt + monitor.maxGap < now
  · cases state.requiresReconcileAttention <;> simp [hstale, eq_comm (a := reason)]
  · simp [hstale]

theorem recordFetchResult_eq_some_iff :
    (recordFetchResult state result now).1 = some reason ↔
      result.valid = false ∧ state.requiresReconcileAttention = false ∧
        reason = .invalidHeartbeat := by
  rw [recordFetchResult, raiseAttention]
  by_cases hvalid : result.valid
  · simp [hvalid]
  · cases hraised : state.requiresReconcileAttention <;> simp [hvalid, eq_comm (a := reason)]

@[simp] theorem lastSuccessAt_reconcileTrigger :
    (monitor.reconcileTrigger state now).2.lastSuccessAt = state.lastSuccessAt := by
  rw [reconcileTrigger, raiseAttention]
  split_ifs <;> rfl

@[simp] theorem lastSuccessAt_recordFetchResult :
    (recordFetchResult state result now).2.lastSuccessAt =
      if result.valid then now else state.lastSuccessAt := by
  rw [recordFetchResult, raiseAttention]
  split_ifs <;> rfl

end OrderHeartbeatMonitor

/-! ## The task group -/

structure HeartbeatTaskGroup where
  monitor : OrderHeartbeatMonitor
  state : OrderHeartbeatState
  nextJournalSeq : Int
  sessionId : String
  scopeId : String
  now : DateTime
deriving DecidableEq, Repr

def heartbeatAttentionKind : HeartbeatReconcileReason → String
  | .missedHeartbeat => "missed_heartbeat"
  | .invalidHeartbeat => "invalid_heartbeat"

def heartbeatAttentionReason : HeartbeatReconcileReason → String
  | .missedHeartbeat => "heartbeat freshness exceeded threshold"
  | .invalidHeartbeat => "heartbeat response was invalid"

namespace HeartbeatTaskGroup

/-- The clock is read here, and nowhere else. -/
def forRuntime (now : DateTime) (runSessionId : String) : HeartbeatTaskGroup :=
  { monitor := { maxGap := seconds 30 }
    state :=
      { heartbeatId := none
        lastSuccessAt := now
        reconcileAttentionSince := none
        reconcileReason := none
        requiresReconcileAttention := false }
    nextJournalSeq := 1
    sessionId := runSessionId
    scopeId := "runtime"
    now }

variable (group : HeartbeatTaskGroup)

def runtimeAttentionInput (reason : HeartbeatReconcileReason) (detail : Option String) :
    InputTaskEvent × HeartbeatTaskGroup :=
  (.new group.nextJournalSeq
      (.runtimeAttentionObserved "heartbeat" group.sessionId
        s!"heartbeat-attention-{group.nextJournalSeq}" group.scopeId (heartbeatAttentionKind reason)
        (detail.getD (heartbeatAttentionReason reason)) group.now),
    { group with nextJournalSeq := group.nextJournalSeq + 1 })

/-- The input for the attention, if there is any. -/
def attend (attention : Option HeartbeatReconcileReason) (detail : Option String) :
    Option InputTaskEvent × HeartbeatTaskGroup :=
  match attention with
  | none => (none, group)
  | some reason =>
      let (input, group) := group.runtimeAttentionInput reason detail
      (some input, group)

/-- A tick never fails. -/
def tick (polled : Except String HeartbeatFetchResult) : Option InputTaskEvent × HeartbeatTaskGroup :=
  match polled with
  | .ok result =>
      let (attention, state) := OrderHeartbeatMonitor.recordFetchResult group.state result group.now
      attend { group with state } attention none
  | .error error =>
      let (attention, state) := group.monitor.reconcileTrigger group.state group.now
      attend { group with state } attention (some error)

variable {group : HeartbeatTaskGroup} {polled : Except String HeartbeatFetchResult}

/-- The input reports that the heartbeat was missed. -/
def ReportsMissed (input : InputTaskEvent) : Prop :=
  ∃ payload, input.event.payload = some (.runtimeAttentionObserved payload) ∧
    payload.attentionKind = heartbeatAttentionKind .missedHeartbeat

/-- The last success is as late as the group's own time, which no tick moves. -/
structure Fresh (group : HeartbeatTaskGroup) : Prop where
  gap : 0 ≤ group.monitor.maxGap
  last : group.state.lastSuccessAt = group.now

theorem fresh_forRuntime (now : DateTime) (runSessionId : String) :
    (forRuntime now runSessionId).Fresh := ⟨by simp [forRuntime, seconds], rfl⟩

theorem tick_ok (result : HeartbeatFetchResult) : group.tick (.ok result) =
    attend { group with
        state := (OrderHeartbeatMonitor.recordFetchResult group.state result group.now).2 }
      (OrderHeartbeatMonitor.recordFetchResult group.state result group.now).1 none := rfl

theorem tick_error (error : String) : group.tick (.error error) =
    attend { group with state := (group.monitor.reconcileTrigger group.state group.now).2 }
      (group.monitor.reconcileTrigger group.state group.now).1 (some error) := rfl

/-- An input for the attention leaves all but its number. -/
theorem fresh_attend_iff (group : HeartbeatTaskGroup) (attention : Option HeartbeatReconcileReason)
    (detail : Option String) : (group.attend attention detail).2.Fresh ↔ group.Fresh := by
  cases attention with
  | none => exact Iff.rfl
  | some reason => exact ⟨fun h ↦ ⟨h.gap, h.last⟩, fun h ↦ ⟨h.gap, h.last⟩⟩

theorem Fresh.tick (h : group.Fresh) : (group.tick polled).2.Fresh := by
  cases polled with
  | ok result =>
      rw [tick_ok, fresh_attend_iff]
      refine ⟨h.gap, ?_⟩
      rw [OrderHeartbeatMonitor.lastSuccessAt_recordFetchResult, h.last, ite_self]
  | error error =>
      rw [tick_error, fresh_attend_iff]
      refine ⟨h.gap, ?_⟩
      rw [OrderHeartbeatMonitor.lastSuccessAt_reconcileTrigger, h.last]

/-- A failed poll is passed over, as no time has gone by for the group. -/
theorem Fresh.tick_error (h : group.Fresh) (error : String) :
    (group.tick (.error error)).1 = none := by
  have hnone : (group.monitor.reconcileTrigger group.state group.now).1 = none := by
    rw [Option.eq_none_iff_forall_ne_some]
    intro reason hreason
    have hstale := (OrderHeartbeatMonitor.reconcileTrigger_eq_some_iff.mp hreason).1
    rw [h.last] at hstale
    exact absurd hstale (not_lt.mpr (Int.le_add_of_nonneg_right h.gap))
  rw [HeartbeatTaskGroup.tick_error, hnone]
  rfl

theorem Fresh.not_reportsMissed (h : group.Fresh) {input : InputTaskEvent}
    (hinput : (group.tick polled).1 = some input) : ¬ ReportsMissed input := by
  cases polled with
  | error error =>
      rw [h.tick_error error] at hinput
      cases hinput
  | ok result =>
      rw [tick_ok] at hinput
      cases hattention : (OrderHeartbeatMonitor.recordFetchResult group.state result group.now).1 with
      | none =>
          rw [hattention] at hinput
          cases hinput
      | some reason =>
          rw [hattention] at hinput
          obtain ⟨-, -, rfl⟩ :=
            OrderHeartbeatMonitor.recordFetchResult_eq_some_iff.mp hattention
          rintro ⟨payload, hpayload, hkind⟩
          rw [← Option.some.inj hinput] at hpayload
          have hinvalid : payload.attentionKind = heartbeatAttentionKind .invalidHeartbeat := by
            rw [← ExternalFactPayloadData.runtimeAttentionObserved.inj (Option.some.inj hpayload)]
          exact absurd (hinvalid.symm.trans hkind) (by decide)

end HeartbeatTaskGroup

/-! ## Histories -/

/-- When the group is created, and when each tick is and what it polls. -/
structure HeartbeatHistory where
  createdAt : DateTime
  clock : ℕ → DateTime
  polled : ℕ → Except String HeartbeatFetchResult

namespace HeartbeatHistory

open HeartbeatTaskGroup

variable (history : HeartbeatHistory) (runSessionId : String)

/-- The group before the tick. -/
def groupAt (n : ℕ) : HeartbeatTaskGroup :=
  run (fun group polled ↦ (group.tick polled).2) (forRuntime history.createdAt runSessionId)
    ((List.range n).map history.polled)

def emitted (n : ℕ) : Option InputTaskEvent :=
  ((history.groupAt runSessionId n).tick (history.polled n)).1

/-- The time of the last valid heartbeat before the tick; the creation counts as one. -/
def lastValidAt : ℕ → DateTime
  | 0 => history.createdAt
  | n + 1 =>
      match history.polled n with
      | .ok result => if result.valid then history.clock n else lastValidAt n
      | .error _ => lastValidAt n

/-- From the tick on every poll fails, and the clock passes the gap after the last valid
heartbeat. -/
def DeadFrom (start : ℕ) : Prop :=
  (∀ n, start ≤ n → ∃ error, history.polled n = .error error) ∧
    ∃ n, start ≤ n ∧ history.lastValidAt n + seconds 30 < history.clock n

/-- An outage is reported, and not before the gap has passed. -/
structure Detects : Prop where
  reported : ∀ start, history.DeadFrom start →
    ∃ n input, start ≤ n ∧ history.emitted runSessionId n = some input ∧ ReportsMissed input
  silent : ∀ n input, history.clock n ≤ history.lastValidAt n + seconds 30 →
    history.emitted runSessionId n = some input → ¬ ReportsMissed input

variable {history runSessionId}

theorem fresh_groupAt (n : ℕ) : (history.groupAt runSessionId n).Fresh :=
  run_inv (fun _ _ hfresh ↦ hfresh.tick) (fresh_forRuntime _ _)

theorem not_reportsMissed {n : ℕ} {input : InputTaskEvent}
    (h : history.emitted runSessionId n = some input) : ¬ ReportsMissed input :=
  (fresh_groupAt n).not_reportsMissed h

/-- **Outages are reported if and only if there are none.** -/
theorem detects_iff (history : HeartbeatHistory) (runSessionId : String) :
    history.Detects runSessionId ↔ ∀ start, ¬ history.DeadFrom start := by
  constructor
  · intro h start hdead
    obtain ⟨n, input, -, hinput, hmissed⟩ := h.reported start hdead
    exact not_reportsMissed hinput hmissed
  · intro h
    exact
      { reported := fun start hdead ↦ absurd hdead (h start)
        silent := fun n input _ hinput ↦ not_reportsMissed hinput }

/-- A poll that times out every ten seconds is never reported. -/
theorem timeouts_not_detected :
    ¬ ∀ (history : HeartbeatHistory) (runSessionId : String), history.Detects runSessionId := by
  intro h
  let timeouts : HeartbeatHistory :=
    { createdAt := 0
      clock := fun n ↦ seconds (10 * n)
      polled := fun _ ↦ .error "timeout" }
  have hdead : timeouts.DeadFrom 0 := by
    refine ⟨fun n _ ↦ ⟨"timeout", rfl⟩, 4, Nat.zero_le 4, ?_⟩
    have hlast : timeouts.lastValidAt 4 = 0 := rfl
    rw [hlast]
    decide
  obtain ⟨n, input, -, hinput, hmissed⟩ := (h timeouts "session-1").reported 0 hdead
  exact not_reportsMissed hinput hmissed

end HeartbeatHistory

end AxiomArb.AppLive
