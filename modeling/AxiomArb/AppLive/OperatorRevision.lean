import AxiomArb.AppLive.Supervisor
import AxiomArb.Library.Run
import AxiomArb.Persistence.RuntimeProgress

/-!
# Operator revisions

A startup that has durable work to resume is checked against the progress row: by its
strategy revision, or by its target revision if it has no other.  After it has run it
records both in that row.  As a column for which no revision is given stays, it may
come to describe an earlier startup than the other one does.
-/

namespace AxiomArb.AppLive

open Library Persistence

/-! ## The check and the record -/

def validateStrategyRevision (progress : Option RuntimeProgressRow) (expected : String)
    (allowLegacyTargetSourceResume : Bool) : Except String Unit :=
  let required := "operator strategy revision anchor is required when a startup strategy bundle is supplied"
  match progress with
  | none => .error required
  | some row =>
      match row.operatorStrategyRevision with
      | some actual =>
          if actual = expected then
            .ok ()
          else
            .error s!"operator strategy revision anchor mismatch: persisted={actual} configured={expected}"
      | none =>
          if allowLegacyTargetSourceResume = true ∧ row.operatorTargetRevision = some expected then
            .ok ()
          else
            .error required

def validateTargetRevision (progress : Option RuntimeProgressRow) (expected : String) :
    Except String Unit :=
  let required := "operator target revision anchor is required when live operator targets are supplied"
  match progress with
  | none => .error required
  | some row =>
      match row.operatorTargetRevision with
      | some actual =>
          if actual = expected then
            .ok ()
          else
            .error s!"operator target revision anchor mismatch: persisted={actual} configured={expected}"
      | none => .error required

/-- Nothing is checked if there is no work to resume, or no revision to check. -/
def validateOperatorRevision (progress : Option RuntimeProgressRow)
    (expectedStrategyRevision expectedTargetRevision : Option String)
    (allowLegacyTargetSourceResume hasDurableFollowUpWork : Bool) : Except String Unit :=
  match expectedStrategyRevision, expectedTargetRevision with
  | some expected, _ =>
      if hasDurableFollowUpWork then
        validateStrategyRevision progress expected allowLegacyTargetSourceResume
      else
        .ok ()
  | none, some expected =>
      if hasDurableFollowUpWork then validateTargetRevision progress expected else .ok ()
  | none, none => .ok ()

def persistOperatorTargetRevisionAnchor (summary : SupervisorSummary)
    (operatorTargetRevision operatorStrategyRevision activeRunSessionId : Option String) :
    Command String (Option RuntimeProgressRow) Unit :=
  if operatorTargetRevision = none ∧ operatorStrategyRevision = none then
    return
  else if summary.lastStateVersion ≤ 9223372036854775807 then
    recordProgressWithStrategyRevision summary.lastJournalSeq summary.lastStateVersion
      summary.publishedSnapshotId operatorTargetRevision operatorStrategyRevision
      activeRunSessionId
  else
    throw s!"startup state version {summary.lastStateVersion} does not fit in i64"

/-! ## Startups -/

/-- A startup, with what it ends with. -/
structure OperatorStartup where
  operatorStrategyRevision : Option String
  operatorTargetRevision : Option String
  hasDurableFollowUpWork : Bool
  summary : SupervisorSummary
  activeRunSessionId : Option String
deriving DecidableEq, Repr

/-- The progress row, and the startup that was the latest to record an anchor. -/
structure StartupLog where
  progress : Option RuntimeProgressRow
  latest : Option OperatorStartup
deriving DecidableEq, Repr

namespace OperatorStartup

variable (startup : OperatorStartup)

/-- A revision is supplied. -/
def Supplies : Prop :=
  startup.operatorStrategyRevision ≠ none ∨ startup.operatorTargetRevision ≠ none

instance : DecidablePred Supplies := fun _ ↦ inferInstanceAs (Decidable (_ ∨ _))

def Accepted (progress : Option RuntimeProgressRow) : Prop :=
  validateOperatorRevision progress startup.operatorStrategyRevision
    startup.operatorTargetRevision false startup.hasDurableFollowUpWork = .ok ()

instance (progress : Option RuntimeProgressRow) : Decidable (startup.Accepted progress) :=
  match h : validateOperatorRevision progress startup.operatorStrategyRevision
    startup.operatorTargetRevision false startup.hasDurableFollowUpWork with
  | .ok () => .isTrue h
  | .error _ => .isFalse fun heq ↦ by rw [Accepted, h] at heq; cases heq

def persistAnchor : Command String (Option RuntimeProgressRow) Unit :=
  persistOperatorTargetRevisionAnchor startup.summary startup.operatorTargetRevision
    startup.operatorStrategyRevision startup.activeRunSessionId

/-- Its revision is the one that `latest` supplied: the strategy revision, or the target
revision if there is no other. -/
def SuppliedBy (latest : OperatorStartup) : Prop :=
  match startup.operatorStrategyRevision with
  | some revision => latest.operatorStrategyRevision = some revision
  | none => ∃ revision,
      startup.operatorTargetRevision = some revision ∧
        latest.operatorTargetRevision = some revision

end OperatorStartup

namespace StartupLog

def empty : StartupLog := { progress := none, latest := none }

/-- A startup that is not accepted leaves everything as it is. -/
def startUp (log : StartupLog) (startup : OperatorStartup) : StartupLog :=
  if startup.Accepted log.progress then
    match exec startup.persistAnchor log.progress with
    | (.ok _, progress) =>
        { progress, latest := if startup.Supplies then some startup else log.latest }
    | (.error _, progress) => { log with progress }
  else
    log

/-- If the startup is accepted with work to resume, its revision is the one that was
supplied by the latest startup that recorded an anchor. -/
def ResumesOwn (log : StartupLog) (startup : OperatorStartup) : Prop :=
  startup.Accepted log.progress → startup.hasDurableFollowUpWork = true →
    ∃ latest, log.latest = some latest ∧ startup.SuppliedBy latest

/-- The startup is accepted and records an anchor. -/
def Records (log : StartupLog) (startup : OperatorStartup) : Prop :=
  startup.Accepted log.progress ∧ startup.Supplies ∧
    startup.summary.lastStateVersion ≤ 9223372036854775807

/-- If the startup records an anchor, it supplies a revision for every column in which
the row holds one. -/
def Completes (log : StartupLog) (startup : OperatorStartup) : Prop :=
  log.Records startup →
    (startup.operatorStrategyRevision = none →
      column RuntimeProgressRow.operatorStrategyRevision log.progress = none) ∧
    (startup.operatorTargetRevision = none →
      column RuntimeProgressRow.operatorTargetRevision log.progress = none)

/-- Exactly the startups that supply a revision, or have nothing to resume, resume
their own work. -/
def Faithful (log : StartupLog) : Prop :=
  ∀ startup, log.ResumesOwn startup ↔
    startup.Supplies ∨ startup.hasDurableFollowUpWork = false

/-- What the row holds was supplied by the latest startup that recorded an anchor. -/
def Fresh (log : StartupLog) : Prop :=
  (∀ revision, column RuntimeProgressRow.operatorStrategyRevision log.progress = some revision →
    ∃ latest, log.latest = some latest ∧ latest.operatorStrategyRevision = some revision) ∧
  (∀ revision, column RuntimeProgressRow.operatorTargetRevision log.progress = some revision →
    ∃ latest, log.latest = some latest ∧ latest.operatorTargetRevision = some revision)

end StartupLog

/-! ## What is accepted -/

section Accepted

variable {startup : OperatorStartup} {progress : Option RuntimeProgressRow} {revision : String}

theorem accepted_iff_of_strategy (hstrategy : startup.operatorStrategyRevision = some revision)
    (hwork : startup.hasDurableFollowUpWork = true) :
    startup.Accepted progress ↔
      column RuntimeProgressRow.operatorStrategyRevision progress = some revision := by
  simp only [OperatorStartup.Accepted, validateOperatorRevision, hstrategy, hwork, if_true,
    validateStrategyRevision, column]
  cases progress with
  | none => simp
  | some row => cases hactual : row.operatorStrategyRevision <;> simp [hactual]

theorem accepted_iff_of_target (hstrategy : startup.operatorStrategyRevision = none)
    (htarget : startup.operatorTargetRevision = some revision)
    (hwork : startup.hasDurableFollowUpWork = true) :
    startup.Accepted progress ↔
      column RuntimeProgressRow.operatorTargetRevision progress = some revision := by
  simp only [OperatorStartup.Accepted, validateOperatorRevision, hstrategy, htarget, hwork, if_true,
    validateTargetRevision, column]
  cases progress with
  | none => simp
  | some row => cases hactual : row.operatorTargetRevision <;> simp [hactual]

/-- A startup that supplies no revision is never checked. -/
theorem accepted_of_not_supplies (h : ¬ startup.Supplies) : startup.Accepted progress := by
  simp only [OperatorStartup.Supplies, not_or, not_not] at h
  simp only [OperatorStartup.Accepted, validateOperatorRevision, h.1, h.2]

end Accepted

namespace StartupLog

variable {log : StartupLog} {startup : OperatorStartup}

/-- A startup records its anchor, or leaves everything as it is. -/
theorem startUp_cases (log : StartupLog) (startup : OperatorStartup) :
    (log.Records startup ∧ ∃ excluded : RuntimeProgressRow,
      excluded.operatorStrategyRevision = startup.operatorStrategyRevision ∧
      excluded.operatorTargetRevision = startup.operatorTargetRevision ∧
      log.startUp startup =
        { progress := some (excluded.upserted log.progress), latest := some startup }) ∨
    ¬ log.Records startup ∧ log.startUp startup = log := by
  simp only [startUp, Records, OperatorStartup.persistAnchor, persistOperatorTargetRevisionAnchor,
    recordProgressWithStrategyRevision]
  by_cases haccepted : startup.Accepted log.progress
  · by_cases hsupplies : startup.Supplies
    · have hsome : ¬ (startup.operatorTargetRevision = none ∧
          startup.operatorStrategyRevision = none) := fun hnone ↦
        hsupplies.elim (· hnone.2) (· hnone.1)
      rw [if_pos haccepted, if_neg hsome]
      by_cases hversion : startup.summary.lastStateVersion ≤ 9223372036854775807
      · rw [if_pos hversion, exec_modify, if_pos hsupplies]
        exact .inl ⟨⟨haccepted, hsupplies, hversion⟩, _, rfl, rfl, rfl⟩
      · rw [if_neg hversion, exec_throw]
        exact .inr ⟨fun hrecords ↦ hversion hrecords.2.2, rfl⟩
    · have hnone : startup.operatorTargetRevision = none ∧
          startup.operatorStrategyRevision = none := by
        simp only [OperatorStartup.Supplies, not_or, not_not] at hsupplies
        exact hsupplies.symm
      rw [if_pos haccepted, if_pos hnone, exec_pure, if_neg hsupplies]
      exact .inr ⟨fun hrecords ↦ hsupplies hrecords.2.1, rfl⟩
  · rw [if_neg haccepted]
    exact .inr ⟨fun hrecords ↦ haccepted hrecords.1, rfl⟩

/-- Work is resumed faithfully exactly while the row describes the latest startup. -/
theorem faithful_iff_fresh : log.Faithful ↔ log.Fresh := by
  constructor
  · intro h
    constructor
    · intro revision hcolumn
      let resumed : OperatorStartup :=
        { operatorStrategyRevision := some revision, operatorTargetRevision := none
          hasDurableFollowUpWork := true, summary := (AppSupervisor.new .live .empty).summary
          activeRunSessionId := none }
      exact (h resumed).mpr (.inl (.inl (by simp [resumed])))
        ((accepted_iff_of_strategy rfl rfl).mpr hcolumn) rfl
    · intro revision hcolumn
      let resumed : OperatorStartup :=
        { operatorStrategyRevision := none, operatorTargetRevision := some revision
          hasDurableFollowUpWork := true, summary := (AppSupervisor.new .live .empty).summary
          activeRunSessionId := none }
      obtain ⟨latest, hlatest, hsupplied⟩ := (h resumed).mpr (.inl (.inr (by simp [resumed])))
        ((accepted_iff_of_target rfl rfl rfl).mpr hcolumn) rfl
      obtain ⟨_, ⟨⟩, htarget⟩ := hsupplied
      exact ⟨latest, hlatest, htarget⟩
  · rintro ⟨hstrategy, htarget⟩ startup
    by_cases hwork : startup.hasDurableFollowUpWork = true
    · cases hs : startup.operatorStrategyRevision with
      | some revision =>
          refine iff_of_true (fun haccepted _ ↦ ?_) (.inl (.inl (by simp [hs])))
          obtain ⟨latest, hlatest, hsupplied⟩ := hstrategy revision
            ((accepted_iff_of_strategy hs hwork).mp haccepted)
          exact ⟨latest, hlatest, by rwa [OperatorStartup.SuppliedBy, hs]⟩
      | none =>
          cases ht : startup.operatorTargetRevision with
          | some revision =>
              refine iff_of_true (fun haccepted _ ↦ ?_) (.inl (.inr (by simp [ht])))
              obtain ⟨latest, hlatest, hsupplied⟩ := htarget revision
                ((accepted_iff_of_target hs ht hwork).mp haccepted)
              refine ⟨latest, hlatest, ?_⟩
              rw [OperatorStartup.SuppliedBy, hs]
              exact ⟨revision, ht, hsupplied⟩
          | none =>
              have hnothing : ¬ startup.Supplies := by simp [OperatorStartup.Supplies, hs, ht]
              refine iff_of_false (fun hresumes ↦ ?_) (by simp [hnothing, hwork])
              obtain ⟨latest, -, hsupplied⟩ :=
                hresumes (accepted_of_not_supplies hnothing) hwork
              rw [OperatorStartup.SuppliedBy, hs, ht] at hsupplied
              obtain ⟨_, ⟨⟩, -⟩ := hsupplied
    · exact iff_of_true (fun _ hresumed ↦ absurd hresumed hwork) (.inr (by simpa using hwork))

/-- The row describes the startup that records its anchor exactly if that startup
supplies every column the row holds. -/
theorem fresh_startUp_iff (hfresh : log.Fresh) :
    (log.startUp startup).Fresh ↔ log.Completes startup := by
  rcases log.startUp_cases startup with
    ⟨hrecords, excluded, hstrategy, htarget, heq⟩ | ⟨hrecords, heq⟩
  · rw [heq, Completes, forall_prop_of_true hrecords]
    simp only [Fresh, column_strategy_upserted, column_target_upserted, hstrategy, htarget,
      Option.some.injEq, exists_eq_left']
    refine and_congr ?_ ?_
    · cases startup.operatorStrategyRevision <;> simp [Option.eq_none_iff_forall_ne_some]
    · cases startup.operatorTargetRevision <;> simp [Option.eq_none_iff_forall_ne_some]
  · rw [heq]
    exact iff_of_true hfresh fun h ↦ absurd h hrecords

/-- **Durable work resumes under its own revision** in every state of a sequence of
startups exactly if each of them that records an anchor supplies a revision for every
column in which the row holds one. -/
theorem resumes_own_iff (startups : List OperatorStartup) :
    Always startUp Faithful empty startups ↔ Steps startUp Completes empty startups := by
  have hfaithful : Faithful = Fresh := funext fun _ ↦ propext faithful_iff_fresh
  rw [hfaithful]
  refine always_iff_steps_of_step (fun log startup hfresh ↦ fresh_startUp_iff hfresh) ?_
  exact ⟨fun _ h ↦ (by cases h), fun _ h ↦ (by cases h)⟩

/-- A startup with nothing to resume, under the revisions given. -/
def freshStartup (operatorStrategyRevision operatorTargetRevision : Option String) :
    OperatorStartup :=
  { operatorStrategyRevision, operatorTargetRevision
    hasDurableFollowUpWork := false
    summary := (AppSupervisor.new .live .empty).summary
    activeRunSessionId := none }

/-- A strategy is started, then explicit targets; the strategy is taken to own the work
that the targets left. -/
theorem not_resumes_own :
    ¬ ∀ (startups : List OperatorStartup) (later : OperatorStartup),
      (run startUp empty startups).ResumesOwn later := by
  intro h
  obtain ⟨latest, hlatest, hsupplied⟩ := h
    [freshStartup (some "strategy-rev-1") (some "targets-rev-1"),
      freshStartup none (some "targets-rev-2")]
    { freshStartup (some "strategy-rev-1") (some "targets-rev-1") with
      hasDurableFollowUpWork := true }
    (by decide) rfl
  cases hlatest
  cases hsupplied

end StartupLog

end AxiomArb.AppLive
