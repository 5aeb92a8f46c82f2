import AxiomArb.AppLive.Daemon
import AxiomArb.AppLive.ShadowFamily
import AxiomArb.AppLive.UpToDate

/-!
# The daemon comes to rest

From its second tick on the daemon runs a supervisor at rest.  Where evidence may not be
synthesised a tick only publishes, and where it may, it submits at most once for what is
published: after that there are records, and a refresh goes no further, or there are
attempts, and the shadow families are run again to no effect on the summary.  The guard
that tells the two kinds apart can close after a submission, but what is up to date then
keeps it closed.  So the loop makes at most five ticks.
-/

namespace AxiomArb.AppLive

open Domain Library State

namespace AppSupervisor

variable {env : SupervisorEnv} {supervisor supervisor' : AppSupervisor} {input : InputTaskEvent}

/-- What a refresh goes to work under. -/
theorem refreshSnapshotId_eq_some {snapshotId : String}
    (h : supervisor.refreshSnapshotId true = some snapshotId) :
    supervisor.runtime.appMode = .live ∧
      supervisor.runtime.publishedSnapshotId = some snapshotId ∧
      (supervisor.negRiskRolloutEvidence.map NegRiskRolloutEvidence.liveReadyFamilyCount).getD 0 ≠ 0 := by
  unfold refreshSnapshotId at h
  split at h
  · cases h
  · rename_i hlive
    split at h
    · cases h
    · split at h
      · cases h
      · split at h
        · rename_i hid hevidence
          split at h
          · cases h
          · rename_i hcount
            cases h
            exact ⟨by simpa using hlive, hid, by simpa [hevidence] using hcount⟩
        · cases h

/-- A refresh of this supervisor would show nothing new in its summary. -/
structure Settles (supervisor : AppSupervisor) : Prop where
  upToDate : UpToDate true supervisor
  refreshed : supervisor.refreshSnapshotId true = none ∨
    supervisor.realUserShadowSmokeEnabled = true ∧ supervisor.negRiskLiveExecutionRecords = [] ∧
      supervisor.negRiskLiveStateSource = .none

/-- A shadow refresh holds the attempts of its batch, and no live record. -/
theorem refreshShadowRecords_ok {snapshotId : String}
    (h : exec (refreshShadowRecords env snapshotId) supervisor = (.ok ⟨⟩, supervisor')) :
    ∃ records effects,
      eligibleShadowRecordsWithRunSessionId env.executeShadowFamily snapshotId
        supervisor.negRiskLiveTargets supervisor.negRiskLiveApprovedFamilies
        supervisor.negRiskLiveReadyFamilies supervisor.runSessionId = .ok records ∧
      supervisor' = { supervisor with
        negRiskShadowExecutionAttempts := records.map NegRiskShadowExecutionRecord.attempt
        negRiskShadowExecutionArtifacts := records.flatMap NegRiskShadowExecutionRecord.artifacts
        negRiskLiveExecutionRecords := []
        negRiskLiveStateSource := .none
        effects } := by
  obtain ⟨_, _, hget, h⟩ := exec_bind_eq_ok.mp h
  cases hget
  obtain ⟨records, hrecords, h⟩ := exec_lift_bind_eq_ok.mp h
  obtain ⟨_, middle, hpersist, h⟩ := exec_bind_eq_ok.mp h
  rw [exec_modify] at h
  cases h
  refine ⟨records, middle.effects, mapError_eq_ok_iff.mp hrecords, ?_⟩
  split at hpersist
  · obtain ⟨_, _, hget, hpersist⟩ := exec_bind_eq_ok.mp hpersist
    cases hget
    obtain ⟨_, -, hpersist⟩ := exec_lift_bind_eq_ok.mp hpersist
    cases hpersist
    rfl
  · cases hpersist
    rfl

/-- A live refresh books the facts of its submissions, and holds the records they are of. -/
theorem refreshLiveRecords_ok {snapshotId : String}
    (h : exec (refreshLiveRecords env snapshotId) supervisor = (.ok ⟨⟩, supervisor')) :
    ∃ booked records effects, Books supervisor booked ∧
      supervisor' = { booked with
        negRiskLiveExecutionRecords := records
        negRiskLiveStateSource := if records.isEmpty then .none else .syntheticBootstrap
        effects } := by
  obtain ⟨records, submitted, hsubmitted, h⟩ := exec_bind_eq_ok.mp h
  obtain ⟨count, booked, hbooked, h⟩ := exec_bind_eq_ok.mp h
  obtain ⟨_, _, hget, h⟩ := exec_bind_eq_ok.mp h
  cases hget
  obtain ⟨_, middle, hpersist, h⟩ := exec_bind_eq_ok.mp h
  rw [exec_modify] at h
  cases h
  have hcalled : Books supervisor submitted := by
    rw [exec_executeLiveRecords] at hsubmitted
    rw [← (Prod.mk.inj hsubmitted).2]
    exact .mk _ _ _ (fun _ ↦ rfl) rfl
  have hbooks : Books submitted booked := by
    obtain ⟨_, _, hget, hbooked⟩ := exec_bind_eq_ok.mp hbooked
    cases hget
    exact (books_applyLiveSubmitFactsFrom _ _ _).of_exec hbooked
  refine ⟨booked, records.take count, middle.effects, trans_of Books hcalled hbooks, ?_⟩
  split at hpersist
  · obtain ⟨_, _, hget, hpersist⟩ := exec_bind_eq_ok.mp hpersist
    cases hget
    obtain ⟨_, -, rfl⟩ := exec_focus_eq_ok.mp hpersist
    rfl
  · cases hpersist
    rfl

theorem Books.frame (h : Books supervisor supervisor') :
    supervisor'.runtime.appMode = supervisor.runtime.appMode ∧
      supervisor'.runtime.publishedSnapshotId = supervisor.runtime.publishedSnapshotId ∧
      supervisor'.negRiskRolloutEvidence = supervisor.negRiskRolloutEvidence ∧
      supervisor'.realUserShadowSmokeEnabled = supervisor.realUserShadowSmokeEnabled := by
  obtain ⟨_, _, _, -, -⟩ := h
  exact ⟨rfl, rfl, rfl, rfl⟩

/-- Live records that are held keep a refresh from submitting. -/
theorem refreshSnapshotId_of_held (hsmoke : supervisor.realUserShadowSmokeEnabled = false)
    (h : supervisor.negRiskLiveExecutionRecords ≠ []) : supervisor.refreshSnapshotId true = none := by
  have hheld : supervisor.negRiskLiveExecutionRecords.isEmpty = false := by simpa using h
  simp [refreshSnapshotId, hsmoke, hheld]

/-- The check at the end of a run finds records, and all of them of the published snapshot. -/
theorem records_of_validated {snapshotId : String} (hlive : supervisor.runtime.appMode = .live)
    (hsmoke : supervisor.realUserShadowSmokeEnabled = false)
    (hcount : (supervisor.negRiskRolloutEvidence.map
      NegRiskRolloutEvidence.liveReadyFamilyCount).getD 0 ≠ 0)
    (hid : supervisor.runtime.publishedSnapshotId = some snapshotId)
    (hvalid : supervisor.validateNegRiskLiveExecutionAnchor = .ok ⟨⟩) :
    supervisor.negRiskLiveExecutionRecords ≠ [] ∧
      ∀ record ∈ supervisor.negRiskLiveExecutionRecords, record.snapshotId = snapshotId := by
  simp only [validateNegRiskLiveExecutionAnchor, hlive, hsmoke, hid, hcount, ne_eq,
    not_true_eq_false, decide_false, Bool.or_self, beq_iff_eq, Bool.or_eq_true, or_self,
    Bool.false_eq_true, if_false] at hvalid
  split at hvalid
  · cases hvalid
  · rename_i hsome
    split at hvalid
    · cases hvalid
    · rename_i hheld
      simpa using And.intro hsome hheld

/-- What a refresh leaves, once its records have been checked. -/
theorem settles_refresh {texts : ShadowTexts}
    (henv : env.executeShadowFamily = executeShadowFamily texts) (h : UpToDate true supervisor)
    (hrefresh : exec (refreshNegRiskLiveExecutionRecords env true) supervisor = (.ok ⟨⟩, supervisor'))
    (hvalid : supervisor'.validateNegRiskLiveExecutionAnchor = .ok ⟨⟩) : Settles supervisor' := by
  obtain ⟨_, _, hget, hrefresh⟩ := exec_bind_eq_ok.mp hrefresh
  cases hget
  cases hid : supervisor.refreshSnapshotId true with
  | none =>
      simp only [hid] at hrefresh
      cases hrefresh
      exact ⟨h, .inl hid⟩
  | some snapshotId =>
      obtain ⟨hlive, hpublished, hcount⟩ := refreshSnapshotId_eq_some hid
      simp only [hid] at hrefresh
      split at hrefresh
      · rename_i hsmoke
        obtain ⟨records, effects, hrecords, rfl⟩ := refreshShadowRecords_ok hrefresh
        rw [henv] at hrecords
        have hbatch := shadowRunFor_of_mem_shadowRecords hrecords
        have hheld := (h.holdLive hpublished (List.forall_mem_nil _) (fun _ ↦ rfl) effects).holdShadow
          hpublished
          (List.forall_mem_map.mpr fun record hrecord ↦ (hbatch record hrecord).snapshot)
          (fun artifact hartifact ↦ by
            obtain ⟨record, hrecord, hartifact⟩ := List.mem_flatMap.mp hartifact
            rw [(hbatch record hrecord).artifacts artifact hartifact]
            exact List.mem_map_of_mem (List.mem_map_of_mem hrecord))
        exact ⟨hheld, .inr ⟨hsmoke, rfl, rfl⟩⟩
      · rename_i hsmoke
        obtain ⟨booked, records, effects, hbooks, rfl⟩ := refreshLiveRecords_ok hrefresh
        obtain ⟨hmode, hid, hevidence, hsmoke'⟩ := hbooks.frame
        have hsmoke : supervisor.realUserShadowSmokeEnabled = false := by simpa using hsmoke
        rw [← hmode] at hlive
        rw [← hid] at hpublished
        rw [← hevidence] at hcount
        rw [← hsmoke'] at hsmoke
        obtain ⟨hsome, hheld⟩ : records ≠ [] ∧ ∀ record ∈ records, record.snapshotId = snapshotId := by
          refine records_of_validated ?_ ?_ ?_ ?_ hvalid
          · exact hlive
          · exact hsmoke
          · exact hcount
          · exact hpublished
        refine ⟨(h.books hbooks).holdLive hpublished hheld (fun hnil ↦ absurd hnil hsome) effects,
          .inl ?_⟩
        exact refreshSnapshotId_of_held hsmoke hsome

/-! ## The ticks -/

section Ticks

variable {summary : SupervisorSummary} {lastSummary : Option SupervisorSummary}

theorem Settles.dispatch (h : Settles supervisor) (dispatcher : DispatchLoop) :
    Settles { supervisor with dispatcher } :=
  ⟨h.upToDate.dispatch dispatcher, h.refreshed⟩

/-- Where the guard is closed, a tick only publishes. -/
theorem runOnce_of_closed (hrested : supervisor.Rested)
    (hallow : supervisor.allowOperatorRolloutEvidenceSynthesis = false)
    (h : exec (runOnce env) supervisor = (.ok summary, supervisor')) :
    supervisor' = (supervisor.publishCurrentSnapshot false).flushDispatch ∧
      summary = supervisor'.summary := by
  obtain ⟨refreshed, hrefresh, -, rfl, hsummary⟩ := runOnce_of_rested hrested h
  rw [exec_publishAndRefresh_of_closed hallow] at hrefresh
  cases hrefresh
  exact ⟨rfl, hsummary⟩

/-- Where it is open, a tick publishes and submits, and leaves nothing to add. -/
theorem runOnce_of_open {texts : ShadowTexts}
    (henv : env.executeShadowFamily = executeShadowFamily texts) (hrested : supervisor.Rested)
    (hallow : supervisor.allowOperatorRolloutEvidenceSynthesis = true)
    (h : exec (runOnce env) supervisor = (.ok summary, supervisor')) :
    Settles supervisor' ∧ summary = supervisor'.summary := by
  obtain ⟨refreshed, hrefresh, hvalid, rfl, hsummary⟩ := runOnce_of_rested hrested h
  simp only [publishAndRefresh, exec_bind, exec_get, exec_modify, hallow] at hrefresh
  exact ⟨(settles_refresh henv (upToDate_publish supervisor true) hrefresh hvalid).dispatch _, hsummary⟩

theorem upToDate_of_closed (hrested : supervisor.Rested)
    (hallow : supervisor.allowOperatorRolloutEvidenceSynthesis = false)
    (h : exec (runOnce env) supervisor = (.ok summary, supervisor')) :
    UpToDate false supervisor' := by
  obtain ⟨rfl, -⟩ := runOnce_of_closed hrested hallow h
  exact (upToDate_publish supervisor false).dispatch _

/-- What is up to date keeps the guard as it is. -/
theorem closed_of_closed {allow : Bool} (hcurrent : UpToDate allow supervisor)
    (hrested : supervisor.Rested)
    (hallow : supervisor.allowOperatorRolloutEvidenceSynthesis = false)
    (h : exec (runOnce env) supervisor = (.ok summary, supervisor')) :
    supervisor'.allowOperatorRolloutEvidenceSynthesis = false := by
  obtain ⟨rfl, -⟩ := runOnce_of_closed hrested hallow h
  exact (hcurrent.allow_publish false).trans hallow

/-- A second publication shows nothing new. -/
theorem stopsWithin_of_closed (hrested : supervisor.Rested) (hcurrent : UpToDate false supervisor)
    (hallow : supervisor.allowOperatorRolloutEvidenceSynthesis = false) :
    StopsWithin env 1 (some supervisor.summary) supervisor := by
  intro summary supervisor' hrun
  obtain ⟨rfl, rfl⟩ := runOnce_of_closed hrested hallow hrun
  obtain ⟨dispatcher, hpublish⟩ := hcurrent.publish
  right
  left
  rw [hpublish]
  rfl

/-- A refresh of what has settled shows nothing new. -/
theorem stopsWithin_of_settles (hrested : supervisor.Rested) (hsettles : Settles supervisor)
    (hallow : supervisor.allowOperatorRolloutEvidenceSynthesis = true) :
    StopsWithin env 1 (some supervisor.summary) supervisor := by
  intro summary supervisor' hrun
  obtain ⟨refreshed, hrefresh, -, rfl, rfl⟩ := runOnce_of_rested hrested hrun
  obtain ⟨dispatcher, hpublish⟩ := hsettles.upToDate.publish
  simp only [publishAndRefresh, exec_bind, exec_get, exec_modify, hallow, hpublish] at hrefresh
  obtain ⟨_, _, hget, hrefresh⟩ := exec_bind_eq_ok.mp hrefresh
  cases hget
  right
  left
  cases hid : refreshSnapshotId { supervisor with dispatcher } true with
  | none =>
      simp only [hid] at hrefresh
      cases hrefresh
      rfl
  | some snapshotId =>
      rcases hsettles.refreshed with hnone | ⟨hsmoke, hrecords, hsource⟩
      · exact absurd (hid.symm.trans hnone) (Option.some_ne_none snapshotId)
      · simp only [hid] at hrefresh
        rw [if_pos hsmoke] at hrefresh
        obtain ⟨records, effects, -, rfl⟩ := refreshShadowRecords_ok hrefresh
        have hempty : supervisor.summary =
            { supervisor with
              negRiskLiveExecutionRecords := []
              negRiskLiveStateSource := .none }.summary := by
          rw [← hrecords, ← hsource]
        exact congrArg some hempty

variable {texts : ShadowTexts} (henv : env.executeShadowFamily = executeShadowFamily texts)

theorem stopsWithin_two (hrested : supervisor.Rested) (hsettles : Settles supervisor) :
    StopsWithin env 2 (some supervisor.summary) supervisor := by
  cases hallow : supervisor.allowOperatorRolloutEvidenceSynthesis with
  | true => exact (stopsWithin_of_settles hrested hsettles hallow).mono one_le_two
  | false =>
      intro summary supervisor' hrun
      have hclosed := closed_of_closed hsettles.upToDate hrested hallow hrun
      obtain ⟨-, rfl⟩ := runOnce_of_closed hrested hallow hrun
      exact .inr (.inr (stopsWithin_of_closed (rested_runOnce hrun)
        (upToDate_of_closed hrested hallow hrun) hclosed))

include henv

theorem stopsWithin_three (hrested : supervisor.Rested)
    (hallow : supervisor.allowOperatorRolloutEvidenceSynthesis = true) :
    StopsWithin env 3 lastSummary supervisor := by
  intro summary supervisor' hrun
  obtain ⟨hsettles, rfl⟩ := runOnce_of_open henv hrested hallow hrun
  exact .inr (.inr (stopsWithin_two (rested_runOnce hrun) hsettles))

theorem stopsWithin_four (hrested : supervisor.Rested) : StopsWithin env 4 lastSummary supervisor := by
  cases hallow : supervisor.allowOperatorRolloutEvidenceSynthesis with
  | true => exact (stopsWithin_three henv hrested hallow).mono (by decide)
  | false =>
      intro summary supervisor' hrun
      have hrested' := rested_runOnce hrun
      have hcurrent := upToDate_of_closed hrested hallow hrun
      obtain ⟨-, rfl⟩ := runOnce_of_closed hrested hallow hrun
      cases hallow' : supervisor'.allowOperatorRolloutEvidenceSynthesis with
      | true => exact .inr (.inr (stopsWithin_three henv hrested' hallow'))
      | false => exact .inr (.inr ((stopsWithin_of_closed hrested' hcurrent hallow').mono (by decide)))

/-- Whatever it starts from, the loop stops within five runs. -/
theorem stopsWithin_five (supervisor : AppSupervisor) : StopsWithin env 5 none supervisor :=
  fun _ _ hrun ↦ .inr (.inr (stopsWithin_four henv (rested_runOnce hrun)))

end Ticks

end AppSupervisor

/-- The environment whose shadow sink is the source's. -/
def SupervisorEnv.withShadowFamilies (env : SupervisorEnv) (texts : ShadowTexts) : SupervisorEnv :=
  { env with executeShadowFamily := AppLive.executeShadowFamily texts }

namespace AppSupervisor

/-- **The daemon comes to rest.** -/
theorem runUntilShutdown_stops (env : SupervisorEnv) (texts : ShadowTexts) (supervisor : AppSupervisor) :
    ∃ ticks outcome final, 0 < ticks ∧ ticks ≤ 5 ∧
      (∀ maxTicks, ticks ≤ maxTicks →
        exec (runUntilIdleForTests (env.withShadowFamilies texts) maxTicks) supervisor =
          (outcome, final)) ∧
      exec (runUntilShutdown (env.withShadowFamilies texts)) supervisor = (outcome, final) ∧
      match outcome with
      | .error error =>
          exec (runTimes (env.withShadowFamilies texts) ticks) supervisor = (.error error, final)
      | .ok report =>
          report.ticksRun = ticks ∧ report.idleReached = final.canResumeIngestLoops ∧
          (∃ summaries,
            exec (runTimes (env.withShadowFamilies texts) ticks) supervisor = (.ok summaries, final) ∧
            summaries.getLast? = some report.summary ∧
            (final.canResumeIngestLoops = true ∨
              ∃ earlier summary, summaries = earlier ++ [summary, summary])) ∧
          ∀ input ∈ final.inputTasks.backlog,
            ∃ last, final.runtime.lastJournalSeq = some last ∧ input.journalSeq ≤ last := by
  have henv : (env.withShadowFamilies texts).executeShadowFamily = AppLive.executeShadowFamily texts :=
    rfl
  generalize env.withShadowFamilies texts = env at henv ⊢
  have hstops : StopsWithin env 5 supervisor.startDaemon.lastSummary supervisor :=
    stopsWithin_five henv supervisor
  obtain ⟨ran, outcome, final, hlt, hloop, hends⟩ := runTicks_of_stopsWithin hstops
  cases outcome with
  | error error =>
      have hbudget : ∀ maxTicks, ran + 1 ≤ maxTicks →
          exec (runUntilIdleForTests env maxTicks) supervisor = (.error error, final) :=
        fun maxTicks hle ↦ exec_runUntilIdleForTests_error (hloop maxTicks hle)
      exact ⟨ran + 1, .error error, final, ran.succ_pos, hlt, hbudget,
        hbudget usizeMax (hlt.trans_le (by decide)), hends⟩
  | ok progress =>
      obtain ⟨summaries, htimes, hticks, hidle, hfinal, hstopped⟩ := hends
      obtain ⟨before, summary, hlast, hrun⟩ := exists_runOnce_of_runTimes htimes
      have hsummary : progress.finalSummary = some summary := hfinal.trans hlast
      have hbudget : ∀ maxTicks, ran + 1 ≤ maxTicks →
          exec (runUntilIdleForTests env maxTicks) supervisor =
            (.ok (progress.report summary), final) :=
        fun maxTicks hle ↦ exec_runUntilIdleForTests_ok (hloop maxTicks hle) hsummary
      refine ⟨ran + 1, .ok (progress.report summary), final, ran.succ_pos, hlt, hbudget,
        hbudget usizeMax (hlt.trans_le (by decide)), ?_, hidle, ⟨summaries, htimes, hlast, hstopped⟩,
        (rested_runOnce hrun).quiescent⟩
      rw [DaemonProgress.report, hticks]
      exact Nat.zero_add (ran + 1)

end AppSupervisor

end AxiomArb.AppLive
