import AxiomArb.AppLive.PendingWork
import AxiomArb.State.FollowUp

/-!
# Replay against the live runtime

A restart replays the committed history on a fresh runtime.  The live runtime
re-derives its posture at every fact; the replay folds the facts and sets the
posture once, from a flag that stays up.  The module shows that the two agree on
everything else, and on the posture exactly when the follow-up ledger says so.
-/

namespace AxiomArb.AppLive

open Domain Library State

/-- The operation feeds the runtime no fact and restores none. -/
def RuntimeOp.FeedsNothing : RuntimeOp → Prop
  | .bootstrapOnce _ | .reconcile _ | .clearPendingReconcileAfterRestore
  | .publishSnapshot _ => True
  | _ => False

/-- What a history leaves to follow up. -/
def followUpLedger (history : List InputTaskEvent) : FollowUpLedger :=
  .ofFacts (history.map InputTaskEvent.intoStateFactInput)

namespace AppRuntime

def inputStep (runtime : AppRuntime) (input : InputTaskEvent) : AppRuntime :=
  (runtime.applyInput input).2

/-- The runtime takes the input. -/
def Accepts (runtime : AppRuntime) (input : InputTaskEvent) : Prop :=
  (runtime.applyInput input).1.isOk = true

instance (runtime : AppRuntime) (input : InputTaskEvent) : Decidable (runtime.Accepts input) :=
  inferInstanceAs (Decidable (_ = true))

/-- What a replay is to reproduce of the live runtime. -/
structure ReplayEqualsLive (live : AppRuntime) (replay : Except ApplyError Unit × AppRuntime) :
    Prop where
  replays : replay.1 = .ok ()
  stateVersion : replay.2.stateVersion = live.stateVersion
  lastJournalSeq : replay.2.lastJournalSeq = live.lastJournalSeq
  lastApplied : replay.2.store.lastAppliedJournalSeq = live.store.lastAppliedJournalSeq
  publishes : ∀ snapshotId, (replay.2.publishSnapshot snapshotId).1.isSome =
    (live.publishSnapshot snapshotId).1.isSome
  pending : replay.2.store.pendingReconcileAnchors = live.store.pendingReconcileAnchors
  attention : replay.2.store.runtimeAttentionAnchors = live.store.runtimeAttentionAnchors
  records : replay.2.store.familyDiscoveryRecords = live.store.familyDiscoveryRecords
  mode : replay.2.runtimeMode = live.runtimeMode
  overlay : replay.2.runtimeOverlay = live.runtimeOverlay

variable {runtime : AppRuntime}

theorem admits_of_accepts {input : InputTaskEvent} (h : runtime.Accepts input) :
    runtime.store.Admits input.journalSeq input.intoStateFactInput.factKey := by
  by_contra hnot
  obtain ⟨error, heq⟩ := StateStore.apply_of_not_admits hnot
  rw [Accepts, result_applyInput, heq] at h
  exact absurd h Bool.false_ne_true

theorem publishSnapshot_isSome (snapshotId : String) :
    (runtime.publishSnapshot snapshotId).1.isSome = runtime.store.lastAppliedJournalSeq.isSome := by
  unfold publishSnapshot PublishedSnapshot.fromStore
  cases runtime.store.lastAppliedJournalSeq <;> rfl

/-! ## Before the first fact -/

/-- A store that has been fed nothing: no facts, and at most the baseline anchor. -/
structure Unfed (store : StateStore) : Prop where
  stateVersion : store.stateVersion = 0
  numbers : store.lastConsumedJournalSeq = store.lastAppliedJournalSeq
  baseline : store.lastAppliedJournalSeq = none ∨ store.lastAppliedJournalSeq = some 0
  appliedFactJournal : store.appliedFactJournal = ∅
  consumedJournal : store.consumedJournal = ∅
  records : store.familyDiscoveryRecords = ∅
  backfills : store.pendingFamilyBackfills = ∅
  pending : store.pendingReconcileAnchors = ∅
  attention : store.runtimeAttentionAnchors = ∅

theorem unfed_new : Unfed .new where
  stateVersion := rfl
  numbers := rfl
  baseline := .inl rfl
  appliedFactJournal := rfl
  consumedJournal := rfl
  records := rfl
  backfills := rfl
  pending := rfl
  attention := rfl

theorem Unfed.reconcile {store : StateStore} (h : Unfed store) (snapshot : RemoteSnapshot) :
    Unfed (store.reconcile snapshot).2 := by
  obtain ⟨hversion, hnumbers, hbaseline, happlied, hconsumed, hrecords, hbackfills, hpending,
    hattention⟩ := h
  constructor <;> simp [*]

theorem Unfed.markReconciledAfterRestore {store : StateStore} (h : Unfed store) :
    Unfed (store.markReconciledAfterRestore 0) := by
  obtain ⟨hversion, hnumbers, hbaseline, happlied, hconsumed, hrecords, hbackfills, hpending,
    hattention⟩ := h
  rcases hbaseline with hnone | hsome <;> constructor <;> simp [*]

theorem Unfed.clearPendingReconcileAfterRestore {store : StateStore} (h : Unfed store) :
    Unfed store.clearPendingReconcileAfterRestore := by
  obtain ⟨hversion, hnumbers, hbaseline, happlied, hconsumed, hrecords, hbackfills, hpending,
    hattention⟩ := h
  constructor <;> simp [*]

theorem Unfed.step (h : Unfed runtime.store) {op : RuntimeOp} (hop : op.FeedsNothing) :
    Unfed (runtime.step op).store := by
  cases op with
  | bootstrapOnce source =>
      rw [AppRuntime.step, store_bootstrapOnce]
      split
      · exact (h.reconcile source).markReconciledAfterRestore
      · exact h.reconcile source
  | reconcile snapshot =>
      rw [AppRuntime.step, store_reconcile]
      split
      · split
        · exact (h.reconcile snapshot).clearPendingReconcileAfterRestore.markReconciledAfterRestore
        · exact (h.reconcile snapshot).clearPendingReconcileAfterRestore
      · exact h.reconcile snapshot
  | clearPendingReconcileAfterRestore => exact h.clearPendingReconcileAfterRestore
  | publishSnapshot snapshotId =>
      rw [AppRuntime.step, store_publishSnapshot]
      exact h
  | _ => exact hop.elim

theorem unfed_after (appMode : AppRuntimeMode) {ops : List RuntimeOp}
    (hops : ∀ op ∈ ops, op.FeedsNothing) : Unfed (after appMode ops).store := by
  unfold after
  generalize hstart : new appMode = start
  have hunfed : Unfed start.store := by
    rw [← hstart]
    exact unfed_new
  clear hstart
  induction ops generalizing start with
  | nil => exact hunfed
  | cons op ops ih =>
      rw [List.forall_mem_cons] at hops
      exact ih hops.2 _ (hunfed.step hops.1)

/-! ## The simulation -/

/-- The live runtime and the replica hold the facts of one ledger. -/
structure Simulates (runtime : AppRuntime) (replica : StateStore) (ledger : FollowUpLedger) :
    Prop where
  live : runtime.store.DescribedBy ledger
  mirror : runtime.store.MirroredBy replica
  anchored : replica.AnchoredBy ledger
  quiet : ledger.Quiet

/-- After a successful bootstrap that follows no facts, the runtime and a new store
hold the facts of the empty ledger. -/
theorem Simulates.bootstrap (h : Unfed runtime.store) {source : RemoteSnapshot}
    (hsucceeded : (runtime.bootstrapOnce source).1.succeeded = true) :
    Simulates (runtime.bootstrapOnce source).2 .new .empty := by
  have hreconciled : (runtime.store.reconcile source).1.succeeded = true := hsucceeded
  obtain ⟨hfirst, hposture⟩ := runtime.store.reconcile_succeeded_fields source hreconciled
  rw [if_pos h.pending] at hposture
  have hunfed := h.reconcile source
  refine ⟨?_, ?_, ⟨StateStore.journalOrdered_new, ?_, ?_⟩, fun _ ↦ ⟨rfl, rfl⟩⟩
  · rw [store_bootstrapOnce]
    split
    · refine ⟨by simp, fun factKey ↦ ?_, by simp [FollowUpLedger.empty],
        by simp [FollowUpLedger.policy, FollowUpLedger.empty]⟩
      simp [StateStore.HasApplied, h.appliedFactJournal, FollowUpLedger.empty]
    · refine ⟨hfirst, fun factKey ↦ ?_, by simp [FollowUpLedger.empty, h.pending],
        by simp [hposture, FollowUpLedger.policy, FollowUpLedger.empty]⟩
      simp [StateStore.HasApplied, h.appliedFactJournal, FollowUpLedger.empty]
  · rw [store_bootstrapOnce]
    split
    · rename_i hnone
      have hunfed' := hunfed.markReconciledAfterRestore
      exact ⟨hunfed'.stateVersion, by simp [hnone.2, StateStore.new],
        by simp [hnone.2, StateStore.new], hunfed'.appliedFactJournal, hunfed'.consumedJournal,
        hunfed'.records, hunfed'.backfills, hunfed'.pending, hunfed'.attention⟩
    · rename_i hsome
      have hzero : runtime.store.lastAppliedJournalSeq = some 0 :=
        h.baseline.resolve_left fun hnone ↦ hsome ⟨hreconciled, hnone⟩
      exact ⟨hunfed.stateVersion, by simp [h.numbers, hzero, StateStore.new],
        by simp [hzero, StateStore.new], hunfed.appliedFactJournal, hunfed.consumedJournal,
        hunfed.records, hunfed.backfills, hunfed.pending, hunfed.attention⟩
  · exact iff_of_true rfl rfl
  · exact iff_of_true rfl ⟨rfl, rfl⟩

variable {replica : StateStore} {ledger : FollowUpLedger}

theorem Simulates.hasApplied_iff (h : Simulates runtime replica ledger) (factKey : FactKey) :
    replica.HasApplied factKey ↔ factKey ∈ ledger.settled := by
  rw [← h.mirror.hasApplied_iff, h.live.settled]

theorem Simulates.input {input : InputTaskEvent} (h : Simulates runtime replica ledger)
    (haccepts : runtime.Accepts input) :
    Simulates (runtime.inputStep input)
      (replica.applyStep (input.journalSeq, input.intoStateFactInput))
      (ledger.note input.intoStateFactInput) := by
  have hadmits := admits_of_accepts haccepts
  refine ⟨?_, ?_, h.anchored.applyStep h.hasApplied_iff (h.mirror.admits hadmits), h.quiet.note⟩
  · rw [AppRuntime.inputStep, store_applyInput]
    exact h.live.applyStep hadmits
  · rw [AppRuntime.inputStep, store_applyInput]
    exact h.mirror.applyStep hadmits

/-- One input of a replay raises the flag exactly when the ledger notes a request. -/
theorem Simulates.replayInputs_cons {input : InputTaskEvent} {history : List InputTaskEvent}
    (h : Simulates runtime replica ledger) (haccepts : runtime.Accepts input) :
    replayInputs replica ledger.asked (input :: history) =
      replayInputs (replica.applyStep (input.journalSeq, input.intoStateFactInput))
        (ledger.note input.intoStateFactInput).asked history := by
  have hadmits := h.mirror.admits (admits_of_accepts haccepts)
  unfold StateStore.applyStep
  rw [replayInputs]
  by_cases happlied : replica.HasApplied input.intoStateFactInput.factKey
  · obtain ⟨_, _, heq⟩ := StateStore.apply_of_hasApplied hadmits happlied
    rw [heq, FollowUpLedger.note_of_mem ((h.hasApplied_iff _).mp happlied)]
  · have hfresh := fun hmem ↦ happlied ((h.hasApplied_iff _).mpr hmem)
    by_cases hsettles : input.intoStateFactInput.applyHint.Settles
    · obtain ⟨_, _, heq⟩ := StateStore.apply_of_settles hadmits happlied hsettles
      rw [heq, FollowUpLedger.note_of_settles hfresh hsettles]
    · obtain ⟨_, _, heq⟩ := StateStore.apply_of_open hadmits happlied hsettles
      rw [heq, FollowUpLedger.note_of_open hfresh hsettles]

/-- Replaying what the live runtime accepted succeeds and keeps the simulation. -/
theorem Simulates.replay {history : List InputTaskEvent}
    (h : Simulates runtime replica ledger) (haccepts : Steps inputStep Accepts runtime history) :
    ∃ replica', replayInputs replica ledger.asked history =
        (.ok ((history.map InputTaskEvent.intoStateFactInput).foldl .note ledger).asked, replica') ∧
      Simulates (run inputStep runtime history) replica'
        ((history.map InputTaskEvent.intoStateFactInput).foldl .note ledger) := by
  induction history generalizing runtime replica ledger with
  | nil => exact ⟨replica, rfl, h⟩
  | cons input history ih =>
      obtain ⟨haccepts, hrest⟩ := haccepts
      rw [h.replayInputs_cons haccepts]
      exact ih (h.input haccepts) hrest

/-- A history that replays leaves the replica, in the posture of its flag. -/
theorem replayCommittedHistory_of_ok {history : List InputTaskEvent} {reconcileRequired : Bool}
    (h : replayInputs .new false history = (.ok reconcileRequired, replica)) :
    runtime.replayCommittedHistory history = (.ok (), { runtime with
      store := restorePosture replica reconcileRequired
      publishedSnapshot := none }) := by
  simp only [replayCommittedHistory]
  rw [h]

/-! ## The final posture -/

/-- A replica with a journal of its own and the live posture reproduces the runtime. -/
theorem replayEqualsLive_of_mirror {appMode : AppRuntimeMode} {store : StateStore}
    (h : runtime.store.MirroredBy store) (hconsumed : store.lastConsumedJournalSeq ≠ none)
    (happlied : store.lastAppliedJournalSeq ≠ none)
    (hposture : store.posture = runtime.store.posture) :
    ReplayEqualsLive runtime (.ok (), { new appMode with store }) := by
  obtain ⟨consumed, hconsumed⟩ := Option.ne_none_iff_exists'.mp hconsumed
  obtain ⟨applied, happlied⟩ := Option.ne_none_iff_exists'.mp happlied
  obtain ⟨hmode, hoverlay⟩ := RuntimePolicy.mk.injEq .. ▸ hposture
  have hlast : store.lastAppliedJournalSeq = runtime.store.lastAppliedJournalSeq := by
    rw [h.applied, happlied]
    rfl
  refine ⟨rfl, h.stateVersion.symm, ?_, hlast, fun snapshotId ↦ ?_, h.pending.symm,
    h.attention.symm, h.records.symm, hmode, ?_⟩
  · show store.lastConsumedJournalSeq = runtime.store.lastConsumedJournalSeq
    rw [h.consumed, hconsumed]
    rfl
  · rw [publishSnapshot_isSome, publishSnapshot_isSome, ← hlast]
  · show store.modeOverlay = runtime.store.modeOverlay
    rw [StateStore.modeOverlay, StateStore.modeOverlay, hmode, hoverlay]

/-- A history that asked for nothing is reproduced. -/
theorem Simulates.replayEqualsLive_of_quiet {appMode : AppRuntimeMode}
    (h : Simulates runtime replica ledger) (hasked : ledger.asked = false) :
    ReplayEqualsLive runtime
      (.ok (), { new appMode with store := restorePosture replica false }) := by
  obtain ⟨hopenWork, hunsettled⟩ := h.quiet hasked
  have hhealthy : runtime.store.posture = reconciledPolicy := by
    rw [h.live.posture, FollowUpLedger.policy, if_pos ⟨hopenWork, hunsettled⟩]
  have hpending : runtime.store.pendingReconcileAnchors = ∅ := h.live.openWork.trans hopenWork
  unfold restorePosture
  rw [if_neg Bool.false_ne_true]
  cases hlast : replica.lastAppliedJournalSeq with
  | none =>
      have hconsumed : replica.lastConsumedJournalSeq = none :=
        h.anchored.consumed.mpr ⟨h.anchored.applied.mp hlast, hasked⟩
      rw [Option.isNone_none, if_pos rfl]
      refine replayEqualsLive_of_mirror ?_ (by simp [hlast]) (by simp [hlast]) (by simp [hhealthy])
      obtain ⟨hversion, hlive, happlied, hjournal, hbound, hrecords, hbackfills, -, hattention⟩ :=
        h.mirror
      constructor <;> simp [*]
  | some seq =>
      have hconsumed : replica.lastConsumedJournalSeq ≠ none := fun hnone ↦ by
        rw [h.anchored.applied.mpr (h.anchored.consumed.mp hnone).1] at hlast
        cases hlast
      exact replayEqualsLive_of_mirror { h.mirror with } hconsumed
        (by simp [StateStore.restoreReconciledPolicy, hlast]) hhealthy.symm

/-- A history that asked for a reconcile is reproduced if some fact has settled and
the live runtime ends restricted, and only then. -/
theorem Simulates.replayEqualsLive_iff_of_asked {appMode : AppRuntimeMode}
    (h : Simulates runtime replica ledger) (hasked : ledger.asked = true) :
    ReplayEqualsLive runtime
        (.ok (), { new appMode with store := restorePosture replica true }) ↔
      ledger.settled ≠ [] ∧ (ledger.openWork ≠ ∅ ∨ ledger.unsettled = true) := by
  have hconsumed : replica.lastConsumedJournalSeq ≠ none := fun hnone ↦ by
    rw [(h.anchored.consumed.mp hnone).2] at hasked
    exact Bool.false_ne_true hasked
  constructor
  · intro hequal
    refine ⟨fun hempty ↦ ?_, ?_⟩
    · have hlast : replica.lastAppliedJournalSeq = runtime.store.lastAppliedJournalSeq :=
        hequal.lastApplied
      rw [h.anchored.applied.mpr hempty, h.mirror.applied] at hlast
      cases hlast
    · by_contra hnot
      rw [not_or, not_not, Bool.not_eq_true] at hnot
      have hposture := h.live.posture
      rw [FollowUpLedger.policy, if_pos hnot] at hposture
      have hmode : RuntimeMode.reconciling = runtime.store.runtimeMode := hequal.mode
      rw [show runtime.store.runtimeMode = .healthy from congrArg RuntimePolicy.mode hposture]
        at hmode
      cases hmode
  · rintro ⟨hsettled, hrestricted⟩
    refine replayEqualsLive_of_mirror { h.mirror with } hconsumed
      (fun hnone ↦ hsettled (h.anchored.applied.mp hnone)) ?_
    rw [h.live.posture, FollowUpLedger.policy, if_neg]
    · rfl
    · rintro ⟨hopenWork, hunsettled⟩
      rcases hrestricted with hne | htrue
      · exact hne hopenWork
      · rw [hunsettled] at htrue
        exact Bool.false_ne_true htrue

/-- **Replay equals live exactly when the ledger agrees.**  A runtime that has been
fed nothing bootstraps and then accepts a history.  Replaying the history on a fresh
runtime reproduces the live one if and only if no fact of the history asked for a
reconcile, or some fact settled and the history ends with work open or with a fact
that asked. -/
theorem replay_equals_live_iff (appMode appMode' : AppRuntimeMode) (before : List RuntimeOp)
    (source : RemoteSnapshot) (history : List InputTaskEvent)
    (hbefore : ∀ op ∈ before, op.FeedsNothing)
    (hsucceeded : ((after appMode before).bootstrapOnce source).1.succeeded = true)
    (haccepts : Steps inputStep Accepts ((after appMode before).bootstrapOnce source).2 history) :
    ReplayEqualsLive (run inputStep ((after appMode before).bootstrapOnce source).2 history)
        ((new appMode').replayCommittedHistory history) ↔
      (followUpLedger history).ReplayAgrees := by
  obtain ⟨replica, hreplay, hsim⟩ :=
    (Simulates.bootstrap (unfed_after appMode hbefore) hsucceeded).replay haccepts
  have hreplayed : (new appMode').replayCommittedHistory history =
      (.ok (), { new appMode' with
        store := restorePosture replica (followUpLedger history).asked }) :=
    replayCommittedHistory_of_ok hreplay
  rw [hreplayed]
  cases hasked : (followUpLedger history).asked with
  | false => exact iff_of_true (hsim.replayEqualsLive_of_quiet hasked) (.inl hasked)
  | true =>
      rw [FollowUpLedger.replayAgrees_of_asked hasked]
      exact hsim.replayEqualsLive_iff_of_asked hasked

/-- A discovery and its backfill, after a bootstrap: the hypotheses of
`replay_equals_live_iff` are met. -/
theorem replay_equals_live_iff_discovery :
    ReplayEqualsLive
        (run inputStep ((after .live []).bootstrapOnce .empty).2
          [.new 1 (.familyDiscoveryObserved "session" "found" "family" 0),
            .new 2 (.familyBackfillObserved "session" "filled" "family" "cursor" true 1)])
        ((new .live).replayCommittedHistory
          [.new 1 (.familyDiscoveryObserved "session" "found" "family" 0),
            .new 2 (.familyBackfillObserved "session" "filled" "family" "cursor" true 1)]) ↔
      (followUpLedger
        [.new 1 (.familyDiscoveryObserved "session" "found" "family" 0),
          .new 2 (.familyBackfillObserved "session" "filled" "family" "cursor" true 1)]
        ).ReplayAgrees :=
  replay_equals_live_iff .live .live [] .empty
    [.new 1 (.familyDiscoveryObserved "session" "found" "family" 0),
      .new 2 (.familyBackfillObserved "session" "filled" "family" "cursor" true 1)]
    (by simp) (by decide) (by decide)

/-- A history of one pending trade: the live runtime has the baseline as its applied
number, its replay has none. -/
theorem replay_of_pending_trade_loses_baseline :
    let live := run inputStep ((new .live).bootstrapOnce .empty).2 [outOfOrderInput 1 "trade"]
    let replayed := (new .live).replayCommittedHistory [outOfOrderInput 1 "trade"]
    ((new .live).bootstrapOnce .empty).1.succeeded = true ∧
      Steps inputStep Accepts ((new .live).bootstrapOnce .empty).2 [outOfOrderInput 1 "trade"] ∧
      replayed.1 = .ok () ∧
      live.store.lastAppliedJournalSeq = some 0 ∧
      replayed.2.store.lastAppliedJournalSeq = none ∧
      (live.publishSnapshot "snapshot-0").1.isSome = true ∧
      (replayed.2.publishSnapshot "snapshot-0").1 = none := by
  decide

end AppRuntime

end AxiomArb.AppLive
