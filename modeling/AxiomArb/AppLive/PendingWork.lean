import AxiomArb.AppLive.Runtime
import AxiomArb.State.Pending

/-!
# Pending work in the runtime

`RuntimeOp` lists the operations of the runtime.  In every run of them pending
work forces cancel-only.  Bootstrap is meant to keep pending work and the
journal's progress, and does unless it anchors the baseline over them.
-/

namespace AxiomArb.AppLive

open Domain Library State

inductive RuntimeOp where
  | bootstrapOnce (source : RemoteSnapshot)
  | reconcile (snapshot : RemoteSnapshot)
  | applyInput (input : InputTaskEvent)
  | restoreCommittedAnchor (committedStateVersion : Nat) (committedJournalSeq : Int)
  | restorePendingReconcileAnchor (anchor : PendingReconcileAnchor)
  | replayCommittedHistory (history : List InputTaskEvent)
  | clearPendingReconcileAfterRestore
  | publishSnapshot (snapshotId : String)

namespace AppRuntime

def step (runtime : AppRuntime) : RuntimeOp → AppRuntime
  | .bootstrapOnce source => (runtime.bootstrapOnce source).2
  | .reconcile snapshot => (runtime.reconcile snapshot).2
  | .applyInput input => (runtime.applyInput input).2
  | .restoreCommittedAnchor version seq => runtime.restoreCommittedAnchor version seq
  | .restorePendingReconcileAnchor anchor => runtime.restorePendingReconcileAnchor anchor
  | .replayCommittedHistory history => (runtime.replayCommittedHistory history).2
  | .clearPendingReconcileAfterRestore => runtime.clearPendingReconcileAfterRestore
  | .publishSnapshot snapshotId => (runtime.publishSnapshot snapshotId).2

/-- The runtime after a run of operations from a new one. -/
def after (appMode : AppRuntimeMode) (ops : List RuntimeOp) : AppRuntime :=
  run step (new appMode) ops

variable {runtime : AppRuntime}

/-- While a history is replayed, pending work binds the posture, and it is there
only if some fact asked for a reconcile. -/
theorem replayInputs_pending (history : List InputTaskEvent) {store : StateStore}
    (h : store.PendingRestricts) (required : Bool)
    (hrequired : store.pendingReconcileAnchors ≠ ∅ → required = true) :
    (replayInputs store required history).2.PendingRestricts ∧
      ∀ required', (replayInputs store required history).1 = .ok required' →
        (replayInputs store required history).2.pendingReconcileAnchors ≠ ∅ →
          required' = true := by
  induction history generalizing store required with
  | nil =>
      refine ⟨h, ?_⟩
      rintro _ ⟨rfl⟩ hne
      exact hrequired hne
  | cons input history ih =>
      have hstep := h.applyStep (input.journalSeq, input.intoStateFactInput)
      unfold replayInputs
      unfold StateStore.applyStep at hstep
      rcases store.apply_cases input.journalSeq input.intoStateFactInput with
        ⟨-, _, heq⟩ | ⟨-, -, _, _, heq⟩ | ⟨-, -, hsettles, _, _, heq⟩ | ⟨-, -, -, _, _, heq⟩
      · rw [heq]
        refine ⟨h, ?_⟩
        rintro _ ⟨⟩
      · rw [heq] at hstep ⊢
        exact ih hstep _ (by simpa using hrequired)
      · rw [heq] at hstep ⊢
        refine ih hstep _ fun hne ↦ hrequired ?_
        simp only [StateStore.recordAppliedFact_fields, StateStore.pendingReconcileAnchors_absorb,
          StateStore.consume_frame] at hne
        exact FactApplyHint.pendingAfter_of_settles hsettles hne
      · rw [heq] at hstep ⊢
        exact ih hstep _ fun _ ↦ rfl

theorem restorePosture_pendingRestricts {store : StateStore} {required : Bool}
    (h : store.pendingReconcileAnchors ≠ ∅ → required = true) :
    (restorePosture store required).PendingRestricts := by
  unfold restorePosture
  cases required with
  | true => exact fun _ ↦ ⟨rfl, rfl⟩
  | false =>
      have hempty : store.pendingReconcileAnchors = ∅ := by
        by_contra hne
        exact absurd (h hne) Bool.false_ne_true
      rw [if_neg Bool.false_ne_true]
      split
      · exact .markReconciledAfterRestore 0
      · exact .of_empty hempty

/-- Every operation of the runtime leaves pending work bound to the posture. -/
theorem pendingRestricts_step (h : runtime.store.PendingRestricts) (op : RuntimeOp) :
    (runtime.step op).store.PendingRestricts := by
  cases op with
  | bootstrapOnce source =>
      rw [step, store_bootstrapOnce]
      split
      · exact .markReconciledAfterRestore 0
      · exact h.reconcile source
  | reconcile snapshot =>
      rw [step, store_reconcile]
      split
      · split
        · exact .markReconciledAfterRestore 0
        · exact .clearPendingReconcileAfterRestore
      · exact h.reconcile snapshot
  | applyInput input =>
      rw [step, store_applyInput]
      exact h.applyStep _
  | restoreCommittedAnchor version seq => exact .restoreCommittedAnchor version seq
  | restorePendingReconcileAnchor anchor => exact .restorePendingReconcileAnchor anchor
  | replayCommittedHistory history =>
      have hnew : StateStore.new.PendingRestricts := .of_empty rfl
      obtain ⟨hpending, hrequired⟩ :=
        replayInputs_pending history hnew false fun hne ↦ absurd rfl hne
      rw [step, store_replayCommittedHistory]
      generalize replayInputs StateStore.new false history = replayed at hpending hrequired
      obtain ⟨result, store⟩ := replayed
      cases result with
      | error error => exact hpending
      | ok required => exact restorePosture_pendingRestricts (hrequired required rfl)
  | clearPendingReconcileAfterRestore => exact .clearPendingReconcileAfterRestore
  | publishSnapshot snapshotId =>
      rw [step, store_publishSnapshot]
      exact h

/-- **Pending work forces cancel-only.**  In every reachable runtime with pending
work the mode is reconciling, the overlay is cancel-only, and the state of every
anchored family is uncertain. -/
theorem pending_work_forces_cancelOnly (appMode : AppRuntimeMode) (ops : List RuntimeOp)
    (h : 0 < (after appMode ops).pendingReconcileCount) :
    (after appMode ops).runtimeMode = .reconciling ∧
      (after appMode ops).runtimeOverlay = some .cancelOnly ∧
      ∀ anchor ∈ (after appMode ops).store.pendingReconcileAnchors.vals,
        (after appMode ops).store.stateConfidence anchor.familyId = .uncertain := by
  have hinv : (after appMode ops).store.PendingRestricts :=
    run_inv (P := fun runtime : AppRuntime ↦ runtime.store.PendingRestricts)
      (fun _ op h ↦ pendingRestricts_step h op) (.of_empty rfl)
  obtain ⟨-, hposture⟩ := hinv (BTreeMap.size_pos_iff.mp h)
  obtain ⟨hmode, hoverlay⟩ := RuntimePolicy.mk.injEq .. ▸ hposture
  refine ⟨hmode, ?_, fun anchor hanchor ↦ StateStore.stateConfidence_of_pending hanchor⟩
  show StateStore.modeOverlay _ = _
  rw [StateStore.modeOverlay, hoverlay]
  rfl

/-- A user trade that arrived out of order. -/
def outOfOrderInput (journalSeq : Int) (eventId : String) : InputTaskEvent :=
  .outOfOrderUserTrade journalSeq (.new "market" "session" eventId "v1" 0)

/-- The hypothesis of `pending_work_forces_cancelOnly` is met after one pending fact. -/
theorem pending_work_forces_cancelOnly_trade :
    (after .live [.bootstrapOnce .empty, .applyInput (outOfOrderInput 5 "trade")]).runtimeMode =
        .reconciling ∧
      (after .live [.bootstrapOnce .empty, .applyInput (outOfOrderInput 5 "trade")]).runtimeOverlay
        = some .cancelOnly ∧
      ∀ anchor ∈ (after .live [.bootstrapOnce .empty, .applyInput (outOfOrderInput 5 "trade")]
          ).store.pendingReconcileAnchors.vals,
        (after .live [.bootstrapOnce .empty, .applyInput (outOfOrderInput 5 "trade")]
          ).store.stateConfidence anchor.familyId = .uncertain :=
  pending_work_forces_cancelOnly .live
    [.bootstrapOnce .empty, .applyInput (outOfOrderInput 5 "trade")] (by decide)

/-! ## Bootstrap -/

/-- What a bootstrap is to keep: every pending anchor, the journal's progress, and
the cancel-only posture of a runtime with pending work. -/
structure BootstrapPreserves (runtime : AppRuntime) (source : RemoteSnapshot) : Prop where
  anchors : ∀ (pendingRef : String) (anchor : PendingReconcileAnchor),
    runtime.store.pendingReconcileAnchors[pendingRef]? = some anchor →
      (runtime.bootstrapOnce source).2.store.pendingReconcileAnchors[pendingRef]? = some anchor
  progress : runtime.lastJournalSeq ≤ (runtime.bootstrapOnce source).2.lastJournalSeq
  posture : runtime.store.pendingReconcileAnchors ≠ ∅ →
    (runtime.bootstrapOnce source).2.store.Restricted

/-- A bootstrap that succeeds on a runtime that has applied nothing, but has pending
work or has consumed a number past the baseline. -/
def BaselineOverwrites (runtime : AppRuntime) (source : RemoteSnapshot) : Prop :=
  collectAttention runtime.store source = [] ∧
    runtime.store.lastAppliedJournalSeq = none ∧
    (runtime.store.pendingReconcileAnchors ≠ ∅ ∨ ∃ seq ∈ runtime.lastJournalSeq, 0 < seq)

/-- Without the baseline, a bootstrap is a reconcile, and keeps everything. -/
theorem bootstrapPreserves_of_no_baseline {source : RemoteSnapshot}
    (h : ¬ ((runtime.store.reconcile source).1.succeeded = true ∧
      runtime.store.lastAppliedJournalSeq = none)) :
    runtime.BootstrapPreserves source := by
  have hstore : (runtime.bootstrapOnce source).2.store = (runtime.store.reconcile source).2 := by
    rw [store_bootstrapOnce, if_neg h]
  refine ⟨?_, ?_, ?_⟩
  · intro pendingRef anchor hanchor
    simpa [hstore] using hanchor
  · simp only [lastJournalSeq, hstore, StateStore.reconcile_frame]
    cases runtime.store.lastConsumedJournalSeq <;> simp
  · intro hne
    rw [hstore, StateStore.restricted_iff_posture]
    cases hsucceeded : (runtime.store.reconcile source).1.succeeded with
    | false => exact (runtime.store.reconcile_failed_fields source hsucceeded).2
    | true =>
        rw [(runtime.store.reconcile_succeeded_fields source hsucceeded).2, if_neg hne]

/-- **Bootstrap preserves pending work and journal progress, unless it anchors the
baseline over them.** -/
theorem bootstrap_preserves_iff (runtime : AppRuntime) (source : RemoteSnapshot) :
    runtime.BootstrapPreserves source ↔ ¬ runtime.BaselineOverwrites source := by
  unfold BaselineOverwrites
  rw [← StateStore.reconcile_succeeded_iff]
  by_cases h : (runtime.store.reconcile source).1.succeeded = true ∧
      runtime.store.lastAppliedJournalSeq = none
  · have hstore : (runtime.bootstrapOnce source).2.store =
        (runtime.store.reconcile source).2.markReconciledAfterRestore 0 := by
      rw [store_bootstrapOnce, if_pos h]
    constructor
    · rintro ⟨-, hprogress, hposture⟩ ⟨-, -, hpending | ⟨seq, hseq, hpos⟩⟩
      · have hrestricted := StateStore.restricted_iff_posture.mp (hposture hpending)
        simp [hstore, reconciledPolicy, reconcileAttentionPolicy] at hrestricted
      · have hconsumed : runtime.lastJournalSeq = some seq := hseq
        rw [hconsumed] at hprogress
        simp only [lastJournalSeq, hstore, StateStore.markReconciledAfterRestore_fields,
          StateStore.reconcile_frame, h.2, if_true, Option.some_le_some] at hprogress
        omega
    · intro hnot
      have hempty : runtime.store.pendingReconcileAnchors = ∅ := by
        by_contra hne
        exact hnot ⟨h.1, h.2, .inl hne⟩
      refine ⟨?_, ?_, fun hne ↦ absurd hempty hne⟩
      · intro pendingRef anchor hanchor
        simp [hempty] at hanchor
      · have hle : ∀ seq ∈ runtime.lastJournalSeq, seq ≤ 0 := by
          intro seq hseq
          by_contra hpos
          exact hnot ⟨h.1, h.2, .inr ⟨seq, hseq, by omega⟩⟩
        simp only [lastJournalSeq, hstore, StateStore.markReconciledAfterRestore_fields,
          StateStore.reconcile_frame, h.2, if_true]
        unfold lastJournalSeq at hle
        cases hconsumed : runtime.store.lastConsumedJournalSeq with
        | none => simp
        | some seq => simpa using hle seq hconsumed
  · refine iff_of_true (bootstrapPreserves_of_no_baseline h) ?_
    rintro ⟨hsucceeded, hnone, -⟩
    exact h ⟨hsucceeded, hnone⟩

/-- One pending trade at sequence number 5, then a bootstrap: the anchor is gone,
the journal is back at 0, and trading is open. -/
theorem bootstrap_drops_pending_trade :
    let runtime := after .live [.applyInput (outOfOrderInput 5 "trade")]
    let report := (runtime.bootstrapOnce .empty).1
    let runtime' := (runtime.bootstrapOnce .empty).2
    report.succeeded = true ∧
      runtime.pendingReconcileCount = 1 ∧ runtime'.pendingReconcileCount = 0 ∧
      runtime.lastJournalSeq = some 5 ∧ runtime'.lastJournalSeq = some 0 ∧
      runtime'.runtimeMode = .healthy ∧ runtime'.runtimeOverlay = none := by
  decide

end AppRuntime

end AxiomArb.AppLive
