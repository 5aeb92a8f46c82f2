import AxiomArb.State.Machine
import AxiomArb.State.Snapshot

/-!
# The application runtime

`AppRuntime` owns a state store and the last published snapshot.  It takes inputs
from the journal, reconciles with the venue at bootstrap, and rebuilds its store
from a committed history at restart.

## Honest boundary

* Tracing spans and metrics are left out.
* A bootstrap source is the snapshot it returns.
-/

namespace AxiomArb.AppLive

open Domain Library State

/-! ## Inputs -/

inductive InputTaskHint where
  | none
  | outOfOrderUserTrade
deriving DecidableEq, Repr

/-- An entry of the external journal. -/
structure InputTaskEvent where
  journalSeq : Int
  event : ExternalFactEvent
  hint : InputTaskHint
deriving DecidableEq, Repr

namespace InputTaskEvent

def new (journalSeq : Int) (event : ExternalFactEvent) : InputTaskEvent :=
  { journalSeq, event, hint := .none }

def outOfOrderUserTrade (journalSeq : Int) (event : ExternalFactEvent) : InputTaskEvent :=
  { journalSeq, event, hint := .outOfOrderUserTrade }

def intoStateFactInput (input : InputTaskEvent) : StateFactInput :=
  match input.hint with
  | .none => .new input.event
  | .outOfOrderUserTrade => .outOfOrderUserTrade input.event

/-- The identity of the fact an input carries. -/
def factKey (input : InputTaskEvent) : FactKey := input.intoStateFactInput.factKey

end InputTaskEvent

/-! ## The runtime -/

inductive AppRuntimeMode where
  | paper
  | live
deriving DecidableEq, Repr

inductive BootstrapStatus where
  | cancelOnly
  | ready
deriving DecidableEq, Repr

def bootstrapStatus (store : StateStore) : BootstrapStatus :=
  if store.firstReconcileSucceeded then .ready else .cancelOnly

structure AppRuntime where
  store : StateStore
  appMode : AppRuntimeMode
  publishedSnapshot : Option PublishedSnapshot
deriving DecidableEq

namespace AppRuntime

def new (appMode : AppRuntimeMode) : AppRuntime :=
  { store := .new, appMode, publishedSnapshot := none }

variable (runtime : AppRuntime)

def bootstrapStatus : BootstrapStatus := AppLive.bootstrapStatus runtime.store

def runtimeMode : RuntimeMode := runtime.store.mode

def stateVersion : Nat := runtime.store.stateVersion

def lastJournalSeq : Option Int := runtime.store.lastConsumedJournalSeq

def publishedSnapshotId : Option String :=
  runtime.publishedSnapshot.map PublishedSnapshot.snapshotId

def publishedSnapshotCommittedJournalSeq : Option Int :=
  runtime.publishedSnapshot.map PublishedSnapshot.committedJournalSeq

def runtimeOverlay : Option RuntimeOverlay := runtime.store.modeOverlay

def pendingReconcileCount : Nat := runtime.store.pendingReconcileCount

def restoreCommittedAnchor (committedStateVersion : Nat) (committedJournalSeq : Int) :
    AppRuntime :=
  { runtime with
    store := runtime.store.restoreCommittedAnchor committedStateVersion committedJournalSeq }

def restorePendingReconcileAnchor (anchor : PendingReconcileAnchor) : AppRuntime :=
  { runtime with store := runtime.store.restorePendingReconcileAnchor anchor }

def clearPendingReconcileAfterRestore : AppRuntime :=
  { runtime with store := runtime.store.clearPendingReconcileAfterRestore }

/-- Anchor a store that has applied nothing at the journal's baseline. -/
def anchorBaselineIfReady (reconcileSucceeded : Bool) : AppRuntime :=
  if reconcileSucceeded ∧ runtime.store.lastAppliedJournalSeq.isNone then
    { runtime with store := runtime.store.markReconciledAfterRestore 0 }
  else
    runtime

/-- An explicit reconcile gives up the pending work; the bootstrap one does not. -/
def reconcile (snapshot : RemoteSnapshot) : ReconcileReport × AppRuntime :=
  let (report, store) := runtime.store.reconcile snapshot
  let store := if report.succeeded then store.clearPendingReconcileAfterRestore else store
  (report, { runtime with store }.anchorBaselineIfReady report.succeeded)

def bootstrapOnce (source : RemoteSnapshot) : ReconcileReport × AppRuntime :=
  let (report, store) := runtime.store.reconcile source
  (report, { runtime with store }.anchorBaselineIfReady report.succeeded)

def applyInput (input : InputTaskEvent) : Except ApplyError ApplyResult × AppRuntime :=
  match runtime.store.apply input.journalSeq input.intoStateFactInput with
  | (.error error, store) => (.error error, { runtime with store })
  | (.ok result, store) =>
      match result with
      | .applied .. => (.ok result, { runtime with store, publishedSnapshot := none })
      | .reconcileRequired .. =>
          (.ok result, { runtime with store := store.markReconcileRequired })
      | .duplicate .. | .deferred .. => (.ok result, { runtime with store })

def publishSnapshot (snapshotId : String) : Option PublishedSnapshot × AppRuntime :=
  match PublishedSnapshot.fromStore runtime.store (.readyFullsetPendingNegrisk snapshotId) with
  | none => (none, runtime)
  | some snapshot => (some snapshot, { runtime with publishedSnapshot := some snapshot })

def candidatePublication : Option CandidatePublication :=
  CandidatePublication.fromStore runtime.store
    { publicationId := s!"candidate-pub-{runtime.stateVersion}", status := .ready }

/-! ## Replay -/

/-- Apply a history; the flag says whether some fact asked for a reconcile.  The
first error stops the replay where it stands. -/
def replayInputs (store : StateStore) (reconcileRequired : Bool) :
    List InputTaskEvent → Except ApplyError Bool × StateStore
  | [] => (.ok reconcileRequired, store)
  | input :: history =>
      match store.apply input.journalSeq input.intoStateFactInput with
      | (.error error, store) => (.error error, store)
      | (.ok (.reconcileRequired ..), store) => replayInputs store true history
      | (.ok _, store) => replayInputs store reconcileRequired history

/-- The posture a replayed store is left in. -/
def restorePosture (store : StateStore) (reconcileRequired : Bool) : StateStore :=
  if reconcileRequired then
    store.restoreReconciledPolicy.markReconcileRequired
  else if store.lastAppliedJournalSeq.isNone then
    -- an empty committed history still needs a baseline anchor
    store.markReconciledAfterRestore 0
  else
    store.restoreReconciledPolicy

def replayCommittedHistory (history : List InputTaskEvent) :
    Except ApplyError Unit × AppRuntime :=
  let runtime := { runtime with store := .new, publishedSnapshot := none }
  match replayInputs runtime.store false history with
  | (.error error, store) => (.error error, { runtime with store })
  | (.ok reconcileRequired, store) =>
      (.ok (), { runtime with store := restorePosture store reconcileRequired })

/-! ## What the operations do to the store -/

variable {runtime : AppRuntime}

/-- An accepted or refused input does to the store what the applier does. -/
@[simp] theorem store_applyInput (input : InputTaskEvent) :
    (runtime.applyInput input).2.store =
      runtime.store.applyStep (input.journalSeq, input.intoStateFactInput) := by
  unfold applyInput StateStore.applyStep
  rcases runtime.store.apply_cases input.journalSeq input.intoStateFactInput with
    ⟨-, _, heq⟩ | ⟨-, -, _, _, heq⟩ | ⟨-, -, -, _, _, heq⟩ | ⟨-, -, -, _, _, heq⟩
  · rw [heq]
  · rw [heq]
  · rw [heq]
  · -- asking for a reconcile twice is asking once
    rw [heq]
    rfl

theorem result_applyInput (input : InputTaskEvent) :
    (runtime.applyInput input).1 =
      (runtime.store.apply input.journalSeq input.intoStateFactInput).1 := by
  unfold applyInput
  rcases runtime.store.apply input.journalSeq input.intoStateFactInput with ⟨result, store⟩
  cases result with
  | error error => rfl
  | ok result => cases result <;> rfl

theorem store_anchorBaselineIfReady (succeeded : Bool) :
    (runtime.anchorBaselineIfReady succeeded).store =
      if succeeded = true ∧ runtime.store.lastAppliedJournalSeq = none then
        runtime.store.markReconciledAfterRestore 0
      else runtime.store := by
  unfold anchorBaselineIfReady
  simp only [Option.isNone_iff_eq_none]
  split <;> rfl

theorem store_bootstrapOnce (source : RemoteSnapshot) :
    (runtime.bootstrapOnce source).2.store =
      if (runtime.store.reconcile source).1.succeeded = true ∧
          runtime.store.lastAppliedJournalSeq = none then
        (runtime.store.reconcile source).2.markReconciledAfterRestore 0
      else (runtime.store.reconcile source).2 := by
  unfold bootstrapOnce
  rw [store_anchorBaselineIfReady]
  simp

/-- A failed reconcile only restricts the store, at bootstrap and later. -/
theorem store_bootstrapOnce_of_failed {source : RemoteSnapshot}
    (h : (runtime.bootstrapOnce source).1.succeeded = false) :
    (runtime.bootstrapOnce source).2.store = (runtime.store.reconcile source).2 := by
  have hfailed : (runtime.store.reconcile source).1.succeeded = false := h
  rw [store_bootstrapOnce, hfailed]
  simp

theorem store_reconcile (snapshot : RemoteSnapshot) :
    (runtime.reconcile snapshot).2.store =
      if (runtime.store.reconcile snapshot).1.succeeded = true then
        if runtime.store.lastAppliedJournalSeq = none then
          (runtime.store.reconcile snapshot).2.clearPendingReconcileAfterRestore.markReconciledAfterRestore 0
        else (runtime.store.reconcile snapshot).2.clearPendingReconcileAfterRestore
      else (runtime.store.reconcile snapshot).2 := by
  unfold reconcile
  simp only [store_anchorBaselineIfReady]
  by_cases h : (runtime.store.reconcile snapshot).1.succeeded = true
  · simp [h]
  · simp [h]

theorem store_reconcile_of_failed {snapshot : RemoteSnapshot}
    (h : (runtime.reconcile snapshot).1.succeeded = false) :
    (runtime.reconcile snapshot).2.store = (runtime.store.reconcile snapshot).2 := by
  have hfailed : (runtime.store.reconcile snapshot).1.succeeded = false := h
  rw [store_reconcile, hfailed]
  simp

/-- A replay that fails leaves the store where it stopped. -/
theorem store_replayCommittedHistory (history : List InputTaskEvent) :
    (runtime.replayCommittedHistory history).2.store =
      match replayInputs .new false history with
      | (.error _, store) => store
      | (.ok reconcileRequired, store) => restorePosture store reconcileRequired := by
  simp only [replayCommittedHistory]
  rcases replayInputs .new false history with ⟨result, store⟩
  cases result <;> rfl

@[simp] theorem store_publishSnapshot (snapshotId : String) :
    (runtime.publishSnapshot snapshotId).2.store = runtime.store := by
  unfold publishSnapshot
  split <;> rfl

@[simp] theorem appMode_applyInput (input : InputTaskEvent) :
    (runtime.applyInput input).2.appMode = runtime.appMode := by
  unfold applyInput
  rcases runtime.store.apply input.journalSeq input.intoStateFactInput with ⟨outcome, store⟩
  cases outcome with
  | error error => rfl
  | ok result => cases result <;> rfl

@[simp] theorem appMode_bootstrapOnce (source : RemoteSnapshot) :
    (runtime.bootstrapOnce source).2.appMode = runtime.appMode := by
  unfold bootstrapOnce anchorBaselineIfReady
  simp only
  split <;> rfl

/-- A store that has applied something is published, under the id it is given and
without a neg-risk projection. -/
theorem publishSnapshot_of_applied (snapshotId : String)
    (h : runtime.store.lastAppliedJournalSeq ≠ none) :
    ∃ snapshot : PublishedSnapshot, snapshot.snapshotId = snapshotId ∧ snapshot.negrisk = none ∧
      runtime.publishSnapshot snapshotId =
        (some snapshot, { runtime with publishedSnapshot := some snapshot }) := by
  obtain ⟨committed, hcommitted⟩ := Option.ne_none_iff_exists'.mp h
  unfold publishSnapshot PublishedSnapshot.fromStore
  rw [hcommitted]
  exact ⟨_, rfl, rfl, rfl⟩

theorem publishSnapshot_of_not_applied {snapshotId : String}
    (h : runtime.store.lastAppliedJournalSeq = none) :
    runtime.publishSnapshot snapshotId = (none, runtime) := by
  unfold publishSnapshot PublishedSnapshot.fromStore
  rw [h]
  rfl

end AppRuntime

end AxiomArb.AppLive
