import AxiomArb.AppLive.Runtime
import AxiomArb.State.Restriction

/-!
# Startup

Until a reconcile succeeds a runtime is meant to be cancel-only, whatever facts it
is fed.  A startup run mixes failed reconciles with inputs; it leaves cancel-only
exactly through the facts that lift a restriction.
-/

namespace AxiomArb.AppLive

open Domain Library State

inductive StartupOp where
  | bootstrapOnce (source : RemoteSnapshot)
  | reconcile (snapshot : RemoteSnapshot)
  | applyInput (input : InputTaskEvent)

namespace AppRuntime

def startupStep (runtime : AppRuntime) : StartupOp → AppRuntime
  | .bootstrapOnce source => (runtime.bootstrapOnce source).2
  | .reconcile snapshot => (runtime.reconcile snapshot).2
  | .applyInput input => (runtime.applyInput input).2

/-- The reconcile the operation makes, if any, does not succeed. -/
def StartupFails (runtime : AppRuntime) : StartupOp → Prop
  | .bootstrapOnce source => (runtime.bootstrapOnce source).1.succeeded = false
  | .reconcile snapshot => (runtime.reconcile snapshot).1.succeeded = false
  | .applyInput _ => True

instance (runtime : AppRuntime) (op : StartupOp) : Decidable (runtime.StartupFails op) := by
  cases op <;> unfold StartupFails <;> infer_instance

/-- The operation feeds in a fact that lifts the restriction. -/
def StartupLifts (runtime : AppRuntime) : StartupOp → Prop
  | .applyInput input =>
      runtime.store.LiftsRestriction (input.journalSeq, input.intoStateFactInput)
  | _ => False

instance (runtime : AppRuntime) (op : StartupOp) : Decidable (runtime.StartupLifts op) := by
  cases op <;> unfold StartupLifts <;> infer_instance

variable {runtime : AppRuntime}

theorem cancelOnly_startupStep_iff {op : StartupOp} (h : runtime.store.CancelOnly)
    (hfails : runtime.StartupFails op) :
    (runtime.startupStep op).store.CancelOnly ↔ ¬ runtime.StartupLifts op := by
  cases op with
  | bootstrapOnce source =>
      have hfailed : (runtime.store.reconcile source).1.succeeded = false := hfails
      refine iff_of_true ?_ id
      rw [startupStep, store_bootstrapOnce_of_failed hfails]
      exact (StateStore.restricted_iff_posture.mpr
        (runtime.store.reconcile_failed_fields source hfailed).2).cancelOnly
  | reconcile snapshot =>
      have hfailed : (runtime.store.reconcile snapshot).1.succeeded = false := hfails
      refine iff_of_true ?_ id
      rw [startupStep, store_reconcile_of_failed hfails]
      exact (StateStore.restricted_iff_posture.mpr
        (runtime.store.reconcile_failed_fields snapshot hfailed).2).cancelOnly
  | applyInput input =>
      rw [startupStep, store_applyInput]
      exact StateStore.cancelOnly_applyStep_iff h

/-- A runtime whose reconciles all fail is closed to trading until a fact lifts it. -/
theorem always_cancelOnly_iff (appMode : AppRuntimeMode) (ops : List StartupOp)
    (hfails : Steps startupStep StartupFails (new appMode) ops) :
    Always startupStep (fun runtime ↦ runtime.store.CancelOnly) (new appMode) ops ↔
      Steps startupStep (fun runtime op ↦ ¬ runtime.StartupLifts op) (new appMode) ops :=
  always_iff_steps (J := fun _ ↦ True) (fun _ _ _ _ ↦ trivial)
    (fun _ _ _ h hfails ↦ cancelOnly_startupStep_iff h hfails) trivial StateStore.cancelOnly_new
    hfails

/-- **Startup stays cancel-only exactly as long as no fact lifts it.**  In every
run from a new runtime, and from a new store, whose reconciles all fail, trading
is closed throughout if and only if no fact is settled, new, with nothing left
pending after a reconcile has been asked for. -/
theorem startup_cancelOnly_iff (appMode : AppRuntimeMode) (ops : List StartupOp)
    (storeOps : List StoreOp)
    (hfails : Steps startupStep StartupFails (new appMode) ops)
    (hstore : Steps StateStore.step StateStore.StartupFails .new storeOps) :
    (Always startupStep (fun runtime ↦ runtime.store.CancelOnly) (new appMode) ops ↔
      Steps startupStep (fun runtime op ↦ ¬ runtime.StartupLifts op) (new appMode) ops) ∧
    (Always StateStore.step StateStore.CancelOnly .new storeOps ↔
      Steps StateStore.step (fun store op ↦ ¬ store.StartupLifts op) .new storeOps) :=
  ⟨always_cancelOnly_iff appMode ops hfails, StateStore.always_cancelOnly_iff storeOps hstore⟩

/-- A live reconcile that is still pending. -/
def pendingLiveReconcile (journalSeq : Int) (eventId pendingRef : String) : InputTaskEvent :=
  .new journalSeq (.negriskLiveReconcileObserved "session" eventId pendingRef "family" false 0)

/-- A plain fact of the market stream. -/
def plainInput (journalSeq : Int) (eventId : String) : InputTaskEvent :=
  .new journalSeq (.new "market" "session" eventId "v1" 0)

/-- The hypotheses of `startup_cancelOnly_iff` are met by a failed bootstrap. -/
theorem startup_cancelOnly_iff_failed_bootstrap :
    (Always startupStep (fun runtime ↦ runtime.store.CancelOnly) (new .live)
          [.bootstrapOnce divergentSnapshot, .applyInput (plainInput 1 "a")] ↔
        Steps startupStep (fun runtime op ↦ ¬ runtime.StartupLifts op) (new .live)
          [.bootstrapOnce divergentSnapshot, .applyInput (plainInput 1 "a")]) ∧
      (Always StateStore.step StateStore.CancelOnly .new
          [.reconcile divergentSnapshot, .apply (1, plainFact "a")] ↔
        Steps StateStore.step (fun store op ↦ ¬ store.StartupLifts op) .new
          [.reconcile divergentSnapshot, .apply (1, plainFact "a")]) :=
  startup_cancelOnly_iff .live
    [.bootstrapOnce divergentSnapshot, .applyInput (plainInput 1 "a")]
    [.reconcile divergentSnapshot, .apply (1, plainFact "a")]
    (by decide)
    ⟨show (StateStore.new.reconcile divergentSnapshot).1.succeeded = false by decide,
      trivial, trivial⟩

/-- A live reconcile that is still pending, then a plain fact: trading is open
although no reconcile has succeeded. -/
theorem startup_opens_without_reconcile :
    let ops := [.bootstrapOnce divergentSnapshot,
      .applyInput (pendingLiveReconcile 1 "a" "pending"), .applyInput (plainInput 2 "b")]
    Steps startupStep StartupFails (new .live) ops ∧
      (run startupStep (new .live) ops).runtimeMode = .healthy ∧
      (run startupStep (new .live) ops).runtimeOverlay = none ∧
      (run startupStep (new .live) ops).store.allowsAutomaticRepair = true := by
  decide

end AppRuntime

end AxiomArb.AppLive
