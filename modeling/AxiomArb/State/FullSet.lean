import AxiomArb.State.Snapshot
import AxiomArb.State.Versions

/-!
# The full-set view

The store keeps a copy of its open order ids, the full-set anchor, and publishes the
copy.  `FullsetCurrent` says that the copy, when there is one, is what a new copy
would be.  Each operation drops the copy, makes a new one, or leaves both the copy
and the orders alone (`step_fullset`), so the invariant holds of every run.
-/

namespace AxiomArb.State

open Domain Library

namespace StateStore

variable {store : StateStore} {op : StoreOp} {ops : List StoreOp} {journalSeq : Int}
  {fact : StateFactInput} {hint : FactApplyHint} {factKey : FactKey}

/-- The operation makes a new copy of the open orders. -/
def Covers (store : StateStore) : StoreOp → Prop
  | .apply input => ReturnsApplied (store.apply input.1 input.2).1 = true
  | .reconcile snapshot =>
      (store.reconcile snapshot).1.succeeded = true ∧ store.lastAppliedJournalSeq ≠ none
  | .restoreCommittedAnchor _ _ => True
  | .markReconciledAfterRestore _ => store.lastAppliedJournalSeq = none
  | _ => False

/-- The copy, when there is one, lists the open orders of the store. -/
def FullsetCurrent (store : StateStore) : Prop :=
  ∀ anchor, store.fullsetAnchor = some anchor → anchor.openOrders = store.currentOpenOrderIds

/-! ## What becomes of the copy -/

/-- The orders and their copy are as they were. -/
def SameFullset (store store' : StateStore) : Prop :=
  store'.openOrders = store.openOrders ∧ store'.fullsetAnchor = store.fullsetAnchor

theorem sameFullset_consume : store.SameFullset (store.consume journalSeq factKey) := by
  unfold consume
  split <;> exact ⟨rfl, rfl⟩

theorem sameFullset_absorb : store.SameFullset (store.absorb hint) := by
  cases hint with
  | familyBackfill familyId cursor completedAt =>
      unfold absorb recordFamilyBackfill
      dsimp only
      split <;> exact ⟨rfl, rfl⟩
  | liveReconcileObserved pendingRef terminal =>
      cases terminal with
      | false => exact ⟨rfl, rfl⟩
      | true => simp [SameFullset, absorb, clearPendingReconcile]
  | _ => exact ⟨rfl, rfl⟩

theorem SameFullset.trans {store' store'' : StateStore} (h : store.SameFullset store')
    (h' : store'.SameFullset store'') : store.SameFullset store'' :=
  ⟨h'.1.trans h.1, h'.2.trans h.2⟩

/-- A recorded fact makes a new copy. -/
theorem fullsetAnchor_recordAppliedFact (store : StateStore) (journalSeq : Int)
    (factKey : FactKey) :
    (store.recordAppliedFact journalSeq factKey).2.openOrders = store.openOrders ∧
      ∃ anchor, (store.recordAppliedFact journalSeq factKey).2.fullsetAnchor = some anchor ∧
        anchor.openOrders = store.currentOpenOrderIds := by
  simp only [recordAppliedFact, applyRestorePosture_frame]
  exact ⟨rfl, _, rfl, rfl⟩

/-- **What an operation does to the copy.**  One that covers the orders makes a new
copy; any other leaves the orders and the copy alone, or drops the copy. -/
theorem step_fullset (store : StateStore) (op : StoreOp) :
    (store.Covers op ∧ ∃ anchor, (store.step op).fullsetAnchor = some anchor ∧
      anchor.openOrders = (store.step op).currentOpenOrderIds) ∨
    (¬ store.Covers op ∧ (store.SameFullset (store.step op) ∨
      (store.step op).fullsetAnchor = none)) := by
  cases op with
  | apply input =>
      obtain ⟨journalSeq, fact⟩ := input
      simp only [Covers, step]
      rcases store.apply_cases journalSeq fact with ⟨-, _, heq⟩ | ⟨-, -, _, _, heq⟩ |
          ⟨-, -, -, _, _, heq⟩ | ⟨-, -, -, _, _, heq⟩
      · rw [heq]
        exact .inr ⟨Bool.false_ne_true, .inl ⟨rfl, rfl⟩⟩
      · rw [heq]
        exact .inr ⟨Bool.false_ne_true, .inl sameFullset_consume⟩
      · obtain ⟨horders, anchor, hanchor, hids⟩ := fullsetAnchor_recordAppliedFact
          ((store.consume journalSeq fact.factKey).absorb fact.applyHint) journalSeq fact.factKey
        rw [heq]
        refine .inl ⟨rfl, anchor, hanchor, ?_⟩
        rw [hids, currentOpenOrderIds, currentOpenOrderIds, horders]
      · rw [heq]
        exact .inr ⟨Bool.false_ne_true, .inl (sameFullset_consume.trans sameFullset_absorb)⟩
  | reconcile snapshot =>
      simp only [Covers, step]
      cases hsucceeded : (store.reconcile snapshot).1.succeeded with
      | false =>
          rw [store.reconcile_of_attention snapshot hsucceeded]
          exact .inr ⟨by simp, .inl ⟨rfl, rfl⟩⟩
      | true =>
          rw [store.reconcile_of_success snapshot hsucceeded]
          simp only [setModeIfReconciled, completeReconcile, applyRestorePosture_frame,
            currentOpenOrderIds]
          cases hlast : store.lastAppliedJournalSeq with
          | none => exact .inr ⟨by simp, .inr rfl⟩
          | some seq => exact .inl ⟨⟨trivial, by simp⟩, _, rfl, rfl⟩
  | restoreCommittedAnchor version seq =>
      refine .inl ⟨trivial, ?_⟩
      simp only [step, restoreCommittedAnchor, applyRestorePosture_frame, currentOpenOrderIds]
      exact ⟨_, rfl, rfl⟩
  | markReconciledAfterRestore baseline =>
      simp only [Covers, step, markReconciledAfterRestore]
      cases hlast : store.lastAppliedJournalSeq with
      | none => exact .inl ⟨rfl, _, rfl, rfl⟩
      | some seq => exact .inr ⟨by simp, .inl ⟨rfl, rfl⟩⟩
  | recordLocalOrder order => exact .inr ⟨id, .inr rfl⟩
  | markBootstrapping =>
      refine .inr ⟨id, .inl ?_⟩
      simp only [step, markBootstrapping]
      split <;> exact ⟨rfl, rfl⟩
  | restorePendingReconcileAnchor anchor =>
      refine .inr ⟨id, .inl ?_⟩
      simp [SameFullset, step, restorePendingReconcileAnchor, recordPendingReconcile]
  | clearPendingReconcileAfterRestore =>
      refine .inr ⟨id, .inl ?_⟩
      simp only [step, clearPendingReconcileAfterRestore]
      split
      · simp [SameFullset]
      · exact ⟨rfl, rfl⟩
  | _ => exact .inr ⟨id, .inl ⟨rfl, rfl⟩⟩

theorem FullsetCurrent.step (h : store.FullsetCurrent) (op : StoreOp) :
    (store.step op).FullsetCurrent := by
  intro anchor hanchor
  rcases store.step_fullset op with ⟨-, anchor', hanchor', hids⟩ | ⟨-, ⟨horders, hsame⟩ | hnone⟩
  · rw [hanchor'] at hanchor
    cases hanchor
    exact hids
  · rw [hsame] at hanchor
    rw [h anchor hanchor, currentOpenOrderIds, currentOpenOrderIds, horders]
  · rw [hnone] at hanchor
    cases hanchor

theorem fullsetCurrent_after : (after ops).FullsetCurrent :=
  run_inv (fun _ op h ↦ FullsetCurrent.step h op) (fun _ h ↦ by cases h)

/-- A dropped copy stays dropped until an operation covers the orders. -/
theorem fullsetAnchor_of_uncovered (h : store.fullsetAnchor = none)
    (hops : Steps step (fun store op ↦ ¬ store.Covers op) store ops) :
    (run step store ops).fullsetAnchor = none := by
  refine hops.run_inv (P := fun store : StateStore ↦ store.fullsetAnchor = none) ?_ h
  intro store op h huncovered
  rcases store.step_fullset op with ⟨hcovers, -⟩ | ⟨-, ⟨-, hsame⟩ | hnone⟩
  · exact absurd hcovers huncovered
  · exact hsame.trans h
  · exact hnone

/-! ## The published view -/

/-- What a published view is read from. -/
theorem fullset_of_fromStore {readiness : ProjectionReadiness} {snapshot : PublishedSnapshot}
    (h : PublishedSnapshot.fromStore store readiness = some snapshot) :
    snapshot.stateVersion = store.stateVersion ∧
      store.lastAppliedJournalSeq = some snapshot.committedJournalSeq ∧
      ∀ view, snapshot.fullset = some view →
        ∃ anchor, store.fullsetAnchor = some anchor ∧ view.openOrders = anchor.openOrders ∧
          view.stateVersion = anchor.stateVersion ∧ anchor.stateVersion = store.stateVersion ∧
          anchor.committedJournalSeq = snapshot.committedJournalSeq := by
  unfold PublishedSnapshot.fromStore at h
  cases hlast : store.lastAppliedJournalSeq with
  | none => simp [hlast] at h
  | some seq =>
      simp only [hlast, Option.pure_def, Option.bind_eq_bind, Option.bind_some,
        Option.some.injEq] at h
      subst h
      refine ⟨rfl, rfl, ?_⟩
      intro view hview
      dsimp only at hview ⊢
      split at hview
      · obtain ⟨anchor, hanchored, rfl⟩ := Option.map_eq_some_iff.mp hview
        unfold anchoredFullset at hanchored
        rw [hlast] at hanchored
        cases hanchor : store.fullsetAnchor with
        | none => simp [hanchor] at hanchored
        | some current =>
            rw [hanchor] at hanchored
            simp only [Option.ite_none_right_eq_some, Option.some.injEq] at hanchored
            obtain ⟨⟨hversion, hseq⟩, rfl⟩ := hanchored
            exact ⟨_, rfl, rfl, rfl, hversion, hseq⟩
      · cases hview

/-- **A published full-set view is always anchored.**  In every reachable store it
lists the open orders of the store, in ascending order, at the store's own version and
applied number.  Once a local order is recorded no view is published until an
operation covers the orders. -/
theorem fullset_view_anchored (ops : List StoreOp) :
    (∀ readiness snapshot view,
      PublishedSnapshot.fromStore (after ops) readiness = some snapshot →
      snapshot.fullset = some view →
        view.openOrders = (after ops).currentOpenOrderIds ∧
        view.openOrders.Pairwise (fun id id' ↦ compare id id' = .lt) ∧
        (∀ id, id ∈ view.openOrders ↔ id ∈ (after ops).openOrders) ∧
        view.stateVersion = (after ops).stateVersion ∧
        snapshot.stateVersion = (after ops).stateVersion ∧
        (after ops).lastAppliedJournalSeq = some snapshot.committedJournalSeq) ∧
    (∀ order later,
      Steps step (fun store op ↦ ¬ store.Covers op) ((after ops).recordLocalOrder order) later →
      ∀ readiness snapshot,
        PublishedSnapshot.fromStore (run step ((after ops).recordLocalOrder order) later)
            readiness = some snapshot →
          snapshot.fullset = none) := by
  constructor
  · intro readiness snapshot view hsnapshot hview
    obtain ⟨hversion, hseq, hfullset⟩ := fullset_of_fromStore hsnapshot
    obtain ⟨anchor, hanchor, horders, hviewVersion, hanchorVersion, -⟩ := hfullset view hview
    have hids : view.openOrders = (after ops).openOrders.keys :=
      horders.trans (fullsetCurrent_after anchor hanchor)
    refine ⟨hids, ?_, ?_, hviewVersion.trans hanchorVersion, hversion, hseq⟩
    · rw [hids]
      exact Std.ExtTreeMap.ordered_keys
    · intro id
      rw [hids]
      exact Std.ExtTreeMap.mem_keys
  · intro order later huncovered readiness snapshot hsnapshot
    have hnone := fullsetAnchor_of_uncovered rfl huncovered
    obtain ⟨-, -, hfullset⟩ := fullset_of_fromStore hsnapshot
    cases hview : snapshot.fullset with
    | none => rfl
    | some view =>
        obtain ⟨anchor, hanchor, -⟩ := hfullset view hview
        rw [hnone] at hanchor
        cases hanchor

end StateStore

end AxiomArb.State
