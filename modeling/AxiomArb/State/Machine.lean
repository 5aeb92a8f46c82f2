import AxiomArb.Library.Run
import AxiomArb.State.Effects

/-!
# The store as a machine

`StoreOp` lists the public operations that change a store, with their arguments.
A reachable store is the end of a run of them from `StateStore.new`.
-/

namespace AxiomArb.State

open Domain Library

/-- A fact together with the journal sequence number it arrives at. -/
abbrev JournaledFact := Int × StateFactInput

inductive StoreOp where
  | markBootstrapping
  | reconcile (snapshot : RemoteSnapshot)
  | restoreCommittedAnchor (committedStateVersion : Nat) (committedJournalSeq : Int)
  | restorePendingReconcileAnchor (anchor : PendingReconcileAnchor)
  | markReconciledAfterRestore (baselineJournalSeq : Int)
  | restoreReconciledPolicy
  | markReconcileRequired
  | clearPendingReconcileAfterRestore
  | recordLocalOrder (order : Order)
  | recordLocalApproval (approval : ApprovalState)
  | recordLocalInventory (tokenId : TokenId) (bucket : InventoryBucket) (quantity : Decimal)
  | recordLocalResolution (resolution : ResolutionState)
  | recordLocalRelayerTx (tx : RelayerTxSummary)
  | apply (input : JournaledFact)

namespace StateStore

def step (store : StateStore) : StoreOp → StateStore
  | .markBootstrapping => store.markBootstrapping
  | .reconcile snapshot => (store.reconcile snapshot).2
  | .restoreCommittedAnchor version seq => store.restoreCommittedAnchor version seq
  | .restorePendingReconcileAnchor anchor => store.restorePendingReconcileAnchor anchor
  | .markReconciledAfterRestore seq => store.markReconciledAfterRestore seq
  | .restoreReconciledPolicy => store.restoreReconciledPolicy
  | .markReconcileRequired => store.markReconcileRequired
  | .clearPendingReconcileAfterRestore => store.clearPendingReconcileAfterRestore
  | .recordLocalOrder order => store.recordLocalOrder order
  | .recordLocalApproval approval => store.recordLocalApproval approval
  | .recordLocalInventory tokenId bucket quantity =>
      store.recordLocalInventory tokenId bucket quantity
  | .recordLocalResolution resolution => store.recordLocalResolution resolution
  | .recordLocalRelayerTx tx => store.recordLocalRelayerTx tx
  | .apply input => (store.apply input.1 input.2).2

/-- The machine that only applies facts. -/
def applyStep (store : StateStore) (input : JournaledFact) : StateStore :=
  (store.apply input.1 input.2).2

/-- The store after a run of operations from a new one. -/
def after (ops : List StoreOp) : StateStore := run step new ops

/-- A fact that has been applied for good stays applied, whatever is done to the
store afterwards. -/
theorem HasApplied.step {store : StateStore} {factKey : FactKey} (h : store.HasApplied factKey)
    (op : StoreOp) : (store.step op).HasApplied factKey := by
  unfold HasApplied at h ⊢
  cases op with
  | apply input =>
      obtain ⟨journalSeq, fact⟩ := input
      show (store.apply journalSeq fact).2.appliedFactJournal[factKey]? ≠ none
      rcases store.apply_cases journalSeq fact with ⟨-, _, heq⟩ | ⟨-, -, _, _, heq⟩ |
          ⟨-, -, -, _, _, heq⟩ | ⟨-, -, -, _, _, heq⟩
      · rw [heq]
        exact h
      · rw [heq]
        simpa using h
      · rw [heq]
        by_cases hkey : fact.factKey = factKey
        · simp [hkey]
        · simpa [BTreeMap.lookup_insert_of_ne hkey] using h
      · rw [heq]
        simpa using h
  | reconcile snapshot => simpa [StateStore.step] using h
  | markBootstrapping => simpa [StateStore.step] using h
  | markReconciledAfterRestore baseline => simpa [StateStore.step] using h
  | clearPendingReconcileAfterRestore => simpa [StateStore.step] using h
  | restoreCommittedAnchor version seq => simpa [StateStore.step] using h
  | restorePendingReconcileAnchor anchor => simpa [StateStore.step] using h
  | _ => exact h

end StateStore

end AxiomArb.State
