import AxiomArb.State.Store
import Mathlib.Data.List.Sort

/-!
# Reconciling the store with the venue

`collectAttention` compares the local view with a remote snapshot.  An attention
of any kind fails the reconcile and restricts the store; otherwise the remote view
replaces the local one.
-/

namespace AxiomArb.State

open Domain Library

inductive ReconcileAttention where
  | duplicateSignedOrder (orderId : OrderId) (signedOrderHash : String)
  | identifierMismatch (tokenId : TokenId) (expectedConditionId remoteConditionId : ConditionId)
  | missingRemoteOrder (orderId : OrderId)
  | unexpectedRemoteOrder (orderId : OrderId)
  | orderStateMismatch (orderId : OrderId)
  | approvalMismatch (key : ApprovalKey)
  | resolutionMismatch (conditionId : ConditionId)
  | relayerTxMismatch (txId : String)
  | inventoryMismatch (tokenId : TokenId) (bucket : InventoryBucket)
deriving DecidableEq, Repr

structure RemoteSnapshot where
  openOrders : List Order
  approvals : List ApprovalState
  inventory : List (TokenId × InventoryBucket × Decimal)
  resolutionStates : List ResolutionState
  relayerTxs : List RelayerTxSummary
  attention : List ReconcileAttention
deriving DecidableEq, Repr

namespace RemoteSnapshot

def empty : RemoteSnapshot :=
  { openOrders := []
    approvals := []
    inventory := []
    resolutionStates := []
    relayerTxs := []
    attention := [] }

def withAttention (snapshot : RemoteSnapshot) (attention : ReconcileAttention) : RemoteSnapshot :=
  { snapshot with attention := snapshot.attention ++ [attention] }

end RemoteSnapshot

structure ReconcileReport where
  succeeded : Bool
  promotedFromBootstrap : Bool
  remoteApplied : Bool
  attention : List ReconcileAttention
deriving DecidableEq, Repr

/-! ## Detection -/

/-- The scan behind two of the detectors.  Each order that has one files a value
under a key, the first value stays, and a later different one is reported. -/
def scanFirst {κ ν : Type} [Ord κ] [Std.TransOrd κ] [DecidableEq ν] (entry : Order → Option (κ × ν))
    (report : Order → κ → ν → ReconcileAttention) (orders : List Order) :
    List ReconcileAttention :=
  (orders.foldl (fun (seen, attention) order ↦
    match entry order with
    | none => (seen, attention)
    | some (key, value) =>
        match seen[key]? with
        | some existing =>
            if existing ≠ value then
              (seen, attention ++ [report order key existing])
            else
              (seen, attention)
        | none => (seen.insert key value, attention))
    ((∅ : BTreeMap κ ν), ([] : List ReconcileAttention))).2

def detectDuplicateSignedOrders (snapshot : RemoteSnapshot) : List ReconcileAttention :=
  scanFirst (fun order ↦ order.signedOrder.map fun signed ↦ (signed.signedOrderHash, order.orderId))
    (fun order hash _ ↦ .duplicateSignedOrder order.orderId hash) snapshot.openOrders

def detectIdentifierMismatches (snapshot : RemoteSnapshot) : List ReconcileAttention :=
  scanFirst (fun order ↦ some (order.tokenId, order.conditionId))
    (fun order tokenId expected ↦ .identifierMismatch tokenId expected order.conditionId)
    snapshot.openOrders

def sameOrderIdentity (loc remote : Order) : Bool :=
  loc.marketId == remote.marketId && loc.conditionId == remote.conditionId &&
    loc.tokenId == remote.tokenId && loc.quantity == remote.quantity &&
    loc.price == remote.price && loc.signedOrder == remote.signedOrder

def compareOrders (store : StateStore) (snapshot : RemoteSnapshot) : List ReconcileAttention :=
  let remoteMap := BTreeMap.byKey Order.orderId snapshot.openOrders
  let localIds := store.openOrders.keys
  let remoteIds := remoteMap.keys
  (localIds.filter (· ∉ remoteIds)).map .missingRemoteOrder
    ++ (remoteIds.filter (· ∉ localIds)).map .unexpectedRemoteOrder
    ++ (localIds.filter (· ∈ remoteIds)).filterMap fun orderId ↦
        match store.openOrders[orderId]?, remoteMap[orderId]? with
        | some loc, some remote =>
            if !sameOrderIdentity loc remote then some (.orderStateMismatch orderId) else none
        | _, _ => none

def compareApprovals (store : StateStore) (snapshot : RemoteSnapshot) : List ReconcileAttention :=
  let localKeys := store.approvals.keys
  let remoteKeys := (snapshot.approvals.map approvalKey).dedup
  (localKeys.filter (· ∉ remoteKeys) ++ remoteKeys.filter (· ∉ localKeys)).map .approvalMismatch

def compareRelayerTxs (store : StateStore) (snapshot : RemoteSnapshot) : List ReconcileAttention :=
  let localIds := store.relayerTxs.keys
  let remoteIds := (snapshot.relayerTxs.map RelayerTxSummary.txId).dedup
  (remoteIds.filter (· ∉ localIds)).map .relayerTxMismatch

/-! ## The order of a report -/

/-- The name a bucket prints as. -/
def bucketDebugName : InventoryBucket → String
  | .free => "Free"
  | .reservedForOrder => "ReservedForOrder"
  | .matchedUnsettled => "MatchedUnsettled"
  | .pendingCtfIn => "PendingCtfIn"
  | .pendingCtfOut => "PendingCtfOut"
  | .redeemable => "Redeemable"
  | .quarantined => "Quarantined"

def attentionKey : ReconcileAttention → Nat × String × String × String
  | .duplicateSignedOrder orderId signedOrderHash => (0, signedOrderHash, orderId, "")
  | .identifierMismatch tokenId expectedConditionId remoteConditionId =>
      (1, tokenId, expectedConditionId, remoteConditionId)
  | .missingRemoteOrder orderId => (2, orderId, "", "")
  | .unexpectedRemoteOrder orderId => (3, orderId, "", "")
  | .orderStateMismatch orderId => (4, orderId, "", "")
  | .approvalMismatch key => (5, key.tokenId, key.ownerAddress, key.spender)
  | .inventoryMismatch tokenId bucket => (6, tokenId, bucketDebugName bucket, "")
  | .resolutionMismatch conditionId => (7, conditionId, "", "")
  | .relayerTxMismatch txId => (8, txId, "", "")

def attentionSortKey (left right : ReconcileAttention) : Ordering :=
  let (l₀, l₁, l₂, l₃) := attentionKey left
  let (r₀, r₁, r₂, r₃) := attentionKey right
  (compare l₀ r₀).then ((compare l₁ r₁).then ((compare l₂ r₂).then (compare l₃ r₃)))

def collectAttention (store : StateStore) (snapshot : RemoteSnapshot) : List ReconcileAttention :=
  (snapshot.attention
    ++ detectDuplicateSignedOrders snapshot
    ++ detectIdentifierMismatches snapshot
    ++ compareOrders store snapshot
    ++ compareApprovals store snapshot
    ++ compareRelayerTxs store snapshot).insertionSort
      fun left right ↦ (attentionSortKey left right).isLE

/-- Attention the snapshot itself carries is never dropped. -/
theorem mem_collectAttention {store : StateStore} {snapshot : RemoteSnapshot}
    {attention : ReconcileAttention} (h : attention ∈ snapshot.attention) :
    attention ∈ collectAttention store snapshot := by
  rw [collectAttention, List.mem_insertionSort]
  simp [h]

/-! ## Reconciling -/

namespace StateStore

/-- Take over the remote view; `true` if this was the first reconcile. -/
def completeReconcile (store : StateStore) (snapshot : RemoteSnapshot) : Bool × StateStore :=
  let store := { store with
    fullsetAnchor := none
    openOrders := .byKey Order.orderId snapshot.openOrders
    approvals := .byKey approvalKey snapshot.approvals
    inventory :=
      .ofList (snapshot.inventory.map fun ((tokenId, bucket, quantity) : TokenId × _ × Decimal) ↦
        (({ tokenId, bucket } : InventoryEntry), quantity)) compare
    resolution := .byKey ResolutionState.conditionId snapshot.resolutionStates
    relayerTxs := .byKey RelayerTxSummary.txId snapshot.relayerTxs }
  let store := match store.lastAppliedJournalSeq with
    | some committedJournalSeq => store.rebuildFullsetAnchor committedJournalSeq
    | none => store
  let promotedFromBootstrap := !store.firstReconcileSucceeded
  (promotedFromBootstrap, { store with firstReconcileSucceeded := true }.applyRestorePosture)

end StateStore

def reconcileStore (store : StateStore) (snapshot : RemoteSnapshot) :
    ReconcileReport × StateStore :=
  let attention := collectAttention store snapshot
  if !attention.isEmpty then
    ({ succeeded := false
       promotedFromBootstrap := false
       remoteApplied := false
       attention },
      store.enterReconciling)
  else
    let (promotedFromBootstrap, store) := store.completeReconcile snapshot
    ({ succeeded := true
       promotedFromBootstrap
       remoteApplied := true
       attention := [] },
      store.setModeIfReconciled)

def StateStore.reconcile (store : StateStore) (snapshot : RemoteSnapshot) :
    ReconcileReport × StateStore := reconcileStore store snapshot

namespace StateStore

variable (store : StateStore) (snapshot : RemoteSnapshot)

/-- A reconcile succeeds exactly when the comparison raises no attention. -/
theorem reconcile_succeeded_iff :
    (store.reconcile snapshot).1.succeeded = true ↔ collectAttention store snapshot = [] := by
  unfold reconcile reconcileStore
  by_cases h : collectAttention store snapshot = [] <;> simp [h]

theorem reconcile_of_attention (h : (store.reconcile snapshot).1.succeeded = false) :
    (store.reconcile snapshot).2 = store.enterReconciling := by
  have hne : collectAttention store snapshot ≠ [] := by
    rw [Ne, ← reconcile_succeeded_iff, h]
    exact Bool.false_ne_true
  simp [reconcile, reconcileStore, hne]

theorem reconcile_of_success (h : (store.reconcile snapshot).1.succeeded = true) :
    (store.reconcile snapshot).2 = (store.completeReconcile snapshot).2.setModeIfReconciled := by
  have hnil := (store.reconcile_succeeded_iff snapshot).mp h
  simp [reconcile, reconcileStore, hnil]

end StateStore

end AxiomArb.State
