import AxiomArb.Library.Unordered
import AxiomArb.State.Reconcile

/-!
# The order of a report

The source compares hash sets, which it goes through in whatever order they have, and so
collects attention in whatever order.  The report is sorted by a key that tells all
attentions apart.  So it is one list for one store and one snapshot, and for one set of
local records whatever the order they were recorded in.
-/

namespace AxiomArb.State

open Domain Library

/-! ## The key of an attention -/

/-- The bucket that prints as the name. -/
def bucketOfDebugName : String → Option InventoryBucket
  | "Free" => some .free
  | "ReservedForOrder" => some .reservedForOrder
  | "MatchedUnsettled" => some .matchedUnsettled
  | "PendingCtfIn" => some .pendingCtfIn
  | "PendingCtfOut" => some .pendingCtfOut
  | "Redeemable" => some .redeemable
  | "Quarantined" => some .quarantined
  | _ => none

theorem bucketOfDebugName_bucketDebugName (bucket : InventoryBucket) :
    bucketOfDebugName (bucketDebugName bucket) = some bucket := by
  cases bucket <;> rfl

/-- The attention that has the key. -/
def attentionOfKey : Nat × String × String × String → Option ReconcileAttention
  | (0, signedOrderHash, orderId, _) => some (.duplicateSignedOrder orderId signedOrderHash)
  | (1, tokenId, expectedConditionId, remoteConditionId) =>
      some (.identifierMismatch tokenId expectedConditionId remoteConditionId)
  | (2, orderId, _, _) => some (.missingRemoteOrder orderId)
  | (3, orderId, _, _) => some (.unexpectedRemoteOrder orderId)
  | (4, orderId, _, _) => some (.orderStateMismatch orderId)
  | (5, tokenId, ownerAddress, spender) => some (.approvalMismatch { tokenId, spender, ownerAddress })
  | (6, tokenId, bucket, _) => (bucketOfDebugName bucket).map (.inventoryMismatch tokenId)
  | (7, conditionId, _, _) => some (.resolutionMismatch conditionId)
  | (8, txId, _, _) => some (.relayerTxMismatch txId)
  | _ => none

theorem attentionOfKey_attentionKey (attention : ReconcileAttention) :
    attentionOfKey (attentionKey attention) = some attention := by
  cases attention with
  | inventoryMismatch tokenId bucket =>
      rw [attentionKey, attentionOfKey, bucketOfDebugName_bucketDebugName]
      rfl
  | duplicateSignedOrder _ _ | identifierMismatch _ _ _ | missingRemoteOrder _
  | unexpectedRemoteOrder _ | orderStateMismatch _ | approvalMismatch _ | resolutionMismatch _
  | relayerTxMismatch _ => rfl

/-- An attention can be read off its key. -/
theorem attentionKey_injective : Function.Injective attentionKey := by
  intro left right h
  have hleft := attentionOfKey_attentionKey left
  rw [h, attentionOfKey_attentionKey right] at hleft
  exact (Option.some.inj hleft).symm

section SortKey

attribute [local instance] lexOrd

instance : Std.TransCmp attentionSortKey :=
  inferInstanceAs (Std.TransCmp (compareOn attentionKey))

instance : Std.LawfulEqCmp attentionSortKey := lawfulEqCmp_compareOn attentionKey_injective

end SortKey

/-- Sorted as a report is. -/
def InOrder (attention : List ReconcileAttention) : Prop :=
  attention.Pairwise fun left right ↦ (attentionSortKey left right).isLE

/-! ## Hash sets in any order -/

/-- The hash sets that a reconcile goes through, each in some order. -/
structure HashOrder (store : StateStore) (snapshot : RemoteSnapshot) where
  localOrderIds : List OrderId
  remoteOrderIds : List OrderId
  localApprovals : List ApprovalKey
  remoteApprovals : List ApprovalKey
  localTxIds : List String
  remoteTxIds : List String
  localOrderIds_perm : localOrderIds.Perm store.openOrders.keys
  remoteOrderIds_perm : remoteOrderIds.Perm (BTreeMap.byKey Order.orderId snapshot.openOrders).keys
  localApprovals_perm : localApprovals.Perm store.approvals.keys
  remoteApprovals_perm : remoteApprovals.Perm (snapshot.approvals.map approvalKey).dedup
  localTxIds_perm : localTxIds.Perm store.relayerTxs.keys
  remoteTxIds_perm : remoteTxIds.Perm (snapshot.relayerTxs.map RelayerTxSummary.txId).dedup

namespace HashOrder

variable {store : StateStore} {snapshot : RemoteSnapshot} (order : HashOrder store snapshot)

def compareOrders : List ReconcileAttention :=
  let remoteMap := BTreeMap.byKey Order.orderId snapshot.openOrders
  (difference order.localOrderIds order.remoteOrderIds).map .missingRemoteOrder
    ++ (difference order.remoteOrderIds order.localOrderIds).map .unexpectedRemoteOrder
    ++ (intersection order.localOrderIds order.remoteOrderIds).filterMap fun orderId ↦
        match store.openOrders[orderId]?, remoteMap[orderId]? with
        | some loc, some remote =>
            if !sameOrderIdentity loc remote then some (.orderStateMismatch orderId) else none
        | _, _ => none

def compareApprovals : List ReconcileAttention :=
  (symmetricDifference order.localApprovals order.remoteApprovals).map .approvalMismatch

def compareRelayerTxs : List ReconcileAttention :=
  (difference order.remoteTxIds order.localTxIds).map .relayerTxMismatch

def collectAttention : List ReconcileAttention :=
  (snapshot.attention
    ++ detectDuplicateSignedOrders snapshot
    ++ detectIdentifierMismatches snapshot
    ++ order.compareOrders
    ++ order.compareApprovals
    ++ order.compareRelayerTxs).insertionSort
      fun left right ↦ (attentionSortKey left right).isLE

theorem compareOrders_perm : order.compareOrders.Perm (State.compareOrders store snapshot) := by
  have hmissing := difference_perm order.localOrderIds_perm order.remoteOrderIds_perm
  have hunexpected := difference_perm order.remoteOrderIds_perm order.localOrderIds_perm
  have hcommon := intersection_perm store.openOrders.nodup_keys
    (BTreeMap.byKey Order.orderId snapshot.openOrders).nodup_keys order.localOrderIds_perm
    order.remoteOrderIds_perm
  exact ((hmissing.map _).append (hunexpected.map _)).append (hcommon.filterMap _)

theorem compareApprovals_perm :
    order.compareApprovals.Perm (State.compareApprovals store snapshot) :=
  (symmetricDifference_perm order.localApprovals_perm order.remoteApprovals_perm).map _

theorem compareRelayerTxs_perm :
    order.compareRelayerTxs.Perm (State.compareRelayerTxs store snapshot) :=
  (difference_perm order.remoteTxIds_perm order.localTxIds_perm).map _

/-- The report does not tell in which order the sets were. -/
theorem collectAttention_eq : order.collectAttention = State.collectAttention store snapshot :=
  insertionSort_eq_of_perm (((order.compareOrders_perm.append_left _).append
    order.compareApprovals_perm).append order.compareRelayerTxs_perm)

end HashOrder

/-! ## Local records in any order -/

/-- A record that the store is told of. -/
inductive LocalRecord where
  | order (order : Order)
  | approval (approval : ApprovalState)
  | inventory (tokenId : TokenId) (bucket : InventoryBucket) (quantity : Decimal)
  | resolution (resolution : ResolutionState)
  | relayerTx (tx : RelayerTxSummary)

/-- What a record is filed under. -/
inductive LocalRecordKey where
  | order (orderId : OrderId)
  | approval (key : ApprovalKey)
  | inventory (entry : InventoryEntry)
  | resolution (conditionId : ConditionId)
  | relayerTx (txId : String)

def LocalRecord.key : LocalRecord → LocalRecordKey
  | .order loc => .order loc.orderId
  | .approval loc => .approval (approvalKey loc)
  | .inventory tokenId bucket _ => .inventory { tokenId, bucket }
  | .resolution loc => .resolution loc.conditionId
  | .relayerTx tx => .relayerTx tx.txId

namespace StateStore

def recordLocal (store : StateStore) : LocalRecord → StateStore
  | .order order => store.recordLocalOrder order
  | .approval approval => store.recordLocalApproval approval
  | .inventory tokenId bucket quantity => store.recordLocalInventory tokenId bucket quantity
  | .resolution resolution => store.recordLocalResolution resolution
  | .relayerTx tx => store.recordLocalRelayerTx tx

/-- Records that are filed apart are recorded in any order. -/
theorem recordLocal_comm (store : StateStore) (first second : LocalRecord)
    (h : first.key ≠ second.key) :
    (store.recordLocal first).recordLocal second = (store.recordLocal second).recordLocal first := by
  cases first with
  | order order =>
      cases second with
      | order other =>
          have hne : order.orderId ≠ other.orderId := fun heq ↦ h (congrArg LocalRecordKey.order heq)
          simp only [recordLocal, recordLocalOrder, BTreeMap.insert_comm hne]
      | approval _ | inventory _ _ _ | resolution _ | relayerTx _ => rfl
  | approval approval =>
      cases second with
      | approval other =>
          have hne : approvalKey approval ≠ approvalKey other :=
            fun heq ↦ h (congrArg LocalRecordKey.approval heq)
          simp only [recordLocal, recordLocalApproval, BTreeMap.insert_comm hne]
      | order _ | inventory _ _ _ | resolution _ | relayerTx _ => rfl
  | inventory tokenId bucket quantity =>
      cases second with
      | inventory tokenId' bucket' quantity' =>
          have hne : ({ tokenId, bucket } : InventoryEntry) ≠
              { tokenId := tokenId', bucket := bucket' } :=
            fun heq ↦ h (congrArg LocalRecordKey.inventory heq)
          simp only [recordLocal, recordLocalInventory, BTreeMap.insert_comm hne]
      | order _ | approval _ | resolution _ | relayerTx _ => rfl
  | resolution resolution =>
      cases second with
      | resolution other =>
          have hne : resolution.conditionId ≠ other.conditionId :=
            fun heq ↦ h (congrArg LocalRecordKey.resolution heq)
          simp only [recordLocal, recordLocalResolution, BTreeMap.insert_comm hne]
      | order _ | approval _ | inventory _ _ _ | relayerTx _ => rfl
  | relayerTx tx =>
      cases second with
      | relayerTx other =>
          have hne : tx.txId ≠ other.txId := fun heq ↦ h (congrArg LocalRecordKey.relayerTx heq)
          simp only [recordLocal, recordLocalRelayerTx, BTreeMap.insert_comm hne]
      | order _ | approval _ | inventory _ _ _ | resolution _ => rfl

end StateStore

/-! ## One report -/

/-- The attention of a store and a snapshot is one list. -/
structure Canonical (store : StateStore) (snapshot : RemoteSnapshot) : Prop where
  /-- whatever order the hash sets have, -/
  listed : ∀ order : HashOrder store snapshot,
    (store.reconcile snapshot).1.attention = order.collectAttention
  /-- for every store of the same records, -/
  alike : ∀ store' : StateStore,
    (∀ orderId : OrderId, store'.openOrders[orderId]? = store.openOrders[orderId]?) →
    (∀ key : ApprovalKey, store'.approvals[key]? = store.approvals[key]?) →
    (∀ txId : String, store'.relayerTxs[txId]? = store.relayerTxs[txId]?) →
    ∀ (order : HashOrder store snapshot) (order' : HashOrder store' snapshot),
      order'.collectAttention = order.collectAttention
  /-- and whatever order further records come in. -/
  recorded : ∀ records records' : List LocalRecord, (records.map LocalRecord.key).Nodup →
    records.Perm records' →
    ∀ (order : HashOrder (records.foldl StateStore.recordLocal store) snapshot)
      (order' : HashOrder (records'.foldl StateStore.recordLocal store) snapshot),
      order.collectAttention = order'.collectAttention

theorem attention_reconcile (store : StateStore) (snapshot : RemoteSnapshot) :
    (store.reconcile snapshot).1.attention = collectAttention store snapshot := by
  unfold StateStore.reconcile reconcileStore
  by_cases h : collectAttention store snapshot = [] <;> simp [h]

theorem collectAttention_congr {store store' : StateStore} (snapshot : RemoteSnapshot)
    (horders : store'.openOrders = store.openOrders) (happrovals : store'.approvals = store.approvals)
    (htxs : store'.relayerTxs = store.relayerTxs) :
    collectAttention store' snapshot = collectAttention store snapshot := by
  simp only [collectAttention, compareOrders, compareApprovals, compareRelayerTxs, horders, happrovals,
    htxs]

/-- **The order of a report is canonical.** -/
theorem reconcile_canonical :
    Function.Injective attentionKey ∧
      (∀ collected report report' : List ReconcileAttention, report.Perm collected →
        report'.Perm collected → InOrder report → InOrder report' → report = report') ∧
      ∀ (store : StateStore) (snapshot : RemoteSnapshot), Canonical store snapshot := by
  refine ⟨attentionKey_injective, fun collected report report' hperm hperm' hsorted hsorted' ↦ ?_,
    fun store snapshot ↦ ⟨fun order ↦ ?_, fun store' horders happrovals htxs order order' ↦ ?_,
      fun records records' hnodup hperm order order' ↦ ?_⟩⟩
  · exact eq_of_perm_of_sorted hsorted hsorted' (hperm.trans hperm'.symm)
  · rw [attention_reconcile, order.collectAttention_eq]
  · rw [order.collectAttention_eq, order'.collectAttention_eq]
    exact collectAttention_congr snapshot (Std.ExtTreeMap.ext_getElem? horders)
      (Std.ExtTreeMap.ext_getElem? happrovals) (Std.ExtTreeMap.ext_getElem? htxs)
  · rw [order.collectAttention_eq, order'.collectAttention_eq,
      foldl_eq_of_perm_of_nodup StateStore.recordLocal_comm hnodup hperm]

end AxiomArb.State
