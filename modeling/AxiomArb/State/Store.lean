import AxiomArb.State.Facts

/-!
# The state store

`StateStore` holds the local view of the venue, the journal bookkeeping and the
runtime's posture.  The operations are the source's, in its order; a `&mut self`
method returns the store it leaves, after its result when it has one.

## Honest boundary

* Versions and sequence numbers are unbounded.
* The source's hash maps are ordered maps, so only the order in which their
  entries are listed is fixed where the source leaves it open.
-/

namespace AxiomArb.State

open Domain Library

/-! ## Policies -/

def bootstrapPolicy : RuntimePolicy := { mode := .bootstrapping, overlay := some .cancelOnly }

def reconcileAttentionPolicy : RuntimePolicy := { mode := .reconciling, overlay := some .cancelOnly }

def reconciledPolicy : RuntimePolicy := { mode := .healthy, overlay := none }

def allowsAutomaticRepair (firstReconcileSucceeded : Bool) (mode : RuntimeMode) : Bool :=
  firstReconcileSucceeded &&
    !(mode == .bootstrapping || mode == .reconciling || mode == .globalHalt)

/-! ## The data of the store -/

structure InventoryEntry where
  tokenId : TokenId
  bucket : InventoryBucket
deriving DecidableEq, Repr

def bucketSortKey : InventoryBucket → Nat
  | .free => 0
  | .reservedForOrder => 1
  | .matchedUnsettled => 2
  | .pendingCtfIn => 3
  | .pendingCtfOut => 4
  | .redeemable => 5
  | .quarantined => 6

theorem bucketSortKey_injective : Function.Injective bucketSortKey := by
  intro a b h
  cases a <;> cases b <;> first | rfl | simp [bucketSortKey] at h

namespace InventoryEntry

/-- Rows of the inventory are listed by token and then by bucket. -/
instance : Ord InventoryEntry :=
  ⟨compareLex (compareOn tokenId) (compareOn fun entry ↦ bucketSortKey entry.bucket)⟩

instance : Std.TransOrd InventoryEntry :=
  inferInstanceAs (Std.TransCmp
    (compareLex (compareOn tokenId) (compareOn fun entry ↦ bucketSortKey entry.bucket)))

instance : Std.LawfulEqOrd InventoryEntry where
  eq_of_compare {a b} h := by
    obtain ⟨htoken, hbucket⟩ : compare a.tokenId b.tokenId = .eq ∧
        compare (bucketSortKey a.bucket) (bucketSortKey b.bucket) = .eq :=
      Ordering.then_eq_eq.mp h
    cases a
    cases b
    simp only [mk.injEq]
    exact ⟨Std.LawfulEqOrd.compare_eq_iff_eq.mp htoken,
      bucketSortKey_injective (Std.LawfulEqOrd.compare_eq_iff_eq.mp hbucket)⟩

end InventoryEntry

structure InventorySnapshotRow where
  tokenId : TokenId
  bucket : InventoryBucket
  quantity : Decimal
deriving DecidableEq, Repr

structure RelayerTxSummary where
  txId : String
  orderId : Option OrderId
  status : String
deriving DecidableEq, Repr

/-- The open orders at one state version and committed journal sequence. -/
structure FullSetAnchor where
  stateVersion : Nat
  committedJournalSeq : Int
  openOrders : List String
deriving DecidableEq, Repr

/-- A backfill observed before its family was discovered. -/
structure PendingFamilyBackfill where
  cursor : String
  completedAt : Option DateTime
deriving DecidableEq, Repr

inductive JournalConsumption where
  | consumed
  | alreadyBoundToSameFact
  | alreadyBoundToDifferentFact
  | outOfOrder
deriving DecidableEq, Repr

structure StateStore where
  stateVersion : Nat
  lastConsumedJournalSeq : Option Int
  lastAppliedJournalSeq : Option Int
  fullsetAnchor : Option FullSetAnchor
  runtimeMode : RuntimeMode
  overlay : Option RuntimeOverlay
  firstReconcileSucceeded : Bool
  appliedFactJournal : BTreeMap FactKey Int
  consumedJournal : BTreeMap Int FactKey
  familyDiscoveryRecords : BTreeMap String FamilyDiscoveryRecord
  pendingFamilyBackfills : BTreeMap String PendingFamilyBackfill
  pendingReconcileAnchors : BTreeMap String PendingReconcileAnchor
  runtimeAttentionAnchors : BTreeMap String RuntimeAttentionAnchor
  openOrders : BTreeMap OrderId Order
  approvals : BTreeMap ApprovalKey ApprovalState
  inventory : BTreeMap InventoryEntry Decimal
  resolution : BTreeMap ConditionId ResolutionState
  relayerTxs : BTreeMap String RelayerTxSummary
deriving DecidableEq

def mergeCompletionTimestamp : Option DateTime → Option DateTime → Option DateTime
  | some current, some candidate => some (max current candidate)
  | some current, none => some current
  | none, some candidate => some candidate
  | none, none => none

def approvalKey (approval : ApprovalState) : ApprovalKey :=
  { tokenId := approval.tokenId
    spender := approval.spender
    ownerAddress := approval.ownerAddress }

namespace StateStore

def new : StateStore :=
  { stateVersion := 0
    lastConsumedJournalSeq := none
    lastAppliedJournalSeq := none
    fullsetAnchor := none
    runtimeMode := bootstrapPolicy.mode
    overlay := bootstrapPolicy.overlay
    firstReconcileSucceeded := false
    appliedFactJournal := ∅
    consumedJournal := ∅
    familyDiscoveryRecords := ∅
    pendingFamilyBackfills := ∅
    pendingReconcileAnchors := ∅
    runtimeAttentionAnchors := ∅
    openOrders := ∅
    approvals := ∅
    inventory := ∅
    resolution := ∅
    relayerTxs := ∅ }

/-! ## Observers -/

variable (store : StateStore)

def mode : RuntimeMode := store.runtimeMode

def modeOverlay : Option RuntimeOverlay := store.overlay <|> store.runtimeMode.defaultOverlay

def runtimePolicy : RuntimePolicy := { mode := store.runtimeMode, overlay := store.modeOverlay }

def allowsAutomaticRepair : Bool :=
  State.allowsAutomaticRepair store.firstReconcileSucceeded store.runtimeMode

def pendingReconcileCount : Nat := store.pendingReconcileAnchors.size

def hasPendingReconcileAnchors : Bool := !store.pendingReconcileAnchors.isEmpty

def hasRuntimeAttention (scopeId attentionKind : String) : Bool :=
  store.runtimeAttentionAnchors.vals.any fun anchor ↦
    anchor.scopeId == scopeId && anchor.attentionKind == attentionKind

def stateConfidence (scope : String) : StateConfidence :=
  if store.pendingReconcileAnchors.vals.any fun anchor ↦ anchor.familyId == scope then
    .uncertain
  else
    .certain

def currentOpenOrderIds : List String := store.openOrders.keys

/-- The anchored open orders, unless the store has moved on since they were anchored. -/
def anchoredFullset : Option FullSetAnchor :=
  match store.lastAppliedJournalSeq, store.fullsetAnchor with
  | some committedJournalSeq, some anchor =>
      if anchor.stateVersion = store.stateVersion ∧
          anchor.committedJournalSeq = committedJournalSeq then
        some anchor
      else
        none
  | _, _ => none

def inventorySnapshot : List InventorySnapshotRow :=
  store.inventory.toList.map fun (entry, quantity) ↦
    { tokenId := entry.tokenId, bucket := entry.bucket, quantity }

/-! ## Posture -/

def applyPolicy (policy : RuntimePolicy) : StateStore :=
  { store with runtimeMode := policy.mode, overlay := policy.overlay }

def enterReconciling : StateStore := store.applyPolicy reconcileAttentionPolicy

/-- Re-derive the posture from the pending anchors, once a reconcile has succeeded. -/
def applyRestorePosture : StateStore :=
  if !store.firstReconcileSucceeded then
    store
  else if store.hasPendingReconcileAnchors then
    store.enterReconciling
  else
    store.applyPolicy reconciledPolicy

def setModeIfReconciled : StateStore := store.applyRestorePosture

def markBootstrapping : StateStore :=
  if store.firstReconcileSucceeded then store else store.applyPolicy bootstrapPolicy

def markReconcileRequired : StateStore :=
  { store with firstReconcileSucceeded := true }.enterReconciling

def restoreReconciledPolicy : StateStore :=
  { store with firstReconcileSucceeded := true }.applyPolicy reconciledPolicy

/-! ## Anchors -/

def rebuildFullsetAnchor (committedJournalSeq : Int) : StateStore :=
  { store with
    fullsetAnchor := some
      { stateVersion := store.stateVersion
        committedJournalSeq
        openOrders := store.currentOpenOrderIds } }

def recordPendingReconcile (anchor : PendingReconcileAnchor) : StateStore :=
  { store with
    pendingReconcileAnchors := store.pendingReconcileAnchors.insert anchor.pendingRef anchor }

def recordRuntimeAttention (anchor : RuntimeAttentionAnchor) : StateStore :=
  { store with
    runtimeAttentionAnchors := store.runtimeAttentionAnchors.insert anchor.attentionRef anchor }

def clearPendingReconcile (pendingRef : PendingRef) : Option PendingReconcileAnchor × StateStore :=
  (store.pendingReconcileAnchors[pendingRef]?,
    { store with
      pendingReconcileAnchors := store.pendingReconcileAnchors.erase pendingRef
    }.applyRestorePosture)

def restoreCommittedAnchor (committedStateVersion : Nat) (committedJournalSeq : Int) : StateStore :=
  let store := { store with
    stateVersion := committedStateVersion
    lastConsumedJournalSeq := some committedJournalSeq
    lastAppliedJournalSeq := some committedJournalSeq }
  let store := store.rebuildFullsetAnchor committedJournalSeq
  { store with firstReconcileSucceeded := true }.applyRestorePosture

def restorePendingReconcileAnchor (anchor : PendingReconcileAnchor) : StateStore :=
  { store.recordPendingReconcile anchor with firstReconcileSucceeded := true }.applyRestorePosture

/-- Drop all pending work and open for trading.  A store that has applied
nothing is first anchored at the baseline. -/
def markReconciledAfterRestore (baselineJournalSeq : Int) : StateStore :=
  let store :=
    if store.lastAppliedJournalSeq.isNone then
      { store with
        lastConsumedJournalSeq := some baselineJournalSeq
        lastAppliedJournalSeq := some baselineJournalSeq
      }.rebuildFullsetAnchor baselineJournalSeq
    else
      store
  { store with pendingReconcileAnchors := ∅, firstReconcileSucceeded := true
  }.applyPolicy reconciledPolicy

def clearPendingReconcileAfterRestore : StateStore :=
  let store := { store with pendingReconcileAnchors := ∅ }
  if store.firstReconcileSucceeded then store.applyRestorePosture else store

/-! ## Journal -/

def duplicateJournalSeq (factKey : FactKey) : Option Int := store.appliedFactJournal[factKey]?

/-- Bind a sequence number to a fact.  A bound number is admitted again for the
same fact only; a free number must exceed every number consumed so far. -/
def consumeJournalSeq (journalSeq : Int) (factKey : FactKey) : JournalConsumption × StateStore :=
  match store.consumedJournal[journalSeq]? with
  | some existingFact =>
      if existingFact = factKey then
        (.alreadyBoundToSameFact, store)
      else
        (.alreadyBoundToDifferentFact, store)
  | none =>
      if store.lastConsumedJournalSeq.any (journalSeq ≤ ·) then
        (.outOfOrder, store)
      else
        (.consumed,
          { store with
            lastConsumedJournalSeq := some journalSeq
            consumedJournal := store.consumedJournal.insert journalSeq factKey })

def recordAppliedFact (journalSeq : Int) (factKey : FactKey) : Nat × StateStore :=
  let store := { store with
    stateVersion := store.stateVersion + 1
    lastAppliedJournalSeq := some journalSeq
    appliedFactJournal := store.appliedFactJournal.insert factKey journalSeq }
  let store := (store.rebuildFullsetAnchor journalSeq).applyRestorePosture
  (store.stateVersion, store)

/-! ## Discovery -/

/-- Record a family's discovery.  What is known of its backfill survives, and a
backfill that came before the discovery is taken in. -/
def recordFamilyDiscovery (record : FamilyDiscoveryRecord) : StateStore :=
  let record := match store.familyDiscoveryRecords[record.familyId]? with
    | some existing =>
        { record with
          backfillCursor := existing.backfillCursor
          backfillCompletedAt := existing.backfillCompletedAt }
    | none => record
  let pendingBackfill := store.pendingFamilyBackfills[record.familyId]?
  let store := { store with
    pendingFamilyBackfills := store.pendingFamilyBackfills.erase record.familyId }
  let record := match pendingBackfill with
    | some pending => record.recordBackfill pending.cursor pending.completedAt
    | none => record
  { store with
    familyDiscoveryRecords := store.familyDiscoveryRecords.insert record.familyId record }

def recordFamilyBackfill (familyId cursor : String) (completedAt : Option DateTime) : StateStore :=
  match store.familyDiscoveryRecords[familyId]? with
  | some record =>
      { store with
        familyDiscoveryRecords :=
          store.familyDiscoveryRecords.insert familyId (record.recordBackfill cursor completedAt) }
  | none =>
      let pending : PendingFamilyBackfill :=
        match store.pendingFamilyBackfills[familyId]? with
        | some pending =>
            { cursor, completedAt := mergeCompletionTimestamp pending.completedAt completedAt }
        | none => { cursor, completedAt }
      { store with
        pendingFamilyBackfills := store.pendingFamilyBackfills.insert familyId pending }

/-! ## Local records -/

def recordLocalOrder (order : Order) : StateStore :=
  { store with
    fullsetAnchor := none
    openOrders := store.openOrders.insert order.orderId order }

def recordLocalApproval (approval : ApprovalState) : StateStore :=
  { store with approvals := store.approvals.insert (approvalKey approval) approval }

def recordLocalInventory (tokenId : TokenId) (bucket : InventoryBucket) (quantity : Decimal) :
    StateStore :=
  { store with inventory := store.inventory.insert { tokenId, bucket } quantity }

def recordLocalResolution (resolution : ResolutionState) : StateStore :=
  { store with resolution := store.resolution.insert resolution.conditionId resolution }

def recordLocalRelayerTx (tx : RelayerTxSummary) : StateStore :=
  { store with relayerTxs := store.relayerTxs.insert tx.txId tx }

end StateStore

end AxiomArb.State
