import AxiomArb.State.Posture
import Mathlib.Data.List.Dedup
import Mathlib.Data.List.Pairwise

/-!
# What a reconcile decides

`Agrees` lists what a snapshot must meet for a reconcile to succeed, and each check of
`collectAttention` is shown to be empty exactly when its part is met.  A reconcile that
succeeds adopts the snapshot, and the adopted snapshot agrees with the store that holds
it, so reconciling once more changes nothing.
-/

namespace AxiomArb.State

open Domain Library

/-! ## The scan for clashes -/

section Scan

variable {κ ν : Type} {entry : Order → Option (κ × ν)} {order order' : Order} {key : κ} {value : ν}

/-- The two orders do not file different values under one key. -/
def Tally (entry : Order → Option (κ × ν)) (order order' : Order) : Prop :=
  ∀ key value value', entry order = some (key, value) → entry order' = some (key, value') →
    value = value'

theorem tally_iff (h : entry order = some (key, value)) :
    Tally entry order order' ↔ ∀ value', entry order' = some (key, value') → value = value' := by
  constructor
  · intro htally value' hfiled'
    exact htally key value value' h hfiled'
  · intro htally key' value' value'' hfiled hfiled'
    rw [h] at hfiled
    cases hfiled
    exact htally value'' hfiled'

instance : Std.Symm (Tally entry) where
  symm _ _ htally key value value' hfiled hfiled' := (htally key value' value hfiled' hfiled).symm

theorem tally_self : Tally entry order order := by
  intro key value value' hfiled hfiled'
  rw [hfiled] at hfiled'
  cases hfiled'
  rfl

variable [Ord κ] [Std.TransOrd κ] {seen : BTreeMap κ ν}

/-- What the order files is what has been seen under its key, if anything has. -/
def TalliesWith (entry : Order → Option (κ × ν)) (seen : BTreeMap κ ν) (order : Order) : Prop :=
  ∀ key value existing, entry order = some (key, value) → seen[key]? = some existing →
    existing = value

theorem talliesWith_iff (h : entry order = some (key, value)) :
    TalliesWith entry seen order ↔ ∀ existing, seen[key]? = some existing → existing = value := by
  constructor
  · intro htally existing hseen
    exact htally key value existing h hseen
  · intro htally key' value' existing hfiled hseen
    rw [h] at hfiled
    cases hfiled
    exact htally existing hseen

/-- An order that files what was seen tallies with whatever does the same. -/
theorem tally_of_seen (h : entry order = some (key, value)) (hseen : seen[key]? = some value)
    (htally : TalliesWith entry seen order') : Tally entry order order' := by
  rw [tally_iff h]
  intro value' hfiled
  exact htally key value' value hfiled hseen

variable [DecidableEq ν] {report : Order → κ → ν → ReconcileAttention}

/-- One order of the scan. -/
def scanStep (entry : Order → Option (κ × ν)) (report : Order → κ → ν → ReconcileAttention)
    (state : BTreeMap κ ν × List ReconcileAttention) (order : Order) :
    BTreeMap κ ν × List ReconcileAttention :=
  match entry order with
  | none => state
  | some (key, value) =>
      match state.1[key]? with
      | some existing =>
          if existing ≠ value then (state.1, state.2 ++ [report order key existing]) else state
      | none => (state.1.insert key value, state.2)

theorem scanFirst_eq_foldl (orders : List Order) :
    scanFirst entry report orders = (orders.foldl (scanStep entry report) (∅, [])).2 := rfl

variable [Std.LawfulEqOrd κ] [DecidableEq κ]

omit [DecidableEq ν] in
/-- Filing a value under a key not seen yet. -/
theorem talliesWith_insert (h : entry order = some (key, value)) (hnew : seen[key]? = none) :
    TalliesWith entry (seen.insert key value) order' ↔
      TalliesWith entry seen order' ∧ Tally entry order order' := by
  rw [tally_iff h]
  constructor
  · intro htally
    constructor
    · intro key' value' existing hfiled hseen
      refine htally key' value' existing hfiled ?_
      rwa [BTreeMap.lookup_insert_of_ne]
      rintro rfl
      rw [hnew] at hseen
      cases hseen
    · intro value' hfiled
      exact htally key value' value hfiled (by simp)
  · rintro ⟨hseen, htally⟩ key' value' existing hfiled hlookup
    rw [BTreeMap.lookup_insert] at hlookup
    by_cases hkey : key = key'
    · subst hkey
      rw [if_pos rfl] at hlookup
      cases hlookup
      exact htally value' hfiled
    · rw [if_neg hkey] at hlookup
      exact hseen key' value' existing hfiled hlookup

/-- The scan goes on without a report exactly if the orders ahead tally with what it has
seen and with each other. -/
theorem foldl_scanStep_eq_nil_iff (orders : List Order) (seen : BTreeMap κ ν)
    (attention : List ReconcileAttention) :
    (orders.foldl (scanStep entry report) (seen, attention)).2 = [] ↔
      attention = [] ∧ (∀ order ∈ orders, TalliesWith entry seen order) ∧
        orders.Pairwise (Tally entry) := by
  induction orders generalizing seen attention with
  | nil => simp
  | cons order orders ih =>
      rw [List.foldl_cons, List.pairwise_cons, List.forall_mem_cons]
      cases hentry : entry order with
      | none =>
          rw [scanStep, hentry, ih]
          simp [hentry, Tally, TalliesWith]
      | some filed =>
          obtain ⟨key, value⟩ := filed
          rw [scanStep, hentry, talliesWith_iff hentry]
          dsimp only
          cases hseen : seen[key]? with
          | none =>
              simp only [ih, talliesWith_insert hentry hseen, forall_and, and_assoc]
              simp
          | some existing =>
              by_cases heq : existing = value
              · subst heq
                simp only [ne_eq, not_true_eq_false, if_false, ih]
                constructor
                · rintro ⟨hnil, htally, hpairs⟩
                  exact ⟨hnil, ⟨by simp, htally⟩,
                    fun order' hmem ↦ tally_of_seen hentry hseen (htally order' hmem), hpairs⟩
                · rintro ⟨hnil, ⟨-, htally⟩, -, hpairs⟩
                  exact ⟨hnil, htally, hpairs⟩
              · simp [heq, ih]

/-- A scan reports nothing exactly when no two orders clash. -/
theorem scanFirst_eq_nil_iff (orders : List Order) :
    scanFirst entry report orders = [] ↔
      ∀ order ∈ orders, ∀ order' ∈ orders, Tally entry order order' := by
  rw [scanFirst_eq_foldl, foldl_scanStep_eq_nil_iff]
  constructor
  · rintro ⟨-, -, hpairs⟩ order hmem order' hmem'
    exact hpairs.forall_of_forall (fun order _ ↦ tally_self) hmem hmem'
  · intro htally
    refine ⟨rfl, ?_, List.pairwise_of_forall_mem_list htally⟩
    intro order _ key value existing _ hseen
    simp at hseen

end Scan

/-! ## The checks -/

/-- Two entries of one order: everything but its progress is the same. -/
structure SameIdentity (loc remote : Order) : Prop where
  marketId : loc.marketId = remote.marketId
  conditionId : loc.conditionId = remote.conditionId
  tokenId : loc.tokenId = remote.tokenId
  quantity : loc.quantity = remote.quantity
  price : loc.price = remote.price
  signedOrder : loc.signedOrder = remote.signedOrder

/-- What the snapshot must meet for the store to be reconciled with it. -/
structure Agrees (store : StateStore) (snapshot : RemoteSnapshot) : Prop where
  noAttention : snapshot.attention = []
  noSharedHash : ∀ order ∈ snapshot.openOrders, ∀ order' ∈ snapshot.openOrders,
    ∀ signed signed', order.signedOrder = some signed → order'.signedOrder = some signed' →
      signed.signedOrderHash = signed'.signedOrderHash → order.orderId = order'.orderId
  noSharedToken : ∀ order ∈ snapshot.openOrders, ∀ order' ∈ snapshot.openOrders,
    order.tokenId = order'.tokenId → order.conditionId = order'.conditionId
  sameOrders : ∀ orderId, orderId ∈ store.openOrders ↔
    ∃ order ∈ snapshot.openOrders, order.orderId = orderId
  sameIdentity : ∀ orderId loc remote, store.openOrders[orderId]? = some loc →
    BTreeMap.lastOf Order.orderId snapshot.openOrders orderId = some remote →
    SameIdentity loc remote
  sameApprovals : ∀ key, key ∈ store.approvals ↔
    ∃ approval ∈ snapshot.approvals, approvalKey approval = key
  knownRelayerTxs : ∀ tx ∈ snapshot.relayerTxs, tx.txId ∈ store.relayerTxs

section Checks

variable {store : StateStore} {snapshot : RemoteSnapshot}

theorem sameOrderIdentity_iff {loc remote : Order} :
    sameOrderIdentity loc remote = true ↔ SameIdentity loc remote := by
  simp only [sameOrderIdentity, Bool.and_eq_true, beq_iff_eq]
  constructor
  · rintro ⟨⟨⟨⟨⟨hmarket, hcondition⟩, htoken⟩, hquantity⟩, hprice⟩, hsigned⟩
    exact ⟨hmarket, hcondition, htoken, hquantity, hprice, hsigned⟩
  · rintro ⟨hmarket, hcondition, htoken, hquantity, hprice, hsigned⟩
    exact ⟨⟨⟨⟨⟨hmarket, hcondition⟩, htoken⟩, hquantity⟩, hprice⟩, hsigned⟩

theorem detectDuplicateSignedOrders_eq_nil_iff : detectDuplicateSignedOrders snapshot = [] ↔
    ∀ order ∈ snapshot.openOrders, ∀ order' ∈ snapshot.openOrders, ∀ signed signed',
      order.signedOrder = some signed → order'.signedOrder = some signed' →
      signed.signedOrderHash = signed'.signedOrderHash → order.orderId = order'.orderId := by
  rw [detectDuplicateSignedOrders, scanFirst_eq_nil_iff]
  refine forall₄_congr fun order _ order' _ ↦ ?_
  constructor
  · intro htally signed signed' hsigned hsigned' hhash
    exact htally signed.signedOrderHash _ _ (by simp [hsigned]) (by simp [hsigned', hhash])
  · intro hshared hash value value' hfiled hfiled'
    obtain ⟨signed, hsigned, heq⟩ := Option.map_eq_some_iff.mp hfiled
    obtain ⟨signed', hsigned', heq'⟩ := Option.map_eq_some_iff.mp hfiled'
    cases heq
    obtain ⟨hhash, rfl⟩ := Prod.mk.inj heq'
    exact hshared signed signed' hsigned hsigned' hhash.symm

theorem detectIdentifierMismatches_eq_nil_iff : detectIdentifierMismatches snapshot = [] ↔
    ∀ order ∈ snapshot.openOrders, ∀ order' ∈ snapshot.openOrders,
      order.tokenId = order'.tokenId → order.conditionId = order'.conditionId := by
  rw [detectIdentifierMismatches, scanFirst_eq_nil_iff]
  refine forall₄_congr fun order _ order' _ ↦ ?_
  rw [tally_iff rfl]
  constructor
  · intro htally htoken
    exact htally _ (by rw [htoken])
  · intro hshared condition hfiled
    obtain ⟨htoken, hcondition⟩ := Prod.mk.inj (Option.some.inj hfiled)
    exact (hshared htoken.symm).trans hcondition

theorem compareOrders_eq_nil_iff : compareOrders store snapshot = [] ↔
    (∀ orderId, orderId ∈ store.openOrders ↔
      ∃ order ∈ snapshot.openOrders, order.orderId = orderId) ∧
    ∀ orderId loc remote, store.openOrders[orderId]? = some loc →
      BTreeMap.lastOf Order.orderId snapshot.openOrders orderId = some remote →
      SameIdentity loc remote := by
  simp only [compareOrders, List.append_eq_nil_iff, List.map_eq_nil_iff, List.filter_eq_nil_iff,
    decide_eq_true_eq, not_not, Std.ExtTreeMap.mem_keys, BTreeMap.mem_byKey_iff,
    List.filterMap_eq_nil_iff, List.mem_filter, BTreeMap.lookup_byKey]
  constructor
  · rintro ⟨⟨hlocal, hremote⟩, hidentity⟩
    refine ⟨fun orderId ↦ ⟨hlocal orderId, hremote orderId⟩, ?_⟩
    intro orderId loc remote hloc hlast
    have hmem : orderId ∈ store.openOrders :=
      Std.ExtTreeMap.mem_iff_isSome_getElem?.mpr (by simp [hloc])
    have hnone := hidentity orderId ⟨hmem, hlocal orderId hmem⟩
    simp only [hloc, hlast] at hnone
    by_contra hdiffers
    simp [mt sameOrderIdentity_iff.mp hdiffers] at hnone
  · rintro ⟨hsame, hidentity⟩
    refine ⟨⟨fun orderId ↦ (hsame orderId).mp, fun orderId ↦ (hsame orderId).mpr⟩, ?_⟩
    rintro orderId -
    cases hloc : store.openOrders[orderId]? with
    | none => rfl
    | some loc =>
        cases hlast : BTreeMap.lastOf Order.orderId snapshot.openOrders orderId with
        | none => rfl
        | some remote =>
            have hidentical := sameOrderIdentity_iff.mpr (hidentity orderId loc remote hloc hlast)
            simp [hidentical]

theorem compareApprovals_eq_nil_iff : compareApprovals store snapshot = [] ↔
    ∀ key, key ∈ store.approvals ↔ ∃ approval ∈ snapshot.approvals, approvalKey approval = key := by
  simp only [compareApprovals, List.map_eq_nil_iff, List.append_eq_nil_iff,
    List.filter_eq_nil_iff, decide_eq_true_eq, not_not, Std.ExtTreeMap.mem_keys, List.mem_dedup,
    List.mem_map]
  constructor
  · rintro ⟨hlocal, hremote⟩ key
    exact ⟨hlocal key, hremote key⟩
  · intro hsame
    exact ⟨fun key ↦ (hsame key).mp, fun key ↦ (hsame key).mpr⟩

theorem compareRelayerTxs_eq_nil_iff : compareRelayerTxs store snapshot = [] ↔
    ∀ tx ∈ snapshot.relayerTxs, tx.txId ∈ store.relayerTxs := by
  simp [compareRelayerTxs, List.filter_eq_nil_iff]

theorem collectAttention_eq_nil_iff : collectAttention store snapshot = [] ↔
    Agrees store snapshot := by
  have hsorted : collectAttention store snapshot = [] ↔
      ((((snapshot.attention = [] ∧ detectDuplicateSignedOrders snapshot = []) ∧
        detectIdentifierMismatches snapshot = []) ∧ compareOrders store snapshot = []) ∧
        compareApprovals store snapshot = []) ∧ compareRelayerTxs store snapshot = [] := by
    rw [collectAttention, ← List.length_eq_zero_iff, List.length_insertionSort,
      List.length_eq_zero_iff]
    simp only [List.append_eq_nil_iff]
  rw [hsorted, detectDuplicateSignedOrders_eq_nil_iff, detectIdentifierMismatches_eq_nil_iff,
    compareOrders_eq_nil_iff, compareApprovals_eq_nil_iff, compareRelayerTxs_eq_nil_iff]
  constructor
  · rintro ⟨⟨⟨⟨⟨hattention, hhash⟩, htoken⟩, horders, hidentity⟩, happrovals⟩, hrelayer⟩
    exact ⟨hattention, hhash, htoken, horders, hidentity, happrovals, hrelayer⟩
  · rintro ⟨hattention, hhash, htoken, horders, hidentity, happrovals, hrelayer⟩
    exact ⟨⟨⟨⟨⟨hattention, hhash⟩, htoken⟩, horders, hidentity⟩, happrovals⟩, hrelayer⟩

end Checks

/-! ## Adoption -/

/-- The data of the store is the snapshot's, the last entry of each key. -/
structure Adopts (store : StateStore) (snapshot : RemoteSnapshot) : Prop where
  openOrders : ∀ orderId, store.openOrders[orderId]? =
    BTreeMap.lastOf Order.orderId snapshot.openOrders orderId
  approvals : ∀ key, store.approvals[key]? =
    BTreeMap.lastOf approvalKey snapshot.approvals key
  inventory : ∀ entry : InventoryEntry, store.inventory[entry]? =
    (BTreeMap.lastOf (fun row ↦ (⟨row.1, row.2.1⟩ : InventoryEntry)) snapshot.inventory entry).map
      fun row ↦ row.2.2
  resolution : ∀ conditionId, store.resolution[conditionId]? =
    BTreeMap.lastOf ResolutionState.conditionId snapshot.resolutionStates conditionId
  relayerTxs : ∀ txId, store.relayerTxs[txId]? =
    BTreeMap.lastOf RelayerTxSummary.txId snapshot.relayerTxs txId

namespace StateStore

variable (store : StateStore) (snapshot : RemoteSnapshot)

/-- The store after a reconcile that succeeds, field by field. -/
theorem reconcile_adopted (h : (store.reconcile snapshot).1.succeeded = true) :
    (store.reconcile snapshot).2 = { store with
      fullsetAnchor := store.lastAppliedJournalSeq.map fun committedJournalSeq ↦
        { stateVersion := store.stateVersion
          committedJournalSeq
          openOrders := (BTreeMap.byKey Order.orderId snapshot.openOrders).keys }
      openOrders := .byKey Order.orderId snapshot.openOrders
      approvals := .byKey approvalKey snapshot.approvals
      inventory :=
        .ofList (snapshot.inventory.map fun row ↦
          (({ tokenId := row.1, bucket := row.2.1 } : InventoryEntry), row.2.2)) compare
      resolution := .byKey ResolutionState.conditionId snapshot.resolutionStates
      relayerTxs := .byKey RelayerTxSummary.txId snapshot.relayerTxs
      firstReconcileSucceeded := true
      runtimeMode := if store.pendingReconcileAnchors = ∅ then .healthy else .reconciling
      overlay := if store.pendingReconcileAnchors = ∅ then none else some .cancelOnly } := by
  rw [store.reconcile_of_success snapshot h]
  simp only [setModeIfReconciled, completeReconcile, applyRestorePosture_eq, restorePolicy]
  cases store.lastAppliedJournalSeq <;> by_cases hpending : store.pendingReconcileAnchors = ∅ <;>
    simp [hpending, applyPolicy, rebuildFullsetAnchor, currentOpenOrderIds, reconciledPolicy,
      reconcileAttentionPolicy]

variable {store snapshot}

theorem adopts_reconcile (h : (store.reconcile snapshot).1.succeeded = true) :
    Adopts (store.reconcile snapshot).2 snapshot := by
  rw [store.reconcile_adopted snapshot h]
  exact ⟨BTreeMap.lookup_byKey _ _, BTreeMap.lookup_byKey _ _, BTreeMap.lookup_ofList_map _ _ _,
    BTreeMap.lookup_byKey _ _, BTreeMap.lookup_byKey _ _⟩

/-- A store that holds what the snapshot says agrees with it. -/
theorem agrees_of_adopts {store' : StateStore} (hadopts : Adopts store' snapshot)
    (h : Agrees store snapshot) : Agrees store' snapshot where
  noAttention := h.noAttention
  noSharedHash := h.noSharedHash
  noSharedToken := h.noSharedToken
  sameOrders orderId := by
    rw [Std.ExtTreeMap.mem_iff_isSome_getElem?, hadopts.openOrders, BTreeMap.lastOf_isSome_iff]
  sameIdentity orderId loc remote hloc hlast := by
    rw [hadopts.openOrders, hlast] at hloc
    cases hloc
    exact ⟨rfl, rfl, rfl, rfl, rfl, rfl⟩
  sameApprovals key := by
    rw [Std.ExtTreeMap.mem_iff_isSome_getElem?, hadopts.approvals, BTreeMap.lastOf_isSome_iff]
  knownRelayerTxs tx hmem := by
    rw [Std.ExtTreeMap.mem_iff_isSome_getElem?, hadopts.relayerTxs, BTreeMap.lastOf_isSome_iff]
    exact ⟨tx, hmem, rfl⟩

theorem reconcile_again (h : (store.reconcile snapshot).1.succeeded = true) :
    ((store.reconcile snapshot).2.reconcile snapshot).1.succeeded = true ∧
      ((store.reconcile snapshot).2.reconcile snapshot).2 = (store.reconcile snapshot).2 := by
  have hagrees := collectAttention_eq_nil_iff.mp ((store.reconcile_succeeded_iff snapshot).mp h)
  have hagain : ((store.reconcile snapshot).2.reconcile snapshot).1.succeeded = true :=
    (reconcile_succeeded_iff _ _).mpr
      (collectAttention_eq_nil_iff.mpr (agrees_of_adopts (adopts_reconcile h) hagrees))
  refine ⟨hagain, ?_⟩
  rw [reconcile_adopted _ _ hagain, store.reconcile_adopted snapshot h]

variable (store snapshot)

/-- **A reconcile decides exactly and is atomic.**  It succeeds if and only if the
snapshot agrees with the store.  A success adopts the snapshot, and one more reconcile
with it succeeds and changes nothing; a failure changes the mode and the overlay and
nothing else. -/
theorem reconcile_decides :
    ((store.reconcile snapshot).1.succeeded = true ↔ Agrees store snapshot) ∧
    ((store.reconcile snapshot).1.succeeded = true →
      Adopts (store.reconcile snapshot).2 snapshot ∧
      ((store.reconcile snapshot).2.reconcile snapshot).1.succeeded = true ∧
      ((store.reconcile snapshot).2.reconcile snapshot).2 = (store.reconcile snapshot).2) ∧
    ((store.reconcile snapshot).1.succeeded = false →
      (store.reconcile snapshot).2 =
        { store with runtimeMode := .reconciling, overlay := some .cancelOnly }) := by
  refine ⟨?_, ?_, ?_⟩
  · rw [reconcile_succeeded_iff, collectAttention_eq_nil_iff]
  · intro h
    exact ⟨adopts_reconcile h, reconcile_again h⟩
  · intro h
    rw [store.reconcile_of_attention snapshot h]
    rfl

end StateStore

end AxiomArb.State
