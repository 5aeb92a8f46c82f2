import AxiomArb.Persistence.CatalogueRuns
import Mathlib.Logic.Relation

/-!
# Orders that were inserted

Orders are inserted while records are upserted, a statement at a time.  An order that was
inserted stays as it is and is read back as it was given, its hash is no other order's, and its
identifiers are those of an accepted record (`insertedOrders_stored`).  Retries go back in the
order of insertion, so that following them ends (`retries_end`).
-/

namespace AxiomArb.Persistence

open Domain Library

variable {catalogue : Catalogue}

/-! ## Reading an order back -/

theorem submissionStateFromStr_submissionState (row : NewOrderRow) :
    submissionStateFromStr (submissionState row) = .ok row.submissionState := by
  rw [submissionState]
  cases row.submissionState <;> rfl

theorem venueOrderStateFromStr_venueState (row : NewOrderRow) :
    venueOrderStateFromStr (venueState row) = .ok row.venueState := by
  rw [venueState]
  cases row.venueState <;> rfl

theorem settlementStateFromStr_settlementState (row : NewOrderRow) :
    settlementStateFromStr (settlementState row) = .ok row.settlementState := by
  rw [settlementState]
  cases row.settlementState <;> rfl

theorem signedOrderIdentity_map (identity : Option SignedOrderIdentity) :
    signedOrderIdentity (identity.map SignedOrderIdentity.signedOrderHash)
      (identity.map SignedOrderIdentity.salt) (identity.map SignedOrderIdentity.nonce)
      (identity.map SignedOrderIdentity.signature) = .ok identity := by
  cases identity <;> rfl

/-- An order is read back from the row that is inserted for it. -/
theorem intoStoredOrder_insertedAt (order : Order) (retryOfOrderId : Option OrderId) (time : DateTime) :
    ((NewOrderRow.fromDomain order retryOfOrderId).insertedAt time).intoStoredOrder =
      .ok { order, retryOfOrderId, createdAt := time, updatedAt := time } := by
  rw [OrderRow.intoStoredOrder, NewOrderRow.insertedAt, submissionStateFromStr_submissionState,
    venueOrderStateFromStr_venueState, settlementStateFromStr_settlementState]
  show (signedOrderIdentity (order.signedOrder.map _) (order.signedOrder.map _)
    (order.signedOrder.map _) (order.signedOrder.map _) >>= _) = _
  rw [signedOrderIdentity_map]
  rfl

/-- The row tells what was inserted and when. -/
theorem insertedAt_inj {row row' : NewOrderRow} {time time' : DateTime} (hcomplete : row.Complete)
    (hcomplete' : row'.Complete) (h : row.insertedAt time = row'.insertedAt time') : row = row' := by
  obtain ⟨order, retryOfOrderId, rfl⟩ := hcomplete
  obtain ⟨order', retryOfOrderId', rfl⟩ := hcomplete'
  have hread := congrArg OrderRow.intoStoredOrder h
  rw [intoStoredOrder_insertedAt, intoStoredOrder_insertedAt, Except.ok.injEq,
    StoredOrder.mk.injEq] at hread
  rw [hread.1, hread.2.1]

/-! ## The orders of a catalogue that is reached -/

variable (hreached : Reached catalogue)

include hreached

/-- A stored order is complete and was inserted. -/
theorem Reached.exists_insertedAt {row : OrderRow} (hrow : .order row ∈ catalogue.committed) :
    ∃ new now, (new, now) ∈ insertedOrders catalogue ∧ new.Complete ∧ row = new.insertedAt now := by
  rcases hreached.of_mem_committed hrow with ⟨record, -, hmem⟩ | ⟨⟨new, now⟩, horder, hrow⟩
  · simp [IdentifierRecordRow.tables] at hmem
  · injection hrow with hrow
    exact ⟨new, now, horder, (hreached.exists_order_mem_committed horder).1, hrow⟩

/-- Stored orders of one identifier, or of one hash, are one order. -/
theorem Reached.eq_of_clash_orders {row row' : OrderRow} (hrow : .order row ∈ catalogue.committed)
    (hrow' : .order row' ∈ catalogue.committed)
    (h : row.orderId = row'.orderId ∨
      ∃ hash, row.signedOrderHash = some hash ∧ row'.signedOrderHash = some hash) : row = row' := by
  have hclash : (Row.order row).clash (.order row') = true := by
    rcases h with hid | ⟨hash, hhash, hhash'⟩
    · simp [Row.clash, hid]
    · simp [Row.clash, hhash, hhash']
  exact Row.order.inj (hreached.sound.eq_of_clash hrow hrow' hclash)

theorem Reached.eq_of_insertedOrders {order order' : NewOrderRow × DateTime}
    (horder : order ∈ insertedOrders catalogue) (horder' : order' ∈ insertedOrders catalogue)
    (h : order.1.orderId = order'.1.orderId ∨
      ∃ hash, order.1.signedOrderHash = some hash ∧ order'.1.signedOrderHash = some hash) :
    order.1 = order'.1 := by
  obtain ⟨hcomplete, time, hrow⟩ := hreached.exists_order_mem_committed horder
  obtain ⟨hcomplete', time', hrow'⟩ := hreached.exists_order_mem_committed horder'
  exact insertedAt_inj hcomplete hcomplete' (hreached.eq_of_clash_orders hrow hrow' h)

/-- The identifiers of a stored order are those of a record that was accepted. -/
theorem Reached.exists_record_of_order {row : OrderRow} (hrow : .order row ∈ catalogue.committed) :
    ∃ record ∈ acceptedRecords catalogue, record.marketId = row.marketId ∧
      record.conditionId = row.conditionId ∧ record.tokenId = row.tokenId := by
  obtain ⟨before, after, hsplit⟩ := List.append_of_mem hrow
  have hsupports := Row.dangling_eq_none_iff.mp (hreached.sound.supports hsplit)
  obtain ⟨other, hother, hmapped⟩ := hsupports
    ("orders_identifier_map_link_valid", Row.isMapped row.marketId row.conditionId row.tokenId)
    (List.mem_append_right _ (List.mem_singleton_self _))
  cases other <;> simp only [Row.isMapped, Bool.and_eq_true, beq_iff_eq, Bool.false_eq_true] at hmapped
  rename_i mapped
  have hcommitted : .identifierMap mapped ∈ catalogue.committed := by
    rw [hsplit]
    rcases List.mem_append.mp hother with hother | hother
    · exact List.mem_append_left _ hother
    · cases List.mem_singleton.mp hother
  obtain ⟨record, rfl⟩ := hreached.good_of_mem_committed hcommitted
  exact ⟨record, hreached.identifierMap_mem_iff.mp hcommitted, hmapped.1.1, hmapped.1.2, hmapped.2⟩

theorem Reached.getOrder_of_inserted {order : Order} {retryOfOrderId : Option OrderId} {now : DateTime}
    (horder : (.fromDomain order retryOfOrderId, now) ∈ insertedOrders catalogue) :
    ∃ time, getOrder catalogue.committed order.orderId =
      .ok (some { order, retryOfOrderId, createdAt := time, updatedAt := time }) := by
  obtain ⟨-, time, hrow⟩ := hreached.exists_order_mem_committed horder
  refine ⟨time, ?_⟩
  rw [getOrder]
  rcases hfound : catalogue.committed.findSome? (selectOrder order.orderId) with _ | row
  · have hnot := List.findSome?_eq_none_iff.mp hfound _ hrow
    have hsome : selectOrder order.orderId (.order ((NewOrderRow.fromDomain order
      retryOfOrderId).insertedAt time)) = some _ := if_pos rfl
    rw [hsome] at hnot
    cases hnot
  · obtain ⟨hmem, hid⟩ := mem_of_findSome?_selectOrder hfound
    obtain rfl := hreached.eq_of_clash_orders hmem hrow (.inl hid)
    show Except.map _ (OrderRow.intoStoredOrder _) = _
    rw [intoStoredOrder_insertedAt]
    rfl

theorem Reached.getOrder_eq_none_iff (orderId : OrderId) :
    getOrder catalogue.committed orderId = .ok none ↔
      ∀ order ∈ insertedOrders catalogue, order.1.orderId ≠ orderId := by
  constructor
  · rintro hnone ⟨row, now⟩ horder rfl
    obtain ⟨⟨order, retryOfOrderId, rfl⟩, -⟩ := hreached.exists_order_mem_committed horder
    obtain ⟨time, hread⟩ := hreached.getOrder_of_inserted horder
    exact nomatch hnone.symm.trans hread
  · intro hnot
    rw [getOrder]
    rcases hfound : catalogue.committed.findSome? (selectOrder orderId) with _ | row
    · rfl
    · obtain ⟨hmem, hid⟩ := mem_of_findSome?_selectOrder hfound
      obtain ⟨new, now, horder, -, rfl⟩ := hreached.exists_insertedAt hmem
      exact absurd hid (hnot _ horder)

omit hreached

/-- **Orders are stored once and for all.**  Whatever the order of the statements, an order that was
inserted is read back as it was given, and no order is read that was not inserted; orders with one
identifier or with one hash are one order; the identifiers of an order are those of a record that
was accepted; and a call that fails by itself has one of five errors. -/
theorem insertedOrders_stored (hreached : Reached catalogue) :
    (∀ order retryOfOrderId now, (.fromDomain order retryOfOrderId, now) ∈ insertedOrders catalogue →
      ∃ time, getOrder catalogue.committed order.orderId =
        .ok (some { order, retryOfOrderId, createdAt := time, updatedAt := time })) ∧
    (∀ orderId, getOrder catalogue.committed orderId = .ok none ↔
      ∀ order ∈ insertedOrders catalogue, order.1.orderId ≠ orderId) ∧
    (∀ order ∈ insertedOrders catalogue, order.1.Complete) ∧
    (∀ order ∈ insertedOrders catalogue, ∀ order' ∈ insertedOrders catalogue,
      (order.1.orderId = order'.1.orderId ∨
        ∃ hash, order.1.signedOrderHash = some hash ∧ order'.1.signedOrderHash = some hash) →
        order.1 = order'.1) ∧
    (∀ order ∈ insertedOrders catalogue, ∃ record ∈ acceptedRecords catalogue,
      record.marketId = order.1.marketId ∧ record.conditionId = order.1.conditionId ∧
        record.tokenId = order.1.tokenId) ∧
    ∀ transaction ∈ catalogue.transactions, ∀ row now step error,
      transaction.state = .insertSignedOrder row now step → transaction.status = .failed error →
        row.Refused error := by
  refine ⟨fun _ _ _ horder ↦ hreached.getOrder_of_inserted horder, hreached.getOrder_eq_none_iff,
    fun order horder ↦ (hreached.exists_order_mem_committed horder).1,
    fun order horder order' horder' h ↦ hreached.eq_of_insertedOrders horder horder' h, ?_, ?_⟩
  · intro order horder
    obtain ⟨-, time, hrow⟩ := hreached.exists_order_mem_committed horder
    exact hreached.exists_record_of_order hrow
  · rintro ⟨task, status⟩ htransaction row now step error rfl rfl
    obtain ⟨i, hi⟩ := List.mem_iff_getElem?.mp htransaction
    exact hreached.sound.failed i _ error hi

def sampleOrder (orderId : OrderId) (hash : String) : Order :=
  { orderId
    marketId := "market-1"
    conditionId := "condition-1"
    tokenId := "a"
    quantity := 10
    price := 1 / 2
    submissionState := .signed
    venueState := .unknown
    settlementState := .unknown
    signedOrder := some { signedOrderHash := hash, salt := "salt", nonce := "nonce", signature := "sig" } }

/-- An order and its retry, after the records they refer to. -/
def orderAndRetry : List (Event Task) :=
  sideBySide ++ [.start (.insertSignedOrder (.fromDomain (sampleOrder "first" "hash-1") none) 7 .check),
    .start (.insertSignedOrder (.fromDomain (sampleOrder "second" "hash-2") (some "first")) 8 .check)] ++
  List.replicate 3 (.advance 2) ++ List.replicate 3 (.advance 3)

theorem reached_orderAndRetry : Reached (run catalogueStep Store.empty orderAndRetry) := by
  refine ⟨orderAndRetry, fun task htask ↦ ?_, rfl⟩
  simp only [orderAndRetry, sideBySide, List.mem_append, List.mem_cons, Event.start.injEq, reduceCtorEq,
    List.not_mem_nil, or_false, List.mem_replicate, and_false] at htask
  rcases htask with (rfl | rfl) | rfl | rfl <;> rfl

theorem insertedOrders_stored_orderAndRetry :
    ∃ time, getOrder (run catalogueStep Store.empty orderAndRetry).committed "second" =
      .ok (some {
        order := sampleOrder "second" "hash-2", retryOfOrderId := some "first"
        createdAt := time, updatedAt := time }) := by
  have hinserted : (.fromDomain (sampleOrder "second" "hash-2") (some "first"), 8) ∈
      insertedOrders (run catalogueStep Store.empty orderAndRetry) := by decide +kernel
  exact (insertedOrders_stored reached_orderAndRetry).1 _ _ _ hinserted

/-! ## Retries -/

/-- A stored order is a retry of a stored order. -/
def RetryOf (catalogue : Catalogue) (row row' : OrderRow) : Prop :=
  .order row ∈ catalogue.committed ∧ .order row' ∈ catalogue.committed ∧
    row.retryOfOrderId = some row'.orderId

/-- A retry names an order that was stored before it, or itself. -/
theorem Reached.exists_retried (hreached : Reached catalogue) {row : OrderRow} {orderId : String}
    (hrow : .order row ∈ catalogue.committed) (hretry : row.retryOfOrderId = some orderId) :
    ∃ row', RetryOf catalogue row row' ∧ row'.orderId = orderId ∧
      (row' = row ∨ catalogue.committed.idxOf (.order row') < catalogue.committed.idxOf (.order row)) := by
  obtain ⟨before, after, hsplit⟩ := List.append_of_mem hrow
  have hsupports := Row.dangling_eq_none_iff.mp (hreached.sound.supports hsplit)
  obtain ⟨other, hother, hid⟩ := hsupports ("orders_retry_of_order_id_fkey", Row.isOrder orderId)
    (List.mem_append_left _ (by simp [hretry]))
  cases other <;> simp only [Row.isOrder, beq_iff_eq, Bool.false_eq_true] at hid
  rename_i row'
  have hrow' : .order row' ∈ catalogue.committed := by
    rw [hsplit]
    rcases List.mem_append.mp hother with hother | hother
    · exact List.mem_append_left _ hother
    · rw [List.mem_singleton.mp hother]
      exact List.mem_append_right _ List.mem_cons_self
  refine ⟨row', ⟨hrow, hrow', by rw [hretry, hid]⟩, hid, ?_⟩
  by_cases hsame : row' = row
  · exact .inl hsame
  · have hbefore : .order row' ∈ before := by
      rcases List.mem_append.mp hother with hother | hother
      · exact hother
      · exact absurd (Row.order.inj (List.mem_singleton.mp hother)) hsame
    have hnot : .order row ∉ before := by
      intro hmem
      have hpairs : catalogue.committed.Pairwise fun row row' ↦ row.clash row' = false :=
        List.pairwise_map.mpr (hreached.sound.clashFree.filter _)
      rw [hsplit, List.pairwise_append] at hpairs
      have hclash := hpairs.2.2 _ hmem _ List.mem_cons_self
      rw [Row.clash_self] at hclash
      cases hclash
    refine .inr ?_
    rw [hsplit, List.idxOf_append_of_mem hbefore, List.idxOf_append_of_notMem hnot, List.idxOf_cons_self]
    exact Nat.lt_add_right 0 (List.idxOf_lt_length_of_mem hbefore)

theorem RetryOf.earlier (hreached : Reached catalogue) {row row' : OrderRow}
    (h : RetryOf catalogue row row') :
    row' = row ∨ catalogue.committed.idxOf (.order row') < catalogue.committed.idxOf (.order row) := by
  obtain ⟨hrow, hrow', hretry⟩ := h
  obtain ⟨retried, ⟨-, hretried, -⟩, hid, hearlier⟩ := hreached.exists_retried hrow hretry
  obtain rfl := hreached.eq_of_clash_orders hretried hrow' (.inl hid)
  exact hearlier

theorem RetryOf.earlier_of_transGen (hreached : Reached catalogue) {row row' : OrderRow}
    (h : Relation.TransGen (RetryOf catalogue) row row') :
    row' = row ∨ catalogue.committed.idxOf (.order row') < catalogue.committed.idxOf (.order row) := by
  induction h with
  | single h => exact h.earlier hreached
  | tail _ h ih =>
      rcases h.earlier hreached with rfl | hlt
      · exact ih
      · rcases ih with rfl | hlt'
        · exact .inr hlt
        · exact .inr (hlt.trans hlt')

theorem Reached.exists_root (hreached : Reached catalogue) :
    ∀ (position : Nat) (row : OrderRow), .order row ∈ catalogue.committed →
      catalogue.committed.idxOf (.order row) = position →
      ∃ root, Relation.ReflTransGen (RetryOf catalogue) row root ∧
        (root.retryOfOrderId = none ∨ root.retryOfOrderId = some root.orderId) := by
  intro position
  induction position using Nat.strong_induction_on with
  | _ position ih =>
      intro row hrow hposition
      rcases hretry : row.retryOfOrderId with _ | orderId
      · exact ⟨row, .refl, .inl hretry⟩
      · obtain ⟨row', hretried, rfl, rfl | hlt⟩ := hreached.exists_retried hrow hretry
        · exact ⟨row', .refl, .inr hretry⟩
        · obtain ⟨root, hpath, hroot⟩ := ih _ (hposition ▸ hlt) row' hretried.2.1 rfl
          exact ⟨root, .head hretried hpath, hroot⟩

/-- **Retries end.**  What a stored order is a retry of is stored; no two orders are retries of
each other, however indirectly; and following the retries ends at an order that is a retry of none
or names itself. -/
theorem retries_end (hreached : Reached catalogue) :
    (∀ row orderId, .order row ∈ catalogue.committed → row.retryOfOrderId = some orderId →
      ∃ row', RetryOf catalogue row row' ∧ row'.orderId = orderId) ∧
    (∀ row row', Relation.TransGen (RetryOf catalogue) row row' →
      Relation.TransGen (RetryOf catalogue) row' row → row = row') ∧
    ∀ row, .order row ∈ catalogue.committed →
      ∃ root, Relation.ReflTransGen (RetryOf catalogue) row root ∧
        (root.retryOfOrderId = none ∨ root.retryOfOrderId = some root.orderId) := by
  refine ⟨fun row orderId hrow hretry ↦ ?_, fun row row' h h' ↦ ?_, fun row hrow ↦
    hreached.exists_root _ row hrow rfl⟩
  · obtain ⟨row', hretried, hid, -⟩ := hreached.exists_retried hrow hretry
    exact ⟨row', hretried, hid⟩
  · rcases RetryOf.earlier_of_transGen hreached h with rfl | hlt
    · rfl
    · rcases RetryOf.earlier_of_transGen hreached h' with hsame | hlt'
      · exact hsame
      · exact absurd hlt' hlt.asymm

theorem retries_end_orderAndRetry :
    ∃ root, Relation.ReflTransGen (RetryOf (run catalogueStep Store.empty orderAndRetry))
        ((NewOrderRow.fromDomain (sampleOrder "second" "hash-2") (some "first")).insertedAt 8) root ∧
      (root.retryOfOrderId = none ∨ root.retryOfOrderId = some root.orderId) := by
  have hstored : .order ((NewOrderRow.fromDomain (sampleOrder "second" "hash-2") (some "first")).insertedAt 8)
      ∈ (run catalogueStep Store.empty orderAndRetry).committed := by decide +kernel
  exact (retries_end reached_orderAndRetry).2.2 _ hstored

end AxiomArb.Persistence
