import AxiomArb.AppLive.DurableRecords
import AxiomArb.AppLive.LiveSubmission
import AxiomArb.Library.Slices

/-!
# The names of pending work

The venue answers a submission with a reference of the form `tx:…` or `order:…`, which
its reconcile provider parses, and which the pending rows keep.  The store names the work
after the fact of the submission, and no such name has a form that is parsed.  So work
that is submitted is never closed under the reference the venue gave
(`not_namesSameWork`).
-/

namespace AxiomArb.AppLive

open Domain Library State

/-! ## References of the venue -/

inductive PendingRefTarget where
  | tx (value : String)
  | order (value : String)
deriving DecidableEq, Repr

def parsePendingRef (pendingRef : String) : Except String PendingRefTarget :=
  match splitOnce ':' pendingRef with
  | none => .error s!"unsupported pending_ref without namespace: {pendingRef}"
  | some (refNamespace, value) =>
      let value := trim value
      if value.isEmpty then
        .error s!"pending_ref missing value: {pendingRef}"
      else
        match refNamespace with
        | "tx" => .ok (.tx value)
        | "order" => .ok (.order value)
        | other => .error s!"unsupported pending_ref namespace {other}"

def txPendingRef (txRef : String) : String := s!"tx:{txRef}"

def orderPendingRef (orderId : String) : String := s!"order:{orderId}"

/-- The references that the venue gives are parsed, if they name anything. -/
theorem parsePendingRef_txPendingRef {txRef : String} (h : (trim txRef).isEmpty = false) :
    parsePendingRef (txPendingRef txRef) = .ok (.tx (trim txRef)) := by
  have htext : txPendingRef txRef = "tx" ++ String.singleton ':' ++ txRef := rfl
  rw [parsePendingRef, htext, splitOnce_append (by decide)]
  simp [h]

theorem parsePendingRef_orderPendingRef {orderId : String} (h : (trim orderId).isEmpty = false) :
    parsePendingRef (orderPendingRef orderId) = .ok (.order (trim orderId)) := by
  have htext : orderPendingRef orderId = "order" ++ String.singleton ':' ++ orderId := rfl
  rw [parsePendingRef, htext, splitOnce_append (by decide)]
  simp [h]

/-- The identifier that a reference denotes. -/
def PendingRefTarget.value : PendingRefTarget → String
  | tx value | order value => value

/-- A reference is longer than what it denotes. -/
theorem length_value_lt_of_parsePendingRef {pendingRef : String} {target : PendingRefTarget}
    (h : parsePendingRef pendingRef = .ok target) : target.value.length < pendingRef.length := by
  rw [parsePendingRef] at h
  split at h
  · cases h
  · rename_i refNamespace value hsplit
    have hlt : (trim value).length < pendingRef.length :=
      (length_trim_le value).trans_lt (length_lt_of_splitOnce hsplit)
    simp only at h
    split at h
    · cases h
    · split at h
      · rwa [← Except.ok.inj h]
      · rwa [← Except.ok.inj h]
      · cases h

/-- The name the store gives to the work of a fact is not parsed. -/
theorem parsePendingRef_fromFactKey (factKey : FactKey) (target : PendingRefTarget) :
    parsePendingRef (PendingRef.fromFactKey factKey) ≠ .ok target := by
  have htext : PendingRef.fromFactKey factKey = "pending" ++ String.singleton ':' ++
      (factKey.sourceKind ++ ":" ++ factKey.sourceSessionId ++ ":" ++ factKey.sourceEventId ++
        ":" ++ factKey.normalizerVersion) := by
    rw [PendingRef.fromFactKey_eq]
    simp only [String.append_assoc]
    rfl
  rw [parsePendingRef, htext, splitOnce_append (by decide)]
  simp only
  split
  · simp
  · simp

/-! ## References of the rows -/

/-- A row of the pending work, with the columns that stand in for missing fields. -/
structure PendingReconcileItem extends PendingReconcileRow where
  scopeId : String
  reason : String

def pendingReconcileAnchorFromRow (row : PendingReconcileItem) :
    Except String PendingReconcileAnchor := do
  let submissionRef ← payloadString row.payload "submission_ref"
  return {
    pendingRef := row.pendingRef
    submissionRef
    familyId := (payloadString row.payload "family_id").toOption.getD row.scopeId
    route := (payloadString row.payload "route").toOption.getD "neg-risk"
    reason := (payloadString row.payload "reason").toOption.getD row.reason }

/-- A restart restores the work under the reference of its row. -/
theorem pendingRef_of_row {row : PendingReconcileItem} {anchor : PendingReconcileAnchor}
    (h : pendingReconcileAnchorFromRow row = .ok anchor) : anchor.pendingRef = row.pendingRef := by
  simp only [pendingReconcileAnchorFromRow, bind_eq_ok] at h
  obtain ⟨_, -, hreturn⟩ := h
  cases hreturn
  rfl

/-! ## The same work under one name -/

/-- The fact is the terminal live reconcile of the reference. -/
def Closes (fact : StateFactInput) (pendingRef : String) : Prop :=
  fact.applyHint = .liveReconcileObserved pendingRef true

/-- A live reconcile leaves what is pending under another reference alone. -/
theorem lookup_apply_of_closes {store : StateStore} {seq : Int} {fact : StateFactInput}
    {pendingRef ref : String} (hcloses : Closes fact pendingRef) (hne : pendingRef ≠ ref) :
    (store.apply seq fact).2.pendingReconcileAnchors[ref]? =
      store.pendingReconcileAnchors[ref]? := by
  have hafter : (fact.applyHint.pendingAfter store.pendingReconcileAnchors)[ref]? =
      store.pendingReconcileAnchors[ref]? := by
    rw [hcloses, FactApplyHint.pendingAfter]
    exact BTreeMap.lookup_erase_of_ne hne
  rcases store.apply_cases seq fact with ⟨-, _, heq⟩ | ⟨-, -, _, _, heq⟩ |
      ⟨-, -, -, _, _, heq⟩ | ⟨-, -, -, _, _, heq⟩
  · rw [heq]
  · rw [heq]
    simp
  · rw [heq]
    simpa using hafter
  · rw [heq]
    simpa using hafter

/-- The anchor is in the store under the reference: a reference that the provider parses
and that a restart restores, and whose terminal reconcile takes this anchor out and
no other. -/
structure NamesSameWork (store : StateStore) (anchor : PendingReconcileAnchor)
    (pendingRef : String) : Prop where
  carried : anchor.pendingRef = pendingRef
  parsed : ∃ target, parsePendingRef anchor.pendingRef = .ok target
  restored : ∀ row restored, row.pendingRef = pendingRef →
    pendingReconcileAnchorFromRow row = .ok restored → restored.pendingRef = anchor.pendingRef
  closed : ∀ seq fact, Closes fact pendingRef → store.Admits seq fact.factKey →
    ¬ store.HasApplied fact.factKey →
    (store.apply seq fact).2.pendingReconcileAnchors =
      store.pendingReconcileAnchors.erase anchor.pendingRef

namespace AppSupervisor

variable {record : NegRiskLiveExecutionRecord} {pendingRef : String}

/-- What a record that is applied is submitted under: the venue's reference stands in for
a submission reference that is missing. -/
theorem reference_of_pendingRef (h : record.pendingRef = some pendingRef) :
    record.reference = some (record.submissionRef.getD pendingRef) := by
  rw [NegRiskLiveExecutionRecord.reference, h]
  cases record.submissionRef <;> rfl

/-- **Live anchors do not name their work as the venue does.**  Whenever the loop over
the records applies one with the reference `pendingRef`, its anchor is left in the store
under another name or one that the provider refuses; and if the provider takes
`pendingRef`, no live reconcile of it takes the anchor out. -/
theorem not_namesSameWork (env : SupervisorEnv) (supervisor : AppSupervisor) (last : Int)
    (count : Nat) (record : NegRiskLiveExecutionRecord) (later : List NegRiskLiveExecutionRecord)
    (pendingRef : String) (hpending : record.pendingRef = some pendingRef)
    (hadmits : supervisor.runtime.store.Admits (last + 1) record.submitKey)
    (hnew : ¬ supervisor.runtime.store.HasApplied record.submitKey) :
    let store := (exec (applyLiveSubmitFactsFrom env last count (record :: later))
      supervisor).2.runtime.store
    let anchor := record.submitAnchor (record.submissionRef.getD pendingRef)
    store.pendingReconcileAnchors[anchor.pendingRef]? = some anchor ∧
      ¬ NamesSameWork store anchor pendingRef ∧
      ((∃ target, parsePendingRef pendingRef = .ok target) →
        anchor.pendingRef ≠ pendingRef ∧
        ∀ seq fact, Closes fact pendingRef →
          (store.apply seq fact).2.pendingReconcileAnchors[anchor.pendingRef]? = some anchor) := by
  intro store anchor
  have hreference := reference_of_pendingRef hpending
  have hanchored : Anchored (submitted env supervisor (last + 1) record
      (record.submissionRef.getD pendingRef)) record (record.submissionRef.getD pendingRef) :=
    (anchored_submitted_iff env _ hadmits).mpr fun happlied ↦ absurd happlied hnew
  have hstore : store = (submitted env supervisor (last + 1) record
      (record.submissionRef.getD pendingRef)).runtime.store := by
    have hrun : exec (applyLiveSubmitFactsFrom env last count (record :: later)) supervisor = _ :=
      exec_submit_of_admitted hreference hadmits
    rw [if_pos (pending_of_anchored hanchored)] at hrun
    exact congrArg (fun run ↦ run.2.runtime.store) hrun
  have hleft : store.pendingReconcileAnchors[anchor.pendingRef]? = some anchor := by
    rw [hstore]
    exact hanchored
  refine ⟨hleft, ?_, ?_⟩
  · rintro ⟨-, ⟨target, hparsed⟩, -⟩
    exact parsePendingRef_fromFactKey record.submitKey target hparsed
  · rintro ⟨target, hparsed⟩
    have hne : anchor.pendingRef ≠ pendingRef := by
      intro hcarried
      rw [← hcarried] at hparsed
      exact parsePendingRef_fromFactKey record.submitKey target hparsed
    refine ⟨hne, fun seq fact hcloses ↦ ?_⟩
    rw [lookup_apply_of_closes hcloses hne.symm]
    exact hleft

/-- The record of a submission that the venue answered with a transaction. -/
def txRecord : NegRiskLiveExecutionRecord :=
  { submittedRecord with pendingRef := some "tx:0xabc" }

/-- The loop applies the record on a fresh supervisor. -/
theorem not_namesSameWork_tx :
    ¬ NamesSameWork (exec (applyLiveSubmitFactsFrom takingEnv 0 0 [txRecord])
      (startedWith [])).2.runtime.store (txRecord.submitAnchor "submission-1") "tx:0xabc" :=
  (not_namesSameWork takingEnv (startedWith []) 0 0 txRecord [] "tx:0xabc" rfl (by decide)
    (by decide)).2.1

/-- The terminal live reconcile of the transaction. -/
def txReconciled : StateFactInput :=
  .new (.negriskLiveReconcileObserved "session" "reconcile" "tx:0xabc" "family-a" true 1)

/-- The provider takes the reference of the transaction, and its terminal reconcile is
applied; the work stays pending under another name. -/
theorem tx_work_stays_pending :
    let store := (exec (applyLiveSubmitFactsFrom takingEnv 0 0 [txRecord])
      (startedWith [])).2.runtime.store
    ¬ NamesSameWork store (txRecord.submitAnchor "submission-1") "tx:0xabc" ∧
      parsePendingRef "tx:0xabc" = .ok (.tx "0xabc") ∧
      store.pendingReconcileAnchors["tx:0xabc"]? = none ∧
      (store.apply 2 txReconciled).1 = .ok (.applied 2 1 allRuntimeDomains) ∧
      (store.apply 2 txReconciled).2.pendingReconcileCount = 1 := by
  refine ⟨?_, by decide⟩
  rintro ⟨-, ⟨target, hparsed⟩, -⟩
  exact parsePendingRef_fromFactKey txRecord.submitKey target hparsed

end AppSupervisor

end AxiomArb.AppLive
