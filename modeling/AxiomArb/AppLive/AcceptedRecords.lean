import AxiomArb.AppLive.CrashPoints
import AxiomArb.AppLive.ShadowFamily
import AxiomArb.VenuePolymarket.PendingAnchors

/-!
# What execution produced and the store takes

A family that is submitted becomes two rows, and the store checks them when they are written.
It asks for a family id and a reference that are not blank, and takes a namespace off the
scope of the attempt but not off that of the submission.  Neither is asked for before the
orders are placed (`rowsPass_executeLiveFamily_iff`).

## Honest boundary

* The signer may answer in any way, and so may the venue, each time it is called.
* Errors are printed by functions that are given, and so is the JSON value of a request.
-/

namespace AxiomArb.AppLive

open Domain Library Execution Persistence VenuePolymarket

/-! ## Execution -/

/-- How values are printed. -/
structure PrintedAs where
  planningError : NegRiskPlanningError → String
  executionError : ExecutionError → String
  signingError : SigningError → String
  buildError : PostOrderBuildError → String
  request : PostOrderRequest → String

structure PolymarketLiveExecutionBackend where
  signFamily : ExecutionPlan → Except SigningError SignedFamilySubmission
  /-- The calls of the gateway, numbered by the members. -/
  runOnSharedRuntime : Nat → PolymarketSignedOrder → Except String (Except String PolymarketSubmitResponse)
  transport : PostOrderTransport

namespace PolymarketLiveExecutionBackend

variable (backend : PolymarketLiveExecutionBackend) (printed : PrintedAs)

/-- `RecordingSignerProvider`: what was signed last is kept. -/
def recordingSigner : SignerProvider (Option SignedFamilySubmission) := fun plan ↦ do
  let signed ← liftM (backend.signFamily plan)
  set (some signed)
  return signed

/-- What the venue answers for the members of a family. -/
def answers (signed : SignedFamilySubmission) : List (Except String PolymarketSubmitResponse) :=
  familyAnswers printed.buildError backend.transport
    (fun n ↦ gatewayRuntimeCall (backend.runOnSharedRuntime n)) signed

theorem isSome_submitFamily (attempt : ExecutionAttemptContext) (signed : SignedFamilySubmission) :
    (submitFamilyViaGatewayRuntime printed.buildError backend.transport attempt
      backend.runOnSharedRuntime signed).isSome := by
  rw [submitFamilyViaGatewayRuntime, submitFamilyWith_eq]
  exact FamilySubmitAggregation.isSome_aggregated _

/-- `GatewayBackedSubmitProvider`. -/
def submitProvider : VenueExecutionProvider (Option SignedFamilySubmission) := fun signed attempt ↦
  liftM ((submitFamilyViaGatewayRuntime printed.buildError backend.transport attempt
    backend.runOnSharedRuntime signed).get (backend.isSome_submitFamily printed attempt signed))

end PolymarketLiveExecutionBackend

def ensureLiveExecutionSucceeded (receipt : ExecutionReceipt) : Except NegRiskLiveError Unit :=
  if receipt.outcome = .succeeded then .ok ()
  else .error (.sink s!"unexpected neg-risk live receipt outcome: {receipt.outcome.name}")

section Execute

variable (printed : PrintedAs) (sha256 : String → String) (backend : PolymarketLiveExecutionBackend)
  (snapshotId : String) (target : NegRiskFamilyLiveTarget) (matchedRuleId : String)

def liveRequest : ExecutionRequest :=
  { requestId := s!"negrisk-live-request:{snapshotId}:{target.familyId}"
    decisionInputId := s!"negrisk-live-intent:{snapshotId}:{target.familyId}"
    snapshotId
    route := NegRisk.ROUTE
    scope := target.familyId
    activationMode := .live
    matchedRuleId := some matchedRuleId }

/-- The one artifact of a submission, with its fields in the order of their names. -/
def liveOrdersArtifact (attemptContext : ExecutionAttemptContext) (planId : String)
    (requests : List String) : NegRiskLiveArtifact :=
  { stream := "neg-risk-live-orders"
    payload := jsonObject
      [("attempt_id", jsonString attemptContext.attemptId),
        ("matched_rule_id", (attemptContext.matchedRuleId.map jsonString).getD "null"),
        ("plan_id", jsonString planId),
        ("requests", jsonArray requests),
        ("route", jsonString attemptContext.route),
        ("scope", jsonString attemptContext.scope)] }

/-- The record of an execution. -/
def liveRecord (executionRecord : ExecutionAttemptRecord) (signedPlanId : String)
    (orderRequests : List String) : NegRiskLiveExecutionRecord :=
  let attemptContext := executionRecord.attemptContext
  { idempotencyKey := s!"idem-{executionRecord.attempt.attemptId}"
    attemptId := executionRecord.receipt.attemptId
    planId := executionRecord.attempt.planId
    snapshotId := executionRecord.attempt.snapshotId
    executionMode := attemptContext.executionMode
    attemptNo := executionRecord.attempt.attemptNo
    route := attemptContext.route
    scope := attemptContext.scope
    matchedRuleId := attemptContext.matchedRuleId
    submissionRef := executionRecord.receipt.submissionRef
    pendingRef := executionRecord.receipt.pendingRef
    artifacts := [liveOrdersArtifact attemptContext signedPlanId orderRequests]
    orderRequests }

def executeLiveFamily : LiveAnswer := do
  let request := liveRequest snapshotId target matchedRuleId
  let plan ← (NegRisk.planFamilySubmission request (toExecutionTarget target)).mapError fun error ↦
    .planning s!"neg-risk live planning failed: {printed.planningError error}"
  let sink := LiveVenueSink.withSubmitProvider printed.signingError backend.recordingSigner
    (backend.submitProvider printed)
  let (executed, _, signedCapture) := exec
    (ExecutionOrchestrator.executeWithAttempt sha256 sink.execute
      { request, executionMode := request.activationMode, plan })
    (ExecutionAttemptFactory.new, none)
  let executionRecord ← executed.mapError fun error ↦
    .sink s!"neg-risk live sink failed: {printed.executionError error}"
  ensureLiveExecutionSucceeded executionRecord.receipt
  match signedCapture with
  | none => throw (.sink "neg-risk live signer did not produce a signed family submission")
  | some signed => do
      let orderRequests ← signed.members.mapM fun member ↦
        (buildPostOrderRequestFromSignedMember member backend.transport).mapError fun error ↦
          .sink s!"neg-risk live post-order build failed: {printed.buildError error}"
      return liveRecord executionRecord signed.planId (orderRequests.map printed.request)

/-- The plan of a target. -/
def livePlan : ExecutionPlan :=
  .negRiskSubmitFamily target.familyId
    (sortByKey (fun member ↦ [member.conditionId, member.tokenId])
      ((toExecutionTarget target).members.map NegRisk.memberOrderPlan))

/-- The attempt of a target, which is the first of its factory, and its context. -/
def liveAttempt : ExecutionAttempt × ExecutionAttemptContext :=
  (ExecutionAttemptFactory.new.nextForPlan sha256 (livePlan target)
    (liveRequest snapshotId target matchedRuleId) .live).1

theorem planFamilySubmission_liveRequest :
    NegRisk.planFamilySubmission (liveRequest snapshotId target matchedRuleId)
      (toExecutionTarget target) = .ok (livePlan target) :=
  planFamilySubmission_of_fits rfl rfl

variable {printed sha256 backend snapshotId target matchedRuleId}

theorem exec_recordingSigner_eq_ok {plan : ExecutionPlan} {signed : SignedFamilySubmission}
    {capture capture' : Option SignedFamilySubmission} :
    exec (backend.recordingSigner plan) capture = (.ok signed, capture') ↔
      backend.signFamily plan = .ok signed ∧ capture' = some signed := by
  rw [PolymarketLiveExecutionBackend.recordingSigner, exec_lift_bind_eq_ok]
  constructor
  · rintro ⟨_, hsigned, ⟨⟩⟩
    exact ⟨hsigned, rfl⟩
  · rintro ⟨hsigned, rfl⟩
    exact ⟨signed, hsigned, rfl⟩

theorem exec_submitProvider_eq_ok {signed : SignedFamilySubmission} {attempt : ExecutionAttemptContext}
    {outcome : LiveSubmitOutcome} {capture capture' : Option SignedFamilySubmission} :
    exec (backend.submitProvider printed signed attempt) capture = (.ok outcome, capture') ↔
      FamilySubmitAggregation.aggregated
        ((backend.answers printed signed).map (memberOutcome attempt)) = some (.ok outcome) ∧
      capture' = capture := by
  have hresult : submitFamilyViaGatewayRuntime printed.buildError backend.transport attempt
      backend.runOnSharedRuntime signed =
        FamilySubmitAggregation.aggregated
          ((backend.answers printed signed).map (memberOutcome attempt)) := submitFamilyWith_eq
  rw [PolymarketLiveExecutionBackend.submitProvider, exec_lift, Prod.mk.injEq, eq_comm (a := capture),
    ← hresult, Option.eq_some_iff_get_eq,
    exists_prop_of_true (backend.isSome_submitFamily printed attempt signed)]

theorem ensureLiveExecutionSucceeded_receipt (attempt : ExecutionAttemptContext)
    (outcome : LiveSubmitOutcome) :
    ensureLiveExecutionSucceeded (receiptFromLiveSubmitOutcome attempt outcome) = .ok () ↔
      outcome.isAccepted := by
  rw [ensureLiveExecutionSucceeded]
  rcases outcome with record | reason | ⟨_ | record, pendingRef⟩ | ⟨pendingRef, reason⟩ <;>
    simp [receiptFromLiveSubmitOutcome, ExecutionReceipt.new, ExecutionReceipt.withSubmissionRef,
      ExecutionReceipt.withPendingRef, LiveSubmitOutcome.isAccepted]

variable (printed sha256 backend snapshotId target matchedRuleId) in
/-- What the orchestrator makes of a target that is signed and submitted. -/
def LiveExecution (signed : SignedFamilySubmission) (outcome : LiveSubmitOutcome)
    (executionRecord : ExecutionAttemptRecord) : Prop :=
  let (attempt, attemptContext) := liveAttempt sha256 snapshotId target matchedRuleId
  backend.signFamily (livePlan target) = .ok signed ∧
    FamilySubmitAggregation.aggregated
      ((backend.answers printed signed).map (memberOutcome attemptContext)) = some (.ok outcome) ∧
    executionRecord =
      { attempt, attemptContext, receipt := receiptFromLiveSubmitOutcome attemptContext outcome }

theorem exec_executeWithAttempt_eq_ok_iff {executionRecord : ExecutionAttemptRecord}
    {state : ExecutionAttemptFactory × Option SignedFamilySubmission} :
    exec (ExecutionOrchestrator.executeWithAttempt sha256
        (LiveVenueSink.withSubmitProvider printed.signingError backend.recordingSigner
          (backend.submitProvider printed)).execute
        { request := liveRequest snapshotId target matchedRuleId
          executionMode := .live
          plan := livePlan target })
      (ExecutionAttemptFactory.new, none) = (.ok executionRecord, state) ↔
    ∃ signed outcome,
      LiveExecution printed sha256 backend snapshotId target matchedRuleId signed outcome
        executionRecord ∧
      state = ((ExecutionAttemptFactory.new.nextForPlan sha256 (livePlan target)
        (liveRequest snapshotId target matchedRuleId) .live).2, some signed) := by
  rw [executeWithAttempt_eq_ok_iff rfl rfl]
  constructor
  · rintro ⟨receipt, last, hexecuted, rfl, rfl⟩
    obtain ⟨signed, middle, outcome, hsigned, hsubmitted, rfl⟩ :=
      (execute_family_eq_ok_iff rfl).mp hexecuted
    obtain ⟨hanswer, rfl⟩ := exec_recordingSigner_eq_ok.mp hsigned
    obtain ⟨houtcome, rfl⟩ := exec_submitProvider_eq_ok.mp hsubmitted
    exact ⟨signed, outcome, ⟨hanswer, houtcome, rfl⟩, rfl⟩
  · rintro ⟨signed, outcome, ⟨hsigned, houtcome, rfl⟩, rfl⟩
    refine ⟨_, some signed, (execute_family_eq_ok_iff rfl).mpr ?_, rfl, rfl⟩
    exact ⟨signed, some signed, outcome, exec_recordingSigner_eq_ok.mpr ⟨hsigned, rfl⟩,
      exec_submitProvider_eq_ok.mpr ⟨houtcome, rfl⟩, rfl⟩

/-- A family is executed if it is signed, all its orders are accepted and their requests are
built; its record is that of the first outcome. -/
theorem executeLiveFamily_eq_ok_iff {record : NegRiskLiveExecutionRecord} :
    executeLiveFamily printed sha256 backend snapshotId target matchedRuleId = .ok record ↔
      ∃ signed outcome executionRecord requests,
        LiveExecution printed sha256 backend snapshotId target matchedRuleId signed outcome
          executionRecord ∧
        outcome.isAccepted ∧
        signed.members.mapM (buildPostOrderRequestFromSignedMember · backend.transport) = .ok requests ∧
        record = liveRecord executionRecord signed.planId (requests.map printed.request) := by
  simp only [executeLiveFamily, planFamilySubmission_liveRequest, bind_eq_ok, mapError_eq_ok_iff]
  constructor
  · rintro ⟨_, ⟨⟩, executionRecord, hexecuted, ⟨⟩, hsucceeded, h⟩
    obtain ⟨signed, outcome, hlive, hstate⟩ :=
      exec_executeWithAttempt_eq_ok_iff.mp (Prod.ext hexecuted rfl)
    rw [show (liveRequest snapshotId target matchedRuleId).activationMode = .live from rfl, hstate] at h
    simp only [bind_eq_ok, mapM_mapError_eq_ok_iff] at h
    obtain ⟨requests, hrequests, ⟨⟩⟩ := h
    rw [hlive.2.2, ensureLiveExecutionSucceeded_receipt] at hsucceeded
    exact ⟨signed, outcome, executionRecord, requests, hlive, hsucceeded, hrequests, rfl⟩
  · rintro ⟨signed, outcome, executionRecord, requests, hlive, haccepted, hrequests, rfl⟩
    have hexecuted := exec_executeWithAttempt_eq_ok_iff.mpr ⟨signed, outcome, hlive, rfl⟩
    refine ⟨livePlan target, rfl, executionRecord, congrArg Prod.fst hexecuted, ⟨⟩, ?_, ?_⟩
    · rw [hlive.2.2, ensureLiveExecutionSucceeded_receipt]
      exact haccepted
    · rw [show (liveRequest snapshotId target matchedRuleId).activationMode = .live from rfl, hexecuted]
      simp only [bind_eq_ok, mapM_mapError_eq_ok_iff]
      exact ⟨requests, hrequests, rfl⟩

end Execute

/-! ## Rows -/

theorem requiredAnchorString_eq_ok_iff {payloadText field value result : String} :
    requiredAnchorString payloadText field (some value) = .ok result ↔
      (trim value).isEmpty = false ∧ result = value := by
  rw [requiredAnchorString, Option.filter_some]
  cases hblank : (trim value).isEmpty with
  | true => simp
  | false => simp [eq_comm (a := value)]

/-- A scope stays as it is unless it has the namespace. -/
theorem withoutFamilyNamespace_eq_self_iff {scope : String} :
    withoutFamilyNamespace scope = scope ↔ ¬ "family:".toList <+: scope.toList := by
  rw [withoutFamilyNamespace, ← List.isPrefixOf_iff_prefix]
  split
  · rename_i hprefix
    rw [List.isPrefixOf_iff_prefix] at hprefix
    refine iff_of_false (fun heq ↦ ?_) (not_not.mpr (List.isPrefixOf_iff_prefix.mpr hprefix))
    have hlength := congrArg (fun text : String ↦ text.toList.length) heq
    have hle := hprefix.length_le
    have hseven : "family:".toList.length = 7 := rfl
    simp only [String.toList_ofList, List.length_drop, String.length_toList] at hlength hle hseven
    omega
  · rename_i hprefix
    exact iff_of_true rfl hprefix

namespace NegRiskLiveExecutionRecord

variable (record : NegRiskLiveExecutionRecord) (runSessionId : Option String)

/-- The rows of the record are built, and pass the checks of the store. -/
def RowsPass : Prop :=
  ∃ entry, record.liveSubmissionEntry runSessionId = .ok entry ∧
    validateLiveSubmissionRecordRow entry.submission = .ok () ∧
    validateLiveSubmissionRecordAgainstAttempt entry.submission entry.attempt.route
      entry.attempt.scope = .ok ()

variable {record runSessionId} {submissionRef : String}

theorem validate_liveSubmissionRow :
    validateLiveSubmissionRecordRow (record.liveSubmissionRow submissionRef) = .ok () ↔
      (trim submissionRef).isEmpty = false ∧ (trim record.scope).isEmpty = false ∧
        (trim record.route).isEmpty = false := by
  have hreason : (trim "submitted_for_execution").isEmpty = false := by decide
  have hprovider : (trim "venue-polymarket").isEmpty = false := by decide
  have hstate : (if record.pendingRef.isSome then "pending_reconcile" else "submitted") ∈
      LIVE_SUBMISSION_ALLOWED_STATES := by
    split <;> decide
  simp only [validateLiveSubmissionRecordRow, liveSubmissionRow, bind_eq_ok,
    requiredAnchorString_eq_ok_iff]
  constructor
  · rintro ⟨_, ⟨href, rfl⟩, _, ⟨hscope, rfl⟩, _, ⟨hroute, rfl⟩, -⟩
    exact ⟨href, hscope, hroute⟩
  · rintro ⟨href, hscope, hroute⟩
    refine ⟨_, ⟨href, rfl⟩, _, ⟨hscope, rfl⟩, _, ⟨hroute, rfl⟩, _, ⟨hreason, rfl⟩, ?_⟩
    simp [hprovider, hstate]

theorem validate_liveSubmissionRow_againstAttempt :
    validateLiveSubmissionRecordAgainstAttempt (record.liveSubmissionRow submissionRef) record.route
        record.scope = .ok () ↔
      (record.route = "neg-risk" → ¬ "family:".toList <+: record.scope.toList) := by
  rw [← withoutFamilyNamespace_eq_self_iff, eq_comm (b := record.scope)]
  have hsame : (record.liveSubmissionRow submissionRef).route = record.route ∧
      (record.liveSubmissionRow submissionRef).scope = record.scope := ⟨rfl, rfl⟩
  by_cases hroute : record.route = "neg-risk" <;>
    simp [validateLiveSubmissionRecordAgainstAttempt, hsame, hroute]

/-- An attempt row with what is checked of it. -/
theorem exists_executionAttemptRow (runSessionId : Option String)
    (hattemptNo : record.attemptNo ≤ 2147483647) :
    ∃ attempt, record.executionAttemptRow runSessionId = .ok attempt ∧
      attempt.attemptId = record.attemptId ∧ attempt.executionMode = record.executionMode ∧
      attempt.route = record.route ∧ attempt.scope = record.scope := by
  rw [executionAttemptRow, if_pos hattemptNo]
  exact ⟨_, rfl, rfl, rfl, rfl, rfl⟩

/-- The rows of a record pass if nothing in them is blank and the scope has no namespace. -/
theorem rowsPass_iff (hreference : record.reference = some submissionRef)
    (hattemptNo : record.attemptNo ≤ 2147483647) :
    record.RowsPass runSessionId ↔
      ((trim submissionRef).isEmpty = false ∧ (trim record.scope).isEmpty = false ∧
        (trim record.route).isEmpty = false) ∧
      (record.route = "neg-risk" → ¬ "family:".toList <+: record.scope.toList) := by
  obtain ⟨attempt, hattempt, -, -, hroute, hscope⟩ := exists_executionAttemptRow runSessionId hattemptNo
  have hentry : record.liveSubmissionEntry runSessionId =
      .ok { attempt, submission := record.liveSubmissionRow submissionRef } := by
    rw [liveSubmissionEntry, hreference, hattempt]
    rfl
  rw [RowsPass, hentry]
  simp only [Except.ok.injEq, exists_eq_left', hroute, hscope, validate_liveSubmissionRow,
    validate_liveSubmissionRow_againstAttempt]

/-- A database without the attempt and the submission takes the record if its rows pass. -/
theorem persists_iff_rowsPass {database : DurableDatabase}
    (hreference : record.reference = some submissionRef) (hattemptNo : record.attemptNo ≤ 2147483647)
    (hlive : record.executionMode = .live)
    (hattempts : database.attempts.get? record.attemptId = none)
    (hsubmissions : database.submissions.get? submissionRef = none) :
    (exec (persistLiveExecutionRecordsWithRunSessionId runSessionId [record]) database).1 = .ok ⟨⟩ ↔
      record.RowsPass runSessionId := by
  obtain ⟨attempt, hattempt, hid, hmode, hroute, hscope⟩ :=
    exists_executionAttemptRow runSessionId hattemptNo
  obtain ⟨middle, hmiddle, hadds⟩ := DurableDatabase.exists_insertAttempt?_eq_some (hid ▸ hattempts)
  have hmem : attempt ∈ middle.attempts.rows := by
    rw [hadds.attempts]
    simp
  obtain ⟨found, hfound, hsame⟩ := DurableDatabase.exists_attemptIn?_eq_some hmem
    ⟨hid, hmode.trans hlive⟩
  have hfree : middle.submissions.get? submissionRef = none := by
    rw [InsertionTable.get?_eq_none_iff] at hsubmissions ⊢
    rwa [hadds.submissions, List.append_nil]
  have happend : exec (appendExecutionAttempt attempt) database = (.ok ⟨⟩, middle) := by
    simp only [appendExecutionAttempt, exec_bind, exec_get, hmiddle, exec_set]
  have hsubmission : (exec (appendLiveSubmission (record.liveSubmissionRow submissionRef)) middle).1 =
      .ok ⟨⟩ ↔ record.RowsPass runSessionId := by
    rw [DurableDatabase.appendLiveSubmission_eq_ok_iff hfound hfree, hsame, hroute, hscope,
      validate_liveSubmissionRow, validate_liveSubmissionRow_againstAttempt,
      rowsPass_iff hreference hattemptNo]
  rw [← hsubmission]
  simp only [persistLiveExecutionRecordsWithRunSessionId, hreference, hattempt, exec_bind, exec_lift,
    happend]
  rcases exec (appendLiveSubmission (record.liveSubmissionRow submissionRef)) middle with ⟨_ | _, _⟩
  · exact Iff.rfl
  · exact Iff.rfl

end NegRiskLiveExecutionRecord

/-! ## What the rows are refused for -/

/-- The order is matched, or its id is not blank. -/
def OrderNamed (response : SubmitOrderResponse) : Prop :=
  response.statusText = "matched" ∨ (trim response.orderId).isEmpty = false

theorem isEmpty_trim_target_iff {response : SubmitOrderResponse} (haccepts : response.Accepts) :
    (trim response.target.value).isEmpty = false ↔ OrderNamed response := by
  rw [SubmitOrderResponse.target, OrderNamed]
  by_cases hmatched : response.statusText = "matched"
  · rw [if_pos hmatched]
    obtain ⟨tx, htx⟩ := Option.ne_none_iff_exists'.mp fun hnone ↦ haccepts.2 ⟨hmatched, hnone⟩
    rw [htx]
    exact iff_of_true (SubmitOrderResponse.of_pendingTx_eq_some htx).2 (.inl hmatched)
  · rw [if_neg hmatched, or_iff_right hmatched]
    exact Iff.rfl

/-- The reference of a record is the anchor of its outcome. -/
theorem reference_liveRecord {outcome : LiveSubmitOutcome} (haccepted : outcome.isAccepted)
    (attempt : ExecutionAttempt) (attemptContext : ExecutionAttemptContext) (planId : String)
    (requests : List String) :
    (liveRecord
      { attempt, attemptContext, receipt := receiptFromLiveSubmitOutcome attemptContext outcome }
      planId requests).reference = outcomeAnchorRef outcome := by
  match outcome, haccepted with
  | .accepted _, _ => rfl
  | .acceptedButUnconfirmed (some _) _, _ => rfl
  | .acceptedButUnconfirmed none _, _ => rfl

/-- A family that is accepted has the outcome of the first response. -/
theorem exists_firstAccepted_of_aggregated {attempt : ExecutionAttemptContext}
    {answers : List (Except String PolymarketSubmitResponse)} {outcome : LiveSubmitOutcome}
    (haccepted : outcome.isAccepted)
    (h : FamilySubmitAggregation.aggregated (answers.map (memberOutcome attempt)) =
      some (.ok outcome)) :
    ∃ first, firstAccepted answers = some first ∧ first.Accepts ∧
      outcomeAnchorRef outcome = some first.target.value := by
  obtain ⟨hhead, -⟩ := (FamilySubmitAggregation.aggregated_eq_accepted_iff haccepted).mp h
  obtain ⟨rest, hrest⟩ := List.head?_eq_some_iff.mp hhead
  cases answers with
  | nil => cases hrest
  | cons answer answers =>
      obtain ⟨hanswer, -⟩ := List.cons.inj hrest
      have hsome : FamilySubmitAggregation.acceptedOf (memberOutcome attempt answer) = some outcome :=
        FamilySubmitAggregation.acceptedOf_eq_some_iff.mpr ⟨hanswer, haccepted⟩
      cases hresponse : acceptedResponse answer with
      | none =>
          rw [acceptedOf_of_acceptedResponse_eq_none attempt hresponse] at hsome
          cases hsome
      | some first =>
          obtain ⟨heq, -⟩ := exists_acceptedOf_of_acceptedResponse attempt hresponse
          rw [heq] at hsome
          refine ⟨first, ?_, ?_, SubmitOrderResponse.outcomeAnchorRef_eq hsome⟩
          · rw [firstAccepted, List.findSome?_cons, hresponse]
          · exact SubmitOrderResponse.isSome_acceptedOf_iff.mp (Option.isSome_iff_exists.mpr ⟨_, hsome⟩)

/-- The id is not blank and has no namespace. -/
def StorableFamily (familyId : String) : Prop :=
  (trim familyId).isEmpty = false ∧ ¬ "family:".toList <+: familyId.toList

/-- The first order that the venue takes is one that can be named. -/
def PolymarketLiveExecutionBackend.NamesFirstOrder (backend : PolymarketLiveExecutionBackend)
    (printed : PrintedAs) (target : NegRiskFamilyLiveTarget) : Prop :=
  ∀ signed first, backend.signFamily (livePlan target) = .ok signed →
    firstAccepted (backend.answers printed signed) = some first → OrderNamed first

section Refused

variable {printed : PrintedAs} {sha256 : String → String} {backend : PolymarketLiveExecutionBackend}
  {snapshotId : String} {target : NegRiskFamilyLiveTarget} {matchedRuleId : String}
  {record : NegRiskLiveExecutionRecord}

/-- What a record takes from its target and from what the venue answered. -/
theorem record_of_executeLiveFamily
    (h : executeLiveFamily printed sha256 backend snapshotId target matchedRuleId = .ok record) :
    ∃ signed first, backend.signFamily (livePlan target) = .ok signed ∧
      firstAccepted (backend.answers printed signed) = some first ∧ first.Accepts ∧
      record.reference = some first.target.value ∧ record.route = "neg-risk" ∧
      record.scope = target.familyId ∧ record.executionMode = .live ∧ record.attemptNo = 1 := by
  obtain ⟨signed, outcome, executionRecord, requests, ⟨hsigned, hresult, rfl⟩, haccepted, -, rfl⟩ :=
    executeLiveFamily_eq_ok_iff.mp h
  obtain ⟨first, hfirst, haccepts, hanchor⟩ := exists_firstAccepted_of_aggregated haccepted hresult
  refine ⟨signed, first, hsigned, hfirst, haccepts, ?_, rfl, rfl, rfl, ?_⟩
  · rw [reference_liveRecord haccepted, hanchor]
  · rfl

theorem rowsPass_executeLiveFamily_iff {runSessionId : Option String}
    (h : executeLiveFamily printed sha256 backend snapshotId target matchedRuleId = .ok record) :
    record.RowsPass runSessionId ↔
      StorableFamily target.familyId ∧ backend.NamesFirstOrder printed target := by
  obtain ⟨signed, first, hsigned, hfirst, haccepts, hreference, hroute, hscope, -, hattemptNo⟩ :=
    record_of_executeLiveFamily h
  have hnames : backend.NamesFirstOrder printed target ↔ OrderNamed first := by
    constructor
    · exact fun hnames ↦ hnames signed first hsigned hfirst
    · rintro hnamed _ _ hsigned' hfirst'
      obtain rfl := Except.ok.inj (hsigned.symm.trans hsigned')
      obtain rfl := Option.some.inj (hfirst.symm.trans hfirst')
      exact hnamed
  have hblank : (trim "neg-risk").isEmpty = false := by decide
  rw [NegRiskLiveExecutionRecord.rowsPass_iff hreference (by omega), isEmpty_trim_target_iff haccepts,
    hnames, hroute, hscope, StorableFamily]
  constructor
  · rintro ⟨⟨hnamed, hfamily, -⟩, hnamespace⟩
    exact ⟨⟨hfamily, hnamespace rfl⟩, hnamed⟩
  · rintro ⟨⟨hfamily, hnamespace⟩, hnamed⟩
    exact ⟨⟨hnamed, hfamily, hblank⟩, fun _ ↦ hnamespace⟩

end Refused

def samplePrinted : PrintedAs :=
  { planningError := fun _ ↦ ""
    executionError := fun _ ↦ ""
    signingError := fun _ ↦ ""
    buildError := fun _ ↦ ""
    request := fun _ ↦ "" }

/-- Each order is taken at once. -/
def sampleBackend : PolymarketLiveExecutionBackend :=
  { signFamily := fun plan ↦ .ok { sampleFamily with planId := plan.planId }
    runOnSharedRuntime := fun _ _ ↦ .ok (.ok (sampleResponse "live" "order-1" []))
    transport := sampleTransport false }

def sampleSubmittedTarget (familyId : String) : NegRiskFamilyLiveTarget :=
  { familyId
    members := [{
      conditionId := "condition-1"
      tokenId := "15871154585880608648"
      price := ExecutionPlan.samplePrice
      quantity := ExecutionPlan.sampleQuantity }] }

theorem exists_sampleRecord (familyId : String) :
    ∃ record, executeLiveFamily samplePrinted id sampleBackend "snapshot-1"
      (sampleSubmittedTarget familyId) "rule-1" = .ok record := by
  have haccepts : (submitOrderResponseFromGateway (sampleResponse "live" "order-1" [])).Accepts :=
    ⟨rfl, fun hmatched ↦ absurd hmatched.1 (by decide +kernel)⟩
  have hsome : (FamilySubmitAggregation.acceptedOf (submitOrderResponseToOutcome
      (submitOrderResponseFromGateway (sampleResponse "live" "order-1" []))
      (liveAttempt id "snapshot-1" (sampleSubmittedTarget familyId) "rule-1").2)).isSome :=
    SubmitOrderResponse.isSome_acceptedOf_iff.mpr haccepts
  obtain ⟨outcome, houtcome⟩ := Option.isSome_iff_exists.mp hsome
  obtain ⟨hanswer, haccepted⟩ := FamilySubmitAggregation.acceptedOf_eq_some_iff.mp houtcome
  refine ⟨_, executeLiveFamily_eq_ok_iff.mpr
    ⟨_, outcome, _, _, ⟨rfl, ?_, rfl⟩, haccepted, rfl, rfl⟩⟩
  refine (FamilySubmitAggregation.aggregated_eq_accepted_iff haccepted).mpr ⟨congrArg some hanswer, ?_⟩
  intro result hresult
  obtain rfl := List.mem_singleton.mp hresult
  exact Option.isSome_iff_exists.mpr ⟨outcome, houtcome⟩

end AxiomArb.AppLive
