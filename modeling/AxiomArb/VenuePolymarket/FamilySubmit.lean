import AxiomArb.AppLive.PendingRefs
import AxiomArb.Domain.Submission
import AxiomArb.VenuePolymarket.SignedOrder

/-!
# Submitting a family

The members of a family are submitted one by one and their results are put together.  A
response is an outcome by its status, and an accepted order may end in an error there: one
that is matched and names no transaction.

## Honest boundary

* A gateway may answer each call in any way; its errors, and those of a request that is
  not built, are texts.
* Calls to a shared runtime differ from direct ones by a further error.
-/

namespace AxiomArb.VenuePolymarket

open Domain Library Execution
open AppLive (trim txPendingRef orderPendingRef)

def PROVIDER_NAME : String := "polymarket"

/-! ## Responses -/

structure PolymarketSubmitResponse where
  orderId : String
  status : String
  success : Bool
  errorMessage : Option String
  transactionHashes : List String
deriving DecidableEq, Repr

structure SubmitOrderResponse where
  success : Bool
  orderId : String
  status : String
  transactionHashes : List String
  errorMsg : String
deriving DecidableEq, Repr

def submitOrderResponseFromGateway (response : PolymarketSubmitResponse) : SubmitOrderResponse :=
  { success := response.success
    orderId := response.orderId
    status := response.status
    transactionHashes := response.transactionHashes
    errorMsg := response.errorMessage.getD "" }

def submissionRecord (submissionRef : String) (attempt : ExecutionAttemptContext) :
    LiveSubmissionRecord :=
  { submissionRef
    attemptId := attempt.attemptId
    route := attempt.route
    scope := attempt.scope
    provider := PROVIDER_NAME }

def submitRejectionReason (response : SubmitOrderResponse) : String :=
  let status := trim response.status
  let errorMsg := trim response.errorMsg
  if !errorMsg.isEmpty then
    s!"polymarket rejected order {response.orderId}: {errorMsg}"
  else if !status.isEmpty then
    s!"polymarket rejected order {response.orderId} with status {status}"
  else
    s!"polymarket rejected order {response.orderId}"

namespace SubmitOrderResponse

variable (response : SubmitOrderResponse)

/-- The status as it is compared. -/
def statusText : String := (trim response.status).toLower

/-- The first transaction that is named. -/
def pendingTx : Option String :=
  (response.transactionHashes.map trim).find? fun hash ↦ !hash.isEmpty

end SubmitOrderResponse

def submitOrderResponseToOutcome (response : SubmitOrderResponse)
    (attempt : ExecutionAttemptContext) : Except String LiveSubmitOutcome :=
  if !response.success then
    .ok (.rejectedDefinitive (submitRejectionReason response))
  else
    match response.statusText with
    | "live" | "unmatched" | "delayed" => .ok (.accepted (submissionRecord response.orderId attempt))
    | "matched" =>
        match response.pendingTx with
        | none => .error "matched polymarket response missing transactionsHashes"
        | some pendingTx =>
            .ok (.acceptedButUnconfirmed (some (submissionRecord pendingTx attempt))
              (txPendingRef pendingTx))
    | _ =>
        .ok (.acceptedButUnconfirmed (some (submissionRecord response.orderId attempt))
          (orderPendingRef response.orderId))

def outcomeReason : LiveSubmitOutcome → String
  | .accepted record => s!"member accepted with submission ref {record.submissionRef}"
  | .acceptedButUnconfirmed (some record) pendingRef =>
      s!"member accepted but unconfirmed with submission ref {record.submissionRef} and pending ref {pendingRef}"
  | .acceptedButUnconfirmed none pendingRef =>
      s!"member accepted but unconfirmed with pending ref {pendingRef}"
  | .rejectedDefinitive reason => reason
  | .ambiguous pendingRef reason => s!"{reason} (pending ref {pendingRef})"

def outcomeAnchorRef : LiveSubmitOutcome → Option String
  | .accepted record => some record.submissionRef
  | .acceptedButUnconfirmed record pendingRef =>
      (record.map LiveSubmissionRecord.submissionRef).or (some pendingRef)
  | .rejectedDefinitive _ | .ambiguous _ _ => none

/-! ## Aggregation -/

inductive FamilySubmitFailure where
  | outcome (reason : String)
  | error (reason : String)
deriving DecidableEq, Repr

def FamilySubmitFailure.reason : FamilySubmitFailure → String
  | outcome reason | error reason => reason

structure FamilySubmitAggregation where
  totalMembers : Nat
  successCount : Nat
  firstSuccess : Option LiveSubmitOutcome
  firstFailure : Option FamilySubmitFailure
deriving DecidableEq, Repr

namespace FamilySubmitAggregation

def new (totalMembers : Nat) : FamilySubmitAggregation :=
  { totalMembers, successCount := 0, firstSuccess := none, firstFailure := none }

variable (aggregate : FamilySubmitAggregation)

def record (result : Except String LiveSubmitOutcome) : FamilySubmitAggregation :=
  match result with
  | .ok outcome =>
      if outcome.isAccepted then
        { aggregate with
          successCount := aggregate.successCount + 1
          firstSuccess := aggregate.firstSuccess.or (some outcome) }
      else
        { aggregate with
          firstFailure := aggregate.firstFailure.or (some (.outcome (outcomeReason outcome))) }
  | .error reason =>
      { aggregate with firstFailure := aggregate.firstFailure.or (some (.error reason)) }

/-- The result of the family; there is none where the source would panic. -/
def finish : Option (Except String LiveSubmitOutcome) :=
  if aggregate.totalMembers = 0 then
    some (.error "polymarket live submit requires at least one signed family member")
  else if aggregate.successCount = aggregate.totalMembers then
    aggregate.firstSuccess.map .ok
  else if 0 < aggregate.successCount then do
    let firstSuccess ← aggregate.firstSuccess
    let pendingRef ← outcomeAnchorRef firstSuccess
    let reason := match aggregate.firstFailure with
      | some failure => failure.reason
      | none => "family submit failed after partial success"
    return .ok (.ambiguous pendingRef
      s!"submitted {aggregate.successCount}/{aggregate.totalMembers} polymarket family members before failure: {reason}")
  else
    match aggregate.firstFailure with
    | some (.outcome reason) => some (.ok (.rejectedDefinitive reason))
    | some (.error reason) => some (.error reason)
    | none => some (.error "polymarket live submit failed without capturing a member result")

/-! What the results so far amount to. -/

/-- The outcome of a result that counts as a success. -/
def acceptedOf : Except String LiveSubmitOutcome → Option LiveSubmitOutcome
  | .ok outcome => if outcome.isAccepted then some outcome else none
  | .error _ => none

/-- What a result that is no success failed with. -/
def failureOf : Except String LiveSubmitOutcome → Option FamilySubmitFailure
  | .ok outcome => if outcome.isAccepted then none else some (.outcome (outcomeReason outcome))
  | .error reason => some (.error reason)

variable {aggregate} {result : Except String LiveSubmitOutcome} {outcome : LiveSubmitOutcome}

theorem acceptedOf_eq_some_iff :
    acceptedOf result = some outcome ↔ result = .ok outcome ∧ outcome.isAccepted := by
  cases result with
  | error reason => simp [acceptedOf]
  | ok other =>
      rw [acceptedOf]
      by_cases h : other.isAccepted
      · rw [if_pos h, Option.some.injEq, Except.ok.injEq]
        exact ⟨fun heq ↦ ⟨heq, heq ▸ h⟩, And.left⟩
      · rw [if_neg h, Except.ok.injEq]
        exact ⟨nofun, fun heq ↦ absurd heq.2 (heq.1 ▸ h)⟩

theorem record_of_some (h : acceptedOf result = some outcome) :
    aggregate.record result =
      { aggregate with
        successCount := aggregate.successCount + 1
        firstSuccess := aggregate.firstSuccess.or (some outcome) } := by
  obtain ⟨rfl, haccepted⟩ := acceptedOf_eq_some_iff.mp h
  exact if_pos haccepted

theorem record_of_none (h : acceptedOf result = none) :
    ∃ failure, failureOf result = some failure ∧
      aggregate.record result =
        { aggregate with firstFailure := aggregate.firstFailure.or (some failure) } := by
  cases result with
  | error reason => exact ⟨_, rfl, rfl⟩
  | ok outcome =>
      have hrejected : ¬ outcome.isAccepted := fun haccepted ↦ by
        simp [acceptedOf, haccepted] at h
      exact ⟨_, if_neg hrejected, if_neg hrejected⟩

/-- The aggregation holds the first success, the first failure and the number of successes. -/
theorem foldl_record (results : List (Except String LiveSubmitOutcome))
    (aggregate : FamilySubmitAggregation) :
    results.foldl record aggregate =
      { totalMembers := aggregate.totalMembers
        successCount := aggregate.successCount + results.countP fun result ↦ (acceptedOf result).isSome
        firstSuccess := aggregate.firstSuccess.or (results.findSome? acceptedOf)
        firstFailure := aggregate.firstFailure.or
          ((results.filter fun result ↦ (acceptedOf result).isNone).findSome? failureOf) } := by
  induction results generalizing aggregate with
  | nil => simp
  | cons result results ih =>
      rw [List.foldl_cons, ih]
      cases h : acceptedOf result with
      | some outcome =>
          rw [record_of_some h]
          simp [h, Nat.add_assoc, Nat.add_comm 1]
      | none =>
          have hfailed : ∃ failure, failureOf result = some failure ∧
              aggregate.record result =
                { aggregate with firstFailure := aggregate.firstFailure.or (some failure) } :=
            record_of_none h
          obtain ⟨failure, hfailure, hrecord⟩ := hfailed
          rw [hrecord]
          simp [h, hfailure]

variable {results : List (Except String LiveSubmitOutcome)}

/-- The result of a family with these results of its members. -/
def aggregated (results : List (Except String LiveSubmitOutcome)) :
    Option (Except String LiveSubmitOutcome) :=
  (results.foldl record (new results.length)).finish

/-- An accepted outcome has an anchor. -/
theorem exists_outcomeAnchorRef (h : outcome.isAccepted) :
    ∃ pendingRef, outcomeAnchorRef outcome = some pendingRef := by
  match outcome, h with
  | .accepted record, _ => exact ⟨record.submissionRef, rfl⟩
  | .acceptedButUnconfirmed (some record) _, _ => exact ⟨record.submissionRef, rfl⟩
  | .acceptedButUnconfirmed none pendingRef, _ => exact ⟨pendingRef, rfl⟩

/-- If every member is accepted, the first of them is the result. -/
theorem aggregated_of_all {outcome : LiveSubmitOutcome}
    (hfirst : results.findSome? acceptedOf = some outcome)
    (hall : ∀ result ∈ results, (acceptedOf result).isSome) :
    aggregated results = some (.ok outcome) := by
  have hcount : (results.countP fun result ↦ (acceptedOf result).isSome) = results.length :=
    List.countP_eq_length.mpr hall
  have hlength : results.length ≠ 0 := by
    intro hlength
    rw [List.length_eq_zero_iff.mp hlength] at hfirst
    cases hfirst
  rw [aggregated, foldl_record]
  simp [finish, new, hcount, hlength, hfirst]

/-- If some members are accepted and some are not, the anchor of the first accepted one is the
reference of the result. -/
theorem aggregated_of_partial {outcome : LiveSubmitOutcome} {pendingRef : String}
    (hfirst : results.findSome? acceptedOf = some outcome)
    (hanchor : outcomeAnchorRef outcome = some pendingRef)
    (hnone : ∃ result ∈ results, acceptedOf result = none) :
    ∃ reason, aggregated results = some (.ok (.ambiguous pendingRef reason)) := by
  obtain ⟨failed, hfailed, hfailure⟩ := hnone
  obtain ⟨accepted, haccepted, hsome⟩ := List.exists_of_findSome?_eq_some hfirst
  have hlt : (results.countP fun result ↦ (acceptedOf result).isSome) < results.length := by
    refine lt_of_le_of_ne List.countP_le_length fun hcount ↦ ?_
    have hall := List.countP_eq_length.mp hcount failed hfailed
    rw [hfailure] at hall
    cases hall
  have hpos : 0 < results.countP fun result ↦ (acceptedOf result).isSome :=
    List.countP_pos_iff.mpr ⟨accepted, haccepted, by rw [hsome]; rfl⟩
  rw [aggregated, foldl_record]
  simp [finish, new, hfirst, hanchor, hlt.ne, hpos, (hpos.trans hlt).ne']

/-- If no member is accepted, the result is a rejection or an error. -/
theorem aggregated_of_none (hnone : ∀ result ∈ results, acceptedOf result = none) :
    (∃ reason, aggregated results = some (.ok (.rejectedDefinitive reason))) ∨
      ∃ reason, aggregated results = some (.error reason) := by
  have hcount : (results.countP fun result ↦ (acceptedOf result).isSome) = 0 := by
    rw [List.countP_eq_zero]
    intro result hresult
    simp [hnone result hresult]
  rw [aggregated, foldl_record]
  simp only [finish, new, hcount, Nat.add_zero]
  by_cases hlength : results.length = 0
  · exact .inr ⟨_, if_pos hlength⟩
  · rw [if_neg hlength, if_neg (Ne.symm hlength), if_neg (Nat.lt_irrefl 0)]
    split
    · exact .inl ⟨_, rfl⟩
    · exact .inr ⟨_, rfl⟩
    · exact .inr ⟨_, rfl⟩

/-- What results amount to: all are accepted, some are, or none is. -/
inductive AmountsTo (results : List (Except String LiveSubmitOutcome)) :
    Option (Except String LiveSubmitOutcome) → Prop
  | all (first : LiveSubmitOutcome) (hfirst : results.findSome? acceptedOf = some first)
      (hall : ∀ result ∈ results, (acceptedOf result).isSome) : AmountsTo results (some (.ok first))
  | part (first : LiveSubmitOutcome) (hfirst : results.findSome? acceptedOf = some first)
      (pendingRef reason : String) (hanchor : outcomeAnchorRef first = some pendingRef)
      (hnone : ∃ result ∈ results, acceptedOf result = none) :
      AmountsTo results (some (.ok (.ambiguous pendingRef reason)))
  | rejected (reason : String) (hnone : ∀ result ∈ results, acceptedOf result = none) :
      AmountsTo results (some (.ok (.rejectedDefinitive reason)))
  | failed (reason : String) (hnone : ∀ result ∈ results, acceptedOf result = none) :
      AmountsTo results (some (.error reason))

theorem isAccepted_of_findSome? {outcome : LiveSubmitOutcome}
    (hfirst : results.findSome? acceptedOf = some outcome) :
    .ok outcome ∈ results ∧ outcome.isAccepted := by
  obtain ⟨result, hresult, hsome⟩ := List.exists_of_findSome?_eq_some hfirst
  obtain ⟨rfl, haccepted⟩ := acceptedOf_eq_some_iff.mp hsome
  exact ⟨hresult, haccepted⟩

theorem amountsTo (results : List (Except String LiveSubmitOutcome)) :
    AmountsTo results (aggregated results) := by
  cases hfirst : results.findSome? acceptedOf with
  | none =>
      have hnone := List.findSome?_eq_none_iff.mp hfirst
      rcases aggregated_of_none hnone with ⟨reason, h⟩ | ⟨reason, h⟩
      · rw [h]
        exact .rejected reason hnone
      · rw [h]
        exact .failed reason hnone
  | some first =>
      by_cases hall : ∀ result ∈ results, (acceptedOf result).isSome
      · rw [aggregated_of_all hfirst hall]
        exact .all first hfirst hall
      · have hnone : ∃ result ∈ results, acceptedOf result = none := by
          simpa using hall
        obtain ⟨pendingRef, hanchor⟩ := exists_outcomeAnchorRef (isAccepted_of_findSome? hfirst).2
        obtain ⟨reason, h⟩ := aggregated_of_partial hfirst hanchor hnone
        rw [h]
        exact .part first hfirst pendingRef reason hanchor hnone

/-- The source does not panic. -/
theorem isSome_aggregated (results : List (Except String LiveSubmitOutcome)) :
    (aggregated results).isSome := by
  have hamounts := amountsTo results
  generalize aggregated results = result at hamounts
  cases hamounts <;> rfl

/-- The result is an accepted outcome if and only if there are results, all are accepted, and
it is the first of them. -/
theorem aggregated_eq_accepted_iff {outcome : LiveSubmitOutcome} (haccepted : outcome.isAccepted) :
    aggregated results = some (.ok outcome) ↔
      results.head? = some (.ok outcome) ∧ ∀ result ∈ results, (acceptedOf result).isSome := by
  constructor
  · intro h
    have hamounts := amountsTo results
    rw [h] at hamounts
    cases hamounts with
    | part _ _ _ _ _ _ | rejected _ _ => cases haccepted
    | all _ hfirst hall =>
        refine ⟨?_, hall⟩
        cases results with
        | nil => cases hfirst
        | cons result results =>
            obtain ⟨other, hother⟩ := Option.isSome_iff_exists.mp (hall result List.mem_cons_self)
            rw [List.findSome?_cons, hother] at hfirst
            cases hfirst
            rw [List.head?_cons, (acceptedOf_eq_some_iff.mp hother).1]
  · rintro ⟨hhead, hall⟩
    refine aggregated_of_all ?_ hall
    obtain ⟨rest, rfl⟩ := List.head?_eq_some_iff.mp hhead
    rw [List.findSome?_cons, acceptedOf_eq_some_iff.mpr ⟨rfl, haccepted⟩]

end FamilySubmitAggregation

/-! ## Submission -/

section Submission

variable (buildErrorText : PostOrderBuildError → String) (transport : PostOrderTransport)
  (attempt : ExecutionAttemptContext)

/-- What the venue answers for a member. -/
def memberAnswer (call : PolymarketSignedOrder → Except String PolymarketSubmitResponse)
    (member : SignedFamilyMember) : Except String PolymarketSubmitResponse := do
  let submission ← (buildPostOrderRequestFromSignedMember member transport).mapError fun err ↦
    s!"order build error: {buildErrorText err}"
  let gatewayOrder ← polymarketSignedOrderFromSubmission submission
  call gatewayOrder

def memberOutcome (answer : Except String PolymarketSubmitResponse) : Except String LiveSubmitOutcome := do
  let response ← answer
  submitOrderResponseToOutcome (submitOrderResponseFromGateway response) attempt

/-- Submit the members in turn, each with its own call of the gateway. -/
def submitFamilyWith (call : Nat → PolymarketSignedOrder → Except String PolymarketSubmitResponse)
    (signed : SignedFamilySubmission) : Option (Except String LiveSubmitOutcome) :=
  (signed.members.zipIdx.foldl (fun aggregate (member, n) ↦
      aggregate.record (memberOutcome attempt (memberAnswer buildErrorText transport (call n) member)))
    (FamilySubmitAggregation.new signed.members.length)).finish

/-- A direct call. -/
def gatewayCall (submitOrder : PolymarketSignedOrder → Except String PolymarketSubmitResponse)
    (gatewayOrder : PolymarketSignedOrder) : Except String PolymarketSubmitResponse :=
  (submitOrder gatewayOrder).mapError fun err ↦ s!"submit gateway error: {err}"

/-- A call on the shared runtime, which may itself fail. -/
def gatewayRuntimeCall
    (runOnSharedRuntime : PolymarketSignedOrder → Except String (Except String PolymarketSubmitResponse))
    (gatewayOrder : PolymarketSignedOrder) : Except String PolymarketSubmitResponse := do
  let answered ← (runOnSharedRuntime gatewayOrder).mapError fun err ↦
    s!"submit shared runtime error: {err}"
  answered.mapError fun err ↦ s!"submit gateway error: {err}"

def submitFamilyAsync
    (submitOrder : Nat → PolymarketSignedOrder → Except String PolymarketSubmitResponse) :
    SignedFamilySubmission → Option (Except String LiveSubmitOutcome) :=
  submitFamilyWith buildErrorText transport attempt fun n ↦ gatewayCall (submitOrder n)

def submitFamilyViaGatewayRuntime
    (runOnSharedRuntime : Nat → PolymarketSignedOrder →
      Except String (Except String PolymarketSubmitResponse)) :
    SignedFamilySubmission → Option (Except String LiveSubmitOutcome) :=
  submitFamilyWith buildErrorText transport attempt fun n ↦ gatewayRuntimeCall (runOnSharedRuntime n)

end Submission

/-! ## What a response comes to -/

namespace SubmitOrderResponse

/-- The order rests on the book, as far as its status goes. -/
def Rests (response : SubmitOrderResponse) : Prop :=
  response.statusText = "live" ∨ response.statusText = "unmatched" ∨ response.statusText = "delayed"

instance : DecidablePred Rests := fun response ↦
  inferInstanceAs (Decidable (response.statusText = "live" ∨ response.statusText = "unmatched" ∨
    response.statusText = "delayed"))

variable (response : SubmitOrderResponse) (attempt : ExecutionAttemptContext)

/-- What each kind of response comes to. -/
inductive ComesTo : Except String LiveSubmitOutcome → Prop
  | refused (h : response.success = false) :
      ComesTo (.ok (.rejectedDefinitive (submitRejectionReason response)))
  | resting (h : response.success = true) (hrests : response.Rests) :
      ComesTo (.ok (.accepted (submissionRecord response.orderId attempt)))
  | unnamed (h : response.success = true) (hmatched : response.statusText = "matched")
      (htx : response.pendingTx = none) :
      ComesTo (.error "matched polymarket response missing transactionsHashes")
  | matched (h : response.success = true) (hmatched : response.statusText = "matched")
      (tx : String) (htx : response.pendingTx = some tx) :
      ComesTo (.ok (.acceptedButUnconfirmed (some (submissionRecord tx attempt)) (txPendingRef tx)))
  | unconfirmed (h : response.success = true) (hrests : ¬ response.Rests)
      (hmatched : response.statusText ≠ "matched") :
      ComesTo (.ok (.acceptedButUnconfirmed (some (submissionRecord response.orderId attempt))
        (orderPendingRef response.orderId)))

theorem comesTo : response.ComesTo attempt (submitOrderResponseToOutcome response attempt) := by
  rw [submitOrderResponseToOutcome]
  by_cases h : response.success
  · rw [if_neg (by simp [h])]
    split
    case h_1 hstatus => exact .resting h (.inl hstatus)
    case h_2 hstatus => exact .resting h (.inr (.inl hstatus))
    case h_3 hstatus => exact .resting h (.inr (.inr hstatus))
    case h_4 hstatus =>
      split
      · rename_i htx
        exact .unnamed h hstatus htx
      · rename_i tx htx
        exact .matched h hstatus tx htx
    case h_5 hlive hunmatched hdelayed hmatched =>
      refine .unconfirmed h ?_ hmatched
      rintro (hstatus | hstatus | hstatus)
      · exact hlive hstatus
      · exact hunmatched hstatus
      · exact hdelayed hstatus
  · rw [if_pos (by simp [h])]
    exact .refused (Bool.eq_false_iff.mpr h)

/-- The venue says it took the order, and the order can be referred to. -/
def Accepts : Prop :=
  response.success = true ∧ ¬ (response.statusText = "matched" ∧ response.pendingTx = none)

variable {response attempt}

theorem ne_matched_of_rests (h : response.Rests) : response.statusText ≠ "matched" := by
  intro hmatched
  rcases h with hstatus | hstatus | hstatus <;>
    exact absurd (hmatched.symm.trans hstatus) (by decide)

theorem isSome_acceptedOf_iff :
    (FamilySubmitAggregation.acceptedOf (submitOrderResponseToOutcome response attempt)).isSome ↔
      response.Accepts := by
  have hcomes := response.comesTo attempt
  rw [Accepts]
  generalize submitOrderResponseToOutcome response attempt = result at hcomes
  cases hcomes with
  | refused h => simp [FamilySubmitAggregation.acceptedOf, LiveSubmitOutcome.isAccepted, h]
  | resting h hrests =>
      have hmatched := ne_matched_of_rests hrests
      simp [FamilySubmitAggregation.acceptedOf, LiveSubmitOutcome.isAccepted, h, hmatched]
  | unnamed h hmatched htx => simp [FamilySubmitAggregation.acceptedOf, hmatched, htx]
  | matched h hmatched tx htx =>
      simp [FamilySubmitAggregation.acceptedOf, LiveSubmitOutcome.isAccepted, h, htx]
  | unconfirmed h hrests hmatched =>
      simp [FamilySubmitAggregation.acceptedOf, LiveSubmitOutcome.isAccepted, h, hmatched]

end SubmitOrderResponse

/-! ## No accepted order is lost -/

section Reports

variable (attempt : ExecutionAttemptContext)

/-- The result is the outcome of a member that is accepted, or is ambiguous and refers to one. -/
def ReportsAcceptance (answers : List (Except String PolymarketSubmitResponse))
    (result : Option (Except String LiveSubmitOutcome)) : Prop :=
  ∃ outcome, .ok outcome ∈ answers.map (memberOutcome attempt) ∧ outcome.isAccepted ∧
    (result = some (.ok outcome) ∨ ∃ pendingRef reason,
      result = some (.ok (.ambiguous pendingRef reason)) ∧
        outcomeAnchorRef outcome = some pendingRef)

variable {attempt} {answers : List (Except String PolymarketSubmitResponse)}

/-- A family with an accepted member reports one. -/
theorem reportsAcceptance_iff :
    ReportsAcceptance attempt answers
        (FamilySubmitAggregation.aggregated (answers.map (memberOutcome attempt))) ↔
      ∃ response, .ok response ∈ answers ∧ (submitOrderResponseFromGateway response).Accepts := by
  have hmember : (∃ response, .ok response ∈ answers ∧
      (submitOrderResponseFromGateway response).Accepts) ↔
        ∃ result ∈ answers.map (memberOutcome attempt),
          (FamilySubmitAggregation.acceptedOf result).isSome := by
    constructor
    · rintro ⟨response, hresponse, haccepts⟩
      exact ⟨_, List.mem_map_of_mem hresponse, SubmitOrderResponse.isSome_acceptedOf_iff.mpr haccepts⟩
    · rintro ⟨result, hresult, haccepted⟩
      obtain ⟨answer, hanswer, rfl⟩ := List.mem_map.mp hresult
      cases answer with
      | error reason => cases haccepted
      | ok response => exact ⟨response, hanswer, SubmitOrderResponse.isSome_acceptedOf_iff.mp haccepted⟩
  rw [hmember]
  constructor
  · rintro ⟨outcome, houtcome, haccepted, -⟩
    refine ⟨.ok outcome, houtcome, ?_⟩
    rw [FamilySubmitAggregation.acceptedOf_eq_some_iff.mpr ⟨rfl, haccepted⟩]
    rfl
  · rintro ⟨result, hresult, haccepted⟩
    have hamounts := FamilySubmitAggregation.amountsTo (answers.map (memberOutcome attempt))
    generalize FamilySubmitAggregation.aggregated _ = final at hamounts
    cases hamounts with
    | all first hfirst hall =>
        obtain ⟨hmem, hfirstAccepted⟩ := FamilySubmitAggregation.isAccepted_of_findSome? hfirst
        exact ⟨first, hmem, hfirstAccepted, .inl rfl⟩
    | part first hfirst pendingRef reason hanchor _ =>
        obtain ⟨hmem, hfirstAccepted⟩ := FamilySubmitAggregation.isAccepted_of_findSome? hfirst
        exact ⟨first, hmem, hfirstAccepted, .inr ⟨pendingRef, reason, rfl, hanchor⟩⟩
    | rejected _ hnone | failed _ hnone =>
        rw [hnone result hresult] at haccepted
        cases haccepted

variable {buildErrorText : PostOrderBuildError → String} {transport : PostOrderTransport}
  {call : Nat → PolymarketSignedOrder → Except String PolymarketSubmitResponse}
  {signed : SignedFamilySubmission}

variable (buildErrorText transport call signed) in
/-- What the venue answers for the members of a family. -/
def familyAnswers : List (Except String PolymarketSubmitResponse) :=
  signed.members.zipIdx.map fun (member, n) ↦ memberAnswer buildErrorText transport (call n) member

theorem submitFamilyWith_eq : submitFamilyWith buildErrorText transport attempt call signed =
    FamilySubmitAggregation.aggregated
      ((familyAnswers buildErrorText transport call signed).map (memberOutcome attempt)) := by
  rw [submitFamilyWith, FamilySubmitAggregation.aggregated, familyAnswers, List.map_map,
    List.foldl_map, List.length_map, List.length_zipIdx]
  rfl

/-- An order that is matched without a transaction cannot be referred to. -/
def PolymarketSubmitResponse.Unnamed (response : PolymarketSubmitResponse) : Prop :=
  (trim response.status).toLower = "matched" ∧
    ∀ hash ∈ response.transactionHashes, (trim hash).isEmpty

theorem accepts_iff {response : PolymarketSubmitResponse} :
    (submitOrderResponseFromGateway response).Accepts ↔
      response.success = true ∧ ¬ response.Unnamed := by
  have htx : (submitOrderResponseFromGateway response).pendingTx = none ↔
      ∀ hash ∈ response.transactionHashes, (trim hash).isEmpty := by
    simp [SubmitOrderResponse.pendingTx, submitOrderResponseFromGateway]
  rw [SubmitOrderResponse.Accepts, htx]
  rfl

/-- **A family with an accepted order reports one**, if and only if one of the accepted orders
can be referred to. -/
theorem submitFamily_reportsAcceptance_iff (buildErrorText : PostOrderBuildError → String)
    (transport : PostOrderTransport) (attempt : ExecutionAttemptContext)
    (call : Nat → PolymarketSignedOrder → Except String PolymarketSubmitResponse)
    (signed : SignedFamilySubmission) :
    ((∃ response, .ok response ∈ familyAnswers buildErrorText transport call signed ∧
        response.success = true) →
      ReportsAcceptance attempt (familyAnswers buildErrorText transport call signed)
        (submitFamilyWith buildErrorText transport attempt call signed)) ↔
    ((∃ response, .ok response ∈ familyAnswers buildErrorText transport call signed ∧
        response.success = true) →
      ∃ response, .ok response ∈ familyAnswers buildErrorText transport call signed ∧
        response.success = true ∧ ¬ response.Unnamed) := by
  refine imp_congr_right fun _ ↦ ?_
  rw [submitFamilyWith_eq, reportsAcceptance_iff]
  exact exists_congr fun response ↦ and_congr_right fun _ ↦ accepts_iff

def sampleResponse (status orderId : String) (transactionHashes : List String) :
    PolymarketSubmitResponse :=
  { orderId, status, success := true, errorMessage := none, transactionHashes }

def sampleFamily : SignedFamilySubmission :=
  { planId := "plan-1", members := [sampleSignedMember "718139292476"] }

def sampleContext : ExecutionAttemptContext :=
  { attemptId := "attempt-1"
    snapshotId := "snapshot-1"
    executionMode := .live
    route := "neg-risk"
    scope := "family-a"
    matchedRuleId := none }

/-- A family whose one order is matched at once, without a transaction, ends in an error. -/
theorem matched_order_lost :
    ¬ ∀ (buildErrorText : PostOrderBuildError → String) (transport : PostOrderTransport)
      (attempt : ExecutionAttemptContext)
      (submitOrder : Nat → PolymarketSignedOrder → Except String PolymarketSubmitResponse)
      (signed : SignedFamilySubmission),
      (∃ response, .ok response ∈ familyAnswers buildErrorText transport
          (fun n ↦ gatewayCall (submitOrder n)) signed ∧ response.success = true) →
        ReportsAcceptance attempt
          (familyAnswers buildErrorText transport (fun n ↦ gatewayCall (submitOrder n)) signed)
          (submitFamilyAsync buildErrorText transport attempt submitOrder signed) := by
  intro h
  have hanswers : familyAnswers (fun _ ↦ "") (sampleTransport false)
      (fun _ ↦ gatewayCall fun _ ↦ .ok (sampleResponse "matched" "order-1" [])) sampleFamily =
        [.ok (sampleResponse "matched" "order-1" [])] := rfl
  have hreports := h (fun _ ↦ "") (sampleTransport false) sampleContext
    (fun _ _ ↦ .ok (sampleResponse "matched" "order-1" [])) sampleFamily
    ⟨sampleResponse "matched" "order-1" [], hanswers ▸ List.mem_singleton_self _, rfl⟩
  rw [submitFamilyAsync, submitFamilyWith_eq, reportsAcceptance_iff, hanswers] at hreports
  obtain ⟨response, hresponse, haccepts⟩ := hreports
  obtain rfl := Except.ok.inj (List.mem_singleton.mp hresponse)
  exact (accepts_iff.mp haccepts).2 ⟨by decide +kernel, fun hash hhash ↦ nomatch hhash⟩

end Reports

end AxiomArb.VenuePolymarket
