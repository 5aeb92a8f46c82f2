import AxiomArb.VenuePolymarket.FamilySubmit

/-!
# What a submitted family is reconciled under

A single outcome names its order or transaction in the form that the reconcile provider
parses.  A family of which only a part is accepted is reported under the bare identifier of
its first accepted member, which is never parsed as that member; and a family that is
accepted as a whole is reported as its first member, whatever the others still wait for.
-/

namespace AxiomArb.VenuePolymarket

open Domain Library
open AppLive (trim trim_trim txPendingRef orderPendingRef parsePendingRef PendingRefTarget)
open FamilySubmitAggregation (acceptedOf aggregated)

/-! ## The transaction or order of a response -/

namespace SubmitOrderResponse

variable {response : SubmitOrderResponse} {attempt : ExecutionAttemptContext}

/-- The transaction of a matched order, and the order otherwise. -/
def target (response : SubmitOrderResponse) : PendingRefTarget :=
  if response.statusText = "matched" then .tx (response.pendingTx.getD "") else .order response.orderId

theorem of_pendingTx_eq_some {tx : String} (h : response.pendingTx = some tx) :
    trim tx = tx ∧ (trim tx).isEmpty = false := by
  obtain ⟨hash, -, rfl⟩ := List.mem_map.mp (List.mem_of_find?_eq_some h)
  have hblank := List.find?_some h
  rw [trim_trim]
  exact ⟨rfl, by simpa using hblank⟩

/-- The anchor of an accepted response is the bare identifier. -/
theorem outcomeAnchorRef_eq {outcome : LiveSubmitOutcome}
    (h : acceptedOf (submitOrderResponseToOutcome response attempt) = some outcome) :
    outcomeAnchorRef outcome = some response.target.value := by
  obtain ⟨houtcome, haccepted⟩ := FamilySubmitAggregation.acceptedOf_eq_some_iff.mp h
  have hcomes := response.comesTo attempt
  rw [houtcome] at hcomes
  cases hcomes with
  | refused _ => cases haccepted
  | resting _ hrests =>
      rw [target, if_neg (ne_matched_of_rests hrests)]
      rfl
  | matched _ hmatched tx htx =>
      rw [target, if_pos hmatched, htx]
      rfl
  | unconfirmed _ _ hmatched =>
      rw [target, if_neg hmatched]
      rfl

/-- What an accepted response waits for, if anything. -/
theorem pendingRef?_eq {outcome : LiveSubmitOutcome}
    (h : acceptedOf (submitOrderResponseToOutcome response attempt) = some outcome) :
    outcome.pendingRef? =
      if response.Rests then none
      else some (match response.target with
        | .tx tx => txPendingRef tx
        | .order orderId => orderPendingRef orderId) := by
  obtain ⟨houtcome, haccepted⟩ := FamilySubmitAggregation.acceptedOf_eq_some_iff.mp h
  have hcomes := response.comesTo attempt
  rw [houtcome] at hcomes
  cases hcomes with
  | refused _ => cases haccepted
  | resting _ hrests => exact (if_pos hrests).symm
  | matched _ hmatched tx htx =>
      rw [if_neg fun hrests ↦ ne_matched_of_rests hrests hmatched, target, if_pos hmatched, htx]
      rfl
  | unconfirmed _ hrests hmatched =>
      rw [if_neg hrests, target, if_neg hmatched]
      rfl

/-- The reference of an order is parsed as its id, short of blanks around it. -/
theorem parsePendingRef_orderPendingRef_eq_ok_iff {orderId : String} {target : PendingRefTarget} :
    parsePendingRef (orderPendingRef orderId) = .ok target ↔
      (trim orderId).isEmpty = false ∧ target = .order (trim orderId) := by
  cases hblank : (trim orderId).isEmpty with
  | false =>
      rw [AppLive.parsePendingRef_orderPendingRef hblank]
      simp [eq_comm (a := target)]
  | true =>
      have htext : orderPendingRef orderId = "order" ++ String.singleton ':' ++ orderId := rfl
      rw [parsePendingRef, htext, splitOnce_append (by decide)]
      simp [hblank]

end SubmitOrderResponse

/-! ## Families -/

open SubmitOrderResponse

variable {attempt : ExecutionAttemptContext} {answers : List (Except String PolymarketSubmitResponse)}

instance : DecidablePred SubmitOrderResponse.Accepts := fun response ↦
  inferInstanceAs (Decidable (response.success = true ∧
    ¬ (response.statusText = "matched" ∧ response.pendingTx = none)))

/-- The response of a member that is accepted. -/
def acceptedResponse : Except String PolymarketSubmitResponse → Option SubmitOrderResponse
  | .ok response =>
      if (submitOrderResponseFromGateway response).Accepts then
        some (submitOrderResponseFromGateway response)
      else none
  | .error _ => none

def firstAccepted (answers : List (Except String PolymarketSubmitResponse)) :
    Option SubmitOrderResponse := answers.findSome? acceptedResponse

theorem exists_acceptedOf_of_acceptedResponse (attempt : ExecutionAttemptContext)
    {answer : Except String PolymarketSubmitResponse} {response : SubmitOrderResponse}
    (h : acceptedResponse answer = some response) :
    memberOutcome attempt answer = submitOrderResponseToOutcome response attempt ∧
      ∃ outcome, acceptedOf (submitOrderResponseToOutcome response attempt) = some outcome := by
  cases answer with
  | error reason => cases h
  | ok received =>
      rw [acceptedResponse] at h
      split at h
      · rename_i haccepts
        rw [← Option.some.inj h]
        exact ⟨rfl, Option.isSome_iff_exists.mp (isSome_acceptedOf_iff.mpr haccepts)⟩
      · cases h

theorem acceptedOf_of_acceptedResponse_eq_none (attempt : ExecutionAttemptContext)
    {answer : Except String PolymarketSubmitResponse}
    (h : acceptedResponse answer = none) : acceptedOf (memberOutcome attempt answer) = none := by
  cases answer with
  | error reason => rfl
  | ok received =>
      rw [acceptedResponse] at h
      split at h
      · cases h
      · rename_i haccepts
        rw [← Option.not_isSome_iff_eq_none]
        exact fun hsome ↦ haccepts (isSome_acceptedOf_iff.mp hsome)

/-- The first accepted member gives the first accepted outcome. -/
theorem findSome?_acceptedOf (attempt : ExecutionAttemptContext) {first : SubmitOrderResponse}
    (h : firstAccepted answers = some first) :
    ∃ outcome, acceptedOf (submitOrderResponseToOutcome first attempt) = some outcome ∧
      (answers.map (memberOutcome attempt)).findSome? acceptedOf = some outcome := by
  induction answers with
  | nil => cases h
  | cons answer answers ih =>
      rw [firstAccepted, List.findSome?_cons] at h
      rw [List.map_cons, List.findSome?_cons]
      cases hanswer : acceptedResponse answer with
      | some response =>
          rw [hanswer] at h
          obtain rfl := Option.some.inj h
          obtain ⟨heq, outcome, houtcome⟩ := exists_acceptedOf_of_acceptedResponse attempt hanswer
          exact ⟨outcome, houtcome, by rw [heq, houtcome]⟩
      | none =>
          rw [hanswer] at h
          rw [acceptedOf_of_acceptedResponse_eq_none attempt hanswer]
          exact ih h

variable (attempt answers) in
/-- A reference of the result is parsed as the member it comes from, and there is one if a
member is accepted but unconfirmed. -/
structure Reconcilable (result : Option (Except String LiveSubmitOutcome)) : Prop where
  named : ∀ outcome pendingRef, result = some (.ok outcome) → outcome.pendingRef? = some pendingRef →
    ∃ response, firstAccepted answers = some response ∧
      parsePendingRef pendingRef = .ok response.target
  carried : (∃ record pendingRef,
      .ok (.acceptedButUnconfirmed record pendingRef) ∈ answers.map (memberOutcome attempt)) →
    ∃ outcome, result = some (.ok outcome) ∧ outcome.pendingRef?.isSome

variable (answers) in
/-- Either no member is accepted or all are.  If the first rests on the book, all do; if it is
neither that nor matched, its id is not blank and has no blanks around it. -/
structure ReconcilableWhen : Prop where
  whole : ∀ first, firstAccepted answers = some first →
    ∀ answer ∈ answers, (acceptedResponse answer).isSome
  resting : ∀ first, firstAccepted answers = some first → first.Rests →
    ∀ answer ∈ answers, ∀ response, acceptedResponse answer = some response → response.Rests
  ordered : ∀ first, firstAccepted answers = some first → ¬ first.Rests →
    first.statusText ≠ "matched" → first.orderId ≠ "" ∧ trim first.orderId = first.orderId

/-- A family that is accepted as a whole is reported as its first member. -/
theorem aggregated_of_whole (attempt : ExecutionAttemptContext) {first : SubmitOrderResponse}
    (hfirst : firstAccepted answers = some first)
    (hwhole : ∀ answer ∈ answers, (acceptedResponse answer).isSome) :
    ∃ outcome, acceptedOf (submitOrderResponseToOutcome first attempt) = some outcome ∧
      aggregated (answers.map (memberOutcome attempt)) = some (.ok outcome) := by
  obtain ⟨outcome, houtcome, hfound⟩ := findSome?_acceptedOf attempt hfirst
  refine ⟨outcome, houtcome, FamilySubmitAggregation.aggregated_of_all hfound fun result hresult ↦ ?_⟩
  obtain ⟨answer, hanswer, rfl⟩ := List.mem_map.mp hresult
  obtain ⟨response, hresponse⟩ := Option.isSome_iff_exists.mp (hwhole answer hanswer)
  obtain ⟨heq, accepted, haccepted⟩ := exists_acceptedOf_of_acceptedResponse attempt hresponse
  rw [heq, haccepted]
  rfl

/-- Without an accepted member there is no reference. -/
theorem aggregated_of_firstAccepted_eq_none (attempt : ExecutionAttemptContext)
    (hnone : firstAccepted answers = none) {outcome : LiveSubmitOutcome}
    (h : aggregated (answers.map (memberOutcome attempt)) = some (.ok outcome)) :
    outcome.pendingRef? = none := by
  have hall : ∀ result ∈ answers.map (memberOutcome attempt), acceptedOf result = none := by
    intro result hresult
    obtain ⟨answer, hanswer, rfl⟩ := List.mem_map.mp hresult
    exact acceptedOf_of_acceptedResponse_eq_none attempt (List.findSome?_eq_none_iff.mp hnone answer hanswer)
  rcases FamilySubmitAggregation.aggregated_of_none hall with ⟨reason, hrejected⟩ | ⟨reason, herror⟩
  · rw [hrejected] at h
    obtain rfl := Except.ok.inj (Option.some.inj h)
    rfl
  · rw [herror] at h
    cases Option.some.inj h

/-- An unconfirmed member is accepted and does not rest. -/
theorem exists_acceptedResponse_of_unconfirmed {record : Option LiveSubmissionRecord}
    {pendingRef : String}
    (h : .ok (.acceptedButUnconfirmed record pendingRef) ∈ answers.map (memberOutcome attempt)) :
    ∃ answer ∈ answers, ∃ response, acceptedResponse answer = some response ∧ ¬ response.Rests := by
  obtain ⟨answer, hanswer, houtcome⟩ := List.mem_map.mp h
  cases hresponse : acceptedResponse answer with
  | none =>
      have hnone := acceptedOf_of_acceptedResponse_eq_none attempt hresponse
      rw [houtcome] at hnone
      cases hnone
  | some response =>
      refine ⟨answer, hanswer, response, hresponse, fun hrests ↦ ?_⟩
      obtain ⟨heq, outcome, haccepted⟩ := exists_acceptedOf_of_acceptedResponse attempt hresponse
      have hpending := pendingRef?_eq haccepted
      rw [heq] at houtcome
      rw [houtcome] at haccepted
      obtain rfl := Option.some.inj haccepted
      rw [if_pos hrests] at hpending
      cases hpending

theorem ReconcilableWhen.reconcilable (h : ReconcilableWhen answers) :
    Reconcilable attempt answers (aggregated (answers.map (memberOutcome attempt))) := by
  constructor
  case named =>
    intro outcome pendingRef hresult hpending
    cases hfirst : firstAccepted answers with
    | none =>
        rw [aggregated_of_firstAccepted_eq_none attempt hfirst hresult] at hpending
        cases hpending
    | some first =>
        refine ⟨first, rfl, ?_⟩
        obtain ⟨reported, hreported, haggregated⟩ :=
          aggregated_of_whole attempt hfirst (h.whole first hfirst)
        obtain rfl := Except.ok.inj (Option.some.inj (hresult.symm.trans haggregated))
        rw [pendingRef?_eq hreported] at hpending
        split at hpending
        · cases hpending
        · rename_i hrests
          rw [← Option.some.inj hpending]
          obtain ⟨-, hcomes⟩ := isSome_acceptedOf_iff.mp (Option.isSome_iff_exists.mpr ⟨_, hreported⟩)
          by_cases hmatched : first.statusText = "matched"
          · obtain ⟨tx, htx⟩ := Option.ne_none_iff_exists'.mp fun hnone ↦ hcomes ⟨hmatched, hnone⟩
            obtain ⟨htrim, hblank⟩ := of_pendingTx_eq_some htx
            rw [target, if_pos hmatched, htx, Option.getD_some]
            rw [AppLive.parsePendingRef_txPendingRef hblank, htrim]
          · obtain ⟨hne, htrim⟩ := h.ordered first hfirst hrests hmatched
            rw [target, if_neg hmatched]
            refine parsePendingRef_orderPendingRef_eq_ok_iff.mpr ⟨?_, by rw [htrim]⟩
            rw [htrim]
            exact String.isEmpty_eq_false_iff.mpr hne
  case carried =>
    rintro ⟨record, pendingRef, hmember⟩
    obtain ⟨answer, hanswer, response, hresponse, hwaits⟩ :=
      exists_acceptedResponse_of_unconfirmed hmember
    obtain ⟨first, hfirst⟩ : ∃ first, firstAccepted answers = some first :=
      Option.isSome_iff_exists.mp (List.findSome?_isSome_iff.mpr
        ⟨answer, hanswer, by rw [hresponse]; rfl⟩)
    obtain ⟨reported, hreported, haggregated⟩ :=
      aggregated_of_whole attempt hfirst (h.whole first hfirst)
    refine ⟨reported, haggregated, ?_⟩
    rw [pendingRef?_eq hreported, if_neg]
    · rfl
    · exact fun hrests ↦ hwaits (h.resting first hfirst hrests answer hanswer response hresponse)

/-- **The references of a family's result lead back to its members**, exactly if the family is
of one of these kinds. -/
theorem aggregated_reconcilable_iff (attempt : ExecutionAttemptContext)
    (answers : List (Except String PolymarketSubmitResponse)) :
    Reconcilable attempt answers (aggregated (answers.map (memberOutcome attempt))) ↔
      ReconcilableWhen answers := by
  refine ⟨fun h ↦ ?_, ReconcilableWhen.reconcilable⟩
  have hwhole : ∀ first, firstAccepted answers = some first →
      ∀ answer ∈ answers, (acceptedResponse answer).isSome := by
    intro first hfirst answer hanswer
    by_contra hnone
    obtain ⟨outcome, hfound, hresult⟩ := findSome?_acceptedOf attempt hfirst
    have hfailed := acceptedOf_of_acceptedResponse_eq_none attempt
      (Option.not_isSome_iff_eq_none.mp hnone)
    -- the bare identifier is parsed as something shorter, if at all
    obtain ⟨reason, hambiguous⟩ := FamilySubmitAggregation.aggregated_of_partial hresult
      (outcomeAnchorRef_eq hfound) ⟨_, List.mem_map_of_mem hanswer, hfailed⟩
    obtain ⟨response, hresponse, hparsed⟩ := h.named _ _ hambiguous rfl
    obtain rfl := Option.some.inj (hfirst.symm.trans hresponse)
    exact absurd (AppLive.length_value_lt_of_parsePendingRef hparsed) (Nat.lt_irrefl _)
  refine ⟨hwhole, fun first hfirst hrests answer hanswer response hresponse ↦ ?_,
    fun first hfirst hrests hmatched ↦ ?_⟩
  · by_contra hwaits
    obtain ⟨reported, hreported, haggregated⟩ :=
      aggregated_of_whole attempt hfirst (hwhole first hfirst)
    have hunconfirmed : ∃ record pendingRef,
        .ok (.acceptedButUnconfirmed record pendingRef) ∈ answers.map (memberOutcome attempt) := by
      obtain ⟨heq, outcome, haccepted⟩ := exists_acceptedOf_of_acceptedResponse attempt hresponse
      have hpending := pendingRef?_eq haccepted
      rw [if_neg hwaits] at hpending
      obtain ⟨houtcome, hisAccepted⟩ := FamilySubmitAggregation.acceptedOf_eq_some_iff.mp haccepted
      match outcome, hpending, hisAccepted with
      | .acceptedButUnconfirmed record pendingRef, _, _ =>
          exact ⟨record, pendingRef, List.mem_map.mpr ⟨answer, hanswer, heq.trans houtcome⟩⟩
    obtain ⟨outcome, houtcome, hsome⟩ := h.carried hunconfirmed
    obtain rfl := Except.ok.inj (Option.some.inj (houtcome.symm.trans haggregated))
    rw [pendingRef?_eq hreported, if_pos hrests] at hsome
    cases hsome
  · obtain ⟨reported, hreported, haggregated⟩ :=
      aggregated_of_whole attempt hfirst (hwhole first hfirst)
    have hpending := pendingRef?_eq hreported
    rw [if_neg hrests, target, if_neg hmatched] at hpending
    obtain ⟨response, hresponse, hparsed⟩ := h.named _ _ haggregated hpending
    obtain rfl := Option.some.inj (hfirst.symm.trans hresponse)
    rw [target, if_neg hmatched] at hparsed
    obtain ⟨hblank, htrim⟩ := parsePendingRef_orderPendingRef_eq_ok_iff.mp hparsed
    have hid : trim first.orderId = first.orderId := (PendingRefTarget.order.inj htrim).symm
    rw [hid] at hblank
    exact ⟨String.isEmpty_eq_false_iff.mp hblank, hid⟩

/-- An order that is accepted beside a member that fails is reported by its bare id, and one
without an id by a reference that names nothing. -/
theorem references_not_parsed :
    ¬ Reconcilable sampleContext [.ok (sampleResponse "live" "order-1" []), .error "timeout"]
        (aggregated ([.ok (sampleResponse "live" "order-1" []), .error "timeout"].map
          (memberOutcome sampleContext))) ∧
      ¬ Reconcilable sampleContext [.ok (sampleResponse "pending" "" [])]
        (aggregated ([.ok (sampleResponse "pending" "" [])].map (memberOutcome sampleContext))) := by
  constructor
  · intro h
    have hresult : aggregated ([.ok (sampleResponse "live" "order-1" []), .error "timeout"].map
        (memberOutcome sampleContext)) = some (.ok (.ambiguous "order-1"
          "submitted 1/2 polymarket family members before failure: timeout")) := by
      decide +kernel
    have hunparsed : parsePendingRef "order-1" =
        .error "unsupported pending_ref without namespace: order-1" := by decide +kernel
    obtain ⟨response, -, hparsed⟩ := h.named _ _ hresult rfl
    cases hunparsed.symm.trans hparsed
  · intro h
    have hresult : aggregated ([.ok (sampleResponse "pending" "" [])].map
        (memberOutcome sampleContext)) = some (.ok (.acceptedButUnconfirmed
          (some (submissionRecord "" sampleContext)) "order:")) := by
      decide +kernel
    have hunparsed : parsePendingRef "order:" =
        .error "pending_ref missing value: order:" := by decide +kernel
    obtain ⟨response, -, hparsed⟩ := h.named _ _ hresult rfl
    cases hunparsed.symm.trans hparsed

end AxiomArb.VenuePolymarket
