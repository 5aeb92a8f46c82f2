import AxiomArb.Execution.Plans
import AxiomArb.Domain.Runtime
import AxiomArb.Library.Framed

/-!
# What a plan id identifies

The id of a plan joins free identifiers with `:` and `|`.  A plan without members, or of
another kind, is known by its id; a plan of one member is unless one of its identifiers has
a colon; the id of a plan with more members is always that of a plan with one.  An attempt
is known by the digest of its request and its plan id, framed by a length.
-/

namespace AxiomArb.Domain

structure ExecutionRequest where
  requestId : String
  decisionInputId : String
  snapshotId : String
  route : String
  scope : String
  activationMode : ExecutionMode
  matchedRuleId : Option String
deriving DecidableEq, Repr

structure ExecutionAttempt where
  attemptId : String
  planId : String
  snapshotId : String
  attemptNo : Nat
deriving DecidableEq, Repr

structure ExecutionAttemptContext where
  attemptId : String
  snapshotId : String
  executionMode : ExecutionMode
  route : String
  scope : String
  matchedRuleId : Option String
deriving DecidableEq, Repr

end AxiomArb.Domain

namespace AxiomArb.Execution

open Domain Library

/-! ## Attempts -/

/-- The numbers of the last attempts, by plan id. -/
structure ExecutionAttemptFactory where
  nextAttemptNoByPlan : BTreeMap String Nat

namespace ExecutionAttemptFactory

def requestBoundPlanId (plan : ExecutionPlan) (request : ExecutionRequest) : String :=
  s!"request-bound:{request.requestId.utf8ByteSize}:{request.requestId}:{plan.planId}"

section Digest

variable (sha256 : String → String)

def attemptIdForPlanId (planId : String) (attemptNo : Nat) : String :=
  s!"request-bound:{sha256 planId}:attempt-{attemptNo}"

def requestBoundAttemptId (plan : ExecutionPlan) (request : ExecutionRequest) (attemptNo : Nat) :
    String :=
  attemptIdForPlanId sha256 (requestBoundPlanId plan request) attemptNo

def nextForPlan (factory : ExecutionAttemptFactory) (plan : ExecutionPlan)
    (request : ExecutionRequest) (executionMode : ExecutionMode) :
    (ExecutionAttempt × ExecutionAttemptContext) × ExecutionAttemptFactory :=
  let planId := requestBoundPlanId plan request
  let attemptNo := factory.nextAttemptNoByPlan[planId]?.getD 0 + 1
  let attemptId := attemptIdForPlanId sha256 planId attemptNo
  (({ attemptId, planId, snapshotId := request.snapshotId, attemptNo },
    { attemptId
      snapshotId := request.snapshotId
      executionMode
      route := request.route
      scope := request.scope
      matchedRuleId := request.matchedRuleId }),
    { nextAttemptNoByPlan := factory.nextAttemptNoByPlan.insert planId attemptNo })

/-- The factory gives attempt and context the id of the request, the plan and the number. -/
theorem attemptId_nextForPlan (factory : ExecutionAttemptFactory) (plan : ExecutionPlan)
    (request : ExecutionRequest) (executionMode : ExecutionMode) :
    let (attempt, context) := (factory.nextForPlan sha256 plan request executionMode).1
    attempt.attemptId = requestBoundAttemptId sha256 plan request attempt.attemptNo ∧
      context.attemptId = attempt.attemptId :=
  ⟨rfl, rfl⟩

end Digest

end ExecutionAttemptFactory

/-! ## Kinds of plans -/

namespace ExecutionPlan

/-- What the id of a plan begins with. -/
def tag : ExecutionPlan → String
  | fullSetBuyThenMerge _ => "fullset-buy-merge:"
  | fullSetSplitThenSell _ => "fullset-split-sell:"
  | cancelStale _ => "cancel-stale:"
  | redeemResolved _ => "redeem-resolved:"
  | negRiskSubmitFamily _ _ => "negrisk-submit-family:"

/-- What follows the tag. -/
def idBody : ExecutionPlan → String
  | fullSetBuyThenMerge conditionId | fullSetSplitThenSell conditionId | redeemResolved conditionId =>
      conditionId
  | cancelStale orderId => orderId
  | negRiskSubmitFamily familyId members =>
      familyId ++ ":" ++ membersText members

variable {plan plan' : ExecutionPlan}

theorem planId_eq (plan : ExecutionPlan) : plan.planId = plan.tag ++ plan.idBody := by
  cases plan with
  | negRiskSubmitFamily familyId members =>
      show "negrisk-submit-family:" ++ familyId ++ ":" ++ membersText members =
        "negrisk-submit-family:" ++ (familyId ++ ":" ++ membersText members)
      rw [String.append_assoc, String.append_assoc, String.append_assoc]
  | fullSetBuyThenMerge conditionId => exact rfl
  | fullSetSplitThenSell conditionId => exact rfl
  | cancelStale orderId => exact rfl
  | redeemResolved conditionId => exact rfl

/-- Ids of different kinds differ within their first nine characters. -/
theorem tag_eq_of_planId_eq (h : plan.planId = plan'.planId) : plan.tag = plan'.tag := by
  have hhead := congrArg (fun id : String ↦ id.toList.take 9) h
  simp only [planId_eq, String.toList_append] at hhead
  have htake : ∀ plan : ExecutionPlan, (plan.tag.toList ++ plan.idBody.toList).take 9 =
      plan.tag.toList.take 9 := fun plan ↦
    List.take_append_of_le_length (by cases plan <;> simp only [tag] <;> decide)
  rw [htake, htake] at hhead
  revert hhead
  cases plan <;> cases plan' <;> simp only [tag] <;> decide

theorem idBody_eq_of_planId_eq (h : plan.planId = plan'.planId) : plan.idBody = plan'.idBody := by
  have htag := tag_eq_of_planId_eq h
  rwa [planId_eq, planId_eq, htag, String.append_right_inj] at h

/-! ## Plans that go by one id -/

/-- The plan has members whose identifiers cannot be told from its id: two or more of
them, or one with a colon in an identifier. -/
def Ambiguous : ExecutionPlan → Prop
  | negRiskSubmitFamily _ [] => False
  | negRiskSubmitFamily familyId [member] =>
      ∃ identifier ∈ [familyId, member.conditionId, member.tokenId], ':' ∈ identifier.toList
  | negRiskSubmitFamily _ (_ :: _ :: _) => True
  | _ => False

section Members

variable {familyId familyId' : EventFamilyId} {members members' : List NegRiskMemberOrderPlan}
  {member : NegRiskMemberOrderPlan}

theorem same_negRiskSubmitFamily :
    (negRiskSubmitFamily familyId members).Same (negRiskSubmitFamily familyId' members') ↔
      familyId = familyId' ∧ (members.map NegRiskMemberOrderPlan.normalized).Perm
        (members'.map NegRiskMemberOrderPlan.normalized) := Iff.rfl

/-- Plans that are the same have one id. -/
theorem planId_eq_of_same (h : plan.Same plan') : plan.planId = plan'.planId := by
  cases plan with
  | negRiskSubmitFamily familyId members =>
      cases plan' with
      | negRiskSubmitFamily familyId' members' =>
          obtain ⟨rfl, hperm⟩ := same_negRiskSubmitFamily.mp h
          have hkeys := NegRiskMemberOrderPlan.map_sortKey_canonicalMembers_eq_iff.mpr hperm
          have htexts : ∀ members, (canonicalMembers members).map NegRiskMemberOrderPlan.idText =
              ((canonicalMembers members).map NegRiskMemberOrderPlan.sortKey).map
                ":".intercalate := fun members ↦ by
            rw [List.map_map]
            exact List.map_congr_left fun member _ ↦ member.idText_eq
          rw [planId_eq, planId_eq, tag, idBody, idBody, membersText, membersText, htexts, htexts, hkeys]
          rfl
      | fullSetBuyThenMerge _ | fullSetSplitThenSell _ | cancelStale _ | redeemResolved _ => cases h
  | fullSetBuyThenMerge _ | fullSetSplitThenSell _ | cancelStale _ | redeemResolved _ =>
      rw [show plan' = _ from Eq.symm h]

theorem canonicalMembers_singleton (member : NegRiskMemberOrderPlan) :
    canonicalMembers [member] = [member] := List.mergeSort_singleton member

theorem canonicalMembers_of_pairwise
    (h : members.Pairwise fun member member' ↦ (compare member.sortKey member'.sortKey).isLE) :
    canonicalMembers members = members := List.mergeSort_of_pairwise h

theorem membersText_singleton (member : NegRiskMemberOrderPlan) :
    membersText [member] = member.idText := by
  rw [membersText, canonicalMembers_singleton, List.map_singleton, String.intercalate_singleton]

theorem canonicalMembers_ne_nil (h : members ≠ []) : canonicalMembers members ≠ [] := by
  have hlength := (perm_sortByKey NegRiskMemberOrderPlan.sortKey members).length_eq
  intro hnil
  rw [show sortByKey _ members = [] from hnil] at hlength
  exact h (List.eq_nil_of_length_eq_zero hlength.symm)

/-- Members read as one member: what lies between the first identifier and the last two
decimals passes for its token. -/
theorem exists_idText_eq {listed : List NegRiskMemberOrderPlan} (h : listed ≠ []) :
    ∃ member : NegRiskMemberOrderPlan,
      member.idText = "|".intercalate (listed.map NegRiskMemberOrderPlan.idText) ∧
        (2 ≤ listed.length → ':' ∈ member.tokenId.toList) := by
  induction listed with
  | nil => exact absurd rfl h
  | cons first rest ih =>
      cases rest with
      | nil =>
          refine ⟨first, ?_, fun hlength ↦ absurd hlength (by simp)⟩
          rw [List.map_singleton, String.intercalate_singleton]
      | cons second rest =>
          obtain ⟨member, hmember, -⟩ := ih (List.cons_ne_nil second rest)
          have htext : ∀ text : String, toString text = text := fun text ↦ rfl
          refine ⟨{ member with
            conditionId := first.conditionId
            tokenId := s!"{first.tokenId}:{first.price.normalize.text}:{
              first.quantity.normalize.text}|{member.conditionId}:{member.tokenId}" }, ?_,
            fun _ ↦ by simp [htext]⟩
          rw [List.map_cons, List.map_cons, String.intercalate_cons_cons, ← List.map_cons, ← hmember]
          simp only [NegRiskMemberOrderPlan.idText, htext, String.append_assoc]

end Members

/-! ### Plans that their ids identify -/

section Colons

variable {familyId familyId' : EventFamilyId} {members members' : List NegRiskMemberOrderPlan}
  {member member' : NegRiskMemberOrderPlan}

theorem colon_notMem_text (d : ScaledDecimal) : ':' ∉ d.text.toList := by
  intro h
  rcases d.mem_text h with h | h | h <;> revert h <;> decide

/-- The body of the id of a plan with one member, as a list of its parts. -/
theorem toList_singleton_body (familyId : EventFamilyId) (member : NegRiskMemberOrderPlan) :
    (familyId ++ ":" ++ member.idText).toList =
      [':'].intercalate ((familyId :: member.sortKey).map String.toList) := by
  have hcolon : ":".toList = [':'] := rfl
  rw [← hcolon, ← String.toList_intercalate, NegRiskMemberOrderPlan.idText_eq]
  exact congrArg String.toList String.intercalate_cons_cons.symm

/-- A plan with one member is known by its id, among such plans, if none of its
identifiers has a colon. -/
theorem eq_of_singleton_body_eq
    (hfree : ∀ identifier ∈ [familyId, member.conditionId, member.tokenId],
      ':' ∉ identifier.toList)
    (h : familyId ++ ":" ++ member.idText = familyId' ++ ":" ++ member'.idText) :
    familyId = familyId' ∧ member.sortKey = member'.sortKey ∧ ':' ∉ member'.tokenId.toList := by
  have hcount : ∀ (familyId : EventFamilyId) (member : NegRiskMemberOrderPlan),
      (familyId ++ ":" ++ member.idText).toList.count ':' = familyId.toList.count ':' +
        member.conditionId.toList.count ':' + member.tokenId.toList.count ':' + 4 := by
    intro familyId member
    have hdecimal : ∀ d : ScaledDecimal, d.text.toList.count ':' = 0 := fun d ↦
      List.count_eq_zero.mpr (colon_notMem_text d)
    rw [toList_singleton_body]
    simp [NegRiskMemberOrderPlan.sortKey, List.intercalate, hdecimal]
    omega
  simp only [List.forall_mem_cons, List.count_eq_zero.symm] at hfree
  have hcolons := hcount familyId member
  rw [h, hcount, hfree.1, hfree.2.1, hfree.2.2.1] at hcolons
  have hpieces : (familyId :: member.sortKey).map String.toList =
      (familyId' :: member'.sortKey).map String.toList := by
    have hparts : ∀ (familyId : EventFamilyId) (member : NegRiskMemberOrderPlan),
        familyId.toList.count ':' = 0 → member.conditionId.toList.count ':' = 0 →
        member.tokenId.toList.count ':' = 0 →
        ∀ part ∈ (familyId :: member.sortKey).map String.toList, ':' ∉ part := by
      intro familyId member hfamily hcondition htoken
      simp only [NegRiskMemberOrderPlan.sortKey, List.map_cons, List.map_nil, List.forall_mem_cons]
      exact ⟨List.count_eq_zero.mp hfamily, List.count_eq_zero.mp hcondition,
        List.count_eq_zero.mp htoken, colon_notMem_text _, colon_notMem_text _, by simp⟩
    refine eq_of_pieces_eq (hparts _ _ hfree.1 hfree.2.1 hfree.2.2.1)
      (hparts _ _ (by omega) (by omega) (by omega)) ?_
    rw [← intercalate_eq_iff (by simp) (by simp), ← toList_singleton_body, ← toList_singleton_body, h]
  obtain ⟨hfamily, hkey⟩ := List.cons.inj ((List.map_injective_iff.mpr fun _ _ ↦ String.toList_injective) hpieces)
  exact ⟨hfamily, hkey, List.count_eq_zero.mp (by omega)⟩

/-- The id of a plan without members ends in a colon, and no other does. -/
theorem body_ne_of_nil : familyId ++ ":" ≠ familyId' ++ ":" ++ member.idText := by
  intro h
  have hlast := congrArg (fun text : String ↦ text.toList.getLast?) h
  have htext : (familyId' ++ ":" ++ member.idText).toList.getLast? =
      member.quantity.normalize.text.toList.getLast? := by
    simp only [NegRiskMemberOrderPlan.idText, String.toList_append, toString, List.getLast?_append]
    cases hquantity : member.quantity.normalize.text.toList.getLast? with
    | some last => rfl
    | none => exact absurd (List.getLast?_eq_none_iff.mp hquantity) member.quantity.normalize.text_ne_empty
  rw [htext, String.toList_append] at hlast
  have hcolon : ':' ∈ member.quantity.normalize.text.toList :=
    List.mem_of_getLast? (by rw [← hlast]; simp)
  exact colon_notMem_text _ hcolon

theorem exists_membersText_eq (h : members ≠ []) :
    ∃ member : NegRiskMemberOrderPlan, membersText members = member.idText ∧
      (2 ≤ members.length → ':' ∈ member.tokenId.toList) := by
  obtain ⟨member, htext, htoken⟩ := exists_idText_eq (canonicalMembers_ne_nil h)
  rw [← (perm_sortByKey NegRiskMemberOrderPlan.sortKey members).length_eq]
  exact ⟨member, htext.symm, htoken⟩

theorem same_of_body_eq (hplan : ¬ (negRiskSubmitFamily familyId members).Ambiguous)
    (h : familyId ++ ":" ++ membersText members = familyId' ++ ":" ++ membersText members') :
    (negRiskSubmitFamily familyId members).Same (negRiskSubmitFamily familyId' members') := by
  have hnil : membersText [] = "" := by
    rw [membersText, canonicalMembers, sortByKey, List.mergeSort_nil]
    rfl
  cases members with
  | nil =>
      rw [hnil, String.append_empty] at h
      cases members' with
      | nil =>
          rw [hnil, String.append_empty, String.append_left_inj] at h
          exact ⟨h, .refl _⟩
      | cons first rest =>
          obtain ⟨member', htext, -⟩ := exists_membersText_eq (List.cons_ne_nil first rest)
          rw [htext] at h
          exact absurd h body_ne_of_nil
  | cons member others =>
      cases others with
      | cons second rest => exact absurd trivial hplan
      | nil =>
          have hfree : ∀ identifier ∈ [familyId, member.conditionId, member.tokenId],
              ':' ∉ identifier.toList := by
            intro identifier hmem hcolon
            exact hplan ⟨identifier, hmem, hcolon⟩
          rw [membersText_singleton] at h
          cases members' with
          | nil =>
              rw [hnil, String.append_empty] at h
              exact absurd h.symm body_ne_of_nil
          | cons member' others' =>
              cases others' with
              | nil =>
                  rw [membersText_singleton] at h
                  obtain ⟨hfamily, hkey, -⟩ := eq_of_singleton_body_eq hfree h
                  rw [NegRiskMemberOrderPlan.sortKey_eq, NegRiskMemberOrderPlan.sortKey_eq] at hkey
                  refine ⟨hfamily, ?_⟩
                  rw [List.map_singleton, List.map_singleton,
                    NegRiskMemberOrderPlan.fields_injective hkey]
              | cons second rest =>
                  obtain ⟨last, htext, htoken⟩ :=
                    exists_membersText_eq (List.cons_ne_nil member' (second :: rest))
                  rw [htext] at h
                  exact absurd (htoken (by simp)) (eq_of_singleton_body_eq hfree h).2.2

end Colons

/-- A plan that is not ambiguous is known by its id. -/
theorem same_of_planId_eq (hplan : ¬ plan.Ambiguous) (h : plan.planId = plan'.planId) :
    plan.Same plan' := by
  have htag := tag_eq_of_planId_eq h
  have hbody := idBody_eq_of_planId_eq h
  cases plan with
  | negRiskSubmitFamily familyId members =>
      cases plan' with
      | negRiskSubmitFamily familyId' members' =>
          rw [idBody, idBody] at hbody
          exact same_of_body_eq hplan hbody
      | fullSetBuyThenMerge _ | fullSetSplitThenSell _ | cancelStale _ | redeemResolved _ =>
          exact absurd htag (by simp only [tag]; decide)
  | fullSetBuyThenMerge _ | fullSetSplitThenSell _ | cancelStale _ | redeemResolved _ =>
      cases plan' <;> first
        | exact congrArg _ hbody
        | exact absurd htag (by simp only [tag]; decide)

/-! ### Plans that share their ids -/

theorem exists_split {identifier : String} (h : ':' ∈ identifier.toList) :
    ∃ front back : String, identifier = front ++ ":" ++ back := by
  obtain ⟨front, back, hsplit⟩ := List.append_of_mem h
  refine ⟨String.ofList front, String.ofList back, String.ext ?_⟩
  simp [hsplit]

theorem planId_singleton (familyId : EventFamilyId) (member : NegRiskMemberOrderPlan) :
    (negRiskSubmitFamily familyId [member]).planId =
      "negrisk-submit-family:" ++ (familyId ++ ":" ++ member.idText) := by
  rw [planId_eq, tag, idBody, membersText_singleton]

/-- A colon in an identifier may be taken for the end of it. -/
theorem exists_other_singleton {familyId : EventFamilyId} {member : NegRiskMemberOrderPlan}
    {identifier : String} (hmem : identifier ∈ [familyId, member.conditionId, member.tokenId])
    (hcolon : ':' ∈ identifier.toList) :
    ∃ plan' : ExecutionPlan, (negRiskSubmitFamily familyId [member]).planId = plan'.planId ∧
      ¬ (negRiskSubmitFamily familyId [member]).Same plan' := by
  have htext : ∀ text : String, toString text = text := fun text ↦ rfl
  obtain ⟨conditionId, tokenId, price, quantity⟩ := member
  obtain ⟨front, back, rfl⟩ := exists_split hcolon
  simp only [List.mem_cons, List.not_mem_nil, or_false] at hmem
  rcases hmem with rfl | rfl | rfl
  · refine ⟨negRiskSubmitFamily front [⟨back ++ ":" ++ conditionId, tokenId, price, quantity⟩], ?_,
      fun hsame ↦ ne_append_colon hsame.1.symm⟩
    rw [planId_singleton, planId_singleton]
    simp only [NegRiskMemberOrderPlan.idText, htext, String.append_assoc]
  · refine ⟨negRiskSubmitFamily (familyId ++ ":" ++ front) [⟨back, tokenId, price, quantity⟩], ?_,
      fun hsame ↦ ne_append_colon hsame.1⟩
    rw [planId_singleton, planId_singleton]
    simp only [NegRiskMemberOrderPlan.idText, htext, String.append_assoc]
  · refine ⟨negRiskSubmitFamily familyId [⟨conditionId ++ ":" ++ front, back, price, quantity⟩], ?_,
      fun hsame ↦ ?_⟩
    · rw [planId_singleton, planId_singleton]
      simp only [NegRiskMemberOrderPlan.idText, htext, String.append_assoc]
    · have hmembers := List.singleton_perm_singleton.mp hsame.2
      exact ne_append_colon (congrArg NegRiskMemberOrderPlan.conditionId hmembers)

/-- An ambiguous plan shares its id with another plan. -/
theorem Ambiguous.exists_planId_eq (hplan : plan.Ambiguous) :
    ∃ plan' : ExecutionPlan, plan.planId = plan'.planId ∧ ¬ plan.Same plan' := by
  match plan, hplan with
  | negRiskSubmitFamily familyId [member], hplan =>
      obtain ⟨identifier, hmem, hcolon⟩ := hplan
      exact exists_other_singleton hmem hcolon
  | negRiskSubmitFamily familyId (first :: second :: rest), _ =>
      obtain ⟨member, htext, -⟩ := exists_membersText_eq (List.cons_ne_nil first (second :: rest))
      refine ⟨negRiskSubmitFamily familyId [member], ?_, fun hsame ↦ ?_⟩
      · rw [planId_singleton, ← htext]
        exact planId_eq _
      · exact absurd hsame.2.length_eq (by simp)

/-! ### The identity of a plan -/

/-- The id of the plan, and the id of each attempt of it, is that of no other plan. -/
def Identifies (sha256 : String → String) (plan : ExecutionPlan) : Prop :=
  ∀ plan' : ExecutionPlan, (plan.planId = plan'.planId ↔ plan.Same plan') ∧
    ∀ (request request' : ExecutionRequest) (attemptNo attemptNo' : Nat),
      ExecutionAttemptFactory.requestBoundAttemptId sha256 plan request attemptNo =
        ExecutionAttemptFactory.requestBoundAttemptId sha256 plan' request' attemptNo' →
      plan.Same plan'

/-- What binds a plan id to a request frames the id of the request. -/
theorem requestBound_eq_framed (requestId planId : String) :
    s!"request-bound:{requestId.utf8ByteSize}:{requestId}:{planId}" =
      "request-bound:" ++ (framed requestId ++ (":" ++ planId)) := by
  have htext : ∀ text : String, toString text = text := fun text ↦ rfl
  simp only [framed, htext, String.append_assoc]

theorem requestBoundPlanId_eq (plan : ExecutionPlan) (request : ExecutionRequest) :
    ExecutionAttemptFactory.requestBoundPlanId plan request =
      "request-bound:" ++ (framed request.requestId ++ (":" ++ plan.planId)) :=
  requestBound_eq_framed request.requestId plan.planId

/-- Request and plan are both known from the id that binds them. -/
theorem requestBoundPlanId_eq_iff {request request' : ExecutionRequest} :
    ExecutionAttemptFactory.requestBoundPlanId plan request =
        ExecutionAttemptFactory.requestBoundPlanId plan' request' ↔
      request.requestId = request'.requestId ∧ plan.planId = plan'.planId := by
  rw [requestBoundPlanId_eq, requestBoundPlanId_eq, String.append_right_inj]
  constructor
  · intro h
    obtain ⟨hrequest, hplan⟩ := framed_append_inj h
    exact ⟨hrequest, (String.append_right_inj ":").mp hplan⟩
  · rintro ⟨hrequest, hplan⟩
    rw [hrequest, hplan]

/-- The id of an attempt tells the plan id it counts under and its number. -/
theorem attemptIdForPlanId_inj {sha256 : String → String} (hsha : Function.Injective sha256)
    {planId planId' : String} {attemptNo attemptNo' : Nat}
    (h : ExecutionAttemptFactory.attemptIdForPlanId sha256 planId attemptNo =
      ExecutionAttemptFactory.attemptIdForPlanId sha256 planId' attemptNo') :
    planId = planId' ∧ attemptNo = attemptNo' := by
  have hattempt : ∀ (planId : String) (attemptNo : Nat),
      ExecutionAttemptFactory.attemptIdForPlanId sha256 planId attemptNo =
        "request-bound:" ++ (sha256 planId ++ ":attempt") ++ "-" ++ toString attemptNo := by
    intro planId attemptNo
    have hdash : ":attempt-" = ":attempt" ++ "-" := rfl
    show "request-bound:" ++ sha256 planId ++ ":attempt-" ++ toString attemptNo = _
    rw [hdash, ← String.append_assoc, ← String.append_assoc]
  rw [hattempt, hattempt] at h
  obtain ⟨hdigest, hnumber⟩ := append_number_inj h
  exact ⟨hsha ((String.append_left_inj ":attempt").mp
    ((String.append_right_inj "request-bound:").mp hdigest)), hnumber⟩

/-- The id of an attempt determines the id of its plan. -/
theorem planId_eq_of_requestBoundAttemptId_eq {sha256 : String → String}
    (hsha : Function.Injective sha256) {request request' : ExecutionRequest}
    {attemptNo attemptNo' : Nat}
    (h : ExecutionAttemptFactory.requestBoundAttemptId sha256 plan request attemptNo =
      ExecutionAttemptFactory.requestBoundAttemptId sha256 plan' request' attemptNo') :
    plan.planId = plan'.planId :=
  (requestBoundPlanId_eq_iff.mp (attemptIdForPlanId_inj hsha h).1).2

def samplePrice : ScaledDecimal :=
  { negative := false, magnitude := 45, scale := 2, magnitude_lt := by decide, scale_le := by decide }

def sampleQuantity : ScaledDecimal :=
  { ScaledDecimal.zero with magnitude := 10, magnitude_lt := by decide }

def sampleMember (conditionId tokenId : String) : NegRiskMemberOrderPlan :=
  { conditionId, tokenId, price := samplePrice, quantity := sampleQuantity }

def samplePlan : ExecutionPlan :=
  negRiskSubmitFamily "family-1" [sampleMember "condition-1" "token-1"]

def sampleRequest : ExecutionRequest :=
  { requestId := "request-1"
    decisionInputId := "intent-1"
    snapshotId := "snapshot-7"
    route := "neg-risk"
    scope := "family-1"
    activationMode := .live
    matchedRuleId := some "rule-1" }

/-- The digest of the plan id of the sample's request; other texts go unchanged behind a mark. -/
def sampleSha256 (text : String) : String :=
  if text = "request-bound:9:request-1:negrisk-submit-family:family-1:condition-1:token-1:0.45:10" then
    "c0127304190c9ebcc05396f1ceaed62e5a46849dc9e69eeb7f60f75c50c2f02f"
  else
    "raw:" ++ text

theorem sampleSha256_injective : Function.Injective sampleSha256 := by
  have hraw : ∀ text, "c0127304190c9ebcc05396f1ceaed62e5a46849dc9e69eeb7f60f75c50c2f02f" ≠ "raw:" ++ text := by
    intro text h
    have hhead := congrArg (fun text : String ↦ text.toList.head?) h
    simp [String.toList_append] at hhead
  intro text text' h
  rw [sampleSha256, sampleSha256] at h
  split at h <;> split at h
  · rename_i htext htext'
    rw [htext, htext']
  · exact absurd h (hraw _)
  · exact absurd h.symm (hraw _)
  · exact (String.append_right_inj "raw:").mp h

end ExecutionPlan

end AxiomArb.Execution
