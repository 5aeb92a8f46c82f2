import AxiomArb.Execution.PlanIdentity
import AxiomArb.Library.Fallible

/-!
# Planning and signing a family

A family target is planned with its members sorted by condition and token, and the test
signer signs the members of a plan in the order of its id.  Both sorts keep the order of
members they cannot tell apart, so the members of a target may be given in any order: the
signed submissions agree but for the scale of equal decimals.
-/

namespace AxiomArb.Execution

open Domain Library

/-! ## Planning -/

structure NegRiskMemberTarget where
  conditionId : ConditionId
  tokenId : TokenId
  price : ScaledDecimal
  quantity : ScaledDecimal
deriving DecidableEq, Repr

structure NegRiskFamilyTarget where
  familyId : EventFamilyId
  members : List NegRiskMemberTarget
deriving DecidableEq, Repr

inductive NegRiskPlanningError where
  | routeMismatch (route : String)
  | scopeMismatch (requestScope : String) (familyId : EventFamilyId)
deriving DecidableEq, Repr

namespace NegRisk

def ROUTE : String := "neg-risk"

def memberOrderPlan (member : NegRiskMemberTarget) : NegRiskMemberOrderPlan :=
  { conditionId := member.conditionId
    tokenId := member.tokenId
    price := member.price
    quantity := member.quantity }

def planFamilySubmission (request : ExecutionRequest) (config : NegRiskFamilyTarget) :
    Except NegRiskPlanningError ExecutionPlan := do
  if request.route ≠ ROUTE then
    throw (.routeMismatch request.route)
  if request.scope ≠ config.familyId then
    throw (.scopeMismatch request.scope config.familyId)
  let members := config.members.map memberOrderPlan
  return .negRiskSubmitFamily config.familyId
    (sortByKey (fun member ↦ [member.conditionId, member.tokenId]) members)

end NegRisk

/-! ## Signing -/

inductive SigningError where
  | unsupportedPlan (planId : String)
  | signerFailure (planId : String) (reason : String)
deriving DecidableEq, Repr

structure SignedFamilyMember where
  conditionId : ConditionId
  tokenId : TokenId
  price : ScaledDecimal
  quantity : ScaledDecimal
  maker : String
  signer : String
  taker : String
  makerAmount : String
  takerAmount : String
  side : String
  expiration : String
  feeRateBps : String
  signatureType : Nat
  identity : SignedOrderIdentity
deriving DecidableEq, Repr

structure SignedFamilySubmission where
  planId : String
  members : List SignedFamilyMember
deriving DecidableEq, Repr

/-- The members are equal; decimals are equal if their values are. -/
def SignedFamilyMember.Equal (member member' : SignedFamilyMember) : Prop :=
  member.price.value = member'.price.value ∧ member.quantity.value = member'.quantity.value ∧
    { member with price := member'.price, quantity := member'.quantity } = member'

namespace TestOrderSigner

def signIdentity (planId : String) (index : Nat) : SignedOrderIdentity :=
  { signedOrderHash := s!"test-hash:{planId}:{index}"
    salt := s!"{123 + index}"
    nonce := s!"{index}"
    signature := s!"test-sig:{planId}:{index}" }

section Product

-- The product of two decimals, unless it overflows.
variable (mul : ScaledDecimal → ScaledDecimal → Option ScaledDecimal)

def signMember (planId : String) (index : Nat) (member : NegRiskMemberOrderPlan) :
    Option SignedFamilyMember := do
  let product ← mul member.price member.quantity
  return {
    conditionId := member.conditionId
    tokenId := member.tokenId
    price := member.price
    quantity := member.quantity
    maker := "0xmaker"
    signer := "0xsigner"
    taker := "0x0000000000000000000000000000000000000000"
    makerAmount := member.quantity.normalize.text
    takerAmount := product.normalize.text
    side := "BUY"
    expiration := "0"
    feeRateBps := "30"
    signatureType := 0
    identity := signIdentity planId index }

/-- Sign members that are numbered from `index` on. -/
def signMembers (planId : String) (index : Nat) (members : List NegRiskMemberOrderPlan) :
    Option (List SignedFamilyMember) :=
  (members.zipIdx index).mapM fun (member, index) ↦ signMember mul planId index member

/-- Nothing comes out where a product overflows. -/
def signFamily (plan : ExecutionPlan) : Option (Except SigningError SignedFamilySubmission) :=
  match plan with
  | .negRiskSubmitFamily _ members => do
      let signed ← signMembers mul plan.planId 0 (canonicalMembers members)
      return .ok { planId := plan.planId, members := signed }
  | other => some (.error (.unsupportedPlan other.planId))

end Product

end TestOrderSigner

/-! ## The order of the members -/

/-- The same submission, or a product that overflows in both. -/
def SameSubmission : Option (Except SigningError SignedFamilySubmission) →
    Option (Except SigningError SignedFamilySubmission) → Prop
  | some (.ok submission), some (.ok submission') => submission.planId = submission'.planId ∧
      List.Forall₂ SignedFamilyMember.Equal submission.members submission'.members
  | none, none => True
  | _, _ => False

section Order

variable {mul : ScaledDecimal → ScaledDecimal → Option ScaledDecimal}

/-- The product does not depend on the scale of the decimals of these members. -/
def ProductByValue (mul : ScaledDecimal → ScaledDecimal → Option ScaledDecimal)
    (members members' : List NegRiskMemberOrderPlan) : Prop :=
  ∀ member ∈ members, ∀ member' ∈ members', member.price.value = member'.price.value →
    member.quantity.value = member'.quantity.value →
    (mul member.price member.quantity).map ScaledDecimal.value =
      (mul member'.price member'.quantity).map ScaledDecimal.value

variable {member member' : NegRiskMemberOrderPlan} {members members' : List NegRiskMemberOrderPlan}
  {planId : String} {index : Nat}

/-- Members of one key are signed alike. -/
theorem signMember_rel (hkey : member.sortKey = member'.sortKey)
    (hmul : (mul member.price member.quantity).map ScaledDecimal.value =
      (mul member'.price member'.quantity).map ScaledDecimal.value) :
    Option.Rel SignedFamilyMember.Equal (TestOrderSigner.signMember mul planId index member)
      (TestOrderSigner.signMember mul planId index member') := by
  obtain ⟨hcondition, htoken, hprice, hquantity⟩ := NegRiskMemberOrderPlan.sortKey_eq_iff_value.mp hkey
  cases hproduct : mul member.price member.quantity with
  | none =>
      cases hproduct' : mul member'.price member'.quantity with
      | none => 
          simp only [TestOrderSigner.signMember, hproduct, hproduct']
          exact .none
      | some product' => simp [hproduct, hproduct'] at hmul
  | some product =>
      cases hproduct' : mul member'.price member'.quantity with
      | none => simp [hproduct, hproduct'] at hmul
      | some product' =>
          have hvalue : product.value = product'.value := by simpa [hproduct, hproduct'] using hmul
          have hmaker := ScaledDecimal.text_normalize_eq_iff.mpr hquantity
          have htaker := ScaledDecimal.text_normalize_eq_iff.mpr hvalue
          simp only [TestOrderSigner.signMember, hproduct, hproduct']
          refine .some ⟨hprice, hquantity, ?_⟩
          simp only [hcondition, htoken, hmaker, htaker]

/-- Members of the same keys in the same order are signed alike. -/
theorem signMembers_rel (planId : String) (index : Nat)
    (hkeys : members.map NegRiskMemberOrderPlan.sortKey =
      members'.map NegRiskMemberOrderPlan.sortKey) (hmul : ProductByValue mul members members') :
    Option.Rel (List.Forall₂ SignedFamilyMember.Equal)
      (TestOrderSigner.signMembers mul planId index members)
      (TestOrderSigner.signMembers mul planId index members') := by
  refine rel_mapM ?_
  induction members generalizing members' index with
  | nil =>
      obtain rfl : members' = [] := List.map_eq_nil_iff.mp hkeys.symm
      exact .nil
  | cons member members ih =>
      cases members' with
      | nil => cases hkeys
      | cons member' members' =>
          obtain ⟨hkey, hkeys⟩ := List.cons.inj hkeys
          obtain ⟨-, -, hprice, hquantity⟩ := NegRiskMemberOrderPlan.sortKey_eq_iff_value.mp hkey
          rw [List.zipIdx_cons, List.zipIdx_cons]
          refine .cons (signMember_rel hkey ?_) (ih _ hkeys fun _ hmem _ hmem' ↦ ?_)
          · exact hmul member List.mem_cons_self member' List.mem_cons_self hprice hquantity
          · exact hmul _ (List.mem_cons_of_mem member hmem) _ (List.mem_cons_of_mem member' hmem')

/-- Plans of one family whose members are in another order are signed alike. -/
theorem sameSubmission_of_perm {familyId : EventFamilyId} (hperm : members.Perm members')
    (hmul : ProductByValue mul members members) :
    SameSubmission (TestOrderSigner.signFamily mul (.negRiskSubmitFamily familyId members))
      (TestOrderSigner.signFamily mul (.negRiskSubmitFamily familyId members')) := by
  have hsame : (ExecutionPlan.negRiskSubmitFamily familyId members).Same
      (.negRiskSubmitFamily familyId members') := ⟨rfl, hperm.map _⟩
  have hid := ExecutionPlan.planId_eq_of_same hsame
  have hmem : ∀ {members : List NegRiskMemberOrderPlan} {member}, member ∈ canonicalMembers members →
      member ∈ members := mem_sortByKey.mp
  have hsigned := signMembers_rel (ExecutionPlan.negRiskSubmitFamily familyId members).planId 0
    (NegRiskMemberOrderPlan.map_sortKey_canonicalMembers_eq_iff.mpr hsame.2)
    fun member hmember member' hmember' ↦
      hmul member (hmem hmember) member' (hperm.mem_iff.mpr (hmem hmember'))
  rw [TestOrderSigner.signFamily, TestOrderSigner.signFamily, ← hid]
  revert hsigned
  generalize TestOrderSigner.signMembers mul _ 0 (canonicalMembers members) = signed
  generalize TestOrderSigner.signMembers mul _ 0 (canonicalMembers members') = signed'
  intro hsigned
  cases hsigned with
  | none => exact trivial
  | some hmembers => exact ⟨rfl, hmembers⟩

variable {request : ExecutionRequest} {config : NegRiskFamilyTarget}

/-- A target whose route and scope fit the request is planned with its members sorted. -/
theorem planFamilySubmission_of_fits (hroute : request.route = NegRisk.ROUTE)
    (hscope : request.scope = config.familyId) :
    NegRisk.planFamilySubmission request config =
      .ok (.negRiskSubmitFamily config.familyId (sortByKey
        (fun member ↦ [member.conditionId, member.tokenId])
        (config.members.map NegRisk.memberOrderPlan))) := by
  simp only [NegRisk.planFamilySubmission, hroute, hscope, ne_eq, not_true_eq_false, if_false]
  rfl

/-- A target that does not fit the request is refused, whatever its members. -/
theorem planFamilySubmission_cases (request : ExecutionRequest) (familyId : EventFamilyId) :
    (∃ error, ∀ members, NegRisk.planFamilySubmission request { familyId, members } = .error error) ∨
      ∀ members, NegRisk.planFamilySubmission request { familyId, members } =
        .ok (.negRiskSubmitFamily familyId (sortByKey
          (fun member ↦ [member.conditionId, member.tokenId]) (members.map NegRisk.memberOrderPlan))) := by
  by_cases hroute : request.route = NegRisk.ROUTE
  · by_cases hscope : request.scope = familyId
    · exact .inr fun members ↦ planFamilySubmission_of_fits hroute hscope
    · refine .inl ⟨.scopeMismatch request.scope familyId, fun members ↦ ?_⟩
      simp only [NegRisk.planFamilySubmission, hroute, hscope, ne_eq, not_true_eq_false, if_false,
        not_false_eq_true, if_true]
      rfl
  · refine .inl ⟨.routeMismatch request.route, fun members ↦ ?_⟩
    simp only [NegRisk.planFamilySubmission, hroute, ne_eq, not_false_eq_true, if_true]
    rfl

/-- Both targets are refused with one error, or both are planned under one id and signed
alike. -/
def SignedAlike (mul : ScaledDecimal → ScaledDecimal → Option ScaledDecimal)
    (request : ExecutionRequest) (config config' : NegRiskFamilyTarget) : Prop :=
  match NegRisk.planFamilySubmission request config,
    NegRisk.planFamilySubmission request config' with
  | .ok plan, .ok plan' => plan.planId = plan'.planId ∧
      SameSubmission (TestOrderSigner.signFamily mul plan) (TestOrderSigner.signFamily mul plan')
  | .error error, .error error' => error = error'
  | _, _ => False

/-- The order in which a target lists its members makes no difference to how it is planned
and signed. -/
theorem signedAlike_of_perm {members' : List NegRiskMemberTarget}
    (hmul : ProductByValue mul (config.members.map NegRisk.memberOrderPlan)
      (config.members.map NegRisk.memberOrderPlan))
    (hperm : config.members.Perm members') :
    SignedAlike mul request config { config with members := members' } := by
  obtain ⟨familyId, members⟩ := config
  rcases planFamilySubmission_cases request familyId with ⟨error, herror⟩ | hplan
  · rw [SignedAlike, herror, herror]
  · rw [SignedAlike, hplan, hplan]
    have hsorted : ∀ members : List NegRiskMemberTarget, (sortByKey
        (fun member ↦ [member.conditionId, member.tokenId])
        (members.map NegRisk.memberOrderPlan)).Perm (members.map NegRisk.memberOrderPlan) :=
      fun members ↦ perm_sortByKey _ _
    have hplanned := (hsorted members).trans ((hperm.map _).trans (hsorted members').symm)
    refine ⟨ExecutionPlan.planId_eq_of_same ⟨rfl, hplanned.map _⟩,
      sameSubmission_of_perm hplanned fun member hmember member' hmember' ↦ ?_⟩
    exact hmul member (mem_sortByKey.mp hmember) member' (mem_sortByKey.mp hmember')

end Order

/-! ### Samples -/

/-- The product, where it has an exact decimal. -/
def exactMul (d d' : ScaledDecimal) : Option ScaledDecimal :=
  if h : d.magnitude * d'.magnitude < 2 ^ 96 ∧ d.scale + d'.scale ≤ 28 then
    some
      { negative := d.negative != d'.negative
        magnitude := d.magnitude * d'.magnitude
        scale := d.scale + d'.scale
        magnitude_lt := h.1
        scale_le := h.2 }
  else
    none

def sampleTarget (conditionId tokenId : String) (price : ScaledDecimal) : NegRiskMemberTarget :=
  { conditionId, tokenId, price, quantity := ExecutionPlan.sampleQuantity }

/-- The sample's price with a zero behind it. -/
def samplePaddedPrice : ScaledDecimal :=
  { negative := false, magnitude := 450, scale := 3, magnitude_lt := by decide, scale_le := by decide }

def sampleFamilyTarget : NegRiskFamilyTarget :=
  { familyId := "family-1"
    members := [
      sampleTarget "condition-2" "token-2" ExecutionPlan.samplePrice,
      sampleTarget "condition-1" "token-1" samplePaddedPrice,
      sampleTarget "condition-1" "token-1" ExecutionPlan.samplePrice] }

theorem sampleFamilyTarget_signedAlike :
    SignedAlike exactMul ExecutionPlan.sampleRequest sampleFamilyTarget
      { sampleFamilyTarget with members := sampleFamilyTarget.members.reverse } :=
  signedAlike_of_perm (by unfold ProductByValue; decide +kernel) (List.reverse_perm _).symm

end AxiomArb.Execution
