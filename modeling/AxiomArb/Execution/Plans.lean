import AxiomArb.Domain.Market
import AxiomArb.Library.OrderedMap
import AxiomArb.Library.ScaledDecimal
import AxiomArb.Library.StableSort

/-!
# Execution plans

What the engine may execute, and the id a plan goes by.  The id of a neg-risk plan lists
its members in the order of their identifiers and normalized decimals, so that it depends
on neither the order of the members nor the scale of their decimals.
-/

namespace AxiomArb.Execution

open Domain Library

structure NegRiskMemberOrderPlan where
  conditionId : ConditionId
  tokenId : TokenId
  price : ScaledDecimal
  quantity : ScaledDecimal
deriving DecidableEq, Repr

inductive ExecutionPlan where
  | fullSetBuyThenMerge (conditionId : ConditionId)
  | fullSetSplitThenSell (conditionId : ConditionId)
  | cancelStale (orderId : OrderId)
  | redeemResolved (conditionId : ConditionId)
  | negRiskSubmitFamily (familyId : EventFamilyId) (members : List NegRiskMemberOrderPlan)
deriving DecidableEq, Repr

namespace NegRiskMemberOrderPlan

variable (member : NegRiskMemberOrderPlan)

/-- What members are sorted by. -/
def sortKey : List String :=
  [member.conditionId, member.tokenId, member.price.normalize.text, member.quantity.normalize.text]

def idText : String :=
  s!"{member.conditionId}:{member.tokenId}:{member.price.normalize.text}:{
    member.quantity.normalize.text}"

/-- The member without the trailing zeros of its decimals. -/
def normalized : NegRiskMemberOrderPlan :=
  { member with price := member.price.normalize, quantity := member.quantity.normalize }

end NegRiskMemberOrderPlan

/-- The members in the order of the plan's id. -/
def canonicalMembers (members : List NegRiskMemberOrderPlan) : List NegRiskMemberOrderPlan :=
  sortByKey NegRiskMemberOrderPlan.sortKey members

/-- The texts of the members, in their order. -/
def membersText (members : List NegRiskMemberOrderPlan) : String :=
  "|".intercalate ((canonicalMembers members).map NegRiskMemberOrderPlan.idText)

namespace ExecutionPlan

def planId : ExecutionPlan → String
  | fullSetBuyThenMerge conditionId => s!"fullset-buy-merge:{conditionId}"
  | fullSetSplitThenSell conditionId => s!"fullset-split-sell:{conditionId}"
  | cancelStale orderId => s!"cancel-stale:{orderId}"
  | redeemResolved conditionId => s!"redeem-resolved:{conditionId}"
  | negRiskSubmitFamily familyId members =>
      s!"negrisk-submit-family:{familyId}:{membersText members}"

/-- The plans are equal up to the order of the members and the scale of their decimals. -/
def Same : ExecutionPlan → ExecutionPlan → Prop
  | negRiskSubmitFamily familyId members, negRiskSubmitFamily familyId' members' =>
      familyId = familyId' ∧ (members.map NegRiskMemberOrderPlan.normalized).Perm
        (members'.map NegRiskMemberOrderPlan.normalized)
  | plan, plan' => plan = plan'

end ExecutionPlan

/-! ## The order of the members -/

namespace NegRiskMemberOrderPlan

variable {member member' : NegRiskMemberOrderPlan} {members members' : List NegRiskMemberOrderPlan}

/-- The fields of a member, written out. -/
def fields (member : NegRiskMemberOrderPlan) : List String :=
  [member.conditionId, member.tokenId, member.price.text, member.quantity.text]

theorem fields_injective : Function.Injective fields := by
  intro member member' h
  simp only [fields, List.cons.injEq, and_true] at h
  obtain ⟨hcondition, htoken, hprice, hquantity⟩ := h
  cases member
  cases member'
  simp_all [ScaledDecimal.text_injective.eq_iff]

theorem sortKey_eq (member : NegRiskMemberOrderPlan) : member.sortKey = member.normalized.fields := rfl

/-- Members have one key if they agree but for the scale of their decimals. -/
theorem sortKey_eq_iff_value :
    member.sortKey = member'.sortKey ↔ member.conditionId = member'.conditionId ∧
      member.tokenId = member'.tokenId ∧ member.price.value = member'.price.value ∧
      member.quantity.value = member'.quantity.value := by
  simp only [sortKey, List.cons.injEq, ScaledDecimal.text_normalize_eq_iff, and_true]

/-- The text of a member is its key, joined by colons. -/
theorem idText_eq (member : NegRiskMemberOrderPlan) : member.idText = ":".intercalate member.sortKey := by
  simp only [idText, sortKey, String.intercalate_cons_cons, String.intercalate_singleton,
    String.append_assoc]
  rfl

/-- The keys of the members do not depend on their order, nor on the scale of their decimals. -/
theorem map_sortKey_canonicalMembers_eq_iff :
    (canonicalMembers members).map sortKey = (canonicalMembers members').map sortKey ↔
      (members.map normalized).Perm (members'.map normalized) := by
  have hkeys : ∀ members : List NegRiskMemberOrderPlan,
      members.map sortKey = (members.map normalized).map fields := fun members ↦ by
    rw [List.map_map]
    rfl
  rw [canonicalMembers, canonicalMembers, map_key_sortByKey_eq_iff, hkeys, hkeys,
    List.map_perm_map_iff fields_injective]

end NegRiskMemberOrderPlan

end AxiomArb.Execution
