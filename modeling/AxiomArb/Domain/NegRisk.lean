import AxiomArb.Domain.Identifiers
import AxiomArb.Library.StableSort
import AxiomArb.Library.Tally
import Mathlib.Algebra.Ring.Rat

/-!
# Neg-risk families and their exposure

The members of a family, and what an inventory says of a family's exposure: the quantities
of each token by bucket, and their sum over the tokens.
-/

namespace AxiomArb.Domain

open Library

inductive NegRiskVariant where
  | standard | augmented | unknown
deriving DecidableEq, Repr

structure NegRiskNode where
  tokenId : TokenId
  outcomeLabel : String
  isPlaceholder : Bool
  isOther : Bool
  route : MarketRoute
deriving DecidableEq, Repr

structure NegRiskFamily where
  familyId : EventFamilyId
  route : MarketRoute
  members : List NegRiskNode
deriving DecidableEq, Repr

inductive NegRiskExposureError where
  | emptyInventory
  | missingTokenCondition (tokenId : TokenId)
  | missingFamilyMapping (tokenId : TokenId) (conditionId : ConditionId)
  | invalidRoute (tokenId : TokenId) (route : Option MarketRoute)
  | mixedFamily (tokenId : TokenId) (expectedFamilyId foundFamilyId : EventFamilyId)
deriving DecidableEq, Repr

abbrev InventoryRow := TokenId × InventoryBucket × Decimal

/-! ## Quantities by bucket -/

namespace InventoryBucket

def rank : InventoryBucket → List Nat
  | free => [0]
  | reservedForOrder => [1]
  | matchedUnsettled => [2]
  | pendingCtfIn => [3]
  | pendingCtfOut => [4]
  | redeemable => [5]
  | quarantined => [6]

theorem rank_injective : Function.Injective rank := by
  intro bucket bucket' h
  cases bucket <;> cases bucket' <;> first | rfl | simp [rank] at h

instance : Ord InventoryBucket := Ord.byFields rank
instance : Std.TransOrd InventoryBucket := transOrd_byFields rank
instance : Std.LawfulEqOrd InventoryBucket := lawfulEqOrd_byFields rank_injective

end InventoryBucket

abbrev BucketQuantities := BTreeMap InventoryBucket Decimal

/-- Add a quantity to its bucket; a bucket that is new starts with it. -/
def addQuantity (quantities : BucketQuantities) (entry : InventoryBucket × Decimal) :
    BucketQuantities :=
  match quantities[entry.1]? with
  | some existing => quantities.insert entry.1 (existing + entry.2)
  | none => quantities.insert entry.1 entry.2

/-- Add the quantities of a member to a sum that starts with zeros. -/
def addToRollup (rollup quantities : BucketQuantities) : BucketQuantities :=
  quantities.toList.foldl
    (fun rollup (bucket, quantity) ↦ rollup.insert bucket (rollup[bucket]?.getD 0 + quantity)) rollup

theorem addQuantity_eq_tally : addQuantity = tally := by
  funext quantities entry
  rw [addQuantity, tally]
  split
  · rename_i existing hexisting
    rw [hexisting, Option.getD_some]
  · rename_i hnone
    rw [hnone, Option.getD_none, zero_add]

theorem addToRollup_eq_tally (rollup quantities : BucketQuantities) :
    addToRollup rollup quantities = quantities.toList.foldl tally rollup := rfl

theorem foldl_addToRollup (members : List BucketQuantities) (rollup : BucketQuantities) :
    members.foldl addToRollup rollup = (members.flatMap Std.ExtTreeMap.toList).foldl tally rollup := by
  induction members generalizing rollup with
  | nil => exact rfl
  | cons quantities members ih =>
      rw [List.foldl_cons, List.flatMap_cons, List.foldl_append, addToRollup_eq_tally, ih]

/-- The sum over the members does not depend on their order. -/
theorem foldl_addToRollup_perm {members members' : List BucketQuantities}
    (h : members.Perm members') : members.foldl addToRollup ∅ = members'.foldl addToRollup ∅ := by
  rw [foldl_addToRollup, foldl_addToRollup]
  exact (h.flatMap_right _).foldl_eq _

/-! ## Exposure of an inventory -/

structure NegRiskMemberExposure where
  tokenId : TokenId
  outcomeLabel : String
  bucketQuantities : BucketQuantities

structure NegRiskExposureRollup where
  bucketQuantities : BucketQuantities
  memberCount : Nat

structure NegRiskExposureVector where
  familyId : EventFamilyId
  members : List NegRiskMemberExposure
  rollup : NegRiskExposureRollup

namespace NegRiskExposureVector

/-- What the rows so far amount to. -/
structure Progress where
  memberQuantities : BTreeMap TokenId NegRiskMemberExposure
  familyId : Option EventFamilyId

/-- Enter one row of the inventory. -/
def addRow (identifierMap : IdentifierMap) (progress : Progress) :
    InventoryRow → Except NegRiskExposureError Progress
  | (tokenId, bucket, quantity) => do
      let some conditionId := identifierMap.conditionForToken tokenId |
        throw (.missingTokenCondition tokenId)
      let route := identifierMap.routeForCondition conditionId
      if route ≠ some .negRisk then
        throw (.invalidRoute tokenId route)
      let some foundFamilyId := identifierMap.familyForCondition conditionId |
        throw (.missingFamilyMapping tokenId conditionId)
      let familyId ← match progress.familyId with
        | some expectedFamilyId =>
            if expectedFamilyId ≠ foundFamilyId then
              throw (.mixedFamily tokenId expectedFamilyId foundFamilyId)
            else
              pure expectedFamilyId
        | none => pure foundFamilyId
      let entry := progress.memberQuantities[tokenId]?.getD
        { tokenId
          outcomeLabel := (identifierMap.outcomeLabelForToken tokenId).getD tokenId
          bucketQuantities := ∅ }
      return {
        memberQuantities := progress.memberQuantities.insert tokenId
          { entry with bucketQuantities := addQuantity entry.bucketQuantities (bucket, quantity) }
        familyId := some familyId }

/-- Nothing comes out of an inventory that has rows but no family; there is none. -/
def fromInventory (inventory : List InventoryRow) (identifierMap : IdentifierMap) :
    Option (Except NegRiskExposureError NegRiskExposureVector) :=
  if inventory.isEmpty then
    some (.error .emptyInventory)
  else
    match inventory.foldlM (addRow identifierMap) { memberQuantities := ∅, familyId := none } with
    | .error error => some (.error error)
    | .ok progress => do
        let members := sortByKey NegRiskMemberExposure.tokenId progress.memberQuantities.vals
        let familyId ← progress.familyId
        return .ok {
          familyId
          members
          rollup := {
            bucketQuantities :=
              (members.map NegRiskMemberExposure.bucketQuantities).foldl addToRollup ∅
            memberCount := members.length } }

end NegRiskExposureVector

end AxiomArb.Domain
