import AxiomArb.Library.OrderedMap
import AxiomArb.Domain.Runtime

/-!
# Orders, approvals, inventory and resolution

The business records a store holds and a remote snapshot carries.  The source's
identifiers are one-field wrappers of a string, and are the string here.
-/

namespace AxiomArb.Domain

open Library

abbrev OrderId := String
abbrev MarketId := String
abbrev ConditionId := String
abbrev TokenId := String
abbrev EventFamilyId := String

structure SignedOrderIdentity where
  signedOrderHash : String
  salt : String
  nonce : String
  signature : String
deriving DecidableEq, Repr

inductive SubmissionState where
  | draft | planned | riskApproved | signed | submitted | acked | rejected | unknown
deriving DecidableEq, Repr

inductive VenueOrderState where
  | live | matched | delayed | unmatched | cancelPending | cancelled | expired | unknown
deriving DecidableEq, Repr

inductive SettlementState where
  | matched | mined | confirmed | retrying | failed | unknown
deriving DecidableEq, Repr

structure Order where
  orderId : OrderId
  marketId : MarketId
  conditionId : ConditionId
  tokenId : TokenId
  quantity : Decimal
  price : Decimal
  submissionState : SubmissionState
  venueState : VenueOrderState
  settlementState : SettlementState
  signedOrder : Option SignedOrderIdentity
deriving DecidableEq, Repr

inductive InventoryBucket where
  | free | reservedForOrder | matchedUnsettled | pendingCtfIn | pendingCtfOut | redeemable
  | quarantined
deriving DecidableEq, Repr

inductive WalletRoute where
  | eoa | proxy | safe
deriving DecidableEq, Repr

inductive SignatureType where
  | eoa | proxy | safe
deriving DecidableEq, Repr

inductive ApprovalStatus where
  | unknown | missing | pending | approved | rejected
deriving DecidableEq, Repr

structure ApprovalKey where
  tokenId : TokenId
  spender : String
  ownerAddress : String
deriving DecidableEq, Repr

structure ApprovalState where
  tokenId : TokenId
  spender : String
  ownerAddress : String
  funderAddress : String
  walletRoute : WalletRoute
  signatureType : SignatureType
  allowance : Decimal
  requiredMinAllowance : Decimal
  lastCheckedAt : DateTime
  approvalStatus : ApprovalStatus
deriving DecidableEq, Repr

inductive ResolutionStatus where
  | unresolved | resolved | cancelled
deriving DecidableEq, Repr

inductive DisputeState where
  | none | disputed | challenged | underReview
deriving DecidableEq, Repr

structure ResolutionState where
  conditionId : ConditionId
  resolutionStatus : ResolutionStatus
  payoutVector : List Decimal
  resolvedAt : Option DateTime
  disputeState : DisputeState
  redeemableAt : Option DateTime
deriving DecidableEq, Repr

/-! ## Keys of the store's hash maps

The source keeps these maps unordered; an order on the keys only fixes the order
in which the model lists entries. -/

namespace ApprovalKey

def fields (key : ApprovalKey) : List String := [key.tokenId, key.spender, key.ownerAddress]

theorem fields_injective : Function.Injective fields := by
  rintro ⟨t, s, o⟩ ⟨t', s', o'⟩ h
  simpa [fields] using h

instance : Ord ApprovalKey := Ord.byFields fields
instance : Std.TransOrd ApprovalKey := transOrd_byFields fields
instance : Std.LawfulEqOrd ApprovalKey := lawfulEqOrd_byFields fields_injective

end ApprovalKey

end AxiomArb.Domain
