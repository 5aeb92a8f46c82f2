import AxiomArb.Domain.Market

/-!
# External facts and discovery records

What the input tasks observe (`ExternalFactEvent`) and what the store keeps of a
family's discovery.
-/

namespace AxiomArb.Domain

structure FamilyDiscoveryObservedPayload where
  familyId : String
deriving DecidableEq, Repr

structure FamilyBackfillObservedPayload where
  familyId : String
  cursor : String
  complete : Bool
deriving DecidableEq, Repr

structure NegRiskLiveSubmitObservedPayload where
  attemptId : String
  scope : String
  submissionRef : String
deriving DecidableEq, Repr

structure NegRiskLiveReconcileObservedPayload where
  pendingRef : String
  scope : String
  terminal : Bool
deriving DecidableEq, Repr

structure RuntimeAttentionObservedPayload where
  source : String
  scopeId : String
  attentionKind : String
  reason : String
deriving DecidableEq, Repr

inductive ExternalFactPayloadData where
  | familyDiscoveryObserved (payload : FamilyDiscoveryObservedPayload)
  | familyBackfillObserved (payload : FamilyBackfillObservedPayload)
  | negRiskLiveSubmitObserved (payload : NegRiskLiveSubmitObservedPayload)
  | negRiskLiveReconcileObserved (payload : NegRiskLiveReconcileObservedPayload)
  | runtimeAttentionObserved (payload : RuntimeAttentionObservedPayload)
deriving DecidableEq, Repr

/-- The payload of a fact; a plain fact has none. -/
abbrev ExternalFactPayload := Option ExternalFactPayloadData

structure ExternalFactEvent where
  sourceKind : String
  sourceSessionId : String
  sourceEventId : String
  normalizerVersion : String
  observedAt : DateTime
  rawPayloadHash : Option String
  payload : ExternalFactPayload
deriving DecidableEq, Repr

namespace ExternalFactEvent

/-- A fact without a payload. -/
def new (sourceKind sourceSessionId sourceEventId normalizerVersion : String)
    (observedAt : DateTime) : ExternalFactEvent :=
  { sourceKind, sourceSessionId, sourceEventId, normalizerVersion, observedAt
    rawPayloadHash := none
    payload := none }

def negriskLiveSubmitObserved (sourceSessionId sourceEventId attemptId scope submissionRef : String)
    (observedAt : DateTime) : ExternalFactEvent :=
  { sourceKind := "negrisk_live_submit"
    sourceSessionId, sourceEventId
    normalizerVersion := "v1-negrisk-live-submit"
    observedAt
    rawPayloadHash := none
    payload := some (.negRiskLiveSubmitObserved { attemptId, scope, submissionRef }) }

def familyDiscoveryObserved (sourceSessionId sourceEventId familyId : String)
    (observedAt : DateTime) : ExternalFactEvent :=
  { sourceKind := "family_discovery"
    sourceSessionId, sourceEventId
    normalizerVersion := "v1-family-discovery"
    observedAt
    rawPayloadHash := none
    payload := some (.familyDiscoveryObserved { familyId }) }

def familyBackfillObserved (sourceSessionId sourceEventId familyId cursor : String)
    (complete : Bool) (observedAt : DateTime) : ExternalFactEvent :=
  { sourceKind := "family_backfill"
    sourceSessionId, sourceEventId
    normalizerVersion := "v1-family-backfill"
    observedAt
    rawPayloadHash := none
    payload := some (.familyBackfillObserved { familyId, cursor, complete }) }

def negriskLiveReconcileObserved (sourceSessionId sourceEventId pendingRef scope : String)
    (terminal : Bool) (observedAt : DateTime) : ExternalFactEvent :=
  { sourceKind := "negrisk_live_reconcile"
    sourceSessionId, sourceEventId
    normalizerVersion := "v1-negrisk-live-reconcile"
    observedAt
    rawPayloadHash := none
    payload := some (.negRiskLiveReconcileObserved { pendingRef, scope, terminal }) }

def runtimeAttentionObserved (source sourceSessionId sourceEventId scopeId attentionKind
    reason : String) (observedAt : DateTime) : ExternalFactEvent :=
  { sourceKind := "runtime_attention"
    sourceSessionId, sourceEventId
    normalizerVersion := s!"v1-runtime-attention-{source}"
    observedAt
    rawPayloadHash := none
    payload := some (.runtimeAttentionObserved { source, scopeId, attentionKind, reason }) }

end ExternalFactEvent

/-! ## Discovery records -/

structure DiscoverySourceAnchor where
  sourceKind : String
  sourceSessionId : String
  sourceEventId : String
  normalizerVersion : String
deriving DecidableEq, Repr

structure FamilyDiscoveryRecord where
  familyId : EventFamilyId
  source : DiscoverySourceAnchor
  discoveredAt : DateTime
  backfillCursor : Option String
  backfillCompletedAt : Option DateTime
deriving DecidableEq, Repr

/-- The later of two completion times, where either may be missing. -/
def maxCompletionTimestamp : Option DateTime → Option DateTime → Option DateTime
  | some current, some candidate => some (max current candidate)
  | some current, none => some current
  | none, some candidate => some candidate
  | none, none => none

namespace FamilyDiscoveryRecord

def new (familyId : EventFamilyId) (source : DiscoverySourceAnchor) (discoveredAt : DateTime) :
    FamilyDiscoveryRecord :=
  { familyId, source, discoveredAt, backfillCursor := none, backfillCompletedAt := none }

def recordBackfill (record : FamilyDiscoveryRecord) (cursor : String)
    (completedAt : Option DateTime) : FamilyDiscoveryRecord :=
  { record with
    backfillCursor := some cursor
    backfillCompletedAt := maxCompletionTimestamp record.backfillCompletedAt completedAt }

end FamilyDiscoveryRecord

end AxiomArb.Domain
