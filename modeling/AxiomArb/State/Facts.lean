import AxiomArb.Domain.Facts

/-!
# Facts as the store applies them

A fact arrives as an `ExternalFactEvent`.  `StateFactInput` pairs it with the
hint that selects the applier's branch, and `FactKey` is its identity: two
events with the same key are the same fact delivered twice, whatever their
payloads.
-/

namespace AxiomArb.State

open Domain Library

inductive DirtyDomain where
  | candidates | runtime | orders | inventory | approvals | resolution | relayer | negRiskFamilies
deriving DecidableEq, Repr

/-- The domains a change touched, in the order of their declaration. -/
structure DirtySet where
  domains : List DirtyDomain
deriving DecidableEq, Repr

/-- The identity of a fact. -/
structure FactKey where
  sourceKind : String
  sourceSessionId : String
  sourceEventId : String
  normalizerVersion : String
deriving DecidableEq, Repr

namespace FactKey

def fields (key : FactKey) : List String :=
  [key.sourceKind, key.sourceSessionId, key.sourceEventId, key.normalizerVersion]

theorem fields_injective : Function.Injective fields := by
  rintro ⟨k, s, e, n⟩ ⟨k', s', e', n'⟩ h
  simpa [fields] using h

instance : Ord FactKey := Ord.byFields fields
instance : Std.TransOrd FactKey := transOrd_byFields fields
instance : Std.LawfulEqOrd FactKey := lawfulEqOrd_byFields fields_injective

def fromEvent (event : ExternalFactEvent) : FactKey :=
  { sourceKind := event.sourceKind
    sourceSessionId := event.sourceSessionId
    sourceEventId := event.sourceEventId
    normalizerVersion := event.normalizerVersion }

end FactKey

/-- The reference under which pending work is kept. -/
abbrev PendingRef := String

def PendingRef.fromFactKey (factKey : FactKey) : PendingRef :=
  s!"pending:{factKey.sourceKind}:{factKey.sourceSessionId}:{factKey.sourceEventId}:{
    factKey.normalizerVersion}"

theorem PendingRef.fromFactKey_eq (factKey : FactKey) : PendingRef.fromFactKey factKey =
    "pending:" ++ factKey.sourceKind ++ ":" ++ factKey.sourceSessionId ++ ":" ++
      factKey.sourceEventId ++ ":" ++ factKey.normalizerVersion := rfl

structure PendingReconcileAnchor where
  pendingRef : String
  submissionRef : String
  familyId : String
  route : String
  reason : String
deriving DecidableEq, Repr

namespace PendingReconcileAnchor

def fromPendingRefAndReason (pendingRef : PendingRef) (familyId route reason : String) :
    PendingReconcileAnchor :=
  { pendingRef, submissionRef := pendingRef, familyId, route, reason }

def fromLiveSubmit (factKey : FactKey) (payload : NegRiskLiveSubmitObservedPayload) :
    PendingReconcileAnchor :=
  { pendingRef := PendingRef.fromFactKey factKey
    submissionRef := payload.submissionRef
    familyId := payload.scope
    route := factKey.sourceKind
    reason := "live submit observed" }

def fromRuntimeAttention (pendingRef : PendingRef) (payload : RuntimeAttentionObservedPayload) :
    PendingReconcileAnchor :=
  fromPendingRefAndReason pendingRef payload.scopeId payload.source payload.reason

end PendingReconcileAnchor

structure RuntimeAttentionAnchor where
  attentionRef : String
  source : String
  scopeId : String
  attentionKind : String
  reason : String
deriving DecidableEq, Repr

def RuntimeAttentionAnchor.fromFactKeyAndPayload (factKey : FactKey)
    (payload : RuntimeAttentionObservedPayload) : RuntimeAttentionAnchor :=
  { attentionRef :=
      s!"attention:{factKey.sourceKind}:{factKey.sourceSessionId}:{factKey.sourceEventId}:{
        factKey.normalizerVersion}"
    source := payload.source
    scopeId := payload.scopeId
    attentionKind := payload.attentionKind
    reason := payload.reason }

theorem RuntimeAttentionAnchor.attentionRef_fromFactKeyAndPayload (factKey : FactKey)
    (payload : RuntimeAttentionObservedPayload) :
    (RuntimeAttentionAnchor.fromFactKeyAndPayload factKey payload).attentionRef =
      "attention:" ++ factKey.sourceKind ++ ":" ++ factKey.sourceSessionId ++ ":" ++
        factKey.sourceEventId ++ ":" ++ factKey.normalizerVersion := rfl

/-- What applying a fact is to do: one constructor per branch of the applier. -/
inductive FactApplyHint where
  | none
  | familyDiscovery (record : FamilyDiscoveryRecord)
  | familyBackfill (familyId cursor : String) (completedAt : Option DateTime)
  | pendingReconcile (anchor : PendingReconcileAnchor)
  | runtimeAttention (anchor : RuntimeAttentionAnchor)
  | liveReconcileObserved (pendingRef : PendingRef) (terminal : Bool)
deriving DecidableEq, Repr

def familyDiscoveryRecord (factKey : FactKey) (payload : FamilyDiscoveryObservedPayload)
    (observedAt : DateTime) : FamilyDiscoveryRecord :=
  .new payload.familyId
    { sourceKind := factKey.sourceKind
      sourceSessionId := factKey.sourceSessionId
      sourceEventId := factKey.sourceEventId
      normalizerVersion := factKey.normalizerVersion }
    observedAt

structure StateFactInput where
  event : ExternalFactEvent
  hint : FactApplyHint
deriving DecidableEq, Repr

namespace StateFactInput

/-- The hint a fact's payload selects.  Stale metadata is only noted; any other
attention becomes pending work. -/
def new (event : ExternalFactEvent) : StateFactInput :=
  let factKey := FactKey.fromEvent event
  let hint : FactApplyHint :=
    match event.payload with
    | some (.familyDiscoveryObserved payload) =>
        .familyDiscovery (familyDiscoveryRecord factKey payload event.observedAt)
    | some (.familyBackfillObserved payload) =>
        .familyBackfill payload.familyId payload.cursor
          (if payload.complete then some event.observedAt else .none)
    | some (.negRiskLiveSubmitObserved payload) =>
        .pendingReconcile (.fromLiveSubmit factKey payload)
    | some (.negRiskLiveReconcileObserved payload) =>
        .liveReconcileObserved payload.pendingRef payload.terminal
    | some (.runtimeAttentionObserved payload) =>
        if payload.attentionKind = "metadata_stale" then
          .runtimeAttention (.fromFactKeyAndPayload factKey payload)
        else
          .pendingReconcile (.fromRuntimeAttention (PendingRef.fromFactKey factKey) payload)
    | .none => .none
  { event, hint }

/-- The same event, marked as a user trade that arrived out of order: it is
pending work whatever its payload. -/
def outOfOrderUserTrade (event : ExternalFactEvent) : StateFactInput :=
  let factKey := FactKey.fromEvent event
  { event
    hint := .pendingReconcile (.fromPendingRefAndReason (PendingRef.fromFactKey factKey)
      factKey.sourceSessionId factKey.sourceKind
      "user trade arrived out of authoritative order") }

def factKey (fact : StateFactInput) : FactKey := FactKey.fromEvent fact.event

def applyHint (fact : StateFactInput) : FactApplyHint := fact.hint

@[simp] theorem factKey_new (event : ExternalFactEvent) :
    (new event).factKey = FactKey.fromEvent event := rfl

@[simp] theorem factKey_outOfOrderUserTrade (event : ExternalFactEvent) :
    (outOfOrderUserTrade event).factKey = FactKey.fromEvent event := rfl

end StateFactInput

end AxiomArb.State
