import AxiomArb.State.Store

/-!
# Publications

What the store publishes: a snapshot of the trading state, and the discovery
records as a candidate publication.  Both need an applied journal anchor; where
the source panics without one, `fromStore` returns nothing.
-/

namespace AxiomArb.State

open Domain

structure ProjectionReadiness where
  snapshotId : String
  fullsetReady : Bool
  negriskReady : Bool
deriving DecidableEq, Repr

def ProjectionReadiness.readyFullsetPendingNegrisk (snapshotId : String) : ProjectionReadiness :=
  { snapshotId, fullsetReady := true, negriskReady := false }

structure FullSetView where
  snapshotId : String
  stateVersion : Nat
  openOrders : List String
deriving DecidableEq, Repr

structure NegRiskFamilyRolloutReadiness where
  familyId : String
  shadowParityReady : Bool
  recoveryReady : Bool
  replayDriftReady : Bool
  faultInjectionReady : Bool
  conversionPathReady : Bool
  haltSemanticsReady : Bool
deriving DecidableEq, Repr

structure NegRiskView where
  snapshotId : String
  stateVersion : Nat
  families : List NegRiskFamilyRolloutReadiness
deriving DecidableEq, Repr

def NegRiskView.familyIds (view : NegRiskView) : List String :=
  view.families.map NegRiskFamilyRolloutReadiness.familyId

structure PublishedSnapshot where
  snapshotId : String
  stateVersion : Nat
  committedJournalSeq : Int
  fullsetReady : Bool
  negriskReady : Bool
  fullset : Option FullSetView
  negrisk : Option NegRiskView
deriving DecidableEq, Repr

/-- The neg-risk projection is never published from the store itself. -/
def PublishedSnapshot.fromStore (store : StateStore) (readiness : ProjectionReadiness) :
    Option PublishedSnapshot := do
  let committedJournalSeq ← store.lastAppliedJournalSeq
  let fullset : Option FullSetView :=
    if readiness.fullsetReady then
      store.anchoredFullset.map fun anchor ↦
        { snapshotId := readiness.snapshotId
          stateVersion := anchor.stateVersion
          openOrders := anchor.openOrders }
    else
      none
  return {
    snapshotId := readiness.snapshotId
    stateVersion := store.stateVersion
    committedJournalSeq
    fullsetReady := readiness.fullsetReady && fullset.isSome
    negriskReady := false
    fullset
    negrisk := none }

/-! ## Candidate publications -/

inductive CandidateProjectionStatus where
  | ready
  | lagging (reason : String)
  | failed (reason : String)
deriving DecidableEq, Repr

structure CandidateProjectionReadiness where
  publicationId : String
  status : CandidateProjectionStatus
deriving DecidableEq, Repr

structure CandidateView where
  publicationId : String
  stateVersion : Nat
  committedJournalSeq : Int
  discoveryRecords : List FamilyDiscoveryRecord
deriving DecidableEq, Repr

structure CandidatePublication where
  publicationId : String
  stateVersion : Nat
  committedJournalSeq : Int
  ready : Bool
  failureReason : Option String
  lagReason : Option String
  view : Option CandidateView
deriving DecidableEq, Repr

def CandidatePublication.fromStore (store : StateStore)
    (readiness : CandidateProjectionReadiness) : Option CandidatePublication := do
  let committedJournalSeq ← store.lastAppliedJournalSeq
  let publicationId := readiness.publicationId
  let stateVersion := store.stateVersion
  match readiness.status with
  | .ready =>
      return {
        publicationId, stateVersion, committedJournalSeq
        ready := true
        failureReason := none
        lagReason := none
        view := some
          { publicationId, stateVersion, committedJournalSeq
            discoveryRecords := store.familyDiscoveryRecords.vals } }
  | .lagging reason =>
      return {
        publicationId, stateVersion, committedJournalSeq
        ready := false
        failureReason := none
        lagReason := some reason
        view := none }
  | .failed reason =>
      return {
        publicationId, stateVersion, committedJournalSeq
        ready := false
        failureReason := some reason
        lagReason := none
        view := none }

end AxiomArb.State
