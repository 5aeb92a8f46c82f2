import AxiomArb.AppLive.Runtime
import AxiomArb.Library.ScaledDecimal
import Mathlib.Data.List.Sort

/-!
# Queues of the supervisor

The ingress queue holds the journal inputs that are still to be applied, in the
order of their sequence numbers.  A candidate notice is what the supervisor hands
to discovery when the candidates have changed.
-/

namespace AxiomArb.AppLive

open Domain Library State

/-! ## Order of the journal -/

/-- The order a stable sort by sequence number establishes. -/
def InputTaskEvent.NotAfter (input input' : InputTaskEvent) : Prop :=
  input.journalSeq ≤ input'.journalSeq

namespace InputTaskEvent

instance : DecidableRel NotAfter := fun input input' ↦
  inferInstanceAs (Decidable (input.journalSeq ≤ input'.journalSeq))

instance : Std.Total NotAfter := ⟨fun input input' ↦ Int.le_total input.journalSeq input'.journalSeq⟩

instance : IsTrans InputTaskEvent NotAfter := ⟨fun _ _ _ ↦ Int.le_trans⟩

/-- Inputs with the same number keep their order. -/
def sortByJournalSeq (inputs : List InputTaskEvent) : List InputTaskEvent :=
  inputs.insertionSort NotAfter

theorem sortByJournalSeq_perm (inputs : List InputTaskEvent) :
    (sortByJournalSeq inputs).Perm inputs := List.perm_insertionSort NotAfter inputs

@[simp] theorem mem_sortByJournalSeq {input : InputTaskEvent} {inputs : List InputTaskEvent} :
    input ∈ sortByJournalSeq inputs ↔ input ∈ inputs := (sortByJournalSeq_perm inputs).mem_iff

end InputTaskEvent

/-! ## Ingress -/

/-- The inputs that have not been applied yet, by ascending sequence number. -/
structure IngressQueue where
  backlog : List InputTaskEvent
  sorted : backlog.Pairwise InputTaskEvent.NotAfter
deriving DecidableEq

namespace IngressQueue

def empty : IngressQueue := { backlog := [], sorted := .nil }

variable (queue : IngressQueue) (input : InputTaskEvent)

def push : IngressQueue :=
  { backlog := InputTaskEvent.sortByJournalSeq (queue.backlog ++ [input])
    sorted := List.pairwise_insertionSort InputTaskEvent.NotAfter _ }

/-- The first input past the number `lastJournalSeq`; the first of all without one. -/
def nextAfter (lastJournalSeq : Option Int) : Option InputTaskEvent :=
  queue.backlog.find? fun entry ↦ lastJournalSeq.all (· < entry.journalSeq)

/-- Take out one copy of an input. -/
def remove : IngressQueue :=
  { backlog := queue.backlog.erase input
    sorted := queue.sorted.sublist List.erase_sublist }

def len : Nat := queue.backlog.length

def isEmpty : Bool := queue.backlog.isEmpty

end IngressQueue

/-! ## Domains of the two books -/

def fullsetDomains : List DirtyDomain :=
  [.runtime, .orders, .inventory, .approvals, .resolution, .relayer]

def negriskDomains : List DirtyDomain := [.negRiskFamilies]

def isFullsetDomain (domain : DirtyDomain) : Bool := fullsetDomains.contains domain

/-! ## Targets and candidate notices -/

/-- A member of a target; its decimals keep their scale, which its JSON shows. -/
structure NegRiskMemberLiveTarget where
  conditionId : String
  tokenId : String
  price : ScaledDecimal
  quantity : ScaledDecimal
deriving DecidableEq, Repr

structure NegRiskFamilyLiveTarget where
  familyId : String
  members : List NegRiskMemberLiveTarget
deriving DecidableEq, Repr

inductive CandidateRestrictionTruth where
  | eligible
  | advisory (reason : String)
  | restricted (reason : String)
deriving DecidableEq, Repr

def defaultFullSetBasisDigest : String := "full-set-basis-default"

structure CandidateNotice where
  publication : CandidatePublication
  dirtyDomains : List DirtyDomain
  operatorTargetRevision : Option String
  renderedLiveTargets : BTreeMap String NegRiskFamilyLiveTarget
  restriction : CandidateRestrictionTruth
  authoritative : Bool
  fullSetBasisDigest : String

namespace CandidateRestrictionTruth

def restrictionReason : CandidateRestrictionTruth → Option String
  | eligible => none
  | advisory reason | restricted reason => some reason

def hardGateReason : CandidateRestrictionTruth → Option String
  | restricted reason => some reason
  | eligible | advisory _ => none

end CandidateRestrictionTruth

def CandidateNotice.fromPublicationWithAuthority (publication : CandidatePublication)
    (dirtyDomains : List DirtyDomain) (operatorTargetRevision : Option String)
    (renderedLiveTargets : BTreeMap String NegRiskFamilyLiveTarget)
    (restriction : CandidateRestrictionTruth) (authoritative : Bool) : CandidateNotice :=
  { publication, dirtyDomains, operatorTargetRevision, renderedLiveTargets, restriction
    authoritative
    fullSetBasisDigest := defaultFullSetBasisDigest }

/-- What discovery reports of a candidate notice. -/
structure DiscoveryReport where
  candidateRevision : Option String
  adoptableRevision : Option String
  operatorTargetRevision : Option String
  targetCount : Nat
  adoptableTargetCount : Nat
  deferredTargetCount : Nat
  excludedTargetCount : Nat
  liveDispatchWoken : Bool
  disposition : String
  warnings : List String
deriving DecidableEq, Repr

end AxiomArb.AppLive
