import AxiomArb.Domain.Facts
import AxiomArb.Library.Framed

/-!
# Candidate targets and strategy artifacts

What discovery proposes for adoption, and the digest of what a strategy artifact means.
-/

namespace AxiomArb.Domain

open Library

/-! ## Candidates -/

structure CandidatePolicyAnchor where
  policyName : String
  policyVersion : String
deriving DecidableEq, Repr

inductive CandidateValidationResult where
  | adoptable
  | deferred (reason : String)
  | rejected (reason : String)
deriving DecidableEq, Repr

structure CandidateTarget where
  targetId : String
  familyId : EventFamilyId
  validation : CandidateValidationResult
deriving DecidableEq, Repr

structure AdoptableTargetRevision where
  revisionId : String
  sourceSnapshotId : String
  policyVersion : String
deriving DecidableEq, Repr

structure CandidateTargetSet where
  targetSetId : String
  sourceSnapshotId : String
  discoveryRecord : FamilyDiscoveryRecord
  policy : CandidatePolicyAnchor
  targets : List CandidateTarget
  adoptableRevision : Option AdoptableTargetRevision
deriving DecidableEq, Repr

/-! ## Strategy artifacts -/

structure StrategyKey where
  route : String
  scope : String
deriving DecidableEq, Repr

namespace StrategyKey

def fields (key : StrategyKey) : List String := [key.route, key.scope]

theorem fields_injective : Function.Injective fields := by
  rintro ⟨route, scope⟩ ⟨route', scope'⟩ h
  simpa [fields] using h

/-- Keys are ordered by their route, then by their scope. -/
instance : Ord StrategyKey := Ord.byFields fields
instance : Std.TransOrd StrategyKey := transOrd_byFields fields
instance : Std.LawfulEqOrd StrategyKey := lawfulEqOrd_byFields fields_injective

end StrategyKey

structure StrategyArtifactSemanticDigestInput where
  key : StrategyKey
  routePolicyVersion : String
  canonicalSemanticPayload : String
  sourceSnapshotId : Option String
  sourceSessionId : Option String
  observedAt : Option DateTime
  strategyCandidateRevision : Option String
  adoptableStrategyRevision : Option String
  provenanceExplanation : Option String
deriving DecidableEq, Repr

/-- The digest spells out the key, the policy version and the payload, and nothing of where
the artifact came from. -/
def canonicalStrategyArtifactSemanticDigest (input : StrategyArtifactSemanticDigestInput) : String :=
  "|".intercalate
    ["strategy-artifact-semantic-v1",
      framed input.key.route,
      framed input.key.scope,
      framed input.routePolicyVersion,
      framed input.canonicalSemanticPayload]

/-- The digest ends with the payload. -/
theorem exists_semanticDigest_eq (input : StrategyArtifactSemanticDigestInput) :
    ∃ before, canonicalStrategyArtifactSemanticDigest input =
      before ++ framed input.canonicalSemanticPayload :=
  ⟨_, rfl⟩

end AxiomArb.Domain
