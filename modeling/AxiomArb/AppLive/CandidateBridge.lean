import AxiomArb.AppLive.DurableRecords
import AxiomArb.Domain.Candidates
import AxiomArb.Library.JsonText
import AxiomArb.Library.StableSort
import AxiomArb.Persistence.StrategyControl

/-!
# From a candidate notice to strategy rows

Discovery turns the records of a published view into candidate targets, and the bridge
renders these as a candidate row and, where every one is adoptable, an adoptable row.  The
revision of a row is the digest of its route artifacts: one for the full set, one for each
target.

## Honest boundary

* A digest is any function from the hashed text to a text.
* Payloads list their members in the order of their keys.
-/

namespace AxiomArb.AppLive

open Domain Library Persistence State

def BUNDLE_POLICY_VERSION : String := "strategy-bundle-v1"
def FULL_SET_ROUTE_POLICY_VERSION : String := "full-set-route-policy-v1"
def NEG_RISK_ROUTE_POLICY_VERSION : String := "neg-risk-route-policy-v1"

/-! ## Targets in JSON -/

def NegRiskMemberLiveTarget.toJson (member : NegRiskMemberLiveTarget) : Json :=
  .object
    [("condition_id", .string member.conditionId),
      ("price", .string member.price.text),
      ("quantity", .string member.quantity.text),
      ("token_id", .string member.tokenId)]

def NegRiskFamilyLiveTarget.toJson (target : NegRiskFamilyLiveTarget) : Json :=
  .object
    [("family_id", .string target.familyId),
      ("members", .array (target.members.map NegRiskMemberLiveTarget.toJson))]

/-- A missing target is `null`. -/
def optionalLiveTargetJson : Option NegRiskFamilyLiveTarget → Json
  | some target => target.toJson
  | none => .null

def liveTargetsJson (targets : BTreeMap String NegRiskFamilyLiveTarget) : Json :=
  .object (targets.toList.map fun (familyId, target) ↦ (familyId, target.toJson))

def serializedValidation : CandidateValidationResult → Json
  | .adoptable => .object [("status", .string "adoptable")]
  | .deferred reason => .object [("reason", .string reason), ("status", .string "deferred")]
  | .rejected reason => .object [("reason", .string reason), ("status", .string "excluded")]

def serializedCandidateTarget (target : CandidateTarget) : Json :=
  .object
    [("family_id", .string target.familyId),
      ("target_id", .string target.targetId),
      ("validation", serializedValidation target.validation)]

/-! ## Route artifacts -/

structure RouteArtifact where
  key : StrategyKey
  routePolicyVersion : String
  semanticDigest : String
  content : Json
deriving DecidableEq, Repr

def serializedRouteArtifact (artifact : RouteArtifact) : Json :=
  .object
    [("content", artifact.content),
      ("key", .object
        [("route", .string artifact.key.route), ("scope", .string artifact.key.scope)]),
      ("route_policy_version", .string artifact.routePolicyVersion),
      ("semantic_digest", .string artifact.semanticDigest)]

def routeSemanticDigest (key : StrategyKey) (routePolicyVersion : String) (content : Json) : String :=
  canonicalStrategyArtifactSemanticDigest
    { key
      routePolicyVersion
      canonicalSemanticPayload := content.text
      sourceSnapshotId := none
      sourceSessionId := none
      observedAt := none
      strategyCandidateRevision := none
      adoptableStrategyRevision := none
      provenanceExplanation := none }

/-- An artifact with the digest of its content. -/
def RouteArtifact.digested (key : StrategyKey) (routePolicyVersion : String) (content : Json) :
    RouteArtifact :=
  { key, routePolicyVersion, content
    semanticDigest := routeSemanticDigest key routePolicyVersion content }

def fullSetRouteArtifact (fullSetBasisDigest : String) : RouteArtifact :=
  .digested { route := "full-set", scope := "default" } FULL_SET_ROUTE_POLICY_VERSION (.object
    [("config_basis_digest", .string fullSetBasisDigest), ("mode", .string "static-default")])

/-- The scope of a target: its family, unless that is blank. -/
def routeScope (target : CandidateTarget) : String :=
  if (trim target.familyId).isEmpty then s!"target:{target.targetId}" else target.familyId

def negRiskRouteArtifact (target : CandidateTarget)
    (renderedLiveTarget : Option NegRiskFamilyLiveTarget) : RouteArtifact :=
  .digested { route := "neg-risk", scope := routeScope target } NEG_RISK_ROUTE_POLICY_VERSION (.object
    [("family_id", .string target.familyId),
      ("rendered_live_target", optionalLiveTargetJson renderedLiveTarget),
      ("target_id", .string target.targetId),
      ("validation", serializedValidation target.validation)])

section Bridge

variable (sha256 : String → String)

/-- What is hashed, an artifact later. -/
def hashArtifact (hashed : String) (artifact : RouteArtifact) : String :=
  hashed ++ (artifact.key.route ++ "\x00" ++ artifact.key.scope ++ "\x00" ++
    artifact.semanticDigest ++ "\x00")

def bundleRevision (kind : String) (routeArtifacts : List RouteArtifact) : String :=
  s!"{kind}-{sha256 (routeArtifacts.foldl hashArtifact (BUNDLE_POLICY_VERSION ++ kind))}"

def strategyCandidateRevision (routeArtifacts : List RouteArtifact) : String :=
  bundleRevision sha256 "strategy-candidate" routeArtifacts

def adoptableStrategyRevision (routeArtifacts : List RouteArtifact) : String :=
  bundleRevision sha256 "adoptable-strategy" routeArtifacts

namespace CandidatePricingEngine

def advisoryTerms (candidateSet : CandidateTargetSet) : Json :=
  .object
    [("candidate_count", .number (toString candidateSet.targets.length)),
      ("mode", .string "advisory_only"),
      ("price_band_bps", .number "25"),
      ("size_cap_contracts", .number "1")]

end CandidatePricingEngine

structure CandidateArtifactRender where
  candidate : StrategyCandidateSetRow
  adoptable : AdoptableStrategyRevisionRow
deriving DecidableEq, Repr

namespace CandidateBridge

variable (candidateSet : CandidateTargetSet)
  (renderedLiveTargets : BTreeMap String NegRiskFamilyLiveTarget) (fullSetBasisDigest : String)

def routeArtifacts : List RouteArtifact :=
  sortByKey RouteArtifact.key (fullSetRouteArtifact fullSetBasisDigest ::
    candidateSet.targets.map fun target ↦
      negRiskRouteArtifact target renderedLiveTargets[target.familyId]?)

def operatorStrategyRevision : String :=
  bundleRevision sha256 "operator-strategy"
    (routeArtifacts candidateSet renderedLiveTargets fullSetBasisDigest)

def renderCandidateWithFullSetBasis : StrategyCandidateSetRow :=
  let advisory := CandidatePricingEngine.advisoryTerms candidateSet
  let routeArtifacts := routeArtifacts candidateSet renderedLiveTargets fullSetBasisDigest
  let revision := strategyCandidateRevision sha256 routeArtifacts
  { strategyCandidateRevision := revision
    snapshotId := revision
    sourceRevision := revision
    payload := .object
      [("advisory_pricing", advisory),
        ("bundle_policy_version", .string BUNDLE_POLICY_VERSION),
        ("candidate_policy_version", .string candidateSet.policy.policyVersion),
        ("execution_requests", .array []),
        ("policy_name", .string candidateSet.policy.policyName),
        ("route_artifact_count", .number (toString routeArtifacts.length)),
        ("route_artifacts", .array (routeArtifacts.map serializedRouteArtifact)),
        ("snapshot_id", .string revision),
        ("source_revision", .string revision),
        ("strategy_candidate_revision", .string revision),
        ("target_count", .number (toString candidateSet.targets.length)),
        ("targets", .array (candidateSet.targets.map serializedCandidateTarget)),
        ("warnings", .array [])] }

/-- The adoptable row beside a candidate row. -/
def adoptableRow (candidate : StrategyCandidateSetRow) : AdoptableStrategyRevisionRow :=
  let renderedOperatorStrategyRevision :=
    operatorStrategyRevision sha256 candidateSet renderedLiveTargets fullSetBasisDigest
  let routeArtifacts := routeArtifacts candidateSet renderedLiveTargets fullSetBasisDigest
  let adoptableStrategyRevision := adoptableStrategyRevision sha256 routeArtifacts
  { adoptableStrategyRevision
    strategyCandidateRevision := candidate.strategyCandidateRevision
    renderedOperatorStrategyRevision
    payload := .object
      [("adoptable_strategy_revision", .string adoptableStrategyRevision),
        ("bundle_policy_version", .string BUNDLE_POLICY_VERSION),
        ("execution_requests", .array []),
        ("rendered_live_targets", liveTargetsJson renderedLiveTargets),
        ("rendered_operator_strategy_revision", .string renderedOperatorStrategyRevision),
        ("route_artifact_count", .number (toString routeArtifacts.length)),
        ("route_artifacts", .array (routeArtifacts.map serializedRouteArtifact)),
        ("strategy_candidate_revision", .string candidate.strategyCandidateRevision),
        ("warnings", .array [])] }

def renderWithFullSetBasis : Except String CandidateArtifactRender :=
  let candidate :=
    renderCandidateWithFullSetBasis sha256 candidateSet renderedLiveTargets fullSetBasisDigest
  match candidateSet.adoptableRevision with
  | none => .error "candidate bridge requires an adoptable revision"
  | some _ =>
      .ok
        { candidate
          adoptable :=
            adoptableRow sha256 candidateSet renderedLiveTargets fullSetBasisDigest candidate }

end CandidateBridge

end Bridge

/-! ## Validation -/

structure ValidationSummary where
  adoptableCount : Nat
  deferredCount : Nat
  excludedCount : Nat
deriving DecidableEq, Repr

namespace ValidationSummary

def count (summary : ValidationSummary) (target : CandidateTarget) : ValidationSummary :=
  match target.validation with
  | .adoptable => { summary with adoptableCount := summary.adoptableCount + 1 }
  | .deferred _ => { summary with deferredCount := summary.deferredCount + 1 }
  | .rejected _ => { summary with excludedCount := summary.excludedCount + 1 }

def fromTargets (targets : List CandidateTarget) : ValidationSummary :=
  targets.foldl count { adoptableCount := 0, deferredCount := 0, excludedCount := 0 }

def aggregateDisposition (summary : ValidationSummary) : String :=
  if summary.adoptableCount > 0 ∧ summary.deferredCount = 0 ∧ summary.excludedCount = 0 then
    "adoptable"
  else if summary.excludedCount > 0 then "excluded"
  else "deferred"

theorem foldl_count (summary : ValidationSummary) (targets : List CandidateTarget) :
    targets.foldl count summary =
      { adoptableCount := summary.adoptableCount +
          targets.countP fun target ↦ target.validation matches .adoptable
        deferredCount := summary.deferredCount +
          targets.countP fun target ↦ target.validation matches .deferred _
        excludedCount := summary.excludedCount +
          targets.countP fun target ↦ target.validation matches .rejected _ } := by
  induction targets generalizing summary with
  | nil => rfl
  | cons target targets ih =>
      rw [List.foldl_cons, ih]
      cases hvalidation : target.validation <;>
        simp [count, hvalidation, Nat.add_assoc, Nat.add_comm 1]

theorem aggregateDisposition_eq_adoptable_iff {targets : List CandidateTarget} :
    (fromTargets targets).aggregateDisposition = "adoptable" ↔
      targets ≠ [] ∧ ∀ target ∈ targets, target.validation = .adoptable := by
  have hexact : (fromTargets targets).aggregateDisposition = "adoptable" ↔
      (fromTargets targets).adoptableCount > 0 ∧ (fromTargets targets).deferredCount = 0 ∧
        (fromTargets targets).excludedCount = 0 := by
    rw [aggregateDisposition]
    split_ifs with h h' <;> simp [h]
  rw [hexact, fromTargets, foldl_count]
  simp only [Nat.zero_add, gt_iff_lt, List.countP_pos_iff, List.countP_eq_zero]
  constructor
  · rintro ⟨⟨target, hmem, -⟩, hdeferred, hexcluded⟩
    refine ⟨List.ne_nil_of_mem hmem, fun other hother ↦ ?_⟩
    have hdeferred := hdeferred other hother
    have hexcluded := hexcluded other hother
    cases hvalidation : other.validation with
    | adoptable => rfl
    | deferred reason => simp [hvalidation] at hdeferred
    | rejected reason => simp [hvalidation] at hexcluded
  · rintro ⟨hne, hall⟩
    obtain ⟨target, hmem⟩ := List.exists_mem_of_ne_nil _ hne
    refine ⟨⟨target, hmem, by simp [hall target hmem]⟩, ?_, ?_⟩ <;>
      exact fun other hother ↦ by simp [hall other hother]

end ValidationSummary

def deferredReason (discoveryRecord : FamilyDiscoveryRecord) : String :=
  if discoveryRecord.backfillCompletedAt.isNone then
    "candidate generation deferred until discovery backfill completes"
  else "candidate generation deferred by conservative discovery policy"

def validationForRecord (discoveryRecord : FamilyDiscoveryRecord) (authoritative : Bool) :
    CandidateValidationResult :=
  if !authoritative && discoveryRecord.backfillCompletedAt.isNone then
    .deferred (deferredReason discoveryRecord)
  else if (trim discoveryRecord.familyId).isEmpty then
    .rejected "candidate excluded by conservative discovery policy"
  else .adoptable

namespace CandidateValidationEngine

def candidateSetFromPublication (publication : CandidatePublication) (authoritative : Bool) :
    Except String (CandidateTargetSet × String × ValidationSummary) :=
  match publication.view with
  | none => .error "candidate publication is not ready"
  | some view =>
      match view.discoveryRecords.head? with
      | none => .error "candidate publication has no discovery records"
      | some discoveryRecord =>
          let targets := view.discoveryRecords.map fun record ↦
            { targetId := s!"candidate-target-{record.familyId}"
              familyId := record.familyId
              validation := validationForRecord record authoritative }
          let summary := ValidationSummary.fromTargets targets
          let disposition := summary.aggregateDisposition
          let candidateSet : CandidateTargetSet :=
            { targetSetId := publication.publicationId
              sourceSnapshotId := publication.publicationId
              discoveryRecord
              policy := { policyName := "candidate-generation", policyVersion := "policy-v1" }
              targets
              adoptableRevision :=
                if disposition = "adoptable" then
                  some
                    { revisionId := s!"adoptable-{publication.publicationId}"
                      sourceSnapshotId := publication.publicationId
                      policyVersion := "policy-v1" }
                else none }
          .ok (candidateSet, disposition, summary)

end CandidateValidationEngine

/-- The validation of a target under a hard gate. -/
def gatedValidation (reason : String) : CandidateValidationResult → CandidateValidationResult
  | .adoptable => .deferred reason
  | validation => validation

def applyCandidateRestriction (candidateSet : CandidateTargetSet)
    (restriction : CandidateRestrictionTruth) : CandidateTargetSet :=
  match restriction.hardGateReason with
  | none => candidateSet
  | some reason =>
      let gated := candidateSet.targets.any fun target ↦ target.validation = .adoptable
      { candidateSet with
        targets := candidateSet.targets.map fun target ↦
          { target with validation := gatedValidation reason target.validation }
        adoptableRevision := if gated then none else candidateSet.adoptableRevision }

/-! ## Processing a notice -/

structure DiscoveryOutcome where
  report : DiscoveryReport
  candidate : Option StrategyCandidateSetRow
  adoptable : Option AdoptableStrategyRevisionRow
  provenance : Option StrategyAdoptionProvenanceRow
deriving DecidableEq, Repr

namespace DiscoverySupervisor

/-- What a notice that does not touch the candidates leaves. -/
def ignored (operatorTargetRevision : Option String) : DiscoveryOutcome :=
  { report :=
      { candidateRevision := none
        adoptableRevision := none
        operatorTargetRevision
        targetCount := 0
        adoptableTargetCount := 0
        deferredTargetCount := 0
        excludedTargetCount := 0
        liveDispatchWoken := false
        disposition := "ignored"
        warnings := [] }
    candidate := none
    adoptable := none
    provenance := none }

def processNotice (sha256 : String → String) (notice : CandidateNotice) :
    Except String DiscoveryOutcome := do
  let warnings := notice.restriction.restrictionReason.toList
  if !notice.dirtyDomains.contains .candidates then
    return ignored notice.operatorTargetRevision
  let (candidateSet, _, _) ← CandidateValidationEngine.candidateSetFromPublication
    notice.publication notice.authoritative
  let candidateSet := applyCandidateRestriction candidateSet notice.restriction
  let summary := ValidationSummary.fromTargets candidateSet.targets
  let disposition := summary.aggregateDisposition
  let candidate := CandidateBridge.renderCandidateWithFullSetBasis sha256 candidateSet
    notice.renderedLiveTargets notice.fullSetBasisDigest
  if disposition ≠ "adoptable" then
    return {
      report :=
        { candidateRevision := some candidate.strategyCandidateRevision
          adoptableRevision := none
          operatorTargetRevision := none
          targetCount := candidateSet.targets.length
          adoptableTargetCount := summary.adoptableCount
          deferredTargetCount := summary.deferredCount
          excludedTargetCount := summary.excludedCount
          liveDispatchWoken := false
          disposition
          warnings }
      candidate := some candidate
      adoptable := none
      provenance := none }
  let rendered ← CandidateBridge.renderWithFullSetBasis sha256 candidateSet
    notice.renderedLiveTargets notice.fullSetBasisDigest
  return {
    report :=
      { candidateRevision := some rendered.candidate.strategyCandidateRevision
        adoptableRevision := some rendered.adoptable.adoptableStrategyRevision
        operatorTargetRevision := some rendered.adoptable.renderedOperatorStrategyRevision
        targetCount := candidateSet.targets.length
        adoptableTargetCount := summary.adoptableCount
        deferredTargetCount := summary.deferredCount
        excludedTargetCount := summary.excludedCount
        liveDispatchWoken := false
        disposition
        warnings }
    candidate := some rendered.candidate
    adoptable := some rendered.adoptable
    provenance := none }

/-- A step on the store, with its error in other words. -/
def renamed (rename : PersistenceError → String) (step : Command PersistenceError StrategyStore Unit) :
    Command String StrategyStore Unit :=
  focus id (fun _ store ↦ store) rename step

/-- Render a notice and store its rows. -/
def persistNoticeForRuntime (sha256 : String → String) (notice : CandidateNotice) :
    Command String StrategyStore DiscoveryReport := do
  let outcome ← liftM (processNotice sha256 notice)
  match outcome.candidate with
  | some candidate =>
      renamed (fun error ↦ s!"candidate persistence error: {error.toString}")
        (StrategyStore.upsertStrategyCandidateSet candidate)
  | none => pure ⟨⟩
  match outcome.adoptable with
  | some adoptable =>
      renamed (fun error ↦ s!"adoptable persistence error: {error.toString}")
        (StrategyStore.upsertAdoptableStrategyRevision adoptable)
  | none => pure ⟨⟩
  match outcome.provenance with
  | some provenance =>
      renamed (fun error ↦ s!"candidate provenance persistence error: {error.toString}")
        (StrategyStore.upsertProvenance provenance)
  | none => pure ⟨⟩
  return outcome.report

end DiscoverySupervisor

end AxiomArb.AppLive
