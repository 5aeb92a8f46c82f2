import AxiomArb.AppLive.CandidateBridge
import AxiomArb.Execution.PlanIdentity

/-!
# What a strategy revision identifies

The text a revision is the digest of is read back from its end, one artifact after the
other, since no content holds what begins a content.
-/

namespace AxiomArb.AppLive

open Domain Library Persistence State

/-! ## Contents -/

section Contents

variable {artifact artifact' : RouteArtifact}

theorem NegRiskMemberLiveTarget.valid_toJson (member : NegRiskMemberLiveTarget) :
    member.toJson.Valid := by
  refine .object fun entry hentry ↦ ?_
  simp only [List.mem_cons, List.not_mem_nil, or_false] at hentry
  rcases hentry with rfl | rfl | rfl | rfl <;> exact .string _

theorem NegRiskFamilyLiveTarget.valid_toJson (target : NegRiskFamilyLiveTarget) :
    target.toJson.Valid := by
  refine .object fun entry hentry ↦ ?_
  simp only [List.mem_cons, List.not_mem_nil, or_false] at hentry
  rcases hentry with rfl | rfl
  · exact .string _
  · refine .array fun item hitem ↦ ?_
    obtain ⟨member, -, rfl⟩ := List.mem_map.mp hitem
    exact member.valid_toJson

theorem valid_optionalLiveTargetJson (target : Option NegRiskFamilyLiveTarget) :
    (optionalLiveTargetJson target).Valid := by
  cases target with
  | none => exact .null
  | some target => exact target.valid_toJson

theorem valid_serializedValidation (validation : CandidateValidationResult) :
    (serializedValidation validation).Valid := by
  cases validation <;> refine .object fun entry hentry ↦ ?_ <;>
    simp only [List.mem_cons, List.not_mem_nil, or_false] at hentry
  · rw [hentry]
    exact .string _
  · rcases hentry with rfl | rfl <;> exact .string _
  · rcases hentry with rfl | rfl <;> exact .string _

/-- The artifacts the bridge renders. -/
inductive RouteArtifact.Rendered : RouteArtifact → Prop where
  | fullSet (fullSetBasisDigest : String) : Rendered (fullSetRouteArtifact fullSetBasisDigest)
  | negRisk (target : CandidateTarget) (renderedLiveTarget : Option NegRiskFamilyLiveTarget) :
      Rendered (negRiskRouteArtifact target renderedLiveTarget)

namespace RouteArtifact.Rendered

theorem valid (h : artifact.Rendered) : artifact.content.Valid := by
  cases h with
  | fullSet fullSetBasisDigest =>
      refine .object fun entry hentry ↦ ?_
      simp only [List.mem_cons, List.not_mem_nil, or_false] at hentry
      rcases hentry with rfl | rfl <;> exact .string _
  | negRisk target renderedLiveTarget =>
      refine .object fun entry hentry ↦ ?_
      simp only [List.mem_cons, List.not_mem_nil, or_false] at hentry
      rcases hentry with rfl | rfl | rfl | rfl
      · exact .string _
      · exact valid_optionalLiveTargetJson renderedLiveTarget
      · exact .string _
      · exact valid_serializedValidation target.validation

theorem opensKey (h : artifact.Rendered) : artifact.content.OpensKey := by
  cases h with
  | fullSet fullSetBasisDigest =>
      have hkey : "config_basis_digest".toList = 'c' :: "onfig_basis_digest".toList := by decide
      exact Json.opensKey_object hkey (by decide) rfl
  | negRisk target renderedLiveTarget =>
      have hkey : "family_id".toList = 'f' :: "amily_id".toList := by decide
      exact Json.opensKey_object hkey (by decide) rfl

/-- An artifact is known by its content. -/
theorem eq_of_content_eq (h : artifact.Rendered) (h' : artifact'.Rendered)
    (hcontent : artifact.content = artifact'.content) : artifact = artifact' := by
  cases h with
  | fullSet fullSetBasisDigest =>
      cases h' with
      | fullSet fullSetBasisDigest' =>
          simp only [fullSetRouteArtifact, digested] at hcontent ⊢
          rw [hcontent]
      | negRisk target renderedLiveTarget =>
          simp [fullSetRouteArtifact, negRiskRouteArtifact, digested] at hcontent
  | negRisk target renderedLiveTarget =>
      cases h' with
      | fullSet fullSetBasisDigest =>
          simp [fullSetRouteArtifact, negRiskRouteArtifact, digested] at hcontent
      | negRisk target' renderedLiveTarget' =>
          have hfields := hcontent
          simp only [negRiskRouteArtifact, digested, Json.object.injEq, List.cons.injEq,
            Prod.mk.injEq, Json.string.injEq, true_and, and_true] at hfields
          have hscope : routeScope target = routeScope target' := by
            rw [routeScope, routeScope, hfields.1, hfields.2.2.1]
          simp only [negRiskRouteArtifact, digested] at hcontent ⊢
          rw [hcontent, hscope]

end RouteArtifact.Rendered

end Contents

/-! ## The hashed text -/

section Hashed

variable {artifact artifact' : RouteArtifact} {artifacts artifacts' : List RouteArtifact}

/-- The digest ends with the content behind a digit and a colon. -/
theorem RouteArtifact.Rendered.exists_toList_semanticDigest_eq (h : artifact.Rendered) :
    ∃ before digit, digit.isDigit ∧
      artifact.semanticDigest.toList = before ++ digit :: ':' :: artifact.content.text.toList := by
  have hdigest : artifact.semanticDigest = routeSemanticDigest artifact.key
      artifact.routePolicyVersion artifact.content := by
    cases h <;> rfl
  obtain ⟨before, hbefore⟩ := exists_semanticDigest_eq
    { key := artifact.key
      routePolicyVersion := artifact.routePolicyVersion
      canonicalSemanticPayload := artifact.content.text
      sourceSnapshotId := none
      sourceSessionId := none
      observedAt := none
      strategyCandidateRevision := none
      adoptableStrategyRevision := none
      provenanceExplanation := none }
  obtain ⟨digits, digit, hdigit, hframed⟩ := exists_toList_framed_eq artifact.content.text
  refine ⟨before.toList ++ digits, digit, hdigit, ?_⟩
  rw [hdigest, routeSemanticDigest, hbefore, String.toList_append, hframed, List.append_assoc]

/-- The last artifact is known from what is hashed. -/
theorem hashArtifact_inj (h : artifact.Rendered) (h' : artifact'.Rendered) {hashed hashed' : String}
    (heq : hashArtifact hashed artifact = hashArtifact hashed' artifact') :
    hashed = hashed' ∧ artifact = artifact' := by
  have hlist := congrArg String.toList heq
  obtain ⟨before, digit, hdigit, htext⟩ := h.exists_toList_semanticDigest_eq
  obtain ⟨before', digit', hdigit', htext'⟩ := h'.exists_toList_semanticDigest_eq
  simp only [hashArtifact, String.toList_append, htext, htext', ← List.append_assoc] at hlist
  have hcontent : artifact.content = artifact'.content :=
    Json.append_text_inj h.valid h'.valid h.opensKey h'.opensKey hdigit hdigit'
      (List.append_cancel_right hlist)
  obtain rfl := h.eq_of_content_eq h' hcontent
  exact ⟨(String.append_left_inj _).mp heq, rfl⟩

theorem length_le_foldl_hashArtifact (hashed : String) (artifacts : List RouteArtifact) :
    hashed.length + artifacts.length ≤ (artifacts.foldl hashArtifact hashed).length := by
  induction artifacts generalizing hashed with
  | nil => simp
  | cons artifact artifacts ih =>
      have hlonger : hashed.length + 1 ≤ (hashArtifact hashed artifact).length := by
        simp only [hashArtifact, String.length_append]
        have hzero : ("\x00" : String).length = 1 := rfl
        omega
      have hrest := ih (hashArtifact hashed artifact)
      rw [List.foldl_cons, List.length_cons]
      omega

/-- **The artifacts are known from what is hashed.** -/
theorem foldl_hashArtifact_inj (h : ∀ artifact ∈ artifacts, artifact.Rendered)
    (h' : ∀ artifact ∈ artifacts', artifact.Rendered) (hashed : String)
    (heq : artifacts.foldl hashArtifact hashed = artifacts'.foldl hashArtifact hashed) :
    artifacts = artifacts' := by
  -- from the end, since only there the content is known from the text
  induction artifacts using List.reverseRecOn generalizing artifacts' with
  | nil =>
      have hlength := length_le_foldl_hashArtifact hashed artifacts'
      rw [← heq, List.foldl_nil] at hlength
      exact (List.eq_nil_of_length_eq_zero (by omega)).symm
  | append_singleton artifacts artifact ih =>
      rcases List.eq_nil_or_concat artifacts' with rfl | ⟨artifacts', artifact', rfl⟩
      · have hlength := length_le_foldl_hashArtifact hashed (artifacts ++ [artifact])
        rw [heq, List.foldl_nil, List.length_append] at hlength
        simp at hlength
      · rw [List.foldl_concat, List.concat_eq_append, List.foldl_append] at heq
        obtain ⟨hrest, rfl⟩ := hashArtifact_inj (h _ (by simp)) (h' _ (by simp)) heq
        rw [ih (fun other hother ↦ h other (by simp [hother]))
          (fun other hother ↦ h' other (by simp [hother])) hrest, List.concat_eq_append]

variable {sha256 : String → String}

theorem bundleRevision_eq_iff (hsha : Function.Injective sha256) {kind : String}
    (h : ∀ artifact ∈ artifacts, artifact.Rendered)
    (h' : ∀ artifact ∈ artifacts', artifact.Rendered) :
    bundleRevision sha256 kind artifacts = bundleRevision sha256 kind artifacts' ↔
      artifacts = artifacts' := by
  refine ⟨fun heq ↦ ?_, congrArg _⟩
  have hdigest := (String.append_right_inj (toString kind ++ "-")).mp heq
  exact foldl_hashArtifact_inj h h' _ (hsha hdigest)

end Hashed

/-! ## What is rendered -/

section Rendered

variable {target target' : CandidateTarget} {rendered rendered' : Option NegRiskFamilyLiveTarget}

theorem NegRiskMemberLiveTarget.toJson_injective : Function.Injective toJson := by
  rintro ⟨conditionId, tokenId, price, quantity⟩ ⟨conditionId', tokenId', price', quantity'⟩ h
  simp only [toJson, Json.object.injEq, List.cons.injEq, Prod.mk.injEq, Json.string.injEq,
    true_and, and_true] at h
  obtain ⟨rfl, hprice, hquantity, rfl⟩ := h
  rw [ScaledDecimal.text_injective hprice, ScaledDecimal.text_injective hquantity]

theorem NegRiskFamilyLiveTarget.toJson_injective : Function.Injective toJson := by
  rintro ⟨familyId, members⟩ ⟨familyId', members'⟩ h
  simp only [toJson, Json.object.injEq, List.cons.injEq, Prod.mk.injEq, Json.string.injEq,
    Json.array.injEq, true_and, and_true] at h
  obtain ⟨rfl, hmembers⟩ := h
  rw [NegRiskMemberLiveTarget.toJson_injective.list_map hmembers]

theorem optionalLiveTargetJson_injective : Function.Injective optionalLiveTargetJson := by
  intro rendered rendered' h
  cases rendered with
  | none =>
      cases rendered' with
      | none => rfl
      | some target' => cases h
  | some target =>
      cases rendered' with
      | none => cases h
      | some target' => rw [NegRiskFamilyLiveTarget.toJson_injective h]

theorem liveTargetsJson_injective : Function.Injective liveTargetsJson := by
  intro targets targets' h
  rw [liveTargetsJson, liveTargetsJson, Json.object.injEq] at h
  refine Std.ExtTreeMap.toList_inj.mp (List.map_injective_iff.mpr ?_ h)
  rintro ⟨familyId, target⟩ ⟨familyId', target'⟩ heq
  obtain ⟨rfl, htarget⟩ := Prod.mk.inj heq
  rw [NegRiskFamilyLiveTarget.toJson_injective htarget]

theorem serializedValidation_injective : Function.Injective serializedValidation := by
  intro validation validation' h
  cases validation <;> cases validation' <;> simp_all [serializedValidation]

theorem serializedCandidateTarget_injective : Function.Injective serializedCandidateTarget := by
  rintro ⟨targetId, familyId, validation⟩ ⟨targetId', familyId', validation'⟩ h
  simp only [serializedCandidateTarget, Json.object.injEq, List.cons.injEq, Prod.mk.injEq,
    Json.string.injEq, true_and, and_true] at h
  obtain ⟨rfl, rfl, hvalidation⟩ := h
  rw [serializedValidation_injective hvalidation]

theorem fullSetRouteArtifact_injective : Function.Injective fullSetRouteArtifact := by
  intro fullSetBasisDigest fullSetBasisDigest' h
  have hcontent := congrArg RouteArtifact.content h
  simpa [fullSetRouteArtifact, RouteArtifact.digested] using hcontent

theorem negRiskRouteArtifact_inj
    (h : negRiskRouteArtifact target rendered = negRiskRouteArtifact target' rendered') :
    target = target' ∧ rendered = rendered' := by
  have hcontent := congrArg RouteArtifact.content h
  simp only [negRiskRouteArtifact, RouteArtifact.digested, Json.object.injEq, List.cons.injEq,
    Prod.mk.injEq, Json.string.injEq, true_and, and_true] at hcontent
  obtain ⟨hfamily, hrendered, hid, hvalidation⟩ := hcontent
  refine ⟨?_, optionalLiveTargetJson_injective hrendered⟩
  cases target
  cases target'
  simp only [CandidateTarget.mk.injEq]
  exact ⟨hid, hfamily, serializedValidation_injective hvalidation⟩

end Rendered

/-! ## Listings -/

/-- The targets, each with what is rendered for it. -/
def listing (targets : List CandidateTarget)
    (renderedLiveTargets : BTreeMap String NegRiskFamilyLiveTarget) :
    List (CandidateTarget × Option NegRiskFamilyLiveTarget) :=
  targets.map fun target ↦ (target, renderedLiveTargets[target.familyId]?)

/-- Scope by scope the same is listed, in the same order. -/
def ListedAlike (entries entries' : List (CandidateTarget × Option NegRiskFamilyLiveTarget)) : Prop :=
  ∀ scope, entries.filter (routeScope ·.1 = scope) = entries'.filter (routeScope ·.1 = scope)

section Listings

variable {sha256 : String → String} {candidateSet candidateSet' : CandidateTargetSet}
  {renderedLiveTargets renderedLiveTargets' : BTreeMap String NegRiskFamilyLiveTarget}
  {fullSetBasisDigest fullSetBasisDigest' : String}

theorem rendered_of_mem_routeArtifacts {artifact : RouteArtifact}
    (h : artifact ∈ CandidateBridge.routeArtifacts candidateSet renderedLiveTargets
      fullSetBasisDigest) : artifact.Rendered := by
  rw [CandidateBridge.routeArtifacts, mem_sortByKey] at h
  rcases List.mem_cons.mp h with rfl | h
  · exact .fullSet fullSetBasisDigest
  · obtain ⟨target, -, rfl⟩ := List.mem_map.mp h
    exact .negRisk target _

/-- The artifacts of one key: that of the full set, or those of a scope. -/
theorem filter_routeArtifacts (targets : List CandidateTarget) (key : StrategyKey) :
    (fullSetRouteArtifact fullSetBasisDigest :: targets.map fun target ↦
        negRiskRouteArtifact target renderedLiveTargets[target.familyId]?).filter
          (RouteArtifact.key · = key) =
      (if ⟨"full-set", "default"⟩ = key then [fullSetRouteArtifact fullSetBasisDigest] else []) ++
        if key.route = "neg-risk" then
          ((listing targets renderedLiveTargets).filter (routeScope ·.1 = key.scope)).map fun entry ↦
            negRiskRouteArtifact entry.1 entry.2
        else [] := by
  obtain ⟨route, scope⟩ := key
  have hfullSet : (fullSetRouteArtifact fullSetBasisDigest).key = ⟨"full-set", "default"⟩ := rfl
  have hnegRisk : ∀ target rendered, ((negRiskRouteArtifact target rendered).key = ⟨route, scope⟩) =
      (route = "neg-risk" ∧ routeScope target = scope) := fun target rendered ↦ by
    show (StrategyKey.mk "neg-risk" (routeScope target) = ⟨route, scope⟩) = _
    rw [StrategyKey.mk.injEq, @eq_comm _ "neg-risk"]
  rw [List.filter_cons, hfullSet, List.filter_map]
  by_cases hroute : route = "neg-risk"
  · subst hroute
    have hne : ¬StrategyKey.mk "full-set" "default" = ⟨"neg-risk", scope⟩ := by simp
    simp only [decide_eq_true_eq, if_neg hne, if_true, List.nil_append, listing,
      List.filter_map, List.map_map, Function.comp_def, hnegRisk, true_and]
  · simp only [decide_eq_true_eq, Function.comp_def, hnegRisk, hroute, false_and, decide_false,
      List.filter_false, List.map_nil, if_false, List.append_nil]

/-- The artifacts are the same exactly if the basis is and the same is listed. -/
theorem routeArtifacts_eq_iff :
    CandidateBridge.routeArtifacts candidateSet renderedLiveTargets fullSetBasisDigest =
        CandidateBridge.routeArtifacts candidateSet' renderedLiveTargets' fullSetBasisDigest' ↔
      fullSetBasisDigest = fullSetBasisDigest' ∧
        ListedAlike (listing candidateSet.targets renderedLiveTargets)
          (listing candidateSet'.targets renderedLiveTargets') := by
  rw [CandidateBridge.routeArtifacts, CandidateBridge.routeArtifacts, sortByKey_eq_iff]
  simp only [filter_routeArtifacts]
  constructor
  · intro h
    constructor
    · have hbasis := h ⟨"full-set", "default"⟩
      simp only [if_true, List.append_nil, String.reduceEq, if_false, List.cons.injEq,
        and_true] at hbasis
      exact fullSetRouteArtifact_injective hbasis
    · intro scope
      have hscope := h ⟨"neg-risk", scope⟩
      simp only [StrategyKey.mk.injEq, String.reduceEq, false_and, if_false, if_true,
        List.nil_append] at hscope
      refine List.map_injective_iff.mpr ?_ hscope
      rintro ⟨target, rendered⟩ ⟨target', rendered'⟩ heq
      obtain ⟨rfl, rfl⟩ := negRiskRouteArtifact_inj heq
      rfl
  · rintro ⟨rfl, h⟩ key
    rw [h key.scope]

variable (hsha : Function.Injective sha256)

include hsha

theorem bundleRevision_routeArtifacts_eq_iff {kind : String} :
    bundleRevision sha256 kind (CandidateBridge.routeArtifacts candidateSet renderedLiveTargets
        fullSetBasisDigest) =
      bundleRevision sha256 kind (CandidateBridge.routeArtifacts candidateSet' renderedLiveTargets'
        fullSetBasisDigest') ↔
    fullSetBasisDigest = fullSetBasisDigest' ∧
      ListedAlike (listing candidateSet.targets renderedLiveTargets)
        (listing candidateSet'.targets renderedLiveTargets') := by
  rw [bundleRevision_eq_iff hsha (fun _ h ↦ rendered_of_mem_routeArtifacts h)
    (fun _ h ↦ rendered_of_mem_routeArtifacts h), routeArtifacts_eq_iff]

/-- A candidate row is known from what is listed and the order of its targets. -/
theorem candidate_eq_iff (hpolicy : candidateSet.policy = candidateSet'.policy) :
    CandidateBridge.renderCandidateWithFullSetBasis sha256 candidateSet renderedLiveTargets
        fullSetBasisDigest =
      CandidateBridge.renderCandidateWithFullSetBasis sha256 candidateSet' renderedLiveTargets'
        fullSetBasisDigest' ↔
    (fullSetBasisDigest = fullSetBasisDigest' ∧
        ListedAlike (listing candidateSet.targets renderedLiveTargets)
          (listing candidateSet'.targets renderedLiveTargets')) ∧
      candidateSet.targets = candidateSet'.targets := by
  constructor
  · intro h
    have hrevision := congrArg StrategyCandidateSetRow.strategyCandidateRevision h
    have hpayload := congrArg StrategyCandidateSetRow.payload h
    refine ⟨(bundleRevision_routeArtifacts_eq_iff hsha).mp hrevision, ?_⟩
    simp only [CandidateBridge.renderCandidateWithFullSetBasis, Json.object.injEq, List.cons.injEq,
      Prod.mk.injEq, Json.array.injEq] at hpayload
    exact serializedCandidateTarget_injective.list_map hpayload.2.2.2.2.2.2.2.2.2.2.2.1.2
  · rintro ⟨hlisted, htargets⟩
    rw [CandidateBridge.renderCandidateWithFullSetBasis,
      CandidateBridge.renderCandidateWithFullSetBasis, routeArtifacts_eq_iff.mpr hlisted, hpolicy,
      CandidatePricingEngine.advisoryTerms, CandidatePricingEngine.advisoryTerms, htargets]

/-- An adoptable row is known from what is listed and the whole map. -/
theorem adoptable_eq_iff :
    CandidateBridge.adoptableRow sha256 candidateSet renderedLiveTargets fullSetBasisDigest
        (CandidateBridge.renderCandidateWithFullSetBasis sha256 candidateSet renderedLiveTargets
          fullSetBasisDigest) =
      CandidateBridge.adoptableRow sha256 candidateSet' renderedLiveTargets' fullSetBasisDigest'
        (CandidateBridge.renderCandidateWithFullSetBasis sha256 candidateSet' renderedLiveTargets'
          fullSetBasisDigest') ↔
    (fullSetBasisDigest = fullSetBasisDigest' ∧
        ListedAlike (listing candidateSet.targets renderedLiveTargets)
          (listing candidateSet'.targets renderedLiveTargets')) ∧
      renderedLiveTargets = renderedLiveTargets' := by
  constructor
  · intro h
    have hrevision := congrArg AdoptableStrategyRevisionRow.adoptableStrategyRevision h
    have hpayload := congrArg AdoptableStrategyRevisionRow.payload h
    refine ⟨(bundleRevision_routeArtifacts_eq_iff hsha).mp hrevision, ?_⟩
    simp only [CandidateBridge.adoptableRow, Json.object.injEq, List.cons.injEq,
      Prod.mk.injEq] at hpayload
    exact liveTargetsJson_injective hpayload.2.2.2.1.2
  · rintro ⟨hlisted, hmaps⟩
    have hartifacts := routeArtifacts_eq_iff.mpr hlisted
    rw [CandidateBridge.adoptableRow, CandidateBridge.adoptableRow,
      CandidateBridge.operatorStrategyRevision, CandidateBridge.operatorStrategyRevision,
      CandidateBridge.renderCandidateWithFullSetBasis,
      CandidateBridge.renderCandidateWithFullSetBasis, hartifacts, hmaps]

end Listings

/-! ## Notices -/

namespace CandidateRestrictionTruth

/-- The validation of a target under the restriction. -/
def restrict (restriction : CandidateRestrictionTruth) (validation : CandidateValidationResult) :
    CandidateValidationResult :=
  match restriction.hardGateReason with
  | none => validation
  | some reason => gatedValidation reason validation

end CandidateRestrictionTruth

namespace CandidateNotice

variable (notice : CandidateNotice)

def discoveryRecords : List FamilyDiscoveryRecord :=
  (notice.publication.view.map CandidateView.discoveryRecords).getD []

/-- The targets of the notice, validated and restricted. -/
def targets : List CandidateTarget :=
  notice.discoveryRecords.map fun record ↦
    { targetId := s!"candidate-target-{record.familyId}"
      familyId := record.familyId
      validation := notice.restriction.restrict (validationForRecord record notice.authoritative) }

/-- What the notice lists. -/
def listed : List (CandidateTarget × Option NegRiskFamilyLiveTarget) :=
  listing notice.targets notice.renderedLiveTargets

/-- Every target of the notice is adoptable, and there is one. -/
def Adoptable : Prop :=
  (ValidationSummary.fromTargets notice.targets).aggregateDisposition = "adoptable"

instance : Decidable notice.Adoptable := inferInstanceAs (Decidable (_ = _))

/-- A target set that is made for the notice. -/
structure Sets (candidateSet : CandidateTargetSet) : Prop where
  targets : candidateSet.targets = notice.targets
  policy : candidateSet.policy =
    { policyName := "candidate-generation", policyVersion := "policy-v1" }
  adoptable : notice.Adoptable → candidateSet.adoptableRevision.isSome

/-- The rows of the outcome are those of the target set. -/
structure Renders (sha256 : String → String) (candidateSet : CandidateTargetSet)
    (outcome : DiscoveryOutcome) : Prop where
  sets : notice.Sets candidateSet
  candidate : outcome.candidate = some (CandidateBridge.renderCandidateWithFullSetBasis sha256
    candidateSet notice.renderedLiveTargets notice.fullSetBasisDigest)
  adoptable : outcome.adoptable = if notice.Adoptable then
      some (CandidateBridge.adoptableRow sha256 candidateSet notice.renderedLiveTargets
        notice.fullSetBasisDigest (CandidateBridge.renderCandidateWithFullSetBasis sha256
          candidateSet notice.renderedLiveTargets notice.fullSetBasisDigest))
    else none

/-- The report counts the targets of the notice. -/
structure Counts (report : DiscoveryReport) : Prop where
  targets : report.targetCount = notice.targets.length
  adoptable : report.adoptableTargetCount =
    (ValidationSummary.fromTargets notice.targets).adoptableCount
  deferred : report.deferredTargetCount =
    (ValidationSummary.fromTargets notice.targets).deferredCount
  excluded : report.excludedTargetCount =
    (ValidationSummary.fromTargets notice.targets).excludedCount

variable {notice} {sha256 : String → String} {candidateSet : CandidateTargetSet}
  {outcome : DiscoveryOutcome}

theorem sets_of_candidateSetFromPublication {disposition : String} {summary : ValidationSummary}
    (h : CandidateValidationEngine.candidateSetFromPublication notice.publication
      notice.authoritative = .ok (candidateSet, disposition, summary)) :
    notice.Sets (applyCandidateRestriction candidateSet notice.restriction) := by
  cases hview : notice.publication.view with
  | none => simp [CandidateValidationEngine.candidateSetFromPublication, hview] at h
  | some view =>
      cases hhead : view.discoveryRecords.head? with
      | none => simp [CandidateValidationEngine.candidateSetFromPublication, hview, hhead] at h
      | some record =>
          simp only [CandidateValidationEngine.candidateSetFromPublication, hview, hhead,
            Except.ok.injEq, Prod.mk.injEq] at h
          obtain ⟨rfl, -, -⟩ := h
          have hrecords : notice.discoveryRecords = view.discoveryRecords := by
            rw [discoveryRecords, hview]
            rfl
          cases hgate : notice.restriction.hardGateReason with
          | none =>
              have htargets : notice.targets = view.discoveryRecords.map fun record ↦
                  { targetId := s!"candidate-target-{record.familyId}"
                    familyId := record.familyId
                    validation := validationForRecord record notice.authoritative } := by
                simp only [targets, hrecords, CandidateRestrictionTruth.restrict, hgate]
              refine ⟨?_, ?_, fun hadoptable ↦ ?_⟩ <;>
                simp only [applyCandidateRestriction, hgate, htargets]
              rw [Adoptable, htargets] at hadoptable
              simp [hadoptable]
          | some reason =>
              refine ⟨?_, ?_, fun hadoptable ↦ ?_⟩ <;> simp only [applyCandidateRestriction, hgate]
              · simp [targets, hrecords, CandidateRestrictionTruth.restrict, hgate]
              · -- under a hard gate no target stays adoptable
                rw [Adoptable, ValidationSummary.aggregateDisposition_eq_adoptable_iff] at hadoptable
                obtain ⟨target, htarget⟩ := List.exists_mem_of_ne_nil _ hadoptable.1
                have hvalid := hadoptable.2 target htarget
                obtain ⟨record, -, rfl⟩ := List.mem_map.mp htarget
                simp only [CandidateRestrictionTruth.restrict, hgate] at hvalid
                cases hrecord : validationForRecord record notice.authoritative <;>
                  rw [hrecord] at hvalid <;> cases hvalid

/-- A notice that touches the candidates renders a target set and reports its counts. -/
theorem renders_of_processNotice (hdirty : .candidates ∈ notice.dirtyDomains)
    (h : DiscoverySupervisor.processNotice sha256 notice = .ok outcome) :
    (∃ candidateSet, notice.Renders sha256 candidateSet outcome) ∧ notice.Counts outcome.report := by
  cases hset : CandidateValidationEngine.candidateSetFromPublication notice.publication
    notice.authoritative with
  | error error => simp [DiscoverySupervisor.processNotice, hdirty, hset, bind, Except.bind] at h
  | ok set =>
      obtain ⟨candidateSet, disposition, summary⟩ := set
      have hsets := sets_of_candidateSetFromPublication hset
      revert h hsets
      generalize happly : applyCandidateRestriction candidateSet notice.restriction = restricted
      intro h hsets
      have hadoptable : (ValidationSummary.fromTargets restricted.targets).aggregateDisposition =
          "adoptable" ↔ notice.Adoptable := by
        rw [hsets.targets, Adoptable]
      simp only [DiscoverySupervisor.processNotice, hdirty, hset, happly, List.contains_eq_mem,
        decide_true, Bool.not_true, Bool.false_eq_true, if_false, bind, Except.bind, pure,
        Except.pure, ne_eq, hadoptable] at h
      by_cases hall : notice.Adoptable
      · obtain ⟨revision, hrevision⟩ := Option.isSome_iff_exists.mp (hsets.adoptable hall)
        simp only [hall, not_true_eq_false, if_false, CandidateBridge.renderWithFullSetBasis,
          hrevision, Except.ok.injEq] at h
        refine ⟨⟨restricted, hsets, by rw [← h], by rw [← h, if_pos hall]⟩, ?_⟩
        rw [← h]
        constructor <;> rw [hsets.targets]
      · simp only [hall, not_false_eq_true, if_true, Except.ok.injEq] at h
        refine ⟨⟨restricted, hsets, by rw [← h], by rw [← h, if_neg hall]⟩, ?_⟩
        rw [← h]
        constructor <;> rw [hsets.targets]

/-- What a processed notice produces. -/
theorem processNotice_eq_ok (h : DiscoverySupervisor.processNotice sha256 notice = .ok outcome) :
    .candidates ∉ notice.dirtyDomains ∧ outcome.candidate = none ∧ outcome.adoptable = none ∨
      .candidates ∈ notice.dirtyDomains ∧ ∃ candidateSet, notice.Renders sha256 candidateSet outcome := by
  by_cases hdirty : .candidates ∈ notice.dirtyDomains
  · exact .inr ⟨hdirty, (renders_of_processNotice hdirty h).1⟩
  · refine .inl ⟨hdirty, ?_⟩
    simp [DiscoverySupervisor.processNotice, hdirty, pure, Except.pure] at h
    simp [← h, DiscoverySupervisor.ignored]

/-- A notice whose view has a record is processed. -/
theorem exists_processNotice_eq_ok (sha256 : String → String) (h : notice.discoveryRecords ≠ []) :
    ∃ outcome, DiscoverySupervisor.processNotice sha256 notice = .ok outcome := by
  by_cases hdirty : .candidates ∈ notice.dirtyDomains
  · cases hview : notice.publication.view with
    | none => simp [discoveryRecords, hview] at h
    | some view =>
        have hrecords : view.discoveryRecords ≠ [] := by simpa [discoveryRecords, hview] using h
        obtain ⟨set, hset⟩ : ∃ set, CandidateValidationEngine.candidateSetFromPublication
            notice.publication notice.authoritative = .ok set := by
          rw [CandidateValidationEngine.candidateSetFromPublication, hview]
          simp only [List.head?_eq_some_head hrecords]
          exact ⟨_, rfl⟩
        obtain ⟨candidateSet, disposition, summary⟩ := set
        have hsets := sets_of_candidateSetFromPublication hset
        simp only [DiscoverySupervisor.processNotice, hdirty, hset, List.contains_eq_mem,
          decide_true, Bool.not_true, Bool.false_eq_true, if_false, bind, Except.bind, pure,
          Except.pure]
        split
        · exact ⟨_, rfl⟩
        · rename_i hadoptable
          have hall : notice.Adoptable := by
            rw [Adoptable, ← hsets.targets]
            simpa using hadoptable
          obtain ⟨revision, hrevision⟩ := Option.isSome_iff_exists.mp (hsets.adoptable hall)
          simp only [CandidateBridge.renderWithFullSetBasis, hrevision]
          exact ⟨_, rfl⟩
  · refine ⟨DiscoverySupervisor.ignored notice.operatorTargetRevision, ?_⟩
    simp [DiscoverySupervisor.processNotice, hdirty, pure, Except.pure]

end CandidateNotice

/-! ## Rows of one revision -/

/-- Rows of one revision are the same, so that the second is upserted where the first is
stored. -/
structure RowsIdentified (outcome outcome' : DiscoveryOutcome) : Prop where
  candidate : ∀ row ∈ outcome.candidate, ∀ row' ∈ outcome'.candidate,
    row.strategyCandidateRevision = row'.strategyCandidateRevision → row = row' ∧
      ∀ store, store.database.getStrategyCandidateSet row'.strategyCandidateRevision = some row →
        exec (StrategyStore.upsertStrategyCandidateSet row') store = (.ok ⟨⟩, store)
  adoptable : ∀ row ∈ outcome.adoptable, ∀ row' ∈ outcome'.adoptable,
    row.adoptableStrategyRevision = row'.adoptableStrategyRevision → row = row' ∧
      ∀ store, store.database.getAdoptableStrategyRevision row'.adoptableStrategyRevision = some row →
        exec (StrategyStore.upsertAdoptableStrategyRevision row') store = (.ok ⟨⟩, store)

/-- Where both notices list the same, scope by scope and over one basis, they list it in one
order and, if all of it is adoptable, come with the same map of targets. -/
def CandidateNotice.PayloadsFixed (notice notice' : CandidateNotice) : Prop :=
  .candidates ∈ notice.dirtyDomains → .candidates ∈ notice'.dirtyDomains →
    notice.fullSetBasisDigest = notice'.fullSetBasisDigest →
      ListedAlike notice.listed notice'.listed → notice.targets = notice'.targets ∧
        (notice.Adoptable → notice.renderedLiveTargets = notice'.renderedLiveTargets)

section Identified

variable {sha256 : String → String} {notice notice' : CandidateNotice}
  {outcome outcome' : DiscoveryOutcome}

/-- **A revision identifies its row exactly if what it covers fixes the payload.** -/
theorem revisions_identify_rows_iff (hsha : Function.Injective sha256)
    (h : DiscoverySupervisor.processNotice sha256 notice = .ok outcome)
    (h' : DiscoverySupervisor.processNotice sha256 notice' = .ok outcome') :
    RowsIdentified outcome outcome' ↔ notice.PayloadsFixed notice' := by
  rcases CandidateNotice.processNotice_eq_ok h with ⟨hclean, hnone, hnone'⟩ | ⟨hdirty, set, hset⟩
  · refine iff_of_true ⟨?_, ?_⟩ fun hdirty ↦ absurd hdirty hclean
    · rw [hnone]
      rintro row ⟨⟩
    · rw [hnone']
      rintro row ⟨⟩
  rcases CandidateNotice.processNotice_eq_ok h' with ⟨hclean, hnone, hnone'⟩ | ⟨hdirty', set', hset'⟩
  · refine iff_of_true ⟨?_, ?_⟩ fun _ hdirty ↦ absurd hdirty hclean
    · rw [hnone]
      rintro row _ row' ⟨⟩
    · rw [hnone']
      rintro row _ row' ⟨⟩
  have hpolicy : set.policy = set'.policy := hset.sets.policy.trans hset'.sets.policy.symm
  have hlisted : listing set.targets notice.renderedLiveTargets = notice.listed := by
    rw [hset.sets.targets, CandidateNotice.listed]
  have hlisted' : listing set'.targets notice'.renderedLiveTargets = notice'.listed := by
    rw [hset'.sets.targets, CandidateNotice.listed]
  constructor
  · intro hid _ _ hbasis halike
    have halike : notice.fullSetBasisDigest = notice'.fullSetBasisDigest ∧
        ListedAlike (listing set.targets notice.renderedLiveTargets)
          (listing set'.targets notice'.renderedLiveTargets) := by
      rw [hlisted, hlisted']
      exact ⟨hbasis, halike⟩
    have hcandidate := (hid.candidate _ hset.candidate _ hset'.candidate
      ((bundleRevision_routeArtifacts_eq_iff hsha).mpr halike)).1
    have htargets := ((candidate_eq_iff hsha hpolicy).mp hcandidate).2
    rw [hset.sets.targets, hset'.sets.targets] at htargets
    refine ⟨htargets, fun hall ↦ ?_⟩
    have hall' : notice'.Adoptable := by rwa [CandidateNotice.Adoptable, ← htargets]
    have hadoptable := (hid.adoptable _ (by rw [hset.adoptable, if_pos hall]; rfl) _
      (by rw [hset'.adoptable, if_pos hall']; rfl)
      ((bundleRevision_routeArtifacts_eq_iff hsha).mpr halike)).1
    exact ((adoptable_eq_iff hsha).mp hadoptable).2
  · intro hfixed
    constructor
    · rintro row hrow row' hrow' hrevision
      obtain rfl := Option.some.inj (hset.candidate.symm.trans hrow)
      obtain rfl := Option.some.inj (hset'.candidate.symm.trans hrow')
      have halike := (bundleRevision_routeArtifacts_eq_iff hsha).mp hrevision
      have hfix := hfixed hdirty hdirty' halike.1 (by rw [← hlisted, ← hlisted']; exact halike.2)
      have hsame := (candidate_eq_iff hsha hpolicy).mpr
        ⟨halike, by rw [hset.sets.targets, hset'.sets.targets, hfix.1]⟩
      refine ⟨hsame, fun store hstored ↦ ?_⟩
      rw [StrategyStore.exec_upsertStrategyCandidateSet_of_some hstored, if_pos hsame]
    · rintro row hrow row' hrow' hrevision
      rw [hset.adoptable] at hrow
      rw [hset'.adoptable] at hrow'
      split at hrow
      · rename_i hall
        split at hrow'
        · obtain rfl := Option.some.inj hrow
          obtain rfl := Option.some.inj hrow'
          have halike := (bundleRevision_routeArtifacts_eq_iff hsha).mp hrevision
          have hfix := hfixed hdirty hdirty' halike.1
            (by rw [← hlisted, ← hlisted']; exact halike.2)
          have hsame := (adoptable_eq_iff hsha).mpr ⟨halike, hfix.2 hall⟩
          refine ⟨hsame, fun store hstored ↦ ?_⟩
          rw [StrategyStore.exec_upsertAdoptableStrategyRevision_of_some hstored, if_pos hsame]
        · cases hrow'
      · cases hrow

end Identified

section Sample

/-- A target of one member. -/
def sampleLiveTarget (familyId : String) : NegRiskFamilyLiveTarget :=
  { familyId
    members :=
      [{ conditionId := "condition-1"
         tokenId := "token-1"
         price := Execution.ExecutionPlan.samplePrice
         quantity := Execution.ExecutionPlan.sampleQuantity }] }

/-- A notice of one family that was discovered and backfilled. -/
def sampleNotice (publicationId : String) (rendered : List String) : CandidateNotice :=
  { publication :=
      { publicationId
        stateVersion := 1
        committedJournalSeq := 1
        ready := true
        failureReason := none
        lagReason := none
        view := some
          { publicationId
            stateVersion := 1
            committedJournalSeq := 1
            discoveryRecords :=
              [{ familyId := "family-a"
                 source :=
                  { sourceKind := "discovery"
                    sourceSessionId := "session-1"
                    sourceEventId := publicationId
                    normalizerVersion := "v1" }
                 discoveredAt := 1
                 backfillCursor := some "cursor-1"
                 backfillCompletedAt := some 2 }] } }
    dirtyDomains := [.candidates]
    operatorTargetRevision := none
    renderedLiveTargets := .byKey NegRiskFamilyLiveTarget.familyId (rendered.map sampleLiveTarget)
    restriction := .eligible
    authoritative := false
    fullSetBasisDigest := defaultFullSetBasisDigest }

/-- What the sample's artifacts come to, the one of the full set and that of the family. -/
def sampleArtifactsText : String :=
  "full-set\x00default\x00strategy-artifact-semantic-v1|8:full-set|7:default|" ++
  "24:full-set-route-policy-v1|72:\x7b\x22config_basis_digest\x22:\x22full-set-basis-default\x22," ++
  "\x22mode\x22:\x22static-default\x22\x7d\x00" ++
  "neg-risk\x00family-a\x00strategy-artifact-semantic-v1|8:neg-risk|8:family-a|" ++
  "24:neg-risk-route-policy-v1|243:\x7b\x22family_id\x22:\x22family-a\x22," ++
  "\x22rendered_live_target\x22:\x7b\x22family_id\x22:\x22family-a\x22,\x22members\x22:[" ++
  "\x7b\x22condition_id\x22:\x22condition-1\x22,\x22price\x22:\x220.45\x22," ++
  "\x22quantity\x22:\x2210\x22,\x22token_id\x22:\x22token-1\x22\x7d]\x7d," ++
  "\x22target_id\x22:\x22candidate-target-family-a\x22," ++
  "\x22validation\x22:\x7b\x22status\x22:\x22adoptable\x22\x7d\x7d\x00"

def sampleDigests : List (String × String) :=
  [("strategy-bundle-v1strategy-candidate" ++ sampleArtifactsText,
      "9ee5cdc9c2af7e409a6e8c045e6ba3c6bfe2db3255388051d42dfeab1b3de7e1"),
    ("strategy-bundle-v1adoptable-strategy" ++ sampleArtifactsText,
      "da71d102e9fbf37eeb072708c7fc5e8848a9de9cdc964042c60f989c9be51f67"),
    ("strategy-bundle-v1operator-strategy" ++ sampleArtifactsText,
      "6616ed1977d2914ac54b78950ece2ed64f9471ff93d171ed365734ed45631855")]

/-- The digests of what the sample has hashed; other texts go unchanged behind a mark. -/
def sampleArtifactsSha256 (text : String) : String :=
  (sampleDigests.lookup text).getD ("raw:" ++ text)

theorem sampleArtifactsSha256_injective : Function.Injective sampleArtifactsSha256 :=
  have htabled : Function.Injective (tabled sampleDigests) :=
    tabled_injective (by decide +kernel) (by decide +kernel)
  htabled

/-- Republished under another snapshot, the sample comes with the same rows. -/
theorem sampleNotice_rows_identified :
    ∃ outcome outcome',
      DiscoverySupervisor.processNotice sampleArtifactsSha256
        (sampleNotice "snapshot-1" ["family-a"]) = .ok outcome ∧
      DiscoverySupervisor.processNotice sampleArtifactsSha256
        (sampleNotice "snapshot-2" ["family-a"]) = .ok outcome' ∧
      outcome.candidate.map StrategyCandidateSetRow.strategyCandidateRevision =
        some "strategy-candidate-9ee5cdc9c2af7e409a6e8c045e6ba3c6bfe2db3255388051d42dfeab1b3de7e1" ∧
      RowsIdentified outcome outcome' := by
  have hrecords : ∀ publicationId, (sampleNotice publicationId ["family-a"]).discoveryRecords ≠ [] :=
    fun publicationId ↦ List.cons_ne_nil _ _
  obtain ⟨outcome, h⟩ := CandidateNotice.exists_processNotice_eq_ok sampleArtifactsSha256
    (hrecords "snapshot-1")
  obtain ⟨outcome', h'⟩ := CandidateNotice.exists_processNotice_eq_ok sampleArtifactsSha256
    (hrecords "snapshot-2")
  refine ⟨outcome, outcome', h, h', ?_,
    (revisions_identify_rows_iff sampleArtifactsSha256_injective h h').mpr fun _ _ _ _ ↦
      ⟨by decide +kernel, fun _ ↦ rfl⟩⟩
  rcases CandidateNotice.processNotice_eq_ok h with ⟨hclean, -⟩ | ⟨-, set, hset⟩
  · exact absurd (by decide) hclean
  · have htargets : set.targets = [{ targetId := "candidate-target-family-a", familyId := "family-a"
                                     validation := .adoptable }] := by
      rw [hset.sets.targets]
      decide +kernel
    have hrendered : (sampleNotice "snapshot-1" ["family-a"]).renderedLiveTargets["family-a"]? =
        some (sampleLiveTarget "family-a") := by
      decide +kernel
    have hrevision : strategyCandidateRevision sampleArtifactsSha256 (CandidateBridge.routeArtifacts
        set (sampleNotice "snapshot-1" ["family-a"]).renderedLiveTargets
        (sampleNotice "snapshot-1" ["family-a"]).fullSetBasisDigest) =
          "strategy-candidate-9ee5cdc9c2af7e409a6e8c045e6ba3c6bfe2db3255388051d42dfeab1b3de7e1" := by
      rw [CandidateBridge.routeArtifacts, htargets, List.map_singleton, hrendered,
        sortByKey_cons_of_isLE (by decide +kernel), sortByKey, List.mergeSort_singleton]
      decide +kernel
    rw [hset.candidate]
    exact congrArg some hrevision

/-- Over any digest without collisions, a target that is rendered for a family not yet
discovered changes the adoptable row and not its revision. -/
theorem unlisted_target_not_identified :
    ¬ ∃ sha256 : String → String, Function.Injective sha256 ∧
      ∀ notice notice' outcome outcome',
        DiscoverySupervisor.processNotice sha256 notice = .ok outcome →
        DiscoverySupervisor.processNotice sha256 notice' = .ok outcome' →
          RowsIdentified outcome outcome' := by
  rintro ⟨sha256, hsha, hall⟩
  have hrecords : ∀ rendered, (sampleNotice "snapshot-1" rendered).discoveryRecords ≠ [] :=
    fun rendered ↦ List.cons_ne_nil _ _
  obtain ⟨outcome, h⟩ := CandidateNotice.exists_processNotice_eq_ok sha256 (hrecords ["family-a"])
  obtain ⟨outcome', h'⟩ := CandidateNotice.exists_processNotice_eq_ok sha256
    (hrecords ["family-a", "family-b"])
  have hid := hall _ _ _ _ h h'
  rcases CandidateNotice.processNotice_eq_ok h with ⟨hclean, -⟩ | ⟨-, set, hset⟩
  · exact absurd (by decide) hclean
  rcases CandidateNotice.processNotice_eq_ok h' with ⟨hclean, -⟩ | ⟨-, set', hset'⟩
  · exact absurd (by decide) hclean
  have hadoptable : (sampleNotice "snapshot-1" ["family-a"]).Adoptable := by decide +kernel
  have hadoptable' : (sampleNotice "snapshot-1" ["family-a", "family-b"]).Adoptable := by
    decide +kernel
  have hlisted : listing set.targets (sampleNotice "snapshot-1" ["family-a"]).renderedLiveTargets =
      listing set'.targets (sampleNotice "snapshot-1" ["family-a", "family-b"]).renderedLiveTargets := by
    rw [hset.sets.targets, hset'.sets.targets]
    decide +kernel
  have hsome := hset.adoptable
  have hsome' := hset'.adoptable
  rw [if_pos hadoptable] at hsome
  rw [if_pos hadoptable'] at hsome'
  have hrow := (hid.adoptable _ hsome _ hsome'
    ((bundleRevision_routeArtifacts_eq_iff hsha).mpr ⟨rfl, fun _ ↦ by rw [hlisted]⟩)).1
  have hmaps := ((adoptable_eq_iff hsha).mp hrow).2
  have hlookup := congrArg (fun targets ↦ targets["family-b"]?) hmaps
  revert hlookup
  decide +kernel

end Sample

end AxiomArb.AppLive
