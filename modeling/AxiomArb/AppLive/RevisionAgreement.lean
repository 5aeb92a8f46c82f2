import AxiomArb.AppLive.RevisionIdentity
import AxiomArb.AppLive.StartupTargets
import AxiomArb.Execution.Signing

/-!
# Two revisions of one map of targets

The target revision hashes the members of a family sorted and with normalized decimals; the
operator strategy revision hashes the families that are listed as they are rendered.  So the
first depends on the members of the map by value alone (`targetRevision_eq_iff`), the second
on their order and their scales too, and on listed families only
(`operatorStrategyRevision_eq_iff`).
-/

namespace AxiomArb.AppLive

open Domain Library

/-! ## Maps by value -/

/-- The members are the same up to their order. -/
def MembersAlike (target target' : NegRiskFamilyLiveTarget) : Prop :=
  (target.members.map NegRiskMemberLiveTarget.exact).Perm
    (target'.members.map NegRiskMemberLiveTarget.exact)

/-- The families are the same up to the order of their members. -/
def FamilyAlike (target target' : NegRiskFamilyLiveTarget) : Prop :=
  target.familyId = target'.familyId ∧ MembersAlike target target'

/-- The same families are filed with related targets. -/
def FiledAlike (R : NegRiskFamilyLiveTarget → NegRiskFamilyLiveTarget → Prop)
    (targets targets' : LiveTargets) : Prop :=
  ∀ familyId : String, Option.Rel R targets[familyId]? targets'[familyId]?

section TargetRevision

variable {member member' : NegRiskMemberLiveTarget} {members members' : List NegRiskMemberLiveTarget}
  {targets targets' : LiveTargets} {sha256 : String → String}

theorem canonical_eq_iff : member.canonical = member'.canonical ↔ member.exact = member'.exact := by
  simp only [NegRiskMemberLiveTarget.canonical, NegRiskMemberLiveTarget.exact, normalizeDecimal,
    List.cons.injEq, and_true, Prod.mk.injEq, ScaledDecimal.text_normalize_eq_iff]

instance : Nonempty Json := ⟨.null⟩

/-- The members are hashed alike exactly if they are alike by value, in any order. -/
theorem canonicalMembers_eq_iff :
    canonicalMembers members = canonicalMembers members' ↔
      (members.map NegRiskMemberLiveTarget.exact).Perm
        (members'.map NegRiskMemberLiveTarget.exact) := by
  rw [canonicalMembers, canonicalMembers, Json.array.injEq]
  constructor
  · intro h
    have hsorted : (sortByKey NegRiskMemberLiveTarget.canonical members).map
          NegRiskMemberLiveTarget.canonical =
        (sortByKey NegRiskMemberLiveTarget.canonical members').map
          NegRiskMemberLiveTarget.canonical :=
      map_eq_of_factorsThrough
        (fun member member' heq ↦ by simpa [NegRiskMemberLiveTarget.canonical] using heq) h
    exact perm_map_of_factorsThrough (fun member member' ↦ canonical_eq_iff.mp)
      (map_key_sortByKey_eq_iff.mp hsorted)
  · intro h
    have hperm : (members.map NegRiskMemberLiveTarget.canonical).Perm
        (members'.map NegRiskMemberLiveTarget.canonical) :=
      perm_map_of_factorsThrough (fun member member' ↦ canonical_eq_iff.mpr) h
    refine map_eq_of_factorsThrough (fun member member' heq ↦ ?_)
      (map_key_sortByKey_eq_iff.mpr hperm)
    simpa [NegRiskMemberLiveTarget.canonical] using heq

theorem valid_canonicalMembers (members : List NegRiskMemberLiveTarget) :
    (canonicalMembers members).Valid := by
  refine .array fun item hitem ↦ ?_
  obtain ⟨member, -, rfl⟩ := List.mem_map.mp hitem
  refine .object fun entry hentry ↦ ?_
  simp only [List.mem_cons, List.not_mem_nil, or_false] at hentry
  rcases hentry with rfl | rfl | rfl | rfl <;> exact .string _

/-- What is hashed of a map. -/
def canonicalJson (targets : LiveTargets) : Json :=
  .object
    [("families", .array (targets.toList.map fun (familyId, family) ↦
      .object [("family_id", .string familyId), ("members", canonicalMembers family.members)]))]

theorem valid_canonicalJson (targets : LiveTargets) : (canonicalJson targets).Valid := by
  refine .object fun entry hentry ↦ ?_
  obtain rfl := List.mem_singleton.mp hentry
  refine .array fun item hitem ↦ ?_
  obtain ⟨⟨familyId, family⟩, -, rfl⟩ := List.mem_map.mp hitem
  refine .object fun entry hentry ↦ ?_
  simp only [List.mem_cons, List.not_mem_nil, or_false] at hentry
  rcases hentry with rfl | rfl
  · exact .string _
  · exact valid_canonicalMembers family.members

theorem canonicalJson_eq_iff :
    canonicalJson targets = canonicalJson targets' ↔ FiledAlike MembersAlike targets targets' := by
  -- both list the entries of a map from families to hashed members
  let hashed (targets : LiveTargets) : BTreeMap String Json :=
    targets.map fun _ family ↦ canonicalMembers family.members
  let write (entry : String × Json) := Json.object
    [("family_id", .string entry.1), ("members", entry.2)]
  have hwrite : Function.Injective write := by
    rintro ⟨familyId, members⟩ ⟨familyId', members'⟩ heq
    simpa [write] using heq
  have hjson : ∀ targets : LiveTargets, canonicalJson targets =
      .object [("families", .array ((hashed targets).toList.map write))] := by
    intro targets
    rw [canonicalJson, Std.ExtTreeMap.toList_map, List.map_map]
    rfl
  have hlookup : ∀ (targets : LiveTargets) (familyId : String), (hashed targets)[familyId]? =
      targets[familyId]?.map fun family ↦ canonicalMembers family.members := fun targets familyId ↦
    Std.ExtTreeMap.getElem?_map
  have hentries : canonicalJson targets = canonicalJson targets' ↔ hashed targets = hashed targets' := by
    rw [hjson, hjson]
    constructor
    · intro h
      simp only [Json.object.injEq, List.cons.injEq, Prod.mk.injEq, Json.array.injEq, true_and,
        and_true] at h
      exact Std.ExtTreeMap.toList_inj.mp (List.map_injective_iff.mpr hwrite h)
    · intro h
      rw [h]
  rw [hentries, FiledAlike]
  constructor
  · intro h familyId
    have hfamily := hlookup targets familyId
    rw [h, hlookup] at hfamily
    cases hold : targets[familyId]? <;> cases hold' : targets'[familyId]? <;>
      rw [hold, hold'] at hfamily
    · exact .none
    · cases hfamily
    · cases hfamily
    · exact .some (canonicalMembers_eq_iff.mp (Option.some.inj hfamily).symm)
  · intro h
    refine Std.ExtTreeMap.ext_getElem? fun familyId ↦ ?_
    have hfamily := h familyId
    rw [hlookup, hlookup]
    generalize targets[familyId]? = filed at hfamily ⊢
    generalize targets'[familyId]? = filed' at hfamily ⊢
    cases hfamily with
    | none => rfl
    | some halike => exact congrArg some (canonicalMembers_eq_iff.mpr halike)

/-- The target revision depends on the members by value, and on all of that. -/
theorem targetRevision_eq_iff (hsha : Function.Injective sha256) :
    negRiskLiveTargetRevisionFromTargets sha256 targets =
        negRiskLiveTargetRevisionFromTargets sha256 targets' ↔
      FiledAlike MembersAlike targets targets' := by
  have hrevision : ∀ targets : LiveTargets, negRiskLiveTargetRevisionFromTargets sha256 targets =
      "sha256:" ++ sha256 (canonicalJson targets).text := fun _ ↦ rfl
  rw [hrevision, hrevision, String.append_right_inj, hsha.eq_iff, ← canonicalJson_eq_iff]
  exact ⟨Json.text_injective (valid_canonicalJson targets) (valid_canonicalJson targets'),
    congrArg Json.text⟩

end TargetRevision

/-! ## The strategy revision -/

section StrategyRevision

variable {sha256 : String → String} {candidateSet : CandidateTargetSet} {fullSetBasisDigest : String}
  {targets targets' : LiveTargets}

variable (candidateSet targets targets') in
/-- The listed families are rendered the same, down to the order of members and the scales. -/
def RenderedAlike : Prop :=
  ∀ target ∈ candidateSet.targets, targets[target.familyId]? = targets'[target.familyId]?

/-- The strategy revision depends on the listed families as they are rendered. -/
theorem operatorStrategyRevision_eq_iff (hsha : Function.Injective sha256) :
    CandidateBridge.operatorStrategyRevision sha256 candidateSet targets fullSetBasisDigest =
        CandidateBridge.operatorStrategyRevision sha256 candidateSet targets' fullSetBasisDigest ↔
      RenderedAlike candidateSet targets targets' := by
  rw [CandidateBridge.operatorStrategyRevision, CandidateBridge.operatorStrategyRevision,
    bundleRevision_routeArtifacts_eq_iff hsha]
  simp only [ListedAlike, listing, List.filter_map, Function.comp_def, true_and]
  constructor
  · intro h target htarget
    have hscope := List.map_inj_left.mp (h (routeScope target)) target
      (List.mem_filter.mpr ⟨htarget, by simp⟩)
    exact (Prod.mk.inj hscope).2
  · intro h scope
    refine List.map_congr_left fun target htarget ↦ ?_
    rw [h target (List.mem_filter.mp htarget).1]

variable (sha256 candidateSet fullSetBasisDigest targets targets') in
/-- Both revisions are the same for maps that are alike, and neither is for other maps. -/
structure RevisionsAgree : Prop where
  alike : FiledAlike FamilyAlike targets targets' →
    negRiskLiveTargetRevisionFromTargets sha256 targets =
        negRiskLiveTargetRevisionFromTargets sha256 targets' ∧
      CandidateBridge.operatorStrategyRevision sha256 candidateSet targets fullSetBasisDigest =
        CandidateBridge.operatorStrategyRevision sha256 candidateSet targets' fullSetBasisDigest
  differ : ¬ FiledAlike FamilyAlike targets targets' →
    negRiskLiveTargetRevisionFromTargets sha256 targets ≠
        negRiskLiveTargetRevisionFromTargets sha256 targets' ∧
      CandidateBridge.operatorStrategyRevision sha256 candidateSet targets fullSetBasisDigest ≠
        CandidateBridge.operatorStrategyRevision sha256 candidateSet targets' fullSetBasisDigest

theorem FiledAlike.mono {R R' : NegRiskFamilyLiveTarget → NegRiskFamilyLiveTarget → Prop}
    (hmono : ∀ target target', R target target' → R' target target')
    (h : FiledAlike R targets targets') : FiledAlike R' targets targets' := by
  intro familyId
  have hfamily := h familyId
  generalize targets[familyId]? = filed at hfamily ⊢
  generalize targets'[familyId]? = filed' at hfamily ⊢
  cases hfamily with
  | none => exact .none
  | some hrel => exact .some (hmono _ _ hrel)

/-- **The revisions agree exactly if what is listed is rendered alike where the maps are
alike, and not where they differ beyond the names inside the targets.** -/
theorem revisionsAgree_iff (hsha : Function.Injective sha256) :
    RevisionsAgree sha256 candidateSet fullSetBasisDigest targets targets' ↔
      (FiledAlike FamilyAlike targets targets' → RenderedAlike candidateSet targets targets') ∧
      (¬ FiledAlike FamilyAlike targets targets' →
        ¬ FiledAlike MembersAlike targets targets' ∧
          ¬ RenderedAlike candidateSet targets targets') := by
  constructor
  · intro h
    constructor
    · intro halike
      exact (operatorStrategyRevision_eq_iff hsha).mp (h.alike halike).2
    · intro hdiffer
      exact ⟨fun hmembers ↦ (h.differ hdiffer).1 ((targetRevision_eq_iff hsha).mpr hmembers),
        fun hrendered ↦ (h.differ hdiffer).2 ((operatorStrategyRevision_eq_iff hsha).mpr hrendered)⟩
  · rintro ⟨halike, hdiffer⟩
    constructor
    · intro h
      exact ⟨(targetRevision_eq_iff hsha).mpr (h.mono fun _ _ hfamily ↦ hfamily.2),
        (operatorStrategyRevision_eq_iff hsha).mpr (halike h)⟩
    · intro h
      exact ⟨fun hrevision ↦ (hdiffer h).1 ((targetRevision_eq_iff hsha).mp hrevision),
        fun hrevision ↦ (hdiffer h).2 ((operatorStrategyRevision_eq_iff hsha).mp hrevision)⟩

end StrategyRevision

section Sample

/-- A candidate set of the one family. -/
def sampleCandidateSet : CandidateTargetSet :=
  { targetSetId := "snapshot-1"
    sourceSnapshotId := "snapshot-1"
    discoveryRecord :=
      { familyId := "family-a"
        source :=
          { sourceKind := "discovery"
            sourceSessionId := "session-1"
            sourceEventId := "snapshot-1"
            normalizerVersion := "v1" }
        discoveredAt := 1
        backfillCursor := some "cursor-1"
        backfillCompletedAt := some 2 }
    policy := { policyName := "candidate-generation", policyVersion := "policy-v1" }
    targets :=
      [{ targetId := "candidate-target-family-a", familyId := "family-a", validation := .adoptable }]
    adoptableRevision := none }

/-- The sample's target of the family, or none. -/
def sampleTargets (familyIds : List String) : LiveTargets :=
  .byKey NegRiskFamilyLiveTarget.familyId (familyIds.map sampleLiveTarget)

/-- What the artifacts come to while nothing is rendered for the family. -/
def unrenderedArtifactsText : String :=
  "full-set\x00default\x00strategy-artifact-semantic-v1|8:full-set|7:default|" ++
  "24:full-set-route-policy-v1|72:\x7b\x22config_basis_digest\x22:\x22full-set-basis-default\x22," ++
  "\x22mode\x22:\x22static-default\x22\x7d\x00" ++
  "neg-risk\x00family-a\x00strategy-artifact-semantic-v1|8:neg-risk|8:family-a|" ++
  "24:neg-risk-route-policy-v1|128:\x7b\x22family_id\x22:\x22family-a\x22," ++
  "\x22rendered_live_target\x22:null," ++
  "\x22target_id\x22:\x22candidate-target-family-a\x22," ++
  "\x22validation\x22:\x7b\x22status\x22:\x22adoptable\x22\x7d\x7d\x00"

/-- The digests of what the sample has hashed. -/
def sampleRevisionDigests : List (String × String) :=
  [("strategy-bundle-v1operator-strategy" ++ sampleArtifactsText,
      "6616ed1977d2914ac54b78950ece2ed64f9471ff93d171ed365734ed45631855"),
    ("strategy-bundle-v1operator-strategy" ++ unrenderedArtifactsText,
      "7b6e29f63b41ee67b3b0f2c32885907f7f85c98f981cf87548129996bd3f708a"),
    ("\x7b\x22families\x22:[\x7b\x22family_id\x22:\x22family-a\x22,\x22members\x22:[" ++
        "\x7b\x22condition_id\x22:\x22condition-1\x22,\x22token_id\x22:\x22token-1\x22," ++
        "\x22price\x22:\x220.45\x22,\x22quantity\x22:\x2210\x22\x7d]\x7d]\x7d",
      "74296fe1b7123b56974b4e5135b9aeec73dd3b9d3d3c0d25f9df4deacd52da0e"),
    ("\x7b\x22families\x22:[]\x7d",
      "c9c909a20ed8f0983aef6fd79de948123fdc46953b3d5bf3ba3900140cb4d7dc")]

/-- A family that is listed and filed in one map only sets both revisions apart. -/
theorem sampleTargets_revisionsAgree :
    RevisionsAgree (tabled sampleRevisionDigests) sampleCandidateSet defaultFullSetBasisDigest
        (sampleTargets ["family-a"]) (sampleTargets []) ∧
      negRiskLiveTargetRevisionFromTargets (tabled sampleRevisionDigests) (sampleTargets []) =
        "sha256:c9c909a20ed8f0983aef6fd79de948123fdc46953b3d5bf3ba3900140cb4d7dc" := by
  have hsha : Function.Injective (tabled sampleRevisionDigests) :=
    tabled_injective (by decide +kernel) (by decide +kernel)
  have hfiled : (sampleTargets ["family-a"])["family-a"]? = some (sampleLiveTarget "family-a") := by
    decide +kernel
  have hempty : (sampleTargets [])["family-a"]? = none := by decide +kernel
  have hdiffer : ∀ R, ¬ FiledAlike R (sampleTargets ["family-a"]) (sampleTargets []) := by
    intro R h
    have hfamily := h "family-a"
    rw [hfiled, hempty] at hfamily
    cases hfamily
  have hrendered : ¬ RenderedAlike sampleCandidateSet (sampleTargets ["family-a"])
      (sampleTargets []) := by
    intro h
    have hfamily := h _ List.mem_cons_self
    rw [hfiled, hempty] at hfamily
    cases hfamily
  exact ⟨(revisionsAgree_iff hsha).mpr ⟨fun h ↦ absurd h (hdiffer _),
    fun _ ↦ ⟨hdiffer _, hrendered⟩⟩, by decide +kernel⟩

/-- The sample's target, with a place more in its price. -/
def rescaledLiveTarget : NegRiskFamilyLiveTarget :=
  { familyId := "family-a"
    members :=
      [{ conditionId := "condition-1"
         tokenId := "token-1"
         price := Execution.samplePaddedPrice
         quantity := Execution.ExecutionPlan.sampleQuantity }] }

/-- At a price of 0.450 in place of 0.45 the strategy revision is another one. -/
theorem rescaled_not_revisionsAgree :
    ¬ ∃ sha256 : String → String, Function.Injective sha256 ∧
      ∀ candidateSet fullSetBasisDigest targets targets',
        RevisionsAgree sha256 candidateSet fullSetBasisDigest targets targets' := by
  rintro ⟨sha256, hsha, hall⟩
  have hagree := hall sampleCandidateSet defaultFullSetBasisDigest
    ((∅ : LiveTargets).insert "family-a" (sampleLiveTarget "family-a"))
    ((∅ : LiveTargets).insert "family-a" rescaledLiveTarget)
  have halike : FiledAlike FamilyAlike
      ((∅ : LiveTargets).insert "family-a" (sampleLiveTarget "family-a"))
      ((∅ : LiveTargets).insert "family-a" rescaledLiveTarget) := by
    intro familyId
    rw [BTreeMap.lookup_insert, BTreeMap.lookup_insert]
    split_ifs
    · refine .some ⟨rfl, ?_⟩
      have hmembers : (sampleLiveTarget "family-a").members.map NegRiskMemberLiveTarget.exact =
          rescaledLiveTarget.members.map NegRiskMemberLiveTarget.exact := by
        decide +kernel
      rw [MembersAlike, hmembers]
    · rw [Std.ExtTreeMap.getElem?_empty]
      exact .none
  have hrendered := (operatorStrategyRevision_eq_iff hsha).mp (hagree.alike halike).2
  have hfamily := hrendered _ List.mem_cons_self
  revert hfamily
  decide +kernel

end Sample

end AxiomArb.AppLive
