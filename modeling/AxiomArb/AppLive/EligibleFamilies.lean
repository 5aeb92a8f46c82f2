import AxiomArb.AppLive.LiveSubmission

/-!
# Which families execute

The live loop, the shadow loop and the rollout evidence each select the families that are
ready and approved.  The loops ask a rollout policy, which falls back on the rule of the
scope `default`; the evidence looks the families up by name.  The three agree unless an
approval of `default` lets a family in that is not approved itself.
-/

namespace AxiomArb.AppLive

open Domain Library Risk

variable {executeShadowFamily : ShadowSink} {backend : NegRiskLiveExecutionBackend}
  {snapshotId : String} {targets : BTreeMap String NegRiskFamilyLiveTarget}
  {approvedFamilies readyFamilies : BTreeSet String} {runSessionId : Option String}
  {families : Families} {calls : List LiveCall}

/-! ## The shadow loop -/

/-- The loop that runs the given families against the sink. -/
def shadowBatch (executeShadowFamily : ShadowSink) (snapshotId : String)
    (approvedFamilies : BTreeSet String) (runSessionId : Option String)
    (seenAttempts : SeenAttempts) :
    Families → Except NegRiskShadowError (List NegRiskShadowExecutionRecord)
  | [] => return []
  | (familyId, target) :: families => do
      let record ← executeShadowFamily snapshotId target (liveRuleId approvedFamilies familyId)
        runSessionId
      match seenAttempts[record.attempt.attemptId]? with
      | some (firstKey, firstFamilyId) =>
          throw (.planning s!"duplicate shadow attempt generated in same batch: attempt_id={
            record.attempt.attemptId} first_key={firstKey} first_family_id={
            firstFamilyId} second_key={familyId} second_family_id={target.familyId}")
      | none =>
          let records ← shadowBatch executeShadowFamily snapshotId approvedFamilies runSessionId
            (seenAttempts.insert record.attempt.attemptId (familyId, target.familyId)) families
          return record :: records

/-- The policy of the shadow loop. -/
def shadowTargetsPolicy (approvedFamilies : BTreeSet String) : ActivationPolicy :=
  (liveTargetsPolicy approvedFamilies).withRealUserShadowSmoke

/-- The shadow loop approves what the live loop does. -/
theorem evaluateDecision_shadowTargetsPolicy {intent : IntentCandidate} {familyId : String} :
    evaluateDecision (.strategy intent)
        ((shadowTargetsPolicy approvedFamilies).activationFor ROUTE familyId snapshotId) =
          .approved ↔
      Approved approvedFamilies familyId := by
  have hmode : ∀ mode, (shadowTargetsPolicy approvedFamilies).clampMode ROUTE mode =
      clampRealUserShadowSmokeMode ROUTE mode := fun _ ↦ rfl
  have hrule : ∀ familyId,
      resolveRule (shadowTargetsPolicy approvedFamilies).capabilityMatrix ROUTE familyId =
        resolveRule (liveTargetsPolicy approvedFamilies).capabilityMatrix ROUTE familyId :=
    fun _ ↦ rfl
  rw [evaluateDecision_strategy, mode_activationFor_of_no_overlay rfl, hmode, hrule,
    resolveRule_liveTargetsPolicy, Approved]
  have hlive : clampRealUserShadowSmokeMode ROUTE .live = .shadow := by decide
  have hdisabled : clampRealUserShadowSmokeMode ROUTE .disabled = .disabled := by decide
  by_cases hfamily : familyId ∈ approvedFamilies
  · simp [hfamily, liveRule, hlive]
  · by_cases hdefault : "default" ∈ approvedFamilies <;>
      simp [hfamily, hdefault, liveRule, hlive, hdisabled]

/-- The shadow loop runs the eligible families, under the rules of the live loop. -/
theorem shadowRecords_eq (seenAttempts : SeenAttempts) (families : Families) :
    shadowRecords executeShadowFamily (shadowTargetsPolicy approvedFamilies) snapshotId
        readyFamilies runSessionId seenAttempts families =
      shadowBatch executeShadowFamily snapshotId approvedFamilies runSessionId seenAttempts
        (eligible approvedFamilies readyFamilies families) := by
  induction families generalizing seenAttempts with
  | nil => rfl
  | cons family families ih =>
      obtain ⟨familyId, target⟩ := family
      rw [shadowRecords]
      by_cases hready : familyId ∈ readyFamilies
      swap
      · rw [if_pos hready, ih, eligible_cons_of_neg fun h ↦ hready h.1]
      rw [if_neg (not_not.mpr hready)]
      by_cases happroved : Approved approvedFamilies familyId
      swap
      · rw [if_pos (by rwa [Ne, evaluateDecision_shadowTargetsPolicy]), ih,
          eligible_cons_of_neg fun h ↦ happroved h.2]
      rw [if_neg (by rw [Ne, not_not, evaluateDecision_shadowTargetsPolicy]; exact happroved),
        eligible_cons_of_pos ⟨hready, happroved⟩, shadowBatch]
      have hrule : ((shadowTargetsPolicy approvedFamilies).activationFor ROUTE familyId snapshotId
          ).matchedRuleId.getD "phase3b-negrisk-shadow" = liveRuleId approvedFamilies familyId := by
        have hoverlay : (shadowTargetsPolicy approvedFamilies).overlays = ∅ := rfl
        have hmatrix : (shadowTargetsPolicy approvedFamilies).capabilityMatrix =
            (liveTargetsPolicy approvedFamilies).capabilityMatrix := rfl
        simp only [ActivationPolicy.activationFor, hoverlay, hmatrix, resolveRule_liveTargetsPolicy,
          liveRuleId]
        by_cases hfamily : familyId ∈ approvedFamilies
        · simp [hfamily, liveRule]
        · simp only [if_neg hfamily, if_pos (happroved.resolve_left hfamily)]
          rfl
      rw [hrule]
      refine bind_congr fun record ↦ ?_
      cases seenAttempts[record.attempt.attemptId]? with
      | some seen => rfl
      | none => exact congrArg (· >>= fun records ↦ pure (record :: records)) (ih _)

/-! ## The live loop -/

/-- A batch of calls is about its families, in their order, up to the first failure. -/
theorem familyIds_venueBatch_prefix :
    (venueBatch backend snapshotId approvedFamilies calls families).map LiveCall.familyId <+:
      families.map Prod.fst := by
  induction families generalizing calls with
  | nil => exact List.prefix_rfl
  | cons family families ih =>
      obtain ⟨familyId, target⟩ := family
      simp only [venueBatch]
      split
      · exact List.cons_prefix_cons.mpr ⟨rfl, ih⟩
      · exact List.cons_prefix_cons.mpr ⟨rfl, List.nil_prefix⟩

/-- The target of each call is that of its family. -/
theorem target_of_mem_venueBatch {call : LiveCall}
    (h : call ∈ venueBatch backend snapshotId approvedFamilies calls families) :
    (call.familyId, call.target) ∈ families := by
  induction families generalizing calls with
  | nil => cases h
  | cons family families ih =>
      obtain ⟨familyId, target⟩ := family
      simp only [venueBatch] at h
      split at h
      · rcases List.mem_cons.mp h with rfl | hlater
        · exact List.mem_cons_self
        · exact List.mem_cons_of_mem _ (ih hlater)
      · rw [List.mem_singleton] at h
        subst h
        exact List.mem_cons_self

/-! ## Selection by name -/

/-- The families that are ready and approved, each by its own name. -/
def namedFamilies (approvedFamilies readyFamilies : BTreeSet String) (families : Families) :
    Families :=
  families.filter fun family ↦ decide (family.1 ∈ readyFamilies ∧ family.1 ∈ approvedFamilies)

/-- `default` is approved, and lets a ready family in that is not. -/
def FallsBack (targets : BTreeMap String NegRiskFamilyLiveTarget)
    (approvedFamilies readyFamilies : BTreeSet String) : Prop :=
  "default" ∈ approvedFamilies ∧
    ∃ familyId ∈ targets, familyId ∈ readyFamilies ∧ familyId ∉ approvedFamilies

/-- The eligible families are those selected by name exactly if none falls back. -/
theorem eligible_eq_namedFamilies_iff :
    eligible approvedFamilies readyFamilies targets.toList =
        namedFamilies approvedFamilies readyFamilies targets.toList ↔
      ¬ FallsBack targets approvedFamilies readyFamilies := by
  constructor
  · rintro heq ⟨hdefault, familyId, htarget, hready, hnot⟩
    obtain ⟨target, hlookup⟩ := Option.isSome_iff_exists.mp
      (Std.ExtTreeMap.mem_iff_isSome_getElem?.mp htarget)
    have hmem : (familyId, target) ∈ eligible approvedFamilies readyFamilies targets.toList :=
      List.mem_filter.mpr ⟨Std.ExtTreeMap.mem_toList_iff_getElem?_eq_some.mpr hlookup,
        decide_eq_true ⟨hready, .inr hdefault⟩⟩
    rw [heq] at hmem
    exact hnot (of_decide_eq_true (List.mem_filter.mp hmem).2).2
  · intro hnone
    refine List.filter_congr fun family hfamily ↦ decide_eq_decide.mpr ?_
    refine and_congr_right fun hready ↦ ⟨?_, .inl⟩
    rintro (happroved | hdefault)
    · exact happroved
    · by_contra hnot
      refine hnone ⟨hdefault, family.1, ?_, hready, hnot⟩
      rw [Std.ExtTreeMap.mem_iff_isSome_getElem?,
        Std.ExtTreeMap.mem_toList_iff_getElem?_eq_some.mp hfamily]
      rfl

/-- What the live loop, the shadow loop and the rollout evidence make of the families of a
supervisor: each selects those that are ready and approved, by name.  The loops go over
them in ascending order, once each, and stop at the first failure. -/
structure SelectByName (supervisor : AppSupervisor) : Prop where
  live : ∀ backend snapshotId calls,
    let submitted := (exec (eligibleLiveRecordsWithBackend snapshotId supervisor.negRiskLiveTargets
      supervisor.negRiskLiveApprovedFamilies supervisor.negRiskLiveReadyFamilies backend) calls).2
    let named := namedFamilies supervisor.negRiskLiveApprovedFamilies
      supervisor.negRiskLiveReadyFamilies supervisor.negRiskLiveTargets.toList
    ∃ made, submitted = calls ++ made ∧
      made.map LiveCall.familyId <+: named.map Prod.fst ∧
      (made.map LiveCall.familyId).Pairwise (fun familyId familyId' ↦ compare familyId familyId' = .lt) ∧
      (∀ call ∈ made, supervisor.negRiskLiveTargets[call.familyId]? = some call.target) ∧
      ((∀ call ∈ made, ∃ record, call.answer = .ok record) →
        made.map LiveCall.familyId = named.map Prod.fst)
  counted : (namedFamilies supervisor.negRiskLiveApprovedFamilies
    supervisor.negRiskLiveReadyFamilies supervisor.negRiskLiveTargets.toList).length =
      supervisor.syntheticLiveReadyFamilyCount
  shadow : ∀ executeShadowFamily snapshotId runSessionId,
    eligibleShadowRecordsWithRunSessionId executeShadowFamily snapshotId
        supervisor.negRiskLiveTargets supervisor.negRiskLiveApprovedFamilies
        supervisor.negRiskLiveReadyFamilies runSessionId =
      shadowBatch executeShadowFamily snapshotId supervisor.negRiskLiveApprovedFamilies runSessionId
        ∅ (namedFamilies supervisor.negRiskLiveApprovedFamilies
          supervisor.negRiskLiveReadyFamilies supervisor.negRiskLiveTargets.toList)

theorem pairwise_eligible :
    ((eligible approvedFamilies readyFamilies targets.toList).map Prod.fst).Pairwise
      fun familyId familyId' ↦ compare familyId familyId' = .lt := by
  refine List.Pairwise.sublist (List.filter_sublist.map Prod.fst) ?_
  rw [Std.ExtTreeMap.map_fst_toList_eq_keys]
  exact Std.ExtTreeMap.ordered_keys

theorem length_namedFamilies (supervisor : AppSupervisor) :
    (namedFamilies supervisor.negRiskLiveApprovedFamilies supervisor.negRiskLiveReadyFamilies
      supervisor.negRiskLiveTargets.toList).length = supervisor.syntheticLiveReadyFamilyCount := by
  rw [AppSupervisor.syntheticLiveReadyFamilyCount, ← Std.ExtTreeMap.map_fst_toList_eq_keys,
    List.countP_map, List.countP_eq_length_filter, namedFamilies]
  refine congrArg List.length (List.filter_congr fun family _ ↦ ?_)
  rw [Bool.eq_iff_iff]
  simp

/-- A venue that takes every family is called for the eligible ones. -/
theorem exists_calls_eligible (snapshotId : String) (approvedFamilies readyFamilies : BTreeSet String)
    (targets : BTreeMap String NegRiskFamilyLiveTarget) (record : NegRiskLiveExecutionRecord) :
    let made := (exec (eligibleLiveRecordsWithBackend snapshotId targets approvedFamilies
      readyFamilies ⟨fun _ _ _ _ ↦ .ok record⟩) []).2
    (∀ call ∈ made, ∃ record, call.answer = .ok record) ∧
      made.map LiveCall.familyId =
        (eligible approvedFamilies readyFamilies targets.toList).map Prod.fst := by
  intro made
  have hmade : made = venueBatch ⟨fun _ _ _ _ ↦ .ok record⟩ snapshotId approvedFamilies []
      (eligible approvedFamilies readyFamilies targets.toList) :=
    (congrArg Prod.snd (exec_liveRecords _ [])).trans (List.nil_append _)
  have hanswers : ∀ call ∈ made, ∃ record, call.answer = .ok record := by
    rw [hmade]
    exact answers_venueBatch fun _ _ _ _ ↦ ⟨record, rfl⟩
  rw [hmade] at hanswers ⊢
  exact ⟨hanswers, familyIds_venueBatch hanswers⟩

/-- A venue that takes every family tells the selections apart. -/
theorem eligible_eq_of_selectByName {supervisor : AppSupervisor} (h : SelectByName supervisor) :
    eligible supervisor.negRiskLiveApprovedFamilies supervisor.negRiskLiveReadyFamilies
        supervisor.negRiskLiveTargets.toList =
      namedFamilies supervisor.negRiskLiveApprovedFamilies supervisor.negRiskLiveReadyFamilies
        supervisor.negRiskLiveTargets.toList := by
  let record := AppSupervisor.takenRecord "snapshot-0" { familyId := "", members := [] } ""
  obtain ⟨hanswers, heligible⟩ := exists_calls_eligible "snapshot-0"
    supervisor.negRiskLiveApprovedFamilies supervisor.negRiskLiveReadyFamilies
    supervisor.negRiskLiveTargets record
  obtain ⟨made, hmade, -, -, -, hnamed⟩ := h.live ⟨fun _ _ _ _ ↦ .ok record⟩ "snapshot-0" []
  rw [hmade, List.nil_append] at hanswers heligible
  have hsame := heligible.symm.trans (hnamed hanswers)
  have hsublist : (namedFamilies supervisor.negRiskLiveApprovedFamilies
      supervisor.negRiskLiveReadyFamilies supervisor.negRiskLiveTargets.toList).Sublist
      (eligible supervisor.negRiskLiveApprovedFamilies supervisor.negRiskLiveReadyFamilies
        supervisor.negRiskLiveTargets.toList) := by
    refine List.monotone_filter_right _ fun family hnamed ↦ ?_
    have h := of_decide_eq_true hnamed
    exact decide_eq_true ⟨h.1, .inl h.2⟩
  refine (hsublist.eq_of_length ?_).symm
  simpa using (congrArg List.length hsame).symm

/-- **The three selections agree by name, unless `default` is approved.**  They do exactly
if no ready family is let in by an approval of `default` alone. -/
theorem selectByName_iff (supervisor : AppSupervisor) :
    SelectByName supervisor ↔
      ¬ FallsBack supervisor.negRiskLiveTargets supervisor.negRiskLiveApprovedFamilies
        supervisor.negRiskLiveReadyFamilies := by
  rw [← eligible_eq_namedFamilies_iff]
  constructor
  · exact eligible_eq_of_selectByName
  · intro heq
    refine ⟨fun backend snapshotId calls ↦ ?_, ?_, fun sink snapshotId runSessionId ↦ ?_⟩
    · refine ⟨_, congrArg Prod.snd (exec_liveRecords _ calls), ?_, ?_, ?_, ?_⟩
      · rw [heq]
        exact familyIds_venueBatch_prefix
      · exact pairwise_eligible.sublist familyIds_venueBatch_prefix.sublist
      · intro call hcall
        exact Std.ExtTreeMap.mem_toList_iff_getElem?_eq_some.mp
          (List.mem_filter.mp (target_of_mem_venueBatch hcall)).1
      · rw [heq]
        exact familyIds_venueBatch
    · exact length_namedFamilies supervisor
    · rw [← heq]
      exact shadowRecords_eq ∅ _

/-- `family-a` is a target and ready; only `default` is approved.  The venue is called for
`family-a`, which the rollout evidence does not count. -/
theorem default_approval_executes :
    ¬ SelectByName { AppSupervisor.new .live .empty with
      negRiskLiveTargets := .byKey NegRiskFamilyLiveTarget.familyId
        [{ familyId := "family-a", members := [] }]
      negRiskLiveApprovedFamilies := .ofList ["default"] compare
      negRiskLiveReadyFamilies := .ofList ["family-a"] compare } := by
  intro h
  have hlength := congrArg List.length (eligible_eq_of_selectByName h)
  revert hlength
  decide

end AxiomArb.AppLive
