import AxiomArb.AppLive.RouteArtifacts

/-!
# The targets that startup loads

A payload holds the rendered targets twice, as a map and in the artifacts of the routes.
Read as a map they come back unless there are none.  Read from the artifacts they come back
if each family is that of one candidate target: a family that no target has is not in the
artifacts, and one that two targets have is refused.

## Honest boundary

* Two decimals are equal if their values are; a decimal that is read need not have the scale
  of the one that was written.
-/

namespace AxiomArb.AppLive

open Domain Library Persistence

/-! ## Targets by value -/

/-- A member as `==` compares it. -/
def NegRiskMemberLiveTarget.exact (member : NegRiskMemberLiveTarget) : String × String × ℚ × ℚ :=
  (member.conditionId, member.tokenId, member.price.value, member.quantity.value)

/-- A target as `==` compares it. -/
def NegRiskFamilyLiveTarget.exact (target : NegRiskFamilyLiveTarget) :
    String × List (String × String × ℚ × ℚ) :=
  (target.familyId, target.members.map NegRiskMemberLiveTarget.exact)

abbrev LiveTargets := BTreeMap String NegRiskFamilyLiveTarget

/-- The target of a family, by value. -/
def exactAt (targets : LiveTargets) (familyId : String) :
    Option (String × List (String × String × ℚ × ℚ)) :=
  targets[familyId]?.map NegRiskFamilyLiveTarget.exact

/-- The two maps have equal targets for the same families. -/
def SameTargets (targets targets' : LiveTargets) : Prop :=
  ∀ familyId, exactAt targets familyId = exactAt targets' familyId

/-- Each target is filed under its family. -/
def Keyed (targets : LiveTargets) : Prop :=
  ∀ (familyId : String) (target : NegRiskFamilyLiveTarget),
    targets[familyId]? = some target → target.familyId = familyId

/-- A decimal that was written is read with its value. -/
structure Serde.Lawful (serde : Serde) : Prop where
  readDecimal : ∀ decimal : ScaledDecimal, (serde.readDecimal (.string decimal.text)).map
    ScaledDecimal.value = some decimal.value

namespace Serde.Lawful

variable {serde : Serde} (hserde : serde.Lawful)

include hserde

theorem readMemberLiveTarget (member : NegRiskMemberLiveTarget) :
    (serde.readMemberLiveTarget member.toJson).map NegRiskMemberLiveTarget.exact =
      some member.exact := by
  obtain ⟨price, hprice, hpriceValue⟩ := Option.map_eq_some_iff.mp (hserde.readDecimal member.price)
  obtain ⟨quantity, hquantity, hquantityValue⟩ :=
    Option.map_eq_some_iff.mp (hserde.readDecimal member.quantity)
  have hread : serde.readMemberLiveTarget member.toJson =
      some { conditionId := member.conditionId, tokenId := member.tokenId, price, quantity } := by
    simp [Serde.readMemberLiveTarget, NegRiskMemberLiveTarget.toJson, structFields, Json.findMember,
      Json.asStr, hprice, hquantity]
  rw [hread, NegRiskMemberLiveTarget.exact, ← hpriceValue, ← hquantityValue]
  rfl

theorem readLiveTarget (target : NegRiskFamilyLiveTarget) :
    (serde.readLiveTarget target.toJson).map NegRiskFamilyLiveTarget.exact = some target.exact := by
  have hmembers : ((target.members.map NegRiskMemberLiveTarget.toJson).mapM
        serde.readMemberLiveTarget).map (List.map NegRiskMemberLiveTarget.exact) =
      some (target.members.map NegRiskMemberLiveTarget.exact) := by
    rw [List.mapM_map]
    exact map_mapM_eq_some fun member _ ↦ hserde.readMemberLiveTarget member
  obtain ⟨members, hread, hexact⟩ := Option.map_eq_some_iff.mp hmembers
  have htarget : serde.readLiveTarget target.toJson =
      some { familyId := target.familyId, members } := by
    simp [Serde.readLiveTarget, NegRiskFamilyLiveTarget.toJson, structFields, Json.findMember,
      Json.asStr, readVec, hread]
  rw [htarget, NegRiskFamilyLiveTarget.exact, ← hexact]
  rfl

/-- A map of targets that was written is read again. -/
theorem readLiveTargets (rendered : LiveTargets) :
    ∃ targets, serde.readLiveTargets (liveTargetsJson rendered) = some targets ∧
      SameTargets targets rendered := by
  let view (entry : String × NegRiskFamilyLiveTarget) := (entry.1, entry.2.exact)
  let readEntry (entry : String × Json) := do return (entry.1, ← serde.readLiveTarget entry.2)
  have hentries : ((rendered.toList.map fun entry ↦ (entry.1, entry.2.toJson)).mapM
      readEntry).map (List.map view) = some (rendered.toList.map view) := by
    rw [List.mapM_map]
    refine map_mapM_eq_some fun entry _ ↦ ?_
    obtain ⟨target, htarget, hexact⟩ := Option.map_eq_some_iff.mp (hserde.readLiveTarget entry.2)
    simp only [readEntry, Function.comp_apply, htarget]
    exact congrArg (fun exact ↦ some (entry.1, exact)) hexact
  obtain ⟨entries, hread, hviews⟩ := Option.map_eq_some_iff.mp hentries
  refine ⟨.ofList entries, ?_, fun familyId ↦ ?_⟩
  · exact congrArg (· >>= fun entries ↦ pure (Std.ExtTreeMap.ofList entries)) hread
  · have hlookup := BTreeMap.lookup_ofList_map Prod.fst Prod.snd entries familyId
    rw [List.map_id'] at hlookup
    -- under a key, the entries that were read show what was written
    have hlast : (BTreeMap.lastOf Prod.fst entries familyId).map view =
        (BTreeMap.lastOf Prod.fst rendered.toList familyId).map view := by
      have hboth := congrArg (BTreeMap.lastOf Prod.fst · familyId) hviews
      rw [BTreeMap.lastOf_map, BTreeMap.lastOf_map] at hboth
      exact hboth
    rw [BTreeMap.lastOf_toList, Option.map_map] at hlast
    have hexact := congrArg (Option.map Prod.snd) hlast
    rw [Option.map_map, Option.map_map] at hexact
    rw [exactAt, hlookup, Option.map_map]
    exact hexact

end Serde.Lawful

/-! ## Artifacts that are read again -/

theorem readRouteArtifact_serialized (artifact : RouteArtifact) :
    readRouteArtifact (serializedRouteArtifact artifact) = some artifact := by
  simp [readRouteArtifact, readStrategyKey, serializedRouteArtifact, structFields, Json.findMember,
    Json.asStr]

theorem validateLiveRouteScope_neg_risk {scope : String} (h : (trim scope).isEmpty = false) :
    validateLiveRouteScope "neg-risk" scope = .ok ⟨⟩ := by
  have hscope : NegRiskRouteAdapter.validateScope scope = .ok ⟨⟩ := by
    rw [NegRiskRouteAdapter.validateScope, h]
    rfl
  have hroute : liveRouteRegistry.lookup "neg-risk" = some NegRiskRouteAdapter.validateScope := rfl
  rw [validateLiveRouteScope, hroute]
  simp only [hscope]
  rfl

/-- The scope of an artifact is never blank. -/
theorem isEmpty_trim_routeScope (target : CandidateTarget) :
    (trim (routeScope target)).isEmpty = false := by
  rw [routeScope]
  split_ifs with hblank
  · have hmem : 't' ∈ (s!"target:{target.targetId}").toList := by
      rw [String.toList_append]
      exact List.mem_append_left _ (by decide)
    exact isEmpty_trim_of_mem hmem (by decide)
  · exact Bool.eq_false_iff.mpr hblank

section Grouped

variable {revision : String} {artifacts : List RouteArtifact}

/-- Artifacts with proper scopes are filed under their routes, in their order. -/
theorem foldlM_groupArtifact (grouped : RoutedArtifacts) (hvalid : ∀ artifact ∈ artifacts,
      validateLiveRouteScope artifact.key.route artifact.key.scope = .ok ⟨⟩) :
    ∃ grouped', artifacts.foldlM (groupArtifact revision) grouped = .ok grouped' ∧
      ∀ route : String, (grouped'[route]?).getD [] = (grouped[route]?).getD [] ++
        (artifacts.filter (·.key.route = route)).map RouteArtifact.runtime := by
  induction artifacts generalizing grouped with
  | nil => exact ⟨grouped, rfl, fun route ↦ (List.append_nil _).symm⟩
  | cons artifact artifacts ih =>
      obtain ⟨hartifact, hrest⟩ := List.forall_mem_cons.mp hvalid
      have hstep : groupArtifact revision grouped artifact = .ok (grouped.insert artifact.key.route
          ((grouped[artifact.key.route]?).getD [] ++ [artifact.runtime])) := by
        rw [groupArtifact, hartifact]
      obtain ⟨grouped', hfold, hfiled⟩ := ih (grouped.insert artifact.key.route
        ((grouped[artifact.key.route]?).getD [] ++ [artifact.runtime])) hrest
      refine ⟨grouped', ?_, fun route ↦ ?_⟩
      · rw [List.foldlM_cons, hstep]
        exact hfold
      · rw [hfiled, BTreeMap.lookup_insert]
        by_cases hroute : artifact.key.route = route
        · rw [if_pos hroute, List.filter_cons_of_pos (by simpa using hroute), List.map_cons,
            Option.getD_some, hroute, List.append_assoc]
          rfl
        · rw [if_neg hroute, List.filter_cons_of_neg (by simpa using hroute)]

/-- Artifacts that are read, and have proper scopes, are parsed. -/
theorem exists_parseRouteArtifacts_of_read (revision : String) (serde : Serde) {payload value : Json}
    (hpayload : payload.get? "route_artifacts" = some value)
    (hread : readVec readRouteArtifact value = some artifacts)
    (hne : artifacts ≠ []) (hvalid : ∀ artifact ∈ artifacts,
      validateLiveRouteScope artifact.key.route artifact.key.scope = .ok ⟨⟩) :
    ∃ grouped, parseRouteArtifacts serde payload revision = .ok grouped ∧
      ∀ route : String, (grouped[route]?).getD [] =
        (artifacts.filter (·.key.route = route)).map RouteArtifact.runtime := by
  obtain ⟨grouped, hfold, hfiled⟩ := @foldlM_groupArtifact revision artifacts ∅ hvalid
  refine ⟨grouped, ?_, fun route ↦ ?_⟩
  · rw [parseRouteArtifacts, hpayload]
    cases artifacts with
    | nil => exact absurd rfl hne
    | cons artifact artifacts =>
        simp only [hread]
        exact hfold
  · rw [hfiled, Std.ExtTreeMap.getElem?_empty]
    exact List.nil_append _

theorem exists_parseRouteArtifacts (revision : String) (serde : Serde) {payload : Json}
    (hpayload : payload.get? "route_artifacts" =
      some (.array (artifacts.map serializedRouteArtifact)))
    (hne : artifacts ≠ []) (hvalid : ∀ artifact ∈ artifacts,
      validateLiveRouteScope artifact.key.route artifact.key.scope = .ok ⟨⟩) :
    ∃ grouped, parseRouteArtifacts serde payload revision = .ok grouped ∧
      ∀ route : String, (grouped[route]?).getD [] =
        (artifacts.filter (·.key.route = route)).map RouteArtifact.runtime := by
  have hread : readVec readRouteArtifact (.array (artifacts.map serializedRouteArtifact)) =
      some artifacts := by
    have hsome : readRouteArtifact ∘ serializedRouteArtifact = fun artifact ↦ pure artifact :=
      funext readRouteArtifact_serialized
    rw [readVec, List.mapM_map, hsome, List.mapM_pure, List.map_id']
    rfl
  exact exists_parseRouteArtifacts_of_read revision serde hpayload hread hne hvalid

end Grouped

/-! ## The targets of artifacts -/

section Carried

variable {serde : Serde} {targets targets' : LiveTargets} {artifact : RouteRuntimeArtifact}
  {artifacts : List RouteRuntimeArtifact}

/-- The target that an artifact carries, as it is read. -/
def RouteRuntimeArtifact.carried (serde : Serde) (artifact : RouteRuntimeArtifact) :
    Option NegRiskFamilyLiveTarget :=
  (artifact.content.get? "rendered_live_target").bind serde.readLiveTarget

/-- The artifact carries nothing, or what it carries can be read. -/
def RouteRuntimeArtifact.Readable (serde : Serde) (artifact : RouteRuntimeArtifact) : Prop :=
  ∀ value ∈ artifact.content.get? "rendered_live_target", value ≠ .null →
    (serde.readLiveTarget value).isSome

/-- The artifacts do not carry targets of one family. -/
def Apart (serde : Serde) (artifact artifact' : RouteRuntimeArtifact) : Prop :=
  ∀ target ∈ artifact.carried serde, ∀ target' ∈ artifact'.carried serde,
    target.familyId ≠ target'.familyId

theorem insertRendered_eq_ok_iff : insertRendered serde targets artifact = .ok targets' ↔
    artifact.Readable serde ∧
      match artifact.carried serde with
      | none => targets = targets'
      | some target => target.familyId ∉ targets ∧ targets.insert target.familyId target = targets' := by
  have hnull : serde.readLiveTarget .null = none := rfl
  rw [insertRendered, RouteRuntimeArtifact.carried, RouteRuntimeArtifact.Readable]
  cases hcontent : artifact.content.get? "rendered_live_target" with
  | none => simp
  | some value =>
      by_cases hvalue : value = .null
      · subst hvalue
        simp [hnull]
      · cases htarget : serde.readLiveTarget value with
        | none => simp [htarget, hvalue]
        | some target =>
            by_cases hmem : target.familyId ∈ targets
            · simp [htarget, hvalue, hmem]
            · simp [htarget, hvalue, hmem]

/-- The targets are those that the artifacts carry, by their families. -/
def Gathered (serde : Serde) (artifacts : List RouteRuntimeArtifact) (targets : LiveTargets) : Prop :=
  ∀ (familyId : String) (target : NegRiskFamilyLiveTarget), targets[familyId]? = some target ↔
    target ∈ artifacts.filterMap (·.carried serde) ∧ target.familyId = familyId

theorem Gathered.mem_iff (h : Gathered serde artifacts targets) (familyId : String) :
    familyId ∈ targets ↔
      ∃ target ∈ artifacts.filterMap (·.carried serde), target.familyId = familyId := by
  rw [Std.ExtTreeMap.mem_iff_isSome_getElem?, Option.isSome_iff_exists]
  exact exists_congr (h familyId)

theorem Gathered.insertRendered (h : Gathered serde artifacts targets)
    (hinsert : insertRendered serde targets artifact = .ok targets') :
    Gathered serde (artifacts ++ [artifact]) targets' := by
  obtain ⟨-, hcarried⟩ := insertRendered_eq_ok_iff.mp hinsert
  intro familyId target
  rw [List.filterMap_append, List.mem_append]
  cases hnew : artifact.carried serde with
  | none =>
      rw [hnew] at hcarried
      rw [← hcarried, h, List.filterMap_cons_none hnew, List.filterMap_nil]
      simp
  | some carried =>
      rw [hnew] at hcarried
      obtain ⟨hfresh, rfl⟩ := hcarried
      rw [BTreeMap.lookup_insert, List.filterMap_cons_some hnew, List.filterMap_nil,
        List.mem_singleton]
      split_ifs with hfamily
      · constructor
        · intro heq
          obtain rfl := Option.some.inj heq
          exact ⟨.inr rfl, hfamily⟩
        · rintro ⟨hold | rfl, htarget⟩
          · -- the family would have been there before
            exact absurd ((h.mem_iff _).mpr ⟨target, hold, htarget.trans hfamily.symm⟩) hfresh
          · exact rfl
      · rw [h]
        constructor
        · exact fun hold ↦ ⟨.inl hold.1, hold.2⟩
        · rintro ⟨hold | rfl, htarget⟩
          · exact ⟨hold, htarget⟩
          · exact absurd htarget hfamily

theorem Gathered.exists_insertRendered_iff (h : Gathered serde artifacts targets) :
    (∃ targets', AppLive.insertRendered serde targets artifact = .ok targets') ↔
      artifact.Readable serde ∧ ∀ earlier ∈ artifacts, Apart serde earlier artifact := by
  simp only [insertRendered_eq_ok_iff, exists_and_left, and_congr_right_iff]
  intro _
  cases hnew : artifact.carried serde with
  | none =>
      refine iff_of_true ⟨targets, rfl⟩ fun earlier _ target _ target' htarget' ↦ ?_
      rw [hnew] at htarget'
      cases htarget'
  | some carried =>
      simp only [exists_and_left, exists_eq', and_true, h.mem_iff, Apart, hnew, List.mem_filterMap]
      constructor
      · rintro hfresh earlier hearlier target htarget _ ⟨⟩ hfamily
        exact hfresh ⟨target, ⟨earlier, hearlier, htarget⟩, hfamily⟩
      · rintro hapart ⟨target, ⟨earlier, hearlier, htarget⟩, hfamily⟩
        exact hapart earlier hearlier target htarget carried rfl hfamily

theorem gathered_nil : Gathered serde [] ∅ := by
  intro familyId target
  rw [Std.ExtTreeMap.getElem?_empty]
  simp

/-- Targets are taken in if they can be read and are of different families. -/
theorem exists_foldlM_insertRendered_iff :
    (∃ targets, artifacts.foldlM (insertRendered serde) ∅ = .ok targets) ↔
      (∀ artifact ∈ artifacts, artifact.Readable serde) ∧ artifacts.Pairwise (Apart serde) :=
  exists_foldlM_iff (fun _ _ _ hgathered ↦ hgathered.exists_insertRendered_iff)
    (fun _ _ _ _ hgathered ↦ hgathered.insertRendered) gathered_nil artifacts

theorem gathered_of_foldlM (h : artifacts.foldlM (insertRendered serde) ∅ = .ok targets) :
    Gathered serde artifacts targets :=
  foldlM_induction (fun _ _ _ _ hgathered ↦ hgathered.insertRendered) gathered_nil h

/-! ### Targets that were rendered -/

variable {rendered : LiveTargets} {familyIds : List String}

theorem isSome_exactAt {familyId : String} :
    (exactAt rendered familyId).isSome ↔ familyId ∈ rendered := by
  rw [exactAt, Option.isSome_map, Std.ExtTreeMap.mem_iff_isSome_getElem?]

theorem Keyed.fst_of_exactAt (hkeyed : Keyed rendered) {familyId : String}
    {exact : String × List (String × String × ℚ × ℚ)} (h : exactAt rendered familyId = some exact) :
    exact.1 = familyId := by
  obtain ⟨target, htarget, rfl⟩ := Option.map_eq_some_iff.mp h
  exact hkeyed familyId target htarget

/-- The targets of some families are of those that have one. -/
theorem Keyed.map_fst_filterMap (hkeyed : Keyed rendered) (familyIds : List String) :
    (familyIds.filterMap (exactAt rendered)).map Prod.fst = familyIds.filter (· ∈ rendered) := by
  rw [List.map_filterMap, ← List.filterMap_eq_filter]
  refine List.filterMap_congr fun familyId _ ↦ ?_
  cases hexact : exactAt rendered familyId with
  | none =>
      have hnot : familyId ∉ rendered := by
        rw [← isSome_exactAt, hexact]
        exact Bool.false_ne_true
      rw [Option.map_none, Option.guard, if_neg (by simpa using hnot)]
  | some exact =>
      have hmem : familyId ∈ rendered := by
        rw [← isSome_exactAt, hexact]
        rfl
      rw [Option.map_some, hkeyed.fst_of_exactAt hexact, Option.guard, if_pos (by simpa using hmem)]

/-- The artifacts show what was rendered for some families. -/
structure Shows (serde : Serde) (artifacts : List RouteRuntimeArtifact) (rendered : LiveTargets)
    (familyIds : List String) : Prop where
  readable : ∀ artifact ∈ artifacts, artifact.Readable serde
  exact : ((artifacts.filterMap (·.carried serde)).map NegRiskFamilyLiveTarget.exact).Perm
    (familyIds.filterMap (exactAt rendered))

/-- The artifacts carry targets of different families if no family with one comes twice. -/
theorem Shows.pairwise_apart_iff (h : Shows serde artifacts rendered familyIds)
    (hkeyed : Keyed rendered) :
    artifacts.Pairwise (Apart serde) ↔ ∀ familyId ∈ rendered, familyIds.count familyId ≤ 1 := by
  have hfamilies := h.exact.map Prod.fst
  rw [hkeyed.map_fst_filterMap, List.map_map] at hfamilies
  have hapart : artifacts.Pairwise (Apart serde) ↔
      ((artifacts.filterMap (·.carried serde)).map (Prod.fst ∘ NegRiskFamilyLiveTarget.exact)).Nodup := by
    rw [List.Nodup, List.pairwise_map, List.pairwise_filterMap]
    exact Iff.rfl
  rw [hapart, hfamilies.nodup_iff, List.nodup_iff_count_le_one]
  refine forall_congr' fun familyId ↦ ?_
  by_cases hmem : familyId ∈ rendered
  · rw [List.count_filter (by simpa using hmem)]
    simp [hmem]
  · refine iff_of_true ?_ fun hmem' ↦ absurd hmem' hmem
    rw [List.count_eq_zero_of_not_mem fun hlisted ↦ hmem (by simpa using (List.mem_filter.mp hlisted).2)]
    exact Nat.zero_le 1

/-- What was taken in, by value. -/
theorem Shows.exactAt_eq_some_iff (h : Shows serde artifacts rendered familyIds)
    (hkeyed : Keyed rendered) (hgathered : Gathered serde artifacts targets) {familyId : String}
    {exact : String × List (String × String × ℚ × ℚ)} :
    exactAt targets familyId = some exact ↔
      familyId ∈ familyIds ∧ exactAt rendered familyId = some exact := by
  have hmem : (∃ target ∈ artifacts.filterMap (·.carried serde), target.exact = exact) ↔
      ∃ listed ∈ familyIds, exactAt rendered listed = some exact := by
    rw [← List.mem_map, h.exact.mem_iff, List.mem_filterMap]
  rw [exactAt, Option.map_eq_some_iff]
  constructor
  · rintro ⟨target, htarget, hexact⟩
    obtain ⟨hcarried, hfamily⟩ := (hgathered familyId target).mp htarget
    obtain ⟨listed, hlisted, hrendered⟩ := hmem.mp ⟨target, hcarried, hexact⟩
    obtain rfl : listed = familyId :=
      (hkeyed.fst_of_exactAt hrendered).symm.trans (hexact ▸ hfamily)
    exact ⟨hlisted, hrendered⟩
  · rintro ⟨hlisted, hrendered⟩
    obtain ⟨target, hcarried, hexact⟩ := hmem.mpr ⟨familyId, hlisted, hrendered⟩
    have hfamily : target.familyId = familyId :=
      (congrArg Prod.fst hexact).trans (hkeyed.fst_of_exactAt hrendered)
    exact ⟨target, (hgathered familyId target).mpr ⟨hcarried, hfamily⟩, hexact⟩

/-- What was rendered is taken in if each of its families comes once. -/
theorem Shows.loads_iff (h : Shows serde artifacts rendered familyIds) (hkeyed : Keyed rendered) :
    (∃ targets, artifacts.foldlM (AppLive.insertRendered serde) ∅ = .ok targets ∧
      SameTargets targets rendered) ↔ ∀ familyId ∈ rendered, familyIds.count familyId = 1 := by
  constructor
  · rintro ⟨targets, hfold, hsame⟩ familyId hrendered
    have hapart := (exists_foldlM_insertRendered_iff.mp ⟨targets, hfold⟩).2
    have hatMost := (h.pairwise_apart_iff hkeyed).mp hapart familyId hrendered
    obtain ⟨exact, hexact⟩ := Option.isSome_iff_exists.mp (isSome_exactAt.mpr hrendered)
    have hlisted := ((h.exactAt_eq_some_iff hkeyed (gathered_of_foldlM hfold)).mp
      ((hsame familyId).trans hexact)).1
    exact Nat.le_antisymm hatMost (List.one_le_count_iff.mpr hlisted)
  · intro honce
    have hapart := (h.pairwise_apart_iff hkeyed).mpr fun familyId hrendered ↦
      (honce familyId hrendered).le
    obtain ⟨targets, hfold⟩ := exists_foldlM_insertRendered_iff.mpr ⟨h.readable, hapart⟩
    refine ⟨targets, hfold, fun familyId ↦ Option.ext fun exact ↦ ?_⟩
    rw [h.exactAt_eq_some_iff hkeyed (gathered_of_foldlM hfold), and_iff_right_iff_imp]
    intro hexact
    have hrendered := isSome_exactAt.mp (Option.isSome_of_eq_some hexact)
    exact List.one_le_count_iff.mp (honce familyId hrendered).ge

end Carried

/-! ## What startup loads -/

/-- Startup loads the targets from the artifacts of the payload. -/
def LoadsRouteArtifacts (serde : Serde) (sha256 : String → String) (payload : Json)
    (revision : String) (operatorStrategyRevision : Option String) (rendered : LiveTargets) : Prop :=
  ∃ routeArtifacts targets, parseRouteArtifacts serde payload revision = .ok routeArtifacts ∧
    negRiskLiveTargetsFromRouteArtifacts serde sha256 routeArtifacts operatorStrategyRevision =
      .ok targets ∧ SameTargets targets.targets rendered

/-- Startup loads the targets from the map of the payload. -/
def LoadsRenderedLiveTargets (serde : Serde) (payload : Json) (revision : String)
    (rendered : LiveTargets) : Prop :=
  ∃ targets, parseRenderedLiveTargets serde payload revision = .ok targets ∧
    SameTargets targets rendered

section Loaded

variable {serde : Serde} {sha256 : String → String} {routeArtifacts : RoutedArtifacts}
  {operatorStrategyRevision : Option String} {rendered : LiveTargets}

/-- The targets of the route are those that its artifacts carry, under some revision. -/
theorem exists_targets_iff {P : LiveTargets → Prop} :
    (∃ targets, negRiskLiveTargetsFromRouteArtifacts serde sha256 routeArtifacts
        operatorStrategyRevision = .ok targets ∧ P targets.targets) ↔
      ∃ targets, ((routeArtifacts["neg-risk"]?).getD []).foldlM (insertRendered serde) ∅ =
        .ok targets ∧ P targets := by
  rw [negRiskLiveTargetsFromRouteArtifacts]
  cases ((routeArtifacts["neg-risk"]?).getD []).foldlM (insertRendered serde) ∅ with
  | error e =>
      refine iff_of_false ?_ ?_
      · rintro ⟨targets, ⟨⟩, -⟩
      · rintro ⟨targets, ⟨⟩, -⟩
  | ok loaded =>
      constructor
      · rintro ⟨targets, htargets, hP⟩
        cases operatorStrategyRevision with
        | none =>
            obtain rfl := Except.ok.inj htargets
            exact ⟨loaded, rfl, hP⟩
        | some revision =>
            obtain rfl := Except.ok.inj htargets
            exact ⟨loaded, rfl, hP⟩
      · rintro ⟨targets, ⟨⟩, hP⟩
        cases operatorStrategyRevision with
        | none => exact ⟨_, rfl, hP⟩
        | some revision => exact ⟨_, rfl, hP⟩

variable (hserde : serde.Lawful)

include hserde

/-- An artifact that was rendered carries what it was rendered with. -/
theorem readable_and_carried {artifact : RouteRuntimeArtifact}
    {target : Option NegRiskFamilyLiveTarget}
    (h : artifact.content.get? "rendered_live_target" = some (optionalLiveTargetJson target)) :
    artifact.Readable serde ∧
      (artifact.carried serde).map NegRiskFamilyLiveTarget.exact =
        target.map NegRiskFamilyLiveTarget.exact := by
  rw [RouteRuntimeArtifact.Readable, RouteRuntimeArtifact.carried, h]
  cases target with
  | none => exact ⟨fun value hvalue hne ↦ absurd (Option.some.inj hvalue).symm hne, rfl⟩
  | some target =>
      have hread := hserde.readLiveTarget target
      refine ⟨?_, hread⟩
      rintro _ ⟨⟩ -
      rw [← Option.isSome_map (f := NegRiskFamilyLiveTarget.exact), optionalLiveTargetJson, hread]
      rfl

/-- Artifacts that were rendered, in any order, show what was rendered. -/
theorem shows_of_perm {ι : Type} {items : List ι} {artifact : ι → RouteRuntimeArtifact}
    {familyId : ι → String} {artifacts : List RouteRuntimeArtifact}
    (hcontent : ∀ item ∈ items, (artifact item).content.get? "rendered_live_target" =
      some (optionalLiveTargetJson rendered[familyId item]?))
    (hperm : artifacts.Perm (items.map artifact)) :
    Shows serde artifacts rendered (items.map familyId) := by
  constructor
  case readable =>
    intro shown hshown
    obtain ⟨item, hitem, rfl⟩ := List.mem_map.mp (hperm.mem_iff.mp hshown)
    exact (readable_and_carried hserde (hcontent item hitem)).1
  case exact =>
    have hcarried : ((items.map artifact).filterMap (·.carried serde)).map
          NegRiskFamilyLiveTarget.exact = (items.map familyId).filterMap (exactAt rendered) := by
      rw [List.filterMap_map, List.map_filterMap, List.filterMap_map]
      exact List.filterMap_congr fun item hitem ↦ (readable_and_carried hserde (hcontent item hitem)).2
    exact hcarried ▸ (hperm.filterMap _).map _

/-! ### Rendered rows -/

section Rendered

variable {candidateSet : CandidateTargetSet} {fullSetBasisDigest revision : String}
  {render : CandidateArtifactRender}

omit hserde in
theorem perm_neg_risk_routeArtifacts (candidateSet : CandidateTargetSet) (rendered : LiveTargets)
    (fullSetBasisDigest : String) :
    ((CandidateBridge.routeArtifacts candidateSet rendered fullSetBasisDigest).filter
      (·.key.route = "neg-risk")).Perm
        (candidateSet.targets.map fun target ↦
          negRiskRouteArtifact target rendered[target.familyId]?) := by
  have hfilter : (fullSetRouteArtifact fullSetBasisDigest :: candidateSet.targets.map fun target ↦
        negRiskRouteArtifact target rendered[target.familyId]?).filter (·.key.route = "neg-risk") =
      candidateSet.targets.map fun target ↦ negRiskRouteArtifact target rendered[target.familyId]? := by
    have hfull : (fullSetRouteArtifact fullSetBasisDigest).key.route ≠ "neg-risk" := by
      show "full-set" ≠ "neg-risk"
      decide
    rw [List.filter_cons_of_neg (by simpa using hfull), List.filter_eq_self]
    intro artifact hartifact
    obtain ⟨target, -, rfl⟩ := List.mem_map.mp hartifact
    exact decide_eq_true rfl
  exact hfilter ▸ (perm_sortByKey RouteArtifact.key _).filter _

omit hserde in
theorem validateLiveRouteScope_routeArtifacts (candidateSet : CandidateTargetSet)
    (rendered : LiveTargets) (fullSetBasisDigest : String) :
    ∀ artifact ∈ CandidateBridge.routeArtifacts candidateSet rendered fullSetBasisDigest,
      validateLiveRouteScope artifact.key.route artifact.key.scope = .ok ⟨⟩ := by
  intro artifact hartifact
  rcases List.mem_cons.mp (mem_sortByKey.mp hartifact) with rfl | htarget
  · exact rfl
  · obtain ⟨target, -, rfl⟩ := List.mem_map.mp htarget
    have hkey : (negRiskRouteArtifact target rendered[target.familyId]?).key =
        { route := "neg-risk", scope := routeScope target } := rfl
    have hscope := validateLiveRouteScope_neg_risk (isEmpty_trim_routeScope target)
    simp only [hkey, hscope]

omit hserde in
/-- What a rendered payload holds of the targets. -/
theorem get?_payload_of_render
    (hrender : CandidateBridge.renderWithFullSetBasis sha256 candidateSet rendered
      fullSetBasisDigest = .ok render) :
    render.adoptable.payload.get? "route_artifacts" =
        some (.array ((CandidateBridge.routeArtifacts candidateSet rendered
          fullSetBasisDigest).map serializedRouteArtifact)) ∧
      render.adoptable.payload.get? "rendered_live_targets" = some (liveTargetsJson rendered) := by
  rw [CandidateBridge.renderWithFullSetBasis] at hrender
  cases hrevision : candidateSet.adoptableRevision with
  | none =>
      rw [hrevision] at hrender
      cases hrender
  | some adoptableRevision =>
      rw [hrevision] at hrender
      obtain rfl := Except.ok.inj hrender
      constructor <;> simp [CandidateBridge.adoptableRow, Json.get?, Json.findMember]

/-- The artifacts of a rendered row load what was rendered if each family of it is that of one
target. -/
theorem loadsRouteArtifacts_iff (hkeyed : Keyed rendered)
    (hrender : CandidateBridge.renderWithFullSetBasis sha256 candidateSet rendered
      fullSetBasisDigest = .ok render) :
    LoadsRouteArtifacts serde sha256 render.adoptable.payload revision operatorStrategyRevision
        rendered ↔
      ∀ familyId ∈ rendered, (candidateSet.targets.map (·.familyId)).count familyId = 1 := by
  have hne : CandidateBridge.routeArtifacts candidateSet rendered fullSetBasisDigest ≠ [] :=
    List.ne_nil_of_mem (mem_sortByKey.mpr List.mem_cons_self)
  obtain ⟨grouped, hparse, hfiled⟩ := exists_parseRouteArtifacts revision serde
    (get?_payload_of_render hrender).1 hne
    (validateLiveRouteScope_routeArtifacts candidateSet rendered fullSetBasisDigest)
  have hperm : ((grouped["neg-risk"]?).getD []).Perm (candidateSet.targets.map fun target ↦
      (negRiskRouteArtifact target rendered[target.familyId]?).runtime) := by
    rw [hfiled]
    have hartifacts := (perm_neg_risk_routeArtifacts candidateSet rendered
      fullSetBasisDigest).map RouteArtifact.runtime
    rwa [List.map_map] at hartifacts
  have hshows : Shows serde ((grouped["neg-risk"]?).getD []) rendered
      (candidateSet.targets.map (·.familyId)) := shows_of_perm hserde (fun target _ ↦ rfl) hperm
  have hload : (∃ targets, negRiskLiveTargetsFromRouteArtifacts serde sha256 grouped
      operatorStrategyRevision = .ok targets ∧ SameTargets targets.targets rendered) ↔ _ :=
    exists_targets_iff.trans (hshows.loads_iff hkeyed)
  rw [← hload]
  constructor
  · rintro ⟨grouped', targets, hparse', hload⟩
    rw [hparse] at hparse'
    obtain rfl := Except.ok.inj hparse'
    exact ⟨targets, hload⟩
  · rintro ⟨targets, hload⟩
    exact ⟨grouped, targets, hparse, hload⟩

/-- The map of a rendered row loads what was rendered if that is anything. -/
theorem loadsRenderedLiveTargets_iff
    (hrender : CandidateBridge.renderWithFullSetBasis sha256 candidateSet rendered
      fullSetBasisDigest = .ok render) :
    LoadsRenderedLiveTargets serde render.adoptable.payload revision rendered ↔ rendered ≠ ∅ := by
  obtain ⟨targets, hread, hsame⟩ := hserde.readLiveTargets rendered
  have hempty : targets.isEmpty = true ↔ rendered = ∅ := by
    rw [Std.ExtTreeMap.isEmpty_iff, BTreeMap.eq_empty_iff_lookup, BTreeMap.eq_empty_iff_lookup]
    refine forall_congr' fun familyId ↦ ?_
    have hexact := hsame familyId
    rw [exactAt, exactAt] at hexact
    rw [← Option.map_eq_none_iff, hexact, Option.map_eq_none_iff]
  rw [LoadsRenderedLiveTargets, parseRenderedLiveTargets, (get?_payload_of_render hrender).2]
  simp only [hread]
  split_ifs with hnone
  · refine iff_of_false ?_ (not_not.mpr (hempty.mp hnone))
    rintro ⟨_, ⟨⟩, -⟩
  · exact iff_of_true ⟨targets, rfl, hsame⟩ (mt hempty.mpr hnone)

end Rendered

/-- The compatible artifacts of targets carry these. -/
theorem exists_compatible_targets (targets : NegRiskLiveTargetSet) (hkeyed : Keyed targets.targets) :
    ∃ targets', negRiskLiveTargetsFromRouteArtifacts serde sha256
        (compatibilityRouteArtifactsFromTargets targets) operatorStrategyRevision = .ok targets' ∧
      SameTargets targets'.targets targets.targets := by
  have hartifacts : ((compatibilityRouteArtifactsFromTargets targets)["neg-risk"]?).getD [] =
      targets.targets.vals.map compatibilityArtifact := by
    rw [compatibilityRouteArtifactsFromTargets, Std.ExtTreeMap.getElem?_insert_self]
    rfl
  have hshows : Shows serde (targets.targets.vals.map compatibilityArtifact) targets.targets
      (targets.targets.vals.map (·.familyId)) := by
    refine shows_of_perm hserde (fun target htarget ↦ ?_) (List.Perm.refl _)
    rw [(BTreeMap.mem_vals_iff hkeyed).mp htarget]
    rfl
  rw [exists_targets_iff (P := (SameTargets · targets.targets)), hartifacts,
    hshows.loads_iff hkeyed, BTreeMap.map_key_vals hkeyed]
  intro familyId hmem
  exact List.count_eq_one_of_mem Std.ExtTreeMap.nodup_keys (Std.ExtTreeMap.mem_keys.mpr hmem)

end Loaded

/-- A rendered row loads what was rendered: from its map unless that is empty, from its
artifacts if each family is that of one target.  Compatible artifacts load their targets. -/
theorem startup_loads_iff {serde : Serde} (hserde : serde.Lawful) (sha256 : String → String) :
    (∀ candidateSet rendered fullSetBasisDigest render revision operatorStrategyRevision,
      Keyed rendered →
      CandidateBridge.renderWithFullSetBasis sha256 candidateSet rendered fullSetBasisDigest =
        .ok render →
      (LoadsRouteArtifacts serde sha256 render.adoptable.payload revision operatorStrategyRevision
          rendered ↔
        ∀ familyId ∈ rendered, (candidateSet.targets.map (·.familyId)).count familyId = 1) ∧
      (LoadsRenderedLiveTargets serde render.adoptable.payload revision rendered ↔
        rendered ≠ ∅)) ∧
    ∀ (targets : NegRiskLiveTargetSet) (operatorStrategyRevision : Option String),
      Keyed targets.targets →
      ∃ targets', negRiskLiveTargetsFromRouteArtifacts serde sha256
          (compatibilityRouteArtifactsFromTargets targets) operatorStrategyRevision = .ok targets' ∧
        SameTargets targets'.targets targets.targets :=
  ⟨fun _ _ _ _ _ _ hkeyed hrender ↦
      ⟨loadsRouteArtifacts_iff hserde hkeyed hrender, loadsRenderedLiveTargets_iff hserde hrender⟩,
    fun targets _ hkeyed ↦ exists_compatible_targets hserde targets hkeyed⟩

/-- Decimals are read as they were written. -/
def sampleSerde : Serde where
  readDecimal
    | .string text => ScaledDecimal.ofText? text
    | _ => none
  errorMessage _ := "invalid value"

theorem sampleSerde_lawful : sampleSerde.Lawful where
  readDecimal decimal := congrArg (Option.map ScaledDecimal.value) (ScaledDecimal.ofText?_text decimal)

/-- A set with a target for each family. -/
def sampleCandidates (familyIds : List String) : CandidateTargetSet :=
  { targetSetId := "publication-1"
    sourceSnapshotId := "publication-1"
    discoveryRecord :=
      { familyId := "family-a"
        source :=
          { sourceKind := "discovery"
            sourceSessionId := "session-1"
            sourceEventId := "publication-1"
            normalizerVersion := "v1" }
        discoveredAt := 1
        backfillCursor := none
        backfillCompletedAt := none }
    policy := { policyName := "candidate-generation", policyVersion := "policy-v1" }
    targets := familyIds.map fun familyId ↦
      { targetId := s!"candidate-target-{familyId}", familyId, validation := .adoptable }
    adoptableRevision := some
      { revisionId := "adoptable-publication-1"
        sourceSnapshotId := "publication-1"
        policyVersion := "policy-v1" } }

def sampleRendered (familyIds : List String) : LiveTargets :=
  .byKey NegRiskFamilyLiveTarget.familyId (familyIds.map fun familyId ↦
    { familyId
      members :=
        [{ conditionId := "condition-1", tokenId := "token-1", price := .zero, quantity := .zero }] })

theorem keyed_sampleRendered (familyIds : List String) : Keyed (sampleRendered familyIds) :=
  BTreeMap.key_of_lookup_byKey

theorem mem_sampleRendered {familyIds : List String} {familyId : String} :
    familyId ∈ sampleRendered familyIds ↔ familyId ∈ familyIds := by
  rw [sampleRendered, BTreeMap.mem_byKey_iff]
  simp

theorem sampleRendered_loads :
    ∃ render, CandidateBridge.renderWithFullSetBasis id (sampleCandidates ["family-a", "family-b"])
        (sampleRendered ["family-b"]) "full-set-basis-default" = .ok render ∧
      LoadsRouteArtifacts sampleSerde id render.adoptable.payload "strategy-rev-1" none
        (sampleRendered ["family-b"]) ∧
      LoadsRenderedLiveTargets sampleSerde render.adoptable.payload "strategy-rev-1"
        (sampleRendered ["family-b"]) := by
  obtain ⟨render, hrender⟩ : ∃ render, CandidateBridge.renderWithFullSetBasis id
      (sampleCandidates ["family-a", "family-b"]) (sampleRendered ["family-b"])
      "full-set-basis-default" = .ok render := ⟨_, rfl⟩
  have hloads := (startup_loads_iff sampleSerde_lawful id).1 _ _ _ render "strategy-rev-1" none
    (keyed_sampleRendered _) hrender
  refine ⟨render, hrender, hloads.1.mpr ?_, hloads.2.mpr ?_⟩
  · intro familyId hmem
    obtain rfl := List.mem_singleton.mp (mem_sampleRendered.mp hmem)
    decide
  · intro hempty
    have hmem : "family-b" ∈ sampleRendered ["family-b"] := mem_sampleRendered.mpr (by decide)
    rw [hempty] at hmem
    exact Std.ExtTreeMap.not_mem_empty hmem

/-- A target that is rendered for a family without a candidate target is not loaded. -/
theorem unlisted_rendered_target_not_loaded :
    ¬ ∃ (serde : Serde) (sha256 : String → String), serde.Lawful ∧
      ∀ candidateSet rendered fullSetBasisDigest render revision operatorStrategyRevision,
        Keyed rendered →
        CandidateBridge.renderWithFullSetBasis sha256 candidateSet rendered fullSetBasisDigest =
          .ok render →
        LoadsRouteArtifacts serde sha256 render.adoptable.payload revision operatorStrategyRevision
            rendered ∧
          LoadsRenderedLiveTargets serde render.adoptable.payload revision rendered := by
  rintro ⟨serde, sha256, hserde, hall⟩
  obtain ⟨render, hrender⟩ : ∃ render, CandidateBridge.renderWithFullSetBasis sha256
      (sampleCandidates ["family-a"]) (sampleRendered ["family-a", "family-b"])
      "full-set-basis-default" = .ok render := ⟨_, rfl⟩
  have hkeyed := keyed_sampleRendered ["family-a", "family-b"]
  have hloads := (hall _ _ _ render "strategy-rev-1" none hkeyed hrender).1
  have honce := (loadsRouteArtifacts_iff hserde hkeyed hrender).mp hloads "family-b"
    (mem_sampleRendered.mpr (by decide))
  revert honce
  decide

end AxiomArb.AppLive
