import AxiomArb.AppLive.StartupTargets

/-!
# What adoption accepts

A payload is validated when a revision of it is adopted, and decoded when startup runs that
revision.  Adoption reads the artifacts of the routes, but not the targets that they carry: a
payload it accepts starts only if these can be read and are of different families
(`adopted_payload_starts_iff`).
-/

namespace AxiomArb.AppLive

open Domain Library

/-! ## Adoption -/

def validateRenderedLiveTargets (serde : Serde) (payload : Json)
    (operatorStrategyRevision : String) : Except String Unit :=
  match payload.get? "rendered_live_targets" with
  | none => .error s!"missing rendered_live_targets for operator_strategy_revision {
      operatorStrategyRevision}"
  | some renderedLiveTargets =>
      match serde.readLiveTargets renderedLiveTargets with
      | none => .error s!"invalid rendered_live_targets for operator_strategy_revision {
          operatorStrategyRevision}: {serde.errorMessage renderedLiveTargets}"
      | some targets =>
          if targets.isEmpty then
            .error s!"empty rendered_live_targets for operator_strategy_revision {
              operatorStrategyRevision}"
          else .ok ⟨⟩

/-- One of the names of the artifact is blank. -/
def RouteArtifact.isBlank (artifact : RouteArtifact) : Bool :=
  (trim artifact.key.route).isEmpty || (trim artifact.key.scope).isEmpty ||
    (trim artifact.routePolicyVersion).isEmpty || (trim artifact.semanticDigest).isEmpty

def validateStrategyPayload (serde : Serde) (payload : Json) (operatorStrategyRevision : String) :
    Except String Unit :=
  match payload.get? "route_artifacts" with
  | none => validateRenderedLiveTargets serde payload operatorStrategyRevision
  | some routeArtifacts =>
      match readVec readRouteArtifact routeArtifacts with
      | none => .error s!"invalid route_artifacts for operator_strategy_revision {
          operatorStrategyRevision}: {serde.errorMessage routeArtifacts}"
      | some artifacts =>
          if artifacts.isEmpty then
            .error s!"empty route_artifacts for operator_strategy_revision {
              operatorStrategyRevision}"
          else if artifacts.any RouteArtifact.isBlank then
            .error s!"invalid route_artifacts for operator_strategy_revision {
              operatorStrategyRevision}"
          else
            artifacts.forM fun artifact ↦
              (validateLiveRouteScope artifact.key.route artifact.key.scope).mapError fun error ↦
                s!"invalid route_artifacts for operator_strategy_revision {
                  operatorStrategyRevision}: {error}"

/-! ## Startup -/

/-- The artifacts of the payload: those of its routes, or those made of its targets. -/
def resolveRouteArtifacts (serde : Serde) (payload : Json) (operatorStrategyRevision : String) :
    Except StartupError RoutedArtifacts :=
  match parseRouteArtifacts serde payload operatorStrategyRevision with
  | .error (.missingRouteArtifacts _) => do
      let targets ← parseRenderedLiveTargets serde payload operatorStrategyRevision
      return compatibilityRouteArtifactsFromTargets { revision := operatorStrategyRevision, targets }
  | resolved => resolved

/-- Startup succeeds on the payload. -/
def Starts (serde : Serde) (sha256 : String → String) (payload : Json) (revision : String) : Prop :=
  ∃ routeArtifacts targets, resolveRouteArtifacts serde payload revision = .ok routeArtifacts ∧
    negRiskLiveTargetsFromRouteArtifacts serde sha256 routeArtifacts (some revision) = .ok targets

/-- The targets in the payload can be read, and are of different families. -/
def TargetsApart (serde : Serde) (payload : Json) : Prop :=
  match payload.get? "route_artifacts" with
  | some routeArtifacts => ∀ artifacts ∈ readVec readRouteArtifact routeArtifacts,
      let negRisk := (artifacts.filter (·.key.route = "neg-risk")).map RouteArtifact.runtime
      (∀ artifact ∈ negRisk, artifact.Readable serde) ∧ negRisk.Pairwise (Apart serde)
  | none => ∀ renderedLiveTargets ∈ payload.get? "rendered_live_targets",
      ∀ targets ∈ serde.readLiveTargets renderedLiveTargets,
        (targets.vals.map (·.familyId)).Nodup

section Accepted

variable {serde : Serde} {sha256 : String → String} {payload : Json} {revision : String}

/-- Artifacts that are accepted can be read, and have proper scopes. -/
theorem exists_artifacts_of_validate {routeArtifacts : Json}
    (hpayload : payload.get? "route_artifacts" = some routeArtifacts)
    (hvalid : validateStrategyPayload serde payload revision = .ok ⟨⟩) :
    ∃ artifacts, readVec readRouteArtifact routeArtifacts = some artifacts ∧ artifacts ≠ [] ∧
      ∀ artifact ∈ artifacts,
        validateLiveRouteScope artifact.key.route artifact.key.scope = .ok ⟨⟩ := by
  rw [validateStrategyPayload, hpayload] at hvalid
  simp only at hvalid
  cases hread : readVec readRouteArtifact routeArtifacts with
  | none =>
      rw [hread] at hvalid
      cases hvalid
  | some artifacts =>
      rw [hread] at hvalid
      simp only at hvalid
      split_ifs at hvalid with hempty hblank
      refine ⟨artifacts, rfl, fun hnil ↦ hempty (by rw [hnil]; rfl), fun artifact hartifact ↦ ?_⟩
      exact mapError_eq_ok_iff.mp (forM_eq_ok_iff.mp hvalid artifact hartifact)

/-- Targets that are accepted can be read, and there are some. -/
theorem exists_targets_of_validate (hpayload : payload.get? "route_artifacts" = none)
    (hvalid : validateStrategyPayload serde payload revision = .ok ⟨⟩) :
    ∃ renderedLiveTargets targets,
      payload.get? "rendered_live_targets" = some renderedLiveTargets ∧
      serde.readLiveTargets renderedLiveTargets = some targets ∧
      parseRenderedLiveTargets serde payload revision = .ok targets := by
  rw [validateStrategyPayload, hpayload] at hvalid
  simp only [validateRenderedLiveTargets] at hvalid
  rw [parseRenderedLiveTargets]
  cases hrendered : payload.get? "rendered_live_targets" with
  | none =>
      rw [hrendered] at hvalid
      cases hvalid
  | some renderedLiveTargets =>
      rw [hrendered] at hvalid
      simp only at hvalid ⊢
      cases hread : serde.readLiveTargets renderedLiveTargets with
      | none =>
          rw [hread] at hvalid
          cases hvalid
      | some targets =>
          rw [hread] at hvalid
          simp only at hvalid ⊢
          split_ifs at hvalid with hempty
          exact ⟨renderedLiveTargets, targets, rfl, hread, if_neg hempty⟩

theorem resolveRouteArtifacts_of_missing (hpayload : payload.get? "route_artifacts" = none)
    {targets : LiveTargets} (hparse : parseRenderedLiveTargets serde payload revision = .ok targets) :
    resolveRouteArtifacts serde payload revision =
      .ok (compatibilityRouteArtifactsFromTargets { revision, targets }) := by
  have hmissing : parseRouteArtifacts serde payload revision =
      .error (.missingRouteArtifacts revision) := by
    rw [parseRouteArtifacts, hpayload]
  rw [resolveRouteArtifacts, hmissing]
  simp only [hparse]
  rfl

/-- Once the artifacts are known, startup needs the targets of the neg-risk route. -/
theorem starts_iff_of_resolve {routeArtifacts : RoutedArtifacts}
    (hresolve : resolveRouteArtifacts serde payload revision = .ok routeArtifacts) :
    Starts serde sha256 payload revision ↔
      (∀ artifact ∈ (routeArtifacts["neg-risk"]?).getD [], artifact.Readable serde) ∧
        ((routeArtifacts["neg-risk"]?).getD []).Pairwise (Apart serde) := by
  rw [← exists_foldlM_insertRendered_iff]
  have htargets := @exists_targets_iff serde sha256 routeArtifacts (some revision) fun _ ↦ True
  simp only [and_true] at htargets
  rw [← htargets, Starts]
  constructor
  · rintro ⟨routeArtifacts', targets, hresolve', hload⟩
    obtain rfl := Except.ok.inj (hresolve.symm.trans hresolve')
    exact ⟨targets, hload⟩
  · rintro ⟨targets, hload⟩
    exact ⟨routeArtifacts, targets, hresolve, hload⟩

theorem starts_iff_of_routeArtifacts {routeArtifacts : Json}
    (hpayload : payload.get? "route_artifacts" = some routeArtifacts)
    (hvalid : validateStrategyPayload serde payload revision = .ok ⟨⟩) :
    Starts serde sha256 payload revision ↔ TargetsApart serde payload := by
  obtain ⟨artifacts, hread, hne, hscopes⟩ := exists_artifacts_of_validate hpayload hvalid
  obtain ⟨grouped, hparse, hfiled⟩ :=
    exists_parseRouteArtifacts_of_read revision serde hpayload hread hne hscopes
  have hresolve : resolveRouteArtifacts serde payload revision = .ok grouped := by
    rw [resolveRouteArtifacts, hparse]
  rw [starts_iff_of_resolve hresolve, hfiled, TargetsApart, hpayload]
  simp [hread]

variable (hserde : serde.Lawful)

include hserde

theorem readable_and_carried_compatibility (target : NegRiskFamilyLiveTarget) :
    (compatibilityArtifact target).Readable serde ∧
      ∃ carried, (compatibilityArtifact target).carried serde = some carried ∧
        carried.familyId = target.familyId := by
  have hcontent : (compatibilityArtifact target).content.get? "rendered_live_target" =
      some (optionalLiveTargetJson (some target)) := rfl
  obtain ⟨hreadable, hexact⟩ := readable_and_carried hserde hcontent
  obtain ⟨carried, hcarried, hsame⟩ := Option.map_eq_some_iff.mp hexact
  exact ⟨hreadable, carried, hcarried, congrArg Prod.fst hsame⟩

theorem apart_compatibility_iff (target target' : NegRiskFamilyLiveTarget) :
    Apart serde (compatibilityArtifact target) (compatibilityArtifact target') ↔
      target.familyId ≠ target'.familyId := by
  obtain ⟨-, carried, hcarried, hfamily⟩ := readable_and_carried_compatibility hserde target
  obtain ⟨-, carried', hcarried', hfamily'⟩ := readable_and_carried_compatibility hserde target'
  simp [Apart, hcarried, hcarried', hfamily, hfamily']

theorem starts_iff_of_renderedLiveTargets (hpayload : payload.get? "route_artifacts" = none)
    (hvalid : validateStrategyPayload serde payload revision = .ok ⟨⟩) :
    Starts serde sha256 payload revision ↔ TargetsApart serde payload := by
  obtain ⟨renderedLiveTargets, targets, hrendered, hread, hparse⟩ :=
    exists_targets_of_validate hpayload hvalid
  have hartifacts : ((compatibilityRouteArtifactsFromTargets
        { revision, targets })["neg-risk"]?).getD [] = targets.vals.map compatibilityArtifact := by
    rw [compatibilityRouteArtifactsFromTargets, Std.ExtTreeMap.getElem?_insert_self]
    rfl
  have hreadable : ∀ artifact ∈ targets.vals.map compatibilityArtifact, artifact.Readable serde := by
    intro artifact hartifact
    obtain ⟨target, -, rfl⟩ := List.mem_map.mp hartifact
    exact (readable_and_carried_compatibility hserde target).1
  rw [starts_iff_of_resolve (resolveRouteArtifacts_of_missing hpayload hparse), hartifacts,
    and_iff_right hreadable, List.pairwise_map, TargetsApart, hpayload, hrendered]
  simp [hread, List.Nodup, List.pairwise_map, apart_compatibility_iff hserde]

end Accepted

/-- Startup succeeds on a payload that adoption accepts if the targets in it can be read and are
of different families. -/
theorem adopted_payload_starts_iff {serde : Serde} (hserde : serde.Lawful)
    (sha256 : String → String) (payload : Json) (revision : String)
    (hvalid : validateStrategyPayload serde payload revision = .ok ⟨⟩) :
    Starts serde sha256 payload revision ↔ TargetsApart serde payload := by
  cases hpayload : payload.get? "route_artifacts" with
  | none => exact starts_iff_of_renderedLiveTargets hserde hpayload hvalid
  | some routeArtifacts => exact starts_iff_of_routeArtifacts hpayload hvalid

/-- An artifact for each scope, with a target of its family. -/
def sampleStrategyPayload (families : List (String × String)) : Json :=
  .object [("route_artifacts", .array (families.map fun (scope, familyId) ↦ serializedRouteArtifact
    { key := { route := "neg-risk", scope }
      routePolicyVersion := "neg-risk-route-policy-v1"
      semanticDigest := scope
      content := .object
        [("rendered_live_target", NegRiskFamilyLiveTarget.toJson { familyId, members := [] })] }))]

theorem adopted_payload_starts_iff_two_families :
    Starts sampleSerde id
      (sampleStrategyPayload [("family-a", "family-a"), ("family-b", "family-b")]) "strategy-rev-1" := by
  refine (adopted_payload_starts_iff sampleSerde_lawful id _ "strategy-rev-1" rfl).mpr ?_
  rintro artifacts ⟨⟩
  refine ⟨fun artifact hartifact ↦ ?_, List.pairwise_pair.mpr ?_⟩
  · rcases List.mem_cons.mp hartifact with rfl | hlast
    · rintro _ ⟨⟩ -
      rfl
    · obtain rfl := List.mem_singleton.mp hlast
      rintro _ ⟨⟩ -
      rfl
  · rintro _ ⟨⟩ _ ⟨⟩
    decide

/-- Adoption accepts two artifacts that carry targets of one family; startup refuses them. -/
theorem adopted_payload_need_not_start :
    ¬ ∃ (serde : Serde) (sha256 : String → String), serde.Lawful ∧ ∀ payload revision,
      validateStrategyPayload serde payload revision = .ok ⟨⟩ →
        Starts serde sha256 payload revision := by
  rintro ⟨serde, sha256, -, hall⟩
  have hstarts := hall (sampleStrategyPayload [("target-1", "family-a"), ("target-2", "family-a")])
    "strategy-rev-1" rfl
  have hapart := ((starts_iff_of_routeArtifacts rfl rfl).mp hstarts _ rfl).2
  exact (List.pairwise_cons.mp hapart).1 _ List.mem_cons_self _ rfl _ rfl rfl

end AxiomArb.AppLive
