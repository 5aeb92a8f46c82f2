import AxiomArb.AppLive.CandidateBridge
import AxiomArb.Library.Fallible

/-!
# Route artifacts at startup

What startup reads from the payload of an adopted revision: the route artifacts, or the
rendered targets of an older payload, from which compatible artifacts are made; and the
targets that the artifacts of the neg-risk route carry.

## Honest boundary

* Reading a decimal from JSON and the words of a JSON error are those of a library.
-/

namespace AxiomArb.AppLive

open Domain Library

/-! ## Reading JSON -/

/-- The library that reads JSON. -/
structure Serde where
  readDecimal (value : Json) : Option ScaledDecimal
  errorMessage (value : Json) : String

/-- The fields of a record: an object's by name, an array's in order. -/
def structFields (names : List String) : Json → Option (List Json)
  | .object members => names.mapM fun name ↦ Json.findMember name members
  | .array items => if items.length = names.length then some items else none
  | _ => none

def readVec {α : Type} (read : Json → Option α) : Json → Option (List α)
  | .array items => items.mapM read
  | _ => none

namespace Serde

variable (serde : Serde)

def readMemberLiveTarget (value : Json) : Option NegRiskMemberLiveTarget := do
  match ← structFields ["condition_id", "token_id", "price", "quantity"] value with
  | [conditionId, tokenId, price, quantity] =>
      return {
        conditionId := ← conditionId.asStr
        tokenId := ← tokenId.asStr
        price := ← serde.readDecimal price
        quantity := ← serde.readDecimal quantity }
  | _ => none

def readLiveTarget (value : Json) : Option NegRiskFamilyLiveTarget := do
  match ← structFields ["family_id", "members"] value with
  | [familyId, members] =>
      return {
        familyId := ← familyId.asStr
        members := ← readVec serde.readMemberLiveTarget members }
  | _ => none

def readLiveTargets : Json → Option (BTreeMap String NegRiskFamilyLiveTarget)
  | .object members => do
      let targets ← members.mapM fun (familyId, value) ↦ do
        return (familyId, ← serde.readLiveTarget value)
      return .ofList targets
  | _ => none

end Serde

/-! ## Routes and scopes -/

structure RouteScopeError where
  route : String
  scope : String
  reason : String
deriving DecidableEq, Repr

namespace FullSetRouteAdapter

def ROUTE : String := "full-set"

def validateScope (scope : String) : Except RouteScopeError Unit :=
  if scope = "default" then .ok ⟨⟩
  else .error { route := ROUTE, scope, reason := "full-set only supports the default scope" }

end FullSetRouteAdapter

namespace NegRiskRouteAdapter

def ROUTE : String := "neg-risk"

def validateScope (scope : String) : Except RouteScopeError Unit :=
  if (trim scope).isEmpty then
    .error
      { route := ROUTE, scope
        reason := "neg-risk scope must be a family id or the default fallback" }
  else .ok ⟨⟩

end NegRiskRouteAdapter

/-- The adapters of the live routes. -/
def liveRouteRegistry : List (String × (String → Except RouteScopeError Unit)) :=
  [(FullSetRouteAdapter.ROUTE, FullSetRouteAdapter.validateScope),
    (NegRiskRouteAdapter.ROUTE, NegRiskRouteAdapter.validateScope)]

def validateLiveRouteScope (route scope : String) : Except String Unit :=
  match liveRouteRegistry.lookup route with
  | none => .error s!"unregistered route_artifacts route {route}"
  | some validateScope =>
      (validateScope scope).mapError fun error ↦
        s!"route {route} scope {scope} is invalid: {error.reason}"

/-! ## Decoding at startup -/

structure RouteRuntimeArtifact where
  scope : String
  routePolicyVersion : String
  semanticDigest : String
  content : Json
deriving DecidableEq, Repr

inductive StartupError where
  | missingRouteArtifacts (operatorStrategyRevision : String)
  | emptyRouteArtifacts (operatorStrategyRevision : String)
  | invalidRouteArtifacts (operatorStrategyRevision message : String)
  | missingRenderedLiveTargets (operatorTargetRevision : String)
  | emptyRenderedLiveTargets (operatorTargetRevision : String)
  | invalidRenderedLiveTargets (operatorTargetRevision message : String)
deriving DecidableEq, Repr

inductive ConfigError where
  | invalidJson (value message : String)
  | duplicateFamilyId (familyId : String)
deriving DecidableEq, Repr

structure NegRiskLiveTargetSet where
  revision : String
  targets : BTreeMap String NegRiskFamilyLiveTarget

/-- The runtime artifacts of each route. -/
abbrev RoutedArtifacts := BTreeMap String (List RouteRuntimeArtifact)

def readStrategyKey (value : Json) : Option StrategyKey := do
  match ← structFields ["route", "scope"] value with
  | [route, scope] => return { route := ← route.asStr, scope := ← scope.asStr }
  | _ => none

def readRouteArtifact (value : Json) : Option RouteArtifact := do
  match ← structFields ["key", "route_policy_version", "semantic_digest", "content"] value with
  | [key, routePolicyVersion, semanticDigest, content] =>
      return {
        key := ← readStrategyKey key
        routePolicyVersion := ← routePolicyVersion.asStr
        semanticDigest := ← semanticDigest.asStr
        content }
  | _ => none

def RouteArtifact.runtime (artifact : RouteArtifact) : RouteRuntimeArtifact :=
  { scope := artifact.key.scope
    routePolicyVersion := artifact.routePolicyVersion
    semanticDigest := artifact.semanticDigest
    content := artifact.content }

/-- File an artifact under its route, behind those that are there. -/
def groupArtifact (operatorStrategyRevision : String) (grouped : RoutedArtifacts)
    (artifact : RouteArtifact) : Except StartupError RoutedArtifacts :=
  match validateLiveRouteScope artifact.key.route artifact.key.scope with
  | .error message => .error (.invalidRouteArtifacts operatorStrategyRevision message)
  | .ok _ =>
      .ok (grouped.insert artifact.key.route
        ((grouped[artifact.key.route]?).getD [] ++ [artifact.runtime]))

def parseRouteArtifacts (serde : Serde) (payload : Json) (operatorStrategyRevision : String) :
    Except StartupError RoutedArtifacts :=
  match payload.get? "route_artifacts" with
  | none => .error (.missingRouteArtifacts operatorStrategyRevision)
  | some artifacts =>
      match readVec readRouteArtifact artifacts with
      | none =>
          .error (.invalidRouteArtifacts operatorStrategyRevision (serde.errorMessage artifacts))
      | some [] => .error (.emptyRouteArtifacts operatorStrategyRevision)
      | some artifacts => artifacts.foldlM (groupArtifact operatorStrategyRevision) ∅

def parseRenderedLiveTargets (serde : Serde) (payload : Json) (operatorRevision : String) :
    Except StartupError (BTreeMap String NegRiskFamilyLiveTarget) :=
  match payload.get? "rendered_live_targets" with
  | none => .error (.missingRenderedLiveTargets operatorRevision)
  | some renderedLiveTargets =>
      match serde.readLiveTargets renderedLiveTargets with
      | none =>
          .error (.invalidRenderedLiveTargets operatorRevision
            (serde.errorMessage renderedLiveTargets))
      | some targets =>
          if targets.isEmpty then .error (.emptyRenderedLiveTargets operatorRevision)
          else .ok targets

/-- The artifact that is made of a target. -/
def compatibilityArtifact (target : NegRiskFamilyLiveTarget) : RouteRuntimeArtifact :=
  { scope := target.familyId
    routePolicyVersion := "neg-risk-route-policy-v1"
    semanticDigest := target.familyId
    content := .object
      [("family_id", .string target.familyId),
        ("rendered_live_target", target.toJson),
        ("target_id", .string s!"candidate-target-{target.familyId}"),
        ("validation", .object [("status", .string "adoptable")])] }

def compatibilityRouteArtifactsFromTargets (targets : NegRiskLiveTargetSet) : RoutedArtifacts :=
  let routeArtifacts : RoutedArtifacts := (∅ : RoutedArtifacts).insert "full-set"
    [{ scope := "default"
       routePolicyVersion := "full-set-route-policy-v1"
       semanticDigest := "full-set-basis-default"
       content := .object
        [("config_basis_digest", .string "full-set-basis-default"),
          ("mode", .string "static-default")] }]
  routeArtifacts.insert "neg-risk" (targets.targets.vals.map compatibilityArtifact)

/-! ## The targets of the neg-risk route -/

def normalizeDecimal (value : ScaledDecimal) : String := value.normalize.text

/-- What a member is sorted by, and hashed as. -/
def NegRiskMemberLiveTarget.canonical (member : NegRiskMemberLiveTarget) : List String :=
  [member.conditionId, member.tokenId, normalizeDecimal member.price,
    normalizeDecimal member.quantity]

def canonicalMembers (members : List NegRiskMemberLiveTarget) : Json :=
  .array ((sortByKey NegRiskMemberLiveTarget.canonical members).map fun member ↦ .object
    [("condition_id", .string member.conditionId),
      ("token_id", .string member.tokenId),
      ("price", .string (normalizeDecimal member.price)),
      ("quantity", .string (normalizeDecimal member.quantity))])

def negRiskLiveTargetRevisionFromTargets (sha256 : String → String)
    (targets : BTreeMap String NegRiskFamilyLiveTarget) : String :=
  let canonical := Json.object
    [("families", .array (targets.toList.map fun (familyId, family) ↦
      .object [("family_id", .string familyId), ("members", canonicalMembers family.members)]))]
  s!"sha256:{sha256 canonical.text}"

def NegRiskLiveTargetSet.new (sha256 : String → String)
    (targets : BTreeMap String NegRiskFamilyLiveTarget) : NegRiskLiveTargetSet :=
  { revision := negRiskLiveTargetRevisionFromTargets sha256 targets, targets }

/-- Take in the target that an artifact carries, if it carries one. -/
def insertRendered (serde : Serde) (targets : BTreeMap String NegRiskFamilyLiveTarget)
    (artifact : RouteRuntimeArtifact) :
    Except ConfigError (BTreeMap String NegRiskFamilyLiveTarget) :=
  match artifact.content.get? "rendered_live_target" with
  | none => .ok targets
  | some .null => .ok targets
  | some renderedLiveTarget =>
      match serde.readLiveTarget renderedLiveTarget with
      | none => .error (.invalidJson artifact.scope (serde.errorMessage renderedLiveTarget))
      | some target =>
          if target.familyId ∈ targets then .error (.duplicateFamilyId target.familyId)
          else .ok (targets.insert target.familyId target)

def negRiskLiveTargetsFromRouteArtifacts (serde : Serde) (sha256 : String → String)
    (routeArtifacts : RoutedArtifacts) (operatorStrategyRevision : Option String) :
    Except ConfigError NegRiskLiveTargetSet := do
  let targets ← ((routeArtifacts["neg-risk"]?).getD []).foldlM (insertRendered serde) ∅
  match operatorStrategyRevision with
  | some revision => return { revision, targets }
  | none => return .new sha256 targets

end AxiomArb.AppLive
