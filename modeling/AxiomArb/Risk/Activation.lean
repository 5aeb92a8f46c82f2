import AxiomArb.Library.OrderedMap
import AxiomArb.Domain.Runtime

/-!
# Activation of routes

Rollout rules say in which execution mode a scope of a route runs.  A policy looks
the scope up, falls back on the route's rule for the scope `default`, and clamps
the mode it finds.  `evaluateDecision` then approves or rejects an intent.
-/

namespace AxiomArb.Domain

structure IntentCandidate where
  intentId : String
  sourceSnapshotId : String
  route : String
  scope : String
deriving DecidableEq, Repr

structure RecoveryIntent where
  recoveryId : String
  sourceSnapshotId : String
  scope : String
deriving DecidableEq, Repr

inductive DecisionInput where
  | strategy (intent : IntentCandidate)
  | recovery (intent : RecoveryIntent)
deriving DecidableEq, Repr

inductive DecisionVerdict where
  | approved
  | rejected
  | deferred
  | reconcileRequired
deriving DecidableEq, Repr

structure ActivationDecision where
  mode : ExecutionMode
  scope : String
  reason : String
  policyVersion : String
  matchedRuleId : Option String
deriving DecidableEq, Repr

end AxiomArb.Domain

namespace AxiomArb.Risk

open Domain Library

/-! ## Rollout rules -/

structure RolloutRule where
  route : String
  scope : String
  mode : ExecutionMode
  ruleId : String
deriving DecidableEq, Repr

/-- What a rule or an overlay is filed under. -/
structure RouteScope where
  route : String
  scope : String
deriving DecidableEq, Repr

namespace RouteScope

def fields (key : RouteScope) : List String := [key.route, key.scope]

theorem fields_injective : Function.Injective fields := by
  rintro ⟨route, scope⟩ ⟨route', scope'⟩ h
  simpa [fields] using h

instance : Ord RouteScope := Ord.byFields fields
instance : Std.TransOrd RouteScope := transOrd_byFields fields
instance : Std.LawfulEqOrd RouteScope := lawfulEqOrd_byFields fields_injective

end RouteScope

def RolloutRule.routeScope (rule : RolloutRule) : RouteScope :=
  { route := rule.route, scope := rule.scope }

abbrev RolloutRuleMap := BTreeMap RouteScope RolloutRule

/-- The last rule of a scope stays. -/
def indexRules (rules : List RolloutRule) : RolloutRuleMap := .byKey RolloutRule.routeScope rules

def resolveRule (rules : RolloutRuleMap) (route scope : String) : Option RolloutRule :=
  rules[({ route, scope } : RouteScope)]? <|> rules[({ route, scope := "default" } : RouteScope)]?

def isRiskExpandingRoute (route : String) : Bool := route == "full-set" || route == "neg-risk"

/-! ## Policies -/

/-- The neg-risk route. -/
def ROUTE : String := "neg-risk"

structure ActivationPolicy where
  capabilityMatrix : RolloutRuleMap
  overlays : BTreeMap RouteScope ExecutionMode
  policyVersion : String
  clampNegriskLive : Bool
  clampNegriskToShadow : Bool

def phaseOneEffectiveMode : ExecutionMode → ExecutionMode
  | .live => .disabled
  | other => other

def clampPhaseOneMode (route : String) (mode : ExecutionMode) : ExecutionMode :=
  if route = ROUTE then phaseOneEffectiveMode mode else mode

def clampRealUserShadowSmokeMode (route : String) (mode : ExecutionMode) : ExecutionMode :=
  if isRiskExpandingRoute route ∧ mode = .live then .shadow else mode

namespace ActivationPolicy

def fromRules (policyVersion : String) (rules : List RolloutRule) : ActivationPolicy :=
  { capabilityMatrix := indexRules rules
    overlays := ∅
    policyVersion
    clampNegriskLive := false
    clampNegriskToShadow := false }

def phaseOneDefaults : ActivationPolicy :=
  { fromRules "phase-one-defaults"
      [{ route := "full-set", scope := "default", mode := .live
         ruleId := "phase-one-fullset-default" },
       { route := "neg-risk", scope := "default", mode := .shadow
         ruleId := "phase-one-negrisk-default" }] with
    clampNegriskLive := true }

variable (policy : ActivationPolicy)

def withRealUserShadowSmoke : ActivationPolicy := { policy with clampNegriskToShadow := true }

def withOverlay (route scope : String) (mode : ExecutionMode) : ActivationPolicy :=
  { policy with overlays := policy.overlays.insert { route, scope } mode }

def clampMode (route : String) (mode : ExecutionMode) : ExecutionMode :=
  if policy.clampNegriskToShadow then
    clampRealUserShadowSmokeMode route mode
  else if policy.clampNegriskLive then
    clampPhaseOneMode route mode
  else
    mode

def activationFor (route scope snapshotId : String) : ActivationDecision :=
  let (mode, reason, matchedRuleId) : ExecutionMode × String × Option String :=
    match policy.overlays[({ route, scope } : RouteScope)]? with
    | some mode => (mode, s!"activation-overlay snapshot={snapshotId}", none)
    | none =>
        match resolveRule policy.capabilityMatrix route scope with
        | some rule => (rule.mode, s!"activation-rollout snapshot={snapshotId}", some rule.ruleId)
        | none => (.disabled, s!"activation-missing snapshot={snapshotId}", none)
  { mode := policy.clampMode route mode
    scope
    reason
    policyVersion := policy.policyVersion
    matchedRuleId }

end ActivationPolicy

/-! ## Decisions -/

def evaluateDecision (input : DecisionInput) (activation : ActivationDecision) : DecisionVerdict :=
  if activation.mode = .disabled then
    .rejected
  else
    match input with
    | .strategy _ =>
        if activation.mode = .reduceOnly ∨ activation.mode = .recoveryOnly then .rejected
        else .approved
    | .recovery _ => .approved

/-- The verdict on an intent depends on the activated mode alone. -/
theorem evaluateDecision_strategy {intent : IntentCandidate} {activation : ActivationDecision} :
    evaluateDecision (.strategy intent) activation = .approved ↔
      activation.mode = .live ∨ activation.mode = .shadow := by
  unfold evaluateDecision
  cases activation.mode <;> simp

variable {policy : ActivationPolicy}

/-- A policy that was given no overlay follows its rules. -/
theorem mode_activationFor_of_no_overlay {route scope snapshotId : String}
    (h : policy.overlays = ∅) :
    (policy.activationFor route scope snapshotId).mode =
      policy.clampMode route
        ((resolveRule policy.capabilityMatrix route scope).elim .disabled RolloutRule.mode) := by
  simp only [ActivationPolicy.activationFor, h]
  cases resolveRule policy.capabilityMatrix route scope <;> rfl

end AxiomArb.Risk
