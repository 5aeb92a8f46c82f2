import AxiomArb.AppLive.DurableRecords
import AxiomArb.ConfigSchema.Raw

/-!
# The configuration as it is used

What is checked of every configuration, and the two parts of the app-live view that a change of
revision could touch: the configured revision and the rollout.  The rollout of the route comes
before the one that older configurations have in `negrisk`.
-/

namespace AxiomArb.ConfigSchema

open Library AppLive

/-! ## Checks -/

def requireNonEmpty (field value : String) : Except String Unit :=
  if (trim value).isEmpty then .error s!"{field} must not be empty" else .ok ⟨⟩

def validateTargetMember (member : NegRiskTargetMemberToml) : Except String Unit := do
  requireNonEmpty "negrisk.targets.members.condition_id" member.conditionId
  requireNonEmpty "negrisk.targets.members.token_id" member.tokenId
  requireNonEmpty "negrisk.targets.members.price" member.price
  requireNonEmpty "negrisk.targets.members.quantity" member.quantity

/-- Check a member against those that came before it. -/
def validateNextMember (familyId : String) (members : List (String × String))
    (member : NegRiskTargetMemberToml) : Except String (List (String × String)) := do
  validateTargetMember member
  if members.contains (member.conditionId, member.tokenId) then
    throw s!"duplicate negrisk.targets.members token_id for family {familyId} condition {
      member.conditionId} token {member.tokenId}"
  else return (member.conditionId, member.tokenId) :: members

/-- Check a target against the families that came before it. -/
def validateNextTarget (familyIds : List String) (target : NegRiskTargetToml) :
    Except String (List String) := do
  requireNonEmpty "negrisk.targets.family_id" target.familyId
  if target.familyId ∈ familyIds then
    throw s!"duplicate negrisk.targets.family_id: {target.familyId}"
  else
    let _ ← target.members.foldlM (validateNextMember target.familyId) []
    return target.familyId :: familyIds

def validateNegrisk : Option NegRiskToml → Except String Unit
  | none => .ok ⟨⟩
  | some negrisk => do
      let _ ← (negrisk.targets.getD []).foldlM validateNextTarget []
      return ⟨⟩

def validateStrategyControl : Option StrategyControlToml → Except String Unit
  | some { operatorStrategyRevision := some operatorStrategyRevision, .. } =>
      requireNonEmpty "strategy_control.operator_strategy_revision" operatorStrategyRevision
  | _ => .ok ⟨⟩

namespace RawAxiomConfig

variable {reader : ConfigReader} (raw : RawAxiomConfig reader)

def validateGlobalInvariants : Except String Unit := do
  if raw.runtime.mode = .paper ∧ raw.runtime.realUserShadowSmoke then
    throw "runtime.real_user_shadow_smoke is not supported when runtime.mode = \x22paper\x22"
  else
    validateStrategyControl raw.strategyControl
    validateNegrisk raw.negrisk
    match raw.polymarket with
    | none => return ⟨⟩
    | some polymarket => reader.validateWalletKindRelayerInvariants polymarket

/-! ## The app-live view -/

/-- The rollout that the route owns. -/
def routeRollout : Option RolloutToml :=
  (raw.strategies.bind StrategiesToml.negRisk).bind StrategyRouteToml.rollout

def negriskRollout : Option RolloutToml :=
  match raw.routeRollout with
  | some rollout => some rollout
  | none => raw.negrisk.bind NegRiskToml.rollout

def targetSource : Option NegRiskTargetSourceToml := raw.negrisk.bind NegRiskToml.targetSource

def hasCanonicalStrategyControl : Bool := raw.strategyControl.any (·.source = .adopted)

def hasAdoptedStrategySource : Bool :=
  match raw.targetSource with
  | some targetSource => targetSource.source = .adopted
  | none => raw.hasCanonicalStrategyControl

def isLegacyExplicitStrategyConfig : Bool := (raw.negrisk.bind NegRiskToml.targets).isSome

/-- The revision of the control, or that of the target source. -/
def persistedRevision : Option String :=
  match raw.strategyControl.bind StrategyControlToml.operatorStrategyRevision with
  | some revision => some revision
  | none => (raw.negrisk.bind NegRiskToml.targetSource).bind
      NegRiskTargetSourceToml.operatorTargetRevision

def operatorStrategyRevision : Option String :=
  if raw.isLegacyExplicitStrategyConfig then none else raw.persistedRevision

end RawAxiomConfig

/-- Load a document and check it. -/
def loadValidatedConfig (reader : ConfigReader) (document : Document) :
    Except String (RawAxiomConfig reader) := do
  let raw ← loadRawConfig reader document
  raw.validateGlobalInvariants
  return raw

end AxiomArb.ConfigSchema
