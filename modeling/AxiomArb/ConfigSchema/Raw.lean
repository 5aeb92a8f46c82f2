import AxiomArb.Library.Entries

/-!
# The configuration as it is written

A document is a tree of tables, arrays and scalars.  What a document says is read field by
field: a record is a table with its fields by name, or an array with its fields in order.

## Honest boundary

* Text is not modelled: a document is what a text is parsed to, and a document that is printed
  is parsed again as it was.
* How the section `polymarket` is read and what is said of a document that cannot be read are
  parameters.
-/

namespace AxiomArb.ConfigSchema

open Library

/-! ## Documents -/

inductive Toml where
  | string (text : String)
  | datetime (text : String)
  | boolean (value : Bool)
  | number (text : String)
  | array (items : List Toml)
  | table (entries : List (String × Toml))

/-- The entries of the table at the root. -/
abbrev Document := List (String × Toml)

namespace Toml

def asStr : Toml → Option String
  | string text | datetime text => some text
  | _ => none

def asBool : Toml → Option Bool
  | boolean value => some value
  | _ => none

def readVec {α : Type} (read : Toml → Option α) : Toml → Option (List α)
  | array items => items.mapM read
  | _ => none

/-- There is no more in an array than the record has fields. -/
def fits (fieldCount : Nat) : Toml → Bool
  | array items => items.length ≤ fieldCount
  | _ => true

/-- The field of a record, if it is given: under one of its names, or in its place.  A field
that is given under two names is refused. -/
def field (names : List String) (place : Nat) : Toml → Option (Option Toml)
  | table entries =>
      match names.filterMap fun name ↦ entries.lookup name with
      | [] => some none
      | [value] => some (some value)
      | _ => none
  | array items => some items[place]?
  | _ => none

end Toml

/-- Read what may be missing. -/
def readOptional {α : Type} (read : Toml → Option α) : Option Toml → Option (Option α)
  | none => some none
  | some value => (read value).map some

/-- Read what has a default. -/
def readDefault {α : Type} (default : α) (read : Toml → Option α) : Option Toml → Option α
  | none => some default
  | some value => read value

/-! ## Sections -/

inductive RuntimeModeToml where
  | paper
  | live
deriving DecidableEq, Repr

structure RuntimeToml where
  mode : RuntimeModeToml
  realUserShadowSmoke : Bool
deriving DecidableEq, Repr

/-- The one kind of source that there is, for a strategy and for targets. -/
inductive SourceKindToml where
  | adopted
deriving DecidableEq, Repr

structure StrategyControlToml where
  source : SourceKindToml
  operatorStrategyRevision : Option String
deriving DecidableEq, Repr

/-- The lists of a rollout, of families or of scopes. -/
structure RolloutToml where
  approved : List String
  ready : List String
deriving DecidableEq, Repr

structure StrategyRouteToml where
  enabled : Bool
  rollout : Option RolloutToml
deriving DecidableEq, Repr

structure StrategiesToml where
  fullSet : Option StrategyRouteToml
  negRisk : Option StrategyRouteToml
deriving DecidableEq, Repr

structure NegRiskTargetSourceToml where
  source : SourceKindToml
  operatorTargetRevision : Option String
deriving DecidableEq, Repr

structure NegRiskTargetMemberToml where
  conditionId : String
  tokenId : String
  price : String
  quantity : String
deriving DecidableEq, Repr

structure NegRiskTargetToml where
  familyId : String
  members : List NegRiskTargetMemberToml
deriving DecidableEq, Repr

/-- `targets` is what is listed, if there is a list. -/
structure NegRiskToml where
  targetSource : Option NegRiskTargetSourceToml
  rollout : Option RolloutToml
  targets : Option (List NegRiskTargetToml)
deriving DecidableEq, Repr

/-- The section `polymarket` and the library that reads documents. -/
structure ConfigReader where
  PolymarketToml : Type
  readPolymarket (value : Toml) : Option PolymarketToml
  validateWalletKindRelayerInvariants (polymarket : PolymarketToml) : Except String Unit
  errorMessage (document : Document) : String

structure RawAxiomConfig (reader : ConfigReader) where
  runtime : RuntimeToml
  strategyControl : Option StrategyControlToml
  strategies : Option StrategiesToml
  polymarket : Option reader.PolymarketToml
  negrisk : Option NegRiskToml

/-! ## Reading sections -/

def readRuntimeMode (value : Toml) : Option RuntimeModeToml := do
  match ← value.asStr with
  | "paper" => return .paper
  | "live" => return .live
  | _ => none

def readRuntime (value : Toml) : Option RuntimeToml := do
  guard (value.fits 2)
  return {
    mode := ← readRuntimeMode (← ← value.field ["mode"] 0)
    realUserShadowSmoke :=
      ← readDefault false Toml.asBool (← value.field ["real_user_shadow_smoke"] 1) }

/-- A unit variant is its name, or a table of its name and nothing. -/
def readSourceKind : Toml → Option SourceKindToml
  | .string "adopted" => some .adopted
  | .table [("adopted", .table [])] => some .adopted
  | .table [("adopted", .array [])] => some .adopted
  | _ => none

def readStrategyControl (value : Toml) : Option StrategyControlToml := do
  guard (value.fits 2)
  return {
    source := ← readSourceKind (← ← value.field ["source"] 0)
    operatorStrategyRevision := ← readOptional Toml.asStr
      (← value.field ["operator_strategy_revision", "operator_target_revision"] 1) }

def readRollout (approved ready : String) (value : Toml) : Option RolloutToml := do
  guard (value.fits 2)
  return {
    approved := ← readDefault [] (Toml.readVec Toml.asStr) (← value.field [approved] 0)
    ready := ← readDefault [] (Toml.readVec Toml.asStr) (← value.field [ready] 1) }

def readStrategyRouteRollout : Toml → Option RolloutToml :=
  readRollout "approved_scopes" "ready_scopes"

def readNegRiskRollout : Toml → Option RolloutToml :=
  readRollout "approved_families" "ready_families"

def readStrategyRoute (value : Toml) : Option StrategyRouteToml := do
  guard (value.fits 2)
  return {
    enabled := ← readDefault false Toml.asBool (← value.field ["enabled"] 0)
    rollout := ← readOptional readStrategyRouteRollout (← value.field ["rollout"] 1) }

def readStrategies (value : Toml) : Option StrategiesToml := do
  guard (value.fits 2)
  return {
    fullSet := ← readOptional readStrategyRoute (← value.field ["full_set"] 0)
    negRisk := ← readOptional readStrategyRoute (← value.field ["neg_risk"] 1) }

def readNegRiskTargetSource (value : Toml) : Option NegRiskTargetSourceToml := do
  guard (value.fits 2)
  return {
    source := ← readSourceKind (← ← value.field ["source"] 0)
    operatorTargetRevision :=
      ← readOptional Toml.asStr (← value.field ["operator_target_revision"] 1) }

def readNegRiskTargetMember (value : Toml) : Option NegRiskTargetMemberToml := do
  guard (value.fits 4)
  return {
    conditionId := ← (← ← value.field ["condition_id"] 0).asStr
    tokenId := ← (← ← value.field ["token_id"] 1).asStr
    price := ← (← ← value.field ["price"] 2).asStr
    quantity := ← (← ← value.field ["quantity"] 3).asStr }

def readNegRiskTarget (value : Toml) : Option NegRiskTargetToml := do
  guard (value.fits 2)
  return {
    familyId := ← (← ← value.field ["family_id"] 0).asStr
    members := ← readDefault [] (Toml.readVec readNegRiskTargetMember) (← value.field ["members"] 1) }

def readNegRisk (value : Toml) : Option NegRiskToml := do
  guard (value.fits 3)
  return {
    targetSource := ← readOptional readNegRiskTargetSource (← value.field ["target_source"] 0)
    rollout := ← readOptional readNegRiskRollout (← value.field ["rollout"] 1)
    targets := ← readOptional (Toml.readVec readNegRiskTarget) (← value.field ["targets"] 2) }

namespace RawAxiomConfig

variable (reader : ConfigReader)

def read (document : Document) : Option (RawAxiomConfig reader) := do
  return {
    runtime := ← readRuntime (← document.lookup "runtime")
    strategyControl := ← readOptional readStrategyControl (document.lookup "strategy_control")
    strategies := ← readOptional readStrategies (document.lookup "strategies")
    polymarket := ← readOptional reader.readPolymarket (document.lookup "polymarket")
    negrisk := ← readOptional readNegRisk (document.lookup "negrisk") }

end RawAxiomConfig

/-- The section `polymarket` has a block that was removed. -/
def hasRemovedHttpBlock (document : Document) : Bool :=
  match document.lookup "polymarket" with
  | some (.table polymarket) => (polymarket.lookup "http").isSome
  | _ => false

def loadRawConfig (reader : ConfigReader) (document : Document) :
    Except String (RawAxiomConfig reader) :=
  if hasRemovedHttpBlock document then
    .error "[polymarket.http] is no longer supported and proxy_url has been removed; use standard proxy environment variables such as HTTPS_PROXY or ALL_PROXY instead"
  else
    match RawAxiomConfig.read reader document with
    | none => .error (reader.errorMessage document)
    | some raw => .ok raw

/-- A reader of documents without a section `polymarket`. -/
def sampleReader : ConfigReader where
  PolymarketToml := Unit
  readPolymarket _ := none
  validateWalletKindRelayerInvariants _ := .ok ⟨⟩
  errorMessage _ := "invalid type"

end AxiomArb.ConfigSchema
