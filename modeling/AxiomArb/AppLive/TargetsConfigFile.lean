import AxiomArb.AppLive.TargetConfig
import AxiomArb.ConfigSchema.Validate
import AxiomArb.Library.Fallible

/-!
# A revision is written to a configuration

The commands that change the strategy revision rewrite the document: the control gets the
revision, the older inputs are taken out, and a rollout that was among them is moved to the
route.  The moved rollout replaces the one that the route had, although this is the one in
effect (`rewrite_keeps_rollout_iff`).

## Honest boundary

* Files are not modelled: a rewrite that succeeds is written.
-/

namespace AxiomArb.AppLive.TargetsConfigFile

open Library ConfigSchema

/-- A rewrite reports an error, or finds no table where it expects one. -/
inductive RewriteError where
  | failed (message : String)
  | panicked (message : String)
deriving DecidableEq, Repr

/-- The table at a place of the document, made if there is nothing. -/
def expectTable (message : String) : Option Toml → Except RewriteError (List (String × Toml))
  | none => .ok []
  | some (.table entries) => .ok entries
  | some _ => .error (.panicked message)

def insertStrategyRevision (operatorStrategyRevision : String) (document : Document) :
    Except RewriteError Document := do
  let strategyControl ← expectTable "[strategy_control] should be a table"
    (document.lookup "strategy_control")
  let strategyControl := insertEntry "source" (.string "adopted") strategyControl
  let strategyControl :=
    insertEntry "operator_strategy_revision" (.string operatorStrategyRevision) strategyControl
  return insertEntry "strategy_control" (.table strategyControl) document

/-- Give an entry another name. -/
def respell (families scopes : String) (rollout : List (String × Toml)) : List (String × Toml) :=
  match rollout.lookup families with
  | none => rollout
  | some value => insertEntry scopes value (eraseEntry families rollout)

def normalizeRouteOwnedRolloutItem : Toml → Toml
  | .table rollout => .table (respell "ready_families" "ready_scopes"
      (respell "approved_families" "approved_scopes" rollout))
  | rollout => rollout

/-- Put a rollout in place of the one that the route has. -/
def insertRouteRollout (rollout : Toml) (document : Document) : Except RewriteError Document := do
  let strategies ← expectTable "[strategies] should be a table" (document.lookup "strategies")
  let negRisk ← expectTable "[strategies.neg_risk] should be a table" (strategies.lookup "neg_risk")
  let negRisk := insertEntry "rollout" (normalizeRouteOwnedRolloutItem rollout) negRisk
  return insertEntry "strategies" (.table (insertEntry "neg_risk" (.table negRisk) strategies))
    document

/-- Take the older inputs out of `negrisk`, and move the rollout. -/
def removeLegacyInputs (document : Document) : Except RewriteError Document :=
  match document.lookup "negrisk" with
  | some (.table negrisk) =>
      let kept := eraseEntry "targets" (eraseEntry "target_source" (eraseEntry "rollout" negrisk))
      let document := insertEntry "negrisk" (.table kept) document
      match negrisk.lookup "rollout" with
      | none => .ok document
      | some rollout => insertRouteRollout rollout document
  | _ => .ok document

def rewriteOperatorStrategyRevision (reader : ConfigReader) (operatorStrategyRevision : String)
    (document : Document) : Except RewriteError Document := do
  let _ ← (ConfigSchema.loadValidatedConfig reader document).mapError .failed
  let document ← insertStrategyRevision operatorStrategyRevision document
  let document ← removeLegacyInputs document
  let raw ← (ConfigSchema.loadValidatedConfig reader document).mapError .failed
  if raw.persistedRevision ≠ some operatorStrategyRevision then
    throw (.failed "config validation error: rewritten operator_strategy_revision did not persist")
  else return document

/-! ## What a document says -/

/-- The configured revision of a document, as the app-live view has it. -/
def configuredRevision (reader : ConfigReader) (document : Document) : Option String :=
  (ConfigSchema.loadValidatedConfig reader document).toOption.bind RawAxiomConfig.operatorStrategyRevision

/-- The rollout in effect. -/
def effectiveRollout (reader : ConfigReader) (document : Document) : Option RolloutToml :=
  (ConfigSchema.loadValidatedConfig reader document).toOption.bind RawAxiomConfig.negriskRollout

/-- The rollout that the route has. -/
def routeRollout (reader : ConfigReader) (document : Document) : Option RolloutToml :=
  (ConfigSchema.loadValidatedConfig reader document).toOption.bind RawAxiomConfig.routeRollout

/-- The rollout that is moved. -/
def legacyRollout (document : Document) : Option Toml :=
  match document.lookup "negrisk" with
  | some (.table negrisk) => negrisk.lookup "rollout"
  | _ => none

/-- The names that a rollout lists, under the first of some keys that it has or in a place. -/
def listed (keys : List String) (place : Nat) : Toml → List String
  | .table rollout => ((keys.findSome? fun key ↦ rollout.lookup key).bind
      (Toml.readVec Toml.asStr)).getD []
  | .array lists => (lists[place]?.bind (Toml.readVec Toml.asStr)).getD []
  | _ => []

/-- A rollout in `negrisk` is the one in effect when it is moved. -/
structure RolloutKept (reader : ConfigReader) (document : Document) : Prop where
  /-- No targets are listed in a `negrisk` that is no table. -/
  unlisted : ∀ sections, document.lookup "negrisk" = some (.array sections) → sections.length ≤ 2
  /-- Where the route has a rollout too, it lists the same names. -/
  same : ∀ legacy ∈ legacyRollout document, ∀ rollout ∈ routeRollout reader document,
    rollout =
      { approved := listed ["approved_families", "approved_scopes"] 0 legacy
        ready := listed ["ready_families", "ready_scopes"] 1 legacy }
  /-- Where it has none, no names are listed as scopes alone. -/
  alone : ∀ rollout, legacyRollout document = some (.table rollout) →
    routeRollout reader document = none →
      (rollout.lookup "approved_families" = none →
        listed ["approved_scopes"] 0 (.table rollout) = []) ∧
      (rollout.lookup "ready_families" = none → listed ["ready_scopes"] 1 (.table rollout) = [])

/-! ## What is read -/

section Read

variable {reader : ConfigReader} {document document' : Document} {raw raw' : RawAxiomConfig reader}
  {entries : List (String × Toml)} {value : Toml}

theorem read_of_load (h : ConfigSchema.loadValidatedConfig reader document = .ok raw) :
    readOptional readStrategyControl (document.lookup "strategy_control") =
        some raw.strategyControl ∧
      readOptional readStrategies (document.lookup "strategies") = some raw.strategies ∧
      readOptional readNegRisk (document.lookup "negrisk") = some raw.negrisk := by
  have hload : loadRawConfig reader document = .ok raw := by
    obtain ⟨loaded, hload, hvalid⟩ := bind_eq_ok.mp h
    obtain ⟨-, -, hpure⟩ := bind_eq_ok.mp hvalid
    exact hload.trans hpure
  rw [loadRawConfig] at hload
  split_ifs at hload
  cases hread : RawAxiomConfig.read reader document with
  | none =>
      rw [hread] at hload
      cases hload
  | some loaded =>
      rw [hread] at hload
      obtain rfl := Except.ok.inj hload
      simp only [RawAxiomConfig.read, Option.bind_eq_bind, Option.bind_eq_some_iff] at hread
      obtain ⟨_, -, _, -, control, hcontrol, strategies, hstrategies, _, -, negrisk, hnegrisk,
        hraw⟩ := hread
      obtain rfl := Option.some.inj hraw
      exact ⟨hcontrol, hstrategies, hnegrisk⟩

theorem field_table (name : String) (place : Nat) :
    (Toml.table entries).field [name] place = some (entries.lookup name) := by
  cases hlookup : entries.lookup name with
  | none => simp [Toml.field, hlookup]
  | some value => simp [Toml.field, hlookup]

theorem readNegRisk_table {negrisk : NegRiskToml} (h : readNegRisk (.table entries) = some negrisk) :
    readOptional readNegRiskTargetSource (entries.lookup "target_source") =
        some negrisk.targetSource ∧
      readOptional readNegRiskRollout (entries.lookup "rollout") = some negrisk.rollout ∧
      readOptional (Toml.readVec readNegRiskTarget) (entries.lookup "targets") =
        some negrisk.targets := by
  simp only [readNegRisk, field_table, Option.bind_eq_bind, Option.bind_eq_some_iff] at h
  obtain ⟨-, -, -, ⟨⟩, source, hsource, -, ⟨⟩, rollout, hrollout, -, ⟨⟩, targets, htargets, hraw⟩ := h
  obtain rfl := Option.some.inj hraw
  exact ⟨hsource, hrollout, htargets⟩

theorem isSome_targets_of_array {items : List Toml} {negrisk : NegRiskToml}
    (h : readNegRisk (.array items) = some negrisk) :
    negrisk.targets.isSome ↔ ¬ items.length ≤ 2 := by
  simp only [readNegRisk, Toml.field, Option.bind_eq_bind, Option.bind_eq_some_iff] at h
  obtain ⟨-, -, -, ⟨⟩, _, -, -, ⟨⟩, _, -, -, ⟨⟩, targets, htargets, hraw⟩ := h
  obtain rfl := Option.some.inj hraw
  cases hitem : items[2]? with
  | none =>
      rw [hitem] at htargets
      obtain rfl := Option.some.inj htargets
      exact iff_of_false Bool.false_ne_true (not_not.mpr (List.getElem?_eq_none_iff.mp hitem))
  | some item =>
      rw [hitem] at htargets
      obtain ⟨_, -, rfl⟩ := Option.map_eq_some_iff.mp htargets
      exact iff_of_true rfl (not_le.mpr (List.getElem?_eq_some_iff.mp hitem).1)

theorem readStrategies_table {strategies : StrategiesToml}
    (h : readStrategies (.table entries) = some strategies) :
    readOptional readStrategyRoute (entries.lookup "neg_risk") = some strategies.negRisk := by
  simp only [readStrategies, field_table, Option.bind_eq_bind, Option.bind_eq_some_iff] at h
  obtain ⟨-, -, -, ⟨⟩, _, -, -, ⟨⟩, negRisk, hnegRisk, hraw⟩ := h
  obtain rfl := Option.some.inj hraw
  exact hnegRisk

theorem readStrategyRoute_table {route : StrategyRouteToml}
    (h : readStrategyRoute (.table entries) = some route) :
    readOptional readStrategyRouteRollout (entries.lookup "rollout") = some route.rollout := by
  simp only [readStrategyRoute, field_table, Option.bind_eq_bind, Option.bind_eq_some_iff] at h
  obtain ⟨-, -, -, ⟨⟩, _, -, -, ⟨⟩, rollout, hrollout, hraw⟩ := h
  obtain rfl := Option.some.inj hraw
  exact hrollout

/-! ### Rollouts -/

theorem listed_pair (families scopes : String) (place : Nat) :
    listed [families, scopes] place (.table entries) =
      (((entries.lookup families).or (entries.lookup scopes)).bind
        (Toml.readVec Toml.asStr)).getD [] := by
  cases hlookup : entries.lookup families with
  | none => simp [listed, hlookup]
  | some value => simp [listed, hlookup]

/-- A list under the newer name counts if there is none under the older one. -/
theorem listed_pair_eq_iff {families scopes : String} {place : Nat} :
    listed [families, scopes] place (.table entries) = listed [families] place (.table entries) ↔
      (entries.lookup families = none → listed [scopes] place (.table entries) = []) := by
  rw [listed_pair]
  cases hlookup : entries.lookup families with
  | none => simp [listed, hlookup]
  | some value => simp [listed, hlookup]

theorem getD_of_readDefault {names : List String} {item : Option Toml}
    (h : readDefault [] (Toml.readVec Toml.asStr) item = some names) :
    (item.bind (Toml.readVec Toml.asStr)).getD [] = names := by
  cases item with
  | none => exact Option.some.inj h
  | some value => exact congrArg (Option.getD · []) h

/-- A rollout is what it lists. -/
theorem eq_listed_of_readRollout {approved ready : String} {rollout : RolloutToml}
    (h : readRollout approved ready value = some rollout) :
    rollout = { approved := listed [approved] 0 value, ready := listed [ready] 1 value } := by
  simp only [readRollout, Option.bind_eq_bind, Option.bind_eq_some_iff] at h
  obtain ⟨-, -, approvedItem, hfield, approvedNames, happroved, readyItem, hfield', readyNames,
    hready, hraw⟩ := h
  obtain rfl := Option.some.inj hraw
  obtain rfl := getD_of_readDefault happroved
  obtain rfl := getD_of_readDefault hready
  cases value with
  | table rollout =>
      rw [field_table] at hfield hfield'
      obtain rfl := Option.some.inj hfield
      obtain rfl := Option.some.inj hfield'
      simp [listed]
  | array lists =>
      obtain rfl := Option.some.inj hfield
      obtain rfl := Option.some.inj hfield'
      rfl
  | _ => cases hfield

theorem lookup_respell (families scopes : String) :
    (respell families scopes entries).lookup scopes =
      (entries.lookup families).or (entries.lookup scopes) := by
  rw [respell]
  cases hlookup : entries.lookup families with
  | none => rfl
  | some value => exact lookup_insertEntry_self

theorem lookup_respell_of_ne {families scopes key : String} (hfamilies : key ≠ families)
    (hscopes : key ≠ scopes) : (respell families scopes entries).lookup key = entries.lookup key := by
  rw [respell]
  cases entries.lookup families with
  | none => rfl
  | some value => rw [lookup_insertEntry_of_ne hscopes, lookup_eraseEntry_of_ne hfamilies]

/-- What a moved rollout lists was listed under either name. -/
theorem eq_listed_of_read_normalized {rollout : RolloutToml}
    (h : readStrategyRouteRollout (normalizeRouteOwnedRolloutItem value) = some rollout) :
    rollout =
      { approved := listed ["approved_families", "approved_scopes"] 0 value
        ready := listed ["ready_families", "ready_scopes"] 1 value } := by
  rw [eq_listed_of_readRollout h]
  cases value with
  | table rollout =>
      have happroved : (respell "ready_families" "ready_scopes"
          (respell "approved_families" "approved_scopes" rollout)).lookup "approved_scopes" =
            (rollout.lookup "approved_families").or (rollout.lookup "approved_scopes") := by
        rw [lookup_respell_of_ne (by decide) (by decide), lookup_respell]
      have hready : (respell "ready_families" "ready_scopes"
          (respell "approved_families" "approved_scopes" rollout)).lookup "ready_scopes" =
            (rollout.lookup "ready_families").or (rollout.lookup "ready_scopes") := by
        rw [lookup_respell, lookup_respell_of_ne (by decide) (by decide),
          lookup_respell_of_ne (by decide) (by decide)]
      rw [listed_pair, listed_pair, ← happroved, ← hready]
      simp [normalizeRouteOwnedRolloutItem, listed]
  | _ => rfl

/-! ### Sections -/

/-- Only an array has targets that are listed where there is no table. -/
theorem isSome_targets_iff_of_ne {item : Option Toml} {negrisk : Option NegRiskToml}
    (h : readOptional readNegRisk item = some negrisk) (hnot : ∀ entries, item ≠ some (.table entries)) :
    (negrisk.bind NegRiskToml.targets).isSome ↔
      ∃ sections, item = some (.array sections) ∧ ¬ sections.length ≤ 2 := by
  cases item with
  | none =>
      obtain rfl := Option.some.inj h
      exact iff_of_false Bool.false_ne_true nofun
  | some value =>
      obtain ⟨section', hread, rfl⟩ := Option.map_eq_some_iff.mp h
      cases value with
      | table entries => exact absurd rfl (hnot entries)
      | array sections =>
          rw [Option.bind_some, isSome_targets_of_array hread]
          simp
      | _ => cases hread

theorem exists_negrisk_of_table {negrisk : Option NegRiskToml}
    (h : readOptional readNegRisk (some (.table entries)) = some negrisk) :
    ∃ read, negrisk = some read ∧
      readOptional readNegRiskRollout (entries.lookup "rollout") = some read.rollout ∧
      readOptional (Toml.readVec readNegRiskTarget) (entries.lookup "targets") = some read.targets := by
  obtain ⟨read, hread, rfl⟩ := Option.map_eq_some_iff.mp h
  exact ⟨read, rfl, (readNegRisk_table hread).2⟩

/-- The rollout that a route of the document has. -/
theorem exists_rollout_of_tables {strategies : Option StrategiesToml}
    {negRisk : List (String × Toml)}
    (h : readOptional readStrategies (some (.table entries)) = some strategies)
    (hnegRisk : entries.lookup "neg_risk" = some (.table negRisk))
    (hrollout : negRisk.lookup "rollout" = some value) :
    ∃ rollout, readStrategyRouteRollout value = some rollout ∧
      (strategies.bind StrategiesToml.negRisk).bind StrategyRouteToml.rollout = some rollout := by
  obtain ⟨read, hread, rfl⟩ := Option.map_eq_some_iff.mp h
  have hroute := readStrategies_table hread
  rw [hnegRisk] at hroute
  obtain ⟨route, hroute, hsome⟩ := Option.map_eq_some_iff.mp hroute
  have hread := readStrategyRoute_table hroute
  rw [hrollout] at hread
  obtain ⟨rollout, hread, hsome'⟩ := Option.map_eq_some_iff.mp hread
  refine ⟨rollout, hread, ?_⟩
  rw [Option.bind_some, ← hsome, Option.bind_some, hsome']

end Read

/-! ## What a rewrite does -/

section Rewrite

variable {reader : ConfigReader} {revision : String} {document document' document'' : Document}

theorem rewrite_eq_ok_iff :
    rewriteOperatorStrategyRevision reader revision document = .ok document'' ↔
      ∃ raw document' raw', ConfigSchema.loadValidatedConfig reader document = .ok raw ∧
        insertStrategyRevision revision document = .ok document' ∧
        removeLegacyInputs document' = .ok document'' ∧
        ConfigSchema.loadValidatedConfig reader document'' = .ok raw' ∧
        raw'.persistedRevision = some revision := by
  simp only [rewriteOperatorStrategyRevision, bind_eq_ok, mapError_eq_ok_iff]
  constructor
  · rintro ⟨raw, hload, document', hinsert, rewritten, hremove, raw', hload', hpersisted⟩
    split_ifs at hpersisted with hne
    obtain rfl := Except.ok.inj hpersisted
    exact ⟨raw, document', raw', hload, hinsert, hremove, hload', not_not.mp hne⟩
  · rintro ⟨raw, document', raw', hload, hinsert, hremove, hload', hpersisted⟩
    exact ⟨raw, hload, document', hinsert, document'', hremove, raw', hload',
      if_neg (not_not.mpr hpersisted)⟩

theorem insertStrategyRevision_cases
    (h : insertStrategyRevision revision document = .ok document') :
    (∃ control, document'.lookup "strategy_control" = some (.table control) ∧
      control.lookup "source" = some (.string "adopted") ∧
      control.lookup "operator_strategy_revision" = some (.string revision)) ∧
    ∀ key, key ≠ "strategy_control" → document'.lookup key = document.lookup key := by
  obtain ⟨control, -, hdocument⟩ := bind_eq_ok.mp h
  obtain rfl := Except.ok.inj hdocument
  refine ⟨⟨_, lookup_insertEntry_self, ?_, lookup_insertEntry_self⟩,
    fun key hkey ↦ lookup_insertEntry_of_ne hkey⟩
  rw [lookup_insertEntry_of_ne (by decide), lookup_insertEntry_self]

/-- A revision that is in the control is not inserted again. -/
theorem insertStrategyRevision_eq_self {control : List (String × Toml)}
    (hcontrol : document.lookup "strategy_control" = some (.table control))
    (hsource : control.lookup "source" = some (.string "adopted"))
    (hrevision : control.lookup "operator_strategy_revision" = some (.string revision)) :
    insertStrategyRevision revision document = .ok document := by
  rw [insertStrategyRevision, hcontrol]
  show Except.ok _ = _
  rw [insertEntry_eq_self hsource, insertEntry_eq_self hrevision, insertEntry_eq_self hcontrol]

/-- What is left of the older inputs, and where their rollout is. -/
theorem removeLegacyInputs_cases (h : removeLegacyInputs document = .ok document') :
    ((∀ negrisk, document.lookup "negrisk" ≠ some (.table negrisk)) ∧ document' = document) ∨
    ∃ negrisk kept, document.lookup "negrisk" = some (.table negrisk) ∧
      document'.lookup "negrisk" = some (.table kept) ∧ kept.lookup "rollout" = none ∧
      kept.lookup "target_source" = none ∧ kept.lookup "targets" = none ∧
      document'.lookup "strategy_control" = document.lookup "strategy_control" ∧
      match negrisk.lookup "rollout" with
      | none => document'.lookup "strategies" = document.lookup "strategies"
      | some rollout => ∃ strategies negRisk,
          document'.lookup "strategies" = some (.table strategies) ∧
          strategies.lookup "neg_risk" = some (.table negRisk) ∧
          negRisk.lookup "rollout" = some (normalizeRouteOwnedRolloutItem rollout) := by
  rw [removeLegacyInputs] at h
  split at h
  · rename_i negrisk hnegrisk
    have hrollout : (eraseEntry "targets" (eraseEntry "target_source"
        (eraseEntry "rollout" negrisk))).lookup "rollout" = none := by
      rw [lookup_eraseEntry_of_ne (by decide), lookup_eraseEntry_of_ne (by decide),
        lookup_eraseEntry_self]
    have hsource : (eraseEntry "targets" (eraseEntry "target_source"
        (eraseEntry "rollout" negrisk))).lookup "target_source" = none := by
      rw [lookup_eraseEntry_of_ne (by decide), lookup_eraseEntry_self]
    cases hlegacy : negrisk.lookup "rollout" with
    | none =>
        rw [hlegacy] at h
        obtain rfl := Except.ok.inj h
        refine .inr ⟨negrisk, _, hnegrisk, lookup_insertEntry_self, hrollout, hsource,
          lookup_eraseEntry_self, lookup_insertEntry_of_ne (by decide), ?_⟩
        rw [hlegacy]
        exact lookup_insertEntry_of_ne (by decide)
    | some rollout =>
        rw [hlegacy] at h
        obtain ⟨strategies, -, hstrategies⟩ := bind_eq_ok.mp h
        obtain ⟨negRisk, -, hdocument⟩ := bind_eq_ok.mp hstrategies
        obtain rfl := Except.ok.inj hdocument
        refine .inr ⟨negrisk, _, hnegrisk, ?_, hrollout, hsource, lookup_eraseEntry_self, ?_, ?_⟩
        · rw [lookup_insertEntry_of_ne (by decide)]
          exact lookup_insertEntry_self
        · rw [lookup_insertEntry_of_ne (by decide), lookup_insertEntry_of_ne (by decide)]
        · rw [hlegacy]
          exact ⟨_, _, lookup_insertEntry_self, lookup_insertEntry_self, lookup_insertEntry_self⟩
  · rename_i hnot
    obtain rfl := Except.ok.inj h
    exact .inl ⟨fun negrisk hnegrisk ↦ hnot negrisk hnegrisk, rfl⟩

theorem removeLegacyInputs_eq_self_of_ne
    (h : ∀ negrisk, document.lookup "negrisk" ≠ some (.table negrisk)) :
    removeLegacyInputs document = .ok document := by
  rw [removeLegacyInputs]
  split
  · rename_i negrisk hnegrisk
    exact absurd hnegrisk (h negrisk)
  · rfl

/-- Nothing is removed twice. -/
theorem removeLegacyInputs_eq_self {kept : List (String × Toml)}
    (hkept : document.lookup "negrisk" = some (.table kept)) (hrollout : kept.lookup "rollout" = none)
    (hsource : kept.lookup "target_source" = none) (htargets : kept.lookup "targets" = none) :
    removeLegacyInputs document = .ok document := by
  rw [removeLegacyInputs, hkept]
  simp only [hrollout, eraseEntry_eq_self hrollout, eraseEntry_eq_self hsource,
    eraseEntry_eq_self htargets, insertEntry_eq_self hkept]

/-- A document that was rewritten is rewritten to itself. -/
theorem rewrite_rewritten
    (h : rewriteOperatorStrategyRevision reader revision document = .ok document'') :
    rewriteOperatorStrategyRevision reader revision document'' = .ok document'' := by
  obtain ⟨raw, document', raw', hload, hinsert, hremove, hload', hpersisted⟩ := rewrite_eq_ok_iff.mp h
  obtain ⟨⟨control, hcontrol, hsource, hrevision⟩, -⟩ := insertStrategyRevision_cases hinsert
  refine rewrite_eq_ok_iff.mpr ⟨raw', document'', raw', hload', ?_, ?_, hload', hpersisted⟩
  · rcases removeLegacyInputs_cases hremove with ⟨-, rfl⟩ | ⟨_, _, -, -, -, -, -, hsame, -⟩
    · exact insertStrategyRevision_eq_self hcontrol hsource hrevision
    · exact insertStrategyRevision_eq_self (hsame.trans hcontrol) hsource hrevision
  · rcases removeLegacyInputs_cases hremove with ⟨hnot, rfl⟩ |
      ⟨_, kept, -, hkept, hrollout, htargetSource, htargets, -, -⟩
    · exact removeLegacyInputs_eq_self_of_ne hnot
    · exact removeLegacyInputs_eq_self hkept hrollout htargetSource htargets

theorem configuredRevision_of_load {raw : RawAxiomConfig reader}
    (h : ConfigSchema.loadValidatedConfig reader document = .ok raw) :
    configuredRevision reader document = raw.operatorStrategyRevision := by
  rw [configuredRevision, h]
  rfl

theorem effectiveRollout_of_load {raw : RawAxiomConfig reader}
    (h : ConfigSchema.loadValidatedConfig reader document = .ok raw) :
    effectiveRollout reader document = raw.negriskRollout := by
  rw [effectiveRollout, h]
  rfl

theorem routeRollout_of_load {raw : RawAxiomConfig reader}
    (h : ConfigSchema.loadValidatedConfig reader document = .ok raw) :
    routeRollout reader document = raw.routeRollout := by
  rw [routeRollout, h]
  rfl

/-- The revision is configured unless targets are listed in an array that is left. -/
theorem configuredRevision_rewritten_iff
    (h : rewriteOperatorStrategyRevision reader revision document = .ok document'') :
    configuredRevision reader document'' = some revision ↔
      ∀ sections, document.lookup "negrisk" = some (.array sections) → sections.length ≤ 2 := by
  obtain ⟨raw, document', raw', hload, hinsert, hremove, hload', hpersisted⟩ := rewrite_eq_ok_iff.mp h
  have hnegrisk := (insertStrategyRevision_cases hinsert).2 "negrisk" (by decide)
  obtain ⟨-, -, hread⟩ := read_of_load hload'
  have hconfigured : raw'.operatorStrategyRevision = some revision ↔
      ¬ (raw'.negrisk.bind NegRiskToml.targets).isSome := by
    rw [RawAxiomConfig.operatorStrategyRevision, RawAxiomConfig.isLegacyExplicitStrategyConfig]
    split_ifs with hlegacy
    · exact iff_of_false nofun (not_not.mpr hlegacy)
    · exact iff_of_true hpersisted hlegacy
  rw [configuredRevision_of_load hload', hconfigured]
  rcases removeLegacyInputs_cases hremove with ⟨hnot, rfl⟩ |
    ⟨negrisk, kept, htable, hkept, -, -, htargets, -, -⟩
  · rw [isSome_targets_iff_of_ne hread hnot, hnegrisk]
    simp
  · rw [hkept] at hread
    obtain ⟨section', hsection, -, hnone⟩ := exists_negrisk_of_table hread
    rw [htargets] at hnone
    rw [hsection, Option.bind_some, ← Option.some.inj hnone, ← hnegrisk, htable]
    exact iff_of_true Bool.false_ne_true nofun

theorem legacyRollout_of_table {negrisk : List (String × Toml)}
    (h : document.lookup "negrisk" = some (.table negrisk)) :
    legacyRollout document = negrisk.lookup "rollout" := by
  rw [legacyRollout, h]

theorem legacyRollout_of_ne (h : ∀ negrisk, document.lookup "negrisk" ≠ some (.table negrisk)) :
    legacyRollout document = none := by
  rw [legacyRollout]
  split
  · rename_i negrisk hnegrisk
    exact absurd hnegrisk (h negrisk)
  · rfl

/-- A moved rollout is the one in effect if it lists what the other one does, or what it listed
by itself. -/
theorem moved_eq_iff {legacy : Toml} {rollout : RolloutToml} {route : Option RolloutToml}
    (h : readNegRiskRollout legacy = some rollout) :
    some (RolloutToml.mk (listed ["approved_families", "approved_scopes"] 0 legacy)
        (listed ["ready_families", "ready_scopes"] 1 legacy)) =
          (match route with
          | some rollout => some rollout
          | none => some rollout) ↔
      (∀ legacy' ∈ some legacy, ∀ rollout ∈ route,
        rollout =
          { approved := listed ["approved_families", "approved_scopes"] 0 legacy'
            ready := listed ["ready_families", "ready_scopes"] 1 legacy' }) ∧
      ∀ entries, some legacy = some (.table entries) → route = none →
        (entries.lookup "approved_families" = none →
          listed ["approved_scopes"] 0 (.table entries) = []) ∧
        (entries.lookup "ready_families" = none →
          listed ["ready_scopes"] 1 (.table entries) = []) := by
  cases route with
  | some route =>
      constructor
      · intro hmoved
        refine ⟨?_, nofun⟩
        rintro _ ⟨⟩ _ ⟨⟩
        exact (Option.some.inj hmoved).symm
      · rintro ⟨hsame, -⟩
        rw [hsame legacy rfl route rfl]
  | none =>
      obtain rfl := eq_listed_of_readRollout h
      cases legacy with
      | table entries =>
          simp only [Option.some_inj, RolloutToml.mk.injEq, listed_pair_eq_iff]
          simp
      | array lists => exact iff_of_true rfl ⟨nofun, nofun⟩
      | _ => cases h

/-- The rollout stays in effect if it is kept where the two of them are. -/
theorem effectiveRollout_rewritten_iff
    (h : rewriteOperatorStrategyRevision reader revision document = .ok document'') :
    effectiveRollout reader document'' = effectiveRollout reader document ↔
      (∀ legacy ∈ legacyRollout document, ∀ rollout ∈ routeRollout reader document,
        rollout =
          { approved := listed ["approved_families", "approved_scopes"] 0 legacy
            ready := listed ["ready_families", "ready_scopes"] 1 legacy }) ∧
      ∀ rollout, legacyRollout document = some (.table rollout) →
        routeRollout reader document = none →
          (rollout.lookup "approved_families" = none →
            listed ["approved_scopes"] 0 (.table rollout) = []) ∧
          (rollout.lookup "ready_families" = none →
            listed ["ready_scopes"] 1 (.table rollout) = []) := by
  obtain ⟨raw, document', raw', hload, hinsert, hremove, hload', -⟩ := rewrite_eq_ok_iff.mp h
  have hsame := (insertStrategyRevision_cases hinsert).2
  have hnegrisk := hsame "negrisk" (by decide)
  have hstrategies := hsame "strategies" (by decide)
  obtain ⟨-, hroute, hlegacy⟩ := read_of_load hload
  obtain ⟨-, hroute', hlegacy'⟩ := read_of_load hload'
  rw [effectiveRollout_of_load hload, effectiveRollout_of_load hload', routeRollout_of_load hload]
  rcases removeLegacyInputs_cases hremove with ⟨hnot, rfl⟩ |
    ⟨negrisk, kept, htable, hkept, hrollout, -, -, -, hmoved⟩
  · -- nothing is removed
    rw [hstrategies, hroute] at hroute'
    rw [hnegrisk, hlegacy] at hlegacy'
    rw [legacyRollout_of_ne fun entries hentries ↦ hnot entries (hnegrisk.trans hentries)]
    refine iff_of_true ?_ ⟨nofun, nofun⟩
    rw [RawAxiomConfig.negriskRollout, RawAxiomConfig.negriskRollout, RawAxiomConfig.routeRollout,
      RawAxiomConfig.routeRollout, Option.some.inj hroute', Option.some.inj hlegacy']
  · rw [hnegrisk] at htable
    rw [htable] at hlegacy
    rw [hkept] at hlegacy'
    obtain ⟨read, hread, hbefore, -⟩ := exists_negrisk_of_table hlegacy
    obtain ⟨read', hread', hafter, -⟩ := exists_negrisk_of_table hlegacy'
    rw [hrollout] at hafter
    rw [legacyRollout_of_table htable, RawAxiomConfig.negriskRollout, RawAxiomConfig.negriskRollout,
      hread, hread', Option.bind_some, Option.bind_some, ← Option.some.inj hafter]
    cases hmove : negrisk.lookup "rollout" with
    | none =>
        -- there is no rollout to move
        rw [hmove] at hmoved hbefore
        simp only at hmoved
        rw [hmoved, hstrategies, hroute] at hroute'
        refine iff_of_true ?_ ⟨nofun, nofun⟩
        rw [RawAxiomConfig.routeRollout, RawAxiomConfig.routeRollout, ← Option.some.inj hroute',
          ← Option.some.inj hbefore]
    | some legacy =>
        rw [hmove] at hmoved hbefore
        obtain ⟨strategies, negRisk, hentries, hnegRisk, hvalue⟩ := hmoved
        rw [hentries] at hroute'
        obtain ⟨moved, hmovedRead, hmovedRoute⟩ := exists_rollout_of_tables hroute' hnegRisk hvalue
        obtain ⟨rollout, hrolloutRead, hsome⟩ := Option.map_eq_some_iff.mp hbefore
        obtain rfl := eq_listed_of_read_normalized hmovedRead
        rw [RawAxiomConfig.routeRollout, hmovedRoute, ← hsome]
        exact moved_eq_iff hrolloutRead

/-! ### The parts that the commands read -/

/-- The file that the commands see of a configuration. -/
def configFile (raw : RawAxiomConfig reader) : ConfigFile where
  strategyControl := raw.strategyControl.map fun control ↦
    { operatorStrategyRevision := control.operatorStrategyRevision }
  targetSource := (raw.negrisk.bind NegRiskToml.targetSource).map fun source ↦
    { operatorTargetRevision := source.operatorTargetRevision }
  targets := (raw.negrisk.bind NegRiskToml.targets).map fun targets ↦ targets.map fun target ↦
    { familyId := target.familyId
      members := target.members.map fun member ↦
        { conditionId := member.conditionId
          tokenId := member.tokenId
          price := member.price
          quantity := member.quantity } }

/-- What a rewrite leaves in `negrisk`. -/
theorem negrisk_of_rewrite (h : removeLegacyInputs document = .ok document')
    (harray : ∀ sections, document.lookup "negrisk" ≠ some (.array sections))
    {negrisk : Option NegRiskToml}
    (hread : readOptional readNegRisk (document'.lookup "negrisk") = some negrisk) :
    negrisk.bind NegRiskToml.targetSource = none ∧ negrisk.bind NegRiskToml.targets = none := by
  rcases removeLegacyInputs_cases h with ⟨hnot, rfl⟩ | ⟨_, kept, -, hkept, -, hsource, htargets, -, -⟩
  · cases hitem : document'.lookup "negrisk" with
    | none =>
        rw [hitem] at hread
        obtain rfl := Option.some.inj hread
        exact ⟨rfl, rfl⟩
    | some value =>
        rw [hitem] at hread
        obtain ⟨_, hvalue, -⟩ := Option.map_eq_some_iff.mp hread
        cases value with
        | table entries => exact absurd hitem (hnot entries)
        | array sections => exact absurd hitem (harray sections)
        | _ => cases hvalue
  · rw [hkept] at hread
    obtain ⟨kept', hkept', rfl⟩ := Option.map_eq_some_iff.mp hread
    have hsections := readNegRisk_table hkept'
    rw [hsource, htargets] at hsections
    exact ⟨(Option.some.inj hsections.1).symm, (Option.some.inj hsections.2.2).symm⟩

/-- A document is rewritten as the file that the commands see of it. -/
theorem configFile_rewritten
    (h : rewriteOperatorStrategyRevision reader revision document = .ok document'')
    (harray : ∀ sections, document.lookup "negrisk" ≠ some (.array sections)) :
    ∃ raw', ConfigSchema.loadValidatedConfig reader document'' = .ok raw' ∧
      configFile raw' = ConfigFile.rewritten revision := by
  obtain ⟨raw, document', raw', -, hinsert, hremove, hload', hpersisted⟩ := rewrite_eq_ok_iff.mp h
  have hnegrisk := (insertStrategyRevision_cases hinsert).2 "negrisk" (by decide)
  obtain ⟨hsource, htargets⟩ := negrisk_of_rewrite hremove
    (fun sections hsections ↦ harray sections (hnegrisk.symm.trans hsections)) (read_of_load hload').2.2
  refine ⟨raw', hload', ?_⟩
  rw [configFile, hsource, htargets, ConfigFile.rewritten]
  rw [RawAxiomConfig.persistedRevision, hsource] at hpersisted
  cases hcontrol : raw'.strategyControl with
  | none =>
      rw [hcontrol] at hpersisted
      cases hpersisted
  | some control =>
      cases hrevision : control.operatorStrategyRevision with
      | none =>
          rw [hcontrol, Option.bind_some, hrevision] at hpersisted
          cases hpersisted
      | some configured =>
          rw [hcontrol, Option.bind_some, hrevision] at hpersisted
          obtain rfl := Option.some.inj hpersisted
          rw [Option.map_some, hrevision]
          rfl

/-! ### The rollout -/

/-- A rewrite configures the revision and keeps the rollout if the rollout that it moves is the
one in effect.  A second rewrite changes nothing. -/
theorem rewrite_keeps_rollout_iff
    (h : rewriteOperatorStrategyRevision reader revision document = .ok document'') :
    (configuredRevision reader document'' = some revision ∧
      effectiveRollout reader document'' = effectiveRollout reader document ∧
      rewriteOperatorStrategyRevision reader revision document'' = .ok document'') ↔
    RolloutKept reader document := by
  rw [configuredRevision_rewritten_iff h, effectiveRollout_rewritten_iff h]
  constructor
  · rintro ⟨hunlisted, ⟨hsame, halone⟩, -⟩
    exact ⟨hunlisted, hsame, halone⟩
  · rintro ⟨hunlisted, hsame, halone⟩
    exact ⟨hunlisted, ⟨hsame, halone⟩, rewrite_rewritten h⟩

end Rewrite

/-- A rollout of one family under the given names of its lists. -/
def sampleRollout (approved ready familyId : String) : Toml :=
  .table
    [(approved, .array [.string familyId]),
      (ready, .array [.string familyId])]

/-- A live document with an older source, and a rollout in each of its two places. -/
def sampleDocument (route legacy : List (String × Toml)) : Document :=
  [("runtime", .table [("mode", .string "live")]),
    ("strategies", .table [("neg_risk", .table route)]),
    ("negrisk", .table (("target_source", .table
      [("source", .string "adopted"), ("operator_target_revision", .string "targets-rev-8")]) ::
        legacy))]

theorem rewrite_keeps_rollout_iff_legacy :
    ∃ document'', rewriteOperatorStrategyRevision sampleReader "strategy-rev-9"
        (sampleDocument [] [("rollout", sampleRollout "approved_families" "ready_families"
          "family-a")]) = .ok document'' ∧
      configuredRevision sampleReader document'' = some "strategy-rev-9" ∧
      effectiveRollout sampleReader document'' =
        some { approved := ["family-a"], ready := ["family-a"] } := by
  obtain ⟨document'', h⟩ : ∃ document'', rewriteOperatorStrategyRevision sampleReader
      "strategy-rev-9" (sampleDocument [] [("rollout", sampleRollout "approved_families"
        "ready_families" "family-a")]) = .ok document'' := ⟨_, rfl⟩
  have hkept : RolloutKept sampleReader (sampleDocument [] [("rollout", sampleRollout
      "approved_families" "ready_families" "family-a")]) := by
    refine ⟨nofun, nofun, fun rollout hrollout _ ↦ ?_⟩
    cases hrollout
    exact ⟨nofun, nofun⟩
  obtain ⟨hrevision, hrollout, -⟩ := (rewrite_keeps_rollout_iff h).mpr hkept
  exact ⟨document'', h, hrevision, hrollout⟩

/-- The rollout of the route is in effect, and the older one replaces it. -/
theorem rewrite_changes_rollout :
    ¬ ∀ reader revision document document'',
      rewriteOperatorStrategyRevision reader revision document = .ok document'' →
        configuredRevision reader document'' = some revision ∧
        effectiveRollout reader document'' = effectiveRollout reader document ∧
        rewriteOperatorStrategyRevision reader revision document'' = .ok document'' := by
  intro hall
  have hrollout := (hall sampleReader "strategy-rev-9"
    (sampleDocument [("rollout", sampleRollout "approved_scopes" "ready_scopes" "family-a")]
      [("rollout", sampleRollout "approved_families" "ready_families" "family-b")]) _ rfl).2.1
  have hnames : some (RolloutToml.mk ["family-b"] ["family-b"]) =
      some (RolloutToml.mk ["family-a"] ["family-a"]) := hrollout
  revert hnames
  decide

end AxiomArb.AppLive.TargetsConfigFile
