import AxiomArb.AppLive.DurableRecords
import AxiomArb.AppLive.SessionLookup
import AxiomArb.AppLive.TargetsConfigFile

/-!
# Enabling the smoke rollout

Apply offers to enable the rollout of the adopted families: it writes them to the rollout of the
configuration, trimmed, and evaluates the status again.  Status compares the families as they
are.  So the rollout covers them exactly if no family has blanks around its name
(`smokeRollout_covers_iff`), and otherwise apply asks the same question again.

## Honest boundary

* Files are not modelled: a rewrite that succeeds is written.
-/

namespace AxiomArb.AppLive.SmokeRollout

open ConfigSchema Library TargetsConfigFile

/-! ## The rewrite -/

def normalizeFamilyIds (familyIds : List String) : Except RewriteError (List String) := do
  familyIds.forM fun familyId ↦
    if (trim familyId).isEmpty then throw (.failed "smoke rollout family ids must be non-empty")
    else pure ⟨⟩
  let normalized : BTreeSet String := .ofList (familyIds.map trim)
  if normalized.isEmpty then throw (.failed "smoke rollout requires at least one family id")
  else return normalized.toList

def familyArray (familyIds : List String) : Toml := .array (familyIds.map .string)

/-- Write both lists of a rollout. -/
def insertFamilies (approved ready : String) (familyIds : List String)
    (rollout : List (String × Toml)) : List (String × Toml) :=
  insertEntry ready (familyArray familyIds) (insertEntry approved (familyArray familyIds) rollout)

/-- The rollout that the route owns. -/
def insertRouteFamilies (familyIds : List String) (document : Document) :
    Except RewriteError Document := do
  let strategies ← expectTable "[strategies] should be a table" (document.lookup "strategies")
  let negRisk ← expectTable "[strategies.neg_risk] should be a table" (strategies.lookup "neg_risk")
  let rollout ← expectTable "[strategies.neg_risk.rollout] should be a table"
    (negRisk.lookup "rollout")
  let rollout := insertFamilies "approved_scopes" "ready_scopes" familyIds rollout
  let negRisk := insertEntry "rollout" (.table rollout) negRisk
  return insertEntry "strategies" (.table (insertEntry "neg_risk" (.table negRisk) strategies))
    document

/-- The older rollout; an index into what is no table fails. -/
def insertNegRiskFamilies (familyIds : List String) (document : Document) :
    Except RewriteError Document := do
  let negrisk ← expectTable "index not found" (document.lookup "negrisk")
  let rollout ← expectTable "index not found" (negrisk.lookup "rollout")
  let rollout := insertFamilies "approved_families" "ready_families" familyIds rollout
  return insertEntry "negrisk" (.table (insertEntry "rollout" (.table rollout) negrisk)) document

/-- The rollout is written to the route. -/
def useRouteOwnedRollout {reader : ConfigReader} (raw : RawAxiomConfig reader) : Bool :=
  raw.strategyControl.isSome || raw.routeRollout.isSome

def rewriteSmokeRolloutFamilies (reader : ConfigReader) (familyIds : List String)
    (document : Document) : Except RewriteError Document := do
  let raw ← (ConfigSchema.loadValidatedConfig reader document).mapError .failed
  let familyIds ← normalizeFamilyIds familyIds
  if useRouteOwnedRollout raw then
    let document ← insertRouteFamilies familyIds document
    let raw ← (ConfigSchema.loadValidatedConfig reader document).mapError .failed
    match raw.routeRollout with
    | none => throw (.failed
        "config validation error: missing required section: strategies.neg_risk.rollout")
    | some rollout =>
        if rollout ≠ { approved := familyIds, ready := familyIds } then
          throw (.failed
            "config validation error: rewritten smoke rollout families did not persist")
        else return document
  else if raw.targetSource.isNone then
    throw (.failed "config validation error: missing required section: negrisk.target_source")
  else
    let document ← insertNegRiskFamilies familyIds document
    let raw ← (ConfigSchema.loadValidatedConfig reader document).mapError .failed
    match raw.negrisk.bind NegRiskToml.rollout with
    | none => throw (.failed "config validation error: missing required section: negrisk.rollout")
    | some rollout =>
        if rollout ≠ { approved := familyIds, ready := familyIds } then
          throw (.failed
            "config validation error: rewritten smoke rollout families did not persist")
        else return document

/-! ## Families -/

section Families

variable {familyIds : List String} {normalized : List String}

/-- The trimmed names, each once and in order. -/
theorem eq_of_normalizeFamilyIds (h : normalizeFamilyIds familyIds = .ok normalized) :
    normalized = (Std.ExtTreeSet.ofList (familyIds.map trim) compare).toList := by
  obtain ⟨-, -, h⟩ := bind_eq_ok.mp h
  dsimp only at h
  split_ifs at h
  exact (Except.ok.inj h).symm

theorem mem_normalized (h : normalizeFamilyIds familyIds = .ok normalized) {familyId : String} :
    familyId ∈ normalized ↔ ∃ familyId' ∈ familyIds, trim familyId' = familyId := by
  rw [eq_of_normalizeFamilyIds h, Std.ExtTreeSet.mem_toList, Std.ExtTreeSet.mem_ofList,
    List.contains_iff_mem, List.mem_map]

/-- The families are among the trimmed ones exactly if they are trimmed. -/
theorem forall_mem_normalized_iff (h : normalizeFamilyIds familyIds = .ok normalized) :
    (∀ familyId ∈ familyIds, familyId ∈ normalized) ↔
      ∀ familyId ∈ familyIds, trim familyId = familyId := by
  refine forall₂_congr fun familyId hfamily ↦ ?_
  rw [mem_normalized h]
  constructor
  · rintro ⟨familyId', -, rfl⟩
    exact trim_trim familyId'
  · intro htrimmed
    exact ⟨familyId, hfamily, htrimmed⟩

end Families

/-! ## The rewritten document -/

section Rewrite

variable {reader : ConfigReader} {familyIds : List String} {document document' : Document}
  {raw raw' : RawAxiomConfig reader} {rollout : List (String × Toml)}

theorem insertFamilies_eq_self {approved ready : String}
    (happroved : rollout.lookup approved = some (familyArray familyIds))
    (hready : rollout.lookup ready = some (familyArray familyIds)) :
    insertFamilies approved ready familyIds rollout = rollout := by
  rw [insertFamilies, insertEntry_eq_self happroved, insertEntry_eq_self hready]

/-- The families are in the rollout of the route. -/
structure InRoute (familyIds : List String) (document : Document) : Prop where
  tables : ∃ strategies negRisk rollout,
    document.lookup "strategies" = some (.table strategies) ∧
    strategies.lookup "neg_risk" = some (.table negRisk) ∧
    negRisk.lookup "rollout" = some (.table rollout) ∧
    rollout.lookup "approved_scopes" = some (familyArray familyIds) ∧
    rollout.lookup "ready_scopes" = some (familyArray familyIds)

/-- The families are in the older rollout. -/
structure InNegRisk (familyIds : List String) (document : Document) : Prop where
  tables : ∃ negrisk rollout,
    document.lookup "negrisk" = some (.table negrisk) ∧
    negrisk.lookup "rollout" = some (.table rollout) ∧
    rollout.lookup "approved_families" = some (familyArray familyIds) ∧
    rollout.lookup "ready_families" = some (familyArray familyIds)

theorem insertRouteFamilies_cases (h : insertRouteFamilies familyIds document = .ok document') :
    InRoute familyIds document' ∧
      ∀ key, key ≠ "strategies" → document'.lookup key = document.lookup key := by
  obtain ⟨strategies, -, h⟩ := bind_eq_ok.mp h
  obtain ⟨negRisk, -, h⟩ := bind_eq_ok.mp h
  obtain ⟨rollout, -, h⟩ := bind_eq_ok.mp h
  obtain rfl := Except.ok.inj h
  refine ⟨⟨_, _, _, lookup_insertEntry_self, lookup_insertEntry_self, lookup_insertEntry_self, ?_,
    lookup_insertEntry_self⟩, fun key hkey ↦ lookup_insertEntry_of_ne hkey⟩
  rw [insertFamilies, lookup_insertEntry_of_ne (by decide), lookup_insertEntry_self]

theorem insertRouteFamilies_eq_self (h : InRoute familyIds document) :
    insertRouteFamilies familyIds document = .ok document := by
  obtain ⟨strategies, negRisk, rollout, hstrategies, hnegRisk, hrollout, happroved, hready⟩ :=
    h.tables
  rw [insertRouteFamilies, hstrategies]
  show (expectTable _ (strategies.lookup "neg_risk") >>= _) = _
  rw [hnegRisk]
  show (expectTable _ (negRisk.lookup "rollout") >>= _) = _
  rw [hrollout]
  show Except.ok _ = _
  rw [insertFamilies_eq_self happroved hready, insertEntry_eq_self hrollout,
    insertEntry_eq_self hnegRisk, insertEntry_eq_self hstrategies]

theorem insertNegRiskFamilies_cases
    (h : insertNegRiskFamilies familyIds document = .ok document') :
    InNegRisk familyIds document' ∧
      (∀ key, key ≠ "negrisk" → document'.lookup key = document.lookup key) ∧
      ∃ negrisk negrisk', (document.lookup "negrisk" = none ∧ negrisk = [] ∨
          document.lookup "negrisk" = some (.table negrisk)) ∧
        document'.lookup "negrisk" = some (.table negrisk') ∧
        ∀ key, key ≠ "rollout" → negrisk'.lookup key = negrisk.lookup key := by
  obtain ⟨negrisk, hnegrisk, h⟩ := bind_eq_ok.mp h
  obtain ⟨rollout, -, h⟩ := bind_eq_ok.mp h
  obtain rfl := Except.ok.inj h
  refine ⟨⟨_, _, lookup_insertEntry_self, lookup_insertEntry_self, ?_, lookup_insertEntry_self⟩,
    fun key hkey ↦ lookup_insertEntry_of_ne hkey, negrisk, _, ?_, lookup_insertEntry_self,
    fun key hkey ↦ lookup_insertEntry_of_ne hkey⟩
  · rw [insertFamilies, lookup_insertEntry_of_ne (by decide), lookup_insertEntry_self]
  · rw [expectTable.eq_def] at hnegrisk
    split at hnegrisk
    · rename_i hnone
      exact .inl ⟨hnone, (Except.ok.inj hnegrisk).symm⟩
    · rename_i entries hsome
      obtain rfl := Except.ok.inj hnegrisk
      exact .inr hsome
    · cases hnegrisk

theorem insertNegRiskFamilies_eq_self (h : InNegRisk familyIds document) :
    insertNegRiskFamilies familyIds document = .ok document := by
  obtain ⟨negrisk, rollout, hnegrisk, hrollout, happroved, hready⟩ := h.tables
  rw [insertNegRiskFamilies, hnegrisk]
  show (expectTable _ (negrisk.lookup "rollout") >>= _) = _
  rw [hrollout]
  show Except.ok _ = _
  rw [insertFamilies_eq_self happroved hready, insertEntry_eq_self hrollout,
    insertEntry_eq_self hnegrisk]

/-- What a rewrite that succeeds has found and written. -/
inductive Rewritten (reader : ConfigReader) (familyIds : List String) (document document' : Document)
    (raw raw' : RawAxiomConfig reader) : Prop where
  | route (huse : useRouteOwnedRollout raw)
      (hinsert : insertRouteFamilies familyIds document = .ok document')
      (hrollout : raw'.routeRollout = some { approved := familyIds, ready := familyIds })
  | negRisk (huse : ¬ useRouteOwnedRollout raw) (hsource : ¬ raw.targetSource.isNone)
      (hinsert : insertNegRiskFamilies familyIds document = .ok document')
      (hrollout : raw'.negrisk.bind NegRiskToml.rollout =
        some { approved := familyIds, ready := familyIds })

theorem smokeRewrite_eq_ok_iff :
    rewriteSmokeRolloutFamilies reader familyIds document = .ok document' ↔
      ∃ raw raw' normalized, ConfigSchema.loadValidatedConfig reader document = .ok raw ∧
        normalizeFamilyIds familyIds = .ok normalized ∧
        ConfigSchema.loadValidatedConfig reader document' = .ok raw' ∧
        Rewritten reader normalized document document' raw raw' := by
  simp only [rewriteSmokeRolloutFamilies, bind_eq_ok, mapError_eq_ok_iff]
  constructor
  · rintro ⟨raw, hload, normalized, hnormalized, h⟩
    split_ifs at h with huse hsource
    · obtain ⟨written, hinsert, h⟩ := bind_eq_ok.mp h
      obtain ⟨raw', hload', h⟩ := bind_eq_ok.mp h
      split at h
      · cases h
      · rename_i rollout hrollout
        split_ifs at h with hsame
        obtain rfl := Except.ok.inj h
        exact ⟨raw, raw', normalized, hload, hnormalized, mapError_eq_ok_iff.mp hload',
          .route huse hinsert (hrollout.trans (congrArg some (not_not.mp hsame)))⟩
    · obtain ⟨written, hinsert, h⟩ := bind_eq_ok.mp h
      obtain ⟨raw', hload', h⟩ := bind_eq_ok.mp h
      split at h
      · cases h
      · rename_i rollout hrollout
        split_ifs at h with hsame
        obtain rfl := Except.ok.inj h
        exact ⟨raw, raw', normalized, hload, hnormalized, mapError_eq_ok_iff.mp hload',
          .negRisk huse hsource hinsert
            (hrollout.trans (congrArg some (not_not.mp hsame)))⟩
  · rintro ⟨raw, raw', normalized, hload, hnormalized, hload', hrewritten⟩
    refine ⟨raw, hload, normalized, hnormalized, ?_⟩
    rcases hrewritten with ⟨huse, hinsert, hrollout⟩ | ⟨huse, hsource, hinsert, hrollout⟩
    · rw [if_pos huse]
      refine bind_eq_ok.mpr ⟨document', hinsert, bind_eq_ok.mpr ⟨raw', mapError_eq_ok_iff.mpr hload', ?_⟩⟩
      rw [hrollout]
      exact if_neg (not_not.mpr rfl)
    · rw [if_neg huse, if_neg hsource]
      refine bind_eq_ok.mpr ⟨document', hinsert, bind_eq_ok.mpr ⟨raw', mapError_eq_ok_iff.mpr hload', ?_⟩⟩
      rw [hrollout]
      exact if_neg (not_not.mpr rfl)

theorem runtime_of_load (h : ConfigSchema.loadValidatedConfig reader document = .ok raw) :
    (document.lookup "runtime").bind readRuntime = some raw.runtime ∧
      readOptional reader.readPolymarket (document.lookup "polymarket") = some raw.polymarket := by
  have hload : loadRawConfig reader document = .ok raw := by
    obtain ⟨loaded, hload, hvalid⟩ := bind_eq_ok.mp h
    obtain ⟨-, -, hpure⟩ := bind_eq_ok.mp hvalid
    exact hload.trans hpure
  rw [loadRawConfig] at hload
  split_ifs at hload
  split at hload
  · cases hload
  · rename_i loaded hread
    obtain rfl := Except.ok.inj hload
    simp only [RawAxiomConfig.read, Option.bind_eq_bind, Option.bind_eq_some_iff] at hread
    obtain ⟨runtime, hlookup, _, hruntime, _, -, _, -, polymarket, hpolymarket, _, -, hraw⟩ := hread
    obtain rfl := Option.some.inj hraw
    exact ⟨Option.bind_eq_some_iff.mpr ⟨runtime, hlookup, hruntime⟩, hpolymarket⟩

/-- The sections that a rewrite leaves alone, and the rollout in effect. -/
theorem Rewritten.frame (h : Rewritten reader familyIds document document' raw raw')
    (hload : ConfigSchema.loadValidatedConfig reader document = .ok raw)
    (hload' : ConfigSchema.loadValidatedConfig reader document' = .ok raw') :
    raw'.runtime = raw.runtime ∧ raw'.strategyControl = raw.strategyControl ∧
      raw'.polymarket = raw.polymarket ∧ raw'.targetSource = raw.targetSource ∧
      raw'.negrisk.bind NegRiskToml.targets = raw.negrisk.bind NegRiskToml.targets ∧
      raw'.negriskRollout = some { approved := familyIds, ready := familyIds } := by
  obtain ⟨hcontrol, hstrategies, hnegrisk⟩ := read_of_load hload
  obtain ⟨hcontrol', hstrategies', hnegrisk'⟩ := read_of_load hload'
  obtain ⟨hruntime, hpolymarket⟩ := runtime_of_load hload
  obtain ⟨hruntime', hpolymarket'⟩ := runtime_of_load hload'
  rcases h with ⟨-, hinsert, hrollout⟩ | ⟨huse, hsource, hinsert, hrollout⟩
  · obtain ⟨-, hsame⟩ := insertRouteFamilies_cases hinsert
    rw [hsame _ (by decide), hruntime] at hruntime'
    rw [hsame _ (by decide), hpolymarket] at hpolymarket'
    rw [hsame _ (by decide), hcontrol] at hcontrol'
    rw [hsame _ (by decide), hnegrisk] at hnegrisk'
    rw [RawAxiomConfig.targetSource, RawAxiomConfig.targetSource, RawAxiomConfig.negriskRollout,
      hrollout, ← Option.some.inj hnegrisk']
    exact ⟨(Option.some.inj hruntime').symm, (Option.some.inj hcontrol').symm,
      (Option.some.inj hpolymarket').symm, rfl, rfl, rfl⟩
  · obtain ⟨-, hsame, negrisk, negrisk', hbefore, hafter, hrest⟩ := insertNegRiskFamilies_cases hinsert
    rw [hsame _ (by decide), hruntime] at hruntime'
    rw [hsame _ (by decide), hpolymarket] at hpolymarket'
    rw [hsame _ (by decide), hcontrol] at hcontrol'
    rw [hsame _ (by decide), hstrategies] at hstrategies'
    have hroute : raw'.routeRollout = none := by
      rw [RawAxiomConfig.routeRollout, ← Option.some.inj hstrategies']
      rw [useRouteOwnedRollout, Bool.or_eq_true, not_or] at huse
      exact Option.not_isSome_iff_eq_none.mp huse.2
    rw [hafter] at hnegrisk'
    obtain ⟨readNegrisk', hread', hsome'⟩ := Option.map_eq_some_iff.mp hnegrisk'
    obtain ⟨hsource', -, htargets'⟩ := readNegRisk_table hread'
    rw [hrest _ (by decide)] at hsource' htargets'
    have hsections : raw'.targetSource = raw.targetSource ∧
        raw'.negrisk.bind NegRiskToml.targets = raw.negrisk.bind NegRiskToml.targets := by
      rw [RawAxiomConfig.targetSource, RawAxiomConfig.targetSource, ← hsome']
      rcases hbefore with ⟨hnone, rfl⟩ | htable
      · rw [hnone] at hnegrisk
        rw [← Option.some.inj hnegrisk]
        exact ⟨(Option.some.inj hsource').symm, (Option.some.inj htargets').symm⟩
      · rw [htable] at hnegrisk
        obtain ⟨readNegrisk, hread, hsome⟩ := Option.map_eq_some_iff.mp hnegrisk
        obtain ⟨hsource, -, htargets⟩ := readNegRisk_table hread
        rw [← hsome, Option.bind_some, Option.bind_some, Option.bind_some, Option.bind_some]
        exact ⟨Option.some.inj (hsource'.symm.trans hsource),
          Option.some.inj (htargets'.symm.trans htargets)⟩
    rw [RawAxiomConfig.negriskRollout, hroute]
    exact ⟨(Option.some.inj hruntime').symm, (Option.some.inj hcontrol').symm,
      (Option.some.inj hpolymarket').symm, hsections.1, hsections.2, hrollout⟩

/-- A rewritten document is rewritten to itself. -/
theorem Rewritten.again (h : Rewritten reader familyIds document document' raw raw')
    (hload : ConfigSchema.loadValidatedConfig reader document = .ok raw)
    (hload' : ConfigSchema.loadValidatedConfig reader document' = .ok raw') :
    Rewritten reader familyIds document' document' raw' raw' := by
  obtain ⟨-, hcontrol, -, htargetSource, -, -⟩ := h.frame hload hload'
  rcases h with ⟨-, hinsert, hrollout⟩ | ⟨huse, hsource, hinsert, hrollout⟩
  · refine .route ?_ (insertRouteFamilies_eq_self (insertRouteFamilies_cases hinsert).1) hrollout
    rw [useRouteOwnedRollout, hrollout, Option.isSome_some, Bool.or_true]
  · obtain ⟨hin, hsame, -⟩ := insertNegRiskFamilies_cases hinsert
    have hstrategies := (read_of_load hload').2.1
    rw [hsame _ (by decide), (read_of_load hload).2.1] at hstrategies
    refine .negRisk ?_ (htargetSource ▸ hsource) (insertNegRiskFamilies_eq_self hin) hrollout
    rw [useRouteOwnedRollout, hcontrol, RawAxiomConfig.routeRollout, ← Option.some.inj hstrategies]
    exact huse

/-- A rollout that covers a set of families, as status sees it. -/
theorem rolloutCoversFamilies_iff {families : BTreeSet String} {rollout : RolloutToml}
    (h : raw.negriskRollout = some rollout) :
    rolloutCoversFamilies raw families = true ↔
      ∀ familyId ∈ families.toList, familyId ∈ rollout.approved ∧ familyId ∈ rollout.ready := by
  rw [rolloutCoversFamilies, h]
  simp

/-- When the rollout of the adopted families has been enabled, status finds them covered exactly if
every name is trimmed; what else it reads of the configuration is as before, and enabling the
rollout again changes nothing. -/
theorem smokeRollout_covers_iff {families : BTreeSet String}
    (h : rewriteSmokeRolloutFamilies reader families.toList document = .ok document') :
    ∃ raw raw', ConfigSchema.loadValidatedConfig reader document = .ok raw ∧
      ConfigSchema.loadValidatedConfig reader document' = .ok raw' ∧
      (rolloutCoversFamilies raw' families = true ↔
        ∀ familyId ∈ families, trim familyId = familyId) ∧
      raw'.runtime = raw.runtime ∧ raw'.strategyControl = raw.strategyControl ∧
      raw'.polymarket = raw.polymarket ∧ raw'.targetSource = raw.targetSource ∧
      raw'.negrisk.bind NegRiskToml.targets = raw.negrisk.bind NegRiskToml.targets ∧
      rewriteSmokeRolloutFamilies reader families.toList document' = .ok document' := by
  obtain ⟨raw, raw', normalized, hload, hnormalized, hload', hrewritten⟩ :=
    smokeRewrite_eq_ok_iff.mp h
  obtain ⟨hruntime, hcontrol, hpolymarket, hsource, htargets, hrollout⟩ :=
    hrewritten.frame hload hload'
  refine ⟨raw, raw', hload, hload', ?_, hruntime, hcontrol, hpolymarket, hsource, htargets,
    smokeRewrite_eq_ok_iff.mpr
      ⟨raw', raw', normalized, hload', hnormalized, hload', hrewritten.again hload hload'⟩⟩
  rw [rolloutCoversFamilies_iff hrollout]
  simp only [and_self]
  rw [forall_mem_normalized_iff hnormalized]
  simp only [Std.ExtTreeSet.mem_toList]

end Rewrite

/-- A smoke configuration with an adopted revision and no rollout. -/
def adoptedDocument : Document :=
  [("runtime", .table [("mode", .string "live"), ("real_user_shadow_smoke", .boolean true)]),
    ("strategy_control", .table
      [("source", .string "adopted"), ("operator_strategy_revision", .string "strategy-rev-12")])]

/-- A family with a blank before its name is not covered by its own rollout. -/
theorem smokeRollout_covers_iff_padded : ∃ document' raw',
    rewriteSmokeRolloutFamilies sampleReader (sampleFamilies [" family-a"]).toList
      adoptedDocument = .ok document' ∧
    ConfigSchema.loadValidatedConfig sampleReader document' = .ok raw' ∧
    rolloutCoversFamilies raw' (sampleFamilies [" family-a"]) = false := by
  obtain ⟨document', h⟩ : ∃ document', rewriteSmokeRolloutFamilies sampleReader
      (sampleFamilies [" family-a"]).toList adoptedDocument = .ok document' := ⟨_, rfl⟩
  obtain ⟨-, raw', -, hload', hcovers, -⟩ := smokeRollout_covers_iff h
  refine ⟨document', raw', h, hload', Bool.eq_false_iff.mpr fun htrue ↦ ?_⟩
  have hmem : " family-a" ∈ sampleFamilies [" family-a"] := by simp [sampleFamilies]
  exact absurd (hcovers.mp htrue " family-a" hmem) (by decide)

end AxiomArb.AppLive.SmokeRollout
