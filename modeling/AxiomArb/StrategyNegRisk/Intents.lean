import AxiomArb.Library.Delimited
import AxiomArb.Library.Slices
import AxiomArb.Library.StableSort
import AxiomArb.Library.Unordered
import AxiomArb.Risk.Activation
import AxiomArb.State.Snapshot
import Mathlib.Data.List.Destutter

/-!
# Intents

The strategies turn a published view into intents.  The neg-risk strategy has one for each family,
whatever the order and the repetitions of the rows are (`buildIntents_eq_iff`), and an id is enough
to tell intents apart (`intentId_eq_iff`).  The risk gate judges a family by its first row, and a
whole view by its first family (`evaluateNegriskIntent_agrees_iff`).
-/

namespace AxiomArb.Domain

open Library

/-- Both strategies name an intent after what it is about. -/
def stableIntentId (route scope snapshotId : String) (stateVersion : Nat) : String :=
  s!"{route}:{scope}:{snapshotId}:{stateVersion}"

/-- The version ends an id, and its digits hold no colon. -/
theorem stableIntentId_inj {route scope scope' snapshotId snapshotId' : String}
    {version version' : Nat} :
    stableIntentId route scope snapshotId version =
        stableIntentId route scope' snapshotId' version' ↔
      scope ++ ":" ++ snapshotId = scope' ++ ":" ++ snapshotId' ∧ version = version' := by
  have hdigits : ∀ version : Nat, ':' ∉ (toString version).toList := fun version ↦ by
    rw [Nat.toString_eq_ofList_toDigits, String.toList_ofList]
    exact notMem_toDigits (by decide) version
  have htext : ∀ (scope snapshotId : String) (version : Nat),
      (stableIntentId route scope snapshotId version).toList =
        (route ++ ":" ++ (scope ++ ":" ++ snapshotId)).toList ++
          ':' :: (toString version).toList := by
    intro scope snapshotId version
    have hid : stableIntentId route scope snapshotId version =
        route ++ ":" ++ scope ++ ":" ++ snapshotId ++ ":" ++ toString version := rfl
    rw [hid]
    simp
  constructor
  · intro h
    have hlist := congrArg String.toList h
    rw [htext, htext] at hlist
    obtain ⟨hbody, hversion⟩ :=
      append_last_separator_inj (hdigits version) (hdigits version') hlist
    have hversion := congrArg parseUnsigned (String.toList_injective hversion)
    rw [parseUnsigned_toString, parseUnsigned_toString, Option.some_inj] at hversion
    refine ⟨?_, hversion⟩
    have hbody := String.toList_injective hbody
    rw [← String.toList_inj] at hbody ⊢
    simpa using hbody
  · rintro ⟨hbody, rfl⟩
    rw [← String.toList_inj, htext, htext, hbody]

end AxiomArb.Domain

namespace AxiomArb.StrategyFullset

open Domain State

def buildIntents (view : FullSetView) : List DecisionInput :=
  let scope := "default"
  [.strategy
    { intentId := stableIntentId "full-set" scope view.snapshotId view.stateVersion
      sourceSnapshotId := view.snapshotId
      route := "full-set"
      scope }]

/-- The one intent of a view tells its snapshot and its version. -/
theorem sole_intent_eq_iff {view view' : FullSetView} :
    buildIntents view = buildIntents view' ↔
      view.snapshotId = view'.snapshotId ∧ view.stateVersion = view'.stateVersion := by
  simp only [buildIntents, List.cons.injEq, and_true, DecisionInput.strategy.injEq,
    IntentCandidate.mk.injEq, stableIntentId_inj]
  constructor
  · rintro ⟨⟨-, hversion⟩, hsnapshot⟩
    exact ⟨hsnapshot, hversion⟩
  · rintro ⟨hsnapshot, hversion⟩
    exact ⟨⟨by rw [hsnapshot], hversion⟩, hsnapshot⟩

end AxiomArb.StrategyFullset

namespace AxiomArb.StrategyNegRisk

open Domain Library State Std

/-! ## The intents of a view -/

def intentOf (view : NegRiskView) (familyId : String) : IntentCandidate :=
  { intentId := stableIntentId "neg-risk" familyId view.snapshotId view.stateVersion
    sourceSnapshotId := view.snapshotId
    route := "neg-risk"
    scope := familyId }

/-- The families of a view, sorted and without repetitions. -/
def scopes (view : NegRiskView) : List String :=
  (sortByKey id view.familyIds).destutter (· ≠ ·)

def buildIntents (view : NegRiskView) : List DecisionInput :=
  if view.familyIds.isEmpty then
    []
  else
    (scopes view).map fun familyId ↦ .strategy (intentOf view familyId)

variable {view view' : NegRiskView} {familyId familyId' : String} {intent intent' : IntentCandidate}

/-- The early return makes no difference. -/
theorem buildIntents_eq (view : NegRiskView) :
    buildIntents view = (scopes view).map fun familyId ↦ .strategy (intentOf view familyId) := by
  unfold buildIntents
  split
  · rename_i hempty
    rw [List.isEmpty_iff] at hempty
    simp [scopes, hempty, sortByKey]
  · rfl

theorem sorted_scopes (view : NegRiskView) :
    (scopes view).Pairwise fun familyId familyId' ↦ (compare familyId familyId').isLE :=
  (pairwise_sortByKey id view.familyIds).sublist (List.destutter_sublist _ _)

/-- Of a sorted list no item is left behind once its repetitions are dropped. -/
theorem scopes_eq_dedup (view : NegRiskView) :
    scopes view = (sortByKey id view.familyIds).dedup := by
  have : Std.Antisymm fun familyId familyId' : String ↦
      (compare (id familyId) (id familyId')).isLE = true :=
    ⟨fun _ _ hle hge ↦ LawfulEqCmp.eq_of_compare (OrientedCmp.isLE_antisymm hle hge)⟩
  exact (pairwise_sortByKey id view.familyIds).destutter_eq_dedup

theorem mem_scopes : familyId ∈ scopes view ↔ familyId ∈ view.familyIds := by
  rw [scopes_eq_dedup, List.mem_dedup, mem_sortByKey]

theorem nodup_scopes (view : NegRiskView) : (scopes view).Nodup := by
  rw [scopes_eq_dedup]
  exact List.nodup_dedup _

theorem scopes_eq_iff :
    scopes view = scopes view' ↔
      ∀ familyId, familyId ∈ view.familyIds ↔ familyId ∈ view'.familyIds := by
  constructor
  · intro h familyId
    rw [← mem_scopes, h, mem_scopes]
  · intro h
    refine eq_of_perm_of_sorted (sorted_scopes view) (sorted_scopes view') ?_
    refine (List.perm_ext_iff_of_nodup (nodup_scopes view) (nodup_scopes view')).mpr ?_
    intro familyId
    rw [mem_scopes, h, mem_scopes]

theorem mem_buildIntents :
    .strategy intent ∈ buildIntents view ↔
      ∃ familyId ∈ view.familyIds, intent = intentOf view familyId := by
  simp only [buildIntents_eq, List.mem_map, DecisionInput.strategy.injEq, mem_scopes, eq_comm]

/-- Where no snapshot id has a colon, intents of any two views that have the same id are the same,
and so are the versions of the views. -/
theorem intentId_eq_iff (hcolon : ':' ∉ view.snapshotId.toList)
    (hcolon' : ':' ∉ view'.snapshotId.toList)
    (h : .strategy intent ∈ buildIntents view) (h' : .strategy intent' ∈ buildIntents view') :
    intent.intentId = intent'.intentId ↔
      intent = intent' ∧ view.stateVersion = view'.stateVersion := by
  obtain ⟨familyId, -, rfl⟩ := mem_buildIntents.mp h
  obtain ⟨familyId', -, rfl⟩ := mem_buildIntents.mp h'
  constructor
  · intro hid
    obtain ⟨hbody, hversion⟩ := stableIntentId_inj.mp hid
    have hlist := congrArg String.toList hbody
    simp only [String.toList_append, List.append_assoc] at hlist
    obtain ⟨hfamily, hsnapshot⟩ := append_last_separator_inj hcolon hcolon' hlist
    have hfamily := String.toList_injective hfamily
    have hsnapshot := String.toList_injective hsnapshot
    refine ⟨?_, hversion⟩
    simp only [intentOf, hfamily, hsnapshot, hversion]
  · rintro ⟨hintent, -⟩
    rw [hintent]

/-- A family of which there are two rows. -/
def sampleReadyView : NegRiskView :=
  { snapshotId := "snapshot-negrisk-2"
    stateVersion := 12
    families := ["family-b", "family-a", "family-b"].map fun familyId ↦
      { familyId, shadowParityReady := true, recoveryReady := true, replayDriftReady := true
        faultInjectionReady := true, conversionPathReady := true, haltSemanticsReady := true } }

theorem sampleReadyView_ids :
    (intentOf sampleReadyView "family-a").intentId ≠
      (intentOf sampleReadyView "family-b").intentId := fun hid ↦ by
  have hintent := ((intentId_eq_iff (by decide) (by decide)
    (mem_buildIntents.mpr ⟨"family-a", by decide, rfl⟩)
    (mem_buildIntents.mpr ⟨"family-b", by decide, rfl⟩)).mp hid).1
  exact absurd (congrArg IntentCandidate.scope hintent) (by decide)

/-- Views give the same intents exactly if they have the same families, and, if they have any, are
of one snapshot and one version. -/
theorem buildIntents_eq_iff (view view' : NegRiskView) :
    buildIntents view = buildIntents view' ↔
      (∀ familyId, familyId ∈ view.familyIds ↔ familyId ∈ view'.familyIds) ∧
      (view.familyIds = [] ∨
        view.snapshotId = view'.snapshotId ∧ view.stateVersion = view'.stateVersion) := by
  constructor
  · intro h
    have hfamilies : ∀ {view view' : NegRiskView}, buildIntents view = buildIntents view' →
        ∀ familyId ∈ view.familyIds, familyId ∈ view'.familyIds ∧
          intentOf view familyId = intentOf view' familyId := by
      intro view view' h familyId hfamily
      have hbuilt := mem_buildIntents.mpr ⟨familyId, hfamily, rfl⟩
      rw [h] at hbuilt
      obtain ⟨familyId', hfamily', hsame⟩ := mem_buildIntents.mp hbuilt
      obtain rfl : familyId = familyId' := congrArg IntentCandidate.scope hsame
      exact ⟨hfamily', hsame⟩
    refine ⟨fun familyId ↦ ⟨fun hfamily ↦ (hfamilies h familyId hfamily).1,
      fun hfamily ↦ (hfamilies h.symm familyId hfamily).1⟩, ?_⟩
    by_cases hnil : view.familyIds = []
    · exact .inl hnil
    · obtain ⟨familyId, hfamily⟩ := List.exists_mem_of_ne_nil _ hnil
      have hsame := (hfamilies h familyId hfamily).2
      refine .inr ⟨congrArg IntentCandidate.sourceSnapshotId hsame, ?_⟩
      exact (stableIntentId_inj.mp (congrArg IntentCandidate.intentId hsame)).2
  · rintro ⟨hfamilies, hview⟩
    rw [buildIntents_eq, buildIntents_eq, scopes_eq_iff.mpr hfamilies]
    refine List.map_congr_left fun familyId hfamily ↦ ?_
    rcases hview with hnil | ⟨hsnapshot, hversion⟩
    · rw [mem_scopes, ← hfamilies, hnil] at hfamily
      cases hfamily
    · simp only [intentOf, hsnapshot, hversion]

end AxiomArb.StrategyNegRisk

namespace AxiomArb.Risk

open Domain State StrategyNegRisk

/-! ## The gate -/

def liveReady (family : NegRiskFamilyRolloutReadiness) : Bool :=
  family.shadowParityReady && family.recoveryReady && family.replayDriftReady &&
    family.faultInjectionReady && family.conversionPathReady && family.haltSemanticsReady

def evaluateNegriskFamily (view : NegRiskView) (familyId : String) (mode : ExecutionMode) :
    DecisionVerdict :=
  if view.snapshotId.isEmpty then
    .rejected
  else
    match view.families.find? fun family ↦ family.familyId == familyId with
    | none => .rejected
    | some family =>
        match mode with
        | .shadow => .approved
        | .live => if liveReady family then .approved else .rejected
        | .disabled | .reduceOnly | .recoveryOnly => .rejected

def evaluateNegriskIntent (view : NegRiskView) (mode : ExecutionMode) : DecisionVerdict :=
  match view.familyIds.head? with
  | none => .rejected
  | some familyId => evaluateNegriskFamily view familyId mode

/-- The first row of the family is ready. -/
def familyReady (view : NegRiskView) (familyId : String) : Bool :=
  (view.families.find? fun family ↦ family.familyId == familyId).any liveReady

variable {view : NegRiskView} {familyId : String} {mode : ExecutionMode}

/-- The verdict on a family of the view. -/
theorem evaluateNegriskFamily_of_mem (h : familyId ∈ view.familyIds) :
    evaluateNegriskFamily view familyId mode =
      if view.snapshotId ≠ "" ∧ (mode = .shadow ∨ mode = .live ∧ familyReady view familyId) then
        .approved
      else
        .rejected := by
  obtain ⟨listed, hlisted, hnamed⟩ := List.mem_map.mp h
  have hfound : (view.families.find? fun family ↦ family.familyId == familyId).isSome :=
    List.find?_isSome.mpr ⟨listed, hlisted, beq_iff_eq.mpr hnamed⟩
  obtain ⟨family, hfamily⟩ := Option.isSome_iff_exists.mp hfound
  simp only [evaluateNegriskFamily, familyReady, hfamily, Option.any_some, String.isEmpty_iff]
  by_cases hsnapshot : view.snapshotId = ""
  · simp [hsnapshot]
  · cases mode <;> simp [hsnapshot]

/-- Asked about a view, the gate judges its first family. -/
theorem evaluateNegriskIntent_eq {familyIds : List String}
    (h : view.familyIds = familyId :: familyIds) :
    evaluateNegriskIntent view mode = evaluateNegriskFamily view familyId mode := by
  rw [evaluateNegriskIntent, h]
  rfl

/-- The verdict on a view is the verdict on every intent that is built from it exactly if the
families are all ready or none of them is, where readiness is asked for. -/
theorem evaluateNegriskIntent_agrees_iff (view : NegRiskView) (mode : ExecutionMode) :
    (∀ intent, .strategy intent ∈ buildIntents view →
        evaluateNegriskFamily view intent.scope mode = evaluateNegriskIntent view mode) ↔
      mode ≠ .live ∨ view.snapshotId = "" ∨
        (∀ familyId ∈ view.familyIds, familyReady view familyId) ∨
        ∀ familyId ∈ view.familyIds, ¬ familyReady view familyId := by
  have hbuilt : (∀ intent, .strategy intent ∈ buildIntents view →
        evaluateNegriskFamily view intent.scope mode = evaluateNegriskIntent view mode) ↔
      ∀ familyId ∈ view.familyIds,
        evaluateNegriskFamily view familyId mode = evaluateNegriskIntent view mode := by
    constructor
    · intro h familyId hfamily
      exact h _ (mem_buildIntents.mpr ⟨familyId, hfamily, rfl⟩)
    · intro h intent hintent
      obtain ⟨familyId, hfamily, rfl⟩ := mem_buildIntents.mp hintent
      exact h familyId hfamily
  rw [hbuilt]
  cases hfamilies : view.familyIds with
  | nil => simp
  | cons first others =>
      have hfirst : first ∈ view.familyIds := hfamilies ▸ List.mem_cons_self
      rw [evaluateNegriskIntent_eq hfamilies, ← hfamilies]
      have hverdicts : (∀ familyId ∈ view.familyIds,
            evaluateNegriskFamily view familyId mode = evaluateNegriskFamily view first mode) ↔
          ∀ familyId ∈ view.familyIds, mode = .live → view.snapshotId ≠ "" →
            (familyReady view familyId ↔ familyReady view first) := by
        refine forall₂_congr fun familyId hfamily ↦ ?_
        rw [evaluateNegriskFamily_of_mem hfamily, evaluateNegriskFamily_of_mem hfirst]
        by_cases hsnapshot : view.snapshotId = ""
        · simp [hsnapshot]
        · cases mode with
          | live =>
              cases familyReady view familyId <;> cases familyReady view first <;> simp [hsnapshot]
          | shadow | disabled | reduceOnly | recoveryOnly => simp
      rw [hverdicts]
      constructor
      · intro h
        by_cases hlive : mode = .live
        · by_cases hsnapshot : view.snapshotId = ""
          · exact .inr (.inl hsnapshot)
          · by_cases hready : familyReady view first
            · exact .inr (.inr (.inl fun familyId hfamily ↦
                (h familyId hfamily hlive hsnapshot).mpr hready))
            · exact .inr (.inr (.inr fun familyId hfamily hother ↦
                hready ((h familyId hfamily hlive hsnapshot).mp hother)))
        · exact .inl hlive
      · rintro (hother | hempty | hall | hnone) familyId hfamily hlive hsnapshot
        · exact absurd hlive hother
        · exact absurd hempty hsnapshot
        · exact iff_of_true (hall familyId hfamily) (hall first hfirst)
        · exact iff_of_false (hnone familyId hfamily) (hnone first hfirst)

end AxiomArb.Risk
