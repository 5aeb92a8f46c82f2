import AxiomArb.AppLive.Queues
import AxiomArb.Library.Framed
import AxiomArb.VenuePolymarket.Metadata

/-!
# The batch of a metadata refresh

The rows of a refresh are gathered by family.  Each family is observed once, under an event
id that its first row names, and each of its rows is a member of its target.  Rows that are
tied for the first place may name the family's event differently, and then the order of the
rows shows in the batch.
-/

namespace AxiomArb.AppLive

open Domain Library State Std VenuePolymarket

def InputTaskEvent.familyDiscoveryObserved (journalSeq : Int)
    (sourceSessionId sourceEventId familyId : String) (observedAt : DateTime) : InputTaskEvent :=
  { journalSeq
    event := .familyDiscoveryObserved sourceSessionId sourceEventId familyId observedAt
    hint := .none }

@[ext]
structure MetadataDiscoveryBatch where
  inputs : List InputTaskEvent
  renderedLiveTargets : BTreeMap String NegRiskFamilyLiveTarget

namespace MetadataTaskGroup

/-! ## The batch -/

def discoveryInput : Int → String → String → String → DateTime → InputTaskEvent :=
  InputTaskEvent.familyDiscoveryObserved

/-- Rows of a family are sorted by this key. -/
def rowKey (row : NegRiskMarketMetadata) : List String := [row.conditionId, row.tokenId]

def discoveryEventId (anchor : NegRiskMarketMetadata) (familyId : String) : String :=
  s!"metadata-{anchor.metadataSnapshotHash}-{familyId}-discovery"

theorem livePrice_magnitude_lt : 43 < 2 ^ 96 := by decide

theorem livePrice_scale_le : 2 ≤ 28 := by decide

theorem liveQuantity_magnitude_lt : 5 < 2 ^ 96 := by decide

def liveMember (row : NegRiskMarketMetadata) : NegRiskMemberLiveTarget :=
  { conditionId := row.conditionId
    tokenId := row.tokenId
    price :=
      { negative := false, magnitude := 43, scale := 2
        magnitude_lt := livePrice_magnitude_lt, scale_le := livePrice_scale_le }
    quantity := { ScaledDecimal.zero with magnitude := 5, magnitude_lt := liveQuantity_magnitude_lt } }

/-- The target of a family, its members in the order of their rows. -/
def familyTarget (familyId : String) (rows : List NegRiskMarketMetadata) : NegRiskFamilyLiveTarget :=
  { familyId, members := (sortByKey rowKey rows).map liveMember }

section Batch

variable (sourceSessionId : String) (observedAt : DateTime)

/-- Observe a family and render its target; no family is without rows. -/
def addFamily (progress : MetadataDiscoveryBatch × Int)
    (grouped : String × List NegRiskMarketMetadata) : MetadataDiscoveryBatch × Int :=
  let (batch, journalSeq) := progress
  let (familyId, rows) := grouped
  match (sortByKey rowKey rows).head? with
  | none => progress
  | some anchor =>
      ({ inputs := batch.inputs ++ [discoveryInput journalSeq sourceSessionId
            (discoveryEventId anchor familyId) familyId observedAt]
         renderedLiveTargets :=
            batch.renderedLiveTargets.insert familyId (familyTarget familyId rows) },
        journalSeq + 1)

def authoritativeDiscoveryBatch (rows : List NegRiskMarketMetadata) : MetadataDiscoveryBatch :=
  let grouped := BTreeMap.groupBy NegRiskMarketMetadata.eventFamilyId rows
  (grouped.toList.foldl (addFamily sourceSessionId observedAt)
    ({ inputs := [], renderedLiveTargets := ∅ }, 1)).1

end Batch

/-! ## Targets -/

variable {sourceSessionId : String} {observedAt : DateTime} {rows rows' : List NegRiskMarketMetadata}
  {familyId : String}

/-- The rows of a family. -/
def rowsOf (rows : List NegRiskMarketMetadata) (familyId : String) : List NegRiskMarketMetadata :=
  rows.filter fun row ↦ row.eventFamilyId = familyId

theorem mem_rowsOf {row : NegRiskMarketMetadata} :
    row ∈ rowsOf rows familyId ↔ row ∈ rows ∧ row.eventFamilyId = familyId := by
  rw [rowsOf, List.mem_filter, decide_eq_true_eq]

theorem lookup_grouped (rows : List NegRiskMarketMetadata) (familyId : String) :
    (BTreeMap.groupBy NegRiskMarketMetadata.eventFamilyId rows)[familyId]? =
      if rowsOf rows familyId = [] then none else some (rowsOf rows familyId) :=
  BTreeMap.lookup_groupBy _ _ _

theorem lookup_foldl_addFamily {grouped : List (String × List NegRiskMarketMetadata)}
    (hrows : ∀ group ∈ grouped, group.2 ≠ []) (progress : MetadataDiscoveryBatch × Int) :
    (grouped.foldl (addFamily sourceSessionId observedAt) progress).1.renderedLiveTargets[familyId]? =
      ((BTreeMap.lastOf Prod.fst grouped familyId).map fun group ↦
        familyTarget familyId group.2).or progress.1.renderedLiveTargets[familyId]? := by
  induction grouped using List.reverseRecOn with
  | nil => rfl
  | append_singleton grouped group ih =>
      obtain ⟨groupId, groupRows⟩ := group
      have ih := ih fun group hgroup ↦ hrows group (List.mem_append_left _ hgroup)
      have hgroup : groupRows ≠ [] := hrows (groupId, groupRows) (by simp)
      obtain ⟨anchor, hanchor⟩ := exists_head?_sortByKey rowKey hgroup
      rw [List.foldl_append, List.foldl_cons, List.foldl_nil, addFamily]
      simp only [hanchor]
      rw [BTreeMap.lookup_insert, ih, BTreeMap.lastOf, BTreeMap.lastOf, List.filter_append]
      by_cases h : groupId = familyId
      · simp [h]
      · simp [h]

theorem ne_nil_of_mem_grouped {group : String × List NegRiskMarketMetadata}
    (h : group ∈ (BTreeMap.groupBy NegRiskMarketMetadata.eventFamilyId rows).toList) :
    group.2 ≠ [] := by
  have hlookup := ExtTreeMap.mem_toList_iff_getElem?_eq_some.mp h
  rw [lookup_grouped] at hlookup
  split at hlookup
  · cases hlookup
  · rename_i hne
    rwa [← Option.some.inj hlookup]

/-- A family that has rows has a target. -/
theorem lookup_renderedLiveTargets (rows : List NegRiskMarketMetadata) (familyId : String) :
    (authoritativeDiscoveryBatch sourceSessionId observedAt rows).renderedLiveTargets[familyId]? =
      if rowsOf rows familyId = [] then none else some (familyTarget familyId (rowsOf rows familyId)) := by
  rw [authoritativeDiscoveryBatch, lookup_foldl_addFamily fun _ hgroup ↦ ne_nil_of_mem_grouped hgroup,
    BTreeMap.lastOf_toList, lookup_grouped]
  split <;> rfl

/-! ## Inputs -/

/-- The event that a family's rows name; the first of them names it. -/
def eventIdOf (familyId : String) (familyRows : List NegRiskMarketMetadata) : Option String :=
  (sortByKey rowKey familyRows).head?.map fun anchor ↦ discoveryEventId anchor familyId

/-- The inputs for the families, each with its event. -/
def familyInputs (sourceSessionId : String) (observedAt : DateTime) :
    Int → List (String × Option String) → List InputTaskEvent
  | _, [] => []
  | journalSeq, (_, none) :: families => familyInputs sourceSessionId observedAt journalSeq families
  | journalSeq, (familyId, some eventId) :: families =>
      discoveryInput journalSeq sourceSessionId eventId familyId observedAt ::
        familyInputs sourceSessionId observedAt (journalSeq + 1) families

theorem inputs_foldl_addFamily (grouped : List (String × List NegRiskMarketMetadata))
    (progress : MetadataDiscoveryBatch × Int) :
    (grouped.foldl (addFamily sourceSessionId observedAt) progress).1.inputs =
      progress.1.inputs ++ familyInputs sourceSessionId observedAt progress.2
        (grouped.map fun group ↦ (group.1, eventIdOf group.1 group.2)) := by
  induction grouped generalizing progress with
  | nil => simp [familyInputs]
  | cons group grouped ih =>
      rw [List.foldl_cons, ih, List.map_cons, addFamily, eventIdOf]
      cases (sortByKey rowKey group.2).head? with
      | none => rfl
      | some anchor => simp [familyInputs]

/-- The families of the rows, with the events they are observed under. -/
def familyEvents (rows : List NegRiskMarketMetadata) : BTreeMap String (Option String) :=
  (BTreeMap.groupBy NegRiskMarketMetadata.eventFamilyId rows).map eventIdOf

theorem lookup_familyEvents (rows : List NegRiskMarketMetadata) (familyId : String) :
    (familyEvents rows)[familyId]? =
      if rowsOf rows familyId = [] then none else some (eventIdOf familyId (rowsOf rows familyId)) := by
  rw [familyEvents, ExtTreeMap.getElem?_map, lookup_grouped]
  split <;> rfl

theorem inputs_eq (rows : List NegRiskMarketMetadata) :
    (authoritativeDiscoveryBatch sourceSessionId observedAt rows).inputs =
      familyInputs sourceSessionId observedAt 1 (familyEvents rows).toList := by
  rw [authoritativeDiscoveryBatch, inputs_foldl_addFamily, familyEvents, ExtTreeMap.toList_map]
  rfl

section FamilyInputs

variable {families families' : List (String × Option String)} {journalSeq : Int}

theorem familyInputs_inj (h : ∀ family ∈ families, family.2.isSome)
    (h' : ∀ family ∈ families', family.2.isSome)
    (heq : familyInputs sourceSessionId observedAt journalSeq families =
      familyInputs sourceSessionId observedAt journalSeq families') : families = families' := by
  induction families generalizing families' journalSeq with
  | nil =>
      match families', h' with
      | [], _ => rfl
      | (_, none) :: _, h' => cases h' _ List.mem_cons_self
      | (_, some _) :: _, _ => cases heq
  | cons family families ih =>
      match family, h with
      | (_, none), h => cases h _ List.mem_cons_self
      | (familyId, some eventId), h =>
          match families', h' with
          | [], _ => cases heq
          | (_, none) :: _, h' => cases h' _ List.mem_cons_self
          | (familyId', some eventId') :: families', h' =>
              obtain ⟨hfirst, hrest⟩ := List.cons.inj heq
              have hfamily : eventId = eventId' ∧ familyId = familyId' := by
                simpa [discoveryInput, InputTaskEvent.familyDiscoveryObserved,
                  ExternalFactEvent.familyDiscoveryObserved] using hfirst
              obtain ⟨rfl, rfl⟩ := hfamily
              rw [ih (fun family hmem ↦ h family (List.mem_cons_of_mem _ hmem))
                (fun family hmem ↦ h' family (List.mem_cons_of_mem _ hmem)) hrest]

/-- The input observes the family. -/
def Observes (sourceSessionId : String) (observedAt : DateTime) (familyId : String)
    (input : InputTaskEvent) : Prop :=
  ∃ eventId, input = discoveryInput input.journalSeq sourceSessionId eventId familyId observedAt

theorem observes_familyInputs (h : ∀ family ∈ families, family.2.isSome) :
    List.Forall₂ (Observes sourceSessionId observedAt) (families.map Prod.fst)
      (familyInputs sourceSessionId observedAt journalSeq families) := by
  induction families generalizing journalSeq with
  | nil => exact .nil
  | cons family families ih =>
      match family, h with
      | (_, none), h => cases h _ List.mem_cons_self
      | (familyId, some eventId), h =>
          exact .cons ⟨eventId, rfl⟩ (ih fun family hmem ↦ h family (List.mem_cons_of_mem _ hmem))

theorem map_journalSeq_familyInputs (families : List (String × Option String)) (journalSeq : Int) :
    (familyInputs sourceSessionId observedAt journalSeq families).map InputTaskEvent.journalSeq =
      (List.range (familyInputs sourceSessionId observedAt journalSeq families).length).map
        fun n : Nat ↦ journalSeq + n := by
  induction families generalizing journalSeq with
  | nil => rfl
  | cons family families ih =>
      match family with
      | (_, none) => exact ih journalSeq
      | (familyId, some eventId) =>
          simp only [familyInputs, List.map_cons, List.length_cons, List.range_succ_eq_map, ih,
            List.map_map]
          refine congrArg₂ List.cons ?_ (List.map_congr_left fun n _ ↦ ?_)
          · simp [discoveryInput, InputTaskEvent.familyDiscoveryObserved]
          · simp only [Function.comp_apply]
            omega

/-- The key of a discovery fact is told by its event. -/
theorem nodup_factKeys_familyInputs (h : ∀ family ∈ families, family.2.isSome) :
    ((familyInputs sourceSessionId observedAt journalSeq families).map InputTaskEvent.factKey).Nodup ↔ (families.map Prod.snd).Nodup := by
  have hkeys : ∀ journalSeq, ((familyInputs sourceSessionId observedAt journalSeq families).map
      fun input ↦ some input.factKey) =
        (families.map Prod.snd).map (Option.map fun eventId ↦ FactKey.fromEvent
          (.familyDiscoveryObserved sourceSessionId eventId "" observedAt)) := by
    induction families with
    | nil => exact fun _ ↦ rfl
    | cons family families ih =>
        intro journalSeq
        match family, h with
        | (_, none), h => cases h _ List.mem_cons_self
        | (familyId, some eventId), h =>
            simp only [familyInputs, List.map_cons, ih fun family hmem ↦
              h family (List.mem_cons_of_mem _ hmem)]
            rfl
  have hinj : Function.Injective fun eventId ↦ FactKey.fromEvent
      (.familyDiscoveryObserved sourceSessionId eventId "" observedAt) := by
    intro eventId eventId' heq
    simpa [FactKey.fromEvent, ExternalFactEvent.familyDiscoveryObserved] using heq
  rw [← List.nodup_map_iff (Option.some_injective _), List.map_map, Function.comp_def, hkeys,
    List.nodup_map_iff (Option.map_injective hinj)]

end FamilyInputs

/-! ## The order of the rows -/

/-- The row comes first in its family; other rows may be tied with it. -/
def ComesFirst (rows : List NegRiskMarketMetadata) (row : NegRiskMarketMetadata) : Prop :=
  row ∈ rows ∧ ∀ other ∈ rows, other.eventFamilyId = row.eventFamilyId →
    (compare (rowKey row) (rowKey other)).isLE

/-- Rows that are tied for the first place name the family's event alike. -/
def FirstRowsAgree (rows : List NegRiskMarketMetadata) : Prop :=
  ∀ row row', ComesFirst rows row → ComesFirst rows row' →
    row.eventFamilyId = row'.eventFamilyId → row.metadataSnapshotHash = row'.metadataSnapshotHash

theorem discoveryEventId_eq_iff {anchor anchor' : NegRiskMarketMetadata} {familyId' : String} :
    discoveryEventId anchor familyId = discoveryEventId anchor' familyId' ↔
      anchor.metadataSnapshotHash ++ "-" ++ familyId =
        anchor'.metadataSnapshotHash ++ "-" ++ familyId' := by
  have htext : ∀ (anchor : NegRiskMarketMetadata) familyId, discoveryEventId anchor familyId =
      "metadata-" ++ (anchor.metadataSnapshotHash ++ "-" ++ familyId) ++ "-discovery" := by
    intro anchor familyId
    have hevent : discoveryEventId anchor familyId =
        "metadata-" ++ anchor.metadataSnapshotHash ++ "-" ++ familyId ++ "-discovery" := rfl
    rw [hevent]
    simp only [String.append_assoc]
  rw [htext, htext, String.append_left_inj, String.append_right_inj]

theorem exists_eventIdOf_eq (h : rowsOf rows familyId ≠ []) :
    ∃ anchor, ComesFirst rows anchor ∧ anchor.eventFamilyId = familyId ∧
      eventIdOf familyId (rowsOf rows familyId) = some (discoveryEventId anchor familyId) := by
  obtain ⟨anchor, hanchor⟩ := exists_head?_sortByKey rowKey h
  obtain ⟨hmem, hfirst⟩ := of_head?_sortByKey hanchor
  obtain ⟨hrow, hfamily⟩ := mem_rowsOf.mp hmem
  refine ⟨anchor, ⟨hrow, fun other hother hsame ↦ ?_⟩, hfamily, ?_⟩
  · exact hfirst other (mem_rowsOf.mpr ⟨hother, hsame.trans hfamily⟩)
  · rw [eventIdOf, hanchor]
    rfl

/-- A row that comes first and is delivered first names the event. -/
theorem eventIdOf_cons {row : NegRiskMarketMetadata} (h : ComesFirst rows row) :
    eventIdOf row.eventFamilyId (rowsOf (row :: rows.erase row) row.eventFamilyId) =
      some (discoveryEventId row row.eventFamilyId) := by
  have hfirst : ∀ other ∈ rowsOf (rows.erase row) row.eventFamilyId,
      (compare (rowKey row) (rowKey other)).isLE := by
    intro other hother
    obtain ⟨hmem, hfamily⟩ := mem_rowsOf.mp hother
    exact h.2 other (List.mem_of_mem_erase hmem) hfamily
  rw [rowsOf, List.filter_cons_of_pos (by simp), ← rowsOf, eventIdOf, sortByKey_cons_of_isLE hfirst]
  rfl

theorem isSome_familyEvents {family : String × Option String}
    (h : family ∈ (familyEvents rows).toList) : family.2.isSome := by
  have hlookup := ExtTreeMap.mem_toList_iff_getElem?_eq_some.mp h
  rw [lookup_familyEvents] at hlookup
  split at hlookup
  · cases hlookup
  · rename_i hne
    obtain ⟨anchor, -, -, hevent⟩ := exists_eventIdOf_eq hne
    rw [← Option.some.inj hlookup, hevent]
    rfl

/-- Batches of the same rows differ at most in the events that their families are observed
under. -/
theorem authoritativeDiscoveryBatch_eq_iff (hperm : rows.Perm rows') :
    authoritativeDiscoveryBatch sourceSessionId observedAt rows =
        authoritativeDiscoveryBatch sourceSessionId observedAt rows' ↔
      familyEvents rows = familyEvents rows' := by
  constructor
  · intro h
    have hinputs := congrArg MetadataDiscoveryBatch.inputs h
    rw [inputs_eq, inputs_eq] at hinputs
    exact ExtTreeMap.toList_inj.mp (familyInputs_inj (fun _ ↦ isSome_familyEvents)
      (fun _ ↦ isSome_familyEvents) hinputs)
  · intro h
    have hinputs : (authoritativeDiscoveryBatch sourceSessionId observedAt rows).inputs =
        (authoritativeDiscoveryBatch sourceSessionId observedAt rows').inputs := by
      rw [inputs_eq, inputs_eq, h]
    have htargets :
        (authoritativeDiscoveryBatch sourceSessionId observedAt rows).renderedLiveTargets =
          (authoritativeDiscoveryBatch sourceSessionId observedAt rows').renderedLiveTargets := by
      refine ExtTreeMap.ext_getElem? fun familyId ↦ ?_
      have hrows : (rowsOf rows familyId).Perm (rowsOf rows' familyId) := hperm.filter _
      have hfactors : Function.FactorsThrough liveMember rowKey := by
        intro row row' hkey
        obtain ⟨hcondition, htoken⟩ : row.conditionId = row'.conditionId ∧
            row.tokenId = row'.tokenId := by simpa [rowKey] using hkey
        rw [liveMember, liveMember, hcondition, htoken]
      have : Nonempty NegRiskMemberLiveTarget := ⟨⟨"", "", .zero, .zero⟩⟩
      have hmembers : familyTarget familyId (rowsOf rows familyId) =
          familyTarget familyId (rowsOf rows' familyId) := by
        rw [familyTarget, familyTarget, map_eq_of_factorsThrough hfactors
          (map_key_sortByKey_eq_iff.mpr (hrows.map rowKey))]
      have hnil : rowsOf rows familyId = [] ↔ rowsOf rows' familyId = [] :=
        ⟨fun hnil ↦ List.nil_perm.mp (hnil ▸ hrows), fun hnil ↦ List.perm_nil.mp (hnil ▸ hrows)⟩
      rw [lookup_renderedLiveTargets, lookup_renderedLiveTargets, hmembers]
      simp only [hnil]
    exact MetadataDiscoveryBatch.ext hinputs htargets

/-- The batch is the same for every order of the rows if and only if the rows that are tied
for the first place of a family name its event alike. -/
theorem batch_of_perm_iff :
    (∀ rows', rows.Perm rows' → authoritativeDiscoveryBatch sourceSessionId observedAt rows' =
        authoritativeDiscoveryBatch sourceSessionId observedAt rows) ↔ FirstRowsAgree rows := by
  constructor
  · intro h row row' hrow hrow' hfamily
    have hbatch : ∀ {first}, ComesFirst rows first →
        familyEvents (first :: rows.erase first) = familyEvents rows := by
      intro first hfirst
      have hperm := List.perm_cons_erase hfirst.1
      exact ((authoritativeDiscoveryBatch_eq_iff hperm).mp (h _ hperm).symm).symm
    have hevents : (familyEvents (row :: rows.erase row))[row.eventFamilyId]? =
        (familyEvents (row' :: rows.erase row'))[row'.eventFamilyId]? := by
      rw [hbatch hrow, hbatch hrow', hfamily]
    have hne : ∀ first : NegRiskMarketMetadata,
        rowsOf (first :: rows.erase first) first.eventFamilyId ≠ [] := fun first ↦
      List.ne_nil_of_mem (mem_rowsOf.mpr ⟨List.mem_cons_self, rfl⟩)
    rw [lookup_familyEvents, lookup_familyEvents, if_neg (hne row), if_neg (hne row'),
      eventIdOf_cons hrow, eventIdOf_cons hrow', Option.some.injEq, Option.some.injEq,
      discoveryEventId_eq_iff, hfamily, String.append_left_inj, String.append_left_inj] at hevents
    exact hevents
  · intro h rows' hperm
    refine (authoritativeDiscoveryBatch_eq_iff hperm.symm).mpr (ExtTreeMap.ext_getElem? fun familyId ↦ ?_)
    have hrows : (rowsOf rows familyId).Perm (rowsOf rows' familyId) := hperm.filter _
    by_cases hnil : rowsOf rows familyId = []
    · have hnil' : rowsOf rows' familyId = [] := List.nil_perm.mp (hnil ▸ hrows)
      rw [lookup_familyEvents, lookup_familyEvents, if_pos hnil, if_pos hnil']
    · have hnil' : rowsOf rows' familyId ≠ [] := fun hnil' ↦ hnil (List.perm_nil.mp (hnil' ▸ hrows))
      obtain ⟨anchor, hanchor, hfamily, hevent⟩ := exists_eventIdOf_eq hnil
      obtain ⟨anchor', hanchor', hfamily', hevent'⟩ := exists_eventIdOf_eq hnil'
      have hfirst : ComesFirst rows anchor' := ⟨hperm.mem_iff.mpr hanchor'.1, fun other hother ↦
        hanchor'.2 other (hperm.mem_iff.mp hother)⟩
      rw [lookup_familyEvents, lookup_familyEvents, if_neg hnil, if_neg hnil', hevent, hevent',
        discoveryEventId, discoveryEventId,
        h anchor anchor' hanchor hfirst (hfamily.trans hfamily'.symm)]

/-! ## Fact keys -/

/-- The first row of a family by its key; of rows that are tied, the one delivered first. -/
def firstRow (rows : List NegRiskMarketMetadata) (familyId : String) : Option NegRiskMarketMetadata :=
  (sortByKey rowKey (rowsOf rows familyId)).head?

/-- The snapshot hashes of two families' first rows do not run into the family ids. -/
def EventsDiffer (rows : List NegRiskMarketMetadata) : Prop :=
  ∀ familyId familyId' anchor anchor', firstRow rows familyId = some anchor →
    firstRow rows familyId' = some anchor' →
    anchor.metadataSnapshotHash ++ "-" ++ familyId =
      anchor'.metadataSnapshotHash ++ "-" ++ familyId' → familyId = familyId'

theorem mem_toList_familyEvents_iff {family : String × Option String} :
    family ∈ (familyEvents rows).toList ↔
      ∃ anchor, firstRow rows family.1 = some anchor ∧
        family.2 = some (discoveryEventId anchor family.1) := by
  rw [ExtTreeMap.mem_toList_iff_getElem?_eq_some, lookup_familyEvents, firstRow]
  constructor
  · intro h
    split at h
    · cases h
    · rename_i hne
      obtain ⟨anchor, hanchor⟩ := exists_head?_sortByKey rowKey hne
      refine ⟨anchor, hanchor, ?_⟩
      rw [← Option.some.inj h, eventIdOf, hanchor]
      rfl
  · rintro ⟨anchor, hanchor, hevent⟩
    have hne : rowsOf rows family.1 ≠ [] :=
      List.ne_nil_of_mem (of_head?_sortByKey hanchor).1
    rw [if_neg hne, eventIdOf, hanchor, hevent]
    rfl

theorem nodup_factKeys_iff :
    ((authoritativeDiscoveryBatch sourceSessionId observedAt rows).inputs.map
      InputTaskEvent.factKey).Nodup ↔ EventsDiffer rows := by
  have hnodup : (familyEvents rows).toList.Nodup := by
    refine List.Nodup.of_map Prod.fst ?_
    rw [ExtTreeMap.map_fst_toList_eq_keys]
    exact ExtTreeMap.nodup_keys
  rw [inputs_eq, nodup_factKeys_familyInputs fun _ ↦ isSome_familyEvents,
    List.nodup_map_iff_inj_on hnodup]
  constructor
  · intro h familyId familyId' anchor anchor' hanchor hanchor' heq
    have hfamily : (familyId, some (discoveryEventId anchor familyId)) =
        (familyId', some (discoveryEventId anchor' familyId')) :=
      h _ (mem_toList_familyEvents_iff.mpr ⟨anchor, hanchor, rfl⟩)
        _ (mem_toList_familyEvents_iff.mpr ⟨anchor', hanchor', rfl⟩)
        (congrArg some (discoveryEventId_eq_iff.mpr heq))
    exact congrArg Prod.fst hfamily
  · intro h family hfamily family' hfamily' heq
    obtain ⟨anchor, hanchor, hevent⟩ := mem_toList_familyEvents_iff.mp hfamily
    obtain ⟨anchor', hanchor', hevent'⟩ := mem_toList_familyEvents_iff.mp hfamily'
    rw [hevent, hevent', Option.some.injEq, discoveryEventId_eq_iff] at heq
    refine Prod.ext (h _ _ anchor anchor' hanchor hanchor' heq) ?_
    rw [hevent, hevent', discoveryEventId_eq_iff.mpr heq]

/-- Hashes of one length do not run into what follows them. -/
theorem eventsDiffer_of_size_eq (h : ∀ row ∈ rows, ∀ row' ∈ rows,
    row.metadataSnapshotHash.utf8ByteSize = row'.metadataSnapshotHash.utf8ByteSize) :
    EventsDiffer rows := by
  intro familyId familyId' anchor anchor' hanchor hanchor' heq
  have hsize := h anchor (mem_rowsOf.mp (of_head?_sortByKey hanchor).1).1
    anchor' (mem_rowsOf.mp (of_head?_sortByKey hanchor').1).1
  refine (append_inj_of_utf8ByteSize_eq ?_ heq).2
  rw [String.utf8ByteSize_append, String.utf8ByteSize_append, hsize]

/-! ## What a batch is -/

/-- Each family is observed once and has a target of its rows.  How the rows are ordered and
which events the families have depends on the snapshot hashes. -/
structure Discovers (sourceSessionId : String) (observedAt : DateTime)
    (rows : List NegRiskMarketMetadata) (batch : MetadataDiscoveryBatch) : Prop where
  families : ∃ families : List String, families.Pairwise (compare · · = .lt) ∧
    (∀ familyId, familyId ∈ families ↔ ∃ row ∈ rows, row.eventFamilyId = familyId) ∧
    List.Forall₂ (Observes sourceSessionId observedAt) families batch.inputs
  numbered : batch.inputs.map InputTaskEvent.journalSeq =
    (List.range batch.inputs.length).map fun n : Nat ↦ 1 + (n : Int)
  distinct : (batch.inputs.map InputTaskEvent.factKey).Nodup ↔
    EventsDiffer rows
  distinct_of_size_eq : (∀ row ∈ rows, ∀ row' ∈ rows,
      row.metadataSnapshotHash.utf8ByteSize = row'.metadataSnapshotHash.utf8ByteSize) →
    (batch.inputs.map InputTaskEvent.factKey).Nodup
  targeted : ∀ familyId, batch.renderedLiveTargets[familyId]? = none ↔
    ∀ row ∈ rows, row.eventFamilyId ≠ familyId
  members : ∀ familyId (target : NegRiskFamilyLiveTarget),
    batch.renderedLiveTargets[familyId]? = some target → target.familyId = familyId ∧
      target.members.Perm ((rows.filter fun row ↦ row.eventFamilyId = familyId).map liveMember)
  unordered : (∀ rows', rows.Perm rows' →
    authoritativeDiscoveryBatch sourceSessionId observedAt rows' = batch) ↔ FirstRowsAgree rows

/-- **A batch partitions its rows by family.** -/
theorem authoritativeDiscoveryBatch_discovers (sourceSessionId : String) (observedAt : DateTime)
    (rows : List NegRiskMarketMetadata) : Discovers sourceSessionId observedAt rows
      (authoritativeDiscoveryBatch sourceSessionId observedAt rows) where
  families := by
    refine ⟨(familyEvents rows).toList.map Prod.fst, ?_, fun familyId ↦ ?_, ?_⟩
    · rw [ExtTreeMap.map_fst_toList_eq_keys]
      exact ExtTreeMap.ordered_keys
    · rw [ExtTreeMap.map_fst_toList_eq_keys, ExtTreeMap.mem_keys,
        ExtTreeMap.mem_iff_isSome_getElem?, lookup_familyEvents, rowsOf]
      simp
    · rw [inputs_eq]
      exact observes_familyInputs fun _ ↦ isSome_familyEvents
  numbered := by
    rw [inputs_eq]
    exact map_journalSeq_familyInputs _ 1
  distinct := nodup_factKeys_iff
  distinct_of_size_eq h := nodup_factKeys_iff.mpr (eventsDiffer_of_size_eq h)
  targeted familyId := by
    rw [lookup_renderedLiveTargets, rowsOf]
    simp
  members familyId target h := by
    rw [lookup_renderedLiveTargets] at h
    split at h
    · cases h
    · rw [← Option.some.inj h]
      exact ⟨rfl, (perm_sortByKey rowKey (rowsOf rows familyId)).map liveMember⟩
  unordered := batch_of_perm_iff

/-- The rows of one refresh carry one hash, so neither their order shows nor do keys collide. -/
theorem batch_of_refresh (discovered : List CanonicalNegRiskRow) (discoveryRevision : Int)
    (metadataSnapshotHash : String) :
    let rows := discovered.map fun row ↦ row.intoPublic discoveryRevision metadataSnapshotHash
    FirstRowsAgree rows ∧ EventsDiffer rows := by
  intro rows
  have hhash : ∀ row ∈ rows, row.metadataSnapshotHash = metadataSnapshotHash := by
    intro row hrow
    obtain ⟨canonical, -, rfl⟩ := List.mem_map.mp hrow
    rfl
  refine ⟨fun row row' hrow hrow' _ ↦ ?_, eventsDiffer_of_size_eq fun row hrow row' hrow' ↦ ?_⟩
  · rw [hhash row hrow.1, hhash row' hrow'.1]
  · rw [hhash row hrow, hhash row' hrow']

def sampleRow (eventFamilyId metadataSnapshotHash : String) : NegRiskMarketMetadata :=
  { eventFamilyId
    eventId := "event-1"
    conditionId := "condition-1"
    tokenId := "token-1"
    outcomeLabel := "Alice"
    route := .negRisk
    enableNegRisk := some true
    negRiskAugmented := none
    negRiskVariant := .standard
    isPlaceholder := false
    isOther := false
    discoveryRevision := 1
    metadataSnapshotHash }

/-- Two rows tied under different hashes show their order, and two families' events may run
into one. -/
theorem batch_shows_hashes :
    (¬ ∀ sourceSessionId observedAt rows rows', rows.Perm rows' →
      authoritativeDiscoveryBatch sourceSessionId observedAt rows' =
        authoritativeDiscoveryBatch sourceSessionId observedAt rows) ∧
    ¬ ∀ sourceSessionId observedAt rows,
      ((authoritativeDiscoveryBatch sourceSessionId observedAt rows).inputs.map
        InputTaskEvent.factKey).Nodup := by
  constructor
  · intro h
    have hagree := batch_of_perm_iff.mp
      (h "session-1" 0 [sampleRow "family-a" "hash-1", sampleRow "family-a" "hash-2"])
    have hfirst : ∀ row ∈ [sampleRow "family-a" "hash-1", sampleRow "family-a" "hash-2"],
        ComesFirst [sampleRow "family-a" "hash-1", sampleRow "family-a" "hash-2"] row := by
      refine fun row hrow ↦ ⟨hrow, fun other hother _ ↦ ?_⟩
      simp only [List.mem_cons, List.not_mem_nil, or_false] at hrow hother
      rcases hrow with rfl | rfl <;> rcases hother with rfl | rfl <;> decide +kernel
    have hhash := hagree _ _ (hfirst _ List.mem_cons_self)
      (hfirst _ (List.mem_cons_of_mem _ List.mem_cons_self)) rfl
    exact absurd hhash (by decide)
  · intro h
    have hdiffer := nodup_factKeys_iff.mp
      (h "session-1" 0 [sampleRow "b" "hash-a", sampleRow "a-b" "hash"])
    have hb : rowsOf [sampleRow "b" "hash-a", sampleRow "a-b" "hash"] "b" =
        [sampleRow "b" "hash-a"] := by decide
    have hab : rowsOf [sampleRow "b" "hash-a", sampleRow "a-b" "hash"] "a-b" =
        [sampleRow "a-b" "hash"] := by decide
    have hsame : "b" = "a-b" := by
      refine hdiffer "b" "a-b" (sampleRow "b" "hash-a") (sampleRow "a-b" "hash") ?_ ?_ (by decide)
      · rw [firstRow, hb, sortByKey, List.mergeSort_singleton]
        rfl
      · rw [firstRow, hab, sortByKey, List.mergeSort_singleton]
        rfl
    exact absurd hsame (by decide)

end MetadataTaskGroup

end AxiomArb.AppLive
