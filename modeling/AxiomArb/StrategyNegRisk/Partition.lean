import AxiomArb.StrategyNegRisk.Graph
import Mathlib.Data.List.Nodup
import Mathlib.Data.Multiset.Basic
import Mathlib.Order.Bounds.Basic
import Mathlib.Order.Lattice

/-!
# The graph as a partition

The families of a graph divide the metadata: each row is a member of the family of its
event, once.  A graph is built if each row has a record that agrees with it and no two rows
clash, so the order of rows and records decides neither that nor the families.
-/

namespace AxiomArb.StrategyNegRisk

open Domain Library

/-! ## The order of variants -/

namespace VariantOrder

def rank : NegRiskVariant → Nat
  | .standard => 0
  | .unknown => 1
  | .augmented => 2

theorem rank_injective : Function.Injective rank := by
  intro variant variant' h
  cases variant <;> cases variant' <;> first | rfl | simp [rank] at h

instance : LinearOrder NegRiskVariant := LinearOrder.lift' rank rank_injective

theorem mergeVariant_eq_sup (existing incoming : NegRiskVariant) :
    mergeVariant existing incoming = existing ⊔ incoming := by
  cases existing <;> cases incoming <;> decide

end VariantOrder

/-- What is above a sum of joins is above all that was joined. -/
theorem foldl_sup_le_iff {α β : Type*} [SemilatticeSup β] {f : α → β} {items : List α}
    {start bound : β} :
    items.foldl (fun sum item ↦ sum ⊔ f item) start ≤ bound ↔
      start ≤ bound ∧ ∀ item ∈ items, f item ≤ bound := by
  induction items generalizing start with
  | nil => simp
  | cons item items ih => rw [List.foldl_cons, ih, sup_le_iff, List.forall_mem_cons, and_assoc]

/-! ## The rows of a family -/

variable {records records' : List IdentifierRecord} {metadata metadata' : List NegRiskMarketMetadata}
  {progress progress' : GraphProgress} {row row' : NegRiskMarketMetadata} {familyId : EventFamilyId}
  {graph graph' : NegRiskGraph} {family : NegRiskGraphFamily}

def rowsOf (metadata : List NegRiskMarketMetadata) (familyId : EventFamilyId) :
    List NegRiskMarketMetadata :=
  metadata.filter (·.eventFamilyId = familyId)

theorem mem_rowsOf : row ∈ rowsOf metadata familyId ↔
    row ∈ metadata ∧ row.eventFamilyId = familyId := by
  rw [rowsOf, List.mem_filter, decide_eq_true_eq]

/-- What the rows of a family amount to. -/
def accumulatorOf (familyId : EventFamilyId) :
    List NegRiskMarketMetadata → Option FamilyAccumulator
  | [] => none
  | first :: rest =>
      some {
        familyId
        route := first.route
        members := (first :: rest).map NegRiskMarketMetadata.node
        variant := (first :: rest).foldl (fun variant row ↦ mergeVariant variant row.negRiskVariant)
          first.negRiskVariant }

/-- One more row of a family. -/
theorem accumulatorOf_append (familyId : EventFamilyId) (rows : List NegRiskMarketMetadata)
    (row : NegRiskMarketMetadata) :
    accumulatorOf familyId (rows ++ [row]) =
      let before := (accumulatorOf familyId rows).getD
        { familyId, route := row.route, members := [], variant := row.negRiskVariant }
      some { before with
        variant := mergeVariant before.variant row.negRiskVariant
        members := before.members ++ [row.node] } := by
  cases rows with
  | nil => exact rfl
  | cons first rest =>
      simp only [accumulatorOf, List.cons_append, Option.getD_some]
      rw [← List.cons_append, List.foldl_append, List.map_append]
      rfl

/-- What the rows that were accepted amount to. -/
structure GraphProgress.Amounts (metadata : List NegRiskMarketMetadata) (progress : GraphProgress) :
    Prop where
  accumulators : ∀ familyId, progress.accumulators[familyId]? =
    accumulatorOf familyId (rowsOf metadata familyId)
  nodup : progress.familyOrder.Nodup
  mem_familyOrder : ∀ familyId, familyId ∈ progress.familyOrder ↔
    ∃ row ∈ metadata, row.eventFamilyId = familyId
  seen : ∀ key, key ∈ progress.seenMetadataMembers ↔ ∃ row ∈ metadata, row.memberKey = key
  routes : ∀ row ∈ metadata, ∀ row' ∈ metadata, row.eventFamilyId = row'.eventFamilyId →
    row.route = row'.route

/-- The row has a record that agrees with it. -/
def Fits (records : List IdentifierRecord) (row : NegRiskMarketMetadata) : Prop :=
  ∃ record ∈ records, (record.conditionId, record.tokenId) = row.memberKey ∧
    record.eventFamilyId = row.eventFamilyId ∧ record.route = row.route

/-- The rows are different members, and of one route where they are of one family. -/
def Compatible (row row' : NegRiskMarketMetadata) : Prop :=
  row.memberKey ≠ row'.memberKey ∧ (row.eventFamilyId = row'.eventFamilyId → row.route = row'.route)

instance : Std.Symm Compatible where
  symm _ _ h := ⟨h.1.symm, fun hfamily ↦ (h.2 hfamily.symm).symm⟩

/-! ## One row -/

theorem rowsOf_append (metadata : List NegRiskMarketMetadata) (row : NegRiskMarketMetadata)
    (familyId : EventFamilyId) : rowsOf (metadata ++ [row]) familyId =
      if row.eventFamilyId = familyId then rowsOf metadata familyId ++ [row]
      else rowsOf metadata familyId := by
  rw [rowsOf, List.filter_append]
  split_ifs with hfamily
  · rw [List.filter_cons_of_pos (by simpa using hfamily), List.filter_nil, rowsOf]
  · rw [List.filter_cons_of_neg (by simpa using hfamily), List.filter_nil, List.append_nil, rowsOf]

section Rows

variable (hamounts : progress.Amounts metadata)

include hamounts

/-- The family a row goes to is that of the rows before it. -/
theorem GraphProgress.Amounts.accumulator {record : IdentifierRecord}
    (hfamily : record.eventFamilyId = row.eventFamilyId) (hroute : record.route = row.route) :
    (progress.accumulator record row).2 =
      (accumulatorOf row.eventFamilyId (rowsOf metadata row.eventFamilyId)).getD
        { familyId := row.eventFamilyId
          route := row.route
          members := []
          variant := row.negRiskVariant } := by
  rw [GraphProgress.accumulator, hfamily, hamounts.accumulators, hroute]
  cases accumulatorOf row.eventFamilyId (rowsOf metadata row.eventFamilyId) with
  | none => exact rfl
  | some family => exact rfl

/-- The family has the route of the row if the rows before it do. -/
theorem GraphProgress.Amounts.route_iff {record : IdentifierRecord}
    (hfamily : record.eventFamilyId = row.eventFamilyId) (hroute : record.route = row.route) :
    (progress.accumulator record row).2.route = record.route ↔
      ∀ earlier ∈ metadata, earlier.eventFamilyId = row.eventFamilyId → earlier.route = row.route := by
  rw [hamounts.accumulator hfamily hroute, hroute]
  cases hrows : rowsOf metadata row.eventFamilyId with
  | nil =>
      refine iff_of_true rfl fun earlier hearlier hsame ↦ ?_
      have hmem := mem_rowsOf.mpr ⟨hearlier, hsame⟩
      rw [hrows] at hmem
      cases hmem
  | cons first rest =>
      have hfirst := mem_rowsOf.mp (hrows ▸ List.mem_cons_self)
      constructor
      · intro h earlier hearlier hsame
        exact (hamounts.routes earlier hearlier first hfirst.1 (hsame.trans hfirst.2.symm)).trans h
      · intro hall
        exact hall first hfirst.1 hfirst.2

/-- A row is accepted if it fits the records and goes with each row before it. -/
theorem GraphProgress.Amounts.exists_addRow_iff
    (hrecords : ∀ record ∈ records, ∀ record' ∈ records, IdentifierMap.Agree record record') :
    (∃ progress', progress.addRow records row = .ok progress') ↔
      Fits records row ∧ ∀ earlier ∈ metadata, Compatible earlier row := by
  simp only [GraphProgress.addRow_eq_ok_iff]
  constructor
  · rintro ⟨progress', hseen, record, hrecord, hfamily, hroute, hmixed, -⟩
    have hkey : (record.conditionId, record.tokenId) = row.memberKey := by
      simpa using List.find?_some hrecord
    have hroutes := (hamounts.route_iff hfamily hroute).mp hmixed
    refine ⟨⟨record, List.mem_of_find?_eq_some hrecord, hkey, hfamily, hroute⟩,
      fun earlier hearlier ↦ ⟨fun heq ↦ hseen ?_, hroutes earlier hearlier⟩⟩
    exact (hamounts.seen row.memberKey).mpr ⟨earlier, hearlier, heq⟩
  · rintro ⟨⟨record, hrecord, hkey, hfamily, hroute⟩, hcompatible⟩
    obtain ⟨found, hfound⟩ : ∃ found, (records.find? fun record ↦
        (record.conditionId, record.tokenId) = row.memberKey) = some found :=
      Option.isSome_iff_exists.mp (List.find?_isSome.mpr ⟨record, hrecord, by simpa using hkey⟩)
    have hfoundKey : (found.conditionId, found.tokenId) = row.memberKey := by
      simpa using List.find?_some hfound
    -- records of one key say the same of their condition
    have hsame := (hrecords found (List.mem_of_find?_eq_some hfound) record hrecord).2
      (congrArg Prod.fst (hfoundKey.trans hkey.symm))
    have hfoundFamily : found.eventFamilyId = row.eventFamilyId :=
      (Option.some.inj (congrArg ConditionMetadata.eventFamilyId hsame)).trans hfamily
    have hfoundRoute : found.route = row.route :=
      (Option.some.inj (congrArg ConditionMetadata.route hsame)).trans hroute
    refine ⟨_, fun hseen ↦ ?_, found, hfound, hfoundFamily, hfoundRoute,
      (hamounts.route_iff hfoundFamily hfoundRoute).mpr fun earlier hearlier ↦
        (hcompatible earlier hearlier).2, rfl⟩
    obtain ⟨earlier, hearlier, heq⟩ := (hamounts.seen row.memberKey).mp hseen
    exact (hcompatible earlier hearlier).1 heq

theorem GraphProgress.Amounts.mem_familyOrder_iff (familyId : EventFamilyId) :
    familyId ∈ progress.familyOrder ↔ (progress.accumulators[familyId]?).isSome := by
  rw [hamounts.mem_familyOrder, hamounts.accumulators]
  cases hrows : rowsOf metadata familyId with
  | nil =>
      refine iff_of_false ?_ (by simp [accumulatorOf])
      rintro ⟨row, hrow, hsame⟩
      have hmem := mem_rowsOf.mpr ⟨hrow, hsame⟩
      rw [hrows] at hmem
      cases hmem
  | cons first rest =>
      have hfirst := mem_rowsOf.mp (hrows ▸ List.mem_cons_self)
      exact iff_of_true ⟨first, hfirst⟩ rfl

/-- A family is listed when its first row comes. -/
theorem GraphProgress.Amounts.familyOrder {record : IdentifierRecord} :
    (progress.accumulator record row).1 =
      if record.eventFamilyId ∈ progress.familyOrder then progress.familyOrder
      else progress.familyOrder ++ [record.eventFamilyId] := by
  simp only [hamounts.mem_familyOrder_iff, GraphProgress.accumulator]
  cases progress.accumulators[record.eventFamilyId]? with
  | none => exact rfl
  | some family => exact rfl

theorem GraphProgress.Amounts.addRow (h : progress.addRow records row = .ok progress') :
    progress'.Amounts (metadata ++ [row]) := by
  obtain ⟨-, record, -, hfamily, hroute, hmixed, rfl⟩ := GraphProgress.addRow_eq_ok_iff.mp h
  have hroutes := (hamounts.route_iff hfamily hroute).mp hmixed
  constructor
  case accumulators =>
    intro familyId
    rw [BTreeMap.lookup_insert, rowsOf_append, hfamily]
    split_ifs with hsame
    · subst hsame
      rw [accumulatorOf_append, hamounts.accumulator hfamily hroute]
    · exact hamounts.accumulators familyId
  case nodup =>
    rw [hamounts.familyOrder]
    split_ifs with hlisted
    · exact hamounts.nodup
    · simpa using List.Nodup.concat hlisted hamounts.nodup
  case mem_familyOrder =>
    intro familyId
    simp only [List.mem_append, List.mem_singleton, or_and_right, exists_or, exists_eq_left]
    rw [← hamounts.mem_familyOrder, ← hfamily, hamounts.familyOrder]
    split_ifs with hlisted
    · refine ⟨.inl, ?_⟩
      rintro (hmem | rfl)
      · exact hmem
      · exact hlisted
    · rw [List.mem_append, List.mem_singleton, eq_comm]
  case seen =>
    intro key
    simp only [List.mem_append, List.mem_singleton, or_and_right, exists_or, exists_eq_left]
    rw [List.mem_cons, hamounts.seen, or_comm, eq_comm]
  case routes =>
    simp only [List.mem_append, List.mem_singleton]
    rintro earlier (hearlier | rfl) later (hlater | rfl) hsame
    · exact hamounts.routes earlier hearlier later hlater hsame
    · exact hroutes earlier hearlier hsame
    · exact (hroutes later hlater hsame.symm).symm
    · exact rfl

end Rows

theorem GraphProgress.amounts_empty : GraphProgress.empty.Amounts [] :=
  { accumulators := fun _ ↦ Std.ExtTreeMap.getElem?_empty
    nodup := List.nodup_nil
    mem_familyOrder := fun _ ↦ by simp [GraphProgress.empty]
    seen := fun _ ↦ by simp [GraphProgress.empty]
    routes := fun _ hmem ↦ nomatch hmem }

/-! ## The families -/

/-- An accumulator as a family of the graph. -/
def graphFamily (accumulator : FamilyAccumulator) : NegRiskGraphFamily :=
  { family :=
      { familyId := accumulator.familyId
        route := accumulator.route
        members := accumulator.members }
    negRiskVariant := accumulator.variant }

/-- The family that the rows make, if there are any. -/
def familyOf (metadata : List NegRiskMarketMetadata) (familyId : EventFamilyId) :
    Option NegRiskGraphFamily :=
  (accumulatorOf familyId (rowsOf metadata familyId)).map graphFamily

/-- Families that are listed once each are all taken out. -/
theorem takeFamilies_eq {familyOrder : List EventFamilyId}
    {accumulators : BTreeMap EventFamilyId FamilyAccumulator} (hnodup : familyOrder.Nodup)
    (hsome : ∀ familyId ∈ familyOrder, (accumulators[familyId]?).isSome) :
    GraphProgress.takeFamilies familyOrder accumulators =
      some (familyOrder.filterMap fun familyId ↦ accumulators[familyId]?.map graphFamily) := by
  induction familyOrder generalizing accumulators with
  | nil => exact rfl
  | cons familyId familyOrder ih =>
      obtain ⟨hfirst, hnodup⟩ := List.nodup_cons.mp hnodup
      obtain ⟨hfamily, hrest⟩ := List.forall_mem_cons.mp hsome
      obtain ⟨family, hfamily⟩ := Option.isSome_iff_exists.mp hfamily
      have hothers : ∀ familyId' ∈ familyOrder,
          (accumulators.erase familyId)[familyId']? = accumulators[familyId']? :=
        fun familyId' hmem ↦ BTreeMap.lookup_erase_of_ne fun heq ↦ hfirst (heq ▸ hmem)
      have htake := ih hnodup fun familyId' hmem ↦ by
        rw [hothers familyId' hmem]
        exact hrest familyId' hmem
      have hmap : (familyOrder.filterMap fun familyId' ↦
          (accumulators.erase familyId)[familyId']?.map graphFamily) =
            familyOrder.filterMap fun familyId' ↦ accumulators[familyId']?.map graphFamily :=
        List.filterMap_congr fun familyId' hmem ↦ by rw [hothers familyId' hmem]
      rw [GraphProgress.takeFamilies, htake, hmap, hfamily, List.filterMap_cons, hfamily]
      rfl

theorem amounts_of_foldlM
    (h : metadata.foldlM (GraphProgress.addRow records) .empty = .ok progress) :
    progress.Amounts metadata := by
  have hstep : ∀ (done : List NegRiskMarketMetadata) (row : NegRiskMarketMetadata)
      (progress progress' : GraphProgress), progress.Amounts done →
      progress.addRow records row = .ok progress' → progress'.Amounts (done ++ [row]) :=
    fun _ _ _ _ hamounts h ↦ hamounts.addRow h
  exact foldlM_induction hstep GraphProgress.amounts_empty h

theorem buildFamilyGraph_of_ok {identifierMap : IdentifierMap}
    (hmap : IdentifierMap.fromRecords records = .ok identifierMap)
    (h : metadata.foldlM (GraphProgress.addRow records) .empty = .ok progress) :
    buildFamilyGraph records metadata =
      some (.ok { families := progress.familyOrder.filterMap (familyOf metadata) }) := by
  have hamounts := amounts_of_foldlM h
  have htake := takeFamilies_eq hamounts.nodup fun familyId hmem ↦
    (hamounts.mem_familyOrder_iff familyId).mp hmem
  simp only [hamounts.accumulators] at htake
  rw [buildFamilyGraph, hmap]
  simp only [h, htake]
  rfl

/-- The build ends in an error or in the families of the rows. -/
theorem buildFamilyGraph_cases (records : List IdentifierRecord)
    (metadata : List NegRiskMarketMetadata) :
    (∃ error, buildFamilyGraph records metadata = some (.error error)) ∨
      ∃ progress : GraphProgress, progress.Amounts metadata ∧ buildFamilyGraph records metadata =
        some (.ok { families := progress.familyOrder.filterMap (familyOf metadata) }) := by
  cases hmap : IdentifierMap.fromRecords records with
  | error error =>
      refine .inl ⟨.invalidIdentifierRecords error, ?_⟩
      rw [buildFamilyGraph, hmap]
  | ok identifierMap =>
      cases hfold : metadata.foldlM (GraphProgress.addRow records) .empty with
      | error error =>
          refine .inl ⟨error, ?_⟩
          simp only [buildFamilyGraph, hmap, hfold]
      | ok progress =>
          exact .inr ⟨progress, amounts_of_foldlM hfold, buildFamilyGraph_of_ok hmap hfold⟩

/-- The families of a graph are those of the rows, in some order. -/
theorem exists_familyOrder (h : buildFamilyGraph records metadata = some (.ok graph)) :
    ∃ familyOrder : List EventFamilyId, familyOrder.Nodup ∧
      (∀ familyId, familyId ∈ familyOrder ↔ ∃ row ∈ metadata, row.eventFamilyId = familyId) ∧
      graph.families = familyOrder.filterMap (familyOf metadata) := by
  rcases buildFamilyGraph_cases records metadata with ⟨error, herror⟩ | ⟨progress, hamounts, hok⟩
  · rw [herror] at h
    cases h
  · rw [hok] at h
    obtain rfl := Except.ok.inj (Option.some.inj h)
    exact ⟨progress.familyOrder, hamounts.nodup, hamounts.mem_familyOrder, rfl⟩

/-- A graph is built if the records agree with each other, each row fits them and no two rows
clash. -/
theorem exists_graph_iff (records : List IdentifierRecord) (metadata : List NegRiskMarketMetadata) :
    (∃ graph, buildFamilyGraph records metadata = some (.ok graph)) ↔
      (∀ record ∈ records, ∀ record' ∈ records, IdentifierMap.Agree record record') ∧
        (∀ row ∈ metadata, Fits records row) ∧ metadata.Pairwise Compatible := by
  cases hmap : IdentifierMap.fromRecords records with
  | error e =>
      refine iff_of_false ?_ ?_
      · rintro ⟨graph, h⟩
        rw [buildFamilyGraph, hmap] at h
        cases h
      · rintro ⟨hrecords, -⟩
        obtain ⟨identifierMap, hok⟩ := (IdentifierMap.exists_fromRecords_iff records).mpr hrecords
        rw [hmap] at hok
        cases hok
  | ok identifierMap =>
      have hrecords := (IdentifierMap.exists_fromRecords_iff records).mp ⟨identifierMap, hmap⟩
      have haccept : ∀ (done : List NegRiskMarketMetadata) (row : NegRiskMarketMetadata)
          (progress : GraphProgress), progress.Amounts done →
          ((∃ progress', progress.addRow records row = .ok progress') ↔
            Fits records row ∧ ∀ earlier ∈ done, Compatible earlier row) :=
        fun _ _ _ hamounts ↦ hamounts.exists_addRow_iff hrecords
      have hstep : ∀ (done : List NegRiskMarketMetadata) (row : NegRiskMarketMetadata)
          (progress progress' : GraphProgress), progress.Amounts done →
          progress.addRow records row = .ok progress' → progress'.Amounts (done ++ [row]) :=
        fun _ _ _ _ hamounts h ↦ hamounts.addRow h
      rw [and_iff_right hrecords, ← exists_foldlM_iff haccept hstep GraphProgress.amounts_empty]
      constructor
      · rintro ⟨graph, h⟩
        cases hfold : metadata.foldlM (GraphProgress.addRow records) .empty with
        | error e =>
            simp only [buildFamilyGraph, hmap, hfold] at h
            cases h
        | ok progress => exact ⟨progress, rfl⟩
      · rintro ⟨progress, hfold⟩
        exact ⟨_, buildFamilyGraph_of_ok hmap hfold⟩

/-! ### One family -/

/-- What a family has of its rows. -/
structure OfRows (rows : List NegRiskMarketMetadata) (family : NegRiskGraphFamily) : Prop where
  ne_nil : rows ≠ []
  members : family.family.members = rows.map NegRiskMarketMetadata.node
  route : ∃ row ∈ rows, family.family.route = row.route
  variant : IsLUB { variant | ∃ row ∈ rows, variant = row.negRiskVariant } family.negRiskVariant

theorem familyOf_eq_some (h : familyOf metadata familyId = some family) :
    family.family.familyId = familyId ∧ OfRows (rowsOf metadata familyId) family := by
  rw [familyOf] at h
  cases hrows : rowsOf metadata familyId with
  | nil =>
      rw [hrows] at h
      cases h
  | cons first rest =>
      rw [hrows] at h
      obtain rfl := Option.some.inj h
      refine ⟨rfl, ⟨List.cons_ne_nil first rest, rfl, ⟨first, List.mem_cons_self, rfl⟩, ?_⟩⟩
      refine isLUB_iff_le_iff.mpr fun bound ↦ ?_
      simp only [graphFamily, VariantOrder.mergeVariant_eq_sup]
      rw [foldl_sup_le_iff]
      constructor
      · rintro ⟨-, hall⟩ variant ⟨row, hrow, rfl⟩
        exact hall row hrow
      · intro hbound
        exact ⟨hbound ⟨first, List.mem_cons_self, rfl⟩, fun row hrow ↦ hbound ⟨row, hrow, rfl⟩⟩

theorem exists_familyOf (h : ∃ row ∈ metadata, row.eventFamilyId = familyId) :
    ∃ family, familyOf metadata familyId = some family := by
  obtain ⟨row, hrow, hfamily⟩ := h
  have hmem := mem_rowsOf.mpr ⟨hrow, hfamily⟩
  rw [familyOf]
  cases hrows : rowsOf metadata familyId with
  | nil =>
      rw [hrows] at hmem
      cases hmem
  | cons first rest => exact ⟨_, rfl⟩

/-! ### The partition -/

/-- The families divide the rows: each family has the rows of its event as members, each row
is one member in all, and a family has one route and the join of its rows' variants. -/
structure Partitions (metadata : List NegRiskMarketMetadata) (graph : NegRiskGraph) : Prop where
  familyIds : (graph.families.map (·.family.familyId)).Nodup
  family : ∀ row ∈ metadata, ∃ family ∈ graph.families, family.family.familyId = row.eventFamilyId
  rows : ∀ family ∈ graph.families, OfRows (rowsOf metadata family.family.familyId) family
  members : (graph.families.flatMap (·.family.members)).Perm
    (metadata.map NegRiskMarketMetadata.node)
  tokens : ((graph.families.flatMap (·.family.members)).map (·.tokenId)).Nodup
  routes : ∀ family ∈ graph.families, ∀ member ∈ family.family.members,
    member.route = family.family.route

/-- Rows that were accepted have distinct tokens. -/
theorem nodup_tokenIds
    (hrecords : ∀ record ∈ records, ∀ record' ∈ records, IdentifierMap.Agree record record')
    (hfits : ∀ row ∈ metadata, Fits records row) (hcompatible : metadata.Pairwise Compatible) :
    (metadata.map (·.tokenId)).Nodup := by
  refine List.pairwise_map.mpr (hcompatible.imp_of_mem fun {row row'} hrow hrow' hpair htoken ↦ ?_)
  obtain ⟨record, hrecord, hkey, -⟩ := hfits row hrow
  obtain ⟨record', hrecord', hkey', -⟩ := hfits row' hrow'
  have htokens : record.tokenId = record'.tokenId :=
    (congrArg Prod.snd hkey).trans (htoken.trans (congrArg Prod.snd hkey').symm)
  -- records of one token are of one condition
  have hconditions : record.conditionId = record'.conditionId :=
    congrArg TokenMetadata.conditionId ((hrecords record hrecord record' hrecord').1 htokens)
  exact hpair.1 (hkey.symm.trans ((Prod.ext hconditions htokens).trans hkey'))

/-- Accepted rows of one family have one route. -/
theorem route_eq_of_pairwise (hcompatible : metadata.Pairwise Compatible) (hrow : row ∈ metadata)
    (hrow' : row' ∈ metadata) (hfamily : row.eventFamilyId = row'.eventFamilyId) :
    row.route = row'.route := by
  rcases eq_or_ne row row' with rfl | hne
  · exact rfl
  · exact (hcompatible.forall hrow hrow' hne).2 hfamily

/-- A view of the families, family by family. -/
theorem map_filterMap_familyOf {δ : Type} {familyOrder : List EventFamilyId}
    (hmem : ∀ familyId ∈ familyOrder, ∃ row ∈ metadata, row.eventFamilyId = familyId)
    {view : NegRiskGraphFamily → δ} {value : EventFamilyId → δ}
    (hview : ∀ familyId family, familyOf metadata familyId = some family →
      view family = value familyId) :
    (familyOrder.filterMap (familyOf metadata)).map view = familyOrder.map value := by
  rw [List.map_filterMap, ← List.filterMap_eq_map]
  refine List.filterMap_congr fun familyId hlisted ↦ ?_
  obtain ⟨family, hfamily⟩ := exists_familyOf (hmem familyId hlisted)
  rw [hfamily, Option.map_some, hview familyId family hfamily]
  rfl

theorem partitions_of_buildFamilyGraph
    (h : buildFamilyGraph records metadata = some (.ok graph)) : Partitions metadata graph := by
  obtain ⟨hrecords, hfits, hcompatible⟩ := (exists_graph_iff records metadata).mp ⟨graph, h⟩
  obtain ⟨familyOrder, hnodup, hmem, hfamilies⟩ := exists_familyOrder h
  have hlisted : ∀ familyId ∈ familyOrder, ∃ row ∈ metadata, row.eventFamilyId = familyId :=
    fun familyId ↦ (hmem familyId).mp
  have hfamilyIds : graph.families.map (·.family.familyId) = familyOrder := by
    rw [hfamilies, map_filterMap_familyOf hlisted fun _ _ hfamily ↦ (familyOf_eq_some hfamily).1,
      List.map_id']
  have hrows : ∀ family ∈ graph.families,
      OfRows (rowsOf metadata family.family.familyId) family := by
    intro family hfamily
    rw [hfamilies, List.mem_filterMap] at hfamily
    obtain ⟨familyId, -, hfamily⟩ := hfamily
    obtain ⟨rfl, hrows⟩ := familyOf_eq_some hfamily
    exact hrows
  have hmembers : (graph.families.flatMap (·.family.members)).Perm
      (metadata.map NegRiskMarketMetadata.node) := by
    have hcover : ∀ row ∈ metadata, row.eventFamilyId ∈ familyOrder :=
      fun row hrow ↦ (hmem row.eventFamilyId).mpr ⟨row, hrow, rfl⟩
    have hperm := (perm_flatMap_filter hnodup hcover).map NegRiskMarketMetadata.node
    rw [List.map_flatMap, List.flatMap_def] at hperm
    rw [List.flatMap_def, hfamilies, map_filterMap_familyOf hlisted fun _ _ hfamily ↦
      (familyOf_eq_some hfamily).2.members]
    exact hperm
  constructor
  case familyIds => rwa [hfamilyIds]
  case family =>
    intro row hrow
    have hlisted := (hmem row.eventFamilyId).mpr ⟨row, hrow, rfl⟩
    rw [← hfamilyIds] at hlisted
    exact List.mem_map.mp hlisted
  case rows => exact hrows
  case members => exact hmembers
  case tokens =>
    refine (hmembers.map _).nodup_iff.mpr ?_
    rw [List.map_map]
    exact nodup_tokenIds hrecords hfits hcompatible
  case routes =>
    intro family hfamily member hmember
    obtain ⟨-, hmembers, ⟨first, hfirst, hroute⟩, -⟩ := hrows family hfamily
    rw [hmembers] at hmember
    obtain ⟨row, hrow, rfl⟩ := List.mem_map.mp hmember
    obtain ⟨hfirst, hfirstFamily⟩ := mem_rowsOf.mp hfirst
    obtain ⟨hrow, hrowFamily⟩ := mem_rowsOf.mp hrow
    rw [hroute]
    exact route_eq_of_pairwise hcompatible hrow hfirst (hrowFamily.trans hfirstFamily.symm)

/-! ### Any order -/

/-- A family without the order of its members. -/
def unordered (family : NegRiskGraphFamily) :
    EventFamilyId × MarketRoute × NegRiskVariant × Multiset NegRiskNode :=
  (family.family.familyId, family.family.route, family.negRiskVariant, family.family.members)

theorem exists_graph_iff_of_perm (hrecords : records.Perm records')
    (hmetadata : metadata.Perm metadata') :
    (∃ graph, buildFamilyGraph records metadata = some (.ok graph)) ↔
      ∃ graph', buildFamilyGraph records' metadata' = some (.ok graph') := by
  rw [exists_graph_iff, exists_graph_iff]
  simp only [Fits, hrecords.mem_iff, hmetadata.mem_iff]
  rw [hmetadata.pairwise_iff fun {_ _} h ↦ Std.Symm.symm _ _ h]

/-- The families of rows in another order are the same but for the order of their members. -/
theorem unordered_eq_of_perm (hcompatible : metadata'.Pairwise Compatible)
    (hmetadata : metadata.Perm metadata') {family' : NegRiskGraphFamily}
    (hfamily : familyOf metadata familyId = some family)
    (hfamily' : familyOf metadata' familyId = some family') :
    unordered family = unordered family' := by
  obtain ⟨hid, -, hmembers, ⟨row, hrow, hroute⟩, hvariant⟩ := familyOf_eq_some hfamily
  obtain ⟨hid', -, hmembers', ⟨row', hrow', hroute'⟩, hvariant'⟩ := familyOf_eq_some hfamily'
  have hrows : (rowsOf metadata familyId).Perm (rowsOf metadata' familyId) := hmetadata.filter _
  obtain ⟨hrow, hrowFamily⟩ := mem_rowsOf.mp (hrows.mem_iff.mp hrow)
  obtain ⟨hrow', hrowFamily'⟩ := mem_rowsOf.mp hrow'
  have hroutes := route_eq_of_pairwise hcompatible hrow hrow' (hrowFamily.trans hrowFamily'.symm)
  simp only [hrows.mem_iff] at hvariant
  rw [unordered, unordered, hid, hid', hroute, hroute', hroutes, hvariant.unique hvariant', hmembers,
    hmembers', Multiset.coe_eq_coe.mpr (hrows.map _)]

theorem perm_unordered (hmetadata : metadata.Perm metadata')
    (h : buildFamilyGraph records metadata = some (.ok graph))
    (h' : buildFamilyGraph records' metadata' = some (.ok graph')) :
    (graph.families.map unordered).Perm (graph'.families.map unordered) := by
  obtain ⟨-, -, hcompatible⟩ := (exists_graph_iff records' metadata').mp ⟨graph', h'⟩
  obtain ⟨familyOrder, hnodup, hmem, hfamilies⟩ := exists_familyOrder h
  obtain ⟨familyOrder', hnodup', hmem', hfamilies'⟩ := exists_familyOrder h'
  have hperm : familyOrder.Perm familyOrder' :=
    (List.perm_ext_iff_of_nodup hnodup hnodup').mpr fun familyId ↦ by
      rw [hmem, hmem']
      simp only [hmetadata.mem_iff]
  have hviews : ∀ familyId ∈ familyOrder,
      (familyOf metadata familyId).map unordered = (familyOf metadata' familyId).map unordered := by
    intro familyId hlisted
    obtain ⟨family, hfamily⟩ := exists_familyOf ((hmem familyId).mp hlisted)
    obtain ⟨family', hfamily'⟩ := exists_familyOf ((hmem' familyId).mp (hperm.mem_iff.mp hlisted))
    rw [hfamily, hfamily', Option.map_some, Option.map_some,
      unordered_eq_of_perm hcompatible hmetadata hfamily hfamily']
  rw [hfamilies, hfamilies', List.map_filterMap, List.map_filterMap, List.filterMap_congr hviews]
  exact hperm.filterMap _

/-- A graph that is built divides the metadata into its families.  Whether one is built, and
which families it has but for their order, does not depend on the order of rows and records. -/
theorem familyGraph_is_partition (records : List IdentifierRecord)
    (metadata : List NegRiskMarketMetadata) :
    (∀ graph, buildFamilyGraph records metadata = some (.ok graph) → Partitions metadata graph) ∧
      buildFamilyGraph records metadata ≠ none ∧
      ∀ records' metadata', records.Perm records' → metadata.Perm metadata' →
        ((∃ graph, buildFamilyGraph records metadata = some (.ok graph)) ↔
            ∃ graph', buildFamilyGraph records' metadata' = some (.ok graph')) ∧
          ∀ graph graph', buildFamilyGraph records metadata = some (.ok graph) →
            buildFamilyGraph records' metadata' = some (.ok graph') →
              (graph.families.map unordered).Perm (graph'.families.map unordered) := by
  refine ⟨fun graph ↦ partitions_of_buildFamilyGraph, ?_, fun records' metadata' hrecords hmetadata ↦
    ⟨exists_graph_iff_of_perm hrecords hmetadata, fun graph graph' ↦ perm_unordered hmetadata⟩⟩
  rcases buildFamilyGraph_cases records metadata with ⟨error, herror⟩ | ⟨progress, -, hok⟩
  · rw [herror]
    exact Option.some_ne_none _
  · rw [hok]
    exact Option.some_ne_none _

def sampleMember (tokenId : TokenId) (negRiskVariant : NegRiskVariant) : NegRiskMarketMetadata :=
  { eventFamilyId := "family-1"
    conditionId := "condition-1"
    tokenId
    outcomeLabel := "outcome-" ++ tokenId
    route := .negRisk
    negRiskVariant
    isPlaceholder := false
    isOther := false }

theorem sampleMembers_partitioned :
    ∃ graph graph',
      buildFamilyGraph [IdentifierMap.sampleRecord "a", IdentifierMap.sampleRecord "b"]
        [sampleMember "a" .standard, sampleMember "b" .augmented] = some (.ok graph) ∧
      buildFamilyGraph [IdentifierMap.sampleRecord "b", IdentifierMap.sampleRecord "a"]
        [sampleMember "b" .augmented, sampleMember "a" .standard] = some (.ok graph') ∧
      Partitions [sampleMember "a" .standard, sampleMember "b" .augmented] graph ∧
      (graph.families.map unordered).Perm (graph'.families.map unordered) := by
  obtain ⟨hpartitions, -, hordered⟩ := familyGraph_is_partition
    [IdentifierMap.sampleRecord "a", IdentifierMap.sampleRecord "b"]
    [sampleMember "a" .standard, sampleMember "b" .augmented]
  have hfits : ∀ row ∈ [sampleMember "a" .standard, sampleMember "b" .augmented],
      Fits [IdentifierMap.sampleRecord "a", IdentifierMap.sampleRecord "b"] row := by
    unfold Fits
    decide
  have hcompatible :
      [sampleMember "a" .standard, sampleMember "b" .augmented].Pairwise Compatible := by
    unfold Compatible
    decide
  obtain ⟨graph, hgraph⟩ := (exists_graph_iff _ _).mpr ⟨by decide, hfits, hcompatible⟩
  obtain ⟨hsame, hfamilies⟩ := hordered _ _ (.swap _ _ _) (.swap _ _ _)
  obtain ⟨graph', hgraph'⟩ := hsame.mp ⟨graph, hgraph⟩
  exact ⟨graph, graph', hgraph, hgraph', hpartitions graph hgraph,
    hfamilies graph graph' hgraph hgraph'⟩

end AxiomArb.StrategyNegRisk
