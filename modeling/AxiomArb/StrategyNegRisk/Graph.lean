import AxiomArb.Domain.NegRisk

/-!
# The family graph

Families of neg-risk markets, gathered from metadata whose rows must each have an
identifier record that agrees with it.  A family has the members that the metadata lists,
which need not be all the tokens of its records.
-/

namespace AxiomArb.StrategyNegRisk

open Domain Library

structure NegRiskMarketMetadata where
  eventFamilyId : String
  conditionId : String
  tokenId : String
  outcomeLabel : String
  route : MarketRoute
  negRiskVariant : NegRiskVariant
  isPlaceholder : Bool
  isOther : Bool
deriving DecidableEq, Repr

structure NegRiskGraphFamily where
  family : NegRiskFamily
  negRiskVariant : NegRiskVariant
deriving DecidableEq, Repr

structure NegRiskGraph where
  families : List NegRiskGraphFamily
deriving DecidableEq, Repr

inductive GraphBuildError where
  | invalidIdentifierRecords (error : IdentifierMapError)
  | duplicateMetadataMember (eventFamilyId conditionId tokenId : String)
  | missingIdentifierRecord (conditionId tokenId : String)
  | mismatchedFamilyId (conditionId recordFamilyId metadataFamilyId : String)
  | mismatchedRoute (conditionId : String) (recordRoute metadataRoute : MarketRoute)
  | mixedFamilyRoute (eventFamilyId : String) (existingRoute newRoute : MarketRoute)
deriving DecidableEq, Repr

structure FamilyAccumulator where
  familyId : EventFamilyId
  route : MarketRoute
  members : List NegRiskNode
  variant : NegRiskVariant
deriving DecidableEq, Repr

def mergeVariant : NegRiskVariant → NegRiskVariant → NegRiskVariant
  | .augmented, _ | _, .augmented => .augmented
  | .unknown, _ | _, .unknown => .unknown
  | _, _ => .standard

/-- What the rows so far amount to; families in the order of their first rows. -/
structure GraphProgress where
  familyOrder : List EventFamilyId
  accumulators : BTreeMap EventFamilyId FamilyAccumulator
  seenMetadataMembers : List (String × String)

namespace GraphProgress

def empty : GraphProgress :=
  { familyOrder := [], accumulators := ∅, seenMetadataMembers := [] }

/-- The family a row goes to, and the order with it; a new family is opened. -/
def accumulator (progress : GraphProgress) (record : IdentifierRecord)
    (row : NegRiskMarketMetadata) : List EventFamilyId × FamilyAccumulator :=
  match progress.accumulators[record.eventFamilyId]? with
  | some family => (progress.familyOrder, family)
  | none => (progress.familyOrder ++ [record.eventFamilyId],
      { familyId := record.eventFamilyId
        route := record.route
        members := []
        variant := row.negRiskVariant })

def addRow (records : List IdentifierRecord) (progress : GraphProgress)
    (row : NegRiskMarketMetadata) : Except GraphBuildError GraphProgress := do
  let memberKey := (row.conditionId, row.tokenId)
  if memberKey ∈ progress.seenMetadataMembers then
    throw (.duplicateMetadataMember row.eventFamilyId row.conditionId row.tokenId)
  -- of records with one key the first is kept
  let some record := records.find? fun record ↦ (record.conditionId, record.tokenId) = memberKey |
    throw (.missingIdentifierRecord row.conditionId row.tokenId)
  if record.eventFamilyId ≠ row.eventFamilyId then
    throw (.mismatchedFamilyId row.conditionId record.eventFamilyId row.eventFamilyId)
  if record.route ≠ row.route then
    throw (.mismatchedRoute row.conditionId record.route row.route)
  let (familyOrder, family) := progress.accumulator record row
  if family.route ≠ record.route then
    throw (.mixedFamilyRoute family.familyId family.route record.route)
  let node : NegRiskNode := {
    tokenId := row.tokenId
    outcomeLabel := row.outcomeLabel
    isPlaceholder := row.isPlaceholder
    isOther := row.isOther
    route := row.route }
  return {
    familyOrder
    accumulators := progress.accumulators.insert record.eventFamilyId
      { family with
        variant := mergeVariant family.variant row.negRiskVariant
        members := family.members ++ [node] }
    seenMetadataMembers := memberKey :: progress.seenMetadataMembers }

/-- Take the families out in their order; each is there. -/
def takeFamilies : List EventFamilyId → BTreeMap EventFamilyId FamilyAccumulator →
    Option (List NegRiskGraphFamily)
  | [], _ => some []
  | familyId :: familyOrder, accumulators => do
      let family ← accumulators[familyId]?
      let families ← takeFamilies familyOrder (accumulators.erase familyId)
      return {
        family := { familyId := family.familyId, route := family.route, members := family.members }
        negRiskVariant := family.variant } :: families

end GraphProgress

def buildFamilyGraph (records : List IdentifierRecord) (metadata : List NegRiskMarketMetadata) :
    Option (Except GraphBuildError NegRiskGraph) :=
  match IdentifierMap.fromRecords records with
  | .error error => some (.error (.invalidIdentifierRecords error))
  | .ok _ =>
      match metadata.foldlM (GraphProgress.addRow records) .empty with
      | .error error => some (.error error)
      | .ok progress => do
          let families ← GraphProgress.takeFamilies progress.familyOrder progress.accumulators
          return .ok { families }

/-! ## Members and their records -/

/-- The members of each family have records of that family. -/
def GraphProgress.Recorded (records : List IdentifierRecord) (progress : GraphProgress) : Prop :=
  ∀ (familyId : EventFamilyId) (family : FamilyAccumulator),
    progress.accumulators[familyId]? = some family → family.familyId = familyId ∧
      ∀ member ∈ family.members, ∃ record ∈ records,
        record.eventFamilyId = familyId ∧ record.tokenId = member.tokenId

section Members

variable {records : List IdentifierRecord} {metadata : List NegRiskMarketMetadata}
  {progress progress' : GraphProgress} {row : NegRiskMarketMetadata}

theorem GraphProgress.Recorded.accumulator (hrecorded : progress.Recorded records)
    (record : IdentifierRecord) (row : NegRiskMarketMetadata) :
    (progress.accumulator record row).2.familyId = record.eventFamilyId ∧
      ∀ member ∈ (progress.accumulator record row).2.members, ∃ record' ∈ records,
        record'.eventFamilyId = record.eventFamilyId ∧ record'.tokenId = member.tokenId := by
  rw [GraphProgress.accumulator]
  split
  · rename_i family hfamily
    exact hrecorded _ family hfamily
  · exact ⟨rfl, fun _ hmem ↦ absurd hmem List.not_mem_nil⟩

/-- The row as a member of its family. -/
def NegRiskMarketMetadata.node (row : NegRiskMarketMetadata) : NegRiskNode :=
  { tokenId := row.tokenId
    outcomeLabel := row.outcomeLabel
    isPlaceholder := row.isPlaceholder
    isOther := row.isOther
    route := row.route }

def NegRiskMarketMetadata.memberKey (row : NegRiskMarketMetadata) : String × String :=
  (row.conditionId, row.tokenId)

/-- What a row is checked for, and what it changes. -/
theorem GraphProgress.addRow_eq_ok_iff : progress.addRow records row = .ok progress' ↔
    row.memberKey ∉ progress.seenMetadataMembers ∧ ∃ record,
      (records.find? fun record ↦ (record.conditionId, record.tokenId) = row.memberKey) =
          some record ∧
        record.eventFamilyId = row.eventFamilyId ∧ record.route = row.route ∧
        (progress.accumulator record row).2.route = record.route ∧
        progress' =
          { familyOrder := (progress.accumulator record row).1
            accumulators := progress.accumulators.insert record.eventFamilyId
              { (progress.accumulator record row).2 with
                variant := mergeVariant (progress.accumulator record row).2.variant row.negRiskVariant
                members := (progress.accumulator record row).2.members ++ [row.node] }
            seenMetadataMembers := row.memberKey :: progress.seenMetadataMembers } := by
  have hkey : row.memberKey = (row.conditionId, row.tokenId) := rfl
  simp only [GraphProgress.addRow, ← hkey]
  by_cases hseen : row.memberKey ∈ progress.seenMetadataMembers
  · rw [if_pos hseen]
    exact iff_of_false (fun h ↦ nomatch h) fun h ↦ h.1 hseen
  rw [if_neg hseen, and_iff_right hseen]
  cases hrecord : records.find? fun record ↦ (record.conditionId, record.tokenId) = row.memberKey with
  | none =>
      refine iff_of_false (fun h ↦ nomatch h) ?_
      rintro ⟨record, hsome, -⟩
      cases hsome
  | some record =>
      simp only [Option.some.injEq, exists_eq_left']
      by_cases hfamily : record.eventFamilyId = row.eventFamilyId
      swap
      · rw [if_pos hfamily]
        exact iff_of_false (fun h ↦ nomatch h) fun h ↦ hfamily h.1
      by_cases hroute : record.route = row.route
      swap
      · rw [if_neg (not_not.mpr hfamily), if_pos hroute]
        exact iff_of_false (fun h ↦ nomatch h) fun h ↦ hroute h.2.1
      rw [if_neg (not_not.mpr hfamily), if_neg (not_not.mpr hroute)]
      by_cases hmixed : (progress.accumulator record row).2.route = record.route
      · rw [if_neg (not_not.mpr hmixed)]
        constructor
        · intro h
          exact ⟨hfamily, hroute, hmixed, (Except.ok.inj h).symm⟩
        · rintro ⟨-, -, -, rfl⟩
          rfl
      · rw [if_pos hmixed]
        exact iff_of_false (fun h ↦ nomatch h) fun h ↦ hmixed h.2.2.1

/-- What a row that is accepted changes. -/
theorem GraphProgress.addRow_ok (h : progress.addRow records row = .ok progress') :
    ∃ record ∈ records, record.tokenId = row.tokenId ∧
      progress'.accumulators = progress.accumulators.insert record.eventFamilyId
        { (progress.accumulator record row).2 with
          variant := mergeVariant (progress.accumulator record row).2.variant row.negRiskVariant
          members := (progress.accumulator record row).2.members ++ [row.node] } := by
  obtain ⟨-, record, hrecord, -, -, -, rfl⟩ := GraphProgress.addRow_eq_ok_iff.mp h
  have hkey : (record.conditionId, record.tokenId) = row.memberKey := by
    simpa using List.find?_some hrecord
  exact ⟨record, List.mem_of_find?_eq_some hrecord, congrArg Prod.snd hkey, rfl⟩

theorem GraphProgress.Recorded.addRow (hrecorded : progress.Recorded records)
    (h : progress.addRow records row = .ok progress') : progress'.Recorded records := by
  obtain ⟨record, hmem, htoken, haccumulators⟩ := GraphProgress.addRow_ok h
  obtain ⟨hfamilyId, hmembers⟩ := hrecorded.accumulator record row
  intro familyId family hfamily
  rw [haccumulators, BTreeMap.lookup_insert] at hfamily
  split_ifs at hfamily with heq
  · obtain rfl := heq
    obtain rfl := Option.some.inj hfamily
    refine ⟨hfamilyId, fun member hmember ↦ ?_⟩
    rcases List.mem_append.mp hmember with hbefore | hnew
    · exact hmembers member hbefore
    · rw [List.mem_singleton.mp hnew]
      exact ⟨record, hmem, rfl, htoken⟩
  · exact hrecorded familyId family hfamily

theorem GraphProgress.mem_takeFamilies {familyOrder : List EventFamilyId}
    {accumulators : BTreeMap EventFamilyId FamilyAccumulator} {families : List NegRiskGraphFamily}
    {family : NegRiskGraphFamily} (h : takeFamilies familyOrder accumulators = some families)
    (hfamily : family ∈ families) :
    ∃ (familyId : EventFamilyId) (accumulator : FamilyAccumulator),
      accumulators[familyId]? = some accumulator ∧ family.family.familyId = accumulator.familyId ∧
        family.family.members = accumulator.members := by
  induction familyOrder generalizing accumulators families with
  | nil =>
      obtain rfl : [] = families := Option.some.inj h
      cases hfamily
  | cons familyId familyOrder ih =>
      simp only [takeFamilies, Option.bind_eq_bind, Option.bind_eq_some_iff, Option.pure_def,
        Option.some.injEq] at h
      obtain ⟨accumulator, hlookup, rest, hrest, rfl⟩ := h
      rcases List.mem_cons.mp hfamily with rfl | hlater
      · exact ⟨familyId, accumulator, hlookup, rfl, rfl⟩
      · obtain ⟨familyId', accumulator', hlookup', hsame⟩ := ih hrest hlater
        refine ⟨familyId', accumulator', ?_, hsame⟩
        have hne : familyId ≠ familyId' := fun heq ↦ by
          rw [heq, Std.ExtTreeMap.getElem?_erase_self] at hlookup'
          cases hlookup'
        rwa [BTreeMap.lookup_erase_of_ne hne] at hlookup'

/-- Each member of a family of the graph has a record of that family. -/
theorem exists_record_of_mem {graph : NegRiskGraph} {family : NegRiskGraphFamily}
    {member : NegRiskNode} (h : buildFamilyGraph records metadata = some (.ok graph))
    (hfamily : family ∈ graph.families) (hmember : member ∈ family.family.members) :
    ∃ record ∈ records, record.eventFamilyId = family.family.familyId ∧
      record.tokenId = member.tokenId := by
  rw [buildFamilyGraph] at h
  split at h
  · cases h
  · split at h
    · cases h
    · rename_i progress hprogress
      simp only [Option.bind_eq_bind, Option.bind_eq_some_iff, Option.pure_def, Option.some.injEq,
        Except.ok.injEq] at h
      obtain ⟨families, hfamilies, rfl⟩ := h
      have hstep : ∀ (done : List NegRiskMarketMetadata) (row : NegRiskMarketMetadata)
          (progress progress' : GraphProgress), progress.Recorded records →
          progress.addRow records row = .ok progress' → progress'.Recorded records :=
        fun _ _ _ _ hrecorded h ↦ hrecorded.addRow h
      have hrecorded : progress.Recorded records :=
        foldlM_induction hstep (fun _ _ hempty ↦ by simp [GraphProgress.empty] at hempty) hprogress
      obtain ⟨familyId, accumulator, hlookup, hfamilyId, hmembers⟩ :=
        GraphProgress.mem_takeFamilies hfamilies hfamily
      obtain ⟨hid, hrecords⟩ := hrecorded familyId accumulator hlookup
      rw [hfamilyId, hid]
      exact hrecords member (hmembers ▸ hmember)

end Members

end AxiomArb.StrategyNegRisk
