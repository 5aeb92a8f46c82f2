import AxiomArb.StrategyNegRisk.Graph
import Mathlib.Data.List.Nodup

/-!
# The exposure of a family

The exposure of a family of the graph passes over the rows of tokens that the graph does
not list, and is otherwise that of the inventory: the rows of listed tokens amount to the
same quantities, and fail with the same errors.
-/

namespace AxiomArb.StrategyNegRisk

open Domain Library

structure FamilyMemberExposure where
  conditionId : ConditionId
  tokenId : TokenId
  outcomeLabel : String
  bucketQuantities : BucketQuantities

structure FamilyExposureRollup where
  bucketQuantities : BucketQuantities
  memberCount : Nat

structure FamilyExposure where
  familyId : EventFamilyId
  members : List FamilyMemberExposure
  rollup : FamilyExposureRollup

/-- The graph lists the token in the family. -/
def NegRiskGraphFamily.lists (family : NegRiskGraphFamily) (tokenId : TokenId) : Bool :=
  family.family.members.any (·.tokenId = tokenId)

/-! ## Reconstruction -/

structure ExposureProgress where
  quantitiesByToken : BTreeMap TokenId BucketQuantities
  conditionByToken : BTreeMap TokenId ConditionId

namespace ExposureProgress

def empty : ExposureProgress := { quantitiesByToken := ∅, conditionByToken := ∅ }

def addRow (family : NegRiskGraphFamily) (identifierMap : IdentifierMap)
    (progress : ExposureProgress) :
    InventoryRow → Except NegRiskExposureError ExposureProgress
  | (tokenId, bucket, quantity) => do
      if !family.lists tokenId then
        return progress
      let some conditionId := identifierMap.conditionForToken tokenId |
        throw (.missingTokenCondition tokenId)
      let route := identifierMap.routeForCondition conditionId
      if route ≠ some .negRisk then
        throw (.invalidRoute tokenId route)
      let some mappedFamilyId := identifierMap.familyForCondition conditionId |
        throw (.missingFamilyMapping tokenId conditionId)
      if mappedFamilyId ≠ family.family.familyId then
        throw (.mixedFamily tokenId family.family.familyId mappedFamilyId)
      return {
        conditionByToken := progress.conditionByToken.insert tokenId conditionId
        quantitiesByToken := progress.quantitiesByToken.insert tokenId
          (addQuantity (progress.quantitiesByToken[tokenId]?.getD ∅) (bucket, quantity)) }

/-- Take the members out that have quantities, in the order of the graph; each of them has
a condition. -/
def takeMembers : List NegRiskNode → ExposureProgress → Option (List FamilyMemberExposure)
  | [], _ => some []
  | member :: members, progress =>
      match progress.quantitiesByToken[member.tokenId]? with
      | none => takeMembers members progress
      | some bucketQuantities => do
          let conditionId ← progress.conditionByToken[member.tokenId]?
          let rest ← takeMembers members {
            quantitiesByToken := progress.quantitiesByToken.erase member.tokenId
            conditionByToken := progress.conditionByToken.erase member.tokenId }
          return {
            conditionId
            tokenId := member.tokenId
            outcomeLabel := member.outcomeLabel
            bucketQuantities } :: rest

end ExposureProgress

def reconstructFamilyExposure (family : NegRiskGraphFamily) (inventoryRows : List InventoryRow)
    (identifierMap : IdentifierMap) : Option (Except NegRiskExposureError FamilyExposure) :=
  match inventoryRows.foldlM (ExposureProgress.addRow family identifierMap) .empty with
  | .error error => some (.error error)
  | .ok progress =>
      if progress.quantitiesByToken.isEmpty then
        some (.error .emptyInventory)
      else do
        let members ← progress.takeMembers family.family.members
        return .ok {
          familyId := family.family.familyId
          members
          rollup := {
            bucketQuantities :=
              (members.map FamilyMemberExposure.bucketQuantities).foldl addToRollup ∅
            memberCount := members.length } }

/-! ## The same exposure -/

/-- The exposures have the same quantities for each token, and the same sums. -/
structure SameExposure (exposure : FamilyExposure) (vector : NegRiskExposureVector) : Prop where
  familyId : exposure.familyId = vector.familyId
  members : (exposure.members.map fun member ↦ (member.tokenId, member.bucketQuantities)).Perm
    (vector.members.map fun member ↦ (member.tokenId, member.bucketQuantities))
  bucketQuantities : exposure.rollup.bucketQuantities = vector.rollup.bucketQuantities
  memberCount : exposure.rollup.memberCount = vector.rollup.memberCount

/-- The rows so far amount to the same, and are all of tokens that the family lists. -/
structure SameProgress (family : NegRiskGraphFamily) (progress : ExposureProgress)
    (progress' : NegRiskExposureVector.Progress) : Prop where
  quantities : ∀ tokenId : TokenId, progress.quantitiesByToken[tokenId]? =
    progress'.memberQuantities[tokenId]?.map NegRiskMemberExposure.bucketQuantities
  tokens : ∀ (tokenId : TokenId) (entry : NegRiskMemberExposure),
    progress'.memberQuantities[tokenId]? = some entry → entry.tokenId = tokenId
  conditions : ∀ tokenId : TokenId, progress.quantitiesByToken[tokenId]?.isSome →
    progress.conditionByToken[tokenId]?.isSome
  listed : ∀ tokenId : TokenId, progress.quantitiesByToken[tokenId]?.isSome → family.lists tokenId
  familyId : progress'.familyId =
    if progress.quantitiesByToken = ∅ then none else some family.family.familyId

section Rows

variable {family : NegRiskGraphFamily} {identifierMap : IdentifierMap} {progress : ExposureProgress}
  {progress' : NegRiskExposureVector.Progress} {row : InventoryRow}

theorem addRow_of_not_lists (h : family.lists row.1 = false) :
    progress.addRow family identifierMap row = .ok progress := by
  obtain ⟨tokenId, bucket, quantity⟩ := row
  rw [ExposureProgress.addRow, if_pos (by simpa using h)]
  rfl

/-- Entering one row keeps the two alike. -/
theorem SameProgress.insert (hsame : SameProgress family progress progress') {tokenId : TokenId}
    {bucket : InventoryBucket} {quantity : Decimal} {conditionId : ConditionId} {label : String}
    {entry : NegRiskMemberExposure} (hlists : family.lists tokenId = true)
    (hentry : entry = progress'.memberQuantities[tokenId]?.getD
      { tokenId, outcomeLabel := label, bucketQuantities := ∅ }) :
    SameProgress family
      { conditionByToken := progress.conditionByToken.insert tokenId conditionId
        quantitiesByToken := progress.quantitiesByToken.insert tokenId
          (addQuantity (progress.quantitiesByToken[tokenId]?.getD ∅) (bucket, quantity)) }
      { memberQuantities := progress'.memberQuantities.insert tokenId
          { entry with bucketQuantities := addQuantity entry.bucketQuantities (bucket, quantity) }
        familyId := some family.family.familyId } := by
  have hbefore : progress.quantitiesByToken[tokenId]?.getD ∅ = entry.bucketQuantities := by
    rw [hsame.quantities, hentry]
    cases progress'.memberQuantities[tokenId]? <;> rfl
  have htoken : entry.tokenId = tokenId := by
    rw [hentry]
    cases hknown : progress'.memberQuantities[tokenId]? with
    | none => rfl
    | some known => exact hsame.tokens tokenId known hknown
  constructor
  · intro tokenId'
    simp only [BTreeMap.lookup_insert]
    split_ifs
    · rw [hbefore]
      rfl
    · exact hsame.quantities tokenId'
  · intro tokenId' entry' hlookup
    simp only [BTreeMap.lookup_insert] at hlookup
    split_ifs at hlookup with heq
    · obtain rfl := Option.some.inj hlookup
      exact htoken.trans heq
    · exact hsame.tokens tokenId' entry' hlookup
  · intro tokenId' hsome
    simp only [BTreeMap.lookup_insert] at hsome ⊢
    split_ifs at hsome ⊢
    · rfl
    · exact hsame.conditions tokenId' hsome
  · intro tokenId' hsome
    simp only [BTreeMap.lookup_insert] at hsome
    split_ifs at hsome with heq
    · exact heq ▸ hlists
    · exact hsame.listed tokenId' hsome
  · exact (if_neg BTreeMap.insert_ne_empty).symm

/-- A row of a listed token is entered by both, or refused by both for its route. -/
theorem sameOutcome_addRow {conditionId : ConditionId} (hsame : SameProgress family progress progress')
    (hlists : family.lists row.1 = true)
    (hcondition : identifierMap.conditionForToken row.1 = some conditionId)
    (hfamily : identifierMap.familyForCondition conditionId = some family.family.familyId) :
    SameOutcome (SameProgress family) (progress.addRow family identifierMap row)
      (NegRiskExposureVector.addRow identifierMap progress' row) := by
  obtain ⟨tokenId, bucket, quantity⟩ := row
  simp only at hlists hcondition
  have hknown : progress'.familyId = none ∨ progress'.familyId = some family.family.familyId := by
    rw [hsame.familyId]
    split_ifs <;> simp
  rw [ExposureProgress.addRow, if_neg (by simpa using hlists), NegRiskExposureVector.addRow]
  simp only [hcondition, hfamily]
  by_cases hroute : identifierMap.routeForCondition conditionId = some .negRisk
  · rcases hknown with hnone | hsome
    · simp only [hroute, hnone, ne_eq, not_true_eq_false, if_false]
      exact hsame.insert hlists rfl
    · simp only [hroute, hsome, ne_eq, not_true_eq_false, if_false]
      exact hsame.insert hlists rfl
  · simp only [hroute, ne_eq, not_false_eq_true, if_true]
    rfl

end Rows

/-! ### Members -/

section Members

variable {family : NegRiskGraphFamily} {progress : ExposureProgress}
  {progress' : NegRiskExposureVector.Progress}

/-- The members that are taken out are the nodes with quantities, each token once. -/
theorem exists_takeMembers (nodes : List NegRiskNode)
    (hconditions : ∀ tokenId : TokenId, progress.quantitiesByToken[tokenId]?.isSome →
      progress.conditionByToken[tokenId]?.isSome) :
    ∃ members, progress.takeMembers nodes = some members ∧
      (members.map FamilyMemberExposure.tokenId).Nodup ∧
      ∀ (tokenId : TokenId) (quantities : BucketQuantities),
        (tokenId, quantities) ∈ members.map (fun member ↦ (member.tokenId, member.bucketQuantities)) ↔
          tokenId ∈ nodes.map NegRiskNode.tokenId ∧
            progress.quantitiesByToken[tokenId]? = some quantities := by
  induction nodes generalizing progress with
  | nil => exact ⟨[], rfl, List.nodup_nil, by simp⟩
  | cons node nodes ih =>
      rw [ExposureProgress.takeMembers]
      split
      · rename_i hnone
        obtain ⟨members, htake, hnodup, hmem⟩ := ih hconditions
        refine ⟨members, htake, hnodup, fun tokenId quantities ↦ ?_⟩
        rw [hmem, List.map_cons, List.mem_cons]
        constructor
        · rintro ⟨hnode, hquantities⟩
          exact ⟨.inr hnode, hquantities⟩
        · rintro ⟨rfl | hnode, hquantities⟩
          · rw [hnone] at hquantities
            cases hquantities
          · exact ⟨hnode, hquantities⟩
      · rename_i found hfound
        obtain ⟨conditionId, hcondition⟩ := Option.isSome_iff_exists.mp
          (hconditions node.tokenId (by rw [hfound]; rfl))
        obtain ⟨members, htake, hnodup, hmem⟩ := @ih
          { quantitiesByToken := progress.quantitiesByToken.erase node.tokenId
            conditionByToken := progress.conditionByToken.erase node.tokenId } <| by
          intro tokenId hsome
          by_cases heq : node.tokenId = tokenId
          · rw [heq, Std.ExtTreeMap.getElem?_erase_self] at hsome
            cases hsome
          · rw [BTreeMap.lookup_erase_of_ne heq] at hsome ⊢
            exact hconditions tokenId hsome
        simp only [hcondition, htake]
        refine ⟨_, rfl, ?_, fun tokenId quantities ↦ ?_⟩
        · rw [List.map_cons, List.nodup_cons]
          refine ⟨fun hagain ↦ ?_, hnodup⟩
          obtain ⟨member, hmember, htoken⟩ := List.mem_map.mp hagain
          have hlookup := ((hmem member.tokenId member.bucketQuantities).mp
            (List.mem_map.mpr ⟨member, hmember, rfl⟩)).2
          rw [htoken, Std.ExtTreeMap.getElem?_erase_self] at hlookup
          cases hlookup
        · rw [List.map_cons, List.mem_cons, hmem, List.map_cons, List.mem_cons, Prod.mk.injEq]
          by_cases heq : node.tokenId = tokenId
          · subst heq
            rw [Std.ExtTreeMap.getElem?_erase_self, hfound, Option.some.injEq]
            simp [eq_comm]
          · rw [BTreeMap.lookup_erase_of_ne heq]
            simp [Ne.symm heq]

/-- What was entered alike comes out with the same members. -/
theorem SameProgress.exists_members_perm (hsame : SameProgress family progress progress') :
    ∃ members, progress.takeMembers family.family.members = some members ∧
      (members.map fun member ↦ (member.tokenId, member.bucketQuantities)).Perm
        ((sortByKey NegRiskMemberExposure.tokenId progress'.memberQuantities.vals).map
          fun member ↦ (member.tokenId, member.bucketQuantities)) := by
  obtain ⟨members, htake, hnodup, hmem⟩ := exists_takeMembers family.family.members hsame.conditions
  refine ⟨members, htake, ?_⟩
  have hvals : ((sortByKey NegRiskMemberExposure.tokenId progress'.memberQuantities.vals).map
      fun member ↦ (member.tokenId, member.bucketQuantities)).Perm
      (progress'.memberQuantities.vals.map fun member ↦ (member.tokenId, member.bucketQuantities)) :=
    (perm_sortByKey _ _).map _
  refine List.Perm.trans ?_ hvals.symm
  refine (List.perm_ext_iff_of_nodup ?_ ?_).mpr fun ⟨tokenId, quantities⟩ ↦ ?_
  · refine List.Nodup.of_map Prod.fst ?_
    rw [List.map_map]
    exact hnodup
  · refine List.Nodup.of_map Prod.fst ?_
    rw [List.map_map]
    have hkeys := BTreeMap.map_key_vals hsame.tokens
    exact hkeys ▸ Std.ExtTreeMap.nodup_keys
  · rw [hmem, hsame.quantities, Option.map_eq_some_iff]
    constructor
    · rintro ⟨-, entry, hlookup, rfl⟩
      have htoken := hsame.tokens tokenId entry hlookup
      refine List.mem_map.mpr ⟨entry, (BTreeMap.mem_vals_iff hsame.tokens).mpr ?_, by rw [htoken]⟩
      rw [htoken]
      exact hlookup
    · intro hmember
      obtain ⟨entry, hentry, heq⟩ := List.mem_map.mp hmember
      obtain ⟨rfl, rfl⟩ := Prod.mk.inj heq
      have hlookup := (BTreeMap.mem_vals_iff hsame.tokens).mp hentry
      refine ⟨?_, entry, hlookup, rfl⟩
      have hlisted := hsame.listed entry.tokenId (by rw [hsame.quantities, hlookup]; rfl)
      rw [NegRiskGraphFamily.lists, List.any_eq_true] at hlisted
      obtain ⟨node, hnode, htoken⟩ := hlisted
      exact List.mem_map.mpr ⟨node, hnode, of_decide_eq_true htoken⟩

end Members

/-! ### Exposures -/

section Exposure

variable {records : List IdentifierRecord} {metadata : List NegRiskMarketMetadata}
  {graph : NegRiskGraph} {identifierMap : IdentifierMap} {family : NegRiskGraphFamily}
  {progress : ExposureProgress} {progress' : NegRiskExposureVector.Progress}

theorem sameProgress_empty (family : NegRiskGraphFamily) :
    SameProgress family .empty { memberQuantities := ∅, familyId := none } := by
  constructor <;> simp [ExposureProgress.empty]

/-- A row that is entered settles the family. -/
theorem isSome_familyId_of_addRow {row : InventoryRow} {next : NegRiskExposureVector.Progress}
    (h : NegRiskExposureVector.addRow identifierMap progress' row = .ok next) :
    next.familyId.isSome := by
  obtain ⟨tokenId, bucket, quantity⟩ := row
  simp only [NegRiskExposureVector.addRow] at h
  cases hcondition : identifierMap.conditionForToken tokenId with
  | none =>
      simp only [hcondition] at h
      cases h
  | some conditionId =>
      simp only [hcondition] at h
      split at h
      · cases h
      cases hfamily : identifierMap.familyForCondition conditionId with
      | none =>
          simp only [hfamily] at h
          cases h
      | some foundFamilyId =>
          simp only [hfamily] at h
          split at h
          · split at h
            · cases h
            · obtain rfl := Except.ok.inj h
              rfl
          · obtain rfl := Except.ok.inj h
            rfl

/-- A listed token has a record of the family, so that the map of the records resolves it. -/
theorem exists_condition_of_lists (hgraph : buildFamilyGraph records metadata = some (.ok graph))
    (hmap : IdentifierMap.fromRecords records = .ok identifierMap) (hfamily : family ∈ graph.families)
    {tokenId : TokenId} (hlists : family.lists tokenId = true) :
    ∃ conditionId, identifierMap.conditionForToken tokenId = some conditionId ∧
      identifierMap.familyForCondition conditionId = some family.family.familyId := by
  rw [NegRiskGraphFamily.lists, List.any_eq_true] at hlists
  obtain ⟨node, hnode, htoken⟩ := hlists
  obtain ⟨record, hrecord, hid, hrecordToken⟩ := exists_record_of_mem hgraph hfamily hnode
  have hcovers := IdentifierMap.covers_of_fromRecords hmap
  rw [of_decide_eq_true htoken] at hrecordToken
  rw [← hrecordToken, ← hid]
  exact ⟨record.conditionId, hcovers.conditionForToken hrecord, hcovers.familyForCondition hrecord⟩

/-- The loops over the rows go alike, if that over the inventory has the listed rows only. -/
theorem sameOutcome_rows (hgraph : buildFamilyGraph records metadata = some (.ok graph))
    (hmap : IdentifierMap.fromRecords records = .ok identifierMap) (hfamily : family ∈ graph.families)
    (rows : List InventoryRow) :
    SameOutcome (SameProgress family)
      (rows.foldlM (ExposureProgress.addRow family identifierMap) .empty)
      ((rows.filter fun row ↦ family.lists row.1).foldlM (NegRiskExposureVector.addRow identifierMap)
        { memberQuantities := ∅, familyId := none }) := by
  refine sameOutcome_foldlM_filter ?_ ?_ (sameProgress_empty family)
  · intro progress row _ hlists
    exact addRow_of_not_lists hlists
  · intro progress progress' row _ hsame hlists
    obtain ⟨conditionId, hcondition, hresolves⟩ := exists_condition_of_lists hgraph hmap hfamily hlists
    exact sameOutcome_addRow hsame hlists hcondition hresolves

theorem isSome_familyId_of_foldlM {row : InventoryRow} {rows : List InventoryRow}
    (h : (row :: rows).foldlM (NegRiskExposureVector.addRow identifierMap)
      { memberQuantities := ∅, familyId := none } = .ok progress') : progress'.familyId.isSome := by
  have hstep : ∀ (done : List InventoryRow) (row : InventoryRow)
      (progress next : NegRiskExposureVector.Progress), (done ≠ [] → progress.familyId.isSome) →
      NegRiskExposureVector.addRow identifierMap progress row = .ok next →
      (done ++ [row] ≠ [] → next.familyId.isSome) :=
    fun _ _ _ _ _ h _ ↦ isSome_familyId_of_addRow h
  exact foldlM_induction hstep (fun hne ↦ absurd rfl hne) h (List.cons_ne_nil row rows)

end Exposure

/-! ### Samples -/

def sampleRecord (conditionId tokenId : String) : IdentifierRecord :=
  { eventId := "event-1"
    eventFamilyId := "family-1"
    marketId := "market-1"
    conditionId
    tokenId
    outcomeLabel := "Alice"
    route := .negRisk }

def sampleRow (conditionId tokenId : String) : NegRiskMarketMetadata :=
  { eventFamilyId := "family-1"
    conditionId
    tokenId
    outcomeLabel := "Alice"
    route := .negRisk
    negRiskVariant := .standard
    isPlaceholder := false
    isOther := false }

def sampleRecords : List IdentifierRecord :=
  [sampleRecord "condition-1" "token-1", sampleRecord "condition-2" "token-2"]

def sampleFamily : NegRiskGraphFamily :=
  { family :=
      { familyId := "family-1"
        route := .negRisk
        members := [{
          tokenId := "token-1"
          outcomeLabel := "Alice"
          isPlaceholder := false
          isOther := false
          route := .negRisk }] }
    negRiskVariant := .standard }

/-- The metadata lists one of two tokens of the family. -/
theorem sampleGraph_built : buildFamilyGraph sampleRecords [sampleRow "condition-1" "token-1"] =
    some (.ok { families := [sampleFamily] }) := by
  rfl

def sampleMap : IdentifierMap :=
  { tokenToMetadata := .ofList
      (sampleRecords.map fun record ↦ (record.tokenId, record.tokenMetadata)) compare
    conditionToMetadata := .ofList
      (sampleRecords.map fun record ↦ (record.conditionId, record.conditionMetadata)) compare }

theorem sampleMap_built : IdentifierMap.fromRecords sampleRecords = .ok sampleMap := by
  rfl

/-- The token belongs to the family, by the map. -/
def Resolves (identifierMap : IdentifierMap) (tokenId : TokenId) (familyId : EventFamilyId) : Prop :=
  ∃ conditionId, identifierMap.conditionForToken tokenId = some conditionId ∧
    identifierMap.routeForCondition conditionId = some .negRisk ∧
    identifierMap.familyForCondition conditionId = some familyId

end AxiomArb.StrategyNegRisk
