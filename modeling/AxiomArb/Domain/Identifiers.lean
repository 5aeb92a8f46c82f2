import AxiomArb.Domain.Market
import AxiomArb.Library.Fallible
import Mathlib.Data.List.Pairwise
import Mathlib.Tactic.Tauto

/-!
# Identifier records

Which condition a token belongs to, and the market, event, family and route of each
condition.  The map of a list of records answers for each of them: records that disagree
are refused, whatever their order.
-/

namespace AxiomArb.Domain

open Library

abbrev EventId := String

inductive MarketRoute where
  | standard | negRisk
deriving DecidableEq, Repr

structure IdentifierRecord where
  eventId : EventId
  eventFamilyId : EventFamilyId
  marketId : MarketId
  conditionId : ConditionId
  tokenId : TokenId
  outcomeLabel : String
  route : MarketRoute
deriving DecidableEq, Repr

inductive IdentifierMapError where
  | conflictingTokenCondition (tokenId : TokenId) (existingConditionId newConditionId : ConditionId)
  | conflictingConditionRoute (conditionId : ConditionId) (existingRoute newRoute : MarketRoute)
  | conflictingTokenMetadata (tokenId : TokenId)
  | conflictingConditionMetadata (conditionId : ConditionId)
deriving DecidableEq, Repr

structure TokenMetadata where
  conditionId : ConditionId
  outcomeLabel : Option String
deriving DecidableEq, Repr

structure ConditionMetadata where
  marketId : Option MarketId
  eventId : Option EventId
  eventFamilyId : Option EventFamilyId
  route : Option MarketRoute
deriving DecidableEq, Repr

structure IdentifierMap where
  tokenToMetadata : BTreeMap TokenId TokenMetadata
  conditionToMetadata : BTreeMap ConditionId ConditionMetadata

/-- `none` if the values differ. -/
def mergeOptional {α : Type} [DecidableEq α] : Option α → Option α → Option (Option α)
  | some existing, some incoming => if existing ≠ incoming then none else some (some existing)
  | some existing, none => some (some existing)
  | none, some incoming => some (some incoming)
  | none, none => some none

def mergeMetadata (existing incoming : ConditionMetadata) : Option ConditionMetadata := do
  return {
    marketId := ← mergeOptional existing.marketId incoming.marketId
    eventId := ← mergeOptional existing.eventId incoming.eventId
    eventFamilyId := ← mergeOptional existing.eventFamilyId incoming.eventFamilyId
    route := ← mergeOptional existing.route incoming.route }

namespace IdentifierMap

def empty : IdentifierMap := { tokenToMetadata := ∅, conditionToMetadata := ∅ }

def insertTokenMetadata (map : IdentifierMap) (tokenId : TokenId) (metadata : TokenMetadata) :
    Except IdentifierMapError IdentifierMap :=
  match map.tokenToMetadata[tokenId]? with
  | some existing =>
      if existing.conditionId ≠ metadata.conditionId then
        .error (.conflictingTokenCondition tokenId existing.conditionId metadata.conditionId)
      else if existing ≠ metadata then
        .error (.conflictingTokenMetadata tokenId)
      else
        .ok map
  | none => .ok { map with tokenToMetadata := map.tokenToMetadata.insert tokenId metadata }

def mergeConditionMetadata (map : IdentifierMap) (conditionId : ConditionId)
    (incoming : ConditionMetadata) : Except IdentifierMapError IdentifierMap :=
  match map.conditionToMetadata[conditionId]? with
  | some existing =>
      match existing.route, incoming.route with
      | some existingRoute, some newRoute =>
          if existingRoute ≠ newRoute then
            .error (.conflictingConditionRoute conditionId existingRoute newRoute)
          else
            merged existing
      | _, _ => merged existing
  | none => .ok { map with conditionToMetadata := map.conditionToMetadata.insert conditionId incoming }
where
  merged (existing : ConditionMetadata) : Except IdentifierMapError IdentifierMap :=
    match mergeMetadata existing incoming with
    | none => .error (.conflictingConditionMetadata conditionId)
    | some metadata =>
        .ok { map with conditionToMetadata := map.conditionToMetadata.insert conditionId metadata }

def insertRecord (map : IdentifierMap) (record : IdentifierRecord) :
    Except IdentifierMapError IdentifierMap := do
  let map ← map.insertTokenMetadata record.tokenId
    { conditionId := record.conditionId, outcomeLabel := some record.outcomeLabel }
  map.mergeConditionMetadata record.conditionId {
    marketId := some record.marketId
    eventId := some record.eventId
    eventFamilyId := some record.eventFamilyId
    route := some record.route }

def fromRecords (records : List IdentifierRecord) : Except IdentifierMapError IdentifierMap :=
  records.foldlM insertRecord empty

def conditionForToken (map : IdentifierMap) (tokenId : TokenId) : Option ConditionId :=
  map.tokenToMetadata[tokenId]?.map TokenMetadata.conditionId

def outcomeLabelForToken (map : IdentifierMap) (tokenId : TokenId) : Option String :=
  map.tokenToMetadata[tokenId]?.bind TokenMetadata.outcomeLabel

def marketForCondition (map : IdentifierMap) (conditionId : ConditionId) : Option MarketId :=
  map.conditionToMetadata[conditionId]?.bind ConditionMetadata.marketId

def eventForCondition (map : IdentifierMap) (conditionId : ConditionId) : Option EventId :=
  map.conditionToMetadata[conditionId]?.bind ConditionMetadata.eventId

def familyForCondition (map : IdentifierMap) (conditionId : ConditionId) : Option EventFamilyId :=
  map.conditionToMetadata[conditionId]?.bind ConditionMetadata.eventFamilyId

def routeForCondition (map : IdentifierMap) (conditionId : ConditionId) : Option MarketRoute :=
  map.conditionToMetadata[conditionId]?.bind ConditionMetadata.route

end IdentifierMap

/-! ## What the map of the records knows -/

namespace IdentifierRecord

def tokenMetadata (record : IdentifierRecord) : TokenMetadata :=
  { conditionId := record.conditionId, outcomeLabel := some record.outcomeLabel }

def conditionMetadata (record : IdentifierRecord) : ConditionMetadata :=
  { marketId := some record.marketId
    eventId := some record.eventId
    eventFamilyId := some record.eventFamilyId
    route := some record.route }

end IdentifierRecord

namespace IdentifierMap

/-! ### One record -/

variable {map map' : IdentifierMap} {record record' : IdentifierRecord}
  {records : List IdentifierRecord}

/-- What is said of a token is entered unless something else is known of it. -/
theorem insertTokenMetadata_eq_ok_iff {tokenId : TokenId} {metadata : TokenMetadata} :
    map.insertTokenMetadata tokenId metadata = .ok map' ↔
      (∀ existing, map.tokenToMetadata[tokenId]? = some existing → existing = metadata) ∧
        map' = { map with tokenToMetadata := map.tokenToMetadata.insert tokenId metadata } := by
  rw [insertTokenMetadata]
  split
  · rename_i existing hexisting
    have hknown : (∀ known, map.tokenToMetadata[tokenId]? = some known → known = metadata) ↔
        existing = metadata := by
      simp [hexisting]
    rw [hknown]
    by_cases hsame : existing = metadata
    · subst hsame
      have hinsert := BTreeMap.insert_eq_self_iff.mpr hexisting
      simp only [ne_eq, not_true_eq_false, if_false, Except.ok.injEq, true_and, hinsert]
      exact eq_comm
    · by_cases hcondition : existing.conditionId = metadata.conditionId
      · simp [hcondition, hsame]
      · simp [hcondition, hsame]
  · rename_i hnone
    simp [hnone, eq_comm]

theorem mergeOptional_eq_some_iff {α : Type} [DecidableEq α] {existing incoming : α}
    {merged : Option α} : mergeOptional (some existing) (some incoming) = some merged ↔
      existing = incoming ∧ merged = some incoming := by
  rw [mergeOptional]
  by_cases hsame : existing = incoming
  · subst hsame
    simp [eq_comm]
  · simp [hsame]

/-- Records that are merged say the same of their condition. -/
theorem mergeMetadata_eq_some_iff {merged : ConditionMetadata} :
    mergeMetadata record'.conditionMetadata record.conditionMetadata = some merged ↔
      record'.conditionMetadata = record.conditionMetadata ∧ merged = record.conditionMetadata := by
  simp only [mergeMetadata, IdentifierRecord.conditionMetadata, Option.bind_eq_bind,
    Option.bind_eq_some_iff, Option.pure_def, Option.some.injEq, mergeOptional_eq_some_iff,
    ConditionMetadata.mk.injEq]
  constructor
  · rintro ⟨_, ⟨hmarket, rfl⟩, _, ⟨hevent, rfl⟩, _, ⟨hfamily, rfl⟩, _, ⟨hroute, rfl⟩, rfl⟩
    exact ⟨⟨hmarket, hevent, hfamily, hroute⟩, rfl⟩
  · rintro ⟨⟨hmarket, hevent, hfamily, hroute⟩, rfl⟩
    exact ⟨_, ⟨hmarket, rfl⟩, _, ⟨hevent, rfl⟩, _, ⟨hfamily, rfl⟩, _, ⟨hroute, rfl⟩, rfl⟩

/-- What a record says of its condition is entered unless another record said otherwise. -/
theorem mergeConditionMetadata_eq_ok_iff
    (hrecorded : ∀ existing, map.conditionToMetadata[record.conditionId]? = some existing →
      ∃ record' : IdentifierRecord, existing = record'.conditionMetadata) :
    map.mergeConditionMetadata record.conditionId record.conditionMetadata = .ok map' ↔
      (∀ existing, map.conditionToMetadata[record.conditionId]? = some existing →
          existing = record.conditionMetadata) ∧
        map' = { map with conditionToMetadata :=
          map.conditionToMetadata.insert record.conditionId record.conditionMetadata } := by
  rw [mergeConditionMetadata]
  split
  · rename_i existing hexisting
    obtain ⟨record', rfl⟩ := hrecorded existing hexisting
    have hknown : (∀ known, map.conditionToMetadata[record.conditionId]? = some known →
        known = record.conditionMetadata) ↔ record'.conditionMetadata = record.conditionMetadata := by
      simp [hexisting]
    rw [hknown]
    show (if record'.route ≠ record.route then _ else mergeConditionMetadata.merged map
      record.conditionId record.conditionMetadata record'.conditionMetadata) = _ ↔ _
    split
    · rename_i hroute
      refine iff_of_false (fun h ↦ nomatch h) fun h ↦ hroute ?_
      exact Option.some.inj (congrArg ConditionMetadata.route h.1)
    · rw [mergeConditionMetadata.merged]
      split
      · rename_i hnone
        refine iff_of_false (fun h ↦ nomatch h) fun h ↦ ?_
        rw [mergeMetadata_eq_some_iff.mpr ⟨h.1, rfl⟩] at hnone
        cases hnone
      · rename_i merged hmerge
        obtain ⟨hsame, rfl⟩ := mergeMetadata_eq_some_iff.mp hmerge
        rw [Except.ok.injEq, and_iff_right hsame]
        exact eq_comm
  · rename_i hnone
    simp [hnone, eq_comm]

/-! ### All records -/

/-- Records that agree wherever they speak of the same token or the same condition. -/
def Agree (record record' : IdentifierRecord) : Prop :=
  (record.tokenId = record'.tokenId → record.tokenMetadata = record'.tokenMetadata) ∧
    (record.conditionId = record'.conditionId →
      record.conditionMetadata = record'.conditionMetadata)

instance (record record' : IdentifierRecord) : Decidable (Agree record record') :=
  inferInstanceAs (Decidable (_ ∧ _))

/-- The map holds what the records say and nothing else. -/
structure Holds (map : IdentifierMap) (records : List IdentifierRecord) : Prop where
  token : ∀ (tokenId : TokenId) (metadata : TokenMetadata),
    map.tokenToMetadata[tokenId]? = some metadata ↔
      ∃ record ∈ records, record.tokenId = tokenId ∧ record.tokenMetadata = metadata
  condition : ∀ (conditionId : ConditionId) (metadata : ConditionMetadata),
    map.conditionToMetadata[conditionId]? = some metadata ↔
      ∃ record ∈ records, record.conditionId = conditionId ∧ record.conditionMetadata = metadata

theorem Holds.agree_iff (hholds : map.Holds records) :
    ((∀ existing, map.tokenToMetadata[record.tokenId]? = some existing →
        existing = record.tokenMetadata) ∧
      ∀ existing, map.conditionToMetadata[record.conditionId]? = some existing →
        existing = record.conditionMetadata) ↔ ∀ earlier ∈ records, Agree earlier record := by
  constructor
  · rintro ⟨htoken, hcondition⟩ earlier hearlier
    constructor
    · intro hsame
      exact htoken _ ((hholds.token _ _).mpr ⟨earlier, hearlier, hsame, rfl⟩)
    · intro hsame
      exact hcondition _ ((hholds.condition _ _).mpr ⟨earlier, hearlier, hsame, rfl⟩)
  · intro hagree
    constructor
    · intro existing hexisting
      obtain ⟨earlier, hearlier, hsame, rfl⟩ := (hholds.token _ _).mp hexisting
      exact (hagree earlier hearlier).1 hsame
    · intro existing hexisting
      obtain ⟨earlier, hearlier, hsame, rfl⟩ := (hholds.condition _ _).mp hexisting
      exact (hagree earlier hearlier).2 hsame

/-- A record is entered if and only if it agrees with the records before it. -/
theorem Holds.insertRecord_eq_ok_iff (hholds : map.Holds records) :
    map.insertRecord record = .ok map' ↔
      (∀ earlier ∈ records, Agree earlier record) ∧ map' =
        { tokenToMetadata := map.tokenToMetadata.insert record.tokenId record.tokenMetadata
          conditionToMetadata :=
            map.conditionToMetadata.insert record.conditionId record.conditionMetadata } := by
  have hrecorded : ∀ existing, map.conditionToMetadata[record.conditionId]? = some existing →
      ∃ record' : IdentifierRecord, existing = record'.conditionMetadata := by
    intro existing hexisting
    obtain ⟨earlier, -, -, rfl⟩ := (hholds.condition _ _).mp hexisting
    exact ⟨earlier, rfl⟩
  rw [← hholds.agree_iff, insertRecord, bind_eq_ok]
  constructor
  · rintro ⟨next, htoken, hcondition⟩
    obtain ⟨hsame, rfl⟩ := insertTokenMetadata_eq_ok_iff.mp htoken
    obtain ⟨hsame', rfl⟩ := (mergeConditionMetadata_eq_ok_iff (by exact hrecorded)).mp
      (show mergeConditionMetadata _ record.conditionId record.conditionMetadata = _ from hcondition)
    exact ⟨⟨hsame, hsame'⟩, rfl⟩
  · rintro ⟨⟨hsame, hsame'⟩, rfl⟩
    refine ⟨_, insertTokenMetadata_eq_ok_iff.mpr ⟨hsame, rfl⟩, ?_⟩
    refine (mergeConditionMetadata_eq_ok_iff ?_).mpr ⟨hsame', rfl⟩
    exact hrecorded

/-- What is known of a key, with one more item that agrees with the others. -/
theorem lookup_insert_iff {κ ν : Type} [Ord κ] [Std.TransOrd κ] [Std.LawfulEqOrd κ]
    [DecidableEq κ] {table : BTreeMap κ ν} {key : IdentifierRecord → κ} {value : IdentifierRecord → ν}
    (htable : ∀ k v, table[k]? = some v ↔ ∃ record ∈ records, key record = k ∧ value record = v)
    (hagree : ∀ earlier ∈ records, key earlier = key record → value earlier = value record)
    (k : κ) (v : ν) :
    (table.insert (key record) (value record))[k]? = some v ↔
      ∃ item ∈ records ++ [record], key item = k ∧ value item = v := by
  rw [BTreeMap.lookup_insert]
  constructor
  · split_ifs with hkey
    · intro hvalue
      exact ⟨record, by simp, hkey, Option.some.inj hvalue⟩
    · intro hvalue
      obtain ⟨item, hitem, hfound⟩ := (htable k v).mp hvalue
      exact ⟨item, List.mem_append_left _ hitem, hfound⟩
  · rintro ⟨item, hitem, rfl, rfl⟩
    rcases List.mem_append.mp hitem with hitem | hitem
    · split_ifs with hkey
      · exact congrArg some (hagree item hitem hkey.symm).symm
      · exact (htable _ _).mpr ⟨item, hitem, rfl, rfl⟩
    · rw [List.mem_singleton.mp hitem, if_pos rfl]

theorem Holds.append (hholds : map.Holds records)
    (hagree : ∀ earlier ∈ records, Agree earlier record) :
    Holds { tokenToMetadata := map.tokenToMetadata.insert record.tokenId record.tokenMetadata
            conditionToMetadata :=
              map.conditionToMetadata.insert record.conditionId record.conditionMetadata }
      (records ++ [record]) :=
  ⟨lookup_insert_iff hholds.token fun earlier hearlier ↦ (hagree earlier hearlier).1,
    lookup_insert_iff hholds.condition fun earlier hearlier ↦ (hagree earlier hearlier).2⟩

theorem holds_empty : empty.Holds [] :=
  ⟨fun tokenId metadata ↦ by simp [empty], fun conditionId metadata ↦ by simp [empty]⟩

theorem Holds.insertRecord (hholds : map.Holds records) (h : map.insertRecord record = .ok map') :
    map'.Holds (records ++ [record]) := by
  obtain ⟨hagree, rfl⟩ := hholds.insertRecord_eq_ok_iff.mp h
  exact hholds.append hagree

/-- The map of the records holds what they say. -/
theorem holds_of_fromRecords (h : fromRecords records = .ok map) : map.Holds records := by
  have hstep : ∀ (done : List IdentifierRecord) (record : IdentifierRecord) (map map' : IdentifierMap),
      map.Holds done → map.insertRecord record = .ok map' → map'.Holds (done ++ [record]) :=
    fun _ _ _ _ hholds h ↦ hholds.insertRecord h
  exact foldlM_induction hstep holds_empty h

instance : Std.Symm Agree where
  symm _ _ h := ⟨fun hsame ↦ (h.1 hsame.symm).symm, fun hsame ↦ (h.2 hsame.symm).symm⟩

theorem Agree.refl (record : IdentifierRecord) : Agree record record := ⟨fun _ ↦ rfl, fun _ ↦ rfl⟩

/-- Records have a map if and only if each two of them agree. -/
theorem exists_fromRecords_iff (records : List IdentifierRecord) :
    (∃ map, fromRecords records = .ok map) ↔
      ∀ record ∈ records, ∀ record' ∈ records, Agree record record' := by
  have hadmit : ∀ (done : List IdentifierRecord) (record : IdentifierRecord) (map : IdentifierMap),
      map.Holds done → ((∃ map', map.insertRecord record = .ok map') ↔
        True ∧ ∀ earlier ∈ done, Agree earlier record) := by
    intro done record map hholds
    rw [true_and]
    constructor
    · rintro ⟨map', h⟩
      exact (hholds.insertRecord_eq_ok_iff.mp h).1
    · intro hagree
      exact ⟨_, hholds.insertRecord_eq_ok_iff.mpr ⟨hagree, rfl⟩⟩
  have hstep : ∀ (done : List IdentifierRecord) (record : IdentifierRecord) (map map' : IdentifierMap),
      map.Holds done → map.insertRecord record = .ok map' → map'.Holds (done ++ [record]) :=
    fun _ _ _ _ hholds h ↦ hholds.insertRecord h
  rw [fromRecords, exists_foldlM_iff hadmit hstep holds_empty]
  constructor
  · rintro ⟨-, hpairs⟩ record hrecord record' hrecord'
    exact hpairs.forall_of_forall (fun record _ ↦ Agree.refl record) hrecord hrecord'
  · intro hall
    exact ⟨fun _ _ ↦ trivial, List.pairwise_of_forall_mem_list hall⟩

/-- One map only holds what the records say. -/
theorem Holds.eq {records' : List IdentifierRecord} (hholds : map.Holds records)
    (hholds' : map'.Holds records') (hmem : ∀ record, record ∈ records ↔ record ∈ records') :
    map = map' := by
  have htokens : map.tokenToMetadata = map'.tokenToMetadata :=
    Std.ExtTreeMap.ext_getElem? fun tokenId ↦ Option.ext fun metadata ↦ by
      rw [hholds.token, hholds'.token]
      simp only [hmem]
  have hconditions : map.conditionToMetadata = map'.conditionToMetadata :=
    Std.ExtTreeMap.ext_getElem? fun conditionId ↦ Option.ext fun metadata ↦ by
      rw [hholds.condition, hholds'.condition]
      simp only [hmem]
  cases map
  cases map'
  exact congr (congrArg IdentifierMap.mk htokens) hconditions

/-- The answers of all lookups. -/
structure SameAnswers (map map' : IdentifierMap) : Prop where
  condition : ∀ tokenId, map.conditionForToken tokenId = map'.conditionForToken tokenId
  outcomeLabel : ∀ tokenId, map.outcomeLabelForToken tokenId = map'.outcomeLabelForToken tokenId
  market : ∀ conditionId, map.marketForCondition conditionId = map'.marketForCondition conditionId
  event : ∀ conditionId, map.eventForCondition conditionId = map'.eventForCondition conditionId
  family : ∀ conditionId, map.familyForCondition conditionId = map'.familyForCondition conditionId
  route : ∀ conditionId, map.routeForCondition conditionId = map'.routeForCondition conditionId

/-- Records have a map if and only if each two of them agree, and neither this nor the map's
answers depend on their order or on how often they come. -/
theorem fromRecords_unordered (records : List IdentifierRecord) :
    ((∃ map, fromRecords records = .ok map) ↔
        ∀ record ∈ records, ∀ record' ∈ records, Agree record record') ∧
      ∀ records' : List IdentifierRecord, (∀ record, record ∈ records ↔ record ∈ records') →
        ((∃ map, fromRecords records = .ok map) ↔ ∃ map, fromRecords records' = .ok map) ∧
          ∀ map map', fromRecords records = .ok map → fromRecords records' = .ok map' →
            SameAnswers map map' := by
  refine ⟨exists_fromRecords_iff records, fun records' hmem ↦ ⟨?_, fun map map' h h' ↦ ?_⟩⟩
  · rw [exists_fromRecords_iff, exists_fromRecords_iff]
    simp only [hmem]
  · obtain rfl := (holds_of_fromRecords h).eq (holds_of_fromRecords h') hmem
    exact ⟨fun _ ↦ rfl, fun _ ↦ rfl, fun _ ↦ rfl, fun _ ↦ rfl, fun _ ↦ rfl, fun _ ↦ rfl⟩

def sampleRecord (tokenId : TokenId) : IdentifierRecord :=
  { eventId := "event-1"
    eventFamilyId := "family-1"
    marketId := "market-1"
    conditionId := "condition-1"
    tokenId
    outcomeLabel := "outcome-" ++ tokenId
    route := .negRisk }

theorem sampleRecords_unordered :
    ∃ map map', fromRecords [sampleRecord "a", sampleRecord "b", sampleRecord "a"] = .ok map ∧
      fromRecords [sampleRecord "b", sampleRecord "a"] = .ok map' ∧ SameAnswers map map' := by
  have hunordered := fromRecords_unordered [sampleRecord "a", sampleRecord "b", sampleRecord "a"]
  obtain ⟨map, hmap⟩ := hunordered.1.mpr (by decide)
  obtain ⟨hsame, hanswers⟩ := hunordered.2 [sampleRecord "b", sampleRecord "a"]
    (fun record ↦ by simp only [List.mem_cons, List.not_mem_nil, or_false]; tauto)
  obtain ⟨map', hmap'⟩ := hsame.mp ⟨map, hmap⟩
  exact ⟨map, map', hmap, hmap', hanswers map map' hmap hmap'⟩

/-! ### Answers for each record -/

/-- The map answers for the records. -/
structure Covers (map : IdentifierMap) (records : List IdentifierRecord) : Prop where
  token : ∀ record ∈ records, map.tokenToMetadata[record.tokenId]? = some record.tokenMetadata
  condition : ∀ record ∈ records,
    map.conditionToMetadata[record.conditionId]? = some record.conditionMetadata

theorem covers_of_fromRecords (h : fromRecords records = .ok map) : map.Covers records := by
  have hholds := holds_of_fromRecords h
  exact ⟨fun record hmem ↦ (hholds.token _ _).mpr ⟨record, hmem, rfl, rfl⟩,
    fun record hmem ↦ (hholds.condition _ _).mpr ⟨record, hmem, rfl, rfl⟩⟩

variable (hcovers : map.Covers records) (hmem : record ∈ records)

include hcovers hmem

theorem Covers.conditionForToken : map.conditionForToken record.tokenId = some record.conditionId := by
  rw [IdentifierMap.conditionForToken, hcovers.token record hmem]
  rfl

theorem Covers.familyForCondition :
    map.familyForCondition record.conditionId = some record.eventFamilyId := by
  rw [IdentifierMap.familyForCondition, hcovers.condition record hmem]
  rfl

theorem Covers.routeForCondition : map.routeForCondition record.conditionId = some record.route := by
  rw [IdentifierMap.routeForCondition, hcovers.condition record hmem]
  rfl

end IdentifierMap

end AxiomArb.Domain
