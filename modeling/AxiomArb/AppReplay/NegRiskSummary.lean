import AxiomArb.Library.Entries
import AxiomArb.Persistence.FamilyView
import AxiomArb.VenuePolymarket.Metadata

/-!
# The neg-risk foundation summary

The summary lists the families of the last snapshot with their validations and halts.  A row
does not hold the members it was made for; the summary lists a path to the journal instead,
to the newest entry of the family with the metadata snapshot of the row.  Behind every path
are the members that the row was written with.
-/

namespace AxiomArb.AppReplay

open Domain Library Persistence Std
open VenuePolymarket (eqIgnoreAsciiCase)

/-! ## The summary -/

structure NegRiskMemberVectorPath where
  journalSeq : Nat
  eventType : String
  eventFamilyId : String
deriving DecidableEq, Repr

structure NegRiskFoundationFamilySummary where
  eventFamilyId : String
  validationStatus : Option String
  exclusionReason : Option String
  validationMetadataSnapshotHash : Option String
  halted : Bool
  haltReason : Option String
  haltMetadataSnapshotHash : Option String
  validationMemberVectorPath : Option NegRiskMemberVectorPath
  haltMemberVectorPath : Option NegRiskMemberVectorPath
deriving DecidableEq, Repr

structure NegRiskFoundationSummary where
  discoveredFamilyCount : Nat
  validatedFamilyCount : Nat
  excludedFamilyCount : Nat
  haltedFamilyCount : Nat
  recentValidationEventCount : Nat
  recentHaltEventCount : Nat
  latestDiscoveryRevision : Int
  latestMetadataSnapshotHash : Option String
  families : List NegRiskFoundationFamilySummary
deriving DecidableEq, Repr

inductive NegRiskSummaryError where
  | missingDiscoverySnapshot
  | missingJournalEntry (journalSeq : Nat) (eventType : String)
  | invalidPayload (field value : String)
deriving DecidableEq, Repr

/-! ## Fields of a payload -/

def required {α : Type} (read : Json → Option α) (payload : Json) (field : String) :
    Except NegRiskSummaryError α :=
  match (payload.get? field).bind read with
  | some value => .ok value
  | none => .error (.invalidPayload field payload.text)

def requiredI64 : Json → String → Except NegRiskSummaryError Int := required Json.asI64

def requiredStr : Json → String → Except NegRiskSummaryError String := required Json.asStr

def requiredBool : Json → String → Except NegRiskSummaryError Bool := required Json.asBool

def optionalStr (payload : Json) (field : String) : Option String :=
  (payload.get? field).bind Json.asStr

/-- The text of a field, as the database gives it. -/
def fieldText (payload : Json) (field : String) : Option String :=
  match payload.get? field with
  | none | some .null => none
  | some (.string text) => some text
  | some value => some value.text

/-! ## The last snapshot -/

structure LatestDiscoverySnapshot where
  discoveredFamilyCount : Nat
  latestDiscoveryRevision : Int
  latestMetadataSnapshotHash : Option String
  familyIds : List String

def latestDiscoverySnapshot (database : FamilyDatabase) :
    Except NegRiskSummaryError (Option LatestDiscoverySnapshot) :=
  match database.latestSnapshotPayload with
  | none => .ok none
  | some payload => do
      let latestDiscoveryRevision ← requiredI64 payload "discovery_revision"
      let items ← required Json.asArray payload "family_ids"
      let familyIds ← items.mapM fun item ↦ match item.asStr with
        | some familyId => Except.ok familyId
        | none => .error (.invalidPayload "family_ids" item.text)
      return some
        { discoveredFamilyCount := familyIds.length
          latestDiscoveryRevision
          latestMetadataSnapshotHash := optionalStr payload "metadata_snapshot_hash"
          familyIds }

def countRecentFamilyEvents (database : FamilyDatabase) (eventType : String)
    (latestDiscoveryRevision : Int) : Nat :=
  database.journal.rows.countP fun entry ↦ entry.eventType = eventType ∧
    fieldText entry.payload "discovery_revision" = some (toString latestDiscoveryRevision)

/-! ## Paths -/

structure MemberVectorPathKey where
  eventFamilyId : String
  metadataSnapshotHash : Option String
deriving DecidableEq

structure MemberVectorPaths where
  validation : List (MemberVectorPathKey × NegRiskMemberVectorPath)
  halt : List (MemberVectorPathKey × NegRiskMemberVectorPath)

/-- Note the path to an entry, unless a newer one has its key. -/
def notePath (paths : MemberVectorPaths) (entry : JournalEntryRow) :
    Except NegRiskSummaryError MemberVectorPaths := do
  let familyId ← requiredStr entry.payload "event_family_id"
  let key : MemberVectorPathKey :=
    { eventFamilyId := familyId
      metadataSnapshotHash := optionalStr entry.payload "metadata_snapshot_hash" }
  let path : NegRiskMemberVectorPath :=
    { journalSeq := entry.journalSeq
      eventType := entry.eventType
      eventFamilyId := familyId }
  if entry.eventType = "family_validation" then
    return { paths with validation := insertNewEntry key path paths.validation }
  else if entry.eventType = "family_halt" then
    return { paths with halt := insertNewEntry key path paths.halt }
  else
    return paths

/-- The entries are read from the newest on. -/
def latestMemberVectorPaths (database : FamilyDatabase) :
    Except NegRiskSummaryError MemberVectorPaths :=
  (database.journal.rows.filter fun entry ↦
    entry.eventType ∈ ["family_validation", "family_halt"]).reverse.foldlM notePath ⟨[], []⟩

/-! ## Families -/

def emptyFamily (eventFamilyId : String) : NegRiskFoundationFamilySummary :=
  { eventFamilyId
    validationStatus := none
    exclusionReason := none
    validationMetadataSnapshotHash := none
    halted := false
    haltReason := none
    haltMetadataSnapshotHash := none
    validationMemberVectorPath := none
    haltMemberVectorPath := none }

section Families

variable (paths : MemberVectorPaths) (families : BTreeMap String NegRiskFoundationFamilySummary)

def noteValidation (row : NegRiskFamilyValidationRow) : BTreeMap String NegRiskFoundationFamilySummary :=
  let entry := families[row.eventFamilyId]?.getD (emptyFamily row.eventFamilyId)
  families.insert row.eventFamilyId
    { entry with
      validationStatus := some row.validationStatus
      exclusionReason := row.exclusionReason
      validationMetadataSnapshotHash := some row.metadataSnapshotHash
      validationMemberVectorPath := paths.validation.lookup
        { eventFamilyId := row.eventFamilyId
          metadataSnapshotHash := some row.metadataSnapshotHash } }

def noteHalt (row : FamilyHaltRow) : BTreeMap String NegRiskFoundationFamilySummary :=
  let entry := families[row.eventFamilyId]?.getD (emptyFamily row.eventFamilyId)
  families.insert row.eventFamilyId
    { entry with
      halted := row.halted
      haltReason := row.reason
      haltMetadataSnapshotHash := row.metadataSnapshotHash
      haltMemberVectorPath := paths.halt.lookup
        { eventFamilyId := row.eventFamilyId
          metadataSnapshotHash := row.metadataSnapshotHash } }

end Families

def loadNegRiskFoundationSummary (database : FamilyDatabase) :
    Except NegRiskSummaryError NegRiskFoundationSummary := do
  let some discovery ← latestDiscoverySnapshot database
    | throw .missingDiscoverySnapshot
  let validationRows := database.validations.all.filter fun row ↦
    row.eventFamilyId ∈ discovery.familyIds ∧
      row.lastSeenDiscoveryRevision = discovery.latestDiscoveryRevision
  let haltRows := database.halts.all.filter fun row ↦
    row.eventFamilyId ∈ discovery.familyIds ∧
      row.lastSeenDiscoveryRevision = discovery.latestDiscoveryRevision
  let memberPaths ← latestMemberVectorPaths database
  let families := BTreeMap.byKey (fun family ↦ family.eventFamilyId)
    (discovery.familyIds.map emptyFamily)
  let families := validationRows.foldl (noteValidation memberPaths) families
  let families := haltRows.foldl (noteHalt memberPaths) families
  return {
    discoveredFamilyCount := discovery.discoveredFamilyCount
    validatedFamilyCount := validationRows.length
    excludedFamilyCount :=
      validationRows.countP fun row ↦ eqIgnoreAsciiCase row.validationStatus "excluded"
    haltedFamilyCount := haltRows.countP fun row ↦ row.halted
    recentValidationEventCount :=
      countRecentFamilyEvents database "family_validation" discovery.latestDiscoveryRevision
    recentHaltEventCount :=
      countRecentFamilyEvents database "family_halt" discovery.latestDiscoveryRevision
    latestDiscoveryRevision := discovery.latestDiscoveryRevision
    latestMetadataSnapshotHash := discovery.latestMetadataSnapshotHash
    families := families.vals }

/-! ## Members -/

def memberOf (member : Json) : Except NegRiskSummaryError NegRiskFamilyMemberRow := do
  return {
    conditionId := ← requiredStr member "condition_id"
    tokenId := ← requiredStr member "token_id"
    outcomeLabel := ← requiredStr member "outcome_label"
    isPlaceholder := ← requiredBool member "is_placeholder"
    isOther := ← requiredBool member "is_other"
    negRiskVariant := ← requiredStr member "neg_risk_variant" }

def loadMemberVectorFromJournal (database : FamilyDatabase) (path : NegRiskMemberVectorPath) :
    Except NegRiskSummaryError (List NegRiskFamilyMemberRow) := do
  let some entry := database.journal.rows.find? fun entry ↦
      entry.journalSeq = path.journalSeq ∧ entry.eventType = path.eventType
    | throw (.missingJournalEntry path.journalSeq path.eventType)
  let eventFamilyId ← requiredStr entry.payload "event_family_id"
  if eventFamilyId ≠ path.eventFamilyId then
    throw (.invalidPayload "event_family_id" entry.payload.text)
  let vector ← required Json.asArray entry.payload "member_vector"
  vector.mapM memberOf

/-! ## The paths are those of the newest entries -/

section Paths

variable {payload : Json} {field : String} {paths paths' : MemberVectorPaths} {entry : JournalEntryRow}
  {entries : List JournalEntryRow} {key : MemberVectorPathKey} {eventType familyId : String}

theorem required_eq_ok_iff {α : Type} {read : Json → Option α} {value : α} :
    required read payload field = .ok value ↔ (payload.get? field).bind read = some value := by
  unfold required
  split
  · rename_i hread
    rw [hread, Except.ok.injEq, Option.some.injEq]
  · rename_i hread
    rw [hread]
    exact iff_of_false nofun nofun

/-- The key of an entry of this type. -/
def pathKey (eventType : String) (entry : JournalEntryRow) : Option MemberVectorPathKey :=
  (familyKey eventType entry).map fun familyId ↦
    { eventFamilyId := familyId
      metadataSnapshotHash := optionalStr entry.payload "metadata_snapshot_hash" }

/-- The path to an entry of this type. -/
def entryPath (eventType : String) (entry : JournalEntryRow) : Option NegRiskMemberVectorPath :=
  (familyKey eventType entry).map fun familyId ↦
    { journalSeq := entry.journalSeq
      eventType := entry.eventType
      eventFamilyId := familyId }

/-- What is noted under a key when an entry is read. -/
def noted (eventType : String) (key : MemberVectorPathKey) (entry : JournalEntryRow) :
    Option NegRiskMemberVectorPath :=
  if pathKey eventType entry = some key then entryPath eventType entry else none

theorem noted_of_eq (htype : entry.eventType = eventType)
    (hfamily : (entry.payload.get? "event_family_id").bind Json.asStr = some familyId) :
    noted eventType key entry =
      if key = ⟨familyId, optionalStr entry.payload "metadata_snapshot_hash"⟩ then
        some ⟨entry.journalSeq, entry.eventType, familyId⟩
      else none := by
  have hkey : familyKey eventType entry = some familyId := (if_pos htype).trans hfamily
  simp only [noted, pathKey, entryPath, hkey, Option.map_some, Option.some.injEq, eq_comm]

theorem noted_of_ne (htype : entry.eventType ≠ eventType) : noted eventType key entry = none := by
  have hkey : familyKey eventType entry = none := if_neg htype
  simp [noted, pathKey, hkey]

/-- The paths of one type, each noted where its key has none. -/
def Notes (eventType : String)
    (select : MemberVectorPaths → List (MemberVectorPathKey × NegRiskMemberVectorPath)) : Prop :=
  ∀ {paths paths' : MemberVectorPaths} {entry : JournalEntryRow}, notePath paths entry = .ok paths' →
    ∀ key, (select paths').lookup key = ((select paths).lookup key).or (noted eventType key entry)

theorem notes_validation : Notes "family_validation" MemberVectorPaths.validation := by
  intro paths paths' entry h key
  obtain ⟨familyId, hread, hnoted⟩ := bind_eq_ok.mp h
  split at hnoted
  · rename_i htype
    obtain rfl := Except.ok.inj hnoted
    rw [noted_of_eq htype (required_eq_ok_iff.mp hread)]
    exact lookup_insertNewEntry
  · rename_i htype
    rw [noted_of_ne htype, Option.or_none]
    split at hnoted
    all_goals
      obtain rfl := Except.ok.inj hnoted
      rfl

theorem notes_halt : Notes "family_halt" MemberVectorPaths.halt := by
  intro paths paths' entry h key
  obtain ⟨familyId, hread, hnoted⟩ := bind_eq_ok.mp h
  split at hnoted
  · rename_i htype
    obtain rfl := Except.ok.inj hnoted
    rw [noted_of_ne (by rw [htype]; decide), Option.or_none]
  · split at hnoted
    · rename_i htype
      obtain rfl := Except.ok.inj hnoted
      rw [noted_of_eq htype (required_eq_ok_iff.mp hread)]
      exact lookup_insertNewEntry
    · rename_i htype
      obtain rfl := Except.ok.inj hnoted
      rw [noted_of_ne htype, Option.or_none]

/-- Of the entries that are read, the first under a key is the one that is noted. -/
theorem Notes.lookup_foldlM
    {select : MemberVectorPaths → List (MemberVectorPathKey × NegRiskMemberVectorPath)}
    (hnotes : Notes eventType select) (h : entries.foldlM notePath paths = .ok paths') :
    (select paths').lookup key = ((select paths).lookup key).or
      ((entries.find? fun entry ↦ pathKey eventType entry = some key).bind (entryPath eventType)) := by
  induction entries generalizing paths with
  | nil =>
      obtain rfl := Except.ok.inj h
      exact (Option.or_none).symm
  | cons entry entries ih =>
      rw [List.foldlM_cons] at h
      obtain ⟨paths₁, hfirst, hrest⟩ := bind_eq_ok.mp h
      rw [ih hrest, hnotes hfirst, Option.or_assoc, List.find?_cons, noted]
      congr 1
      by_cases hkey : pathKey eventType entry = some key
      · have hpath : (entryPath eventType entry).isSome := by
          rw [pathKey] at hkey
          obtain ⟨familyId, hfamily, _⟩ := Option.map_eq_some_iff.mp hkey
          rw [entryPath, hfamily]
          rfl
        rw [if_pos hkey, decide_eq_true hkey, Option.or_of_isSome hpath]
        rfl
      · rw [if_neg hkey, decide_eq_false hkey, Option.none_or]

/-- The path under a key is that of the last entry that has it. -/
theorem Notes.lookup_latest
    {select : MemberVectorPaths → List (MemberVectorPathKey × NegRiskMemberVectorPath)}
    (hnotes : Notes eventType select) (hempty : select ⟨[], []⟩ = [])
    (htype : eventType ∈ ["family_validation", "family_halt"]) {database : FamilyDatabase}
    (h : latestMemberVectorPaths database = .ok paths) :
    (select paths).lookup key =
      (BTreeMap.lastOf (pathKey eventType) database.journal.rows (some key)).bind
        (entryPath eventType) := by
  rw [hnotes.lookup_foldlM h, hempty, List.lookup_nil, Option.none_or,
    BTreeMap.lastOf_eq_find?_reverse, ← List.filter_reverse, List.find?_filter]
  congr 2
  funext entry
  by_cases hkey : pathKey eventType entry = some key
  · have hentry : entry.eventType = eventType := by
      by_contra hne
      rw [pathKey, familyKey, if_neg hne] at hkey
      cases hkey
    simp [hkey, hentry ▸ htype]
  · simp [hkey]

end Paths

/-! ## What is persisted is read again -/

/-- The last snapshot is read as it was persisted. -/
theorem latestDiscoverySnapshot_eq_ok {times : TimeFormat} {database : FamilyDatabase}
    {snapshot : NegRiskDiscoverySnapshotInput}
    (h : database.latestSnapshotPayload = some (snapshotPayload times snapshot))
    (hrevision : -9223372036854775808 ≤ snapshot.discoveryRevision ∧
      snapshot.discoveryRevision < 9223372036854775808) :
    latestDiscoverySnapshot database = .ok (some
      { discoveredFamilyCount := snapshot.familyIds.length
        latestDiscoveryRevision := snapshot.discoveryRevision
        latestMetadataSnapshotHash := some snapshot.metadataSnapshotHash
        familyIds := snapshot.familyIds }) := by
  obtain ⟨hrevisionField, hfamilyIds, hhash⟩ := get?_snapshotPayload times snapshot
  rw [latestDiscoverySnapshot, h]
  refine bind_eq_ok.mpr ⟨snapshot.discoveryRevision, ?_, ?_⟩
  · rw [requiredI64, required_eq_ok_iff, hrevisionField]
    exact Json.asI64_number hrevision
  refine bind_eq_ok.mpr ⟨snapshot.familyIds.map .string, ?_, ?_⟩
  · rw [required_eq_ok_iff, hfamilyIds]
    rfl
  refine bind_eq_ok.mpr ⟨snapshot.familyIds, ?_, ?_⟩
  · rw [mapM_eq_ok_iff, List.map_map]
    rfl
  · rw [optionalStr, hhash]
    rfl

/-! ## The members behind a row -/

theorem memberOf_memberJson (member : NegRiskFamilyMemberRow) :
    memberOf (memberJson member) = .ok member := rfl

/-- Members are read as they were written. -/
theorem mapM_memberOf_memberJson (memberVector : List NegRiskFamilyMemberRow) :
    (memberVector.map memberJson).mapM memberOf = .ok memberVector := by
  rw [mapM_eq_ok_iff, List.map_map]
  exact List.map_congr_left fun member _ ↦ memberOf_memberJson member

section Members

variable {database : FamilyDatabase} {entry : JournalEntryRow}

/-- An entry is found by its number and its type. -/
theorem find?_journal (hentry : entry ∈ database.journal.rows) :
    (database.journal.rows.find? fun other ↦
      other.journalSeq = entry.journalSeq ∧ other.eventType = entry.eventType) = some entry := by
  have hnodup : (database.journal.rows.map fun other ↦ other.journalSeq).Nodup :=
    List.pairwise_map.mpr (database.ordered.imp fun hlt ↦ Nat.ne_of_lt hlt)
  cases hfound : database.journal.rows.find? fun other ↦
      other.journalSeq = entry.journalSeq ∧ other.eventType = entry.eventType with
  | none => simpa using List.find?_eq_none.mp hfound entry hentry
  | some found =>
      have hsame := List.find?_some hfound
      rw [decide_eq_true_iff] at hsame
      rw [List.inj_on_of_nodup_map hnodup (List.mem_of_find?_eq_some hfound) hentry hsame.1]

variable {ρ : Type} {familyId : ρ → String} {table : FamilyTable familyId}
  {select : MemberVectorPaths → List (MemberVectorPathKey × NegRiskMemberVectorPath)}
  {hash : ρ → Option String} {members : ρ → List NegRiskFamilyMemberRow}

/-- What a row and its entry have in common. -/
structure Describes (table : FamilyTable familyId) (hash : ρ → Option String)
    (members : ρ → List NegRiskFamilyMemberRow) : Prop where
  hash_stored : ∀ row, hash (table.stored row) = hash row
  hash_entry : ∀ row, optionalStr (table.entry row).payload "metadata_snapshot_hash" = hash row
  members_entry : ∀ row,
    (table.entry row).payload.get? "member_vector" = some (memberVectorJson (members row))

theorem describes_validation (times : TimeFormat) :
    Describes (validationTable times) (fun row ↦ some row.metadataSnapshotHash)
      fun row ↦ row.memberVector where
  hash_stored _ := rfl
  hash_entry _ := rfl
  members_entry _ := rfl

theorem describes_halt (times : TimeFormat) :
    Describes (haltTable times) (fun row ↦ row.metadataSnapshotHash) fun row ↦ row.memberVector where
  hash_stored _ := rfl
  hash_entry row := by
    obtain ⟨_, _, _, _, _ | hash, _⟩ := row
    all_goals rfl
  members_entry _ := rfl

/-- Behind the path of a row that is backed are the members of the row that was written last. -/
theorem load_of_backed {lastWritten : String → Option ρ} {current : ρ} {paths : MemberVectorPaths}
    {path : NegRiskMemberVectorPath} (hdescribes : Describes table hash members)
    (hbacked : Backed table lastWritten database) (hnotes : Notes table.eventType select)
    (hempty : select ⟨[], []⟩ = []) (htype : table.eventType ∈ ["family_validation", "family_halt"])
    (hpaths : latestMemberVectorPaths database = .ok paths)
    (hcurrent : (table.rows database).get? (familyId current) = some current)
    (hpath : (select paths).lookup ⟨familyId current, hash current⟩ = some path) :
    ∃ row, lastWritten (familyId current) = some row ∧
      loadMemberVectorFromJournal database path = .ok (members row) := by
  obtain ⟨row, entry, hlast, hstored, hentry, hpayload⟩ := hbacked (familyId current) current hcurrent
  refine ⟨row, hlast, ?_⟩
  have hhash : hash current = hash row := by rw [hstored, hdescribes.hash_stored]
  have hfamily : familyId row = familyId current := by rw [hstored, table.familyId_stored]
  obtain ⟨hmem, hkey⟩ := List.mem_filter.mp (List.mem_of_getLast? hentry)
  rw [decide_eq_true_iff] at hkey
  -- the last entry of the family is also the last one under the key of the row
  have hpathKey : pathKey table.eventType entry = some ⟨familyId current, hash current⟩ := by
    rw [pathKey, hkey, Option.map_some, hpayload, hdescribes.hash_entry, hhash]
  have hlatest : BTreeMap.lastOf (pathKey table.eventType) database.journal.rows
      (some ⟨familyId current, hash current⟩) = some entry := by
    refine BTreeMap.lastOf_of_finer ?_ hentry hpathKey
    intro other hother
    obtain ⟨otherFamily, hotherFamily, heq⟩ := Option.map_eq_some_iff.mp hother
    rw [hotherFamily, (MemberVectorPathKey.mk.inj heq).1]
  rw [hnotes.lookup_latest hempty htype hpaths, hlatest, Option.bind_some, entryPath, hkey,
    Option.map_some, Option.some.injEq] at hpath
  subst hpath
  have hread : (entry.payload.get? "event_family_id").bind Json.asStr = some (familyId current) := by
    rw [hpayload, table.eventFamilyId_entry, hfamily]
  have hvector : (entry.payload.get? "member_vector").bind Json.asArray =
      some ((members row).map memberJson) := by
    rw [hpayload, hdescribes.members_entry]
    rfl
  simp only [loadMemberVectorFromJournal, find?_journal hmem]
  refine bind_eq_ok.mpr ⟨_, required_eq_ok_iff.mpr hread, ?_⟩
  rw [if_neg (not_not.mpr rfl)]
  exact bind_eq_ok.mpr ⟨_, required_eq_ok_iff.mpr hvector, mapM_memberOf_memberJson _⟩

end Members

/-! ## What the summary lists -/

section Listed

variable {P : NegRiskFoundationFamilySummary → Prop} {paths : MemberVectorPaths}
  {families : BTreeMap String NegRiskFoundationFamilySummary} {family : NegRiskFoundationFamilySummary}
  {validations : List NegRiskFamilyValidationRow} {halts : List FamilyHaltRow} {eventFamilyId : String}

/-- Every family is filed under its own name, and this holds of it. -/
def AllFamilies (P : NegRiskFoundationFamilySummary → Prop)
    (families : BTreeMap String NegRiskFoundationFamilySummary) : Prop :=
  ∀ eventFamilyId family, families[eventFamilyId]? = some family →
    family.eventFamilyId = eventFamilyId ∧ P family

theorem allFamilies_insert (h : AllFamilies P families) (hname : family.eventFamilyId = eventFamilyId)
    (hfamily : P family) : AllFamilies P (families.insert eventFamilyId family) := by
  intro other found hfound
  rw [BTreeMap.lookup_insert] at hfound
  split at hfound
  · rename_i hother
    obtain rfl := Option.some.inj hfound
    exact ⟨hname.trans hother, hfamily⟩
  · exact h other found hfound

/-- The family that is noted, new or not. -/
theorem AllFamilies.getD (h : AllFamilies P families) (hempty : ∀ name, P (emptyFamily name))
    (eventFamilyId : String) :
    (families[eventFamilyId]?.getD (emptyFamily eventFamilyId)).eventFamilyId = eventFamilyId ∧
      P (families[eventFamilyId]?.getD (emptyFamily eventFamilyId)) := by
  cases hfamily : families[eventFamilyId]? with
  | none => exact ⟨rfl, hempty eventFamilyId⟩
  | some family => exact h eventFamilyId family hfamily

/-- The paths that are listed are those of rows of the family. -/
structure Listed (paths : MemberVectorPaths) (validations : List NegRiskFamilyValidationRow)
    (halts : List FamilyHaltRow) (family : NegRiskFoundationFamilySummary) : Prop where
  validation : ∀ path, family.validationMemberVectorPath = some path →
    ∃ row ∈ validations, row.eventFamilyId = family.eventFamilyId ∧
      paths.validation.lookup ⟨row.eventFamilyId, some row.metadataSnapshotHash⟩ = some path
  halt : ∀ path, family.haltMemberVectorPath = some path →
    ∃ row ∈ halts, row.eventFamilyId = family.eventFamilyId ∧
      paths.halt.lookup ⟨row.eventFamilyId, row.metadataSnapshotHash⟩ = some path

theorem listed_emptyFamily (eventFamilyId : String) :
    Listed paths validations halts (emptyFamily eventFamilyId) :=
  ⟨nofun, nofun⟩

theorem allFamilies_noteValidation {row : NegRiskFamilyValidationRow} (hrow : row ∈ validations)
    (h : AllFamilies (Listed paths validations halts) families) :
    AllFamilies (Listed paths validations halts) (noteValidation paths families row) := by
  obtain ⟨hname, hlisted⟩ := h.getD listed_emptyFamily row.eventFamilyId
  refine allFamilies_insert h ?_ ⟨?_, ?_⟩
  · exact hname
  · intro path hpath
    exact ⟨row, hrow, hname.symm, hpath⟩
  · exact hlisted.halt

theorem allFamilies_noteHalt {row : FamilyHaltRow} (hrow : row ∈ halts)
    (h : AllFamilies (Listed paths validations halts) families) :
    AllFamilies (Listed paths validations halts) (noteHalt paths families row) := by
  obtain ⟨hname, hlisted⟩ := h.getD listed_emptyFamily row.eventFamilyId
  refine allFamilies_insert h ?_ ⟨?_, ?_⟩
  · exact hname
  · exact hlisted.validation
  · intro path hpath
    exact ⟨row, hrow, hname.symm, hpath⟩

theorem allFamilies_byKey (familyIds : List String) :
    AllFamilies (Listed paths validations halts)
      (BTreeMap.byKey (fun family ↦ family.eventFamilyId) (familyIds.map emptyFamily)) := by
  intro eventFamilyId family hfamily
  rw [BTreeMap.lookup_byKey] at hfamily
  obtain ⟨hmem, hname⟩ := List.mem_filter.mp (List.mem_of_getLast? hfamily)
  obtain ⟨name, _, rfl⟩ := List.mem_map.mp hmem
  exact ⟨by simpa using hname, listed_emptyFamily name⟩

/-- The families of a summary list paths of rows that are in the tables. -/
theorem listed_of_summary {database : FamilyDatabase} {summary : NegRiskFoundationSummary}
    (h : loadNegRiskFoundationSummary database = .ok summary) (hfamily : family ∈ summary.families) :
    ∃ paths, latestMemberVectorPaths database = .ok paths ∧
      Listed paths database.validations.all database.halts.all family := by
  obtain ⟨_ | discovery, _, hsummary⟩ := bind_eq_ok.mp h
  · cases hsummary
  obtain ⟨paths, hpaths, hsummary⟩ := bind_eq_ok.mp hsummary
  obtain rfl := Except.ok.inj hsummary
  refine ⟨paths, hpaths, ?_⟩
  obtain ⟨⟨eventFamilyId, family⟩, hmem, rfl⟩ := List.mem_map.mp hfamily
  suffices hall : AllFamilies (Listed paths database.validations.all database.halts.all) _ from
    (hall eventFamilyId family (ExtTreeMap.mem_toList_iff_getElem?_eq_some.mp hmem)).2
  apply List.foldlRecOn
  · apply List.foldlRecOn
    · exact allFamilies_byKey discovery.familyIds
    · intro families hfamilies row hrow
      exact allFamilies_noteValidation (List.mem_filter.mp hrow).1 hfamilies
  · intro families hfamilies row hrow
    exact allFamilies_noteHalt (List.mem_filter.mp hrow).1 hfamilies

end Listed

/-- **Behind every path are the members of the last write.**  After any run of calls that begins
with no rows, a path that the summary lists for a family leads to the members that were given
with the last upsert that wrote the family's row. -/
theorem memberVectors_of_run (times : TimeFormat) {database : FamilyDatabase}
    (hvalidations : database.validations = .empty) (hhalts : database.halts = .empty)
    (calls : List FamilyCall) {summary : NegRiskFoundationSummary}
    (hsummary : loadNegRiskFoundationSummary (run (familyStep times) database calls) = .ok summary)
    {family : NegRiskFoundationFamilySummary} (hfamily : family ∈ summary.families) :
    (∀ path, family.validationMemberVectorPath = some path →
      ∃ row, lastWritten times (fun row ↦ row.eventFamilyId) (validationWritten times) database calls
          family.eventFamilyId = some row ∧
        loadMemberVectorFromJournal (run (familyStep times) database calls) path =
          .ok row.memberVector) ∧
    (∀ path, family.haltMemberVectorPath = some path →
      ∃ row, lastWritten times (fun row ↦ row.eventFamilyId) (haltWritten times) database calls
          family.eventFamilyId = some row ∧
        loadMemberVectorFromJournal (run (familyStep times) database calls) path =
          .ok row.memberVector) := by
  obtain ⟨paths, hpaths, hlisted⟩ := listed_of_summary hsummary hfamily
  constructor
  · intro path hpath
    obtain ⟨current, hcurrent, hname, hlookup⟩ := hlisted.validation path hpath
    rw [← hname]
    exact load_of_backed (describes_validation times)
      (backed_run (does_validations times) hvalidations calls) notes_validation rfl (by simp [validationTable])
      hpaths (KeyedTable.mem_all_iff.mp hcurrent) hlookup
  · intro path hpath
    obtain ⟨current, hcurrent, hname, hlookup⟩ := hlisted.halt path hpath
    rw [← hname]
    exact load_of_backed (describes_halt times) (backed_run (does_halts times) hhalts calls)
      notes_halt rfl (by simp [haltTable]) hpaths (KeyedTable.mem_all_iff.mp hcurrent) hlookup

section Sample

def sampleTimes : TimeFormat := ⟨id, fun _ ↦ "2026-01-01T00:00:00+00:00"⟩

def sampleMember (tokenId : String) : NegRiskFamilyMemberRow :=
  { conditionId := "condition-1"
    tokenId
    outcomeLabel := "Alice"
    isPlaceholder := false
    isOther := false
    negRiskVariant := "standard" }

def sampleValidation (validationStatus sourceEventId tokenId : String) : NegRiskFamilyValidationRow :=
  { eventFamilyId := "family-1"
    validationStatus
    exclusionReason := none
    metadataSnapshotHash := "hash-1"
    lastSeenDiscoveryRevision := 7
    memberCount := 1
    firstSeenAt := 1
    lastSeenAt := 1
    validatedAt := 1
    updatedAt := 1
    memberVector := [sampleMember tokenId]
    sourceKind := "test"
    sourceSessionId := "session-1"
    sourceEventId
    eventTs := 1 }

def sampleSnapshot : NegRiskDiscoverySnapshotInput :=
  { discoveryRevision := 7
    metadataSnapshotHash := "hash-1"
    familyIds := ["family-1"]
    capturedAt := 1
    sourceKind := "test"
    sourceSessionId := "session-1"
    sourceEventId := "snapshot-1"
    dedupeKey := "snapshot-1"
    extraPayload := .null }

/-- A row is written; the same row is not written again; a write under a taken key fails; and
the tables are reconciled. -/
def sampleCalls : List FamilyCall :=
  [⟨.persistDiscoverySnapshot sampleSnapshot, 1, 0, false⟩,
    ⟨.upsertValidation (sampleValidation "included" "event-1" "token-1"), 2, 0, false⟩,
    ⟨.upsertValidation (sampleValidation "included" "event-2" "token-2"), 3, 1, false⟩,
    ⟨.upsertValidation (sampleValidation "excluded" "event-1" "token-3"), 4, 0, false⟩,
    ⟨.reconcileCurrentFamilyView 7, 5, 0, false⟩]

def sampleSummary : NegRiskFoundationSummary :=
  { discoveredFamilyCount := 1
    validatedFamilyCount := 1
    excludedFamilyCount := 0
    haltedFamilyCount := 0
    recentValidationEventCount := 1
    recentHaltEventCount := 0
    latestDiscoveryRevision := 7
    latestMetadataSnapshotHash := some "hash-1"
    families :=
      [{ eventFamilyId := "family-1"
         validationStatus := some "included"
         exclusionReason := none
         validationMetadataSnapshotHash := some "hash-1"
         halted := false
         haltReason := none
         haltMetadataSnapshotHash := none
         validationMemberVectorPath := some ⟨2, "family_validation", "family-1"⟩
         haltMemberVectorPath := none }] }

theorem sampleSummary_eq : loadNegRiskFoundationSummary (run (familyStep sampleTimes) .empty sampleCalls) =
    .ok sampleSummary := by
  decide +kernel

theorem sample_memberVectors : ∃ row,
    lastWritten sampleTimes (fun row ↦ row.eventFamilyId) (validationWritten sampleTimes) .empty
      sampleCalls "family-1" = some row ∧
    loadMemberVectorFromJournal (run (familyStep sampleTimes) .empty sampleCalls)
      ⟨2, "family_validation", "family-1"⟩ = .ok row.memberVector :=
  (memberVectors_of_run sampleTimes rfl rfl sampleCalls sampleSummary_eq List.mem_cons_self).1 _ rfl

end Sample

end AxiomArb.AppReplay
