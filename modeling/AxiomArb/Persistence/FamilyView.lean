import AxiomArb.Domain.Runtime
import AxiomArb.Library.Fallible
import AxiomArb.Library.InsertionTable
import AxiomArb.Library.JsonText
import AxiomArb.Library.KeyedTable
import AxiomArb.Library.Run

/-!
# The current view of the neg-risk families

The validation and the halt of a family are rows that are overwritten and pruned.  A row that
is written is journaled in the same transaction, with the members it was made for; a row that
is there already is neither written nor journaled.

## Honest boundary

* Calls come one after another.  A call may be cut off before its transaction ends, and the
  journal's sequence may skip numbers.
* What a column keeps of a time is a given function, and so is the text of a time.
* Of the metrics only the counts of the current view are here; what is recorded is given back.
-/

namespace AxiomArb.Persistence

open Domain Library

/-! ## Rows -/

structure NegRiskFamilyMemberRow where
  conditionId : String
  tokenId : String
  outcomeLabel : String
  isPlaceholder : Bool
  isOther : Bool
  negRiskVariant : String
deriving DecidableEq, Repr

structure NegRiskFamilyValidationRow where
  eventFamilyId : String
  validationStatus : String
  exclusionReason : Option String
  metadataSnapshotHash : String
  lastSeenDiscoveryRevision : Int
  memberCount : Int
  firstSeenAt : DateTime
  lastSeenAt : DateTime
  validatedAt : DateTime
  updatedAt : DateTime
  memberVector : List NegRiskFamilyMemberRow
  sourceKind : String
  sourceSessionId : String
  sourceEventId : String
  eventTs : DateTime
deriving DecidableEq, Repr

structure FamilyHaltRow where
  eventFamilyId : String
  halted : Bool
  reason : Option String
  blocksNewRisk : Bool
  metadataSnapshotHash : Option String
  lastSeenDiscoveryRevision : Int
  setAt : DateTime
  updatedAt : DateTime
  memberVector : List NegRiskFamilyMemberRow
  sourceKind : String
  sourceSessionId : String
  sourceEventId : String
  eventTs : DateTime
deriving DecidableEq, Repr

structure NegRiskDiscoverySnapshotInput where
  discoveryRevision : Int
  metadataSnapshotHash : String
  familyIds : List String
  capturedAt : DateTime
  sourceKind : String
  sourceSessionId : String
  sourceEventId : String
  dedupeKey : String
  extraPayload : Json

structure JournalEntryInput where
  stream : String
  sourceKind : String
  sourceSessionId : String
  sourceEventId : String
  dedupeKey : String
  causalParentId : Option Int
  eventType : String
  eventTs : DateTime
  payload : Json

structure JournalEntryRow extends JournalEntryInput where
  journalSeq : Nat
  ingestedAt : DateTime

def sameValidationState (existing candidate : NegRiskFamilyValidationRow) : Bool :=
  existing.eventFamilyId = candidate.eventFamilyId ∧
    existing.validationStatus = candidate.validationStatus ∧
    existing.exclusionReason = candidate.exclusionReason ∧
    existing.metadataSnapshotHash = candidate.metadataSnapshotHash ∧
    existing.lastSeenDiscoveryRevision = candidate.lastSeenDiscoveryRevision ∧
    existing.memberCount = candidate.memberCount ∧
    existing.firstSeenAt = candidate.firstSeenAt ∧
    existing.lastSeenAt = candidate.lastSeenAt ∧
    existing.validatedAt = candidate.validatedAt

def sameHaltState (existing candidate : FamilyHaltRow) : Bool :=
  existing.eventFamilyId = candidate.eventFamilyId ∧
    existing.halted = candidate.halted ∧
    existing.reason = candidate.reason ∧
    existing.blocksNewRisk = candidate.blocksNewRisk ∧
    existing.metadataSnapshotHash = candidate.metadataSnapshotHash ∧
    existing.lastSeenDiscoveryRevision = candidate.lastSeenDiscoveryRevision ∧
    existing.setAt = candidate.setAt

/-! ## Payloads -/

def optionalString : Option String → Json
  | some text => .string text
  | none => .null

def integer (n : Int) : Json := .number (toString n)

/-- A member, with its fields in the order of their names. -/
def memberJson (member : NegRiskFamilyMemberRow) : Json :=
  .object
    [("condition_id", .string member.conditionId),
      ("is_other", .bool member.isOther),
      ("is_placeholder", .bool member.isPlaceholder),
      ("neg_risk_variant", .string member.negRiskVariant),
      ("outcome_label", .string member.outcomeLabel),
      ("token_id", .string member.tokenId)]

def memberVectorJson (memberVector : List NegRiskFamilyMemberRow) : Json :=
  .array (memberVector.map memberJson)

/-- How times are kept and written. -/
structure TimeFormat where
  toColumn : DateTime → DateTime
  toRfc3339 : DateTime → String

section Entries

variable (times : TimeFormat)

def validationEntry (row : NegRiskFamilyValidationRow) : JournalEntryInput :=
  { stream := s!"neg_risk_family:{row.eventFamilyId}"
    sourceKind := row.sourceKind
    sourceSessionId := row.sourceSessionId
    sourceEventId := row.sourceEventId
    dedupeKey := s!"family_validation:{row.eventFamilyId}:{row.lastSeenDiscoveryRevision}:{
      row.metadataSnapshotHash}:{row.sourceEventId}"
    causalParentId := none
    eventType := "family_validation"
    eventTs := row.eventTs
    payload := .object
      [("discovery_revision", integer row.lastSeenDiscoveryRevision),
        ("event_family_id", .string row.eventFamilyId),
        ("exclusion_reason", optionalString row.exclusionReason),
        ("first_seen_at", .string (times.toRfc3339 row.firstSeenAt)),
        ("last_seen_at", .string (times.toRfc3339 row.lastSeenAt)),
        ("member_count", integer row.memberCount),
        ("member_vector", memberVectorJson row.memberVector),
        ("metadata_snapshot_hash", .string row.metadataSnapshotHash),
        ("validated_at", .string (times.toRfc3339 row.validatedAt)),
        ("validation_status", .string row.validationStatus)] }

def haltEntry (row : FamilyHaltRow) : JournalEntryInput :=
  let hash := row.metadataSnapshotHash.getD "none"
  { stream := s!"neg_risk_family:{row.eventFamilyId}"
    sourceKind := row.sourceKind
    sourceSessionId := row.sourceSessionId
    sourceEventId := row.sourceEventId
    dedupeKey := s!"family_halt:{row.eventFamilyId}:{row.lastSeenDiscoveryRevision}:{hash}:{
      row.sourceEventId}"
    causalParentId := none
    eventType := "family_halt"
    eventTs := row.eventTs
    payload := .object
      [("blocks_new_risk", .bool row.blocksNewRisk),
        ("discovery_revision", integer row.lastSeenDiscoveryRevision),
        ("event_family_id", .string row.eventFamilyId),
        ("halted", .bool row.halted),
        ("member_vector", memberVectorJson row.memberVector),
        ("metadata_snapshot_hash", optionalString row.metadataSnapshotHash),
        ("reason", optionalString row.reason),
        ("set_at", .string (times.toRfc3339 row.setAt))] }

/-! What the columns keep of a row, as it is read again. -/

def storedValidation (row : NegRiskFamilyValidationRow) : NegRiskFamilyValidationRow :=
  { row with
    firstSeenAt := times.toColumn row.firstSeenAt
    lastSeenAt := times.toColumn row.lastSeenAt
    validatedAt := times.toColumn row.validatedAt
    updatedAt := times.toColumn row.updatedAt
    memberVector := []
    sourceKind := ""
    sourceSessionId := ""
    sourceEventId := ""
    eventTs := times.toColumn row.validatedAt }

def storedHalt (row : FamilyHaltRow) : FamilyHaltRow :=
  { row with
    setAt := times.toColumn row.setAt
    updatedAt := times.toColumn row.updatedAt
    memberVector := []
    sourceKind := ""
    sourceSessionId := ""
    sourceEventId := ""
    eventTs := times.toColumn row.setAt }

end Entries

/-! ## The database -/

inductive FamilyViewError where
  | duplicateDedupeKey (dedupeKey : String)
  | missingDiscoverySnapshot (discoveryRevision : Int)
  | invalidValue (kind value : String)
deriving DecidableEq, Repr

/-- The tables of the families, and the journal. -/
structure FamilyDatabase where
  validations : KeyedTable NegRiskFamilyValidationRow.eventFamilyId
  halts : KeyedTable FamilyHaltRow.eventFamilyId
  journal : InsertionTable fun entry : JournalEntryRow ↦ entry.dedupeKey
  nextJournalSeq : Nat
  /-- The entries are in the order of their numbers. -/
  ordered : journal.rows.Pairwise fun entry entry' ↦ entry.journalSeq < entry'.journalSeq
  below : ∀ entry ∈ journal.rows, entry.journalSeq < nextJournalSeq

namespace FamilyDatabase

def empty : FamilyDatabase :=
  { validations := .empty
    halts := .empty
    journal := .empty
    nextJournalSeq := 1
    ordered := .nil
    below := nofun }

variable (times : TimeFormat) (now : DateTime) (database : FamilyDatabase)

/-- Numbers that are given out to no entry. -/
def skipNumbers (skipped : Nat) : FamilyDatabase :=
  { database with
    nextJournalSeq := database.nextJournalSeq + skipped
    below := fun entry hentry ↦ Nat.lt_add_right skipped (database.below entry hentry) }

def appendJournalEntry (entry : JournalEntryInput) :
    Except FamilyViewError (JournalEntryRow × FamilyDatabase) :=
  let row : JournalEntryRow :=
    { entry with
      eventTs := times.toColumn entry.eventTs
      journalSeq := database.nextJournalSeq
      ingestedAt := now }
  match h : database.journal.insert? row with
  | none => .error (.duplicateDedupeKey entry.dedupeKey)
  | some journal =>
      .ok (row, { database with
        journal
        nextJournalSeq := database.nextJournalSeq + 1
        ordered := by
          rw [(InsertionTable.insert?_eq_some_iff.mp h).2, List.pairwise_append]
          refine ⟨database.ordered, List.pairwise_singleton _ _, fun other hother added hadded ↦ ?_⟩
          rw [List.mem_singleton.mp hadded]
          exact database.below other hother
        below := by
          intro other hother
          rw [(InsertionTable.insert?_eq_some_iff.mp h).2, List.mem_append, List.mem_singleton] at hother
          rcases hother with hold | rfl
          · exact Nat.lt_succ_of_lt (database.below other hold)
          · exact Nat.lt_succ_self _ })

end FamilyDatabase

/-! ## Upserts -/

/-- One of the two tables: which rows are the same, what is kept of a row, and what it is
journaled as. -/
structure FamilyTable {ρ : Type} (familyId : ρ → String) where
  eventType : String
  same : ρ → ρ → Bool
  stored : ρ → ρ
  entry : ρ → JournalEntryInput
  rows : FamilyDatabase → KeyedTable familyId
  setRows : FamilyDatabase → KeyedTable familyId → FamilyDatabase
  eventType_entry : ∀ row, (entry row).eventType = eventType
  eventFamilyId_entry : ∀ row,
    ((entry row).payload.get? "event_family_id").bind Json.asStr = some (familyId row)
  familyId_stored : ∀ row, familyId (stored row) = familyId row
  rows_setRows : ∀ database kept, rows (setRows database kept) = kept
  journal_setRows : ∀ database kept, (setRows database kept).journal = database.journal
  rows_eq_of : ∀ {database database' : FamilyDatabase}, database'.validations = database.validations →
    database'.halts = database.halts → rows database' = rows database

section Upsert

variable (times : TimeFormat) (now : DateTime)

def validationTable : FamilyTable NegRiskFamilyValidationRow.eventFamilyId :=
  { eventType := "family_validation"
    same := sameValidationState
    stored := storedValidation times
    entry := validationEntry times
    rows := FamilyDatabase.validations
    setRows := fun database validations ↦ { database with validations }
    eventType_entry := fun _ ↦ rfl
    eventFamilyId_entry := fun _ ↦ rfl
    familyId_stored := fun _ ↦ rfl
    rows_setRows := fun _ _ ↦ rfl
    journal_setRows := fun _ _ ↦ rfl
    rows_eq_of := fun hvalidations _ ↦ hvalidations }

def haltTable : FamilyTable FamilyHaltRow.eventFamilyId :=
  { eventType := "family_halt"
    same := sameHaltState
    stored := storedHalt times
    entry := haltEntry times
    rows := FamilyDatabase.halts
    setRows := fun database halts ↦ { database with halts }
    eventType_entry := fun _ ↦ rfl
    eventFamilyId_entry := fun _ ↦ rfl
    familyId_stored := fun _ ↦ rfl
    rows_setRows := fun _ _ ↦ rfl
    journal_setRows := fun _ _ ↦ rfl
    rows_eq_of := fun _ hhalts ↦ hhalts }

variable {ρ : Type} {familyId : ρ → String} (table : FamilyTable familyId) (row : ρ)
  (database : FamilyDatabase)

/-- There is a row, and it is the same. -/
def FamilyTable.IsNoop : Prop :=
  ((table.rows database).get? (familyId row)).any (table.same · row)

instance : Decidable (table.IsNoop row database) := inferInstanceAs (Decidable (_ = true))

/-- Write a row and journal it; either both or none is done. -/
def upsertInto : Except FamilyViewError FamilyDatabase :=
  if table.IsNoop row database then
    .ok database
  else
    ((table.setRows database ((table.rows database).put (table.stored row))).appendJournalEntry times now
      (table.entry row)).map Prod.snd

def upsertValidationWithInstrumentation (row : NegRiskFamilyValidationRow) :
    FamilyDatabase → Except FamilyViewError FamilyDatabase :=
  upsertInto times now (validationTable times) row

def upsertHaltWithInstrumentation (row : FamilyHaltRow) :
    FamilyDatabase → Except FamilyViewError FamilyDatabase :=
  upsertInto times now (haltTable times) row

end Upsert

/-! ## Snapshots -/

def isReservedDiscoverySnapshotKey (key : String) : Bool :=
  key ∈ ["discovery_revision", "metadata_snapshot_hash", "discovered_family_count", "family_ids",
    "captured_at"]

section Snapshots

variable (times : TimeFormat) (now : DateTime)

/-- The payload of a snapshot; a further field does not replace one of its own. -/
def snapshotPayload (snapshot : NegRiskDiscoverySnapshotInput) : Json :=
  let payload := Json.object
    [("captured_at", .string (times.toRfc3339 snapshot.capturedAt)),
      ("discovered_family_count", integer snapshot.familyIds.length),
      ("discovery_revision", integer snapshot.discoveryRevision),
      ("family_ids", .array (snapshot.familyIds.map .string)),
      ("metadata_snapshot_hash", .string snapshot.metadataSnapshotHash)]
  match snapshot.extraPayload with
  | .object members => (members.filter fun member ↦ !isReservedDiscoverySnapshotKey member.1).foldl
      (fun payload member ↦ payload.insert member.1 member.2) payload
  | _ => payload

def persistDiscoverySnapshot (snapshot : NegRiskDiscoverySnapshotInput) (database : FamilyDatabase) :
    Except FamilyViewError (JournalEntryRow × FamilyDatabase) :=
  database.appendJournalEntry times now
    { stream := "neg_risk_discovery"
      sourceKind := snapshot.sourceKind
      sourceSessionId := snapshot.sourceSessionId
      sourceEventId := snapshot.sourceEventId
      dedupeKey := snapshot.dedupeKey
      causalParentId := none
      eventType := "neg_risk_discovery_snapshot"
      eventTs := snapshot.capturedAt
      payload := snapshotPayload times snapshot }

/-- The payload of the last snapshot in the journal. -/
def FamilyDatabase.latestSnapshotPayload (database : FamilyDatabase) : Option Json :=
  (database.journal.rows.filter (·.eventType = "neg_risk_discovery_snapshot")).getLast?.map
    fun entry ↦ entry.payload

/-- The families of the last snapshot. -/
def latestDiscoverySnapshot (database : FamilyDatabase) :
    Except FamilyViewError (Option (List String)) :=
  match database.latestSnapshotPayload with
  | none => .ok none
  | some payload => do
      let some _ := (payload.get? "discovery_revision").bind Json.asI64
        | throw (.invalidValue "neg_risk_discovery_snapshot.discovery_revision" payload.text)
      let some items := (payload.get? "family_ids").bind Json.asArray
        | throw (.invalidValue "neg_risk_discovery_snapshot.family_ids" payload.text)
      let familyIds ← items.mapM fun item ↦ match item.asStr with
        | some familyId => .ok familyId
        | none => .error (.invalidValue "neg_risk_discovery_snapshot.family_ids" item.text)
      return some familyIds

/-- What is read of a snapshot is what it was persisted with. -/
theorem get?_snapshotPayload (snapshot : NegRiskDiscoverySnapshotInput) :
    (snapshotPayload times snapshot).get? "discovery_revision" =
        some (integer snapshot.discoveryRevision) ∧
      (snapshotPayload times snapshot).get? "family_ids" =
        some (.array (snapshot.familyIds.map .string)) ∧
      (snapshotPayload times snapshot).get? "metadata_snapshot_hash" =
        some (.string snapshot.metadataSnapshotHash) := by
  unfold snapshotPayload
  split
  · rename_i members _
    have hother : ∀ key, isReservedDiscoverySnapshotKey key →
        ∀ member ∈ members.filter fun member ↦ !isReservedDiscoverySnapshotKey member.1,
          key ≠ member.1 := by
      rintro key hkey member hmember rfl
      have hfree := (List.mem_filter.mp hmember).2
      rw [hkey] at hfree
      cases hfree
    rw [Json.get?_foldl_insert _ (hother _ (by decide)), Json.get?_foldl_insert _ (hother _ (by decide)),
      Json.get?_foldl_insert _ (hother _ (by decide))]
    exact ⟨rfl, rfl, rfl⟩
  · exact ⟨rfl, rfl, rfl⟩

/-- Delete the rows of families that the last snapshot does not list. -/
def reconcileCurrentFamilyView (discoveryRevision : Int) (database : FamilyDatabase) :
    Except FamilyViewError FamilyDatabase := do
  let some familyIds ← latestDiscoverySnapshot database
    | throw (.missingDiscoverySnapshot discoveryRevision)
  return { database with
    validations := database.validations.keepKeys fun familyId ↦ familyId ∈ familyIds
    halts := database.halts.keepKeys fun familyId ↦ familyId ∈ familyIds }

end Snapshots

/-! ## Metrics -/

structure CurrentViewCounts where
  includedCount : Nat
  excludedCount : Nat
  haltCount : Nat
deriving DecidableEq, Repr

section Metrics

variable (database : FamilyDatabase)

def countAuthoritativeValidationRows (authoritativeFamilyIds : List String) (validationStatus : String) :
    Nat :=
  database.validations.all.countP fun row ↦
    row.eventFamilyId ∈ authoritativeFamilyIds ∧ row.validationStatus = validationStatus

def countAuthoritativeHaltRows (authoritativeFamilyIds : List String) : Nat :=
  database.halts.all.countP fun row ↦ row.eventFamilyId ∈ authoritativeFamilyIds ∧ row.halted

/-- The counts that are recorded; there are none without a snapshot. -/
def recordAuthoritativeNegRiskCurrentViewMetrics :
    Except FamilyViewError (Option CurrentViewCounts) := do
  let some authoritativeFamilyIds ← latestDiscoverySnapshot database
    | return none
  return some
    { includedCount := countAuthoritativeValidationRows database authoritativeFamilyIds "included"
      excludedCount := countAuthoritativeValidationRows database authoritativeFamilyIds "excluded"
      haltCount := countAuthoritativeHaltRows database authoritativeFamilyIds }

end Metrics

/-! ## Runs -/

inductive FamilyOp where
  | upsertValidation (row : NegRiskFamilyValidationRow)
  | upsertHalt (row : FamilyHaltRow)
  | persistDiscoverySnapshot (snapshot : NegRiskDiscoverySnapshotInput)
  | reconcileCurrentFamilyView (discoveryRevision : Int)

/-- A call at the time `now`.  Before it `skipped` numbers of the journal are given out to no
entry; a call that is cut off changes nothing else. -/
structure FamilyCall where
  op : FamilyOp
  now : DateTime
  skipped : Nat
  cutOff : Bool

variable (times : TimeFormat)

def FamilyOp.exec (op : FamilyOp) (now : DateTime) (database : FamilyDatabase) :
    Except FamilyViewError FamilyDatabase :=
  match op with
  | upsertValidation row => upsertValidationWithInstrumentation times now row database
  | upsertHalt row => upsertHaltWithInstrumentation times now row database
  | persistDiscoverySnapshot snapshot =>
      (Persistence.persistDiscoverySnapshot times now snapshot database).map Prod.snd
  | reconcileCurrentFamilyView discoveryRevision =>
      Persistence.reconcileCurrentFamilyView discoveryRevision database

/-- A call that fails is rolled back. -/
def familyStep (database : FamilyDatabase) (call : FamilyCall) : FamilyDatabase :=
  let database := database.skipNumbers call.skipped
  if call.cutOff then
    database
  else
    match call.op.exec times call.now database with
    | .ok database => database
    | .error _ => database

/-- The call is not cut off, and it does not fail. -/
def Commits (database : FamilyDatabase) (call : FamilyCall) : Prop :=
  call.cutOff = false ∧ (call.op.exec times call.now (database.skipNumbers call.skipped)).isOk

instance (database : FamilyDatabase) (call : FamilyCall) : Decidable (Commits times database call) :=
  inferInstanceAs (Decidable (_ ∧ _))

/-- The validation that a call writes. -/
def validationWritten (database : FamilyDatabase) (call : FamilyCall) :
    Option NegRiskFamilyValidationRow :=
  match call.op with
  | .upsertValidation row =>
      if Commits times database call ∧ ¬(validationTable times).IsNoop row database then some row else none
  | _ => none

/-- The halt that a call writes. -/
def haltWritten (database : FamilyDatabase) (call : FamilyCall) : Option FamilyHaltRow :=
  match call.op with
  | .upsertHalt row =>
      if Commits times database call ∧ ¬(haltTable times).IsNoop row database then some row else none
  | _ => none

/-! ## What a call does -/

section Calls

variable {times : TimeFormat} {now : DateTime} {database database' : FamilyDatabase} {ρ ρ' : Type}
  {familyId : ρ → String} {familyId' : ρ' → String} {table : FamilyTable familyId}
  {table' : FamilyTable familyId'} {row : ρ} {row' : ρ'} {entry : JournalEntryInput}
  {added : JournalEntryRow}

theorem appendJournalEntry_eq_ok
    (h : database.appendJournalEntry times now entry = .ok (added, database')) :
    added.eventType = entry.eventType ∧ added.payload = entry.payload ∧
      database'.journal.rows = database.journal.rows ++ [added] ∧
      database'.validations = database.validations ∧ database'.halts = database.halts := by
  simp only [FamilyDatabase.appendJournalEntry] at h
  split at h
  · cases h
  · rename_i hinsert
    obtain ⟨rfl, rfl⟩ := Prod.mk.inj (Except.ok.inj h)
    exact ⟨rfl, rfl, (InsertionTable.insert?_eq_some_iff.mp hinsert).2, rfl, rfl⟩

/-- What a call does to a table and to the journal, and the row that it writes. -/
inductive Does (table : FamilyTable familyId) (database database' : FamilyDatabase) : Option ρ → Prop
  | wrote (row : ρ) (added : JournalEntryRow)
      (htype : added.eventType = table.eventType) (hpayload : added.payload = (table.entry row).payload)
      (hrows : table.rows database' = (table.rows database).put (table.stored row))
      (hjournal : database'.journal.rows = database.journal.rows ++ [added]) :
      Does table database database' (some row)
  | journaled (added : JournalEntryRow) (htype : added.eventType ≠ table.eventType)
      (hrows : table.rows database' = table.rows database)
      (hjournal : database'.journal.rows = database.journal.rows ++ [added]) :
      Does table database database' none
  | pruned (keep : String → Bool) (hrows : table.rows database' = (table.rows database).keepKeys keep)
      (hjournal : database'.journal.rows = database.journal.rows) : Does table database database' none
  | nothing (hrows : table.rows database' = table.rows database)
      (hjournal : database'.journal.rows = database.journal.rows) : Does table database database' none

/-- An upsert into the table itself. -/
theorem does_upsertInto (table : FamilyTable familyId)
    (h : upsertInto times now table row database = .ok database') :
    Does table database database' (if table.IsNoop row database then none else some row) := by
  unfold upsertInto at h
  split at h
  · rename_i hnoop
    obtain rfl := Except.ok.inj h
    rw [if_pos hnoop]
    exact .nothing rfl rfl
  · rename_i hnew
    rw [if_neg hnew]
    obtain ⟨⟨added, _⟩, happend, rfl⟩ := map_eq_ok.mp h
    obtain ⟨htype, hpayload, hjournal, hvalidations, hhalts⟩ := appendJournalEntry_eq_ok happend
    refine .wrote row added (htype.trans (table.eventType_entry row)) hpayload ?_ ?_
    · rw [table.rows_eq_of hvalidations hhalts, table.rows_setRows]
    · rw [hjournal, table.journal_setRows]

/-- A row whose times the columns keep is written where it changes what there is of its family,
and only there. -/
theorem get?_upsertInto_ne_iff (hkept : table.same (table.stored row) row)
    (h : upsertInto times now table row database = .ok database') :
    (table.rows database').get? (familyId row) ≠ (table.rows database).get? (familyId row) ↔
      ¬table.IsNoop row database := by
  unfold upsertInto at h
  split at h
  · rename_i hnoop
    obtain rfl := Except.ok.inj h
    exact iff_of_false (fun hne ↦ hne rfl) fun hnew ↦ hnew hnoop
  · rename_i hnew
    refine iff_of_true ?_ hnew
    obtain ⟨⟨added, _⟩, happend, rfl⟩ := map_eq_ok.mp h
    obtain ⟨_, _, _, hvalidations, hhalts⟩ := appendJournalEntry_eq_ok happend
    rw [table.rows_eq_of hvalidations hhalts, table.rows_setRows, KeyedTable.get?_put,
      if_pos (table.familyId_stored row)]
    intro heq
    apply hnew
    rw [FamilyTable.IsNoop, ← heq]
    exact hkept

theorem sameValidationState_stored {row : NegRiskFamilyValidationRow} :
    sameValidationState (storedValidation times row) row ↔
      times.toColumn row.firstSeenAt = row.firstSeenAt ∧
        times.toColumn row.lastSeenAt = row.lastSeenAt ∧
        times.toColumn row.validatedAt = row.validatedAt := by
  simp [sameValidationState, storedValidation]

theorem sameHaltState_stored {row : FamilyHaltRow} :
    sameHaltState (storedHalt times row) row ↔ times.toColumn row.setAt = row.setAt := by
  simp [sameHaltState, storedHalt]

/-- An upsert into the other table. -/
theorem does_upsertInto_other (table' : FamilyTable familyId')
    (htables : table'.eventType ≠ table.eventType)
    (hkept : ∀ database kept, table.rows (table'.setRows database kept) = table.rows database)
    (h : upsertInto times now table' row' database = .ok database') :
    Does table database database' none := by
  unfold upsertInto at h
  split at h
  · obtain rfl := Except.ok.inj h
    exact .nothing rfl rfl
  · obtain ⟨⟨added, _⟩, happend, rfl⟩ := map_eq_ok.mp h
    obtain ⟨htype, _, hjournal, hvalidations, hhalts⟩ := appendJournalEntry_eq_ok happend
    refine .journaled added ?_ ?_ ?_
    · rwa [htype, table'.eventType_entry]
    · rw [table.rows_eq_of hvalidations hhalts, hkept]
    · rw [hjournal, table'.journal_setRows]

theorem does_persistDiscoverySnapshot {snapshot : NegRiskDiscoverySnapshotInput}
    (htable : "neg_risk_discovery_snapshot" ≠ table.eventType)
    (h : (persistDiscoverySnapshot times now snapshot database).map Prod.snd = .ok database') :
    Does table database database' none := by
  obtain ⟨⟨added, _⟩, happend, rfl⟩ := map_eq_ok.mp h
  obtain ⟨htype, _, hjournal, hvalidations, hhalts⟩ := appendJournalEntry_eq_ok happend
  refine .journaled added ?_ (table.rows_eq_of hvalidations hhalts) hjournal
  rwa [htype]

/-- Both tables are pruned to the families of the last snapshot. -/
theorem reconcileCurrentFamilyView_eq_ok {discoveryRevision : Int}
    (h : reconcileCurrentFamilyView discoveryRevision database = .ok database') :
    ∃ keep, database'.validations = database.validations.keepKeys keep ∧
      database'.halts = database.halts.keepKeys keep ∧ database'.journal = database.journal := by
  unfold reconcileCurrentFamilyView at h
  obtain ⟨_ | familyIds, _, hpruned⟩ := bind_eq_ok.mp h
  · cases hpruned
  · obtain rfl := Except.ok.inj hpruned
    exact ⟨fun familyId ↦ familyId ∈ familyIds, rfl, rfl, rfl⟩

variable {call : FamilyCall} {written : Option ρ}

theorem Does.of_skipNumbers {skipped : Nat} (h : Does table (database.skipNumbers skipped) database' written) :
    Does table database database' written := by
  have hrows : table.rows (database.skipNumbers skipped) = table.rows database :=
    table.rows_eq_of rfl rfl
  cases h with
  | wrote row added htype hpayload hput hjournal =>
      exact .wrote row added htype hpayload (hrows ▸ hput) hjournal
  | journaled added htype hkept hjournal => exact .journaled added htype (hrows ▸ hkept) hjournal
  | pruned keep hpruned hjournal => exact .pruned keep (hrows ▸ hpruned) hjournal
  | nothing hkept hjournal => exact .nothing (hrows ▸ hkept) hjournal

theorem isNoop_skipNumbers {skipped : Nat} :
    table.IsNoop row (database.skipNumbers skipped) ↔ table.IsNoop row database := by
  have hrows : table.rows (database.skipNumbers skipped) = table.rows database :=
    table.rows_eq_of rfl rfl
  rw [FamilyTable.IsNoop, FamilyTable.IsNoop, hrows]

theorem familyStep_of_commits (h : Commits times database call) :
    call.op.exec times call.now (database.skipNumbers call.skipped) =
      .ok (familyStep times database call) := by
  cases hexec : call.op.exec times call.now (database.skipNumbers call.skipped) with
  | ok database' => simp only [familyStep, h.1, Bool.false_eq_true, if_false, hexec]
  | error error =>
      have hok := h.2
      rw [hexec] at hok
      cases hok

theorem familyStep_of_not_commits (h : ¬Commits times database call) :
    familyStep times database call = database.skipNumbers call.skipped := by
  by_cases hcut : call.cutOff
  · exact if_pos hcut
  · cases hexec : call.op.exec times call.now (database.skipNumbers call.skipped) with
    | ok database' =>
        refine absurd ⟨by simpa using hcut, ?_⟩ h
        rw [hexec]
        rfl
    | error error => simp only [familyStep, hcut, Bool.false_eq_true, if_false, hexec]

/-- A step does what its call does, if the call commits, and otherwise nothing. -/
theorem does_familyStep (hrolled : ¬Commits times database call → written = none)
    (hexec : Commits times database call → ∀ database',
      call.op.exec times call.now (database.skipNumbers call.skipped) = .ok database' →
        Does table (database.skipNumbers call.skipped) database' written) :
    Does table database (familyStep times database call) written := by
  apply Does.of_skipNumbers
  by_cases hcommits : Commits times database call
  · exact hexec hcommits _ (familyStep_of_commits hcommits)
  · rw [familyStep_of_not_commits hcommits, hrolled hcommits]
    exact .nothing rfl rfl

theorem does_validations (times : TimeFormat) (database : FamilyDatabase) (call : FamilyCall) :
    Does (validationTable times) database (familyStep times database call)
      (validationWritten times database call) := by
  apply does_familyStep
  · intro hrolled
    unfold validationWritten
    split
    · exact if_neg fun h ↦ hrolled h.1
    · rfl
  · intro hcommits database' hexec
    unfold validationWritten
    cases hop : call.op with
    | upsertValidation row =>
        rw [hop] at hexec
        have hdoes := does_upsertInto (validationTable times) hexec
        simpa only [hcommits, true_and, ite_not, isNoop_skipNumbers] using hdoes
    | upsertHalt row =>
        rw [hop] at hexec
        exact does_upsertInto_other (haltTable times)
          (show "family_halt" ≠ "family_validation" by decide) (fun _ _ ↦ rfl) hexec
    | persistDiscoverySnapshot snapshot =>
        rw [hop] at hexec
        exact does_persistDiscoverySnapshot
          (show "neg_risk_discovery_snapshot" ≠ "family_validation" by decide) hexec
    | reconcileCurrentFamilyView discoveryRevision =>
        rw [hop] at hexec
        obtain ⟨keep, hvalidations, _, hjournal⟩ := reconcileCurrentFamilyView_eq_ok hexec
        exact .pruned keep hvalidations (by rw [hjournal])

theorem does_halts (times : TimeFormat) (database : FamilyDatabase) (call : FamilyCall) :
    Does (haltTable times) database (familyStep times database call)
      (haltWritten times database call) := by
  apply does_familyStep
  · intro hrolled
    unfold haltWritten
    split
    · exact if_neg fun h ↦ hrolled h.1
    · rfl
  · intro hcommits database' hexec
    unfold haltWritten
    cases hop : call.op with
    | upsertValidation row =>
        rw [hop] at hexec
        exact does_upsertInto_other (validationTable times)
          (show "family_validation" ≠ "family_halt" by decide) (fun _ _ ↦ rfl) hexec
    | upsertHalt row =>
        rw [hop] at hexec
        have hdoes := does_upsertInto (haltTable times) hexec
        simpa only [hcommits, true_and, ite_not, isNoop_skipNumbers] using hdoes
    | persistDiscoverySnapshot snapshot =>
        rw [hop] at hexec
        exact does_persistDiscoverySnapshot
          (show "neg_risk_discovery_snapshot" ≠ "family_halt" by decide) hexec
    | reconcileCurrentFamilyView discoveryRevision =>
        rw [hop] at hexec
        obtain ⟨keep, _, hhalts, hjournal⟩ := reconcileCurrentFamilyView_eq_ok hexec
        exact .pruned keep hhalts (by rw [hjournal])

end Calls

/-! ## The journal behind the rows -/

/-- The family that an entry of this type is about. -/
def familyKey (eventType : String) (entry : JournalEntryRow) : Option String :=
  if entry.eventType = eventType then (entry.payload.get? "event_family_id").bind Json.asStr else none

section Backing

variable {times : TimeFormat} {database database' : FamilyDatabase} {ρ : Type}
  {familyId : ρ → String} {table : FamilyTable familyId} {written : Option ρ}

/-- What the written row says of a family. -/
def ofFamily (familyId : ρ → String) (eventFamilyId : String) (written : Option ρ) : Option ρ :=
  written.filter fun row ↦ familyId row = eventFamilyId

/-- A row is what its columns keep of the row that was written last, and the last entry about
its family is the entry of that row. -/
def Backed (table : FamilyTable familyId) (lastWritten : String → Option ρ)
    (database : FamilyDatabase) : Prop :=
  ∀ eventFamilyId current, (table.rows database).get? eventFamilyId = some current →
    ∃ row entry, lastWritten eventFamilyId = some row ∧ current = table.stored row ∧
      BTreeMap.lastOf (familyKey table.eventType) database.journal.rows (some eventFamilyId) = some entry ∧
      entry.payload = (table.entry row).payload

/-- A step that writes a row journals it; a step that does not leaves the entry of each row
that it keeps the last one. -/
theorem Backed.step {lastWritten : String → Option ρ} (h : Backed table lastWritten database)
    (hdoes : Does table database database' written) :
    Backed table (fun eventFamilyId ↦
      (ofFamily familyId eventFamilyId written).or (lastWritten eventFamilyId)) database' := by
  intro eventFamilyId current hcurrent
  cases hdoes with
  | wrote row added htype hpayload hrows hjournal =>
      rw [hrows, KeyedTable.get?_put, table.familyId_stored] at hcurrent
      have hkey : familyKey table.eventType added = some (familyId row) := by
        rw [familyKey, if_pos htype, hpayload, table.eventFamilyId_entry]
      by_cases hfamily : familyId row = eventFamilyId
      · rw [if_pos hfamily] at hcurrent
        refine ⟨row, added, ?_, (Option.some.inj hcurrent).symm, ?_, hpayload⟩
        · simp [ofFamily, hfamily]
        · rw [hjournal]
          exact BTreeMap.lastOf_concat_self (hkey.trans (congrArg some hfamily))
      · rw [if_neg hfamily] at hcurrent
        obtain ⟨row', entry, hlast, hstored, hentry, hpayload'⟩ := h eventFamilyId current hcurrent
        refine ⟨row', entry, ?_, hstored, ?_, hpayload'⟩
        · show (ofFamily familyId eventFamilyId (some row)).or _ = _
          rw [ofFamily, Option.filter_some_neg (by simpa using hfamily), Option.none_or, hlast]
        · rw [hjournal, BTreeMap.lastOf_concat_of_ne, hentry]
          rw [hkey, ne_eq, Option.some.injEq]
          exact hfamily
  | journaled added htype hrows hjournal =>
      rw [hrows] at hcurrent
      obtain ⟨row, entry, hlast, hstored, hentry, hpayload⟩ := h eventFamilyId current hcurrent
      refine ⟨row, entry, hlast, hstored, ?_, hpayload⟩
      rw [hjournal, BTreeMap.lastOf_concat_of_ne, hentry]
      rw [familyKey, if_neg htype]
      exact Option.some_ne_none _ |>.symm
  | pruned keep hrows hjournal =>
      rw [hrows, KeyedTable.get?_keepKeys] at hcurrent
      rw [hjournal]
      exact h eventFamilyId current (Option.filter_eq_some_iff.mp hcurrent).1
  | nothing hrows hjournal =>
      rw [hrows] at hcurrent
      rw [hjournal]
      exact h eventFamilyId current hcurrent

/-- The row that calls wrote last for a family. -/
def lastWritten (times : TimeFormat) (familyId : ρ → String)
    (written : FamilyDatabase → FamilyCall → Option ρ) (database : FamilyDatabase)
    (calls : List FamilyCall) (eventFamilyId : String) : Option ρ :=
  lastGiven (familyStep times) (fun database call ↦ ofFamily familyId eventFamilyId (written database call))
    database calls

theorem lastWritten_concat {written : FamilyDatabase → FamilyCall → Option ρ} {calls : List FamilyCall}
    {call : FamilyCall} :
    lastWritten times familyId written database (calls ++ [call]) = fun eventFamilyId ↦
      (ofFamily familyId eventFamilyId (written (run (familyStep times) database calls) call)).or
        (lastWritten times familyId written database calls eventFamilyId) := by
  funext eventFamilyId
  exact lastGiven_concat

/-- In a run that begins with an empty table every row is backed. -/
theorem backed_run {written : FamilyDatabase → FamilyCall → Option ρ}
    (hdoes : ∀ database call,
      Does table database (familyStep times database call) (written database call))
    (hempty : table.rows database = .empty) (calls : List FamilyCall) :
    Backed table (lastWritten times familyId written database calls)
      (run (familyStep times) database calls) := by
  refine run_inv_history (Q := fun calls database' ↦
    Backed table (lastWritten times familyId written database calls) database') ?_ ?_
  · intro calls call h
    have hstep := h.step (hdoes _ call)
    rw [run_append, lastWritten_concat]
    exact hstep
  · intro eventFamilyId current hcurrent
    rw [hempty, KeyedTable.get?_empty] at hcurrent
    cases hcurrent

end Backing

/-! ## What a step does to all rows -/

section Steps

variable {times : TimeFormat} {database database' : FamilyDatabase} {call : FamilyCall} {ρ : Type}
  {familyId : ρ → String} {table : FamilyTable familyId} {written : Option ρ} {added : JournalEntryRow}

/-- What holds of all rows after a step holds of the row that is written, and, if it held of
all rows before, of nothing more. -/
theorem Does.forall_rows_iff {P : ρ → Prop} (hdoes : Does table database database' written)
    (hstored : ∀ row, P (table.stored row) ↔ P row) (h : ∀ row ∈ (table.rows database).all, P row) :
    (∀ row ∈ (table.rows database').all, P row) ↔ ∀ row, written = some row → P row := by
  cases hdoes with
  | wrote row added htype hpayload hrows hjournal =>
      rw [hrows]
      constructor
      · rintro hafter _ ⟨⟩
        rw [← hstored]
        refine hafter _ (KeyedTable.mem_all_iff.mpr ?_)
        rw [KeyedTable.get?_put, if_pos rfl]
      · intro hwritten other hother
        rw [KeyedTable.mem_all_iff, KeyedTable.get?_put] at hother
        split at hother
        · obtain rfl := Option.some.inj hother
          exact (hstored row).mpr (hwritten row rfl)
        · exact h other (KeyedTable.mem_all_iff.mpr hother)
  | journaled added htype hrows hjournal =>
      rw [hrows]
      exact iff_of_true h nofun
  | pruned keep hrows hjournal =>
      rw [hrows]
      refine iff_of_true (fun row hrow ↦ h row ?_) nofun
      rw [KeyedTable.mem_all_iff, KeyedTable.get?_keepKeys] at hrow
      exact KeyedTable.mem_all_iff.mpr (Option.filter_eq_some_iff.mp hrow).1
  | nothing hrows hjournal =>
      rw [hrows]
      exact iff_of_true h nofun

/-- Every entry of a table's type is about a family. -/
def AboutFamilies (table : FamilyTable familyId) (database : FamilyDatabase) : Prop :=
  ∀ entry ∈ database.journal.rows, entry.eventType = table.eventType →
    ((entry.payload.get? "event_family_id").bind Json.asStr).isSome

theorem Does.aboutFamilies (hdoes : Does table database database' written)
    (h : AboutFamilies table database) : AboutFamilies table database' := by
  intro entry hentry htype'
  cases hdoes with
  | wrote row added htype hpayload hrows hjournal =>
      rw [hjournal, List.mem_append, List.mem_singleton] at hentry
      rcases hentry with hentry | rfl
      · exact h entry hentry htype'
      · rw [hpayload, table.eventFamilyId_entry]
        rfl
  | journaled added htype hrows hjournal =>
      rw [hjournal, List.mem_append, List.mem_singleton] at hentry
      rcases hentry with hentry | rfl
      · exact h entry hentry htype'
      · exact absurd htype' htype
  | pruned keep hrows hjournal => exact h entry (hjournal ▸ hentry) htype'
  | nothing hrows hjournal => exact h entry (hjournal ▸ hentry) htype'

/-- The snapshot that a call persists. -/
def snapshotPersisted (times : TimeFormat) (database : FamilyDatabase) (call : FamilyCall) :
    Option NegRiskDiscoverySnapshotInput :=
  match call.op with
  | .persistDiscoverySnapshot snapshot => if Commits times database call then some snapshot else none
  | _ => none

theorem snapshotPersisted_eq_some_iff {snapshot : NegRiskDiscoverySnapshotInput} :
    snapshotPersisted times database call = some snapshot ↔
      call.op = .persistDiscoverySnapshot snapshot ∧ Commits times database call := by
  unfold snapshotPersisted
  split
  · rename_i given hop
    rw [Option.ite_none_right_eq_some, hop, FamilyOp.persistDiscoverySnapshot.injEq, Option.some.injEq,
      and_comm]
  · rename_i hother
    exact iff_of_false nofun fun h ↦ hother snapshot h.1

theorem latestSnapshotPayload_of_concat
    (hjournal : database'.journal.rows = database.journal.rows ++ [added]) :
    database'.latestSnapshotPayload =
      if added.eventType = "neg_risk_discovery_snapshot" then some added.payload
      else database.latestSnapshotPayload := by
  unfold FamilyDatabase.latestSnapshotPayload
  rw [hjournal, List.filter_append]
  split
  · rename_i htype
    simp [htype]
  · rename_i htype
    simp [htype]

theorem latestSnapshotPayload_of_journal (hjournal : database'.journal = database.journal) :
    database'.latestSnapshotPayload = database.latestSnapshotPayload := by
  unfold FamilyDatabase.latestSnapshotPayload
  rw [hjournal]

/-- Rows are written under an entry that is no snapshot. -/
theorem latestSnapshotPayload_upsertInto (table : FamilyTable familyId) {now : DateTime} {row : ρ}
    (htable : table.eventType ≠ "neg_risk_discovery_snapshot")
    (h : upsertInto times now table row database = .ok database') :
    database'.latestSnapshotPayload = database.latestSnapshotPayload := by
  unfold upsertInto at h
  split at h
  · rw [Except.ok.inj h]
  · obtain ⟨⟨added, _⟩, happend, rfl⟩ := map_eq_ok.mp h
    obtain ⟨htype, -, hjournal, -, -⟩ := appendJournalEntry_eq_ok happend
    rw [latestSnapshotPayload_of_concat hjournal, htype, table.eventType_entry, if_neg htable]
    exact latestSnapshotPayload_of_journal (table.journal_setRows _ _)

/-- The last snapshot is the one that the call persists, or that of before. -/
theorem latestSnapshotPayload_familyStep (times : TimeFormat) (database : FamilyDatabase)
    (call : FamilyCall) :
    (familyStep times database call).latestSnapshotPayload =
      ((snapshotPersisted times database call).map (snapshotPayload times)).or
        database.latestSnapshotPayload := by
  by_cases hcommits : Commits times database call
  · have hexec := familyStep_of_commits hcommits
    unfold snapshotPersisted
    cases hop : call.op with
    | upsertValidation row =>
        rw [hop] at hexec
        have hlatest := latestSnapshotPayload_upsertInto (validationTable times)
          (show "family_validation" ≠ "neg_risk_discovery_snapshot" by decide) hexec
        exact hlatest
    | upsertHalt row =>
        rw [hop] at hexec
        have hlatest := latestSnapshotPayload_upsertInto (haltTable times)
          (show "family_halt" ≠ "neg_risk_discovery_snapshot" by decide) hexec
        exact hlatest
    | persistDiscoverySnapshot snapshot =>
        rw [hop] at hexec
        obtain ⟨⟨added, _⟩, happend, rfl⟩ := map_eq_ok.mp hexec
        obtain ⟨htype, hpayload, hjournal, -, -⟩ := appendJournalEntry_eq_ok happend
        rw [latestSnapshotPayload_of_concat hjournal, if_pos htype, hpayload]
        simp only [if_pos hcommits]
        rfl
    | reconcileCurrentFamilyView discoveryRevision =>
        rw [hop] at hexec
        obtain ⟨_, -, -, hjournal⟩ := reconcileCurrentFamilyView_eq_ok hexec
        exact latestSnapshotPayload_of_journal hjournal
  · have hnone : snapshotPersisted times database call = none :=
      Option.eq_none_iff_forall_ne_some.mpr fun _ hpersisted ↦
        hcommits (snapshotPersisted_eq_some_iff.mp hpersisted).2
    rw [familyStep_of_not_commits hcommits, hnone]
    rfl

end Steps

end AxiomArb.Persistence
