import AxiomArb.AppLive.NegRiskLive
import AxiomArb.Library.JsonText
import Mathlib.Data.List.DropRight

/-!
# Live records and their rows

A restart rebuilds the live records from the attempt, submission and pending rows.
`readBack_eq` says what it makes of the rows that were written
for a list of records: everything an attempt row holds is found again, but the payload
of the submission row stands in for the requests inside it.

## Honest boundary

* Of the payload of a pending row only the fields that are strings are carried.
* A payload is compared with the requests as compact JSON text, with its fields in the
  order of their names.
* An attempt row holds a natural number, so the check for a negative one is not there.
-/

namespace AxiomArb.AppLive

open Domain Library

/-! ## JSON text -/

def LiveSubmissionPayload.text (payload : LiveSubmissionPayload) : String :=
  jsonObject
    [("family_id", jsonString payload.familyId),
      ("reason", jsonString payload.reason),
      ("requests", jsonArray payload.requests),
      ("route", jsonString payload.route),
      ("submission_ref", jsonString payload.submissionRef)]

/-- A payload is longer than each of the requests in it. -/
theorem LiveSubmissionPayload.length_request_lt {payload : LiveSubmissionPayload} {request : String}
    (h : request ∈ payload.requests) : request.length < payload.text.length := by
  have harray : request.length ≤ (jsonArray payload.requests).length := by
    have hle := length_le_commaSeparated h
    simp only [jsonArray, String.length_append]
    omega
  have hfield : (jsonArray payload.requests).length ≤
      (jsonField ("requests", jsonArray payload.requests)).length := by
    simp only [jsonField, String.length_append]
    omega
  have hobject : ∀ {fields : List (String × String)} {field},
      field ∈ fields → (jsonField field).length < (jsonObject fields).length := by
    intro fields field hmem
    have hle := length_le_commaSeparated (List.mem_map_of_mem (f := jsonField) hmem)
    have hbrace : "\x7b".length = 1 := rfl
    simp only [jsonObject, String.length_append]
    omega
  exact (harray.trans hfield).trans_lt (hobject (by simp))

/-! ## Reading the rows -/

structure PendingReconcileRow where
  pendingRef : String
  payload : BTreeMap String String

/-- The characters a trim takes off. -/
def isWhitespace (char : Char) : Bool :=
  let code := char.toNat
  (0x09 ≤ code && code ≤ 0x0d) || code == 0x20 || code == 0x85 || code == 0xa0 || code == 0x1680 ||
    (0x2000 ≤ code && code ≤ 0x200a) || code == 0x2028 || code == 0x2029 || code == 0x202f ||
    code == 0x205f || code == 0x3000

def trim (text : String) : String :=
  String.ofList (((text.toList.dropWhile isWhitespace).reverse.dropWhile isWhitespace).reverse)

theorem trim_eq (text : String) :
    trim text = String.ofList ((text.toList.dropWhile isWhitespace).rdropWhile isWhitespace) := rfl

theorem length_trim_le (text : String) : (trim text).length ≤ text.length := by
  rw [trim_eq, String.length_ofList, ← String.length_toList]
  exact (List.rdropWhile_prefix _ _).length_le.trans (List.dropWhile_suffix _).length_le

/-- What is trimmed has no blank at its ends. -/
theorem trim_trim (text : String) : trim (trim text) = trim text := by
  have hfront : ∀ chars : List Char,
      ((chars.dropWhile isWhitespace).rdropWhile isWhitespace).dropWhile isWhitespace =
        (chars.dropWhile isWhitespace).rdropWhile isWhitespace := by
    intro chars
    rw [List.dropWhile_eq_self_iff]
    intro hpos
    have hbegins := List.rdropWhile_prefix isWhitespace (chars.dropWhile isWhitespace)
    rw [hbegins.getElem hpos]
    exact List.dropWhile_get_zero_not isWhitespace chars (hpos.trans_le hbegins.length_le)
  rw [trim_eq, trim_eq, String.toList_ofList, hfront, List.rdropWhile_idempotent]

/-- A text with another character is not blank. -/
theorem isEmpty_trim_of_mem {text : String} {char : Char} (hmem : char ∈ text.toList)
    (hchar : isWhitespace char = false) : (trim text).isEmpty = false := by
  have hkept : ∀ {chars : List Char}, char ∈ chars → char ∈ chars.dropWhile isWhitespace := by
    intro chars hmem
    rw [← List.takeWhile_append_dropWhile (p := isWhitespace) (l := chars), List.mem_append] at hmem
    rcases hmem with htaken | hkept
    · rw [List.all_eq_true.mp List.all_takeWhile char htaken] at hchar
      cases hchar
    · exact hkept
  have htrimmed : char ∈ (trim text).toList := by
    rw [trim, String.toList_ofList, List.mem_reverse]
    exact hkept (List.mem_reverse.mpr (hkept hmem))
  rw [String.isEmpty_eq_false_iff]
  rintro hempty
  rw [hempty] at htrimmed
  cases htrimmed

def payloadString (payload : BTreeMap String String) (key : String) : Except String String :=
  match (payload[key]?.map trim).filter (!·.isEmpty) with
  | some value => .ok value
  | none => .error s!"missing durable payload field {key}"

/-- A pending reference, with the submission it is for. -/
def PendingReconcileRow.bySubmissionRef (row : PendingReconcileRow) :
    Except String (String × String) := do
  let submissionRef ← payloadString row.payload "submission_ref"
  return (submissionRef, row.pendingRef)

/-- The pending references by submission; the last row of a submission stays. -/
def pendingBySubmissionRef (pendingRows : List PendingReconcileRow) :
    Except String (BTreeMap String String) := do
  let entries ← pendingRows.mapM PendingReconcileRow.bySubmissionRef
  return .ofList entries compare

section Read

variable (submissionsByAttempt : BTreeMap String (List LiveSubmissionRecordRow))

def durableLiveExecutionRecord (pendingBySubmissionRef : BTreeMap String String)
    (attempt : ExecutionAttemptRow) : Except String NegRiskLiveExecutionRecord :=
  let submissions := submissionsByAttempt[attempt.attemptId]?.getD []
  if submissions.isEmpty then
    .error s!"missing durable live submission record for attempt {attempt.attemptId}"
  else
    let submissionRef := submissions.head?.map LiveSubmissionRecordRow.submissionRef
    let pendingRef := submissionRef.bind fun submissionRef ↦ pendingBySubmissionRef[submissionRef]?
    .ok
      { attemptId := attempt.attemptId
        planId := attempt.planId
        snapshotId := attempt.snapshotId
        executionMode := attempt.executionMode
        attemptNo := attempt.attemptNo
        idempotencyKey := attempt.idempotencyKey
        route := attempt.route
        scope := attempt.scope
        matchedRuleId := attempt.matchedRuleId
        submissionRef
        pendingRef
        artifacts := []
        orderRequests := submissions.map fun row ↦ row.payload.text }

def durableLiveExecutionRecords (attempts : List ExecutionAttemptRow)
    (pendingRows : List PendingReconcileRow) : Except String (List NegRiskLiveExecutionRecord) := do
  let pendingBySubmissionRef ← pendingBySubmissionRef pendingRows
  attempts.mapM (durableLiveExecutionRecord submissionsByAttempt pendingBySubmissionRef)

end Read

/-! ## What was written, read again -/

/-- The rows as the database hands them back: the attempts in the order they were
appended, and the submissions of each attempt. -/
def readBack (entries : List LiveSubmissionEntry) (pendingRows : List PendingReconcileRow) :
    Except String (List NegRiskLiveExecutionRecord) :=
  durableLiveExecutionRecords
    (.groupBy LiveSubmissionRecordRow.attemptId (entries.map LiveSubmissionEntry.submission))
    (entries.map LiveSubmissionEntry.attempt) pendingRows

/-- The record that is rebuilt from the rows of a record. -/
def NegRiskLiveExecutionRecord.restored (record : NegRiskLiveExecutionRecord)
    (pendingBySubmissionRef : BTreeMap String String) : NegRiskLiveExecutionRecord :=
  { record with
    submissionRef := record.reference
    pendingRef := record.reference.bind fun submissionRef ↦ pendingBySubmissionRef[submissionRef]?
    artifacts := []
    orderRequests := record.reference.toList.map fun submissionRef ↦
      (record.liveSubmissionRow submissionRef).payload.text }

section Written

variable {database : LiveDatabase} {records : List NegRiskLiveExecutionRecord}
  {runSessionId : Option String} {earlier entries : List LiveSubmissionEntry}

/-- Appending is writing one entry for each record, in order. -/
theorem appended_entries {rows : List LiveSubmissionEntry}
    (h : exec (appendLiveRecords database runSessionId records) earlier = (.ok ⟨⟩, rows)) :
    ∃ entries, rows = earlier ++ entries ∧
      records.mapM (fun record ↦ record.liveSubmissionEntry runSessionId) = .ok entries := by
  simp only [mapM_eq_ok_iff]
  induction records generalizing earlier with
  | nil =>
      cases h
      exact ⟨[], by simp, rfl⟩
  | cons record records ih =>
      simp only [appendLiveRecords, exec_bind, exec_lift, exec_get, exec_set] at h
      cases hentry : record.liveSubmissionEntry runSessionId with
      | error error => simp [hentry] at h
      | ok entry =>
          simp only [hentry] at h
          cases happend : database.append earlier entry with
          | error error => simp [happend] at h
          | ok _ =>
              simp only [happend] at h
              obtain ⟨entries, hrows, hentries⟩ := ih h
              refine ⟨entry :: entries, by rw [hrows, List.append_assoc, List.singleton_append], ?_⟩
              rw [List.map_cons, List.map_cons, hentry, hentries]

theorem entries_of_accepted
    (h : exec (persistLiveExecutionRecords database records runSessionId) earlier =
      (.ok ⟨⟩, earlier ++ entries)) :
    records.mapM (fun record ↦ record.liveSubmissionEntry runSessionId) = .ok entries := by
  simp only [persistLiveExecutionRecords, exec_bind, exec_get, exec_lift] at h
  cases hconnect : database.connect earlier with
  | error error => simp [hconnect] at h
  | ok _ =>
      rw [hconnect] at h
      obtain ⟨entries', hrows, hentries⟩ := appended_entries h
      rw [List.append_cancel_left hrows, hentries]

/-- The rows of a record: its attempt, and one submission under its reference. -/
theorem rows_of_entry {record : NegRiskLiveExecutionRecord} {entry : LiveSubmissionEntry}
    (h : record.liveSubmissionEntry runSessionId = .ok entry) :
    ∃ submissionRef, record.reference = some submissionRef ∧
      record.executionAttemptRow runSessionId = .ok entry.attempt ∧
      entry.submission = record.liveSubmissionRow submissionRef := by
  rw [NegRiskLiveExecutionRecord.liveSubmissionEntry] at h
  cases hreference : record.reference with
  | none => simp [hreference] at h
  | some submissionRef =>
      simp only [hreference] at h
      cases hattempt : record.executionAttemptRow runSessionId with
      | error error => simp [hattempt, bind, Except.bind] at h
      | ok attempt =>
          rw [hattempt] at h
          cases h
          exact ⟨submissionRef, rfl, rfl, rfl⟩

/-- The rows of a record give the restored record. -/
theorem durableLiveExecutionRecord_of_entry {record : NegRiskLiveExecutionRecord}
    {entry : LiveSubmissionEntry} (h : record.liveSubmissionEntry runSessionId = .ok entry)
    {submissionsByAttempt : BTreeMap String (List LiveSubmissionRecordRow)}
    (hrow : submissionsByAttempt[record.attemptId]?.getD [] = [entry.submission])
    (pending : BTreeMap String String) :
    durableLiveExecutionRecord submissionsByAttempt pending entry.attempt =
      .ok (record.restored pending) := by
  obtain ⟨submissionRef, hreference, hattempt, hsubmission⟩ := rows_of_entry h
  rw [hsubmission] at hrow
  rw [NegRiskLiveExecutionRecord.executionAttemptRow] at hattempt
  split at hattempt
  · rw [← Except.ok.inj hattempt]
    simp only [durableLiveExecutionRecord, hrow, NegRiskLiveExecutionRecord.restored, hreference]
    rfl
  · cases hattempt

/-- **What is read back.**  For records with different attempt ids the rows give, record
by record, the restored one. -/
theorem readBack_eq
    (hentries : records.mapM (fun record ↦ record.liveSubmissionEntry runSessionId) = .ok entries)
    (hdistinct : (records.map NegRiskLiveExecutionRecord.attemptId).Nodup)
    {pendingRows : List PendingReconcileRow} {pending : BTreeMap String String}
    (hpending : pendingBySubmissionRef pendingRows = .ok pending) :
    readBack entries pendingRows = .ok (records.map fun record ↦ record.restored pending) := by
  have hids : (entries.map LiveSubmissionEntry.submission).map LiveSubmissionRecordRow.attemptId =
      records.map NegRiskLiveExecutionRecord.attemptId := by
    rw [List.map_map]
    refine map_values_eq hentries fun record _ entry _ hentry ↦ ?_
    obtain ⟨_, -, -, hsubmission⟩ := rows_of_entry hentry
    rw [Function.comp_apply, hsubmission]
    rfl
  rw [readBack, durableLiveExecutionRecords, hpending]
  show List.mapM _ _ = _
  rw [mapM_eq_ok_iff, List.map_map, List.map_map]
  refine map_values_eq hentries fun record _ entry hmem hentry ↦ ?_
  have hsubmissions := BTreeMap.getD_lookup_groupBy_of_nodup (hids ▸ hdistinct)
    (List.mem_map_of_mem (f := LiveSubmissionEntry.submission) hmem)
  obtain ⟨_, -, -, hsubmission⟩ := rows_of_entry hentry
  refine durableLiveExecutionRecord_of_entry hentry ?_ pending
  rw [hsubmission] at hsubmissions ⊢
  exact hsubmissions

/-- The payload is not the list of requests inside it. -/
theorem orderRequests_restored_ne {record : NegRiskLiveExecutionRecord} {submissionRef : String}
    (hreference : record.reference = some submissionRef) (pending : BTreeMap String String) :
    (record.restored pending).orderRequests ≠ record.orderRequests := by
  intro heq
  have hrequests : [(record.liveSubmissionRow submissionRef).payload.text] =
      (record.liveSubmissionRow submissionRef).payload.requests := by
    rw [NegRiskLiveExecutionRecord.restored, hreference] at heq
    exact heq
  have hlt := LiveSubmissionPayload.length_request_lt (hrequests ▸ List.mem_singleton_self _)
  exact lt_irrefl _ hlt

end Written

/-! ## Survival -/

/-- What is compared of a record: everything but its artifacts. -/
def NegRiskLiveExecutionRecord.withoutArtifacts (record : NegRiskLiveExecutionRecord) :
    NegRiskLiveExecutionRecord :=
  { record with artifacts := [] }

/-- The rows give the records again. -/
def SurviveRestart (entries : List LiveSubmissionEntry) (pendingRows : List PendingReconcileRow)
    (records : List NegRiskLiveExecutionRecord) : Prop :=
  ∃ restored, readBack entries pendingRows = .ok restored ∧
    restored.map NegRiskLiveExecutionRecord.withoutArtifacts =
      records.map NegRiskLiveExecutionRecord.withoutArtifacts

/-- The pending row names the submission it is for. -/
def PendingReconcileRow.Named (row : PendingReconcileRow) : Prop :=
  ∃ submissionRef, payloadString row.payload "submission_ref" = .ok submissionRef

theorem PendingReconcileRow.named_iff {row : PendingReconcileRow} :
    row.Named ↔ ∃ entry, row.bySubmissionRef = .ok entry := by
  rw [Named, bySubmissionRef]
  cases payloadString row.payload "submission_ref" <;> simp [bind, Except.bind, pure, Except.pure]

theorem pendingBySubmissionRef_eq_ok_iff {pendingRows : List PendingReconcileRow} :
    (∃ pending, pendingBySubmissionRef pendingRows = .ok pending) ↔
      ∀ row ∈ pendingRows, row.Named := by
  simp only [PendingReconcileRow.named_iff, pendingBySubmissionRef]
  cases hentries : pendingRows.mapM PendingReconcileRow.bySubmissionRef with
  | error error =>
      obtain ⟨row, hrow, hnone⟩ := exists_error_of_mapM hentries
      refine iff_of_false ?_ ?_
      · rintro ⟨pending, ⟨⟩⟩
      · intro hnamed
        obtain ⟨entry, heq⟩ := hnamed row hrow
        exact hnone entry heq
  | ok entries =>
      refine iff_of_true ⟨_, rfl⟩ fun row hrow ↦ ?_
      obtain ⟨entry, -, heq⟩ := exists_of_mapM_eq_ok hentries hrow
      exact ⟨entry, heq⟩

section Survive

variable {records : List NegRiskLiveExecutionRecord} {runSessionId : Option String}
  {entries : List LiveSubmissionEntry} {pendingRows : List PendingReconcileRow}

/-- Rows that can be read back have pending rows that can be. -/
theorem named_of_readBack {restored : List NegRiskLiveExecutionRecord}
    (h : readBack entries pendingRows = .ok restored) : ∀ row ∈ pendingRows, row.Named := by
  rw [← pendingBySubmissionRef_eq_ok_iff]
  rw [readBack, durableLiveExecutionRecords] at h
  cases hpending : pendingBySubmissionRef pendingRows with
  | error error =>
      rw [hpending] at h
      cases h
  | ok pending => exact ⟨pending, rfl⟩

theorem eq_nil_of_survive
    (hentries : records.mapM (fun record ↦ record.liveSubmissionEntry runSessionId) = .ok entries)
    (hdistinct : (records.map NegRiskLiveExecutionRecord.attemptId).Nodup)
    (h : SurviveRestart entries pendingRows records) : records = [] := by
  obtain ⟨restored, hread, hsame⟩ := h
  obtain ⟨pending, hpending⟩ := pendingBySubmissionRef_eq_ok_iff.mpr (named_of_readBack hread)
  rw [readBack_eq hentries hdistinct hpending] at hread
  cases hread
  cases records with
  | nil => rfl
  | cons record records =>
      obtain ⟨entry, -, hentry⟩ := exists_of_mapM_eq_ok hentries List.mem_cons_self
      obtain ⟨submissionRef, hreference, -⟩ := rows_of_entry hentry
      rw [List.map_cons, List.map_cons, List.map_cons, List.cons.injEq] at hsame
      exact absurd (congrArg NegRiskLiveExecutionRecord.orderRequests hsame.1)
        (orderRequests_restored_ne hreference pending)

end Survive

/-- **Which live records survive a restart.**  None do: a list is read back as it was
written only if it is empty, since a record comes back with the payload of its
submission in place of its requests. -/
theorem records_survive_iff (database : LiveDatabase) (records : List NegRiskLiveExecutionRecord)
    (runSessionId : Option String) (earlier entries : List LiveSubmissionEntry)
    (pendingRows : List PendingReconcileRow)
    (hdistinct : (records.map NegRiskLiveExecutionRecord.attemptId).Nodup)
    (haccepted : exec (persistLiveExecutionRecords database records runSessionId) earlier =
      (.ok ⟨⟩, earlier ++ entries)) :
    SurviveRestart entries pendingRows records ↔
      records = [] ∧ ∀ row ∈ pendingRows, row.Named := by
  have hentries := entries_of_accepted haccepted
  constructor
  · intro h
    obtain ⟨restored, hread, -⟩ := id h
    exact ⟨eq_nil_of_survive hentries hdistinct h, named_of_readBack hread⟩
  · rintro ⟨rfl, hnamed⟩
    obtain ⟨pending, hpending⟩ := pendingBySubmissionRef_eq_ok_iff.mpr hnamed
    exact ⟨[], readBack_eq hentries hdistinct hpending, rfl⟩

/-- A database that takes every row. -/
def acceptingDatabase : LiveDatabase := ⟨fun _ ↦ .ok (), fun _ _ ↦ .ok ()⟩

/-- A record of one submission, with one request. -/
def submittedRecord : NegRiskLiveExecutionRecord :=
  { attemptId := "attempt-1"
    planId := "negrisk-submit-family:family-a"
    snapshotId := "snapshot-7"
    executionMode := .live
    attemptNo := 1
    idempotencyKey := "idem-attempt-1"
    route := "neg-risk"
    scope := "family-a"
    matchedRuleId := some "family-a-live"
    submissionRef := some "submission-1"
    pendingRef := none
    artifacts := []
    orderRequests := ["\x7b\x7d"] }

/-- The entries of the record. -/
def submittedEntries : List LiveSubmissionEntry :=
  (exec (persistLiveExecutionRecords acceptingDatabase [submittedRecord] none) []).2

theorem accepted_submitted :
    exec (persistLiveExecutionRecords acceptingDatabase [submittedRecord] none) [] =
      (.ok ⟨⟩, [] ++ submittedEntries) := rfl

theorem records_survive_iff_submitted : ¬ SurviveRestart submittedEntries [] [submittedRecord] := by
  rw [records_survive_iff acceptingDatabase [submittedRecord] none [] submittedEntries []
    (by decide) accepted_submitted]
  simp

/-- The request of a submitted record comes back inside the payload of its submission. -/
theorem submitted_request_wrapped :
    exec (persistLiveExecutionRecords acceptingDatabase [submittedRecord] none) [] =
        (.ok ⟨⟩, [] ++ submittedEntries) ∧
      ¬ SurviveRestart submittedEntries [] [submittedRecord] := by
  refine ⟨accepted_submitted, fun h ↦ ?_⟩
  cases eq_nil_of_survive (entries_of_accepted accepted_submitted) (by decide) h

end AxiomArb.AppLive
