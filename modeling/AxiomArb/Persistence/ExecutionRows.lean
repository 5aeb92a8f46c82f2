import AxiomArb.AppLive.PendingRefs
import AxiomArb.Library.InsertionTable
import AxiomArb.Persistence.RuntimeProgress
import AxiomArb.Persistence.StrategyControl

/-!
# The rows of executions

Attempts, submissions and pending work are rows that a restart reads again.  A submission
is checked against its attempt when it is written and whenever it is read, and the schema
keeps every submission with a live attempt.

## Honest boundary

* Rows are listed as they were inserted: no two are inserted at the same instant.
* Of several malformed rows the first that was inserted is reported.
* A malformed payload is reported with its string fields only.
* The payload of a submission holds the five fields that are written to it.
-/

namespace AxiomArb.Persistence

open AppLive Domain Library

/-! ## Rows and their checks -/

/-- A row of the pending work with all its columns. -/
structure PendingReconcileTableRow extends PendingReconcileItem where
  scopeKind : String

def invalidValue (kind value : String) : String := s!"invalid {kind} value: {value}"

/-- A string of a payload, which must be there and not be blank. -/
def requiredAnchorString (payloadText field : String) (value : Option String) :
    Except String String :=
  match value.filter fun value ↦ !(trim value).isEmpty with
  | some value => .ok value
  | none => .error (invalidValue field payloadText)

def validatePendingReconcileRow (row : PendingReconcileTableRow) : Except String Unit :=
  let payloadText := jsonObject (row.payload.toList.map fun field ↦ (field.1, jsonString field.2))
  if row.scopeKind ≠ "family" then
    .error (invalidValue "pending_reconcile_items.scope_kind" row.scopeKind)
  else do
    let _ ← requiredAnchorString payloadText "pending_reconcile_items.payload.submission_ref"
      row.payload["submission_ref"]?
    let familyId ← requiredAnchorString payloadText "pending_reconcile_items.payload.family_id"
      row.payload["family_id"]?
    let route ← requiredAnchorString payloadText "pending_reconcile_items.payload.route"
      row.payload["route"]?
    let reason ← requiredAnchorString payloadText "pending_reconcile_items.payload.reason"
      row.payload["reason"]?
    if row.scopeId ≠ familyId then
      .error (invalidValue "pending_reconcile_items.scope_id" row.scopeId)
    else if row.reason ≠ reason then
      .error (invalidValue "pending_reconcile_items.reason" row.reason)
    else if route.isEmpty then
      .error (invalidValue "pending_reconcile_items.payload.route" payloadText)
    else
      .ok ()

def LIVE_SUBMISSION_ALLOWED_STATES : List String := ["submitted", "pending_reconcile"]

def validateLiveSubmissionRecordRow (row : LiveSubmissionRecordRow) : Except String Unit := do
  let payloadText := row.payload.text
  let submissionRef ← requiredAnchorString payloadText
    "live_submission_records.payload.submission_ref" (some row.payload.submissionRef)
  let familyId ← requiredAnchorString payloadText
    "live_submission_records.payload.family_id" (some row.payload.familyId)
  let route ← requiredAnchorString payloadText
    "live_submission_records.payload.route" (some row.payload.route)
  let reason ← requiredAnchorString payloadText
    "live_submission_records.payload.reason" (some row.payload.reason)
  if submissionRef ≠ row.submissionRef then
    .error (invalidValue "live_submission_records.payload.submission_ref" submissionRef)
  else if familyId ≠ row.scope then
    .error (invalidValue "live_submission_records.scope" row.scope)
  else if route ≠ row.route then
    .error (invalidValue "live_submission_records.route" row.route)
  else if (trim row.provider).isEmpty then
    .error (invalidValue "live_submission_records.provider" row.provider)
  else if reason.isEmpty then
    .error (invalidValue "live_submission_records.payload.reason" payloadText)
  else if row.state ∉ LIVE_SUBMISSION_ALLOWED_STATES then
    .error (invalidValue "live_submission_records.state" row.state)
  else
    .ok ()

/-- The scope of a family, which an attempt may name with a namespace. -/
def withoutFamilyNamespace (scope : String) : String :=
  if "family:".toList.isPrefixOf scope.toList then
    String.ofList (scope.toList.drop "family:".toList.length)
  else
    scope

def validateLiveSubmissionRecordAgainstAttempt (row : LiveSubmissionRecordRow)
    (attemptRoute attemptScope : String) : Except String Unit :=
  let expectedScope :=
    if attemptRoute = "neg-risk" then withoutFamilyNamespace attemptScope else attemptScope
  if row.route ≠ attemptRoute then
    .error (invalidValue "live_submission_records.route" row.route)
  else if row.scope ≠ expectedScope then
    .error (invalidValue "live_submission_records.scope" row.scope)
  else
    .ok ()

/-- A submission as it is read, with the attempt it is joined with. -/
def mapLiveSubmissionRecordRowWithAttempt (row : LiveSubmissionRecordRow)
    (attempt : ExecutionAttemptRow) : Except String LiveSubmissionRecordRow := do
  validateLiveSubmissionRecordRow row
  validateLiveSubmissionRecordAgainstAttempt row attempt.route attempt.scope
  return row

/-! ## The database -/

/-- The attempt has the mode and the id. -/
structure IsAttempt (mode : ExecutionMode) (attempt : ExecutionAttemptRow) (attemptId : String) :
    Prop where
  id : attempt.attemptId = attemptId
  mode : attempt.executionMode = mode

/-- The tables that a restart reads. -/
structure DurableDatabase where
  progress : Option RuntimeProgressRow
  attempts : InsertionTable ExecutionAttemptRow.attemptId
  submissions : InsertionTable LiveSubmissionRecordRow.submissionRef
  pendingItems : InsertionTable fun row : PendingReconcileTableRow ↦ row.pendingRef
  shadowArtifacts : List ShadowExecutionArtifactRow
  strategy : StrategyDatabase
  /-- The foreign key of a submission, and the trigger that asks for a live attempt. -/
  attempted : ∀ submission ∈ submissions.rows,
    ∃ attempt ∈ attempts.rows, IsAttempt .live attempt submission.attemptId
  /-- The same of an artifact, which belongs to a shadow attempt. -/
  shadowed : ∀ artifact ∈ shadowArtifacts,
    ∃ attempt ∈ attempts.rows, IsAttempt .shadow attempt artifact.attemptId

namespace DurableDatabase

def empty : DurableDatabase :=
  { progress := none
    attempts := .empty
    submissions := .empty
    pendingItems := .empty
    shadowArtifacts := []
    strategy := .empty
    attempted := nofun
    shadowed := nofun }

variable (database : DurableDatabase)

/-! ## Writing -/

def insertAttempt? (row : ExecutionAttemptRow) : Option DurableDatabase :=
  match h : database.attempts.insert? row with
  | none => none
  | some attempts =>
      some { database with
        attempts
        attempted := by
          intro submission hsubmission
          obtain ⟨attempt, hattempt, hlive⟩ := database.attempted submission hsubmission
          rw [(InsertionTable.insert?_eq_some_iff.mp h).2]
          exact ⟨attempt, List.mem_append_left _ hattempt, hlive⟩
        shadowed := by
          intro artifact hartifact
          obtain ⟨attempt, hattempt, hshadow⟩ := database.shadowed artifact hartifact
          rw [(InsertionTable.insert?_eq_some_iff.mp h).2]
          exact ⟨attempt, List.mem_append_left _ hattempt, hshadow⟩ }

/-- The attempt with the mode and the id. -/
def attemptIn? (mode : ExecutionMode) (attemptId : String) :
    Option { attempt // attempt ∈ database.attempts.rows ∧ IsAttempt mode attempt attemptId } :=
  match h : database.attempts.get? attemptId with
  | none => none
  | some attempt =>
      if hmode : attempt.executionMode = mode then
        have hrow := InsertionTable.get?_eq_some_iff.mp h
        some ⟨attempt, hrow.1, hrow.2, hmode⟩
      else
        none

def insertSubmission? (row : LiveSubmissionRecordRow)
    (attempt : { attempt // attempt ∈ database.attempts.rows ∧ IsAttempt .live attempt row.attemptId }) :
    Option DurableDatabase :=
  match h : database.submissions.insert? row with
  | none => none
  | some submissions =>
      some { database with
        submissions
        attempted := by
          intro submission hsubmission
          rw [(InsertionTable.insert?_eq_some_iff.mp h).2, List.mem_append, List.mem_singleton]
            at hsubmission
          rcases hsubmission with hold | rfl
          · exact database.attempted submission hold
          · exact ⟨attempt.1, attempt.2⟩ }

end DurableDatabase

/-- `ExecutionAttemptRepo::append`. -/
def appendExecutionAttempt (row : ExecutionAttemptRow) : Command String DurableDatabase Unit := do
  let database ← get
  match database.insertAttempt? row with
  | none => throw s!"execution attempt {row.attemptId} already exists"
  | some database => set database

/-- `LiveSubmissionRepo::append`.  A row that is there already must be the same. -/
def appendLiveSubmission (row : LiveSubmissionRecordRow) : Command String DurableDatabase Unit := do
  let requiresLiveAttempt :=
    s!"live submission record {row.submissionRef} requires a live execution attempt for attempt_id {row.attemptId}"
  liftM (validateLiveSubmissionRecordRow row)
  let database ← get
  match database.attemptIn? .live row.attemptId with
  | none => throw requiresLiveAttempt
  | some attempt => do
      liftM (validateLiveSubmissionRecordAgainstAttempt row attempt.1.route attempt.1.scope)
      match database.insertSubmission? row attempt with
      | some database => set database
      | none =>
          match database.submissions.get? row.submissionRef with
          | none => throw requiresLiveAttempt
          | some existing =>
              match database.attempts.get? existing.attemptId with
              | none => throw requiresLiveAttempt
              | some attempt => do
                  let existing ← liftM (mapLiveSubmissionRecordRowWithAttempt existing attempt)
                  if existing = row then
                    return
                  else
                    throw s!"live submission record {row.submissionRef} already exists with a different payload"

namespace DurableDatabase

variable (database : DurableDatabase)

/-! ## Reading -/

/-- `ExecutionAttemptRepo::list_live_attempts` and `list_shadow_attempts`. -/
def listAttemptsByMode (mode : ExecutionMode) : List ExecutionAttemptRow :=
  database.attempts.rows.filter (·.executionMode = mode)

/-- A submission and the attempt it is joined with. -/
def joinAttempt (submission : LiveSubmissionRecordRow) :
    Option (LiveSubmissionRecordRow × ExecutionAttemptRow) :=
  (database.attempts.get? submission.attemptId).map fun attempt ↦ (submission, attempt)

/-- `LiveSubmissionRepo::list_for_attempts`. -/
def listSubmissionsForAttempts (attemptIds : List String) :
    Except String (BTreeMap String (List LiveSubmissionRecordRow)) := do
  let joined := (database.submissions.rows.filter (·.attemptId ∈ attemptIds)).filterMap
    database.joinAttempt
  let submissions ← joined.mapM fun row ↦ mapLiveSubmissionRecordRowWithAttempt row.1 row.2
  return .groupBy LiveSubmissionRecordRow.attemptId submissions

/-- `PendingReconcileRepo::list_all`. -/
def listPendingItems : Except String (List PendingReconcileTableRow) :=
  database.pendingItems.rows.mapM fun row ↦ do
    validatePendingReconcileRow row
    return row

/-- `ShadowArtifactRepo::list_for_attempts`. -/
def listArtifactsForAttempts (attemptIds : List String) : List ShadowExecutionArtifactRow :=
  (database.shadowArtifacts.filter (·.attemptId ∈ attemptIds)).mergeSort fun artifact artifact' ↦
    ((compare artifact.attemptId artifact'.attemptId).then
      (compare artifact.stream artifact'.stream)).isLE

/-! ## What can be read -/

/-- The submission is well formed and agrees with its attempt. -/
def Readable (submission : LiveSubmissionRecordRow) : Prop :=
  ∃ attempt ∈ database.attempts.rows, attempt.attemptId = submission.attemptId ∧
    mapLiveSubmissionRecordRowWithAttempt submission attempt = .ok submission

variable {database}

theorem eq_of_mapLiveSubmissionRecordRow {row row' : LiveSubmissionRecordRow}
    {attempt : ExecutionAttemptRow} (h : mapLiveSubmissionRecordRowWithAttempt row attempt = .ok row') :
    row' = row := by
  simp only [mapLiveSubmissionRecordRowWithAttempt, bind_eq_ok] at h
  obtain ⟨_, -, _, -, hrow⟩ := h
  cases hrow
  rfl

theorem joinAttempt_eq_some_iff {submission : LiveSubmissionRecordRow} {attempt : ExecutionAttemptRow} :
    database.joinAttempt submission = some (submission, attempt) ↔
      attempt ∈ database.attempts.rows ∧ attempt.attemptId = submission.attemptId := by
  simp [joinAttempt, InsertionTable.get?_eq_some_iff]

/-- Submissions whose attempts are asked for are all read, if each can be. -/
theorem mapM_joined_eq_ok_iff {attemptIds : List String}
    {submissions rows : List LiveSubmissionRecordRow}
    (h : ∀ submission ∈ submissions, submission.attemptId ∈ attemptIds ∧
      ∃ attempt ∈ database.attempts.rows, attempt.attemptId = submission.attemptId) :
    (((submissions.filter (·.attemptId ∈ attemptIds)).filterMap database.joinAttempt).mapM fun row ↦
        mapLiveSubmissionRecordRowWithAttempt row.1 row.2) = .ok rows ↔
      (∀ submission ∈ submissions, database.Readable submission) ∧ rows = submissions := by
  induction submissions generalizing rows with
  | nil => simp [pure, Except.pure, eq_comm]
  | cons submission submissions ih =>
      obtain ⟨⟨hasked, attempt, hattempt, hid⟩, hrest⟩ := List.forall_mem_cons.mp h
      have hjoin := joinAttempt_eq_some_iff.mpr ⟨hattempt, hid⟩
      have hreadable : database.Readable submission ↔
          mapLiveSubmissionRecordRowWithAttempt submission attempt = .ok submission := by
        constructor
        · rintro ⟨other, hother, hsame, hread⟩
          rwa [List.inj_on_of_nodup_map database.attempts.distinct hattempt hother
            (hid.trans hsame.symm)]
        · exact fun hread ↦ ⟨attempt, hattempt, hid, hread⟩
      rw [List.filter_cons_of_pos (by simpa using hasked), List.filterMap_cons_some hjoin,
        List.mapM_cons]
      simp only [bind_eq_ok, ih hrest, List.forall_mem_cons, hreadable]
      constructor
      · rintro ⟨row, hrow, _, ⟨hall, rfl⟩, hrows⟩
        obtain rfl := eq_of_mapLiveSubmissionRecordRow hrow
        cases hrows
        exact ⟨⟨hrow, hall⟩, rfl⟩
      · rintro ⟨⟨hrow, hall⟩, rfl⟩
        exact ⟨submission, hrow, submissions, ⟨hall, rfl⟩, rfl⟩

/-- The submissions of the live attempts are all there are. -/
theorem listSubmissions_eq_ok_iff {submissionsByAttempt : BTreeMap String (List LiveSubmissionRecordRow)} :
    database.listSubmissionsForAttempts
        ((database.listAttemptsByMode .live).map ExecutionAttemptRow.attemptId) =
      .ok submissionsByAttempt ↔
    (∀ submission ∈ database.submissions.rows, database.Readable submission) ∧
      submissionsByAttempt =
        .groupBy LiveSubmissionRecordRow.attemptId database.submissions.rows := by
  have hattempted : ∀ submission ∈ database.submissions.rows,
      submission.attemptId ∈
        (database.listAttemptsByMode .live).map ExecutionAttemptRow.attemptId ∧
      ∃ attempt ∈ database.attempts.rows, attempt.attemptId = submission.attemptId := by
    intro submission hsubmission
    obtain ⟨attempt, hattempt, hid, hlive⟩ := database.attempted submission hsubmission
    refine ⟨?_, attempt, hattempt, hid⟩
    rw [← hid]
    exact List.mem_map_of_mem (List.mem_filter.mpr ⟨hattempt, by simpa using hlive⟩)
  simp only [listSubmissionsForAttempts, bind_eq_ok, mapM_joined_eq_ok_iff hattempted]
  constructor
  · rintro ⟨_, ⟨hreadable, rfl⟩, hmap⟩
    cases hmap
    exact ⟨hreadable, rfl⟩
  · rintro ⟨hreadable, rfl⟩
    exact ⟨_, ⟨hreadable, rfl⟩, rfl⟩

/-! ## What an append writes -/

/-- The database with some attempts and submissions more. -/
structure Adds (database : DurableDatabase) (attempts : List ExecutionAttemptRow)
    (submissions : List LiveSubmissionRecordRow) (database' : DurableDatabase) : Prop where
  progress : database'.progress = database.progress
  attempts : database'.attempts.rows = database.attempts.rows ++ attempts
  submissions : database'.submissions.rows = database.submissions.rows ++ submissions
  pendingItems : database'.pendingItems = database.pendingItems
  shadowArtifacts : database'.shadowArtifacts = database.shadowArtifacts
  strategy : database'.strategy = database.strategy

variable {database' database'' : DurableDatabase} {row : ExecutionAttemptRow}
  {submission : LiveSubmissionRecordRow} {attempts attempts' : List ExecutionAttemptRow}
  {submissions submissions' : List LiveSubmissionRecordRow}

theorem Adds.refl (database : DurableDatabase) : Adds database [] [] database :=
  ⟨rfl, by simp, by simp, rfl, rfl, rfl⟩

theorem Adds.trans (h : Adds database attempts submissions database')
    (h' : Adds database' attempts' submissions' database'') :
    Adds database (attempts ++ attempts') (submissions ++ submissions') database'' where
  progress := h'.progress.trans h.progress
  attempts := by rw [h'.attempts, h.attempts, List.append_assoc]
  submissions := by rw [h'.submissions, h.submissions, List.append_assoc]
  pendingItems := h'.pendingItems.trans h.pendingItems
  shadowArtifacts := h'.shadowArtifacts.trans h.shadowArtifacts
  strategy := h'.strategy.trans h.strategy

/-- What can be read can be read with more rows there. -/
theorem Readable.adds (hreadable : database.Readable submission)
    (h : Adds database attempts submissions database') : database'.Readable submission := by
  obtain ⟨attempt, hattempt, hread⟩ := hreadable
  refine ⟨attempt, ?_, hread⟩
  rw [h.attempts]
  exact List.mem_append_left _ hattempt

theorem insertAttempt?_eq_some (h : database.insertAttempt? row = some database') :
    database.attempts.get? row.attemptId = none ∧ Adds database [row] [] database' := by
  unfold insertAttempt? at h
  split at h
  · cases h
  · rename_i hinsert
    obtain ⟨hnew, hrows⟩ := InsertionTable.insert?_eq_some_iff.mp hinsert
    cases h
    exact ⟨hnew, rfl, hrows, by simp, rfl, rfl, rfl⟩

/-- An attempt with a new id is taken in. -/
theorem exists_insertAttempt?_eq_some (h : database.attempts.get? row.attemptId = none) :
    ∃ database', database.insertAttempt? row = some database' ∧ Adds database [row] [] database' := by
  obtain ⟨attempts, hinsert⟩ := InsertionTable.exists_insert?_eq_some h
  cases hinserted : database.insertAttempt? row with
  | some database' => exact ⟨database', rfl, (insertAttempt?_eq_some hinserted).2⟩
  | none =>
      unfold insertAttempt? at hinserted
      split at hinserted
      · rename_i hnone
        cases hnone.symm.trans hinsert
      · cases hinserted

theorem exists_attemptIn?_eq_some {mode : ExecutionMode} {attempt : ExecutionAttemptRow}
    {attemptId : String} (hmem : attempt ∈ database.attempts.rows)
    (hattempt : IsAttempt mode attempt attemptId) :
    ∃ found, database.attemptIn? mode attemptId = some found ∧ found.1 = attempt := by
  have hget := InsertionTable.get?_eq_some_iff.mpr ⟨hmem, hattempt.id⟩
  unfold attemptIn?
  split
  · rename_i hnone
    cases hnone.symm.trans hget
  · rename_i found hfound
    obtain rfl := Option.some.inj (hfound.symm.trans hget)
    exact ⟨_, dif_pos hattempt.mode, rfl⟩

theorem insertSubmission?_eq_some
    {attempt : { attempt // attempt ∈ database.attempts.rows ∧ IsAttempt .live attempt submission.attemptId }}
    (h : database.insertSubmission? submission attempt = some database') :
    Adds database [] [submission] database' := by
  unfold insertSubmission? at h
  split at h
  · cases h
  · rename_i hinsert
    cases h
    exact ⟨rfl, by simp, (InsertionTable.insert?_eq_some_iff.mp hinsert).2, rfl, rfl, rfl⟩

/-- A submission with a new reference is taken in. -/
theorem exists_insertSubmission?_eq_some
    (h : database.submissions.get? submission.submissionRef = none)
    (attempt : { attempt // attempt ∈ database.attempts.rows ∧ IsAttempt .live attempt submission.attemptId }) :
    ∃ database', database.insertSubmission? submission attempt = some database' := by
  obtain ⟨submissions, hinsert⟩ := InsertionTable.exists_insert?_eq_some h
  unfold insertSubmission?
  split
  · rename_i hnone
    cases hnone.symm.trans hinsert
  · exact ⟨_, rfl⟩

/-- A submission with a new reference is appended if it passes both checks. -/
theorem appendLiveSubmission_eq_ok_iff
    {attempt : { attempt // attempt ∈ database.attempts.rows ∧ IsAttempt .live attempt submission.attemptId }}
    (hattempt : database.attemptIn? .live submission.attemptId = some attempt)
    (hnew : database.submissions.get? submission.submissionRef = none) :
    (exec (appendLiveSubmission submission) database).1 = .ok ⟨⟩ ↔
      validateLiveSubmissionRecordRow submission = .ok () ∧
        validateLiveSubmissionRecordAgainstAttempt submission attempt.1.route attempt.1.scope = .ok () := by
  obtain ⟨inserted, hinsert⟩ := exists_insertSubmission?_eq_some hnew attempt
  simp only [appendLiveSubmission, exec_bind, exec_lift]
  cases validateLiveSubmissionRecordRow submission with
  | error error => simp
  | ok _ =>
      simp only [exec_get, hattempt, exec_bind, exec_lift]
      cases validateLiveSubmissionRecordAgainstAttempt submission attempt.1.route attempt.1.scope with
      | error error => simp
      | ok _ => simp [hinsert]

theorem adds_of_appendExecutionAttempt
    (h : exec (appendExecutionAttempt row) database = (.ok ⟨⟩, database')) :
    database.attempts.get? row.attemptId = none ∧ Adds database [row] [] database' := by
  simp only [appendExecutionAttempt, exec_bind, exec_get] at h
  cases hinsert : database.insertAttempt? row with
  | none => simp [hinsert] at h
  | some inserted =>
      rw [hinsert, exec_set] at h
      obtain ⟨-, rfl⟩ := Prod.mk.inj h
      exact insertAttempt?_eq_some hinsert

/-- A submission that is appended can be read; it is a new row or was there before. -/
theorem adds_of_appendLiveSubmission
    (h : exec (appendLiveSubmission submission) database = (.ok ⟨⟩, database')) :
    submission ∈ database.submissions.rows ∨
      Adds database [] [submission] database' ∧ database'.Readable submission := by
  simp only [appendLiveSubmission, exec_lift_bind_eq_ok] at h
  obtain ⟨_, hvalid, h⟩ := h
  rw [exec_bind, exec_get] at h
  cases hattempt : database.attemptIn? .live submission.attemptId with
  | none => simp [hattempt] at h
  | some attempt =>
      simp only [hattempt, exec_lift_bind_eq_ok] at h
      obtain ⟨_, hagrees, h⟩ := h
      cases hinsert : database.insertSubmission? submission attempt with
      | some inserted =>
          rw [hinsert, exec_set] at h
          obtain ⟨-, rfl⟩ := Prod.mk.inj h
          have hadds := insertSubmission?_eq_some hinsert
          refine .inr ⟨hadds, attempt.1, ?_, attempt.2.2.id, ?_⟩
          · rw [hadds.attempts, List.append_nil]
            exact attempt.2.1
          · simp only [mapLiveSubmissionRecordRowWithAttempt, bind_eq_ok]
            exact ⟨_, hvalid, _, hagrees, rfl⟩
      | none =>
          left
          rw [hinsert] at h
          cases hexisting : database.submissions.get? submission.submissionRef with
          | none => simp [hexisting] at h
          | some existing =>
              simp only [hexisting] at h
              cases hjoined : database.attempts.get? existing.attemptId with
              | none => simp [hjoined] at h
              | some joined =>
                  simp only [hjoined, exec_lift_bind_eq_ok] at h
                  obtain ⟨read, hread, h⟩ := h
                  obtain rfl := eq_of_mapLiveSubmissionRecordRow hread
                  by_cases hsame : read = submission
                  · rw [← hsame]
                    exact (InsertionTable.get?_eq_some_iff.mp hexisting).1
                  · simp [hsame] at h

end DurableDatabase

end AxiomArb.Persistence
