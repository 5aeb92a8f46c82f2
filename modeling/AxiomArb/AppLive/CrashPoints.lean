import AxiomArb.AppLive.DurableLoad

/-!
# Crash points of a start

The rows of the live records and the operator's anchor are written one by one, and the
process may stop after any of these writes.  The loader asks for a submission of every
live attempt and for an anchor that names the work, so it does not accept what every cut
leaves (`crashRestorable_iff`).
-/

namespace AxiomArb.AppLive

open Domain Library Persistence State

/-! ## Writes -/

/-- A write that is made whole or not at all. -/
inductive DurableWrite where
  | attempt (row : ExecutionAttemptRow)
  | submission (row : LiveSubmissionRecordRow)
  | progress (excluded : RuntimeProgressRow)
deriving DecidableEq, Repr

def onProgress (command : Command String (Option RuntimeProgressRow) Unit) :
    Command String DurableDatabase Unit :=
  focus DurableDatabase.progress (fun database progress ↦ { database with progress }) id command

def write : DurableWrite → Command String DurableDatabase Unit
  | .attempt row => appendExecutionAttempt row
  | .submission row => appendLiveSubmission row
  | .progress excluded => onProgress (modify fun progress ↦ some (excluded.upserted progress))

/-- One write after the other; one that fails is the last. -/
def writeAll : List DurableWrite → Command String DurableDatabase Unit
  | [] => return
  | first :: writes => do
      write first
      writeAll writes

/-! ## The functions of the source -/

def persistLiveExecutionRecordsWithRunSessionId (runSessionId : Option String) :
    List NegRiskLiveExecutionRecord → Command String DurableDatabase Unit
  | [] => return
  | record :: records =>
      match record.reference with
      | none => throw s!"missing durable live submission ref for attempt {record.attemptId}"
      | some submissionRef => do
          let attempt ← liftM (record.executionAttemptRow runSessionId)
          appendExecutionAttempt attempt
          appendLiveSubmission (record.liveSubmissionRow submissionRef)
          persistLiveExecutionRecordsWithRunSessionId runSessionId records

def persistOperatorStartupAnchor (summary : SupervisorSummary)
    (operatorTargetRevision operatorStrategyRevision : Option String) :
    Command String DurableDatabase Unit :=
  onProgress (persistOperatorTargetRevisionAnchor summary operatorTargetRevision
    operatorStrategyRevision none)

/-- A start, as far as it writes. -/
def persistStart (request : LoadRequest) (records : List NegRiskLiveExecutionRecord)
    (runSessionId : Option String) (summary : SupervisorSummary) :
    Command String DurableDatabase Unit := do
  persistLiveExecutionRecordsWithRunSessionId runSessionId records
  persistOperatorStartupAnchor summary request.operatorTargetRevision
    request.operatorStrategyRevision

/-- The write of the anchor: there is none without a revision, or for a version that the
column does not hold. -/
def anchorWrites (request : LoadRequest) (summary : SupervisorSummary) : List DurableWrite :=
  if request.operatorTargetRevision = none ∧ request.operatorStrategyRevision = none then
    []
  else if summary.lastStateVersion ≤ 9223372036854775807 then
    [.progress
      { lastJournalSeq := summary.lastJournalSeq
        lastStateVersion := summary.lastStateVersion
        lastSnapshotId := summary.publishedSnapshotId
        operatorTargetRevision := request.operatorTargetRevision
        operatorStrategyRevision := request.operatorStrategyRevision
        activeRunSessionId := none }]
  else
    []

/-- The writes of a start, in order, up to a record that has no rows. -/
def startWrites (request : LoadRequest) (runSessionId : Option String) (summary : SupervisorSummary) :
    List NegRiskLiveExecutionRecord → List DurableWrite
  | [] => anchorWrites request summary
  | record :: records =>
      match record.liveSubmissionEntry runSessionId with
      | .error _ => []
      | .ok entry =>
          .attempt entry.attempt :: .submission entry.submission ::
            startWrites request runSessionId summary records

section Writes

variable {request : LoadRequest} {database database' : DurableDatabase}
  {runSessionId : Option String} {summary : SupervisorSummary}
  {records : List NegRiskLiveExecutionRecord} {writes writes' cut : List DurableWrite}

theorem writeAll_append_eq_ok :
    exec (writeAll (writes ++ writes')) database = (.ok ⟨⟩, database') ↔
      ∃ middle, exec (writeAll writes) database = (.ok ⟨⟩, middle) ∧
        exec (writeAll writes') middle = (.ok ⟨⟩, database') := by
  induction writes generalizing database with
  | nil => simp [writeAll]
  | cons first writes ih =>
      simp only [List.cons_append, writeAll, exec_bind_eq_ok, ih]
      constructor
      · rintro ⟨⟨⟩, next, hfirst, middle, hmiddle, hrest⟩
        exact ⟨middle, ⟨⟨⟩, next, hfirst, hmiddle⟩, hrest⟩
      · rintro ⟨middle, ⟨⟨⟩, next, hfirst, hmiddle⟩, hrest⟩
        exact ⟨⟨⟩, next, hfirst, middle, hmiddle, hrest⟩

theorem exec_persistOperatorStartupAnchor (request : LoadRequest) (summary : SupervisorSummary)
    (database : DurableDatabase) :
    (exec (persistOperatorStartupAnchor summary request.operatorTargetRevision
      request.operatorStrategyRevision) database).2 =
    (exec (writeAll (anchorWrites request summary)) database).2 := by
  rw [persistOperatorStartupAnchor, persistOperatorTargetRevisionAnchor, anchorWrites]
  split
  · rfl
  · split
    · rfl
    · rfl

/-- A start leaves what its writes leave. -/
theorem exec_persistStart (request : LoadRequest) (records : List NegRiskLiveExecutionRecord)
    (runSessionId : Option String) (summary : SupervisorSummary) (database : DurableDatabase) :
    (exec (persistStart request records runSessionId summary) database).2 =
      (exec (writeAll (startWrites request runSessionId summary records)) database).2 := by
  induction records generalizing database with
  | nil => exact exec_persistOperatorStartupAnchor request summary database
  | cons record records ih =>
      simp only [persistStart, exec_bind] at ih
      cases hentry : record.liveSubmissionEntry runSessionId with
      | error error =>
          rw [NegRiskLiveExecutionRecord.liveSubmissionEntry] at hentry
          simp only [startWrites, NegRiskLiveExecutionRecord.liveSubmissionEntry, persistStart,
            persistLiveExecutionRecordsWithRunSessionId]
          cases hreference : record.reference with
          | none => rfl
          | some submissionRef =>
              cases hattempt : record.executionAttemptRow runSessionId with
              | error error => rfl
              | ok attempt => simp [hreference, hattempt, bind, Except.bind, pure, Except.pure] at hentry
      | ok entry =>
          obtain ⟨submissionRef, hreference, hattempt, hsubmission⟩ := rows_of_entry hentry
          simp only [startWrites, hentry, persistStart, persistLiveExecutionRecordsWithRunSessionId,
            hreference, hattempt, hsubmission, writeAll, write, exec_bind, exec_lift]
          rcases exec (appendExecutionAttempt entry.attempt) database with ⟨_ | _, middle⟩
          · rfl
          · simp only
            rcases exec (appendLiveSubmission (record.liveSubmissionRow submissionRef)) middle with
              ⟨_ | _, last⟩
            · rfl
            · exact ih last

/-- The writes of submissions with their attempts. -/
def entryWrites (entries : List LiveSubmissionEntry) : List DurableWrite :=
  entries.flatMap fun entry ↦ [.attempt entry.attempt, .submission entry.submission]

/-- A cut falls after the rows of some records, after the attempt of a further one, or
after the anchor. -/
theorem prefix_startWrites_cases (h : cut <+: startWrites request runSessionId summary records) :
    ∃ written rest entries, records = written ++ rest ∧
      (written.mapM fun record ↦ record.liveSubmissionEntry runSessionId) = .ok entries ∧
      (cut = entryWrites entries ∨
        (∃ record ∈ rest, ∃ entry, record.liveSubmissionEntry runSessionId = .ok entry ∧
          cut = entryWrites entries ++ [.attempt entry.attempt]) ∨
        rest = [] ∧ ∃ excluded, anchorWrites request summary = [.progress excluded] ∧
          cut = entryWrites entries ++ [.progress excluded]) := by
  induction records generalizing cut with
  | nil =>
      refine ⟨[], [], [], rfl, rfl, ?_⟩
      rw [startWrites] at h
      have hanchor : anchorWrites request summary = [] ∨
          ∃ excluded, anchorWrites request summary = [.progress excluded] := by
        unfold anchorWrites
        split
        · exact .inl rfl
        · split
          · exact .inr ⟨_, rfl⟩
          · exact .inl rfl
      rcases hanchor with hnone | ⟨excluded, hone⟩
      · rw [hnone, List.prefix_nil] at h
        exact .inl h
      · rw [hone, List.prefix_cons_iff] at h
        rcases h with rfl | ⟨tail, rfl, htail⟩
        · exact .inl rfl
        · rw [List.prefix_nil.mp htail]
          exact .inr (.inr ⟨rfl, excluded, hone, rfl⟩)
  | cons record records ih =>
      rw [startWrites] at h
      cases hentry : record.liveSubmissionEntry runSessionId with
      | error error =>
          rw [hentry, List.prefix_nil] at h
          exact ⟨[], record :: records, [], rfl, rfl, .inl h⟩
      | ok entry =>
          simp only [hentry, List.prefix_cons_iff] at h
          rcases h with rfl | ⟨_, rfl, rfl | ⟨later, rfl, hlater⟩⟩
          · exact ⟨[], record :: records, [], rfl, rfl, .inl rfl⟩
          · exact ⟨[], record :: records, [], rfl, rfl,
              .inr (.inl ⟨record, List.mem_cons_self, entry, hentry, rfl⟩)⟩
          · obtain ⟨written, rest, entries, rfl, hentries, hcases⟩ := ih hlater
            refine ⟨record :: written, rest, entry :: entries, rfl, ?_, ?_⟩
            · rw [mapM_eq_ok_iff] at hentries ⊢
              rw [List.map_cons, List.map_cons, hentry, hentries]
            · rcases hcases with rfl | ⟨other, hother, otherEntry, hotherEntry, rfl⟩ |
                  ⟨hrest, excluded, hanchor, rfl⟩
              · exact .inl rfl
              · exact .inr (.inl ⟨other, hother, otherEntry, hotherEntry, rfl⟩)
              · exact .inr (.inr ⟨hrest, excluded, hanchor, rfl⟩)

/-- The entries are of different attempts, of which the database has no submission. -/
structure FreshEntries (database : DurableDatabase) (entries : List LiveSubmissionEntry) : Prop where
  same : ∀ entry ∈ entries, entry.submission.attemptId = entry.attempt.attemptId
  distinct : (entries.map fun entry ↦ entry.attempt.attemptId).Nodup
  unused : ∀ entry ∈ entries, ∀ submission ∈ database.submissions.rows,
    submission.attemptId ≠ entry.attempt.attemptId

/-- Entries that are written are new rows, which can be read. -/
theorem adds_of_entryWrites {entries : List LiveSubmissionEntry}
    (hfresh : FreshEntries database entries)
    (hmade : exec (writeAll (entryWrites entries)) database = (.ok ⟨⟩, database')) :
    database.Adds (entries.map LiveSubmissionEntry.attempt)
        (entries.map LiveSubmissionEntry.submission) database' ∧
      ∀ entry ∈ entries, database'.Readable entry.submission := by
  induction entries generalizing database with
  | nil =>
      obtain ⟨-, rfl⟩ := Prod.mk.inj hmade
      exact ⟨.refl database, nofun⟩
  | cons entry entries ih =>
      obtain ⟨hsame, hdistinct, hunused⟩ := hfresh
      simp only [List.forall_mem_cons] at hsame hunused
      rw [List.map_cons, List.nodup_cons] at hdistinct
      simp only [entryWrites, List.flatMap_cons, List.cons_append, List.nil_append, writeAll, write,
        exec_bind_eq_ok] at hmade
      obtain ⟨⟨⟩, middle, hattempt, ⟨⟩, next, hsubmission, hrest⟩ := hmade
      obtain ⟨-, hattempts⟩ := DurableDatabase.adds_of_appendExecutionAttempt hattempt
      have hnew : entry.submission ∉ middle.submissions.rows := by
        rw [hattempts.submissions, List.append_nil]
        exact fun hmem ↦ hunused.1 entry.submission hmem hsame.1
      obtain ⟨hsubmissions, hreadable⟩ :=
        (DurableDatabase.adds_of_appendLiveSubmission hsubmission).resolve_left hnew
      have hfirst := hattempts.trans hsubmissions
      have hfreshRest : FreshEntries next entries := by
        refine ⟨hsame.2, hdistinct.2, fun other hother submission hmem ↦ ?_⟩
        rw [hfirst.submissions, List.nil_append, List.mem_append, List.mem_singleton] at hmem
        rcases hmem with hold | rfl
        · exact hunused.2 other hother submission hold
        · intro heq
          exact hdistinct.1 (List.mem_map.mpr ⟨other, hother, heq.symm.trans hsame.1⟩)
      obtain ⟨hadds, hlater⟩ := ih hfreshRest hrest
      refine ⟨by simpa using hfirst.trans hadds, ?_⟩
      rw [List.forall_mem_cons]
      exact ⟨hreadable.adds hadds, hlater⟩

end Writes

/-! ## What is read after a cut -/

section Read

variable {database database' : DurableDatabase} {runSessionId : Option String}
  {written records : List NegRiskLiveExecutionRecord} {entries : List LiveSubmissionEntry}
  {attempts : List ExecutionAttemptRow} {attempt : ExecutionAttemptRow}
  {pendingRows : List PendingReconcileRow}

/-- The rows of an attempt are those of the database and those that were added. -/
theorem lookup_groupBy_append {submissions submissions' : List LiveSubmissionRecordRow}
    {attemptId : String} :
    (BTreeMap.groupBy LiveSubmissionRecordRow.attemptId (submissions ++ submissions'))[attemptId]?.getD
        [] =
      submissions.filter (·.attemptId = attemptId) ++ submissions'.filter (·.attemptId = attemptId) := by
  rw [BTreeMap.getD_lookup_groupBy, List.filter_append]

/-- A live attempt that is read has a submission. -/
theorem exists_submission_of_read
    (hread : durableLiveExecutionRecords
      (.groupBy LiveSubmissionRecordRow.attemptId database.submissions.rows)
      (database.listAttemptsByMode .live) pendingRows = .ok records)
    (hattempt : attempt ∈ database.attempts.rows) (hlive : attempt.executionMode = .live) :
    ∃ submission ∈ database.submissions.rows, submission.attemptId = attempt.attemptId := by
  simp only [durableLiveExecutionRecords, bind_eq_ok] at hread
  obtain ⟨pending, -, hrecords⟩ := hread
  obtain ⟨record, -, hrecord⟩ := exists_of_mapM_eq_ok hrecords
    (List.mem_filter.mpr ⟨hattempt, by simpa using hlive⟩)
  rw [durableLiveExecutionRecord, BTreeMap.getD_lookup_groupBy] at hrecord
  by_contra hnone
  have hempty : database.submissions.rows.filter (·.attemptId = attempt.attemptId) = [] := by
    simpa [List.filter_eq_nil_iff] using hnone
  simp [hempty] at hrecord

/-- A shadow attempt that is read has an artifact. -/
theorem exists_artifact_of_read {shadow : List ExecutionAttemptRow × List ShadowExecutionArtifactRow}
    (hread : durableShadowExecutionState (database.listAttemptsByMode .shadow)
      (database.listArtifactsForAttempts
        ((database.listAttemptsByMode .shadow).map ExecutionAttemptRow.attemptId)) = .ok shadow)
    (hattempt : attempt ∈ database.attempts.rows) (hshadow : attempt.executionMode = .shadow) :
    ∃ artifact ∈ database.shadowArtifacts, artifact.attemptId = attempt.attemptId := by
  rw [durableShadowExecutionState] at hread
  split at hread
  · cases hread
  · split at hread
    · cases hread
    · rename_i hall
      have hmem := List.find?_eq_none.mp hall attempt
        (List.mem_filter.mpr ⟨hattempt, by simpa using hshadow⟩)
      simp only [decide_not, Bool.not_eq_true', decide_eq_false_iff_not, not_not, List.mem_map]
        at hmem
      obtain ⟨artifact, hartifact, hid⟩ := hmem
      rw [DurableDatabase.listArtifactsForAttempts, List.mem_mergeSort, List.mem_filter] at hartifact
      exact ⟨artifact, hartifact.1, hid⟩

/-- Attempts whose submissions are there are live. -/
theorem live_of_adds (hfresh : FreshEntries database entries)
    (hadds : database.Adds (entries.map LiveSubmissionEntry.attempt)
      (entries.map LiveSubmissionEntry.submission) database') :
    database'.listAttemptsByMode .live =
      database.listAttemptsByMode .live ++ entries.map LiveSubmissionEntry.attempt := by
  rw [DurableDatabase.listAttemptsByMode, hadds.attempts, List.filter_append]
  refine congrArg _ (List.filter_eq_self.mpr fun attempt hattempt ↦ ?_)
  obtain ⟨entry, hentry, rfl⟩ := List.mem_map.mp hattempt
  have hsubmission : entry.submission ∈ database'.submissions.rows := by
    rw [hadds.submissions]
    exact List.mem_append_right _ (List.mem_map_of_mem hentry)
  obtain ⟨known, hknown, hid, hlive⟩ := database'.attempted entry.submission hsubmission
  have hrow : entry.attempt ∈ database'.attempts.rows := by
    rw [hadds.attempts]
    exact List.mem_append_right _ hattempt
  have hsame : entry.attempt = known := List.inj_on_of_nodup_map database'.attempts.distinct hrow
    hknown ((hfresh.same entry hentry).symm.trans hid.symm)
  rw [hsame]
  simpa using hlive

/-- The rows of new records give the restored records, after those that were there. -/
theorem read_adds
    (hread : durableLiveExecutionRecords
      (.groupBy LiveSubmissionRecordRow.attemptId database.submissions.rows)
      (database.listAttemptsByMode .live) pendingRows = .ok records)
    (hentries : (written.mapM fun record ↦ record.liveSubmissionEntry runSessionId) = .ok entries)
    (hfresh : FreshEntries database entries)
    (hadds : database.Adds (entries.map LiveSubmissionEntry.attempt)
      (entries.map LiveSubmissionEntry.submission) database') :
    ∃ pending, durableLiveExecutionRecords
      (.groupBy LiveSubmissionRecordRow.attemptId database'.submissions.rows)
      (database'.listAttemptsByMode .live) pendingRows =
        .ok (records ++ written.map fun record ↦ record.restored pending) := by
  simp only [durableLiveExecutionRecords, bind_eq_ok] at hread ⊢
  obtain ⟨pending, hpending, hold⟩ := hread
  refine ⟨pending, pending, hpending, ?_⟩
  rw [mapM_eq_ok_iff] at hold ⊢
  rw [live_of_adds hfresh hadds, List.map_append, List.map_append, hadds.submissions, ← hold,
    List.map_map, List.map_map]
  have hdistinct := database'.attempts.distinct
  rw [hadds.attempts, List.map_append, List.nodup_append, List.map_map] at hdistinct
  refine congrArg₂ _ (List.map_congr_left fun attempt hattempt ↦ ?_)
    (map_values_eq hentries fun record _ entry hentry hrows ↦ ?_)
  · have hother : (entries.map LiveSubmissionEntry.submission).filter
        (·.attemptId = attempt.attemptId) = [] := by
      rw [List.filter_eq_nil_iff]
      intro submission hsubmission heq
      obtain ⟨entry, hentry, rfl⟩ := List.mem_map.mp hsubmission
      refine hdistinct.2.2 _ (List.mem_map_of_mem (List.mem_filter.mp hattempt).1) _
        (List.mem_map_of_mem hentry) ?_
      rw [Function.comp_apply, ← hfresh.same entry hentry]
      exact (of_decide_eq_true heq).symm
    rw [durableLiveExecutionRecord, durableLiveExecutionRecord, lookup_groupBy_append, hother,
      List.append_nil, BTreeMap.getD_lookup_groupBy]
  · refine durableLiveExecutionRecord_of_entry hrows ?_ pending
    have hid : entry.submission.attemptId = record.attemptId := by
      obtain ⟨_, -, -, hsubmission⟩ := rows_of_entry hrows
      rw [hsubmission]
      rfl
    have hnone : database.submissions.rows.filter (·.attemptId = record.attemptId) = [] := by
      rw [List.filter_eq_nil_iff]
      intro submission hsubmission heq
      exact hfresh.unused entry hentry submission hsubmission
        ((of_decide_eq_true heq).trans (hid.symm.trans (hfresh.same entry hentry)))
    have hids : ((entries.map LiveSubmissionEntry.submission).map
        LiveSubmissionRecordRow.attemptId).Nodup := by
      have hsame : entries.map (LiveSubmissionRecordRow.attemptId ∘ LiveSubmissionEntry.submission) =
          entries.map fun entry ↦ entry.attempt.attemptId :=
        List.map_congr_left hfresh.same
      rw [List.map_map, hsame]
      exact hfresh.distinct
    have hrow := BTreeMap.getD_lookup_groupBy_of_nodup hids (List.mem_map_of_mem hentry)
    rw [hid, BTreeMap.getD_lookup_groupBy] at hrow
    rw [lookup_groupBy_append, hnone, List.nil_append, hrow]

/-- The work that is read again has the new records in it. -/
theorem readsWork_adds {request : LoadRequest} {anchors : List PendingReconcileAnchor}
    {shadow : List ExecutionAttemptRow × List ShadowExecutionArtifactRow}
    (hwork : ReadsWork request database anchors records shadow)
    (hentries : (written.mapM fun record ↦ record.liveSubmissionEntry runSessionId) = .ok entries)
    (hfresh : FreshEntries database entries)
    (hadds : database.Adds (entries.map LiveSubmissionEntry.attempt)
      (entries.map LiveSubmissionEntry.submission) database')
    (hnew : ∀ entry ∈ entries, database'.Readable entry.submission) :
    ∃ pending, ReadsWork request database' anchors
      (records ++ written.map fun record ↦ record.restored pending) shadow := by
  obtain ⟨hreadable, ⟨pendingRows, hpending, hanchors, hrecords⟩, hshadow⟩ := hwork
  obtain ⟨pending, hread⟩ := read_adds hrecords hentries hfresh hadds
  have hlive := live_of_adds hfresh hadds
  refine ⟨pending, ?_, ⟨pendingRows, ?_, hanchors, hread⟩, ?_⟩
  · intro submission hsubmission
    rw [hadds.submissions, List.mem_append] at hsubmission
    rcases hsubmission with hold | hadded
    · exact (hreadable submission hold).adds hadds
    · obtain ⟨entry, hentry, rfl⟩ := List.mem_map.mp hadded
      exact hnew entry hentry
  · rw [DurableDatabase.listPendingItems, hadds.pendingItems]
    exact hpending
  · have hnone : (entries.map LiveSubmissionEntry.attempt).filter (·.executionMode = .shadow) = [] := by
      rw [List.filter_eq_nil_iff]
      intro attempt hattempt hmode
      have hmem : attempt ∈ database'.listAttemptsByMode .live := by
        rw [hlive]
        exact List.mem_append_right _ hattempt
      have hboth := (of_decide_eq_true hmode).symm.trans (of_decide_eq_true (List.mem_filter.mp hmem).2)
      cases hboth
    simp only [shadowExecutionState, DurableDatabase.listAttemptsByMode,
      DurableDatabase.listArtifactsForAttempts, hadds.attempts, hadds.shadowArtifacts,
      List.filter_append, hnone, List.append_nil] at hshadow ⊢
    exact hshadow

section Attempt

variable {request : LoadRequest} {anchors : List PendingReconcileAnchor}
  {shadow : List ExecutionAttemptRow × List ShadowExecutionArtifactRow}

/-- The attempt is of a mode whose attempts are read. -/
def LoadRequest.ReadsMode (request : LoadRequest) (mode : ExecutionMode) : Prop :=
  mode = .live ∨ request.loadShadowState = true ∧ mode = .shadow

theorem listAttempts_of_ne {mode : ExecutionMode} (hadds : database.Adds [attempt] [] database')
    (hmode : attempt.executionMode ≠ mode) :
    database'.listAttemptsByMode mode = database.listAttemptsByMode mode := by
  rw [DurableDatabase.listAttemptsByMode, hadds.attempts, List.filter_append]
  simp [hmode, DurableDatabase.listAttemptsByMode]

/-- An attempt that is not looked at does not change what is read. -/
theorem readsWork_attempt (hwork : ReadsWork request database anchors records shadow)
    (hadds : database.Adds [attempt] [] database') (hmode : ¬request.ReadsMode attempt.executionMode) :
    ReadsWork request database' anchors records shadow := by
  obtain ⟨hreadable, ⟨pendingRows, hpending, hanchors, hrecords⟩, hshadow⟩ := hwork
  rw [LoadRequest.ReadsMode, not_or, not_and] at hmode
  have hsubmissions : database'.submissions.rows = database.submissions.rows := by
    rw [hadds.submissions, List.append_nil]
  refine ⟨?_, ⟨pendingRows, ?_, hanchors, ?_⟩, ?_⟩
  · intro submission hsubmission
    rw [hsubmissions] at hsubmission
    exact (hreadable submission hsubmission).adds hadds
  · rw [DurableDatabase.listPendingItems, hadds.pendingItems]
    exact hpending
  · rw [hsubmissions, listAttempts_of_ne hadds hmode.1]
    exact hrecords
  · by_cases hload : request.loadShadowState = true
    · simp only [shadowExecutionState, if_pos hload, listAttempts_of_ne hadds (hmode.2 hload),
        DurableDatabase.listArtifactsForAttempts, hadds.shadowArtifacts] at hshadow ⊢
      exact hshadow
    · simp only [shadowExecutionState, if_neg hload] at hshadow ⊢
      exact hshadow

/-- An attempt that is looked at, and has neither a submission nor an artifact, makes the
rows unreadable. -/
theorem not_readsWork_attempt (hadds : database.Adds [attempt] [] database')
    (hnew : database.attempts.get? attempt.attemptId = none)
    (hmode : request.ReadsMode attempt.executionMode) :
    ¬ReadsWork request database' anchors records shadow := by
  rintro ⟨-, ⟨pendingRows, -, -, hrecords⟩, hshadow⟩
  have hrow : attempt ∈ database'.attempts.rows := by
    rw [hadds.attempts]
    exact List.mem_append_right _ (List.mem_singleton_self _)
  have hunknown : ∀ {known : ExecutionAttemptRow}, known ∈ database.attempts.rows →
      known.attemptId ≠ attempt.attemptId := by
    intro known hknown hid
    exact InsertionTable.get?_eq_none_iff.mp hnew (List.mem_map.mpr ⟨known, hknown, hid⟩)
  rcases hmode with hlive | ⟨hload, hmode⟩
  · obtain ⟨submission, hsubmission, hid⟩ := exists_submission_of_read hrecords hrow hlive
    rw [hadds.submissions, List.append_nil] at hsubmission
    obtain ⟨known, hknown, hattempted⟩ := database.attempted submission hsubmission
    exact hunknown hknown (hattempted.id.trans hid)
  · rw [shadowExecutionState, if_pos hload] at hshadow
    obtain ⟨artifact, hartifact, hid⟩ := exists_artifact_of_read hshadow hrow hmode
    rw [hadds.shadowArtifacts] at hartifact
    obtain ⟨known, hknown, hshadowed⟩ := database.shadowed artifact hartifact
    exact hunknown hknown (hshadowed.id.trans hid)

end Attempt

end Read

/-! ## Which crash points are restorable -/

/-- The records have different attempt ids, which the database does not know. -/
structure FreshRecords (database : DurableDatabase) (records : List NegRiskLiveExecutionRecord) :
    Prop where
  distinct : (records.map NegRiskLiveExecutionRecord.attemptId).Nodup
  unused : ∀ record ∈ records, database.attempts.get? record.attemptId = none

/-- The record is found again under its reference, with everything that its attempt row
holds. -/
def RestoredFrom (record restored : NegRiskLiveExecutionRecord) : Prop :=
  restored.submissionRef = record.reference ∧
    { restored with
      submissionRef := record.submissionRef
      pendingRef := record.pendingRef
      artifacts := record.artifacts
      orderRequests := record.orderRequests } = record

/-- Every record whose submission was written is found again. -/
def FindsWritten (cut : List DurableWrite) (records restored : List NegRiskLiveExecutionRecord) :
    Prop :=
  ∀ record ∈ records, ∀ submissionRef,
    .submission (record.liveSubmissionRow submissionRef) ∈ cut →
      ∃ found ∈ restored, RestoredFrom record found

/-- A start after the cut is accepted, and finds every record whose submission was
written. -/
def CrashRestorable (request : LoadRequest) (database : DurableDatabase) (cut : List DurableWrite)
    (records : List NegRiskLiveExecutionRecord) : Prop :=
  ∃ state,
    loadDurableLiveStartupStateForStrategy request (exec (writeAll cut) database).2 = .ok state ∧
      FindsWritten cut records state.liveExecutionRecords

/-- The last write is not of an attempt that is looked at.  Submissions without a new
anchor have an earlier one.  A new anchor for a target leads to a candidate. -/
structure CutRestorable (request : LoadRequest) (database : DurableDatabase)
    (cut : List DurableWrite) : Prop where
  whole : ∀ attempt, cut.getLast? = some (.attempt attempt) →
    ¬request.ReadsMode attempt.executionMode
  anchored : (∃ submission, .submission submission ∈ cut) →
    (∀ excluded, .progress excluded ∉ cut) →
      ∃ row, database.progress = some row ∧ request.AnchoredBy row
  kept : ∀ excluded revision, .progress excluded ∈ cut →
    request.operatorTargetRevision = some revision → ChainKept database.strategy revision

section CrashPoints

variable {request : LoadRequest} {database database' : DurableDatabase}
  {runSessionId : Option String} {summary : SupervisorSummary}
  {records written rest : List NegRiskLiveExecutionRecord} {entries : List LiveSubmissionEntry}
  {cut : List DurableWrite} {state : DurableLiveStartupState} {excluded : RuntimeProgressRow}

theorem attemptId_of_entry {record : NegRiskLiveExecutionRecord} {entry : LiveSubmissionEntry}
    (h : record.liveSubmissionEntry runSessionId = .ok entry) :
    entry.attempt.attemptId = record.attemptId ∧ entry.submission.attemptId = record.attemptId := by
  obtain ⟨submissionRef, -, hattempt, hsubmission⟩ := rows_of_entry h
  rw [NegRiskLiveExecutionRecord.executionAttemptRow] at hattempt
  split at hattempt
  · rw [hsubmission, ← Except.ok.inj hattempt]
    exact ⟨rfl, rfl⟩
  · cases hattempt

/-- Fresh records have fresh rows. -/
theorem freshEntries (hfresh : FreshRecords database (written ++ rest))
    (hentries : (written.mapM fun record ↦ record.liveSubmissionEntry runSessionId) = .ok entries) :
    FreshEntries database entries := by
  refine ⟨fun entry hentry ↦ ?_, ?_, fun entry hentry submission hsubmission hid ↦ ?_⟩
  · obtain ⟨record, -, hrows⟩ := (mem_values_iff hentries).mp hentry
    rw [(attemptId_of_entry hrows).1, (attemptId_of_entry hrows).2]
  · have hids : (entries.map fun entry ↦ entry.attempt.attemptId) =
        written.map NegRiskLiveExecutionRecord.attemptId :=
      map_values_eq hentries fun _ _ _ _ hrows ↦ (attemptId_of_entry hrows).1
    rw [hids]
    have hdistinct := hfresh.distinct
    rw [List.map_append, List.nodup_append] at hdistinct
    exact hdistinct.1
  · obtain ⟨record, hrecord, hrows⟩ := (mem_values_iff hentries).mp hentry
    obtain ⟨known, hknown, hattempted⟩ := database.attempted submission hsubmission
    refine InsertionTable.get?_eq_none_iff.mp
      (hfresh.unused record (List.mem_append_left _ hrecord)) (List.mem_map.mpr ⟨known, hknown, ?_⟩)
    rw [hattempted.id, hid, (attemptId_of_entry hrows).1]

theorem submission_mem_entryWrites {submission : LiveSubmissionRecordRow} :
    .submission submission ∈ entryWrites entries ↔
      ∃ entry ∈ entries, entry.submission = submission := by
  simp [entryWrites, eq_comm]

theorem progress_notMem_entryWrites : .progress excluded ∉ entryWrites entries := by
  simp [entryWrites]

theorem getLast?_entryWrites {attempt : ExecutionAttemptRow} :
    (entryWrites entries).getLast? ≠ some (.attempt attempt) := by
  induction entries using List.reverseRecOn with
  | nil => simp [entryWrites]
  | append_singleton entries entry => simp [entryWrites]

/-- Restored records are found, whatever else was written that is not a submission. -/
theorem findsWritten_of_entries (hfresh : FreshRecords database (written ++ rest))
    (hentries : (written.mapM fun record ↦ record.liveSubmissionEntry runSessionId) = .ok entries)
    (more : List DurableWrite) (hmore : ∀ submission, .submission submission ∉ more)
    (restored : List NegRiskLiveExecutionRecord) (pending : BTreeMap String String) :
    FindsWritten (entryWrites entries ++ more) (written ++ rest)
      (restored ++ written.map fun record ↦ record.restored pending) := by
  intro record hrecord submissionRef hmem
  rw [List.mem_append, or_iff_left (hmore _), submission_mem_entryWrites] at hmem
  obtain ⟨entry, hentry, hsubmission⟩ := hmem
  obtain ⟨source, hwritten, hrows⟩ := (mem_values_iff hentries).mp hentry
  have hid : source.attemptId = record.attemptId := by
    rw [← (attemptId_of_entry hrows).2, hsubmission]
    rfl
  obtain rfl : source = record := List.inj_on_of_nodup_map hfresh.distinct
    (List.mem_append_left _ hwritten) hrecord hid
  exact ⟨source.restored pending, List.mem_append_right _ (List.mem_map_of_mem hwritten), rfl, rfl⟩

/-- A row that is there already allows to resume what is resumed now. -/
theorem resumable_of_anchoredBy {row : RuntimeProgressRow} (hversion : 0 ≤ row.lastStateVersion)
    (hanchored : request.AnchoredBy row) (hasFollowUpWork : Bool) :
    request.Resumable (some row) hasFollowUpWork := by
  cases hasFollowUpWork with
  | true => exact resumable_true_iff.mpr ⟨row, rfl, hversion, hanchored⟩
  | false =>
      refine resumable_false_iff.mpr fun other hother ↦ ?_
      cases hother
      exact hversion

theorem Loads.resumable (hloads : Loads request database state) :
    request.Resumable database.progress (hasDurableFollowUpWork state.pendingReconcileAnchors
      state.liveExecutionRecords state.shadowExecutionAttempts) :=
  ⟨hloads.revision, _, hloads.anchor⟩

/-- With more records to resume, the row that was good enough has to name the work. -/
theorem resumable_more_iff (hloads : Loads request database state)
    (more : List NegRiskLiveExecutionRecord) :
    request.Resumable database.progress (hasDurableFollowUpWork state.pendingReconcileAnchors
        (state.liveExecutionRecords ++ more) state.shadowExecutionAttempts) ↔
      (more ≠ [] → ∃ row, database.progress = some row ∧ request.AnchoredBy row) := by
  have hversion : ∀ row, database.progress = some row → 0 ≤ row.lastStateVersion := by
    intro row hrow
    have hresumable := hloads.resumable
    revert hresumable
    cases hasDurableFollowUpWork state.pendingReconcileAnchors state.liveExecutionRecords
      state.shadowExecutionAttempts with
    | true =>
        rintro hresumable
        obtain ⟨other, hother, hpositive, -⟩ := resumable_true_iff.mp hresumable
        cases hrow.symm.trans hother
        exact hpositive
    | false => exact fun hresumable ↦ resumable_false_iff.mp hresumable row hrow
  rcases eq_or_ne more [] with rfl | hmore
  · rw [List.append_nil]
    exact iff_of_true hloads.resumable fun h ↦ absurd rfl h
  · have hwork : hasDurableFollowUpWork state.pendingReconcileAnchors
        (state.liveExecutionRecords ++ more) state.shadowExecutionAttempts = true := by
      simp [hasDurableFollowUpWork, hmore]
    rw [hwork, resumable_true_iff, imp_iff_right hmore]
    refine exists_congr fun row ↦ and_congr_right fun hrow ↦ ?_
    rw [and_iff_right (hversion row hrow)]

/-- The cut has submissions exactly if it is after some records. -/
theorem exists_submission_entryWrites_iff
    (hentries : (written.mapM fun record ↦ record.liveSubmissionEntry runSessionId) = .ok entries)
    (restored : NegRiskLiveExecutionRecord → NegRiskLiveExecutionRecord) :
    (∃ submission, .submission submission ∈ entryWrites entries) ↔ written.map restored ≠ [] := by
  have hlength := congrArg List.length (mapM_eq_ok_iff.mp hentries)
  rw [List.length_map, List.length_map] at hlength
  rw [Ne, List.map_eq_nil_iff, ← List.length_eq_zero_iff, hlength, List.length_eq_zero_iff]
  simp only [submission_mem_entryWrites]
  cases entries with
  | nil => simp
  | cons entry entries => simp

theorem cutRestorable_entryWrites_iff
    (hentries : (written.mapM fun record ↦ record.liveSubmissionEntry runSessionId) = .ok entries)
    (restored : NegRiskLiveExecutionRecord → NegRiskLiveExecutionRecord) :
    CutRestorable request database (entryWrites entries) ↔
      (written.map restored ≠ [] → ∃ row, database.progress = some row ∧ request.AnchoredBy row) := by
  rw [← exists_submission_entryWrites_iff hentries restored]
  constructor
  · exact fun hcut hsubmission ↦ hcut.anchored hsubmission fun _ ↦ progress_notMem_entryWrites
  · exact fun hanchored ↦ ⟨fun attempt hlast ↦ absurd hlast getLast?_entryWrites,
      fun hsubmission _ ↦ hanchored hsubmission,
      fun excluded _ hmem ↦ absurd hmem progress_notMem_entryWrites⟩

theorem cutRestorable_attempt_iff
    (hentries : (written.mapM fun record ↦ record.liveSubmissionEntry runSessionId) = .ok entries)
    (restored : NegRiskLiveExecutionRecord → NegRiskLiveExecutionRecord)
    {attempt : ExecutionAttemptRow} (hmode : ¬request.ReadsMode attempt.executionMode) :
    CutRestorable request database (entryWrites entries ++ [.attempt attempt]) ↔
      (written.map restored ≠ [] → ∃ row, database.progress = some row ∧ request.AnchoredBy row) := by
  rw [← exists_submission_entryWrites_iff hentries restored]
  have hprogress : ∀ excluded, DurableWrite.progress excluded ∉
      entryWrites entries ++ [.attempt attempt] := by
    simp [progress_notMem_entryWrites]
  constructor
  · rintro hcut ⟨submission, hsubmission⟩
    exact hcut.anchored ⟨submission, List.mem_append_left _ hsubmission⟩ hprogress
  · intro hanchored
    refine ⟨fun last hlast ↦ ?_, ?_, fun excluded _ hmem ↦ absurd hmem (hprogress excluded)⟩
    · obtain rfl : attempt = last := by simpa using hlast
      exact hmode
    · rintro ⟨submission, hsubmission⟩ -
      exact hanchored ⟨submission, by simpa using hsubmission⟩

theorem cutRestorable_progress_iff :
    CutRestorable request database (entryWrites entries ++ [.progress excluded]) ↔
      ∀ revision, request.operatorTargetRevision = some revision →
        ChainKept database.strategy revision := by
  constructor
  · exact fun hcut revision ↦ hcut.kept excluded revision (by simp)
  · exact fun hkept ↦ ⟨fun attempt hlast ↦ by simp at hlast, fun _ hnone ↦ absurd (by simp)
      (hnone excluded), fun _ revision _ ↦ hkept revision⟩

/-- The new anchor names the work. -/
theorem resumable_upserted (hanchor : anchorWrites request summary = [.progress excluded])
    (progress : Option RuntimeProgressRow) :
    excluded.operatorTargetRevision = request.operatorTargetRevision ∧
      ∀ hasFollowUpWork, request.Resumable (some (excluded.upserted progress)) hasFollowUpWork := by
  unfold anchorWrites at hanchor
  split at hanchor
  · cases hanchor
  · split at hanchor
    · rename_i hsome _
      cases hanchor
      refine ⟨rfl, resumable_of_anchoredBy ?_ ?_⟩
      · cases progress <;> exact Int.natCast_nonneg _
      · rw [LoadRequest.AnchoredBy]
        cases hstrategy : request.operatorStrategyRevision with
        | some revision => cases progress <;> exact .inl rfl
        | none =>
            cases htarget : request.operatorTargetRevision with
            | some revision => cases progress <;> rfl
            | none => trivial
    · cases hanchor

/-- A cut after the rows of some records. -/
theorem crashRestorable_entries (hloads : Loads request database state)
    (hfresh : FreshRecords database (written ++ rest))
    (hentries : (written.mapM fun record ↦ record.liveSubmissionEntry runSessionId) = .ok entries)
    (hmade : exec (writeAll (entryWrites entries)) database = (.ok ⟨⟩, database')) :
    CrashRestorable request database (entryWrites entries) (written ++ rest) ↔
      CutRestorable request database (entryWrites entries) := by
  obtain ⟨hadds, hnew⟩ := adds_of_entryWrites (freshEntries hfresh hentries) hmade
  obtain ⟨pending, hwork⟩ :=
    readsWork_adds hloads.work hentries (freshEntries hfresh hentries) hadds hnew
  have hfinds := findsWritten_of_entries hfresh hentries [] (by simp)
    state.liveExecutionRecords pending
  rw [List.append_nil] at hfinds
  rw [CrashRestorable, hmade, exists_load_iff hwork, hadds.progress, hadds.strategy,
    and_iff_right hfinds, and_iff_right ⟨_, hloads.candidate⟩, resumable_more_iff hloads,
    cutRestorable_entryWrites_iff hentries]

/-- A cut between the two rows of a record. -/
theorem crashRestorable_attempt (hloads : Loads request database state)
    (hfresh : FreshRecords database (written ++ rest))
    (hentries : (written.mapM fun record ↦ record.liveSubmissionEntry runSessionId) = .ok entries)
    {attempt : ExecutionAttemptRow}
    (hmade : exec (writeAll (entryWrites entries ++ [.attempt attempt])) database =
      (.ok ⟨⟩, database')) :
    CrashRestorable request database (entryWrites entries ++ [.attempt attempt]) (written ++ rest) ↔
      CutRestorable request database (entryWrites entries ++ [.attempt attempt]) := by
  obtain ⟨middle, hmiddle, hlast⟩ := writeAll_append_eq_ok.mp hmade
  obtain ⟨hadds, hnew⟩ := adds_of_entryWrites (freshEntries hfresh hentries) hmiddle
  obtain ⟨pending, hwork⟩ :=
    readsWork_adds hloads.work hentries (freshEntries hfresh hentries) hadds hnew
  simp only [writeAll, write, exec_bind_eq_ok] at hlast
  obtain ⟨⟨⟩, _, hattempt, hnil⟩ := hlast
  obtain ⟨-, rfl⟩ := Prod.mk.inj hnil
  obtain ⟨hunknown, hone⟩ := DurableDatabase.adds_of_appendExecutionAttempt hattempt
  by_cases hmode : request.ReadsMode attempt.executionMode
  · refine iff_of_false ?_ fun hcut ↦ hcut.whole attempt (by simp) hmode
    rintro ⟨restarted, hload, -⟩
    rw [hmade] at hload
    exact not_readsWork_attempt hone hunknown hmode
      (load_eq_ok_iff.mp hload).work
  · have hfinds := findsWritten_of_entries hfresh hentries [.attempt attempt] (by simp)
      state.liveExecutionRecords pending
    rw [CrashRestorable, hmade, exists_load_iff (readsWork_attempt hwork hone hmode), hone.progress,
      hone.strategy, hadds.progress, hadds.strategy, and_iff_right hfinds,
      and_iff_right ⟨_, hloads.candidate⟩, resumable_more_iff hloads,
      cutRestorable_attempt_iff hentries _ hmode]

/-- A cut after the anchor. -/
theorem crashRestorable_progress (hloads : Loads request database state)
    (hfresh : FreshRecords database (written ++ rest))
    (hentries : (written.mapM fun record ↦ record.liveSubmissionEntry runSessionId) = .ok entries)
    (hanchor : anchorWrites request summary = [.progress excluded])
    (hmade : exec (writeAll (entryWrites entries ++ [.progress excluded])) database =
      (.ok ⟨⟩, database')) :
    CrashRestorable request database (entryWrites entries ++ [.progress excluded]) (written ++ rest) ↔
      CutRestorable request database (entryWrites entries ++ [.progress excluded]) := by
  obtain ⟨middle, hmiddle, hlast⟩ := writeAll_append_eq_ok.mp hmade
  obtain ⟨hadds, hnew⟩ := adds_of_entryWrites (freshEntries hfresh hentries) hmiddle
  obtain ⟨pending, hwork⟩ :=
    readsWork_adds hloads.work hentries (freshEntries hfresh hentries) hadds hnew
  obtain ⟨-, rfl⟩ := Prod.mk.inj hlast
  have hanchored : ReadsWork request
      { middle with progress := some (excluded.upserted middle.progress) } _ _ _ :=
    ⟨hwork.submissions, hwork.pending, hwork.shadow⟩
  have hfinds := findsWritten_of_entries hfresh hentries [.progress excluded] (by simp)
    state.liveExecutionRecords pending
  obtain ⟨htarget, hresumable⟩ := resumable_upserted hanchor middle.progress
  have hstatus : (∃ status, candidateRestoreStatusOf middle.strategy
      (column RuntimeProgressRow.operatorTargetRevision
        (some (excluded.upserted middle.progress))) = .ok status) ↔
      ∀ revision, request.operatorTargetRevision = some revision →
        ChainKept database.strategy revision := by
    rw [column_target_upserted, htarget, hadds.progress, hadds.strategy]
    cases request.operatorTargetRevision with
    | some revision => simp [candidateRestoreStatusOf_isOk]
    | none => exact iff_of_true ⟨_, hloads.candidate⟩ nofun
  rw [CrashRestorable, hmade, cutRestorable_progress_iff, ← hstatus]
  refine (exists_load_iff hanchored).trans ?_
  rw [and_iff_right hfinds, and_iff_left (hresumable _)]
  rfl

/-- **Restorable crash points.**  Let a database be accepted, and records be fresh.  A
crash between the writes of a start is restorable exactly if it does not separate an
attempt that is looked at from its submission, the submissions that were written have an
anchor, and the anchor that was written leads to a candidate. -/
theorem crashRestorable_iff
    (haccepted : loadDurableLiveStartupStateForStrategy request database = .ok state)
    (hfresh : FreshRecords database records)
    (hcut : cut <+: startWrites request runSessionId summary records)
    (hmade : (exec (writeAll cut) database).1 = .ok ⟨⟩) :
    CrashRestorable request database cut records ↔ CutRestorable request database cut := by
  have hloads := load_eq_ok_iff.mp haccepted
  have hexec : exec (writeAll cut) database = (.ok ⟨⟩, (exec (writeAll cut) database).2) :=
    Prod.ext hmade rfl
  obtain ⟨written, rest, entries, rfl, hentries, hcases⟩ := prefix_startWrites_cases hcut
  rcases hcases with rfl | ⟨_, _, entry, _, rfl⟩ | ⟨_, excluded, hanchor, rfl⟩
  · exact crashRestorable_entries hloads hfresh hentries hexec
  · exact crashRestorable_attempt hloads hfresh hentries hexec
  · exact crashRestorable_progress hloads hfresh hentries hanchor hexec

end CrashPoints

/-- A start for a target revision. -/
def firstStart : LoadRequest :=
  { operatorStrategyRevision := none
    operatorTargetRevision := some "targets-rev-1"
    allowLegacyTargetSourceResume := false
    loadShadowState := false }

/-- What is written by a first start that submits one record. -/
def firstWrites : List DurableWrite :=
  startWrites firstStart none (AppSupervisor.new .live .empty).summary [submittedRecord]

/-- What a first start is loaded with. -/
def firstState : DurableLiveStartupState :=
  { lastJournalSeq := 0
    lastStateVersion := 0
    publishedSnapshotId := some "snapshot-0"
    pendingReconcileAnchors := []
    liveExecutionRecords := []
    shadowExecutionAttempts := []
    shadowExecutionArtifacts := []
    candidateRestoreStatus := .default }

theorem freshRecords_submitted : FreshRecords .empty [submittedRecord] :=
  ⟨by decide, by decide⟩

theorem crashRestorable_iff_first : CrashRestorable firstStart .empty firstWrites [submittedRecord] := by
  have haccepted : loadDurableLiveStartupStateForStrategy firstStart .empty = .ok firstState := rfl
  have hkept : ∀ revision, ChainKept StrategyDatabase.empty revision := by
    simp [ChainKept, StrategyDatabase.empty]
  obtain ⟨anchor, hlast⟩ : ∃ anchor, firstWrites.getLast? = some (.progress anchor) := ⟨_, rfl⟩
  refine (crashRestorable_iff haccepted freshRecords_submitted (List.prefix_refl _) (by decide)).mpr
    ⟨fun attempt h ↦ ?_, fun _ hnone ↦ ?_, fun _ revision _ _ ↦ hkept revision⟩
  · cases hlast.symm.trans h
  · exact absurd (List.mem_of_getLast? hlast) (hnone anchor)

/-- A first start that stops between an attempt and its submission cannot be repeated. -/
theorem first_attempt_not_restorable :
    loadDurableLiveStartupStateForStrategy firstStart .empty = .ok firstState ∧
      FreshRecords .empty [submittedRecord] ∧
      firstWrites.take 1 <+: firstWrites ∧
      (exec (writeAll (firstWrites.take 1)) .empty).1 = .ok ⟨⟩ ∧
      ¬CrashRestorable firstStart .empty (firstWrites.take 1) [submittedRecord] := by
  refine ⟨rfl, freshRecords_submitted, List.take_prefix 1 _, by decide, ?_⟩
  rintro ⟨state, hload, -⟩
  cases hload

end AxiomArb.AppLive
