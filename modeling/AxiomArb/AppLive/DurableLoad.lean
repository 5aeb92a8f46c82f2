import AxiomArb.AppLive.DurableStartup
import AxiomArb.AppLive.OperatorRevision
import AxiomArb.Persistence.ExecutionRows

/-!
# Loading the durable store

The loader reads the progress row, the attempts and their submissions, the pending work
and, for a smoke test, the shadow records, and checks them against each other.
`load_eq_ok_iff` says which databases it accepts and what it makes of them.
-/

namespace AxiomArb.AppLive

open Domain Library Persistence State

/-! ## The loader -/

/-- Each artifact has its attempt, and each attempt an artifact. -/
def durableShadowExecutionState (attempts : List ExecutionAttemptRow)
    (artifacts : List ShadowExecutionArtifactRow) :
    Except String (List ExecutionAttemptRow × List ShadowExecutionArtifactRow) :=
  match artifacts.find? fun artifact ↦ artifact.attemptId ∉ attempts.map ExecutionAttemptRow.attemptId with
  | some artifact =>
      .error s!"shadow artifact {artifact.stream} is missing durable shadow attempt {artifact.attemptId}"
  | none =>
      match attempts.find? fun attempt ↦
        attempt.attemptId ∉ artifacts.map ShadowExecutionArtifactRow.attemptId with
      | some attempt => .error s!"missing durable shadow artifact for attempt {attempt.attemptId}"
      | none => .ok (attempts, artifacts)

def shadowExecutionState (database : DurableDatabase) (loadShadowState : Bool) :
    Except String (List ExecutionAttemptRow × List ShadowExecutionArtifactRow) :=
  if loadShadowState then
    let attempts := database.listAttemptsByMode .shadow
    durableShadowExecutionState attempts
      (database.listArtifactsForAttempts (attempts.map ExecutionAttemptRow.attemptId))
  else
    .ok ([], [])

/-- The candidate that the target revision of the progress row was adopted from. -/
def candidateRestoreStatusOf (database : StrategyDatabase)
    (progressOperatorTargetRevision : Option String) : Except String CandidateRestoreStatus :=
  match progressOperatorTargetRevision with
  | none => .ok .default
  | some revision =>
      match database.getByOperatorTargetRevision revision with
      | .error error => .error error.toString
      | .ok none => .ok .default
      | .ok (some provenance) =>
          match database.candidateTargetSets.get? provenance.candidateRevision with
          | none => .error s!"candidate adoption provenance {revision} could not load candidate {
              provenance.candidateRevision}"
          | some candidate =>
              match database.adoptableTargetRevisions.get? provenance.adoptableRevision with
              | none => .error s!"candidate adoption provenance {revision} could not load adoptable {
                  provenance.adoptableRevision}"
              | some adoptable =>
                  if adoptable.candidateRevision ≠ provenance.candidateRevision ∨
                      adoptable.renderedOperatorTargetRevision ≠ revision then
                    .error s!"candidate adoption provenance chain mismatch for operator target revision {revision}"
                  else
                    .ok
                      { latestCandidateRevision := some candidate.candidateRevision
                        latestAdoptableRevision := some adoptable.adoptableRevision
                        latestCandidateOperatorTargetRevision := some revision
                        adoptionProvenanceResolved := true }

/-- The position of the journal, the state version and the snapshot to start from. -/
def durableProgressAnchor (progress : Option RuntimeProgressRow) (hasFollowUpWork : Bool) :
    Except String (Int × Nat × Option String) :=
  match progress with
  | some row =>
      if row.lastStateVersion < 0 then
        .error s!"durable runtime progress state version {row.lastStateVersion} is negative"
      else
        .ok (row.lastJournalSeq, row.lastStateVersion.toNat, row.lastSnapshotId)
  | none =>
      if hasFollowUpWork then
        .error "durable runtime progress is required when live follow-up work exists"
      else
        .ok (0, 0, some "snapshot-0")

/-- Whether there is work that a restart has to take up. -/
def hasDurableFollowUpWork (anchors : List PendingReconcileAnchor)
    (records : List NegRiskLiveExecutionRecord) (shadowAttempts : List ExecutionAttemptRow) : Bool :=
  !anchors.isEmpty || !records.isEmpty || !shadowAttempts.isEmpty

/-- What a start asks of the loader. -/
structure LoadRequest where
  operatorStrategyRevision : Option String
  operatorTargetRevision : Option String
  allowLegacyTargetSourceResume : Bool
  loadShadowState : Bool

def loadDurableLiveStartupStateForStrategy (request : LoadRequest) (database : DurableDatabase) :
    Except String DurableLiveStartupState := do
  let liveAttempts := database.listAttemptsByMode .live
  let submissionsByAttempt ← database.listSubmissionsForAttempts
    (liveAttempts.map ExecutionAttemptRow.attemptId)
  let pendingRows ← database.listPendingItems
  let pendingReconcileAnchors ← pendingRows.mapM fun row ↦
    pendingReconcileAnchorFromRow row.toPendingReconcileItem
  let liveExecutionRecords ← durableLiveExecutionRecords submissionsByAttempt liveAttempts
    (pendingRows.map fun row ↦ row.toPendingReconcileRow)
  let shadow ← shadowExecutionState database request.loadShadowState
  let hasWork := hasDurableFollowUpWork pendingReconcileAnchors liveExecutionRecords shadow.1
  let candidateRestoreStatus ← candidateRestoreStatusOf database.strategy
    (database.progress.bind RuntimeProgressRow.operatorTargetRevision)
  validateOperatorRevision database.progress request.operatorStrategyRevision
    request.operatorTargetRevision request.allowLegacyTargetSourceResume hasWork
  let (lastJournalSeq, lastStateVersion, publishedSnapshotId) ←
    durableProgressAnchor database.progress hasWork
  return {
    lastJournalSeq
    lastStateVersion
    publishedSnapshotId
    pendingReconcileAnchors
    liveExecutionRecords
    shadowExecutionAttempts := shadow.1
    shadowExecutionArtifacts := shadow.2
    candidateRestoreStatus }

/-! ## What is accepted -/

/-- What the loader makes of the rows of executions. -/
structure ReadsWork (request : LoadRequest) (database : DurableDatabase)
    (anchors : List PendingReconcileAnchor) (records : List NegRiskLiveExecutionRecord)
    (shadow : List ExecutionAttemptRow × List ShadowExecutionArtifactRow) : Prop where
  submissions : ∀ submission ∈ database.submissions.rows, database.Readable submission
  pending : ∃ pendingRows, database.listPendingItems = .ok pendingRows ∧
    (pendingRows.mapM fun row ↦ pendingReconcileAnchorFromRow row.toPendingReconcileItem) =
      .ok anchors ∧
    durableLiveExecutionRecords
      (.groupBy LiveSubmissionRecordRow.attemptId database.submissions.rows)
      (database.listAttemptsByMode .live)
      (pendingRows.map fun row ↦ row.toPendingReconcileRow) = .ok records
  shadow : shadowExecutionState database request.loadShadowState = .ok shadow

/-- What the loader makes of all rows, part by part. -/
structure Loads (request : LoadRequest) (database : DurableDatabase)
    (state : DurableLiveStartupState) : Prop where
  work : ReadsWork request database state.pendingReconcileAnchors state.liveExecutionRecords
    (state.shadowExecutionAttempts, state.shadowExecutionArtifacts)
  candidate : candidateRestoreStatusOf database.strategy
    (database.progress.bind RuntimeProgressRow.operatorTargetRevision) =
      .ok state.candidateRestoreStatus
  revision : validateOperatorRevision database.progress request.operatorStrategyRevision
    request.operatorTargetRevision request.allowLegacyTargetSourceResume
    (hasDurableFollowUpWork state.pendingReconcileAnchors state.liveExecutionRecords
      state.shadowExecutionAttempts) = .ok ⟨⟩
  anchor : durableProgressAnchor database.progress
    (hasDurableFollowUpWork state.pendingReconcileAnchors state.liveExecutionRecords
      state.shadowExecutionAttempts) =
      .ok (state.lastJournalSeq, state.lastStateVersion, state.publishedSnapshotId)

/-- The row names the work that the start is to resume. -/
def LoadRequest.AnchoredBy (request : LoadRequest) (row : RuntimeProgressRow) : Prop :=
  match request.operatorStrategyRevision, request.operatorTargetRevision with
  | some revision, _ =>
      row.operatorStrategyRevision = some revision ∨
        row.operatorStrategyRevision = none ∧ request.allowLegacyTargetSourceResume = true ∧
          row.operatorTargetRevision = some revision
  | none, some revision => row.operatorTargetRevision = some revision
  | none, none => True

/-- The progress row is one to start from, with work to resume or without. -/
def LoadRequest.Resumable (request : LoadRequest) (progress : Option RuntimeProgressRow)
    (hasFollowUpWork : Bool) : Prop :=
  validateOperatorRevision progress request.operatorStrategyRevision
      request.operatorTargetRevision request.allowLegacyTargetSourceResume hasFollowUpWork = .ok ⟨⟩ ∧
    ∃ anchor, durableProgressAnchor progress hasFollowUpWork = .ok anchor

/-- The older provenance of a revision, if there is any, leads to an adoptable revision
and a candidate. -/
def ChainKept (database : StrategyDatabase) (revision : String) : Prop :=
  ∀ provenance ∈ database.candidateAdoptionProvenance.get? revision, database.TargetLinked provenance

section Accepted

variable {request : LoadRequest} {database : DurableDatabase} {state : DurableLiveStartupState}
  {progress : Option RuntimeProgressRow} {row : RuntimeProgressRow} {revision : String}

theorem load_eq_ok_iff :
    loadDurableLiveStartupStateForStrategy request database = .ok state ↔
      Loads request database state := by
  simp only [loadDurableLiveStartupStateForStrategy, bind_eq_ok,
    DurableDatabase.listSubmissions_eq_ok_iff]
  constructor
  · rintro ⟨_, ⟨hreadable, rfl⟩, pendingRows, hpending, anchors, hanchors, records, hrecords,
      ⟨attempts, artifacts⟩, hshadow, status, hstatus, ⟨⟩, hrevision, ⟨seq, version, snapshotId⟩,
      hprogress, hstate⟩
    cases hstate
    exact ⟨⟨hreadable, ⟨pendingRows, hpending, hanchors, hrecords⟩, hshadow⟩, hstatus, hrevision,
      hprogress⟩
  · rintro ⟨⟨hreadable, ⟨pendingRows, hpending, hanchors, hrecords⟩, hshadow⟩, hstatus, hrevision,
      hprogress⟩
    exact ⟨_, ⟨hreadable, rfl⟩, pendingRows, hpending, _, hanchors, _, hrecords, _, hshadow, _,
      hstatus, ⟨⟩, hrevision, _, hprogress, rfl⟩

/-- A database whose work is read is accepted by what its progress row and its
provenance are. -/
theorem exists_load_iff {anchors : List PendingReconcileAnchor}
    {records : List NegRiskLiveExecutionRecord}
    {shadow : List ExecutionAttemptRow × List ShadowExecutionArtifactRow}
    (hwork : ReadsWork request database anchors records shadow)
    {holds : List NegRiskLiveExecutionRecord → Prop} :
    (∃ state, loadDurableLiveStartupStateForStrategy request database = .ok state ∧
        holds state.liveExecutionRecords) ↔
      holds records ∧
      (∃ status, candidateRestoreStatusOf database.strategy
        (database.progress.bind RuntimeProgressRow.operatorTargetRevision) = .ok status) ∧
      request.Resumable database.progress (hasDurableFollowUpWork anchors records shadow.1) := by
  obtain ⟨hreadable, ⟨pendingRows, hpending, hanchors, hrecords⟩, hshadow⟩ := hwork
  simp only [load_eq_ok_iff]
  constructor
  · rintro ⟨state, ⟨⟨-, ⟨pendingRows', hpending', hanchors', hrecords'⟩, hshadow'⟩, hcandidate,
      hrevision, hanchor⟩, hholds⟩
    obtain rfl := Except.ok.inj (hpending'.symm.trans hpending)
    obtain rfl := Except.ok.inj (hanchors'.symm.trans hanchors)
    obtain rfl := Except.ok.inj (hrecords'.symm.trans hrecords)
    obtain rfl := Except.ok.inj (hshadow'.symm.trans hshadow)
    exact ⟨hholds, ⟨_, hcandidate⟩, hrevision, _, hanchor⟩
  · rintro ⟨hholds, ⟨status, hstatus⟩, hrevision, ⟨seq, version, snapshotId⟩, hanchor⟩
    exact ⟨⟨seq, version, snapshotId, anchors, records, shadow.1, shadow.2, status⟩,
      ⟨⟨hreadable, ⟨pendingRows, hpending, hanchors, hrecords⟩, hshadow⟩, hstatus, hrevision, hanchor⟩,
      hholds⟩

theorem candidateRestoreStatusOf_isOk {database : StrategyDatabase} :
    (∃ status, candidateRestoreStatusOf database (some revision) = .ok status) ↔
      ChainKept database revision := by
  simp only [candidateRestoreStatusOf, StrategyDatabase.getByOperatorTargetRevision, ChainKept]
  cases hprovenance : database.candidateAdoptionProvenance.get? revision with
  | none => simp
  | some provenance =>
      by_cases hlinked : database.TargetLinked provenance
      · obtain ⟨⟨adoptable, hadoptable, hcandidate, hrendered⟩, hsome⟩ := id hlinked
        obtain ⟨candidate, hget⟩ := Option.isSome_iff_exists.mp hsome
        have hkey : provenance.operatorTargetRevision = revision :=
          KeyedTable.key_of_get? hprovenance
        simp only [if_pos hlinked, hget, Option.mem_def.mp hadoptable, hcandidate,
          hrendered.trans hkey]
        simp [hlinked]
      · simp [hlinked]

theorem validateOperatorRevision_some_eq_ok :
    validateOperatorRevision (some row) request.operatorStrategyRevision
        request.operatorTargetRevision request.allowLegacyTargetSourceResume true = .ok ⟨⟩ ↔
      request.AnchoredBy row := by
  simp only [validateOperatorRevision, LoadRequest.AnchoredBy, validateStrategyRevision,
    validateTargetRevision, if_true]
  cases request.operatorStrategyRevision with
  | some revision => cases hactual : row.operatorStrategyRevision <;> simp
  | none =>
      cases request.operatorTargetRevision with
      | some revision => cases hactual : row.operatorTargetRevision <;> simp
      | none => simp

/-- Work is resumed from a row that names it. -/
theorem resumable_true_iff :
    request.Resumable progress true ↔
      ∃ row, progress = some row ∧ 0 ≤ row.lastStateVersion ∧ request.AnchoredBy row := by
  cases progress with
  | none => simp [LoadRequest.Resumable, durableProgressAnchor]
  | some row =>
      simp only [LoadRequest.Resumable, validateOperatorRevision_some_eq_ok, durableProgressAnchor,
        Option.some.injEq, exists_eq_left']
      by_cases hnegative : row.lastStateVersion < 0
      · simp [hnegative, Int.not_le.mpr hnegative]
      · simp [hnegative, Int.not_lt.mp hnegative]

theorem resumable_false_iff :
    request.Resumable progress false ↔ ∀ row, progress = some row → 0 ≤ row.lastStateVersion := by
  have hvalid : validateOperatorRevision progress request.operatorStrategyRevision
      request.operatorTargetRevision request.allowLegacyTargetSourceResume false = .ok ⟨⟩ := by
    unfold validateOperatorRevision
    split <;> rfl
  simp only [LoadRequest.Resumable, hvalid, true_and, durableProgressAnchor]
  cases progress with
  | none => simp
  | some row =>
      by_cases hnegative : row.lastStateVersion < 0
      · simp [hnegative, Int.not_le.mpr hnegative]
      · simp [hnegative, Int.not_lt.mp hnegative]

end Accepted

end AxiomArb.AppLive
