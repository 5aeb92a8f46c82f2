import AxiomArb.AppLive.VerifyWindow
import AxiomArb.Library.InsertionTable
import AxiomArb.Library.Newest
import AxiomArb.Library.StableSort
import AxiomArb.Persistence.RunSessions
import Mathlib.Data.Prod.Lex

/-!
# What a verification looks at

A window is read from the database: the attempts of the session that is found for it, or those
that the window or the scenario names, and with them their artifacts and submissions.

## Honest boundary

* Identifiers are ordered by their code points.
* Submissions stand in the order of their insertion.
-/

namespace AxiomArb.AppLive.Verify

open Domain Library Persistence Std

/-! ## The database -/

structure VerifyDatabase where
  attempts : InsertionTable fun row : ExecutionAttemptWithCreatedAtRow ↦ row.attempt.attemptId
  sessions : RunSessions
  journal : List JournalEntryRow
  shadowArtifacts : List ShadowExecutionArtifactRow
  liveArtifacts : List LiveExecutionArtifactRow
  liveSubmissions : List LiveSubmissionRecordRow
  /-- What the replay reads of the shadow attempts. -/
  replayed : Except String (List NegRiskShadowAttemptArtifacts)
  /-- The foreign key of an attempt. -/
  started : ∀ row ∈ attempts.rows, ∀ id ∈ row.attempt.runSessionId,
    id ∈ sessions.map RunSessionRow.runSessionId

/-- Attempts are listed from the newest, those of one time by their identifier. -/
def attemptRank (row : ExecutionAttemptWithCreatedAtRow) : DateTime ×ₗ String :=
  toLex (row.createdAt, row.attempt.attemptId)

namespace VerifyDatabase

variable (db : VerifyDatabase)

def listAttempts (selected : ExecutionAttemptWithCreatedAtRow → Bool) :
    List ExecutionAttemptWithCreatedAtRow :=
  newestFirst attemptRank (db.attempts.rows.filter selected)

def listRecentAttempts (selected : ExecutionAttemptWithCreatedAtRow → Bool) (limit : Nat) :
    List ExecutionAttemptWithCreatedAtRow :=
  newest attemptRank limit (db.attempts.rows.filter selected)

def listCreatedSince (since : DateTime) : List ExecutionAttemptWithCreatedAtRow :=
  db.listAttempts fun row ↦ since ≤ row.createdAt

def listByModeWithCreatedAt (mode : ExecutionMode) : List ExecutionAttemptWithCreatedAtRow :=
  db.listAttempts fun row ↦ row.attempt.executionMode = mode

def listByModeWithCreatedAtAndRoute (mode : ExecutionMode) (route : String) :
    List ExecutionAttemptWithCreatedAtRow :=
  db.listAttempts fun row ↦ row.attempt.executionMode = mode ∧ row.attempt.route = route

def listBySnapshotId (snapshotId : String) : List ExecutionAttemptWithCreatedAtRow :=
  db.listAttempts fun row ↦ row.attempt.snapshotId = snapshotId

def listRecentByMode (mode : Option ExecutionMode) (limit : Nat) :
    List ExecutionAttemptWithCreatedAtRow :=
  db.listRecentAttempts (fun row ↦ mode.all (row.attempt.executionMode = ·)) limit

def listRecentByModeAndRoute (mode : ExecutionMode) (route : String) (limit : Nat) :
    List ExecutionAttemptWithCreatedAtRow :=
  db.listRecentAttempts
    (fun row ↦ row.attempt.executionMode = mode ∧ row.attempt.route = route) limit

def listByRunSessionId (runSessionId : String) : List ExecutionAttemptWithCreatedAtRow :=
  db.listAttempts fun row ↦ row.attempt.runSessionId = some runSessionId

def getByAttemptId (attemptId : String) : Option ExecutionAttemptWithCreatedAtRow :=
  db.attempts.get? attemptId

def listRange (fromSeq : Int) (toSeq : Option Int) : List JournalEntryRow :=
  sortByKey JournalEntryRow.journalSeq
    (db.journal.filter fun row ↦ fromSeq ≤ row.journalSeq ∧ toSeq.all ((row.journalSeq : Int) ≤ ·))

def listSince (since : DateTime) : List JournalEntryRow :=
  sortByKey JournalEntryRow.journalSeq
    (db.journal.filter fun row ↦ since ≤ row.eventTs ∨ since ≤ row.ingestedAt)

def runSession (runSessionId : String) : Option RunSessionRow :=
  db.sessions.find? (·.runSessionId = runSessionId)

/-! ### The run of a window -/

end VerifyDatabase

/-- The one member of a set that has no other. -/
def onlyMember (ids : BTreeSet String) : Option String :=
  if ids.size = 1 then ids.toList.head? else none

def sourceSessionIds (rows : List JournalEntryRow) : BTreeSet String :=
  .ofList ((rows.map fun row ↦ row.sourceSessionId).filter fun id ↦ !id.isEmpty)

def attemptSessionIds (rows : List ExecutionAttemptWithCreatedAtRow) : BTreeSet String :=
  .ofList (rows.filterMap (·.attempt.runSessionId))

namespace VerifyDatabase

variable (db : VerifyDatabase)

def resolveUniqueForAttemptId (attemptId : String) : Option RunSessionRow :=
  (db.getByAttemptId attemptId).bind fun row ↦ row.attempt.runSessionId.bind db.runSession

def resolveUniqueForSince (since : DateTime) : Option RunSessionRow :=
  let runSessionIds := attemptSessionIds (db.listCreatedSince since)
  if runSessionIds.isEmpty then
    (onlyMember (sourceSessionIds (db.listSince since))).bind db.runSession
  else
    (onlyMember runSessionIds).bind db.runSession

def resolveUniqueForSeqRange (fromSeq : Int) (toSeq : Option Int) : Option RunSessionRow :=
  (onlyMember (sourceSessionIds (db.listRange fromSeq toSeq))).bind db.runSession

end VerifyDatabase

structure ResolvedVerifySession where
  relevantSession : Option RunSessionRow
  historicalWindowSession : Option RunSessionRow
  historicalWindowUnique : Bool

def ResolvedVerifySession.selectedSessionId (resolved : ResolvedVerifySession)
    (selection : VerifyWindowSelection) : Option String :=
  if selection.isHistoricalExplicit then
    if resolved.historicalWindowUnique then
      resolved.historicalWindowSession.map (·.runSessionId) <|>
        resolved.relevantSession.map (·.runSessionId)
    else none
  else resolved.relevantSession.map (·.runSessionId)

namespace VerifyDatabase

variable (db : VerifyDatabase)

def historicalWindowSession : VerifyWindowSelection → Option RunSessionRow
  | .latestForScenario _ => none
  | .explicitAttemptId attemptId => db.resolveUniqueForAttemptId attemptId
  | .explicitSince since => db.resolveUniqueForSince since
  | .explicitSeqRange fromSeq toSeq => db.resolveUniqueForSeqRange fromSeq toSeq

/-- The sessions that a verification looks at: that of its configuration and that of its window. -/
def resolveSessionWindow (runSessionId : Option String) (selection : VerifyWindowSelection) :
    ResolvedVerifySession :=
  { relevantSession := runSessionId.bind db.runSession
    historicalWindowSession := db.historicalWindowSession selection
    historicalWindowUnique :=
      !selection.isHistoricalExplicit || (db.historicalWindowSession selection).isSome }

end VerifyDatabase

/-! ## Reading the window -/

def DEFAULT_RECENT_ATTEMPTS_LIMIT : Nat := 20

def filterAttemptsByActiveRoutes (rows : List ExecutionAttemptWithCreatedAtRow)
    (activeRoutes : List String) : List ExecutionAttemptWithCreatedAtRow :=
  rows.filter fun row ↦ routeIsActive row.attempt.route activeRoutes

def sortAndDedupAttempts (rows : List ExecutionAttemptWithCreatedAtRow) :
    List ExecutionAttemptWithCreatedAtRow :=
  merged attemptRank (fun row ↦ row.attempt.attemptId) rows

/-- The newer of two attempts of one scope is kept. -/
def keepLatest (latestByScope : BTreeMap String ExecutionAttemptWithCreatedAtRow)
    (row : ExecutionAttemptWithCreatedAtRow) : BTreeMap String ExecutionAttemptWithCreatedAtRow :=
  match latestByScope[row.attempt.scope]? with
  | none => latestByScope.insert row.attempt.scope row
  | some existing =>
      if existing.createdAt < row.createdAt ∨
          row.createdAt = existing.createdAt ∧ existing.attempt.attemptId < row.attempt.attemptId then
        latestByScope.insert row.attempt.scope row
      else latestByScope

/-- Rows filed under the attempt they belong to. -/
def fileByAttempt {ν : Type} (attemptId : ν → String) (rows : List ν) : BTreeMap String (List ν) :=
  rows.foldl (fun filed row ↦
    filed.insert (attemptId row) (filed[attemptId row]?.getD [] ++ [row])) ∅

namespace VerifyDatabase

variable (db : VerifyDatabase)

def listRecentByModeForActiveRoutes (mode : ExecutionMode) (activeRoutes : List String)
    (limitPerRoute : Nat) : List ExecutionAttemptWithCreatedAtRow :=
  if activeRoutes.isEmpty then db.listRecentByMode (some mode) limitPerRoute
  else sortAndDedupAttempts
    (activeRoutes.flatMap fun route ↦ db.listRecentByModeAndRoute mode route limitPerRoute)

def listByModeWithCreatedAtForActiveRoutes (mode : ExecutionMode) (activeRoutes : List String) :
    List ExecutionAttemptWithCreatedAtRow :=
  if activeRoutes.isEmpty then db.listByModeWithCreatedAt mode
  else sortAndDedupAttempts
    (activeRoutes.flatMap fun route ↦ db.listByModeWithCreatedAtAndRoute mode route)

def selectLatestSmokeRunAttempts (activeRoutes : List String) :
    List ExecutionAttemptWithCreatedAtRow :=
  match (db.listRecentByModeForActiveRoutes .shadow activeRoutes 1).head? with
  | none => []
  | some latest =>
      filterAttemptsByActiveRoutes (db.listBySnapshotId latest.attempt.snapshotId) activeRoutes

def selectLatestAttemptsForScenario (scenario : VerifyScenario) (activeRoutes : List String) :
    List ExecutionAttemptWithCreatedAtRow :=
  match scenario with
  | .paper => []
  | .live =>
      filterAttemptsByActiveRoutes
        (db.listRecentByModeForActiveRoutes .live activeRoutes DEFAULT_RECENT_ATTEMPTS_LIMIT)
        activeRoutes
  | .realUserShadowSmoke =>
      let rows := (db.selectLatestSmokeRunAttempts activeRoutes).filter
        (·.attempt.executionMode = .shadow)
      (rows.foldl keepLatest ∅).toList.map (·.2)

def selectAttempts (selection : VerifyWindowSelection) (sessionId : Option String)
    (activeRoutes : List String) : List ExecutionAttemptWithCreatedAtRow :=
  match sessionId with
  | some sessionId => filterAttemptsByActiveRoutes (db.listByRunSessionId sessionId) activeRoutes
  | none =>
      match selection with
      | .latestForScenario scenario => db.selectLatestAttemptsForScenario scenario activeRoutes
      | .explicitAttemptId attemptId =>
          filterAttemptsByActiveRoutes (db.getByAttemptId attemptId).toList activeRoutes
      | .explicitSince since =>
          filterAttemptsByActiveRoutes (db.listCreatedSince since) activeRoutes
      | .explicitSeqRange _ _ => []

def selectObservedLiveAttempts (selection : VerifyWindowSelection) (sessionId : Option String)
    (attempts : List ExecutionAttemptWithCreatedAtRow) (activeRoutes : List String) :
    List ExecutionAttemptWithCreatedAtRow :=
  if sessionId.isSome then
    filterAttemptsByActiveRoutes (attempts.filter (·.attempt.executionMode = .live)) activeRoutes
  else
    match selection with
    | .latestForScenario .paper =>
        db.listRecentByModeForActiveRoutes .live activeRoutes DEFAULT_RECENT_ATTEMPTS_LIMIT
    | .latestForScenario .realUserShadowSmoke =>
        filterAttemptsByActiveRoutes
          (db.listByModeWithCreatedAtForActiveRoutes .live activeRoutes) activeRoutes
    | _ => []

def selectObservedShadowAttempts (selection : VerifyWindowSelection) (sessionId : Option String)
    (attempts : List ExecutionAttemptWithCreatedAtRow) (activeRoutes : List String) :
    List ExecutionAttemptWithCreatedAtRow :=
  if sessionId.isSome then
    filterAttemptsByActiveRoutes (attempts.filter (·.attempt.executionMode = .shadow)) activeRoutes
  else
    match selection with
    | .latestForScenario .live =>
        filterAttemptsByActiveRoutes
          (db.listRecentByModeForActiveRoutes .shadow activeRoutes DEFAULT_RECENT_ATTEMPTS_LIMIT)
          activeRoutes
    | _ => []

def selectJournal : VerifyWindowSelection → List JournalEntryRow
  | .explicitSeqRange fromSeq toSeq => db.listRange fromSeq toSeq
  | .explicitSince since => db.listSince since
  | _ => []

def loadReplayShadowAttemptArtifacts (selection : VerifyWindowSelection)
    (attempts : List ExecutionAttemptWithCreatedAtRow) : List NegRiskShadowAttemptArtifacts :=
  match db.replayed with
  | .error _ => []
  | .ok rows =>
      if attempts.isEmpty then
        if selection = .latestForScenario .realUserShadowSmoke then rows else []
      else rows.filter fun row ↦ row.attempt.attemptId ∈ attempts.map (·.attempt.attemptId)

/-- The evidence of a window. -/
def load (selection : VerifyWindowSelection) (resolved : ResolvedVerifySession)
    (activeRoutes : List String) : VerifyEvidenceWindow :=
  let sessionId := resolved.selectedSessionId selection
  let attempts := db.selectAttempts selection sessionId activeRoutes
  let observedLiveAttempts :=
    db.selectObservedLiveAttempts selection sessionId attempts activeRoutes
  let observedShadowAttempts :=
    db.selectObservedShadowAttempts selection sessionId attempts activeRoutes
  let attemptIds :=
    (attempts ++ observedLiveAttempts ++ observedShadowAttempts).map (·.attempt.attemptId)
  { attempts
    observedLiveAttempts
    observedShadowAttempts
    replayShadowAttemptArtifacts := db.loadReplayShadowAttemptArtifacts selection attempts
    journal := db.selectJournal selection
    shadowArtifacts :=
      (db.shadowArtifacts.filter (·.attemptId ∈ attemptIds)).mergeSort fun row row' ↦
        toLex (row.attemptId, row.stream) ≤ toLex (row'.attemptId, row'.stream)
    liveArtifacts :=
      fileByAttempt (·.attemptId)
        ((db.liveArtifacts.filter (·.attemptId ∈ attemptIds)).mergeSort fun row row' ↦
          toLex (row.attemptId, row.stream) ≤ toLex (row'.attemptId, row'.stream))
    liveSubmissions :=
      fileByAttempt (·.attemptId) (db.liveSubmissions.filter (·.attemptId ∈ attemptIds)) }

end VerifyDatabase

end AxiomArb.AppLive.Verify
