import AxiomArb.Persistence.ExecutionRows

/-!
# Batches of shadow rows

The attempts of a smoke test and their artifacts are written in one transaction, and a
batch that is written again changes nothing.

## Honest boundary

* A duplicate attempt is reported without what other sessions are doing.
* A batch is not written by two tasks at once.
-/

namespace AxiomArb.Persistence

open AppLive Domain Library

/-- All columns but the session agree. -/
def shadowAttemptRowsAreEquivalent (existing desired : ExecutionAttemptRow) : Prop :=
  { existing with runSessionId := desired.runSessionId } = desired

instance (existing desired : ExecutionAttemptRow) :
    Decidable (shadowAttemptRowsAreEquivalent existing desired) :=
  inferInstanceAs (Decidable (_ = _))

def appendShadowExecutionAttemptIdempotent (row : ExecutionAttemptRow) :
    Command String DurableDatabase Unit := do
  let database ← get
  let duplicate := s!"execution attempt {row.attemptId} already exists"
  match database.insertAttempt? row with
  | some database => set database
  | none =>
      match database.attempts.get? row.attemptId with
      | none => throw duplicate
      | some existing => if ¬shadowAttemptRowsAreEquivalent existing row then throw duplicate

/-- An artifact of a shadow attempt. -/
def DurableDatabase.insertArtifact (database : DurableDatabase) (row : ShadowExecutionArtifactRow)
    (attempt : { attempt // attempt ∈ database.attempts.rows ∧ IsAttempt .shadow attempt row.attemptId }) :
    DurableDatabase :=
  { database with
    shadowArtifacts := database.shadowArtifacts ++ [row]
    shadowed := by
      intro artifact hartifact
      rw [List.mem_append, List.mem_singleton] at hartifact
      rcases hartifact with hold | rfl
      · exact database.shadowed artifact hold
      · exact ⟨attempt.1, attempt.2⟩ }

def appendShadowExecutionArtifact (row : ShadowExecutionArtifactRow) :
    Command String DurableDatabase Unit := do
  let database ← get
  match database.attemptIn? .shadow row.attemptId with
  | none =>
      throw s!"shadow artifact attempt {row.attemptId} must reference an existing shadow execution attempt"
  | some attempt => set (database.insertArtifact row attempt)

def appendShadowExecutionArtifactIdempotent (row : ShadowExecutionArtifactRow) :
    Command String DurableDatabase Unit := do
  let database ← get
  match database.shadowArtifacts.find? fun artifact ↦
    artifact.attemptId = row.attemptId ∧ artifact.stream = row.stream with
  | none => appendShadowExecutionArtifact row
  | some existing =>
      if existing.payload ≠ row.payload then
        throw (invalidValue "shadow_execution_artifacts.payload" s!"attempt_id={
          existing.attemptId} stream={existing.stream} existing_payload={
          existing.payload} desired_payload={row.payload}")

/-- The rows of a batch, one after the other. -/
def appendShadowRows (attempts : List ExecutionAttemptRow)
    (artifacts : List ShadowExecutionArtifactRow) : Command String DurableDatabase Unit :=
  match attempts, artifacts with
  | attempt :: attempts, artifacts => do
      appendShadowExecutionAttemptIdempotent attempt
      appendShadowRows attempts artifacts
  | [], artifact :: artifacts => do
      appendShadowExecutionArtifactIdempotent artifact
      appendShadowRows [] artifacts
  | [], [] => return

def appendShadowExecutionBatch (attempts : List ExecutionAttemptRow)
    (artifacts : List ShadowExecutionArtifactRow) : Command String DurableDatabase Unit :=
  transaction (appendShadowRows attempts artifacts)

end AxiomArb.Persistence
