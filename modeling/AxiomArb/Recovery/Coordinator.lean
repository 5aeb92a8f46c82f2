import AxiomArb.Execution.PlanIdentity
import AxiomArb.Library.Slices
import AxiomArb.Risk.Activation

/-!
# Recovery of ambiguous attempts

An attempt that failed without a clear outcome is recovered in the scope of its plan.  The
scope is read back from the request-bound plan id by the length that stands in it, so
attempts of one plan share it whatever their requests.
-/

namespace AxiomArb.Recovery

open Domain Library Execution ExecutionAttemptFactory

structure PendingReconcilePayload where
  submissionRef : String
  familyId : String
  route : String
  reason : String
deriving DecidableEq, Repr

structure RecoveryOutputs where
  recoveryIntent : Option RecoveryIntent
  pendingReconcile : Option PendingReconcilePayload
deriving DecidableEq, Repr

/-- The plan id behind the binding of a request, and other texts as they are; `none` where
the code would slice within a character.  A length beyond the machine's is like any length
beyond the text. -/
def stablePlanScope (planId : String) : Option String :=
  match stripPrefix "request-bound:" planId with
  | none => some planId
  | some remainder =>
      match splitOnce ':' remainder with
      | none => some planId
      | some (requestLen, trailing) =>
          match parseUnsigned requestLen with
          | none => some planId
          | some requestLen =>
              if requestLen < (asBytes trailing).length ∧
                  (asBytes trailing)[requestLen]? = some ':'.toUInt8 then
                sliceFrom trailing (requestLen + 1)
              else
                some planId

def onFailedAmbiguous (attempt : ExecutionAttempt) : Option RecoveryOutputs := do
  let scope ← stablePlanScope attempt.planId
  return {
    recoveryIntent := some {
      recoveryId := s!"recovery-{attempt.attemptId}"
      sourceSnapshotId := attempt.snapshotId
      scope := s!"execution_path:{scope}" }
    pendingReconcile := none }

theorem isSome_stablePlanScope (planId : String) : (stablePlanScope planId).isSome := by
  rw [stablePlanScope]
  split
  · exact rfl
  · split
    · exact rfl
    · split
      · exact rfl
      · split
        · rename_i hcolon
          -- the byte at the length is a whole character, so the slice starts behind one
          obtain ⟨rest, hrest⟩ := exists_sliceFrom_succ (by decide) hcolon.2
          rw [hrest]
          rfl
        · exact rfl

theorem stablePlanScope_framed (requestId planId : String) :
    stablePlanScope ("request-bound:" ++ (framed requestId ++ (":" ++ planId))) = some planId := by
  have hstart : stripPrefix "request-bound:"
      ("request-bound:" ++ (framed requestId ++ (":" ++ planId))) =
        some (framed requestId ++ (":" ++ planId)) := stripPrefix_eq_some_iff.mpr rfl
  have hsplit : splitOnce ':' (framed requestId ++ (":" ++ planId)) =
      some (toString requestId.utf8ByteSize, requestId ++ (":" ++ planId)) := by
    have hframed : framed requestId ++ (":" ++ planId) = toString requestId.utf8ByteSize ++
        String.singleton ':' ++ (requestId ++ (":" ++ planId)) := by
      show toString requestId.utf8ByteSize ++ ":" ++ requestId ++ (":" ++ planId) = _
      rw [String.append_assoc]
      rfl
    rw [hframed]
    refine splitOnce_append ?_
    rw [Nat.toString_eq_ofList_toDigits, String.toList_ofList]
    exact notMem_toDigits (by decide) _
  have hbytes : asBytes (requestId ++ (":" ++ planId)) =
      asBytes requestId ++ ':'.toUInt8 :: asBytes planId := by
    rw [asBytes_append, asBytes_append]
    rfl
  have hslice : sliceFrom (requestId ++ (":" ++ planId)) (requestId.utf8ByteSize + 1) =
      some planId := by
    have hsize : (requestId ++ ":").utf8ByteSize = requestId.utf8ByteSize + 1 :=
      String.utf8ByteSize_append
    rw [← String.append_assoc, ← hsize]
    exact sliceFrom_append _ _
  simp only [stablePlanScope, hstart, hsplit, parseUnsigned_toString]
  rw [hbytes, ← length_asBytes, if_pos, length_asBytes, hslice]
  refine ⟨by simp, ?_⟩
  rw [List.getElem?_append_right (Nat.le_refl _), Nat.sub_self]
  rfl

/-- What binds a plan id to a request is taken off again, whatever the request and the plan
id hold, and no text makes the scope fail. -/
theorem stablePlanScope_requestBoundPlanId :
    (∀ requestId planId : String,
      stablePlanScope s!"request-bound:{requestId.utf8ByteSize}:{requestId}:{planId}" =
        some planId) ∧
      (∀ (plan : ExecutionPlan) (request : ExecutionRequest),
        stablePlanScope (requestBoundPlanId plan request) = some plan.planId) ∧
      ∀ planId : String, stablePlanScope planId ≠ none := by
  refine ⟨fun requestId planId ↦ ?_, fun plan request ↦ ?_, fun planId h ↦ ?_⟩
  · rw [ExecutionPlan.requestBound_eq_framed, stablePlanScope_framed]
  · rw [ExecutionPlan.requestBoundPlanId_eq, stablePlanScope_framed]
  · have hsome := isSome_stablePlanScope planId
    rw [h] at hsome
    cases hsome

/-- The recovery of an attempt runs in the scope of its plan. -/
theorem scope_onFailedAmbiguous {attempt : ExecutionAttempt} {plan : ExecutionPlan}
    {request : ExecutionRequest} (h : attempt.planId = requestBoundPlanId plan request) :
    (onFailedAmbiguous attempt).bind (·.recoveryIntent.map RecoveryIntent.scope) =
      some ("execution_path:" ++ plan.planId) := by
  rw [onFailedAmbiguous, h, ExecutionPlan.requestBoundPlanId_eq, stablePlanScope_framed]
  rfl

end AxiomArb.Recovery
