import AxiomArb.AppLive.NegRiskShadow
import AxiomArb.Execution.Sink
import AxiomArb.Library.JsonText

/-!
# The shadow run of a family

What `NegRiskShadow` takes as a sink: a family is planned and executed by an orchestrator
of its own, with the shadow sink, under a request for the snapshot that was asked for.

## Honest boundary

* The digest of plan ids and the debug formats of errors are functions that are given.
* The payload of an artifact is its compact text.
-/

namespace AxiomArb.AppLive

open Domain Library Execution

def SHADOW_ARTIFACT_STREAM : String := "neg-risk-shadow-plan"

def toMemberTarget (member : NegRiskMemberLiveTarget) : NegRiskMemberTarget :=
  { conditionId := member.conditionId
    tokenId := member.tokenId
    price := member.price
    quantity := member.quantity }

def toExecutionTarget (target : NegRiskFamilyLiveTarget) : NegRiskFamilyTarget :=
  { familyId := target.familyId, members := target.members.map toMemberTarget }

def ensureShadowRecorded (receipt : ExecutionReceipt) : Except NegRiskShadowError Unit :=
  if receipt.outcome = .shadowRecorded then
    .ok ()
  else
    .error (.sink s!"unexpected neg-risk shadow receipt outcome: {receipt.outcome.name}")

def shadowArtifactMember (member : NegRiskMemberOrderPlan) : Json :=
  .object [
    ("condition_id", .string member.conditionId),
    ("price", .string member.price.normalize.text),
    ("quantity", .string member.quantity.normalize.text),
    ("token_id", .string member.tokenId)]

def shadowArtifactPayload (attempt : ExecutionAttemptRow) (plan : ExecutionPlan) : Json :=
  let members := match plan with
    | .negRiskSubmitFamily _ members => members.map shadowArtifactMember
    | _ => []
  .object [
    ("attempt_id", .string attempt.attemptId),
    ("matched_rule_id", match attempt.matchedRuleId with
      | some matchedRuleId => .string matchedRuleId
      | none => .null),
    ("members", .array members),
    ("plan_id", .string attempt.planId),
    ("route", .string attempt.route),
    ("scope", .string attempt.scope),
    ("snapshot_id", .string attempt.snapshotId)]

/-- The digest, and how errors print. -/
structure ShadowTexts where
  sha256 (planId : String) : String
  planningError (error : NegRiskPlanningError) : String
  executionError (error : ExecutionError) : String

def shadowRequest (snapshotId : String) (target : NegRiskFamilyLiveTarget) (matchedRuleId : String) :
    ExecutionRequest :=
  { requestId := s!"negrisk-shadow-request:{snapshotId}:{target.familyId}"
    decisionInputId := s!"negrisk-shadow-intent:{snapshotId}:{target.familyId}"
    snapshotId
    route := NegRisk.ROUTE
    scope := target.familyId
    activationMode := .shadow
    matchedRuleId := some matchedRuleId }

/-- The row of an execution, and its artifact. -/
def shadowRecord (executionRecord : ExecutionAttemptRecord) (plan : ExecutionPlan)
    (runSessionId : Option String) : NegRiskShadowExecutionRecord :=
  let attempt : ExecutionAttemptRow :=
    { attemptId := executionRecord.receipt.attemptId
      planId := executionRecord.attempt.planId
      snapshotId := executionRecord.attempt.snapshotId
      route := executionRecord.attemptContext.route
      scope := executionRecord.attemptContext.scope
      matchedRuleId := executionRecord.attemptContext.matchedRuleId
      executionMode := executionRecord.attemptContext.executionMode
      attemptNo := executionRecord.attempt.attemptNo
      idempotencyKey := s!"idem-{executionRecord.attempt.attemptId}"
      runSessionId }
  { attempt
    artifacts :=
      [{ attemptId := attempt.attemptId
         stream := SHADOW_ARTIFACT_STREAM
         payload := (shadowArtifactPayload attempt plan).text }] }

def executeShadowFamily (texts : ShadowTexts) : ShadowSink :=
  fun snapshotId target matchedRuleId runSessionId ↦ do
    let request := shadowRequest snapshotId target matchedRuleId
    let plan ← (NegRisk.planFamilySubmission request (toExecutionTarget target)).mapError fun err ↦
      .planning s!"neg-risk shadow planning failed: {texts.planningError err}"
    let input : ExecutionPlanningInput := { request, executionMode := request.activationMode, plan }
    let executionRecord ← (exec
      (ExecutionOrchestrator.executeWithAttempt texts.sha256 shadowVenueSink input)
      (ExecutionAttemptFactory.new, [])).1.mapError fun err ↦
        .sink s!"neg-risk shadow sink failed: {texts.executionError err}"
    ensureShadowRecorded executionRecord.receipt
    return shadowRecord executionRecord plan runSessionId

variable {texts : ShadowTexts} {snapshotId matchedRuleId : String} {target : NegRiskFamilyLiveTarget}
  {runSessionId : Option String} {record : NegRiskShadowExecutionRecord}

/-- The record is of a shadow run for the snapshot, and its artifacts are of its attempt. -/
structure ShadowRunFor (snapshotId : String) (record : NegRiskShadowExecutionRecord) : Prop where
  snapshot : record.attempt.snapshotId = snapshotId
  artifacts : ∀ artifact ∈ record.artifacts, artifact.attemptId = record.attempt.attemptId

theorem shadowRunFor_executeShadowFamily
    (h : executeShadowFamily texts snapshotId target matchedRuleId runSessionId = .ok record) :
    ShadowRunFor snapshotId record := by
  obtain ⟨plan, -, h⟩ := bind_eq_ok.mp h
  obtain ⟨executionRecord, hexecuted, h⟩ := bind_eq_ok.mp h
  obtain ⟨_, -, h⟩ := bind_eq_ok.mp h
  cases h
  constructor
  · exact snapshotId_executeWithAttempt (Prod.ext (mapError_eq_ok_iff.mp hexecuted) rfl)
  · rintro artifact (_ | ⟨_, ⟨⟩⟩)
    rfl

/-- So is every record of a batch. -/
theorem shadowRunFor_of_mem_shadowRecords {policy : Risk.ActivationPolicy}
    {readyFamilies : BTreeSet String} {families : Families} {seen : SeenAttempts}
    {records : List NegRiskShadowExecutionRecord}
    (h : shadowRecords (executeShadowFamily texts) policy snapshotId readyFamilies runSessionId seen
      families = .ok records) :
    ∀ record ∈ records, ShadowRunFor snapshotId record := by
  induction families generalizing seen records with
  | nil =>
      cases h
      exact List.forall_mem_nil _
  | cons family families ih =>
      obtain ⟨familyId, target⟩ := family
      rw [shadowRecords] at h
      split at h
      · exact ih h
      · split at h
        · exact ih h
        · obtain ⟨record, hrecord, h⟩ := bind_eq_ok.mp h
          split at h
          · cases h
          · obtain ⟨rest, hrest, h⟩ := bind_eq_ok.mp h
            cases h
            exact List.forall_mem_cons.mpr ⟨shadowRunFor_executeShadowFamily hrecord, ih hrest⟩

end AxiomArb.AppLive
