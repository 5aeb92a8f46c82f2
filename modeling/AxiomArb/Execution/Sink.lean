import AxiomArb.Domain.Submission
import AxiomArb.Execution.Attempts
import AxiomArb.Execution.Signing
import AxiomArb.Library.Command

/-!
# The sinks

An orchestrator numbers an attempt and hands the plan to its sink.  The live sink signs and
submits a plan that expands risk, by the adapter of its route, and makes a receipt of what
the venue answers.  The shadow sink records the attempt and submits nothing.

## Honest boundary

* Signers and venues act on a state of their own, and may fail at any time.
* Errors are printed by functions that are given.
* Spans and counters are left out.
-/

namespace AxiomArb.Execution

open Domain Library

/-! ## Kinds of plans -/

namespace ExecutionPlan

def route : ExecutionPlan → Option String
  | fullSetBuyThenMerge _ | fullSetSplitThenSell _ | redeemResolved _ => some "full-set"
  | negRiskSubmitFamily _ _ => some "neg-risk"
  | cancelStale _ => none

def isRiskExpanding : ExecutionPlan → Bool
  | fullSetBuyThenMerge _ | fullSetSplitThenSell _ | negRiskSubmitFamily _ _ => true
  | cancelStale _ | redeemResolved _ => false

end ExecutionPlan

/-! ## Adapters -/

/-- How a plan is signed. -/
abbrev SignerProvider (σ : Type) := ExecutionPlan → Command SigningError σ SignedFamilySubmission

/-- How what was signed is submitted. -/
abbrev VenueExecutionProvider (σ : Type) :=
  SignedFamilySubmission → ExecutionAttemptContext → Command String σ LiveSubmitOutcome

structure RouteExecutionAdapter (σ : Type) where
  route : String
  submitLive : ExecutionPlan → ExecutionAttemptContext → Command String σ LiveSubmitOutcome

/-- Rename the errors of a command. -/
def renameErrors {ε ε' σ α : Type} (rename : ε' → ε) (command : Command ε' σ α) : Command ε σ α :=
  focus id (fun _ s ↦ s) rename command

/-- `NegRiskRouteExecutionAdapter`, with a submit provider. -/
def negRiskRouteExecutionAdapter {σ : Type} (signingText : SigningError → String)
    (signer : SignerProvider σ) (submitProvider : VenueExecutionProvider σ) :
    RouteExecutionAdapter σ :=
  { route := "neg-risk"
    submitLive := fun plan attempt ↦ do
      let signed ← renameErrors (fun err ↦ s!"signing error: {signingText err}") (signer plan)
      submitProvider signed attempt }

/-! ## Sinks -/

inductive VenueSinkError where
  | rejected (reason : String)
  | modeMismatch (sink : String) (expected actual : ExecutionMode)
deriving DecidableEq, Repr

abbrev VenueSink (σ : Type) :=
  ExecutionPlan → ExecutionAttemptContext → Command VenueSinkError σ ExecutionReceipt

def ensureSinkMode (sink : String) (expected actual : ExecutionMode) : Except VenueSinkError Unit :=
  if actual = expected then .ok () else .error (.modeMismatch sink expected actual)

def ensureLiveSinkMode (plan : ExecutionPlan) (actual : ExecutionMode) : Except VenueSinkError Unit :=
  match actual with
  | .live | .recoveryOnly => .ok ()
  | .reduceOnly =>
      if !plan.isRiskExpanding then .ok () else .error (.modeMismatch "live" .live actual)
  | other => .error (.modeMismatch "live" .live other)

def receiptFromLiveSubmitOutcome (attempt : ExecutionAttemptContext) :
    LiveSubmitOutcome → ExecutionReceipt
  | .accepted submissionRecord =>
      (ExecutionReceipt.new attempt.attemptId .succeeded).withSubmissionRef
        submissionRecord.submissionRef
  | .acceptedButUnconfirmed submissionRecord pendingRef =>
      let receipt := (ExecutionReceipt.new attempt.attemptId .succeeded).withPendingRef pendingRef
      match submissionRecord with
      | some record => receipt.withSubmissionRef record.submissionRef
      | none => receipt
  | .rejectedDefinitive _ => .new attempt.attemptId .failedDefinitive
  | .ambiguous pendingRef _ =>
      (ExecutionReceipt.new attempt.attemptId .failedAmbiguous).withPendingRef pendingRef

structure LiveVenueSink (σ : Type) where
  routeExecutionAdapters : BTreeMap String (RouteExecutionAdapter σ)

namespace LiveVenueSink

variable {σ : Type}

def noop : LiveVenueSink σ := { routeExecutionAdapters := ∅ }

def registerRouteExecutionAdapter (sink : LiveVenueSink σ) (adapter : RouteExecutionAdapter σ) :
    LiveVenueSink σ :=
  { routeExecutionAdapters := sink.routeExecutionAdapters.insert adapter.route adapter }

def withSubmitProvider (signingText : SigningError → String) (signer : SignerProvider σ)
    (submitProvider : VenueExecutionProvider σ) : LiveVenueSink σ :=
  noop.registerRouteExecutionAdapter
    (negRiskRouteExecutionAdapter signingText signer submitProvider)

def execute (sink : LiveVenueSink σ) : VenueSink σ := fun plan attempt ↦ do
  liftM (ensureLiveSinkMode plan attempt.executionMode)
  if plan.isRiskExpanding then
    let route := plan.route.getD attempt.route
    match sink.routeExecutionAdapters[route]? with
    | none => throw (.rejected s!"missing live execution adapter for route {route}")
    | some adapter => do
        let liveOutcome ← renameErrors
          (fun reason ↦ .rejected s!"route execution adapter error: {reason}")
          (adapter.submitLive plan attempt)
        return receiptFromLiveSubmitOutcome attempt liveOutcome
  else
    return .new attempt.attemptId .succeeded

end LiveVenueSink

/-- `ShadowVenueSink`, which submits nothing; its state is the attempts it has recorded. -/
def shadowVenueSink : VenueSink (List String) := fun _ attempt ↦ do
  liftM (ensureSinkMode "shadow" .shadow attempt.executionMode)
  modify fun recordedAttemptIds ↦ recordedAttemptIds ++ [attempt.attemptId]
  return .new attempt.attemptId .shadowRecorded

/-! ## The orchestrator -/

structure ExecutionPlanningInput where
  request : ExecutionRequest
  executionMode : ExecutionMode
  plan : ExecutionPlan
deriving DecidableEq, Repr

inductive ExecutionError where
  | modeViolation (executionMode : ExecutionMode) (plan : ExecutionPlan)
  | sink (error : VenueSinkError)
deriving DecidableEq, Repr

structure ExecutionAttemptRecord where
  attempt : ExecutionAttempt
  attemptContext : ExecutionAttemptContext
  receipt : ExecutionReceipt
deriving DecidableEq, Repr

namespace ExecutionOrchestrator

/-- `ExecutionOrchestrator::plan`. -/
def checkPlan (input : ExecutionPlanningInput) : Except ExecutionError ExecutionPlan :=
  if input.executionMode ≠ input.request.activationMode then
    .error (.modeViolation input.request.activationMode input.plan)
  else if input.request.activationMode = .reduceOnly ∧ input.plan.isRiskExpanding then
    .error (.modeViolation input.request.activationMode input.plan)
  else
    .ok input.plan

variable {σ : Type}

/-- The state of an orchestrator is its factory, and that of the signer and the venue. -/
def executeWithAttempt (sha256 : String → String) (sink : VenueSink σ) (input : ExecutionPlanningInput) :
    Command ExecutionError (ExecutionAttemptFactory × σ) ExecutionAttemptRecord := do
  let plan ← liftM (checkPlan input)
  let (attemptFactory, s) ← get
  let ((attempt, attemptContext), attemptFactory) :=
    attemptFactory.nextForPlan sha256 plan input.request input.executionMode
  set (attemptFactory, s)
  let receipt ← focus Prod.snd (fun state s ↦ (state.1, s)) ExecutionError.sink
    (sink plan attemptContext)
  return { attempt, attemptContext, receipt }

end ExecutionOrchestrator

/-! ## What comes of a family -/

section Family

variable {σ : Type} {signingText : SigningError → String} {signer : SignerProvider σ}
  {submitProvider : VenueExecutionProvider σ} {familyId : EventFamilyId}
  {members : List NegRiskMemberOrderPlan} {s s' : σ}

theorem exec_renameErrors_eq_ok {ε ε' α : Type} {rename : ε' → ε} {command : Command ε' σ α} {a : α} :
    exec (renameErrors rename command) s = (.ok a, s') ↔ exec command s = (.ok a, s') := by
  rw [renameErrors, exec_focus_eq_ok]
  simp

/-- A family that is submitted live has the receipt of what the venue answered for what was
signed. -/
theorem execute_family_eq_ok_iff {attempt : ExecutionAttemptContext} {receipt : ExecutionReceipt}
    (hlive : attempt.executionMode = .live) :
    exec ((LiveVenueSink.withSubmitProvider signingText signer submitProvider).execute
        (.negRiskSubmitFamily familyId members) attempt) s = (.ok receipt, s') ↔
      ∃ signed middle outcome,
        exec (signer (.negRiskSubmitFamily familyId members)) s = (.ok signed, middle) ∧
        exec (submitProvider signed attempt) middle = (.ok outcome, s') ∧
        receipt = receiptFromLiveSubmitOutcome attempt outcome := by
  have hadapter : (LiveVenueSink.withSubmitProvider signingText signer
      submitProvider).routeExecutionAdapters["neg-risk"]? =
        some (negRiskRouteExecutionAdapter signingText signer submitProvider) :=
    Std.ExtTreeMap.getElem?_insert_self
  have hmode : ensureLiveSinkMode (.negRiskSubmitFamily familyId members) attempt.executionMode =
      .ok () := by
    rw [hlive]
    rfl
  simp only [LiveVenueSink.execute, hmode, ExecutionPlan.isRiskExpanding, ExecutionPlan.route,
    Option.getD_some, if_true, hadapter, exec_bind_eq_ok, exec_renameErrors_eq_ok,
    negRiskRouteExecutionAdapter, exec_lift, exec_pure]
  constructor
  · rintro ⟨_, _, ⟨⟩, outcome, last, ⟨signed, middle, hsigned, hsubmitted⟩, ⟨⟩⟩
    exact ⟨signed, middle, outcome, hsigned, hsubmitted, rfl⟩
  · rintro ⟨signed, middle, outcome, hsigned, hsubmitted, rfl⟩
    exact ⟨_, _, rfl, outcome, s', ⟨signed, middle, hsigned, hsubmitted⟩, rfl⟩

/-- A request that is live is executed under the next attempt of the factory. -/
theorem executeWithAttempt_eq_ok_iff {sha256 : String → String} {sink : VenueSink σ}
    {request : ExecutionRequest} {plan : ExecutionPlan} {factory factory' : ExecutionAttemptFactory}
    {attempt : ExecutionAttempt} {attemptContext : ExecutionAttemptContext}
    {record : ExecutionAttemptRecord} {state : ExecutionAttemptFactory × σ}
    (hlive : request.activationMode = .live)
    (hissued : factory.nextForPlan sha256 plan request .live = ((attempt, attemptContext), factory')) :
    exec (ExecutionOrchestrator.executeWithAttempt sha256 sink
        { request, executionMode := .live, plan }) (factory, s) = (.ok record, state) ↔
      ∃ receipt last, exec (sink plan attemptContext) s = (.ok receipt, last) ∧
        record = { attempt, attemptContext, receipt } ∧ state = (factory', last) := by
  have hplan : ExecutionOrchestrator.checkPlan { request, executionMode := .live, plan } = .ok plan := by
    simp [ExecutionOrchestrator.checkPlan, hlive]
  simp only [ExecutionOrchestrator.executeWithAttempt, hplan, exec_bind, exec_lift, exec_get,
    exec_set, exec_focus]
  rw [hissued]
  rcases exec (sink plan attemptContext) s with ⟨_ | receipt, last⟩
  · simp
  · constructor
    · rintro ⟨⟩
      exact ⟨receipt, last, rfl, rfl, rfl⟩
    · rintro ⟨_, _, ⟨⟩, rfl, rfl⟩
      rfl

/-- The attempt of an execution is made for the snapshot of its request. -/
theorem snapshotId_executeWithAttempt {sha256 : String → String} {sink : VenueSink σ}
    {input : ExecutionPlanningInput} {record : ExecutionAttemptRecord}
    {state state' : ExecutionAttemptFactory × σ}
    (h : exec (ExecutionOrchestrator.executeWithAttempt sha256 sink input) state =
      (.ok record, state')) :
    record.attempt.snapshotId = input.request.snapshotId := by
  obtain ⟨plan, -, h⟩ := exec_lift_bind_eq_ok.mp h
  obtain ⟨_, _, hget, h⟩ := exec_bind_eq_ok.mp h
  cases hget
  obtain ⟨_, _, hset, h⟩ := exec_bind_eq_ok.mp h
  cases hset
  obtain ⟨receipt, last, -, h⟩ := exec_bind_eq_ok.mp h
  cases h
  rfl

end Family

end AxiomArb.Execution
