import AxiomArb.Execution.PlanIdentity
import AxiomArb.Library.Numbering

/-!
# Attempts of one factory

A factory numbers the attempts of each request-bound plan id on from its seed.  However the
calls mix requests and plans, no two attempts share an id.  The numbers are those of the
source's counters below their limit.
-/

namespace AxiomArb.Execution

open Domain Library

namespace ExecutionAttemptFactory

def new : ExecutionAttemptFactory := { nextAttemptNoByPlan := ∅ }

def withSeededAttemptNumbers (nextAttemptNoByPlan : BTreeMap String Nat) :
    ExecutionAttemptFactory := { nextAttemptNoByPlan }

/-- What `next_for_plan` is called with. -/
structure AttemptCall where
  plan : ExecutionPlan
  request : ExecutionRequest
  executionMode : ExecutionMode

namespace AttemptCall

/-- The id that the factory counts the call under. -/
def planId (call : AttemptCall) : String := requestBoundPlanId call.plan call.request

end AttemptCall

/-- The attempts that a factory gives to calls that come one after another. -/
def attempts (sha256 : String → String) : ExecutionAttemptFactory → List AttemptCall →
    List (AttemptCall × ExecutionAttempt × ExecutionAttemptContext)
  | _, [] => []
  | factory, call :: calls =>
      let (issued, factory') :=
        factory.nextForPlan sha256 call.plan call.request call.executionMode
      (call, issued) :: attempts sha256 factory' calls

section Run

variable (sha256 : String → String)

/-- The attempts are those of the calls, numbered by what they are counted under. -/
theorem attempts_eq_numbered (factory : ExecutionAttemptFactory) (calls : List AttemptCall) :
    (factory.attempts sha256 calls).map (fun issued ↦ (issued.1, issued.2.1.attemptNo)) =
      numbered AttemptCall.planId factory.nextAttemptNoByPlan calls := by
  induction calls generalizing factory with
  | nil => exact rfl
  | cons call calls ih => exact congrArg (_ :: ·) (ih _)

/-- Each attempt has the id that its plan id and its number give, and so has its context. -/
theorem attemptId_of_mem_attempts {factory : ExecutionAttemptFactory} {calls : List AttemptCall}
    {issued : AttemptCall × ExecutionAttempt × ExecutionAttemptContext}
    (h : issued ∈ factory.attempts sha256 calls) :
    issued.2.1.attemptId = attemptIdForPlanId sha256 issued.1.planId issued.2.1.attemptNo ∧
      issued.2.2.attemptId = issued.2.1.attemptId ∧ issued.2.1.planId = issued.1.planId := by
  induction calls generalizing factory with
  | nil => cases h
  | cons call calls ih =>
      rcases List.mem_cons.mp h with rfl | h
      · exact ⟨rfl, rfl, rfl⟩
      · exact ih h

end Run

variable {sha256 : String → String}

theorem nodup_attemptIds (hsha : Function.Injective sha256) (factory : ExecutionAttemptFactory)
    (calls : List AttemptCall) :
    ((factory.attempts sha256 calls).map fun issued ↦ issued.2.1.attemptId).Nodup := by
  have hids : (factory.attempts sha256 calls).map (fun issued ↦ issued.2.1.attemptId) =
      ((numbered AttemptCall.planId factory.nextAttemptNoByPlan calls).map
        fun entry ↦ (entry.1.planId, entry.2)).map
          fun entry ↦ attemptIdForPlanId sha256 entry.1 entry.2 := by
    rw [← attempts_eq_numbered sha256, List.map_map, List.map_map]
    exact List.map_congr_left fun issued hissued ↦ (attemptId_of_mem_attempts sha256 hissued).1
  rw [hids]
  refine (nodup_numbered _ _ _).map fun entry entry' h ↦ ?_
  obtain ⟨hplan, hnumber⟩ := ExecutionPlan.attemptIdForPlanId_inj hsha h
  exact Prod.ext hplan hnumber

/-- The numbers of the attempts of a request and a plan, in the order of the calls. -/
def attemptNumbers (sha256 : String → String) (factory : ExecutionAttemptFactory)
    (calls : List AttemptCall) (requestId planId : String) : List Nat :=
  ((factory.attempts sha256 calls).filter fun issued ↦
    issued.1.request.requestId = requestId ∧ issued.1.plan.planId = planId).map
      fun issued ↦ issued.2.1.attemptNo

theorem attemptNumbers_eq (factory : ExecutionAttemptFactory) (calls : List AttemptCall)
    (plan : ExecutionPlan) (request : ExecutionRequest) :
    factory.attemptNumbers sha256 calls request.requestId plan.planId =
      List.range' (lastNumber factory.nextAttemptNoByPlan (requestBoundPlanId plan request) + 1)
        (calls.countP fun call ↦
          call.request.requestId = request.requestId ∧ call.plan.planId = plan.planId) := by
  have hkey : ∀ call : AttemptCall, call.planId = requestBoundPlanId plan request ↔
      call.request.requestId = request.requestId ∧ call.plan.planId = plan.planId :=
    fun call ↦ ExecutionPlan.requestBoundPlanId_eq_iff
  simp only [← hkey, attemptNumbers]
  rw [← numbers_of_key, ← attempts_eq_numbered sha256, List.filter_map, List.map_map]
  rfl

/-- The ids of a factory's attempts are distinct, the attempts of a request and a plan are
numbered on from the seed, and a plan is bound to each request by an id of its own. -/
theorem attempts_identity (hsha : Function.Injective sha256) (factory : ExecutionAttemptFactory)
    (calls : List AttemptCall) :
    ((factory.attempts sha256 calls).map fun issued ↦ issued.2.1.attemptId).Nodup ∧
      (∀ (plan : ExecutionPlan) (request : ExecutionRequest),
        factory.attemptNumbers sha256 calls request.requestId plan.planId =
          List.range'
            (factory.nextAttemptNoByPlan[requestBoundPlanId plan request]?.getD 0 + 1)
            (calls.countP fun call ↦
              call.request.requestId = request.requestId ∧ call.plan.planId = plan.planId)) ∧
      ∀ (plan : ExecutionPlan) (request request' : ExecutionRequest),
        requestBoundPlanId plan request = requestBoundPlanId plan request' ↔
          request.requestId = request'.requestId := by
  refine ⟨nodup_attemptIds hsha _ calls, attemptNumbers_eq _ calls, fun plan request request' ↦ ?_⟩
  rw [ExecutionPlan.requestBoundPlanId_eq_iff]
  exact and_iff_left rfl

/-! ### Samples -/

section Samples

open ExecutionPlan

/-- Four attempts of the first request were counted before. -/
def sampleSeeds : BTreeMap String Nat :=
  Std.ExtTreeMap.insert ∅ (requestBoundPlanId samplePlan sampleRequest) 4

def sampleCalls : List AttemptCall :=
  [{ plan := samplePlan, request := sampleRequest, executionMode := .live },
    { plan := samplePlan
      request := { sampleRequest with requestId := "request-2" }
      executionMode := .live },
    { plan := samplePlan, request := sampleRequest, executionMode := .live }]

theorem sampleCalls_identity :
    (((withSeededAttemptNumbers sampleSeeds).attempts sampleSha256 sampleCalls).map
        fun issued ↦ issued.2.1.attemptId).Nodup ∧
      (withSeededAttemptNumbers sampleSeeds).attemptNumbers sampleSha256 sampleCalls
        sampleRequest.requestId samplePlan.planId = [5, 6] := by
  obtain ⟨hnodup, hnumbers, -⟩ := attempts_identity sampleSha256_injective
    (withSeededAttemptNumbers sampleSeeds) sampleCalls
  refine ⟨hnodup, (hnumbers samplePlan sampleRequest).trans ?_⟩
  have hseed : sampleSeeds[requestBoundPlanId samplePlan sampleRequest]? = some 4 :=
    Std.ExtTreeMap.getElem?_insert_self
  have hcount : sampleCalls.countP (fun call ↦ call.request.requestId = sampleRequest.requestId ∧
      call.plan.planId = samplePlan.planId) = 2 := by
    simp [sampleCalls, sampleRequest]
  rw [withSeededAttemptNumbers, hseed, hcount]
  rfl

end Samples

end ExecutionAttemptFactory

end AxiomArb.Execution
