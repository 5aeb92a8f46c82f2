import AxiomArb.AppLive.Queues
import AxiomArb.Library.Command
import AxiomArb.Risk.Activation

/-!
# Live submission of neg-risk families

The loop that submits the eligible families to the venue, in the order of their
keys and up to the first failure, and the persistence of what was submitted.

## Honest boundary

* The venue is any function of the calls made so far.
* JSON values are carried as text, except for the payload of a submission row.
-/

namespace AxiomArb.AppLive

open Domain Library Risk

structure NegRiskLiveArtifact where
  stream : String
  payload : String
deriving DecidableEq, Repr

structure NegRiskLiveExecutionRecord where
  attemptId : String
  planId : String
  snapshotId : String
  executionMode : ExecutionMode
  attemptNo : Nat
  idempotencyKey : String
  route : String
  scope : String
  matchedRuleId : Option String
  submissionRef : Option String
  pendingRef : Option String
  artifacts : List NegRiskLiveArtifact
  orderRequests : List String
deriving DecidableEq, Repr

/-- The reference a submission is known by: its own, or that of its pending work. -/
def NegRiskLiveExecutionRecord.reference (record : NegRiskLiveExecutionRecord) : Option String :=
  record.submissionRef <|> record.pendingRef

inductive NegRiskLiveError where
  | planning (reason : String)
  | signingHook (reason : String)
  | sink (reason : String)
deriving DecidableEq, Repr

def NegRiskLiveError.toString : NegRiskLiveError → String
  | planning reason | signingHook reason | sink reason => reason

/-! ## The venue -/

abbrev LiveAnswer := Except NegRiskLiveError NegRiskLiveExecutionRecord

/-- A call to the venue for the target filed under `familyId`, and its answer. -/
structure LiveCall where
  familyId : String
  snapshotId : String
  target : NegRiskFamilyLiveTarget
  matchedRuleId : String
  answer : LiveAnswer

/-- What the venue answers, after the calls made so far. -/
structure NegRiskLiveExecutionBackend where
  executeLiveFamily (calls : List LiveCall) (snapshotId : String)
    (target : NegRiskFamilyLiveTarget) (matchedRuleId : String) : LiveAnswer

/-- The families and their targets, in key order. -/
abbrev Families := List (String × NegRiskFamilyLiveTarget)

def liveRule (familyId : String) : RolloutRule :=
  { route := ROUTE, scope := familyId, mode := .live, ruleId := s!"{familyId}-live" }

def liveTargetsPolicy (approvedFamilies : BTreeSet String) : ActivationPolicy :=
  .fromRules "phase3b-live-targets" (approvedFamilies.toList.map liveRule)

section Submit

variable (backend : NegRiskLiveExecutionBackend) (policy : ActivationPolicy) (snapshotId : String)

/-- Submit one family.  The call is made whatever the answer is. -/
def callVenue (familyId : String) (target : NegRiskFamilyLiveTarget) (matchedRuleId : String) :
    Command NegRiskLiveError (List LiveCall) NegRiskLiveExecutionRecord := do
  let calls ← get
  let answer := backend.executeLiveFamily calls snapshotId target matchedRuleId
  let call : LiveCall := { familyId, snapshotId, target, matchedRuleId, answer }
  set (calls ++ [call])
  liftM answer

def liveRecords (readyFamilies : BTreeSet String) :
    Families → Command NegRiskLiveError (List LiveCall) (List NegRiskLiveExecutionRecord)
  | [] => return []
  | (familyId, target) :: families =>
      let activation := policy.activationFor ROUTE familyId snapshotId
      let intent : IntentCandidate :=
        { intentId := s!"negrisk-live-intent:{snapshotId}:{familyId}"
          sourceSnapshotId := snapshotId
          route := ROUTE
          scope := familyId }
      if familyId ∉ readyFamilies then
        liveRecords readyFamilies families
      else if evaluateDecision (.strategy intent) activation ≠ .approved then
        liveRecords readyFamilies families
      else do
        let record ← callVenue backend snapshotId familyId target
          (activation.matchedRuleId.getD "phase3b-negrisk-live")
        let records ← liveRecords readyFamilies families
        return record :: records

end Submit

def eligibleLiveRecordsWithBackend (snapshotId : String)
    (targets : BTreeMap String NegRiskFamilyLiveTarget)
    (approvedFamilies readyFamilies : BTreeSet String) (backend : NegRiskLiveExecutionBackend) :
    Command NegRiskLiveError (List LiveCall) (List NegRiskLiveExecutionRecord) :=
  liveRecords backend (liveTargetsPolicy approvedFamilies) snapshotId readyFamilies targets.toList

/-! ## What the loop does -/

section Batch

variable (backend : NegRiskLiveExecutionBackend) (snapshotId : String)
  (targets : BTreeMap String NegRiskFamilyLiveTarget) (approvedFamilies readyFamilies : BTreeSet String)

/-- An approval of `default` approves every family. -/
def Approved (familyId : String) : Prop :=
  familyId ∈ approvedFamilies ∨ "default" ∈ approvedFamilies

instance : DecidablePred (Approved approvedFamilies) := fun _ ↦ inferInstanceAs (Decidable (_ ∨ _))

/-- The families that are submitted, in order. -/
def eligible (families : Families) : Families :=
  families.filter fun family ↦ decide (family.1 ∈ readyFamilies ∧ Approved approvedFamilies family.1)

def liveRuleId (familyId : String) : String :=
  if familyId ∈ approvedFamilies then s!"{familyId}-live" else "default-live"

/-- The calls that submit `families`: one for each, up to the first failure. -/
def venueBatch (calls : List LiveCall) : Families → List LiveCall
  | [] => []
  | (familyId, target) :: families =>
      let matchedRuleId := liveRuleId approvedFamilies familyId
      let call : LiveCall :=
        { familyId, snapshotId, target, matchedRuleId
          answer := backend.executeLiveFamily calls snapshotId target matchedRuleId }
      match call.answer with
      | .ok _ => call :: venueBatch (calls ++ [call]) families
      | .error _ => [call]

theorem resolveRule_liveTargetsPolicy (familyId : String) :
    resolveRule (liveTargetsPolicy approvedFamilies).capabilityMatrix ROUTE familyId =
      if familyId ∈ approvedFamilies then some (liveRule familyId)
      else if "default" ∈ approvedFamilies then some (liveRule "default") else none := by
  have hlookup : ∀ scope : String,
      (liveTargetsPolicy approvedFamilies).capabilityMatrix[({ route := ROUTE, scope } : RouteScope)]? =
        if scope ∈ approvedFamilies then some (liveRule scope) else none := by
    intro scope
    have hkey : Function.Injective (RolloutRule.routeScope ∘ liveRule) := by
      intro a b h
      exact congrArg RouteScope.scope h
    have hnodup : approvedFamilies.toList.Nodup :=
      Std.ExtTreeSet.distinct_toList.imp fun hne heq ↦ hne (by simp [heq])
    have h := BTreeMap.lookup_byKey_map hkey hnodup scope
    simp only [Std.ExtTreeSet.mem_toList] at h
    exact h
  unfold resolveRule
  rw [hlookup, hlookup]
  by_cases hfamily : familyId ∈ approvedFamilies <;> simp [hfamily]

/-- A family is approved for submission exactly when its family or `default` is. -/
theorem evaluateDecision_liveTargetsPolicy {intent : IntentCandidate} {familyId : String} :
    evaluateDecision (.strategy intent)
        ((liveTargetsPolicy approvedFamilies).activationFor ROUTE familyId snapshotId) = .approved ↔
      Approved approvedFamilies familyId := by
  have hmode : ∀ mode, (liveTargetsPolicy approvedFamilies).clampMode ROUTE mode = mode :=
    fun _ ↦ rfl
  rw [evaluateDecision_strategy, mode_activationFor_of_no_overlay rfl, hmode,
    resolveRule_liveTargetsPolicy, Approved]
  by_cases hfamily : familyId ∈ approvedFamilies
  · simp [hfamily, liveRule]
  · by_cases hdefault : "default" ∈ approvedFamilies <;> simp [hfamily, hdefault, liveRule]

theorem liveRuleId_liveTargetsPolicy {familyId : String} (h : Approved approvedFamilies familyId) :
    ((liveTargetsPolicy approvedFamilies).activationFor ROUTE familyId snapshotId
      ).matchedRuleId.getD "phase3b-negrisk-live" = liveRuleId approvedFamilies familyId := by
  have hoverlay : (liveTargetsPolicy approvedFamilies).overlays = ∅ := rfl
  simp only [ActivationPolicy.activationFor, hoverlay, resolveRule_liveTargetsPolicy, liveRuleId]
  by_cases hfamily : familyId ∈ approvedFamilies
  · simp [hfamily, liveRule]
  · have hdefault : "default" ∈ approvedFamilies := h.resolve_left hfamily
    simp only [if_neg hfamily, if_pos hdefault]
    rfl

variable {backend snapshotId targets approvedFamilies readyFamilies}

section Eligible

variable {family : String × NegRiskFamilyLiveTarget} {families : Families}

theorem eligible_cons_of_pos (h : family.1 ∈ readyFamilies ∧ Approved approvedFamilies family.1) :
    eligible approvedFamilies readyFamilies (family :: families) =
      family :: eligible approvedFamilies readyFamilies families :=
  List.filter_cons_of_pos (decide_eq_true h)

theorem eligible_cons_of_neg (h : ¬ (family.1 ∈ readyFamilies ∧ Approved approvedFamilies family.1)) :
    eligible approvedFamilies readyFamilies (family :: families) =
      eligible approvedFamilies readyFamilies families :=
  List.filter_cons_of_neg (by simpa using h)

end Eligible

theorem exec_callVenue (calls : List LiveCall) (familyId : String)
    (target : NegRiskFamilyLiveTarget) (matchedRuleId : String) :
    exec (callVenue backend snapshotId familyId target matchedRuleId) calls =
      (backend.executeLiveFamily calls snapshotId target matchedRuleId,
        calls ++ [
          { familyId, snapshotId, target, matchedRuleId
            answer := backend.executeLiveFamily calls snapshotId target matchedRuleId }]) := by
  simp [callVenue, exec_bind]

theorem liveRecords_skip {familyId : String} {target : NegRiskFamilyLiveTarget} {families : Families}
    (h : ¬ (familyId ∈ readyFamilies ∧ Approved approvedFamilies familyId)) :
    liveRecords backend (liveTargetsPolicy approvedFamilies) snapshotId readyFamilies
        ((familyId, target) :: families) =
      liveRecords backend (liveTargetsPolicy approvedFamilies) snapshotId readyFamilies families := by
  rw [liveRecords]
  by_cases hready : familyId ∈ readyFamilies
  · have hrejected : ¬ Approved approvedFamilies familyId := fun happroved ↦ h ⟨hready, happroved⟩
    rw [if_neg (not_not.mpr hready), if_pos (by rwa [Ne, evaluateDecision_liveTargetsPolicy])]
  · rw [if_pos hready]

theorem liveRecords_submit {familyId : String} {target : NegRiskFamilyLiveTarget} {families : Families}
    (hready : familyId ∈ readyFamilies) (happroved : Approved approvedFamilies familyId) :
    liveRecords backend (liveTargetsPolicy approvedFamilies) snapshotId readyFamilies
        ((familyId, target) :: families) =
      (do
        let record ← callVenue backend snapshotId familyId target
          (liveRuleId approvedFamilies familyId)
        let records ←
          liveRecords backend (liveTargetsPolicy approvedFamilies) snapshotId readyFamilies families
        return record :: records) := by
  rw [liveRecords, if_neg (not_not.mpr hready),
    if_neg (by rw [Ne, not_not, evaluateDecision_liveTargetsPolicy]; exact happroved),
    liveRuleId_liveTargetsPolicy _ _ happroved]

/-- The loop submits the eligible families and stops at the first failure; its
outcome is the answers, or the failure. -/
theorem exec_liveRecords (families : Families) (calls : List LiveCall) :
    exec (liveRecords backend (liveTargetsPolicy approvedFamilies) snapshotId readyFamilies families)
        calls =
      ((venueBatch backend snapshotId approvedFamilies calls
          (eligible approvedFamilies readyFamilies families)).mapM LiveCall.answer,
        calls ++ venueBatch backend snapshotId approvedFamilies calls
          (eligible approvedFamilies readyFamilies families)) := by
  induction families generalizing calls with
  | nil =>
      simp only [eligible, List.filter_nil, venueBatch, List.append_nil]
      rfl
  | cons family families ih =>
      obtain ⟨familyId, target⟩ := family
      by_cases h : familyId ∈ readyFamilies ∧ Approved approvedFamilies familyId
      · rw [liveRecords_submit h.1 h.2, eligible_cons_of_pos h]
        simp only [venueBatch, exec_bind, exec_callVenue]
        cases hanswer : backend.executeLiveFamily calls snapshotId target
            (liveRuleId approvedFamilies familyId) with
        | error error =>
            simp
        | ok record =>
            simp only [ih, List.append_assoc, List.singleton_append, List.mapM_cons]
            generalize List.mapM LiveCall.answer _ = outcome
            cases outcome <;> rfl
      · rw [liveRecords_skip h, eligible_cons_of_neg h]
        exact ih calls

section Outcome

variable {families : Families} {calls : List LiveCall}

/-- A batch in which no submission fails covers its families, each once and in order. -/
theorem familyIds_venueBatch
    (h : ∀ call ∈ venueBatch backend snapshotId approvedFamilies calls families,
      ∃ record, call.answer = .ok record) :
    (venueBatch backend snapshotId approvedFamilies calls families).map LiveCall.familyId =
      families.map Prod.fst := by
  induction families generalizing calls with
  | nil => rfl
  | cons family families ih =>
      obtain ⟨familyId, target⟩ := family
      simp only [venueBatch] at h ⊢
      cases hanswer : backend.executeLiveFamily calls snapshotId target
          (liveRuleId approvedFamilies familyId) with
      | error error => simp [hanswer] at h
      | ok record =>
          simp only [hanswer, List.mem_cons, forall_eq_or_imp] at h ⊢
          simpa using ih h.2

/-- A venue that fails no submission answers every call of a batch. -/
theorem answers_venueBatch
    (htakes : ∀ calls snapshotId target matchedRuleId, ∃ record,
      backend.executeLiveFamily calls snapshotId target matchedRuleId = .ok record) :
    ∀ call ∈ venueBatch backend snapshotId approvedFamilies calls families,
      ∃ record, call.answer = .ok record := by
  induction families generalizing calls with
  | nil => simp [venueBatch]
  | cons family families ih =>
      obtain ⟨familyId, target⟩ := family
      obtain ⟨record, hanswer⟩ := htakes calls snapshotId target (liveRuleId approvedFamilies familyId)
      simp only [venueBatch, hanswer, List.mem_cons, forall_eq_or_imp]
      exact ⟨⟨record, rfl⟩, ih⟩

/-- A batch gets to the families before which none failed. -/
theorem mem_familyIds_venueBatch_iff {familyId : String} :
    familyId ∈ (venueBatch backend snapshotId approvedFamilies calls families).map LiveCall.familyId ↔
      ∃ earlier target later, families = earlier ++ (familyId, target) :: later ∧
        ∀ call ∈ venueBatch backend snapshotId approvedFamilies calls earlier,
          ∃ record, call.answer = .ok record := by
  induction families generalizing calls with
  | nil => simp [venueBatch]
  | cons family families ih =>
      obtain ⟨firstId, first⟩ := family
      simp only [venueBatch]
      cases hanswer : backend.executeLiveFamily calls snapshotId first
          (liveRuleId approvedFamilies firstId) with
      | error error =>
          simp only [List.map_cons, List.map_nil, List.mem_singleton]
          constructor
          · rintro rfl
            exact ⟨[], first, families, rfl, by simp [venueBatch]⟩
          · rintro ⟨earlier, target, later, hsplit, htaken⟩
            cases earlier with
            | nil => exact (congrArg Prod.fst (List.cons.inj hsplit).1).symm
            | cons family earlier =>
                obtain ⟨rfl, -⟩ := List.cons.inj hsplit
                simp [venueBatch, hanswer] at htaken
      | ok record =>
          simp only [List.map_cons, List.mem_cons, ih]
          constructor
          · rintro (rfl | ⟨earlier, target, later, rfl, htaken⟩)
            · exact ⟨[], first, families, rfl, by simp [venueBatch]⟩
            · refine ⟨(firstId, first) :: earlier, target, later, rfl, ?_⟩
              simpa [venueBatch, hanswer] using htaken
          · rintro ⟨earlier, target, later, hsplit, htaken⟩
            cases earlier with
            | nil => exact .inl (congrArg Prod.fst (List.cons.inj hsplit).1).symm
            | cons family earlier =>
                obtain ⟨rfl, rfl⟩ := List.cons.inj hsplit
                refine .inr ⟨earlier, target, later, rfl, ?_⟩
                simpa [venueBatch, hanswer] using htaken

end Outcome

/-- The families of the targets are submitted under different keys. -/
theorem nodup_eligible :
    ((eligible approvedFamilies readyFamilies targets.toList).map Prod.fst).Nodup := by
  have hkeys : (targets.toList.map Prod.fst).Nodup := by
    rw [Std.ExtTreeMap.map_fst_toList_eq_keys]
    exact Std.ExtTreeMap.nodup_keys
  exact hkeys.sublist (List.filter_sublist.map Prod.fst)

end Batch

/-! ## Persistence -/

structure ExecutionAttemptRow where
  attemptId : String
  planId : String
  snapshotId : String
  route : String
  scope : String
  matchedRuleId : Option String
  executionMode : ExecutionMode
  attemptNo : Nat
  idempotencyKey : String
  runSessionId : Option String
deriving DecidableEq, Repr

structure LiveSubmissionPayload where
  submissionRef : String
  familyId : String
  route : String
  reason : String
  requests : List String
deriving DecidableEq, Repr

structure LiveSubmissionRecordRow where
  submissionRef : String
  attemptId : String
  route : String
  scope : String
  provider : String
  state : String
  payload : LiveSubmissionPayload
deriving DecidableEq, Repr

/-- The two rows that are appended for a submission. -/
structure LiveSubmissionEntry where
  attempt : ExecutionAttemptRow
  submission : LiveSubmissionRecordRow
deriving DecidableEq, Repr

/-- How the database answers, after the entries appended so far. -/
structure LiveDatabase where
  connect (entries : List LiveSubmissionEntry) : Except String Unit
  append (entries : List LiveSubmissionEntry) (entry : LiveSubmissionEntry) : Except String Unit

namespace NegRiskLiveExecutionRecord

variable (record : NegRiskLiveExecutionRecord) (runSessionId : Option String)

/-- The attempt number is kept in an `i32` column. -/
def executionAttemptRow : Except String ExecutionAttemptRow :=
  if record.attemptNo ≤ 2147483647 then
    .ok
      { attemptId := record.attemptId
        planId := record.planId
        snapshotId := record.snapshotId
        route := record.route
        scope := record.scope
        matchedRuleId := record.matchedRuleId
        executionMode := record.executionMode
        attemptNo := record.attemptNo
        idempotencyKey := record.idempotencyKey
        runSessionId }
  else
    .error s!"live attempt {record.attemptId} attempt_no {record.attemptNo} does not fit in i32"

def liveSubmissionRow (submissionRef : String) : LiveSubmissionRecordRow :=
  { submissionRef
    attemptId := record.attemptId
    route := record.route
    scope := record.scope
    provider := "venue-polymarket"
    state := if record.pendingRef.isSome then "pending_reconcile" else "submitted"
    payload :=
      { submissionRef
        familyId := record.scope
        route := record.route
        reason := "submitted_for_execution"
        requests := record.orderRequests } }

def liveSubmissionEntry : Except String LiveSubmissionEntry :=
  match record.reference with
  | none => .error s!"missing durable live submission ref for attempt {record.attemptId}"
  | some submissionRef => do
      let attempt ← record.executionAttemptRow runSessionId
      return { attempt, submission := record.liveSubmissionRow submissionRef }

end NegRiskLiveExecutionRecord

/-- Append the rows of each record.  The rows appended before a failure stay. -/
def appendLiveRecords (database : LiveDatabase) (runSessionId : Option String) :
    List NegRiskLiveExecutionRecord → Command String (List LiveSubmissionEntry) Unit
  | [] => return
  | record :: records => do
      let entry ← liftM (record.liveSubmissionEntry runSessionId)
      let entries ← get
      liftM (database.append entries entry)
      set (entries ++ [entry])
      appendLiveRecords database runSessionId records

def persistLiveExecutionRecords (database : LiveDatabase)
    (records : List NegRiskLiveExecutionRecord) (runSessionId : Option String) :
    Command String (List LiveSubmissionEntry) Unit := do
  liftM (database.connect (← get))
  appendLiveRecords database runSessionId records

end AxiomArb.AppLive
