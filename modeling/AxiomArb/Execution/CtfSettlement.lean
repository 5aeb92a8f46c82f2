import AxiomArb.Execution.CtfTracking

/-!
# Settled operations

The only status an operation cannot go back to is `planned`.  A settled operation stays as
it is for as long as no accepted `updateStatus` names it with something else: the tracker
itself keeps neither a settled status nor the hash of a confirmed operation.
-/

namespace AxiomArb.Execution

open Domain Library

/-- The statuses with no further progress to make. -/
def CtfOperationStatus.Settled (status : CtfOperationStatus) : Prop :=
  status = .confirmed ∨ status = .failed

namespace CtfTracker

variable {tracker tracker' : CtfTracker} {operationId : CtfOperationId} {operation : CtfOperation}
  {status : CtfOperationStatus} {txHash : Option String} {call : CtfCall}

/-- The call succeeds. -/
def Accepts (tracker : CtfTracker) (call : CtfCall) : Prop :=
  (exec (perform call) tracker).1.isOk

/-- The call gives the operation another status. -/
def Restates (operationId : CtfOperationId) (current : CtfOperationStatus) (tracker : CtfTracker)
    (call : CtfCall) : Prop :=
  ∃ status txHash, call = .updateStatus operationId status txHash ∧ tracker.Accepts call ∧
    status ≠ current

/-- The call gives the operation another hash. -/
def Rehashes (operationId : CtfOperationId) (current : String) (tracker : CtfTracker)
    (call : CtfCall) : Prop :=
  ∃ status txHash, call = .updateStatus operationId status (some txHash) ∧ tracker.Accepts call ∧
    txHash ≠ current

/-! ## One call -/

theorem accepts_iff :
    tracker.Accepts call ↔ ∃ outcome tracker', exec (perform call) tracker = (.ok outcome, tracker') := by
  rw [Accepts]
  rcases exec (perform call) tracker with ⟨_ | outcome, tracker'⟩
  · simp [Except.isOk, Except.toBool]
  · simp [Except.isOk, Except.toBool]

theorem exec_updateStatus_eq_ok
    (h : exec (updateStatus operationId status txHash) tracker = (.ok ⟨⟩, tracker')) :
    ∃ operation, tracker.operation operationId = some operation ∧
      (operation.status ≠ .planned → status ≠ .planned) ∧
      tracker' = insertOperation operationId
        { operation with status, txHash := txHash.or operation.txHash } tracker := by
  simp only [updateStatus, exec_bind, exec_get] at h
  cases hoperation : tracker.operations[operationId]? with
  | none =>
      rw [hoperation] at h
      cases h
  | some operation =>
      rw [hoperation] at h
      obtain ⟨_, htransition, h⟩ := exec_lift_bind_eq_ok.mp h
      obtain ⟨_, -, h⟩ := exec_lift_bind_eq_ok.mp h
      refine ⟨operation, hoperation, ?_, (congrArg Prod.snd h).symm⟩
      intro hleft hplanned
      rw [validateTransition, if_pos ⟨hplanned, hleft⟩] at htransition
      cases htransition

theorem exec_attachRelayerMetadata_eq_ok {relayerTransactionId nonce : Option String}
    (h : exec (attachRelayerMetadata operationId relayerTransactionId nonce) tracker =
      (.ok ⟨⟩, tracker')) :
    ∃ operation, tracker.operation operationId = some operation ∧
      tracker' = insertOperation operationId
        (operation.bindRelayerMetadata relayerTransactionId nonce)
        (indexRelayerId relayerTransactionId operationId tracker) := by
  simp only [attachRelayerMetadata, exec_bind, exec_get] at h
  cases hoperation : tracker.operations[operationId]? with
  | none =>
      rw [hoperation] at h
      cases h
  | some operation =>
      rw [hoperation] at h
      dsimp only at h
      split at h
      · cases h
      · obtain ⟨_, -, h⟩ := exec_lift_bind_eq_ok.mp h
        obtain ⟨_, -, h⟩ := exec_lift_bind_eq_ok.mp h
        obtain ⟨_, -, h⟩ := exec_lift_bind_eq_ok.mp h
        exact ⟨operation, hoperation, (congrArg Prod.snd h).symm⟩

theorem step_of_not_accepted (h : tracker.Consistent) (hfails : ¬ tracker.Accepts call) :
    tracker.step call = tracker := by
  rcases exec_perform_cases h call with ⟨error, heq⟩ | ⟨_, _, heq, -⟩ | ⟨_, _, _, heq, -⟩
  · rw [step, heq]
  · exact absurd (accepts_iff.mpr ⟨_, _, heq⟩) hfails
  · exact absurd (accepts_iff.mpr ⟨_, _, heq⟩) hfails

theorem lookup_insertOperation (id : CtfOperationId) :
    (insertOperation operationId operation tracker).operation id =
      if operationId = id then some operation else tracker.operation id :=
  BTreeMap.lookup_insert

/-- What a call makes of the status and the hash of an operation there is. -/
theorem step_operation (h : tracker.Consistent)
    (hoperation : tracker.operation operationId = some operation) (call : CtfCall) :
    ∃ operation', (tracker.step call).operation operationId = some operation' ∧
      ((operation'.status = operation.status ∧ operation'.txHash = operation.txHash ∧
          ∀ status txHash, call = .updateStatus operationId status txHash → ¬ tracker.Accepts call) ∨
        ∃ status txHash, call = .updateStatus operationId status txHash ∧ tracker.Accepts call ∧
          operation'.status = status ∧ operation'.txHash = txHash.or operation.txHash ∧
          (operation.status ≠ .planned → status ≠ .planned)) := by
  by_cases haccepts : tracker.Accepts call
  swap
  · rw [step_of_not_accepted h haccepts]
    exact ⟨operation, hoperation, .inl ⟨rfl, rfl, fun _ _ _ ↦ haccepts⟩⟩
  obtain ⟨outcome, tracker', heq⟩ := accepts_iff.mp haccepts
  have hstep : tracker.step call = tracker' := congrArg Prod.snd heq
  rw [hstep]
  cases call with
  | record recorded =>
      obtain ⟨id, written, hrecord, hreturn⟩ := exec_bind_eq_ok.mp heq
      obtain rfl : written = tracker' := congrArg Prod.snd hreturn
      refine ⟨operation, ?_, .inl ⟨rfl, rfl, fun _ _ hcall ↦ by cases hcall⟩⟩
      rcases exec_record_cases h recorded with ⟨error, hfails⟩ | ⟨tracker', hwritten, hwrites, -⟩
      · rw [hfails] at hrecord
        cases hrecord
      · obtain rfl : tracker' = written :=
          congrArg Prod.snd (hwritten.symm.trans hrecord)
        have hnew : tracker.nextOperationId ≠ operationId := by
          rintro rfl
          exact lt_irrefl _ ((h.issued _).mpr (Option.isSome_of_mem hoperation))
        rw [lookup_of_writes hwrites, if_neg hnew, hoperation]
  | attachRelayerMetadata id relayerTransactionId nonce =>
      obtain ⟨_, written, hattach, hreturn⟩ := exec_bind_eq_ok.mp heq
      obtain rfl : written = tracker' := congrArg Prod.snd hreturn
      obtain ⟨bound, hbound, rfl⟩ := exec_attachRelayerMetadata_eq_ok hattach
      rw [lookup_insertOperation, CtfTracker.operation, operations_indexRelayerId]
      by_cases hid : id = operationId
      · subst hid
        obtain rfl : bound = operation := Option.some.inj (hbound.symm.trans hoperation)
        exact ⟨_, if_pos rfl, .inl ⟨rfl, rfl, fun _ _ hcall ↦ by cases hcall⟩⟩
      · exact ⟨operation, (if_neg hid).trans hoperation,
          .inl ⟨rfl, rfl, fun _ _ hcall ↦ by cases hcall⟩⟩
  | updateStatus id status txHash =>
      obtain ⟨_, written, hupdate, hreturn⟩ := exec_bind_eq_ok.mp heq
      obtain rfl : written = tracker' := congrArg Prod.snd hreturn
      obtain ⟨existing, hexisting, hplanned, rfl⟩ := exec_updateStatus_eq_ok hupdate
      rw [lookup_insertOperation]
      by_cases hid : id = operationId
      · subst hid
        obtain rfl : existing = operation := Option.some.inj (hexisting.symm.trans hoperation)
        exact ⟨_, if_pos rfl, .inr ⟨status, txHash, rfl, haccepts, rfl, rfl, hplanned⟩⟩
      · refine ⟨operation, (if_neg hid).trans hoperation, .inl ⟨rfl, rfl, ?_⟩⟩
        rintro _ _ ⟨⟩
        exact absurd rfl hid

/-! ## Runs -/

/-- The operation is there, and has the property. -/
def Has (operationId : CtfOperationId) (P : CtfOperation → Prop) (tracker : CtfTracker) : Prop :=
  ∃ operation, tracker.operation operationId = some operation ∧ P operation

section Runs

variable (h : tracker.Consistent) (hoperation : tracker.operation operationId = some operation)
  (calls : List CtfCall)
include h hoperation

/-- What every call keeps of an operation, the operation keeps. -/
theorem always_has {P : CtfOperation → Prop} (hfirst : P operation)
    (hkeeps : ∀ (tracker : CtfTracker) current call next, tracker.Consistent →
      tracker.operation operationId = some current → P current →
      (tracker.step call).operation operationId = some next → P next) :
    Always step (Has operationId P) tracker calls := by
  intro pre _
  have hrun : (run step tracker pre).Consistent ∧ (run step tracker pre).Has operationId P := by
    refine run_inv (P := fun tracker ↦ Consistent tracker ∧ Has operationId P tracker) ?_
      ⟨h, operation, hoperation, hfirst⟩
    rintro tracker call ⟨h, current, hcurrent, hP⟩
    obtain ⟨next, hnext, -⟩ := step_operation h hcurrent call
    exact ⟨(step_spec h call).1, next, hnext, hkeeps tracker current call next h hcurrent hP hnext⟩
  exact hrun.2

/-- An operation that has left `planned` never returns to it. -/
theorem always_not_planned (hleft : operation.status ≠ .planned) :
    Always step (Has operationId fun operation ↦ operation.status ≠ .planned) tracker calls := by
  refine always_has h hoperation calls hleft fun tracker current call next h hcurrent hleft hnext ↦ ?_
  obtain ⟨operation', hoperation', hcases⟩ := step_operation h hcurrent call
  obtain rfl : operation' = next := Option.some.inj (hoperation'.symm.trans hnext)
  rcases hcases with ⟨hstatus, -⟩ | ⟨status, _, -, -, hstatus, -, hplanned⟩
  · rwa [hstatus]
  · rw [hstatus]
    exact hplanned hleft

/-- A hash may be replaced, but is not taken away. -/
theorem always_isSome_txHash (hhash : operation.txHash.isSome) :
    Always step (Has operationId fun operation ↦ operation.txHash.isSome) tracker calls := by
  refine always_has h hoperation calls hhash fun tracker current call next h hcurrent hhash hnext ↦ ?_
  obtain ⟨operation', hoperation', hcases⟩ := step_operation h hcurrent call
  obtain rfl : operation' = next := Option.some.inj (hoperation'.symm.trans hnext)
  rcases hcases with ⟨-, htxHash, -⟩ | ⟨_, txHash, -, -, -, htxHash, -⟩
  · rwa [htxHash]
  · rw [htxHash, Option.isSome_or, hhash, Bool.or_true]

/-- The status stays exactly as long as no call changes it. -/
theorem always_status_iff :
    Always step (Has operationId fun later ↦ later.status = operation.status) tracker calls ↔
      Steps step (fun tracker call ↦ ¬ tracker.Restates operationId operation.status call) tracker
        calls := by
  refine always_iff_steps (J := Consistent) (K := fun _ _ ↦ True)
    (fun tracker call h _ ↦ (step_spec h call).1) ?_ h ⟨operation, hoperation, rfl⟩
    (steps_of_forall fun _ _ ↦ trivial)
  rintro tracker call h ⟨current, hcurrent, hstatus⟩ -
  obtain ⟨next, hnext, ⟨hsame, -, hother⟩ | ⟨status, txHash, rfl, haccepts, hnew, -⟩⟩ :=
    step_operation h hcurrent call
  · refine iff_of_true ⟨next, hnext, hsame.trans hstatus⟩ ?_
    rintro ⟨status, txHash, hcall, haccepts, -⟩
    exact hother status txHash hcall haccepts
  · constructor
    · rintro ⟨next', hnext', hkept⟩ ⟨_, _, ⟨⟩, -, hchanged⟩
      obtain rfl : next' = next := Option.some.inj (hnext'.symm.trans hnext)
      exact hchanged (hnew.symm.trans hkept)
    · intro hkept
      refine ⟨next, hnext, hnew.trans ?_⟩
      by_contra hchanged
      exact hkept ⟨status, txHash, rfl, haccepts, hchanged⟩

/-- A hash stays exactly as long as no call replaces it. -/
theorem always_txHash_iff {txHash : String} (hhash : operation.txHash = some txHash) :
    Always step (Has operationId fun later ↦ later.txHash = some txHash) tracker calls ↔
      Steps step (fun tracker call ↦ ¬ tracker.Rehashes operationId txHash call) tracker calls := by
  refine always_iff_steps (J := Consistent) (K := fun _ _ ↦ True)
    (fun tracker call h _ ↦ (step_spec h call).1) ?_ h ⟨operation, hoperation, hhash⟩
    (steps_of_forall fun _ _ ↦ trivial)
  rintro tracker call h ⟨current, hcurrent, hcurrentHash⟩ -
  obtain ⟨next, hnext, ⟨-, hsame, hother⟩ | ⟨status, given, rfl, haccepts, -, hnew, -⟩⟩ :=
    step_operation h hcurrent call
  · refine iff_of_true ⟨next, hnext, hsame.trans hcurrentHash⟩ ?_
    rintro ⟨status, other, hcall, haccepts, -⟩
    exact hother status (some other) hcall haccepts
  · rw [hcurrentHash] at hnew
    constructor
    · rintro ⟨next', hnext', hkept⟩ ⟨_, other, ⟨⟩, -, hchanged⟩
      obtain rfl : next' = next := Option.some.inj (hnext'.symm.trans hnext)
      exact hchanged (Option.some.inj (hnew.symm.trans hkept))
    · intro hkept
      refine ⟨next, hnext, hnew.trans ?_⟩
      cases given with
      | none => rfl
      | some other =>
          by_contra hchanged
          exact hkept ⟨status, other, rfl, haccepts, fun heq ↦ hchanged (congrArg some heq)⟩

end Runs

/-- **What settles for good.**  Once an operation has left `planned` it is never `planned`
again; a confirmed operation has a hash, and a hash is never taken away.  A status, and a
hash, stay exactly as long as no accepted `updateStatus` names the operation with another
one, whatever the status is. -/
theorem settled_while_not_updated (earlier later : List CtfCall) (operationId : CtfOperationId)
    (operation : CtfOperation)
    (hoperation : (run step .new earlier).operation operationId = some operation) :
    (operation.status ≠ .planned →
      Always step (Has operationId fun later ↦ later.status ≠ .planned) (run step .new earlier)
        later) ∧
    (operation.status = .confirmed → operation.txHash.isSome) ∧
    (operation.txHash.isSome →
      Always step (Has operationId fun later ↦ later.txHash.isSome) (run step .new earlier) later) ∧
    (Always step (Has operationId fun later ↦ later.status = operation.status)
        (run step .new earlier) later ↔
      Steps step (fun tracker call ↦ ¬ tracker.Restates operationId operation.status call)
        (run step .new earlier) later) ∧
    ∀ txHash, operation.txHash = some txHash →
      (Always step (Has operationId fun later ↦ later.txHash = some txHash) (run step .new earlier)
          later ↔
        Steps step (fun tracker call ↦ ¬ tracker.Rehashes operationId txHash call)
          (run step .new earlier) later) := by
  have hconsistent := consistent_new.run earlier
  exact ⟨always_not_planned hconsistent hoperation later,
    (hconsistent.documented operationId operation hoperation).txHash,
    always_isSome_txHash hconsistent hoperation later,
    always_status_iff hconsistent hoperation later,
    fun txHash hhash ↦ always_txHash_iff hconsistent hoperation later hhash⟩

/-- A redemption that is submitted, with its relayer's metadata. -/
def submittedRedemption : CtfOperation :=
  .new .redeem "condition-5" (some "relayer-tx-5") (some "nonce-5") .submitted

/-- A redemption is confirmed, and confirmed again. -/
theorem confirmed_redemption_stays :
    Always step (Has 0 fun later ↦ later.status = .confirmed)
      (run step .new [.record submittedRedemption, .updateStatus 0 .confirmed (some "0x1")])
      [.updateStatus 0 .confirmed (some "0x2")] := by
  have hspec := settled_while_not_updated
    [.record submittedRedemption, .updateStatus 0 .confirmed (some "0x1")]
    [.updateStatus 0 .confirmed (some "0x2")] 0
    { submittedRedemption with status := .confirmed, txHash := some "0x1" } (by decide)
  refine hspec.2.2.2.1.mpr ⟨?_, trivial⟩
  rintro ⟨_, _, ⟨⟩, -, hchanged⟩
  exact hchanged rfl

/-- A settled status and the hash of a confirmed operation stay, whatever is called. -/
def SettledForGood : Prop :=
  ∀ (earlier later : List CtfCall) (operationId : CtfOperationId) (operation : CtfOperation),
    (run step .new earlier).operation operationId = some operation →
    (operation.status.Settled →
      Always step (Has operationId fun later ↦ later.status = operation.status)
        (run step .new earlier) later) ∧
    (operation.status = .confirmed → ∀ txHash, operation.txHash = some txHash →
      Always step (Has operationId fun later ↦ later.txHash = some txHash) (run step .new earlier)
        later)

/-- A redemption is confirmed with one hash, and fails with another. -/
theorem confirmed_redemption_fails : ¬ SettledForGood := by
  intro hstays
  obtain ⟨hstatus, -⟩ := hstays
    [.record submittedRedemption, .updateStatus 0 .confirmed (some "0x1")]
    [.updateStatus 0 .failed (some "0x2")] 0
    { submittedRedemption with status := .confirmed, txHash := some "0x1" } (by decide)
  obtain ⟨later, hlater, hkept⟩ := (hstatus (.inl rfl)).last
  have hfailed : (run step .new [.record submittedRedemption, .updateStatus 0 .confirmed (some "0x1"),
      .updateStatus 0 .failed (some "0x2")]).operation 0 =
      some { submittedRedemption with status := .failed, txHash := some "0x2" } := by decide
  obtain rfl := Option.some.inj (hlater.symm.trans hfailed)
  cases hkept

end CtfTracker

end AxiomArb.Execution
