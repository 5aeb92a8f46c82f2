import AxiomArb.Execution.Ctf

/-!
# What the CTF tracker keeps

A call that fails leaves the tracker as it was, and a call that succeeds writes one
operation (`Writes`), new or of the same identity.  From this one step everything else
follows by induction over the calls: the index names exactly the operations with a
relayer's id, the submitted ones have their metadata, and what is bound stays bound.
-/

namespace AxiomArb.Execution

open Domain Library

/-! ## Calls -/

inductive CtfCall where
  | record (operation : CtfOperation)
  | attachRelayerMetadata (operationId : CtfOperationId) (relayerTransactionId nonce : Option String)
  | updateStatus (operationId : CtfOperationId) (status : CtfOperationStatus)
      (txHash : Option String)
deriving DecidableEq

namespace CtfOperation

/-- What an operation has when it is submitted, and when it is confirmed. -/
structure Documented (operation : CtfOperation) : Prop where
  metadata : operation.status = .submitted ∨ operation.status = .confirmed →
    operation.relayerTransactionId.isSome ∧ operation.nonce.isSome
  txHash : operation.status = .confirmed → operation.txHash.isSome

/-- The later state of an operation: what it is, and what it has been bound to. -/
structure Continues (operation operation' : CtfOperation) : Prop where
  kind : operation'.kind = operation.kind
  conditionId : operation'.conditionId = operation.conditionId
  attemptId : operation'.attemptId = operation.attemptId
  relayerTransactionId : ∀ bound, operation.relayerTransactionId = some bound →
    operation'.relayerTransactionId = some bound
  nonce : ∀ bound, operation.nonce = some bound → operation'.nonce = some bound

theorem Continues.refl (operation : CtfOperation) : Continues operation operation :=
  ⟨rfl, rfl, rfl, fun _ ↦ id, fun _ ↦ id⟩

theorem Continues.trans {operation operation' operation'' : CtfOperation}
    (h : Continues operation operation') (h' : Continues operation' operation'') :
    Continues operation operation'' where
  kind := h'.kind.trans h.kind
  conditionId := h'.conditionId.trans h.conditionId
  attemptId := h'.attemptId.trans h.attemptId
  relayerTransactionId bound hbound :=
    h'.relayerTransactionId bound (h.relayerTransactionId bound hbound)
  nonce bound hbound := h'.nonce bound (h.nonce bound hbound)

end CtfOperation

namespace CtfTracker

variable {tracker tracker' : CtfTracker} {operationId : CtfOperationId}
  {operation existing : CtfOperation}

/-- Make a call; the outcome is the id it gives out, if it gives out one. -/
def perform : CtfCall → CtfCommand (Option CtfOperationId)
  | .record operation => do return some (← record operation)
  | .attachRelayerMetadata operationId relayerTransactionId nonce => do
      attachRelayerMetadata operationId relayerTransactionId nonce
      return none
  | .updateStatus operationId status txHash => do
      updateStatus operationId status txHash
      return none

def step (tracker : CtfTracker) (call : CtfCall) : CtfTracker := (exec (perform call) tracker).2

/-- The ids that a run of calls gives out. -/
def issuedIds : CtfTracker → List CtfCall → List CtfOperationId
  | _, [] => []
  | tracker, call :: calls =>
      match exec (perform call) tracker with
      | (.ok (some operationId), tracker') => operationId :: issuedIds tracker' calls
      | (.ok none, tracker') | (.error _, tracker') => issuedIds tracker' calls

/-! ## What the checks say -/

theorem documented_of_validate {status : CtfOperationStatus} (hstatus : operation.status = status)
    (h : validateOperationForStatus status operation = .ok ()) : operation.Documented := by
  unfold validateOperationForStatus at h
  split at h
  · cases h
  · rename_i hmetadata
    split at h
    · cases h
    · rename_i htxHash
      subst hstatus
      constructor
      · intro hsubmitted
        simpa [Option.isSome_iff_ne_none] using not_and.mp hmetadata hsubmitted
      · intro hconfirmed
        simpa [Option.isSome_iff_ne_none] using not_and.mp htxHash hconfirmed

theorem documented_of_planned (hstatus : operation.status = .planned) : operation.Documented := by
  constructor <;> simp [hstatus]

theorem free_of_available {relayerTransactionId : Option String} {owner : Option CtfOperationId}
    (h : tracker.ensureRelayerIdAvailable relayerTransactionId owner = .ok ()) {bound : String}
    (hbound : relayerTransactionId = some bound) :
    tracker.relayerIndex[bound]? = none ∨ tracker.relayerIndex[bound]? = owner := by
  subst hbound
  cases hindex : tracker.relayerIndex[bound]? with
  | none => exact .inl rfl
  | some existingOperationId =>
      right
      by_contra hne
      simp only [ensureRelayerIdAvailable, hindex, if_pos hne] at h
      cases h

theorem continues_bindRelayerMetadata {relayerTransactionId : Option String}
    (h : ensureRelayerIdUnbound operation relayerTransactionId = .ok ()) (nonce : Option String) :
    operation.Continues (operation.bindRelayerMetadata relayerTransactionId nonce) where
  kind := rfl
  conditionId := rfl
  attemptId := rfl
  relayerTransactionId bound hbound := by
    cases relayerTransactionId with
    | none => exact hbound
    | some requested =>
        by_cases heq : bound = requested
        · rw [heq]
          rfl
        · simp only [ensureRelayerIdUnbound, hbound, if_pos heq] at h
          cases h
  nonce bound hbound := by simp [CtfOperation.bindRelayerMetadata, hbound]

section Written

variable (relayerTransactionId : Option String) (operationId : CtfOperationId)
  (tracker : CtfTracker)

@[simp] theorem operations_indexRelayerId :
    (indexRelayerId relayerTransactionId operationId tracker).operations = tracker.operations := by
  cases relayerTransactionId <;> rfl

@[simp] theorem nextOperationId_indexRelayerId :
    (indexRelayerId relayerTransactionId operationId tracker).nextOperationId =
      tracker.nextOperationId := by
  cases relayerTransactionId <;> rfl

@[simp] theorem relayerIndex_indexRelayerId :
    (indexRelayerId relayerTransactionId operationId tracker).relayerIndex =
      enter tracker.relayerIndex relayerTransactionId operationId := by
  cases relayerTransactionId <;> rfl

end Written

/-! ## The invariant -/

/-- The index agrees with the operations, each of which has what its status asks for;
the ids in use are below the next one. -/
structure Consistent (tracker : CtfTracker) : Prop where
  index : Indexes tracker.relayerIndex tracker.operations CtfOperation.relayerTransactionId
  documented : ∀ operationId operation, tracker.operation operationId = some operation →
    operation.Documented
  issued : ∀ operationId, operationId < tracker.nextOperationId ↔
    (tracker.operation operationId).isSome

/-- A call writes one operation, and enters the relayer's id it has. -/
structure Writes (tracker : CtfTracker) (operationId : CtfOperationId) (operation : CtfOperation)
    (tracker' : CtfTracker) : Prop where
  operations : tracker'.operations = tracker.operations.insert operationId operation
  relayerIndex : tracker'.relayerIndex =
    enter tracker.relayerIndex operation.relayerTransactionId operationId
  documented : operation.Documented
  free : ∀ bound, operation.relayerTransactionId = some bound →
    tracker.relayerIndex[bound]? = none ∨ tracker.relayerIndex[bound]? = some operationId
  continues : ∀ existing, tracker.operation operationId = some existing →
    existing.Continues operation

section Calls

variable (h : tracker.Consistent)
include h

theorem exec_record_cases (operation : CtfOperation) :
    (∃ error, exec (record operation) tracker = (.error error, tracker)) ∨
    ∃ tracker', exec (record operation) tracker = (.ok tracker.nextOperationId, tracker') ∧
      tracker.Writes tracker.nextOperationId operation tracker' ∧
      tracker'.nextOperationId = tracker.nextOperationId + 1 := by
  simp only [record, exec_bind, exec_lift, exec_get, exec_modify, exec_pure]
  cases hvalid : validateOperationForStatus operation.status operation with
  | error error => exact .inl ⟨error, rfl⟩
  | ok _ =>
      dsimp only
      cases havailable : tracker.ensureRelayerIdAvailable operation.relayerTransactionId none with
      | error error => exact .inl ⟨error, rfl⟩
      | ok _ =>
          refine .inr ⟨_, rfl, ⟨?_, ?_, documented_of_validate rfl hvalid, ?_, ?_⟩, ?_⟩
          · simp only [insertOperation, operations_indexRelayerId]
          · simp only [insertOperation, relayerIndex_indexRelayerId]
          · intro bound hbound
            exact .inl ((free_of_available havailable hbound).elim id id)
          · intro existing hexisting
            have hissued := (h.issued _).mpr (Option.isSome_of_mem hexisting)
            exact absurd hissued (lt_irrefl _)
          · simp only [insertOperation, nextOperationId_indexRelayerId]

/-- An operation is written under its own id, and keeps what it is bound to. -/
theorem writes_of_continues (relayerTransactionId : Option String)
    (hexisting : tracker.operation operationId = some existing)
    (hcontinues : existing.Continues operation) (hdocumented : operation.Documented)
    (hfree : ∀ bound, relayerTransactionId = some bound →
      tracker.relayerIndex[bound]? = none ∨ tracker.relayerIndex[bound]? = some operationId)
    (hrelayer : operation.relayerTransactionId =
      relayerTransactionId.or existing.relayerTransactionId) :
    tracker.Writes operationId operation
      (insertOperation operationId operation
        (indexRelayerId relayerTransactionId operationId tracker)) := by
  refine ⟨?_, ?_, hdocumented, ?_, ?_⟩
  · simp only [insertOperation, operations_indexRelayerId]
  · simp only [insertOperation, relayerIndex_indexRelayerId, hrelayer]
    cases relayerTransactionId with
    | none => exact (h.index.enter_eq hexisting).symm
    | some _ => rfl
  · rw [hrelayer]
    intro bound hbound
    cases relayerTransactionId with
    | none => exact .inr ((h.index bound operationId).mpr ⟨existing, hexisting, hbound⟩)
    | some _ => exact hfree bound hbound
  · intro existing' hexisting'
    obtain rfl : existing' = existing := Option.some.inj (hexisting'.symm.trans hexisting)
    exact hcontinues

theorem exec_attachRelayerMetadata_cases (operationId : CtfOperationId)
    (relayerTransactionId nonce : Option String) :
    (∃ error, exec (attachRelayerMetadata operationId relayerTransactionId nonce) tracker =
      (.error error, tracker)) ∨
    ∃ operation tracker', exec (attachRelayerMetadata operationId relayerTransactionId nonce)
        tracker = (.ok ⟨⟩, tracker') ∧
      tracker.Writes operationId operation tracker' ∧ (tracker.operation operationId).isSome ∧
      tracker'.nextOperationId = tracker.nextOperationId := by
  simp only [attachRelayerMetadata, exec_bind, exec_get]
  cases hexisting : tracker.operations[operationId]? with
  | none => exact .inl ⟨_, rfl⟩
  | some existing =>
      by_cases hplanned : existing.status ≠ .planned
      · simp only [if_pos hplanned]
        exact .inl ⟨_, rfl⟩
      · simp only [if_neg hplanned, exec_bind, exec_lift, exec_modify]
        cases hbound : ensureRelayerIdUnbound existing relayerTransactionId with
        | error error => exact .inl ⟨error, rfl⟩
        | ok _ =>
            cases havailable : tracker.ensureRelayerIdAvailable relayerTransactionId
              (some operationId) with
            | error error => exact .inl ⟨error, rfl⟩
            | ok _ =>
                cases hnonce : ensureNonceUnbound existing nonce with
                | error error => exact .inl ⟨error, rfl⟩
                | ok _ =>
                    refine .inr ⟨existing.bindRelayerMetadata relayerTransactionId nonce, _, rfl,
                      ?_, Option.isSome_of_mem hexisting, ?_⟩
                    · exact writes_of_continues h relayerTransactionId hexisting
                        (continues_bindRelayerMetadata hbound nonce)
                        (documented_of_planned (not_not.mp hplanned))
                        (fun bound ↦ free_of_available havailable) rfl
                    · simp only [insertOperation, nextOperationId_indexRelayerId]

theorem exec_updateStatus_cases (operationId : CtfOperationId) (status : CtfOperationStatus)
    (txHash : Option String) :
    (∃ error, exec (updateStatus operationId status txHash) tracker = (.error error, tracker)) ∨
    ∃ operation tracker', exec (updateStatus operationId status txHash) tracker =
        (.ok ⟨⟩, tracker') ∧
      tracker.Writes operationId operation tracker' ∧ (tracker.operation operationId).isSome ∧
      tracker'.nextOperationId = tracker.nextOperationId := by
  simp only [updateStatus, exec_bind, exec_get]
  cases hexisting : tracker.operations[operationId]? with
  | none => exact .inl ⟨_, rfl⟩
  | some existing =>
      simp only [exec_bind, exec_lift, exec_modify]
      cases htransition : validateTransition existing.status status with
      | error error => exact .inl ⟨error, rfl⟩
      | ok _ =>
          cases hvalid : validateOperationForStatus status
              { existing with status, txHash := txHash.or existing.txHash } with
          | error error => exact .inl ⟨error, rfl⟩
          | ok _ =>
              refine .inr ⟨{ existing with status, txHash := txHash.or existing.txHash }, _, rfl,
                ?_, Option.isSome_of_mem hexisting, rfl⟩
              exact writes_of_continues h none hexisting
                ⟨rfl, rfl, rfl, fun _ ↦ id, fun _ ↦ id⟩ (documented_of_validate rfl hvalid)
                (fun _ hnone ↦ by cases hnone) rfl

/-- What a call may do: fail and change nothing, record a new operation under the next
id, or go on with an operation it has. -/
theorem exec_perform_cases (call : CtfCall) :
    (∃ error, exec (perform call) tracker = (.error error, tracker)) ∨
    (∃ operation tracker',
      exec (perform call) tracker = (.ok (some tracker.nextOperationId), tracker') ∧
      tracker.Writes tracker.nextOperationId operation tracker' ∧
      tracker'.nextOperationId = tracker.nextOperationId + 1) ∨
    ∃ operationId operation tracker', exec (perform call) tracker = (.ok none, tracker') ∧
      tracker.Writes operationId operation tracker' ∧ (tracker.operation operationId).isSome ∧
      tracker'.nextOperationId = tracker.nextOperationId := by
  cases call with
  | record operation =>
      simp only [perform, exec_bind]
      rcases exec_record_cases h operation with ⟨error, heq⟩ | ⟨tracker', heq, hwrites⟩
      · exact .inl ⟨error, by rw [heq]⟩
      · exact .inr (.inl ⟨operation, tracker', by rw [heq]; rfl, hwrites⟩)
  | attachRelayerMetadata operationId relayerTransactionId nonce =>
      simp only [perform, exec_bind]
      rcases exec_attachRelayerMetadata_cases h operationId relayerTransactionId nonce with
        ⟨error, heq⟩ | ⟨operation, tracker', heq, hwrites⟩
      · exact .inl ⟨error, by rw [heq]⟩
      · exact .inr (.inr ⟨operationId, operation, tracker', by rw [heq]; rfl, hwrites⟩)
  | updateStatus operationId status txHash =>
      simp only [perform, exec_bind]
      rcases exec_updateStatus_cases h operationId status txHash with
        ⟨error, heq⟩ | ⟨operation, tracker', heq, hwrites⟩
      · exact .inl ⟨error, by rw [heq]⟩
      · exact .inr (.inr ⟨operationId, operation, tracker', by rw [heq]; rfl, hwrites⟩)

end Calls

/-! ## Runs -/

theorem lookup_of_writes (h : tracker.Writes operationId operation tracker') (id : CtfOperationId) :
    tracker'.operation id = if operationId = id then some operation else tracker.operation id := by
  rw [CtfTracker.operation, h.operations, BTreeMap.lookup_insert]
  rfl

theorem consistent_new : Consistent .new where
  index := .empty
  documented := by simp [CtfTracker.operation, CtfTracker.new]
  issued := by simp [CtfTracker.operation, CtfTracker.new]

/-- A write keeps the invariant, if the ids in use stay below the next one. -/
theorem Consistent.writes (h : tracker.Consistent)
    (hwrites : tracker.Writes operationId operation tracker')
    (hissued : ∀ id, id < tracker'.nextOperationId ↔
      operationId = id ∨ (tracker.operation id).isSome) : tracker'.Consistent where
  index := by
    rw [hwrites.operations, hwrites.relayerIndex]
    refine h.index.insert hwrites.free fun existing hexisting ↦ ?_
    have hcontinues := hwrites.continues existing hexisting
    rcases hrelayer : existing.relayerTransactionId with _ | bound
    · exact .inl rfl
    · exact .inr (hcontinues.relayerTransactionId bound hrelayer).symm
  documented id operation' hlookup := by
    rw [lookup_of_writes hwrites] at hlookup
    split at hlookup
    · cases hlookup
      exact hwrites.documented
    · exact h.documented id operation' hlookup
  issued id := by
    rw [hissued, lookup_of_writes hwrites]
    by_cases hid : operationId = id <;> simp [hid]

/-- The tracker has every operation of an earlier one, as it was or later. -/
def Extends (tracker tracker' : CtfTracker) : Prop :=
  ∀ operationId operation, tracker.operation operationId = some operation →
    ∃ operation', tracker'.operation operationId = some operation' ∧ operation.Continues operation'

theorem Extends.refl (tracker : CtfTracker) : Extends tracker tracker :=
  fun _ operation hoperation ↦ ⟨operation, hoperation, .refl operation⟩

theorem Extends.trans {tracker'' : CtfTracker} (h : Extends tracker tracker')
    (h' : Extends tracker' tracker'') : Extends tracker tracker'' := by
  intro operationId operation hoperation
  obtain ⟨operation', hoperation', hcontinues⟩ := h operationId operation hoperation
  obtain ⟨operation'', hoperation'', hcontinues'⟩ := h' operationId operation' hoperation'
  exact ⟨operation'', hoperation'', hcontinues.trans hcontinues'⟩

theorem extends_of_writes (h : tracker.Writes operationId operation tracker') :
    Extends tracker tracker' := by
  intro id existing hexisting
  rw [lookup_of_writes h]
  by_cases hid : operationId = id
  · subst hid
    exact ⟨operation, if_pos rfl, h.continues existing hexisting⟩
  · exact ⟨existing, (if_neg hid).trans hexisting, .refl existing⟩

/-- One call keeps the invariant and every operation. -/
theorem step_spec (h : tracker.Consistent) (call : CtfCall) :
    (tracker.step call).Consistent ∧ Extends tracker (tracker.step call) := by
  rcases exec_perform_cases h call with ⟨error, heq⟩ |
    ⟨operation, tracker', heq, hwrites, hnext⟩ |
    ⟨operationId, operation, tracker', heq, hwrites, hknown, hnext⟩
  all_goals rw [step, heq]
  · exact ⟨h, .refl tracker⟩
  · refine ⟨h.writes hwrites fun id ↦ ?_, extends_of_writes hwrites⟩
    rw [hnext, Nat.lt_succ_iff_lt_or_eq, h.issued, or_comm, eq_comm]
  · refine ⟨h.writes hwrites fun id ↦ ?_, extends_of_writes hwrites⟩
    rw [hnext, h.issued]
    refine ⟨.inr, ?_⟩
    rintro (rfl | hid)
    · exact hknown
    · exact hid

theorem Consistent.run (h : tracker.Consistent) (calls : List CtfCall) :
    (Library.run step tracker calls).Consistent :=
  run_inv (P := Consistent) (fun _ call h ↦ (step_spec h call).1) h

theorem extends_run (h : tracker.Consistent) (calls : List CtfCall) :
    Extends tracker (run step tracker calls) := by
  induction calls generalizing tracker with
  | nil => exact .refl tracker
  | cons call calls ih =>
      obtain ⟨hnext, hextends⟩ := step_spec h call
      exact hextends.trans (ih hnext)

/-- The ids a run gives out are the next ones, one after the other. -/
theorem issuedIds_eq_range' (h : tracker.Consistent) (calls : List CtfCall) :
    ∃ count, issuedIds tracker calls = List.range' tracker.nextOperationId count ∧
      (run step tracker calls).nextOperationId = tracker.nextOperationId + count := by
  induction calls generalizing tracker with
  | nil => exact ⟨0, rfl, rfl⟩
  | cons call calls ih =>
      obtain ⟨count, hids, hnext⟩ := ih (step_spec h call).1
      rw [run_cons, issuedIds]
      rcases exec_perform_cases h call with ⟨error, heq⟩ | ⟨_, tracker', heq, -, hnext'⟩ |
        ⟨_, _, tracker', heq, -, -, hnext'⟩
      · have hstep : tracker.step call = tracker := by rw [step, heq]
        rw [hstep] at hids hnext ⊢
        simp only [heq]
        exact ⟨count, hids, hnext⟩
      · have hstep : tracker.step call = tracker' := by rw [step, heq]
        rw [hstep] at hids hnext ⊢
        simp only [heq]
        refine ⟨count + 1, ?_, by rw [hnext, hnext', Nat.add_right_comm, Nat.add_assoc]⟩
        rw [hids, hnext', List.range'_succ]
      · have hstep : tracker.step call = tracker' := by rw [step, heq]
        rw [hstep] at hids hnext ⊢
        simp only [heq]
        exact ⟨count, by rw [hids, hnext'], by rw [hnext, hnext']⟩

/-- **The tracker keeps its index and the identity of its operations.**  After any calls,
the index names exactly the operations with a relayer's id, each by one id, so that a
lookup by it finds the operation that carries it; the operations have what their status
asks for.  The ids given out are all different, and are those of the operations there
are.  Whatever is called later, an operation stays and keeps what it is bound to, and a
call that fails changes nothing. -/
theorem tracker_keeps_index_and_identity (calls : List CtfCall) :
    let tracker := run step .new calls
    tracker.Consistent ∧
    (∀ (relayerId relayerId' : String) (operationId : CtfOperationId),
      tracker.relayerIndex[relayerId]? = some operationId →
      tracker.relayerIndex[relayerId']? = some operationId → relayerId = relayerId') ∧
    (∀ relayerId operation,
      tracker.operationByRelayerTransactionId relayerId = some operation ↔
        ∃ operationId, tracker.operation operationId = some operation ∧
          operation.relayerTransactionId = some relayerId) ∧
    ((issuedIds .new calls).Nodup ∧ ∀ operationId,
      operationId ∈ issuedIds .new calls ↔ (tracker.operation operationId).isSome) ∧
    (∀ later, tracker.Extends (run step .new (calls ++ later))) ∧
    ∀ call error tracker', exec (perform call) tracker = (.error error, tracker') →
      tracker' = tracker := by
  intro tracker
  have hconsistent : tracker.Consistent := consistent_new.run calls
  refine ⟨hconsistent, ?_, ?_, ⟨?_, ?_⟩, ?_, ?_⟩
  · intro relayerId relayerId' operationId hid hid'
    exact hconsistent.index.injective hid hid'
  · intro relayerId operation
    exact hconsistent.index.lookup_iff
  · obtain ⟨count, hids, -⟩ := issuedIds_eq_range' consistent_new calls
    rw [hids]
    exact List.nodup_range'
  · intro operationId
    obtain ⟨count, hids, hnext⟩ := issuedIds_eq_range' consistent_new calls
    rw [hids, List.mem_range'_1, ← hnext, ← hconsistent.issued]
    exact and_iff_right (Nat.zero_le operationId)
  · intro later
    rw [run_append]
    exact extends_run hconsistent later
  · intro call error tracker' hexec
    rcases exec_perform_cases hconsistent call with ⟨error', heq⟩ | ⟨_, _, heq, _⟩ |
      ⟨_, _, _, heq, _⟩
    · rw [heq] at hexec
      exact (Prod.mk.inj hexec).2.symm
    · simp [heq] at hexec
    · simp [heq] at hexec

end CtfTracker

end AxiomArb.Execution
