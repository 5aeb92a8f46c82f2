import AxiomArb.State.Journal
import AxiomArb.State.Snapshot

/-!
# Views in the order of the families

A reachable store files a discovery record under its own family, so that a candidate view
lists the families in ascending order, whatever the order of their discovery.
-/

namespace AxiomArb.State

open Domain Library

namespace StateStore

variable {store : StateStore}

/-- Each record is filed under its family. -/
def RecordsKeyed (store : StateStore) : Prop :=
  ∀ (familyId : String) (record : FamilyDiscoveryRecord),
    store.familyDiscoveryRecords[familyId]? = some record → record.familyId = familyId

theorem recordsKeyed_new : new.RecordsKeyed := by
  intro familyId record h
  simp [new] at h

theorem RecordsKeyed.congr {store' : StateStore} (h : store.RecordsKeyed)
    (hrecords : store'.familyDiscoveryRecords = store.familyDiscoveryRecords) :
    store'.RecordsKeyed := by
  rw [RecordsKeyed, hrecords]
  exact h

theorem RecordsKeyed.insert {record : FamilyDiscoveryRecord} {store' : StateStore}
    (h : store.RecordsKeyed) (hrecords : store'.familyDiscoveryRecords =
      store.familyDiscoveryRecords.insert record.familyId record) : store'.RecordsKeyed := by
  intro familyId other hother
  rw [hrecords, BTreeMap.lookup_insert] at hother
  split at hother
  · rename_i hfamily
    rw [← Option.some.inj hother, hfamily]
  · exact h familyId other hother

theorem RecordsKeyed.absorb (h : store.RecordsKeyed) (hint : FactApplyHint) :
    (store.absorb hint).RecordsKeyed := by
  cases hint with
  | familyDiscovery record =>
      simp only [StateStore.absorb, recordFamilyDiscovery]
      exact h.insert rfl
  | familyBackfill familyId cursor completedAt =>
      simp only [StateStore.absorb, recordFamilyBackfill]
      split
      · rename_i record hrecord
        have hfamily := h familyId record hrecord
        have hinsert : store.familyDiscoveryRecords.insert familyId
            (record.recordBackfill cursor completedAt) = store.familyDiscoveryRecords.insert
              (record.recordBackfill cursor completedAt).familyId
              (record.recordBackfill cursor completedAt) := by
          rw [FamilyDiscoveryRecord.recordBackfill, hfamily]
        exact h.insert hinsert
      · exact h.congr rfl
  | liveReconcileObserved pendingRef terminal =>
      cases terminal with
      | false => exact h
      | true => exact h.congr (by simp [StateStore.absorb, clearPendingReconcile])
  | none => exact h
  | pendingReconcile anchor => exact h.congr rfl
  | runtimeAttention anchor => exact h.congr rfl

theorem RecordsKeyed.step (h : store.RecordsKeyed) (op : StoreOp) : (store.step op).RecordsKeyed := by
  cases op with
  | apply input =>
      obtain ⟨journalSeq, fact⟩ := input
      show (store.apply journalSeq fact).2.RecordsKeyed
      have hconsumed : (store.consume journalSeq fact.factKey).RecordsKeyed := h.congr (by simp)
      rcases store.apply_cases journalSeq fact with ⟨-, _, heq⟩ | ⟨-, -, _, _, heq⟩ |
          ⟨-, -, -, _, _, heq⟩ | ⟨-, -, -, _, _, heq⟩ <;> rw [heq]
      · exact h
      · exact hconsumed
      · exact (hconsumed.absorb fact.applyHint).congr (by simp)
      · exact (hconsumed.absorb fact.applyHint).congr (by simp)
  | reconcile snapshot => exact h.congr (by simp [StateStore.step])
  | markBootstrapping => exact h.congr (by simp [StateStore.step])
  | markReconciledAfterRestore baseline => exact h.congr (by simp [StateStore.step])
  | clearPendingReconcileAfterRestore => exact h.congr (by simp [StateStore.step])
  | restoreCommittedAnchor version seq =>
      exact h.congr (by simp only [StateStore.step, restoreCommittedAnchor,
        applyRestorePosture_frame, rebuildFullsetAnchor])
  | restorePendingReconcileAnchor anchor =>
      exact h.congr (by simp only [StateStore.step, restorePendingReconcileAnchor,
        applyRestorePosture_frame, recordPendingReconcile])
  | markReconcileRequired => exact h.congr (by simp [StateStore.step])
  | restoreReconciledPolicy => exact h.congr (by simp [StateStore.step, restoreReconciledPolicy])
  | _ => exact h.congr rfl

theorem recordsKeyed_after (ops : List StoreOp) : (after ops).RecordsKeyed :=
  run_inv (fun _ op h ↦ RecordsKeyed.step h op) recordsKeyed_new

/-- The records of such a store are listed by ascending family. -/
theorem RecordsKeyed.pairwise_vals (h : store.RecordsKeyed) :
    store.familyDiscoveryRecords.vals.Pairwise
      fun record later ↦ compare record.familyId later.familyId = .lt := by
  have hkeys : store.familyDiscoveryRecords.vals.map FamilyDiscoveryRecord.familyId =
      store.familyDiscoveryRecords.keys := by
    rw [BTreeMap.vals, List.map_map, ← Std.ExtTreeMap.map_fst_toList_eq_keys]
    refine List.map_congr_left fun entry hmem ↦ ?_
    exact h entry.1 entry.2 (Std.ExtTreeMap.mem_toList_iff_getElem?_eq_some.mp hmem)
  rw [← List.pairwise_map (f := FamilyDiscoveryRecord.familyId)
    (R := fun familyId later ↦ compare familyId later = .lt), hkeys]
  exact Std.ExtTreeMap.ordered_keys

end StateStore

/-- **A view of a reachable store lists the families in order.** -/
theorem pairwise_of_fromStore {ops : List StoreOp} {readiness : CandidateProjectionReadiness}
    {publication : CandidatePublication} {view : CandidateView}
    (h : CandidatePublication.fromStore (StateStore.after ops) readiness = some publication)
    (hview : publication.view = some view) :
    view.discoveryRecords.Pairwise
      fun record later ↦ compare record.familyId later.familyId = .lt := by
  have hrecords : view.discoveryRecords = (StateStore.after ops).familyDiscoveryRecords.vals := by
    unfold CandidatePublication.fromStore at h
    cases hlast : (StateStore.after ops).lastAppliedJournalSeq with
    | none => simp [hlast] at h
    | some seq =>
        cases hstatus : readiness.status <;>
          simp only [hlast, hstatus, Option.pure_def, Option.bind_eq_bind, Option.bind_some,
            Option.some.injEq] at h <;> subst h <;> cases hview
        rfl
  rw [hrecords]
  exact (StateStore.recordsKeyed_after ops).pairwise_vals

end AxiomArb.State
