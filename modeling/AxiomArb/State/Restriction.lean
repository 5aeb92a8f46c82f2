import AxiomArb.State.Machine

/-!
# How long a restriction lasts

A failed reconcile restricts the store.  The restriction is held by nothing but
the mode, and an applied fact re-derives the mode from the pending work alone.
The module finds the facts that lift a restriction and shows that they are the
only ones.
-/

namespace AxiomArb.State

open Domain Library

/-- A plain fact of the market stream. -/
def plainFact (eventId : String) : StateFactInput :=
  .new (.new "market" "session" eventId "v1" 0)

/-- A snapshot whose venue contradicts the local view. -/
def divergentSnapshot : RemoteSnapshot :=
  RemoteSnapshot.empty.withAttention (.identifierMismatch "token" "expected" "remote")

namespace StateStore

variable {store : StateStore} {input : JournaledFact}

/-- The fact is new, is settled by this application, and leaves nothing pending,
in a store that has been asked to reconcile or has reconciled before. -/
def LiftsRestriction (store : StateStore) (input : JournaledFact) : Prop :=
  store.firstReconcileSucceeded = true ∧
    store.Admits input.1 input.2.factKey ∧
    ¬ store.HasApplied input.2.factKey ∧
    input.2.applyHint.Settles ∧
    input.2.applyHint.pendingAfter store.pendingReconcileAnchors = ∅

instance : Decidable (store.LiftsRestriction input) :=
  inferInstanceAs (Decidable (_ ∧ _ ∧ _ ∧ _ ∧ _))

/-- The posture an application leaves. -/
theorem posture_applyStep (store : StateStore) (input : JournaledFact) :
    (store.applyStep input).posture =
      if store.Admits input.1 input.2.factKey ∧ ¬ store.HasApplied input.2.factKey then
        if input.2.applyHint.Settles then
          ((store.consume input.1 input.2.factKey).absorb input.2.applyHint).restorePolicy
        else reconcileAttentionPolicy
      else store.posture := by
  unfold applyStep
  rcases store.apply_cases input.1 input.2 with ⟨hadmits, _, heq⟩ | ⟨hadmits, happlied, _, _, heq⟩ |
      ⟨hadmits, hnew, hsettles, _, _, heq⟩ | ⟨hadmits, hnew, hsettles, _, _, heq⟩
  · simp [heq, hadmits]
  · simp [heq, happlied]
  · simp [heq, hadmits, hnew, hsettles]
  · simp [heq, hadmits, hnew, hsettles]

/-- **One application.**  A restricted store stays restricted unless the fact
lifts the restriction, and opens if it does. -/
theorem restricted_applyStep_iff (h : store.Restricted) :
    (store.applyStep input).Restricted ↔ ¬ store.LiftsRestriction input := by
  rw [restricted_iff_posture] at h ⊢
  rw [posture_applyStep]
  by_cases hnew : store.Admits input.1 input.2.factKey ∧ ¬ store.HasApplied input.2.factKey
  · by_cases hsettles : input.2.applyHint.Settles
    · rw [if_pos hnew, if_pos hsettles, restorePolicy_absorb]
      simp only [consume_frame, LiftsRestriction, hnew, hsettles, not_false_eq_true, true_and]
      cases hfirst : store.firstReconcileSucceeded with
      | false => simp [h]
      | true =>
          by_cases hempty :
              input.2.applyHint.pendingAfter store.pendingReconcileAnchors = ∅
          · simp [hempty, reconciledPolicy, reconcileAttentionPolicy]
          · simp [hempty]
    · simp [hnew, hsettles, LiftsRestriction]
  · rw [if_neg hnew]
    refine iff_of_true h ?_
    rintro ⟨-, hadmits, hfresh, -⟩
    exact hnew ⟨hadmits, hfresh⟩

@[simp] theorem firstReconcileSucceeded_applyStep_of_not_new
    (h : ¬ (store.Admits input.1 input.2.factKey ∧ ¬ store.HasApplied input.2.factKey)) :
    (store.applyStep input).firstReconcileSucceeded = store.firstReconcileSucceeded := by
  unfold applyStep
  rcases store.apply_cases input.1 input.2 with ⟨-, _, heq⟩ | ⟨-, -, _, _, heq⟩ |
      ⟨hadmits, hnew, -⟩ | ⟨hadmits, hnew, -⟩
  · rw [heq]
  · simp [heq]
  · exact absurd ⟨hadmits, hnew⟩ h
  · exact absurd ⟨hadmits, hnew⟩ h

/-- A fact that settles neither asks for a reconcile nor completes one. -/
theorem firstReconcileSucceeded_applyStep_of_settles (h : input.2.applyHint.Settles) :
    (store.applyStep input).firstReconcileSucceeded = store.firstReconcileSucceeded := by
  unfold applyStep
  rcases store.apply_cases input.1 input.2 with ⟨-, _, heq⟩ | ⟨-, -, _, _, heq⟩ |
      ⟨-, -, -, _, _, heq⟩ | ⟨-, -, hnot, -⟩
  · rw [heq]
  · simp [heq]
  · simp [heq]
  · exact absurd h hnot

/-- A store that is not open for trading opens on the same facts as a restricted one. -/
theorem cancelOnly_applyStep_iff (h : store.CancelOnly) :
    (store.applyStep input).CancelOnly ↔ ¬ store.LiftsRestriction input := by
  have hposture := store.posture_applyStep input
  by_cases hnew : store.Admits input.1 input.2.factKey ∧ ¬ store.HasApplied input.2.factKey
  · by_cases hsettles : input.2.applyHint.Settles
    · rw [if_pos hnew, if_pos hsettles, restorePolicy_absorb] at hposture
      simp only [consume_frame] at hposture
      simp only [LiftsRestriction, hnew, hsettles, not_false_eq_true, true_and]
      cases hfirst : store.firstReconcileSucceeded with
      | false =>
          simp only [hfirst, Bool.false_eq_true, if_false] at hposture
          have hflag := (firstReconcileSucceeded_applyStep_of_settles hsettles).trans hfirst
          simpa using h.congr hposture (hflag.trans hfirst.symm)
      | true =>
          simp only [hfirst, if_true] at hposture
          by_cases hempty : input.2.applyHint.pendingAfter store.pendingReconcileAnchors = ∅
          · rw [if_pos hempty] at hposture
            simpa [hempty] using not_cancelOnly_of_healthy hposture
          · rw [if_neg hempty] at hposture
            simpa [hempty] using (restricted_iff_posture.mpr hposture).cancelOnly
    · rw [if_pos hnew, if_neg hsettles] at hposture
      simpa [LiftsRestriction, hsettles] using (restricted_iff_posture.mpr hposture).cancelOnly
  · rw [if_neg hnew] at hposture
    refine iff_of_true (h.congr hposture (firstReconcileSucceeded_applyStep_of_not_new hnew)) ?_
    rintro ⟨-, hadmits, hfresh, -⟩
    exact hnew ⟨hadmits, hfresh⟩

/-- **A failed reconcile sticks exactly as long as no fact lifts it.**  From any
reachable store whose reconcile fails, a run of facts stays restricted throughout
if and only if none of its steps settles a new fact with nothing left pending. -/
theorem failed_reconcile_sticks_iff (ops : List StoreOp) (snapshot : RemoteSnapshot)
    (inputs : List JournaledFact)
    (h : ((after ops).reconcile snapshot).1.succeeded = false) :
    Always applyStep Restricted ((after ops).reconcile snapshot).2 inputs ↔
      Steps applyStep (fun store input ↦ ¬ store.LiftsRestriction input)
        ((after ops).reconcile snapshot).2 inputs := by
  refine always_iff_steps_of_step (fun store input ↦ restricted_applyStep_iff) ?_
  rw [restricted_iff_posture]
  exact (reconcile_failed_fields _ _ h).2

/-- The hypothesis of `failed_reconcile_sticks_iff` is met by a new store. -/
theorem failed_reconcile_sticks_iff_new :
    ((after []).reconcile divergentSnapshot).1.succeeded = false ∧
      (Always applyStep Restricted ((after []).reconcile divergentSnapshot).2
          [(1, plainFact "a")] ↔
        Steps applyStep (fun store input ↦ ¬ store.LiftsRestriction input)
          ((after []).reconcile divergentSnapshot).2 [(1, plainFact "a")]) :=
  ⟨by decide, failed_reconcile_sticks_iff [] divergentSnapshot [(1, plainFact "a")] (by decide)⟩

/-- A store that has reconciled once and then fails to reconcile is opened again
by the next plain fact. -/
theorem plain_fact_lifts_failed_reconcile :
    ((after [.reconcile .empty]).reconcile divergentSnapshot).1.succeeded = false ∧
      ((after [.reconcile .empty]).reconcile divergentSnapshot).2.Restricted ∧
      ¬ (run applyStep ((after [.reconcile .empty]).reconcile divergentSnapshot).2
          [(1, plainFact "a")]).Restricted ∧
      (run applyStep ((after [.reconcile .empty]).reconcile divergentSnapshot).2
          [(1, plainFact "a")]).mode = .healthy := by
  decide

/-! ## Before the first success -/

/-- The operation is a reconcile that fails, or an application. -/
def StartupFails (store : StateStore) : StoreOp → Prop
  | .reconcile snapshot => (store.reconcile snapshot).1.succeeded = false
  | .apply _ => True
  | _ => False

/-- The operation applies a fact that lifts the restriction. -/
def StartupLifts (store : StateStore) : StoreOp → Prop
  | .apply input => store.LiftsRestriction input
  | _ => False

theorem cancelOnly_new : new.CancelOnly := by
  decide

theorem cancelOnly_step_iff {op : StoreOp} (h : store.CancelOnly) (hfails : store.StartupFails op) :
    (store.step op).CancelOnly ↔ ¬ store.StartupLifts op := by
  cases op with
  | reconcile snapshot =>
      refine iff_of_true ?_ id
      exact (restricted_iff_posture.mpr (store.reconcile_failed_fields snapshot hfails).2).cancelOnly
  | apply input => exact cancelOnly_applyStep_iff h
  | _ => exact hfails.elim

/-- A store whose reconciles all fail is closed to trading until a fact lifts it. -/
theorem always_cancelOnly_iff (ops : List StoreOp) (hfails : Steps step StartupFails new ops) :
    Always step CancelOnly new ops ↔
      Steps step (fun store op ↦ ¬ store.StartupLifts op) new ops :=
  always_iff_steps (J := fun _ ↦ True) (fun _ _ _ _ ↦ trivial)
    (fun _ _ _ h hfails ↦ cancelOnly_step_iff h hfails) trivial cancelOnly_new hfails

end StateStore

end AxiomArb.State
