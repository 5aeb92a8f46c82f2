import AxiomArb.State.Posture

/-!
# Applying facts

`StateStore.apply` is the source's applier, branch for branch.  `apply_cases` says
once what a call can do: refuse the sequence number, recognise a fact already
applied, settle a fact for good, or leave it open and ask for a reconcile.  Later
modules reason from these four cases and do not unfold the applier.
-/

namespace AxiomArb.State

open Domain Library

inductive ApplyResult where
  | applied (journalSeq : Int) (stateVersion : Nat) (dirtySet : DirtySet)
  | duplicate (journalSeq duplicateOfJournalSeq : Int) (stateVersion : Nat)
  | deferred (journalSeq : Int) (pendingRef : PendingRef) (reason : String)
  | reconcileRequired (journalSeq : Int) (pendingRef : Option PendingRef) (reason : String)
deriving DecidableEq, Repr

structure ApplyError where
  message : String
deriving DecidableEq, Repr

/-- The domains a fact touches when its branch names none in particular. -/
def allRuntimeDomains : DirtySet :=
  ⟨[.runtime, .orders, .inventory, .approvals, .resolution, .relayer, .negRiskFamilies]⟩

namespace StateStore

/-- The branch a fact takes once its number is consumed and it is known to be new. -/
def applyNew (store : StateStore) (journalSeq : Int) (fact : StateFactInput) :
    ApplyResult × StateStore :=
  let factKey := fact.factKey
  match fact.applyHint with
  | .none =>
      let (stateVersion, store) := store.recordAppliedFact journalSeq factKey
      (.applied journalSeq stateVersion allRuntimeDomains, store)
  | .familyDiscovery record =>
      let store := store.recordFamilyDiscovery record
      let (stateVersion, store) := store.recordAppliedFact journalSeq factKey
      (.applied journalSeq stateVersion ⟨[.candidates]⟩, store)
  | .familyBackfill familyId cursor completedAt =>
      let store := store.recordFamilyBackfill familyId cursor completedAt
      let (stateVersion, store) := store.recordAppliedFact journalSeq factKey
      (.applied journalSeq stateVersion ⟨[.candidates]⟩, store)
  | .pendingReconcile anchor =>
      let store := store.recordPendingReconcile anchor
      (.reconcileRequired journalSeq (some anchor.pendingRef) anchor.reason,
        store.markReconcileRequired)
  | .runtimeAttention anchor =>
      let store := store.recordRuntimeAttention anchor
      let (stateVersion, store) := store.recordAppliedFact journalSeq factKey
      (.applied journalSeq stateVersion ⟨[.runtime, .negRiskFamilies]⟩, store)
  | .liveReconcileObserved pendingRef terminal =>
      if terminal then
        let store := (store.clearPendingReconcile pendingRef).2
        let (stateVersion, store) := store.recordAppliedFact journalSeq factKey
        (.applied journalSeq stateVersion allRuntimeDomains, store)
      else
        (.reconcileRequired journalSeq (some pendingRef) "live reconcile remains pending",
          store.markReconcileRequired)

/-- Apply a fact at a journal sequence number. -/
def apply (store : StateStore) (journalSeq : Int) (fact : StateFactInput) :
    Except ApplyError ApplyResult × StateStore :=
  let factKey := fact.factKey
  match store.consumeJournalSeq journalSeq factKey with
  | (.alreadyBoundToDifferentFact, store) =>
      (.error ⟨s!"journal sequence {journalSeq} is already bound to a different fact"⟩, store)
  | (.outOfOrder, store) =>
      -- the sequence the source expects to be there is: see `consumeJournalSeq_outOfOrder`
      let lastConsumed := store.lastConsumedJournalSeq.getD 0
      (.error ⟨s!"journal sequence {journalSeq} must be greater than last consumed sequence {
        lastConsumed}"⟩, store)
  | (.consumed, store) | (.alreadyBoundToSameFact, store) =>
      match store.duplicateJournalSeq factKey with
      | some duplicateOf => (.ok (.duplicate journalSeq duplicateOf store.stateVersion), store)
      | none =>
          let (result, store) := store.applyNew journalSeq fact
          (.ok result, store)

/-! ## Admission -/

/-- The applier takes the number `journalSeq` for the fact `factKey`. -/
def Admits (store : StateStore) (journalSeq : Int) (factKey : FactKey) : Prop :=
  store.consumedJournal[journalSeq]? = some factKey ∨
    store.consumedJournal[journalSeq]? = none ∧
      store.lastConsumedJournalSeq.all (· < journalSeq) = true

instance (store : StateStore) (journalSeq : Int) (factKey : FactKey) :
    Decidable (store.Admits journalSeq factKey) := inferInstanceAs (Decidable (_ ∨ _))

/-- The store after the number `journalSeq` is bound to `factKey`. -/
def consume (store : StateStore) (journalSeq : Int) (factKey : FactKey) : StateStore :=
  if store.consumedJournal[journalSeq]? = some factKey then
    store
  else
    { store with
      lastConsumedJournalSeq := some journalSeq
      consumedJournal := store.consumedJournal.insert journalSeq factKey }

/-- The fact has been applied for good. -/
def HasApplied (store : StateStore) (factKey : FactKey) : Prop :=
  store.appliedFactJournal[factKey]? ≠ none

instance (store : StateStore) (factKey : FactKey) : Decidable (store.HasApplied factKey) :=
  inferInstanceAs (Decidable (_ ≠ _))

variable {store : StateStore} {journalSeq : Int} {factKey : FactKey} {fact : StateFactInput}

theorem consumeJournalSeq_outOfOrder
    (h : (store.consumeJournalSeq journalSeq factKey).1 = .outOfOrder) :
    ∃ lastConsumed, store.lastConsumedJournalSeq = some lastConsumed ∧
      journalSeq ≤ lastConsumed := by
  unfold consumeJournalSeq at h
  cases hbound : store.consumedJournal[journalSeq]? with
  | some existing =>
      by_cases heq : existing = factKey <;> simp [hbound, heq] at h
  | none =>
      cases hlast : store.lastConsumedJournalSeq with
      | none => simp [hbound, hlast] at h
      | some lastConsumed =>
          refine ⟨lastConsumed, rfl, ?_⟩
          by_contra hlt
          simp [hbound, hlast, hlt] at h

/-- A number that is admitted is bound, to this fact. -/
theorem consumeJournalSeq_of_admits (h : store.Admits journalSeq factKey) :
    (store.consumeJournalSeq journalSeq factKey).2 = store.consume journalSeq factKey ∧
      ((store.consumeJournalSeq journalSeq factKey).1 = .consumed ∨
        (store.consumeJournalSeq journalSeq factKey).1 = .alreadyBoundToSameFact) := by
  unfold consumeJournalSeq consume
  rcases h with hbound | ⟨hfree, hlast⟩
  · simp [hbound]
  · have hany : store.lastConsumedJournalSeq.any (journalSeq ≤ ·) = false := by
      cases hl : store.lastConsumedJournalSeq with
      | none => rfl
      | some lastConsumed =>
          rw [hl] at hlast
          simpa using hlast
    simp [hfree, hany]

/-- A number that is refused leaves the store as it is. -/
theorem consumeJournalSeq_of_not_admits (h : ¬ store.Admits journalSeq factKey) :
    (store.consumeJournalSeq journalSeq factKey).2 = store ∧
      ((store.consumeJournalSeq journalSeq factKey).1 = .alreadyBoundToDifferentFact ∨
        (store.consumeJournalSeq journalSeq factKey).1 = .outOfOrder) := by
  unfold consumeJournalSeq
  cases hbound : store.consumedJournal[journalSeq]? with
  | some existing =>
      have hne : existing ≠ factKey := fun heq ↦ h (.inl (heq ▸ hbound))
      simp [hne]
  | none =>
      have hany : store.lastConsumedJournalSeq.any (journalSeq ≤ ·) = true := by
        cases hl : store.lastConsumedJournalSeq with
        | none => exact absurd (.inr ⟨hbound, by simp [hl]⟩) h
        | some lastConsumed =>
            have hnot : ¬ lastConsumed < journalSeq :=
              fun hlt ↦ h (.inr ⟨hbound, by simpa [hl] using hlt⟩)
            simpa using hnot
      simp [hany]

end StateStore

/-! ## What a call can do -/

/-- The fact is applied for good by its branch; otherwise it asks for a reconcile
and stays open. -/
def FactApplyHint.Settles : FactApplyHint → Prop
  | .pendingReconcile _ => False
  | .liveReconcileObserved _ terminal => terminal = true
  | _ => True

instance : DecidablePred FactApplyHint.Settles := fun hint ↦ by
  cases hint <;> unfold FactApplyHint.Settles <;> infer_instance

namespace StateStore

/-- The data a branch records, before the journal or the posture is touched. -/
def absorb (store : StateStore) : FactApplyHint → StateStore
  | .none => store
  | .familyDiscovery record => store.recordFamilyDiscovery record
  | .familyBackfill familyId cursor completedAt =>
      store.recordFamilyBackfill familyId cursor completedAt
  | .pendingReconcile anchor => store.recordPendingReconcile anchor
  | .runtimeAttention anchor => store.recordRuntimeAttention anchor
  | .liveReconcileObserved pendingRef terminal =>
      if terminal then (store.clearPendingReconcile pendingRef).2 else store

variable (store : StateStore) (journalSeq : Int) (fact : StateFactInput)

theorem applyNew_of_settles (h : fact.applyHint.Settles) :
    (store.applyNew journalSeq fact).2 =
        ((store.absorb fact.applyHint).recordAppliedFact journalSeq fact.factKey).2 ∧
      ∃ dirtySet, (store.applyNew journalSeq fact).1 = .applied journalSeq
        ((store.absorb fact.applyHint).recordAppliedFact journalSeq fact.factKey).1 dirtySet := by
  unfold applyNew absorb
  cases hhint : fact.applyHint with
  | none => exact ⟨rfl, _, rfl⟩
  | familyDiscovery record => exact ⟨rfl, _, rfl⟩
  | familyBackfill familyId cursor completedAt => exact ⟨rfl, _, rfl⟩
  | pendingReconcile anchor => simp [hhint, FactApplyHint.Settles] at h
  | runtimeAttention anchor => exact ⟨rfl, _, rfl⟩
  | liveReconcileObserved pendingRef terminal =>
      have hterminal : terminal = true := by simpa [hhint, FactApplyHint.Settles] using h
      subst hterminal
      exact ⟨rfl, _, rfl⟩

theorem applyNew_of_not_settles (h : ¬ fact.applyHint.Settles) :
    (store.applyNew journalSeq fact).2 = (store.absorb fact.applyHint).markReconcileRequired ∧
      ∃ pendingRef reason, (store.applyNew journalSeq fact).1 =
        .reconcileRequired journalSeq (some pendingRef) reason := by
  unfold applyNew absorb
  cases hhint : fact.applyHint with
  | pendingReconcile anchor => exact ⟨rfl, _, _, rfl⟩
  | liveReconcileObserved pendingRef terminal =>
      have hterminal : terminal = false := by simpa [hhint, FactApplyHint.Settles] using h
      subst hterminal
      exact ⟨rfl, _, _, rfl⟩
  | _ => simp [hhint, FactApplyHint.Settles] at h

@[simp] theorem consume_appliedFactJournal (factKey : FactKey) :
    (store.consume journalSeq factKey).appliedFactJournal = store.appliedFactJournal := by
  unfold consume
  split <;> rfl

variable {store journalSeq fact}

/-- A refused number changes nothing. -/
theorem apply_of_not_admits (h : ¬ store.Admits journalSeq fact.factKey) :
    ∃ error, store.apply journalSeq fact = (.error error, store) := by
  obtain ⟨hstore, hresult⟩ := consumeJournalSeq_of_not_admits h
  simp only [apply, duplicateJournalSeq]
  generalize store.consumeJournalSeq journalSeq fact.factKey = consumption at hstore hresult
  obtain ⟨outcome, store'⟩ := consumption
  obtain rfl : store' = store := hstore
  rcases hresult with rfl | rfl <;> exact ⟨_, rfl⟩

/-- An admitted number is bound before anything else is looked at. -/
theorem apply_of_admits (h : store.Admits journalSeq fact.factKey) :
    store.apply journalSeq fact =
      match store.appliedFactJournal[fact.factKey]? with
      | some duplicateOf =>
          (.ok (.duplicate journalSeq duplicateOf
            (store.consume journalSeq fact.factKey).stateVersion),
            store.consume journalSeq fact.factKey)
      | none =>
          (.ok ((store.consume journalSeq fact.factKey).applyNew journalSeq fact).1,
            ((store.consume journalSeq fact.factKey).applyNew journalSeq fact).2) := by
  obtain ⟨hstore, hresult⟩ := consumeJournalSeq_of_admits h
  rw [← store.consume_appliedFactJournal journalSeq fact.factKey]
  simp only [apply, duplicateJournalSeq]
  generalize store.consumeJournalSeq journalSeq fact.factKey = consumption at hstore hresult
  obtain ⟨outcome, store'⟩ := consumption
  obtain rfl : store' = store.consume journalSeq fact.factKey := hstore
  rcases hresult with rfl | rfl <;> rfl

/-- A fact already applied only binds its number. -/
theorem apply_of_hasApplied (h : store.Admits journalSeq fact.factKey)
    (happlied : store.HasApplied fact.factKey) :
    ∃ duplicateOf version, store.apply journalSeq fact =
      (.ok (.duplicate journalSeq duplicateOf version),
        store.consume journalSeq fact.factKey) := by
  obtain ⟨duplicateOf, hdup⟩ := Option.ne_none_iff_exists'.mp happlied
  rw [apply_of_admits h, hdup]
  exact ⟨_, _, rfl⟩

/-- A new fact that settles is recorded as applied. -/
theorem apply_of_settles (h : store.Admits journalSeq fact.factKey)
    (hnew : ¬ store.HasApplied fact.factKey) (hsettles : fact.applyHint.Settles) :
    ∃ version dirtySet, store.apply journalSeq fact =
      (.ok (.applied journalSeq version dirtySet),
        (((store.consume journalSeq fact.factKey).absorb fact.applyHint).recordAppliedFact
          journalSeq fact.factKey).2) := by
  obtain ⟨hstore, dirtySet, hresult⟩ :=
    applyNew_of_settles (store.consume journalSeq fact.factKey) journalSeq fact hsettles
  rw [apply_of_admits h, not_not.mp hnew]
  simp only [hstore, hresult]
  exact ⟨_, dirtySet, rfl⟩

/-- A new fact that stays open asks for a reconcile. -/
theorem apply_of_open (h : store.Admits journalSeq fact.factKey)
    (hnew : ¬ store.HasApplied fact.factKey) (hopen : ¬ fact.applyHint.Settles) :
    ∃ pendingRef reason, store.apply journalSeq fact =
      (.ok (.reconcileRequired journalSeq (some pendingRef) reason),
        ((store.consume journalSeq fact.factKey).absorb fact.applyHint).markReconcileRequired) := by
  obtain ⟨hstore, pendingRef, reason, hresult⟩ :=
    applyNew_of_not_settles (store.consume journalSeq fact.factKey) journalSeq fact hopen
  rw [apply_of_admits h, not_not.mp hnew]
  simp only [hstore, hresult]
  exact ⟨pendingRef, reason, rfl⟩

variable (store journalSeq fact)

/-- **What a call can do.** -/
theorem apply_cases :
    (¬ store.Admits journalSeq fact.factKey ∧
      ∃ error, store.apply journalSeq fact = (.error error, store)) ∨
    (store.Admits journalSeq fact.factKey ∧ store.HasApplied fact.factKey ∧
      ∃ duplicateOf version, store.apply journalSeq fact =
        (.ok (.duplicate journalSeq duplicateOf version), store.consume journalSeq fact.factKey)) ∨
    (store.Admits journalSeq fact.factKey ∧ ¬ store.HasApplied fact.factKey ∧
      fact.applyHint.Settles ∧
      ∃ version dirtySet, store.apply journalSeq fact =
        (.ok (.applied journalSeq version dirtySet),
          (((store.consume journalSeq fact.factKey).absorb fact.applyHint).recordAppliedFact
            journalSeq fact.factKey).2)) ∨
    (store.Admits journalSeq fact.factKey ∧ ¬ store.HasApplied fact.factKey ∧
      ¬ fact.applyHint.Settles ∧
      ∃ pendingRef reason, store.apply journalSeq fact =
        (.ok (.reconcileRequired journalSeq (some pendingRef) reason),
          ((store.consume journalSeq fact.factKey).absorb fact.applyHint).markReconcileRequired)) := by
  by_cases hadmits : store.Admits journalSeq fact.factKey
  · by_cases happlied : store.HasApplied fact.factKey
    · exact .inr (.inl ⟨hadmits, happlied, apply_of_hasApplied hadmits happlied⟩)
    · by_cases hsettles : fact.applyHint.Settles
      · exact .inr (.inr (.inl
          ⟨hadmits, happlied, hsettles, apply_of_settles hadmits happlied hsettles⟩))
      · exact .inr (.inr (.inr
          ⟨hadmits, happlied, hsettles, apply_of_open hadmits happlied hsettles⟩))
  · exact .inl ⟨hadmits, apply_of_not_admits hadmits⟩

end StateStore

end AxiomArb.State
