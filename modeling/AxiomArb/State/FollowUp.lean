import AxiomArb.State.Journal
import AxiomArb.State.Pending

/-!
# The follow-up ledger

`FollowUpLedger` says what a history of accepted facts leaves to follow up, without
a store: which facts have settled, what is still open, and whether a reconcile was
asked for.  A live store and its replica, which is fed the same facts from scratch,
are both described by the ledger of their history.
-/

namespace AxiomArb.State

open Domain Library

/-- What a history of facts leaves to follow up. -/
structure FollowUpLedger where
  /-- The facts that have settled. -/
  settled : List FactKey
  /-- The work that is still open. -/
  openWork : BTreeMap String PendingReconcileAnchor
  /-- Some fact has asked for a reconcile. -/
  asked : Bool
  /-- No fact has settled since the last one that asked. -/
  unsettled : Bool

namespace FollowUpLedger

def empty : FollowUpLedger := { settled := [], openWork := ∅, asked := false, unsettled := false }

/-- Enter one fact.  A fact that has settled before is not entered again. -/
def note (ledger : FollowUpLedger) (fact : StateFactInput) : FollowUpLedger :=
  if fact.factKey ∈ ledger.settled then
    ledger
  else if fact.applyHint.Settles then
    { ledger with
      settled := fact.factKey :: ledger.settled
      openWork := fact.applyHint.pendingAfter ledger.openWork
      unsettled := false }
  else
    { ledger with
      openWork := fact.applyHint.pendingAfter ledger.openWork
      asked := true
      unsettled := true }

/-- The ledger of a history. -/
def ofFacts (facts : List StateFactInput) : FollowUpLedger := facts.foldl note empty

/-- The posture of a live store with this ledger. -/
def policy (ledger : FollowUpLedger) : RuntimePolicy :=
  if ledger.openWork = ∅ ∧ ledger.unsettled = false then reconciledPolicy
  else reconcileAttentionPolicy

/-- Without a request there is nothing to follow up. -/
def Quiet (ledger : FollowUpLedger) : Prop :=
  ledger.asked = false → ledger.openWork = ∅ ∧ ledger.unsettled = false

/-- Nothing asked for a reconcile; or some fact has settled, and the history ends with
work open or with a fact that asked. -/
def ReplayAgrees (ledger : FollowUpLedger) : Prop :=
  ledger.asked = false ∨
    ledger.settled ≠ [] ∧ (ledger.openWork ≠ ∅ ∨ ledger.unsettled = true)

instance (ledger : FollowUpLedger) : Decidable ledger.ReplayAgrees :=
  inferInstanceAs (Decidable (_ ∨ _ ∧ (_ ∨ _)))

variable {ledger : FollowUpLedger} {fact : StateFactInput}

theorem replayAgrees_of_asked (h : ledger.asked = true) :
    ledger.ReplayAgrees ↔
      ledger.settled ≠ [] ∧ (ledger.openWork ≠ ∅ ∨ ledger.unsettled = true) := by
  simp [ReplayAgrees, h]

theorem note_of_mem (h : fact.factKey ∈ ledger.settled) : ledger.note fact = ledger := if_pos h

theorem note_of_settles (h : fact.factKey ∉ ledger.settled) (hsettles : fact.applyHint.Settles) :
    ledger.note fact =
      { ledger with
        settled := fact.factKey :: ledger.settled
        openWork := fact.applyHint.pendingAfter ledger.openWork
        unsettled := false } := by
  rw [note, if_neg h, if_pos hsettles]

theorem note_of_open (h : fact.factKey ∉ ledger.settled) (hopen : ¬ fact.applyHint.Settles) :
    ledger.note fact =
      { ledger with
        openWork := fact.applyHint.pendingAfter ledger.openWork
        asked := true
        unsettled := true } := by
  rw [note, if_neg h, if_neg hopen]

theorem Quiet.note (h : ledger.Quiet) : (ledger.note fact).Quiet := by
  by_cases hmem : fact.factKey ∈ ledger.settled
  · rwa [note_of_mem hmem]
  · by_cases hsettles : fact.applyHint.Settles
    · rw [note_of_settles hmem hsettles]
      intro hasked
      refine ⟨?_, rfl⟩
      by_contra hne
      exact FactApplyHint.pendingAfter_of_settles hsettles hne (h hasked).1
    · rw [note_of_open hmem hsettles]
      exact fun hasked ↦ absurd hasked.symm Bool.false_ne_true

end FollowUpLedger

namespace StateStore

variable {ledger : FollowUpLedger} {live replica : StateStore} {journalSeq : Int}
  {fact : StateFactInput}

/-! ## The live store -/

/-- A live store that has reconciled, with the facts of the ledger. -/
structure DescribedBy (live : StateStore) (ledger : FollowUpLedger) : Prop where
  reconciled : live.firstReconcileSucceeded = true
  settled : ∀ factKey, live.HasApplied factKey ↔ factKey ∈ ledger.settled
  openWork : live.pendingReconcileAnchors = ledger.openWork
  posture : live.posture = ledger.policy

theorem hasApplied_recordAppliedFact {store : StateStore} {factKey factKey' : FactKey} :
    (store.recordAppliedFact journalSeq factKey).2.HasApplied factKey' ↔
      factKey' = factKey ∨ store.HasApplied factKey' := by
  unfold HasApplied
  rw [(store.recordAppliedFact_fields journalSeq factKey).2.2.2.2.1, BTreeMap.lookup_insert]
  by_cases h : factKey = factKey'
  · simp [h]
  · simp [h, Ne.symm h]

/-- An accepted fact is entered in the ledger. -/
theorem DescribedBy.applyStep (h : live.DescribedBy ledger)
    (hadmits : live.Admits journalSeq fact.factKey) :
    (live.applyStep (journalSeq, fact)).DescribedBy (ledger.note fact) := by
  obtain ⟨hfirst, hsettled, hopenWork, hposture⟩ := h
  unfold StateStore.applyStep
  by_cases happlied : live.HasApplied fact.factKey
  · obtain ⟨_, _, heq⟩ := apply_of_hasApplied hadmits happlied
    rw [heq, FollowUpLedger.note_of_mem ((hsettled _).mp happlied)]
    exact ⟨by simpa using hfirst, fun factKey ↦ by simpa [HasApplied] using hsettled factKey,
      by simpa using hopenWork, by simpa using hposture⟩
  · have hfresh : fact.factKey ∉ ledger.settled := fun hmem ↦ happlied ((hsettled _).mpr hmem)
    by_cases hsettles : fact.applyHint.Settles
    · obtain ⟨_, _, heq⟩ := apply_of_settles hadmits happlied hsettles
      rw [heq, FollowUpLedger.note_of_settles hfresh hsettles]
      refine ⟨by simpa using hfirst, fun factKey ↦ ?_, by simp [hopenWork], ?_⟩
      · rw [hasApplied_recordAppliedFact, List.mem_cons, ← hsettled]
        simp [HasApplied]
      · simp [restorePolicy_absorb, hfirst, hopenWork, FollowUpLedger.policy]
    · obtain ⟨_, _, heq⟩ := apply_of_open hadmits happlied hsettles
      rw [heq, FollowUpLedger.note_of_open hfresh hsettles]
      refine ⟨by simp, fun factKey ↦ ?_, by simp [hopenWork], by simp [FollowUpLedger.policy]⟩
      simpa [HasApplied] using hsettled factKey

/-! ## The replica -/

/-- The replica holds the facts of the live store.  Their sequence numbers agree,
except that the live store starts anchored at the baseline. -/
structure MirroredBy (live replica : StateStore) : Prop where
  stateVersion : live.stateVersion = replica.stateVersion
  consumed : live.lastConsumedJournalSeq = some (replica.lastConsumedJournalSeq.getD 0)
  applied : live.lastAppliedJournalSeq = some (replica.lastAppliedJournalSeq.getD 0)
  appliedFactJournal : live.appliedFactJournal = replica.appliedFactJournal
  consumedJournal : live.consumedJournal = replica.consumedJournal
  records : live.familyDiscoveryRecords = replica.familyDiscoveryRecords
  backfills : live.pendingFamilyBackfills = replica.pendingFamilyBackfills
  pending : live.pendingReconcileAnchors = replica.pendingReconcileAnchors
  attention : live.runtimeAttentionAnchors = replica.runtimeAttentionAnchors

theorem MirroredBy.admits (h : live.MirroredBy replica)
    (hadmits : live.Admits journalSeq fact.factKey) :
    replica.Admits journalSeq fact.factKey := by
  unfold Admits at hadmits ⊢
  rw [h.consumedJournal, h.consumed] at hadmits
  refine hadmits.imp_right fun ⟨hfree, hlast⟩ ↦ ⟨hfree, ?_⟩
  cases hconsumed : replica.lastConsumedJournalSeq with
  | none => rfl
  | some last => simpa [hconsumed] using hlast

theorem MirroredBy.consume {factKey : FactKey} (h : live.MirroredBy replica) :
    (live.consume journalSeq factKey).MirroredBy (replica.consume journalSeq factKey) := by
  unfold StateStore.consume
  rw [h.consumedJournal]
  split
  · exact h
  · exact { h with consumed := rfl, consumedJournal := rfl }

theorem MirroredBy.applyRestorePosture (h : live.MirroredBy replica) :
    live.applyRestorePosture.MirroredBy replica.applyRestorePosture := by
  rw [applyRestorePosture_eq, applyRestorePosture_eq]
  exact { h with }

theorem MirroredBy.recordFamilyDiscovery (h : live.MirroredBy replica)
    (record : FamilyDiscoveryRecord) :
    (live.recordFamilyDiscovery record).MirroredBy (replica.recordFamilyDiscovery record) := by
  refine { h with records := ?_, backfills := ?_ }
  · simp only [StateStore.recordFamilyDiscovery, h.records, h.backfills]
  · simp only [StateStore.recordFamilyDiscovery, h.records, h.backfills]

theorem MirroredBy.recordFamilyBackfill (h : live.MirroredBy replica) (familyId cursor : String)
    (completedAt : Option DateTime) :
    (live.recordFamilyBackfill familyId cursor completedAt).MirroredBy
      (replica.recordFamilyBackfill familyId cursor completedAt) := by
  unfold StateStore.recordFamilyBackfill
  rw [h.records, h.backfills]
  split
  · exact { h with records := rfl, backfills := rfl }
  · exact { h with records := rfl, backfills := rfl }

theorem MirroredBy.absorb (h : live.MirroredBy replica) (hint : FactApplyHint) :
    (live.absorb hint).MirroredBy (replica.absorb hint) := by
  cases hint with
  | none => exact h
  | familyDiscovery record => exact h.recordFamilyDiscovery record
  | familyBackfill familyId cursor completedAt =>
      exact h.recordFamilyBackfill familyId cursor completedAt
  | pendingReconcile anchor =>
      exact { h with pending := congrArg (·.insert anchor.pendingRef anchor) h.pending }
  | runtimeAttention anchor =>
      exact { h with attention := congrArg (·.insert anchor.attentionRef anchor) h.attention }
  | liveReconcileObserved pendingRef terminal =>
      cases terminal with
      | false => exact h
      | true =>
          have herased : MirroredBy
              { live with pendingReconcileAnchors := live.pendingReconcileAnchors.erase pendingRef }
              { replica with
                pendingReconcileAnchors := replica.pendingReconcileAnchors.erase pendingRef } :=
            { h with pending := congrArg (·.erase pendingRef) h.pending }
          exact herased.applyRestorePosture

theorem MirroredBy.recordAppliedFact {factKey : FactKey} (h : live.MirroredBy replica) :
    (live.recordAppliedFact journalSeq factKey).2.MirroredBy
      (replica.recordAppliedFact journalSeq factKey).2 := by
  refine MirroredBy.applyRestorePosture ?_
  exact { h with
    stateVersion := congrArg (· + 1) h.stateVersion
    applied := rfl
    appliedFactJournal := congrArg (·.insert factKey journalSeq) h.appliedFactJournal }

theorem MirroredBy.markReconcileRequired (h : live.MirroredBy replica) :
    live.markReconcileRequired.MirroredBy replica.markReconcileRequired := { h with }

theorem MirroredBy.hasApplied_iff {factKey : FactKey} (h : live.MirroredBy replica) :
    live.HasApplied factKey ↔ replica.HasApplied factKey := by
  rw [HasApplied, HasApplied, h.appliedFactJournal]

/-- A fact the live store accepts is accepted by the replica, to the same effect. -/
theorem MirroredBy.applyStep (h : live.MirroredBy replica)
    (hadmits : live.Admits journalSeq fact.factKey) :
    (live.applyStep (journalSeq, fact)).MirroredBy (replica.applyStep (journalSeq, fact)) := by
  have hadmits' := h.admits hadmits
  unfold StateStore.applyStep
  by_cases happlied : live.HasApplied fact.factKey
  · obtain ⟨_, _, hlive⟩ := apply_of_hasApplied hadmits happlied
    obtain ⟨_, _, hreplica⟩ := apply_of_hasApplied hadmits' (h.hasApplied_iff.mp happlied)
    rw [hlive, hreplica]
    exact h.consume
  · have hfresh : ¬ replica.HasApplied fact.factKey := fun hr ↦ happlied (h.hasApplied_iff.mpr hr)
    by_cases hsettles : fact.applyHint.Settles
    · obtain ⟨_, _, hlive⟩ := apply_of_settles hadmits happlied hsettles
      obtain ⟨_, _, hreplica⟩ := apply_of_settles hadmits' hfresh hsettles
      rw [hlive, hreplica]
      exact (h.consume.absorb _).recordAppliedFact
    · obtain ⟨_, _, hlive⟩ := apply_of_open hadmits happlied hsettles
      obtain ⟨_, _, hreplica⟩ := apply_of_open hadmits' hfresh hsettles
      rw [hlive, hreplica]
      exact (h.consume.absorb _).markReconcileRequired

/-- How far the replica's journal has come, by the ledger. -/
structure AnchoredBy (replica : StateStore) (ledger : FollowUpLedger) : Prop where
  ordered : replica.JournalOrdered
  applied : replica.lastAppliedJournalSeq = none ↔ ledger.settled = []
  consumed : replica.lastConsumedJournalSeq = none ↔
    ledger.settled = [] ∧ ledger.asked = false

theorem AnchoredBy.applyStep (h : replica.AnchoredBy ledger)
    (hsettled : ∀ factKey, replica.HasApplied factKey ↔ factKey ∈ ledger.settled)
    (hadmits : replica.Admits journalSeq fact.factKey) :
    (replica.applyStep (journalSeq, fact)).AnchoredBy (ledger.note fact) := by
  have hordered := h.ordered.applyStep (journalSeq, fact)
  -- the number just consumed is there, whatever becomes of the fact
  have hsome : (replica.consume journalSeq fact.factKey).lastConsumedJournalSeq ≠ none := by
    intro hnone
    have hle := (h.ordered.consume hadmits).2.1
    rw [hnone] at hle
    simp at hle
  unfold StateStore.applyStep at hordered ⊢
  by_cases happlied : replica.HasApplied fact.factKey
  · obtain ⟨_, _, heq⟩ := apply_of_hasApplied hadmits happlied
    have hmem := (hsettled _).mp happlied
    rw [heq] at hordered ⊢
    rw [FollowUpLedger.note_of_mem hmem]
    have hne : ledger.settled ≠ [] := List.ne_nil_of_mem hmem
    exact ⟨hordered, by simpa using h.applied, iff_of_false hsome fun hempty ↦ hne hempty.1⟩
  · have hfresh : fact.factKey ∉ ledger.settled := fun hmem ↦ happlied ((hsettled _).mpr hmem)
    by_cases hsettles : fact.applyHint.Settles
    · obtain ⟨_, _, heq⟩ := apply_of_settles hadmits happlied hsettles
      rw [heq] at hordered ⊢
      rw [FollowUpLedger.note_of_settles hfresh hsettles]
      exact ⟨hordered, by simp, by simpa using hsome⟩
    · obtain ⟨_, _, heq⟩ := apply_of_open hadmits happlied hsettles
      rw [heq] at hordered ⊢
      rw [FollowUpLedger.note_of_open hfresh hsettles]
      exact ⟨hordered, by simpa using h.applied, by simpa using hsome⟩

end StateStore

end AxiomArb.State
