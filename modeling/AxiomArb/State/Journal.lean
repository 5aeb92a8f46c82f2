import AxiomArb.State.Restriction

/-!
# Redelivery and journal progress

The journal deduplicates by the facts it has *applied*.  A fact that stays open is
not among them, and a sequence number once bound is admitted again for its fact.
The module determines when a redelivered fact is harmless, and when the last
applied sequence number goes down.
-/

namespace AxiomArb.State

open Domain Library

/-- The fact's anchor, if it has one, is the one pending under its reference. -/
def FactApplyHint.InPlace (pending : BTreeMap String PendingReconcileAnchor) :
    FactApplyHint → Prop
  | .pendingReconcile anchor => pending[anchor.pendingRef]? = some anchor
  | _ => True

theorem FactApplyHint.pendingAfter_eq_self_iff {hint : FactApplyHint}
    {pending : BTreeMap String PendingReconcileAnchor} (h : ¬ hint.Settles) :
    hint.pendingAfter pending = pending ↔ hint.InPlace pending := by
  cases hint with
  | pendingReconcile anchor => exact BTreeMap.insert_eq_self_iff
  | liveReconcileObserved pendingRef terminal =>
      cases terminal with
      | false => exact iff_of_true rfl trivial
      | true => exact absurd rfl h
  | _ => exact absurd trivial h

namespace StateStore

variable {store : StateStore} {input : JournaledFact} {journalSeq : Int} {factKey : FactKey}
  {fact : StateFactInput}

/-! ## Redelivery -/

/-- Two stores that hold the same facts in the same posture. -/
structure SameFacts (store store' : StateStore) : Prop where
  stateVersion : store'.stateVersion = store.stateVersion
  pendingReconcileAnchors : store'.pendingReconcileAnchors = store.pendingReconcileAnchors
  runtimeAttentionAnchors : store'.runtimeAttentionAnchors = store.runtimeAttentionAnchors
  familyDiscoveryRecords : store'.familyDiscoveryRecords = store.familyDiscoveryRecords
  pendingFamilyBackfills : store'.pendingFamilyBackfills = store.pendingFamilyBackfills
  mode : store'.mode = store.mode
  overlay : store'.overlay = store.overlay

/-- The number is refused, or the fact has been applied for good, or all that an
open fact asks for is in place already. -/
def RedeliveryHarmless (store : StateStore) (journalSeq : Int) (fact : StateFactInput) : Prop :=
  ¬ store.Admits journalSeq fact.factKey ∨
    store.HasApplied fact.factKey ∨
    fact.applyHint.InPlace store.pendingReconcileAnchors ∧ store.mode = .reconciling ∧
      store.overlay = some .cancelOnly

theorem sameFacts_consume : store.SameFacts (store.consume journalSeq factKey) := by
  have hposture : (store.consume journalSeq factKey).posture = store.posture := by simp
  obtain ⟨hmode, hoverlay⟩ := RuntimePolicy.mk.injEq .. ▸ hposture
  refine ⟨?_, ?_, ?_, ?_, ?_, hmode, hoverlay⟩ <;> simp

/-- An open fact changes nothing exactly when all it asks for is in place. -/
theorem sameFacts_markReconcileRequired_iff (h : ¬ fact.applyHint.Settles) :
    store.SameFacts
        ((store.consume journalSeq fact.factKey).absorb fact.applyHint).markReconcileRequired ↔
      fact.applyHint.InPlace store.pendingReconcileAnchors ∧ store.mode = .reconciling ∧
        store.overlay = some .cancelOnly := by
  rw [← FactApplyHint.pendingAfter_eq_self_iff h]
  constructor
  · rintro ⟨-, hpending, -, -, -, hmode, hoverlay⟩
    simp only [markReconcileRequired_fields, pendingReconcileAnchors_absorb,
      consume_frame] at hpending
    exact ⟨hpending, hmode.symm, hoverlay.symm⟩
  · rintro ⟨hpending, hmode, hoverlay⟩
    obtain ⟨hrecords, hbackfills, hattention⟩ :=
      absorb_of_open (store.consume journalSeq fact.factKey) fact.applyHint h
    refine ⟨by simp, by simpa using hpending, ?_, ?_, ?_, hmode.symm, hoverlay.symm⟩
    · simp [hattention]
    · simp [hrecords]
    · simp [hbackfills]

/-- A fact that settles and is accepted has been applied for good. -/
theorem hasApplied_of_settles {result : ApplyResult}
    (haccepted : (store.apply journalSeq fact).1 = .ok result) (h : fact.applyHint.Settles) :
    (store.apply journalSeq fact).2.HasApplied fact.factKey := by
  rcases store.apply_cases journalSeq fact with ⟨-, _, heq⟩ | ⟨-, happlied, _, _, heq⟩ |
      ⟨-, -, -, _, _, heq⟩ | ⟨-, -, hnot, -⟩
  · rw [heq] at haccepted
    cases haccepted
  · rw [heq]
    simpa [HasApplied] using happlied
  · rw [heq]
    simp [HasApplied]
  · exact absurd h hnot

theorem HasApplied.run {ops : List StoreOp} (h : store.HasApplied factKey) :
    (run StateStore.step store ops).HasApplied factKey :=
  run_inv (P := fun store : StateStore ↦ store.HasApplied factKey)
    (fun _ op h ↦ HasApplied.step h op) h

/-- One delivery of a fact that is open, or has been applied already. -/
theorem sameFacts_apply_iff (h : fact.applyHint.Settles → store.HasApplied fact.factKey) :
    store.SameFacts (store.apply journalSeq fact).2 ↔
      store.RedeliveryHarmless journalSeq fact := by
  unfold RedeliveryHarmless
  rcases store.apply_cases journalSeq fact with ⟨hadmits, _, heq⟩ | ⟨-, happlied, _, _, heq⟩ |
      ⟨-, hnew, hsettles, -⟩ | ⟨hadmits, hnew, hopen, _, _, heq⟩
  · rw [heq]
    exact iff_of_true ⟨rfl, rfl, rfl, rfl, rfl, rfl, rfl⟩ (.inl hadmits)
  · rw [heq]
    exact iff_of_true sameFacts_consume (.inr (.inl happlied))
  · exact absurd (h hsettles) hnew
  · rw [heq, sameFacts_markReconcileRequired_iff hopen]
    simp [hadmits, hnew]

/-- **Redelivery is idempotent exactly when it is harmless.**  A fact accepted once
by a reachable store, and delivered again after any further operations at any
sequence number, changes nothing if and only if its number is refused, it has been
applied for good, or everything it asks for is in place. -/
theorem redelivery_idempotent_iff (before between : List StoreOp) (journalSeq journalSeq' : Int)
    (fact : StateFactInput) (result : ApplyResult)
    (haccepted : ((after before).apply journalSeq fact).1 = .ok result) :
    (run step ((after before).apply journalSeq fact).2 between).SameFacts
        ((run step ((after before).apply journalSeq fact).2 between).apply journalSeq' fact).2 ↔
      (run step ((after before).apply journalSeq fact).2 between).RedeliveryHarmless
        journalSeq' fact :=
  sameFacts_apply_iff fun hsettles ↦ HasApplied.run (hasApplied_of_settles haccepted hsettles)

/-- A live submission of the family, and the terminal reconcile that closes it. -/
def liveSubmit : StateFactInput :=
  .new (.negriskLiveSubmitObserved "session" "submit" "attempt" "family" "submission" 0)

def terminalReconcile : StateFactInput :=
  .new (.negriskLiveReconcileObserved "session" "reconcile"
    (PendingRef.fromFactKey liveSubmit.factKey) "family" true 0)

/-- The hypothesis of `redelivery_idempotent_iff` is met by a submission. -/
theorem redelivery_idempotent_iff_submit :
    (run step ((after []).apply 1 liveSubmit).2 []).SameFacts
        ((run step ((after []).apply 1 liveSubmit).2 []).apply 1 liveSubmit).2 ↔
      (run step ((after []).apply 1 liveSubmit).2 []).RedeliveryHarmless 1 liveSubmit :=
  redelivery_idempotent_iff [] [] 1 1 liveSubmit
    (.reconcileRequired 1 (some (PendingRef.fromFactKey liveSubmit.factKey))
      "live submit observed") (by decide)

/-- A submission that has been reconciled is delivered again, at its old number or at
a fresh one: its anchor comes back and trading is closed. -/
theorem redelivered_submit_reopens :
    let store := (run step ((after []).apply 1 liveSubmit).2 [.apply (2, terminalReconcile)])
    ((after []).apply 1 liveSubmit).1 = .ok (.reconcileRequired 1
        (some (PendingRef.fromFactKey liveSubmit.factKey)) "live submit observed") ∧
      store.pendingReconcileCount = 0 ∧ store.mode = .healthy ∧
      (store.apply 1 liveSubmit).2.pendingReconcileCount = 1 ∧
      (store.apply 1 liveSubmit).2.mode = .reconciling ∧
      (store.apply 3 liveSubmit).2.pendingReconcileCount = 1 ∧
      (store.apply 3 liveSubmit).2.mode = .reconciling := by
  decide

/-! ## Journal progress -/

/-- Every bound number has been consumed, and no number is applied before it is
consumed. -/
structure JournalOrdered (store : StateStore) : Prop where
  bound : ∀ (seq : Int) (factKey : FactKey),
    store.consumedJournal[seq]? = some factKey → some seq ≤ store.lastConsumedJournalSeq
  applied : store.lastAppliedJournalSeq ≤ store.lastConsumedJournalSeq

/-- Neither number goes down, and the applied one stays behind the consumed one. -/
structure Progresses (store store' : StateStore) : Prop where
  consumed : store.lastConsumedJournalSeq ≤ store'.lastConsumedJournalSeq
  applied : store.lastAppliedJournalSeq ≤ store'.lastAppliedJournalSeq
  ordered : store'.lastAppliedJournalSeq ≤ store'.lastConsumedJournalSeq

/-- The fact settles now at a number it was bound to before, and a later number has
been applied since. -/
def RegressesApplied (store : StateStore) (input : JournaledFact) : Prop :=
  store.consumedJournal[input.1]? = some input.2.factKey ∧
    ¬ store.HasApplied input.2.factKey ∧
    input.2.applyHint.Settles ∧
    ∃ seq ∈ store.lastAppliedJournalSeq, input.1 < seq

theorem seq_le_trans {a b c : Option Int} (hab : a ≤ b) (hbc : b ≤ c) : a ≤ c := by
  cases a with
  | none => exact Option.none_le
  | some a =>
      cases b with
      | none => simp at hab
      | some b =>
          cases c with
          | none => simp at hbc
          | some c =>
              rw [Option.some_le_some] at hab hbc ⊢
              exact le_trans hab hbc

theorem seq_le_refl (a : Option Int) : a ≤ a := by
  cases a <;> simp

theorem journalOrdered_new : new.JournalOrdered where
  bound seq factKey h := by simp [new] at h
  applied := Option.none_le

/-- A number past every consumed one is bound to no fact. -/
theorem JournalOrdered.unbound (h : store.JournalOrdered)
    (hlast : store.lastConsumedJournalSeq.all (· < journalSeq) = true) :
    store.consumedJournal[journalSeq]? = none := by
  cases hbound : store.consumedJournal[journalSeq]? with
  | none => rfl
  | some factKey =>
      have hle := h.bound _ _ hbound
      cases hconsumed : store.lastConsumedJournalSeq with
      | none => simp [hconsumed] at hle
      | some consumed =>
          rw [hconsumed] at hle hlast
          simp only [Option.some_le_some, Option.all_some, decide_eq_true_eq] at hle hlast
          exact absurd hlast hle.not_gt

/-- Consuming a number moves the consumed one up to it, at least. -/
theorem JournalOrdered.consume (h : store.JournalOrdered)
    (hadmits : store.Admits journalSeq factKey) :
    store.lastConsumedJournalSeq ≤ (store.consume journalSeq factKey).lastConsumedJournalSeq ∧
      some journalSeq ≤ (store.consume journalSeq factKey).lastConsumedJournalSeq ∧
      (store.consume journalSeq factKey).JournalOrdered := by
  unfold StateStore.consume
  split
  · rename_i hbound
    exact ⟨seq_le_refl _, h.bound _ _ hbound, h⟩
  · rename_i hfree
    obtain hbound | ⟨-, hlast⟩ := hadmits
    · exact absurd hbound hfree
    have hle : store.lastConsumedJournalSeq ≤ some journalSeq := by
      cases hl : store.lastConsumedJournalSeq with
      | none => exact Option.none_le
      | some last =>
          rw [hl] at hlast
          have hlt : last < journalSeq := by simpa using hlast
          simpa using hlt.le
    refine ⟨hle, seq_le_refl _, ?_, seq_le_trans h.applied hle⟩
    intro seq factKey' hlookup
    by_cases hseq : journalSeq = seq
    · subst hseq
      exact seq_le_refl _
    · rw [BTreeMap.lookup_insert_of_ne hseq] at hlookup
      exact seq_le_trans (h.bound _ _ hlookup) hle

theorem JournalOrdered.applyStep (h : store.JournalOrdered) (input : JournaledFact) :
    (store.applyStep input).JournalOrdered := by
  obtain ⟨journalSeq, fact⟩ := input
  show (store.apply journalSeq fact).2.JournalOrdered
  rcases store.apply_cases journalSeq fact with ⟨-, _, heq⟩ | ⟨hadmits, -, _, _, heq⟩ |
      ⟨hadmits, -, -, _, _, heq⟩ | ⟨hadmits, -, -, _, _, heq⟩
  · rw [heq]
    exact h
  · rw [heq]
    exact (h.consume hadmits).2.2
  · obtain ⟨-, hseq, hbound, -⟩ := h.consume hadmits
    rw [heq]
    exact ⟨by simpa using hbound, by simpa using hseq⟩
  · obtain ⟨-, -, hbound, happlied⟩ := h.consume hadmits
    rw [heq]
    exact ⟨by simpa using hbound, by simpa using happlied⟩

/-- A number at which a fact settles is past every applied one unless the fact
regresses. -/
theorem lastApplied_le_iff (h : store.JournalOrdered)
    (hadmits : store.Admits journalSeq fact.factKey) (hnew : ¬ store.HasApplied fact.factKey)
    (hsettles : fact.applyHint.Settles) :
    store.lastAppliedJournalSeq ≤ some journalSeq ↔
      ¬ store.RegressesApplied (journalSeq, fact) := by
  unfold RegressesApplied
  simp only [hnew, hsettles, not_false_eq_true, true_and]
  cases hlast : store.lastAppliedJournalSeq with
  | none => simp
  | some last =>
      rw [Option.some_le_some]
      constructor
      · rintro hle ⟨-, seq, ⟨rfl⟩, hlt⟩
        omega
      · intro hnot
        rcases hadmits with hbound | ⟨-, hconsumed⟩
        · by_contra hlt
          exact hnot ⟨hbound, last, rfl, by omega⟩
        · have happlied := h.applied
          rw [hlast] at happlied
          cases hc : store.lastConsumedJournalSeq with
          | none => simp [hc] at happlied
          | some consumed =>
              rw [hc] at hconsumed happlied
              have hlt : consumed < journalSeq := by simpa using hconsumed
              rw [Option.some_le_some] at happlied
              omega

theorem progresses_applyStep_iff (h : store.JournalOrdered) :
    store.Progresses (store.applyStep input) ↔ ¬ store.RegressesApplied input := by
  have hordered := (h.applyStep input).applied
  obtain ⟨journalSeq, fact⟩ := input
  unfold StateStore.applyStep at hordered ⊢
  rcases store.apply_cases journalSeq fact with ⟨hrefused, _, heq⟩ | ⟨hadmits, happlied, _, _, heq⟩ |
      ⟨hadmits, hnew, hsettles, _, _, heq⟩ | ⟨hadmits, -, hopen, _, _, heq⟩
  · refine iff_of_true ?_ fun hregresses ↦ hrefused (.inl hregresses.1)
    rw [heq] at hordered ⊢
    exact ⟨seq_le_refl _, seq_le_refl _, hordered⟩
  · refine iff_of_true ?_ fun hregresses ↦ hregresses.2.1 happlied
    rw [heq] at hordered ⊢
    exact ⟨(h.consume hadmits).1, by simp [seq_le_refl], hordered⟩
  · rw [← lastApplied_le_iff h hadmits hnew hsettles]
    rw [heq] at hordered ⊢
    constructor
    · intro hprogress
      simpa using hprogress.applied
    · intro hle
      exact ⟨by simpa using (h.consume hadmits).1, by simpa using hle, hordered⟩
  · refine iff_of_true ?_ fun hregresses ↦ hopen hregresses.2.2.1
    rw [heq] at hordered ⊢
    exact ⟨by simpa using (h.consume hadmits).1, by simp [seq_le_refl], hordered⟩

/-- **Journal progress is monotone exactly as long as no fact regresses.**  In every
run of applications from a new store, every call keeps the consumed and the applied
number from going down, with the applied one behind the consumed one, if and only
if no call settles a fact at a number it held before a later one was applied. -/
theorem journal_monotone_iff (inputs : List JournaledFact) :
    Steps applyStep (fun store input ↦ store.Progresses (store.applyStep input)) new inputs ↔
      Steps applyStep (fun store input ↦ ¬ store.RegressesApplied input) new inputs :=
  ⟨Steps.mono_of_inv (J := JournalOrdered) (fun _ input h ↦ h.applyStep input)
      (fun _ _ h hprogress ↦ (progresses_applyStep_iff h).mp hprogress) journalOrdered_new,
    Steps.mono_of_inv (J := JournalOrdered) (fun _ input h ↦ h.applyStep input)
      (fun _ _ h hregresses ↦ (progresses_applyStep_iff h).mpr hregresses) journalOrdered_new⟩

/-- A trade that came out of order at 5, a plain fact at 10, and the trade once more
at 5, in order now: the applied number falls from 10 to 5. -/
theorem readmitted_trade_regresses :
    let trade := ExternalFactEvent.new "user" "session" "trade" "v1" 0
    let store := run applyStep new [(5, .outOfOrderUserTrade trade), (10, plainFact "a")]
    store.lastAppliedJournalSeq = some 10 ∧
      (store.applyStep (5, .new trade)).lastAppliedJournalSeq = some 5 := by
  decide

end StateStore

end AxiomArb.State
