import AxiomArb.State.Growth
import AxiomArb.State.Journal
import Mathlib.Data.List.Dedup

/-!
# The version counts the applied facts

A run of applications leaves a trace: the inputs whose calls returned `applied`.
`CountsApplied` ties the store to that trace.  The version is its length, the
applied journal is its index by fact key, and no key occurs in it twice.  What a
later delivery of an applied fact returns is read off the index.
-/

namespace AxiomArb.State

open Domain Library

/-- What a call gives back when it applies its fact. -/
def ReturnsApplied : Except ApplyError ApplyResult → Bool
  | .ok (.applied ..) => true
  | _ => false

/-- What a call gives back when it turns its fact away. -/
def TurnsAway : Except ApplyError ApplyResult → Bool
  | .ok (.duplicate ..) => true
  | .error _ => true
  | _ => false

namespace StateStore

variable {store : StateStore} {journalSeq : Int} {fact : StateFactInput} {input : JournaledFact}
  {applied inputs : List JournaledFact}

/-- The inputs of a run whose calls returned `applied`, in order. -/
def appliedInputs : StateStore → List JournaledFact → List JournaledFact
  | _, [] => []
  | store, input :: inputs =>
      if ReturnsApplied (store.apply input.1 input.2).1 then
        input :: appliedInputs (store.applyStep input) inputs
      else
        appliedInputs (store.applyStep input) inputs

/-- The two stores differ in the bookkeeping of consumed numbers at most. -/
def OnlyConsumes (store store' : StateStore) : Prop :=
  ∃ lastConsumed consumed, store' = { store with
    lastConsumedJournalSeq := lastConsumed
    consumedJournal := consumed }

theorem onlyConsumes_refl : store.OnlyConsumes store := ⟨_, _, rfl⟩

theorem onlyConsumes_consume {factKey : FactKey} :
    store.OnlyConsumes (store.consume journalSeq factKey) := by
  unfold consume
  split
  · exact onlyConsumes_refl
  · exact ⟨_, _, rfl⟩

/-- A call that turns its fact away only consumes. -/
theorem onlyConsumes_of_turnsAway (h : TurnsAway (store.apply journalSeq fact).1 = true) :
    store.OnlyConsumes (store.apply journalSeq fact).2 := by
  rcases store.apply_cases journalSeq fact with ⟨-, _, heq⟩ | ⟨-, -, _, _, heq⟩ |
      ⟨-, -, -, _, _, heq⟩ | ⟨-, -, -, _, _, heq⟩
  · rw [heq]
    exact onlyConsumes_refl
  · rw [heq]
    exact onlyConsumes_consume
  · rw [heq] at h
    cases h
  · rw [heq] at h
    cases h

/-- The store that has applied the inputs `applied`, in this order. -/
structure CountsApplied (store : StateStore) (applied : List JournaledFact) : Prop where
  version : store.stateVersion = applied.length
  journal : ∀ key seq, store.appliedFactJournal[key]? = some seq ↔
    ∃ fact, (seq, fact) ∈ applied ∧ fact.factKey = key
  nodup : (applied.map fun input ↦ input.2.factKey).Nodup

theorem countsApplied_new : new.CountsApplied [] where
  version := rfl
  journal key seq := by simp [new]
  nodup := List.nodup_nil

theorem CountsApplied.congr {store' : StateStore} (h : store.CountsApplied applied)
    (hversion : store'.stateVersion = store.stateVersion)
    (hjournal : store'.appliedFactJournal = store.appliedFactJournal) :
    store'.CountsApplied applied where
  version := hversion.trans h.version
  journal := by
    rw [hjournal]
    exact h.journal
  nodup := h.nodup

/-- One more fact, of a key not applied before. -/
theorem CountsApplied.record {store' : StateStore} (h : store.CountsApplied applied)
    (hnew : ¬ store.HasApplied fact.factKey)
    (hversion : store'.stateVersion = store.stateVersion + 1)
    (hjournal : store'.appliedFactJournal =
      store.appliedFactJournal.insert fact.factKey journalSeq) :
    store'.CountsApplied (applied ++ [(journalSeq, fact)]) := by
  have habsent : ∀ seq other, (seq, other) ∈ applied → other.factKey ≠ fact.factKey := by
    intro seq other hmem hkey
    have hlookup := (h.journal other.factKey seq).mpr ⟨other, hmem, rfl⟩
    rw [hkey] at hlookup
    exact hnew (by simp [HasApplied, hlookup])
  refine ⟨?_, ?_, ?_⟩
  · rw [hversion, h.version]
    simp
  · intro key seq
    rw [hjournal, BTreeMap.lookup_insert]
    by_cases hkey : fact.factKey = key
    · rw [if_pos hkey]
      constructor
      · rintro ⟨rfl⟩
        exact ⟨fact, by simp, hkey⟩
      · rintro ⟨other, hmem, hother⟩
        rcases List.mem_append.mp hmem with hold | hlast
        · exact absurd (hother.trans hkey.symm) (habsent seq other hold)
        · obtain ⟨rfl, rfl⟩ : seq = journalSeq ∧ other = fact := by simpa using hlast
          rfl
    · rw [if_neg hkey, h.journal]
      refine exists_congr fun other ↦ and_congr_left fun hother ↦ ?_
      have hne : other ≠ fact := fun he ↦ hkey (he ▸ hother)
      simp [hne]
  · rw [List.map_append, List.nodup_append]
    refine ⟨h.nodup, by simp, ?_⟩
    intro key hkey key' hkey' heq
    obtain ⟨⟨seq, other⟩, hmem, rfl⟩ := List.mem_map.mp hkey
    obtain rfl : key' = fact.factKey := by simpa using hkey'
    exact habsent seq other hmem heq

/-- One call adds its input to the trace exactly when it returns `applied`. -/
theorem CountsApplied.applyStep (h : store.CountsApplied applied) (input : JournaledFact) :
    (store.applyStep input).CountsApplied
      (applied ++ if ReturnsApplied (store.apply input.1 input.2).1 then [input] else []) := by
  obtain ⟨journalSeq, fact⟩ := input
  unfold StateStore.applyStep
  rcases store.apply_cases journalSeq fact with ⟨-, _, heq⟩ | ⟨-, -, _, _, heq⟩ |
      ⟨-, hnew, -, _, _, heq⟩ | ⟨-, -, -, _, _, heq⟩
  · simpa [heq, ReturnsApplied] using h
  · simp only [heq, ReturnsApplied, Bool.false_eq_true, if_false, List.append_nil]
    exact h.congr (by simp) (by simp)
  · simp only [heq, ReturnsApplied, if_true]
    exact h.record hnew (by simp) (by simp)
  · simp only [heq, ReturnsApplied, Bool.false_eq_true, if_false, List.append_nil]
    exact h.congr (by simp) (by simp)

/-- The induction behind every property of a store and its trace. -/
theorem trace_inv {P : StateStore → List JournaledFact → Prop}
    (hstep : ∀ store applied, ∀ input ∈ inputs, P store applied → P (store.applyStep input)
      (applied ++ if ReturnsApplied (store.apply input.1 input.2).1 then [input] else []))
    (h : P store applied) :
    P (run StateStore.applyStep store inputs) (applied ++ appliedInputs store inputs) := by
  induction inputs generalizing store applied with
  | nil => simpa [appliedInputs] using h
  | cons input inputs ih =>
      have hone := hstep store applied input List.mem_cons_self h
      have htail := ih (fun store applied input hmem ↦
        hstep store applied input (List.mem_cons_of_mem _ hmem)) hone
      by_cases happlied : ReturnsApplied (store.apply input.1 input.2).1 = true
      · simpa [appliedInputs, happlied] using htail
      · simpa [appliedInputs, happlied] using htail

/-- A fact of the trace, delivered again, is a duplicate of its application or is
refused. -/
theorem CountsApplied.redelivered (h : store.CountsApplied applied) (hinput : input ∈ applied)
    (hkey : fact.factKey = input.2.factKey) :
    (∃ version, (store.apply journalSeq fact).1 =
        .ok (.duplicate journalSeq input.1 version)) ∨
      ∃ error, (store.apply journalSeq fact).1 = .error error := by
  by_cases hadmits : store.Admits journalSeq fact.factKey
  · have hlookup : store.appliedFactJournal[fact.factKey]? = some input.1 :=
      (h.journal _ _).mpr ⟨input.2, hinput, hkey.symm⟩
    refine .inl ⟨(store.consume journalSeq fact.factKey).stateVersion, ?_⟩
    rw [apply_of_admits hadmits, hlookup]
  · obtain ⟨error, heq⟩ := apply_of_not_admits hadmits
    exact .inr ⟨error, by rw [heq]⟩

/-- New facts that settle, at ascending numbers past every consumed one, are all
applied. -/
theorem appliedInputs_eq_self (hstore : store.JournalOrdered)
    (hlast : ∀ input ∈ inputs, store.lastConsumedJournalSeq.all (· < input.1) = true)
    (hseqs : inputs.Pairwise fun input later ↦ input.1 < later.1)
    (hnew : ∀ input ∈ inputs, ¬ store.HasApplied input.2.factKey)
    (hkeys : (inputs.map fun input ↦ input.2.factKey).Nodup)
    (hsettles : ∀ input ∈ inputs, input.2.applyHint.Settles) :
    appliedInputs store inputs = inputs := by
  induction inputs generalizing store with
  | nil => rfl
  | cons input inputs ih =>
      obtain ⟨hfirst, hseqs⟩ := List.pairwise_cons.mp hseqs
      obtain ⟨hkey, hkeys⟩ := List.nodup_cons.mp hkeys
      have hmem : input ∈ input :: inputs := List.mem_cons_self
      have hfree := hstore.unbound (hlast input hmem)
      have hadmits : store.Admits input.1 input.2.factKey := .inr ⟨hfree, hlast input hmem⟩
      obtain ⟨version, dirtySet, heq⟩ :=
        apply_of_settles hadmits (hnew input hmem) (hsettles input hmem)
      have happlied : ReturnsApplied (store.apply input.1 input.2).1 = true := by
        rw [heq]
        rfl
      rw [appliedInputs, if_pos happlied]
      congr 1
      refine ih (hstore.applyStep input) ?_ hseqs ?_ hkeys fun later hlater ↦
        hsettles later (List.mem_cons_of_mem _ hlater)
      · intro later hlater
        have hconsumed : (store.applyStep input).lastConsumedJournalSeq = some input.1 := by
          rw [(applyStep_journal hadmits).2.1, consume, if_neg (by simp [hfree])]
        rw [hconsumed]
        simpa using hfirst later hlater
      · intro later hlater
        have hne : input.2.factKey ≠ later.2.factKey := fun he ↦
          hkey (List.mem_map.mpr ⟨later, hlater, he.symm⟩)
        have hlaterNew := hnew later (List.mem_cons_of_mem _ hlater)
        unfold StateStore.applyStep HasApplied
        rw [heq]
        simpa [HasApplied, BTreeMap.lookup_insert_of_ne hne] using hlaterNew

/-- **The version counts the applied facts.**  After any sequence of calls on a new
store the version is the number of calls that returned `applied`, and the number of
fact keys they applied.  A further delivery of such a key is a duplicate of the call
that applied it, or is refused; and a call that returns a duplicate or an error
changes the consumed numbers at most. -/
theorem stateVersion_counts_applied (inputs : List JournaledFact) :
    (run applyStep new inputs).stateVersion = (appliedInputs new inputs).length ∧
    (run applyStep new inputs).stateVersion =
      ((appliedInputs new inputs).map fun input ↦ input.2.factKey).dedup.length ∧
    (∀ input ∈ appliedInputs new inputs, ∀ journalSeq fact, fact.factKey = input.2.factKey →
      (∃ version, ((run applyStep new inputs).apply journalSeq fact).1 =
          .ok (.duplicate journalSeq input.1 version)) ∨
        ∃ error, ((run applyStep new inputs).apply journalSeq fact).1 = .error error) ∧
    (∀ journalSeq fact, TurnsAway ((run applyStep new inputs).apply journalSeq fact).1 = true →
      (run applyStep new inputs).OnlyConsumes
        ((run applyStep new inputs).apply journalSeq fact).2) := by
  have h : (run applyStep new inputs).CountsApplied ([] ++ appliedInputs new inputs) :=
    trace_inv (fun _ _ input _ h ↦ h.applyStep input) countsApplied_new
  rw [List.nil_append] at h
  refine ⟨h.version, ?_, ?_, ?_⟩
  · rw [h.nodup.dedup, List.length_map, h.version]
  · intro input hinput journalSeq fact hkey
    exact h.redelivered hinput hkey
  · intro journalSeq fact haway
    exact onlyConsumes_of_turnsAway haway

end StateStore

end AxiomArb.State
