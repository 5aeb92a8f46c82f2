import AxiomArb.State.Journal
import AxiomArb.State.References
import AxiomArb.State.Versions

/-!
# Discovery and backfill

A family's backfills may be observed before the family is discovered, and the store
parks them until it is.  `recordOf` and `pendingOf` say what a history of facts comes
to for one family, whatever the order of its facts; `FamiliesAt` says that a store
holds just that, and every application keeps it so.
-/

namespace AxiomArb.State

open Domain Library

/-! ## What a history comes to -/

section History

variable (familyId : String) (event : ExternalFactEvent) (events : List ExternalFactEvent)

/-- The facts that discover the family. -/
def discoveries : List ExternalFactEvent :=
  events.filter fun event ↦ event.payload = some (.familyDiscoveryObserved { familyId })

/-- The cursor and the completion time of a backfill of the family. -/
def backfillOf : Option (String × Option DateTime) :=
  match event.payload with
  | some (.familyBackfillObserved payload) =>
      if payload.familyId = familyId then
        some (payload.cursor, if payload.complete then some event.observedAt else none)
      else
        none
  | _ => none

def backfills : List (String × Option DateTime) := events.filterMap (backfillOf familyId)

def lastCursor : Option String := (backfills familyId events).getLast?.map Prod.fst

/-- The latest completion among the backfills. -/
def lastCompletion : Option DateTime := ((backfills familyId events).filterMap Prod.snd).max?

def sourceOf : DiscoverySourceAnchor :=
  { sourceKind := event.sourceKind
    sourceSessionId := event.sourceSessionId
    sourceEventId := event.sourceEventId
    normalizerVersion := event.normalizerVersion }

/-- The record of a family that has been discovered. -/
def recordOf : Option FamilyDiscoveryRecord :=
  (discoveries familyId events).getLast?.map fun event ↦
    { familyId
      source := sourceOf event
      discoveredAt := event.observedAt
      backfillCursor := lastCursor familyId events
      backfillCompletedAt := lastCompletion familyId events }

/-- What is parked of a family that has not. -/
def pendingOf : Option PendingFamilyBackfill :=
  if discoveries familyId events = [] then
    (lastCursor familyId events).map fun cursor ↦
      { cursor, completedAt := lastCompletion familyId events }
  else
    none

variable {familyId event events}

theorem max?_append_singleton (times : List DateTime) (time : DateTime) :
    (times ++ [time]).max? = maxCompletionTimestamp times.max? (some time) := by
  cases times with
  | nil => rfl
  | cons first rest =>
      rw [List.cons_append, List.max?_cons', List.max?_cons', List.foldl_append]
      rfl

theorem lastCursor_of_backfill {cursor : String} {completedAt : Option DateTime}
    (h : backfillOf familyId event = some (cursor, completedAt))
    (events : List ExternalFactEvent) :
    lastCursor familyId (events ++ [event]) = some cursor := by
  simp [lastCursor, backfills, h]

theorem lastCompletion_of_backfill {cursor : String} {completedAt : Option DateTime}
    (h : backfillOf familyId event = some (cursor, completedAt))
    (events : List ExternalFactEvent) :
    lastCompletion familyId (events ++ [event]) =
      maxCompletionTimestamp (lastCompletion familyId events) completedAt := by
  have hbackfills : backfills familyId (events ++ [event]) =
      backfills familyId events ++ [(cursor, completedAt)] := by
    simp [backfills, h]
  rw [lastCompletion, lastCompletion, hbackfills, List.filterMap_append]
  cases completedAt with
  | none =>
      cases hmax : (List.filterMap Prod.snd (backfills familyId events)).max? <;>
        simp [hmax, maxCompletionTimestamp]
  | some time => exact max?_append_singleton _ time

theorem lastCompletion_of_no_cursor (h : lastCursor familyId events = none) :
    lastCompletion familyId events = none := by
  have hnil : backfills familyId events = [] := by simpa [lastCursor] using h
  simp [lastCompletion, hnil]

theorem backfills_of_other (h : backfillOf familyId event = none) :
    backfills familyId (events ++ [event]) = backfills familyId events := by
  simp [backfills, h]

theorem lastCursor_of_other (h : backfillOf familyId event = none) :
    lastCursor familyId (events ++ [event]) = lastCursor familyId events := by
  rw [lastCursor, lastCursor, backfills_of_other h]

theorem lastCompletion_of_other (h : backfillOf familyId event = none) :
    lastCompletion familyId (events ++ [event]) = lastCompletion familyId events := by
  rw [lastCompletion, lastCompletion, backfills_of_other h]

theorem discoveries_of_discovery
    (h : event.payload = some (.familyDiscoveryObserved { familyId })) :
    discoveries familyId (events ++ [event]) = discoveries familyId events ++ [event] := by
  simp [discoveries, h]

theorem discoveries_of_other
    (h : event.payload ≠ some (.familyDiscoveryObserved { familyId })) :
    discoveries familyId (events ++ [event]) = discoveries familyId events := by
  simp [discoveries, h]

/-- A fact about something else adds nothing to a family. -/
theorem recordOf_of_other
    (hdiscovery : event.payload ≠ some (.familyDiscoveryObserved { familyId }))
    (hbackfill : backfillOf familyId event = none) :
    recordOf familyId (events ++ [event]) = recordOf familyId events := by
  rw [recordOf, recordOf, discoveries_of_other hdiscovery, lastCursor_of_other hbackfill,
    lastCompletion_of_other hbackfill]

theorem pendingOf_of_other
    (hdiscovery : event.payload ≠ some (.familyDiscoveryObserved { familyId }))
    (hbackfill : backfillOf familyId event = none) :
    pendingOf familyId (events ++ [event]) = pendingOf familyId events := by
  rw [pendingOf, pendingOf, discoveries_of_other hdiscovery, lastCursor_of_other hbackfill,
    lastCompletion_of_other hbackfill]

end History

/-! ## What the store holds -/

namespace StateStore

variable {store : StateStore} {journalSeq : Int} {event : ExternalFactEvent}
  {events : List ExternalFactEvent} {inputs : List JournaledFact} {fact : StateFactInput}

/-- The store holds what the history comes to, for every family. -/
structure FamiliesAt (store : StateStore) (events : List ExternalFactEvent) : Prop where
  records : ∀ familyId, store.familyDiscoveryRecords[familyId]? = recordOf familyId events
  pending : ∀ familyId, store.pendingFamilyBackfills[familyId]? = pendingOf familyId events

theorem familiesAt_new : new.FamiliesAt [] where
  records familyId := by simp [new, recordOf, discoveries]
  pending familyId := by simp [new, pendingOf, discoveries, lastCursor, backfills]

theorem FamiliesAt.congr {store' : StateStore} (h : store.FamiliesAt events)
    (hrecords : store'.familyDiscoveryRecords = store.familyDiscoveryRecords)
    (hpending : store'.pendingFamilyBackfills = store.pendingFamilyBackfills) :
    store'.FamiliesAt events where
  records := by
    rw [hrecords]
    exact h.records
  pending := by
    rw [hpending]
    exact h.pending

/-- A fact that is neither leaves the families alone. -/
theorem FamiliesAt.other (h : store.FamiliesAt events)
    (hdiscovery : ∀ familyId, event.payload ≠ some (.familyDiscoveryObserved { familyId }))
    (hbackfill : ∀ familyId, backfillOf familyId event = none) :
    store.FamiliesAt (events ++ [event]) where
  records familyId := by
    rw [h.records, recordOf_of_other (hdiscovery familyId) (hbackfill familyId)]
  pending familyId := by
    rw [h.pending, pendingOf_of_other (hdiscovery familyId) (hbackfill familyId)]

/-- A discovery takes in what is known of the backfill, recorded or parked. -/
theorem FamiliesAt.records_discovery {familyId : String} (h : store.FamiliesAt events) :
    (store.recordFamilyDiscovery (familyDiscoveryRecord (FactKey.fromEvent event) { familyId }
      event.observedAt)).familyDiscoveryRecords =
        store.familyDiscoveryRecords.insert familyId
          { familyId
            source := sourceOf event
            discoveredAt := event.observedAt
            backfillCursor := lastCursor familyId events
            backfillCompletedAt := lastCompletion familyId events } := by
  have hrecord := h.records familyId
  have hpending := h.pending familyId
  simp only [recordFamilyDiscovery, familyDiscoveryRecord, FamilyDiscoveryRecord.new]
  by_cases hdiscovered : discoveries familyId events = []
  · rw [recordOf, hdiscovered] at hrecord
    rw [pendingOf, if_pos hdiscovered] at hpending
    cases hcursor : lastCursor familyId events with
    | none =>
        have hcompletion := lastCompletion_of_no_cursor hcursor
        rw [hcursor, Option.map_none] at hpending
        simp only [hrecord, hpending, hcompletion, List.getLast?_nil, Option.map_none]
        rfl
    | some cursor =>
        rw [hcursor, Option.map_some] at hpending
        simp only [hrecord, hpending, List.getLast?_nil, Option.map_none,
          FamilyDiscoveryRecord.recordBackfill, maxCompletionTimestamp]
        cases lastCompletion familyId events <;> rfl
  · obtain ⟨last, hlast⟩ := Option.ne_none_iff_exists'.mp
      (mt List.getLast?_eq_none_iff.mp hdiscovered)
    rw [recordOf, hlast, Option.map_some] at hrecord
    rw [pendingOf, if_neg hdiscovered] at hpending
    simp only [hrecord, hpending]
    rfl

theorem pendingFamilyBackfills_discovery (record : FamilyDiscoveryRecord) :
    (store.recordFamilyDiscovery record).pendingFamilyBackfills =
      store.pendingFamilyBackfills.erase record.familyId := by
  simp only [recordFamilyDiscovery]
  cases store.familyDiscoveryRecords[record.familyId]? <;> rfl

theorem FamiliesAt.discovery {familyId : String} (h : store.FamiliesAt events)
    (hpayload : event.payload = some (.familyDiscoveryObserved { familyId })) :
    (store.recordFamilyDiscovery (familyDiscoveryRecord (FactKey.fromEvent event) { familyId }
      event.observedAt)).FamiliesAt (events ++ [event]) := by
  have hnone : ∀ other, backfillOf other event = none := fun other ↦ by simp [backfillOf, hpayload]
  have hother : ∀ other, familyId ≠ other →
      event.payload ≠ some (.familyDiscoveryObserved { familyId := other }) := by
    intro other hne heq
    rw [hpayload] at heq
    cases heq
    exact hne rfl
  refine ⟨fun other ↦ ?_, fun other ↦ ?_⟩
  · rw [h.records_discovery, BTreeMap.lookup_insert]
    by_cases hfamily : familyId = other
    · subst hfamily
      rw [if_pos rfl, recordOf, discoveries_of_discovery hpayload, lastCursor_of_other (hnone _),
        lastCompletion_of_other (hnone _), List.getLast?_concat]
      rfl
    · rw [if_neg hfamily, h.records, recordOf_of_other (hother other hfamily) (hnone other)]
  · rw [pendingFamilyBackfills_discovery]
    show (store.pendingFamilyBackfills.erase familyId)[other]? = _
    by_cases hfamily : familyId = other
    · subst hfamily
      rw [pendingOf, discoveries_of_discovery hpayload, if_neg (by simp)]
      simp
    · rw [BTreeMap.lookup_erase_of_ne hfamily, h.pending,
        pendingOf_of_other (hother other hfamily) (hnone other)]

/-- A backfill is recorded where the family has a record, and parked where it has none. -/
theorem FamiliesAt.backfill {familyId cursor : String} {completedAt : Option DateTime}
    (h : store.FamiliesAt events) (hbackfill : backfillOf familyId event = some (cursor, completedAt))
    (hother : ∀ other, familyId ≠ other → backfillOf other event = none)
    (hdiscovery : ∀ other, event.payload ≠ some (.familyDiscoveryObserved { familyId := other })) :
    (store.recordFamilyBackfill familyId cursor completedAt).FamiliesAt (events ++ [event]) := by
  have hcursor := lastCursor_of_backfill hbackfill events
  have hcompletion := lastCompletion_of_backfill hbackfill events
  have hrecord := h.records familyId
  have hpending := h.pending familyId
  unfold recordFamilyBackfill
  by_cases hdiscovered : discoveries familyId events = []
  · rw [recordOf, hdiscovered, List.getLast?_nil, Option.map_none] at hrecord
    rw [pendingOf, if_pos hdiscovered] at hpending
    simp only [hrecord]
    refine ⟨fun other ↦ ?_, fun other ↦ ?_⟩
    · by_cases hfamily : familyId = other
      · subst hfamily
        show store.familyDiscoveryRecords[familyId]? = _
        rw [hrecord, recordOf, discoveries_of_other (hdiscovery familyId), hdiscovered]
        rfl
      · show store.familyDiscoveryRecords[other]? = _
        rw [h.records, recordOf_of_other (hdiscovery other) (hother other hfamily)]
    · rw [BTreeMap.lookup_insert]
      by_cases hfamily : familyId = other
      · subst hfamily
        rw [if_pos rfl, pendingOf, discoveries_of_other (hdiscovery familyId), if_pos hdiscovered,
          hcursor, hcompletion]
        cases hlast : lastCursor familyId events with
        | none =>
            rw [hlast, Option.map_none] at hpending
            simp only [hpending, lastCompletion_of_no_cursor hlast]
            cases completedAt <;> rfl
        | some last =>
            rw [hlast, Option.map_some] at hpending
            simp only [hpending]
            cases lastCompletion familyId events <;> cases completedAt <;> rfl
      · rw [if_neg hfamily, h.pending, pendingOf_of_other (hdiscovery other) (hother other hfamily)]
  · obtain ⟨last, hlast⟩ := Option.ne_none_iff_exists'.mp
      (mt List.getLast?_eq_none_iff.mp hdiscovered)
    rw [recordOf, hlast, Option.map_some] at hrecord
    rw [pendingOf, if_neg hdiscovered] at hpending
    simp only [hrecord]
    refine ⟨fun other ↦ ?_, fun other ↦ ?_⟩
    · rw [BTreeMap.lookup_insert]
      by_cases hfamily : familyId = other
      · subst hfamily
        rw [if_pos rfl, recordOf, discoveries_of_other (hdiscovery familyId), hlast, hcursor,
          hcompletion]
        rfl
      · rw [if_neg hfamily, h.records, recordOf_of_other (hdiscovery other) (hother other hfamily)]
    · by_cases hfamily : familyId = other
      · subst hfamily
        show store.pendingFamilyBackfills[familyId]? = _
        rw [hpending, pendingOf, discoveries_of_other (hdiscovery familyId), if_neg hdiscovered]
      · show store.pendingFamilyBackfills[other]? = _
        rw [h.pending, pendingOf_of_other (hdiscovery other) (hother other hfamily)]

/-- A fact that settles adds itself to the history. -/
theorem FamiliesAt.absorb (h : store.FamiliesAt events) (hbuilt : fact.Built)
    (hsettles : fact.applyHint.Settles) :
    (store.absorb fact.applyHint).FamiliesAt (events ++ [fact.event]) := by
  rcases hbuilt with hnew | htrade
  · generalize fact.event = event at hnew
    subst hnew
    cases hpayload : event.payload with
    | none =>
        have hhint : (StateFactInput.new event).applyHint = .none := by
          simp [StateFactInput.new, StateFactInput.applyHint, hpayload]
        rw [hhint]
        exact h.other (by simp [hpayload]) (by simp [backfillOf, hpayload])
    | some data =>
        cases data with
        | familyDiscoveryObserved payload =>
            have hhint : (StateFactInput.new event).applyHint = .familyDiscovery
                (familyDiscoveryRecord (FactKey.fromEvent event) payload event.observedAt) := by
              simp [StateFactInput.new, StateFactInput.applyHint, hpayload]
            rw [hhint]
            exact h.discovery hpayload
        | familyBackfillObserved payload =>
            have hhint : (StateFactInput.new event).applyHint =
                .familyBackfill payload.familyId payload.cursor
                  (if payload.complete then some event.observedAt else none) := by
              simp [StateFactInput.new, StateFactInput.applyHint, hpayload]
            rw [hhint]
            refine h.backfill ?_ ?_ (by simp [hpayload])
            · simp [backfillOf, hpayload]
            · intro other hne
              simp [backfillOf, hpayload, hne]
        | negRiskLiveSubmitObserved payload =>
            simp [StateFactInput.new, StateFactInput.applyHint, hpayload,
              FactApplyHint.Settles] at hsettles
        | negRiskLiveReconcileObserved payload =>
            have hhint : (StateFactInput.new event).applyHint =
                .liveReconcileObserved payload.pendingRef payload.terminal := by
              simp [StateFactInput.new, StateFactInput.applyHint, hpayload]
            rw [hhint]
            refine (h.other (by simp [hpayload]) (by simp [backfillOf, hpayload])).congr ?_ ?_
            · cases payload.terminal <;> simp [StateStore.absorb, clearPendingReconcile]
            · cases payload.terminal <;> simp [StateStore.absorb, clearPendingReconcile]
        | runtimeAttentionObserved payload =>
            refine (h.other (by simp [hpayload]) (by simp [backfillOf, hpayload])).congr ?_ ?_
            all_goals
              simp only [StateFactInput.new, StateFactInput.applyHint, hpayload]
              split <;> rfl
  · rw [htrade] at hsettles
    exact hsettles.elim

/-- One application adds its fact to the history exactly when it returns `applied`. -/
theorem FamiliesAt.applyStep {applied : List JournaledFact} {input : JournaledFact}
    (h : store.FamiliesAt (applied.map fun input ↦ input.2.event)) (hbuilt : input.2.Built) :
    (store.applyStep input).FamiliesAt
      ((applied ++ if ReturnsApplied (store.apply input.1 input.2).1 then [input] else []).map
        fun input ↦ input.2.event) := by
  obtain ⟨journalSeq, fact⟩ := input
  have hconsumed : (store.consume journalSeq fact.factKey).FamiliesAt
      (applied.map fun input ↦ input.2.event) := h.congr (by simp) (by simp)
  unfold StateStore.applyStep
  rcases store.apply_cases journalSeq fact with ⟨-, _, heq⟩ | ⟨-, -, _, _, heq⟩ |
      ⟨-, -, hsettles, _, _, heq⟩ | ⟨-, -, hopen, _, _, heq⟩
  · simpa [heq, ReturnsApplied] using h
  · simpa [heq, ReturnsApplied] using hconsumed
  · simp only [heq, ReturnsApplied, if_true, List.map_append]
    exact (hconsumed.absorb hbuilt hsettles).congr (by simp) (by simp)
  · obtain ⟨hrecords, hpending, -⟩ :=
      absorb_of_open (store.consume journalSeq fact.factKey) fact.applyHint hopen
    simp only [heq, ReturnsApplied, Bool.false_eq_true, if_false, List.append_nil]
    exact hconsumed.congr (by simp [hrecords]) (by simp [hpending])

/-- Whatever run of facts led to a store, its families are what the applied facts come
to, in the order of their application. -/
theorem familiesAt_run (hbuilt : ∀ input ∈ inputs, input.2.Built) :
    (run StateStore.applyStep new inputs).FamiliesAt
      ((appliedInputs new inputs).map fun input ↦ input.2.event) := by
  show (run StateStore.applyStep new inputs).FamiliesAt
    (([] ++ appliedInputs new inputs : List JournaledFact).map fun input ↦ input.2.event)
  refine trace_inv
    (P := fun (store : StateStore) (applied : List JournaledFact) ↦
      store.FamiliesAt (applied.map fun input ↦ input.2.event))
    (fun _ _ input hmem h ↦ h.applyStep (hbuilt input hmem)) ?_
  exact familiesAt_new

/-- An event that discovers or backfills a family. -/
def AboutFamily (event : ExternalFactEvent) : Prop :=
  (∃ payload, event.payload = some (.familyDiscoveryObserved payload)) ∨
    ∃ payload, event.payload = some (.familyBackfillObserved payload)

theorem settles_of_aboutFamily (h : AboutFamily event) :
    (StateFactInput.new event).applyHint.Settles := by
  rcases h with ⟨payload, hpayload⟩ | ⟨payload, hpayload⟩ <;>
    simp [StateFactInput.new, StateFactInput.applyHint, hpayload, FactApplyHint.Settles]

/-- The events, delivered as facts at their numbers. -/
def delivered (inputs : List (Int × ExternalFactEvent)) : List JournaledFact :=
  inputs.map fun input ↦ (input.1, .new input.2)

theorem events_delivered (inputs : List (Int × ExternalFactEvent)) :
    (delivered inputs).map (fun input ↦ input.2.event) = inputs.map Prod.snd := by
  rw [delivered, List.map_map]
  rfl

theorem appliedInputs_delivered {inputs : List (Int × ExternalFactEvent)}
    (hfamily : ∀ input ∈ inputs, AboutFamily input.2)
    (hkeys : (inputs.map fun input ↦ FactKey.fromEvent input.2).Nodup)
    (hseqs : inputs.Pairwise fun input later ↦ input.1 < later.1) :
    appliedInputs new (delivered inputs) = delivered inputs := by
  refine appliedInputs_eq_self journalOrdered_new ?_ ?_ ?_ ?_ ?_
  · exact fun _ _ ↦ rfl
  · simpa [delivered, List.pairwise_map] using hseqs
  · exact fun _ _ ↦ by simp [HasApplied, new]
  · simpa [delivered, Function.comp_def] using hkeys
  · intro input hmem
    obtain ⟨⟨seq, event⟩, hevent, rfl⟩ := List.mem_map.mp hmem
    exact settles_of_aboutFamily (hfamily _ hevent)

theorem familiesAt_delivered {inputs : List (Int × ExternalFactEvent)}
    (hfamily : ∀ input ∈ inputs, AboutFamily input.2)
    (hkeys : (inputs.map fun input ↦ FactKey.fromEvent input.2).Nodup)
    (hseqs : inputs.Pairwise fun input later ↦ input.1 < later.1) :
    (run StateStore.applyStep new (delivered inputs)).FamiliesAt (inputs.map Prod.snd) := by
  have hbuilt : ∀ input ∈ delivered inputs, input.2.Built := by
    intro input hmem
    obtain ⟨⟨seq, event⟩, -, rfl⟩ := List.mem_map.mp hmem
    exact .inl rfl
  have h := familiesAt_run hbuilt
  rwa [appliedInputs_delivered hfamily hkeys hseqs, events_delivered] at h

/-- A completion is never taken back by a longer history. -/
theorem lastCompletion_mono {familyId : String} {more : List ExternalFactEvent} {time : DateTime}
    (h : lastCompletion familyId events = some time) :
    ∃ time', lastCompletion familyId (events ++ more) = some time' ∧ time ≤ time' := by
  have hmem : time ∈ (backfills familyId (events ++ more)).filterMap Prod.snd := by
    rw [backfills, List.filterMap_append, List.filterMap_append]
    exact List.mem_append_left _ (List.max?_mem h)
  obtain ⟨time', htime'⟩ := Option.ne_none_iff_exists'.mp
    (mt List.max?_eq_none_iff.mp (List.ne_nil_of_mem hmem))
  exact ⟨time', htime', (List.max?_eq_some_iff.mp htime').2 time hmem⟩

/-- **Backfill and discovery commute.**  After discoveries and backfills with distinct
keys, delivered at ascending numbers in any order, a family has a record exactly if it
was discovered.  The record then carries the source and the time of the last discovery,
the cursor of the last backfill and the latest completion, which never regresses. -/
theorem backfill_commutes_with_discovery (inputs : List (Int × ExternalFactEvent))
    (hfamily : ∀ input ∈ inputs, AboutFamily input.2)
    (hkeys : (inputs.map fun input ↦ FactKey.fromEvent input.2).Nodup)
    (hseqs : inputs.Pairwise fun input later ↦ input.1 < later.1) (familyId : String) :
    ((∃ record, (run StateStore.applyStep new (delivered inputs)).familyDiscoveryRecords[
        familyId]? = some record) ↔ discoveries familyId (inputs.map Prod.snd) ≠ []) ∧
    ∀ record, (run StateStore.applyStep new (delivered inputs)).familyDiscoveryRecords[
        familyId]? = some record →
      record.familyId = familyId ∧
      record.backfillCursor = lastCursor familyId (inputs.map Prod.snd) ∧
      record.backfillCompletedAt = lastCompletion familyId (inputs.map Prod.snd) ∧
      (∃ event, (discoveries familyId (inputs.map Prod.snd)).getLast? = some event ∧
        record.source = sourceOf event ∧ record.discoveredAt = event.observedAt) ∧
      ∀ earlier, earlier <+: inputs → ∀ record',
        (run StateStore.applyStep new (delivered earlier)).familyDiscoveryRecords[familyId]? =
          some record' → ∀ time, record'.backfillCompletedAt = some time →
          ∃ time', record.backfillCompletedAt = some time' ∧ time ≤ time' := by
  have hrecords := (familiesAt_delivered hfamily hkeys hseqs).records familyId
  rw [hrecords]
  constructor
  · rw [← Option.ne_none_iff_exists', recordOf, Ne, Option.map_eq_none_iff,
      List.getLast?_eq_none_iff]
  · intro record hrecord
    obtain ⟨event, hlast, rfl⟩ := Option.map_eq_some_iff.mp hrecord
    refine ⟨rfl, rfl, rfl, ⟨event, hlast, rfl, rfl⟩, ?_⟩
    intro earlier hearlier record' hrecord' time htime
    have hsub := hearlier.sublist
    rw [(familiesAt_delivered (fun input hmem ↦ hfamily input (hsub.subset hmem))
      (hkeys.sublist (hsub.map _)) (hseqs.sublist hsub)).records familyId] at hrecord'
    obtain ⟨event', -, rfl⟩ := Option.map_eq_some_iff.mp hrecord'
    obtain ⟨more, rfl⟩ := hearlier
    rw [List.map_append]
    exact lastCompletion_mono htime

/-- A family backfilled to completion, discovered, backfilled further and discovered
again. -/
theorem backfill_commutes_with_discovery_rediscovered :
    let inputs : List (Int × ExternalFactEvent) :=
      [(1, .familyBackfillObserved "discovery" "1" "family" "cursor-1" true 5),
        (2, .familyDiscoveryObserved "discovery" "2" "family" 6),
        (3, .familyBackfillObserved "discovery" "3" "family" "cursor-2" false 7),
        (4, .familyDiscoveryObserved "discovery" "4" "family" 8)]
    ∃ record, (run StateStore.applyStep new (delivered inputs)).familyDiscoveryRecords[
        "family"]? = some record ∧ record.backfillCursor = some "cursor-2" ∧
      record.backfillCompletedAt = some 5 ∧ record.discoveredAt = 8 := by
  intro inputs
  obtain ⟨hiff, hrecord⟩ := backfill_commutes_with_discovery inputs
    (by simp [inputs, AboutFamily, ExternalFactEvent.familyBackfillObserved,
      ExternalFactEvent.familyDiscoveryObserved]) (by decide) (by decide) "family"
  obtain ⟨record, hlookup⟩ := hiff.mpr (by decide)
  obtain ⟨-, hcursor, hcompletion, ⟨event, hlast, -, hdiscovered⟩, -⟩ := hrecord record hlookup
  refine ⟨record, hlookup, hcursor, hcompletion, ?_⟩
  obtain rfl : event = .familyDiscoveryObserved "discovery" "4" "family" 8 := by
    have hdecide : (discoveries "family" (inputs.map Prod.snd)).getLast? =
      some (.familyDiscoveryObserved "discovery" "4" "family" 8) := by decide
    exact Option.some.inj (hlast.symm.trans hdecide)
  exact hdiscovered

end StateStore

end AxiomArb.State
