import AxiomArb.AppLive.DurableRecords
import AxiomArb.Journal.Writer
import AxiomArb.Library.Fallible
import AxiomArb.Library.Paging
import AxiomArb.Library.Tally
import AxiomArb.Persistence.FamilyView
import Mathlib.Algebra.Order.BigOperators.Group.List

/-!
# Replaying the journal

A replay reads the entries after a number, up to a limit, and feeds them to a consumer.  A
replay in pages, each page after the last entry that the consumer reports, is one replay
(`replayPages_eq_replay`): the consumer ends in the same state, with the same error if any.

## Honest boundary

* The database answers every read; all that it refuses is a negative limit.
* Counts do not overflow 64 bits.
-/

namespace AxiomArb.AppReplay

open Domain Library Persistence Journal Std

/-! ## The journal table -/

inductive JournalReadError where
  | negativeLimit
deriving DecidableEq, Repr

/-- The rows after a number, in the order of their numbers, up to a limit. -/
def listAfter (journal : List JournalEntryRow) (afterSeq limit : Int) :
    Except JournalReadError (List JournalEntryRow) :=
  if limit < 0 then .error .negativeLimit
  else .ok (page JournalEntryRow.journalSeq journal afterSeq limit.toNat)

/-! ## Entries of rows -/

def parseSourceKind (value : String) : Except String SourceKind :=
  let normalized := (AppLive.trim value).map Char.toLower
  if normalized = "ws_market" ∨ normalized = "wsmarket" then .ok .wsMarket
  else if normalized = "ws_user" ∨ normalized = "wsuser" then .ok .wsUser
  else if normalized = "rest_heartbeat" ∨ normalized = "restheartbeat" then .ok .restHeartbeat
  else if normalized = "internal" ∨ normalized = "test" then .ok .internal
  else .error value

def sourceKindLabel : SourceKind → String
  | .wsMarket => "ws_market"
  | .wsUser => "ws_user"
  | .restHeartbeat => "rest_heartbeat"
  | .internal => "internal"

def mapRow (row : JournalEntryRow) : Except String JournalEntry := do
  let sourceKind ← parseSourceKind row.sourceKind
  return {
    journalSeq := row.journalSeq
    stream := row.stream
    sourceKind
    sourceSessionId := row.sourceSessionId
    sourceEventId := row.sourceEventId
    dedupeKey := row.dedupeKey
    causalParentId := row.causalParentId
    eventType := row.eventType
    eventTs := row.eventTs
    payload := row.payload
    ingestedAt := row.ingestedAt }

/-! ## Consumers -/

structure ReplayConsumer (σ ε : Type) where
  consume : JournalEntry → σ → Except ε Unit × σ

structure ReplayStateSummary where
  processedCount : Nat
  lastJournalSeq : Option Int
  perStream : BTreeMap String Nat
  perSourceKind : BTreeMap String Nat
  perEventType : BTreeMap String Nat

def increment (counts : BTreeMap String Nat) (key : String) : BTreeMap String Nat :=
  counts.insert key (counts[key]?.getD 0 + 1)

namespace ReplayStateSummary

def empty : ReplayStateSummary :=
  { processedCount := 0, lastJournalSeq := none, perStream := ∅, perSourceKind := ∅,
    perEventType := ∅ }

def record (summary : ReplayStateSummary) (entry : JournalEntry) : ReplayStateSummary :=
  { processedCount := summary.processedCount + 1
    lastJournalSeq := some entry.journalSeq
    perStream := increment summary.perStream entry.stream
    perSourceKind := increment summary.perSourceKind (sourceKindLabel entry.sourceKind)
    perEventType := increment summary.perEventType entry.eventType }

end ReplayStateSummary

def SummaryReplayConsumer : ReplayConsumer ReplayStateSummary Empty where
  consume entry summary := (.ok (), summary.record entry)

def NoopReplayConsumer : ReplayConsumer Unit Empty where
  consume _ state := (.ok (), state)

/-! ## Replays -/

section

variable {σ ε : Type}

namespace ReplayConsumer

/-- Entries one after another, up to the first that is refused. -/
def consumeAll (consumer : ReplayConsumer σ ε) : List JournalEntry → σ → Except ε Unit × σ
  | [], state => (.ok (), state)
  | entry :: entries, state =>
      match consumer.consume entry state with
      | (.ok (), state) => consumer.consumeAll entries state
      | refused => refused

end ReplayConsumer

def replayJournal (entries : List JournalEntry) (consumer : ReplayConsumer σ ε) (state : σ) :
    Except ε Unit × σ :=
  consumer.consumeAll (replayEntries entries) state

structure ReplayRange where
  afterSeq : Int
  limit : Option Int
deriving DecidableEq, Repr

def ReplayRange.DEFAULT_LIMIT : Int := 1000

def ReplayRange.effectiveLimit (range : ReplayRange) : Int :=
  range.limit.getD DEFAULT_LIMIT

inductive ReplayRunError (ε : Type) where
  | persistence (error : JournalReadError)
  | invalidSourceKind (value : String)
  | consumer (error : ε)

/-- The entries that a replay feeds to its consumer. -/
def replayedEntries (journal : List JournalEntryRow) (range : ReplayRange) :
    Except (ReplayRunError ε) (List JournalEntry) := do
  let rows ← (listAfter journal range.afterSeq range.effectiveLimit).mapError .persistence
  rows.mapM fun row ↦ (mapRow row).mapError .invalidSourceKind

def replayEventJournalFromPool (journal : List JournalEntryRow) (range : ReplayRange)
    (consumer : ReplayConsumer σ ε) (state : σ) : Except (ReplayRunError ε) Unit × σ :=
  match replayedEntries journal range with
  | .error error => (.error error, state)
  | .ok entries =>
      let (answer, state) := replayJournal entries consumer state
      (answer.mapError .consumer, state)

/-- Replay after replay, each up to its limit, and each after the last entry that the consumer
reports. -/
def replayPages (journal : List JournalEntryRow) (consumer : ReplayConsumer σ ε)
    (last : σ → Option Int) (afterSeq : Int) : List Int → σ → Except (ReplayRunError ε) Unit × σ
  | [], state => (.ok (), state)
  | limit :: limits, state =>
      match replayEventJournalFromPool journal ⟨(last state).getD afterSeq, some limit⟩ consumer
        state with
      | (.ok (), state) => replayPages journal consumer last afterSeq limits state
      | failed => failed

end

/-! ## What a consumer is fed -/

section

variable {σ ε : Type} {consumer : ReplayConsumer σ ε} {journal : List JournalEntryRow}
  {entries entries' : List JournalEntry} {rows : List JournalEntryRow} {state state' : σ}

theorem ReplayConsumer.consumeAll_append :
    consumer.consumeAll (entries ++ entries') state =
      match consumer.consumeAll entries state with
      | (.ok (), state) => consumer.consumeAll entries' state
      | refused => refused := by
  induction entries generalizing state with
  | nil => rfl
  | cons entry entries ih =>
    rw [List.cons_append, consumeAll, consumeAll]
    rcases consumer.consume entry state with ⟨_ | ⟨⟩, state⟩
    · rfl
    · exact ih

theorem journalSeq_of_mapRow {row : JournalEntryRow} {entry : JournalEntry}
    (h : mapRow row = .ok entry) : entry.journalSeq = row.journalSeq := by
  obtain ⟨sourceKind, -, h⟩ := bind_eq_ok.mp h
  cases h
  rfl

/-- A row is an entry if its source kind is one. -/
theorem exists_mapRow {row : JournalEntryRow} {sourceKind : SourceKind}
    (h : parseSourceKind row.sourceKind = .ok sourceKind) : ∃ entry, mapRow row = .ok entry :=
  ⟨_, bind_eq_ok.mpr ⟨sourceKind, h, rfl⟩⟩

theorem listAfter_of_nonneg {limit : Int} (h : 0 ≤ limit) (afterSeq : Int) :
    listAfter journal afterSeq limit =
      .ok (page JournalEntryRow.journalSeq journal afterSeq limit.toNat) := if_neg h.not_gt

theorem map_journalSeq (h : rows.mapM mapRow = .ok entries) :
    entries.map JournalEntry.journalSeq = rows.map fun row ↦ (row.journalSeq : Int) :=
  map_values_eq h fun _ _ _ _ hentry ↦ journalSeq_of_mapRow hentry

theorem pairwise_of_rows (hrows : rows.Pairwise fun row row' ↦ row.journalSeq < row'.journalSeq)
    (h : rows.mapM mapRow = .ok entries) :
    entries.Pairwise fun entry entry' ↦ entry.journalSeq < entry'.journalSeq := by
  rw [← List.pairwise_map (f := JournalEntry.journalSeq), map_journalSeq h, List.pairwise_map]
  exact hrows.imp Int.ofNat_lt.mpr

/-- The rows of a replay stand in order already. -/
theorem replayEntries_of_rows (hrows : rows.Pairwise fun row row' ↦ row.journalSeq < row'.journalSeq)
    (h : rows.mapM mapRow = .ok entries) : replayEntries entries = entries := by
  have hsorted := pairwise_of_rows hrows h
  have hdistinct : (entries.map JournalEntry.journalSeq).Nodup :=
    List.pairwise_map.mpr (hsorted.imp fun hlt ↦ hlt.ne)
  refine List.Perm.eq_of_pairwise (fun _ _ _ _ hlt hgt ↦ absurd hlt hgt.asymm) ?_ hsorted
    (perm_sortByKey _ _)
  exact (pairwise_lt_sortByKey hdistinct).imp fun hlt ↦ compare_lt_iff_lt.mp hlt

theorem exists_entries (h : ∀ row ∈ rows, ∃ sourceKind, parseSourceKind row.sourceKind = .ok sourceKind) :
    ∃ entries, rows.mapM mapRow = .ok entries := by
  induction rows with
  | nil => exact ⟨[], rfl⟩
  | cons row rows ih =>
    obtain ⟨hrow, hrows⟩ := List.forall_mem_cons.mp h
    obtain ⟨sourceKind, hrow⟩ := hrow
    obtain ⟨entry, hentry⟩ := exists_mapRow hrow
    obtain ⟨entries, hentries⟩ := ih hrows
    exact ⟨entry :: entries, mapM_eq_ok_iff.mpr (by
      rw [List.map_cons, List.map_cons, hentry, mapM_eq_ok_iff.mp hentries])⟩

/-- A replay of rows that are entries feeds them to the consumer. -/
theorem replay_of_entries (hdistinct : (journal.map JournalEntryRow.journalSeq).Nodup)
    {afterSeq limit : Int} (hlimit : 0 ≤ limit)
    (h : (page JournalEntryRow.journalSeq journal afterSeq limit.toNat).mapM mapRow = .ok entries) :
    replayEventJournalFromPool journal ⟨afterSeq, some limit⟩ consumer state =
      ((consumer.consumeAll entries state).1.mapError .consumer,
        (consumer.consumeAll entries state).2) := by
  have hentries : replayedEntries (ε := ε) journal ⟨afterSeq, some limit⟩ = .ok entries := by
    have hrange : (ReplayRange.mk afterSeq (some limit)).effectiveLimit = limit := rfl
    rw [replayedEntries, hrange, listAfter_of_nonneg hlimit]
    exact mapM_mapError_eq_ok_iff.mpr h
  rw [replayEventJournalFromPool, hentries]
  simp only [replayJournal]
  rw [replayEntries_of_rows ((pairwise_rowsAfter hdistinct).sublist (List.take_sublist _ _)) h]

/-- What the consumer reports after entries that it took. -/
theorem last_consumeAll {last : σ → Option Int}
    (hreports : ∀ entry state state', consumer.consume entry state = (.ok (), state') →
      last state' = some entry.journalSeq)
    (h : consumer.consumeAll entries state = (.ok (), state')) :
    last state' = (entries.getLast?.map JournalEntry.journalSeq).or (last state) := by
  induction entries generalizing state with
  | nil =>
    cases h
    rfl
  | cons entry entries ih =>
    rw [ReplayConsumer.consumeAll] at h
    split at h
    · rename_i after hconsume
      rw [ih h, hreports entry state after hconsume]
      cases entries with
      | nil => rfl
      | cons entry' entries => rw [List.getLast?_cons_cons, List.getLast?_cons]; rfl
    · rename_i hrefused
      exact absurd h (hrefused _)

/-- Pages that are each read after the last entry the consumer reports are one replay. -/
theorem replayPages_eq_replay (hdistinct : (journal.map JournalEntryRow.journalSeq).Nodup)
    {last : σ → Option Int}
    (hreports : ∀ entry state state', consumer.consume entry state = (.ok (), state') →
      last state' = some entry.journalSeq)
    (afterSeq : Int) (limits : List Int) (hlimits : ∀ limit ∈ limits, 0 ≤ limit) (state : σ)
    (hrows : ∀ rows, listAfter journal ((last state).getD afterSeq) limits.sum = .ok rows →
      ∀ row ∈ rows, ∃ sourceKind, parseSourceKind row.sourceKind = .ok sourceKind) :
    replayPages journal consumer last afterSeq limits state =
      replayEventJournalFromPool journal ⟨(last state).getD afterSeq, some limits.sum⟩ consumer
        state := by
  induction limits generalizing state with
  | nil =>
    rw [replayPages, List.sum_nil]
    exact (replay_of_entries hdistinct le_rfl rfl).symm
  | cons limit limits ih =>
    obtain ⟨hlimit, hlimits⟩ := List.forall_mem_cons.mp hlimits
    have hsum : 0 ≤ limits.sum := List.sum_nonneg hlimits
    rw [List.sum_cons] at hrows ⊢
    set cursor := (last state).getD afterSeq
    have hpages : page JournalEntryRow.journalSeq journal cursor (limit + limits.sum).toNat =
        page JournalEntryRow.journalSeq journal cursor limit.toNat ++
          page JournalEntryRow.journalSeq journal
            (cursorAfter JournalEntryRow.journalSeq cursor
              (page JournalEntryRow.journalSeq journal cursor limit.toNat)) limits.sum.toNat := by
      rw [Int.toNat_add hlimit hsum, page_add hdistinct]
    have hdecode := hrows _ (listAfter_of_nonneg (add_nonneg hlimit hsum) cursor)
    rw [hpages] at hdecode
    obtain ⟨front, hfront⟩ := exists_entries fun row hrow ↦
      hdecode row (List.mem_append_left _ hrow)
    obtain ⟨back, hback⟩ := exists_entries fun row hrow ↦
      hdecode row (List.mem_append_right _ hrow)
    have hboth : (page JournalEntryRow.journalSeq journal cursor
        (limit + limits.sum).toNat).mapM mapRow = .ok (front ++ back) := by
      rw [hpages, mapM_eq_ok_iff, List.map_append, List.map_append, mapM_eq_ok_iff.mp hfront,
        mapM_eq_ok_iff.mp hback]
    rw [replayPages, replay_of_entries hdistinct hlimit hfront,
      replay_of_entries hdistinct (add_nonneg hlimit hsum) hboth, ReplayConsumer.consumeAll_append]
    rcases hconsumed : consumer.consumeAll front state with ⟨_ | ⟨⟩, state'⟩
    · rfl
    · have hcursor : (last state').getD afterSeq = cursorAfter JournalEntryRow.journalSeq cursor
          (page JournalEntryRow.journalSeq journal cursor limit.toNat) := by
        rw [last_consumeAll hreports hconsumed, Option.getD_or, ← List.getLast?_map,
          map_journalSeq hfront, List.getLast?_map]
        rfl
      have hrest := ih hlimits state' fun rows hlist row hrow ↦ by
        rw [hcursor, listAfter_of_nonneg hsum] at hlist
        cases hlist
        exact hdecode row (List.mem_append_right _ hrow)
      rw [hcursor] at hrest
      exact hrest.trans (replay_of_entries hdistinct hsum hback)

end

/-- A row of the journal, written by the market feed. -/
def tradeRow (journalSeq : Nat) : JournalEntryRow where
  stream := "market"
  sourceKind := " WS_Market"
  sourceSessionId := "session"
  sourceEventId := "event"
  dedupeKey := toString journalSeq
  causalParentId := none
  eventType := "trade"
  eventTs := 0
  payload := .null
  journalSeq
  ingestedAt := 0

/-- Of four rows, the second and after it the third and fourth. -/
theorem replayPages_eq_replay_twoPages :
    replayPages ([4, 1, 3, 2].map tradeRow) SummaryReplayConsumer ReplayStateSummary.lastJournalSeq
        1 [1, 2] ReplayStateSummary.empty =
      replayEventJournalFromPool ([4, 1, 3, 2].map tradeRow) ⟨1, some 3⟩ SummaryReplayConsumer
        ReplayStateSummary.empty := by
  refine replayPages_eq_replay (by decide) ?_ 1 [1, 2] (by decide)
    ReplayStateSummary.empty ?_
  · rintro entry summary summary' ⟨⟩
    rfl
  · intro rows hlist row hrow
    rw [listAfter_of_nonneg (by decide)] at hlist
    cases hlist
    obtain ⟨journalSeq, -, rfl⟩ := List.mem_map.mp
      (mem_rowsAfter.mp (List.mem_of_mem_take hrow)).1
    have hkind : parseSourceKind " WS_Market" = .ok .wsMarket := by decide +kernel
    exact ⟨.wsMarket, hkind⟩

end AxiomArb.AppReplay
