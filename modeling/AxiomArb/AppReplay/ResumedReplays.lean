import AxiomArb.AppReplay.Replay

/-!
# Replays beside writers

A row of the journal gets its number when it is inserted and is seen by others once its
transaction commits, so that rows need not become visible in the order of their numbers.  Replays
between the commits, each after the last entry that was consumed, consume a row at most once and
in the order of the numbers.  A row that replays have passed is consumed unless it was committed
when they had passed it already (`consumed_iff_notPassed`).

## Honest boundary

* An insert that the table refuses is one that is rolled back; it has used up its number too.
-/

namespace AxiomArb.AppReplay

open Domain Library Persistence Journal Std

/-! ## Writers and replays -/

namespace ReplayConsumer

variable {σ ε : Type}

/-- Note the entries that a consumer takes. -/
def noting (consumer : ReplayConsumer σ ε) : ReplayConsumer (σ × List JournalEntry) ε where
  consume entry := fun (state, noted) ↦
    match consumer.consume entry state with
    | (.ok (), state) => (.ok (), state, noted ++ [entry])
    | (.error error, state) => (.error error, state, noted)

end ReplayConsumer

structure ReplayedJournal (σ : Type) where
  nextSeq : Nat
  /-- Rows whose transactions have neither committed nor rolled back. -/
  pending : List JournalEntryRow
  journal : List JournalEntryRow
  state : σ
  consumed : List JournalEntry
  /-- Rows committed when replays already read after their numbers. -/
  passed : List JournalEntryRow

inductive ReplayedJournalStep where
  | insert (input : JournalEntryInput) (now : DateTime)
  | commit (i : Nat)
  | rollback (i : Nat)
  | replay (limit : Option Int)

namespace ReplayedJournal

variable {σ ε : Type}

def new (state : σ) : ReplayedJournal σ :=
  { nextSeq := 1, pending := [], journal := [], state, consumed := [], passed := [] }

/-- The number after which the next replay reads. -/
def cursor (fromSeq : Int) (replayed : ReplayedJournal σ) : Int :=
  (replayed.consumed.getLast?.map JournalEntry.journalSeq).getD fromSeq

def step (consumer : ReplayConsumer σ ε) (fromSeq : Int) (replayed : ReplayedJournal σ) :
    ReplayedJournalStep → ReplayedJournal σ
  | .insert input now =>
      { replayed with
        nextSeq := replayed.nextSeq + 1
        pending := replayed.pending ++
          [{ input with journalSeq := replayed.nextSeq, ingestedAt := now }] }
  | .commit i =>
      match replayed.pending[i]? with
      | none => replayed
      | some row =>
          { replayed with
            pending := replayed.pending.eraseIdx i
            journal := replayed.journal ++ [row]
            passed :=
              if row.journalSeq ≤ replayed.cursor fromSeq then replayed.passed ++ [row]
              else replayed.passed }
  | .rollback i => { replayed with pending := replayed.pending.eraseIdx i }
  | .replay limit =>
      let (_, state, consumed) := replayEventJournalFromPool replayed.journal
        ⟨replayed.cursor fromSeq, limit⟩ consumer.noting (replayed.state, replayed.consumed)
      { replayed with state, consumed }

end ReplayedJournal

/-! ## What a replay consumes -/

section

variable {σ ε : Type} (consumer : ReplayConsumer σ ε) {journal : List JournalEntryRow}

/-- A consumer that notes what it takes has noted an initial part of the entries. -/
theorem exists_noted (entries : List JournalEntry) (state : σ) (noted : List JournalEntry) :
    ∃ taken, taken <+: entries ∧
      (consumer.noting.consumeAll entries (state, noted)).2.2 = noted ++ taken := by
  induction entries generalizing state noted with
  | nil => exact ⟨[], List.prefix_rfl, (List.append_nil _).symm⟩
  | cons entry entries ih =>
    rw [ReplayConsumer.consumeAll]
    have hconsume : consumer.noting.consume entry (state, noted) =
        match consumer.consume entry state with
        | (.ok (), state) => (.ok (), state, noted ++ [entry])
        | (.error error, state) => (.error error, state, noted) := rfl
    rw [hconsume]
    rcases consumer.consume entry state with ⟨error | ⟨⟩, state'⟩
    · exact ⟨[], List.nil_prefix, (List.append_nil _).symm⟩
    · obtain ⟨taken, hfront, hnoted⟩ := ih state' (noted ++ [entry])
      refine ⟨entry :: taken, List.cons_prefix_cons.mpr ⟨rfl, hfront⟩, hnoted.trans ?_⟩
      rw [List.append_assoc, List.singleton_append]

/-- Whatever becomes of a replay, it has consumed the entries of the first rows after the cursor
up to some row. -/
theorem exists_replayed (hdistinct : (journal.map JournalEntryRow.journalSeq).Nodup)
    (range : ReplayRange) (state : σ) (noted : List JournalEntry) :
    ∃ rows entries, rows <+: rowsAfter JournalEntryRow.journalSeq journal range.afterSeq ∧
      rows.mapM mapRow = .ok entries ∧
      (replayEventJournalFromPool journal range consumer.noting (state, noted)).2.2 =
        noted ++ entries := by
  rw [replayEventJournalFromPool]
  cases hentries : replayedEntries (ε := ε) journal range with
  | error error => exact ⟨[], [], List.nil_prefix, rfl, (List.append_nil _).symm⟩
  | ok entries =>
    obtain ⟨rows, hrows, hmap⟩ := bind_eq_ok.mp hentries
    replace hrows := mapError_eq_ok_iff.mp hrows
    replace hmap := mapM_mapError_eq_ok_iff.mp hmap
    obtain ⟨taken, htaken, hnoted⟩ := exists_noted consumer entries state noted
    rw [listAfter] at hrows
    split_ifs at hrows with hnegative
    obtain rfl := Except.ok.inj hrows
    have hfront : page JournalEntryRow.journalSeq journal range.afterSeq
        range.effectiveLimit.toNat <+: rowsAfter JournalEntryRow.journalSeq journal range.afterSeq :=
      List.take_prefix _ _
    have hsorted := replayEntries_of_rows
      ((pairwise_rowsAfter hdistinct).sublist hfront.sublist) hmap
    refine ⟨(page JournalEntryRow.journalSeq journal range.afterSeq
      range.effectiveLimit.toNat).take taken.length, taken,
      (List.take_prefix _ _).trans hfront, ?_, ?_⟩
    · rw [mapM_eq_ok_iff] at hmap ⊢
      rw [List.map_take, hmap, ← List.map_take, ← List.prefix_iff_eq_take.mp htaken]
    · simp only [replayJournal]
      rw [hsorted]
      exact hnoted

end

/-! ## Runs -/

variable {σ ε : Type} {consumer : ReplayConsumer σ ε} {fromSeq : Int} {replayed : ReplayedJournal σ}

/-- What holds of the rows and of what has been consumed, whatever was done. -/
structure ReplayedJournal.Inv (fromSeq : Int) (replayed : ReplayedJournal σ) : Prop where
  distinct : ((replayed.journal ++ replayed.pending).map JournalEntryRow.journalSeq).Nodup
  below : ∀ row ∈ replayed.journal ++ replayed.pending, row.journalSeq < replayed.nextSeq
  ascending : replayed.consumed.Pairwise fun entry entry' ↦ entry.journalSeq < entry'.journalSeq
  known : ∀ entry ∈ replayed.consumed, ∃ row ∈ replayed.journal, mapRow row = .ok entry
  passed_le : ∀ row ∈ replayed.passed, row.journalSeq ≤ replayed.cursor fromSeq
  passed_mem : ∀ row ∈ replayed.passed, row ∈ replayed.journal
  consumed_iff : ∀ row ∈ replayed.journal, (∃ entry ∈ replayed.consumed, mapRow row = .ok entry) ↔
    row.journalSeq ≤ replayed.cursor fromSeq ∧ row ∉ replayed.passed

namespace ReplayedJournal

theorem inv_new (fromSeq : Int) (state : σ) : (new state).Inv fromSeq where
  distinct := .nil
  below := List.forall_mem_nil _
  ascending := .nil
  known := List.forall_mem_nil _
  passed_le := List.forall_mem_nil _
  passed_mem := List.forall_mem_nil _
  consumed_iff := List.forall_mem_nil _

theorem Inv.distinct_journal (h : replayed.Inv fromSeq) :
    (replayed.journal.map JournalEntryRow.journalSeq).Nodup :=
  ((List.sublist_append_left _ _).map _).nodup h.distinct

/-- Rows of one number are one row. -/
theorem Inv.eq_of_journalSeq_eq (h : replayed.Inv fromSeq) {row row' : JournalEntryRow}
    (hrow : row ∈ replayed.journal) (hrow' : row' ∈ replayed.journal)
    (heq : row.journalSeq = row'.journalSeq) : row = row' :=
  List.inj_on_of_nodup_map h.distinct_journal hrow hrow' heq

theorem Inv.insert (h : replayed.Inv fromSeq) (input : JournalEntryInput) (now : DateTime) :
    (replayed.step consumer fromSeq (.insert input now)).Inv fromSeq where
  distinct := by
    show ((replayed.journal ++ (replayed.pending ++ [_])).map JournalEntryRow.journalSeq).Nodup
    rw [← List.append_assoc, List.map_append, List.nodup_append]
    refine ⟨h.distinct, List.nodup_singleton _, ?_⟩
    intro number hnumber number' hnumber'
    obtain ⟨row, hrow, rfl⟩ := List.mem_map.mp hnumber
    rw [List.mem_singleton.mp hnumber']
    exact (h.below row hrow).ne
  below := by
    intro row hrow
    show row.journalSeq < replayed.nextSeq + 1
    rw [step, ← List.append_assoc] at hrow
    rcases List.mem_append.mp hrow with hrow | hrow
    · exact Nat.lt_succ_of_lt (h.below row hrow)
    · rw [List.mem_singleton.mp hrow]
      exact Nat.lt_succ_self _
  ascending := h.ascending
  known := h.known
  passed_le := h.passed_le
  passed_mem := h.passed_mem
  consumed_iff := h.consumed_iff

theorem Inv.rollback (h : replayed.Inv fromSeq) (i : Nat) :
    (replayed.step consumer fromSeq (.rollback i)).Inv fromSeq := by
  have hsublist : (replayed.journal ++ replayed.pending.eraseIdx i).Sublist
      (replayed.journal ++ replayed.pending) :=
    (List.eraseIdx_sublist _ i).append_left _
  exact { h with
    distinct := (hsublist.map _).nodup h.distinct
    below := fun row hrow ↦ h.below row (hsublist.subset hrow) }

theorem Inv.commit (h : replayed.Inv fromSeq) (i : Nat) :
    (replayed.step consumer fromSeq (.commit i)).Inv fromSeq := by
  rw [step]
  split
  · exact h
  rename_i row hi
  obtain ⟨hlt, hget⟩ := List.getElem?_eq_some_iff.mp hi
  have hperm : (replayed.journal ++ [row] ++ replayed.pending.eraseIdx i).Perm
      (replayed.journal ++ replayed.pending) := by
    rw [List.append_assoc, List.singleton_append, ← hget]
    exact (List.getElem_cons_eraseIdx_perm hlt).append_left _
  have hdistinct := (hperm.map JournalEntryRow.journalSeq).nodup_iff.mpr h.distinct
  -- the row is not one of those that were visible before
  have hnew : ∀ row' ∈ replayed.journal, row'.journalSeq ≠ row.journalSeq := by
    intro row' hrow'
    rw [List.map_append, List.map_append, List.nodup_append] at hdistinct
    exact (List.nodup_append.mp hdistinct.1).2.2 _ (List.mem_map_of_mem hrow') _
      (List.mem_singleton_self _)
  refine ⟨hdistinct, fun row' hrow' ↦ h.below row' (hperm.mem_iff.mp hrow'), h.ascending, ?_, ?_,
    ?_, ?_⟩
  · intro entry hentry
    obtain ⟨row', hrow', hmap⟩ := h.known entry hentry
    exact ⟨row', List.mem_append_left _ hrow', hmap⟩
  · intro row' hrow'
    show row'.journalSeq ≤ replayed.cursor fromSeq
    dsimp only at hrow'
    split_ifs at hrow' with hpassed
    · rcases List.mem_append.mp hrow' with hrow' | hrow'
      · exact h.passed_le row' hrow'
      · rw [List.mem_singleton.mp hrow']
        exact hpassed
    · exact h.passed_le row' hrow'
  · intro row' hrow'
    dsimp only at hrow'
    split_ifs at hrow'
    · rcases List.mem_append.mp hrow' with hrow' | hrow'
      · exact List.mem_append_left _ (h.passed_mem row' hrow')
      · exact List.mem_append_right _ hrow'
    · exact List.mem_append_left _ (h.passed_mem row' hrow')
  · intro row' hrow'
    show _ ↔ row'.journalSeq ≤ replayed.cursor fromSeq ∧ _
    rcases List.mem_append.mp hrow' with hold | hrow'
    · rw [h.consumed_iff row' hold]
      refine and_congr_right fun _ ↦ not_congr ?_
      dsimp only
      split_ifs
      · rw [List.mem_append, List.mem_singleton]
        refine (or_iff_left ?_).symm
        rintro rfl
        exact hnew row' hold rfl
      · rfl
    · obtain rfl := List.mem_singleton.mp hrow'
      refine iff_of_false ?_ ?_
      · rintro ⟨entry, hentry, hmap⟩
        obtain ⟨known, hknown, hmap'⟩ := h.known entry hentry
        refine hnew known hknown (Int.ofNat_inj.mp ?_)
        exact (journalSeq_of_mapRow hmap').symm.trans (journalSeq_of_mapRow hmap)
      · rintro ⟨hle, hpassed⟩
        dsimp only at hpassed
        rw [if_pos hle] at hpassed
        exact hpassed (List.mem_append_right _ (List.mem_singleton_self _))

theorem Inv.replay (h : replayed.Inv fromSeq) (limit : Option Int) :
    (replayed.step consumer fromSeq (.replay limit)).Inv fromSeq := by
  obtain ⟨rows, entries, hfront, hmap, hconsumed⟩ := exists_replayed consumer
    h.distinct_journal ⟨replayed.cursor fromSeq, limit⟩ replayed.state replayed.consumed
  replace hconsumed : (replayed.step consumer fromSeq (.replay limit)).consumed =
      replayed.consumed ++ entries := hconsumed
  have hcursor : cursor fromSeq (replayed.step consumer fromSeq (.replay limit)) =
      cursorAfter JournalEntryRow.journalSeq (replayed.cursor fromSeq) rows := by
    rw [cursor, hconsumed, List.getLast?_append, Option.map_or, Option.getD_or,
      ← List.getLast?_map, map_journalSeq hmap, List.getLast?_map]
    rfl
  have hle : replayed.cursor fromSeq ≤ cursorAfter JournalEntryRow.journalSeq
      (replayed.cursor fromSeq) rows := le_cursorAfter hfront
  have hentry : ∀ entry ∈ entries, ∃ row ∈ rows, mapRow row = .ok entry := fun entry hentry ↦
    (mem_values_iff hmap).mp hentry
  have hknown : ∀ entry ∈ replayed.consumed, entry.journalSeq ≤ replayed.cursor fromSeq := by
    intro entry hentry
    obtain ⟨row, hrow, hmap⟩ := h.known entry hentry
    rw [journalSeq_of_mapRow hmap]
    exact ((h.consumed_iff row hrow).mp ⟨entry, hentry, hmap⟩).1
  refine ⟨h.distinct, h.below, ?_, ?_, ?_, h.passed_mem, ?_⟩
  · rw [hconsumed]
    refine List.pairwise_append.mpr ⟨h.ascending, ?_, ?_⟩
    · exact pairwise_of_rows
        ((pairwise_rowsAfter h.distinct_journal).sublist hfront.sublist) hmap
    · intro entry hconsumed entry' hread
      obtain ⟨row, hrow, hmap⟩ := hentry entry' hread
      rw [journalSeq_of_mapRow hmap]
      exact (hknown entry hconsumed).trans_lt (mem_rowsAfter.mp (hfront.subset hrow)).2
  · intro entry hread
    rw [hconsumed] at hread
    rcases List.mem_append.mp hread with hread | hread
    · exact h.known entry hread
    · obtain ⟨row, hrow, hmap⟩ := hentry entry hread
      exact ⟨row, (mem_rowsAfter.mp (hfront.subset hrow)).1, hmap⟩
  · intro row hrow
    rw [hcursor]
    exact (h.passed_le row hrow).trans hle
  · intro row hrow
    replace hrow : row ∈ replayed.journal := hrow
    rw [hcursor, hconsumed]
    show _ ↔ _ ∧ row ∉ replayed.passed
    constructor
    · rintro ⟨entry, hread, hrowEntry⟩
      rcases List.mem_append.mp hread with hread | hread
      · obtain ⟨hbefore, hpassed⟩ := (h.consumed_iff row hrow).mp ⟨entry, hread, hrowEntry⟩
        exact ⟨hbefore.trans hle, hpassed⟩
      · obtain ⟨row', hrow', hmap⟩ := hentry entry hread
        have hafter := mem_rowsAfter.mp (hfront.subset hrow')
        obtain rfl : row' = row := h.eq_of_journalSeq_eq hafter.1 hrow (Int.ofNat_inj.mp
          ((journalSeq_of_mapRow hmap).symm.trans (journalSeq_of_mapRow hrowEntry)))
        exact ⟨le_cursorAfter_of_mem h.distinct_journal hfront hrow', fun hpassed ↦
          absurd hafter.2 (h.passed_le row' hpassed).not_gt⟩
    · rintro ⟨hreached, hpassed⟩
      rcases le_or_gt (row.journalSeq : Int) (replayed.cursor fromSeq) with hbefore | hafter
      · obtain ⟨entry, hread, hrowEntry⟩ := (h.consumed_iff row hrow).mpr ⟨hbefore, hpassed⟩
        exact ⟨entry, List.mem_append_left _ hread, hrowEntry⟩
      · obtain ⟨entry, hread, hrowEntry⟩ := exists_of_mapM_eq_ok hmap
          (mem_of_front h.distinct_journal hfront hrow hafter hreached)
        exact ⟨entry, List.mem_append_right _ hread, hrowEntry⟩

theorem Inv.step (h : replayed.Inv fromSeq) (now : ReplayedJournalStep) :
    (replayed.step consumer fromSeq now).Inv fromSeq := by
  cases now with
  | insert input now => exact h.insert input now
  | commit i => exact h.commit i
  | rollback i => exact h.rollback i
  | replay limit => exact h.replay limit

theorem inv_run (consumer : ReplayConsumer σ ε) (fromSeq : Int) (state : σ)
    (steps : List ReplayedJournalStep) :
    (steps.foldl (ReplayedJournal.step consumer fromSeq) (new state)).Inv fromSeq :=
  List.foldlRecOn steps _ (inv_new fromSeq state) fun _ h now _ => h.step now

end ReplayedJournal

/-- Whatever the writers do between the replays and whether or not the consumer fails: entries
are consumed in the order of their numbers and once, every one is a visible row, and of the
visible rows up to the cursor only those are left out that were committed behind it. -/
theorem consumed_iff_notPassed (consumer : ReplayConsumer σ ε) (fromSeq : Int) (state : σ)
    (steps : List ReplayedJournalStep) :
    let replayed := steps.foldl (ReplayedJournal.step consumer fromSeq) (.new state)
    (replayed.consumed.Pairwise fun entry entry' ↦ entry.journalSeq < entry'.journalSeq) ∧
      (∀ entry ∈ replayed.consumed, ∃ row ∈ replayed.journal, mapRow row = .ok entry) ∧
      ∀ row ∈ replayed.journal, (∃ entry ∈ replayed.consumed, mapRow row = .ok entry) ↔
        row.journalSeq ≤ replayed.cursor fromSeq ∧ row ∉ replayed.passed := by
  intro replayed
  have h : replayed.Inv fromSeq := ReplayedJournal.inv_run consumer fromSeq state steps
  exact ⟨h.ascending, h.known, h.consumed_iff⟩

/-! ## The summary -/

/-- How many of the entries have a key, if any. -/
def countOf (key : JournalEntry → String) (entries : List JournalEntry) (k : String) : Option Nat :=
  let count := entries.countP (key · = k)
  if count = 0 then none else some count

theorem lookup_foldl_increment (key : JournalEntry → String) (entries : List JournalEntry)
    (k : String) :
    (entries.foldl (fun counts entry ↦ increment counts (key entry)) ∅)[k]? =
      countOf key entries k := by
  have htally : entries.foldl (fun counts entry ↦ increment counts (key entry)) ∅ =
      (entries.map fun entry ↦ (key entry, 1)).foldl tally ∅ := by
    rw [List.foldl_map]
    rfl
  have hones : (((entries.map fun entry ↦ (key entry, 1)).filter (·.1 = k)).map Prod.snd) =
      List.replicate (entries.countP (key · = k)) 1 := by
    rw [List.filter_map, List.map_map, List.countP_eq_length_filter]
    exact List.map_const'
  rw [htally, lookup_foldl_tally_empty, amount, hones, countOf, List.sum_replicate, Nat.nsmul_eq_mul,
    mul_one]
  simp only [List.isEmpty_iff, List.replicate_eq_nil_iff]

theorem foldl_record (entries : List JournalEntry) (summary : ReplayStateSummary) :
    entries.foldl ReplayStateSummary.record summary =
      { processedCount := summary.processedCount + entries.length
        lastJournalSeq :=
          (entries.getLast?.map JournalEntry.journalSeq).or summary.lastJournalSeq
        perStream := entries.foldl (fun counts entry ↦ increment counts entry.stream)
          summary.perStream
        perSourceKind := entries.foldl
          (fun counts entry ↦ increment counts (sourceKindLabel entry.sourceKind))
          summary.perSourceKind
        perEventType := entries.foldl (fun counts entry ↦ increment counts entry.eventType)
          summary.perEventType } := by
  induction entries generalizing summary with
  | nil => rfl
  | cons entry entries ih =>
    rw [List.foldl_cons, ih, ReplayStateSummary.record]
    congr 1
    · show summary.processedCount + 1 + entries.length = _
      rw [List.length_cons, Nat.add_right_comm, Nat.add_assoc]
    · rw [List.getLast?_cons]
      cases entries.getLast? <;> rfl

theorem consumeAll_summary (entries noted : List JournalEntry) (summary : ReplayStateSummary) :
    SummaryReplayConsumer.noting.consumeAll entries (summary, noted) =
      (.ok (), entries.foldl ReplayStateSummary.record summary, noted ++ entries) := by
  induction entries generalizing summary noted with
  | nil => exact congrArg (fun noted ↦ (Except.ok (), summary, noted)) (List.append_nil _).symm
  | cons entry entries ih =>
    refine (ih (noted ++ [entry]) (summary.record entry)).trans ?_
    rw [List.append_assoc, List.singleton_append, List.foldl_cons]

/-- The summary of a run is made of the entries that were consumed. -/
theorem state_summary_run (fromSeq : Int) (steps : List ReplayedJournalStep) :
    let replayed := steps.foldl (ReplayedJournal.step SummaryReplayConsumer fromSeq) (.new .empty)
    replayed.state = replayed.consumed.foldl ReplayStateSummary.record .empty := by
  refine List.foldlRecOn (motive := fun (replayed : ReplayedJournal ReplayStateSummary) ↦
    replayed.state = replayed.consumed.foldl ReplayStateSummary.record .empty) steps _ rfl ?_
  intro replayed h now _
  cases now with
  | insert input now => exact h
  | rollback i => exact h
  | commit i =>
    rw [ReplayedJournal.step]
    split
    · exact h
    · exact h
  | replay limit =>
    rw [ReplayedJournal.step, replayEventJournalFromPool]
    cases replayedEntries (ε := Empty) replayed.journal ⟨replayed.cursor fromSeq, limit⟩ with
    | error error => exact h
    | ok entries =>
      simp only [replayJournal]
      rw [consumeAll_summary, List.foldl_append, ← h]

/-- The summary counts every entry that was consumed, in all and for each stream, source kind
and event type, and tells where to go on. -/
theorem summary_counts (fromSeq : Int) (steps : List ReplayedJournalStep) :
    let replayed := steps.foldl (ReplayedJournal.step SummaryReplayConsumer fromSeq) (.new .empty)
    let summary := replayed.state
    summary.processedCount = replayed.consumed.length ∧
      summary.lastJournalSeq.getD fromSeq = replayed.cursor fromSeq ∧
      ∀ k, summary.perStream[k]? = countOf (fun entry ↦ entry.stream) replayed.consumed k ∧
        summary.perSourceKind[k]? =
          countOf (fun entry ↦ sourceKindLabel entry.sourceKind) replayed.consumed k ∧
        summary.perEventType[k]? = countOf (fun entry ↦ entry.eventType) replayed.consumed k := by
  intro replayed summary
  have h : summary = _ := state_summary_run fromSeq steps
  rw [h, foldl_record]
  refine ⟨Nat.zero_add _, ?_, fun k ↦ ⟨?_, ?_, ?_⟩⟩
  · exact congrArg (Option.getD · fromSeq) (Option.or_none)
  · exact lookup_foldl_increment _ _ k
  · exact lookup_foldl_increment _ _ k
  · exact lookup_foldl_increment _ _ k

end AxiomArb.AppReplay
