import AxiomArb.Domain.Runtime
import AxiomArb.Library.Command
import AxiomArb.Library.Ranked
import AxiomArb.Library.Run
import Mathlib.Data.List.Sort
import Mathlib.Data.Prod.Lex
import Mathlib.Data.String.Basic

/-!
# The history of adoptions

Adoptions were first kept in `operator_target_adoption_history`.  A migration copied
them into `operator_strategy_adoption_history`, where they were numbered anew from 1,
and later adoptions are appended there.  The queries read both tables as one, ordered
by their numbers, although the two count on their own.

## Honest boundary

* The order of text is that of its characters; a database may collate it otherwise.
* Numbers of the tables do not overflow.
-/

namespace AxiomArb.Persistence

open Domain Library

/-! ## The two tables -/

structure OperatorStrategyAdoptionHistoryRow where
  adoptionId : String
  actionKind : String
  operatorStrategyRevision : String
  previousOperatorStrategyRevision : Option String
  adoptableStrategyRevision : Option String
  strategyCandidateRevision : Option String
  adoptedAt : DateTime
deriving DecidableEq, Repr

structure OperatorTargetAdoptionHistoryRow where
  adoptionId : String
  actionKind : String
  operatorTargetRevision : String
  previousOperatorTargetRevision : Option String
  adoptableRevision : Option String
  candidateRevision : Option String
  adoptedAt : DateTime
  historySeq : Int
deriving DecidableEq, Repr

/-- The columns of the older table under the names of the newer one. -/
def OperatorTargetAdoptionHistoryRow.asStrategyRow (row : OperatorTargetAdoptionHistoryRow) :
    OperatorStrategyAdoptionHistoryRow :=
  { adoptionId := row.adoptionId
    actionKind := row.actionKind
    operatorStrategyRevision := row.operatorTargetRevision
    previousOperatorStrategyRevision := row.previousOperatorTargetRevision
    adoptableStrategyRevision := row.adoptableRevision
    strategyCandidateRevision := row.candidateRevision
    adoptedAt := row.adoptedAt }

/-- The older table, in the order its rows were appended. -/
structure OperatorTargetAdoptionHistory where
  rows : List OperatorTargetAdoptionHistoryRow
  numbered : rows.Pairwise fun row later ↦ row.historySeq < later.historySeq
  keyed : (rows.map OperatorTargetAdoptionHistoryRow.adoptionId).Nodup

/-- A row of the newer table, with its number. -/
structure HistoryEntry where
  historySeq : Int
  row : OperatorStrategyAdoptionHistoryRow
deriving DecidableEq, Repr

/-- The two tables, and the number that is next in the newer one. -/
structure AdoptionHistory where
  legacy : OperatorTargetAdoptionHistory
  entries : List HistoryEntry
  nextHistorySeq : Int

/-! ## The migration -/

/-- The order in which the rows of the older table are numbered anew. -/
def OperatorTargetAdoptionHistoryRow.copyRank (row : OperatorTargetAdoptionHistoryRow) :
    Int ×ₗ DateTime ×ₗ String :=
  toLex (row.historySeq, toLex (row.adoptedAt, row.adoptionId))

def copyNumbered : List OperatorTargetAdoptionHistoryRow → Int → List HistoryEntry
  | [], _ => []
  | row :: rows, rowNumber =>
      { historySeq := rowNumber, row := row.asStrategyRow } :: copyNumbered rows (rowNumber + 1)

/-- The copy of a table with `n` rows has the numbers from 1 to `n`, and the next
number follows them. -/
def OperatorTargetAdoptionHistory.migrated (legacy : OperatorTargetAdoptionHistory) :
    AdoptionHistory :=
  { legacy
    entries := copyNumbered (legacy.rows.insertionSort fun row later ↦ row.copyRank ≤ later.copyRank) 1
    nextHistorySeq := legacy.rows.length + 1 }

/-! ## Appending -/

/-- The check on the columns of a row. -/
def OperatorStrategyAdoptionHistoryRow.ShapeOk (row : OperatorStrategyAdoptionHistoryRow) : Prop :=
  (row.actionKind = "adopt" ∧ row.adoptableStrategyRevision ≠ none ∧
    row.strategyCandidateRevision ≠ none) ∨
  (row.actionKind = "rollback" ∧ row.adoptableStrategyRevision = none ∧
    row.strategyCandidateRevision = none)

instance : DecidablePred OperatorStrategyAdoptionHistoryRow.ShapeOk := fun _ ↦
  inferInstanceAs (Decidable (_ ∨ _))

namespace AdoptionHistory

/-- Append a row under the next number.  A row that is refused has used its number up. -/
def append (row : OperatorStrategyAdoptionHistoryRow) : Command String AdoptionHistory Unit := do
  let history ← get
  let numbered := { history with nextHistorySeq := history.nextHistorySeq + 1 }
  set numbered
  if ¬ row.ShapeOk then
    throw "operator_strategy_adoption_history_row_shape_check"
  else if row.adoptionId ∈ history.entries.map fun entry ↦ entry.row.adoptionId then
    throw "operator_strategy_adoption_history_pkey"
  else
    let entry : HistoryEntry := { historySeq := history.nextHistorySeq, row }
    set { numbered with entries := history.entries ++ [entry] }

def appendStep (history : AdoptionHistory) (row : OperatorStrategyAdoptionHistoryRow) :
    AdoptionHistory :=
  (exec (append row) history).2

end AdoptionHistory

/-! ## The queries -/

/-- A row of the two tables read as one; the newer table has priority 0. -/
structure CombinedEntry where
  historySeq : Int
  sourcePriority : Nat
  row : OperatorStrategyAdoptionHistoryRow
deriving DecidableEq, Repr

/-- Ranks are compared part by part. -/
instance : Preorder (Int ×ₗ DateTime ×ₗ ℕᵒᵈ ×ₗ String) :=
  Prod.Lex.instLinearOrder Int (DateTime ×ₗ ℕᵒᵈ ×ₗ String) |>.toPreorder

/-- The queries order by number and time, the highest first, and break ties by the
priority of the table and the key of the row. -/
def CombinedEntry.rank (entry : CombinedEntry) : Int ×ₗ DateTime ×ₗ ℕᵒᵈ ×ₗ String :=
  toLex (entry.historySeq, toLex (entry.row.adoptedAt,
    toLex (OrderDual.toDual entry.sourcePriority, entry.row.adoptionId)))

def HistoryEntry.combined (entry : HistoryEntry) : CombinedEntry :=
  { historySeq := entry.historySeq, sourcePriority := 0, row := entry.row }

def OperatorTargetAdoptionHistoryRow.combined (row : OperatorTargetAdoptionHistoryRow) :
    CombinedEntry :=
  { historySeq := row.historySeq, sourcePriority := 1, row := row.asStrategyRow }

/-- The row moved to the revision from a different one. -/
def OperatorStrategyAdoptionHistoryRow.movedTo (revision : String)
    (row : OperatorStrategyAdoptionHistoryRow) : Bool :=
  row.operatorStrategyRevision == revision && row.previousOperatorStrategyRevision.isSome &&
    row.previousOperatorStrategyRevision != some revision

namespace AdoptionHistory

variable (history : AdoptionHistory)

/-- The rows of both tables that pass a filter. -/
def combined (filter : OperatorStrategyAdoptionHistoryRow → Bool) : List CombinedEntry :=
  (history.entries.filter fun entry ↦ filter entry.row).map HistoryEntry.combined ++
    (history.legacy.rows.filter fun row ↦ filter row.asStrategyRow).map
      OperatorTargetAdoptionHistoryRow.combined

def first (filter : OperatorStrategyAdoptionHistoryRow → Bool) :
    Option OperatorStrategyAdoptionHistoryRow :=
  ((history.combined filter).argmax CombinedEntry.rank).map CombinedEntry.row

def latest : Option OperatorStrategyAdoptionHistoryRow := history.first fun _ ↦ true

def previousDistinctRevision (currentRevision : String) : Option String :=
  (history.first (OperatorStrategyAdoptionHistoryRow.movedTo currentRevision)).bind
    OperatorStrategyAdoptionHistoryRow.previousOperatorStrategyRevision

/-! ## The order of appending -/

/-- The entries that were appended after the migration. -/
def appended : List HistoryEntry := history.entries.drop history.legacy.rows.length

/-- The queries answer by the order in which the entries came: the latest is the last of
all, and a revision was preceded by the one that the last move to it came from. -/
structure FollowsAppendOrder : Prop where
  latest : history.latest = history.entries.getLast?.map HistoryEntry.row
  previous : ∀ revision, history.previousDistinctRevision revision =
    (history.entries.filter fun entry ↦ entry.row.movedTo revision).getLast?.bind fun entry ↦
      entry.row.previousOperatorStrategyRevision

end AdoptionHistory

/-- The row has a higher number than the entry, or the same number and a later time. -/
def OperatorTargetAdoptionHistoryRow.Outranks (row : OperatorTargetAdoptionHistoryRow)
    (entry : HistoryEntry) : Prop :=
  entry.historySeq < row.historySeq ∨
    entry.historySeq = row.historySeq ∧ entry.row.adoptedAt < row.adoptedAt

instance (row : OperatorTargetAdoptionHistoryRow) (entry : HistoryEntry) :
    Decidable (row.Outranks entry) :=
  inferInstanceAs (Decidable (_ ∨ _))

namespace AdoptionHistory

variable (history : AdoptionHistory)

/-- The older table does not outrank what was appended: not the last entry of all, and
not the last move to a revision, unless the older move came from the same one. -/
structure LegacyBehind : Prop where
  latest : ∀ entry ∈ history.appended.getLast?, ∀ old ∈ history.legacy.rows.getLast?,
    ¬ old.Outranks entry
  moves : ∀ revision,
    ∀ entry ∈ (history.appended.filter fun entry ↦ entry.row.movedTo revision).getLast?,
    ∀ old ∈ (history.legacy.rows.filter fun old ↦ old.asStrategyRow.movedTo revision).getLast?,
    old.Outranks entry →
      old.previousOperatorTargetRevision = entry.row.previousOperatorStrategyRevision

/-! ## Runs of appends -/

/-- What holds of the tables from the migration on: the entries ascend, they have
different keys, and the first ones are the copy. -/
structure Continues : Prop where
  copied : history.entries.take history.legacy.rows.length = copyNumbered history.legacy.rows 1
  above : ∀ entry ∈ history.appended, (history.legacy.rows.length : Int) < entry.historySeq
  next : (history.legacy.rows.length : Int) < history.nextHistorySeq
  ascending : history.entries.Pairwise fun entry later ↦ entry.historySeq < later.historySeq
  bounded : ∀ entry ∈ history.entries, entry.historySeq < history.nextHistorySeq
  keyed : (history.entries.map fun entry ↦ entry.row.adoptionId).Nodup

end AdoptionHistory

section Copy

variable {rows : List OperatorTargetAdoptionHistoryRow} {rowNumber : Int}

@[simp] theorem length_copyNumbered : (copyNumbered rows rowNumber).length = rows.length := by
  induction rows generalizing rowNumber with
  | nil => rfl
  | cons row rows ih => simp [copyNumbered, ih]

@[simp] theorem rows_copyNumbered (rows : List OperatorTargetAdoptionHistoryRow)
    (rowNumber : Int) : (copyNumbered rows rowNumber).map HistoryEntry.row =
    rows.map OperatorTargetAdoptionHistoryRow.asStrategyRow := by
  induction rows generalizing rowNumber with
  | nil => rfl
  | cons row rows ih => simp [copyNumbered, ih]

theorem bounds_of_mem_copyNumbered {entry : HistoryEntry}
    (h : entry ∈ copyNumbered rows rowNumber) :
    rowNumber ≤ entry.historySeq ∧ entry.historySeq < rowNumber + rows.length := by
  induction rows generalizing rowNumber with
  | nil => cases h
  | cons row rows ih =>
      rw [List.length_cons]
      rcases List.mem_cons.mp h with rfl | hmem
      · exact ⟨le_rfl, by push_cast; omega⟩
      · obtain ⟨hlow, hhigh⟩ := ih hmem
        exact ⟨by omega, by push_cast; omega⟩

theorem copyNumbered_ascending : (copyNumbered rows rowNumber).Pairwise fun entry later ↦
    entry.historySeq < later.historySeq := by
  induction rows generalizing rowNumber with
  | nil => exact .nil
  | cons row rows ih =>
      refine .cons (fun later hlater ↦ ?_) ih
      exact Int.lt_of_add_one_le (bounds_of_mem_copyNumbered hlater).1

end Copy

namespace AdoptionHistory

variable {history : AdoptionHistory}

theorem continues_migrated (legacy : OperatorTargetAdoptionHistory) :
    legacy.migrated.Continues := by
  have hsorted : legacy.rows.insertionSort (fun row later ↦ row.copyRank ≤ later.copyRank) =
      legacy.rows := by
    refine List.Pairwise.insertionSort_eq (legacy.numbered.imp fun {row later} hlt ↦ ?_)
    have hrank : row.copyRank < later.copyRank := Prod.Lex.toLex_lt_toLex.mpr (.inl hlt)
    exact hrank.le
  have hentries : legacy.migrated.entries = copyNumbered legacy.rows 1 := by
    rw [OperatorTargetAdoptionHistory.migrated, hsorted]
  have hids : (legacy.migrated.entries.map fun entry ↦ entry.row.adoptionId) =
      legacy.rows.map OperatorTargetAdoptionHistoryRow.adoptionId := by
    have hcopy := congrArg (List.map OperatorStrategyAdoptionHistoryRow.adoptionId)
      (rows_copyNumbered legacy.rows 1)
    rw [List.map_map, List.map_map] at hcopy
    rw [hentries]
    exact hcopy
  have hlength : legacy.migrated.entries.length = legacy.rows.length := by
    rw [hentries, length_copyNumbered]
  refine ⟨?_, ?_, ?_, ?_, ?_, ?_⟩
  · rw [hentries]
    exact List.take_of_length_le (hentries ▸ hlength.le)
  · intro entry hentry
    have hdrop : legacy.migrated.appended = [] := List.drop_of_length_le hlength.le
    rw [hdrop] at hentry
    cases hentry
  · exact Int.lt_succ _
  · rw [hentries]
    exact copyNumbered_ascending
  · intro entry hentry
    rw [hentries] at hentry
    have hbound := (bounds_of_mem_copyNumbered hentry).2
    simp only [OperatorTargetAdoptionHistory.migrated]
    omega
  · rw [hids]
    exact legacy.keyed

/-- An append adds an entry under the next number, or uses the number up. -/
theorem appendStep_cases (history : AdoptionHistory) (row : OperatorStrategyAdoptionHistoryRow) :
    history.appendStep row = { history with nextHistorySeq := history.nextHistorySeq + 1 } ∨
    row.adoptionId ∉ (history.entries.map fun entry ↦ entry.row.adoptionId) ∧
      history.appendStep row = { history with
        entries := history.entries ++ [{ historySeq := history.nextHistorySeq, row := row }]
        nextHistorySeq := history.nextHistorySeq + 1 } := by
  simp only [appendStep, append, exec_bind, exec_get, exec_set]
  by_cases hshape : row.ShapeOk
  · rw [if_neg (not_not.mpr hshape)]
    by_cases hkey : row.adoptionId ∈ history.entries.map fun entry ↦ entry.row.adoptionId
    · rw [if_pos hkey]
      exact .inl rfl
    · rw [if_neg hkey]
      exact .inr ⟨hkey, rfl⟩
  · rw [if_pos hshape]
    exact .inl rfl

theorem Continues.appendStep (h : history.Continues) (row : OperatorStrategyAdoptionHistoryRow) :
    (history.appendStep row).Continues := by
  rcases history.appendStep_cases row with heq | ⟨hkey, heq⟩
  · rw [heq]
    exact ⟨h.copied, h.above, Int.lt_add_one_of_le h.next.le, h.ascending, fun entry hentry ↦ Int.lt_add_one_of_le (h.bounded entry hentry).le,
      h.keyed⟩
  · rw [heq]
    have hlength : history.legacy.rows.length ≤ history.entries.length := by
      have hcopy := congrArg List.length h.copied
      rw [List.length_take, length_copyNumbered] at hcopy
      omega
    refine ⟨?_, ?_, Int.lt_add_one_of_le h.next.le, ?_, ?_, ?_⟩
    · dsimp only
      rw [List.take_append_of_le_length hlength, h.copied]
    · intro entry hentry
      rw [appended, List.drop_append_of_le_length hlength] at hentry
      rcases List.mem_append.mp hentry with hmem | hmem
      · exact h.above entry hmem
      · rw [List.mem_singleton.mp hmem]
        exact h.next
    · refine List.pairwise_append.mpr ⟨h.ascending, List.pairwise_singleton _ _, ?_⟩
      intro entry hentry later hlater
      rw [List.mem_singleton.mp hlater]
      exact h.bounded entry hentry
    · intro entry hentry
      rcases List.mem_append.mp hentry with hmem | hmem
      · exact Int.lt_add_one_of_le (h.bounded entry hmem).le
      · rw [List.mem_singleton.mp hmem]
        exact Int.lt_succ history.nextHistorySeq
    · rw [List.map_append, List.nodup_append]
      refine ⟨h.keyed, List.nodup_singleton _, ?_⟩
      intro id hid other hother heq
      rw [List.map_singleton, List.mem_singleton] at hother
      exact hkey (hother ▸ heq ▸ hid)

@[simp] theorem legacy_appendStep (history : AdoptionHistory)
    (row : OperatorStrategyAdoptionHistoryRow) :
    (history.appendStep row).legacy = history.legacy := by
  rcases history.appendStep_cases row with heq | ⟨-, heq⟩ <;> rw [heq]

@[simp] theorem legacy_run_appendStep (history : AdoptionHistory)
    (rows : List OperatorStrategyAdoptionHistoryRow) :
    (run appendStep history rows).legacy = history.legacy := by
  induction rows generalizing history with
  | nil => rfl
  | cons row rows ih => rw [run_cons, ih, legacy_appendStep]

/-! ## What the queries answer -/

section Queries

variable {entry : HistoryEntry} {old : OperatorTargetAdoptionHistoryRow}
  (filter : OperatorStrategyAdoptionHistoryRow → Bool)

theorem rank_lt_iff_outranks :
    entry.combined.rank < old.combined.rank ↔ old.Outranks entry := by
  simp only [CombinedEntry.rank, HistoryEntry.combined, OperatorTargetAdoptionHistoryRow.combined,
    OperatorTargetAdoptionHistoryRow.Outranks, Prod.Lex.toLex_lt_toLex, OrderDual.toDual_lt_toDual,
    OperatorTargetAdoptionHistoryRow.asStrategyRow]
  -- at the same number and time the priority decides for the newer table
  simp

/-- The last of the entries that pass is one that was appended, or the copy of an older row. -/
theorem Continues.last_eq (h : history.Continues) :
    (history.entries.filter fun entry ↦ filter entry.row).getLast?.map HistoryEntry.row =
      ((history.appended.filter fun entry ↦ filter entry.row).getLast?.map HistoryEntry.row).or
        ((history.legacy.rows.filter fun row ↦ filter row.asStrategyRow).getLast?.map
          OperatorTargetAdoptionHistoryRow.asStrategyRow) := by
  have hsplit : history.entries = copyNumbered history.legacy.rows 1 ++ history.appended := by
    rw [← h.copied]
    exact (List.take_append_drop _ _).symm
  have hcopy : (((copyNumbered history.legacy.rows 1).filter
        fun entry ↦ filter entry.row).map HistoryEntry.row) =
      (history.legacy.rows.filter fun row ↦ filter row.asStrategyRow).map
        OperatorTargetAdoptionHistoryRow.asStrategyRow := by
    have hfilter := congrArg (List.filter filter) (rows_copyNumbered history.legacy.rows 1)
    rw [List.filter_map, List.filter_map] at hfilter
    exact hfilter
  rw [hsplit, List.filter_append, List.getLast?_append, Option.map_or, ← List.getLast?_map,
    ← List.getLast?_map, ← List.getLast?_map, hcopy]

theorem Continues.argmax_entries (h : history.Continues) :
    ((history.entries.filter fun entry ↦ filter entry.row).map HistoryEntry.combined).argmax
        CombinedEntry.rank =
      (history.entries.filter fun entry ↦ filter entry.row).getLast?.map
        HistoryEntry.combined := by
  rw [argmax_of_ascending, List.getLast?_map]
  refine List.pairwise_map.mpr ((h.ascending.filter _).imp fun hlt ↦ ?_)
  exact Prod.Lex.toLex_lt_toLex.mpr (.inl hlt)

theorem argmax_legacy (history : AdoptionHistory) :
    ((history.legacy.rows.filter fun row ↦ filter row.asStrategyRow).map
        OperatorTargetAdoptionHistoryRow.combined).argmax CombinedEntry.rank =
      (history.legacy.rows.filter fun row ↦ filter row.asStrategyRow).getLast?.map
        OperatorTargetAdoptionHistoryRow.combined := by
  rw [argmax_of_ascending, List.getLast?_map]
  refine List.pairwise_map.mpr ((history.legacy.numbered.filter _).imp fun hlt ↦ ?_)
  exact Prod.Lex.toLex_lt_toLex.mpr (.inl hlt)

/-- The last entry and the last older row that pass compete for the answer. -/
theorem Continues.first_of_last (h : history.Continues)
    (hentry : (history.entries.filter fun entry ↦ filter entry.row).getLast? = some entry) :
    history.first filter = some
      (match (history.legacy.rows.filter fun row ↦ filter row.asStrategyRow).getLast? with
        | some old => if old.Outranks entry then old.asStrategyRow else entry.row
        | none => entry.row) := by
  have hnew := h.argmax_entries filter
  have hold := argmax_legacy filter history
  rw [hentry] at hnew
  unfold first combined
  cases hlegacy : (history.legacy.rows.filter fun row ↦ filter row.asStrategyRow).getLast? with
  | none =>
      rw [List.getLast?_eq_none_iff.mp hlegacy, List.map_nil, List.append_nil, hnew]
      rfl
  | some old =>
      rw [hlegacy] at hold
      rw [argmax_append hnew hold]
      by_cases hlt : entry.combined.rank < old.combined.rank
      · simp only [if_pos hlt, if_pos (rank_lt_iff_outranks.mp hlt)]
        rfl
      · simp only [if_neg hlt, if_neg (mt rank_lt_iff_outranks.mpr hlt)]
        rfl

/-- Where nothing that was appended passes, the older row and its copy answer alike. -/
theorem Continues.first_of_quiet (h : history.Continues)
    (hquiet : (history.appended.filter fun entry ↦ filter entry.row).getLast? = none) :
    history.first filter =
      (history.entries.filter fun entry ↦ filter entry.row).getLast?.map HistoryEntry.row := by
  have hlast := h.last_eq filter
  rw [hquiet, Option.map_none, Option.none_or] at hlast
  cases hentry : (history.entries.filter fun entry ↦ filter entry.row).getLast? with
  | none =>
      rw [hentry] at hlast
      have hlegacy := Option.map_eq_none_iff.mp hlast.symm
      unfold first combined
      rw [List.getLast?_eq_none_iff.mp hentry, List.getLast?_eq_none_iff.mp hlegacy]
      rfl
  | some entry =>
      rw [hentry] at hlast
      obtain ⟨old, hold, hrow⟩ := Option.map_eq_some_iff.mp hlast.symm
      rw [h.first_of_last filter hentry, hold]
      simp only [hrow, ite_self, Option.map_some]

/-- The last entry that passes is the last appended one that does. -/
theorem Continues.last_of_appended (h : history.Continues)
    (hentry : (history.appended.filter fun entry ↦ filter entry.row).getLast? = some entry) :
    (history.entries.filter fun entry ↦ filter entry.row).getLast? = some entry := by
  have hsplit : history.entries = copyNumbered history.legacy.rows 1 ++ history.appended := by
    rw [← h.copied]
    exact (List.take_append_drop _ _).symm
  rw [hsplit, List.filter_append, List.getLast?_append, hentry]
  rfl

end Queries

theorem Continues.adoptionId_ne (h : history.Continues) {entry : HistoryEntry}
    {old : OperatorTargetAdoptionHistoryRow} (hentry : entry ∈ history.appended)
    (hold : old ∈ history.legacy.rows) : old.adoptionId ≠ entry.row.adoptionId := by
  have hkeyed := h.keyed
  rw [← List.take_append_drop history.legacy.rows.length history.entries, h.copied,
    List.map_append, List.nodup_append] at hkeyed
  refine hkeyed.2.2 _ ?_ _ (List.mem_map_of_mem hentry)
  have hcopy := congrArg (List.map OperatorStrategyAdoptionHistoryRow.adoptionId)
    (rows_copyNumbered history.legacy.rows 1)
  rw [List.map_map, List.map_map] at hcopy
  exact hcopy ▸ List.mem_map_of_mem hold

/-- The latest row is the one that was appended last exactly if no older row outranks it. -/
theorem Continues.latest_iff (h : history.Continues) :
    history.latest = history.entries.getLast?.map HistoryEntry.row ↔
      ∀ entry ∈ history.appended.getLast?, ∀ old ∈ history.legacy.rows.getLast?,
        ¬ old.Outranks entry := by
  have hall : ∀ {α : Type} (xs : List α), (xs.filter fun _ ↦ true) = xs := fun xs ↦
    List.filter_true xs
  cases happended : history.appended.getLast? with
  | none =>
      have hquiet := h.first_of_quiet (fun _ ↦ true) (by rw [hall, happended])
      rw [hall] at hquiet
      exact iff_of_true hquiet (fun entry hentry ↦ by cases hentry)
  | some entry =>
      have hentry := h.last_of_appended (fun _ ↦ true) (by rw [hall, happended])
      have hfirst := h.first_of_last (fun _ ↦ true) hentry
      rw [hall] at hentry hfirst
      rw [latest, hfirst, hentry]
      cases hlegacy : history.legacy.rows.getLast? with
      | none => simp
      | some old =>
          have hne := h.adoptionId_ne (List.mem_of_getLast? happended) (List.mem_of_getLast? hlegacy)
          by_cases hout : old.Outranks entry
          · refine iff_of_false (fun heq ↦ hne ?_) (fun hbehind ↦ hbehind entry rfl old rfl hout)
            simp only [if_pos hout, Option.map_some, Option.some.injEq] at heq
            exact congrArg OperatorStrategyAdoptionHistoryRow.adoptionId heq
          · simp [hout]

/-- The last move to a revision is found exactly if no older move from another revision
outranks it. -/
theorem Continues.previous_iff (h : history.Continues) (revision : String) :
    history.previousDistinctRevision revision =
        ((history.entries.filter fun entry ↦ entry.row.movedTo revision).getLast?.bind fun entry ↦
          entry.row.previousOperatorStrategyRevision) ↔
      ∀ entry ∈ (history.appended.filter fun entry ↦ entry.row.movedTo revision).getLast?,
      ∀ old ∈ (history.legacy.rows.filter fun old ↦ old.asStrategyRow.movedTo revision).getLast?,
      old.Outranks entry →
        old.previousOperatorTargetRevision = entry.row.previousOperatorStrategyRevision := by
  cases happended : (history.appended.filter fun entry ↦ entry.row.movedTo revision).getLast? with
  | none =>
      refine iff_of_true ?_ (fun entry hentry ↦ by cases hentry)
      rw [previousDistinctRevision, h.first_of_quiet _ happended, Option.bind_map]
      rfl
  | some entry =>
      have hentry := h.last_of_appended _ happended
      rw [previousDistinctRevision, h.first_of_last _ hentry, hentry]
      cases hlegacy : (history.legacy.rows.filter
          fun old ↦ old.asStrategyRow.movedTo revision).getLast? with
      | none => simp
      | some old =>
          by_cases hout : old.Outranks entry
          · simp [hout, OperatorTargetAdoptionHistoryRow.asStrategyRow]
          · simp [hout]

theorem Continues.followsAppendOrder_iff (h : history.Continues) :
    history.FollowsAppendOrder ↔ history.LegacyBehind := by
  constructor
  · intro hfollows
    exact ⟨h.latest_iff.mp hfollows.latest,
      fun revision ↦ (h.previous_iff revision).mp (hfollows.previous revision)⟩
  · intro hbehind
    exact ⟨h.latest_iff.mpr hbehind.latest,
      fun revision ↦ (h.previous_iff revision).mpr (hbehind.moves revision)⟩

/-- A table without gaps stays behind whatever is appended. -/
theorem Continues.legacyBehind_of_gapless (h : history.Continues)
    (hgapless : ∀ old ∈ history.legacy.rows, old.historySeq ≤ history.legacy.rows.length) :
    history.LegacyBehind := by
  have hbehind : ∀ entry ∈ history.appended, ∀ old ∈ history.legacy.rows, ¬ old.Outranks entry := by
    intro entry hentry old hold hout
    have habove := h.above entry hentry
    have hbelow := hgapless old hold
    rcases hout with hlt | ⟨heq, -⟩ <;> omega
  refine ⟨fun entry hentry old hold ↦ hbehind entry (List.mem_of_getLast? hentry) old
    (List.mem_of_getLast? hold), fun revision entry hentry old hold hout ↦ ?_⟩
  exact absurd hout (hbehind entry (List.mem_of_mem_filter (List.mem_of_getLast? hentry)) old
    (List.mem_of_mem_filter (List.mem_of_getLast? hold)))

theorem continues_run (legacy : OperatorTargetAdoptionHistory)
    (rows : List OperatorStrategyAdoptionHistoryRow) :
    (run appendStep legacy.migrated rows).Continues :=
  run_inv (fun _ row h ↦ h.appendStep row) (continues_migrated legacy)

/-- After the migration of any table and any appends, the queries follow the order of the
appends exactly if the older table does not outrank them. -/
theorem follows_append_order_iff (legacy : OperatorTargetAdoptionHistory)
    (rows : List OperatorStrategyAdoptionHistoryRow) :
    (run appendStep legacy.migrated rows).FollowsAppendOrder ↔
      (run appendStep legacy.migrated rows).LegacyBehind :=
  (continues_run legacy rows).followsAppendOrder_iff

end AdoptionHistory

/-- An older table with two rows, the second one numbered 5. -/
def gappedHistory : OperatorTargetAdoptionHistory where
  rows :=
    [{ adoptionId := "adoption-1", actionKind := "adopt"
       operatorTargetRevision := "targets-rev-1", previousOperatorTargetRevision := none
       adoptableRevision := some "adoptable-1", candidateRevision := some "candidate-1"
       adoptedAt := 10, historySeq := 1 },
     { adoptionId := "adoption-2", actionKind := "adopt"
       operatorTargetRevision := "targets-rev-2"
       previousOperatorTargetRevision := some "targets-rev-1"
       adoptableRevision := some "adoptable-2", candidateRevision := some "candidate-2"
       adoptedAt := 20, historySeq := 5 }]
  numbered := by decide
  keyed := by decide

/-- The adoption that follows the migration. -/
def laterAdoption : OperatorStrategyAdoptionHistoryRow :=
  { adoptionId := "adoption-3", actionKind := "adopt"
    operatorStrategyRevision := "strategy-rev-3"
    previousOperatorStrategyRevision := some "targets-rev-2"
    adoptableStrategyRevision := some "adoptable-3"
    strategyCandidateRevision := some "candidate-3", adoptedAt := 30 }

theorem not_follows_append_order :
    ¬ ∀ (legacy : OperatorTargetAdoptionHistory) (rows : List OperatorStrategyAdoptionHistoryRow),
      (run AdoptionHistory.appendStep legacy.migrated rows).FollowsAppendOrder := by
  intro h
  have hlatest := (h gappedHistory [laterAdoption]).latest
  revert hlatest
  decide

end AxiomArb.Persistence
