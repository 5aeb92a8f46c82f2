import AxiomArb.Library.Command

/-!
# The progress row

`runtime_apply_progress` has one row.  It is written by an upsert that keeps what the
row holds in a column for which no value is given.
-/

namespace AxiomArb.Persistence

open Library

structure RuntimeProgressRow where
  lastJournalSeq : Int
  lastStateVersion : Int
  lastSnapshotId : Option String
  operatorTargetRevision : Option String
  operatorStrategyRevision : Option String
  activeRunSessionId : Option String
deriving DecidableEq, Repr

/-- The row after an upsert of the values `excluded`. -/
def RuntimeProgressRow.upserted (excluded : RuntimeProgressRow) :
    Option RuntimeProgressRow → RuntimeProgressRow
  | none => excluded
  | some row =>
      { excluded with
        activeRunSessionId := excluded.activeRunSessionId <|> row.activeRunSessionId
        operatorTargetRevision := excluded.operatorTargetRevision <|> row.operatorTargetRevision
        operatorStrategyRevision :=
          excluded.operatorStrategyRevision <|> row.operatorStrategyRevision }

def recordProgressWithStrategyRevision (lastJournalSeq lastStateVersion : Int)
    (lastSnapshotId operatorTargetRevision operatorStrategyRevision activeRunSessionId :
      Option String) : Command String (Option RuntimeProgressRow) Unit :=
  modify fun progress ↦ some
    (RuntimeProgressRow.upserted
      { lastJournalSeq
        lastStateVersion
        lastSnapshotId
        operatorTargetRevision
        operatorStrategyRevision
        activeRunSessionId }
      progress)

/-! ## Columns -/

/-- What the row holds in a column; no row holds nothing. -/
def column (value : RuntimeProgressRow → Option String) (progress : Option RuntimeProgressRow) :
    Option String :=
  progress.bind value

section Upsert

variable (excluded : RuntimeProgressRow) (progress : Option RuntimeProgressRow)

@[simp] theorem column_target_upserted :
    column RuntimeProgressRow.operatorTargetRevision (some (excluded.upserted progress)) =
      (excluded.operatorTargetRevision <|>
        column RuntimeProgressRow.operatorTargetRevision progress) := by
  cases progress with
  | none => simp [column, RuntimeProgressRow.upserted]
  | some row => rfl

@[simp] theorem column_strategy_upserted :
    column RuntimeProgressRow.operatorStrategyRevision (some (excluded.upserted progress)) =
      (excluded.operatorStrategyRevision <|>
        column RuntimeProgressRow.operatorStrategyRevision progress) := by
  cases progress with
  | none => simp [column, RuntimeProgressRow.upserted]
  | some row => rfl

end Upsert

end AxiomArb.Persistence
