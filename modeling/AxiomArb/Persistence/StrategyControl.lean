import AxiomArb.Library.Command
import AxiomArb.Library.Json
import AxiomArb.Library.KeyedTable
import Mathlib.Data.Option.Basic

/-!
# The tables of the strategy control plane

The neutral tables hold strategy candidates, adoptable strategy revisions and the
provenance of adoptions.  The older ones hold the same under the names of targets;
where a neutral row is missing, the repositories fall back to them.

## Honest boundary

* Foreign keys are not carried: a row is inserted after the one it refers to.
* A payload is read back as the value that was written.
-/

namespace AxiomArb.Persistence

open Library

/-! ## Rows -/

structure CandidateTargetSetRow where
  candidateRevision : String
  snapshotId : String
  sourceRevision : String
  payload : Json
deriving DecidableEq, Repr

structure AdoptableTargetRevisionRow where
  adoptableRevision : String
  candidateRevision : String
  renderedOperatorTargetRevision : String
  payload : Json
deriving DecidableEq, Repr

structure CandidateAdoptionProvenanceRow where
  operatorTargetRevision : String
  adoptableRevision : String
  candidateRevision : String
deriving DecidableEq, Repr

structure StrategyCandidateSetRow where
  strategyCandidateRevision : String
  snapshotId : String
  sourceRevision : String
  payload : Json
deriving DecidableEq, Repr

structure AdoptableStrategyRevisionRow where
  adoptableStrategyRevision : String
  strategyCandidateRevision : String
  renderedOperatorStrategyRevision : String
  payload : Json
deriving DecidableEq, Repr

structure StrategyAdoptionProvenanceRow where
  operatorStrategyRevision : String
  adoptableStrategyRevision : String
  strategyCandidateRevision : String
deriving DecidableEq, Repr

/-- The tables; the first three are the older ones. -/
structure StrategyDatabase where
  candidateTargetSets : KeyedTable CandidateTargetSetRow.candidateRevision
  adoptableTargetRevisions : KeyedTable AdoptableTargetRevisionRow.adoptableRevision
  candidateAdoptionProvenance : KeyedTable CandidateAdoptionProvenanceRow.operatorTargetRevision
  strategyCandidateSets : KeyedTable StrategyCandidateSetRow.strategyCandidateRevision
  adoptableStrategyRevisions : KeyedTable AdoptableStrategyRevisionRow.adoptableStrategyRevision
  strategyAdoptionProvenance : KeyedTable StrategyAdoptionProvenanceRow.operatorStrategyRevision

inductive PersistenceError where
  | conflictingStrategyCandidateSet (strategyCandidateRevision : String)
  | conflictingAdoptableStrategyRevision (adoptableStrategyRevision : String)
  | conflictingStrategyAdoptionProvenance (operatorStrategyRevision : String)
  | missingCandidateAdoptionLink (operatorTargetRevision : String)
  | missingStrategyAdoptionLink (operatorStrategyRevision : String)
deriving DecidableEq, Repr

def PersistenceError.toString : PersistenceError → String
  | conflictingStrategyCandidateSet revision =>
      s!"strategy candidate set {revision} already exists with different fields"
  | conflictingAdoptableStrategyRevision revision =>
      s!"adoptable strategy revision {revision} already exists with different fields"
  | conflictingStrategyAdoptionProvenance revision =>
      s!"strategy adoption provenance {revision} already exists with different linkage"
  | missingCandidateAdoptionLink revision =>
      s!"operator target revision {revision} could not be linked back to a candidate adoption provenance chain"
  | missingStrategyAdoptionLink revision =>
      s!"operator strategy revision {revision} could not be linked back to a strategy adoption provenance chain"

/-! ## Older rows under the neutral names -/

def CandidateTargetSetRow.neutral (row : CandidateTargetSetRow) : StrategyCandidateSetRow :=
  { strategyCandidateRevision := row.candidateRevision
    snapshotId := row.snapshotId
    sourceRevision := row.sourceRevision
    payload := row.payload }

def AdoptableTargetRevisionRow.neutral (row : AdoptableTargetRevisionRow) :
    AdoptableStrategyRevisionRow :=
  { adoptableStrategyRevision := row.adoptableRevision
    strategyCandidateRevision := row.candidateRevision
    renderedOperatorStrategyRevision := row.renderedOperatorTargetRevision
    payload := row.payload }

def CandidateAdoptionProvenanceRow.neutral (row : CandidateAdoptionProvenanceRow) :
    StrategyAdoptionProvenanceRow :=
  { operatorStrategyRevision := row.operatorTargetRevision
    adoptableStrategyRevision := row.adoptableRevision
    strategyCandidateRevision := row.candidateRevision }

namespace StrategyDatabase

def empty : StrategyDatabase := ⟨.empty, .empty, .empty, .empty, .empty, .empty⟩

variable (database : StrategyDatabase)

/-! ## Candidates and adoptable revisions -/

def getStrategyCandidateSet (strategyCandidateRevision : String) :
    Option StrategyCandidateSetRow :=
  database.strategyCandidateSets.get? strategyCandidateRevision <|>
    (database.candidateTargetSets.get? strategyCandidateRevision).map CandidateTargetSetRow.neutral

def getAdoptableStrategyRevision (adoptableStrategyRevision : String) :
    Option AdoptableStrategyRevisionRow :=
  database.adoptableStrategyRevisions.get? adoptableStrategyRevision <|>
    (database.adoptableTargetRevisions.get? adoptableStrategyRevision).map
      AdoptableTargetRevisionRow.neutral

/-! ## Provenance -/

/-- The adoptable revision of the provenance is there and agrees with it. -/
def JoinsAdoptable (row : StrategyAdoptionProvenanceRow) : Prop :=
  ∃ adoptable ∈ database.adoptableStrategyRevisions.get? row.adoptableStrategyRevision,
    adoptable.strategyCandidateRevision = row.strategyCandidateRevision ∧
    adoptable.renderedOperatorStrategyRevision = row.operatorStrategyRevision

instance : DecidablePred database.JoinsAdoptable := fun _ ↦
  inferInstanceAs (Decidable (∃ _ ∈ _, _))

/-- The adoptable revision and the candidate of the provenance are there. -/
def Linked (row : StrategyAdoptionProvenanceRow) : Prop :=
  database.JoinsAdoptable row ∧
    (database.strategyCandidateSets.get? row.strategyCandidateRevision).isSome

instance : DecidablePred database.Linked := fun _ ↦ inferInstanceAs (Decidable (_ ∧ _))

/-- The older tables have the adoptable revision and the candidate of the provenance. -/
def TargetLinked (row : CandidateAdoptionProvenanceRow) : Prop :=
  (∃ adoptable ∈ database.adoptableTargetRevisions.get? row.adoptableRevision,
    adoptable.candidateRevision = row.candidateRevision ∧
    adoptable.renderedOperatorTargetRevision = row.operatorTargetRevision) ∧
  (database.candidateTargetSets.get? row.candidateRevision).isSome

instance : DecidablePred database.TargetLinked := fun _ ↦
  inferInstanceAs (Decidable ((∃ _ ∈ _, _) ∧ _))

def getByOperatorTargetRevision (operatorTargetRevision : String) :
    Except PersistenceError (Option CandidateAdoptionProvenanceRow) :=
  match database.candidateAdoptionProvenance.get? operatorTargetRevision with
  | none => .ok none
  | some row =>
      if database.TargetLinked row then
        .ok (some row)
      else
        .error (.missingCandidateAdoptionLink operatorTargetRevision)

/-- A neutral row answers if there is one; the older row does otherwise. -/
def getByOperatorStrategyRevision (operatorStrategyRevision : String) :
    Except PersistenceError (Option StrategyAdoptionProvenanceRow) :=
  match database.strategyAdoptionProvenance.get? operatorStrategyRevision with
  | some row =>
      if database.Linked row then
        .ok (some row)
      else
        .error (.missingStrategyAdoptionLink operatorStrategyRevision)
  | none =>
      match database.candidateAdoptionProvenance.get? operatorStrategyRevision with
      | none => .ok none
      | some row =>
          if database.TargetLinked row then
            .ok (some row.neutral)
          else
            .error (.missingStrategyAdoptionLink operatorStrategyRevision)

/-! ## Writing -/

end StrategyDatabase

/-- A row that is inserted unless the table has one under its key. -/
inductive StrategyWrite where
  | candidateSet (row : StrategyCandidateSetRow)
  | adoptableRevision (row : AdoptableStrategyRevisionRow)
  | provenance (row : StrategyAdoptionProvenanceRow)
deriving DecidableEq, Repr

namespace StrategyDatabase

def write (database : StrategyDatabase) : StrategyWrite → StrategyDatabase
  | .candidateSet row =>
      { database with strategyCandidateSets := database.strategyCandidateSets.insertNew row }
  | .adoptableRevision row =>
      { database with
        adoptableStrategyRevisions := database.adoptableStrategyRevisions.insertNew row }
  | .provenance row =>
      { database with
        strategyAdoptionProvenance := database.strategyAdoptionProvenance.insertNew row }

/-- What the table of the write has under its key. -/
def stored? (database : StrategyDatabase) : StrategyWrite → Option StrategyWrite
  | .candidateSet row =>
      (database.strategyCandidateSets.get? row.strategyCandidateRevision).map .candidateSet
  | .adoptableRevision row =>
      (database.adoptableStrategyRevisions.get? row.adoptableStrategyRevision).map
        .adoptableRevision
  | .provenance row =>
      (database.strategyAdoptionProvenance.get? row.operatorStrategyRevision).map .provenance

/-- The row of the write is in its table. -/
def Stored (database : StrategyDatabase) (write : StrategyWrite) : Prop :=
  database.stored? write = some write

/-- The database after some writes. -/
def writeAll (database : StrategyDatabase) (writes : List StrategyWrite) : StrategyDatabase :=
  writes.foldl write database

/-- The second database has every row of the first. -/
structure Extends (database database' : StrategyDatabase) : Prop where
  candidateTargetSets : database'.candidateTargetSets = database.candidateTargetSets
  adoptableTargetRevisions :
    database'.adoptableTargetRevisions = database.adoptableTargetRevisions
  candidateAdoptionProvenance :
    database'.candidateAdoptionProvenance = database.candidateAdoptionProvenance
  strategyCandidateSets : ∀ key row, database.strategyCandidateSets.get? key = some row →
    database'.strategyCandidateSets.get? key = some row
  adoptableStrategyRevisions : ∀ key row,
    database.adoptableStrategyRevisions.get? key = some row →
      database'.adoptableStrategyRevisions.get? key = some row
  strategyAdoptionProvenance : ∀ key row,
    database.strategyAdoptionProvenance.get? key = some row →
      database'.strategyAdoptionProvenance.get? key = some row

instance : Std.Refl Extends :=
  ⟨fun _ ↦ ⟨rfl, rfl, rfl, fun _ _ h ↦ h, fun _ _ h ↦ h, fun _ _ h ↦ h⟩⟩

instance : IsTrans StrategyDatabase Extends := ⟨fun _ _ _ h h' ↦
  { candidateTargetSets := h'.candidateTargetSets.trans h.candidateTargetSets
    adoptableTargetRevisions := h'.adoptableTargetRevisions.trans h.adoptableTargetRevisions
    candidateAdoptionProvenance :=
      h'.candidateAdoptionProvenance.trans h.candidateAdoptionProvenance
    strategyCandidateSets := fun key row hrow ↦
      h'.strategyCandidateSets key row (h.strategyCandidateSets key row hrow)
    adoptableStrategyRevisions := fun key row hrow ↦
      h'.adoptableStrategyRevisions key row (h.adoptableStrategyRevisions key row hrow)
    strategyAdoptionProvenance := fun key row hrow ↦
      h'.strategyAdoptionProvenance key row (h.strategyAdoptionProvenance key row hrow) }⟩

section Lemmas

variable {database database' : StrategyDatabase}

/-- A write adds a row or nothing. -/
theorem extends_write (database : StrategyDatabase) (write : StrategyWrite) :
    database.Extends (database.write write) := by
  have hrefl := refl_of Extends database
  cases write with
  | candidateSet row =>
      exact { hrefl with
        strategyCandidateSets := fun _ _ h ↦ KeyedTable.get?_insertNew_of_some h }
  | adoptableRevision row =>
      exact { hrefl with
        adoptableStrategyRevisions := fun _ _ h ↦ KeyedTable.get?_insertNew_of_some h }
  | provenance row =>
      exact { hrefl with
        strategyAdoptionProvenance := fun _ _ h ↦ KeyedTable.get?_insertNew_of_some h }

theorem extends_writeAll (database : StrategyDatabase) (writes : List StrategyWrite) :
    database.Extends (database.writeAll writes) := by
  induction writes generalizing database with
  | nil => exact refl_of Extends database
  | cons write writes ih => exact trans_of Extends (extends_write database write) (ih _)

theorem Extends.targetLinked_iff (h : database.Extends database')
    {row : CandidateAdoptionProvenanceRow} :
    database'.TargetLinked row ↔ database.TargetLinked row := by
  rw [TargetLinked, TargetLinked, h.adoptableTargetRevisions, h.candidateTargetSets]

theorem Extends.joinsAdoptable (h : database.Extends database')
    {row : StrategyAdoptionProvenanceRow} (hjoins : database.JoinsAdoptable row) :
    database'.JoinsAdoptable row := by
  obtain ⟨adoptable, hadoptable, hmatches⟩ := hjoins
  exact ⟨adoptable, h.adoptableStrategyRevisions _ _ hadoptable, hmatches⟩

theorem Extends.linked (h : database.Extends database') {row : StrategyAdoptionProvenanceRow}
    (hlinked : database.Linked row) : database'.Linked row := by
  obtain ⟨hjoins, hcandidate⟩ := hlinked
  obtain ⟨candidate, hcandidate⟩ := Option.isSome_iff_exists.mp hcandidate
  refine ⟨h.joinsAdoptable hjoins, ?_⟩
  rw [h.strategyCandidateSets _ _ hcandidate]
  rfl

/-- The older provenance is read alike from a database that has more neutral rows. -/
theorem Extends.getByOperatorTargetRevision_eq (h : database.Extends database')
    (operatorTargetRevision : String) :
    database'.getByOperatorTargetRevision operatorTargetRevision =
      database.getByOperatorTargetRevision operatorTargetRevision := by
  rw [getByOperatorTargetRevision, getByOperatorTargetRevision, h.candidateAdoptionProvenance]
  cases database.candidateAdoptionProvenance.get? operatorTargetRevision with
  | none => rfl
  | some row => simp only [h.targetLinked_iff]

/-- Where the neutral provenance is the same, what was read is read again. -/
theorem Extends.getByOperatorStrategyRevision_eq (h : database.Extends database')
    {operatorStrategyRevision : String} {row : Option StrategyAdoptionProvenanceRow}
    (hsame : database'.strategyAdoptionProvenance.get? operatorStrategyRevision =
      database.strategyAdoptionProvenance.get? operatorStrategyRevision)
    (hok : database.getByOperatorStrategyRevision operatorStrategyRevision = .ok row) :
    database'.getByOperatorStrategyRevision operatorStrategyRevision = .ok row := by
  rw [getByOperatorStrategyRevision] at hok ⊢
  rw [hsame, h.candidateAdoptionProvenance]
  cases hneutral : database.strategyAdoptionProvenance.get? operatorStrategyRevision with
  | some neutral =>
      rw [hneutral] at hok
      by_cases hlinked : database.Linked neutral
      · simp only [if_pos hlinked, if_pos (h.linked hlinked)] at hok ⊢
        exact hok
      · simp [hlinked] at hok
  | none =>
      rw [hneutral] at hok
      simp only [h.targetLinked_iff]
      exact hok

variable {write : StrategyWrite}

theorem getByOperatorStrategyRevision_eq_none {operatorStrategyRevision : String} :
    database.getByOperatorStrategyRevision operatorStrategyRevision = .ok none ↔
      database.strategyAdoptionProvenance.get? operatorStrategyRevision = none ∧
      database.candidateAdoptionProvenance.get? operatorStrategyRevision = none := by
  rw [getByOperatorStrategyRevision]
  cases database.strategyAdoptionProvenance.get? operatorStrategyRevision with
  | some row => by_cases hlinked : database.Linked row <;> simp [hlinked]
  | none =>
      cases database.candidateAdoptionProvenance.get? operatorStrategyRevision with
      | some row => by_cases hlinked : database.TargetLinked row <;> simp [hlinked]
      | none => simp

/-- Provenance that is read is a neutral row that is linked, or stands in for none. -/
theorem getByOperatorStrategyRevision_eq_some {operatorStrategyRevision : String}
    {row : StrategyAdoptionProvenanceRow}
    (h : database.getByOperatorStrategyRevision operatorStrategyRevision = .ok (some row)) :
    row.operatorStrategyRevision = operatorStrategyRevision ∧
      (database.strategyAdoptionProvenance.get? operatorStrategyRevision = some row ∧
          database.Linked row ∨
        database.strategyAdoptionProvenance.get? operatorStrategyRevision = none ∧
          database.candidateAdoptionProvenance.get? operatorStrategyRevision ≠ none) := by
  rw [getByOperatorStrategyRevision] at h
  cases hneutral : database.strategyAdoptionProvenance.get? operatorStrategyRevision with
  | some neutral =>
      rw [hneutral] at h
      by_cases hlinked : database.Linked neutral
      · simp only [if_pos hlinked, Except.ok.injEq, Option.some.injEq] at h
        subst h
        exact ⟨KeyedTable.key_of_get? hneutral, .inl ⟨rfl, hlinked⟩⟩
      · simp [hlinked] at h
  | none =>
      rw [hneutral] at h
      cases holder : database.candidateAdoptionProvenance.get? operatorStrategyRevision with
      | none => simp [holder] at h
      | some older =>
          by_cases hlinked : database.TargetLinked older
          · simp only [holder, if_pos hlinked, Except.ok.injEq, Option.some.injEq] at h
            subst h
            have hkey : older.operatorTargetRevision = operatorStrategyRevision :=
              KeyedTable.key_of_get? holder
            exact ⟨hkey, .inr ⟨rfl, by simp⟩⟩
          · simp [holder, hlinked] at h

/-- A neutral row that is linked is read. -/
theorem getByOperatorStrategyRevision_of_linked {row : StrategyAdoptionProvenanceRow}
    (h : database.strategyAdoptionProvenance.get? row.operatorStrategyRevision = some row)
    (hlinked : database.Linked row) :
    database.getByOperatorStrategyRevision row.operatorStrategyRevision = .ok (some row) := by
  simp only [getByOperatorStrategyRevision, h, if_pos hlinked]

@[simp] theorem stored_candidateSet {row : StrategyCandidateSetRow} :
    database.Stored (.candidateSet row) ↔
      database.strategyCandidateSets.get? row.strategyCandidateRevision = some row := by
  simp [Stored, stored?]

@[simp] theorem stored_adoptableRevision {row : AdoptableStrategyRevisionRow} :
    database.Stored (.adoptableRevision row) ↔
      database.adoptableStrategyRevisions.get? row.adoptableStrategyRevision = some row := by
  simp [Stored, stored?]

@[simp] theorem stored_provenance {row : StrategyAdoptionProvenanceRow} :
    database.Stored (.provenance row) ↔
      database.strategyAdoptionProvenance.get? row.operatorStrategyRevision = some row := by
  simp [Stored, stored?]

theorem write_of_stored (h : database.Stored write) : database.write write = database := by
  cases write with
  | candidateSet row =>
      rw [StrategyDatabase.write, KeyedTable.insertNew_of_some (stored_candidateSet.mp h)]
  | adoptableRevision row =>
      rw [StrategyDatabase.write, KeyedTable.insertNew_of_some (stored_adoptableRevision.mp h)]
  | provenance row =>
      rw [StrategyDatabase.write, KeyedTable.insertNew_of_some (stored_provenance.mp h)]

theorem Extends.stored (h : database.Extends database') (hstored : database.Stored write) :
    database'.Stored write := by
  cases write with
  | candidateSet row =>
      exact stored_candidateSet.mpr (h.strategyCandidateSets _ _ (stored_candidateSet.mp hstored))
  | adoptableRevision row =>
      exact stored_adoptableRevision.mpr
        (h.adoptableStrategyRevisions _ _ (stored_adoptableRevision.mp hstored))
  | provenance row =>
      exact stored_provenance.mpr
        (h.strategyAdoptionProvenance _ _ (stored_provenance.mp hstored))

end Lemmas

end StrategyDatabase

/-! ## Commands -/

/-- The database, and what was written to it so far. -/
structure StrategyStore where
  database : StrategyDatabase
  /-- Not in the source. -/
  writes : List StrategyWrite

namespace StrategyStore

def insert (store : StrategyStore) (write : StrategyWrite) : StrategyStore :=
  { database := store.database.write write, writes := store.writes ++ [write] }

/-- Insert a row, and see that it is the one that is stored. -/
def materialize (write : StrategyWrite) (subject lineage : String) :
    Command String StrategyStore Unit := do
  modify fun store ↦ store.insert write
  match (← get).database.stored? write with
  | none => throw s!"{subject} was not materialized"
  | some stored =>
      if stored ≠ write then throw s!"{subject} conflicts with existing {lineage} lineage"

def materializeStrategyCandidateSet (lineage : String) (row : StrategyCandidateSetRow) :
    Command String StrategyStore Unit :=
  materialize (.candidateSet row)
    s!"strategy_candidate_revision {row.strategyCandidateRevision}" lineage

def materializeAdoptableStrategyRevision (lineage : String) (row : AdoptableStrategyRevisionRow) :
    Command String StrategyStore Unit :=
  materialize (.adoptableRevision row)
    s!"adoptable_strategy_revision {row.adoptableStrategyRevision}" lineage

def upsertStrategyCandidateSet (row : StrategyCandidateSetRow) :
    Command PersistenceError StrategyStore Unit := do
  match (← get).database.getStrategyCandidateSet row.strategyCandidateRevision with
  | some existing =>
      if existing ≠ row then
        throw (.conflictingStrategyCandidateSet row.strategyCandidateRevision)
  | none => modify fun store ↦ store.insert (.candidateSet row)

def upsertAdoptableStrategyRevision (row : AdoptableStrategyRevisionRow) :
    Command PersistenceError StrategyStore Unit := do
  match (← get).database.getAdoptableStrategyRevision row.adoptableStrategyRevision with
  | some existing =>
      if existing ≠ row then
        throw (.conflictingAdoptableStrategyRevision row.adoptableStrategyRevision)
  | none => modify fun store ↦ store.insert (.adoptableRevision row)

def upsertProvenance (row : StrategyAdoptionProvenanceRow) :
    Command PersistenceError StrategyStore Unit := do
  let existing ← liftM ((← get).database.getByOperatorStrategyRevision row.operatorStrategyRevision)
  match existing with
  | some existing =>
      if existing ≠ row then
        throw (.conflictingStrategyAdoptionProvenance row.operatorStrategyRevision)
  | none => modify fun store ↦ store.insert (.provenance row)

/-! ## What the commands do -/

section Specs

variable {write : StrategyWrite} {subject lineage : String} {store store' : StrategyStore}
  {row : StrategyAdoptionProvenanceRow}

/-- What was done in between was written and is logged. -/
def Logs (store store' : StrategyStore) : Prop :=
  ∃ writes, store'.writes = store.writes ++ writes ∧
    store'.database = store.database.writeAll writes

instance : Std.Refl Logs := ⟨fun _ ↦ ⟨[], (List.append_nil _).symm, rfl⟩⟩

instance : IsTrans StrategyStore Logs := ⟨by
  rintro _ _ _ ⟨writes, hwrites, hdatabase⟩ ⟨writes', hwrites', hdatabase'⟩
  refine ⟨writes ++ writes', by rw [hwrites', hwrites, List.append_assoc], ?_⟩
  rw [hdatabase', hdatabase, StrategyDatabase.writeAll, StrategyDatabase.writeAll,
    StrategyDatabase.writeAll, List.foldl_append]⟩

theorem Logs.extends (h : store.Logs store') : store.database.Extends store'.database := by
  obtain ⟨writes, -, hdatabase⟩ := h
  rw [hdatabase]
  exact StrategyDatabase.extends_writeAll _ writes

theorem logs_insert (store : StrategyStore) (write : StrategyWrite) :
    store.Logs (store.insert write) := ⟨[write], rfl, rfl⟩

theorem logs_materialize : Within Logs (materialize write subject lineage) := by
  refine within_bind (within_modify fun store ↦ store.logs_insert write) fun _ ↦ ?_
  refine within_bind within_get fun store ↦ ?_
  cases store.database.stored? write with
  | none => exact within_throw
  | some stored => exact within_ite within_throw within_pure

theorem logs_upsertProvenance : Within Logs (upsertProvenance row) := by
  refine within_bind within_get fun store ↦ within_bind within_lift fun existing ↦ ?_
  cases existing with
  | some existing => exact within_ite within_throw within_pure
  | none => exact within_modify fun store ↦ store.logs_insert (.provenance row)

/-- A row is materialized exactly if it is stored once it was inserted. -/
theorem exec_materialize_eq_ok :
    exec (materialize write subject lineage) store = (.ok ⟨⟩, store') ↔
      (store.insert write).database.Stored write ∧ store' = store.insert write := by
  simp only [materialize, exec_bind, exec_modify, exec_get, StrategyDatabase.Stored]
  cases (store.insert write).database.stored? write with
  | none => simp
  | some stored =>
      by_cases hsame : stored = write
      · simp [hsame, eq_comm]
      · simp [hsame]

/-- A candidate that is read already is upserted exactly if it is the same. -/
theorem exec_upsertStrategyCandidateSet_of_some {row existing : StrategyCandidateSetRow}
    (h : store.database.getStrategyCandidateSet row.strategyCandidateRevision = some existing) :
    exec (upsertStrategyCandidateSet row) store =
      (if existing = row then .ok ⟨⟩
        else .error (.conflictingStrategyCandidateSet row.strategyCandidateRevision), store) := by
  simp only [upsertStrategyCandidateSet, exec_bind, exec_get, h]
  by_cases hsame : existing = row
  · simp [hsame]
  · simp [hsame]

/-- An adoptable revision that is read already is upserted exactly if it is the same. -/
theorem exec_upsertAdoptableStrategyRevision_of_some {row existing : AdoptableStrategyRevisionRow}
    (h : store.database.getAdoptableStrategyRevision row.adoptableStrategyRevision =
      some existing) :
    exec (upsertAdoptableStrategyRevision row) store =
      (if existing = row then .ok ⟨⟩
        else .error (.conflictingAdoptableStrategyRevision row.adoptableStrategyRevision), store) := by
  simp only [upsertAdoptableStrategyRevision, exec_bind, exec_get, h]
  by_cases hsame : existing = row
  · simp [hsame]
  · simp [hsame]

/-- Provenance that is upserted is read already, or it is new and is inserted. -/
theorem exec_upsertProvenance_eq_ok :
    exec (upsertProvenance row) store = (.ok ⟨⟩, store') ↔
      store.database.getByOperatorStrategyRevision row.operatorStrategyRevision = .ok (some row) ∧
        store' = store ∨
      store.database.getByOperatorStrategyRevision row.operatorStrategyRevision = .ok none ∧
        store' = store.insert (.provenance row) := by
  simp only [upsertProvenance, exec_bind, exec_get, exec_lift]
  cases store.database.getByOperatorStrategyRevision row.operatorStrategyRevision with
  | error error => simp
  | ok existing =>
      cases existing with
      | none => simp [eq_comm]
      | some existing =>
          by_cases hsame : existing = row
          · simp [hsame, eq_comm]
          · simp [hsame]

end Specs

end StrategyStore

end AxiomArb.Persistence
