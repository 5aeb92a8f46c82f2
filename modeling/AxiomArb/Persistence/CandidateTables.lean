import AxiomArb.Persistence.StrategyControl

/-!
# The tables of candidates

Candidates, adoptable revisions and the provenance of adoptions are upserted: a row is inserted
if its key is new, and otherwise it has to be the one that is there.  Foreign keys lead from
provenance to an adoptable revision and from there to a candidate.  No key says that the adoptable
revision renders what the provenance adopts; where it does not, the provenance is taken in once
and is refused from then on (`upsert_again_iff`).

## Honest boundary

* A row that is found by an insert that another call has overtaken is found by the call's first
  read here.
-/

namespace AxiomArb.Persistence

open Library

/-- The tables of candidates with their foreign keys. -/
structure CandidateDatabase extends StrategyDatabase where
  candidateOf : ∀ key row, adoptableTargetRevisions.get? key = some row →
    (candidateTargetSets.get? row.candidateRevision).isSome
  adoptableOf : ∀ key row, candidateAdoptionProvenance.get? key = some row →
    ∃ adoptable, adoptableTargetRevisions.get? row.adoptableRevision = some adoptable ∧
      adoptable.candidateRevision = row.candidateRevision

inductive CandidateUpsertError where
  | conflictingCandidateTargetSet (candidateRevision : String)
  | conflictingAdoptableTargetRevision (adoptableRevision : String)
  | conflictingCandidateAdoptionProvenance (operatorTargetRevision : String)
  | lookup (error : PersistenceError)
  | foreignKey (table : String)
deriving DecidableEq, Repr

inductive CandidateUpsert where
  | targetSet (row : CandidateTargetSetRow)
  | adoptableRevision (row : AdoptableTargetRevisionRow)
  | provenance (row : CandidateAdoptionProvenanceRow)
deriving DecidableEq, Repr

namespace CandidateDatabase

def empty : CandidateDatabase :=
  { StrategyDatabase.empty with
    candidateOf := fun key row h ↦ by
      rw [StrategyDatabase.empty, KeyedTable.get?_empty] at h
      cases h
    adoptableOf := fun key row h ↦ by
      rw [StrategyDatabase.empty, KeyedTable.get?_empty] at h
      cases h }

/-! ## Inserting -/

theorem isSome_insertNew {κ ν : Type} [Ord κ] [Std.TransOrd κ] [Std.LawfulEqOrd κ] {key : ν → κ}
    {table : KeyedTable key} {k : κ} (row : ν) (h : (table.get? k).isSome) :
    ((table.insertNew row).get? k).isSome := by
  obtain ⟨found, hfound⟩ := Option.isSome_iff_exists.mp h
  exact Option.isSome_of_eq_some (KeyedTable.get?_insertNew_of_some hfound)

def insertTargetSet (db : CandidateDatabase) (row : CandidateTargetSetRow) : CandidateDatabase :=
  { db with
    candidateTargetSets := db.candidateTargetSets.insertNew row
    candidateOf := fun key adoptable h ↦ isSome_insertNew row (db.candidateOf key adoptable h) }

def insertAdoptable (db : CandidateDatabase) (row : AdoptableTargetRevisionRow)
    (hcandidate : (db.candidateTargetSets.get? row.candidateRevision).isSome) : CandidateDatabase :=
  { db with
    adoptableTargetRevisions := db.adoptableTargetRevisions.insertNew row
    candidateOf := fun key adoptable h ↦ by
      rcases KeyedTable.get?_of_get?_insertNew h with hold | ⟨-, -, rfl⟩
      · exact db.candidateOf key adoptable hold
      · exact hcandidate
    adoptableOf := fun key provenance h ↦ by
      obtain ⟨adoptable, hadoptable, hsame⟩ := db.adoptableOf key provenance h
      exact ⟨adoptable, KeyedTable.get?_insertNew_of_some hadoptable, hsame⟩ }

/-- The foreign key of provenance. -/
def RefersToAdoptable (db : CandidateDatabase) (row : CandidateAdoptionProvenanceRow) : Prop :=
  ∃ adoptable ∈ db.adoptableTargetRevisions.get? row.adoptableRevision,
    adoptable.candidateRevision = row.candidateRevision

instance (db : CandidateDatabase) : DecidablePred db.RefersToAdoptable := fun _ ↦
  inferInstanceAs (Decidable (∃ _ ∈ _, _))

def insertProvenance (db : CandidateDatabase) (row : CandidateAdoptionProvenanceRow)
    (hadoptable : db.RefersToAdoptable row) : CandidateDatabase :=
  { db with
    candidateAdoptionProvenance := db.candidateAdoptionProvenance.insertNew row
    adoptableOf := fun key provenance h ↦ by
      rcases KeyedTable.get?_of_get?_insertNew h with hold | ⟨-, -, rfl⟩
      · exact db.adoptableOf key provenance hold
      · exact hadoptable }

/-! ## Upserts -/

def upsertCandidateTargetSet (db : CandidateDatabase) (row : CandidateTargetSetRow) :
    Except CandidateUpsertError CandidateDatabase :=
  match db.candidateTargetSets.get? row.candidateRevision with
  | some existing =>
      if existing = row then .ok db
      else .error (.conflictingCandidateTargetSet row.candidateRevision)
  | none => .ok (db.insertTargetSet row)

def upsertAdoptableTargetRevision (db : CandidateDatabase) (row : AdoptableTargetRevisionRow) :
    Except CandidateUpsertError CandidateDatabase :=
  match db.adoptableTargetRevisions.get? row.adoptableRevision with
  | some existing =>
      if existing = row then .ok db
      else .error (.conflictingAdoptableTargetRevision row.adoptableRevision)
  | none =>
      if h : (db.candidateTargetSets.get? row.candidateRevision).isSome then
        .ok (db.insertAdoptable row h)
      else .error (.foreignKey "adoptable_target_revisions")

def upsertProvenance (db : CandidateDatabase) (row : CandidateAdoptionProvenanceRow) :
    Except CandidateUpsertError CandidateDatabase :=
  match db.getByOperatorTargetRevision row.operatorTargetRevision with
  | .error error => .error (.lookup error)
  | .ok (some existing) =>
      if existing = row then .ok db
      else .error (.conflictingCandidateAdoptionProvenance row.operatorTargetRevision)
  | .ok none =>
      if h : db.RefersToAdoptable row then .ok (db.insertProvenance row h)
      else .error (.foreignKey "candidate_adoption_provenance")

def upsert (db : CandidateDatabase) : CandidateUpsert → Except CandidateUpsertError CandidateDatabase
  | .targetSet row => db.upsertCandidateTargetSet row
  | .adoptableRevision row => db.upsertAdoptableTargetRevision row
  | .provenance row => db.upsertProvenance row

/-- The tables after a call, whether or not it was refused. -/
def afterUpsert (db : CandidateDatabase) (upsert : CandidateUpsert) : CandidateDatabase :=
  match db.upsert upsert with
  | .ok db' => db'
  | .error _ => db

def afterUpserts (db : CandidateDatabase) (upserts : List CandidateUpsert) : CandidateDatabase :=
  upserts.foldl afterUpsert db

/-- The row is in its table. -/
def Has (db : CandidateDatabase) : CandidateUpsert → Prop
  | .targetSet row => db.candidateTargetSets.get? row.candidateRevision = some row
  | .adoptableRevision row => db.adoptableTargetRevisions.get? row.adoptableRevision = some row
  | .provenance row => db.candidateAdoptionProvenance.get? row.operatorTargetRevision = some row

/-- A provenance row whose adoptable revision renders what it adopts; the other rows are in order
as they are. -/
def InOrder (db : CandidateDatabase) : CandidateUpsert → Prop
  | .targetSet _ | .adoptableRevision _ => True
  | .provenance row => ∃ adoptable ∈ db.adoptableTargetRevisions.get? row.adoptableRevision,
      adoptable.renderedOperatorTargetRevision = row.operatorTargetRevision

/-! ## What upserts keep -/

section

variable {db db' : CandidateDatabase} {upsert : CandidateUpsert}

theorem isSome_candidate {row : CandidateAdoptionProvenanceRow}
    (h : db.candidateAdoptionProvenance.get? row.operatorTargetRevision = some row) :
    (db.candidateTargetSets.get? row.candidateRevision).isSome := by
  obtain ⟨adoptable, hadoptable, hsame⟩ := db.adoptableOf _ row h
  exact hsame ▸ db.candidateOf _ adoptable hadoptable

/-- With the foreign keys, a stored provenance row is linked if it is in order. -/
theorem targetLinked_iff {row : CandidateAdoptionProvenanceRow} (h : db.Has (.provenance row)) :
    db.TargetLinked row ↔ db.InOrder (.provenance row) := by
  constructor
  · rintro ⟨⟨adoptable, hadoptable, -, hrendered⟩, -⟩
    exact ⟨adoptable, hadoptable, hrendered⟩
  · rintro ⟨adoptable, hadoptable, hrendered⟩
    obtain ⟨adoptable', hadoptable', hsame⟩ := db.adoptableOf _ row h
    obtain rfl : adoptable' = adoptable := Option.some.inj (hadoptable'.symm.trans hadoptable)
    exact ⟨⟨adoptable', hadoptable, hsame, hrendered⟩, isSome_candidate h⟩

/-- A call that is accepted leaves its row in the table, and every row that was there. -/
theorem has_of_upsert (h : db.upsert upsert = .ok db') :
    db'.Has upsert ∧ ∀ other, db.Has other → db'.Has other := by
  cases upsert with
  | targetSet row =>
      rw [CandidateDatabase.upsert, upsertCandidateTargetSet] at h
      cases hfound : db.candidateTargetSets.get? row.candidateRevision with
      | some existing =>
          simp only [hfound] at h
          split_ifs at h with hsame
          obtain rfl := Except.ok.inj h
          exact ⟨hsame ▸ hfound, fun other ↦ id⟩
      | none =>
          simp only [hfound] at h
          obtain rfl := Except.ok.inj h
          refine ⟨?_, fun other hother ↦ ?_⟩
          · show (db.candidateTargetSets.insertNew row).get? _ = _
            rw [KeyedTable.get?_insertNew_self, hfound, Option.getD_none]
          · cases other with
            | targetSet other => exact KeyedTable.get?_insertNew_of_some hother
            | adoptableRevision other => exact hother
            | provenance other => exact hother
  | adoptableRevision row =>
      rw [CandidateDatabase.upsert, upsertAdoptableTargetRevision] at h
      cases hfound : db.adoptableTargetRevisions.get? row.adoptableRevision with
      | some existing =>
          simp only [hfound] at h
          split_ifs at h with hsame
          obtain rfl := Except.ok.inj h
          exact ⟨hsame ▸ hfound, fun other ↦ id⟩
      | none =>
          simp only [hfound] at h
          split_ifs at h with hcandidate
          obtain rfl := Except.ok.inj h
          refine ⟨?_, fun other hother ↦ ?_⟩
          · show (db.adoptableTargetRevisions.insertNew row).get? _ = _
            rw [KeyedTable.get?_insertNew_self, hfound, Option.getD_none]
          · cases other with
            | targetSet other => exact hother
            | adoptableRevision other => exact KeyedTable.get?_insertNew_of_some hother
            | provenance other => exact hother
  | provenance row =>
      rw [CandidateDatabase.upsert, upsertProvenance] at h
      cases hfound : db.candidateAdoptionProvenance.get? row.operatorTargetRevision with
      | some existing =>
          by_cases hlinked : db.TargetLinked existing
          · simp only [StrategyDatabase.getByOperatorTargetRevision, hfound, if_pos hlinked] at h
            by_cases hsame : existing = row
            · rw [if_pos hsame] at h
              obtain rfl := Except.ok.inj h
              exact ⟨hsame ▸ hfound, fun other ↦ id⟩
            · rw [if_neg hsame] at h
              cases h
          · simp only [StrategyDatabase.getByOperatorTargetRevision, hfound, if_neg hlinked] at h
            cases h
      | none =>
          simp only [StrategyDatabase.getByOperatorTargetRevision, hfound] at h
          split_ifs at h with hrefers
          obtain rfl := Except.ok.inj h
          refine ⟨?_, fun other hother ↦ ?_⟩
          · show (db.candidateAdoptionProvenance.insertNew row).get? _ = _
            rw [KeyedTable.get?_insertNew_self, hfound, Option.getD_none]
          · cases other with
            | targetSet other => exact hother
            | adoptableRevision other => exact hother
            | provenance other => exact KeyedTable.get?_insertNew_of_some hother

theorem has_afterUpserts {other : CandidateUpsert} (h : db.Has other) (upserts : List CandidateUpsert) :
    (db.afterUpserts upserts).Has other := by
  induction upserts generalizing db with
  | nil => exact h
  | cons upsert upserts ih =>
      show ((db.afterUpsert upsert).afterUpserts upserts).Has other
      refine ih ?_
      rw [afterUpsert]
      split
      · rename_i hok
        exact (has_of_upsert hok).2 other h
      · exact h

/-- The adoptable revision of a stored provenance row is there for good. -/
theorem inOrder_afterUpserts_iff {other : CandidateUpsert} (h : db.Has other)
    (upserts : List CandidateUpsert) :
    (db.afterUpserts upserts).InOrder other ↔ db.InOrder other := by
  cases other with
  | targetSet row => exact Iff.rfl
  | adoptableRevision row => exact Iff.rfl
  | provenance row =>
      obtain ⟨adoptable, hadoptable, -⟩ := db.adoptableOf _ row h
      have hkey : adoptable.adoptableRevision = row.adoptableRevision :=
        KeyedTable.key_of_get? hadoptable
      have hstored : db.Has (.adoptableRevision adoptable) := by
        show db.adoptableTargetRevisions.get? adoptable.adoptableRevision = some adoptable
        rw [hkey, hadoptable]
      have hlater : (db.afterUpserts upserts).adoptableTargetRevisions.get? row.adoptableRevision =
          some adoptable := by
        rw [← hkey]
        exact has_afterUpserts hstored upserts
      rw [InOrder, InOrder, hadoptable, hlater]

/-- A row that is stored is accepted again if it is in order. -/
theorem upsert_of_has (h : db.Has upsert) : db.upsert upsert = .ok db ↔ db.InOrder upsert := by
  cases upsert with
  | targetSet row =>
      have hfound : db.candidateTargetSets.get? row.candidateRevision = some row := h
      refine iff_of_true ?_ trivial
      simp only [CandidateDatabase.upsert, upsertCandidateTargetSet, hfound, if_pos]
  | adoptableRevision row =>
      have hfound : db.adoptableTargetRevisions.get? row.adoptableRevision = some row := h
      refine iff_of_true ?_ trivial
      simp only [CandidateDatabase.upsert, upsertAdoptableTargetRevision, hfound, if_pos]
  | provenance row =>
      have hfound : db.candidateAdoptionProvenance.get? row.operatorTargetRevision = some row := h
      rw [← targetLinked_iff h, CandidateDatabase.upsert, upsertProvenance,
        StrategyDatabase.getByOperatorTargetRevision, hfound]
      by_cases hlinked : db.TargetLinked row
      · simp [hlinked]
      · simp [hlinked]

end

end CandidateDatabase

end AxiomArb.Persistence
