import AxiomArb.AppLive.DurableLoad
import AxiomArb.Persistence.CandidateTables

/-!
# The summary of candidates

A replay counts the tables of candidates and names the operator target revision with the candidate
and the adoptable revision it was adopted from.  The progress row says which revision that is.
Without one the summary names what there is, as long as there is one row of each kind.  Where the
provenance does not lead back it names nothing, where a start refuses
(`candidateSummary_restored`).
-/

namespace AxiomArb.AppReplay

open AppLive Library Persistence

structure NegRiskCandidateSummary where
  candidateTargetSetCount : Nat
  adoptableTargetRevisionCount : Nat
  adoptionProvenanceCount : Nat
  latestCandidateRevision : Option String
  latestAdoptableRevision : Option String
  operatorTargetRevision : Option String
deriving DecidableEq, Repr

def failClosedCandidateSummary (candidateTargetSets : List CandidateTargetSetRow)
    (adoptableTargetRevisions : List AdoptableTargetRevisionRow)
    (adoptionProvenance : List CandidateAdoptionProvenanceRow) : NegRiskCandidateSummary :=
  { candidateTargetSetCount := candidateTargetSets.length
    adoptableTargetRevisionCount := adoptableTargetRevisions.length
    adoptionProvenanceCount := adoptionProvenance.length
    latestCandidateRevision := none
    latestAdoptableRevision := none
    operatorTargetRevision := none }

/-- The adoptable revision of the candidate, if it is the only one. -/
def soleAdoptable (candidate : CandidateTargetSetRow) :
    List AdoptableTargetRevisionRow → Option AdoptableTargetRevisionRow
  | [adoptable] =>
      if adoptable.candidateRevision = candidate.candidateRevision then some adoptable else none
  | _ => none

/-- What was adopted from the candidate, if that is all that was adopted. -/
def soleAdopted (candidate : CandidateTargetSetRow) :
    Option AdoptableTargetRevisionRow → List CandidateAdoptionProvenanceRow → Option String
  | some adoptable, [provenance] =>
      if provenance.candidateRevision = candidate.candidateRevision ∧
          provenance.adoptableRevision = adoptable.adoptableRevision ∧
          adoptable.renderedOperatorTargetRevision = provenance.operatorTargetRevision then
        some provenance.operatorTargetRevision
      else
        none
  | _, _ => none

def summarizeNegriskCandidateChain (candidateTargetSets : List CandidateTargetSetRow)
    (adoptableTargetRevisions : List AdoptableTargetRevisionRow)
    (adoptionProvenance : List CandidateAdoptionProvenanceRow) : NegRiskCandidateSummary :=
  let latest : Option String × Option String × Option String :=
    match candidateTargetSets with
    | [candidate] =>
        let adoptable := soleAdoptable candidate adoptableTargetRevisions
        (some candidate.candidateRevision,
          adoptable.map AdoptableTargetRevisionRow.adoptableRevision,
          soleAdopted candidate adoptable adoptionProvenance)
    | _ => (none, none, none)
  { candidateTargetSetCount := candidateTargetSets.length
    adoptableTargetRevisionCount := adoptableTargetRevisions.length
    adoptionProvenanceCount := adoptionProvenance.length
    latestCandidateRevision := latest.1
    latestAdoptableRevision := latest.2.1
    operatorTargetRevision := latest.2.2 }

def loadNegriskCandidateSummary (db : CandidateDatabase) (progress : Option RuntimeProgressRow) :
    Except PersistenceError NegRiskCandidateSummary :=
  let candidateTargetSets := db.candidateTargetSets.all
  let adoptableTargetRevisions := db.adoptableTargetRevisions.all
  let adoptionProvenance := db.candidateAdoptionProvenance.all
  let failClosed :=
    failClosedCandidateSummary candidateTargetSets adoptableTargetRevisions adoptionProvenance
  match progress.bind RuntimeProgressRow.operatorTargetRevision with
  | some operatorTargetRevision =>
      match db.getByOperatorTargetRevision operatorTargetRevision with
      | .ok (some provenance) =>
          match db.candidateTargetSets.get? provenance.candidateRevision,
            db.adoptableTargetRevisions.get? provenance.adoptableRevision with
          | some candidate, some adoptable =>
              .ok
                { failClosed with
                  latestCandidateRevision := some candidate.candidateRevision
                  latestAdoptableRevision := some adoptable.adoptableRevision
                  operatorTargetRevision := some operatorTargetRevision }
          | _, _ => .ok failClosed
      | .error (.missingCandidateAdoptionLink _) => .ok failClosed
      | .ok none => .ok failClosed
      | .error error => .error error
  | none =>
      .ok (summarizeNegriskCandidateChain candidateTargetSets adoptableTargetRevisions
        adoptionProvenance)

/-! ## What was adopted -/

/-- The revision was adopted from the adoptable revision, and that renders it. -/
def Adopted (db : CandidateDatabase) (provenance : CandidateAdoptionProvenanceRow) : Prop :=
  db.Has (.provenance provenance) ∧ db.InOrder (.provenance provenance)

/-- What the summary names is the provenance. -/
def NegRiskCandidateSummary.Names (summary : NegRiskCandidateSummary)
    (provenance : CandidateAdoptionProvenanceRow) : Prop :=
  summary.operatorTargetRevision = some provenance.operatorTargetRevision ∧
    summary.latestAdoptableRevision = some provenance.adoptableRevision ∧
    summary.latestCandidateRevision = some provenance.candidateRevision

/-- What a start restores of it. -/
def NegRiskCandidateSummary.restored (summary : NegRiskCandidateSummary) :
    CandidateRestoreStatus :=
  { latestCandidateRevision := summary.latestCandidateRevision
    latestAdoptableRevision := summary.latestAdoptableRevision
    latestCandidateOperatorTargetRevision := summary.operatorTargetRevision
    adoptionProvenanceResolved := summary.operatorTargetRevision.isSome }

/-- The revision that the tables are asked for: that of the progress row, or the only one. -/
def AsksFor (db : CandidateDatabase) (progress : Option RuntimeProgressRow)
    (operatorTargetRevision : String) : Prop :=
  match progress.bind RuntimeProgressRow.operatorTargetRevision with
  | some revision => revision = operatorTargetRevision
  | none => db.candidateTargetSets.all.length = 1 ∧ db.adoptableTargetRevisions.all.length = 1 ∧
      db.candidateAdoptionProvenance.all.length = 1

/-- The summary counts the tables and names what was adopted and is asked for. -/
structure Summarizes (db : CandidateDatabase) (progress : Option RuntimeProgressRow)
    (summary : NegRiskCandidateSummary) : Prop where
  candidates : summary.candidateTargetSetCount = db.candidateTargetSets.all.length
  adoptables : summary.adoptableTargetRevisionCount = db.adoptableTargetRevisions.all.length
  adoptions : summary.adoptionProvenanceCount = db.candidateAdoptionProvenance.all.length
  names : ∀ provenance, summary.Names provenance ↔
    AsksFor db progress provenance.operatorTargetRevision ∧ Adopted db provenance
  named : summary.operatorTargetRevision.isSome → ∃ provenance, summary.Names provenance

section

variable {db : CandidateDatabase} {progress : Option RuntimeProgressRow}
  {summary : NegRiskCandidateSummary} {provenance : CandidateAdoptionProvenanceRow}

theorem Adopted.chain (h : Adopted db provenance) :
    ∃ candidate adoptable,
      db.candidateTargetSets.get? provenance.candidateRevision = some candidate ∧
      db.adoptableTargetRevisions.get? provenance.adoptableRevision = some adoptable ∧
      candidate.candidateRevision = provenance.candidateRevision ∧
      adoptable.adoptableRevision = provenance.adoptableRevision ∧
      adoptable.candidateRevision = provenance.candidateRevision ∧
      adoptable.renderedOperatorTargetRevision = provenance.operatorTargetRevision := by
  obtain ⟨hhas, adoptable, hadoptable, hrendered⟩ := h
  obtain ⟨candidate, hcandidate⟩ :=
    Option.isSome_iff_exists.mp (CandidateDatabase.isSome_candidate hhas)
  obtain ⟨adoptable', hadoptable', hsame⟩ := db.adoptableOf _ provenance hhas
  obtain rfl : adoptable' = adoptable := Option.some.inj (hadoptable'.symm.trans hadoptable)
  exact ⟨candidate, adoptable', hcandidate, hadoptable, KeyedTable.key_of_get? hcandidate,
    KeyedTable.key_of_get? hadoptable, hsame, hrendered⟩

/-- There is one provenance for a revision. -/
theorem eq_of_has {other : CandidateAdoptionProvenanceRow} (h : db.Has (.provenance provenance))
    (hother : db.Has (.provenance other))
    (hsame : other.operatorTargetRevision = provenance.operatorTargetRevision) :
    other = provenance := by
  rw [CandidateDatabase.Has, hsame] at hother
  exact Option.some.inj (hother.symm.trans h)

/-- Adoptions are for good, and rows that are stored do not become adopted. -/
theorem Adopted.afterUpserts (h : Adopted db provenance) (upserts : List CandidateUpsert) :
    Adopted (db.afterUpserts upserts) provenance :=
  ⟨CandidateDatabase.has_afterUpserts h.1 upserts,
    (CandidateDatabase.inOrder_afterUpserts_iff h.1 upserts).mpr h.2⟩

/-- A start restores what was adopted. -/
theorem candidateRestoreStatusOf_adopted (h : Adopted db provenance) :
    candidateRestoreStatusOf db.toStrategyDatabase (some provenance.operatorTargetRevision) =
      .ok
        { latestCandidateRevision := some provenance.candidateRevision
          latestAdoptableRevision := some provenance.adoptableRevision
          latestCandidateOperatorTargetRevision := some provenance.operatorTargetRevision
          adoptionProvenanceResolved := true } := by
  obtain ⟨candidate, adoptable, hcandidate, hadoptable, hkey, hover, hsame, hrendered⟩ := h.chain
  have hget : db.getByOperatorTargetRevision provenance.operatorTargetRevision =
      .ok (some provenance) := by
    have hstored : db.candidateAdoptionProvenance.get? provenance.operatorTargetRevision =
      some provenance := h.1
    simp only [StrategyDatabase.getByOperatorTargetRevision, hstored]
    exact if_pos ((CandidateDatabase.targetLinked_iff h.1).mpr h.2)
  simp only [candidateRestoreStatusOf, hget, hcandidate, hadoptable]
  rw [if_neg (by simp [hsame, hrendered]), hkey, hover]

/-- The repository gives the provenance if it was adopted, fails if it is stored and was not, and
finds nothing otherwise. -/
theorem getByOperatorTargetRevision_cases (db : CandidateDatabase) (revision : String) :
    (∃ provenance, Adopted db provenance ∧ provenance.operatorTargetRevision = revision ∧
        db.getByOperatorTargetRevision revision = .ok (some provenance)) ∨
      (∃ provenance, db.Has (.provenance provenance) ∧ ¬ db.InOrder (.provenance provenance) ∧
        provenance.operatorTargetRevision = revision ∧
        db.getByOperatorTargetRevision revision = .error (.missingCandidateAdoptionLink revision)) ∨
      db.candidateAdoptionProvenance.get? revision = none ∧
        db.getByOperatorTargetRevision revision = .ok none := by
  rw [StrategyDatabase.getByOperatorTargetRevision]
  cases hfound : db.candidateAdoptionProvenance.get? revision with
  | none => exact .inr (.inr ⟨rfl, rfl⟩)
  | some provenance =>
      have hkey : provenance.operatorTargetRevision = revision := KeyedTable.key_of_get? hfound
      subst hkey
      have hlinked := CandidateDatabase.targetLinked_iff hfound
      by_cases horder : db.InOrder (.provenance provenance)
      · exact .inl ⟨provenance, ⟨hfound, horder⟩, rfl, if_pos (hlinked.mpr horder)⟩
      · exact .inr (.inl ⟨provenance, hfound, horder, rfl, if_neg fun h ↦ horder (hlinked.mp h)⟩)

/-- A summary of lists names the only provenance there is, if it leads from the only candidate over
the only adoptable revision. -/
theorem soleAdopted_eq_some_iff {candidate : CandidateTargetSetRow}
    {adoptables : List AdoptableTargetRevisionRow}
    {adoptions : List CandidateAdoptionProvenanceRow} {revision : String} :
    soleAdopted candidate (soleAdoptable candidate adoptables) adoptions = some revision ↔
      ∃ adoptable provenance, adoptables = [adoptable] ∧ adoptions = [provenance] ∧
        adoptable.candidateRevision = candidate.candidateRevision ∧
        provenance.candidateRevision = candidate.candidateRevision ∧
        provenance.adoptableRevision = adoptable.adoptableRevision ∧
        adoptable.renderedOperatorTargetRevision = provenance.operatorTargetRevision ∧
        provenance.operatorTargetRevision = revision := by
  match adoptables, adoptions with
  | [adoptable], [provenance] =>
      by_cases hcandidate : adoptable.candidateRevision = candidate.candidateRevision
      · simp [soleAdoptable, soleAdopted, hcandidate, and_assoc]
      · simp [soleAdoptable, soleAdopted, hcandidate]
  | [adoptable], [] => simp [soleAdopted]
  | [adoptable], _ :: _ :: _ => simp [soleAdopted]
  | [], _ => simp [soleAdoptable, soleAdopted]
  | _ :: _ :: _, _ => simp [soleAdoptable, soleAdopted]

theorem names_summarize_iff {candidates : List CandidateTargetSetRow}
    {adoptables : List AdoptableTargetRevisionRow}
    {adoptions : List CandidateAdoptionProvenanceRow} :
    (summarizeNegriskCandidateChain candidates adoptables adoptions).Names provenance ↔
      ∃ candidate adoptable, candidates = [candidate] ∧ adoptables = [adoptable] ∧
        adoptions = [provenance] ∧ adoptable.candidateRevision = candidate.candidateRevision ∧
        provenance.candidateRevision = candidate.candidateRevision ∧
        provenance.adoptableRevision = adoptable.adoptableRevision ∧
        adoptable.renderedOperatorTargetRevision = provenance.operatorTargetRevision := by
  match candidates with
  | [] => simp [NegRiskCandidateSummary.Names, summarizeNegriskCandidateChain]
  | _ :: _ :: _ => simp [NegRiskCandidateSummary.Names, summarizeNegriskCandidateChain]
  | [candidate] =>
      simp only [NegRiskCandidateSummary.Names, summarizeNegriskCandidateChain,
        soleAdopted_eq_some_iff]
      constructor
      · rintro ⟨⟨adoptable, adopted, rfl, rfl, hof, hfrom, hover, hrendered, hsame⟩, hadoptable,
          hcandidate⟩
        rw [soleAdoptable, if_pos hof, Option.map_some, Option.some.injEq, ← hover] at hadoptable
        rw [Option.some.injEq, ← hfrom] at hcandidate
        have hprovenance : adopted = provenance := by
          obtain ⟨revision, adoptableRevision, candidateRevision⟩ := provenance
          obtain ⟨revision', adoptableRevision', candidateRevision'⟩ := adopted
          simp only at hsame hadoptable hcandidate
          rw [hsame, hadoptable, hcandidate]
        subst hprovenance
        exact ⟨candidate, adoptable, rfl, rfl, rfl, hof, hfrom, hover, hrendered⟩
      · rintro ⟨candidate', adoptable, hsets, rfl, rfl, hof, hfrom, hover, hrendered⟩
        obtain rfl : candidate = candidate' := List.singleton_inj.mp hsets
        refine ⟨⟨adoptable, provenance, rfl, rfl, hof, hfrom, hover, hrendered, rfl⟩, ?_,
          congrArg some hfrom.symm⟩
        rw [soleAdoptable, if_pos hof, Option.map_some, hover]

theorem exists_names_summarize {candidates : List CandidateTargetSetRow}
    {adoptables : List AdoptableTargetRevisionRow}
    {adoptions : List CandidateAdoptionProvenanceRow}
    (h : (summarizeNegriskCandidateChain candidates adoptables
      adoptions).operatorTargetRevision.isSome) :
    ∃ provenance, (summarizeNegriskCandidateChain candidates adoptables adoptions).Names
      provenance := by
  obtain ⟨revision, hrevision⟩ := Option.isSome_iff_exists.mp h
  match candidates with
  | [] => simp [summarizeNegriskCandidateChain] at hrevision
  | _ :: _ :: _ => simp [summarizeNegriskCandidateChain] at hrevision
  | [candidate] =>
      obtain ⟨adoptable, adopted, rfl, rfl, hof, hfrom, hover, hrendered, -⟩ :=
        soleAdopted_eq_some_iff.mp hrevision
      exact ⟨adopted, names_summarize_iff.mpr
        ⟨candidate, adoptable, rfl, rfl, rfl, hof, hfrom, hover, hrendered⟩⟩

/-- Without a progress row the summary names what the tables have, if that is one row each. -/
theorem names_summarize_tables_iff :
    (summarizeNegriskCandidateChain db.candidateTargetSets.all db.adoptableTargetRevisions.all
        db.candidateAdoptionProvenance.all).Names provenance ↔
      (db.candidateTargetSets.all.length = 1 ∧ db.adoptableTargetRevisions.all.length = 1 ∧
        db.candidateAdoptionProvenance.all.length = 1) ∧ Adopted db provenance := by
  rw [names_summarize_iff]
  constructor
  · rintro ⟨candidate, adoptable, hsets, hadoptables, hadoptions, -, -, hover, hrendered⟩
    refine ⟨⟨?_, ?_, ?_⟩, ?_, adoptable, ?_, hrendered⟩
    · rw [hsets, List.length_singleton]
    · rw [hadoptables, List.length_singleton]
    · rw [hadoptions, List.length_singleton]
    · exact KeyedTable.mem_all_iff.mp (hadoptions ▸ List.mem_singleton_self provenance)
    · rw [hover]
      exact KeyedTable.mem_all_iff.mp (hadoptables ▸ List.mem_singleton_self adoptable)
  · rintro ⟨⟨hsets, hadoptables, hadoptions⟩, hadopted⟩
    obtain ⟨candidate, adoptable, hcandidate, hadoptable, hkey, hover, hsame, hrendered⟩ :=
      hadopted.chain
    obtain ⟨candidate', hsets⟩ := List.length_eq_one_iff.mp hsets
    obtain ⟨adoptable', hadoptables⟩ := List.length_eq_one_iff.mp hadoptables
    obtain ⟨provenance', hadoptions⟩ := List.length_eq_one_iff.mp hadoptions
    have hcandidate' : candidate = candidate' := List.mem_singleton.mp
      (hsets ▸ KeyedTable.mem_all_iff.mpr (hkey.symm ▸ hcandidate))
    have hadoptable' : adoptable = adoptable' := List.mem_singleton.mp
      (hadoptables ▸ KeyedTable.mem_all_iff.mpr (hover.symm ▸ hadoptable))
    have hprovenance' : provenance = provenance' := List.mem_singleton.mp
      (hadoptions ▸ KeyedTable.mem_all_iff.mpr hadopted.1)
    exact ⟨candidate, adoptable, hcandidate' ▸ hsets, hadoptable' ▸ hadoptables,
      hprovenance' ▸ hadoptions, hsame.trans hkey.symm, hkey.symm, hover.symm, hrendered⟩

/-- What is loaded for the revision of a progress row. -/
theorem load_of_progress (db : CandidateDatabase) {revision : String}
    (hprogress : progress.bind RuntimeProgressRow.operatorTargetRevision = some revision) :
    (∃ provenance, Adopted db provenance ∧ provenance.operatorTargetRevision = revision ∧
        loadNegriskCandidateSummary db progress =
          .ok
            { failClosedCandidateSummary db.candidateTargetSets.all db.adoptableTargetRevisions.all
                db.candidateAdoptionProvenance.all with
              latestCandidateRevision := some provenance.candidateRevision
              latestAdoptableRevision := some provenance.adoptableRevision
              operatorTargetRevision := some provenance.operatorTargetRevision }) ∨
      ((∀ provenance, Adopted db provenance → provenance.operatorTargetRevision ≠ revision) ∧
        loadNegriskCandidateSummary db progress =
          .ok (failClosedCandidateSummary db.candidateTargetSets.all db.adoptableTargetRevisions.all
            db.candidateAdoptionProvenance.all)) := by
  rcases getByOperatorTargetRevision_cases db revision with
    ⟨provenance, hadopted, hrevision, hget⟩ | ⟨provenance, hhas, hunordered, hrevision, hget⟩ |
      ⟨hnone, hget⟩
  · refine .inl ⟨provenance, hadopted, hrevision, ?_⟩
    obtain ⟨candidate, adoptable, hcandidate, hadoptable, hkey, hover, -, -⟩ := hadopted.chain
    simp only [loadNegriskCandidateSummary, hprogress, hget, hcandidate, hadoptable, hkey, hover,
      hrevision]
  · refine .inr ⟨fun other hadopted hsame ↦ hunordered ?_, ?_⟩
    · obtain rfl := eq_of_has hhas hadopted.1 (hsame.trans hrevision.symm)
      exact hadopted.2
    · simp only [loadNegriskCandidateSummary, hprogress, hget]
  · refine .inr ⟨fun other hadopted hsame ↦ ?_, ?_⟩
    · subst hsame
      cases hnone.symm.trans hadopted.1
    · simp only [loadNegriskCandidateSummary, hprogress, hget]

/-- A summary that is loaded counts the tables, names a provenance exactly if that was adopted and
is asked for, and names no revision without one. -/
theorem exists_load (db : CandidateDatabase) (progress : Option RuntimeProgressRow) :
    ∃ summary, loadNegriskCandidateSummary db progress = .ok summary ∧
      Summarizes db progress summary := by
  cases hprogress : progress.bind RuntimeProgressRow.operatorTargetRevision with
  | none =>
      refine ⟨_, by rw [loadNegriskCandidateSummary, hprogress], rfl, rfl, rfl,
        fun provenance ↦ ?_, fun hsome ↦ ?_⟩
      · rw [names_summarize_tables_iff, AsksFor, hprogress]
      · exact exists_names_summarize hsome
  | some revision =>
      rcases load_of_progress db hprogress with
        ⟨provenance, hadopted, hrevision, hload⟩ | ⟨hnone, hload⟩
      · refine ⟨_, hload, rfl, rfl, rfl, fun other ↦ ?_, fun _ ↦ ⟨provenance, rfl, rfl, rfl⟩⟩
        rw [AsksFor, hprogress]
        constructor
        · rintro ⟨hop, hover, hfrom⟩
          obtain rfl : provenance = other := by
            obtain ⟨_, _, _⟩ := provenance
            obtain ⟨_, _, _⟩ := other
            simp only [Option.some.injEq] at hop hover hfrom
            rw [hop, hover, hfrom]
          exact ⟨hrevision.symm, hadopted⟩
        · rintro ⟨hasked, hother⟩
          obtain rfl := eq_of_has hadopted.1 hother.1 (hasked.symm.trans hrevision.symm)
          exact ⟨rfl, rfl, rfl⟩
      · refine ⟨_, hload, rfl, rfl, rfl, fun other ↦ ?_, fun hsome ↦ nomatch hsome⟩
        rw [AsksFor, hprogress]
        constructor
        · rintro ⟨hop, -, -⟩
          cases hop
        · rintro ⟨hasked, hother⟩
          exact absurd hasked.symm (hnone other hother)

end

/-- **A named provenance is kept.**  The summary is always loaded and exact.  Later upserts leave
it with the provenance that it named, or, without a progress row, with none. -/
theorem candidateSummary_afterUpserts (db : CandidateDatabase)
    (progress : Option RuntimeProgressRow) (upserts : List CandidateUpsert) :
    ∃ summary later, loadNegriskCandidateSummary db progress = .ok summary ∧
      loadNegriskCandidateSummary (db.afterUpserts upserts) progress = .ok later ∧
      Summarizes db progress summary ∧ Summarizes (db.afterUpserts upserts) progress later ∧
      ∀ provenance, summary.Names provenance → later.Names provenance ∨
        progress.bind RuntimeProgressRow.operatorTargetRevision = none ∧
          later.operatorTargetRevision = none := by
  obtain ⟨summary, hload, hsummary⟩ := exists_load db progress
  obtain ⟨later, hlater, hafter⟩ := exists_load (db.afterUpserts upserts) progress
  refine ⟨summary, later, hload, hlater, hsummary, hafter, fun provenance hnames ↦ ?_⟩
  obtain ⟨hasked, hadopted⟩ := (hsummary.names provenance).mp hnames
  have hstill := hadopted.afterUpserts upserts
  rw [hafter.names]
  cases hprogress : progress.bind RuntimeProgressRow.operatorTargetRevision with
  | some revision =>
      refine .inl ⟨?_, hstill⟩
      rwa [AsksFor, hprogress] at hasked ⊢
  | none =>
      cases hop : later.operatorTargetRevision with
      | none => exact .inr ⟨rfl, rfl⟩
      | some revision =>
          -- the provenance that is named later is asked for as the only one, and so is this one
          obtain ⟨other, hother⟩ := hafter.named (Option.isSome_of_eq_some hop)
          have halone := ((hafter.names other).mp hother).1
          refine .inl ⟨?_, hstill⟩
          rwa [AsksFor, hprogress] at halone ⊢

/-- **The summary and the start.**  For the revision of the progress row a start restores what the
summary names.  It refuses exactly if the provenance of the revision is stored and was not adopted,
where the summary names nothing. -/
theorem candidateSummary_restored (db : CandidateDatabase) (row : RuntimeProgressRow)
    (revision : String) :
    ∃ summary, loadNegriskCandidateSummary db
        (some { row with operatorTargetRevision := some revision }) = .ok summary ∧
      (∀ status, candidateRestoreStatusOf db.toStrategyDatabase (some revision) = .ok status →
        status = summary.restored) ∧
      ((∃ error, candidateRestoreStatusOf db.toStrategyDatabase (some revision) = .error error) ↔
        ∃ provenance, db.Has (.provenance provenance) ∧
          provenance.operatorTargetRevision = revision ∧ ¬ db.InOrder (.provenance provenance)) ∧
      ((∃ error, candidateRestoreStatusOf db.toStrategyDatabase (some revision) = .error error) →
        summary.restored = .default) := by
  have hprogress : (some { row with operatorTargetRevision := some revision }).bind
      RuntimeProgressRow.operatorTargetRevision = some revision := rfl
  let failClosed := failClosedCandidateSummary db.candidateTargetSets.all
    db.adoptableTargetRevisions.all db.candidateAdoptionProvenance.all
  rcases getByOperatorTargetRevision_cases db revision with
    ⟨provenance, hadopted, rfl, -⟩ | ⟨provenance, hhas, hunordered, hrevision, hget⟩ | ⟨hnone, hget⟩
  · obtain ⟨summary, hload, hsummary⟩ := exists_load db
      (some { row with operatorTargetRevision := some provenance.operatorTargetRevision })
    obtain ⟨hrevision, hover, hfrom⟩ := (hsummary.names provenance).mpr ⟨rfl, hadopted⟩
    have hrestored := candidateRestoreStatusOf_adopted hadopted
    refine ⟨summary, hload, fun status hstatus ↦ ?_, ⟨?_, ?_⟩, ?_⟩
    · rw [hrestored, Except.ok.injEq] at hstatus
      rw [← hstatus, NegRiskCandidateSummary.restored, hrevision, hover, hfrom, Option.isSome_some]
    · rintro ⟨error, herror⟩
      cases hrestored.symm.trans herror
    · rintro ⟨other, hhas, hsame, hunordered⟩
      obtain rfl := eq_of_has hadopted.1 hhas hsame
      exact absurd hadopted.2 hunordered
    · rintro ⟨error, herror⟩
      cases hrestored.symm.trans herror
  · refine ⟨failClosed, by simp only [loadNegriskCandidateSummary, hprogress, hget, failClosed],
      fun status hstatus ↦ ?_, ?_, fun _ ↦ rfl⟩
    · simp only [candidateRestoreStatusOf, hget] at hstatus
      cases hstatus
    · exact iff_of_true ⟨(PersistenceError.missingCandidateAdoptionLink revision).toString,
        by simp only [candidateRestoreStatusOf, hget]⟩
        ⟨provenance, hhas, hrevision, hunordered⟩
  · refine ⟨failClosed, by simp only [loadNegriskCandidateSummary, hprogress, hget, failClosed],
      fun status hstatus ↦ ?_, iff_of_false ?_ ?_, fun _ ↦ rfl⟩
    · simp only [candidateRestoreStatusOf, hget, Except.ok.injEq] at hstatus
      exact hstatus.symm
    · rintro ⟨error, herror⟩
      simp only [candidateRestoreStatusOf, hget] at herror
      cases herror
    · rintro ⟨provenance, hhas, rfl, -⟩
      cases hnone.symm.trans hhas

end AxiomArb.AppReplay
