import AxiomArb.AppLive.RevisionIdentity

/-!
# When a notice is adopted

A notice is adopted as a whole or not at all: one record that is blank or not backfilled, or
a hard gate, keeps every target of it from being adopted, and what is left is an advisory
candidate row.  The counts of a report cover the records of a notice that touches the
candidates; a notice that does not is passed over with its records.
-/

namespace AxiomArb.AppLive

open Domain Library Persistence State

/-! ## Validation -/

theorem validationForRecord_eq_adoptable_iff {record : FamilyDiscoveryRecord} {authoritative : Bool} :
    validationForRecord record authoritative = .adoptable ↔
      (trim record.familyId).isEmpty = false ∧
        (authoritative = false → record.backfillCompletedAt.isSome) := by
  rw [validationForRecord]
  cases authoritative <;> cases record.backfillCompletedAt <;>
    cases (trim record.familyId).isEmpty <;> simp

theorem restrict_eq_adoptable_iff {restriction : CandidateRestrictionTruth}
    {validation : CandidateValidationResult} :
    restriction.restrict validation = .adoptable ↔
      restriction.hardGateReason = none ∧ validation = .adoptable := by
  rw [CandidateRestrictionTruth.restrict]
  cases restriction.hardGateReason with
  | none => simp
  | some reason => cases validation <;> simp [gatedValidation]

/-- Every target is counted once. -/
theorem ValidationSummary.sum_fromTargets (targets : List CandidateTarget) :
    (fromTargets targets).adoptableCount + (fromTargets targets).deferredCount +
      (fromTargets targets).excludedCount = targets.length := by
  rw [fromTargets, foldl_count]
  induction targets with
  | nil => rfl
  | cons target targets ih =>
      simp only [Nat.zero_add] at ih ⊢
      rw [List.countP_cons, List.countP_cons, List.countP_cons, List.length_cons]
      cases target.validation <;> simp <;> omega

namespace CandidateNotice

variable (notice : CandidateNotice)

/-- Candidates are touched, records are listed, each of them is named and, unless the notice
is authoritative, backfilled, and no hard gate is set. -/
structure Adopts : Prop where
  dirty : .candidates ∈ notice.dirtyDomains
  listed : ∃ view, notice.publication.view = some view ∧ view.discoveryRecords ≠ []
  complete : ∀ record ∈ notice.discoveryRecords, (trim record.familyId).isEmpty = false ∧
    (notice.authoritative = false → record.backfillCompletedAt.isSome)
  ungated : notice.restriction.hardGateReason = none

variable {notice} {sha256 : String → String} {outcome : DiscoveryOutcome}

theorem discoveryRecords_ne_nil_iff :
    notice.discoveryRecords ≠ [] ↔
      ∃ view, notice.publication.view = some view ∧ view.discoveryRecords ≠ [] := by
  rw [discoveryRecords]
  cases notice.publication.view <;> simp

/-- Each target is adoptable if each record is complete and no hard gate is set. -/
theorem adopts_iff : notice.Adopts ↔ .candidates ∈ notice.dirtyDomains ∧ notice.Adoptable := by
  have htargets : notice.targets ≠ [] ↔ notice.discoveryRecords ≠ [] := by
    rw [targets, Ne, List.map_eq_nil_iff]
  rw [Adoptable, ValidationSummary.aggregateDisposition_eq_adoptable_iff, htargets]
  constructor
  · intro h
    refine ⟨h.dirty, discoveryRecords_ne_nil_iff.mpr h.listed, fun target htarget ↦ ?_⟩
    obtain ⟨record, hrecord, rfl⟩ := List.mem_map.mp htarget
    exact restrict_eq_adoptable_iff.mpr
      ⟨h.ungated, validationForRecord_eq_adoptable_iff.mpr (h.complete record hrecord)⟩
  · rintro ⟨hdirty, hrecords, hall⟩
    have hrecord : ∀ record ∈ notice.discoveryRecords, notice.restriction.hardGateReason = none ∧
        validationForRecord record notice.authoritative = .adoptable := fun record hrecord ↦
      restrict_eq_adoptable_iff.mp (hall _ (List.mem_map_of_mem hrecord))
    obtain ⟨first, hfirst⟩ := List.exists_mem_of_ne_nil _ hrecords
    exact
      { dirty := hdirty
        listed := discoveryRecords_ne_nil_iff.mp hrecords
        complete := fun record hmem ↦
          validationForRecord_eq_adoptable_iff.mp (hrecord record hmem).2
        ungated := (hrecord first hfirst).1 }

/-! ## Outcomes -/

/-- A notice fails exactly if it touches the candidates and lists no record. -/
theorem processNotice_eq_error_iff (sha256 : String → String) :
    (∃ error, DiscoverySupervisor.processNotice sha256 notice = .error error) ↔
      .candidates ∈ notice.dirtyDomains ∧ notice.discoveryRecords = [] := by
  constructor
  · rintro ⟨error, herror⟩
    have hrecords : notice.discoveryRecords = [] := by
      by_contra hrecords
      obtain ⟨outcome, hok⟩ := exists_processNotice_eq_ok sha256 hrecords
      rw [hok] at herror
      cases herror
    refine ⟨by_contra fun hclean ↦ ?_, hrecords⟩
    simp [DiscoverySupervisor.processNotice, hclean, pure, Except.pure] at herror
  · rintro ⟨hdirty, hrecords⟩
    cases hview : notice.publication.view with
    | none =>
        refine ⟨"candidate publication is not ready", ?_⟩
        simp [DiscoverySupervisor.processNotice, hdirty, bind, Except.bind,
          CandidateValidationEngine.candidateSetFromPublication, hview]
    | some view =>
        have hempty : view.discoveryRecords = [] := by simpa [discoveryRecords, hview] using hrecords
        refine ⟨"candidate publication has no discovery records", ?_⟩
        simp [DiscoverySupervisor.processNotice, hdirty, bind, Except.bind,
          CandidateValidationEngine.candidateSetFromPublication, hview, hempty]

/-- A notice that does not touch the candidates is passed over. -/
theorem processNotice_of_clean (hclean : .candidates ∉ notice.dirtyDomains) :
    DiscoverySupervisor.processNotice sha256 notice =
      .ok (DiscoverySupervisor.ignored notice.operatorTargetRevision) := by
  simp [DiscoverySupervisor.processNotice, hclean, pure, Except.pure]

/-- No provenance row is rendered. -/
theorem processNotice_provenance (h : DiscoverySupervisor.processNotice sha256 notice = .ok outcome) :
    outcome.provenance = none := by
  by_cases hdirty : .candidates ∈ notice.dirtyDomains
  · simp only [DiscoverySupervisor.processNotice, hdirty, List.contains_eq_mem, decide_true,
      Bool.not_true, Bool.false_eq_true, if_false, pure, Except.pure] at h
    obtain ⟨set, -, h⟩ := bind_eq_ok.mp h
    split at h
    · rw [← Except.ok.inj h]
    · obtain ⟨rendered, -, h⟩ := bind_eq_ok.mp h
      rw [← Except.ok.inj h]
  · rw [processNotice_of_clean hdirty] at h
    rw [← Except.ok.inj h]
    rfl

variable (sha256 notice) in
/-- An adoptable row is produced for an adopted notice alone; what else is produced is
advisory, and the targets of every report are counted once each. -/
structure FailClosed : Prop where
  adopts : (∃ outcome, DiscoverySupervisor.processNotice sha256 notice = .ok outcome ∧
    outcome.adoptable.isSome) ↔ notice.Adopts
  fails : (∃ error, DiscoverySupervisor.processNotice sha256 notice = .error error) ↔
    .candidates ∈ notice.dirtyDomains ∧ notice.discoveryRecords = []
  advisory : ∀ outcome, DiscoverySupervisor.processNotice sha256 notice = .ok outcome →
    ¬ notice.Adopts → outcome.adoptable = none ∧ outcome.provenance = none ∧
      (outcome.candidate.isSome ↔ .candidates ∈ notice.dirtyDomains)
  counts : ∀ outcome, DiscoverySupervisor.processNotice sha256 notice = .ok outcome →
    outcome.report.adoptableTargetCount + outcome.report.deferredTargetCount +
      outcome.report.excludedTargetCount =
        if .candidates ∈ notice.dirtyDomains then notice.discoveryRecords.length else 0

/-- **Adoption is fail-closed.** -/
theorem failClosed (sha256 : String → String) (notice : CandidateNotice) :
    notice.FailClosed sha256 := by
  constructor
  case adopts =>
    rw [adopts_iff]
    constructor
    · rintro ⟨outcome, h, hsome⟩
      rcases processNotice_eq_ok h with ⟨-, -, hnone⟩ | ⟨hdirty, set, hset⟩
      · rw [hnone] at hsome
        cases hsome
      · refine ⟨hdirty, by_contra fun hdeferred ↦ ?_⟩
        rw [hset.adoptable, if_neg hdeferred] at hsome
        cases hsome
    · rintro ⟨hdirty, hall⟩
      have hrecords : notice.discoveryRecords ≠ [] := discoveryRecords_ne_nil_iff.mpr
        (adopts_iff.mpr ⟨hdirty, hall⟩).listed
      obtain ⟨outcome, h⟩ := exists_processNotice_eq_ok sha256 hrecords
      obtain ⟨set, hset⟩ := (renders_of_processNotice hdirty h).1
      refine ⟨outcome, h, ?_⟩
      rw [hset.adoptable, if_pos hall]
      rfl
  case fails => exact processNotice_eq_error_iff sha256
  case advisory =>
    intro outcome h hadopts
    rw [adopts_iff] at hadopts
    rcases processNotice_eq_ok h with ⟨hclean, hnone, hadoptable⟩ | ⟨hdirty, set, hset⟩
    · refine ⟨hadoptable, processNotice_provenance h, ?_⟩
      simp [hnone, hclean]
    · have hdeferred : ¬ notice.Adoptable := fun hall ↦ hadopts ⟨hdirty, hall⟩
      refine ⟨?_, processNotice_provenance h, ?_⟩
      · rw [hset.adoptable, if_neg hdeferred]
      · simp [hset.candidate, hdirty]
  case counts =>
    intro outcome h
    by_cases hdirty : .candidates ∈ notice.dirtyDomains
    · have hcounts := (renders_of_processNotice hdirty h).2
      rw [if_pos hdirty, hcounts.adoptable, hcounts.deferred, hcounts.excluded,
        ValidationSummary.sum_fromTargets, targets, List.length_map]
    · rw [processNotice_of_clean hdirty] at h
      rw [if_neg hdirty, ← Except.ok.inj h]
      rfl

/-- A notice that is passed over reports no target for the record it lists. -/
theorem passed_over_counts_none :
    ¬ ∀ (sha256 : String → String) (notice : CandidateNotice) outcome,
      DiscoverySupervisor.processNotice sha256 notice = .ok outcome →
        outcome.report.adoptableTargetCount + outcome.report.deferredTargetCount +
          outcome.report.excludedTargetCount = notice.discoveryRecords.length := by
  intro h
  let passedOver : CandidateNotice :=
    { sampleNotice "snapshot-1" ["family-a"] with dirtyDomains := [] }
  have hclean : .candidates ∉ passedOver.dirtyDomains := List.not_mem_nil
  exact absurd (h id passedOver _ (processNotice_of_clean hclean)) (by decide)

end CandidateNotice

end AxiomArb.AppLive
