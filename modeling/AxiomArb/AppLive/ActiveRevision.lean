import AxiomArb.AppLive.MigrationCollisions
import AxiomArb.AppLive.TargetsCommands

/-!
# The active revision after a migration

A daemon that still runs a target revision is reported under the configured strategy
revision if this one is what the target revision was migrated to.  The commands recognise
only one of the two prefixes that the migration knows (`normalize_agrees_iff`).
-/

namespace AxiomArb.AppLive

open Library

variable {operatorTargetRevision operatorStrategyRevision configured : String}

theorem legacyTargetRevisionMatches_iff :
    legacyTargetRevisionMatchesStrategyRevision operatorStrategyRevision operatorTargetRevision ↔
      ∃ digest, operatorStrategyRevision = "strategy-rev-" ++ digest ∧
        operatorTargetRevision = "sha256:" ++ digest := by
  rw [legacyTargetRevisionMatchesStrategyRevision]
  cases hstrip : stripPrefix "strategy-rev-" operatorStrategyRevision with
  | none =>
      refine iff_of_false Bool.false_ne_true ?_
      rintro ⟨digest, rfl, -⟩
      rw [stripPrefix_eq_some_iff.mpr rfl] at hstrip
      cases hstrip
  | some digest =>
      obtain rfl := stripPrefix_eq_some_iff.mp hstrip
      rw [beq_iff_eq]
      constructor
      · rintro rfl
        exact ⟨digest, rfl, rfl⟩
      · rintro ⟨digest', heq, rfl⟩
        rw [(String.append_right_inj _).mp heq]

/-- The configured revision is returned if it is the active one, or stands for it. -/
theorem normalize_eq_configured_iff :
    normalizeActiveOperatorStrategyRevision (some configured) (some operatorTargetRevision) none =
        some configured ↔
      configured = operatorTargetRevision ∨
        legacyTargetRevisionMatchesStrategyRevision configured operatorTargetRevision := by
  have hnormalize : normalizeActiveOperatorStrategyRevision (some configured)
        (some operatorTargetRevision) none =
      some (((some configured).filter fun configured ↦ configured == operatorTargetRevision ||
        legacyTargetRevisionMatchesStrategyRevision configured operatorTargetRevision).getD
          operatorTargetRevision) := rfl
  rw [hnormalize, Option.some_inj]
  cases hsame : configured == operatorTargetRevision ||
      legacyTargetRevisionMatchesStrategyRevision configured operatorTargetRevision with
  | false =>
      rw [Option.filter_some, hsame]
      rw [Bool.or_eq_false_iff, beq_eq_false_iff_ne] at hsame
      simp [hsame.1, hsame.2, hsame.1.symm]
  | true =>
      rw [Option.filter_some, hsame]
      rw [Bool.or_eq_true, beq_iff_eq] at hsame
      simp [hsame]

/-- A target revision that migration accepts has one of two prefixes. -/
theorem legacyPrefix_cases
    (h : canonicalStrategyRevisionFromLegacyTargetRevision operatorTargetRevision =
      .ok operatorStrategyRevision) :
    ∃ suffix, operatorStrategyRevision = "strategy-rev-" ++ suffix ∧
      (operatorTargetRevision = "targets-rev-" ++ suffix ∨
        operatorTargetRevision = "sha256:" ++ suffix) := by
  obtain ⟨suffix, hsuffix, rfl⟩ := canonicalStrategyRevision_eq_ok.mp h
  refine ⟨suffix, rfl, ?_⟩
  rw [legacySuffix, Option.mem_def, Option.orElse_eq_some] at hsuffix
  rcases hsuffix with htargets | ⟨-, hdigest⟩
  · exact .inl (stripPrefix_eq_some_iff.mp htargets)
  · exact .inr (stripPrefix_eq_some_iff.mp hdigest)

/-- No revision but these two is ever taken for the active one. -/
theorem normalize_ne_configured
    (h : canonicalStrategyRevisionFromLegacyTargetRevision operatorTargetRevision =
      .ok operatorStrategyRevision)
    (hstrategy : configured ≠ operatorStrategyRevision) (htarget : configured ≠ operatorTargetRevision) :
    normalizeActiveOperatorStrategyRevision (some configured) (some operatorTargetRevision) none ≠
      some configured := by
  rw [ne_eq, normalize_eq_configured_iff, legacyTargetRevisionMatches_iff]
  rintro (hsame | ⟨digest, rfl, rfl⟩)
  · exact htarget hsame
  · obtain ⟨suffix, rfl, hlegacy | hlegacy⟩ := legacyPrefix_cases h
    · have hchars := congrArg String.toList hlegacy
      rw [String.toList_append, String.toList_append] at hchars
      cases hchars
    · rw [(String.append_right_inj _).mp hlegacy] at hstrategy
      exact hstrategy rfl

/-- **The active revision agrees with the migration** for target revisions that are digests,
and for no other: what was migrated from `targets-rev-` is not recognised.  A revision that is
neither the old one nor the one migrated to is never returned. -/
theorem normalize_agrees_iff
    (h : canonicalStrategyRevisionFromLegacyTargetRevision operatorTargetRevision =
      .ok operatorStrategyRevision) :
    (normalizeActiveOperatorStrategyRevision (some operatorStrategyRevision)
          (some operatorTargetRevision) none = some operatorStrategyRevision ∧
        ∀ configured, configured ≠ operatorStrategyRevision → configured ≠ operatorTargetRevision →
          normalizeActiveOperatorStrategyRevision (some configured) (some operatorTargetRevision)
            none ≠ some configured) ↔
      stripPrefix "targets-rev-" operatorTargetRevision = none := by
  rw [normalize_eq_configured_iff, legacyTargetRevisionMatches_iff]
  constructor
  · rintro ⟨hsame, -⟩
    rw [Option.eq_none_iff_forall_ne_some]
    rintro suffix hstrip
    obtain rfl := stripPrefix_eq_some_iff.mp hstrip
    obtain ⟨suffix', rfl, -⟩ := legacyPrefix_cases h
    rcases hsame with hsame | ⟨digest, -, hdigest⟩
    · have hchars := congrArg String.toList hsame
      rw [String.toList_append, String.toList_append] at hchars
      cases hchars
    · have hchars := congrArg String.toList hdigest
      rw [String.toList_append, String.toList_append] at hchars
      cases hchars
  · intro hstrip
    refine ⟨?_, fun configured ↦ normalize_ne_configured h⟩
    obtain ⟨suffix, rfl, rfl | rfl⟩ := legacyPrefix_cases h
    · rw [stripPrefix_eq_some_iff.mpr rfl] at hstrip
      cases hstrip
    · exact .inr ⟨suffix, rfl, rfl⟩

theorem normalize_agrees_digest :
    normalizeActiveOperatorStrategyRevision (some "strategy-rev-deadbeef") (some "sha256:deadbeef")
        none = some "strategy-rev-deadbeef" :=
  ((normalize_agrees_iff (by decide)).mpr (by decide)).1

/-- What was migrated from a numbered target revision is reported under its old name. -/
theorem normalize_misses_targets_rev :
    canonicalStrategyRevisionFromLegacyTargetRevision "targets-rev-1" = .ok "strategy-rev-1" ∧
      normalizeActiveOperatorStrategyRevision (some "strategy-rev-1") (some "targets-rev-1") none =
        some "targets-rev-1" := by
  decide

end AxiomArb.AppLive
