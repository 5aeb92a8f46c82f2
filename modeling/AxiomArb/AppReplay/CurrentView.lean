import AxiomArb.AppReplay.NegRiskSummary

/-!
# The current view, measured and replayed

The current view of the families is counted twice.  The metrics count the rows of the families
that the last snapshot lists; the summary counts, of those, the rows that were seen at the
revision of the snapshot.  The two agree in a state when no row of a listed family was seen at
another revision, and a run stays in such states exactly when no call brings one in: neither
the write of a row nor a snapshot that lists a family again.
-/

namespace AxiomArb.AppReplay

open Domain Library Persistence
open VenuePolymarket (eqIgnoreAsciiCase)

/-! ## The two views -/

/-- The counts of the metrics, as a summary has them. -/
def NegRiskFoundationSummary.currentViewCounts (summary : NegRiskFoundationSummary) :
    CurrentViewCounts :=
  { includedCount := summary.validatedFamilyCount - summary.excludedFamilyCount
    excludedCount := summary.excludedFamilyCount
    haltCount := summary.haltedFamilyCount }

/-- The summary has the counts that are recorded; without a snapshot there are none. -/
def SameCurrentView (database : FamilyDatabase) : Prop :=
  (recordAuthoritativeNegRiskCurrentViewMetrics database = .ok none ∧
      loadNegRiskFoundationSummary database = .error .missingDiscoverySnapshot) ∨
    ∃ summary, loadNegRiskFoundationSummary database = .ok summary ∧
      recordAuthoritativeNegRiskCurrentViewMetrics database = .ok (some summary.currentViewCounts)

/-- A validation is included or excluded, and the revision of a snapshot is a 64-bit number. -/
def Admitted (call : FamilyCall) : Prop :=
  match call.op with
  | .upsertValidation row => row.validationStatus = "included" ∨ row.validationStatus = "excluded"
  | .persistDiscoverySnapshot snapshot =>
      -9223372036854775808 ≤ snapshot.discoveryRevision ∧
        snapshot.discoveryRevision < 9223372036854775808
  | _ => True

/-! ## Fresh rows -/

/-- What is read of a snapshot. -/
def discoveryOf (snapshot : NegRiskDiscoverySnapshotInput) : LatestDiscoverySnapshot :=
  { discoveredFamilyCount := snapshot.familyIds.length
    latestDiscoveryRevision := snapshot.discoveryRevision
    latestMetadataSnapshotHash := some snapshot.metadataSnapshotHash
    familyIds := snapshot.familyIds }

def FreshValidation (discovery : LatestDiscoverySnapshot) (row : NegRiskFamilyValidationRow) : Prop :=
  row.eventFamilyId ∈ discovery.familyIds →
    row.lastSeenDiscoveryRevision = discovery.latestDiscoveryRevision

def FreshHalt (discovery : LatestDiscoverySnapshot) (row : FamilyHaltRow) : Prop :=
  row.halted → row.eventFamilyId ∈ discovery.familyIds →
    row.lastSeenDiscoveryRevision = discovery.latestDiscoveryRevision

/-- The rows that count for a snapshot were seen at its revision. -/
structure Fresh (discovery : LatestDiscoverySnapshot) (database : FamilyDatabase) : Prop where
  validations : ∀ row ∈ database.validations.all, FreshValidation discovery row
  halts : ∀ row ∈ database.halts.all, FreshHalt discovery row

/-- A call that commits brings in no row of another revision than that of the last snapshot. -/
def KeepsFresh (times : TimeFormat) (database : FamilyDatabase) (call : FamilyCall) : Prop :=
  Commits times database call →
    match call.op with
    | .upsertValidation row => ∀ discovery, latestDiscoverySnapshot database = .ok (some discovery) →
        FreshValidation discovery row
    | .upsertHalt row => ∀ discovery, latestDiscoverySnapshot database = .ok (some discovery) →
        FreshHalt discovery row
    | .persistDiscoverySnapshot snapshot => Fresh (discoveryOf snapshot) database
    | .reconcileCurrentFamilyView _ => True

/-! ## Readable databases -/

/-- What was written is read again: the last snapshot, and the families of the entries. -/
structure Readable (times : TimeFormat) (database : FamilyDatabase) : Prop where
  snapshot : ∀ payload, database.latestSnapshotPayload = some payload →
    ∃ snapshot, payload = snapshotPayload times snapshot ∧
      -9223372036854775808 ≤ snapshot.discoveryRevision ∧
        snapshot.discoveryRevision < 9223372036854775808
  statuses : ∀ row ∈ database.validations.all,
    row.validationStatus = "included" ∨ row.validationStatus = "excluded"
  validationEntries : AboutFamilies (validationTable times) database
  haltEntries : AboutFamilies (haltTable times) database

section Readable

variable {times : TimeFormat} {database : FamilyDatabase} {call : FamilyCall}

theorem readable_empty : Readable times .empty where
  snapshot := by
    rintro payload ⟨⟩
  statuses := by
    rintro row ⟨⟩
  validationEntries := by
    rintro entry ⟨⟩
  haltEntries := by
    rintro entry ⟨⟩

theorem Readable.step (h : Readable times database) (hcall : Admitted call) :
    Readable times (familyStep times database call) where
  snapshot := by
    intro payload hpayload
    rw [latestSnapshotPayload_familyStep, Option.or_eq_some_iff] at hpayload
    rcases hpayload with hpersisted | ⟨-, hbefore⟩
    · obtain ⟨snapshot, hsnapshot, rfl⟩ := Option.map_eq_some_iff.mp hpersisted
      rw [Admitted, (snapshotPersisted_eq_some_iff.mp hsnapshot).1] at hcall
      exact ⟨snapshot, rfl, hcall⟩
    · exact h.snapshot payload hbefore
  statuses := by
    refine ((does_validations times database call).forall_rows_iff (fun _ ↦ Iff.rfl) h.statuses).mpr ?_
    intro row hrow
    unfold validationWritten at hrow
    split at hrow
    · rename_i given hop
      split at hrow
      · obtain rfl := Option.some.inj hrow
        rwa [Admitted, hop] at hcall
      · cases hrow
    · cases hrow
  validationEntries := (does_validations times database call).aboutFamilies h.validationEntries
  haltEntries := (does_halts times database call).aboutFamilies h.haltEntries

theorem exists_notePath {paths : MemberVectorPaths} {entry : JournalEntryRow}
    (h : ((entry.payload.get? "event_family_id").bind Json.asStr).isSome) :
    ∃ paths', notePath paths entry = .ok paths' := by
  obtain ⟨familyId, hfamily⟩ := Option.isSome_iff_exists.mp h
  have hread : requiredStr entry.payload "event_family_id" = .ok familyId :=
    required_eq_ok_iff.mpr hfamily
  simp only [notePath, hread]
  by_cases hvalidation : entry.eventType = "family_validation"
  · exact ⟨_, if_pos hvalidation⟩
  by_cases hhalt : entry.eventType = "family_halt"
  · exact ⟨_, (if_neg hvalidation).trans (if_pos hhalt)⟩
  · exact ⟨_, (if_neg hvalidation).trans (if_neg hhalt)⟩

/-- Every entry that is read is about a family, so that all paths are found. -/
theorem Readable.exists_paths (h : Readable times database) :
    ∃ paths, latestMemberVectorPaths database = .ok paths := by
  refine exists_foldlM_of_forall (fun entry hentry _ ↦ exists_notePath ?_) _
  obtain ⟨hmem, htype⟩ := List.mem_filter.mp (List.mem_reverse.mp hentry)
  simp only [List.mem_cons, List.not_mem_nil, or_false, decide_eq_true_eq] at htype
  rcases htype with htype | htype
  · exact h.validationEntries entry hmem htype
  · exact h.haltEntries entry hmem htype

end Readable

/-! ## Agreement is freshness -/

section Agreement

variable {times : TimeFormat} {database : FamilyDatabase} {snapshot : NegRiskDiscoverySnapshotInput}

/-- Of two selections, one within the other, the counts are equal if they select the same. -/
theorem countP_and_eq_iff {α : Type} {P Q : α → Prop} [DecidablePred P] [DecidablePred Q]
    {items : List α} :
    items.countP (fun item ↦ P item ∧ Q item) = items.countP (fun item ↦ P item) ↔
      ∀ item ∈ items, P item → Q item := by
  have hwithin : items.countP (fun item ↦ P item ∧ Q item) =
      (items.filter fun item ↦ P item).countP fun item ↦ Q item := by
    rw [List.countP_filter]
    refine List.countP_congr fun item _ ↦ ?_
    simp only [decide_eq_true_eq, Bool.and_eq_true]
    exact and_comm
  rw [hwithin, List.countP_eq_length_filter (p := fun item ↦ decide (P item)), List.countP_eq_length]
  simp only [List.mem_filter, decide_eq_true_eq, and_imp]

theorem families_latestDiscoverySnapshot
    (h : database.latestSnapshotPayload = some (snapshotPayload times snapshot))
    (hrevision : -9223372036854775808 ≤ snapshot.discoveryRevision ∧
      snapshot.discoveryRevision < 9223372036854775808) :
    Persistence.latestDiscoverySnapshot database = .ok (some snapshot.familyIds) := by
  obtain ⟨hrevisionField, hfamilyIds, -⟩ := get?_snapshotPayload times snapshot
  have hread : (integer snapshot.discoveryRevision).asI64 = some snapshot.discoveryRevision :=
    Json.asI64_number hrevision
  simp only [Persistence.latestDiscoverySnapshot, h, hrevisionField, hfamilyIds, Option.bind_some, hread]
  refine bind_eq_ok.mpr ⟨snapshot.familyIds, ?_, rfl⟩
  rw [mapM_eq_ok_iff, List.map_map]
  rfl

theorem eqIgnoreAsciiCase_excluded {status : String} (h : status = "included" ∨ status = "excluded") :
    eqIgnoreAsciiCase status "excluded" = decide (status = "excluded") := by
  rcases h with rfl | rfl
  · decide +kernel
  · decide +kernel

/-- Of rows that are included or excluded, those that do not count as excluded are included. -/
theorem counts_of_statuses {rows : List NegRiskFamilyValidationRow}
    (h : ∀ row ∈ rows, row.validationStatus = "included" ∨ row.validationStatus = "excluded") :
    rows.countP (fun row ↦ eqIgnoreAsciiCase row.validationStatus "excluded") =
        rows.countP (fun row ↦ row.validationStatus = "excluded") ∧
      rows.length - rows.countP (fun row ↦ eqIgnoreAsciiCase row.validationStatus "excluded") =
        rows.countP fun row ↦ row.validationStatus = "included" := by
  have hexcluded : rows.countP (fun row ↦ eqIgnoreAsciiCase row.validationStatus "excluded") =
      rows.countP fun row ↦ row.validationStatus = "excluded" :=
    List.countP_congr fun row hrow ↦ by rw [eqIgnoreAsciiCase_excluded (h row hrow)]
  refine ⟨hexcluded, ?_⟩
  rw [hexcluded, List.length_eq_countP_add_countP fun row ↦ decide (row.validationStatus = "excluded"),
    Nat.add_sub_cancel_left]
  refine List.countP_congr fun row hrow ↦ ?_
  rcases h row hrow with hstatus | hstatus
  · simp [hstatus]
  · simp [hstatus]

/-- What the summary counts for a snapshot. -/
def replayedCounts (familyIds : List String) (discoveryRevision : Int) (database : FamilyDatabase) :
    CurrentViewCounts :=
  { includedCount := database.validations.all.countP fun row ↦
      (row.eventFamilyId ∈ familyIds ∧ row.validationStatus = "included") ∧
        row.lastSeenDiscoveryRevision = discoveryRevision
    excludedCount := database.validations.all.countP fun row ↦
      (row.eventFamilyId ∈ familyIds ∧ row.validationStatus = "excluded") ∧
        row.lastSeenDiscoveryRevision = discoveryRevision
    haltCount := database.halts.all.countP fun row ↦
      (row.eventFamilyId ∈ familyIds ∧ row.halted) ∧
        row.lastSeenDiscoveryRevision = discoveryRevision }

theorem load_currentViewCounts (hreadable : Readable times database)
    (h : database.latestSnapshotPayload = some (snapshotPayload times snapshot))
    (hrevision : -9223372036854775808 ≤ snapshot.discoveryRevision ∧
      snapshot.discoveryRevision < 9223372036854775808) :
    ∃ summary, loadNegRiskFoundationSummary database = .ok summary ∧
      summary.currentViewCounts =
        replayedCounts snapshot.familyIds snapshot.discoveryRevision database := by
  obtain ⟨paths, hpaths⟩ := hreadable.exists_paths
  unfold loadNegRiskFoundationSummary
  rw [latestDiscoverySnapshot_eq_ok h hrevision]
  simp only [bind, Except.bind, hpaths]
  refine ⟨_, rfl, ?_⟩
  have hstatuses : ∀ row ∈ database.validations.all.filter fun row ↦
      row.eventFamilyId ∈ snapshot.familyIds ∧
        row.lastSeenDiscoveryRevision = snapshot.discoveryRevision,
      row.validationStatus = "included" ∨ row.validationStatus = "excluded" :=
    fun row hrow ↦ hreadable.statuses row (List.mem_filter.mp hrow).1
  obtain ⟨hexcluded, hincluded⟩ := counts_of_statuses hstatuses
  unfold NegRiskFoundationSummary.currentViewCounts replayedCounts
  rw [CurrentViewCounts.mk.injEq]
  have hhalted : (database.halts.all.filter fun row ↦
      row.eventFamilyId ∈ snapshot.familyIds ∧
        row.lastSeenDiscoveryRevision = snapshot.discoveryRevision).countP (fun row ↦ row.halted) = _ :=
    List.countP_filter
  refine ⟨hincluded.trans ?_, hexcluded.trans ?_, hhalted.trans ?_⟩
  · rw [List.countP_filter]
    refine List.countP_congr fun row _ ↦ ?_
    simp only [Bool.and_eq_true, decide_eq_true_eq]
    tauto
  · rw [List.countP_filter]
    refine List.countP_congr fun row _ ↦ ?_
    simp only [Bool.and_eq_true, decide_eq_true_eq]
    tauto
  · refine List.countP_congr fun row _ ↦ ?_
    simp only [Bool.and_eq_true, decide_eq_true_eq]
    tauto

/-- The rows of listed families are counted alike if they were all seen at the revision. -/
theorem counts_eq_iff_fresh
    (hstatuses : ∀ row ∈ database.validations.all,
      row.validationStatus = "included" ∨ row.validationStatus = "excluded") :
    replayedCounts snapshot.familyIds snapshot.discoveryRevision database =
        { includedCount := countAuthoritativeValidationRows database snapshot.familyIds "included"
          excludedCount := countAuthoritativeValidationRows database snapshot.familyIds "excluded"
          haltCount := countAuthoritativeHaltRows database snapshot.familyIds } ↔
      Fresh (discoveryOf snapshot) database := by
  unfold replayedCounts countAuthoritativeValidationRows countAuthoritativeHaltRows
  rw [CurrentViewCounts.mk.injEq, countP_and_eq_iff, countP_and_eq_iff, countP_and_eq_iff]
  constructor
  · rintro ⟨hincluded, hexcluded, hhalted⟩
    constructor
    · intro row hrow hlisted
      rcases hstatuses row hrow with hstatus | hstatus
      · exact hincluded row hrow ⟨hlisted, hstatus⟩
      · exact hexcluded row hrow ⟨hlisted, hstatus⟩
    · intro row hrow hhalt hlisted
      exact hhalted row hrow ⟨hlisted, hhalt⟩
  · intro hfresh
    exact ⟨fun row hrow h ↦ hfresh.validations row hrow h.1,
      fun row hrow h ↦ hfresh.validations row hrow h.1,
      fun row hrow h ↦ hfresh.halts row hrow h.2 h.1⟩

/-- Without a snapshot there is nothing to agree on. -/
theorem sameCurrentView_of_none (h : database.latestSnapshotPayload = none) :
    SameCurrentView database := by
  refine .inl ⟨?_, ?_⟩
  · simp only [recordAuthoritativeNegRiskCurrentViewMetrics, Persistence.latestDiscoverySnapshot, h]
    rfl
  · simp only [loadNegRiskFoundationSummary, latestDiscoverySnapshot, h]
    rfl

/-- With a snapshot the views agree if its rows are fresh. -/
theorem sameCurrentView_iff_fresh (hreadable : Readable times database)
    (h : database.latestSnapshotPayload = some (snapshotPayload times snapshot))
    (hrevision : -9223372036854775808 ≤ snapshot.discoveryRevision ∧
      snapshot.discoveryRevision < 9223372036854775808) :
    SameCurrentView database ↔ Fresh (discoveryOf snapshot) database := by
  obtain ⟨summary, hsummary, hcounts⟩ := load_currentViewCounts hreadable h hrevision
  have hrecord : recordAuthoritativeNegRiskCurrentViewMetrics database = .ok (some
      { includedCount := countAuthoritativeValidationRows database snapshot.familyIds "included"
        excludedCount := countAuthoritativeValidationRows database snapshot.familyIds "excluded"
        haltCount := countAuthoritativeHaltRows database snapshot.familyIds }) := by
    unfold recordAuthoritativeNegRiskCurrentViewMetrics
    rw [families_latestDiscoverySnapshot h hrevision]
    rfl
  rw [← counts_eq_iff_fresh hreadable.statuses, ← hcounts]
  constructor
  · rintro (⟨hnone, -⟩ | ⟨summary', hsummary', hsame⟩)
    · rw [hrecord] at hnone
      cases hnone
    · obtain rfl : summary = summary' := Except.ok.inj (hsummary.symm.trans hsummary')
      exact (Option.some.inj (Except.ok.inj (hrecord.symm.trans hsame))).symm
  · intro hsame
    exact .inr ⟨summary, hsummary, hsame ▸ hrecord⟩

end Agreement

/-! ## Runs -/

section Runs

variable {times : TimeFormat} {database : FamilyDatabase} {call : FamilyCall}

/-- A step leaves the rows fresh if those that it writes are. -/
theorem fresh_step_iff {discovery : LatestDiscoverySnapshot} (hfresh : Fresh discovery database) :
    Fresh discovery (familyStep times database call) ↔
      (∀ row, validationWritten times database call = some row → FreshValidation discovery row) ∧
        ∀ row, haltWritten times database call = some row → FreshHalt discovery row := by
  rw [← (does_validations times database call).forall_rows_iff (fun _ ↦ Iff.rfl) hfresh.validations,
    ← (does_halts times database call).forall_rows_iff (fun _ ↦ Iff.rfl) hfresh.halts]
  exact ⟨fun h ↦ ⟨h.validations, h.halts⟩, fun h ↦ ⟨h.1, h.2⟩⟩

/-- A row that is there already is as fresh as the row that is there. -/
theorem of_isNoop {ρ : Type} {familyId : ρ → String} {table : FamilyTable familyId} {row : ρ} {P : ρ → Prop}
    (hnoop : table.IsNoop row database) (h : ∀ row ∈ (table.rows database).all, P row)
    (hsame : ∀ existing, table.same existing row → P existing → P row) : P row := by
  unfold FamilyTable.IsNoop at hnoop
  cases hexisting : (table.rows database).get? (familyId row) with
  | none =>
      rw [hexisting] at hnoop
      cases hnoop
  | some existing =>
      rw [hexisting] at hnoop
      refine hsame existing hnoop (h existing (KeyedTable.mem_all_iff.mpr ?_))
      rw [KeyedTable.key_of_get? hexisting, hexisting]

/-- What holds of the row that a call writes holds of the row that it is given, if it holds of
a row that is there already. -/
theorem forall_written_iff {ρ : Type} {row : ρ} {P : ρ → Prop} {Commit Noop : Prop} [Decidable Commit]
    [Decidable Noop] (hnoop : Noop → P row) :
    (∀ written, (if Commit ∧ ¬Noop then some row else none) = some written → P written) ↔
      (Commit → P row) := by
  constructor
  · intro h hcommit
    by_cases hsame : Noop
    · exact hnoop hsame
    · exact h row (if_pos ⟨hcommit, hsame⟩)
  · intro h written hwritten
    split at hwritten
    · rename_i hboth
      obtain rfl := Option.some.inj hwritten
      exact h hboth.1
    · cases hwritten

/-- Under the last snapshot, a call that persists none keeps the rows fresh if it brings in no
row of another revision. -/
theorem fresh_step_iff_keepsFresh {discovery : LatestDiscoverySnapshot}
    (hlatest : latestDiscoverySnapshot database = .ok (some discovery)) (hfresh : Fresh discovery database)
    (hpersisted : snapshotPersisted times database call = none) :
    Fresh discovery (familyStep times database call) ↔ KeepsFresh times database call := by
  have hlast : ∀ {P : LatestDiscoverySnapshot → Prop},
      (∀ last, latestDiscoverySnapshot database = .ok (some last) → P last) ↔ P discovery := by
    intro P
    rw [hlatest]
    exact ⟨fun h ↦ h discovery rfl, fun h last heq ↦ Option.some.inj (Except.ok.inj heq) ▸ h⟩
  rw [fresh_step_iff hfresh]
  unfold KeepsFresh validationWritten haltWritten
  cases hop : call.op with
  | upsertValidation row =>
      dsimp only
      rw [hlast, forall_written_iff]
      · exact and_iff_left (by rintro row ⟨⟩)
      · intro hnoop
        refine of_isNoop hnoop hfresh.validations fun existing hsame hrow hlisted ↦ ?_
        simp only [validationTable, sameValidationState, decide_eq_true_eq] at hsame
        rw [← hsame.2.2.2.2.1]
        exact hrow (hsame.1 ▸ hlisted)
  | upsertHalt row =>
      dsimp only
      rw [hlast, forall_written_iff]
      · exact and_iff_right (by rintro row ⟨⟩)
      · intro hnoop
        refine of_isNoop hnoop hfresh.halts fun existing hsame hrow hhalted hlisted ↦ ?_
        simp only [haltTable, sameHaltState, decide_eq_true_eq] at hsame
        rw [← hsame.2.2.2.2.2.1]
        exact hrow (hsame.2.1 ▸ hhalted) (hsame.1 ▸ hlisted)
  | persistDiscoverySnapshot snapshot =>
      refine iff_of_true ⟨?_, ?_⟩ fun hcommits ↦ ?_
      · rintro row ⟨⟩
      · rintro row ⟨⟩
      · cases hpersisted.symm.trans (snapshotPersisted_eq_some_iff.mpr ⟨hop, hcommits⟩)
  | reconcileCurrentFamilyView discoveryRevision =>
      refine iff_of_true ⟨?_, ?_⟩ fun _ ↦ trivial
      · rintro row ⟨⟩
      · rintro row ⟨⟩

/-- A snapshot is persisted beside the rows. -/
theorem fresh_of_persisted {snapshot : NegRiskDiscoverySnapshotInput}
    (hpersisted : snapshotPersisted times database call = some snapshot) :
    Fresh (discoveryOf snapshot) (familyStep times database call) ↔ KeepsFresh times database call := by
  obtain ⟨hop, hcommits⟩ := snapshotPersisted_eq_some_iff.mp hpersisted
  have hexec := familyStep_of_commits hcommits
  rw [hop] at hexec
  obtain ⟨⟨added, _⟩, happend, hstep⟩ := map_eq_ok.mp hexec
  obtain ⟨-, -, -, hvalidations, hhalts⟩ := appendJournalEntry_eq_ok happend
  unfold KeepsFresh
  rw [hop, ← hstep]
  constructor
  · rintro hfresh -
    exact ⟨hvalidations ▸ hfresh.validations, hhalts ▸ hfresh.halts⟩
  · intro hkeeps
    exact ⟨hvalidations ▸ (hkeeps hcommits).validations, hhalts ▸ (hkeeps hcommits).halts⟩

/-- A step from a state where the views agree keeps them so if it brings in no row of another
revision. -/
theorem sameCurrentView_step_iff (hreadable : Readable times database)
    (hsame : SameCurrentView database) (hcall : Admitted call) :
    SameCurrentView (familyStep times database call) ↔ KeepsFresh times database call := by
  have hreadable' := hreadable.step hcall
  have hlatest' := latestSnapshotPayload_familyStep times database call
  cases hpersisted : snapshotPersisted times database call with
  | some snapshot =>
      rw [hpersisted] at hlatest'
      rw [Admitted, (snapshotPersisted_eq_some_iff.mp hpersisted).1] at hcall
      rw [sameCurrentView_iff_fresh hreadable' hlatest' hcall]
      exact fresh_of_persisted hpersisted
  | none =>
      rw [hpersisted, Option.map_none, Option.none_or] at hlatest'
      cases hlatest : database.latestSnapshotPayload with
      | none =>
          refine iff_of_true (sameCurrentView_of_none (hlatest'.trans hlatest)) fun hcommits ↦ ?_
          have hnone : latestDiscoverySnapshot database = .ok none := by
            rw [latestDiscoverySnapshot, hlatest]
          cases hop : call.op with
          | upsertValidation row =>
              intro discovery hdiscovery
              cases hnone.symm.trans hdiscovery
          | upsertHalt row =>
              intro discovery hdiscovery
              cases hnone.symm.trans hdiscovery
          | persistDiscoverySnapshot snapshot =>
              cases hpersisted.symm.trans (snapshotPersisted_eq_some_iff.mpr ⟨hop, hcommits⟩)
          | reconcileCurrentFamilyView discoveryRevision => trivial
      | some payload =>
          obtain ⟨snapshot, rfl, hrevision⟩ := hreadable.snapshot payload hlatest
          rw [hlatest] at hlatest'
          rw [sameCurrentView_iff_fresh hreadable' hlatest' hrevision]
          exact fresh_step_iff_keepsFresh (latestDiscoverySnapshot_eq_ok hlatest hrevision)
            ((sameCurrentView_iff_fresh hreadable hlatest hrevision).mp hsame) hpersisted

/-- **The two views agree as long as rows are fresh.**  From an empty database on, the metrics
and the summary agree in every state of a run exactly when no call of it brings in a row of
another revision: the write of a row of a listed family, or a snapshot that lists the family of
an older row again. -/
theorem always_sameCurrentView_iff (times : TimeFormat) (calls : List FamilyCall)
    (hcalls : ∀ call ∈ calls, Admitted call) :
    Always (familyStep times) SameCurrentView .empty calls ↔
      Steps (familyStep times) (KeepsFresh times) .empty calls :=
  always_iff_steps (J := Readable times) (K := fun _ ↦ Admitted) (fun _ _ h hcall ↦ h.step hcall)
    (fun _ _ hreadable hsame hcall ↦ sameCurrentView_step_iff hreadable hsame hcall)
    readable_empty (sameCurrentView_of_none rfl) (steps_of_forall_mem hcalls)

end Runs

section Sample

def sampleFamilyHalt : FamilyHaltRow :=
  { eventFamilyId := "family-1"
    halted := true
    reason := some "placeholder"
    blocksNewRisk := true
    metadataSnapshotHash := some "hash-1"
    lastSeenDiscoveryRevision := 7
    setAt := 1
    updatedAt := 1
    memberVector := []
    sourceKind := "test"
    sourceSessionId := "session-1"
    sourceEventId := "halt-1"
    eventTs := 1 }

/-- A family is validated and halted at the revision of its snapshot. -/
def freshCalls : List FamilyCall :=
  [⟨.persistDiscoverySnapshot sampleSnapshot, 1, 0, false⟩,
    ⟨.upsertValidation (sampleValidation "included" "event-1" "token-1"), 2, 0, false⟩,
    ⟨.upsertHalt sampleFamilyHalt, 3, 0, false⟩]

theorem admitted_freshCalls : ∀ call ∈ freshCalls, Admitted call := by
  simp [freshCalls, Admitted, sampleSnapshot, sampleValidation]

theorem always_sameCurrentView_freshCalls :
    Always (familyStep sampleTimes) SameCurrentView .empty freshCalls ↔
      Steps (familyStep sampleTimes) (KeepsFresh sampleTimes) .empty freshCalls :=
  always_sameCurrentView_iff sampleTimes freshCalls admitted_freshCalls

/-- The next snapshot lists the family again. -/
def rediscoveredCalls : List FamilyCall :=
  freshCalls ++
    [⟨.persistDiscoverySnapshot
      { sampleSnapshot with discoveryRevision := 8, dedupeKey := "snapshot-2" }, 4, 0, false⟩]

/-- The family is counted by the metrics, and not by the summary. -/
theorem rediscovered_differs :
    (∀ call ∈ rediscoveredCalls, Admitted call) ∧
      recordAuthoritativeNegRiskCurrentViewMetrics (run (familyStep sampleTimes) .empty rediscoveredCalls) =
        .ok (some ⟨1, 0, 1⟩) ∧
      (loadNegRiskFoundationSummary (run (familyStep sampleTimes) .empty rediscoveredCalls)).map
        NegRiskFoundationSummary.currentViewCounts = .ok ⟨0, 0, 0⟩ ∧
      ¬Always (familyStep sampleTimes) SameCurrentView .empty rediscoveredCalls := by
  have hmetrics : recordAuthoritativeNegRiskCurrentViewMetrics
      (run (familyStep sampleTimes) .empty rediscoveredCalls) = .ok (some ⟨1, 0, 1⟩) := by
    decide +kernel
  have hsummary : (loadNegRiskFoundationSummary
      (run (familyStep sampleTimes) .empty rediscoveredCalls)).map
        NegRiskFoundationSummary.currentViewCounts = .ok ⟨0, 0, 0⟩ := by
    decide +kernel
  refine ⟨?_, hmetrics, hsummary, fun halways ↦ ?_⟩
  · simp [rediscoveredCalls, freshCalls, Admitted, sampleSnapshot, sampleValidation]
  · rcases halways.last with ⟨hnone, -⟩ | ⟨summary, hload, hsame⟩
    · rw [hmetrics] at hnone
      cases hnone
    · rw [hload] at hsummary
      rw [hmetrics] at hsame
      have hcounts : summary.currentViewCounts = ⟨0, 0, 0⟩ := Except.ok.inj hsummary
      rw [hcounts] at hsame
      cases hsame

end Sample

end AxiomArb.AppReplay
