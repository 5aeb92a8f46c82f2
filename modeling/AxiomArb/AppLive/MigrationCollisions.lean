import AxiomArb.AppLive.StrategyMigration

/-!
# Migrations side by side

The names of a migrated lineage are made of what a target revision is after its prefix, less
every strategy prefix that stands there.  Two revisions of which the same is left share names
(`namesApart_iff`); otherwise the one migration is not seen by the other
(`migrations_apart_iff`).

## Honest boundary

* A database is taken to hold what its foreign keys ask for, and a neutral row for each older
  provenance of a canonical revision, as older rows were copied when the neutral tables were
  made.
-/

namespace AxiomArb.AppLive

open Library Persistence

/-! ## Names -/

/-- What follows the prefix of a target revision. -/
def legacySuffix (operatorTargetRevision : String) : Option String :=
  stripPrefix "targets-rev-" operatorTargetRevision <|>
    stripPrefix "sha256:" operatorTargetRevision

/-- What the names of a lineage are made of. -/
def legacyBody (operatorTargetRevision : String) : Option String :=
  (legacySuffix operatorTargetRevision).map (trimStartMatches "strategy-rev-")

/-- The derived names are different. -/
def NamesApart (operatorStrategyRevision operatorStrategyRevision' : String) : Prop :=
  operatorStrategyRevision ≠ operatorStrategyRevision' ∧
    syntheticAdoptableRevision operatorStrategyRevision ≠
      syntheticAdoptableRevision operatorStrategyRevision' ∧
    syntheticStrategyCandidateRevision operatorStrategyRevision ≠
      syntheticStrategyCandidateRevision operatorStrategyRevision'

section Names

variable {marker text operatorTargetRevision operatorTargetRevision' operatorStrategyRevision
  operatorStrategyRevision' : String}

/-- Nothing is left on, and so nothing more comes off an empty text. -/
theorem trimStartMatchesFrom_empty (hmarker : marker ≠ "") (n : Nat) :
    trimStartMatchesFrom marker n "" = "" := by
  cases n with
  | zero => rfl
  | succ n =>
      rw [trimStartMatchesFrom]
      cases hstrip : stripPrefix marker "" with
      | none => rfl
      | some rest =>
          have happend := congrArg String.length (stripPrefix_eq_some_iff.mp hstrip)
          rw [String.length_append, String.length_empty] at happend
          exact absurd (String.length_eq_zero_iff.mp (by omega)) hmarker

/-- Trying more often than the text is long changes nothing. -/
theorem trimStartMatchesFrom_congr (hmarker : marker ≠ "") {n m : Nat} (hn : text.length ≤ n)
    (hm : text.length ≤ m) :
    trimStartMatchesFrom marker n text = trimStartMatchesFrom marker m text := by
  induction n generalizing m text with
  | zero =>
      obtain rfl := String.length_eq_zero_iff.mp (Nat.le_zero.mp hn)
      rw [trimStartMatchesFrom_empty hmarker, trimStartMatchesFrom_empty hmarker]
  | succ n ih =>
      cases m with
      | zero =>
          obtain rfl := String.length_eq_zero_iff.mp (Nat.le_zero.mp hm)
          rw [trimStartMatchesFrom_empty hmarker, trimStartMatchesFrom_empty hmarker]
      | succ m =>
          rw [trimStartMatchesFrom, trimStartMatchesFrom]
          cases hstrip : stripPrefix marker text with
          | none => rfl
          | some rest =>
              have hlength := congrArg String.length (stripPrefix_eq_some_iff.mp hstrip)
              rw [String.length_append] at hlength
              have hpos : marker.length ≠ 0 := fun hzero ↦
                hmarker (String.length_eq_zero_iff.mp hzero)
              exact ih (by omega) (by omega)

theorem trimStartMatches_append (hmarker : marker ≠ "") :
    trimStartMatches marker (marker ++ text) = trimStartMatches marker text := by
  have hpos : marker.length ≠ 0 := fun hzero ↦ hmarker (String.length_eq_zero_iff.mp hzero)
  have hstrip : stripPrefix marker (marker ++ text) = some text := stripPrefix_eq_some_iff.mpr rfl
  obtain ⟨n, hn⟩ : ∃ n, (marker ++ text).length = n + 1 := by
    refine ⟨(marker ++ text).length - 1, ?_⟩
    rw [String.length_append]
    omega
  rw [trimStartMatches, hn, trimStartMatchesFrom, hstrip]
  rw [String.length_append] at hn
  exact trimStartMatchesFrom_congr hmarker (by omega) le_rfl

theorem canonicalStrategyRevision_eq_ok :
    canonicalStrategyRevisionFromLegacyTargetRevision operatorTargetRevision =
        .ok operatorStrategyRevision ↔
      ∃ suffix ∈ legacySuffix operatorTargetRevision,
        operatorStrategyRevision = "strategy-rev-" ++ suffix := by
  rw [canonicalStrategyRevisionFromLegacyTargetRevision, legacySuffix]
  cases stripPrefix "targets-rev-" operatorTargetRevision with
  | some suffix => simp [eq_comm, toString]
  | none =>
      cases stripPrefix "sha256:" operatorTargetRevision with
      | some suffix => simp [eq_comm, toString]
      | none => simp

theorem trimStartMatches_canonical
    (h : canonicalStrategyRevisionFromLegacyTargetRevision operatorTargetRevision =
      .ok operatorStrategyRevision) :
    legacyBody operatorTargetRevision =
      some (trimStartMatches "strategy-rev-" operatorStrategyRevision) := by
  obtain ⟨suffix, hsuffix, rfl⟩ := canonicalStrategyRevision_eq_ok.mp h
  rw [legacyBody, Option.mem_def.mp hsuffix, Option.map_some, trimStartMatches_append (by decide)]

/-- The names are different exactly if what they are made of is. -/
theorem namesApart_iff
    (h : canonicalStrategyRevisionFromLegacyTargetRevision operatorTargetRevision =
      .ok operatorStrategyRevision)
    (h' : canonicalStrategyRevisionFromLegacyTargetRevision operatorTargetRevision' =
      .ok operatorStrategyRevision') :
    NamesApart operatorStrategyRevision operatorStrategyRevision' ↔
      legacyBody operatorTargetRevision ≠ legacyBody operatorTargetRevision' := by
  have hadoptable : ∀ revision revision', syntheticAdoptableRevision revision =
      syntheticAdoptableRevision revision' ↔
        trimStartMatches "strategy-rev-" revision = trimStartMatches "strategy-rev-" revision' :=
    fun revision revision' ↦ String.append_right_inj _
  have hcandidate : ∀ revision revision', syntheticStrategyCandidateRevision revision =
      syntheticStrategyCandidateRevision revision' ↔
        trimStartMatches "strategy-rev-" revision = trimStartMatches "strategy-rev-" revision' :=
    fun revision revision' ↦ String.append_right_inj _
  rw [NamesApart, trimStartMatches_canonical h, trimStartMatches_canonical h', ne_eq, ne_eq, ne_eq,
    hadoptable, hcandidate, ne_eq, Option.some_inj]
  refine ⟨fun hapart ↦ hapart.2.1, fun hbody ↦ ⟨?_, hbody, hbody⟩⟩
  intro heq
  exact hbody (congrArg _ heq)

end Names

/-! ## What one migration adds -/

/-- What the schema asks of the rows. -/
structure Consistent (database : StrategyDatabase) : Prop where
  candidate : ∀ key row, database.adoptableStrategyRevisions.get? key = some row →
    (database.strategyCandidateSets.get? row.strategyCandidateRevision).isSome
  adoptable : ∀ key row, database.strategyAdoptionProvenance.get? key = some row →
    ∃ adoptable ∈ database.adoptableStrategyRevisions.get? row.adoptableStrategyRevision,
      adoptable.strategyCandidateRevision = row.strategyCandidateRevision
  copied : ∀ suffix, database.strategyAdoptionProvenance.get? ("strategy-rev-" ++ suffix) = none →
    database.candidateAdoptionProvenance.get? ("strategy-rev-" ++ suffix) = none

section Consistent

variable {env : MigrationEnv} {database database' : StrategyDatabase} {key : String}
  {row lineage : StrategyAdoptionProvenanceRow}
  {operatorTargetRevision operatorStrategyRevision : String}
  {legacy : Option CandidateAdoptionProvenanceRow}

/-- The adoptable revision and the candidate of a provenance are there. -/
theorem Consistent.stored (h : Consistent database)
    (hrow : database.strategyAdoptionProvenance.get? key = some row) :
    (∃ adoptable, database.adoptableStrategyRevisions.get? row.adoptableStrategyRevision =
        some adoptable) ∧
      ∃ candidate, database.strategyCandidateSets.get? row.strategyCandidateRevision =
        some candidate := by
  obtain ⟨adoptable, hadoptable, hmatches⟩ := h.adoptable key row hrow
  have hcandidate := h.candidate _ adoptable hadoptable
  rw [hmatches] at hcandidate
  exact ⟨⟨adoptable, hadoptable⟩, Option.isSome_iff_exists.mp hcandidate⟩

/-- More rows do not change what a provenance is joined to. -/
theorem Consistent.adoptable_eq (h : Consistent database) (hext : database.Extends database')
    (hrow : database.strategyAdoptionProvenance.get? key = some row) :
    database'.adoptableStrategyRevisions.get? row.adoptableStrategyRevision =
      database.adoptableStrategyRevisions.get? row.adoptableStrategyRevision := by
  obtain ⟨⟨adoptable, hadoptable⟩, -⟩ := h.stored hrow
  rw [hadoptable, hext.adoptableStrategyRevisions _ _ hadoptable]

theorem Consistent.candidate_eq (h : Consistent database) (hext : database.Extends database')
    (hrow : database.strategyAdoptionProvenance.get? key = some row) :
    database'.strategyCandidateSets.get? row.strategyCandidateRevision =
      database.strategyCandidateSets.get? row.strategyCandidateRevision := by
  obtain ⟨-, candidate, hcandidate⟩ := h.stored hrow
  rw [hcandidate, hext.strategyCandidateSets _ _ hcandidate]

theorem linked_congr {row : StrategyAdoptionProvenanceRow}
    (hadoptable : database'.adoptableStrategyRevisions.get? row.adoptableStrategyRevision =
      database.adoptableStrategyRevisions.get? row.adoptableStrategyRevision)
    (hcandidate : database'.strategyCandidateSets.get? row.strategyCandidateRevision =
      database.strategyCandidateSets.get? row.strategyCandidateRevision) :
    database'.Linked row ↔ database.Linked row := by
  rw [StrategyDatabase.Linked, StrategyDatabase.Linked, StrategyDatabase.JoinsAdoptable,
    StrategyDatabase.JoinsAdoptable, hadoptable, hcandidate]

/-- Provenance that is the same is read alike, if it is linked alike. -/
theorem getByOperatorStrategyRevision_congr
    (holder : database'.candidateAdoptionProvenance = database.candidateAdoptionProvenance)
    (htarget : ∀ row, database'.TargetLinked row ↔ database.TargetLinked row)
    (hsame : database'.strategyAdoptionProvenance.get? operatorStrategyRevision =
      database.strategyAdoptionProvenance.get? operatorStrategyRevision)
    (hlinked : ∀ row, database.strategyAdoptionProvenance.get? operatorStrategyRevision = some row →
      (database'.Linked row ↔ database.Linked row)) :
    database'.getByOperatorStrategyRevision operatorStrategyRevision =
      database.getByOperatorStrategyRevision operatorStrategyRevision := by
  rw [StrategyDatabase.getByOperatorStrategyRevision,
    StrategyDatabase.getByOperatorStrategyRevision, hsame, holder]
  cases hrow : database.strategyAdoptionProvenance.get? operatorStrategyRevision with
  | some row => simp only [hlinked row hrow]
  | none => simp only [htarget]

/-- A lineage is a provenance that is there, or it is made up for the derived revision. -/
theorem Consistent.lineage_cases (h : Consistent database)
    (hlineage : migrationLineage env database operatorTargetRevision = .ok (legacy, lineage)) :
    database.strategyAdoptionProvenance.get? lineage.operatorStrategyRevision = some lineage ∨
      canonicalStrategyRevisionFromLegacyTargetRevision operatorTargetRevision =
          .ok lineage.operatorStrategyRevision ∧
        database.strategyAdoptionProvenance.get? lineage.operatorStrategyRevision = none ∧
        lineage = syntheticLineage lineage.operatorStrategyRevision := by
  obtain ⟨derivedRevision, marker, derived, hrevision, hmarker, hfound, hderived, hmissing,
    hselected⟩ := migrationLineage_eq_ok.mp hlineage
  cases marker with
  | some marker =>
      have hmarked := eq_marker_of_selected hselected
      exact .inl (hmarked ▸ (marker_eq_some hmarker).1)
  | none =>
      rw [derivedLineage] at hderived
      split at hderived
      · rw [persistenceError_eq_ok] at hderived
        cases derived with
        | some derived =>
            cases hselected
            obtain ⟨hkey, ⟨hrow, -⟩ | ⟨hnone, holder⟩⟩ :=
              StrategyDatabase.getByOperatorStrategyRevision_eq_some hderived
            · exact .inl (hkey ▸ hrow)
            · obtain ⟨suffix, -, rfl⟩ := canonicalStrategyRevision_eq_ok.mp hrevision
              exact absurd (h.copied suffix hnone) holder
        | none =>
            cases hselected
            exact .inr ⟨hrevision,
              (StrategyDatabase.getByOperatorStrategyRevision_eq_none.mp hderived).1, rfl⟩
      · rename_i hlegacy
        exact absurd ⟨Option.not_isSome_iff_eq_none.mp hlegacy, rfl⟩ hmissing

end Consistent

/-- The rows of the second database are those of the first, and some of the lineage. -/
structure Adds (env : MigrationEnv) (operatorTargetRevision : String)
    (lineage : StrategyAdoptionProvenanceRow) (database database' : StrategyDatabase) : Prop where
  extends_ : database.Extends database'
  candidate : ∀ key, key ≠ lineage.strategyCandidateRevision →
    database'.strategyCandidateSets.get? key = database.strategyCandidateSets.get? key
  adoptable : ∀ key, key ≠ lineage.adoptableStrategyRevision →
    database'.adoptableStrategyRevisions.get? key = database.adoptableStrategyRevisions.get? key
  provenance : ∀ key, key ≠ lineage.operatorStrategyRevision →
    database'.strategyAdoptionProvenance.get? key = database.strategyAdoptionProvenance.get? key
  marked : ∀ row, database'.strategyAdoptionProvenance.get? lineage.operatorStrategyRevision =
      some row →
    database.strategyAdoptionProvenance.get? lineage.operatorStrategyRevision = some row ∨
      ∀ revision, Marked env database' revision row → revision = operatorTargetRevision

section Adds

variable {env : MigrationEnv} {database database' : StrategyDatabase}
  {operatorTargetRevision : String} {lineage : StrategyAdoptionProvenanceRow}
  {legacy : Option CandidateAdoptionProvenanceRow} {provenance : CandidateAdoptionProvenanceRow}
  {candidate : StrategyCandidateSetRow} {adoptable : AdoptableStrategyRevisionRow}
  {plane : ControlPlane}

theorem adds_refl : Adds env operatorTargetRevision lineage database database :=
  { extends_ := refl_of _ _
    candidate := fun _ _ ↦ rfl
    adoptable := fun _ _ ↦ rfl
    provenance := fun _ _ ↦ rfl
    marked := fun _ h ↦ .inl h }

/-- The copies carry the names of the lineage. -/
theorem adds_copies (h : ArtifactsOf lineage candidate adoptable) :
    Adds env operatorTargetRevision lineage database (database.write (.candidateSet candidate)) ∧
      Adds env operatorTargetRevision lineage database
        ((database.write (.candidateSet candidate)).write (.adoptableRevision adoptable)) := by
  have hcandidate : ∀ key, key ≠ lineage.strategyCandidateRevision →
      (database.strategyCandidateSets.insertNew candidate).get? key =
        database.strategyCandidateSets.get? key := by
    intro key hkey
    exact KeyedTable.get?_insertNew_of_ne fun heq ↦ hkey (heq.symm.trans h.candidateKey)
  have hadoptable : ∀ key, key ≠ lineage.adoptableStrategyRevision →
      (database.adoptableStrategyRevisions.insertNew adoptable).get? key =
        database.adoptableStrategyRevisions.get? key := by
    intro key hkey
    exact KeyedTable.get?_insertNew_of_ne fun heq ↦ hkey (heq.symm.trans h.adoptableKey)
  exact
    ⟨{ extends_ := StrategyDatabase.extends_write _ _
       candidate := hcandidate
       adoptable := fun _ _ ↦ rfl
       provenance := fun _ _ ↦ rfl
       marked := fun _ h ↦ .inl h },
     { extends_ := trans_of _ (StrategyDatabase.extends_write _ _)
        (StrategyDatabase.extends_write _ _)
       candidate := hcandidate
       adoptable := hadoptable
       provenance := fun _ _ ↦ rfl
       marked := fun _ h ↦ .inl h }⟩

/-- A copy that is marked is marked with the target revision it was made for. -/
theorem eq_of_marked (hartifacts : migratedArtifacts database operatorTargetRevision provenance
      lineage = .ok (candidate, adoptable))
    (hstored : database'.Stored (.adoptableRevision adoptable)) {revision : String}
    (h : Marked env database' revision lineage) : revision = operatorTargetRevision := by
  obtain ⟨stored, hget, -, hmark⟩ := h
  have hkey := (artifactsOf_migrated hartifacts).adoptableKey
  rw [StrategyDatabase.stored_adoptableRevision, hkey] at hstored
  obtain rfl : adoptable = stored := Option.some.inj (hstored.symm.trans hget)
  have hpayload : ∃ payload : Json, adoptable.payload =
      (payload.insert "legacy_operator_target_revision" (.string operatorTargetRevision)).insert
        "adoptable_strategy_revision" (.string lineage.adoptableStrategyRevision) := by
    rw [migratedArtifacts] at hartifacts
    split at hartifacts
    · cases hartifacts
    · split at hartifacts
      · cases hartifacts
      · cases hartifacts
        exact ⟨_, rfl⟩
  obtain ⟨payload, hpayload⟩ := hpayload
  have hinserted : ∀ inserted : Json, inserted = payload.insert "legacy_operator_target_revision"
      (.string operatorTargetRevision) →
        inserted.get? "legacy_operator_target_revision" = some (.string operatorTargetRevision) ∨
          inserted.get? "legacy_operator_target_revision" = none := by
    rintro _ rfl
    exact Json.get?_insert_self payload
  rw [jsonbField, hpayload, Json.get?_insert_of_ne _ (by decide)] at hmark
  rcases hinserted _ rfl with hfound | hnone
  · rw [hfound] at hmark
    exact (Option.some.inj hmark).symm
  · rw [hnone] at hmark
    cases hmark

/-- A row is inserted even if it turns out not to be the one that is stored. -/
theorem exec_materialize_store {write : StrategyWrite} {subject canonical : String}
    {store : StrategyStore} :
    (exec (StrategyStore.materialize write subject canonical) store).2 = store.insert write := by
  simp only [StrategyStore.materialize, exec_bind, exec_modify, exec_get]
  cases (store.insert write).database.stored? write with
  | none => rfl
  | some stored =>
      by_cases hsame : stored = write
      · simp [hsame]
      · simp [hsame]

theorem exec_onStore_store {ε : Type} {rename : ε → StrategyControlMigrationError}
    {command : Command ε StrategyStore Unit} {outcome : Except StrategyControlMigrationError Unit}
    {plane' : ControlPlane} (h : exec (onStore rename command) plane = (outcome, plane')) :
    plane'.store = (exec command plane.store).2 ∧
      (outcome = .ok () → (exec command plane.store).1 = .ok ()) := by
  rw [onStore, exec_focus] at h
  generalize exec command plane.store = run at h ⊢
  obtain ⟨result, store⟩ := run
  cases result with
  | error error =>
      cases h
      exact ⟨rfl, fun hok ↦ by cases hok⟩
  | ok value =>
      cases h
      exact ⟨rfl, fun _ ↦ rfl⟩

/-- Provenance that is upserted is there already, or is new. -/
theorem exec_upsertProvenance_store (lineage : StrategyAdoptionProvenanceRow)
    (store : StrategyStore) :
    (exec (StrategyStore.upsertProvenance lineage) store).2 = store ∨
      store.database.getByOperatorStrategyRevision lineage.operatorStrategyRevision = .ok none ∧
        (exec (StrategyStore.upsertProvenance lineage) store).2 =
          store.insert (.provenance lineage) := by
  simp only [StrategyStore.upsertProvenance, exec_bind, exec_get, exec_lift]
  cases store.database.getByOperatorStrategyRevision lineage.operatorStrategyRevision with
  | error error => exact .inl rfl
  | ok existing =>
      cases existing with
      | none => exact .inr ⟨rfl, rfl⟩
      | some existing =>
          by_cases hsame : existing = lineage
          · exact .inl (by simp [hsame])
          · exact .inl (by simp [hsame])

/-- Provenance that is added is marked with the target revision, if with any. -/
theorem adds_provenance (hartifacts : migratedArtifacts database operatorTargetRevision provenance
      lineage = .ok (candidate, adoptable))
    (hstored : ((database.write (.candidateSet candidate)).write (.adoptableRevision adoptable)).Stored
      (.adoptableRevision adoptable))
    (hfresh : ((database.write (.candidateSet candidate)).write
      (.adoptableRevision adoptable)).getByOperatorStrategyRevision lineage.operatorStrategyRevision =
        .ok none) :
    Adds env operatorTargetRevision lineage database
      (((database.write (.candidateSet candidate)).write (.adoptableRevision adoptable)).write
        (.provenance lineage)) := by
  have hcopies : Adds env operatorTargetRevision lineage database _ :=
    (adds_copies (artifactsOf_migrated hartifacts)).2
  have hnone := (StrategyDatabase.getByOperatorStrategyRevision_eq_none.mp hfresh).1
  have hwrite := StrategyDatabase.extends_write ((database.write (.candidateSet candidate)).write
    (.adoptableRevision adoptable)) (.provenance lineage)
  refine
    { extends_ := trans_of _ hcopies.extends_ hwrite
      candidate := hcopies.candidate
      adoptable := hcopies.adoptable
      provenance := fun key hkey ↦ KeyedTable.get?_insertNew_of_ne hkey.symm
      marked := ?_ }
  intro row hrow
  have hinserted : (database.strategyAdoptionProvenance.insertNew lineage).get?
      lineage.operatorStrategyRevision = some row := hrow
  rcases KeyedTable.get?_of_get?_insertNew hinserted with hold | ⟨-, -, rfl⟩
  · exact .inl hold
  · exact .inr fun revision hmarked ↦ eq_of_marked hartifacts (hwrite.stored hstored) hmarked

/-- Writing a lineage, whether it succeeds or not, adds rows of it. -/
theorem adds_writeLineage
    (hlineage : migrationLineage env plane.store.database operatorTargetRevision =
      .ok (legacy, lineage)) :
    Adds env operatorTargetRevision lineage plane.store.database
      (exec (writeLineage operatorTargetRevision legacy lineage) plane).2.store.database := by
  cases legacy with
  | none =>
      -- the lineage is the marker, whose provenance is there
      rw [writeLineage, exec_bind, exec_get]
      simp only [exec_bind, exec_lift]
      cases ensureExistingCanonicalArtifactsPresent plane.store.database lineage with
      | error error => exact adds_refl
      | ok _ =>
          simp only
          generalize hrun : exec (onStore _ (StrategyStore.upsertProvenance lineage)) plane = run
          obtain ⟨outcome, plane'⟩ := run
          obtain ⟨hstore, -⟩ := exec_onStore_store hrun
          rcases exec_upsertProvenance_store lineage plane.store with hsame | ⟨hfresh, -⟩
          · show Adds _ _ _ _ plane'.store.database
            rw [hstore, hsame]
            exact adds_refl
          · obtain ⟨-, -, -, hlegacy, -⟩ := synthetic_of_fresh hlineage hfresh
            cases hlegacy
  | some provenance =>
      rw [writeLineage, exec_bind, exec_get]
      simp only [exec_bind, exec_lift]
      cases hartifacts : migratedArtifacts plane.store.database operatorTargetRevision provenance
        lineage with
      | error error => exact adds_refl
      | ok artifacts =>
          obtain ⟨candidate, adoptable⟩ := artifacts
          obtain ⟨hfirst, hboth⟩ : Adds env operatorTargetRevision lineage plane.store.database _ ∧
              Adds env operatorTargetRevision lineage plane.store.database _ :=
            adds_copies (artifactsOf_migrated hartifacts)
          simp only
          generalize hcandidate : exec (onStore _ (StrategyStore.materializeStrategyCandidateSet
            "canonical" candidate)) plane = run
          obtain ⟨outcome, plane₁⟩ := run
          obtain ⟨hstore₁, -⟩ := exec_onStore_store hcandidate
          rw [StrategyStore.materializeStrategyCandidateSet, exec_materialize_store] at hstore₁
          cases outcome with
          | error error =>
              show Adds _ _ _ _ plane₁.store.database
              rw [hstore₁]
              exact hfirst
          | ok _ =>
              simp only
              generalize hadoptable : exec (onStore _
                (StrategyStore.materializeAdoptableStrategyRevision "canonical" adoptable))
                  plane₁ = run
              obtain ⟨outcome, plane₂⟩ := run
              obtain ⟨hstore₂, hok⟩ := exec_onStore_store hadoptable
              rw [StrategyStore.materializeAdoptableStrategyRevision, exec_materialize_store,
                hstore₁] at hstore₂
              cases outcome with
              | error error =>
                  show Adds _ _ _ _ plane₂.store.database
                  rw [hstore₂]
                  exact hboth
              | ok _ =>
                  simp only
                  generalize hprovenance : exec (onStore _
                    (StrategyStore.upsertProvenance lineage)) plane₂ = run
                  obtain ⟨outcome, plane₃⟩ := run
                  obtain ⟨hstore₃, -⟩ := exec_onStore_store hprovenance
                  show Adds _ _ _ _ plane₃.store.database
                  rcases exec_upsertProvenance_store lineage plane₂.store with
                    hsame | ⟨hfresh, hinsert⟩
                  · rw [hstore₃, hsame, hstore₂]
                    exact hboth
                  · have hstored := (StrategyStore.exec_materialize_eq_ok.mp
                      (Prod.ext (hok rfl) rfl)).1
                    rw [hstore₁] at hstored
                    rw [hstore₂] at hfresh
                    rw [hstore₃, hinsert, hstore₂]
                    exact adds_provenance hartifacts hstored hfresh

end Adds

/-! ## What another migration sees of it -/

/-- The write is of a row under a name of the lineage. -/
def OfLineage (lineage : StrategyAdoptionProvenanceRow) : StrategyWrite → Prop
  | .candidateSet row => row.strategyCandidateRevision = lineage.strategyCandidateRevision
  | .adoptableRevision row => row.adoptableStrategyRevision = lineage.adoptableStrategyRevision
  | .provenance row => row = lineage

/-- The second plane has more rows than the first, but none of them is of the lineage. -/
structure Beside (base : StrategyDatabase) (lineage : StrategyAdoptionProvenanceRow)
    (plane plane' : ControlPlane) : Prop where
  config : plane'.config = plane.config
  before : base.Extends plane.store.database
  after : base.Extends plane'.store.database
  candidate :
    plane'.store.database.strategyCandidateSets.get? lineage.strategyCandidateRevision =
      plane.store.database.strategyCandidateSets.get? lineage.strategyCandidateRevision
  adoptable :
    plane'.store.database.adoptableStrategyRevisions.get? lineage.adoptableStrategyRevision =
      plane.store.database.adoptableStrategyRevisions.get? lineage.adoptableStrategyRevision
  provenance :
    plane'.store.database.strategyAdoptionProvenance.get? lineage.operatorStrategyRevision =
      plane.store.database.strategyAdoptionProvenance.get? lineage.operatorStrategyRevision
  known : ∀ row,
    plane.store.database.strategyAdoptionProvenance.get? lineage.operatorStrategyRevision =
        some row →
      base.strategyAdoptionProvenance.get? lineage.operatorStrategyRevision = some row ∨
        row = lineage

section Beside

variable {env : MigrationEnv} {base : StrategyDatabase} {plane plane' : ControlPlane}
  {operatorTargetRevision : String} {lineage : StrategyAdoptionProvenanceRow}
  {legacy : Option CandidateAdoptionProvenanceRow} {candidate : StrategyCandidateSetRow}
  {adoptable : AdoptableStrategyRevisionRow}

/-- The provenance of the lineage is read alike. -/
theorem Beside.read (hbase : Consistent base) (h : Beside base lineage plane plane') :
    plane'.store.database.getByOperatorStrategyRevision lineage.operatorStrategyRevision =
      plane.store.database.getByOperatorStrategyRevision lineage.operatorStrategyRevision := by
  refine getByOperatorStrategyRevision_congr ?_ ?_ h.provenance ?_
  · rw [h.before.candidateAdoptionProvenance, h.after.candidateAdoptionProvenance]
  · intro row
    rw [h.before.targetLinked_iff, h.after.targetLinked_iff]
  · intro row hrow
    rcases h.known row hrow with hold | rfl
    · refine linked_congr ?_ ?_
      · rw [hbase.adoptable_eq h.before hold, hbase.adoptable_eq h.after hold]
      · rw [hbase.candidate_eq h.before hold, hbase.candidate_eq h.after hold]
    · exact linked_congr h.adoptable h.candidate

/-- Rows of the lineage are written alike. -/
theorem Beside.insert (h : Beside base lineage plane plane') (write : StrategyWrite)
    (hwrite : OfLineage lineage write) :
    Beside base lineage { plane with store := plane.store.insert write }
        { plane' with store := plane'.store.insert write } ∧
      (plane'.store.insert write).database.stored? write =
        (plane.store.insert write).database.stored? write := by
  have hbefore := trans_of _ h.before (StrategyDatabase.extends_write plane.store.database write)
  have hafter := trans_of _ h.after (StrategyDatabase.extends_write plane'.store.database write)
  cases write with
  | candidateSet row =>
      have hkey : row.strategyCandidateRevision = lineage.strategyCandidateRevision := hwrite
      have hsame : (plane'.store.database.strategyCandidateSets.insertNew row).get?
            lineage.strategyCandidateRevision =
          (plane.store.database.strategyCandidateSets.insertNew row).get?
            lineage.strategyCandidateRevision := by
        rw [← hkey, KeyedTable.get?_insertNew_self, KeyedTable.get?_insertNew_self, hkey, h.candidate]
      rw [← hkey] at hsame
      exact ⟨{ h with before := hbefore, after := hafter, candidate := hkey ▸ hsame },
        congrArg (Option.map StrategyWrite.candidateSet) hsame⟩
  | adoptableRevision row =>
      have hkey : row.adoptableStrategyRevision = lineage.adoptableStrategyRevision := hwrite
      have hsame : (plane'.store.database.adoptableStrategyRevisions.insertNew row).get?
            lineage.adoptableStrategyRevision =
          (plane.store.database.adoptableStrategyRevisions.insertNew row).get?
            lineage.adoptableStrategyRevision := by
        rw [← hkey, KeyedTable.get?_insertNew_self, KeyedTable.get?_insertNew_self, hkey, h.adoptable]
      rw [← hkey] at hsame
      exact ⟨{ h with before := hbefore, after := hafter, adoptable := hkey ▸ hsame },
        congrArg (Option.map StrategyWrite.adoptableRevision) hsame⟩
  | provenance row =>
      obtain rfl : row = lineage := hwrite
      have hsame : (plane'.store.database.strategyAdoptionProvenance.insertNew row).get?
            row.operatorStrategyRevision =
          (plane.store.database.strategyAdoptionProvenance.insertNew row).get?
            row.operatorStrategyRevision := by
        rw [KeyedTable.get?_insertNew_self, KeyedTable.get?_insertNew_self, h.provenance]
      refine ⟨{ h with before := hbefore, after := hafter, provenance := hsame, known := ?_ },
        congrArg (Option.map StrategyWrite.provenance) hsame⟩
      intro other hother
      rcases KeyedTable.get?_of_get?_insertNew hother with hold | ⟨-, -, rfl⟩
      · exact h.known other hold
      · exact .inr rfl

theorem alike_materialize {write : StrategyWrite} {subject canonical : String}
    {rename : String → StrategyControlMigrationError}
    (hwrite : OfLineage lineage write) :
    Alike (Beside base lineage) (onStore rename (StrategyStore.materialize write subject canonical))
      (onStore rename (StrategyStore.materialize write subject canonical)) := by
  intro plane plane' h
  obtain ⟨hinsert, hstored⟩ := h.insert write hwrite
  simp only [onStore, exec_focus, StrategyStore.materialize, exec_bind, exec_modify, exec_get,
    hstored]
  cases (plane.store.insert write).database.stored? write with
  | none => exact ⟨rfl, hinsert⟩
  | some stored =>
      by_cases hsame : stored = write
      · simpa [hsame] using hinsert
      · simpa [hsame] using hinsert

theorem alike_upsertProvenance (hbase : Consistent base)
    {rename : PersistenceError → StrategyControlMigrationError} :
    Alike (Beside base lineage) (onStore rename (StrategyStore.upsertProvenance lineage))
      (onStore rename (StrategyStore.upsertProvenance lineage)) := by
  intro plane plane' h
  simp only [onStore, exec_focus, StrategyStore.upsertProvenance, exec_bind, exec_get, exec_lift,
    h.read hbase]
  cases plane.store.database.getByOperatorStrategyRevision lineage.operatorStrategyRevision with
  | error error => exact ⟨rfl, h⟩
  | ok existing =>
      cases existing with
      | none => exact ⟨rfl, (h.insert (.provenance lineage) rfl).1⟩
      | some existing =>
          by_cases hsame : existing = lineage
          · simpa [hsame] using h
          · simpa [hsame] using h

/-- A lineage is written alike. -/
theorem alike_writeLineage (hbase : Consistent base) :
    Alike (Beside base lineage) (writeLineage operatorTargetRevision legacy lineage)
      (writeLineage operatorTargetRevision legacy lineage) := by
  refine alike_get_bind fun plane plane' h ↦ ?_
  cases legacy with
  | none =>
      have hensure : ensureExistingCanonicalArtifactsPresent plane'.store.database lineage =
          ensureExistingCanonicalArtifactsPresent plane.store.database lineage := by
        rw [ensureExistingCanonicalArtifactsPresent, ensureExistingCanonicalArtifactsPresent,
          h.candidate, h.adoptable]
      simp only [hensure]
      exact alike_bind alike_lift (fun _ ↦ alike_upsertProvenance hbase) plane plane' h
  | some provenance =>
      have hartifacts : migratedArtifacts plane'.store.database operatorTargetRevision provenance
            lineage =
          migratedArtifacts plane.store.database operatorTargetRevision provenance lineage := by
        rw [migratedArtifacts_eq h.before, migratedArtifacts_eq h.after]
      simp only [hartifacts]
      cases hmigrated : migratedArtifacts plane.store.database operatorTargetRevision provenance
        lineage with
      | error error => exact ⟨rfl, h⟩
      | ok artifacts =>
          obtain ⟨candidate, adoptable⟩ := artifacts
          have hof := artifactsOf_migrated hmigrated
          have hcandidate : OfLineage lineage (.candidateSet candidate) := hof.candidateKey
          have hadoptable : OfLineage lineage (.adoptableRevision adoptable) := hof.adoptableKey
          rw [exec_bind, exec_bind, exec_lift, exec_lift]
          exact alike_bind (alike_materialize hcandidate) (fun _ ↦
            alike_bind (alike_materialize hadoptable) fun _ ↦
              alike_upsertProvenance hbase) plane plane' h

end Beside

/-- The rows that the second database has besides those of the first are not seen by the
migration of the target revision. -/
structure Unseen (env : MigrationEnv) (operatorTargetRevision operatorStrategyRevision : String)
    (database database' : StrategyDatabase) : Prop where
  extends_ : database.Extends database'
  provenance :
    database'.strategyAdoptionProvenance.get? operatorStrategyRevision =
      database.strategyAdoptionProvenance.get? operatorStrategyRevision
  adoptable :
    database'.adoptableStrategyRevisions.get?
        (syntheticAdoptableRevision operatorStrategyRevision) =
      database.adoptableStrategyRevisions.get?
        (syntheticAdoptableRevision operatorStrategyRevision)
  candidate :
    database'.strategyCandidateSets.get?
        (syntheticStrategyCandidateRevision operatorStrategyRevision) =
      database.strategyCandidateSets.get?
        (syntheticStrategyCandidateRevision operatorStrategyRevision)
  marked : ∀ key row, database'.strategyAdoptionProvenance.get? key = some row →
    database.strategyAdoptionProvenance.get? key = some row ∨
      ¬ Marked env database' operatorTargetRevision row

section Unseen

variable {env : MigrationEnv} {database database' : StrategyDatabase}
  {operatorTargetRevision operatorTargetRevision' operatorStrategyRevision
    operatorStrategyRevision' : String}
  {lineage : StrategyAdoptionProvenanceRow} {legacy : Option CandidateAdoptionProvenanceRow}

/-- Where the marked provenance is the same, the marker is. -/
theorem marker_of_same (h : ∀ row,
    (database'.strategyAdoptionProvenance.get? row.operatorStrategyRevision = some row ∧
        Marked env database' operatorTargetRevision row) ↔
      database.strategyAdoptionProvenance.get? row.operatorStrategyRevision = some row ∧
        Marked env database operatorTargetRevision row) :
    loadExistingCanonicalTargetSourceMigration env database' operatorTargetRevision =
      loadExistingCanonicalTargetSourceMigration env database operatorTargetRevision := by
  have hperm : (database'.strategyAdoptionProvenance.all.filter
        (fun row ↦ decide (Marked env database' operatorTargetRevision row))).Perm
      (database.strategyAdoptionProvenance.all.filter
        fun row ↦ decide (Marked env database operatorTargetRevision row)) := by
    rw [List.perm_ext_iff_of_nodup (KeyedTable.nodup_all.filter _) (KeyedTable.nodup_all.filter _)]
    intro row
    rw [List.mem_filter, List.mem_filter, decide_eq_true_iff, decide_eq_true_iff,
      KeyedTable.mem_all_iff, KeyedTable.mem_all_iff]
    exact h row
  simp only [loadExistingCanonicalTargetSourceMigration]
  generalize database'.strategyAdoptionProvenance.all.filter _ = mapped' at hperm
  generalize database.strategyAdoptionProvenance.all.filter _ = mapped at hperm
  rw [hperm.length_eq]
  split
  · rfl
  · rename_i hshort
    cases mapped with
    | nil => rw [hperm.eq_nil]
    | cons row rest =>
        cases rest with
        | nil => rw [List.perm_singleton.mp hperm]
        | cons second rest => exact absurd (by simp) hshort

theorem Unseen.migrationLineage_eq (h : Unseen env operatorTargetRevision operatorStrategyRevision database
      database') (hdatabase : Consistent database)
    (hrevision : canonicalStrategyRevisionFromLegacyTargetRevision operatorTargetRevision =
      .ok operatorStrategyRevision) :
    migrationLineage env database' operatorTargetRevision =
      migrationLineage env database operatorTargetRevision := by
  have hmarker : loadExistingCanonicalTargetSourceMigration env database' operatorTargetRevision =
      loadExistingCanonicalTargetSourceMigration env database operatorTargetRevision := by
    refine marker_of_same fun row ↦ ?_
    have hmarked : database.strategyAdoptionProvenance.get? row.operatorStrategyRevision = some row →
        (Marked env database' operatorTargetRevision row ↔
          Marked env database operatorTargetRevision row) := by
      intro hrow
      rw [Marked, Marked, hdatabase.adoptable_eq h.extends_ hrow]
    constructor
    · rintro ⟨hrow, hmark⟩
      rcases h.marked _ row hrow with hold | hnot
      · exact ⟨hold, (hmarked hold).mp hmark⟩
      · exact absurd hmark hnot
    · rintro ⟨hrow, hmark⟩
      exact ⟨h.extends_.strategyAdoptionProvenance _ _ hrow, (hmarked hrow).mpr hmark⟩
  have hread : database'.getByOperatorStrategyRevision operatorStrategyRevision =
      database.getByOperatorStrategyRevision operatorStrategyRevision := by
    refine getByOperatorStrategyRevision_congr h.extends_.candidateAdoptionProvenance
      (fun row ↦ h.extends_.targetLinked_iff) h.provenance fun row hrow ↦ ?_
    exact linked_congr (hdatabase.adoptable_eq h.extends_ hrow)
      (hdatabase.candidate_eq h.extends_ hrow)
  have hderived : ∀ legacy, derivedLineage database' legacy operatorStrategyRevision =
      derivedLineage database legacy operatorStrategyRevision := by
    intro legacy
    rw [derivedLineage, derivedLineage, hread]
  have hok : ∀ next : String → Except StrategyControlMigrationError
      (Option CandidateAdoptionProvenanceRow × StrategyAdoptionProvenanceRow),
      (Except.ok operatorStrategyRevision >>= next) = next operatorStrategyRevision := fun _ ↦ rfl
  simp only [migrationLineage, hmarker, h.extends_.getByOperatorTargetRevision_eq, hrevision, hok,
    hderived]

/-- A lineage of the target revision has none of the rows. -/
theorem Unseen.beside (h : Unseen env operatorTargetRevision operatorStrategyRevision database
      database') (hdatabase : Consistent database)
    (hrevision : canonicalStrategyRevisionFromLegacyTargetRevision operatorTargetRevision =
      .ok operatorStrategyRevision)
    (hlineage : migrationLineage env database operatorTargetRevision = .ok (legacy, lineage))
    (config : ConfigFile) :
    Beside database lineage (.start database config) (.start database' config) := by
  have hrows : database'.strategyCandidateSets.get? lineage.strategyCandidateRevision =
        database.strategyCandidateSets.get? lineage.strategyCandidateRevision ∧
      database'.adoptableStrategyRevisions.get? lineage.adoptableStrategyRevision =
        database.adoptableStrategyRevisions.get? lineage.adoptableStrategyRevision ∧
      database'.strategyAdoptionProvenance.get? lineage.operatorStrategyRevision =
        database.strategyAdoptionProvenance.get? lineage.operatorStrategyRevision := by
    rcases hdatabase.lineage_cases hlineage with hstored | ⟨hsame, -, hsynthetic⟩
    · refine ⟨hdatabase.candidate_eq h.extends_ hstored, hdatabase.adoptable_eq h.extends_ hstored, ?_⟩
      rw [hstored, h.extends_.strategyAdoptionProvenance _ _ hstored]
    · have hname : lineage.operatorStrategyRevision = operatorStrategyRevision :=
        Except.ok.inj (hsame.symm.trans hrevision)
      rw [hname] at hsynthetic
      rw [hsynthetic]
      exact ⟨h.candidate, h.adoptable, h.provenance⟩
  exact
    { config := rfl
      before := refl_of _ _
      after := h.extends_
      candidate := hrows.1
      adoptable := hrows.2.1
      provenance := hrows.2.2
      known := fun _ hrow ↦ .inl hrow }

/-- What a migration adds is not seen by one whose names are different. -/
theorem Adds.unseen (h : Adds env operatorTargetRevision lineage database database')
    (hdatabase : Consistent database)
    (hlineage : migrationLineage env database operatorTargetRevision = .ok (legacy, lineage))
    (hrevision : canonicalStrategyRevisionFromLegacyTargetRevision operatorTargetRevision =
      .ok operatorStrategyRevision)
    (hapart : NamesApart operatorStrategyRevision operatorStrategyRevision')
    (hne : operatorTargetRevision ≠ operatorTargetRevision') :
    Unseen env operatorTargetRevision' operatorStrategyRevision' database database' := by
  have hmarked : ∀ key row, database'.strategyAdoptionProvenance.get? key = some row →
      database.strategyAdoptionProvenance.get? key = some row ∨
        ¬ Marked env database' operatorTargetRevision' row := by
    intro key row hrow
    by_cases hkey : key = lineage.operatorStrategyRevision
    · subst hkey
      rcases h.marked row hrow with hold | hmark
      · exact .inl hold
      · exact .inr fun hmarked ↦ hne (hmark _ hmarked).symm
    · exact .inl ((h.provenance key hkey).symm.trans hrow)
  rcases hdatabase.lineage_cases hlineage with hstored | ⟨hsame, -, hsynthetic⟩
  · -- the rows of the lineage were there, so that none was added
    refine
      { extends_ := h.extends_
        provenance := ?_
        adoptable := ?_
        candidate := ?_
        marked := hmarked }
    · by_cases hkey : operatorStrategyRevision' = lineage.operatorStrategyRevision
      · rw [hkey, hstored, h.extends_.strategyAdoptionProvenance _ _ hstored]
      · exact h.provenance _ hkey
    · by_cases hkey : syntheticAdoptableRevision operatorStrategyRevision' =
        lineage.adoptableStrategyRevision
      · rw [hkey, hdatabase.adoptable_eq h.extends_ hstored]
      · exact h.adoptable _ hkey
    · by_cases hkey : syntheticStrategyCandidateRevision operatorStrategyRevision' =
        lineage.strategyCandidateRevision
      · rw [hkey, hdatabase.candidate_eq h.extends_ hstored]
      · exact h.candidate _ hkey
  · have hname : lineage.operatorStrategyRevision = operatorStrategyRevision :=
      Except.ok.inj (hsame.symm.trans hrevision)
    rw [hname] at hsynthetic
    rw [hsynthetic] at h
    exact
      { extends_ := h.extends_
        provenance := h.provenance _ hapart.1.symm
        adoptable := h.adoptable _ hapart.2.1.symm
        candidate := h.candidate _ hapart.2.2.symm
        marked := hmarked }

end Unseen

/-! ## One migration after another -/

section Migrations

variable {env : MigrationEnv} {database database' : StrategyDatabase} {config : ConfigFile}
  {operatorTargetRevision operatorTargetRevision' operatorStrategyRevision
    operatorStrategyRevision' : String}

/-- The rows after a migration, whether it succeeds or not. -/
def rowsAfter (env : MigrationEnv) (database : StrategyDatabase) (config : ConfigFile) :
    StrategyDatabase :=
  (exec (migrateLegacyTargetSource env) (.start database config)).2.store.database

/-- How a migration ends. -/
def outcomeAfter (env : MigrationEnv) (database : StrategyDatabase) (config : ConfigFile) :
    Except StrategyControlMigrationError MigrationOutcome :=
  (exec (migrateLegacyTargetSource env) (.start database config)).1

theorem unseen_refl : Unseen env operatorTargetRevision operatorStrategyRevision database database :=
  { extends_ := refl_of _ _
    provenance := rfl
    adoptable := rfl
    candidate := rfl
    marked := fun _ _ h ↦ .inl h }

/-- What is left of a migration once its rows are written. -/
def finishMigration (env : MigrationEnv) (lineage : StrategyAdoptionProvenanceRow) :
    MigrationCommand MigrationOutcome := do
  focus ControlPlane.config (fun plane config ↦ { plane with config }) .rewrite
    (rewriteOperatorStrategyRevision env.validated lineage.operatorStrategyRevision)
  return outcomeOf lineage .legacyTargetSource

theorem exec_finishMigration_store (lineage : StrategyAdoptionProvenanceRow) (plane : ControlPlane) :
    (exec (finishMigration env lineage) plane).2.store = plane.store := by
  rw [finishMigration, exec_bind, exec_focus]
  generalize exec (rewriteOperatorStrategyRevision env.validated lineage.operatorStrategyRevision)
    plane.config = run
  obtain ⟨result, config⟩ := run
  cases result with
  | error error => rfl
  | ok value => rfl

theorem alike_finishMigration {base : StrategyDatabase} {lineage : StrategyAdoptionProvenanceRow} :
    Alike (Beside base lineage) (finishMigration env lineage) (finishMigration env lineage) := by
  have hconfig : Alike (fun config config' : ConfigFile ↦ config' = config)
      (rewriteOperatorStrategyRevision env.validated lineage.operatorStrategyRevision)
      (rewriteOperatorStrategyRevision env.validated lineage.operatorStrategyRevision) := by
    rintro config _ rfl
    exact ⟨rfl, rfl⟩
  refine alike_bind (alike_focus (fun plane plane' h ↦ h.config) ?_ hconfig) fun _ ↦ alike_pure
  rintro plane plane' config _ h rfl
  exact { h with config := rfl }

/-- A migration finds the lineage, writes it and rewrites the file. -/
theorem exec_migrate_start
    (hconfig : legacyOperatorTargetRevision config = .ok operatorTargetRevision) :
    exec (migrateLegacyTargetSource env) (.start database config) =
      match migrationLineage env database operatorTargetRevision with
      | .error error => (.error error, .start database config)
      | .ok (legacy, lineage) =>
          exec (writeLineage operatorTargetRevision legacy lineage >>= fun _ ↦
            finishMigration env lineage) (.start database config) := by
  have hstart : legacyOperatorTargetRevision (ControlPlane.start database config).config =
      .ok operatorTargetRevision := hconfig
  have hrows : (ControlPlane.start database config).store.database = database := rfl
  simp only [migrateLegacyTargetSource, finishMigration, exec_bind, exec_get, exec_lift, hstart,
    hrows]
  cases migrationLineage env database operatorTargetRevision with
  | error error => rfl
  | ok found => rfl

theorem unseen_rowsAfter (hdatabase : Consistent database)
    (hrevision : canonicalStrategyRevisionFromLegacyTargetRevision operatorTargetRevision =
      .ok operatorStrategyRevision)
    (hapart : NamesApart operatorStrategyRevision operatorStrategyRevision')
    (hne : operatorTargetRevision ≠ operatorTargetRevision')
    (hconfig : legacyOperatorTargetRevision config = .ok operatorTargetRevision) :
    Unseen env operatorTargetRevision' operatorStrategyRevision' database
      (rowsAfter env database config) := by
  rw [rowsAfter, exec_migrate_start hconfig]
  cases hlineage : migrationLineage env database operatorTargetRevision with
  | error error => exact unseen_refl
  | ok found =>
      obtain ⟨legacy, lineage⟩ := found
      have hstore : (exec (writeLineage operatorTargetRevision legacy lineage >>= fun _ ↦
            finishMigration env lineage) (.start database config)).2.store =
          (exec (writeLineage operatorTargetRevision legacy lineage) (.start database config)).2.store := by
        rw [exec_bind]
        generalize exec (writeLineage operatorTargetRevision legacy lineage)
          (.start database config) = run
        obtain ⟨result, plane⟩ := run
        cases result with
        | error error => rfl
        | ok value => exact exec_finishMigration_store lineage plane
      simp only [hstore]
      have hadds : Adds env operatorTargetRevision lineage
          (ControlPlane.start database config).store.database _ := adds_writeLineage hlineage
      exact hadds.unseen hdatabase hlineage hrevision hapart hne

/-- A migration that does not see the rows ends as it does without them. -/
theorem Unseen.outcome_eq (h : Unseen env operatorTargetRevision operatorStrategyRevision database
      database') (hdatabase : Consistent database)
    (hrevision : canonicalStrategyRevisionFromLegacyTargetRevision operatorTargetRevision =
      .ok operatorStrategyRevision)
    (hconfig : legacyOperatorTargetRevision config = .ok operatorTargetRevision) :
    outcomeAfter env database' config = outcomeAfter env database config := by
  rw [outcomeAfter, outcomeAfter, exec_migrate_start hconfig, exec_migrate_start hconfig,
    h.migrationLineage_eq hdatabase hrevision]
  cases hlineage : migrationLineage env database operatorTargetRevision with
  | error error => rfl
  | ok found =>
      obtain ⟨legacy, lineage⟩ := found
      have hbeside := h.beside hdatabase hrevision hlineage config
      exact (alike_bind (alike_writeLineage hdatabase) (fun _ ↦ alike_finishMigration) _ _
        hbeside).1.symm

/-- The lineage that a migration ends with has none of the rows. -/
theorem Unseen.rows_eq (h : Unseen env operatorTargetRevision operatorStrategyRevision database
      database') (hdatabase : Consistent database)
    (hrevision : canonicalStrategyRevisionFromLegacyTargetRevision operatorTargetRevision =
      .ok operatorStrategyRevision)
    (hconfig : legacyOperatorTargetRevision config = .ok operatorTargetRevision)
    {outcome : MigrationOutcome} (houtcome : outcomeAfter env database config = .ok outcome) :
    database'.strategyCandidateSets.get? outcome.strategyCandidateRevision =
        database.strategyCandidateSets.get? outcome.strategyCandidateRevision ∧
      database'.adoptableStrategyRevisions.get? outcome.adoptableStrategyRevision =
        database.adoptableStrategyRevisions.get? outcome.adoptableStrategyRevision ∧
      database'.strategyAdoptionProvenance.get? outcome.operatorStrategyRevision =
        database.strategyAdoptionProvenance.get? outcome.operatorStrategyRevision := by
  have hrun : exec (migrateLegacyTargetSource env) (.start database config) =
      (.ok outcome, (exec (migrateLegacyTargetSource env) (.start database config)).2) :=
    Prod.ext houtcome rfl
  obtain ⟨revision, legacy, lineage, store, config', hfound, hlineage, -, -, -, rfl⟩ :=
    exec_migrateLegacyTargetSource.mp hrun
  obtain rfl : operatorTargetRevision = revision :=
    Except.ok.inj (hconfig.symm.trans hfound)
  have hbeside := h.beside hdatabase hrevision hlineage config
  exact ⟨hbeside.candidate, hbeside.adoptable, hbeside.provenance⟩

end Migrations

/-- The names of the two lineages are different, and in every database a migration of the
second target revision ends as it does without one of the first before it, and uses no row
that this one added. -/
structure MigrationsApart (operatorTargetRevision operatorStrategyRevision operatorTargetRevision'
    operatorStrategyRevision' : String) : Prop where
  names : NamesApart operatorStrategyRevision operatorStrategyRevision'
  outcome : ∀ env database config config', Consistent database →
    legacyOperatorTargetRevision config = .ok operatorTargetRevision →
    legacyOperatorTargetRevision config' = .ok operatorTargetRevision' →
      outcomeAfter env (rowsAfter env database config) config' = outcomeAfter env database config'
  rows : ∀ env database config config', Consistent database →
    legacyOperatorTargetRevision config = .ok operatorTargetRevision →
    legacyOperatorTargetRevision config' = .ok operatorTargetRevision' →
      ∀ outcome, outcomeAfter env (rowsAfter env database config) config' = .ok outcome →
        (rowsAfter env database config).strategyCandidateSets.get?
            outcome.strategyCandidateRevision =
          database.strategyCandidateSets.get? outcome.strategyCandidateRevision ∧
        (rowsAfter env database config).adoptableStrategyRevisions.get?
            outcome.adoptableStrategyRevision =
          database.adoptableStrategyRevisions.get? outcome.adoptableStrategyRevision ∧
        (rowsAfter env database config).strategyAdoptionProvenance.get?
            outcome.operatorStrategyRevision =
          database.strategyAdoptionProvenance.get? outcome.operatorStrategyRevision

/-- **Migrations collide in their names only.**  Two target revisions are migrated apart from
each other exactly if what is left of them, less their prefixes and the strategy prefixes
after these, differs. -/
theorem migrations_apart_iff {operatorTargetRevision operatorTargetRevision'
      operatorStrategyRevision operatorStrategyRevision' : String}
    (h : canonicalStrategyRevisionFromLegacyTargetRevision operatorTargetRevision =
      .ok operatorStrategyRevision)
    (h' : canonicalStrategyRevisionFromLegacyTargetRevision operatorTargetRevision' =
      .ok operatorStrategyRevision') :
    MigrationsApart operatorTargetRevision operatorStrategyRevision operatorTargetRevision'
        operatorStrategyRevision' ↔
      legacyBody operatorTargetRevision ≠ legacyBody operatorTargetRevision' := by
  rw [← namesApart_iff h h']
  refine ⟨MigrationsApart.names, fun hapart ↦ ?_⟩
  have hne : operatorTargetRevision ≠ operatorTargetRevision' := by
    rintro rfl
    exact hapart.1 (Except.ok.inj (h.symm.trans h'))
  refine ⟨hapart, ?_, ?_⟩
  · intro env database config config' hdatabase hconfig hconfig'
    exact (unseen_rowsAfter hdatabase h hapart hne hconfig).outcome_eq hdatabase h' hconfig'
  · intro env database config config' hdatabase hconfig hconfig' outcome houtcome
    have hunseen : Unseen env operatorTargetRevision' operatorStrategyRevision' database
        (rowsAfter env database config) := unseen_rowsAfter hdatabase h hapart hne hconfig
    rw [hunseen.outcome_eq hdatabase h' hconfig'] at houtcome
    exact hunseen.rows_eq hdatabase h' hconfig' houtcome

theorem migrations_apart_iff_two :
    MigrationsApart "targets-rev-1" "strategy-rev-1" "sha256:2" "strategy-rev-2" :=
  (migrations_apart_iff (by decide) (by decide)).mpr (by decide)

/-- Different target revisions are given the same names. -/
theorem migrated_names_collide :
    canonicalStrategyRevisionFromLegacyTargetRevision "targets-rev-1" = .ok "strategy-rev-1" ∧
      canonicalStrategyRevisionFromLegacyTargetRevision "sha256:1" = .ok "strategy-rev-1" ∧
      canonicalStrategyRevisionFromLegacyTargetRevision "targets-rev-strategy-rev-1" =
        .ok "strategy-rev-strategy-rev-1" ∧
      ¬ NamesApart "strategy-rev-1" "strategy-rev-1" ∧
      ¬ NamesApart "strategy-rev-1" "strategy-rev-strategy-rev-1" := by
  refine ⟨by decide, by decide, by decide, fun h ↦ h.1 rfl, fun h ↦ h.2.1 ?_⟩
  decide

end AxiomArb.AppLive
