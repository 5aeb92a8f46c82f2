import AxiomArb.AppLive.ConfigInStep

/-!
# Revisions and their provenance

Startup and rollback need the provenance of a revision.  The commands write it before the revision
gets into the history or the configuration, and provenance that was read once is read again after
any write.  So along any calls, however they fail, a revision that gets into the history or the
configuration leads to its provenance (`always_traces`).
-/

namespace AxiomArb.Persistence

open Library

/-! ## What writes keep -/

namespace StrategyDatabase

variable {database database' database'' : StrategyDatabase} {revision : String}

/-- Provenance that was read is read again. -/
def Keeps (database database' : StrategyDatabase) : Prop :=
  ∀ revision row, database.getByOperatorStrategyRevision revision = .ok (some row) →
    database'.getByOperatorStrategyRevision revision = .ok (some row)

theorem Keeps.trans (h : database.Keeps database') (h' : database'.Keeps database'') :
    database.Keeps database'' := fun revision row hrow ↦ h' revision row (h revision row hrow)

theorem keeps_of_extends (h : database.Extends database')
    (hsame : ∀ revision, database.getByOperatorStrategyRevision revision ≠ .ok none →
      database'.strategyAdoptionProvenance.get? revision =
        database.strategyAdoptionProvenance.get? revision) : database.Keeps database' := by
  intro revision row hrow
  refine h.getByOperatorStrategyRevision_eq (hsame revision ?_) hrow
  rw [hrow]
  simp

theorem keeps_candidateSet (database : StrategyDatabase) (row : StrategyCandidateSetRow) :
    database.Keeps (database.write (.candidateSet row)) :=
  keeps_of_extends (extends_write database _) fun _ _ ↦ rfl

theorem keeps_adoptableRevision (database : StrategyDatabase) (row : AdoptableStrategyRevisionRow) :
    database.Keeps (database.write (.adoptableRevision row)) :=
  keeps_of_extends (extends_write database _) fun _ _ ↦ rfl

/-- Provenance is inserted where none is read. -/
theorem keeps_provenance {row : StrategyAdoptionProvenanceRow}
    (h : database.getByOperatorStrategyRevision row.operatorStrategyRevision = .ok none) :
    database.Keeps (database.write (.provenance row)) := by
  refine keeps_of_extends (extends_write database _) fun revision hread ↦ ?_
  refine KeyedTable.get?_insertNew_of_ne fun hkey ↦ hread ?_
  rw [← hkey]
  exact h

theorem writeAll_append (database : StrategyDatabase) (writes writes' : List StrategyWrite) :
    database.writeAll (writes ++ writes') = (database.writeAll writes).writeAll writes' :=
  List.foldl_append

/-- The revision leads to its provenance. -/
def Traced (database : StrategyDatabase) (revision : String) : Prop :=
  ∃ provenance, database.getByOperatorStrategyRevision revision = .ok (some provenance)

theorem Traced.keeps (h : database.Traced revision) (hkeeps : database.Keeps database') :
    database'.Traced revision :=
  let ⟨provenance, hread⟩ := h
  ⟨provenance, hkeeps revision provenance hread⟩

end StrategyDatabase

namespace StrategyStore

variable {store store' : StrategyStore} {row : StrategyAdoptionProvenanceRow}

/-- What was written in between keeps provenance, wherever the writes are stopped. -/
def KeepsLog (store store' : StrategyStore) : Prop :=
  ∃ writes, store'.writes = store.writes ++ writes ∧
    store'.database = store.database.writeAll writes ∧
    ∀ n, store.database.Keeps (store.database.writeAll (writes.take n))

instance : Std.Refl KeepsLog :=
  ⟨fun _ ↦ ⟨[], (List.append_nil _).symm, rfl, fun n _ _ hrow ↦ by rwa [List.take_nil]⟩⟩

theorem KeepsLog.keeps (h : store.KeepsLog store') : store.database.Keeps store'.database := by
  obtain ⟨writes, -, hdatabase, hkeeps⟩ := h
  rw [hdatabase, ← List.take_length (l := writes)]
  exact hkeeps writes.length

instance : IsTrans StrategyStore KeepsLog := ⟨by
  intro store store' store'' h h'
  have hfirst := h.keeps
  obtain ⟨writes, hwrites, hdatabase, hkeeps⟩ := h
  obtain ⟨writes', hwrites', hdatabase', hkeeps'⟩ := h'
  refine ⟨writes ++ writes', by rw [hwrites', hwrites, List.append_assoc], ?_, fun n ↦ ?_⟩
  · rw [hdatabase', hdatabase, StrategyDatabase.writeAll_append]
  · rw [List.take_append, StrategyDatabase.writeAll_append]
    rcases Nat.le_total n writes.length with hle | hle
    · rw [Nat.sub_eq_zero_of_le hle, List.take_zero]
      exact hkeeps n
    · rw [List.take_of_length_le hle, ← hdatabase]
      exact hfirst.trans (hkeeps' _)⟩

theorem keepsLog_insert {write : StrategyWrite}
    (h : store.database.Keeps (store.database.write write)) : store.KeepsLog (store.insert write) := by
  refine ⟨[write], rfl, rfl, fun n ↦ ?_⟩
  cases n with
  | zero => exact fun _ _ hrow ↦ hrow
  | succ n => rwa [List.take_succ_cons, List.take_nil]

theorem keepsLog_materialize {write : StrategyWrite} {subject lineage : String}
    (h : ∀ database : StrategyDatabase, database.Keeps (database.write write)) :
    Within KeepsLog (materialize write subject lineage) := by
  refine within_bind (within_modify fun store ↦ keepsLog_insert (h store.database)) fun _ ↦ ?_
  refine within_bind within_get fun store ↦ ?_
  cases store.database.stored? write with
  | none => exact within_throw
  | some stored => exact within_ite within_throw within_pure

theorem keepsLog_candidateSet {lineage : String} {row : StrategyCandidateSetRow} :
    Within KeepsLog (materializeStrategyCandidateSet lineage row) :=
  keepsLog_materialize fun database ↦ database.keeps_candidateSet row

theorem keepsLog_adoptableRevision {lineage : String} {row : AdoptableStrategyRevisionRow} :
    Within KeepsLog (materializeAdoptableStrategyRevision lineage row) :=
  keepsLog_materialize fun database ↦ database.keeps_adoptableRevision row

theorem keepsLog_upsertProvenance : Within KeepsLog (upsertProvenance row) := by
  intro store
  simp only [upsertProvenance, exec_bind, exec_get, exec_lift]
  cases hread : store.database.getByOperatorStrategyRevision row.operatorStrategyRevision with
  | error error => exact refl_of KeepsLog store
  | ok existing =>
      cases existing with
      | none => exact keepsLog_insert (StrategyDatabase.keeps_provenance hread)
      | some existing =>
          by_cases hsame : existing = row
          · simp only [hsame, ne_eq, not_true_eq_false, if_false]
            exact refl_of KeepsLog store
          · simp only [hsame, ne_eq, not_false_eq_true, if_true]
            exact refl_of KeepsLog store

end StrategyStore

end AxiomArb.Persistence

namespace AxiomArb.AppLive

open Library Persistence

/-! ## Migrations -/

/-- What was done to the database keeps provenance. -/
def ControlPlane.KeepsLog (plane plane' : ControlPlane) : Prop := plane.store.KeepsLog plane'.store

instance : Std.Refl ControlPlane.KeepsLog :=
  ⟨fun plane ↦ refl_of StrategyStore.KeepsLog plane.store⟩

instance : IsTrans ControlPlane ControlPlane.KeepsLog :=
  ⟨fun _ _ _ h h' ↦ trans_of StrategyStore.KeepsLog h h'⟩

section Migration

variable {env : TargetsEnv} {lineage : StrategyAdoptionProvenanceRow}

theorem keepsLog_onStore {ε α : Type} {rename : ε → StrategyControlMigrationError}
    {command : Command ε StrategyStore α} (h : Within StrategyStore.KeepsLog command) :
    Within ControlPlane.KeepsLog (onStore rename command) :=
  within_focus_of h fun _ _ hlogs ↦ hlogs

theorem keepsLog_rewrite {env : MigrationEnv} {revision : String} :
    Within ControlPlane.KeepsLog
      (focus ControlPlane.config (fun plane config ↦ { plane with config })
        StrategyControlMigrationError.rewrite
        (rewriteOperatorStrategyRevision env.validated revision)) :=
  within_focus fun plane _ ↦ refl_of StrategyStore.KeepsLog plane.store

theorem keepsLog_writeLineage {operatorTargetRevision : String}
    {legacy : Option CandidateAdoptionProvenanceRow} :
    Within ControlPlane.KeepsLog (writeLineage operatorTargetRevision legacy lineage) := by
  have hupsert : Within ControlPlane.KeepsLog (onStore (fun error ↦ .persistence error.toString)
      (StrategyStore.upsertProvenance lineage)) :=
    keepsLog_onStore StrategyStore.keepsLog_upsertProvenance
  refine within_bind within_get fun plane ↦ ?_
  cases legacy with
  | some provenance =>
      refine within_bind within_lift fun artifacts ↦ ?_
      refine within_bind (keepsLog_onStore StrategyStore.keepsLog_candidateSet) fun _ ↦ ?_
      exact within_bind (keepsLog_onStore StrategyStore.keepsLog_adoptableRevision) fun _ ↦ hupsert
  | none => exact within_bind within_lift fun _ ↦ hupsert

theorem keepsLog_migrateLegacyStrategyControl :
    Within ControlPlane.KeepsLog (migrateLegacyStrategyControl env) := by
  have htargetSource : Within ControlPlane.KeepsLog
      (migrateLegacyTargetSource env.toMigrationEnv) := by
    refine within_bind within_get fun _ ↦ within_bind within_lift fun _ ↦ ?_
    refine within_bind within_get fun _ ↦ within_bind within_lift fun _ ↦ ?_
    refine within_bind keepsLog_writeLineage fun _ ↦ ?_
    exact within_bind keepsLog_rewrite fun _ ↦ within_pure
  have hexplicit : Within ControlPlane.KeepsLog (migrateLegacyExplicitTargets env) := by
    refine within_bind within_get fun _ ↦ within_ite within_throw ?_
    refine within_bind within_lift fun _ ↦ within_bind within_lift fun _ ↦ ?_
    refine within_bind (keepsLog_onStore StrategyStore.keepsLog_candidateSet) fun _ ↦ ?_
    refine within_bind (keepsLog_onStore StrategyStore.keepsLog_adoptableRevision) fun _ ↦ ?_
    refine within_bind (keepsLog_onStore StrategyStore.keepsLog_upsertProvenance) fun _ ↦ ?_
    exact within_bind keepsLog_rewrite fun _ ↦ within_pure
  refine within_bind within_get fun _ ↦ within_ite within_throw ?_
  refine within_ite within_throw (within_ite htargetSource ?_)
  exact within_ite hexplicit within_throw

end Migration

/-! ## Calls -/

/-- Provenance that was read is read again. -/
def TargetsWorld.Keeps (world world' : TargetsWorld) : Prop :=
  world.plane.store.database.Keeps world'.plane.store.database

instance : Std.Refl TargetsWorld.Keeps := ⟨fun _ _ _ h ↦ h⟩

instance : IsTrans TargetsWorld TargetsWorld.Keeps :=
  ⟨fun _ _ _ h h' ↦ StrategyDatabase.Keeps.trans h h'⟩

section Calls

variable {env : TargetsEnv} {call : TargetsCall} {world world' : TargetsWorld}

/-- A migration keeps provenance, also one that is stopped after some of its writes. -/
theorem keeps_migrateStrategyControl :
    Within TargetsWorld.Keeps (migrateStrategyControl env call) := by
  unfold migrateStrategyControl
  cases call.fault .migrate with
  | none => exact within_focus_of keepsLog_migrateLegacyStrategyControl fun _ _ hlog ↦ hlog.keeps
  | some error =>
      intro world
      have hmigrates : Within ControlPlane.KeepsLog (migrateLegacyStrategyControl env) :=
        keepsLog_migrateLegacyStrategyControl
      have hlog := hmigrates { world.plane with store.writes := [] }
      obtain ⟨writes, hwrites, -, hkeeps⟩ := hlog
      simp only [exec_bind, exec_get, exec_set, exec_throw, hwrites]
      exact hkeeps call.migratedWrites

/-! ## Ensuring provenance -/

/-- The adoptable revision renders what is selected. -/
def Selected (database : StrategyDatabase) (selection : ResolvedStrategyAdoptionSelection)
    (adoptable : AdoptableStrategyRevisionRow) : Prop :=
  ∃ adoptableRevision, selection.adoptableRevision = some adoptableRevision ∧
    database.getAdoptableStrategyRevision adoptableRevision = some adoptable ∧
    adoptable.renderedOperatorStrategyRevision = selection.operatorStrategyRevision

theorem keepsLog_ensureStrategyArtifactLineage {adoptableRevision : String} :
    Within StrategyStore.KeepsLog (ensureStrategyArtifactLineage adoptableRevision) := by
  refine within_bind within_get fun store ↦ ?_
  cases store.database.getAdoptableStrategyRevision adoptableRevision with
  | none => exact within_throw
  | some adoptable =>
      refine within_bind within_get fun store ↦ ?_
      cases store.database.getStrategyCandidateSet adoptable.strategyCandidateRevision with
      | none => exact within_throw
      | some candidate =>
          refine within_bind StrategyStore.keepsLog_candidateSet fun _ ↦ ?_
          exact within_bind StrategyStore.keepsLog_adoptableRevision fun _ ↦ within_pure

theorem keepsLog_ensureCanonicalProvenance {selection : ResolvedStrategyAdoptionSelection} :
    Within StrategyStore.KeepsLog (ensureCanonicalProvenance selection) := by
  unfold ensureCanonicalProvenance
  cases selection.adoptableRevision with
  | none => exact within_pure
  | some adoptableRevision =>
      refine within_bind keepsLog_ensureStrategyArtifactLineage fun adoptable ↦ ?_
      refine within_bind within_get fun store ↦ within_bind within_lift fun existing ↦ ?_
      exact within_ite (within_focus_of StrategyStore.keepsLog_upsertProvenance fun _ _ h ↦ h)
        within_pure

theorem key_of_getAdoptable {database : StrategyDatabase} {key : String}
    {adoptable : AdoptableStrategyRevisionRow}
    (h : database.getAdoptableStrategyRevision key = some adoptable) :
    adoptable.adoptableStrategyRevision = key := by
  rcases (Option.orElse_eq_some _ _ _).mp h with hneutral | ⟨-, holder⟩
  · exact KeyedTable.key_of_get? hneutral
  · obtain ⟨older, hget, rfl⟩ := Option.map_eq_some_iff.mp holder
    have hkey : older.adoptableRevision = key := KeyedTable.key_of_get? hget
    exact hkey

theorem key_of_getCandidate {database : StrategyDatabase} {key : String}
    {candidate : StrategyCandidateSetRow}
    (h : database.getStrategyCandidateSet key = some candidate) :
    candidate.strategyCandidateRevision = key := by
  rcases (Option.orElse_eq_some _ _ _).mp h with hneutral | ⟨-, holder⟩
  · exact KeyedTable.key_of_get? hneutral
  · obtain ⟨older, hget, rfl⟩ := Option.map_eq_some_iff.mp holder
    have hkey : older.candidateRevision = key := KeyedTable.key_of_get? hget
    exact hkey

variable {store store' : StrategyStore} {selection : ResolvedStrategyAdoptionSelection}
  {adoptable : AdoptableStrategyRevisionRow}

/-- The adoptable revision and its candidate are in the neutral tables afterwards. -/
theorem exec_ensureStrategyArtifactLineage_eq_ok {adoptableRevision : String}
    (hadoptable : store.database.getAdoptableStrategyRevision adoptableRevision = some adoptable)
    {found : AdoptableStrategyRevisionRow}
    (h : exec (ensureStrategyArtifactLineage adoptableRevision) store = (.ok found, store')) :
    found = adoptable ∧
      store'.database.adoptableStrategyRevisions.get? adoptableRevision = some adoptable ∧
      (store'.database.strategyCandidateSets.get? adoptable.strategyCandidateRevision).isSome := by
  simp only [ensureStrategyArtifactLineage, exec_bind, exec_get, hadoptable] at h
  cases hcandidate :
    store.database.getStrategyCandidateSet adoptable.strategyCandidateRevision with
  | none =>
      simp only [hcandidate] at h
      cases h
  | some candidate =>
      simp only [hcandidate, StrategyStore.materializeStrategyCandidateSet,
        StrategyStore.materializeAdoptableStrategyRevision] at h
      change exec (_ >>= fun _ ↦ _) store = _ at h
      obtain ⟨_, middle, hfirst, h⟩ := exec_bind_eq_ok.mp h
      obtain ⟨_, last, hsecond, h⟩ := exec_bind_eq_ok.mp h
      obtain ⟨rfl, rfl⟩ : found = adoptable ∧ store' = last := by
        cases h
        exact ⟨rfl, rfl⟩
      obtain ⟨hcandidateStored, rfl⟩ := StrategyStore.exec_materialize_eq_ok.mp hfirst
      obtain ⟨hadoptableStored, rfl⟩ := StrategyStore.exec_materialize_eq_ok.mp hsecond
      have hkept := (StrategyDatabase.extends_write _ (.adoptableRevision found)).stored
        hcandidateStored
      refine ⟨rfl, ?_, ?_⟩
      · rw [← key_of_getAdoptable hadoptable]
        exact StrategyDatabase.stored_adoptableRevision.mp hadoptableStored
      · rw [← key_of_getCandidate hcandidate]
        exact Option.isSome_of_eq_some (StrategyDatabase.stored_candidateSet.mp hkept)

/-- Once provenance is ensured it is read. -/
theorem traced_of_ensured (hselected : Selected store.database selection adoptable)
    (h : exec (ensureCanonicalProvenance selection) store = (.ok ⟨⟩, store')) :
    store'.database.Traced selection.operatorStrategyRevision := by
  obtain ⟨adoptableRevision, hnamed, hadoptable, hrendered⟩ := hselected
  simp only [ensureCanonicalProvenance, hnamed] at h
  obtain ⟨found, middle, hlineage, h⟩ := exec_bind_eq_ok.mp h
  obtain ⟨rfl, hneutral, hcandidate⟩ := exec_ensureStrategyArtifactLineage_eq_ok hadoptable hlineage
  have hkey := key_of_getAdoptable hadoptable
  simp only [exec_bind_eq_ok, exec_get, exec_lift] at h
  obtain ⟨_, _, ⟨⟩, existing, _, hexisting, h⟩ := h
  obtain ⟨hread, rfl⟩ := Prod.mk.inj hexisting
  rw [mapError_eq_ok_iff] at hread
  cases existing with
  | some provenance =>
      simp only [Option.isNone_some, Bool.false_eq_true, if_false, exec_pure] at h
      obtain ⟨-, rfl⟩ := Prod.mk.inj h
      exact ⟨provenance, hread⟩
  | none =>
      simp only [Option.isNone_none, if_true, exec_focus_eq_ok] at h
      obtain ⟨written, hupsert, rfl⟩ := h
      refine ⟨_, (holds_of_upserted ⟨⟨found, ?_, rfl, hrendered⟩, hcandidate⟩ hupsert).read⟩
      rw [hkey]
      exact hneutral

/-! ## Selections -/

section Resolved

variable {database : StrategyDatabase} {history : AdoptionHistory}

/-- What passes a filter is in the history. -/
theorem mem_combined_of_filtered {destination : String} {entry : CombinedEntry}
    (h : entry ∈ history.combined fun row ↦ row.operatorStrategyRevision == destination) :
    ∃ entry ∈ history.combined fun _ ↦ true,
      entry.row.operatorStrategyRevision = destination := by
  simp only [AdoptionHistory.combined, List.mem_append, List.mem_map, List.mem_filter,
    beq_iff_eq] at h
  refine ⟨entry, ?_, ?_⟩
  · simp only [AdoptionHistory.combined, List.mem_append, List.mem_map, List.mem_filter, and_true]
    rcases h with ⟨listed, ⟨hlisted, -⟩, rfl⟩ | ⟨listed, ⟨hlisted, -⟩, rfl⟩
    · exact .inl ⟨listed, hlisted, rfl⟩
    · exact .inr ⟨listed, hlisted, rfl⟩
  · rcases h with ⟨listed, ⟨-, hnamed⟩, rfl⟩ | ⟨listed, ⟨-, hnamed⟩, rfl⟩
    · exact hnamed
    · exact hnamed

theorem selected_of_lineage {operatorStrategyRevision adoptableRevision
    strategyCandidateRevision : String}
    (h : selectionFromLineage env database operatorStrategyRevision adoptableRevision
      strategyCandidateRevision = .ok selection) :
    selection.operatorStrategyRevision = operatorStrategyRevision ∧
      ∃ adoptable, Selected database selection adoptable := by
  unfold selectionFromLineage at h
  split at h
  · cases h
  · rename_i adoptable hadoptable
    split at h
    · cases h
    · rename_i hmatches
      rw [not_or, not_not, not_not] at hmatches
      split at h
      · cases h
      · obtain ⟨_, -, h⟩ := bind_eq_ok.mp h
        cases h
        exact ⟨rfl, adoptable, adoptableRevision, rfl, hadoptable, hmatches.2⟩

/-- A revision is resolved by its provenance, or by its rows in the history. -/
theorem resolved_of_revision {destination : String}
    (h : resolveAdoptionSelection env database history (some destination) none = .ok selection) :
    selection.operatorStrategyRevision = destination ∧
      (∃ adoptable, Selected database selection adoptable) ∧
      (database.Traced destination ∨
        ∃ entry ∈ history.combined fun _ ↦ true,
          entry.row.operatorStrategyRevision = destination) := by
  simp only [resolveAdoptionSelection] at h
  obtain ⟨provenance, hread, h⟩ := bind_eq_ok.mp h
  rw [mapError_eq_ok_iff] at hread
  cases provenance with
  | some provenance =>
      obtain ⟨hrevision, hselected⟩ := selected_of_lineage h
      have hkey := (StrategyDatabase.getByOperatorStrategyRevision_eq_some hread).1
      exact ⟨hrevision.trans hkey, hselected, .inl ⟨provenance, hread⟩⟩
  | none =>
      obtain ⟨lineage, hlineage, h⟩ := bind_eq_ok.mp h
      cases lineage with
      | none => cases h
      | some lineage =>
          obtain ⟨hrevision, hselected⟩ := selected_of_lineage h
          refine ⟨hrevision, hselected, .inr ?_⟩
          unfold latestHistoryLineage at hlineage
          dsimp only at hlineage
          split at hlineage
          · cases hlineage
          · rename_i hentries
            obtain ⟨entry, hentry⟩ := List.exists_mem_of_ne_nil _ hentries
            exact mem_combined_of_filtered hentry

theorem selected_of_resolved {operatorStrategyRevision adoptableRevision : Option String}
    (h : resolveAdoptionSelection env database history operatorStrategyRevision adoptableRevision =
      .ok selection) : ∃ adoptable, Selected database selection adoptable := by
  cases operatorStrategyRevision with
  | some operatorStrategyRevision =>
      cases adoptableRevision with
      | some adoptableRevision => cases h
      | none => exact (resolved_of_revision h).2.1
  | none =>
      cases adoptableRevision with
      | none => cases h
      | some adoptableRevision =>
          simp only [resolveAdoptionSelection] at h
          split at h
          · cases h
          · rename_i adoptable hadoptable
            obtain ⟨_, -, h⟩ := bind_eq_ok.mp h
            split at h
            · cases h
            · cases h
              refine ⟨adoptable, _, rfl, ?_, rfl⟩
              rwa [key_of_getAdoptable hadoptable]

theorem traced_of_rollback {mode configured toOperatorStrategyRevision : Option String}
    (h : resolveRollbackSelection env database history mode configured toOperatorStrategyRevision =
      .ok selection) :
    database.Traced selection.operatorStrategyRevision ∨
      ∃ entry ∈ history.combined fun _ ↦ true,
        entry.row.operatorStrategyRevision = selection.operatorStrategyRevision := by
  unfold resolveRollbackSelection at h
  split at h
  · cases h
  · split at h
    · cases h
    · obtain ⟨destination, -, h⟩ := bind_eq_ok.mp h
      obtain ⟨hrevision, -, hfound⟩ := resolved_of_revision h
      rwa [hrevision]

end Resolved

/-! ## What is prepared -/

/-- The revision is configured, or it is in the history. -/
def TargetsWorld.Names (world : TargetsWorld) (revision : String) : Prop :=
  world.plane.config.configuredRevision = some revision ∨
    ∃ entry ∈ world.history.combined fun _ ↦ true, entry.row.operatorStrategyRevision = revision

theorem TargetsWorld.OnlyStore.names_iff (h : world.OnlyStore world') {revision : String} :
    world'.Names revision ↔ world.Names revision := by
  unfold TargetsWorld.Names
  rw [h.config, h.history]

/-- Provenance is kept, and what is named for the first time leads to provenance. -/
structure TargetsWorld.Traces (world world' : TargetsWorld) : Prop where
  keeps : world.Keeps world'
  named : ∀ revision, world'.Names revision →
    world.Names revision ∨ world'.plane.store.database.Traced revision

instance : Std.Refl TargetsWorld.Traces :=
  ⟨fun world ↦ ⟨refl_of TargetsWorld.Keeps world, fun _ hnames ↦ .inl hnames⟩⟩

instance : IsTrans TargetsWorld TargetsWorld.Traces := ⟨by
  intro world world' world'' h h'
  refine ⟨trans_of TargetsWorld.Keeps h.keeps h'.keeps, fun revision hnames ↦ ?_⟩
  rcases h'.named revision hnames with hnames | htraced
  · exact (h.named revision hnames).imp_right fun htraced ↦ htraced.keeps h'.keeps
  · exact .inr htraced⟩

theorem keeps_prepareAdoption {previous : Option String} :
    Within TargetsWorld.Keeps (prepareAdoption call previous selection) :=
  within_prepareAdoption (within_focus_of keepsLog_ensureCanonicalProvenance fun _ _ h ↦ h.keeps)

theorem keeps_prepare : Within TargetsWorld.Keeps (prepare env call) := by
  unfold prepare
  cases call.action with
  | adopt operatorStrategyRevision adoptableRevision =>
      refine within_bind within_validateSelectorFlags fun _ ↦ ?_
      refine within_bind within_loadValidatedConfig fun _ ↦ ?_
      refine within_bind ?_ fun _ ↦ keeps_prepareAdoption
      unfold selectAdoption
      refine within_ite (within_bind keeps_migrateStrategyControl fun _ ↦ within_pure) ?_
      exact within_bind within_io fun _ ↦ within_bind within_get fun _ ↦ within_lift
  | rollback toOperatorStrategyRevision => exact within_prepareRollback

variable {plan : TargetsPlan}

/-- An adoption that is prepared is of the selection; provenance has been ensured for it. -/
theorem ensured_of_prepared {previous : Option String}
    (h : exec (prepareAdoption call previous selection) world = (.ok plan, world')) :
    plan.summary.selection = selection ∧
      exec (ensureCanonicalProvenance selection) world.plane.store =
        (.ok ⟨⟩, world'.plane.store) := by
  simp only [prepareAdoption, exec_bind_eq_ok, exec_get, exec_lift, exec_pure,
    exec_io_eq_ok, exec_focus_eq_ok] at h
  obtain ⟨_, _, ⟨-, rfl⟩, _, _, ⟨⟩, active, _, hactive, _, _, ⟨-, rfl⟩, _, _, ⟨⟩, _, _, ⟨-, rfl⟩,
    _, _, ⟨store, hensured, rfl⟩, _, _, ⟨-, rfl⟩, _, _, ⟨⟩, hreturn⟩ := h
  obtain ⟨-, rfl⟩ := Prod.mk.inj hactive
  cases hreturn
  exact ⟨rfl, hensured⟩

/-- A migration that a call makes leaves provenance for the revision it migrated to. -/
theorem traced_of_migrated {outcome : MigrationOutcome} {plane : ControlPlane}
    (h : exec (migrateLegacyStrategyControl env) world.plane = (.ok outcome, plane)) :
    plane.store.database.Traced outcome.operatorStrategyRevision := by
  obtain ⟨lineage, hholds, hrevision, -⟩ := (migratedTo_of_migrated h).holds
  exact hrevision ▸ ⟨lineage, hholds.read⟩

/-- Preparing a call names no revision but one that was migrated to. -/
theorem traces_prepare : Within TargetsWorld.Traces (prepare env call) := by
  intro world
  refine ⟨keeps_prepare world, fun revision hnames ↦ ?_⟩
  generalize hrun : exec (prepare env call) world = last at hnames ⊢
  obtain ⟨outcome, world'⟩ := last
  by_cases hmigrates : ∃ outcome plane, Migrates env call world outcome plane
  · obtain ⟨migrated, plane, hmigrates⟩ := hmigrates
    rw [exec_prepare_of_migrates hmigrates] at hrun
    have hnames := (onlyStore_prepareAdoption.of_exec hrun).names_iff.mp hnames
    rcases hnames with hconfigured | hlisted
    · have hmigrated := (migratedTo_of_migrated hmigrates.run).config
      dsimp only at hconfigured
      rw [hmigrated, ConfigFile.configuredRevision_rewritten, Option.some_inj] at hconfigured
      rw [← hconfigured]
      exact .inr ((traced_of_migrated hmigrates.run).keeps (keeps_prepareAdoption.of_exec hrun))
    · exact .inl (.inr hlisted)
  · rw [not_exists] at hmigrates
    have honly := (prepare_of_not_migrates (fun outcome ↦ not_exists.mp (hmigrates outcome)) hrun).1
    exact .inl (honly.names_iff.mp hnames)

/-- What is planned leads to provenance, or a rollback found it in the history. -/
theorem traced_of_planned (hrun : exec (prepare env call) world = (.ok plan, world')) :
    world.Names plan.summary.selection.operatorStrategyRevision ∨
      world'.plane.store.database.Traced plan.summary.selection.operatorStrategyRevision := by
  cases haction : call.action with
  | adopt operatorStrategyRevision adoptableRevision =>
      refine .inr ?_
      simp only [prepare, haction, prepareAdopt] at hrun
      obtain ⟨_, _, -, hrun⟩ := exec_bind_eq_ok.mp hrun
      obtain ⟨_, start, -, hrun⟩ := exec_bind_eq_ok.mp hrun
      obtain ⟨selection, middle, hselected, hrun⟩ := exec_bind_eq_ok.mp hrun
      obtain ⟨hplanned, hensured⟩ := ensured_of_prepared hrun
      rw [hplanned]
      unfold selectAdoption at hselected
      split at hselected
      · obtain ⟨outcome, _, hmigrates, hreturn⟩ := exec_bind_eq_ok.mp hselected
        obtain ⟨-, plane, hmigrated, rfl⟩ := exec_migrateStrategyControl_eq_ok.mp hmigrates
        cases hreturn
        exact (traced_of_migrated hmigrated).keeps (keeps_prepareAdoption.of_exec hrun)
      · simp only [exec_bind_eq_ok, exec_io_eq_ok, exec_get, exec_lift] at hselected
        obtain ⟨_, _, ⟨-, rfl⟩, _, _, ⟨⟩, hlifted⟩ := hselected
        obtain ⟨hresolved, rfl⟩ := Prod.mk.inj hlifted
        obtain ⟨adoptable, hadoptable⟩ := selected_of_resolved hresolved
        exact traced_of_ensured hadoptable hensured
  | rollback toOperatorStrategyRevision =>
      simp only [prepare, haction, prepareRollback, exec_bind_eq_ok, exec_get, exec_lift,
        exec_pure, exec_io_eq_ok, exec_loadValidatedConfig_eq_ok] at hrun
      obtain ⟨_, _, ⟨-, -, rfl, rfl⟩, _, _, ⟨-, rfl⟩, _, _, ⟨⟩, selection, _, hlifted, _, _,
        ⟨-, rfl⟩, active, _, hactive, hreturn⟩ := hrun
      obtain ⟨hresolved, rfl⟩ := Prod.mk.inj hlifted
      obtain ⟨-, rfl⟩ := Prod.mk.inj hactive
      obtain ⟨hplan, rfl⟩ := Prod.mk.inj hreturn
      cases hplan
      exact (traced_of_rollback hresolved).symm.imp_left .inr

/-! ## What is carried out -/

/-- The world moves to a revision: it names no other that it did not name before. -/
structure TargetsWorld.MovesTo (revision : String) (world world' : TargetsWorld) : Prop where
  database : world'.plane.store.database = world.plane.store.database
  named : ∀ other, world'.Names other → world.Names other ∨ other = revision

instance (revision : String) : Std.Refl (TargetsWorld.MovesTo revision) :=
  ⟨fun _ ↦ ⟨rfl, fun _ hnames ↦ .inl hnames⟩⟩

instance (revision : String) : IsTrans TargetsWorld (TargetsWorld.MovesTo revision) := ⟨by
  intro world world' world'' h h'
  refine ⟨h'.database.trans h.database, fun other hnames ↦ ?_⟩
  rcases h'.named other hnames with hnames | hmoved
  · exact h.named other hnames
  · exact .inr hmoved⟩

/-- An append adds no row but its own. -/
theorem mem_combined_appendStep {history : AdoptionHistory}
    {row : OperatorStrategyAdoptionHistoryRow} {entry : CombinedEntry}
    (h : entry ∈ (history.appendStep row).combined fun _ ↦ true) :
    entry ∈ (history.combined fun _ ↦ true) ∨ entry.row = row := by
  rcases history.appendStep_cases row with heq | ⟨-, heq⟩
  · rw [heq] at h
    exact .inl h
  · rw [heq] at h
    simp only [AdoptionHistory.combined, List.filter_true, List.map_append, List.mem_append,
      List.map_singleton, List.mem_singleton] at h ⊢
    rcases h with (hold | rfl) | hlegacy
    · exact .inl (.inl hold)
    · exact .inr rfl
    · exact .inl (.inr hlegacy)

theorem movesTo_appendPlanned {revision : String}
    (hrow : ∀ row ∈ plan.row, row.operatorStrategyRevision = revision) :
    Within (TargetsWorld.MovesTo revision) (appendPlanned call plan.row) := by
  cases hplanned : plan.row with
  | none => exact within_pure
  | some row =>
      refine within_bind within_io fun _ ↦ ?_
      refine within_focus_of (S := fun history history' ↦ history' = history.appendStep row)
        (fun history ↦ rfl) fun world history hhistory ↦ ⟨rfl, fun other hnames ↦ ?_⟩
      subst hhistory
      rcases hnames with hconfigured | ⟨entry, hentry, rfl⟩
      · exact .inl (.inl hconfigured)
      · rcases mem_combined_appendStep hentry with hold | hown
        · exact .inl (.inr ⟨entry, hold, rfl⟩)
        · rw [hown]
          exact .inr (hrow row hplanned)

theorem movesTo_rewriteConfig {revision : String} :
    Within (TargetsWorld.MovesTo revision) (rewriteConfig env call revision) := by
  refine within_bind within_io fun _ ↦ ?_
  refine within_focus_of (S := fun config config' ↦ config' = config ∨ config' = .rewritten revision)
    (fun config ↦ ?_) fun world config hconfig ↦ ⟨rfl, fun other hnames ↦ ?_⟩
  · rcases rewrite_cases env.validated revision config with ⟨-, -, hrun⟩ | ⟨error, hrun⟩
    · rw [hrun]
      exact .inr rfl
    · rw [hrun]
      exact .inl rfl
  · rcases hnames with hconfigured | hlisted
    · rcases hconfig with rfl | rfl
      · exact .inl (.inl hconfigured)
      · exact .inr (Option.some.inj hconfigured).symm
    · exact .inl (.inr hlisted)

/-- However a plan is carried out, the world moves to no revision but the planned one. -/
theorem movesTo_carryOut (h : Planned env plan world) :
    Within (TargetsWorld.MovesTo plan.summary.selection.operatorStrategyRevision)
      (carryOut env call plan) := by
  refine within_bind (movesTo_appendPlanned fun row hrow ↦ ?_) fun _ ↦ ?_
  · rcases h.row with ⟨hnone, -⟩ | ⟨planned, hplanned, hrevision, -⟩
    · rw [hnone] at hrow
      cases hrow
    · rw [hplanned] at hrow
      obtain rfl := Option.some.inj hrow
      exact hrevision
  · exact within_ite (within_bind movesTo_rewriteConfig fun _ ↦ within_pure) within_pure

/-! ## Runs -/

/-- Whatever becomes of a call, what it names leads to provenance. -/
theorem traces_perform : Within TargetsWorld.Traces (perform env call) := by
  intro world
  have hprepares : Within TargetsWorld.Traces (prepare env call) := traces_prepare
  have hmiddle := hprepares world
  generalize hprepared : exec (prepare env call) world = prepared at hmiddle
  obtain ⟨outcome, middle⟩ := prepared
  cases outcome with
  | error error =>
      rw [exec_perform_of_error hprepared]
      exact hmiddle
  | ok plan =>
      rw [exec_perform_of_ok hprepared]
      have hcarries : Within (TargetsWorld.MovesTo plan.summary.selection.operatorStrategyRevision)
          (carryOut env call plan) :=
        movesTo_carryOut ((history_of_prepared hprepared).2 plan rfl)
      have hmoves := hcarries middle
      refine ⟨?_, fun revision hnames ↦ ?_⟩
      · unfold TargetsWorld.Keeps
        rw [hmoves.database]
        exact hmiddle.keeps
      · rw [hmoves.database]
        rcases hmoves.named revision hnames with hnames | rfl
        · exact hmiddle.named revision hnames
        · exact traced_of_planned hprepared

end Calls

/-- **Provenance comes first.**  Along any calls, however they fail, provenance that was read is
read again, and a revision that gets configured or into the history leads to its provenance. -/
theorem always_traces (env : TargetsEnv) (world : TargetsWorld) (calls : List TargetsCall) :
    Always (targetsStep env) world.Traces world calls :=
  fun _ _ ↦ run_inv (fun world' _ htraces ↦ trans_of TargetsWorld.Traces htraces
    (traces_perform world')) (refl_of TargetsWorld.Traces world)

end AxiomArb.AppLive
