import AxiomArb.AppLive.VerifySelection
import Mathlib.Data.Set.Basic

/-!
# Windows and the runs they belong to

A window of the past belongs to a session if its attempts are of that session and no other one,
or, where they are of none, if the entries of the journal are.  Then the session is looked at in
place of the window: what it did before the window is looked at as well, and attempts of no
session are not (`explicit_window`).
-/

namespace AxiomArb.AppLive.Verify

open Domain Library Persistence Std

/-! ## The one session of a window -/

/-- The attempts that a window names. -/
def InWindow : VerifyWindowSelection → ExecutionAttemptWithCreatedAtRow → Prop
  | .explicitAttemptId attemptId, row => row.attempt.attemptId = attemptId
  | .explicitSince since, row => since ≤ row.createdAt
  | _, _ => False

/-- The entries of the journal that a window names. -/
def EntryInWindow : VerifyWindowSelection → JournalEntryRow → Prop
  | .explicitSince since, row => since ≤ row.eventTs ∨ since ≤ row.ingestedAt
  | .explicitSeqRange fromSeq toSeq, row =>
      fromSeq ≤ row.journalSeq ∧ ∀ last ∈ toSeq, (row.journalSeq : Int) ≤ last
  | _, _ => False

namespace VerifyDatabase

variable (db : VerifyDatabase) (selection : VerifyWindowSelection)

def attemptSessions : Set String :=
  {id | ∃ row ∈ db.attempts.rows, InWindow selection row ∧ row.attempt.runSessionId = some id}

def entrySessions : Set String :=
  {id | id ≠ "" ∧ ∃ row ∈ db.journal, EntryInWindow selection row ∧ row.sourceSessionId = id}

/-- The attempts of a window are of one session, or of none and its entries are of one that is
recorded. -/
def OnlySession (id : String) : Prop :=
  db.attemptSessions selection = {id} ∨
    db.attemptSessions selection = ∅ ∧ db.entrySessions selection = {id} ∧
      id ∈ db.sessions.map RunSessionRow.runSessionId

end VerifyDatabase

section Sets

variable {ids : BTreeSet String} {id : String}

theorem onlyMember_eq_some_iff : onlyMember ids = some id ↔ {id | id ∈ ids} = {id} := by
  rw [onlyMember, ← ExtTreeSet.length_toList, Set.ext_iff]
  simp only [Set.mem_ofPred_eq, Set.mem_singleton_iff, ← ExtTreeSet.mem_toList]
  have hdistinct : ids.toList.Nodup :=
    ExtTreeSet.distinct_toList.imp fun hne heq ↦ hne (by simp [heq])
  constructor
  · intro h id'
    obtain ⟨hlength, hhead⟩ := Option.ite_none_right_eq_some.mp h
    obtain ⟨only, honly⟩ := List.length_eq_one_iff.mp hlength
    rw [honly, List.head?_cons, Option.some.injEq] at hhead
    rw [honly, List.mem_singleton, hhead]
  · intro h
    have honly : ids.toList = [id] :=
      List.perm_singleton.mp ((List.perm_ext_iff_of_nodup hdistinct (List.nodup_singleton id)).mpr
        fun id' ↦ (h id').trans List.mem_singleton.symm)
    rw [honly]
    rfl

theorem isEmpty_iff_setOf : ids.isEmpty = true ↔ {id | id ∈ ids} = ∅ := by
  rw [ExtTreeSet.isEmpty_iff, Set.eq_empty_iff_forall_notMem]
  constructor
  · rintro rfl id
    exact ExtTreeSet.not_mem_empty
  · intro h
    exact ExtTreeSet.ext_mem fun id ↦ iff_of_false (h id) ExtTreeSet.not_mem_empty

end Sets

section Sessions

variable {db : VerifyDatabase} {selection : VerifyWindowSelection} {id : String}

theorem setOf_attemptSessionIds (rows : List ExecutionAttemptWithCreatedAtRow) :
    {id | id ∈ attemptSessionIds rows} = {id | ∃ row ∈ rows, row.attempt.runSessionId = some id} := by
  ext id
  rw [Set.mem_ofPred_eq, attemptSessionIds, mem_ofList_iff, List.mem_filterMap]
  rfl

theorem setOf_sourceSessionIds (rows : List JournalEntryRow) :
    {id | id ∈ sourceSessionIds rows} = {id | id ≠ "" ∧ ∃ row ∈ rows, row.sourceSessionId = id} := by
  ext id
  rw [Set.mem_ofPred_eq, sourceSessionIds, mem_ofList_iff, List.mem_filter, List.mem_map, and_comm]
  simp

theorem mem_listAttempts {selected : ExecutionAttemptWithCreatedAtRow → Bool}
    {row : ExecutionAttemptWithCreatedAtRow} :
    row ∈ db.listAttempts selected ↔ row ∈ db.attempts.rows ∧ selected row := by
  rw [VerifyDatabase.listAttempts, mem_newestFirst, List.mem_filter]

theorem runSession_isSome_iff :
    (db.runSession id).isSome ↔ id ∈ db.sessions.map RunSessionRow.runSessionId := by
  simp [VerifyDatabase.runSession, List.find?_isSome]

theorem runSessionId_of_runSession {row : RunSessionRow} (h : db.runSession id = some row) :
    row.runSessionId = id := by
  simpa using List.find?_some h

theorem map_bind_runSession_eq_some_iff {found : Option String} :
    (found.bind db.runSession).map (·.runSessionId) = some id ↔
      found = some id ∧ id ∈ db.sessions.map RunSessionRow.runSessionId := by
  rw [Option.map_eq_some_iff]
  constructor
  · rintro ⟨row, hrow, rfl⟩
    obtain ⟨id, rfl, hsession⟩ := Option.bind_eq_some_iff.mp hrow
    rw [runSessionId_of_runSession hsession]
    exact ⟨rfl, runSession_isSome_iff.mp (Option.isSome_of_eq_some hsession)⟩
  · rintro ⟨rfl, hrecorded⟩
    obtain ⟨row, hrow⟩ := Option.isSome_iff_exists.mp (runSession_isSome_iff.mpr hrecorded)
    exact ⟨row, hrow, runSessionId_of_runSession hrow⟩

theorem setOf_listSince (since : DateTime) :
    {id | id ∈ sourceSessionIds (db.listSince since)} = db.entrySessions (.explicitSince since) := by
  rw [setOf_sourceSessionIds, VerifyDatabase.entrySessions]
  simp only [VerifyDatabase.listSince, mem_sortByKey, List.mem_filter, decide_eq_true_iff,
    EntryInWindow, and_assoc]

theorem setOf_listRange (fromSeq : Int) (toSeq : Option Int) :
    {id | id ∈ sourceSessionIds (db.listRange fromSeq toSeq)} =
      db.entrySessions (.explicitSeqRange fromSeq toSeq) := by
  rw [setOf_sourceSessionIds, VerifyDatabase.entrySessions]
  simp only [VerifyDatabase.listRange, mem_sortByKey, List.mem_filter, decide_eq_true_iff,
    EntryInWindow, and_assoc, Option.all_eq_true, Option.mem_def]

theorem setOf_listCreatedSince (since : DateTime) :
    {id | id ∈ attemptSessionIds (db.listCreatedSince since)} =
      db.attemptSessions (.explicitSince since) := by
  rw [setOf_attemptSessionIds, VerifyDatabase.attemptSessions]
  simp only [VerifyDatabase.listCreatedSince, mem_listAttempts, decide_eq_true_iff, InWindow,
    and_assoc]

/-- A window of entries alone has the one session of these. -/
theorem onlySession_iff_of_entries (h : db.attemptSessions selection = ∅) :
    db.OnlySession selection id ↔
      db.entrySessions selection = {id} ∧ id ∈ db.sessions.map RunSessionRow.runSessionId := by
  constructor
  · rintro (hattempts | ⟨-, honly⟩)
    · exact absurd (h.symm.trans hattempts).symm (Set.singleton_ne_empty id)
    · exact honly
  · exact fun honly ↦ .inr ⟨h, honly⟩

/-- A window with a session among its attempts has the one session of these. -/
theorem onlySession_iff_of_attempts (h : db.attemptSessions selection ≠ ∅) :
    db.OnlySession selection id ↔
      db.attemptSessions selection = {id} ∧ id ∈ db.sessions.map RunSessionRow.runSessionId := by
  constructor
  · rintro (hattempts | ⟨hnone, -⟩)
    · -- the foreign key of the attempt
      have hmem : id ∈ db.attemptSessions selection := hattempts ▸ Set.mem_singleton id
      obtain ⟨row, hrow, -, hid⟩ := hmem
      exact ⟨hattempts, db.started row hrow id hid⟩
    · exact absurd hnone h
  · exact fun honly ↦ .inl honly.1

theorem attemptSessions_explicitAttemptId (db : VerifyDatabase) (attemptId : String) :
    db.attemptSessions (.explicitAttemptId attemptId) =
      {id | (db.getByAttemptId attemptId).bind (·.attempt.runSessionId) = some id} := by
  ext id
  simp only [VerifyDatabase.attemptSessions, VerifyDatabase.getByAttemptId, Option.bind_eq_some_iff,
    InsertionTable.get?_eq_some_iff, InWindow, Set.mem_ofPred_eq, and_assoc]

/-- The session that is found for a window is its only one. -/
theorem historicalWindowSession_iff :
    (db.historicalWindowSession selection).map (·.runSessionId) = some id ↔
      db.OnlySession selection id := by
  cases selection with
  | latestForScenario scenario =>
      have hattempts : db.attemptSessions (.latestForScenario scenario) = ∅ :=
        Set.eq_empty_of_forall_notMem fun id ⟨_, _, hwindow, _⟩ ↦ hwindow
      have hentries : db.entrySessions (.latestForScenario scenario) = ∅ :=
        Set.eq_empty_of_forall_notMem fun id ⟨_, _, _, hwindow, _⟩ ↦ hwindow
      rw [onlySession_iff_of_entries hattempts, hentries]
      exact iff_of_false (by simp [VerifyDatabase.historicalWindowSession])
        fun h ↦ Set.singleton_ne_empty id h.1.symm
  | explicitAttemptId attemptId =>
      have hsessions := attemptSessions_explicitAttemptId db attemptId
      rw [VerifyDatabase.historicalWindowSession, VerifyDatabase.resolveUniqueForAttemptId,
        ← Option.bind_assoc, map_bind_runSession_eq_some_iff]
      cases hfound : (db.getByAttemptId attemptId).bind (·.attempt.runSessionId) with
      | none =>
          have hattempts : db.attemptSessions (.explicitAttemptId attemptId) = ∅ := by
            rw [hsessions, hfound]
            exact Set.eq_empty_of_forall_notMem fun id h ↦ by cases h
          have hentries : db.entrySessions (.explicitAttemptId attemptId) = ∅ :=
            Set.eq_empty_of_forall_notMem fun id ⟨_, _, _, hwindow, _⟩ ↦ hwindow
          rw [onlySession_iff_of_entries hattempts, hentries]
          exact iff_of_false (fun h ↦ by cases h.1) fun h ↦ Set.singleton_ne_empty id h.1.symm
      | some found =>
          have hattempts : db.attemptSessions (.explicitAttemptId attemptId) = {found} := by
            rw [hsessions, hfound]
            ext id
            rw [Set.mem_ofPred_eq, Option.some.injEq, Set.mem_singleton_iff, eq_comm]
          have hsome : db.attemptSessions (.explicitAttemptId attemptId) ≠ ∅ := by
            rw [hattempts]
            exact Set.singleton_ne_empty found
          rw [onlySession_iff_of_attempts hsome, hattempts, Set.singleton_eq_singleton_iff,
            Option.some.injEq]
  | explicitSince since =>
      rw [VerifyDatabase.historicalWindowSession, VerifyDatabase.resolveUniqueForSince]
      split
      · rename_i hempty
        have hnone : db.attemptSessions (.explicitSince since) = ∅ := by
          rw [← setOf_listCreatedSince]
          exact isEmpty_iff_setOf.mp hempty
        rw [map_bind_runSession_eq_some_iff, onlyMember_eq_some_iff, setOf_listSince,
          onlySession_iff_of_entries hnone]
      · rename_i hsome
        have hattempts : db.attemptSessions (.explicitSince since) ≠ ∅ := by
          rw [← setOf_listCreatedSince]
          exact fun h ↦ hsome (isEmpty_iff_setOf.mpr h)
        rw [map_bind_runSession_eq_some_iff, onlyMember_eq_some_iff, setOf_listCreatedSince,
          onlySession_iff_of_attempts hattempts]
  | explicitSeqRange fromSeq toSeq =>
      have hattempts : db.attemptSessions (.explicitSeqRange fromSeq toSeq) = ∅ :=
        Set.eq_empty_of_forall_notMem fun id ⟨_, _, hwindow, _⟩ ↦ hwindow
      rw [VerifyDatabase.historicalWindowSession, VerifyDatabase.resolveUniqueForSeqRange,
        map_bind_runSession_eq_some_iff, onlyMember_eq_some_iff, setOf_listRange,
        onlySession_iff_of_entries hattempts]

/-- A window of the past is read by its only session, if it has one. -/
theorem selectedSessionId_iff (h : selection.isHistoricalExplicit = true)
    (runSessionId : Option String) :
    (db.resolveSessionWindow runSessionId selection).selectedSessionId selection = some id ↔
      db.OnlySession selection id := by
  rw [← historicalWindowSession_iff, VerifyDatabase.resolveSessionWindow,
    ResolvedVerifySession.selectedSessionId, if_pos h]
  cases db.historicalWindowSession selection with
  | none => simp [h]
  | some session => simp

end Sessions

/-! ## Rows of attempts -/

section Filing

variable {ν : Type} {attemptId : ν → String} {rows : List ν} {id : String} {row : ν}

theorem filed_iff_mem_getD {filed : BTreeMap String (List ν)} :
    Filed filed id row ↔ row ∈ filed[id]?.getD [] := by
  rw [Filed]
  cases filed[id]? with
  | none => simp
  | some rows => simp

/-- The rows of an attempt are filed under it, and nothing else is. -/
theorem filed_fileByAttempt_iff :
    Filed (fileByAttempt attemptId rows) id row ↔ row ∈ rows ∧ attemptId row = id := by
  rw [filed_iff_mem_getD]
  induction rows using List.reverseRecOn with
  | nil => simp [fileByAttempt]
  | append_singleton rows last ih =>
      have hfold : fileByAttempt attemptId (rows ++ [last]) =
          (fileByAttempt attemptId rows).insert (attemptId last)
            ((fileByAttempt attemptId rows)[attemptId last]?.getD [] ++ [last]) := by
        rw [fileByAttempt, List.foldl_append]
        rfl
      rw [hfold, ExtTreeMap.getElem?_insert, List.mem_append, List.mem_singleton, or_and_right, ← ih]
      by_cases hlast : attemptId last = id
      · subst hlast
        rw [if_pos ReflCmp.compare_self, Option.getD_some, List.mem_append, List.mem_singleton]
        refine or_congr_right (iff_self_and.mpr ?_)
        rintro rfl
        rfl
      · rw [if_neg fun heq ↦ hlast (LawfulEqCmp.compare_eq_iff_eq.mp heq)]
        refine (or_iff_left ?_).symm
        rintro ⟨rfl, hid⟩
        exact hlast hid

end Filing

/-! ## The evidence of a window -/

/-- An attempt of a session. -/
def VerifyDatabase.OfSession (db : VerifyDatabase) (id attemptId : String) : Prop :=
  ∃ row ∈ db.attempts.rows, row.attempt.attemptId = attemptId ∧ row.attempt.runSessionId = some id

/-- Everything that is looked at belongs to attempts of a session. -/
structure VerifyEvidenceWindow.AllOfSession (evidence : VerifyEvidenceWindow) (db : VerifyDatabase)
    (id : String) : Prop where
  attempts : ∀ row ∈ evidence.attempts, db.OfSession id row.attempt.attemptId
  observedLiveAttempts : ∀ row ∈ evidence.observedLiveAttempts, row ∈ evidence.attempts
  observedShadowAttempts : ∀ row ∈ evidence.observedShadowAttempts, row ∈ evidence.attempts
  replayShadowAttemptArtifacts : ∀ replayed ∈ evidence.replayShadowAttemptArtifacts,
    db.OfSession id replayed.attempt.attemptId
  shadowArtifacts : ∀ row ∈ evidence.shadowArtifacts, db.OfSession id row.attemptId
  liveArtifacts : ∀ attemptId row, Filed evidence.liveArtifacts attemptId row →
    row.attemptId = attemptId ∧ db.OfSession id attemptId
  liveSubmissions : ∀ attemptId row, Filed evidence.liveSubmissions attemptId row →
    row.attemptId = attemptId ∧ db.OfSession id attemptId

section Evidence

variable {db : VerifyDatabase} {selection : VerifyWindowSelection} {activeRoutes : List String}
  {id : String} {row : ExecutionAttemptWithCreatedAtRow}

@[simp] theorem mem_filterAttemptsByActiveRoutes {rows : List ExecutionAttemptWithCreatedAtRow} :
    row ∈ filterAttemptsByActiveRoutes rows activeRoutes ↔
      row ∈ rows ∧ routeIsActive row.attempt.route activeRoutes = true := List.mem_filter

theorem mem_selectAttempts_some :
    row ∈ db.selectAttempts selection (some id) activeRoutes ↔
      row ∈ db.attempts.rows ∧ row.attempt.runSessionId = some id ∧
        routeIsActive row.attempt.route activeRoutes = true := by
  rw [VerifyDatabase.selectAttempts, mem_filterAttemptsByActiveRoutes,
    VerifyDatabase.listByRunSessionId, mem_listAttempts, decide_eq_true_iff, and_assoc]

theorem mem_selectAttempts_none (h : selection.isHistoricalExplicit = true) :
    row ∈ db.selectAttempts selection none activeRoutes ↔
      row ∈ db.attempts.rows ∧ InWindow selection row ∧
        routeIsActive row.attempt.route activeRoutes = true := by
  cases selection with
  | latestForScenario scenario => cases h
  | explicitAttemptId attemptId =>
      rw [VerifyDatabase.selectAttempts, mem_filterAttemptsByActiveRoutes, Option.mem_toList,
        VerifyDatabase.getByAttemptId, InsertionTable.get?_eq_some_iff, and_assoc]
      rfl
  | explicitSince since =>
      rw [VerifyDatabase.selectAttempts, mem_filterAttemptsByActiveRoutes,
        VerifyDatabase.listCreatedSince, mem_listAttempts, decide_eq_true_iff, and_assoc]
      rfl
  | explicitSeqRange fromSeq toSeq => exact iff_of_false List.not_mem_nil fun h ↦ h.2.1

theorem mem_selectObservedLiveAttempts_some {attempts : List ExecutionAttemptWithCreatedAtRow}
    (h : row ∈ db.selectObservedLiveAttempts selection (some id) attempts activeRoutes) :
    row ∈ attempts ∧ row.attempt.executionMode = .live := by
  rw [VerifyDatabase.selectObservedLiveAttempts.eq_def, Option.isSome_some, if_pos rfl,
    mem_filterAttemptsByActiveRoutes, List.mem_filter, decide_eq_true_iff] at h
  exact h.1

theorem mem_selectObservedShadowAttempts_some {attempts : List ExecutionAttemptWithCreatedAtRow}
    (h : row ∈ db.selectObservedShadowAttempts selection (some id) attempts activeRoutes) :
    row ∈ attempts ∧ row.attempt.executionMode = .shadow := by
  rw [VerifyDatabase.selectObservedShadowAttempts.eq_def, Option.isSome_some, if_pos rfl,
    mem_filterAttemptsByActiveRoutes, List.mem_filter, decide_eq_true_iff] at h
  exact h.1

theorem mem_loadReplayShadowAttemptArtifacts {attempts : List ExecutionAttemptWithCreatedAtRow}
    {replayed : NegRiskShadowAttemptArtifacts} (hselection : selection.isHistoricalExplicit = true)
    (h : replayed ∈ db.loadReplayShadowAttemptArtifacts selection attempts) :
    replayed.attempt.attemptId ∈ attempts.map (·.attempt.attemptId) := by
  rw [VerifyDatabase.loadReplayShadowAttemptArtifacts] at h
  split at h
  · cases h
  · split_ifs at h with hempty hsmoke
    · rw [hsmoke] at hselection
      cases hselection
    · cases h
    · exact of_decide_eq_true (List.mem_filter.mp h).2

/-- What is read by a session belongs to it. -/
theorem allOfSession_load {resolved : ResolvedVerifySession}
    (h : selection.isHistoricalExplicit = true)
    (hselected : resolved.selectedSessionId selection = some id) :
    (db.load selection resolved activeRoutes).AllOfSession db id := by
  rw [VerifyDatabase.load, hselected]
  set attempts := db.selectAttempts selection (some id) activeRoutes
  set live := db.selectObservedLiveAttempts selection (some id) attempts activeRoutes
  set shadow := db.selectObservedShadowAttempts selection (some id) attempts activeRoutes
  have hof : ∀ row ∈ attempts, db.OfSession id row.attempt.attemptId := by
    intro row hrow
    obtain ⟨hmem, hsession, -⟩ := mem_selectAttempts_some.mp hrow
    exact ⟨row, hmem, rfl, hsession⟩
  have hobservedLive : ∀ row ∈ live, row ∈ attempts := fun row hrow ↦
    (mem_selectObservedLiveAttempts_some hrow).1
  have hobservedShadow : ∀ row ∈ shadow, row ∈ attempts := fun row hrow ↦
    (mem_selectObservedShadowAttempts_some hrow).1
  have hids : ∀ attemptId ∈ (attempts ++ live ++ shadow).map (·.attempt.attemptId),
      db.OfSession id attemptId := by
    intro attemptId hid
    obtain ⟨row, hrow, rfl⟩ := List.mem_map.mp hid
    rw [List.mem_append, List.mem_append] at hrow
    rcases hrow with (hrow | hrow) | hrow
    · exact hof row hrow
    · exact hof row (hobservedLive row hrow)
    · exact hof row (hobservedShadow row hrow)
  refine ⟨hof, hobservedLive, hobservedShadow, ?_, ?_, ?_, ?_⟩
  · intro replayed hreplayed
    obtain ⟨row, hrow, hid⟩ := List.mem_map.mp (mem_loadReplayShadowAttemptArtifacts h hreplayed)
    exact hid ▸ hof row hrow
  · intro row hrow
    exact hids _ (of_decide_eq_true (List.mem_filter.mp (List.mem_mergeSort.mp hrow)).2)
  · intro attemptId row hrow
    obtain ⟨hmem, rfl⟩ := filed_fileByAttempt_iff.mp hrow
    exact ⟨rfl, hids _ (of_decide_eq_true (List.mem_filter.mp (List.mem_mergeSort.mp hmem)).2)⟩
  · intro attemptId row hrow
    obtain ⟨hmem, rfl⟩ := filed_fileByAttempt_iff.mp hrow
    exact ⟨rfl, hids _ (of_decide_eq_true (List.mem_filter.mp hmem).2)⟩

end Evidence

/-- The attempts of a window on active routes are all looked at. -/
def Covers (db : VerifyDatabase) (selection : VerifyWindowSelection) (activeRoutes : List String)
    (evidence : VerifyEvidenceWindow) : Prop :=
  ∀ row ∈ db.attempts.rows, InWindow selection row →
    routeIsActive row.attempt.route activeRoutes = true → row ∈ evidence.attempts

/-- **Windows of the past.**  If a window belongs to one session, the attempts that are looked at
are those of the session, within the window or not, and everything else that is looked at belongs
to them; otherwise they are those of the window.  So the window is covered unless it belongs to a
session and has attempts of none. -/
theorem explicit_window (db : VerifyDatabase) (runSessionId : Option String)
    (selection : VerifyWindowSelection) (activeRoutes : List String)
    (h : selection.isHistoricalExplicit = true) :
    let evidence := db.load selection (db.resolveSessionWindow runSessionId selection) activeRoutes
    (∀ id, db.OnlySession selection id → evidence.AllOfSession db id ∧
      ∀ row, row ∈ evidence.attempts ↔ row ∈ db.attempts.rows ∧
        row.attempt.runSessionId = some id ∧ routeIsActive row.attempt.route activeRoutes = true) ∧
    ((¬ ∃ id, db.OnlySession selection id) → ∀ row, row ∈ evidence.attempts ↔
      row ∈ db.attempts.rows ∧ InWindow selection row ∧
        routeIsActive row.attempt.route activeRoutes = true) ∧
    (Covers db selection activeRoutes evidence ↔
      ((∃ id, db.OnlySession selection id) → ∀ row ∈ db.attempts.rows, InWindow selection row →
        routeIsActive row.attempt.route activeRoutes = true → row.attempt.runSessionId ≠ none)) := by
  intro evidence
  have hsession : ∀ id, db.OnlySession selection id → evidence.AllOfSession db id ∧
      ∀ row, row ∈ evidence.attempts ↔ row ∈ db.attempts.rows ∧
        row.attempt.runSessionId = some id ∧
          routeIsActive row.attempt.route activeRoutes = true := by
    intro id honly
    have hselected := (selectedSessionId_iff h runSessionId).mpr honly
    refine ⟨allOfSession_load h hselected, fun row ↦ ?_⟩
    show row ∈ db.selectAttempts _ _ _ ↔ _
    rw [hselected, mem_selectAttempts_some]
  have hwindow : (¬ ∃ id, db.OnlySession selection id) → ∀ row, row ∈ evidence.attempts ↔
      row ∈ db.attempts.rows ∧ InWindow selection row ∧
        routeIsActive row.attempt.route activeRoutes = true := by
    intro hnone row
    have hselected :
        (db.resolveSessionWindow runSessionId selection).selectedSessionId selection = none :=
      Option.eq_none_iff_forall_ne_some.mpr fun id hid ↦
        hnone ⟨id, (selectedSessionId_iff h runSessionId).mp hid⟩
    show row ∈ db.selectAttempts _ _ _ ↔ _
    rw [hselected, mem_selectAttempts_none h]
  refine ⟨hsession, hwindow, ?_⟩
  by_cases hexists : ∃ id, db.OnlySession selection id
  · obtain ⟨id, honly⟩ := hexists
    constructor
    · intro hcovers _ row hrow hin hactive
      obtain ⟨-, hid, -⟩ := ((hsession id honly).2 row).mp (hcovers row hrow hin hactive)
      rw [hid]
      exact Option.some_ne_none id
    · intro hsome row hrow hin hactive
      obtain ⟨id', hid'⟩ := Option.ne_none_iff_exists'.mp (hsome ⟨id, honly⟩ row hrow hin hactive)
      have hmem : id' ∈ db.attemptSessions selection := ⟨row, hrow, hin, hid'⟩
      have hsame : id' = id := by
        rcases honly with hall | ⟨hnone, -⟩
        · rw [hall] at hmem
          exact hmem
        · rw [hnone] at hmem
          exact absurd hmem (Set.notMem_empty id')
      exact ((hsession id honly).2 row).mpr ⟨hrow, hsame ▸ hid', hactive⟩
  · refine iff_of_true ?_ fun hsome ↦ absurd hsome hexists
    intro row hrow hin hactive
    exact (hwindow hexists row).mpr ⟨hrow, hin, hactive⟩

def sampleWindowAttempt (attemptId : String) (runSessionId : Option String) :
    ExecutionAttemptWithCreatedAtRow :=
  { attempt :=
      { attemptId, planId := "plan-1", snapshotId := "snapshot-7", route := "neg-risk"
        scope := "family-a", matchedRuleId := none, executionMode := .shadow, attemptNo := 1
        idempotencyKey := "plan-1", runSessionId }
    createdAt := 60 }

def sampleWindowSession : RunSessionRow :=
  { runSessionId := "run-1", invokedBy := "run", mode := "live", state := .running, startedAt := 0
    lastSeenAt := 0, endedAt := none, exitStatus := none, exitReason := none
    configPath := "live.toml", configFingerprint := "fingerprint", targetSourceKind := "adopted"
    startupTargetRevisionAtStart := "rev-1", configuredOperatorTargetRevision := none
    activeOperatorTargetRevisionAtStart := none
    configuredOperatorStrategyRevision := some "rev-1"
    activeOperatorStrategyRevisionAtStart := some "rev-1", rolloutStateAtStart := none
    realUserShadowSmoke := true }

def sampleWindowAttempts : List ExecutionAttemptWithCreatedAtRow :=
  [sampleWindowAttempt "attempt-1" (some "run-1"), sampleWindowAttempt "attempt-2" none]

theorem nodup_sampleWindowAttempts :
    (sampleWindowAttempts.map fun row ↦ row.attempt.attemptId).Nodup := by decide

theorem started_sampleWindowAttempts :
    ∀ row ∈ sampleWindowAttempts, ∀ id ∈ row.attempt.runSessionId,
      id ∈ [sampleWindowSession].map RunSessionRow.runSessionId := by
  intro row hrow id hid
  rcases List.mem_pair.mp hrow with rfl | rfl
  · obtain rfl : "run-1" = id := Option.some.inj hid
    exact List.mem_singleton_self _
  · cases hid

/-- An attempt of a run, and one that was made by none. -/
def sampleWindowDatabase : VerifyDatabase :=
  { attempts := ⟨sampleWindowAttempts, nodup_sampleWindowAttempts⟩
    sessions := [sampleWindowSession]
    journal := []
    shadowArtifacts := []
    liveArtifacts := []
    liveSubmissions := []
    replayed := .ok []
    started := started_sampleWindowAttempts }

theorem onlySession_sampleWindow :
    sampleWindowDatabase.OnlySession (.explicitSince 30) "run-1" := by
  refine .inl (Set.eq_singleton_iff_unique_mem.mpr ⟨?_, ?_⟩)
  · exact ⟨_, List.mem_cons_self, show (30 : Int) ≤ 60 by decide, rfl⟩
  · rintro id ⟨row, hrow, -, hid⟩
    rcases List.mem_pair.mp hrow with rfl | rfl
    · exact (Option.some.inj hid).symm
    · cases hid

/-- The attempt that was made by no run is not looked at. -/
theorem explicit_window_dropped :
    ¬ Covers sampleWindowDatabase (.explicitSince 30) ["neg-risk"]
      (sampleWindowDatabase.load (.explicitSince 30)
        (sampleWindowDatabase.resolveSessionWindow none (.explicitSince 30)) ["neg-risk"]) := by
  rw [(explicit_window sampleWindowDatabase none (.explicitSince 30) ["neg-risk"] rfl).2.2]
  intro h
  exact h ⟨"run-1", onlySession_sampleWindow⟩ (sampleWindowAttempt "attempt-2" none)
    (List.mem_cons_of_mem _ List.mem_cons_self) (show (30 : Int) ≤ 60 by decide) (by decide) rfl

end AxiomArb.AppLive.Verify
