import AxiomArb.AppLive.VerifyCoverage

/-!
# The latest rows of a scenario

Where no run is known, a verification looks at the latest attempts of its scenario, which are
listed route by route and scope by scope.  Whatever the routes are and however often they are
named, the listings come to the rows that have few newer ones beside them (`latest_window`).
-/

namespace AxiomArb.AppLive.Verify

open Domain Library Persistence
open Std (ExtTreeMap LawfulEqCmp)

variable {db : VerifyDatabase} {activeRoutes : List String} {mode : ExecutionMode}
  {row row' : ExecutionAttemptWithCreatedAtRow}

/-! ## Ranks -/

theorem attemptId_of_attemptRank (h : attemptRank row = attemptRank row') :
    row.attempt.attemptId = row'.attempt.attemptId := congrArg (fun rank ↦ (ofLex rank).2) h

theorem attemptRank_lt_iff : attemptRank row < attemptRank row' ↔
    row.createdAt < row'.createdAt ∨
      row'.createdAt = row.createdAt ∧ row.attempt.attemptId < row'.attempt.attemptId := by
  rw [attemptRank, attemptRank, Prod.Lex.toLex_lt_toLex, eq_comm]

theorem eq_of_attemptId (hrow : row ∈ db.attempts.rows) (hrow' : row' ∈ db.attempts.rows)
    (h : row.attempt.attemptId = row'.attempt.attemptId) : row = row' :=
  List.inj_on_of_nodup_map db.attempts.distinct hrow hrow' h

theorem nodup_attemptRank (db : VerifyDatabase) (selected : ExecutionAttemptWithCreatedAtRow → Bool) :
    ((db.attempts.rows.filter selected).map attemptRank).Nodup := by
  have hids : ((db.attempts.rows.filter selected).map fun row ↦ row.attempt.attemptId).Nodup :=
    (List.filter_sublist.map _).nodup db.attempts.distinct
  refine List.Nodup.of_map (fun rank ↦ (ofLex rank).2) ?_
  rw [List.map_map]
  exact hids

/-! ## The newest of each route -/

namespace VerifyDatabase

/-- An attempt of a mode on an active route. -/
structure Active (db : VerifyDatabase) (mode : ExecutionMode) (activeRoutes : List String)
    (row : ExecutionAttemptWithCreatedAtRow) : Prop where
  mem : row ∈ db.attempts.rows
  mode : row.attempt.executionMode = mode
  route : routeIsActive row.attempt.route activeRoutes = true

/-- The newer attempts of the mode, on the same route if there are active routes. -/
def newer (db : VerifyDatabase) (mode : ExecutionMode) (activeRoutes : List String)
    (row : ExecutionAttemptWithCreatedAtRow) : List ExecutionAttemptWithCreatedAtRow :=
  db.attempts.rows.filter fun other ↦ attemptRank row < attemptRank other ∧
    other.attempt.executionMode = mode ∧
      (activeRoutes = [] ∨ other.attempt.route = row.attempt.route)

end VerifyDatabase

theorem routeIsActive_iff {route : String} :
    routeIsActive route activeRoutes = true ↔ activeRoutes = [] ∨ route ∈ activeRoutes := by
  simp [routeIsActive]

theorem mem_listRecentByMode {limit : Nat} :
    row ∈ db.listRecentByMode (some mode) limit ↔
      db.Active mode [] row ∧ (db.newer mode [] row).length < limit := by
  rw [VerifyDatabase.listRecentByMode, VerifyDatabase.listRecentAttempts,
    mem_newest (nodup_attemptRank db _), List.mem_filter, List.filter_filter, VerifyDatabase.newer]
  simp only [Option.all_some, decide_eq_true_iff, true_or, and_true, Bool.decide_and]
  refine and_congr_left fun _ ↦ ?_
  constructor
  · rintro ⟨hmem, hmode⟩
    exact ⟨hmem, hmode, rfl⟩
  · rintro ⟨hmem, hmode, -⟩
    exact ⟨hmem, hmode⟩

theorem mem_listRecentByModeAndRoute (hne : activeRoutes ≠ []) {route : String} {limit : Nat} :
    row ∈ db.listRecentByModeAndRoute mode route limit ↔
      row ∈ db.attempts.rows ∧ row.attempt.executionMode = mode ∧ row.attempt.route = route ∧
        (db.newer mode activeRoutes row).length < limit := by
  rw [VerifyDatabase.listRecentByModeAndRoute, VerifyDatabase.listRecentAttempts,
    mem_newest (nodup_attemptRank db _), List.mem_filter, List.filter_filter, VerifyDatabase.newer,
    decide_eq_true_iff, and_assoc, and_assoc]
  refine and_congr_right fun _ ↦ and_congr_right fun _ ↦ and_congr_right fun hroute ↦ ?_
  simp only [hne, false_or, hroute, Bool.decide_and]

/-- Listings of several routes, merged, have the rows of all of them. -/
theorem mem_sortAndDedupAttempts {listing : String → List ExecutionAttemptWithCreatedAtRow}
    (h : ∀ route, ∀ row ∈ listing route, row ∈ db.attempts.rows) :
    row ∈ sortAndDedupAttempts (activeRoutes.flatMap listing) ↔
      ∃ route ∈ activeRoutes, row ∈ listing route := by
  have hrows : ∀ row ∈ activeRoutes.flatMap listing, row ∈ db.attempts.rows := by
    intro row hrow
    obtain ⟨route, -, hlisted⟩ := List.mem_flatMap.mp hrow
    exact h route row hlisted
  rw [sortAndDedupAttempts, mem_merged, List.mem_flatMap]
  intro row hrow row' hrow' hid
  exact eq_of_attemptId (hrows row hrow) (hrows row' hrow') hid

/-- A row is listed if it has fewer newer ones than the limit. -/
theorem mem_listRecentByModeForActiveRoutes {limit : Nat} :
    row ∈ db.listRecentByModeForActiveRoutes mode activeRoutes limit ↔
      db.Active mode activeRoutes row ∧ (db.newer mode activeRoutes row).length < limit := by
  rw [VerifyDatabase.listRecentByModeForActiveRoutes]
  split
  · rename_i hempty
    obtain rfl := List.isEmpty_iff.mp hempty
    exact mem_listRecentByMode
  · rename_i hsome
    have hne : activeRoutes ≠ [] := fun hnil ↦ hsome (List.isEmpty_iff.mpr hnil)
    rw [mem_sortAndDedupAttempts fun route row hrow ↦ ((mem_listRecentByModeAndRoute hne).mp hrow).1]
    simp only [mem_listRecentByModeAndRoute hne]
    constructor
    · rintro ⟨route, hroute, hmem, hmode, rfl, hfew⟩
      exact ⟨⟨hmem, hmode, routeIsActive_iff.mpr (.inr hroute)⟩, hfew⟩
    · rintro ⟨⟨hmem, hmode, hactive⟩, hfew⟩
      exact ⟨row.attempt.route, (routeIsActive_iff.mp hactive).resolve_left hne, hmem, hmode, rfl,
        hfew⟩

theorem mem_listByModeWithCreatedAtForActiveRoutes :
    row ∈ db.listByModeWithCreatedAtForActiveRoutes mode activeRoutes ↔
      db.Active mode activeRoutes row := by
  rw [VerifyDatabase.listByModeWithCreatedAtForActiveRoutes]
  split
  · rename_i hempty
    obtain rfl := List.isEmpty_iff.mp hempty
    rw [VerifyDatabase.listByModeWithCreatedAt, mem_listAttempts, decide_eq_true_iff]
    constructor
    · rintro ⟨hmem, hmode⟩
      exact ⟨hmem, hmode, rfl⟩
    · rintro ⟨hmem, hmode, -⟩
      exact ⟨hmem, hmode⟩
  · rename_i hsome
    have hne : activeRoutes ≠ [] := fun hnil ↦ hsome (List.isEmpty_iff.mpr hnil)
    have hlisted : ∀ route row, row ∈ db.listByModeWithCreatedAtAndRoute mode route ↔
        row ∈ db.attempts.rows ∧ row.attempt.executionMode = mode ∧ row.attempt.route = route := by
      intro route row
      rw [VerifyDatabase.listByModeWithCreatedAtAndRoute, mem_listAttempts, decide_eq_true_iff]
    rw [mem_sortAndDedupAttempts fun route row hrow ↦ ((hlisted route row).mp hrow).1]
    simp only [hlisted]
    constructor
    · rintro ⟨route, hroute, hmem, hmode, rfl⟩
      exact ⟨hmem, hmode, routeIsActive_iff.mpr (.inr hroute)⟩
    · rintro ⟨hmem, hmode, hactive⟩
      exact ⟨row.attempt.route, (routeIsActive_iff.mp hactive).resolve_left hne, hmem, hmode, rfl⟩

theorem pairwise_listRecentByModeForActiveRoutes (db : VerifyDatabase) (mode : ExecutionMode)
    (activeRoutes : List String) (limit : Nat) :
    (db.listRecentByModeForActiveRoutes mode activeRoutes limit).Pairwise fun row row' ↦
      attemptRank row' < attemptRank row := by
  rw [VerifyDatabase.listRecentByModeForActiveRoutes]
  split
  · exact (pairwise_lt_newestFirst (nodup_attemptRank db _)).sublist (List.take_sublist _ _)
  · exact pairwise_merged fun row row' ↦ attemptId_of_attemptRank

/-! ## The latest smoke run -/

/-- The newest attempt of a mode on the active routes. -/
def VerifyDatabase.Newest (db : VerifyDatabase) (mode : ExecutionMode) (activeRoutes : List String)
    (row : ExecutionAttemptWithCreatedAtRow) : Prop :=
  db.Active mode activeRoutes row ∧
    ∀ other, db.Active mode activeRoutes other → attemptRank other ≤ attemptRank row

theorem VerifyDatabase.Newest.unique (h : db.Newest mode activeRoutes row)
    (h' : db.Newest mode activeRoutes row') : row = row' :=
  eq_of_attemptId h.1.mem h'.1.mem
    (attemptId_of_attemptRank (le_antisymm (h'.2 row h.1) (h.2 row' h'.1)))

theorem newer_lt_one_iff : (db.newer mode activeRoutes row).length < 1 ↔
    ∀ other ∈ db.attempts.rows, other.attempt.executionMode = mode →
      (activeRoutes = [] ∨ other.attempt.route = row.attempt.route) →
        attemptRank other ≤ attemptRank row := by
  rw [Nat.lt_one_iff, List.length_eq_zero_iff, VerifyDatabase.newer, List.filter_eq_nil_iff]
  simp only [decide_eq_true_iff, not_and]
  refine forall₂_congr fun other _ ↦ ?_
  constructor
  · intro h hmode hroute
    exact le_of_not_gt fun hlt ↦ h hlt hmode hroute
  · intro h hlt hmode hroute
    exact absurd (h hmode hroute) hlt.not_ge

/-- Beside every row there is one that has no newer one. -/
theorem exists_unsurpassed (h : db.Active mode activeRoutes row) :
    ∃ best, db.Active mode activeRoutes best ∧ (db.newer mode activeRoutes best).length < 1 ∧
      attemptRank row ≤ attemptRank best := by
  let beside := db.attempts.rows.filter fun other ↦ other.attempt.executionMode = mode ∧
    (activeRoutes = [] ∨ other.attempt.route = row.attempt.route)
  have hbeside : ∀ other, other ∈ beside ↔ other ∈ db.attempts.rows ∧
      other.attempt.executionMode = mode ∧
        (activeRoutes = [] ∨ other.attempt.route = row.attempt.route) := fun other ↦ by
    rw [List.mem_filter, decide_eq_true_iff]
  obtain ⟨best, hbest, hhighest⟩ :=
    exists_highest attemptRank ((hbeside row).mpr ⟨h.mem, h.mode, .inr rfl⟩)
  obtain ⟨hmem, hmode, hroute⟩ := (hbeside best).mp hbest
  refine ⟨best, ⟨hmem, hmode, ?_⟩, newer_lt_one_iff.mpr fun other hother hothermode hsame ↦ ?_,
    hhighest row ((hbeside row).mpr ⟨h.mem, h.mode, .inr rfl⟩)⟩
  · rcases hroute with hnil | hroute
    · exact routeIsActive_iff.mpr (.inl hnil)
    · exact hroute ▸ h.route
  · refine hhighest other ((hbeside other).mpr ⟨hother, hothermode, ?_⟩)
    rcases hsame with hnil | hsame
    · exact .inl hnil
    · exact hroute.imp_right hsame.trans

/-- The newest row of each route, merged, are led by the newest of all. -/
theorem head?_listRecentByModeForActiveRoutes :
    (db.listRecentByModeForActiveRoutes mode activeRoutes 1).head? = some row ↔
      db.Newest mode activeRoutes row := by
  rw [head?_eq_some_iff_of_descending (pairwise_listRecentByModeForActiveRoutes db mode activeRoutes 1),
    VerifyDatabase.Newest]
  simp only [mem_listRecentByModeForActiveRoutes]
  constructor
  · rintro ⟨⟨hactive, -⟩, hhighest⟩
    refine ⟨hactive, fun other hother ↦ ?_⟩
    obtain ⟨best, hbest, hfew, hle⟩ := exists_unsurpassed hother
    exact hle.trans (hhighest best ⟨hbest, hfew⟩)
  · rintro ⟨hactive, hhighest⟩
    refine ⟨⟨hactive, newer_lt_one_iff.mpr fun other hother hmode hroute ↦ ?_⟩,
      fun other hother ↦ hhighest other hother.1⟩
    refine hhighest other ⟨hother, hmode, routeIsActive_iff.mpr ?_⟩
    rcases routeIsActive_iff.mp hactive.route with hnil | hmem
    · exact .inl hnil
    · rcases hroute with hnil | hsame
      · exact .inl hnil
      · exact .inr (hsame ▸ hmem)

/-! ## The newest of each scope -/

/-- The latest row of a scope, or none if the scope has no rows. -/
def LatestIn (rows : List ExecutionAttemptWithCreatedAtRow) (scope : String) :
    Option ExecutionAttemptWithCreatedAtRow → Prop
  | none => ∀ row ∈ rows, row.attempt.scope ≠ scope
  | some row => (row ∈ rows ∧ row.attempt.scope = scope) ∧
      ∀ other ∈ rows, other.attempt.scope = scope → attemptRank other ≤ attemptRank row

theorem LatestIn.concat_of_ne {rows : List ExecutionAttemptWithCreatedAtRow} {scope : String}
    {found : Option ExecutionAttemptWithCreatedAtRow} (h : LatestIn rows scope found)
    (hne : row.attempt.scope ≠ scope) : LatestIn (rows ++ [row]) scope found := by
  have hlast : ∀ other ∈ rows ++ [row], other.attempt.scope = scope → other ∈ rows := by
    intro other hother hscope
    rcases List.mem_append.mp hother with hmem | hlast
    · exact hmem
    · exact absurd (List.mem_singleton.mp hlast ▸ hscope) hne
  cases found with
  | none => exact fun other hother hscope ↦ h other (hlast other hother hscope) hscope
  | some found =>
      exact ⟨⟨List.mem_append_left _ h.1.1, h.1.2⟩,
        fun other hother hscope ↦ h.2 other (hlast other hother hscope) hscope⟩

/-- A row that is newer than the rows of its scope so far. -/
theorem latestIn_concat {rows : List ExecutionAttemptWithCreatedAtRow}
    (h : ∀ other ∈ rows, other.attempt.scope = row.attempt.scope →
      attemptRank other ≤ attemptRank row) :
    LatestIn (rows ++ [row]) row.attempt.scope (some row) := by
  refine ⟨⟨List.mem_append_right _ List.mem_cons_self, rfl⟩, fun other hother hscope ↦ ?_⟩
  rcases List.mem_append.mp hother with hmem | hlast
  · exact h other hmem hscope
  · exact List.mem_singleton.mp hlast ▸ le_rfl

/-- The step of the fold. -/
theorem latestIn_keepLatest {rows : List ExecutionAttemptWithCreatedAtRow} {scope : String}
    {kept : BTreeMap String ExecutionAttemptWithCreatedAtRow} (h : LatestIn rows scope kept[scope]?) :
    LatestIn (rows ++ [row]) scope (keepLatest kept row)[scope]? := by
  by_cases hscope : row.attempt.scope = scope
  · subst hscope
    rw [keepLatest]
    cases hfound : kept[row.attempt.scope]? with
    | none =>
        rw [hfound] at h
        rw [ExtTreeMap.getElem?_insert_self]
        exact latestIn_concat fun other hother hscope ↦ absurd hscope (h other hother)
    | some existing =>
        rw [hfound] at h
        dsimp only
        split
        · rename_i hnewer
          have hlt : attemptRank existing < attemptRank row := attemptRank_lt_iff.mpr hnewer
          rw [ExtTreeMap.getElem?_insert_self]
          exact latestIn_concat fun other hother hscope ↦ (h.2 other hother hscope).trans hlt.le
        · rename_i hnot
          have hle : attemptRank row ≤ attemptRank existing :=
            le_of_not_gt fun hlt ↦ hnot (attemptRank_lt_iff.mp hlt)
          rw [hfound]
          refine ⟨⟨List.mem_append_left _ h.1.1, h.1.2⟩, fun other hother hscope ↦ ?_⟩
          rcases List.mem_append.mp hother with hmem | hlast
          · exact h.2 other hmem hscope
          · exact List.mem_singleton.mp hlast ▸ hle
  · have hsame : (keepLatest kept row)[scope]? = kept[scope]? := by
      have hinsert : (kept.insert row.attempt.scope row)[scope]? = kept[scope]? := by
        rw [ExtTreeMap.getElem?_insert, if_neg fun heq ↦ hscope (LawfulEqCmp.compare_eq_iff_eq.mp heq)]
      rw [keepLatest]
      split
      · exact hinsert
      · split_ifs
        · exact hinsert
        · rfl
    rw [hsame]
    exact h.concat_of_ne hscope

/-- Of the rows of each scope the latest is kept. -/
theorem latestIn_foldl_keepLatest (rows : List ExecutionAttemptWithCreatedAtRow) (scope : String) :
    LatestIn rows scope (rows.foldl keepLatest ∅)[scope]? := by
  induction rows using List.reverseRecOn with
  | nil =>
      rw [List.foldl_nil, ExtTreeMap.getElem?_empty]
      exact fun row hrow ↦ by cases hrow
  | append_singleton rows row ih =>
      rw [List.foldl_append]
      exact latestIn_keepLatest ih

/-- The values of the map are the latest rows of their scopes. -/
theorem mem_foldl_keepLatest {rows : List ExecutionAttemptWithCreatedAtRow}
    (h : ∀ row ∈ rows, row ∈ db.attempts.rows) :
    row ∈ (rows.foldl keepLatest ∅).toList.map (·.2) ↔
      row ∈ rows ∧ ∀ other ∈ rows, other.attempt.scope = row.attempt.scope →
        attemptRank other ≤ attemptRank row := by
  rw [List.mem_map]
  constructor
  · rintro ⟨⟨scope, kept⟩, hkept, rfl⟩
    have hlatest := latestIn_foldl_keepLatest rows scope
    rw [ExtTreeMap.mem_toList_iff_getElem?_eq_some.mp hkept] at hlatest
    obtain ⟨⟨hmem, rfl⟩, hall⟩ := hlatest
    exact ⟨hmem, hall⟩
  · rintro ⟨hmem, hall⟩
    have hlatest := latestIn_foldl_keepLatest rows row.attempt.scope
    cases hkept : (rows.foldl keepLatest ∅)[row.attempt.scope]? with
    | none =>
        rw [hkept] at hlatest
        exact absurd rfl (hlatest row hmem)
    | some kept =>
        rw [hkept] at hlatest
        obtain ⟨⟨hkeptMem, hscope⟩, hkeptAll⟩ := hlatest
        have hrank := le_antisymm (hall kept hkeptMem hscope) (hkeptAll row hmem rfl)
        have hsame : kept = row :=
          eq_of_attemptId (h kept hkeptMem) (h row hmem) (attemptId_of_attemptRank hrank)
        exact ⟨(row.attempt.scope, kept), ExtTreeMap.mem_toList_iff_getElem?_eq_some.mpr hkept,
          hsame⟩

/-! ## What is looked at -/

namespace VerifyDatabase

variable (db : VerifyDatabase) (activeRoutes : List String)

/-- A shadow attempt of the run that made the newest one. -/
structure OfSmokeRun (newest row : ExecutionAttemptWithCreatedAtRow) : Prop where
  active : db.Active .shadow activeRoutes row
  snapshotId : row.attempt.snapshotId = newest.attempt.snapshotId

def Recent (mode : ExecutionMode) (row : ExecutionAttemptWithCreatedAtRow) : Prop :=
  db.Active mode activeRoutes row ∧
    (db.newer mode activeRoutes row).length < DEFAULT_RECENT_ATTEMPTS_LIMIT

/-- The attempts of a scenario. -/
def IsLatest (row : ExecutionAttemptWithCreatedAtRow) : VerifyScenario → Prop
  | .paper => False
  | .live => db.Recent activeRoutes .live row
  | .realUserShadowSmoke => ∃ newest, db.Newest .shadow activeRoutes newest ∧
      db.OfSmokeRun activeRoutes newest row ∧ ∀ other, db.OfSmokeRun activeRoutes newest other →
        other.attempt.scope = row.attempt.scope → attemptRank other ≤ attemptRank row

/-- The live attempts that a scenario should not have. -/
def IsObservedLive (row : ExecutionAttemptWithCreatedAtRow) : VerifyScenario → Prop
  | .paper => db.Recent activeRoutes .live row
  | .live => False
  | .realUserShadowSmoke => db.Active .live activeRoutes row

/-- The shadow attempts that a scenario should not have. -/
def IsObservedShadow (row : ExecutionAttemptWithCreatedAtRow) : VerifyScenario → Prop
  | .live => db.Recent activeRoutes .shadow row
  | .paper | .realUserShadowSmoke => False

end VerifyDatabase

theorem recent_iff : row ∈ filterAttemptsByActiveRoutes
    (db.listRecentByModeForActiveRoutes mode activeRoutes DEFAULT_RECENT_ATTEMPTS_LIMIT)
      activeRoutes ↔ db.Recent activeRoutes mode row := by
  rw [mem_filterAttemptsByActiveRoutes, mem_listRecentByModeForActiveRoutes]
  exact and_iff_left_of_imp fun h ↦ h.1.route

theorem mem_selectLatestSmokeRunAttempts {newest : ExecutionAttemptWithCreatedAtRow}
    (h : db.Newest .shadow activeRoutes newest) (row : ExecutionAttemptWithCreatedAtRow) :
    row ∈ (db.selectLatestSmokeRunAttempts activeRoutes).filter (·.attempt.executionMode = .shadow) ↔
      db.OfSmokeRun activeRoutes newest row := by
  have hhead := head?_listRecentByModeForActiveRoutes.mpr h
  rw [VerifyDatabase.selectLatestSmokeRunAttempts, hhead, List.mem_filter, decide_eq_true_iff]
  dsimp only
  rw [mem_filterAttemptsByActiveRoutes, VerifyDatabase.listBySnapshotId, mem_listAttempts,
    decide_eq_true_iff]
  constructor
  · rintro ⟨⟨⟨hmem, hsnapshot⟩, hactive⟩, hmode⟩
    exact ⟨⟨hmem, hmode, hactive⟩, hsnapshot⟩
  · rintro ⟨⟨hmem, hmode, hactive⟩, hsnapshot⟩
    exact ⟨⟨⟨hmem, hsnapshot⟩, hactive⟩, hmode⟩

theorem mem_of_selectLatestSmokeRunAttempts (h : row ∈ db.selectLatestSmokeRunAttempts activeRoutes) :
    row ∈ db.attempts.rows := by
  rw [VerifyDatabase.selectLatestSmokeRunAttempts] at h
  split at h
  · cases h
  · exact (mem_listAttempts.mp (mem_filterAttemptsByActiveRoutes.mp h).1).1

theorem mem_selectLatestAttemptsForScenario {scenario : VerifyScenario} :
    row ∈ db.selectLatestAttemptsForScenario scenario activeRoutes ↔
      db.IsLatest activeRoutes row scenario := by
  cases scenario with
  | paper => exact iff_of_false List.not_mem_nil id
  | live => exact recent_iff
  | realUserShadowSmoke =>
      rw [VerifyDatabase.selectLatestAttemptsForScenario]
      by_cases hexists : ∃ newest, db.Newest .shadow activeRoutes newest
      · obtain ⟨newest, hnewest⟩ := hexists
        have hrun := mem_selectLatestSmokeRunAttempts hnewest
        rw [mem_foldl_keepLatest fun row hrow ↦ ((hrun row).mp hrow).active.mem]
        simp only [hrun]
        constructor
        · rintro ⟨hof, hlatest⟩
          exact ⟨newest, hnewest, hof, hlatest⟩
        · rintro ⟨newest', hnewest', hof, hlatest⟩
          obtain rfl : newest = newest' := hnewest.unique hnewest'
          exact ⟨hof, hlatest⟩
      · have hnone : (db.listRecentByModeForActiveRoutes .shadow activeRoutes 1).head? = none :=
          Option.eq_none_iff_forall_ne_some.mpr fun newest hnewest ↦
            hexists ⟨newest, head?_listRecentByModeForActiveRoutes.mp hnewest⟩
        rw [VerifyDatabase.selectLatestSmokeRunAttempts, hnone]
        exact iff_of_false (by simp) fun ⟨newest, hnewest, _⟩ ↦ hexists ⟨newest, hnewest⟩

theorem nodup_attemptIds {rows : List ExecutionAttemptWithCreatedAtRow} (hnodup : rows.Nodup)
    (h : ∀ row ∈ rows, row ∈ db.attempts.rows) : (rows.map (·.attempt.attemptId)).Nodup :=
  hnodup.map_on fun row hrow row' hrow' hid ↦ eq_of_attemptId (h row hrow) (h row' hrow') hid

theorem nodup_selectLatestAttemptsForScenario (db : VerifyDatabase) (activeRoutes : List String)
    (scenario : VerifyScenario) :
    ((db.selectLatestAttemptsForScenario scenario activeRoutes).map (·.attempt.attemptId)).Nodup := by
  cases scenario with
  | paper => exact List.nodup_nil
  | live =>
      have hpairwise := pairwise_listRecentByModeForActiveRoutes db .live activeRoutes
        DEFAULT_RECENT_ATTEMPTS_LIMIT
      have hnodup := (hpairwise.imp fun hlt heq ↦ absurd (heq ▸ hlt) (lt_irrefl _) :
        (db.listRecentByModeForActiveRoutes .live activeRoutes
          DEFAULT_RECENT_ATTEMPTS_LIMIT).Nodup)
      exact nodup_attemptIds (hnodup.sublist List.filter_sublist) fun row hrow ↦
        (recent_iff.mp hrow).1.mem
  | realUserShadowSmoke =>
      rw [VerifyDatabase.selectLatestAttemptsForScenario]
      set rows := (db.selectLatestSmokeRunAttempts activeRoutes).filter
        (·.attempt.executionMode = .shadow)
      have hrows : ∀ row ∈ rows, row ∈ db.attempts.rows :=
        fun row hrow ↦ mem_of_selectLatestSmokeRunAttempts (List.mem_filter.mp hrow).1
      refine nodup_attemptIds (List.Nodup.map_on ?_ ?_) fun row hrow ↦
        hrows row ((mem_foldl_keepLatest hrows).mp hrow).1
      · rintro ⟨scope, row⟩ hrow ⟨scope', row'⟩ hrow' rfl
        have hscope := latestIn_foldl_keepLatest rows scope
        have hscope' := latestIn_foldl_keepLatest rows scope'
        rw [ExtTreeMap.mem_toList_iff_getElem?_eq_some.mp hrow] at hscope
        rw [ExtTreeMap.mem_toList_iff_getElem?_eq_some.mp hrow'] at hscope'
        rw [← hscope.1.2, ← hscope'.1.2]
      · exact ExtTreeMap.distinct_keys_toList.imp fun hne heq ↦ hne (by simp [heq])

/-- **The latest rows of a scenario.**  Without a run, what is looked at is what the scenario asks
for among all attempts: few newer ones on the same route, or the newest of its scope in the run of
the newest shadow attempt; and no attempt is looked at twice. -/
theorem latest_window (db : VerifyDatabase) (scenario : VerifyScenario) (activeRoutes : List String) :
    let selection : VerifyWindowSelection := .latestForScenario scenario
    let evidence := db.load selection (db.resolveSessionWindow none selection) activeRoutes
    (∀ row, (row ∈ evidence.attempts ↔ db.IsLatest activeRoutes row scenario) ∧
      (row ∈ evidence.observedLiveAttempts ↔ db.IsObservedLive activeRoutes row scenario) ∧
      (row ∈ evidence.observedShadowAttempts ↔ db.IsObservedShadow activeRoutes row scenario)) ∧
    (evidence.attempts.map (·.attempt.attemptId)).Nodup := by
  refine ⟨fun row ↦ ⟨mem_selectLatestAttemptsForScenario, ?_, ?_⟩,
    nodup_selectLatestAttemptsForScenario db activeRoutes scenario⟩
  · cases scenario with
    | paper => exact mem_listRecentByModeForActiveRoutes
    | live => exact iff_of_false List.not_mem_nil id
    | realUserShadowSmoke =>
        show row ∈ filterAttemptsByActiveRoutes _ _ ↔ _
        rw [mem_filterAttemptsByActiveRoutes, mem_listByModeWithCreatedAtForActiveRoutes]
        exact and_iff_left_of_imp fun h ↦ h.route
  · cases scenario with
    | paper => exact iff_of_false List.not_mem_nil id
    | live => exact recent_iff
    | realUserShadowSmoke => exact iff_of_false List.not_mem_nil id

end AxiomArb.AppLive.Verify
