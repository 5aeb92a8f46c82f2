import AxiomArb.Persistence.CatalogueRows

/-!
# The catalogue under any interleaving

Calls of `upsert_record` and `insert_signed_order` run side by side, a statement at a time.
Whatever the order of their statements, the tables hold the rows of the records that were
accepted and of the orders that were inserted, records that were accepted are consistent
(`upserts_catalogue`), and every order is of an accepted record (`insertedOrders_stored`).
-/

namespace AxiomArb.Persistence

open Domain Library

/-! ## Consistent records -/

/-- Two records that may stand in one catalogue. -/
structure Consistent (record record' : IdentifierRecord) : Prop where
  token : record.tokenId = record'.tokenId → record = record'
  outcome : record.conditionId = record'.conditionId → record.outcomeLabel = record'.outcomeLabel →
    record.tokenId = record'.tokenId
  condition : record.conditionId = record'.conditionId → record.marketId = record'.marketId ∧
    record.eventId = record'.eventId ∧ record.route = record'.route
  market : record.marketId = record'.marketId → record.conditionId = record'.conditionId
  event : record.eventId = record'.eventId → record.eventFamilyId = record'.eventFamilyId

theorem marketRouteToStr_injective : Function.Injective marketRouteToStr := by
  intro route route' h
  have hread := congrArg marketRouteFromStr h
  rw [marketRouteFromStr_toStr, marketRouteFromStr_toStr] at hread
  exact Except.ok.inj hread

/-- Rows of consistent records that clash are the same. -/
theorem consistent_iff {record record' : IdentifierRecord} :
    Consistent record record' ↔
      ∀ row ∈ (IdentifierRecordRow.fromDomain record).tables,
        ∀ row' ∈ (IdentifierRecordRow.fromDomain record').tables, row.clash row' = true → row = row' := by
  constructor
  · intro h row hrow row' hrow' hclash
    simp only [IdentifierRecordRow.tables, List.mem_cons, List.not_mem_nil, or_false] at hrow hrow'
    rcases hrow with rfl | rfl | rfl | rfl | rfl | rfl <;>
      rcases hrow' with rfl | rfl | rfl | rfl | rfl | rfl <;>
      simp only [Row.clash, IdentifierRecordRow.fromDomain, beq_iff_eq, Bool.or_eq_true,
        Bool.and_eq_true, Bool.false_eq_true] at hclash ⊢
    · rw [hclash]
    · rw [hclash, h.event hclash]
    · rw [hclash, (h.condition hclash).2.1]
    · have hcondition : record.conditionId = record'.conditionId := hclash.elim h.market id
      obtain ⟨hmarket, hevent, hroute⟩ := h.condition hcondition
      rw [hcondition, hmarket, hevent, hroute]
    · rw [h.token hclash]
    · rw [h.token (hclash.elim id fun houtcome ↦ h.outcome houtcome.1 houtcome.2)]
  · intro h
    simp only [IdentifierRecordRow.tables, List.forall_mem_cons, List.not_mem_nil, IsEmpty.forall_iff,
      implies_true, and_true, Row.clash, IdentifierRecordRow.fromDomain, beq_iff_eq, Bool.or_eq_true,
      Bool.and_eq_true, Bool.false_eq_true, reduceCtorEq, Row.event.injEq, Row.condition.injEq,
      Row.market.injEq, Row.token.injEq, Row.identifierMap.injEq, true_and] at h
    obtain ⟨-, hevent, hcondition, hmarket, htoken, hmapped⟩ := h
    have hsame : record.tokenId = record'.tokenId ∨ record.conditionId = record'.conditionId ∧
        record.outcomeLabel = record'.outcomeLabel → record = record' := by
      intro hclash
      refine IdentifierRecordRow.fromDomain_injective ?_
      simpa only [IdentifierRecordRow.fromDomain, IdentifierRecordRow.mk.injEq] using hmapped hclash
    refine ⟨fun htoken ↦ hsame (.inl htoken), fun hcondition hlabel ↦ ?_, fun hcondition ↦ ?_,
      fun hmarketId ↦ (hmarket (.inl hmarketId)).2.1, fun heventId ↦ (hevent heventId).2.1⟩
    · rw [hsame (.inr ⟨hcondition, hlabel⟩)]
    · obtain ⟨hmarketId, -, heventId, hroute⟩ := hmarket (.inr hcondition)
      exact ⟨hmarketId, heventId, marketRouteToStr_injective hroute⟩

/-- Consistent records agree in the map of the identifiers. -/
theorem Consistent.agree {record record' : IdentifierRecord} (h : Consistent record record') :
    IdentifierMap.Agree record record' := by
  constructor
  · intro htoken
    rw [h.token htoken]
  · intro hcondition
    obtain ⟨hmarket, hevent, hroute⟩ := h.condition hcondition
    rw [IdentifierRecord.conditionMetadata, hmarket, hevent, h.event hevent, hroute]
    rfl

/-! ## The statements of a call -/

namespace UpsertStep

/-- The number of rows that are there before a statement. -/
def done : UpsertStep → Nat
  | .validate => 0
  | .eventFamily => 0
  | .event => 1
  | .condition => 2
  | .market => 3
  | .token => 4
  | .identifierMap => 5
  | .commit => 6

/-- The number of statements that are still to run. -/
def remaining : UpsertStep → Nat
  | .validate => 8
  | .eventFamily => 7
  | .event => 6
  | .condition => 5
  | .market => 4
  | .token => 3
  | .identifierMap => 2
  | .commit => 1

end UpsertStep

/-- A statement of `upsert_record` that inserts a row, and the statement that comes next. -/
structure Inserts (record : IdentifierRecord) (step next : UpsertStep) (row : Row)
    (confirm : List Row → Except CatalogueError Unit) : Prop where
  statement : upsertStatement record step = insertOrConfirm row confirm (.upsertRecord record next)
  tables : (IdentifierRecordRow.fromDomain record).tables.take next.done =
    (IdentifierRecordRow.fromDomain record).tables.take step.done ++ [row]
  confirms : ∀ rows : List Row, (∀ row ∈ rows, row.Good) → (∃ other ∈ rows, row.clash other = true) →
    Confirms row rows (confirm rows)
  supported : ∀ rows : List Row,
    (∀ row ∈ (IdentifierRecordRow.fromDomain record).tables.take step.done, row ∈ rows) →
      row.dangling (rows ++ [row]) = none

section Inserts

variable (record : IdentifierRecord)

theorem inserts_eventFamily : ∃ row confirm, Inserts record .eventFamily .event row confirm :=
  ⟨_, _, rfl, rfl, fun _ hgood hclash ↦ confirms_eventFamily hgood hclash, fun _ _ ↦ rfl⟩

theorem inserts_event : ∃ row confirm, Inserts record .event .condition row confirm := by
  refine ⟨_, _, rfl, rfl, fun _ hgood hclash ↦ confirms_event hgood hclash, fun rows hrows ↦ ?_⟩
  simp only [UpsertStep.done, IdentifierRecordRow.tables, List.take_succ_cons, List.take_zero,
    List.forall_mem_cons] at hrows
  simp only [Row.dangling_eq_none_iff, Row.foreignKeys, List.forall_mem_cons, List.mem_append]
  exact ⟨⟨_, .inl hrows.1, by simp [Row.isEventFamily]⟩, by simp⟩

theorem inserts_condition : ∃ row confirm, Inserts record .condition .market row confirm := by
  refine ⟨_, _, rfl, rfl, fun _ _ hclash ↦ confirms_condition hclash, fun rows hrows ↦ ?_⟩
  simp only [UpsertStep.done, IdentifierRecordRow.tables, List.take_succ_cons, List.take_zero,
    List.forall_mem_cons] at hrows
  simp only [Row.dangling_eq_none_iff, Row.foreignKeys, List.forall_mem_cons, List.mem_append]
  exact ⟨⟨_, .inl hrows.2.1, by simp [Row.isEvent]⟩, by simp⟩

theorem inserts_market : ∃ row confirm, Inserts record .market .token row confirm := by
  refine ⟨_, _, rfl, rfl, fun _ hgood hclash ↦ confirms_market hgood rfl hclash, fun rows hrows ↦ ?_⟩
  simp only [UpsertStep.done, IdentifierRecordRow.tables, List.take_succ_cons, List.take_zero,
    List.forall_mem_cons] at hrows
  simp only [Row.dangling_eq_none_iff, Row.foreignKeys, List.forall_mem_cons, List.mem_append]
  exact ⟨⟨_, .inl hrows.2.1, by simp [Row.isEvent]⟩,
    ⟨_, .inl hrows.2.2.1, by simp [Row.isConditionOfEvent]⟩, by simp⟩

theorem inserts_token : ∃ row confirm, Inserts record .token .identifierMap row confirm := by
  refine ⟨_, _, rfl, rfl, fun _ _ hclash ↦ confirms_token hclash, fun rows hrows ↦ ?_⟩
  simp only [UpsertStep.done, IdentifierRecordRow.tables, List.take_succ_cons, List.take_zero,
    List.forall_mem_cons] at hrows
  simp only [Row.dangling_eq_none_iff, Row.foreignKeys, List.forall_mem_cons, List.mem_append]
  exact ⟨⟨_, .inl hrows.2.2.1, by simp [Row.isCondition]⟩, by simp⟩

theorem inserts_identifierMap : ∃ row confirm, Inserts record .identifierMap .commit row confirm := by
  refine ⟨_, _, rfl, rfl, fun _ hgood hclash ↦ confirms_identifierMap hgood hclash, fun rows hrows ↦ ?_⟩
  simp only [UpsertStep.done, IdentifierRecordRow.tables, List.take_succ_cons, List.take_zero,
    List.forall_mem_cons] at hrows
  obtain ⟨hfamily, hevent, hcondition, hmarket, htoken, -⟩ := hrows
  simp only [Row.dangling_eq_none_iff, Row.foreignKeys, List.forall_mem_cons, List.mem_append]
  exact ⟨⟨_, .inl hevent, by simp [Row.isEvent]⟩, ⟨_, .inl hfamily, by simp [Row.isEventFamily]⟩,
    ⟨_, .inl htoken, by simp [Row.isTokenOfCondition]⟩,
    ⟨_, .inl hmarket, by simp [Row.isMarketOfCondition]⟩,
    ⟨_, .inl hcondition, by simp [Row.isConditionOfEvent]⟩,
    ⟨_, .inl hevent, by simp [Row.isEventOfFamily]⟩,
    ⟨_, .inl hmarket, by simp [Row.isMarketOnRoute]⟩, by simp⟩

end Inserts

/-- A statement checks the record, inserts one of its rows, or commits. -/
theorem upsertStatement_cases (record : IdentifierRecord) (step : UpsertStep) :
    step = .validate ∨ step = .commit ∨
      ∃ next row confirm, Inserts record step next row confirm ∧ next.remaining + 1 = step.remaining := by
  cases step with
  | validate => exact .inl rfl
  | commit => exact .inr (.inl rfl)
  | eventFamily =>
      obtain ⟨row, confirm, h⟩ := inserts_eventFamily record
      exact .inr (.inr ⟨_, row, confirm, h, rfl⟩)
  | event =>
      obtain ⟨row, confirm, h⟩ := inserts_event record
      exact .inr (.inr ⟨_, row, confirm, h, rfl⟩)
  | condition =>
      obtain ⟨row, confirm, h⟩ := inserts_condition record
      exact .inr (.inr ⟨_, row, confirm, h, rfl⟩)
  | market =>
      obtain ⟨row, confirm, h⟩ := inserts_market record
      exact .inr (.inr ⟨_, row, confirm, h, rfl⟩)
  | token =>
      obtain ⟨row, confirm, h⟩ := inserts_token record
      exact .inr (.inr ⟨_, row, confirm, h, rfl⟩)
  | identifierMap =>
      obtain ⟨row, confirm, h⟩ := inserts_identifierMap record
      exact .inr (.inr ⟨_, row, confirm, h, rfl⟩)

theorem Inserts.mem_tables {record : IdentifierRecord} {step next : UpsertStep} {row : Row}
    {confirm : List Row → Except CatalogueError Unit} (h : Inserts record step next row confirm) :
    row ∈ (IdentifierRecordRow.fromDomain record).tables := by
  refine List.mem_of_mem_take (i := next.done) ?_
  rw [h.tables]
  exact List.mem_append_right _ (List.mem_singleton_self row)

/-! ## What each call knows -/

/-- What a call knows of the rows it sees. -/
def Task.Knows : Task → List Row → Prop
  | .upsertRecord record step, rows =>
      ∀ row ∈ (IdentifierRecordRow.fromDomain record).tables.take step.done, row ∈ rows
  | .insertSignedOrder _ _ .check, _ => True
  | .insertSignedOrder row _ .insert, _ => row.Complete
  | .insertSignedOrder row _ .commit, rows =>
      row.Complete ∧ ∃ time, .order (row.insertedAt time) ∈ rows

/-- The rows that a call may have written. -/
def Task.Writes : Task → Row → Prop
  | .upsertRecord record _, row => row ∈ (IdentifierRecordRow.fromDomain record).tables
  | .insertSignedOrder row' now _, row => row = .order (row'.insertedAt now)

def Task.Fails : Task → CatalogueError → Prop
  | .upsertRecord _ _, error => ∃ conflict, error = .identifierConflict conflict
  | .insertSignedOrder row _ _, error => row.Refused error

theorem validateRecordInTx_spec {rows : List Row} (hgood : ∀ row ∈ rows, row.Good)
    (record : IdentifierRecord) :
    validateRecordInTx rows record = .ok () ∨
      ∃ conflict, validateRecordInTx rows record = .error (.identifierConflict conflict) := by
  obtain ⟨records, hrecords, -⟩ := exists_listRecordsInTx hgood
  rw [validateRecordInTx, hrecords]
  show ((IdentifierMap.fromRecords (records ++ [record])).mapError _ >>= _) = _ ∨
    ∃ conflict, ((IdentifierMap.fromRecords (records ++ [record])).mapError _ >>= _) = _
  rcases IdentifierMap.fromRecords (records ++ [record]) with error | map
  · exact .inr ⟨error, rfl⟩
  · exact .inl rfl

section Meets

variable {rows others : List Row} (hgood : ∀ row ∈ rows, row.Good)

include hgood

theorem meets_upsert {record : IdentifierRecord} {step : UpsertStep}
    (hknows : Task.Knows (.upsertRecord record step) rows) :
    ((upsertStatement record step).exec Row.clash rows others).Meets Row.Good Task.Writes Task.Knows
      Task.Fails (fun rows row ↦ row.dangling rows = none) (.upsertRecord record step) rows := by
  rcases upsertStatement_cases record step with rfl | rfl | ⟨next, row, confirm, h, -⟩
  · rw [upsertStatement, Statement.exec]
    rcases validateRecordInTx_spec hgood record with hanswer | ⟨conflict, hanswer⟩
    · rw [hanswer]
      exact ⟨fun _ hrow ↦ hrow, by simp [Task.Knows, UpsertStep.done]⟩
    · rw [hanswer]
      exact ⟨conflict, rfl⟩
  · trivial
  · rw [h.statement]
    have hdangling := h.supported rows hknows
    have hexec := exec_insertOrConfirm (Task.upsertRecord record next) others
      (invalid_of_mem_tables h.mem_tables) hdangling (h.confirms rows hgood)
    have hnext : ∀ rows', rows ⊆ rows' → row ∈ rows' → Task.Knows (.upsertRecord record next) rows' := by
      intro rows' hsub hrow other hother
      rw [h.tables, List.mem_append, List.mem_singleton] at hother
      rcases hother with hother | rfl
      · exact hsub (hknows other hother)
      · exact hrow
    generalize (insertOrConfirm row confirm (Task.upsertRecord record next)).exec Row.clash rows others =
      outcome at hexec ⊢
    cases hexec with
    | waits => trivial
    | continues hrow => exact ⟨fun _ hwrites ↦ hwrites, hnext rows (List.Subset.refl rows) hrow⟩
    | inserts =>
        exact ⟨good_of_mem_tables h.mem_tables, fun _ hwrites ↦ hwrites, h.mem_tables,
          hnext _ (List.subset_append_left rows [row]) (List.mem_append_right _ List.mem_cons_self),
          hdangling⟩
    | fails conflict _ => exact ⟨conflict, rfl⟩

theorem meets_insert {row : NewOrderRow} {now : DateTime} {step : InsertStep}
    (hknows : Task.Knows (.insertSignedOrder row now step) rows) :
    ((insertStatement row now step).exec Row.clash rows others).Meets Row.Good Task.Writes Task.Knows
      Task.Fails (fun rows row ↦ row.dangling rows = none) (.insertSignedOrder row now step) rows := by
  cases step with
  | check =>
      rw [insertStatement, Statement.exec]
      rcases checkSignedOrder_spec row rows with ⟨hanswer, hcomplete⟩ |
        ⟨error, hanswer, hrefused⟩
      · rw [hanswer]
        exact ⟨fun _ hwrites ↦ hwrites, hcomplete⟩
      · rw [hanswer]
        exact hrefused
  | commit => trivial
  | insert =>
      have hexec := exec_insertOrder now (Task.insertSignedOrder row now .commit) others hgood hknows
      rw [insertStatement]
      generalize (insertOrder row now (Task.insertSignedOrder row now .commit)).exec Row.clash rows others =
        outcome at hexec ⊢
      cases hexec with
      | waits => trivial
      | continues time hrow => exact ⟨fun _ hwrites ↦ hwrites, hknows, time, hrow⟩
      | inserts hdangling =>
          exact ⟨⟨row, now, hknows, rfl⟩, fun _ hwrites ↦ hwrites, rfl,
            ⟨hknows, now, List.mem_append_right _ List.mem_cons_self⟩, hdangling⟩
      | fails error hrefused => exact hrefused

end Meets

/-- What the statements of the two repositories keep. -/
def catalogueContract : Contract Row.clash Task.statement where
  good := Row.Good
  writes := Task.Writes
  knows := Task.Knows
  fails := Task.Fails
  supports rows row := row.dangling rows = none
  symm := Row.clash_symm
  mono := by
    intro task rows rows' hknows hsub
    cases task with
    | upsertRecord record step => exact fun row hrow ↦ hsub (hknows row hrow)
    | insertSignedOrder row now step =>
        cases step with
        | check => trivial
        | insert => exact hknows
        | commit =>
            obtain ⟨hcomplete, time, hrow⟩ := hknows
            exact ⟨hcomplete, time, hsub hrow⟩
  supports_mono := Row.dangling_mono
  allows := by
    intro task rows hknows hgood hpairs others
    cases task with
    | upsertRecord record step =>
        exact meets_upsert hgood hknows
    | insertSignedOrder row now step => exact meets_insert hgood hknows

/-! ## Catalogues that are reached -/

/-- A catalogue after some statements of calls that began with their first one. -/
def Reached (catalogue : Catalogue) : Prop :=
  ∃ events : List (Event Task), (∀ task, .start task ∈ events → task.Fresh) ∧
    catalogue = run catalogueStep Store.empty events

section Reached

variable {catalogue : Catalogue}

theorem Reached.sound (h : Reached catalogue) : catalogueContract.Sound catalogue := by
  obtain ⟨events, hfresh, rfl⟩ := h
  refine catalogueContract.sound_run fun task htask rows ↦ ?_
  have hfirst := hfresh task htask
  cases task with
  | upsertRecord record step =>
      rw [Task.Fresh] at hfirst
      subst hfirst
      exact fun row hrow ↦ nomatch hrow
  | insertSignedOrder row now step =>
      rw [Task.Fresh] at hfirst
      subst hfirst
      trivial

theorem mem_acceptedRecords {record : IdentifierRecord} :
    record ∈ acceptedRecords catalogue ↔
      ∃ (i : Nat) (step : UpsertStep),
        catalogue.transactions[i]? = some ⟨.upsertRecord record step, .committed⟩ := by
  simp only [acceptedRecords, List.mem_filterMap]
  constructor
  · rintro ⟨⟨task, status⟩, htransaction, hrecord⟩
    obtain ⟨i, hi⟩ := List.mem_iff_getElem?.mp htransaction
    cases status <;> cases task <;> simp only [Option.some.injEq, reduceCtorEq] at hrecord
    rw [hrecord] at hi
    exact ⟨i, _, hi⟩
  · rintro ⟨i, step, hi⟩
    exact ⟨_, List.mem_of_getElem? hi, rfl⟩

theorem mem_insertedOrders {row : NewOrderRow} {now : DateTime} :
    (row, now) ∈ insertedOrders catalogue ↔
      ∃ (i : Nat) (step : InsertStep),
        catalogue.transactions[i]? = some ⟨.insertSignedOrder row now step, .committed⟩ := by
  simp only [insertedOrders, List.mem_filterMap]
  constructor
  · rintro ⟨⟨task, status⟩, htransaction, horder⟩
    obtain ⟨i, hi⟩ := List.mem_iff_getElem?.mp htransaction
    cases status <;> cases task <;> simp only [Option.some.injEq, Prod.mk.injEq, reduceCtorEq] at horder
    rw [horder.1, horder.2] at hi
    exact ⟨i, _, hi⟩
  · rintro ⟨i, step, hi⟩
    exact ⟨_, List.mem_of_getElem? hi, rfl⟩

variable (h : Reached catalogue)

include h

/-- The rows of a record that was accepted are there. -/
theorem Reached.mem_committed_of_mem_tables {record : IdentifierRecord}
    (hrecord : record ∈ acceptedRecords catalogue) {row : Row}
    (hrow : row ∈ (IdentifierRecordRow.fromDomain record).tables) : row ∈ catalogue.committed := by
  obtain ⟨i, step, hi⟩ := mem_acceptedRecords.mp hrecord
  have hended := h.sound.ended i _ hi
  have hknows := h.sound.settled i _ hi
  cases step <;> first | exact hknows row hrow | cases hended

/-- An order that was inserted is there, and is complete. -/
theorem Reached.exists_order_mem_committed {row : NewOrderRow} {now : DateTime}
    (hrow : (row, now) ∈ insertedOrders catalogue) :
    row.Complete ∧ ∃ time, .order (row.insertedAt time) ∈ catalogue.committed := by
  obtain ⟨i, step, hi⟩ := mem_insertedOrders.mp hrow
  have hended := h.sound.ended i _ hi
  have hknows := h.sound.settled i _ hi
  cases step with
  | check => cases hended
  | insert => cases hended
  | commit => exact hknows

/-- Every row is of a record that was accepted or of an order that was inserted. -/
theorem Reached.of_mem_committed {row : Row} (hrow : row ∈ catalogue.committed) :
    (∃ record ∈ acceptedRecords catalogue, row ∈ (IdentifierRecordRow.fromDomain record).tables) ∨
      ∃ order ∈ insertedOrders catalogue, row = .order (order.1.insertedAt order.2) := by
  obtain ⟨version, hversion, hwriter, rfl⟩ := Store.mem_committed.mp hrow
  obtain ⟨i, task, hi, hwrites⟩ := h.sound.authored version hversion hwriter
  cases task with
  | upsertRecord record step => exact .inl ⟨record, mem_acceptedRecords.mpr ⟨i, step, hi⟩, hwrites⟩
  | insertSignedOrder row now step =>
      exact .inr ⟨(row, now), mem_insertedOrders.mpr ⟨i, step, hi⟩, hwrites⟩

theorem Reached.mem_committed_iff {row : Row} (hnot : ∀ order, row ≠ .order order) :
    row ∈ catalogue.committed ↔
      ∃ record ∈ acceptedRecords catalogue, row ∈ (IdentifierRecordRow.fromDomain record).tables := by
  constructor
  · intro hrow
    rcases h.of_mem_committed hrow with hrow | ⟨order, -, hrow⟩
    · exact hrow
    · exact absurd hrow (hnot _)
  · rintro ⟨record, hrecord, hrow⟩
    exact h.mem_committed_of_mem_tables hrecord hrow

theorem Reached.good_of_mem_committed {row : Row} (hrow : row ∈ catalogue.committed) : row.Good := by
  obtain ⟨version, hversion, -, rfl⟩ := Store.mem_committed.mp hrow
  exact h.sound.good version hversion

theorem Reached.consistent {record record' : IdentifierRecord}
    (hrecord : record ∈ acceptedRecords catalogue) (hrecord' : record' ∈ acceptedRecords catalogue) :
    Consistent record record' :=
  consistent_iff.mpr fun _ hrow _ hrow' hclash ↦
    h.sound.eq_of_clash (h.mem_committed_of_mem_tables hrecord hrow)
      (h.mem_committed_of_mem_tables hrecord' hrow') hclash

theorem Reached.identifierMap_mem_iff {record : IdentifierRecord} :
    .identifierMap (.fromDomain record) ∈ catalogue.committed ↔ record ∈ acceptedRecords catalogue := by
  constructor
  · intro hrow
    rcases h.of_mem_committed hrow with ⟨record', hrecord', hmem⟩ | ⟨_, _, hrow⟩
    · simp only [IdentifierRecordRow.tables, List.mem_cons, reduceCtorEq, Row.identifierMap.injEq,
        List.not_mem_nil, false_or, or_false] at hmem
      rwa [IdentifierRecordRow.fromDomain_injective hmem]
    · cases hrow
  · intro hrecord
    exact h.mem_committed_of_mem_tables hrecord (by simp [IdentifierRecordRow.tables])

omit h

/-- **The catalogue of the accepted records.**  Whatever the order of the statements, the tables
of the identifiers hold the rows of the records that were accepted, each two of which are
consistent; the records that are listed are these, and the map of the identifiers takes them; and a
call that fails by itself fails for a conflict. -/
theorem upserts_catalogue (hreached : Reached catalogue) :
    (∀ row, (∀ order, row ≠ .order order) → (row ∈ catalogue.committed ↔
      ∃ record ∈ acceptedRecords catalogue, row ∈ (IdentifierRecordRow.fromDomain record).tables)) ∧
    (∀ record ∈ acceptedRecords catalogue, ∀ record' ∈ acceptedRecords catalogue,
      Consistent record record') ∧
    (∃ records map, listRecordsInTx catalogue.committed = .ok records ∧
      (∀ record, record ∈ records ↔ record ∈ acceptedRecords catalogue) ∧
      IdentifierMap.fromRecords records = .ok map) ∧
    ∀ transaction ∈ catalogue.transactions, ∀ record step error,
      transaction.state = .upsertRecord record step → transaction.status = .failed error →
        ∃ conflict, error = .identifierConflict conflict := by
  have hsound := hreached.sound
  refine ⟨fun row hnot ↦ hreached.mem_committed_iff hnot, fun record hrecord record' hrecord' ↦
    hreached.consistent hrecord hrecord', ?_, ?_⟩
  · obtain ⟨records, hrecords, hmem⟩ :=
      exists_listRecordsInTx fun row hrow ↦ hreached.good_of_mem_committed hrow
    have haccepted : ∀ record, record ∈ records ↔ record ∈ acceptedRecords catalogue :=
      fun record ↦ (hmem record).trans hreached.identifierMap_mem_iff
    obtain ⟨map, hmap⟩ := (IdentifierMap.exists_fromRecords_iff records).mpr
      fun record hrecord record' hrecord' ↦ (hreached.consistent ((haccepted record).mp hrecord)
        ((haccepted record').mp hrecord')).agree
    exact ⟨records, map, hrecords, haccepted, hmap⟩
  · rintro ⟨task, status⟩ htransaction record step error rfl rfl
    obtain ⟨i, hi⟩ := List.mem_iff_getElem?.mp htransaction
    exact hsound.failed i _ error hi

end Reached

/-- Two upserts take turns, until the second waits for the first. -/
def sideBySide : List (Event Task) :=
  [.start (.upsertRecord (IdentifierMap.sampleRecord "a") .validate),
    .start (.upsertRecord (IdentifierMap.sampleRecord "b") .validate),
    .advance 0, .advance 1, .advance 0, .advance 1] ++
  List.replicate 6 (.advance 0) ++ List.replicate 7 (.advance 1)

theorem reached_sideBySide : Reached (run catalogueStep Store.empty sideBySide) := by
  refine ⟨sideBySide, fun task htask ↦ ?_, rfl⟩
  simp only [sideBySide, List.mem_append, List.mem_cons, Event.start.injEq, reduceCtorEq,
    List.not_mem_nil, or_false, List.mem_replicate, and_false] at htask
  rcases htask with rfl | rfl <;> rfl

theorem upserts_catalogue_sideBySide :
    acceptedRecords (run catalogueStep Store.empty sideBySide) =
        [IdentifierMap.sampleRecord "a", IdentifierMap.sampleRecord "b"] ∧
      Consistent (IdentifierMap.sampleRecord "a") (IdentifierMap.sampleRecord "b") ∧
      ∃ records map,
        listRecordsInTx (run catalogueStep Store.empty sideBySide).committed = .ok records ∧
          IdentifierMap.fromRecords records = .ok map := by
  have haccepted : acceptedRecords (run catalogueStep Store.empty sideBySide) =
      [IdentifierMap.sampleRecord "a", IdentifierMap.sampleRecord "b"] := by decide +kernel
  obtain ⟨-, hconsistent, ⟨records, map, hrecords, -, hmap⟩, -⟩ := upserts_catalogue reached_sideBySide
  rw [haccepted] at hconsistent
  exact ⟨haccepted, hconsistent _ (by simp) _ (by simp), records, map, hrecords, hmap⟩

end AxiomArb.Persistence
