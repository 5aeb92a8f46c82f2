import AxiomArb.Persistence.Catalogue

/-!
# What one statement does to the catalogue

The rows that are there are well formed (`Row.Good`).  A row that is inserted or confirmed is
there afterwards; a confirmation that fails names a row that clashes with it
(`exec_insertOrConfirm`), and an order that is refused has one of five errors
(`exec_insertOrder`).
-/

namespace AxiomArb.Persistence

open Domain Library

/-! ## Well-formed rows -/

theorem marketRouteFromStr_toStr (route : MarketRoute) :
    marketRouteFromStr (marketRouteToStr route) = .ok route := by
  cases route <;> rfl

theorem IdentifierRecordRow.intoDomain_fromDomain (record : IdentifierRecord) :
    (fromDomain record).intoDomain = .ok record := by
  rw [intoDomain, fromDomain, marketRouteFromStr_toStr]
  rfl

theorem IdentifierRecordRow.fromDomain_injective : Function.Injective fromDomain := by
  intro record record' h
  have hread := congrArg intoDomain h
  rw [intoDomain_fromDomain, intoDomain_fromDomain] at hread
  exact Except.ok.inj hread

/-- The row of some order of the domain. -/
def NewOrderRow.Complete (row : NewOrderRow) : Prop :=
  ∃ order retryOfOrderId, row = .fromDomain order retryOfOrderId

/-- What every row of the tables satisfies. -/
def Row.Good : Row → Prop
  | .eventFamily eventFamilyId name => name = eventFamilyId
  | .event eventId _ name => name = eventId
  | .market _ _ _ route => ∃ known, route = marketRouteToStr known
  | .identifierMap row => ∃ record, row = .fromDomain record
  | .order row => ∃ (new : NewOrderRow) (now : DateTime), new.Complete ∧ row = new.insertedAt now
  | _ => True

theorem Row.clash_symm (row row' : Row) : row.clash row' = row'.clash row := by
  cases row <;> cases row' <;> simp only [Row.clash]
  case order.order row row' =>
    rw [Bool.eq_iff_iff]
    simp only [Bool.or_eq_true, Bool.and_eq_true, beq_iff_eq, Option.isSome_iff_ne_none]
    constructor
    · rintro (h | ⟨hsome, h⟩)
      · exact .inl h.symm
      · exact .inr ⟨h ▸ hsome, h.symm⟩
    · rintro (h | ⟨hsome, h⟩)
      · exact .inl h.symm
      · exact .inr ⟨h ▸ hsome, h.symm⟩
  all_goals
    rw [Bool.eq_iff_iff]
    grind

theorem Row.clash_self (row : Row) : row.clash row = true := by
  cases row <;> simp [Row.clash]

theorem Row.dangling_eq_none_iff {row : Row} {rows : List Row} :
    row.dangling rows = none ↔ ∀ key ∈ row.foreignKeys, ∃ other ∈ rows, key.2 other = true := by
  simp only [Row.dangling, Option.map_eq_none_iff, List.find?_eq_none, Bool.not_eq_true,
    Bool.not_eq_false', List.any_eq_true]

theorem Row.dangling_mono {row : Row} {rows rows' : List Row} (h : row.dangling rows = none)
    (hsub : rows ⊆ rows') : row.dangling rows' = none := by
  rw [dangling_eq_none_iff] at h ⊢
  intro key hkey
  obtain ⟨other, hother, hfits⟩ := h key hkey
  exact ⟨other, hsub hother, hfits⟩

/-! ## The rows of a record -/

/-- The rows of an identifier record, in the order in which they are inserted. -/
def IdentifierRecordRow.tables (row : IdentifierRecordRow) : List Row :=
  [.eventFamily row.eventFamilyId row.eventFamilyId,
    .event row.eventId row.eventFamilyId row.eventId,
    .condition row.conditionId row.eventId,
    .market row.marketId row.conditionId row.eventId row.route,
    .token row.tokenId row.conditionId row.outcomeLabel,
    .identifierMap row]

section Tables

variable {record : IdentifierRecord} {row : Row}

theorem good_of_mem_tables (h : row ∈ (IdentifierRecordRow.fromDomain record).tables) : row.Good := by
  simp only [IdentifierRecordRow.tables, List.mem_cons, List.not_mem_nil, or_false] at h
  rcases h with rfl | rfl | rfl | rfl | rfl | rfl
  · rfl
  · rfl
  · trivial
  · exact ⟨_, rfl⟩
  · trivial
  · exact ⟨_, rfl⟩

theorem invalid_of_mem_tables (h : row ∈ (IdentifierRecordRow.fromDomain record).tables) :
    row.invalid = none := by
  have hroute : marketRouteToStr record.route ∈ ["standard", "negrisk"] := by
    cases record.route <;> decide
  simp only [IdentifierRecordRow.tables, List.mem_cons, List.not_mem_nil, or_false] at h
  rcases h with rfl | rfl | rfl | rfl | rfl | rfl
  · rfl
  · rfl
  · rfl
  · exact if_pos hroute
  · rfl
  · exact if_pos hroute

end Tables

/-! ## Confirming a row -/

/-- A confirmation that succeeds has found the row, and one that fails another row with its key. -/
def Confirms (row : Row) (rows : List Row) (answer : Except CatalogueError Unit) : Prop :=
  (answer = .ok () ∧ row ∈ rows) ∨
    (∃ error, answer = .error (.identifierConflict error)) ∧
      ∃ row' ∈ rows, row.clash row' = true ∧ row' ≠ row

theorem fetchOne_bind {α : Type} {select : Row → Option α} {rows : List Row}
    (h : ∃ row ∈ rows, ∃ a, select row = some a) (next : α → Except CatalogueError Unit) :
    ∃ row ∈ rows, ∃ a, select row = some a ∧ fetchOne select rows >>= next = next a := by
  rcases hfound : rows.findSome? select with _ | a
  · obtain ⟨row, hrow, a, hselect⟩ := h
    rw [List.findSome?_eq_none_iff.mp hfound row hrow] at hselect
    cases hselect
  · obtain ⟨row, hrow, hselect⟩ := List.exists_of_findSome?_eq_some hfound
    exact ⟨row, hrow, a, hselect, by rw [fetchOne, hfound]; rfl⟩

section Confirm

variable {row : IdentifierRecordRow} {rows : List Row}

theorem confirms_eventFamily (hgood : ∀ row ∈ rows, row.Good)
    (hclash : ∃ other ∈ rows, (Row.eventFamily row.eventFamilyId row.eventFamilyId).clash other = true) :
    Confirms (.eventFamily row.eventFamilyId row.eventFamilyId) rows (confirmEventFamily row rows) := by
  obtain ⟨other, hother, hclash⟩ := hclash
  have hselect : ∃ other ∈ rows, ∃ name, selectEventFamily row.eventFamilyId other = some name := by
    cases other <;> simp only [Row.clash, beq_iff_eq, Bool.false_eq_true] at hclash
    exact ⟨_, hother, _, if_pos hclash.symm⟩
  obtain ⟨other, hother, name, hselect, hanswer⟩ := fetchOne_bind hselect _
  rw [confirmEventFamily, hanswer]
  cases other <;> simp only [selectEventFamily, Option.ite_none_right_eq_some, Option.some.injEq,
    reduceCtorEq] at hselect
  obtain ⟨hid, rfl⟩ := hselect
  have hname := (hgood _ hother).trans hid
  rw [hid, hname] at hother
  exact .inl ⟨if_neg (not_not.mpr hname), hother⟩

theorem confirms_event (hgood : ∀ row ∈ rows, row.Good)
    (hclash : ∃ other ∈ rows,
      (Row.event row.eventId row.eventFamilyId row.eventId).clash other = true) :
    Confirms (.event row.eventId row.eventFamilyId row.eventId) rows (confirmEvent row rows) := by
  obtain ⟨other, hother, hclash⟩ := hclash
  have hselect : ∃ other ∈ rows, ∃ existing, selectEvent row.eventId other = some existing := by
    cases other <;> simp only [Row.clash, beq_iff_eq, Bool.false_eq_true] at hclash
    exact ⟨_, hother, _, if_pos hclash.symm⟩
  obtain ⟨other, hother, existing, hselect, hanswer⟩ := fetchOne_bind hselect _
  rw [confirmEvent, hanswer]
  cases other <;> simp only [selectEvent, Option.ite_none_right_eq_some, Option.some.injEq,
    reduceCtorEq] at hselect
  rename_i familyId name
  obtain ⟨hid, rfl⟩ := hselect
  have hname : name = row.eventId := (hgood _ hother).trans hid
  rw [hid, hname] at hother
  by_cases hfamily : familyId = row.eventFamilyId
  · rw [hfamily] at hother
    exact .inl ⟨if_neg (by simp [hfamily, hname]), hother⟩
  · refine .inr ⟨⟨_, if_pos (.inl hfamily)⟩, _, hother, by simp [Row.clash], ?_⟩
    intro hsame
    injection hsame with _ hsame
    exact hfamily hsame

theorem confirms_condition
    (hclash : ∃ other ∈ rows, (Row.condition row.conditionId row.eventId).clash other = true) :
    Confirms (.condition row.conditionId row.eventId) rows (confirmCondition row rows) := by
  obtain ⟨other, hother, hclash⟩ := hclash
  have hselect : ∃ other ∈ rows, ∃ eventId, selectCondition row.conditionId other = some eventId := by
    cases other <;> simp only [Row.clash, beq_iff_eq, Bool.false_eq_true] at hclash
    exact ⟨_, hother, _, if_pos hclash.symm⟩
  obtain ⟨other, hother, eventId, hselect, hanswer⟩ := fetchOne_bind hselect _
  rw [confirmCondition, hanswer]
  cases other <;> simp only [selectCondition, Option.ite_none_right_eq_some, Option.some.injEq,
    reduceCtorEq] at hselect
  obtain ⟨hid, rfl⟩ := hselect
  rw [hid] at hother
  rename_i eventId
  by_cases hevent : eventId = row.eventId
  · rw [hevent] at hother
    exact .inl ⟨if_neg (not_not.mpr hevent), hother⟩
  · refine .inr ⟨⟨_, if_pos hevent⟩, _, hother, by simp [Row.clash], ?_⟩
    intro hsame
    injection hsame with _ hsame
    exact hevent hsame

theorem confirms_token
    (hclash : ∃ other ∈ rows, (Row.token row.tokenId row.conditionId row.outcomeLabel).clash other = true) :
    Confirms (.token row.tokenId row.conditionId row.outcomeLabel) rows (confirmToken row rows) := by
  obtain ⟨other, hother, hclash⟩ := hclash
  have hselect : ∃ other ∈ rows, ∃ existing, selectToken row.tokenId other = some existing := by
    cases other <;> simp only [Row.clash, beq_iff_eq, Bool.false_eq_true] at hclash
    exact ⟨_, hother, _, if_pos hclash.symm⟩
  obtain ⟨other, hother, existing, hselect, hanswer⟩ := fetchOne_bind hselect _
  rw [confirmToken, hanswer]
  cases other <;> simp only [selectToken, Option.ite_none_right_eq_some, Option.some.injEq,
    reduceCtorEq] at hselect
  rename_i conditionId outcomeLabel
  obtain ⟨hid, rfl⟩ := hselect
  rw [hid] at hother
  by_cases hcondition : conditionId = row.conditionId
  · by_cases hlabel : outcomeLabel = row.outcomeLabel
    · rw [hcondition, hlabel] at hother
      refine .inl ⟨?_, hother⟩
      rw [if_neg (not_not.mpr hcondition), if_neg (not_not.mpr hlabel)]
    · refine .inr ⟨⟨.conflictingTokenMetadata row.tokenId, ?_⟩, _, hother, by simp [Row.clash], ?_⟩
      · rw [if_neg (not_not.mpr hcondition), if_pos hlabel]
      · intro hsame
        injection hsame with _ _ hsame
        exact hlabel hsame
  · refine .inr ⟨⟨_, if_pos hcondition⟩, _, hother, by simp [Row.clash], ?_⟩
    intro hsame
    injection hsame with _ hsame
    exact hcondition hsame

theorem mem_of_findSome?_selectMarket {marketId conditionId eventId route : String}
    (h : rows.findSome? (selectMarket marketId) = some (conditionId, eventId, route)) :
    .market marketId conditionId eventId route ∈ rows := by
  obtain ⟨other, hother, hselect⟩ := List.exists_of_findSome?_eq_some h
  cases other <;> simp only [selectMarket, Option.ite_none_right_eq_some, Option.some.injEq,
    Prod.mk.injEq, reduceCtorEq] at hselect
  obtain ⟨rfl, rfl, rfl, rfl⟩ := hselect
  exact hother

theorem confirms_market (hgood : ∀ row ∈ rows, row.Good) {known : MarketRoute}
    (hroute : row.route = marketRouteToStr known)
    (hclash : ∃ other ∈ rows,
      (Row.market row.marketId row.conditionId row.eventId row.route).clash other = true) :
    Confirms (.market row.marketId row.conditionId row.eventId row.route) rows
      (confirmMarket row rows) := by
  rw [confirmMarket]
  split
  · rename_i conditionId eventId route hfound
    have hother := mem_of_findSome?_selectMarket hfound
    have hclash : (Row.market row.marketId row.conditionId row.eventId row.route).clash
        (.market row.marketId conditionId eventId route) = true := by simp [Row.clash]
    by_cases hlinks : conditionId = row.conditionId ∧ eventId = row.eventId
    · obtain ⟨rfl, rfl⟩ := hlinks
      rw [if_neg (by simp)]
      by_cases hsame : route = row.route
      · rw [hsame] at hother
        exact .inl ⟨if_neg (not_not.mpr hsame), hother⟩
      · obtain ⟨known', hknown'⟩ := hgood _ hother
        refine .inr ⟨⟨.conflictingConditionRoute row.conditionId known' known, ?_⟩, _, hother, hclash, ?_⟩
        · rw [if_pos hsame, hknown', hroute, marketRouteFromStr_toStr, marketRouteFromStr_toStr]
          rfl
        · intro h
          injection h with _ _ _ h
          exact hsame h
    · refine .inr ⟨⟨_, if_pos (not_and_or.mp hlinks)⟩, _, hother, hclash, ?_⟩
      intro h
      injection h with _ hcondition hevent
      exact hlinks ⟨hcondition, hevent⟩
  · -- the row in the way is the market of the condition
    rename_i hnone
    rw [List.findSome?_eq_none_iff] at hnone
    obtain ⟨other, hother, hclash⟩ := hclash
    cases other <;> simp only [Row.clash, Bool.or_eq_true, beq_iff_eq, Bool.false_eq_true] at hclash
    rename_i marketId conditionId eventId route
    have hmarket : marketId ≠ row.marketId := by
      intro hsame
      have hnot := hnone _ hother
      rw [selectMarket, if_pos hsame] at hnot
      cases hnot
    obtain hcondition : row.conditionId = conditionId := hclash.resolve_left fun h ↦ hmarket h.symm
    have hfound : (rows.findSome? (selectMarketOfCondition row.conditionId)).isSome = true := by
      rw [List.findSome?_isSome_iff]
      exact ⟨_, hother, by simp [selectMarketOfCondition, hcondition]⟩
    refine .inr ⟨⟨_, if_pos hfound⟩, _, hother, by simp [Row.clash, hcondition], ?_⟩
    intro h
    injection h with h
    exact hmarket h

/-- The records of well-formed rows can be read. -/
theorem exists_listRecordsInTx (hgood : ∀ row ∈ rows, row.Good) :
    ∃ records, listRecordsInTx rows = .ok records ∧
      ∀ record, record ∈ records ↔ .identifierMap (.fromDomain record) ∈ rows := by
  have hmem : ∀ row, row ∈ (rows.filterMap Row.identifierMap?).insertionSort (fun row row' ↦
      (compare row.sortColumns row'.sortColumns).isLE = true) ↔ Row.identifierMap row ∈ rows := by
    intro row
    rw [(List.perm_insertionSort _ _).mem_iff, List.mem_filterMap]
    constructor
    · rintro ⟨other, hother, hmapped⟩
      cases other <;> simp only [Row.identifierMap?, Option.some.injEq, reduceCtorEq] at hmapped
      rwa [hmapped] at hother
    · intro hrow
      exact ⟨_, hrow, rfl⟩
  have hread : ∀ row ∈ (rows.filterMap Row.identifierMap?).insertionSort (fun row row' ↦
      (compare row.sortColumns row'.sortColumns).isLE = true), ∃ record, row.intoDomain = .ok record := by
    intro row hrow
    obtain ⟨record, rfl⟩ := hgood _ ((hmem row).mp hrow)
    exact ⟨record, IdentifierRecordRow.intoDomain_fromDomain record⟩
  obtain ⟨records, hrecords⟩ : ∃ records, listRecordsInTx rows = .ok records := by
    rcases hanswer : listRecordsInTx rows with error | records
    · obtain ⟨row, hrow, hnever⟩ := exists_error_of_mapM hanswer
      obtain ⟨record, hrecord⟩ := hread row hrow
      exact absurd hrecord (hnever record)
    · exact ⟨records, rfl⟩
  refine ⟨records, hrecords, fun record ↦ ?_⟩
  rw [mem_values_iff hrecords]
  constructor
  · rintro ⟨row, hrow, hrecord⟩
    have hrow := (hmem row).mp hrow
    obtain ⟨record', rfl⟩ := hgood _ hrow
    rw [IdentifierRecordRow.intoDomain_fromDomain] at hrecord
    cases hrecord
    exact hrow
  · intro hrow
    exact ⟨_, (hmem _).mpr hrow, IdentifierRecordRow.intoDomain_fromDomain record⟩

theorem mem_of_findSome?_selectMapped {tokenId : String} {existing : IdentifierRecordRow}
    (h : rows.findSome? (selectMapped tokenId) = some existing) :
    .identifierMap existing ∈ rows ∧ existing.tokenId = tokenId := by
  obtain ⟨other, hother, hselect⟩ := List.exists_of_findSome?_eq_some h
  cases other <;> simp only [selectMapped, Option.ite_none_right_eq_some, Option.some.injEq,
    reduceCtorEq] at hselect
  obtain ⟨htoken, rfl⟩ := hselect
  exact ⟨hother, htoken⟩

theorem confirms_identifierMap (hgood : ∀ row ∈ rows, row.Good) {record : IdentifierRecord}
    (hclash : ∃ other ∈ rows, (Row.identifierMap (.fromDomain record)).clash other = true) :
    Confirms (.identifierMap (.fromDomain record)) rows
      (confirmIdentifierMap (.fromDomain record) rows) := by
  rw [confirmIdentifierMap]
  split
  · rename_i existing hfound
    obtain ⟨hother, htoken⟩ := mem_of_findSome?_selectMapped hfound
    obtain ⟨existing, rfl⟩ := hgood _ hother
    rw [IdentifierRecordRow.intoDomain_fromDomain, IdentifierRecordRow.intoDomain_fromDomain]
    by_cases hsame : existing = record
    · rw [hsame] at hother
      exact .inl ⟨if_neg (not_not.mpr hsame), hother⟩
    · refine .inr ⟨?_, _, hother, by simp [Row.clash, htoken], ?_⟩
      · obtain ⟨records, hrecords, -⟩ := exists_listRecordsInTx hgood
        show ∃ error, (if existing ≠ record then _ else _) = _
        rw [if_pos hsame, hrecords]
        show ∃ error, ((IdentifierMap.fromRecords (records ++ [record])).mapError _ >>= _) = _
        rcases IdentifierMap.fromRecords (records ++ [record]) with error | map
        · exact ⟨error, rfl⟩
        · exact ⟨_, rfl⟩
      · intro h
        injection h with h
        exact hsame (IdentifierRecordRow.fromDomain_injective h)
  · rename_i hnone
    rw [List.findSome?_eq_none_iff] at hnone
    obtain ⟨other, hother, hclash⟩ := hclash
    cases other <;> simp only [Row.clash, Bool.or_eq_true, Bool.and_eq_true, beq_iff_eq,
      Bool.false_eq_true] at hclash
    rename_i existing
    have htoken : existing.tokenId ≠ (IdentifierRecordRow.fromDomain record).tokenId := by
      intro hsame
      have hnot := hnone _ hother
      rw [selectMapped, if_pos hsame] at hnot
      cases hnot
    obtain ⟨hcondition, hlabel⟩ := hclash.resolve_left fun h ↦ htoken h.symm
    have hfound : (rows.findSome? (selectOutcome (IdentifierRecordRow.fromDomain record).conditionId
        (IdentifierRecordRow.fromDomain record).outcomeLabel)).isSome = true := by
      rw [List.findSome?_isSome_iff]
      exact ⟨_, hother, by simp [selectOutcome, hcondition, hlabel]⟩
    refine .inr ⟨⟨_, if_pos hfound⟩, _, hother, by simp [Row.clash, hcondition, hlabel], ?_⟩
    intro h
    injection h with h
    exact htoken (congrArg IdentifierRecordRow.tokenId h)

end Confirm

/-! ## Inserting or confirming a row -/

/-- What an insertion that is confirmed may come to. -/
inductive Confirmed {τ : Type} (row : Row) (rows others : List Row) (next : τ) :
    Outcome Row τ CatalogueError → Prop where
  | waits (h : ∃ other ∈ others, row.clash other = true) : Confirmed row rows others next .waits
  | continues (h : row ∈ rows) : Confirmed row rows others next (.continues next)
  | inserts : Confirmed row rows others next (.inserts row next)
  | fails (conflict : IdentifierMapError) (h : ∃ other ∈ rows, row.clash other = true ∧ other ≠ row) :
      Confirmed row rows others next (.fails (.identifierConflict conflict))

theorem exec_insertOrConfirm {τ : Type} {row : Row} {confirm : List Row → Except CatalogueError Unit}
    {rows : List Row} (next : τ) (others : List Row) (hinvalid : row.invalid = none)
    (hdangling : row.dangling (rows ++ [row]) = none)
    (hconfirm : (∃ other ∈ rows, row.clash other = true) → Confirms row rows (confirm rows)) :
    Confirmed row rows others next
      ((insertOrConfirm row confirm next).exec Row.clash rows others) := by
  simp only [insertOrConfirm, Statement.exec, hinvalid, Option.map_none]
  by_cases hany : rows.any row.clash = true
  · rw [if_pos hany]
    rcases hconfirm (List.any_eq_true.mp hany) with ⟨hanswer, hrow⟩ | ⟨⟨error, hanswer⟩, hother⟩
    · rw [hanswer]
      exact .continues hrow
    · rw [hanswer]
      exact .fails error hother
  · rw [if_neg hany]
    split_ifs with hothers
    · exact .waits (List.any_eq_true.mp hothers)
    · rw [hdangling]
      exact .inserts

/-! ## Inserting an order -/

theorem NewOrderRow.complete_iff {row : NewOrderRow} :
    row.Complete ↔ ∃ identity : Option SignedOrderIdentity,
      row.signedOrderHash = identity.map SignedOrderIdentity.signedOrderHash ∧
        row.salt = identity.map SignedOrderIdentity.salt ∧
        row.nonce = identity.map SignedOrderIdentity.nonce ∧
        row.signature = identity.map SignedOrderIdentity.signature := by
  constructor
  · rintro ⟨order, retryOfOrderId, rfl⟩
    exact ⟨order.signedOrder, rfl, rfl, rfl, rfl⟩
  · rintro ⟨identity, hhash, hsalt, hnonce, hsignature⟩
    refine ⟨{
      orderId := row.orderId
      marketId := row.marketId
      conditionId := row.conditionId
      tokenId := row.tokenId
      quantity := row.quantity
      price := row.price
      submissionState := row.submissionState
      venueState := row.venueState
      settlementState := row.settlementState
      signedOrder := identity }, row.retryOfOrderId, ?_⟩
    cases row
    simp only [fromDomain, NewOrderRow.mk.injEq, true_and, and_true]
    exact ⟨hhash, hsalt, hnonce, hsignature⟩

/-- None of the four fields, or all. -/
theorem signedFieldCount_iff {row : NewOrderRow} :
    ¬ (signedFieldCount row ≠ 0 ∧ signedFieldCount row ≠ 4) ↔ row.Complete := by
  rw [NewOrderRow.complete_iff, signedFieldCount]
  constructor
  · intro hcount
    rcases hhash : row.signedOrderHash with _ | hash <;> rcases hsalt : row.salt with _ | salt <;>
      rcases hnonce : row.nonce with _ | nonce <;> rcases hsignature : row.signature with _ | signature
    case none.none.none.none => exact ⟨none, rfl, rfl, rfl, rfl⟩
    case some.some.some.some => exact ⟨some ⟨hash, salt, nonce, signature⟩, rfl, rfl, rfl, rfl⟩
    all_goals simp [hhash, hsalt, hnonce, hsignature] at hcount
  · rintro ⟨identity, hhash, hsalt, hnonce, hsignature⟩
    rw [hhash, hsalt, hnonce, hsignature]
    cases identity <;> simp

theorem invalid_insertedAt {row : NewOrderRow} (h : row.Complete) (now : DateTime) :
    (Row.order (row.insertedAt now)).invalid = none := by
  obtain ⟨identity, hhash, hsalt, hnonce, hsignature⟩ := NewOrderRow.complete_iff.mp h
  have hsettlement : settlementState row ∈
      ["matched", "mined", "confirmed", "retrying", "failed", "unknown"] := by
    rw [settlementState]
    cases row.settlementState <;> simp
  have hsubmission : submissionState row ∈
      ["draft", "planned", "risk_approved", "signed", "submitted", "acked", "rejected", "unknown"] := by
    rw [submissionState]
    cases row.submissionState <;> simp
  have hvenue : venueState row ∈
      ["live", "matched", "delayed", "unmatched", "cancel_pending", "cancelled", "expired",
        "unknown"] := by
    rw [venueState]
    cases row.venueState <;> simp
  have hidentity : row.signedOrderHash = none ∧ row.salt = none ∧ row.nonce = none ∧
        row.signature = none ∨
      row.signedOrderHash ≠ none ∧ row.salt ≠ none ∧ row.nonce ≠ none ∧ row.signature ≠ none := by
    rw [hhash, hsalt, hnonce, hsignature]
    cases identity <;> simp
  calc (Row.order (row.insertedAt now)).invalid
      = _ := if_neg (not_not.mpr hsettlement)
    _ = _ := if_neg (not_not.mpr hidentity)
    _ = _ := if_neg (not_not.mpr hsubmission)
    _ = none := if_neg (not_not.mpr hvenue)

/-- The row that is there was inserted from the same input, maybe at another time. -/
theorem orderRowMatchesInput_iff {row new : NewOrderRow} {time : DateTime} :
    orderRowMatchesInput (new.insertedAt time) row = true ↔ new.insertedAt time = row.insertedAt time := by
  simp only [orderRowMatchesInput, NewOrderRow.insertedAt, Bool.and_eq_true, beq_iff_eq,
    OrderRow.mk.injEq, and_assoc, and_true]

/-- The errors with which an order is refused. -/
inductive NewOrderRow.Refused (row : NewOrderRow) : CatalogueError → Prop where
  | incomplete (h : ¬ row.Complete) : Refused row .incompleteSignedOrderIdentity
  | duplicate (signedOrderHash existingOrderId : String)
      (h : row.signedOrderHash = some signedOrderHash) :
      Refused row (.duplicateSignedOrderHash signedOrderHash existingOrderId row.orderId)
  | linkage : Refused row (.invalidOrderIdentifierLinkage row.marketId row.conditionId row.tokenId)
  | immutable : Refused row (.immutableOrderConflict row.orderId)
  | retry : Refused row (.sqlx "orders_retry_of_order_id_fkey")

section Orders

variable {row : NewOrderRow} {rows : List Row}

theorem checkSignedOrder_spec (row : NewOrderRow) (rows : List Row) :
    (checkSignedOrder row rows = .ok () ∧ row.Complete) ∨
      ∃ error, checkSignedOrder row rows = .error error ∧ row.Refused error := by
  rw [checkSignedOrder]
  by_cases hcomplete : row.Complete
  · rw [if_neg (signedFieldCount_iff.mpr hcomplete)]
    split
    · exact .inl ⟨rfl, hcomplete⟩
    · rename_i signedOrderHash hhash
      split
      · exact .inr ⟨_, rfl, .duplicate _ _ hhash⟩
      · exact .inl ⟨rfl, hcomplete⟩
  · rw [if_pos (not_not.mp (mt signedFieldCount_iff.mp hcomplete))]
    exact .inr ⟨_, rfl, .incomplete hcomplete⟩

theorem mem_of_findSome?_selectOrder {orderId : String} {existing : OrderRow}
    (h : rows.findSome? (selectOrder orderId) = some existing) :
    .order existing ∈ rows ∧ existing.orderId = orderId := by
  obtain ⟨other, hother, hselect⟩ := List.exists_of_findSome?_eq_some h
  cases other <;> simp only [selectOrder, Option.ite_none_right_eq_some, Option.some.injEq,
    reduceCtorEq] at hselect
  obtain ⟨hid, rfl⟩ := hselect
  exact ⟨hother, hid⟩

theorem confirmOrder_spec (hgood : ∀ row ∈ rows, row.Good)
    (hthere : ∃ other ∈ rows, Row.isOrder row.orderId other = true) :
    (confirmOrder row rows = .ok () ∧ ∃ time, .order (row.insertedAt time) ∈ rows) ∨
      confirmOrder row rows = .error (.immutableOrderConflict row.orderId) := by
  rw [confirmOrder]
  split
  · rename_i hnone
    rw [List.findSome?_eq_none_iff] at hnone
    obtain ⟨other, hother, hid⟩ := hthere
    cases other <;> simp only [Row.isOrder, beq_iff_eq, Bool.false_eq_true] at hid
    have hnot := hnone _ hother
    rw [selectOrder, if_pos hid] at hnot
    cases hnot
  · rename_i existing hfound
    obtain ⟨hother, -⟩ := mem_of_findSome?_selectOrder hfound
    obtain ⟨new, time, -, rfl⟩ := hgood _ hother
    by_cases hmatches : orderRowMatchesInput (new.insertedAt time) row = true
    · refine .inl ⟨if_pos hmatches, time, ?_⟩
      rwa [orderRowMatchesInput_iff.mp hmatches] at hother
    · exact .inr (if_neg hmatches)

/-- What the insertion of an order may come to. -/
inductive Stored {τ : Type} (row : NewOrderRow) (now : DateTime) (rows : List Row) (next : τ) :
    Outcome Row τ CatalogueError → Prop where
  | waits : Stored row now rows next .waits
  | continues (time : DateTime) (h : .order (row.insertedAt time) ∈ rows) :
      Stored row now rows next (.continues next)
  | inserts (h : (Row.order (row.insertedAt now)).dangling
      (rows ++ [.order (row.insertedAt now)]) = none) :
      Stored row now rows next (.inserts (.order (row.insertedAt now)) next)
  | fails (error : CatalogueError) (h : row.Refused error) : Stored row now rows next (.fails error)

theorem exec_insertOrder {τ : Type} (now : DateTime) (next : τ) (others : List Row)
    (hgood : ∀ row ∈ rows, row.Good) (hcomplete : row.Complete) :
    Stored row now rows next ((insertOrder row now next).exec Row.clash rows others) := by
  simp only [insertOrder, Statement.exec, invalid_insertedAt hcomplete, Option.map_none]
  by_cases hthere : rows.any (Row.isOrder row.orderId) = true
  · rw [if_pos hthere]
    rcases confirmOrder_spec hgood (List.any_eq_true.mp hthere) with
      ⟨hanswer, time, htime⟩ | hanswer
    · rw [hanswer]
      exact .continues time htime
    · rw [hanswer]
      exact .fails _ .immutable
  · rw [if_neg hthere]
    split_ifs with hothers hclash
    · exact .waits
    · -- no row has the order's identifier, so it is the hash that is there already
      obtain ⟨other, hother, hclash⟩ := List.any_eq_true.mp hclash
      cases other <;> simp only [Row.clash, NewOrderRow.insertedAt, Bool.or_eq_true, Bool.and_eq_true,
        beq_iff_eq, Bool.false_eq_true] at hclash
      rename_i existing
      rcases hclash with hid | ⟨hsome, -⟩
      · exact absurd (List.any_eq_true.mpr ⟨_, hother, by simp [Row.isOrder, hid]⟩) hthere
      · obtain ⟨signedOrderHash, hhash⟩ := Option.isSome_iff_exists.mp hsome
        refine .fails _ ?_
        rw [duplicateSignedOrder, hhash]
        exact .duplicate _ _ hhash
    · rcases hdangling : (Row.order (row.insertedAt now)).dangling
        (rows ++ [.order (row.insertedAt now)]) with _ | constraint
      · rw [hdangling]
        exact .inserts hdangling
      · rw [hdangling]
        refine .fails _ ?_
        rw [danglingOrder]
        split_ifs with hlink
        · exact .linkage
        · obtain ⟨key, hkey, rfl⟩ := Option.map_eq_some_iff.mp hdangling
          have hmem := List.mem_of_find?_eq_some hkey
          simp only [Row.foreignKeys, List.mem_append, List.mem_map, List.mem_singleton] at hmem
          rcases hmem with ⟨orderId, -, rfl⟩ | rfl
          · exact .retry
          · exact absurd rfl hlink

end Orders

end AxiomArb.Persistence
