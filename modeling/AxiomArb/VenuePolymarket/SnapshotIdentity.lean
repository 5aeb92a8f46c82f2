import AxiomArb.Library.Delimited
import AxiomArb.VenuePolymarket.DiscoveredRows

/-!
# What a snapshot hash identifies

The fields of a snapshot are hashed with a unit separator behind each, and what is hashed
tells two snapshots apart exactly if their fields do once they are cut at every separator
(`snapshotText_eq_iff`).  Rows are put in a canonical order by a key that leaves out the
family, so events may be rearranged freely exactly if no two rows are tied.
-/

namespace AxiomArb.VenuePolymarket

open Domain Library

/-! ## What is hashed -/

def UNIT_SEPARATOR : Char := '\x1f'

/-- The fields as they are hashed.  A newline ends each row, and so leads the field behind it. -/
def hashedFields : List Char → List CanonicalNegRiskRow → List (List Char)
  | lead, [] => [lead]
  | lead, row :: rows =>
      (lead ++ row.eventFamilyId.toList) :: (row.hashFields.tail.map String.toList ++
        hashedFields ['\n'] rows)

theorem hashedFields_ne_nil (lead : List Char) (rows : List CanonicalNegRiskRow) :
    hashedFields lead rows ≠ [] := by
  cases rows <;> simp [hashedFields]

theorem toList_foldl_updateHashField (fields : List String) (hashed : String) :
    (fields.foldl updateHashField hashed).toList =
      hashed.toList ++ (fields.map String.toList).flatMap (· ++ [UNIT_SEPARATOR]) := by
  induction fields generalizing hashed with
  | nil => simp
  | cons field fields ih =>
      have hfield : (updateHashField hashed field).toList =
          hashed.toList ++ (field.toList ++ [UNIT_SEPARATOR]) := by
        rw [updateHashField, String.toList_append, String.toList_append, List.append_assoc]
        rfl
      rw [List.foldl_cons, ih, hfield, List.map_cons, List.flatMap_cons, List.append_assoc]

/-- The text is the fields, joined by separators. -/
theorem toList_snapshotText (rows : List CanonicalNegRiskRow) :
    (snapshotText rows).toList = [UNIT_SEPARATOR].intercalate (hashedFields [] rows) := by
  have hall : ∀ (rows : List CanonicalNegRiskRow) (hashed : String) (front lead : List Char),
      hashed.toList = front ++ lead →
      (rows.foldl (fun hashed row ↦ row.hashFields.foldl updateHashField hashed ++ "\n") hashed).toList =
        front ++ [UNIT_SEPARATOR].intercalate (hashedFields lead rows) := by
    intro rows
    induction rows with
    | nil =>
        intro hashed front lead h
        rw [hashedFields, List.intercalate_singleton, List.foldl_nil, h]
    | cons row rows ih =>
        intro hashed front lead h
        have hfields : row.hashFields = row.eventFamilyId :: row.hashFields.tail := rfl
        rw [List.foldl_cons, ih _ (front ++ (lead ++ row.eventFamilyId.toList ++ [UNIT_SEPARATOR]) ++
          (row.hashFields.tail.map String.toList).flatMap (· ++ [UNIT_SEPARATOR])) ['\n'],
          hashedFields, ← List.cons_append,
          intercalate_append_flatMap (hashedFields_ne_nil _ rows), List.flatMap_cons]
        · simp only [List.append_assoc]
        · rw [String.toList_append, toList_foldl_updateHashField, hfields, h]
          simp [List.append_assoc]
  exact hall rows "" [] [] rfl

/-- What is hashed is known from the fields, cut at every separator, and tells no more. -/
theorem snapshotText_eq_iff {rows rows' : List CanonicalNegRiskRow} :
    snapshotText rows = snapshotText rows' ↔
      pieces UNIT_SEPARATOR (hashedFields [] rows) =
        pieces UNIT_SEPARATOR (hashedFields [] rows') := by
  rw [← String.toList_inj, toList_snapshotText, toList_snapshotText,
    intercalate_eq_iff (hashedFields_ne_nil _ rows) (hashedFields_ne_nil _ rows')]

/-- Snapshots that differ do so in their fields, cut at every separator. -/
def ToldApart (rows rows' : List CanonicalNegRiskRow) : Prop :=
  pieces UNIT_SEPARATOR (hashedFields [] rows) = pieces UNIT_SEPARATOR (hashedFields [] rows') →
    rows = rows'

/-! ### Fields without a separator -/

theorem marketRouteLabel_injective : Function.Injective marketRouteLabel := by
  intro route route' h
  cases route <;> cases route' <;> simp_all [marketRouteLabel]

theorem negRiskVariantLabel_injective : Function.Injective negRiskVariantLabel := by
  intro variant variant' h
  cases variant <;> cases variant' <;> simp_all [negRiskVariantLabel]

theorem boolLabel_injective : Function.Injective boolLabel := by
  intro value value' h
  cases value <;> cases value' <;> simp_all [boolLabel]

theorem optionalBoolLabel_injective : Function.Injective optionalBoolLabel := by
  rintro (_ | _ | _) (_ | _ | _) h <;> simp_all [optionalBoolLabel, boolLabel]

theorem hashFields_injective : Function.Injective CanonicalNegRiskRow.hashFields := by
  intro row row' h
  simp only [CanonicalNegRiskRow.hashFields, List.cons.injEq, and_true] at h
  obtain ⟨hfamily, hevent, hcondition, htoken, hlabel, hroute, henable, haugmented, hvariant,
    hplaceholder, hother⟩ := h
  cases row
  cases row'
  simp only [CanonicalNegRiskRow.mk.injEq]
  exact ⟨hfamily, hevent, hcondition, htoken, hlabel, marketRouteLabel_injective hroute,
    optionalBoolLabel_injective henable, optionalBoolLabel_injective haugmented,
    negRiskVariantLabel_injective hvariant, boolLabel_injective hplaceholder,
    boolLabel_injective hother⟩

theorem hashedFields_injective (lead : List Char) : Function.Injective (hashedFields lead) := by
  intro rows rows' h
  induction rows generalizing lead rows' with
  | nil =>
      cases rows' with
      | nil => rfl
      | cons row' rows' => simp [hashedFields, CanonicalNegRiskRow.hashFields] at h
  | cons row rows ih =>
      cases rows' with
      | nil => simp [hashedFields, CanonicalNegRiskRow.hashFields] at h
      | cons row' rows' =>
          rw [hashedFields, hashedFields, List.cons.injEq] at h
          obtain ⟨hfamily, hrest⟩ := h
          obtain ⟨hfields, hrows⟩ := List.append_inj hrest rfl
          have hfamily : row.eventFamilyId = row'.eventFamilyId :=
            String.toList_inj.mp (List.append_cancel_left hfamily)
          have hrow : row.hashFields = row'.hashFields :=
            congrArg₂ List.cons hfamily (List.map_injective_iff.mpr (fun _ _ ↦ String.toList_inj.mp) hfields)
          rw [hashFields_injective hrow, ih ['\n'] hrows]

def SeparatorFree (rows : List CanonicalNegRiskRow) : Prop :=
  ∀ row ∈ rows, ∀ field ∈ row.hashFields, UNIT_SEPARATOR ∉ field.toList

theorem SeparatorFree.not_mem_hashedFields {rows : List CanonicalNegRiskRow} (h : SeparatorFree rows)
    {lead : List Char} (hlead : UNIT_SEPARATOR ∉ lead) :
    ∀ field ∈ hashedFields lead rows, UNIT_SEPARATOR ∉ field := by
  induction rows generalizing lead with
  | nil =>
      intro field hfield
      rwa [List.mem_singleton.mp hfield]
  | cons row rows ih =>
      have hrow := h row List.mem_cons_self
      have hrows : ∀ field ∈ hashedFields ['\n'] rows, UNIT_SEPARATOR ∉ field :=
        ih (fun row' hrow' ↦ h row' (List.mem_cons_of_mem row hrow')) (by decide)
      intro field hfield
      rw [hashedFields, List.mem_cons, List.mem_append, List.mem_map] at hfield
      rcases hfield with rfl | ⟨value, hvalue, rfl⟩ | hfield
      · rw [List.mem_append, not_or]
        exact ⟨hlead, hrow _ List.mem_cons_self⟩
      · exact hrow value (List.mem_of_mem_tail hvalue)
      · exact hrows field hfield

/-- Snapshots are told apart if no field holds a separator. -/
theorem toldApart_of_separatorFree {rows rows' : List CanonicalNegRiskRow} (h : SeparatorFree rows)
    (h' : SeparatorFree rows') : ToldApart rows rows' := fun hpieces ↦
  hashedFields_injective [] (eq_of_pieces_eq (h.not_mem_hashedFields List.not_mem_nil)
    (h'.not_mem_hashedFields List.not_mem_nil) hpieces)

/-! ## Events in another order -/

section Rearranged

variable (readStrings : String → Option (List String)) {events events' : List GammaEvent}

/-- The same event, with its markets in another order. -/
structure ReorderedMarkets (event event' : GammaEvent) : Prop where
  markets : event.markets.Perm event'.markets
  others : event' = { event with markets := event'.markets }

/-- The same events in another order, with their markets in another order. -/
def Rearranged (events events' : List GammaEvent) : Prop :=
  ∃ reordered, List.Forall₂ ReorderedMarkets events reordered ∧ reordered.Perm events'

theorem ReorderedMarkets.perm_rows {event event' : GammaEvent} (h : ReorderedMarkets event event') :
    (event.rows readStrings).Perm (event'.rows readStrings) := by
  obtain ⟨hmarkets, hothers⟩ := h
  rw [hothers, GammaEvent.rows, GammaEvent.rows]
  cases normalizedOptionalString event.id with
  | none => exact .nil
  | some eventId => exact hmarkets.filterMap _

theorem ReorderedMarkets.malformedRows_eq {event event' : GammaEvent}
    (h : ReorderedMarkets event event') :
    event.malformedRows readStrings = event'.malformedRows readStrings := by
  obtain ⟨hmarkets, hothers⟩ := h
  rw [hothers, GammaEvent.malformedRows, GammaEvent.malformedRows]
  cases normalizedOptionalString event.id with
  | none => exact congrArg (max · 1) (hmarkets.countP_eq event.isNegRisk)
  | some eventId => exact (hmarkets.map _).sum_eq

theorem Rearranged.perm_listedRows (h : Rearranged events events') :
    (listedRows readStrings events).Perm (listedRows readStrings events') := by
  obtain ⟨reordered, hreordered, hperm⟩ := h
  refine .trans ?_ (hperm.flatMap_right _)
  induction hreordered generalizing events' with
  | nil => exact .nil
  | cons hevent _ ih => exact (hevent.perm_rows readStrings).append (ih (.refl _))

theorem Rearranged.malformedRows_eq (h : Rearranged events events') :
    malformedRows readStrings events = malformedRows readStrings events' := by
  obtain ⟨reordered, hreordered, hperm⟩ := h
  refine .trans ?_ (hperm.map _).sum_eq
  induction hreordered generalizing events' with
  | nil => rfl
  | cons hevent _ ih =>
      rw [malformedRows, List.map_cons, List.map_cons, List.sum_cons, List.sum_cons,
        hevent.malformedRows_eq]
      exact congrArg _ (ih (.refl _))

theorem Rearranged.of_perm (h : events.Perm events') : Rearranged events events' :=
  ⟨events, List.forall₂_same.mpr fun _ _ ↦ { markets := .refl _, others := rfl }, h⟩

theorem agree_congr {rows rows' : List CanonicalNegRiskRow} (h : rows.Perm rows') :
    Agree rows ↔ Agree rows' :=
  ⟨fun hagree ↦ hagree.mono h.symm.subset, fun hagree ↦ hagree.mono h.subset⟩

theorem Rearranged.discoverable_iff (h : Rearranged events events') :
    Discoverable readStrings events ↔ Discoverable readStrings events' := by
  have hrows := h.perm_listedRows readStrings
  have hnone : listedRows readStrings events = [] ↔ listedRows readStrings events' = [] := by
    rw [← List.perm_nil, ← List.perm_nil]
    exact ⟨fun hnil ↦ hrows.symm.trans hnil, fun hnil ↦ hrows.trans hnil⟩
  have hagree := agree_congr hrows
  have hmalformed := h.malformedRows_eq readStrings
  constructor
  · rintro ⟨hfirst, hvalid⟩
    exact ⟨hagree.mp hfirst, fun hnil ↦ hmalformed ▸ hvalid (hnone.mpr hnil)⟩
  · rintro ⟨hfirst, hvalid⟩
    exact ⟨hagree.mpr hfirst, fun hnil ↦ hmalformed ▸ hvalid (hnone.mp hnil)⟩

/-! ### Ties -/

/-- No two different rows are sorted by one key. -/
def Untied (rows : List CanonicalNegRiskRow) : Prop :=
  ∀ row ∈ rows, ∀ row' ∈ rows, row.sortKey = row'.sortKey → row = row'

/-- Rows without a tie have one canonical order. -/
theorem canonicalizeRows_eq_of_untied {rows rows' : List CanonicalNegRiskRow} (h : rows.Perm rows')
    (huntied : Untied rows) :
    canonicalizeRows rows.eraseDups = canonicalizeRows rows'.eraseDups := by
  refine sortByKey_eq_iff.mpr fun key ↦ ?_
  have hall : ∀ rows : List CanonicalNegRiskRow, rows.Pairwise fun _ _ ↦ True := fun rows ↦
    List.pairwise_of_forall fun _ _ ↦ trivial
  refine ((perm_eraseDups h).filter _).eq_of_pairwise ?_ (hall _) (hall _)
  intro row row' hrow hrow' _ _
  rw [List.mem_filter, List.mem_eraseDups, decide_eq_true_eq] at hrow hrow'
  exact huntied row hrow.1 row' (h.mem_iff.mpr hrow'.1) (hrow.2.trans hrow'.2.symm)

/-- The rows of one event are of one family. -/
theorem eventFamilyId_eq_of_mem_rows {event : GammaEvent} {row row' : CanonicalNegRiskRow}
    (hrow : row ∈ event.rows readStrings) (hrow' : row' ∈ event.rows readStrings) :
    row.eventFamilyId = row'.eventFamilyId := by
  rw [GammaEvent.rows] at hrow hrow'
  cases hid : normalizedOptionalString event.id with
  | none =>
      rw [hid] at hrow
      exact absurd hrow List.not_mem_nil
  | some eventId =>
      rw [hid] at hrow hrow'
      have hfamily : ∀ row ∈ event.markets.filterMap (event.row? readStrings eventId),
          row.eventFamilyId = event.familyId eventId := by
        intro row hrow
        obtain ⟨market, -, hmarket⟩ := List.mem_filterMap.mp hrow
        rw [GammaEvent.row?] at hmarket
        split at hmarket
        · simp only [Option.bind_eq_bind, Option.bind_eq_some_iff] at hmarket
          obtain ⟨conditionId, -, tokenId, -, hsome⟩ := hmarket
          rw [← Option.some.inj hsome]
          rfl
        · cases hmarket
      rw [hfamily row hrow, hfamily row' hrow']

/-- If an event comes first, so does its row among the rows that are tied with it. -/
theorem find?_shownRows_cons {event : GammaEvent} {row : CanonicalNegRiskRow}
    (hagree : Agree (listedRows readStrings (event :: events)))
    (hrow : row ∈ event.rows readStrings) :
    (shownRows readStrings (event :: events)).find? (·.sortKey = row.sortKey) = some row := by
  have hlisted : listedRows readStrings (event :: events) =
      event.rows readStrings ++ listedRows readStrings events := List.flatMap_cons
  have hfirst : (event.rows readStrings).find? (·.sortKey = row.sortKey) = some row := by
    cases hfind : (event.rows readStrings).find? (·.sortKey = row.sortKey) with
    | none => simpa using List.find?_eq_none.mp hfind row hrow
    | some found =>
        have hfound := List.mem_of_find?_eq_some hfind
        have hkey : found.sortKey = row.sortKey := by simpa using List.find?_some hfind
        have hfamily := eventFamilyId_eq_of_mem_rows readStrings hfound hrow
        simp only [CanonicalNegRiskRow.sortKey, List.cons.injEq, and_true] at hkey
        obtain ⟨-, hcondition, htoken, -⟩ := hkey
        rw [hlisted] at hagree
        refine congrArg some (hagree found (List.mem_append_left _ hfound) row
          (List.mem_append_left _ hrow) ?_)
        rw [CanonicalNegRiskRow.memberKey, CanonicalNegRiskRow.memberKey, hfamily, hcondition, htoken]
  rw [shownRows, canonicalizeRows, ← List.head?_filter, filter_sortByKey, List.head?_filter,
    find?_eraseDups, hlisted, List.find?_append, hfirst, Option.some_or]

/-- Events whose order does not matter have no ties. -/
theorem untied_of_forall_perm (hagree : Agree (listedRows readStrings events))
    (h : ∀ events', events.Perm events' → shownRows readStrings events = shownRows readStrings events') :
    Untied (listedRows readStrings events) := by
  intro row hrow row' hrow' hkey
  have hshown : ∀ row ∈ listedRows readStrings events,
      (shownRows readStrings events).find? (·.sortKey = row.sortKey) = some row := by
    intro row hrow
    obtain ⟨event, hevent, hmem⟩ := List.mem_flatMap.mp hrow
    have hperm := List.perm_cons_erase hevent
    rw [h _ hperm]
    refine find?_shownRows_cons readStrings ?_ hmem
    exact (agree_congr ((Rearranged.of_perm hperm).perm_listedRows readStrings)).mp hagree
  have hfound := hshown row hrow
  rw [hkey, hshown row' hrow'] at hfound
  exact (Option.some.inj hfound).symm

variable (sha256 : String → String)

theorem toOption_discover_eq_some_iff {discovery : NegRiskDiscovery} :
    (discover readStrings sha256 events).toOption = some discovery ↔
      Discoverable readStrings events ∧
        discovery =
          { rows := shownRows readStrings events
            metadataSnapshotHash := snapshotHash sha256 (shownRows readStrings events) } := by
  rw [← discover_eq_ok_iff]
  cases discover readStrings sha256 events <;> simp [Except.toOption]

/-- Rearranged events are discovered alike exactly if they show the same rows. -/
theorem Rearranged.toOption_eq_iff (h : Rearranged events events') :
    (discover readStrings sha256 events).toOption = (discover readStrings sha256 events').toOption ↔
      (Discoverable readStrings events → shownRows readStrings events = shownRows readStrings events') := by
  have hdiscoverable := h.discoverable_iff readStrings
  constructor
  · intro hsame hfound
    have hfirst := (toOption_discover_eq_some_iff readStrings sha256).mpr ⟨hfound, rfl⟩
    rw [hsame, toOption_discover_eq_some_iff] at hfirst
    exact congrArg NegRiskDiscovery.rows hfirst.2
  · intro hshown
    refine Option.ext fun discovery ↦ ?_
    rw [toOption_discover_eq_some_iff, toOption_discover_eq_some_iff, ← hdiscoverable]
    refine and_congr_right fun hfound ↦ ?_
    rw [hshown hfound]

/-- Events may be rearranged exactly if none of their rows are tied, or some conflict. -/
theorem forall_rearranged_iff :
    (∀ events', Rearranged events events' →
      (discover readStrings sha256 events).toOption = (discover readStrings sha256 events').toOption) ↔
      (Agree (listedRows readStrings events) → Untied (listedRows readStrings events)) := by
  constructor
  · intro h hagree
    by_cases hnone : listedRows readStrings events = []
    · rw [hnone]
      exact fun row hrow ↦ absurd hrow List.not_mem_nil
    · have hfound : Discoverable readStrings events :=
        { agree := hagree, some_valid := fun hnil ↦ absurd hnil hnone }
      refine untied_of_forall_perm readStrings hagree fun events' hperm ↦ ?_
      have hrearranged := Rearranged.of_perm hperm
      exact (hrearranged.toOption_eq_iff readStrings sha256).mp (h events' hrearranged) hfound
  · intro h events' hrearranged
    refine (hrearranged.toOption_eq_iff readStrings sha256).mpr fun hfound ↦ ?_
    exact canonicalizeRows_eq_of_untied (hrearranged.perm_listedRows readStrings) (h hfound.agree)

end Rearranged

/-! ## Named events -/

def namedMarket : GammaMarket :=
  { conditionId := some "condition-1"
    clobTokenIds := .values ["token-1"]
    groupItemTitle := some "Alice"
    title := none
    shortOutcomes := .values []
    outcomes := .values []
    question := none
    negRisk := none
    negRiskOther := none }

def namedEvent (parentEventId id : String) : GammaEvent :=
  { id := some id
    title := none
    parentEventId := some parentEventId
    negRisk := some true
    enableNegRisk := none
    negRiskAugmented := none
    markets := [namedMarket] }

/-! ## The hash of a discovery -/

section Identity

variable (readStrings : String → Option (List String)) (sha256 : String → String)
  {γ ρ : Type} {events other : List GammaEvent}

/-- Equal hashes mean equal rows exactly if the rows are told apart. -/
theorem forall_hash_iff (hsha : Function.Injective sha256) :
    (∀ found found', discover readStrings sha256 events = .ok found →
      discover readStrings sha256 other = .ok found' →
      found.metadataSnapshotHash = found'.metadataSnapshotHash → found.rows = found'.rows) ↔
      (Discoverable readStrings events → Discoverable readStrings other →
        ToldApart (shownRows readStrings events) (shownRows readStrings other)) := by
  have hhash : ∀ rows rows', snapshotHash sha256 rows = snapshotHash sha256 rows' ↔
      pieces UNIT_SEPARATOR (hashedFields [] rows) =
        pieces UNIT_SEPARATOR (hashedFields [] rows') := by
    intro rows rows'
    rw [← snapshotText_eq_iff]
    refine ⟨fun h ↦ hsha ?_, fun h ↦ by rw [snapshotHash, snapshotHash, h]⟩
    have hdigest : toString (sha256 (snapshotText rows)) = toString (sha256 (snapshotText rows')) := by
      simpa [snapshotHash] using h
    exact hdigest
  simp only [discover_eq_ok_iff]
  constructor
  · intro h hfound hfound' hpieces
    exact h _ _ ⟨hfound, rfl⟩ ⟨hfound', rfl⟩ ((hhash _ _).mpr hpieces)
  · rintro h _ _ ⟨hfound, rfl⟩ ⟨hfound', rfl⟩ hsame
    exact h hfound hfound' ((hhash _ _).mp hsame)

/-- The gateway delivers these events, in some pages. -/
def Lists (api : Nat → Nat → Except γ (List GammaEvent)) (events : List GammaEvent) : Prop :=
  ∃ pages, Delivers (fetchGatewayMetadataPage api) 0 pages ∧ pages.flatten = events

theorem exists_lists (γ : Type) (events : List GammaEvent) :
    ∃ api : Nat → Nat → Except γ (List GammaEvent), Lists api events := by
  refine ⟨fun offset _ ↦ .ok (if offset = 0 then events else []), ?_⟩
  by_cases hnone : events = []
  · refine ⟨[], .last ?_, hnone.symm⟩
    rw [fetchGatewayMetadataPage, if_pos rfl, hnone]
    rfl
  · exact ⟨[events], .page rfl hnone (.last rfl), List.flatten_singleton⟩

/-- The discovery through the gateway comes to an end, and so. -/
def EndsFromApi (api : Nat → Nat → Except γ (List GammaEvent))
    (result : Except (MetadataApiRefreshError γ) NegRiskDiscovery) : Prop :=
  ∃ fuel, discoverNegRiskMetadataRowsFromApi readStrings sha256 api fuel = some result

variable {readStrings sha256}

theorem Lists.endsFromApi_iff {api : Nat → Nat → Except γ (List GammaEvent)} (h : Lists api events)
    {result : Except (MetadataApiRefreshError γ) NegRiskDiscovery} :
    EndsFromApi readStrings sha256 api result ↔
      result = (discover readStrings sha256 events).mapError .metadata := by
  obtain ⟨pages, hpages, rfl⟩ := h
  exact exists_discoverRows_iff readStrings sha256 hpages result

variable (readStrings sha256)

/-- Events are discovered alike in whatever order and in whatever pages they come. -/
def OrderFree (γ : Type) (events : List GammaEvent) : Prop :=
  ∀ (api api' : Nat → Nat → Except γ (List GammaEvent)) (events' : List GammaEvent),
    Lists api events → Lists api' events' → Rearranged events events' →
      ∃ result result', EndsFromApi readStrings sha256 api result ∧
        EndsFromApi readStrings sha256 api' result' ∧ result.toOption = result'.toOption

/-- If a discovery of other events has the same hash, it has the same rows. -/
def HashTells (γ : Type) (events other : List GammaEvent) : Prop :=
  ∀ (api api' : Nat → Nat → Except γ (List GammaEvent)) (found found' : NegRiskDiscovery),
    Lists api events → Lists api' other →
      EndsFromApi readStrings sha256 api (.ok found) →
      EndsFromApi readStrings sha256 api' (.ok found') →
      found.metadataSnapshotHash = found'.metadataSnapshotHash → found.rows = found'.rows

/-- On the same pages, both clients find the same. -/
def ClientsAgree (γ ρ : Type) : Prop :=
  ∀ (api : Nat → Nat → Except γ (List GammaEvent)) (client : RestClient γ ρ),
    (∀ offset, SamePage (fetchGatewayMetadataPage api offset)
      (client.fetchNegRiskMetadataPage offset)) →
    ∀ fuel, Option.Rel
      (SameEnd .metadata .metadata (fetchGatewayMetadataPage api) client.fetchNegRiskMetadataPage)
      (discoverNegRiskMetadataRowsFromApi readStrings sha256 api fuel)
      (discoverNegRiskMetadataRows readStrings sha256 client fuel)

structure IdentifiesRows (γ ρ : Type) (events other : List GammaEvent) : Prop where
  orderFree : OrderFree readStrings sha256 γ events
  hashTells : HashTells readStrings sha256 γ events other
  clientsAgree : ClientsAgree readStrings sha256 γ ρ

theorem orderFree_iff :
    OrderFree readStrings sha256 γ events ↔
      (Agree (listedRows readStrings events) → Untied (listedRows readStrings events)) := by
  rw [← forall_rearranged_iff readStrings sha256]
  constructor
  · intro h events' hrearranged
    obtain ⟨api, hapi⟩ := exists_lists γ events
    obtain ⟨api', hapi'⟩ := exists_lists γ events'
    obtain ⟨_, _, hends, hends', hsame⟩ := h api api' events' hapi hapi' hrearranged
    rwa [hapi.endsFromApi_iff.mp hends, hapi'.endsFromApi_iff.mp hends', toOption_mapError,
      toOption_mapError] at hsame
  · intro h api api' events' hapi hapi' hrearranged
    refine ⟨_, _, hapi.endsFromApi_iff.mpr rfl, hapi'.endsFromApi_iff.mpr rfl, ?_⟩
    rw [toOption_mapError, toOption_mapError, h events' hrearranged]

variable {sha256} in
theorem hashTells_iff (hsha : Function.Injective sha256) :
    HashTells readStrings sha256 γ events other ↔
      (Discoverable readStrings events → Discoverable readStrings other →
        ToldApart (shownRows readStrings events) (shownRows readStrings other)) := by
  rw [← forall_hash_iff readStrings sha256 hsha]
  constructor
  · intro h found found' hfound hfound'
    obtain ⟨api, hapi⟩ := exists_lists γ events
    obtain ⟨api', hapi'⟩ := exists_lists γ other
    refine h api api' found found' hapi hapi' ?_ ?_
    · exact hapi.endsFromApi_iff.mpr (mapError_eq_ok_iff.mpr hfound).symm
    · exact hapi'.endsFromApi_iff.mpr (mapError_eq_ok_iff.mpr hfound').symm
  · intro h api api' found found' hapi hapi' hfound hfound'
    exact h found found' (mapError_eq_ok_iff.mp (hapi.endsFromApi_iff.mp hfound).symm)
      (mapError_eq_ok_iff.mp (hapi'.endsFromApi_iff.mp hfound').symm)

theorem clientsAgree (γ ρ : Type) : ClientsAgree readStrings sha256 γ ρ :=
  fun _ _ hpages fuel ↦ discoverRows_rel readStrings sha256 hpages fuel

variable {sha256}

end Identity

/-! ### Rows that are confused -/

section Confused

variable (readStrings : String → Option (List String))

def namedRow (parentEventId id : String) : CanonicalNegRiskRow :=
  (namedEvent parentEventId id).canonicalRow readStrings id "condition-1" "token-1" namedMarket

/-- The fields of a row that do not depend on its family and its event. -/
def namedFields : List String := (namedRow readStrings "" "").hashFields.drop 2

theorem hashFields_namedRow (parentEventId id : String) :
    (namedRow readStrings parentEventId id).hashFields =
      (namedRow readStrings parentEventId id).eventFamilyId :: id :: namedFields readStrings := rfl

theorem sortKey_namedRow (parentEventId id : String) :
    (namedRow readStrings parentEventId id).sortKey =
      [id, "condition-1", "token-1", namedMarket.outcomeLabel readStrings none] := rfl

theorem hashedFields_namedRow (parentEventId id : String) :
    hashedFields [] [namedRow readStrings parentEventId id] =
      (namedRow readStrings parentEventId id).eventFamilyId.toList :: id.toList ::
        ((namedFields readStrings).map String.toList ++ [['\n']]) := by
  rw [hashedFields, hashedFields, hashFields_namedRow, List.nil_append, List.tail_cons,
    List.map_cons, List.cons_append]

variable {readStrings}

theorem discoverable_of_listedRows {events : List GammaEvent} {row : CanonicalNegRiskRow}
    (h : listedRows readStrings events = [row]) : Discoverable readStrings events := by
  refine { agree := ?_, some_valid := fun hnone ↦ absurd (h.symm.trans hnone) (by simp) }
  rw [h]
  intro first hfirst second hsecond _
  rw [List.mem_singleton.mp hfirst, List.mem_singleton.mp hsecond]

theorem shownRows_of_listedRows {events : List GammaEvent} {row : CanonicalNegRiskRow}
    (h : listedRows readStrings events = [row]) : shownRows readStrings events = [row] := by
  rw [shownRows, h]
  exact List.mergeSort_singleton row

theorem agree_pair {row row' : CanonicalNegRiskRow} (h : row.eventFamilyId ≠ row'.eventFamilyId) :
    Agree [row, row'] := by
  have hkeys : row.memberKey ≠ row'.memberKey := fun hkey ↦
    h (congrArg NegRiskMemberKey.eventFamilyId hkey)
  intro first hfirst second hsecond hkey
  simp only [List.mem_cons, List.not_mem_nil, or_false] at hfirst hsecond
  rcases hfirst with rfl | rfl <;> rcases hsecond with rfl | rfl
  · rfl
  · exact absurd hkey hkeys
  · exact absurd hkey.symm hkeys
  · rfl

variable (readStrings) {sha256 : String → String} (γ : Type)

/-- Two families of one event and market stay in the order in which they come. -/
theorem not_orderFree_of_families (sha256 : String → String) :
    ¬ OrderFree readStrings sha256 γ
      [namedEvent "family-a" "event-1", namedEvent "family-b" "event-1"] := by
  rw [orderFree_iff]
  intro huntied
  have hlisted : listedRows readStrings
      [namedEvent "family-a" "event-1", namedEvent "family-b" "event-1"] =
        [namedRow readStrings "family-a" "event-1", namedRow readStrings "family-b" "event-1"] :=
    rfl
  have hfamily : (namedRow readStrings "family-a" "event-1").eventFamilyId = "family-a" := rfl
  have hfamily' : (namedRow readStrings "family-b" "event-1").eventFamilyId = "family-b" := rfl
  have hfamilies : (namedRow readStrings "family-a" "event-1").eventFamilyId ≠
      (namedRow readStrings "family-b" "event-1").eventFamilyId := by
    rw [hfamily, hfamily']
    decide
  rw [hlisted] at huntied
  have hsame := huntied (agree_pair hfamilies) _ List.mem_cons_self _
    (List.mem_cons_of_mem _ List.mem_cons_self)
    ((sortKey_namedRow ..).trans (sortKey_namedRow ..).symm)
  exact hfamilies (congrArg CanonicalNegRiskRow.eventFamilyId hsame)

/-- A separator within a field is taken for one between fields. -/
theorem not_hashTells_of_separator (hsha : Function.Injective sha256) :
    ¬ HashTells readStrings sha256 γ
      [namedEvent "family\x1fa" "event"] [namedEvent "family" "a\x1fevent"] := by
  rw [hashTells_iff readStrings hsha]
  intro htold
  have hlisted : listedRows readStrings [namedEvent "family\x1fa" "event"] =
      [namedRow readStrings "family\x1fa" "event"] := rfl
  have hlisted' : listedRows readStrings [namedEvent "family" "a\x1fevent"] =
      [namedRow readStrings "family" "a\x1fevent"] := rfl
  have hfamily : (namedRow readStrings "family\x1fa" "event").eventFamilyId = "family\x1fa" := rfl
  have hfamily' : (namedRow readStrings "family" "a\x1fevent").eventFamilyId = "family" := rfl
  replace htold := htold (discoverable_of_listedRows hlisted) (discoverable_of_listedRows hlisted')
  rw [shownRows_of_listedRows hlisted, shownRows_of_listedRows hlisted', ToldApart,
    hashedFields_namedRow, hashedFields_namedRow, hfamily, hfamily'] at htold
  have hpieces : pieces UNIT_SEPARATOR ["family\x1fa".toList, "event".toList] =
      pieces UNIT_SEPARATOR ["family".toList, "a\x1fevent".toList] := by
    decide
  have hsame := (List.cons.inj (htold ?_)).1
  · have hfamilies := congrArg CanonicalNegRiskRow.eventFamilyId hsame
    rw [hfamily, hfamily'] at hfamilies
    revert hfamilies
    decide
  · have hrest := congrArg
      (· ++ pieces UNIT_SEPARATOR ((namedFields readStrings).map String.toList ++ [['\n']])) hpieces
    simpa only [pieces, ← List.flatMap_append, List.cons_append, List.nil_append] using hrest

end Confused

end AxiomArb.VenuePolymarket
