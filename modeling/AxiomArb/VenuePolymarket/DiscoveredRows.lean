import AxiomArb.VenuePolymarket.Metadata

/-!
# Discovered rows

What a discovery finds, read off its events without a table: the rows that they list and
how many malformed ones they hold.  The loop over pages fails exactly if two of the listed
rows conflict, and else keeps the first occurrence of each (`ends_foldlM_addEvent`).  It
does not matter how the events are split into pages (`exists_readPages_iff`).
-/

namespace AxiomArb.VenuePolymarket

open Domain Library

variable (readStrings : String → Option (List String))

/-! ## Reading events -/

namespace GammaEvent

variable (event : GammaEvent)

/-- The row of a market, if it is neg-risk and well formed. -/
def row? (eventId : String) (market : GammaMarket) : Option CanonicalNegRiskRow :=
  if event.isNegRisk market then do
    let conditionId ← normalizedOptionalString market.conditionId
    let tokenId ← market.yesTokenId readStrings
    return event.canonicalRow readStrings eventId conditionId tokenId market
  else
    none

def malformedMarket (market : GammaMarket) : Bool :=
  event.isNegRisk market && ((normalizedOptionalString market.conditionId).isNone ||
    (market.yesTokenId readStrings).isNone)

def rows : List CanonicalNegRiskRow :=
  match normalizedOptionalString event.id with
  | none => []
  | some eventId => event.markets.filterMap (event.row? readStrings eventId)

def malformedRows : Nat :=
  match normalizedOptionalString event.id with
  | none => event.skippedRows
  | some _ => (event.markets.map fun market ↦ (event.malformedMarket readStrings market).toNat).sum

end GammaEvent

def listedRows (events : List GammaEvent) : List CanonicalNegRiskRow :=
  events.flatMap fun event ↦ event.rows readStrings

def malformedRows (events : List GammaEvent) : Nat :=
  (events.map fun event ↦ event.malformedRows readStrings).sum

/-- Rows under one key are alike. -/
def Agree (rows : List CanonicalNegRiskRow) : Prop :=
  ∀ row ∈ rows, ∀ row' ∈ rows, row.memberKey = row'.memberKey → row = row'

theorem Agree.mono {rows rows' : List CanonicalNegRiskRow} (h : Agree rows')
    (hrows : rows ⊆ rows') : Agree rows :=
  fun row hrow row' hrow' ↦ h row (hrows hrow) row' (hrows hrow')

/-! ## The loop -/

namespace DiscoveryProgress

variable {rows more : List CanonicalNegRiskRow} {skipped : Nat} {progress : DiscoveryProgress}

/-- Progress that has taken in these rows, and has skipped so many. -/
structure Collects (rows : List CanonicalNegRiskRow) (skipped : Nat)
    (progress : DiscoveryProgress) : Prop where
  agree : Agree rows
  kept : progress.rows.rows = rows.eraseDups
  counted : progress.skippedMalformedRows = skipped

/-- The loop has come so far, or two of the rows conflict. -/
def Ends (rows : List CanonicalNegRiskRow) (skipped : Nat) :
    Except NegRiskMetadataError DiscoveryProgress → Prop
  | .ok progress => Collects rows skipped progress
  | .error _ => ¬Agree rows

@[simp] theorem ends_ok : Ends rows skipped (.ok progress) ↔ Collects rows skipped progress := .rfl

theorem collects_empty : Collects [] 0 empty :=
  { agree := fun _ hrow ↦ absurd hrow List.not_mem_nil, kept := rfl, counted := rfl }

theorem Collects.skip (h : Collects rows skipped progress) (count : Nat) :
    Collects rows (skipped + count) (progress.skip count) :=
  { agree := h.agree, kept := h.kept, counted := congrArg (· + count) h.counted }

/-- A row conflicts with an earlier one, is one of the earlier ones, or is new. -/
theorem ends_addRow (h : Collects rows skipped progress) (row : CanonicalNegRiskRow) :
    Ends (rows ++ [row]) skipped (progress.addRow row) := by
  rw [addRow]
  cases hget : progress.rows.get? row.memberKey with
  | some existing =>
      obtain ⟨hmem, hkey⟩ := InsertionTable.get?_eq_some_iff.mp hget
      rw [h.kept, List.mem_eraseDups] at hmem
      by_cases hsame : existing = row
      · subst hsame
        have hsub : rows ++ [existing] ⊆ rows := by
          intro row hrow
          rcases List.mem_append.mp hrow with hrow | hrow
          · exact hrow
          · rwa [List.mem_singleton.mp hrow]
        simp only [ne_eq, not_true_eq_false, if_false]
        exact
          { agree := h.agree.mono hsub
            kept := by rw [eraseDups_concat_of_mem hmem, h.kept]
            counted := h.counted }
      · simp only [ne_eq, hsame, not_false_eq_true, if_true]
        exact fun hagree ↦ hsame (hagree existing (List.mem_append_left _ hmem) row (by simp) hkey)
  | none =>
      have hfree : ∀ existing ∈ rows, existing.memberKey ≠ row.memberKey := by
        intro existing hexisting hkey
        have hfound : progress.rows.get? row.memberKey = some existing :=
          InsertionTable.get?_eq_some_iff.mpr ⟨by rwa [h.kept, List.mem_eraseDups], hkey⟩
        rw [hget] at hfound
        cases hfound
      obtain ⟨table, htable⟩ := InsertionTable.exists_insert?_eq_some hget
      have hrows := (InsertionTable.insert?_eq_some_iff.mp htable).2
      rw [htable]
      have hnew : row ∉ rows := fun hmem ↦ hfree row hmem rfl
      refine { agree := ?_, kept := ?_, counted := h.counted }
      · intro first hfirst second hsecond hkey
        rcases List.mem_append.mp hfirst with hfirst | hfirst <;>
          rcases List.mem_append.mp hsecond with hsecond | hsecond
        · exact h.agree first hfirst second hsecond hkey
        · exact absurd (List.mem_singleton.mp hsecond ▸ hkey) (hfree first hfirst)
        · exact absurd (List.mem_singleton.mp hfirst ▸ hkey.symm) (hfree second hsecond)
        · rw [List.mem_singleton.mp hfirst, List.mem_singleton.mp hsecond]
      · rw [eraseDups_concat_of_not_mem hnew, ← h.kept]
        exact hrows

theorem ends_addMarket (h : Collects rows skipped progress) (event : GammaEvent) (eventId : String)
    (market : GammaMarket) :
    Ends (rows ++ (event.row? readStrings eventId market).toList)
      (skipped + (event.malformedMarket readStrings market).toNat)
      (progress.addMarket readStrings event eventId market) := by
  rw [addMarket, GammaEvent.row?, GammaEvent.malformedMarket]
  cases hneg : event.isNegRisk market with
  | false => simpa using h
  | true =>
      cases hcondition : normalizedOptionalString market.conditionId with
      | none => simpa using h.skip 1
      | some conditionId =>
          cases htoken : market.yesTokenId readStrings with
          | none => simpa using h.skip 1
          | some tokenId => simpa using ends_addRow h _

section Loop

variable {ι : Type} {step : DiscoveryProgress → ι → Except NegRiskMetadataError DiscoveryProgress}
  {read : ι → List CanonicalNegRiskRow} {count : ι → Nat}

/-- If a step takes in the rows of an item, the loop takes in those of all. -/
theorem ends_foldlM
    (hstep : ∀ rows skipped progress item, Collects rows skipped progress →
      Ends (rows ++ read item) (skipped + count item) (step progress item))
    (h : Collects rows skipped progress) (items : List ι) :
    Ends (rows ++ items.flatMap read) (skipped + (items.map count).sum)
      (items.foldlM step progress) := by
  induction items generalizing rows skipped progress with
  | nil =>
      rw [List.foldlM_nil]
      simpa [pure, Except.pure] using h
  | cons item items ih =>
      have hitem := hstep rows skipped progress item h
      rw [List.foldlM_cons, List.flatMap_cons, List.map_cons, List.sum_cons, ← List.append_assoc,
        ← Nat.add_assoc]
      cases hnext : step progress item with
      | ok next =>
          rw [hnext] at hitem
          exact ih hitem
      | error error =>
          rw [hnext] at hitem
          exact fun hagree ↦ hitem (hagree.mono (List.subset_append_left _ _))

end Loop

theorem ends_addEvent (h : Collects rows skipped progress) (event : GammaEvent) :
    Ends (rows ++ event.rows readStrings) (skipped + event.malformedRows readStrings)
      (progress.addEvent readStrings event) := by
  rw [addEvent, GammaEvent.rows, GammaEvent.malformedRows]
  cases hid : normalizedOptionalString event.id with
  | none => simpa using h.skip event.skippedRows
  | some eventId =>
      have hmarkets := ends_foldlM (fun rows skipped progress market h ↦
        ends_addMarket readStrings h event eventId market) h event.markets
      rwa [← List.filterMap_eq_flatMap_toList] at hmarkets

/-- The loop over events fails exactly if two of their rows conflict. -/
theorem ends_foldlM_addEvent (events : List GammaEvent) :
    Ends (listedRows readStrings events) (malformedRows readStrings events)
      (events.foldlM (addEvent readStrings) empty) := by
  have hevents := ends_foldlM (fun rows skipped progress event h ↦
    ends_addEvent readStrings h event) collects_empty events
  rwa [List.nil_append, Nat.zero_add] at hevents

end DiscoveryProgress

/-! ## The discovery of a list of events -/

section Discovery

open DiscoveryProgress

variable (sha256 : String → String) {events : List GammaEvent}

def discover (events : List GammaEvent) : Except NegRiskMetadataError NegRiskDiscovery :=
  (events.foldlM (addEvent readStrings) .empty).bind (·.finish sha256)

/-- The rows that a discovery shows. -/
def shownRows (events : List GammaEvent) : List CanonicalNegRiskRow :=
  canonicalizeRows (listedRows readStrings events).eraseDups

/-- No two of the rows conflict, and there are some unless none was malformed. -/
structure Discoverable (events : List GammaEvent) : Prop where
  agree : Agree (listedRows readStrings events)
  some_valid : listedRows readStrings events = [] → malformedRows readStrings events = 0

theorem eraseDups_eq_nil_iff {rows : List CanonicalNegRiskRow} : rows.eraseDups = [] ↔ rows = [] := by
  simp only [List.eq_nil_iff_forall_not_mem, List.mem_eraseDups]

theorem discover_eq_ok_iff {discovery : NegRiskDiscovery} :
    discover readStrings sha256 events = .ok discovery ↔
      Discoverable readStrings events ∧
        discovery =
          { rows := shownRows readStrings events
            metadataSnapshotHash := snapshotHash sha256 (shownRows readStrings events) } := by
  have hends := ends_foldlM_addEvent readStrings events
  rw [discover]
  cases hread : events.foldlM (addEvent readStrings) .empty with
  | error error =>
      rw [hread] at hends
      exact iff_of_false nofun fun h ↦ hends h.1.agree
  | ok progress =>
      rw [hread] at hends
      obtain ⟨hagree, hkept, hcounted⟩ := hends
      have hfinish : (Except.ok progress : Except NegRiskMetadataError DiscoveryProgress).bind
          (·.finish sha256) = progress.finish sha256 := rfl
      rw [hfinish, finish, hkept, hcounted]
      simp only [List.isEmpty_iff, eraseDups_eq_nil_iff]
      by_cases hnone : listedRows readStrings events = [] ∧ 0 < malformedRows readStrings events
      · rw [if_pos hnone]
        refine iff_of_false nofun fun h ↦ ?_
        exact hnone.2.ne' (h.1.some_valid hnone.1)
      · rw [if_neg hnone, Except.ok.injEq, eq_comm]
        have hfound : Discoverable readStrings events :=
          { agree := hagree
            some_valid := fun hrows ↦ Nat.eq_zero_of_not_pos fun hpos ↦ hnone ⟨hrows, hpos⟩ }
        exact (and_iff_right hfound).symm

end Discovery

/-! ## Pages -/

section Pages

open DiscoveryProgress

variable {ε ε' : Type} {ofMetadata : NegRiskMetadataError → ε} {ofMetadata' : NegRiskMetadataError → ε'}
  {fetchPage : Nat → Except ε (List GammaEvent)} {fetchPage' : Nat → Except ε' (List GammaEvent)}
  {offset : Nat} {pages : List (List GammaEvent)}

/-- These pages are fetched, one after another, and then an empty one. -/
inductive Delivers (fetchPage : Nat → Except ε (List GammaEvent)) :
    Nat → List (List GammaEvent) → Prop
  | last {offset : Nat} (hfetch : fetchPage offset = .ok []) : Delivers fetchPage offset []
  | page {offset : Nat} {page : List GammaEvent} {pages : List (List GammaEvent)}
      (hfetch : fetchPage offset = .ok page) (hpage : page ≠ [])
      (hpages : Delivers fetchPage (offset + NEG_RISK_PAGE_LIMIT) pages) :
      Delivers fetchPage offset (page :: pages)

theorem exists_readPages_succ_iff {progress : DiscoveryProgress}
    {result : Except ε DiscoveryProgress} :
    (∃ fuel, readPages readStrings ofMetadata fetchPage fuel offset progress = some result) ↔
      ∃ fuel, readPages readStrings ofMetadata fetchPage (fuel + 1) offset progress = some result := by
  constructor
  · rintro ⟨fuel, h⟩
    cases fuel with
    | zero => cases h
    | succ fuel => exact ⟨fuel, h⟩
  · rintro ⟨fuel, h⟩
    exact ⟨fuel + 1, h⟩

/-- Pages are read as the list of their events. -/
theorem exists_readPages_iff (h : Delivers fetchPage offset pages) (progress : DiscoveryProgress)
    (result : Except ε DiscoveryProgress) :
    (∃ fuel, readPages readStrings ofMetadata fetchPage fuel offset progress = some result) ↔
      result = (pages.flatten.foldlM (addEvent readStrings) progress).mapError ofMetadata := by
  rw [exists_readPages_succ_iff]
  induction h generalizing progress with
  | last hfetch =>
      simp only [readPages, hfetch]
      exact exists_const _ |>.trans (Option.some_inj.trans eq_comm)
  | page hfetch hpage hpages ih =>
      simp only [readPages, hfetch]
      rw [List.flatten_cons, List.foldlM_append]
      cases hread : List.foldlM (addEvent readStrings) progress _ with
      | error error => exact exists_const _ |>.trans (Option.some_inj.trans eq_comm)
      | ok next =>
          simp only [List.length_eq_zero_iff, hpage, if_false]
          rw [exists_readPages_succ_iff]
          exact ih next

/-- A discovery of pages is the one of their events. -/
theorem exists_discoverRows_iff (sha256 : String → String) (h : Delivers fetchPage 0 pages)
    (result : Except ε NegRiskDiscovery) :
    (∃ fuel, discoverRows readStrings sha256 ofMetadata fetchPage fuel = some result) ↔
      result = (discover readStrings sha256 pages.flatten).mapError ofMetadata := by
  have hread (read : Except ε DiscoveryProgress) :
      (∃ fuel, readPages readStrings ofMetadata fetchPage fuel 0 .empty = some read) ↔
        read = (pages.flatten.foldlM (addEvent readStrings) .empty).mapError ofMetadata :=
    exists_readPages_iff readStrings h .empty read
  simp only [discoverRows, Option.map_eq_some_iff]
  rw [exists_comm]
  simp only [exists_and_right, hread, exists_eq_left, eq_comm (b := result)]
  rw [discover]
  cases pages.flatten.foldlM (addEvent readStrings) .empty <;> rfl

/-- Both answer a request for a page with the same events, or neither does. -/
def SamePage (answer : Except ε (List GammaEvent)) (answer' : Except ε' (List GammaEvent)) : Prop :=
  (∃ page, answer = .ok page ∧ answer' = .ok page) ∨
    ∃ error error', answer = .error error ∧ answer' = .error error'

variable {α β : Type} {result : Except ε α} {result' : Except ε' α}

/-- Both end alike, or in the error of one page that neither fetched. -/
def SameEnd (ofMetadata : NegRiskMetadataError → ε) (ofMetadata' : NegRiskMetadataError → ε')
    (fetchPage : Nat → Except ε (List GammaEvent)) (fetchPage' : Nat → Except ε' (List GammaEvent))
    (result : Except ε α) (result' : Except ε' α) : Prop :=
  (∃ found : Except NegRiskMetadataError α, result = found.mapError ofMetadata ∧
    result' = found.mapError ofMetadata') ∨
  ∃ offset error error', fetchPage offset = .error error ∧ fetchPage' offset = .error error' ∧
    result = .error error ∧ result' = .error error'

theorem SameEnd.bind (h : SameEnd ofMetadata ofMetadata' fetchPage fetchPage' result result')
    (next : α → Except NegRiskMetadataError β) :
    SameEnd ofMetadata ofMetadata' fetchPage fetchPage'
      (result.bind fun value ↦ (next value).mapError ofMetadata)
      (result'.bind fun value ↦ (next value).mapError ofMetadata') := by
  rcases h with ⟨found, rfl, rfl⟩ | ⟨offset, error, error', hfetch, hfetch', rfl, rfl⟩
  · exact .inl ⟨found.bind next, by cases found <;> rfl, by cases found <;> rfl⟩
  · exact .inr ⟨offset, error, error', hfetch, hfetch', rfl, rfl⟩

/-- Where the same pages are fetched, they are read alike. -/
theorem readPages_rel (hpages : ∀ offset, SamePage (fetchPage offset) (fetchPage' offset))
    (fuel offset : Nat) (progress : DiscoveryProgress) :
    Option.Rel (SameEnd ofMetadata ofMetadata' fetchPage fetchPage')
      (readPages readStrings ofMetadata fetchPage fuel offset progress)
      (readPages readStrings ofMetadata' fetchPage' fuel offset progress) := by
  induction fuel generalizing offset progress with
  | zero => exact .none
  | succ fuel ih =>
      rcases hpages offset with ⟨page, hfetch, hfetch'⟩ | ⟨error, error', hfetch, hfetch'⟩
      · simp only [readPages, hfetch, hfetch']
        cases page.foldlM (addEvent readStrings) progress with
        | error error => exact .some (.inl ⟨.error error, rfl, rfl⟩)
        | ok next =>
            by_cases hlast : page.length = 0
            · simp only [hlast, if_true]
              exact .some (.inl ⟨.ok next, rfl, rfl⟩)
            · simp only [hlast, if_false]
              exact ih _ next
      · simp only [readPages, hfetch, hfetch']
        exact .some (.inr ⟨offset, error, error', hfetch, hfetch', rfl, rfl⟩)

theorem discoverRows_rel (sha256 : String → String)
    (hpages : ∀ offset, SamePage (fetchPage offset) (fetchPage' offset)) (fuel : Nat) :
    Option.Rel (SameEnd ofMetadata ofMetadata' fetchPage fetchPage')
      (discoverRows readStrings sha256 ofMetadata fetchPage fuel)
      (discoverRows readStrings sha256 ofMetadata' fetchPage' fuel) :=
  rel_map (readPages_rel readStrings hpages fuel 0 .empty) fun _ _ hread ↦ hread.bind (·.finish sha256)

end Pages

end AxiomArb.VenuePolymarket
