import AxiomArb.AppLive.Dispatch
import AxiomArb.Library.Reach
import AxiomArb.Library.Run

/-!
# Coalescing of dirty records

A flush replaces the dirty records by a summary that names one version for each book and
widens its domains.  What a dispatcher still owes a book is a set of versions
(`DispatchLoop.dirtyAt`); a record adds to it, a ready snapshot takes out what it covers,
and a flush leaves the greatest version alone.  All a dispatcher ever reports of such a
set is how far it reaches, so no flush can tell whether there were flushes before it.
-/

namespace AxiomArb.AppLive

open Domain Library State

/-! ## The two books -/

/-- The projections a snapshot may be ready for. -/
inductive Book where
  | fullset | negrisk
deriving DecidableEq, Repr

namespace Book

def domains : Book → List DirtyDomain
  | fullset => fullsetDomains
  | negrisk => negriskDomains

/-- Some of the domains belong to the book. -/
def dirty (book : Book) (domains : List DirtyDomain) : Bool := domains.any book.domains.contains

/-- The snapshot is ready for the book. -/
def ready : Book → PublishedSnapshot → Bool
  | fullset, snapshot => snapshot.fullsetReady
  | negrisk, snapshot => snapshot.negriskReady

/-- No domain belongs to both books. -/
theorem eq_of_mem_domains {book book' : Book} {domain : DirtyDomain}
    (h : domain ∈ book.domains) (h' : domain ∈ book'.domains) : book = book' := by
  revert h h'
  cases book <;> cases book' <;> cases domain <;> decide

theorem dirty_iff {book : Book} {domains : List DirtyDomain} :
    book.dirty domains ↔ ∃ domain ∈ domains, domain ∈ book.domains := by
  simp [dirty]

end Book

/-! ## Calls on a dispatcher -/

/-- The calls that change a dispatcher. -/
inductive DispatchOp where
  | recordApply (stateVersion : Nat) (dirtySet : DirtySet)
  | observeSnapshot (snapshot : PublishedSnapshot)
  | flush
deriving DecidableEq

def DispatchOp.isFlush : DispatchOp → Bool
  | flush => true
  | recordApply _ _ | observeSnapshot _ => false

namespace DispatchLoop

variable {dispatcher dispatcher' : DispatchLoop} {book : Book} {ops ops' : List DispatchOp}

def step (dispatcher : DispatchLoop) : DispatchOp → DispatchLoop
  | .recordApply stateVersion dirtySet => dispatcher.recordApply stateVersion dirtySet
  | .observeSnapshot snapshot => dispatcher.observeSnapshot snapshot
  | .flush => dispatcher.flush.2

/-- The versions the book has been dirty at, as the records have them. -/
def dirtyVersions (book : Book) (dispatcher : DispatchLoop) : List Nat :=
  (dispatcher.dirtyRecords.filter fun record ↦ book.dirty record.domains).map
    DirtyRecord.stateVersion

def dirtyAt (book : Book) (dispatcher : DispatchLoop) : Set Nat :=
  {version | version ∈ dispatcher.dirtyVersions book}

theorem mem_dirtyAt {version : Nat} : version ∈ dispatcher.dirtyAt book ↔
    ∃ record ∈ dispatcher.dirtyRecords, book.dirty record.domains ∧
      record.stateVersion = version := by
  simp [dirtyAt, dirtyVersions, and_assoc]

/-! ### What each call does to a book -/

theorem dirtyAt_recordApply (stateVersion : Nat) (dirtySet : DirtySet) :
    (dispatcher.recordApply stateVersion dirtySet).dirtyAt book =
      dispatcher.dirtyAt book ∪ {version | book.dirty dirtySet.domains ∧ version = stateVersion} := by
  ext version
  simp only [recordApply, mem_dirtyAt, List.mem_append, List.mem_singleton, Set.mem_union,
    Set.mem_ofPred_eq, or_and_right, exists_or, exists_eq_left, eq_comm]

/-- What `clearDirtyDomains` makes of one record. -/
def clearedRecord (version : Nat) (cleared : Book) (record : DirtyRecord) : DirtyRecord :=
  if record.stateVersion ≤ version then
    { record with domains := record.domains.filter fun domain ↦ !cleared.domains.contains domain }
  else
    record

@[simp] theorem stateVersion_clearedRecord (version : Nat) (cleared : Book)
    (record : DirtyRecord) :
    (clearedRecord version cleared record).stateVersion = record.stateVersion := by
  unfold clearedRecord
  split <;> rfl

theorem dirty_clearedRecord (version : Nat) (cleared : Book) (record : DirtyRecord) :
    book.dirty (clearedRecord version cleared record).domains ↔
      book.dirty record.domains ∧ (cleared = book → version < record.stateVersion) := by
  by_cases hcovered : record.stateVersion ≤ version
  · simp only [clearedRecord, if_pos hcovered, Book.dirty_iff, List.mem_filter, Bool.not_eq_true',
      List.contains_eq_mem, decide_eq_false_iff_not, Nat.not_lt.mpr hcovered, imp_false]
    constructor
    · rintro ⟨domain, ⟨hdomain, hkept⟩, hbook⟩
      exact ⟨⟨domain, hdomain, hbook⟩, fun heq ↦ hkept (heq ▸ hbook)⟩
    · rintro ⟨⟨domain, hdomain, hbook⟩, hne⟩
      exact ⟨domain, ⟨hdomain, fun hmem ↦ hne (Book.eq_of_mem_domains hmem hbook)⟩, hbook⟩
  · rw [clearedRecord, if_neg hcovered]
    exact (and_iff_left fun _ ↦ Nat.lt_of_not_le hcovered).symm

/-- A book loses the versions that are covered; the other book loses nothing. -/
theorem dirtyAt_clearDirtyDomains (version : Nat) (cleared : Book) :
    (dispatcher.clearDirtyDomains version cleared.domains).dirtyAt book =
      {dirtyVersion ∈ dispatcher.dirtyAt book | cleared = book → version < dirtyVersion} := by
  have hrecords : (dispatcher.clearDirtyDomains version cleared.domains).dirtyRecords =
      (dispatcher.dirtyRecords.map (clearedRecord version cleared)).filter fun record ↦
        !record.domains.isEmpty := rfl
  ext dirtyVersion
  simp only [mem_dirtyAt, hrecords, List.mem_filter, List.mem_map, Set.mem_ofPred_eq]
  constructor
  · rintro ⟨_, ⟨⟨record, hrecord, rfl⟩, -⟩, hdirty, rfl⟩
    rw [dirty_clearedRecord] at hdirty
    rw [stateVersion_clearedRecord]
    exact ⟨⟨record, hrecord, hdirty.1, rfl⟩, hdirty.2⟩
  · rintro ⟨⟨record, hrecord, hdirty, rfl⟩, hpast⟩
    have hdirty' := (dirty_clearedRecord version cleared record).mpr ⟨hdirty, hpast⟩
    obtain ⟨domain, hdomain, -⟩ := Book.dirty_iff.mp hdirty'
    refine ⟨_, ⟨⟨record, hrecord, rfl⟩, ?_⟩, hdirty', stateVersion_clearedRecord ..⟩
    simp [List.ne_nil_of_mem hdomain]

/-- A snapshot takes out of each book it is ready for the versions it covers. -/
theorem dirtyAt_observeSnapshot (snapshot : PublishedSnapshot) :
    (dispatcher.observeSnapshot snapshot).dirtyAt book =
      {version ∈ dispatcher.dirtyAt book | book.ready snapshot → snapshot.stateVersion < version} := by
  have hbook : ∀ {dispatcher dispatcher' : DispatchLoop} (cleared : Book),
      dispatcher'.dirtyRecords = dispatcher.dirtyRecords →
      dirtyAt book (if cleared.ready snapshot then
          dispatcher'.clearDirtyDomains snapshot.stateVersion cleared.domains else dispatcher) =
        {version ∈ dispatcher.dirtyAt book |
          cleared.ready snapshot → cleared = book → snapshot.stateVersion < version} := by
    intro dispatcher dispatcher' cleared hrecords
    by_cases hready : cleared.ready snapshot
    · rw [if_pos hready, dirtyAt_clearDirtyDomains]
      simp only [dirtyAt, dirtyVersions, hrecords, hready, forall_const]
    · simp [hready]
  have hfullset : dirtyAt book (if snapshot.fullsetReady then
      { dispatcher with latestReadyFullset := some snapshot }.clearDirtyDomains
        snapshot.stateVersion fullsetDomains else dispatcher) = _ := hbook .fullset rfl
  have hnegrisk : (dispatcher.observeSnapshot snapshot).dirtyAt book = _ := hbook .negrisk rfl
  rw [hnegrisk, hfullset]
  ext version
  cases book <;> simp

theorem latestReadyFullset_observeSnapshot (snapshot : PublishedSnapshot) :
    (dispatcher.observeSnapshot snapshot).latestReadyFullset =
      if snapshot.fullsetReady then some snapshot else dispatcher.latestReadyFullset := by
  unfold observeSnapshot
  split <;> split <;> rfl

theorem latestReadyNegrisk_observeSnapshot (snapshot : PublishedSnapshot) :
    (dispatcher.observeSnapshot snapshot).latestReadyNegrisk =
      if snapshot.negriskReady then some snapshot else dispatcher.latestReadyNegrisk := by
  unfold observeSnapshot
  split <;> split <;> rfl

/-! ### What a flush keeps -/

/-- The domains of each version a flush keeps. -/
def coalescedDomains (fullset negrisk : Option Nat) : BTreeMap Nat (List DirtyDomain) :=
  let coalesced : BTreeMap Nat (List DirtyDomain) := ∅
  let coalesced := match fullset with
    | some stateVersion => coalesced.insert stateVersion fullsetDomains
    | none => coalesced
  match negrisk with
  | some stateVersion =>
      coalesced.insert stateVersion (coalesced[stateVersion]?.getD [] ++ [DirtyDomain.negRiskFamilies])
  | none => coalesced

theorem coalescedDirtyRecords_eq : dispatcher.coalescedDirtyRecords =
    (coalescedDomains (dispatcher.dirtyVersions .fullset).max?
      (dispatcher.dirtyVersions .negrisk).max?).toList.map fun entry ↦
        { stateVersion := entry.1, domains := entry.2 } := by
  have hnegrisk : ∀ domains : List DirtyDomain,
      domains.contains .negRiskFamilies = Book.negrisk.dirty domains := by
    intro domains
    rw [Bool.eq_iff_iff, Book.dirty_iff]
    simp [Book.domains, negriskDomains]
  simp only [coalescedDirtyRecords, hnegrisk]
  rfl

theorem lookup_coalescedDomains (fullset negrisk : Option Nat) (version : Nat) :
    (coalescedDomains fullset negrisk)[version]? =
      if fullset = some version ∨ negrisk = some version then
        some ((if fullset = some version then fullsetDomains else []) ++
          if negrisk = some version then negriskDomains else [])
      else none := by
  rcases fullset with _ | fullset <;> rcases negrisk with _ | negrisk
  all_goals simp only [coalescedDomains, BTreeMap.lookup_insert]
  · simp
  · by_cases hnegrisk : negrisk = version <;> simp [hnegrisk, negriskDomains]
  · by_cases hfullset : fullset = version <;> simp [hfullset]
  · by_cases hfullset : fullset = version <;> by_cases hnegrisk : negrisk = version
    all_goals simp [hfullset, hnegrisk, negriskDomains]

/-- The version is the latest a book has been dirty at. -/
def LatestDirty (book : Book) (dispatcher : DispatchLoop) (version : Nat) : Prop :=
  (dispatcher.dirtyVersions book).max? = some version

instance (book : Book) (dispatcher : DispatchLoop) (version : Nat) :
    Decidable (LatestDirty book dispatcher version) :=
  inferInstanceAs (Decidable (_ = _))

/-- The domains a flush keeps at a version. -/
def keptDomains (dispatcher : DispatchLoop) (version : Nat) : List DirtyDomain :=
  (if LatestDirty .fullset dispatcher version then fullsetDomains else []) ++
    if LatestDirty .negrisk dispatcher version then negriskDomains else []

theorem dirty_keptDomains {version : Nat} :
    book.dirty (dispatcher.keptDomains version) ↔ LatestDirty book dispatcher version := by
  by_cases hfullset : LatestDirty .fullset dispatcher version <;>
    by_cases hnegrisk : LatestDirty .negrisk dispatcher version <;>
      cases book <;> simp [keptDomains, hfullset, hnegrisk, Book.dirty_iff, Book.domains,
        fullsetDomains, negriskDomains]

theorem mem_coalescedDirtyRecords {record : DirtyRecord} :
    record ∈ dispatcher.coalescedDirtyRecords ↔
      (∃ book, LatestDirty book dispatcher record.stateVersion) ∧
        record.domains = dispatcher.keptDomains record.stateVersion := by
  have hentry : record ∈ dispatcher.coalescedDirtyRecords ↔
      (coalescedDomains (dispatcher.dirtyVersions .fullset).max?
        (dispatcher.dirtyVersions .negrisk).max?)[record.stateVersion]? = some record.domains := by
    rw [coalescedDirtyRecords_eq, List.mem_map, ← Std.ExtTreeMap.mem_toList_iff_getElem?_eq_some]
    constructor
    · rintro ⟨entry, hentry, rfl⟩
      exact hentry
    · exact fun h ↦ ⟨_, h, rfl⟩
  have hlatest : (∃ book, LatestDirty book dispatcher record.stateVersion) ↔
      LatestDirty .fullset dispatcher record.stateVersion ∨
        LatestDirty .negrisk dispatcher record.stateVersion :=
    ⟨fun ⟨book, h⟩ ↦ by cases book <;> simp [h], fun h ↦ h.elim (⟨_, ·⟩) (⟨_, ·⟩)⟩
  rw [hentry, hlatest, lookup_coalescedDomains, Option.ite_none_right_eq_some, Option.some.injEq]
  exact and_congr_right fun _ ↦ eq_comm

/-- Of each book a flush keeps the latest version. -/
theorem dirtyAt_flush :
    dispatcher.flush.2.dirtyAt book = {version | LatestDirty book dispatcher version} := by
  have hkept : dispatcher.flush.2.dirtyRecords = dispatcher.coalescedDirtyRecords := rfl
  ext version
  rw [mem_dirtyAt, hkept, Set.mem_ofPred_eq]
  constructor
  · rintro ⟨record, hrecord, hdirty, rfl⟩
    rwa [(mem_coalescedDirtyRecords.mp hrecord).2, dirty_keptDomains] at hdirty
  · intro hlatest
    exact ⟨⟨version, dispatcher.keptDomains version⟩,
      mem_coalescedDirtyRecords.mpr ⟨⟨book, hlatest⟩, rfl⟩, dirty_keptDomains.mpr hlatest, rfl⟩

/-- What passes the snapshot is an upper set. -/
theorem monotone_past (book : Book) (snapshot : PublishedSnapshot) :
    Monotone fun version ↦ book.ready snapshot → snapshot.stateVersion < version :=
  fun _ _ hle hpast hready ↦ (hpast hready).trans_le hle

theorem sameReach_flush : SameReach (dispatcher.flush.2.dirtyAt book) (dispatcher.dirtyAt book) := by
  rw [dirtyAt_flush]
  exact sameReach_max? _

theorem mem_coalescedVersions {version : Nat} :
    version ∈ dispatcher.flush.1.coalescedVersions ↔
      ∃ book, LatestDirty book dispatcher version := by
  show version ∈ dispatcher.coalescedDirtyRecords.map DirtyRecord.stateVersion ↔ _
  rw [List.mem_map]
  constructor
  · rintro ⟨record, hrecord, rfl⟩
    exact (mem_coalescedDirtyRecords.mp hrecord).1
  · intro hlatest
    exact ⟨⟨version, dispatcher.keptDomains version⟩,
      mem_coalescedDirtyRecords.mpr ⟨hlatest, rfl⟩, rfl⟩

theorem pairwise_coalescedVersions :
    dispatcher.flush.1.coalescedVersions.Pairwise (· < ·) := by
  show (dispatcher.coalescedDirtyRecords.map DirtyRecord.stateVersion).Pairwise (· < ·)
  rw [coalescedDirtyRecords_eq, List.map_map]
  show (List.map Prod.fst _).Pairwise (· < ·)
  rw [Std.ExtTreeMap.map_fst_toList_eq_keys]
  exact Std.ExtTreeMap.ordered_keys.imp Nat.compare_eq_lt.mp

/-! ### Dispatchers that report the same -/

/-- The dispatchers differ at most in versions below the latest ones. -/
structure Interchangeable (dispatcher dispatcher' : DispatchLoop) : Prop where
  fullset : dispatcher.latestReadyFullset = dispatcher'.latestReadyFullset
  negrisk : dispatcher.latestReadyNegrisk = dispatcher'.latestReadyNegrisk
  dirty : ∀ book, SameReach (dispatcher.dirtyAt book) (dispatcher'.dirtyAt book)

namespace Interchangeable

theorem refl (dispatcher : DispatchLoop) : Interchangeable dispatcher dispatcher :=
  ⟨rfl, rfl, fun _ ↦ .refl _⟩

/-- They stay alike whatever is called on both. -/
theorem step (h : Interchangeable dispatcher dispatcher') (op : DispatchOp) :
    Interchangeable (dispatcher.step op) (dispatcher'.step op) := by
  cases op with
  | recordApply stateVersion dirtySet =>
      refine ⟨h.fullset, h.negrisk, fun book ↦ ?_⟩
      simp only [DispatchLoop.step, dirtyAt_recordApply]
      exact (h.dirty book).union _
  | observeSnapshot snapshot =>
      refine ⟨?_, ?_, fun book ↦ ?_⟩
      · simp only [DispatchLoop.step, latestReadyFullset_observeSnapshot, h.fullset]
      · simp only [DispatchLoop.step, latestReadyNegrisk_observeSnapshot, h.negrisk]
      · simp only [DispatchLoop.step, dirtyAt_observeSnapshot]
        exact (h.dirty book).sep (monotone_past book snapshot)
  | flush =>
      refine ⟨h.fullset, h.negrisk, fun book ↦ ?_⟩
      exact (sameReach_flush.trans (h.dirty book)).trans sameReach_flush.symm

/-- A flush of one of them makes no difference. -/
theorem flush (h : Interchangeable dispatcher dispatcher') :
    Interchangeable dispatcher.flush.2 dispatcher' :=
  ⟨h.fullset, h.negrisk, fun book ↦ sameReach_flush.trans (h.dirty book)⟩

/-- A flush reports the same of both. -/
theorem summary (h : Interchangeable dispatcher dispatcher') :
    dispatcher.flush.1 = dispatcher'.flush.1 := by
  have hlatest : ∀ book, (dispatcher.dirtyVersions book).max? =
      (dispatcher'.dirtyVersions book).max? := fun book ↦ max?_congr (h.dirty book)
  have hkept : dispatcher.coalescedDirtyRecords = dispatcher'.coalescedDirtyRecords := by
    rw [coalescedDirtyRecords_eq, coalescedDirtyRecords_eq, hlatest, hlatest]
  simp only [DispatchLoop.flush, hkept, h.fullset, h.negrisk]

/-- One of them may be spared every flush. -/
theorem run_withoutFlush (h : Interchangeable dispatcher dispatcher') (ops : List DispatchOp) :
    Interchangeable (run DispatchLoop.step dispatcher ops)
      (run DispatchLoop.step dispatcher' (ops.filter (!·.isFlush))) := by
  induction ops generalizing dispatcher dispatcher' with
  | nil => exact h
  | cons op ops ih =>
      cases op with
      | flush => exact ih h.flush
      | recordApply _ _ | observeSnapshot _ => exact ih (h.step _)

end Interchangeable

/-! ### What the history leaves dirty -/

/-- The book was dirty at the version, and no snapshot that was ready for it has covered
the version since. -/
def Uncovered (book : Book) (ops : List DispatchOp) (version : Nat) : Prop :=
  ∃ earlier dirtySet later, ops = earlier ++ .recordApply version dirtySet :: later ∧
    book.dirty dirtySet.domains ∧
    ∀ snapshot, .observeSnapshot snapshot ∈ later → book.ready snapshot →
      snapshot.stateVersion < version

/-- What the last call of a history adds and takes out. -/
theorem uncovered_concat {op : DispatchOp} {version : Nat} :
    Uncovered book (ops ++ [op]) version ↔
      (Uncovered book ops version ∧ ∀ snapshot, op = .observeSnapshot snapshot →
        book.ready snapshot → snapshot.stateVersion < version) ∨
      ∃ dirtySet, op = .recordApply version dirtySet ∧ book.dirty dirtySet.domains := by
  constructor
  · rintro ⟨earlier, dirtySet, later, heq, hdirty, hlater⟩
    induction later using List.reverseRecOn with
    | nil =>
        obtain ⟨-, rfl⟩ := List.append_inj' heq rfl |>.imp_right List.singleton_inj.mp
        exact .inr ⟨dirtySet, rfl, hdirty⟩
    | append_singleton later last _ =>
        rw [← List.cons_append, ← List.append_assoc] at heq
        obtain ⟨rfl, rfl⟩ := List.append_inj' heq rfl |>.imp_right List.singleton_inj.mp
        refine .inl ⟨⟨earlier, dirtySet, later, rfl, hdirty, fun snapshot hmem ↦ ?_⟩, ?_⟩
        · exact hlater snapshot (List.mem_append_left _ hmem)
        · rintro snapshot rfl
          exact hlater snapshot (List.mem_append_right _ (List.mem_singleton_self _))
  · rintro (⟨⟨earlier, dirtySet, later, rfl, hdirty, hlater⟩, hlast⟩ | ⟨dirtySet, rfl, hdirty⟩)
    · refine ⟨earlier, dirtySet, later ++ [op], by simp, hdirty, fun snapshot hmem ↦ ?_⟩
      rcases List.mem_append.mp hmem with hmem | hmem
      · exact hlater snapshot hmem
      · exact hlast snapshot (List.mem_singleton.mp hmem).symm
    · exact ⟨ops, dirtySet, [], rfl, hdirty, by simp⟩

/-- The records reach as far as the history does. -/
theorem sameReach_uncovered (book : Book) (ops : List DispatchOp) :
    SameReach ((run step .empty ops).dirtyAt book) {version | Uncovered book ops version} := by
  induction ops using List.reverseRecOn with
  | nil =>
      refine .of_eq (Set.ext fun version ↦ ?_)
      simp [mem_dirtyAt, DispatchLoop.empty, Uncovered]
  | append_singleton ops op ih =>
      rw [run_append, run_cons, run_nil]
      cases op with
      | recordApply stateVersion dirtySet =>
          rw [step, dirtyAt_recordApply]
          refine (ih.union _).trans (.of_eq (Set.ext fun version ↦ ?_))
          simp only [Set.mem_union, Set.mem_ofPred_eq, uncovered_concat, reduceCtorEq,
            false_imp_iff, implies_true, and_true, DispatchOp.recordApply.injEq]
          refine or_congr_right ⟨?_, ?_⟩
          · rintro ⟨hdirty, rfl⟩
            exact ⟨dirtySet, ⟨rfl, rfl⟩, hdirty⟩
          · rintro ⟨_, ⟨rfl, rfl⟩, hdirty⟩
            exact ⟨hdirty, rfl⟩
      | observeSnapshot snapshot =>
          rw [step, dirtyAt_observeSnapshot]
          refine (ih.sep (monotone_past book snapshot)).trans (.of_eq (Set.ext fun version ↦ ?_))
          simp [uncovered_concat]
      | flush =>
          refine (sameReach_flush.trans ih).trans (.of_eq (Set.ext fun version ↦ ?_))
          simp [uncovered_concat]

/-- **Coalescing is transparent.**  Calls that agree up to flushes leave dispatchers of
which the next flush reports the same; and what it reports as coalesced are, ascending,
the latest versions of each book that the history leaves uncovered. -/
theorem coalescing_transparent :
    (∀ dispatcher ops ops', ops.filter (!·.isFlush) = ops'.filter (!·.isFlush) →
      (run step dispatcher ops).flush.1 = (run step dispatcher ops').flush.1) ∧
    ∀ ops, (run step .empty ops).flush.1.coalescedVersions.Pairwise (· < ·) ∧
      ∀ version, version ∈ (run step .empty ops).flush.1.coalescedVersions ↔
        ∃ book, IsGreatest {version | Uncovered book ops version} version := by
  refine ⟨fun dispatcher ops ops' hagree ↦ ?_, fun ops ↦ ⟨?_, fun version ↦ ?_⟩⟩
  · have hspared := fun ops ↦ ((Interchangeable.refl dispatcher).run_withoutFlush ops).summary
    rw [hspared ops, hspared ops', hagree]
  · exact pairwise_coalescedVersions
  · rw [mem_coalescedVersions]
    refine exists_congr fun book ↦ ?_
    rw [LatestDirty, max?_eq_some_iff_isGreatest]
    exact (sameReach_uncovered book ops).isGreatest_iff

end DispatchLoop

end AxiomArb.AppLive
