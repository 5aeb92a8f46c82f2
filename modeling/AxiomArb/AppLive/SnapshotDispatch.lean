import AxiomArb.AppLive.Coalescing
import Mathlib.Data.List.ReduceOption

/-!
# The snapshot dispatch queue

The queue hands on the latest notice of each book.  The two are filed under their state
version, so that one notice that is the latest for both books is handed on once; of two
notices with one version only the neg-risk one stays.
-/

namespace AxiomArb.AppLive

open Domain Library State

structure SnapshotNotice where
  snapshotId : String
  stateVersion : Nat
  dirtyDomains : List DirtyDomain
  fullsetReady : Bool
  negriskReady : Bool
deriving DecidableEq, Repr

/-- The notice is about a domain of the book. -/
def SnapshotNotice.Dirties (notice : SnapshotNotice) (book : Book) : Prop :=
  book.dirty notice.dirtyDomains

instance (notice : SnapshotNotice) (book : Book) : Decidable (notice.Dirties book) :=
  inferInstanceAs (Decidable (_ = _))

structure SnapshotDispatchQueue where
  notices : List SnapshotNotice
deriving DecidableEq, Repr

namespace SnapshotDispatchQueue

def push (queue : SnapshotDispatchQueue) (notice : SnapshotNotice) : SnapshotDispatchQueue :=
  { notices := queue.notices ++ [notice] }

variable (queue : SnapshotDispatchQueue)

def coalesced : List SnapshotNotice :=
  let latestFullset := latestBy SnapshotNotice.stateVersion
    (queue.notices.filter fun notice ↦ notice.dirtyDomains.any isFullsetDomain)
  let latestNegrisk := latestBy SnapshotNotice.stateVersion
    (queue.notices.filter fun notice ↦ notice.dirtyDomains.contains .negRiskFamilies)
  (BTreeMap.byKey SnapshotNotice.stateVersion [latestFullset, latestNegrisk].reduceOption).vals

/-! ## The latest notices -/

/-- The versions at which the book was dirtied. -/
def dirtyVersions (book : Book) : Set Nat :=
  {version | ∃ notice ∈ queue.notices, notice.Dirties book ∧ notice.stateVersion = version}

/-- The last notice of the book's greatest version. -/
def latest (book : Book) : Option SnapshotNotice :=
  latestBy SnapshotNotice.stateVersion (queue.notices.filter fun notice ↦ notice.Dirties book)

variable {queue} {book : Book} {notice : SnapshotNotice}

theorem latest_spec (h : queue.latest book = some notice) :
    notice.Dirties book ∧ IsGreatest (queue.dirtyVersions book) notice.stateVersion := by
  obtain ⟨hmem, hdirty⟩ := List.mem_filter.mp (mem_of_latestBy h)
  refine ⟨of_decide_eq_true hdirty, ⟨notice, hmem, of_decide_eq_true hdirty, rfl⟩, ?_⟩
  rintro version ⟨other, hother, hdirties, rfl⟩
  exact le_of_latestBy h (List.mem_filter.mpr ⟨hother, decide_eq_true hdirties⟩)

theorem mem_of_latest (h : queue.latest book = some notice) : notice ∈ queue.notices :=
  (List.mem_filter.mp (mem_of_latestBy h)).1

theorem exists_latest (hmem : notice ∈ queue.notices) (hdirty : notice.Dirties book) :
    ∃ latest, queue.latest book = some latest :=
  exists_latestBy (List.mem_filter.mpr ⟨hmem, decide_eq_true hdirty⟩)

/-- A latest notice is one that no earlier notice of its book passes and no later one reaches. -/
theorem latest_eq_some_iff :
    queue.latest book = some notice ↔ notice.Dirties book ∧
      ∃ before after, queue.notices = before ++ notice :: after ∧
        (∀ other ∈ before, other.Dirties book → other.stateVersion ≤ notice.stateVersion) ∧
        ∀ other ∈ after, other.Dirties book → other.stateVersion < notice.stateVersion := by
  rw [latest, latestBy_eq_some_iff]
  constructor
  · rintro ⟨before, after, hsplit, hbefore, hafter⟩
    rw [List.filter_eq_append_iff] at hsplit
    obtain ⟨front, back, hnotices, rfl, hback⟩ := hsplit
    rw [List.filter_eq_cons_iff] at hback
    obtain ⟨clean, later, rfl, hclean, hdirty, rfl⟩ := hback
    refine ⟨of_decide_eq_true hdirty, front ++ clean, later, by rw [hnotices, List.append_assoc],
      ?_, ?_⟩
    · intro other hother hdirties
      rcases List.mem_append.mp hother with hfront | hmem
      · exact hbefore other (List.mem_filter.mpr ⟨hfront, decide_eq_true hdirties⟩)
      · exact absurd (decide_eq_true hdirties) (hclean other hmem)
    · intro other hother hdirties
      exact hafter other (List.mem_filter.mpr ⟨hother, decide_eq_true hdirties⟩)
  · rintro ⟨hdirty, before, after, hsplit, hbefore, hafter⟩
    refine ⟨before.filter fun notice ↦ notice.Dirties book,
      after.filter fun notice ↦ notice.Dirties book, ?_, ?_, ?_⟩
    · rw [hsplit, List.filter_append, List.filter_cons_of_pos (by simpa using hdirty)]
    · intro other hother
      obtain ⟨hmem, hdirties⟩ := List.mem_filter.mp hother
      exact hbefore other hmem (of_decide_eq_true hdirties)
    · intro other hother
      obtain ⟨hmem, hdirties⟩ := List.mem_filter.mp hother
      exact hafter other hmem (of_decide_eq_true hdirties)

/-! ## What is handed on -/

theorem coalesced_eq :
    queue.coalesced = (BTreeMap.byKey SnapshotNotice.stateVersion
      [queue.latest .fullset, queue.latest .negrisk].reduceOption).vals := by
  have hfullset : (fun notice : SnapshotNotice ↦ notice.dirtyDomains.any isFullsetDomain) =
      fun notice ↦ decide (notice.Dirties .fullset) := by
    funext notice
    exact Bool.decide_eq_true.symm
  have hnegrisk : (fun notice : SnapshotNotice ↦ notice.dirtyDomains.contains .negRiskFamilies) =
      fun notice ↦ decide (notice.Dirties .negrisk) := by
    funext notice
    simp [SnapshotNotice.Dirties, Book.dirty, Book.domains, negriskDomains]
  rw [coalesced, hfullset, hnegrisk]
  rfl

/-- The neg-risk notice is always handed on; the full-set one is, unless a neg-risk notice
of the same version takes its place. -/
theorem mem_coalesced_iff :
    notice ∈ queue.coalesced ↔ queue.latest .negrisk = some notice ∨
      queue.latest .fullset = some notice ∧
        ∀ other, queue.latest .negrisk = some other → other.stateVersion ≠ notice.stateVersion := by
  rw [coalesced_eq, BTreeMap.mem_vals_byKey_iff, BTreeMap.lastOf]
  rcases queue.latest .fullset with _ | fullset <;> rcases queue.latest .negrisk with _ | negrisk
  · simp [List.reduceOption_cons_of_none, List.reduceOption_nil]
  all_goals
    simp only [List.reduceOption_cons_of_none, List.reduceOption_cons_of_some,
      List.reduceOption_nil, List.filter_cons, List.filter_nil, reduceCtorEq, Option.some.injEq]
    grind

/-- The latest notice of the book is handed on, or one that dirties it at the same version. -/
def KeepsLatest (queue : SnapshotDispatchQueue) (book : Book) : Prop :=
  (∃ notice ∈ queue.notices, notice.Dirties book) →
    ∃ notice ∈ queue.coalesced, notice.Dirties book ∧
      IsGreatest (queue.dirtyVersions book) notice.stateVersion

/-- The last neg-risk notice of the greatest neg-risk version is not about the full set,
while the full set was last dirtied at that very version. -/
def Displaced (queue : SnapshotDispatchQueue) : Prop :=
  ∃ before notice after, queue.notices = before ++ notice :: after ∧
    notice.Dirties .negrisk ∧ ¬ notice.Dirties .fullset ∧
    (∀ other ∈ before, other.Dirties .negrisk → other.stateVersion ≤ notice.stateVersion) ∧
    (∀ other ∈ after, other.Dirties .negrisk → other.stateVersion < notice.stateVersion) ∧
    IsGreatest (queue.dirtyVersions .fullset) notice.stateVersion

/-- The queue hands on a latest notice for each book, by ascending version. -/
def LosesNoBook (queue : SnapshotDispatchQueue) : Prop :=
  (∀ book, queue.KeepsLatest book) ∧
    (queue.coalesced.map SnapshotNotice.stateVersion).Pairwise (· < ·)

theorem pairwise_coalesced :
    (queue.coalesced.map SnapshotNotice.stateVersion).Pairwise (· < ·) := by
  rw [coalesced_eq]
  exact (BTreeMap.pairwise_key_vals_byKey _ _).imp Nat.compare_eq_lt.mp

theorem keepsLatest_negrisk : queue.KeepsLatest .negrisk := by
  rintro ⟨notice, hmem, hdirty⟩
  obtain ⟨latest, hlatest⟩ := exists_latest hmem hdirty
  exact ⟨latest, mem_coalesced_iff.mpr (.inl hlatest), latest_spec hlatest⟩

/-- The full set is lost exactly to a neg-risk notice of its latest version. -/
theorem displaced_iff :
    queue.Displaced ↔ ∃ fullset negrisk, queue.latest .fullset = some fullset ∧
      queue.latest .negrisk = some negrisk ∧ negrisk.stateVersion = fullset.stateVersion ∧
      ¬ negrisk.Dirties .fullset := by
  constructor
  · rintro ⟨before, negrisk, after, hsplit, hdirty, hclean, hbefore, hafter, hgreatest⟩
    obtain ⟨notice, hmem, hdirties, -⟩ := hgreatest.1
    obtain ⟨fullset, hfullset⟩ := exists_latest hmem hdirties
    exact ⟨fullset, negrisk, hfullset,
      latest_eq_some_iff.mpr ⟨hdirty, before, after, hsplit, hbefore, hafter⟩,
      hgreatest.unique (latest_spec hfullset).2, hclean⟩
  · rintro ⟨fullset, negrisk, hfullset, hnegrisk, hversion, hclean⟩
    obtain ⟨hdirty, before, after, hsplit, hbefore, hafter⟩ := latest_eq_some_iff.mp hnegrisk
    exact ⟨before, negrisk, after, hsplit, hdirty, hclean, hbefore, hafter,
      hversion ▸ (latest_spec hfullset).2⟩

/-- **Coalescing keeps both books up to date, unless a neg-risk notice takes the full set's
place.**  That happens exactly if the last notice of the greatest neg-risk version is not
about the full set, and that version is also the greatest one of the full set. -/
theorem losesNoBook_iff (queue : SnapshotDispatchQueue) : queue.LosesNoBook ↔ ¬ queue.Displaced := by
  rw [displaced_iff]
  constructor
  · rintro ⟨hkeeps, -⟩ ⟨fullset, negrisk, hfullset, hnegrisk, hversion, hclean⟩
    obtain ⟨hdirty, hgreatest⟩ := latest_spec hfullset
    obtain ⟨kept, hkept, hdirties, hlatest⟩ :=
      hkeeps .fullset ⟨fullset, mem_of_latest hfullset, hdirty⟩
    have hsame : kept.stateVersion = fullset.stateVersion := hlatest.unique hgreatest
    rcases mem_coalesced_iff.mp hkept with hkept | ⟨-, hother⟩
    · obtain rfl := Option.some.inj (hnegrisk.symm.trans hkept)
      exact hclean hdirties
    · exact hother negrisk hnegrisk (hversion.trans hsame.symm)
  · intro hplace
    refine ⟨?_, pairwise_coalesced⟩
    rintro (_ | _)
    · rintro ⟨notice, hmem, hdirty⟩
      obtain ⟨fullset, hfullset⟩ := exists_latest hmem hdirty
      obtain ⟨hdirties, hgreatest⟩ := latest_spec hfullset
      by_cases hfree : ∀ other, queue.latest .negrisk = some other →
          other.stateVersion ≠ fullset.stateVersion
      · exact ⟨fullset, mem_coalesced_iff.mpr (.inr ⟨hfullset, hfree⟩), hdirties, hgreatest⟩
      · -- The notice that takes the place dirties the full set as well.
        simp only [not_forall, not_not, exists_prop] at hfree
        obtain ⟨negrisk, hnegrisk, hversion⟩ := hfree
        refine ⟨negrisk, mem_coalesced_iff.mpr (.inl hnegrisk), ?_, hversion ▸ hgreatest⟩
        by_contra hclean
        exact hplace ⟨fullset, negrisk, hfullset, hnegrisk, hversion, hclean⟩
    · exact keepsLatest_negrisk

/-- Orders and a neg-risk family were dirtied at one version: only the family is handed on. -/
theorem fullset_notice_displaced :
    ¬ LosesNoBook { notices := [
      { snapshotId := "snapshot-8", stateVersion := 8, dirtyDomains := [.orders],
        fullsetReady := true, negriskReady := false },
      { snapshotId := "snapshot-8", stateVersion := 8, dirtyDomains := [.negRiskFamilies],
        fullsetReady := true, negriskReady := true }] } := by
  rintro ⟨hkeeps, -⟩
  obtain ⟨notice, hmem, hdirty, -⟩ := hkeeps .fullset ⟨_, List.mem_cons_self, by decide⟩
  revert hdirty
  revert notice
  decide

end SnapshotDispatchQueue

end AxiomArb.AppLive
