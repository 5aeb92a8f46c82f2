import AxiomArb.Library.Run
import Mathlib.Data.List.Pairwise

/-!
# Transactions over rows that are only inserted

Transactions run against one store of rows, a statement at a time and in any order.  A
transaction sees the rows that are committed and its own.  It inserts a row only if no row
clashes with it: where the clash is with a row it sees, the insertion is skipped or refused,
and where it is with a row that another open transaction wrote, it waits.  Rows are never
changed or removed, except that those of a transaction that fails vanish with it.

What a client has to show of its statements, one by one, is collected in a `Contract`.  It
then holds of every store that is reached, whatever the order of the statements
(`Contract.sound_run`): rows never clash, every committed row was written by a transaction
that is committed, and what a committed transaction knew of its rows it knows for good.
-/

universe u v w

namespace AxiomArb.Library

/-- An insertion.  Where a row that the transaction sees is one of the arbiter's, it is skipped. -/
structure Insertion (ρ : Type u) (τ : Type v) (ε : Type w) where
  row : ρ
  /-- The error of a row that must not be stored. -/
  invalid : Option ε
  arbiter : ρ → Bool
  skipped : List ρ → Except ε τ
  duplicate : List ρ → ε
  /-- The error of a row that refers to a row that is not seen. -/
  dangling : List ρ → Option ε
  inserted : τ

inductive Statement (ρ : Type u) (τ : Type v) (ε : Type w) where
  | read (next : List ρ → Except ε τ)
  | insert (insertion : Insertion ρ τ ε)
  | commit

inductive Outcome (ρ : Type u) (τ : Type v) (ε : Type w) where
  | waits
  | continues (state : τ)
  | inserts (row : ρ) (state : τ)
  | fails (error : ε)
  | commits

variable {ρ : Type u} {τ : Type v} {ε : Type w}

def Outcome.ofExcept : Except ε τ → Outcome ρ τ ε
  | .ok state => .continues state
  | .error error => .fails error

/-- What a statement does where the transaction sees the rows `seen` and other open transactions
wrote the rows `others`. -/
def Statement.exec (clash : ρ → ρ → Bool) (seen others : List ρ) :
    Statement ρ τ ε → Outcome ρ τ ε
  | .read next => .ofExcept (next seen)
  | .commit => .commits
  | .insert insertion =>
      match insertion.invalid with
      | some error => .fails error
      | none =>
          if seen.any insertion.arbiter then .ofExcept (insertion.skipped seen)
          else if others.any (clash insertion.row) then .waits
          else if seen.any (clash insertion.row) then .fails (insertion.duplicate seen)
          else match insertion.dangling seen with
            | some error => .fails error
            | none => .inserts insertion.row insertion.inserted

/-- A row, and the transaction that wrote it while that is open. -/
structure Version (ρ : Type u) where
  row : ρ
  writer : Option Nat

inductive Status (ε : Type w) where
  | active
  | committed
  | failed (error : ε)
  | rolledBack

structure Transaction (τ : Type v) (ε : Type w) where
  state : τ
  status : Status ε

structure Store (ρ : Type u) (τ : Type v) (ε : Type w) where
  versions : List (Version ρ)
  transactions : List (Transaction τ ε)

inductive Event (τ : Type v) where
  | start (state : τ)
  | advance (i : Nat)
  /-- The connection is lost, or the transaction is the victim of a deadlock. -/
  | rollback (i : Nat)

namespace Version

def seenBy (i : Nat) (version : Version ρ) : Bool := version.writer.all (· == i)

def isCommitted (version : Version ρ) : Bool := version.writer.isNone

/-- The transaction `i` is committed. -/
def commit (i : Nat) (version : Version ρ) : Version ρ :=
  { version with writer := version.writer.filter (· != i) }

@[simp] theorem commit_row (i : Nat) (version : Version ρ) : (version.commit i).row = version.row :=
  rfl

theorem seenBy_iff {i : Nat} {version : Version ρ} :
    version.seenBy i = true ↔ version.writer = none ∨ version.writer = some i := by
  rcases hwriter : version.writer with _ | j
  · simp [seenBy, hwriter]
  · simp [seenBy, hwriter]

theorem isCommitted_iff {version : Version ρ} :
    version.isCommitted = true ↔ version.writer = none :=
  Option.isNone_iff_eq_none

theorem isCommitted_commit (i : Nat) (version : Version ρ) :
    (version.commit i).isCommitted = version.seenBy i := by
  rcases hwriter : version.writer with _ | j
  · simp [isCommitted, commit, seenBy, hwriter]
  · by_cases hsame : j = i
    · simp [isCommitted, commit, seenBy, hwriter, hsame]
    · simp [isCommitted, commit, seenBy, hwriter, hsame, Option.filter]

theorem seenBy_commit {i j : Nat} {version : Version ρ} (h : version.seenBy j = true) :
    (version.commit i).seenBy j = true := by
  rw [seenBy_iff] at h ⊢
  rcases h with hwriter | hwriter
  · exact .inl (by simp [commit, hwriter])
  · by_cases hsame : j = i
    · exact .inl (by simp [commit, hwriter, hsame])
    · exact .inr (by simp [commit, hwriter, hsame, Option.filter])

end Version

namespace Store

def empty : Store ρ τ ε := { versions := [], transactions := [] }

/-- The rows that the transaction `i` sees. -/
def seen (store : Store ρ τ ε) (i : Nat) : List ρ :=
  (store.versions.filter (Version.seenBy i)).map Version.row

/-- The rows that open transactions other than `i` wrote. -/
def others (store : Store ρ τ ε) (i : Nat) : List ρ :=
  (store.versions.filter (!Version.seenBy i ·)).map Version.row

def committed (store : Store ρ τ ε) : List ρ :=
  (store.versions.filter Version.isCommitted).map Version.row

/-- The transaction `i` ends and its rows vanish. -/
def undo (store : Store ρ τ ε) (i : Nat) (transaction : Transaction τ ε) : Store ρ τ ε :=
  { versions := store.versions.filter (·.writer != some i)
    transactions := store.transactions.set i transaction }

/-- The transaction `i`, open in `state`, goes on with an outcome. -/
def apply (store : Store ρ τ ε) (i : Nat) (state : τ) : Outcome ρ τ ε → Store ρ τ ε
  | .waits => store
  | .continues next => { store with transactions := store.transactions.set i ⟨next, .active⟩ }
  | .inserts row next =>
      { versions := store.versions ++ [⟨row, some i⟩]
        transactions := store.transactions.set i ⟨next, .active⟩ }
  | .fails error => store.undo i ⟨state, .failed error⟩
  | .commits =>
      { versions := store.versions.map (Version.commit i)
        transactions := store.transactions.set i ⟨state, .committed⟩ }

def step (clash : ρ → ρ → Bool) (next : τ → Statement ρ τ ε) (store : Store ρ τ ε) :
    Event τ → Store ρ τ ε
  | .start state => { store with transactions := store.transactions ++ [⟨state, .active⟩] }
  | .advance i =>
      match store.transactions[i]? with
      | some ⟨state, .active⟩ =>
          store.apply i state ((next state).exec clash (store.seen i) (store.others i))
      | _ => store
  | .rollback i =>
      match store.transactions[i]? with
      | some ⟨state, .active⟩ => store.undo i ⟨state, .rolledBack⟩
      | _ => store

end Store

/-! ## What a client shows of its statements -/

/-- What an outcome must establish, of a transaction in `state` that sees `rows`. -/
def Outcome.Meets (good : ρ → Prop) (writes : τ → ρ → Prop) (knows : τ → List ρ → Prop)
    (fails : τ → ε → Prop) (supports : List ρ → ρ → Prop) (state : τ) (rows : List ρ) :
    Outcome ρ τ ε → Prop
  | .waits => True
  | .continues next => (∀ row, writes state row → writes next row) ∧ knows next rows
  | .inserts row next => good row ∧ (∀ row, writes state row → writes next row) ∧
      writes next row ∧ knows next (rows ++ [row]) ∧ supports (rows ++ [row]) row
  | .fails error => fails state error
  | .commits => True

/-- What is asserted of the transactions of a client, and that each statement keeps it. -/
structure Contract (clash : ρ → ρ → Bool) (next : τ → Statement ρ τ ε) where
  /-- What every row satisfies. -/
  good : ρ → Prop
  /-- The rows that a transaction may have written. -/
  writes : τ → ρ → Prop
  /-- What a transaction knows of the rows it sees. -/
  knows : τ → List ρ → Prop
  /-- The errors with which a transaction may fail. -/
  fails : τ → ε → Prop
  /-- Whether the rows, itself included, have all that a row refers to. -/
  supports : List ρ → ρ → Prop
  symm : ∀ row row', clash row row' = clash row' row
  mono : ∀ {state rows rows'}, knows state rows → rows ⊆ rows' → knows state rows'
  supports_mono : ∀ {rows rows' row}, supports rows row → rows ⊆ rows' → supports rows' row
  allows : ∀ {state rows}, knows state rows → (∀ row ∈ rows, good row) →
    rows.Pairwise (fun row row' ↦ clash row row' = false) → ∀ others,
      ((next state).exec clash rows others).Meets good writes knows fails supports state rows

variable {clash : ρ → ρ → Bool} {next : τ → Statement ρ τ ε}

/-- A row that is inserted clashes with no row, seen or not. -/
theorem Statement.clash_of_exec_eq_inserts {statement : Statement ρ τ ε} {seen others : List ρ}
    {row : ρ} {state : τ} (h : statement.exec clash seen others = .inserts row state) :
    (∀ row' ∈ seen, clash row row' = false) ∧ ∀ row' ∈ others, clash row row' = false := by
  cases statement with
  | commit => cases h
  | read f =>
      rw [exec] at h
      cases hread : f seen with
      | ok state => rw [hread] at h; cases h
      | error error => rw [hread] at h; cases h
  | insert insertion =>
      rw [exec] at h
      split at h
      · cases h
      · split_ifs at h with harbiter hothers hseen
        · cases hskipped : insertion.skipped seen with
          | ok state => rw [hskipped] at h; cases h
          | error error => rw [hskipped] at h; cases h
        · split at h
          · cases h
          · cases h
            rw [List.any_eq_true] at hothers hseen
            push Not at hothers hseen
            exact ⟨fun row' hrow ↦ Bool.eq_false_iff.mpr (hseen row' hrow),
              fun row' hrow ↦ Bool.eq_false_iff.mpr (hothers row' hrow)⟩

theorem Statement.eq_commit_of_exec {statement : Statement ρ τ ε} {seen others : List ρ}
    (h : statement.exec clash seen others = .commits) : statement = .commit := by
  cases statement with
  | commit => rfl
  | read f =>
      rw [exec] at h
      cases hread : f seen with
      | ok state => rw [hread] at h; cases h
      | error error => rw [hread] at h; cases h
  | insert insertion =>
      rw [exec] at h
      split at h
      · cases h
      · split_ifs at h
        · cases hskipped : insertion.skipped seen with
          | ok state => rw [hskipped] at h; cases h
          | error error => rw [hskipped] at h; cases h
        · split at h <;> cases h

namespace Store

variable {store : Store ρ τ ε} {i j : Nat} {state : τ} {transaction : Transaction τ ε} {row : ρ}

theorem mem_seen : row ∈ store.seen i ↔ ∃ version ∈ store.versions,
    (version.writer = none ∨ version.writer = some i) ∧ version.row = row := by
  simp only [seen, List.mem_map, List.mem_filter, Version.seenBy_iff, and_assoc]

theorem mem_committed : row ∈ store.committed ↔ ∃ version ∈ store.versions,
    version.writer = none ∧ version.row = row := by
  simp only [committed, List.mem_map, List.mem_filter, Version.isCommitted_iff, and_assoc]

theorem committed_subset_seen (i : Nat) : store.committed ⊆ store.seen i := by
  intro row hrow
  obtain ⟨version, hversion, hwriter, hsame⟩ := mem_committed.mp hrow
  exact mem_seen.mpr ⟨version, hversion, .inl hwriter, hsame⟩

/-- Every row is seen or another transaction's. -/
theorem row_mem_seen_or_others (i : Nat) {version : Version ρ} (h : version ∈ store.versions) :
    version.row ∈ store.seen i ∨ version.row ∈ store.others i := by
  by_cases hseen : version.seenBy i = true
  · exact .inl (List.mem_map_of_mem (List.mem_filter.mpr ⟨h, hseen⟩))
  · rw [Bool.not_eq_true] at hseen
    exact .inr (List.mem_map_of_mem (List.mem_filter.mpr ⟨h, by rw [hseen]; rfl⟩))

theorem committed_undo : (store.undo i transaction).committed = store.committed := by
  rw [committed, undo, List.filter_filter]
  congr 1
  refine List.filter_congr fun version _ ↦ ?_
  rcases hwriter : version.writer with _ | j
  · simp [Version.isCommitted, hwriter]
  · simp [Version.isCommitted, hwriter]

theorem seen_undo_of_ne (h : j ≠ i) : (store.undo i transaction).seen j = store.seen j := by
  rw [seen, undo, List.filter_filter]
  congr 1
  refine List.filter_congr fun version _ ↦ ?_
  rcases hwriter : version.writer with _ | k
  · simp [Version.seenBy, hwriter]
  · by_cases hsame : k = j
    · simp [Version.seenBy, hwriter, hsame, h]
    · simp [Version.seenBy, hwriter, hsame]

section Insert

variable {transactions : List (Transaction τ ε)}

theorem committed_insert :
    committed { versions := store.versions ++ [⟨row, some i⟩], transactions } = store.committed := by
  simp [committed, Version.isCommitted]

theorem seen_insert_self :
    seen { versions := store.versions ++ [⟨row, some i⟩], transactions } i = store.seen i ++ [row] := by
  simp [seen, Version.seenBy]

theorem seen_insert_of_ne (h : j ≠ i) :
    seen { versions := store.versions ++ [⟨row, some i⟩], transactions } j = store.seen j := by
  simp [seen, Version.seenBy, h.symm]

end Insert

section Commit

variable {transactions : List (Transaction τ ε)}

/-- What a transaction saw when it was committed. -/
theorem committed_commit :
    committed { versions := store.versions.map (Version.commit i), transactions } = store.seen i := by
  rw [committed, seen, List.filter_map, List.map_map]
  congr 1
  exact List.filter_congr fun version _ ↦ Version.isCommitted_commit i version

theorem seen_subset_seen_commit :
    store.seen j ⊆ seen { versions := store.versions.map (Version.commit i), transactions } j := by
  intro row hrow
  obtain ⟨version, hversion, rfl⟩ := List.mem_map.mp hrow
  rw [List.mem_filter] at hversion
  refine List.mem_map.mpr ⟨version.commit i, List.mem_filter.mpr ⟨?_, ?_⟩, rfl⟩
  · exact List.mem_map_of_mem hversion.1
  · exact Version.seenBy_commit hversion.2

end Commit

theorem getElem?_set_eq_some {transactions : List (Transaction τ ε)} {old new other : Transaction τ ε}
    (hold : transactions[i]? = some old) :
    (transactions.set i new)[j]? = some other ↔
      (j = i ∧ other = new) ∨ (j ≠ i ∧ transactions[j]? = some other) := by
  obtain ⟨hlt, -⟩ := List.getElem?_eq_some_iff.mp hold
  rw [List.getElem?_set]
  by_cases hsame : i = j
  · subst hsame
    simp [hlt, eq_comm]
  · simp [hsame, Ne.symm hsame]

end Store

/-! ## Rows that have what they refer to -/

namespace Version

/-- A version is seen by the writer of the other. -/
def seenFrom (version other : Version ρ) : Bool := other.writer.isNone || other.writer == version.writer

end Version

/-- Each of the later versions has what it refers to among those before it. -/
def Founded (supports : List ρ → ρ → Prop) : List (Version ρ) → List (Version ρ) → Prop
  | _, [] => True
  | earlier, version :: later =>
      supports ((earlier.filter version.seenFrom).map Version.row ++ [version.row]) version.row ∧
        Founded supports (earlier ++ [version]) later

namespace Founded

variable {supports : List ρ → ρ → Prop} {earlier later : List (Version ρ)} {version : Version ρ}

theorem append (h : Founded supports earlier later)
    (hversion : supports
      (((earlier ++ later).filter version.seenFrom).map Version.row ++ [version.row]) version.row) :
    Founded supports earlier (later ++ [version]) := by
  induction later generalizing earlier with
  | nil =>
      rw [List.append_nil] at hversion
      exact ⟨hversion, trivial⟩
  | cons first later ih =>
      refine ⟨h.1, ih h.2 ?_⟩
      rw [List.append_assoc, List.singleton_append]
      exact hversion

/-- The rows of one transaction vanish: no other transaction refers to them. -/
theorem undo (i : Nat) (h : Founded supports earlier later) :
    Founded supports (earlier.filter (·.writer != some i)) (later.filter (·.writer != some i)) := by
  induction later generalizing earlier with
  | nil => trivial
  | cons version later ih =>
      have hrest := ih h.2
      rw [List.filter_append] at hrest
      by_cases hwriter : version.writer = some i
      · rw [List.filter_cons_of_neg (by simp [hwriter])]
        rwa [List.filter_cons_of_neg (by simp [hwriter]), List.filter_nil, List.append_nil] at hrest
      · have hkept : (version.writer != some i) = true := by simp [hwriter]
        simp only [List.filter_cons, hkept, if_true, List.filter_nil] at hrest ⊢
        refine ⟨?_, hrest⟩
        have hsame : (earlier.filter (·.writer != some i)).filter version.seenFrom =
            earlier.filter version.seenFrom := by
          rw [List.filter_filter]
          refine List.filter_congr fun other _ ↦ ?_
          rcases hother : other.writer with _ | j
          · simp [Version.seenFrom, hother]
          · by_cases hji : j = i
            · simp [Version.seenFrom, hother, hji, Ne.symm hwriter]
            · simp [Version.seenFrom, hother, hji]
        rw [hsame]
        exact h.1

/-- Committed rows may be referred to. -/
theorem commit (i : Nat) (h : Founded supports earlier later)
    (hmono : ∀ rows rows' row, supports rows row → rows ⊆ rows' → supports rows' row) :
    Founded supports (earlier.map (Version.commit i)) (later.map (Version.commit i)) := by
  induction later generalizing earlier with
  | nil => trivial
  | cons version later ih =>
      have hrest := ih h.2
      rw [List.map_append, List.map_singleton] at hrest
      refine ⟨hmono _ _ _ h.1 (List.append_subset_of_subset_of_subset (fun row hrow ↦ ?_)
        (List.subset_append_right _ _)), hrest⟩
      refine List.mem_append_left _ ?_
      obtain ⟨other, hother, rfl⟩ := List.mem_map.mp hrow
      rw [List.mem_filter] at hother
      refine List.mem_map.mpr ⟨other.commit i, List.mem_filter.mpr ⟨List.mem_map_of_mem hother.1, ?_⟩, rfl⟩
      have hseen := hother.2
      rcases hwriter : other.writer with _ | j
      · simp [Version.seenFrom, Version.commit, hwriter]
      · have hsame : some j = version.writer := by simpa [Version.seenFrom, hwriter] using hseen
        simp [Version.seenFrom, Version.commit, hwriter, ← hsame]

/-- What a committed row refers to is committed. -/
theorem committed (h : Founded supports earlier later) {before after : List ρ} {row : ρ}
    (hrows : (later.filter Version.isCommitted).map Version.row = before ++ row :: after) :
    supports ((earlier.filter Version.isCommitted).map Version.row ++ before ++ [row]) row := by
  induction later generalizing earlier before with
  | nil => simp at hrows
  | cons version later ih =>
      by_cases hcommitted : version.isCommitted = true
      · rw [List.filter_cons_of_pos hcommitted, List.map_cons] at hrows
        cases before with
        | nil =>
            obtain ⟨rfl, -⟩ := List.cons.inj hrows
            have hseen : earlier.filter version.seenFrom = earlier.filter Version.isCommitted := by
              refine List.filter_congr fun other _ ↦ ?_
              rw [Version.isCommitted_iff] at hcommitted
              rcases hother : other.writer with _ | j
              · simp [Version.seenFrom, Version.isCommitted, hother]
              · simp [Version.seenFrom, Version.isCommitted, hother, hcommitted]
            rw [List.append_nil, ← hseen]
            exact h.1
        | cons first before =>
            obtain ⟨rfl, hlater⟩ := List.cons.inj hrows
            have hrest := ih h.2 hlater
            rwa [List.filter_append, List.filter_cons_of_pos hcommitted, List.filter_nil,
              List.map_append, List.map_singleton, List.append_assoc _ [version.row],
              List.singleton_append] at hrest
      · rw [List.filter_cons_of_neg hcommitted] at hrows
        have hrest := ih h.2 hrows
        rwa [List.filter_append, List.filter_cons_of_neg hcommitted, List.filter_nil,
          List.append_nil] at hrest

end Founded

/-! ## What holds of every store that is reached -/

namespace Contract

/-- What a contract asserts of a store. -/
structure Sound (contract : Contract clash next) (store : Store ρ τ ε) : Prop where
  clashFree : store.versions.Pairwise fun version version' ↦ clash version.row version'.row = false
  good : ∀ version ∈ store.versions, contract.good version.row
  founded : Founded contract.supports [] store.versions
  written : ∀ version ∈ store.versions, ∀ i : Nat, version.writer = some i →
    ∃ state : τ, store.transactions[i]? = some ⟨state, .active⟩ ∧ contract.writes state version.row
  authored : ∀ version ∈ store.versions, version.writer = none →
    ∃ (i : Nat) (state : τ), store.transactions[i]? = some ⟨state, .committed⟩ ∧
      contract.writes state version.row
  active : ∀ (i : Nat) (state : τ), store.transactions[i]? = some ⟨state, .active⟩ →
    contract.knows state (store.seen i)
  settled : ∀ (i : Nat) (state : τ), store.transactions[i]? = some ⟨state, .committed⟩ →
    contract.knows state store.committed
  ended : ∀ (i : Nat) (state : τ), store.transactions[i]? = some ⟨state, .committed⟩ → next state = .commit
  failed : ∀ (i : Nat) (state : τ) (error : ε), store.transactions[i]? = some ⟨state, .failed error⟩ →
    contract.fails state error

variable {contract : Contract clash next} {store : Store ρ τ ε} {i : Nat} {state : τ}

theorem sound_empty : contract.Sound Store.empty where
  clashFree := .nil
  good _ h := nomatch h
  founded := trivial
  written _ h := nomatch h
  authored _ h := nomatch h
  active _ _ h := nomatch h
  settled _ _ h := nomatch h
  ended _ _ h := nomatch h
  failed _ _ _ h := nomatch h

theorem Sound.good_of_mem_seen (h : contract.Sound store) : ∀ row ∈ store.seen i, contract.good row := by
  intro row hrow
  obtain ⟨version, hversion, -, rfl⟩ := Store.mem_seen.mp hrow
  exact h.good version hversion

theorem Sound.pairwise_seen (h : contract.Sound store) :
    (store.seen i).Pairwise fun row row' ↦ clash row row' = false :=
  List.pairwise_map.mpr (h.clashFree.filter _)

/-- Rows that clash are one row. -/
theorem Sound.eq_of_clash (h : contract.Sound store) {row row' : ρ} (hrow : row ∈ store.committed)
    (hrow' : row' ∈ store.committed) (hclash : clash row row' = true) : row = row' := by
  have hpairs : store.committed.Pairwise fun row row' ↦ clash row row' = false :=
    List.pairwise_map.mpr (h.clashFree.filter _)
  have hsymm : Std.Symm fun row row' ↦ clash row row' = false :=
    ⟨fun row row' hnot ↦ (contract.symm row' row).trans hnot⟩
  by_contra hne
  rw [hpairs.forall hrow hrow' hne] at hclash
  cases hclash

/-- What a committed row refers to was committed with it or before. -/
theorem Sound.supports (h : contract.Sound store) {before after : List ρ} {row : ρ}
    (hrows : store.committed = before ++ row :: after) : contract.supports (before ++ [row]) row :=
  h.founded.committed hrows

/-- A transaction begins. -/
theorem Sound.start (h : contract.Sound store) (hstate : ∀ rows, contract.knows state rows) :
    contract.Sound { store with transactions := store.transactions ++ [⟨state, .active⟩] } := by
  have hold : ∀ {j : Nat} {transaction : Transaction τ ε}, store.transactions[j]? = some transaction →
      (store.transactions ++ [⟨state, .active⟩])[j]? = some transaction := by
    intro j transaction hj
    rw [List.getElem?_append_left (List.getElem?_eq_some_iff.mp hj).1]
    exact hj
  have hnew : ∀ {j : Nat} {transaction : Transaction τ ε},
      (store.transactions ++ [⟨state, .active⟩])[j]? = some transaction →
      store.transactions[j]? = some transaction ∨ transaction = ⟨state, .active⟩ := by
    intro j transaction hj
    rcases List.getElem?_append.symm.trans hj with hj
    split_ifs at hj with hlt
    · exact .inl hj
    · rw [List.getElem?_singleton] at hj
      split_ifs at hj
      exact .inr (Option.some.inj hj).symm
  refine ⟨h.clashFree, h.good, h.founded, ?_, ?_, ?_, ?_, ?_, ?_⟩
  · intro version hversion j hwriter
    obtain ⟨state', hj, hwrites⟩ := h.written version hversion j hwriter
    exact ⟨state', hold hj, hwrites⟩
  · intro version hversion hwriter
    obtain ⟨j, state', hj, hwrites⟩ := h.authored version hversion hwriter
    exact ⟨j, state', hold hj, hwrites⟩
  · intro j state' hj
    rcases hnew hj with hj | hj
    · exact h.active j state' hj
    · cases hj
      exact hstate _
  · intro j state' hj
    rcases hnew hj with hj | hj
    · exact h.settled j state' hj
    · cases hj
  · intro j state' hj
    rcases hnew hj with hj | hj
    · exact h.ended j state' hj
    · cases hj
  · intro j state' error hj
    rcases hnew hj with hj | hj
    · exact h.failed j state' error hj
    · cases hj

variable (hactive : store.transactions[i]? = some ⟨state, .active⟩)

include hactive

/-- A transaction ends and its rows vanish. -/
theorem Sound.undo (h : contract.Sound store) {transaction : Transaction τ ε}
    (hended : transaction.status = .rolledBack ∨
      ∃ error, transaction.status = .failed error ∧ contract.fails transaction.state error) :
    contract.Sound (store.undo i transaction) := by
  have hset {j : Nat} {other : Transaction τ ε} :=
    @Store.getElem?_set_eq_some _ _ i j store.transactions _ transaction other hactive
  have hne : transaction.status ≠ .active ∧ transaction.status ≠ .committed := by
    rcases hended with hended | ⟨error, hended, -⟩ <;> simp [hended]
  have hkept : ∀ version ∈ (store.undo i transaction).versions,
      version ∈ store.versions ∧ version.writer ≠ some i := by
    intro version hversion
    simpa [Store.undo] using hversion
  refine ⟨h.clashFree.filter _, fun version hversion ↦ h.good version (hkept version hversion).1,
    h.founded.undo i, ?_, ?_, ?_, ?_, ?_, ?_⟩
  · intro version hversion j hwriter
    obtain ⟨hversion, hother⟩ := hkept version hversion
    obtain ⟨state', hj, hwrites⟩ := h.written version hversion j hwriter
    refine ⟨state', hset.mpr (.inr ⟨?_, hj⟩), hwrites⟩
    rintro rfl
    exact hother hwriter
  · intro version hversion hwriter
    obtain ⟨j, state', hj, hwrites⟩ := h.authored version (hkept version hversion).1 hwriter
    refine ⟨j, state', hset.mpr (.inr ⟨?_, hj⟩), hwrites⟩
    rintro rfl
    rw [hactive] at hj
    cases hj
  · intro j state' hj
    rcases hset.mp hj with ⟨-, rfl⟩ | ⟨hji, hj⟩
    · exact absurd rfl hne.1
    · rw [Store.seen_undo_of_ne hji]
      exact h.active j state' hj
  · intro j state' hj
    rcases hset.mp hj with ⟨-, rfl⟩ | ⟨-, hj⟩
    · exact absurd rfl hne.2
    · rw [Store.committed_undo]
      exact h.settled j state' hj
  · intro j state' hj
    rcases hset.mp hj with ⟨-, rfl⟩ | ⟨-, hj⟩
    · exact absurd rfl hne.2
    · exact h.ended j state' hj
  · intro j state' error hj
    rcases hset.mp hj with ⟨-, rfl⟩ | ⟨-, hj⟩
    · rcases hended with hended | ⟨error', hended, hfails⟩
      · cases hended
      · cases hended
        exact hfails
    · exact h.failed j state' error hj

/-- A transaction goes on without a new row. -/
theorem Sound.continues (h : contract.Sound store) {state' : τ}
    (hwrites : ∀ row, contract.writes state row → contract.writes state' row)
    (hknows : contract.knows state' (store.seen i)) :
    contract.Sound { store with transactions := store.transactions.set i ⟨state', .active⟩ } := by
  have hset {j : Nat} {other : Transaction τ ε} :=
    @Store.getElem?_set_eq_some _ _ i j store.transactions _ ⟨state', .active⟩ other hactive
  refine ⟨h.clashFree, h.good, h.founded, ?_, ?_, ?_, ?_, ?_, ?_⟩
  · intro version hversion j hwriter
    obtain ⟨other, hj, hother⟩ := h.written version hversion j hwriter
    by_cases hji : j = i
    · subst hji
      rw [hactive] at hj
      cases hj
      exact ⟨state', hset.mpr (.inl ⟨rfl, rfl⟩), hwrites _ hother⟩
    · exact ⟨other, hset.mpr (.inr ⟨hji, hj⟩), hother⟩
  · intro version hversion hwriter
    obtain ⟨j, other, hj, hother⟩ := h.authored version hversion hwriter
    refine ⟨j, other, hset.mpr (.inr ⟨?_, hj⟩), hother⟩
    rintro rfl
    rw [hactive] at hj
    cases hj
  · intro j other hj
    rcases hset.mp hj with ⟨rfl, hsame⟩ | ⟨-, hj⟩
    · cases hsame
      exact hknows
    · exact h.active j other hj
  · intro j other hj
    rcases hset.mp hj with ⟨-, hsame⟩ | ⟨-, hj⟩
    · cases hsame
    · exact h.settled j other hj
  · intro j other hj
    rcases hset.mp hj with ⟨-, hsame⟩ | ⟨-, hj⟩
    · cases hsame
    · exact h.ended j other hj
  · intro j other error hj
    rcases hset.mp hj with ⟨-, hsame⟩ | ⟨-, hj⟩
    · cases hsame
    · exact h.failed j other error hj

/-- A transaction wrote a row. -/
theorem Sound.inserts (h : contract.Sound store) {state' : τ} {row : ρ} (hgood : contract.good row)
    (hclash : ∀ version ∈ store.versions, clash row version.row = false)
    (hwrites : ∀ row, contract.writes state row → contract.writes state' row)
    (hrow : contract.writes state' row) (hknows : contract.knows state' (store.seen i ++ [row]))
    (hsupports : contract.supports (store.seen i ++ [row]) row) :
    contract.Sound
      { versions := store.versions ++ [⟨row, some i⟩]
        transactions := store.transactions.set i ⟨state', .active⟩ } := by
  have hset {j : Nat} {other : Transaction τ ε} :=
    @Store.getElem?_set_eq_some _ _ i j store.transactions _ ⟨state', .active⟩ other hactive
  refine ⟨?_, ?_, h.founded.append ?_, ?_, ?_, ?_, ?_, ?_, ?_⟩
  · refine List.pairwise_append.mpr ⟨h.clashFree, List.pairwise_singleton _ _, ?_⟩
    intro version hversion version' hversion'
    rw [List.mem_singleton.mp hversion', contract.symm]
    exact hclash version hversion
  · intro version hversion
    rcases List.mem_append.mp hversion with hversion | hversion
    · exact h.good version hversion
    · rw [List.mem_singleton.mp hversion]
      exact hgood
  · have hseen : store.versions.filter (Version.seenFrom ⟨row, some i⟩) =
        store.versions.filter (Version.seenBy i) := by
      refine List.filter_congr fun version _ ↦ ?_
      rcases hwriter : version.writer with _ | j
      · simp [Version.seenFrom, Version.seenBy, hwriter]
      · simp [Version.seenFrom, Version.seenBy, hwriter]
    rw [List.nil_append, hseen]
    exact hsupports
  · intro version hversion j hwriter
    rcases List.mem_append.mp hversion with hversion | hversion
    · obtain ⟨other, hj, hother⟩ := h.written version hversion j hwriter
      by_cases hji : j = i
      · subst hji
        rw [hactive] at hj
        cases hj
        exact ⟨state', hset.mpr (.inl ⟨rfl, rfl⟩), hwrites _ hother⟩
      · exact ⟨other, hset.mpr (.inr ⟨hji, hj⟩), hother⟩
    · rw [List.mem_singleton.mp hversion] at hwriter ⊢
      obtain rfl := Option.some.inj hwriter
      exact ⟨state', hset.mpr (.inl ⟨rfl, rfl⟩), hrow⟩
  · intro version hversion hwriter
    rcases List.mem_append.mp hversion with hversion | hversion
    · obtain ⟨j, other, hj, hother⟩ := h.authored version hversion hwriter
      refine ⟨j, other, hset.mpr (.inr ⟨?_, hj⟩), hother⟩
      rintro rfl
      rw [hactive] at hj
      cases hj
    · rw [List.mem_singleton.mp hversion] at hwriter
      cases hwriter
  · intro j other hj
    rcases hset.mp hj with ⟨rfl, hsame⟩ | ⟨hji, hj⟩
    · cases hsame
      rw [Store.seen_insert_self]
      exact hknows
    · rw [Store.seen_insert_of_ne hji]
      exact h.active j other hj
  · intro j other hj
    rcases hset.mp hj with ⟨-, hsame⟩ | ⟨-, hj⟩
    · cases hsame
    · rw [Store.committed_insert]
      exact h.settled j other hj
  · intro j other hj
    rcases hset.mp hj with ⟨-, hsame⟩ | ⟨-, hj⟩
    · cases hsame
    · exact h.ended j other hj
  · intro j other error hj
    rcases hset.mp hj with ⟨-, hsame⟩ | ⟨-, hj⟩
    · cases hsame
    · exact h.failed j other error hj

/-- A transaction is committed, and its rows with it. -/
theorem Sound.commits (h : contract.Sound store) (hnext : next state = .commit) :
    contract.Sound
      { versions := store.versions.map (Version.commit i)
        transactions := store.transactions.set i ⟨state, .committed⟩ } := by
  have hset {j : Nat} {other : Transaction τ ε} :=
    @Store.getElem?_set_eq_some _ _ i j store.transactions _ ⟨state, .committed⟩ other hactive
  refine ⟨List.pairwise_map.mpr h.clashFree, ?_,
    h.founded.commit i fun _ _ _ hrow hsub ↦ contract.supports_mono hrow hsub, ?_, ?_, ?_, ?_, ?_, ?_⟩
  · intro version hmapped
    obtain ⟨version, hversion, rfl⟩ := List.mem_map.mp hmapped
    exact h.good version hversion
  · intro version hmapped j hwriter
    obtain ⟨version, hversion, rfl⟩ := List.mem_map.mp hmapped
    obtain ⟨hwriter, hji⟩ := Option.filter_eq_some_iff.mp hwriter
    obtain ⟨other, hj, hother⟩ := h.written version hversion j hwriter
    exact ⟨other, hset.mpr (.inr ⟨by simpa using hji, hj⟩), hother⟩
  · intro version hmapped hwriter
    obtain ⟨version, hversion, rfl⟩ := List.mem_map.mp hmapped
    have hseen : version.seenBy i = true := by
      rw [← Version.isCommitted_commit, Version.isCommitted_iff]
      exact hwriter
    rcases Version.seenBy_iff.mp hseen with hwriter | hwriter
    · obtain ⟨j, other, hj, hother⟩ := h.authored version hversion hwriter
      refine ⟨j, other, hset.mpr (.inr ⟨?_, hj⟩), hother⟩
      rintro rfl
      rw [hactive] at hj
      cases hj
    · obtain ⟨other, hi, hother⟩ := h.written version hversion i hwriter
      rw [hactive] at hi
      cases hi
      exact ⟨i, state, hset.mpr (.inl ⟨rfl, rfl⟩), hother⟩
  · intro j other hj
    rcases hset.mp hj with ⟨-, hsame⟩ | ⟨-, hj⟩
    · cases hsame
    · exact contract.mono (h.active j other hj) Store.seen_subset_seen_commit
  · intro j other hj
    rw [Store.committed_commit]
    rcases hset.mp hj with ⟨-, hsame⟩ | ⟨-, hj⟩
    · cases hsame
      exact h.active i state hactive
    · exact contract.mono (h.settled j other hj) (Store.committed_subset_seen i)
  · intro j other hj
    rcases hset.mp hj with ⟨-, hsame⟩ | ⟨-, hj⟩
    · cases hsame
      exact hnext
    · exact h.ended j other hj
  · intro j other error hj
    rcases hset.mp hj with ⟨-, hsame⟩ | ⟨-, hj⟩
    · cases hsame
    · exact h.failed j other error hj

omit hactive

/-- One statement keeps what the contract asserts. -/
theorem Sound.step (h : contract.Sound store) (event : Event τ)
    (hstart : ∀ state, event = .start state → ∀ rows, contract.knows state rows) :
    contract.Sound (store.step clash next event) := by
  cases event with
  | start state => exact h.start (hstart state rfl)
  | rollback i =>
      rw [Store.step]
      split
      · rename_i state hactive
        exact h.undo hactive (.inl rfl)
      · exact h
  | advance i =>
      rw [Store.step]
      split
      · rename_i state hactive
        have hallows := contract.allows (h.active i state hactive) h.good_of_mem_seen
          h.pairwise_seen (store.others i)
        cases hexec : (next state).exec clash (store.seen i) (store.others i) with
        | waits => exact h
        | continues state' =>
            rw [hexec] at hallows
            exact h.continues hactive hallows.1 hallows.2
        | fails error =>
            rw [hexec] at hallows
            exact h.undo hactive (.inr ⟨error, rfl, hallows⟩)
        | commits => exact h.commits hactive (Statement.eq_commit_of_exec hexec)
        | inserts row state' =>
            rw [hexec] at hallows
            obtain ⟨hgood, hwrites, hrow, hknows, hsupports⟩ := hallows
            obtain ⟨hseen, hothers⟩ := Statement.clash_of_exec_eq_inserts hexec
            refine h.inserts hactive hgood (fun version hversion ↦ ?_) hwrites hrow hknows hsupports
            rcases Store.row_mem_seen_or_others i hversion with hmem | hmem
            · exact hseen _ hmem
            · exact hothers _ hmem
      · exact h

/-- A contract holds of every store that is reached. -/
theorem sound_run (contract : Contract clash next) {events : List (Event τ)}
    (hstart : ∀ state, .start state ∈ events → ∀ rows, contract.knows state rows) :
    contract.Sound (run (Store.step clash next) Store.empty events) := by
  have hsteps : Steps (Store.step clash next)
      (fun _ event ↦ ∀ state, event = .start state → ∀ rows, contract.knows state rows)
      Store.empty events :=
    steps_of_forall_mem fun event hevent state hsame ↦ hstart state (hsame ▸ hevent)
  exact hsteps.run_inv (fun store event h hevent ↦ h.step event hevent) sound_empty

end Contract

end AxiomArb.Library
