import AxiomArb.VenuePolymarket.RelayerVerdicts
import Mathlib.Order.Bounds.Basic

/-!
# What the relayer metrics count

A poll of the relayer reports how many of the listed transactions are pending, and how long
the oldest of these has waited.  What is pending is told by an exact text here, and by a
table of states where transactions are reconciled.  The two have no state in common: the
metrics never count what the table calls pending.

## Honest boundary

* An instant is whatever a timestamp is read as.  Reading one, and the duration from one to
  another in nanoseconds, are given.
* Ages are whole milliseconds, which are not divided into seconds.
-/

namespace AxiomArb.VenuePolymarket

/-- A listed transaction, with the time of its creation. -/
structure RecentTransaction extends RelayerTransaction where
  createdAt : Option String
deriving DecidableEq, Repr

structure Timestamps (DateTime : Type) where
  parseFromRfc3339 : String → Option DateTime
  signedDurationSince : DateTime → DateTime → Int

/-- A duration in whole milliseconds, rounded towards zero. -/
def numMilliseconds (duration : Int) : Int := duration.tdiv 1000000

def isPendingRelayerState (state : Option String) : Bool := state = some "STATE_PENDING"

/-- What the loop over the transactions carries. -/
structure PendingProgress where
  pendingTxCount : Nat
  oldestPendingAge : Int
  hasPendingAge : Bool

section Summary

variable {DateTime : Type} (timestamps : Timestamps DateTime) (observedAt : DateTime)

def parseCreatedAt (createdAt : String) : Option DateTime := timestamps.parseFromRfc3339 createdAt

def summarizeTransaction (progress : PendingProgress) (transaction : RecentTransaction) :
    PendingProgress :=
  if !isPendingRelayerState transaction.state then
    progress
  else
    let progress := { progress with pendingTxCount := progress.pendingTxCount + 1 }
    match transaction.createdAt.bind (parseCreatedAt timestamps) with
    | none => progress
    | some createdAt =>
        let age := numMilliseconds (timestamps.signedDurationSince observedAt createdAt)
        if age < 0 then
          progress
        else if !progress.hasPendingAge || progress.oldestPendingAge < age then
          { progress with oldestPendingAge := age, hasPendingAge := true }
        else
          progress

def summarizeRecentTransactions (transactions : List RecentTransaction) : Nat × Nat × Int :=
  let progress := transactions.foldl (summarizeTransaction timestamps observedAt)
    { pendingTxCount := 0, oldestPendingAge := 0, hasPendingAge := false }
  (transactions.length, progress.pendingTxCount,
    if progress.hasPendingAge then progress.oldestPendingAge else 0)

/-! ## What is reported -/

/-- The age that a transaction is counted with: a counted transaction has one unless its time
of creation is missing, malformed or in the future. -/
def countedAges (transaction : RecentTransaction) : Set Int :=
  {age | isPendingRelayerState transaction.state ∧ 0 ≤ age ∧
    ∃ createdAt, transaction.createdAt.bind (parseCreatedAt timestamps) = some createdAt ∧
      age = numMilliseconds (timestamps.signedDurationSince observedAt createdAt)}

/-- The ages of all transactions that are counted. -/
def pendingAges (transactions : List RecentTransaction) : Set Int :=
  {age | ∃ transaction ∈ transactions, age ∈ countedAges timestamps observedAt transaction}

/-- The greatest of some ages, or none. -/
def IsOldest (ages : Set Int) (age : Int) : Prop := IsGreatest ages age ∨ ages = ∅ ∧ age = 0

theorem IsOldest.unique {ages : Set Int} {age age' : Int} (h : IsOldest ages age)
    (h' : IsOldest ages age') : age = age' := by
  rcases h with h | ⟨hnone, rfl⟩
  · rcases h' with h' | ⟨hnone, -⟩
    · exact h.unique h'
    · exact absurd hnone h.nonempty.ne_empty
  · rcases h' with h' | ⟨-, rfl⟩
    · exact absurd hnone h'.nonempty.ne_empty
    · rfl

variable {timestamps observedAt} {transactions : List RecentTransaction}
  {transaction : RecentTransaction} {progress : PendingProgress}

theorem pendingAges_append :
    pendingAges timestamps observedAt (transactions ++ [transaction]) =
      countedAges timestamps observedAt transaction ∪ pendingAges timestamps observedAt transactions := by
  ext age
  simp [pendingAges, or_comm]

/-- What one transaction does to the progress, and with which age it is counted. -/
theorem summarizeTransaction_cases (timestamps : Timestamps DateTime) (observedAt : DateTime)
    (progress : PendingProgress) (transaction : RecentTransaction) :
    (countedAges timestamps observedAt transaction = ∅ ∧
      summarizeTransaction timestamps observedAt progress transaction =
        { progress with
          pendingTxCount := progress.pendingTxCount + (isPendingRelayerState transaction.state).toNat }) ∨
    ∃ age, countedAges timestamps observedAt transaction = {age} ∧
      summarizeTransaction timestamps observedAt progress transaction =
        { pendingTxCount := progress.pendingTxCount + (isPendingRelayerState transaction.state).toNat
          oldestPendingAge := if progress.hasPendingAge then max age progress.oldestPendingAge else age
          hasPendingAge := true } := by
  cases hpending : isPendingRelayerState transaction.state with
  | false =>
      refine .inl ⟨?_, ?_⟩
      · simp [countedAges, hpending]
      · simp [summarizeTransaction, hpending]
  | true =>
      cases hcreated : transaction.createdAt.bind (parseCreatedAt timestamps) with
      | none =>
          refine .inl ⟨?_, ?_⟩
          · simp [countedAges, hcreated]
          · simp [summarizeTransaction, hpending, hcreated]
      | some createdAt =>
          let age := numMilliseconds (timestamps.signedDurationSince observedAt createdAt)
          have hages : countedAges timestamps observedAt transaction = {other | 0 ≤ other ∧ other = age} := by
            ext other
            simp [countedAges, hpending, hcreated, age]
          have hstep : summarizeTransaction timestamps observedAt progress transaction =
              if age < 0 then
                { progress with pendingTxCount := progress.pendingTxCount + 1 }
              else if !progress.hasPendingAge || progress.oldestPendingAge < age then
                { pendingTxCount := progress.pendingTxCount + 1
                  oldestPendingAge := age
                  hasPendingAge := true }
              else
                { progress with pendingTxCount := progress.pendingTxCount + 1 } := by
            simp only [summarizeTransaction, hpending, hcreated, age]
            rfl
          rcases lt_or_ge age 0 with hfuture | hpast
          · refine .inl ⟨?_, ?_⟩
            · rw [hages, Set.eq_empty_iff_forall_notMem]
              rintro other ⟨hle, rfl⟩
              exact absurd hle hfuture.not_ge
            · rw [hstep, if_pos hfuture]
              rfl
          · refine .inr ⟨age, ?_, ?_⟩
            · rw [hages]
              ext other
              exact ⟨And.right, fun heq ↦ ⟨le_of_le_of_eq hpast heq.symm, heq⟩⟩
            · rw [hstep, if_neg hpast.not_gt]
              cases hhas : progress.hasPendingAge with
              | false => simp
              | true =>
                  by_cases hlt : progress.oldestPendingAge < age
                  · simp [hlt, max_eq_left hlt.le]
                  · simp [hlt, max_eq_right (not_lt.mp hlt)]

/-- What the progress says of the transactions so far. -/
structure Tracks (timestamps : Timestamps DateTime) (observedAt : DateTime)
    (seen : List RecentTransaction) (progress : PendingProgress) : Prop where
  count : progress.pendingTxCount =
    seen.countP fun transaction ↦ isPendingRelayerState transaction.state
  some : progress.hasPendingAge = true →
    IsGreatest (pendingAges timestamps observedAt seen) progress.oldestPendingAge
  none : progress.hasPendingAge = false → pendingAges timestamps observedAt seen = ∅

theorem Tracks.step {seen : List RecentTransaction} (h : Tracks timestamps observedAt seen progress)
    (transaction : RecentTransaction) :
    Tracks timestamps observedAt (seen ++ [transaction])
      (summarizeTransaction timestamps observedAt progress transaction) := by
  have hcount : (seen ++ [transaction]).countP (fun transaction ↦ isPendingRelayerState transaction.state) =
      progress.pendingTxCount + (isPendingRelayerState transaction.state).toNat := by
    rw [List.countP_append, ← h.count, List.countP_singleton]
    cases isPendingRelayerState transaction.state <;> rfl
  rcases summarizeTransaction_cases timestamps observedAt progress transaction with
    ⟨hages, heq⟩ | ⟨age, hages, heq⟩
  · have hsame : pendingAges timestamps observedAt (seen ++ [transaction]) =
        pendingAges timestamps observedAt seen := by
      rw [pendingAges_append, hages, Set.empty_union]
    rw [heq]
    exact ⟨hcount.symm, hsame ▸ h.some, hsame ▸ h.none⟩
  · rw [heq]
    refine ⟨hcount.symm, fun _ ↦ ?_, fun hnone ↦ absurd hnone Bool.noConfusion⟩
    rw [pendingAges_append, hages]
    cases hhas : progress.hasPendingAge with
    | false =>
        rw [h.none hhas, Set.union_empty]
        exact isGreatest_singleton
    | true => exact isGreatest_singleton.union (h.some hhas)

theorem Tracks.run (h : Tracks timestamps observedAt [] progress)
    (transactions : List RecentTransaction) :
    Tracks timestamps observedAt transactions
      (transactions.foldl (summarizeTransaction timestamps observedAt) progress) := by
  induction transactions using List.reverseRecOn with
  | nil => exact h
  | append_singleton seen transaction ih =>
      rw [List.foldl_concat]
      exact ih.step transaction

/-- What is reported, of the transactions as a whole. -/
theorem summarizeRecentTransactions_spec (timestamps : Timestamps DateTime) (observedAt : DateTime)
    (transactions : List RecentTransaction) :
    ∃ oldest, IsOldest (pendingAges timestamps observedAt transactions) oldest ∧
      summarizeRecentTransactions timestamps observedAt transactions =
        (transactions.length,
          transactions.countP (fun transaction ↦ isPendingRelayerState transaction.state), oldest) := by
  have hstart : Tracks timestamps observedAt []
      { pendingTxCount := 0, oldestPendingAge := 0, hasPendingAge := false } := by
    refine ⟨rfl, fun hhas ↦ absurd hhas Bool.noConfusion, fun _ ↦ ?_⟩
    simp [pendingAges]
  have hruns := hstart.run transactions
  unfold summarizeRecentTransactions
  generalize transactions.foldl (summarizeTransaction timestamps observedAt) _ = progress at hruns ⊢
  rw [← hruns.count]
  cases hhas : progress.hasPendingAge with
  | false => exact ⟨0, .inr ⟨hruns.none hhas, rfl⟩, by simp [hhas]⟩
  | true => exact ⟨progress.oldestPendingAge, .inl (hruns.some hhas), by simp [hhas]⟩

/-- The order of the transactions does not matter. -/
theorem summarizeRecentTransactions_perm {listed : List RecentTransaction}
    (h : listed.Perm transactions) :
    summarizeRecentTransactions timestamps observedAt listed =
      summarizeRecentTransactions timestamps observedAt transactions := by
  obtain ⟨oldest, holdest, heq⟩ := summarizeRecentTransactions_spec timestamps observedAt transactions
  obtain ⟨oldest', holdest', heq'⟩ := summarizeRecentTransactions_spec timestamps observedAt listed
  have hages : pendingAges timestamps observedAt listed = pendingAges timestamps observedAt transactions := by
    simp only [pendingAges, h.mem_iff]
  rw [hages] at holdest'
  rw [heq, heq', h.length_eq, h.countP_eq, holdest.unique holdest']

/-! ## What is seen as pending -/

/-- The text that is counted is none that the table knows. -/
theorem classifyTransactionState_of_isPending {state : Option String}
    (h : isPendingRelayerState state = true) : classifyTransactionState state = .unknown := by
  rw [of_decide_eq_true h]
  decide +kernel

/-- The metrics see what a reconcile sees as pending. -/
structure SeesPending (timestamps : Timestamps DateTime) (observedAt : DateTime)
    (transactions : List RecentTransaction) : Prop where
  count : (summarizeRecentTransactions timestamps observedAt transactions).2.1 =
    transactions.countP fun transaction ↦ isPendingRelayerState transaction.state
  pending : ∀ transaction ∈ transactions, classifyTransactionState transaction.state = .pending →
    isPendingRelayerState transaction.state
  closed : ∀ transaction ∈ transactions, classifyTransactionState transaction.state = .confirmed ∨
    classifyTransactionState transaction.state = .terminal → ¬ isPendingRelayerState transaction.state
  oldest : IsOldest (pendingAges timestamps observedAt transactions)
    (summarizeRecentTransactions timestamps observedAt transactions).2.2
  unordered : ∀ listed : List RecentTransaction, listed.Perm transactions →
    summarizeRecentTransactions timestamps observedAt listed =
      summarizeRecentTransactions timestamps observedAt transactions

/-- **The metrics see what a reconcile sees as pending only where it sees nothing.** -/
theorem summarizeRecentTransactions_seesPending_iff (timestamps : Timestamps DateTime)
    (observedAt : DateTime) (transactions : List RecentTransaction) :
    SeesPending timestamps observedAt transactions ↔
      ∀ transaction ∈ transactions, classifyTransactionState transaction.state ≠ .pending := by
  obtain ⟨oldest, holdest, heq⟩ := summarizeRecentTransactions_spec timestamps observedAt transactions
  constructor
  · intro hsees transaction hmem hpending
    have hunknown := classifyTransactionState_of_isPending (hsees.pending transaction hmem hpending)
    rw [hpending] at hunknown
    cases hunknown
  · intro hnone
    refine ⟨?_, ?_, ?_, ?_, fun listed hperm ↦ summarizeRecentTransactions_perm hperm⟩
    · rw [heq]
    · intro transaction hmem hpending
      exact absurd hpending (hnone transaction hmem)
    · intro transaction _ hclosed hcounted
      rw [classifyTransactionState_of_isPending hcounted] at hclosed
      rcases hclosed with hclosed | hclosed <;> cases hclosed
    · rw [heq]
      exact holdest

end Summary

/-- A settlement that has waited for half a minute is not counted. -/
theorem summarizeRecentTransactions_not_seesPending :
    ¬ SeesPending
      { parseFromRfc3339 := fun text ↦
          if text = "2026-03-25T10:00:00Z" then some 1774432800000000000 else none
        signedDurationSince := fun observedAt createdAt : Int ↦ observedAt - createdAt }
      1774432830000000000
      [{ transactionId := "tx-new"
         transactionHash := none
         state := some "STATE_NEW"
         createdAt := some "2026-03-25T10:00:00Z" }] := by
  intro hsees
  have hcounted := hsees.pending _ List.mem_cons_self (by decide +kernel)
  exact absurd hcounted (by decide)

end AxiomArb.VenuePolymarket
