import AxiomArb.AppLive.DurableRecords

/-!
# Verdicts on relayer transactions

A transaction reference is reconciled by the listed transactions that match it, by id or by
hash.  Work is closed only if every one of them is settled, whichever of the two paths asks.

## Honest boundary

* What the gateway lists for the credentials is a parameter; its errors are texts.
* A shared runtime either runs the task or fails with a text.
* Of a transaction only the fields that are compared are carried.
-/

namespace AxiomArb.Domain

structure PendingReconcileWork where
  pendingRef : String
  route : String
  scope : String
deriving DecidableEq, Repr

inductive ReconcileOutcome where
  | confirmedAuthoritative (submissionRef : String)
  | stillPending
  | needsRecovery (pendingRef reason : String)
  | failedAmbiguous (pendingRef reason : String)
  | failedDefinitive (reason : String)
deriving DecidableEq, Repr

end AxiomArb.Domain

namespace AxiomArb.VenuePolymarket

open Domain
open AppLive (trim)

/-! ## Transactions -/

structure RelayerTransaction where
  transactionId : String
  transactionHash : Option String
  state : Option String
deriving DecidableEq, Repr

inductive RelayerTransactionState where
  | pending | confirmed | terminal | unknown
deriving DecidableEq, Repr

def classifyTransactionState (state : Option String) : RelayerTransactionState :=
  match state.map fun value ↦ (trim value).toUpper with
  | some "STATE_NEW" | some "STATE_EXECUTED" | some "STATE_MINED" => .pending
  | some "STATE_CONFIRMED" => .confirmed
  | some "STATE_INVALID" | some "STATE_FAILED" => .terminal
  | some _ | none => .unknown

namespace RelayerTransaction

variable (transaction : RelayerTransaction)

def matchesPendingRef (pendingRef : String) : Bool :=
  let pendingRef := trim pendingRef
  if pendingRef.isEmpty then
    false
  else
    transaction.transactionId == pendingRef || transaction.transactionHash == some pendingRef

def stateIsPendingOrUnknown : Bool :=
  match classifyTransactionState transaction.state with
  | .pending | .unknown => true
  | .confirmed | .terminal => false

def stateIsConfirmed : Bool := classifyTransactionState transaction.state = .confirmed

def stateIsTerminal : Bool := classifyTransactionState transaction.state = .terminal

end RelayerTransaction

/-! ## Providers -/

inductive RelayerAuth where
  | builderApiKey (apiKey timestamp passphrase signature : String)
  | relayerApiKey (apiKey address : String)
deriving DecidableEq, Repr

section Providers

variable (recentTransactions : RelayerAuth → Except String (List RelayerTransaction))
  (relayerAuth : RelayerAuth) (work : PendingReconcileWork) (txRef : String)

def fetchRecentTransactions : Except String (List RelayerTransaction) :=
  (recentTransactions relayerAuth).mapError fun error ↦ s!"relayer status error: {error}"

def reconcileTxRef : Except String ReconcileOutcome := do
  let transactions ← fetchRecentTransactions recentTransactions relayerAuth
  let matchingTransactions := transactions.filter fun transaction ↦ transaction.matchesPendingRef txRef
  if matchingTransactions.isEmpty ||
      matchingTransactions.any RelayerTransaction.stateIsPendingOrUnknown then
    return .stillPending
  if matchingTransactions.any RelayerTransaction.stateIsConfirmed then
    return .confirmedAuthoritative txRef
  if matchingTransactions.any RelayerTransaction.stateIsTerminal then
    return .needsRecovery work.pendingRef "relayer transaction reached a terminal state"
  return .stillPending

/-- Run a task on the shared runtime, if that is possible. -/
def runOnSharedRuntime {α : Type} (runtime : Except String Unit) (task : α) : Except String α := do
  runtime
  return task

/-- The credentials are taken apart and put together again for the task. -/
def reconcileTxRefViaGatewayRuntime (runtime : Except String Unit) : Except String ReconcileOutcome := do
  let transactions ← match relayerAuth with
    | .builderApiKey apiKey timestamp passphrase signature => do
        let answered ← (runOnSharedRuntime runtime
          (recentTransactions (.builderApiKey apiKey timestamp passphrase signature))).mapError
            fun err ↦ s!"relayer status error: {err}"
        answered.mapError fun err ↦ s!"relayer status error: {err}"
    | .relayerApiKey apiKey address => do
        let answered ← (runOnSharedRuntime runtime
          (recentTransactions (.relayerApiKey apiKey address))).mapError
            fun err ↦ s!"relayer status error: {err}"
        answered.mapError fun err ↦ s!"relayer status error: {err}"
  let matchingTransactions := transactions.filter fun transaction ↦ transaction.matchesPendingRef txRef
  if matchingTransactions.isEmpty ||
      matchingTransactions.any RelayerTransaction.stateIsPendingOrUnknown then
    return .stillPending
  if matchingTransactions.any RelayerTransaction.stateIsConfirmed then
    return .confirmedAuthoritative txRef
  if matchingTransactions.any RelayerTransaction.stateIsTerminal then
    return .needsRecovery work.pendingRef "relayer transaction reached a terminal state"
  return .stillPending

end Providers

/-! ## The verdict -/

namespace RelayerTransaction

variable {transaction : RelayerTransaction}

theorem stateIsPendingOrUnknown_eq_false_iff :
    transaction.stateIsPendingOrUnknown = false ↔
      transaction.stateIsConfirmed ∨ transaction.stateIsTerminal := by
  rw [stateIsPendingOrUnknown, stateIsConfirmed, stateIsTerminal]
  cases classifyTransactionState transaction.state <;> decide

theorem not_stateIsTerminal_of_stateIsConfirmed (h : transaction.stateIsConfirmed) :
    ¬ transaction.stateIsTerminal := by
  rw [stateIsConfirmed, decide_eq_true_eq] at h
  rw [stateIsTerminal, h]
  decide

end RelayerTransaction

section Verdict

variable (transactions : List RelayerTransaction) (txRef : String)

/-- Some match is confirmed, and every match is confirmed or terminal. -/
def Settled : Prop :=
  (∃ transaction ∈ transactions, transaction.matchesPendingRef txRef ∧ transaction.stateIsConfirmed) ∧
    ∀ transaction ∈ transactions, transaction.matchesPendingRef txRef →
      transaction.stateIsConfirmed ∨ transaction.stateIsTerminal

/-- There are matches, and every one of them is terminal. -/
def Lost : Prop :=
  (∃ transaction ∈ transactions, transaction.matchesPendingRef txRef) ∧
    ∀ transaction ∈ transactions, transaction.matchesPendingRef txRef → transaction.stateIsTerminal

variable {transactions txRef}

theorem Settled.not_lost (h : Settled transactions txRef) : ¬ Lost transactions txRef := by
  intro hlost
  obtain ⟨transaction, hmem, hmatches, hconfirmed⟩ := h.1
  exact RelayerTransaction.not_stateIsTerminal_of_stateIsConfirmed hconfirmed
    (hlost.2 transaction hmem hmatches)

variable (transactions txRef) in
/-- The verdict that the matches come to. -/
inductive Verdict (work : PendingReconcileWork) : ReconcileOutcome → Prop
  | confirmed (h : Settled transactions txRef) : Verdict work (.confirmedAuthoritative txRef)
  | recovery (h : Lost transactions txRef) :
      Verdict work (.needsRecovery work.pendingRef "relayer transaction reached a terminal state")
  | pending (hsettled : ¬ Settled transactions txRef) (hlost : ¬ Lost transactions txRef) :
      Verdict work .stillPending

variable {recentTransactions : RelayerAuth → Except String (List RelayerTransaction)}
  {relayerAuth : RelayerAuth} {work : PendingReconcileWork} {outcome : ReconcileOutcome}

/-- Which verdict there is follows from what the matches say, in the order of the checks. -/
theorem verdict_of_reconcileTxRef (hlisted : recentTransactions relayerAuth = .ok transactions) :
    ∃ outcome, reconcileTxRef recentTransactions relayerAuth work txRef = .ok outcome ∧
      Verdict transactions txRef work outcome := by
  rw [reconcileTxRef, fetchRecentTransactions, hlisted]
  simp only [Except.mapError, bind, Except.bind, pure, Except.pure]
  split_ifs with hunsettled hconfirmed hany
  · refine ⟨_, rfl, ?_⟩
    rw [Bool.or_eq_true, List.isEmpty_iff, List.filter_eq_nil_iff, List.any_filter,
      List.any_eq_true] at hunsettled
    rcases hunsettled with hnone | ⟨transaction, hmem, hwaits⟩
    · refine .pending (fun hsettled ↦ ?_) fun hlost ↦ ?_
      · obtain ⟨transaction, hmem, hmatches, -⟩ := hsettled.1
        exact hnone transaction hmem hmatches
      · obtain ⟨transaction, hmem, hmatches⟩ := hlost.1
        exact hnone transaction hmem hmatches
    · rw [Bool.and_eq_true] at hwaits
      have hopen : ¬ (transaction.stateIsConfirmed ∨ transaction.stateIsTerminal) := by
        rw [← RelayerTransaction.stateIsPendingOrUnknown_eq_false_iff, hwaits.2]
        decide
      exact .pending (fun hsettled ↦ hopen (hsettled.2 transaction hmem hwaits.1))
        fun hlost ↦ hopen (.inr (hlost.2 transaction hmem hwaits.1))
  all_goals
    rw [Bool.or_eq_true, not_or, List.isEmpty_iff, List.any_filter, Bool.not_eq_true,
      List.any_eq_false] at hunsettled
    obtain ⟨hsome, hclosed⟩ := hunsettled
    have hall : ∀ transaction ∈ transactions, transaction.matchesPendingRef txRef →
        transaction.stateIsConfirmed ∨ transaction.stateIsTerminal := by
      intro transaction hmem hmatches
      rw [← RelayerTransaction.stateIsPendingOrUnknown_eq_false_iff]
      simpa [hmatches] using hclosed transaction hmem
    obtain ⟨first, hfirst⟩ := List.exists_mem_of_ne_nil _ hsome
    rw [List.mem_filter] at hfirst
    rw [List.any_filter, List.any_eq_true] at hconfirmed
  · obtain ⟨transaction, hmem, hboth⟩ := hconfirmed
    rw [Bool.and_eq_true] at hboth
    exact ⟨_, rfl, .confirmed ⟨⟨transaction, hmem, hboth⟩, hall⟩⟩
  all_goals
    have hterminal : ∀ transaction ∈ transactions, transaction.matchesPendingRef txRef →
        transaction.stateIsTerminal := by
      intro transaction hmem hmatches
      refine (hall transaction hmem hmatches).resolve_left fun hstate ↦ hconfirmed ?_
      exact ⟨transaction, hmem, Bool.and_eq_true_iff.mpr ⟨hmatches, hstate⟩⟩
  · exact ⟨_, rfl, .recovery ⟨⟨first, hfirst⟩, hterminal⟩⟩
  · -- a match that is neither open nor confirmed is terminal, so the last check succeeds
    exact absurd (List.any_eq_true.mpr ⟨first, List.mem_filter.mpr hfirst,
      hterminal first hfirst.1 hfirst.2⟩) hany

variable (work) in
/-- Verdicts on the transactions are as the matches have it. -/
structure Conservative (transactions : List RelayerTransaction) (txRef : String)
    (result : Except String ReconcileOutcome) : Prop where
  confirmed : result = .ok (.confirmedAuthoritative txRef) ↔
    (∃ transaction ∈ transactions, transaction.matchesPendingRef txRef) ∧
      (∀ transaction ∈ transactions, transaction.matchesPendingRef txRef →
        transaction.stateIsConfirmed ∨ transaction.stateIsTerminal) ∧
      ∃ transaction ∈ transactions, transaction.matchesPendingRef txRef ∧ transaction.stateIsConfirmed
  recovery : result = .ok (.needsRecovery work.pendingRef
      "relayer transaction reached a terminal state") ↔
    (∃ transaction ∈ transactions, transaction.matchesPendingRef txRef) ∧
      ∀ transaction ∈ transactions, transaction.matchesPendingRef txRef → transaction.stateIsTerminal
  pending : result = .ok .stillPending ↔
    result ≠ .ok (.confirmedAuthoritative txRef) ∧
      result ≠ .ok (.needsRecovery work.pendingRef "relayer transaction reached a terminal state")

theorem Verdict.conservative (h : Verdict transactions txRef work outcome) :
    Conservative work transactions txRef (.ok outcome) := by
  have hsettled : Settled transactions txRef ↔
      (∃ transaction ∈ transactions, transaction.matchesPendingRef txRef) ∧
        (∀ transaction ∈ transactions, transaction.matchesPendingRef txRef →
          transaction.stateIsConfirmed ∨ transaction.stateIsTerminal) ∧
        ∃ transaction ∈ transactions,
          transaction.matchesPendingRef txRef ∧ transaction.stateIsConfirmed := by
    constructor
    · intro h
      obtain ⟨transaction, hmem, hmatches, -⟩ := h.1
      exact ⟨⟨transaction, hmem, hmatches⟩, h.2, h.1⟩
    · rintro ⟨-, hall, hsome⟩
      exact ⟨hsome, hall⟩
  cases h with
  | confirmed h =>
      exact ⟨iff_of_true rfl (hsettled.mp h), iff_of_false (by simp) h.not_lost, by simp⟩
  | recovery h =>
      refine ⟨iff_of_false (by simp) fun hother ↦ ?_, iff_of_true rfl h, by simp⟩
      exact (hsettled.mpr hother).not_lost h
  | pending hnotSettled hlost =>
      refine ⟨iff_of_false (by simp) fun hother ↦ ?_, iff_of_false (by simp) hlost, by simp⟩
      exact hnotSettled (hsettled.mpr hother)

/-- Lists of the same transactions come to the same verdict. -/
theorem Verdict.eq_of_mem_iff {transactions' : List RelayerTransaction} {outcome' : ReconcileOutcome}
    (hmem : ∀ transaction, transaction ∈ transactions ↔ transaction ∈ transactions')
    (h : Verdict transactions txRef work outcome) (h' : Verdict transactions' txRef work outcome') :
    outcome = outcome' := by
  have hsettled : Settled transactions txRef ↔ Settled transactions' txRef := by
    simp only [Settled, hmem]
  have hlost : Lost transactions txRef ↔ Lost transactions' txRef := by
    simp only [Lost, hmem]
  cases h with
  | confirmed h =>
      cases h' with
      | confirmed _ => rfl
      | recovery h' => exact absurd (hlost.mpr h') h.not_lost
      | pending hnot _ => exact absurd (hsettled.mp h) hnot
  | recovery h =>
      cases h' with
      | confirmed h' => exact absurd h (hsettled.mpr h').not_lost
      | recovery _ => rfl
      | pending _ hnot => exact absurd (hlost.mp h) hnot
  | pending hnotSettled hnotLost =>
      cases h' with
      | confirmed h' => exact absurd (hsettled.mpr h') hnotSettled
      | recovery h' => exact absurd (hlost.mpr h') hnotLost
      | pending _ _ => rfl

/-- A runtime that runs the task gives the direct answer. -/
theorem reconcileTxRefViaGatewayRuntime_eq (runtime : Except String Unit) :
    reconcileTxRefViaGatewayRuntime recentTransactions relayerAuth work txRef runtime =
      match runtime with
      | .error error => .error s!"relayer status error: {error}"
      | .ok _ => reconcileTxRef recentTransactions relayerAuth work txRef := by
  cases runtime with
  | error error => cases relayerAuth <;> rfl
  | ok ran => cases relayerAuth <;> rfl

/-- Verdicts are conservative, follow from the set of the transactions, and are the same on
both paths; without transactions there is no verdict. -/
structure Reconciles (recentTransactions : RelayerAuth → Except String (List RelayerTransaction))
    (relayerAuth : RelayerAuth) (work : PendingReconcileWork) (txRef : String) : Prop where
  listed : ∀ transactions, recentTransactions relayerAuth = .ok transactions →
    Conservative work transactions txRef
      (reconcileTxRef recentTransactions relayerAuth work txRef)
  unlisted : ∀ error, recentTransactions relayerAuth = .error error →
    reconcileTxRef recentTransactions relayerAuth work txRef =
      .error s!"relayer status error: {error}"
  unordered : ∀ listed listed' : List RelayerTransaction,
    (∀ transaction, transaction ∈ listed ↔ transaction ∈ listed') →
      reconcileTxRef (fun _ ↦ .ok listed) relayerAuth work txRef =
        reconcileTxRef (fun _ ↦ .ok listed') relayerAuth work txRef
  shared : reconcileTxRefViaGatewayRuntime recentTransactions relayerAuth work txRef (.ok ⟨⟩) =
    reconcileTxRef recentTransactions relayerAuth work txRef
  unshared : ∀ error,
    reconcileTxRefViaGatewayRuntime recentTransactions relayerAuth work txRef (.error error) =
      .error s!"relayer status error: {error}"

/-- **Verdicts on relayer transactions are conservative.** -/
theorem reconcileTxRef_reconciles
    (recentTransactions : RelayerAuth → Except String (List RelayerTransaction))
    (relayerAuth : RelayerAuth) (work : PendingReconcileWork) (txRef : String) :
    Reconciles recentTransactions relayerAuth work txRef where
  listed transactions hlisted := by
    obtain ⟨outcome, houtcome, hverdict⟩ : ∃ outcome,
        reconcileTxRef recentTransactions relayerAuth work txRef = .ok outcome ∧
          Verdict transactions txRef work outcome := verdict_of_reconcileTxRef hlisted
    rw [houtcome]
    exact hverdict.conservative
  unlisted error herror := by
    rw [reconcileTxRef, fetchRecentTransactions, herror]
    rfl
  unordered listed listed' hmem := by
    have hverdict : ∀ listed : List RelayerTransaction, ∃ outcome,
        reconcileTxRef (fun _ ↦ .ok listed) relayerAuth work txRef = .ok outcome ∧
          Verdict listed txRef work outcome := fun listed ↦ verdict_of_reconcileTxRef rfl
    obtain ⟨outcome, houtcome, h⟩ := hverdict listed
    obtain ⟨outcome', houtcome', h'⟩ := hverdict listed'
    rw [houtcome, houtcome', h.eq_of_mem_iff hmem h']
  shared := reconcileTxRefViaGatewayRuntime_eq (.ok ⟨⟩)
  unshared error := reconcileTxRefViaGatewayRuntime_eq (.error error)

end Verdict

end AxiomArb.VenuePolymarket
