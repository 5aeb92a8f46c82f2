import AxiomArb.Domain.Runtime

/-!
# Submissions and receipts

What a venue answers when a plan is submitted, and the receipt of an attempt.
-/

namespace AxiomArb.Domain

/-! ## Submissions -/

structure LiveSubmissionRecord where
  submissionRef : String
  attemptId : String
  route : String
  scope : String
  provider : String
deriving DecidableEq, Repr

inductive LiveSubmitOutcome where
  | accepted (submissionRecord : LiveSubmissionRecord)
  | rejectedDefinitive (reason : String)
  | acceptedButUnconfirmed (submissionRecord : Option LiveSubmissionRecord) (pendingRef : String)
  | ambiguous (pendingRef reason : String)
deriving DecidableEq, Repr

namespace LiveSubmitOutcome

def isAccepted : LiveSubmitOutcome → Bool
  | accepted _ | acceptedButUnconfirmed _ _ => true
  | rejectedDefinitive _ | ambiguous _ _ => false

/-- The reference that an outcome is pending under. -/
def pendingRef? : LiveSubmitOutcome → Option String
  | acceptedButUnconfirmed _ pendingRef | ambiguous pendingRef _ => some pendingRef
  | accepted _ | rejectedDefinitive _ => none

end LiveSubmitOutcome

/-! ## Receipts -/

inductive ExecutionAttemptOutcome where
  | succeeded
  | shadowRecorded
  | failedDefinitive
  | failedAmbiguous
  | retryExhausted
deriving DecidableEq, Repr

/-- The name of an outcome, as it is printed. -/
def ExecutionAttemptOutcome.name : ExecutionAttemptOutcome → String
  | succeeded => "Succeeded"
  | shadowRecorded => "ShadowRecorded"
  | failedDefinitive => "FailedDefinitive"
  | failedAmbiguous => "FailedAmbiguous"
  | retryExhausted => "RetryExhausted"

structure ExecutionReceipt where
  attemptId : String
  outcome : ExecutionAttemptOutcome
  submissionRef : Option String
  pendingRef : Option String
deriving DecidableEq, Repr

namespace ExecutionReceipt

def new (attemptId : String) (outcome : ExecutionAttemptOutcome) : ExecutionReceipt :=
  { attemptId, outcome, submissionRef := none, pendingRef := none }

variable (receipt : ExecutionReceipt)

def withSubmissionRef (submissionRef : String) : ExecutionReceipt :=
  { receipt with submissionRef := some submissionRef }

def withPendingRef (pendingRef : String) : ExecutionReceipt :=
  { receipt with pendingRef := some pendingRef }

end ExecutionReceipt

end AxiomArb.Domain
