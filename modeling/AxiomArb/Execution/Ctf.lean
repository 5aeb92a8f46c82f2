import AxiomArb.Domain.Market
import AxiomArb.Library.Command
import AxiomArb.Library.Indexed
import AxiomArb.Library.Run

/-!
# The CTF tracker

A CTF operation splits, merges or redeems the positions of a condition.  The tracker
gives each operation an id, binds it to the relayer's transaction, and keeps an index
from the relayer's ids to its own.  Its calls check everything before they write.
-/

namespace AxiomArb.Execution

open Domain Library

inductive CtfOperationKind where
  | split | merge | redeem
deriving DecidableEq, Repr

inductive CtfOperationStatus where
  | planned | submitted | confirmed | failed
deriving DecidableEq, Repr

structure CtfOperation where
  kind : CtfOperationKind
  conditionId : ConditionId
  relayerTransactionId : Option String
  nonce : Option String
  txHash : Option String
  status : CtfOperationStatus
  attemptId : Option String
deriving DecidableEq, Repr

abbrev CtfOperationId := Nat

inductive CtfTrackerError where
  | operationNotFound (operationId : CtfOperationId)
  | submittedRequiresRelayerMetadata
  | confirmedRequiresTxHash
  | relayerMetadataFrozen (status : CtfOperationStatus)
  | illegalStatusTransition (current next : CtfOperationStatus)
  | relayerTransactionIdConflict (relayerTransactionId : String)
  | relayerTransactionIdAlreadyBound
  | nonceAlreadyBound (existingNonce newNonce : String)
deriving DecidableEq, Repr

/-- The operations under their ids, and the ids under the relayer's. -/
structure CtfTracker where
  operations : BTreeMap CtfOperationId CtfOperation
  relayerIndex : BTreeMap String CtfOperationId
  nextOperationId : CtfOperationId

namespace CtfOperation

def new (kind : CtfOperationKind) (conditionId : ConditionId)
    (relayerTransactionId nonce : Option String) (status : CtfOperationStatus) : CtfOperation :=
  { kind, conditionId, relayerTransactionId, nonce, txHash := none, status, attemptId := none }

/-- The operation with the relayer's metadata; a nonce it has is not overwritten. -/
def bindRelayerMetadata (operation : CtfOperation) (relayerTransactionId nonce : Option String) :
    CtfOperation :=
  { operation with
    relayerTransactionId := relayerTransactionId.or operation.relayerTransactionId
    nonce := operation.nonce.or nonce }

end CtfOperation

/-- A call on the tracker. -/
abbrev CtfCommand := Command CtfTrackerError CtfTracker

namespace CtfTracker

def new : CtfTracker := { operations := ∅, relayerIndex := ∅, nextOperationId := 0 }

/-! ## What is checked -/

def validateTransition (current next : CtfOperationStatus) : Except CtfTrackerError Unit :=
  if next = .planned ∧ current ≠ .planned then
    throw (.illegalStatusTransition current next)
  else
    return ()

def validateOperationForStatus (status : CtfOperationStatus) (operation : CtfOperation) :
    Except CtfTrackerError Unit :=
  if (status = .submitted ∨ status = .confirmed) ∧
      (operation.relayerTransactionId.isNone ∨ operation.nonce.isNone) then
    throw .submittedRequiresRelayerMetadata
  else if status = .confirmed ∧ operation.txHash.isNone then
    throw .confirmedRequiresTxHash
  else
    return ()

/-- The relayer's id is not that of another operation. -/
def ensureRelayerIdAvailable (tracker : CtfTracker) (relayerTransactionId : Option String)
    (operationId : Option CtfOperationId) : Except CtfTrackerError Unit :=
  match relayerTransactionId with
  | none => return ()
  | some relayerTransactionId =>
      match tracker.relayerIndex[relayerTransactionId]? with
      | none => return ()
      | some existingOperationId =>
          if some existingOperationId ≠ operationId then
            throw (.relayerTransactionIdConflict relayerTransactionId)
          else
            return ()

/-- An operation keeps the relayer's id it has. -/
def ensureRelayerIdUnbound (existingOperation : CtfOperation)
    (relayerTransactionId : Option String) : Except CtfTrackerError Unit :=
  match relayerTransactionId, existingOperation.relayerTransactionId with
  | some relayerTransactionId, some existing =>
      if existing ≠ relayerTransactionId then throw .relayerTransactionIdAlreadyBound
      else return ()
  | _, _ => return ()

/-- An operation keeps the nonce it has. -/
def ensureNonceUnbound (existingOperation : CtfOperation) (nonce : Option String) :
    Except CtfTrackerError Unit :=
  match nonce, existingOperation.nonce with
  | some nonce, some existingNonce =>
      if existingNonce ≠ nonce then throw (.nonceAlreadyBound existingNonce nonce)
      else return ()
  | _, _ => return ()

/-! ## The calls -/

def insertOperation (operationId : CtfOperationId) (operation : CtfOperation)
    (tracker : CtfTracker) : CtfTracker :=
  { tracker with operations := tracker.operations.insert operationId operation }

def indexRelayerId (relayerTransactionId : Option String) (operationId : CtfOperationId)
    (tracker : CtfTracker) : CtfTracker :=
  match relayerTransactionId with
  | some relayerTransactionId =>
      { tracker with
        relayerIndex := tracker.relayerIndex.insert relayerTransactionId operationId }
  | none => tracker

def record (operation : CtfOperation) : CtfCommand CtfOperationId := do
  validateOperationForStatus operation.status operation
  let tracker ← get
  tracker.ensureRelayerIdAvailable operation.relayerTransactionId none
  let operationId := tracker.nextOperationId
  modify fun tracker ↦ { tracker with nextOperationId := tracker.nextOperationId + 1 }
  modify (indexRelayerId operation.relayerTransactionId operationId)
  modify (insertOperation operationId operation)
  return operationId

def attachRelayerMetadata (operationId : CtfOperationId)
    (relayerTransactionId nonce : Option String) : CtfCommand Unit := do
  let tracker ← get
  match tracker.operations[operationId]? with
  | none => throw (.operationNotFound operationId)
  | some existingOperation =>
      if existingOperation.status ≠ .planned then
        throw (.relayerMetadataFrozen existingOperation.status)
      else do
        ensureRelayerIdUnbound existingOperation relayerTransactionId
        tracker.ensureRelayerIdAvailable relayerTransactionId (some operationId)
        ensureNonceUnbound existingOperation nonce
        -- the operation is looked up again here, and is the one that was checked
        modify (indexRelayerId relayerTransactionId operationId)
        modify (insertOperation operationId
          (existingOperation.bindRelayerMetadata relayerTransactionId nonce))

def updateStatus (operationId : CtfOperationId) (status : CtfOperationStatus)
    (txHash : Option String) : CtfCommand Unit := do
  let tracker ← get
  match tracker.operations[operationId]? with
  | none => throw (.operationNotFound operationId)
  | some existingOperation => do
      validateTransition existingOperation.status status
      let candidate :=
        { existingOperation with status, txHash := txHash.or existingOperation.txHash }
      validateOperationForStatus status candidate
      modify (insertOperation operationId candidate)

def operation (tracker : CtfTracker) (operationId : CtfOperationId) : Option CtfOperation :=
  tracker.operations[operationId]?

def operationByRelayerTransactionId (tracker : CtfTracker) (relayerTransactionId : String) :
    Option CtfOperation :=
  tracker.relayerIndex[relayerTransactionId]?.bind fun operationId ↦
    tracker.operations[operationId]?

end CtfTracker

end AxiomArb.Execution
