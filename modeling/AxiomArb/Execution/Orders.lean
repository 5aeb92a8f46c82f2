import AxiomArb.Execution.PlanIdentity
import AxiomArb.Library.Fallible
import Mathlib.Data.List.Nodup

/-!
# Retries of signed orders

An envelope carries a signed order through its retries.  A transport retry sends the same
order again; a business retry is a new order with a new nonce, linked to the first order of
its lineage.  Order ids are checked against the whole lineage, nonces against the order
retried only.
-/

namespace AxiomArb.Execution

open Domain Library

inductive RetryKind where
  | initial
  | transport
  | business
deriving DecidableEq, Repr

inductive BusinessRetryError where
  | nonceUnchanged
  | identityNonceMismatch
  | orderIdReused
deriving DecidableEq, Repr

structure SignedOrderEnvelope where
  orderId : OrderId
  identity : SignedOrderIdentity
  retryKind : RetryKind
  retryOfOrderId : Option OrderId
  attemptId : Option String
  usedOrderIds : List OrderId
deriving DecidableEq, Repr

namespace SignedOrderEnvelope

def new (orderId : OrderId) (identity : SignedOrderIdentity) : SignedOrderEnvelope :=
  { orderId
    identity
    retryKind := .initial
    retryOfOrderId := none
    attemptId := none
    usedOrderIds := [orderId] }

def withAttemptId (envelope : SignedOrderEnvelope) (attemptId : String) : SignedOrderEnvelope :=
  { envelope with attemptId := some attemptId }

def withAttemptContext (envelope : SignedOrderEnvelope) (attempt : ExecutionAttemptContext) :
    SignedOrderEnvelope :=
  envelope.withAttemptId attempt.attemptId

def transportRetry (envelope : SignedOrderEnvelope) : SignedOrderEnvelope :=
  { envelope with retryKind := .transport }

def businessRetry (envelope : SignedOrderEnvelope) (orderId : OrderId) (newNonce : String)
    (identity : SignedOrderIdentity) : Except BusinessRetryError SignedOrderEnvelope :=
  if orderId ∈ envelope.usedOrderIds then
    .error .orderIdReused
  else if newNonce = envelope.identity.nonce then
    .error .nonceUnchanged
  else if identity.nonce ≠ newNonce then
    .error .identityNonceMismatch
  else
    .ok
      { orderId
        identity
        retryKind := .business
        retryOfOrderId := some (envelope.retryOfOrderId.getD envelope.orderId)
        attemptId := envelope.attemptId
        usedOrderIds := envelope.usedOrderIds ++ [orderId] }

variable {envelope envelope' first : SignedOrderEnvelope} {orderId : OrderId} {newNonce : String}
  {identity : SignedOrderIdentity}

/-- What a business retry checks and makes. -/
theorem businessRetry_eq_ok_iff :
    envelope.businessRetry orderId newNonce identity = .ok envelope' ↔
      orderId ∉ envelope.usedOrderIds ∧ newNonce ≠ envelope.identity.nonce ∧
        identity.nonce = newNonce ∧ envelope' =
          { orderId
            identity
            retryKind := .business
            retryOfOrderId := some (envelope.retryOfOrderId.getD envelope.orderId)
            attemptId := envelope.attemptId
            usedOrderIds := envelope.usedOrderIds ++ [orderId] } := by
  rw [businessRetry]
  split
  · rename_i hused
    simp [hused]
  · rename_i hused
    split
    · rename_i hnonce
      simp [hnonce]
    · rename_i hnonce
      split
      · rename_i hidentity
        simp [hidentity]
      · rename_i hidentity
        rw [not_not] at hidentity
        simp [hused, hnonce, hidentity, eq_comm]

/-! ## Lineages -/

/-- A call that retries an order. -/
inductive Retry where
  | transport
  | business (orderId : OrderId) (newNonce : String) (identity : SignedOrderIdentity)
deriving DecidableEq, Repr

def retry (envelope : SignedOrderEnvelope) : Retry → Except BusinessRetryError SignedOrderEnvelope
  | .transport => .ok envelope.transportRetry
  | .business orderId newNonce identity => envelope.businessRetry orderId newNonce identity

/-- The envelopes that retries make one from the other, if all of them succeed. -/
def lineage (first : SignedOrderEnvelope) :
    List Retry → Except BusinessRetryError (List SignedOrderEnvelope)
  | [] => .ok []
  | call :: calls => do
      let next ← first.retry call
      let later ← next.lineage calls
      return next :: later

/-- The envelopes among these that business retries made. -/
def businessRetries (envelopes : List SignedOrderEnvelope) : List SignedOrderEnvelope :=
  envelopes.filter (·.retryKind = .business)

variable {call : Retry} {calls : List Retry} {envelopes : List SignedOrderEnvelope}

theorem lineage_cons_eq_ok_iff : first.lineage (call :: calls) = .ok envelopes ↔
    ∃ next later, first.retry call = .ok next ∧ next.lineage calls = .ok later ∧
      envelopes = next :: later := by
  rw [lineage, bind_eq_ok]
  constructor
  · rintro ⟨next, hnext, h⟩
    obtain ⟨later, hlater, h⟩ := bind_eq_ok.mp h
    exact ⟨next, later, hnext, hlater, (Except.ok.inj h).symm⟩
  · rintro ⟨next, later, hnext, hlater, rfl⟩
    exact ⟨next, hnext, bind_eq_ok.mpr ⟨later, hlater, rfl⟩⟩

/-- A lineage as a derivation, call by call. -/
inductive Derived : SignedOrderEnvelope → List Retry → List SignedOrderEnvelope → Prop
  | nil (first : SignedOrderEnvelope) : Derived first [] []
  | transport {first : SignedOrderEnvelope} {calls : List Retry} {later : List SignedOrderEnvelope}
      (h : Derived first.transportRetry calls later) :
      Derived first (.transport :: calls) (first.transportRetry :: later)
  | business {first next : SignedOrderEnvelope} {orderId : OrderId} {newNonce : String}
      {identity : SignedOrderIdentity} {calls : List Retry} {later : List SignedOrderEnvelope}
      (hnext : first.businessRetry orderId newNonce identity = .ok next)
      (h : Derived next calls later) :
      Derived first (.business orderId newNonce identity :: calls) (next :: later)

theorem derived_of_lineage (h : first.lineage calls = .ok envelopes) :
    Derived first calls envelopes := by
  induction calls generalizing first envelopes with
  | nil =>
      obtain rfl := Except.ok.inj h
      exact .nil first
  | cons call calls ih =>
      obtain ⟨next, later, hnext, hlater, rfl⟩ := lineage_cons_eq_ok_iff.mp h
      cases call with
      | transport =>
          obtain rfl := Except.ok.inj hnext
          exact .transport (ih hlater)
      | business orderId newNonce identity => exact .business hnext (ih hlater)

/-! ### Order ids -/

/-- An envelope that no retry made. -/
inductive Initial : SignedOrderEnvelope → Prop
  | new (orderId : OrderId) (identity : SignedOrderIdentity) : Initial (.new orderId identity)
  | withAttemptId {envelope : SignedOrderEnvelope} (attemptId : String) (h : Initial envelope) :
      Initial (envelope.withAttemptId attemptId)

theorem Initial.lineage_fields (h : Initial first) :
    first.retryOfOrderId = none ∧ first.usedOrderIds = [first.orderId] := by
  induction h with
  | new orderId identity => exact ⟨rfl, rfl⟩
  | withAttemptId attemptId h ih => exact ih

theorem businessRetries_transportRetry_cons (first : SignedOrderEnvelope)
    (later : List SignedOrderEnvelope) :
    businessRetries (first.transportRetry :: later) = businessRetries later :=
  List.filter_cons_of_neg (by simp [transportRetry])

theorem businessRetries_cons_of_ok (h : first.businessRetry orderId newNonce identity = .ok envelope)
    (later : List SignedOrderEnvelope) :
    businessRetries (envelope :: later) = envelope :: businessRetries later := by
  obtain ⟨-, -, -, rfl⟩ := businessRetry_eq_ok_iff.mp h
  exact List.filter_cons_of_pos (by simp)

/-- Business retries take order ids that the lineage has not used. -/
theorem Derived.nodup_orderIds (h : Derived first calls envelopes)
    (hused : first.usedOrderIds.Nodup) :
    (first.usedOrderIds ++ (businessRetries envelopes).map (·.orderId)).Nodup := by
  induction h with
  | nil first => simpa [businessRetries] using hused
  | transport h ih =>
      rw [businessRetries_transportRetry_cons]
      exact ih hused
  | business hnext h ih =>
      rw [businessRetries_cons_of_ok hnext, List.map_cons]
      obtain ⟨hfresh, -, -, rfl⟩ := businessRetry_eq_ok_iff.mp hnext
      have hlater := ih (by simpa using hused.concat hfresh)
      rwa [List.append_assoc] at hlater

/-- An order that is linked stays linked to the same order. -/
theorem Derived.retryOfOrderId_of_linked {root : OrderId} (h : Derived first calls envelopes)
    (hroot : first.retryOfOrderId = some root) :
    ∀ envelope ∈ envelopes, envelope.retryOfOrderId = some root := by
  induction h with
  | nil first => exact fun _ hmem ↦ nomatch hmem
  | transport h ih => exact List.forall_mem_cons.mpr ⟨hroot, ih hroot⟩
  | @business first next orderId newNonce identity calls later hnext h ih =>
      obtain ⟨-, -, -, rfl⟩ := businessRetry_eq_ok_iff.mp hnext
      have hnextRoot : some (first.retryOfOrderId.getD first.orderId) = some root := by
        rw [hroot, Option.getD_some]
      exact List.forall_mem_cons.mpr ⟨hnextRoot, ih hnextRoot⟩

/-- From its first business retry on, a lineage is linked to the order it began with. -/
theorem Derived.retryOfOrderId_of_business (h : Derived first calls envelopes)
    {before after : List SignedOrderEnvelope} (hsplit : envelopes = before ++ envelope :: after)
    (hbusiness : ∃ retry ∈ before ++ [envelope], retry.retryKind = .business) :
    envelope.retryOfOrderId = some (first.retryOfOrderId.getD first.orderId) := by
  induction h generalizing before with
  | nil first => exact absurd hsplit.symm (by simp)
  | transport h ih =>
      obtain ⟨retry, hmem, hkind⟩ := hbusiness
      cases before with
      | nil =>
          -- the lineage ends in this transport retry, and no business retry came before
          obtain ⟨rfl, rfl⟩ := List.cons.inj hsplit
          obtain rfl := List.mem_singleton.mp hmem
          cases hkind
      | cons head before =>
          obtain ⟨rfl, hlater⟩ := List.cons.inj hsplit
          rcases List.mem_cons.mp hmem with rfl | hmem
          · cases hkind
          · exact ih hlater ⟨retry, hmem, hkind⟩
  | business hnext h ih =>
      obtain ⟨-, -, -, rfl⟩ := businessRetry_eq_ok_iff.mp hnext
      have hmem : envelope ∈ before ++ envelope :: after :=
        List.mem_append_right before List.mem_cons_self
      rw [← hsplit, List.mem_cons] at hmem
      rcases hmem with rfl | hmem
      · exact rfl
      · exact h.retryOfOrderId_of_linked rfl envelope hmem

/-- What one retry keeps of the envelope before it. -/
theorem Derived.isChain (h : Derived first calls envelopes) :
    List.IsChain (fun envelope next ↦ next.attemptId = envelope.attemptId ∧
      (next.retryKind = .transport →
        next.orderId = envelope.orderId ∧ next.identity = envelope.identity)) (first :: envelopes) := by
  induction h with
  | nil first => exact .singleton first
  | transport h ih => exact .cons_cons ⟨rfl, fun _ ↦ ⟨rfl, rfl⟩⟩ ih
  | business hnext h ih =>
      obtain ⟨-, -, -, rfl⟩ := businessRetry_eq_ok_iff.mp hnext
      exact .cons_cons ⟨rfl, fun hkind ↦ nomatch hkind⟩ ih

/-- The orders of a lineage have distinct ids, link to the first order, and keep its attempt;
transport retries keep the order. -/
theorem lineage_keeps_order_identity (hfirst : Initial first)
    (h : first.lineage calls = .ok envelopes) :
    ((first :: businessRetries envelopes).map (·.orderId)).Nodup ∧
      (∀ before envelope after, envelopes = before ++ envelope :: after →
        (∃ retry ∈ before ++ [envelope], retry.retryKind = .business) →
          envelope.retryOfOrderId = some first.orderId) ∧
      List.IsChain (fun envelope next ↦ next.attemptId = envelope.attemptId ∧
        (next.retryKind = .transport →
          next.orderId = envelope.orderId ∧ next.identity = envelope.identity))
        (first :: envelopes) := by
  have hderived := derived_of_lineage h
  obtain ⟨hroot, hused⟩ := hfirst.lineage_fields
  refine ⟨?_, fun before envelope after hsplit hbusiness ↦ ?_, hderived.isChain⟩
  · have hnodup := hderived.nodup_orderIds (by rw [hused]; exact List.nodup_singleton _)
    rwa [hused] at hnodup
  · rw [hderived.retryOfOrderId_of_business hsplit hbusiness, hroot, Option.getD_none]

/-! ### Nonces -/

/-- The nonces that business retries ask for. -/
def Retry.newNonce? : Retry → Option String
  | .transport => none
  | .business _ newNonce _ => some newNonce

/-- No nonce comes back once another was used. -/
def NeverReturns (nonces : List String) : Prop :=
  ∀ before nonce next later, nonces = before ++ nonce :: next :: later → nonce ∉ later

/-- The orders are signed with the nonces that were asked for, each other than the one
before. -/
theorem Derived.nonces (h : Derived first calls envelopes) :
    (first :: businessRetries envelopes).map (·.identity.nonce) =
        first.identity.nonce :: calls.filterMap Retry.newNonce? ∧
      List.IsChain (· ≠ ·) (first.identity.nonce :: calls.filterMap Retry.newNonce?) := by
  induction h with
  | nil first => exact ⟨rfl, .singleton _⟩
  | transport h ih =>
      rw [businessRetries_transportRetry_cons]
      exact ih
  | business hnext h ih =>
      rw [businessRetries_cons_of_ok hnext]
      obtain ⟨-, hchanged, hidentity, rfl⟩ := businessRetry_eq_ok_iff.mp hnext
      obtain ⟨hnonces, hchain⟩ := ih
      simp only [hidentity] at hnonces hchain
      refine ⟨?_, .cons_cons hchanged.symm hchain⟩
      rw [List.map_cons]
      simp only [Retry.newNonce?, List.filterMap_cons, hnonces]

theorem nodup_iff_neverReturns {nonces : List String} (h : List.IsChain (· ≠ ·) nonces) :
    nonces.Nodup ↔ NeverReturns nonces := by
  constructor
  · rintro hnodup before nonce next later rfl hreturn
    exact (List.nodup_cons.mp (List.nodup_append.mp hnodup).2.1).1 (List.mem_cons_of_mem _ hreturn)
  · intro hnever
    induction nonces with
    | nil => exact List.nodup_nil
    | cons nonce nonces ih =>
        refine List.nodup_cons.mpr ⟨fun hreturn ↦ ?_, ih (List.isChain_of_isChain_cons h) fun before a b later hsplit ↦
          hnever (nonce :: before) a b later (congrArg (nonce :: ·) hsplit)⟩
        cases nonces with
        | nil => cases hreturn
        | cons next later =>
            rcases List.mem_cons.mp hreturn with rfl | hreturn
            · exact (List.isChain_cons_cons.mp h).1 rfl
            · exact hnever [] nonce next later rfl hreturn

/-- The orders of a lineage have distinct nonces if and only if no business retry asks for a
nonce that another one replaced. -/
theorem nodup_nonces_iff (h : first.lineage calls = .ok envelopes) :
    ((first :: businessRetries envelopes).map (·.identity.nonce)).Nodup ↔
      NeverReturns (first.identity.nonce :: calls.filterMap Retry.newNonce?) := by
  obtain ⟨hnonces, hchain⟩ := (derived_of_lineage h).nonces
  rw [hnonces]
  exact nodup_iff_neverReturns hchain

/-! ### Samples -/

def sampleIdentity (nonce : String) : SignedOrderIdentity :=
  { signedOrderHash := "hash", salt := "salt", nonce, signature := "signature" }

def sampleEnvelope : SignedOrderEnvelope :=
  (new "order-1" (sampleIdentity "nonce-1")).withAttemptId "attempt-1"

/-- Two new orders, each sent twice. -/
def sampleRetries : List Retry :=
  [.transport, .business "order-2" "nonce-2" (sampleIdentity "nonce-2"), .transport,
    .business "order-3" "nonce-3" (sampleIdentity "nonce-3")]

theorem sampleRetries_keep_order_identity :
    ∃ envelopes, sampleEnvelope.lineage sampleRetries = .ok envelopes ∧
      ((sampleEnvelope :: businessRetries envelopes).map (·.orderId)).Nodup ∧
      envelopes.map (·.retryOfOrderId) = [none, some "order-1", some "order-1", some "order-1"] := by
  refine ⟨_, rfl, ?_, by decide⟩
  have hlineage : sampleEnvelope.lineage sampleRetries = .ok _ := rfl
  exact (lineage_keeps_order_identity (.withAttemptId "attempt-1" (.new "order-1" _)) hlineage).1

theorem sampleRetries_nodup_nonces :
    ∃ envelopes, sampleEnvelope.lineage sampleRetries = .ok envelopes ∧
      (((sampleEnvelope :: businessRetries envelopes).map (·.identity.nonce)).Nodup ↔
        NeverReturns ["nonce-1", "nonce-2", "nonce-3"]) := by
  have hlineage : sampleEnvelope.lineage sampleRetries = .ok _ := rfl
  exact ⟨_, rfl, nodup_nonces_iff hlineage⟩

/-- The second business retry takes the nonce of the first order again. -/
theorem nonce_returns :
    ¬ ∀ (orderId : OrderId) (identity : SignedOrderIdentity) (calls : List Retry)
      (envelopes : List SignedOrderEnvelope), (new orderId identity).lineage calls = .ok envelopes →
        ((new orderId identity :: businessRetries envelopes).map (·.identity.nonce)).Nodup := by
  intro hall
  have hnodup := hall "order-1" (sampleIdentity "nonce-1")
    [.business "order-2" "nonce-2" (sampleIdentity "nonce-2"),
      .business "order-3" "nonce-1" (sampleIdentity "nonce-1")] _ rfl
  revert hnodup
  decide

end SignedOrderEnvelope

end AxiomArb.Execution
