import AxiomArb.Domain.Identifiers
import AxiomArb.Library.Transactions
import Mathlib.Data.List.Sort

/-!
# Identifier records and orders as rows

An identifier record is spread over six tables, and an order refers to one of its rows.
Records and orders are written by transactions, in a few statements each: a row is inserted
unless a row with its key is there, and the row that is there is then compared with it.

The rows of all tables are one type, `Row`, with the keys (`Row.clash`), the checks
(`Row.invalid`) and the foreign keys (`Row.dangling`) of the schema.

## Honest boundary

* Statements run one at a time, each on what is committed when it runs; an insertion and the
  selection that looks at the row in its way are one statement, as rows never change.
* Rows are sorted by the code points of their columns.
* Of several orders with one hash, of which there are none, the first would be found.
-/

namespace AxiomArb.Persistence

open Domain Library

/-- The errors of the two repositories.  `sqlx` stands for the errors of the database that are
passed on, with the constraint that is violated, and `expected` for a failed expectation. -/
inductive CatalogueError where
  | invalidValue (kind value : String)
  | incompleteSignedOrderIdentity
  | duplicateSignedOrderHash (signedOrderHash existingOrderId attemptedOrderId : String)
  | identifierConflict (error : IdentifierMapError)
  | invalidOrderIdentifierLinkage (marketId conditionId tokenId : String)
  | immutableOrderConflict (orderId : String)
  | sqlx (constraint : String)
  | expected (message : String)
deriving DecidableEq, Repr

/-! ## Rows of identifier records -/

def marketRouteToStr : MarketRoute → String
  | .standard => "standard"
  | .negRisk => "negrisk"

def marketRouteFromStr (value : String) : Except CatalogueError MarketRoute :=
  match value with
  | "standard" => .ok .standard
  | "negrisk" => .ok .negRisk
  | _ => .error (.invalidValue "market_route" value)

structure IdentifierRecordRow where
  eventId : String
  eventFamilyId : String
  marketId : String
  conditionId : String
  tokenId : String
  outcomeLabel : String
  route : String
deriving DecidableEq, Repr

namespace IdentifierRecordRow

def fromDomain (record : IdentifierRecord) : IdentifierRecordRow :=
  { eventId := record.eventId
    eventFamilyId := record.eventFamilyId
    marketId := record.marketId
    conditionId := record.conditionId
    tokenId := record.tokenId
    outcomeLabel := record.outcomeLabel
    route := marketRouteToStr record.route }

def intoDomain (row : IdentifierRecordRow) : Except CatalogueError IdentifierRecord := do
  return {
    eventId := row.eventId
    eventFamilyId := row.eventFamilyId
    marketId := row.marketId
    conditionId := row.conditionId
    tokenId := row.tokenId
    outcomeLabel := row.outcomeLabel
    route := ← marketRouteFromStr row.route }

/-- The columns by which rows are listed. -/
def sortColumns (row : IdentifierRecordRow) : List String :=
  [row.eventFamilyId, row.eventId, row.marketId, row.tokenId]

end IdentifierRecordRow

/-! ## Rows of orders -/

structure NewOrderRow where
  orderId : String
  marketId : String
  conditionId : String
  tokenId : String
  quantity : Decimal
  price : Decimal
  submissionState : SubmissionState
  venueState : VenueOrderState
  settlementState : SettlementState
  signedOrderHash : Option String
  salt : Option String
  nonce : Option String
  signature : Option String
  retryOfOrderId : Option String
deriving DecidableEq, Repr

def NewOrderRow.fromDomain (order : Order) (retryOfOrderId : Option OrderId) : NewOrderRow :=
  { orderId := order.orderId
    marketId := order.marketId
    conditionId := order.conditionId
    tokenId := order.tokenId
    quantity := order.quantity
    price := order.price
    submissionState := order.submissionState
    venueState := order.venueState
    settlementState := order.settlementState
    signedOrderHash := order.signedOrder.map SignedOrderIdentity.signedOrderHash
    salt := order.signedOrder.map SignedOrderIdentity.salt
    nonce := order.signedOrder.map SignedOrderIdentity.nonce
    signature := order.signedOrder.map SignedOrderIdentity.signature
    retryOfOrderId }

structure OrderRow where
  orderId : String
  marketId : String
  conditionId : String
  tokenId : String
  quantity : Decimal
  price : Decimal
  submissionState : String
  venueState : String
  settlementState : String
  signedOrderHash : Option String
  salt : Option String
  nonce : Option String
  signature : Option String
  retryOfOrderId : Option String
  createdAt : DateTime
  updatedAt : DateTime
deriving DecidableEq, Repr

structure StoredOrder where
  order : Order
  retryOfOrderId : Option OrderId
  createdAt : DateTime
  updatedAt : DateTime
deriving DecidableEq, Repr

def submissionState (row : NewOrderRow) : String :=
  match row.submissionState with
  | .draft => "draft"
  | .planned => "planned"
  | .riskApproved => "risk_approved"
  | .signed => "signed"
  | .submitted => "submitted"
  | .acked => "acked"
  | .rejected => "rejected"
  | .unknown => "unknown"

def venueState (row : NewOrderRow) : String :=
  match row.venueState with
  | .live => "live"
  | .matched => "matched"
  | .delayed => "delayed"
  | .unmatched => "unmatched"
  | .cancelPending => "cancel_pending"
  | .cancelled => "cancelled"
  | .expired => "expired"
  | .unknown => "unknown"

def settlementState (row : NewOrderRow) : String :=
  match row.settlementState with
  | .matched => "matched"
  | .mined => "mined"
  | .confirmed => "confirmed"
  | .retrying => "retrying"
  | .failed => "failed"
  | .unknown => "unknown"

def submissionStateFromStr (value : String) : Except CatalogueError SubmissionState :=
  match value with
  | "draft" => .ok .draft
  | "planned" => .ok .planned
  | "risk_approved" => .ok .riskApproved
  | "signed" => .ok .signed
  | "submitted" => .ok .submitted
  | "acked" => .ok .acked
  | "rejected" => .ok .rejected
  | "unknown" => .ok .unknown
  | _ => .error (.invalidValue "submission_state" value)

def venueOrderStateFromStr (value : String) : Except CatalogueError VenueOrderState :=
  match value with
  | "live" => .ok .live
  | "matched" => .ok .matched
  | "delayed" => .ok .delayed
  | "unmatched" => .ok .unmatched
  | "cancel_pending" => .ok .cancelPending
  | "cancelled" => .ok .cancelled
  | "expired" => .ok .expired
  | "unknown" => .ok .unknown
  | _ => .error (.invalidValue "venue_state" value)

def settlementStateFromStr (value : String) : Except CatalogueError SettlementState :=
  match value with
  | "matched" => .ok .matched
  | "mined" => .ok .mined
  | "confirmed" => .ok .confirmed
  | "retrying" => .ok .retrying
  | "failed" => .ok .failed
  | "unknown" => .ok .unknown
  | _ => .error (.invalidValue "settlement_state" value)

def signedOrderIdentity (signedOrderHash salt nonce signature : Option String) :
    Except CatalogueError (Option SignedOrderIdentity) :=
  match signedOrderHash, salt, nonce, signature with
  | none, none, none, none => .ok none
  | some signedOrderHash, some salt, some nonce, some signature =>
      .ok (some { signedOrderHash, salt, nonce, signature })
  | _, _, _, _ => .error .incompleteSignedOrderIdentity

def OrderRow.intoStoredOrder (row : OrderRow) : Except CatalogueError StoredOrder := do
  let order : Order := {
    orderId := row.orderId
    marketId := row.marketId
    conditionId := row.conditionId
    tokenId := row.tokenId
    quantity := row.quantity
    price := row.price
    submissionState := ← submissionStateFromStr row.submissionState
    venueState := ← venueOrderStateFromStr row.venueState
    settlementState := ← settlementStateFromStr row.settlementState
    signedOrder := ← signedOrderIdentity row.signedOrderHash row.salt row.nonce row.signature }
  return {
    retryOfOrderId := row.retryOfOrderId
    order
    createdAt := row.createdAt
    updatedAt := row.updatedAt }

def orderRowMatchesInput (existing : OrderRow) (incoming : NewOrderRow) : Bool :=
  existing.orderId == incoming.orderId
    && existing.marketId == incoming.marketId
    && existing.conditionId == incoming.conditionId
    && existing.tokenId == incoming.tokenId
    && existing.quantity == incoming.quantity
    && existing.price == incoming.price
    && existing.submissionState == submissionState incoming
    && existing.venueState == venueState incoming
    && existing.settlementState == settlementState incoming
    && existing.signedOrderHash == incoming.signedOrderHash
    && existing.salt == incoming.salt
    && existing.nonce == incoming.nonce
    && existing.signature == incoming.signature
    && existing.retryOfOrderId == incoming.retryOfOrderId

/-- The row that is inserted at a time. -/
def NewOrderRow.insertedAt (row : NewOrderRow) (now : DateTime) : OrderRow :=
  { orderId := row.orderId
    marketId := row.marketId
    conditionId := row.conditionId
    tokenId := row.tokenId
    quantity := row.quantity
    price := row.price
    submissionState := Persistence.submissionState row
    venueState := Persistence.venueState row
    settlementState := Persistence.settlementState row
    signedOrderHash := row.signedOrderHash
    salt := row.salt
    nonce := row.nonce
    signature := row.signature
    retryOfOrderId := row.retryOfOrderId
    createdAt := now
    updatedAt := now }

/-! ## Tables -/

inductive Row where
  | eventFamily (eventFamilyId name : String)
  | event (eventId eventFamilyId name : String)
  | condition (conditionId eventId : String)
  | market (marketId conditionId eventId route : String)
  | token (tokenId conditionId outcomeLabel : String)
  | identifierMap (row : IdentifierRecordRow)
  | order (row : OrderRow)
deriving DecidableEq, Repr

namespace Row

/-- Rows of one table with a key in common. -/
def clash : Row → Row → Bool
  | eventFamily eventFamilyId _, eventFamily eventFamilyId' _ => eventFamilyId == eventFamilyId'
  | event eventId _ _, event eventId' _ _ => eventId == eventId'
  | condition conditionId _, condition conditionId' _ => conditionId == conditionId'
  | market marketId conditionId _ _, market marketId' conditionId' _ _ =>
      marketId == marketId' || conditionId == conditionId'
  | token tokenId _ _, token tokenId' _ _ => tokenId == tokenId'
  | identifierMap row, identifierMap row' =>
      row.tokenId == row'.tokenId
        || row.conditionId == row'.conditionId && row.outcomeLabel == row'.outcomeLabel
  | order row, order row' =>
      row.orderId == row'.orderId
        || row.signedOrderHash.isSome && row.signedOrderHash == row'.signedOrderHash
  | _, _ => false

/-- The check that a row fails, if any. -/
def invalid : Row → Option String
  | market _ _ _ route =>
      if route ∈ ["standard", "negrisk"] then none else some "markets_route_check"
  | identifierMap row =>
      if row.route ∈ ["standard", "negrisk"] then none else some "identifier_map_route_check"
  | order row =>
      if row.settlementState ∉ ["matched", "mined", "confirmed", "retrying", "failed", "unknown"] then
        some "orders_settlement_state_valid"
      else if ¬ (row.signedOrderHash = none ∧ row.salt = none ∧ row.nonce = none ∧ row.signature = none ∨
          row.signedOrderHash ≠ none ∧ row.salt ≠ none ∧ row.nonce ≠ none ∧ row.signature ≠ none) then
        some "orders_signed_order_identity_complete"
      else if row.submissionState ∉
          ["draft", "planned", "risk_approved", "signed", "submitted", "acked", "rejected", "unknown"] then
        some "orders_submission_state_valid"
      else if row.venueState ∉ ["live", "matched", "delayed", "unmatched", "cancel_pending", "cancelled",
          "expired", "unknown"] then
        some "orders_venue_state_valid"
      else none
  | _ => none

def isEventFamily (eventFamilyId : String) : Row → Bool
  | eventFamily id _ => id == eventFamilyId
  | _ => false

def isEvent (eventId : String) : Row → Bool
  | event id _ _ => id == eventId
  | _ => false

def isEventOfFamily (eventId eventFamilyId : String) : Row → Bool
  | event id familyId _ => id == eventId && familyId == eventFamilyId
  | _ => false

def isCondition (conditionId : String) : Row → Bool
  | condition id _ => id == conditionId
  | _ => false

def isConditionOfEvent (conditionId eventId : String) : Row → Bool
  | condition id ofEvent => id == conditionId && ofEvent == eventId
  | _ => false

def isTokenOfCondition (tokenId conditionId : String) : Row → Bool
  | token id ofCondition _ => id == tokenId && ofCondition == conditionId
  | _ => false

def isMarketOfCondition (marketId conditionId : String) : Row → Bool
  | market id ofCondition _ _ => id == marketId && ofCondition == conditionId
  | _ => false

def isMarketOnRoute (marketId route : String) : Row → Bool
  | market id _ _ onRoute => id == marketId && onRoute == route
  | _ => false

def isMapped (marketId conditionId tokenId : String) : Row → Bool
  | identifierMap row =>
      row.marketId == marketId && row.conditionId == conditionId && row.tokenId == tokenId
  | _ => false

def isOrder (orderId : String) : Row → Bool
  | order row => row.orderId == orderId
  | _ => false

/-- The foreign keys of a row: the name of each, and what it asks of the row it refers to. -/
def foreignKeys : Row → List (String × (Row → Bool))
  | eventFamily _ _ => []
  | event _ eventFamilyId _ => [("events_event_family_id_fkey", isEventFamily eventFamilyId)]
  | condition _ eventId => [("conditions_event_id_fkey", isEvent eventId)]
  | market _ conditionId eventId _ =>
      [("markets_event_id_fkey", isEvent eventId),
        ("markets_condition_event_consistent", isConditionOfEvent conditionId eventId)]
  | token _ conditionId _ => [("tokens_condition_id_fkey", isCondition conditionId)]
  | identifierMap row =>
      [("identifier_map_event_id_fkey", isEvent row.eventId),
        ("identifier_map_event_family_id_fkey", isEventFamily row.eventFamilyId),
        ("identifier_map_token_condition_consistent", isTokenOfCondition row.tokenId row.conditionId),
        ("identifier_map_market_condition_consistent",
          isMarketOfCondition row.marketId row.conditionId),
        ("identifier_map_condition_event_consistent", isConditionOfEvent row.conditionId row.eventId),
        ("identifier_map_event_family_consistent", isEventOfFamily row.eventId row.eventFamilyId),
        ("identifier_map_market_route_consistent", isMarketOnRoute row.marketId row.route)]
  | order row =>
      row.retryOfOrderId.toList.map (fun orderId ↦ ("orders_retry_of_order_id_fkey", isOrder orderId))
        ++ [("orders_identifier_map_link_valid", isMapped row.marketId row.conditionId row.tokenId)]

/-- The foreign key of a row for which no row is there, if any. -/
def dangling (row : Row) (rows : List Row) : Option String :=
  (row.foreignKeys.find? fun key ↦ !rows.any key.2).map Prod.fst

end Row

/-! ## Statements on the tables of the identifiers -/

def Row.identifierMap? : Row → Option IdentifierRecordRow
  | .identifierMap row => some row
  | _ => none

def listRecordsInTx (rows : List Row) : Except CatalogueError (List IdentifierRecord) :=
  ((rows.filterMap Row.identifierMap?).insertionSort fun row row' ↦
    (compare row.sortColumns row'.sortColumns).isLE = true).mapM IdentifierRecordRow.intoDomain

def validateRecordInTx (rows : List Row) (record : IdentifierRecord) : Except CatalogueError Unit := do
  let records ← listRecordsInTx rows
  let _ ← (IdentifierMap.fromRecords (records ++ [record])).mapError .identifierConflict
  .ok ()

section Insert

variable {τ : Type}

/-- `ON CONFLICT DO NOTHING`, and then a look at what is in the way. -/
def insertOrConfirm (row : Row) (confirm : List Row → Except CatalogueError Unit) (next : τ) :
    Statement Row τ CatalogueError :=
  .insert {
    row
    invalid := row.invalid.map .sqlx
    arbiter := row.clash
    skipped := fun rows ↦ (confirm rows).map fun _ ↦ next
    duplicate := fun _ ↦ .sqlx "unique_violation"
    dangling := fun rows ↦ (row.dangling (rows ++ [row])).map .sqlx
    inserted := next }

/-- The one row that is there is selected. -/
def fetchOne {α : Type} (select : Row → Option α) (rows : List Row) : Except CatalogueError α :=
  match rows.findSome? select with
  | some selected => .ok selected
  | none => .error (.sqlx "RowNotFound")

def conflictingMetadata (row : IdentifierRecordRow) : CatalogueError :=
  .identifierConflict (.conflictingConditionMetadata row.conditionId)

def selectEventFamily (eventFamilyId : String) : Row → Option String
  | .eventFamily id name => if id = eventFamilyId then some name else none
  | _ => none

def confirmEventFamily (row : IdentifierRecordRow) (rows : List Row) : Except CatalogueError Unit := do
  let existingName ← fetchOne (selectEventFamily row.eventFamilyId) rows
  if existingName ≠ row.eventFamilyId then .error (conflictingMetadata row) else .ok ()

def insertOrConfirmEventFamily (row : IdentifierRecordRow) (next : τ) :
    Statement Row τ CatalogueError :=
  insertOrConfirm (.eventFamily row.eventFamilyId row.eventFamilyId) (confirmEventFamily row) next

def selectEvent (eventId : String) : Row → Option (String × String)
  | .event id eventFamilyId name => if id = eventId then some (eventFamilyId, name) else none
  | _ => none

def confirmEvent (row : IdentifierRecordRow) (rows : List Row) : Except CatalogueError Unit := do
  let existing ← fetchOne (selectEvent row.eventId) rows
  if existing.1 ≠ row.eventFamilyId ∨ existing.2 ≠ row.eventId then .error (conflictingMetadata row)
  else .ok ()

def insertOrConfirmEvent (row : IdentifierRecordRow) (next : τ) : Statement Row τ CatalogueError :=
  insertOrConfirm (.event row.eventId row.eventFamilyId row.eventId) (confirmEvent row) next

def selectCondition (conditionId : String) : Row → Option String
  | .condition id eventId => if id = conditionId then some eventId else none
  | _ => none

def confirmCondition (row : IdentifierRecordRow) (rows : List Row) : Except CatalogueError Unit := do
  let existingEventId ← fetchOne (selectCondition row.conditionId) rows
  if existingEventId ≠ row.eventId then .error (conflictingMetadata row) else .ok ()

def insertOrConfirmCondition (row : IdentifierRecordRow) (next : τ) :
    Statement Row τ CatalogueError :=
  insertOrConfirm (.condition row.conditionId row.eventId) (confirmCondition row) next

def selectMarket (marketId : String) : Row → Option (String × String × String)
  | .market id conditionId eventId route =>
      if id = marketId then some (conditionId, eventId, route) else none
  | _ => none

def selectMarketOfCondition (conditionId : String) : Row → Option String
  | .market id ofCondition _ _ => if ofCondition = conditionId then some id else none
  | _ => none

def confirmMarket (row : IdentifierRecordRow) (rows : List Row) : Except CatalogueError Unit :=
  match rows.findSome? (selectMarket row.marketId) with
  | some (existingConditionId, existingEventId, existingRoute) =>
      if existingConditionId ≠ row.conditionId ∨ existingEventId ≠ row.eventId then
        .error (conflictingMetadata row)
      else if existingRoute ≠ row.route then do
        let existingRoute ← marketRouteFromStr existingRoute
        let newRoute ← marketRouteFromStr row.route
        .error (.identifierConflict (.conflictingConditionRoute row.conditionId existingRoute newRoute))
      else
        .ok ()
  | none =>
      if (rows.findSome? (selectMarketOfCondition row.conditionId)).isSome then
        .error (conflictingMetadata row)
      else
        .ok ()

def insertOrConfirmMarket (row : IdentifierRecordRow) (next : τ) : Statement Row τ CatalogueError :=
  insertOrConfirm (.market row.marketId row.conditionId row.eventId row.route) (confirmMarket row) next

def selectToken (tokenId : String) : Row → Option (String × String)
  | .token id conditionId outcomeLabel => if id = tokenId then some (conditionId, outcomeLabel) else none
  | _ => none

def confirmToken (row : IdentifierRecordRow) (rows : List Row) : Except CatalogueError Unit := do
  let existing ← fetchOne (selectToken row.tokenId) rows
  if existing.1 ≠ row.conditionId then
    .error (.identifierConflict (.conflictingTokenCondition row.tokenId existing.1 row.conditionId))
  else if existing.2 ≠ row.outcomeLabel then
    .error (.identifierConflict (.conflictingTokenMetadata row.tokenId))
  else
    .ok ()

def insertOrConfirmToken (row : IdentifierRecordRow) (next : τ) : Statement Row τ CatalogueError :=
  insertOrConfirm (.token row.tokenId row.conditionId row.outcomeLabel) (confirmToken row) next

def selectMapped (tokenId : String) : Row → Option IdentifierRecordRow
  | .identifierMap row => if row.tokenId = tokenId then some row else none
  | _ => none

def selectOutcome (conditionId outcomeLabel : String) : Row → Option String
  | .identifierMap row =>
      if row.conditionId = conditionId ∧ row.outcomeLabel = outcomeLabel then some row.tokenId else none
  | _ => none

def confirmIdentifierMap (row : IdentifierRecordRow) (rows : List Row) : Except CatalogueError Unit :=
  match rows.findSome? (selectMapped row.tokenId) with
  | some existingRow => do
      let existing ← existingRow.intoDomain
      let attempted ← row.intoDomain
      if existing ≠ attempted then do
        let records ← listRecordsInTx rows
        let _ ← (IdentifierMap.fromRecords (records ++ [attempted])).mapError .identifierConflict
        .error (.identifierConflict (.conflictingTokenMetadata row.tokenId))
      else
        .ok ()
  | none =>
      if (rows.findSome? (selectOutcome row.conditionId row.outcomeLabel)).isSome then
        .error (.identifierConflict (.conflictingTokenMetadata row.tokenId))
      else
        .ok ()

def insertOrConfirmIdentifierMap (row : IdentifierRecordRow) (next : τ) :
    Statement Row τ CatalogueError :=
  insertOrConfirm (.identifierMap row) (confirmIdentifierMap row) next

end Insert

/-! ## Statements on the orders -/

def selectOrder (orderId : String) : Row → Option OrderRow
  | .order row => if row.orderId = orderId then some row else none
  | _ => none

def selectOrderIdExcluding (signedOrderHash orderId : String) : Row → Option String
  | .order row =>
      if row.signedOrderHash = some signedOrderHash ∧ row.orderId ≠ orderId then some row.orderId
      else none
  | _ => none

def selectOrderId (signedOrderHash : String) : Row → Option String
  | .order row => if row.signedOrderHash = some signedOrderHash then some row.orderId else none
  | _ => none

def signedFieldCount (row : NewOrderRow) : Nat :=
  ([row.signedOrderHash.isSome, row.salt.isSome, row.nonce.isSome, row.signature.isSome].filter id).length

/-- What comes before the insertion. -/
def checkSignedOrder (row : NewOrderRow) (rows : List Row) : Except CatalogueError Unit :=
  if signedFieldCount row ≠ 0 ∧ signedFieldCount row ≠ 4 then
    .error .incompleteSignedOrderIdentity
  else
    match row.signedOrderHash with
    | none => .ok ()
    | some signedOrderHash =>
        match rows.findSome? (selectOrderIdExcluding signedOrderHash row.orderId) with
        | some existingOrderId =>
            .error (.duplicateSignedOrderHash signedOrderHash existingOrderId row.orderId)
        | none => .ok ()

/-- An order that is there must be the one that is inserted. -/
def confirmOrder (row : NewOrderRow) (rows : List Row) : Except CatalogueError Unit :=
  match rows.findSome? (selectOrder row.orderId) with
  | none => .error (.expected "existing order should load on order_id conflict")
  | some existing =>
      if orderRowMatchesInput existing row then .ok () else .error (.immutableOrderConflict row.orderId)

def duplicateSignedOrder (row : NewOrderRow) (rows : List Row) : CatalogueError :=
  match row.signedOrderHash with
  | none => .expected "duplicate hash constraint requires signed_order_hash"
  | some signedOrderHash =>
      .duplicateSignedOrderHash signedOrderHash
        ((rows.findSome? (selectOrderId signedOrderHash)).getD "<unknown>") row.orderId

def danglingOrder (row : NewOrderRow) (constraint : String) : CatalogueError :=
  if constraint = "orders_identifier_map_link_valid" then
    .invalidOrderIdentifierLinkage row.marketId row.conditionId row.tokenId
  else
    .sqlx constraint

def insertOrder {τ : Type} (row : NewOrderRow) (now : DateTime) (next : τ) :
    Statement Row τ CatalogueError :=
  .insert {
    row := .order (row.insertedAt now)
    invalid := (Row.order (row.insertedAt now)).invalid.map .sqlx
    arbiter := Row.isOrder row.orderId
    skipped := fun rows ↦ (confirmOrder row rows).map fun _ ↦ next
    duplicate := duplicateSignedOrder row
    dangling := fun rows ↦ ((Row.order (row.insertedAt now)).dangling
      (rows ++ [.order (row.insertedAt now)])).map (danglingOrder row)
    inserted := next }

/-- The order as it is read back. -/
def getOrder (rows : List Row) (orderId : OrderId) : Except CatalogueError (Option StoredOrder) :=
  match rows.findSome? (selectOrder orderId) with
  | none => .ok none
  | some row => row.intoStoredOrder.map some

/-! ## The transactions of the two repositories -/

inductive UpsertStep where
  | validate | eventFamily | event | condition | market | token | identifierMap | commit
deriving DecidableEq, Repr

inductive InsertStep where
  | check | insert | commit
deriving DecidableEq, Repr

/-- A call of `upsert_record` or `insert_signed_order`, at the statement that comes next. -/
inductive Task where
  | upsertRecord (record : IdentifierRecord) (step : UpsertStep)
  | insertSignedOrder (row : NewOrderRow) (now : DateTime) (step : InsertStep)

def upsertStatement (record : IdentifierRecord) : UpsertStep → Statement Row Task CatalogueError
  | .validate => .read fun rows ↦
      (validateRecordInTx rows record).map fun _ ↦ .upsertRecord record .eventFamily
  | .eventFamily => insertOrConfirmEventFamily (.fromDomain record) (.upsertRecord record .event)
  | .event => insertOrConfirmEvent (.fromDomain record) (.upsertRecord record .condition)
  | .condition => insertOrConfirmCondition (.fromDomain record) (.upsertRecord record .market)
  | .market => insertOrConfirmMarket (.fromDomain record) (.upsertRecord record .token)
  | .token => insertOrConfirmToken (.fromDomain record) (.upsertRecord record .identifierMap)
  | .identifierMap => insertOrConfirmIdentifierMap (.fromDomain record) (.upsertRecord record .commit)
  | .commit => .commit

def insertStatement (row : NewOrderRow) (now : DateTime) :
    InsertStep → Statement Row Task CatalogueError
  | .check => .read fun rows ↦
      (checkSignedOrder row rows).map fun _ ↦ .insertSignedOrder row now .insert
  | .insert => insertOrder row now (.insertSignedOrder row now .commit)
  | .commit => .commit

def Task.statement : Task → Statement Row Task CatalogueError
  | .upsertRecord record step => upsertStatement record step
  | .insertSignedOrder row now step => insertStatement row now step

abbrev Catalogue := Store Row Task CatalogueError

/-- One statement of one transaction, or a transaction begins or is lost. -/
def catalogueStep : Catalogue → Event Task → Catalogue := Store.step Row.clash Task.statement

/-- A transaction begins with its first statement. -/
def Task.Fresh : Task → Prop
  | .upsertRecord _ step => step = .validate
  | .insertSignedOrder _ _ step => step = .check

/-- The records that were upserted. -/
def acceptedRecords (catalogue : Catalogue) : List IdentifierRecord :=
  catalogue.transactions.filterMap fun transaction ↦
    match transaction.status, transaction.state with
    | .committed, .upsertRecord record _ => some record
    | _, _ => none

/-- The orders that were inserted, with the time of each. -/
def insertedOrders (catalogue : Catalogue) : List (NewOrderRow × DateTime) :=
  catalogue.transactions.filterMap fun transaction ↦
    match transaction.status, transaction.state with
    | .committed, .insertSignedOrder row now _ => some (row, now)
    | _, _ => none

end AxiomArb.Persistence
