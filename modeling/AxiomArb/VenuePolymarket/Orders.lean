import AxiomArb.Execution.Signing

/-!
# From a signed member to an SDK order

A signed member of a family crosses four representations before it is posted: the strings
of the member, the request with the salt as a number literal, the JSON value of the
request, and the order of the SDK.  The JSON value holds integers of 64 bits; a longer
literal becomes a double.
-/

namespace AxiomArb.VenuePolymarket

open Domain Library Execution

/-! ## Requests -/

inductive OrderType where
  | gtc
deriving DecidableEq, Repr

inductive OrderSide where
  | buy | sell
deriving DecidableEq, Repr

/-- A JSON literal, kept as it is written. -/
structure RawValue where
  literal : String
deriving DecidableEq, Repr

structure PostOrder where
  maker : String
  signer : String
  taker : String
  tokenId : String
  makerAmount : String
  takerAmount : String
  side : OrderSide
  expiration : String
  nonce : String
  feeRateBps : String
  signature : String
  salt : RawValue
  signatureType : Nat
deriving DecidableEq, Repr

structure PostOrderRequest where
  order : PostOrder
  owner : String
  orderType : OrderType
  deferExec : Bool
deriving DecidableEq, Repr

structure PostOrderTransport where
  owner : String
  orderType : OrderType
  deferExec : Bool
deriving DecidableEq, Repr

inductive PostOrderBuildError where
  | invalidSalt (salt : String)
  | invalidSide (side : String)
deriving DecidableEq, Repr

/-- Digits are a JSON number unless a zero stands before other digits. -/
def RawValue.fromDigits (text : String) : Option RawValue :=
  if text.toList.head? = some '0' ∧ text ≠ "0" then none else some { literal := text }

def buildPostOrderRequestFromSignedMember (member : SignedFamilyMember)
    (transport : PostOrderTransport) : Except PostOrderBuildError PostOrderRequest := do
  let saltStr := member.identity.salt
  let saltIsNumeric := saltStr ≠ "" && saltStr.toList.all Char.isDigit
  if !saltIsNumeric then
    throw (.invalidSalt member.identity.salt)
  let some salt := RawValue.fromDigits saltStr | throw (.invalidSalt member.identity.salt)
  let side ← match member.side with
    | "BUY" => pure OrderSide.buy
    | "SELL" => pure OrderSide.sell
    | other => throw (.invalidSide other)
  return {
    order := {
      maker := member.maker
      signer := member.signer
      taker := member.taker
      tokenId := member.tokenId
      makerAmount := member.makerAmount
      takerAmount := member.takerAmount
      side
      expiration := member.expiration
      nonce := member.identity.nonce
      feeRateBps := member.feeRateBps
      signature := member.identity.signature
      salt
      signatureType := member.signatureType }
    owner := transport.owner
    orderType := transport.orderType
    deferExec := transport.deferExec }

/-! ## JSON values -/

/-- A JSON number as a value holds it: an integer of 64 bits, or a double, which is known
here by the literal it was read from. -/
inductive Number where
  | posInt (n : Nat)
  | float (literal : String)
deriving DecidableEq, Repr

/-- The values that an order is made of. -/
inductive Value where
  | number (n : Number)
  | string (text : String)
  | object (members : List (String × Value))

/-- Read an integer literal. -/
def Number.fromDigits (literal : String) : Except String Number :=
  let n := Nat.ofDigitChars 10 literal.toList 0
  if n < 2 ^ 64 then .ok (.posInt n)
  -- from here on a double is infinite
  else if n < 2 ^ 1024 - 2 ^ 970 then .ok (.float literal)
  else .error "number out of range"

namespace Value

def asObject : Value → Option (List (String × Value))
  | object members => some members
  | _ => none

def asStr : Value → Option String
  | string text => some text
  | _ => none

end Value

def OrderSide.text : OrderSide → String
  | buy => "BUY"
  | sell => "SELL"

/-- The members of an order's object, once its salt is read. -/
def PostOrder.members (order : PostOrder) (salt : Number) : List (String × Value) := [
  ("maker", .string order.maker),
  ("signer", .string order.signer),
  ("taker", .string order.taker),
  ("tokenId", .string order.tokenId),
  ("makerAmount", .string order.makerAmount),
  ("takerAmount", .string order.takerAmount),
  ("side", .string order.side.text),
  ("expiration", .string order.expiration),
  ("nonce", .string order.nonce),
  ("feeRateBps", .string order.feeRateBps),
  ("signature", .string order.signature),
  ("salt", .number salt),
  ("signatureType", .number (.posInt order.signatureType))]

def PostOrder.toValue (order : PostOrder) : Except String Value := do
  let salt ← Number.fromDigits order.salt.literal
  return .object (order.members salt)

structure PolymarketSignedOrder where
  order : Value
  owner : String
  orderType : String
  deferExec : Bool

def polymarketSignedOrderFromSubmission (submission : PostOrderRequest) :
    Except String PolymarketSignedOrder := do
  let order ← submission.order.toValue.mapError fun err ↦ s!"submit order serialization error: {err}"
  return {
    order
    owner := submission.owner
    orderType := match submission.orderType with
      | .gtc => "GTC"
    deferExec := submission.deferExec }

/-! ## SDK orders -/

abbrev U256 := Fin (2 ^ 256)

/-- What the SDK brings: its types, and how it reads and writes them. -/
structure Sdk where
  Address : Type
  Signature : Type
  ApiKey : Type
  readUint : Value → Except String U256
  readAddress : Value → Except String Address
  readString : Value → Except String String
  readU8 : Value → Except String UInt8
  parseSignature : String → Except String Signature
  parseApiKey : String → Except String ApiKey
  writeAddress : Address → String
  writeSignature : Signature → String

inductive SdkOrderType where
  | gtc | fok | gtd | fak
  | unknown (text : String)
deriving DecidableEq, Repr

structure SdkOrder (sdk : Sdk) where
  salt : U256
  maker : sdk.Address
  signer : sdk.Address
  taker : sdk.Address
  tokenId : U256
  makerAmount : U256
  takerAmount : U256
  expiration : U256
  nonce : U256
  feeRateBps : U256
  side : UInt8
  signatureType : UInt8

structure SdkSignedOrder (sdk : Sdk) where
  order : SdkOrder sdk
  signature : sdk.Signature
  orderType : SdkOrderType
  owner : sdk.ApiKey
  postOnly : Bool

/-- The one kind of gateway error that a payload can cause. -/
inductive PolymarketGatewayError where
  | protocol (message : String)
deriving DecidableEq, Repr

section Dto

variable {α : Type} (payload : List (String × Value)) (key : String)

/-- Read a member of the payload. -/
def readField (read : Value → Except String α) : Except PolymarketGatewayError α :=
  match payload.lookup key with
  | none => .error (.protocol s!"signed order payload is missing {key}")
  | some value => (read value).mapError fun err ↦ .protocol s!"invalid signed order {key}: {err}"

end Dto

def sdkSignedOrderFromDto (sdk : Sdk) (order : PolymarketSignedOrder) :
    Except PolymarketGatewayError (SdkSignedOrder sdk) := do
  let some payload := order.order.asObject |
    throw (.protocol "signed order payload must be a JSON object")
  let some signatureText := (payload.lookup "signature").bind Value.asStr |
    throw (.protocol "signed order payload is missing its embedded signature")
  let signature ← (sdk.parseSignature signatureText).mapError fun err ↦
    .protocol s!"invalid signed order signature: {err}"
  let owner ← (sdk.parseApiKey order.owner).mapError fun err ↦
    .protocol s!"invalid signed order owner: {err}"
  let orderType := match order.orderType with
    | "GTC" | "gtc" => SdkOrderType.gtc
    | "FOK" | "fok" => .fok
    | "GTD" | "gtd" => .gtd
    | "FAK" | "fak" => .fak
    | other => .unknown other
  let salt ← readField payload "salt" sdk.readUint
  let maker ← readField payload "maker" sdk.readAddress
  let signer ← readField payload "signer" sdk.readAddress
  let taker ← readField payload "taker" sdk.readAddress
  let tokenId ← readField payload "tokenId" sdk.readUint
  let makerAmount ← readField payload "makerAmount" sdk.readUint
  let takerAmount ← readField payload "takerAmount" sdk.readUint
  let expiration ← readField payload "expiration" sdk.readUint
  let nonce ← readField payload "nonce" sdk.readUint
  let feeRateBps ← readField payload "feeRateBps" sdk.readUint
  let sideText ← readField payload "side" sdk.readString
  let side ← match sideText with
    | "BUY" | "buy" => pure 0
    | "SELL" | "sell" => pure 1
    | other => throw (.protocol s!"invalid signed order side: {other}")
  let signatureType ← readField payload "signatureType" sdk.readU8
  return {
    order := {
      salt, maker, signer, taker, tokenId, makerAmount, takerAmount, expiration, nonce, feeRateBps,
      side, signatureType }
    signature
    orderType
    owner
    postOnly := order.deferExec }

/-- The order that is posted for a member, if every step succeeds. -/
def submittedOrder (sdk : Sdk) (member : SignedFamilyMember) (transport : PostOrderTransport) :
    Option (SdkSignedOrder sdk) := do
  let submission ← (buildPostOrderRequestFromSignedMember member transport).toOption
  let order ← (polymarketSignedOrderFromSubmission submission).toOption
  (sdkSignedOrderFromDto sdk order).toOption

end AxiomArb.VenuePolymarket
