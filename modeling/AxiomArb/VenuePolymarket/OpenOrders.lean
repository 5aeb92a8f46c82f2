import AxiomArb.AppLive.PendingRefs
import AxiomArb.Domain.Market
import AxiomArb.VenuePolymarket.Metadata
import AxiomArb.VenuePolymarket.RelayerVerdicts
import Mathlib.Data.Finset.Insert

/-!
# Open orders

A pending order is confirmed if the venue lists it as open.  The venue lists its open orders in
pages, each naming the next; both clients ask for the first page, and neither for another.  So
they miss no order exactly if all of them are on it (`neverMissed_iff`).

## Honest boundary

* What the SDK client, the wire and the decoder of a response answer are parameters, and so is
  which texts may stand in a header.  Errors of the gateway and of the SDK are texts.
* A shared runtime either runs the task or fails with a text.
-/

namespace AxiomArb.VenuePolymarket

open Domain Library
open AppLive (trim parsePendingRef PendingRefTarget)

/-! ## The gateway -/

inductive PolymarketOrderQuery where
  | openOrders
deriving DecidableEq, Repr

structure PolymarketOpenOrderSummary where
  orderId : String
deriving DecidableEq, Repr

/-- An order as a page lists it. -/
structure OpenOrderSummary where
  orderId : String
  status : Option String
  market : Option String
deriving DecidableEq, Repr

structure OrdersPage where
  data : List OpenOrderSummary
  nextCursor : Option String
deriving DecidableEq, Repr

structure ClobApi where
  openOrders : PolymarketOrderQuery → Except String (List PolymarketOpenOrderSummary)

/-- The client of the SDK; the requests that are made of it ask for orders of every kind. -/
structure SdkClobClient where
  orders : Option String → Except String OrdersPage

def LiveClobSdkApi.openOrders (client : SdkClobClient) :
    PolymarketOrderQuery → Except String (List PolymarketOpenOrderSummary)
  | .openOrders => do
      let page ← client.orders none
      return page.data.map fun row ↦ { orderId := row.orderId }

def liveClobSdkApi (client : SdkClobClient) : ClobApi where
  openOrders := LiveClobSdkApi.openOrders client

structure PolymarketGateway where
  clobApi : Option ClobApi
  recentTransactions : RelayerAuth → Except String (List RelayerTransaction)

namespace PolymarketGateway

variable (gateway : PolymarketGateway)

def configuredClobApi : Except String ClobApi :=
  match gateway.clobApi with
  | some clobApi => .ok clobApi
  | none => .error "Protocol: clob api is not configured on this gateway"

def openOrders (query : PolymarketOrderQuery) : Except String (List PolymarketOpenOrderSummary) := do
  let clobApi ← gateway.configuredClobApi
  clobApi.openOrders query

end PolymarketGateway

/-! ## Over REST -/

structure SignerContext where
  address : String
  funderAddress : String
  signatureType : SignatureType
  walletRoute : WalletRoute
deriving DecidableEq, Repr

structure L2AuthHeaders where
  signer : SignerContext
  apiKey : String
  passphrase : String
  timestamp : String
  signature : String
deriving DecidableEq, Repr

inductive AuthError where
  | emptyField (name : String)
  | invalidHeaderValue (name : String)
  | signerMismatch
deriving DecidableEq, Repr

def AuthError.toString : AuthError → String
  | .emptyField name => s!"missing auth field: {name}"
  | .invalidHeaderValue name => s!"invalid auth header value: {name}"
  | .signerMismatch => "signature_type and wallet_route disagree"

def signatureTypeLabel : SignatureType → String
  | .eoa => "EOA"
  | .proxy => "POLY_PROXY"
  | .safe => "GNOSIS_SAFE"

def walletRouteLabel : WalletRoute → String
  | .eoa => "eoa"
  | .proxy => "proxy"
  | .safe => "safe"

def walletRouteToSignatureType : WalletRoute → SignatureType
  | .eoa => .eoa
  | .proxy => .proxy
  | .safe => .safe

def ensureField (field value : String) : Except AuthError Unit :=
  if (trim value).isEmpty then .error (.emptyField field) else .ok ()

/-- A header, if the text may stand in one. -/
def insertHeader (validHeaderValue : String → Bool) (name field value : String) :
    Except AuthError (String × String) := do
  ensureField field value
  if validHeaderValue value then return (name, value) else throw (.invalidHeaderValue field)

def buildL2AuthHeaders (validHeaderValue : String → Bool) (headers : L2AuthHeaders) :
    Except AuthError (List (String × String)) := do
  if walletRouteToSignatureType headers.signer.walletRoute ≠ headers.signer.signatureType then
    throw .signerMismatch
  ensureField "address" headers.signer.address
  ensureField "funder_address" headers.signer.funderAddress
  let address ← insertHeader validHeaderValue "poly-address" "address" headers.signer.address
  let apiKey ← insertHeader validHeaderValue "poly-api-key" "api_key" headers.apiKey
  let passphrase ← insertHeader validHeaderValue "poly-passphrase" "passphrase" headers.passphrase
  let timestamp ← insertHeader validHeaderValue "poly-timestamp" "timestamp" headers.timestamp
  let signature ← insertHeader validHeaderValue "poly-signature" "signature" headers.signature
  let signatureType ← insertHeader validHeaderValue "poly-signature-type" "signature_type"
    (signatureTypeLabel headers.signer.signatureType)
  return [address, apiKey, passphrase, timestamp, signature, signatureType]

def signerQuery (auth : L2AuthHeaders) : List (String × String) :=
  [("owner", auth.signer.address), ("funder", auth.signer.funderAddress),
    ("signature_type", signatureTypeLabel auth.signer.signatureType),
    ("wallet_route", walletRouteLabel auth.signer.walletRoute)]

structure GetRequest where
  url : String
  query : List (String × String)
  headers : List (String × String)
deriving DecidableEq, Repr

structure HttpResponse where
  status : Nat
  body : String
deriving DecidableEq, Repr

inductive OpenOrdersResponse where
  | items (orders : List OpenOrderSummary)
  | page (data : List OpenOrderSummary) (nextCursor : Option String) (limit count : Option Nat)
deriving DecidableEq, Repr

/-- What a client has of the wire, and the SDK if it is configured. -/
structure PolymarketRestClient where
  clobApi : Option ClobApi
  joinUrl : String → Except String String
  validHeaderValue : String → Bool
  http : GetRequest → Except String HttpResponse
  readOpenOrders : String → Except String OpenOrdersResponse

namespace PolymarketRestClient

variable (client : PolymarketRestClient)

def buildAuthenticatedGetRequest (path : String) (extraQuery : List (String × String))
    (auth : L2AuthHeaders) : Except (RestError String) GetRequest := do
  let headers ← (buildL2AuthHeaders client.validHeaderValue auth).mapError fun error ↦
    .auth error.toString
  let query := signerQuery auth ++ extraQuery
  let url ← (client.joinUrl path).mapError .url
  return { url, query, headers }

def execute (request : GetRequest) : Except (RestError String) HttpResponse := do
  let response ← (client.http request).mapError .http
  if 200 ≤ response.status ∧ response.status < 300 then return response
  else throw (.httpResponse response.status response.body)

def buildOpenOrdersRequest (auth : L2AuthHeaders) : Except (RestError String) GetRequest :=
  client.buildAuthenticatedGetRequest "data/orders" [] auth

def fetchOpenOrders (auth : L2AuthHeaders) : Except (RestError String) (List OpenOrderSummary) := do
  if let some clobApi := client.clobApi then
    let orders ← (clobApi.openOrders .openOrders).mapError .gateway
    return orders.map fun order ↦ { orderId := order.orderId, status := none, market := none }
  let request ← client.buildOpenOrdersRequest auth
  let response ← client.execute request
  let payload ← (client.readOpenOrders response.body).mapError .http
  match payload with
  | .items orders => return orders
  | .page data _ _ _ => return data

end PolymarketRestClient

/-! ## Providers -/

section Providers

variable (gateway : PolymarketGateway) (relayerAuth : RelayerAuth) (work : PendingReconcileWork)

def reconcileOrderRef (orderId : String) : Except String ReconcileOutcome := do
  let openOrders ← (gateway.openOrders .openOrders).mapError fun error ↦
    s!"open orders status error: {error}"
  if openOrders.any (·.orderId == orderId) then return .confirmedAuthoritative orderId
  return .stillPending

def reconcileOrderRefViaGatewayRuntime (runtime : Except String Unit) (orderId : String) :
    Except String ReconcileOutcome := do
  let answered ← (runOnSharedRuntime runtime (gateway.openOrders .openOrders)).mapError fun err ↦
    s!"open orders status error: {err}"
  let openOrders ← answered.mapError fun err ↦ s!"open orders status error: {err}"
  if openOrders.any (·.orderId == orderId) then return .confirmedAuthoritative orderId
  return .stillPending

def reconcileLiveAsync : Except String ReconcileOutcome := do
  match ← parsePendingRef work.pendingRef with
  | .tx txRef => reconcileTxRef gateway.recentTransactions relayerAuth work txRef
  | .order orderId => reconcileOrderRef gateway orderId

def reconcileLiveViaGatewayRuntime (runtime : Except String Unit) :
    Except String ReconcileOutcome := do
  match ← parsePendingRef work.pendingRef with
  | .tx txRef =>
      reconcileTxRefViaGatewayRuntime gateway.recentTransactions relayerAuth work txRef runtime
  | .order orderId => reconcileOrderRefViaGatewayRuntime gateway runtime orderId

/-- A provider asks by itself, or through the runtime that it was given. -/
def reconcileLive (runtimeHandle : Option (Except String Unit)) : Except String ReconcileOutcome :=
  match runtimeHandle with
  | some runtime => reconcileLiveViaGatewayRuntime gateway relayerAuth work runtime
  | none => reconcileLiveAsync gateway relayerAuth work

end Providers

/-! ## The venue -/

/-- The cursor that no page is at. -/
def END_CURSOR : String := "LTE="

/-- The pages of a listing from a cursor on, each naming the next. -/
inductive Chained (listing : Option String → OrdersPage) : Option String → List OrdersPage → Prop
  | last {cursor} (h : (listing cursor).nextCursor = none ∨
      (listing cursor).nextCursor = some END_CURSOR) : Chained listing cursor [listing cursor]
  | next {cursor next pages} (h : (listing cursor).nextCursor = some next) (hnext : next ≠ END_CURSOR)
      (hpages : Chained listing (some next) pages) :
      Chained listing cursor (listing cursor :: pages)

def OrdersPage.Lists (page : OrdersPage) (orderId : String) : Prop :=
  ∃ order ∈ page.data, order.orderId = orderId

/-- The listing is of these orders, in pages of any size. -/
def Serves (listing : Option String → OrdersPage) (openOrders : Finset String) : Prop :=
  ∃ pages, Chained listing none pages ∧
    ∀ orderId, orderId ∈ openOrders ↔ ∃ page ∈ pages, page.Lists orderId

/-- The first page is among them, whatever its size. -/
theorem Serves.mem_of_first {listing : Option String → OrdersPage} {openOrders : Finset String}
    (h : Serves listing openOrders) {orderId : String} (hfirst : (listing none).Lists orderId) :
    orderId ∈ openOrders := by
  obtain ⟨pages, hchained, hlists⟩ := h
  refine (hlists orderId).mpr ⟨listing none, ?_, hfirst⟩
  cases hchained with
  | last _ => exact List.mem_singleton_self _
  | next _ _ _ => exact List.mem_cons_self ..

/-- What the venue is asked for, it answers: the page at the cursor of the request. -/
structure Answers (listing : Option String → OrdersPage) (sdk : SdkClobClient)
    (client : PolymarketRestClient) (auth : L2AuthHeaders) : Prop where
  sdk : ∀ cursor, sdk.orders cursor = .ok (listing cursor)
  headers : ∃ headers, buildL2AuthHeaders client.validHeaderValue auth = .ok headers
  rest : ∃ url, client.joinUrl "data/orders" = .ok url ∧ ∀ request, request.url = url →
    ∃ response, client.http request = .ok response ∧ 200 ≤ response.status ∧ response.status < 300 ∧
      ∃ limit count, client.readOpenOrders response.body =
        .ok (.page (listing (request.query.lookup "next_cursor")).data
          (listing (request.query.lookup "next_cursor")).nextCursor limit count)

/-- No open order is missed, whoever asks and by whichever path. -/
structure NeverMissed (sdk : SdkClobClient) (client : PolymarketRestClient) (auth : L2AuthHeaders)
    (recentTransactions : RelayerAuth → Except String (List RelayerTransaction))
    (relayerAuth : RelayerAuth) (openOrders : Finset String) : Prop where
  overSdk : ∃ orders, LiveClobSdkApi.openOrders sdk .openOrders = .ok orders ∧
    ∀ orderId ∈ openOrders, ∃ order ∈ orders, order.orderId = orderId
  overRest : ∀ clobApi, clobApi = none ∨ clobApi = some (liveClobSdkApi sdk) →
    ∃ orders, { client with clobApi }.fetchOpenOrders auth = .ok orders ∧
      ∀ orderId ∈ openOrders, ∃ order ∈ orders, order.orderId = orderId
  confirmed : ∀ work orderId, parsePendingRef work.pendingRef = .ok (.order orderId) →
    orderId ∈ openOrders → ∀ runtimeHandle, runtimeHandle = none ∨ runtimeHandle = some (.ok ⟨⟩) →
      reconcileLive { clobApi := some (liveClobSdkApi sdk), recentTransactions } relayerAuth work
        runtimeHandle = .ok (.confirmedAuthoritative orderId)

/-! ## One page -/

section OnePage

variable {listing : Option String → OrdersPage} {sdk : SdkClobClient} {client : PolymarketRestClient}
  {auth : L2AuthHeaders} {gateway : PolymarketGateway} {relayerAuth : RelayerAuth}
  {work : PendingReconcileWork} {orderId : String}

/-- The SDK is asked for the first page. -/
theorem openOrders_eq_first (h : Answers listing sdk client auth) :
    LiveClobSdkApi.openOrders sdk .openOrders =
      .ok ((listing none).data.map fun row ↦ { orderId := row.orderId }) := by
  rw [LiveClobSdkApi.openOrders, h.sdk]
  rfl

/-- The request names no cursor. -/
theorem lookup_signerQuery : (signerQuery auth).lookup "next_cursor" = none := by
  simp only [signerQuery, List.lookup_eq_none_iff, List.forall_mem_cons]
  decide

theorem execute_eq_ok {request : GetRequest} {response : HttpResponse}
    (h : client.http request = .ok response) (hstatus : 200 ≤ response.status ∧ response.status < 300) :
    client.execute request = .ok response := by
  rw [PolymarketRestClient.execute, h]
  exact if_pos hstatus

/-- Over REST, too, the first page is all that is read. -/
theorem fetchOpenOrders_eq_first (h : Answers listing sdk client auth) :
    { client with clobApi := none }.fetchOpenOrders auth = .ok (listing none).data := by
  obtain ⟨headers, hheaders⟩ := h.headers
  obtain ⟨url, hurl, hanswer⟩ := h.rest
  obtain ⟨response, hhttp, hlow, hhigh, limit, count, hread⟩ :=
    hanswer { url, query := signerQuery auth, headers } rfl
  rw [lookup_signerQuery] at hread
  have hrequest : { client with clobApi := none }.buildOpenOrdersRequest auth =
      .ok { url, query := signerQuery auth, headers } := by
    rw [PolymarketRestClient.buildOpenOrdersRequest,
      PolymarketRestClient.buildAuthenticatedGetRequest, hheaders, List.append_nil, hurl]
    rfl
  have hexecute : { client with clobApi := none }.execute { url, query := signerQuery auth, headers } =
      .ok response := execute_eq_ok hhttp ⟨hlow, hhigh⟩
  rw [PolymarketRestClient.fetchOpenOrders, hrequest]
  simp only [bind, Except.bind, pure, Except.pure, hexecute, hread, Except.mapError]

/-- A client that has the SDK asks it. -/
theorem fetchOpenOrders_sdk (h : Answers listing sdk client auth) :
    { client with clobApi := some (liveClobSdkApi sdk) }.fetchOpenOrders auth =
      .ok ((listing none).data.map fun row ↦
        { orderId := row.orderId, status := none, market := none }) := by
  have hopen : (liveClobSdkApi sdk).openOrders .openOrders =
      .ok ((listing none).data.map fun row ↦ { orderId := row.orderId }) := openOrders_eq_first h
  rw [PolymarketRestClient.fetchOpenOrders]
  simp only [hopen, bind, Except.bind, pure, Except.pure, Except.mapError, List.map_map]
  rfl

/-- A runtime that runs the task gives the direct answer. -/
theorem reconcileOrderRefViaGatewayRuntime_eq (runtime : Except String Unit) :
    reconcileOrderRefViaGatewayRuntime gateway runtime orderId =
      match runtime with
      | .error error => .error s!"open orders status error: {error}"
      | .ok _ => reconcileOrderRef gateway orderId := by
  cases runtime with
  | error error => rfl
  | ok ran => rfl

/-- An order is confirmed exactly if it is among those that are listed. -/
theorem reconcileOrderRef_eq_confirmed_iff {openOrders : List PolymarketOpenOrderSummary}
    (h : gateway.openOrders .openOrders = .ok openOrders) :
    reconcileOrderRef gateway orderId = .ok (.confirmedAuthoritative orderId) ↔
      ∃ order ∈ openOrders, order.orderId = orderId := by
  have hany : openOrders.any (·.orderId == orderId) ↔ ∃ order ∈ openOrders, order.orderId = orderId := by
    simp only [List.any_eq_true, beq_iff_eq]
  rw [← hany, reconcileOrderRef, h]
  simp only [bind, Except.bind, pure, Except.pure, Except.mapError]
  split <;> simp [*]

theorem reconcileLive_eq_reconcileOrderRef
    (hparsed : parsePendingRef work.pendingRef = .ok (.order orderId))
    {runtimeHandle : Option (Except String Unit)}
    (hhandle : runtimeHandle = none ∨ runtimeHandle = some (.ok ⟨⟩)) :
    reconcileLive gateway relayerAuth work runtimeHandle = reconcileOrderRef gateway orderId := by
  rcases hhandle with rfl | rfl
  · rw [reconcileLive, reconcileLiveAsync, hparsed]
    rfl
  · rw [reconcileLive, reconcileLiveViaGatewayRuntime, hparsed]
    exact reconcileOrderRefViaGatewayRuntime_eq (.ok ⟨⟩)

end OnePage

/-- **No open order is missed exactly if the first page lists all of them.** -/
theorem neverMissed_iff (listing : Option String → OrdersPage) (openOrders : Finset String)
    (sdk : SdkClobClient) (client : PolymarketRestClient) (auth : L2AuthHeaders)
    (recentTransactions : RelayerAuth → Except String (List RelayerTransaction))
    (relayerAuth : RelayerAuth) (hserves : Serves listing openOrders)
    (hanswers : Answers listing sdk client auth) :
    NeverMissed sdk client auth recentTransactions relayerAuth openOrders ↔
      ∀ orderId, orderId ∈ openOrders ↔ (listing none).Lists orderId := by
  have hsdk := openOrders_eq_first hanswers
  constructor
  · intro h orderId
    refine ⟨fun hopen ↦ ?_, hserves.mem_of_first⟩
    obtain ⟨orders, horders, hall⟩ := h.overSdk
    rw [hsdk] at horders
    obtain ⟨order, horder, rfl⟩ := hall orderId hopen
    rw [← Except.ok.inj horders] at horder
    obtain ⟨row, hrow, rfl⟩ := List.mem_map.mp horder
    exact ⟨row, hrow, rfl⟩
  · intro hfirst
    have hlisted : ∀ {γ : Type} (summary : OpenOrderSummary → γ) (name : γ → String),
        (∀ row, name (summary row) = row.orderId) → ∀ orderId ∈ openOrders,
          ∃ order ∈ (listing none).data.map summary, name order = orderId := by
      intro γ summary name hname orderId hopen
      obtain ⟨row, hrow, rfl⟩ := (hfirst orderId).mp hopen
      exact ⟨_, List.mem_map_of_mem hrow, hname row⟩
    refine ⟨⟨_, hsdk, hlisted _ _ fun _ ↦ rfl⟩, ?_, ?_⟩
    · rintro clobApi (rfl | rfl)
      · exact ⟨_, fetchOpenOrders_eq_first hanswers, fun orderId ↦ (hfirst orderId).mp⟩
      · exact ⟨_, fetchOpenOrders_sdk hanswers, hlisted _ _ fun _ ↦ rfl⟩
    · intro work orderId hparsed hopen runtimeHandle hhandle
      have hgateway : PolymarketGateway.openOrders
          { clobApi := some (liveClobSdkApi sdk), recentTransactions } .openOrders =
            .ok ((listing none).data.map fun row ↦ { orderId := row.orderId }) := hsdk
      rw [reconcileLive_eq_reconcileOrderRef hparsed hhandle,
        reconcileOrderRef_eq_confirmed_iff hgateway]
      exact hlisted _ PolymarketOpenOrderSummary.orderId (fun _ ↦ rfl) orderId hopen

/-! ## Two pages -/

section Sample

variable (first second : OrdersPage)

def sampleListing (cursor : Option String) : OrdersPage :=
  if cursor = some "MQ==" then second else first

def sampleSdkClient : SdkClobClient where
  orders cursor := .ok (sampleListing first second cursor)

def sampleRestClient : PolymarketRestClient where
  clobApi := none
  joinUrl path := .ok path
  validHeaderValue _ := true
  http request :=
    .ok ⟨200, if request.query.lookup "next_cursor" = some "MQ==" then "second" else "first"⟩
  readOpenOrders body :=
    let page := if body = "second" then second else first
    .ok (.page page.data page.nextCursor none none)

def sampleAuth : L2AuthHeaders where
  signer :=
    { address := "0xowner", funderAddress := "0xfunder", signatureType := .eoa, walletRoute := .eoa }
  apiKey := "key"
  passphrase := "pass"
  timestamp := "1700000000"
  signature := "sig"

theorem answers_sample : Answers (sampleListing first second) (sampleSdkClient first second)
    (sampleRestClient first second) sampleAuth where
  sdk _ := rfl
  headers := ⟨_, rfl⟩
  rest := by
    refine ⟨_, rfl, fun request _ ↦ ⟨_, rfl, le_rfl, ?_, none, none, ?_⟩⟩
    · show 200 < 300
      decide
    by_cases hcursor : request.query.lookup "next_cursor" = some "MQ=="
    · simp [sampleRestClient, sampleListing, hcursor]
    · simp [sampleRestClient, sampleListing, hcursor]

end Sample

def samplePage (orderId nextCursor : String) : OrdersPage where
  data := [{ orderId, status := some "live", market := none }]
  nextCursor := some nextCursor

theorem neverMissed_iff_onePage :
    NeverMissed (sampleSdkClient (samplePage "order-1" "LTE=") (samplePage "order-2" "LTE="))
        (sampleRestClient (samplePage "order-1" "LTE=") (samplePage "order-2" "LTE=")) sampleAuth
        (fun _ ↦ .ok []) (.relayerApiKey "key" "0xowner") {"order-1"} ↔
      ∀ orderId, orderId ∈ ({"order-1"} : Finset String) ↔
        (samplePage "order-1" "LTE=").Lists orderId := by
  refine neverMissed_iff (sampleListing (samplePage "order-1" "LTE=") (samplePage "order-2" "LTE="))
    {"order-1"} _ _ _ _ _ ⟨_, .last (.inr rfl), fun orderId ↦ ?_⟩ (answers_sample _ _)
  simp [OrdersPage.Lists, sampleListing, samplePage, eq_comm]

/-- The second of two orders is open, and waits for a confirmation that does not come. -/
theorem secondPage_stillPending :
    Serves (sampleListing (samplePage "order-1" "MQ==") (samplePage "order-2" "LTE="))
        {"order-1", "order-2"} ∧
      Answers (sampleListing (samplePage "order-1" "MQ==") (samplePage "order-2" "LTE="))
        (sampleSdkClient (samplePage "order-1" "MQ==") (samplePage "order-2" "LTE="))
        (sampleRestClient (samplePage "order-1" "MQ==") (samplePage "order-2" "LTE=")) sampleAuth ∧
      reconcileLive
        { clobApi := some (liveClobSdkApi
            (sampleSdkClient (samplePage "order-1" "MQ==") (samplePage "order-2" "LTE=")))
          recentTransactions := fun _ ↦ .ok [] }
        (.relayerApiKey "key" "0xowner")
        { pendingRef := "order:order-2", route := "neg-risk", scope := "family-a" } none =
          .ok .stillPending ∧
      ¬ NeverMissed (sampleSdkClient (samplePage "order-1" "MQ==") (samplePage "order-2" "LTE="))
        (sampleRestClient (samplePage "order-1" "MQ==") (samplePage "order-2" "LTE=")) sampleAuth
        (fun _ ↦ .ok []) (.relayerApiKey "key" "0xowner") {"order-1", "order-2"} := by
  have hanswers := answers_sample (samplePage "order-1" "MQ==") (samplePage "order-2" "LTE=")
  refine ⟨⟨_, .next rfl (by decide) (.last (.inr rfl)), fun orderId ↦ ?_⟩, hanswers, by decide,
    fun h ↦ ?_⟩
  · simp [OrdersPage.Lists, sampleListing, samplePage, eq_comm]
  · obtain ⟨orders, horders, hall⟩ := h.overSdk
    rw [openOrders_eq_first hanswers] at horders
    obtain ⟨order, horder, hid⟩ := hall "order-2" (by decide)
    rw [← Except.ok.inj horders] at horder
    simp [sampleListing, samplePage] at horder
    simp [horder] at hid

end AxiomArb.VenuePolymarket
