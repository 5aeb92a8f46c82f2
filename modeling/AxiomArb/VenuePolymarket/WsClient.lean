import AxiomArb.VenuePolymarket.WsMarket

/-!
# The stream of market events

A client over a transport answers each request for the next event from its queue of pending
events, or else from the next message that has any.  Along any calls and arrivals the answers
are what the messages give, in their order (`run_answers`).

## Honest boundary

* Clients that collect their events from a gateway are left out.
* A request that finds no message waits.  It is modelled as an answer that is not given yet,
  as it goes on where it stands once a message arrives.
* What UTF-8 errors say is a parameter.
-/

namespace AxiomArb.VenuePolymarket

open Library
open AppLive (trim)

structure WsCloseFrame where
  code : UInt16
  label : String
  reason : String
deriving DecidableEq, Repr

inductive WsTransportMessage where
  | text (text : String)
  | binary (bytes : List UInt8)
  | ping
  | pong
  | close (frame : WsCloseFrame)
deriving DecidableEq, Repr

inductive WsClientError where
  | transport (message : String)
  | parse (error : WsParseError)
deriving DecidableEq, Repr

/-- The payload that stands for a control word. -/
def controlPayload (word : String) : String := (Json.object [("event", .string word)]).text

def transportMessageToPayload (utf8Error : List UInt8 → String) :
    WsTransportMessage → Except WsClientError String
  | .text text =>
      let trimmed := trim text
      if eqIgnoreAsciiCase trimmed "PING" then
        .ok (controlPayload "PING")
      else if eqIgnoreAsciiCase trimmed "PONG" then
        .ok (controlPayload "PONG")
      else
        .ok text
  | .binary bytes =>
      match String.fromUTF8? ⟨bytes.toArray⟩ with
      | some text => .ok text
      | none => .error (.transport (utf8Error bytes))
  | .ping => .ok (controlPayload "PING")
  | .pong => .ok (controlPayload "PONG")
  | .close frame =>
      if frame.reason.isEmpty then
        .error (.transport s!"websocket closed with code {frame.code} ({frame.label})")
      else
        .error (.transport
          s!"websocket closed with code {frame.code} ({frame.label}): {frame.reason}")

section Client

variable {τ : Type}

/-- A client over a transport, with what the transport still has to give. -/
structure PolymarketWsClient (τ : Type) where
  pendingMarketEvents : List (MarketWsEvent τ)
  marketTransport : List (Except WsClientError WsTransportMessage)

variable (ws : WsLibrary τ) (utf8Error : List UInt8 → String)

/-- The events of what the transport gives. -/
def marketEvents (received : Except WsClientError WsTransportMessage) :
    Except WsClientError (List (MarketWsEvent τ)) := do
  let message ← received
  let message ← transportMessageToPayload utf8Error message
  (parseMarketMessages ws message).mapError .parse

/-- Read messages up to the first that has an event, or cannot be read. -/
def readMarketEvent : List (Except WsClientError WsTransportMessage) →
    Option (Except WsClientError (MarketWsEvent τ)) × PolymarketWsClient τ
  | [] => (none, { pendingMarketEvents := [], marketTransport := [] })
  | received :: transport =>
      match marketEvents ws utf8Error received with
      | .error error => (some (.error error),
          { pendingMarketEvents := [], marketTransport := transport })
      | .ok (event :: events) => (some (.ok event),
          { pendingMarketEvents := events, marketTransport := transport })
      | .ok [] => readMarketEvent transport

namespace PolymarketWsClient

def withTransports : PolymarketWsClient τ := { pendingMarketEvents := [], marketTransport := [] }

/-- The next event, unless the client has to wait for it. -/
def nextMarketEvent (client : PolymarketWsClient τ) :
    Option (Except WsClientError (MarketWsEvent τ)) × PolymarketWsClient τ :=
  match client.pendingMarketEvents with
  | event :: events => (some (.ok event), { client with pendingMarketEvents := events })
  | [] => readMarketEvent ws utf8Error client.marketTransport

end PolymarketWsClient

inductive WsStep where
  | receive (received : Except WsClientError WsTransportMessage)
  | next

/-- The answers that were given in a run of calls and arrivals, and the client after it. -/
def runSteps : PolymarketWsClient τ → List WsStep →
    List (Except WsClientError (MarketWsEvent τ)) × PolymarketWsClient τ
  | client, [] => ([], client)
  | client, .receive received :: steps =>
      runSteps { client with marketTransport := client.marketTransport ++ [received] } steps
  | client, .next :: steps =>
      let (answer, client) := client.nextMarketEvent ws utf8Error
      let (answers, client) := runSteps client steps
      (answer.toList ++ answers, client)

/-! ## What the messages give -/

/-- What one message gives: its events, or its one error. -/
def given (received : Except WsClientError WsTransportMessage) :
    List (Except WsClientError (MarketWsEvent τ)) :=
  match marketEvents ws utf8Error received with
  | .ok events => events.map .ok
  | .error error => [.error error]

/-- What a client has still to give. -/
def PolymarketWsClient.left (client : PolymarketWsClient τ) :
    List (Except WsClientError (MarketWsEvent τ)) :=
  client.pendingMarketEvents.map .ok ++ client.marketTransport.flatMap (given ws utf8Error)

variable {ws utf8Error} {client : PolymarketWsClient τ}

theorem readMarketEvent_left (transport : List (Except WsClientError WsTransportMessage)) :
    (readMarketEvent ws utf8Error transport).1.toList ++
        (readMarketEvent ws utf8Error transport).2.left ws utf8Error =
      transport.flatMap (given ws utf8Error) := by
  induction transport with
  | nil => rfl
  | cons received transport ih =>
      rw [readMarketEvent, List.flatMap_cons, given]
      cases marketEvents ws utf8Error received with
      | error error => rfl
      | ok events =>
          cases events with
          | nil => exact ih
          | cons event events => rfl

/-- A call gives the next of what is left, and leaves the rest. -/
theorem PolymarketWsClient.nextMarketEvent_left (client : PolymarketWsClient τ) :
    (client.nextMarketEvent ws utf8Error).1.toList ++
        (client.nextMarketEvent ws utf8Error).2.left ws utf8Error =
      client.left ws utf8Error := by
  obtain ⟨pending, transport⟩ := client
  cases pending with
  | nil => exact readMarketEvent_left transport
  | cons event events => rfl

/-- A client waits only if nothing is left. -/
theorem PolymarketWsClient.nextMarketEvent_eq_none_iff (client : PolymarketWsClient τ) :
    (client.nextMarketEvent ws utf8Error).1 = none ↔ client.left ws utf8Error = [] := by
  have hwaits : ∀ transport, (readMarketEvent ws utf8Error transport).1 = none →
      (readMarketEvent ws utf8Error transport).2 = withTransports := by
    intro transport
    induction transport with
    | nil => exact fun _ ↦ rfl
    | cons received transport ih =>
        rw [readMarketEvent]
        cases marketEvents ws utf8Error received with
        | error error => exact nofun
        | ok events =>
            cases events with
            | nil => exact ih
            | cons event events => exact nofun
  have hleft : _ = client.left ws utf8Error := client.nextMarketEvent_left
  constructor
  · intro hnone
    obtain ⟨pending, transport⟩ := client
    cases pending with
    | nil =>
        have hclient : (readMarketEvent ws utf8Error transport).2 = withTransports :=
          hwaits transport hnone
        rw [← hleft, hnone, nextMarketEvent, hclient]
        rfl
    | cons event events => cases hnone
  · intro hnil
    rw [hnil] at hleft
    exact Option.toList_eq_nil_iff.mp (List.append_eq_nil_iff.mp hleft).1

def WsStep.received : WsStep → Option (Except WsClientError WsTransportMessage)
  | .receive received => some received
  | .next => none

/-- What is answered and what is left are what the messages give, in their order. -/
theorem run_answers (client : PolymarketWsClient τ) (steps : List WsStep) :
    (runSteps ws utf8Error client steps).1 ++ (runSteps ws utf8Error client steps).2.left ws utf8Error =
      client.left ws utf8Error ++ (steps.filterMap WsStep.received).flatMap (given ws utf8Error) := by
  induction steps generalizing client with
  | nil => exact (List.append_nil _).symm
  | cons step steps ih =>
      cases step with
      | receive received =>
          have hreceived : (WsStep.receive received :: steps).filterMap WsStep.received =
              received :: steps.filterMap WsStep.received := rfl
          rw [runSteps, ih, hreceived, List.flatMap_cons, PolymarketWsClient.left,
            PolymarketWsClient.left, List.flatMap_append, List.flatMap_singleton]
          simp only [List.append_assoc]
      | next =>
          rw [runSteps, List.filterMap_cons_none rfl]
          simp only [List.append_assoc]
          rw [ih, ← List.append_assoc, client.nextMarketEvent_left]

theorem runSteps_receive (messages : List (Except WsClientError WsTransportMessage))
    (steps : List WsStep) :
    runSteps ws utf8Error client (messages.map .receive ++ steps) =
      runSteps ws utf8Error
        { client with marketTransport := client.marketTransport ++ messages } steps := by
  induction messages generalizing client with
  | nil => rw [List.map_nil, List.nil_append, List.append_nil]
  | cons received messages ih =>
      rw [List.map_cons, List.cons_append, runSteps, ih]
      simp only [List.append_assoc, List.singleton_append]

/-- Calls give the first of what is left, as far as it goes. -/
theorem run_calls (client : PolymarketWsClient τ) (n : Nat) :
    (runSteps ws utf8Error client (List.replicate n .next)).1 =
      (client.left ws utf8Error).take n := by
  induction n generalizing client with
  | zero => exact (List.take_zero).symm
  | succ n ih =>
      rw [List.replicate_succ, runSteps]
      simp only [ih]
      have hleft : _ = client.left ws utf8Error := client.nextMarketEvent_left
      cases hanswer : (client.nextMarketEvent ws utf8Error).1 with
      | none =>
          have hnil := client.nextMarketEvent_eq_none_iff.mp hanswer
          rw [hnil] at hleft ⊢
          rw [(List.append_eq_nil_iff.mp hleft).2, List.take_nil, List.take_nil]
          rfl
      | some answer =>
          rw [hanswer] at hleft
          rw [← hleft, Option.toList_some, List.singleton_append, List.singleton_append,
            List.take_succ_cons]

/-! ## Batches -/

/-- A message with a batch of price changes. -/
structure IsPriceBatch (ws : WsLibrary τ) (message : String) (changes : List PriceChangeEntry) :
    Prop where
  notPing : eqIgnoreAsciiCase (trim message) "PING" = false
  notPong : eqIgnoreAsciiCase (trim message) "PONG" = false
  envelope : ∃ envelope, ws.envelope message = some envelope ∧
    envelope.normalizedMarketEvent = .ok "PRICE_CHANGE" ∧ envelope.priceChanges = some changes

/-- A batch gives an event for each of its entries, or is rejected. -/
theorem IsPriceBatch.parse {message : String} {changes : List PriceChangeEntry}
    (h : IsPriceBatch ws message changes) :
    (∃ error, parseMarketMessages ws message = .error error) ∨
      ∃ events, parseMarketMessages ws message = .ok events ∧ events.length = changes.length := by
  obtain ⟨envelope, henvelope, hevent, hchanges⟩ := h.envelope
  cases hparse : parseMarketMessages ws message with
  | error error => exact .inl ⟨error, rfl⟩
  | ok events =>
      refine .inr ⟨events, rfl, ?_⟩
      rw [parseMarketMessages] at hparse
      simp only [h.notPing, h.notPong, henvelope] at hparse
      rw [if_neg Bool.false_ne_true, if_neg Bool.false_ne_true] at hparse
      obtain ⟨_, ⟨⟩, hparse⟩ := bind_eq_ok.mp hparse
      obtain ⟨eventType, htype, hparse⟩ := bind_eq_ok.mp hparse
      obtain ⟨eventTs, -, hparse⟩ := bind_eq_ok.mp hparse
      obtain rfl : "PRICE_CHANGE" = eventType := Except.ok.inj (hevent.symm.trans htype)
      have hevents : changes.mapM (PriceChangeEntry.priceChange eventTs) = .ok events := by
        rw [← hparse, MarketEnvelope.events, hchanges]
        rfl
      have hlength := congrArg List.length (mapM_eq_ok_iff.mp hevents)
      rwa [List.length_map, List.length_map, eq_comm] at hlength

end Client

/-- **The market stream is lossless.**  The answers to calls are what the messages give, in
their order and each once, whatever arrives between the calls; a call waits only if all of it
was given; and a batch of price changes gives an event for each entry or is rejected. -/
theorem market_stream_lossless {τ : Type} (ws : WsLibrary τ) (utf8Error : List UInt8 → String) :
    (∀ (messages : List (Except WsClientError WsTransportMessage)) (n : Nat),
      (runSteps ws utf8Error .withTransports
        (messages.map .receive ++ List.replicate n .next)).1 =
          (messages.flatMap (given ws utf8Error)).take n) ∧
      (∀ steps,
        (runSteps ws utf8Error .withTransports steps).1 ++
            (runSteps ws utf8Error .withTransports steps).2.left ws utf8Error =
          (steps.filterMap WsStep.received).flatMap (given ws utf8Error)) ∧
      (∀ client : PolymarketWsClient τ, (client.nextMarketEvent ws utf8Error).1 = none ↔
        client.left ws utf8Error = []) ∧
      ∀ message changes, IsPriceBatch ws message changes →
        (∃ error, parseMarketMessages ws message = .error error) ∨
          ∃ events, parseMarketMessages ws message = .ok events ∧
            events.length = changes.length := by
  refine ⟨?_, ?_, fun client ↦ client.nextMarketEvent_eq_none_iff, fun _ _ h ↦ h.parse⟩
  · intro messages n
    rw [runSteps_receive, run_calls]
    rfl
  · intro steps
    exact run_answers _ steps

def samplePriceChange (assetId side : String) : Json :=
  .object [("asset_id", .string assetId), ("price", .string "0.50"), ("side", .string side)]

def samplePriceBatch : Json :=
  .object
    [("price_changes",
        .array [samplePriceChange "token-yes" "BUY", samplePriceChange "token-no" "SELL"]),
      ("event_type", .string "price_change")]

def samplePriceChanges : List PriceChangeEntry :=
  [{ assetId := "token-yes", price := .string "0.50", side := some (.string "BUY") },
    { assetId := "token-no", price := .string "0.50", side := some (.string "SELL") }]

theorem isPriceBatch_sample :
    IsPriceBatch (sampleWs samplePriceBatch) samplePriceBatch.text samplePriceChanges := by
  have hevent : normalizeEvent "price_change" = "PRICE_CHANGE" := by
    rw [normalizeEvent, toUpper_eq]
    decide
  exact ⟨eqIgnoreAsciiCase_trim_object _ (by decide), eqIgnoreAsciiCase_trim_object _ (by decide), _,
    envelope_sampleWs samplePriceBatch, congrArg Except.ok hevent, rfl⟩

theorem market_stream_lossless_batch :
    (∃ error, parseMarketMessages (sampleWs samplePriceBatch) samplePriceBatch.text =
        .error error) ∨
      ∃ events, parseMarketMessages (sampleWs samplePriceBatch) samplePriceBatch.text =
        .ok events ∧ events.length = samplePriceChanges.length :=
  (market_stream_lossless (sampleWs samplePriceBatch) (fun _ ↦ "invalid utf-8")).2.2.2
    samplePriceBatch.text samplePriceChanges isPriceBatch_sample

end AxiomArb.VenuePolymarket
