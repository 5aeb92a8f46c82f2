import AxiomArb.AppLive.RouteArtifacts
import AxiomArb.Library.JsonText
import AxiomArb.Library.Slices
import AxiomArb.VenuePolymarket.Metadata
import Mathlib.Order.Bounds.Basic

/-!
# Messages of the market channel

A message is an envelope of optional fields whose event type says which of them are read.
A book message gives the first price of either side, so the prices are best exactly if no
level beats the first of its side (`best_prices_iff`).

## Honest boundary

* Reading JSON from text, and the words of its errors, are those of a library, and so is
  reading a timestamp.
* An object lists its members as they stand in the message, repeated ones included.
-/

namespace AxiomArb.VenuePolymarket

open Library
open AppLive (trim readVec)

/-! ## Events -/

section Events

variable (τ : Type)

structure MarketBookUpdate where
  assetId : String
  bestBid : Option String
  bestAsk : Option String
  eventTs : Option τ
deriving DecidableEq, Repr

structure MarketPriceChangeUpdate where
  assetId : String
  price : String
  side : Option String
  eventTs : Option τ
deriving DecidableEq, Repr

structure MarketTradePriceUpdate where
  assetId : String
  price : String
  size : Option String
  eventTs : Option τ
deriving DecidableEq, Repr

structure MarketTickSizeChangeUpdate where
  assetId : String
  previousTickSize : Option String
  tickSize : String
  eventTs : Option τ
deriving DecidableEq, Repr

structure MarketLifecycleUpdate where
  marketId : Option String
  assetId : Option String
  status : String
  eventTs : Option τ
deriving DecidableEq, Repr

inductive MarketWsEvent where
  | book (update : MarketBookUpdate τ)
  | priceChange (update : MarketPriceChangeUpdate τ)
  | lastTradePrice (update : MarketTradePriceUpdate τ)
  | tickSizeChange (update : MarketTickSizeChangeUpdate τ)
  | lifecycle (update : MarketLifecycleUpdate τ)
  | ping
  | pong
deriving DecidableEq, Repr

end Events

inductive WsParseError where
  | json (error : String)
  | missingField (field : String)
  | unknownEvent (event : String)
  | invalidField (field value : String)
  | invalidTimestamp (value : String)
deriving DecidableEq, Repr

/-! ## Envelopes -/

structure BookLevel where
  price : Json
deriving DecidableEq

structure PriceChangeEntry where
  assetId : String
  price : Json
  side : Option Json
deriving DecidableEq

structure MarketEnvelope where
  event : Option String
  eventType : Option String
  assetId : Option String
  marketId : Option String
  market : Option String
  bids : Option (List BookLevel)
  asks : Option (List BookLevel)
  priceChanges : Option (List PriceChangeEntry)
  bestBid : Option Json
  bestAsk : Option Json
  price : Option Json
  side : Option Json
  lastTradePrice : Option Json
  size : Option Json
  tickSize : Option Json
  previousTickSize : Option Json
  status : Option Json
  ts : Option Json
deriving DecidableEq

/-- The one member under any of the names, if there is one; no record has two. -/
def recordField (members : List (String × Json)) (names : List String) : Option (Option Json) :=
  match members.filter fun member ↦ member.1 ∈ names with
  | [] => some none
  | [member] => some (some member.2)
  | _ => none

/-- The fields of a record: an object's by their names, an array's in order. -/
def recordFields (names : List (List String)) : Json → Option (List (Option Json))
  | .object members => names.mapM (recordField members)
  | .array items =>
      if items.length ≤ names.length then
        some (items.map some ++ List.replicate (names.length - items.length) none)
      else none
  | _ => none

/-- A field that may be left out, or null. -/
def optionalField {α : Type} (read : Json → Option α) : Option Json → Option (Option α)
  | none | some .null => some none
  | some value => (read value).map some

def readBookLevel (value : Json) : Option BookLevel := do
  match ← recordFields [["price"]] value with
  | [price] => return { price := ← price }
  | _ => none

def readPriceChangeEntry (value : Json) : Option PriceChangeEntry := do
  match ← recordFields [["asset_id"], ["price"], ["side"]] value with
  | [assetId, price, side] =>
      return {
        assetId := ← (← assetId).asStr
        price := ← price
        side := ← optionalField some side }
  | _ => none

/-- The fields of an envelope, in their order, under all of their names. -/
def envelopeFields : List (List String) :=
  [["event"], ["event_type"], ["asset_id"], ["market_id"], ["market"], ["bids"], ["asks"],
    ["price_changes"], ["best_bid"], ["best_ask"], ["price"], ["side"], ["last_trade_price"],
    ["size"], ["tick_size", "new_tick_size"], ["previous_tick_size", "old_tick_size"], ["status"],
    ["ts", "timestamp"]]

def readMarketEnvelope (value : Json) : Option MarketEnvelope := do
  match ← recordFields envelopeFields value with
  | [event, eventType, assetId, marketId, market, bids, asks, priceChanges, bestBid, bestAsk, price,
      side, lastTradePrice, size, tickSize, previousTickSize, status, ts] =>
      return {
        event := ← optionalField Json.asStr event
        eventType := ← optionalField Json.asStr eventType
        assetId := ← optionalField Json.asStr assetId
        marketId := ← optionalField Json.asStr marketId
        market := ← optionalField Json.asStr market
        bids := ← optionalField (readVec readBookLevel) bids
        asks := ← optionalField (readVec readBookLevel) asks
        priceChanges := ← optionalField (readVec readPriceChangeEntry) priceChanges
        bestBid := ← optionalField some bestBid
        bestAsk := ← optionalField some bestAsk
        price := ← optionalField some price
        side := ← optionalField some side
        lastTradePrice := ← optionalField some lastTradePrice
        size := ← optionalField some size
        tickSize := ← optionalField some tickSize
        previousTickSize := ← optionalField some previousTickSize
        status := ← optionalField some status
        ts := ← optionalField some ts }
  | _ => none

/-! ## Values -/

def optionalString (value : Option Json) (field : String) : Except WsParseError (Option String) :=
  match value with
  | none => .ok none
  | some (.string text) => .ok (some text)
  | some (.number text) => .ok (some text)
  | some (.bool value) => .ok (some (toString value))
  | some other => .error (.invalidField field other.text)

def requiredValue (value : Option Json) (field : String) : Except WsParseError String := do
  match ← optionalString value field with
  | some text => return text
  | none => throw (.missingField field)

def bestBookPrice (direct : Option Json) (levels : Option (List BookLevel)) (field : String) :
    Except WsParseError (Option String) :=
  if direct.isSome then
    optionalString direct field
  else
    match levels with
    | none => .ok none
    | some [] => .ok none
    | some (first :: _) => optionalString (some first.price) field

/-- A signed number of 64 bits. -/
def parseI64 (text : String) : Option Int := do
  let number ← match text.toList with
    | '-' :: digits =>
        if digits ≠ [] ∧ digits.all Char.isDigit then some (-Int.ofNat (Nat.ofDigitChars 10 digits 0))
        else none
    | _ => (parseUnsigned text).map Int.ofNat
  if -2 ^ 63 ≤ number ∧ number < 2 ^ 63 then some number else none

/-- The libraries that read JSON and timestamps. -/
structure WsLibrary (τ : Type) where
  fromStr : String → Option Json
  errorMessage : String → String
  parseFromRfc3339 : String → Option τ
  timestampMillisOpt : Int → Option τ
  timestampOpt : Int → Option τ

section Parse

variable {τ : Type} (ws : WsLibrary τ)

namespace WsLibrary

def envelope (message : String) : Option MarketEnvelope :=
  (ws.fromStr message).bind readMarketEnvelope

def parseRawTimestamp (raw : String) : Except WsParseError (Option τ) :=
  match ws.parseFromRfc3339 raw with
  | some parsed => .ok (some parsed)
  | none =>
      match parseI64 raw with
      | none => .error (.invalidTimestamp raw)
      | some numeric =>
          match
            if 13 ≤ raw.utf8ByteSize then ws.timestampMillisOpt numeric else ws.timestampOpt numeric
          with
          | some parsed => .ok (some parsed)
          | none => .error (.invalidTimestamp raw)

def parseTimestamp : Option Json → Except WsParseError (Option τ)
  | none => .ok none
  | some (.string raw) => ws.parseRawTimestamp raw
  | some (.number raw) => ws.parseRawTimestamp raw
  | some other => .error (.invalidField "timestamp" other.text)

end WsLibrary

def normalizeEvent (value : String) : String := (trim value).toUpper

namespace MarketEnvelope

variable (envelope : MarketEnvelope)

def normalizedMarketEvent : Except WsParseError String :=
  match envelope.event <|> envelope.eventType with
  | some event => .ok (normalizeEvent event)
  | none => .error (.missingField "event_type")

def requiredAssetId : Except WsParseError String :=
  match envelope.assetId with
  | some assetId => .ok assetId
  | none => .error (.missingField "asset_id")

end MarketEnvelope

/-! ## Parsing -/

def PriceChangeEntry.priceChange (eventTs : Option τ) (change : PriceChangeEntry) :
    Except WsParseError (MarketWsEvent τ) := do
  return .priceChange {
    assetId := change.assetId
    price := ← requiredValue (some change.price) "price"
    side := ← optionalString change.side "side"
    eventTs }

namespace MarketEnvelope

variable (envelope : MarketEnvelope) (eventTs : Option τ)

def book : Except WsParseError (MarketBookUpdate τ) := do
  return {
    assetId := ← envelope.requiredAssetId
    bestBid := ← bestBookPrice envelope.bestBid envelope.bids "bids"
    bestAsk := ← bestBookPrice envelope.bestAsk envelope.asks "asks"
    eventTs }

def priceChange : Except WsParseError (MarketPriceChangeUpdate τ) := do
  return {
    assetId := ← envelope.requiredAssetId
    price := ← requiredValue envelope.price "price"
    side := ← optionalString envelope.side "side"
    eventTs }

def tradePrice : Except WsParseError (MarketTradePriceUpdate τ) := do
  return {
    assetId := ← envelope.requiredAssetId
    price := ← requiredValue (envelope.lastTradePrice <|> envelope.price) "last_trade_price"
    size := ← optionalString envelope.size "size"
    eventTs }

def tickSizeChange : Except WsParseError (MarketTickSizeChangeUpdate τ) := do
  return {
    assetId := ← envelope.requiredAssetId
    previousTickSize := ← optionalString envelope.previousTickSize "previous_tick_size"
    tickSize := ← requiredValue envelope.tickSize "tick_size"
    eventTs }

def lifecycle : Except WsParseError (MarketLifecycleUpdate τ) := do
  return {
    marketId := envelope.marketId
    assetId := envelope.assetId
    status := ← requiredValue envelope.status "status"
    eventTs }

/-- The events of an envelope. -/
def events (eventType : String) : Except WsParseError (List (MarketWsEvent τ)) :=
  if eventType = "PING" then
    .ok [.ping]
  else if eventType = "PONG" then
    .ok [.pong]
  else if eventType = "BOOK" ∨ eventType = "BEST_BID_ASK" then
    (envelope.book eventTs).map ([.book ·])
  else if eventType = "PRICE_CHANGE" then
    match envelope.priceChanges with
    | some changes => changes.mapM (PriceChangeEntry.priceChange eventTs)
    | none => (envelope.priceChange eventTs).map ([.priceChange ·])
  else if eventType = "LAST_TRADE_PRICE" then
    (envelope.tradePrice eventTs).map ([.lastTradePrice ·])
  else if eventType = "TICK_SIZE_CHANGE" then
    (envelope.tickSizeChange eventTs).map ([.tickSizeChange ·])
  else if eventType ∈ ["LIFECYCLE", "STATUS", "MARKET_STATUS"] then
    (envelope.lifecycle eventTs).map ([.lifecycle ·])
  else if eventType ∈ ["NEW_MARKET", "MARKET_RESOLVED"] then
    .ok [.lifecycle {
      marketId := envelope.marketId <|> envelope.market
      assetId := envelope.assetId
      status := eventType
      eventTs }]
  else
    .error (.unknownEvent eventType)

end MarketEnvelope

def parseMarketMessages (message : String) : Except WsParseError (List (MarketWsEvent τ)) :=
  let trimmed := trim message
  if eqIgnoreAsciiCase trimmed "PING" then
    .ok [.ping]
  else if eqIgnoreAsciiCase trimmed "PONG" then
    .ok [.pong]
  else do
    let envelope ← match ws.envelope message with
      | some envelope => .ok envelope
      | none => throw (.json (ws.errorMessage message))
    let eventType ← envelope.normalizedMarketEvent
    let eventTs ← ws.parseTimestamp envelope.ts
    envelope.events eventTs eventType

def parseMarketMessage (message : String) : Except WsParseError (MarketWsEvent τ) := do
  match ← parseMarketMessages ws message with
  | event :: _ => return event
  | [] => throw (.unknownEvent "")

end Parse

/-! ## What a book message says -/

section Book

variable {τ : Type} {ws : WsLibrary τ} {envelope : MarketEnvelope} {message eventType : String}
  {eventTs : Option τ} {events : List (MarketWsEvent τ)} {update : MarketBookUpdate τ}

/-- A message with an envelope gives the events of that envelope. -/
theorem parseMarketMessages_of_envelope (henvelope : ws.envelope message = some envelope)
    (h : parseMarketMessages ws message = .ok events) :
    events = [.ping] ∨ events = [.pong] ∨
      ∃ eventTs eventType, envelope.events eventTs eventType = .ok events := by
  rw [parseMarketMessages] at h
  simp only [henvelope] at h
  split at h
  · exact .inl (Except.ok.inj h).symm
  · split at h
    · exact .inr (.inl (Except.ok.inj h).symm)
    · obtain ⟨_, ⟨⟩, h⟩ := bind_eq_ok.mp h
      obtain ⟨eventType, -, h⟩ := bind_eq_ok.mp h
      obtain ⟨eventTs, -, h⟩ := bind_eq_ok.mp h
      exact .inr (.inr ⟨eventTs, eventType, h⟩)

/-- Only the event types of a book give one. -/
theorem MarketEnvelope.book_of_events (envelope : MarketEnvelope)
    (h : envelope.events eventTs eventType = .ok [.book update]) :
    envelope.book eventTs = .ok update := by
  rw [events] at h
  split at h
  · cases h
  split at h
  · cases h
  split at h
  · obtain ⟨update', hbook, heq⟩ := map_eq_ok.mp h
    obtain rfl : update' = update := by simpa using heq
    exact hbook
  split at h
  · split at h
    · obtain ⟨change, -, hchange⟩ := (mem_values_iff h).mp (List.mem_singleton_self _)
      obtain ⟨_, -, hchange⟩ := bind_eq_ok.mp hchange
      obtain ⟨_, -, hchange⟩ := bind_eq_ok.mp hchange
      cases hchange
    · obtain ⟨_, -, heq⟩ := map_eq_ok.mp h
      cases heq
  split at h
  · obtain ⟨_, -, heq⟩ := map_eq_ok.mp h
    cases heq
  split at h
  · obtain ⟨_, -, heq⟩ := map_eq_ok.mp h
    cases heq
  split at h
  · obtain ⟨_, -, heq⟩ := map_eq_ok.mp h
    cases heq
  split at h
  · cases h
  · cases h

theorem MarketEnvelope.prices_of_book (envelope : MarketEnvelope)
    (h : envelope.book eventTs = .ok update) :
    bestBookPrice envelope.bestBid envelope.bids "bids" = .ok update.bestBid ∧
      bestBookPrice envelope.bestAsk envelope.asks "asks" = .ok update.bestAsk := by
  obtain ⟨assetId, -, h⟩ := bind_eq_ok.mp h
  obtain ⟨bestBid, hbid, h⟩ := bind_eq_ok.mp h
  obtain ⟨bestAsk, hask, h⟩ := bind_eq_ok.mp h
  cases h
  exact ⟨hbid, hask⟩

end Book

/-! ## Best prices -/

section Best

variable (readPrice : String → Option ℚ)

/-- The text of a level's price, as an event would give it. -/
def BookLevel.text (level : BookLevel) : Option String :=
  match level.price with
  | .string text => some text
  | .number text => some text
  | .bool value => some (toString value)
  | _ => none

def BookLevel.value (level : BookLevel) : Option ℚ := level.text.bind readPrice

def levelValues (levels : List BookLevel) : Set ℚ :=
  {value | ∃ level ∈ levels, level.value readPrice = some value}

/-- What is given for a side is nothing if the side has no levels, and the best of their prices
otherwise. -/
def GivesBest (Best : Set ℚ → ℚ → Prop) (levels : Option (List BookLevel)) (price : Option String) :
    Prop :=
  match levels.getD [] with
  | [] => price = none
  | levels => ∃ text ∈ price, ∃ best ∈ readPrice text, Best (levelValues readPrice levels) best

/-- The first level of a side has a price, and no other has one that beats it. -/
def FirstLeads (NoBetter : ℚ → ℚ → Prop) (levels : Option (List BookLevel)) : Prop :=
  match levels.getD [] with
  | [] => True
  | first :: rest => ∃ best ∈ first.value readPrice,
      ∀ level ∈ rest, ∀ value ∈ level.value readPrice, NoBetter value best

variable {readPrice} {Best : Set ℚ → ℚ → Prop} {NoBetter : ℚ → ℚ → Prop}
  {levels : Option (List BookLevel)} {price : Option String} {field : String}

theorem optionalString_eq_ok {level : BookLevel}
    (h : optionalString (some level.price) field = .ok price) :
    price = level.text ∧ price.isSome := by
  obtain ⟨value⟩ := level
  cases value <;> cases h <;> exact ⟨rfl, rfl⟩

/-- The first price of a side is its best exactly if the first level leads. -/
theorem givesBest_iff (hrefl : ∀ value, NoBetter value value)
    (hbest : ∀ values best, Best values best ↔ best ∈ values ∧ ∀ value ∈ values, NoBetter value best)
    (h : bestBookPrice none levels field = .ok price) :
    GivesBest readPrice Best levels price ↔ FirstLeads readPrice NoBetter levels := by
  rw [GivesBest, FirstLeads]
  cases levels with
  | none =>
      cases h
      exact iff_of_true rfl trivial
  | some levels =>
      cases levels with
      | nil =>
          cases h
          exact iff_of_true rfl trivial
      | cons first rest =>
          obtain ⟨htext, hsome⟩ := optionalString_eq_ok h
          obtain ⟨text, rfl⟩ := Option.isSome_iff_exists.mp hsome
          have hvalue : first.value readPrice = readPrice text := by
            rw [BookLevel.value, ← htext, Option.bind_some]
          simp only [Option.getD_some, Option.mem_some_iff, exists_eq_left', hbest, hvalue]
          constructor
          · rintro ⟨best, hprice, -, hnone⟩
            exact ⟨best, hprice, fun level hlevel value hvalue ↦
              hnone value ⟨level, List.mem_cons_of_mem first hlevel, hvalue⟩⟩
          · rintro ⟨best, hprice, hnone⟩
            refine ⟨best, hprice, ⟨first, List.mem_cons_self, hvalue.trans hprice⟩, ?_⟩
            rintro value ⟨level, hlevel, hlevelValue⟩
            rcases List.mem_cons.mp hlevel with rfl | hrest
            · obtain rfl : best = value :=
                Option.some.inj (hprice.symm.trans (hvalue.symm.trans hlevelValue))
              exact hrefl best
            · exact hnone level hrest value hlevelValue

end Best

/-- **Best prices.**  An accepted book message without direct prices gives the highest bid and
the lowest ask exactly if no level has a better price than the first of its side. -/
theorem best_prices_iff {τ : Type} (ws : WsLibrary τ) (readPrice : String → Option ℚ)
    {message : String} {update : MarketBookUpdate τ} {envelope : MarketEnvelope}
    (henvelope : ws.envelope message = some envelope) (hbid : envelope.bestBid = none)
    (hask : envelope.bestAsk = none)
    (h : parseMarketMessages ws message = .ok [.book update]) :
    (GivesBest readPrice IsGreatest envelope.bids update.bestBid ∧
        GivesBest readPrice IsLeast envelope.asks update.bestAsk) ↔
      FirstLeads readPrice (· ≤ ·) envelope.bids ∧ FirstLeads readPrice (· ≥ ·) envelope.asks := by
  obtain hping | hpong | ⟨eventTs, eventType, hevents⟩ :=
    parseMarketMessages_of_envelope henvelope h
  · cases hping
  · cases hpong
  obtain ⟨hbids, hasks⟩ := envelope.prices_of_book (envelope.book_of_events hevents)
  rw [hbid] at hbids
  rw [hask] at hasks
  exact and_congr
    (givesBest_iff (fun value ↦ le_refl value) (fun values best ↦ Iff.rfl) hbids)
    (givesBest_iff (fun value ↦ le_refl value) (fun values best ↦ Iff.rfl) hasks)

/-! ## A book whose best bid stands last -/

theorem toUpper_eq (text : String) : text.toUpper = String.ofList (text.toList.map Char.toUpper) := by
  rw [String.toUpper, ← String.toList_map, String.ofList_toList]

/-- The text of an object is no control word. -/
theorem eqIgnoreAsciiCase_trim_object (members : List (String × Json)) {word : String}
    (hword : (word.toList.map Char.toLower).head? ≠ some '{') :
    eqIgnoreAsciiCase (trim (Json.object members).text) word = false := by
  have hchars := Json.toList_text_object members
  have htrim : trim (Json.object members).text = (Json.object members).text := by
    rw [AppLive.trim_eq, hchars, List.cons_append, List.dropWhile_cons_of_neg (by decide),
      ← List.cons_append, List.rdropWhile_concat_neg _ _ _ (by decide), ← hchars,
      String.ofList_toList]
  rw [htrim, Bool.eq_false_iff]
  intro heq
  have hlower : (Json.object members).text.map Char.toLower = word.map Char.toLower :=
    eq_of_beq heq
  have hlist := congrArg String.toList hlower
  rw [String.toList_map, String.toList_map, hchars] at hlist
  rw [← hlist] at hword
  exact hword rfl

def decimalPrice (text : String) : Option ℚ := (ScaledDecimal.ofText? text).map ScaledDecimal.value

theorem decimalPrice_eq {text : String} {number : Int} {scale : Nat}
    (h : (ScaledDecimal.ofText? text).map (fun d ↦ (d.signed, d.scale)) = some (number, scale)) :
    decimalPrice text = some ((number : ℚ) / 10 ^ scale) := by
  obtain ⟨d, hd, heq⟩ := Option.map_eq_some_iff.mp h
  cases heq
  rw [decimalPrice, hd, Option.map_some, ScaledDecimal.value]

def samplePriceLevel (price : String) : Json := .object [("price", .string price)]

def sampleBook (bids asks : List String) : Json :=
  .object
    [("event_type", .string "book"),
      ("asset_id", .string "token-yes"),
      ("bids", .array (bids.map samplePriceLevel)),
      ("asks", .array (asks.map samplePriceLevel))]

/-- A library that reads the one message. -/
def sampleWs (message : Json) : WsLibrary Unit :=
  { fromStr := fun text ↦ if text = message.text then some message else none
    errorMessage := fun _ ↦ "expected value"
    parseFromRfc3339 := fun _ ↦ none
    timestampMillisOpt := fun _ ↦ none
    timestampOpt := fun _ ↦ none }

theorem envelope_sampleWs (message : Json) :
    (sampleWs message).envelope message.text = readMarketEnvelope message := by
  have hread : (sampleWs message).fromStr message.text = some message := if_pos rfl
  rw [WsLibrary.envelope, hread, Option.bind_some]

def sampleBookEnvelope (bids asks : List String) : MarketEnvelope :=
  { event := none, eventType := some "book", assetId := some "token-yes", marketId := none
    market := none, bids := some (bids.map fun price ↦ { price := .string price })
    asks := some (asks.map fun price ↦ { price := .string price }), priceChanges := none
    bestBid := none, bestAsk := none, price := none, side := none, lastTradePrice := none
    size := none, tickSize := none, previousTickSize := none, status := none, ts := none }

/-- Bids in ascending order, as the venue lists them. -/
def sampleAscending : Json := sampleBook ["0.44", "0.45"] ["0.47"]

theorem envelope_sampleAscending :
    (sampleWs sampleAscending).envelope sampleAscending.text =
      some (sampleBookEnvelope ["0.44", "0.45"] ["0.47"]) := by
  rw [envelope_sampleWs]
  rfl

theorem normalizeEvent_book : normalizeEvent "book" = "BOOK" := by
  rw [normalizeEvent, toUpper_eq]
  decide

theorem parse_sampleAscending :
    parseMarketMessages (sampleWs sampleAscending) sampleAscending.text =
      .ok [.book { assetId := "token-yes", bestBid := some "0.44", bestAsk := some "0.47"
                   eventTs := none }] := by
  have hping : eqIgnoreAsciiCase (trim sampleAscending.text) "PING" = false :=
    eqIgnoreAsciiCase_trim_object _ (by decide)
  have hpong : eqIgnoreAsciiCase (trim sampleAscending.text) "PONG" = false :=
    eqIgnoreAsciiCase_trim_object _ (by decide)
  have hevent : (sampleBookEnvelope ["0.44", "0.45"] ["0.47"]).normalizedMarketEvent = .ok "BOOK" :=
    congrArg Except.ok normalizeEvent_book
  rw [parseMarketMessages]
  simp only [hping, hpong, envelope_sampleAscending]
  rw [if_neg Bool.false_ne_true, if_neg Bool.false_ne_true]
  refine bind_eq_ok.mpr ⟨_, rfl, bind_eq_ok.mpr ⟨"BOOK", hevent, bind_eq_ok.mpr ⟨none, rfl, ?_⟩⟩⟩
  rfl

theorem best_prices_iff_ascending :
    (GivesBest decimalPrice IsGreatest (sampleBookEnvelope ["0.44", "0.45"] ["0.47"]).bids
          (some "0.44") ∧
        GivesBest decimalPrice IsLeast (sampleBookEnvelope ["0.44", "0.45"] ["0.47"]).asks
          (some "0.47")) ↔
      FirstLeads decimalPrice (· ≤ ·) (sampleBookEnvelope ["0.44", "0.45"] ["0.47"]).bids ∧
        FirstLeads decimalPrice (· ≥ ·) (sampleBookEnvelope ["0.44", "0.45"] ["0.47"]).asks :=
  best_prices_iff (sampleWs sampleAscending) decimalPrice envelope_sampleAscending rfl rfl
    parse_sampleAscending

/-- The lower of two bids is given as the best one. -/
theorem best_bid_is_first :
    parseMarketMessages (sampleWs sampleAscending) sampleAscending.text =
        .ok [.book { assetId := "token-yes", bestBid := some "0.44", bestAsk := some "0.47"
                     eventTs := none }] ∧
      (sampleWs sampleAscending).envelope sampleAscending.text =
        some (sampleBookEnvelope ["0.44", "0.45"] ["0.47"]) ∧
      ¬ GivesBest decimalPrice IsGreatest (sampleBookEnvelope ["0.44", "0.45"] ["0.47"]).bids
        (some "0.44") := by
  refine ⟨parse_sampleAscending, envelope_sampleAscending, ?_⟩
  rintro ⟨text, ⟨⟩, best, hprice, -, hgreatest⟩
  have hfirst : (ScaledDecimal.ofText? "0.44").map (fun d ↦ (d.signed, d.scale)) = some (44, 2) := by
    decide
  have hlast : (ScaledDecimal.ofText? "0.45").map (fun d ↦ (d.signed, d.scale)) = some (45, 2) := by
    decide
  have hbest : decimalPrice "0.44" = some (44 / 10 ^ 2) := decimalPrice_eq hfirst
  have hhigher : decimalPrice "0.45" = some (45 / 10 ^ 2) := decimalPrice_eq hlast
  obtain rfl : 44 / 10 ^ 2 = best := Option.some.inj (hbest.symm.trans hprice)
  have hle : (45 / 10 ^ 2 : ℚ) ≤ 44 / 10 ^ 2 :=
    hgreatest ⟨{ price := .string "0.45" }, List.mem_cons_of_mem _ List.mem_cons_self, hhigher⟩
  norm_num at hle

end AxiomArb.VenuePolymarket
