import AxiomArb.AppLive.DurableRecords
import AxiomArb.Domain.NegRisk
import AxiomArb.Library.Fallible
import AxiomArb.Library.InsertionTable
import AxiomArb.Library.StableSort

/-!
# Discovery of neg-risk metadata

Pages of events are read until an empty one.  Each neg-risk market gives a row, rows under
one key must agree, and what is kept is put in a canonical order and hashed.

## Honest boundary

* How a list of strings is read from JSON text is a parameter, and so is what the gateway and
  the wire answer.  Errors from there are kept as they are, or as texts.
* The cache of earlier snapshots, traces and timings are left out.
* Reading pages takes fuel, as an endless listing is never finished.
-/

namespace AxiomArb.VenuePolymarket

open Domain Library
open AppLive (trim)

def NEG_RISK_PAGE_LIMIT : Nat := 100

def NEG_RISK_PAGE_MAX_ATTEMPTS : Nat := 2

/-! ## Rows -/

structure NegRiskMarketMetadata where
  eventFamilyId : String
  eventId : String
  conditionId : String
  tokenId : String
  outcomeLabel : String
  route : MarketRoute
  enableNegRisk : Option Bool
  negRiskAugmented : Option Bool
  negRiskVariant : NegRiskVariant
  isPlaceholder : Bool
  isOther : Bool
  discoveryRevision : Int
  metadataSnapshotHash : String
deriving DecidableEq, Repr

inductive NegRiskMetadataError where
  | emptyDiscovery
  | missingEventId
  | missingConditionId (eventId : String)
  | missingTokenId (eventId conditionId : String)
  | conflictingDuplicateRow (eventFamilyId conditionId tokenId existingOutcomeLabel
      incomingOutcomeLabel : String)
  | noValidRowsAfterFiltering (skippedRows : Nat)
deriving DecidableEq, Repr

structure NegRiskMemberKey where
  eventFamilyId : String
  conditionId : String
  tokenId : String
deriving DecidableEq, Repr

structure CanonicalNegRiskRow where
  eventFamilyId : String
  eventId : String
  conditionId : String
  tokenId : String
  outcomeLabel : String
  route : MarketRoute
  enableNegRisk : Option Bool
  negRiskAugmented : Option Bool
  negRiskVariant : NegRiskVariant
  isPlaceholder : Bool
  isOther : Bool
deriving DecidableEq, Repr

namespace CanonicalNegRiskRow

variable (row : CanonicalNegRiskRow)

def intoPublic (discoveryRevision : Int) (metadataSnapshotHash : String) : NegRiskMarketMetadata :=
  { eventFamilyId := row.eventFamilyId
    eventId := row.eventId
    conditionId := row.conditionId
    tokenId := row.tokenId
    outcomeLabel := row.outcomeLabel
    route := row.route
    enableNegRisk := row.enableNegRisk
    negRiskAugmented := row.negRiskAugmented
    negRiskVariant := row.negRiskVariant
    isPlaceholder := row.isPlaceholder
    isOther := row.isOther
    discoveryRevision
    metadataSnapshotHash }

/-- Rows with this key must be alike. -/
def memberKey : NegRiskMemberKey :=
  { eventFamilyId := row.eventFamilyId, conditionId := row.conditionId, tokenId := row.tokenId }

/-- Rows are sorted by this key. -/
def sortKey : List String := [row.eventId, row.conditionId, row.tokenId, row.outcomeLabel]

end CanonicalNegRiskRow

/-! ## Events -/

inductive FlexibleStringList where
  | values (values : List String)
  | text (text : String)
deriving DecidableEq, Repr

structure GammaMarket where
  conditionId : Option String
  clobTokenIds : FlexibleStringList
  groupItemTitle : Option String
  title : Option String
  shortOutcomes : FlexibleStringList
  outcomes : FlexibleStringList
  question : Option String
  negRisk : Option Bool
  negRiskOther : Option Bool
deriving DecidableEq, Repr

structure GammaEvent where
  id : Option String
  title : Option String
  parentEventId : Option String
  negRisk : Option Bool
  enableNegRisk : Option Bool
  negRiskAugmented : Option Bool
  markets : List GammaMarket
deriving DecidableEq, Repr

def eqIgnoreAsciiCase (text text' : String) : Bool := text.toLower == text'.toLower

def trimMatches (char : Char) (text : String) : String :=
  String.ofList (((text.toList.dropWhile (· == char)).reverse.dropWhile (· == char)).reverse)

def normalizedOptionalString (value : Option String) : Option String :=
  (value.map trim).filter fun entry ↦ !entry.isEmpty

def isBinaryOutcomeLabel (value : String) : Bool :=
  (trim value).toLower == "yes" || (trim value).toLower == "no"

def classifyVariant (isNegRisk : Bool) (enableNegRisk negRiskAugmented : Option Bool) :
    NegRiskVariant :=
  if !isNegRisk then
    .unknown
  else if enableNegRisk = some true ∧ negRiskAugmented = some true then
    .augmented
  else
    .standard

section Markets

variable (readStrings : String → Option (List String))

def parseStringList (value : String) : List String :=
  let trimmed := trim value
  if trimmed.isEmpty then
    []
  else
    let listed := if trimmed.startsWith "[" then readStrings trimmed else none
    match listed with
    | some values => (values.map trim).filter fun entry ↦ !entry.isEmpty
    | none =>
        (((trimmed.toList.splitOn ',').map String.ofList).map fun entry ↦
          trimMatches '\x22' (trim entry)).filter fun entry ↦ !entry.isEmpty

def FlexibleStringList.intoVec : FlexibleStringList → List String
  | .values entries => entries
  | .text value => parseStringList readStrings value

namespace GammaMarket

variable (market : GammaMarket)

/-- The first token of a market is the one of its named outcome. -/
def yesTokenId : Option String :=
  ((market.clobTokenIds.intoVec readStrings).head?.map trim).filter fun value ↦ !value.isEmpty

def outcomeLabel (eventTitle : Option String) : String :=
  let candidates := market.groupItemTitle.toList ++ market.title.toList ++ market.question.toList ++
    (market.shortOutcomes.intoVec readStrings).filter (!isBinaryOutcomeLabel ·) ++
    (market.outcomes.intoVec readStrings).filter (!isBinaryOutcomeLabel ·)
  ((candidates.map trim).find? fun entry ↦ !entry.isEmpty && !isBinaryOutcomeLabel entry &&
    eventTitle.all fun title ↦ !eqIgnoreAsciiCase entry (trim title)).getD ""

end GammaMarket

namespace GammaEvent

variable (event : GammaEvent)

def isNegRisk (market : GammaMarket) : Bool :=
  event.negRisk.getD false || market.negRisk.getD false

/-- What an event without an id counts for. -/
def skippedRows : Nat := max (event.markets.countP event.isNegRisk) 1

def familyId (eventId : String) : String :=
  (normalizedOptionalString event.parentEventId).getD eventId

def canonicalRow (eventId conditionId tokenId : String) (market : GammaMarket) :
    CanonicalNegRiskRow :=
  let outcomeLabel := market.outcomeLabel readStrings event.title
  { eventFamilyId := event.familyId eventId
    eventId
    conditionId
    tokenId
    outcomeLabel
    route := .negRisk
    enableNegRisk := event.enableNegRisk
    negRiskAugmented := event.negRiskAugmented
    negRiskVariant := classifyVariant (event.isNegRisk market) event.enableNegRisk
      event.negRiskAugmented
    isPlaceholder := outcomeLabel.isEmpty || eqIgnoreAsciiCase outcomeLabel "placeholder"
    isOther := market.negRiskOther.getD false || eqIgnoreAsciiCase outcomeLabel "other" }

end GammaEvent

/-! ## The loop over pages -/

structure DiscoveryProgress where
  rows : InsertionTable CanonicalNegRiskRow.memberKey
  skippedMalformedRows : Nat

namespace DiscoveryProgress

def empty : DiscoveryProgress := { rows := .empty, skippedMalformedRows := 0 }

def skip (progress : DiscoveryProgress) (skippedRows : Nat) : DiscoveryProgress :=
  { progress with skippedMalformedRows := progress.skippedMalformedRows + skippedRows }

def addRow (progress : DiscoveryProgress) (row : CanonicalNegRiskRow) :
    Except NegRiskMetadataError DiscoveryProgress :=
  match progress.rows.get? row.memberKey with
  | some existing =>
      if existing ≠ row then
        .error (.conflictingDuplicateRow row.eventFamilyId row.conditionId row.tokenId
          existing.outcomeLabel row.outcomeLabel)
      else
        .ok progress
  | none => .ok { progress with rows := (progress.rows.insert? row).getD progress.rows }

def addMarket (event : GammaEvent) (eventId : String) (progress : DiscoveryProgress)
    (market : GammaMarket) : Except NegRiskMetadataError DiscoveryProgress :=
  if !event.isNegRisk market then
    .ok progress
  else
    match normalizedOptionalString market.conditionId with
    | none => .ok (progress.skip 1)
    | some conditionId =>
        match market.yesTokenId readStrings with
        | none => .ok (progress.skip 1)
        | some tokenId =>
            progress.addRow (event.canonicalRow readStrings eventId conditionId tokenId market)

def addEvent (progress : DiscoveryProgress) (event : GammaEvent) :
    Except NegRiskMetadataError DiscoveryProgress :=
  match normalizedOptionalString event.id with
  | none => .ok (progress.skip event.skippedRows)
  | some eventId => event.markets.foldlM (addMarket readStrings event eventId) progress

variable {ε : Type} (ofMetadata : NegRiskMetadataError → ε)
  (fetchPage : Nat → Except ε (List GammaEvent))

/-- Read pages until an empty one. -/
def readPages : Nat → Nat → DiscoveryProgress → Option (Except ε DiscoveryProgress)
  | 0, _, _ => none
  | fuel + 1, offset, progress =>
      match fetchPage offset with
      | .error error => some (.error error)
      | .ok page =>
          match page.foldlM (addEvent readStrings) progress with
          | .error error => some (.error (ofMetadata error))
          | .ok progress =>
              if page.length = 0 then
                some (.ok progress)
              else
                readPages fuel (offset + NEG_RISK_PAGE_LIMIT) progress

end DiscoveryProgress

end Markets

/-! ## Snapshots -/

def marketRouteLabel : MarketRoute → String
  | .standard => "standard"
  | .negRisk => "negrisk"

def negRiskVariantLabel : NegRiskVariant → String
  | .standard => "standard"
  | .augmented => "augmented"
  | .unknown => "unknown"

def boolLabel : Bool → String
  | true => "true"
  | false => "false"

def optionalBoolLabel : Option Bool → String
  | some value => boolLabel value
  | none => "null"

/-- The fields of a row that are hashed, each followed by a unit separator. -/
def CanonicalNegRiskRow.hashFields (row : CanonicalNegRiskRow) : List String :=
  [row.eventFamilyId, row.eventId, row.conditionId, row.tokenId, row.outcomeLabel,
    marketRouteLabel row.route, optionalBoolLabel row.enableNegRisk,
    optionalBoolLabel row.negRiskAugmented, negRiskVariantLabel row.negRiskVariant,
    boolLabel row.isPlaceholder, boolLabel row.isOther]

def updateHashField (hashed value : String) : String := hashed ++ value ++ "\x1f"

/-- What is hashed for the rows. -/
def snapshotText (rows : List CanonicalNegRiskRow) : String :=
  rows.foldl (fun hashed row ↦ row.hashFields.foldl updateHashField hashed ++ "\n") ""

def snapshotHash (sha256 : String → String) (rows : List CanonicalNegRiskRow) : String :=
  s!"sha256:{sha256 (snapshotText rows)}"

def canonicalizeRows (rows : List CanonicalNegRiskRow) : List CanonicalNegRiskRow :=
  sortByKey CanonicalNegRiskRow.sortKey rows

structure NegRiskDiscovery where
  rows : List CanonicalNegRiskRow
  metadataSnapshotHash : String
deriving DecidableEq, Repr

def DiscoveryProgress.finish (sha256 : String → String) (progress : DiscoveryProgress) :
    Except NegRiskMetadataError NegRiskDiscovery :=
  if progress.rows.rows.isEmpty ∧ 0 < progress.skippedMalformedRows then
    .error (.noValidRowsAfterFiltering progress.skippedMalformedRows)
  else
    let rows := canonicalizeRows progress.rows.rows
    .ok { rows, metadataSnapshotHash := snapshotHash sha256 rows }

/-! ## Through the gateway, and over REST -/

inductive MetadataApiRefreshError (γ : Type) where
  | gateway (error : γ)
  | metadata (error : NegRiskMetadataError)
deriving DecidableEq, Repr

inductive RestError (γ : Type) where
  | auth (error : String)
  | http (error : String)
  | httpResponse (status : Nat) (body : String)
  | gateway (error : γ)
  | metadata (error : NegRiskMetadataError)
  | url (error : String)
  | missingField (field : String)
deriving DecidableEq, Repr

/-- What the client asks of the wire; an answer may depend on the attempt. -/
structure RestClient (γ ρ : Type) where
  buildGetRequest : String → List (String × String) → Except (RestError γ) ρ
  executeJson : Nat → ρ → Except (RestError γ) (List GammaEvent)

section Discovery

variable {γ ρ ε : Type}

def isRetryableMetadataError : RestError γ → Bool
  | .http _ => true
  | .httpResponse status _ => status ∈ [425, 429, 500, 502, 503, 504]
  | .metadata _ | .auth _ | .gateway _ | .url _ | .missingField _ => false

namespace RestClient

variable (client : RestClient γ ρ) (offset : Nat)

def pageQuery : List (String × String) :=
  [("active", "true"), ("closed", "false"), ("limit", toString NEG_RISK_PAGE_LIMIT),
    ("offset", toString offset)]

/-- One attempt, and as many more as are left while the error is worth another. -/
def attemptPage : Nat → Nat → Except (RestError γ) (List GammaEvent)
  | left, attempt => do
      let request ← client.buildGetRequest "events" (pageQuery offset)
      match client.executeJson attempt request, left with
      | .ok page, _ => .ok page
      | .error error, 0 => .error error
      | .error error, left + 1 =>
          if isRetryableMetadataError error then attemptPage left (attempt + 1) else .error error

def fetchNegRiskMetadataPage : Except (RestError γ) (List GammaEvent) :=
  client.attemptPage offset (NEG_RISK_PAGE_MAX_ATTEMPTS - 1) 0

end RestClient

variable (readStrings : String → Option (List String)) (sha256 : String → String)

/-- The discovery that both clients make of the pages that they fetch. -/
def discoverRows (ofMetadata : NegRiskMetadataError → ε)
    (fetchPage : Nat → Except ε (List GammaEvent)) (fuel : Nat) :
    Option (Except ε NegRiskDiscovery) :=
  (DiscoveryProgress.readPages readStrings ofMetadata fetchPage fuel 0 .empty).map
    fun read ↦ read.bind fun progress ↦ (progress.finish sha256).mapError ofMetadata

/-- A page of the gateway. -/
def fetchGatewayMetadataPage (api : Nat → Nat → Except γ (List GammaEvent)) (offset : Nat) :
    Except (MetadataApiRefreshError γ) (List GammaEvent) :=
  (api offset NEG_RISK_PAGE_LIMIT).mapError .gateway

def discoverNegRiskMetadataRowsFromApi (api : Nat → Nat → Except γ (List GammaEvent)) (fuel : Nat) :
    Option (Except (MetadataApiRefreshError γ) NegRiskDiscovery) :=
  discoverRows readStrings sha256 .metadata (fetchGatewayMetadataPage api) fuel

def discoverNegRiskMetadataRows (client : RestClient γ ρ) (fuel : Nat) :
    Option (Except (RestError γ) NegRiskDiscovery) :=
  discoverRows readStrings sha256 .metadata client.fetchNegRiskMetadataPage fuel

end Discovery

end AxiomArb.VenuePolymarket
