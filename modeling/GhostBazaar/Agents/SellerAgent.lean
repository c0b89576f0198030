import GhostBazaar.Js.Date
import GhostBazaar.Js.Map
import GhostBazaar.Strategy.Interfaces
import GhostBazaar.Transition

/-! The seller runtime on one session: its polls as they wait for the engine, the strategy and
the signatures, beside the log that the engine serves. Polls may overlap at will. -/
namespace GhostBazaar.Agents
open Js GhostBazaar.Core Strategy Transition

structure SellerAgentConfig (lib : DecimalLib) where
  did : JsString
  priv : SellerPrivate lib
  listingId : JsString
  listingProfile : Option NegotiationProfile
  /-- What `Date.parse` makes of a text in no standard format. -/
  parseOtherDate : JsString → Option ℤ

structure SellerAgentSession where
  rfqId : JsString
  rfq : RFQ
  ownOffers : List SellerOffer
  events : List NegotiationEvent
  round : ℕ
  lastEventId : Option EventId
  settledAt : Option ℤ
  quote : JsValue
  stopped : Bool

abbrev SellerPollId := ℕ

/-- An event that a poll handles, with those it has still to look at. -/
structure Handling where
  event : NegotiationEvent
  rest : List NegotiationEvent

/-- What a poll waits for. An offer without an event is the first one, of `respondToRfq`. -/
inductive SellerTask (lib : DecimalLib) where
  | idle
  | opening (asked : SellerStrategyContext lib)
  | fetching (after : Option EventId)
  | deciding (h : Handling) (asked : SellerStrategyContext lib)
  | signingOffer (h : Option Handling) (offer : SellerOffer)
  | postingOffer (h : Option Handling) (offer : SellerOffer)
  | gettingQuote (h : Handling)
  | signingQuote (h : Handling) (quote : Json)
  | cosigning (h : Handling) (cosigned : Json)
  | finished

structure SellerAgent (lib : DecimalLib) where
  session : SellerAgentSession
  /-- The events that the engine shows to the seller. -/
  log : List NegotiationEvent
  task : SellerPollId → SellerTask lib
  /-- The events for which `sendOffer` was called. -/
  offersFor : List NegotiationEvent
  /-- The events whose handling has completed. -/
  handled : List NegotiationEvent

inductive SellerLabel (lib : DecimalLib) where
  /-- The engine records an event that the seller may see. -/
  | append (event : NegotiationEvent)
  | respondToRfq (t : SellerPollId) (now : ℤ)
  | poll (t : SellerPollId)
  /-- The answer holds the first `n` of the events after the cursor. -/
  | eventsArrive (t : SellerPollId) (n : ℕ) (now : ℤ)
  | strategyAnswers (t : SellerPollId) (action : SellerAction lib) (offerId : JsString) (now : ℤ)
  | offerSigned (t : SellerPollId) (signature : JsString)
  | offerPosted (t : SellerPollId) (now : ℤ)
  | quoteArrives (t : SellerPollId) (quote : Json) (now : ℤ)
  | quoteSigned (t : SellerPollId) (cosigned : Json)
  | cosigned (t : SellerPollId) (now : ℤ)
  /-- What the poll waits for is rejected. -/
  | fails (t : SellerPollId) (now : ℤ)
  | markSettled (now : ℤ)
  | stop

/-- The events that the engine answers for a cursor. -/
def eventsAfter (log : List NegotiationEvent) : Option EventId → List NegotiationEvent
  | none => log
  | some id => (log.dropWhile fun event => event.eventId ≠ id).tail

namespace SellerAgent

variable {lib : DecimalLib}

def newSession (rfq : RFQ) : SellerAgentSession where
  rfqId := rfq.rfqId
  rfq := rfq
  ownOffers := []
  events := []
  round := 0
  lastEventId := none
  settledAt := none
  quote := some .null
  stopped := false

def start (rfq : RFQ) : SellerAgent lib := ⟨newSession rfq, [], fun _ => .idle, [], []⟩

def setTask (a : SellerAgent lib) (t : SellerPollId) (task : SellerTask lib) : SellerAgent lib :=
  { a with task := Function.update a.task t task }

/-- The sellers, other than this one, that the session has seen offers of. -/
def competingSellers (config : SellerAgentConfig lib) (s : SellerAgentSession) : ℕ :=
  ((s.events.filter fun event =>
    event.eventType = js "offer" ∧ event.actor ≠ config.did).map (·.actor)).dedup.length

def buildContext (config : SellerAgentConfig lib) (s : SellerAgentSession)
    (latestEvent : Option NegotiationEvent) (now : ℤ) : SellerStrategyContext lib where
  rfq := some s.rfq
  priv := config.priv
  latestCounter := match latestEvent with
    | some event => if event.eventType = js "counter" then event.payload else some .null
    | none => some .null
  ownOffers := s.ownOffers
  round := s.round
  timeRemainingMs := (dateParse config.parseOtherDate s.rfq.deadline).map fun deadlineMs =>
    max 0 (deadlineMs - now)
  competingSellers := competingSellers config s
  sellerListingProfile := config.listingProfile

/-! ### poll -/

/-- A counter-offer that a buyer sent. -/
def isCounter (config : SellerAgentConfig lib) (event : NegotiationEvent) : Bool :=
  event.eventType = js "counter" ∧ event.actor ≠ config.did

def isQuoteReady (event : NegotiationEvent) : Bool :=
  event.eventType = js "quote_ready" ∨ event.eventType = js "buyer_signed"

/-- The start of a round of the loop. -/
def receive (s : SellerAgentSession) (event : NegotiationEvent) : SellerAgentSession :=
  { s with events := s.events ++ [event], lastEventId := some event.eventId }

/-- The loop over the new events, up to the next one that has to be waited for. -/
def process (config : SellerAgentConfig lib) (now : ℤ) (t : SellerPollId) :
    SellerAgent lib → List NegotiationEvent → SellerAgent lib
  | a, [] => a.setTask t .finished
  | a, event :: rest =>
    let s := receive a.session event
    if isCounter config event then
      let s := { s with round := s.round + 1 }
      { a with session := s }.setTask t
        (.deciding ⟨event, rest⟩ (buildContext config s (some event) now))
    else if isQuoteReady event then
      { a with session := s }.setTask t (.gettingQuote ⟨event, rest⟩)
    else process config now t { a with session := s, handled := a.handled ++ [event] } rest

/-- The handling of an event is over, and the loop goes on. -/
def complete (config : SellerAgentConfig lib) (now : ℤ) (t : SellerPollId) (a : SellerAgent lib)
    (h : Handling) : SellerAgent lib :=
  process config now t { a with handled := a.handled ++ [h.event] } h.rest

/-- The offer that `sendOffer` makes, before it is signed. -/
def newOffer (config : SellerAgentConfig lib) (s : SellerAgentSession) (offerId : JsString)
    (price : lib.Value) (signature : JsString) : SellerOffer :=
  .obj [(js "offer_id", .str offerId), (js "rfq_id", .str s.rfqId), (js "seller", .str config.did),
    (js "listing_id", .str config.listingId), (js "price", .str price.text),
    (js "currency", .str (js "USDC")), (js "valid_until", .str s.rfq.deadline),
    (js "signature", .str signature)]

/-- `sendOffer`, up to the signature. -/
def sendOffer (config : SellerAgentConfig lib) (t : SellerPollId) (a : SellerAgent lib)
    (h : Option Handling) (price : lib.Value) (offerId : JsString) : SellerAgent lib :=
  { a with offersFor := a.offersFor ++ (h.map Handling.event).toList }.setTask t
    (.signingOffer h (newOffer config a.session offerId price (js "")))

/-- The `switch` over the sanitized action on a counter. -/
def react (config : SellerAgentConfig lib) (now : ℤ) (t : SellerPollId) (a : SellerAgent lib)
    (h : Handling) (offerId : JsString) : SellerAction lib → SellerAgent lib
  | .respond price | .counter price => sendOffer config t a (some h) price offerId
  | .decline =>
    complete config now t { a with session := { a.session with stopped := true } } h
  | .hold => complete config now t a h

/-- What `respondToRfq` does with the sanitized action. -/
def openOffer (config : SellerAgentConfig lib) (t : SellerPollId) (a : SellerAgent lib)
    (offerId : JsString) : SellerAction lib → SellerAgent lib
  | .respond price => sendOffer config t a none price offerId
  | .decline => { a with session := { a.session with stopped := true } }.setTask t .finished
  | .counter _ | .hold => a.setTask t .finished

def addSignature (signature : JsString) : SellerOffer → SellerOffer
  | .obj ms => .obj (ms.map fun m => if m.1 = js "signature" then (m.1, .str signature) else m)
  | offer => offer

/-- `quote && quote.buyer_signature && !quote.seller_signature` -/
def isBuyerSigned (quote : Json) : Bool :=
  quote.isTruthy && JsValue.isTruthy (quote.get? (js "buyer_signature")) &&
    !JsValue.isTruthy (quote.get? (js "seller_signature"))

def step (config : SellerAgentConfig lib) (a : SellerAgent lib) :
    SellerLabel lib → Option (SellerAgent lib)
  | .append event =>
    if event.eventId ∈ a.log.map (·.eventId) then none
    else some { a with log := a.log ++ [event] }
  | .respondToRfq t now =>
    match a.task t with
    | .idle => some (a.setTask t (.opening (buildContext config a.session none now)))
    | _ => none
  | .poll t =>
    match a.task t with
    | .idle => some (a.setTask t
        (if a.session.stopped then .finished else .fetching a.session.lastEventId))
    | _ => none
  | .eventsArrive t n now =>
    match a.task t with
    | .fetching after => some (process config now t a ((eventsAfter a.log after).take n))
    | _ => none
  | .strategyAnswers t action offerId now =>
    match a.task t with
    | .deciding h _ =>
      some (react config now t a h offerId (sanitizeSellerAction action config.priv))
    | .opening _ => some (openOffer config t a offerId (sanitizeSellerAction action config.priv))
    | _ => none
  | .offerSigned t signature =>
    match a.task t with
    | .signingOffer h offer => some (a.setTask t (.postingOffer h (addSignature signature offer)))
    | _ => none
  | .offerPosted t now =>
    match a.task t with
    | .postingOffer h offer =>
      let a := { a with session := { a.session with ownOffers := a.session.ownOffers ++ [offer] } }
      match h with
      | some h => some (complete config now t a h)
      | none => some (a.setTask t .finished)
    | _ => none
  | .quoteArrives t quote now =>
    match a.task t with
    | .gettingQuote h =>
      some (if isBuyerSigned quote then a.setTask t (.signingQuote h quote)
        else complete config now t a h)
    | _ => none
  | .quoteSigned t cosigned =>
    match a.task t with
    | .signingQuote h _ => some (a.setTask t (.cosigning h cosigned))
    | _ => none
  | .cosigned t now =>
    match a.task t with
    | .cosigning h cosigned =>
      some (complete config now t { a with session := { a.session with quote := some cosigned } } h)
    | _ => none
  | .fails t now =>
    match a.task t with
    | .idle | .finished => none
    -- a failure about the quote is swallowed, and the loop goes on
    | .gettingQuote h | .signingQuote h _ | .cosigning h _ => some (process config now t a h.rest)
    | _ => some (a.setTask t .finished)
  | .markSettled now => some { a with session := { a.session with settledAt := some now } }
  | .stop => some { a with session := { a.session with stopped := true } }

end SellerAgent
end GhostBazaar.Agents
