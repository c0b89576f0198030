import GhostBazaar.Engine.StateMachine
import GhostBazaar.Js.Map
import GhostBazaar.Js.Throw

/-! `deriveState`: a session is the fold of its event log, and is never stored. An
`Error` is its message. -/
namespace GhostBazaar.Engine
open Js

/-! ### Payload fields -/

def missingField (kind key eventId : JsString) : JsString :=
  js "deriveState: event " ++ eventId ++ js " missing or invalid " ++ kind ++ js " field \"" ++
    key ++ js "\""

def str (payload : Members) (key eventId : JsString) : Except JsString JsString :=
  orThrow (JsValue.asStr (payload.lookup key)) (missingField (js "string") key eventId)

def asNum : Json → Option JsNumber
  | .num x => some x
  | _ => none

def num (payload : Members) (key eventId : JsString) : Except JsString JsNumber :=
  orThrow ((payload.lookup key).bind asNum) (missingField (js "number") key eventId)

def optStr (payload : Members) (key : JsString) : Option JsString :=
  JsValue.asStr (payload.lookup key)

/-- A field whose value has `typeof` object and is not `null`. -/
def optObject (payload : Members) (key : JsString) : Option Json :=
  (payload.lookup key).filter Json.isObject

/-! ### The derived session -/

structure RecordedOffer where
  offerId : JsString
  seller : JsString
  price : JsString
  currency : JsString
  validUntil : JsString
  /-- Listing and payment endpoint as the server resolved them at offer time. -/
  listingId : JsString
  paymentEndpoint : JsString
  extensions : Option Json
  deriving DecidableEq

structure RecordedCounter where
  counterId : JsString
  round : JsNumber
  «from» : JsString
  «to» : JsString
  price : JsString

structure SessionRfq where
  buyer : JsString
  rfqId : JsString
  anchorPrice : JsString
  currency : JsString
  deadline : JsString
  serviceType : JsString
  budgetCommitment : Option JsString
  spec : Option Json

structure DerivedSession where
  state : SessionState
  rfq : SessionRfq
  offers : List RecordedOffer
  counters : List RecordedCounter
  selectedSeller : Option JsString
  selectedOfferId : Option JsString
  quoteRevision : ℕ
  totalOfferCount : ℕ
  offerCountBySeller : JsMap JsString ℕ
  totalAcceptAttempts : ℕ
  acceptAttemptsBySeller : JsMap JsString ℕ
  lastEventId : JsString
  unsignedQuote : Option Json
  buyerSignature : Option JsString
  sellerSignature : Option JsString
  commitPendingAt : Option JsString

/-- `offers.find((o) => o.offer_id === id)`. -/
def findOffer (offers : List RecordedOffer) (id : JsString) : Option RecordedOffer :=
  offers.find? fun o => o.offerId = id

/-! ### The reducer -/

def quoted (s : JsString) : JsString := js "\"" ++ s ++ js "\""

/-- The text of `"${selectedSeller}"`. -/
def quotedOrNull : Option JsString → JsString
  | some s => quoted s
  | none => js "\"null\""

def initialSession (first : NegotiationEvent) : Except JsString DerivedSession := do
  ensure (first.type = .rfqCreated)
    (js "deriveState: first event must be RFQ_CREATED, got " ++ first.type.text)
  let buyer ← str first.payload (js "buyer") first.eventId
  let rfqId ← str first.payload (js "rfq_id") first.eventId
  let anchorPrice ← str first.payload (js "anchor_price") first.eventId
  let currency ← str first.payload (js "currency") first.eventId
  let deadline ← str first.payload (js "deadline") first.eventId
  let serviceType ← str first.payload (js "service_type") first.eventId
  return {
    state := .open
    rfq := ⟨buyer, rfqId, anchorPrice, currency, deadline, serviceType,
      optStr first.payload (js "budget_commitment"), optObject first.payload (js "spec")⟩
    offers := []
    counters := []
    selectedSeller := none
    selectedOfferId := none
    quoteRevision := 0
    totalOfferCount := 0
    offerCountBySeller := .empty
    totalAcceptAttempts := 0
    acceptAttemptsBySeller := .empty
    lastEventId := first.eventId
    unsignedQuote := none
    buyerSignature := none
    sellerSignature := none
    commitPendingAt := none }

def applyOfferSubmitted (s : DerivedSession) (event : NegotiationEvent) :
    Except JsString DerivedSession := do
  let offerId ← str event.payload (js "offer_id") event.eventId
  let seller ← str event.payload (js "seller") event.eventId
  let price ← str event.payload (js "price") event.eventId
  let currency ← str event.payload (js "currency") event.eventId
  let validUntil ← str event.payload (js "valid_until") event.eventId
  let listingId ← str event.payload (js "listing_id") event.eventId
  let paymentEndpoint ← str event.payload (js "payment_endpoint") event.eventId
  ensure (event.actor = seller)
    (js "deriveState: OFFER_SUBMITTED actor " ++ quoted event.actor ++
      js " !== payload.seller " ++ quoted seller ++ js " at " ++ event.eventId)
  return { s with
    offers := s.offers ++ [⟨offerId, seller, price, currency, validUntil, listingId,
      paymentEndpoint, optObject event.payload (js "extensions")⟩]
    totalOfferCount := s.totalOfferCount + 1
    offerCountBySeller := s.offerCountBySeller.increment seller }

def applyCounterSent (s : DerivedSession) (event : NegotiationEvent) :
    Except JsString DerivedSession := do
  let counterId ← str event.payload (js "counter_id") event.eventId
  let round ← num event.payload (js "round") event.eventId
  let «from» ← str event.payload (js "from") event.eventId
  let «to» ← str event.payload (js "to") event.eventId
  let price ← str event.payload (js "price") event.eventId
  ensure (event.actor = «from»)
    (js "deriveState: COUNTER_SENT actor " ++ quoted event.actor ++ js " !== payload.from " ++
      quoted «from» ++ js " at " ++ event.eventId)
  ensure («from» = s.rfq.buyer)
    (js "deriveState: COUNTER_SENT from " ++ quoted «from» ++ js " !== rfq.buyer " ++
      quoted s.rfq.buyer ++ js " at " ++ event.eventId)
  ensure (∃ o ∈ s.offers, o.seller = «to»)
    (js "deriveState: COUNTER_SENT to " ++ quoted «to» ++ js " has no recorded offer at " ++
      event.eventId)
  return { s with counters := s.counters ++ [⟨counterId, round, «from», «to», price⟩] }

def applyWinnerSelected (s : DerivedSession) (event : NegotiationEvent) :
    Except JsString DerivedSession := do
  let seller ← str event.payload (js "seller") event.eventId
  let offerId ← str event.payload (js "offer_id") event.eventId
  ensure (event.actor = s.rfq.buyer)
    (js "deriveState: WINNER_SELECTED actor " ++ quoted event.actor ++ js " !== rfq.buyer " ++
      quoted s.rfq.buyer ++ js " at " ++ event.eventId)
  let offer ← orThrow (findOffer s.offers offerId)
    (js "deriveState: WINNER_SELECTED offer_id " ++ quoted offerId ++
      js " not found in recorded offers at " ++ event.eventId)
  ensure (offer.seller = seller)
    (js "deriveState: WINNER_SELECTED seller " ++ quoted seller ++ js " !== offer owner " ++
      quoted offer.seller ++ js " at " ++ event.eventId)
  return { s with
    selectedSeller := some seller
    selectedOfferId := some offerId
    quoteRevision := s.quoteRevision + 1
    totalAcceptAttempts := s.totalAcceptAttempts + 1
    acceptAttemptsBySeller := s.acceptAttemptsBySeller.increment seller
    -- an event without a quote object keeps the quote that is there
    unsignedQuote := (optObject event.payload (js "quote")).or s.unsignedQuote
    commitPendingAt := some event.timestamp
    buyerSignature := none
    sellerSignature := none }

/-- The seller check that rollback, sign and commit events share. -/
def ensureSelected (s : DerivedSession) (event : NegotiationEvent) (seller : JsString) :
    Except JsString Unit :=
  ensure (s.selectedSeller = some seller)
    (js "deriveState: " ++ event.type.text ++ js " seller " ++ quoted seller ++
      js " !== selectedSeller " ++ quotedOrNull s.selectedSeller ++ js " at " ++ event.eventId)

/-- The actor check of the events that only the selected seller may cause. -/
def ensureActorSelected (s : DerivedSession) (event : NegotiationEvent) : Except JsString Unit :=
  ensure (s.selectedSeller = some event.actor)
    (js "deriveState: " ++ event.type.text ++ js " actor " ++ quoted event.actor ++
      js " !== selectedSeller " ++ quotedOrNull s.selectedSeller ++ js " at " ++ event.eventId)

def applyRollback (s : DerivedSession) (event : NegotiationEvent) :
    Except JsString DerivedSession := do
  let seller ← str event.payload (js "seller") event.eventId
  ensureSelected s event seller
  if event.type = .cosignDeclined then ensureActorSelected s event
  return { s with
    selectedSeller := none
    selectedOfferId := none
    unsignedQuote := none
    buyerSignature := none
    sellerSignature := none
    commitPendingAt := none }

def applyQuoteSigned (s : DerivedSession) (event : NegotiationEvent) :
    Except JsString DerivedSession := do
  let seller ← str event.payload (js "seller") event.eventId
  ensureSelected s event seller
  ensure (event.actor = s.rfq.buyer)
    (js "deriveState: QUOTE_SIGNED actor " ++ quoted event.actor ++ js " !== rfq.buyer " ++
      quoted s.rfq.buyer ++ js " at " ++ event.eventId)
  let signature ← str event.payload (js "buyer_signature") event.eventId
  return { s with buyerSignature := some signature }

def applyQuoteCommitted (s : DerivedSession) (event : NegotiationEvent) :
    Except JsString DerivedSession := do
  let seller ← str event.payload (js "seller") event.eventId
  ensureSelected s event seller
  ensureActorSelected s event
  let signature ← str event.payload (js "seller_signature") event.eventId
  return { s with sellerSignature := some signature }

/-- The body of the loop, after the transition has been applied. -/
def applyPayload (s : DerivedSession) (event : NegotiationEvent) :
    Except JsString DerivedSession :=
  match event.type with
  | .offerSubmitted => applyOfferSubmitted s event
  | .counterSent => applyCounterSent s event
  | .winnerSelected => applyWinnerSelected s event
  | .cosignDeclined | .cosignTimeout => applyRollback s event
  | .quoteSigned => applyQuoteSigned s event
  | .quoteCommitted => applyQuoteCommitted s event
  | .rfqCreated | .commitPending | .settlementConfirmed | .negotiationExpired
  | .negotiationCancelled => .ok s

def applyEvent (s : DerivedSession) (event : NegotiationEvent) :
    Except JsString DerivedSession := do
  let next ← orThrow (isValidTransition s.state event.type)
    (js "deriveState: invalid transition " ++ s.state.text ++ js " + " ++ event.type.text ++
      js " at event " ++ event.eventId)
  applyPayload { s with state := next, lastEventId := event.eventId } event

def deriveState : List NegotiationEvent → Except JsString (Option DerivedSession)
  | [] => .ok none
  | first :: rest => do
    let s ← initialSession first
    let s ← rest.foldlM applyEvent s
    return some s

/-! ### Replay -/

theorem deriveState_append_singleton {first : NegotiationEvent} {rest : List NegotiationEvent}
    {event : NegotiationEvent} {s : DerivedSession} :
    deriveState (first :: rest ++ [event]) = .ok (some s) ↔
      ∃ s₀, deriveState (first :: rest) = .ok (some s₀) ∧ applyEvent s₀ event = .ok s := by
  simp only [List.cons_append, deriveState, List.foldlM_append, List.foldlM_cons,
    List.foldlM_nil, bind_eq_ok, pure_eq_ok, Option.some.injEq]
  constructor
  · rintro ⟨s₁, h₁, s₂, ⟨s₃, h₃, s₄, h₄, rfl⟩, rfl⟩
    exact ⟨s₃, ⟨s₁, h₁, s₃, h₃, rfl⟩, h₄⟩
  · rintro ⟨s₀, ⟨s₁, h₁, s₃, h₃, rfl⟩, h₄⟩
    exact ⟨s₁, h₁, s, ⟨s₃, h₃, s, h₄, rfl⟩, rfl⟩

theorem deriveState_none_iff {events : List NegotiationEvent} :
    deriveState events = .ok none ↔ events = [] := by
  cases events with
  | nil => simp [deriveState]
  | cons first rest =>
    simp only [deriveState, bind_eq_ok, pure_eq_ok, reduceCtorEq, and_false, exists_false]

end GhostBazaar.Engine
