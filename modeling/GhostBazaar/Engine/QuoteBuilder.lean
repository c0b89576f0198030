import GhostBazaar.Engine.ControlEnvelope

/-! `buildQuoteFromSession`: the unsigned quote of an accepted offer. -/
namespace GhostBazaar.Engine
open Js GhostBazaar.Core

def DEFAULT_SETTLEMENT_WINDOW_MS : ℤ := 300000

def MIN_SETTLEMENT_WINDOW_MS : ℤ := 60000

def MAX_SETTLEMENT_WINDOW_MS : ℤ := 600000

/-- The deadline is a ceiling. A deadline that is no date makes `toISOString` throw. -/
def buildQuoteFromSession (env : EngineEnv) (m : Moment) (session : DerivedSession)
    (offerId : JsString) : Except JsError SignedQuote := do
  let offer ← orThrow (findOffer session.offers offerId) (.error
    (js "buildQuoteFromSession: offer_id \"" ++ offerId ++ js "\" not found in session"))
  let rawWindow := env.settlementWindowMs.getD DEFAULT_SETTLEMENT_WINDOW_MS
  let clampedWindow := max MIN_SETTLEMENT_WINDOW_MS (min MAX_SETTLEMENT_WINDOW_MS rawWindow)
  let deadlineMs ← orThrow (dateParse env.legacyDate session.rfq.deadline) .rangeError
  let expiresAt ← orThrow (toISOString (min deadlineMs (m.now + clampedWindow))) .rangeError
  let quote ← buildUnsignedQuote env.toCrypto m.now m.quoteId m.nonceBytes {
    rfqId := session.rfq.rfqId
    buyer := session.rfq.buyer
    seller := offer.seller
    serviceType := session.rfq.serviceType
    finalPrice := offer.price
    currency := offer.currency
    paymentEndpoint := offer.paymentEndpoint
    expiresSeconds := 0
    memoPolicy := none
    spec := none
    specHash := (asPlainObject session.rfq.spec).map (computeSpecHash env.toCrypto) }
  return { quote with expiresAt }

/-- A quote made out for a recorded offer of a session, and still unsigned. -/
structure QuoteOf (env : EngineEnv) (session : DerivedSession) (offer : RecordedOffer)
    (q : SignedQuote) : Prop where
  rfqId : q.rfqId = session.rfq.rfqId
  buyer : q.buyer = session.rfq.buyer
  seller : q.seller = offer.seller
  finalPrice : q.finalPrice = offer.price
  currency : q.currency = offer.currency
  paymentEndpoint : q.paymentEndpoint = offer.paymentEndpoint
  memoPolicy : q.memoPolicy = .quoteIdRequired
  unsigned : q.buyerSignature = [] ∧ q.sellerSignature = []
  expiry : ∃ expires deadline, dateParse env.legacyDate q.expiresAt = some expires ∧
    dateParse env.legacyDate session.rfq.deadline = some deadline ∧ expires ≤ deadline

theorem buildQuoteFromSession_ok {env : EngineEnv} {m : Moment} {session : DerivedSession}
    {offerId : JsString} {q : SignedQuote}
    (h : buildQuoteFromSession env m session offerId = .ok q) :
    ∃ offer, findOffer session.offers offerId = some offer ∧ QuoteOf env session offer q ∧
      q.quoteId = m.quoteId := by
  simp only [buildQuoteFromSession, buildUnsignedQuote, bind_eq_ok, orThrow_eq_ok,
    pure_eq_ok] at h
  obtain ⟨offer, hoffer, deadline, hdeadline, expiresAt, hexpires, quote, ⟨_, -, rfl⟩, rfl⟩ := h
  refine ⟨offer, hoffer, ⟨rfl, rfl, rfl, rfl, rfl, rfl, rfl, ⟨rfl, rfl⟩, ?_⟩, rfl⟩
  exact ⟨_, deadline, dateParse_toISOString _ hexpires, hdeadline, min_le_left _ _⟩

end GhostBazaar.Engine
