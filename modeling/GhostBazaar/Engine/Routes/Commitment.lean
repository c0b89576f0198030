import GhostBazaar.Engine.QuoteBuilder
import GhostBazaar.Engine.Routes.Bidding

/-! The routes of a commitment: accept, quote signing, cosigning, decline and the quote
itself. -/
namespace GhostBazaar.Engine
open Js GhostBazaar.Core

/-! ### POST /rfqs/:id/accept -/

def MAX_ACCEPTS_PER_SESSION : ℕ := 6

def MAX_ACCEPTS_PER_SELLER : ℕ := 2

/-- Steps 2 and 3; the expected signer is the buyer of the session before the lock. -/
def checkAccept (env : EngineEnv) (now : ℤ) (tombstones : EnvelopeTombstones)
    (rfqId : JsString) (body : Json) (preSession : Option DerivedSession) :
    Handling (ControlEnvelope × JsString) := do
  let preSession ← requireSession preSession
  let envelope ← validateControlEnvelope env now tombstones body .accept rfqId
    preSession.rfq.buyer (js "invalid_buyer_signature")
  return (envelope, preSession.rfq.buyer)

/-- The seller and the offer that the envelope names. -/
def acceptTarget (envelope : ControlEnvelope) : Handling (JsString × JsString) := do
  let sellerDid ← orThrow (JsValue.asStr (envelope.payload.lookup (js "seller")))
    (.refused (malformedPayload (js "Missing seller in envelope payload")))
  let offerId ← orThrow (JsValue.asStr (envelope.payload.lookup (js "offer_id")))
    (.refused (malformedPayload (js "Missing offer_id in envelope payload")))
  return (sellerDid, offerId)

/-- Steps 4g to 4j: the offer is still valid, the limits hold, and the quote is worth something. -/
def acceptedQuote (env : EngineEnv) (m : Moment) (session : DerivedSession)
    (offer : RecordedOffer) (sellerDid offerId : JsString) : Handling SignedQuote := do
  require (hasReached m.now (dateParse env.legacyDate offer.validUntil) = false)
    ⟨422, js "invalid_expiry", js "The accepted offer has expired"⟩
  require (session.totalAcceptAttempts < MAX_ACCEPTS_PER_SESSION)
    ⟨422, js "accept_limit_exceeded", js "Session accept limit (6) exceeded"⟩
  require ((session.acceptAttemptsBySeller.get? sellerDid).getD 0 < MAX_ACCEPTS_PER_SELLER)
    ⟨422, js "accept_limit_exceeded",
      js "Per-seller accept limit (2) exceeded for " ++ sellerDid⟩
  let quote ← liftThrown (buildQuoteFromSession env m session offerId)
  let mint ← mintFor session.rfq.currency
  checkAmount env (some (.str quote.finalPrice)) mint (js "Quote final_price normalizes to zero")
  return quote

def lockedAccept (env : EngineEnv) (m : Moment) (rfqId : JsString) (envelope : ControlEnvelope)
    (sellerDid offerId : JsString) (session : Option DerivedSession) :
    Handling NegotiationEvent := do
  let session ← requireSession session
  checkDeadline env m.now session
  assertState session.state [.negotiating]
  require (∃ o ∈ session.offers, o.seller = sellerDid) ⟨404, js "seller_not_found",
    js "Seller " ++ sellerDid ++ js " has not submitted any offers for this RFQ"⟩
  let offer ← orThrow
    (session.offers.find? fun o => decide (o.offerId = offerId ∧ o.seller = sellerDid))
    (.refused ⟨404, js "offer_not_found",
      js "Offer " ++ offerId ++ js " not found for seller " ++ sellerDid⟩)
  require (envelope.sessionRevision = session.lastEventId)
    (staleRevision (js "Session has been modified since the accept envelope was signed"))
  let quote ← acceptedQuote env m session offer sellerDid offerId
  let timestamp ← m.timestamp
  return {
    eventId := m.eventId
    rfqId
    type := .winnerSelected
    timestamp
    actor := session.rfq.buyer
    payload := [(js "seller", .str sellerDid), (js "offer_id", .str offerId),
      (js "quote", .obj (quoteMembers quote))] }

theorem acceptedQuote_ok {env : EngineEnv} {m : Moment} {s : DerivedSession}
    {offer : RecordedOffer} {sellerDid offerId : JsString} {q : SignedQuote}
    (h : acceptedQuote env m s offer sellerDid offerId = .ok q) :
    buildQuoteFromSession env m s offerId = .ok q := by
  simp only [acceptedQuote, bind_eq_ok, liftThrown_eq_ok, pure_eq_ok] at h
  obtain ⟨-, -, -, -, -, -, q, hq, _, -, -, -, rfl⟩ := h
  exact hq

theorem lockedAccept_ok {env : EngineEnv} {m : Moment} {rfqId : JsString}
    {envelope : ControlEnvelope} {sellerDid offerId : JsString}
    {session : Option DerivedSession} {event : NegotiationEvent}
    (h : lockedAccept env m rfqId envelope sellerDid offerId session = .ok event) :
    ∃ s q, session = some s ∧ s.state = .negotiating ∧
      envelope.sessionRevision = s.lastEventId ∧
      buildQuoteFromSession env m s offerId = .ok q ∧ event.type = .winnerSelected ∧
      event.payload = [(js "seller", .str sellerDid), (js "offer_id", .str offerId),
        (js "quote", .obj (quoteMembers q))] := by
  simp only [lockedAccept, requireSession, assertState, bind_eq_ok, orThrow_eq_ok,
    require_eq_ok, pure_eq_ok, List.mem_singleton] at h
  obtain ⟨s, rfl, -, -, -, hstate, -, -, offer, -, -, hrevision, q, hq, _, -, rfl⟩ := h
  exact ⟨s, q, rfl, hstate, hrevision, acceptedQuote_ok hq, rfl, rfl⟩

theorem acceptedQuote_limits {env : EngineEnv} {m : Moment} {s : DerivedSession}
    {offer : RecordedOffer} {sellerDid offerId : JsString} {q : SignedQuote}
    (h : acceptedQuote env m s offer sellerDid offerId = .ok q) :
    s.totalAcceptAttempts < MAX_ACCEPTS_PER_SESSION ∧
      (s.acceptAttemptsBySeller.get? sellerDid).getD 0 < MAX_ACCEPTS_PER_SELLER := by
  simp only [acceptedQuote, bind_eq_ok, require_eq_ok] at h
  obtain ⟨-, -, -, htotal, -, hseller, -⟩ := h
  exact ⟨htotal, hseller⟩

theorem lockedAccept_limits {env : EngineEnv} {m : Moment} {rfqId : JsString}
    {envelope : ControlEnvelope} {sellerDid offerId : JsString} {s : DerivedSession}
    {event : NegotiationEvent}
    (h : lockedAccept env m rfqId envelope sellerDid offerId (some s) = .ok event) :
    s.totalAcceptAttempts < MAX_ACCEPTS_PER_SESSION ∧
      (s.acceptAttemptsBySeller.get? sellerDid).getD 0 < MAX_ACCEPTS_PER_SELLER ∧
      event.payload.lookup (js "seller") = some (.str sellerDid) := by
  simp only [lockedAccept, requireSession, bind_eq_ok, orThrow_eq_ok, require_eq_ok,
    pure_eq_ok, Option.some.injEq] at h
  obtain ⟨_, rfl, -, -, -, -, -, -, offer, -, -, -, q, hq, _, -, rfl⟩ := h
  obtain ⟨htotal, hseller⟩ := acceptedQuote_limits hq
  exact ⟨htotal, hseller, rfl⟩

/-! ### PUT /rfqs/:id/quote/sign and PUT /rfqs/:id/cosign -/

inductive SigningRole where
  | buyer
  | seller
  deriving DecidableEq

/-- The signature in the body, a text. -/
def signatureOf (body : Json) (key : JsString) : Handling JsString := do
  let v ← field body key
  orThrow v.asStr (.refused (malformedPayload (js "Missing or invalid " ++ key)))

def checkQuoteSign (env : EngineEnv) (buyerSignature : JsString)
    (preSession : Option DerivedSession) : Handling Unit := do
  let preSession ← requireSession preSession
  preCheckSignatureFormat env.toCrypto (some (.str buyerSignature))
    (some (.str preSession.rfq.buyer))

def noActiveCommitment : EngineError :=
  ⟨404, js "session_not_found", js "No active commitment found"⟩

/-- The seller of the commitment before the lock. -/
def preSelectedSeller (preSession : Option DerivedSession) : Handling JsString :=
  orThrow (preSession.bind fun s => s.selectedSeller.filter fun seller => !seller.isEmpty)
    (.refused noActiveCommitment)

def checkCosign (env : EngineEnv) (sellerSignature : JsString)
    (preSession : Option DerivedSession) : Handling Unit := do
  let selectedSeller ← preSelectedSeller preSession
  preCheckSignatureFormat env.toCrypto (some (.str sellerSignature)) (some (.str selectedSeller))

def checkQuoteExpiry (env : EngineEnv) (now : ℤ) (message : JsString)
    (session : DerivedSession) : Handling Unit :=
  match JsValue.asStr (JsValue.get? session.unsignedQuote (js "expires_at")) with
  | some expiresAt => require (hasReached now (dateParse env.legacyDate expiresAt) = false)
      ⟨422, js "quote_expired", message⟩
  | none => .ok ()

/-- The checks that both signing routes make first: deadline, quote expiry, state and quote. -/
def checkSignable (env : EngineEnv) (now : ℤ) (expiredMessage missingMessage : JsString)
    (session : DerivedSession) : Handling Unit := do
  checkDeadline env now session
  checkQuoteExpiry env now expiredMessage session
  assertState session.state [.commitPending]
  require session.unsignedQuote.isSome ⟨404, js "quote_not_found", missingMessage⟩

/-- The locked section of `quote/sign` up to the verification of the signature. -/
def lockedQuoteSign (env : EngineEnv) (now : ℤ) (session : Option DerivedSession) :
    Handling DerivedSession := do
  let session ← requireSession session
  checkSignable env now (js "Quote has expired before buyer signature")
    (js "No unsigned quote exists for this session") session
  require session.buyerSignature.isNone
    ⟨409, js "already_signed", js "Buyer has already signed this quote"⟩
  return session

def lockedCosign (env : EngineEnv) (now : ℤ) (session : Option DerivedSession) :
    Handling DerivedSession := do
  let session ← requireSession session
  checkSignable env now (js "Quote has expired before seller cosign")
    (js "No quote exists for this session") session
  require session.buyerSignature.isSome ⟨409, js "buyer_not_signed",
    js "Buyer has not signed the quote yet — buyer must sign before seller cosigns"⟩
  return session

theorem checkSignable_ok {env : EngineEnv} {now : ℤ} {expired missing : JsString}
    {s : DerivedSession} (h : checkSignable env now expired missing s = .ok ()) :
    s.state = .commitPending ∧ s.unsignedQuote.isSome := by
  simp only [checkSignable, assertState, bind_eq_ok, require_eq_ok, List.mem_singleton] at h
  obtain ⟨-, -, -, -, -, hstate, hquote⟩ := h
  exact ⟨hstate, hquote⟩

theorem lockedQuoteSign_ok {env : EngineEnv} {now : ℤ} {session : Option DerivedSession}
    {s : DerivedSession} (h : lockedQuoteSign env now session = .ok s) :
    session = some s ∧ s.state = .commitPending ∧ s.buyerSignature = none := by
  simp only [lockedQuoteSign, requireSession, bind_eq_ok, orThrow_eq_ok, require_eq_ok,
    pure_eq_ok] at h
  obtain ⟨s', rfl, ⟨⟩, hsignable, -, hunsigned, rfl⟩ := h
  exact ⟨rfl, (checkSignable_ok hsignable).1, by simpa using hunsigned⟩

theorem lockedCosign_ok {env : EngineEnv} {now : ℤ} {session : Option DerivedSession}
    {s : DerivedSession} (h : lockedCosign env now session = .ok s) :
    session = some s ∧ s.state = .commitPending ∧ s.buyerSignature.isSome := by
  simp only [lockedCosign, requireSession, bind_eq_ok, orThrow_eq_ok, require_eq_ok,
    pure_eq_ok] at h
  obtain ⟨s', rfl, ⟨⟩, hsignable, -, hsigned, rfl⟩ := h
  exact ⟨rfl, (checkSignable_ok hsignable).1, hsigned⟩

/-- `{ ...session.unsignedQuote }`, which both parties sign. -/
def DerivedSession.quote (s : DerivedSession) : Members :=
  (s.unsignedQuote.map spreadMembers).getD []

/-- The rest of `quote/sign`, over the session that was read before the verification. -/
def finishQuoteSign (env : EngineEnv) (m : Moment) (rfqId buyerSignature : JsString)
    (session : DerivedSession) : Handling NegotiationEvent := do
  verifyQuoteSignature env.toCrypto session.quote buyerSignature session.rfq.buyer
    (js "invalid_buyer_signature")
  let timestamp ← m.timestamp
  return {
    eventId := m.eventId
    rfqId
    type := .quoteSigned
    timestamp
    actor := session.rfq.buyer
    payload := defined [(js "seller", session.selectedSeller.map .str),
      (js "buyer_signature", some (.str buyerSignature))] }

def finishCosign (env : EngineEnv) (m : Moment) (rfqId sellerSignature : JsString)
    (session : DerivedSession) : Handling NegotiationEvent := do
  -- `selectedSeller!` is set in every session that awaits a cosign
  let seller := session.selectedSeller.getD []
  verifyQuoteSignature env.toCrypto session.quote sellerSignature seller
    (js "invalid_seller_signature")
  let timestamp ← m.timestamp
  return {
    eventId := m.eventId
    rfqId
    type := .quoteCommitted
    timestamp
    actor := seller
    payload := [(js "seller", .str seller), (js "seller_signature", .str sellerSignature)] }

theorem finishQuoteSign_ok {env : EngineEnv} {m : Moment} {rfqId signature : JsString}
    {s : DerivedSession} {event : NegotiationEvent}
    (h : finishQuoteSign env m rfqId signature s = .ok event) :
    verifyQuoteSignature env.toCrypto s.quote signature s.rfq.buyer
        (js "invalid_buyer_signature") = .ok () ∧
      event.type = .quoteSigned ∧
      event.payload.lookup (js "buyer_signature") = some (.str signature) := by
  simp only [finishQuoteSign, bind_eq_ok, pure_eq_ok] at h
  obtain ⟨⟨⟩, hverify, timestamp, -, rfl⟩ := h
  refine ⟨hverify, rfl, ?_⟩
  cases s.selectedSeller <;> rfl

theorem finishCosign_ok {env : EngineEnv} {m : Moment} {rfqId signature : JsString}
    {s : DerivedSession} {event : NegotiationEvent}
    (h : finishCosign env m rfqId signature s = .ok event) :
    verifyQuoteSignature env.toCrypto s.quote signature (s.selectedSeller.getD [])
        (js "invalid_seller_signature") = .ok () ∧
      event.type = .quoteCommitted ∧
      event.payload.lookup (js "seller_signature") = some (.str signature) ∧
      event.payload.lookup (js "seller") = some (.str event.actor) := by
  simp only [finishCosign, bind_eq_ok, pure_eq_ok] at h
  obtain ⟨⟨⟩, hverify, timestamp, -, rfl⟩ := h
  exact ⟨hverify, rfl, rfl, rfl⟩

/-! ### PUT /rfqs/:id/decline -/

def checkDecline (env : EngineEnv) (now : ℤ) (tombstones : EnvelopeTombstones)
    (rfqId : JsString) (body : Json) (preSession : Option DerivedSession) :
    Handling (ControlEnvelope × JsString) := do
  let selectedSeller ← preSelectedSeller preSession
  let envelope ← validateControlEnvelope env now tombstones body .decline rfqId selectedSeller
    (js "invalid_seller_signature")
  return (envelope, selectedSeller)

/-- `preSelected` is the selected seller before the lock, for whom the envelope was verified. -/
def lockedDecline (env : EngineEnv) (m : Moment) (rfqId : JsString) (envelope : ControlEnvelope)
    (preSelected : JsString) (session : Option DerivedSession) : Handling NegotiationEvent := do
  let session ← requireSession session
  checkDeadline env m.now session
  assertState session.state [.commitPending]
  let selectedSeller ← orThrow (session.selectedSeller.filter fun seller => !seller.isEmpty)
    (.refused ⟨409, js "invalid_state_transition", js "No seller selected"⟩)
  require (selectedSeller = preSelected)
    (staleRevision (js "Selected seller changed since decline envelope was signed"))
  require (envelope.sessionRevision = session.lastEventId)
    (staleRevision (js "Session has been modified since the decline envelope was signed"))
  let timestamp ← m.timestamp
  return {
    eventId := m.eventId
    rfqId
    type := .cosignDeclined
    timestamp
    actor := selectedSeller
    payload := [(js "seller", .str selectedSeller)] }

theorem lockedDecline_ok {env : EngineEnv} {m : Moment} {rfqId : JsString}
    {envelope : ControlEnvelope} {signer : JsString} {session : Option DerivedSession}
    {event : NegotiationEvent}
    (h : lockedDecline env m rfqId envelope signer session = .ok event) :
    ∃ s, session = some s ∧ s.selectedSeller = some signer ∧
      envelope.sessionRevision = s.lastEventId ∧ event.type = .cosignDeclined ∧
      event.payload.lookup (js "seller") = some (.str event.actor) := by
  simp only [lockedDecline, requireSession, bind_eq_ok, orThrow_eq_ok, require_eq_ok,
    pure_eq_ok, Option.filter_eq_some_iff] at h
  obtain ⟨s, rfl, -, -, -, -, seller, ⟨hseller, -⟩, -, rfl, -, hrevision, _, -, rfl⟩ := h
  exact ⟨s, rfl, hseller, hrevision, rfl, rfl⟩

/-! ### GET /rfqs/:id/quote -/

/-- `{ ...quote, buyer_signature, seller_signature }` -/
def signedMembers (quote : Json) (buyerSignature sellerSignature : Option JsString) : Members :=
  spread (spread (spreadMembers quote) (js "buyer_signature") (.str (buyerSignature.getD [])))
    (js "seller_signature") (.str (sellerSignature.getD []))

def lockedQuoteRead (callerDid : JsString) (session : Option DerivedSession) :
    Handling Reply := do
  let session ← requireSession session
  require (session.state ∈ [.commitPending, .committed])
    ⟨404, js "quote_not_found", js "No quote exists in the current state"⟩
  require (callerDid = session.rfq.buyer ∨ some callerDid = session.selectedSeller)
    ⟨401, js "unauthorized", js "Only the buyer or selected seller can read the quote"⟩
  let quote ← orThrow session.unsignedQuote
    (.refused ⟨404, js "quote_not_found", js "Quote data not found in session"⟩)
  return ⟨200, signedMembers quote session.buyerSignature session.sellerSignature⟩

/-! ### Replies -/

def declineReply (rfqId : JsString) (session : DerivedSession) : Reply :=
  ⟨200, [(js "rfq_id", .str rfqId), (js "state", .str session.state.text)]⟩

end GhostBazaar.Engine
