import GhostBazaar.Engine.Middleware
import GhostBazaar.Js.Stringify

/-! The routes that open a session and collect bids: `POST /rfqs`, `POST /rfqs/:id/offers`
and `POST /rfqs/:id/counter`. A `check` runs before the lock, a `locked` section inside. -/
namespace GhostBazaar.Engine
open Js GhostBazaar.Core

/-! ### Shared checks -/

def parseBody (body : Option Json) : Handling Json :=
  orThrow body (.refused (malformedPayload (js "Invalid JSON body")))

def requireSession (session : Option DerivedSession) : Handling DerivedSession :=
  orThrow session (.refused sessionNotFound)

/-- The `as string` cast of a value that a check has found to be a text. -/
def castText (v : JsValue) : JsString := v.asStr.getD []

/-- The members of the body with these names; a missing one is left out. -/
def pick (body : Json) (keys : List JsString) : Members :=
  defined (keys.map fun key => (key, body.get? key))

theorem map_fst_fields (body : Json) (keys : List JsString) :
    (keys.map fun key => (key, body.get? key)).map Prod.fst = keys := by
  rw [List.map_map]
  exact List.map_id _

theorem lookup_pick {body : Json} {keys : List JsString} (hkeys : keys.Nodup) (key : JsString) :
    (pick body keys).lookup key = if key ∈ keys then body.get? key else none := by
  rw [pick, lookup_defined (by rwa [map_fst_fields])]
  clear hkeys
  induction keys with
  | nil => rfl
  | cons k keys ih =>
    by_cases hk : key = k
    · simp [hk]
    · have hne : (key == k) = false := by simpa using hk
      simp [List.lookup_cons, hne, ih, hk]

/-- `JSON.stringify(v).length` -/
def jsonLength (v : Json) : ℕ := ((stringify v).flatMap utf16Units).length

/-- The refusal of a validator as the answer of its route. -/
def answerValidation (kind : JsString) (unprocessable : List ValidationCode)
    (v : Validation Unit) : Handling Unit :=
  match v with
  | .ok () => .ok ()
  | .error (.thrown e) => .error (.thrown e)
  | .error (.refused code) => .error (.refused ⟨if code ∈ unprocessable then 422 else 400,
      code.text, kind ++ js " validation failed: " ++ code.text⟩)

/-- `extensions`, when present, is a plain object of bounded size. -/
def checkExtensions (body : Json) : Handling Unit :=
  match body.get? (js "extensions") with
  | none => .ok ()
  | some v => do
    require ((asPlainObject (some v)).isSome)
      (malformedPayload (js "extensions must be a plain object"))
    require (jsonLength v ≤ 4096) (malformedPayload (js "extensions exceeds 4096 bytes"))

/-- An amount that is positive in micro-units. -/
def checkAmount (env : EngineEnv) (amount : JsValue) (mint message : JsString) : Handling Unit := do
  let units ← liftThrown (normalizeAmount env.mintDecimals amount mint)
  require (0 < units) ⟨422, js "invalid_amount", message⟩

def SessionRfq.terms (rfq : SessionRfq) : RfqTerms := ⟨rfq.rfqId, rfq.currency, rfq.budgetCommitment⟩

/-! ### POST /rfqs -/

def MAX_SPEC_SIZE : ℕ := 8192

def validateSpecAndExtensions (body : Json) : Handling Unit := do
  let spec ← orThrow (asPlainObject (body.get? (js "spec")))
    (.refused (malformedPayload (js "spec must be a plain object")))
  require (jsonLength (.obj spec) ≤ MAX_SPEC_SIZE)
    (malformedPayload (js "spec exceeds 8192 bytes"))
  checkExtensions body

def extractRfqFields (body : Json) : Members :=
  pick body [js "rfq_id", js "protocol", js "buyer", js "service_type", js "spec",
    js "anchor_price", js "currency", js "deadline", js "signature", js "budget_commitment",
    js "extensions"]

def checkRfq (env : EngineEnv) (now : ℤ) (body : Json) : Handling Unit := do
  answerValidation (js "RFQ") [.invalidAmount, .invalidDeadline, .currencyMismatch,
    .unsupportedCurrency, .invalidBudgetCommitmentFormat] (validateRfq env.toCrypto now body)
  validateSpecAndExtensions body
  let mint ← mintFor (castText (body.get? (js "currency")))
  checkAmount env (body.get? (js "anchor_price")) mint (js "anchor_price normalizes to zero")
  preCheckSignatureFormat env.toCrypto (body.get? (js "signature")) (body.get? (js "buyer"))
  verifySignature env.toCrypto (extractRfqFields body) (castText (body.get? (js "signature")))
    (castText (body.get? (js "buyer"))) (js "invalid_buyer_signature")

def requireNewRfq (hasSession : Bool) (rfqId : JsString) : Handling Unit :=
  require (hasSession = false)
    ⟨409, js "duplicate_object_id", js "RFQ " ++ rfqId ++ js " already exists"⟩

/-- A `rfq_id` that is no text never makes a session: the replay in `appendEvent` throws. -/
def rfqKey (m : Moment) (body : Json) : Handling JsString :=
  orThrow (JsValue.asStr (body.get? (js "rfq_id")))
    (.thrown (.error (missingField (js "string") (js "rfq_id") m.eventId)))

def lockedRfq (m : Moment) (rfqId : JsString) (body : Json) (session : Option DerivedSession) :
    Handling NegotiationEvent := do
  requireNewRfq session.isSome rfqId
  let timestamp ← m.timestamp
  return {
    eventId := m.eventId
    rfqId
    type := .rfqCreated
    timestamp
    actor := castText (body.get? (js "buyer"))
    payload := extractRfqFields body }

theorem lookup_extractRfqFields (body : Json) (key : JsString) :
    (extractRfqFields body).lookup key =
      if key ∈ [js "rfq_id", js "protocol", js "buyer", js "service_type", js "spec",
        js "anchor_price", js "currency", js "deadline", js "signature", js "budget_commitment",
        js "extensions"] then body.get? key else none :=
  lookup_pick (by decide +kernel) key

/-- The payload is read from the body, and the actor is the buyer that the payload names. -/
theorem lockedRfq_ok {m : Moment} {rfqId : JsString} {body : Json}
    {session : Option DerivedSession} {event : NegotiationEvent}
    (h : lockedRfq m rfqId body session = .ok event) :
    event.type = .rfqCreated ∧ event.payload = extractRfqFields body ∧
      event.actor = castText (event.payload.lookup (js "buyer")) := by
  simp only [lockedRfq, bind_eq_ok, pure_eq_ok] at h
  obtain ⟨-, -, _, -, rfl⟩ := h
  refine ⟨rfl, rfl, congrArg castText ?_⟩
  rw [lookup_extractRfqFields, if_pos (by decide +kernel)]

/-! ### POST /rfqs/:id/offers -/

structure Listing where
  listingId : JsString
  seller : JsString
  paymentEndpoint : JsString

structure ListingStore where
  listings : JsMap JsString Listing

namespace ListingStore

def MAX_LISTINGS : ℕ := 10000

def empty : ListingStore := ⟨.empty⟩

def add (s : ListingStore) (listing : Listing) : Except JsString ListingStore := do
  ensure (s.listings.entries.length < MAX_LISTINGS)
    (js "ListingStore: capacity limit reached (10000)")
  ensure (s.listings.get? listing.listingId).isNone
    (js "ListingStore: duplicate listing_id \"" ++ listing.listingId ++ js "\"")
  return ⟨s.listings.set listing.listingId listing⟩

def findBySellerAndId (s : ListingStore) (sellerDid listingId : JsString) : Option Listing :=
  (s.listings.get? listingId).filter fun listing => listing.seller = sellerDid

end ListingStore

def MAX_OFFERS_PER_SESSION : ℕ := 50

def MAX_OFFERS_PER_SELLER : ℕ := 5

def extractOfferFields (body : Json) : Members :=
  pick body [js "offer_id", js "rfq_id", js "seller", js "listing_id", js "price",
    js "currency", js "valid_until", js "signature", js "extensions"]

def checkOffer (env : EngineEnv) (now : ℤ) (rfqId : JsString) (body : Json)
    (session : Option DerivedSession) : Handling Unit := do
  let session ← requireSession session
  answerValidation (js "Offer") [.invalidAmount, .currencyMismatch, .invalidExpiry]
    (validateOffer env.toCrypto now body session.rfq.terms)
  let mint ← mintFor session.rfq.currency
  checkAmount env (body.get? (js "price")) mint (js "Offer price normalizes to zero")
  checkExtensions body
  require (body.get? (js "rfq_id") = some (.str rfqId))
    ⟨400, js "rfq_id_mismatch", js "Offer rfq_id does not match route"⟩
  preCheckSignatureFormat env.toCrypto (body.get? (js "signature")) (body.get? (js "seller"))
  verifySignature env.toCrypto (extractOfferFields body) (castText (body.get? (js "signature")))
    (castText (body.get? (js "seller"))) (js "invalid_seller_signature")

def lockedOffer (env : EngineEnv) (m : Moment) (listingStore : ListingStore) (rfqId : JsString)
    (body : Json) (session : Option DerivedSession) : Handling NegotiationEvent := do
  let session ← requireSession session
  checkDeadline env m.now session
  assertState session.state [.open, .negotiating]
  let offerId : JsValue := body.get? (js "offer_id")
  require (∀ o ∈ session.offers, offerId ≠ some (.str o.offerId))
    ⟨409, js "duplicate_object_id", js "Offer " ++ castText offerId ++ js " already exists"⟩
  require (session.totalOfferCount < MAX_OFFERS_PER_SESSION)
    ⟨422, js "session_offer_limit", js "Session offer limit (50) exceeded"⟩
  let sellerDid := castText (body.get? (js "seller"))
  require ((session.offerCountBySeller.get? sellerDid).getD 0 < MAX_OFFERS_PER_SELLER)
    ⟨422, js "seller_offer_limit", js "Per-seller offer limit (5) exceeded"⟩
  let listingId := castText (body.get? (js "listing_id"))
  let listing ← orThrow (listingStore.findBySellerAndId sellerDid listingId)
    (.refused ⟨422, js "missing_listing", js "Seller has no registered listing"⟩)
  require (listing.paymentEndpoint ≠ [])
    ⟨422, js "missing_payment_endpoint", js "Seller listing has no payment_endpoint"⟩
  let timestamp ← m.timestamp
  return {
    eventId := m.eventId
    rfqId
    type := .offerSubmitted
    timestamp
    actor := sellerDid
    payload := defined [(js "rfq_id", some (.str rfqId)), (js "offer_id", offerId),
      (js "seller", some (.str sellerDid)), (js "price", body.get? (js "price")),
      (js "currency", body.get? (js "currency")),
      (js "valid_until", body.get? (js "valid_until")),
      (js "signature", body.get? (js "signature")), (js "listing_id", some (.str listingId)),
      (js "payment_endpoint", some (.str listing.paymentEndpoint)),
      (js "extensions", body.get? (js "extensions"))] }

/-- An offer is recorded under an id that no recorded offer has. -/
theorem lockedOffer_ok {env : EngineEnv} {m : Moment} {listingStore : ListingStore}
    {rfqId : JsString} {body : Json} {session : Option DerivedSession}
    {event : NegotiationEvent}
    (h : lockedOffer env m listingStore rfqId body session = .ok event) :
    event.type = .offerSubmitted ∧ ∃ s, session = some s ∧
      ∀ o ∈ s.offers, event.payload.lookup (js "offer_id") ≠ some (.str o.offerId) := by
  simp only [lockedOffer, requireSession, bind_eq_ok, orThrow_eq_ok, require_eq_ok,
    pure_eq_ok] at h
  obtain ⟨s, rfl, -, -, -, -, -, hfresh, -, -, -, -, listing, -, -, -, _, -, rfl⟩ := h
  refine ⟨rfl, s, rfl, fun o ho => ?_⟩
  have hkeys : [js "rfq_id", js "offer_id", js "seller", js "price", js "currency",
      js "valid_until", js "signature", js "listing_id", js "payment_endpoint",
      js "extensions"].Nodup := by decide +kernel
  refine ne_of_eq_of_ne (lookup_defined ?_ (js "offer_id")) (hfresh o ho)
  exact hkeys

theorem lockedOffer_limits {env : EngineEnv} {m : Moment} {listingStore : ListingStore}
    {rfqId : JsString} {body : Json} {s : DerivedSession} {event : NegotiationEvent}
    (h : lockedOffer env m listingStore rfqId body (some s) = .ok event) :
    s.totalOfferCount < MAX_OFFERS_PER_SESSION ∧
      (s.offerCountBySeller.get? event.actor).getD 0 < MAX_OFFERS_PER_SELLER := by
  simp only [lockedOffer, requireSession, bind_eq_ok, orThrow_eq_ok, require_eq_ok,
    pure_eq_ok, Option.some.injEq] at h
  obtain ⟨_, rfl, -, -, -, -, -, -, -, htotal, -, hseller, _, -, -, -, _, -, rfl⟩ := h
  exact ⟨htotal, hseller⟩

/-! ### POST /rfqs/:id/counter -/

def extractCounterFields (body : Json) : Members :=
  pick body [js "counter_id", js "rfq_id", js "round", js "from", js "to", js "price",
    js "currency", js "valid_until", js "signature", js "budget_proof", js "extensions"]

def unauthorizedCounter (message : JsString) : EngineError :=
  ⟨422, js "unauthorized_counter", message⟩

/-- Step 9: the proof is asked for exactly when the RFQ carries a commitment. -/
def checkCounterProof (env : EngineEnv) (body : Json) (session : DerivedSession)
    (mint : JsString) : Handling Unit :=
  match session.rfq.budgetCommitment.filter fun s => !s.isEmpty with
  | none => require ((body.get? (js "budget_proof")).isNone) ⟨422, js "unexpected_budget_proof",
      js "Budget proof provided but RFQ has no budget_commitment"⟩
  | some commitment => do
    let budgetProof ← orThrow ((body.get? (js "budget_proof")).filter Json.isTruthy)
      (.refused ⟨422, js "missing_budget_proof",
        js "Budget proof required when RFQ has budget_commitment"⟩)
    let expectedScaled ← liftThrown
      (normalizeAmount env.mintDecimals (body.get? (js "price")) mint)
    require (budgetProof.get? (js "counter_price_scaled") = some (.str (natText expectedScaled)))
      ⟨422, js "proof_price_mismatch",
        js "budget_proof.counter_price_scaled does not match normalized counter price"⟩
    require (env.verifyBudgetProof budgetProof expectedScaled commitment)
      ⟨422, js "invalid_budget_proof", js "Budget proof verification failed"⟩

/-- Step 0, which comes before the session is looked up. -/
def preCheckCounter (env : EngineEnv) (body : Json) : Handling Unit := do
  let signature ← field body (js "signature")
  let sender ← field body (js "from")
  preCheckSignatureFormat env.toCrypto signature sender

def checkCounter (env : EngineEnv) (now : ℤ) (rfqId : JsString) (body : Json)
    (session : Option DerivedSession) : Handling Unit := do
  let session ← requireSession session
  answerValidation (js "Counter") [.invalidAmount, .currencyMismatch, .invalidExpiry,
    .invalidRound, .missingBudgetProof, .invalidBudgetProof, .unexpectedBudgetProof]
    (validateCounter env.toCrypto now body session.rfq.terms)
  let mint ← mintFor session.rfq.currency
  checkAmount env (body.get? (js "price")) mint (js "Counter price normalizes to zero")
  checkExtensions body
  require (body.get? (js "rfq_id") = some (.str rfqId))
    ⟨400, js "rfq_id_mismatch", js "Counter rfq_id does not match route"⟩
  require (body.get? (js "from") = some (.str session.rfq.buyer))
    (unauthorizedCounter (js "Only the RFQ buyer can send counters"))
  require (∃ o ∈ session.offers, body.get? (js "to") = some (.str o.seller))
    (unauthorizedCounter (js "Counter recipient has no recorded offer"))
  checkCounterProof env body session mint
  verifySignature env.toCrypto (extractCounterFields body)
    (castText (body.get? (js "signature"))) (castText (body.get? (js "from")))
    (js "invalid_buyer_signature")

/-- `Math.max(max, ct.round)` over the recorded counters. -/
def maxExistingRound (counters : List RecordedCounter) : JsNumber :=
  counters.foldl (fun max ct => if max.le ct.round then ct.round else max) .zero

def numberText (x : JsNumber) : JsString := x.toText.flatMap utf16Units

def asNumber (v : JsValue) : JsNumber := (v.bind asNum).getD .zero

def lockedCounter (env : EngineEnv) (m : Moment) (rfqId : JsString) (body : Json)
    (session : Option DerivedSession) : Handling NegotiationEvent := do
  let session ← requireSession session
  checkDeadline env m.now session
  assertState session.state [.negotiating]
  require (∃ o ∈ session.offers, body.get? (js "to") = some (.str o.seller))
    (unauthorizedCounter (js "Counter recipient has no recorded offer"))
  let counterId : JsValue := body.get? (js "counter_id")
  require (∀ ct ∈ session.counters, counterId ≠ some (.str ct.counterId))
    ⟨409, js "duplicate_object_id", js "Counter " ++ castText counterId ++ js " already exists"⟩
  let round := asNumber (body.get? (js "round"))
  let maxRound := maxExistingRound session.counters
  require (round.le maxRound = false) ⟨422, js "invalid_round", js "Counter round " ++
    numberText round ++ js " must exceed current max " ++ numberText maxRound⟩
  let timestamp ← m.timestamp
  return {
    eventId := m.eventId
    rfqId
    type := .counterSent
    timestamp
    actor := castText (body.get? (js "from"))
    payload := defined [(js "rfq_id", some (.str rfqId)), (js "counter_id", counterId),
      (js "round", body.get? (js "round")), (js "from", body.get? (js "from")),
      (js "to", body.get? (js "to")), (js "price", body.get? (js "price")),
      (js "currency", body.get? (js "currency")),
      (js "valid_until", body.get? (js "valid_until")),
      (js "signature", body.get? (js "signature")),
      (js "budget_proof", body.get? (js "budget_proof")),
      (js "extensions", body.get? (js "extensions"))] }

theorem lockedCounter_ok {env : EngineEnv} {m : Moment} {rfqId : JsString} {body : Json}
    {session : Option DerivedSession} {event : NegotiationEvent}
    (h : lockedCounter env m rfqId body session = .ok event) : event.type = .counterSent := by
  simp only [lockedCounter, bind_eq_ok, pure_eq_ok] at h
  obtain ⟨_, -, -, -, -, -, -, -, -, -, -, -, _, -, rfl⟩ := h
  rfl

/-- A counter is recorded under a new id, and its round exceeds the recorded ones. -/
theorem lockedCounter_fresh {env : EngineEnv} {m : Moment} {rfqId : JsString} {body : Json}
    {s : DerivedSession} {event : NegotiationEvent}
    (h : lockedCounter env m rfqId body (some s) = .ok event) :
    (∀ ct ∈ s.counters, event.payload.lookup (js "counter_id") ≠ some (.str ct.counterId)) ∧
      (asNumber (event.payload.lookup (js "round"))).le (maxExistingRound s.counters) = false := by
  simp only [lockedCounter, requireSession, bind_eq_ok, orThrow_eq_ok, require_eq_ok,
    pure_eq_ok, Option.some.injEq] at h
  obtain ⟨_, rfl, -, -, -, -, -, -, -, hfresh, -, hround, _, -, rfl⟩ := h
  have hkeys : [js "rfq_id", js "counter_id", js "round", js "from", js "to", js "price",
      js "currency", js "valid_until", js "signature", js "budget_proof",
      js "extensions"].Nodup := by decide +kernel
  refine ⟨fun ct hct => ne_of_eq_of_ne (lookup_defined ?_ (js "counter_id")) (hfresh ct hct), ?_⟩
  · exact hkeys
  · refine (congrArg (fun v => (asNumber v).le _) (lookup_defined ?_ (js "round"))).trans hround
    exact hkeys

/-! ### Replies -/

def rfqReply (session : DerivedSession) : Reply :=
  ⟨201, [(js "rfq_id", .str session.rfq.rfqId), (js "state", .str session.state.text),
    (js "buyer", .str session.rfq.buyer), (js "service_type", .str session.rfq.serviceType),
    (js "anchor_price", .str session.rfq.anchorPrice),
    (js "currency", .str session.rfq.currency), (js "deadline", .str session.rfq.deadline)]⟩

def offerReply (rfqId : JsString) (body : Json) (session : DerivedSession) : Reply :=
  ⟨201, defined [(js "offer_id", body.get? (js "offer_id")), (js "rfq_id", some (.str rfqId)),
    (js "state", some (.str session.state.text)), (js "seller", body.get? (js "seller")),
    (js "price", body.get? (js "price"))]⟩

def counterReply (rfqId : JsString) (body : Json) (session : DerivedSession) : Reply :=
  ⟨201, defined [(js "counter_id", body.get? (js "counter_id")),
    (js "rfq_id", some (.str rfqId)), (js "state", some (.str session.state.text)),
    (js "round", body.get? (js "round")), (js "from", body.get? (js "from")),
    (js "to", body.get? (js "to")), (js "price", body.get? (js "price"))]⟩

end GhostBazaar.Engine
