import GhostBazaar.Engine.Callback

/-! The synchronous segments of the routes. A segment runs from one suspension of a
request to the next, and looks at no more than one session. -/
namespace GhostBazaar.Engine
open Js GhostBazaar.Core Settlement

/-- A request to a route that writes sessions or reads a quote; a body is `none` when it
is no JSON. -/
inductive Request where
  | createRfq (body : Option Json)
  | submitOffer (rfqId : JsString) (body : Option Json)
  | sendCounter (rfqId : JsString) (body : Option Json)
  | accept (rfqId : JsString) (body : Option Json)
  | sign (role : SigningRole) (rfqId : JsString) (body : Option Json)
  | decline (rfqId : JsString) (body : Option Json)
  | readQuote (rfqId : JsString) (authorization : Option JsString)
  | execute (quoteHeader paymentSignature : Option JsString)
  | settleReport (rfqId : JsString) (authorization : Option JsString) (body : Option Json)

/-- Which route waits for the RPC, with what it still needs. -/
inductive Fetch where
  | execute
  | settleReport (rfqId : JsString) (quoteId : JsValue)

/-- What a suspended request does next. -/
inductive Continuation where
  | createRfq (body : Json)
  | submitOffer (rfqId : JsString) (body : Json)
  | sendCounter (rfqId : JsString) (body : Json)
  /-- The signature has been verified, and the tombstone is not written yet. -/
  | envelopeVerified (rfqId : JsString) (envelope : ControlEnvelope) (signer : JsString)
  | envelopeValidated (rfqId : JsString) (envelope : ControlEnvelope) (signer : JsString)
  | readQuote (rfqId callerDid : JsString)
  | settleReport (rfqId callerDid : JsString) (body : Option Json)
  | reporterChecked (rfqId : JsString) (session : DerivedSession) (body : Option Json)
  | fetching (fetch : Fetch) (request : SettlementRequest) (quote : Members)

inductive Next where
  | suspend (k : Continuation)
  | lock (rfqId : JsString) (callback : Callback)

inductive Segment where
  | done (next : Handling Next)
  /-- `getSession` -/
  | load (rfqId : JsString) (k : Option DerivedSession → Handling Next)
  /-- `hasSession` -/
  | probe (rfqId : JsString) (k : Bool → Handling Next)

def Segment.after {α : Type} (x : Handling α) (k : α → Segment) : Segment :=
  match x with
  | .ok a => k a
  | .error e => .done (.error e)

/-! ### The first segment of a request -/

def SigningRole.key : SigningRole → JsString
  | .buyer => js "buyer_signature"
  | .seller => js "seller_signature"

/-- The checks of the signing routes before the lock. -/
def checkSigner (env : EngineEnv) (signature : JsString) (session : Option DerivedSession) :
    SigningRole → Handling Unit
  | .buyer => checkQuoteSign env signature session
  | .seller => checkCosign env signature session

def Request.begin (env : EngineEnv) (m : Moment) (tombstones : EnvelopeTombstones) :
    Request → Segment
  | .createRfq body => .done do
    let body ← parseBody body
    checkRfq env m.now body
    return .suspend (.createRfq body)
  | .submitOffer rfqId body => .after (parseBody body) fun body => .load rfqId fun session => do
    checkOffer env m.now rfqId body session
    return .suspend (.submitOffer rfqId body)
  | .sendCounter rfqId body =>
    .after (do
      let body ← parseBody body
      preCheckCounter env body
      return body) fun body => .load rfqId fun session => do
    checkCounter env m.now rfqId body session
    return .suspend (.sendCounter rfqId body)
  | .accept rfqId body => .after (parseBody body) fun body => .load rfqId fun session => do
    let (envelope, signer) ← checkAccept env m.now tombstones rfqId body session
    return .suspend (.envelopeVerified rfqId envelope signer)
  | .decline rfqId body => .after (parseBody body) fun body => .load rfqId fun session => do
    let (envelope, signer) ← checkDecline env m.now tombstones rfqId body session
    return .suspend (.envelopeVerified rfqId envelope signer)
  | .sign role rfqId body =>
    .after (do
      let body ← parseBody body
      signatureOf body role.key) fun signature => .load rfqId fun session => do
    checkSigner env signature session role
    return .lock rfqId (.sign role signature)
  | .readQuote rfqId authorization => .done do
    let callerDid ← authenticateCaller env.toCrypto m.now authorization
    return .suspend (.readQuote rfqId callerDid)
  | .execute quoteHeader paymentSignature => .done do
    let (request, quote) ← openExecute env m.now quoteHeader paymentSignature
    return .suspend (.fetching .execute request quote)
  | .settleReport rfqId authorization body => .done do
    let callerDid ← authenticateCaller env.toCrypto m.now authorization
    return .suspend (.settleReport rfqId callerDid body)

/-! ### Later segments -/

/-- What follows `validateControlEnvelope`: only `accept` reads the payload. -/
def afterEnvelope (rfqId : JsString) (envelope : ControlEnvelope) (signer : JsString) :
    Handling Next :=
  match envelope.action with
  | .accept => do
    let (sellerDid, offerId) ← acceptTarget envelope
    return .lock rfqId (.accept envelope signer sellerDid offerId)
  | .decline => .ok (.lock rfqId (.decline envelope signer))

/-- `none` where the request waits for something else than a microtask. -/
def Continuation.resume (env : EngineEnv) (m : Moment) : Continuation → Option Segment
  | .createRfq body => some <| .after (rfqKey m body) fun rfqId => .probe rfqId fun found => do
    requireNewRfq found rfqId
    return .lock rfqId (.createRfq body)
  | .submitOffer rfqId body => some (.done (.ok (.lock rfqId (.submitOffer body))))
  | .sendCounter rfqId body => some (.done (.ok (.lock rfqId (.sendCounter body))))
  | .envelopeVerified rfqId envelope signer =>
    some (.done (.ok (.suspend (.envelopeValidated rfqId envelope signer))))
  | .envelopeValidated rfqId envelope signer =>
    some (.done (afterEnvelope rfqId envelope signer))
  | .readQuote rfqId callerDid => some (.done (.ok (.lock rfqId (.readQuote callerDid))))
  | .settleReport rfqId callerDid body => some <| .load rfqId fun session => do
    let session ← checkReporter callerDid session
    return .suspend (.reporterChecked rfqId session body)
  | .reporterChecked rfqId session body => some <| .done do
    let (request, quote, quoteId) ← openReport env m.now session body
    return .suspend (.fetching (.settleReport rfqId quoteId) request quote)
  | .fetching _ _ _ => none

/-- The id of the envelope whose tombstone a segment writes first. -/
def Continuation.tombstone : Continuation → Option JsString
  | .envelopeVerified _ envelope _ => some envelope.envelopeId
  | _ => none

/-- How a settlement route answers an exception that is no `SettlementError`. -/
def SettlementRoute.unexpected : SettlementRoute → EngineError
  | .execute => internalError
  | .settleReport => verificationFailed

def Fetch.route : Fetch → SettlementRoute
  | .execute => .execute
  | .settleReport _ _ => .settleReport

/-- The segment that starts when the RPC has returned `tx`. -/
def Fetch.resume (env : EngineEnv) (m : Moment) (request : SettlementRequest) (quote : Members)
    (tx : JsValue) (fetch : Fetch) : Segment :=
  .after (settling fetch.route.unexpected
    (settleTransaction env.toSettlementEnv request quote tx)) fun result =>
  match fetch with
  | .execute =>
    -- a `rfq_id` that is no text is the key of no session
    .after (orThrow (JsValue.asStr (result.quote.lookup (js "rfq_id"))) (.refused noSession))
      fun rfqId => .load rfqId fun session => do
    let confirmation ← checkExecute result session
    return .lock rfqId (.confirm confirmation)
  | .settleReport rfqId quoteId => .done do
    let verifiedAt ← orThrow (toISOString m.now) (.refused verificationFailed)
    return .lock rfqId (.confirm ⟨.settleReport, result, quoteId, some verifiedAt⟩)

/-- A settlement route answers whatever its callback throws. -/
def Callback.answerError : Callback → Failure EngineError → Failure EngineError
  | .confirm c, .thrown _ => .refused c.route.unexpected
  | _, failure => failure

end GhostBazaar.Engine
