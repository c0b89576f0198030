import GhostBazaar.Engine.Routes.Commitment

/-! The routes that record a settlement: `POST /execute` and `POST /rfqs/:id/settle-report`. -/
namespace GhostBazaar.Engine
open Js GhostBazaar.Core Settlement

/-! ### Failures -/

/-- The answer to a `SettlementError`; only client errors keep their status. -/
def answerSettlement (unexpected : EngineError) : Failure SettlementError → Failure EngineError
  | .refused e => .refused
      ⟨if 400 ≤ e.httpStatus ∧ e.httpStatus < 500 then e.httpStatus else 422, e.code, e.message⟩
  | .thrown _ => .refused unexpected

def settling {α : Type} (unexpected : EngineError) (x : Settling α) : Handling α :=
  match x with
  | .ok a => .ok a
  | .error e => .error (answerSettlement unexpected e)

theorem settling_eq_ok {α : Type} {unexpected : EngineError} {x : Settling α} {a : α} :
    settling unexpected x = .ok a ↔ x = .ok a := by
  cases x <;> simp [settling]

def internalError : EngineError :=
  ⟨500, js "internal_error", js "Unexpected settlement verification error"⟩

def verificationFailed : EngineError :=
  ⟨422, js "verification_failed", js "On-chain settlement verification failed"⟩

/-! ### The recorded event -/

inductive SettlementRoute where
  | execute
  | settleReport
  deriving DecidableEq

/-- What a settlement route carries into its locked section. -/
structure Confirmation where
  route : SettlementRoute
  result : VerificationResult
  quoteId : JsValue
  /-- The time that `settle-report` reads before it takes the lock. -/
  verifiedAt : Option JsString

def verificationMembers (v : Verification) : Members :=
  [(js "amount_matched", .bool v.amountMatched), (js "mint_matched", .bool v.mintMatched),
    (js "destination_matched", .bool v.destinationMatched),
    (js "memo_matched", .bool v.memoMatched),
    (js "confirmations", .num (.ofNat v.confirmations)),
    (js "block_time", match v.blockTime with
      | some t => .str t
      | none => .null),
    (js "solana_explorer", .str v.solanaExplorer)]

def settlementMembers (c : Confirmation) (verifiedAt : JsString) : Members :=
  defined [(js "tx_sig", some (.str c.result.txSig)), (js "quote_id", c.quoteId),
    (js "final_price", c.result.quote.lookup (js "final_price")),
    (js "buyer", c.result.quote.lookup (js "buyer")),
    (js "seller", c.result.quote.lookup (js "seller")),
    (js "verified_at", some (.str verifiedAt)),
    (js "verification", some (.obj (verificationMembers c.result.verification)))]

def Confirmation.time (m : Moment) (c : Confirmation) : Handling JsString :=
  match c.verifiedAt with
  | some t => .ok t
  | none => m.timestamp

/-- Nothing is appended when the session is already settled. -/
def lockedConfirm (m : Moment) (rfqId : JsString) (c : Confirmation)
    (existingEvents : List NegotiationEvent) : Handling (Option NegotiationEvent) :=
  if existingEvents.any fun e => decide (e.type = .settlementConfirmed) then .ok none
  else do
    let verifiedAt ← c.time m
    return some {
      eventId := m.eventId
      rfqId
      type := .settlementConfirmed
      timestamp := verifiedAt
      actor := js "system:settlement-verifier"
      payload := settlementMembers c verifiedAt }

theorem lockedConfirm_ok {m : Moment} {rfqId : JsString} {c : Confirmation}
    {log : List NegotiationEvent} {event : NegotiationEvent}
    (h : lockedConfirm m rfqId c log = .ok (some event)) :
    (∀ e ∈ log, e.type ≠ .settlementConfirmed) ∧ event.type = .settlementConfirmed ∧
      event.actor = js "system:settlement-verifier" ∧
      ∃ verifiedAt, event.payload = settlementMembers c verifiedAt := by
  rw [lockedConfirm] at h
  split_ifs at h with hsettled
  · simp at h
  · simp only [bind_eq_ok, pure_eq_ok, Option.some.injEq] at h
    obtain ⟨verifiedAt, -, rfl⟩ := h
    exact ⟨by simpa using hsettled, rfl, rfl, verifiedAt, rfl⟩

/-! ### POST /execute -/

def requireHeader (header : Option JsString) (code message : JsString) : Handling JsString :=
  orThrow (header.filter fun h => !h.isEmpty) (.refused ⟨400, code, message⟩)

def settlementRequest (env : EngineEnv) (quoteHeaderB64 paymentSignature : JsString) :
    SettlementRequest := ⟨quoteHeaderB64, paymentSignature, env.usdcMint, env.cluster⟩

/-- The request up to the RPC: the quote of the header and what is settled with it. -/
def openExecute (env : EngineEnv) (now : ℤ) (quoteHeader paymentSignature : Option JsString) :
    Handling (SettlementRequest × Members) := do
  let quoteHeaderB64 ← requireHeader quoteHeader (js "malformed_quote_header")
    (js "X-Ghost-Bazaar-Quote header required")
  let paymentSignature ← requireHeader paymentSignature (js "invalid_payment_signature")
    (js "Payment-Signature header required")
  let request := settlementRequest env quoteHeaderB64 paymentSignature
  let quote ← settling internalError (checkRequest env.toSettlementEnv true request now)
  return (request, quote)

def requireCommitted (session : DerivedSession) : Handling Unit :=
  require (session.state = .committed) ⟨409, js "invalid_state",
    js "Session is " ++ session.state.text ++ js ", expected COMMITTED"⟩

/-- The quote id is compared only when the committed quote has a truthy one. -/
def requireQuoteId (session : DerivedSession) (quoteId : JsValue) : Handling Unit :=
  let committed : JsValue := JsValue.get? session.unsignedQuote (js "quote_id")
  require (committed.isTruthy = true → committed.strictEq quoteId = true)
    ⟨422, js "quote_mismatch", js "quote_id does not match committed quote"⟩

def noSession : EngineError :=
  ⟨404, js "session_not_found", js "No session found for this RFQ"⟩

/-- The session that the quote names is committed to a quote of the same id. -/
def checkExecute (result : VerificationResult) (session : Option DerivedSession) :
    Handling Confirmation := do
  let session ← orThrow session (.refused noSession)
  requireCommitted session
  requireQuoteId session (result.quote.lookup (js "quote_id"))
  return ⟨.execute, result, result.quote.lookup (js "quote_id"), none⟩

theorem checkExecute_ok {result : VerificationResult} {session : Option DerivedSession}
    {c : Confirmation} (h : checkExecute result session = .ok c) :
    ∃ s, session = some s ∧ s.state = .committed ∧
      requireQuoteId s (result.quote.lookup (js "quote_id")) = .ok () ∧
      c = ⟨.execute, result, result.quote.lookup (js "quote_id"), none⟩ := by
  simp only [checkExecute, requireCommitted, bind_eq_ok, orThrow_eq_ok, require_eq_ok,
    pure_eq_ok] at h
  obtain ⟨s, hs, -, hstate, ⟨⟩, hid, rfl⟩ := h
  exact ⟨s, hs, hstate, hid, rfl⟩

/-! ### POST /rfqs/:id/settle-report -/

/-- The checks between the authentication of the caller and the request body. -/
def checkReporter (callerDid : JsString) (session : Option DerivedSession) :
    Handling DerivedSession := do
  let session ← orThrow session (.refused noSession)
  requireCommitted session
  require (some callerDid = session.selectedSeller)
    ⟨403, js "forbidden", js "Only the selected seller can report settlement"⟩
  return session

theorem checkReporter_ok {callerDid : JsString} {session : Option DerivedSession}
    {s : DerivedSession} (h : checkReporter callerDid session = .ok s) :
    session = some s ∧ s.state = .committed ∧ s.selectedSeller = some callerDid := by
  simp only [checkReporter, requireCommitted, bind_eq_ok, orThrow_eq_ok, require_eq_ok,
    pure_eq_ok] at h
  obtain ⟨s', rfl, -, hstate, -, hseller, rfl⟩ := h
  exact ⟨rfl, hstate, hseller.symm⟩

/-- The committed quote with both signatures, as `settle-report` sends it to the verifier. -/
def committedHeader (env : EngineEnv) (session : DerivedSession) (quote : Json) : JsString :=
  env.headerText (signedMembers quote session.buyerSignature session.sellerSignature)

/-- A payment signature that is no text fails where it is decoded. -/
def reportRequest (env : EngineEnv) (now : ℤ) (header : JsString) (txSig : JsValue) :
    Settling (SettlementRequest × Members) := do
  match txSig with
  | some (.str s) =>
    let request := settlementRequest env header s
    let quote ← checkRequest env.toSettlementEnv true request now
    return (request, quote)
  | _ =>
    let quote ← decodeQuoteHeader env.toSettlementEnv header
    checkQuote env.toSettlementEnv true now quote
    .error (.refused invalidPaymentSignature)

/-- The request body, up to the RPC. `none` stands for a body that is no JSON. -/
def openReport (env : EngineEnv) (now : ℤ) (session : DerivedSession) (body : Option Json) :
    Handling (SettlementRequest × Members × JsValue) := do
  let body ← orThrow body (.thrown .syntaxError)
  let txSig ← field body (js "tx_sig")
  let quoteId ← field body (js "quote_id")
  require (txSig.isTruthy = true ∧ quoteId.isTruthy = true)
    ⟨400, js "bad_request", js "tx_sig and quote_id are required"⟩
  requireQuoteId session quoteId
  let quote ← orThrow session.unsignedQuote
    (.refused ⟨409, js "no_quote", js "No committed quote found in session"⟩)
  let (request, quote) ← settling verificationFailed
    (reportRequest env now (committedHeader env session quote) txSig)
  return (request, quote, quoteId)

/-! ### Replies -/

def executeReply (env : EngineEnv) (now : ℤ) (result : VerificationResult) : Handling Reply := do
  let settledAt ← orThrow (toISOString now) (.refused internalError)
  let pubkeyText (did : JsValue) : JsValue :=
    match env.publicKeyOf did with
    | some key => some (.str (env.toBase58 key))
    | none => did
  return ⟨200, [(js "receipt", .obj (defined [
      (js "quote_id", result.quote.lookup (js "quote_id")),
      (js "final_price", result.quote.lookup (js "final_price")),
      (js "buyer_pubkey", pubkeyText (result.quote.lookup (js "buyer"))),
      (js "seller_pubkey", pubkeyText (result.quote.lookup (js "seller"))),
      (js "settled_at", some (.str settledAt))])),
    (js "explorer_tx", .str result.verification.solanaExplorer),
    (js "settlement_ms", .num .zero), (js "delivery_status", .str (js "pending_seller"))]⟩

def reportReply (c : Confirmation) : Reply :=
  ⟨200, defined [(js "settled", some (.bool true)), (js "tx_sig", some (.str c.result.txSig)),
    (js "verified_at", c.verifiedAt.map .str)]⟩

end GhostBazaar.Engine
