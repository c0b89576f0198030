import GhostBazaar.Core.Schemas
import GhostBazaar.Engine.Session
import GhostBazaar.Settlement.Execute

/-! What the routes share: errors, the environment, signature checks and guards. -/
namespace GhostBazaar.Engine
open Js GhostBazaar.Core Settlement

/-! ### Errors and replies -/

structure EngineError where
  status : ℕ
  code : JsString
  message : JsString
  deriving DecidableEq

/-- An exception that is no `EngineError` is answered with status 500. -/
abbrev Handling := Except (Failure EngineError)

def malformedPayload (message : JsString) : EngineError := ⟨400, js "malformed_payload", message⟩

def sessionNotFound : EngineError := ⟨404, js "session_not_found", js "RFQ session not found"⟩

def sessionExpired : EngineError := ⟨409, js "session_expired", js "RFQ deadline has passed"⟩

def staleRevision (message : JsString) : EngineError := ⟨409, js "stale_revision", message⟩

structure Reply where
  status : ℕ
  body : Members

/-- An object literal: a property that is `undefined` is left out. -/
def defined (fields : List (JsString × JsValue)) : Members :=
  fields.filterMap fun f => f.2.map fun v => (f.1, v)

theorem lookup_defined {fields : List (JsString × JsValue)}
    (hkeys : (fields.map Prod.fst).Nodup) (key : JsString) :
    (defined fields).lookup key = (fields.lookup key).join := by
  induction fields with
  | nil => rfl
  | cons f fields ih =>
    obtain ⟨k, v⟩ := f
    rw [List.map_cons, List.nodup_cons] at hkeys
    have ih := ih hkeys.2
    rw [defined] at ih ⊢
    by_cases hk : key = k
    · subst hk
      cases v with
      | some v => simp
      | none =>
        -- the key is not among the later ones
        have hlater : fields.lookup key = none := by
          rw [List.lookup_eq_none_iff]
          intro f hf
          have hmem : f.1 ∈ fields.map Prod.fst := List.mem_map_of_mem hf
          have hne : key ≠ f.1 := fun h => hkeys.1 (h ▸ hmem)
          simpa using hne
        simp [ih, hlater]
    · have hk' : (key == k) = false := by simpa using hk
      cases v with
      | some v => simp [List.lookup_cons, hk', ih]
      | none => simp [List.lookup_cons, hk', ih]

/-- `{ ...v }` for an object or an array. -/
def spreadMembers : Json → Members
  | .obj ms => ms
  | .arr xs => xs.zipIdx.map fun (x, i) => (natText i, x)
  | _ => []

def asPlainObject : JsValue → Option Members
  | some (.obj ms) => some ms
  | _ => none

/-- `body.key` of a request body, which may be `null`. -/
def field (body : Json) (key : JsString) : Handling JsValue := liftThrown (member (some body) key)

/-! ### The environment -/

/-- The members of a quote, in the order of its literal. -/
def quoteMembers (q : SignedQuote) : Members :=
  [(js "quote_id", .str q.quoteId), (js "rfq_id", .str q.rfqId), (js "buyer", .str q.buyer),
    (js "seller", .str q.seller), (js "service_type", .str q.serviceType),
    (js "final_price", .str q.finalPrice), (js "currency", .str q.currency),
    (js "payment_endpoint", .str q.paymentEndpoint), (js "expires_at", .str q.expiresAt),
    (js "nonce", .str q.nonce), (js "memo_policy", .str q.memoPolicy.text),
    (js "buyer_signature", .str q.buyerSignature),
    (js "seller_signature", .str q.sellerSignature)] ++
  defined [(js "spec_hash", q.specHash.map .str)]

/-- The libraries and the configuration of the engine. -/
structure EngineEnv extends SettlementEnv where
  /-- `Buffer.from(JSON.stringify(quote)).toString("base64")` -/
  headerText : Members → JsString
  parse_headerText : ∀ q : SignedQuote,
    parseHeader (headerText (quoteMembers q)) = some (.obj (quoteMembers q))
  /-- `false` also when the verifier throws. -/
  verifyBudgetProof : Json → ℕ → JsString → Bool
  settlementWindowMs : Option ℤ
  cosignTimeoutMs : Option ℤ
  usdcMint : JsString
  cluster : Option JsString
  lockTimeoutMs : ℕ
  maxQueueSize : ℕ

/-- What a synchronous segment reads from outside: the clock and fresh random values. -/
structure Moment where
  now : ℤ
  eventId : JsString
  quoteId : JsString
  quoteId_ne_nil : quoteId ≠ []
  nonceBytes : Digest

/-- `new Date().toISOString()` -/
def Moment.timestamp (at' : Moment) : Handling JsString :=
  orThrow (toISOString at'.now) (.thrown .rangeError)

/-- `now >= t` for a time that may be `NaN`. -/
def hasReached (now : ℤ) : Option ℤ → Bool
  | none => false
  | some t => decide (t ≤ now)

/-- The deadline check at the start of a locked section. -/
def checkDeadline (env : EngineEnv) (now : ℤ) (session : DerivedSession) : Handling Unit :=
  require (hasReached now (dateParse env.legacyDate session.rfq.deadline) = false) sessionExpired

def assertState (currentState : SessionState) (allowedStates : List SessionState) :
    Handling Unit :=
  require (currentState ∈ allowedStates)
    ⟨409, js "invalid_state_transition", js "Operation not allowed in current session state"⟩

def mintFor (currency : JsString) : Handling JsString :=
  if currency = js "USDC" then .ok (js "4zMMC9srt5Ri5X14GAgXhaHii3GnPAEERYPJgZJDncDU")
  else .error (.refused ⟨422, js "unsupported_currency",
    js "No mint address for currency \"" ++ currency ++ js "\""⟩)

/-! ### Signatures -/

def didToPublicKey (c : Crypto) (did : JsString) : Handling PublicKey :=
  orThrow (c.didToPublicKey did)
    (.refused (malformedPayload (js "Invalid or non-Ed25519 DID: " ++ did)))

def isBase64Unit (u : CodeUnit) : Bool :=
  isDigitUnit u || decide (65 ≤ u.val ∧ u.val ≤ 90 ∨ 97 ≤ u.val ∧ u.val ≤ 122 ∨
    u.val = 43 ∨ u.val = 47)

/-- `BASE64_RE`: up to two `=` at the end. -/
def isBase64 (s : JsString) : Bool := decide (s.dropWhile isBase64Unit ∈ [[], [61], [61, 61]])

/-- The number of bytes that the text encodes. -/
def base64Length (s : JsString) : ℕ := (s.takeWhile isBase64Unit).length * 3 / 4

def preCheckSignatureFormat (c : Crypto) (signature signerDid : JsValue) : Handling Unit := do
  let signature ← orThrow signature.asStr
    (.refused (malformedPayload (js "Missing or non-string signature")))
  let signerDid ← orThrow signerDid.asStr
    (.refused (malformedPayload (js "Missing or non-string signer DID")))
  require (startsWith signature (js "ed25519:"))
    (malformedPayload (js "Signature must start with 'ed25519:'"))
  let b64 := signature.drop 8
  require (isBase64 b64) (malformedPayload (js "Signature contains invalid base64 characters"))
  require (base64Length b64 = 64)
    (malformedPayload (js "Signature must be 64 bytes, got " ++ natText (base64Length b64)))
  let _ ← didToPublicKey c signerDid

def verifySignature (c : Crypto) (obj : Members) (signature signerDid errorCode : JsString) :
    Handling Unit := do
  let pubkey ← didToPublicKey c signerDid
  require (c.verifyEd25519 (objectSigningPayload c obj) signature pubkey)
    ⟨401, errorCode, js "Ed25519 signature verification failed"⟩

def verifyQuoteSignature (c : Crypto) (quote : Members)
    (signature expectedSignerDid errorCode : JsString) : Handling Unit := do
  let pubkey ← didToPublicKey c expectedSignerDid
  require (c.verifyEd25519 (quoteSigningPayload c quote) signature pubkey)
    ⟨401, errorCode, js "Quote signature verification failed"⟩

def MAX_AUTH_DRIFT_MS : ℤ := 60000

def unauthorized (message : JsString) : EngineError := ⟨401, js "unauthorized", message⟩

/-- `header` is the `Authorization` header of a read request. -/
def authenticateCaller (c : Crypto) (now : ℤ) (header : Option JsString) : Handling JsString := do
  let header ← orThrow (header.filter fun h => !h.isEmpty)
    (.refused (unauthorized (js "Missing Authorization header")))
  require (startsWith header (js "GhostBazaar-Ed25519 "))
    (unauthorized (js "Authorization must use GhostBazaar-Ed25519 scheme"))
  match (header.drop 20).splitOn 32 with
  | [did, timestamp, signature] =>
    let pubkey ← orThrow (c.didToPublicKey did)
      (.refused (unauthorized (js "Invalid DID in Authorization header")))
    let authTime ← orThrow (dateParse c.legacyDate timestamp)
      (.refused (unauthorized (js "Invalid timestamp in Authorization header")))
    require (|now - authTime| ≤ MAX_AUTH_DRIFT_MS)
      (unauthorized (js "Authorization timestamp too far from server time"))
    let authPayload := objectSigningPayload c [(js "action", .str (js "authenticate")),
      (js "did", .str did), (js "timestamp", .str timestamp), (js "signature", .str [])]
    require (c.verifyEd25519 authPayload signature pubkey)
      (unauthorized (js "Invalid signature in Authorization header"))
    return did
  | _ => .error (.refused (unauthorized (js ("GhostBazaar-Ed25519 header must have 3 parts: " ++
      "<did> <timestamp> <signature>"))))

/-! ### Inversion -/

theorem verifySignature_eq_ok {c : Crypto} {obj : Members}
    {signature signerDid errorCode : JsString} {u : Unit} :
    verifySignature c obj signature signerDid errorCode = .ok u ↔
      ∃ key, c.didToPublicKey signerDid = some key ∧
        c.verifyEd25519 (objectSigningPayload c obj) signature key = true := by
  simp only [verifySignature, didToPublicKey, bind_eq_ok, orThrow_eq_ok, require_eq_ok]

/-- The error code plays no part in whether a quote signature is accepted. -/
theorem verifyQuoteSignature_eq_ok {c : Crypto} {quote : Members}
    {signature signerDid errorCode : JsString} {u : Unit} :
    verifyQuoteSignature c quote signature signerDid errorCode = .ok u ↔
      ∃ key, c.didToPublicKey signerDid = some key ∧
        c.verifyEd25519 (quoteSigningPayload c quote) signature key = true := by
  simp only [verifyQuoteSignature, didToPublicKey, bind_eq_ok, orThrow_eq_ok, require_eq_ok]

end GhostBazaar.Engine
