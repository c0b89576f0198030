import GhostBazaar.Core.Amounts

/-! Quotes: the signing payload and `verifyQuote`. What the program takes from
libraries is a field of `Crypto`, an arbitrary function. -/
namespace GhostBazaar.Core
open Js

structure PublicKey where
  bytes : List UInt8
  length_eq : bytes.length = 32

/-- Signatures, canonical bytes, keys of identifiers, decimals, the formats of `Date.parse`
outside the standard, and hashes. -/
structure Crypto where
  verifyEd25519 : ByteArray → JsString → PublicKey → Bool
  canonicalJson : Members → ByteArray
  didToPublicKey : JsString → Option PublicKey
  newDecimal : JsValue → Option Decimal
  legacyDate : JsString → Option ℤ
  sha256 : ByteArray → Digest

namespace Crypto

/-- `null` for a value that is not a string: `startsWith` throws inside the `try`. -/
def publicKeyOf (c : Crypto) (did : JsValue) : Option PublicKey := did.asStr.bind c.didToPublicKey

/-- A signature that is not a string makes `startsWith` throw. -/
def verifySignature (c : Crypto) (payload : ByteArray) (sig : JsValue) (key : PublicKey) :
    Except JsError Bool := (asString sig).map fun s => c.verifyEd25519 payload s key

end Crypto

def SUPPORTED_CURRENCIES : List JsString := [js "USDC"]

inductive MemoPolicy where
  | optional
  | quoteIdRequired
  | hashRequired
  deriving DecidableEq

def MemoPolicy.text : MemoPolicy → JsString
  | .optional => js "optional"
  | .quoteIdRequired => js "quote_id_required"
  | .hashRequired => js "hash_required"

def VALID_MEMO_POLICIES : List JsString :=
  [MemoPolicy.optional.text, MemoPolicy.quoteIdRequired.text, MemoPolicy.hashRequired.text]

/-- `list.includes(v)` for a list of strings. -/
def includesValue (list : List JsString) (v : JsValue) : Bool :=
  match v with
  | some (.str s) => decide (s ∈ list)
  | _ => false

/-- `NONCE_RE`: `0x` and 64 lower-case hexadecimal digits. -/
def isNonce (s : JsString) : Bool :=
  startsWith s (js "0x") && decide (s.length = 66) && (s.drop 2).all isLowerHex

def objectSigningPayload (c : Crypto) (obj : Members) : ByteArray :=
  c.canonicalJson (spread obj (js "signature") (.str []))

def quoteSigningPayload (c : Crypto) (quote : Members) : ByteArray :=
  c.canonicalJson (spread (spread quote (js "buyer_signature") (.str []))
    (js "seller_signature") (.str []))

def computeSpecHash (c : Crypto) (spec : Members) : JsString :=
  js "sha256:" ++ hexText (c.sha256 (c.canonicalJson spec)).bytes

/-! ### Building -/

structure SignedQuote where
  quoteId : JsString
  rfqId : JsString
  buyer : JsString
  seller : JsString
  serviceType : JsString
  finalPrice : JsString
  currency : JsString
  paymentEndpoint : JsString
  expiresAt : JsString
  nonce : JsString
  memoPolicy : MemoPolicy
  buyerSignature : JsString
  sellerSignature : JsString
  specHash : Option JsString

structure BuildQuoteInput where
  rfqId : JsString
  buyer : JsString
  seller : JsString
  serviceType : JsString
  finalPrice : JsString
  currency : JsString
  paymentEndpoint : JsString
  expiresSeconds : ℤ
  memoPolicy : Option MemoPolicy
  spec : Option Members
  specHash : Option JsString

/-- `quoteId` is the random identifier, `nonceBytes` the 32 random bytes. -/
def buildUnsignedQuote (c : Crypto) (now : ℤ) (quoteId : JsString) (nonceBytes : Digest)
    (input : BuildQuoteInput) : Except JsError SignedQuote := do
  let expiresAt ← orThrow (toISOString (now + input.expiresSeconds * 1000)) .rangeError
  return {
    quoteId
    rfqId := input.rfqId
    buyer := input.buyer
    seller := input.seller
    serviceType := input.serviceType
    finalPrice := input.finalPrice
    currency := input.currency
    paymentEndpoint := input.paymentEndpoint
    expiresAt
    nonce := js "0x" ++ hexText nonceBytes.bytes
    memoPolicy := input.memoPolicy.getD .quoteIdRequired
    buyerSignature := []
    sellerSignature := []
    specHash := input.specHash.or (input.spec.map (computeSpecHash c)) }

/-- The nonce of a built quote has the format that `verifyQuote` asks for. -/
theorem isNonce_built (nonceBytes : Digest) :
    isNonce (js "0x" ++ hexText nonceBytes.bytes) = true := by
  obtain ⟨hlength, hall⟩ := hexText_lowerHex nonceBytes.bytes
  have hprefix : js "0x" = [48, 120] := rfl
  rw [nonceBytes.length_eq] at hlength
  simpa [isNonce, hprefix, startsWith, hlength] using List.all_eq_true.mp hall

/-! ### Verification -/

inductive QuoteCode where
  | invalidAmount
  | unsupportedCurrency
  | malformedQuote
  | expiredQuote
  | invalidNonceFormat
  | invalidBuyerSignature
  | invalidSellerSignature
  deriving DecidableEq

def QuoteCode.text : QuoteCode → JsString
  | .invalidAmount => js "invalid_amount"
  | .unsupportedCurrency => js "unsupported_currency"
  | .malformedQuote => js "malformed_quote"
  | .expiredQuote => js "expired_quote"
  | .invalidNonceFormat => js "invalid_nonce_format"
  | .invalidBuyerSignature => js "invalid_buyer_signature"
  | .invalidSellerSignature => js "invalid_seller_signature"

/-- `isNaN(t) || t <= now`, the test of every expiry. -/
def isExpired (now : ℤ) : Option ℤ → Bool
  | none => true
  | some t => decide (t ≤ now)

/-- A refusal stands for `{ ok: false, code }`. -/
def verifyQuote (c : Crypto) (now : ℤ) (quote : Members) :
    Except (Failure QuoteCode) Unit := do
  require (isValidDecimalPositive c.newDecimal (quote.lookup (js "final_price"))) .invalidAmount
  require (includesValue SUPPORTED_CURRENCIES (quote.lookup (js "currency")))
    .unsupportedCurrency
  require (includesValue VALID_MEMO_POLICIES (quote.lookup (js "memo_policy"))) .malformedQuote
  let expiresMs ← liftThrown (dateParseOf c.legacyDate (quote.lookup (js "expires_at")))
  require (isExpired now expiresMs = false) .expiredQuote
  let nonceOk ← liftThrown (regexTest isNonce (quote.lookup (js "nonce")))
  require nonceOk .invalidNonceFormat
  let payload := quoteSigningPayload c quote
  let buyerPubkey ← orThrow (c.publicKeyOf (quote.lookup (js "buyer"))) (.refused .malformedQuote)
  let sellerPubkey ← orThrow (c.publicKeyOf (quote.lookup (js "seller")))
    (.refused .malformedQuote)
  let buyerOk ← liftThrown
    (c.verifySignature payload (quote.lookup (js "buyer_signature")) buyerPubkey)
  require buyerOk .invalidBuyerSignature
  let sellerOk ← liftThrown
    (c.verifySignature payload (quote.lookup (js "seller_signature")) sellerPubkey)
  require sellerOk .invalidSellerSignature

/-! ### What the result says -/

/-- Both signatures verify over the signing payload of the quote. -/
def SignaturesVerify (c : Crypto) (quote : Members) : Prop :=
  (∃ key sig, c.publicKeyOf (quote.lookup (js "buyer")) = some key ∧
    quote.lookup (js "buyer_signature") = some (.str sig) ∧
    c.verifyEd25519 (quoteSigningPayload c quote) sig key = true) ∧
  ∃ key sig, c.publicKeyOf (quote.lookup (js "seller")) = some key ∧
    quote.lookup (js "seller_signature") = some (.str sig) ∧
    c.verifyEd25519 (quoteSigningPayload c quote) sig key = true

theorem verifySignature_eq_ok {c : Crypto} {payload : ByteArray} {sig : JsValue}
    {key : PublicKey} {b : Bool} : c.verifySignature payload sig key = .ok b ↔
      ∃ s, sig = some (.str s) ∧ c.verifyEd25519 payload s key = b := by
  rw [Crypto.verifySignature]
  cases h : asString sig with
  | error e =>
    simp only [Except.map, reduceCtorEq, false_iff, not_exists, not_and]
    intro s hs
    rw [hs, (asString_eq_ok (s := s)).mpr rfl] at h
    simp at h
  | ok s =>
    rw [asString_eq_ok] at h
    simp [Except.map, h]

/-- The checks that come before the expiry test. -/
structure PassesBeforeExpiry (c : Crypto) (quote : Members) : Prop where
  amount : isValidDecimalPositive c.newDecimal (quote.lookup (js "final_price")) = true
  currency : includesValue SUPPORTED_CURRENCIES (quote.lookup (js "currency")) = true
  memoPolicy : includesValue VALID_MEMO_POLICIES (quote.lookup (js "memo_policy")) = true

theorem verifyQuote_eq_ok {c : Crypto} {now : ℤ} {quote : Members} {u : Unit}
    (h : verifyQuote c now quote = .ok u) : PassesBeforeExpiry c quote ∧
      (∃ t, dateParseOf c.legacyDate (quote.lookup (js "expires_at")) = .ok (some t) ∧ now < t) ∧
      regexTest isNonce (quote.lookup (js "nonce")) = .ok true ∧ SignaturesVerify c quote := by
  simp only [verifyQuote, bind_eq_ok, require_eq_ok, liftThrown_eq_ok, orThrow_eq_ok,
    verifySignature_eq_ok] at h
  obtain ⟨-, hamount, -, hcurrency, -, hmemo, expiresMs, hdate, -, hexp, nonceOk, hnonce, -, hn,
    buyer, hbuyer, seller, hseller, _, ⟨sb, hsb, hvb⟩, -, hb, _, ⟨ss, hss, hvs⟩, hs⟩ := h
  refine ⟨⟨hamount, hcurrency, hmemo⟩, ?_, hn ▸ hnonce,
    ⟨buyer, sb, hbuyer, hsb, hvb.trans hb⟩, seller, ss, hseller, hss, hvs.trans hs⟩
  cases expiresMs with
  | none => simp [isExpired] at hexp
  | some t => exact ⟨t, hdate, by simpa [isExpired] using hexp⟩

/-- The expiry refusal is raised before any signature is looked at. -/
theorem verifyQuote_eq_expired {c : Crypto} {now : ℤ} {quote : Members} :
    verifyQuote c now quote = .error (.refused .expiredQuote) ↔
      PassesBeforeExpiry c quote ∧ ∃ t,
        dateParseOf c.legacyDate (quote.lookup (js "expires_at")) = .ok t ∧
          isExpired now t = true := by
  simp only [verifyQuote, bind_eq_error, require_eq_refused, require_eq_ok, liftThrown_eq_ok,
    orThrow_eq_error, orThrow_eq_ok, liftThrown_ne_refused, Failure.refused.injEq, reduceCtorEq,
    and_false, false_or, or_false, exists_false, and_true, exists_const]
  constructor
  · rintro ⟨hamount, hcurrency, hmemo, t, hdate, hexp⟩
    exact ⟨⟨hamount, hcurrency, hmemo⟩, t, hdate, by simpa using hexp⟩
  · rintro ⟨⟨hamount, hcurrency, hmemo⟩, t, hdate, hexp⟩
    exact ⟨hamount, hcurrency, hmemo, t, hdate, by simp [hexp]⟩

end GhostBazaar.Core
