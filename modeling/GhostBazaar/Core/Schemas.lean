import GhostBazaar.Core.Quote

/-! Schema checks of the signed objects. A body is any JSON value, so each check coerces
its field as the language does, and a coercion may throw. -/
namespace GhostBazaar.Core
open Js

inductive ValidationCode where
  | malformedPayload
  | invalidAmount
  | invalidDeadline
  | unsupportedCurrency
  | invalidBudgetCommitmentFormat
  | rfqIdMismatch
  | currencyMismatch
  | invalidExpiry
  | invalidRound
  | missingBudgetProof
  | invalidBudgetProof
  | unexpectedBudgetProof
  deriving DecidableEq

def ValidationCode.text : ValidationCode → JsString
  | .malformedPayload => js "malformed_payload"
  | .invalidAmount => js "invalid_amount"
  | .invalidDeadline => js "invalid_deadline"
  | .unsupportedCurrency => js "unsupported_currency"
  | .invalidBudgetCommitmentFormat => js "invalid_budget_commitment_format"
  | .rfqIdMismatch => js "rfq_id_mismatch"
  | .currencyMismatch => js "currency_mismatch"
  | .invalidExpiry => js "invalid_expiry"
  | .invalidRound => js "invalid_round"
  | .missingBudgetProof => js "missing_budget_proof"
  | .invalidBudgetProof => js "invalid_budget_proof"
  | .unexpectedBudgetProof => js "unexpected_budget_proof"

/-- A refusal stands for `{ ok: false, code }`. -/
abbrev Validation := Except (Failure ValidationCode)

/-! ### Formats -/

/-- Version 4 and the RFC 4122 variant, in lower case. -/
def isUuidV4 (s : JsString) : Bool :=
  decide (s.length = 36) && s.zipIdx.all fun (u, i) =>
    if i ∈ [8, 13, 18, 23] then decide (u = 45)
    else if i = 14 then decide (u = 52)
    else if i = 19 then decide (u ∈ [56, 57, 97, 98])
    else isLowerHex u

/-- `typeof v === "string"`, and `v` starts with `p`. -/
def startsWithText (v : JsValue) (p : JsString) : Bool :=
  match v.asStr with
  | some s => startsWith s p
  | none => false

def isDid (v : JsValue) : Bool := startsWithText v (js "did:key:z6Mk")

def isSignatureFormat (v : JsValue) : Bool := startsWithText v (js "ed25519:")

def isPositiveInteger (v : JsValue) : Bool :=
  match v with
  | some (.num x) => x.isPositiveInteger
  | _ => false

/-- `t > now` for a time that may be `NaN`. -/
def isFuture (now : ℤ) : Option ℤ → Bool
  | none => false
  | some t => decide (now < t)

def isFutureISO (c : Crypto) (now : ℤ) (v : JsValue) : Except JsError Bool :=
  (dateParseOf c.legacyDate v).map (isFuture now)

/-- `BUDGET_COMMITMENT_RE`: `poseidon:` and 64 lower-case hexadecimal digits. -/
def isBudgetCommitment (s : JsString) : Bool :=
  startsWith s (js "poseidon:") && decide (s.length = 73) && (s.drop 9).all isLowerHex

def PROTOCOL_VERSION : JsString := js "ghost-bazaar-v4"

/-! ### Validators -/

/-- No required field is `undefined` or `null`. -/
def requireFields (v : Json) (fields : List JsString) : Validation Unit :=
  require (∀ f ∈ fields, JsValue.isNullish (v.get? f) = false) .malformedPayload

def validateRfq (c : Crypto) (now : ℤ) (rfq : Json) : Validation Unit := do
  require (rfq.isObject = true) .malformedPayload
  requireFields rfq [js "rfq_id", js "protocol", js "buyer", js "service_type", js "spec",
    js "anchor_price", js "currency", js "deadline", js "signature"]
  let uuid ← liftThrown (regexTest isUuidV4 (rfq.get? (js "rfq_id")))
  require uuid .malformedPayload
  require (rfq.get? (js "protocol") = some (.str PROTOCOL_VERSION)) .malformedPayload
  require (isDid (rfq.get? (js "buyer"))) .malformedPayload
  require (isValidDecimalPositive c.newDecimal (rfq.get? (js "anchor_price"))) .invalidAmount
  let future ← liftThrown (isFutureISO c now (rfq.get? (js "deadline")))
  require future .invalidDeadline
  require (includesValue SUPPORTED_CURRENCIES (rfq.get? (js "currency"))) .unsupportedCurrency
  require (isSignatureFormat (rfq.get? (js "signature"))) .malformedPayload
  if (rfq.get? (js "budget_commitment")).isSome then
    let commitment ← liftThrown
      (regexTest isBudgetCommitment (rfq.get? (js "budget_commitment")))
    require commitment .invalidBudgetCommitmentFormat

/-- The fields of the RFQ that offers and counters are checked against. -/
structure RfqTerms where
  rfqId : JsString
  currency : JsString
  budgetCommitment : Option JsString

def validateOffer (c : Crypto) (now : ℤ) (offer : Json) (rfq : RfqTerms) : Validation Unit := do
  require (offer.isObject = true) .malformedPayload
  requireFields offer [js "offer_id", js "rfq_id", js "seller", js "listing_id", js "price",
    js "currency", js "valid_until", js "signature"]
  let uuid ← liftThrown (regexTest isUuidV4 (offer.get? (js "offer_id")))
  require uuid .malformedPayload
  require (offer.get? (js "rfq_id") = some (.str rfq.rfqId)) .rfqIdMismatch
  require (isDid (offer.get? (js "seller"))) .malformedPayload
  require (((offer.get? (js "listing_id")).bind Json.asStr).any fun s => !(trim s).isEmpty)
    .malformedPayload
  require (isValidDecimalPositive c.newDecimal (offer.get? (js "price"))) .invalidAmount
  require (offer.get? (js "currency") = some (.str rfq.currency)) .currencyMismatch
  let future ← liftThrown (isFutureISO c now (offer.get? (js "valid_until")))
  require future .invalidExpiry
  require (isSignatureFormat (offer.get? (js "signature"))) .malformedPayload

/-- The structure of a budget proof; the proof itself is verified by the engine. -/
def checkBudgetProof (counter : Json) (rfq : RfqTerms) : Validation Unit := do
  let proof : JsValue := counter.get? (js "budget_proof")
  if rfq.budgetCommitment.any fun s => !s.isEmpty then
    require proof.isTruthy .missingBudgetProof
    require (proof.get? (js "protocol") = some (.str (js "groth16"))) .invalidBudgetProof
    require (proof.get? (js "curve") = some (.str (js "bn128"))) .invalidBudgetProof
  else
    require (proof.isTruthy = false) .unexpectedBudgetProof

def validateCounter (c : Crypto) (now : ℤ) (counter : Json) (rfq : RfqTerms) :
    Validation Unit := do
  require (counter.isObject = true) .malformedPayload
  requireFields counter [js "counter_id", js "rfq_id", js "round", js "from", js "to",
    js "price", js "currency", js "valid_until", js "signature"]
  let uuid ← liftThrown (regexTest isUuidV4 (counter.get? (js "counter_id")))
  require uuid .malformedPayload
  require (counter.get? (js "rfq_id") = some (.str rfq.rfqId)) .rfqIdMismatch
  require (isPositiveInteger (counter.get? (js "round"))) .invalidRound
  require (isDid (counter.get? (js "from"))) .malformedPayload
  require (isDid (counter.get? (js "to"))) .malformedPayload
  require (isValidDecimalPositive c.newDecimal (counter.get? (js "price"))) .invalidAmount
  require (counter.get? (js "currency") = some (.str rfq.currency)) .currencyMismatch
  let future ← liftThrown (isFutureISO c now (counter.get? (js "valid_until")))
  require future .invalidExpiry
  require (isSignatureFormat (counter.get? (js "signature"))) .malformedPayload
  checkBudgetProof counter rfq

end GhostBazaar.Core
