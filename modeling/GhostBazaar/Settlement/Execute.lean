import GhostBazaar.Core.Quote
import GhostBazaar.Settlement.Transaction

/-! `verifySettlement`: a payment is checked against the quote of a request header. -/
namespace GhostBazaar.Settlement
open Js GhostBazaar.Core

/-! ### Errors -/

structure SettlementError where
  code : JsString
  httpStatus : ℕ
  message : JsString
  deriving DecidableEq

def malformedQuoteHeader (message : JsString) : SettlementError :=
  ⟨js "malformed_quote_header", 400, message⟩

def headerMessage : JsString := js "X-Ghost-Bazaar-Quote header missing or not valid base64"

def invalidBuyerSignature : SettlementError :=
  ⟨js "invalid_buyer_signature", 401, js "Buyer signature on quote fails verification"⟩

def invalidSellerSignature : SettlementError :=
  ⟨js "invalid_seller_signature", 401, js "Seller signature on quote fails verification"⟩

def invalidPaymentSignature : SettlementError :=
  ⟨js "invalid_payment_signature", 400, js "Payment-Signature header not valid base58"⟩

def transactionNotFound : SettlementError :=
  ⟨js "transaction_not_found", 404, js "Solana RPC returned null for transaction"⟩

def transactionFailed : SettlementError :=
  ⟨js "transaction_failed", 422, js "Transaction status is not success"⟩

def transactionNotConfirmed : SettlementError :=
  ⟨js "transaction_not_confirmed", 422, js "Transaction not yet confirmed"⟩

def transferInstructionMissing : SettlementError :=
  ⟨js "transfer_instruction_missing", 422, js "No SPL token transfer instruction in transaction"⟩

def transferDestinationMismatch : SettlementError :=
  ⟨js "transfer_destination_mismatch", 422, js "Transfer recipient does not match quote seller"⟩

def transferMintMismatch : SettlementError :=
  ⟨js "transfer_mint_mismatch", 422, js "Token mint does not match USDC mint"⟩

def priceMismatch : SettlementError :=
  ⟨js "price_mismatch", 422, js "Transfer amount does not match final_price"⟩

def memoMissing : SettlementError :=
  ⟨js "memo_missing", 422, js "Memo required but not present in transaction"⟩

def memoMismatch : SettlementError :=
  ⟨js "memo_mismatch", 422, js "Memo content does not match expected value"⟩

def invalidNonceFormat : SettlementError :=
  ⟨js "invalid_nonce_format", 422, js "Quote nonce is not 0x + 64 lowercase hex chars"⟩

def nonceReplayed : SettlementError := ⟨js "nonce_replayed", 409, js "Nonce already consumed"⟩

def expiredQuote : SettlementError :=
  ⟨js "expired_quote", 422, js "Quote expires_at is in the past"⟩

def executionFailed (message : JsString) : SettlementError :=
  ⟨js "execution_failed", 500, message⟩

/-! ### The environment -/

/-- The libraries of the settlement package, and its table of mints. -/
structure SettlementEnv extends Crypto where
  /-- `JSON.parse(Buffer.from(header, "base64").toString("utf-8"))`, `none` when it throws. -/
  parseHeader : JsString → Option Json
  base58Decode : JsString → Option (List UInt8)
  newPublicKey : JsString → Option PublicKey
  toBase58 : PublicKey → JsString
  /-- `none` for an owner off the curve, for which the library throws. -/
  associatedTokenAddress : PublicKey → PublicKey → Option PublicKey
  mintDecimals : List (JsString × ℕ)

structure SettlementRequest where
  quoteHeaderB64 : JsString
  paymentSignature : JsString
  usdcMint : JsString
  cluster : Option JsString

abbrev Settling := Except (Failure SettlementError)

/-! ### The checks -/

def decodeQuoteHeader (env : SettlementEnv) (header : JsString) : Settling Members :=
  match env.parseHeader header with
  | some (.obj quote) =>
    if JsValue.isTruthy (quote.lookup (js "quote_id")) then .ok quote
    else .error (.refused (malformedQuoteHeader headerMessage))
  | _ => .error (.refused (malformedQuoteHeader headerMessage))

/-- Steps 2 and 3. `verifySettlement` forgives an expired quote, `verifyAndExecute` does not. -/
def checkQuote (env : SettlementEnv) (forgiveExpired : Bool) (now : ℤ) (quote : Members) :
    Settling Unit :=
  match verifyQuote env.toCrypto now quote with
  | .ok () => .ok ()
  | .error (.thrown e) => .error (.thrown e)
  | .error (.refused .invalidBuyerSignature) => .error (.refused invalidBuyerSignature)
  | .error (.refused .invalidSellerSignature) => .error (.refused invalidSellerSignature)
  | .error (.refused .expiredQuote) =>
    if forgiveExpired then .ok () else .error (.refused expiredQuote)
  | .error (.refused code) =>
    .error (.refused (malformedQuoteHeader (js "Quote verification failed: " ++ code.text)))

/-- Step 4: the header decodes to the 64 bytes of a signature. -/
def isPaymentSignature (env : SettlementEnv) (s : JsString) : Bool :=
  match env.base58Decode s with
  | some bytes => bytes.length = 64
  | none => false

/-- Steps 1 to 4, up to the request to the RPC. -/
def checkRequest (env : SettlementEnv) (forgiveExpired : Bool) (request : SettlementRequest)
    (now : ℤ) : Settling Members := do
  let quote ← decodeQuoteHeader env request.quoteHeaderB64
  checkQuote env forgiveExpired now quote
  require (isPaymentSignature env request.paymentSignature) invalidPaymentSignature
  return quote

/-- `memo.includes(needle)` for a memo that is a text, or an array of the RPC. -/
def memoIncludes (memo : Json) (needle : JsValue) : Except JsError Bool :=
  match memo with
  | .str s => (stringOf needle).map fun t => includes s t
  | .arr xs => .ok (xs.any fun x => JsValue.strictEq (some x) needle)
  | _ => .error .typeError

/-- Steps 11 and 12. -/
def checkMemo (env : SettlementEnv) (quote : Members) (tx : Json) : Settling Unit := do
  let policy : JsValue := quote.lookup (js "memo_policy")
  if policy.strictEq (some (.str (js "optional"))) then return ()
  let found ← liftThrown (extractMemo env.base58Decode tx)
  let memo ← orThrow (found.filter Json.isTruthy) (.refused memoMissing)
  if policy.strictEq (some (.str (js "quote_id_required"))) then
    let matched ← liftThrown (memoIncludes memo (quote.lookup (js "quote_id")))
    require matched memoMismatch
  else if policy.strictEq (some (.str (js "hash_required"))) then
    let hash := hexText (env.sha256 (env.canonicalJson quote)).bytes
    let matched ← liftThrown (memoIncludes memo (some (.str hash)))
    require matched memoMismatch

/-- Steps 5 to 12 on the transaction that the RPC returned. `verifyAndExecute` also refuses
a mint that is falsy. -/
def checkPayment (env : SettlementEnv) (refuseFalsyMint : Bool) (usdcMint : JsString)
    (quote : Members) (tx : JsValue) : Settling Json := do
  let tx ← orThrow (tx.filter Json.isTruthy) (.refused transactionNotFound)
  require (JsValue.isTruthy (JsValue.get? (tx.get? (js "meta")) (js "err")) = false)
    transactionFailed
  require (JsValue.isTruthy (tx.get? (js "slot"))) transactionNotConfirmed
  let sellerPubkey ← orThrow (env.publicKeyOf (quote.lookup (js "seller")))
    (.refused (malformedQuoteHeader (js "Cannot derive seller pubkey from DID")))
  let mint ← orThrow (env.newPublicKey usdcMint)
    (.thrown (.error (js "Invalid public key input")))
  let expectedAmount ← liftThrown
    (normalizeAmount env.mintDecimals (quote.lookup (js "final_price")) usdcMint)
  let expectedDestination ← orThrow (env.associatedTokenAddress mint sellerPubkey)
    (.thrown (.error []))
  let found ← liftThrown (extractSplTransfer env.base58Decode tx)
  let transfer ← orThrow found (.refused transferInstructionMissing)
  require (transfer.destination.strictEq (some (.str (env.toBase58 expectedDestination))))
    transferDestinationMismatch
  require (transfer.mint.strictEq (some (.str usdcMint)) ∧
    (refuseFalsyMint → transfer.mint.isTruthy)) transferMintMismatch
  let amount ← liftThrown (toBigInt transfer.amount)
  require (amount = expectedAmount) priceMismatch
  checkMemo env quote tx
  return tx

structure Verification where
  amountMatched : Bool
  mintMatched : Bool
  destinationMatched : Bool
  memoMatched : Bool
  confirmations : ℕ
  blockTime : Option JsString
  solanaExplorer : JsString
  deriving DecidableEq

structure VerificationResult where
  quote : Members
  txSig : JsString
  verification : Verification

/-- `new Date(blockTime * 1000).toISOString()`, for the number that the RPC reports. -/
def blockTimeText (blockTime : JsValue) : Except JsError (Option JsString) :=
  if blockTime.isTruthy then
    match blockTime with
    | some (.num x) =>
      let ms := x.toRat * 1000
      (orThrow (toISOString (if 0 ≤ ms then ms.floor else ms.ceil)) .rangeError).map some
    | _ => .error .rangeError
  else .ok none

def explorerUrl (txSignature : JsString) (cluster : Option JsString) : JsString :=
  let cluster := cluster.getD (js "devnet")
  js "https://explorer.solana.com/tx/" ++ txSignature ++
    if cluster = js "mainnet-beta" then [] else js "?cluster=" ++ cluster

/-- The rest of `verifySettlement` once the RPC has answered with `tx`. -/
def settleTransaction (env : SettlementEnv) (request : SettlementRequest) (quote : Members)
    (tx : JsValue) : Settling VerificationResult := do
  let tx ← checkPayment env false request.usdcMint quote tx
  let blockTime ← liftThrown (blockTimeText (tx.get? (js "blockTime")))
  return {
    quote
    txSig := request.paymentSignature
    verification := {
      amountMatched := true
      mintMatched := true
      destinationMatched := true
      memoMatched := true
      confirmations := 1
      blockTime
      solanaExplorer := explorerUrl request.paymentSignature request.cluster } }

/-- `now` is the clock when the quote is verified. -/
def verifySettlement (env : SettlementEnv) (request : SettlementRequest) (now : ℤ)
    (tx : JsValue) : Settling VerificationResult := do
  let quote ← checkRequest env true request now
  settleTransaction env request quote tx

end GhostBazaar.Settlement
