import GhostBazaar.Js.Verdicts
import GhostBazaar.Settlement.Escapes

/-! The normative order of the validation: every step judged by itself, and the refusals of
`verifyAndExecute` against the earliest step that fails. -/
namespace GhostBazaar.Settlement
open Js GhostBazaar.Core Transition

/-! ### The steps, each judged by itself -/

inductive ValidationStep where
  | decode
  | buyerSignature
  | sellerSignature
  | paymentSignature
  | transactionFound
  | transactionStatus
  | transfer
  | destination
  | mint
  | amount
  | memo
  | nonceFormat
  | nonceReplay
  | expiry
  | execution
  deriving DecidableEq

def stepsBeforeExpiry : List ValidationStep :=
  [.decode, .buyerSignature, .sellerSignature, .paymentSignature, .transactionFound,
    .transactionStatus, .transfer, .destination, .mint, .amount, .memo, .nonceFormat, .nonceReplay]

def normativeOrder : List ValidationStep := stepsBeforeExpiry ++ [.expiry, .execution]

/-- One call of `verifyAndExecute`: the answer of the RPC, the clock when the call starts, when
the RPC has answered and when the executor ends, and the message of the executor if it fails. -/
structure SettlementCall where
  request : SettlementRequest
  tx : JsValue
  now : ℤ
  later : ℤ
  ended : ℤ
  failure : Option JsString

/-- The signature of the quote verifies under the key of this identifier. -/
def signatureVerifies (c : Crypto) (quote : Members) (did signature : JsValue) : Bool :=
  match c.publicKeyOf did, signature.asStr with
  | some key, some s => c.verifyEd25519 (quoteSigningPayload c quote) s key
  | _, _ => false

/-- The token account that the price is paid to. -/
def expectedDestination (env : SettlementEnv) (usdcMint : JsString) (quote : Members) :
    Option JsString := do
  let seller ← env.publicKeyOf (quote.lookup (js "seller"))
  let mint ← env.newPublicKey usdcMint
  let account ← env.associatedTokenAddress mint seller
  return env.toBase58 account

def expectedAmount (env : SettlementEnv) (usdcMint : JsString) (quote : Members) : Option ℤ :=
  (normalizeAmount env.mintDecimals (quote.lookup (js "final_price")) usdcMint).toOption.map
    fun n => (n : ℤ)

def transferOf (env : SettlementEnv) (tx : Json) : Option TransferInfo :=
  (extractSplTransfer env.base58Decode tx).toOption.join

/-- The memo of the transaction contains this text. -/
def memoVerdict (env : SettlementEnv) (tx : Json) (needle : JsValue) : Option SettlementError :=
  match (extractMemo env.base58Decode tx).toOption.join.filter Json.isTruthy with
  | some memo => refuseUnless (memoIncludes memo needle = .ok true) memoMismatch
  | none => some memoMissing

def policyVerdict (env : SettlementEnv) (quote : Members) (tx : Json) : Option SettlementError :=
  let policy : JsValue := quote.lookup (js "memo_policy")
  if policy = some (.str (js "quote_id_required")) then
    memoVerdict env tx (quote.lookup (js "quote_id"))
  else if policy = some (.str (js "hash_required")) then
    memoVerdict env tx (some (.str (hexText (env.sha256 (env.canonicalJson quote)).bytes)))
  else none

/-- How the step ends when it is taken alone, on the quote of the header. What cannot be read
fails the step that reads it. -/
def ValidationStep.verdict (env : SettlementEnv) (consumedNonces : List JsValue)
    (call : SettlementCall) (quote : Members) (step : ValidationStep) : Option SettlementError :=
  let tx := call.tx.getD .null
  let usdcMint := call.request.usdcMint
  match step with
  | .decode =>
    refuseUnless ((decodeQuoteHeader env call.request.quoteHeaderB64).toOption.isSome = true)
      (malformedQuoteHeader headerMessage)
  | .buyerSignature =>
    refuseUnless (signatureVerifies env.toCrypto quote (quote.lookup (js "buyer"))
      (quote.lookup (js "buyer_signature")) = true) invalidBuyerSignature
  | .sellerSignature =>
    refuseUnless (signatureVerifies env.toCrypto quote (quote.lookup (js "seller"))
      (quote.lookup (js "seller_signature")) = true) invalidSellerSignature
  | .paymentSignature =>
    refuseUnless (isPaymentSignature env call.request.paymentSignature = true)
      invalidPaymentSignature
  | .transactionFound => refuseUnless (call.tx.isTruthy = true) transactionNotFound
  | .transactionStatus =>
    (refuseUnless (JsValue.isTruthy (JsValue.get? (tx.get? (js "meta")) (js "err")) = false)
      transactionFailed).or
      (refuseUnless (JsValue.isTruthy (tx.get? (js "slot")) = true) transactionNotConfirmed)
  | .transfer => refuseUnless ((transferOf env tx).isSome = true) transferInstructionMissing
  | .destination =>
    refuseUnless (∃ text ∈ expectedDestination env usdcMint quote,
      (transferOf env tx).bind (·.destination) = some (.str text)) transferDestinationMismatch
  | .mint =>
    refuseUnless (usdcMint ≠ [] ∧ (transferOf env tx).bind (·.mint) = some (.str usdcMint))
      transferMintMismatch
  | .amount =>
    refuseUnless (∃ n ∈ expectedAmount env usdcMint quote,
      ((transferOf env tx).bind fun transfer => (toBigInt transfer.amount).toOption) = some n)
      priceMismatch
  | .memo => policyVerdict env quote tx
  | .nonceFormat =>
    refuseUnless (regexTest isNonce (quote.lookup (js "nonce")) = .ok true) invalidNonceFormat
  | .nonceReplay =>
    refuseUnless (isNonceConsumed consumedNonces (quote.lookup (js "quote_id")) = false)
      nonceReplayed
  | .expiry =>
    refuseUnless (∃ t ∈ (dateParseOf env.legacyDate (quote.lookup (js "expires_at"))).toOption,
      isExpired call.later t = false) expiredQuote
  | .execution => call.failure.map executionFailed

namespace SettlementCall

/-- The quote of the header. -/
def quote (env : SettlementEnv) (call : SettlementCall) : Members :=
  (decodeQuoteHeader env call.request.quoteHeaderB64).toOption.getD []

/-- The refusal of the earliest step that fails. -/
def earliestRefusal (env : SettlementEnv) (consumedNonces : List JsValue) (call : SettlementCall) :
    Option SettlementError :=
  firstRefusal (normativeOrder.map (ValidationStep.verdict env consumedNonces call (call.quote env)))

/-- A failed call fails with the refusal of the earliest failing step. -/
def FailsInOrder (env : SettlementEnv) (consumedNonces : List JsValue) (call : SettlementCall) :
    Execution → Prop
  | .failed e => ∃ refusal, e = .refused refusal ∧
      call.earliestRefusal env consumedNonces = some refusal
  | _ => True

/-- What happens to the call on the server. -/
def labels (call : SettlementCall) (t : ℕ) : List ServerLabel :=
  [.call t call.request call.now, .rpcReturns t call.tx call.later,
    match call.failure with
    | some message => .executorThrows t message
    | none => .executorReturns t call.ended]

/-- `verifyQuote` gets to the signatures. -/
structure Presented (c : Crypto) (now : ℤ) (quote : Members) : Prop where
  supported : PassesBeforeExpiry c quote
  live : ∃ t, dateParseOf c.legacyDate (quote.lookup (js "expires_at")) = .ok t ∧
    isExpired now t = false
  nonce : regexTest isNonce (quote.lookup (js "nonce")) = .ok true
  buyer : ∃ key, c.publicKeyOf (quote.lookup (js "buyer")) = some key
  seller : ∃ key, c.publicKeyOf (quote.lookup (js "seller")) = some key

/-- When the call keeps to the order on the quote of its header: either the quote has not expired
and `verifyQuote` gets to its signatures, or nothing else is wrong with it and its payment; and
what is read of both can be read. -/
structure KeepsOrder (env : SettlementEnv) (consumedNonces : List JsValue) (mint : PublicKey)
    (call : SettlementCall) (quote : Members) : Prop where
  presented : Presented env.toCrypto call.now quote ∨
    PassesBeforeExpiry env.toCrypto quote ∧ Expired env call.now quote ∧
      Expired env call.later quote ∧
      ∀ step ∈ stepsBeforeExpiry, step.verdict env consumedNonces call quote = none
  readable : CallReadable env mint call.request call.tx call.now quote

end SettlementCall

/-! ### The code against the verdicts -/

section Meets
variable {env : SettlementEnv} {consumedNonces : List JsValue} {call : SettlementCall}
  {quote : Members}

theorem meets_decodeQuoteHeader :
    Meets (decodeQuoteHeader env call.request.quoteHeaderB64)
      [ValidationStep.verdict env consumedNonces call quote .decode] := by
  have herror (e : Failure SettlementError)
      (he : decodeQuoteHeader env call.request.quoteHeaderB64 = .error e) :
      e = .refused (malformedQuoteHeader headerMessage) := by
    unfold decodeQuoteHeader at he
    split at he
    · split_ifs at he
      cases he
      rfl
    · cases he
      rfl
  constructor
  · intro e he
    have hrefusal := herror _ he
    rw [Failure.refused.injEq] at hrefusal
    simp [ValidationStep.verdict, he, Except.toOption, refuseUnless, hrefusal]
  · intro q hq
    simp [ValidationStep.verdict, hq, Except.toOption, refuseUnless]

theorem signatureVerifies_eq {c : Crypto} {did signature : JsValue} {key : PublicKey} {b : Bool}
    (hkey : c.publicKeyOf did = some key)
    (hverify : c.verifySignature (quoteSigningPayload c quote) signature key = .ok b) :
    signatureVerifies c quote did signature = b := by
  obtain ⟨s, rfl, hs⟩ := verifySignature_eq_ok.mp hverify
  simp [signatureVerifies, hkey, JsValue.asStr, Json.asStr, hs]

/-- Once the other checks of the quote pass, only the signatures are left. -/
theorem verifyQuote_presented {c : Crypto} {now : ℤ} (h : SettlementCall.Presented c now quote)
    {buyer seller : PublicKey} (hbuyer : c.publicKeyOf (quote.lookup (js "buyer")) = some buyer)
    (hseller : c.publicKeyOf (quote.lookup (js "seller")) = some seller) :
    verifyQuote c now quote = (do
      let buyerOk ← liftThrown (c.verifySignature (quoteSigningPayload c quote)
        (quote.lookup (js "buyer_signature")) buyer)
      require (buyerOk = true) .invalidBuyerSignature
      let sellerOk ← liftThrown (c.verifySignature (quoteSigningPayload c quote)
        (quote.lookup (js "seller_signature")) seller)
      require (sellerOk = true) .invalidSellerSignature) := by
  obtain ⟨t, ht, hlive⟩ := h.live
  simp only [verifyQuote, h.supported.amount, h.supported.currency, h.supported.memoPolicy, ht,
    hlive, h.nonce, hbuyer, hseller, require, ensure, liftThrown, orThrow, ok_bind, if_true]

theorem meets_checkQuote (h : SettlementCall.Presented env.toCrypto call.now quote) :
    Meets (checkQuote env false call.now quote)
      [ValidationStep.verdict env consumedNonces call quote .buyerSignature,
        ValidationStep.verdict env consumedNonces call quote .sellerSignature] := by
  obtain ⟨buyer, hbuyer⟩ := h.buyer
  obtain ⟨seller, hseller⟩ := h.seller
  rw [checkQuote, verifyQuote_presented h hbuyer hseller]
  cases hsigned : env.verifySignature (quoteSigningPayload env.toCrypto quote)
      (quote.lookup (js "buyer_signature")) buyer with
  | error e => constructor <;> intro _ hx <;> cases hx
  | ok b =>
    have hverdict := signatureVerifies_eq hbuyer hsigned
    cases b with
    | false =>
      constructor
      · intro e he
        cases he
        simp [ValidationStep.verdict, hverdict, refuseUnless]
      · intro a ha
        cases ha
    | true =>
      cases hsigned' : env.verifySignature (quoteSigningPayload env.toCrypto quote)
          (quote.lookup (js "seller_signature")) seller with
      | error e => constructor <;> intro _ hx <;> cases hx
      | ok b' =>
        have hverdict' := signatureVerifies_eq hseller hsigned'
        cases b' with
        | false =>
          constructor
          · intro e he
            cases he
            simp [ValidationStep.verdict, hverdict, hverdict', refuseUnless]
          · intro a ha
            cases ha
        | true =>
          constructor
          · intro e he
            cases he
          · intro a ha
            simp [ValidationStep.verdict, hverdict, hverdict', refuseUnless]

theorem meets_verdict {α : Type} {x : Settling α} {v : Option SettlementError}
    {vs : List (Option SettlementError)} (h : Meets x vs) (hv : firstRefusal vs = v) :
    Meets x [v] := by
  constructor
  · intro e he
    simpa [← hv] using h.refuses e he
  · intro a ha
    simpa [← hv] using h.returns a ha

theorem meets_memoMatch (tx : Json) (memo : Json) (needle : JsValue)
    (hmemo : (extractMemo env.base58Decode tx).toOption.join.filter Json.isTruthy = some memo) :
    Meets (do
      let matched ← liftThrown (memoIncludes memo needle)
      require (matched = true) memoMismatch) [memoVerdict env tx needle] := by
  rw [memoVerdict, hmemo]
  cases hmatch : memoIncludes memo needle with
  | error e => constructor <;> intro _ hx <;> cases hx
  | ok b =>
    simp only [liftThrown, ok_bind]
    exact meets_verdict (meets_require (b = true) memoMismatch) (by simp [refuseUnless, hmatch])

theorem meets_checkMemo (tx : Json)
    (hpolicy : includesValue VALID_MEMO_POLICIES (quote.lookup (js "memo_policy")) = true) :
    Meets (checkMemo env quote tx) [policyVerdict env quote tx] := by
  have hfetch (needle : JsValue) : Meets (do
      let found ← liftThrown (extractMemo env.base58Decode tx)
      let memo ← orThrow (found.filter Json.isTruthy) (.refused memoMissing)
      let matched ← liftThrown (memoIncludes memo needle)
      require (matched = true) memoMismatch) [memoVerdict env tx needle] := by
    cases hmemo : extractMemo env.base58Decode tx with
    | error e => constructor <;> intro _ hx <;> cases hx
    | ok found =>
      have hjoin : (extractMemo env.base58Decode tx).toOption.join = found := by
        simp [hmemo, Except.toOption]
      cases hfound : found.filter Json.isTruthy with
      | none =>
        simp only [liftThrown, ok_bind, orThrow, hfound, error_bind]
        constructor
        · intro e he
          cases he
          simp [memoVerdict, hjoin, hfound]
        · intro a ha
          cases ha
      | some memo =>
        simp only [liftThrown, ok_bind, orThrow, hfound]
        exact meets_memoMatch tx memo needle (by rw [hjoin, hfound])
  cases hvalue : quote.lookup (js "memo_policy") with
  | none => simp [hvalue, includesValue] at hpolicy
  | some value =>
    cases value with
    | str policy =>
      simp only [hvalue, includesValue, VALID_MEMO_POLICIES, MemoPolicy.text, decide_eq_true_eq,
        List.mem_cons, List.not_mem_nil, or_false] at hpolicy
      rcases hpolicy with rfl | rfl | rfl
      · have hskip : checkMemo env quote tx = pure () := by
          simp [checkMemo, hvalue, JsValue.strictEq, Json.isObject]
        have hverdict : policyVerdict env quote tx = none := by
          rw [policyVerdict, hvalue, if_neg (by decide), if_neg (by decide)]
        rw [hskip, hverdict]
        exact meets_verdict (meets_pure ()) rfl
      · have hid : policyVerdict env quote tx = memoVerdict env tx (quote.lookup (js "quote_id")) := by
          rw [policyVerdict, hvalue, if_pos rfl]
        have hopt : js "quote_id_required" ≠ js "optional" := by decide
        rw [hid]
        simpa [checkMemo, hvalue, hopt, JsValue.strictEq, Json.isObject] using
          hfetch (quote.lookup (js "quote_id"))
      · have hhash : policyVerdict env quote tx = memoVerdict env tx
            (some (.str (hexText (env.sha256 (env.canonicalJson quote)).bytes))) := by
          rw [policyVerdict, hvalue, if_neg (by decide), if_pos rfl]
        have hopt : js "hash_required" ≠ js "optional" := by decide
        have hid : js "hash_required" ≠ js "quote_id_required" := by decide
        rw [hhash]
        simpa [checkMemo, hvalue, hopt, hid, JsValue.strictEq, Json.isObject] using
          hfetch (some (.str (hexText (env.sha256 (env.canonicalJson quote)).bytes)))
    | _ => simp [hvalue, includesValue] at hpolicy

theorem meets_cons {α β : Type} {x : Settling α} {f : α → Settling β} {v : Option SettlementError}
    {vs : List (Option SettlementError)} (hx : Meets x [v])
    (hf : ∀ a, x = .ok a → Meets (f a) vs) : Meets (x >>= f) (v :: vs) :=
  hx.bind hf

theorem meets_skip {α β : Type} {x : Settling α} {f : α → Settling β}
    {vs : List (Option SettlementError)} (hx : Meets x [])
    (hf : ∀ a, x = .ok a → Meets (f a) vs) : Meets (x >>= f) vs :=
  hx.bind hf

/-- Two checks of one step. -/
theorem meets_both {α : Type} {x y : Settling Unit} {z : Settling α}
    {v w : Option SettlementError} {vs : List (Option SettlementError)} (hx : Meets x [v])
    (hy : Meets y [w]) (hz : Meets z vs) :
    Meets (do
      x
      y
      z) (v.or w :: vs) := by
  have hall := meets_cons hx fun _ _ => meets_cons hy fun _ _ => hz
  constructor
  · intro e he
    simpa [Option.or_assoc] using hall.refuses e he
  · intro a ha
    simpa [Option.or_assoc] using hall.returns a ha

/-- Steps 5 to 12. -/
theorem meets_checkPayment (h : SettlementCall.Presented env.toCrypto call.now quote) :
    Meets (checkPayment env true call.request.usdcMint quote call.tx)
      ([.transactionFound, .transactionStatus, .transfer, .destination, .mint, .amount, .memo].map
        (ValidationStep.verdict env consumedNonces call quote)) := by
  obtain ⟨seller, hseller⟩ := h.seller
  simp only [List.map_cons, List.map_nil]
  rw [checkPayment]
  apply meets_cons
  · apply meets_verdict (meets_orThrow _ _)
    cases htx : call.tx with
    | none => simp [ValidationStep.verdict, htx, refuseUnless, JsValue.isTruthy]
    | some t => simp [ValidationStep.verdict, htx, refuseUnless, JsValue.isTruthy, Option.filter]
  · intro t ht
    obtain ⟨htx, htruthy⟩ := Option.filter_eq_some_iff.mp (orThrow_eq_ok.mp ht)
    simp only [ValidationStep.verdict, htx, Option.getD_some]
    apply meets_both (meets_require _ _) (meets_require _ _)
    apply meets_skip
    · rw [hseller]
      exact meets_pure seller
    intro seller' hseller'
    apply meets_skip (meets_orThrow_thrown _ _)
    intro mint hmint
    apply meets_skip (meets_liftThrown _)
    intro amount hamount
    apply meets_skip (meets_orThrow_thrown _ _)
    intro account haccount
    apply meets_skip (meets_liftThrown _)
    intro found hfound
    rw [orThrow_eq_ok] at hseller' hmint haccount
    rw [liftThrown_eq_ok] at hamount hfound
    have hdestination : expectedDestination env call.request.usdcMint quote =
        some (env.toBase58 account) := by
      simp [expectedDestination, hseller', hmint, haccount]
    have hexpected : expectedAmount env call.request.usdcMint quote = some (amount : ℤ) := by
      simp [expectedAmount, hamount, Except.toOption]
    have htransfer : transferOf env t = found := by
      simp [transferOf, hfound, Except.toOption]
    simp only [htransfer, hdestination, hexpected]
    apply meets_cons (meets_orThrow _ _)
    intro transfer hsome
    obtain rfl : found = some transfer := orThrow_eq_ok.mp hsome
    apply meets_cons
    · apply meets_verdict (meets_require _ _)
      simp only [firstRefusal_cons, firstRefusal_nil, Option.or_none]
      exact refuseUnless_congr (by simp [JsValue.strictEq_str])
    intro _ _
    apply meets_cons
    · apply meets_verdict (meets_require _ _)
      simp only [firstRefusal_cons, firstRefusal_nil, Option.or_none]
      apply refuseUnless_congr
      rw [JsValue.strictEq_str, Option.bind_some, and_comm]
      refine and_congr_left fun hmint => ?_
      rw [hmint]
      simp [JsValue.isTruthy, Json.isTruthy]
    intro _ _
    apply meets_skip (meets_liftThrown _)
    intro paid hpaid
    rw [liftThrown_eq_ok] at hpaid
    apply meets_cons
    · apply meets_verdict (meets_require _ _)
      simp [refuseUnless, hpaid, Except.toOption]
    intro _ _
    apply meets_cons (meets_checkMemo t h.supported.memoPolicy)
    intro _ _
    exact meets_pure t

/-- Steps 5 to 15. -/
theorem meets_checkBeforeExecution (h : SettlementCall.Presented env.toCrypto call.now quote) :
    Meets (checkBeforeExecution env consumedNonces call.request quote call.tx call.later)
      ([.transactionFound, .transactionStatus, .transfer, .destination, .mint, .amount, .memo,
        .nonceFormat, .nonceReplay, .expiry].map
        (ValidationStep.verdict env consumedNonces call quote)) := by
  obtain ⟨t, ht, -⟩ := h.live
  rw [checkBeforeExecution]
  apply (meets_checkPayment h).bind
  intro _ _
  simp only [List.map_cons, List.map_nil]
  apply meets_skip (meets_liftThrown _)
  intro nonceOk hnonce
  rw [liftThrown_eq_ok] at hnonce
  apply meets_cons
  · apply meets_verdict (meets_require _ _)
    simp [ValidationStep.verdict, refuseUnless, hnonce]
  intro _ _
  apply meets_cons (meets_require _ _)
  intro _ _
  apply meets_skip (meets_liftThrown _)
  intro expiresMs hexpires
  rw [liftThrown_eq_ok] at hexpires
  apply meets_verdict (meets_require _ _)
  simp [ValidationStep.verdict, refuseUnless, hexpires, Except.toOption]

/-- On a quote that is presented, the code takes the steps in their order. -/
theorem meets_verifyBeforeExecution
    (hdecode : decodeQuoteHeader env call.request.quoteHeaderB64 = .ok quote)
    (h : SettlementCall.Presented env.toCrypto call.now quote) :
    Meets (verifyBeforeExecution env consumedNonces call.request call.tx call.now call.later)
      ((stepsBeforeExpiry ++ [ValidationStep.expiry]).map
        (ValidationStep.verdict env consumedNonces call quote)) := by
  have hrequest : Meets (checkRequest env false call.request call.now)
      ([.decode, .buyerSignature, .sellerSignature, .paymentSignature].map
        (ValidationStep.verdict env consumedNonces call quote)) := by
    apply meets_cons meets_decodeQuoteHeader
    intro q hq
    obtain rfl : quote = q := Except.ok.inj (hdecode.symm.trans hq)
    apply (meets_checkQuote h).bind
    intro _ _
    apply meets_cons (meets_require _ _)
    intro _ _
    exact meets_pure quote
  rw [verifyBeforeExecution]
  apply hrequest.bind
  intro q hq
  obtain rfl : quote = q :=
    Except.ok.inj (hdecode.symm.trans (checkRequest_eq_ok.mp hq).1)
  have hpayment : Meets (checkBeforeExecution env consumedNonces call.request quote call.tx
      call.later) _ := meets_checkBeforeExecution h
  have hrest := hpayment.bind fun _ _ => meets_pure quote
  rwa [List.append_nil] at hrest

/-! ### The errors of the steps -/

def ValidationStep.codes : ValidationStep → List JsString
  | .decode => [js "malformed_quote_header"]
  | .buyerSignature => [js "invalid_buyer_signature"]
  | .sellerSignature => [js "invalid_seller_signature"]
  | .paymentSignature => [js "invalid_payment_signature"]
  | .transactionFound => [js "transaction_not_found"]
  | .transactionStatus => [js "transaction_failed", js "transaction_not_confirmed"]
  | .transfer => [js "transfer_instruction_missing"]
  | .destination => [js "transfer_destination_mismatch"]
  | .mint => [js "transfer_mint_mismatch"]
  | .amount => [js "price_mismatch"]
  | .memo => [js "memo_missing", js "memo_mismatch"]
  | .nonceFormat => [js "invalid_nonce_format"]
  | .nonceReplay => [js "nonce_replayed"]
  | .expiry => [js "expired_quote"]
  | .execution => [js "execution_failed"]

theorem memoVerdict_code {tx : Json} {needle : JsValue} {e : SettlementError}
    (h : memoVerdict env tx needle = some e) : e.code ∈ ValidationStep.codes .memo := by
  unfold memoVerdict at h
  split at h
  · obtain ⟨-, rfl⟩ := refuseUnless_eq_some.mp h
    decide
  · cases h
    decide

/-- A step refuses with a code of its own. -/
theorem verdict_code {step : ValidationStep} {e : SettlementError}
    (h : step.verdict env consumedNonces call quote = some e) : e.code ∈ step.codes := by
  cases step with
  | transactionStatus =>
    rcases Option.or_eq_some_iff.mp h with h | ⟨-, h⟩
    · obtain ⟨-, rfl⟩ := refuseUnless_eq_some.mp h
      decide
    · obtain ⟨-, rfl⟩ := refuseUnless_eq_some.mp h
      decide
  | memo =>
    change policyVerdict env quote _ = some e at h
    unfold policyVerdict at h
    simp only at h
    split_ifs at h
    · exact memoVerdict_code h
    · exact memoVerdict_code h
  | execution =>
    obtain ⟨message, -, rfl⟩ := Option.map_eq_some_iff.mp h
    simp [ValidationStep.codes, executionFailed]
  | _ =>
    obtain ⟨-, rfl⟩ := refuseUnless_eq_some.mp h
    decide

theorem step_of_expired : ∀ step : ValidationStep, js "expired_quote" ∈ step.codes →
    step = .expiry := by
  intro step h
  cases step <;> first | rfl | exact absurd h (by decide)

theorem step_of_malformed : ∀ step : ValidationStep, js "malformed_quote_header" ∈ step.codes →
    step = .decode := by
  intro step h
  cases step <;> first | rfl | exact absurd h (by decide)

/-! ### `verifyQuote` before its signatures -/

theorem presented_of_ok {c : Crypto} {now : ℤ} (h : verifyQuote c now quote = .ok ()) :
    SettlementCall.Presented c now quote := by
  obtain ⟨hsupported, ⟨t, ht, hlive⟩, hnonce, ⟨buyer, _, hbuyer, -⟩, seller, _, hseller, -⟩ :=
    verifyQuote_eq_ok h
  exact ⟨hsupported, ⟨some t, ht, by simpa [isExpired] using hlive⟩, hnonce, ⟨buyer, hbuyer⟩,
    seller, hseller⟩

/-- A refused signature has been looked at. -/
theorem presented_of_signature {c : Crypto} {now : ℤ} {code : QuoteCode}
    (hcode : code = .invalidBuyerSignature ∨ code = .invalidSellerSignature)
    (h : verifyQuote c now quote = .error (.refused code)) :
    SettlementCall.Presented c now quote := by
  have hlate : code ≠ .invalidAmount ∧ code ≠ .unsupportedCurrency ∧ code ≠ .malformedQuote ∧
      code ≠ .expiredQuote ∧ code ≠ .invalidNonceFormat := by
    rcases hcode with rfl | rfl <;> decide
  obtain ⟨hamount, hcurrency, hmalformed, hexpired, hformat⟩ := hlate
  simp only [verifyQuote, bind_eq_error, require_eq_refused, require_eq_ok, liftThrown_eq_ok,
    orThrow_eq_error, orThrow_eq_ok, liftThrown_ne_refused, Failure.refused.injEq, false_or,
    exists_const, hamount.symm, hcurrency.symm, hmalformed.symm, hexpired.symm, hformat.symm,
    and_false] at h
  obtain ⟨hprice, hsupported, hpolicy, t, ht, hlive, _, hnonce, rfl, buyer, hbuyer, seller,
    hseller, -⟩ := h
  exact ⟨⟨hprice, hsupported, hpolicy⟩, ⟨t, ht, hlive⟩, hnonce, ⟨buyer, hbuyer⟩, seller, hseller⟩

/-! ### A call -/

namespace SettlementCall

/-- How the call ends after its checks. -/
def outcome (env : SettlementEnv) (call : SettlementCall) : Settling Members → Execution
  | .error e => .failed e
  | .ok quote =>
    match call.failure with
    | some message => .failed (.refused (executionFailed message))
    | none =>
      .returned (buildReceipt env quote call.request (call.ended - call.now) call.ended)

/-- The checks of the call. -/
def checks (env : SettlementEnv) (consumedNonces : List JsValue) (call : SettlementCall) :
    Settling Members :=
  verifyBeforeExecution env consumedNonces call.request call.tx call.now call.later

theorem run_labels (s : SettlementServer) (t : ℕ) (hidle : s.call t = .idle) :
    (run (SettlementServer.step env) s (call.labels t)).call t =
      call.outcome env (call.checks env s.consumedNonces) := by
  have hchecked := SettlementServer.call_run env s t call.request call.tx call.now call.later hidle
  generalize hs' : run (SettlementServer.step env) s
    [.call t call.request call.now, .rpcReturns t call.tx call.later] = s' at hchecked
  have hrun (i : ServerLabel) : run (SettlementServer.step env) s
      [.call t call.request call.now, .rpcReturns t call.tx call.later, i] =
        next (SettlementServer.step env) s' i := by
    rw [← hs']
    rfl
  rw [labels, hrun, checks]
  cases hverify : verifyBeforeExecution env s.consumedNonces call.request call.tx call.now
    call.later with
  | error e =>
    rw [hverify] at hchecked
    cases hfailure : call.failure <;> simp [next, SettlementServer.step, hchecked, outcome]
  | ok quote =>
    rw [hverify] at hchecked
    cases hfailure : call.failure <;>
      simp [next, SettlementServer.step, hchecked, SettlementServer.call_complete, outcome,
        hfailure]

theorem quote_eq (hdecode : decodeQuoteHeader env call.request.quoteHeaderB64 = .ok quote) :
    call.quote env = quote := by
  simp [SettlementCall.quote, hdecode, Except.toOption]

theorem earliestRefusal_eq
    (hdecode : decodeQuoteHeader env call.request.quoteHeaderB64 = .ok quote) :
    call.earliestRefusal env consumedNonces =
      (firstRefusal (stepsBeforeExpiry.map (ValidationStep.verdict env consumedNonces call quote))).or
        ((ValidationStep.verdict env consumedNonces call quote .expiry).or
          (call.failure.map executionFailed)) := by
  rw [earliestRefusal, quote_eq hdecode, normativeOrder, List.map_append, firstRefusal_append]
  simp [ValidationStep.verdict]

/-- The code of the earliest refusal belongs to a step of the order. -/
theorem exists_step {e : SettlementError}
    (h : call.earliestRefusal env consumedNonces = some e) : ∃ step : ValidationStep,
      step.verdict env consumedNonces call (call.quote env) = some e := by
  obtain ⟨step, -, hstep⟩ := List.mem_map.mp (mem_of_firstRefusal h)
  exact ⟨step, hstep⟩

theorem not_malformed (hdecode : decodeQuoteHeader env call.request.quoteHeaderB64 = .ok quote)
    (message : JsString) :
    call.earliestRefusal env consumedNonces ≠ some (malformedQuoteHeader message) := by
  intro h
  obtain ⟨step, hstep⟩ := exists_step h
  obtain rfl : step = .decode := step_of_malformed step (verdict_code hstep)
  simp [ValidationStep.verdict, hdecode, Except.toOption] at hstep

/-- Expiry is the earliest failing step when all before it pass, and it fails. -/
theorem earliest_expired
    (hdecode : decodeQuoteHeader env call.request.quoteHeaderB64 = .ok quote)
    (hread : ∃ t, dateParseOf env.legacyDate (quote.lookup (js "expires_at")) = .ok t) :
    call.earliestRefusal env consumedNonces = some expiredQuote ↔ Expired env call.later quote ∧
      ∀ step ∈ stepsBeforeExpiry, step.verdict env consumedNonces call quote = none := by
  obtain ⟨t, ht⟩ := hread
  have hexpiry : ValidationStep.verdict env consumedNonces call quote .expiry =
      some expiredQuote ↔ Expired env call.later quote := by
    simp [ValidationStep.verdict, Expired, ht, Except.toOption]
  rw [earliestRefusal_eq hdecode, ← hexpiry]
  constructor
  · intro h
    cases hfirst : firstRefusal (stepsBeforeExpiry.map
        (ValidationStep.verdict env consumedNonces call quote)) with
    | some e =>
      rw [hfirst, Option.some_or, Option.some.injEq] at h
      obtain ⟨step, hmem, hstep⟩ := List.mem_map.mp (mem_of_firstRefusal hfirst)
      have hcode := verdict_code hstep
      rw [h] at hcode
      rw [step_of_expired step hcode] at hmem
      exact absurd hmem (by decide)
    | none =>
      rw [hfirst, Option.none_or] at h
      refine ⟨?_, by simpa [firstRefusal_eq_none] using hfirst⟩
      cases hverdict : ValidationStep.verdict env consumedNonces call quote .expiry with
      | some e => simpa [hverdict] using h
      | none =>
        rw [hverdict, Option.none_or] at h
        obtain ⟨message, -, hfailed⟩ := Option.map_eq_some_iff.mp h
        have hcode : js "execution_failed" = js "expired_quote" :=
          congrArg SettlementError.code hfailed
        exact absurd hcode (by decide)
  · rintro ⟨hexpired, hpass⟩
    have hnone : firstRefusal (stepsBeforeExpiry.map
        (ValidationStep.verdict env consumedNonces call quote)) = none := by
      simpa [firstRefusal_eq_none] using hpass
    rw [hnone, hexpired, Option.none_or, Option.some_or]

theorem checks_of_checkQuote
    (hdecode : decodeQuoteHeader env call.request.quoteHeaderB64 = .ok quote)
    {e : Failure SettlementError} (hcheck : checkQuote env false call.now quote = .error e) :
    call.checks env consumedNonces = .error e := by
  simp [checks, verifyBeforeExecution, checkRequest, hdecode, hcheck, ok_bind, error_bind]

/-- A header without a quote fails the first step. -/
theorem failsInOrder_of_decode {e : Failure SettlementError}
    (hdecode : decodeQuoteHeader env call.request.quoteHeaderB64 = .error e) :
    call.FailsInOrder env consumedNonces (call.outcome env (call.checks env consumedNonces)) := by
  have hchecks : call.checks env consumedNonces = .error e := by
    simp [checks, verifyBeforeExecution, checkRequest, hdecode, error_bind]
  rw [hchecks]
  cases e with
  | thrown e => exact absurd hdecode (clean_decodeQuoteHeader e)
  | refused e =>
    have hmeets : Meets (decodeQuoteHeader env call.request.quoteHeaderB64)
        [ValidationStep.verdict env consumedNonces call (call.quote env) .decode] :=
      meets_decodeQuoteHeader
    have hfirst := hmeets.refuses e hdecode
    rw [firstRefusal_cons, firstRefusal_nil, Option.or_none] at hfirst
    refine ⟨e, rfl, ?_⟩
    rw [earliestRefusal, normativeOrder, stepsBeforeExpiry, List.cons_append, List.map_cons,
      firstRefusal_cons, hfirst, Option.some_or]

/-- A presented quote whose call throws nothing goes through the steps in their order. -/
theorem failsInOrder_of_presented
    (hdecode : decodeQuoteHeader env call.request.quoteHeaderB64 = .ok quote)
    (hpresented : Presented env.toCrypto call.now quote)
    (hclean : Clean (call.checks env consumedNonces)) :
    call.FailsInOrder env consumedNonces (call.outcome env (call.checks env consumedNonces)) := by
  have hmeets : Meets (call.checks env consumedNonces) ((stepsBeforeExpiry ++
      [ValidationStep.expiry]).map (ValidationStep.verdict env consumedNonces call quote)) :=
    meets_verifyBeforeExecution hdecode hpresented
  have hsplit : call.earliestRefusal env consumedNonces =
      (firstRefusal ((stepsBeforeExpiry ++ [ValidationStep.expiry]).map
        (ValidationStep.verdict env consumedNonces call quote))).or
        (call.failure.map executionFailed) := by
    rw [earliestRefusal_eq hdecode, List.map_append, firstRefusal_append, Option.or_assoc]
    simp
  cases hchecks : call.checks env consumedNonces with
  | error e =>
    cases e with
    | thrown e => exact absurd hchecks (hclean e)
    | refused e =>
      refine ⟨e, rfl, ?_⟩
      rw [hsplit, hmeets.refuses e hchecks, Option.some_or]
  | ok quote =>
    unfold outcome
    cases hfailure : call.failure with
    | none => trivial
    | some message =>
      refine ⟨executionFailed message, rfl, ?_⟩
      rw [hsplit, hmeets.returns quote hchecks, hfailure, Option.none_or, Option.map_some]

/-- What `verifyQuote` says decides whether the call can keep to the order. -/
theorem presented_of_failsInOrder
    (hdecode : decodeQuoteHeader env call.request.quoteHeaderB64 = .ok quote)
    (h : call.FailsInOrder env consumedNonces (call.outcome env (call.checks env consumedNonces))) :
    Presented env.toCrypto call.now quote ∨
      PassesBeforeExpiry env.toCrypto quote ∧ Expired env call.now quote ∧
        Expired env call.later quote ∧
        ∀ step ∈ stepsBeforeExpiry, step.verdict env consumedNonces call quote = none := by
  have hfails {e : Failure SettlementError}
      (hcheck : checkQuote env false call.now quote = .error e) :
      ∃ refusal, e = .refused refusal ∧
        call.earliestRefusal env consumedNonces = some refusal := by
    rw [checks_of_checkQuote hdecode hcheck] at h
    exact h
  cases hverify : verifyQuote env.toCrypto call.now quote with
  | ok u => exact Or.inl (presented_of_ok hverify)
  | error failure =>
    cases failure with
    | thrown e =>
      obtain ⟨refusal, hrefusal, -⟩ := hfails (e := .thrown e) (by simp [checkQuote, hverify])
      cases hrefusal
    | refused code =>
      cases code with
      | invalidBuyerSignature => exact Or.inl (presented_of_signature (Or.inl rfl) hverify)
      | invalidSellerSignature => exact Or.inl (presented_of_signature (Or.inr rfl) hverify)
      | expiredQuote =>
        obtain ⟨hsupported, expiresMs, hdate, hdue⟩ := verifyQuote_eq_expired.mp hverify
        obtain ⟨refusal, hrefusal, hearliest⟩ :=
          hfails (e := .refused expiredQuote) (by simp [checkQuote, hverify])
        cases hrefusal
        obtain ⟨hlater, hpass⟩ := (earliest_expired hdecode ⟨expiresMs, hdate⟩).mp hearliest
        exact Or.inr ⟨hsupported, ⟨expiresMs, hdate, hdue⟩, hlater, hpass⟩
      | _ =>
        -- the other codes of `verifyQuote` become errors of the header
        obtain ⟨refusal, hrefusal, hearliest⟩ := hfails (by simp [checkQuote, hverify]; rfl)
        cases hrefusal
        exact absurd hearliest (not_malformed hdecode _)

/-- A call fails with the refusal of the earliest failing step exactly when its quote, if the
header has one, lets it keep to the order. -/
theorem verifyAndExecute_inOrder_iff (env : SettlementEnv) (s : SettlementServer) (t : ℕ)
    (call : SettlementCall) (hidle : s.call t = .idle) {decimals : ℕ} {mint : PublicKey}
    (hdecimals : env.mintDecimals.lookup call.request.usdcMint = some decimals)
    (hmint : env.newPublicKey call.request.usdcMint = some mint) :
    call.FailsInOrder env s.consumedNonces
        ((run (SettlementServer.step env) s (call.labels t)).call t) ↔
      ∀ quote, decodeQuoteHeader env call.request.quoteHeaderB64 = .ok quote →
        call.KeepsOrder env s.consumedNonces mint quote := by
  have hreadable : Clean (call.checks env s.consumedNonces) ↔ _ :=
    clean_verifyBeforeExecution hdecimals hmint
  rw [run_labels s t hidle]
  constructor
  · intro h quote hdecode
    have hclean : Clean (call.checks env s.consumedNonces) := by
      intro e he
      rw [he] at h
      obtain ⟨refusal, hrefusal, -⟩ := h
      cases hrefusal
    exact ⟨presented_of_failsInOrder hdecode h, hreadable.mp hclean quote hdecode⟩
  · intro h
    cases hdecode : decodeQuoteHeader env call.request.quoteHeaderB64 with
    | error e => exact failsInOrder_of_decode hdecode
    | ok quote =>
      obtain ⟨hpresented | ⟨hsupported, ⟨expiresMs, hdate, hdue⟩, hlater, hpass⟩, hread⟩ :=
        h quote hdecode
      · apply failsInOrder_of_presented hdecode hpresented
        apply hreadable.mpr
        intro q hq
        obtain rfl : quote = q := Except.ok.inj (hdecode.symm.trans hq)
        exact hread
      · have hverify : verifyQuote env.toCrypto call.now quote = .error (.refused .expiredQuote) :=
          verifyQuote_eq_expired.mpr ⟨hsupported, expiresMs, hdate, hdue⟩
        have hcheck : checkQuote env false call.now quote = .error (.refused expiredQuote) := by
          simp [checkQuote, hverify]
        rw [checks_of_checkQuote hdecode hcheck]
        exact ⟨expiredQuote, rfl,
          (earliest_expired hdecode ⟨expiresMs, hdate⟩).mpr ⟨hlater, hpass⟩⟩

end SettlementCall

end Meets

/-! ### Two calls -/

/-- The refusal that some code ends in. -/
def refusalOf {α : Type} : Settling α → Option SettlementError
  | .error (.refused e) => some e
  | _ => none

theorem refusalOf_eq_some {α : Type} {x : Settling α} {e : SettlementError} :
    refusalOf x = some e ↔ x = .error (.refused e) := by
  rcases x with (_ | _) | _ <;> simp [refusalOf]

namespace SettlementCall

/-- An expired quote, with a signature that its buyer has not made. -/
def forged : SettlementCall :=
  ⟨forgedRequest, some forgedPayment, afterExpiry, afterExpiry, afterExpiry, none⟩

/-- The expiry is refused, although the signature of the buyer comes first. -/
theorem verifyAndExecute_out_of_order :
    ¬ forged.FailsInOrder (sampleEnv (.obj forgedQuote) []) []
      ((run (SettlementServer.step (sampleEnv (.obj forgedQuote) [])) .empty
        (forged.labels 1)).call 1) := by
  have hchecks : refusalOf (forged.checks (sampleEnv (.obj forgedQuote) []) []) =
      some expiredQuote := by decide +kernel
  have hearliest : forged.earliestRefusal (sampleEnv (.obj forgedQuote) []) [] =
      some invalidBuyerSignature := by decide +kernel
  have hdiffer : invalidBuyerSignature ≠ expiredQuote := by decide
  rw [run_labels .empty 1 rfl]
  change ¬ FailsInOrder _ [] _ (outcome _ _ (checks _ [] _))
  rw [refusalOf_eq_some.mp hchecks]
  rintro ⟨refusal, hrefusal, hfirst⟩
  cases hrefusal
  rw [hearliest, Option.some.injEq] at hfirst
  exact hdiffer hfirst

/-- A call whose executor fails. -/
def paid : SettlementCall :=
  ⟨signedRequest, some signedPayment, beforeExpiry, beforeExpiry, beforeExpiry, some (js "busy")⟩

theorem verifyAndExecute_inOrder_paid :
    ∃ quote, decodeQuoteHeader signedEnv signedRequest.quoteHeaderB64 = .ok quote ∧
      paid.KeepsOrder signedEnv [] usdcMintKey quote := by
  have hdecodes : Js.succeeds (decodeQuoteHeader signedEnv signedRequest.quoteHeaderB64) = true := by
    decide +kernel
  have hok : Js.succeeds (paid.checks signedEnv []) = true := by decide +kernel
  have hearliest : paid.earliestRefusal signedEnv [] = some (executionFailed (js "busy")) := by
    decide +kernel
  have hdecimals : signedEnv.mintDecimals.lookup paid.request.usdcMint = some 6 := by
    decide +kernel
  have hmint : signedEnv.newPublicKey paid.request.usdcMint = some usdcMintKey := by
    decide +kernel
  obtain ⟨quote, hquote⟩ := succeeds_iff.mp hdecodes
  refine ⟨quote, hquote,
    (verifyAndExecute_inOrder_iff signedEnv .empty 1 paid rfl hdecimals hmint).mp ?_ quote hquote⟩
  rw [run_labels .empty 1 rfl]
  obtain ⟨_, hpaid⟩ := succeeds_iff.mp hok
  change FailsInOrder _ [] _ (outcome _ _ (checks _ [] _))
  rw [hpaid]
  exact ⟨_, rfl, hearliest⟩

end SettlementCall
end GhostBazaar.Settlement
