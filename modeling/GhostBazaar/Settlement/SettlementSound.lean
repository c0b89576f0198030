import GhostBazaar.Core.Canonical
import GhostBazaar.Settlement.Execute

/-! What a result of `verifySettlement` guarantees about the signatures of its quote: they
were verified exactly when the quote had not expired. -/
namespace GhostBazaar.Settlement
open Js GhostBazaar.Core

/-! ### Inversion -/

theorem decodeQuoteHeader_eq_ok {env : SettlementEnv} {header : JsString} {quote : Members} :
    decodeQuoteHeader env header = .ok quote ↔ env.parseHeader header = some (.obj quote) ∧
      JsValue.isTruthy (quote.lookup (js "quote_id")) = true := by
  rw [decodeQuoteHeader]
  split
  · rename_i ms hms
    simp only [hms, Option.some.injEq, Json.obj.injEq]
    split_ifs with h
    · constructor
      · intro heq
        rw [Except.ok.injEq] at heq
        exact ⟨heq, heq ▸ h⟩
      · rintro ⟨rfl, -⟩
        rfl
    · simp only [false_iff, not_and]
      rintro rfl
      exact h
  · rename_i hno
    simp only [reduceCtorEq, false_iff, not_and]
    exact fun h => absurd h (hno quote)

theorem checkQuote_eq_ok {env : SettlementEnv} {forgive : Bool} {now : ℤ} {quote : Members} :
    checkQuote env forgive now quote = .ok () ↔ verifyQuote env.toCrypto now quote = .ok () ∨
      forgive = true ∧ verifyQuote env.toCrypto now quote = .error (.refused .expiredQuote) := by
  rw [checkQuote]
  rcases verifyQuote env.toCrypto now quote with e | ⟨⟩
  · rcases e with code | e
    · cases code <;> simp
    · simp
  · simp

theorem checkRequest_eq_ok {env : SettlementEnv} {forgive : Bool} {request : SettlementRequest}
    {now : ℤ} {quote : Members} : checkRequest env forgive request now = .ok quote ↔
      decodeQuoteHeader env request.quoteHeaderB64 = .ok quote ∧
      checkQuote env forgive now quote = .ok () ∧
      isPaymentSignature env request.paymentSignature = true := by
  simp only [checkRequest, bind_eq_ok, require_eq_ok, pure_eq_ok]
  constructor
  · rintro ⟨q, hq, ⟨⟩, hcheck, ⟨⟩, hsig, rfl⟩
    exact ⟨hq, hcheck, hsig⟩
  · rintro ⟨hq, hcheck, hsig⟩
    exact ⟨quote, hq, (), hcheck, (), hsig, rfl⟩

/-- The transfer of a transaction that pays the price of the quote to its seller. -/
structure Pays (env : SettlementEnv) (usdcMint : JsString) (quote : Members)
    (transfer : TransferInfo) : Prop where
  destination : ∃ seller mint account, env.publicKeyOf (quote.lookup (js "seller")) = some seller ∧
    env.newPublicKey usdcMint = some mint ∧
    env.associatedTokenAddress mint seller = some account ∧
    transfer.destination = some (.str (env.toBase58 account))
  mint : transfer.mint = some (.str usdcMint)
  amount : ∃ amount, normalizeAmount env.mintDecimals (quote.lookup (js "final_price")) usdcMint =
    .ok amount ∧ toBigInt transfer.amount = .ok (amount : ℤ)

theorem checkPayment_eq_ok {env : SettlementEnv} {refuseFalsyMint : Bool} {usdcMint : JsString}
    {quote : Members} {tx : JsValue} {tx' : Json} :
    checkPayment env refuseFalsyMint usdcMint quote tx = .ok tx' ↔
      tx = some tx' ∧ tx'.isTruthy = true ∧
      JsValue.isTruthy (JsValue.get? (tx'.get? (js "meta")) (js "err")) = false ∧
      JsValue.isTruthy (tx'.get? (js "slot")) = true ∧
      (∃ transfer, extractSplTransfer env.base58Decode tx' = .ok (some transfer) ∧
        Pays env usdcMint quote transfer ∧
        (refuseFalsyMint = true → transfer.mint.isTruthy = true)) ∧
      checkMemo env quote tx' = .ok () := by
  simp only [checkPayment, bind_eq_ok, require_eq_ok, liftThrown_eq_ok, orThrow_eq_ok, pure_eq_ok,
    Option.filter_eq_some_iff, JsValue.strictEq_str]
  constructor
  · rintro ⟨t, ⟨htx, ht⟩, ⟨⟩, herr, ⟨⟩, hslot, seller, hseller, mint, hmint, amount, hamount,
      account, haccount, _, htransfer, transfer, rfl, ⟨⟩, hdest, ⟨⟩, ⟨hm, hfalsy⟩, n, hn, ⟨⟩, rfl,
      ⟨⟩, hmemo, rfl⟩
    exact ⟨htx, ht, herr, hslot, ⟨transfer, htransfer,
      ⟨⟨seller, mint, account, hseller, hmint, haccount, hdest⟩, hm, amount, hamount, hn⟩,
      hfalsy⟩, hmemo⟩
  · rintro ⟨htx, ht, herr, hslot, ⟨transfer, htransfer,
      ⟨⟨seller, mint, account, hseller, hmint, haccount, hdest⟩, hm, amount, hamount, hn⟩,
      hfalsy⟩, hmemo⟩
    exact ⟨tx', ⟨htx, ht⟩, (), herr, (), hslot, seller, hseller, mint, hmint, amount, hamount,
      account, haccount, _, htransfer, transfer, rfl, (), hdest, (), ⟨hm, hfalsy⟩, amount, hn, (),
      rfl, (), hmemo, rfl⟩

theorem settleTransaction_eq_ok {env : SettlementEnv} {request : SettlementRequest}
    {quote : Members} {tx : JsValue} {result : VerificationResult}
    (h : settleTransaction env request quote tx = .ok result) :
    result.quote = quote ∧
      (∃ tx', checkPayment env false request.usdcMint quote tx = .ok tx') ∧
      result.txSig = request.paymentSignature := by
  simp only [settleTransaction, bind_eq_ok, pure_eq_ok, liftThrown_eq_ok] at h
  obtain ⟨tx', htx, blockTime, -, rfl⟩ := h
  exact ⟨rfl, ⟨tx', htx⟩, rfl⟩

theorem verifySettlement_eq_ok {env : SettlementEnv} {request : SettlementRequest} {now : ℤ}
    {tx : JsValue} {result : VerificationResult}
    (h : verifySettlement env request now tx = .ok result) :
    checkRequest env true request now = .ok result.quote ∧
      (∃ tx', checkPayment env false request.usdcMint result.quote tx = .ok tx') ∧
      result.txSig = request.paymentSignature := by
  simp only [verifySettlement, bind_eq_ok] at h
  obtain ⟨quote, hquote, h⟩ := h
  obtain ⟨rfl, htx, hsig⟩ := settleTransaction_eq_ok h
  exact ⟨hquote, htx, hsig⟩

theorem verifySettlement_of_checks {env : SettlementEnv} {request : SettlementRequest} {now : ℤ}
    {quote : Members} {tx : Json} (hquote : checkRequest env true request now = .ok quote)
    (htx : checkPayment env false request.usdcMint quote (some tx) = .ok tx)
    (htime : tx.get? (js "blockTime") = none) :
    ∃ result, verifySettlement env request now (some tx) = .ok result ∧ result.quote = quote := by
  simp only [verifySettlement, settleTransaction, bind_eq_ok, pure_eq_ok, liftThrown_eq_ok]
  exact ⟨_, ⟨quote, hquote, tx, htx, none, by rw [htime]; rfl, rfl⟩, rfl⟩

/-! ### A transaction that passes -/

/-- A confirmed transaction with one checked transfer and one memo. -/
def paymentTx (destination amount mint memo : JsString) : Json :=
  .obj [(js "slot", .num (.ofNat 1)),
    (js "transaction", .obj [(js "message", .obj [(js "instructions", .arr [
      .obj [(js "program", .str (js "spl-token")),
        (js "parsed", .obj [(js "type", .str (js "transferChecked")),
          (js "info", .obj [(js "destination", .str destination), (js "mint", .str mint),
            (js "tokenAmount", .obj [(js "amount", .str amount)])])])],
      .obj [(js "program", .str (js "spl-memo")), (js "parsed", .str memo)]])])])]

theorem extractSplTransfer_paymentTx (decode : JsString → Option (List UInt8))
    (destination amount mint memo : JsString) :
    extractSplTransfer decode (paymentTx destination amount mint memo) =
      .ok (some ⟨none, some (.str destination), some (.str amount), some (.str mint)⟩) := by
  rfl

theorem extractMemo_paymentTx (decode : JsString → Option (List UInt8))
    (destination amount mint memo : JsString) (u : CodeUnit) :
    extractMemo decode (paymentTx destination amount mint (u :: memo)) =
      .ok (some (.str (u :: memo))) := by
  rfl

/-- The quote has expired, or its expiry does not parse. -/
def Expired (env : SettlementEnv) (now : ℤ) (quote : Members) : Prop :=
  ∃ t, dateParseOf env.legacyDate (quote.lookup (js "expires_at")) = .ok t ∧ isExpired now t = true

/-- No check but those of expiry and signatures stands against a payment of the quote. -/
structure Settleable (env : SettlementEnv) (request : SettlementRequest) (quote : Members) :
    Prop where
  beforeExpiry : PassesBeforeExpiry env.toCrypto quote
  paymentSignature : isPaymentSignature env request.paymentSignature = true
  destination : ∃ seller mint account, env.publicKeyOf (quote.lookup (js "seller")) = some seller ∧
    env.newPublicKey request.usdcMint = some mint ∧
    env.associatedTokenAddress mint seller = some account
  price : ∃ amount, normalizeAmount env.mintDecimals (quote.lookup (js "final_price"))
    request.usdcMint = .ok amount
  quoteId : quote.lookup (js "memo_policy") = some (.str (js "quote_id_required")) →
    ∃ text, stringOf (quote.lookup (js "quote_id")) = .ok text

/-- Under `quote_id_required` the memo of the transaction contains the quote id. -/
theorem checkMemo_quoteIdRequired {env : SettlementEnv} {quote : Members} {tx : Json}
    (h : checkMemo env quote tx = .ok ())
    (hpolicy : quote.lookup (js "memo_policy") = some (.str (js "quote_id_required"))) :
    ∃ memo, extractMemo env.base58Decode tx = .ok (some memo) ∧
      memoIncludes memo (quote.lookup (js "quote_id")) = .ok true := by
  have hopt : JsValue.strictEq (some (.str (js "quote_id_required")))
      (some (.str (js "optional"))) = false := by decide
  have hid : JsValue.strictEq (some (.str (js "quote_id_required")))
      (some (.str (js "quote_id_required"))) = true := by decide
  simp only [checkMemo, hpolicy, hopt, hid, Bool.false_eq_true, if_false, if_true, bind_eq_ok,
    liftThrown_eq_ok, orThrow_eq_ok, require_eq_ok] at h
  obtain ⟨found, hfound, memo, hmemo, matched, hmatched, hm⟩ := h
  rw [Option.filter_eq_some_iff] at hmemo
  exact ⟨memo, hmemo.1 ▸ hfound, hm ▸ hmatched⟩

theorem memoIncludes_stringOf {memo : Json} {needle : JsValue}
    (h : memoIncludes memo needle = .ok true) : ∃ text, stringOf needle = .ok text := by
  cases memo with
  | str s =>
    cases hn : stringOf needle with
    | ok text => exact ⟨text, rfl⟩
    | error e => simp [memoIncludes, hn, Except.map] at h
  | arr xs =>
    -- an element equal to the needle is a primitive
    simp only [memoIncludes, Except.ok.injEq, List.any_eq_true] at h
    obtain ⟨x, -, hx⟩ := h
    cases needle with
    | none => simp [JsValue.strictEq] at hx
    | some v =>
      rw [JsValue.strictEq, Bool.and_eq_true, Bool.not_eq_true', decide_eq_true_eq] at hx
      obtain ⟨hprim, rfl⟩ := hx
      cases x with
      | arr _ | obj _ => simp [Json.isObject] at hprim
      | _ => exact ⟨_, rfl⟩
  | _ => simp [memoIncludes] at h

/-- A memo that contains whatever the policy of the quote asks for. -/
theorem exists_memo {env : SettlementEnv} {request : SettlementRequest} {quote : Members}
    (h : Settleable env request quote) (destination amount mint : JsString) :
    ∃ memo, checkMemo env quote (paymentTx destination amount mint memo) = .ok () := by
  have hmemo (text : JsString) := extractMemo_paymentTx env.base58Decode destination amount mint
    text 32
  have hincl (text : JsString) : includes (32 :: text) text = true :=
    (includes_iff _ _).mpr ⟨[32], [], by simp⟩
  by_cases hid : quote.lookup (js "memo_policy") = some (.str (js "quote_id_required"))
  · obtain ⟨text, htext⟩ := h.quoteId hid
    refine ⟨32 :: text, ?_⟩
    have hopt : JsValue.strictEq (some (.str (js "quote_id_required")))
        (some (.str (js "optional"))) = false := by decide
    simp only [checkMemo, hid, hopt, hmemo, (JsValue.strictEq_str _ _).mpr]
    simp [liftThrown, orThrow, Option.filter, Json.isTruthy, memoIncludes, htext, Except.map,
      hincl, require, ensure, Bind.bind, Except.bind]
  · refine ⟨32 :: hexText (env.sha256 (env.canonicalJson quote)).bytes, ?_⟩
    have hid' : JsValue.strictEq (quote.lookup (js "memo_policy"))
        (some (.str (js "quote_id_required"))) = false := by
      rw [Bool.eq_false_iff]
      exact fun he => hid ((JsValue.strictEq_str _ _).mp he)
    simp only [checkMemo, hid', hmemo]
    simp [liftThrown, orThrow, Option.filter, Json.isTruthy, memoIncludes, stringOf_str, Except.map,
      hincl, require, ensure, Bind.bind, Except.bind, Pure.pure, Except.pure]

theorem exists_payment {env : SettlementEnv} {request : SettlementRequest} {now : ℤ}
    {quote : Members} (hquote : checkRequest env true request now = .ok quote)
    (h : Settleable env request quote) :
    ∃ tx result, verifySettlement env request now tx = .ok result ∧ result.quote = quote := by
  obtain ⟨seller, mint, account, hseller, hmint, haccount⟩ := h.destination
  obtain ⟨amount, hamount⟩ := h.price
  obtain ⟨memo, hmemo⟩ := exists_memo h (env.toBase58 account) (natText amount) request.usdcMint
  have hbig : toBigInt (some (.str (natText amount))) = .ok (amount : ℤ) := by
    simp only [toBigInt, bind_eq_ok, orThrow_eq_ok]
    exact ⟨natText amount, stringOf_str _, stringToBigInt_natText amount⟩
  have hpay : Pays env request.usdcMint quote ⟨none, some (.str (env.toBase58 account)),
      some (.str (natText amount)), some (.str request.usdcMint)⟩ :=
    ⟨⟨seller, mint, account, hseller, hmint, haccount, rfl⟩, rfl, amount, hamount, hbig⟩
  exact ⟨_, verifySettlement_of_checks hquote (checkPayment_eq_ok.mpr ⟨rfl, rfl, rfl, rfl,
    ⟨_, extractSplTransfer_paymentTx _ _ _ _ _, hpay, by simp⟩, hmemo⟩) rfl⟩

/-! ### The signatures of a verified quote -/

def SettlementEnv.withVerify (env : SettlementEnv)
    (verify : ByteArray → JsString → PublicKey → Bool) : SettlementEnv :=
  { env with verifyEd25519 := verify }

/-- Every result comes with two verified signatures, for all signature checks and all
transactions, exactly when the header carries no expired quote that can be settled. -/
theorem verifySettlement_signatures_iff (env : SettlementEnv) (request : SettlementRequest)
    (now : ℤ) :
    (∀ verify tx result,
      verifySettlement (env.withVerify verify) request now tx = .ok result →
        SignaturesVerify (env.withVerify verify).toCrypto result.quote) ↔
      ∀ quote, decodeQuoteHeader env request.quoteHeaderB64 = .ok quote →
        Expired env now quote → ¬ Settleable env request quote := by
  constructor
  · intro hall quote hquote hexp hsettle
    -- with no signature accepted, the expired quote is still settled
    have hexpired : verifyQuote (env.withVerify fun _ _ _ => false).toCrypto now quote =
        .error (.refused .expiredQuote) :=
      verifyQuote_eq_expired.mpr ⟨⟨hsettle.beforeExpiry.amount, hsettle.beforeExpiry.currency,
        hsettle.beforeExpiry.memoPolicy⟩, hexp⟩
    have hrequest : checkRequest (env.withVerify fun _ _ _ => false) true request now =
        .ok quote := checkRequest_eq_ok.mpr
      ⟨hquote, checkQuote_eq_ok.mpr (Or.inr ⟨rfl, hexpired⟩), hsettle.paymentSignature⟩
    have hsettle' : Settleable (env.withVerify fun _ _ _ => false) request quote :=
      ⟨⟨hsettle.beforeExpiry.amount, hsettle.beforeExpiry.currency,
        hsettle.beforeExpiry.memoPolicy⟩, hsettle.paymentSignature, hsettle.destination,
        hsettle.price, hsettle.quoteId⟩
    obtain ⟨tx, result, hresult, -⟩ := exists_payment hrequest hsettle'
    obtain ⟨⟨_, _, -, -, hverified⟩, -⟩ := hall _ tx result hresult
    exact Bool.false_ne_true hverified
  · intro hcond verify tx result hresult
    obtain ⟨hrequest, ⟨tx', htx⟩, -⟩ := verifySettlement_eq_ok hresult
    obtain ⟨hdecode, hcheck, hsig⟩ := checkRequest_eq_ok.mp hrequest
    rcases checkQuote_eq_ok.mp hcheck with hok | ⟨-, hexpired⟩
    · exact (verifyQuote_eq_ok hok).2.2.2
    · obtain ⟨hbefore, hexp⟩ := verifyQuote_eq_expired.mp hexpired
      refine absurd ?_ (hcond result.quote hdecode hexp)
      obtain ⟨-, -, -, -, ⟨transfer, -, hpay, -⟩, hmemo⟩ := checkPayment_eq_ok.mp htx
      obtain ⟨seller, mint, account, hseller, hmint, haccount, -⟩ := hpay.destination
      obtain ⟨amount, hamount, -⟩ := hpay.amount
      refine ⟨⟨hbefore.amount, hbefore.currency, hbefore.memoPolicy⟩, hsig,
        ⟨seller, mint, account, hseller, hmint, haccount⟩, ⟨amount, hamount⟩,
        fun hpolicy => ?_⟩
      obtain ⟨memo, -, hincl⟩ := checkMemo_quoteIdRequired hmemo hpolicy
      exact memoIncludes_stringOf hincl

/-! ### An expired quote without signatures -/

def sampleBuyer : JsString := js "did:key:z6Mkr8RQEcbgjhdqGMpTQb3ceSbZnGzXzzKdjKW6W2RMTiz6"

def sampleSeller : JsString := js "did:key:z6Mkj5973m6S5MtxyapnWNKeFRjtnNGn9g77Aua5FPxk6JDU"

def otherBuyer : JsString := js "did:key:z6Mkss2R8FdLh5PkTRYwgVP5fFKkB881yyjb6xQ5QTwsyG7P"

def otherSeller : JsString := js "did:key:z6MkkSpMNk8TpuZhEHSrnQ93WJaoY2DjWQZYrL4uHpPDj5iX"

def usdcMint : JsString := js "EPjFWdd5AufqSSqeM2qN1xzybapC8G4wEGGkZwyTDt1v"

def samplePayment : JsString := List.replicate 64 49

def sampleBuyerKey : PublicKey :=
  ⟨[173, 120, 201, 90, 77, 111, 248, 18, 200, 253, 222, 124, 69, 135, 16, 199, 173, 2, 160, 55,
    72, 210, 66, 200, 207, 119, 101, 73, 128, 226, 225, 195], rfl⟩

def sampleSellerKey : PublicKey :=
  ⟨[68, 159, 207, 46, 133, 37, 16, 202, 118, 165, 158, 134, 131, 124, 101, 36, 17, 135, 188, 66,
    159, 81, 236, 99, 93, 56, 203, 144, 48, 60, 206, 143], rfl⟩

def otherBuyerKey : PublicKey :=
  ⟨[199, 62, 117, 156, 215, 149, 58, 3, 176, 190, 103, 16, 145, 1, 224, 211, 81, 138, 12, 130,
    157, 190, 128, 220, 192, 35, 130, 12, 124, 151, 174, 46], rfl⟩

def otherSellerKey : PublicKey :=
  ⟨[89, 9, 17, 233, 145, 146, 1, 38, 137, 159, 240, 31, 167, 3, 107, 176, 138, 61, 131, 44, 198,
    241, 42, 167, 252, 190, 25, 254, 195, 218, 212, 200], rfl⟩

def usdcMintKey : PublicKey :=
  ⟨[198, 250, 122, 243, 190, 219, 173, 58, 61, 101, 243, 106, 171, 201, 116, 49, 177, 187, 228,
    194, 210, 246, 224, 228, 124, 166, 2, 3, 69, 47, 93, 97], rfl⟩

/-- The token account of `sampleSellerKey` for `usdcMintKey`. -/
def sampleSellerAccount : PublicKey :=
  ⟨[252, 58, 213, 177, 136, 206, 148, 251, 122, 220, 119, 96, 127, 227, 35, 93, 190, 14, 139,
    115, 182, 224, 127, 128, 190, 121, 253, 61, 103, 112, 141, 186], rfl⟩

/-- The token account of `otherSellerKey` for `usdcMintKey`. -/
def otherSellerAccount : PublicKey :=
  ⟨[68, 148, 1, 74, 194, 173, 219, 190, 92, 36, 36, 168, 165, 141, 119, 201, 207, 13, 58, 126,
    237, 3, 147, 93, 248, 190, 211, 217, 235, 227, 165, 221], rfl⟩

instance : DecidableEq PublicKey := fun a b =>
  decidable_of_iff (a.bytes = b.bytes) (by cases a; cases b; simp)

def sampleAccountText : JsString := js "HybmsKR6jdr5mjrorDeNqRi3dGm1E55uxu33jrNQSWXb"

def otherAccountText : JsString := js "5chcxDSeXv68QdFkL9CYL81Z4hg5e4mDSzFJNtfZ1Pfi"

/-- The libraries on the values of the examples: headers that carry `decoded`, and the
signatures that verify. -/
def sampleEnv (decoded : Json) (signatures : List JsString) : SettlementEnv where
  verifyEd25519 _ sig _ := sig ∈ signatures
  canonicalJson := canonicalJson
  didToPublicKey did := [(sampleBuyer, sampleBuyerKey), (sampleSeller, sampleSellerKey),
    (otherBuyer, otherBuyerKey), (otherSeller, otherSellerKey)].lookup did
  newDecimal v := (v.asStr.filter isPlainDecimal).map fun s => .finite (microUnits s 6 / 1000000)
  legacyDate _ := none
  parseHeader _ := some decoded
  base58Decode s := if s = samplePayment then some (List.replicate 64 0) else none
  newPublicKey s := if s = usdcMint then some usdcMintKey else none
  toBase58 key := if key = sampleSellerAccount then sampleAccountText else otherAccountText
  associatedTokenAddress _ owner :=
    if owner = sampleSellerKey then some sampleSellerAccount else some otherSellerAccount
  sha256 _ := ⟨List.replicate 32 0, rfl⟩
  mintDecimals := MINT_DECIMALS

def forgedQuote : Members :=
  [(js "quote_id", .str (js "3f2c8f0e-6d1b-4c7e-9a55-0c2f8f3f1a10")),
    (js "buyer", .str sampleBuyer),
    (js "seller", .str sampleSeller),
    (js "final_price", .str (js "9")),
    (js "currency", .str (js "USDC")),
    (js "expires_at", .str (js "2026-03-01T12:05:00.000Z")),
    (js "memo_policy", .str (js "optional")),
    (js "buyer_signature", .str (js "ed25519:forged")),
    (js "seller_signature", .str (js "ed25519:forged"))]

/-- The base64 text of `forgedQuote`. -/
def forgedHeader : JsString :=
  js "eyJxdW90ZV9pZCI6IjNmMmM4ZjBlLTZkMWItNGM3ZS05YTU1LTBjMmY4ZjNmMWExMCIsImJ1eWVyIjoiZGlk" ++
    js "OmtleTp6Nk1rcjhSUUVjYmdqaGRxR01wVFFiM2NlU2Jabkd6WHp6S2RqS1c2VzJSTVRpejYiLCJzZWxsZXIi" ++
    js "OiJkaWQ6a2V5Ono2TWtqNTk3M202UzVNdHh5YXBuV05LZUZSanRuTkduOWc3N0F1YTVGUHhrNkpEVSIsImZp" ++
    js "bmFsX3ByaWNlIjoiOSIsImN1cnJlbmN5IjoiVVNEQyIsImV4cGlyZXNfYXQiOiIyMDI2LTAzLTAxVDEyOjA1" ++
    js "OjAwLjAwMFoiLCJtZW1vX3BvbGljeSI6Im9wdGlvbmFsIiwiYnV5ZXJfc2lnbmF0dXJlIjoiZWQyNTUxOTpm" ++
    js "b3JnZWQiLCJzZWxsZXJfc2lnbmF0dXJlIjoiZWQyNTUxOTpmb3JnZWQifQ=="

/-- 2026-03-01T12:06:00Z, a minute after the quote expired. -/
def afterExpiry : ℤ := 1772366760000

def forgedRequest : SettlementRequest := ⟨forgedHeader, samplePayment, usdcMint, none⟩

def forgedPayment : Json := paymentTx sampleAccountText (js "9000000") usdcMint []

theorem verifySettlement_forgedQuote : ∃ result,
    verifySettlement (sampleEnv (.obj forgedQuote) []) forgedRequest afterExpiry
        (some forgedPayment) = .ok result ∧
      ¬ SignaturesVerify (sampleEnv (.obj forgedQuote) []).toCrypto result.quote := by
  have hok : succeeds (verifySettlement (sampleEnv (.obj forgedQuote) []) forgedRequest
      afterExpiry (some forgedPayment)) = true := by decide +kernel
  obtain ⟨result, hresult⟩ := succeeds_iff.mp hok
  refine ⟨result, hresult, ?_⟩
  rintro ⟨⟨_, _, -, -, hverified⟩, -⟩
  simp [sampleEnv] at hverified

end GhostBazaar.Settlement
