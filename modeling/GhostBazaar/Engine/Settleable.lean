import GhostBazaar.Engine.Answers
import GhostBazaar.Engine.QuotePaths
import GhostBazaar.Settlement.Transfers

/-! Every committed quote can be settled: the checks of bidding, of the accept and of the
signatures together imply those of the settlement. -/
namespace GhostBazaar.Engine
open Js GhostBazaar.Core Settlement Transition

/-! ### Offers and the events that submitted them -/

/-- The event records the terms of the offer. -/
structure Submits (event : NegotiationEvent) (offer : RecordedOffer) : Prop where
  type : event.type = .offerSubmitted
  price : event.payload.lookup (js "price") = some (.str offer.price)
  currency : event.payload.lookup (js "currency") = some (.str offer.currency)

theorem applyOfferSubmitted_submits {s s' : DerivedSession} {event : NegotiationEvent}
    (htype : event.type = .offerSubmitted) (h : applyOfferSubmitted s event = .ok s') :
    ∃ offer, s'.offers = s.offers ++ [offer] ∧ Submits event offer := by
  simp only [applyOfferSubmitted, bind_eq_ok, ensure_eq_ok, pure_eq_ok, str_eq_ok] at h
  obtain ⟨_, -, _, -, _, hprice, _, hcurrency, _, -, _, -, _, -, -, -, rfl⟩ := h
  exact ⟨_, rfl, htype, hprice, hcurrency⟩

theorem applyEvent_submits {s s' : DerivedSession} {event : NegotiationEvent}
    (h : applyEvent s event = .ok s') :
    s'.offers = s.offers ∨ ∃ offer, s'.offers = s.offers ++ [offer] ∧ Submits event offer := by
  by_cases htype : event.type = .offerSubmitted
  · rw [applyEvent, bind_eq_ok] at h
    obtain ⟨next, -, h⟩ := h
    simp only [applyPayload, htype] at h
    obtain ⟨offer, hoffers, hsubmits⟩ := applyOfferSubmitted_submits htype h
    exact Or.inr ⟨offer, hoffers, hsubmits⟩
  · rcases (applyEvent_step h).offers with hsame | ⟨offer, -, hoffer, -⟩
    · exact Or.inl hsame
    · exact absurd hoffer htype

theorem exists_submits {log : List NegotiationEvent} {s : DerivedSession}
    (hs : deriveState log = .ok (some s)) {offer : RecordedOffer} (ho : offer ∈ s.offers) :
    ∃ event ∈ log, Submits event offer := by
  induction log using List.reverseRecOn generalizing s with
  | nil => simp [deriveState] at hs
  | append_singleton log event ih =>
    cases log with
    | nil =>
      rcases derives_append hs with ⟨-, hfirst⟩ | ⟨first, s₀, hhead, -⟩
      · rw [(initialSession_state hfirst).2.1] at ho
        exact absurd ho List.not_mem_nil
      · simp at hhead
    | cons first rest =>
      obtain ⟨s₀, hs₀, happly⟩ := deriveState_append_singleton.mp hs
      rcases applyEvent_submits happly with hsame | ⟨added, hadded, hsubmits⟩
      · rw [hsame] at ho
        obtain ⟨e, he, hsubmits⟩ := ih hs₀ ho
        exact ⟨e, List.mem_append_left _ he, hsubmits⟩
      · rw [hadded] at ho
        rcases List.mem_append.mp ho with hold | hnew
        · obtain ⟨e, he, hsubmits⟩ := ih hs₀ hold
          exact ⟨e, List.mem_append_left _ he, hsubmits⟩
        · obtain rfl := List.mem_singleton.mp hnew
          exact ⟨event, List.mem_concat_self, hsubmits⟩

/-! ### The price of a recorded offer -/

/-- What the route of offers has checked of the terms of an offer. -/
structure Priced (c : Crypto) (offer : RecordedOffer) : Prop where
  positive : isValidDecimalPositive c.newDecimal (some (.str offer.price)) = true
  plain : isPlainDecimal offer.price = true
  currency : offer.currency = js "USDC"

/-- The amount that a route admits is a plain decimal. -/
theorem checkAmount_plain {env : EngineEnv} {amount : JsValue} {mint message : JsString}
    (h : checkAmount env amount mint message = .ok ()) :
    ∃ s, amount = some (.str s) ∧ isPlainDecimal s = true := by
  simp only [checkAmount, bind_eq_ok, liftThrown_eq_ok] at h
  obtain ⟨units, hunits, -⟩ := h
  obtain ⟨_, s, -, hs, hplain, -⟩ := normalizeAmount_eq_ok.mp hunits
  exact ⟨s, hs, hplain⟩

theorem checkOffer_terms {env : EngineEnv} {now : ℤ} {r : JsString} {body : Json}
    {s : DerivedSession} (h : checkOffer env now r body (some s) = .ok ()) :
    isValidDecimalPositive env.newDecimal (body.get? (js "price")) = true ∧
      body.get? (js "currency") = some (.str (js "USDC")) ∧
        ∃ price, body.get? (js "price") = some (.str price) ∧ isPlainDecimal price = true := by
  simp only [checkOffer, requireSession, bind_eq_ok, orThrow_eq_ok, answerValidation_eq_ok,
    Option.some.injEq] at h
  obtain ⟨_, rfl, ⟨⟩, hvalid, mint, hmint, ⟨⟩, hamount, -⟩ := h
  simp only [validateOffer, bind_eq_ok, require_eq_ok] at hvalid
  obtain ⟨-, -, -, -, -, -, -, -, -, -, -, -, -, -, -, hprice, -, hcurrency, -⟩ := hvalid
  have hterms : s.rfq.terms.currency = js "USDC" := (mintFor_eq_ok.mp hmint).1
  rw [hterms] at hcurrency
  exact ⟨hprice, hcurrency, checkAmount_plain hamount⟩

theorem lockedOffer_lookup {env : EngineEnv} {m : Moment} {listings : ListingStore} {r : JsString}
    {body : Json} {before : Option DerivedSession} {event : NegotiationEvent}
    (hlocked : lockedOffer env m listings r body before = .ok event) {key : JsString}
    (hkey : key ∈ [js "price", js "currency"]) : event.payload.lookup key = body.get? key := by
  simp only [lockedOffer, bind_eq_ok, pure_eq_ok] at hlocked
  obtain ⟨_, -, -, -, -, -, -, -, -, -, -, -, listing, -, -, -, _, -, rfl⟩ := hlocked
  have hkeys : [js "rfq_id", js "offer_id", js "seller", js "price", js "currency",
      js "valid_until", js "signature", js "listing_id", js "payment_endpoint",
      js "extensions"].Nodup := by decide +kernel
  simp only [List.mem_cons, List.not_mem_nil, or_false] at hkey
  rcases hkey with rfl | rfl
  · exact lookup_defined (by exact hkeys) (js "price")
  · exact lookup_defined (by exact hkeys) (js "currency")

section

variable {env : EngineEnv} {P : DerivedSession → Members → Prop}
  {answers : List (JsString × JsValue)} {h : List Entry} {r : JsString}

theorem Recorded.priced {en : Entry} (hr : Recorded env P answers h en) {offer : RecordedOffer}
    (ho : Submits en.event offer) : Priced env.toCrypto offer := by
  obtain ⟨before, hbefore, -⟩ := hr.produced
  obtain ⟨m, listings, body, hcallback, hlocked⟩ := hr.offer hbefore ho.type
  have hadmitted := hr.admitted
  rw [hcallback] at hadmitted
  obtain ⟨now, s, -, hcheck⟩ := hadmitted
  obtain ⟨hpositive, hcurrency, price, hprice, hplain⟩ := checkOffer_terms hcheck
  have hbody (key : JsString) (hkey : key ∈ [js "price", js "currency"]) :
      en.event.payload.lookup key = body.get? key := lockedOffer_lookup hlocked hkey
  have hsame : price = offer.price := by
    have heq := ho.price
    rw [hbody _ (by decide), hprice] at heq
    simpa using heq
  have hsame' : js "USDC" = offer.currency := by
    have heq := ho.currency
    rw [hbody _ (by decide), hcurrency] at heq
    simpa using heq
  rw [hprice] at hpositive
  exact ⟨hsame ▸ hpositive, hsame ▸ hplain, hsame'.symm⟩

/-- Every offer of every session has a plain positive price in the supported currency. -/
theorem Journal.priced (hj : Journal env P answers h) {s : DerivedSession}
    (hs : deriveState (logOf h r) = .ok (some s)) {offer : RecordedOffer} (ho : offer ∈ s.offers) :
    Priced env.toCrypto offer := by
  obtain ⟨event, hevent, hsubmits⟩ := exists_submits hs ho
  obtain ⟨before, after, hlog⟩ := List.append_of_mem hevent
  obtain ⟨h₁, en, h₂, hsplit, -, rfl, -⟩ := exists_entry_of_logOf hlog
  exact (hj h₁ en h₂ hsplit).priced hsubmits

/-! ### The nonce of a committed quote -/

theorem quoteMembers_nonce {q q' : SignedQuote} (h : quoteMembers q = quoteMembers q') :
    q.nonce = q'.nonce := by
  have hlookup := congrArg (List.lookup (js "nonce")) h
  change some (Json.str q.nonce) = some (Json.str q'.nonce) at hlookup
  simpa using hlookup

theorem Since.isNonce (hj : Journal env P answers h) {q : SignedQuote} {s : DerivedSession}
    {pre post : List NegotiationEvent} {selected : NegotiationEvent}
    (hlog : logOf h r = pre ++ selected :: post) (hsince : Since q s selected post) :
    isNonce q.nonce = true := by
  obtain ⟨h₁, en, h₂, hsplit, rfl, rfl, rfl⟩ := exists_entry_of_logOf hlog
  have hr := hj h₁ en h₂ hsplit
  obtain ⟨before, hbefore, -⟩ := hr.produced
  obtain ⟨m, envelope, signer, sellerDid, offerId, -, hlocked⟩ := hr.accept hbefore hsince.type
  obtain ⟨s', q', -, -, -, hbuild, -, hpayload⟩ := lockedAccept_ok hlocked
  have hquote : quoteMembers q' = quoteMembers q := by
    have hlookup := hsince.quote
    rw [hpayload] at hlookup
    change some (Json.obj (quoteMembers q')) = some (Json.obj (quoteMembers q)) at hlookup
    simpa using hlookup
  rw [← quoteMembers_nonce hquote]
  simp only [buildQuoteFromSession, buildUnsignedQuote, bind_eq_ok, orThrow_eq_ok,
    pure_eq_ok] at hbuild
  obtain ⟨_, -, _, -, _, -, _, ⟨_, -, rfl⟩, rfl⟩ := hbuild
  exact isNonce_built m.nonceBytes

end

/-! ### The checks of the settlement -/

/-- The quote passes every check of `verifyQuote` but that of the clock. -/
structure Verifiable (c : Crypto) (quote : Members) (expires : ℤ) : Prop where
  beforeExpiry : PassesBeforeExpiry c quote
  expiry : dateParseOf c.legacyDate (quote.lookup (js "expires_at")) = .ok (some expires)
  nonce : regexTest isNonce (quote.lookup (js "nonce")) = .ok true
  signatures : SignaturesVerify c quote

theorem Verifiable.verifyQuote {c : Crypto} {quote : Members} {expires now : ℤ}
    (h : Verifiable c quote expires) (hnow : now < expires) :
    verifyQuote c now quote = .ok () := by
  obtain ⟨⟨bkey, bsig, hbkey, hbsig, hbok⟩, skey, ssig, hskey, hssig, hsok⟩ := h.signatures
  simp only [Core.verifyQuote, bind_eq_ok, require_eq_ok, liftThrown_eq_ok, orThrow_eq_ok,
    Core.verifySignature_eq_ok]
  exact ⟨(), h.beforeExpiry.amount, (), h.beforeExpiry.currency, (), h.beforeExpiry.memoPolicy, _,
    h.expiry, (), by simpa [isExpired] using hnow, _, h.nonce, (), rfl, bkey, hbkey, skey, hskey, _,
    ⟨bsig, hbsig, hbok⟩, (), rfl, _, ⟨ssig, hssig, hsok⟩, rfl⟩

/-- Before the expiry the quote is verified, and after it `verifySettlement` forgives it. -/
theorem Verifiable.checkQuote {env : SettlementEnv} {quote : Members} {expires : ℤ}
    (h : Verifiable env.toCrypto quote expires) (now : ℤ) :
    checkQuote env true now quote = .ok () := by
  rw [checkQuote_eq_ok]
  by_cases hnow : now < expires
  · exact Or.inl (h.verifyQuote hnow)
  · refine Or.inr ⟨rfl, verifyQuote_eq_expired.mpr ⟨h.beforeExpiry, _, h.expiry, ?_⟩⟩
    simpa [isExpired] using hnow

/-- The quote that the parties of a committed session hold, with both signatures. -/
def DerivedSession.signedQuote (s : DerivedSession) (quote : Members) : Members :=
  signedMembers (.obj quote) s.buyerSignature s.sellerSignature

/-- What settlement needs of a quote beside its signatures. -/
structure Committed (env : EngineEnv) (s : DerivedSession) (q : SignedQuote) (expires : ℤ) :
    Prop where
  unsignedQuote : s.unsignedQuote = some (.obj (quoteMembers q))
  verifiable : Verifiable env.toCrypto (s.signedQuote (quoteMembers q)) expires
  memoPolicy : q.memoPolicy = .quoteIdRequired
  quoteId : q.quoteId ≠ []
  seller : s.selectedSeller = some q.seller
  price : isPlainDecimal q.finalPrice = true

theorem Journal.committed {env : EngineEnv} {P : DerivedSession → Members → Prop}
    {answers : List (JsString × JsValue)} {h : List Entry} {r : JsString}
    (hj : Journal env P answers h) {s : DerivedSession}
    (hs : deriveState (logOf h r) = .ok (some s)) (hstate : s.state = .committed) :
    ∃ q expires, Committed env s q expires := by
  obtain ⟨q, offer, hc⟩ := hj.cycle hs (Or.inr hstate)
  obtain ⟨hb, hsel⟩ := hc.committed hstate
  obtain ⟨buyerSignature, hbuyer⟩ := Option.isSome_iff_exists.mp hb
  obtain ⟨sellerSignature, hseller⟩ := Option.isSome_iff_exists.mp hsel
  obtain ⟨pre, selected, post, hlog, hsince⟩ := hc.since
  obtain ⟨expires, deadline, hexpires, -, -⟩ := hc.quoteOf.expiry
  have hpriced : Priced env.toCrypto offer := hj.priced hs (findOffer_eq_some hc.found).1
  have hnonce : isNonce q.nonce = true := Since.isNonce hj hlog hsince
  obtain ⟨_, hbok⟩ := hc.buyer _ hbuyer
  obtain ⟨_, hsok⟩ := hc.seller _ hseller
  obtain ⟨bkey, hbkey, hbver⟩ := verifyQuoteSignature_eq_ok.mp hbok
  obtain ⟨skey, hskey, hsver⟩ := verifyQuoteSignature_eq_ok.mp hsok
  rw [← hc.quoteOf.buyer] at hbkey
  rw [← hc.quoteOf.seller] at hskey
  have hsigned : s.signedQuote (quoteMembers q) =
      quoteMembers { q with
        buyerSignature := buyerSignature
        sellerSignature := sellerSignature } := by
    unfold DerivedSession.signedQuote
    rw [hbuyer, hseller]
    rfl
  have hpayload : quoteSigningPayload env.toCrypto (s.signedQuote (quoteMembers q)) =
      quoteSigningPayload env.toCrypto (quoteMembers q) :=
    quoteSigningPayload_signed env.toCrypto q _ _
  refine ⟨q, expires, hc.unsignedQuote, ⟨⟨?_, ?_, ?_⟩, ?_, ?_, ?_, ?_⟩, hc.quoteOf.memoPolicy,
    hc.quoteId, by rw [hc.selectedSeller, hc.quoteOf.seller],
    by rw [hc.quoteOf.finalPrice]; exact hpriced.plain⟩
  · rw [hsigned]
    exact hc.quoteOf.finalPrice ▸ hpriced.positive
  · have hcurrency : q.currency = js "USDC" := hc.quoteOf.currency.trans hpriced.currency
    rw [hsigned]
    exact decide_eq_true (hcurrency ▸ List.mem_singleton_self (js "USDC"))
  · have hpolicy : q.memoPolicy.text ∈ VALID_MEMO_POLICIES := by
      rw [hc.quoteOf.memoPolicy]
      decide
    rw [hsigned]
    exact decide_eq_true hpolicy
  · rw [hsigned]
    change (stringOf (some (.str q.expiresAt))).map (dateParse env.legacyDate) = _
    rw [stringOf_str]
    exact congrArg Except.ok hexpires
  · rw [hsigned]
    change (stringOf (some (.str q.nonce))).map isNonce = _
    rw [stringOf_str]
    exact congrArg Except.ok hnonce
  · refine ⟨bkey, buyerSignature, ?_, ?_, hpayload ▸ hbver⟩
    · rw [hsigned]
      exact hbkey
    · rw [hsigned]
      rfl
  · refine ⟨skey, sellerSignature, ?_, ?_, hpayload ▸ hsver⟩
    · rw [hsigned]
      exact hskey
    · rw [hsigned]
      rfl

/-! ### Payments of a quote -/

/-- A confirmed transaction whose first transfer pays the quote, with the quote id in its memo. -/
structure Redeems (env : SettlementEnv) (usdcMint paymentSignature : JsString) (quote : Members)
    (tx : Json) : Prop where
  paymentSignature : paymentSignature ≠ [] ∧ isPaymentSignature env paymentSignature = true
  found : tx.isTruthy = true
  noError : JsValue.isTruthy (JsValue.get? (tx.get? (js "meta")) (js "err")) = false
  confirmed : JsValue.isTruthy (tx.get? (js "slot")) = true
  blockTime : ∃ text, blockTimeText (tx.get? (js "blockTime")) = .ok text
  transfer : ∃ transfer, extractSplTransfer env.base58Decode tx = .ok (some transfer) ∧
    Pays env usdcMint quote transfer
  memo : ∃ memo quoteId, extractMemo env.base58Decode tx = .ok (some (.str memo)) ∧
    quote.lookup (js "quote_id") = some (.str quoteId) ∧ includes memo quoteId = true

theorem checkMemo_of_includes {env : SettlementEnv} {quote : Members} {tx : Json}
    {memo quoteId : JsString}
    (hpolicy : quote.lookup (js "memo_policy") = some (.str (js "quote_id_required")))
    (hmemo : extractMemo env.base58Decode tx = .ok (some (.str memo)))
    (hid : quote.lookup (js "quote_id") = some (.str quoteId)) (hne : quoteId ≠ [])
    (hincludes : includes memo quoteId = true) : checkMemo env quote tx = .ok () := by
  have hopt : JsValue.strictEq (some (.str (js "quote_id_required")))
      (some (.str (js "optional"))) = false := by decide
  have hsame : JsValue.strictEq (some (.str (js "quote_id_required")))
      (some (.str (js "quote_id_required"))) = true := by decide
  have htruthy : Json.isTruthy (.str memo) = true := by
    have hmne : memo ≠ [] := by
      rintro rfl
      exact hne (List.infix_nil.mp ((includes_iff _ _).mp hincludes))
    simpa [Json.isTruthy] using hmne
  simp only [checkMemo, hpolicy, hopt, hsame, Bool.false_eq_true, if_false, if_true, bind_eq_ok,
    liftThrown_eq_ok, orThrow_eq_ok, require_eq_ok, Option.filter_eq_some_iff]
  refine ⟨_, hmemo, .str memo, ⟨rfl, htruthy⟩, true, ?_, rfl⟩
  rw [hid, memoIncludes, stringOf_str]
  exact congrArg Except.ok hincludes

section

variable {env : EngineEnv} {s : DerivedSession} {q : SignedQuote} {expires : ℤ}

theorem lookup_signedQuote {key : JsString} (hb : key ≠ js "buyer_signature")
    (hs : key ≠ js "seller_signature") :
    (s.signedQuote (quoteMembers q)).lookup key = (quoteMembers q).lookup key :=
  lookup_signedMembers _ _ _ hb hs

theorem Committed.expiresAt (hc : Committed env s q expires) :
    dateParse env.legacyDate q.expiresAt = some expires := by
  have hparsed := hc.verifiable.expiry
  rw [lookup_signedQuote (by decide) (by decide)] at hparsed
  change dateParseOf env.legacyDate (some (.str q.expiresAt)) = _ at hparsed
  rw [dateParseOf, stringOf_str, Except.map] at hparsed
  simpa using hparsed

/-- The transaction passes steps 5 to 12. -/
theorem Committed.checkPayment (hc : Committed env s q expires) {usdcMint paymentSignature : JsString}
    {tx : Json} (hp : Redeems env.toSettlementEnv usdcMint paymentSignature
      (s.signedQuote (quoteMembers q)) tx) (refuseFalsyMint : Bool) (hmint : usdcMint ≠ []) :
    checkPayment env.toSettlementEnv refuseFalsyMint usdcMint (s.signedQuote (quoteMembers q))
      (some tx) = .ok tx := by
  obtain ⟨transfer, htransfer, hpays⟩ := hp.transfer
  obtain ⟨memo, quoteId, hmemo, hid, hincludes⟩ := hp.memo
  have hpolicy : (s.signedQuote (quoteMembers q)).lookup (js "memo_policy") =
      some (.str (js "quote_id_required")) := by
    rw [lookup_signedQuote (by decide) (by decide)]
    change some (Json.str q.memoPolicy.text) = _
    rw [hc.memoPolicy]
    rfl
  have hsame : q.quoteId = quoteId := by
    rw [lookup_signedQuote (by decide) (by decide)] at hid
    change some (Json.str q.quoteId) = some (.str quoteId) at hid
    simpa using hid
  refine checkPayment_eq_ok.mpr ⟨rfl, hp.found, hp.noError, hp.confirmed, ⟨transfer, htransfer,
    hpays, fun _ => ?_⟩, checkMemo_of_includes hpolicy hmemo hid (hsame ▸ hc.quoteId) hincludes⟩
  rw [hpays.mint]
  simpa [JsValue.isTruthy, Json.isTruthy] using hmint

theorem Committed.checkRequest (hc : Committed env s q expires) {request : SettlementRequest}
    (hheader : env.parseHeader request.quoteHeaderB64 =
      some (.obj (s.signedQuote (quoteMembers q))))
    (hsignature : isPaymentSignature env.toSettlementEnv request.paymentSignature = true)
    (forgiveExpired : Bool) {now : ℤ} (hnow : forgiveExpired = false → now < expires) :
    checkRequest env.toSettlementEnv forgiveExpired request now =
      .ok (s.signedQuote (quoteMembers q)) := by
  have htruthy : JsValue.isTruthy ((s.signedQuote (quoteMembers q)).lookup (js "quote_id")) =
      true := by
    rw [lookup_signedQuote (by decide) (by decide)]
    change JsValue.isTruthy (some (.str q.quoteId)) = true
    simpa [JsValue.isTruthy, Json.isTruthy] using hc.quoteId
  refine checkRequest_eq_ok.mpr ⟨decodeQuoteHeader_eq_ok.mpr ⟨hheader, htruthy⟩, ?_, hsignature⟩
  cases forgiveExpired with
  | true => exact hc.verifiable.checkQuote now
  | false => exact checkQuote_eq_ok.mpr (.inl (hc.verifiable.verifyQuote (hnow rfl)))

theorem Committed.settleTransaction (hc : Committed env s q expires) {request : SettlementRequest}
    {tx : Json} (hp : Redeems env.toSettlementEnv request.usdcMint request.paymentSignature
      (s.signedQuote (quoteMembers q)) tx) (hmint : request.usdcMint ≠ []) :
    ∃ result, settleTransaction env.toSettlementEnv request (s.signedQuote (quoteMembers q))
      (some tx) = .ok result ∧ result.quote = s.signedQuote (quoteMembers q) ∧
        result.txSig = request.paymentSignature := by
  obtain ⟨text, htext⟩ := hp.blockTime
  simp only [Settlement.settleTransaction, bind_eq_ok, pure_eq_ok, liftThrown_eq_ok]
  exact ⟨_, ⟨tx, hc.checkPayment hp false hmint, text, htext, rfl⟩, rfl, rfl⟩

/-- The mint is a registered one, and the seller has an account for it. -/
structure Payable (env : SettlementEnv) (usdcMint seller : JsString) : Prop where
  account : ∃ key mint account, env.didToPublicKey seller = some key ∧
    env.newPublicKey usdcMint = some mint ∧ env.associatedTokenAddress mint key = some account
  decimals : (env.mintDecimals.lookup usdcMint).isSome

/-- Every committed quote of a seller with an account can be paid. -/
theorem Committed.exists_redeems (hc : Committed env s q expires)
    {usdcMint paymentSignature : JsString}
    (hpayable : Payable env.toSettlementEnv usdcMint q.seller)
    (hsignature : paymentSignature ≠ [] ∧
      isPaymentSignature env.toSettlementEnv paymentSignature = true) :
    ∃ tx, Redeems env.toSettlementEnv usdcMint paymentSignature (s.signedQuote (quoteMembers q))
      tx := by
  obtain ⟨key, mint, account, hkey, hmint, haccount⟩ := hpayable.account
  obtain ⟨decimals, hdecimals⟩ := Option.isSome_iff_exists.mp hpayable.decimals
  have hseller : (s.signedQuote (quoteMembers q)).lookup (js "seller") = some (.str q.seller) :=
    lookup_signedQuote (by decide) (by decide)
  have hprice : (s.signedQuote (quoteMembers q)).lookup (js "final_price") =
      some (.str q.finalPrice) := lookup_signedQuote (by decide) (by decide)
  have hquoteId : (s.signedQuote (quoteMembers q)).lookup (js "quote_id") =
      some (.str q.quoteId) := lookup_signedQuote (by decide) (by decide)
  obtain ⟨u, rest, hid⟩ := List.exists_cons_of_ne_nil hc.quoteId
  refine ⟨paymentTx (env.toBase58 account) (natText (microUnits q.finalPrice decimals)) usdcMint
    q.quoteId, hsignature, rfl, rfl, rfl, ⟨none, rfl⟩, ⟨_, extractSplTransfer_paymentTx _ _ _ _ _,
    ⟨key, mint, account, ?_, hmint, haccount, rfl⟩, rfl, _, ?_, toBigInt_natText _⟩,
    q.quoteId, q.quoteId, ?_, hquoteId, (includes_iff _ _).mpr (List.infix_refl _)⟩
  · rw [hseller]
    exact hkey
  · rw [hprice]
    exact normalizeAmount_eq_ok.mpr ⟨decimals, _, hdecimals, rfl, hc.price, rfl⟩
  · rw [hid]
    exact extractMemo_paymentTx _ _ _ _ _ _

end

end GhostBazaar.Engine
