import GhostBazaar.Engine.SettlementCompletes
import GhostBazaar.Settlement.Nonce

/-! A quote that the engine committed, on the settlement server of its seller. -/
namespace GhostBazaar.Engine
open Js GhostBazaar.Core Settlement Transition

variable {env : EngineEnv} {s : DerivedSession} {q : SignedQuote} {expires : ℤ}

theorem Committed.checkBeforeExecution (hc : Committed env s q expires)
    {request : SettlementRequest} {tx : Json}
    (hp : Redeems env.toSettlementEnv request.usdcMint request.paymentSignature
      (s.signedQuote (quoteMembers q)) tx) (hmint : request.usdcMint ≠ [])
    {consumedNonces : List JsValue}
    (hfresh : isNonceConsumed consumedNonces (some (.str q.quoteId)) = false) (now : ℤ) :
    checkBeforeExecution env.toSettlementEnv consumedNonces request
        (s.signedQuote (quoteMembers q)) (some tx) now =
      if now < expires then .ok () else .error (.refused expiredQuote) := by
  have hquoteId : (s.signedQuote (quoteMembers q)).lookup (js "quote_id") =
      some (.str q.quoteId) := lookup_signedQuote (by decide) (by decide)
  unfold Settlement.checkBeforeExecution
  rw [hc.checkPayment hp true hmint, hc.verifiable.nonce, hquoteId, hfresh, hc.verifiable.expiry]
  by_cases hnow : now < expires
  · simp [hnow, isExpired, liftThrown, require, ensure, Bind.bind, Except.bind]
  · simp [hnow, isExpired, liftThrown, require, ensure, Bind.bind, Except.bind]

theorem Committed.checkRequest_expired (hc : Committed env s q expires)
    {request : SettlementRequest}
    (hheader : env.parseHeader request.quoteHeaderB64 =
      some (.obj (s.signedQuote (quoteMembers q)))) {now : ℤ} (hnow : expires ≤ now) :
    ¬ ∃ quote, Settlement.checkRequest env.toSettlementEnv false request now = .ok quote := by
  rintro ⟨quote, hquote⟩
  obtain ⟨hdecode, hcheck, -⟩ := checkRequest_eq_ok.mp hquote
  have hparsed := (decodeQuoteHeader_eq_ok.mp hdecode).1
  obtain rfl : s.signedQuote (quoteMembers q) = quote := by simpa using hheader.symm.trans hparsed
  have hexpired : verifyQuote env.toCrypto now (s.signedQuote (quoteMembers q)) =
      .error (.refused .expiredQuote) :=
    verifyQuote_eq_expired.mpr ⟨hc.verifiable.beforeExpiry, _, hc.verifiable.expiry, by
      simpa [isExpired] using hnow⟩
  rcases checkQuote_eq_ok.mp hcheck with hok | ⟨hforgive, -⟩
  · simp [hexpired] at hok
  · simp at hforgive

/-- The receipt names the committed quote, its price and its parties. -/
structure Receipts (env : EngineEnv) (q : SignedQuote) (receipt : DealReceipt) : Prop where
  quoteId : receipt.quoteId = some (.str q.quoteId)
  finalPrice : receipt.finalPrice = some (.str q.finalPrice)
  buyer : ∃ key, env.didToPublicKey q.buyer = some key ∧
    receipt.buyerPubkey = some (.str (env.toBase58 key))
  seller : ∃ key, env.didToPublicKey q.seller = some key ∧
    receipt.sellerPubkey = some (.str (env.toBase58 key))

theorem Committed.receipts (hc : Committed env s q expires) (request : SettlementRequest)
    (settlementMs now : ℤ) : Receipts env q (buildReceipt env.toSettlementEnv
      (s.signedQuote (quoteMembers q)) request settlementMs now).receipt := by
  have hlookup (key : JsString) (hb : key ≠ js "buyer_signature")
      (hs : key ≠ js "seller_signature") :
      (s.signedQuote (quoteMembers q)).lookup key = (quoteMembers q).lookup key :=
    lookup_signedQuote hb hs
  obtain ⟨⟨bkey, -, hbkey, -⟩, skey, -, hskey, -⟩ := hc.verifiable.signatures
  have hbuyer := hbkey
  have hseller := hskey
  rw [hlookup _ (by decide) (by decide)] at hbuyer hseller
  refine ⟨hlookup (js "quote_id") (by decide) (by decide),
    hlookup (js "final_price") (by decide) (by decide), ⟨bkey, hbuyer, ?_⟩, skey, hseller, ?_⟩
  · simp only [buildReceipt, hbkey]
  · simp only [buildReceipt, hskey]

/-- A call of `verifyAndExecute` with a committed quote and a payment that redeems it starts the
service exactly when the quote has expired neither at the call nor at the answer of the RPC. It
then returns a receipt of that quote when the service does. -/
theorem server_executes_iff {σ : Type} [InternalEventStore σ] (env : EngineEnv)
    (is : List EngineLabel) (r : JsString) (clock : ℤ) {s : DerivedSession} {quote : Members}
    {quoteId expiresAt : JsString} {expires : ℤ}
    (hs : ((run (EngineState.step env) (EngineState.empty : EngineState σ) is).manager.getSession
      clock r).1 = .ok (some s)) (hstate : s.state = .committed)
    (hquote : s.unsignedQuote = some (.obj quote))
    (hquoteId : quote.lookup (js "quote_id") = some (.str quoteId))
    (hexpiresAt : quote.lookup (js "expires_at") = some (.str expiresAt))
    (hexpires : dateParse env.legacyDate expiresAt = some expires)
    (server : SettlementServer) (t : ℕ) (request : SettlementRequest) {tx : Json}
    (hidle : server.call t = .idle)
    (hheader : env.parseHeader request.quoteHeaderB64 = some (.obj (s.signedQuote quote)))
    (hpays : Redeems env.toSettlementEnv request.usdcMint request.paymentSignature
      (s.signedQuote quote) tx) (hmint : request.usdcMint ≠ [])
    (hfresh : isNonceConsumed server.consumedNonces (some (.str quoteId)) = false)
    (now now' now'' : ℤ) :
    let started := run (SettlementServer.step env.toSettlementEnv) server
      [.call t request now, .rpcReturns t (some tx) now']
    (started.Executing t (some (.str quoteId)) ↔ now < expires ∧ now' < expires) ∧
      (now < expires ∧ now' < expires → ∃ response q,
        (next (SettlementServer.step env.toSettlementEnv) started (.executorReturns t now'')).call t =
          .returned response ∧ quote = quoteMembers q ∧ Receipts env q response.receipt) := by
  have he := EngineState.run_inv_true (σ := σ) env is
  rw [(he.getSession clock r).1] at hs
  obtain ⟨q, expires', hc⟩ := he.journal.committed hs hstate
  obtain rfl : quote = quoteMembers q := by simpa using hquote.symm.trans hc.unsignedQuote
  obtain rfl : q.quoteId = quoteId := by
    change some (Json.str q.quoteId) = some (.str quoteId) at hquoteId
    simpa using hquoteId
  obtain rfl : q.expiresAt = expiresAt := by
    change some (Json.str q.expiresAt) = some (.str expiresAt) at hexpiresAt
    simpa using hexpiresAt
  obtain rfl : expires' = expires := by simpa using hc.expiresAt.symm.trans hexpires
  have hid : (s.signedQuote (quoteMembers q)).lookup (js "quote_id") = some (.str q.quoteId) :=
    lookup_signedQuote (by decide) (by decide)
  intro started
  by_cases hnow : now < expires'
  · have hrequest := hc.checkRequest hheader hpays.paymentSignature.2 false fun _ => hnow
    have hpayment : Settlement.checkBeforeExecution env.toSettlementEnv (server.setCall t
        (.fetching request now (s.signedQuote (quoteMembers q)))).consumedNonces request
          (s.signedQuote (quoteMembers q)) (some tx) now' = _ :=
      hc.checkBeforeExecution hpays hmint hfresh now'
    have hcalled := SettlementServer.next_call hidle hrequest
    by_cases hnow' : now' < expires'
    · rw [if_pos hnow'] at hpayment
      have hstarted : started = (server.setCall t (.fetching request now
          (s.signedQuote (quoteMembers q)))).setCall t (.executing request now
            (s.signedQuote (quoteMembers q))) := by
        change next _ (next _ server _) _ = _
        rw [hcalled]
        exact SettlementServer.next_rpcReturns (by simp) hpayment
      have hcall : started.call t = .executing request now (s.signedQuote (quoteMembers q)) := by
        simp [hstarted]
      refine ⟨iff_of_true ⟨_, _, _, hcall, hid⟩ ⟨hnow, hnow'⟩, fun _ => ⟨_, q, ?_, rfl,
        hc.receipts request (now'' - now) now''⟩⟩
      rw [SettlementServer.next_executorReturns hcall]
      simp [SettlementServer.complete]
    · rw [if_neg hnow'] at hpayment
      refine ⟨iff_of_false ?_ fun h => hnow' h.2, fun h => absurd h.2 hnow'⟩
      rintro ⟨request', startMs, quote', hcall, -⟩
      have hstarted : started = (server.setCall t (.fetching request now
          (s.signedQuote (quoteMembers q)))).setCall t (.failed (.refused expiredQuote)) := by
        change next _ (next _ server _) _ = _
        rw [hcalled]
        simp [next, SettlementServer.step, hpayment]
      simp [hstarted] at hcall
  · refine ⟨iff_of_false ?_ fun h => hnow h.1, fun h => absurd h.1 hnow⟩
    rintro ⟨request', startMs, quote', hcall, -⟩
    have hno := hc.checkRequest_expired hheader (not_lt.mp hnow)
    cases hcheck : Settlement.checkRequest env.toSettlementEnv false request now with
    | ok quote => exact hno ⟨quote, hcheck⟩
    | error e =>
      have hstarted : started = server.setCall t (.failed e) := by
        change next _ (next _ server _) _ = _
        simp [next, SettlementServer.step, hidle, hcheck]
      simp [hstarted] at hcall

/-- The quote of the example, paid a minute before it expires. -/
theorem server_executes_first : ∃ server : SettlementServer, ∃ response q,
    server.call 1 = .returned response ∧ Receipts reportEnv q response.receipt := by
  obtain ⟨s, q, tx, hs, hstate, -, hc, hredeems⟩ := reportedRun_committed
  have hheader : reportEnv.parseHeader (committedHeader reportEnv s (.obj (quoteMembers q))) =
      some (.obj (s.signedQuote (quoteMembers q))) := by
    rw [committedHeader, DerivedSession.signedQuote, signedMembers_quoteMembers]
    exact reportEnv.parse_headerText _
  have hbefore : Settlement.beforeExpiry < sampleExpiry := by decide
  have hmint : Settlement.usdcMint ≠ [] := by decide
  obtain ⟨-, hreturns⟩ := server_executes_iff (σ := InMemoryEventStore) reportEnv reportedLabels
    firstNegotiation.rfqId sampleNow hs hstate hc.unsignedQuote rfl rfl hc.expiresAt
    SettlementServer.empty 1
    ⟨committedHeader reportEnv s (.obj (quoteMembers q)), samplePayment, Settlement.usdcMint, none⟩
    rfl hheader hredeems hmint rfl Settlement.beforeExpiry Settlement.beforeExpiry
    Settlement.beforeExpiry
  obtain ⟨response, q', hcall, -, hreceipts⟩ := hreturns ⟨hbefore, hbefore⟩
  exact ⟨_, response, q', hcall, hreceipts⟩

end GhostBazaar.Engine
