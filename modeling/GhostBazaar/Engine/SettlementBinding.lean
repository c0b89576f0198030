import GhostBazaar.Engine.CommittedQuote

/-! How a settlement is bound to the session that it confirms: its terms to the committed
quote, and its payment to the quote id. -/
namespace GhostBazaar.Engine
open Js GhostBazaar.Core Settlement Transition

/-- The quote has these members of the committed quote. -/
def Agrees (keys : List JsString) (s : DerivedSession) (quote : Members) : Prop :=
  ∀ key ∈ keys, quote.lookup key = JsValue.get? s.unsignedQuote key

instance (keys : List JsString) (s : DerivedSession) : DecidablePred (Agrees keys s) :=
  fun _ => List.decidableBAll _ _

/-- The members of the quote that a settlement records beside its id. -/
def termKeys : List JsString := [js "final_price", js "buyer", js "seller"]

/-! ### The quote of a report -/

/-- The committed quote with its signatures, which replace the empty ones. -/
theorem signedMembers_quoteMembers (q : SignedQuote) (s : DerivedSession) :
    signedMembers (.obj (quoteMembers q)) s.buyerSignature s.sellerSignature =
      quoteMembers { q with
        buyerSignature := s.buyerSignature.getD []
        sellerSignature := s.sellerSignature.getD [] } := by
  rfl

theorem lookup_signedMembers (quote : Members) (buyerSignature sellerSignature : Option JsString)
    {key : JsString} (hbuyer : key ≠ js "buyer_signature") (hseller : key ≠ js "seller_signature") :
    (signedMembers (.obj quote) buyerSignature sellerSignature).lookup key = quote.lookup key := by
  simp only [signedMembers, lookup_spread, hbuyer, hseller, if_false]
  rfl

theorem requireQuoteId_ok {s : DerivedSession} {q : SignedQuote} {quoteId : JsValue}
    (hquote : s.unsignedQuote = some (.obj (quoteMembers q))) (hne : q.quoteId ≠ [])
    (h : requireQuoteId s quoteId = .ok ()) : quoteId = some (.str q.quoteId) := by
  have hcommitted : JsValue.get? s.unsignedQuote (js "quote_id") = some (.str q.quoteId) := by
    rw [hquote]
    rfl
  simp only [requireQuoteId, require_eq_ok, hcommitted] at h
  have htruthy : JsValue.isTruthy (some (.str q.quoteId)) = true := by
    simpa [JsValue.isTruthy, Json.isTruthy] using hne
  have hsame := h htruthy
  cases quoteId with
  | none => simp [JsValue.strictEq] at hsame
  | some v =>
    rw [JsValue.strictEq, Bool.and_eq_true, decide_eq_true_eq] at hsame
    rw [hsame.2]

theorem openReport_ok {env : EngineEnv} {now : ℤ} {s : DerivedSession} {q : SignedQuote}
    {body : Option Json} {request : SettlementRequest} {quote : Members} {quoteId : JsValue}
    (hquote : s.unsignedQuote = some (.obj (quoteMembers q)))
    (h : openReport env now s body = .ok (request, quote, quoteId)) :
    requireQuoteId s quoteId = .ok () ∧ request.usdcMint = env.usdcMint ∧
      quote = signedMembers (.obj (quoteMembers q)) s.buyerSignature s.sellerSignature := by
  simp only [openReport, bind_eq_ok, orThrow_eq_ok, pure_eq_ok, settling_eq_ok, hquote,
    Option.some.injEq, Prod.mk.injEq] at h
  obtain ⟨body, -, txSig, -, quoteId', -, -, -, ⟨⟩, hid, _, rfl, ⟨request', quote'⟩, hreport, rfl,
    rfl, rfl⟩ := h
  have hheader : env.parseHeader (committedHeader env s (.obj (quoteMembers q))) =
      some (.obj (signedMembers (.obj (quoteMembers q)) s.buyerSignature s.sellerSignature)) := by
    rw [committedHeader, signedMembers_quoteMembers]
    exact env.parse_headerText _
  unfold reportRequest at hreport
  split at hreport
  · simp only [bind_eq_ok, pure_eq_ok, Prod.mk.injEq] at hreport
    obtain ⟨quote'', hcheck, rfl, rfl⟩ := hreport
    obtain ⟨hdecode, -⟩ := checkRequest_eq_ok.mp hcheck
    have hparsed := (decodeQuoteHeader_eq_ok.mp hdecode).1
    refine ⟨hid, rfl, ?_⟩
    simpa using (hheader.symm.trans hparsed).symm
  · simp only [bind_eq_ok, reduceCtorEq, and_false, exists_false] at hreport

theorem openExecute_ok {env : EngineEnv} {now : ℤ} {quoteHeader paymentSignature : Option JsString}
    {request : SettlementRequest} {quote : Members}
    (h : openExecute env now quoteHeader paymentSignature = .ok (request, quote)) :
    request.usdcMint = env.usdcMint := by
  simp only [openExecute, bind_eq_ok, pure_eq_ok, Prod.mk.injEq] at h
  obtain ⟨_, -, _, -, _, -, rfl, rfl⟩ := h
  rfl

/-! ### A recorded settlement -/

section

variable {env : EngineEnv} {P : DerivedSession → Members → Prop} {keys : List JsString}
  {answers : List (JsString × JsValue)} {h : List Entry} {r : JsString}

/-- An event that is not the first is appended to a session. -/
theorem Recorded.eventStep {en : Entry} (hr : Recorded env P answers h en)
    (htype : en.event.type ≠ .rfqCreated) :
    ∃ s s', deriveState (logOf h en.rfqId) = .ok (some s) ∧
      deriveState (logOf h en.rfqId ++ [en.event]) = .ok (some s') ∧ EventStep s en.event s' := by
  obtain ⟨s', hs'⟩ := hr.replays
  rcases derives_append hs' with ⟨-, hfirst⟩ | ⟨first, s, -, hs, hstep⟩
  · exact absurd (initialSession_state hfirst).2.2.2.2.2.2.2.2.1 htype
  · exact ⟨s, s', hs, hs', hstep⟩

theorem Recorded.settled_step {en : Entry} (hr : Recorded env P answers h en)
    (htype : en.event.type = .settlementConfirmed) :
    ∃ s, deriveState (logOf h en.rfqId) = .ok (some s) ∧ s.state = .committed := by
  obtain ⟨s, s', hs, -, hstep⟩ := hr.eventStep (by simp [htype])
  refine ⟨s, hs, ?_⟩
  have htransition := hstep.transition
  rw [htype] at htransition
  cases hstate : s.state <;> simp [hstate, isValidTransition] at htransition ⊢

/-- What stands behind a settlement event: the confirmation that it records, for the quote
of a committed session, and the transaction that was checked against it. -/
structure Settles (env : EngineEnv) (answers : List (JsString × JsValue)) (keys : List JsString)
    (s : DerivedSession) (q : SignedQuote) (event : NegotiationEvent) (c : Confirmation) :
    Prop where
  payload : ∃ verifiedAt, event.payload = settlementMembers c verifiedAt
  quoteId : c.quoteId = some (.str q.quoteId)
  resultId : c.result.quote.lookup (js "quote_id") = some (.str q.quoteId)
  agrees : Agrees keys s c.result.quote
  payment : ∃ request tx, request.usdcMint = env.usdcMint ∧
    (request.paymentSignature, tx) ∈ answers ∧
    settleTransaction env.toSettlementEnv request c.result.quote tx = .ok c.result

theorem Agrees.of_signed {s : DerivedSession} {q : SignedQuote}
    (hquote : s.unsignedQuote = some (.obj (quoteMembers q)))
    (hkeys : js "buyer_signature" ∉ keys ∧ js "seller_signature" ∉ keys)
    (buyerSignature sellerSignature : Option JsString) :
    Agrees keys s (signedMembers (.obj (quoteMembers q)) buyerSignature sellerSignature) := by
  intro key hkey
  have hbuyer : key ≠ js "buyer_signature" := fun heq => hkeys.1 (heq ▸ hkey)
  have hseller : key ≠ js "seller_signature" := fun heq => hkeys.2 (heq ▸ hkey)
  rw [lookup_signedMembers _ _ _ hbuyer hseller, hquote]
  rfl

theorem Recorded.settles {en : Entry} (hr : Recorded env (Agrees keys) answers h en)
    (hj : Journal env (Agrees keys) answers h)
    (hkeys : js "buyer_signature" ∉ keys ∧ js "seller_signature" ∉ keys)
    (htype : en.event.type = .settlementConfirmed) :
    ∃ s q offer c, deriveState (logOf h en.rfqId) = .ok (some s) ∧ s.state = .committed ∧
      Cycle env (logOf h en.rfqId) s q offer ∧ ¬ Settled (logOf h en.rfqId) ∧
      Settles env answers keys s q en.event c := by
  obtain ⟨s, hs, hstate⟩ := hr.settled_step htype
  obtain ⟨q, offer, hcycle⟩ := hj.cycle hs (Or.inr hstate)
  obtain ⟨c, hcallback⟩ := hr.confirm htype
  have happends := hr.appends hs
  have hadmitted := hr.admitted
  rw [hcallback] at happends hadmitted
  obtain ⟨m, hlocked⟩ := happends
  obtain ⟨hunsettled, -, -, hpayload⟩ := lockedConfirm_ok hlocked
  have hnot : ¬ Settled (logOf h en.rfqId) := by
    rintro ⟨event, hevent, hconfirmed⟩
    exact hunsettled event hevent hconfirmed
  refine ⟨s, q, offer, c, hs, hstate, hcycle, hnot, ?_⟩
  obtain ⟨fetch, request, tx, hopened, hanswer, hsettle, hfetch⟩ := hadmitted
  cases fetch with
  | execute =>
    obtain ⟨now, quoteHeader, paymentSignature, hopen⟩ := hopened
    obtain ⟨-, s₀, hseen, hcheck, hpresented⟩ := hfetch
    obtain ⟨s₁, hs₁, hcommitted, hid, hc⟩ := checkExecute_ok hcheck
    cases hs₁
    obtain ⟨lastEventId, rfl⟩ := hseen.committed hs hcommitted
    have hquoteId := requireQuoteId_ok hcycle.unsignedQuote hcycle.quoteId hid
    have hagrees := hpresented.resolve_right hnot
    exact ⟨hpayload, by rw [hc, hquoteId], hquoteId, hagrees,
      ⟨request, tx, openExecute_ok hopen, hanswer, hsettle⟩⟩
  | settleReport r' quoteId =>
    obtain ⟨now, s₀, body, ⟨callerDid, hseen, hcheck⟩, hopen⟩ := hopened
    obtain ⟨rfl, -, rfl⟩ := hfetch
    obtain ⟨-, hcommitted, -⟩ := checkReporter_ok hcheck
    obtain ⟨lastEventId, rfl⟩ := hseen.committed hs hcommitted
    obtain ⟨hid, hmint, hquote⟩ := openReport_ok hcycle.unsignedQuote hopen
    have hquoteId := requireQuoteId_ok hcycle.unsignedQuote hcycle.quoteId hid
    refine ⟨hpayload, hquoteId, ?_, ?_, ⟨request, tx, hmint, hanswer, hsettle⟩⟩
    · rw [hquote, lookup_signedMembers _ _ _ (by decide) (by decide)]
      rfl
    · rw [hquote]
      exact Agrees.of_signed hcycle.unsignedQuote hkeys _ _

/-- A session is settled at most once. -/
theorem Journal.settled_unique (hj : Journal env P answers h) {event event' : NegotiationEvent}
    (hevent : event ∈ logOf h r) (hevent' : event' ∈ logOf h r)
    (htype : event.type = .settlementConfirmed) (htype' : event'.type = .settlementConfirmed) :
    event = event' := by
  have hfirst : ∀ before e after, logOf h r = before ++ e :: after →
      e.type = .settlementConfirmed → ∀ e' ∈ before, e'.type ≠ .settlementConfirmed := by
    intro before e after hlog he
    obtain ⟨h₁, en, h₂, hh, rfl, rfl, rfl⟩ := exists_entry_of_logOf hlog
    have hr := hj h₁ en h₂ hh
    obtain ⟨s, hs, -⟩ := hr.settled_step he
    obtain ⟨c, hcallback⟩ := hr.confirm he
    have happends := hr.appends hs
    rw [hcallback] at happends
    obtain ⟨m, hlocked⟩ := happends
    exact (lockedConfirm_ok hlocked).1
  obtain ⟨before, after, hlog⟩ := List.append_of_mem hevent
  rw [hlog, List.mem_append, List.mem_cons] at hevent'
  rcases hevent' with hbefore | rfl | hafter
  · exact absurd htype' (hfirst before event after hlog htype event' hbefore)
  · rfl
  · obtain ⟨between, after', rfl⟩ := List.append_of_mem hafter
    have hlog' : logOf h r = (before ++ event :: between) ++ event' :: after' := by
      rw [hlog, List.append_assoc, List.cons_append]
    exact absurd htype (hfirst _ event' after' hlog' htype' event (by simp))

/-- A settlement event of a session, as the session is later. -/
theorem Journal.settles (hj : Journal env (Agrees keys) answers h)
    (hkeys : js "buyer_signature" ∉ keys ∧ js "seller_signature" ∉ keys)
    {event : NegotiationEvent} (hevent : event ∈ logOf h r)
    (htype : event.type = .settlementConfirmed) :
    ∃ s q offer c, deriveState (logOf h r) = .ok (some s) ∧ s.state = .committed ∧
      s.unsignedQuote = some (.obj (quoteMembers q)) ∧ s.selectedSeller = some offer.seller ∧
      QuoteOf env s offer q ∧ Settles env answers keys s q event c := by
  obtain ⟨before, after, hlog⟩ := List.append_of_mem hevent
  obtain ⟨h₁, en, h₂, hh, rfl, rfl, rfl⟩ := exists_entry_of_logOf hlog
  have hprefix : h₁ <+: h := ⟨en :: h₂, hh.symm⟩
  obtain ⟨s, q, offer, c, hs, hstate, hcycle, -, hsettles⟩ :=
    (hj h₁ en h₂ hh).settles (hj.of_prefix hprefix) hkeys htype
  obtain ⟨s', hs'⟩ := hj.derives hevent
  obtain ⟨lastEventId, rfl⟩ := committed_of_prefix (logOf_isPrefix hprefix en.rfqId) hs hs' hstate
  exact ⟨_, q, offer, c, hs', hstate, hcycle.unsignedQuote, hcycle.selectedSeller,
    hcycle.quoteOf.congr rfl, { hsettles with }⟩

theorem lookup_settlementMembers (c : Confirmation) (verifiedAt key : JsString) :
    (settlementMembers c verifiedAt).lookup key =
      ([(js "tx_sig", some (.str c.result.txSig)), (js "quote_id", c.quoteId),
        (js "final_price", c.result.quote.lookup (js "final_price")),
        (js "buyer", c.result.quote.lookup (js "buyer")),
        (js "seller", c.result.quote.lookup (js "seller")),
        (js "verified_at", some (.str verifiedAt)),
        (js "verification", some (.obj (verificationMembers c.result.verification)))].lookup
          key).join := by
  apply lookup_defined
  simp only [List.map_cons, List.map_nil]
  decide +kernel

end

/-! ### Terms -/

/-- The terms of the event are those of the committed quote. -/
structure Binds (s : DerivedSession) (event : NegotiationEvent) : Prop where
  members : ∀ key ∈ js "quote_id" :: termKeys,
    event.payload.lookup key = JsValue.get? s.unsignedQuote key
  seller : ∃ seller, s.selectedSeller = some seller ∧
    event.payload.lookup (js "seller") = some (.str seller)

theorem Settles.binds {env : EngineEnv} {answers : List (JsString × JsValue)} {s : DerivedSession}
    {q : SignedQuote} {event : NegotiationEvent} {c : Confirmation} {seller : JsString}
    (hs : Settles env answers termKeys s q event c)
    (hquote : s.unsignedQuote = some (.obj (quoteMembers q)))
    (hselected : s.selectedSeller = some seller) (hseller : q.seller = seller) : Binds s event := by
  obtain ⟨verifiedAt, hpayload⟩ := hs.payload
  have hmembers : ∀ key ∈ js "quote_id" :: termKeys,
      event.payload.lookup key = JsValue.get? s.unsignedQuote key := by
    intro key hkey
    rw [hpayload, lookup_settlementMembers]
    rcases List.mem_cons.mp hkey with rfl | hkey
    · rw [hquote]
      exact hs.quoteId
    · rw [← hs.agrees key hkey]
      simp only [termKeys, List.mem_cons, List.not_mem_nil, or_false] at hkey
      rcases hkey with rfl | rfl | rfl <;> rfl
  refine ⟨hmembers, seller, hselected, ?_⟩
  rw [hmembers (js "seller") (by decide), hquote, ← hseller]
  rfl

/-- When `/execute` is presented committed terms only, every settlement records the terms of
the committed quote. -/
theorem settlement_binding {σ : Type} [InternalEventStore σ] (env : EngineEnv)
    (is : List EngineLabel)
    (hok : Guarded (EngineState.step env) (EngineState.Presents env (Agrees termKeys))
      (EngineState.empty : EngineState σ) is) (r : JsString) (now : ℤ)
    {event : NegotiationEvent}
    (hevent : event ∈ (run (EngineState.step env) (EngineState.empty : EngineState σ)
      is).manager.log r) (htype : event.type = .settlementConfirmed) :
    ∃ s q, ((run (EngineState.step env) (EngineState.empty : EngineState σ) is).manager.getSession
        now r).1 = .ok (some s) ∧ s.state = .committed ∧
      s.unsignedQuote = some (.obj (quoteMembers q)) ∧ Binds s event := by
  have he := EngineState.run_inv hok
  rw [he.log] at hevent
  obtain ⟨s, q, offer, c, hs, hstate, hquote, hselected, hquoteOf, hsettles⟩ :=
    he.journal.settles (by decide +kernel) hevent htype
  rw [(he.getSession now r).1]
  exact ⟨s, q, hs, hstate, hquote, hsettles.binds hquote hselected hquoteOf.seller⟩

/-! ### Payments -/

/-- The transaction pays the price of the quote to its seller, with the quote id in its memo. -/
structure NamedPayment (env : EngineEnv) (q : SignedQuote) (tx : Json) : Prop where
  pays : ∃ transfer, extractSplTransfer env.base58Decode tx = .ok (some transfer) ∧
    Pays env.toSettlementEnv env.usdcMint (quoteMembers q) transfer
  memo : ∃ memo, extractMemo env.base58Decode tx = .ok (some memo) ∧
    memoIncludes memo (some (.str q.quoteId)) = .ok true

def paymentKeys : List JsString := js "memo_policy" :: termKeys

theorem Settles.namedPayment {env : EngineEnv} {answers : List (JsString × JsValue)}
    {s : DerivedSession} {q : SignedQuote} {event : NegotiationEvent} {c : Confirmation}
    (hs : Settles env answers paymentKeys s q event c)
    (hquote : s.unsignedQuote = some (.obj (quoteMembers q)))
    (hpolicy : q.memoPolicy = .quoteIdRequired) :
    ∃ tx, event.payload.lookup (js "tx_sig") = some (.str c.result.txSig) ∧
      (c.result.txSig, some tx) ∈ answers ∧ NamedPayment env q tx := by
  obtain ⟨verifiedAt, hpayload⟩ := hs.payload
  obtain ⟨request, answer, hmint, hanswer, hsettle⟩ := hs.payment
  obtain ⟨-, ⟨tx, hcheck⟩, hsig⟩ := settleTransaction_eq_ok hsettle
  obtain ⟨rfl, -, -, -, ⟨transfer, htransfer, hpays, -⟩, hmemo⟩ := checkPayment_eq_ok.mp hcheck
  have hagrees : ∀ key ∈ paymentKeys, c.result.quote.lookup key = (quoteMembers q).lookup key := by
    intro key hkey
    rw [hs.agrees key hkey, hquote]
    rfl
  have hmemoPolicy : c.result.quote.lookup (js "memo_policy") =
      some (.str (js "quote_id_required")) := by
    rw [hagrees _ (by decide)]
    show some (Json.str q.memoPolicy.text) = _
    rw [hpolicy]
    rfl
  obtain ⟨memo, hextract, hincludes⟩ := checkMemo_quoteIdRequired hmemo hmemoPolicy
  rw [hs.resultId] at hincludes
  obtain ⟨destination, mint, amount⟩ := hpays
  rw [hagrees _ (by decide), hmint] at amount
  rw [hagrees _ (by decide), hmint] at destination
  refine ⟨tx, ?_, hsig ▸ hanswer, ⟨transfer, htransfer, destination, hmint ▸ mint, amount⟩,
    memo, hextract, hincludes⟩
  rw [hpayload, lookup_settlementMembers]
  rfl

/-- Nothing remembers a payment, so one may settle several sessions. When `/execute` is
presented committed quotes only, a session is settled once, by a payment of its own price to
its own seller whose memo contains its own quote id. -/
theorem settlement_paid {σ : Type} [InternalEventStore σ] (env : EngineEnv)
    (is : List EngineLabel)
    (hok : Guarded (EngineState.step env) (EngineState.Presents env (Agrees paymentKeys))
      (EngineState.empty : EngineState σ) is) (r : JsString) (now : ℤ)
    {event : NegotiationEvent}
    (hevent : event ∈ (run (EngineState.step env) (EngineState.empty : EngineState σ)
      is).manager.log r) (htype : event.type = .settlementConfirmed) :
    (∃ s q txSig tx, ((run (EngineState.step env) (EngineState.empty : EngineState σ)
        is).manager.getSession now r).1 = .ok (some s) ∧ s.state = .committed ∧
      s.unsignedQuote = some (.obj (quoteMembers q)) ∧
      event.payload.lookup (js "tx_sig") = some (.str txSig) ∧
      (txSig, some tx) ∈ (run (EngineState.step env) (EngineState.empty : EngineState σ)
        is).answers ∧ NamedPayment env q tx) ∧
    ∀ event' ∈ (run (EngineState.step env) (EngineState.empty : EngineState σ) is).manager.log r,
      event'.type = .settlementConfirmed → event' = event := by
  have he := EngineState.run_inv hok
  rw [he.log] at hevent ⊢
  constructor
  · obtain ⟨s, q, offer, c, hs, hstate, hquote, -, hquoteOf, hsettles⟩ :=
      he.journal.settles (by decide +kernel) hevent htype
    obtain ⟨tx, htx, hanswer, hpayment⟩ := hsettles.namedPayment hquote hquoteOf.memoPolicy
    rw [(he.getSession now r).1]
    exact ⟨s, q, c.result.txSig, tx, hs, hstate, hquote, htx, hanswer, hpayment⟩
  · intro event' hevent' htype'
    exact he.journal.settled_unique hevent' hevent htype' htype

/-! ### Settled negotiations -/

/-- A test of the guard. -/
def presented {σ : Type} [InternalEventStore σ] (keys : List JsString) (e : EngineState σ) :
    EngineLabel → Bool
  | .rpcReturns t _ _ =>
    match e.task t with
    | .suspended (.fetching .execute _ quote) =>
      match quote.lookup (js "rfq_id") with
      | some (.str r) => (deriveState (e.manager.log r)).toOption.join.all fun s =>
        decide (Agrees keys s quote)
      | _ => true
    | _ => true
  | _ => true

theorem presents_of_presented {σ : Type} [InternalEventStore σ] {env : EngineEnv}
    {keys : List JsString} {e : EngineState σ} {i : EngineLabel} (h : presented keys e i = true) :
    e.Presents env (Agrees keys) i := by
  cases i with
  | rpcReturns t tx m =>
    rintro _ request quote ht rfl result r s - hr hs - - -
    simp only [presented, ht, hr, hs] at h
    exact of_decide_eq_true h
  | _ => trivial

theorem presents_mono {σ : Type} [InternalEventStore σ] {env : EngineEnv}
    {keys keys' : List JsString} {e : EngineState σ} {i : EngineLabel} (hsub : keys ⊆ keys')
    (h : e.Presents env (Agrees keys') i) : e.Presents env (Agrees keys) i := by
  cases i with
  | rpcReturns t tx m =>
    intro fetch request quote ht hfetch result r s hresult hr hs hstate hid hnot key hkey
    exact h fetch request quote ht hfetch result r s hresult hr hs hstate hid hnot key (hsub hkey)
  | _ => trivial

namespace SampleNegotiation

/-- The quote that the negotiation commits to, with both signatures. -/
def quote (n : SampleNegotiation) : SignedQuote where
  quoteId := n.quoteId
  rfqId := n.rfqId
  buyer := Settlement.sampleBuyer
  seller := Settlement.sampleSeller
  serviceType := js "translation"
  finalPrice := js "9"
  currency := js "USDC"
  paymentEndpoint := js "https://seller.example/execute"
  expiresAt := js "2026-03-01T12:05:00.000Z"
  nonce := js "0x" ++ hexText (List.replicate 32 n.nonceByte)
  memoPolicy := .quoteIdRequired
  buyerSignature := n.buyerSignature
  sellerSignature := n.sellerSignature
  specHash := some (js "sha256:44136fa355b3678a1146ad16f7e8649e94fb4fc21fe77e8310c060f61caaff8a")

/-- `POST /execute` with this quote, and what the RPC returns. -/
def execute (n : SampleNegotiation) (t : CallId) (quote : SignedQuote) (tx : Json) :
    List EngineLabel :=
  [.request t (.execute (some (packMembers (quoteMembers quote))) (some samplePayment))
      (n.moment n.settled),
    .rpcReturns t (some tx) (n.moment n.settled)]

end SampleNegotiation

/-- A quote between two other parties under the ids of the first negotiation. -/
def foreignQuote : SignedQuote :=
  { firstNegotiation.quote with
    buyer := Settlement.otherBuyer
    seller := Settlement.otherSeller
    finalPrice := js "0.01"
    paymentEndpoint := js "https://other.example/execute"
    nonce := js "0x" ++ hexText (List.replicate 32 9)
    buyerSignature :=
      js "ed25519:IarqVdGONLlmXzVXFvFzmizQ2KhaR+cytasHkfgFB1dHZZaqA7gtAtuuu47C+3k7VlIA" ++
      js "bJzU4bF2BFxQ8UoXCA=="
    sellerSignature :=
      js "ed25519:2VanVKf4PcPHHKhmLrW6imHF2F/GDpT/SVfYUOWZoOJwX8vC2jtKyErSj3zx7gzX7l5E" ++
      js "dL0kP2i25wXyh7YSDg==" }

def settlementEnv : EngineEnv := sampleEngineEnv .null
  (foreignQuote.buyerSignature :: foreignQuote.sellerSignature ::
    firstNegotiation.signatures ++ secondNegotiation.signatures)

/-- One payment of 9 with the quote ids of both negotiations in its memo. -/
def sharedPayment : Json := paymentTx sampleAccountText (js "9000000") Settlement.usdcMint
  (firstNegotiation.quoteId ++ js " " ++ secondNegotiation.quoteId)

def foreignPayment : Json :=
  paymentTx otherAccountText (js "10000") Settlement.usdcMint firstNegotiation.quoteId

def foreignLabels : List EngineLabel :=
  .addListing sampleListing :: firstNegotiation.labels 0 ++
    firstNegotiation.execute 5 foreignQuote foreignPayment

/-- Both negotiations, each settled with the same payment. -/
def sharedLabels : List EngineLabel :=
  .addListing sampleListing :: firstNegotiation.labels 0 ++ secondNegotiation.labels 5 ++
    firstNegotiation.execute 10 firstNegotiation.quote sharedPayment ++
    secondNegotiation.execute 11 secondNegotiation.quote sharedPayment

def settlementRun (is : List EngineLabel) : EngineState InMemoryEventStore :=
  run (EngineState.step settlementEnv) EngineState.empty is

/-- The settlement events of a session. -/
def settlements (is : List EngineLabel) (r : JsString) : List NegotiationEvent :=
  ((settlementRun is).manager.log r).filter fun e => e.type = .settlementConfirmed

theorem mem_of_settlements {is : List EngineLabel} {r : JsString} {event : NegotiationEvent}
    {events : List NegotiationEvent} (h : settlements is r = event :: events) :
    event ∈ (settlementRun is).manager.log r ∧ event.type = .settlementConfirmed := by
  have hmem : event ∈ settlements is r := h ▸ List.mem_cons_self
  simpa [settlements] using hmem

/-- A payment to someone else under a quote of someone else settles the session. -/
theorem settlement_unbound : ∃ s event,
    ((settlementRun foreignLabels).manager.getSession 0 firstNegotiation.rfqId).1 =
      .ok (some s) ∧
    event ∈ (settlementRun foreignLabels).manager.log firstNegotiation.rfqId ∧
    event.type = .settlementConfirmed ∧
    event.payload.lookup (js "seller") = some (.str Settlement.otherSeller) ∧
    ¬ Binds s event := by
  -- both are read off one evaluation of the run
  have hrun : ((settlementRun foreignLabels).manager.getSession 0
      firstNegotiation.rfqId).1.toOption.join.any
        (fun s => decide (s.selectedSeller = some Settlement.sampleSeller)) = true ∧
      (settlements foreignLabels firstNegotiation.rfqId).map (fun e =>
        e.payload.lookup (js "seller")) = [some (.str Settlement.otherSeller)] := by
    decide +kernel
  obtain ⟨hsession, hseller⟩ := hrun
  obtain ⟨s, hs, hselected⟩ := exists_session hsession
  obtain ⟨event, hevents, hpayload⟩ := List.map_eq_singleton_iff.mp hseller
  obtain ⟨hmem, htype⟩ := mem_of_settlements hevents
  refine ⟨s, event, hs, hmem, htype, hpayload, fun hbinds => ?_⟩
  obtain ⟨seller, hs', hsame⟩ := hbinds.seller
  rw [of_decide_eq_true hselected, Option.some.injEq] at hs'
  rw [hpayload, ← hs'] at hsame
  exact absurd hsame (by decide)

theorem shared_guarded : Guarded (EngineState.step settlementEnv)
    (EngineState.Presents settlementEnv (Agrees paymentKeys))
    (EngineState.empty : EngineState InMemoryEventStore) sharedLabels := by
  have h : Guarded (EngineState.step settlementEnv)
      (fun e i => presented paymentKeys e i = true)
      (EngineState.empty : EngineState InMemoryEventStore) sharedLabels := by decide +kernel
  exact h.imp fun _ _ => presents_of_presented

/-- Both sessions record the payment. -/
theorem shared_settled : ∀ r ∈ [firstNegotiation.rfqId, secondNegotiation.rfqId],
    (settlements sharedLabels r).map (fun e => e.payload.lookup (js "tx_sig")) =
      [some (.str samplePayment)] := by
  decide +kernel

theorem settlement_binding_sample : ∃ s event,
    ((settlementRun sharedLabels).manager.getSession 0 firstNegotiation.rfqId).1 =
      .ok (some s) ∧
    event ∈ (settlementRun sharedLabels).manager.log firstNegotiation.rfqId ∧
    event.type = .settlementConfirmed ∧ Binds s event := by
  obtain ⟨event, hevents, -⟩ :=
    List.map_eq_singleton_iff.mp (shared_settled firstNegotiation.rfqId (by simp))
  obtain ⟨hmem, htype⟩ := mem_of_settlements hevents
  have hok := shared_guarded.imp fun _ _ => presents_mono (List.subset_cons_self _ termKeys)
  obtain ⟨s, -, hs, -, -, hbinds⟩ :=
    settlement_binding settlementEnv sharedLabels hok firstNegotiation.rfqId 0 hmem htype
  exact ⟨s, event, hs, hmem, htype, hbinds⟩

theorem settlement_paid_sample : ∃ s q event txSig tx,
    ((settlementRun sharedLabels).manager.getSession 0 secondNegotiation.rfqId).1 =
      .ok (some s) ∧ s.unsignedQuote = some (.obj (quoteMembers q)) ∧
    event ∈ (settlementRun sharedLabels).manager.log secondNegotiation.rfqId ∧
    event.payload.lookup (js "tx_sig") = some (.str txSig) ∧
    NamedPayment settlementEnv q tx := by
  obtain ⟨event, hevents, -⟩ :=
    List.map_eq_singleton_iff.mp (shared_settled secondNegotiation.rfqId (by simp))
  obtain ⟨hmem, htype⟩ := mem_of_settlements hevents
  obtain ⟨⟨s, q, txSig, tx, hs, -, hquote, htx, -, hpayment⟩, -⟩ := settlement_paid settlementEnv
    sharedLabels shared_guarded secondNegotiation.rfqId 0 hmem htype
  exact ⟨s, q, event, txSig, tx, hs, hquote, hmem, htx, hpayment⟩

theorem settlement_shared : firstNegotiation.rfqId ≠ secondNegotiation.rfqId ∧
    ∀ r ∈ [firstNegotiation.rfqId, secondNegotiation.rfqId],
      (settlements sharedLabels r).map (fun e => e.payload.lookup (js "tx_sig")) =
        [some (.str samplePayment)] := by
  constructor
  · decide
  · exact shared_settled

end GhostBazaar.Engine
