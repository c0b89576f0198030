import GhostBazaar.Engine.FreeLock
import GhostBazaar.Engine.Settleable

/-! From any reachable state, the selected seller of a committed session gets a payment of its
quote recorded. -/
namespace GhostBazaar.Engine
open Js GhostBazaar.Core Settlement Transition InternalEventStore

namespace EngineState

variable {σ : Type} [InternalEventStore σ] {env : EngineEnv} {e e₀ : EngineState σ}
  {t : CallId} {r : JsString} {s : DerivedSession}

/-! ### The segments of a report -/

theorem waits_reporter (he : Inv env (fun _ _ => True) e) (ht : e.task t = .idle)
    {authorization : Option JsString} {callerDid : JsString} {m : Moment}
    (hcaller : authenticateCaller env.toCrypto m.now authorization = .ok callerDid)
    (body : Option Json) :
    Waits env e (next (step env) e (.request t (.settleReport r authorization body) m)) t
      (.settleReport r callerDid body) := by
  have hstep : e.step env (.request t (.settleReport r authorization body) m) =
      some (e.setTask t (.suspended (.settleReport r callerDid body))) := by
    simp [step, ht, Request.begin, hcaller, runSegment, proceed, Bind.bind, Except.bind,
      Pure.pure, Except.pure]
  have hinv := inv_next he (.request t (.settleReport r authorization body) m)
  rw [next_eq hstep] at hinv ⊢
  exact ⟨hinv, by simp, rfl, rfl⟩

theorem Waits.checked {callerDid : JsString} {body : Option Json}
    (h : Waits env e₀ e t (.settleReport r callerDid body))
    (hs : deriveState (e₀.manager.log r) = .ok (some s)) (hstate : s.state = .committed)
    (hseller : s.selectedSeller = some callerDid) (m : Moment) :
    Waits env e₀ (next (EngineState.step env) e (.resume t m)) t (.reporterChecked r s body) := by
  have hget : (e.manager.getSession m.now r).1 = .ok (some s) := by
    rw [(h.inv.consistent.getSession m.now r).1, h.log, hs]
  obtain ⟨-, -, hstore, hlock⟩ := h.inv.consistent.getSession m.now r
  have hcheck : checkReporter callerDid (some s) = .ok s := by
    simp only [checkReporter, requireCommitted, bind_eq_ok, orThrow_eq_ok, require_eq_ok,
      pure_eq_ok]
    exact ⟨s, rfl, (), hstate, (), hseller.symm, rfl⟩
  have hstep : e.step env (.resume t m) = some ((e.setManager
      (e.manager.getSession m.now r).2).setTask t (.suspended (.reporterChecked r s body))) := by
    simp [step, resume, h.task, Continuation.resume, Continuation.tombstone, writeTombstone,
      runSegment, hget, thrownError, Except.mapError, hcheck, proceed, Bind.bind, Except.bind,
      Pure.pure, Except.pure]
  have hinv := inv_next h.inv (.resume t m)
  rw [next_eq hstep] at hinv ⊢
  exact ⟨hinv, by simp, hstore.trans h.store, hlock.trans h.lockTable⟩

/-- The body of a report. -/
def reportBody (paymentSignature quoteId : JsString) : Json :=
  .obj [(js "tx_sig", .str paymentSignature), (js "quote_id", .str quoteId)]

end EngineState

theorem Committed.openReport {env : EngineEnv} {s : DerivedSession} {q : SignedQuote} {expires : ℤ}
    (hc : Committed env s q expires) {paymentSignature : JsString}
    (hsignature : paymentSignature ≠ [] ∧
      isPaymentSignature env.toSettlementEnv paymentSignature = true) (now : ℤ) :
    openReport env now s (some (EngineState.reportBody paymentSignature q.quoteId)) =
      .ok (settlementRequest env (committedHeader env s (.obj (quoteMembers q))) paymentSignature,
        s.signedQuote (quoteMembers q), some (.str q.quoteId)) := by
  have hheader : env.parseHeader (committedHeader env s (.obj (quoteMembers q))) =
      some (.obj (s.signedQuote (quoteMembers q))) := by
    rw [committedHeader, DerivedSession.signedQuote, signedMembers_quoteMembers]
    exact env.parse_headerText _
  have hrequest : Settlement.checkRequest env.toSettlementEnv true (settlementRequest env
      (committedHeader env s (.obj (quoteMembers q))) paymentSignature) now =
        .ok (s.signedQuote (quoteMembers q)) :=
    hc.checkRequest hheader hsignature.2 true (by simp)
  have hquoteId : requireQuoteId s (some (.str q.quoteId)) = .ok () := by
    rw [requireQuoteId, require_eq_ok, hc.unsignedQuote]
    intro _
    exact (JsValue.strictEq_str _ _).mpr rfl
  have hfields : JsValue.isTruthy (some (.str paymentSignature)) = true ∧
      JsValue.isTruthy (some (.str q.quoteId)) = true := by
    simpa [JsValue.isTruthy, Json.isTruthy] using ⟨hsignature.1, hc.quoteId⟩
  simp only [Engine.openReport, bind_eq_ok, orThrow_eq_ok, require_eq_ok, settling_eq_ok,
    pure_eq_ok]
  refine ⟨_, rfl, some (.str paymentSignature), rfl, some (.str q.quoteId), rfl, (), hfields, (),
    hquoteId, _, hc.unsignedQuote, (_, _), ?_, rfl⟩
  simp only [reportRequest, bind_eq_ok, pure_eq_ok]
  exact ⟨_, hrequest, rfl⟩

/-! ### The append -/

/-- A settlement event extends the log of a committed session. -/
theorem deriveState_settled {log : List NegotiationEvent} {s : DerivedSession}
    {event : NegotiationEvent} (hs : deriveState log = .ok (some s))
    (hstate : s.state = .committed) (htype : event.type = .settlementConfirmed) :
    deriveState (log ++ [event]) = .ok (some { s with lastEventId := event.eventId }) := by
  cases log with
  | nil => simp [deriveState] at hs
  | cons first rest =>
    refine deriveState_append_singleton.mpr ⟨s, hs, ?_⟩
    simp only [applyEvent, hstate, htype, isValidTransition, orThrow, applyPayload, Bind.bind,
      Except.bind]

namespace EngineState

variable {σ : Type} [InternalEventStore σ] {env : EngineEnv} {e e₀ : EngineState σ}
  {t : CallId} {r : JsString} {s : DerivedSession} {q : SignedQuote} {expires : ℤ}

/-- What the report asks the RPC for. -/
def reportedRequest (env : EngineEnv) (s : DerivedSession) (q : SignedQuote)
    (paymentSignature : JsString) : SettlementRequest :=
  settlementRequest env (committedHeader env s (.obj (quoteMembers q))) paymentSignature

theorem Waits.opened {paymentSignature : JsString}
    (h : Waits env e₀ e t
      (.reporterChecked r s (some (reportBody paymentSignature q.quoteId))))
    (hc : Committed env s q expires)
    (hsignature : paymentSignature ≠ [] ∧
      isPaymentSignature env.toSettlementEnv paymentSignature = true) (m : Moment) :
    Waits env e₀ (next (EngineState.step env) e (.resume t m)) t
      (.fetching (.settleReport r (some (.str q.quoteId)))
        (reportedRequest env s q paymentSignature) (s.signedQuote (quoteMembers q))) := by
  have hstep : e.step env (.resume t m) = some (e.setTask t (.suspended
      (.fetching (.settleReport r (some (.str q.quoteId)))
        (reportedRequest env s q paymentSignature) (s.signedQuote (quoteMembers q))))) := by
    simp [step, resume, h.task, Continuation.resume, Continuation.tombstone, writeTombstone,
      runSegment, hc.openReport hsignature m.now, proceed, Bind.bind, Except.bind, Pure.pure,
      Except.pure, reportedRequest]
  have hinv := inv_next h.inv (.resume t m)
  rw [next_eq hstep] at hinv ⊢
  exact ⟨hinv, by simp, h.store, h.lockTable⟩

/-- The event records the terms of the quote and the payment. -/
structure RecordsPayment (quote : Members) (paymentSignature : JsString)
    (event : NegotiationEvent) : Prop where
  type : event.type = .settlementConfirmed
  payment : event.payload.lookup (js "tx_sig") = some (.str paymentSignature)
  terms : ∀ key ∈ [js "quote_id", js "final_price", js "buyer", js "seller"],
    event.payload.lookup key = quote.lookup key

theorem settlementMembers_records {c : Confirmation} {verifiedAt : JsString} {event : NegotiationEvent}
    (htype : event.type = .settlementConfirmed)
    (hpayload : event.payload = settlementMembers c verifiedAt)
    (hquoteId : c.quoteId = c.result.quote.lookup (js "quote_id")) :
    RecordsPayment c.result.quote c.result.txSig event := by
  have hkeys : [js "tx_sig", js "quote_id", js "final_price", js "buyer", js "seller",
      js "verified_at", js "verification"].Nodup := by decide +kernel
  refine ⟨htype, ?_, ?_⟩
  · rw [hpayload]
    exact lookup_defined (by exact hkeys) (js "tx_sig")
  · intro key hkey
    rw [hpayload]
    simp only [List.mem_cons, List.not_mem_nil, or_false] at hkey
    rcases hkey with rfl | rfl | rfl | rfl
    · exact (lookup_defined (by exact hkeys) (js "quote_id")).trans hquoteId
    · exact lookup_defined (by exact hkeys) (js "final_price")
    · exact lookup_defined (by exact hkeys) (js "buyer")
    · exact lookup_defined (by exact hkeys) (js "seller")

/-- On a free lock the confirmation is appended at once and answered. -/
theorem withLock_confirms (he : Inv env (fun _ _ => True) e) {c : Confirmation} {m : Moment}
    (hs : deriveState (e.manager.log r) = .ok (some s)) (hstate : s.state = .committed)
    (hunsettled : ∀ event ∈ e.manager.log r, event.type ≠ .settlementConfirmed)
    (hstarts : e.manager.startsAtOnce env.maxQueueSize r = true)
    {verifiedAt : JsString} (htime : c.verifiedAt = some verifiedAt)
    (hroute : c.route = .settleReport)
    (hstores : ∀ event, event.rfqId = r → event.eventId = m.eventId →
      ∃ store, append e.manager.store r event = .ok store) :
    ∃ event, (e.withLock env m t r (.confirm c)).manager.log r = e.manager.log r ++ [event] ∧
      event.type = .settlementConfirmed ∧ event.payload = settlementMembers c verifiedAt ∧
      (e.withLock env m t r (.confirm c)).task t = .finished (.ok (some (reportReply c))) := by
  let event : NegotiationEvent :=
    { eventId := m.eventId
      rfqId := r
      type := .settlementConfirmed
      timestamp := verifiedAt
      actor := js "system:settlement-verifier"
      payload := settlementMembers c verifiedAt }
  have hrun : (Callback.confirm c).run env m e.listingStore r (e.manager.log r) (some s) =
      .ok (.append event) := by
    have hany : (e.manager.log r).any (fun e => decide (e.type = .settlementConfirmed)) =
        false := by
      rw [List.any_eq_false]
      intro x hx
      simpa using hunsettled x hx
    simp [Callback.run, lockedConfirm, hany, Confirmation.time, htime, confirmResult, Bind.bind,
      Except.bind, Pure.pure, Except.pure, event]
  have hderive : deriveState (e.manager.log r ++ [event]) = _ :=
    deriveState_settled hs hstate rfl
  obtain ⟨hlog, htask⟩ := withLock_appends (t := t) he hs hstarts hrun hderive
    (hstores event rfl rfl)
  refine ⟨event, hlog, rfl, rfl, htask.trans ?_⟩
  simp only [Callback.reply, confirmReply, hroute, Except.map]

/-- The selected seller of a committed session reports a payment that redeems its quote, while
nobody else holds the lock of the session: the payment is recorded, with the terms of the quote,
and the report is answered. This is so in every reachable state. -/
theorem settlement_completes (env : EngineEnv) (is : List EngineLabel) (r : JsString)
    (t : CallId) (m₀ m₁ m₂ m₃ : Moment) {s : DerivedSession} {quote : Members}
    {seller paymentSignature quoteId : JsString} {authorization : Option JsString} {tx : Json}
    (hs : ((run (EngineState.step env) (empty : EngineState σ) is).manager.getSession m₀.now r).1 =
      .ok (some s)) (hstate : s.state = .committed)
    (hunsettled : ¬ Settled ((run (EngineState.step env) (empty : EngineState σ) is).manager.log r))
    (hidle : (run (EngineState.step env) (empty : EngineState σ) is).task t = .idle)
    (hfree : (run (EngineState.step env) (empty : EngineState σ) is).manager.startsAtOnce
      env.maxQueueSize r = true)
    (hquote : s.unsignedQuote = some (.obj quote))
    (hquoteId : quote.lookup (js "quote_id") = some (.str quoteId))
    (hseller : s.selectedSeller = some seller)
    (hcaller : authenticateCaller env.toCrypto m₀.now authorization = .ok seller)
    (hpays : Redeems env.toSettlementEnv env.usdcMint paymentSignature (s.signedQuote quote) tx)
    (hmint : env.usdcMint ≠ []) (htime : (toISOString m₃.now).isSome)
    (hstores : ∀ event, event.rfqId = r → event.eventId = m₃.eventId → ∃ store, append
      (run (EngineState.step env) (empty : EngineState σ) is).manager.store r event = .ok store) :
    let e := run (EngineState.step env) (empty : EngineState σ) is
    let e' := run (EngineState.step env) e
      [.request t (.settleReport r authorization (some (reportBody paymentSignature quoteId))) m₀,
        .resume t m₁, .resume t m₂, .rpcReturns t (some tx) m₃]
    ∃ event reply, e'.manager.log r = e.manager.log r ++ [event] ∧
      RecordsPayment quote paymentSignature event ∧
      e'.task t = .finished (.ok (some reply)) ∧ reply.status = 200 := by
  intro e e'
  have he : Inv env (fun _ _ => True) e := run_inv_true env is
  have hderive : deriveState (e.manager.log r) = .ok (some s) := by
    rw [← (he.consistent.getSession m₀.now r).1]
    exact hs
  have hlog : deriveState (logOf e.history r) = .ok (some s) := he.log r ▸ hderive
  obtain ⟨q, expires, hc⟩ := he.journal.committed hlog hstate
  obtain rfl : quote = quoteMembers q := by
    have hsame := hquote.symm.trans hc.unsignedQuote
    simpa using hsame
  obtain rfl : q.quoteId = quoteId := by
    change some (Json.str q.quoteId) = some (.str quoteId) at hquoteId
    simpa using hquoteId
  have hwaits := waits_reporter (r := r) he hidle hcaller
    (some (reportBody paymentSignature q.quoteId))
  have hchecked := hwaits.checked hderive hstate hseller m₁
  have hopened := hchecked.opened hc hpays.paymentSignature m₂
  generalize he₃ : next (EngineState.step env) (next (EngineState.step env)
    (next (EngineState.step env) e (.request t (.settleReport r authorization
      (some (reportBody paymentSignature q.quoteId))) m₀)) (.resume t m₁)) (.resume t m₂) = e₃
    at hopened
  obtain ⟨result, hresult, hresultQuote, hresultSig⟩ : ∃ result, settleTransaction
      env.toSettlementEnv (reportedRequest env s q paymentSignature)
        (s.signedQuote (quoteMembers q)) (some tx) = .ok result ∧
      result.quote = s.signedQuote (quoteMembers q) ∧
        result.txSig = (reportedRequest env s q paymentSignature).paymentSignature :=
    hc.settleTransaction hpays hmint
  obtain ⟨verifiedAt, htime⟩ := Option.isSome_iff_exists.mp htime
  let c : Confirmation := ⟨.settleReport, result, some (.str q.quoteId), some verifiedAt⟩
  let e₄ := e₃.answer paymentSignature (some tx)
  have hinv : Inv env (fun _ _ => True) e₄ := hopened.inv.answer paymentSignature (some tx)
  have hstep : e₃.step env (.rpcReturns t (some tx) m₃) =
      some (e₄.withLock env m₃ t r (.confirm c)) := by
    simp only [step, rpcReturns, hopened.task, Fetch.resume, hresult, settling, Segment.after,
      runSegment, Option.some.injEq]
    simp [orThrow, htime, Bind.bind, Except.bind, Pure.pure, Except.pure, proceed, e₄, c,
      reportedRequest, settlementRequest]
  have hlog₄ : e₄.manager.log r = e.manager.log r := hopened.log r
  have hstarts : e₄.manager.startsAtOnce env.maxQueueSize r = true := by
    exact (SessionManager.startsAtOnce_congr hopened.lockTable _ _).trans hfree
  obtain ⟨event, hfinal, htype, hpayload, htask⟩ := withLock_confirms (t := t) (r := r) (c := c)
    (m := m₃) hinv (hlog₄ ▸ hderive) hstate
    (fun event hevent htype => hunsettled ⟨event, hlog₄ ▸ hevent, htype⟩) hstarts rfl rfl
    (fun event hrfq hid => by
      have hsame : e₄.manager.store = e.manager.store := hopened.store
      rw [hsame]
      exact hstores event hrfq hid)
  have he' : e' = e₄.withLock env m₃ t r (.confirm c) := by
    change next (EngineState.step env) (next (EngineState.step env) (next (EngineState.step env)
      (next (EngineState.step env) e _) _) _) _ = _
    rw [he₃]
    exact next_eq hstep
  have hrecords := settlementMembers_records (c := c) htype hpayload (by
    change some (Json.str q.quoteId) = result.quote.lookup _
    rw [hresultQuote, lookup_signedQuote (by decide) (by decide)]
    rfl)
  refine ⟨event, reportReply c, by rw [he', hfinal, hlog₄], ⟨htype, ?_, ?_⟩, by rw [he', htask], rfl⟩
  · rw [hrecords.payment]
    exact congrArg (fun x => some (Json.str x)) hresultSig
  · intro key hkey
    have hterms := hrecords.terms key hkey
    have hkeys : key ≠ js "buyer_signature" ∧ key ≠ js "seller_signature" := by
      simp only [List.mem_cons, List.not_mem_nil, or_false] at hkey
      rcases hkey with rfl | rfl | rfl | rfl <;> decide
    rw [hterms]
    change result.quote.lookup key = _
    rw [hresultQuote, lookup_signedQuote hkeys.1 hkeys.2]

end EngineState

/-! ### A settlement of the example -/

def sellerAuthSignature : JsString :=
  js "ed25519:+tXuCY60g6grie1qz/+LgORBKsdnfx1c+Ef6ez0/hEjDliHhnz/ksHD0Yy+Qn9NjkY6arC+INguOkIjkOuqCCA=="

/-- The header with which the seller reads and reports. -/
def sellerAuthorization : JsString :=
  js "GhostBazaar-Ed25519 " ++ Settlement.sampleSeller ++ js " " ++ sampleStart ++ js " " ++
    sellerAuthSignature

abbrev reportEnv : EngineEnv :=
  sampleEngineEnv .null (sellerAuthSignature :: firstNegotiation.signatures)

abbrev reportedLabels : List EngineLabel := .addListing sampleListing :: firstNegotiation.labels 0

abbrev reportedRun : EngineState InMemoryEventStore :=
  run (EngineState.step reportEnv) EngineState.empty reportedLabels

abbrev settlementMoment : Moment := firstNegotiation.moment firstNegotiation.settled

def Task.isIdle : Task → Bool
  | .idle => true
  | _ => false

theorem Task.isIdle_iff {task : Task} : task.isIdle = true ↔ task = .idle := by
  cases task <;> simp [Task.isIdle]

/-- 2026-03-01T12:05:00Z -/
def sampleExpiry : ℤ := 1772366700000

/-- The committed session, its quote and a payment of it. -/
theorem reportedRun_committed : ∃ s q tx,
    (reportedRun.manager.getSession sampleNow firstNegotiation.rfqId).1 = .ok (some s) ∧
      s.state = .committed ∧ s.selectedSeller = some Settlement.sampleSeller ∧
      Committed reportEnv s q sampleExpiry ∧
      Redeems reportEnv.toSettlementEnv Settlement.usdcMint samplePayment
        (s.signedQuote (quoteMembers q)) tx := by
  have hread : (reportedRun.manager.getSession sampleNow
      firstNegotiation.rfqId).1.toOption.join.any (fun s =>
        decide (s.state = .committed) && decide (s.selectedSeller = some Settlement.sampleSeller) &&
          decide ((JsValue.asStr (JsValue.get? s.unsignedQuote (js "expires_at"))).bind
            (dateParse reportEnv.legacyDate) = some sampleExpiry)) = true := by
    decide +kernel
  obtain ⟨s, hs, htest⟩ := exists_session hread
  simp only [Bool.and_eq_true, decide_eq_true_eq] at htest
  obtain ⟨⟨hstate, hseller⟩, hexpiry⟩ := htest
  have he := EngineState.run_inv_true reportEnv (σ := InMemoryEventStore) reportedLabels
  have hderive : deriveState (logOf reportedRun.history firstNegotiation.rfqId) = .ok (some s) := by
    rw [← he.log, ← (he.consistent.getSession sampleNow _).1]
    exact hs
  obtain ⟨q, expires, hc⟩ := he.journal.committed hderive hstate
  have hsame : q.seller = Settlement.sampleSeller := by
    have h := hc.seller.symm.trans hseller
    simpa using h
  obtain rfl : expires = sampleExpiry := by
    rw [hc.unsignedQuote] at hexpiry
    change dateParse reportEnv.legacyDate q.expiresAt = some sampleExpiry at hexpiry
    simpa using hc.expiresAt.symm.trans hexpiry
  have hsignature : samplePayment ≠ [] ∧
      isPaymentSignature reportEnv.toSettlementEnv samplePayment = true := by decide +kernel
  have hpayable : Payable reportEnv.toSettlementEnv Settlement.usdcMint q.seller := by
    rw [hsame]
    refine ⟨⟨sampleSellerKey, usdcMintKey, sampleSellerAccount, ?_, ?_, ?_⟩, ?_⟩ <;> decide +kernel
  obtain ⟨tx, hredeems⟩ := hc.exists_redeems hpayable hsignature
  exact ⟨s, q, tx, hs, hstate, hseller, hc, hredeems⟩

/-- The store in memory takes an event with an id that it has not seen. -/
theorem append_fresh {store : InMemoryEventStore} {r id : JsString} (h : id ∉ store.seenEventIds)
    {event : NegotiationEvent} (hrfq : event.rfqId = r) (hid : event.eventId = id) :
    ∃ store', append store r event = .ok store' := by
  have hnew : event.eventId ∉ store.seenEventIds := hid ▸ h
  exact ⟨_, by
    change InMemoryEventStore.append _ _ _ = .ok _
    rw [InMemoryEventStore.append, hrfq]
    simp only [ensure, hnew, not_false_eq_true, if_true, Bind.bind, Except.bind]
    rfl⟩

theorem settlement_completes_first : ∃ e' : EngineState InMemoryEventStore, ∃ quote event reply,
    e'.manager.log firstNegotiation.rfqId =
      reportedRun.manager.log firstNegotiation.rfqId ++ [event] ∧
      EngineState.RecordsPayment quote samplePayment event ∧
      e'.task 9 = .finished (.ok (some reply)) ∧ reply.status = 200 := by
  obtain ⟨s, q, tx, hs, hstate, hseller, hc, hredeems⟩ := reportedRun_committed
  have hunsettled : ((reportedRun.manager.log firstNegotiation.rfqId).all fun event =>
      decide (event.type ≠ .settlementConfirmed)) = true := by decide +kernel
  have hidle : (run (EngineState.step reportEnv) (EngineState.empty : EngineState InMemoryEventStore)
      reportedLabels).task 9 = .idle := Task.isIdle_iff.mp (by decide +kernel)
  have hfree : reportedRun.manager.startsAtOnce reportEnv.maxQueueSize firstNegotiation.rfqId =
      true := by decide +kernel
  have htime : (toISOString settlementMoment.now).isSome = true := by decide +kernel
  have hauthorized : (authenticateCaller reportEnv.toCrypto sampleNow
      (some sellerAuthorization)).toOption = some Settlement.sampleSeller := by decide +kernel
  have hcaller : authenticateCaller reportEnv.toCrypto settlementMoment.now
      (some sellerAuthorization) = .ok Settlement.sampleSeller := by
    change authenticateCaller reportEnv.toCrypto sampleNow _ = _
    cases hauth : authenticateCaller reportEnv.toCrypto sampleNow (some sellerAuthorization) with
    | error failure => simp [hauth, Except.toOption] at hauthorized
    | ok did =>
      rw [hauth] at hauthorized
      obtain rfl : did = Settlement.sampleSeller := by simpa [Except.toOption] using hauthorized
      rfl
  have hfresh : settlementMoment.eventId ∉ (run (EngineState.step reportEnv)
      (EngineState.empty : EngineState InMemoryEventStore)
        reportedLabels).manager.store.seenEventIds := by
    decide +kernel
  obtain ⟨event, reply, h⟩ := EngineState.settlement_completes (σ := InMemoryEventStore) reportEnv
    reportedLabels
    firstNegotiation.rfqId 9 settlementMoment settlementMoment settlementMoment settlementMoment
    hs hstate
    (by
      rintro ⟨event, hevent, htype⟩
      simp only [List.all_eq_true, decide_eq_true_eq] at hunsettled
      exact hunsettled event hevent htype)
    hidle hfree hc.unsignedQuote rfl hseller
    hcaller hredeems (by decide) htime (fun _ => append_fresh hfresh)
  exact ⟨_, quoteMembers q, event, reply, h⟩

end GhostBazaar.Engine
