import GhostBazaar.Agents.EngineClient
import GhostBazaar.Engine.SettlementCompletes

/-! The calls of an honest client, in any reachable state of the engine: what it signs is let in,
and on a free lock what it asks for is done. -/
namespace GhostBazaar.Agents
open Js GhostBazaar.Core Settlement Engine Transition InternalEventStore
open EngineState (Waits Inv next_eq inv_next withLock_appends)

variable {σ : Type} [InternalEventStore σ] {env : EngineEnv} {e e₀ : EngineState σ}
  {t : CallId} {r : JsString} {s : DerivedSession}

/-! ### Envelopes -/

/-- The request that carries a control envelope. -/
def controlRequest (r : JsString) (envelope : ControlEnvelope) : Request :=
  match envelope.action with
  | .accept => .accept r (some (.obj envelope.members))
  | .decline => .decline r (some (.obj envelope.members))

/-- The check of the route that the envelope goes to. -/
def checkControl (env : EngineEnv) (now : ℤ) (tombstones : EnvelopeTombstones) (r : JsString)
    (envelope : ControlEnvelope) (session : Option DerivedSession) :
    Engine.Handling (ControlEnvelope × JsString) :=
  match envelope.action with
  | .accept => checkAccept env now tombstones r (.obj envelope.members) session
  | .decline => checkDecline env now tombstones r (.obj envelope.members) session

theorem waits_verified (he : Inv env (fun _ _ => True) e) (ht : e.task t = .idle)
    (hs : deriveState (e.manager.log r) = .ok (some s)) {envelope : ControlEnvelope}
    {signer : JsString} {m : Moment}
    (hcheck : checkControl env m.now e.tombstones r envelope (some s) = .ok (envelope, signer)) :
    Waits env e (next (EngineState.step env) e (.request t (controlRequest r envelope) m)) t
      (.envelopeVerified r envelope signer) := by
  have hget : (e.manager.getSession m.now r).1 = .ok (some s) := by
    rw [(he.consistent.getSession m.now r).1, hs]
  obtain ⟨-, -, hstore, hlock⟩ := he.consistent.getSession m.now r
  have hstep : e.step env (.request t (controlRequest r envelope) m) =
      some ((e.setManager (e.manager.getSession m.now r).2).setTask t
        (.suspended (.envelopeVerified r envelope signer))) := by
    unfold controlRequest checkControl at *
    cases haction : envelope.action with
    | accept =>
      rw [haction] at hcheck
      simp [EngineState.step, ht, Request.begin, Segment.after, parseBody, orThrow,
        EngineState.runSegment, hget, EngineState.thrownError, Except.mapError, hcheck,
        EngineState.proceed, Bind.bind, Except.bind, Pure.pure, Except.pure]
    | decline =>
      rw [haction] at hcheck
      simp [EngineState.step, ht, Request.begin, Segment.after, parseBody, orThrow,
        EngineState.runSegment, hget, EngineState.thrownError, Except.mapError, hcheck,
        EngineState.proceed, Bind.bind, Except.bind, Pure.pure, Except.pure]
  have hinv := inv_next he (.request t (controlRequest r envelope) m)
  rw [next_eq hstep] at hinv ⊢
  exact ⟨hinv, by simp, hstore, hlock⟩

/-- The tombstone is written between the check and the lock. -/
theorem waits_validated {envelope : ControlEnvelope} {signer : JsString}
    (h : Waits env e₀ e t (.envelopeVerified r envelope signer)) (m : Moment) :
    Waits env e₀ (next (EngineState.step env) e (.resume t m)) t
      (.envelopeValidated r envelope signer) := by
  have hstep : e.step env (.resume t m) = some ((e.writeTombstone m.now
      (some envelope.envelopeId)).setTask t (.suspended (.envelopeValidated r envelope signer))) := by
    simp [EngineState.step, EngineState.resume, h.task, Continuation.resume,
      Continuation.tombstone, EngineState.runSegment, EngineState.proceed]
  have hinv := inv_next h.inv (.resume t m)
  rw [next_eq hstep] at hinv ⊢
  exact ⟨hinv, by simp, h.store, h.lockTable⟩

theorem step_locks {envelope : ControlEnvelope} {signer : JsString} {callback : Callback}
    (h : Waits env e₀ e t (.envelopeValidated r envelope signer))
    (hnext : afterEnvelope r envelope signer = .ok (.lock r callback)) (m : Moment) :
    next (EngineState.step env) e (.resume t m) = e.withLock env m t r callback := by
  apply next_eq
  simp [EngineState.step, EngineState.resume, h.task, Continuation.resume,
    Continuation.tombstone, EngineState.writeTombstone, EngineState.runSegment, hnext,
    EngineState.proceed]

/-- An envelope that passes the check of its route and asks for what its callback appends gets
it appended, when nobody holds the lock. -/
theorem envelope_appends (he : Inv env (fun _ _ => True) e) (ht : e.task t = .idle)
    (hfree : e.manager.startsAtOnce env.maxQueueSize r = true)
    (hs : deriveState (e.manager.log r) = .ok (some s)) {envelope : ControlEnvelope}
    {signer : JsString} {m₀ m₂ : Moment} (m₁ : Moment) {callback : Callback}
    {event : NegotiationEvent} {s' : DerivedSession}
    (hcheck : checkControl env m₀.now e.tombstones r envelope (some s) = .ok (envelope, signer))
    (hnext : afterEnvelope r envelope signer = .ok (.lock r callback))
    (hrun : ∀ listings, callback.run env m₂ listings r (e.manager.log r) (some s) =
      .ok (.append event))
    (hderive : deriveState (e.manager.log r ++ [event]) = .ok (some s'))
    (hstores : ∃ store, append e.manager.store r event = .ok store) :
    let e' := run (EngineState.step env) e
      [.request t (controlRequest r envelope) m₀, .resume t m₁, .resume t m₂]
    e'.manager.log r = e.manager.log r ++ [event] ∧
      e'.task t = .finished (callback.reply env m₂.now r s') := by
  intro e'
  have hvalidated := waits_validated (waits_verified he ht hs hcheck) m₁
  have hlast : e' = _ := step_locks hvalidated hnext m₂
  have hlog := hvalidated.log r
  have hstarts := (SessionManager.startsAtOnce_congr hvalidated.lockTable _ _).trans hfree
  rw [hlast, ← hlog]
  refine withLock_appends hvalidated.inv (hlog ▸ hs) hstarts ?_ (by rw [hlog]; exact hderive)
    (by rw [hvalidated.store]; exact hstores)
  rw [hlog]
  exact hrun _

theorem deriveState_snoc {log : List NegotiationEvent} {event : NegotiationEvent}
    {s' : DerivedSession} (hs : deriveState log = .ok (some s)) (happly : applyEvent s event = .ok s') :
    deriveState (log ++ [event]) = .ok (some s') := by
  cases log with
  | nil => simp [deriveState] at hs
  | cons first rest => exact deriveState_append_singleton.mpr ⟨s, hs, happly⟩

/-! ### The engine of the examples -/

/-- The signature of an accept. -/
def acceptBytes : List UInt8 :=
  [234, 174, 231, 156, 166, 175, 71, 215, 242, 169, 42, 186, 169, 39, 183, 103, 3, 243, 158,
    208, 154, 165, 102, 101, 104, 84, 176, 233, 184, 219, 65, 160, 23, 91, 120, 252, 69, 248,
    74, 245, 33, 93, 227, 33, 139, 151, 224, 166, 68, 160, 101, 174, 198, 28, 246, 209, 75,
    32, 19, 33, 27, 54, 235, 14]

/-- The signature of the buyer on the quote. -/
def quoteBytes : List UInt8 :=
  [239, 157, 75, 252, 110, 41, 91, 243, 148, 25, 26, 42, 201, 233, 80, 33, 0, 189, 103, 101,
    65, 81, 249, 141, 216, 57, 158, 62, 86, 89, 106, 10, 183, 65, 7, 209, 217, 128, 25, 112,
    141, 76, 196, 187, 176, 182, 179, 173, 244, 240, 243, 252, 211, 101, 116, 19, 2, 158, 184,
    167, 173, 136, 88, 12]

/-- The signature of a decline. -/
def declineBytes : List UInt8 :=
  [254, 129, 212, 18, 156, 158, 226, 226, 192, 51, 62, 174, 115, 153, 45, 52, 0, 29, 25, 102,
    17, 107, 16, 50, 5, 171, 193, 205, 189, 217, 192, 180, 218, 83, 246, 207, 248, 111, 0, 89,
    214, 48, 66, 218, 109, 197, 206, 199, 47, 65, 185, 131, 109, 37, 52, 159, 111, 60, 248,
    136, 175, 224, 112, 10]

/-- The signature in the seller's header. -/
def headerBytes : List UInt8 :=
  [250, 213, 238, 9, 142, 180, 131, 168, 43, 137, 237, 106, 207, 255, 139, 128, 228, 65, 42,
    199, 103, 127, 29, 92, 248, 71, 250, 123, 61, 63, 132, 72, 195, 150, 33, 225, 159, 63,
    228, 176, 112, 244, 99, 47, 144, 159, 211, 99, 145, 142, 154, 172, 47, 136, 54, 11, 142,
    144, 136, 228, 58, 234, 130, 8]

def clientBytes : List (List UInt8) := [acceptBytes, quoteBytes, declineBytes, headerBytes]

/-- The engine of the first negotiation, where the signatures of the clients verify. -/
abbrev clientEnv : EngineEnv :=
  sampleEngineEnv .null (clientBytes.map (fun bytes => js "ed25519:" ++ base64Text bytes) ++
    firstNegotiation.signatures)

/-- A key pair whose library is asked for one signature. -/
def sampleKeypair (bytes : List UInt8) (hbytes : bytes ∈ clientBytes) (encoded : JsString)
    (publicKey : PublicKey) (hspace : (32 : CodeUnit) ∉ encoded)
    (hdecodes : clientEnv.didToPublicKey (js "did:key:z" ++ encoded) = some publicKey) :
    Keypair clientEnv.toCrypto where
  publicKey := publicKey
  encoded := encoded
  signAsync _ := bytes
  length_signAsync _ := by
    have hlength : ∀ bytes ∈ clientBytes, bytes.length = 64 := by decide
    exact hlength bytes hbytes
  space_notMem_encoded := hspace
  decodes := hdecodes
  verifies _ := decide_eq_true (List.mem_append_left _ (List.mem_map_of_mem hbytes))

def buyerKeypair (bytes : List UInt8) (hbytes : bytes ∈ clientBytes) :
    Keypair clientEnv.toCrypto :=
  sampleKeypair bytes hbytes (js "6Mkr8RQEcbgjhdqGMpTQb3ceSbZnGzXzzKdjKW6W2RMTiz6")
    Settlement.sampleBuyerKey (by decide +kernel) (by decide +kernel)

def sellerKeypair (bytes : List UInt8) (hbytes : bytes ∈ clientBytes) :
    Keypair clientEnv.toCrypto :=
  sampleKeypair bytes hbytes (js "6Mkj5973m6S5MtxyapnWNKeFRjtnNGn9g77Aua5FPxk6JDU")
    Settlement.sampleSellerKey (by decide +kernel) (by decide +kernel)

/-- The run of the first negotiation as far as its first `n` steps. -/
abbrev clientLabels (n : ℕ) : List EngineLabel :=
  (.addListing sampleListing :: firstNegotiation.labels 0).take n

abbrev clientRun (n : ℕ) : EngineState InMemoryEventStore :=
  run (EngineState.step clientEnv) EngineState.empty (clientLabels n)

abbrev clientMoment : Moment := firstNegotiation.moment firstNegotiation.settled

/-- After nine steps there is an offer, after fourteen the accepted quote is pending. -/
theorem clientRun_ready : ∀ n ∈ [9, 14],
    (run (EngineState.step clientEnv) (EngineState.empty : EngineState InMemoryEventStore)
      (clientLabels n)).task 9 = .idle ∧
    (run (EngineState.step clientEnv) (EngineState.empty : EngineState InMemoryEventStore)
      (clientLabels n)).manager.startsAtOnce clientEnv.maxQueueSize firstNegotiation.rfqId =
        true ∧
    clientMoment.eventId ∉ (run (EngineState.step clientEnv)
      (EngineState.empty : EngineState InMemoryEventStore)
        (clientLabels n)).manager.store.seenEventIds := by
  simp only [← Task.isIdle_iff]
  decide +kernel

/-- 2026-03-01T12:05:00Z -/
def quoteExpiry : ℤ := 1772366700000

theorem pending_sample : ∃ s q,
    ((run (EngineState.step clientEnv) (EngineState.empty : EngineState InMemoryEventStore)
      (clientLabels 14)).manager.getSession clientMoment.now firstNegotiation.rfqId).1 =
        .ok (some s) ∧
      s.state = .commitPending ∧ s.rfq.buyer = Settlement.sampleBuyer ∧
      s.selectedSeller = some Settlement.sampleSeller ∧ s.buyerSignature = none ∧
      s.lastEventId = firstNegotiation.accepted ∧
      hasReached clientMoment.now (dateParse clientEnv.legacyDate s.rfq.deadline) = false ∧
      s.unsignedQuote = some (.obj (quoteMembers q)) ∧
      hasReached clientMoment.now (dateParse clientEnv.legacyDate q.expiresAt) = false := by
  have hread : ((run (EngineState.step clientEnv)
      (EngineState.empty : EngineState InMemoryEventStore) (clientLabels 14)).manager.getSession
        clientMoment.now firstNegotiation.rfqId).1.toOption.join.any (fun s =>
          decide (s.state = .commitPending ∧ s.rfq.buyer = Settlement.sampleBuyer ∧
            s.selectedSeller = some Settlement.sampleSeller ∧ s.buyerSignature = none ∧
            s.lastEventId = firstNegotiation.accepted ∧
            hasReached clientMoment.now (dateParse clientEnv.legacyDate s.rfq.deadline) = false ∧
            (JsValue.asStr (JsValue.get? s.unsignedQuote (js "expires_at"))).bind
              (dateParse clientEnv.legacyDate) = some quoteExpiry)) = true := by
    decide +kernel
  obtain ⟨s, hs, htest⟩ := exists_session hread
  obtain ⟨hstate, hbuyer, hseller, hunsigned, hrevision, hdeadline, hexpires⟩ :=
    of_decide_eq_true htest
  have he := EngineState.run_inv_true clientEnv (σ := InMemoryEventStore) (clientLabels 14)
  have hderive : deriveState (logOf (clientRun 14).history firstNegotiation.rfqId) =
      .ok (some s) := by
    rw [← he.log, ← (he.consistent.getSession clientMoment.now _).1]
    exact hs
  obtain ⟨q, offer, hcycle⟩ := he.journal.cycle hderive (.inl hstate)
  have hexpiry : dateParse clientEnv.legacyDate q.expiresAt = some quoteExpiry := by
    rw [hcycle.unsignedQuote] at hexpires
    exact hexpires
  refine ⟨s, q, hs, hstate, hbuyer, hseller, hunsigned, hrevision, hdeadline, hcycle.unsignedQuote,
    ?_⟩
  rw [hexpiry]
  decide

/-! ### Accept -/

/-- The session that an accept leaves. -/
def acceptedSession (s : DerivedSession) (m : Moment) (timestamp sellerDid offerId : JsString)
    (q : SignedQuote) : DerivedSession :=
  { s with
    state := .commitPending
    lastEventId := m.eventId
    selectedSeller := some sellerDid
    selectedOfferId := some offerId
    quoteRevision := s.quoteRevision + 1
    totalAcceptAttempts := s.totalAcceptAttempts + 1
    acceptAttemptsBySeller := s.acceptAttemptsBySeller.increment sellerDid
    unsignedQuote := some (.obj (quoteMembers q))
    commitPendingAt := some timestamp
    buyerSignature := none
    sellerSignature := none }

def acceptedEvent (s : DerivedSession) (m : Moment) (r timestamp sellerDid offerId : JsString)
    (q : SignedQuote) : NegotiationEvent where
  eventId := m.eventId
  rfqId := r
  type := .winnerSelected
  timestamp := timestamp
  actor := s.rfq.buyer
  payload := [(js "seller", .str sellerDid), (js "offer_id", .str offerId),
    (js "quote", .obj (quoteMembers q))]

theorem applyEvent_accepted {m : Moment} {timestamp sellerDid offerId : JsString}
    {q : SignedQuote} {offer : RecordedOffer} (hstate : s.state = .negotiating)
    (hoffer : findOffer s.offers offerId = some offer) (hseller : offer.seller = sellerDid) :
    applyEvent s (acceptedEvent s m r timestamp sellerDid offerId q) =
      .ok (acceptedSession s m timestamp sellerDid offerId q) := by
  have hsellerText : str (acceptedEvent s m r timestamp sellerDid offerId q).payload (js "seller")
      m.eventId = .ok sellerDid := rfl
  have hofferText : str (acceptedEvent s m r timestamp sellerDid offerId q).payload
      (js "offer_id") m.eventId = .ok offerId := rfl
  have hquote : optObject (acceptedEvent s m r timestamp sellerDid offerId q).payload
      (js "quote") = some (.obj (quoteMembers q)) := rfl
  have htype : (acceptedEvent s m r timestamp sellerDid offerId q).type = .winnerSelected := rfl
  have hid : (acceptedEvent s m r timestamp sellerDid offerId q).eventId = m.eventId := rfl
  have hactor : (acceptedEvent s m r timestamp sellerDid offerId q).actor = s.rfq.buyer := rfl
  simp only [applyEvent, htype, hstate, isValidTransition, orThrow, applyPayload,
    applyWinnerSelected, hid, hsellerText, hofferText, hquote, hactor, hoffer, hseller, ensure,
    if_true, Option.some_or, Bind.bind, Except.bind, Pure.pure, Except.pure]
  rfl

theorem acceptTarget_accept {k : Keypair env.toCrypto}
    {envelopeId sellerDid offerId revision : JsString} {issued later : ℤ}
    {envelope : ControlEnvelope}
    (he : k.accept envelopeId r sellerDid offerId revision issued later = some envelope) :
    envelope.action = .accept ∧ envelope.sessionRevision = revision ∧
      acceptTarget envelope = .ok (sellerDid, offerId) := by
  simp only [Keypair.accept, Keypair.controlEnvelope, Option.bind_eq_bind,
    Option.bind_eq_some_iff, Option.pure_def, Option.some.injEq] at he
  obtain ⟨issuedAt, -, expiresAt, -, rfl⟩ := he
  exact ⟨rfl, rfl, rfl⟩

/-- In any reachable state, a buyer whose client accepts an offer of the session as it is gets
the offer selected: the quote that the engine would make of the offer is pending from then on. -/
theorem accept_completes (env : EngineEnv) (is : List EngineLabel) (r : JsString) (t : CallId)
    (k : Keypair env.toCrypto) (m₀ m₁ m₂ : Moment) {s : DerivedSession} {offer : RecordedOffer}
    {q : SignedQuote} {envelope : ControlEnvelope}
    {envelopeId sellerDid offerId : JsString} {issued later : ℤ}
    (hs : ((run (EngineState.step env) (EngineState.empty : EngineState σ) is).manager.getSession
      m₀.now r).1 = .ok (some s)) (hstate : s.state = .negotiating)
    (hbuyer : s.rfq.buyer = k.did)
    (hidle : (run (EngineState.step env) (EngineState.empty : EngineState σ) is).task t = .idle)
    (hfree : (run (EngineState.step env) (EngineState.empty : EngineState σ)
      is).manager.startsAtOnce env.maxQueueSize r = true)
    (henvelope : k.accept envelopeId r sellerDid offerId s.lastEventId issued later =
      some envelope)
    (hid : envelopeId ≠ [] ∧ s.lastEventId ≠ [])
    (hnow : |m₀.now - issued| ≤ MAX_ISSUED_AGE_MS ∧ m₀.now < later + 60000)
    (hunused : (run (EngineState.step env) (EngineState.empty : EngineState σ)
      is).tombstones.isUsed envelopeId = false)
    (hdeadline : hasReached m₂.now (dateParse env.legacyDate s.rfq.deadline) = false)
    (hoffer : offer ∈ s.offers ∧ offer.offerId = offerId ∧ offer.seller = sellerDid)
    (hquote : acceptedQuote env m₂ s offer sellerDid offerId = .ok q)
    (htime : (toISOString m₂.now).isSome)
    (hstores : ∀ event, event.rfqId = r → event.eventId = m₂.eventId → ∃ store, append
      (run (EngineState.step env) (EngineState.empty : EngineState σ) is).manager.store r event =
        .ok store) :
    let e := run (EngineState.step env) (EngineState.empty : EngineState σ) is
    let e' := run (EngineState.step env) e [.request t (controlRequest r envelope) m₀,
      .resume t m₁, .resume t m₂]
    ∃ event s', e'.manager.log r = e.manager.log r ++ [event] ∧ event.type = .winnerSelected ∧
      deriveState (e'.manager.log r) = .ok (some s') ∧ s'.state = .commitPending ∧
      s'.selectedSeller = some sellerDid ∧ s'.selectedOfferId = some offerId ∧
      s'.unsignedQuote = some (.obj (quoteMembers q)) ∧
      e'.task t = .finished (.ok (some ⟨200, quoteMembers q⟩)) := by
  intro e e'
  have he : Inv env (fun _ _ => True) e := EngineState.run_inv_true env is
  have hderive : deriveState (e.manager.log r) = .ok (some s) := by
    rw [← (he.consistent.getSession m₀.now r).1]
    exact hs
  obtain ⟨hmem, rfl, rfl⟩ := hoffer
  have hunique := he.journal.nodup_offerId (he.log r ▸ hderive)
  have hfound : ∀ p : RecordedOffer → Bool, p offer = true →
      (∀ o ∈ s.offers, p o = true → o.offerId = offer.offerId) →
      s.offers.find? p = some offer := by
    intro p hp hpid
    cases hfind : s.offers.find? p with
    | none => exact absurd hp (by simpa using List.find?_eq_none.mp hfind offer hmem)
    | some o =>
      have ho := List.mem_of_find?_eq_some hfind
      rw [unique_offer hunique hmem ho (hpid o ho (List.find?_some hfind))]
  obtain ⟨haction, hrevision, htarget⟩ := acceptTarget_accept henvelope
  obtain ⟨timestamp, htimestamp⟩ := Option.isSome_iff_exists.mp htime
  have hvalid : validateControlEnvelope env m₀.now e.tombstones (.obj envelope.members) .accept r
      k.did (js "invalid_buyer_signature") = .ok envelope := by
    refine (k.validateControlEnvelope_iff hid.1 hid.2 henvelope).mpr ⟨rfl, hnow.1, hnow.2, hunused⟩
  have hcheck : checkControl env m₀.now e.tombstones r envelope (some s) =
      .ok (envelope, s.rfq.buyer) := by
    unfold checkControl
    rw [haction]
    simp [checkAccept, requireSession, orThrow, hbuyer, hvalid, Bind.bind, Except.bind, Pure.pure,
      Except.pure]
  have hnext : afterEnvelope r envelope s.rfq.buyer =
      .ok (.lock r (.accept envelope s.rfq.buyer offer.seller offer.offerId)) := by
    unfold afterEnvelope
    rw [haction]
    simp [htarget, Bind.bind, Except.bind, Pure.pure, Except.pure]
  have hfind : findOffer s.offers offer.offerId = some offer :=
    hfound _ (by simp) (by simp)
  have hrun : ∀ listings, (Callback.accept envelope s.rfq.buyer offer.seller offer.offerId).run env
      m₂ listings r (e.manager.log r) (some s) =
        .ok (.append (acceptedEvent s m₂ r timestamp offer.seller offer.offerId q)) := by
    intro listings
    have hlocked : lockedAccept env m₂ r envelope offer.seller offer.offerId (some s) =
        .ok (acceptedEvent s m₂ r timestamp offer.seller offer.offerId q) := by
      simp only [lockedAccept, requireSession, checkDeadline, assertState, Moment.timestamp,
        bind_eq_ok, orThrow_eq_ok, require_eq_ok, pure_eq_ok]
      refine ⟨s, rfl, (), hdeadline, (), by simp [hstate], (), ⟨offer, hmem, rfl⟩, offer, ?_, (),
        hrevision, q, hquote, timestamp, htimestamp, rfl⟩
      exact hfound _ (by simp) (by simp +contextual)
    simp [Callback.run, hlocked, Except.map]
  have hnew : deriveState (e.manager.log r ++
      [acceptedEvent s m₂ r timestamp offer.seller offer.offerId q]) =
        .ok (some (acceptedSession s m₂ timestamp offer.seller offer.offerId q)) :=
    deriveState_snoc hderive (applyEvent_accepted hstate hfind rfl)
  obtain ⟨hlog, htask⟩ := envelope_appends he hidle hfree hderive m₁ hcheck hnext hrun hnew
    (hstores _ rfl rfl)
  exact ⟨_, _, hlog, rfl, hlog ▸ hnew, rfl, rfl, rfl, rfl, htask⟩

theorem accept_completes_first : ∃ e' : EngineState InMemoryEventStore, ∃ event s' q,
    e'.manager.log firstNegotiation.rfqId =
        (clientRun 9).manager.log firstNegotiation.rfqId ++ [event] ∧
      event.type = .winnerSelected ∧
      deriveState (e'.manager.log firstNegotiation.rfqId) = .ok (some s') ∧
      s'.state = .commitPending ∧ s'.selectedSeller = some Settlement.sampleSeller ∧
      s'.selectedOfferId = some firstNegotiation.offerId ∧
      s'.unsignedQuote = some (.obj (quoteMembers q)) ∧
      e'.task 9 = .finished (.ok (some ⟨200, quoteMembers q⟩)) := by
  have hread : ((run (EngineState.step clientEnv)
      (EngineState.empty : EngineState InMemoryEventStore) (clientLabels 9)).manager.getSession
        clientMoment.now firstNegotiation.rfqId).1.toOption.join.any (fun s =>
          decide (s.state = .negotiating ∧ s.rfq.buyer = Settlement.sampleBuyer ∧
            s.lastEventId = firstNegotiation.offered ∧
            hasReached clientMoment.now (dateParse clientEnv.legacyDate s.rfq.deadline) = false ∧
            ∃ o ∈ s.offers, o.offerId = firstNegotiation.offerId ∧
              o.seller = Settlement.sampleSeller ∧ (acceptedQuote clientEnv clientMoment s o
                Settlement.sampleSeller firstNegotiation.offerId).toOption.isSome)) = true := by
    decide +kernel
  obtain ⟨s, hs, htest⟩ := exists_session hread
  obtain ⟨hstate, hbuyer, hrevision, hdeadline, offer, hoffer, hofferId, hseller, hquote⟩ :=
    of_decide_eq_true htest
  obtain ⟨q, hquote⟩ : ∃ q, acceptedQuote clientEnv clientMoment s offer Settlement.sampleSeller
      firstNegotiation.offerId = .ok q := by
    cases hq : acceptedQuote clientEnv clientMoment s offer Settlement.sampleSeller
        firstNegotiation.offerId with
    | error failure => simp [hq, Except.toOption] at hquote
    | ok q => exact ⟨q, rfl⟩
  obtain ⟨hidle, hfree, hfresh⟩ := clientRun_ready 9 (by decide)
  let k := buyerKeypair acceptBytes (by decide)
  obtain ⟨envelope, henvelope⟩ : ∃ envelope, k.accept firstNegotiation.envelopeId
      firstNegotiation.rfqId Settlement.sampleSeller firstNegotiation.offerId s.lastEventId
        sampleNow sampleNow = some envelope := by
    rw [hrevision]
    exact Option.isSome_iff_exists.mp (by decide +kernel)
  obtain ⟨event, s', h⟩ := accept_completes (σ := InMemoryEventStore) clientEnv (clientLabels 9)
    firstNegotiation.rfqId 9 k clientMoment clientMoment clientMoment hs hstate
    (by rw [hbuyer]; decide +kernel) hidle hfree henvelope
    ⟨by decide +kernel, by rw [hrevision]; decide +kernel⟩ (by decide +kernel)
    (by decide +kernel) hdeadline ⟨hoffer, hofferId, hseller⟩ hquote (by decide +kernel)
    (fun _ => append_fresh hfresh)
  exact ⟨_, event, s', q, h⟩

/-! ### Signatures -/

/-- The body with which a client sends its signature of the quote. -/
def signatureBody (role : SigningRole) (signature : JsString) : Json :=
  .obj [(role.key, .str signature)]

/-- The party whose signature is asked for. -/
def signingParty (s : DerivedSession) : SigningRole → Option JsString
  | .buyer => some s.rfq.buyer
  | .seller => s.selectedSeller

/-- The seller signs after the buyer, who signs once. -/
def SigningTurn (s : DerivedSession) : SigningRole → Prop
  | .buyer => s.buyerSignature = none
  | .seller => s.buyerSignature.isSome

/-- The session that a signature leaves. -/
def signedSession (s : DerivedSession) (m : Moment) (signature : JsString) :
    SigningRole → DerivedSession
  | .buyer => { s with lastEventId := m.eventId, buyerSignature := some signature }
  | .seller => { s with
      state := .committed, lastEventId := m.eventId, sellerSignature := some signature }

/-- The event of a verified signature, which the log of the session takes. -/
theorem finishSign_signed {role : SigningRole} {k : Keypair env.toCrypto} {q : SignedQuote}
    {signature seller : JsString} {m : Moment} (hstate : s.state = .commitPending)
    (hquote : s.unsignedQuote = some (.obj (quoteMembers q)))
    (hselected : s.selectedSeller = some seller)
    (hparty : signingParty s role = some k.did)
    (hsignature : signature = k.signQuote (quoteMembers q))
    (htime : (toISOString m.now).isSome) :
    ∃ event, finishSign env m r role signature s = .ok event ∧ event.rfqId = r ∧
      event.eventId = m.eventId ∧
      applyEvent s event = .ok (signedSession s m signature role) := by
  obtain ⟨timestamp, htimestamp⟩ := Option.isSome_iff_exists.mp htime
  have hverified : ∀ code, verifyQuoteSignature env.toCrypto s.quote signature k.did code =
      .ok () := by
    intro code
    rw [verifyQuoteSignature_eq_ok, hsignature, DerivedSession.quote, hquote]
    exact ⟨k.publicKey, k.didToPublicKey_did, k.verify_signEd25519 _⟩
  cases role with
  | buyer =>
    obtain hbuyer : s.rfq.buyer = k.did := Option.some.inj hparty
    refine ⟨⟨m.eventId, r, .quoteSigned, timestamp, s.rfq.buyer, defined [(js "seller",
      some (.str seller)), (js "buyer_signature", some (.str signature))]⟩, ?_, rfl, rfl, ?_⟩
    · simp [finishSign, finishQuoteSign, hbuyer, hverified, Moment.timestamp, htimestamp, orThrow,
        hselected, Bind.bind, Except.bind, Pure.pure, Except.pure]
    · have hsellerText : ∀ id, str (defined [(js "seller", some (.str seller)),
          (js "buyer_signature", some (.str signature))]) (js "seller") id = .ok seller :=
        fun _ => rfl
      have hsignatureText : ∀ id, str (defined [(js "seller", some (.str seller)),
          (js "buyer_signature", some (.str signature))]) (js "buyer_signature") id =
            .ok signature := fun _ => rfl
      simp [applyEvent, hstate, isValidTransition, orThrow, applyPayload, applyQuoteSigned,
        ensureSelected, hsellerText, hsignatureText, hselected, ensure, signedSession, Bind.bind,
        Except.bind, Pure.pure, Except.pure]
  | seller =>
    obtain rfl : seller = k.did := by
      have hsame := hselected.symm.trans hparty
      simpa using hsame
    refine ⟨⟨m.eventId, r, .quoteCommitted, timestamp, k.did, [(js "seller", .str k.did),
      (js "seller_signature", .str signature)]⟩, ?_, rfl, rfl, ?_⟩
    · simp [finishSign, finishCosign, hselected, hverified, Moment.timestamp, htimestamp, orThrow,
        Bind.bind, Except.bind, Pure.pure, Except.pure]
    · have hsellerText : ∀ id, str [(js "seller", Json.str k.did),
          (js "seller_signature", .str signature)] (js "seller") id = .ok k.did := fun _ => rfl
      have hsignatureText : ∀ id, str [(js "seller", Json.str k.did),
          (js "seller_signature", .str signature)] (js "seller_signature") id =
            .ok signature := fun _ => rfl
      simp [applyEvent, hstate, isValidTransition, orThrow, applyPayload, applyQuoteCommitted,
        ensureSelected, ensureActorSelected, hsellerText, hsignatureText, hselected, ensure,
        signedSession, Bind.bind, Except.bind, Pure.pure, Except.pure]

/-- The checks of the signing routes, before the lock and under it, let the party in. -/
theorem sign_starts {role : SigningRole} {k : Keypair env.toCrypto} {q : SignedQuote}
    {payload : ByteArray} {now : ℤ} (hstate : s.state = .commitPending)
    (hquote : s.unsignedQuote = some (.obj (quoteMembers q)))
    (hparty : signingParty s role = some k.did) (hturn : SigningTurn s role)
    (hdeadline : hasReached now (dateParse env.legacyDate s.rfq.deadline) = false)
    (hexpires : hasReached now (dateParse env.legacyDate q.expiresAt) = false) :
    checkSigner env (k.signEd25519 payload) (some s) role = .ok () ∧
      ∀ m listings log, m.now = now →
        (Callback.sign role (k.signEd25519 payload)).run env m listings r log (some s) =
          .ok (.verify role (k.signEd25519 payload) s) := by
  have hsignable : ∀ expired missing, checkSignable env now expired missing s = .ok () := by
    intro expired missing
    have hexpiresAt : JsValue.asStr (JsValue.get? (some (.obj (quoteMembers q)))
        (js "expires_at")) = some q.expiresAt := rfl
    simp [checkSignable, checkDeadline, require, ensure, hdeadline, checkQuoteExpiry, hexpiresAt,
      hexpires, assertState, hstate, hquote, Bind.bind, Except.bind]
  cases role with
  | buyer =>
    obtain hbuyer : s.rfq.buyer = k.did := Option.some.inj hparty
    have hunsigned : s.buyerSignature = none := hturn
    constructor
    · simp [checkSigner, checkQuoteSign, requireSession, orThrow, hbuyer, k.preCheck_signEd25519,
        Bind.bind, Except.bind]
    · rintro m listings log rfl
      simp [Callback.run, lockedQuoteSign, requireSession, orThrow, hsignable, require, ensure,
        hunsigned, Except.map, Bind.bind, Except.bind, Pure.pure, Except.pure]
  | seller =>
    have hseller : s.selectedSeller = some k.did := hparty
    have hsigned : s.buyerSignature.isSome := hturn
    have hnonempty : (some k.did).filter (fun seller => !seller.isEmpty) = some k.did := by
      rw [Option.filter_eq_some_iff]
      exact ⟨rfl, by simpa using k.did_ne_nil⟩
    constructor
    · simp [checkSigner, checkCosign, preSelectedSeller, orThrow, hseller, hnonempty,
        k.preCheck_signEd25519, Bind.bind, Except.bind]
    · rintro m listings log rfl
      simp [Callback.run, lockedCosign, requireSession, orThrow, hsignable, require, ensure,
        hsigned, Except.map, Bind.bind, Except.bind, Pure.pure, Except.pure]

/-- In any reachable state, a party whose turn it is to sign the pending quote gets its signature
recorded before the quote and the deadline expire; that of the seller commits the session. -/
theorem sign_completes (env : EngineEnv) (is : List EngineLabel) (r : JsString) (t : CallId)
    (role : SigningRole) (k : Keypair env.toCrypto) (m₀ m₁ : Moment) {s : DerivedSession}
    {q : SignedQuote}
    (hs : ((run (EngineState.step env) (EngineState.empty : EngineState σ) is).manager.getSession
      m₀.now r).1 = .ok (some s)) (hstate : s.state = .commitPending)
    (hidle : (run (EngineState.step env) (EngineState.empty : EngineState σ) is).task t = .idle)
    (hfree : (run (EngineState.step env) (EngineState.empty : EngineState σ)
      is).manager.startsAtOnce env.maxQueueSize r = true)
    (hquote : s.unsignedQuote = some (.obj (quoteMembers q)))
    (hparty : signingParty s role = some k.did) (hturn : SigningTurn s role)
    (hdeadline : hasReached m₀.now (dateParse env.legacyDate s.rfq.deadline) = false)
    (hexpires : hasReached m₀.now (dateParse env.legacyDate q.expiresAt) = false)
    (htime : (toISOString m₁.now).isSome)
    (hstores : ∀ event, event.rfqId = r → event.eventId = m₁.eventId → ∃ store, append
      (run (EngineState.step env) (EngineState.empty : EngineState σ) is).manager.store r event =
        .ok store) :
    let e := run (EngineState.step env) (EngineState.empty : EngineState σ) is
    let signature := k.signQuote (signedMembers (.obj (quoteMembers q)) s.buyerSignature
      s.sellerSignature)
    let e' := run (EngineState.step env) e
      [.request t (.sign role r (some (signatureBody role signature))) m₀, .resume t m₁]
    ∃ event, e'.manager.log r = e.manager.log r ++ [event] ∧
      deriveState (e'.manager.log r) = .ok (some (signedSession s m₁ signature role)) ∧
      ∃ reply, e'.task t = .finished (.ok (some reply)) ∧ reply.status = 200 := by
  intro e signature e'
  have he : Inv env (fun _ _ => True) e := EngineState.run_inv_true env is
  have hderive : deriveState (e.manager.log r) = .ok (some s) := by
    rw [← (he.consistent.getSession m₀.now r).1]
    exact hs
  obtain ⟨_, offer, hcycle⟩ := he.journal.cycle (he.log r ▸ hderive) (.inl hstate)
  have hsignature : signature = k.signQuote (quoteMembers q) :=
    congrArg k.signEd25519 (quoteSigningPayload_signed env.toCrypto q _ _)
  obtain ⟨hcheck, hrun⟩ : checkSigner env signature (some s) role = .ok () ∧
      ∀ (m : Moment) listings log, m.now = m₀.now → (Callback.sign role signature).run env m
        listings r log (some s) = .ok (.verify role signature s) :=
    sign_starts hstate hquote hparty hturn hdeadline hexpires
  obtain ⟨event, hfinish, hrfq, hid, happly⟩ := finishSign_signed (r := r) hstate hquote
    hcycle.selectedSeller hparty hsignature htime
  obtain ⟨-, -, hstore, hlock⟩ := he.consistent.getSession m₀.now r
  let e₁ := e.setManager (e.manager.getSession m₀.now r).2
  have hlog₁ : e₁.manager.log r = e.manager.log r := congrArg (getAllEvents · r) hstore
  have hbody : signatureOf (signatureBody role signature) role.key = .ok signature := by
    cases role <;> rfl
  have hrequest : e.step env (.request t (.sign role r (some (signatureBody role signature))) m₀) =
      some (e₁.withLock env m₀ t r (.sign role signature)) := by
    have hget : (e.manager.getSession m₀.now r).1 = .ok (some s) := hs
    have hidle : e.task t = .idle := hidle
    simp [EngineState.step, hidle, Request.begin, Segment.after, parseBody, orThrow, hbody,
      EngineState.runSegment, hget, EngineState.thrownError, Except.mapError, hcheck,
      EngineState.proceed, e₁, Bind.bind, Except.bind, Pure.pure, Except.pure]
  have hstarts : e₁.manager.startsAtOnce env.maxQueueSize r = true :=
    (SessionManager.startsAtOnce_congr hlock _ _).trans hfree
  obtain ⟨e₂, hwith, hstore₂, hactive, -⟩ := EngineState.withLock_runs (he.getSession m₀.now r).2
    (hlog₁ ▸ hderive) hstarts m₀ t (.sign role signature)
  have hlog₂ : e₂.manager.log r = e.manager.log r :=
    (congrArg (getAllEvents · r) hstore₂).trans hlog₁
  have hverifying : e₂.runCallback env m₀ t r (.sign role signature) (some s) =
      e₂.setTask t (.verifying r role signature s) := by
    rw [EngineState.runCallback, hrun m₀ _ _ rfl]
  have hresume : (e₂.setTask t (.verifying r role signature s)).step env (.resume t m₁) =
      some ((e₂.setTask t (.verifying r role signature s)).commit env m₁ t r
        (.sign role signature) event) := by
    simp [EngineState.step, EngineState.resume, hfinish]
  have he' : e' = (e₂.setTask t (.verifying r role signature s)).commit env m₁ t r
      (.sign role signature) event := by
    change next (EngineState.step env) (next (EngineState.step env) e _) _ = _
    rw [next_eq hrequest, hwith, hverifying, next_eq hresume]
  have hstores₂ : ∃ store, append e₂.manager.store r event = .ok store := by
    have hsame : e₂.manager.store = e.manager.store := hstore₂.trans hstore
    rw [hsame]
    exact hstores event hrfq hid
  have hnew : deriveState (e₂.manager.log r ++ [event]) =
      .ok (some (signedSession s m₁ signature role)) := by
    rw [hlog₂]
    exact deriveState_snoc hderive happly
  have hactive' : (e₂.setTask t (.verifying r role signature s)).manager.lockTable.activeLocks r =
      true := hactive
  have hfinal : e'.manager.log r = e.manager.log r ++ [event] := by
    rw [he', (EngineState.commit_appends hactive' hnew hstores₂).1]
    exact congrArg (· ++ [event]) hlog₂
  refine ⟨event, hfinal, by rw [hfinal, ← hlog₂, hnew], ?_⟩
  rw [he', (EngineState.commit_appends hactive' hnew hstores₂).2]
  cases role with
  | buyer =>
    refine ⟨⟨200, signedMembers (.obj (quoteMembers q)) (some signature) none⟩, ?_, rfl⟩
    simp [Callback.reply, signedSession, hquote]
  | seller =>
    refine ⟨⟨200, signedMembers (.obj (quoteMembers q)) s.buyerSignature (some signature)⟩, ?_, rfl⟩
    simp [Callback.reply, signedSession, hquote]

theorem sign_completes_first : ∃ e' : EngineState InMemoryEventStore, ∃ event s' signature reply,
    e'.manager.log firstNegotiation.rfqId =
        (clientRun 14).manager.log firstNegotiation.rfqId ++ [event] ∧
      deriveState (e'.manager.log firstNegotiation.rfqId) =
        .ok (some (signedSession s' clientMoment signature .buyer)) ∧
      e'.task 9 = .finished (.ok (some reply)) ∧ reply.status = 200 := by
  obtain ⟨s, q, hs, hstate, hbuyer, -, hunsigned, -, hdeadline, hquote, hexpires⟩ := pending_sample
  obtain ⟨hidle, hfree, hfresh⟩ := clientRun_ready 14 (by decide)
  let k := buyerKeypair quoteBytes (by decide)
  have hparty : signingParty s .buyer = some k.did := by
    rw [signingParty, hbuyer]
    decide +kernel
  obtain ⟨event, hlog, hderive, reply, h⟩ := sign_completes (σ := InMemoryEventStore) clientEnv
    (clientLabels 14) firstNegotiation.rfqId 9 .buyer k clientMoment clientMoment hs hstate hidle
    hfree hquote hparty hunsigned hdeadline hexpires (by decide +kernel)
    (fun _ => append_fresh hfresh)
  exact ⟨_, event, s, _, reply, hlog, hderive, h⟩

/-! ### Decline -/

/-- The session that a decline leaves. -/
def declinedSession (s : DerivedSession) (m : Moment) : DerivedSession :=
  { s with
    state := .negotiating
    lastEventId := m.eventId
    selectedSeller := none
    selectedOfferId := none
    unsignedQuote := none
    buyerSignature := none
    sellerSignature := none
    commitPendingAt := none }

def declinedEvent (m : Moment) (r timestamp seller : JsString) : NegotiationEvent where
  eventId := m.eventId
  rfqId := r
  type := .cosignDeclined
  timestamp := timestamp
  actor := seller
  payload := [(js "seller", .str seller)]

theorem applyEvent_declined {m : Moment} {timestamp seller : JsString}
    (hstate : s.state = .commitPending) (hseller : s.selectedSeller = some seller) :
    applyEvent s (declinedEvent m r timestamp seller) = .ok (declinedSession s m) := by
  have hsellerText : ∀ id, str [(js "seller", Json.str seller)] (js "seller") id = .ok seller :=
    fun _ => rfl
  simp [applyEvent, declinedEvent, hstate, isValidTransition, orThrow, applyPayload, applyRollback,
    ensureSelected, ensureActorSelected, hsellerText, hseller, ensure, declinedSession, Bind.bind,
    Except.bind, Pure.pure, Except.pure]

/-- In any reachable state, the selected seller of a pending quote gets out of it with the decline
of its client, made for the session as it is. -/
theorem decline_completes (env : EngineEnv) (is : List EngineLabel) (r : JsString) (t : CallId)
    (k : Keypair env.toCrypto) (m₀ m₁ m₂ : Moment) {s : DerivedSession}
    {envelope : ControlEnvelope} {envelopeId : JsString} {issued later : ℤ}
    (hs : ((run (EngineState.step env) (EngineState.empty : EngineState σ) is).manager.getSession
      m₀.now r).1 = .ok (some s)) (hstate : s.state = .commitPending)
    (hseller : s.selectedSeller = some k.did)
    (hidle : (run (EngineState.step env) (EngineState.empty : EngineState σ) is).task t = .idle)
    (hfree : (run (EngineState.step env) (EngineState.empty : EngineState σ)
      is).manager.startsAtOnce env.maxQueueSize r = true)
    (henvelope : k.decline envelopeId r k.did s.lastEventId issued later = some envelope)
    (hid : envelopeId ≠ [] ∧ s.lastEventId ≠ [])
    (hnow : |m₀.now - issued| ≤ MAX_ISSUED_AGE_MS ∧ m₀.now < later + 60000)
    (hunused : (run (EngineState.step env) (EngineState.empty : EngineState σ)
      is).tombstones.isUsed envelopeId = false)
    (hdeadline : hasReached m₂.now (dateParse env.legacyDate s.rfq.deadline) = false)
    (htime : (toISOString m₂.now).isSome)
    (hstores : ∀ event, event.rfqId = r → event.eventId = m₂.eventId → ∃ store, append
      (run (EngineState.step env) (EngineState.empty : EngineState σ) is).manager.store r event =
        .ok store) :
    let e := run (EngineState.step env) (EngineState.empty : EngineState σ) is
    let e' := run (EngineState.step env) e [.request t (controlRequest r envelope) m₀,
      .resume t m₁, .resume t m₂]
    ∃ event, e'.manager.log r = e.manager.log r ++ [event] ∧ event.type = .cosignDeclined ∧
      deriveState (e'.manager.log r) = .ok (some (declinedSession s m₂)) ∧
      e'.task t = .finished (.ok (some (declineReply r (declinedSession s m₂)))) := by
  intro e e'
  have he : Inv env (fun _ _ => True) e := EngineState.run_inv_true env is
  have hderive : deriveState (e.manager.log r) = .ok (some s) := by
    rw [← (he.consistent.getSession m₀.now r).1]
    exact hs
  obtain ⟨timestamp, htimestamp⟩ := Option.isSome_iff_exists.mp htime
  have hvalid : validateControlEnvelope env m₀.now e.tombstones (.obj envelope.members) .decline r
      k.did (js "invalid_seller_signature") = .ok envelope :=
    (k.validateControlEnvelope_iff hid.1 hid.2 henvelope).mpr ⟨rfl, hnow.1, hnow.2, hunused⟩
  have hselected : (some k.did).filter (fun seller => !seller.isEmpty) = some k.did := by
    rw [Option.filter_eq_some_iff]
    exact ⟨rfl, by simpa using k.did_ne_nil⟩
  have haction : envelope.action = .decline ∧ envelope.sessionRevision = s.lastEventId := by
    simp only [Keypair.decline, Keypair.controlEnvelope, Option.bind_eq_bind,
      Option.bind_eq_some_iff, Option.pure_def, Option.some.injEq] at henvelope
    obtain ⟨issuedAt, -, expiresAt, -, rfl⟩ := henvelope
    exact ⟨rfl, rfl⟩
  have hcheck : checkControl env m₀.now e.tombstones r envelope (some s) =
      .ok (envelope, k.did) := by
    unfold checkControl
    rw [haction.1]
    simp [checkDecline, preSelectedSeller, orThrow, hseller, hselected, hvalid, Bind.bind,
      Except.bind, Pure.pure, Except.pure]
  have hnext : afterEnvelope r envelope k.did = .ok (.lock r (.decline envelope k.did)) := by
    unfold afterEnvelope
    rw [haction.1]
  have hrun : ∀ listings, (Callback.decline envelope k.did).run env m₂ listings r
      (e.manager.log r) (some s) = .ok (.append (declinedEvent m₂ r timestamp k.did)) := by
    intro listings
    have hlocked : lockedDecline env m₂ r envelope k.did (some s) =
        .ok (declinedEvent m₂ r timestamp k.did) := by
      simp only [lockedDecline, requireSession, checkDeadline, assertState, Moment.timestamp,
        bind_eq_ok, orThrow_eq_ok, require_eq_ok, pure_eq_ok]
      exact ⟨s, rfl, (), hdeadline, (), by simp [hstate], k.did, hseller ▸ hselected, (), rfl, (),
        haction.2, timestamp, htimestamp, rfl⟩
    simp [Callback.run, hlocked, Except.map]
  have hnew : deriveState (e.manager.log r ++ [declinedEvent m₂ r timestamp k.did]) =
      .ok (some (declinedSession s m₂)) := deriveState_snoc hderive (applyEvent_declined hstate hseller)
  obtain ⟨hlog, htask⟩ := envelope_appends he hidle hfree hderive m₁ hcheck hnext hrun hnew
    (hstores _ rfl rfl)
  exact ⟨_, hlog, rfl, hlog ▸ hnew, htask⟩

theorem decline_completes_first : ∃ e' : EngineState InMemoryEventStore, ∃ event s',
    e'.manager.log firstNegotiation.rfqId =
        (clientRun 14).manager.log firstNegotiation.rfqId ++ [event] ∧
      event.type = .cosignDeclined ∧
      deriveState (e'.manager.log firstNegotiation.rfqId) =
        .ok (some (declinedSession s' clientMoment)) ∧
      e'.task 9 = .finished (.ok (some (declineReply firstNegotiation.rfqId
        (declinedSession s' clientMoment)))) := by
  obtain ⟨s, q, hs, hstate, -, hseller, -, hrevision, hdeadline, -, -⟩ := pending_sample
  obtain ⟨hidle, hfree, hfresh⟩ := clientRun_ready 14 (by decide)
  let k := sellerKeypair declineBytes (by decide)
  obtain ⟨envelope, henvelope⟩ : ∃ envelope, k.decline
      (js "5d0c1d62-6a7e-4f0e-9a53-9f6a6b1f2c11") firstNegotiation.rfqId k.did s.lastEventId
        sampleNow sampleNow = some envelope := by
    rw [hrevision]
    exact Option.isSome_iff_exists.mp (by decide +kernel)
  obtain ⟨event, h⟩ := decline_completes (σ := InMemoryEventStore) clientEnv (clientLabels 14)
    firstNegotiation.rfqId 9 k clientMoment clientMoment clientMoment hs hstate
    (by rw [hseller]; decide +kernel) hidle hfree henvelope
    ⟨by decide +kernel, by rw [hrevision]; decide +kernel⟩ (by decide +kernel)
    (by decide +kernel) hdeadline (by decide +kernel) (fun _ => append_fresh hfresh)
  exact ⟨_, event, s, h⟩

/-! ### Reading the quote -/

/-- In any reachable state, the buyer and the selected seller of a quote read it, with the
signatures that it has by then, under a header that their client made within the last minute. -/
theorem read_completes (env : EngineEnv) (is : List EngineLabel) (r : JsString) (t : CallId)
    (k : Keypair env.toCrypto) (m₀ m₁ : Moment) {s : DerivedSession} {header : JsString} {issued : ℤ}
    (hs : ((run (EngineState.step env) (EngineState.empty : EngineState σ) is).manager.getSession
      m₀.now r).1 = .ok (some s)) (hstate : s.state = .commitPending ∨ s.state = .committed)
    (hparty : s.rfq.buyer = k.did ∨ s.selectedSeller = some k.did)
    (hidle : (run (EngineState.step env) (EngineState.empty : EngineState σ) is).task t = .idle)
    (hfree : (run (EngineState.step env) (EngineState.empty : EngineState σ)
      is).manager.startsAtOnce env.maxQueueSize r = true)
    (hheader : k.buildAuthHeader issued = some header)
    (hnow : |m₀.now - issued| ≤ MAX_AUTH_DRIFT_MS) :
    let e := run (EngineState.step env) (EngineState.empty : EngineState σ) is
    let e' := run (EngineState.step env) e [.request t (.readQuote r (some header)) m₀, .resume t m₁]
    ∃ q, s.unsignedQuote = some (.obj (quoteMembers q)) ∧
      e'.manager.log r = e.manager.log r ∧
      e'.task t = .finished (.ok (some ⟨200, signedMembers (.obj (quoteMembers q)) s.buyerSignature
        s.sellerSignature⟩)) := by
  intro e e'
  have he : Inv env (fun _ _ => True) e := EngineState.run_inv_true env is
  have hderive : deriveState (e.manager.log r) = .ok (some s) := by
    rw [← (he.consistent.getSession m₀.now r).1]
    exact hs
  obtain ⟨q, offer, hcycle⟩ := he.journal.cycle (he.log r ▸ hderive) hstate
  have hcaller : authenticateCaller env.toCrypto m₀.now (some header) = .ok k.did := by
    rw [k.authenticateCaller_buildAuthHeader hheader, if_pos hnow]
  let e₁ := e.setTask t (.suspended (.readQuote r k.did))
  have hrequest : e.step env (.request t (.readQuote r (some header)) m₀) = some e₁ := by
    have hidle : e.task t = .idle := hidle
    simp [EngineState.step, hidle, Request.begin, hcaller, EngineState.runSegment,
      EngineState.proceed, e₁, Bind.bind, Except.bind, Pure.pure, Except.pure]
  have hresume : e₁.step env (.resume t m₁) =
      some (e₁.withLock env m₁ t r (.readQuote k.did)) := by
    simp [EngineState.step, EngineState.resume, e₁, Continuation.resume, Continuation.tombstone,
      EngineState.writeTombstone, EngineState.runSegment, EngineState.proceed]
  have hinv : Inv env (fun _ _ => True) e₁ := by
    have hnext := inv_next he (.request t (.readQuote r (some header)) m₀)
    rwa [next_eq hrequest] at hnext
  obtain ⟨e₂, hwith, hstore, -, -⟩ := EngineState.withLock_runs hinv hderive hfree m₁ t
    (.readQuote k.did)
  have hread : lockedQuoteRead k.did (some s) = .ok ⟨200, signedMembers (.obj (quoteMembers q))
      s.buyerSignature s.sellerSignature⟩ := by
    simp only [lockedQuoteRead, requireSession, bind_eq_ok, orThrow_eq_ok, require_eq_ok,
      pure_eq_ok]
    refine ⟨s, rfl, (), by simpa using hstate, (), ?_, _, hcycle.unsignedQuote, rfl⟩
    rcases hparty with hbuyer | hseller
    · exact .inl hbuyer.symm
    · exact .inr hseller.symm
  have hrun : e₂.runCallback env m₁ t r (.readQuote k.did) (some s) =
      e₂.settle env t (.ok (some ⟨200, signedMembers (.obj (quoteMembers q)) s.buyerSignature
        s.sellerSignature⟩)) := by
    simp [EngineState.runCallback, Callback.run, hread, Except.map]
  have he' : e' = e₂.settle env t (.ok (some ⟨200, signedMembers (.obj (quoteMembers q))
      s.buyerSignature s.sellerSignature⟩)) := by
    change next (EngineState.step env) (next (EngineState.step env) e _) _ = _
    rw [next_eq hrequest, next_eq hresume, hwith, hrun]
  refine ⟨q, hcycle.unsignedQuote, ?_, by rw [he', EngineState.settle_task]⟩
  rw [he']
  exact congrArg (getAllEvents · r) ((EngineState.settle_store _ t _).trans hstore)

theorem read_completes_first : ∃ e' : EngineState InMemoryEventStore, ∃ s : DerivedSession, ∃ q,
    s.unsignedQuote = some (.obj (quoteMembers q)) ∧
      e'.manager.log firstNegotiation.rfqId = (clientRun 14).manager.log firstNegotiation.rfqId ∧
      e'.task 9 = .finished (.ok (some ⟨200, signedMembers (.obj (quoteMembers q))
        s.buyerSignature s.sellerSignature⟩)) := by
  obtain ⟨s, _, hs, hstate, -, hseller, -, -, -, -, -⟩ := pending_sample
  obtain ⟨hidle, hfree, -⟩ := clientRun_ready 14 (by decide)
  let k := sellerKeypair headerBytes (by decide)
  obtain ⟨header, hheader⟩ := Option.isSome_iff_exists.mp
    (show (k.buildAuthHeader sampleNow).isSome = true by decide +kernel)
  obtain ⟨q, h⟩ := read_completes (σ := InMemoryEventStore) clientEnv (clientLabels 14)
    firstNegotiation.rfqId 9 k clientMoment clientMoment hs (.inl hstate)
    (.inr (by rw [hseller]; decide +kernel)) hidle hfree hheader (by decide +kernel)
  exact ⟨_, s, q, h⟩

end GhostBazaar.Agents
