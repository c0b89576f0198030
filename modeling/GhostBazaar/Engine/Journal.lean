import GhostBazaar.Engine.EngineState
import GhostBazaar.Settlement.SettlementSound
import Mathlib.Data.List.Infix

/-! The journal of a run: every append with the checks that its request passed before,
each at its own moment. -/
namespace GhostBazaar.Engine
open Js GhostBazaar.Core Settlement

/-! ### Histories -/

def logOf (h : List Entry) (r : JsString) : List NegotiationEvent :=
  (h.filter fun en => en.rfqId = r).map Entry.event

@[simp] theorem logOf_nil (r : JsString) : logOf [] r = [] := rfl

theorem logOf_append (h h' : List Entry) (r : JsString) :
    logOf (h ++ h') r = logOf h r ++ logOf h' r := by
  simp [logOf]

theorem logOf_snoc (h : List Entry) (en : Entry) (r : JsString) :
    logOf (h ++ [en]) r = if r = en.rfqId then logOf h r ++ [en.event] else logOf h r := by
  rw [logOf_append]
  by_cases hr : r = en.rfqId
  · simp [logOf, hr]
  · simp [logOf, hr, Ne.symm hr]

theorem mem_logOf {h : List Entry} {r : JsString} {event : NegotiationEvent} :
    event ∈ logOf h r ↔ ∃ en ∈ h, en.rfqId = r ∧ en.event = event := by
  simp [logOf, and_assoc]

/-- Each event of a log is an entry, appended to the events before it. -/
theorem exists_entry_of_logOf {h : List Entry} {r : JsString}
    {before after : List NegotiationEvent} {event : NegotiationEvent}
    (hlog : logOf h r = before ++ event :: after) :
    ∃ h₁ en h₂, h = h₁ ++ en :: h₂ ∧ en.rfqId = r ∧ en.event = event ∧ logOf h₁ r = before := by
  rw [logOf, List.map_eq_append_iff] at hlog
  obtain ⟨l₁, l₂, hfilter, hbefore, hevent⟩ := hlog
  rw [List.map_eq_cons_iff] at hevent
  obtain ⟨en, l₃, rfl, hen, -⟩ := hevent
  rw [List.filter_eq_append_iff] at hfilter
  obtain ⟨h₁, h₂, rfl, hl₁, hcons⟩ := hfilter
  rw [List.filter_eq_cons_iff] at hcons
  obtain ⟨skipped, h₃, rfl, hskipped, hr, -⟩ := hcons
  refine ⟨h₁ ++ skipped, en, h₃, by rw [List.append_assoc], by simpa using hr, hen, ?_⟩
  have hnone : logOf skipped r = [] := by
    rw [logOf, List.map_eq_nil_iff, List.filter_eq_nil_iff]
    exact hskipped
  rw [logOf_append, hnone, List.append_nil, ← hbefore, ← hl₁, logOf]

/-- The session had this state at some moment of the history. -/
def Seen (h : List Entry) (r : JsString) (s : DerivedSession) : Prop :=
  ∃ h₁, h₁ <+: h ∧ deriveState (logOf h₁ r) = .ok (some s)

theorem Seen.mono {h h' : List Entry} {r : JsString} {s : DerivedSession} (hs : Seen h r s)
    (hp : h <+: h') : Seen h' r s := by
  obtain ⟨h₁, hp₁, hs⟩ := hs
  exact ⟨h₁, hp₁.trans hp, hs⟩

theorem Seen.now {h : List Entry} {r : JsString} {s : DerivedSession}
    (hs : deriveState (logOf h r) = .ok (some s)) : Seen h r s := ⟨h, List.prefix_rfl, hs⟩

theorem logOf_isPrefix {h h' : List Entry} (hp : h <+: h') (r : JsString) :
    logOf h r <+: logOf h' r := by
  obtain ⟨t, rfl⟩ := hp
  exact ⟨logOf t r, (logOf_append h t r).symm⟩

theorem Seen.rfq_eq {h : List Entry} {r : JsString} {s s' : DerivedSession} (hs : Seen h r s)
    (hs' : deriveState (logOf h r) = .ok (some s')) : s'.rfq = s.rfq := by
  obtain ⟨h₁, hp, hs⟩ := hs
  exact rfq_eq_of_prefix (logOf_isPrefix hp r) hs hs'

theorem Seen.committed {h : List Entry} {r : JsString} {s s' : DerivedSession}
    (hs : Seen h r s) (hs' : deriveState (logOf h r) = .ok (some s'))
    (hstate : s.state = .committed) : ∃ id, s' = { s with lastEventId := id } := by
  obtain ⟨h₁, hp, hs⟩ := hs
  exact committed_of_prefix (logOf_isPrefix hp r) hs hs' hstate

/-! ### What was checked before the lock -/

section

variable (env : EngineEnv) (P : DerivedSession → Members → Prop)
  (answers : List (JsString × JsValue)) (h : List Entry)

/-- The party whose envelope an action asks for. -/
def ControlAction.signer (s : DerivedSession) : ControlAction → Option JsString
  | .accept => some s.rfq.buyer
  | .decline => s.selectedSeller

/-- The envelope was verified for the party that the session named at that time. -/
def Validated (r : JsString) (envelope : ControlEnvelope) (signer : JsString) : Prop :=
  (∃ s, Seen h r s ∧ envelope.action.signer s = some signer) ∧ envelope.rfqId = r ∧
    envelope.SignedBy env signer

/-- The caller was the selected seller of a committed session. -/
def Reports (r : JsString) (s : DerivedSession) : Prop :=
  ∃ callerDid, Seen h r s ∧ checkReporter callerDid (some s) = .ok s

/-- The quote that is settled was verified, from the header or from the committed session. -/
def Fetch.Opened (request : SettlementRequest) (quote : Members) : Fetch → Prop
  | .execute => ∃ now quoteHeader paymentSignature,
      openExecute env now quoteHeader paymentSignature = .ok (request, quote)
  | .settleReport r quoteId => ∃ now s body, Reports h r s ∧
      openReport env now s body = .ok (request, quote, quoteId)

def Settled (log : List NegotiationEvent) : Prop :=
  ∃ event ∈ log, event.type = .settlementConfirmed

/-- The payment was found on the chain, and the session was committed to the quote. `P`
stands for what `/execute` is known to have been given beyond its own checks, as long as
there is something left to record. -/
def Confirmed (r : JsString) (c : Confirmation) : Prop :=
  ∃ fetch request tx, Fetch.Opened env h request c.result.quote fetch ∧
    (request.paymentSignature, tx) ∈ answers ∧
    settleTransaction env.toSettlementEnv request c.result.quote tx = .ok c.result ∧
    match fetch with
    | .execute => c.result.quote.lookup (js "rfq_id") = some (.str r) ∧
        ∃ s, Seen h r s ∧ checkExecute c.result (some s) = .ok c ∧
          (P s c.result.quote ∨ Settled (logOf h r))
    | .settleReport r' quoteId => r' = r ∧ c.route = .settleReport ∧ c.quoteId = quoteId

/-- What a route had checked when it asked for the lock with this callback. -/
def Admitted (r : JsString) : Callback → Prop
  | .createRfq body => (∃ now, checkRfq env now body = .ok ()) ∧
      body.get? (js "rfq_id") = some (.str r)
  | .submitOffer body => ∃ now s, Seen h r s ∧ checkOffer env now r body (some s) = .ok ()
  | .sendCounter body => ∃ now s, Seen h r s ∧ checkCounter env now r body (some s) = .ok ()
  | .accept envelope signer sellerDid offerId => Validated env h r envelope signer ∧
      envelope.action = .accept ∧ acceptTarget envelope = .ok (sellerDid, offerId)
  | .decline envelope signer => Validated env h r envelope signer ∧ envelope.action = .decline
  | .sign role signature => ∃ s, Seen h r s ∧ checkSigner env signature (some s) role = .ok ()
  | .confirm c => Confirmed env P answers h r c
  | .readQuote _ | .expire | .cosignTimeout => True

def Continuation.Checked : Continuation → Prop
  | .createRfq body => ∃ now, checkRfq env now body = .ok ()
  | .submitOffer r body => Admitted env P answers h r (.submitOffer body)
  | .sendCounter r body => Admitted env P answers h r (.sendCounter body)
  | .envelopeVerified r envelope signer | .envelopeValidated r envelope signer =>
    Validated env h r envelope signer
  | .readQuote _ _ | .settleReport _ _ _ => True
  | .reporterChecked r s _ => Reports h r s
  | .fetching fetch request quote => fetch.Opened env h request quote

def Next.Checked : Next → Prop
  | .suspend k => k.Checked env P answers h
  | .lock r callback => Admitted env P answers h r callback

/-- The session is as the callback sees it, and the event is what the callback appends. -/
inductive Produces (r : JsString) (before : Option DerivedSession) :
    Callback → NegotiationEvent → Prop where
  | run (m : Moment) (listings : ListingStore) (callback : Callback) (event : NegotiationEvent)
      (hrun : callback.run env m listings r (logOf h r) before = .ok (.append event)) :
      Produces r before callback event
  | sign (m m' : Moment) (listings : ListingStore) (role : SigningRole) (signature : JsString)
      (s : DerivedSession) (event : NegotiationEvent) (hbefore : before = some s)
      (hrun : (Callback.sign role signature).run env m listings r (logOf h r) (some s) =
        .ok (.verify role signature s))
      (hfinish : finishSign env m' r role signature s = .ok event) :
      Produces r before (.sign role signature) event

/-- The type of the events that a callback appends. -/
def Callback.eventType : Callback → Option EventType
  | .createRfq _ => some .rfqCreated
  | .submitOffer _ => some .offerSubmitted
  | .sendCounter _ => some .counterSent
  | .accept _ _ _ _ => some .winnerSelected
  | .decline _ _ => some .cosignDeclined
  | .sign .buyer _ => some .quoteSigned
  | .sign .seller _ => some .quoteCommitted
  | .readQuote _ => none
  | .confirm _ => some .settlementConfirmed
  | .expire => some .negotiationExpired
  | .cosignTimeout => some .cosignTimeout

/-- An append to a history. -/
structure Recorded (en : Entry) : Prop where
  replays : ∃ s, deriveState (logOf h en.rfqId ++ [en.event]) = .ok (some s)
  produced : ∃ before, deriveState (logOf h en.rfqId) = .ok before ∧
    Produces env h en.rfqId before en.callback en.event
  admitted : Admitted env P answers h en.rfqId en.callback
  rfqId : en.event.rfqId = en.rfqId
  fresh : ∀ other ∈ h, other.event.eventId ≠ en.event.eventId

/-- Every entry of the history was an append to the entries before it. -/
def Journal : Prop := ∀ h₁ en h₂, h = h₁ ++ en :: h₂ → Recorded env P answers h₁ en

end

section

variable {env : EngineEnv} {P : DerivedSession → Members → Prop}
  {answers answers' : List (JsString × JsValue)} {h h' : List Entry} {r : JsString}

/-! ### Monotonicity -/

theorem Validated.mono {envelope : ControlEnvelope} {signer : JsString}
    (hv : Validated env h r envelope signer) (hp : h <+: h') :
    Validated env h' r envelope signer := by
  obtain ⟨⟨s, hs, hsigner⟩, hrest⟩ := hv
  exact ⟨⟨s, hs.mono hp, hsigner⟩, hrest⟩

theorem Reports.mono {s : DerivedSession} (hs : Reports h r s) (hp : h <+: h') :
    Reports h' r s := by
  obtain ⟨callerDid, hseen, hcheck⟩ := hs
  exact ⟨callerDid, hseen.mono hp, hcheck⟩

theorem Settled.mono (hs : Settled (logOf h r)) (hp : h <+: h') : Settled (logOf h' r) := by
  obtain ⟨event, hevent, htype⟩ := hs
  exact ⟨event, (logOf_isPrefix hp r).subset hevent, htype⟩

theorem Fetch.Opened.mono {fetch : Fetch} {request : SettlementRequest} {quote : Members}
    (ho : fetch.Opened env h request quote) (hp : h <+: h') :
    fetch.Opened env h' request quote := by
  cases fetch with
  | execute => exact ho
  | settleReport r quoteId =>
    obtain ⟨now, s, body, hs, hopen⟩ := ho
    exact ⟨now, s, body, hs.mono hp, hopen⟩

theorem Confirmed.mono {c : Confirmation} (hc : Confirmed env P answers h r c)
    (ha : answers ⊆ answers') (hp : h <+: h') : Confirmed env P answers' h' r c := by
  obtain ⟨fetch, request, tx, hopen, hmem, hsettle, hfetch⟩ := hc
  refine ⟨fetch, request, tx, hopen.mono hp, ha hmem, hsettle, ?_⟩
  cases fetch with
  | execute =>
    obtain ⟨hid, s, hs, hcheck, hrest⟩ := hfetch
    exact ⟨hid, s, hs.mono hp, hcheck, hrest.imp_right fun hsettled => hsettled.mono hp⟩
  | settleReport r quoteId => exact hfetch

theorem Admitted.mono {callback : Callback} (hc : Admitted env P answers h r callback)
    (ha : answers ⊆ answers') (hp : h <+: h') : Admitted env P answers' h' r callback := by
  cases callback with
  | submitOffer body | sendCounter body =>
    obtain ⟨now, s, hs, hcheck⟩ := hc
    exact ⟨now, s, hs.mono hp, hcheck⟩
  | accept envelope signer sellerDid offerId => exact ⟨hc.1.mono hp, hc.2⟩
  | decline envelope signer => exact ⟨hc.1.mono hp, hc.2⟩
  | sign role signature =>
    obtain ⟨s, hs, hcheck⟩ := hc
    exact ⟨s, hs.mono hp, hcheck⟩
  | confirm c => exact Confirmed.mono hc ha hp
  | createRfq _ | readQuote _ | expire | cosignTimeout => exact hc

theorem Continuation.Checked.mono {k : Continuation} (hk : k.Checked env P answers h)
    (ha : answers ⊆ answers') (hp : h <+: h') : k.Checked env P answers' h' := by
  cases k with
  | createRfq _ | readQuote _ _ | settleReport _ _ _ => exact hk
  | submitOffer r body =>
    have hk : Admitted env P answers h r (.submitOffer body) := hk
    exact hk.mono ha hp
  | sendCounter r body =>
    have hk : Admitted env P answers h r (.sendCounter body) := hk
    exact hk.mono ha hp
  | envelopeVerified _ _ _ | envelopeValidated _ _ _ => exact Validated.mono hk hp
  | reporterChecked _ _ _ => exact Reports.mono hk hp
  | fetching _ _ _ => exact Fetch.Opened.mono hk hp

theorem Recorded.mono {en : Entry} (hr : Recorded env P answers h en)
    (ha : answers ⊆ answers') : Recorded env P answers' h en :=
  { hr with admitted := hr.admitted.mono ha List.prefix_rfl }

/-! ### What a callback appends -/

theorem appendOrLeave_eq_append {reply : Option Reply} {o : Option NegotiationEvent}
    {event : NegotiationEvent} : appendOrLeave reply o = .append event ↔ o = some event := by
  cases o <;> simp [appendOrLeave]

theorem confirmResult_ok {now : ℤ} {c : Confirmation} {o : Option NegotiationEvent}
    {event : NegotiationEvent} (hc : confirmResult env now c o = .ok (.append event)) :
    o = some event := by
  cases o with
  | none => simp [confirmResult, map_eq_ok] at hc
  | some event' => simpa [confirmResult] using hc

/-- An event comes out of the locked section of the callback. -/
def Callback.Appends (env : EngineEnv) (log : List NegotiationEvent) (r : JsString)
    (before : Option DerivedSession) (event : NegotiationEvent) : Callback → Prop
  | .createRfq body => ∃ m, lockedRfq m r body before = .ok event
  | .submitOffer body => ∃ m listings, lockedOffer env m listings r body before = .ok event
  | .sendCounter body => ∃ m, lockedCounter env m r body before = .ok event
  | .accept envelope _ sellerDid offerId =>
    ∃ m, lockedAccept env m r envelope sellerDid offerId before = .ok event
  | .decline envelope signer => ∃ m, lockedDecline env m r envelope signer before = .ok event
  | .sign .buyer signature => ∃ now m s, lockedQuoteSign env now before = .ok s ∧
      finishQuoteSign env m r signature s = .ok event
  | .sign .seller signature => ∃ now m s, lockedCosign env now before = .ok s ∧
      finishCosign env m r signature s = .ok event
  | .readQuote _ => False
  | .confirm c => ∃ m, lockedConfirm m r c log = .ok (some event)
  | .expire => ∃ m, lockedExpire env m r before = .ok (some event)
  | .cosignTimeout => ∃ m, lockedCosignTimeout env m r before = .ok (some event)

theorem Produces.appends {before : Option DerivedSession} {callback : Callback}
    {event : NegotiationEvent} (hp : Produces env h r before callback event) :
    callback.Appends env (logOf h r) r before event := by
  rcases hp with ⟨m, listings, _, _, hrun⟩ | ⟨m, m', listings, role, signature, s, _, rfl, hrun,
    hfinish⟩
  · cases callback with
    | createRfq body | sendCounter body | accept envelope signer sellerDid offerId
    | decline envelope signer =>
      simp only [Callback.run, map_eq_ok, LockedResult.append.injEq] at hrun
      obtain ⟨_, hlocked, rfl⟩ := hrun
      exact ⟨m, hlocked⟩
    | submitOffer body =>
      simp only [Callback.run, map_eq_ok, LockedResult.append.injEq] at hrun
      obtain ⟨_, hlocked, rfl⟩ := hrun
      exact ⟨m, listings, hlocked⟩
    | sign role signature => cases role <;> simp [Callback.run, map_eq_ok] at hrun
    | readQuote callerDid => simp [Callback.run, map_eq_ok] at hrun
    | confirm c =>
      simp only [Callback.run, bind_eq_ok] at hrun
      obtain ⟨_, hlocked, hrun⟩ := hrun
      exact ⟨m, confirmResult_ok hrun ▸ hlocked⟩
    | expire | cosignTimeout =>
      simp only [Callback.run, map_eq_ok, appendOrLeave_eq_append] at hrun
      obtain ⟨_, hlocked, rfl⟩ := hrun
      exact ⟨m, hlocked⟩
  · cases role with
    | buyer | seller =>
      simp only [Callback.run, map_eq_ok, LockedResult.verify.injEq] at hrun
      obtain ⟨_, hlocked, -, -, rfl⟩ := hrun
      exact ⟨m.now, m', _, hlocked, hfinish⟩

theorem Callback.Appends.eventType {log : List NegotiationEvent}
    {before : Option DerivedSession} {callback : Callback} {event : NegotiationEvent}
    (ha : callback.Appends env log r before event) : callback.eventType = some event.type := by
  cases callback with
  | createRfq body =>
    obtain ⟨m, hlocked⟩ := ha
    rw [Callback.eventType, (lockedRfq_ok hlocked).1]
  | submitOffer body =>
    obtain ⟨m, listings, hlocked⟩ := ha
    rw [Callback.eventType, (lockedOffer_ok hlocked).1]
  | sendCounter body =>
    obtain ⟨m, hlocked⟩ := ha
    rw [Callback.eventType, lockedCounter_ok hlocked]
  | accept envelope signer sellerDid offerId =>
    obtain ⟨m, hlocked⟩ := ha
    obtain ⟨s, q, -, -, -, -, htype, -⟩ := lockedAccept_ok hlocked
    rw [Callback.eventType, htype]
  | decline envelope signer =>
    obtain ⟨m, hlocked⟩ := ha
    obtain ⟨s, -, -, -, htype, -⟩ := lockedDecline_ok hlocked
    rw [Callback.eventType, htype]
  | sign role signature =>
    cases role with
    | buyer =>
      obtain ⟨now, m, s, -, hfinish⟩ := ha
      rw [Callback.eventType, (finishQuoteSign_ok hfinish).2.1]
    | seller =>
      obtain ⟨now, m, s, -, hfinish⟩ := ha
      rw [Callback.eventType, (finishCosign_ok hfinish).2.1]
  | readQuote callerDid => exact ha.elim
  | confirm c =>
    obtain ⟨m, hlocked⟩ := ha
    rw [Callback.eventType, (lockedConfirm_ok hlocked).2.1]
  | expire =>
    obtain ⟨m, hlocked⟩ := ha
    rw [Callback.eventType, (lockedExpire_ok hlocked).1]
  | cosignTimeout =>
    obtain ⟨m, hlocked⟩ := ha
    rw [Callback.eventType, (lockedCosignTimeout_ok hlocked).1]

theorem Recorded.appends {en : Entry} (hr : Recorded env P answers h en)
    {before : Option DerivedSession} (hbefore : deriveState (logOf h en.rfqId) = .ok before) :
    en.callback.Appends env (logOf h en.rfqId) en.rfqId before en.event := by
  obtain ⟨before', hbefore', hproduced⟩ := hr.produced
  obtain rfl : before = before' := by simpa using hbefore.symm.trans hbefore'
  exact hproduced.appends

theorem Recorded.eventType {en : Entry} (hr : Recorded env P answers h en) :
    en.callback.eventType = some en.event.type := by
  obtain ⟨before, -, hproduced⟩ := hr.produced
  exact hproduced.appends.eventType

/-- An event of this type comes from its route, on the session that the log derives. -/
theorem Recorded.rfq {en : Entry} (hr : Recorded env P answers h en)
    {before : Option DerivedSession} (hbefore : deriveState (logOf h en.rfqId) = .ok before)
    (htype : en.event.type = .rfqCreated) : ∃ m body,
      en.callback = .createRfq body ∧ lockedRfq m en.rfqId body before = .ok en.event := by
  have happends := hr.appends hbefore
  have heventType := hr.eventType.trans (congrArg some htype)
  cases hcallback : en.callback with
  | createRfq body =>
    rw [hcallback] at happends
    obtain ⟨m, hlocked⟩ := happends
    exact ⟨m, body, rfl, hlocked⟩
  | sign role signature => cases role <;> simp [hcallback, Callback.eventType] at heventType
  | _ => simp [hcallback, Callback.eventType] at heventType

/-- The event that opens a log comes from the route of RFQs. -/
theorem Recorded.opening {en : Entry} (hr : Recorded env P answers h en)
    (hlog : logOf h en.rfqId = []) {s : DerivedSession} (hs : initialSession en.event = .ok s) :
    ∃ m body, en.callback = .createRfq body ∧
      lockedRfq m en.rfqId body none = .ok en.event := by
  apply hr.rfq
  · rw [hlog]
    rfl
  · exact (initialSession_state hs).2.2.2.2.2.2.2.2.1

theorem Recorded.offer {en : Entry} (hr : Recorded env P answers h en)
    {before : Option DerivedSession} (hbefore : deriveState (logOf h en.rfqId) = .ok before)
    (htype : en.event.type = .offerSubmitted) : ∃ m listings body,
      en.callback = .submitOffer body ∧
        lockedOffer env m listings en.rfqId body before = .ok en.event := by
  have happends := hr.appends hbefore
  have heventType := hr.eventType.trans (congrArg some htype)
  cases hcallback : en.callback with
  | submitOffer body =>
    rw [hcallback] at happends
    obtain ⟨m, listings, hlocked⟩ := happends
    exact ⟨m, listings, body, rfl, hlocked⟩
  | sign role signature => cases role <;> simp [hcallback, Callback.eventType] at heventType
  | _ => simp [hcallback, Callback.eventType] at heventType

theorem Recorded.counter {en : Entry} (hr : Recorded env P answers h en)
    {before : Option DerivedSession} (hbefore : deriveState (logOf h en.rfqId) = .ok before)
    (htype : en.event.type = .counterSent) : ∃ m body,
      en.callback = .sendCounter body ∧
        lockedCounter env m en.rfqId body before = .ok en.event := by
  have happends := hr.appends hbefore
  have heventType := hr.eventType.trans (congrArg some htype)
  cases hcallback : en.callback with
  | sendCounter body =>
    rw [hcallback] at happends
    obtain ⟨m, hlocked⟩ := happends
    exact ⟨m, body, rfl, hlocked⟩
  | sign role signature => cases role <;> simp [hcallback, Callback.eventType] at heventType
  | _ => simp [hcallback, Callback.eventType] at heventType

theorem Recorded.accept {en : Entry} (hr : Recorded env P answers h en)
    {before : Option DerivedSession} (hbefore : deriveState (logOf h en.rfqId) = .ok before)
    (htype : en.event.type = .winnerSelected) : ∃ m envelope signer sellerDid offerId,
      en.callback = .accept envelope signer sellerDid offerId ∧
        lockedAccept env m en.rfqId envelope sellerDid offerId before = .ok en.event := by
  have happends := hr.appends hbefore
  have heventType := hr.eventType.trans (congrArg some htype)
  cases hcallback : en.callback with
  | accept envelope signer sellerDid offerId =>
    rw [hcallback] at happends
    obtain ⟨m, hlocked⟩ := happends
    exact ⟨m, envelope, signer, sellerDid, offerId, rfl, hlocked⟩
  | sign role signature => cases role <;> simp [hcallback, Callback.eventType] at heventType
  | _ => simp [hcallback, Callback.eventType] at heventType

/-- A signature of this party comes from its signing route. -/
theorem Recorded.sign {en : Entry} (hr : Recorded env P answers h en) (role : SigningRole)
    (htype : some en.event.type = (Callback.sign role []).eventType) :
    ∃ signature, en.callback = .sign role signature := by
  have heventType := hr.eventType.trans htype
  cases hcallback : en.callback with
  | sign role' signature =>
    cases role <;> cases role' <;> simp [hcallback, Callback.eventType] at heventType <;>
      exact ⟨signature, rfl⟩
  | _ => cases role <;> simp [hcallback, Callback.eventType] at heventType

theorem Recorded.confirm {en : Entry} (hr : Recorded env P answers h en)
    (htype : en.event.type = .settlementConfirmed) : ∃ c, en.callback = .confirm c := by
  have heventType := hr.eventType.trans (congrArg some htype)
  cases hcallback : en.callback with
  | confirm c => exact ⟨c, rfl⟩
  | sign role signature => cases role <;> simp [hcallback, Callback.eventType] at heventType
  | _ => simp [hcallback, Callback.eventType] at heventType

/-! ### Journals -/

theorem Journal.nil : Journal env P answers [] := by
  intro h₁ en h₂ he
  simp at he

theorem Journal.mono (hj : Journal env P answers h) (ha : answers ⊆ answers') :
    Journal env P answers' h :=
  fun h₁ en h₂ he => (hj h₁ en h₂ he).mono ha

theorem Journal.of_prefix (hj : Journal env P answers h') (hp : h <+: h') :
    Journal env P answers h := by
  obtain ⟨t, rfl⟩ := hp
  intro h₁ en h₂ he
  exact hj h₁ en (h₂ ++ t) (by rw [he, List.append_assoc, List.cons_append])

theorem Journal.snoc (hj : Journal env P answers h) {en : Entry}
    (hr : Recorded env P answers h en) : Journal env P answers (h ++ [en]) := by
  intro h₁ en' h₂ he
  rcases List.eq_nil_or_concat h₂ with rfl | ⟨h₃, en₃, rfl⟩
  · obtain ⟨rfl, hen⟩ := List.append_inj' he rfl
    rw [List.singleton_inj] at hen
    exact hen ▸ hr
  · rw [List.concat_eq_append, ← List.cons_append, ← List.append_assoc] at he
    exact hj h₁ en' h₃ (List.append_inj' he rfl).1

/-- Entry by entry, each appended to a journal. -/
theorem Journal.induction {C : List Entry → Prop} (hj : Journal env P answers h) (hnil : C [])
    (hsnoc : ∀ h en, Journal env P answers h → Recorded env P answers h en → C h →
      C (h ++ [en])) : C h := by
  induction h using List.reverseRecOn with
  | nil => exact hnil
  | append_singleton h en ih =>
    have hh := hj.of_prefix (List.prefix_append h [en])
    exact hsnoc h en hh (hj h en [] rfl) (ih hh)

/-- What the first event of a session gives and every further one keeps. -/
theorem Journal.session_induction {C : List NegotiationEvent → DerivedSession → Prop}
    (hj : Journal env P answers h)
    (hfirst : ∀ h en s, Recorded env P answers h en → logOf h en.rfqId = [] →
      initialSession en.event = .ok s → C [en.event] s)
    (hnext : ∀ h en s s', Recorded env P answers h en →
      deriveState (logOf h en.rfqId) = .ok (some s) → EventStep s en.event s' →
      C (logOf h en.rfqId) s → C (logOf h en.rfqId ++ [en.event]) s')
    {s : DerivedSession} (hs : deriveState (logOf h r) = .ok (some s)) : C (logOf h r) s := by
  refine hj.induction (C := fun h => ∀ s, deriveState (logOf h r) = .ok (some s) →
    C (logOf h r) s) (fun s hs => by simp [deriveState] at hs) (fun h en _ hr ih s' hs' => ?_) s hs
  rw [logOf_snoc] at hs' ⊢
  split_ifs at hs' ⊢ with hen
  · subst hen
    rcases derives_append hs' with ⟨hlog, hopen⟩ | ⟨first, s, -, hs, hstep⟩
    · rw [hlog]
      exact hfirst h en s' hr hlog hopen
    · exact hnext h en s s' hr hs hstep (ih s hs)
  · exact ih s' hs'

theorem Journal.derives (hj : Journal env P answers h) {event : NegotiationEvent}
    (hevent : event ∈ logOf h r) : ∃ s, deriveState (logOf h r) = .ok (some s) := by
  refine hj.induction (C := fun h => event ∈ logOf h r → ∃ s, deriveState (logOf h r) = .ok (some s))
    (fun hmem => absurd hmem List.not_mem_nil) (fun h en _ hr ih hmem => ?_) hevent
  rw [logOf_snoc] at hmem ⊢
  split_ifs at hmem ⊢ with hen
  · exact hen ▸ hr.replays
  · exact ih hmem

theorem Journal.nodup_eventId (hj : Journal env P answers h) :
    (h.map fun en => en.event.eventId).Nodup := by
  refine hj.induction (C := fun h => (h.map fun en => en.event.eventId).Nodup) List.nodup_nil
    fun h en _ hr ih => ?_
  rw [List.map_append, List.nodup_append]
  refine ⟨ih, by simp, ?_⟩
  rintro a ha b hb rfl
  obtain ⟨other, hother, heq⟩ := List.mem_map.mp ha
  exact hr.fresh other hother (by simpa [heq] using hb)

theorem Journal.nodup_logOf (hj : Journal env P answers h) (r : JsString) :
    ((logOf h r).map NegotiationEvent.eventId).Nodup := by
  rw [logOf, List.map_map]
  exact hj.nodup_eventId.sublist (List.filter_sublist.map _)

end

/-! ### The checks of each segment -/

section

variable {env : EngineEnv} {P : DerivedSession → Members → Prop}
  {answers : List (JsString × JsValue)} {h : List Entry}

/-- What a segment ends with, over the sessions of a history. -/
inductive Segment.Gives (h : List Entry) : Segment → Next → Prop where
  | done (next : Next) : Gives h (.done (.ok next)) next
  | load (r : JsString) (k : Option DerivedSession → Handling Next) (s : Option DerivedSession)
      (next : Next) (hs : deriveState (logOf h r) = .ok s) (hk : k s = .ok next) :
      Gives h (.load r k) next
  | probe (r : JsString) (k : Bool → Handling Next) (found : Bool) (next : Next)
      (hk : k found = .ok next) : Gives h (.probe r k) next

theorem Segment.gives_done {x : Handling Next} {next : Next} :
    (Segment.done x).Gives h next ↔ x = .ok next := by
  constructor
  · rintro ⟨⟩
    rfl
  · rintro rfl
    exact .done next

theorem Segment.gives_load {r : JsString} {k : Option DerivedSession → Handling Next}
    {next : Next} : (Segment.load r k).Gives h next ↔
      ∃ s, deriveState (logOf h r) = .ok s ∧ k s = .ok next := by
  constructor
  · rintro ⟨⟩
    exact ⟨_, ‹_›, ‹_›⟩
  · rintro ⟨s, hs, hk⟩
    exact .load r k s next hs hk

theorem Segment.gives_probe {r : JsString} {k : Bool → Handling Next} {next : Next}
    (hg : (Segment.probe r k).Gives h next) : ∃ found, k found = .ok next := by
  cases hg
  exact ⟨_, ‹_›⟩

theorem Segment.gives_after {α : Type} {x : Handling α} {k : α → Segment} {next : Next} :
    (Segment.after x k).Gives h next ↔ ∃ a, x = .ok a ∧ (k a).Gives h next := by
  cases x with
  | ok a => simp [Segment.after]
  | error e => simp [Segment.after, Segment.gives_done]

theorem checkAccept_ok {now : ℤ} {tombstones : EnvelopeTombstones} {r : JsString} {body : Json}
    {s : Option DerivedSession} {envelope : ControlEnvelope} {signer : JsString}
    (hs : deriveState (logOf h r) = .ok s)
    (hc : checkAccept env now tombstones r body s = .ok (envelope, signer)) :
    Validated env h r envelope signer := by
  simp only [checkAccept, requireSession, bind_eq_ok, orThrow_eq_ok, pure_eq_ok,
    Prod.mk.injEq] at hc
  obtain ⟨s, rfl, e, he, rfl, rfl⟩ := hc
  obtain ⟨haction, hid, hsigned⟩ := validateControlEnvelope_ok he
  exact ⟨⟨s, .now hs, by rw [haction, ControlAction.signer]⟩, hid, hsigned⟩

theorem checkDecline_ok {now : ℤ} {tombstones : EnvelopeTombstones} {r : JsString} {body : Json}
    {s : Option DerivedSession} {envelope : ControlEnvelope} {signer : JsString}
    (hs : deriveState (logOf h r) = .ok s)
    (hc : checkDecline env now tombstones r body s = .ok (envelope, signer)) :
    Validated env h r envelope signer := by
  simp only [checkDecline, preSelectedSeller, bind_eq_ok, orThrow_eq_ok, pure_eq_ok,
    Option.bind_eq_some_iff, Option.filter_eq_some_iff, Prod.mk.injEq] at hc
  obtain ⟨seller, ⟨s, rfl, hseller, -⟩, e, he, rfl, rfl⟩ := hc
  obtain ⟨haction, hid, hsigned⟩ := validateControlEnvelope_ok he
  exact ⟨⟨s, .now hs, by rw [haction, ControlAction.signer, hseller]⟩, hid, hsigned⟩

theorem checkSigner_isSome {role : SigningRole} {signature : JsString}
    {s : Option DerivedSession} (hc : checkSigner env signature s role = .ok ()) :
    ∃ s₀, s = some s₀ := by
  cases role with
  | buyer =>
    simp only [checkSigner, checkQuoteSign, requireSession, bind_eq_ok, orThrow_eq_ok] at hc
    obtain ⟨s₀, rfl, -⟩ := hc
    exact ⟨s₀, rfl⟩
  | seller =>
    simp only [checkSigner, checkCosign, preSelectedSeller, bind_eq_ok, orThrow_eq_ok,
      Option.bind_eq_some_iff] at hc
    obtain ⟨_, ⟨s₀, rfl, -⟩, -⟩ := hc
    exact ⟨s₀, rfl⟩

theorem Request.begin_checked {m : Moment} {tombstones : EnvelopeTombstones}
    {request : Request} {next : Next}
    (hg : (request.begin env m tombstones).Gives h next) : next.Checked env P answers h := by
  cases request with
  | createRfq body =>
    simp only [Request.begin, Segment.gives_done, bind_eq_ok, pure_eq_ok] at hg
    obtain ⟨body, -, ⟨⟩, hcheck, rfl⟩ := hg
    exact ⟨m.now, hcheck⟩
  | submitOffer r body =>
    simp only [Request.begin, Segment.gives_after, Segment.gives_load, bind_eq_ok,
      pure_eq_ok] at hg
    obtain ⟨body, -, s, hs, ⟨⟩, hcheck, rfl⟩ := hg
    cases s with
    | none => simp [checkOffer, requireSession, orThrow, Bind.bind, Except.bind] at hcheck
    | some s => exact ⟨m.now, s, .now hs, hcheck⟩
  | sendCounter r body =>
    simp only [Request.begin, Segment.gives_after, Segment.gives_load, bind_eq_ok,
      pure_eq_ok] at hg
    obtain ⟨body, -, s, hs, ⟨⟩, hcheck, rfl⟩ := hg
    cases s with
    | none => simp [checkCounter, requireSession, orThrow, Bind.bind, Except.bind] at hcheck
    | some s => exact ⟨m.now, s, .now hs, hcheck⟩
  | accept r body =>
    simp only [Request.begin, Segment.gives_after, Segment.gives_load, bind_eq_ok,
      pure_eq_ok] at hg
    obtain ⟨body, -, s, hs, ⟨envelope, signer⟩, hcheck, rfl⟩ := hg
    exact checkAccept_ok hs hcheck
  | decline r body =>
    simp only [Request.begin, Segment.gives_after, Segment.gives_load, bind_eq_ok,
      pure_eq_ok] at hg
    obtain ⟨body, -, s, hs, ⟨envelope, signer⟩, hcheck, rfl⟩ := hg
    exact checkDecline_ok hs hcheck
  | sign role r body =>
    simp only [Request.begin, Segment.gives_after, Segment.gives_load, bind_eq_ok,
      pure_eq_ok] at hg
    obtain ⟨signature, -, s, hs, ⟨⟩, hcheck, rfl⟩ := hg
    obtain ⟨s, rfl⟩ := checkSigner_isSome hcheck
    exact ⟨s, .now hs, hcheck⟩
  | readQuote r authorization | settleReport r authorization body =>
    simp only [Request.begin, Segment.gives_done, bind_eq_ok, pure_eq_ok] at hg
    obtain ⟨callerDid, -, rfl⟩ := hg
    trivial
  | execute quoteHeader paymentSignature =>
    simp only [Request.begin, Segment.gives_done, bind_eq_ok, pure_eq_ok] at hg
    obtain ⟨⟨request, quote⟩, hopen, rfl⟩ := hg
    exact ⟨m.now, quoteHeader, paymentSignature, hopen⟩

theorem afterEnvelope_checked {r : JsString} {envelope : ControlEnvelope} {signer : JsString}
    {next : Next} (hv : Validated env h r envelope signer)
    (hn : afterEnvelope r envelope signer = .ok next) : next.Checked env P answers h := by
  rw [afterEnvelope] at hn
  cases haction : envelope.action with
  | accept =>
    simp only [haction, bind_eq_ok, pure_eq_ok] at hn
    obtain ⟨⟨sellerDid, offerId⟩, htarget, rfl⟩ := hn
    exact ⟨hv, haction, htarget⟩
  | decline =>
    simp only [haction, Except.ok.injEq] at hn
    exact hn ▸ ⟨hv, haction⟩

theorem Continuation.resume_checked {m : Moment} {k : Continuation} {segment : Segment}
    {next : Next} (hk : k.Checked env P answers h) (hr : k.resume env m = some segment)
    (hg : segment.Gives h next) : next.Checked env P answers h := by
  cases k with
  | createRfq body =>
    simp only [Continuation.resume, Option.some.injEq] at hr
    simp only [← hr, Segment.gives_after, rfqKey, orThrow_eq_ok] at hg
    obtain ⟨r, hid, hg⟩ := hg
    obtain ⟨found, hg⟩ := Segment.gives_probe hg
    simp only [bind_eq_ok, pure_eq_ok] at hg
    obtain ⟨-, -, rfl⟩ := hg
    exact ⟨hk, JsValue.asStr_eq_some.mp hid⟩
  | submitOffer r body | sendCounter r body =>
    simp only [Continuation.resume, Option.some.injEq] at hr
    simp only [← hr, Segment.gives_done, Except.ok.injEq] at hg
    exact hg ▸ hk
  | envelopeVerified r envelope signer =>
    simp only [Continuation.resume, Option.some.injEq] at hr
    simp only [← hr, Segment.gives_done, Except.ok.injEq] at hg
    exact hg ▸ hk
  | envelopeValidated r envelope signer =>
    simp only [Continuation.resume, Option.some.injEq] at hr
    rw [← hr, Segment.gives_done] at hg
    exact afterEnvelope_checked hk hg
  | readQuote r callerDid =>
    simp only [Continuation.resume, Option.some.injEq] at hr
    simp only [← hr, Segment.gives_done, Except.ok.injEq] at hg
    exact hg ▸ trivial
  | settleReport r callerDid body =>
    simp only [Continuation.resume, Option.some.injEq] at hr
    simp only [← hr, Segment.gives_load, bind_eq_ok, pure_eq_ok] at hg
    obtain ⟨s, hs, s', hcheck, rfl⟩ := hg
    obtain rfl := (checkReporter_ok hcheck).1
    exact ⟨callerDid, .now hs, hcheck⟩
  | reporterChecked r s body =>
    simp only [Continuation.resume, Option.some.injEq] at hr
    simp only [← hr, Segment.gives_done, bind_eq_ok, pure_eq_ok] at hg
    obtain ⟨⟨request, quote, quoteId⟩, hopen, rfl⟩ := hg
    exact ⟨m.now, s, body, hk, hopen⟩
  | fetching fetch request quote => simp [Continuation.resume] at hr

/-- The quote that `/execute` settles has `P`, if it is going to be recorded. -/
def Fetch.Presents (env : EngineEnv) (P : DerivedSession → Members → Prop) (h : List Entry)
    (request : SettlementRequest) (quote : Members) (tx : JsValue) (fetch : Fetch) : Prop :=
  fetch = .execute → ∀ result r s,
    settleTransaction env.toSettlementEnv request quote tx = .ok result →
    quote.lookup (js "rfq_id") = some (.str r) →
    deriveState (logOf h r) = .ok (some s) → s.state = .committed →
    requireQuoteId s (quote.lookup (js "quote_id")) = .ok () → ¬ Settled (logOf h r) → P s quote

theorem Fetch.presents_true {request : SettlementRequest} {quote : Members} {tx : JsValue}
    {fetch : Fetch} : fetch.Presents env (fun _ _ => True) h request quote tx := by
  simp [Fetch.Presents]

theorem Fetch.resume_checked {m : Moment} {fetch : Fetch} {request : SettlementRequest}
    {quote : Members} {tx : JsValue} {next : Next} (ho : fetch.Opened env h request quote)
    (ha : (request.paymentSignature, tx) ∈ answers) (hP : fetch.Presents env P h request quote tx)
    (hg : (fetch.resume env m request quote tx).Gives h next) :
    next.Checked env P answers h := by
  simp only [Fetch.resume, Segment.gives_after] at hg
  obtain ⟨result, hresult, hg⟩ := hg
  rw [settling_eq_ok] at hresult
  obtain ⟨rfl, -, -⟩ := settleTransaction_eq_ok hresult
  cases fetch with
  | execute =>
    simp only [Segment.gives_after, Segment.gives_load, orThrow_eq_ok, bind_eq_ok,
      pure_eq_ok, JsValue.asStr_eq_some] at hg
    obtain ⟨r, hr, s, hs, c, hc, rfl⟩ := hg
    obtain ⟨s, rfl, hstate, hid, rfl⟩ := checkExecute_ok hc
    refine ⟨.execute, request, tx, ho, ha, hresult, hr, s, .now hs, hc, ?_⟩
    by_cases hsettled : Settled (logOf h r)
    · exact Or.inr hsettled
    · exact Or.inl (hP rfl result r s hresult hr hs hstate hid hsettled)
  | settleReport r quoteId =>
    simp only [Segment.gives_done, bind_eq_ok, pure_eq_ok] at hg
    obtain ⟨verifiedAt, -, rfl⟩ := hg
    exact ⟨.settleReport r quoteId, request, tx, ho, ha, hresult, rfl, rfl, rfl⟩

end
end GhostBazaar.Engine
