import GhostBazaar.Engine.CommittedQuote
import GhostBazaar.Engine.Delivery

/-! What a seller reads of a session: its own bids and the buyer's, and no other seller. -/
namespace GhostBazaar.Engine
open Js GhostBazaar.Core Transition

/-! ### Payloads -/

/-- The members that the routes and the enforcer write for an event type. -/
def EventType.payloadKeys : EventType → List JsString
  | .rfqCreated => [js "rfq_id", js "protocol", js "buyer", js "service_type", js "spec",
      js "anchor_price", js "currency", js "deadline", js "signature", js "budget_commitment",
      js "extensions"]
  | .offerSubmitted => [js "rfq_id", js "offer_id", js "seller", js "price", js "currency",
      js "valid_until", js "signature", js "listing_id", js "payment_endpoint", js "extensions"]
  | .counterSent => [js "rfq_id", js "counter_id", js "round", js "from", js "to", js "price",
      js "currency", js "valid_until", js "signature", js "budget_proof", js "extensions"]
  | .winnerSelected => [js "seller", js "offer_id", js "quote"]
  | .quoteSigned => [js "seller", js "buyer_signature"]
  | .quoteCommitted => [js "seller", js "seller_signature"]
  | .cosignDeclined | .cosignTimeout => [js "seller"]
  | .settlementConfirmed => [js "tx_sig", js "quote_id", js "final_price", js "buyer",
      js "seller", js "verified_at", js "verification"]
  | .negotiationExpired | .negotiationCancelled | .commitPending => []

theorem mem_of_lookup_defined {fields : List (JsString × JsValue)} {key : JsString} {v : Json}
    (h : (defined fields).lookup key = some v) : key ∈ fields.map Prod.fst := by
  obtain ⟨m, hm, rfl⟩ := List.mem_map.mp (JsMap.mem_keys_of_lookup h)
  rw [defined, List.mem_filterMap] at hm
  obtain ⟨f, hf, hv⟩ := hm
  obtain ⟨w, -, rfl⟩ := Option.map_eq_some_iff.mp hv
  exact List.mem_map_of_mem hf

section

variable {env : EngineEnv} {P : DerivedSession → Members → Prop}
  {answers : List (JsString × JsValue)} {h : List Entry} {r : JsString}
  {log : List NegotiationEvent} {before : Option DerivedSession} {callback : Callback}
  {event : NegotiationEvent}

theorem Callback.Appends.payloadKeys (ha : callback.Appends env log r before event)
    {key : JsString} {v : Json} (hv : event.payload.lookup key = some v) :
    key ∈ event.type.payloadKeys := by
  cases callback with
  | createRfq body =>
    obtain ⟨m, hlocked⟩ := ha
    simp only [lockedRfq, bind_eq_ok, pure_eq_ok] at hlocked
    obtain ⟨-, -, _, -, rfl⟩ := hlocked
    exact mem_of_lookup_defined hv
  | submitOffer body =>
    obtain ⟨m, listings, hlocked⟩ := ha
    simp only [lockedOffer, bind_eq_ok, pure_eq_ok] at hlocked
    obtain ⟨_, -, -, -, -, -, -, -, -, -, -, -, _, -, -, -, _, -, rfl⟩ := hlocked
    exact mem_of_lookup_defined hv
  | sendCounter body =>
    obtain ⟨m, hlocked⟩ := ha
    simp only [lockedCounter, bind_eq_ok, pure_eq_ok] at hlocked
    obtain ⟨_, -, -, -, -, -, -, -, -, -, -, -, _, -, rfl⟩ := hlocked
    exact mem_of_lookup_defined hv
  | accept envelope signer sellerDid offerId =>
    obtain ⟨m, hlocked⟩ := ha
    obtain ⟨s, q, -, -, -, -, htype, hpayload⟩ := lockedAccept_ok hlocked
    rw [hpayload] at hv
    rw [htype]
    exact JsMap.mem_keys_of_lookup hv
  | decline envelope signer =>
    obtain ⟨m, hlocked⟩ := ha
    simp only [lockedDecline, bind_eq_ok, pure_eq_ok] at hlocked
    obtain ⟨_, -, -, -, -, -, _, -, -, -, -, -, _, -, rfl⟩ := hlocked
    exact JsMap.mem_keys_of_lookup hv
  | sign role signature =>
    cases role with
    | buyer =>
      obtain ⟨now, m, s, -, hfinish⟩ := ha
      simp only [finishQuoteSign, bind_eq_ok, pure_eq_ok] at hfinish
      obtain ⟨-, -, _, -, rfl⟩ := hfinish
      exact mem_of_lookup_defined hv
    | seller =>
      obtain ⟨now, m, s, -, hfinish⟩ := ha
      simp only [finishCosign, bind_eq_ok, pure_eq_ok] at hfinish
      obtain ⟨-, -, _, -, rfl⟩ := hfinish
      exact JsMap.mem_keys_of_lookup hv
  | readQuote callerDid => exact ha.elim
  | confirm c =>
    obtain ⟨m, hlocked⟩ := ha
    obtain ⟨-, htype, -, verifiedAt, hpayload⟩ := lockedConfirm_ok hlocked
    rw [hpayload] at hv
    rw [htype]
    exact mem_of_lookup_defined hv
  | expire =>
    obtain ⟨m, hlocked⟩ := ha
    obtain ⟨-, hpayload, -⟩ := lockedExpire_ok hlocked
    simp [hpayload] at hv
  | cosignTimeout =>
    obtain ⟨m, hlocked⟩ := ha
    obtain ⟨htype, -, seller, hpayload⟩ := lockedCosignTimeout_ok hlocked
    rw [hpayload] at hv
    rw [htype]
    exact JsMap.mem_keys_of_lookup hv

theorem Recorded.absent {en : Entry} (hr : Recorded env P answers h en) {type : EventType}
    (htype : en.event.type = type) (keys : List JsString)
    (hkeys : ∀ key ∈ keys, key ∉ type.payloadKeys) :
    ∀ key ∈ keys, en.event.payload.lookup key = none := by
  obtain ⟨before, -, hproduced⟩ := hr.produced
  intro key hkey
  rw [Option.eq_none_iff_forall_ne_some]
  exact fun v hv => hkeys key hkey (htype ▸ hproduced.appends.payloadKeys hv)

end

/-! ### Actors -/

/-- The actors that are no party of a session. -/
def systemActors : List JsString := [js "engine/deadline-enforcer", js "system:settlement-verifier"]

/-- Who the actor of an event can be that is no bid, accept or signature of the buyer. -/
def NegotiationEvent.ActorFits (event : NegotiationEvent) : Prop :=
  match event.type with
  | .cosignDeclined | .quoteCommitted =>
    event.payload.lookup (js "seller") = some (.str event.actor)
  | .cosignTimeout | .negotiationExpired | .settlementConfirmed => event.actor ∈ systemActors
  | .commitPending | .negotiationCancelled => False
  | .rfqCreated | .offerSubmitted | .counterSent | .winnerSelected | .quoteSigned => True

theorem Recorded.actorFits {env : EngineEnv} {P : DerivedSession → Members → Prop}
    {answers : List (JsString × JsValue)} {h : List Entry} {en : Entry}
    (hr : Recorded env P answers h en) : en.event.ActorFits := by
  obtain ⟨before, -, hproduced⟩ := hr.produced
  have happends := hproduced.appends
  have heventType := hr.eventType
  rw [NegotiationEvent.ActorFits]
  cases hcallback : en.callback with
  | createRfq _ | submitOffer _ | sendCounter _ | accept _ _ _ _ =>
    rw [hcallback] at heventType
    simp [← Option.some.inj heventType]
  | decline envelope signer =>
    rw [hcallback] at happends
    obtain ⟨m, hlocked⟩ := happends
    obtain ⟨_, -, -, -, htype, hactor⟩ := lockedDecline_ok hlocked
    rw [htype]
    exact hactor
  | sign role signature =>
    cases role with
    | buyer =>
      rw [hcallback] at heventType
      simp [← Option.some.inj heventType]
    | seller =>
      rw [hcallback] at happends
      obtain ⟨now, m, s, -, hfinish⟩ := happends
      obtain ⟨-, htype, -, hactor⟩ := finishCosign_ok hfinish
      rw [htype]
      exact hactor
  | readQuote callerDid =>
    rw [hcallback] at happends
    exact happends.elim
  | confirm c =>
    rw [hcallback] at happends
    obtain ⟨m, hlocked⟩ := happends
    obtain ⟨-, htype, hactor, -⟩ := lockedConfirm_ok hlocked
    simp [htype, hactor, systemActors]
  | expire =>
    rw [hcallback] at happends
    obtain ⟨m, hlocked⟩ := happends
    obtain ⟨htype, -, hactor⟩ := lockedExpire_ok hlocked
    simp [htype, hactor, systemActors]
  | cosignTimeout =>
    rw [hcallback] at happends
    obtain ⟨m, hlocked⟩ := happends
    obtain ⟨htype, hactor, -⟩ := lockedCosignTimeout_ok hlocked
    simp [htype, hactor, systemActors]

/-! ### Isolation -/

/-- A name that a seller may read: its own, the buyer's or the engine's. -/
def Known (callerDid buyer name : JsString) : Prop :=
  name = callerDid ∨ name = buyer ∨ name ∈ systemActors

/-- A member of the quote in a payload. -/
def quoteField (event : NegotiationEvent) (key : JsString) : JsValue :=
  JsValue.get? (event.payload.lookup (js "quote")) key

/-- The event names no other seller, and its prices are those of the caller. The payload of
a settlement has the seller and the price of the quote that was paid. -/
structure Isolated (callerDid buyer : JsString) (event : NegotiationEvent) : Prop where
  actor : Known callerDid buyer event.actor
  names : ∀ v, event.payload.lookup (js "seller") = some v ∨
    event.payload.lookup (js "to") = some v ∨ quoteField event (js "seller") = some v →
      ∃ name, v = .str name ∧ Known callerDid buyer name
  price : (event.payload.lookup (js "price")).isSome →
    (event.type = .offerSubmitted ∧ event.actor = callerDid ∧
      event.payload.lookup (js "seller") = some (.str callerDid)) ∨
    (event.type = .counterSent ∧ event.payload.lookup (js "to") = some (.str callerDid))
  finalPrice : (event.payload.lookup (js "final_price")).isSome →
    event.payload.lookup (js "seller") = some (.str callerDid)
  quotePrice : (quoteField event (js "final_price")).isSome →
    quoteField event (js "seller") = some (.str callerDid)

/-- An event without a quote whose `seller` and `to`, where present, are the caller. -/
theorem Isolated.of_fields {callerDid buyer : JsString} {event : NegotiationEvent}
    (hactor : Known callerDid buyer event.actor)
    (hseller : ∀ v, event.payload.lookup (js "seller") = some v → v = .str callerDid)
    (hto : ∀ v, event.payload.lookup (js "to") = some v → v = .str callerDid)
    (hquote : event.payload.lookup (js "quote") = none)
    (hprice : (event.payload.lookup (js "price")).isSome →
      (event.type = .offerSubmitted ∧ event.actor = callerDid ∧
        event.payload.lookup (js "seller") = some (.str callerDid)) ∨
      (event.type = .counterSent ∧ event.payload.lookup (js "to") = some (.str callerDid)))
    (hfinal : (event.payload.lookup (js "final_price")).isSome →
      event.payload.lookup (js "seller") = some (.str callerDid)) :
    Isolated callerDid buyer event where
  actor := hactor
  names := by
    rintro v (hv | hv | hv)
    · exact ⟨callerDid, hseller v hv, Or.inl rfl⟩
    · exact ⟨callerDid, hto v hv, Or.inl rfl⟩
    · simp [quoteField, hquote, JsValue.get?] at hv
  price := hprice
  finalPrice := hfinal
  quotePrice := by simp [quoteField, hquote, JsValue.get?]

section

variable {env : EngineEnv} {P : DerivedSession → Members → Prop}
  {answers : List (JsString × JsValue)} {h : List Entry} {r : JsString}
  {callerDid : JsString} {en : Entry}

/-- The event of a seller that the payload names, with no other field of a bid. -/
theorem Recorded.isolated_named (hr : Recorded env P answers h en) {type : EventType}
    (htype : en.event.type = type) {buyer : JsString}
    (hactor : Known callerDid buyer en.event.actor)
    (hseller : en.event.payload.lookup (js "seller") = some (.str callerDid))
    (hkeys : ∀ key ∈ [js "to", js "quote", js "price"], key ∉ type.payloadKeys) :
    Isolated callerDid buyer en.event := by
  have hnone := hr.absent htype _ hkeys
  refine .of_fields hactor (fun v hv => ?_) (fun v hv => ?_) (hnone _ (by simp)) (fun hprice => ?_)
    fun _ => hseller
  · simpa using hv.symm.trans hseller
  · simp [hnone (js "to") (by simp)] at hv
  · simp [hnone (js "price") (by simp)] at hprice

/-- The event that opens a session is the buyer's. -/
theorem Recorded.isolated_first (hr : Recorded env P answers h en)
    (hempty : logOf h en.rfqId = []) {s : DerivedSession}
    (hs : initialSession en.event = .ok s) : Isolated callerDid s.rfq.buyer en.event := by
  have htype := (initialSession_state hs).2.2.2.2.2.2.2.2.1
  have hnone := hr.absent htype [js "seller", js "to", js "quote", js "price", js "final_price"]
    (by decide +kernel)
  obtain ⟨m, body, -, hlocked⟩ := hr.opening hempty hs
  simp only [initialSession, bind_eq_ok, ensure_eq_ok, pure_eq_ok, str_eq_ok] at hs
  obtain ⟨-, -, buyer, hbuyer, _, -, _, -, _, -, _, -, _, -, rfl⟩ := hs
  have hactor : en.event.actor = buyer := by
    rw [(lockedRfq_ok hlocked).2.2, hbuyer]
    rfl
  refine .of_fields (Or.inr (Or.inl hactor)) (fun v hv => ?_) (fun v hv => ?_) (hnone _ (by simp))
    (fun hv => ?_) fun hv => ?_
  · simp [hnone (js "seller") (by simp)] at hv
  · simp [hnone (js "to") (by simp)] at hv
  · simp [hnone (js "price") (by simp)] at hv
  · simp [hnone (js "final_price") (by simp)] at hv

/-- An accept carries the quote that was made out to the seller of the accepted offer. -/
theorem Recorded.isolated_accept (hr : Recorded env P answers h en) {s : DerivedSession}
    {offer : RecordedOffer} (hs : deriveState (logOf h en.rfqId) = .ok (some s))
    (htype : en.event.type = .winnerSelected) (hactor : en.event.actor = s.rfq.buyer)
    (hoffer : findOffer s.offers offer.offerId = some offer)
    (hid : en.event.payload.lookup (js "offer_id") = some (.str offer.offerId))
    (hseller : en.event.payload.lookup (js "seller") = some (.str offer.seller)) :
    Isolated offer.seller s.rfq.buyer en.event := by
  obtain ⟨q, hquote, -, hmembers⟩ := hr.opens hs htype hoffer hid
  have hfield : quoteField en.event (js "seller") = some (.str offer.seller) := by
    rw [← hquote.seller, quoteField, hmembers]
    rfl
  have hnone := hr.absent htype [js "to", js "price", js "final_price"]
    (by decide +kernel)
  refine ⟨Or.inr (Or.inl hactor), ?_, fun hv => ?_, fun hv => ?_, fun _ => hfield⟩
  · rintro v (hv | hv | hv)
    · exact ⟨offer.seller, by simpa using hv.symm.trans hseller, Or.inl rfl⟩
    · simp [hnone (js "to") (by simp)] at hv
    · exact ⟨offer.seller, by simpa using hv.symm.trans hfield, Or.inl rfl⟩
  · simp [hnone (js "price") (by simp)] at hv
  · simp [hnone (js "final_price") (by simp)] at hv

theorem Recorded.isolated_step (hr : Recorded env P answers h en) {s s' : DerivedSession}
    (hs : deriveState (logOf h en.rfqId) = .ok (some s)) (hstep : EventStep s en.event s')
    (hne : callerDid ≠ s.rfq.buyer)
    (hvisible : isEventVisibleTo en.event callerDid s.rfq.buyer = true) :
    Isolated callerDid s.rfq.buyer en.event := by
  rw [isEventVisibleTo, if_neg hne] at hvisible
  cases hstep with
  | offerSubmitted offer _ htype hactor _ hseller =>
    simp only [htype, decide_eq_true_eq] at hvisible
    obtain rfl : offer.seller = callerDid := hactor.symm.trans hvisible
    have hnone := hr.absent htype [js "to", js "quote"] (by decide +kernel)
    refine .of_fields (Or.inl hactor) (fun v hv => ?_) (fun v hv => ?_) (hnone _ (by simp))
      (fun _ => Or.inl ⟨htype, hactor, hseller⟩) fun _ => hseller
    · simpa using hv.symm.trans hseller
    · simp [hnone (js "to") (by simp)] at hv
  | counterSent counter _ htype hactor =>
    simp only [htype, decide_eq_true_eq] at hvisible
    have hnone := hr.absent htype [js "seller", js "quote", js "final_price"] (by decide +kernel)
    refine .of_fields (Or.inr (Or.inl hactor)) (fun v hv => ?_) (fun v hv => ?_)
      (hnone _ (by simp)) (fun _ => Or.inr ⟨htype, hvisible⟩) fun hv => ?_
    · simp [hnone (js "seller") (by simp)] at hv
    · simpa using hv.symm.trans hvisible
    · simp [hnone (js "final_price") (by simp)] at hv
  | winnerSelected offer _ htype hactor hoffer hid hseller =>
    simp only [htype, decide_eq_true_eq] at hvisible
    obtain rfl : offer.seller = callerDid := by simpa using hseller.symm.trans hvisible
    exact hr.isolated_accept hs htype hactor hoffer hid hseller
  | rollback seller _ htype hselected hactor =>
    have hfits := hr.actorFits
    rw [NegotiationEvent.ActorFits] at hfits
    rcases htype with htype | htype
    · simp only [htype, decide_eq_true_eq] at hvisible hfits
      have hname : en.event.actor = callerDid := by simpa using hfits.symm.trans hvisible
      exact hr.isolated_named htype (Or.inl hname) hvisible (by decide +kernel)
    · simp only [htype, decide_eq_true_eq] at hvisible hfits
      exact hr.isolated_named htype (Or.inr (Or.inr hfits)) hvisible (by decide +kernel)
  | quoteSigned seller signature _ htype _ hactor =>
    simp only [htype, decide_eq_true_eq] at hvisible
    exact hr.isolated_named htype (Or.inr (Or.inl hactor)) hvisible (by decide +kernel)
  | quoteCommitted signature _ htype hselected =>
    have hfits := hr.actorFits
    rw [NegotiationEvent.ActorFits] at hfits
    simp only [htype, decide_eq_true_eq] at hvisible hfits
    have hname : en.event.actor = callerDid := by simpa using hfits.symm.trans hvisible
    exact hr.isolated_named htype (Or.inl hname) hvisible (by decide +kernel)
  | marker htype =>
    have hfits := hr.actorFits
    rw [NegotiationEvent.ActorFits] at hfits
    rcases htype with ⟨htype, -⟩ | ⟨htype, -⟩
    · simp [htype] at hfits
    · simp only [htype, decide_eq_true_eq] at hvisible hfits
      exact hr.isolated_named htype (Or.inr (Or.inr hfits)) hvisible (by decide +kernel)
  | expired _ htype =>
    have hfits := hr.actorFits
    rw [NegotiationEvent.ActorFits, htype] at hfits
    have hnone : ∀ key, en.event.payload.lookup key = none := fun key =>
      hr.absent htype [key] (by simp [EventType.payloadKeys]) key (by simp)
    refine .of_fields (Or.inr (Or.inr hfits)) (fun v hv => ?_) (fun v hv => ?_) (hnone _)
      (fun hv => ?_) fun hv => ?_
    all_goals simp [hnone] at hv
  | cancelled _ htype =>
    have hfits := hr.actorFits
    rw [NegotiationEvent.ActorFits, htype] at hfits
    exact hfits.elim

theorem Journal.isolated (hj : Journal env P answers h) {s : DerivedSession}
    (hs : deriveState (logOf h r) = .ok (some s)) (hne : callerDid ≠ s.rfq.buyer)
    {event : NegotiationEvent} (hmem : event ∈ visibleTo callerDid s.rfq.buyer (logOf h r)) :
    Isolated callerDid s.rfq.buyer event := by
  refine hj.session_induction (C := fun log s => callerDid ≠ s.rfq.buyer →
    ∀ event ∈ visibleTo callerDid s.rfq.buyer log, Isolated callerDid s.rfq.buyer event)
    (fun h en s hr hempty hfirst _ event hmem => ?_)
    (fun h en s s' hr hs hstep ih hne event hmem => ?_) hs hne event hmem
  · rw [visibleTo, List.mem_filter, List.mem_singleton] at hmem
    obtain ⟨rfl, -⟩ := hmem
    exact hr.isolated_first hempty hfirst
  · rw [hstep.rfq] at hne hmem ⊢
    rw [visibleTo_append, List.mem_append] at hmem
    rcases hmem with hmem | hmem
    · exact ih hne event hmem
    · rw [visibleTo, List.mem_filter, List.mem_singleton] at hmem
      obtain ⟨rfl, hvisible⟩ := hmem
      exact hr.isolated_step hs hstep hne hvisible

end

theorem eventsAfter_subset (afterId : Option JsString) (log : List NegotiationEvent) :
    eventsAfter afterId log ⊆ log := by
  unfold eventsAfter
  split
  · exact List.Subset.refl log
  · split
    · exact List.nil_subset log
    · exact List.drop_subset _ log

/-- Whichever way a seller reads a session that the engine can reach, and whatever else
happens to the store, every event that it gets is isolated from the other sellers. -/
theorem seller_isolation {σ τ : Type} [InternalEventStore σ] [EventStorage τ] (env : EngineEnv)
    (is : List EngineLabel) (r : JsString) {s : DerivedSession} {callerDid : JsString}
    (calls : List StoreCall)
    (hs : deriveState ((run (EngineState.step env) (EngineState.empty : EngineState σ) is).manager.log
      r) = .ok (some s))
    (hne : callerDid ≠ s.rfq.buyer)
    (hlog : (run EventStore.step (EventStore.empty : EventStore τ) calls).log r =
      (run (EngineState.step env) (EngineState.empty : EngineState σ) is).manager.log r) :
    let store := run EventStore.step (EventStore.empty : EventStore τ) calls
    (∀ afterId, ∀ event ∈ EventStorage.getEvents store.stored r callerDid s.rfq.buyer afterId,
      Isolated callerDid s.rfq.buyer event) ∧
    (∀ k sub, store.subscription k = some sub → sub.rfqId = r → sub.callerDid = callerDid →
      sub.buyer = s.rfq.buyer → ∀ event ∈ store.received k, Isolated callerDid s.rfq.buyer event) ∧
    ∀ afterId k replay buffered,
      (store.call (.subscribeFrom r callerDid s.rfq.buyer afterId)).2 = .feed k replay buffered →
        ∀ event ∈ replay ++ buffered, Isolated callerDid s.rfq.buyer event := by
  intro store
  have he := EngineState.run_inv_true (σ := σ) env is
  have hisolated : ∀ event ∈ visibleTo callerDid s.rfq.buyer (store.log r),
      Isolated callerDid s.rfq.buyer event := by
    intro event hmem
    rw [he.log] at hs
    rw [hlog, he.log] at hmem
    exact he.journal.isolated hs hne hmem
  have hread : ∀ afterId, ∀ event ∈ EventStorage.getEvents store.stored r callerDid s.rfq.buyer
      afterId, Isolated callerDid s.rfq.buyer event := by
    intro afterId event hmem
    rw [EventStorage.getEvents_eq, visibleTo, List.mem_filter] at hmem
    refine hisolated event (List.mem_filter.mpr ⟨?_, hmem.2⟩)
    exact eventsAfter_subset afterId _ hmem.1
  refine ⟨hread, ?_, fun afterId k replay buffered hcall event hmem => ?_⟩
  · rintro k sub hsub rfl rfl hbuyer event hmem
    have haudible := EventStore.run_audible calls k sub hsub event (List.mem_append_left _ hmem)
    rw [hbuyer] at haudible
    exact hisolated event haudible
  · rw [EventStore.call, EventStore.subscribeFrom_eq] at hcall
    obtain ⟨-, rfl, rfl⟩ := StoreResult.feed.inj hcall
    rw [List.append_nil] at hmem
    exact hread afterId event hmem

/-- The calls that copy the log of the sample negotiation to a subscribed seller. -/
def sampleSellerCalls : List StoreCall :=
  .subscribe firstNegotiation.rfqId Settlement.sampleSeller Settlement.sampleBuyer ::
    (commitRun.manager.log firstNegotiation.rfqId).map (.append firstNegotiation.rfqId)

def sampleSellerStore : EventStore InMemoryEventStore :=
  run EventStore.step EventStore.empty sampleSellerCalls

theorem seller_isolation_sample : (sampleSellerStore.received 0).length = 5 ∧
    ∀ event ∈ sampleSellerStore.received 0,
      Isolated Settlement.sampleSeller Settlement.sampleBuyer event := by
  -- one evaluation of the store gives all that the theorem asks for
  have hstore : (deriveState (commitRun.manager.log firstNegotiation.rfqId)).toOption.join.any
        (fun s => decide (s.rfq.buyer = Settlement.sampleBuyer)) = true ∧
      (sampleSellerStore.subscription 0).any (fun sub =>
        decide (sub.rfqId = firstNegotiation.rfqId ∧ sub.callerDid = Settlement.sampleSeller ∧
          sub.buyer = Settlement.sampleBuyer)) = true ∧
      sampleSellerStore.log firstNegotiation.rfqId =
        commitRun.manager.log firstNegotiation.rfqId ∧
      (sampleSellerStore.received 0).length = 5 := by
    decide +kernel
  obtain ⟨hsession, hsub, hlog, hlength⟩ := hstore
  obtain ⟨s, hs, hbuyer⟩ := exists_session hsession
  have hbuyer : s.rfq.buyer = Settlement.sampleBuyer := of_decide_eq_true hbuyer
  obtain ⟨sub, hsub, hrole⟩ := (Option.any_eq_true _ _).mp hsub
  obtain ⟨hrfq, hcaller, hbuyer'⟩ := of_decide_eq_true hrole
  have hne : Settlement.sampleSeller ≠ s.rfq.buyer := by
    rw [hbuyer]
    decide
  obtain ⟨-, hreceived, -⟩ := seller_isolation (τ := InMemoryEventStore) _ _ _ sampleSellerCalls
    hs hne hlog
  rw [← sampleSellerStore] at hreceived
  have hisolated := hreceived 0 sub hsub hrfq hcaller (hbuyer'.trans hbuyer.symm)
  rw [hbuyer] at hisolated
  exact ⟨hlength, hisolated⟩

end GhostBazaar.Engine
