import GhostBazaar.Engine.Answers
import GhostBazaar.Engine.Journal

/-! What the bidding routes append replays, when the fields they do not check are texts. -/
namespace GhostBazaar.Engine
open Js GhostBazaar.Core

/-! ### Payloads -/

theorem lookup_of_mem_defined (fields : List (JsString × JsValue))
    (hkeys : (fields.map Prod.fst).Nodup) : ∀ f ∈ fields, (defined fields).lookup f.1 = f.2 := by
  intro f hf
  rw [lookup_defined hkeys]
  induction fields with
  | nil => simp at hf
  | cons g fields ih =>
    obtain ⟨k, v⟩ := g
    rw [List.map_cons, List.nodup_cons] at hkeys
    rw [JsMap.lookup_cons_ite]
    rcases List.mem_cons.mp hf with rfl | hf
    · rw [if_pos rfl, Option.join_some]
    · have hmem : f.1 ∈ fields.map Prod.fst := List.mem_map_of_mem hf
      have hne : f.1 ≠ k := fun h => hkeys.1 (h ▸ hmem)
      rw [if_neg hne, ih hkeys.2 hf]

theorem initialSession_isOk {first : NegotiationEvent} (htype : first.type = .rfqCreated)
    (htexts : ∀ key ∈ [js "buyer", js "rfq_id", js "anchor_price", js "currency", js "deadline",
      js "service_type"], IsText (first.payload.lookup key)) :
    ∃ s, initialSession first = .ok s := by
  simp only [List.forall_mem_cons, List.not_mem_nil, false_imp_iff, implies_true,
    and_true] at htexts
  obtain ⟨⟨buyer, hbuyer⟩, ⟨rfqId, hrfqId⟩, ⟨price, hprice⟩, ⟨currency, hcurrency⟩,
    ⟨deadline, hdeadline⟩, ⟨serviceType, hserviceType⟩⟩ := htexts
  simp only [initialSession, bind_eq_ok, ensure_eq_ok, str_eq_ok, pure_eq_ok]
  exact ⟨_, (), htype, buyer, hbuyer, rfqId, hrfqId, price, hprice, currency, hcurrency, deadline,
    hdeadline, serviceType, hserviceType, rfl⟩

theorem applyOfferSubmitted_isOk {s : DerivedSession} {event : NegotiationEvent}
    (htexts : ∀ key ∈ [js "offer_id", js "price", js "currency", js "valid_until",
      js "listing_id", js "payment_endpoint"], IsText (event.payload.lookup key))
    (hseller : event.payload.lookup (js "seller") = some (.str event.actor)) :
    ∃ s', applyOfferSubmitted s event = .ok s' := by
  simp only [List.forall_mem_cons, List.not_mem_nil, false_imp_iff, implies_true,
    and_true] at htexts
  obtain ⟨⟨offerId, hofferId⟩, ⟨price, hprice⟩, ⟨currency, hcurrency⟩, ⟨validUntil, hvalidUntil⟩,
    ⟨listingId, hlistingId⟩, ⟨paymentEndpoint, hpaymentEndpoint⟩⟩ := htexts
  simp only [applyOfferSubmitted, bind_eq_ok, ensure_eq_ok, str_eq_ok, pure_eq_ok]
  exact ⟨_, offerId, hofferId, event.actor, hseller, price, hprice, currency, hcurrency, validUntil,
    hvalidUntil, listingId, hlistingId, paymentEndpoint, hpaymentEndpoint, (), rfl, rfl⟩

theorem applyCounterSent_isOk {s : DerivedSession} {event : NegotiationEvent}
    {round : JsNumber} {to' : JsString}
    (htexts : ∀ key ∈ [js "counter_id", js "price"], IsText (event.payload.lookup key))
    (hround : event.payload.lookup (js "round") = some (.num round))
    (hfrom : event.payload.lookup (js "from") = some (.str event.actor))
    (hto : event.payload.lookup (js "to") = some (.str to')) (hbuyer : event.actor = s.rfq.buyer)
    (hoffer : ∃ o ∈ s.offers, o.seller = to') : ∃ s', applyCounterSent s event = .ok s' := by
  simp only [List.forall_mem_cons, List.not_mem_nil, false_imp_iff, implies_true,
    and_true] at htexts
  obtain ⟨⟨counterId, hcounterId⟩, ⟨price, hprice⟩⟩ := htexts
  simp only [applyCounterSent, bind_eq_ok, ensure_eq_ok, str_eq_ok, pure_eq_ok, num_eq_ok]
  exact ⟨_, counterId, hcounterId, round, hround, event.actor, hfrom, to', hto, price,
    hprice, (), rfl, (), hbuyer, (), hoffer, rfl⟩

/-! ### What the checks establish -/

theorem IsText.of_startsWithText {v : JsValue} {p : JsString} (h : startsWithText v p = true) :
    IsText v := by
  rw [startsWithText] at h
  split at h
  · exact ⟨_, JsValue.asStr_eq_some.mp ‹_›⟩
  · simp at h

theorem IsText.of_amount {env : EngineEnv} {v : JsValue} {mint message : JsString}
    (h : checkAmount env v mint message = .ok ()) : IsText v := by
  simp only [checkAmount, bind_eq_ok, liftThrown_eq_ok, normalizeAmount_eq_ok] at h
  obtain ⟨_, ⟨_, s, -, hs, -⟩, -⟩ := h
  exact ⟨s, hs⟩

theorem IsText.of_includes {list : List JsString} {v : JsValue}
    (h : includesValue list v = true) : IsText v := by
  unfold includesValue at h
  split at h
  · exact ⟨_, rfl⟩
  · simp at h

theorem checkRfq_texts {env : EngineEnv} {now : ℤ} {body : Json}
    (h : checkRfq env now body = .ok ()) : IsText (body.get? (js "buyer")) ∧
      IsText (body.get? (js "anchor_price")) ∧ IsText (body.get? (js "currency")) := by
  simp only [checkRfq, bind_eq_ok, answerValidation_eq_ok] at h
  obtain ⟨-, hvalid, -, -, mint, -, ⟨⟩, hamount, -⟩ := h
  simp only [validateRfq, bind_eq_ok, require_eq_ok, liftThrown_eq_ok] at hvalid
  obtain ⟨-, -, -, -, -, -, -, -, -, -, -, hbuyer, -, -, -, -, -, -, -, hcurrency, -⟩ := hvalid
  exact ⟨.of_startsWithText hbuyer, .of_amount hamount, .of_includes hcurrency⟩

theorem checkOffer_texts {env : EngineEnv} {now : ℤ} {r : JsString} {body : Json}
    {s : DerivedSession} (h : checkOffer env now r body (some s) = .ok ()) :
    IsText (body.get? (js "seller")) ∧ IsText (body.get? (js "price")) ∧
      IsText (body.get? (js "currency")) := by
  simp only [checkOffer, requireSession, bind_eq_ok, orThrow_eq_ok, Option.some.injEq,
    answerValidation_eq_ok] at h
  obtain ⟨_, rfl, -, hvalid, mint, -, ⟨⟩, hamount, -⟩ := h
  simp only [validateOffer, bind_eq_ok, require_eq_ok, liftThrown_eq_ok] at hvalid
  obtain ⟨-, -, -, -, -, -, -, -, -, -, -, hseller, -, -, -, -, -, hcurrency, -⟩ := hvalid
  exact ⟨.of_startsWithText hseller, .of_amount hamount, _, hcurrency⟩

theorem checkCounter_ok {env : EngineEnv} {now : ℤ} {r : JsString} {body : Json}
    {s : DerivedSession} (h : checkCounter env now r body (some s) = .ok ()) :
    body.get? (js "from") = some (.str s.rfq.buyer) ∧ IsText (body.get? (js "price")) ∧
      ∃ round, body.get? (js "round") = some (.num round) := by
  simp only [checkCounter, requireSession, bind_eq_ok, orThrow_eq_ok, Option.some.injEq,
    answerValidation_eq_ok, require_eq_ok] at h
  obtain ⟨_, rfl, -, hvalid, mint, -, ⟨⟩, hamount, -, -, -, -, -, hfrom, -⟩ := h
  simp only [validateCounter, bind_eq_ok, require_eq_ok, liftThrown_eq_ok] at hvalid
  obtain ⟨-, -, -, -, -, -, -, -, -, -, -, hround, -⟩ := hvalid
  refine ⟨hfrom, .of_amount hamount, ?_⟩
  unfold isPositiveInteger at hround
  split at hround
  · exact ⟨_, ‹_›⟩
  · simp at hround

/-! ### Appends -/

theorem applyEvent_isOk {s : DerivedSession} {event : NegotiationEvent} {next : SessionState}
    (hnext : isValidTransition s.state event.type = some next)
    (h : ∃ s', applyPayload { s with state := next, lastEventId := event.eventId } event =
      .ok s') : ∃ s', applyEvent s event = .ok s' := by
  simpa only [applyEvent, hnext, orThrow, ok_bind] using h

/-- The event of a bid: its ids, and that it replays after the log that the callback saw. -/
structure AcceptedBid (m : Moment) (r : JsString) (before : Option DerivedSession)
    (event : NegotiationEvent) : Prop where
  eventId : event.eventId = m.eventId
  rfqId : event.rfqId = r
  replays : match before with
    | none => ∃ s, initialSession event = .ok s
    | some s₀ => s₀.state.isTerminal = false ∧ ∃ s, applyEvent s₀ event = .ok s

theorem lockedRfq_accepted {env : EngineEnv} {now : ℤ} {m : Moment} {r : JsString} {body : Json}
    {before : Option DerivedSession} {event : NegotiationEvent}
    (hcheck : checkRfq env now body = .ok ()) (hrfqId : body.get? (js "rfq_id") = some (.str r))
    (hdeadline : IsText (body.get? (js "deadline")))
    (hserviceType : IsText (body.get? (js "service_type")))
    (hlocked : lockedRfq m r body before = .ok event) : AcceptedBid m r before event := by
  simp only [lockedRfq, requireNewRfq, bind_eq_ok, require_eq_ok, pure_eq_ok,
    Option.isSome_eq_false_iff, Option.isNone_iff_eq_none] at hlocked
  obtain ⟨-, rfl, timestamp, -, rfl⟩ := hlocked
  obtain ⟨hbuyer, hprice, hcurrency⟩ := checkRfq_texts hcheck
  refine ⟨rfl, rfl, initialSession_isOk rfl ?_⟩
  have hkeys : [js "rfq_id", js "protocol", js "buyer", js "service_type", js "spec",
      js "anchor_price", js "currency", js "deadline", js "signature", js "budget_commitment",
      js "extensions"].Nodup := by decide +kernel
  have hlookup := lookup_of_mem_defined ([js "rfq_id", js "protocol", js "buyer",
    js "service_type", js "spec", js "anchor_price", js "currency", js "deadline", js "signature",
    js "budget_commitment", js "extensions"].map fun key => (key, body.get? key)) hkeys
  simp only [List.map_cons, List.map_nil, List.forall_mem_cons, List.not_mem_nil, false_imp_iff,
    implies_true, and_true] at hlookup ⊢
  obtain ⟨h1, -, h3, h4, -, h6, h7, h8, -⟩ := hlookup
  simp only [extractRfqFields, pick, List.map_cons, List.map_nil]
  rw [h1, h3, h4, h6, h7, h8]
  exact ⟨hbuyer, ⟨r, hrfqId⟩, hprice, hcurrency, hdeadline, hserviceType⟩

theorem lockedOffer_accepted {env : EngineEnv} {now : ℤ} {m : Moment} {listings : ListingStore}
    {r : JsString} {body : Json} {s : DerivedSession} {before : Option DerivedSession}
    {event : NegotiationEvent} (hcheck : checkOffer env now r body (some s) = .ok ())
    (hofferId : IsText (body.get? (js "offer_id")))
    (hvalidUntil : IsText (body.get? (js "valid_until")))
    (hlocked : lockedOffer env m listings r body before = .ok event) :
    AcceptedBid m r before event := by
  simp only [lockedOffer, requireSession, assertState, bind_eq_ok, orThrow_eq_ok, require_eq_ok,
    pure_eq_ok] at hlocked
  obtain ⟨s₀, rfl, -, -, -, hstate, -, -, -, -, -, -, listing, -, -, -, timestamp, -,
    rfl⟩ := hlocked
  obtain ⟨-, hprice, hcurrency⟩ := checkOffer_texts hcheck
  have hkeys : [js "rfq_id", js "offer_id", js "seller", js "price", js "currency",
      js "valid_until", js "signature", js "listing_id", js "payment_endpoint",
      js "extensions"].Nodup := by decide +kernel
  have hopen : s₀.state.isTerminal = false ∧
      ∃ next, isValidTransition s₀.state .offerSubmitted = some next := by
    rcases List.mem_cons.mp hstate with h | h
    · rw [h]
      exact ⟨rfl, _, rfl⟩
    · rw [List.mem_singleton.mp h]
      exact ⟨rfl, _, rfl⟩
  obtain ⟨hlive, next, hnext⟩ := hopen
  have hlookup := lookup_of_mem_defined ([(js "rfq_id", some (.str r)),
    (js "offer_id", body.get? (js "offer_id")),
    (js "seller", some (.str (castText (body.get? (js "seller"))))),
    (js "price", body.get? (js "price")), (js "currency", body.get? (js "currency")),
    (js "valid_until", body.get? (js "valid_until")),
    (js "signature", body.get? (js "signature")),
    (js "listing_id", some (.str (castText (body.get? (js "listing_id"))))),
    (js "payment_endpoint", some (.str listing.paymentEndpoint)),
    (js "extensions", body.get? (js "extensions"))]) hkeys
  simp only [List.forall_mem_cons, List.not_mem_nil, false_imp_iff, implies_true,
    and_true] at hlookup
  obtain ⟨-, h2, h3, h4, h5, h6, -, h8, h9, -⟩ := hlookup
  refine ⟨rfl, rfl, hlive, applyEvent_isOk hnext (applyOfferSubmitted_isOk ?_ h3)⟩
  simp only [List.forall_mem_cons, List.not_mem_nil, false_imp_iff, implies_true, and_true]
  rw [h2, h4, h5, h6, h8, h9]
  exact ⟨hofferId, hprice, hcurrency, hvalidUntil, ⟨_, rfl⟩, ⟨_, rfl⟩⟩

theorem lockedCounter_accepted {env : EngineEnv} {now : ℤ} {m : Moment} {r : JsString}
    {body : Json} {s : DerivedSession} {before : Option DerivedSession} {event : NegotiationEvent}
    (hcheck : checkCounter env now r body (some s) = .ok ())
    (hcounterId : IsText (body.get? (js "counter_id")))
    (hsame : ∀ s₀, before = some s₀ → s₀.rfq = s.rfq)
    (hlocked : lockedCounter env m r body before = .ok event) : AcceptedBid m r before event := by
  simp only [lockedCounter, requireSession, assertState, bind_eq_ok, orThrow_eq_ok,
    require_eq_ok, pure_eq_ok] at hlocked
  obtain ⟨s₀, rfl, -, -, -, hstate, -, ⟨o, ho, hto⟩, -, -, -, -, timestamp, -, rfl⟩ := hlocked
  obtain ⟨hfrom, hprice, round, hround⟩ := checkCounter_ok hcheck
  have hsender : castText (body.get? (js "from")) = s.rfq.buyer := by
    rw [castText, hfrom]
    rfl
  rw [List.mem_singleton] at hstate
  have hnext : isValidTransition s₀.state .counterSent = some .negotiating := by rw [hstate]; rfl
  have hkeys : [js "rfq_id", js "counter_id", js "round", js "from", js "to", js "price",
      js "currency", js "valid_until", js "signature", js "budget_proof",
      js "extensions"].Nodup := by decide +kernel
  have hlookup := lookup_of_mem_defined ([(js "rfq_id", some (.str r)),
    (js "counter_id", body.get? (js "counter_id")), (js "round", body.get? (js "round")),
    (js "from", body.get? (js "from")), (js "to", body.get? (js "to")),
    (js "price", body.get? (js "price")), (js "currency", body.get? (js "currency")),
    (js "valid_until", body.get? (js "valid_until")),
    (js "signature", body.get? (js "signature")),
    (js "budget_proof", body.get? (js "budget_proof")),
    (js "extensions", body.get? (js "extensions"))]) hkeys
  simp only [List.forall_mem_cons, List.not_mem_nil, false_imp_iff, implies_true,
    and_true] at hlookup
  obtain ⟨-, h2, h3, h4, h5, h6, -⟩ := hlookup
  refine ⟨rfl, rfl, by rw [hstate]; rfl, applyEvent_isOk hnext
    (applyCounterSent_isOk ?_ (h3.trans hround) ?_ (h5.trans hto) ?_ ⟨o, ho, rfl⟩)⟩
  · simp only [List.forall_mem_cons, List.not_mem_nil, false_imp_iff, implies_true, and_true]
    rw [h2, h6]
    exact ⟨hcounterId, hprice⟩
  · exact h4.trans (by rw [hsender, hfrom])
  · rw [hsender, ← hsame s₀ rfl]

end GhostBazaar.Engine
