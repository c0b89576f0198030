import GhostBazaar.Engine.Session

/-! What one event can do to a session, and the invariant that every replay keeps. -/
namespace GhostBazaar.Engine
open Js

/-! ### Inversion of one event -/

/-- The session after a logged event: the transition taken and the fields written. -/
inductive EventStep (s : DerivedSession) (event : NegotiationEvent) : DerivedSession → Prop where
  | offerSubmitted (offer : RecordedOffer) (hstate : s.state = .open ∨ s.state = .negotiating)
      (htype : event.type = .offerSubmitted) (hactor : event.actor = offer.seller)
      (hpayload : event.payload.lookup (js "offer_id") = some (.str offer.offerId))
      (hseller : event.payload.lookup (js "seller") = some (.str offer.seller)) :
      EventStep s event { s with
        state := .negotiating
        lastEventId := event.eventId
        offers := s.offers ++ [offer]
        totalOfferCount := s.totalOfferCount + 1
        offerCountBySeller := s.offerCountBySeller.increment offer.seller }
  | counterSent (counter : RecordedCounter) (hstate : s.state = .negotiating)
      (htype : event.type = .counterSent) (hactor : event.actor = s.rfq.buyer)
      (hid : event.payload.lookup (js "counter_id") = some (.str counter.counterId))
      (hround : event.payload.lookup (js "round") = some (.num counter.round))
      (hto : event.payload.lookup (js "to") = some (.str counter.to))
      (hoffer : ∃ o ∈ s.offers, o.seller = counter.to) :
      EventStep s event { s with
        state := .negotiating
        lastEventId := event.eventId
        counters := s.counters ++ [counter] }
  | winnerSelected (offer : RecordedOffer) (hstate : s.state = .negotiating)
      (htype : event.type = .winnerSelected) (hactor : event.actor = s.rfq.buyer)
      (hoffer : findOffer s.offers offer.offerId = some offer)
      (hpayload : event.payload.lookup (js "offer_id") = some (.str offer.offerId))
      (hseller : event.payload.lookup (js "seller") = some (.str offer.seller)) :
      EventStep s event { s with
        state := .commitPending
        lastEventId := event.eventId
        selectedSeller := some offer.seller
        selectedOfferId := some offer.offerId
        quoteRevision := s.quoteRevision + 1
        totalAcceptAttempts := s.totalAcceptAttempts + 1
        acceptAttemptsBySeller := s.acceptAttemptsBySeller.increment offer.seller
        unsignedQuote := (optObject event.payload (js "quote")).or s.unsignedQuote
        commitPendingAt := some event.timestamp
        buyerSignature := none
        sellerSignature := none }
  | rollback (seller : JsString) (hstate : s.state = .commitPending)
      (htype : event.type = .cosignDeclined ∨ event.type = .cosignTimeout)
      (hseller : s.selectedSeller = some seller)
      (hactor : event.type = .cosignDeclined → event.actor = seller) :
      EventStep s event { s with
        state := .negotiating
        lastEventId := event.eventId
        selectedSeller := none
        selectedOfferId := none
        unsignedQuote := none
        buyerSignature := none
        sellerSignature := none
        commitPendingAt := none }
  | quoteSigned (seller signature : JsString) (hstate : s.state = .commitPending)
      (htype : event.type = .quoteSigned) (hseller : s.selectedSeller = some seller)
      (hactor : event.actor = s.rfq.buyer)
      (hpayload : event.payload.lookup (js "buyer_signature") = some (.str signature)) :
      EventStep s event { s with
        state := .commitPending
        lastEventId := event.eventId
        buyerSignature := some signature }
  | quoteCommitted (signature : JsString) (hstate : s.state = .commitPending)
      (htype : event.type = .quoteCommitted) (hseller : s.selectedSeller = some event.actor)
      (hpayload : event.payload.lookup (js "seller_signature") = some (.str signature)) :
      EventStep s event { s with
        state := .committed
        lastEventId := event.eventId
        sellerSignature := some signature }
  | marker (htype : event.type = .commitPending ∧ s.state = .commitPending ∨
        event.type = .settlementConfirmed ∧ s.state = .committed) :
      EventStep s event { s with lastEventId := event.eventId }
  | expired (hstate : s.state = .open ∨ s.state = .negotiating ∨ s.state = .commitPending)
      (htype : event.type = .negotiationExpired) :
      EventStep s event { s with state := .expired, lastEventId := event.eventId }
  | cancelled (hstate : s.state = .open ∨ s.state = .negotiating)
      (htype : event.type = .negotiationCancelled) :
      EventStep s event { s with state := .cancelled, lastEventId := event.eventId }

theorem num_eq_ok {payload : Members} {key eventId : JsString} {x : JsNumber} :
    num payload key eventId = .ok x ↔ payload.lookup key = some (.num x) := by
  rw [num, orThrow_eq_ok, Option.bind_eq_some_iff]
  constructor
  · rintro ⟨v, hv, hx⟩
    cases v with
    | num y =>
      rw [asNum, Option.some.injEq] at hx
      rw [hv, hx]
    | _ => simp [asNum] at hx
  · intro h
    exact ⟨.num x, h, rfl⟩

theorem str_eq_ok {payload : Members} {key eventId s : JsString} :
    str payload key eventId = .ok s ↔ payload.lookup key = some (.str s) := by
  rw [str, orThrow_eq_ok, JsValue.asStr_eq_some]

theorem findOffer_eq_some {offers : List RecordedOffer} {id : JsString} {o : RecordedOffer}
    (h : findOffer offers id = some o) : o ∈ offers ∧ o.offerId = id :=
  ⟨List.mem_of_find?_eq_some h, by simpa using List.find?_some h⟩

theorem applyOfferSubmitted_step {s : DerivedSession} {event : NegotiationEvent}
    {s' : DerivedSession} (h : applyOfferSubmitted s event = .ok s') :
    ∃ offer : RecordedOffer, event.actor = offer.seller ∧
      event.payload.lookup (js "offer_id") = some (.str offer.offerId) ∧
      event.payload.lookup (js "seller") = some (.str offer.seller) ∧ s' = { s with
      offers := s.offers ++ [offer]
      totalOfferCount := s.totalOfferCount + 1
      offerCountBySeller := s.offerCountBySeller.increment offer.seller } := by
  simp only [applyOfferSubmitted, bind_eq_ok, ensure_eq_ok, pure_eq_ok, str_eq_ok] at h
  obtain ⟨_, hid, _, hseller, _, -, _, -, _, -, _, -, _, -, -, hactor, rfl⟩ := h
  exact ⟨_, hactor, hid, hseller, rfl⟩

theorem applyCounterSent_step {s : DerivedSession} {event : NegotiationEvent}
    {s' : DerivedSession} (h : applyCounterSent s event = .ok s') :
    ∃ counter : RecordedCounter, event.actor = s.rfq.buyer ∧
      event.payload.lookup (js "counter_id") = some (.str counter.counterId) ∧
      event.payload.lookup (js "round") = some (.num counter.round) ∧
      event.payload.lookup (js "to") = some (.str counter.to) ∧
      (∃ o ∈ s.offers, o.seller = counter.to) ∧
      s' = { s with counters := s.counters ++ [counter] } := by
  simp only [applyCounterSent, bind_eq_ok, ensure_eq_ok, pure_eq_ok, str_eq_ok, num_eq_ok] at h
  obtain ⟨_, hid, _, hround, sender, -, _, hto, _, -, -, hactor, -, hbuyer, -, hoffer, rfl⟩ := h
  exact ⟨_, hactor.trans hbuyer, hid, hround, hto, hoffer, rfl⟩

theorem applyWinnerSelected_step {s : DerivedSession} {event : NegotiationEvent}
    {s' : DerivedSession} (h : applyWinnerSelected s event = .ok s') :
    ∃ offer : RecordedOffer, event.actor = s.rfq.buyer ∧
      findOffer s.offers offer.offerId = some offer ∧
      event.payload.lookup (js "offer_id") = some (.str offer.offerId) ∧
      event.payload.lookup (js "seller") = some (.str offer.seller) ∧ s' = { s with
        selectedSeller := some offer.seller
        selectedOfferId := some offer.offerId
        quoteRevision := s.quoteRevision + 1
        totalAcceptAttempts := s.totalAcceptAttempts + 1
        acceptAttemptsBySeller := s.acceptAttemptsBySeller.increment offer.seller
        unsignedQuote := (optObject event.payload (js "quote")).or s.unsignedQuote
        commitPendingAt := some event.timestamp
        buyerSignature := none
        sellerSignature := none } := by
  simp only [applyWinnerSelected, bind_eq_ok, ensure_eq_ok, orThrow_eq_ok, pure_eq_ok,
    str_eq_ok] at h
  obtain ⟨seller, hseller, offerId, hid, -, hactor, offer, hoffer, -, rfl, rfl⟩ := h
  obtain ⟨-, rfl⟩ := findOffer_eq_some hoffer
  exact ⟨offer, hactor, hoffer, hid, hseller, rfl⟩

theorem applyRollback_step {s : DerivedSession} {event : NegotiationEvent}
    {s' : DerivedSession} (h : applyRollback s event = .ok s') :
    ∃ seller, s.selectedSeller = some seller ∧
      (event.type = .cosignDeclined → event.actor = seller) ∧ s' = { s with
        selectedSeller := none
        selectedOfferId := none
        unsignedQuote := none
        buyerSignature := none
        sellerSignature := none
        commitPendingAt := none } := by
  simp only [applyRollback, ensureSelected, ensureActorSelected, bind_eq_ok, ensure_eq_ok] at h
  obtain ⟨seller, -, -, hseller, h⟩ := h
  by_cases hdeclined : event.type = .cosignDeclined
  · simp only [hdeclined, if_true, bind_eq_ok, ensure_eq_ok] at h
    obtain ⟨-, hactor, h⟩ := h
    exact ⟨seller, hseller, fun _ => Option.some.inj (hactor.symm.trans hseller),
      (Except.ok.inj h).symm⟩
  · rw [if_neg hdeclined] at h
    exact ⟨seller, hseller, fun h => absurd h hdeclined, (Except.ok.inj h).symm⟩

theorem applyQuoteSigned_step {s : DerivedSession} {event : NegotiationEvent}
    {s' : DerivedSession} (h : applyQuoteSigned s event = .ok s') :
    ∃ seller signature, s.selectedSeller = some seller ∧ event.actor = s.rfq.buyer ∧
      event.payload.lookup (js "buyer_signature") = some (.str signature) ∧
      s' = { s with buyerSignature := some signature } := by
  simp only [applyQuoteSigned, ensureSelected, bind_eq_ok, ensure_eq_ok, pure_eq_ok,
    str_eq_ok] at h
  obtain ⟨seller, -, -, hseller, -, hactor, signature, hsig, rfl⟩ := h
  exact ⟨seller, signature, hseller, hactor, hsig, rfl⟩

theorem applyQuoteCommitted_step {s : DerivedSession} {event : NegotiationEvent}
    {s' : DerivedSession} (h : applyQuoteCommitted s event = .ok s') :
    ∃ signature, s.selectedSeller = some event.actor ∧
      event.payload.lookup (js "seller_signature") = some (.str signature) ∧
      s' = { s with sellerSignature := some signature } := by
  simp only [applyQuoteCommitted, ensureSelected, ensureActorSelected, bind_eq_ok, ensure_eq_ok,
    pure_eq_ok, str_eq_ok] at h
  obtain ⟨_, -, -, -, -, hactor, signature, hsig, rfl⟩ := h
  exact ⟨signature, hactor, hsig, rfl⟩

theorem applyEvent_step {s : DerivedSession} {event : NegotiationEvent} {s' : DerivedSession}
    (h : applyEvent s event = .ok s') : EventStep s event s' := by
  rw [applyEvent, bind_eq_ok] at h
  obtain ⟨next, hnext, h⟩ := h
  rw [orThrow_eq_ok] at hnext
  rw [applyPayload] at h
  cases htype : event.type with
  | rfqCreated => cases hs : s.state <;> simp [hs, htype, isValidTransition] at hnext
  | offerSubmitted =>
    simp only [htype] at h hnext
    obtain ⟨offer, hactor, hid, hseller, rfl⟩ := applyOfferSubmitted_step h
    have hstate : (s.state = .open ∨ s.state = .negotiating) ∧ next = .negotiating := by
      cases hs : s.state <;> simp_all [isValidTransition]
    rw [hstate.2]
    exact .offerSubmitted offer hstate.1 htype hactor hid hseller
  | counterSent =>
    simp only [htype] at h hnext
    obtain ⟨counter, hactor, hid, hround, hto, hoffer, rfl⟩ := applyCounterSent_step h
    have hstate : s.state = .negotiating ∧ next = .negotiating := by
      cases hs : s.state <;> simp_all [isValidTransition]
    rw [hstate.2]
    exact .counterSent counter hstate.1 htype hactor hid hround hto hoffer
  | winnerSelected =>
    simp only [htype] at h hnext
    obtain ⟨offer, hactor, hoffer, hid, hseller, rfl⟩ := applyWinnerSelected_step h
    have hstate : s.state = .negotiating ∧ next = .commitPending := by
      cases hs : s.state <;> simp_all [isValidTransition]
    rw [hstate.2]
    exact .winnerSelected offer hstate.1 htype hactor hoffer hid hseller
  | commitPending =>
    simp only [htype, Except.ok.injEq] at h hnext
    have hstate : s.state = .commitPending ∧ next = s.state := by
      cases hs : s.state <;> simp_all [isValidTransition]
    rw [← h, hstate.2]
    exact .marker (Or.inl ⟨htype, hstate.1⟩)
  | quoteSigned =>
    simp only [htype] at h hnext
    obtain ⟨seller, signature, hseller, hactor, hsig, rfl⟩ := applyQuoteSigned_step h
    have hstate : s.state = .commitPending ∧ next = .commitPending := by
      cases hs : s.state <;> simp_all [isValidTransition]
    rw [hstate.2]
    exact .quoteSigned seller signature hstate.1 htype hseller hactor hsig
  | quoteCommitted =>
    simp only [htype] at h hnext
    obtain ⟨signature, hseller, hsig, rfl⟩ := applyQuoteCommitted_step h
    have hstate : s.state = .commitPending ∧ next = .committed := by
      cases hs : s.state <;> simp_all [isValidTransition]
    rw [hstate.2]
    exact .quoteCommitted signature hstate.1 htype hseller hsig
  | cosignDeclined | cosignTimeout =>
    simp only [htype] at h hnext
    obtain ⟨seller, hseller, hactor, rfl⟩ := applyRollback_step h
    have hstate : s.state = .commitPending ∧ next = .negotiating := by
      cases hs : s.state <;> simp_all [isValidTransition]
    rw [hstate.2]
    exact .rollback seller hstate.1 (by simp [htype]) hseller hactor
  | negotiationExpired =>
    simp only [htype, Except.ok.injEq] at h hnext
    have hstate : (s.state = .open ∨ s.state = .negotiating ∨ s.state = .commitPending) ∧
        next = .expired := by
      cases hs : s.state <;> simp_all [isValidTransition]
    rw [← h, hstate.2]
    exact .expired hstate.1 htype
  | negotiationCancelled =>
    simp only [htype, Except.ok.injEq] at h hnext
    have hstate : (s.state = .open ∨ s.state = .negotiating) ∧ next = .cancelled := by
      cases hs : s.state <;> simp_all [isValidTransition]
    rw [← h, hstate.2]
    exact .cancelled hstate.1 htype
  | settlementConfirmed =>
    simp only [htype, Except.ok.injEq] at h hnext
    have hstate : s.state = .committed ∧ next = s.state := by
      cases hs : s.state <;> simp_all [isValidTransition]
    rw [← h, hstate.2]
    exact .marker (Or.inr ⟨htype, hstate.1⟩)

/-- The transition table alone decides the next state. -/
theorem EventStep.transition {s : DerivedSession} {event : NegotiationEvent}
    {s' : DerivedSession} (h : EventStep s event s') :
    isValidTransition s.state event.type = some s'.state := by
  cases h with
  | marker htype =>
    rcases htype with ⟨htype, hstate⟩ | ⟨htype, hstate⟩ <;> simp [htype, hstate, isValidTransition]
  | _ => grind [isValidTransition]

/-- No event moves a session out of a terminal state. -/
theorem EventStep.live {s : DerivedSession} {event : NegotiationEvent} {s' : DerivedSession}
    (h : EventStep s event s') (hs : s'.state.isTerminal = false) : s.state.isTerminal = false := by
  by_contra hterminal
  rw [Bool.not_eq_false] at hterminal
  obtain ⟨-, hcommitted, -⟩ := isValidTransition_terminal hterminal h.transition
  simp [hcommitted, SessionState.isTerminal] at hs

theorem EventStep.rfq {s : DerivedSession} {event : NegotiationEvent} {s' : DerivedSession}
    (h : EventStep s event s') : s'.rfq = s.rfq := by
  cases h <;> rfl

theorem EventStep.lastEventId {s : DerivedSession} {event : NegotiationEvent}
    {s' : DerivedSession} (h : EventStep s event s') : s'.lastEventId = event.eventId := by
  cases h <;> rfl

/-- A committed session only gets settlement events, which are no part of its state. -/
theorem EventStep.committed {s : DerivedSession} {event : NegotiationEvent}
    {s' : DerivedSession} (h : EventStep s event s') (hs : s.state = .committed) :
    s' = { s with lastEventId := event.eventId } ∧ event.type = .settlementConfirmed := by
  cases h with
  | marker htype =>
    rcases htype with ⟨-, hstate⟩ | ⟨htype, -⟩
    · simp [hs] at hstate
    · exact ⟨rfl, htype⟩
  | _ => simp_all

/-! ### Longer logs -/

/-- The last event of a log that replays opens the session, or is a step of it. -/
theorem derives_append {log : List NegotiationEvent} {event : NegotiationEvent}
    {s : DerivedSession} (h : deriveState (log ++ [event]) = .ok (some s)) :
    (log = [] ∧ initialSession event = .ok s) ∨ ∃ first s₀, log.head? = some first ∧
      deriveState log = .ok (some s₀) ∧ EventStep s₀ event s := by
  cases log with
  | nil =>
    simp only [List.nil_append, deriveState, List.foldlM_nil, bind_eq_ok, pure_eq_ok,
      Option.some.injEq] at h
    obtain ⟨s', hs', _, rfl, rfl⟩ := h
    exact Or.inl ⟨rfl, hs'⟩
  | cons first rest =>
    obtain ⟨s₀, hs₀, happly⟩ := deriveState_append_singleton.mp h
    exact Or.inr ⟨first, s₀, rfl, hs₀, applyEvent_step happly⟩

/-- Induction on a log that replays. -/
theorem derives_induction {C : List NegotiationEvent → DerivedSession → Prop}
    (hfirst : ∀ event s, initialSession event = .ok s → C [event] s)
    (hnext : ∀ log event s s', deriveState log = .ok (some s) → EventStep s event s' →
      C log s → C (log ++ [event]) s')
    {log : List NegotiationEvent} {s : DerivedSession} (hs : deriveState log = .ok (some s)) :
    C log s := by
  induction log using List.reverseRecOn generalizing s with
  | nil => simp [deriveState] at hs
  | append_singleton log event ih =>
    rcases derives_append hs with ⟨rfl, hopen⟩ | ⟨first, s₀, -, hs₀, hstep⟩
    · exact hfirst event s hopen
    · exact hnext log event s₀ s hs₀ hstep (ih hs₀)

/-- A log that replays is a shorter one, replayed, and then the rest of its events. -/
theorem deriveState_append {log more : List NegotiationEvent} {s s' : DerivedSession}
    (hs : deriveState log = .ok (some s)) (hs' : deriveState (log ++ more) = .ok (some s')) :
    more.foldlM applyEvent s = .ok s' := by
  cases log with
  | nil => simp [deriveState] at hs
  | cons first rest =>
    simp only [List.cons_append, deriveState, List.foldlM_append, bind_eq_ok, pure_eq_ok,
      Option.some.injEq] at hs hs'
    obtain ⟨s₀, hs₀, _, hrest, rfl⟩ := hs
    obtain ⟨s₀', hs₀', _, ⟨s₁, hs₁, hmore⟩, rfl⟩ := hs'
    obtain rfl : s₀ = s₀' := by simpa using hs₀.symm.trans hs₀'
    rw [hrest, Except.ok.injEq] at hs₁
    exact hs₁ ▸ hmore

theorem rfq_eq_of_prefix {log log' : List NegotiationEvent} {s s' : DerivedSession}
    (hp : log <+: log') (hs : deriveState log = .ok (some s))
    (hs' : deriveState log' = .ok (some s')) : s'.rfq = s.rfq := by
  obtain ⟨more, rfl⟩ := hp
  exact foldlM_ok_induction (P := fun s₁ => s₁.rfq = s.rfq)
    (fun _ _ _ h hstep => (applyEvent_step hstep).rfq.trans h) rfl (deriveState_append hs hs')

/-- Once committed, a session stays as it is. -/
theorem committed_of_prefix {log log' : List NegotiationEvent} {s s' : DerivedSession}
    (hp : log <+: log') (hs : deriveState log = .ok (some s))
    (hs' : deriveState log' = .ok (some s')) (hstate : s.state = .committed) :
    ∃ id, s' = { s with lastEventId := id } := by
  obtain ⟨more, rfl⟩ := hp
  refine foldlM_ok_induction (P := fun s₁ => ∃ id, s₁ = { s with lastEventId := id })
    ?_ ⟨_, rfl⟩ (deriveState_append hs hs')
  rintro _ event s₂ ⟨id, rfl⟩ hstep
  exact ⟨event.eventId, ((applyEvent_step hstep).committed hstate).1⟩

/-- `lastEventId` is the id of the last event. -/
theorem deriveState_lastEventId {log : List NegotiationEvent} {s : DerivedSession}
    (hs : deriveState log = .ok (some s)) :
    ∃ pre last, log = pre ++ [last] ∧ last.eventId = s.lastEventId := by
  refine derives_induction (C := fun log s =>
    ∃ pre last, log = pre ++ [last] ∧ last.eventId = s.lastEventId) ?_ ?_ hs
  · intro event s hopen
    simp only [initialSession, bind_eq_ok, ensure_eq_ok, pure_eq_ok] at hopen
    obtain ⟨-, -, _, -, _, -, _, -, _, -, _, -, _, -, rfl⟩ := hopen
    exact ⟨[], event, rfl, rfl⟩
  · intro log event s s' _ hstep _
    exact ⟨log, event, rfl, hstep.lastEventId.symm⟩

/-! ### The invariant of a derived session -/

/-- No seller is selected and no quote is in progress. -/
def DerivedSession.Uncommitted (s : DerivedSession) : Prop :=
  s.selectedSeller = none ∧ s.selectedOfferId = none ∧ s.unsignedQuote = none ∧
    s.buyerSignature = none ∧ s.sellerSignature = none ∧ s.commitPendingAt = none

/-- A recorded offer is selected, together with its seller. -/
def DerivedSession.Selected (s : DerivedSession) : Prop :=
  ∃ offer, findOffer s.offers offer.offerId = some offer ∧ s.selectedSeller = some offer.seller ∧
    s.selectedOfferId = some offer.offerId ∧ s.commitPendingAt.isSome

def offersOf (offers : List RecordedOffer) (seller : JsString) : ℕ :=
  offers.countP fun o => o.seller = seller

structure SessionInv (s : DerivedSession) : Prop where
  uncommitted : s.state = .open ∨ s.state = .negotiating ∨ s.state = .cancelled → s.Uncommitted
  selected : s.state = .commitPending ∨ s.state = .committed → s.Selected
  together : s.Selected ∨ s.selectedSeller = none ∧ s.selectedOfferId = none ∧
    s.commitPendingAt = none
  sellerSigned : s.sellerSignature.isSome ↔ s.state = .committed
  revision : s.quoteRevision = s.totalAcceptAttempts
  attempts : s.totalAcceptAttempts = s.acceptAttemptsBySeller.total
  offerCount : s.totalOfferCount = s.offers.length
  offerTotal : s.totalOfferCount = s.offerCountBySeller.total
  offerEntry : ∀ seller,
    (s.offerCountBySeller.get? seller).getD 0 = offersOf s.offers seller

theorem initialSession_state {first : NegotiationEvent} {s : DerivedSession}
    (h : initialSession first = .ok s) : s.state = .open ∧ s.offers = [] ∧ s.Uncommitted ∧
      s.quoteRevision = 0 ∧ s.totalOfferCount = 0 ∧ s.offerCountBySeller = .empty ∧
      s.totalAcceptAttempts = 0 ∧ s.acceptAttemptsBySeller = .empty ∧
      first.type = .rfqCreated ∧ s.lastEventId = first.eventId := by
  simp only [initialSession, bind_eq_ok, ensure_eq_ok, pure_eq_ok] at h
  obtain ⟨-, htype, _, -, _, -, _, -, _, -, _, -, _, -, rfl⟩ := h
  exact ⟨rfl, rfl, ⟨rfl, rfl, rfl, rfl, rfl, rfl⟩, rfl, rfl, rfl, rfl, rfl, htype, rfl⟩

theorem initialSession_inv {first : NegotiationEvent} {s : DerivedSession}
    (h : initialSession first = .ok s) : SessionInv s := by
  obtain ⟨hstate, hoffers, hun, hrev, hcount, hby, hatt, hattBy, -, -⟩ := initialSession_state h
  obtain ⟨hseller, hid, hquote, hbuyer, hsig, hat⟩ := hun
  refine
    { uncommitted := fun _ => ⟨hseller, hid, hquote, hbuyer, hsig, hat⟩
      selected := by simp [hstate]
      together := Or.inr ⟨hseller, hid, hat⟩
      sellerSigned := by simp [hsig, hstate]
      revision := by rw [hrev, hatt]
      attempts := by rw [hatt, hattBy, JsMap.total_empty]
      offerCount := by simp [hcount, hoffers]
      offerTotal := by rw [hcount, hby, JsMap.total_empty]
      offerEntry := fun seller => by simp [hby, hoffers, offersOf] }

/-- Recording an offer keeps the per-seller counters in step. -/
theorem offerEntry_increment {m : JsMap JsString ℕ} {offers : List RecordedOffer}
    (h : ∀ seller, (m.get? seller).getD 0 = offersOf offers seller) (offer : RecordedOffer)
    (seller : JsString) : ((m.increment offer.seller).get? seller).getD 0 =
      offersOf (offers ++ [offer]) seller := by
  rw [JsMap.get?_increment, offersOf, List.countP_append, ← offersOf, ← h seller]
  by_cases heq : seller = offer.seller
  · simp [heq]
  · simp [heq, Ne.symm heq]

theorem EventStep.inv {s : DerivedSession} {event : NegotiationEvent} {s' : DerivedSession}
    (h : EventStep s event s') (hs : SessionInv s) : SessionInv s' := by
  have hunsigned (hne : s.state ≠ .committed) : s.sellerSignature = none := by
    simpa [hne] using hs.sellerSigned
  cases h with
  | offerSubmitted offer hstate _ _ _ =>
    have hun := hs.uncommitted (by tauto)
    exact
      { uncommitted := fun _ => hun
        selected := by simp
        together := Or.inr ⟨hun.1, hun.2.1, hun.2.2.2.2.2⟩
        sellerSigned := by simp [hun.2.2.2.2.1]
        revision := hs.revision
        attempts := hs.attempts
        offerCount := by simp [hs.offerCount]
        offerTotal := by rw [JsMap.total_increment, ← hs.offerTotal]
        offerEntry := offerEntry_increment hs.offerEntry offer }
  | counterSent counter hstate _ _ =>
    exact { hs with
      uncommitted := fun _ => hs.uncommitted (Or.inr (Or.inl hstate))
      selected := by simp
      sellerSigned := by simp [hunsigned (by simp [hstate])] }
  | winnerSelected offer hstate _ _ hoffer _ =>
    have hselected : ∃ o, findOffer s.offers o.offerId = some o ∧ some offer.seller = some o.seller ∧
        some offer.offerId = some o.offerId ∧ (some event.timestamp).isSome :=
      ⟨offer, hoffer, rfl, rfl, rfl⟩
    exact
      { uncommitted := by simp
        selected := fun _ => hselected
        together := Or.inl hselected
        sellerSigned := by simp
        revision := by rw [hs.revision]
        attempts := by rw [JsMap.total_increment, ← hs.attempts]
        offerCount := hs.offerCount
        offerTotal := hs.offerTotal
        offerEntry := hs.offerEntry }
  | rollback seller hstate _ _ _ =>
    exact { hs with
      uncommitted := fun _ => ⟨rfl, rfl, rfl, rfl, rfl, rfl⟩
      selected := by simp
      together := Or.inr ⟨rfl, rfl, rfl⟩
      sellerSigned := by simp }
  | quoteSigned seller signature hstate _ _ _ _ =>
    exact { hs with
      uncommitted := by simp
      selected := fun _ => hs.selected (Or.inl hstate)
      sellerSigned := by simp [hunsigned (by simp [hstate])] }
  | quoteCommitted signature hstate _ _ _ =>
    exact { hs with
      uncommitted := by simp
      selected := fun _ => hs.selected (Or.inl hstate)
      sellerSigned := by simp }
  | marker _ => exact { hs with }
  | expired hstate _ =>
    exact { hs with
      uncommitted := by simp
      selected := by simp
      sellerSigned := by
        have hne : s.state ≠ .committed := by rcases hstate with h | h | h <;> simp [h]
        simp [hunsigned hne] }
  | cancelled hstate _ =>
    have hun := hs.uncommitted (by tauto)
    exact { hs with
      uncommitted := fun _ => hun
      selected := by simp
      sellerSigned := by simp [hun.2.2.2.2.1] }

theorem deriveState_inv {events : List NegotiationEvent} {s : DerivedSession}
    (h : deriveState events = .ok (some s)) : SessionInv s := by
  cases events with
  | nil => simp [deriveState] at h
  | cons first rest =>
    simp only [deriveState, bind_eq_ok, pure_eq_ok, Option.some.injEq] at h
    obtain ⟨s₀, hfirst, s₁, hrest, rfl⟩ := h
    exact foldlM_ok_induction (fun _ _ _ hs hstep => (applyEvent_step hstep).inv hs)
      (initialSession_inv hfirst) hrest

theorem DerivedSession.Selected.isSome {s : DerivedSession} (h : s.Selected) :
    s.selectedSeller.isSome ∧ s.selectedOfferId.isSome ∧ s.commitPendingAt.isSome := by
  obtain ⟨offer, -, hseller, hid, hat⟩ := h
  simp [hseller, hid, hat]

/-- What a successful replay says about the commitment fields and the counters. -/
theorem deriveState_fields {events : List NegotiationEvent} {s : DerivedSession}
    (h : deriveState events = .ok (some s)) :
    (s.state = .open ∨ s.state = .negotiating ∨ s.state = .cancelled →
      s.selectedSeller = none ∧ s.selectedOfferId = none ∧ s.unsignedQuote = none ∧
        s.buyerSignature = none ∧ s.sellerSignature = none ∧ s.commitPendingAt = none) ∧
    (s.state = .commitPending ∨ s.state = .committed →
      s.selectedSeller.isSome ∧ s.selectedOfferId.isSome ∧ s.commitPendingAt.isSome ∧
        ∃ o ∈ s.offers, s.selectedOfferId = some o.offerId ∧ s.selectedSeller = some o.seller) ∧
    (s.selectedSeller.isSome = s.selectedOfferId.isSome ∧
      s.selectedOfferId.isSome = s.commitPendingAt.isSome) ∧
    (s.sellerSignature.isSome ↔ s.state = .committed) ∧
    s.quoteRevision = s.totalAcceptAttempts ∧
    s.totalAcceptAttempts = s.acceptAttemptsBySeller.total ∧
    s.totalOfferCount = s.offers.length ∧
    s.totalOfferCount = s.offerCountBySeller.total ∧
    ∀ seller, (s.offerCountBySeller.get? seller).getD 0 =
      s.offers.countP fun o => o.seller = seller := by
  have hs := deriveState_inv h
  refine ⟨hs.uncommitted, fun hstate => ?_, ?_, hs.sellerSigned, hs.revision, hs.attempts,
    hs.offerCount, hs.offerTotal, hs.offerEntry⟩
  · obtain ⟨hseller, hid, hat⟩ := (hs.selected hstate).isSome
    obtain ⟨offer, hoffer, hs₁, hs₂, -⟩ := hs.selected hstate
    exact ⟨hseller, hid, hat, offer, (findOffer_eq_some hoffer).1, hs₂, hs₁⟩
  · rcases hs.together with hsel | ⟨hseller, hid, hat⟩
    · obtain ⟨hseller, hid, hat⟩ := hsel.isSome
      simp [hseller, hid, hat]
    · simp [hseller, hid, hat]

/-! ### A negotiation that commits -/

def sampleBuyer : JsString := js "did:key:z6MkhaXgBZDvotDkL5257faiztiGiC2QtKLGpbnnEGta2doK"

def sampleSeller : JsString := js "did:key:z6MkpTHR8VNsBxYAAWHut2Geadd9jSwuBV8xRoAnwWsdvktH"

def sampleEvent (id : String) (type : EventType) (actor : JsString)
    (payload : List (String × JsString)) : NegotiationEvent :=
  ⟨js id, js "rfq-1", type, js "2026-03-01T12:00:00.000Z", actor,
    payload.map fun m => (js m.1, .str m.2)⟩

/-- One offer, accepted, declined, accepted again, signed and cosigned. -/
def committedLog : List NegotiationEvent :=
  [sampleEvent "e1" .rfqCreated sampleBuyer
    [("buyer", sampleBuyer), ("rfq_id", js "rfq-1"), ("anchor_price", js "10"),
      ("currency", js "USDC"), ("deadline", js "2026-03-02T12:00:00.000Z"),
      ("service_type", js "translation")],
  sampleEvent "e2" .offerSubmitted sampleSeller
    [("offer_id", js "offer-1"), ("seller", sampleSeller), ("price", js "9"),
      ("currency", js "USDC"), ("valid_until", js "2026-03-02T12:00:00.000Z"),
      ("listing_id", js "listing-1"), ("payment_endpoint", js "https://seller.example/execute")],
  sampleEvent "e3" .winnerSelected sampleBuyer
    [("seller", sampleSeller), ("offer_id", js "offer-1")],
  sampleEvent "e4" .quoteSigned sampleBuyer
    [("seller", sampleSeller), ("buyer_signature", js "ed25519:first")],
  sampleEvent "e5" .cosignDeclined sampleSeller [("seller", sampleSeller)],
  sampleEvent "e6" .winnerSelected sampleBuyer
    [("seller", sampleSeller), ("offer_id", js "offer-1")],
  sampleEvent "e7" .quoteSigned sampleBuyer
    [("seller", sampleSeller), ("buyer_signature", js "ed25519:second")],
  sampleEvent "e8" .quoteCommitted sampleSeller
    [("seller", sampleSeller), ("seller_signature", js "ed25519:seller")]]

theorem deriveState_fields_committedLog :
    ∃ s, deriveState committedLog = .ok (some s) ∧ s.quoteRevision = 2 ∧
      s.acceptAttemptsBySeller.total = 2 ∧ s.sellerSignature.isSome := by
  obtain ⟨s, hs, hstate, hrev⟩ : ∃ s, deriveState committedLog = .ok (some s) ∧
      s.state = .committed ∧ s.quoteRevision = 2 := ⟨_, rfl, rfl, rfl⟩
  obtain ⟨-, -, -, hsig, hatt, htotal, -⟩ := deriveState_fields hs
  exact ⟨s, hs, hrev, by omega, hsig.mpr hstate⟩

end GhostBazaar.Engine
