import GhostBazaar.Engine.CommittedQuote

/-! What a session admits: how many offers and accepts, under which ids and rounds, and
counters to whom. -/
namespace GhostBazaar.Engine
open Js Transition

/-! ### Events of one type -/

/-- One field of the events of this type, in the order of the log. -/
def fieldOf (type : EventType) (key : JsString) (log : List NegotiationEvent) : List JsValue :=
  (log.filter fun e => e.type = type).map fun e => e.payload.lookup key

/-- How many events of this type a log has. -/
def countOf (type : EventType) (log : List NegotiationEvent) : ℕ :=
  log.countP fun e => e.type = type

/-- How many of them name this seller. -/
def countFor (type : EventType) (seller : JsString) (log : List NegotiationEvent) : ℕ :=
  log.countP fun e => e.type = type ∧ e.payload.lookup (js "seller") = some (.str seller)

theorem fieldOf_snoc (type : EventType) (key : JsString) (log : List NegotiationEvent)
    (e : NegotiationEvent) : fieldOf type key (log ++ [e]) =
      fieldOf type key log ++ if e.type = type then [e.payload.lookup key] else [] := by
  rw [fieldOf, List.filter_append, List.map_append, ← fieldOf]
  by_cases he : e.type = type <;> simp [he]

theorem countOf_snoc (type : EventType) (log : List NegotiationEvent) (e : NegotiationEvent) :
    countOf type (log ++ [e]) = countOf type log + if e.type = type then 1 else 0 := by
  rw [countOf, List.countP_append, ← countOf, List.countP_singleton]
  simp

theorem countFor_snoc (type : EventType) (seller : JsString) (log : List NegotiationEvent)
    (e : NegotiationEvent) : countFor type seller (log ++ [e]) = countFor type seller log +
      if e.type = type ∧ e.payload.lookup (js "seller") = some (.str seller) then 1 else 0 := by
  rw [countFor, List.countP_append, ← countFor, List.countP_singleton]
  simp

theorem mem_fieldOf {type : EventType} {key : JsString} {log : List NegotiationEvent}
    {v : JsValue} : v ∈ fieldOf type key log ↔
      ∃ e ∈ log, e.type = type ∧ e.payload.lookup key = v := by
  simp [fieldOf, and_assoc]

/-! ### Limits -/

def offersBy (s : DerivedSession) (seller : JsString) : ℕ :=
  (s.offerCountBySeller.get? seller).getD 0

def acceptsOf (s : DerivedSession) (seller : JsString) : ℕ :=
  (s.acceptAttemptsBySeller.get? seller).getD 0

theorem getD_increment (m : JsMap JsString ℕ) (k l : JsString) :
    ((m.increment k).get? l).getD 0 = (m.get? l).getD 0 + if k = l then 1 else 0 := by
  rw [JsMap.get?_increment]
  by_cases hk : l = k
  · simp [hk]
  · simp [hk, Ne.symm hk]

/-- What an event adds to the four counters: no event takes anything away. -/
structure Counted (s : DerivedSession) (event : NegotiationEvent) (s' : DerivedSession) :
    Prop where
  offers : s'.totalOfferCount =
    s.totalOfferCount + if event.type = .offerSubmitted then 1 else 0
  offersBy : ∀ seller, offersBy s' seller = offersBy s seller +
    if event.type = .offerSubmitted ∧ event.payload.lookup (js "seller") = some (.str seller)
    then 1 else 0
  accepts : s'.totalAcceptAttempts =
    s.totalAcceptAttempts + if event.type = .winnerSelected then 1 else 0
  acceptsOf : ∀ seller, acceptsOf s' seller = acceptsOf s seller +
    if event.type = .winnerSelected ∧ event.payload.lookup (js "seller") = some (.str seller)
    then 1 else 0

theorem EventStep.counted {s : DerivedSession} {event : NegotiationEvent} {s' : DerivedSession}
    (hstep : EventStep s event s') : Counted s event s' := by
  cases hstep with
  | offerSubmitted offer _ htype _ _ hseller =>
    refine ⟨by simp [htype], fun seller => ?_, by simp [htype], by simp [htype, Engine.acceptsOf]⟩
    rw [Engine.offersBy, getD_increment, Engine.offersBy, htype, hseller]
    simp
  | winnerSelected offer _ htype _ _ _ hseller =>
    refine ⟨by simp [htype], by simp [htype, Engine.offersBy], by simp [htype], fun seller => ?_⟩
    rw [Engine.acceptsOf, getD_increment, Engine.acceptsOf, htype, hseller]
    simp
  | rollback _ _ htype =>
    have hother : event.type ≠ .offerSubmitted ∧ event.type ≠ .winnerSelected := by
      rcases htype with htype | htype <;> simp [htype]
    exact ⟨by simp [hother.1], by simp [hother.1, Engine.offersBy], by simp [hother.2],
      by simp [hother.2, Engine.acceptsOf]⟩
  | marker htype =>
    have hother : event.type ≠ .offerSubmitted ∧ event.type ≠ .winnerSelected := by
      rcases htype with ⟨htype, -⟩ | ⟨htype, -⟩ <;> simp [htype]
    exact ⟨by simp [hother.1], by simp [hother.1, Engine.offersBy], by simp [hother.2],
      by simp [hother.2, Engine.acceptsOf]⟩
  | counterSent _ _ htype | quoteSigned _ _ _ htype | quoteCommitted _ _ htype
  | expired _ htype | cancelled _ htype =>
    exact ⟨by simp [htype], by simp [htype, Engine.offersBy], by simp [htype],
      by simp [htype, Engine.acceptsOf]⟩

/-- The actor of an offer is its seller. -/
theorem EventStep.offer_actor {s : DerivedSession} {event : NegotiationEvent}
    {s' : DerivedSession} {seller : JsString} (hstep : EventStep s event s')
    (htype : event.type = .offerSubmitted)
    (hseller : event.payload.lookup (js "seller") = some (.str seller)) :
    event.actor = seller := by
  cases hstep with
  | offerSubmitted offer _ _ hactor _ hname =>
    obtain rfl : offer.seller = seller := by simpa using hname.symm.trans hseller
    exact hactor
  | rollback _ _ hother => rcases hother with hother | hother <;> simp [htype] at hother
  | marker hother => rcases hother with ⟨hother, -⟩ | ⟨hother, -⟩ <;> simp [htype] at hother
  | _ => simp_all

/-- The counters count the log, and they are within the limits. -/
structure Limited (log : List NegotiationEvent) (s : DerivedSession) : Prop where
  offers : countOf .offerSubmitted log = s.totalOfferCount
  offersBy : ∀ seller, countFor .offerSubmitted seller log = offersBy s seller
  accepts : countOf .winnerSelected log = s.totalAcceptAttempts
  acceptsOf : ∀ seller, countFor .winnerSelected seller log = acceptsOf s seller
  maxOffers : s.totalOfferCount ≤ MAX_OFFERS_PER_SESSION
  maxOffersBy : ∀ seller, Engine.offersBy s seller ≤ MAX_OFFERS_PER_SELLER
  maxAccepts : s.totalAcceptAttempts ≤ MAX_ACCEPTS_PER_SESSION
  maxAcceptsOf : ∀ seller, Engine.acceptsOf s seller ≤ MAX_ACCEPTS_PER_SELLER

theorem initialSession_limited {first : NegotiationEvent} {s : DerivedSession}
    (h : initialSession first = .ok s) : Limited [first] s := by
  obtain ⟨-, -, -, -, hoffers, hby, haccepts, hof, htype, -⟩ := initialSession_state h
  constructor <;>
    simp [countOf, countFor, htype, hoffers, hby, haccepts, hof, Engine.offersBy, Engine.acceptsOf]

section

variable {env : EngineEnv} {P : DerivedSession → Members → Prop}
  {answers : List (JsString × JsValue)} {h : List Entry} {r : JsString}

/-- An offer comes when there is room for one more of its seller. -/
theorem Recorded.offer_limits {en : Entry} (hr : Recorded env P answers h en)
    {s : DerivedSession} (hs : deriveState (logOf h en.rfqId) = .ok (some s))
    (htype : en.event.type = .offerSubmitted) :
    s.totalOfferCount < MAX_OFFERS_PER_SESSION ∧
      offersBy s en.event.actor < MAX_OFFERS_PER_SELLER := by
  obtain ⟨m, listings, body, -, hlocked⟩ := hr.offer hs htype
  exact lockedOffer_limits hlocked

theorem Recorded.accept_limits {en : Entry} (hr : Recorded env P answers h en)
    {s : DerivedSession} (hs : deriveState (logOf h en.rfqId) = .ok (some s))
    (htype : en.event.type = .winnerSelected) :
    s.totalAcceptAttempts < MAX_ACCEPTS_PER_SESSION ∧ ∃ seller,
      en.event.payload.lookup (js "seller") = some (.str seller) ∧
        acceptsOf s seller < MAX_ACCEPTS_PER_SELLER := by
  obtain ⟨m, envelope, signer, seller, offerId, -, hlocked⟩ := hr.accept hs htype
  obtain ⟨htotal, hof, hseller⟩ := lockedAccept_limits hlocked
  exact ⟨htotal, seller, hseller, hof⟩

theorem Recorded.limited {en : Entry} (hr : Recorded env P answers h en) {s s' : DerivedSession}
    (hs : deriveState (logOf h en.rfqId) = .ok (some s)) (hstep : EventStep s en.event s')
    (hl : Limited (logOf h en.rfqId) s) : Limited (logOf h en.rfqId ++ [en.event]) s' := by
  have hc := hstep.counted
  refine
    { offers := by rw [countOf_snoc, hl.offers, hc.offers]
      offersBy := fun seller => by rw [countFor_snoc, hl.offersBy, hc.offersBy]
      accepts := by rw [countOf_snoc, hl.accepts, hc.accepts]
      acceptsOf := fun seller => by rw [countFor_snoc, hl.acceptsOf, hc.acceptsOf]
      maxOffers := ?_
      maxOffersBy := fun seller => ?_
      maxAccepts := ?_
      maxAcceptsOf := fun seller => ?_ }
  · rw [hc.offers]
    split_ifs with htype
    · exact (hr.offer_limits hs htype).1
    · exact hl.maxOffers
  · rw [hc.offersBy]
    split_ifs with hoffer
    · have hroom := (hr.offer_limits hs hoffer.1).2
      rwa [hstep.offer_actor hoffer.1 hoffer.2] at hroom
    · exact hl.maxOffersBy seller
  · rw [hc.accepts]
    split_ifs with htype
    · exact (hr.accept_limits hs htype).1
    · exact hl.maxAccepts
  · rw [hc.acceptsOf]
    split_ifs with haccept
    · obtain ⟨htype, hseller⟩ := haccept
      obtain ⟨-, seller', hseller', hroom⟩ := hr.accept_limits hs htype
      obtain rfl : seller = seller' := by simpa using hseller.symm.trans hseller'
      exact hroom
    · exact hl.maxAcceptsOf seller

theorem Journal.limited (hj : Journal env P answers h) {s : DerivedSession}
    (hs : deriveState (logOf h r) = .ok (some s)) : Limited (logOf h r) s :=
  hj.session_induction (fun _ _ _ _ _ hfirst => initialSession_limited hfirst)
    (fun _ _ _ _ hr hs hstep hl => hr.limited hs hstep hl) hs

end

/-- The limits of the routes bound every session of every run. -/
theorem admission_limits {σ : Type} [InternalEventStore σ] (env : EngineEnv)
    (is : List EngineLabel) (r : JsString) :
    let e := run (EngineState.step env) (EngineState.empty : EngineState σ) is
    (countOf .offerSubmitted (e.manager.log r) ≤ 50 ∧
      (∀ seller, countFor .offerSubmitted seller (e.manager.log r) ≤ 5) ∧
      countOf .winnerSelected (e.manager.log r) ≤ 6 ∧
      ∀ seller, countFor .winnerSelected seller (e.manager.log r) ≤ 2) ∧
    ∀ now s, (e.manager.getSession now r).1 = .ok (some s) →
      s.offers.length ≤ 50 ∧ ∀ seller, (s.offers.countP fun o => o.seller = seller) ≤ 5 := by
  intro e
  have he := EngineState.run_inv_true (σ := σ) env is
  refine ⟨?_, fun now s hs => ?_⟩
  · obtain ⟨s, hs⟩ := he.consistent.accepted r
    cases s with
    | none =>
      rw [deriveState_none_iff.mp hs]
      simp [countOf, countFor]
    | some s =>
      rw [he.log] at hs ⊢
      have hl := he.journal.limited hs
      rw [hl.offers, hl.accepts]
      refine ⟨hl.maxOffers, fun seller => ?_, hl.maxAccepts, fun seller => ?_⟩
      · exact hl.offersBy seller ▸ hl.maxOffersBy seller
      · exact hl.acceptsOf seller ▸ hl.maxAcceptsOf seller
  · rw [(he.getSession now r).1] at hs
    have hl := he.journal.limited hs
    have hinv := deriveState_inv hs
    refine ⟨hinv.offerCount ▸ hl.maxOffers, fun seller => ?_⟩
    have hby := hl.maxOffersBy seller
    rw [Engine.offersBy, hinv.offerEntry] at hby
    exact hby

/-! ### Ids, rounds and recipients -/

/-- Offers and counters of a session are those of its log. -/
structure Bids (log : List NegotiationEvent) (s : DerivedSession) : Prop where
  offerIds : fieldOf .offerSubmitted (js "offer_id") log =
    s.offers.map fun o => some (.str o.offerId)
  sellers : fieldOf .offerSubmitted (js "seller") log =
    s.offers.map fun o => some (.str o.seller)
  counterIds : fieldOf .counterSent (js "counter_id") log =
    s.counters.map fun ct => some (.str ct.counterId)
  rounds : fieldOf .counterSent (js "round") log = s.counters.map fun ct => some (.num ct.round)

theorem Bids.skip {log : List NegotiationEvent} {s s' : DerivedSession}
    {event : NegotiationEvent} (hb : Bids log s) (hoffer : event.type ≠ .offerSubmitted)
    (hcounter : event.type ≠ .counterSent) (hoffers : s'.offers = s.offers)
    (hcounters : s'.counters = s.counters) : Bids (log ++ [event]) s' where
  offerIds := by rw [fieldOf_snoc, if_neg hoffer, List.append_nil, hoffers, hb.offerIds]
  sellers := by rw [fieldOf_snoc, if_neg hoffer, List.append_nil, hoffers, hb.sellers]
  counterIds := by rw [fieldOf_snoc, if_neg hcounter, List.append_nil, hcounters, hb.counterIds]
  rounds := by rw [fieldOf_snoc, if_neg hcounter, List.append_nil, hcounters, hb.rounds]

theorem EventStep.bids {log : List NegotiationEvent} {s : DerivedSession}
    {event : NegotiationEvent} {s' : DerivedSession} (hstep : EventStep s event s')
    (hb : Bids log s) : Bids (log ++ [event]) s' := by
  cases hstep with
  | offerSubmitted offer _ htype _ hid hseller =>
    constructor <;> simp [fieldOf_snoc, htype, hid, hseller, hb.offerIds, hb.sellers,
      hb.counterIds, hb.rounds]
  | counterSent counter _ htype _ hid hround =>
    constructor <;> simp [fieldOf_snoc, htype, hid, hround, hb.offerIds, hb.sellers,
      hb.counterIds, hb.rounds]
  | rollback _ _ htype =>
    have hother : event.type ≠ .offerSubmitted ∧ event.type ≠ .counterSent := by
      rcases htype with htype | htype <;> simp [htype]
    exact hb.skip hother.1 hother.2 rfl rfl
  | marker htype =>
    have hother : event.type ≠ .offerSubmitted ∧ event.type ≠ .counterSent := by
      rcases htype with ⟨htype, -⟩ | ⟨htype, -⟩ <;> simp [htype]
    exact hb.skip hother.1 hother.2 rfl rfl
  | winnerSelected _ _ htype | quoteSigned _ _ _ htype | quoteCommitted _ _ htype
  | expired _ htype | cancelled _ htype =>
    exact hb.skip (by simp [htype]) (by simp [htype]) rfl rfl

theorem initialSession_bids {first : NegotiationEvent} {s : DerivedSession}
    (h : initialSession first = .ok s) : Bids [first] s ∧ s.counters = [] := by
  simp only [initialSession, bind_eq_ok, ensure_eq_ok, pure_eq_ok] at h
  obtain ⟨-, htype, _, -, _, -, _, -, _, -, _, -, _, -, rfl⟩ := h
  refine ⟨?_, rfl⟩
  constructor <;> simp [fieldOf, htype]

/-- A round that is not at most the maximum exceeds every recorded one. -/
theorem le_maxExistingRound {counters : List RecordedCounter} {ct : RecordedCounter}
    (hct : ct ∈ counters) : ct.round.toRat ≤ (maxExistingRound counters).toRat := by
  have hfold : ∀ (cs : List RecordedCounter) (m : JsNumber),
      let max := cs.foldl (fun max ct => if max.le ct.round then ct.round else max) m
      m.toRat ≤ max.toRat ∧ ∀ ct ∈ cs, ct.round.toRat ≤ max.toRat := by
    intro cs
    induction cs with
    | nil => intro m; simp
    | cons c cs ih =>
      intro m
      obtain ⟨hm, hcs⟩ := ih (if m.le c.round then c.round else m)
      rw [List.foldl_cons]
      have hstep : m.toRat ≤ (if m.le c.round then c.round else m).toRat ∧
          c.round.toRat ≤ (if m.le c.round then c.round else m).toRat := by
        by_cases hle : m.toRat ≤ c.round.toRat
        · simp [JsNumber.le, hle]
        · simp [JsNumber.le, hle, le_of_not_ge hle]
      refine ⟨hstep.1.trans hm, fun ct hct => ?_⟩
      rcases List.mem_cons.mp hct with rfl | hct
      · exact hstep.2.trans hm
      · exact hcs ct hct
  exact (hfold counters .zero).2 ct hct

/-- The counters of a session have different ids and increasing rounds. -/
structure Ordered (s : DerivedSession) : Prop where
  ids : (s.counters.map RecordedCounter.counterId).Nodup
  rounds : s.counters.Pairwise fun a b => a.round.toRat < b.round.toRat

section

variable {env : EngineEnv} {P : DerivedSession → Members → Prop}
  {answers : List (JsString × JsValue)} {h : List Entry} {r : JsString}

theorem EventStep.counters {s : DerivedSession} {event : NegotiationEvent}
    {s' : DerivedSession} (hstep : EventStep s event s') : s'.counters = s.counters ∨
      ∃ ct : RecordedCounter, s'.counters = s.counters ++ [ct] ∧ event.type = .counterSent ∧
        event.payload.lookup (js "counter_id") = some (.str ct.counterId) ∧
        event.payload.lookup (js "round") = some (.num ct.round) := by
  cases hstep with
  | counterSent counter _ htype _ hid hround => exact Or.inr ⟨counter, rfl, htype, hid, hround⟩
  | _ => exact Or.inl rfl

theorem Recorded.ordered {en : Entry} (hr : Recorded env P answers h en) {s s' : DerivedSession}
    (hs : deriveState (logOf h en.rfqId) = .ok (some s)) (hstep : EventStep s en.event s')
    (ho : Ordered s) : Ordered s' := by
  rcases hstep.counters with hsame | ⟨ct, hct, htype, hid, hround⟩
  · constructor <;> rw [hsame]
    · exact ho.ids
    · exact ho.rounds
  · obtain ⟨m, body, -, hlocked⟩ := hr.counter hs htype
    obtain ⟨hfresh, hmax⟩ := lockedCounter_fresh hlocked
    rw [hid] at hfresh
    rw [hround] at hmax
    have hlt : (maxExistingRound s.counters).toRat < ct.round.toRat := by
      rw [← not_le]
      exact of_decide_eq_false hmax
    constructor <;> rw [hct]
    · rw [List.map_append, List.nodup_append]
      refine ⟨ho.ids, by simp, ?_⟩
      rintro a ha b hb rfl
      obtain ⟨c, hc, rfl⟩ := List.mem_map.mp ha
      have hsame : c.counterId = ct.counterId := by simpa using hb
      exact hfresh c hc (by rw [hsame])
    · rw [List.pairwise_append]
      refine ⟨ho.rounds, by simp, fun a ha b hb => ?_⟩
      rw [List.mem_singleton.mp hb]
      exact (le_maxExistingRound ha).trans_lt hlt

theorem Journal.bids (hj : Journal env P answers h) {s : DerivedSession}
    (hs : deriveState (logOf h r) = .ok (some s)) : Bids (logOf h r) s :=
  hj.session_induction (fun _ _ _ _ _ hfirst => (initialSession_bids hfirst).1)
    (fun _ _ _ _ _ _ hstep hb => hstep.bids hb) hs

theorem Journal.ordered (hj : Journal env P answers h) {s : DerivedSession}
    (hs : deriveState (logOf h r) = .ok (some s)) : Ordered s := by
  refine hj.session_induction (C := fun _ s => Ordered s) (fun _ _ s _ _ hfirst => ?_)
    (fun _ _ _ _ hr hs hstep ho => hr.ordered hs hstep ho) hs
  constructor <;> simp [(initialSession_bids hfirst).2]

/-- A counter goes to a seller with an offer before it. -/
theorem Journal.counter_recipient (hj : Journal env P answers h)
    {before after : List NegotiationEvent} {counter : NegotiationEvent}
    (hlog : logOf h r = before ++ counter :: after) (htype : counter.type = .counterSent) :
    ∃ offer ∈ before, offer.type = .offerSubmitted ∧ ∃ seller,
      offer.payload.lookup (js "seller") = some (.str seller) ∧
      counter.payload.lookup (js "to") = some (.str seller) := by
  obtain ⟨h₁, en, h₂, hhistory, rfl, rfl, rfl⟩ := exists_entry_of_logOf hlog
  obtain ⟨s', hs'⟩ := (hj h₁ en h₂ hhistory).replays
  have hj₁ : Journal env P answers h₁ := hj.of_prefix ⟨en :: h₂, hhistory.symm⟩
  rcases derives_append hs' with ⟨-, hfirst⟩ | ⟨first, s, -, hs, hstep⟩
  · simp [(initialSession_state hfirst).2.2.2.2.2.2.2.2.1] at htype
  · cases hstep with
    | counterSent ct _ _ _ _ _ hto hoffer =>
      obtain ⟨o, ho, hseller⟩ := hoffer
      have hmem : some (.str o.seller) ∈ fieldOf .offerSubmitted (js "seller")
          (logOf h₁ en.rfqId) := by
        rw [(hj₁.bids hs).sellers]
        exact List.mem_map_of_mem ho
      obtain ⟨offer, hmem, hoffer, hname⟩ := mem_fieldOf.mp hmem
      exact ⟨offer, hmem, hoffer, o.seller, hname, hseller ▸ hto⟩
    | rollback _ _ hother => rcases hother with hother | hother <;> simp [htype] at hother
    | marker hother => rcases hother with ⟨hother, -⟩ | ⟨hother, -⟩ <;> simp [htype] at hother
    | _ => simp_all

end

theorem nodup_strValues {α : Type} {f : α → JsString} {l : List α} (h : (l.map f).Nodup) :
    (l.map fun a => (some (.str (f a)) : JsValue)).Nodup := by
  have hinj : Function.Injective fun id => (some (.str id) : JsValue) :=
    fun a b hab => by simpa using hab
  have hmap := h.map hinj
  rwa [List.map_map] at hmap

/-- Ids, rounds and recipients of the bids of every session, in every run. -/
theorem recorded_bids {σ : Type} [InternalEventStore σ] (env : EngineEnv)
    (is : List EngineLabel) (r : JsString) :
    let log := (run (EngineState.step env) (EngineState.empty : EngineState σ) is).manager.log r
    (fieldOf .offerSubmitted (js "offer_id") log).Nodup ∧
    (fieldOf .counterSent (js "counter_id") log).Nodup ∧
    ((fieldOf .counterSent (js "round") log).Pairwise fun a b => ∃ x y : JsNumber,
      a = some (.num x) ∧ b = some (.num y) ∧ x.toRat < y.toRat) ∧
    ∀ before counter after, log = before ++ counter :: after → counter.type = .counterSent →
      ∃ offer ∈ before, offer.type = .offerSubmitted ∧ ∃ seller,
        offer.payload.lookup (js "seller") = some (.str seller) ∧
        counter.payload.lookup (js "to") = some (.str seller) := by
  intro log
  have he := EngineState.run_inv_true (σ := σ) env is
  have hlog : log = logOf _ r := he.log r
  obtain ⟨s, hs⟩ := he.consistent.accepted r
  rw [he.log] at hs
  rw [hlog]
  refine ⟨?_, ?_, ?_, fun _ _ _ hsplit htype => he.journal.counter_recipient hsplit htype⟩
  all_goals
    cases s with
    | none =>
      rw [deriveState_none_iff.mp hs]
      simp [fieldOf]
    | some s => ?_
  · rw [(he.journal.bids hs).offerIds]
    exact nodup_strValues (he.journal.nodup_offerId hs)
  · rw [(he.journal.bids hs).counterIds]
    exact nodup_strValues (he.journal.ordered hs).ids
  · rw [(he.journal.bids hs).rounds, List.pairwise_map]
    exact (he.journal.ordered hs).rounds.imp fun hlt => ⟨_, _, rfl, rfl, hlt⟩

end GhostBazaar.Engine
