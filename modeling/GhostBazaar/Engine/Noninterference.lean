import GhostBazaar.Engine.CommittedQuote
import GhostBazaar.Engine.Routes.Reading

/-! What a seller can tell two open sessions apart by that differ in the bids of other sellers. -/
namespace GhostBazaar.Engine
open Js Transition

/-! ### Bids of others -/

/-- An offer of another seller, or a counter to one. -/
def isOthersBid (callerDid : JsString) (e : NegotiationEvent) : Bool :=
  match e.type with
  | .offerSubmitted => decide (e.actor ≠ callerDid)
  | .counterSent => decide (e.payload.lookup (js "to") ≠ some (.str callerDid))
  | _ => false

/-- A log without the bids of others. -/
def withoutOthersBids (callerDid : JsString) (log : List NegotiationEvent) :
    List NegotiationEvent :=
  log.filter fun e => !isOthersBid callerDid e

/-- How many of the events up to the one of this id a caller sees. -/
def seenUpTo (callerDid buyer id : JsString) : List NegotiationEvent → Option ℕ
  | [] => none
  | e :: log =>
    if e.eventId = id then some (visibleTo callerDid buyer [e]).length
    else (seenUpTo callerDid buyer id log).map ((visibleTo callerDid buyer [e]).length + ·)

theorem isEventVisibleTo_othersBid {callerDid buyer : JsString} (hne : callerDid ≠ buyer)
    {e : NegotiationEvent} (he : isOthersBid callerDid e = true) :
    isEventVisibleTo e callerDid buyer = false := by
  rw [isOthersBid] at he
  rw [isEventVisibleTo, if_neg hne]
  cases htype : e.type <;> simp_all

variable {callerDid buyer : JsString}

theorem visibleTo_withoutOthersBids (hne : callerDid ≠ buyer) (log : List NegotiationEvent) :
    visibleTo callerDid buyer (withoutOthersBids callerDid log) =
      visibleTo callerDid buyer log := by
  rw [visibleTo, withoutOthersBids, List.filter_filter, visibleTo]
  refine List.filter_congr fun e _ => ?_
  cases he : isOthersBid callerDid e with
  | false => simp
  | true => simp [isEventVisibleTo_othersBid hne he]

theorem visibleTo_buyer (log : List NegotiationEvent) : visibleTo buyer buyer log = log :=
  List.filter_eq_self.mpr fun e _ => by simp [isEventVisibleTo]

theorem seenUpTo_withoutOthersBids (hne : callerDid ≠ buyer) {id : JsString}
    {log : List NegotiationEvent}
    (hid : ∀ e ∈ log, isOthersBid callerDid e = true → e.eventId ≠ id) :
    seenUpTo callerDid buyer id (withoutOthersBids callerDid log) =
      seenUpTo callerDid buyer id log := by
  induction log with
  | nil => rfl
  | cons e log ih =>
    rw [List.forall_mem_cons] at hid
    have ih := ih hid.2
    rw [withoutOthersBids] at ih ⊢
    cases he : isOthersBid callerDid e with
    | false =>
      rw [List.filter_cons_of_pos (by simp [he]), seenUpTo, seenUpTo, ih]
    | true =>
      have hunseen : (visibleTo callerDid buyer [e]).length = 0 := by
        simp [visibleTo, isEventVisibleTo_othersBid hne he]
      rw [List.filter_cons_of_neg (by simp [he]), ih, seenUpTo, if_neg (hid.1 he), hunseen]
      simp

theorem seenUpTo_eq_none {id : JsString} {log : List NegotiationEvent} :
    seenUpTo callerDid buyer id log = none ↔ ∀ e ∈ log, e.eventId ≠ id := by
  induction log with
  | nil => simp [seenUpTo]
  | cons e log ih =>
    rw [seenUpTo, List.forall_mem_cons]
    split_ifs with he
    · simp [he]
    · simp [ih, he]

theorem eventsAfter_cons {id : JsString} {e : NegotiationEvent} {log : List NegotiationEvent} :
    eventsAfter (some id) (e :: log) =
      if e.eventId = id then log else eventsAfter (some id) log := by
  simp only [eventsAfter, List.findIdx?_cons]
  by_cases he : e.eventId = id
  · simp [he]
  · simp only [he, decide_false, Bool.false_eq_true, if_false]
    cases log.findIdx? fun e => decide (e.eventId = id) <;> simp

/-- A poll after a cursor leaves out what the caller saw up to it. -/
theorem visibleTo_eventsAfter {id : JsString} {log : List NegotiationEvent} {n : ℕ}
    (hn : seenUpTo callerDid buyer id log = some n) :
    n ≤ (visibleTo callerDid buyer log).length ∧
      visibleTo callerDid buyer (eventsAfter (some id) log) =
        (visibleTo callerDid buyer log).drop n := by
  induction log generalizing n with
  | nil => simp [seenUpTo] at hn
  | cons e log ih =>
    have hsplit : visibleTo callerDid buyer (e :: log) =
        visibleTo callerDid buyer [e] ++ visibleTo callerDid buyer log :=
      visibleTo_append callerDid buyer [e] log
    rw [seenUpTo] at hn
    rw [eventsAfter_cons, hsplit, List.length_append]
    split_ifs at hn ⊢ with he
    · obtain rfl := Option.some.inj hn
      exact ⟨Nat.le_add_right _ _, by rw [List.drop_left]⟩
    · obtain ⟨m, hm, rfl⟩ := Option.map_eq_some_iff.mp hn
      obtain ⟨hle, hdrop⟩ := ih hm
      exact ⟨Nat.add_le_add_left hle _, by rw [hdrop, List.drop_append]; simp⟩

/-! ### Readings -/

/-- The answer to a poll with these events. -/
def pollReply (rfqId : JsString) (events : List NegotiationEvent) (cursor : Option JsString) :
    Reply :=
  ⟨200, [(js "rfq_id", .str rfqId), (js "events", .arr (events.map fun e => .obj (eventMembers e))),
    (js "cursor", match (events.getLast?.map NegotiationEvent.eventId).or cursor with
      | some id => .str id
      | none => .null),
    (js "cursor_valid", .bool true)]⟩

theorem pollReply_inj {r : JsString} {events events' : List NegotiationEvent}
    {cursor : Option JsString} (h : pollReply r events cursor = pollReply r events' cursor) :
    events = events' := by
  simp only [pollReply, Reply.mk.injEq, List.cons.injEq, Prod.mk.injEq, Json.arr.injEq,
    true_and] at h
  have hinj : Function.Injective fun e => Json.obj (eventMembers e) := fun a b hab =>
    eventMembers_injective (Json.obj.inj hab)
  exact List.map_injective_iff.mpr hinj h.1

section

variable {τ : Type} [EventStorage τ] {store : τ} {r : JsString} {s : DerivedSession}

/-- A participant polls what it sees after its cursor, if the session has the cursor. -/
theorem pollEvents_eq (hpart : isParticipant callerDid s.rfq.buyer s.offers = true)
    (cursor : Option JsString) : pollEvents store r callerDid (some s) cursor =
      match cursor with
      | none => .ok (pollReply r (visibleTo callerDid s.rfq.buyer
          (EventStorage.getAllEvents store r)) none)
      | some id =>
        match seenUpTo callerDid s.rfq.buyer id (EventStorage.getAllEvents store r) with
        | none => .error (.refused ⟨400, js "invalid_cursor",
            js "Cursor event_id not found in session"⟩)
        | some n => .ok (pollReply r ((visibleTo callerDid s.rfq.buyer
            (EventStorage.getAllEvents store r)).drop n) (some id)) := by
  have hok (c : Prop) [Decidable c] (e : EngineError) (hc : c) : require c e = .ok () :=
    require_eq_ok.mpr hc
  simp only [pollEvents, orThrow, ok_bind]
  cases cursor with
  | none =>
    rw [hok _ _ hpart, ok_bind, hok _ _ (by simp), ok_bind, EventStorage.getEvents_eq]
    rfl
  | some id =>
    rw [hok _ _ hpart, ok_bind]
    cases hseen : seenUpTo callerDid s.rfq.buyer id (EventStorage.getAllEvents store r) with
    | none =>
      have hout : ¬ ∀ i ∈ some id, EventStorage.hasCursor store r i = true := by
        simp only [Option.mem_some_iff, forall_eq', EventStorage.hasCursor_iff, not_exists, not_and]
        exact seenUpTo_eq_none.mp hseen
      rw [require, ensure, if_neg hout, error_bind]
      simp only [hseen]
    | some n =>
      have hin : ∀ i ∈ some id, EventStorage.hasCursor store r i = true := by
        simp only [Option.mem_some_iff, forall_eq', EventStorage.hasCursor_iff]
        by_contra hout
        push Not at hout
        rw [seenUpTo_eq_none.mpr hout] at hseen
        cases hseen
      rw [hok _ _ hin, ok_bind, EventStorage.getEvents_eq, (visibleTo_eventsAfter hseen).2]
      simp only [hseen]
      rfl

end
/-! ### Two histories -/

section

variable {env : EngineEnv} {P : DerivedSession → Members → Prop}
  {answers : List (JsString × JsValue)} {h : List Entry} {r : JsString}

/-- The sellers of the offers of a session are the actors of its offer events. -/
theorem Journal.offer_actors (hj : Journal env P answers h) {s : DerivedSession}
    (hs : deriveState (logOf h r) = .ok (some s)) :
    ((logOf h r).filter fun e => e.type = .offerSubmitted).map NegotiationEvent.actor =
      s.offers.map RecordedOffer.seller := by
  refine hj.session_induction (C := fun log s =>
    (log.filter fun e => e.type = .offerSubmitted).map NegotiationEvent.actor =
      s.offers.map RecordedOffer.seller) (fun _ _ s _ _ hfirst => ?_)
    (fun _ en s s' _ _ hstep ih => ?_) hs
  · obtain ⟨-, hoffers, -, -, -, -, -, -, htype, -⟩ := initialSession_state hfirst
    simp [htype, hoffers]
  · rw [List.filter_append, List.map_append, ih]
    cases hstep with
    | offerSubmitted offer _ htype hactor => simp [htype, hactor]
    | rollback _ _ htype => rcases htype with htype | htype <;> simp [htype]
    | marker htype => rcases htype with ⟨htype, -⟩ | ⟨htype, -⟩ <;> simp [htype]
    | _ => simp_all

theorem Journal.isParticipant (hj : Journal env P answers h) {s : DerivedSession}
    (hs : deriveState (logOf h r) = .ok (some s)) {e : NegotiationEvent} (he : e ∈ logOf h r)
    (htype : e.type = .offerSubmitted) :
    isParticipant e.actor s.rfq.buyer s.offers = true := by
  have hmem : e.actor ∈ s.offers.map RecordedOffer.seller := by
    rw [← hj.offer_actors hs]
    exact List.mem_map_of_mem (List.mem_filter.mpr ⟨he, by simpa using htype⟩)
  obtain ⟨o, ho, hseller⟩ := List.mem_map.mp hmem
  rw [Engine.isParticipant]
  split_ifs
  · rfl
  · exact List.any_eq_true.mpr ⟨o, ho, by simpa using hseller⟩

end

/-- The event that opens a session is no bid. -/
theorem rfq_eq_of_withoutOthersBids {log log' : List NegotiationEvent} {s s' : DerivedSession}
    (hs : deriveState log = .ok (some s)) (hs' : deriveState log' = .ok (some s'))
    (hown : withoutOthersBids callerDid log = withoutOthersBids callerDid log') :
    s.rfq = s'.rfq := by
  have hfirst {log : List NegotiationEvent} {s : DerivedSession}
      (hs : deriveState log = .ok (some s)) : ∃ first s₀ rest,
        withoutOthersBids callerDid log = first :: rest ∧ initialSession first = .ok s₀ ∧
          s.rfq = s₀.rfq := by
    cases log with
    | nil => simp [deriveState] at hs
    | cons first rest =>
      have hs₀ := hs
      simp only [deriveState, bind_eq_ok] at hs₀
      obtain ⟨s₀, hs₀, -⟩ := hs₀
      have htype := (initialSession_state hs₀).2.2.2.2.2.2.2.2.1
      refine ⟨first, s₀, withoutOthersBids callerDid rest, ?_, hs₀, ?_⟩
      · exact List.filter_cons_of_pos (by simp [isOthersBid, htype])
      · refine rfq_eq_of_prefix (show [first] <+: first :: rest from ⟨rest, rfl⟩) ?_ hs
        simp [deriveState, hs₀, ok_bind, Pure.pure, Except.pure]
  obtain ⟨first, s₀, rest, hlog, hinit, hrfq⟩ := hfirst hs
  obtain ⟨first', s₀', rest', hlog', hinit', hrfq'⟩ := hfirst hs'
  obtain ⟨rfl, -⟩ := List.cons.inj (hlog.symm.trans (hown.trans hlog'))
  obtain rfl : s₀ = s₀' := by simpa using hinit.symm.trans hinit'
  rw [hrfq, hrfq']

/-- What a caller reads of a session in two histories, with the cursors that it may hold. -/
structure SameReading {τ : Type} [EventStorage τ] (store₁ store₂ : τ) (r callerDid : JsString)
    (s₁ s₂ : DerivedSession) (Held : Option JsString → Prop) : Prop where
  poll : ∀ cursor, Held cursor →
    pollEvents store₁ r callerDid (some s₁) cursor = pollEvents store₂ r callerDid (some s₂) cursor
  entry : ∀ q, rfqEntry q s₁ = rfqEntry q s₂

theorem rfqEntry_eq_iff {s₁ s₂ : DerivedSession} (hrfq : s₁.rfq = s₂.rfq)
    (hstate₁ : s₁.state = .negotiating) (hstate₂ : s₂.state = .negotiating) :
    (∀ q, rfqEntry q s₁ = rfqEntry q s₂) ↔ s₁.totalOfferCount = s₂.totalOfferCount := by
  constructor
  · intro h
    have hall := h ⟨none, none, none, false⟩
    simp only [rfqEntry, RfqQuery.selects, passes, hstate₁, hstate₂] at hall
    simp only [SessionState.isTerminal, Option.filter_none, Bool.and_false, Bool.false_eq_true,
      if_false, Bool.and_true, if_true, Option.some.injEq, rfqSummary, List.cons.injEq,
      Prod.mk.injEq, Json.num.injEq, true_and, and_true] at hall
    exact JsNumber.ofNat_injective hall.2.2.2.2.2.2.2
  · intro h q
    rw [rfqEntry, rfqEntry, RfqQuery.selects, RfqQuery.selects, rfqSummary, rfqSummary, hrfq,
      hstate₁, hstate₂, h]

section

variable {τ : Type} [EventStorage τ] {store₁ store₂ : τ} {r : JsString} {s₁ s₂ : DerivedSession}

/-- Polls agree on a cursor when the events before it and those that are seen agree. -/
theorem pollEvents_congr (hpart₁ : isParticipant callerDid s₁.rfq.buyer s₁.offers = true)
    (hpart₂ : isParticipant callerDid s₂.rfq.buyer s₂.offers = true) (hrfq : s₁.rfq = s₂.rfq)
    (hvisible : visibleTo callerDid s₁.rfq.buyer (EventStorage.getAllEvents store₁ r) =
      visibleTo callerDid s₁.rfq.buyer (EventStorage.getAllEvents store₂ r))
    (cursor : Option JsString) :
    pollEvents store₁ r callerDid (some s₁) cursor =
        pollEvents store₂ r callerDid (some s₂) cursor ↔
      ∀ id ∈ cursor, seenUpTo callerDid s₁.rfq.buyer id (EventStorage.getAllEvents store₁ r) =
        seenUpTo callerDid s₁.rfq.buyer id (EventStorage.getAllEvents store₂ r) := by
  rw [pollEvents_eq hpart₁, pollEvents_eq hpart₂, ← hrfq]
  cases cursor with
  | none => simp [hvisible]
  | some id =>
    simp only [Option.mem_some_iff, forall_eq', hvisible]
    cases hseen₁ : seenUpTo callerDid s₁.rfq.buyer id (EventStorage.getAllEvents store₁ r) with
    | none =>
      cases seenUpTo callerDid s₁.rfq.buyer id (EventStorage.getAllEvents store₂ r) <;> simp
    | some n =>
      cases hseen₂ : seenUpTo callerDid s₁.rfq.buyer id (EventStorage.getAllEvents store₂ r) with
      | none => simp
      | some m =>
        have hn := (visibleTo_eventsAfter hseen₁).1
        have hm := (visibleTo_eventsAfter hseen₂).1
        rw [hvisible] at hn
        simp only [Except.ok.injEq, Option.some.injEq]
        refine ⟨fun hreply => ?_, fun hnm => by rw [hnm]⟩
        have hlength := congrArg List.length (pollReply_inj hreply)
        rw [List.length_drop, List.length_drop] at hlength
        omega

/-- The ids of others' bids stand at the same places between what the caller sees. -/
def SamePlaces (callerDid buyer : JsString) (log₁ log₂ : List NegotiationEvent) : Prop :=
  ∀ e ∈ log₁ ++ log₂, isOthersBid callerDid e = true →
    seenUpTo callerDid buyer e.eventId log₁ = seenUpTo callerDid buyer e.eventId log₂

/-- Cursors that are no ids of bids that the caller never saw. -/
def NotHidden (callerDid : JsString) (log₁ log₂ : List NegotiationEvent)
    (cursor : Option JsString) : Prop :=
  ∀ e ∈ log₁ ++ log₂, isOthersBid callerDid e = true → cursor ≠ some e.eventId

theorem visibleTo_eq_of_own {log₁ log₂ : List NegotiationEvent}
    (hown : withoutOthersBids callerDid log₁ = withoutOthersBids callerDid log₂)
    (hbuyer : callerDid = buyer → log₁ = log₂) :
    visibleTo callerDid buyer log₁ = visibleTo callerDid buyer log₂ := by
  by_cases hne : callerDid = buyer
  · rw [hbuyer hne]
  · rw [← visibleTo_withoutOthersBids hne log₁, hown, visibleTo_withoutOthersBids hne]

theorem seenUpTo_eq_of_own {log₁ log₂ : List NegotiationEvent}
    (hown : withoutOthersBids callerDid log₁ = withoutOthersBids callerDid log₂)
    (hbuyer : callerDid = buyer → log₁ = log₂) {id : JsString}
    (hid : ∀ e ∈ log₁ ++ log₂, isOthersBid callerDid e = true → e.eventId ≠ id) :
    seenUpTo callerDid buyer id log₁ = seenUpTo callerDid buyer id log₂ := by
  by_cases hne : callerDid = buyer
  · rw [hbuyer hne]
  · rw [← seenUpTo_withoutOthersBids hne fun e he => hid e (List.mem_append_left _ he), hown,
      seenUpTo_withoutOthersBids hne fun e he => hid e (List.mem_append_right _ he)]

/-- A poll from the start gives the buyer the whole log. -/
theorem eq_of_pollEvents_none (hpart₁ : isParticipant callerDid s₁.rfq.buyer s₁.offers = true)
    (hpart₂ : isParticipant callerDid s₂.rfq.buyer s₂.offers = true) (hrfq : s₁.rfq = s₂.rfq)
    (hpoll : pollEvents store₁ r callerDid (some s₁) none =
      pollEvents store₂ r callerDid (some s₂) none) (hbuyer : callerDid = s₁.rfq.buyer) :
    EventStorage.getAllEvents store₁ r = EventStorage.getAllEvents store₂ r := by
  rw [pollEvents_eq hpart₁, pollEvents_eq hpart₂, ← hrfq, hbuyer, visibleTo_buyer,
    visibleTo_buyer] at hpoll
  exact pollReply_inj (Except.ok.inj hpoll)

/-- A seller reads the same of two histories that differ in the bids of others exactly when
these have equally many offers; and with a cursor that names a hidden bid, exactly when the
hidden bids have the same ids at the same places. The buyer itself, as a seller, sees all. -/
theorem seller_noninterference {σ : Type} [InternalEventStore σ] (env : EngineEnv)
    (is₁ is₂ : List EngineLabel)
    (hlog₁ : EventStorage.getAllEvents store₁ r =
      (run (EngineState.step env) (EngineState.empty : EngineState σ) is₁).manager.log r)
    (hlog₂ : EventStorage.getAllEvents store₂ r =
      (run (EngineState.step env) (EngineState.empty : EngineState σ) is₂).manager.log r)
    (hs₁ : deriveState (EventStorage.getAllEvents store₁ r) = .ok (some s₁))
    (hs₂ : deriveState (EventStorage.getAllEvents store₂ r) = .ok (some s₂))
    (hstate₁ : s₁.state = .negotiating) (hstate₂ : s₂.state = .negotiating)
    (hown : withoutOthersBids callerDid (EventStorage.getAllEvents store₁ r) =
      withoutOthersBids callerDid (EventStorage.getAllEvents store₂ r))
    (hoffer : ∃ e ∈ EventStorage.getAllEvents store₁ r,
      e.type = .offerSubmitted ∧ e.actor = callerDid) :
    (SameReading store₁ store₂ r callerDid s₁ s₂ (NotHidden callerDid
        (EventStorage.getAllEvents store₁ r) (EventStorage.getAllEvents store₂ r)) ↔
      s₁.totalOfferCount = s₂.totalOfferCount ∧ (callerDid = s₁.rfq.buyer →
        EventStorage.getAllEvents store₁ r = EventStorage.getAllEvents store₂ r)) ∧
    (SameReading store₁ store₂ r callerDid s₁ s₂ (fun _ => True) ↔
      s₁.totalOfferCount = s₂.totalOfferCount ∧ (callerDid = s₁.rfq.buyer →
        EventStorage.getAllEvents store₁ r = EventStorage.getAllEvents store₂ r) ∧
      SamePlaces callerDid s₁.rfq.buyer (EventStorage.getAllEvents store₁ r)
        (EventStorage.getAllEvents store₂ r)) := by
  have he₁ := EngineState.run_inv_true (σ := σ) env is₁
  have he₂ := EngineState.run_inv_true (σ := σ) env is₂
  have hrfq := rfq_eq_of_withoutOthersBids hs₁ hs₂ hown
  have hentries := rfqEntry_eq_iff hrfq hstate₁ hstate₂
  -- the caller takes part in both sessions
  obtain ⟨e, hmem₁, htype, rfl⟩ := hoffer
  have hmem₂ : e ∈ EventStorage.getAllEvents store₂ r := by
    have hmem : e ∈ withoutOthersBids e.actor (EventStorage.getAllEvents store₁ r) :=
      List.mem_filter.mpr ⟨hmem₁, by simp [isOthersBid, htype]⟩
    exact (List.mem_filter.mp (hown ▸ hmem)).1
  have hpart₁ : isParticipant e.actor s₁.rfq.buyer s₁.offers = true := by
    rw [hlog₁, he₁.log] at hs₁ hmem₁
    exact he₁.journal.isParticipant hs₁ hmem₁ htype
  have hpart₂ : isParticipant e.actor s₂.rfq.buyer s₂.offers = true := by
    rw [hlog₂, he₂.log] at hs₂ hmem₂
    exact he₂.journal.isParticipant hs₂ hmem₂ htype
  have hsame {Held : Option JsString → Prop} (hnone : Held none)
      (hread : SameReading store₁ store₂ r e.actor s₁ s₂ Held) :=
    eq_of_pollEvents_none hpart₁ hpart₂ hrfq (hread.poll none hnone)
  constructor
  · refine ⟨fun hread => ⟨hentries.mp hread.entry, hsame (by simp [NotHidden]) hread⟩, ?_⟩
    rintro ⟨htotal, hbuyer⟩
    have hcongr := pollEvents_congr hpart₁ hpart₂ hrfq (visibleTo_eq_of_own hown hbuyer)
    refine ⟨fun cursor hheld => (hcongr cursor).mpr fun id hid => ?_, hentries.mpr htotal⟩
    refine seenUpTo_eq_of_own hown hbuyer fun e' he' hothers heq => ?_
    exact hheld e' he' hothers (by rw [heq]; exact hid)
  · constructor
    · intro hread
      have hbuyer := hsame trivial hread
      have hcongr := pollEvents_congr hpart₁ hpart₂ hrfq (visibleTo_eq_of_own hown hbuyer)
      refine ⟨hentries.mp hread.entry, hbuyer, fun e' he' hothers => ?_⟩
      exact (hcongr _).mp (hread.poll (some e'.eventId) trivial) _ rfl
    · rintro ⟨htotal, hbuyer, hplaces⟩
      have hcongr := pollEvents_congr hpart₁ hpart₂ hrfq (visibleTo_eq_of_own hown hbuyer)
      refine ⟨fun cursor _ => (hcongr cursor).mpr fun id _ => ?_, hentries.mpr htotal⟩
      by_cases hid : ∃ e' ∈ EventStorage.getAllEvents store₁ r ++ EventStorage.getAllEvents store₂ r,
          isOthersBid e.actor e' = true ∧ e'.eventId = id
      · obtain ⟨e', he', hothers, rfl⟩ := hid
        exact hplaces e' he' hothers
      · push Not at hid
        exact seenUpTo_eq_of_own hown hbuyer hid

end

/-! ### A rival -/

/-- An offer of another seller in the first sample negotiation. -/
structure RivalOffer where
  offerId : JsString
  eventId : JsString
  price : JsString
  signature : JsString

namespace RivalOffer

def body (o : RivalOffer) : Json :=
  .obj [text "offer_id" o.offerId, text "rfq_id" firstNegotiation.rfqId,
    text "seller" Settlement.otherSeller, text "listing_id" (js "listing-2"),
    text "price" o.price, text "currency" (js "USDC"), text "valid_until" sampleDeadline,
    text "signature" o.signature]

def labels (o : RivalOffer) : List EngineLabel :=
  [.request 2 (.submitOffer firstNegotiation.rfqId (some o.body)) (firstNegotiation.moment o.eventId),
    .resume 2 (firstNegotiation.moment o.eventId), .cleanup 2, .release 2]

end RivalOffer

def rivalOffer : RivalOffer where
  offerId := js "ed8e899a-98a9-4dff-afc5-2038716e0da0"
  eventId := js "04f930b4-fcb9-40af-a0e1-8e3bb3fe368c"
  price := js "8"
  signature :=
    js "ed25519:jYmhsBr6iYXh7ruHk1BBNjUKD7b7vJ6enmp84QWd1tYiUJ+6BhxetM6ipA1DcVoRx1D4" ++
      js "RFMO/nxI74R/sNqzBg=="

def lowerRivalOffer : RivalOffer where
  offerId := js "677da241-f5a3-4343-a657-bba87bd36427"
  eventId := js "f115cf83-dac5-42c7-ad8f-71cdb9a89022"
  price := js "7"
  signature :=
    js "ed25519:2M1oNHGkQkVN0JShZ/rBCbfn4Fr9el3kzFw/EduVr4mlvtNWbYo9uQp1Uu0zEqs4QZXu" ++
      js "3ngAPKFIX2ZIXjckBw=="

def rivalEnv : EngineEnv := sampleEngineEnv .null
  (rivalOffer.signature :: lowerRivalOffer.signature :: firstNegotiation.signatures)

/-- The listings of both sellers, the RFQ, the offer of the sample seller and these of the other. -/
def rivalLabels (offers : List RivalOffer) : List EngineLabel :=
  .addListing sampleListing :: .addListing ⟨js "listing-2", Settlement.otherSeller,
    js "https://other.example/execute"⟩ :: (firstNegotiation.labels 0).take 8 ++
    offers.flatMap RivalOffer.labels

def rivalRun (offers : List RivalOffer) : EngineState InMemoryEventStore :=
  run (EngineState.step rivalEnv) EngineState.empty (rivalLabels offers)

/-- The event store of a run. -/
def rivalStore (offers : List RivalOffer) : InMemoryEventStore := (rivalRun offers).manager.store

def rivalLog (offers : List RivalOffer) : List NegotiationEvent :=
  EventStorage.getAllEvents (rivalStore offers) firstNegotiation.rfqId

/-- A session that is open for bidding, with this many offers. -/
def isBidding (n : ℕ) (s : DerivedSession) : Bool :=
  decide (s.state = .negotiating ∧ s.totalOfferCount = n ∧ s.rfq.buyer = Settlement.sampleBuyer)

/-- The price of the only rival stays unknown to the sample seller. -/
theorem seller_noninterference_sample : ∃ s₁ s₂,
    deriveState (rivalLog [rivalOffer]) = .ok (some s₁) ∧
    deriveState (rivalLog [lowerRivalOffer]) = .ok (some s₂) ∧
    rivalLog [rivalOffer] ≠ rivalLog [lowerRivalOffer] ∧
    SameReading (rivalStore [rivalOffer]) (rivalStore [lowerRivalOffer]) firstNegotiation.rfqId
      Settlement.sampleSeller s₁ s₂
      (NotHidden Settlement.sampleSeller (rivalLog [rivalOffer]) (rivalLog [lowerRivalOffer])) := by
  -- the two runs are evaluated once for all that is read off them
  have hruns : (deriveState (rivalLog [rivalOffer])).toOption.join.any (isBidding 2) = true ∧
      (deriveState (rivalLog [lowerRivalOffer])).toOption.join.any (isBidding 2) = true ∧
      rivalLog [rivalOffer] ≠ rivalLog [lowerRivalOffer] ∧
      withoutOthersBids Settlement.sampleSeller (rivalLog [rivalOffer]) =
        withoutOthersBids Settlement.sampleSeller (rivalLog [lowerRivalOffer]) ∧
      ∃ e ∈ rivalLog [rivalOffer], e.type = .offerSubmitted ∧
        e.actor = Settlement.sampleSeller := by
    decide +kernel
  obtain ⟨hbids₁, hbids₂, hne, hown, hoffer⟩ := hruns
  obtain ⟨s₁, hs₁, hbidding₁⟩ := exists_session hbids₁
  obtain ⟨s₂, hs₂, hbidding₂⟩ := exists_session hbids₂
  obtain ⟨hstate₁, htotal₁, hbuyer⟩ := of_decide_eq_true hbidding₁
  obtain ⟨hstate₂, htotal₂, -⟩ := of_decide_eq_true hbidding₂
  refine ⟨s₁, s₂, hs₁, hs₂, hne, ?_⟩
  refine (seller_noninterference (σ := InMemoryEventStore) rivalEnv (rivalLabels [rivalOffer])
    (rivalLabels [lowerRivalOffer]) rfl rfl hs₁ hs₂ hstate₁ hstate₂ hown hoffer).1.mpr
      ⟨htotal₁.trans htotal₂.symm, fun heq => ?_⟩
  rw [hbuyer] at heq
  exact absurd heq (by decide +kernel)

/-- The listing tells a seller that it is not alone. -/
theorem seller_interference : ∃ s₁ s₂,
    deriveState (rivalLog []) = .ok (some s₁) ∧ deriveState (rivalLog [rivalOffer]) = .ok (some s₂) ∧
    s₁.state = .negotiating ∧ s₂.state = .negotiating ∧
    withoutOthersBids Settlement.sampleSeller (rivalLog []) =
      withoutOthersBids Settlement.sampleSeller (rivalLog [rivalOffer]) ∧
    (∃ e ∈ rivalLog [], e.type = .offerSubmitted ∧ e.actor = Settlement.sampleSeller) ∧
    ¬ SameReading (rivalStore []) (rivalStore [rivalOffer]) firstNegotiation.rfqId
      Settlement.sampleSeller s₁ s₂
      (NotHidden Settlement.sampleSeller (rivalLog []) (rivalLog [rivalOffer])) := by
  have hruns : (deriveState (rivalLog [])).toOption.join.any (isBidding 1) = true ∧
      (deriveState (rivalLog [rivalOffer])).toOption.join.any (isBidding 2) = true ∧
      withoutOthersBids Settlement.sampleSeller (rivalLog []) =
        withoutOthersBids Settlement.sampleSeller (rivalLog [rivalOffer]) ∧
      ∃ e ∈ rivalLog [], e.type = .offerSubmitted ∧ e.actor = Settlement.sampleSeller := by
    decide +kernel
  obtain ⟨hbids₁, hbids₂, hown, hoffer⟩ := hruns
  obtain ⟨s₁, hs₁, hbidding₁⟩ := exists_session hbids₁
  obtain ⟨s₂, hs₂, hbidding₂⟩ := exists_session hbids₂
  obtain ⟨hstate₁, htotal₁, -⟩ := of_decide_eq_true hbidding₁
  obtain ⟨hstate₂, htotal₂, -⟩ := of_decide_eq_true hbidding₂
  refine ⟨s₁, s₂, hs₁, hs₂, hstate₁, hstate₂, hown, hoffer, fun hread => ?_⟩
  have htotal := (rfqEntry_eq_iff (rfq_eq_of_withoutOthersBids hs₁ hs₂ hown) hstate₁ hstate₂).mp
    hread.entry
  rw [htotal₁, htotal₂] at htotal
  cases htotal

end GhostBazaar.Engine
