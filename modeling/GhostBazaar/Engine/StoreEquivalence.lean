import GhostBazaar.Engine.SqliteEventStore

/-! The two event stores are interchangeable: the same calls have the same results and
reach the same listeners with the same events. -/
namespace GhostBazaar.Engine
open Js Transition

/-! ### Stores that differ in what is kept -/

section Storage

variable {σ τ : Type} [EventStorage σ] [EventStorage τ]

/-- The payload is a JSON value as the language keeps it. -/
def JsonValued (event : NegotiationEvent) : Prop := (Json.obj event.payload).Ordinary

/-- Related contents answer every question alike, and stay related under an append. -/
structure Interchangeable (R : σ → τ → Prop) : Prop where
  empty : R EventStorage.empty EventStorage.empty
  log : ∀ {s t}, R s t → ∀ r, EventStorage.getAllEvents s r = EventStorage.getAllEvents t r
  size : ∀ {s t}, R s t → ∀ r, EventStorage.size s r = EventStorage.size t r
  sessions : ∀ {s t}, R s t → EventStorage.listSessionIds s = EventStorage.listSessionIds t
  append : ∀ {s t}, R s t → ∀ r event, JsonValued event →
    (∃ message, EventStorage.append s r event = .error message ∧
      EventStorage.append t r event = .error message) ∨
    ∃ s' t' stored, EventStorage.append s r event = .ok (s', stored) ∧
      EventStorage.append t r event = .ok (t', stored) ∧ R s' t'

namespace EventStore

omit [EventStorage σ] [EventStorage τ] in
/-- The same subscribers over other contents. -/
def withStored (h : EventStore σ) (stored : τ) : EventStore τ :=
  ⟨stored, h.subscribers, h.members, h.subscription, h.nextId, h.terminalSubscribers,
    h.terminalMembers, h.terminalSubscription, h.nextTerminalId, h.calls⟩

/-- The same subscribers, and contents that answer alike. -/
def Agree (R : σ → τ → Prop) (h : EventStore σ) (h' : EventStore τ) : Prop :=
  ∃ t, R h.stored t ∧ h' = h.withStored t

/-! ### Operations on the subscribers -/

variable {R : σ → τ → Prop}

omit [EventStorage σ] [EventStorage τ] in
theorem deliver_withStored (event : NegotiationEvent) (h : EventStore σ) (k : SubscriptionId)
    (t : τ) : (h.withStored t).deliver event k = (h.deliver event k).withStored t ∧
      (h.deliver event k).stored = h.stored := by
  have hsame : (h.withStored t).subscription k = h.subscription k := rfl
  unfold deliver
  rw [hsame]
  cases h.subscription k <;> exact ⟨rfl, rfl⟩

omit [EventStorage σ] [EventStorage τ] in
theorem notify_withStored (h : EventStore σ) (r : JsString) (event : NegotiationEvent) (t : τ) :
    (h.withStored t).notify r event = (h.notify r event).withStored t ∧
      (h.notify r event).stored = h.stored := by
  have hloop : ∀ (ks : List SubscriptionId) (h : EventStore σ),
      ks.foldl (deliver event) (h.withStored t) = (ks.foldl (deliver event) h).withStored t ∧
        (ks.foldl (deliver event) h).stored = h.stored := by
    intro ks
    induction ks with
    | nil => exact fun h => ⟨rfl, rfl⟩
    | cons k ks ih =>
      intro h
      obtain ⟨hround, hstored⟩ := deliver_withStored event h k t
      rw [List.foldl_cons, List.foldl_cons, hround, (ih _).1, (ih _).2]
      exact ⟨rfl, hstored⟩
  have hsame : (h.withStored t).subscribers = h.subscribers := rfl
  unfold notify
  rw [hsame]
  cases h.subscribers.get? r with
  | none => exact ⟨rfl, rfl⟩
  | some subs => exact hloop (h.members subs) h

omit [EventStorage σ] [EventStorage τ] in
theorem notifyTerminal_withStored (h : EventStore σ) (r : JsString) (event : NegotiationEvent)
    (t : τ) : (h.withStored t).notifyTerminal r event = (h.notifyTerminal r event).withStored t ∧
      (h.notifyTerminal r event).stored = h.stored := by
  have hsame : (h.withStored t).terminalSubscribers = h.terminalSubscribers := rfl
  unfold notifyTerminal
  rw [hsame]
  cases event.type.terminalState <;> cases h.terminalSubscribers.get? r <;> exact ⟨rfl, rfl⟩

omit [EventStorage σ] [EventStorage τ] in
theorem unsubscribe_withStored (h : EventStore σ) (k : SubscriptionId) (t : τ) :
    (h.withStored t).unsubscribe k = (h.unsubscribe k).withStored t ∧
      (h.unsubscribe k).stored = h.stored := by
  have hsame : (h.withStored t).subscription k = h.subscription k := rfl
  unfold unsubscribe
  rw [hsame]
  cases h.subscription k <;> exact ⟨rfl, rfl⟩

omit [EventStorage σ] [EventStorage τ] in
theorem activate_withStored (h : EventStore σ) (k : SubscriptionId) (t : τ) :
    (h.withStored t).activate k = (h.activate k).withStored t ∧
      (h.activate k).stored = h.stored := by
  have hsame : (h.withStored t).subscription k = h.subscription k := rfl
  unfold activate
  rw [hsame]
  cases h.subscription k with
  | none => exact ⟨rfl, rfl⟩
  | some sub =>
    simp only
    cases sub.feed <;> exact ⟨rfl, rfl⟩

omit [EventStorage σ] [EventStorage τ] in
theorem unsubscribeTerminal_withStored (h : EventStore σ) (k : SubscriptionId) (t : τ) :
    (h.withStored t).unsubscribeTerminal k = (h.unsubscribeTerminal k).withStored t ∧
      (h.unsubscribeTerminal k).stored = h.stored := by
  have hsame : (h.withStored t).terminalSubscription k = h.terminalSubscription k := rfl
  unfold unsubscribeTerminal
  rw [hsame]
  cases h.terminalSubscription k <;> exact ⟨rfl, rfl⟩

/-! ### Calls -/

theorem getEvents_agree (hR : Interchangeable R) {s : σ} {t : τ} (hst : R s t)
    (r callerDid buyer : JsString) (afterId : Option JsString) :
    EventStorage.getEvents s r callerDid buyer afterId =
      EventStorage.getEvents t r callerDid buyer afterId := by
  rw [EventStorage.getEvents_eq, EventStorage.getEvents_eq, hR.log hst]

theorem hasCursor_agree (hR : Interchangeable R) {s : σ} {t : τ} (hst : R s t)
    (r id : JsString) : EventStorage.hasCursor s r id = EventStorage.hasCursor t r id := by
  rw [Bool.eq_iff_iff, EventStorage.hasCursor_iff, EventStorage.hasCursor_iff, hR.log hst]

theorem subscribeFrom_withStored (hR : Interchangeable R) {h : EventStore σ} {t : τ}
    (hst : R h.stored t) (r callerDid buyer : JsString) (afterId : Option JsString) :
    (h.withStored t).subscribeFrom r callerDid buyer afterId =
      ((h.subscribeFrom r callerDid buyer afterId).1.withStored t,
        (h.subscribeFrom r callerDid buyer afterId).2) ∧
      (h.subscribeFrom r callerDid buyer afterId).1.stored = h.stored := by
  have hreplay : EventStorage.getEvents
      (h.subscribe r callerDid buyer (some ⟨.buffering, [], false, false⟩)).stored r callerDid
        buyer afterId = EventStorage.getEvents t r callerDid buyer afterId :=
    getEvents_agree hR hst r callerDid buyer afterId
  have hsame : (h.withStored t).subscribe r callerDid buyer
      (some ⟨.buffering, [], false, false⟩) =
        (h.subscribe r callerDid buyer (some ⟨.buffering, [], false, false⟩)).withStored t := rfl
  have hsub : ∀ k, ((h.subscribe r callerDid buyer
      (some ⟨.buffering, [], false, false⟩)).withStored t).subscription k =
        (h.subscribe r callerDid buyer (some ⟨.buffering, [], false, false⟩)).subscription k :=
    fun k => rfl
  have hid : (h.withStored t).nextId = h.nextId := rfl
  unfold subscribeFrom
  simp only [hsame, hreplay, hsub, hid]
  cases (h.subscribe r callerDid buyer
    (some ⟨.buffering, [], false, false⟩)).subscription h.nextId <;> exact ⟨rfl, rfl⟩

/-- The payloads that a call stores are JSON values. -/
def JsonCall : StoreCall → Prop
  | .append _ event => JsonValued event
  | _ => True

theorem append_agree (hR : Interchangeable R) {h : EventStore σ} {h' : EventStore τ}
    (hh : Agree R h h') (r : JsString) {event : NegotiationEvent} (hjson : JsonValued event) :
    (h.append r event).2 = (h'.append r event).2 ∧
      Agree R (h.append r event).1 (h'.append r event).1 := by
  obtain ⟨t, hst, rfl⟩ := hh
  have hcontents : (h.withStored t).stored = t := rfl
  unfold append
  rw [hcontents]
  rcases hR.append hst r event hjson with ⟨message, hs, ht⟩ | ⟨s', t', stored, hs, ht, hst'⟩
  · rw [hs, ht]
    exact ⟨rfl, t, hst, rfl⟩
  · rw [hs, ht]
    refine ⟨rfl, t', ?_, ?_⟩
    · show R (((h.withStored s').notify r stored).notifyTerminal r stored).stored t'
      rw [(notifyTerminal_withStored (τ := τ) _ r stored t').2,
        (notify_withStored (τ := τ) _ r stored t').2]
      exact hst'
    · show (((h.withStored s').withStored t').notify r stored).notifyTerminal r stored =
        (((h.withStored s').notify r stored).notifyTerminal r stored).withStored t'
      rw [(notify_withStored _ r stored t').1, (notifyTerminal_withStored _ r stored t').1]

/-- Each call has the same result in stores that agree, and they agree after it. -/
theorem call_agree (hR : Interchangeable R) {h : EventStore σ} {h' : EventStore τ}
    (hh : Agree R h h') {c : StoreCall} (hc : JsonCall c) :
    (h.call c).2 = (h'.call c).2 ∧ Agree R (h.call c).1 (h'.call c).1 := by
  cases c with
  | append r event => exact append_agree hR hh r hc
  | getEvents r callerDid buyer afterId =>
    obtain ⟨t, hst, rfl⟩ := hh
    exact ⟨congrArg _ (getEvents_agree hR hst r callerDid buyer afterId), t, hst, rfl⟩
  | getAllEvents r =>
    obtain ⟨t, hst, rfl⟩ := hh
    exact ⟨congrArg _ (hR.log hst r), t, hst, rfl⟩
  | size r =>
    obtain ⟨t, hst, rfl⟩ := hh
    exact ⟨congrArg _ (hR.size hst r), t, hst, rfl⟩
  | hasCursor r id =>
    obtain ⟨t, hst, rfl⟩ := hh
    exact ⟨congrArg _ (hasCursor_agree hR hst r id), t, hst, rfl⟩
  | listSessionIds =>
    obtain ⟨t, hst, rfl⟩ := hh
    exact ⟨congrArg _ (hR.sessions hst), t, hst, rfl⟩
  | subscribe r callerDid buyer =>
    obtain ⟨t, hst, rfl⟩ := hh
    exact ⟨rfl, t, hst, rfl⟩
  | subscribeFrom r callerDid buyer afterId =>
    obtain ⟨t, hst, rfl⟩ := hh
    obtain ⟨hcall, hstored⟩ := subscribeFrom_withStored hR hst r callerDid buyer afterId
    rw [call, call, hcall]
    exact ⟨rfl, t, hstored ▸ hst, rfl⟩
  | activate k =>
    obtain ⟨t, hst, rfl⟩ := hh
    obtain ⟨hcall, hstored⟩ := activate_withStored h k t
    exact ⟨rfl, t, show R (h.activate k).stored t from hstored ▸ hst, hcall⟩
  | unsubscribe k =>
    obtain ⟨t, hst, rfl⟩ := hh
    obtain ⟨hcall, hstored⟩ := unsubscribe_withStored h k t
    exact ⟨rfl, t, show R (h.unsubscribe k).stored t from hstored ▸ hst, hcall⟩
  | subscribeTerminal r listener =>
    obtain ⟨t, hst, rfl⟩ := hh
    exact ⟨rfl, t, hst, rfl⟩
  | unsubscribeTerminal k =>
    obtain ⟨t, hst, rfl⟩ := hh
    obtain ⟨hcall, hstored⟩ := unsubscribeTerminal_withStored h k t
    exact ⟨rfl, t, show R (h.unsubscribeTerminal k).stored t from hstored ▸ hst, hcall⟩

end EventStore
end Storage

/-! ### The store in memory and the durable store -/

/-- The same logs, the same sessions in the same order, the same used ids. -/
structure SameContents (s : InMemoryEventStore) (t : SqliteEventStore) : Prop where
  log : ∀ r, s.getAllEvents r = t.getAllEvents r
  sessions : s.listSessionIds = t.activeSessionIds
  ids : ∀ id, id ∈ s.seenEventIds ↔ id ∈ t.rows.map EventRow.eventId

/-- A row that holds the JSON text of a payload reads as the event. -/
theorem rowToEvent_newRow (t : SqliteEventStore) {r : JsString} {event : NegotiationEvent}
    (hr : r = event.rfqId) (hjson : JsonValued event) :
    rowToEvent (t.newRow r event) = event := by
  have hpayload : (parseRecord (t.newRow r event).payload).get (t.newRow r event).readable =
      event.payload := by
    apply Option.get_of_eq_some
    exact parseRecord_ordinary hjson
  obtain ⟨eventId, rfqId, type, timestamp, actor, payload⟩ := event
  subst hr
  simp only [rowToEvent, hpayload]
  rfl

theorem SameContents.push {s : InMemoryEventStore} {t : SqliteEventStore} (h : SameContents s t)
    {r : JsString} {event : NegotiationEvent} (hr : r = event.rfqId) (hjson : JsonValued event)
    (hfresh : event.eventId ∉ t.rows.map EventRow.eventId) :
    SameContents (s.push r event) (t.insert r event hfresh) where
  log q := by
    rw [SqliteEventStore.getAllEvents_insert, rowToEvent_newRow t hr hjson, ← h.log,
      InMemoryEventStore.getAllEvents, InMemoryEventStore.push, JsMap.get?_set]
    split_ifs with hq
    · rw [hq, Option.getD_some]
    · rfl
  sessions := by
    show (JsMap.setEntries r _ s.events.entries).map Prod.fst =
      if r ∈ t.activeSessionIds then t.activeSessionIds else t.activeSessionIds ++ [r]
    have hkeys : s.events.entries.map Prod.fst = s.listSessionIds := rfl
    rw [JsMap.keys_setEntries, ← h.sessions, hkeys]
    by_cases hmem : r ∈ s.listSessionIds
    · rw [if_pos hmem, if_pos hmem]
    · rw [if_neg hmem, if_neg hmem]
  ids id := by
    rw [InMemoryEventStore.push, SqliteEventStore.insert, List.map_append, List.mem_append,
      List.mem_cons, h.ids, or_comm]
    simp [SqliteEventStore.newRow]

theorem sameContents_interchangeable : Interchangeable SameContents where
  empty := ⟨fun r => rfl, rfl, fun id => Iff.rfl⟩
  log h := h.log
  size {s t} h r := by
    have hs : EventStorage.size s r = (s.getAllEvents r).length := by
      show ((s.events.get? r).map List.length).getD 0 = ((s.events.get? r).getD []).length
      cases s.events.get? r <;> rfl
    have ht : EventStorage.size t r = (t.getAllEvents r).length := by
      show t.rows.countP _ = _
      rw [SqliteEventStore.getAllEvents, List.length_map, SqliteEventStore.getAll,
        List.countP_eq_length_filter]
    rw [hs, ht, h.log]
  sessions h := h.sessions
  append {s t} h r event hjson := by
    by_cases hr : r = event.rfqId
    · by_cases hfresh : event.eventId ∉ t.rows.map EventRow.eventId
      · refine Or.inr ⟨s.push r event, t.insert r event hfresh, event, ?_, ?_,
          h.push hr hjson hfresh⟩
        · show (s.append r event).map (fun s' => (s', event)) = _
          have hseen : event.eventId ∉ s.seenEventIds := fun hid => hfresh ((h.ids _).mp hid)
          rw [InMemoryEventStore.append, ensure, if_pos hr, ensure, if_pos hseen]
          rfl
        · show t.append r event = _
          rw [SqliteEventStore.append, ensure, if_pos hr, dif_pos hfresh,
            rowToEvent_newRow t hr hjson]
          rfl
      · have hseen : ¬ event.eventId ∉ s.seenEventIds := fun hid =>
          hfresh fun h' => hid ((h.ids _).mpr h')
        refine Or.inl ⟨js "EventStore.append: duplicate event_id \"" ++ event.eventId ++ js "\"",
          ?_, ?_⟩
        · show (s.append r event).map (fun s' => (s', event)) = _
          rw [InMemoryEventStore.append, ensure, if_pos hr, ensure, if_neg hseen]
          rfl
        · show t.append r event = _
          rw [SqliteEventStore.append, ensure, if_pos hr, dif_neg hfresh]
          rfl
    · refine Or.inl ⟨js "EventStore.append: rfqId mismatch — parameter \"" ++ r ++
        js "\" !== event.rfq_id \"" ++ event.rfqId ++ js "\"", ?_, ?_⟩
      · show (s.append r event).map (fun s' => (s', event)) = _
        rw [InMemoryEventStore.append, ensure, if_neg hr]
        rfl
      · show t.append r event = _
        rw [SqliteEventStore.append, ensure, if_neg hr]
        rfl

/-- Whatever is called on the two stores, the results are the same and the same listeners
were called with the same events in the same order. -/
theorem stores_interchangeable (cs : List StoreCall) (hcs : ∀ c ∈ cs, EventStore.JsonCall c) :
    let memory := respond EventStore.call (EventStore.empty : EventStore InMemoryEventStore) cs
    let sqlite := respond EventStore.call (EventStore.empty : EventStore SqliteEventStore) cs
    memory.2 = sqlite.2 ∧ memory.1.calls = sqlite.1.calls := by
  have hempty : EventStore.Agree SameContents EventStore.empty EventStore.empty :=
    ⟨_, sameContents_interchangeable.empty, rfl⟩
  have hstep : ∀ h h' c, EventStore.Agree SameContents h h' → EventStore.JsonCall c →
      (h.call c).2 = (h'.call c).2 ∧ EventStore.Agree SameContents (h.call c).1 (h'.call c).1 :=
    fun h h' c hh hc => EventStore.call_agree sameContents_interchangeable hh hc
  obtain ⟨hresults, t, -, hlast⟩ := respond_bisim hstep hempty hcs
  exact ⟨hresults, by rw [hlast]; rfl⟩
/-- Two offers, a repeated event id, a wrong session and an unknown cursor. -/
def storeSample : List StoreCall :=
  let offer (id : String) : NegotiationEvent := ⟨js id, js "rfq-1", .offerSubmitted,
    js "2026-03-01T12:00:00.000Z", js "did:key:zSeller", [(js "price", .str (js "12.50"))]⟩
  [.subscribe (js "rfq-1") (js "did:key:zSeller") (js "did:key:zBuyer"),
    .append (js "rfq-1") (offer "e1"), .append (js "rfq-1") (offer "e2"),
    .append (js "rfq-1") (offer "e1"), .append (js "rfq-2") (offer "e3"),
    .getEvents (js "rfq-1") (js "did:key:zBuyer") (js "did:key:zBuyer") (some (js "e1")),
    .getEvents (js "rfq-1") (js "did:key:zBuyer") (js "did:key:zBuyer") (some (js "e9"))]

theorem stores_interchangeable_sample :
    (∀ c ∈ storeSample, EventStore.JsonCall c) ∧
      (respond EventStore.call (EventStore.empty : EventStore InMemoryEventStore) storeSample).2 =
        (respond EventStore.call (EventStore.empty : EventStore SqliteEventStore)
          storeSample).2 := by
  have hjson : ∀ c ∈ storeSample, EventStore.JsonCall c := by
    have hpayload : (Json.obj [(js "price", .str (js "12.50"))]).Ordinary := by
      refine ⟨List.nodup_singleton _, ?_, trivial, trivial⟩
      rw [enumerate]
      cases h : arrayIndex? (js "price") <;> simp [h]
    simp only [storeSample, List.forall_mem_cons, List.not_mem_nil, false_imp_iff, implies_true,
      and_true]
    exact ⟨trivial, hpayload, hpayload, hpayload, hpayload, trivial, trivial⟩
  exact ⟨hjson, (stores_interchangeable storeSample hjson).1⟩

end GhostBazaar.Engine
