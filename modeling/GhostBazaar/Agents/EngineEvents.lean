import GhostBazaar.Agents.SellerAgent
import GhostBazaar.Engine.Noninterference
import GhostBazaar.Engine.Polling

/-! What a client of the agents reads of the events that the engine serves: the events that its
key may see, under the agents' own names for their types. -/
namespace GhostBazaar.Agents
open Js GhostBazaar.Core Strategy
open Engine (visibleTo deriveState eventMembers pollReply pollEvents EventStorage)

/-! ### normalizeEvent -/

/-- An event as the engine sends it. -/
structure RawNegotiationEvent where
  eventId : EventId
  rfqId : JsString
  type : Option JsString
  eventType : Option JsString
  actor : JsString
  payload : JsValue
  timestamp : JsString

def EVENT_TYPE_MAP : List (JsString × JsString) :=
  [(js "RFQ_CREATED", js "rfq_created"), (js "OFFER_SUBMITTED", js "offer"),
    (js "COUNTER_SENT", js "counter"), (js "WINNER_SELECTED", js "quote_ready"),
    (js "COMMIT_PENDING", js "commit_pending"), (js "QUOTE_SIGNED", js "buyer_signed"),
    (js "QUOTE_COMMITTED", js "quote_committed"), (js "COSIGN_DECLINED", js "cosign_declined"),
    (js "COSIGN_TIMEOUT", js "cosign_timeout"), (js "NEGOTIATION_EXPIRED", js "expired"),
    (js "NEGOTIATION_CANCELLED", js "cancelled")]

/-- `toLowerCase` on the letters from `A` to `Z`. -/
def toLowerCase (s : JsString) : JsString :=
  s.map fun u => if 65 ≤ u.val ∧ u.val ≤ 90 then u + 32 else u

def normalizeEventType (eventType : Option JsString) : JsString :=
  match eventType.filter fun text => !text.isEmpty with
  | none => js "unknown"
  | some text => (EVENT_TYPE_MAP.lookup text).getD (toLowerCase text)

def normalizeEvent (event : RawNegotiationEvent) : NegotiationEvent where
  eventId := event.eventId
  rfqId := event.rfqId
  eventType := event.eventType.getD (normalizeEventType event.type)
  actor := event.actor
  payload := event.payload
  timestamp := event.timestamp

/-- `event as RawNegotiationEvent`, of a value that is one. -/
def rawEvent (event : Json) : Option RawNegotiationEvent := do
  let eventId ← match event.get? (js "event_id") with
    | some (.str id) => some (.text id)
    | some (.num id) => some (.number id)
    | _ => none
  let rfqId ← JsValue.asStr (event.get? (js "rfq_id"))
  let actor ← JsValue.asStr (event.get? (js "actor"))
  let timestamp ← JsValue.asStr (event.get? (js "timestamp"))
  return ⟨eventId, rfqId, JsValue.asStr (event.get? (js "type")),
    JsValue.asStr (event.get? (js "event_type")), actor, event.get? (js "payload"), timestamp⟩

/-- The events of the answer to `getEvents`. -/
def readEvents (data : Json) : Option (List NegotiationEvent) :=
  let events := match data.get? (js "events") with
    | some .null | none => data
    | some events => events
  match events with
  | .arr events => events.mapM fun event => (rawEvent event).map normalizeEvent
  | _ => some []

/-- An event of the engine, as a client of the agents has it. -/
def shownEvent (event : Engine.NegotiationEvent) : NegotiationEvent where
  eventId := .text event.eventId
  rfqId := event.rfqId
  eventType := normalizeEventType (some event.type.text)
  actor := event.actor
  payload := some (.obj event.payload)
  timestamp := event.timestamp

theorem normalizeEvent_eventMembers (event : Engine.NegotiationEvent) :
    (rawEvent (.obj (eventMembers event))).map normalizeEvent = some (shownEvent event) := rfl

theorem readEvents_pollReply (rfqId : JsString) (events : List Engine.NegotiationEvent)
    (cursor : Option JsString) :
    readEvents (.obj (pollReply rfqId events cursor).body) = some (events.map shownEvent) := by
  change (events.map fun event => Json.obj (eventMembers event)).mapM
    (fun event => (rawEvent event).map normalizeEvent) = _
  induction events with
  | nil => rfl
  | cons event events ih =>
    rw [List.map_cons, List.mapM_cons, normalizeEvent_eventMembers, ih]
    rfl

/-- What a client reads in the answer of the route. -/
theorem readEvents_pollEvents {τ : Type} [EventStorage τ] {store : τ} {rfqId did : JsString}
    {session : Option Engine.DerivedSession} {cursor : Option JsString} {reply : Engine.Reply}
    (h : pollEvents store rfqId did session cursor = .ok reply) :
    ∃ s, session = some s ∧ readEvents (.obj reply.body) =
      some ((visibleTo did s.rfq.buyer (Engine.eventsAfter cursor
        (EventStorage.getAllEvents store rfqId))).map shownEvent) := by
  simp only [pollEvents, bind_eq_ok, orThrow_eq_ok, pure_eq_ok] at h
  obtain ⟨s, hs, -, -, -, -, rfl⟩ := h
  refine ⟨s, hs, ?_⟩
  rw [← EventStorage.getEvents_eq]
  exact readEvents_pollReply rfqId _ cursor

/-! ### What a key is shown -/

/-- The events of a log that the engine shows to a key. -/
def shownTo (did : JsString) (log : List Engine.NegotiationEvent) : List NegotiationEvent :=
  match deriveState log with
  | .ok (some s) => (visibleTo did s.rfq.buyer log).map shownEvent
  | _ => []

theorem shownTo_eq {did : JsString} {log : List Engine.NegotiationEvent}
    {s : Engine.DerivedSession} (hs : deriveState log = .ok (some s)) :
    shownTo did log = (visibleTo did s.rfq.buyer log).map shownEvent := by
  rw [shownTo, hs]

theorem nodup_shownTo {did : JsString} {log : List Engine.NegotiationEvent}
    (hnodup : (log.map (·.eventId)).Nodup) : ((shownTo did log).map (·.eventId)).Nodup := by
  have htext : Function.Injective EventId.text := fun _ _ h => EventId.text.inj h
  unfold shownTo
  split
  · rename_i s _
    have hids : ((visibleTo did s.rfq.buyer log).map shownEvent).map (·.eventId) =
        ((visibleTo did s.rfq.buyer log).map (·.eventId)).map EventId.text := by
      rw [List.map_map, List.map_map]
      rfl
    rw [hids]
    exact (hnodup.sublist (List.filter_sublist.map _)).map htext
  · exact List.nodup_nil

/-- What a key is shown only grows. -/
theorem shownTo_append (did : JsString) {log more : List Engine.NegotiationEvent}
    {s' : Option Engine.DerivedSession} (hs' : deriveState (log ++ more) = .ok s') {s}
    (hs : deriveState log = .ok s) :
    ∃ events, shownTo did (log ++ more) = shownTo did log ++ events := by
  cases s with
  | none => exact ⟨_, by rw [shownTo.eq_def did log, hs, List.nil_append]⟩
  | some s =>
    cases s' with
    | none =>
      obtain ⟨rfl, -⟩ := List.append_eq_nil_iff.mp (Engine.deriveState_none_iff.mp hs')
      cases hs
    | some s' =>
      have hrfq := Engine.rfq_eq_of_prefix (List.prefix_append log more) hs hs'
      rw [shownTo_eq hs, shownTo_eq hs', hrfq, Engine.visibleTo_append, List.map_append]
      exact ⟨_, rfl⟩

/-- The events that a client asks for, after one that it has been shown, are those that it has
not been shown yet. -/
theorem eventsAfter_shownTo {did : JsString} {log : List Engine.NegotiationEvent}
    {s : Engine.DerivedSession} (hs : deriveState log = .ok (some s))
    (hnodup : (log.map (·.eventId)).Nodup) {after : Option EventId}
    (hafter : ∀ id, after = some id → id ∈ (shownTo did log).map (·.eventId)) :
    eventsAfter (shownTo did log) after = (visibleTo did s.rfq.buyer
      (Engine.eventsAfter (after.map EventId.toJsString) log)).map shownEvent := by
  rw [shownTo_eq hs] at hafter ⊢
  cases after with
  | none => rfl
  | some id =>
    obtain ⟨shown, hshown, rfl⟩ := List.mem_map.mp (hafter id rfl)
    obtain ⟨event, hevent, rfl⟩ := List.mem_map.mp hshown
    have hvisible := (List.mem_filter.mp hevent).2
    obtain ⟨before, later, rfl⟩ := List.append_of_mem (List.mem_filter.mp hevent).1
    have hbefore : ∀ e ∈ before, e.eventId ≠ event.eventId := by
      intro e he heq
      rw [List.map_append, List.nodup_append] at hnodup
      exact hnodup.2.2 _ (List.mem_map_of_mem he) event.eventId (by simp) heq
    have hlast : Engine.eventsAfter (some event.eventId) (before ++ event :: later) = later := by
      rw [List.append_cons] at hnodup ⊢
      exact Engine.Polling.eventsAfter_last hnodup
    have hsplit : visibleTo did s.rfq.buyer (before ++ event :: later) =
        visibleTo did s.rfq.buyer before ++ event :: visibleTo did s.rfq.buyer later := by
      rw [Engine.visibleTo_append, visibleTo, visibleTo, List.filter_cons, if_pos hvisible]
      rfl
    change _ = (visibleTo did s.rfq.buyer (Engine.eventsAfter (some event.eventId) _)).map _
    rw [hlast, hsplit, List.map_append, List.map_cons, eventsAfter,
      List.dropWhile_append_of_pos, List.dropWhile_cons_of_neg (by simp), List.tail_cons]
    intro shown hshown
    obtain ⟨e, he, rfl⟩ := List.mem_map.mp hshown
    simpa [shownEvent] using hbefore e (List.mem_filter.mp he).1

end GhostBazaar.Agents
