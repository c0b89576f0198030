import GhostBazaar.Engine.EventStore

/-! Which events a caller sees, and the part of an event store that keeps and reads them. -/
namespace GhostBazaar.Engine
open Js

/-- The buyer sees every event, a seller those of a type for all sellers and its own. -/
def isEventVisibleTo (event : NegotiationEvent) (callerDid buyer : JsString) : Bool :=
  if callerDid = buyer then true
  else match event.type with
  | .rfqCreated | .negotiationExpired | .negotiationCancelled => true
  | .offerSubmitted => decide (event.actor = callerDid)
  | .counterSent => decide (event.payload.lookup (js "to") = some (.str callerDid))
  | .winnerSelected | .commitPending | .quoteSigned | .quoteCommitted | .cosignDeclined
  | .cosignTimeout | .settlementConfirmed =>
    decide (event.payload.lookup (js "seller") = some (.str callerDid))

/-- The events that a caller sees. -/
def visibleTo (callerDid buyer : JsString) (log : List NegotiationEvent) :
    List NegotiationEvent :=
  log.filter fun e => isEventVisibleTo e callerDid buyer

/-- The events after a cursor; an unknown cursor has none after it. -/
def eventsAfter (afterId : Option JsString) (log : List NegotiationEvent) :
    List NegotiationEvent :=
  match afterId with
  | none => log
  | some id =>
    match log.findIdx? fun e => decide (e.eventId = id) with
    | none => []
    | some cursorIdx => log.drop (cursorIdx + 1)

/-- The cursor of a caller: none yet, or an event of the session. -/
def ValidCursor (afterId : Option JsString) (log : List NegotiationEvent) : Prop :=
  ∀ id, afterId = some id → ∃ e ∈ log, e.eventId = id

theorem visibleTo_append (callerDid buyer : JsString) (log more : List NegotiationEvent) :
    visibleTo callerDid buyer (log ++ more) =
      visibleTo callerDid buyer log ++ visibleTo callerDid buyer more :=
  List.filter_append _ _

theorem ValidCursor.append {afterId : Option JsString} {log : List NegotiationEvent}
    (h : ValidCursor afterId log) (more : List NegotiationEvent) :
    ValidCursor afterId (log ++ more) := by
  intro id hid
  obtain ⟨e, he, heq⟩ := h id hid
  exact ⟨e, List.mem_append_left _ he, heq⟩

/-- What is appended later comes after every cursor of the log. -/
theorem eventsAfter_append {afterId : Option JsString} {log : List NegotiationEvent}
    (h : ValidCursor afterId log) (more : List NegotiationEvent) :
    eventsAfter afterId (log ++ more) = eventsAfter afterId log ++ more := by
  cases afterId with
  | none => rfl
  | some id =>
    obtain ⟨e, he, hid⟩ := h id rfl
    obtain ⟨i, hi⟩ : ∃ i, log.findIdx? (fun e => decide (e.eventId = id)) = some i := by
      rw [← Option.isSome_iff_exists, List.findIdx?_isSome, List.any_eq_true]
      exact ⟨e, he, by simpa using hid⟩
    have hlt : i < log.length := (List.findIdx?_eq_some_iff_getElem.mp hi).1
    rw [eventsAfter, eventsAfter, List.findIdx?_append, hi]
    exact List.drop_append_of_le_length hlt

/-! ### Stored events -/

/-- What both event stores keep and read, apart from their subscribers: an append answers
with the event as it was stored. -/
class EventStorage (σ : Type) where
  empty : σ
  append : σ → JsString → NegotiationEvent → Except JsString (σ × NegotiationEvent)
  getEvents : σ → JsString → JsString → JsString → Option JsString → List NegotiationEvent
  getAllEvents : σ → JsString → List NegotiationEvent
  size : σ → JsString → ℕ
  hasCursor : σ → JsString → JsString → Bool
  listSessionIds : σ → List JsString
  getAllEvents_empty : ∀ r, getAllEvents empty r = []
  getAllEvents_append : ∀ {s r event s' stored}, append s r event = .ok (s', stored) →
    ∀ q, getAllEvents s' q =
      if q = r then getAllEvents s q ++ [stored] else getAllEvents s q
  getEvents_eq : ∀ s r callerDid buyer afterId, getEvents s r callerDid buyer afterId =
    visibleTo callerDid buyer (eventsAfter afterId (getAllEvents s r))
  hasCursor_iff : ∀ s r id, hasCursor s r id = true ↔ ∃ e ∈ getAllEvents s r, e.eventId = id

namespace InMemoryEventStore

/-- The events from `startIdx` on that the caller may see. -/
def getEvents (s : InMemoryEventStore) (rfqId callerDid buyer : JsString)
    (afterId : Option JsString) : List NegotiationEvent :=
  match s.events.get? rfqId with
  | none => []
  | some log =>
    let result (startIdx : ℕ) := (log.drop startIdx).filter fun e =>
      isEventVisibleTo e callerDid buyer
    match afterId with
    | none => result 0
    | some id =>
      match log.findIdx? fun e => decide (e.eventId = id) with
      | none => []
      | some cursorIdx => result (cursorIdx + 1)

def hasCursor (s : InMemoryEventStore) (rfqId eventId : JsString) : Bool :=
  match s.events.get? rfqId with
  | none => false
  | some log => log.any fun e => decide (e.eventId = eventId)

def size (s : InMemoryEventStore) (rfqId : JsString) : ℕ :=
  ((s.events.get? rfqId).map List.length).getD 0

instance : EventStorage InMemoryEventStore where
  empty := empty
  append s rfqId event := (s.append rfqId event).map fun s' => (s', event)
  getEvents := getEvents
  getAllEvents := getAllEvents
  size := size
  hasCursor := hasCursor
  listSessionIds := listSessionIds
  getAllEvents_empty := InMemoryEventStore.getAllEvents_empty
  getAllEvents_append h q := by
    rw [map_eq_ok] at h
    obtain ⟨s', h, heq⟩ := h
    obtain ⟨rfl, rfl⟩ := Prod.mk.inj heq
    exact @InternalEventStore.append_log InMemoryEventStore _ _ _ _ _ h q
  getEvents_eq s rfqId callerDid buyer afterId := by
    rw [getEvents, getAllEvents]
    cases s.events.get? rfqId with
    | none => cases afterId <;> rfl
    | some log =>
      cases afterId with
      | none => rfl
      | some id =>
        simp only [Option.getD_some, eventsAfter]
        cases log.findIdx? fun e => decide (e.eventId = id) <;> rfl
  hasCursor_iff s rfqId id := by
    rw [hasCursor, getAllEvents]
    cases s.events.get? rfqId <;> simp

end InMemoryEventStore
end GhostBazaar.Engine
