import GhostBazaar.Engine.StateMachine
import GhostBazaar.Js.Map
import GhostBazaar.Js.Throw

/-! The event store: the interface with what its callers rely on, and the store in memory. -/
namespace GhostBazaar.Engine
open Js

/-- An append that succeeds adds exactly the event to the log of its session, and no
stored event had its id. An append may also fail, and then nothing is stored. -/
class InternalEventStore (σ : Type) where
  empty : σ
  append : σ → JsString → NegotiationEvent → Except JsString σ
  getAllEvents : σ → JsString → List NegotiationEvent
  size : σ → JsString → ℕ
  listSessionIds : σ → List JsString
  getAllEvents_empty : ∀ r, getAllEvents empty r = []
  size_eq : ∀ s r, size s r = (getAllEvents s r).length
  append_rfqId : ∀ {s r event s'}, append s r event = .ok s' → event.rfqId = r
  append_log : ∀ {s r event s'}, append s r event = .ok s' → ∀ q,
    getAllEvents s' q = if q = r then getAllEvents s q ++ [event] else getAllEvents s q
  append_fresh : ∀ {s r event s'}, append s r event = .ok s' → ∀ q,
    ∀ e ∈ getAllEvents s q, e.eventId ≠ event.eventId
  mem_listSessionIds : ∀ s r, r ∈ listSessionIds s ↔ getAllEvents s r ≠ []

/-! ### The store in memory -/

structure InMemoryEventStore where
  events : JsMap JsString (List NegotiationEvent)
  seenEventIds : List JsString
  nonempty : ∀ r log, events.get? r = some log → log ≠ []
  seen : ∀ r log, events.get? r = some log → ∀ e ∈ log, e.eventId ∈ seenEventIds

namespace InMemoryEventStore

def empty : InMemoryEventStore := ⟨.empty, [], by simp, by simp⟩

def getAllEvents (s : InMemoryEventStore) (rfqId : JsString) : List NegotiationEvent :=
  (s.events.get? rfqId).getD []

theorem seen_of_mem {s : InMemoryEventStore} {rfqId : JsString} {e : NegotiationEvent}
    (h : e ∈ s.getAllEvents rfqId) : e.eventId ∈ s.seenEventIds := by
  rw [getAllEvents] at h
  cases hlog : s.events.get? rfqId with
  | none => simp [hlog] at h
  | some log => exact s.seen rfqId log hlog e (by simpa [hlog] using h)

/-- `log.push(event)`, or a new log. -/
def push (s : InMemoryEventStore) (rfqId : JsString) (event : NegotiationEvent) :
    InMemoryEventStore where
  events := s.events.set rfqId (s.getAllEvents rfqId ++ [event])
  seenEventIds := event.eventId :: s.seenEventIds
  nonempty := by
    intro r log h
    rw [JsMap.get?_set] at h
    split_ifs at h
    · simp only [Option.some.injEq] at h
      simp [← h]
    · exact s.nonempty r log h
  seen := by
    intro r log h e he
    rw [JsMap.get?_set] at h
    split_ifs at h
    · simp only [Option.some.injEq] at h
      rw [← h, List.mem_append, List.mem_singleton] at he
      rcases he with he | rfl
      · exact List.mem_cons_of_mem _ (seen_of_mem he)
      · exact List.mem_cons_self
    · exact List.mem_cons_of_mem _ (s.seen r log h e he)

def append (s : InMemoryEventStore) (rfqId : JsString) (event : NegotiationEvent) :
    Except JsString InMemoryEventStore := do
  ensure (rfqId = event.rfqId)
    (js "EventStore.append: rfqId mismatch — parameter \"" ++ rfqId ++
      js "\" !== event.rfq_id \"" ++ event.rfqId ++ js "\"")
  ensure (event.eventId ∉ s.seenEventIds)
    (js "EventStore.append: duplicate event_id \"" ++ event.eventId ++ js "\"")
  return s.push rfqId event

def listSessionIds (s : InMemoryEventStore) : List JsString := s.events.entries.map Prod.fst

theorem getAllEvents_empty (r : JsString) : empty.getAllEvents r = [] := rfl

theorem append_ok {s s' : InMemoryEventStore} {rfqId : JsString} {event : NegotiationEvent}
    (h : s.append rfqId event = .ok s') :
    event.rfqId = rfqId ∧ event.eventId ∉ s.seenEventIds ∧ s' = s.push rfqId event := by
  simp only [append, bind_eq_ok, ensure_eq_ok, pure_eq_ok] at h
  obtain ⟨-, hr, -, hfresh, rfl⟩ := h
  exact ⟨hr.symm, hfresh, rfl⟩

instance : InternalEventStore InMemoryEventStore where
  empty := empty
  append := append
  getAllEvents := getAllEvents
  size s rfqId := (s.getAllEvents rfqId).length
  listSessionIds := listSessionIds
  getAllEvents_empty := InMemoryEventStore.getAllEvents_empty
  size_eq _ _ := rfl
  append_rfqId h := (append_ok h).1
  append_log {s r event s'} h q := by
    rw [(append_ok h).2.2, getAllEvents, push, JsMap.get?_set]
    split_ifs with hq
    · rw [hq, Option.getD_some]
    · rfl
  append_fresh h q e he hid := (append_ok h).2.1 (hid ▸ seen_of_mem he)
  mem_listSessionIds s r := by
    rw [listSessionIds, JsMap.mem_keys_iff, getAllEvents]
    cases h : s.events.get? r with
    | none => simp
    | some log => simp [s.nonempty r log h]

end InMemoryEventStore
end GhostBazaar.Engine
