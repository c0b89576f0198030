import GhostBazaar.Engine.Subscriptions
import GhostBazaar.Js.Parse

/-! The durable event store: one table of events, its queries, and the payloads as JSON
texts. SQLite keeps rows in `id` order, enforces the UNIQUE column and stores text as it is. -/
namespace GhostBazaar.Engine
open Js

/-- `JSON.parse(row.payload) as Record`. -/
def parseRecord (text : JsString) : Option Members :=
  match parse text with
  | some (.obj ms) => some ms
  | _ => none

theorem parseRecord_stringify (payload : Members) :
    parseRecord (textUnits (stringify (.obj payload))) =
      some (objectOf (Json.rebuildMembers payload)) := by
  rw [parseRecord, parse_stringify_rebuild, Json.rebuild]

theorem parseRecord_ordinary {payload : Members} (h : (Json.obj payload).Ordinary) :
    parseRecord (textUnits (stringify (.obj payload))) = some payload := by
  rw [parseRecord, parse_stringify h]

structure EventRow where
  id : ℕ
  eventId : JsString
  sessionId : JsString
  type : EventType
  actor : JsString
  timestamp : JsString
  payload : JsString
  /-- The column was written by `JSON.stringify`. -/
  readable : (parseRecord payload).isSome

def rowToEvent (row : EventRow) : NegotiationEvent where
  eventId := row.eventId
  rfqId := row.sessionId
  type := row.type
  actor := row.actor
  timestamp := row.timestamp
  payload := (parseRecord row.payload).get row.readable

/-- The table `events`, with the ids that AUTOINCREMENT has not yet given out. -/
structure SqliteEventStore where
  rows : List EventRow
  nextId : ℕ
  activeSessionIds : List JsString
  ascending : rows.Pairwise fun a b => a.id < b.id
  bounded : ∀ row ∈ rows, row.id < nextId
  unique : (rows.map EventRow.eventId).Nodup

namespace SqliteEventStore

def empty : SqliteEventStore := ⟨[], 1, [], .nil, nofun, .nil⟩

/-! ### The prepared statements -/

def getAll (s : SqliteEventStore) (sessionId : JsString) : List EventRow :=
  s.rows.filter fun row => decide (row.sessionId = sessionId)

/-- The subquery of a cursor; without a row it is NULL, and no id is greater. -/
def cursorId (s : SqliteEventStore) (sessionId eventId : JsString) : Option ℕ :=
  (s.rows.find? fun row =>
    decide (row.sessionId = sessionId) && decide (row.eventId = eventId)).map EventRow.id

def getAfterCursor (s : SqliteEventStore) (sessionId eventId : JsString) : List EventRow :=
  s.rows.filter fun row => decide (row.sessionId = sessionId) &&
    match s.cursorId sessionId eventId with
    | some id => decide (id < row.id)
    | none => false

def hasCursor (s : SqliteEventStore) (sessionId eventId : JsString) : Bool :=
  s.rows.any fun row => decide (row.sessionId = sessionId) && decide (row.eventId = eventId)

/-- `COUNT(*)` -/
def size (s : SqliteEventStore) (sessionId : JsString) : ℕ :=
  s.rows.countP fun row => decide (row.sessionId = sessionId)

/-! ### The store -/

def newRow (s : SqliteEventStore) (rfqId : JsString) (event : NegotiationEvent) : EventRow where
  id := s.nextId
  eventId := event.eventId
  sessionId := rfqId
  type := event.type
  actor := event.actor
  timestamp := event.timestamp
  payload := textUnits (stringify (.obj event.payload))
  readable := by rw [parseRecord_stringify]; rfl

/-- The row is inserted, and its session becomes active. -/
def insert (s : SqliteEventStore) (rfqId : JsString) (event : NegotiationEvent)
    (hfresh : event.eventId ∉ s.rows.map EventRow.eventId) : SqliteEventStore where
  rows := s.rows ++ [s.newRow rfqId event]
  nextId := s.nextId + 1
  activeSessionIds :=
    if rfqId ∈ s.activeSessionIds then s.activeSessionIds else s.activeSessionIds ++ [rfqId]
  ascending := by
    rw [List.pairwise_append]
    exact ⟨s.ascending, List.pairwise_singleton _ _, fun a ha b hb => by
      rw [List.mem_singleton.mp hb]
      exact s.bounded a ha⟩
  bounded row hrow := by
    rcases List.mem_append.mp hrow with h | h
    · exact (s.bounded row h).trans (Nat.lt_succ_self _)
    · rw [List.mem_singleton.mp h]
      exact Nat.lt_succ_self _
  unique := by
    rw [List.map_append, List.nodup_append]
    exact ⟨s.unique, List.nodup_singleton _, fun a ha b hb => by
      rw [List.mem_singleton.mp hb]
      exact fun h : a = event.eventId => hfresh (h ▸ ha)⟩

/-- The answer is `frozenEvent`, which the subscribers are given. -/
def append (s : SqliteEventStore) (rfqId : JsString) (event : NegotiationEvent) :
    Except JsString (SqliteEventStore × NegotiationEvent) := do
  ensure (rfqId = event.rfqId)
    (js "EventStore.append: rfqId mismatch — parameter \"" ++ rfqId ++
      js "\" !== event.rfq_id \"" ++ event.rfqId ++ js "\"")
  if hfresh : event.eventId ∉ s.rows.map EventRow.eventId then
    return (s.insert rfqId event hfresh, rowToEvent (s.newRow rfqId event))
  else throw (js "EventStore.append: duplicate event_id \"" ++ event.eventId ++ js "\"")

def getAllEvents (s : SqliteEventStore) (rfqId : JsString) : List NegotiationEvent :=
  (s.getAll rfqId).map rowToEvent

def eventRows (s : SqliteEventStore) (rfqId : JsString) : Option JsString → List EventRow
  | some id => if s.hasCursor rfqId id then s.getAfterCursor rfqId id else []
  | none => s.getAll rfqId

def getEvents (s : SqliteEventStore) (rfqId callerDid buyer : JsString)
    (afterId : Option JsString) : List NegotiationEvent :=
  ((s.eventRows rfqId afterId).map rowToEvent).filter fun event =>
    isEventVisibleTo event callerDid buyer

theorem append_ok {s s' : SqliteEventStore} {rfqId : JsString} {event stored : NegotiationEvent}
    (h : s.append rfqId event = .ok (s', stored)) :
    ∃ hfresh, s' = s.insert rfqId event hfresh ∧ stored = rowToEvent (s.newRow rfqId event) := by
  simp only [append, bind_eq_ok, ensure_eq_ok] at h
  obtain ⟨-, -, h⟩ := h
  split_ifs at h with hfresh
  · rw [pure_eq_ok, Prod.mk.injEq] at h
    exact ⟨hfresh, h.1.symm, h.2.symm⟩

theorem getAllEvents_insert {s : SqliteEventStore} {rfqId : JsString} {event : NegotiationEvent}
    (hfresh : event.eventId ∉ s.rows.map EventRow.eventId) (q : JsString) :
    (s.insert rfqId event hfresh).getAllEvents q =
      if q = rfqId then s.getAllEvents q ++ [rowToEvent (s.newRow rfqId event)]
      else s.getAllEvents q := by
  have hsession : (s.newRow rfqId event).sessionId = rfqId := rfl
  rw [getAllEvents, getAll, insert, List.filter_append, List.map_append, ← getAll, ← getAllEvents,
    List.filter_singleton, hsession]
  by_cases hq : q = rfqId
  · simp [hq]
  · simp [hq, Ne.symm hq]

/-- In a list with ascending keys, what comes after the first hit is what has a greater key. -/
theorem drop_after_find {α : Type} {key : α → ℕ} {p : α → Bool} {xs : List α}
    (h : xs.Pairwise fun a b => key a < key b) :
    (match xs.findIdx? p with
      | none => []
      | some i => xs.drop (i + 1)) =
    xs.filter fun a => match (xs.find? p).map key with
      | some k => decide (k < key a)
      | none => false := by
  induction xs with
  | nil => rfl
  | cons a xs ih =>
    rw [List.pairwise_cons] at h
    by_cases hp : p a = true
    · rw [List.findIdx?_cons, if_pos hp, List.find?_cons_of_pos hp, Option.map_some,
        List.filter_cons_of_neg (by simp)]
      exact (List.filter_eq_self.mpr fun b hb => by simpa using h.1 b hb).symm
    · rw [List.findIdx?_cons, if_neg hp, List.find?_cons_of_neg hp]
      have hrest := ih h.2
      cases hfind : xs.find? p with
      | none =>
        have hnone : xs.findIdx? p = none := by
          rw [List.findIdx?_eq_none_iff]
          exact fun x hx => by simpa using List.find?_eq_none.mp hfind x hx
        simp [hnone]
      | some b =>
        have hb := h.1 b (List.mem_of_find?_eq_some hfind)
        rw [hfind, Option.map_some] at hrest
        simp only [Option.map_some]
        rw [List.filter_cons_of_neg (by simpa using hb.le), ← hrest]
        cases xs.findIdx? p <;> rfl

theorem getAfterCursor_eq (s : SqliteEventStore) (r id : JsString) :
    s.getAfterCursor r id = (s.getAll r).filter fun row =>
      match ((s.getAll r).find? fun row => decide (row.eventId = id)).map EventRow.id with
      | some k => decide (k < row.id)
      | none => false := by
  have hcursor : s.cursorId r id =
      ((s.getAll r).find? fun row => decide (row.eventId = id)).map EventRow.id := by
    rw [cursorId, getAll, List.find?_filter]
    congr 2
    funext row
    simp
  rw [getAfterCursor, hcursor, getAll, List.filter_filter]
  congr 1
  funext row
  rw [Bool.and_comm]

theorem hasCursor_iff (s : SqliteEventStore) (r id : JsString) :
    s.hasCursor r id = true ↔ ∃ e ∈ s.getAllEvents r, e.eventId = id := by
  simp only [hasCursor, List.any_eq_true, Bool.and_eq_true, decide_eq_true_eq, getAllEvents,
    List.mem_map, getAll, List.mem_filter]
  constructor
  · rintro ⟨row, hrow, hr, hid⟩
    exact ⟨rowToEvent row, ⟨row, ⟨hrow, hr⟩, rfl⟩, hid⟩
  · rintro ⟨e, ⟨row, ⟨hrow, hr⟩, rfl⟩, hid⟩
    exact ⟨row, hrow, hr, hid⟩

theorem getEvents_eq (s : SqliteEventStore) (r callerDid buyer : JsString)
    (afterId : Option JsString) : s.getEvents r callerDid buyer afterId =
      visibleTo callerDid buyer (eventsAfter afterId (s.getAllEvents r)) := by
  rw [getEvents, visibleTo]
  congr 1
  cases afterId with
  | none => rfl
  | some id =>
    have hascending : (s.getAll r).Pairwise fun a b => a.id < b.id :=
      s.ascending.sublist List.filter_sublist
    have hdrop := drop_after_find (p := fun row => decide (row.eventId = id)) hascending
    rw [← getAfterCursor_eq] at hdrop
    have hindex : ((s.getAllEvents r).findIdx? fun e => decide (e.eventId = id)) =
        (s.getAll r).findIdx? fun row => decide (row.eventId = id) := by
      rw [getAllEvents, List.findIdx?_map]
      rfl
    rw [eventsAfter, hindex, eventRows]
    by_cases hcursor : s.hasCursor r id = true
    · rw [if_pos hcursor, ← hdrop]
      cases (s.getAll r).findIdx? fun row => decide (row.eventId = id) with
      | none => rfl
      | some i => exact List.map_drop
    · rw [if_neg hcursor]
      have hnone : ((s.getAll r).findIdx? fun row => decide (row.eventId = id)) = none := by
        rw [← hindex, List.findIdx?_eq_none_iff]
        intro e he
        simpa using fun hid => hcursor ((s.hasCursor_iff r id).mpr ⟨e, he, hid⟩)
      rw [hnone]
      rfl

instance : EventStorage SqliteEventStore where
  empty := empty
  append := append
  getEvents := getEvents
  getAllEvents := getAllEvents
  size := size
  hasCursor := hasCursor
  listSessionIds := activeSessionIds
  getAllEvents_empty _ := rfl
  getAllEvents_append h q := by
    obtain ⟨hfresh, rfl, rfl⟩ := append_ok h
    exact getAllEvents_insert hfresh q
  getEvents_eq := getEvents_eq
  hasCursor_iff := hasCursor_iff

end SqliteEventStore
end GhostBazaar.Engine
