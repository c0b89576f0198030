import GhostBazaar.Engine.Middleware
import GhostBazaar.Engine.Visibility

/-! The routes that read: the public listing `GET /rfqs`, session by session, and the
polling mode of `GET /rfqs/:id/events`. -/
namespace GhostBazaar.Engine
open Js

/-! ### GET /rfqs -/

/-- The filters of the query string; `state` has passed its check. -/
structure RfqQuery where
  serviceType : Option JsString
  state : Option SessionState
  buyer : Option JsString
  includeTerminal : Bool

/-- A filter of the query; an empty one is none. -/
def passes (filter : Option JsString) (value : JsString) : Bool :=
  match filter.filter fun f => !f.isEmpty with
  | none => true
  | some f => decide (value = f)

def RfqQuery.selects (q : RfqQuery) (session : DerivedSession) : Bool :=
  if !q.includeTerminal && q.state.isNone && session.state.isTerminal then false
  else passes q.serviceType session.rfq.serviceType &&
    (match q.state with
    | none => true
    | some state => decide (session.state = state)) &&
    passes q.buyer session.rfq.buyer

/-- The entry of a session in the listing. -/
def rfqSummary (session : DerivedSession) : Members :=
  [(js "rfq_id", .str session.rfq.rfqId), (js "buyer", .str session.rfq.buyer),
    (js "service_type", .str session.rfq.serviceType),
    (js "anchor_price", .str session.rfq.anchorPrice),
    (js "currency", .str session.rfq.currency), (js "deadline", .str session.rfq.deadline),
    (js "state", .str session.state.text), (js "offer_count", .num (.ofNat session.totalOfferCount))]

/-- One round of the loop over the sessions. -/
def rfqEntry (q : RfqQuery) (session : DerivedSession) : Option Members :=
  if q.selects session then some (rfqSummary session) else none

/-! ### GET /rfqs/:id/events -/

def isParticipant (callerDid buyerDid : JsString) (offers : List RecordedOffer) : Bool :=
  if callerDid = buyerDid then true else offers.any fun o => decide (o.seller = callerDid)

def eventMembers (event : NegotiationEvent) : Members :=
  [(js "event_id", .str event.eventId), (js "rfq_id", .str event.rfqId),
    (js "type", .str event.type.text), (js "timestamp", .str event.timestamp),
    (js "actor", .str event.actor), (js "payload", .obj event.payload)]

/-- The answer to an authenticated caller that does not ask for a stream. -/
def pollEvents {τ : Type} [EventStorage τ] (eventStore : τ) (rfqId callerDid : JsString)
    (session : Option DerivedSession) (cursor : Option JsString) : Handling Reply := do
  let session ← orThrow session (.refused sessionNotFound)
  require (isParticipant callerDid session.rfq.buyer session.offers = true)
    (unauthorized (js "Only participants can access events"))
  require (∀ id ∈ cursor, EventStorage.hasCursor eventStore rfqId id = true)
    ⟨400, js "invalid_cursor", js "Cursor event_id not found in session"⟩
  let events := EventStorage.getEvents eventStore rfqId callerDid session.rfq.buyer cursor
  let responseCursor := (events.getLast?.map NegotiationEvent.eventId).or cursor
  return ⟨200, [(js "rfq_id", .str rfqId),
    (js "events", .arr (events.map fun e => .obj (eventMembers e))),
    (js "cursor", match responseCursor with
      | some id => .str id
      | none => .null),
    (js "cursor_valid", .bool true)]⟩

theorem EventType.text_injective : Function.Injective EventType.text := by
  intro a b h
  cases a <;> cases b <;> first | rfl | exact absurd h (by decide)

theorem eventMembers_injective : Function.Injective eventMembers := by
  intro a b h
  simp only [eventMembers, List.cons.injEq, Prod.mk.injEq, Json.str.injEq, Json.obj.injEq,
    true_and, and_true] at h
  obtain ⟨hid, hrfq, htype, htime, hactor, hpayload⟩ := h
  cases a
  cases b
  simp only at hid hrfq htype htime hactor hpayload
  rw [hid, hrfq, EventType.text_injective htype, htime, hactor, hpayload]

end GhostBazaar.Engine
