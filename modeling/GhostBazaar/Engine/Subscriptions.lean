import GhostBazaar.Engine.Visibility
import GhostBazaar.Transition

/-! The event stores with their subscribers. Both keep them in the same words, so the
store below is one definition over what is stored. Listeners neither throw nor call back. -/
namespace GhostBazaar.Engine
open Js Transition

/-! ### The objects of a store -/

inductive FeedMode where
  | buffering
  | live
  | stopped
  deriving DecidableEq

/-- The variables that the closures of one `subscribeFrom` call share. -/
structure Feed where
  mode : FeedMode
  buffer : List NegotiationEvent
  activated : Bool
  stopped : Bool

abbrev SubscriptionId := ℕ

/-- A `Set` object is known by the subscription whose call created it. -/
abbrev SetId := ℕ

abbrev ListenerId := ℕ

/-- One `subscribe` call: its subscriber, and the Set and session that the returned
function captured. `subscribeFrom` subscribes with a listener of its own, over its feed. -/
structure Subscription where
  rfqId : JsString
  subs : SetId
  callerDid : JsString
  buyer : JsString
  feed : Option Feed

structure TerminalSubscription where
  rfqId : JsString
  subs : SetId
  listener : ListenerId

/-- A call of a listener: of a subscription, or of a terminal subscriber. -/
inductive Delivery where
  | event (k : SubscriptionId) (event : NegotiationEvent)
  | terminal (listener : ListenerId) (state : JsString)
  deriving DecidableEq

/-- The listener of a subscription on an event it may see, and what reaches the caller. -/
def Subscription.notice (sub : Subscription) (event : NegotiationEvent) :
    Subscription × List NegotiationEvent :=
  if isEventVisibleTo event sub.callerDid sub.buyer then
    match sub.feed with
    | none => (sub, [event])
    | some feed =>
      match feed.mode with
      | .stopped => (sub, [])
      | .buffering => ({ sub with feed := some { feed with buffer := feed.buffer ++ [event] } }, [])
      | .live => (sub, [event])
  else (sub, [])

/-- `activate()` of a feed, and the events it flushes to the caller. -/
def Feed.activate (feed : Feed) : Feed × List NegotiationEvent :=
  if feed.activated || feed.stopped then (feed, [])
  else ({ feed with activated := true, buffer := [], mode := .live }, feed.buffer)

/-- `unsubscribe()` of a feed, up to its subscription. -/
def Feed.stop (feed : Feed) : Feed :=
  { feed with stopped := true, mode := .stopped, buffer := [] }

/-- The state that a terminal event announces. -/
def EventType.terminalState : EventType → Option JsString
  | .quoteCommitted => some (js "COMMITTED")
  | .negotiationExpired => some (js "EXPIRED")
  | .negotiationCancelled => some (js "CANCELLED")
  | _ => none

/-- An event store. `calls` is the trace of all listener calls. -/
structure EventStore (σ : Type) where
  stored : σ
  subscribers : JsMap JsString SetId
  members : SetId → List SubscriptionId
  subscription : SubscriptionId → Option Subscription
  nextId : SubscriptionId
  terminalSubscribers : JsMap JsString SetId
  terminalMembers : SetId → List ListenerId
  terminalSubscription : SubscriptionId → Option TerminalSubscription
  nextTerminalId : SubscriptionId
  calls : List Delivery

inductive StoreCall where
  | append (rfqId : JsString) (event : NegotiationEvent)
  | getEvents (rfqId callerDid buyer : JsString) (afterId : Option JsString)
  | getAllEvents (rfqId : JsString)
  | size (rfqId : JsString)
  | hasCursor (rfqId eventId : JsString)
  | listSessionIds
  | subscribe (rfqId callerDid buyer : JsString)
  | subscribeFrom (rfqId callerDid buyer : JsString) (afterId : Option JsString)
  | activate (k : SubscriptionId)
  | unsubscribe (k : SubscriptionId)
  | subscribeTerminal (rfqId : JsString) (listener : ListenerId)
  | unsubscribeTerminal (k : SubscriptionId)
  deriving DecidableEq

inductive StoreResult where
  | void
  | threw (message : JsString)
  | events (es : List NegotiationEvent)
  | number (n : ℕ)
  | bool (b : Bool)
  | sessionIds (ids : List JsString)
  | subscribed (k : SubscriptionId)
  | feed (k : SubscriptionId) (replay buffered : List NegotiationEvent)
  deriving DecidableEq

namespace EventStore

variable {σ : Type} [EventStorage σ]

def empty : EventStore σ :=
  ⟨EventStorage.empty, .empty, fun _ => [], fun _ => none, 0, .empty, fun _ => [],
    fun _ => none, 0, []⟩

/-- The log of a session. -/
def log (h : EventStore σ) (rfqId : JsString) : List NegotiationEvent :=
  EventStorage.getAllEvents h.stored rfqId

omit [EventStorage σ] in
/-- What the listener of a subscription was called with. -/
def received (h : EventStore σ) (k : SubscriptionId) : List NegotiationEvent :=
  h.calls.filterMap fun
    | .event j event => if j = k then some event else none
    | .terminal _ _ => none

omit [EventStorage σ] in
def setSubscription (h : EventStore σ) (k : SubscriptionId) (sub : Subscription) :
    EventStore σ :=
  { h with subscription := fun j => if j = k then some sub else h.subscription j }

/-! ### append -/

/-- One round of the loop over the subscribers of a session. -/
def deliver (event : NegotiationEvent) (h : EventStore σ) (k : SubscriptionId) : EventStore σ :=
  match h.subscription k with
  | none => h
  | some sub => { h.setSubscription k (sub.notice event).1 with
      calls := h.calls ++ (sub.notice event).2.map (.event k) }

def notify (h : EventStore σ) (rfqId : JsString) (event : NegotiationEvent) : EventStore σ :=
  match h.subscribers.get? rfqId with
  | none => h
  | some subs => (h.members subs).foldl (deliver event) h

/-- Terminal subscribers are called once, and then the session has none. -/
def notifyTerminal (h : EventStore σ) (rfqId : JsString) (event : NegotiationEvent) :
    EventStore σ :=
  match event.type.terminalState, h.terminalSubscribers.get? rfqId with
  | some state, some subs => { h with
      calls := h.calls ++ (h.terminalMembers subs).map fun listener => .terminal listener state
      terminalSubscribers := h.terminalSubscribers.delete rfqId }
  | _, _ => h

def append (h : EventStore σ) (rfqId : JsString) (event : NegotiationEvent) :
    EventStore σ × StoreResult :=
  match EventStorage.append h.stored rfqId event with
  | .error message => (h, .threw message)
  | .ok (stored, frozenEvent) =>
    (({ h with stored }.notify rfqId frozenEvent).notifyTerminal rfqId frozenEvent, .void)

/-! ### subscribe and unsubscribe -/

/-- `subs.add(sub)`, into the Set of the session or a new one. -/
def subscribe (h : EventStore σ) (rfqId callerDid buyer : JsString) (feed : Option Feed) :
    EventStore σ :=
  let subs := (h.subscribers.get? rfqId).getD h.nextId
  { h with
    subscribers := h.subscribers.set rfqId subs
    members := fun set => if set = subs then h.members subs ++ [h.nextId] else h.members set
    subscription := fun k =>
      if k = h.nextId then some ⟨rfqId, subs, callerDid, buyer, feed⟩ else h.subscription k
    nextId := h.nextId + 1 }

/-- The function that `subscribe` returned: it deletes the entry of the session when the
Set that it captured is empty, whichever Set the entry holds by then. -/
def unsubscribeRole (h : EventStore σ) (k : SubscriptionId) (sub : Subscription) : EventStore σ :=
  let rest := (h.members sub.subs).erase k
  { h with
    members := fun set => if set = sub.subs then rest else h.members set
    subscribers := if rest = [] then h.subscribers.delete sub.rfqId else h.subscribers }

def unsubscribe (h : EventStore σ) (k : SubscriptionId) : EventStore σ :=
  match h.subscription k with
  | none => h
  | some sub =>
    let stopped := { sub with feed := sub.feed.map Feed.stop }
    (h.setSubscription k stopped).unsubscribeRole k stopped

/-- Replay, snapshot of the buffer without what the replay has, and the drain. -/
def subscribeFrom (h : EventStore σ) (rfqId callerDid buyer : JsString)
    (afterId : Option JsString) : EventStore σ × StoreResult :=
  let k := h.nextId
  let h := h.subscribe rfqId callerDid buyer (some ⟨.buffering, [], false, false⟩)
  let replay := EventStorage.getEvents h.stored rfqId callerDid buyer afterId
  match h.subscription k with
  | some sub =>
    let buffer := (sub.feed.map Feed.buffer).getD []
    let dedupedBuffer := buffer.filter fun e =>
      decide (e.eventId ∉ replay.map NegotiationEvent.eventId)
    let drained := sub.feed.map fun feed => { feed with buffer := [] }
    (h.setSubscription k { sub with feed := drained }, .feed k replay dedupedBuffer)
  | none => (h, .feed k replay [])

def activate (h : EventStore σ) (k : SubscriptionId) : EventStore σ :=
  match h.subscription k with
  | some sub =>
    match sub.feed with
    | some feed => { h.setSubscription k { sub with feed := some feed.activate.1 } with
        calls := h.calls ++ feed.activate.2.map (.event k) }
    | none => h
  | none => h

/-! ### Terminal subscribers -/

/-- A Set of functions holds a listener once. -/
def subscribeTerminal (h : EventStore σ) (rfqId : JsString) (listener : ListenerId) :
    EventStore σ :=
  let subs := (h.terminalSubscribers.get? rfqId).getD h.nextTerminalId
  { h with
    terminalSubscribers := h.terminalSubscribers.set rfqId subs
    terminalMembers := fun set => if set = subs then
        if listener ∈ h.terminalMembers subs then h.terminalMembers subs
        else h.terminalMembers subs ++ [listener]
      else h.terminalMembers set
    terminalSubscription := fun k => if k = h.nextTerminalId then some ⟨rfqId, subs, listener⟩
      else h.terminalSubscription k
    nextTerminalId := h.nextTerminalId + 1 }

def unsubscribeTerminal (h : EventStore σ) (k : SubscriptionId) : EventStore σ :=
  match h.terminalSubscription k with
  | none => h
  | some sub =>
    let rest := (h.terminalMembers sub.subs).erase sub.listener
    { h with
      terminalMembers := fun set => if set = sub.subs then rest else h.terminalMembers set
      terminalSubscribers := if rest = [] then h.terminalSubscribers.delete sub.rfqId
        else h.terminalSubscribers }

/-! ### Calls -/

def call (h : EventStore σ) : StoreCall → EventStore σ × StoreResult
  | .append rfqId event => h.append rfqId event
  | .getEvents rfqId callerDid buyer afterId =>
    (h, .events (EventStorage.getEvents h.stored rfqId callerDid buyer afterId))
  | .getAllEvents rfqId => (h, .events (EventStorage.getAllEvents h.stored rfqId))
  | .size rfqId => (h, .number (EventStorage.size h.stored rfqId))
  | .hasCursor rfqId eventId => (h, .bool (EventStorage.hasCursor h.stored rfqId eventId))
  | .listSessionIds => (h, .sessionIds (EventStorage.listSessionIds h.stored))
  | .subscribe rfqId callerDid buyer =>
    (h.subscribe rfqId callerDid buyer none, .subscribed h.nextId)
  | .subscribeFrom rfqId callerDid buyer afterId => h.subscribeFrom rfqId callerDid buyer afterId
  | .activate k => (h.activate k, .void)
  | .unsubscribe k => (h.unsubscribe k, .void)
  | .subscribeTerminal rfqId listener =>
    (h.subscribeTerminal rfqId listener, .subscribed h.nextTerminalId)
  | .unsubscribeTerminal k => (h.unsubscribeTerminal k, .void)

def step (h : EventStore σ) (c : StoreCall) : Option (EventStore σ) := some (h.call c).1

end EventStore
end GhostBazaar.Engine
