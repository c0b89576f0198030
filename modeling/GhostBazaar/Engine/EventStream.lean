import GhostBazaar.Engine.Delivery
import GhostBazaar.Engine.Routes.Reading
import GhostBazaar.Engine.SessionInvariant

/-! `GET /rfqs/:id/events` for a caller that accepts an event stream: the connections that the
tracker grants a slot, fed by the store in memory. After its authentication a request runs to its
end without a pause, and so does every other step here. -/
namespace GhostBazaar.Engine
open Js Transition

/-! ### The connection tracker -/

abbrev ConnectionId := ℕ

/-- Its `close` is that of the stream whose subscription this is. -/
structure ConnectionRecord where
  connectionId : ConnectionId
  rfqId : JsString
  callerDid : JsString
  isBuyer : Bool
  openedAt : ℤ
  stream : SubscriptionId

/-- The records in the order of their insertion. `bySession` indexes the same records. -/
structure ConnectionTracker where
  connections : List ConnectionRecord
  nextId : ConnectionId

def MAX_PER_DID : ℕ := 3

def MAX_PER_SESSION : ℕ := 10

namespace ConnectionTracker

def bySession (tr : ConnectionTracker) (rfqId : JsString) : List ConnectionRecord :=
  tr.connections.filter fun rec => decide (rec.rfqId = rfqId)

def countForDid (tr : ConnectionTracker) (rfqId callerDid : JsString) : ℕ :=
  ((tr.bySession rfqId).filter fun rec => decide (rec.callerDid = callerDid)).length

def countForSession (tr : ConnectionTracker) (rfqId : JsString) : ℕ := (tr.bySession rfqId).length

/-- One round of the loop of `findOldestNonBuyer`. -/
def older (oldest : Option ConnectionRecord) (rec : ConnectionRecord) : Option ConnectionRecord :=
  if rec.isBuyer then oldest
  else match oldest with
    | none => some rec
    | some o => if rec.openedAt < o.openedAt then some rec else some o

def findOldestNonBuyer (tr : ConnectionTracker) (rfqId : JsString) : Option ConnectionRecord :=
  (tr.bySession rfqId).foldl older none

/-- What the loop over a session's records finds. -/
theorem foldl_older (recs : List ConnectionRecord) :
    match recs.foldl older none with
    | none => ∀ rec ∈ recs, rec.isBuyer = true
    | some oldest => oldest ∈ recs ∧ oldest.isBuyer = false ∧
        ∀ rec ∈ recs, rec.isBuyer = false → oldest.openedAt ≤ rec.openedAt := by
  induction recs using List.reverseRecOn with
  | nil => simp
  | append_singleton recs rec ih =>
    rw [List.foldl_append, List.foldl_cons, List.foldl_nil]
    cases hfold : recs.foldl older none with
    | none =>
      rw [hfold] at ih
      unfold older
      by_cases hbuyer : rec.isBuyer = true
      · rw [if_pos hbuyer]
        intro other hother
        rcases List.mem_append.mp hother with hother | hother
        · exact ih other hother
        · rw [List.mem_singleton.mp hother]
          exact hbuyer
      · rw [if_neg hbuyer]
        refine ⟨by simp, Bool.eq_false_of_not_eq_true hbuyer, ?_⟩
        intro other hother hseller
        rcases List.mem_append.mp hother with hother | hother
        · rw [ih other hother] at hseller
          cases hseller
        · rw [List.mem_singleton.mp hother]
    | some o =>
      rw [hfold] at ih
      obtain ⟨hmem, hseller, hmin⟩ := ih
      unfold older
      by_cases hbuyer : rec.isBuyer = true
      · rw [if_pos hbuyer]
        refine ⟨List.mem_append_left _ hmem, hseller, ?_⟩
        intro other hother hother'
        rcases List.mem_append.mp hother with hother | hother
        · exact hmin other hother hother'
        · rw [List.mem_singleton.mp hother, hbuyer] at hother'
          cases hother'
      · rw [if_neg hbuyer]
        by_cases hlt : rec.openedAt < o.openedAt
        · simp only [if_pos hlt]
          refine ⟨by simp, Bool.eq_false_of_not_eq_true hbuyer, ?_⟩
          intro other hother hother'
          rcases List.mem_append.mp hother with hother | hother
          · exact hlt.le.trans (hmin other hother hother')
          · rw [List.mem_singleton.mp hother]
        · simp only [if_neg hlt]
          refine ⟨List.mem_append_left _ hmem, hseller, ?_⟩
          intro other hother hother'
          rcases List.mem_append.mp hother with hother | hother
          · exact hmin other hother hother'
          · rw [List.mem_singleton.mp hother]
            exact not_lt.mp hlt

theorem findOldestNonBuyer_some {tr : ConnectionTracker} {r : JsString}
    {oldest : ConnectionRecord} (h : tr.findOldestNonBuyer r = some oldest) :
    oldest ∈ tr.bySession r ∧ oldest.isBuyer = false ∧
      ∀ rec ∈ tr.bySession r, rec.isBuyer = false → oldest.openedAt ≤ rec.openedAt := by
  have hfold := foldl_older (tr.bySession r)
  unfold findOldestNonBuyer at h
  rw [h] at hfold
  exact hfold

theorem findOldestNonBuyer_none {tr : ConnectionTracker} {r : JsString}
    (h : tr.findOldestNonBuyer r = none) : ∀ rec ∈ tr.bySession r, rec.isBuyer = true := by
  have hfold := foldl_older (tr.bySession r)
  unfold findOldestNonBuyer at h
  rw [h] at hfold
  exact hfold

/-- `removeRecord`, which is also `release`. -/
def removeRecord (tr : ConnectionTracker) (id : ConnectionId) : ConnectionTracker :=
  { tr with connections := tr.connections.filter fun rec => decide (rec.connectionId ≠ id) }

theorem mem_removeRecord {tr : ConnectionTracker} {id : ConnectionId} {rec : ConnectionRecord} :
    rec ∈ (tr.removeRecord id).connections ↔ rec ∈ tr.connections ∧ rec.connectionId ≠ id := by
  simp [removeRecord]

/-- The record of a connection with the next id. -/
def insert (tr : ConnectionTracker) (rfqId callerDid : JsString) (isBuyer : Bool) (openedAt : ℤ)
    (stream : SubscriptionId) : ConnectionTracker where
  connections := tr.connections ++ [⟨tr.nextId + 1, rfqId, callerDid, isBuyer, openedAt, stream⟩]
  nextId := tr.nextId + 1

end ConnectionTracker

/-! ### Streams -/

/-- A message of a stream; heartbeats are comments. -/
inductive StreamMessage where
  | negotiation (event : NegotiationEvent)
  | terminal (state : JsString)
  | error (code : JsString)
  deriving DecidableEq

/-- One connection with a slot. The last four fields are read by nobody: how often the connection
gave its slot and its subscriptions back, and how long the log was when it ended. -/
structure EventStream where
  rfqId : JsString
  callerDid : JsString
  buyer : JsString
  cursor : Option JsString
  connectionId : Option ConnectionId
  unsubTerminal : SubscriptionId
  /-- The heartbeat runs and the abort listener is registered. -/
  registered : Bool
  cleanedUp : Bool
  /-- `controller.close()` was called. -/
  closed : Bool
  /-- The client has cancelled the stream, so `enqueue` throws. -/
  cancelled : Bool
  sent : List StreamMessage
  released : ℕ
  unsubscribed : ℕ
  unsubscribedTerminal : ℕ
  endedAt : Option ℕ

/-- What `controller.enqueue` refuses is not sent. -/
def EventStream.send (c : EventStream) (m : StreamMessage) : EventStream :=
  if c.closed || c.cancelled then c else { c with sent := c.sent ++ [m] }

/-- Both subscriptions and the slot are given back, and the controller is closed. -/
def EventStream.finish (c : EventStream) (length : ℕ) (cleanedUp : Bool) : EventStream :=
  { c with
    connectionId := none
    cleanedUp
    closed := true
    released := c.released + if c.connectionId.isSome then 1 else 0
    unsubscribed := c.unsubscribed + 1
    unsubscribedTerminal := c.unsubscribedTerminal + 1
    endedAt := c.endedAt.or (some length) }

structure StreamServer where
  store : EventStore InMemoryEventStore
  tracker : ConnectionTracker
  stream : SubscriptionId → Option EventStream

namespace StreamServer

def init : StreamServer := ⟨.empty, ⟨[], 0⟩, fun _ => none⟩

def setStream (s : StreamServer) (k : SubscriptionId) (c : EventStream) : StreamServer :=
  { s with stream := fun j => if j = k then some c else s.stream j }

def send (s : StreamServer) (k : SubscriptionId) (m : StreamMessage) : StreamServer :=
  match s.stream k with
  | some c => s.setStream k (c.send m)
  | none => s

def release (s : StreamServer) (k : SubscriptionId) (c : EventStream) : StreamServer :=
  { store := (s.store.unsubscribe k).unsubscribeTerminal c.unsubTerminal
    tracker := match c.connectionId with
      | some id => s.tracker.removeRecord id
      | none => s.tracker
    stream := s.stream }

def cleanup (s : StreamServer) (k : SubscriptionId) : StreamServer :=
  match s.stream k with
  | none => s
  | some c =>
    if c.cleanedUp then s
    else (s.release k c).setStream k (EventStream.finish c (s.store.log c.rfqId).length true)

/-- The `close` that a stream hands to the tracker. -/
def close (s : StreamServer) (k : SubscriptionId) : StreamServer :=
  (s.send k (.error (js "evicted"))).cleanup k

/-- `rec.close(); this.removeRecord(rec.connectionId)` -/
def evict (s : StreamServer) (rec : ConnectionRecord) : StreamServer :=
  let s := s.close rec.stream
  { s with tracker := s.tracker.removeRecord rec.connectionId }

def closeAll (s : StreamServer) (rfqId : JsString) : StreamServer :=
  ((s.tracker.bySession rfqId).map ConnectionRecord.connectionId).foldl (fun s id =>
    match s.tracker.connections.find? fun rec => decide (rec.connectionId = id) with
    | some rec => s.evict rec
    | none => s) s

/-- A slot for the stream of the next subscription, and its connection id. -/
def acquire (s : StreamServer) (now : ℤ) (rfqId callerDid : JsString) (isBuyer : Bool) :
    Option (StreamServer × ConnectionId) :=
  let insert (s : StreamServer) : StreamServer × ConnectionId :=
    ({ s with tracker := s.tracker.insert rfqId callerDid isBuyer now s.store.nextId },
      s.tracker.nextId + 1)
  if MAX_PER_DID ≤ s.tracker.countForDid rfqId callerDid then none
  else if MAX_PER_SESSION ≤ s.tracker.countForSession rfqId then
    if isBuyer then
      (s.tracker.findOldestNonBuyer rfqId).map fun evicted => insert (s.evict evicted)
    else none
  else some (insert s)

/-! ### The request -/

/-- `start`, from the slot on: replay, then the terminal message of a session that has ended, or
live delivery. -/
def start (s : StreamServer) (rfqId callerDid buyer : JsString) (cursor : Option JsString)
    (id : ConnectionId) : StreamServer :=
  let k := s.store.nextId
  let t := s.store.nextTerminalId
  match s.store.subscribeFrom rfqId callerDid buyer cursor with
  | (h, .feed _ replay buffered) =>
    let h := h.subscribeTerminal rfqId k
    let c : EventStream := ⟨rfqId, callerDid, buyer, cursor, some id, t, false, false, false, false,
      [], 0, 0, 0, none⟩
    let c := (replay ++ buffered).foldl (fun c event => c.send (.negotiation event)) c
    let s := { s with store := h }
    match deriveState (h.log rfqId) with
    | .ok (some session) =>
      if session.state.isTerminal then
        let c := c.send (.terminal session.state.text)
        (s.release k c).setStream k (EventStream.finish c (h.log rfqId).length false)
      else
        { s with store := h.activate k }.setStream k { c with registered := true }
    | _ => { s with store := h.activate k }.setStream k { c with registered := true }
  | _ => s

/-- The request of an authenticated caller; `none` when it gets no slot. -/
def connect (s : StreamServer) (now : ℤ) (rfqId callerDid : JsString) (cursor : Option JsString) :
    Option StreamServer :=
  match deriveState (s.store.log rfqId) with
  | .ok (some session) =>
    if isParticipant callerDid session.rfq.buyer session.offers ∧
        ∀ id ∈ cursor, EventStorage.hasCursor s.store.stored rfqId id = true then
      (s.acquire now rfqId callerDid (decide (callerDid = session.rfq.buyer))).map
        fun (s, id) => s.start rfqId callerDid session.rfq.buyer cursor id
    else none
  | _ => none

/-! ### Appends -/

/-- What the listener of a subscription lets through. -/
def heard (h : EventStore InMemoryEventStore) (event : NegotiationEvent) (k : SubscriptionId) :
    List NegotiationEvent :=
  match h.subscription k with
  | some sub => (sub.notice event).2
  | none => []

/-- One round of the loop over the subscribers. -/
def deliver (event : NegotiationEvent) (s : StreamServer) (k : SubscriptionId) : StreamServer :=
  (heard s.store event k).foldl (fun s e => s.send k (.negotiation e))
    { s with store := s.store.deliver event k }

def notify (s : StreamServer) (rfqId : JsString) (event : NegotiationEvent) : StreamServer :=
  match s.store.subscribers.get? rfqId with
  | none => s
  | some subs => (s.store.members subs).foldl (deliver event) s

/-- One round of the loop over the terminal subscribers. A listener only takes itself out of the
Set, so the loop visits what the Set held at its start. -/
def announce (state : JsString) (s : StreamServer) (k : SubscriptionId) : StreamServer :=
  (s.send k (.terminal state)).cleanup k

def notifyTerminal (s : StreamServer) (rfqId : JsString) (event : NegotiationEvent) :
    StreamServer :=
  match event.type.terminalState, s.store.terminalSubscribers.get? rfqId with
  | some state, some subs =>
    let s := (s.store.terminalMembers subs).foldl (announce state) s
    { s with store := { s.store with
        terminalSubscribers := s.store.terminalSubscribers.delete rfqId } }
  | _, _ => s

/-- The manager appends an event only when the session can be derived with it. -/
def append (s : StreamServer) (rfqId : JsString) (event : NegotiationEvent) : Option StreamServer :=
  match deriveState (s.store.log rfqId ++ [event]) with
  | .ok (some _) =>
    match EventStorage.append s.store.stored rfqId event with
    | .ok (stored, frozenEvent) =>
      some ((notify { s with store := { s.store with stored } } rfqId frozenEvent).notifyTerminal
        rfqId frozenEvent)
    | .error _ => none
  | _ => none

/-! ### Steps -/

inductive StreamLabel where
  | connect (now : ℤ) (rfqId callerDid : JsString) (cursor : Option JsString)
  | append (rfqId : JsString) (event : NegotiationEvent)
  | closeAll (rfqId : JsString)
  | abort (k : SubscriptionId)
  | cancel (k : SubscriptionId)
  | heartbeat (k : SubscriptionId)

def step (s : StreamServer) : StreamLabel → Option StreamServer
  | .connect now rfqId callerDid cursor => s.connect now rfqId callerDid cursor
  | .append rfqId event => s.append rfqId event
  | .closeAll rfqId => some (s.closeAll rfqId)
  | .abort k =>
    match s.stream k with
    | some c => if c.registered then some (s.cleanup k) else none
    | none => none
  | .cancel k =>
    match s.stream k with
    | some c => some (s.setStream k { c with
        cancelled := true
        endedAt := c.endedAt.or (some (s.store.log c.rfqId).length) })
    | none => none
  | .heartbeat k =>
    match s.stream k with
    | some c =>
      if c.registered && !c.cleanedUp then
        if c.closed || c.cancelled then some (s.cleanup k) else some s
      else none
    | none => none

end StreamServer
end GhostBazaar.Engine
