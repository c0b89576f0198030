import GhostBazaar.Engine.Delivery
import GhostBazaar.Engine.SessionManager
import GhostBazaar.Engine.StoreEquivalence
import GhostBazaar.Js.Throwing

/-! `SessionManager.appendEvent` with all that it notifies: the subscribers and terminal
subscribers of the event store, and the observers of the manager. Every listener may throw. -/
namespace GhostBazaar.Engine
open Js Transition

abbrev ObserverId := ℕ

/-- What the listeners throw at a call, if they do. -/
structure Listeners where
  delivery : Delivery → Option JsError
  observer : ObserverId → Option JsError

namespace EventStore

variable {σ : Type} [EventStorage σ]

omit [EventStorage σ] in
/-- A round of the loop over the subscribers: the listener is called, and may throw. -/
def callSubscriber (ls : Listeners) (event : NegotiationEvent) (k : SubscriptionId) :
    Throwing JsError (EventStore σ) Unit := fun h =>
  let called := (h.subscription k).any fun sub => !(sub.notice event).2.isEmpty
  Throwing.throwIf (if called then ls.delivery (.event k event) else none) (h.deliver event k)

omit [EventStorage σ] in
def callTerminal (ls : Listeners) (state : JsString) (listener : ListenerId) :
    Throwing JsError (EventStore σ) Unit := fun h =>
  Throwing.throwIf (ls.delivery (.terminal listener state))
    { h with calls := h.calls ++ [.terminal listener state] }

omit [EventStorage σ] in
def notifySubscribers (ls : Listeners) (rfqId : JsString) (event : NegotiationEvent) :
    Throwing JsError (EventStore σ) Unit := fun h =>
  match h.subscribers.get? rfqId with
  | none => (.ok (), h)
  | some subs =>
    Throwing.forEach (fun k => .swallow (callSubscriber ls event k)) (h.members subs) h

omit [EventStorage σ] in
def notifyTerminalSubscribers (ls : Listeners) (rfqId : JsString) (event : NegotiationEvent) :
    Throwing JsError (EventStore σ) Unit := fun h =>
  match event.type.terminalState, h.terminalSubscribers.get? rfqId with
  | some state, some subs =>
    Throwing.andThen
      (Throwing.forEach (fun listener => .swallow (callTerminal ls state listener))
        (h.terminalMembers subs))
      (fun h => (.ok (), { h with terminalSubscribers := h.terminalSubscribers.delete rfqId })) h
  | _, _ => (.ok (), h)

/-- `append`, with listeners that may throw. -/
def appendTo (ls : Listeners) (rfqId : JsString) (event : NegotiationEvent) :
    Throwing JsError (EventStore σ) Unit := fun h =>
  match EventStorage.append h.stored rfqId event with
  | .error message => (.error (.error message), h)
  | .ok (stored, frozenEvent) =>
    Throwing.andThen (notifySubscribers ls rfqId frozenEvent)
      (notifyTerminalSubscribers ls rfqId frozenEvent) { h with stored }

omit [EventStorage σ] in
theorem notifySubscribers_eq (ls : Listeners) (r : JsString) (event : NegotiationEvent)
    (h : EventStore σ) : notifySubscribers ls r event h = (.ok (), h.notify r event) := by
  have hround (h : EventStore σ) (k : SubscriptionId) :
      (callSubscriber ls event k h).2 = h.deliver event k :=
    Throwing.throwIf_state _ _
  unfold notifySubscribers notify
  cases h.subscribers.get? r with
  | none => rfl
  | some subs => simp only [Throwing.forEach_swallow, hround]

omit [EventStorage σ] in
theorem notifyTerminalSubscribers_eq (ls : Listeners) (r : JsString) (event : NegotiationEvent)
    (h : EventStore σ) :
    notifyTerminalSubscribers ls r event h = (.ok (), h.notifyTerminal r event) := by
  have hround (state : JsString) (h : EventStore σ) (listener : ListenerId) :
      (callTerminal ls state listener h).2 =
        { h with calls := h.calls ++ [.terminal listener state] } :=
    Throwing.throwIf_state _ _
  have hloop (state : JsString) (listeners : List ListenerId) (h : EventStore σ) :
      listeners.foldl (fun h listener => (callTerminal ls state listener h).2) h =
        { h with calls := h.calls ++ listeners.map fun listener => .terminal listener state } := by
    induction listeners generalizing h with
    | nil => simp
    | cons listener listeners ih =>
      rw [List.foldl_cons, hround, ih]
      simp
  unfold notifyTerminalSubscribers notifyTerminal
  cases event.type.terminalState with
  | none => rfl
  | some state =>
    cases h.terminalSubscribers.get? r with
    | none => rfl
    | some subs => simp only [Throwing.andThen, Throwing.forEach_swallow, hloop]

/-- No listener keeps the others from being called. -/
theorem appendTo_eq (ls : Listeners) (r : JsString) (event : NegotiationEvent)
    (h : EventStore σ) : appendTo ls r event h =
      match EventStorage.append h.stored r event with
      | .error message => (.error (.error message), h)
      | .ok _ => (.ok (), (h.append r event).1) := by
  unfold appendTo append
  cases EventStorage.append h.stored r event with
  | error message => rfl
  | ok result =>
    simp only [Throwing.andThen, notifySubscribers_eq, notifyTerminalSubscribers_eq]

/-! ### Subscribers that listen -/

omit [EventStorage σ] in
/-- The subscription was not taken out of the Set that it was put in. -/
def Subscribed (h : EventStore σ) (k : SubscriptionId) (sub : Subscription) : Prop :=
  h.subscription k = some sub ∧ k ∈ h.members sub.subs

omit [EventStorage σ] in
/-- What the listener in the Set was called with: what reached the caller, and what a feed still
holds back. -/
def heard (h : EventStore σ) (k : SubscriptionId) : List NegotiationEvent :=
  h.received k ++ ((h.subscription k).map Subscription.pending).getD []

end EventStore

/-- A feed that is not stopped, and holds nothing back once it is live. -/
def Subscription.Running (sub : Subscription) : Prop :=
  ∀ feed, sub.feed = some feed → feed.mode ≠ .stopped ∧ (feed.mode = .live → feed.buffer = [])

theorem Subscription.Running.notice {sub : Subscription} (hr : sub.Running)
    (event : NegotiationEvent) : (sub.notice event).1.Running ∧
      (sub.notice event).2 ++ (sub.notice event).1.pending =
        sub.pending ++ visibleTo sub.callerDid sub.buyer [event] := by
  rw [visibleTo, List.filter_singleton]
  unfold Subscription.notice
  split_ifs with hvisible
  · rw [hvisible, cond_true]
    cases hfeed : sub.feed with
    | none =>
      refine ⟨hr, ?_⟩
      simp [Subscription.pending, hfeed]
    | some feed =>
      obtain ⟨hmode, hlive⟩ := hr feed hfeed
      cases hm : feed.mode with
      | stopped => exact absurd hm hmode
      | live =>
        refine ⟨by simpa [hm] using hr, ?_⟩
        simp [hm, Subscription.pending, hfeed, hlive hm]
      | buffering =>
        refine ⟨?_, by simp [hm, Subscription.pending, hfeed]⟩
        simp only [hm]
        rintro _ ⟨rfl⟩
        simp
  · rw [eq_false_of_ne_true hvisible, cond_false]
    exact ⟨hr, by simp⟩

namespace EventStore

variable {σ : Type} [EventStorage σ]

omit [EventStorage σ] in
/-- Every subscription that nothing took out is in the Set of its session, and its feed runs. -/
structure Listening (h : EventStore σ) : Prop where
  wellFormed : WellFormed h
  attached : ∀ k sub, Subscribed h k sub → Attached h k
  running : ∀ k sub, Subscribed h k sub → sub.Running

theorem empty_listening : Listening (empty : EventStore σ) where
  wellFormed := empty_wellFormed
  attached _ _ hs := by cases hs.1
  running _ _ hs := by cases hs.1

omit [EventStorage σ] in
theorem Subscribed.of_sameRoles {h h' : EventStore σ} (hr : SameRoles h h') {k : SubscriptionId}
    {sub : Subscription} (hs : Subscribed h' k sub) : ∃ old, Subscribed h k old := by
  obtain ⟨old, hold, hrole⟩ := hr.exists_old hs.1
  refine ⟨old, hold, ?_⟩
  rw [(role_inj hrole).2, ← hr.members]
  exact hs.2

/-- A subscription of the store after a call was there before, or is the call's own. -/
theorem Subscribed.of_call {h : EventStore σ} (hw : WellFormed h) {c : StoreCall}
    {k : SubscriptionId} {sub : Subscription} (hs : Subscribed (h.call c).1 k sub) :
    c ≠ .unsubscribe k ∧ ((∃ old, Subscribed h k old) ∨
      k = h.nextId ∧ ∃ r callerDid buyer feed,
        (h.call c).1 = h.subscribe r callerDid buyer feed ∧
        (feed = none ∨ feed = some ⟨.buffering, [], false, false⟩)) := by
  have hnew (r callerDid buyer : JsString) (feed : Option Feed)
      (hs : Subscribed (h.subscribe r callerDid buyer feed) k sub) :
      (∃ old, Subscribed h k old) ∨ k = h.nextId := by
    by_cases hk : k = h.nextId
    · exact .inr hk
    · obtain ⟨hsub, hmem⟩ := hs
      simp only [EventStore.subscribe, if_neg hk] at hsub hmem
      refine .inl ⟨sub, hsub, ?_⟩
      split_ifs at hmem with hset
      · rw [hset]
        simpa [hk] using hmem
      · exact hmem
  cases c with
  | append r event => exact ⟨by rintro ⟨⟩, .inl (hs.of_sameRoles (append_sameRoles h r event))⟩
  | subscribe r callerDid buyer =>
    refine ⟨by rintro ⟨⟩, (hnew r callerDid buyer none hs).imp_right fun hk => ?_⟩
    exact ⟨hk, r, callerDid, buyer, none, rfl, .inl rfl⟩
  | subscribeFrom r callerDid buyer afterId =>
    rw [call, subscribeFrom_eq] at hs ⊢
    refine ⟨by rintro ⟨⟩, (hnew r callerDid buyer _ hs).imp_right fun hk => ?_⟩
    exact ⟨hk, r, callerDid, buyer, _, rfl, .inr rfl⟩
  | activate j => exact ⟨by rintro ⟨⟩, .inl (hs.of_sameRoles (activate_sameRoles h j))⟩
  | unsubscribe j =>
    obtain ⟨hsub, hmem⟩ := hs
    simp only [call, EventStore.unsubscribe] at hsub hmem
    split at hsub
    · rename_i hnone
      rw [hnone] at hmem
      refine ⟨?_, .inl ⟨sub, hsub, hmem⟩⟩
      rintro ⟨rfl⟩
      rw [hnone] at hsub
      cases hsub
    · rename_i gone hgone
      rw [hgone] at hmem
      simp only [unsubscribeRole, setSubscription] at hsub hmem
      by_cases hk : k = j
      · -- the Set held it once
        subst hk
        rw [if_pos rfl, Option.some.injEq] at hsub
        subst hsub
        rw [if_pos rfl] at hmem
        exact absurd hmem (hw.nodup _).not_mem_erase
      · rw [if_neg hk] at hsub
        refine ⟨fun heq => hk (by cases heq; rfl), .inl ⟨sub, hsub, ?_⟩⟩
        split_ifs at hmem with hset
        · rw [hset]
          exact List.mem_of_mem_erase hmem
        · exact hmem
  | subscribeTerminal r listener => exact ⟨by rintro ⟨⟩, .inl ⟨sub, hs⟩⟩
  | unsubscribeTerminal j =>
    refine ⟨by rintro ⟨⟩, .inl ⟨sub, ?_⟩⟩
    simp only [call, unsubscribeTerminal] at hs
    split at hs
    · exact hs
    · exact hs
  | _ => exact ⟨by rintro ⟨⟩, .inl ⟨sub, hs⟩⟩

theorem Listening.call {h : EventStore σ} (hl : Listening h) {c : StoreCall}
    (hi : Intact h c) : Listening (h.call c).1 where
  wellFormed := hl.wellFormed.call c
  attached k sub hs := by
    obtain ⟨hown, ⟨old, hold⟩ | ⟨rfl, r, callerDid, buyer, feed, hcall, -⟩⟩ :=
      hs.of_call hl.wellFormed
    · exact (hl.attached k old hold).call hl.wellFormed hown hi
    · rw [hcall]
      exact subscribe_attached h r callerDid buyer feed
  running k sub hs := by
    obtain ⟨hown, ⟨old, hold⟩ | ⟨rfl, r, callerDid, buyer, feed, hcall, hfeed⟩⟩ :=
      hs.of_call hl.wellFormed
    · have hrunning := hl.running k old hold
      by_cases hact : c = .activate k
      · subst hact
        have hsub := hs.1
        simp only [EventStore.call, EventStore.activate, hold.1] at hsub
        cases hfeed : old.feed with
        | none =>
          rw [hfeed] at hsub
          obtain rfl : old = sub := Option.some.inj (hold.1.symm.trans hsub)
          exact hrunning
        | some feed =>
          simp only [hfeed, setSubscription, if_pos, Option.some.injEq] at hsub
          subst hsub
          rintro _ ⟨rfl⟩
          unfold Feed.activate
          split_ifs
          · exact hrunning feed hfeed
          · simp
      · rcases call_hears hl.wellFormed hold.1 (hl.attached k old hold) hown hact with
          ⟨-, hsub, -⟩ | ⟨event, -, hsub, -⟩
        · obtain rfl : old = sub := Option.some.inj (hsub.symm.trans hs.1)
          exact hrunning
        · obtain rfl : (old.notice event).1 = sub := Option.some.inj (hsub.symm.trans hs.1)
          exact (hrunning.notice event).1
    · have hsub := hs.1
      rw [hcall] at hsub
      simp only [EventStore.subscribe, if_pos, Option.some.injEq] at hsub
      subst hsub
      rintro f hf
      rcases hfeed with rfl | rfl
      · cases hf
      · cases hf
        simp

theorem append_stored_eq {h : EventStore σ} {r : JsString} {event frozenEvent : NegotiationEvent}
    {stored : σ} (happend : EventStorage.append h.stored r event = .ok (stored, frozenEvent)) :
    (h.append r event).1.stored = stored := by
  rw [append, happend]
  obtain ⟨hterminal, -⟩ :=
    notifyTerminal_frame (notify { h with stored } r frozenEvent) r frozenEvent 0
  exact hterminal.trans (notify_stored _ r frozenEvent)

theorem append_log_eq {h : EventStore σ} {r : JsString} {event frozenEvent : NegotiationEvent}
    {stored : σ} (happend : EventStorage.append h.stored r event = .ok (stored, frozenEvent))
    (q : JsString) : (h.append r event).1.log q =
      if q = r then h.log q ++ [frozenEvent] else h.log q := by
  rw [log, append_stored_eq happend, EventStorage.getAllEvents_append happend, log]

/-- A subscriber hears of an appended event of its session that it may see, and of nothing
else. -/
theorem Listening.append_heard {h : EventStore σ} (hl : Listening h) {k : SubscriptionId}
    {sub : Subscription} (hs : Subscribed h k sub) {r : JsString}
    {event frozenEvent : NegotiationEvent} {stored : σ}
    (happend : EventStorage.append h.stored r event = .ok (stored, frozenEvent)) :
    (h.append r event).1.heard k = h.heard k ++
      if sub.rfqId = r then visibleTo sub.callerDid sub.buyer [frozenEvent] else [] := by
  have hlog := append_log_eq happend sub.rfqId
  rcases append_hears hl.wellFormed hs.1 (hl.attached k sub hs) r event with
    ⟨hsame, hsub, hreceived⟩ | ⟨e, hgrown, hsub, hreceived⟩
  · have hr : sub.rfqId ≠ r := by
      intro hr
      rw [hsame, if_pos hr] at hlog
      simp at hlog
    rw [heard, heard, hsub, hs.1, hreceived, if_neg hr, List.append_nil]
  · have hr : sub.rfqId = r := by
      by_contra hr
      rw [hgrown, if_neg hr] at hlog
      simp at hlog
    obtain rfl : e = frozenEvent := by
      rw [hgrown, if_pos hr] at hlog
      simpa using hlog
    obtain ⟨-, hnotice⟩ := (hl.running k sub hs).notice e
    rw [heard, heard, hsub, hs.1, hreceived, if_pos hr]
    simp only [Option.map_some, Option.getD_some, List.append_assoc, hnotice]

end EventStore

/-! ### The manager -/

structure ObservedManager (σ : Type) where
  eventStore : EventStore σ
  lockTable : LockTable
  sessionCache : JsMap JsString CacheEntry
  appendObservers : List ObserverId
  /-- The trace of all calls of the observers. -/
  observed : List (ObserverId × NegotiationEvent)

namespace ObservedManager

variable {σ : Type} [EventStorage σ]

def empty : ObservedManager σ := ⟨.empty, .empty, .empty, [], []⟩

def log (m : ObservedManager σ) (rfqId : JsString) : List NegotiationEvent := m.eventStore.log rfqId

def size (m : ObservedManager σ) (rfqId : JsString) : ℕ :=
  EventStorage.size m.eventStore.stored rfqId

omit [EventStorage σ] in
/-- What an observer was called with. -/
def observedBy (m : ObservedManager σ) (o : ObserverId) : List NegotiationEvent :=
  (m.observed.filter fun p => p.1 = o).map Prod.snd

omit [EventStorage σ] in
def cache (m : ObservedManager σ) (rfqId : JsString) (entry : CacheEntry) : ObservedManager σ :=
  { m with sessionCache := m.sessionCache.set rfqId entry }

/-- The replay of `getSession` when the cache has no entry of the current event count. -/
def loadSession (now : ℤ) (m : ObservedManager σ) (rfqId : JsString) :
    Except JsString (Option DerivedSession) × ObservedManager σ :=
  match deriveState (m.log rfqId) with
  | .error e => (.error e, m)
  | .ok none => (.ok none, m)
  | .ok (some s) => (.ok (some s), m.cache rfqId ⟨m.size rfqId, s, now⟩)

def getSession (now : ℤ) (m : ObservedManager σ) (rfqId : JsString) :
    Except JsString (Option DerivedSession) × ObservedManager σ :=
  if m.size rfqId = 0 then (.ok none, m)
  else match m.sessionCache.get? rfqId with
    | none => m.loadSession now rfqId
    | some entry =>
      if entry.eventCount = m.size rfqId then
        (.ok (some entry.session), m.cache rfqId { entry with lastAccessedAt := now })
      else m.loadSession now rfqId

omit [EventStorage σ] in
def callObserver (ls : Listeners) (event : NegotiationEvent) (o : ObserverId) :
    Throwing JsError (ObservedManager σ) Unit := fun m =>
  Throwing.throwIf (ls.observer o) { m with observed := m.observed ++ [(o, event)] }

/-- Dry run, append, cache the candidate, and call the observers. -/
def appendEvent (ls : Listeners) (now : ℤ) (rfqId : JsString) (event : NegotiationEvent) :
    Throwing JsError (ObservedManager σ) DerivedSession := fun m =>
  if m.lockTable.activeLocks rfqId then
    match deriveState (m.log rfqId ++ [event]) with
    | .error e => (.error (.error e), m)
    | .ok none => (.error (.error
      (js "SessionManager: deriveState returned null after append — should not happen")), m)
    | .ok (some candidateState) =>
      match EventStore.appendTo ls rfqId event m.eventStore with
      | (.error e, eventStore) => (.error e, { m with eventStore })
      | (.ok (), eventStore) =>
        let m := { m with eventStore }
        Throwing.andThen
          (Throwing.forEach (fun o => .swallow (callObserver ls event o)) m.appendObservers)
          (fun m => (.ok candidateState, m))
          (m.cache rfqId ⟨m.size rfqId, candidateState, now⟩)
  else (.error (.error (js "SessionManager.appendEvent: must be called within withLock(\"" ++
    rfqId ++ js "\") context")), m)

omit [EventStorage σ] in
/-- A Set of functions holds an observer once. -/
def onAppend (m : ObservedManager σ) (o : ObserverId) : ObservedManager σ :=
  { m with appendObservers :=
      if o ∈ m.appendObservers then m.appendObservers else m.appendObservers ++ [o] }

/-- The function that `onAppend` returned. -/
def offAppend (m : ObservedManager σ) (o : ObserverId) : ObservedManager σ :=
  { m with appendObservers := m.appendObservers.erase o }

/-- A session without a lock counts as removed, and keeps its cache entry. -/
def removeLock (m : ObservedManager σ) (rfqId : JsString) : ObservedManager σ :=
  let (removed, lockTable) := m.lockTable.removeLock rfqId
  { m with
    lockTable
    sessionCache := if removed && (m.lockTable.locks rfqId).isSome then
      m.sessionCache.delete rfqId else m.sessionCache }

def evictStaleCache (now : ℤ) (m : ObservedManager σ) (maxAgeMs : ℤ) : ObservedManager σ :=
  { m with sessionCache := m.sessionCache.filter fun _ entry =>
      decide (¬ entry.lastAccessedAt < now - maxAgeMs) }

end ObservedManager

inductive ObservedLabel where
  /-- A call of the event store; only the manager appends to it. -/
  | store (c : StoreCall)
  | lock (i : LockLabel)
  | getSession (rfqId : JsString) (now : ℤ)
  | appendEvent (ls : Listeners) (rfqId : JsString) (event : NegotiationEvent) (now : ℤ)
  | evictStaleCache (now maxAgeMs : ℤ)
  | onAppend (o : ObserverId)
  | offAppend (o : ObserverId)

namespace ObservedManager

variable {σ : Type} [EventStorage σ]

def step (maxQueueSize : ℕ) (m : ObservedManager σ) : ObservedLabel → Option (ObservedManager σ)
  | .store (.append _ _) => none
  | .store c => some { m with eventStore := (m.eventStore.call c).1 }
  | .lock (.removeLock rfqId) => some (m.removeLock rfqId)
  | .lock i => (m.lockTable.step maxQueueSize i).map fun lockTable => { m with lockTable }
  | .getSession rfqId now => some (m.getSession now rfqId).2
  | .appendEvent ls rfqId event now => some (appendEvent ls now rfqId event m).2
  | .evictStaleCache now maxAgeMs => some (m.evictStaleCache now maxAgeMs)
  | .onAppend o => some (m.onAppend o)
  | .offAppend o => some (m.offAppend o)

/-- The store keeps a JSON event as it is. -/
class KeepsJson (σ : Type) [EventStorage σ] : Prop where
  append_stored : ∀ {s s' : σ} {r event stored}, JsonValued event →
    EventStorage.append s r event = .ok (s', stored) → stored = event

instance : KeepsJson InMemoryEventStore where
  append_stored _ h := by
    obtain ⟨_, -, heq⟩ := map_eq_ok.mp h
    exact (Prod.mk.inj heq).2.symm

instance : KeepsJson SqliteEventStore where
  append_stored {s s' r event stored} hjson h := by
    have hr : r = event.rfqId := by
      simp only [EventStorage.append, SqliteEventStore.append, bind_eq_ok, ensure_eq_ok] at h
      obtain ⟨-, hr, -⟩ := h
      exact hr
    obtain ⟨_, -, rfl⟩ := SqliteEventStore.append_ok h
    have hpayload : (parseRecord (s.newRow r event).payload).get (s.newRow r event).readable =
        event.payload := by
      have hread := parseRecord_ordinary hjson
      exact Option.get_of_eq_some _ hread
    simp only [rowToEvent, hpayload]
    subst hr
    rfl

/-- What `appendEvent` does: it throws and changes nothing, or it appends the event and calls
everyone. -/
theorem appendEvent_cases (ls : Listeners) (now : ℤ) (r : JsString) (event : NegotiationEvent)
    (m : ObservedManager σ) :
    (∃ e, appendEvent ls now r event m = (.error e, m)) ∨
      ∃ s stored frozenEvent m', EventStorage.append m.eventStore.stored r event =
          .ok (stored, frozenEvent) ∧
        appendEvent ls now r event m = (.ok s, m') ∧
        m'.eventStore = (m.eventStore.append r event).1 ∧
        m'.appendObservers = m.appendObservers ∧
        m'.observed = m.observed ++ m.appendObservers.map fun o => (o, event) := by
  have hloop (os : List ObserverId) (m : ObservedManager σ) :
      os.foldl (fun m o => (callObserver ls event o m).2) m =
        { m with observed := m.observed ++ os.map fun o => (o, event) } := by
    induction os generalizing m with
    | nil => simp
    | cons o os ih =>
      rw [List.foldl_cons, ih, callObserver, Throwing.throwIf_state]
      simp
  unfold appendEvent
  split_ifs with hactive
  · cases deriveState (m.log r ++ [event]) with
    | error e => exact .inl ⟨_, rfl⟩
    | ok s =>
      cases s with
      | none => exact .inl ⟨_, rfl⟩
      | some s =>
        simp only [EventStore.appendTo_eq]
        cases happend : EventStorage.append m.eventStore.stored r event with
        | error message => exact .inl ⟨_, rfl⟩
        | ok result =>
          simp only [Throwing.andThen, Throwing.forEach_swallow, hloop]
          exact .inr ⟨s, result.1, result.2, _, rfl, rfl, rfl, rfl, rfl⟩
  · exact .inl ⟨_, rfl⟩

/-- Exactly one log grew, by the event at its end, and everyone who may hear of it did, once. -/
structure Delivered (r : JsString) (event : NegotiationEvent) (m m' : ObservedManager σ) :
    Prop where
  log : ∀ q, m'.log q = if q = r then m.log q ++ [event] else m.log q
  heard : ∀ k sub, EventStore.Subscribed m.eventStore k sub →
    m'.eventStore.heard k = m.eventStore.heard k ++
      if sub.rfqId = r then visibleTo sub.callerDid sub.buyer [event] else []
  observed : ∀ o, m'.observedBy o =
    m.observedBy o ++ if o ∈ m.appendObservers then [event] else []

/-- The call throws and leaves everything as it was, or it succeeds and the event is delivered. -/
def Atomic (ls : Listeners) (now : ℤ) (r : JsString) (event : NegotiationEvent)
    (m : ObservedManager σ) : Prop :=
  (∃ e, appendEvent ls now r event m = (.error e, m)) ∨
    ∃ s m', appendEvent ls now r event m = (.ok s, m') ∧ Delivered r event m m'

/-- The subscriptions listen, and no observer is held twice. -/
structure Attentive (m : ObservedManager σ) : Prop where
  listening : EventStore.Listening m.eventStore
  observers : m.appendObservers.Nodup

theorem empty_attentive : Attentive (empty : ObservedManager σ) :=
  ⟨EventStore.empty_listening, .nil⟩

omit [EventStorage σ] in
theorem observedBy_append {m m' : ObservedManager σ} (hnodup : m.appendObservers.Nodup)
    {event : NegotiationEvent}
    (h : m'.observed = m.observed ++ m.appendObservers.map fun o => (o, event)) (o : ObserverId) :
    m'.observedBy o = m.observedBy o ++ if o ∈ m.appendObservers then [event] else [] := by
  have hone : (((m.appendObservers.map fun o => (o, event)).filter fun p => p.1 = o).map
      Prod.snd) = if o ∈ m.appendObservers then [event] else [] := by
    generalize m.appendObservers = os at hnodup
    induction os with
    | nil => rfl
    | cons a os ih =>
      rw [List.nodup_cons] at hnodup
      rw [List.map_cons, List.filter_cons]
      by_cases ho : a = o
      · subst ho
        simp only [decide_true, ite_true, List.map_cons, ih hnodup.2, if_neg hnodup.1,
          List.mem_cons_self]
      · simp only [ho, decide_false, Bool.false_eq_true, ite_false, ih hnodup.2, List.mem_cons,
          Ne.symm ho, false_or]
  rw [observedBy, h, List.filter_append, List.map_append, hone, observedBy]

theorem Attentive.atomic [KeepsJson σ] {m : ObservedManager σ} (hm : Attentive m)
    (ls : Listeners) (now : ℤ) (r : JsString) {event : NegotiationEvent}
    (hjson : JsonValued event) : Atomic ls now r event m := by
  rcases appendEvent_cases ls now r event m with
    hthrows | ⟨s, stored, frozenEvent, m', happend, hok, hstore, -, hobserved⟩
  · exact .inl hthrows
  · obtain rfl : frozenEvent = event := KeepsJson.append_stored hjson happend
    refine .inr ⟨s, m', hok, ?_, ?_, observedBy_append hm.observers hobserved⟩
    · intro q
      rw [log, log, hstore]
      exact EventStore.append_log_eq happend q
    · intro k sub hs
      rw [hstore]
      exact hm.listening.append_heard hs happend

/-! ### Runs -/

theorem getSession_frame (now : ℤ) (m : ObservedManager σ) (r : JsString) :
    (m.getSession now r).2.eventStore = m.eventStore ∧
      (m.getSession now r).2.appendObservers = m.appendObservers := by
  have hload : (m.loadSession now r).2.eventStore = m.eventStore ∧
      (m.loadSession now r).2.appendObservers = m.appendObservers := by
    unfold loadSession
    split <;> exact ⟨rfl, rfl⟩
  unfold getSession
  split_ifs
  · exact ⟨rfl, rfl⟩
  · split
    · exact hload
    · split_ifs
      · exact ⟨rfl, rfl⟩
      · exact hload

omit [EventStorage σ] in
theorem Attentive.congr {m m' : ObservedManager σ} (hm : Attentive m)
    (hstore : m'.eventStore = m.eventStore) (hobservers : m'.appendObservers = m.appendObservers) :
    Attentive m' :=
  ⟨hstore ▸ hm.listening, hobservers ▸ hm.observers⟩

/-- The step takes no Set of a session away that it had not captured. -/
def SpareSets (m : ObservedManager σ) : ObservedLabel → Prop
  | .store c => EventStore.Intact m.eventStore c
  | _ => True

theorem Attentive.step {maxQueueSize : ℕ} {m m' : ObservedManager σ} {i : ObservedLabel}
    (hm : Attentive m) (hspare : SpareSets m i) (hstep : m.step maxQueueSize i = some m') :
    Attentive m' := by
  cases i with
  | store c =>
    have hcall : Attentive { m with eventStore := (m.eventStore.call c).1 } :=
      ⟨hm.listening.call hspare, hm.observers⟩
    cases c with
    | append r event => cases hstep
    | _ => exact Option.some.inj hstep ▸ hcall
  | lock i =>
    have hlock (h : (m.lockTable.step maxQueueSize i).map (fun lockTable =>
        { m with lockTable }) = some m') : Attentive m' := by
      obtain ⟨lockTable, -, rfl⟩ := Option.map_eq_some_iff.mp h
      exact hm.congr rfl rfl
    cases i with
    | removeLock r =>
      cases hstep
      exact hm.congr rfl rfl
    | _ => exact hlock hstep
  | getSession r now =>
    cases hstep
    exact hm.congr (getSession_frame now m r).1 (getSession_frame now m r).2
  | appendEvent ls r event now =>
    cases hstep
    rcases appendEvent_cases ls now r event m with
      ⟨e, hthrows⟩ | ⟨s, stored, frozenEvent, m', -, hok, hstore, hobservers, -⟩
    · rw [hthrows]
      exact hm
    · rw [hok]
      have hlistening := hm.listening.call (c := .append r event) trivial
      exact ⟨hstore ▸ hlistening, hobservers ▸ hm.observers⟩
  | evictStaleCache now maxAgeMs =>
    cases hstep
    exact hm.congr rfl rfl
  | onAppend o =>
    cases hstep
    refine ⟨hm.listening, ?_⟩
    unfold onAppend
    split_ifs with ho
    · exact hm.observers
    · exact hm.observers.append (List.nodup_singleton o) (by simpa using ho)
  | offAppend o =>
    cases hstep
    exact ⟨hm.listening, hm.observers.erase o⟩

/-- In every state of a run without a stray `unsubscribe`, an append is atomic, whatever the
listeners throw. -/
theorem appendEvent_atomic [KeepsJson σ] (maxQueueSize : ℕ) (is : List ObservedLabel)
    (hspare : Guarded (step maxQueueSize) SpareSets (empty : ObservedManager σ) is)
    (ls : Listeners) (now : ℤ) (r : JsString) {event : NegotiationEvent}
    (hjson : JsonValued event) :
    Atomic ls now r event (run (step maxQueueSize) (empty : ObservedManager σ) is) := by
  have hm := hspare.invariant (P := Attentive)
    (fun _ _ _ hm hok hstep => hm.step hok hstep) empty_attentive
  exact hm.atomic ls now r hjson

/-! ### The manager without its listeners -/

def forget (m : ObservedManager InMemoryEventStore) : SessionManager InMemoryEventStore :=
  ⟨m.eventStore.stored, m.lockTable, m.sessionCache⟩

theorem size_forget (m : ObservedManager InMemoryEventStore) (r : JsString) :
    m.size r = InternalEventStore.size m.forget.store r := by
  simp only [size, forget, EventStorage.size, InMemoryEventStore.size, InternalEventStore.size,
    InMemoryEventStore.getAllEvents]
  cases m.eventStore.stored.events.get? r <;> rfl

theorem forget_getSession (now : ℤ) (m : ObservedManager InMemoryEventStore) (r : JsString) :
    (m.getSession now r).1 = (m.forget.getSession now r).1 ∧
      (m.getSession now r).2.forget = (m.forget.getSession now r).2 := by
  have hload : (m.loadSession now r).1 = (m.forget.loadSession now r).1 ∧
      (m.loadSession now r).2.forget = (m.forget.loadSession now r).2 := by
    have hlog : m.log r = m.forget.log r := rfl
    rw [loadSession, SessionManager.loadSession, hlog, size_forget]
    cases deriveState (m.forget.log r) with
    | error e => exact ⟨rfl, rfl⟩
    | ok s => cases s <;> exact ⟨rfl, rfl⟩
  have hcache : m.sessionCache.get? r = m.forget.sessionCache.get? r := rfl
  rw [getSession, SessionManager.getSession, size_forget, hcache]
  split_ifs
  · exact ⟨rfl, rfl⟩
  · cases m.forget.sessionCache.get? r with
    | none => exact hload
    | some entry =>
      simp only
      split_ifs
      · exact ⟨rfl, rfl⟩
      · exact hload

/-- Without its listeners, an append is the one of the manager alone. -/
theorem forget_appendEvent (ls : Listeners) (now : ℤ) (r : JsString) (event : NegotiationEvent)
    (m : ObservedManager InMemoryEventStore) :
    (appendEvent ls now r event m).2.forget = (m.forget.appendEvent now r event).2 := by
  have hlog : m.log r = m.forget.log r := rfl
  have hactive : m.lockTable.activeLocks r = m.forget.lockTable.activeLocks r := rfl
  have hobservers (os : List ObserverId) (m : ObservedManager InMemoryEventStore) :
      (os.foldl (fun m o => (callObserver ls event o m).2) m).forget = m.forget := by
    induction os generalizing m with
    | nil => rfl
    | cons o os ih =>
      rw [List.foldl_cons, ih, callObserver, Throwing.throwIf_state]
      rfl
  have hstore : EventStorage.append m.eventStore.stored r event =
      (InternalEventStore.append m.forget.store r event).map fun s => (s, event) := rfl
  rw [appendEvent, SessionManager.appendEvent, hlog, hactive]
  split_ifs
  · cases deriveState (m.forget.log r ++ [event]) with
    | error e => rfl
    | ok s =>
      cases s with
      | none => rfl
      | some s =>
        simp only [EventStore.appendTo_eq, hstore]
        cases happend : InternalEventStore.append m.forget.store r event with
        | error message => rfl
        | ok store =>
          have hstored : (m.eventStore.append r event).1.stored = store :=
            EventStore.append_stored_eq (by rw [hstore, happend]; rfl)
          simp only [Except.map, Throwing.andThen, Throwing.forEach_swallow, hobservers]
          simp only [cache, forget, size_forget, hstored, SessionManager.cache]
  · rfl

/-! ### A subscriber that is left out -/

/-- The RFQ of the sample. -/
def sampleCreated : NegotiationEvent :=
  sampleEvent "e1" .rfqCreated sampleBuyer
    [("buyer", sampleBuyer), ("rfq_id", js "rfq-1"), ("anchor_price", js "10"),
      ("currency", js "USDC"), ("deadline", js "2026-03-02T12:00:00.000Z"),
      ("service_type", js "translation")]

/-- Keys that are not made of digits are enumerated as created. -/
theorem enumerate_of_names {ms : Members}
    (h : (ms.all fun m => m.1.any fun u => !isDigitUnit u) = true) : enumerate ms = ms := by
  have hnone : ∀ m ∈ ms, (arrayIndex? m.1).isSome = false := by
    intro m hm
    obtain ⟨u, hu, hdigit⟩ := List.any_eq_true.mp (List.all_eq_true.mp h m hm)
    unfold arrayIndex?
    rw [if_neg fun hindex => ?_]
    · rfl
    · simp [isDigitUnit, hindex.2.1 u hu] at hdigit
  rw [enumerate, List.filter_eq_nil_iff.mpr fun m hm => by simp [hnone m hm],
    List.filter_eq_self.mpr fun m hm => by simp [hnone m hm]]
  rfl

/-- Every listener throws. -/
def allThrow : Listeners := ⟨fun _ => some .typeError, fun _ => some .typeError⟩

/-- A subscriber comes after another one left, whose function is called again. -/
def leftTwice : List ObservedLabel :=
  [.store EventStore.sampleSubscribe, .store (.unsubscribe 0), .store EventStore.sampleSubscribe,
    .store (.unsubscribe 0), .lock (.call 1 (js "rfq-1") true)]

/-- Two subscribers and an observer, who all throw. -/
def listenedTo : List ObservedLabel :=
  [.store EventStore.sampleSubscribe, .store EventStore.sampleSubscribe, .onAppend 0,
    .lock (.call 1 (js "rfq-1") true)]

theorem appendEvent_left_out : ¬ Atomic allThrow 0 (js "rfq-1") sampleCreated
    (run (step 10) (empty : ObservedManager InMemoryEventStore) leftTwice) := by
  have hok : succeeds (appendEvent allThrow 0 (js "rfq-1") sampleCreated
      (run (step 10) (empty : ObservedManager InMemoryEventStore) leftTwice)).1 = true := by
    decide +kernel
  have hheard : (appendEvent allThrow 0 (js "rfq-1") sampleCreated
      (run (step 10) (empty : ObservedManager InMemoryEventStore) leftTwice)).2.eventStore.heard 1 =
      [] := by
    decide +kernel
  rintro (⟨e, hthrows⟩ | ⟨s, m', happended, hd⟩)
  · rw [hthrows] at hok
    cases hok
  · rw [happended] at hheard
    have hnew := hd.heard 1 ⟨js "rfq-1", 1, js "did:key:zSeller", js "did:key:zBuyer", none⟩
      ⟨rfl, by decide +kernel⟩
    rw [hheard] at hnew
    exact absurd hnew (by decide +kernel)

theorem appendEvent_atomic_sample : Atomic allThrow 0 (js "rfq-1") sampleCreated
    (run (step 10) (empty : ObservedManager InMemoryEventStore) listenedTo) := by
  have hspare : Guarded (step 10) SpareSets (empty : ObservedManager InMemoryEventStore)
      listenedTo := ⟨trivial, trivial, trivial, trivial, trivial⟩
  have hmembers : Json.OrdinaryMembers sampleCreated.payload := by
    simp [sampleCreated, sampleEvent, Json.OrdinaryMembers, Json.Ordinary]
  have hjson : JsonValued sampleCreated := ⟨by decide +kernel,
    enumerate_of_names (by decide +kernel), hmembers⟩
  exact appendEvent_atomic 10 listenedTo hspare allThrow 0 (js "rfq-1") hjson

end ObservedManager
end GhostBazaar.Engine
