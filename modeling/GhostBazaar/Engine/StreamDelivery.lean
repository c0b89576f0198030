import GhostBazaar.Engine.StreamMessages

/-! Every stream gets the visible events of its session live, and the terminal event of the session
ends it. -/
namespace GhostBazaar.Engine
open Js Transition

namespace StreamServer

/-! ### The invariant -/

structure Sound (s : StreamServer) (k : SubscriptionId) (c : EventStream) : Prop where
  said : Said (s.store.log c.rfqId) c
  cursor : ValidCursor c.cursor (s.store.log c.rfqId)
  buyer : ∃ session, deriveState (s.store.log c.rfqId) = .ok (some session) ∧
    session.rfq.buyer = c.buyer
  live : c.closed = false → c.registered = true ∧ ∃ set, s.store.subscription k =
    some ⟨c.rfqId, set, c.callerDid, c.buyer, some ⟨.live, [], true, false⟩⟩

/-- The invariant but for what an open stream still has to hear. -/
structure Fed (s : StreamServer) : Prop where
  coherent : Coherent s
  sound : ∀ k c, s.stream k = some c → Sound s k c

/-- The sessions of open streams have not ended. -/
def Unended (s : StreamServer) : Prop :=
  ∀ k c, s.stream k = some c → c.closed = false →
    ∀ e ∈ s.store.log c.rfqId, e.type.terminalState = none

theorem Sound.frame {s s' : StreamServer} {k : SubscriptionId} {c : EventStream}
    (h : Sound s k c) (hstored : s'.store.stored = s.store.stored)
    (hsub : c.closed = false → s'.store.subscription k = s.store.subscription k) :
    Sound s' k c := by
  have hlog : s'.store.log c.rfqId = s.store.log c.rfqId := by
    rw [EventStore.log, EventStore.log, hstored]
  constructor
  · rw [hlog]
    exact h.said
  · rw [hlog]
    exact h.cursor
  · rw [hlog]
    exact h.buyer
  · intro hopen
    rw [hsub hopen]
    exact h.live hopen

theorem unsubscribeTerminal_frame (h : EventStore InMemoryEventStore) (t : SubscriptionId) :
    (h.unsubscribeTerminal t).stored = h.stored ∧
      (h.unsubscribeTerminal t).subscription = h.subscription := by
  unfold EventStore.unsubscribeTerminal
  split
  · exact ⟨rfl, rfl⟩
  · exact ⟨rfl, rfl⟩

theorem release_stored (s : StreamServer) (k : SubscriptionId) (c : EventStream) :
    (s.release k c).store.stored = s.store.stored := by
  simp only [release, (unsubscribeTerminal_frame _ _).1, EventStore.unsubscribe]
  split
  · rfl
  · rfl

theorem release_subscription (s : StreamServer) {j k : SubscriptionId} (hne : j ≠ k)
    (c : EventStream) : (s.release k c).store.subscription j = s.store.subscription j := by
  simp only [release, (unsubscribeTerminal_frame _ _).2, EventStore.unsubscribe]
  split
  · rfl
  · simp only [EventStore.unsubscribeRole, EventStore.setSubscription, if_neg hne]

/-- A stream ends, and the others go on. -/
theorem Fed.finish {s : StreamServer} (h : Fed s) {k : SubscriptionId} {c c' : EventStream}
    (hc : s.stream k = some c) (hopen : c.closed = false) (hsame : holdings c' = holdings c)
    (hsaid : Said (s.store.log c.rfqId)
      (EventStream.finish c' (s.store.log c.rfqId).length true)) :
    Fed ((s.release k c).setStream k
      (EventStream.finish c' (s.store.log c.rfqId).length true)) := by
  refine ⟨h.coherent.finish hc hopen hsame _ (fun _ => rfl), fun j d hd => ?_⟩
  have hold := h.sound k c hc
  simp only [holdings, EventStream.mk.injEq] at hsame
  obtain ⟨hrfq, -, hbuyer, hcursor, -⟩ := hsame
  simp only [setStream] at hd
  split_ifs at hd with hj
  · have hlog : ((s.release k c).setStream k
        (EventStream.finish c' (s.store.log c.rfqId).length true)).store.log d.rfqId =
          s.store.log c.rfqId := by
      rw [← Option.some.inj hd]
      change EventStore.log (s.release k c).store c'.rfqId = _
      rw [EventStore.log, release_stored, hrfq, EventStore.log]
    rw [Option.some.injEq] at hd
    constructor
    · rw [hlog, ← hd]
      exact hsaid
    · rw [hlog, ← hd]
      change ValidCursor c'.cursor _
      rw [hcursor]
      exact hold.cursor
    · rw [hlog, ← hd]
      obtain ⟨session, hsession, hparty⟩ := hold.buyer
      exact ⟨session, hsession, hparty.trans hbuyer.symm⟩
    · rw [← hd]
      intro hclosed
      cases hclosed
  · have hd' : s.stream j = some d := hd
    exact (h.sound j d hd').frame (release_stored s k c) fun _ => release_subscription s hj c

/-- What is open after a stream ended was open before, with the same log. -/
theorem open_finish {s : StreamServer} {k j : SubscriptionId} {c c' d : EventStream} {n : ℕ}
    (hd : ((s.release k c).setStream k (EventStream.finish c' n true)).stream j = some d)
    (hopen : d.closed = false) : j ≠ k ∧ s.stream j = some d := by
  simp only [setStream] at hd
  split_ifs at hd with hj
  · rw [Option.some.injEq] at hd
    rw [← hd] at hopen
    cases hopen
  · exact ⟨hj, hd⟩

theorem Unended.finish {s : StreamServer} (h : Unended s) (k : SubscriptionId)
    (c c' : EventStream) (n : ℕ) :
    Unended ((s.release k c).setStream k (EventStream.finish c' n true)) := by
  intro j d hd hopen
  change ∀ e ∈ EventStore.log (s.release k c).store d.rfqId, _
  rw [EventStore.log, release_stored]
  exact h j d (open_finish hd hopen).2 hopen

structure LifeInv (s : StreamServer) : Prop where
  fed : Fed s
  unended : Unended s

theorem LifeInv.cleanup {s : StreamServer} (h : LifeInv s) {k : SubscriptionId} {c : EventStream}
    (hc : s.stream k = some c) (hregistered : c.registered = true) : LifeInv (s.cleanup k) := by
  cases hclosed : c.closed with
  | true =>
    rw [h.fed.coherent.cleanup_closed hc hclosed hregistered]
    exact h
  | false =>
    have hsaid := (h.fed.sound k c hc).said.finish (h.unended k c hc hclosed) true
    rw [h.fed.coherent.cleanup_eq hc hclosed]
    exact ⟨h.fed.finish hc hclosed rfl hsaid, h.unended.finish k c c _⟩

theorem LifeInv.close {s : StreamServer} (h : LifeInv s) {k : SubscriptionId} {c : EventStream}
    (hc : s.stream k = some c) (hopen : c.closed = false) : LifeInv (s.close k) := by
  have hsaid := (h.fed.sound k c hc).said.dismiss (.evicted (h.unended k c hc hopen)) hopen true
  rw [StreamServer.close, h.fed.coherent.send_cleanup_eq hc hopen]
  exact ⟨h.fed.finish hc hopen (holdings_send c _) hsaid, h.unended.finish k c _ _⟩

theorem close_stored (s : StreamServer) (k : SubscriptionId) :
    (s.close k).store.stored = s.store.stored := by
  have hsend : (s.send k (.error (js "evicted"))).store = s.store := by
    unfold send
    split <;> rfl
  rw [close]
  unfold cleanup
  split
  · rw [hsend]
  · split_ifs
    · rw [hsend]
    · change (release _ k _).store.stored = _
      rw [release_stored, hsend]

theorem LifeInv.evict {s : StreamServer} (h : LifeInv s) {rec : ConnectionRecord}
    (hrec : rec ∈ s.tracker.connections) : LifeInv (s.evict rec) := by
  obtain ⟨c, hc, hopen⟩ := h.fed.coherent.record_open hrec
  rw [h.fed.coherent.evict_eq hrec]
  exact h.close hc hopen

theorem LifeInv.closeAll {s : StreamServer} (h : LifeInv s) (rfqId : JsString) :
    LifeInv (s.closeAll rfqId) := by
  unfold StreamServer.closeAll
  generalize (s.tracker.bySession rfqId).map ConnectionRecord.connectionId = ids
  induction ids generalizing s with
  | nil => exact h
  | cons id ids ih =>
    apply ih
    cases hfind : s.tracker.connections.find? fun rec => decide (rec.connectionId = id) with
    | none => simpa only [hfind] using h
    | some rec =>
      have hevict := h.evict (List.mem_of_find?_eq_some hfind)
      simpa only [hfind] using hevict

/-! ### Live delivery -/

/-- Sending to one stream leaves the others and the store as they are. -/
theorem foldl_send_frame (es : List NegotiationEvent) (s : StreamServer) (k : SubscriptionId) :
    SameHoldings s (es.foldl (fun s e => s.send k (.negotiation e)) s) ∧
      (es.foldl (fun s e => s.send k (.negotiation e)) s).store = s.store ∧
      ∀ j, j ≠ k →
        (es.foldl (fun s e => s.send k (.negotiation e)) s).stream j = s.stream j := by
  induction es generalizing s with
  | nil => exact ⟨.refl s, rfl, fun _ _ => rfl⟩
  | cons e es ih =>
    obtain ⟨hsame, hstore, hother⟩ := ih (s.send k (.negotiation e))
    have hone : (s.send k (.negotiation e)).store = s.store ∧
        ∀ j, j ≠ k → (s.send k (.negotiation e)).stream j = s.stream j := by
      unfold send
      split
      · exact ⟨rfl, fun j hj => by simp only [setStream, if_neg hj]⟩
      · exact ⟨rfl, fun _ _ => rfl⟩
    exact ⟨(send_sameHoldings s k _).trans hsame, hstore.trans hone.1,
      fun j hj => (hother j hj).trans (hone.2 j hj)⟩

theorem deliver_frame (event : NegotiationEvent) (s : StreamServer) (k : SubscriptionId) :
    SameHoldings s (s.deliver event k) ∧ (s.deliver event k).store.stored = s.store.stored ∧
      ∀ j, j ≠ k → (s.deliver event k).stream j = s.stream j ∧
        (s.deliver event k).store.subscription j = s.store.subscription j := by
  have hstore : SameHoldings s { s with store := s.store.deliver event k } :=
    ⟨EventStore.deliver_sameRoles event s.store k, EventStore.deliver_sameTerminals event s.store k,
      rfl, fun _ => rfl⟩
  have hstored : (s.store.deliver event k).stored = s.store.stored := by
    unfold EventStore.deliver
    split <;> rfl
  obtain ⟨hsame, hafter, hother⟩ := foldl_send_frame (heard s.store event k)
    { s with store := s.store.deliver event k } k
  refine ⟨hstore.trans hsame, by rw [deliver, hafter]; exact hstored, fun j hj => ?_⟩
  refine ⟨hother j hj, ?_⟩
  rw [deliver, hafter]
  exact (EventStore.deliver_other event s.store (Ne.symm hj)).1

/-- A live subscription sends the event on when it is visible. -/
theorem deliver_live (event : NegotiationEvent) {s : StreamServer} {k : SubscriptionId}
    {c : EventStream} (hc : s.stream k = some c) {set : SetId}
    (hsub : s.store.subscription k =
      some ⟨c.rfqId, set, c.callerDid, c.buyer, some ⟨.live, [], true, false⟩⟩) :
    (s.deliver event k).stream k = some (if isEventVisibleTo event c.callerDid c.buyer then
        c.send (.negotiation event) else c) ∧
      (s.deliver event k).store.subscription k = s.store.subscription k := by
  have hnotice : Subscription.notice
      ⟨c.rfqId, set, c.callerDid, c.buyer, some ⟨.live, [], true, false⟩⟩ event =
        (⟨c.rfqId, set, c.callerDid, c.buyer, some ⟨.live, [], true, false⟩⟩,
          if isEventVisibleTo event c.callerDid c.buyer then [event] else []) := by
    unfold Subscription.notice
    split_ifs <;> rfl
  obtain ⟨-, hafter, -⟩ := foldl_send_frame (heard s.store event k)
    { s with store := s.store.deliver event k } k
  constructor
  · rw [deliver, heard, hsub]
    simp only [hnotice]
    split_ifs
    · simp only [List.foldl_cons, List.foldl_nil, send, hc, setStream, if_true]
    · exact hc
  · rw [deliver, hafter, (EventStore.deliver_self event hsub).1, hnotice, hsub]

/-- Every subscription of a Set hears the event once. -/
theorem foldl_deliver_frame (event : NegotiationEvent) (ks : List SubscriptionId)
    (s : StreamServer) :
    SameHoldings s (ks.foldl (deliver event) s) ∧
      (ks.foldl (deliver event) s).store.stored = s.store.stored ∧
      ∀ j, j ∉ ks → (ks.foldl (deliver event) s).stream j = s.stream j ∧
        (ks.foldl (deliver event) s).store.subscription j = s.store.subscription j := by
  induction ks generalizing s with
  | nil => exact ⟨.refl s, rfl, fun _ _ => ⟨rfl, rfl⟩⟩
  | cons k ks ih =>
    obtain ⟨hsame, hstored, hother⟩ := ih (s.deliver event k)
    obtain ⟨hsame', hstored', hother'⟩ := deliver_frame event s k
    refine ⟨hsame'.trans hsame, hstored.trans hstored', fun j hj => ?_⟩
    rw [List.mem_cons, not_or] at hj
    obtain ⟨hstream, hsub⟩ := hother j hj.2
    obtain ⟨hstream', hsub'⟩ := hother' j hj.1
    exact ⟨hstream.trans hstream', hsub.trans hsub'⟩

theorem foldl_deliver_live {event : NegotiationEvent} {ks : List SubscriptionId}
    {k : SubscriptionId} (hnodup : ks.Nodup) (hk : k ∈ ks) {s : StreamServer} {c : EventStream}
    (hc : s.stream k = some c) {set : SetId}
    (hsub : s.store.subscription k =
      some ⟨c.rfqId, set, c.callerDid, c.buyer, some ⟨.live, [], true, false⟩⟩) :
    (ks.foldl (deliver event) s).stream k =
        some (if isEventVisibleTo event c.callerDid c.buyer then
          c.send (.negotiation event) else c) ∧
      (ks.foldl (deliver event) s).store.subscription k = s.store.subscription k := by
  induction ks generalizing s with
  | nil => cases hk
  | cons j ks ih =>
    rw [List.nodup_cons] at hnodup
    rw [List.foldl_cons]
    by_cases hj : j = k
    · subst hj
      obtain ⟨-, -, hrest⟩ := foldl_deliver_frame event ks (s.deliver event j)
      obtain ⟨hstream, hsame⟩ := hrest j hnodup.1
      obtain ⟨hstream', hsame'⟩ := deliver_live event hc hsub
      exact ⟨hstream.trans hstream', hsame.trans hsame'⟩
    · obtain ⟨-, -, hother⟩ := deliver_frame event s j
      obtain ⟨hstream, hsame⟩ := hother k (Ne.symm hj)
      obtain ⟨hlast, hlast'⟩ := ih hnodup.2 ((List.mem_cons.mp hk).resolve_left (Ne.symm hj))
        (hstream.trans hc) (hsame.trans hsub)
      exact ⟨hlast, hlast'.trans hsame⟩

/-- The streams of a session are the ones in its Set. -/
theorem Coherent.mem_members {s : StreamServer} (hs : Coherent s) {k : SubscriptionId}
    {c : EventStream} (hc : s.stream k = some c) (hopen : c.closed = false) {sub : Subscription}
    (hsub : s.store.subscription k = some sub) {r : JsString} {set : SetId}
    (hset : s.store.subscribers.get? r = some set) : k ∈ s.store.members set ↔ sub.rfqId = r := by
  obtain ⟨sub', hsub', hget, hmem⟩ := (hs.held k c hc hopen).attached
  obtain rfl : sub = sub' := by simpa using hsub.symm.trans hsub'
  constructor
  · intro hk
    obtain ⟨sub', hsub', hset'⟩ := hs.roles.member set k hk
    obtain rfl : sub = sub' := by simpa using hsub.symm.trans hsub'
    exact hs.roles.owner r set k sub hset hsub hset'
  · intro hr
    rw [hr, hset, Option.some.injEq] at hget
    rw [hget]
    exact hmem

/-- What an append leaves in a stream before the terminal subscribers hear of it. -/
def told (r : JsString) (event : NegotiationEvent) (c : EventStream) : EventStream :=
  if c.closed = false ∧ c.rfqId = r ∧ isEventVisibleTo event c.callerDid c.buyer = true then
    c.send (.negotiation event)
  else c

theorem holdings_told (r : JsString) (event : NegotiationEvent) (c : EventStream) :
    holdings (told r event c) = holdings c := by
  unfold told
  split_ifs
  · exact holdings_send c _
  · rfl

theorem Coherent.notify_stream {s : StreamServer} (hs : Coherent s) (r : JsString)
    (event : NegotiationEvent) {k : SubscriptionId} {c : EventStream} (hc : s.stream k = some c)
    (hlive : c.closed = false → ∃ set, s.store.subscription k =
      some ⟨c.rfqId, set, c.callerDid, c.buyer, some ⟨.live, [], true, false⟩⟩) :
    (s.notify r event).stream k = some (told r event c) ∧
      (c.closed = false →
        (s.notify r event).store.subscription k = s.store.subscription k) := by
  unfold StreamServer.notify
  cases hclosed : c.closed with
  | true =>
    -- a closed stream is in no Set
    have hnone : ∀ set, k ∉ s.store.members set := by
      intro set hk
      obtain ⟨c', hc', hopen⟩ := hs.members set k hk
      obtain rfl : c = c' := by simpa using hc.symm.trans hc'
      rw [hopen] at hclosed
      cases hclosed
    have hsame : told r event c = c := by
      unfold told
      rw [if_neg (by simp [hclosed])]
    rw [hsame]
    refine ⟨?_, fun hfalse => by cases hfalse⟩
    split
    · exact hc
    · obtain ⟨-, -, hother⟩ := foldl_deliver_frame event (s.store.members _) s
      exact (hother k (hnone _)).1.trans hc
  | false =>
    obtain ⟨set, hsub⟩ := hlive hclosed
    cases hset : s.store.subscribers.get? r with
    | none =>
      have hne : c.rfqId ≠ r := by
        rintro rfl
        obtain ⟨sub, hsub', hget, -⟩ := (hs.held k c hc hclosed).attached
        rw [hsub, Option.some.injEq] at hsub'
        rw [← hsub', hset] at hget
        cases hget
      have hsame : told r event c = c := by
        unfold told
        rw [if_neg (by simp [hne])]
      rw [hsame]
      exact ⟨hc, fun _ => rfl⟩
    | some set' =>
      have hmem := hs.mem_members hc hclosed hsub hset
      by_cases hr : c.rfqId = r
      · obtain ⟨hstream, hsame⟩ := @foldl_deliver_live event _ k
          (hs.roles.nodup set') (hmem.mpr hr) _ _ hc _ hsub
        refine ⟨hstream.trans (congrArg some ?_), fun _ => hsame⟩
        unfold told
        simp only [hclosed, hr, true_and]
      · obtain ⟨-, -, hother⟩ := foldl_deliver_frame event (s.store.members set') s
        obtain ⟨hstream, hsame⟩ := hother k fun hk => hr (hmem.mp hk)
        have htold : told r event c = c := by
          unfold told
          rw [if_neg (by simp [hr])]
        rw [htold]
        exact ⟨hstream.trans hc, fun _ => hsame⟩

theorem notify_frame (s : StreamServer) (r : JsString) (event : NegotiationEvent) :
    SameHoldings s (s.notify r event) ∧ (s.notify r event).store.stored = s.store.stored := by
  unfold notify
  split
  · exact ⟨.refl s, rfl⟩
  · obtain ⟨hsame, hstored, -⟩ := foldl_deliver_frame event (s.store.members _) s
    exact ⟨hsame, hstored⟩

theorem Sound.told {s s' : StreamServer} {k : SubscriptionId} {c : EventStream} (h : Sound s k c)
    {r : JsString} {event : NegotiationEvent}
    (hlog : ∀ q, s'.store.log q = if q = r then s.store.log q ++ [event] else s.store.log q)
    {session : DerivedSession} (hsession : deriveState (s.store.log r ++ [event]) =
      .ok (some session))
    (hsub : c.closed = false → s'.store.subscription k = s.store.subscription k) :
    Sound s' k (told r event c) := by
  have hsame := holdings_told r event c
  simp only [holdings, EventStream.mk.injEq] at hsame
  obtain ⟨hrfq, hcaller, hbuyer, hcursor, -, -, hreg, -, hclosed, -⟩ := hsame
  have hlive : (StreamServer.told r event c).closed = false →
      (StreamServer.told r event c).registered = true ∧ ∃ set, s'.store.subscription k =
        some ⟨(StreamServer.told r event c).rfqId, set, (StreamServer.told r event c).callerDid,
          (StreamServer.told r event c).buyer, some ⟨.live, [], true, false⟩⟩ := by
    intro hopen
    rw [hclosed] at hopen
    rw [hreg, hrfq, hcaller, hbuyer, hsub hopen]
    exact h.live hopen
  by_cases hr : c.rfqId = r
  · have hthis : s'.store.log c.rfqId = s.store.log c.rfqId ++ [event] := by
      rw [hlog, if_pos hr]
    refine ⟨?_, ?_, ?_, hlive⟩
    · rw [hrfq, hthis]
      unfold StreamServer.told
      cases hshut : c.closed with
      | true =>
        rw [if_neg (by simp)]
        exact h.said.append_closed hshut event
      | false =>
        simp only [hr, true_and]
        exact hr ▸ h.said.append h.cursor event
    · rw [hrfq, hthis, hcursor]
      exact h.cursor.append [event]
    · obtain ⟨before, hbefore, hparty⟩ := h.buyer
      rw [hr] at hbefore
      rw [hrfq, hthis, hr, hbuyer]
      have hsame := rfq_eq_of_prefix (List.prefix_append _ _) hbefore hsession
      exact ⟨session, hsession, hsame ▸ hparty⟩
  · have hthis : s'.store.log c.rfqId = s.store.log c.rfqId := by
      rw [hlog, if_neg hr]
    have htold : StreamServer.told r event c = c := by
      unfold StreamServer.told
      rw [if_neg (by simp [hr])]
    rw [htold] at hlive ⊢
    refine ⟨?_, ?_, ?_, hlive⟩
    · rw [hthis]
      exact h.said
    · rw [hthis]
      exact h.cursor
    · rw [hthis]
      exact h.buyer

/-- The events of the append reach the streams of its session. -/
theorem Fed.notify {s : StreamServer} (h : Fed s) {r : JsString} {event : NegotiationEvent}
    {stored : InMemoryEventStore}
    (happend : EventStorage.append s.store.stored r event = .ok (stored, event))
    {session : DerivedSession}
    (hsession : deriveState (s.store.log r ++ [event]) = .ok (some session)) :
    Fed (StreamServer.notify { s with store := { s.store with stored } } r event) ∧
      SameHoldings s (StreamServer.notify { s with store := { s.store with stored } } r event) ∧
      ∀ q, (StreamServer.notify { s with store := { s.store with stored } } r event).store.log q =
        if q = r then s.store.log q ++ [event] else s.store.log q := by
  have hstored : SameHoldings s { s with store := { s.store with stored } } :=
    ⟨⟨rfl, rfl, rfl, fun _ => rfl⟩, ⟨rfl, rfl, rfl, rfl⟩, rfl, fun _ => rfl⟩
  obtain ⟨hnotify, hkept⟩ := notify_frame { s with store := { s.store with stored } } r event
  have hlog : ∀ q, (StreamServer.notify { s with store := { s.store with stored } } r
      event).store.log q = if q = r then s.store.log q ++ [event] else s.store.log q := by
    intro q
    rw [EventStore.log, hkept]
    exact EventStorage.getAllEvents_append happend q
  have hsame := hstored.trans hnotify
  refine ⟨⟨h.coherent.congr hsame, fun k d hd => ?_⟩, hsame, hlog⟩
  obtain ⟨c, hc, -⟩ := hsame.exists_old hd
  have hsound := h.sound k c hc
  obtain ⟨hstream, hsub⟩ := (h.coherent.congr hstored).notify_stream r event hc
    fun hopen => (hsound.live hopen).2
  rw [hd, Option.some.injEq] at hstream
  rw [hstream]
  exact hsound.told hlog hsession hsub

/-! ### The terminal subscribers -/

/-- The listeners of a session are its open streams. -/
theorem Coherent.mem_terminalMembers {s : StreamServer} (hs : Coherent s) {r : JsString}
    {set : SetId} (hset : s.store.terminalSubscribers.get? r = some set) {k : SubscriptionId} :
    k ∈ s.store.terminalMembers set ↔
      ∃ c, s.stream k = some c ∧ c.closed = false ∧ c.rfqId = r := by
  constructor
  · intro hk
    obtain ⟨c, hc, hopen, hsub⟩ := hs.listeners set k hk
    obtain ⟨set', hsub', hlistens⟩ := (hs.held k c hc hopen).listens
    rw [hsub, Option.some.injEq, TerminalSubscription.mk.injEq] at hsub'
    rw [← hsub'.2.1] at hlistens
    exact ⟨c, hc, hopen, hs.terminals.distinct c.rfqId r set hlistens.registered hset⟩
  · rintro ⟨c, hc, hopen, rfl⟩
    obtain ⟨set', -, hlistens⟩ := (hs.held k c hc hopen).listens
    have heq := hlistens.registered
    rw [hset, Option.some.injEq] at heq
    rw [heq]
    exact hlistens.member

theorem Fed.announce {s : StreamServer} (h : Fed s) {k : SubscriptionId} {c : EventStream}
    (hc : s.stream k = some c) (hopen : c.closed = false) {event : NegotiationEvent}
    (hevent : event ∈ s.store.log c.rfqId) {state : JsString}
    (hstate : event.type.terminalState = some state) :
    Fed (s.announce state k) ∧ (s.announce state k).store.stored = s.store.stored ∧
      ∀ j d, (s.announce state k).stream j = some d → d.closed = false →
        j ≠ k ∧ s.stream j = some d := by
  have hsaid := (h.sound k c hc).said.dismiss (.terminal hevent hstate) hopen true
  rw [StreamServer.announce, h.coherent.send_cleanup_eq hc hopen]
  exact ⟨h.finish hc hopen (holdings_send c _) hsaid, release_stored s k c,
    fun j d hd hdopen => open_finish hd hdopen⟩

/-- All streams of the session end with the terminal message. -/
theorem Fed.foldl_announce {s : StreamServer} (h : Fed s) {r : JsString}
    {event : NegotiationEvent} (hevent : event ∈ s.store.log r) {state : JsString}
    (hstate : event.type.terminalState = some state) {ks : List SubscriptionId}
    (hnodup : ks.Nodup)
    (hks : ∀ k ∈ ks, ∃ c, s.stream k = some c ∧ c.closed = false ∧ c.rfqId = r) :
    Fed (ks.foldl (StreamServer.announce state) s) ∧
      (ks.foldl (StreamServer.announce state) s).store.stored = s.store.stored ∧
      ∀ j d, (ks.foldl (StreamServer.announce state) s).stream j = some d → d.closed = false →
        j ∉ ks ∧ s.stream j = some d := by
  induction ks generalizing s with
  | nil => exact ⟨h, rfl, fun j d hd _ => ⟨List.not_mem_nil, hd⟩⟩
  | cons k ks ih =>
    rw [List.nodup_cons] at hnodup
    rw [List.forall_mem_cons] at hks
    obtain ⟨⟨c, hc, hopen, hr⟩, hrest⟩ := hks
    obtain ⟨hfed, hstored, hback⟩ := h.announce hc hopen (hr.symm ▸ hevent) hstate
    have hevent' : event ∈ (s.announce state k).store.log r := by
      rw [EventStore.log, hstored]
      exact hevent
    have hother : ∀ j, j ≠ k → (s.announce state k).stream j = s.stream j := by
      intro j hj
      rw [StreamServer.announce, h.coherent.send_cleanup_eq hc hopen]
      simp only [setStream, release, if_neg hj]
    have hrest' : ∀ j ∈ ks, ∃ d, (s.announce state k).stream j = some d ∧ d.closed = false ∧
        d.rfqId = r := by
      intro j hj
      rw [hother j fun heq => hnodup.1 (heq ▸ hj)]
      exact hrest j hj
    obtain ⟨hfed', hstored', hback'⟩ := ih hfed hevent' hnodup.2 hrest'
    refine ⟨hfed', hstored'.trans hstored, fun j d hd hdopen => ?_⟩
    obtain ⟨hj, hd⟩ := hback' j d hd hdopen
    obtain ⟨hne, hd⟩ := hback j d hd hdopen
    exact ⟨by rw [List.mem_cons, not_or]; exact ⟨hne, hj⟩, hd⟩

theorem Coherent.forget {s : StreamServer} (hs : Coherent s) {r : JsString}
    (hr : ∀ k c, s.stream k = some c → c.closed = false → c.rfqId ≠ r) :
    Coherent { s with store := { s.store with
      terminalSubscribers := s.store.terminalSubscribers.delete r } } := by
  have hget : ∀ {q : JsString} {set : SetId},
      (s.store.terminalSubscribers.delete r).get? q = some set →
        s.store.terminalSubscribers.get? q = some set := by
    intro q set hset
    rw [JsMap.get?_delete] at hset
    split_ifs at hset
    exact hset
  have hroles : EventStore.SameRoles s.store { s.store with
      terminalSubscribers := s.store.terminalSubscribers.delete r } :=
    ⟨rfl, rfl, rfl, fun _ => rfl⟩
  exact
    { hs with
      roles := hs.roles.congr hroles
      terminals := ⟨hs.terminals.fresh, fun q set hset => hs.terminals.registered q set (hget hset),
        fun q q' set hq hq' => hs.terminals.distinct q q' set (hget hq) (hget hq'),
        hs.terminals.unused, hs.terminals.nodup⟩
      held := fun k c hc hopen => by
        have hheld := hs.held k c hc hopen
        obtain ⟨set, hset, hlistens⟩ := hheld.listens
        refine { hheld with
          attached := hheld.attached.congr hroles
          listens := ⟨set, hset, ?_, hlistens.member⟩ }
        rw [JsMap.get?_delete, if_neg (hr k c hc hopen)]
        exact hlistens.registered }

/-- The store in memory keeps the event that it is given. -/
theorem append_frozen {stored stored' : InMemoryEventStore} {r : JsString}
    {event frozenEvent : NegotiationEvent}
    (h : EventStorage.append stored r event = .ok (stored', frozenEvent)) : frozenEvent = event := by
  obtain ⟨_, -, heq⟩ := map_eq_ok.mp h
  exact (Prod.mk.inj heq).2.symm

/-- An append leaves open only streams whose sessions go on. -/
theorem LifeInv.append {s s' : StreamServer} (h : LifeInv s) {r : JsString}
    {event : NegotiationEvent} (happend : s.append r event = some s') : LifeInv s' := by
  unfold StreamServer.append at happend
  split at happend
  · rename_i session hsession
    split at happend
    · rename_i stored frozenEvent hstored
      rw [Option.some.injEq] at happend
      subst happend
      obtain rfl : frozenEvent = event := append_frozen hstored
      obtain ⟨hfed, hsame, hlog⟩ := h.fed.notify hstored hsession
      generalize StreamServer.notify { s with store := { s.store with stored } } r frozenEvent = t
        at hfed hsame hlog ⊢
      have hunended : ∀ k c, t.stream k = some c → c.closed = false →
          (c.rfqId = r → frozenEvent.type.terminalState = none) →
          ∀ e ∈ t.store.log c.rfqId, e.type.terminalState = none := by
        intro k c hc hopen hlast e he
        obtain ⟨old, hold, hholdings⟩ := hsame.exists_old hc
        have hrfq := (holdings_inj hholdings).1
        have hopen' := congrArg EventStream.closed hholdings
        have hlive := h.unended k old hold (hopen'.trans hopen)
        rw [hrfq] at hlive
        rw [hlog] at he
        split_ifs at he with hr
        · rcases List.mem_append.mp he with he | he
          · exact hlive e he
          · rw [List.mem_singleton.mp he]
            exact hlast hr
        · exact hlive e he
      unfold StreamServer.notifyTerminal
      cases hstate : frozenEvent.type.terminalState with
      | none => exact ⟨hfed, fun k c hc hopen => hunended k c hc hopen fun _ => hstate⟩
      | some state =>
        cases hset : t.store.terminalSubscribers.get? r with
        | none =>
          refine ⟨hfed, fun k c hc hopen => hunended k c hc hopen fun hr => ?_⟩
          obtain ⟨set, -, hlistens⟩ := (hfed.coherent.held k c hc hopen).listens
          have hregistered := hlistens.registered
          rw [hr, hset] at hregistered
          cases hregistered
        | some set =>
          have hevent : frozenEvent ∈ t.store.log r := by
            rw [hlog, if_pos rfl]
            exact List.mem_append_right _ (List.mem_singleton.mpr rfl)
          have hks := fun k hk => (hfed.coherent.mem_terminalMembers hset (k := k)).mp hk
          obtain ⟨hfed', hstored', hback⟩ := hfed.foldl_announce hevent hstate
            (hfed.coherent.terminals.nodup set) hks
          have hother : ∀ k c, (((t.store.terminalMembers set).foldl
              (StreamServer.announce state) t).stream k = some c) → c.closed = false →
                t.stream k = some c ∧ c.rfqId ≠ r := by
            intro k c hc hopen
            obtain ⟨hk, hc⟩ := hback k c hc hopen
            exact ⟨hc, fun hr => hk ((hfed.coherent.mem_terminalMembers hset).mpr
              ⟨c, hc, hopen, hr⟩)⟩
          refine ⟨⟨hfed'.coherent.forget fun k c hc hopen => (hother k c hc hopen).2,
            fun k c hc => (hfed'.sound k c hc).frame rfl fun _ => rfl⟩, fun k c hc hopen => ?_⟩
          obtain ⟨hc, hr⟩ := hother k c hc hopen
          simp only [EventStore.log, hstored']
          exact hunended k c hc hopen fun heq => absurd heq hr
    · cases happend
  · cases happend

end StreamServer
end GhostBazaar.Engine
