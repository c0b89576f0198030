import GhostBazaar.Engine.StreamDelivery

/-! The life of a connection, over any run of connections, appends, evictions, aborts and
cancellations. -/
namespace GhostBazaar.Engine
open Js Transition

namespace StreamServer

/-! ### New connections -/

theorem foldl_send_open {c : EventStream} (hopen : c.closed = false) (hcancelled : c.cancelled = false)
    (es : List NegotiationEvent) :
    es.foldl (fun c event => c.send (.negotiation event)) c =
      { c with sent := c.sent ++ es.map .negotiation } := by
  induction es generalizing c with
  | nil => simp
  | cons e es ih =>
    have hsend : c.send (.negotiation e) = { c with sent := c.sent ++ [.negotiation e] } := by
      simp only [EventStream.send, hopen, hcancelled, Bool.or_self, Bool.false_eq_true, if_false]
    have hrest := ih (c := { c with sent := c.sent ++ [.negotiation e] }) hopen hcancelled
    rw [List.foldl_cons, hsend, hrest, List.map_cons, List.append_assoc, List.singleton_append]

/-- A new stream with its replay. -/
def replayed (s : StreamServer) (r callerDid buyer : JsString) (cursor : Option JsString) :
    EventStream :=
  { s.granted r callerDid buyer cursor false with
    sent := (s.granted r callerDid buyer cursor false).due (s.store.log r) }

/-- The server when the replay of a new stream has been sent. -/
def entered (s : StreamServer) (now : ℤ) (r callerDid buyer : JsString) (isBuyer : Bool) :
    StreamServer :=
  { store := (s.store.subscribe r callerDid buyer (some ⟨.buffering, [], false, false⟩)).subscribeTerminal
      r s.store.nextId
    tracker := s.tracker.insert r callerDid isBuyer now s.store.nextId
    stream := s.stream }

theorem start_eq (s : StreamServer) (now : ℤ) (r callerDid buyer : JsString)
    (cursor : Option JsString) (isBuyer : Bool) {session : DerivedSession}
    (hsession : deriveState (s.store.log r) = .ok (some session)) :
    StreamServer.start { s with
        tracker := s.tracker.insert r callerDid isBuyer now s.store.nextId } r callerDid buyer cursor
        (s.tracker.nextId + 1) =
      if session.state.isTerminal then
        ((s.entered now r callerDid buyer isBuyer).release s.store.nextId
          ((s.replayed r callerDid buyer cursor).send (.terminal session.state.text))).setStream
          s.store.nextId
          (EventStream.finish ((s.replayed r callerDid buyer cursor).send
            (.terminal session.state.text)) (s.store.log r).length false)
      else
        { s.entered now r callerDid buyer isBuyer with
          store := (s.entered now r callerDid buyer isBuyer).store.activate
            s.store.nextId }.setStream s.store.nextId
          { s.replayed r callerDid buyer cursor with registered := true } := by
  have hlog : ((s.store.subscribe r callerDid buyer
      (some ⟨.buffering, [], false, false⟩)).subscribeTerminal r s.store.nextId).log r =
        s.store.log r := rfl
  have hreplay := foldl_send_open (c := s.granted r callerDid buyer cursor false) rfl rfl
    (EventStorage.getEvents s.store.stored r callerDid buyer cursor ++ [])
  rw [EventStorage.getEvents_eq, List.append_nil] at hreplay
  have hreplayed : { s.granted r callerDid buyer cursor false with
      sent := (s.granted r callerDid buyer cursor false).sent ++
        (visibleTo callerDid buyer (eventsAfter cursor
          (EventStorage.getAllEvents s.store.stored r))).map StreamMessage.negotiation } =
      s.replayed r callerDid buyer cursor := rfl
  rw [hreplayed] at hreplay
  simp only [StreamServer.start, EventStore.subscribeFrom_eq, hlog, hsession, List.append_nil,
    EventStorage.getEvents_eq]
  change (if session.state.isTerminal then _ else _) = _
  split_ifs
  · rw [← hreplay]
    rfl
  · rw [← hreplay]
    rfl

theorem LifeInv.fresh {s : StreamServer} (h : LifeInv s) {j : SubscriptionId} {d : EventStream}
    (hd : s.stream j = some d) : j ≠ s.store.nextId :=
  Nat.ne_of_lt (h.fed.coherent.lt j d hd)

/-- A session that has ended: the terminal message follows the replay. -/
theorem LifeInv.start_ended {s : StreamServer} (h : LifeInv s) (now : ℤ)
    {r callerDid buyer : JsString} {cursor : Option JsString} (isBuyer : Bool)
    {session : DerivedSession} (hsession : deriveState (s.store.log r) = .ok (some session))
    (hbuyer : session.rfq.buyer = buyer) (hcursor : ValidCursor cursor (s.store.log r))
    (hterminal : session.state.isTerminal = true) :
    LifeInv (((s.entered now r callerDid buyer isBuyer).release s.store.nextId
      ((s.replayed r callerDid buyer cursor).send (.terminal session.state.text))).setStream
        s.store.nextId (EventStream.finish ((s.replayed r callerDid buyer cursor).send
          (.terminal session.state.text)) (s.store.log r).length false)) := by
  obtain ⟨event, hevent, hstate⟩ : ∃ e ∈ s.store.log r,
      e.type.terminalState = some session.state.text := by
    have hannounces := deriveState_announces hsession
    rwa [Announces, if_pos hterminal] at hannounces
  have hsaid : Said (s.store.log r) (s.replayed r callerDid buyer cursor) := .open rfl rfl rfl rfl
  have hended := hsaid.dismiss (.terminal hevent hstate) rfl false
  have henter := h.fed.coherent.enter now r callerDid buyer cursor isBuyer false
    (some ⟨.buffering, [], false, false⟩)
  have hnew : (s.enter now r callerDid buyer cursor isBuyer false
      (some ⟨.buffering, [], false, false⟩)).stream s.store.nextId =
        some (s.granted r callerDid buyer cursor false) := by
    simp only [StreamServer.enter, setStream, if_true]
  have hholdings : holdings ((s.replayed r callerDid buyer cursor).send
      (.terminal session.state.text)) = holdings (s.granted r callerDid buyer cursor false) := rfl
  have hunregistered : (s.granted r callerDid buyer cursor false).registered = true →
      false = true := fun hreg => by cases hreg
  have hfinish := henter.finish hnew rfl hholdings (s.store.log r).length hunregistered
  have hsame : ((s.enter now r callerDid buyer cursor isBuyer false
      (some ⟨.buffering, [], false, false⟩)).release s.store.nextId
        (s.granted r callerDid buyer cursor false)).setStream s.store.nextId
        (EventStream.finish ((s.replayed r callerDid buyer cursor).send
          (.terminal session.state.text)) (s.store.log r).length false) =
      ((s.entered now r callerDid buyer isBuyer).release s.store.nextId
      ((s.replayed r callerDid buyer cursor).send (.terminal session.state.text))).setStream
        s.store.nextId (EventStream.finish ((s.replayed r callerDid buyer cursor).send
          (.terminal session.state.text)) (s.store.log r).length false) := by
    simp only [StreamServer.enter, entered, setStream, release, StreamServer.mk.injEq]
    refine ⟨rfl, rfl, ?_⟩
    funext j
    split_ifs <;> rfl
  rw [hsame] at hfinish
  have hstored : ∀ c : EventStream, ((s.entered now r callerDid buyer isBuyer).release
      s.store.nextId c).store.stored = s.store.stored := fun c => release_stored _ _ _
  refine ⟨⟨hfinish, fun j d hd => ?_⟩, fun j d hd hopen => ?_⟩
  · simp only [setStream] at hd
    split_ifs at hd with hj
    · rw [Option.some.injEq] at hd
      have hlog : EventStore.log ((s.entered now r callerDid buyer isBuyer).release
          s.store.nextId ((s.replayed r callerDid buyer cursor).send
            (.terminal session.state.text))).store d.rfqId = s.store.log r := by
        rw [← hd]
        change EventStorage.getAllEvents ((s.entered now r callerDid buyer isBuyer).release
          s.store.nextId _).store.stored r = _
        rw [hstored]
        rfl
      constructor
      · change Said (EventStore.log ((s.entered now r callerDid buyer isBuyer).release
          s.store.nextId _).store d.rfqId) d
        rw [hlog, ← hd]
        exact hended
      · change ValidCursor d.cursor (EventStore.log ((s.entered now r callerDid buyer
          isBuyer).release s.store.nextId _).store d.rfqId)
        rw [hlog, ← hd]
        exact hcursor
      · refine ⟨session, ?_, ?_⟩
        · change deriveState (EventStore.log ((s.entered now r callerDid buyer isBuyer).release
            s.store.nextId _).store d.rfqId) = _
          rw [hlog]
          exact hsession
        · rw [← hd]
          exact hbuyer
      · rw [← hd]
        intro hclosed
        cases hclosed
    · refine (h.fed.sound j d hd).frame (hstored _) fun _ => ?_
      refine (release_subscription _ hj _).trans ?_
      simp only [entered, EventStore.subscribeTerminal, EventStore.subscribe, if_neg hj]
  · simp only [setStream] at hd
    split_ifs at hd with hj
    · rw [Option.some.injEq] at hd
      rw [← hd] at hopen
      cases hopen
    · change ∀ e ∈ EventStore.log ((s.entered now r callerDid buyer isBuyer).release
        s.store.nextId _).store d.rfqId, _
      rw [EventStore.log, hstored]
      exact h.unended j d hd hopen

/-- A session that goes on: live delivery follows the replay. -/
theorem LifeInv.start_live {s : StreamServer} (h : LifeInv s) (now : ℤ)
    {r callerDid buyer : JsString} {cursor : Option JsString} (isBuyer : Bool)
    {session : DerivedSession} (hsession : deriveState (s.store.log r) = .ok (some session))
    (hbuyer : session.rfq.buyer = buyer) (hcursor : ValidCursor cursor (s.store.log r))
    (hlive : session.state.isTerminal = false) :
    LifeInv (StreamServer.setStream { s.entered now r callerDid buyer isBuyer with
        store := (s.entered now r callerDid buyer isBuyer).store.activate s.store.nextId }
      s.store.nextId { s.replayed r callerDid buyer cursor with registered := true }) := by
  have hunended : ∀ e ∈ s.store.log r, e.type.terminalState = none := by
    have hannounces := deriveState_announces hsession
    rwa [Announces, if_neg (by simp [hlive])] at hannounces
  have henter := h.fed.coherent.enter now r callerDid buyer cursor isBuyer true
    (some ⟨.buffering, [], false, false⟩)
  have hsub : (s.entered now r callerDid buyer isBuyer).store.subscription s.store.nextId =
      some ⟨r, (s.store.subscribers.get? r).getD s.store.nextId, callerDid, buyer,
        some ⟨.buffering, [], false, false⟩⟩ := by
    simp only [entered, EventStore.subscribeTerminal, EventStore.subscribe, if_true]
  have hactivate : (s.entered now r callerDid buyer isBuyer).store.activate s.store.nextId =
      (s.entered now r callerDid buyer isBuyer).store.setSubscription s.store.nextId
        ⟨r, (s.store.subscribers.get? r).getD s.store.nextId, callerDid, buyer,
          some ⟨.live, [], true, false⟩⟩ := by
    simp only [EventStore.activate, hsub]
    simp [Feed.activate, EventStore.setSubscription]
  have hsame : SameHoldings (s.enter now r callerDid buyer cursor isBuyer true
      (some ⟨.buffering, [], false, false⟩))
      (StreamServer.setStream { s.entered now r callerDid buyer isBuyer with
        store := (s.entered now r callerDid buyer isBuyer).store.activate s.store.nextId }
      s.store.nextId { s.replayed r callerDid buyer cursor with registered := true }) := by
    refine ⟨EventStore.activate_sameRoles _ _, EventStore.activate_sameTerminals _ _, rfl,
      fun j => ?_⟩
    simp only [StreamServer.enter, entered, setStream]
    split_ifs <;> rfl
  refine ⟨⟨henter.congr hsame, fun j d hd => ?_⟩, fun j d hd hopen => ?_⟩
  · simp only [setStream] at hd
    split_ifs at hd with hj
    · rw [Option.some.injEq] at hd
      subst hd hj
      refine ⟨?_, ?_, ⟨session, ?_, hbuyer⟩, fun _ => ⟨rfl,
        (s.store.subscribers.get? r).getD s.store.nextId, ?_⟩⟩
      · rw [hactivate]
        exact .open rfl rfl rfl rfl
      · rw [hactivate]
        exact hcursor
      · rw [hactivate]
        exact hsession
      · simp only [setStream, hactivate, EventStore.setSubscription, if_true]
        rfl
    · refine (h.fed.sound j d hd).frame ?_ fun _ => ?_
      · rw [hactivate]
        rfl
      · simp only [setStream, hactivate, EventStore.setSubscription, if_neg hj]
        simp only [entered, EventStore.subscribeTerminal, EventStore.subscribe, if_neg hj]
  · have hlog : ∀ q, EventStore.log ((s.entered now r callerDid buyer isBuyer).store.activate
        s.store.nextId) q = s.store.log q := by
      intro q
      rw [hactivate]
      rfl
    simp only [setStream] at hd ⊢
    rw [hlog]
    split_ifs at hd with hj
    · rw [Option.some.injEq] at hd
      rw [← hd]
      exact hunended
    · exact h.unended j d hd hopen

/-- Making room for the stream of a buyer. -/
theorem LifeInv.acquire {s s' : StreamServer} (h : LifeInv s) {now : ℤ} {r callerDid : JsString}
    {isBuyer : Bool} {id : ConnectionId}
    (hacquire : s.acquire now r callerDid isBuyer = some (s', id)) :
    ∃ t, LifeInv t ∧ t.store.stored = s.store.stored ∧ id = t.tracker.nextId + 1 ∧
      s' = { t with tracker := t.tracker.insert r callerDid isBuyer now t.store.nextId } := by
  unfold StreamServer.acquire at hacquire
  split_ifs at hacquire
  · rw [Option.map_eq_some_iff] at hacquire
    obtain ⟨rec, hrec, hinsert⟩ := hacquire
    obtain ⟨rfl, rfl⟩ := Prod.mk.inj hinsert
    have hmem : rec ∈ s.tracker.connections :=
      List.mem_of_mem_filter (ConnectionTracker.findOldestNonBuyer_some hrec).1
    refine ⟨s.evict rec, h.evict hmem, ?_, rfl, rfl⟩
    rw [h.fed.coherent.evict_eq hmem]
    exact close_stored s rec.stream
  · rw [Option.some.injEq] at hacquire
    obtain ⟨rfl, rfl⟩ := Prod.mk.inj hacquire
    exact ⟨s, h, rfl, rfl, rfl⟩

theorem LifeInv.connect {s s' : StreamServer} (h : LifeInv s) {now : ℤ} {r callerDid : JsString}
    {cursor : Option JsString} (hconnect : s.connect now r callerDid cursor = some s') :
    LifeInv s' := by
  unfold StreamServer.connect at hconnect
  split at hconnect
  · rename_i session hsession
    split_ifs at hconnect with hchecks
    rw [Option.map_eq_some_iff] at hconnect
    obtain ⟨⟨s₁, id⟩, hacquire, rfl⟩ := hconnect
    obtain ⟨t, ht, hstored, rfl, rfl⟩ := h.acquire hacquire
    have hlog : t.store.log r = s.store.log r := by rw [EventStore.log, hstored, EventStore.log]
    have hcursor : ValidCursor cursor (t.store.log r) := by
      intro id hid
      rw [hlog]
      exact (EventStorage.hasCursor_iff _ _ _).mp (hchecks.2 id hid)
    rw [← hlog] at hsession
    have hstart := start_eq t now r callerDid session.rfq.buyer cursor
      (decide (callerDid = session.rfq.buyer)) hsession
    simp only at hstart ⊢
    rw [hstart]
    cases hterminal : session.state.isTerminal with
    | true => exact ht.start_ended now _ hsession rfl hcursor hterminal
    | false => exact ht.start_live now _ hsession rfl hcursor hterminal
  · cases hconnect

theorem LifeInv.cancel {s : StreamServer} (h : LifeInv s) {k : SubscriptionId} {c : EventStream}
    (hc : s.stream k = some c) :
    LifeInv (s.setStream k { c with
      cancelled := true
      endedAt := c.endedAt.or (some (s.store.log c.rfqId).length) }) := by
  have hsound := h.fed.sound k c hc
  refine ⟨⟨h.fed.coherent.congr (setStream_sameHoldings hc rfl), fun j d hd => ?_⟩,
    fun j d hd hopen => ?_⟩
  · simp only [setStream] at hd
    split_ifs at hd with hj
    · rw [Option.some.injEq] at hd
      subst hd hj
      exact ⟨hsound.said.cancel (h.unended j c hc), hsound.cursor, hsound.buyer, hsound.live⟩
    · exact (h.fed.sound j d hd).frame rfl fun _ => rfl
  · simp only [setStream] at hd
    split_ifs at hd with hj
    · rw [Option.some.injEq] at hd
      subst hd hj
      exact h.unended j c hc hopen
    · exact h.unended j d hd hopen

theorem LifeInv.step {s s' : StreamServer} (h : LifeInv s) {i : StreamLabel}
    (hstep : s.step i = some s') : LifeInv s' := by
  cases i with
  | connect now r callerDid cursor => exact h.connect hstep
  | append r event => exact h.append hstep
  | closeAll r =>
    rw [StreamServer.step, Option.some.injEq] at hstep
    exact hstep ▸ h.closeAll r
  | abort k =>
    simp only [StreamServer.step] at hstep
    split at hstep
    · rename_i c hc
      split_ifs at hstep with hregistered
      rw [Option.some.injEq] at hstep
      exact hstep ▸ h.cleanup hc hregistered
    · cases hstep
  | cancel k =>
    simp only [StreamServer.step] at hstep
    split at hstep
    · rename_i c hc
      rw [Option.some.injEq] at hstep
      exact hstep ▸ h.cancel hc
    · cases hstep
  | heartbeat k =>
    simp only [StreamServer.step] at hstep
    split at hstep
    · rename_i c hc
      split_ifs at hstep with hregistered
      · rw [Option.some.injEq] at hstep
        rw [Bool.and_eq_true] at hregistered
        exact hstep ▸ h.cleanup hc hregistered.1
      · rw [Option.some.injEq] at hstep
        exact hstep ▸ h
    · cases hstep

theorem init_lifeInv : LifeInv init where
  fed :=
    { coherent :=
        { roles := EventStore.empty_wellFormed
          terminals :=
            { fresh := fun _ _ => rfl
              registered := by simp [init, EventStore.empty]
              distinct := by simp [init, EventStore.empty]
              unused := fun _ _ => rfl
              nodup := fun _ => List.nodup_nil }
          lt := by simp [init]
          held := by simp [init]
          freed := by simp [init]
          records := by simp [init]
          members := by simp [init, EventStore.empty]
          listeners := by simp [init, EventStore.empty]
          ids := List.nodup_nil
          idsLe := by simp [init] }
      sound := by simp [init] }
  unended := by simp [Unended, init]

theorem run_lifeInv (is : List StreamLabel) : LifeInv (run StreamServer.step init is) :=
  run_invariant (fun _ _ _ h hstep => h.step hstep) init_lifeInv is

/-! ### The life of a connection -/

/-- What a connection with a slot has sent, and what it holds or gave back. -/
structure LifeCycle (s : StreamServer) (k : SubscriptionId) (c : EventStream) : Prop where
  said : Said (s.store.log c.rfqId) c
  buyer : ∃ session, deriveState (s.store.log c.rfqId) = .ok (some session) ∧
    session.rfq.buyer = c.buyer
  pending : c.closed = false → Held s k c ∧
    ∀ e ∈ s.store.log c.rfqId, e.type.terminalState = none
  freed : c.closed = true → Freed c ∧ (∀ rec ∈ s.tracker.connections, rec.stream ≠ k) ∧
    ∀ set, k ∉ s.store.members set ∧ k ∉ s.store.terminalMembers set

/-- After every run: each stream has sent its visible events after the cursor up to its end, then
at most one last message, and a closed one gave its slot and both subscriptions back once. -/
theorem stream_lifeCycle (is : List StreamLabel) {k : SubscriptionId} {c : EventStream}
    (hc : (run StreamServer.step init is).stream k = some c) :
    LifeCycle (run StreamServer.step init is) k c := by
  have h := run_lifeInv is
  have hsound := h.fed.sound k c hc
  refine ⟨hsound.said, hsound.buyer, fun hopen => ?_, fun hclosed => ?_⟩
  · exact ⟨h.fed.coherent.held k c hc hopen, h.unended k c hc hopen⟩
  · have hnot : ∀ d, (run StreamServer.step init is).stream k = some d → d.closed ≠ false := by
      intro d hd hopen
      obtain rfl : c = d := by simpa using hc.symm.trans hd
      rw [hopen] at hclosed
      cases hclosed
    refine ⟨h.fed.coherent.freed k c hc hclosed, fun rec hrec hstream => ?_, fun set => ⟨?_, ?_⟩⟩
    · obtain ⟨d, hd, hopen⟩ := h.fed.coherent.record_open hrec
      exact hnot d (hstream ▸ hd) hopen
    · intro hk
      obtain ⟨d, hd, hopen⟩ := h.fed.coherent.members set k hk
      exact hnot d hd hopen
    · intro hk
      obtain ⟨d, hd, hopen, -⟩ := h.fed.coherent.listeners set k hk
      exact hnot d hd hopen

/-- Two connections of one negotiation: the buyer's from the first event on, the seller's with a
cursor, and both live to the end. -/
def sampleStreams : List StreamLabel :=
  (committedLog.take 2).map (.append (js "rfq-1")) ++
    [.connect 0 (js "rfq-1") sampleBuyer none,
      .connect 0 (js "rfq-1") sampleSeller (some (js "e1"))] ++
    (committedLog.drop 2).map (.append (js "rfq-1"))

theorem stream_lifeCycle_sample :
    ∃ c, (run StreamServer.step init sampleStreams).stream 1 = some c ∧ c.sent.length = 8 ∧
      LifeCycle (run StreamServer.step init sampleStreams) 1 c := by
  have hsome : ((run StreamServer.step init sampleStreams).stream 1).map
      (fun c => c.sent.length) = some 8 := by decide +kernel
  obtain ⟨c, hc, hlength⟩ := Option.map_eq_some_iff.mp hsome
  exact ⟨c, hc, hlength, stream_lifeCycle sampleStreams hc⟩

end StreamServer
end GhostBazaar.Engine
