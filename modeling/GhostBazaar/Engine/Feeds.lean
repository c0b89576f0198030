import GhostBazaar.Engine.Delivery

/-! `subscribeFrom`: replay, buffer and live delivery hand over without a gap. -/
namespace GhostBazaar.Engine
open Js Transition

namespace EventStore

variable {σ : Type} [EventStorage σ]

/-! ### An open feed -/

/-- The caller was given `given`, and what it received and what is still buffered follow. -/
structure Follows (k : SubscriptionId) (r callerDid buyer : JsString)
    (afterId : Option JsString) (given : List NegotiationEvent) (h : EventStore σ) (subs : SetId)
    (feed : Feed) : Prop where
  wellFormed : WellFormed h
  attached : Attached h k
  subscription : h.subscription k = some ⟨r, subs, callerDid, buyer, some feed⟩
  running : feed.stopped = false
  mode : feed.mode = if feed.activated then .live else .buffering
  quiet : feed.activated = false → h.received k = []
  flushed : feed.activated = true → feed.buffer = []
  cursor : ValidCursor afterId (h.log r)
  exact : given ++ h.received k ++ feed.buffer =
    visibleTo callerDid buyer (eventsAfter afterId (h.log r))

variable {k : SubscriptionId} {r callerDid buyer : JsString} {afterId : Option JsString}
  {given : List NegotiationEvent} {h : EventStore σ} {subs : SetId} {feed : Feed}

/-- An event of the session goes to the buffer of a feed, or to the caller. -/
theorem Follows.hear (hf : Follows k r callerDid buyer afterId given h subs feed)
    {h' : EventStore σ} (hwell : WellFormed h') (hatt : Attached h' k)
    (hh : Hears h h' k ⟨r, subs, callerDid, buyer, some feed⟩) :
    ∃ feed', Follows k r callerDid buyer afterId given h' subs feed' ∧
      feed'.activated = feed.activated := by
  rcases hh with ⟨hlog, hsub, hreceived⟩ | ⟨e, hlog, hsub, hreceived⟩
  · refine ⟨feed, ?_, rfl⟩
    exact ⟨hwell, hatt, hsub, hf.running, hf.mode, fun ha => hreceived.trans (hf.quiet ha),
      hf.flushed, hlog ▸ hf.cursor, by rw [hreceived, hlog]; exact hf.exact⟩
  simp only at hlog
  have hcursor : ValidCursor afterId (h'.log r) := hlog ▸ hf.cursor.append [e]
  have hexact : visibleTo callerDid buyer (eventsAfter afterId (h'.log r)) =
      given ++ h.received k ++ feed.buffer ++ visibleTo callerDid buyer [e] := by
    rw [hlog, eventsAfter_append hf.cursor, visibleTo_append, hf.exact]
  have hmode := hf.mode
  by_cases hvisible : isEventVisibleTo e callerDid buyer = true
  · have hone : visibleTo callerDid buyer [e] = [e] := by simp [visibleTo, hvisible]
    cases hact : feed.activated with
    | false =>
      rw [hact, if_neg Bool.false_ne_true] at hmode
      simp only [Subscription.notice, hvisible, hmode, if_true] at hsub hreceived
      rw [List.append_nil] at hreceived
      refine ⟨_, ⟨hwell, hatt, hsub, hf.running, ?_, fun _ => hreceived.trans (hf.quiet hact),
        fun ha => ?_, hcursor, ?_⟩, hact⟩
      · simp only [hact, if_neg Bool.false_ne_true]
      · simp [hact] at ha
      · rw [hexact, hone, hreceived, List.append_assoc]
        simp
    | true =>
      rw [hact, if_pos rfl] at hmode
      simp only [Subscription.notice, hvisible, hmode, if_true] at hsub hreceived
      refine ⟨_, ⟨hwell, hatt, hsub, hf.running, ?_, fun ha => ?_, hf.flushed, hcursor, ?_⟩, hact⟩
      · rw [hmode, hact, if_pos rfl]
      · simp [hact] at ha
      · rw [hexact, hone, hreceived, hf.flushed hact]
        simp
  · have hnone : visibleTo callerDid buyer [e] = [] := by simp [visibleTo, hvisible]
    simp only [Subscription.notice, hvisible, if_neg Bool.false_ne_true] at hsub hreceived
    rw [List.append_nil] at hreceived
    refine ⟨feed, ⟨hwell, hatt, hsub, hf.running, hmode, fun ha => hreceived.trans (hf.quiet ha),
      hf.flushed, hcursor, ?_⟩, rfl⟩
    rw [hexact, hnone, hreceived, List.append_nil]

/-- `activate` passes the buffer on and goes live; a second call does nothing. -/
theorem Follows.activate (hf : Follows k r callerDid buyer afterId given h subs feed) :
    ∃ feed', Follows k r callerDid buyer afterId given (h.activate k) subs feed' ∧
      feed'.activated = true := by
  have hwell := hf.wellFormed.congr (activate_sameRoles h k)
  have hatt := hf.attached.congr (activate_sameRoles h k)
  cases hact : feed.activated with
  | true =>
    have hsame : feed.activate = (feed, []) := by simp [Feed.activate, hact]
    refine ⟨feed, ⟨hwell, hatt, ?_, hf.running, hf.mode, fun ha => ?_, hf.flushed, ?_, ?_⟩, hact⟩
    · simp [EventStore.activate, hf.subscription, hsame, setSubscription]
    · simp [hact] at ha
    · simpa [EventStore.activate, hf.subscription, hsame, log, setSubscription] using hf.cursor
    · simpa [EventStore.activate, hf.subscription, hsame, log, setSubscription, received]
        using hf.exact
  | false =>
    have hstart : feed.activate =
        ({ feed with activated := true, buffer := [], mode := .live }, feed.buffer) := by
      simp [Feed.activate, hact, hf.running]
    have hcalls : (h.activate k).received k = h.received k ++ feed.buffer := by
      simp only [EventStore.activate, hf.subscription, hstart]
      rw [received_calls _ h.calls k k _ rfl, if_pos rfl]
      rfl
    have hlog : (h.activate k).log = h.log := by
      simp only [EventStore.activate, hf.subscription]
      rfl
    refine ⟨{ feed with activated := true, buffer := [], mode := .live },
      ⟨hwell, hatt, ?_, hf.running, rfl, fun ha => ?_, fun _ => rfl, ?_, ?_⟩, rfl⟩
    · simp [EventStore.activate, hf.subscription, hstart, setSubscription]
    · simp at ha
    · rw [hlog]
      exact hf.cursor
    · rw [hlog, hcalls, ← hf.exact]
      simp

theorem Follows.call (hf : Follows k r callerDid buyer afterId given h subs feed)
    {c : StoreCall} (hi : Intact h c) (hun : c ≠ .unsubscribe k) :
    ∃ feed', Follows k r callerDid buyer afterId given (h.call c).1 subs feed' ∧
      (feed'.activated = true ↔ feed.activated = true ∨ c = .activate k) := by
  by_cases hact : c = .activate k
  · subst hact
    obtain ⟨feed', hf', hactivated⟩ := hf.activate
    exact ⟨feed', hf', by simp [hactivated]⟩
  · obtain ⟨feed', hf', hsame⟩ := hf.hear (hf.wellFormed.call c)
      (hf.attached.call hf.wellFormed hun hi)
      (call_hears hf.wellFormed hf.subscription hf.attached hun hact)
    exact ⟨feed', hf', by simp [hsame, hact]⟩

/-- Up to its own `unsubscribe`, a feed follows its session. -/
theorem Follows.run (hf : Follows k r callerDid buyer afterId given h subs feed)
    {cs : List StoreCall} (hg : Guarded step Intact h cs) (hun : .unsubscribe k ∉ cs) :
    ∃ feed', Follows k r callerDid buyer afterId given (run step h cs) subs feed' ∧
      (feed'.activated = true ↔ feed.activated = true ∨ .activate k ∈ cs) := by
  induction cs generalizing h feed with
  | nil => exact ⟨feed, hf, by simp⟩
  | cons c cs ih =>
    rw [List.mem_cons, not_or] at hun
    obtain ⟨feed₁, hf₁, hact₁⟩ := hf.call hg.1 (Ne.symm hun.1)
    obtain ⟨feed₂, hf₂, hact₂⟩ := ih hf₁ hg.2 hun.2
    refine ⟨feed₂, hf₂, ?_⟩
    rw [hact₂, hact₁, List.mem_cons]
    tauto

/-! ### A stopped feed -/

/-- The feed was told to stop. -/
structure Stopped (h : EventStore σ) (k : SubscriptionId) (sub : Subscription) (feed : Feed) :
    Prop where
  wellFormed : WellFormed h
  subscription : h.subscription k = some sub
  mode : feed.mode = .stopped
  stopped : feed.stopped = true
  feed : sub.feed = some feed

omit [EventStorage σ] in
theorem Stopped.deaf {sub : Subscription} (hs : Stopped h k sub feed) : Deaf h k := by
  intro sub' hsub' e
  obtain rfl : sub = sub' := by simpa using hs.subscription.symm.trans hsub'
  rw [Subscription.notice, hs.feed]
  simp only [hs.mode]
  split_ifs <;> rfl

omit [EventStorage σ] in
theorem Stopped.lt {sub : Subscription} (hs : Stopped h k sub feed) : k < h.nextId := by
  by_contra hk
  have hnone := hs.wellFormed.fresh k (Nat.le_of_not_lt hk)
  rw [hs.subscription] at hnone
  cases hnone

/-- Nothing restarts a stopped feed. -/
theorem Stopped.call {sub : Subscription} (hs : Stopped h k sub feed) (c : StoreCall) :
    (∃ sub' feed', Stopped (h.call c).1 k sub' feed') ∧
      (h.call c).1.received k = h.received k := by
  have hwell := hs.wellFormed.call c
  have hkeep : (h.call c).1.subscription k = h.subscription k →
      ∃ sub' feed', Stopped (h.call c).1 k sub' feed' := fun hsub =>
    ⟨sub, feed, hwell, hsub.trans hs.subscription, hs.mode, hs.stopped, hs.feed⟩
  have hne := Nat.ne_of_lt hs.lt
  cases c with
  | append r event =>
    obtain ⟨hsub, hreceived⟩ := append_deaf hs.deaf r event
    exact ⟨hkeep hsub, hreceived⟩
  | subscribe r callerDid buyer => exact ⟨hkeep (if_neg hne), rfl⟩
  | subscribeFrom r callerDid buyer afterId =>
    rw [EventStore.call, subscribeFrom_eq] at hkeep ⊢
    exact ⟨hkeep (if_neg hne), rfl⟩
  | activate j =>
    by_cases hj : j = k
    · subst hj
      have hsame : feed.activate = (feed, []) := by simp [Feed.activate, hs.stopped]
      refine ⟨hkeep ?_, ?_⟩
      · simp only [EventStore.call, EventStore.activate, hs.subscription, hs.feed, hsame,
          setSubscription, if_true, Option.some.injEq]
        rw [← hs.feed]
      · simp [EventStore.call, EventStore.activate, hs.subscription, hs.feed, hsame, received,
          setSubscription]
    · simp only [EventStore.call, EventStore.activate] at hkeep ⊢
      split at hkeep
      · split at hkeep
        · refine ⟨hkeep (if_neg (Ne.symm hj)), ?_⟩
          rw [received_calls _ h.calls j k _ rfl, if_neg hj, List.append_nil]
          rfl
        · exact ⟨hkeep rfl, rfl⟩
      · exact ⟨hkeep rfl, rfl⟩
  | unsubscribe j =>
    by_cases hj : j = k
    · subst hj
      refine ⟨⟨{ sub with feed := some feed.stop }, feed.stop, hwell, ?_, rfl, rfl, rfl⟩, ?_⟩
      · simp [EventStore.call, EventStore.unsubscribe, hs.subscription, hs.feed,
          unsubscribeRole, setSubscription]
      · simp [EventStore.call, EventStore.unsubscribe, hs.subscription, unsubscribeRole,
          setSubscription, received]
    · simp only [EventStore.call, EventStore.unsubscribe] at hkeep ⊢
      split at hkeep
      · exact ⟨hkeep rfl, rfl⟩
      · exact ⟨hkeep (if_neg (Ne.symm hj)), rfl⟩
  | unsubscribeTerminal j =>
    simp only [EventStore.call, unsubscribeTerminal] at hkeep ⊢
    split at hkeep
    · exact ⟨hkeep rfl, rfl⟩
    · exact ⟨hkeep rfl, rfl⟩
  | _ => exact ⟨hkeep rfl, rfl⟩

theorem Stopped.run {sub : Subscription} (hs : Stopped h k sub feed) (cs : List StoreCall) :
    (run step h cs).received k = h.received k := by
  induction cs generalizing h sub feed with
  | nil => rfl
  | cons c cs ih =>
    obtain ⟨⟨sub', feed', hs'⟩, hreceived⟩ := hs.call c
    exact (ih hs').trans hreceived

theorem Follows.stop (hf : Follows k r callerDid buyer afterId given h subs feed) :
    ∃ sub, Stopped (h.unsubscribe k) k sub feed.stop ∧
      (h.unsubscribe k).received k = h.received k := by
  refine ⟨⟨r, subs, callerDid, buyer, some feed.stop⟩, ⟨hf.wellFormed.unsubscribe k, ?_, rfl, rfl,
    rfl⟩, ?_⟩
  · simp [EventStore.unsubscribe, hf.subscription, unsubscribeRole, setSubscription]
  · simp [EventStore.unsubscribe, hf.subscription, unsubscribeRole, setSubscription, received]

/-! ### The hand-over -/

/-- What can happen after `subscribeFrom` returned: appends, and calls of its functions. -/
inductive FeedCall where
  | append (rfqId : JsString) (event : NegotiationEvent)
  | activate
  | unsubscribe
  deriving DecidableEq

def FeedCall.on (k : SubscriptionId) : FeedCall → StoreCall
  | .append rfqId event => .append rfqId event
  | .activate => .activate k
  | .unsubscribe => .unsubscribe k

theorem guarded_on {cs : List FeedCall} (hun : .unsubscribe ∉ cs) (h : EventStore σ) :
    Guarded step Intact h (cs.map (FeedCall.on k)) := by
  induction cs generalizing h with
  | nil => trivial
  | cons c cs ih =>
    rw [List.mem_cons, not_or] at hun
    refine ⟨?_, ih hun.2 _⟩
    cases c with
    | append rfqId event => trivial
    | activate => trivial
    | unsubscribe => exact absurd rfl hun.1

theorem mem_map_on {cs : List FeedCall} {c : FeedCall} (hc : c = .activate ∨ c = .unsubscribe) :
    c.on k ∈ cs.map (FeedCall.on k) ↔ c ∈ cs := by
  rw [List.mem_map]
  refine ⟨?_, fun h => ⟨c, h, rfl⟩⟩
  rintro ⟨c', hmem, heq⟩
  rcases hc with rfl | rfl <;> cases c' <;> simp_all [FeedCall.on]

/-- A feed that is not stopped follows its session through its own calls. -/
theorem Follows.calls (hf : Follows k r callerDid buyer afterId given h subs feed)
    {cs : List FeedCall} (hun : .unsubscribe ∉ cs) :
    ∃ feed', Follows k r callerDid buyer afterId given
        (Transition.run step h (cs.map (FeedCall.on k))) subs feed' ∧
      (feed'.activated = true ↔ feed.activated = true ∨ .activate ∈ cs) := by
  have hun' : .unsubscribe k ∉ cs.map (FeedCall.on k) := fun hmem =>
    hun ((mem_map_on (Or.inr rfl)).mp hmem)
  obtain ⟨feed', hf', hact⟩ := hf.run (guarded_on hun h) hun'
  refine ⟨feed', hf', hact.trans (or_congr_right ?_)⟩
  exact mem_map_on (Or.inl rfl)

/-- From the first `unsubscribe` on, nothing is received. -/
theorem Follows.received_stop (hf : Follows k r callerDid buyer afterId given h subs feed)
    {cs : List FeedCall} (hun : .unsubscribe ∉ cs) (cs' : List FeedCall) :
    (Transition.run step h ((cs ++ .unsubscribe :: cs').map (FeedCall.on k))).received k =
      (Transition.run step h (cs.map (FeedCall.on k))).received k := by
  obtain ⟨feed', hf', -⟩ := hf.calls hun
  obtain ⟨sub, hs, hreceived⟩ := hf'.stop
  rw [List.map_append, run_append]
  exact (hs.run (cs'.map (FeedCall.on k))).trans hreceived

theorem subscribeFrom_follows (hwell : WellFormed h) (hfresh : h.received h.nextId = [])
    (hcursor : ValidCursor afterId (h.log r)) :
    Follows h.nextId r callerDid buyer afterId
      (EventStorage.getEvents h.stored r callerDid buyer afterId)
      (h.subscribe r callerDid buyer (some ⟨.buffering, [], false, false⟩))
      ((h.subscribers.get? r).getD h.nextId) ⟨.buffering, [], false, false⟩ := by
  refine ⟨hwell.subscribe _ _ _ _, subscribe_attached _ _ _ _ _, by simp [EventStore.subscribe],
    rfl, rfl, fun _ => hfresh, nofun, hcursor, ?_⟩
  have hreceived : (h.subscribe r callerDid buyer (some ⟨.buffering, [], false, false⟩)).received
      h.nextId = [] := hfresh
  rw [hreceived, EventStorage.getEvents_eq]
  simp only [List.append_nil]
  rfl

/-- Replay, snapshot and live events are the visible events after the cursor, each once and
in the order of the log; nothing comes before `activate` or after `unsubscribe`. -/
theorem subscribeFrom_handover (before : List StoreCall) (r callerDid buyer : JsString)
    (afterId : Option JsString) (calls : List FeedCall)
    (hcursor : ValidCursor afterId ((run step (empty : EventStore σ) before).log r)) :
    let h₀ := run step (empty : EventStore σ) before
    let k := h₀.nextId
    let after (cs : List FeedCall) := run step h₀
      (.subscribeFrom r callerDid buyer afterId :: cs.map (FeedCall.on k))
    ∃ replay buffered,
      (h₀.call (.subscribeFrom r callerDid buyer afterId)).2 = .feed k replay buffered ∧
      (.unsubscribe ∉ calls → .activate ∈ calls →
        replay ++ buffered ++ (after calls).received k =
          visibleTo callerDid buyer (eventsAfter afterId ((after calls).log r))) ∧
      (.activate ∉ calls → (after calls).received k = []) ∧
      ∀ cs cs', calls = cs ++ .unsubscribe :: cs' →
        (after calls).received k = (after cs).received k := by
  intro h₀ k after
  have hfollows : Follows k r callerDid buyer afterId _ _ _ _ :=
    subscribeFrom_follows (run_wellFormed before) (run_fresh before _ le_rfl) hcursor
  have hafter : ∀ cs, after cs = run step
      (h₀.subscribe r callerDid buyer (some ⟨.buffering, [], false, false⟩))
      (cs.map (FeedCall.on k)) := by
    intro cs
    simp only [after, run_cons, next, step, Option.getD_some, EventStore.call, subscribeFrom_eq]
  refine ⟨_, _, by rw [EventStore.call, subscribeFrom_eq], fun hun hact => ?_, fun hact => ?_,
    fun cs cs' hcalls => ?_⟩
  · obtain ⟨feed, hf, hactivated⟩ := hfollows.calls hun
    have hexact := hf.exact
    rw [hf.flushed (hactivated.mpr (Or.inr hact)), List.append_nil] at hexact
    rw [hafter, List.append_nil]
    exact hexact
  · rw [hafter]
    by_cases hun : .unsubscribe ∈ calls
    · obtain ⟨cs, cs', rfl, hcs⟩ := List.eq_append_cons_of_mem hun
      obtain ⟨feed, hf, hactivated⟩ := hfollows.calls hcs
      rw [hfollows.received_stop hcs]
      exact hf.quiet (by simp_all)
    · obtain ⟨feed, hf, hactivated⟩ := hfollows.calls hun
      exact hf.quiet (by simp_all)
  · rw [hafter, hafter, hcalls]
    by_cases hun : .unsubscribe ∈ cs
    · obtain ⟨a, b, rfl, ha⟩ := List.eq_append_cons_of_mem hun
      rw [List.append_assoc, List.cons_append, hfollows.received_stop ha,
        hfollows.received_stop ha]
    · rw [hfollows.received_stop hun]

/-- One event before `activate`, and one after it. -/
theorem subscribeFrom_handover_sample :
    let h₀ := run step (empty : EventStore InMemoryEventStore)
      [.append (js "rfq-1") (sampleExpiry "e1")]
    let calls := [.append (js "rfq-1") (sampleExpiry "e2"), .activate,
      .append (js "rfq-1") (sampleExpiry "e3")]
    let h := run step h₀ (.subscribeFrom (js "rfq-1") (js "did:key:zSeller") (js "did:key:zBuyer")
      (some (js "e1")) :: calls.map (FeedCall.on 0))
    h.received 0 = [sampleExpiry "e2", sampleExpiry "e3"] := by
  intro h₀ calls h
  have hcursor : ValidCursor (some (js "e1")) (h₀.log (js "rfq-1")) := by
    rintro id ⟨⟩
    exact ⟨sampleExpiry "e1", by decide, rfl⟩
  obtain ⟨replay, buffered, hcall, hexact, -⟩ := subscribeFrom_handover
    [.append (js "rfq-1") (sampleExpiry "e1")] (js "rfq-1") (js "did:key:zSeller")
    (js "did:key:zBuyer") (some (js "e1")) calls hcursor
  have hnone : StoreResult.feed 0 [] [] = .feed 0 replay buffered := Eq.trans (by decide) hcall
  obtain ⟨-, rfl, rfl⟩ := StoreResult.feed.inj hnone
  exact (hexact (by decide) (by decide)).trans (by decide)

end EventStore
end GhostBazaar.Engine
