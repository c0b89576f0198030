import GhostBazaar.Engine.Subscriptions

/-! What reaches a subscriber: every event of its session that it may see, once and in
order, as long as nothing drops the Set it is in. -/
namespace GhostBazaar.Engine
open Js Transition

/-! ### Which subscriptions a session has -/

/-- The part of a subscription that never changes. -/
def Subscription.role (sub : Subscription) : JsString × SetId × JsString × JsString :=
  (sub.rfqId, sub.subs, sub.callerDid, sub.buyer)

/-- What a subscription holds back. -/
def Subscription.pending (sub : Subscription) : List NegotiationEvent :=
  (sub.feed.map Feed.buffer).getD []

theorem Subscription.notice_role (sub : Subscription) (event : NegotiationEvent) :
    (sub.notice event).1.role = sub.role := by
  unfold Subscription.notice
  split_ifs
  · split
    · rfl
    · split <;> rfl
  · rfl

namespace EventStore

variable {σ : Type}

structure WellFormed (h : EventStore σ) : Prop where
  fresh : ∀ k, h.nextId ≤ k → h.subscription k = none
  captured : ∀ k sub, h.subscription k = some sub → sub.subs < h.nextId
  registered : ∀ r set, h.subscribers.get? r = some set → set < h.nextId
  /-- The Set of a session has subscriptions of this session only. -/
  owner : ∀ r set k sub, h.subscribers.get? r = some set → h.subscription k = some sub →
    sub.subs = set → sub.rfqId = r
  distinct : ∀ q r set, h.subscribers.get? q = some set → h.subscribers.get? r = some set → q = r
  member : ∀ set k, k ∈ h.members set → ∃ sub, h.subscription k = some sub ∧ sub.subs = set
  nodup : ∀ set, (h.members set).Nodup

/-- The subscription is in the Set that its session has. -/
def Attached (h : EventStore σ) (k : SubscriptionId) : Prop :=
  ∃ sub, h.subscription k = some sub ∧ h.subscribers.get? sub.rfqId = some sub.subs ∧
    k ∈ h.members sub.subs

/-- Two stores with the same Sets of the same subscriptions. -/
structure SameRoles (h h' : EventStore σ) : Prop where
  subscribers : h'.subscribers = h.subscribers
  members : h'.members = h.members
  nextId : h'.nextId = h.nextId
  role : ∀ k, (h'.subscription k).map Subscription.role =
    (h.subscription k).map Subscription.role

theorem SameRoles.refl (h : EventStore σ) : SameRoles h h := ⟨rfl, rfl, rfl, fun _ => rfl⟩

theorem SameRoles.trans {h h' h'' : EventStore σ} (a : SameRoles h h') (b : SameRoles h' h'') :
    SameRoles h h'' :=
  ⟨b.subscribers.trans a.subscribers, b.members.trans a.members, b.nextId.trans a.nextId,
    fun k => (b.role k).trans (a.role k)⟩

theorem SameRoles.exists_old {h h' : EventStore σ} (hr : SameRoles h h') {k : SubscriptionId}
    {sub : Subscription} (hsub : h'.subscription k = some sub) :
    ∃ old, h.subscription k = some old ∧ old.role = sub.role := by
  have hk := hr.role k
  rw [hsub, Option.map_some, eq_comm, Option.map_eq_some_iff] at hk
  exact hk

theorem SameRoles.exists_new {h h' : EventStore σ} (hr : SameRoles h h') {k : SubscriptionId}
    {sub : Subscription} (hsub : h.subscription k = some sub) :
    ∃ new, h'.subscription k = some new ∧ new.role = sub.role := by
  have hk := hr.role k
  rw [hsub, Option.map_some, Option.map_eq_some_iff] at hk
  exact hk

theorem role_inj {a b : Subscription} (h : a.role = b.role) :
    a.rfqId = b.rfqId ∧ a.subs = b.subs := by
  simp only [Subscription.role, Prod.mk.injEq] at h
  exact ⟨h.1, h.2.1⟩

theorem WellFormed.congr {h h' : EventStore σ} (hw : WellFormed h) (hr : SameRoles h h') :
    WellFormed h' where
  fresh k hk := by
    have hrole := hr.role k
    rw [hw.fresh k (hr.nextId ▸ hk), Option.map_none, Option.map_eq_none_iff] at hrole
    exact hrole
  captured k sub hsub := by
    obtain ⟨old, hold, hrole⟩ := hr.exists_old hsub
    rw [hr.nextId, ← (role_inj hrole).2]
    exact hw.captured k old hold
  registered r set hset := by
    rw [hr.nextId]
    rw [hr.subscribers] at hset
    exact hw.registered r set hset
  owner r set k sub hset hsub hsubs := by
    obtain ⟨old, hold, hrole⟩ := hr.exists_old hsub
    rw [hr.subscribers] at hset
    rw [← (role_inj hrole).1]
    exact hw.owner r set k old hset hold ((role_inj hrole).2.trans hsubs)
  distinct q r set hq hset := by
    rw [hr.subscribers] at hq hset
    exact hw.distinct q r set hq hset
  member set k hk := by
    rw [hr.members] at hk
    obtain ⟨old, hold, hsubs⟩ := hw.member set k hk
    obtain ⟨sub, hsub, hrole⟩ := hr.exists_new hold
    exact ⟨sub, hsub, (role_inj hrole).2.trans hsubs⟩
  nodup set := by
    rw [hr.members]
    exact hw.nodup set

theorem Attached.congr {h h' : EventStore σ} {k : SubscriptionId} (ha : Attached h k)
    (hr : SameRoles h h') : Attached h' k := by
  obtain ⟨old, hold, hget, hmem⟩ := ha
  obtain ⟨sub, hsub, hrole⟩ := hr.exists_new hold
  obtain ⟨hrfq, hsubs⟩ := role_inj hrole
  refine ⟨sub, hsub, ?_, ?_⟩
  · rw [hr.subscribers, hrfq, hget, hsubs]
  · rw [hr.members, hsubs]
    exact hmem

/-! ### Calls that leave the Sets as they are -/

theorem setSubscription_sameRoles {h : EventStore σ} {k : SubscriptionId}
    {sub sub' : Subscription} (hsub : h.subscription k = some sub) (hrole : sub'.role = sub.role) :
    SameRoles h (h.setSubscription k sub') := by
  refine ⟨rfl, rfl, rfl, fun j => ?_⟩
  by_cases hj : j = k
  · simp [setSubscription, hj, hsub, hrole]
  · simp [setSubscription, hj]

theorem deliver_sameRoles (event : NegotiationEvent) (h : EventStore σ) (k : SubscriptionId) :
    SameRoles h (h.deliver event k) := by
  unfold deliver
  cases hsub : h.subscription k with
  | none => exact .refl h
  | some sub =>
    have hset := setSubscription_sameRoles hsub (sub.notice_role event)
    exact ⟨hset.subscribers, hset.members, hset.nextId, hset.role⟩

theorem foldl_deliver_sameRoles (event : NegotiationEvent) (h : EventStore σ)
    (ks : List SubscriptionId) : SameRoles h (ks.foldl (deliver event) h) := by
  induction ks generalizing h with
  | nil => exact .refl h
  | cons k ks ih => exact (deliver_sameRoles event h k).trans (ih _)

theorem notify_sameRoles (h : EventStore σ) (r : JsString) (event : NegotiationEvent) :
    SameRoles h (h.notify r event) := by
  unfold notify
  split
  · exact .refl h
  · exact foldl_deliver_sameRoles event h _

theorem notifyTerminal_sameRoles (h : EventStore σ) (r : JsString) (event : NegotiationEvent) :
    SameRoles h (h.notifyTerminal r event) := by
  unfold notifyTerminal
  split
  · exact ⟨rfl, rfl, rfl, fun _ => rfl⟩
  · exact .refl h

theorem activate_sameRoles (h : EventStore σ) (k : SubscriptionId) :
    SameRoles h (h.activate k) := by
  unfold activate
  split
  · rename_i sub hsub
    split
    · rename_i feed _
      have hset := setSubscription_sameRoles hsub
        (show Subscription.role { sub with feed := some feed.activate.1 } = sub.role from rfl)
      exact ⟨hset.subscribers, hset.members, hset.nextId, hset.role⟩
    · exact .refl h
  · exact .refl h

theorem append_sameRoles [EventStorage σ] (h : EventStore σ) (r : JsString)
    (event : NegotiationEvent) :
    SameRoles h (h.append r event).1 := by
  unfold append
  split
  · exact .refl h
  · rename_i stored frozenEvent _
    have hstored : SameRoles h { h with stored } := ⟨rfl, rfl, rfl, fun _ => rfl⟩
    exact hstored.trans ((notify_sameRoles _ r frozenEvent).trans
      (notifyTerminal_sameRoles _ r frozenEvent))

/-! ### subscribe and unsubscribe -/

theorem empty_wellFormed [EventStorage σ] : WellFormed (empty : EventStore σ) where
  fresh _ _ := rfl
  captured := by simp [empty]
  registered := by simp [empty]
  owner := by simp [empty]
  distinct := by simp [empty]
  member := by simp [empty]
  nodup := by simp [empty]

theorem WellFormed.setFor_le {h : EventStore σ} (hw : WellFormed h) (r : JsString) :
    (h.subscribers.get? r).getD h.nextId ≤ h.nextId := by
  cases hset : h.subscribers.get? r with
  | none => exact le_rfl
  | some set => exact (hw.registered r set hset).le

/-- The Set that a session has, or a new one, is the Set of no other session. -/
theorem WellFormed.setFor_owner {h : EventStore σ} (hw : WellFormed h) {q r : JsString}
    {set : SetId} (hq : h.subscribers.get? q = some set)
    (hset : set = (h.subscribers.get? r).getD h.nextId) : q = r := by
  cases hr : h.subscribers.get? r with
  | none =>
    have hlt := hw.registered q set hq
    rw [hset, hr, Option.getD_none] at hlt
    exact absurd hlt (lt_irrefl _)
  | some set' =>
    rw [hr, Option.getD_some] at hset
    exact hw.distinct q r set hq (hset ▸ hr)

theorem WellFormed.subscribe {h : EventStore σ} (hw : WellFormed h)
    (r callerDid buyer : JsString) (feed : Option Feed) :
    WellFormed (h.subscribe r callerDid buyer feed) := by
  have hle := hw.setFor_le r
  have hfresh : ∀ set, h.nextId ∉ h.members set := fun set hmem => by
    obtain ⟨sub, hsub, -⟩ := hw.member set _ hmem
    rw [hw.fresh _ le_rfl] at hsub
    cases hsub
  have hrfq : ∀ k sub, h.subscription k = some sub →
      sub.subs = (h.subscribers.get? r).getD h.nextId → sub.rfqId = r := by
    intro k sub hsub hsubs
    cases hset : h.subscribers.get? r with
    | none =>
      have hlt := hw.captured k sub hsub
      rw [hsubs, hset, Option.getD_none] at hlt
      exact absurd hlt (lt_irrefl _)
    | some set => exact hw.owner r set k sub hset hsub (by rw [hsubs, hset, Option.getD_some])
  refine
    { fresh := fun k hk => ?_
      captured := fun k sub hsub => ?_
      registered := fun q set hset => ?_
      owner := fun q set k sub hset hsub hsubs => ?_
      distinct := fun q q' set hset hset' => ?_
      member := fun set k hk => ?_
      nodup := fun set => ?_ }
  · simp only [EventStore.subscribe] at hk ⊢
    rw [if_neg (Nat.ne_of_gt hk), hw.fresh k (Nat.le_of_succ_le hk)]
  · simp only [EventStore.subscribe] at hsub ⊢
    split_ifs at hsub
    · rw [Option.some.injEq] at hsub
      rw [← hsub]
      exact Nat.lt_succ_of_le hle
    · exact Nat.lt_succ_of_lt (hw.captured k sub hsub)
  · simp only [EventStore.subscribe, JsMap.get?_set] at hset ⊢
    split_ifs at hset
    · rw [Option.some.injEq] at hset
      exact hset ▸ Nat.lt_succ_of_le hle
    · exact Nat.lt_succ_of_lt (hw.registered q set hset)
  · simp only [EventStore.subscribe, JsMap.get?_set] at hset hsub
    split_ifs at hsub with hk
    · rw [Option.some.injEq] at hsub
      subst hsub
      split_ifs at hset with hq
      · exact hq.symm
      · exact (hw.setFor_owner hset hsubs.symm).symm
    · split_ifs at hset with hq
      · rw [Option.some.injEq] at hset
        exact (hrfq k sub hsub (hsubs.trans hset.symm)).trans hq.symm
      · exact hw.owner q set k sub hset hsub hsubs
  · simp only [EventStore.subscribe, JsMap.get?_set] at hset hset'
    split_ifs at hset hset' with hq hq' hq'
    · exact hq.trans hq'.symm
    · rw [Option.some.injEq] at hset
      exact hq.trans (hw.setFor_owner hset' hset.symm).symm
    · rw [Option.some.injEq] at hset'
      exact (hw.setFor_owner hset hset'.symm).trans hq'.symm
    · exact hw.distinct q q' set hset hset'
  · simp only [EventStore.subscribe] at hk ⊢
    have hold : k ∈ h.members set → ∃ sub, (if k = h.nextId then
        some ⟨r, (h.subscribers.get? r).getD h.nextId, callerDid, buyer, feed⟩
        else h.subscription k) = some sub ∧ sub.subs = set := by
      intro hmem
      have hne : k ≠ h.nextId := fun heq => hfresh set (heq ▸ hmem)
      rw [if_neg hne]
      exact hw.member set k hmem
    split_ifs at hk with hset
    · rcases List.mem_append.mp hk with hmem | hmem
      · exact hold (hset ▸ hmem)
      · rw [if_pos (List.mem_singleton.mp hmem)]
        exact ⟨_, rfl, hset.symm⟩
    · exact hold hk
  · simp only [EventStore.subscribe]
    split_ifs with hset
    · rw [List.nodup_append]
      refine ⟨hw.nodup _, List.nodup_singleton _, fun a ha b hb hab => hfresh set ?_⟩
      rw [hab, List.mem_singleton.mp hb] at ha
      exact hset ▸ ha
    · exact hw.nodup set

theorem WellFormed.unsubscribeRole {h : EventStore σ} (hw : WellFormed h) (k : SubscriptionId)
    (sub : Subscription) : WellFormed (h.unsubscribeRole k sub) := by
  have hget : ∀ r set, (h.unsubscribeRole k sub).subscribers.get? r = some set →
      h.subscribers.get? r = some set := by
    intro r set hset
    simp only [EventStore.unsubscribeRole] at hset
    split_ifs at hset
    · rw [JsMap.get?_delete] at hset
      split_ifs at hset
      exact hset
    · exact hset
  exact
    { fresh := hw.fresh
      captured := hw.captured
      registered := fun r set hset => hw.registered r set (hget r set hset)
      owner := fun r set j sub' hset => hw.owner r set j sub' (hget r set hset)
      distinct := fun q r set hq hr => hw.distinct q r set (hget q set hq) (hget r set hr)
      member := fun set j hj => by
        simp only [EventStore.unsubscribeRole] at hj ⊢
        split_ifs at hj with hset
        · exact hset ▸ hw.member _ j (List.mem_of_mem_erase hj)
        · exact hw.member set j hj
      nodup := fun set => by
        simp only [EventStore.unsubscribeRole]
        split_ifs
        · exact (hw.nodup _).erase k
        · exact hw.nodup set }

theorem stop_sameRoles {h : EventStore σ} {k : SubscriptionId} {sub : Subscription}
    (hsub : h.subscription k = some sub) :
    SameRoles h (h.setSubscription k { sub with feed := sub.feed.map Feed.stop }) :=
  setSubscription_sameRoles hsub rfl

theorem WellFormed.unsubscribe {h : EventStore σ} (hw : WellFormed h) (k : SubscriptionId) :
    WellFormed (h.unsubscribe k) := by
  unfold EventStore.unsubscribe
  split
  · exact hw
  · rename_i sub hsub
    exact (hw.congr (stop_sameRoles hsub)).unsubscribeRole k _

/-- The buffer of the new feed is still empty when the snapshot is taken. -/
theorem subscribeFrom_eq [EventStorage σ] (h : EventStore σ) (r callerDid buyer : JsString)
    (afterId : Option JsString) : h.subscribeFrom r callerDid buyer afterId =
      (h.subscribe r callerDid buyer (some ⟨.buffering, [], false, false⟩),
        .feed h.nextId (EventStorage.getEvents h.stored r callerDid buyer afterId) []) := by
  have hsub : (h.subscribe r callerDid buyer (some ⟨.buffering, [], false, false⟩)).subscription
      h.nextId = some ⟨r, (h.subscribers.get? r).getD h.nextId, callerDid, buyer,
        some ⟨.buffering, [], false, false⟩⟩ := by simp [EventStore.subscribe]
  simp only [subscribeFrom, hsub, setSubscription, Prod.mk.injEq]
  refine ⟨?_, rfl⟩
  simp only [EventStore.subscribe, EventStore.mk.injEq, true_and, and_true]
  funext j
  split_ifs <;> rfl

theorem WellFormed.call [EventStorage σ] {h : EventStore σ} (hw : WellFormed h) (c : StoreCall) :
    WellFormed (h.call c).1 := by
  cases c with
  | append r event => exact hw.congr (append_sameRoles h r event)
  | subscribe r callerDid buyer => exact hw.subscribe r callerDid buyer none
  | subscribeFrom r callerDid buyer afterId =>
    rw [EventStore.call, subscribeFrom_eq]
    exact hw.subscribe r callerDid buyer _
  | activate k => exact hw.congr (activate_sameRoles h k)
  | unsubscribe k => exact hw.unsubscribe k
  | subscribeTerminal r listener => exact hw.congr ⟨rfl, rfl, rfl, fun _ => rfl⟩
  | unsubscribeTerminal k =>
    refine hw.congr ?_
    simp only [EventStore.call, unsubscribeTerminal]
    split
    · exact .refl h
    · exact ⟨rfl, rfl, rfl, fun _ => rfl⟩
  | _ => exact hw

/-! ### Attached subscriptions -/

theorem Attached.lt {h : EventStore σ} (hw : WellFormed h) {k : SubscriptionId}
    (ha : Attached h k) : k < h.nextId := by
  obtain ⟨sub, hsub, -⟩ := ha
  by_contra hk
  rw [hw.fresh k (Nat.le_of_not_lt hk)] at hsub
  cases hsub

theorem Attached.subscribe {h : EventStore σ} (hw : WellFormed h) {k : SubscriptionId}
    (ha : Attached h k) (r callerDid buyer : JsString) (feed : Option Feed) :
    Attached (h.subscribe r callerDid buyer feed) k := by
  have hlt := ha.lt hw
  obtain ⟨sub, hsub, hget, hmem⟩ := ha
  refine ⟨sub, ?_, ?_, ?_⟩
  · simp only [EventStore.subscribe]
    rw [if_neg (Nat.ne_of_lt hlt), hsub]
  · simp only [EventStore.subscribe, JsMap.get?_set]
    split_ifs with hr
    · rw [← hr, hget, Option.getD_some]
    · exact hget
  · simp only [EventStore.subscribe]
    split_ifs with hset
    · exact List.mem_append_left _ (hset ▸ hmem)
    · exact hmem

theorem subscribe_attached (h : EventStore σ) (r callerDid buyer : JsString)
    (feed : Option Feed) : Attached (h.subscribe r callerDid buyer feed) h.nextId := by
  refine ⟨⟨r, (h.subscribers.get? r).getD h.nextId, callerDid, buyer, feed⟩, ?_, ?_, ?_⟩
  · simp [EventStore.subscribe]
  · simp [EventStore.subscribe]
  · simp [EventStore.subscribe]

/-- The call deletes the Set of a session only if it is the one that was captured. -/
def Intact (h : EventStore σ) : StoreCall → Prop
  | .unsubscribe j => ∀ sub set, h.subscription j = some sub →
      (h.members sub.subs).erase j = [] → h.subscribers.get? sub.rfqId = some set →
      set = sub.subs
  | _ => True

theorem Attached.unsubscribe {h : EventStore σ} {j k : SubscriptionId} (ha : Attached h k)
    (hne : j ≠ k) (hi : Intact h (.unsubscribe j)) : Attached (h.unsubscribe j) k := by
  unfold EventStore.unsubscribe
  split
  · exact ha
  rename_i stopped hj
  obtain ⟨sub, hsub, hget, hmem⟩ := ha.congr (stop_sameRoles hj)
  refine ⟨sub, hsub, ?_, ?_⟩
  · simp only [unsubscribeRole]
    split_ifs with hrest
    · rw [JsMap.get?_delete]
      split_ifs with hr
      · -- the entry of the session is deleted, so its Set was captured, and `k` is still in it
        have hset := hi stopped sub.subs hj hrest (hr ▸ hget)
        have hk : k ∈ (h.members stopped.subs).erase j :=
          (List.mem_erase_of_ne hne.symm).mpr (hset ▸ hmem)
        have hrest : (h.members stopped.subs).erase j = [] := hrest
        rw [hrest] at hk
        exact absurd hk (List.not_mem_nil)
      · exact hget
    · exact hget
  · simp only [unsubscribeRole]
    split_ifs with hset
    · exact (List.mem_erase_of_ne hne.symm).mpr (hset ▸ hmem)
    · exact hmem

theorem Attached.call [EventStorage σ] {h : EventStore σ} (hw : WellFormed h) {k : SubscriptionId}
    (ha : Attached h k) {c : StoreCall} (hown : c ≠ .unsubscribe k) (hi : Intact h c) :
    Attached (h.call c).1 k := by
  cases c with
  | append r event => exact ha.congr (append_sameRoles h r event)
  | subscribe r callerDid buyer => exact ha.subscribe hw r callerDid buyer none
  | subscribeFrom r callerDid buyer afterId =>
    rw [EventStore.call, subscribeFrom_eq]
    exact ha.subscribe hw r callerDid buyer _
  | activate j => exact ha.congr (activate_sameRoles h j)
  | unsubscribe j =>
    have hne : j ≠ k := fun heq => hown (by rw [heq])
    exact ha.unsubscribe hne hi
  | subscribeTerminal r listener => exact ha.congr ⟨rfl, rfl, rfl, fun _ => rfl⟩
  | unsubscribeTerminal j =>
    refine ha.congr ?_
    simp only [EventStore.call, unsubscribeTerminal]
    split
    · exact .refl h
    · exact ⟨rfl, rfl, rfl, fun _ => rfl⟩
  | _ => exact ha

/-! ### What one call delivers -/

/-- Nothing happened to the session of a subscription, or its listener got one event. -/
inductive Hears [EventStorage σ] (h h' : EventStore σ) (k : SubscriptionId) (sub : Subscription) : Prop where
  | nothing (hlog : h'.log sub.rfqId = h.log sub.rfqId) (hsub : h'.subscription k = some sub)
      (hreceived : h'.received k = h.received k)
  | event (e : NegotiationEvent) (hlog : h'.log sub.rfqId = h.log sub.rfqId ++ [e])
      (hsub : h'.subscription k = some (sub.notice e).1)
      (hreceived : h'.received k = h.received k ++ (sub.notice e).2)

theorem received_calls (h : EventStore σ) (calls : List Delivery) (j k : SubscriptionId)
    (es : List NegotiationEvent) (hcalls : h.calls = calls ++ es.map (.event j)) :
    h.received k = received { h with calls } k ++ if j = k then es else [] := by
  simp only [received, hcalls, List.filterMap_append, List.filterMap_map]
  congr 1
  split_ifs with hj
  · simp [hj]
  · simp [hj]

theorem deliver_other (event : NegotiationEvent) (h : EventStore σ) {j k : SubscriptionId}
    (hne : j ≠ k) : (h.deliver event j).subscription k = h.subscription k ∧
      (h.deliver event j).received k = h.received k := by
  unfold deliver
  split
  · exact ⟨rfl, rfl⟩
  · rename_i sub _
    refine ⟨by simp [setSubscription, hne.symm], ?_⟩
    rw [received_calls _ h.calls j k _ rfl, if_neg hne, List.append_nil]
    rfl

theorem deliver_self (event : NegotiationEvent) {h : EventStore σ} {k : SubscriptionId}
    {sub : Subscription} (hsub : h.subscription k = some sub) :
    (h.deliver event k).subscription k = some (sub.notice event).1 ∧
      (h.deliver event k).received k = h.received k ++ (sub.notice event).2 := by
  unfold deliver
  rw [hsub]
  refine ⟨by simp [setSubscription], ?_⟩
  rw [received_calls _ h.calls k k _ rfl, if_pos rfl]
  rfl

theorem foldl_deliver_notMem (event : NegotiationEvent) {ks : List SubscriptionId}
    {k : SubscriptionId} (hk : k ∉ ks) (h : EventStore σ) :
    (ks.foldl (deliver event) h).subscription k = h.subscription k ∧
      (ks.foldl (deliver event) h).received k = h.received k := by
  induction ks generalizing h with
  | nil => exact ⟨rfl, rfl⟩
  | cons j ks ih =>
    rw [List.mem_cons, not_or] at hk
    obtain ⟨hsub, hreceived⟩ := ih hk.2 (h.deliver event j)
    obtain ⟨hsub', hreceived'⟩ := deliver_other event h (Ne.symm hk.1)
    exact ⟨hsub.trans hsub', hreceived.trans hreceived'⟩

/-- A listener is called once in the loop over a Set. -/
theorem foldl_deliver_mem {event : NegotiationEvent} {ks : List SubscriptionId}
    {k : SubscriptionId} (hnodup : ks.Nodup) (hk : k ∈ ks) {h : EventStore σ}
    {sub : Subscription} (hsub : h.subscription k = some sub) :
    (ks.foldl (deliver event) h).subscription k = some (sub.notice event).1 ∧
      (ks.foldl (deliver event) h).received k = h.received k ++ (sub.notice event).2 := by
  induction ks generalizing h with
  | nil => cases hk
  | cons j ks ih =>
    rw [List.nodup_cons] at hnodup
    rw [List.foldl_cons]
    by_cases hj : j = k
    · subst hj
      obtain ⟨hrest, hreceived⟩ := foldl_deliver_notMem event hnodup.1
        (h.deliver event j)
      rw [hrest, hreceived]
      exact deliver_self event hsub
    · obtain ⟨hsub', hreceived⟩ := deliver_other event h hj
      obtain ⟨hnext, hnext'⟩ := ih hnodup.2 ((List.mem_cons.mp hk).resolve_left (Ne.symm hj))
        (hsub'.trans hsub)
      exact ⟨hnext, by rw [hnext', hreceived]⟩

/-- A subscription that lets no event through. -/
def Deaf (h : EventStore σ) (k : SubscriptionId) : Prop :=
  ∀ sub, h.subscription k = some sub → ∀ e, sub.notice e = (sub, [])

theorem Deaf.congr {h h' : EventStore σ} {k : SubscriptionId} (hd : Deaf h k)
    (hsub : h'.subscription k = h.subscription k) : Deaf h' k :=
  fun sub hsub' => hd sub (hsub ▸ hsub')

theorem foldl_deliver_deaf {event : NegotiationEvent} {k : SubscriptionId} {h : EventStore σ}
    (hd : Deaf h k) (ks : List SubscriptionId) :
    (ks.foldl (deliver event) h).subscription k = h.subscription k ∧
      (ks.foldl (deliver event) h).received k = h.received k := by
  induction ks generalizing h with
  | nil => exact ⟨rfl, rfl⟩
  | cons j ks ih =>
    have hstep : (h.deliver event j).subscription k = h.subscription k ∧
        (h.deliver event j).received k = h.received k := by
      by_cases hj : j = k
      · subst hj
        cases hsub : h.subscription j with
        | none => simp [deliver, hsub]
        | some sub =>
          obtain ⟨hself, hreceived⟩ := deliver_self event hsub
          rw [hd sub hsub event] at hself hreceived
          exact ⟨hself, by rw [hreceived, List.append_nil]⟩
      · exact deliver_other event h hj
    obtain ⟨hsub, hreceived⟩ := ih (hd.congr hstep.1)
    exact ⟨hsub.trans hstep.1, hreceived.trans hstep.2⟩

theorem foldl_deliver_stored (event : NegotiationEvent) (h : EventStore σ)
    (ks : List SubscriptionId) : (ks.foldl (deliver event) h).stored = h.stored := by
  induction ks generalizing h with
  | nil => rfl
  | cons k ks ih =>
    rw [List.foldl_cons, ih]
    unfold deliver
    split <;> rfl

theorem notify_stored (h : EventStore σ) (r : JsString) (event : NegotiationEvent) :
    (h.notify r event).stored = h.stored := by
  unfold notify
  split
  · rfl
  · exact foldl_deliver_stored event h _

theorem notifyTerminal_frame (h : EventStore σ) (r : JsString) (event : NegotiationEvent)
    (k : SubscriptionId) : (h.notifyTerminal r event).stored = h.stored ∧
      (h.notifyTerminal r event).subscription = h.subscription ∧
      (h.notifyTerminal r event).received k = h.received k := by
  unfold notifyTerminal
  split
  · refine ⟨rfl, rfl, ?_⟩
    simp [received, List.filterMap_append, List.filterMap_map]
  · exact ⟨rfl, rfl, rfl⟩

/-- A subscription in the Set of its session hears of the events of the session alone. -/
theorem notify_attached {h : EventStore σ} (hw : WellFormed h) {k : SubscriptionId}
    {sub : Subscription} (hsub : h.subscription k = some sub)
    (hget : h.subscribers.get? sub.rfqId = some sub.subs) (hmem : k ∈ h.members sub.subs)
    (r : JsString) (event : NegotiationEvent) :
    (r = sub.rfqId → (h.notify r event).subscription k = some (sub.notice event).1 ∧
      (h.notify r event).received k = h.received k ++ (sub.notice event).2) ∧
    (r ≠ sub.rfqId → (h.notify r event).subscription k = h.subscription k ∧
      (h.notify r event).received k = h.received k) := by
  refine ⟨fun hr => ?_, fun hr => ?_⟩
  · rw [notify, hr, hget]
    exact foldl_deliver_mem (hw.nodup _) hmem hsub
  · unfold notify
    split
    · exact ⟨rfl, rfl⟩
    · rename_i set hset
      refine foldl_deliver_notMem event (fun hk => hr ?_) h
      obtain ⟨sub', hsub', hset'⟩ := hw.member set k hk
      obtain rfl : sub = sub' := by simpa using hsub.symm.trans hsub'
      exact (hw.owner r set k sub hset hsub hset').symm

theorem append_hears [EventStorage σ] {h : EventStore σ} (hw : WellFormed h)
    {k : SubscriptionId} {sub : Subscription} (hsub : h.subscription k = some sub)
    (ha : Attached h k) (r : JsString) (event : NegotiationEvent) :
    Hears h (h.append r event).1 k sub := by
  obtain ⟨sub', hsub', hget, hmem⟩ := ha
  obtain rfl : sub = sub' := by simpa using hsub.symm.trans hsub'
  cases happend : EventStorage.append h.stored r event with
  | error message =>
    rw [append, happend]
    exact .nothing rfl hsub rfl
  | ok result =>
    obtain ⟨stored, frozenEvent⟩ := result
    have hwell : WellFormed { h with stored } := hw.congr ⟨rfl, rfl, rfl, fun _ => rfl⟩
    obtain ⟨hsame, hother⟩ := notify_attached hwell hsub hget hmem r frozenEvent
    obtain ⟨hstored, hframe, hreceived⟩ :=
      notifyTerminal_frame (notify { h with stored } r frozenEvent) r frozenEvent k
    have hlog := EventStorage.getAllEvents_append happend sub.rfqId
    rw [notify_stored] at hstored
    rw [append, happend]
    by_cases hr : r = sub.rfqId
    · obtain ⟨hk, hk'⟩ := hsame hr
      rw [if_pos hr.symm] at hlog
      refine .event frozenEvent ?_ (by rw [hframe, hk]) (by rw [hreceived, hk']; rfl)
      rw [EventStore.log, hstored, hlog, EventStore.log]
    · obtain ⟨hk, hk'⟩ := hother hr
      rw [if_neg (Ne.symm hr)] at hlog
      refine .nothing ?_ (by rw [hframe, hk, hsub]) (by rw [hreceived, hk']; rfl)
      rw [EventStore.log, hstored, hlog, EventStore.log]

theorem append_deaf [EventStorage σ] {h : EventStore σ} {k : SubscriptionId} (hd : Deaf h k)
    (r : JsString) (event : NegotiationEvent) :
    (h.append r event).1.subscription k = h.subscription k ∧
      (h.append r event).1.received k = h.received k := by
  unfold append
  split
  · exact ⟨rfl, rfl⟩
  · rename_i stored frozenEvent _
    obtain ⟨-, hframe, hreceived⟩ :=
      notifyTerminal_frame (notify { h with stored } r frozenEvent) r frozenEvent k
    rw [hframe, hreceived, notify]
    split
    · exact ⟨rfl, rfl⟩
    · exact foldl_deliver_deaf (h := { h with stored }) hd _

/-- Every call other than the subscription's own lets it hear of appends alone. -/
theorem call_hears [EventStorage σ] {h : EventStore σ} (hw : WellFormed h)
    {k : SubscriptionId} {sub : Subscription} (hsub : h.subscription k = some sub)
    (ha : Attached h k) {c : StoreCall} (hun : c ≠ .unsubscribe k) (hact : c ≠ .activate k) :
    Hears h (h.call c).1 k sub := by
  have hlt := ha.lt hw
  cases c with
  | append r event => exact append_hears hw hsub ha r event
  | subscribe r callerDid buyer =>
    refine .nothing rfl ?_ rfl
    simp only [call, EventStore.subscribe]
    rw [if_neg (Nat.ne_of_lt hlt), hsub]
  | subscribeFrom r callerDid buyer afterId =>
    rw [call, subscribeFrom_eq]
    refine .nothing rfl ?_ rfl
    simp only [EventStore.subscribe]
    rw [if_neg (Nat.ne_of_lt hlt), hsub]
  | activate j =>
    have hne : k ≠ j := fun heq => hact (by rw [heq])
    simp only [call, activate]
    split
    · split
      · refine .nothing rfl (by simp [setSubscription, hne, hsub]) ?_
        rw [received_calls _ h.calls j k _ rfl, if_neg (Ne.symm hne), List.append_nil]
        rfl
      · exact .nothing rfl hsub rfl
    · exact .nothing rfl hsub rfl
  | unsubscribe j =>
    have hne : k ≠ j := fun heq => hun (by rw [heq])
    simp only [call, EventStore.unsubscribe]
    split
    · exact .nothing rfl hsub rfl
    · exact .nothing rfl (by simp [EventStore.unsubscribeRole, setSubscription, hne, hsub]) rfl
  | subscribeTerminal r listener => exact .nothing rfl hsub rfl
  | unsubscribeTerminal j =>
    simp only [call, unsubscribeTerminal]
    split
    · exact .nothing rfl hsub rfl
    · exact .nothing rfl hsub rfl
  | _ => exact .nothing rfl hsub rfl

/-! ### Subscribers -/

theorem run_wellFormed [EventStorage σ] (cs : List StoreCall) :
    WellFormed (run step (empty : EventStore σ) cs) := by
  refine run_invariant (fun h c h' hw hstep => ?_) empty_wellFormed cs
  simp only [step, Option.some.injEq] at hstep
  exact hstep ▸ hw.call c

theorem call_fresh [EventStorage σ] {h : EventStore σ} (hw : WellFormed h) {k : SubscriptionId}
    (hreceived : h.nextId ≤ k → h.received k = []) (c : StoreCall)
    (hk : (h.call c).1.nextId ≤ k) : (h.call c).1.received k = [] := by
  cases c with
  | append r event =>
    have hk : h.nextId ≤ k := (append_sameRoles h r event).nextId ▸ hk
    have hd : Deaf h k := fun sub hsub => by
      rw [hw.fresh k hk] at hsub
      cases hsub
    exact (append_deaf hd r event).2.trans (hreceived hk)
  | subscribe r callerDid buyer => exact hreceived (Nat.le_of_succ_le hk)
  | subscribeFrom r callerDid buyer afterId =>
    rw [call, subscribeFrom_eq] at hk ⊢
    exact hreceived (Nat.le_of_succ_le hk)
  | activate j =>
    have hk : h.nextId ≤ k := (activate_sameRoles h j).nextId ▸ hk
    rw [call, ← hreceived hk]
    unfold activate
    split
    · rename_i sub hsub
      have hne : j ≠ k := fun heq => by
        rw [heq, hw.fresh k hk] at hsub
        cases hsub
      split
      · rw [received_calls _ h.calls j k _ rfl, if_neg hne, List.append_nil]
        rfl
      · rfl
    · rfl
  | unsubscribe j =>
    have hsame : (h.unsubscribe j).nextId = h.nextId ∧
        (h.unsubscribe j).received k = h.received k := by
      unfold EventStore.unsubscribe
      split <;> exact ⟨rfl, rfl⟩
    exact hsame.2.trans (hreceived (hsame.1 ▸ hk))
  | unsubscribeTerminal j =>
    have hsame : (h.unsubscribeTerminal j).nextId = h.nextId ∧
        (h.unsubscribeTerminal j).received k = h.received k := by
      unfold unsubscribeTerminal
      split <;> exact ⟨rfl, rfl⟩
    exact hsame.2.trans (hreceived (hsame.1 ▸ hk))
  | _ => exact hreceived hk

/-- Nothing was delivered under an id that is not taken. -/
theorem run_fresh [EventStorage σ] (cs : List StoreCall) (k : SubscriptionId)
    (hk : (run step (empty : EventStore σ) cs).nextId ≤ k) :
    (run step (empty : EventStore σ) cs).received k = [] := by
  refine (run_invariant (P := fun h : EventStore σ => WellFormed h ∧
    (h.nextId ≤ k → h.received k = [])) (fun h c h' hP hstep => ?_)
    ⟨empty_wellFormed, fun _ => rfl⟩ cs).2 hk
  simp only [step, Option.some.injEq] at hstep
  subst hstep
  exact ⟨hP.1.call c, call_fresh hP.1 hP.2 c⟩

/-! ### What a subscriber can hear at all -/

/-- What a subscription got or still holds back are events of its session that its caller
may see. -/
def Audible [EventStorage σ] (h : EventStore σ) (k : SubscriptionId) : Prop :=
  ∀ sub, h.subscription k = some sub → ∀ e ∈ h.received k ++ sub.pending,
    e ∈ visibleTo sub.callerDid sub.buyer (h.log sub.rfqId)

theorem notice_subset (sub : Subscription) (event : NegotiationEvent) :
    ∀ e ∈ (sub.notice event).2 ++ (sub.notice event).1.pending,
      e ∈ sub.pending ++ visibleTo sub.callerDid sub.buyer [event] := by
  intro e he
  rw [visibleTo, List.filter_singleton]
  unfold Subscription.notice at he
  split_ifs at he with hvisible
  · rw [hvisible, cond_true]
    cases hfeed : sub.feed with
    | none => simp_all [Subscription.pending]
    | some feed =>
      cases hmode : feed.mode <;> simp_all [Subscription.pending]
      tauto
  · exact List.mem_append_left _ (by simpa using he)

theorem Audible.hears [EventStorage σ] {h h' : EventStore σ} {k : SubscriptionId}
    {sub : Subscription} (ha : Audible h k) (hsub : h.subscription k = some sub)
    (hh : Hears h h' k sub) : Audible h' k := by
  intro sub' hsub' e he
  rcases hh with ⟨hlog, hsame, hreceived⟩ | ⟨event, hlog, hnoticed, hreceived⟩
  · obtain rfl : sub = sub' := by simpa using hsame.symm.trans hsub'
    rw [hlog]
    exact ha sub hsub e (hreceived ▸ he)
  · obtain rfl : (sub.notice event).1 = sub' := by simpa using hnoticed.symm.trans hsub'
    have hrole := sub.notice_role event
    simp only [Subscription.role, Prod.mk.injEq] at hrole
    obtain ⟨hrfq, -, hcaller, hbuyer⟩ := hrole
    rw [hrfq, hcaller, hbuyer, hlog, visibleTo_append, List.mem_append]
    rw [hreceived, List.append_assoc, List.mem_append] at he
    rcases he with he | he
    · exact Or.inl (ha sub hsub e (List.mem_append_left _ he))
    · rcases List.mem_append.mp (notice_subset sub event e he) with he | he
      · exact Or.inl (ha sub hsub e (List.mem_append_right _ he))
      · exact Or.inr he

/-- Nothing new reached the subscription, and its log did not lose an event. -/
theorem Audible.quiet [EventStorage σ] {h h' : EventStore σ} {k : SubscriptionId}
    (ha : Audible h k) (hlog : ∀ r, h.log r ⊆ h'.log r)
    (hsub : h'.subscription k = h.subscription k) (hreceived : h'.received k = h.received k) :
    Audible h' k := by
  intro sub hsub' e he
  have hold := ha sub (hsub ▸ hsub') e (hreceived ▸ he)
  rw [visibleTo, List.mem_filter] at hold ⊢
  exact ⟨hlog _ hold.1, hold.2⟩

theorem append_audible [EventStorage σ] {h : EventStore σ} (hw : WellFormed h)
    {k : SubscriptionId} (ha : Audible h k) (r : JsString) (event : NegotiationEvent) :
    Audible (h.append r event).1 k := by
  by_cases hatt : Attached h k
  · obtain ⟨sub, hsub, -⟩ := id hatt
    exact ha.hears hsub (append_hears hw hsub hatt r event)
  cases happend : EventStorage.append h.stored r event with
  | error message =>
    rw [append, happend]
    exact ha
  | ok result =>
    obtain ⟨stored, frozenEvent⟩ := result
    obtain ⟨hstored, hframe, hreceived⟩ :=
      notifyTerminal_frame (notify { h with stored } r frozenEvent) r frozenEvent k
    -- the Set of the session does not hold a subscription that is not attached
    have hnotify : (notify { h with stored } r frozenEvent).subscription k = h.subscription k ∧
        (notify { h with stored } r frozenEvent).received k = h.received k := by
      unfold notify
      split
      · exact ⟨rfl, rfl⟩
      · rename_i set hset
        refine foldl_deliver_notMem _ (fun hk => hatt ?_) { h with stored }
        obtain ⟨sub, hsub, rfl⟩ := hw.member set k hk
        exact ⟨sub, hsub, by rw [hw.owner r _ k sub hset hsub rfl]; exact hset, hk⟩
    rw [append, happend]
    refine ha.quiet (fun q e he => ?_) (by rw [hframe, hnotify.1]) (by rw [hreceived, hnotify.2])
    rw [EventStore.log, hstored, notify_stored, EventStorage.getAllEvents_append happend]
    split_ifs
    · exact List.mem_append_left _ he
    · exact he

theorem subscribe_audible [EventStorage σ] {h : EventStore σ} {k : SubscriptionId}
    (ha : Audible h k) (hfresh : h.nextId ≤ k → h.received k = []) (r callerDid buyer : JsString)
    {feed : Option Feed} (hfeed : (feed.map Feed.buffer).getD [] = []) :
    Audible (h.subscribe r callerDid buyer feed) k := by
  by_cases hk : k = h.nextId
  · intro sub hsub e he
    have hreceived : (h.subscribe r callerDid buyer feed).received k = [] :=
      hfresh (Nat.le_of_eq hk.symm)
    simp only [EventStore.subscribe, if_pos hk, Option.some.injEq] at hsub
    rw [← hsub, hreceived, Subscription.pending, hfeed] at he
    cases he
  · exact ha.quiet (fun _ _ he => he) (if_neg hk) rfl

theorem activate_audible [EventStorage σ] {h : EventStore σ} {k : SubscriptionId}
    (ha : Audible h k) (j : SubscriptionId) : Audible (h.activate j) k := by
  unfold activate
  split
  · rename_i sub hsub
    split
    · rename_i feed hfeed
      by_cases hj : j = k
      · subst hj
        intro sub' hsub' e he
        simp only [setSubscription, if_true, Option.some.injEq] at hsub'
        rw [received_calls _ h.calls j j _ rfl, if_pos rfl] at he
        subst hsub'
        refine ha sub hsub e ?_
        simp only [Subscription.pending, Option.map_some, Option.getD_some, List.append_assoc,
          List.mem_append] at he
        rw [Subscription.pending, hfeed, Option.map_some, Option.getD_some, List.mem_append]
        refine he.imp id fun he => ?_
        unfold Feed.activate at he
        split_ifs at he
        · simpa using he
        · simpa using he
      · refine ha.quiet (fun _ _ he => he) (by simp [setSubscription, Ne.symm hj]) ?_
        rw [received_calls _ h.calls j k _ rfl, if_neg hj, List.append_nil]
        rfl
    · exact ha
  · exact ha

theorem unsubscribe_audible [EventStorage σ] {h : EventStore σ} {k : SubscriptionId}
    (ha : Audible h k) (j : SubscriptionId) : Audible (h.unsubscribe j) k := by
  unfold EventStore.unsubscribe
  split
  · exact ha
  · rename_i sub hsub
    by_cases hj : k = j
    · subst hj
      intro sub' hsub' e he
      simp only [unsubscribeRole, setSubscription, if_true, Option.some.injEq] at hsub'
      subst hsub'
      refine ha sub hsub e (List.mem_append_left _ ?_)
      have hpending : Subscription.pending { sub with feed := sub.feed.map Feed.stop } = [] := by
        cases sub.feed <;> simp [Subscription.pending, Feed.stop]
      rw [hpending, List.append_nil] at he
      exact he
    · exact ha.quiet (fun _ _ he => he) (by simp [unsubscribeRole, setSubscription, hj]) rfl

theorem call_audible [EventStorage σ] {h : EventStore σ} (hw : WellFormed h) {k : SubscriptionId}
    (hfresh : h.nextId ≤ k → h.received k = []) (ha : Audible h k) (c : StoreCall) :
    Audible (h.call c).1 k := by
  cases c with
  | append r event => exact append_audible hw ha r event
  | subscribe r callerDid buyer => exact subscribe_audible ha hfresh r callerDid buyer rfl
  | subscribeFrom r callerDid buyer afterId =>
    rw [call, subscribeFrom_eq]
    exact subscribe_audible ha hfresh r callerDid buyer rfl
  | activate j => exact activate_audible ha j
  | unsubscribe j => exact unsubscribe_audible ha j
  | unsubscribeTerminal j =>
    simp only [call, unsubscribeTerminal]
    split
    · exact ha
    · exact ha.quiet (fun _ _ he => he) rfl rfl
  | subscribeTerminal r listener => exact ha.quiet (fun _ _ he => he) rfl rfl
  | _ => exact ha

/-- Whatever is called, a subscription hears of nothing that its caller may not see. -/
theorem run_audible [EventStorage σ] (cs : List StoreCall) (k : SubscriptionId) :
    Audible (run step (empty : EventStore σ) cs) k := by
  refine (run_invariant (P := fun h : EventStore σ => WellFormed h ∧
    (h.nextId ≤ k → h.received k = []) ∧ Audible h k) (fun h c h' hP hstep => ?_)
    ⟨empty_wellFormed, fun _ => rfl, nofun⟩ cs).2.2
  simp only [step, Option.some.injEq] at hstep
  subst hstep
  obtain ⟨hw, hfresh, ha⟩ := hP
  exact ⟨hw.call c, call_fresh hw hfresh c, call_audible hw hfresh ha c⟩

/-- The subscription got what is visible to it after the first `n` events. -/
structure Receives [EventStorage σ] (k : SubscriptionId) (sub : Subscription) (n : ℕ)
    (h : EventStore σ) : Prop where
  wellFormed : WellFormed h
  attached : Attached h k
  subscription : h.subscription k = some sub
  feed : sub.feed = none
  length : n ≤ (h.log sub.rfqId).length
  received : h.received k = visibleTo sub.callerDid sub.buyer ((h.log sub.rfqId).drop n)

theorem Receives.call [EventStorage σ] {k : SubscriptionId} {sub : Subscription} {n : ℕ}
    {h : EventStore σ} (hr : Receives k sub n h) {c : StoreCall} (hi : Intact h c)
    (hun : c ≠ .unsubscribe k) : Receives k sub n (h.call c).1 := by
  by_cases hact : c = .activate k
  · subst hact
    simpa [EventStore.call, activate, hr.subscription, hr.feed] using hr
  have hwell := hr.wellFormed.call c
  have hatt := hr.attached.call hr.wellFormed hun hi
  rcases call_hears hr.wellFormed hr.subscription hr.attached hun hact with
    ⟨hlog, hsub, hreceived⟩ | ⟨e, hlog, hsub, hreceived⟩
  · exact ⟨hwell, hatt, hsub, hr.feed, hlog ▸ hr.length, by rw [hreceived, hlog, hr.received]⟩
  · have hnotice : sub.notice e = (sub, visibleTo sub.callerDid sub.buyer [e]) := by
      rw [Subscription.notice, hr.feed, visibleTo, List.filter_singleton]
      split_ifs with hvisible <;> simp [hvisible]
    rw [hnotice] at hsub hreceived
    refine ⟨hwell, hatt, hsub, hr.feed, ?_, ?_⟩
    · rw [hlog, List.length_append]
      exact hr.length.trans (Nat.le_add_right _ _)
    · rw [hreceived, hr.received, hlog, List.drop_append_of_le_length hr.length, visibleTo_append]

/-- A subscriber whose own `unsubscribe` was not called got every visible event once and in
order, if no other `unsubscribe` deleted a Set that it had not captured. -/
theorem subscribe_receives [EventStorage σ] (before after : List StoreCall)
    (r callerDid buyer : JsString)
    (hguard : Guarded step Intact
      (next step (run step (empty : EventStore σ) before) (.subscribe r callerDid buyer)) after)
    (hown : .unsubscribe (run step (empty : EventStore σ) before).nextId ∉ after) :
    let h₀ := run step (empty : EventStore σ) before
    let h := run step h₀ (.subscribe r callerDid buyer :: after)
    h.received h₀.nextId = visibleTo callerDid buyer ((h.log r).drop (h₀.log r).length) := by
  intro h₀ h
  have hwell : WellFormed h₀ := run_wellFormed before
  have hstart : Receives h₀.nextId ⟨r, (h₀.subscribers.get? r).getD h₀.nextId, callerDid, buyer,
      none⟩ (h₀.log r).length (h₀.subscribe r callerDid buyer none) := by
    refine ⟨hwell.subscribe r callerDid buyer none, subscribe_attached h₀ r callerDid buyer none,
      by simp [EventStore.subscribe], rfl, le_rfl, ?_⟩
    have hlog : (h₀.subscribe r callerDid buyer none).log r = h₀.log r := rfl
    rw [hlog, List.drop_length]
    exact run_fresh before _ le_rfl
  have hend := (hguard.and_mem (Q := fun c => c ≠ .unsubscribe h₀.nextId)
    fun c hc heq => hown (heq ▸ hc)).invariant (P := Receives h₀.nextId _ (h₀.log r).length)
    (fun s c s' hs hok hstep => by
      simp only [step, Option.some.injEq] at hstep
      exact hstep ▸ hs.call hok.1 hok.2) hstart
  exact hend.received

/-- An event that every participant sees. -/
def sampleExpiry (id : String) : NegotiationEvent :=
  ⟨js id, js "rfq-1", .negotiationExpired, js "2026-03-01T13:00:00.000Z",
    js "engine/deadline-enforcer", []⟩

def sampleSubscribe : StoreCall := .subscribe (js "rfq-1") (js "did:key:zSeller")
    (js "did:key:zBuyer")

/-- Another subscriber of the session leaves, and the event still arrives. -/
theorem subscribe_receives_sample :
    let h := run step (run step (empty : EventStore InMemoryEventStore) [sampleSubscribe])
      [sampleSubscribe, .unsubscribe 0, .append (js "rfq-1") (sampleExpiry "e1")]
    h.received 1 = [sampleExpiry "e1"] := by
  intro h
  have hreceives := subscribe_receives (σ := InMemoryEventStore) [sampleSubscribe]
    [.unsubscribe 0, .append (js "rfq-1") (sampleExpiry "e1")] (js "rfq-1") (js "did:key:zSeller")
    (js "did:key:zBuyer") ?_ (by decide)
  · exact hreceives.trans (by decide)
  · refine ⟨fun sub set hsub hrest => ?_, trivial, trivial⟩
    have hsubs : sub.subs = 0 := by
      rw [← Option.some_inj.mp hsub]
      decide
    rw [hsubs] at hrest
    exact absurd hrest (by decide)

/-- Calling a returned function twice takes a newer subscriber out of the store. -/
theorem subscribe_dropped :
    let after := [.unsubscribe 0, .append (js "rfq-1") (sampleExpiry "e1")]
    let h₀ := run step (empty : EventStore InMemoryEventStore) [sampleSubscribe, .unsubscribe 0]
    let h := run step h₀ (sampleSubscribe :: after)
    .unsubscribe h₀.nextId ∉ after ∧ h.received h₀.nextId ≠
      visibleTo (js "did:key:zSeller") (js "did:key:zBuyer")
        ((h.log (js "rfq-1")).drop (h₀.log (js "rfq-1")).length) := by
  decide

end EventStore
end GhostBazaar.Engine
