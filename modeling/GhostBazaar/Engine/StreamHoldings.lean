import GhostBazaar.Engine.EventStream

/-! What the connections hold: a stream that is open has its slot and both subscriptions, one that
is closed has given each back once. -/
namespace GhostBazaar.Engine
open Js Transition

namespace EventStore

variable {σ : Type}

/-! ### Terminal subscribers -/

structure TerminalWellFormed (h : EventStore σ) : Prop where
  fresh : ∀ t, h.nextTerminalId ≤ t → h.terminalSubscription t = none
  registered : ∀ r set, h.terminalSubscribers.get? r = some set → set < h.nextTerminalId
  distinct : ∀ q r set, h.terminalSubscribers.get? q = some set →
    h.terminalSubscribers.get? r = some set → q = r
  unused : ∀ set, h.nextTerminalId ≤ set → h.terminalMembers set = []
  nodup : ∀ set, (h.terminalMembers set).Nodup

/-- The listener is in the Set that its session has. -/
structure Listens (h : EventStore σ) (r : JsString) (set : SetId) (listener : ListenerId) : Prop where
  registered : h.terminalSubscribers.get? r = some set
  member : listener ∈ h.terminalMembers set

theorem TerminalWellFormed.subscribeTerminal {h : EventStore σ} (ht : TerminalWellFormed h)
    (r : JsString) (listener : ListenerId) : TerminalWellFormed (h.subscribeTerminal r listener) := by
  have hle : (h.terminalSubscribers.get? r).getD h.nextTerminalId ≤ h.nextTerminalId := by
    cases hset : h.terminalSubscribers.get? r with
    | none => exact le_rfl
    | some set => exact (ht.registered r set hset).le
  have howner {q : JsString} {set : SetId} (hq : h.terminalSubscribers.get? q = some set)
      (hset : set = (h.terminalSubscribers.get? r).getD h.nextTerminalId) : q = r := by
    cases hr : h.terminalSubscribers.get? r with
    | none =>
      have hlt := ht.registered q set hq
      rw [hset, hr, Option.getD_none] at hlt
      exact absurd hlt (lt_irrefl _)
    | some set' =>
      rw [hr, Option.getD_some] at hset
      exact ht.distinct q r set hq (hset ▸ hr)
  refine
    { fresh := fun t hk => ?_
      registered := fun q set hset => ?_
      distinct := fun q q' set hq hq' => ?_
      unused := fun set hk => ?_
      nodup := fun set => ?_ }
  · simp only [EventStore.subscribeTerminal] at hk ⊢
    rw [if_neg (Nat.ne_of_gt hk), ht.fresh t (Nat.le_of_succ_le hk)]
  · simp only [EventStore.subscribeTerminal, JsMap.get?_set] at hset ⊢
    split_ifs at hset
    · rw [Option.some.injEq] at hset
      exact hset ▸ Nat.lt_succ_of_le hle
    · exact Nat.lt_succ_of_lt (ht.registered q set hset)
  · simp only [EventStore.subscribeTerminal, JsMap.get?_set] at hq hq'
    split_ifs at hq hq' with h₁ h₂ h₂
    · exact h₁.trans h₂.symm
    · rw [Option.some.injEq] at hq
      exact h₁.trans (howner hq' hq.symm).symm
    · rw [Option.some.injEq] at hq'
      exact (howner hq hq'.symm).trans h₂.symm
    · exact ht.distinct q q' set hq hq'
  · simp only [EventStore.subscribeTerminal] at hk ⊢
    rw [if_neg (Nat.ne_of_gt (Nat.lt_of_le_of_lt hle hk)), ht.unused set (Nat.le_of_succ_le hk)]
  · simp only [EventStore.subscribeTerminal]
    split_ifs with hset hmem
    · exact ht.nodup _
    · exact List.nodup_append.mpr ⟨ht.nodup _, List.nodup_singleton _,
        fun a ha b hb hab => hmem (List.mem_singleton.mp hb ▸ hab ▸ ha)⟩
    · exact ht.nodup set

theorem Listens.subscribeTerminal {h : EventStore σ} {q : JsString} {set : SetId}
    {j : ListenerId} (hl : Listens h q set j) (r : JsString)
    (listener : ListenerId) : Listens (h.subscribeTerminal r listener) q set j := by
  constructor
  · simp only [EventStore.subscribeTerminal, JsMap.get?_set]
    split_ifs with hq
    · rw [← hq, hl.registered, Option.getD_some]
    · exact hl.registered
  · simp only [EventStore.subscribeTerminal]
    split_ifs with hset
    · exact hset ▸ hl.member
    · exact List.mem_append_left _ (hset ▸ hl.member)
    · exact hl.member

theorem subscribeTerminal_listens (h : EventStore σ) (r : JsString) (listener : ListenerId) :
    ∃ set, (h.subscribeTerminal r listener).terminalSubscription h.nextTerminalId =
        some ⟨r, set, listener⟩ ∧ Listens (h.subscribeTerminal r listener) r set listener := by
  refine ⟨(h.terminalSubscribers.get? r).getD h.nextTerminalId, ?_, ?_, ?_⟩
  · simp [subscribeTerminal]
  · simp [subscribeTerminal]
  · simp only [subscribeTerminal, if_true]
    split_ifs with hmem
    · exact hmem
    · simp

theorem unsubscribeTerminal_eq {h : EventStore σ} {t : SubscriptionId} {sub : TerminalSubscription}
    (hsub : h.terminalSubscription t = some sub) :
    h.unsubscribeTerminal t =
      { h with
        terminalMembers := fun set => if set = sub.subs then
          (h.terminalMembers sub.subs).erase sub.listener else h.terminalMembers set
        terminalSubscribers := if (h.terminalMembers sub.subs).erase sub.listener = [] then
          h.terminalSubscribers.delete sub.rfqId else h.terminalSubscribers } := by
  rw [unsubscribeTerminal, hsub]

theorem TerminalWellFormed.unsubscribeTerminal {h : EventStore σ} (ht : TerminalWellFormed h)
    {t : SubscriptionId} {sub : TerminalSubscription}
    (hsub : h.terminalSubscription t = some sub) : TerminalWellFormed (h.unsubscribeTerminal t) := by
  rw [unsubscribeTerminal_eq hsub]
  have hget {r : JsString} {set : SetId}
      (hset : (if (h.terminalMembers sub.subs).erase sub.listener = [] then
        h.terminalSubscribers.delete sub.rfqId else h.terminalSubscribers).get? r = some set) :
      h.terminalSubscribers.get? r = some set := by
    split_ifs at hset
    · rw [JsMap.get?_delete] at hset
      split_ifs at hset
      exact hset
    · exact hset
  refine ⟨ht.fresh, fun r set hset => ht.registered r set (hget hset),
    fun q r set hq hr => ht.distinct q r set (hget hq) (hget hr), fun set hk => ?_, fun set => ?_⟩
  · simp only
    split_ifs with hset
    · rw [← hset, ht.unused set hk, List.erase_nil]
    · exact ht.unused set hk
  · simp only
    split_ifs
    · exact (ht.nodup _).erase _
    · exact ht.nodup set

/-- A listener that leaves takes no other listener with it. -/
theorem Listens.unsubscribeTerminal {h : EventStore σ} {q : JsString} {set : SetId}
    {j : ListenerId} (hl : Listens h q set j) {t : SubscriptionId} {sub : TerminalSubscription}
    (hsub : h.terminalSubscription t = some sub) (hleaves : Listens h sub.rfqId sub.subs sub.listener)
    (hne : j ≠ sub.listener) : Listens (h.unsubscribeTerminal t) q set j := by
  rw [unsubscribeTerminal_eq hsub]
  have hstays : set = sub.subs → j ∈ (h.terminalMembers sub.subs).erase sub.listener :=
    fun hset => (List.mem_erase_of_ne hne).mpr (hset ▸ hl.member)
  constructor
  · simp only
    split_ifs with hrest
    · rw [JsMap.get?_delete]
      split_ifs with hq
      · have hset : set = sub.subs := by
          have hreg := hl.registered
          rw [hq, hleaves.registered] at hreg
          exact (Option.some.inj hreg).symm
        have hmem := hstays hset
        rw [hrest] at hmem
        cases hmem
      · exact hl.registered
    · exact hl.registered
  · simp only
    split_ifs with hset
    · exact hstays hset
    · exact hl.member

/-- Two stores with the same Sets of the same terminal subscribers. -/
structure SameTerminals (h h' : EventStore σ) : Prop where
  terminalSubscribers : h'.terminalSubscribers = h.terminalSubscribers
  terminalMembers : h'.terminalMembers = h.terminalMembers
  terminalSubscription : h'.terminalSubscription = h.terminalSubscription
  nextTerminalId : h'.nextTerminalId = h.nextTerminalId

theorem SameTerminals.refl (h : EventStore σ) : SameTerminals h h := ⟨rfl, rfl, rfl, rfl⟩

theorem SameTerminals.trans {h h' h'' : EventStore σ} (a : SameTerminals h h')
    (b : SameTerminals h' h'') : SameTerminals h h'' where
  terminalSubscribers := b.terminalSubscribers.trans a.terminalSubscribers
  terminalMembers := b.terminalMembers.trans a.terminalMembers
  terminalSubscription := b.terminalSubscription.trans a.terminalSubscription
  nextTerminalId := b.nextTerminalId.trans a.nextTerminalId

theorem TerminalWellFormed.congr {h h' : EventStore σ} (ht : TerminalWellFormed h)
    (hs : SameTerminals h h') : TerminalWellFormed h' := by
  obtain ⟨hsubscribers, hmembers, hsubscription, hnext⟩ := hs
  constructor
  · rw [hnext, hsubscription]
    exact ht.fresh
  · rw [hnext, hsubscribers]
    exact ht.registered
  · rw [hsubscribers]
    exact ht.distinct
  · rw [hnext, hmembers]
    exact ht.unused
  · rw [hmembers]
    exact ht.nodup

theorem Listens.congr {h h' : EventStore σ} {r : JsString} {set : SetId} {listener : ListenerId}
    (hl : Listens h r set listener) (hs : SameTerminals h h') : Listens h' r set listener := by
  constructor
  · rw [hs.terminalSubscribers]
    exact hl.registered
  · rw [hs.terminalMembers]
    exact hl.member

theorem deliver_sameTerminals (event : NegotiationEvent) (h : EventStore σ) (k : SubscriptionId) :
    SameTerminals h (h.deliver event k) := by
  unfold deliver
  split
  · exact .refl h
  · exact ⟨rfl, rfl, rfl, rfl⟩

theorem activate_sameTerminals (h : EventStore σ) (k : SubscriptionId) :
    SameTerminals h (h.activate k) := by
  unfold activate
  split
  · split
    · exact ⟨rfl, rfl, rfl, rfl⟩
    · exact .refl h
  · exact .refl h

theorem unsubscribe_sameTerminals (h : EventStore σ) (k : SubscriptionId) :
    SameTerminals h (h.unsubscribe k) := by
  unfold unsubscribe
  split
  · exact .refl h
  · exact ⟨rfl, rfl, rfl, rfl⟩

theorem unsubscribeTerminal_sameRoles (h : EventStore σ) (t : SubscriptionId) :
    SameRoles h (h.unsubscribeTerminal t) := by
  unfold unsubscribeTerminal
  split
  · exact .refl h
  · exact ⟨rfl, rfl, rfl, fun _ => rfl⟩

theorem subscribeTerminal_members {h : EventStore σ} {r : JsString} {listener j : ListenerId}
    {set : SetId} (hj : j ∈ (h.subscribeTerminal r listener).terminalMembers set) :
    j ∈ h.terminalMembers set ∨
      j = listener ∧ set = (h.terminalSubscribers.get? r).getD h.nextTerminalId := by
  simp only [subscribeTerminal] at hj
  by_cases hset : set = (h.terminalSubscribers.get? r).getD h.nextTerminalId
  · rw [if_pos hset, ← hset] at hj
    split_ifs at hj
    · exact Or.inl hj
    · rw [List.mem_append, List.mem_singleton] at hj
      exact hj.imp_right fun heq => ⟨heq, hset⟩
  · rw [if_neg hset] at hj
    exact Or.inl hj

theorem unsubscribeTerminal_members {h : EventStore σ} {t : SubscriptionId} {set : SetId}
    {listener : ListenerId} (hl : listener ∈ (h.unsubscribeTerminal t).terminalMembers set) :
    listener ∈ h.terminalMembers set := by
  unfold unsubscribeTerminal at hl
  split at hl
  · exact hl
  · simp only at hl
    split_ifs at hl with hset
    · exact hset ▸ List.mem_of_mem_erase hl
    · exact hl

theorem subscribe_members {h : EventStore σ} {r callerDid buyer : JsString} {feed : Option Feed}
    {j : SubscriptionId} {set : SetId}
    (hj : j ∈ (h.subscribe r callerDid buyer feed).members set) :
    j ∈ h.members set ∨ j = h.nextId := by
  simp only [subscribe] at hj
  split_ifs at hj with hset
  · rw [List.mem_append, List.mem_singleton] at hj
    exact hset ▸ hj
  · exact Or.inl hj

theorem unsubscribe_members {h : EventStore σ} {k j : SubscriptionId} {set : SetId}
    (hj : j ∈ (h.unsubscribe k).members set) : j ∈ h.members set := by
  unfold unsubscribe at hj
  split at hj
  · exact hj
  · simp only [unsubscribeRole, setSubscription] at hj
    split_ifs at hj with hset
    · exact hset ▸ List.mem_of_mem_erase hj
    · exact hj

/-- A subscription that was given back is in no Set. -/
theorem WellFormed.unsubscribe_notMem {h : EventStore σ} (hw : WellFormed h) (k : SubscriptionId)
    (set : SetId) : k ∉ (h.unsubscribe k).members set := by
  intro hk
  obtain ⟨sub, hsub, hset⟩ := hw.member set k (unsubscribe_members hk)
  simp only [EventStore.unsubscribe, hsub, EventStore.unsubscribeRole, setSubscription] at hk
  rw [if_pos hset.symm] at hk
  exact (hw.nodup _).not_mem_erase hk

/-- The Set that the session of an attached subscription has is the one it captured. -/
theorem Attached.intact {h : EventStore σ} {k : SubscriptionId} (ha : Attached h k) :
    Intact h (.unsubscribe k) := by
  obtain ⟨sub, hsub, hget, -⟩ := ha
  intro sub' set hsub' _ hset
  obtain rfl : sub = sub' := by simpa using hsub.symm.trans hsub'
  exact Option.some.inj (hset.symm.trans hget)

end EventStore

namespace StreamServer

/-! ### What streams hold -/

/-- A stream without the messages that were sent and the time they ended. -/
def holdings (c : EventStream) : EventStream :=
  { c with cancelled := false, sent := [], endedAt := none }

theorem holdings_inj {c c' : EventStream} (h : holdings c' = holdings c) :
    c'.rfqId = c.rfqId ∧ c'.unsubTerminal = c.unsubTerminal := by
  simp only [holdings, EventStream.mk.injEq] at h
  exact ⟨h.1, h.2.2.2.2.2.1⟩

/-- An open stream has a slot, both subscriptions, and gave nothing back. -/
structure Held (s : StreamServer) (k : SubscriptionId) (c : EventStream) : Prop where
  cleanedUp : c.cleanedUp = false
  released : c.released = 0
  unsubscribed : c.unsubscribed = 0
  unsubscribedTerminal : c.unsubscribedTerminal = 0
  slot : ∃ rec ∈ s.tracker.connections, c.connectionId = some rec.connectionId ∧ rec.stream = k
  attached : EventStore.Attached s.store k
  listens : ∃ set, s.store.terminalSubscription c.unsubTerminal = some ⟨c.rfqId, set, k⟩ ∧
    EventStore.Listens s.store c.rfqId set k

/-- A closed stream gave everything back once. -/
structure Freed (c : EventStream) : Prop where
  cleanedUp : c.registered = true → c.cleanedUp = true
  connectionId : c.connectionId = none
  released : c.released = 1
  unsubscribed : c.unsubscribed = 1
  unsubscribedTerminal : c.unsubscribedTerminal = 1

structure Coherent (s : StreamServer) : Prop where
  roles : EventStore.WellFormed s.store
  terminals : EventStore.TerminalWellFormed s.store
  lt : ∀ k c, s.stream k = some c → k < s.store.nextId
  held : ∀ k c, s.stream k = some c → c.closed = false → Held s k c
  freed : ∀ k c, s.stream k = some c → c.closed = true → Freed c
  records : ∀ rec ∈ s.tracker.connections, ∃ c, s.stream rec.stream = some c ∧
    c.connectionId = some rec.connectionId
  members : ∀ set k, k ∈ s.store.members set → ∃ c, s.stream k = some c ∧ c.closed = false
  listeners : ∀ set k, k ∈ s.store.terminalMembers set → ∃ c, s.stream k = some c ∧
    c.closed = false ∧ s.store.terminalSubscription c.unsubTerminal = some ⟨c.rfqId, set, k⟩
  ids : (s.tracker.connections.map ConnectionRecord.connectionId).Nodup
  idsLe : ∀ rec ∈ s.tracker.connections, rec.connectionId ≤ s.tracker.nextId

/-- Two servers whose streams hold the same. -/
structure SameHoldings (s s' : StreamServer) : Prop where
  roles : EventStore.SameRoles s.store s'.store
  terminals : EventStore.SameTerminals s.store s'.store
  tracker : s'.tracker = s.tracker
  stream : ∀ k, (s'.stream k).map holdings = (s.stream k).map holdings

theorem SameHoldings.refl (s : StreamServer) : SameHoldings s s :=
  ⟨.refl _, .refl _, rfl, fun _ => rfl⟩

theorem SameHoldings.trans {s s' s'' : StreamServer} (a : SameHoldings s s')
    (b : SameHoldings s' s'') : SameHoldings s s'' where
  roles := a.roles.trans b.roles
  terminals := a.terminals.trans b.terminals
  tracker := b.tracker.trans a.tracker
  stream k := (b.stream k).trans (a.stream k)

theorem SameHoldings.exists_old {s s' : StreamServer} (h : SameHoldings s s') {k : SubscriptionId}
    {c : EventStream} (hc : s'.stream k = some c) :
    ∃ old, s.stream k = some old ∧ holdings old = holdings c := by
  have hk := h.stream k
  rw [hc, Option.map_some, eq_comm, Option.map_eq_some_iff] at hk
  exact hk

theorem SameHoldings.exists_new {s s' : StreamServer} (h : SameHoldings s s') {k : SubscriptionId}
    {c : EventStream} (hc : s.stream k = some c) :
    ∃ new, s'.stream k = some new ∧ holdings new = holdings c := by
  have hk := h.stream k
  rw [hc, Option.map_some, Option.map_eq_some_iff] at hk
  exact hk

theorem Held.congr {s s' : StreamServer} {k : SubscriptionId} {c c' : EventStream}
    (hc : Held s k c) (h : SameHoldings s s') (hsame : holdings c' = holdings c) :
    Held s' k c' := by
  obtain ⟨rec, hrec, hid, hstream⟩ := hc.slot
  obtain ⟨set, hset, hlistens⟩ := hc.listens
  obtain ⟨hrfq, hunsub⟩ := holdings_inj hsame
  exact
    { cleanedUp := (congrArg EventStream.cleanedUp hsame).trans hc.cleanedUp
      released := (congrArg EventStream.released hsame).trans hc.released
      unsubscribed := (congrArg EventStream.unsubscribed hsame).trans hc.unsubscribed
      unsubscribedTerminal :=
        (congrArg EventStream.unsubscribedTerminal hsame).trans hc.unsubscribedTerminal
      slot := ⟨rec, h.tracker ▸ hrec, (congrArg EventStream.connectionId hsame).trans hid, hstream⟩
      attached := hc.attached.congr h.roles
      listens := ⟨set, by rw [h.terminals.terminalSubscription, hunsub, hset, hrfq],
        hrfq ▸ hlistens.congr h.terminals⟩ }

theorem Freed.congr {c c' : EventStream} (hc : Freed c) (hsame : holdings c' = holdings c) :
    Freed c' where
  cleanedUp hreg := (congrArg EventStream.cleanedUp hsame).trans
    (hc.cleanedUp ((congrArg EventStream.registered hsame).symm.trans hreg))
  connectionId := (congrArg EventStream.connectionId hsame).trans hc.connectionId
  released := (congrArg EventStream.released hsame).trans hc.released
  unsubscribed := (congrArg EventStream.unsubscribed hsame).trans hc.unsubscribed
  unsubscribedTerminal :=
    (congrArg EventStream.unsubscribedTerminal hsame).trans hc.unsubscribedTerminal

theorem Coherent.congr {s s' : StreamServer} (hs : Coherent s) (h : SameHoldings s s') :
    Coherent s' where
  roles := hs.roles.congr h.roles
  terminals := hs.terminals.congr h.terminals
  lt k c hc := by
    obtain ⟨old, hold, -⟩ := h.exists_old hc
    rw [h.roles.nextId]
    exact hs.lt k old hold
  held k c hc hopen := by
    obtain ⟨old, hold, hsame⟩ := h.exists_old hc
    have hopen' : old.closed = false := (congrArg EventStream.closed hsame).trans hopen
    exact (hs.held k old hold hopen').congr h hsame.symm
  freed k c hc hclosed := by
    obtain ⟨old, hold, hsame⟩ := h.exists_old hc
    have hclosed' : old.closed = true := (congrArg EventStream.closed hsame).trans hclosed
    exact (hs.freed k old hold hclosed').congr hsame.symm
  records rec hrec := by
    obtain ⟨c, hc, hid⟩ := hs.records rec (h.tracker ▸ hrec)
    obtain ⟨new, hnew, hsame⟩ := h.exists_new hc
    exact ⟨new, hnew, (congrArg EventStream.connectionId hsame).trans hid⟩
  members set k hk := by
    rw [h.roles.members] at hk
    obtain ⟨c, hc, hopen⟩ := hs.members set k hk
    obtain ⟨new, hnew, hsame⟩ := h.exists_new hc
    exact ⟨new, hnew, (congrArg EventStream.closed hsame).trans hopen⟩
  listeners set k hk := by
    rw [h.terminals.terminalMembers] at hk
    obtain ⟨c, hc, hopen, hsub⟩ := hs.listeners set k hk
    obtain ⟨new, hnew, hsame⟩ := h.exists_new hc
    obtain ⟨hrfq, hunsub⟩ := holdings_inj hsame
    exact ⟨new, hnew, (congrArg EventStream.closed hsame).trans hopen,
      by rw [h.terminals.terminalSubscription, hunsub, hrfq, hsub]⟩
  ids := h.tracker ▸ hs.ids
  idsLe := h.tracker ▸ hs.idsLe

theorem setStream_sameHoldings {s : StreamServer} {k : SubscriptionId} {c c' : EventStream}
    (hc : s.stream k = some c) (hsame : holdings c' = holdings c) :
    SameHoldings s (s.setStream k c') := by
  refine ⟨.refl _, .refl _, rfl, fun j => ?_⟩
  by_cases hj : j = k
  · simp [setStream, hj, hc, hsame]
  · simp [setStream, hj]

theorem holdings_send (c : EventStream) (m : StreamMessage) :
    holdings (c.send m) = holdings c := by
  unfold EventStream.send
  split_ifs <;> rfl

theorem send_sameHoldings (s : StreamServer) (k : SubscriptionId) (m : StreamMessage) :
    SameHoldings s (s.send k m) := by
  unfold send
  split
  · rename_i c hc
    exact setStream_sameHoldings hc (holdings_send c m)
  · exact .refl s

/-! ### Giving everything back -/

theorem Held.finish {s : StreamServer} {k : SubscriptionId} {c : EventStream} (h : Held s k c)
    (n : ℕ) {cleanedUp : Bool} (hcleaned : c.registered = true → cleanedUp = true) :
    Freed (c.finish n cleanedUp) := by
  obtain ⟨rec, -, hid, -⟩ := h.slot
  constructor
  · exact hcleaned
  · rfl
  · change c.released + (if c.connectionId.isSome then 1 else 0) = 1
    rw [hid, h.released]
    rfl
  · change c.unsubscribed + 1 = 1
    rw [h.unsubscribed]
  · change c.unsubscribedTerminal + 1 = 1
    rw [h.unsubscribedTerminal]

theorem release_sameRoles (s : StreamServer) (k : SubscriptionId) (c : EventStream) :
    EventStore.SameRoles (s.store.unsubscribe k) (s.release k c).store :=
  EventStore.unsubscribeTerminal_sameRoles (s.store.unsubscribe k) c.unsubTerminal

theorem release_nextId (s : StreamServer) (k : SubscriptionId) (c : EventStream) :
    (s.release k c).store.nextId = s.store.nextId := by
  rw [(release_sameRoles s k c).nextId]
  unfold EventStore.unsubscribe
  split <;> rfl

theorem release_tracker {s : StreamServer} {c : EventStream} {id : ConnectionId}
    (hid : c.connectionId = some id) (k : SubscriptionId) :
    (s.release k c).tracker = s.tracker.removeRecord id := by
  simp only [release, hid]

/-- The subscription to the end of the session, after the one to its events is given back. -/
theorem unsubscribe_terminalSubscription {s : StreamServer} {k : SubscriptionId} {c : EventStream}
    {sub : TerminalSubscription} (hsub : s.store.terminalSubscription c.unsubTerminal = some sub) :
    (s.store.unsubscribe k).terminalSubscription c.unsubTerminal = some sub := by
  rw [(EventStore.unsubscribe_sameTerminals s.store k).terminalSubscription, hsub]

theorem Held.release_terminalSubscription {s : StreamServer} {k : SubscriptionId}
    {c : EventStream} (h : Held s k c) :
    (s.release k c).store.terminalSubscription = s.store.terminalSubscription := by
  obtain ⟨set, hsub, -⟩ := h.listens
  simp only [release]
  rw [EventStore.unsubscribeTerminal_eq (unsubscribe_terminalSubscription hsub),
    (EventStore.unsubscribe_sameTerminals s.store k).terminalSubscription]

section

variable {s : StreamServer} {j k : SubscriptionId} {c d : EventStream} {set : SetId}

theorem Coherent.release_members (hs : Coherent s)
    (hj : j ∈ (s.release k c).store.members set) : j ≠ k ∧ j ∈ s.store.members set := by
  rw [(release_sameRoles s k c).members] at hj
  constructor
  · rintro rfl
    exact hs.roles.unsubscribe_notMem j set hj
  · exact EventStore.unsubscribe_members hj

theorem Coherent.release_terminalMembers (hs : Coherent s) (hc : s.stream k = some c)
    (hopen : c.closed = false) (hj : j ∈ (s.release k c).store.terminalMembers set) :
    j ≠ k ∧ j ∈ s.store.terminalMembers set := by
  have hterminals := EventStore.unsubscribe_sameTerminals s.store k
  have hmem := EventStore.unsubscribeTerminal_members hj
  rw [hterminals.terminalMembers] at hmem
  refine ⟨?_, hmem⟩
  rintro rfl
  obtain ⟨set', hsub', -⟩ := (hs.held j c hc hopen).listens
  obtain ⟨d, hd, -, hsub⟩ := hs.listeners set j hmem
  obtain rfl : c = d := by simpa using hc.symm.trans hd
  rw [hsub', Option.some.injEq, TerminalSubscription.mk.injEq] at hsub
  simp only [release] at hj
  rw [EventStore.unsubscribeTerminal_eq (unsubscribe_terminalSubscription hsub')] at hj
  simp only [if_pos hsub.2.1.symm] at hj
  exact ((hs.terminals.congr hterminals).nodup _).not_mem_erase hj

/-- What one stream gives back, another one keeps. -/
theorem Coherent.held_release (hs : Coherent s) (hc : s.stream k = some c)
    (hopen : c.closed = false) (hd : s.stream j = some d) (hdopen : d.closed = false)
    (hj : j ≠ k) (c' : EventStream) : Held ((s.release k c).setStream k c') j d := by
  have hheld := hs.held k c hc hopen
  have hold := hs.held j d hd hdopen
  obtain ⟨rec, hrec, hid, hstream⟩ := hheld.slot
  obtain ⟨set, hset, hlistens⟩ := hheld.listens
  obtain ⟨rec', hrec', hid', hstream'⟩ := hold.slot
  obtain ⟨set', hsub', hlistens'⟩ := hold.listens
  have hne : rec'.connectionId ≠ rec.connectionId := by
    intro heq
    have hrecs := List.inj_on_of_nodup_map hs.ids hrec' hrec heq
    exact hj (by rw [← hstream', hrecs, hstream])
  have hterminals := EventStore.unsubscribe_sameTerminals s.store k
  exact
    { cleanedUp := hold.cleanedUp
      released := hold.released
      unsubscribed := hold.unsubscribed
      unsubscribedTerminal := hold.unsubscribedTerminal
      slot := by
        refine ⟨rec', ?_, hid', hstream'⟩
        change rec' ∈ (s.release k c).tracker.connections
        rw [release_tracker hid]
        exact ConnectionTracker.mem_removeRecord.mpr ⟨hrec', hne⟩
      attached := (hold.attached.unsubscribe (Ne.symm hj) hheld.attached.intact).congr
        (release_sameRoles s k c)
      listens := by
        refine ⟨set', ?_, ?_⟩
        · rw [← hsub', ← hheld.release_terminalSubscription]
          rfl
        · exact (hlistens'.congr hterminals).unsubscribeTerminal
            (unsubscribe_terminalSubscription hset) (hlistens.congr hterminals) hj }

end

/-- An open stream gives its slot and its subscriptions back; the others keep theirs. -/
theorem Coherent.finish {s : StreamServer} (hs : Coherent s) {k : SubscriptionId}
    {c c' : EventStream} (hc : s.stream k = some c) (hopen : c.closed = false)
    (hsame : holdings c' = holdings c) (n : ℕ) {cleanedUp : Bool}
    (hcleaned : c.registered = true → cleanedUp = true) :
    Coherent ((s.release k c).setStream k (EventStream.finish c' n cleanedUp)) := by
  have hheld := hs.held k c hc hopen
  obtain ⟨rec, hrec, hid, hstream⟩ := hheld.slot
  obtain ⟨set, hset, hlistens⟩ := hheld.listens
  have hother : ∀ {j : SubscriptionId} {d : EventStream}, j ≠ k → s.stream j = some d →
      ((s.release k c).setStream k (EventStream.finish c' n cleanedUp)).stream j =
        some d := by
    intro j d hj hd
    simp only [setStream, release, if_neg hj, hd]
  have hstreams : ∀ {j : SubscriptionId} {d : EventStream},
      ((s.release k c).setStream k (EventStream.finish c' n cleanedUp)).stream j = some d →
      j = k ∧ d = (EventStream.finish c' n cleanedUp) ∨ j ≠ k ∧ s.stream j = some d := by
    intro j d hd
    simp only [setStream, release] at hd
    split_ifs at hd with hj
    · exact Or.inl ⟨hj, (Option.some.inj hd).symm⟩
    · exact Or.inr ⟨hj, hd⟩
  have hfreed : Freed (EventStream.finish c' n cleanedUp) := by
    apply (hheld.congr (.refl s) hsame).finish
    intro hreg
    exact hcleaned ((congrArg EventStream.registered hsame).symm.trans hreg)
  have htracker : ((s.release k c).setStream k
      (EventStream.finish c' n cleanedUp)).tracker = s.tracker.removeRecord rec.connectionId :=
    release_tracker hid k
  constructor
  · exact (hs.roles.unsubscribe k).congr (release_sameRoles s k c)
  · exact (hs.terminals.congr (EventStore.unsubscribe_sameTerminals s.store k)).unsubscribeTerminal
      (unsubscribe_terminalSubscription hset)
  · intro j d hd
    change j < (s.release k c).store.nextId
    rw [release_nextId]
    rcases hstreams hd with ⟨rfl, -⟩ | ⟨-, hd⟩
    · exact hs.lt j c hc
    · exact hs.lt j d hd
  · intro j d hd hdopen
    rcases hstreams hd with ⟨rfl, rfl⟩ | ⟨hj, hd⟩
    · cases hdopen
    · exact hs.held_release hc hopen hd hdopen hj _
  · intro j d hd hdclosed
    rcases hstreams hd with ⟨-, rfl⟩ | ⟨-, hd⟩
    · exact hfreed
    · exact hs.freed j d hd hdclosed
  · intro rec' hrec'
    rw [htracker, ConnectionTracker.mem_removeRecord] at hrec'
    obtain ⟨d, hd, hid'⟩ := hs.records rec' hrec'.1
    have hne : rec'.stream ≠ k := by
      intro heq
      rw [heq, hc, Option.some.injEq] at hd
      rw [← hd, hid, Option.some.injEq] at hid'
      exact hrec'.2 hid'.symm
    exact ⟨d, hother hne hd, hid'⟩
  · intro set' j hj
    obtain ⟨hne, hmem⟩ := hs.release_members hj
    obtain ⟨d, hd, hdopen⟩ := hs.members set' j hmem
    exact ⟨d, hother hne hd, hdopen⟩
  · intro set' j hj
    obtain ⟨hne, hmem⟩ := hs.release_terminalMembers hc hopen hj
    obtain ⟨d, hd, hdopen, hsub⟩ := hs.listeners set' j hmem
    refine ⟨d, hother hne hd, hdopen, ?_⟩
    rw [← hsub, ← hheld.release_terminalSubscription]
    rfl
  · rw [htracker]
    exact hs.ids.sublist (List.filter_sublist.map _)
  · intro rec' hrec'
    rw [htracker, ConnectionTracker.mem_removeRecord] at hrec'
    rw [htracker]
    exact hs.idsLe rec' hrec'.1

/-- The stream of a new connection; `start` goes on from here. -/
def granted (s : StreamServer) (rfqId callerDid buyer : JsString) (cursor : Option JsString)
    (registered : Bool) : EventStream :=
  ⟨rfqId, callerDid, buyer, cursor, some (s.tracker.nextId + 1), s.store.nextTerminalId, registered,
    false, false, false, [], 0, 0, 0, none⟩

/-- The server with one more stream, which has its slot and both subscriptions. -/
def enter (s : StreamServer) (now : ℤ) (rfqId callerDid buyer : JsString)
    (cursor : Option JsString) (isBuyer registered : Bool) (feed : Option Feed) : StreamServer :=
  StreamServer.setStream
    { store := (s.store.subscribe rfqId callerDid buyer feed).subscribeTerminal rfqId s.store.nextId
      tracker := s.tracker.insert rfqId callerDid isBuyer now s.store.nextId
      stream := s.stream } s.store.nextId (s.granted rfqId callerDid buyer cursor registered)

theorem enter_sameRoles (s : StreamServer) (now : ℤ) (rfqId callerDid buyer : JsString)
    (cursor : Option JsString) (isBuyer registered : Bool) (feed : Option Feed) :
    EventStore.SameRoles (s.store.subscribe rfqId callerDid buyer feed)
      (s.enter now rfqId callerDid buyer cursor isBuyer registered feed).store :=
  ⟨rfl, rfl, rfl, fun _ => rfl⟩

theorem Coherent.enter_terminalSubscription {s : StreamServer} (hs : Coherent s) (now : ℤ)
    (rfqId callerDid buyer : JsString) (cursor : Option JsString) (isBuyer registered : Bool)
    (feed : Option Feed) {t : SubscriptionId} {sub : TerminalSubscription}
    (ht : s.store.terminalSubscription t = some sub) :
    (s.enter now rfqId callerDid buyer cursor isBuyer registered feed).store.terminalSubscription
      t = some sub := by
  have hlt : t ≠ s.store.nextTerminalId := by
    intro heq
    rw [hs.terminals.fresh _ (heq ▸ le_rfl)] at ht
    cases ht
  simp only [StreamServer.enter, setStream, EventStore.subscribeTerminal, EventStore.subscribe,
    if_neg hlt, ht]

/-- A stream keeps what it holds when another one is granted. -/
theorem Coherent.held_enter {s : StreamServer} (hs : Coherent s) (now : ℤ)
    (rfqId callerDid buyer : JsString) (cursor : Option JsString) (isBuyer registered : Bool)
    (feed : Option Feed) {k : SubscriptionId} {c : EventStream} (h : Held s k c) :
    Held (s.enter now rfqId callerDid buyer cursor isBuyer registered feed) k c := by
  obtain ⟨rec, hrec, hid, hstream⟩ := h.slot
  obtain ⟨set, hsub, hlistens⟩ := h.listens
  have hterminals : EventStore.SameTerminals s.store
      (s.store.subscribe rfqId callerDid buyer feed) := ⟨rfl, rfl, rfl, rfl⟩
  exact
    { cleanedUp := h.cleanedUp
      released := h.released
      unsubscribed := h.unsubscribed
      unsubscribedTerminal := h.unsubscribedTerminal
      slot := ⟨rec, List.mem_append_left _ hrec, hid, hstream⟩
      attached := (h.attached.subscribe hs.roles rfqId callerDid buyer feed).congr
        (enter_sameRoles s now rfqId callerDid buyer cursor isBuyer registered feed)
      listens := ⟨set,
        hs.enter_terminalSubscription now rfqId callerDid buyer cursor isBuyer registered feed hsub,
        (hlistens.congr hterminals).subscribeTerminal rfqId s.store.nextId⟩ }

/-- The new stream holds what it was granted. -/
theorem Coherent.enter {s : StreamServer} (hs : Coherent s) (now : ℤ)
    (rfqId callerDid buyer : JsString) (cursor : Option JsString) (isBuyer registered : Bool)
    (feed : Option Feed) :
    Coherent (s.enter now rfqId callerDid buyer cursor isBuyer registered feed) := by
  have hne {j : SubscriptionId} {d : EventStream} (hd : s.stream j = some d) :
      j ≠ s.store.nextId := Nat.ne_of_lt (hs.lt j d hd)
  have hold {j : SubscriptionId} {d : EventStream} (hd : s.stream j = some d) :
      (s.enter now rfqId callerDid buyer cursor isBuyer registered feed).stream j = some d := by
    simp only [StreamServer.enter, setStream, if_neg (hne hd), hd]
  have hstreams {j : SubscriptionId} {d : EventStream}
      (hd : (s.enter now rfqId callerDid buyer cursor isBuyer registered feed).stream j = some d) :
      j = s.store.nextId ∧ d = s.granted rfqId callerDid buyer cursor registered ∨
        s.stream j = some d := by
    simp only [StreamServer.enter, setStream] at hd
    split_ifs at hd with hj
    · exact Or.inl ⟨hj, (Option.some.inj hd).symm⟩
    · exact Or.inr hd
  have hnew : (s.enter now rfqId callerDid buyer cursor isBuyer registered feed).stream
      s.store.nextId = some (s.granted rfqId callerDid buyer cursor registered) := by
    simp only [StreamServer.enter, setStream, if_true]
  have hroles := s.enter_sameRoles now rfqId callerDid buyer cursor isBuyer registered feed
  have hterminals : EventStore.SameTerminals s.store
      (s.store.subscribe rfqId callerDid buyer feed) := ⟨rfl, rfl, rfl, rfl⟩
  obtain ⟨set, hsub, hlistens⟩ := EventStore.subscribeTerminal_listens
    (s.store.subscribe rfqId callerDid buyer feed) rfqId s.store.nextId
  have hsame {t : SubscriptionId} {sub : TerminalSubscription}
      (ht : s.store.terminalSubscription t = some sub) :=
    hs.enter_terminalSubscription now rfqId callerDid buyer cursor isBuyer registered feed ht
  constructor
  · exact (hs.roles.subscribe rfqId callerDid buyer feed).congr hroles
  · exact (hs.terminals.congr hterminals).subscribeTerminal rfqId s.store.nextId
  · intro j d hd
    change j < s.store.nextId + 1
    rcases hstreams hd with ⟨rfl, -⟩ | hd
    · exact Nat.lt_succ_self _
    · exact Nat.lt_succ_of_lt (hs.lt j d hd)
  · intro j d hd hopen
    rcases hstreams hd with ⟨rfl, rfl⟩ | hd
    · exact
        { cleanedUp := rfl
          released := rfl
          unsubscribed := rfl
          unsubscribedTerminal := rfl
          slot := ⟨_, List.mem_append_right _ (List.mem_singleton.mpr rfl), rfl, rfl⟩
          attached := (EventStore.subscribe_attached s.store rfqId callerDid buyer feed).congr hroles
          listens := ⟨set, hsub, hlistens⟩ }
    · exact hs.held_enter now rfqId callerDid buyer cursor isBuyer registered feed
        (hs.held j d hd hopen)
  · intro j d hd hclosed
    rcases hstreams hd with ⟨-, rfl⟩ | hd
    · cases hclosed
    · exact hs.freed j d hd hclosed
  · intro rec hrec
    rcases List.mem_append.mp hrec with hrec | hrec
    · obtain ⟨d, hd, hid⟩ := hs.records rec hrec
      exact ⟨d, hold hd, hid⟩
    · rw [List.mem_singleton.mp hrec]
      exact ⟨_, hnew, rfl⟩
  · intro set' j hj
    change j ∈ (s.store.subscribe rfqId callerDid buyer feed).members set' at hj
    rcases EventStore.subscribe_members hj with hmem | rfl
    · obtain ⟨d, hd, hopen⟩ := hs.members set' j hmem
      exact ⟨d, hold hd, hopen⟩
    · exact ⟨_, hnew, rfl⟩
  · intro set' j hj
    have hmem : j ∈ s.store.terminalMembers set' ∨ j = s.store.nextId ∧
        set' = (s.store.terminalSubscribers.get? rfqId).getD s.store.nextTerminalId :=
      EventStore.subscribeTerminal_members hj
    rcases hmem with hmem | ⟨rfl, hset⟩
    · obtain ⟨d, hd, hopen, hsub'⟩ := hs.listeners set' j hmem
      exact ⟨d, hold hd, hopen, hsame hsub'⟩
    · refine ⟨_, hnew, rfl, ?_⟩
      simp only [StreamServer.enter, setStream, EventStore.subscribeTerminal, EventStore.subscribe,
        granted, if_true, hset]
  · simp only [StreamServer.enter, setStream, ConnectionTracker.insert, List.map_append,
      List.map_cons, List.map_nil, List.nodup_append]
    refine ⟨hs.ids, List.nodup_singleton _, ?_⟩
    intro a ha b hb hab
    obtain ⟨rec, hrec, rfl⟩ := List.mem_map.mp ha
    have hle := hs.idsLe rec hrec
    rw [hab, List.mem_singleton.mp hb] at hle
    exact absurd hle (Nat.not_succ_le_self _)
  · intro rec hrec
    change rec.connectionId ≤ s.tracker.nextId + 1
    rcases List.mem_append.mp hrec with hrec | hrec
    · exact Nat.le_succ_of_le (hs.idsLe rec hrec)
    · rw [List.mem_singleton.mp hrec]

/-! ### Calls of `cleanup` -/

theorem Coherent.cleanup_eq {s : StreamServer} (hs : Coherent s) {k : SubscriptionId}
    {c : EventStream} (hc : s.stream k = some c) (hopen : c.closed = false) :
    s.cleanup k =
      (s.release k c).setStream k (EventStream.finish c (s.store.log c.rfqId).length true) := by
  simp only [cleanup, hc, (hs.held k c hc hopen).cleanedUp, Bool.false_eq_true, if_false]

/-- A stream that is closed and has its listeners is cleaned up. -/
theorem Coherent.cleanup_closed {s : StreamServer} (hs : Coherent s) {k : SubscriptionId}
    {c : EventStream} (hc : s.stream k = some c) (hclosed : c.closed = true)
    (hregistered : c.registered = true) : s.cleanup k = s := by
  simp only [cleanup, hc, (hs.freed k c hc hclosed).cleanedUp hregistered, if_true]

theorem send_eq {s : StreamServer} {k : SubscriptionId} {c : EventStream}
    (hc : s.stream k = some c) (m : StreamMessage) : s.send k m = s.setStream k (c.send m) := by
  simp only [send, hc]

/-- A last message, and then the end. -/
theorem Coherent.send_cleanup_eq {s : StreamServer} (hs : Coherent s) {k : SubscriptionId}
    {c : EventStream} (hc : s.stream k = some c) (hopen : c.closed = false) (m : StreamMessage) :
    (s.send k m).cleanup k = (s.release k c).setStream k
      (EventStream.finish (c.send m) (s.store.log c.rfqId).length true) := by
  have hsame := holdings_send c m
  have hset := setStream_sameHoldings hc hsame
  have hrfq := (holdings_inj hsame).1
  have hunsub := (holdings_inj hsame).2
  have hid : (c.send m).connectionId = c.connectionId := by
    have hid := congrArg EventStream.connectionId hsame
    exact hid
  have hopen' : (c.send m).closed = false := by
    have hclosed := congrArg EventStream.closed hsame
    exact hclosed.trans hopen
  have hnew : (s.setStream k (c.send m)).stream k = some (c.send m) := by
    simp only [setStream, if_true]
  rw [send_eq hc, (hs.congr hset).cleanup_eq hnew hopen']
  simp only [setStream, release, hrfq, hunsub, hid, StreamServer.mk.injEq, true_and]
  funext j
  split_ifs <;> rfl

theorem Coherent.record_open {s : StreamServer} (hs : Coherent s) {rec : ConnectionRecord}
    (hrec : rec ∈ s.tracker.connections) :
    ∃ c, s.stream rec.stream = some c ∧ c.closed = false := by
  obtain ⟨c, hc, hid⟩ := hs.records rec hrec
  refine ⟨c, hc, ?_⟩
  by_contra hclosed
  rw [(hs.freed _ c hc (by simpa using hclosed)).connectionId] at hid
  cases hid

/-- The record of an evicted connection is gone when the eviction removes it. -/
theorem Coherent.evict_eq {s : StreamServer} (hs : Coherent s) {rec : ConnectionRecord}
    (hrec : rec ∈ s.tracker.connections) : s.evict rec = s.close rec.stream := by
  obtain ⟨c, hc, hid⟩ := hs.records rec hrec
  obtain ⟨c', hc', hopen⟩ := hs.record_open hrec
  obtain rfl : c = c' := by simpa using hc.symm.trans hc'
  have htracker : (s.close rec.stream).tracker = s.tracker.removeRecord rec.connectionId := by
    rw [close, hs.send_cleanup_eq hc hopen]
    simp only [setStream, release, hid]
  have hagain : (s.close rec.stream).tracker.removeRecord rec.connectionId =
      (s.close rec.stream).tracker := by
    rw [htracker]
    simp [ConnectionTracker.removeRecord]
  simp only [evict, hagain]

end StreamServer
end GhostBazaar.Engine
