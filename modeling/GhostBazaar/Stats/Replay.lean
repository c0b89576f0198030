import GhostBazaar.Engine.CommittedQuote
import GhostBazaar.Engine.RfqListing
import GhostBazaar.Stats.Tallies

/-! The dashboard after a restart: the replay of the store counts what the listener counted, and
the states of both add up to the sessions. -/
namespace GhostBazaar.Stats
open Js GhostBazaar.Core Settlement Engine Transition InternalEventStore

/-! ### The two paths of the collector -/

/-- The listener over a run: `appendEvent` hands on each event, with the session that the log
derives to. -/
def listen (env : EngineEnv) (seen : List Entry) (c : StatsCollector) :
    List Entry → StatsCollector
  | [] => c
  | en :: rest =>
    let heard := match deriveState (logOf seen en.rfqId ++ [en.event]) with
      | .ok (some session) => c.onEvent env en.event session
      | _ => c
    listen env (seen ++ [en]) heard rest

/-- Every event is the next of the log that it is in. -/
def Replayable (log : JsString → List NegotiationEvent) : Prop :=
  ∀ r before event after, log r = before ++ event :: after → event.rfqId = r ∧
    ∃ s, deriveState (before ++ [event]) = .ok (some s) ∧
      (before = [] → s.rfq.buyer = event.actor)

section

variable {env : EngineEnv} {P : DerivedSession → Members → Prop}
  {answers : List (JsString × JsValue)} {h : List Entry}

/-- The actor of the first event is the buyer of the request. -/
theorem buyer_of_recorded {en : Entry} (hr : Recorded env P answers h en)
    (hlog : logOf h en.rfqId = []) {s : DerivedSession} (hs : initialSession en.event = .ok s) :
    s.rfq.buyer = en.event.actor := by
  obtain ⟨m, body, -, hlocked⟩ := hr.opening hlog hs
  simp only [initialSession, bind_eq_ok, ensure_eq_ok, str_eq_ok, pure_eq_ok] at hs
  obtain ⟨-, -, buyer, hbuyer, _, -, _, -, _, -, _, -, _, -, rfl⟩ := hs
  rw [(lockedRfq_ok hlocked).2.2, hbuyer]
  rfl

theorem next_of_recorded {en : Entry} (hr : Recorded env P answers h en) :
    ∃ s, deriveState (logOf h en.rfqId ++ [en.event]) = .ok (some s) ∧
      (logOf h en.rfqId = [] → s.rfq.buyer = en.event.actor) := by
  obtain ⟨s, hs⟩ := hr.replays
  refine ⟨s, hs, fun hlog => ?_⟩
  rcases derives_append hs with ⟨-, hfirst⟩ | ⟨first, s₀, hfirst, -⟩
  · exact buyer_of_recorded hr hlog hfirst
  · rw [hlog] at hfirst
    cases hfirst

theorem replayable_of_journal (hj : Journal env P answers h) : Replayable (logOf h) := by
  intro r before event after hlog
  obtain ⟨h₁, en, h₂, hsplit, hr, rfl, rfl⟩ := exists_entry_of_logOf hlog
  have hrecorded := hj h₁ en h₂ hsplit
  rw [← hr]
  exact ⟨hrecorded.rfqId, next_of_recorded hrecorded⟩

variable {listings : ℕ} {c : StatsCollector} {L : SessionLogs}

theorem Tallies.listen {rest : List Entry} (hj : Journal env P answers (h ++ rest))
    (ht : Tallies env listings c L) (hL : L.log = logOf h) :
    ∃ L', Tallies env listings (listen env h c rest) L' ∧ L'.log = logOf (h ++ rest) := by
  induction rest generalizing h c L with
  | nil => exact ⟨L, ht, by rw [List.append_nil, hL]⟩
  | cons en rest ih =>
    have hr := hj h en rest rfl
    obtain ⟨s, hs, hbuyer⟩ := next_of_recorded hr
    have hextends : Extends L en.event s := by
      constructor
      · rw [hL, hr.rfqId, hs]
      · rw [hL, hr.rfqId]
        exact hbuyer
    rw [List.append_cons] at hj ⊢
    unfold Stats.listen
    simp only [hs]
    apply ih hj (ht.onEvent hextends)
    funext r
    rw [logOf_snoc]
    split_ifs with heq
    · rw [heq, ← hr.rfqId, SessionLogs.log_append_self, hL]
    · rw [← hr.rfqId] at heq
      rw [SessionLogs.log_append_of_ne hextends.derives heq, hL]

variable {log : JsString → List NegotiationEvent}

/-- The inner loop of the constructor. -/
theorem Tallies.replayLog (hlog : Replayable log) (ht : Tallies env listings c L) {r : JsString}
    {events : List NegotiationEvent} (hr : log r = L.log r ++ events) :
    ∃ L', Tallies env listings (events.foldl (StatsCollector.processRawEvent env) c) L' ∧
      L'.log = Function.update L.log r (log r) := by
  induction events generalizing c L with
  | nil =>
    refine ⟨L, ht, ?_⟩
    rw [hr, List.append_nil, Function.update_eq_self]
  | cons event rest ih =>
    obtain ⟨hid, s, hs, hbuyer⟩ := hlog r _ event rest hr
    have hextends : Extends L event s := by
      rw [← hid] at hs hbuyer
      exact ⟨hs, hbuyer⟩
    rw [List.foldl_cons, ht.processRawEvent_eq hextends]
    have hlog' : (L.append event s hextends.derives).log =
        Function.update L.log r (L.log r ++ [event]) := by
      rw [← hid]
      rfl
    obtain ⟨L', ht', hL'⟩ := ih (ht.onEvent hextends) (by
      rw [hlog', Function.update_self, hr, List.append_assoc, List.singleton_append])
    refine ⟨L', ht', ?_⟩
    rw [hL', hlog', Function.update_idem]

/-- The outer loop, over sessions that are not counted yet. -/
theorem Tallies.replaySessions (hlog : Replayable log) (ht : Tallies env listings c L)
    {rfqIds : List JsString} (hnodup : rfqIds.Nodup) (hnew : ∀ r ∈ rfqIds, L.log r = []) :
    ∃ L', Tallies env listings (rfqIds.foldl (fun c rfqId =>
        (log rfqId).foldl (StatsCollector.processRawEvent env) c) c) L' ∧
      ∀ r, L'.log r = if r ∈ rfqIds then log r else L.log r := by
  induction rfqIds generalizing c L with
  | nil => exact ⟨L, ht, fun r => by simp⟩
  | cons rfqId rfqIds ih =>
    obtain ⟨hfresh, hnodup⟩ := List.nodup_cons.mp hnodup
    have hstart : log rfqId = L.log rfqId ++ log rfqId := by
      rw [hnew rfqId List.mem_cons_self, List.nil_append]
    obtain ⟨L₁, ht₁, hL₁⟩ := ht.replayLog hlog hstart
    have hnew₁ : ∀ r ∈ rfqIds, L₁.log r = [] := by
      intro r hr
      have hne : r ≠ rfqId := fun heq => hfresh (heq ▸ hr)
      rw [hL₁, Function.update_of_ne hne, hnew r (List.mem_cons_of_mem _ hr)]
    obtain ⟨L', ht', hL'⟩ := ih ht₁ hnodup hnew₁
    refine ⟨L', ht', fun r => ?_⟩
    rw [hL', hL₁, Function.update_apply]
    by_cases hr : r = rfqId
    · simp [hr, hfresh]
    · simp [hr]

end

/-! ### What both paths report -/

/-- The six states. -/
def sessionStates : List SessionState :=
  [.open, .negotiating, .commitPending, .committed, .expired, .cancelled]

section

variable {env : EngineEnv} {listings : ℕ} {c c' : StatsCollector} {L : SessionLogs}

theorem Tallies.total_sessions (ht : Tallies env listings c L) :
    c.sessionLedger.entries.length = L.ids.card := by
  have hkeys : (c.sessionLedger.entries.map Prod.fst).toFinset = L.ids := by
    ext r
    have hledger := congrArg Option.isSome (ht.ledger r)
    rw [Option.isSome_map] at hledger
    rw [List.mem_toFinset, JsMap.mem_keys_iff, hledger, L.mem_ids]
    cases hlog : L.log r with
    | nil => simp [account]
    | cons first rest =>
      have hmem : r ∈ L.ids := by simp [L.mem_ids, hlog]
      obtain ⟨s, hs⟩ := L.derives r hmem
      rw [hlog] at hs
      simp [account_eq (List.head?_cons) hs]
  rw [← hkeys, List.toFinset_card_of_nodup c.sessionLedger.nodup, List.length_map]

theorem Tallies.getStats_eq (ht : Tallies env listings c L) (ht' : Tallies env listings c' L)
    (fl : ℚ → ℚ) (uptime : ℕ) : c.getStats fl uptime = c'.getStats fl uptime := by
  have hbyState : c.byState = c'.byState := by
    funext state
    rw [ht.byState, ht'.byState]
  unfold StatsCollector.getStats
  rw [ht.total_sessions, ht'.total_sessions, hbyState, ht.terminalSessions, ht'.terminalSessions,
    ht.completedDeals, ht'.completedDeals, ht.totalDurationMs, ht'.totalDurationMs,
    ht.totalOffers, ht'.totalOffers, ht.totalCounters, ht'.totalCounters, ht.uniqueBuyers,
    ht'.uniqueBuyers, ht.uniqueSellers, ht'.uniqueSellers, ht.listingCount, ht'.listingCount]

theorem Tallies.byState_eq (ht : Tallies env listings c L) {rfqIds : List JsString}
    (hnodup : rfqIds.Nodup) (hids : rfqIds.toFinset = L.ids) (state : SessionState) :
    c.byState state = (rfqIds.filter fun r => stateOf (L.log r) = some state).length := by
  rw [ht.byState, SessionLogs.total, ← hids]
  unfold inState
  rw [← Finset.card_filter, ← List.toFinset_card_of_nodup (hnodup.filter _)]
  congr 1
  ext r
  simp

/-- Every session is in one of the states. -/
theorem Tallies.sum_byState (ht : Tallies env listings c L) :
    (sessionStates.map c.byState).sum = L.ids.card := by
  have hone : ∀ r ∈ L.ids, (sessionStates.map fun state => inState state (L.log r)).sum = 1 := by
    intro r hr
    obtain ⟨s, hs⟩ := L.derives r hr
    simp only [inState_eq hs]
    cases s.state <;> rfl
  rw [Finset.card_eq_sum_ones, ← Finset.sum_congr rfl hone]
  simp only [sessionStates, List.map_cons, List.map_nil, List.sum_cons, List.sum_nil, ht.byState,
    SessionLogs.total, Finset.sum_add_distrib, Finset.sum_const_zero]

end

/-! ### Over a run of the engine -/

/-- The dashboard of a process that starts with this store. -/
def replayed {σ : Type} [InternalEventStore σ] (env : EngineEnv) (listings : ℕ)
    (eventStore : σ) : StatsCollector := .ofStore env eventStore listings

/-- The dashboard that was there from the empty store on and heard of every append. -/
def heard (σ : Type) [InternalEventStore σ] (env : EngineEnv) (listings : ℕ)
    (history : List Entry) : StatsCollector :=
  listen env [] (.ofStore env (InternalEventStore.empty : σ) listings) history

theorem ofStore_empty (σ : Type) [InternalEventStore σ] (env : EngineEnv) (listings : ℕ) :
    StatsCollector.ofStore env (InternalEventStore.empty : σ) listings = .init listings := by
  have hnone : listSessionIds (InternalEventStore.empty : σ) = [] := by
    apply List.eq_nil_iff_forall_not_mem.mpr
    intro r hr
    exact (mem_listSessionIds _ r).mp hr (getAllEvents_empty r)
  unfold StatsCollector.ofStore
  rw [hnone, List.foldl_nil]

variable {σ : Type} [InternalEventStore σ] [DistinctSessions σ]

/-- The two collectors show the same dashboard after any run, and on it every state has the number
of sessions that derive to it. -/
theorem replayed_agrees_heard (env : EngineEnv) (is : List EngineLabel) (fl : ℚ → ℚ)
    (uptime listings : ℕ) :
    let e := run (EngineState.step env) (EngineState.empty : EngineState σ) is
    let stats := (heard σ env listings e.history).getStats fl uptime
    let rfqIds := listSessionIds e.manager.store
    (replayed env listings e.manager.store).getStats fl uptime = stats ∧
      (∀ state, stats.by_state state =
        (rfqIds.filter fun r => stateOf (getAllEvents e.manager.store r) = some state).length) ∧
      stats.total_sessions = rfqIds.length ∧
      (sessionStates.map stats.by_state).sum = stats.total_sessions := by
  intro e stats rfqIds
  have he : e.Inv env fun _ _ => True := EngineState.run_inv_true env is
  have hstore : getAllEvents e.manager.store = logOf e.history := funext he.log
  have hnodup : rfqIds.Nodup := DistinctSessions.nodup e.manager.store
  obtain ⟨L, hheard, hL⟩ := (Tallies.init env listings).listen (h := []) he.journal rfl
  obtain ⟨L', hreplayed, hL'⟩ := (Tallies.init env listings).replaySessions
    (replayable_of_journal he.journal) hnodup fun _ _ => rfl
  rw [← ofStore_empty σ env listings] at hheard
  rw [← hstore] at hreplayed
  rw [List.nil_append, ← hstore] at hL
  rw [← hstore] at hL'
  have hsame : L' = L := by
    apply SessionLogs.ext
    funext r
    rw [hL', hL]
    split_ifs with hr
    · rfl
    · exact (not_not.mp (mt (mem_listSessionIds _ r).mpr hr)).symm
  rw [hsame] at hreplayed
  have hids : rfqIds.toFinset = L.ids := by
    ext r
    rw [List.mem_toFinset, L.mem_ids, hL]
    exact mem_listSessionIds _ r
  have htotal : stats.total_sessions = L.ids.card := hheard.total_sessions
  refine ⟨hreplayed.getStats_eq hheard fl uptime, ?_, ?_, ?_⟩
  · intro state
    rw [← hL]
    exact hheard.byState_eq hnodup hids state
  · rw [htotal, ← hids, List.toFinset_card_of_nodup hnodup]
  · rw [htotal]
    exact hheard.sum_byState

theorem replayed_agrees_heard_commit :
    let env := sampleEngineEnv .null firstNegotiation.signatures
    let stats := (heard InMemoryEventStore env 1 commitRun.history).getStats id 0
    (replayed env 1 commitRun.manager.store).getStats id 0 = stats ∧
      stats.by_state .committed = 1 ∧ stats.total_sessions = 1 := by
  have hagrees := @replayed_agrees_heard InMemoryEventStore _ _
    (sampleEngineEnv .null firstNegotiation.signatures)
    (.addListing sampleListing :: firstNegotiation.labels 0) id 0 1
  rw [← commitRun] at hagrees
  obtain ⟨hsame, hstate, htotal, -⟩ := hagrees
  intro env stats
  refine ⟨hsame, ?_, ?_⟩
  · rw [hstate]
    decide +kernel
  · rw [htotal]
    decide +kernel

end GhostBazaar.Stats
