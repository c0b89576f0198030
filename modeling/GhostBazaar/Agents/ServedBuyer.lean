import GhostBazaar.Agents.BuyerFeed
import GhostBazaar.Agents.ServedSeller

/-! The buyer agent beside the engine that it reads. Its polls are of many sessions, and it runs
as it does beside a log of each that only grows. -/
namespace GhostBazaar.Agents
open Js GhostBazaar.Core Strategy Transition
open Engine (EngineEnv EngineState EngineLabel InternalEventStore EventStorage deriveState
  RecordedOffer DerivedSession)

variable {σ : Type} [InternalEventStore σ] {lib : DecimalLib}

/-- The agent of a key pair signs under its DID. -/
def buyerConfig {c : Crypto} (k : Keypair c) (config : BuyerAgentConfig lib) :
    BuyerAgentConfig lib :=
  { config with did := k.did }

/-- The agent keeps no log here: it has what the engine answers. -/
structure ServedBuyer (σ : Type) (lib : DecimalLib) where
  engine : EngineState σ
  buyer : BuyerRun lib
  /-- The events with which the engine has answered a poll. -/
  answer : PollId → Option (List NegotiationEvent)

inductive ServedBuyerLabel (lib : DecimalLib) where
  | engine (i : EngineLabel)
  | agent (i : BuyerLabel lib)
  /-- The engine answers the request of a poll. -/
  | serve (t : PollId) (issued checked now : ℤ)
  /-- The answer is there. -/
  | arrive (t : PollId) (now : ℤ)

/-- The step of the agent itself. -/
def ServedBuyerLabel.own : ServedBuyerLabel lib → Option (BuyerLabel lib)
  | .agent i => if i.isLocal = true then some i else none
  | _ => none

namespace ServedBuyer

def start : ServedBuyer σ lib := ⟨EngineState.empty, .empty, fun _ => none⟩

def step [ServedStore σ] (env : EngineEnv) (k : Keypair env.toCrypto)
    (config : BuyerAgentConfig lib) (c : ServedBuyer σ lib) :
    ServedBuyerLabel lib → Option (ServedBuyer σ lib)
  | .engine i => (c.engine.step env i).map fun engine => { c with engine }
  | .agent i =>
    if i.isLocal = true then
      (c.buyer.step (buyerConfig k config) i).map fun buyer => { c with buyer }
    else none
  | .serve t issued checked now =>
    match c.buyer.agent.task t, c.answer t with
    | .fetching rfqId, none =>
      let served := getEvents env k c.engine rfqId (c.buyer.after t) issued checked now
      some { c with engine := served.1, answer := Function.update c.answer t served.2 }
    | _, _ => none
  | .arrive t now =>
    match c.buyer.agent.task t, c.answer t with
    | .fetching _, some events =>
      (c.buyer.agent.step (buyerConfig k config) (.eventsArrive t events now)).map fun agent =>
        { c with buyer := { c.buyer with agent } }
    | _, _ => none

/-! ### The refinement -/

variable {env : EngineEnv} {k : Keypair env.toCrypto} {config : BuyerAgentConfig lib}
  {c : ServedBuyer σ lib}

/-- What the engine shows to the agent of each session. -/
def shown (did : JsString) (c : ServedBuyer σ lib) (rfqId : JsString) : List NegotiationEvent :=
  shownTo did (c.engine.manager.log rfqId)

/-- The engine is in a state of one of its runs, and the agent in the state of a run beside the
logs that the engine shows to it. An answer holds the first of the events that the poll asked for. -/
structure Simulates (env : EngineEnv) (k : Keypair env.toCrypto) (config : BuyerAgentConfig lib)
    (labels : List (BuyerLabel lib)) (engineLabels : List EngineLabel) (c : ServedBuyer σ lib) :
    Prop where
  engine : c.engine = run (EngineState.step env) EngineState.empty engineLabels
  buyer : run (BuyerRun.step (buyerConfig k config)) .empty labels =
    c.buyer.withLog (c.shown k.did)
  answer : ∀ t events, c.answer t = some events → c.buyer.agent.task t ≠ .idle ∧
    ∀ rfqId, c.buyer.agent.task t = .fetching rfqId →
      events <+: eventsAfter (c.shown k.did rfqId) (c.buyer.after t)

variable {labels : List (BuyerLabel lib)} {engineLabels : List EngineLabel}

theorem Simulates.start (env : EngineEnv) (k : Keypair env.toCrypto)
    (config : BuyerAgentConfig lib) :
    Simulates env k config [] [] (start : ServedBuyer σ lib) where
  engine := rfl
  buyer := by
    have hempty : (ServedBuyer.start : ServedBuyer σ lib).shown k.did = fun _ => [] := by
      funext rfqId
      have hlog : (EngineState.empty : EngineState σ).manager.log rfqId = [] :=
        InternalEventStore.getAllEvents_empty rfqId
      rw [shown, ServedBuyer.start, hlog]
      rfl
    rw [hempty]
    rfl
  answer t events h := by simp [ServedBuyer.start] at h

theorem Simulates.inv (h : Simulates env k config labels engineLabels c) :
    EngineState.Inv env (fun _ _ => True) c.engine :=
  h.engine ▸ EngineState.run_inv_true env engineLabels

theorem Simulates.knows (h : Simulates env k config labels engineLabels c) :
    BuyerRun.Knows (c.buyer.withLog (c.shown k.did)) :=
  h.buyer ▸ BuyerRun.Knows.run _ labels

/-- A poll asks for what comes after an event that the agent has been shown. -/
theorem Simulates.asks (h : Simulates env k config labels engineLabels c) {t : PollId}
    {rfqId : JsString} (ht : c.buyer.agent.task t = .fetching rfqId) :
    ∀ id, c.buyer.after t = some id → id ∈ (c.shown k.did rfqId).map (·.eventId) :=
  fun id hid => h.knows.fetching t rfqId id ht hid

/-- The agent takes in the events of a session that the engine shows to it. -/
theorem run_appends (b : BuyerRun lib) (r : JsString) (events : List NegotiationEvent)
    (hnodup : ((b.log r ++ events).map (·.eventId)).Nodup) :
    run (BuyerRun.step (buyerConfig k config)) b (events.map (.append r)) =
      b.withLog (Function.update b.log r (b.log r ++ events)) := by
  induction events generalizing b with
  | nil => simp [BuyerRun.withLog]
  | cons event events ih =>
    have hfresh : event.eventId ∉ (b.log r).map (·.eventId) := by
      rw [List.map_append, List.nodup_append] at hnodup
      exact fun hid => hnodup.2.2 _ hid event.eventId (by simp) rfl
    have hnext : next (BuyerRun.step (buyerConfig k config)) b (.append r event) =
        b.withLog (Function.update b.log r (b.log r ++ [event])) := by
      rw [next, BuyerRun.step, if_neg hfresh]
      rfl
    rw [List.map_cons, run_cons, hnext, ih]
    · simp [BuyerRun.withLog]
    · simpa [BuyerRun.withLog] using hnodup

/-- A move of the engine in one session at most, after which the agent is shown the events that
are new. -/
theorem Simulates.moveEngine (h : Simulates env k config labels engineLabels c)
    (is : List EngineLabel) {r : JsString}
    (hothers : ∀ q, q ≠ r → (run (EngineState.step env) c.engine is).manager.log q =
      c.engine.manager.log q) :
    ∃ events : List NegotiationEvent, Simulates env k config
      (labels ++ events.map (.append r)) (engineLabels ++ is)
      { c with engine := run (EngineState.step env) c.engine is } := by
  have hengine : run (EngineState.step env) c.engine is =
      run (EngineState.step env) EngineState.empty (engineLabels ++ is) := by
    rw [run_append, ← h.engine]
  obtain ⟨events, hshown, hnodup⟩ := shownTo_run env h.engine is k.did r
  have hfeed : shown k.did { c with engine := run (EngineState.step env) c.engine is } =
      Function.update (c.shown k.did) r (c.shown k.did r ++ events) := by
    funext q
    rw [Function.update_apply]
    split_ifs with hq
    · rw [hq]
      exact hshown
    · exact congrArg (shownTo k.did) (hothers q hq)
  refine ⟨events, hengine, ?_, fun t answered hanswer => ?_⟩
  · rw [run_append, h.buyer, run_appends _ _ _ hnodup, hfeed]
    rfl
  · obtain ⟨hidle, hfetching⟩ := h.answer t answered hanswer
    refine ⟨hidle, fun rfqId ht => ?_⟩
    rw [hfeed, Function.update_apply]
    split_ifs with hq
    · subst hq
      rw [eventsAfter_append (h.asks ht)]
      exact (hfetching rfqId ht).trans (List.prefix_append _ _)
    · exact hfetching rfqId ht

/-- A step of the agent itself. -/
theorem Simulates.moveAgent (h : Simulates env k config labels engineLabels c)
    {i : BuyerLabel lib} (hlocal : i.isLocal = true) :
    Simulates env k config (labels ++ [i]) engineLabels
      { c with buyer := next (BuyerRun.step (buyerConfig k config)) c.buyer i } := by
  refine ⟨h.engine, ?_, fun t events hanswer => ?_⟩
  · rw [run_append, h.buyer, run_cons, run_nil, next, BuyerRun.step_withLog hlocal, next]
    cases BuyerRun.step (buyerConfig k config) c.buyer i <;> rfl
  · obtain ⟨hidle, hfetching⟩ := h.answer t events hanswer
    rw [next]
    cases hstep : BuyerRun.step (buyerConfig k config) c.buyer i with
    | none => exact ⟨hidle, hfetching⟩
    | some buyer =>
      have hreading : (buyer.agent.task t).isReading = true →
          buyer.agent.task t = c.buyer.agent.task t ∧ buyer.after t = c.buyer.after t := by
        intro hreads
        rcases BuyerRun.step_reading hlocal hstep hreads with hsame | ⟨hstart, -⟩
        · exact hsame
        · exact absurd hstart hidle
      constructor
      · intro ht
        have ht : buyer.agent.task t = .idle := ht
        exact hidle ((hreading (by rw [ht, PollTask.isReading])).1 ▸ ht)
      · intro rfqId ht
        have ht : buyer.agent.task t = .fetching rfqId := ht
        obtain ⟨htask, hafter⟩ := hreading (by rw [ht, PollTask.isReading])
        have hasked := hfetching rfqId (htask ▸ ht)
        rw [← hafter] at hasked
        exact hasked

/-- The answer of the engine arrives. -/
theorem Simulates.arrive (h : Simulates env k config labels engineLabels c) {t : PollId}
    {rfqId : JsString} {events : List NegotiationEvent}
    (ht : c.buyer.agent.task t = .fetching rfqId) (hanswer : c.answer t = some events) {now : ℤ}
    {agent : BuyerAgent lib} (hagent : c.buyer.agent.step (buyerConfig k config)
      (.eventsArrive t events now) = some agent) :
    Simulates env k config (labels ++ [.eventsArrive t events.length now]) engineLabels
      { c with buyer := { c.buyer with agent } } := by
  have htake : (eventsAfter (c.shown k.did rfqId) (c.buyer.after t)).take events.length = events :=
    (List.prefix_iff_eq_take.mp ((h.answer t events hanswer).2 rfqId ht)).symm
  refine ⟨h.engine, ?_, fun u answered hu => ?_⟩
  · have hstep : BuyerRun.step (buyerConfig k config) (c.buyer.withLog (c.shown k.did))
        (.eventsArrive t events.length now) =
          some (BuyerRun.withLog { c.buyer with agent } (c.shown k.did)) := by
      have ht : (c.buyer.withLog (c.shown k.did)).agent.task t = .fetching rfqId := ht
      simp only [BuyerRun.step, ht]
      have hagent : (c.buyer.withLog (c.shown k.did)).agent.step (buyerConfig k config)
          (.eventsArrive t ((eventsAfter (c.shown k.did rfqId) (c.buyer.after t)).take
            events.length) now) = some agent := by
        rw [htake]
        exact hagent
      exact congrArg (Option.map _) hagent
    rw [run_append, h.buyer, run_cons, run_nil, next, hstep]
    rfl
  · obtain ⟨hidle, hfetching⟩ := h.answer u answered hu
    have hreading : (agent.task u).isReading = true → agent.task u = c.buyer.agent.task u := by
      cases BuyerAgent.steps_of_step hagent with
      | eventsArrive => exact fun hreads => BuyerAgent.eventsArrive_reading hreads
    constructor
    · intro hstopped
      have hstopped : agent.task u = .idle := hstopped
      exact hidle (hreading (by rw [hstopped, PollTask.isReading]) ▸ hstopped)
    · intro id hstopped
      have hstopped : agent.task u = .fetching id := hstopped
      exact hfetching id (hreading (by rw [hstopped, PollTask.isReading]) ▸ hstopped)

/-- The engine answers a poll. -/
theorem Simulates.serve [ServedStore σ] (h : Simulates env k config labels engineLabels c)
    {t : PollId} {rfqId : JsString} (ht : c.buyer.agent.task t = .fetching rfqId)
    (issued checked now : ℤ) :
    ∃ (events : List NegotiationEvent) (is : List EngineLabel), Simulates env k config
      (labels ++ events.map (.append rfqId)) (engineLabels ++ is)
      { c with
        engine := (getEvents env k c.engine rfqId (c.buyer.after t) issued checked now).1
        answer := Function.update c.answer t
          (getEvents env k c.engine rfqId (c.buyer.after t) issued checked now).2 } := by
  obtain ⟨is, hengine⟩ :=
    getEvents_engine env k c.engine rfqId (c.buyer.after t) issued checked now
  have hlog := getEvents_log k h.inv rfqId (c.buyer.after t) issued checked now
  obtain ⟨events, hmoved⟩ := h.moveEngine is (r := rfqId) fun q _ => hengine ▸ hlog q
  refine ⟨events, is, hengine ▸ hmoved.engine, hengine ▸ hmoved.buyer, fun u answered hu => ?_⟩
  have hshown : ∀ q, shownTo k.did ((getEvents env k c.engine rfqId (c.buyer.after t) issued
      checked now).1.manager.log q) = c.shown k.did q := by
    intro q
    rw [hlog]
    rfl
  unfold shown
  simp only [hshown]
  by_cases htu : u = t
  · subst htu
    have hserved : (getEvents env k c.engine rfqId (c.buyer.after u) issued checked now).2 =
        some answered := by
      simpa using hu
    refine ⟨by simp [ht], fun id ht' => ?_⟩
    obtain rfl : rfqId = id := PollTask.fetching.inj (ht.symm.trans ht')
    rw [getEvents_shown h.inv hserved (h.asks ht)]
    exact List.prefix_rfl
  · have hu : c.answer u = some answered := by
      simpa [Function.update_of_ne htu] using hu
    exact h.answer u answered hu

/-- A step of the engine appends to one session at most. -/
theorem step_log_others {e : EngineState σ} (he : EngineState.Inv env (fun _ _ => True) e)
    (i : EngineLabel) :
    ∃ r, ∀ q, q ≠ r → (run (EngineState.step env) e [i]).manager.log q = e.manager.log q := by
  rw [run_cons, run_nil, next]
  cases hstep : e.step env i with
  | none => exact ⟨[], fun _ _ => rfl⟩
  | some e' =>
    have hhistory : e'.history = e.history ∨ ∃ en, e'.history = e.history ++ [en] := by
      rcases he.step_grows hstep with hsame | ⟨m, -, hgrows⟩
      · exact .inl hsame
      · exact hgrows.same_or_snoc
    have hlog := (he.step (EngineState.presents_true i) hstep).log
    rcases hhistory with hsame | ⟨en, hen⟩
    · refine ⟨[], fun q _ => ?_⟩
      rw [Option.getD_some, hlog, hsame, he.log]
    · refine ⟨en.rfqId, fun q hq => ?_⟩
      rw [Option.getD_some, hlog, hen, Engine.logOf_snoc, if_neg hq, he.log]

theorem Simulates.next [ServedStore σ] (h : Simulates env k config labels engineLabels c)
    (i : ServedBuyerLabel lib) :
    ∃ labels' engineLabels', Simulates env k config (labels ++ labels')
      (engineLabels ++ engineLabels') (Transition.next (step env k config) c i) ∧
        labels'.filter BuyerLabel.isLocal = i.own.toList := by
  have happends : ∀ (r : JsString) (events : List NegotiationEvent),
      (events.map (BuyerLabel.append r : _ → BuyerLabel lib)).filter BuyerLabel.isLocal = [] := by
    intro r events
    simp [List.filter_map, List.filter_eq_nil_iff, BuyerLabel.isLocal]
  have hstays : Simulates env k config (labels ++ []) (engineLabels ++ []) c := by
    simpa using h
  cases i with
  | engine i =>
    obtain ⟨r, hothers⟩ := step_log_others h.inv i
    obtain ⟨events, hmoved⟩ := h.moveEngine [i] hothers
    refine ⟨_, [i], ?_, happends r events⟩
    have hnext : Transition.next (step env k config) c (.engine i) =
        { c with engine := run (EngineState.step env) c.engine [i] } := by
      rw [run_cons, run_nil, Transition.next, Transition.next, step]
      cases c.engine.step env i <;> rfl
    exact hnext ▸ hmoved
  | agent i =>
    by_cases hlocal : i.isLocal = true
    · refine ⟨[i], [], ?_, by simp [ServedBuyerLabel.own, hlocal]⟩
      have hnext : Transition.next (step env k config) c (.agent i) =
          { c with buyer :=
            Transition.next (BuyerRun.step (buyerConfig k config)) c.buyer i } := by
        rw [Transition.next, Transition.next, step, if_pos hlocal]
        cases c.buyer.step (buyerConfig k config) i <;> rfl
      rw [hnext, List.append_nil]
      exact h.moveAgent hlocal
    · refine ⟨[], [], ?_, by simp [ServedBuyerLabel.own, hlocal]⟩
      rw [Transition.next, step, if_neg hlocal]
      exact hstays
  | serve t issued checked now =>
    rw [Transition.next, step]
    split
    · rename_i rfqId ht _
      obtain ⟨events, is, hserved⟩ := h.serve ht issued checked now
      exact ⟨_, is, hserved, happends rfqId events⟩
    · exact ⟨[], [], hstays, rfl⟩
  | arrive t now =>
    rw [Transition.next, step]
    split
    · rename_i rfqId events ht hanswer
      cases hagent : c.buyer.agent.step (buyerConfig k config) (.eventsArrive t events now) with
      | none => exact ⟨[], [], hstays, rfl⟩
      | some agent =>
        refine ⟨[.eventsArrive t events.length now], [], ?_, rfl⟩
        rw [List.append_nil]
        exact h.arrive ht hanswer hagent
    · exact ⟨[], [], hstays, rfl⟩

theorem Simulates.run [ServedStore σ] (env : EngineEnv) (k : Keypair env.toCrypto)
    (config : BuyerAgentConfig lib) (is : List (ServedBuyerLabel lib)) :
    ∃ labels engineLabels, Simulates env k config labels engineLabels
        (run (step env k config) (ServedBuyer.start : ServedBuyer σ lib) is) ∧
      labels.filter BuyerLabel.isLocal = is.filterMap ServedBuyerLabel.own := by
  induction is using List.reverseRecOn with
  | nil => exact ⟨[], [], .start env k config, rfl⟩
  | append_singleton is i ih =>
    obtain ⟨labels, engineLabels, h, hown⟩ := ih
    obtain ⟨labels', engineLabels', hnext, hown'⟩ := h.next i
    refine ⟨labels ++ labels', engineLabels ++ engineLabels', ?_, ?_⟩
    · rw [run_append]
      exact hnext
    · rw [List.filter_append, List.filterMap_append, hown, hown']
      cases hi : i.own <;> simp [hi]

/-- A buyer agent that runs against the engine is in the state of a run of the agent beside the
logs of its sessions as the engine shows them, with the agent's own steps, whatever the engine
does meanwhile; the engine is in the state of one of its runs. -/
theorem served_buyer_refines [ServedStore σ] (env : EngineEnv) (k : Keypair env.toCrypto)
    (config : BuyerAgentConfig lib) (is : List (ServedBuyerLabel lib)) :
    let c := run (step env k config) (ServedBuyer.start : ServedBuyer σ lib) is
    ∃ labels engineLabels, c.engine = run (EngineState.step env) EngineState.empty engineLabels ∧
      run (BuyerRun.step (buyerConfig k config)) .empty labels =
        c.buyer.withLog (fun rfqId => shownTo k.did (c.engine.manager.log rfqId)) ∧
      labels.filter BuyerLabel.isLocal = is.filterMap ServedBuyerLabel.own := by
  intro c
  obtain ⟨labels, engineLabels, h, hown⟩ := Simulates.run (σ := σ) env k config is
  exact ⟨labels, engineLabels, h.engine, h.buyer, hown⟩

/-! ### What the agent accepts -/

/-- The offers of a log are those of its session. -/
theorem offer_recorded {log : List Engine.NegotiationEvent} {s : DerivedSession}
    (hs : deriveState log = .ok (some s)) :
    ∀ event ∈ log, event.type = .offerSubmitted → ∃ o ∈ s.offers, event.actor = o.seller ∧
      event.payload.lookup (js "offer_id") = some (.str o.offerId) ∧
        event.payload.lookup (js "seller") = some (.str o.seller) := by
  refine Engine.derives_induction (C := fun log s => ∀ event ∈ log, event.type = .offerSubmitted →
    ∃ o ∈ s.offers, event.actor = o.seller ∧
      event.payload.lookup (js "offer_id") = some (.str o.offerId) ∧
        event.payload.lookup (js "seller") = some (.str o.seller)) ?_ ?_ hs
  · intro event s hopen other hother htype
    obtain rfl : other = event := by simpa using hother
    simp [Engine.initialSession, htype, ensure, Bind.bind, Except.bind] at hopen
  · intro log event s s' _ hstep ih other hother htype
    rw [List.mem_append, List.mem_singleton] at hother
    rcases hother with hother | rfl
    · obtain ⟨o, ho, hrecorded⟩ := ih other hother htype
      refine ⟨o, ?_, hrecorded⟩
      cases hstep with
      | offerSubmitted => exact List.mem_append_left _ ho
      | _ => exact ho
    · cases hstep with
      | offerSubmitted offer _ _ hactor hpayload hseller =>
        exact ⟨offer, by simp, hactor, hpayload, hseller⟩
      | counterSent | winnerSelected | rollback | quoteSigned | quoteCommitted | marker
        | expired | cancelled => simp_all

/-- However the engine and the agent interleave, the agent accepts nothing but offers that the
engine has recorded for the session, each from the seller that it names. -/
theorem accepts_recorded_offers [ServedStore σ] (env : EngineEnv) (k : Keypair env.toCrypto)
    (config : BuyerAgentConfig lib) (is : List (ServedBuyerLabel lib)) :
    let c := run (step env k config) (ServedBuyer.start : ServedBuyer σ lib) is
    ∀ rfqId offer revision, .accept rfqId offer revision ∈ c.buyer.agent.sent →
      ∃ event ∈ c.engine.manager.log rfqId, ∃ s, ∃ o ∈ s.offers,
        deriveState (c.engine.manager.log rfqId) = .ok (some s) ∧
          event.type = .offerSubmitted ∧ event.actor = o.seller ∧ offer = .obj event.payload ∧
            SellerOffer.offerId offer = some (.str o.offerId) ∧
              SellerOffer.seller offer = some (.str o.seller) := by
  intro c rfqId offer revision hsent
  obtain ⟨labels, engineLabels, h, -⟩ := Simulates.run (σ := σ) env k config is
  obtain ⟨read, hread, hname, hpayload⟩ := h.knows.sent rfqId offer revision hsent
  have hread : read ∈ shownTo k.did (c.engine.manager.log rfqId) := hread
  obtain ⟨session, hs⟩ := h.inv.consistent.accepted rfqId
  have hs : deriveState (c.engine.manager.log rfqId) = .ok session := hs
  cases session with
  | none => simp [shownTo, hs] at hread
  | some s =>
    rw [shownTo_eq hs] at hread
    obtain ⟨event, hevent, rfl⟩ := List.mem_map.mp hread
    have hlogged := (List.mem_filter.mp hevent).1
    have hnames : ∀ type : Engine.EventType, normalizeEventType (some type.text) = js "offer" →
        type = .offerSubmitted := by
      intro type
      cases type <;> decide +kernel
    have htype : event.type = .offerSubmitted := hnames _ hname
    obtain ⟨o, ho, hactor, hid, hseller⟩ := offer_recorded hs event hlogged htype
    obtain rfl : Json.obj event.payload = offer := Option.some.inj hpayload
    exact ⟨event, hlogged, s, o, ho, hs, htype, hactor, rfl, hid, hseller⟩

end ServedBuyer
end GhostBazaar.Agents
