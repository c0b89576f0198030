import GhostBazaar.Agents.EngineClient
import GhostBazaar.Agents.EngineEvents
import GhostBazaar.Agents.SellerFeed
import GhostBazaar.Engine.Growth

/-! The seller agent beside the engine that it reads. Whatever the engine does between the polls
and while they wait, the agent runs as it does beside a log that only grows. -/
namespace GhostBazaar.Agents
open Js GhostBazaar.Core Strategy Transition
open Engine (EngineEnv EngineState EngineLabel InternalEventStore EventStorage InMemoryEventStore
  deriveState pollEvents authenticateCaller)

variable {σ : Type} [InternalEventStore σ] {lib : DecimalLib}

/-- A store that serves the log that the engine appends to. -/
class ServedStore (σ : Type) [InternalEventStore σ] extends EventStorage σ where
  getAllEvents_eq : ∀ s r, getAllEvents s r = InternalEventStore.getAllEvents s r

instance : ServedStore InMemoryEventStore where
  getAllEvents_eq _ _ := rfl

/-! ### getEvents -/

/-- `getEvents`: the header is made at `issued` and checked at `checked`, and the route reads the
log at `now`. There are no events when one of them throws. -/
def getEvents [ServedStore σ] (env : EngineEnv) (k : Keypair env.toCrypto) (e : EngineState σ)
    (rfqId : JsString) (after : Option EventId) (issued checked now : ℤ) :
    EngineState σ × Option (List NegotiationEvent) :=
  match k.buildAuthHeader issued with
  | none => (e, none)
  | some header =>
    match authenticateCaller env.toCrypto checked (some header) with
    | .error _ => (e, none)
    | .ok callerDid =>
      (e.setManager (e.manager.getSession now rfqId).2,
        match (e.manager.getSession now rfqId).1 with
        | .error _ => none
        | .ok session =>
          match pollEvents e.manager.store rfqId callerDid session
            (after.map EventId.toJsString) with
          | .error _ => none
          | .ok reply => readEvents (.obj reply.body))

/-- The route reads the session, if it comes to that. -/
theorem getEvents_engine [ServedStore σ] (env : EngineEnv) (k : Keypair env.toCrypto)
    (e : EngineState σ) (rfqId : JsString) (after : Option EventId) (issued checked now : ℤ) :
    ∃ labels, (getEvents env k e rfqId after issued checked now).1 =
      run (EngineState.step env) e labels := by
  unfold getEvents
  split
  · exact ⟨[], rfl⟩
  · split
    · exact ⟨[], rfl⟩
    · exact ⟨[.read rfqId now], rfl⟩

theorem getEvents_log [ServedStore σ] {env : EngineEnv} (k : Keypair env.toCrypto)
    {e : EngineState σ} (he : EngineState.Inv env (fun _ _ => True) e) (rfqId : JsString)
    (after : Option EventId) (issued checked now : ℤ) (q : JsString) :
    (getEvents env k e rfqId after issued checked now).1.manager.log q = e.manager.log q := by
  unfold getEvents
  split
  · rfl
  · split
    · rfl
    · exact congrArg (InternalEventStore.getAllEvents · q)
        (he.consistent.getSession now rfqId).2.2.1

/-- What arrives at a client that asks for the events after one that it has been shown. -/
theorem getEvents_shown [ServedStore σ] {env : EngineEnv} {k : Keypair env.toCrypto}
    {e : EngineState σ} (he : EngineState.Inv env (fun _ _ => True) e) {rfqId : JsString}
    {after : Option EventId} {issued checked now : ℤ} {events : List NegotiationEvent}
    (hevents : (getEvents env k e rfqId after issued checked now).2 = some events)
    (hafter : ∀ id, after = some id →
      id ∈ (shownTo k.did (e.manager.log rfqId)).map (·.eventId)) :
    events = eventsAfter (shownTo k.did (e.manager.log rfqId)) after := by
  unfold getEvents at hevents
  split at hevents
  · cases hevents
  · rename_i header hheader
    rw [k.authenticateCaller_buildAuthHeader hheader] at hevents
    by_cases hdrift : |checked - issued| ≤ Engine.MAX_AUTH_DRIFT_MS
    · rw [if_pos hdrift] at hevents
      simp only [(he.consistent.getSession now rfqId).1] at hevents
      split at hevents
      · cases hevents
      · rename_i session hsession
        split at hevents
        · cases hevents
        · rename_i reply hreply
          obtain ⟨s, rfl, hread⟩ := readEvents_pollEvents hreply
          have hnodup : ((e.manager.log rfqId).map (·.eventId)).Nodup := by
            rw [he.log]
            exact he.journal.nodup_logOf rfqId
          rw [hread, Option.some.injEq, ServedStore.getAllEvents_eq] at hevents
          rw [eventsAfter_shownTo hsession hnodup hafter]
          exact hevents.symm
    · rw [if_neg hdrift] at hevents
      cases hevents

/-- A key is shown more events after a move of the engine, each under an id of its own. -/
theorem shownTo_run (env : EngineEnv) {e : EngineState σ} {labels : List EngineLabel}
    (he : e = run (EngineState.step env) EngineState.empty labels) (is : List EngineLabel)
    (did r : JsString) :
    ∃ events, shownTo did ((run (EngineState.step env) e is).manager.log r) =
        shownTo did (e.manager.log r) ++ events ∧
      ((shownTo did (e.manager.log r) ++ events).map (·.eventId)).Nodup := by
  have hmoved : run (EngineState.step env) e is =
      run (EngineState.step env) EngineState.empty (labels ++ is) := by
    rw [run_append, ← he]
  have hold : EngineState.Inv env (fun _ _ => True) e := he ▸ EngineState.run_inv_true env _
  have hnew : EngineState.Inv env (fun _ _ => True) (run (EngineState.step env) e is) :=
    hmoved ▸ EngineState.run_inv_true env _
  obtain ⟨more, hmore⟩ : e.manager.log r <+: (run (EngineState.step env) e is).manager.log r := by
    have hlog := EngineState.run_log_prefix (σ := σ) env labels is r
    rwa [← hmoved, ← he] at hlog
  obtain ⟨s, hs⟩ := hold.consistent.accepted r
  obtain ⟨s', hs'⟩ := hnew.consistent.accepted r
  rw [← hmore] at hs'
  obtain ⟨events, hshown⟩ := shownTo_append did hs' hs
  rw [hmore] at hshown
  refine ⟨events, hshown, ?_⟩
  rw [← hshown]
  apply nodup_shownTo
  rw [hnew.log]
  exact hnew.journal.nodup_logOf r

/-! ### The two side by side -/

/-- The agent of a key pair signs under its DID. -/
def sellerConfig {c : Crypto} (k : Keypair c) (config : SellerAgentConfig lib) :
    SellerAgentConfig lib :=
  { config with did := k.did }

/-- The agent keeps no log here: it has what the engine answers. -/
structure ServedSeller (σ : Type) (lib : DecimalLib) where
  engine : EngineState σ
  agent : SellerAgent lib
  /-- The events with which the engine has answered a poll. -/
  answer : SellerPollId → Option (List NegotiationEvent)

inductive ServedLabel (lib : DecimalLib) where
  | engine (i : EngineLabel)
  | agent (i : SellerLabel lib)
  /-- The engine answers the request of a poll. -/
  | serve (t : SellerPollId) (issued checked now : ℤ)
  /-- The answer is there. -/
  | arrive (t : SellerPollId) (now : ℤ)

/-- The step of the agent itself. -/
def ServedLabel.own : ServedLabel lib → Option (SellerLabel lib)
  | .agent i => if i.isLocal = true then some i else none
  | _ => none

namespace ServedSeller

def start (rfq : RFQ) : ServedSeller σ lib :=
  ⟨EngineState.empty, SellerAgent.start rfq, fun _ => none⟩

def step [ServedStore σ] (env : EngineEnv) (k : Keypair env.toCrypto)
    (config : SellerAgentConfig lib) (rfqId : JsString) (c : ServedSeller σ lib) :
    ServedLabel lib → Option (ServedSeller σ lib)
  | .engine i => (c.engine.step env i).map fun engine => { c with engine }
  | .agent i =>
    if i.isLocal = true then
      (c.agent.step (sellerConfig k config) i).map fun agent => { c with agent }
    else none
  | .serve t issued checked now =>
    match c.agent.task t, c.answer t with
    | .fetching after, none =>
      let served := getEvents env k c.engine rfqId after issued checked now
      some { c with engine := served.1, answer := Function.update c.answer t served.2 }
    | _, _ => none
  | .arrive t now =>
    match c.agent.task t, c.answer t with
    | .fetching _, some events =>
      some { c with agent := SellerAgent.process (sellerConfig k config) now t c.agent events }
    | _, _ => none

/-! ### The refinement -/

variable {env : EngineEnv} {k : Keypair env.toCrypto}
  {config : SellerAgentConfig lib} {rfq : RFQ} {c : ServedSeller σ lib}

/-- What the engine shows to the agent of the session. -/
def shown (did rfqId : JsString) (c : ServedSeller σ lib) : List NegotiationEvent :=
  shownTo did (c.engine.manager.log rfqId)

/-- The engine is in a state of one of its runs, and the agent in the state of a run beside the
log that the engine shows to it. An answer holds the first of the events that the poll asked for. -/
structure Simulates (env : EngineEnv) (k : Keypair env.toCrypto)
    (config : SellerAgentConfig lib) (rfq : RFQ) (labels : List (SellerLabel lib))
    (engineLabels : List EngineLabel) (c : ServedSeller σ lib) : Prop where
  engine : c.engine = run (EngineState.step env) EngineState.empty engineLabels
  agent : run (SellerAgent.step (sellerConfig k config)) (SellerAgent.start rfq) labels =
    c.agent.withLog (c.shown k.did rfq.rfqId)
  answer : ∀ t events, c.answer t = some events → c.agent.task t ≠ .idle ∧
    ∀ after, c.agent.task t = .fetching after →
      events <+: eventsAfter (c.shown k.did rfq.rfqId) after

variable {labels : List (SellerLabel lib)} {engineLabels : List EngineLabel}

theorem Simulates.start (env : EngineEnv) (k : Keypair env.toCrypto)
    (config : SellerAgentConfig lib) (rfq : RFQ) :
    Simulates env k config rfq [] [] (start rfq : ServedSeller σ lib) where
  engine := rfl
  agent := by
    have hempty : shown k.did rfq.rfqId (ServedSeller.start rfq : ServedSeller σ lib) = [] := by
      have hlog : (EngineState.empty : EngineState σ).manager.log rfq.rfqId = [] :=
        InternalEventStore.getAllEvents_empty rfq.rfqId
      rw [shown, ServedSeller.start, hlog]
      rfl
    rw [hempty]
    rfl
  answer t events h := by simp [ServedSeller.start] at h

theorem Simulates.inv (h : Simulates env k config rfq labels engineLabels c) :
    EngineState.Inv env (fun _ _ => True) c.engine :=
  h.engine ▸ EngineState.run_inv_true env engineLabels

theorem Simulates.knows (h : Simulates env k config rfq labels engineLabels c) :
    SellerAgent.Knows (sellerConfig k config) (c.agent.withLog (c.shown k.did rfq.rfqId)) :=
  h.agent ▸ SellerAgent.Knows.run _ rfq labels

/-- A poll asks for what comes after an event that the agent has been shown. -/
theorem Simulates.asks (h : Simulates env k config rfq labels engineLabels c) {t : SellerPollId}
    {after : Option EventId} (ht : c.agent.task t = .fetching after) :
    ∀ id, after = some id → id ∈ (c.shown k.did rfq.rfqId).map (·.eventId) := by
  rintro id rfl
  exact h.knows.fetching t id ht

/-- The agent takes in the events that the engine shows to it. -/
theorem run_appends (a : SellerAgent lib) (events : List NegotiationEvent)
    (hnodup : ((a.log ++ events).map (·.eventId)).Nodup) :
    run (SellerAgent.step (sellerConfig k config)) a (events.map .append) =
      a.withLog (a.log ++ events) := by
  induction events generalizing a with
  | nil => simp [SellerAgent.withLog]
  | cons event events ih =>
    have hfresh : event.eventId ∉ a.log.map (·.eventId) := by
      rw [List.map_append, List.nodup_append] at hnodup
      exact fun hid => hnodup.2.2 _ hid event.eventId (by simp) rfl
    have hnext : next (SellerAgent.step (sellerConfig k config)) a (.append event) =
        a.withLog (a.log ++ [event]) := by
      rw [next, SellerAgent.step, if_neg hfresh]
      rfl
    rw [List.map_cons, run_cons, hnext, ih]
    · simp [SellerAgent.withLog]
    · simpa [SellerAgent.withLog] using hnodup

/-- A move of the engine, after which the agent is shown the events that are new. -/
theorem Simulates.moveEngine (h : Simulates env k config rfq labels engineLabels c)
    (is : List EngineLabel) :
    ∃ events : List NegotiationEvent, Simulates env k config rfq
      (labels ++ events.map .append) (engineLabels ++ is)
      { c with engine := run (EngineState.step env) c.engine is } := by
  have hengine : run (EngineState.step env) c.engine is =
      run (EngineState.step env) EngineState.empty (engineLabels ++ is) := by
    rw [run_append, ← h.engine]
  obtain ⟨events, hshown, hnodup⟩ := shownTo_run env h.engine is k.did rfq.rfqId
  refine ⟨events, hengine, ?_, fun t answered hanswer => ?_⟩
  · rw [run_append, h.agent, run_appends _ _ hnodup]
    unfold shown
    rw [hshown]
    rfl
  · obtain ⟨hidle, hfetching⟩ := h.answer t answered hanswer
    refine ⟨hidle, fun after ht => ?_⟩
    have hasks : ∀ id, after = some id →
        id ∈ (shownTo k.did (c.engine.manager.log rfq.rfqId)).map (·.eventId) := h.asks ht
    unfold shown
    rw [hshown, eventsAfter_append hasks]
    exact (hfetching after ht).trans (List.prefix_append _ _)

/-- A step of the agent itself. -/
theorem Simulates.moveAgent (h : Simulates env k config rfq labels engineLabels c)
    {i : SellerLabel lib} (hlocal : i.isLocal = true) :
    Simulates env k config rfq (labels ++ [i]) engineLabels
      { c with agent := next (SellerAgent.step (sellerConfig k config)) c.agent i } := by
  refine ⟨h.engine, ?_, fun t events hanswer => ?_⟩
  · rw [run_append, h.agent, run_cons, run_nil, next, SellerAgent.step_withLog hlocal, next]
    cases SellerAgent.step (sellerConfig k config) c.agent i <;> rfl
  · obtain ⟨hidle, hfetching⟩ := h.answer t events hanswer
    rw [next]
    cases hstep : SellerAgent.step (sellerConfig k config) c.agent i with
    | none => exact ⟨hidle, hfetching⟩
    | some agent =>
      have hreading : (agent.task t).isReading = true → agent.task t = c.agent.task t := by
        intro hreads
        rcases SellerAgent.step_reading hstep hreads with hsame | ⟨-, hstart, -⟩
        · exact hsame
        · exact absurd hstart hidle
      constructor
      · intro ht
        have ht : agent.task t = .idle := ht
        exact hidle (hreading (by rw [ht, SellerTask.isReading]) ▸ ht)
      · intro after ht
        have ht : agent.task t = .fetching after := ht
        exact hfetching after (hreading (by rw [ht, SellerTask.isReading]) ▸ ht)

/-- The answer of the engine arrives. -/
theorem Simulates.arrive (h : Simulates env k config rfq labels engineLabels c) {t : SellerPollId}
    {after : Option EventId} {events : List NegotiationEvent}
    (ht : c.agent.task t = .fetching after) (hanswer : c.answer t = some events) (now : ℤ) :
    Simulates env k config rfq (labels ++ [.eventsArrive t events.length now]) engineLabels
      { c with agent := SellerAgent.process (sellerConfig k config) now t c.agent events } := by
  have htake : (eventsAfter (c.shown k.did rfq.rfqId) after).take events.length = events :=
    (List.prefix_iff_eq_take.mp ((h.answer t events hanswer).2 after ht)).symm
  refine ⟨h.engine, ?_, fun u answered hu => ?_⟩
  · have hstep : SellerAgent.step (sellerConfig k config)
        (c.agent.withLog (c.shown k.did rfq.rfqId)) (.eventsArrive t events.length now) =
          some ((SellerAgent.process (sellerConfig k config) now t c.agent events).withLog
            (c.shown k.did rfq.rfqId)) := by
      have ht : (c.agent.withLog (c.shown k.did rfq.rfqId)).task t = .fetching after := ht
      simp only [SellerAgent.step, ht]
      rw [← SellerAgent.process_withLog]
      exact congrArg (fun events => some (SellerAgent.process _ now t _ events)) htake
    rw [run_append, h.agent, run_cons, run_nil, next, hstep]
    rfl
  · obtain ⟨hidle, hfetching⟩ := h.answer u answered hu
    constructor
    · intro hstopped
      have hstopped : (SellerAgent.process (sellerConfig k config) now t c.agent events).task u =
          .idle := hstopped
      exact hidle (SellerAgent.process_reading (by rw [hstopped, SellerTask.isReading]) ▸ hstopped)
    · intro after hstopped
      have hstopped : (SellerAgent.process (sellerConfig k config) now t c.agent events).task u =
          .fetching after := hstopped
      exact hfetching after
        (SellerAgent.process_reading (by rw [hstopped, SellerTask.isReading]) ▸ hstopped)

/-- The engine answers a poll. -/
theorem Simulates.serve [ServedStore σ] (h : Simulates env k config rfq labels engineLabels c)
    {t : SellerPollId} {after : Option EventId} (ht : c.agent.task t = .fetching after)
    (issued checked now : ℤ) :
    ∃ (events : List NegotiationEvent) (is : List EngineLabel), Simulates env k config rfq
      (labels ++ events.map .append) (engineLabels ++ is)
      { c with
        engine := (getEvents env k c.engine rfq.rfqId after issued checked now).1
        answer := Function.update c.answer t
          (getEvents env k c.engine rfq.rfqId after issued checked now).2 } := by
  obtain ⟨is, hengine⟩ := getEvents_engine env k c.engine rfq.rfqId after issued checked now
  have hlog := getEvents_log k h.inv rfq.rfqId after issued checked now rfq.rfqId
  obtain ⟨events, hmoved⟩ := h.moveEngine is
  refine ⟨events, is, hengine ▸ hmoved.engine, hengine ▸ hmoved.agent, fun u answered hu => ?_⟩
  have hshown : shownTo k.did ((getEvents env k c.engine rfq.rfqId after issued checked
      now).1.manager.log rfq.rfqId) = c.shown k.did rfq.rfqId := by
    rw [hlog]
    rfl
  unfold shown
  simp only [hshown]
  by_cases htu : u = t
  · subst htu
    have hserved : (getEvents env k c.engine rfq.rfqId after issued checked now).2 =
        some answered := by
      simpa using hu
    refine ⟨by simp [ht], fun after' ht' => ?_⟩
    obtain rfl : after = after' := SellerTask.fetching.inj (ht.symm.trans ht')
    rw [getEvents_shown h.inv hserved (h.asks ht)]
    exact List.prefix_rfl
  · have hu : c.answer u = some answered := by
      simpa [Function.update_of_ne htu] using hu
    exact h.answer u answered hu

theorem Simulates.next [ServedStore σ] (h : Simulates env k config rfq labels engineLabels c)
    (i : ServedLabel lib) :
    ∃ labels' engineLabels', Simulates env k config rfq (labels ++ labels')
      (engineLabels ++ engineLabels') (Transition.next (step env k config rfq.rfqId) c i) ∧
        labels'.filter SellerLabel.isLocal = i.own.toList := by
  have happends : ∀ events : List NegotiationEvent,
      (events.map (SellerLabel.append : _ → SellerLabel lib)).filter SellerLabel.isLocal = [] := by
    intro events
    simp [List.filter_map, List.filter_eq_nil_iff, SellerLabel.isLocal]
  have hstays : Simulates env k config rfq (labels ++ []) (engineLabels ++ []) c := by
    simpa using h
  cases i with
  | engine i =>
    obtain ⟨events, hmoved⟩ := h.moveEngine [i]
    refine ⟨_, [i], ?_, happends events⟩
    have hnext : Transition.next (step env k config rfq.rfqId) c (.engine i) =
        { c with engine := run (EngineState.step env) c.engine [i] } := by
      rw [run_cons, run_nil, Transition.next, Transition.next, step]
      cases c.engine.step env i <;> rfl
    exact hnext ▸ hmoved
  | agent i =>
    by_cases hlocal : i.isLocal = true
    · refine ⟨[i], [], ?_, by simp [ServedLabel.own, hlocal]⟩
      have hnext : Transition.next (step env k config rfq.rfqId) c (.agent i) =
          { c with agent :=
            Transition.next (SellerAgent.step (sellerConfig k config)) c.agent i } := by
        rw [Transition.next, Transition.next, step, if_pos hlocal]
        cases c.agent.step (sellerConfig k config) i <;> rfl
      rw [hnext, List.append_nil]
      exact h.moveAgent hlocal
    · refine ⟨[], [], ?_, by simp [ServedLabel.own, hlocal]⟩
      rw [Transition.next, step, if_neg hlocal]
      exact hstays
  | serve t issued checked now =>
    rw [Transition.next, step]
    split
    · rename_i after ht _
      obtain ⟨events, is, hserved⟩ := h.serve ht issued checked now
      exact ⟨_, is, hserved, happends events⟩
    · exact ⟨[], [], hstays, rfl⟩
  | arrive t now =>
    rw [Transition.next, step]
    split
    · rename_i after events ht hanswer
      refine ⟨[.eventsArrive t events.length now], [], ?_, rfl⟩
      rw [List.append_nil]
      exact h.arrive ht hanswer now
    · exact ⟨[], [], hstays, rfl⟩

theorem Simulates.run [ServedStore σ] (env : EngineEnv) (k : Keypair env.toCrypto)
    (config : SellerAgentConfig lib) (rfq : RFQ) (is : List (ServedLabel lib)) :
    ∃ labels engineLabels, Simulates env k config rfq labels engineLabels
        (run (step env k config rfq.rfqId) (ServedSeller.start rfq : ServedSeller σ lib) is) ∧
      labels.filter SellerLabel.isLocal = is.filterMap ServedLabel.own := by
  induction is using List.reverseRecOn with
  | nil => exact ⟨[], [], .start env k config rfq, rfl⟩
  | append_singleton is i ih =>
    obtain ⟨labels, engineLabels, h, hown⟩ := ih
    obtain ⟨labels', engineLabels', hnext, hown'⟩ := h.next i
    refine ⟨labels ++ labels', engineLabels ++ engineLabels', ?_, ?_⟩
    · rw [run_append]
      exact hnext
    · rw [List.filter_append, List.filterMap_append, hown, hown']
      cases hi : i.own <;> simp [hi]

/-- A seller agent that runs against the engine is in the state of a run of the agent beside the
log of its session as the engine shows it, with the agent's own steps, whatever the engine does
meanwhile; the engine is in the state of one of its runs. -/
theorem served_seller_refines [ServedStore σ] (env : EngineEnv) (k : Keypair env.toCrypto)
    (config : SellerAgentConfig lib) (rfq : RFQ) (is : List (ServedLabel lib)) :
    let c := run (step env k config rfq.rfqId) (ServedSeller.start rfq : ServedSeller σ lib) is
    ∃ labels engineLabels, c.engine = run (EngineState.step env) EngineState.empty engineLabels ∧
      run (SellerAgent.step (sellerConfig k config)) (SellerAgent.start rfq) labels =
        c.agent.withLog (shownTo k.did (c.engine.manager.log rfq.rfqId)) ∧
      labels.filter SellerLabel.isLocal = is.filterMap ServedLabel.own := by
  intro c
  obtain ⟨labels, engineLabels, h, hown⟩ := Simulates.run (σ := σ) env k config rfq is
  exact ⟨labels, engineLabels, h.engine, h.agent, hown⟩

/-! ### What the agent answers -/

/-- The counters of a log were sent by the buyer of its session. -/
theorem counter_actor {log : List Engine.NegotiationEvent} {s : Engine.DerivedSession}
    (hs : deriveState log = .ok (some s)) :
    ∀ event ∈ log, event.type = .counterSent → event.actor = s.rfq.buyer := by
  refine Engine.derives_induction (C := fun log s =>
    ∀ event ∈ log, event.type = .counterSent → event.actor = s.rfq.buyer) ?_ ?_ hs
  · intro event s hopen other hother htype
    obtain rfl : other = event := by simpa using hother
    simp [Engine.initialSession, htype, ensure, Bind.bind, Except.bind] at hopen
  · intro log event s s' _ hstep ih other hother htype
    have hrfq : s'.rfq = s.rfq := hstep.rfq
    rw [List.mem_append, List.mem_singleton] at hother
    rcases hother with hother | rfl
    · rw [hrfq]
      exact ih other hother htype
    · cases hstep with
      | counterSent counter _ _ hactor => exact hactor
      | offerSubmitted | winnerSelected | rollback | quoteSigned | quoteCommitted | marker
        | expired | cancelled => simp_all

/-- The type of a counter has a name of its own. -/
theorem isCounter_shownEvent {config : SellerAgentConfig lib} {event : Engine.NegotiationEvent}
    (h : SellerAgent.isCounter config (shownEvent event) = true) :
    event.type = .counterSent ∧ event.actor ≠ config.did := by
  have hnames : ∀ type : Engine.EventType, normalizeEventType (some type.text) = js "counter" →
      type = .counterSent := by
    intro type
    cases type <;> decide +kernel
  obtain ⟨hname, hactor⟩ := of_decide_eq_true h
  exact ⟨hnames _ hname, hactor⟩

/-- However the engine and the agent interleave, the agent makes offers in answer to nothing but
the counters that the buyer of the session has sent to it and that the engine has recorded. -/
theorem answers_buyers_counters [ServedStore σ] (env : EngineEnv) (k : Keypair env.toCrypto)
    (config : SellerAgentConfig lib) (rfq : RFQ) (is : List (ServedLabel lib)) :
    let c := run (step env k config rfq.rfqId) (ServedSeller.start rfq : ServedSeller σ lib) is
    ∀ answered ∈ c.agent.offersFor, ∃ event ∈ c.engine.manager.log rfq.rfqId, ∃ s,
      deriveState (c.engine.manager.log rfq.rfqId) = .ok (some s) ∧ answered = shownEvent event ∧
        event.type = .counterSent ∧ event.actor = s.rfq.buyer ∧ event.actor ≠ k.did ∧
          event.payload.lookup (js "to") = some (.str k.did) := by
  intro c answered hanswered
  obtain ⟨labels, engineLabels, h, -⟩ := Simulates.run (σ := σ) env k config rfq is
  obtain ⟨hmem, hcounter⟩ := h.knows.offersFor answered hanswered
  have hmem : answered ∈ shownTo k.did (c.engine.manager.log rfq.rfqId) := hmem
  obtain ⟨session, hs⟩ := h.inv.consistent.accepted rfq.rfqId
  have hs : deriveState (c.engine.manager.log rfq.rfqId) = .ok session := hs
  cases session with
  | none => simp [shownTo, hs] at hmem
  | some s =>
    rw [shownTo_eq hs] at hmem
    obtain ⟨event, hevent, rfl⟩ := List.mem_map.mp hmem
    obtain ⟨hlogged, hvisible⟩ := List.mem_filter.mp hevent
    obtain ⟨htype, hother⟩ := isCounter_shownEvent hcounter
    have hother : event.actor ≠ k.did := hother
    have hactor := counter_actor hs event hlogged htype
    have hne : k.did ≠ s.rfq.buyer := fun heq => hother (hactor.trans heq.symm)
    rw [Engine.isEventVisibleTo, if_neg hne] at hvisible
    simp only [htype, decide_eq_true_eq] at hvisible
    exact ⟨event, hlogged, s, hs, rfl, htype, hactor, hother, hvisible⟩

end ServedSeller
end GhostBazaar.Agents
