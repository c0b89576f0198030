import GhostBazaar.Agents.BuyerDecision
import GhostBazaar.Agents.SellerRetries

/-! Polls of both agents that overlap. A timer starts a poll whether or not the one before has
come to its end; an event is handled once as long as events only arrive in turn. -/
namespace GhostBazaar.Agents
open Js GhostBazaar.Core Strategy Transition

variable {lib : DecimalLib}

/-! ### The buyer beside the log of the engine -/

structure BuyerRun (lib : DecimalLib) where
  agent : BuyerAgent lib
  /-- The events of a session that the engine shows to the buyer. -/
  log : JsString → List NegotiationEvent
  /-- The cursor that a poll has asked with. -/
  after : PollId → Option EventId

inductive BuyerLabel (lib : DecimalLib) where
  | append (rfqId : JsString) (event : NegotiationEvent)
  | poll (t : PollId) (rfqId : JsString)
  /-- The answer holds the first `n` of the events after the cursor. -/
  | eventsArrive (t : PollId) (n : ℕ) (now : ℤ)
  | other (label : AgentLabel lib)

namespace BuyerAgent

/-- The labels that do not concern the log. -/
def isOther : AgentLabel lib → Bool
  | .poll .. | .eventsArrive .. => false
  | _ => true

end BuyerAgent

namespace BuyerRun

def empty : BuyerRun lib := ⟨.empty, fun _ => [], fun _ => none⟩

def step (config : BuyerAgentConfig lib) (b : BuyerRun lib) :
    BuyerLabel lib → Option (BuyerRun lib)
  | .append rfqId event =>
    if event.eventId ∈ (b.log rfqId).map (·.eventId) then none
    else some { b with log := Function.update b.log rfqId (b.log rfqId ++ [event]) }
  | .poll t rfqId => (b.agent.step config (.poll t rfqId)).map fun agent =>
    { b with
      agent := agent
      after := Function.update b.after t ((b.agent.sessions.get? rfqId).bind (·.lastEventId)) }
  | .eventsArrive t n now =>
    match b.agent.task t with
    | .fetching rfqId =>
      (b.agent.step config (.eventsArrive t ((eventsAfter (b.log rfqId) (b.after t)).take n)
        now)).map fun agent => { b with agent := agent }
    | _ => none
  | .other label =>
    if BuyerAgent.isOther label then
      (b.agent.step config label).map fun agent => { b with agent := agent }
    else none

/-- Events arrive for the cursor that the session still has. -/
def InTurn (b : BuyerRun lib) : BuyerLabel lib → Prop
  | .eventsArrive t _ _ => ∀ rfqId s, b.agent.task t = .fetching rfqId →
    b.agent.sessions.get? rfqId = some s → s.lastEventId = b.after t
  | _ => True

end BuyerRun

/-! ### The sessions of the buyer -/

namespace BuyerAgent

variable {config : BuyerAgentConfig lib} {b b' : BuyerAgent lib}
  {P : JsString → BuyerAgentSession → Prop}

/-- Every session, with its key, meets `P`. -/
def Sessions (P : JsString → BuyerAgentSession → Prop) (b : BuyerAgent lib) : Prop :=
  ∀ rfqId s, b.sessions.get? rfqId = some s → P rfqId s

theorem Sessions.setSession (h : Sessions P b) {rfqId : JsString} {s : BuyerAgentSession}
    (hs : P rfqId s) : Sessions P (b.setSession rfqId s) := by
  intro id s' hs'
  rw [BuyerAgent.setSession, JsMap.get?_set] at hs'
  split_ifs at hs' with hid
  · cases hs'
    exact hid ▸ hs
  · exact h id s' hs'

/-- `P` is about the events that a session has read, under its own id. -/
structure AboutEvents (P : JsString → BuyerAgentSession → Prop) : Prop where
  key : ∀ id s, P id s → s.rfqId = id
  same : ∀ id s s', P id s → s'.rfqId = s.rfqId → s'.events = s.events →
    s'.lastEventId = s.lastEventId → P id s'
  new : ∀ rfq : RFQ, P rfq.rfqId (newSession rfq)

theorem Sessions.replace (h : Sessions P b) (hP : AboutEvents P) {rfqId : JsString}
    {s s' : BuyerAgentSession} (hs : b.sessions.get? rfqId = some s) (hid : s'.rfqId = s.rfqId)
    (hevents : s'.events = s.events) (hcursor : s'.lastEventId = s.lastEventId) :
    Sessions P (b.setSession rfqId s') :=
  h.setSession (hP.same rfqId s s' (h rfqId s hs) hid hevents hcursor)

theorem Sessions.execute (h : Sessions P b) (hP : AboutEvents P) (t : PollId)
    {rfqId : JsString} {s : BuyerAgentSession} (hs : b.sessions.get? rfqId = some s)
    (asked : BuyerStrategyContext lib) (counterId : JsString) (action : BuyerAction lib) :
    Sessions P (b.execute config t s asked counterId action) := by
  have hkey := hP.key rfqId s (h rfqId s hs)
  subst hkey
  cases action with
  | counter seller price =>
    simp only [BuyerAgent.execute]
    split_ifs
    · exact h
    all_goals exact h.replace hP hs rfl rfl rfl
  | accept seller =>
    simp only [BuyerAgent.execute]
    cases targetOffer s seller with
    | none => exact h
    | some offer => exact h
  | wait => exact h
  | cancel => exact h.replace hP hs rfl rfl rfl

/-- Apart from new events, a step leaves what the sessions have read. -/
theorem Sessions.step (h : Sessions P b) (hP : AboutEvents P) {label : AgentLabel lib}
    (hother : isOther label = true) (hstep : b.step config label = some b') : Sessions P b' := by
  cases steps_of_step hstep with
  | @postRfq params rfqId signature budgetCommitment now deadline _ =>
    exact Sessions.setSession h
      (hP.new (newRfq config params rfqId signature budgetCommitment deadline))
  | poll => cases hother
  | eventsArrive => cases hother
  | strategyAnswers strategy counterId _ hs =>
    unfold BuyerAgent.strategyAnswers
    split
    · exact h
    · exact h.execute hP _ hs _ counterId _
  | counterPosted _ hs | quotePosted _ hs | accepted _ _ _ hs | stop hs =>
    exact h.replace hP hs rfl rfl rfl
  | proofReady | counterSigned | acceptSigned | quoteSigned | fails => exact h

theorem foldl_receive_events (now : ℤ) (events : List NegotiationEvent)
    (s : BuyerAgentSession) : (events.foldl (receive now) s).events = s.events ++ events := by
  induction events generalizing s with
  | nil => simp
  | cons event events ih =>
    have hread : (receive now s event).events = s.events ++ [event] := by
      unfold receive
      cases event.payload with
      | none =>
        dsimp only
        split_ifs <;> rfl
      | some offer =>
        dsimp only
        split_ifs <;> rfl
    rw [List.foldl_cons, ih, hread]
    simp

theorem receive_lastEventId (now : ℤ) (s : BuyerAgentSession) (event : NegotiationEvent) :
    (receive now s event).lastEventId = some event.eventId := by
  unfold receive
  cases event.payload with
  | none =>
    dsimp only
    split_ifs <;> rfl
  | some offer =>
    dsimp only
    split_ifs <;> rfl

end BuyerAgent

/-- The cursor of a session that keeps it at the last event it has read. -/
def BuyerAgentSession.AtLast (s : BuyerAgentSession) : Prop :=
  s.lastEventId = s.events.getLast?.map (·.eventId)

theorem BuyerAgentSession.AtLast.foldl_receive {s : BuyerAgentSession} (h : s.AtLast) (now : ℤ)
    (events : List NegotiationEvent) : (events.foldl (BuyerAgent.receive now) s).AtLast := by
  induction events generalizing s with
  | nil => exact h
  | cons event events ih =>
    apply ih
    have hread := BuyerAgent.foldl_receive_events now [event] s
    rw [List.foldl_cons, List.foldl_nil] at hread
    rw [AtLast, BuyerAgent.receive_lastEventId, hread]
    simp

namespace BuyerRun

variable {config : BuyerAgentConfig lib} {b b' : BuyerRun lib}

/-- A session has read a first part of its log. -/
def HasRead (log : JsString → List NegotiationEvent) (rfqId : JsString) (s : BuyerAgentSession) :
    Prop :=
  s.rfqId = rfqId ∧ s.events <+: log rfqId ∧ s.AtLast

theorem hasRead_aboutEvents (log : JsString → List NegotiationEvent) :
    BuyerAgent.AboutEvents (HasRead log) where
  key := fun id s h => h.1
  same := by
    intro id s s' h hid hevents hcursor
    refine ⟨hid.trans h.1, ?_, ?_⟩
    · rw [hevents]
      exact h.2.1
    · rw [BuyerAgentSession.AtLast, hevents, hcursor]
      exact h.2.2
  new := by
    intro rfq
    simp [HasRead, BuyerAgent.newSession, BuyerAgentSession.AtLast]

structure Reads (b : BuyerRun lib) : Prop where
  distinct : ∀ rfqId, ((b.log rfqId).map (·.eventId)).Nodup
  sessions : b.agent.Sessions (HasRead b.log)

theorem empty_reads : Reads (empty : BuyerRun lib) where
  distinct := by simp [empty]
  sessions := by
    intro rfqId s hs
    simp [empty, BuyerAgent.empty] at hs

theorem Reads.append (h : Reads b) {rfqId : JsString} {event : NegotiationEvent}
    (hfresh : event.eventId ∉ (b.log rfqId).map (·.eventId)) :
    Reads { b with log := Function.update b.log rfqId (b.log rfqId ++ [event]) } := by
  constructor
  · intro id
    dsimp only
    by_cases hid : id = rfqId
    · rw [hid, Function.update_self, List.map_append, List.map_singleton, List.nodup_append]
      refine ⟨h.distinct rfqId, List.nodup_singleton _, ?_⟩
      intro x hx y hy hxy
      rw [List.mem_singleton.mp hy] at hxy
      exact hfresh (hxy ▸ hx)
    · rw [Function.update_of_ne hid]
      exact h.distinct id
  · intro id s hs
    obtain ⟨hkey, hearlier, hlast⟩ := h.sessions id s hs
    refine ⟨hkey, ?_, hlast⟩
    dsimp only
    by_cases hid : id = rfqId
    · rw [hid, Function.update_self]
      exact (hid ▸ hearlier).trans (List.prefix_append _ _)
    · rw [Function.update_of_ne hid]
      exact hearlier

/-- A session reads on from its cursor. -/
theorem HasRead.arrive {log : JsString → List NegotiationEvent} {rfqId : JsString}
    {s : BuyerAgentSession} (h : HasRead log rfqId s)
    (hdistinct : ((log rfqId).map (·.eventId)).Nodup) (n : ℕ) (now : ℤ) :
    HasRead log rfqId (((eventsAfter (log rfqId) s.lastEventId).take n).foldl
      (BuyerAgent.receive now) s) := by
  obtain ⟨hkey, ⟨later, hlater⟩, hlast⟩ := h
  have hafter : eventsAfter (log rfqId) s.lastEventId = later := by
    rw [← hlater] at hdistinct ⊢
    exact eventsAfter_getLast hlast hdistinct
  refine ⟨(BuyerAgent.foldl_receive_keeps now _ s).1.trans hkey, ?_, hlast.foldl_receive now _⟩
  rw [BuyerAgent.foldl_receive_events, hafter, ← hlater]
  exact (List.prefix_append_right_inj _).mpr (List.take_prefix n later)

theorem Reads.step (h : Reads b) {label : BuyerLabel lib} (hlabel : InTurn b label)
    (hstep : b.step config label = some b') : Reads b' := by
  have hP := hasRead_aboutEvents b.log
  unfold BuyerRun.step at hstep
  cases label with
  | append rfqId event =>
    dsimp only at hstep
    split_ifs at hstep with hfresh
    cases hstep
    exact h.append hfresh
  | poll t rfqId =>
    obtain ⟨agent, hagent, rfl⟩ := Option.map_eq_some_iff.mp hstep
    refine ⟨h.distinct, ?_⟩
    cases BuyerAgent.steps_of_step hagent with
    | poll =>
      unfold BuyerAgent.start
      split
      · exact h.sessions
      · exact h.sessions
  | eventsArrive t n now =>
    dsimp only at hstep
    split at hstep
    · rename_i rfqId ht
      obtain ⟨agent, hagent, rfl⟩ := Option.map_eq_some_iff.mp hstep
      refine ⟨h.distinct, ?_⟩
      cases BuyerAgent.steps_of_step hagent with
      | @eventsArrive _ _ s _ _ hfetching hs =>
        rw [ht, PollTask.fetching.injEq] at hfetching
        subst hfetching
        have hread := h.sessions rfqId s hs
        have hcursor : s.lastEventId = b.after t := hlabel rfqId s ht hs
        have harrive := hread.arrive (h.distinct rfqId) n now
        rw [hcursor] at harrive
        unfold BuyerAgent.eventsArrive
        split_ifs
        · exact h.sessions
        · dsimp only
          rw [harrive.1]
          exact h.sessions.setSession harrive
    · cases hstep
  | other label =>
    dsimp only at hstep
    split_ifs at hstep with hother
    obtain ⟨agent, hagent, rfl⟩ := Option.map_eq_some_iff.mp hstep
    exact ⟨h.distinct, h.sessions.step hP hother hagent⟩

end BuyerRun

/-! ### One reaction for each event -/

/-- In runs where events only arrive in turn, an agent reads no event twice, and the seller
counts and answers each counter at most once. -/
theorem reactions_once (sellerConfig : SellerAgentConfig lib) (rfq : RFQ)
    (sellerLabels : List (SellerLabel lib)) (buyerConfig : BuyerAgentConfig lib)
    (buyerLabels : List (BuyerLabel lib))
    (hseller : Guarded (SellerAgent.step sellerConfig) SellerAgent.InTurn (SellerAgent.start rfq)
      sellerLabels)
    (hbuyer : Guarded (BuyerRun.step buyerConfig) BuyerRun.InTurn .empty buyerLabels) :
    let a := run (SellerAgent.step sellerConfig) (SellerAgent.start rfq) sellerLabels
    let b := run (BuyerRun.step buyerConfig) .empty buyerLabels
    (a.offersFor.map (·.eventId)).Nodup ∧
    a.session.round =
      ((a.session.events.filter (SellerAgent.isCounter sellerConfig)).map
        (·.eventId)).dedup.length ∧
    (a.session.events.map (·.eventId)).Nodup ∧
    ∀ rfqId s, b.agent.sessions.get? rfqId = some s → (s.events.map (·.eventId)).Nodup := by
  have hsellerInv := hseller.invariant
    (P := fun a => SellerAgent.Reads a ∧ SellerAgent.Counted sellerConfig a)
    (fun a label a' h hlabel hstep => ⟨h.1.move hlabel (SellerAgent.step_move hstep),
      h.2.move h.1 hlabel (SellerAgent.step_move hstep)⟩)
    ⟨SellerAgent.start_reads rfq, SellerAgent.start_counted rfq⟩
  obtain ⟨hreads, hcounted⟩ := hsellerInv
  have hbuyerInv : BuyerRun.Reads (run (BuyerRun.step buyerConfig) .empty buyerLabels) :=
    hbuyer.invariant (fun _ _ _ h hlabel hstep => h.step hlabel hstep) BuyerRun.empty_reads
  intro a b
  have hevents : (a.session.events.map (·.eventId)).Nodup :=
    hreads.distinct.sublist (hreads.prefix'.sublist.map _)
  refine ⟨?_, ?_, hevents, ?_⟩
  · apply List.Nodup.map_on _ hcounted.offers
    intro e he e' he' hid
    exact List.inj_on_of_nodup_map hevents (hcounted.offered e he) (hcounted.offered e' he') hid
  · have hcounters : ((a.session.events.filter (SellerAgent.isCounter sellerConfig)).map
        (·.eventId)).Nodup := hevents.sublist (List.filter_sublist.map _)
    rw [hcounters.dedup, List.length_map]
    exact hcounted.rounds
  · intro rfqId s hs
    obtain ⟨_, hearlier, _⟩ := hbuyerInv.sessions rfqId s hs
    exact (hbuyerInv.distinct rfqId).sublist (hearlier.sublist.map _)

/-! ### A poll that starts while another one waits -/

namespace SellerAgent

/-- Two polls fetch the counter before it has arrived at either. -/
def overlapping : List (SellerLabel BuyerAgent.sampleLib) :=
  [.append sampleCounter, .poll 0, .poll 1, .eventsArrive 0 1 0, .eventsArrive 1 1 0,
    .strategyAnswers 0 (.respond sampleSellerConfig.priv.targetPrice) (js "o1") 0,
    .strategyAnswers 1 (.respond sampleSellerConfig.priv.targetPrice) (js "o2") 0]

/-- The counter is read twice, counted twice and answered with two offers. -/
theorem counter_answered_twice :
    let a := run (step sampleSellerConfig) (start sampleRfq) overlapping
    a.log.length = 1 ∧ a.session.round = 2 ∧ ¬ (a.session.events.map (·.eventId)).Nodup ∧
      ¬ (a.offersFor.map (·.eventId)).Nodup := by
  decide +kernel

end SellerAgent

/-- The buyer posts its request, and a poll reads the first offer. -/
def readingOffer : List (BuyerLabel BuyerAgent.sampleLib) :=
  [.other BuyerAgent.samplePost, .append (js "rfq-1") (BuyerAgent.sampleOffer "o1" "30"),
    .poll 0 (js "rfq-1"), .eventsArrive 0 1 0]

theorem reactions_once_sample :
    ((run (SellerAgent.step SellerAgent.sampleSellerConfig)
      (SellerAgent.start SellerAgent.sampleRfq)
      (SellerAgent.asking [.poll 1])).session.events.map (·.eventId)).Nodup ∧
    ∀ rfqId s, (run (BuyerRun.step BuyerAgent.sampleConfig) .empty
      readingOffer).agent.sessions.get? rfqId = some s → (s.events.map (·.eventId)).Nodup := by
  have h := reactions_once SellerAgent.sampleSellerConfig SellerAgent.sampleRfq
    (SellerAgent.asking [.poll 1]) BuyerAgent.sampleConfig readingOffer ?_ ?_
  · exact h.2.2
  · refine ⟨trivial, trivial, ?_, trivial, trivial⟩
    intro after hafter
    cases hafter
    refine ⟨rfl, ?_⟩
    intro t ht k hk
    cases t with
    | zero => exact absurd rfl ht
    | succ t => cases hk
  · refine ⟨trivial, trivial, trivial, ?_, trivial⟩
    intro rfqId s htask hs
    have hkey : rfqId = js "rfq-1" := by
      have hfetching : (run (BuyerRun.step BuyerAgent.sampleConfig) .empty
        (readingOffer.take 3)).agent.task 0 = .fetching (js "rfq-1") := rfl
      exact PollTask.fetching.inj (htask.symm.trans hfetching)
    have hcursor : ∀ s ∈ (run (BuyerRun.step BuyerAgent.sampleConfig) .empty
        (readingOffer.take 3)).agent.sessions.get? (js "rfq-1"), s.lastEventId =
          (run (BuyerRun.step BuyerAgent.sampleConfig) .empty (readingOffer.take 3)).after 0 := by
      decide +kernel
    rw [hkey] at hs
    exact hcursor s hs

end GhostBazaar.Agents
