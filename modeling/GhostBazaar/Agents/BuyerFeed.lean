import GhostBazaar.Agents.Overlap
import GhostBazaar.Agents.SellerFeed

/-! What a buyer agent keeps of the logs it reads, however its polls overlap: its cursors are of
events of the session's log, and its offers are the payloads of offers there. -/
namespace GhostBazaar.Agents
open Js GhostBazaar.Core Strategy Transition

variable {lib : DecimalLib}

/-- The step is one of the agent, not of the engine that it reads. -/
def BuyerLabel.isLocal : BuyerLabel lib → Bool
  | .append .. | .eventsArrive .. => false
  | .poll .. | .other _ => true

/-- The poll has not started, or waits for events. -/
def PollTask.isReading : PollTask lib → Bool
  | .idle | .fetching _ => true
  | _ => false

/-- The log shows the offer. -/
def Offered (log : List NegotiationEvent) (offer : SellerOffer) : Prop :=
  ∃ event ∈ log, event.eventType = js "offer" ∧ event.payload = some offer

namespace BuyerAgent

variable {config : BuyerAgentConfig lib} {b b' : BuyerAgent lib}

theorem setTask_task_apply (b : BuyerAgent lib) (t u : PollId) (task : PollTask lib) :
    (b.setTask t task).task u = if u = t then task else b.task u := by
  simp only [setTask, Function.update_apply]

/-! ### Fetches -/

theorem setTask_reading {t u : PollId} {task : PollTask lib} (htask : task.isReading = false)
    (hu : ((b.setTask t task).task u).isReading = true) :
    (b.setTask t task).task u = b.task u := by
  rw [setTask_task_apply] at hu ⊢
  split_ifs at hu ⊢
  · rw [htask] at hu
    exact absurd hu (by decide)
  · rfl

theorem execute_reading {t u : PollId} {s : BuyerAgentSession} {asked : BuyerStrategyContext lib}
    {counterId : JsString} {action : BuyerAction lib}
    (hu : ((b.execute config t s asked counterId action).task u).isReading = true) :
    (b.execute config t s asked counterId action).task u = b.task u := by
  cases action with
  | counter seller price =>
    simp only [execute] at hu ⊢
    split_ifs at hu ⊢
    · exact setTask_reading rfl hu
    · exact setTask_reading (b := b.setSession _ _) rfl hu
    · exact setTask_reading (b := b.setSession _ _) rfl hu
  | accept seller =>
    simp only [execute] at hu ⊢
    cases htarget : targetOffer s seller <;> rw [htarget] at hu <;> exact setTask_reading rfl hu
  | wait => exact setTask_reading rfl hu
  | cancel => exact setTask_reading (b := b.setSession _ _) rfl hu

theorem eventsArrive_reading {t u : PollId} {events : List NegotiationEvent} {now : ℤ}
    {s : BuyerAgentSession} (hu : ((b.eventsArrive config t events now s).task u).isReading = true) :
    (b.eventsArrive config t events now s).task u = b.task u := by
  unfold eventsArrive at hu ⊢
  dsimp only at hu ⊢
  split_ifs at hu ⊢
  · exact setTask_reading rfl hu
  · exact setTask_reading (b := b.setSession _ _) rfl hu
  · exact setTask_reading (b := b.setSession _ _) rfl hu

/-- Apart from `poll`, no step makes a poll wait for events. -/
theorem step_reading {label : AgentLabel lib} (hother : isOther label = true)
    (hstep : b.step config label = some b') {u : PollId} (hu : (b'.task u).isReading = true) :
    b'.task u = b.task u := by
  cases steps_of_step hstep with
  | poll => cases hother
  | eventsArrive => cases hother
  | strategyAnswers strategy counterId =>
    unfold BuyerAgent.strategyAnswers at hu ⊢
    cases hanswer : strategy _ (contextNow _ _) with
    | error err =>
      simp only [hanswer] at hu ⊢
      exact setTask_reading rfl hu
    | ok action =>
      simp only [hanswer] at hu ⊢
      exact execute_reading hu
  | postRfq | stop => rfl
  | proofReady | fails => exact setTask_reading rfl hu
  | counterSigned | acceptSigned | quoteSigned => exact setTask_reading (b := b.send _) rfl hu
  | counterPosted | quotePosted | accepted => exact setTask_reading (b := b.setSession _ _) rfl hu

end BuyerAgent

namespace BuyerRun

variable {config : BuyerAgentConfig lib} {b b' : BuyerRun lib}

def withLog (b : BuyerRun lib) (log : JsString → List NegotiationEvent) : BuyerRun lib :=
  { b with log }

/-- A step of the agent itself does not depend on the log, and leaves it. -/
theorem step_withLog {label : BuyerLabel lib} (hlocal : label.isLocal = true) (b : BuyerRun lib)
    (log : JsString → List NegotiationEvent) :
    step config (b.withLog log) label = (step config b label).map (withLog · log) := by
  cases label with
  | append | eventsArrive => simp [BuyerLabel.isLocal] at hlocal
  | poll t rfqId =>
    simp only [step, withLog, Option.map_map]
    rfl
  | other label =>
    simp only [step, withLog]
    split_ifs
    · rw [Option.map_map]
      rfl
    · rfl

/-- A poll that waits for events after a step has waited for them before, or starts with it. -/
theorem step_reading {label : BuyerLabel lib} (hlocal : label.isLocal = true)
    (hstep : b.step config label = some b') {u : PollId}
    (hu : (b'.agent.task u).isReading = true) :
    b'.agent.task u = b.agent.task u ∧ b'.after u = b.after u ∨
      b.agent.task u = .idle ∧ b'.agent.task u ≠ .idle := by
  unfold BuyerRun.step at hstep
  cases label with
  | append | eventsArrive => simp [BuyerLabel.isLocal] at hlocal
  | poll t rfqId =>
    obtain ⟨agent, hagent, rfl⟩ := Option.map_eq_some_iff.mp hstep
    cases BuyerAgent.steps_of_step hagent with
    | poll _ htask =>
      by_cases hut : u = t
      · subst hut
        refine .inr ⟨htask, ?_⟩
        dsimp only
        unfold BuyerAgent.start
        split
        · simp [BuyerAgent.setTask_task]
        · rw [BuyerAgent.setTask_task]
          split_ifs <;> simp
      · refine .inl ⟨?_, Function.update_of_ne hut _ _⟩
        dsimp only
        unfold BuyerAgent.start
        split <;> rw [BuyerAgent.setTask_task_apply, if_neg hut]
  | other label =>
    dsimp only at hstep
    split_ifs at hstep with hother
    obtain ⟨agent, hagent, rfl⟩ := Option.map_eq_some_iff.mp hstep
    exact .inl ⟨BuyerAgent.step_reading hother hagent hu, rfl⟩

/-! ### What comes from the log -/

/-- The session has its cursor and its offers from the log. -/
structure Sourced (log : JsString → List NegotiationEvent) (rfqId : JsString)
    (s : BuyerAgentSession) : Prop where
  key : s.rfqId = rfqId
  cursor : ∀ id, s.lastEventId = some id → id ∈ (log rfqId).map (·.eventId)
  offers : ∀ offer ∈ s.offers, Offered (log rfqId) offer

theorem Sourced.receive {log : JsString → List NegotiationEvent} {rfqId : JsString}
    {s : BuyerAgentSession} (h : Sourced log rfqId s) (now : ℤ) {event : NegotiationEvent}
    (hevent : event ∈ log rfqId) : Sourced log rfqId (BuyerAgent.receive now s event) where
  key := (BuyerAgent.receive_keeps now s event).1.trans h.key
  cursor id hid := by
    rw [BuyerAgent.receive_lastEventId, Option.some.injEq] at hid
    exact hid ▸ List.mem_map_of_mem hevent
  offers offer hoffer := by
    have hcases : offer ∈ s.offers ∨ event.eventType = js "offer" ∧ event.payload = some offer := by
      unfold BuyerAgent.receive at hoffer
      cases hpayload : event.payload with
      | none =>
        simp only [hpayload] at hoffer
        split_ifs at hoffer <;> exact .inl hoffer
      | some payload =>
        simp only [hpayload] at hoffer
        split_ifs at hoffer with hcommitted hnew hnew
        · rcases List.mem_append.mp hoffer with hold | hlast
          · exact .inl hold
          · exact .inr ⟨hnew.1, by rw [List.mem_singleton.mp hlast]⟩
        · exact .inl hoffer
        · rcases List.mem_append.mp hoffer with hold | hlast
          · exact .inl hold
          · exact .inr ⟨hnew.1, by rw [List.mem_singleton.mp hlast]⟩
        · exact .inl hoffer
    rcases hcases with hold | ⟨htype, hpayload⟩
    · exact h.offers offer hold
    · exact ⟨event, hevent, htype, hpayload⟩

theorem Sourced.foldl_receive {log : JsString → List NegotiationEvent} {rfqId : JsString}
    {s : BuyerAgentSession} (h : Sourced log rfqId s) (now : ℤ) {events : List NegotiationEvent}
    (hevents : events ⊆ log rfqId) :
    Sourced log rfqId (events.foldl (BuyerAgent.receive now) s) := by
  induction events generalizing s with
  | nil => exact h
  | cons event events ih =>
    obtain ⟨hevent, hrest⟩ := List.cons_subset.mp hevents
    exact ih (h.receive now hevent) hrest

/-- What the agent holds of the logs, with the accepts that it signs and has sent. -/
structure Knows (b : BuyerRun lib) : Prop where
  nodup : ∀ rfqId, ((b.log rfqId).map (·.eventId)).Nodup
  sessions : b.agent.Sessions (Sourced b.log)
  fetching : ∀ t rfqId id, b.agent.task t = .fetching rfqId → b.after t = some id →
    id ∈ (b.log rfqId).map (·.eventId)
  accepting : ∀ t rfqId offer revision, b.agent.task t = .signingAccept rfqId offer revision →
    Offered (b.log rfqId) offer
  sent : ∀ rfqId offer revision, .accept rfqId offer revision ∈ b.agent.sent →
    Offered (b.log rfqId) offer

theorem empty_knows : Knows (empty : BuyerRun lib) where
  nodup := by simp [empty]
  sessions := by
    intro rfqId s hs
    simp [empty, BuyerAgent.empty] at hs
  fetching := by simp [empty, BuyerAgent.empty]
  accepting := by simp [empty, BuyerAgent.empty]
  sent := by simp [empty, BuyerAgent.empty]

/-- Another state of the agent, which has read no more. -/
theorem Knows.change (h : Knows b) {agent : BuyerAgent lib}
    (hsessions : agent.Sessions (Sourced b.log))
    (hreading : ∀ u, (agent.task u).isReading = true → agent.task u = b.agent.task u)
    (haccepting : ∀ u rfqId offer revision, agent.task u = .signingAccept rfqId offer revision →
      b.agent.task u = .signingAccept rfqId offer revision ∨ Offered (b.log rfqId) offer)
    (hsent : ∀ rfqId offer revision, .accept rfqId offer revision ∈ agent.sent →
      .accept rfqId offer revision ∈ b.agent.sent ∨ Offered (b.log rfqId) offer) :
    Knows { b with agent } where
  nodup := h.nodup
  sessions := hsessions
  fetching t rfqId id ht hid := by
    have ht : agent.task t = .fetching rfqId := ht
    exact h.fetching t rfqId id (hreading t (by rw [ht, PollTask.isReading]) ▸ ht) hid
  accepting t rfqId offer revision ht := by
    rcases haccepting t rfqId offer revision ht with hold | hoffered
    · exact h.accepting t rfqId offer revision hold
    · exact hoffered
  sent rfqId offer revision hmem := by
    rcases hsent rfqId offer revision hmem with hold | hoffered
    · exact h.sent rfqId offer revision hold
    · exact hoffered

theorem setTask_accepting {a : BuyerAgent lib} {t u : PollId} {task : PollTask lib}
    {rfqId revision : JsString} {offer : SellerOffer}
    (htask : ∀ rfqId offer revision, task ≠ .signingAccept rfqId offer revision)
    (hu : (a.setTask t task).task u = .signingAccept rfqId offer revision) :
    a.task u = .signingAccept rfqId offer revision := by
  rw [BuyerAgent.setTask_task_apply] at hu
  split_ifs at hu
  · exact absurd hu (htask _ _ _)
  · exact hu

/-- A session that has read no more. -/
theorem Knows.replace (h : Knows b) {rfqId : JsString} {s : BuyerAgentSession}
    (hs : b.agent.sessions.get? rfqId = some s) (s' : BuyerAgentSession)
    (hid : s'.rfqId = s.rfqId) (hcursor : s'.lastEventId = s.lastEventId)
    (hoffers : s'.offers = s.offers) :
    (b.agent.setSession rfqId s').Sessions (Sourced b.log) := by
  have hsourced := h.sessions rfqId s hs
  refine h.sessions.setSession ⟨hid.trans hsourced.key, ?_, ?_⟩
  · rw [hcursor]
    exact hsourced.cursor
  · rw [hoffers]
    exact hsourced.offers

theorem Knows.execute (h : Knows b) (t : PollId) {rfqId : JsString} {s : BuyerAgentSession}
    (hs : b.agent.sessions.get? rfqId = some s) (asked : BuyerStrategyContext lib)
    (counterId : JsString) (action : BuyerAction lib) :
    Knows { b with agent := b.agent.execute config t s asked counterId action } := by
  have hkey : s.rfqId = rfqId := (h.sessions rfqId s hs).key
  have hreads : ∀ u, ((b.agent.execute config t s asked counterId action).task u).isReading = true →
      (b.agent.execute config t s asked counterId action).task u = b.agent.task u :=
    fun u hu => BuyerAgent.execute_reading hu
  subst hkey
  cases action with
  | counter seller price =>
    have hcounted := h.replace hs { s with round := s.round + 1 } rfl rfl rfl
    simp only [BuyerAgent.execute] at hreads ⊢
    split_ifs at hreads ⊢
    · exact h.change h.sessions hreads (fun _ _ _ _ hu => .inl (setTask_accepting (by simp) hu))
        fun _ _ _ hmem => .inl hmem
    · exact h.change hcounted hreads (fun _ _ _ _ hu => .inl (setTask_accepting (by simp) hu))
        fun _ _ _ hmem => .inl hmem
    · exact h.change hcounted hreads (fun _ _ _ _ hu => .inl (setTask_accepting (by simp) hu))
        fun _ _ _ hmem => .inl hmem
  | accept seller =>
    simp only [BuyerAgent.execute] at hreads ⊢
    cases htarget : BuyerAgent.targetOffer s seller with
    | none =>
      simp only [htarget] at hreads ⊢
      exact h.change h.sessions hreads (fun _ _ _ _ hu => .inl (setTask_accepting (by simp) hu))
        fun _ _ _ hmem => .inl hmem
    | some offer =>
      simp only [htarget] at hreads ⊢
      refine h.change h.sessions hreads (fun u id other revision hu => ?_)
        fun _ _ _ hmem => .inl hmem
      rw [BuyerAgent.setTask_task_apply] at hu
      split_ifs at hu
      · obtain ⟨rfl, rfl, -⟩ := PollTask.signingAccept.inj hu
        exact .inr ((h.sessions _ s hs).offers _ (List.mem_of_find?_eq_some htarget))
      · exact .inl hu
  | cancel =>
    exact h.change (h.replace hs { s with stopped := true } rfl rfl rfl) hreads
      (fun _ _ _ _ hu => .inl (setTask_accepting (by simp) hu)) fun _ _ _ hmem => .inl hmem
  | wait =>
    exact h.change h.sessions hreads (fun _ _ _ _ hu => .inl (setTask_accepting (by simp) hu))
      fun _ _ _ hmem => .inl hmem

theorem Knows.other (h : Knows b) {label : AgentLabel lib} (hother : BuyerAgent.isOther label = true)
    {agent : BuyerAgent lib} (hstep : b.agent.step config label = some agent) :
    Knows { b with agent } := by
  have hreads : ∀ u, (agent.task u).isReading = true → agent.task u = b.agent.task u :=
    fun u hu => BuyerAgent.step_reading hother hstep hu
  cases BuyerAgent.steps_of_step hstep with
  | poll => cases hother
  | eventsArrive => cases hother
  | postRfq params signature budgetCommitment now deadline hnew =>
    refine h.change ?_ hreads (fun _ _ _ _ hu => .inl hu) fun _ _ _ hmem => .inl ?_
    · exact BuyerAgent.Sessions.setSession h.sessions ⟨rfl, by simp [BuyerAgent.newSession],
        by simp [BuyerAgent.newSession]⟩
    · simpa [BuyerAgent.send, BuyerAgent.setSession] using hmem
  | strategyAnswers strategy counterId htask hs =>
    unfold BuyerAgent.strategyAnswers at hreads ⊢
    split
    · exact h.change h.sessions (fun u hu => BuyerAgent.setTask_reading rfl hu)
        (fun _ _ _ _ hu => .inl (setTask_accepting (by simp) hu)) fun _ _ _ hmem => .inl hmem
    · exact h.execute _ hs _ counterId _
  | acceptSigned signature htask =>
    refine h.change h.sessions hreads (fun _ _ _ _ hu => .inl (setTask_accepting (by simp) hu))
      fun id other rev hmem => ?_
    rcases List.mem_append.mp hmem with hold | hlast
    · exact .inl hold
    · obtain ⟨rfl, rfl, rfl⟩ := Message.accept.inj (List.mem_singleton.mp hlast)
      exact .inr (h.accepting _ _ _ _ htask)
  | proofReady | fails =>
    exact h.change h.sessions hreads (fun _ _ _ _ hu => .inl (setTask_accepting (by simp) hu))
      fun _ _ _ hmem => .inl hmem
  | counterSigned | quoteSigned =>
    exact h.change h.sessions hreads (fun _ _ _ _ hu => .inl (setTask_accepting (by simp) hu))
      fun _ _ _ hmem => .inl (by simpa [BuyerAgent.send, BuyerAgent.setTask] using hmem)
  | @counterPosted _ _ counter s _ hs =>
    exact h.change (h.replace hs { s with countersSent := s.countersSent ++ [counter] } rfl rfl rfl)
      hreads (fun _ _ _ _ hu => .inl (setTask_accepting (by simp) hu)) fun _ _ _ hmem => .inl hmem
  | @quotePosted _ _ _ buyerSigned s _ hs =>
    exact h.change (h.replace hs { s with quote := some buyerSigned } rfl rfl rfl)
      hreads (fun _ _ _ _ hu => .inl (setTask_accepting (by simp) hu)) fun _ _ _ hmem => .inl hmem
  | @accepted _ _ _ s _ now _ hs =>
    exact h.change (h.replace hs { s with committedAt := some now } rfl rfl rfl)
      hreads (fun _ _ _ _ hu => .inl (setTask_accepting (by simp) hu)) fun _ _ _ hmem => .inl hmem
  | @stop _ s hs =>
    exact h.change (h.replace hs { s with stopped := true } rfl rfl rfl)
      hreads (fun _ _ _ _ hu => .inl hu) fun _ _ _ hmem => .inl hmem

theorem Knows.poll (h : Knows b) {t : PollId} (rfqId : JsString) (htask : b.agent.task t = .idle) :
    Knows { b with
      agent := b.agent.start t rfqId
      after := Function.update b.after t ((b.agent.sessions.get? rfqId).bind (·.lastEventId)) } := by
  have htasks : ∀ u, u ≠ t → (b.agent.start t rfqId).task u = b.agent.task u := by
    intro u hu
    unfold BuyerAgent.start
    split <;> rw [BuyerAgent.setTask_task_apply, if_neg hu]
  have hown : (b.agent.start t rfqId).task t = .finished ∨
      (b.agent.start t rfqId).task t = .fetching rfqId := by
    unfold BuyerAgent.start
    split
    · exact .inl (by rw [BuyerAgent.setTask_task])
    · rw [BuyerAgent.setTask_task]
      split_ifs
      · exact .inl rfl
      · exact .inr rfl
  refine ⟨h.nodup, ?_, fun u id eventId hu hid => ?_, fun u id offer revision hu => ?_, ?_⟩
  · unfold BuyerAgent.start
    split <;> exact h.sessions
  · by_cases hut : u = t
    · subst hut
      rcases hown with hdone | hfetches
      · cases hdone.symm.trans hu
      · obtain rfl := PollTask.fetching.inj (hfetches.symm.trans hu)
        obtain ⟨s, hs, hcursor⟩ : ∃ s, b.agent.sessions.get? rfqId = some s ∧
            s.lastEventId = some eventId := by
          simpa [Option.bind_eq_some_iff] using hid
        exact (h.sessions rfqId s hs).cursor eventId hcursor
    · refine h.fetching u id eventId ?_ ?_
      · exact (htasks u hut).symm.trans hu
      · simpa [Function.update_of_ne hut] using hid
  · by_cases hut : u = t
    · subst hut
      rcases hown with hdone | hfetches
      · cases hdone.symm.trans hu
      · cases hfetches.symm.trans hu
    · exact h.accepting u id offer revision ((htasks u hut).symm.trans hu)
  · unfold BuyerAgent.start
    split <;> exact h.sent

theorem Knows.eventsArrive (h : Knows b) (t : PollId) {rfqId : JsString} {s : BuyerAgentSession}
    (hs : b.agent.sessions.get? rfqId = some s) {events : List NegotiationEvent}
    (hevents : events ⊆ b.log rfqId) (now : ℤ) :
    Knows { b with agent := b.agent.eventsArrive config t events now s } := by
  have hread := (h.sessions rfqId s hs).foldl_receive now hevents
  refine h.change ?_ (fun u hu => BuyerAgent.eventsArrive_reading hu) (fun u id offer rev hu => ?_)
    fun _ _ _ hmem => .inl ?_
  · unfold BuyerAgent.eventsArrive
    split_ifs
    · exact h.sessions
    · dsimp only
      rw [hread.key]
      exact h.sessions.setSession hread
  · refine .inl ?_
    unfold BuyerAgent.eventsArrive at hu
    dsimp only at hu
    split_ifs at hu <;> exact setTask_accepting (by simp) hu
  · unfold BuyerAgent.eventsArrive at hmem
    dsimp only at hmem
    split_ifs at hmem <;> exact hmem

/-- What the agent knows of a log it knows of a longer one. -/
theorem Knows.grow (h : Knows b) {log : JsString → List NegotiationEvent}
    (hlog : ∀ rfqId, b.log rfqId <+: log rfqId)
    (hnodup : ∀ rfqId, ((log rfqId).map (·.eventId)).Nodup) :
    Knows (b.withLog log) := by
  have hids : ∀ {rfqId : JsString} {id : EventId}, id ∈ (b.log rfqId).map (·.eventId) →
      id ∈ (log rfqId).map (·.eventId) :=
    fun {rfqId _} hid => ((hlog rfqId).map (·.eventId)).subset hid
  have hoffered : ∀ {rfqId : JsString} {offer : SellerOffer}, Offered (b.log rfqId) offer →
      Offered (log rfqId) offer :=
    fun {rfqId _} ⟨event, hevent, hoffer⟩ => ⟨event, (hlog rfqId).subset hevent, hoffer⟩
  refine ⟨hnodup, fun rfqId s hs => ?_, fun t rfqId id ht hid => hids (h.fetching t rfqId id ht hid),
    fun t rfqId offer revision ht => hoffered (h.accepting t rfqId offer revision ht),
    fun rfqId offer revision hmem => hoffered (h.sent rfqId offer revision hmem)⟩
  have hsourced := h.sessions rfqId s hs
  exact ⟨hsourced.key, fun id hid => hids (hsourced.cursor id hid),
    fun offer hoffer => hoffered (hsourced.offers offer hoffer)⟩

theorem Knows.append (h : Knows b) {rfqId : JsString} {event : NegotiationEvent}
    (hfresh : event.eventId ∉ (b.log rfqId).map (·.eventId)) :
    Knows (b.withLog (Function.update b.log rfqId (b.log rfqId ++ [event]))) := by
  refine h.grow (fun id => ?_) fun id => ?_
  · rw [Function.update_apply]
    split_ifs with hid
    · rw [hid]
      exact List.prefix_append _ _
    · exact List.prefix_rfl
  · rw [Function.update_apply]
    split_ifs with hid
    · rw [List.map_append, List.nodup_append]
      refine ⟨h.nodup rfqId, by simp, ?_⟩
      rintro id hid _ hevent rfl
      obtain rfl : id = event.eventId := by simpa using hevent
      exact hfresh hid
    · exact h.nodup id

theorem Knows.step (h : Knows b) {label : BuyerLabel lib}
    (hstep : b.step config label = some b') : Knows b' := by
  unfold BuyerRun.step at hstep
  cases label with
  | append rfqId event =>
    dsimp only at hstep
    split_ifs at hstep with hfresh
    cases hstep
    exact h.append hfresh
  | poll t rfqId =>
    obtain ⟨agent, hagent, rfl⟩ := Option.map_eq_some_iff.mp hstep
    cases BuyerAgent.steps_of_step hagent with
    | poll _ htask => exact h.poll rfqId htask
  | eventsArrive t n now =>
    dsimp only at hstep
    split at hstep
    · rename_i rfqId ht
      obtain ⟨agent, hagent, rfl⟩ := Option.map_eq_some_iff.mp hstep
      cases BuyerAgent.steps_of_step hagent with
      | eventsArrive _ _ hfetching hs =>
        rw [ht, PollTask.fetching.injEq] at hfetching
        subst hfetching
        exact h.eventsArrive t hs
          (List.Subset.trans (List.take_subset _ _) (eventsAfter_subset _ _)) now
    · cases hstep
  | other label =>
    dsimp only at hstep
    split_ifs at hstep with hother
    obtain ⟨agent, hagent, rfl⟩ := Option.map_eq_some_iff.mp hstep
    exact h.other hother hagent

theorem Knows.run (config : BuyerAgentConfig lib) (labels : List (BuyerLabel lib)) :
    Knows (run (BuyerRun.step config) .empty labels) :=
  run_invariant (fun _ _ _ h hstep => h.step hstep) empty_knows labels

end BuyerRun
end GhostBazaar.Agents
