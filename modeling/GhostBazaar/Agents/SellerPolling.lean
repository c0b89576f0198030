import GhostBazaar.Agents.SellerAgent

/-! What a seller reads of the log. A step of a poll either waits for the same event as before,
or ends its handling and goes through the events after it. -/
namespace GhostBazaar.Agents
open Js GhostBazaar.Core Strategy Transition

variable {lib : DecimalLib}

/-- The event that a poll handles. -/
def SellerTask.handling : SellerTask lib → Option Handling
  | idle | opening _ | fetching _ | finished => none
  | deciding h _ | gettingQuote h | signingQuote h _ | cosigning h _ => some h
  | signingOffer h _ | postingOffer h _ => h

/-- After a cursor at the last event that was read come the events that were not. -/
theorem eventsAfter_getLast {read later : List NegotiationEvent} {cursor : Option EventId}
    (h : cursor = read.getLast?.map (·.eventId))
    (hdistinct : ((read ++ later).map (·.eventId)).Nodup) :
    eventsAfter (read ++ later) cursor = later := by
  rw [h]
  rcases List.eq_nil_or_concat read with hnil | ⟨before, last, hlast⟩
  · simp [hnil, eventsAfter]
  · rw [List.concat_eq_append] at hlast
    rw [hlast] at hdistinct ⊢
    simp only [List.getLast?_append, List.getLast?_singleton, Option.some_or, Option.map_some,
      eventsAfter]
    have hbefore : ∀ event ∈ before, event.eventId ≠ last.eventId := by
      intro event hevent heq
      rw [List.append_assoc, List.map_append, List.nodup_append] at hdistinct
      apply hdistinct.2.2 event.eventId (List.mem_map_of_mem hevent) last.eventId
      · simp
      · exact heq
    have hdrop : (before ++ [last] ++ later).dropWhile
        (fun event => decide (event.eventId ≠ last.eventId)) = last :: later := by
      rw [List.append_assoc, List.dropWhile_append_of_pos]
      · simp
      · intro event hevent
        simpa using hbefore event hevent
    rw [hdrop, List.tail_cons]

namespace SellerAgent

variable {config : SellerAgentConfig lib} {a a' : SellerAgent lib}

/-! ### The loop -/

/-- The agent after it has passed over some events. -/
def skip (a : SellerAgent lib) (seen : List NegotiationEvent) : SellerAgent lib :=
  { a with session := seen.foldl receive a.session, handled := a.handled ++ seen }

/-- The agent once it stops at an event. -/
def meet (config : SellerAgentConfig lib) (a : SellerAgent lib) (event : NegotiationEvent) :
    SellerAgent lib :=
  { a with session :=
      if isCounter config event then
        { receive a.session event with round := a.session.round + 1 }
      else receive a.session event }

/-- The loop passes over some events, and ends or stops at the next one. -/
theorem process_cases (config : SellerAgentConfig lib) (now : ℤ) (t : SellerPollId)
    (a : SellerAgent lib) (events : List NegotiationEvent) :
    (∀ e ∈ events, isCounter config e = false) ∧
      process config now t a events = (a.skip events).setTask t .finished ∨
    ∃ seen event rest, events = seen ++ event :: rest ∧ (∀ e ∈ seen, isCounter config e = false) ∧
      ((isCounter config event = true ∧ ∃ asked, process config now t a events =
          ((a.skip seen).meet config event).setTask t (.deciding ⟨event, rest⟩ asked)) ∨
        isCounter config event = false ∧ process config now t a events =
          ((a.skip seen).meet config event).setTask t (.gettingQuote ⟨event, rest⟩)) := by
  induction events generalizing a with
  | nil => exact .inl ⟨by simp, by simp [process, skip]⟩
  | cons event events ih =>
    unfold process
    dsimp only
    split_ifs with hcounter hquote
    · refine .inr ⟨[], event, events, rfl, by simp, .inl ⟨hcounter, ?_⟩⟩
      exact ⟨_, by simp [skip, meet, hcounter, receive]; rfl⟩
    · refine .inr ⟨[], event, events, rfl, by simp, .inr ⟨by simpa using hcounter, ?_⟩⟩
      simp [skip, meet, hcounter]
    · have hskip : ∀ seen, ({ a with
          session := receive a.session event, handled := a.handled ++ [event] } :
            SellerAgent lib).skip seen = a.skip (event :: seen) := by
        intro seen
        simp [skip]
      have hquiet : isCounter config event = false := by simpa using hcounter
      rcases ih { a with session := receive a.session event, handled := a.handled ++ [event] } with
        ⟨hall, hend⟩ | ⟨seen, other, rest, rfl, hall, hstop⟩
      · left
        rw [hend, hskip]
        exact ⟨List.forall_mem_cons.mpr ⟨hquiet, hall⟩, rfl⟩
      · right
        refine ⟨event :: seen, other, rest, rfl, List.forall_mem_cons.mpr ⟨hquiet, hall⟩, ?_⟩
        rw [hskip] at hstop
        exact hstop

theorem foldl_receive_events (s : SellerAgentSession) (seen : List NegotiationEvent) :
    (seen.foldl receive s).events = s.events ++ seen := by
  induction seen generalizing s with
  | nil => simp
  | cons event seen ih =>
    rw [List.foldl_cons, ih]
    simp [receive]

theorem skip_meet_events (config : SellerAgentConfig lib) (a : SellerAgent lib)
    (seen : List NegotiationEvent) (event : NegotiationEvent) :
    ((a.skip seen).meet config event).session.events =
      a.session.events ++ (seen ++ [event]) := by
  unfold meet
  dsimp only
  split_ifs <;> simp [receive, skip, foldl_receive_events]

theorem foldl_receive_round (s : SellerAgentSession) (seen : List NegotiationEvent) :
    (seen.foldl receive s).round = s.round := by
  induction seen generalizing s with
  | nil => rfl
  | cons event seen ih =>
    rw [List.foldl_cons, ih]
    rfl

/-- The cursor of a session that keeps it at the last event it has read. -/
def AtLast (s : SellerAgentSession) : Prop :=
  s.lastEventId = s.events.getLast?.map (·.eventId)

theorem receive_atLast (s : SellerAgentSession) (event : NegotiationEvent) :
    AtLast (receive s event) := by
  simp [AtLast, receive]

theorem foldl_receive_atLast {s : SellerAgentSession} (h : AtLast s)
    (seen : List NegotiationEvent) : AtLast (seen.foldl receive s) := by
  induction seen generalizing s with
  | nil => exact h
  | cons event seen ih => exact ih (receive_atLast s event)

/-! ### Steps -/

/-- Two agents that have read the same, and wait for the same. -/
structure SameRead (a b : SellerAgent lib) : Prop where
  log : b.log = a.log
  task : b.task = a.task
  offersFor : b.offersFor = a.offersFor
  events : b.session.events = a.session.events
  lastEventId : b.session.lastEventId = a.session.lastEventId
  round : b.session.round = a.session.round

theorem SameRead.refl (a : SellerAgent lib) : SameRead a a := ⟨rfl, rfl, rfl, rfl, rfl, rfl⟩

/-- What a step can do. -/
inductive Move (config : SellerAgentConfig lib) (a : SellerAgent lib) :
    SellerLabel lib → SellerAgent lib → Prop
  | append (event : NegotiationEvent) (hfresh : event.eventId ∉ a.log.map (·.eventId)) :
    Move config a (.append event) { a with log := a.log ++ [event] }
  /-- A poll waits for something else, about the same event, or fails. -/
  | wait {label : SellerLabel lib} {b : SellerAgent lib} (t : SellerPollId) (task : SellerTask lib)
    (hb : SameRead a b) (hhandled : b.handled = a.handled)
    (hkeep : task.handling = (a.task t).handling ∨
      task.handling = none ∧ ∃ now, label = .fails t now)
    (hdeciding : ∀ h asked, task ≠ .deciding h asked)
    (hfetching : ∀ after, task = .fetching after →
      label = .poll t ∧ after = a.session.lastEventId) :
    Move config a label (b.setTask t task)
  /-- `sendOffer` is called for a counter. -/
  | offer {label : SellerLabel lib} (t : SellerPollId) (h : Handling)
    (asked : SellerStrategyContext lib) (offer : SellerOffer)
    (ht : a.task t = .deciding h asked) :
    Move config a label ({ a with offersFor := a.offersFor ++ [h.event] }.setTask t
      (.signingOffer (some h) offer))
  /-- The handling of an event completes. -/
  | goOn {label : SellerLabel lib} {b : SellerAgent lib} (t : SellerPollId) (now : ℤ)
    (h : Handling) (hb : SameRead a b) (hhandled : b.handled = a.handled ++ [h.event])
    (ht : (a.task t).handling = some h) :
    Move config a label (process config now t b h.rest)
  /-- The handling of an event is given up. -/
  | giveUp (t : SellerPollId) (now : ℤ) (h : Handling) (ht : (a.task t).handling = some h) :
    Move config a (.fails t now) (process config now t a h.rest)
  | arrive (t : SellerPollId) (n : ℕ) (now : ℤ) (after : Option EventId)
    (ht : a.task t = .fetching after) :
    Move config a (.eventsArrive t n now)
      (process config now t a ((eventsAfter a.log after).take n))
  | aside {label : SellerLabel lib} {b : SellerAgent lib} (hb : SameRead a b)
    (hhandled : b.handled = a.handled) : Move config a label b

/-- A poll that waits for something else about the same event. -/
theorem Move.of_setTask {label : SellerLabel lib} {t : SellerPollId} {task : SellerTask lib}
    (hkeep : task.handling = (a.task t).handling) (hdeciding : ∀ h asked, task ≠ .deciding h asked)
    (hfetching : ∀ after, task ≠ .fetching after) : Move config a label (a.setTask t task) :=
  .wait t task (.refl a) rfl (.inl hkeep) hdeciding fun after h => absurd h (hfetching after)

/-- The handling completes after a change that the reading does not see. -/
theorem Move.of_complete {label : SellerLabel lib} {b : SellerAgent lib} {t : SellerPollId}
    {now : ℤ} {h : Handling} (hb : SameRead a b) (hhandled : b.handled = a.handled)
    (ht : (a.task t).handling = some h) : Move config a label (complete config now t b h) := by
  unfold complete
  refine .goOn t now h ⟨hb.log, hb.task, hb.offersFor, hb.events, hb.lastEventId, hb.round⟩ ?_ ht
  rw [← hhandled]

theorem Move.strategyAnswers {t : SellerPollId} {action : SellerAction lib} {offerId : JsString}
    {now : ℤ} (hstep : step config a (.strategyAnswers t action offerId now) = some a') :
    Move config a (.strategyAnswers t action offerId now) a' := by
  unfold SellerAgent.step at hstep
  cases ht : a.task t <;> simp only [ht, reduceCtorEq, Option.some.injEq] at hstep
  case opening asked =>
    have hnone : (a.task t).handling = none := by rw [ht, SellerTask.handling]
    subst hstep
    cases sanitizeSellerAction action config.priv with
    | respond price =>
      simp only [openOffer, sendOffer, Option.map_none, Option.toList_none, List.append_nil]
      apply Move.of_setTask
      · exact hnone.symm
      · simp
      · simp
    | decline =>
      simp only [openOffer]
      have hb : SameRead a { a with session := { a.session with stopped := true } } := by
        constructor <;> rfl
      exact .wait t .finished hb rfl (.inl hnone.symm) (by simp) (by simp)
    | counter price =>
      simp only [openOffer]
      apply Move.of_setTask
      · exact hnone.symm
      · simp
      · simp
    | hold =>
      simp only [openOffer]
      apply Move.of_setTask
      · exact hnone.symm
      · simp
      · simp
  case deciding h asked =>
    have hsome : (a.task t).handling = some h := by rw [ht, SellerTask.handling]
    subst hstep
    cases sanitizeSellerAction action config.priv with
    | respond price =>
      simp only [react, sendOffer]
      exact .offer t h asked _ ht
    | counter price =>
      simp only [react, sendOffer]
      exact .offer t h asked _ ht
    | decline =>
      simp only [react]
      have hb : SameRead a { a with session := { a.session with stopped := true } } := by
        constructor <;> rfl
      exact .of_complete hb rfl hsome
    | hold =>
      simp only [react]
      exact .of_complete (.refl a) rfl hsome

theorem step_move {label : SellerLabel lib} (hstep : step config a label = some a') :
    Move config a label a' := by
  cases label with
  | strategyAnswers t action offerId now => exact Move.strategyAnswers hstep
  | append event =>
    simp only [SellerAgent.step] at hstep
    split_ifs at hstep with hfresh
    cases hstep
    exact .append event hfresh
  | respondToRfq t now =>
    cases ht : a.task t <;>
      simp only [SellerAgent.step, ht, reduceCtorEq, Option.some.injEq] at hstep
    subst hstep
    apply Move.of_setTask
    · rw [ht]
      rfl
    · simp
    · simp
  | poll t =>
    cases ht : a.task t <;>
      simp only [SellerAgent.step, ht, reduceCtorEq, Option.some.injEq] at hstep
    subst hstep
    split_ifs with hstopped
    · exact Move.of_setTask (by rw [ht]; rfl) (by simp) (by simp)
    · apply Move.wait t (.fetching a.session.lastEventId) (.refl a) rfl
      · left
        rw [ht]
        rfl
      · simp
      · intro after hafter
        rw [SellerTask.fetching.injEq] at hafter
        exact ⟨rfl, hafter.symm⟩
  | eventsArrive t n now =>
    cases ht : a.task t <;>
      simp only [SellerAgent.step, ht, reduceCtorEq, Option.some.injEq] at hstep
    subst hstep
    exact .arrive t n now _ ht
  | offerSigned t signature =>
    cases ht : a.task t <;>
      simp only [SellerAgent.step, ht, reduceCtorEq, Option.some.injEq] at hstep
    subst hstep
    exact Move.of_setTask (by rw [ht]; rfl) (by simp) (by simp)
  | offerPosted t now =>
    cases ht : a.task t <;> simp only [SellerAgent.step, ht, reduceCtorEq] at hstep
    rename_i h offer
    have hb : SameRead a { a with
        session := { a.session with ownOffers := a.session.ownOffers ++ [offer] } } := by
      constructor <;> rfl
    cases h with
    | none =>
      cases hstep
      exact .wait t .finished hb rfl (.inl (by rw [ht]; rfl)) (by simp) (by simp)
    | some h =>
      cases hstep
      exact .of_complete hb rfl (by rw [ht]; rfl)
  | quoteArrives t quote now =>
    cases ht : a.task t <;>
      simp only [SellerAgent.step, ht, reduceCtorEq, Option.some.injEq] at hstep
    subst hstep
    split_ifs
    · exact Move.of_setTask (by rw [ht]; rfl) (by simp) (by simp)
    · exact .of_complete (.refl a) rfl (by rw [ht]; rfl)
  | quoteSigned t cosigned =>
    cases ht : a.task t <;>
      simp only [SellerAgent.step, ht, reduceCtorEq, Option.some.injEq] at hstep
    subst hstep
    exact Move.of_setTask (by rw [ht]; rfl) (by simp) (by simp)
  | cosigned t now =>
    cases ht : a.task t <;>
      simp only [SellerAgent.step, ht, reduceCtorEq, Option.some.injEq] at hstep
    rename_i h cosigned
    have hb : SameRead a { a with session := { a.session with quote := some cosigned } } := by
      constructor <;> rfl
    subst hstep
    exact .of_complete hb rfl (by rw [ht]; rfl)
  | fails t now =>
    cases ht : a.task t <;>
      simp only [SellerAgent.step, ht, reduceCtorEq, Option.some.injEq] at hstep
    case gettingQuote | signingQuote | cosigning =>
      subst hstep
      exact .giveUp t now _ (by rw [ht]; rfl)
    all_goals
      subst hstep
      exact .wait t _ (.refl a) rfl (.inr ⟨rfl, now, rfl⟩) (by simp) (by simp)
  | markSettled now =>
    cases hstep
    exact .aside (by constructor <;> rfl) rfl
  | stop =>
    cases hstep
    exact .aside (by constructor <;> rfl) rfl

/-! ### Reading in order -/

/-- The polls other than `t` have no event left to look at. -/
def OthersDone (a : SellerAgent lib) (t : SellerPollId) : Prop :=
  ∀ u, u ≠ t → ∀ h, (a.task u).handling = some h → h.rest = []

/-- The session has read a first part of the log, every poll goes on with what comes next, and
at most one has events left. -/
structure Reads (a : SellerAgent lib) : Prop where
  distinct : (a.log.map (·.eventId)).Nodup
  prefix' : a.session.events <+: a.log
  cursor : AtLast a.session
  ahead : ∀ t h, (a.task t).handling = some h → a.session.events ++ h.rest <+: a.log
  alone : ∀ t h, (a.task t).handling = some h → h.rest ≠ [] → OthersDone a t

theorem start_reads (rfq : RFQ) : Reads (start rfq : SellerAgent lib) where
  distinct := by simp [start]
  prefix' := by simp [start, newSession]
  cursor := by simp [AtLast, start, newSession]
  ahead := by simp [start, SellerTask.handling]
  alone := by simp [start, SellerTask.handling]

theorem setTask_task (a : SellerAgent lib) (t u : SellerPollId) (task : SellerTask lib) :
    (a.setTask t task).task u = if u = t then task else a.task u := by
  simp [setTask, Function.update_apply]

theorem Reads.sameRead (h : Reads a) {b : SellerAgent lib} (hb : SameRead a b) : Reads b where
  distinct := by
    rw [hb.log]
    exact h.distinct
  prefix' := by
    rw [hb.log, hb.events]
    exact h.prefix'
  cursor := by
    rw [AtLast, hb.lastEventId, hb.events]
    exact h.cursor
  ahead := by
    rw [hb.task, hb.log, hb.events]
    exact h.ahead
  alone := by
    unfold OthersDone
    rw [hb.task]
    exact h.alone

/-- A poll stays with its event, or leaves it. -/
theorem Reads.setTask (h : Reads a) {t : SellerPollId} {task : SellerTask lib}
    (hkeep : task.handling = (a.task t).handling ∨ task.handling = none) :
    Reads (a.setTask t task) := by
  have hold : ∀ u k, ((a.setTask t task).task u).handling = some k →
      (a.task u).handling = some k := by
    intro u k hk
    rw [setTask_task] at hk
    split_ifs at hk with hu
    · rcases hkeep with hsame | hnone
      · rw [hu, ← hsame, hk]
      · rw [hnone] at hk
        cases hk
    · exact hk
  constructor
  · exact h.distinct
  · exact h.prefix'
  · exact h.cursor
  · intro u k hk
    exact h.ahead u k (hold u k hk)
  · intro u k hk hrest v hv k' hk'
    exact h.alone u k (hold u k hk) hrest v hv k' (hold v k' hk')

/-- The events that the loop passes over are read. -/
theorem Reads.read (h : Reads a) {t : SellerPollId} {seen rest : List NegotiationEvent}
    {b : SellerAgent lib} {task : SellerTask lib} (hothers : OthersDone a t)
    (hahead : a.session.events ++ seen ++ rest <+: a.log) (hlog : b.log = a.log)
    (htasks : b.task = a.task) (hevents : b.session.events = a.session.events ++ seen)
    (hcursor : AtLast b.session) (htask : ∀ k, task.handling = some k → k.rest = rest) :
    Reads (b.setTask t task) := by
  have hread : a.session.events ++ seen <+: a.log := (List.prefix_append _ _).trans hahead
  constructor
  · rw [SellerAgent.setTask, hlog]
    exact h.distinct
  · rw [SellerAgent.setTask, hlog]
    dsimp only
    rw [hevents]
    exact hread
  · exact hcursor
  · intro u k hk
    rw [setTask_task] at hk
    change b.session.events ++ k.rest <+: b.log
    rw [hevents, hlog]
    split_ifs at hk with hu
    · rw [htask k hk]
      exact hahead
    · rw [htasks] at hk
      rw [hothers u hu k hk, List.append_nil]
      exact hread
  · intro u k hk hrest v hv k' hk'
    rw [setTask_task] at hk hk'
    split_ifs at hk with hu
    · rw [if_neg (hu ▸ hv), htasks] at hk'
      exact hothers v (hu ▸ hv) k' hk'
    · rw [htasks] at hk
      exact absurd (hothers u hu k hk) hrest

theorem Reads.process (h : Reads a) (now : ℤ) {t : SellerPollId} {events : List NegotiationEvent}
    (hothers : OthersDone a t) (hahead : a.session.events ++ events <+: a.log) :
    Reads (process config now t a events) := by
  rcases process_cases config now t a events with ⟨_, hend⟩ | ⟨seen, event, rest, rfl, _, hstop⟩
  · rw [hend]
    have hread : a.session.events ++ events ++ [] <+: a.log := by
      rw [List.append_nil]
      exact hahead
    apply h.read hothers hread
    · rfl
    · rfl
    · exact foldl_receive_events a.session events
    · exact foldl_receive_atLast h.cursor events
    · simp [SellerTask.handling]
  · have hparts : a.session.events ++ (seen ++ [event]) ++ rest <+: a.log := by
      simpa using hahead
    have hmeet := skip_meet_events config a seen event
    have hcursor : AtLast ((a.skip seen).meet config event).session := by
      unfold meet
      dsimp only
      split_ifs
      · exact receive_atLast (a.skip seen).session event
      · exact receive_atLast (a.skip seen).session event
    rcases hstop with ⟨_, asked, hstop⟩ | ⟨_, hstop⟩
    all_goals
      rw [hstop]
      apply h.read (b := (a.skip seen).meet config event) hothers hparts rfl rfl hmeet hcursor
      simp [SellerTask.handling]

/-- The loop goes on after an event. -/
theorem Reads.goOn (h : Reads a) (now : ℤ) {t : SellerPollId} {k : Handling}
    (ht : (a.task t).handling = some k) {b : SellerAgent lib} (hb : SameRead a b) :
    Reads (SellerAgent.process config now t b k.rest) := by
  have hbreads := h.sameRead hb
  rw [← hb.task] at ht
  by_cases hrest : k.rest = []
  · rw [hrest]
    exact hbreads.setTask (.inr rfl)
  · exact hbreads.process now (hbreads.alone t k ht hrest) (hbreads.ahead t k ht)

/-- What has not been read comes next in the log. -/
theorem Reads.eventsAfter (h : Reads a) :
    a.session.events ++ eventsAfter a.log a.session.lastEventId = a.log := by
  obtain ⟨later, hlater⟩ := h.prefix'
  have hdistinct := h.distinct
  rw [← hlater] at hdistinct ⊢
  rw [eventsAfter_getLast h.cursor hdistinct]

theorem Reads.arrive (h : Reads a) (now : ℤ) {t : SellerPollId} (n : ℕ)
    (hothers : OthersDone a t) :
    Reads (SellerAgent.process config now t a
      ((Agents.eventsAfter a.log a.session.lastEventId).take n)) := by
  apply h.process now hothers
  obtain ⟨later, hlater⟩ := List.take_prefix n (Agents.eventsAfter a.log a.session.lastEventId)
  refine ⟨later, ?_⟩
  rw [List.append_assoc, hlater]
  exact h.eventsAfter

theorem Reads.append (h : Reads a) {event : NegotiationEvent}
    (hfresh : event.eventId ∉ a.log.map (·.eventId)) :
    Reads { a with log := a.log ++ [event] } where
  distinct := by
    rw [List.map_append, List.map_singleton, List.nodup_append]
    refine ⟨h.distinct, List.nodup_singleton _, ?_⟩
    intro id hid other hother heq
    rw [List.mem_singleton.mp hother] at heq
    exact hfresh (heq ▸ hid)
  prefix' := h.prefix'.trans (List.prefix_append _ _)
  cursor := h.cursor
  ahead := fun t k hk => (h.ahead t k hk).trans (List.prefix_append _ _)
  alone := h.alone

/-- Events arrive for the cursor that the session still has, while no other poll has events
left. -/
def InTurn (a : SellerAgent lib) : SellerLabel lib → Prop
  | .eventsArrive t _ _ => ∀ after, a.task t = .fetching after →
    a.session.lastEventId = after ∧ OthersDone a t
  | _ => True

theorem Reads.move (h : Reads a) {label : SellerLabel lib} (hlabel : InTurn a label)
    (hmove : Move config a label a') : Reads a' := by
  cases hmove with
  | append event hfresh => exact h.append hfresh
  | wait t task hb hhandled hkeep hdeciding hfetching =>
    apply (h.sameRead hb).setTask
    rw [hb.task]
    exact hkeep.imp_right And.left
  | offer t k asked offer ht =>
    have hoffered : Reads { a with offersFor := a.offersFor ++ [k.event] } :=
      ⟨h.distinct, h.prefix', h.cursor, h.ahead, h.alone⟩
    apply hoffered.setTask
    left
    simp [ht, SellerTask.handling]
  | goOn t now k hb hhandled ht => exact h.goOn now ht hb
  | giveUp t now k ht => exact h.goOn now ht (.refl a)
  | arrive t n now after ht =>
    obtain ⟨rfl, hothers⟩ := hlabel after ht
    exact h.arrive now n hothers
  | aside hb hhandled => exact h.sameRead hb

/-! ### One reaction for each event -/

end SellerAgent

/-- The counter that a poll has asked the strategy about. -/
def SellerTask.pending : SellerTask lib → Option NegotiationEvent
  | deciding h _ => some h.event
  | _ => none

namespace SellerAgent

/-- The rounds count the counters that were read, and each leads to at most one offer. -/
structure Counted (config : SellerAgentConfig lib) (a : SellerAgent lib) : Prop where
  rounds : a.session.round = (a.session.events.filter (isCounter config)).length
  offers : a.offersFor.Nodup
  offered : ∀ e ∈ a.offersFor, e ∈ a.session.events
  pending : ∀ t e, (a.task t).pending = some e → e ∈ a.session.events ∧ e ∉ a.offersFor
  once : ∀ t u e, (a.task t).pending = some e → (a.task u).pending = some e → t = u

theorem start_counted (rfq : RFQ) : Counted config (start rfq : SellerAgent lib) where
  rounds := by simp [start, newSession]
  offers := by simp [start]
  offered := by simp [start]
  pending := by simp [start, SellerTask.pending]
  once := by simp [start, SellerTask.pending]

theorem Counted.sameRead (h : Counted config a) {b : SellerAgent lib} (hb : SameRead a b) :
    Counted config b where
  rounds := by
    rw [hb.round, hb.events]
    exact h.rounds
  offers := by
    rw [hb.offersFor]
    exact h.offers
  offered := by
    rw [hb.offersFor, hb.events]
    exact h.offered
  pending := by
    rw [hb.task, hb.offersFor, hb.events]
    exact h.pending
  once := by
    rw [hb.task]
    exact h.once

theorem Counted.setTask (h : Counted config a) {t : SellerPollId} {task : SellerTask lib}
    (hnone : task.pending = none) : Counted config (a.setTask t task) := by
  have hold : ∀ u e, ((a.setTask t task).task u).pending = some e →
      (a.task u).pending = some e := by
    intro u e he
    rw [setTask_task] at he
    split_ifs at he with hu
    · rw [hnone] at he
      cases he
    · exact he
  constructor
  · exact h.rounds
  · exact h.offers
  · exact h.offered
  · exact fun u e he => h.pending u e (hold u e he)
  · exact fun u v e he he' => h.once u v e (hold u e he) (hold v e he')

/-- `sendOffer` is called for a counter that the strategy was asked about. -/
theorem Counted.offer (h : Counted config a) {t : SellerPollId} {event : NegotiationEvent}
    (ht : (a.task t).pending = some event) {task : SellerTask lib} (hnone : task.pending = none) :
    Counted config ({ a with offersFor := a.offersFor ++ [event] }.setTask t task) := by
  obtain ⟨hread, hnew⟩ := h.pending t event ht
  have hold : ∀ u e, (({ a with offersFor := a.offersFor ++ [event] }.setTask t task).task
      u).pending = some e → u ≠ t ∧ (a.task u).pending = some e := by
    intro u e he
    rw [setTask_task] at he
    split_ifs at he with hu
    · rw [hnone] at he
      cases he
    · exact ⟨hu, he⟩
  constructor
  · exact h.rounds
  · apply h.offers.append (List.nodup_singleton event)
    rw [List.disjoint_singleton]
    exact hnew
  · intro e he
    rcases List.mem_append.mp he with he | he
    · exact h.offered e he
    · exact List.mem_singleton.mp he ▸ hread
  · intro u e he
    obtain ⟨hu, he⟩ := hold u e he
    obtain ⟨hmem, hnot⟩ := h.pending u e he
    refine ⟨hmem, ?_⟩
    intro hoffered
    rcases List.mem_append.mp hoffered with hoffered | hoffered
    · exact hnot hoffered
    · rw [List.mem_singleton.mp hoffered] at he
      exact hu (h.once u t event he ht)
  · exact fun u v e he he' => h.once u v e (hold u e he).2 (hold v e he').2

/-- The events that the loop passes over and stops at are new. -/
theorem Counted.read (h : Counted config a) {t : SellerPollId} {seen : List NegotiationEvent}
    {b : SellerAgent lib} {task : SellerTask lib} (hoffers : b.offersFor = a.offersFor)
    (htasks : b.task = a.task) (hevents : b.session.events = a.session.events ++ seen)
    (hround : b.session.round = a.session.round + (seen.filter (isCounter config)).length)
    (htask : ∀ e, task.pending = some e → e ∈ seen ∧ e ∉ a.session.events) :
    Counted config (b.setTask t task) := by
  constructor
  · change b.session.round = (b.session.events.filter (isCounter config)).length
    rw [hround, hevents, h.rounds, List.filter_append, List.length_append]
  · change b.offersFor.Nodup
    rw [hoffers]
    exact h.offers
  · intro e he
    change e ∈ b.offersFor at he
    change e ∈ b.session.events
    rw [hoffers] at he
    rw [hevents]
    exact List.mem_append_left _ (h.offered e he)
  · intro u e he
    change e ∈ b.session.events ∧ e ∉ b.offersFor
    rw [setTask_task] at he
    rw [hevents, hoffers]
    split_ifs at he with hu
    · obtain ⟨hseen, hnew⟩ := htask e he
      exact ⟨List.mem_append_right _ hseen, fun hoffered => hnew (h.offered e hoffered)⟩
    · rw [htasks] at he
      obtain ⟨hmem, hnot⟩ := h.pending u e he
      exact ⟨List.mem_append_left _ hmem, hnot⟩
  · intro u v e he he'
    rw [setTask_task] at he he'
    rw [htasks] at he he'
    split_ifs at he he' with hu hv hv
    · rw [hu, hv]
    · exact absurd (h.pending v e he').1 (htask e he).2
    · exact absurd (h.pending u e he).1 (htask e he').2
    · exact h.once u v e he he'

theorem Counted.process (h : Counted config a) (hreads : Reads a) (now : ℤ) {t : SellerPollId}
    {events : List NegotiationEvent} (hahead : a.session.events ++ events <+: a.log) :
    Counted config (process config now t a events) := by
  have hlog : a.log.Nodup := List.Nodup.of_map _ hreads.distinct
  have hfresh : (a.session.events ++ events).Nodup := hlog.sublist hahead.sublist
  have hquiet : ∀ seen : List NegotiationEvent, (∀ e ∈ seen, isCounter config e = false) →
      seen.filter (isCounter config) = [] := by
    intro seen hall
    rw [List.filter_eq_nil_iff]
    intro e he
    simp [hall e he]
  rcases process_cases config now t a events with ⟨hall, hend⟩ |
    ⟨seen, event, rest, rfl, hall, hstop⟩
  · rw [hend]
    apply h.read (b := a.skip events) rfl rfl
    · exact foldl_receive_events a.session events
    · rw [hquiet events hall]
      exact foldl_receive_round a.session events
    · simp [SellerTask.pending]
  · have hnew : event ∉ a.session.events := by
      intro hmem
      exact (List.nodup_append.mp hfresh).2.2 event hmem event (by simp) rfl
    have hmeet := skip_meet_events config a seen event
    have hround : ((a.skip seen).meet config event).session.round =
        a.session.round + ((seen ++ [event]).filter (isCounter config)).length := by
      rw [List.filter_append, hquiet seen hall, List.nil_append]
      unfold meet
      dsimp only
      split_ifs with hcounter
      · simp [skip, foldl_receive_round, hcounter]
      · simp [skip, receive, foldl_receive_round, hcounter]
    rcases hstop with ⟨_, asked, hstop⟩ | ⟨_, hstop⟩
    · rw [hstop]
      apply h.read (b := (a.skip seen).meet config event) rfl rfl hmeet hround
      simp [SellerTask.pending, hnew]
    · rw [hstop]
      apply h.read (b := (a.skip seen).meet config event) rfl rfl hmeet hround
      simp [SellerTask.pending]

theorem Counted.move (h : Counted config a) (hreads : Reads a) {label : SellerLabel lib}
    (hlabel : InTurn a label) (hmove : Move config a label a') : Counted config a' := by
  cases hmove with
  | append event hfresh => exact ⟨h.rounds, h.offers, h.offered, h.pending, h.once⟩
  | wait t task hb hhandled hkeep hdeciding hfetching =>
    apply (h.sameRead hb).setTask
    cases task with
    | deciding k asked => exact absurd rfl (hdeciding k asked)
    | _ => rfl
  | offer t k asked offer ht =>
    apply h.offer
    · rw [ht, SellerTask.pending]
    · rfl
  | goOn t now k hb hhandled ht =>
    have hbreads := hreads.sameRead hb
    rw [← hb.task] at ht
    exact (h.sameRead hb).process hbreads now (hbreads.ahead t k ht)
  | giveUp t now k ht => exact h.process hreads now (hreads.ahead t k ht)
  | arrive t n now after ht =>
    obtain ⟨rfl, _⟩ := hlabel after ht
    apply h.process hreads now
    obtain ⟨later, hlater⟩ := List.take_prefix n (eventsAfter a.log a.session.lastEventId)
    refine ⟨later, ?_⟩
    rw [List.append_assoc, hlater]
    exact hreads.eventsAfter
  | aside hb hhandled => exact h.sameRead hb

end SellerAgent
end GhostBazaar.Agents
