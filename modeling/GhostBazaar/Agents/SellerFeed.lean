import GhostBazaar.Agents.SellerQuotes
import Mathlib.Data.List.TakeWhile

/-! What a seller agent keeps of the log it reads, however its polls overlap. Apart from the
steps that stand for the engine, no step looks at the log. -/
namespace GhostBazaar.Agents
open Js GhostBazaar.Core Strategy Transition

variable {lib : DecimalLib}

/-- The step is one of the agent, not of the engine that it reads. -/
def SellerLabel.isLocal : SellerLabel lib → Bool
  | .append _ | .eventsArrive .. => false
  | _ => true

/-- The poll has not started, or waits for events. -/
def SellerTask.isReading : SellerTask lib → Bool
  | .idle | .fetching _ => true
  | _ => false

theorem eventsAfter_append {log more : List NegotiationEvent} {after : Option EventId}
    (h : ∀ id, after = some id → id ∈ log.map (·.eventId)) :
    eventsAfter (log ++ more) after = eventsAfter log after ++ more := by
  cases after with
  | none => rfl
  | some id =>
    obtain ⟨event, hevent, hid⟩ := List.mem_map.mp (h id rfl)
    have hne : log.dropWhile (fun event => decide (event.eventId ≠ id)) ≠ [] := by
      intro hnil
      have hall := List.dropWhile_eq_nil_iff.mp hnil event hevent
      simp [hid] at hall
    simp only [eventsAfter]
    rw [List.dropWhile_append, if_neg (by simpa using hne), List.tail_append_of_ne_nil hne]

theorem eventsAfter_subset (log : List NegotiationEvent) (after : Option EventId) :
    eventsAfter log after ⊆ log := by
  cases after with
  | none => exact List.Subset.refl log
  | some id =>
    exact List.Subset.trans (List.tail_subset _) (List.dropWhile_sublist _).subset

namespace SellerAgent

variable {config : SellerAgentConfig lib} {a a' : SellerAgent lib}

/-! ### Another log -/

def withLog (a : SellerAgent lib) (log : List NegotiationEvent) : SellerAgent lib :=
  { a with log }

theorem process_withLog (log : List NegotiationEvent) (now : ℤ) (t : SellerPollId)
    (events : List NegotiationEvent) (a : SellerAgent lib) :
    process config now t (a.withLog log) events = (process config now t a events).withLog log := by
  induction events generalizing a with
  | nil => rfl
  | cons event events ih =>
    unfold process
    dsimp only
    split_ifs with hcounter hquote
    · rfl
    · rfl
    · exact ih { a with session := receive a.session event, handled := a.handled ++ [event] }

theorem complete_withLog (log : List NegotiationEvent) (now : ℤ) (t : SellerPollId)
    (a : SellerAgent lib) (h : Handling) :
    complete config now t (a.withLog log) h = (complete config now t a h).withLog log :=
  process_withLog log now t h.rest { a with handled := a.handled ++ [h.event] }

theorem react_withLog (log : List NegotiationEvent) (now : ℤ) (t : SellerPollId)
    (a : SellerAgent lib) (h : Handling) (offerId : JsString) (action : SellerAction lib) :
    react config now t (a.withLog log) h offerId action =
      (react config now t a h offerId action).withLog log := by
  cases action with
  | respond price | counter price => rfl
  | decline =>
    exact complete_withLog log now t { a with session := { a.session with stopped := true } } h
  | hold => exact complete_withLog log now t a h

theorem openOffer_withLog (log : List NegotiationEvent) (t : SellerPollId) (a : SellerAgent lib)
    (offerId : JsString) (action : SellerAction lib) :
    openOffer config t (a.withLog log) offerId action =
      (openOffer config t a offerId action).withLog log := by
  cases action <;> rfl

/-- A step of the agent itself does not depend on the log, and leaves it. -/
theorem step_withLog {label : SellerLabel lib} (hlocal : label.isLocal = true)
    (a : SellerAgent lib) (log : List NegotiationEvent) :
    step config (a.withLog log) label = (step config a label).map (withLog · log) := by
  have htask : (a.withLog log).task = a.task := rfl
  cases label with
  | append | eventsArrive => simp [SellerLabel.isLocal] at hlocal
  | respondToRfq t now | poll t | offerSigned t _ | quoteSigned t _ =>
    cases ht : a.task t <;> simp [SellerAgent.step, htask, ht]
    rfl
  | strategyAnswers t action offerId now =>
    cases ht : a.task t <;>
      simp [SellerAgent.step, htask, ht, react_withLog, openOffer_withLog]
  | offerPosted t now =>
    cases ht : a.task t <;>
      simp only [SellerAgent.step, htask, ht, Option.map_none]
    rename_i h offer
    cases h with
    | none => rfl
    | some h =>
      exact congrArg some <| complete_withLog log now t
        { a with session := { a.session with ownOffers := a.session.ownOffers ++ [offer] } } h
  | quoteArrives t quote now =>
    cases ht : a.task t <;> simp [SellerAgent.step, htask, ht]
    split_ifs
    · rfl
    · exact complete_withLog log now t a _
  | cosigned t now =>
    cases ht : a.task t <;> simp [SellerAgent.step, htask, ht]
    exact complete_withLog log now t { a with session := { a.session with quote := some _ } } _
  | fails t now =>
    cases ht : a.task t <;> simp [SellerAgent.step, htask, ht, process_withLog] <;> rfl
  | markSettled | stop => rfl

/-! ### Fetches -/

theorem setTask_reading {b : SellerAgent lib} {t u : SellerPollId} {task : SellerTask lib}
    (htask : task.isReading = false) (hb : b.task = a.task)
    (hu : ((b.setTask t task).task u).isReading = true) :
    (b.setTask t task).task u = a.task u := by
  rw [setTask_task] at hu ⊢
  split_ifs at hu ⊢
  · rw [htask] at hu
    exact absurd hu (by decide)
  · rw [hb]

theorem process_reading {now : ℤ} {t u : SellerPollId} {events : List NegotiationEvent}
    (hu : ((process config now t a events).task u).isReading = true) :
    (process config now t a events).task u = a.task u := by
  have hmeet : ∀ seen event, ((a.skip seen).meet config event).task = a.task := by
    intro seen event
    unfold SellerAgent.meet
    split_ifs <;> rfl
  rcases process_cases config now t a events with
    ⟨-, hend⟩ | ⟨seen, event, rest, -, -, ⟨-, asked, hstop⟩ | ⟨-, hstop⟩⟩
  · rw [hend] at hu ⊢
    exact setTask_reading rfl rfl hu
  · rw [hstop] at hu ⊢
    exact setTask_reading rfl (hmeet seen event) hu
  · rw [hstop] at hu ⊢
    exact setTask_reading rfl (hmeet seen event) hu

/-- A poll that waits for events after a step has waited for them before, or starts with it. -/
theorem step_reading {label : SellerLabel lib} (hstep : step config a label = some a')
    {u : SellerPollId} (hu : (a'.task u).isReading = true) :
    a'.task u = a.task u ∨ label = .poll u ∧ a.task u = .idle ∧ a'.task u ≠ .idle := by
  have hcomplete : ∀ (b : SellerAgent lib) (now : ℤ) (t : SellerPollId) (h : Handling),
      b.task = a.task → ((complete config now t b h).task u).isReading = true →
        (complete config now t b h).task u = a.task u := by
    intro b now t h hb hreads
    rw [← hb]
    exact process_reading (a := { b with handled := b.handled ++ [h.event] }) hreads
  cases label with
  | append event =>
    simp only [SellerAgent.step] at hstep
    split_ifs at hstep
    cases hstep
    exact .inl rfl
  | respondToRfq t now | offerSigned t _ | quoteSigned t _ =>
    cases ht : a.task t <;> simp only [SellerAgent.step, ht, reduceCtorEq, Option.some.injEq] at hstep
    subst hstep
    exact .inl (setTask_reading rfl rfl hu)
  | poll t =>
    cases ht : a.task t <;> simp only [SellerAgent.step, ht, reduceCtorEq, Option.some.injEq] at hstep
    subst hstep
    rw [setTask_task] at hu ⊢
    split_ifs at hu ⊢ with htu hstopped
    · simp [SellerTask.isReading] at hu
    · exact .inr ⟨by rw [htu], htu ▸ ht, by simp⟩
    · exact .inl rfl
  | eventsArrive t n now =>
    cases ht : a.task t <;> simp only [SellerAgent.step, ht, reduceCtorEq, Option.some.injEq] at hstep
    subst hstep
    exact .inl (process_reading hu)
  | strategyAnswers t action offerId now =>
    cases ht : a.task t <;> simp only [SellerAgent.step, ht, reduceCtorEq, Option.some.injEq] at hstep
    · subst hstep
      cases hsafe : sanitizeSellerAction action config.priv <;> rw [hsafe] at hu <;>
        exact .inl (setTask_reading rfl rfl hu)
    · subst hstep
      cases hsafe : sanitizeSellerAction action config.priv <;> rw [hsafe] at hu
      · exact .inl (setTask_reading rfl rfl hu)
      · exact .inl (setTask_reading rfl rfl hu)
      · exact .inl (hcomplete _ now t _ rfl hu)
      · exact .inl (hcomplete _ now t _ rfl hu)
  | offerPosted t now =>
    cases ht : a.task t <;> simp only [SellerAgent.step, ht, reduceCtorEq] at hstep
    rename_i h offer
    cases h with
    | none =>
      cases hstep
      exact .inl (setTask_reading rfl rfl hu)
    | some h =>
      cases hstep
      exact .inl (hcomplete _ now t h rfl hu)
  | quoteArrives t quote now =>
    cases ht : a.task t <;> simp only [SellerAgent.step, ht, reduceCtorEq, Option.some.injEq] at hstep
    subst hstep
    split_ifs at hu ⊢
    · exact .inl (setTask_reading rfl rfl hu)
    · exact .inl (hcomplete a now t _ rfl hu)
  | cosigned t now =>
    cases ht : a.task t <;> simp only [SellerAgent.step, ht, reduceCtorEq, Option.some.injEq] at hstep
    subst hstep
    exact .inl (hcomplete _ now t _ rfl hu)
  | fails t now =>
    cases ht : a.task t <;> simp only [SellerAgent.step, ht, reduceCtorEq, Option.some.injEq] at hstep
    case gettingQuote | signingQuote | cosigning =>
      subst hstep
      exact .inl (process_reading hu)
    all_goals
      subst hstep
      exact .inl (setTask_reading rfl rfl hu)
  | markSettled now | stop =>
    cases hstep
    exact .inl rfl

/-! ### What comes from the log -/

/-- What the agent holds of the log, beside the ids that tell its events apart. -/
structure Knows (config : SellerAgentConfig lib) (a : SellerAgent lib) : Prop where
  nodup : (a.log.map (·.eventId)).Nodup
  cursor : ∀ id, a.session.lastEventId = some id → id ∈ a.log.map (·.eventId)
  fetching : ∀ t id, a.task t = .fetching (some id) → id ∈ a.log.map (·.eventId)
  handling : ∀ t h, (a.task t).handling = some h → h.event ∈ a.log ∧ h.rest ⊆ a.log
  deciding : ∀ t h asked, a.task t = .deciding h asked → isCounter config h.event = true
  offersFor : ∀ event ∈ a.offersFor, event ∈ a.log ∧ isCounter config event = true

theorem Knows.start (config : SellerAgentConfig lib) (rfq : RFQ) :
    Knows config (SellerAgent.start rfq : SellerAgent lib) where
  nodup := List.nodup_nil
  cursor := by simp [SellerAgent.start, newSession]
  fetching := by simp [SellerAgent.start]
  handling := by simp [SellerAgent.start, SellerTask.handling]
  deciding := by simp [SellerAgent.start]
  offersFor := by simp [SellerAgent.start]

theorem Knows.sameRead (h : Knows config a) {b : SellerAgent lib} (hb : SameRead a b) :
    Knows config b where
  nodup := hb.log ▸ h.nodup
  cursor := by
    rw [hb.lastEventId, hb.log]
    exact h.cursor
  fetching := by
    rw [hb.task, hb.log]
    exact h.fetching
  handling := by
    rw [hb.task, hb.log]
    exact h.handling
  deciding := by
    rw [hb.task]
    exact h.deciding
  offersFor := by
    rw [hb.offersFor, hb.log]
    exact h.offersFor

theorem Knows.setTask (h : Knows config a) {t : SellerPollId} {task : SellerTask lib}
    (hfetching : ∀ id, task = .fetching (some id) → id ∈ a.log.map (·.eventId))
    (hhandling : ∀ k, task.handling = some k → k.event ∈ a.log ∧ k.rest ⊆ a.log)
    (hdeciding : ∀ k asked, task = .deciding k asked → isCounter config k.event = true) :
    Knows config (a.setTask t task) where
  nodup := h.nodup
  cursor := h.cursor
  fetching u id hu := by
    rw [setTask_task] at hu
    split_ifs at hu
    · exact hfetching id hu
    · exact h.fetching u id hu
  handling u k hu := by
    rw [setTask_task] at hu
    split_ifs at hu
    · exact hhandling k hu
    · exact h.handling u k hu
  deciding u k asked hu := by
    rw [setTask_task] at hu
    split_ifs at hu
    · exact hdeciding k asked hu
    · exact h.deciding u k asked hu
  offersFor := h.offersFor

/-- Reading some events of the log. -/
theorem Knows.skip (h : Knows config a) {seen : List NegotiationEvent} (hseen : seen ⊆ a.log) :
    Knows config (a.skip seen) := by
  refine ⟨h.nodup, fun id hid => ?_, h.fetching, h.handling, h.deciding, h.offersFor⟩
  have hlast : ∀ (s : SellerAgentSession) (seen : List NegotiationEvent),
      (seen.foldl receive s).lastEventId = (seen.getLast?.map (·.eventId)).or s.lastEventId := by
    intro s seen
    induction seen using List.reverseRecOn with
    | nil => simp
    | append_singleton seen event ih => simp [receive]
  change (seen.foldl receive a.session).lastEventId = some id at hid
  rw [hlast, Option.or_eq_some_iff, Option.map_eq_some_iff] at hid
  rcases hid with ⟨event, hevent, rfl⟩ | ⟨-, hid⟩
  · exact List.mem_map_of_mem (hseen (List.mem_of_getLast? hevent))
  · exact h.cursor id hid

theorem Knows.meet (h : Knows config a) {event : NegotiationEvent} (hevent : event ∈ a.log) :
    Knows config (a.meet config event) := by
  have hlast : (a.meet config event).session.lastEventId = some event.eventId := by
    unfold SellerAgent.meet
    dsimp only
    split_ifs <;> rfl
  refine ⟨h.nodup, fun id hid => ?_, h.fetching, h.handling, h.deciding, h.offersFor⟩
  rw [hlast, Option.some.injEq] at hid
  exact hid ▸ List.mem_map_of_mem hevent

theorem Knows.process (h : Knows config a) (now : ℤ) (t : SellerPollId)
    {events : List NegotiationEvent} (hevents : events ⊆ a.log) :
    Knows config (process config now t a events) := by
  rcases process_cases config now t a events with
    ⟨-, hend⟩ | ⟨seen, event, rest, rfl, -, hstop⟩
  · rw [hend]
    exact (h.skip hevents).setTask (by simp) (by simp [SellerTask.handling]) (by simp)
  · obtain ⟨hseen, hrest⟩ := List.append_subset.mp hevents
    obtain ⟨hevent, hrest⟩ := List.cons_subset.mp hrest
    have hmet : Knows config ((a.skip seen).meet config event) := (h.skip hseen).meet hevent
    have hkeep : ∀ k : Handling, some ⟨event, rest⟩ = some k → k.event ∈ a.log ∧ k.rest ⊆ a.log := by
      rintro k ⟨⟩
      exact ⟨hevent, hrest⟩
    rcases hstop with ⟨hcounter, asked, hstop⟩ | ⟨-, hstop⟩
    · rw [hstop]
      refine hmet.setTask (by simp) hkeep ?_
      rintro k asked' ⟨⟩
      exact hcounter
    · rw [hstop]
      exact hmet.setTask (by simp) hkeep (by simp)

theorem Knows.append (h : Knows config a) {event : NegotiationEvent}
    (hfresh : event.eventId ∉ a.log.map (·.eventId)) :
    Knows config { a with log := a.log ++ [event] } where
  nodup := by
    rw [List.map_append, List.nodup_append]
    refine ⟨h.nodup, by simp, ?_⟩
    rintro id hid _ hevent rfl
    obtain rfl : id = event.eventId := by simpa using hevent
    exact hfresh hid
  cursor id hid := by
    rw [List.map_append]
    exact List.mem_append_left _ (h.cursor id hid)
  fetching t id ht := by
    rw [List.map_append]
    exact List.mem_append_left _ (h.fetching t id ht)
  handling t k hk := by
    obtain ⟨hevent, hrest⟩ := h.handling t k hk
    exact ⟨List.mem_append_left _ hevent, fun e he => List.mem_append_left _ (hrest he)⟩
  deciding := h.deciding
  offersFor e he := ⟨List.mem_append_left _ (h.offersFor e he).1, (h.offersFor e he).2⟩

theorem Knows.move (h : Knows config a) {label : SellerLabel lib} (hmove : Move config a label a') :
    Knows config a' := by
  cases hmove with
  | append event hfresh => exact h.append hfresh
  | wait t task hb hhandled hkeep hdeciding hfetching =>
    have hknows := h.sameRead hb
    refine hknows.setTask (fun id htask => ?_) (fun k hk => ?_) fun k asked htask =>
      absurd htask (hdeciding k asked)
    · obtain ⟨-, hafter⟩ := hfetching _ htask
      rw [hb.log]
      exact h.cursor id hafter.symm
    · rw [hb.log]
      rcases hkeep with hsame | ⟨hnone, -⟩
      · exact h.handling t k (hsame ▸ hk)
      · rw [hnone] at hk
        cases hk
  | offer t k asked offer ht =>
    have hk : (a.task t).handling = some k := by rw [ht, SellerTask.handling]
    have hadded : Knows config { a with offersFor := a.offersFor ++ [k.event] } := by
      refine ⟨h.nodup, h.cursor, h.fetching, h.handling, h.deciding, fun event hevent => ?_⟩
      rw [List.mem_append, List.mem_singleton] at hevent
      rcases hevent with hevent | rfl
      · exact h.offersFor event hevent
      · exact ⟨(h.handling t k hk).1, h.deciding t k asked ht⟩
    refine hadded.setTask (by simp) ?_ (by simp)
    rintro _ ⟨⟩
    exact h.handling t k hk
  | goOn t now k hb hhandled ht =>
    refine (h.sameRead hb).process now t ?_
    rw [hb.log]
    exact (h.handling t k ht).2
  | giveUp t now k ht => exact h.process now t (h.handling t k ht).2
  | arrive t n now after ht =>
    exact h.process now t (List.Subset.trans (List.take_subset _ _) (eventsAfter_subset _ _))
  | aside hb hhandled => exact h.sameRead hb

theorem Knows.run (config : SellerAgentConfig lib) (rfq : RFQ) (labels : List (SellerLabel lib)) :
    Knows config (run (step config) (SellerAgent.start rfq) labels) :=
  run_invariant (fun _ _ _ h hstep => h.move (step_move hstep)) (Knows.start config rfq) labels

end SellerAgent
end GhostBazaar.Agents
