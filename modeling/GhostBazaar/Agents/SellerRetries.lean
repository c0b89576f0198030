import GhostBazaar.Agents.BuyerBudget
import GhostBazaar.Agents.SellerPolling

/-! Events whose handling fails. A seller's cursor is at an event from the start of its
handling, so an event that fails is behind the cursor already. -/
namespace GhostBazaar.Agents
open Js GhostBazaar.Core Strategy Transition

variable {lib : DecimalLib}

/-- A poll under way, other than the one of `respondToRfq`. -/
def SellerTask.isPolling : SellerTask lib → Bool
  | fetching _ => true
  | task => task.handling.isSome

namespace SellerAgent

variable {config : SellerAgentConfig lib} {a a' : SellerAgent lib}

/-- A poll starts when no other is under way. -/
def NonOverlapping (a : SellerAgent lib) : SellerLabel lib → Prop
  | .poll _ => ∀ u, (a.task u).isPolling = false
  | _ => True

/-- No call fails that is made to handle an event. -/
def HandlingSucceeds (a : SellerAgent lib) : SellerLabel lib → Prop
  | .fails t _ => (a.task t).handling = none
  | _ => True

/-- A poll handles the event now. -/
def IsHandled (a : SellerAgent lib) (event : NegotiationEvent) : Prop :=
  ∃ t h, (a.task t).handling = some h ∧ h.event = event

/-- What the session has read is handled, or being handled by the one poll there is. -/
structure Attended (a : SellerAgent lib) : Prop where
  fetching : ∀ t after, a.task t = .fetching after → after = a.session.lastEventId
  unique : ∀ t u, (a.task t).isPolling = true → (a.task u).isPolling = true → t = u
  attended : ∀ e ∈ a.session.events, e ∈ a.handled ∨ IsHandled a e

theorem start_attended (rfq : RFQ) : Attended (start rfq : SellerAgent lib) where
  fetching := by simp [start]
  unique := by simp [start, SellerTask.isPolling, SellerTask.handling]
  attended := by simp [start, newSession]

theorem isPolling_of_handling {task : SellerTask lib} {h : Handling} (ht : task.handling = some h) :
    task.isPolling = true := by
  cases task <;> simp_all [SellerTask.isPolling, SellerTask.handling]

theorem isPolling_cases {task : SellerTask lib} (ht : task.isPolling = true) :
    (∃ after, task = .fetching after) ∨ ∃ h, task.handling = some h := by
  cases task <;> simp_all [SellerTask.isPolling, SellerTask.handling, Option.isSome_iff_exists]

theorem Attended.sameRead (h : Attended a) {b : SellerAgent lib} (hb : SameRead a b)
    (hhandled : b.handled = a.handled) : Attended b where
  fetching := by
    rw [hb.task, hb.lastEventId]
    exact h.fetching
  unique := by
    rw [hb.task]
    exact h.unique
  attended := by
    unfold IsHandled
    rw [hb.events, hb.task, hhandled]
    exact h.attended

/-- A poll goes on with the same event; one that fetches has asked for the cursor of now. -/
theorem Attended.setTask (h : Attended a) {t : SellerPollId} {task : SellerTask lib}
    (hkeep : task.handling = (a.task t).handling)
    (hfetching : ∀ after, task = .fetching after →
      (∀ u, (a.task u).isPolling = false) ∧ after = a.session.lastEventId) :
    Attended (a.setTask t task) := by
  constructor
  · intro u after hu
    rw [setTask_task] at hu
    split_ifs at hu
    · exact (hfetching after hu).2
    · exact h.fetching u after hu
  · -- a task that polls is the old one, or fetches while there is no other
    have hpolls : ∀ u v, u = t → v ≠ t → task.isPolling = true → (a.task v).isPolling = true →
        u = v := by
      intro u v hu hv htask hother
      rcases isPolling_cases htask with ⟨after, hafter⟩ | ⟨k, hk⟩
      · rw [(hfetching after hafter).1 v] at hother
        cases hother
      · rw [hkeep] at hk
        rw [hu]
        exact h.unique t v (isPolling_of_handling hk) hother
    intro u v hu hv
    rw [setTask_task] at hu hv
    split_ifs at hu hv with hut hvt hvt
    · rw [hut, hvt]
    · exact hpolls u v hut hvt hu hv
    · exact (hpolls v u hvt hut hv hu).symm
    · exact h.unique u v hu hv
  · intro e he
    refine (h.attended e he).imp_right ?_
    rintro ⟨u, k, hk, hevent⟩
    refine ⟨u, k, ?_, hevent⟩
    rw [setTask_task]
    split_ifs with hu
    · rw [hkeep, ← hu, hk]
    · exact hk

/-- The only poll goes through the events that come next. -/
theorem Attended.process {b : SellerAgent lib} (now : ℤ) {t : SellerPollId}
    {events : List NegotiationEvent} (hthis : ∀ u, u ≠ t → (b.task u).isPolling = false)
    (hdone : ∀ e ∈ b.session.events, e ∈ b.handled) :
    Attended (process config now t b events) := by
  have hothers : ∀ (c : SellerAgent lib) (task : SellerTask lib), c.task = b.task →
      (∀ after, task ≠ .fetching after) →
      (∀ u after, (c.setTask t task).task u = .fetching after → after = c.session.lastEventId) ∧
      ∀ u v, ((c.setTask t task).task u).isPolling = true →
        ((c.setTask t task).task v).isPolling = true → u = v := by
    intro c task hc htask
    have hat : ∀ u, ((c.setTask t task).task u).isPolling = true → u = t := by
      intro u hu
      by_contra hut
      rw [setTask_task, if_neg hut, hc, hthis u hut] at hu
      cases hu
    constructor
    · intro u after hu
      have hut := hat u (by rw [hu, SellerTask.isPolling])
      rw [setTask_task, if_pos hut] at hu
      exact absurd hu (htask after)
    · intro u v hu hv
      rw [hat u hu, hat v hv]
  rcases process_cases config now t b events with ⟨_, hend⟩ | ⟨seen, event, rest, rfl, _, hstop⟩
  · rw [hend]
    obtain ⟨hfetching, hunique⟩ := hothers (b.skip events) .finished rfl (by simp)
    refine ⟨hfetching, hunique, ?_⟩
    intro e he
    left
    change e ∈ (events.foldl receive b.session).events at he
    change e ∈ b.handled ++ events
    rw [foldl_receive_events] at he
    rcases List.mem_append.mp he with he | he
    · exact List.mem_append_left _ (hdone e he)
    · exact List.mem_append_right _ he
  · have hmeet : ((b.skip seen).meet config event).session.events =
        b.session.events ++ seen ++ [event] := by
      unfold meet
      dsimp only
      split_ifs <;> simp [receive, skip, foldl_receive_events]
    have hread : ∀ task : SellerTask lib, task.handling = some ⟨event, rest⟩ →
        ∀ e ∈ ((b.skip seen).meet config event).session.events,
          e ∈ b.handled ++ seen ∨
            IsHandled (((b.skip seen).meet config event).setTask t task) e := by
      intro task htask e he
      rw [hmeet] at he
      rcases List.mem_append.mp he with he | he
      · left
        rcases List.mem_append.mp he with he | he
        · exact List.mem_append_left _ (hdone e he)
        · exact List.mem_append_right _ he
      · right
        refine ⟨t, ⟨event, rest⟩, ?_, (List.mem_singleton.mp he).symm⟩
        rw [setTask_task, if_pos rfl, htask]
    rcases hstop with ⟨_, asked, hstop⟩ | ⟨_, hstop⟩
    · rw [hstop]
      obtain ⟨hfetching, hunique⟩ := hothers ((b.skip seen).meet config event)
        (.deciding ⟨event, rest⟩ asked) rfl (by simp)
      exact ⟨hfetching, hunique, hread _ rfl⟩
    · rw [hstop]
      obtain ⟨hfetching, hunique⟩ := hothers ((b.skip seen).meet config event)
        (.gettingQuote ⟨event, rest⟩) rfl (by simp)
      exact ⟨hfetching, hunique, hread _ rfl⟩

theorem Attended.only (h : Attended a) {t : SellerPollId} (ht : (a.task t).isPolling = true)
    (u : SellerPollId) (hu : u ≠ t) : (a.task u).isPolling = false := by
  by_contra hpolling
  exact hu (h.unique u t (by simpa using hpolling) ht)

theorem Attended.inTurn (h : Attended a) (label : SellerLabel lib) : InTurn a label := by
  cases label with
  | eventsArrive t n now =>
    intro after ht
    refine ⟨(h.fetching t after ht).symm, ?_⟩
    intro u hu k hk
    have hnone := h.only (by rw [ht, SellerTask.isPolling]) u hu
    rw [isPolling_of_handling hk] at hnone
    cases hnone
  | _ => trivial

theorem Attended.move (h : Attended a) {label : SellerLabel lib} (hlabel : NonOverlapping a label)
    (hok : HandlingSucceeds a label) (hmove : Move config a label a') : Attended a' := by
  cases hmove with
  | append event hfresh => exact ⟨h.fetching, h.unique, h.attended⟩
  | wait t task hb hhandled hkeep hdeciding hfetching =>
    apply (h.sameRead hb hhandled).setTask
    · rw [hb.task]
      rcases hkeep with hsame | ⟨hnone, now, rfl⟩
      · exact hsame
      · have hfails : (a.task t).handling = none := hok
        rw [hnone, hfails]
    · intro after hafter
      obtain ⟨rfl, hcursor⟩ := hfetching after hafter
      rw [hb.task, hb.lastEventId]
      exact ⟨hlabel, hcursor⟩
  | offer t k asked offer ht =>
    have hoffered : Attended { a with offersFor := a.offersFor ++ [k.event] } :=
      ⟨h.fetching, h.unique, h.attended⟩
    apply hoffered.setTask
    · simp [ht, SellerTask.handling]
    · simp
  | goOn t now k hb hhandled ht =>
    have honly := h.only (isPolling_of_handling ht)
    apply Attended.process now
    · rw [hb.task]
      exact honly
    · rw [hb.events, hhandled]
      intro e he
      rcases h.attended e he with hdone | ⟨u, k', hk', rfl⟩
      · exact List.mem_append_left _ hdone
      · -- the poll that handles it is the one that completes
        have hut : u = t := by
          by_contra hne
          have hnone := honly u hne
          rw [isPolling_of_handling hk'] at hnone
          cases hnone
        rw [hut, ht, Option.some.injEq] at hk'
        rw [hk']
        exact List.mem_append_right _ (List.mem_singleton_self _)
  | giveUp t now k ht =>
    have hfails : (a.task t).handling = none := hok
    rw [hfails] at ht
    cases ht
  | arrive t n now after ht =>
    have hpolling : (a.task t).isPolling = true := by rw [ht, SellerTask.isPolling]
    have honly := h.only hpolling
    apply Attended.process now honly
    intro e he
    rcases h.attended e he with hdone | ⟨u, k, hk, _⟩
    · exact hdone
    · exfalso
      by_cases hut : u = t
      · rw [hut, ht] at hk
        cases hk
      · have hnone := honly u hut
        rw [isPolling_of_handling hk] at hnone
        cases hnone
  | aside hb hhandled => exact h.sameRead hb hhandled

/-- In a run of polls that do not overlap, whose calls about events succeed, the cursor is not
past an event that is neither handled nor being handled. -/
theorem cursor_attended (config : SellerAgentConfig lib) (rfq : RFQ)
    (labels : List (SellerLabel lib))
    (hpolls : Guarded (step config) NonOverlapping (start rfq) labels)
    (hok : Guarded (step config) HandlingSucceeds (start rfq) labels) :
    let a := run (step config) (start rfq) labels
    ∀ event ∈ a.log, event ∉ eventsAfter a.log a.session.lastEventId →
      event ∈ a.handled ∨ IsHandled a event := by
  have hboth : Guarded (step config) (fun a label => NonOverlapping a label ∧
      HandlingSucceeds a label) (start rfq) labels := hpolls.and hok
  have hinv := hboth.invariant (P := fun a => Reads a ∧ Attended a)
    (fun a label a' h hlabel hstep => ⟨h.1.move (h.2.inTurn label) (step_move hstep),
      h.2.move hlabel.1 hlabel.2 (step_move hstep)⟩) ⟨start_reads rfq, start_attended rfq⟩
  obtain ⟨hreads, hattended⟩ := hinv
  intro a event hevent hpassed
  have hlog := hreads.eventsAfter
  rw [← hlog] at hevent
  rcases List.mem_append.mp hevent with hevent | hevent
  · exact hattended.attended event hevent
  · exact absurd hevent hpassed

/-! ### A counter that is not answered -/

def sampleSellerConfig : SellerAgentConfig BuyerAgent.sampleLib where
  did := js "did:seller"
  priv :=
    { floorPrice := ⟨.finite 30, some (.str (js "30")), by decide +kernel⟩
      targetPrice := ⟨.finite 60, BuyerAgent.sample_sixty⟩ }
  listingId := js "listing-1"
  listingProfile := none
  parseOtherDate := fun _ => none

def sampleRfq : RFQ where
  rfqId := js "rfq-1"
  protocol := js "ghost-bazaar-v4"
  buyer := js "did:buyer"
  serviceType := js "smart-contract-audit"
  spec := []
  anchorPrice := js "30"
  currency := js "USDC"
  deadline := js "1970-01-01T01:00:00.000Z"
  signature := []
  budgetCommitment := none

def sampleCounter : NegotiationEvent where
  eventId := .text (js "e1")
  rfqId := js "rfq-1"
  eventType := js "counter"
  actor := js "did:buyer"
  payload := some (.obj [(js "price", .str (js "40"))])
  timestamp := js "1970-01-01T00:00:00.000Z"

/-- A poll fetches the counter, and asks the strategy. -/
def asking (rest : List (SellerLabel BuyerAgent.sampleLib)) : List (SellerLabel BuyerAgent.sampleLib) :=
  .append sampleCounter :: .poll 0 :: .eventsArrive 0 1 0 :: rest

/-- The strategy fails; the cursor is past the counter, and the next poll fetches nothing. -/
theorem counter_skipped :
    let a := run (step sampleSellerConfig) (start sampleRfq) (asking [.fails 0 0])
    a.log = [sampleCounter] ∧ eventsAfter a.log a.session.lastEventId = [] ∧ a.handled = [] ∧
      ∀ event, ¬ IsHandled a event := by
  refine ⟨rfl, List.length_eq_zero_iff.mp (by decide +kernel), rfl, ?_⟩
  rintro event ⟨t, h, ht, _⟩
  cases t with
  | zero => cases ht
  | succ t => cases ht

theorem cursor_attended_sample :
    let a := run (step sampleSellerConfig) (start sampleRfq)
      (asking [.strategyAnswers 0 .hold (js "o1") 0, .poll 1, .eventsArrive 1 1 0])
    ∀ event ∈ a.log, event ∉ eventsAfter a.log a.session.lastEventId →
      event ∈ a.handled ∨ IsHandled a event := by
  apply cursor_attended
  · refine ⟨trivial, fun _ => rfl, trivial, trivial, ?_, trivial, trivial⟩
    intro t
    cases t with
    | zero => rfl
    | succ t => rfl
  · exact ⟨trivial, trivial, trivial, trivial, trivial, trivial, trivial⟩

end SellerAgent
end GhostBazaar.Agents
