import Mathlib.Algebra.BigOperators.Group.Finset.Piecewise
import GhostBazaar.Stats.Collector

/-! What the collector has counted, said by the logs that it was told about: every number is a sum
over the sessions. Both paths of the collector take the same steps on logs that derive. -/
namespace GhostBazaar.Stats
open Js GhostBazaar.Core Settlement Engine

/-! ### Sums over families of lists -/

section

variable {ι α : Type} [DecidableEq ι]

/-- One member of a family changes, and may be new to the sum. -/
theorem sum_insert_update {M : Type} [AddCommMonoid M] (s : Finset ι) (g : ι → α) (f : α → M)
    (r : ι) (v : α) (h : r ∉ s → f (g r) = 0) :
    ∑ x ∈ insert r s, f (Function.update g r v x) + f (g r) = ∑ x ∈ s, f (g x) + f v := by
  have hothers : ∑ x ∈ s.erase r, f (Function.update g r v x) = ∑ x ∈ s.erase r, f (g x) := by
    apply Finset.sum_congr rfl
    intro x hx
    rw [Function.update_of_ne (Finset.ne_of_mem_erase hx)]
  by_cases hr : r ∈ s
  · rw [Finset.insert_eq_of_mem hr, ← Finset.add_sum_erase s _ hr, hothers,
      ← Finset.add_sum_erase s (fun x => f (g x)) hr, Function.update_self]
    rw [add_comm (f v), add_assoc, add_comm (f v), ← add_assoc, add_comm (f (g r))]
  · rw [Finset.erase_eq_of_notMem hr] at hothers
    rw [Finset.sum_insert hr, hothers, h hr, Function.update_self, add_zero, add_comm]

/-- One member of a family of sets grows, and may be new to the union. -/
theorem biUnion_insert_update {β : Type} [DecidableEq β] (s : Finset ι) (g : ι → α)
    (f : α → Finset β) (r : ι) (v : α) (h : f (g r) ⊆ f v) :
    ((insert r s).biUnion fun x => f (Function.update g r v x)) =
      f v ∪ s.biUnion fun x => f (g x) := by
  ext b
  simp only [Finset.mem_biUnion, Finset.mem_insert, Finset.mem_union]
  constructor
  · rintro ⟨x, hx, hb⟩
    by_cases hxr : x = r
    · rw [hxr, Function.update_self] at hb
      exact Or.inl hb
    · rw [Function.update_of_ne hxr] at hb
      exact Or.inr ⟨x, hx.resolve_left hxr, hb⟩
  · rintro (hb | ⟨x, hx, hb⟩)
    · exact ⟨r, Or.inl rfl, by rwa [Function.update_self]⟩
    · by_cases hxr : x = r
      · rw [hxr] at hb
        exact ⟨r, Or.inl rfl, by rw [Function.update_self]; exact h hb⟩
      · exact ⟨x, Or.inr hx, by rwa [Function.update_of_ne hxr]⟩

end

/-! ### Logs and what they say -/

/-- The logs of sessions, each of which derives. -/
structure SessionLogs where
  ids : Finset JsString
  log : JsString → List NegotiationEvent
  mem_ids : ∀ r, r ∈ ids ↔ log r ≠ []
  derives : ∀ r ∈ ids, ∃ s, deriveState (log r) = .ok (some s)

namespace SessionLogs

def empty : SessionLogs := ⟨∅, fun _ => [], by simp, by simp⟩

@[ext] theorem ext {L L' : SessionLogs} (h : L.log = L'.log) : L = L' := by
  have hids : L.ids = L'.ids := by
    ext r
    rw [L.mem_ids, L'.mem_ids, h]
  cases L
  cases L'
  congr

/-- One more event of a session. -/
def append (L : SessionLogs) (event : NegotiationEvent) (s : DerivedSession)
    (h : deriveState (L.log event.rfqId ++ [event]) = .ok (some s)) : SessionLogs where
  ids := insert event.rfqId L.ids
  log := Function.update L.log event.rfqId (L.log event.rfqId ++ [event])
  mem_ids := by
    intro r
    rw [Finset.mem_insert, L.mem_ids, Function.update_apply]
    split_ifs with hr
    · simp [hr]
    · simp [hr]
  derives := by
    intro r hr
    rw [Function.update_apply]
    split_ifs with heq
    · exact ⟨s, h⟩
    · exact L.derives r ((Finset.mem_insert.mp hr).resolve_left heq)

def total {M : Type} [AddCommMonoid M] (L : SessionLogs) (f : List NegotiationEvent → M) : M :=
  ∑ r ∈ L.ids, f (L.log r)

def collect (L : SessionLogs) (f : List NegotiationEvent → Finset JsString) : Finset JsString :=
  L.ids.biUnion fun r => f (L.log r)

theorem subset_collect (L : SessionLogs) {f : List NegotiationEvent → Finset JsString}
    (hnil : f [] = ∅) (r : JsString) : f (L.log r) ⊆ L.collect f := by
  by_cases hr : r ∈ L.ids
  · exact Finset.subset_biUnion_of_mem (fun r => f (L.log r)) hr
  · rw [not_not.mp (mt (L.mem_ids r).mpr hr), hnil]
    exact Finset.empty_subset _

section

variable {L : SessionLogs} {event : NegotiationEvent} {s : DerivedSession}
  (h : deriveState (L.log event.rfqId ++ [event]) = .ok (some s))

theorem total_append {M : Type} [AddCommMonoid M] {f : List NegotiationEvent → M}
    (hnil : f [] = 0) : (L.append event s h).total f + f (L.log event.rfqId) =
      L.total f + f (L.log event.rfqId ++ [event]) := by
  apply sum_insert_update L.ids L.log f
  intro hr
  rw [not_not.mp (mt (L.mem_ids event.rfqId).mpr hr), hnil]

theorem collect_append {f : List NegotiationEvent → Finset JsString}
    (hgrow : f (L.log event.rfqId) ⊆ f (L.log event.rfqId ++ [event])) :
    (L.append event s h).collect f = f (L.log event.rfqId ++ [event]) ∪ L.collect f :=
  biUnion_insert_update L.ids L.log f event.rfqId _ hgrow

theorem log_append_of_ne {r : JsString} (hr : r ≠ event.rfqId) :
    (L.append event s h).log r = L.log r := Function.update_of_ne hr _ _

theorem log_append_self :
    (L.append event s h).log event.rfqId = L.log event.rfqId ++ [event] :=
  Function.update_self ..

end

end SessionLogs

def stateOf (log : List NegotiationEvent) : Option SessionState :=
  match deriveState log with
  | .ok (some s) => some s.state
  | _ => none

theorem stateOf_eq {log : List NegotiationEvent} {s : DerivedSession}
    (h : deriveState log = .ok (some s)) : stateOf log = some s.state := by
  unfold stateOf
  rw [h]

/-- What the counting of offers and counters leaves alone. -/
def SessionLedgerEntry.key (entry : SessionLedgerEntry) : SessionState × JsString :=
  (entry.state, entry.createdAt)

/-- The state of a session and the time of its first event, as its ledger entry has them. -/
def account (log : List NegotiationEvent) : Option (SessionState × JsString) :=
  log.head?.bind fun first => (stateOf log).map fun state => (state, first.timestamp)

def inState (state : SessionState) (log : List NegotiationEvent) : ℕ :=
  if stateOf log = some state then 1 else 0

def endedIn (log : List NegotiationEvent) : ℕ :=
  if (stateOf log).any SessionState.isTerminal then 1 else 0

def offersIn (log : List NegotiationEvent) : ℕ := log.countP (·.type = .offerSubmitted)

def countersIn (log : List NegotiationEvent) : ℕ := log.countP (·.type = .counterSent)

/-- From the first event to the one that ended the negotiation. -/
def durationOf (env : EngineEnv) (log : List NegotiationEvent) : ℤ :=
  match log.head?, log.find? (·.type.ends) with
  | some first, some last => spentMs env first.timestamp last.timestamp
  | _, _ => 0

def buyersOf (log : List NegotiationEvent) : Finset JsString :=
  (log.head?.map NegotiationEvent.actor).toFinset

def sellersOf (log : List NegotiationEvent) : Finset JsString :=
  ((log.filter (·.type = .offerSubmitted)).filterMap StatsCollector.sellerOf).toFinset

/-- Every number of the collector is about the logs. -/
structure Tallies (env : EngineEnv) (listings : ℕ) (c : StatsCollector) (L : SessionLogs) :
    Prop where
  ledger : ∀ r, (c.sessionLedger.get? r).map SessionLedgerEntry.key = account (L.log r)
  byState : ∀ state, c.byState state = L.total (inState state)
  terminalSessions : c.terminalSessions = L.total endedIn
  completedDeals : c.completedDeals = L.total (inState .committed)
  totalDurationMs : c.totalDurationMs = L.total (durationOf env)
  totalOffers : c.totalOffers = L.total offersIn
  totalCounters : c.totalCounters = L.total countersIn
  uniqueBuyers : c.uniqueBuyers = L.collect buyersOf
  uniqueSellers : c.uniqueSellers = L.collect sellersOf
  listingCount : c.listingCount = listings

theorem Tallies.init (env : EngineEnv) (listings : ℕ) :
    Tallies env listings (.init listings) .empty where
  ledger _ := rfl
  byState _ := rfl
  terminalSessions := rfl
  completedDeals := rfl
  totalDurationMs := rfl
  totalOffers := rfl
  totalCounters := rfl
  uniqueBuyers := rfl
  uniqueSellers := rfl
  listingCount := rfl


/-! ### What the blocks of the collector change -/

namespace StatsCollector

section

variable {env : EngineEnv} (c : StatsCollector) (event : NegotiationEvent)

/-- The counting of offers and counters leaves the other numbers alone. -/
theorem processEventType_frame : (c.processEventType event).byState = c.byState ∧
    (c.processEventType event).terminalSessions = c.terminalSessions ∧
    (c.processEventType event).completedDeals = c.completedDeals ∧
    (c.processEventType event).totalDurationMs = c.totalDurationMs ∧
    (c.processEventType event).uniqueBuyers = c.uniqueBuyers ∧
    (c.processEventType event).listingCount = c.listingCount := by
  unfold processEventType
  split <;> exact ⟨rfl, rfl, rfl, rfl, rfl, rfl⟩

theorem processEventType_ledger (r : JsString) :
    ((c.processEventType event).sessionLedger.get? r).map SessionLedgerEntry.key =
      (c.sessionLedger.get? r).map SessionLedgerEntry.key := by
  have hset (entry entry' : SessionLedgerEntry)
      (hget : c.sessionLedger.get? event.rfqId = some entry) (hkey : entry'.key = entry.key) :
      ((c.sessionLedger.set event.rfqId entry').get? r).map SessionLedgerEntry.key =
        (c.sessionLedger.get? r).map SessionLedgerEntry.key := by
    rw [JsMap.get?_set]
    split_ifs with hr
    · rw [hr, hget, Option.map_some, Option.map_some, hkey]
    · rfl
  unfold processEventType
  split
  · rfl
  · rename_i entry _ hget
    exact hset entry _ hget rfl
  · rfl
  · rename_i entry _ hget
    exact hset entry _ hget rfl
  · rfl

theorem processEventType_totals :
    (c.processEventType event).totalOffers = c.totalOffers + offersIn [event] ∧
      (c.processEventType event).totalCounters = c.totalCounters + countersIn [event] := by
  unfold processEventType offersIn countersIn
  split
  · rename_i htype _
    simp [htype]
  · rename_i htype _
    simp [htype]
  · rename_i htype _
    simp [htype]
  · rename_i htype _
    simp [htype]
  · rename_i hoffer hcounter
    cases hget : c.sessionLedger.get? event.rfqId <;> simp_all

theorem processEventType_sellers {entry : SessionLedgerEntry}
    (hget : c.sessionLedger.get? event.rfqId = some entry) :
    (c.processEventType event).uniqueSellers = sellersOf [event] ∪ c.uniqueSellers := by
  unfold processEventType sellersOf
  rw [hget]
  cases htype : event.type with
  | offerSubmitted =>
    cases hseller : sellerOf event with
    | none => simp [htype, hseller]
    | some seller => simp [htype, hseller]
  | _ => simp [htype]

variable {c event} {entry : SessionLedgerEntry} {state : SessionState}

theorem moveTo_byState (r : SessionState) :
    (c.moveTo env event entry state).byState r =
      if entry.state = state then c.byState r
      else if r = state then c.byState r + 1
      else if r = entry.state then c.byState r - 1 else c.byState r := by
  have hmoved : (c.moveTo env event entry state).byState =
      if entry.state = state then c.byState else movedStates c.byState entry.state state := by
    unfold moveTo
    split_ifs <;> rfl
  rw [hmoved]
  split_ifs with heq hr hr'
  · rfl
  · rw [movedStates, hr, Function.update_self, Function.update_of_ne (Ne.symm heq)]
  · rw [movedStates, Function.update_of_ne hr, hr', Function.update_self]
  · rw [movedStates, Function.update_of_ne hr, Function.update_of_ne hr']

theorem moveTo_ended :
    (c.moveTo env event entry state).terminalSessions =
        c.terminalSessions + (if entry.state ≠ state ∧ state.isTerminal then 1 else 0) ∧
      (c.moveTo env event entry state).totalDurationMs = c.totalDurationMs +
        (if entry.state ≠ state ∧ state.isTerminal then spentMs env entry.createdAt event.timestamp
          else 0) := by
  unfold moveTo
  split_ifs with heq hterminal <;> simp_all

theorem moveTo_completedDeals : (c.moveTo env event entry state).completedDeals =
    c.completedDeals + if entry.state ≠ state ∧ state = .committed then 1 else 0 := by
  unfold moveTo
  by_cases heq : entry.state = state
  · simp [heq]
  · cases state <;> simp [heq, SessionState.isTerminal]

theorem moveTo_frame : (c.moveTo env event entry state).totalOffers = c.totalOffers ∧
    (c.moveTo env event entry state).totalCounters = c.totalCounters ∧
    (c.moveTo env event entry state).uniqueBuyers = c.uniqueBuyers ∧
    (c.moveTo env event entry state).uniqueSellers = c.uniqueSellers ∧
    (c.moveTo env event entry state).listingCount = c.listingCount := by
  unfold moveTo
  split_ifs <;> exact ⟨rfl, rfl, rfl, rfl, rfl⟩

theorem moveTo_ledger (hget : c.sessionLedger.get? event.rfqId = some entry) (r : JsString) :
    ((c.moveTo env event entry state).sessionLedger.get? r).map SessionLedgerEntry.key =
      if r = event.rfqId then some (state, entry.createdAt)
      else (c.sessionLedger.get? r).map SessionLedgerEntry.key := by
  unfold moveTo
  split_ifs with heq hr hterminal
  · rw [hr, hget, ← heq]
    rfl
  · rfl
  all_goals
    rw [JsMap.get?_set]
    simp_all [SessionLedgerEntry.key]

end

end StatsCollector

/-! ### What one more event changes in a log -/

theorem isValidTransition_ends {s t : SessionState} {type : EventType}
    (h : isValidTransition s type = some t) :
    (s ≠ t ∧ t.isTerminal = true ↔ type.ends = true) ∧
      t.isTerminal = (s.isTerminal || type.ends) ∧
      (type.ends = true → s.isTerminal = false) := by
  cases s <;> cases type <;> simp [isValidTransition] at h <;> subst h <;>
    simp [SessionState.isTerminal, EventType.ends]

/-- The simplified state machine is the real one on the transitions that there are. -/
theorem deriveNextState_getD {s t : SessionState} {type : EventType}
    (h : isValidTransition s type = some t) : (deriveNextState s type).getD s = t := by
  cases s <;> cases type <;> simp [isValidTransition] at h <;> subst h <;> rfl

theorem isTerminal_eq_any {log : List NegotiationEvent} {s : DerivedSession}
    (h : deriveState log = .ok (some s)) : s.state.isTerminal = log.any (·.type.ends) := by
  refine derives_induction (C := fun log s => s.state.isTerminal = log.any (·.type.ends)) ?_ ?_ h
  · intro event s hfirst
    obtain ⟨hopen, -, -, -, -, -, -, -, htype, -⟩ := initialSession_state hfirst
    simp [hopen, htype, SessionState.isTerminal, EventType.ends]
  · intro log event s s' _ hstep ih
    obtain ⟨-, hterminal, -⟩ := isValidTransition_ends hstep.transition
    rw [hterminal, ih]
    simp

section

variable {log : List NegotiationEvent} {event first : NegotiationEvent} {s₀ s : DerivedSession}

theorem offersIn_append : offersIn (log ++ [event]) = offersIn log + offersIn [event] :=
  List.countP_append

theorem countersIn_append : countersIn (log ++ [event]) = countersIn log + countersIn [event] :=
  List.countP_append

theorem sellersOf_append : sellersOf (log ++ [event]) = sellersOf log ∪ sellersOf [event] := by
  unfold sellersOf
  rw [List.filter_append, List.filterMap_append, List.toFinset_append]

theorem inState_eq {state : SessionState} (hs : deriveState log = .ok (some s)) :
    inState state log = if s.state = state then 1 else 0 := by
  unfold inState
  rw [stateOf_eq hs]
  simp

theorem endedIn_eq (hs : deriveState log = .ok (some s)) :
    endedIn log = if s.state.isTerminal then 1 else 0 := by
  unfold endedIn
  rw [stateOf_eq hs]
  rfl

theorem account_eq (hfirst : log.head? = some first) (hs : deriveState log = .ok (some s)) :
    account log = some (s.state, first.timestamp) := by
  unfold account
  rw [hfirst, stateOf_eq hs]
  rfl

/-- Only the event that ends a session has an effect on its duration. -/
theorem durationOf_append (env : EngineEnv) (hfirst : log.head? = some first)
    (hs : deriveState log = .ok (some s₀)) (hstep : EventStep s₀ event s) :
    durationOf env (log ++ [event]) = durationOf env log +
      if s₀.state ≠ s.state ∧ s.state.isTerminal = true
      then spentMs env first.timestamp event.timestamp else 0 := by
  obtain ⟨hends, -, hlive⟩ := isValidTransition_ends hstep.transition
  have hhead : (log ++ [event]).head? = some first := by
    rw [List.head?_append, hfirst]
    rfl
  unfold durationOf
  rw [hhead, hfirst, List.find?_append, List.find?_singleton]
  simp only [hends]
  split_ifs with htype
  · have hnone : log.find? (·.type.ends) = none := by
      have hany := isTerminal_eq_any hs
      rw [hlive htype, eq_comm, List.any_eq_false] at hany
      exact List.find?_eq_none.mpr hany
    rw [hnone]
    simp
  · rw [Option.or_none, add_zero]

end

/-! ### The collector keeps its accounts -/

section

variable {env : EngineEnv} {listings : ℕ} {c : StatsCollector} {L : SessionLogs}
  {event : NegotiationEvent} {s : DerivedSession}

theorem Tallies.get?_eq_none (ht : Tallies env listings c L) (hlog : L.log event.rfqId = []) :
    c.sessionLedger.get? event.rfqId = none := by
  have hledger := ht.ledger event.rfqId
  rw [hlog] at hledger
  exact Option.map_eq_none_iff.mp hledger

theorem Tallies.get?_eq_some (ht : Tallies env listings c L) {first : NegotiationEvent}
    {s₀ : DerivedSession} (hfirst : (L.log event.rfqId).head? = some first)
    (hs₀ : deriveState (L.log event.rfqId) = .ok (some s₀)) :
    ∃ prev, c.sessionLedger.get? event.rfqId = some prev ∧ prev.state = s₀.state ∧
      prev.createdAt = first.timestamp := by
  have hledger := ht.ledger event.rfqId
  rw [account_eq hfirst hs₀] at hledger
  obtain ⟨prev, hprev, hkey⟩ := Option.map_eq_some_iff.mp hledger
  exact ⟨prev, hprev, congrArg Prod.fst hkey, congrArg Prod.snd hkey⟩

/-- The event is the next of a session, which derives with it to `s`. -/
structure Extends (L : SessionLogs) (event : NegotiationEvent) (s : DerivedSession) : Prop where
  derives : deriveState (L.log event.rfqId ++ [event]) = .ok (some s)
  buyer : L.log event.rfqId = [] → s.rfq.buyer = event.actor

/-- On the logs of an engine, an event alone tells the replay as much as the session tells the
listener. -/
theorem Tallies.processRawEvent_eq (ht : Tallies env listings c L) (h : Extends L event s) :
    c.processRawEvent env event = c.onEvent env event s := by
  unfold StatsCollector.processRawEvent StatsCollector.onEvent
  rcases derives_append h.derives with ⟨hlog, hfirst⟩ | ⟨first, s₀, hfirst, hs₀, hstep⟩
  · obtain ⟨hopen, -, -, -, -, -, -, -, htype, -⟩ := initialSession_state hfirst
    have hadded : (c.addSession event .open event.actor).sessionLedger.get? event.rfqId =
        some ⟨.open, event.timestamp, 0, 0, ∅⟩ := JsMap.get?_set_self ..
    simp only [htype, if_true, hadded, deriveNextState, ht.get?_eq_none hlog, hopen, h.buyer hlog]
  · obtain ⟨prev, hprev, hstate, -⟩ := ht.get?_eq_some hfirst hs₀
    have htransition := hstep.transition
    have htype : event.type ≠ .rfqCreated := by
      intro htype
      rw [htype] at htransition
      cases hs : s₀.state <;> simp [hs, isValidTransition] at htransition
    have hnext := deriveNextState_getD htransition
    simp only [if_neg htype, hprev, hstate]
    cases hderived : deriveNextState s₀.state event.type with
    | some newState =>
      rw [hderived, Option.getD_some] at hnext
      rw [hnext]
    | none =>
      rw [hderived, Option.getD_none] at hnext
      rw [StatsCollector.moveTo, if_pos (hstate.trans hnext)]

/-- The accounts between the halves of `onEvent`: the session has moved on, the offers and
counters are those of before. -/
structure Moved (env : EngineEnv) (c c' : StatsCollector) (L' : SessionLogs) : Prop where
  ledger : ∀ r, (c'.sessionLedger.get? r).map SessionLedgerEntry.key = account (L'.log r)
  byState : ∀ state, c'.byState state = L'.total (inState state)
  terminalSessions : c'.terminalSessions = L'.total endedIn
  completedDeals : c'.completedDeals = L'.total (inState .committed)
  totalDurationMs : c'.totalDurationMs = L'.total (durationOf env)
  uniqueBuyers : c'.uniqueBuyers = L'.collect buyersOf
  totalOffers : c'.totalOffers = c.totalOffers
  totalCounters : c'.totalCounters = c.totalCounters
  uniqueSellers : c'.uniqueSellers = c.uniqueSellers
  listingCount : c'.listingCount = c.listingCount

theorem Tallies.addSession (ht : Tallies env listings c L)
    (h : deriveState (L.log event.rfqId ++ [event]) = .ok (some s))
    (hlog : L.log event.rfqId = []) (hfirst : initialSession event = .ok s)
    (hbuyer : s.rfq.buyer = event.actor) :
    Moved env c (c.addSession event s.state s.rfq.buyer) (L.append event s h) := by
  obtain ⟨hopen, -, -, -, -, -, -, -, htype, -⟩ := initialSession_state hfirst
  have hs : deriveState [event] = .ok (some s) := by rwa [hlog] at h
  have hduration : durationOf env [event] = 0 := by simp [durationOf, htype, EventType.ends]
  have htotal {M : Type} [AddCommMonoid M] (f : List NegotiationEvent → M) (hnil : f [] = 0) :
      (L.append event s h).total f = L.total f + f [event] := by
    have htotal := L.total_append h hnil
    rwa [hlog, hnil, add_zero] at htotal
  constructor
  · intro r
    unfold StatsCollector.addSession
    rw [JsMap.get?_set]
    split_ifs with hr
    · rw [hr, SessionLogs.log_append_self, hlog]
      exact (account_eq rfl hs).symm
    · rw [SessionLogs.log_append_of_ne h hr]
      exact ht.ledger r
  · intro state
    have hstate : (c.addSession event s.state s.rfq.buyer).byState state =
        c.byState state + inState state [event] := by
      unfold StatsCollector.addSession
      rw [inState_eq hs]
      simp only [Function.update_apply]
      split_ifs with heq hne hne
      · rw [heq]
      · exact absurd heq.symm hne
      · exact absurd hne.symm heq
      · rfl
    rw [hstate, ht.byState, htotal (inState state) rfl]
  · rw [htotal endedIn rfl, endedIn_eq hs, hopen, ← ht.terminalSessions]
    rfl
  · rw [htotal (inState .committed) rfl, inState_eq hs, hopen, ← ht.completedDeals]
    rfl
  · rw [htotal (durationOf env) rfl, hduration, ← ht.totalDurationMs, add_zero]
    rfl
  · rw [SessionLogs.collect_append h (by rw [hlog]; exact Finset.empty_subset _),
      ← ht.uniqueBuyers, hlog, hbuyer]
    exact Finset.insert_eq ..
  · rfl
  · rfl
  · rfl
  · rfl

theorem Tallies.moveTo (ht : Tallies env listings c L) {first : NegotiationEvent}
    {s₀ : DerivedSession}
    {prev : SessionLedgerEntry} (h : deriveState (L.log event.rfqId ++ [event]) = .ok (some s))
    (hfirst : (L.log event.rfqId).head? = some first)
    (hs₀ : deriveState (L.log event.rfqId) = .ok (some s₀)) (hstep : EventStep s₀ event s)
    (hprev : c.sessionLedger.get? event.rfqId = some prev) (hstate : prev.state = s₀.state)
    (hcreated : prev.createdAt = first.timestamp) :
    Moved env c (c.moveTo env event prev s.state) (L.append event s h) := by
  have hfirst' : (L.log event.rfqId ++ [event]).head? = some first := by
    rw [List.head?_append, hfirst]
    rfl
  obtain ⟨hends, hterminal, hlive⟩ := isValidTransition_ends hstep.transition
  obtain ⟨hoffers, hcounters, hbuyers, hsellers, hlistings⟩ :=
    @StatsCollector.moveTo_frame env c event prev s.state
  constructor
  · intro r
    rw [StatsCollector.moveTo_ledger hprev]
    split_ifs with hr
    · rw [hr, SessionLogs.log_append_self, account_eq hfirst' h, hcreated]
    · rw [SessionLogs.log_append_of_ne h hr]
      exact ht.ledger r
  · intro state
    have htotal := L.total_append h (f := inState state) rfl
    rw [inState_eq hs₀, inState_eq h, ← ht.byState] at htotal
    rw [StatsCollector.moveTo_byState, hstate]
    split_ifs at htotal ⊢ <;> grind
  · have htotal := L.total_append h (f := endedIn) rfl
    rw [endedIn_eq hs₀, endedIn_eq h, ← ht.terminalSessions] at htotal
    rw [StatsCollector.moveTo_ended.1, hstate]
    simp only [hends]
    cases hended : event.type.ends with
    | false =>
      rw [hterminal, hended, Bool.or_false] at htotal
      simp only [Bool.false_eq_true, if_false]
      omega
    | true =>
      rw [hterminal, hlive hended, hended] at htotal
      simpa using htotal.symm
  · have htotal := L.total_append h (f := inState .committed) rfl
    rw [inState_eq hs₀, inState_eq h, ← ht.completedDeals] at htotal
    rw [StatsCollector.moveTo_completedDeals, hstate]
    have hstays : s₀.state = .committed → s.state = .committed := by
      intro hcommitted
      apply (isValidTransition_terminal _ hstep.transition).2.1
      rw [hcommitted]
      rfl
    split_ifs at htotal ⊢ <;> grind
  · have htotal := L.total_append h (f := durationOf env) rfl
    rw [durationOf_append env hfirst hs₀ hstep, ← ht.totalDurationMs] at htotal
    rw [StatsCollector.moveTo_ended.2, hstate, hcreated]
    omega
  · have hsame : buyersOf (L.log event.rfqId ++ [event]) = buyersOf (L.log event.rfqId) := by
      unfold buyersOf
      rw [hfirst', hfirst]
    rw [hbuyers, SessionLogs.collect_append h hsame.ge, hsame, ht.uniqueBuyers,
      Finset.union_eq_right.mpr (L.subset_collect rfl event.rfqId)]
  · exact hoffers
  · exact hcounters
  · exact hsellers
  · exact hlistings

/-- The second half of a step, which every event goes through. -/
theorem Tallies.processEventType {c' : StatsCollector} (ht : Tallies env listings c L)
    (h : deriveState (L.log event.rfqId ++ [event]) = .ok (some s))
    (hm : Moved env c c' (L.append event s h)) :
    Tallies env listings (c'.processEventType event) (L.append event s h) := by
  obtain ⟨hstate, hended, hdeals, hduration, hbuyers, hlistings⟩ :=
    StatsCollector.processEventType_frame c' event
  obtain ⟨hoffers, hcounters⟩ := StatsCollector.processEventType_totals c' event
  have hentry : ∃ entry, c'.sessionLedger.get? event.rfqId = some entry := by
    have hledger := hm.ledger event.rfqId
    have hne : (L.log event.rfqId ++ [event]).head?.isSome := by simp
    obtain ⟨first, hfirst⟩ := Option.isSome_iff_exists.mp hne
    rw [SessionLogs.log_append_self, account_eq hfirst h] at hledger
    obtain ⟨entry, hentry, -⟩ := Option.map_eq_some_iff.mp hledger
    exact ⟨entry, hentry⟩
  obtain ⟨entry, hentry⟩ := hentry
  constructor
  · intro r
    rw [StatsCollector.processEventType_ledger]
    exact hm.ledger r
  · intro state
    rw [hstate]
    exact hm.byState state
  · rw [hended, hm.terminalSessions]
  · rw [hdeals, hm.completedDeals]
  · rw [hduration, hm.totalDurationMs]
  · have htotal := L.total_append h (f := offersIn) rfl
    rw [offersIn_append, ← ht.totalOffers] at htotal
    rw [hoffers, hm.totalOffers]
    omega
  · have htotal := L.total_append h (f := countersIn) rfl
    rw [countersIn_append, ← ht.totalCounters] at htotal
    rw [hcounters, hm.totalCounters]
    omega
  · rw [hbuyers, hm.uniqueBuyers]
  · rw [StatsCollector.processEventType_sellers c' event hentry, hm.uniqueSellers,
      ht.uniqueSellers,
      SessionLogs.collect_append h (by rw [sellersOf_append]; exact Finset.subset_union_left),
      sellersOf_append, Finset.union_comm (sellersOf (L.log event.rfqId)), Finset.union_assoc,
      Finset.union_eq_right.mpr (L.subset_collect (f := sellersOf) rfl event.rfqId)]
  · rw [hlistings, hm.listingCount, ht.listingCount]

theorem Tallies.onEvent (ht : Tallies env listings c L) (h : Extends L event s) :
    Tallies env listings (c.onEvent env event s) (L.append event s h.derives) := by
  unfold StatsCollector.onEvent
  apply ht.processEventType h.derives
  rcases derives_append h.derives with ⟨hlog, hfirst⟩ | ⟨first, s₀, hfirst, hs₀, hstep⟩
  · rw [ht.get?_eq_none hlog]
    exact ht.addSession h.derives hlog hfirst (h.buyer hlog)
  · obtain ⟨prev, hprev, hstate, hcreated⟩ := ht.get?_eq_some hfirst hs₀
    rw [hprev]
    exact ht.moveTo h.derives hfirst hs₀ hstep hprev hstate hcreated

end

end GhostBazaar.Stats
