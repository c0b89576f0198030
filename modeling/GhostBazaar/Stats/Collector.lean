import Mathlib.Algebra.BigOperators.Group.Finset.Basic
import Mathlib.Algebra.Order.Field.Rat
import Mathlib.Data.Rat.Floor
import GhostBazaar.Engine.TerminalEvents

/-! The `StatsCollector` without its activity counters: the totals of the dashboard, counted event
by event, with the session that an event leads to or from the event alone. -/
namespace GhostBazaar.Stats
open Js GhostBazaar.Core Settlement Engine

/-! ### The collector -/

structure SessionLedgerEntry where
  state : SessionState
  createdAt : JsString
  offerCount : ℕ
  counterCount : ℕ
  sellerDids : Finset JsString

/-- The totals are exact integers, as Numbers are below `2^53`. -/
structure StatsCollector where
  uniqueBuyers : Finset JsString
  uniqueSellers : Finset JsString
  totalOffers : ℕ
  totalCounters : ℕ
  completedDeals : ℕ
  terminalSessions : ℕ
  totalDurationMs : ℤ
  byState : SessionState → ℕ
  sessionLedger : JsMap JsString SessionLedgerEntry
  listingCount : ℕ

/-- The time between two texts, if it is positive; a time that is no number adds nothing. -/
def spentMs (env : EngineEnv) (createdAt timestamp : JsString) : ℤ :=
  match dateParse env.legacyDate createdAt, dateParse env.legacyDate timestamp with
  | some start, some finish => max 0 (finish - start)
  | _, _ => 0

/-- Event type to next state, the simplified state machine of the replay. -/
def deriveNextState (current : SessionState) : EventType → Option SessionState
  | .offerSubmitted => if current = .open then some .negotiating else none
  | .winnerSelected => some .commitPending
  | .quoteCommitted => some .committed
  | .negotiationExpired => some .expired
  | .negotiationCancelled => some .cancelled
  | .cosignDeclined | .cosignTimeout =>
    if current = .commitPending then some .negotiating else none
  | _ => none

namespace StatsCollector

def init (listingCount : ℕ) : StatsCollector where
  uniqueBuyers := ∅
  uniqueSellers := ∅
  totalOffers := 0
  totalCounters := 0
  completedDeals := 0
  terminalSessions := 0
  totalDurationMs := 0
  byState := fun _ => 0
  sessionLedger := .empty
  listingCount

/-- A session that the ledger does not have. -/
def addSession (c : StatsCollector) (event : NegotiationEvent) (state : SessionState)
    (buyer : JsString) : StatsCollector :=
  { c with
    sessionLedger := c.sessionLedger.set event.rfqId ⟨state, event.timestamp, 0, 0, ∅⟩
    byState := Function.update c.byState state (c.byState state + 1)
    uniqueBuyers := insert buyer c.uniqueBuyers }

/-- `byState` after a session went from one state to another. -/
def movedStates (byState : SessionState → ℕ) (old new : SessionState) : SessionState → ℕ :=
  let left := Function.update byState old (byState old - 1)
  Function.update left new (left new + 1)

/-- The block of a state transition, which is the same text on both paths. -/
def moveTo (env : EngineEnv) (c : StatsCollector) (event : NegotiationEvent)
    (entry : SessionLedgerEntry) (state : SessionState) : StatsCollector :=
  if entry.state = state then c
  else if state.isTerminal then
    { c with
      byState := movedStates c.byState entry.state state
      terminalSessions := c.terminalSessions + 1
      totalDurationMs := c.totalDurationMs + spentMs env entry.createdAt event.timestamp
      completedDeals := c.completedDeals + if state = .committed then 1 else 0
      sessionLedger := c.sessionLedger.set event.rfqId { entry with state, sellerDids := ∅ } }
  else
    { c with
      byState := movedStates c.byState entry.state state
      sessionLedger := c.sessionLedger.set event.rfqId { entry with state } }

/-- The seller whom a counted offer names. -/
def sellerOf (event : NegotiationEvent) : Option JsString :=
  JsValue.asStr (event.payload.lookup (js "seller"))

def processEventType (c : StatsCollector) (event : NegotiationEvent) : StatsCollector :=
  match event.type, c.sessionLedger.get? event.rfqId with
  | .offerSubmitted, none => { c with totalOffers := c.totalOffers + 1 }
  | .offerSubmitted, some entry =>
    { c with
      totalOffers := c.totalOffers + 1
      sessionLedger := c.sessionLedger.set event.rfqId { entry with
        offerCount := entry.offerCount + 1
        sellerDids := (sellerOf event).elim entry.sellerDids (insert · entry.sellerDids) }
      uniqueSellers := (sellerOf event).elim c.uniqueSellers (insert · c.uniqueSellers) }
  | .counterSent, none => { c with totalCounters := c.totalCounters + 1 }
  | .counterSent, some entry =>
    { c with
      totalCounters := c.totalCounters + 1
      sessionLedger := c.sessionLedger.set event.rfqId
        { entry with counterCount := entry.counterCount + 1 } }
  | _, _ => c

/-- The listener of the manager, which is given the session after the event. -/
def onEvent (env : EngineEnv) (c : StatsCollector) (event : NegotiationEvent)
    (session : DerivedSession) : StatsCollector :=
  let counted := match c.sessionLedger.get? event.rfqId with
    | none => c.addSession event session.state session.rfq.buyer
    | some prev => c.moveTo env event prev session.state
  counted.processEventType event

/-- An event of the startup replay, which is given no session. -/
def processRawEvent (env : EngineEnv) (c : StatsCollector) (event : NegotiationEvent) :
    StatsCollector :=
  let c := if event.type = .rfqCreated then c.addSession event .open event.actor else c
  match c.sessionLedger.get? event.rfqId with
  | none => c
  | some entry =>
    let moved := match deriveNextState entry.state event.type with
      | some newState => c.moveTo env event entry newState
      | none => c
    moved.processEventType event

/-- The constructor: the whole store is replayed. -/
def ofStore {σ : Type} [InternalEventStore σ] (env : EngineEnv) (eventStore : σ)
    (listingCount : ℕ) : StatsCollector :=
  (InternalEventStore.listSessionIds eventStore).foldl
    (fun c rfqId =>
      (InternalEventStore.getAllEvents eventStore rfqId).foldl (processRawEvent env) c)
    (init listingCount)

end StatsCollector

structure DashboardStats where
  active_sessions : ℕ
  completed_deals : ℕ
  total_sessions : ℕ
  unique_buyers : ℕ
  unique_sellers : ℕ
  by_state : SessionState → ℕ
  total_offers : ℕ
  total_counters : ℕ
  avg_offers_per_session : ℚ
  avg_rounds_per_session : ℚ
  avg_negotiation_duration_ms : ℤ
  success_rate : ℚ
  uptime : ℕ
  listings : ℕ

def mathRound (x : ℚ) : ℤ := ⌊x + 1 / 2⌋

/-- `Math.round((a / b) * scale) / scale` of a positive `b`, and zero of none; `fl` gives the
Number next to a value. -/
def roundedShare (fl : ℚ → ℚ) (scale a b : ℕ) : ℚ :=
  if b > 0 then fl (mathRound (fl (fl (a / b) * scale)) / scale) else 0

namespace StatsCollector

def getStats (fl : ℚ → ℚ) (uptime : ℕ) (c : StatsCollector) : DashboardStats :=
  let totalSessions := c.sessionLedger.entries.length
  { active_sessions := c.byState .open + c.byState .negotiating + c.byState .commitPending
    completed_deals := c.completedDeals
    total_sessions := totalSessions
    unique_buyers := c.uniqueBuyers.card
    unique_sellers := c.uniqueSellers.card
    by_state := c.byState
    total_offers := c.totalOffers
    total_counters := c.totalCounters
    avg_offers_per_session := roundedShare fl 10 c.totalOffers totalSessions
    avg_rounds_per_session := roundedShare fl 10 c.totalCounters totalSessions
    avg_negotiation_duration_ms :=
      if c.terminalSessions > 0 then mathRound (fl (c.totalDurationMs / c.terminalSessions)) else 0
    success_rate := roundedShare fl 100 c.completedDeals c.terminalSessions
    uptime
    listings := c.listingCount }

end StatsCollector
end GhostBazaar.Stats
