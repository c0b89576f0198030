import GhostBazaar.Js.Json

/-! The session state machine: states, event types and the transitions between states. -/
namespace GhostBazaar.Engine
open Js

inductive SessionState where
  | open
  | negotiating
  | commitPending
  | committed
  | expired
  | cancelled
  deriving DecidableEq

inductive EventType where
  | rfqCreated
  | offerSubmitted
  | counterSent
  | winnerSelected
  | commitPending
  | quoteSigned
  | quoteCommitted
  | cosignDeclined
  | cosignTimeout
  | negotiationExpired
  | negotiationCancelled
  | settlementConfirmed
  deriving DecidableEq

def SessionState.text : SessionState → JsString
  | .open => js "OPEN"
  | .negotiating => js "NEGOTIATING"
  | .commitPending => js "COMMIT_PENDING"
  | .committed => js "COMMITTED"
  | .expired => js "EXPIRED"
  | .cancelled => js "CANCELLED"

def EventType.text : EventType → JsString
  | .rfqCreated => js "RFQ_CREATED"
  | .offerSubmitted => js "OFFER_SUBMITTED"
  | .counterSent => js "COUNTER_SENT"
  | .winnerSelected => js "WINNER_SELECTED"
  | .commitPending => js "COMMIT_PENDING"
  | .quoteSigned => js "QUOTE_SIGNED"
  | .quoteCommitted => js "QUOTE_COMMITTED"
  | .cosignDeclined => js "COSIGN_DECLINED"
  | .cosignTimeout => js "COSIGN_TIMEOUT"
  | .negotiationExpired => js "NEGOTIATION_EXPIRED"
  | .negotiationCancelled => js "NEGOTIATION_CANCELLED"
  | .settlementConfirmed => js "SETTLEMENT_CONFIRMED"

/-- An entry of the append-only log of a session. -/
structure NegotiationEvent where
  eventId : JsString
  rfqId : JsString
  type : EventType
  timestamp : JsString
  actor : JsString
  payload : Members
  deriving DecidableEq

/-- `TRANSITION_RULES[currentState][eventType]`. -/
def isValidTransition : SessionState → EventType → Option SessionState
  | .open, .offerSubmitted => some .negotiating
  | .open, .negotiationExpired => some .expired
  | .open, .negotiationCancelled => some .cancelled
  | .negotiating, .offerSubmitted => some .negotiating
  | .negotiating, .counterSent => some .negotiating
  | .negotiating, .winnerSelected => some .commitPending
  | .negotiating, .negotiationExpired => some .expired
  | .negotiating, .negotiationCancelled => some .cancelled
  | .commitPending, .commitPending => some .commitPending
  | .commitPending, .quoteSigned => some .commitPending
  | .commitPending, .quoteCommitted => some .committed
  | .commitPending, .cosignDeclined => some .negotiating
  | .commitPending, .cosignTimeout => some .negotiating
  | .commitPending, .negotiationExpired => some .expired
  | .committed, .settlementConfirmed => some .committed
  | _, _ => none

/-- The enforcer's terminal states: no route moves a session out of them. -/
def SessionState.isTerminal : SessionState → Bool
  | .committed | .expired | .cancelled => true
  | _ => false

theorem isValidTransition_terminal {s t : SessionState} {type : EventType}
    (hs : s.isTerminal = true) (h : isValidTransition s type = some t) :
    s = .committed ∧ t = .committed ∧ type = .settlementConfirmed := by
  cases s <;> cases type <;> simp_all [isValidTransition, SessionState.isTerminal]

end GhostBazaar.Engine
