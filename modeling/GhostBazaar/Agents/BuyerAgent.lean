import GhostBazaar.Js.Map
import GhostBazaar.Js.Date
import GhostBazaar.Strategy.LlmBuyer
import GhostBazaar.Transition

/-! The buyer runtime: its sessions, and its polls as they wait for the engine, the strategy
and the signatures. A step is what runs between two waits, so polls may overlap at will. -/
namespace GhostBazaar.Agents
open Js GhostBazaar.Core Strategy Transition

structure BuyerAgentConfig (lib : DecimalLib) where
  did : JsString
  priv : BuyerPrivate lib
  /-- Whether there is a `zkProver`. -/
  zkProver : Bool
  /-- What `Date.parse` makes of a text in no standard format. -/
  parseOtherDate : JsString → Option ℤ

structure BuyerAgentSession where
  rfqId : JsString
  rfq : RFQ
  offers : List SellerOffer
  countersSent : List CounterOffer
  events : List NegotiationEvent
  round : ℕ
  lastEventId : Option EventId
  committedAt : Option ℤ
  quote : JsValue
  stopped : Bool

abbrev PollId := ℕ

/-- What a poll waits for. -/
inductive PollTask (lib : DecimalLib) where
  | idle
  | fetching (rfqId : JsString)
  | deciding (rfqId : JsString) (asked : BuyerStrategyContext lib)
  | proving (rfqId : JsString) (counter : CounterOffer)
  | signingCounter (rfqId : JsString) (counter : CounterOffer)
  | postingCounter (rfqId : JsString) (counter : CounterOffer)
  | signingAccept (rfqId : JsString) (targetOffer : SellerOffer) (sessionRevision : JsString)
  | accepting (rfqId : JsString) (targetOffer : SellerOffer)
  | signingQuote (rfqId : JsString) (targetOffer : SellerOffer) (unsignedQuote : Json)
  | sendingQuote (rfqId : JsString) (targetOffer : SellerOffer) (buyerSigned : Json)
  | finished

/-- A message to the engine. An accept and a signature are recorded with the offer that the
poll chose for them. -/
inductive Message where
  | rfq (rfq : RFQ)
  | counter (rfqId : JsString) (counter : CounterOffer)
  | accept (rfqId : JsString) (targetOffer : SellerOffer) (sessionRevision : JsString)
  | signQuote (rfqId : JsString) (targetOffer : SellerOffer) (buyerSigned : Json)

structure BuyerAgent (lib : DecimalLib) where
  sessions : JsMap JsString BuyerAgentSession
  task : PollId → PollTask lib
  sent : List Message

structure RfqParams where
  serviceType : JsString
  spec : Members
  anchorPrice : JsString
  deadlineSeconds : ℤ

inductive AgentLabel (lib : DecimalLib) where
  /-- `postRfq`, taken by the engine: `rfqId` is a new uuid. -/
  | postRfq (params : RfqParams) (rfqId signature : JsString) (budgetCommitment : JsString)
      (now : ℤ)
  /-- A call of `poll`, by the timer or by hand. -/
  | poll (t : PollId) (rfqId : JsString)
  | eventsArrive (t : PollId) (newEvents : List NegotiationEvent) (now : ℤ)
  | strategyAnswers (t : PollId) (strategy : BuyerStrategy lib) (counterId : JsString)
  | proofReady (t : PollId) (budgetProof : Json)
  | signed (t : PollId) (signature : JsString)
  | posted (t : PollId)
  | accepted (t : PollId) (unsignedQuote : Json) (now : ℤ)
  | quoteSigned (t : PollId) (buyerSigned : Json)
  /-- What the poll waits for is rejected, and the poll with it. -/
  | fails (t : PollId)
  /-- The function that `startPolling` returned. -/
  | stop (rfqId : JsString)

namespace BuyerAgent

variable {lib : DecimalLib}

def empty : BuyerAgent lib := ⟨.empty, fun _ => .idle, []⟩

def setTask (b : BuyerAgent lib) (t : PollId) (task : PollTask lib) : BuyerAgent lib :=
  { b with task := Function.update b.task t task }

def setSession (b : BuyerAgent lib) (rfqId : JsString) (session : BuyerAgentSession) :
    BuyerAgent lib :=
  { b with sessions := b.sessions.set rfqId session }

def send (b : BuyerAgent lib) (message : Message) : BuyerAgent lib :=
  { b with sent := b.sent ++ [message] }

/-! ### postRfq -/

def newRfq (config : BuyerAgentConfig lib) (params : RfqParams) (rfqId signature : JsString)
    (budgetCommitment : JsString) (deadline : JsString) : RFQ where
  rfqId := rfqId
  protocol := js "ghost-bazaar-v4"
  buyer := config.did
  serviceType := params.serviceType
  spec := params.spec
  anchorPrice := params.anchorPrice
  currency := js "USDC"
  deadline := deadline
  signature := signature
  budgetCommitment := if config.zkProver then some budgetCommitment else none

def newSession (rfq : RFQ) : BuyerAgentSession where
  rfqId := rfq.rfqId
  rfq := rfq
  offers := []
  countersSent := []
  events := []
  round := 0
  lastEventId := none
  committedAt := none
  quote := some .null
  stopped := false

/-! ### poll -/

/-- A round of the loop over the new events. -/
def receive (now : ℤ) (s : BuyerAgentSession) (event : NegotiationEvent) : BuyerAgentSession :=
  let s := { s with events := s.events ++ [event], lastEventId := some event.eventId }
  let s :=
    match event.payload with
    | some offer =>
      if event.eventType = js "offer" ∧ offer.isTruthy ∧
          ¬ s.offers.any fun o => o.offerId.strictEq (SellerOffer.offerId offer) then
        { s with offers := s.offers ++ [offer] }
      else s
    | none => s
  if event.eventType = js "quote_committed" then
    { s with committedAt := some now, quote := event.payload }
  else s

def context (config : BuyerAgentConfig lib) (s : BuyerAgentSession) (now : ℤ) :
    BuyerStrategyContext lib where
  rfq := s.rfq
  priv := config.priv
  currentOffers := s.offers
  countersSent := s.countersSent
  round := s.round
  timeRemainingMs := (dateParse config.parseOtherDate s.rfq.deadline).map fun deadlineMs =>
    max 0 (deadlineMs - now)
  history := s.events

/-- The context that the strategy was given, with what its lists hold by now. -/
def contextNow (asked : BuyerStrategyContext lib) (s : BuyerAgentSession) :
    BuyerStrategyContext lib :=
  { asked with currentOffers := s.offers, countersSent := s.countersSent, history := s.events }

/-- `timeRemainingMs < 500` -/
def tooLate (asked : BuyerStrategyContext lib) : Bool :=
  match asked.timeRemainingMs with
  | some timeRemainingMs => decide (timeRemainingMs < 500)
  | none => false

def newCounter (config : BuyerAgentConfig lib) (s : BuyerAgentSession) (counterId : JsString)
    (seller : JsValue) (price : lib.Value) : CounterOffer where
  counterId := counterId
  rfqId := s.rfqId
  round := s.round
  «from» := config.did
  «to» := seller
  price := price.text
  currency := js "USDC"
  validUntil := s.rfq.deadline
  signature := js ""
  budgetProof := none

/-- Whether counters of the session carry a proof. -/
def proves (config : BuyerAgentConfig lib) (s : BuyerAgentSession) : Bool :=
  config.zkProver && (s.rfq.budgetCommitment.getD []) ≠ []

def targetOffer (s : BuyerAgentSession) (seller : JsValue) : Option SellerOffer :=
  s.offers.find? fun o => o.seller.strictEq seller

/-- `String(session.lastEventId ?? "0")` -/
def sessionRevision (s : BuyerAgentSession) : JsString :=
  match s.lastEventId with
  | some id => id.toJsString
  | none => js "0"

/-- The `switch` over the sanitized action. -/
def execute (config : BuyerAgentConfig lib) (b : BuyerAgent lib) (t : PollId)
    (s : BuyerAgentSession) (asked : BuyerStrategyContext lib) (counterId : JsString) :
    BuyerAction lib → BuyerAgent lib
  | .counter seller price =>
    if tooLate asked then b.setTask t .finished
    else
      let s := { s with round := s.round + 1 }
      let counter := newCounter config s counterId seller price
      (b.setSession s.rfqId s).setTask t
        (if proves config s then .proving s.rfqId counter else .signingCounter s.rfqId counter)
  | .accept seller =>
    match targetOffer s seller with
    | none => b.setTask t .finished
    | some offer => b.setTask t (.signingAccept s.rfqId offer (sessionRevision s))
  | .cancel => (b.setSession s.rfqId { s with stopped := true }).setTask t .finished
  | .wait => b.setTask t .finished

/-- The session that a poll works on. -/
def withSession (b : BuyerAgent lib) (rfqId : JsString)
    (f : BuyerAgentSession → BuyerAgent lib) : Option (BuyerAgent lib) :=
  (b.sessions.get? rfqId).map f

def start (b : BuyerAgent lib) (t : PollId) (rfqId : JsString) : BuyerAgent lib :=
  match b.sessions.get? rfqId with
  | none => b.setTask t .finished
  | some s => b.setTask t (if s.stopped then .finished else .fetching rfqId)

def eventsArrive (config : BuyerAgentConfig lib) (b : BuyerAgent lib) (t : PollId)
    (newEvents : List NegotiationEvent) (now : ℤ) (s : BuyerAgentSession) : BuyerAgent lib :=
  if newEvents = [] then b.setTask t .finished
  else
    let s := newEvents.foldl (receive now) s
    (b.setSession s.rfqId s).setTask t
      (if s.offers = [] ∨ s.quote.isTruthy then .finished
      else .deciding s.rfqId (context config s now))

def strategyAnswers (config : BuyerAgentConfig lib) (b : BuyerAgent lib) (t : PollId)
    (strategy : BuyerStrategy lib) (counterId : JsString) (asked : BuyerStrategyContext lib)
    (s : BuyerAgentSession) : BuyerAgent lib :=
  match strategy asked (contextNow asked s) with
  | .error _ => b.setTask t .finished
  | .ok action => b.execute config t s asked counterId (sanitizeBuyerAction action config.priv)

def step (config : BuyerAgentConfig lib) (b : BuyerAgent lib) :
    AgentLabel lib → Option (BuyerAgent lib)
  | .postRfq params rfqId signature budgetCommitment now =>
    match b.sessions.get? rfqId, toISOString (now + params.deadlineSeconds * 1000) with
    | none, some deadline =>
      let rfq := newRfq config params rfqId signature budgetCommitment deadline
      some ((b.send (.rfq rfq)).setSession rfqId (newSession rfq))
    | _, _ => none
  | .poll t rfqId =>
    match b.task t with
    | .idle => some (b.start t rfqId)
    | _ => none
  | .eventsArrive t newEvents now =>
    match b.task t with
    | .fetching rfqId => b.withSession rfqId (b.eventsArrive config t newEvents now)
    | _ => none
  | .strategyAnswers t strategy counterId =>
    match b.task t with
    | .deciding rfqId asked =>
      b.withSession rfqId (b.strategyAnswers config t strategy counterId asked)
    | _ => none
  | .proofReady t budgetProof =>
    match b.task t with
    | .proving rfqId counter =>
      some (b.setTask t (.signingCounter rfqId { counter with budgetProof := some budgetProof }))
    | _ => none
  | .signed t signature =>
    match b.task t with
    | .signingCounter rfqId counter =>
      let counter := { counter with signature := signature }
      some ((b.send (.counter rfqId counter)).setTask t (.postingCounter rfqId counter))
    | .signingAccept rfqId offer revision =>
      some ((b.send (.accept rfqId offer revision)).setTask t (.accepting rfqId offer))
    | _ => none
  | .posted t =>
    match b.task t with
    | .postingCounter rfqId counter => b.withSession rfqId fun s =>
      (b.setSession rfqId { s with countersSent := s.countersSent ++ [counter] }).setTask t .finished
    | .sendingQuote rfqId _ buyerSigned => b.withSession rfqId fun s =>
      (b.setSession rfqId { s with quote := some buyerSigned }).setTask t .finished
    | _ => none
  | .accepted t unsignedQuote now =>
    match b.task t with
    | .accepting rfqId offer => b.withSession rfqId fun s =>
      (b.setSession rfqId { s with committedAt := some now }).setTask t
        (.signingQuote rfqId offer unsignedQuote)
    | _ => none
  | .quoteSigned t buyerSigned =>
    match b.task t with
    | .signingQuote rfqId offer _ =>
      some ((b.send (.signQuote rfqId offer buyerSigned)).setTask t
        (.sendingQuote rfqId offer buyerSigned))
    | _ => none
  | .fails t =>
    match b.task t with
    | .idle | .finished => none
    | _ => some (b.setTask t .finished)
  | .stop rfqId => b.withSession rfqId fun s => b.setSession rfqId { s with stopped := true }

/-- The steps of the agent, each with what it needs: what the poll waits for, and the session
it works on. -/
inductive Steps (config : BuyerAgentConfig lib) (b : BuyerAgent lib) :
    AgentLabel lib → BuyerAgent lib → Prop
  | postRfq (params : RfqParams) {rfqId : JsString} (signature budgetCommitment : JsString)
      (now : ℤ) (deadline : JsString) (hnew : b.sessions.get? rfqId = none) :
      Steps config b (.postRfq params rfqId signature budgetCommitment now)
        ((b.send (.rfq (newRfq config params rfqId signature budgetCommitment deadline))).setSession
          rfqId (newSession (newRfq config params rfqId signature budgetCommitment deadline)))
  | poll {t : PollId} (rfqId : JsString) (htask : b.task t = .idle) :
      Steps config b (.poll t rfqId) (b.start t rfqId)
  | eventsArrive {t : PollId} {rfqId : JsString} {s : BuyerAgentSession}
      (newEvents : List NegotiationEvent) (now : ℤ) (htask : b.task t = .fetching rfqId)
      (hs : b.sessions.get? rfqId = some s) :
      Steps config b (.eventsArrive t newEvents now) (b.eventsArrive config t newEvents now s)
  | strategyAnswers {t : PollId} {rfqId : JsString} {asked : BuyerStrategyContext lib}
      {s : BuyerAgentSession} (strategy : BuyerStrategy lib) (counterId : JsString)
      (htask : b.task t = .deciding rfqId asked) (hs : b.sessions.get? rfqId = some s) :
      Steps config b (.strategyAnswers t strategy counterId)
        (b.strategyAnswers config t strategy counterId asked s)
  | proofReady {t : PollId} {rfqId : JsString} {counter : CounterOffer} (budgetProof : Json)
      (htask : b.task t = .proving rfqId counter) :
      Steps config b (.proofReady t budgetProof)
        (b.setTask t (.signingCounter rfqId { counter with budgetProof := some budgetProof }))
  | counterSigned {t : PollId} {rfqId : JsString} {counter : CounterOffer}
      (signature : JsString) (htask : b.task t = .signingCounter rfqId counter) :
      Steps config b (.signed t signature)
        ((b.send (.counter rfqId { counter with signature := signature })).setTask t
          (.postingCounter rfqId { counter with signature := signature }))
  | acceptSigned {t : PollId} {rfqId : JsString} {offer : SellerOffer} {revision : JsString}
      (signature : JsString) (htask : b.task t = .signingAccept rfqId offer revision) :
      Steps config b (.signed t signature)
        ((b.send (.accept rfqId offer revision)).setTask t (.accepting rfqId offer))
  | counterPosted {t : PollId} {rfqId : JsString} {counter : CounterOffer}
      {s : BuyerAgentSession} (htask : b.task t = .postingCounter rfqId counter)
      (hs : b.sessions.get? rfqId = some s) :
      Steps config b (.posted t)
        ((b.setSession rfqId { s with countersSent := s.countersSent ++ [counter] }).setTask t
          .finished)
  | quotePosted {t : PollId} {rfqId : JsString} {offer : SellerOffer} {buyerSigned : Json}
      {s : BuyerAgentSession} (htask : b.task t = .sendingQuote rfqId offer buyerSigned)
      (hs : b.sessions.get? rfqId = some s) :
      Steps config b (.posted t)
        ((b.setSession rfqId { s with quote := some buyerSigned }).setTask t .finished)
  | accepted {t : PollId} {rfqId : JsString} {offer : SellerOffer} {s : BuyerAgentSession}
      (unsignedQuote : Json) (now : ℤ) (htask : b.task t = .accepting rfqId offer)
      (hs : b.sessions.get? rfqId = some s) :
      Steps config b (.accepted t unsignedQuote now)
        ((b.setSession rfqId { s with committedAt := some now }).setTask t
          (.signingQuote rfqId offer unsignedQuote))
  | quoteSigned {t : PollId} {rfqId : JsString} {offer : SellerOffer} {unsignedQuote : Json}
      (buyerSigned : Json) (htask : b.task t = .signingQuote rfqId offer unsignedQuote) :
      Steps config b (.quoteSigned t buyerSigned)
        ((b.send (.signQuote rfqId offer buyerSigned)).setTask t
          (.sendingQuote rfqId offer buyerSigned))
  | fails {t : PollId} (hidle : b.task t ≠ .idle) (hfinished : b.task t ≠ .finished) :
      Steps config b (.fails t) (b.setTask t .finished)
  | stop {rfqId : JsString} {s : BuyerAgentSession} (hs : b.sessions.get? rfqId = some s) :
      Steps config b (.stop rfqId) (b.setSession rfqId { s with stopped := true })

theorem withSession_eq_some {b b' : BuyerAgent lib} {rfqId : JsString}
    {f : BuyerAgentSession → BuyerAgent lib} (h : b.withSession rfqId f = some b') :
    ∃ s, b.sessions.get? rfqId = some s ∧ f s = b' :=
  Option.map_eq_some_iff.mp h

theorem steps_of_step {config : BuyerAgentConfig lib} {b b' : BuyerAgent lib}
    {label : AgentLabel lib} (h : step config b label = some b') : Steps config b label b' := by
  cases label with
  | postRfq params rfqId signature budgetCommitment now =>
    unfold step at h
    cases hold : b.sessions.get? rfqId with
    | some s => simp [hold] at h
    | none =>
      cases hdeadline : toISOString (now + params.deadlineSeconds * 1000) with
      | none => simp [hold, hdeadline] at h
      | some deadline =>
        simp only [hold, hdeadline, Option.some.injEq] at h
        exact h ▸ .postRfq params signature budgetCommitment now deadline hold
  | stop rfqId =>
    obtain ⟨s, hs, rfl⟩ := withSession_eq_some h
    exact .stop hs
  | poll t rfqId =>
    unfold step at h
    cases htask : b.task t with
    | idle =>
      simp only [htask, Option.some.injEq] at h
      exact h ▸ .poll rfqId htask
    | _ => simp [htask] at h
  | eventsArrive t newEvents now =>
    unfold step at h
    cases htask : b.task t with
    | fetching rfqId =>
      simp only [htask] at h
      obtain ⟨s, hs, rfl⟩ := withSession_eq_some h
      exact .eventsArrive newEvents now htask hs
    | _ => simp [htask] at h
  | strategyAnswers t strategy counterId =>
    unfold step at h
    cases htask : b.task t with
    | deciding rfqId asked =>
      simp only [htask] at h
      obtain ⟨s, hs, rfl⟩ := withSession_eq_some h
      exact .strategyAnswers strategy counterId htask hs
    | _ => simp [htask] at h
  | proofReady t budgetProof =>
    unfold step at h
    cases htask : b.task t with
    | proving rfqId counter =>
      simp only [htask, Option.some.injEq] at h
      exact h ▸ .proofReady budgetProof htask
    | _ => simp [htask] at h
  | signed t signature =>
    unfold step at h
    cases htask : b.task t with
    | signingCounter rfqId counter =>
      simp only [htask, Option.some.injEq] at h
      exact h ▸ .counterSigned signature htask
    | signingAccept rfqId offer revision =>
      simp only [htask, Option.some.injEq] at h
      exact h ▸ .acceptSigned signature htask
    | _ => simp [htask] at h
  | posted t =>
    unfold step at h
    cases htask : b.task t with
    | postingCounter rfqId counter =>
      simp only [htask] at h
      obtain ⟨s, hs, rfl⟩ := withSession_eq_some h
      exact .counterPosted htask hs
    | sendingQuote rfqId offer buyerSigned =>
      simp only [htask] at h
      obtain ⟨s, hs, rfl⟩ := withSession_eq_some h
      exact .quotePosted htask hs
    | _ => simp [htask] at h
  | accepted t unsignedQuote now =>
    unfold step at h
    cases htask : b.task t with
    | accepting rfqId offer =>
      simp only [htask] at h
      obtain ⟨s, hs, rfl⟩ := withSession_eq_some h
      exact .accepted unsignedQuote now htask hs
    | _ => simp [htask] at h
  | quoteSigned t buyerSigned =>
    unfold step at h
    cases htask : b.task t with
    | signingQuote rfqId offer unsignedQuote =>
      simp only [htask, Option.some.injEq] at h
      exact h ▸ .quoteSigned buyerSigned htask
    | _ => simp [htask] at h
  | fails t =>
    unfold step at h
    cases htask : b.task t with
    | idle => simp [htask] at h
    | finished => simp [htask] at h
    | _ =>
      simp only [htask, Option.some.injEq] at h
      exact h ▸ .fails (by simp [htask]) (by simp [htask])

end BuyerAgent
end GhostBazaar.Agents
