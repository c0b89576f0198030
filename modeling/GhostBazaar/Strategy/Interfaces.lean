import GhostBazaar.Core.DecimalOrder
import GhostBazaar.Js.Throw

/-! What a buyer strategy is asked and what it may answer. -/
namespace GhostBazaar.Strategy
open Js GhostBazaar.Core

/-- `event_id: string | number` -/
inductive EventId where
  | text (s : JsString)
  | number (x : JsNumber)
  deriving DecidableEq

/-- `String(event_id)` -/
def EventId.toJsString : EventId → JsString
  | text s => s
  | number x => x.toText.flatMap utf16Units

structure NegotiationEvent where
  eventId : EventId
  rfqId : JsString
  eventType : JsString
  actor : JsString
  payload : JsValue
  timestamp : JsString

structure RFQ where
  rfqId : JsString
  protocol : JsString
  buyer : JsString
  serviceType : JsString
  spec : Members
  anchorPrice : JsString
  currency : JsString
  deadline : JsString
  signature : JsString
  budgetCommitment : Option JsString

/-- The payload of an offer event, which nothing checks: `event.payload as SellerOffer`. -/
abbrev SellerOffer := Json

def SellerOffer.offerId (o : SellerOffer) : JsValue := o.get? (js "offer_id")

def SellerOffer.seller (o : SellerOffer) : JsValue := o.get? (js "seller")

def SellerOffer.price (o : SellerOffer) : JsValue := o.get? (js "price")

structure CounterOffer where
  counterId : JsString
  rfqId : JsString
  round : ℕ
  «from» : JsString
  «to» : JsValue
  price : JsString
  currency : JsString
  validUntil : JsString
  signature : JsString
  budgetProof : Option Json

structure BuyerPrivate (lib : DecimalLib) where
  budgetSoft : lib.Value
  budgetHard : lib.Value

structure BuyerStrategyContext (lib : DecimalLib) where
  rfq : RFQ
  priv : BuyerPrivate lib
  currentOffers : List SellerOffer
  countersSent : List CounterOffer
  round : ℕ
  /-- `none` when the deadline is no date. -/
  timeRemainingMs : Option ℤ
  history : List NegotiationEvent

inductive BuyerAction (lib : DecimalLib) where
  | counter (seller : JsValue) (price : lib.Value)
  | accept (seller : JsValue)
  | wait
  | cancel

/-- `onOffersReceived`. The context shares its lists with the agent, which may have grown by
the time of the answer: the strategy sees the context as it was when it was asked, and as it
is when it answers. -/
abbrev BuyerStrategy (lib : DecimalLib) :=
  BuyerStrategyContext lib → BuyerStrategyContext lib → Except JsError (BuyerAction lib)

/-! ### Sellers -/

structure SellerPrivate (lib : DecimalLib) where
  floorPrice : lib.Value
  targetPrice : lib.Value

inductive NegotiationStyle where
  | firm
  | flexible
  | competitive
  | deadlineSensitive
  deriving DecidableEq

structure NegotiationProfile where
  style : NegotiationStyle
  maxRounds : Option JsNumber
  acceptsCounter : Option Bool

structure SellerStrategyContext (lib : DecimalLib) where
  /-- `none` for the empty object of the tools. -/
  rfq : Option RFQ
  priv : SellerPrivate lib
  /-- The payload of the event, which nothing checks. -/
  latestCounter : JsValue
  ownOffers : List SellerOffer
  round : ℕ
  timeRemainingMs : Option ℤ
  competingSellers : ℕ
  sellerListingProfile : Option NegotiationProfile

inductive SellerAction (lib : DecimalLib) where
  | respond (price : lib.Value)
  | counter (price : lib.Value)
  | hold
  | decline

/-! ### The sanitizer -/

variable {lib : DecimalLib}

def MIN_PRICE : lib.Value := ⟨.finite (1 / 1000000), _, lib.new_minPrice⟩

def sanitizeBuyerAction (action : BuyerAction lib) (priv : BuyerPrivate lib) : BuyerAction lib :=
  match action with
  | .counter seller price =>
    let clamped := price.maxOrMin .gt priv.budgetHard
    .counter seller (clamped.maxOrMin .lt MIN_PRICE)
  | action => action

def sanitizeSellerAction (action : SellerAction lib) (priv : SellerPrivate lib) :
    SellerAction lib :=
  match action with
  | .respond price => .respond (price.maxOrMin .lt priv.floorPrice)
  | .counter price => .counter (price.maxOrMin .lt priv.floorPrice)
  | action => action

/-- A sanitized price keeps the budget exactly when the price was a number and the budget is
not below the smallest price. -/
theorem sanitized_atMost_iff (seller : JsValue) {price price' : lib.Value} {priv : BuyerPrivate lib}
    (h : sanitizeBuyerAction (.counter seller price) priv = .counter seller price') :
    lib.AtMost (some (.str price'.text)) priv.budgetHard.decimal ↔
      price.decimal ≠ .nan ∧ (MIN_PRICE : lib.Value).decimal.lte priv.budgetHard.decimal = true := by
  simp only [sanitizeBuyerAction, BuyerAction.counter.injEq, true_and] at h
  rw [DecimalLib.Value.text_atMost_iff, ← h]
  exact Decimal.clamp_lte_iff

end GhostBazaar.Strategy
