import GhostBazaar.Core.Rounding
import GhostBazaar.Js.Map
import GhostBazaar.Strategy.Sellers

/-! The seller tools, and the price in the offers that they post. A call is what the agent
passes in, with what the engine answers. -/
namespace GhostBazaar.Mcp
open Js GhostBazaar.Core Strategy

/-- The decimal library as the tools use it. -/
structure ToolLib (lib : DecimalLib) where
  arith : DecimalArithmetic lib
  toFixed : lib.Value → ℕ → JsString
  /-- The text denotes the value rounded half up. -/
  new_toFixed : ∀ x decimals, lib.newDecimal (some (.str (toFixed x decimals))) =
    some (x.decimal.toFixed decimals)

structure SellerSessionState where
  rfqId : JsString
  floorPrice : JsString
  targetPrice : JsString
  round : ℕ
  strategyStyle : NegotiationStyle

structure SellerTools where
  sessions : JsMap JsString SellerSessionState
  sellerListingId : Option JsString
  sellerNegotiationProfile : Option NegotiationProfile
  /-- The `floor_price` of every listing that was registered, which the tools do not keep. -/
  listingFloors : JsMap JsString JsString

inductive ToolCall where
  /-- `listingId` is the id of the new listing, `none` when the engine refuses it. -/
  | registerListing (floorPrice targetPrice : JsString) (profile : Option NegotiationProfile)
    (listingId : Option JsString)
  | respondOffer (rfqId : JsString) (price floorPrice targetPrice listingId : Option JsString)
  /-- `events` is the log of the session, `none` when it cannot be fetched. -/
  | respondCounter (rfqId counterId : JsString) (price : Option JsString)
    (events : Option (List NegotiationEvent))

namespace SellerTools

def empty : SellerTools := ⟨.empty, none, none, .empty⟩

variable {lib : DecimalLib} (tools : ToolLib lib)

/-- A text that is given and not empty. -/
def givenText (text : Option JsString) : Option JsString := text.filter fun s => !s.isEmpty

/-- `price.includes(".") ? price.split(".")[1].length : 0` -/
def decimalsOf (price : JsString) : ℕ :=
  ((price.dropWhile (· ≠ 46)).drop 1).takeWhile (· ≠ 46) |>.length

/-! ### ghost_bazaar_register_listing -/

def registerListing (s : SellerTools) (floorPrice : JsString)
    (profile : Option NegotiationProfile) (listingId : Option JsString) : SellerTools :=
  let s := { s with
    sellerNegotiationProfile := some (profile.getD ⟨.flexible, none, none⟩) }
  match listingId with
  | some id =>
    { s with sellerListingId := some id, listingFloors := s.listingFloors.set id floorPrice }
  | none => s

/-! ### ghost_bazaar_respond_offer -/

/-- `floor_price ?? session?.floorPrice ?? price`, and the same of the target price. -/
def resolve (given stored price : Option JsString) : Option JsString := (given.or stored).or price

def offerContext (priv : SellerPrivate lib) (profile : Option NegotiationProfile) :
    SellerStrategyContext lib :=
  ⟨none, priv, some .null, [], 0, some 300000, 0, profile⟩

/-- The price of the offer, with the state that is stored for the RFQ. -/
def respondOffer (s : SellerTools) (rfqId : JsString)
    (price floorPrice targetPrice listingId : Option JsString) :
    Except JsError (JsString × SellerSessionState) := do
  let _ ← orThrow (givenText (listingId.or s.sellerListingId))
    (.error (js "No listing_id — register a listing first with ghost_bazaar_register_listing"))
  let session := s.sessions.get? rfqId
  let floorText ← orThrow (givenText (resolve floorPrice (session.map (·.floorPrice)) price))
    (.error (js ("floor_price and target_price are required — provide them here or in " ++
      "ghost_bazaar_register_listing")))
  let targetText ← orThrow (givenText (resolve targetPrice (session.map (·.targetPrice)) price))
    (.error (js ("floor_price and target_price are required — provide them here or in " ++
      "ghost_bazaar_register_listing")))
  let floor ← newValue lib (some (.str floorText))
  let target ← newValue lib (some (.str targetText))
  let priv : SellerPrivate lib := ⟨floor, target⟩
  let style := ((session.map (·.strategyStyle)).or
    (s.sellerNegotiationProfile.map (·.style))).getD .flexible
  let stored : SellerSessionState := ⟨rfqId, floorText, targetText, 0, style⟩
  match givenText price with
  | some text =>
    let raw ← newValue lib (some (.str text))
    match sanitizeSellerAction (.respond raw) priv with
    | .respond safe => return (tools.toFixed safe (decimalsOf text), stored)
    | _ => return (text, stored)
  | none =>
    match sanitizeSellerAction (openWithTarget (offerContext priv s.sellerNegotiationProfile))
        priv with
    | .respond safe | .counter safe => return (safe.text, stored)
    | _ => return (priv.targetPrice.text, stored)

/-! ### ghost_bazaar_respond_counter -/

/-- The price of the buyer's counter. -/
def counterPrice (counterId : JsString) (events : List NegotiationEvent) : JsValue :=
  match events.find? fun e => e.eventType = js "counter" ∧
      (JsValue.get? e.payload (js "counter_id")).strictEq (some (.str counterId)) with
  | some e => JsValue.get? e.payload (js "price")
  | none => none

/-- The size of the `Set` of the sellers that made offers; two objects are never one element. -/
def competingSellers (events : List NegotiationEvent) : ℕ :=
  let sellers := (events.filter fun e => e.eventType = js "offer").filterMap fun e =>
    (JsValue.get? e.payload (js "seller")).filter Json.isTruthy
  (sellers.filter fun v => !v.isObject).dedup.length + (sellers.filter Json.isObject).length

def counterContext (priv : SellerPrivate lib) (profile : Option NegotiationProfile) (round : ℕ)
    (counterId : JsString) (events : Option (List NegotiationEvent)) :
    SellerStrategyContext lib :=
  let price := events.bind (counterPrice counterId)
  { rfq := none
    priv := priv
    latestCounter := match price.filter Json.isTruthy with
      | some price => some (.obj [(js "price", price), (js "counter_id", .str counterId)])
      | none => some .null
    ownOffers := []
    round := round
    timeRemainingMs := some 300000
    competingSellers := (events.map competingSellers).getD 0
    sellerListingProfile := profile }

def sellerPriv (lib : DecimalLib) (session : SellerSessionState) :
    Except JsError (SellerPrivate lib) := do
  let floor ← newValue lib (some (.str session.floorPrice))
  let target ← newValue lib (some (.str session.targetPrice))
  return ⟨floor, target⟩

/-- The price of the offer, `none` when the strategy declines or holds. The round of the session
is the new one. -/
def counterOffer (s : SellerTools) (session : SellerSessionState) (priv : SellerPrivate lib)
    (counterId : JsString) (price : Option JsString) (events : Option (List NegotiationEvent)) :
    Except JsError (Option JsString) :=
  match givenText price with
  | some text => do
    let raw ← newValue lib (some (.str text))
    match sanitizeSellerAction (.counter raw) priv with
    | .counter safe | .respond safe => return some safe.text
    | _ => return some text
  | none =>
    let ctx := counterContext priv s.sellerNegotiationProfile session.round counterId events
    match sanitizeSellerAction (session.strategyStyle.onCounterReceived tools.arith ctx) priv with
    | .counter safe | .respond safe => .ok (some safe.text)
    | .decline | .hold => .ok none

def respondCounter (s : SellerTools) (rfqId counterId : JsString) (price : Option JsString)
    (events : Option (List NegotiationEvent)) (session : SellerSessionState) :
    SellerTools × Option JsString :=
  match sellerPriv lib session with
  | .error _ => (s, none)
  | .ok priv =>
    -- the round counts although the call may still fail
    let session := { session with round := session.round + 1 }
    ({ s with sessions := s.sessions.set rfqId session },
      (s.counterOffer tools session priv counterId price events).toOption.join)

/-! ### Calls -/

/-- A call, with the price of the offer that it posts. -/
def answer (s : SellerTools) : ToolCall → SellerTools × Option JsString
  | .registerListing floorPrice _ profile listingId =>
    (s.registerListing floorPrice profile listingId, none)
  | .respondOffer rfqId price floorPrice targetPrice listingId =>
    match s.respondOffer tools rfqId price floorPrice targetPrice listingId with
    | .ok (offerPrice, session) =>
      ({ s with sessions := s.sessions.set rfqId session }, some offerPrice)
    | .error _ => (s, none)
  | .respondCounter rfqId counterId price events =>
    match givenText s.sellerListingId, s.sessions.get? rfqId with
    | some _, some session => s.respondCounter tools rfqId counterId price events session
    | _, _ => (s, none)

def run (s : SellerTools) (calls : List ToolCall) : SellerTools :=
  calls.foldl (fun s call => (s.answer tools call).1) s

end SellerTools
end GhostBazaar.Mcp
