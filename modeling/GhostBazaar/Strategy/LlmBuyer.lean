import GhostBazaar.Js.Parse
import GhostBazaar.Strategy.Interfaces

/-! The strategy that asks a language model. What the model replies is arbitrary text, and
what the strategy makes of it is read here. -/
namespace GhostBazaar.Strategy
open Js GhostBazaar.Core

variable {lib : DecimalLib}

def MAX_SANITIZED_INPUT_LENGTH : ℕ := 200

/-- Line breaks become blanks, and the text is cut. -/
def sanitizeInput (s : JsString) : JsString :=
  (s.map fun u => if u = 10 ∨ u = 13 then 32 else u).take MAX_SANITIZED_INPUT_LENGTH

/-- The lines of the prompt about the offers; a seller or a price that is no text throws. -/
def offersDesc (ctx : BuyerStrategyContext lib) : Except JsError (List JsString) :=
  ctx.currentOffers.mapM fun o => do
    let seller ← asString o.seller
    let price ← asString o.price
    return js "- Seller " ++ sanitizeInput seller ++ js ": " ++ sanitizeInput price ++ js " " ++
      sanitizeInput ctx.rfq.currency

namespace LLMBuyerStrategy

/-- The first match of `/\{[^}]+\}/`. -/
def jsonMatch : JsString → Option JsString
  | [] => none
  | u :: s =>
    let body := s.takeWhile (· ≠ 125)
    if u = 123 ∧ body ≠ [] ∧ body.length < s.length then some (u :: (body ++ [125]))
    else jsonMatch s

/-- `JSON.parse` of the text, or of its first part in braces. -/
def readReply (text : JsString) : Option Json :=
  match parse text with
  | some parsed => some parsed
  | none => (jsonMatch text).bind parse

def hasSeller (ctx : BuyerStrategyContext lib) (seller : JsValue) : Bool :=
  ctx.currentOffers.any fun o => o.seller.strictEq seller

/-- Whatever throws here is answered with `wait`. -/
def parseResponse (text : JsString) (ctx : BuyerStrategyContext lib) : BuyerAction lib :=
  match readReply text with
  | none => .wait
  | some parsed =>
    let action := parsed.get? (js "action")
    let seller := parsed.get? (js "seller")
    let price := parsed.get? (js "price")
    if action = some (.str (js "accept")) then
      if JsValue.isTruthy seller && hasSeller ctx seller then .accept seller else .wait
    else if action = some (.str (js "counter")) then
      if JsValue.isTruthy seller && hasSeller ctx seller && JsValue.isTruthy price then
        match h : lib.newDecimal price with
        | some d => .counter seller ⟨d, price, h⟩
        | none => .wait
      else .wait
    else if action = some (.str (js "cancel")) then .cancel
    else .wait

/-- A round of the loop that looks for the cheapest offer. -/
def cheaper (lib : DecimalLib) (a b : SellerOffer) : Except JsError SellerOffer := do
  let p ← orThrow (lib.newDecimal a.price) .typeError
  let q ← orThrow (lib.newDecimal b.price) .typeError
  return if p.lt q then a else b

/-- The answer when the model cannot be reached. -/
def fallback (ctx : BuyerStrategyContext lib) : Except JsError (BuyerAction lib) :=
  match ctx.currentOffers with
  | [] => throw .typeError
  | first :: rest => do
    let best ← rest.foldlM (cheaper lib) first
    let price ← orThrow (lib.newDecimal best.price) .typeError
    return if price.lte ctx.priv.budgetSoft.decimal then .accept best.seller else .wait

/-- `reply` is what the model answered, `none` when the call failed. -/
def onOffersReceived (reply : Option JsString) : BuyerStrategy lib := fun asked ctx => do
  if asked.currentOffers = [] then return .wait
  let _ ← offersDesc asked
  match reply with
  | some text => return parseResponse text ctx
  | none => fallback ctx

end LLMBuyerStrategy
end GhostBazaar.Strategy
