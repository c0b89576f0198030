import GhostBazaar.Strategy.RuleBased

/-! The seller strategies that follow a rule. They open with the target price, and concede from
it towards the floor with every round. -/
namespace GhostBazaar.Strategy
open Js GhostBazaar.Core

variable {lib : DecimalLib} (arith : DecimalArithmetic lib)

/-- `onRfqReceived` of every rule. -/
def openWithTarget (ctx : SellerStrategyContext lib) : SellerAction lib :=
  .respond ctx.priv.targetPrice

/-- `onCounterReceived` of a rule that concedes to `newPrice`. -/
def concede (newPrice : SellerStrategyContext lib → lib.Value)
    (ctx : SellerStrategyContext lib) : SellerAction lib :=
  if ctx.latestCounter.isTruthy then
    if (newPrice ctx).decimal.lte ctx.priv.floorPrice.decimal then .counter ctx.priv.floorPrice
    else .counter (newPrice ctx)
  else .hold

/-- The target price less `step` for every round. -/
def concession (step : lib.Value) (ctx : SellerStrategyContext lib) : lib.Value :=
  arith.minus ctx.priv.targetPrice (arith.mul step (arith.ofNumber (Float.ofNat ctx.round)))

def range (ctx : SellerStrategyContext lib) : lib.Value :=
  arith.minus ctx.priv.targetPrice ctx.priv.floorPrice

def FirmSeller.concessionRate : Float := 0.05

def FirmSeller.onCounterReceived : SellerStrategyContext lib → SellerAction lib :=
  concede fun ctx =>
    concession arith (arith.mul (range arith ctx) (arith.ofNumber FirmSeller.concessionRate)) ctx

def FlexibleSeller.concessionRate : Float := 0.25

def FlexibleSeller.onCounterReceived : SellerStrategyContext lib → SellerAction lib :=
  concede fun ctx =>
    concession arith (arith.mul (range arith ctx) (arith.ofNumber FlexibleSeller.concessionRate))
      ctx

def CompetitiveSeller.maxRounds : Float := 5

def CompetitiveSeller.competitionThreshold : ℕ := 2

/-- The multiplier grows with the competition. -/
def CompetitiveSeller.multiplier (competingSellers : ℕ) : Float :=
  if competingSellers ≥ competitionThreshold then 1.5 else 0.5

def CompetitiveSeller.onCounterReceived : SellerStrategyContext lib → SellerAction lib :=
  concede fun ctx =>
    let baseStep := arith.div (range arith ctx) (arith.ofNumber CompetitiveSeller.maxRounds)
    concession arith (arith.mul baseStep
      (arith.ofNumber (CompetitiveSeller.multiplier ctx.competingSellers))) ctx

/-- `buildStrategy(style).onCounterReceived` -/
def NegotiationStyle.onCounterReceived :
    NegotiationStyle → SellerStrategyContext lib → SellerAction lib
  | firm => FirmSeller.onCounterReceived arith
  | competitive => CompetitiveSeller.onCounterReceived arith
  | flexible | deadlineSensitive => FlexibleSeller.onCounterReceived arith

end GhostBazaar.Strategy
