import Mathlib.Tactic.Positivity
import Mathlib.Algebra.Order.Field.Rat
import GhostBazaar.Strategy.BuyerRanking
import GhostBazaar.Strategy.Interfaces

/-! The prices that the strategies which follow a rule concede, with exact decimals: where they
lie, and in which direction they move with the rounds. -/
namespace GhostBazaar.Strategy.Exact
open Js

/-! ### Numbers

The urgency of a buyer is computed with the numbers of the language, which round. -/

/-- Every operation rounds its result. `toDecimal` is `new Decimal` of a number, which reads the
text of the number. -/
structure Rounding where
  round : ℚ → ℚ
  toDecimal : ℚ → ℚ
  mono : Monotone round
  idem : ∀ x, round (round x) = round x
  zero : round 0 = 0
  one : round 1 = 1
  toDecimal_mono : Monotone toDecimal
  toDecimal_zero : toDecimal 0 = 0
  toDecimal_one : toDecimal 1 = 1

namespace Rounding

/-- A number is what rounding leaves as it is. -/
def Number (fl : Rounding) : Type := {x : ℚ // fl.round x = x}

variable (fl : Rounding)

def ofRat (x : ℚ) : fl.Number := ⟨fl.round x, fl.idem x⟩

def add (x y : fl.Number) : fl.Number := fl.ofRat (x.1 + y.1)

def sub (x y : fl.Number) : fl.Number := fl.ofRat (x.1 - y.1)

def mul (x y : fl.Number) : fl.Number := fl.ofRat (x.1 * y.1)

def div (x y : fl.Number) : fl.Number := fl.ofRat (x.1 / y.1)

/-- `Math.min` -/
def min (x y : fl.Number) : fl.Number := if x.1 ≤ y.1 then x else y

/-- `Math.max` -/
def max (x y : fl.Number) : fl.Number := if x.1 ≤ y.1 then y else x

variable {fl}

theorem ofRat_mono {x y : ℚ} (h : x ≤ y) : (fl.ofRat x).1 ≤ (fl.ofRat y).1 := fl.mono h

theorem ofRat_nonneg {x : ℚ} (h : 0 ≤ x) : 0 ≤ (fl.ofRat x).1 := by
  have hround := fl.mono h
  rwa [fl.zero] at hround

theorem ofRat_le_one {x : ℚ} (h : x ≤ 1) : (fl.ofRat x).1 ≤ 1 := by
  have hround := fl.mono h
  rwa [fl.one] at hround

theorem one_le_ofRat {x : ℚ} (h : 1 ≤ x) : 1 ≤ (fl.ofRat x).1 := by
  have hround := fl.mono h
  rwa [fl.one] at hround

/-- A sum is not below a summand when the other one is not negative. -/
theorem le_add {x y : fl.Number} (hy : 0 ≤ y.1) : x.1 ≤ (fl.add x y).1 := by
  have hround := fl.mono (le_add_of_nonneg_right hy : x.1 ≤ x.1 + y.1)
  rwa [x.2] at hround

theorem val_min (x y : fl.Number) : (fl.min x y).1 = Min.min x.1 y.1 := by
  unfold Rounding.min
  split_ifs with h
  · exact (min_eq_left h).symm
  · exact (min_eq_right (le_of_not_ge h)).symm

theorem val_max (x y : fl.Number) : (fl.max x y).1 = Max.max x.1 y.1 := by
  unfold Rounding.max
  split_ifs with h
  · exact (max_eq_right h).symm
  · exact (max_eq_left (le_of_not_ge h)).symm

end Rounding

/-! ### Buyers -/

structure BuyerPrivate where
  budgetSoft : ℚ
  budgetHard : ℚ

/-- `anchorPrice` is that of the request. -/
structure BuyerStrategyContext (fl : Rounding) where
  anchorPrice : ℚ
  priv : BuyerPrivate
  currentOffers : List SellerOffer
  sellerRegistry : SellerRegistry
  round : ℕ
  timeRemainingMs : fl.Number

inductive BuyerAction where
  | counter (seller : JsString) (price : ℚ)
  | accept (seller : JsString)
  | wait

variable {fl : Rounding}

/-- `onOffersReceived` of a strategy whose next price is `newPrice`. -/
def acceptOrCounter (newPrice : BuyerStrategyContext fl → ℚ) (ctx : BuyerStrategyContext fl) :
    BuyerAction :=
  match selectLowestPricedBuyerOffer ctx.currentOffers,
      selectBestBuyerOffer ctx.currentOffers ctx.sellerRegistry with
  | some cheapest, some best =>
    if cheapest.price ≤ ctx.priv.budgetSoft then .accept cheapest.seller
    else .counter best.seller (Min.min (newPrice ctx) ctx.priv.budgetHard)
  | _, _ => .wait

structure LinearConcessionConfig where
  maxRounds : ℚ := 5

def LinearConcessionBuyer.newPrice (config : LinearConcessionConfig)
    (ctx : BuyerStrategyContext fl) : ℚ :=
  let maxConcession := ctx.priv.budgetSoft - ctx.anchorPrice
  let step := maxConcession / config.maxRounds
  ctx.anchorPrice + step * ctx.round

def LinearConcessionBuyer.onOffersReceived (config : LinearConcessionConfig) :
    BuyerStrategyContext fl → BuyerAction :=
  acceptOrCounter (newPrice config)

structure CompetitiveBuyerConfig where
  maxRounds : ℚ := 5
  highCompThreshold : ℚ := 3
  medCompThreshold : ℚ := 2
  highCompFactor : ℚ := 1 / 2
  medCompFactor : ℚ := 3 / 4
  noCompFactor : ℚ := 1

/-- Every offer counts as a competitor. -/
def CompetitiveBuyer.competitionFactor (config : CompetitiveBuyerConfig) (offers : ℕ) : ℚ :=
  if (offers : ℚ) ≥ config.highCompThreshold then config.highCompFactor
  else if (offers : ℚ) ≥ config.medCompThreshold then config.medCompFactor
  else config.noCompFactor

def CompetitiveBuyer.newPrice (config : CompetitiveBuyerConfig) (ctx : BuyerStrategyContext fl) :
    ℚ :=
  let sorted := sortBy comparePrices ctx.currentOffers
  let baseStep := (ctx.priv.budgetSoft - ctx.anchorPrice) / config.maxRounds
  let step := baseStep * competitionFactor config sorted.length
  ctx.anchorPrice + step * ctx.round

def CompetitiveBuyer.onOffersReceived (config : CompetitiveBuyerConfig) :
    BuyerStrategyContext fl → BuyerAction :=
  acceptOrCounter (newPrice config)

structure TimeWeightedConfig where
  maxRounds : ℚ := 5
  assumedRoundDurationMs : ℚ := 1000

/-- How much of the range up to the hard budget is given by now. -/
def TimeWeightedBuyer.urgency (config : TimeWeightedConfig) (ctx : BuyerStrategyContext fl) :
    fl.Number :=
  let round := fl.ofRat ctx.round
  let one := fl.ofRat 1
  let time := ctx.timeRemainingMs
  let spent := fl.mul round (fl.ofRat config.assumedRoundDurationMs)
  fl.min one (fl.add (fl.div round (fl.ofRat config.maxRounds))
    (fl.sub one (fl.div time (fl.max (fl.add time spent) one))))

def TimeWeightedBuyer.newPrice (config : TimeWeightedConfig) (ctx : BuyerStrategyContext fl) : ℚ :=
  let range := ctx.priv.budgetHard - ctx.anchorPrice
  ctx.anchorPrice + range * fl.toDecimal (urgency config ctx).1

def TimeWeightedBuyer.onOffersReceived (config : TimeWeightedConfig) :
    BuyerStrategyContext fl → BuyerAction :=
  acceptOrCounter (newPrice config)

/-- The buyers that a rule describes, with their default configurations. -/
inductive RuleBasedBuyer where
  | linearConcession
  | competitive
  | timeWeighted

def RuleBasedBuyer.newPrice : RuleBasedBuyer → BuyerStrategyContext fl → ℚ
  | linearConcession => LinearConcessionBuyer.newPrice {}
  | competitive => CompetitiveBuyer.newPrice {}
  | timeWeighted => TimeWeightedBuyer.newPrice {}

def RuleBasedBuyer.onOffersReceived : RuleBasedBuyer → BuyerStrategyContext fl → BuyerAction
  | linearConcession => LinearConcessionBuyer.onOffersReceived {}
  | competitive => CompetitiveBuyer.onOffersReceived {}
  | timeWeighted => TimeWeightedBuyer.onOffersReceived {}

theorem RuleBasedBuyer.acceptOrCounter (buyer : RuleBasedBuyer) (ctx : BuyerStrategyContext fl) :
    buyer.onOffersReceived ctx = Exact.acceptOrCounter buyer.newPrice ctx := by
  cases buyer <;> rfl

/-- What a counter says, and when. -/
theorem RuleBasedBuyer.counters {buyer : RuleBasedBuyer} {ctx : BuyerStrategyContext fl}
    {seller : JsString} {price : ℚ} (h : buyer.onOffersReceived ctx = .counter seller price) :
    ∃ cheapest best, selectLowestPricedBuyerOffer ctx.currentOffers = some cheapest ∧
      selectBestBuyerOffer ctx.currentOffers ctx.sellerRegistry = some best ∧
      ctx.priv.budgetSoft < cheapest.price ∧ seller = best.seller ∧
      price = Min.min (buyer.newPrice ctx) ctx.priv.budgetHard := by
  rw [buyer.acceptOrCounter] at h
  unfold Exact.acceptOrCounter at h
  split at h
  · rename_i cheapest best hcheapest hbest
    split_ifs at h with hsoft
    rw [BuyerAction.counter.injEq] at h
    exact ⟨cheapest, best, hcheapest, hbest, not_le.mp hsoft, h.1.symm, h.2.symm⟩
  · cases h

/-! ### Sellers -/

structure SellerPrivate where
  floorPrice : ℚ
  targetPrice : ℚ

structure SellerStrategyContext where
  priv : SellerPrivate
  latestCounter : Option CounterOffer
  round : ℕ
  competingSellers : ℕ

inductive SellerAction where
  | counter (price : ℚ)
  | hold

/-- `onCounterReceived` of a strategy that concedes `step` every round. -/
def concede (step : SellerStrategyContext → ℚ) (ctx : SellerStrategyContext) : SellerAction :=
  match ctx.latestCounter with
  | none => .hold
  | some _ =>
    let newPrice := ctx.priv.targetPrice - step ctx * ctx.round
    if newPrice ≤ ctx.priv.floorPrice then .counter ctx.priv.floorPrice
    else .counter newPrice

structure FirmSellerConfig where
  concessionRate : ℚ := 1 / 20

def FirmSeller.step (config : FirmSellerConfig) (ctx : SellerStrategyContext) : ℚ :=
  let range := ctx.priv.targetPrice - ctx.priv.floorPrice
  range * config.concessionRate

def FirmSeller.onCounterReceived (config : FirmSellerConfig) :
    SellerStrategyContext → SellerAction :=
  concede (step config)

structure FlexibleSellerConfig where
  concessionRate : ℚ := 1 / 4

def FlexibleSeller.step (config : FlexibleSellerConfig) (ctx : SellerStrategyContext) : ℚ :=
  let range := ctx.priv.targetPrice - ctx.priv.floorPrice
  range * config.concessionRate

def FlexibleSeller.onCounterReceived (config : FlexibleSellerConfig) :
    SellerStrategyContext → SellerAction :=
  concede (step config)

structure CompetitiveSellerConfig where
  maxRounds : ℚ := 5
  competitionThreshold : ℚ := 2
  lowCompMultiplier : ℚ := 1 / 2
  highCompMultiplier : ℚ := 3 / 2

def CompetitiveSeller.step (config : CompetitiveSellerConfig) (ctx : SellerStrategyContext) : ℚ :=
  let maxConcession := ctx.priv.targetPrice - ctx.priv.floorPrice
  let baseStep := maxConcession / config.maxRounds
  let multiplier := if (ctx.competingSellers : ℚ) ≥ config.competitionThreshold then
    config.highCompMultiplier else config.lowCompMultiplier
  baseStep * multiplier

def CompetitiveSeller.onCounterReceived (config : CompetitiveSellerConfig) :
    SellerStrategyContext → SellerAction :=
  concede (step config)

/-- The sellers that a rule describes, with their default configurations. -/
inductive RuleBasedSeller where
  | firm
  | flexible
  | competitive

def RuleBasedSeller.step : RuleBasedSeller → SellerStrategyContext → ℚ
  | firm => FirmSeller.step {}
  | flexible => FlexibleSeller.step {}
  | competitive => CompetitiveSeller.step {}

def RuleBasedSeller.onCounterReceived : RuleBasedSeller → SellerStrategyContext → SellerAction
  | firm => FirmSeller.onCounterReceived {}
  | flexible => FlexibleSeller.onCounterReceived {}
  | competitive => CompetitiveSeller.onCounterReceived {}

theorem RuleBasedSeller.counters {seller : RuleBasedSeller} {ctx : SellerStrategyContext}
    {price : ℚ} (h : seller.onCounterReceived ctx = .counter price) :
    price = Max.max (ctx.priv.targetPrice - seller.step ctx * ctx.round) ctx.priv.floorPrice := by
  have hconcede : seller.onCounterReceived ctx = concede seller.step ctx := by
    cases seller <;> rfl
  rw [hconcede] at h
  unfold concede at h
  split at h
  · cases h
  · dsimp only at h
    split_ifs at h with hfloor
    · rw [SellerAction.counter.injEq] at h
      rw [← h, max_eq_right hfloor]
    · rw [SellerAction.counter.injEq] at h
      rw [← h, max_eq_left (le_of_not_ge hfloor)]

/-! ### Bounds and directions -/

theorem CompetitiveBuyer.competitionFactor_nonneg (offers : ℕ) :
    0 ≤ competitionFactor {} offers := by
  unfold competitionFactor
  split_ifs <;> norm_num

/-- The urgency in terms of the rounded quotients that it adds. -/
theorem TimeWeightedBuyer.urgency_val (config : TimeWeightedConfig)
    (ctx : BuyerStrategyContext fl) : (urgency config ctx).1 =
      Min.min (fl.ofRat 1).1 (fl.add (fl.div (fl.ofRat ctx.round) (fl.ofRat config.maxRounds))
        (fl.sub (fl.ofRat 1) (fl.div ctx.timeRemainingMs (fl.max (fl.add ctx.timeRemainingMs
          (fl.mul (fl.ofRat ctx.round) (fl.ofRat config.assumedRoundDurationMs)))
          (fl.ofRat 1))))).1 :=
  Rounding.val_min _ _

theorem roundNumber_nonneg (n : ℕ) : 0 ≤ (fl.ofRat n).1 :=
  Rounding.ofRat_nonneg n.cast_nonneg

/-- The time left is at most what it is divided by. -/
theorem TimeWeightedBuyer.elapsed_nonneg (ctx : BuyerStrategyContext fl)
    (htime : 0 ≤ ctx.timeRemainingMs.1) :
    0 ≤ (fl.sub (fl.ofRat 1) (fl.div ctx.timeRemainingMs (fl.max (fl.add ctx.timeRemainingMs
      (fl.mul (fl.ofRat ctx.round) (fl.ofRat 1000))) (fl.ofRat 1)))).1 := by
  have hspent : 0 ≤ (fl.mul (fl.ofRat ctx.round) (fl.ofRat 1000)).1 :=
    Rounding.ofRat_nonneg (mul_nonneg (roundNumber_nonneg _) (Rounding.ofRat_nonneg (by norm_num)))
  have hdivisor := (Rounding.le_add hspent).trans (le_max_left
    (fl.add ctx.timeRemainingMs (fl.mul (fl.ofRat ctx.round) (fl.ofRat 1000))).1 (fl.ofRat 1).1)
  rw [← Rounding.val_max] at hdivisor
  have hquotient : (fl.div ctx.timeRemainingMs (fl.max (fl.add ctx.timeRemainingMs
      (fl.mul (fl.ofRat ctx.round) (fl.ofRat 1000))) (fl.ofRat 1))).1 ≤ 1 :=
    Rounding.ofRat_le_one (div_le_one_of_le₀ hdivisor (htime.trans hdivisor))
  apply Rounding.ofRat_nonneg
  rw [show (fl.ofRat 1).1 = 1 from fl.one]
  exact sub_nonneg.mpr hquotient

theorem TimeWeightedBuyer.urgency_mem (ctx : BuyerStrategyContext fl)
    (htime : 0 ≤ ctx.timeRemainingMs.1) :
    0 ≤ (urgency {} ctx).1 ∧ (urgency {} ctx).1 ≤ 1 := by
  rw [urgency_val, show (fl.ofRat 1).1 = 1 from fl.one]
  refine ⟨le_min zero_le_one ?_, min_le_left _ _⟩
  apply Rounding.ofRat_nonneg
  have hrounds : 0 ≤ (fl.div (fl.ofRat ctx.round) (fl.ofRat 5)).1 :=
    Rounding.ofRat_nonneg (div_nonneg (roundNumber_nonneg _) (Rounding.ofRat_nonneg (by norm_num)))
  exact add_nonneg hrounds (elapsed_nonneg ctx htime)

/-- The last of the assumed rounds makes a buyer as urgent as it gets. -/
theorem TimeWeightedBuyer.urgency_eq_one (ctx : BuyerStrategyContext fl)
    (htime : 0 ≤ ctx.timeRemainingMs.1) (hround : 5 ≤ ctx.round) : (urgency {} ctx).1 = 1 := by
  apply le_antisymm (urgency_mem ctx htime).2
  rw [urgency_val]
  apply le_min (Rounding.one_le_ofRat le_rfl)
  have hfive : (0 : ℚ) < (fl.ofRat 5).1 :=
    zero_lt_one.trans_le (Rounding.one_le_ofRat (by norm_num))
  have hrounds : 1 ≤ (fl.div (fl.ofRat ctx.round) (fl.ofRat 5)).1 := by
    apply Rounding.one_le_ofRat
    rw [one_le_div hfive]
    apply Rounding.ofRat_mono
    exact_mod_cast hround
  exact hrounds.trans (Rounding.le_add (elapsed_nonneg ctx htime))

/-- Every operation of the urgency is monotone in the round. -/
theorem TimeWeightedBuyer.urgency_mono (ctx : BuyerStrategyContext fl)
    (htime : 0 ≤ ctx.timeRemainingMs.1) {round later : ℕ} (h : round ≤ later) :
    (urgency {} { ctx with round := round }).1 ≤ (urgency {} { ctx with round := later }).1 := by
  rw [urgency_val, urgency_val]
  apply min_le_min_left
  have hround : (fl.ofRat round).1 ≤ (fl.ofRat later).1 :=
    Rounding.ofRat_mono (Nat.cast_le.mpr h)
  apply Rounding.ofRat_mono
  apply add_le_add
  · apply Rounding.ofRat_mono
    exact div_le_div_of_nonneg_right hround (Rounding.ofRat_nonneg (by norm_num))
  · apply Rounding.ofRat_mono
    apply sub_le_sub_left
    apply Rounding.ofRat_mono
    rw [Rounding.val_max, Rounding.val_max, show (fl.ofRat 1).1 = 1 from fl.one]
    apply div_le_div_of_nonneg_left htime (lt_max_of_lt_right one_pos)
    apply max_le_max_right
    apply Rounding.ofRat_mono
    apply add_le_add_right
    apply Rounding.ofRat_mono
    exact mul_le_mul_of_nonneg_right hround (Rounding.ofRat_nonneg (by norm_num))

/-- The budgets of a context stand above its anchor, and its deadline has not passed. -/
structure BuyerStrategyContext.Ordered (ctx : BuyerStrategyContext fl) : Prop where
  anchor : ctx.anchorPrice ≤ ctx.priv.budgetSoft
  soft : ctx.priv.budgetSoft ≤ ctx.priv.budgetHard
  time : 0 ≤ ctx.timeRemainingMs.1

theorem RuleBasedBuyer.anchor_le_newPrice (buyer : RuleBasedBuyer) {ctx : BuyerStrategyContext fl}
    (h : ctx.Ordered) : ctx.anchorPrice ≤ buyer.newPrice ctx := by
  have hsoft : 0 ≤ ctx.priv.budgetSoft - ctx.anchorPrice := sub_nonneg.mpr h.anchor
  cases buyer with
  | linearConcession =>
    change _ ≤ ctx.anchorPrice + (ctx.priv.budgetSoft - ctx.anchorPrice) / 5 * ctx.round
    apply le_add_of_nonneg_right
    positivity
  | competitive =>
    apply le_add_of_nonneg_right
    have hfactor := CompetitiveBuyer.competitionFactor_nonneg
      (sortBy comparePrices ctx.currentOffers).length
    exact mul_nonneg (mul_nonneg (div_nonneg hsoft (by norm_num)) hfactor) ctx.round.cast_nonneg
  | timeWeighted =>
    have hdecimal := fl.toDecimal_mono (TimeWeightedBuyer.urgency_mem ctx h.time).1
    rw [fl.toDecimal_zero] at hdecimal
    exact le_add_of_nonneg_right
      (mul_nonneg (sub_nonneg.mpr (h.anchor.trans h.soft)) hdecimal)

theorem RuleBasedBuyer.newPrice_mono (buyer : RuleBasedBuyer) {ctx : BuyerStrategyContext fl}
    (h : ctx.Ordered) {round later : ℕ} (hround : round ≤ later) :
    buyer.newPrice { ctx with round := round } ≤ buyer.newPrice { ctx with round := later } := by
  have hsoft : 0 ≤ ctx.priv.budgetSoft - ctx.anchorPrice := sub_nonneg.mpr h.anchor
  have hcast : (round : ℚ) ≤ later := Nat.cast_le.mpr hround
  cases buyer with
  | linearConcession =>
    apply add_le_add_right
    exact mul_le_mul_of_nonneg_left hcast (div_nonneg hsoft (by norm_num))
  | competitive =>
    apply add_le_add_right
    have hfactor := CompetitiveBuyer.competitionFactor_nonneg
      (sortBy comparePrices ctx.currentOffers).length
    exact mul_le_mul_of_nonneg_left hcast
      (mul_nonneg (div_nonneg hsoft (by norm_num)) hfactor)
  | timeWeighted =>
    apply add_le_add_right
    have hurgency := fl.toDecimal_mono (TimeWeightedBuyer.urgency_mono ctx h.time hround)
    exact mul_le_mul_of_nonneg_left hurgency (sub_nonneg.mpr (h.anchor.trans h.soft))

theorem RuleBasedSeller.step_nonneg (seller : RuleBasedSeller) {ctx : SellerStrategyContext}
    (h : ctx.priv.floorPrice ≤ ctx.priv.targetPrice) : 0 ≤ seller.step ctx := by
  have hrange : 0 ≤ ctx.priv.targetPrice - ctx.priv.floorPrice := sub_nonneg.mpr h
  cases seller with
  | firm => exact mul_nonneg hrange (by norm_num)
  | flexible => exact mul_nonneg hrange (by norm_num)
  | competitive =>
    apply mul_nonneg (div_nonneg hrange (by norm_num))
    dsimp only
    split_ifs <;> norm_num

/-- A step does not depend on the round. -/
theorem RuleBasedSeller.step_round (seller : RuleBasedSeller) (ctx : SellerStrategyContext)
    (round : ℕ) : seller.step { ctx with round := round } = seller.step ctx := by
  cases seller <;> rfl

/-- A seller counters between its floor and its target, and goes down with the rounds. A buyer
counters between its anchor and its hard budget, and goes up with the rounds. -/
theorem concessions_bounded :
    (∀ (seller : RuleBasedSeller) (ctx : SellerStrategyContext),
      ctx.priv.floorPrice ≤ ctx.priv.targetPrice →
        (∀ price, seller.onCounterReceived ctx = .counter price →
          ctx.priv.floorPrice ≤ price ∧ price ≤ ctx.priv.targetPrice) ∧
        ∀ round later price price', round ≤ later →
          seller.onCounterReceived { ctx with round := round } = .counter price →
          seller.onCounterReceived { ctx with round := later } = .counter price' →
            price' ≤ price) ∧
    ∀ (fl : Rounding) (buyer : RuleBasedBuyer) (ctx : BuyerStrategyContext fl),
      ctx.Ordered →
        (∀ seller price, buyer.onOffersReceived ctx = .counter seller price →
          ctx.anchorPrice ≤ price ∧ price ≤ ctx.priv.budgetHard) ∧
        ∀ round later seller price seller' price', round ≤ later →
          buyer.onOffersReceived { ctx with round := round } = .counter seller price →
          buyer.onOffersReceived { ctx with round := later } = .counter seller' price' →
            price ≤ price' := by
  constructor
  · intro seller ctx h
    have hstep := seller.step_nonneg h
    constructor
    · intro price hprice
      rw [seller.counters hprice]
      exact ⟨le_max_right _ _, max_le (sub_le_self _ (mul_nonneg hstep ctx.round.cast_nonneg)) h⟩
    · intro round later price price' hround hprice hprice'
      rw [seller.counters hprice, seller.counters hprice', seller.step_round ctx later,
        seller.step_round ctx round]
      apply max_le_max_right
      apply sub_le_sub_left
      exact mul_le_mul_of_nonneg_left (Nat.cast_le.mpr hround) hstep
  · intro fl buyer ctx h
    constructor
    · intro seller price hprice
      obtain ⟨-, -, -, -, -, -, rfl⟩ := buyer.counters hprice
      exact ⟨le_min (buyer.anchor_le_newPrice h) (h.anchor.trans h.soft), min_le_right _ _⟩
    · intro round later seller price seller' price' hround hprice hprice'
      obtain ⟨-, -, -, -, -, -, rfl⟩ := buyer.counters hprice
      obtain ⟨-, -, -, -, -, -, rfl⟩ := buyer.counters hprice'
      exact min_le_min_right _ (buyer.newPrice_mono h hround)

section Sample

/-- Numbers that need no rounding. -/
def noRounding : Rounding :=
  ⟨id, id, monotone_id, fun _ => rfl, rfl, rfl, monotone_id, rfl, rfl⟩

def sampleCounter : CounterOffer :=
  ⟨js "c1", js "r", 3, js "buyer", some (.str (js "seller")), js "12", js "USDC",
    js "2026-03-01T12:05:00.000Z", js "ed25519:", none⟩

def sampleSellerContext : SellerStrategyContext := ⟨⟨10, 20⟩, some sampleCounter, 3, 2⟩

/-- A seller asks 15, above the soft budget; half a minute of a minute is left. -/
def sampleBuyerContext : BuyerStrategyContext noRounding :=
  ⟨5, ⟨10, 20⟩, [⟨js "o1", js "seller", 15⟩], fun _ => none, 2, noRounding.ofRat 30000⟩

theorem sampleBuyerContext_counters (buyer : RuleBasedBuyer) (round : ℕ) :
    let ctx := { sampleBuyerContext with round := round }
    buyer.onOffersReceived ctx = .counter (js "seller") (Min.min (buyer.newPrice ctx) 20) := by
  intro ctx
  rw [buyer.acceptOrCounter]
  unfold acceptOrCounter
  norm_num [ctx, sampleBuyerContext, selectLowestPricedBuyerOffer, selectBestBuyerOffer, sortBy,
    NEAR_TIE_THRESHOLD]

theorem concessions_bounded_sample :
    (∃ price, RuleBasedSeller.competitive.onCounterReceived sampleSellerContext = .counter price ∧
      10 ≤ price ∧ price ≤ 20) ∧
    ∃ seller price, RuleBasedBuyer.timeWeighted.onOffersReceived sampleBuyerContext =
      .counter seller price ∧ 5 ≤ price ∧ price ≤ 20 := by
  have hseller := (concessions_bounded.1 .competitive sampleSellerContext
    (by norm_num [sampleSellerContext])).1
  have hordered : sampleBuyerContext.Ordered := by
    constructor <;> norm_num [sampleBuyerContext, noRounding, Rounding.ofRat]
  have hbuyer := (concessions_bounded.2 noRounding .timeWeighted sampleBuyerContext hordered).1
  constructor
  · refine ⟨11, ?_, hseller 11 ?_⟩ <;>
      norm_num [RuleBasedSeller.onCounterReceived, CompetitiveSeller.onCounterReceived, concede,
        CompetitiveSeller.step, sampleSellerContext]
  · have hcounter := sampleBuyerContext_counters .timeWeighted 2
    exact ⟨_, _, hcounter, hbuyer _ _ hcounter⟩

end Sample

end GhostBazaar.Strategy.Exact
