import Mathlib.Data.List.Sort
import Mathlib.Tactic.Linarith
import GhostBazaar.Strategy.Interfaces

/-! The buyer strategies that follow a rule. They accept the cheapest offer once it is within
the soft budget, and differ in the price they counter with. -/
namespace GhostBazaar.Strategy
open Js GhostBazaar.Core

/-- The smallest positive number, `Number.MIN_VALUE`. -/
def minNumber : ℚ := 1 / 2 ^ 1074

/-- The arithmetic of the decimal library, with what the order of two prices depends on:
`a.minus(b).toNumber()` has the sign of the difference unless it rounds to zero. -/
structure DecimalArithmetic (lib : DecimalLib) where
  minus : lib.Value → lib.Value → lib.Value
  plus : lib.Value → lib.Value → lib.Value
  mul : lib.Value → lib.Value → lib.Value
  div : lib.Value → lib.Value → lib.Value
  ofNumber : Float → lib.Value
  /-- `a.minus(b).toNumber() > 0` -/
  dearer : lib.Value → lib.Value → Bool
  lt_of_dearer : ∀ a b, dearer a b = true → b.decimal.lt a.decimal = true
  dearer_of_gap : ∀ a b p q, a.decimal = .finite p → b.decimal = .finite q → q + minNumber ≤ p →
    dearer a b = true

namespace DecimalArithmetic

/-- A decimal that the library can write, else the smallest price. -/
def written (lib : DecimalLib) (d : Decimal) : lib.Value :=
  match h : lib.newDecimal (some (.str (lib.toText d))) with
  | some d' => ⟨d', _, h⟩
  | none => MIN_PRICE

def onNumbers (lib : DecimalLib) (f : ℚ → ℚ → ℚ) (x y : lib.Value) : lib.Value :=
  match x.decimal, y.decimal with
  | .finite p, .finite q => written lib (.finite (f p q))
  | _, _ => written lib .nan

/-- The arithmetic on the decimals that the library can write. -/
def exact (lib : DecimalLib) : DecimalArithmetic lib where
  minus := onNumbers lib (· - ·)
  plus := onNumbers lib (· + ·)
  mul := onNumbers lib (· * ·)
  div := onNumbers lib (· / ·)
  ofNumber := fun _ => MIN_PRICE
  dearer := fun a b => b.decimal.lt a.decimal
  lt_of_dearer := fun _ _ h => h
  dearer_of_gap := by
    intro a b p q ha hb hgap
    have hpos : 0 < minNumber := div_pos one_pos (pow_pos two_pos 1074)
    have hlt : q < p := by linarith
    simp [ha, hb, Decimal.lt, Decimal.cmp, hlt]

end DecimalArithmetic

variable {lib : DecimalLib} (arith : DecimalArithmetic lib)

/-- `new Decimal(v)` -/
def newValue (lib : DecimalLib) (v : JsValue) : Except JsError lib.Value :=
  match h : lib.newDecimal v with
  | some d => .ok ⟨d, v, h⟩
  | none => .error .typeError

/-! ### Ranking -/

def priced (lib : DecimalLib) (offer : SellerOffer) : Except JsError (SellerOffer × lib.Value) :=
  (newValue lib offer.price).map fun price => (offer, price)

/-- `[...offers].sort((a, b) => new Decimal(a.price).minus(b.price).toNumber())`. A list of one
is sorted without a look at its price. -/
def sortByPrice (offers : List SellerOffer) : Except JsError (List SellerOffer) :=
  if offers.length ≤ 1 then .ok offers
  else (offers.mapM (priced lib)).map fun pairs =>
    (pairs.insertionSort fun a b => arith.dearer a.2 b.2 = false).map Prod.fst

def selectLowestPricedBuyerOffer (offers : List SellerOffer) : Except JsError SellerOffer := do
  let sorted ← sortByPrice arith offers
  orThrow sorted.head? .typeError

def NEAR_TIE_THRESHOLD : ℚ := 1

/-- `new Decimal(offer.price).minus(bestPrice).lte(NEAR_TIE_THRESHOLD)` -/
def nearTie (bestPrice : lib.Value) (offer : SellerOffer) : Except JsError Bool :=
  (newValue lib offer.price).map fun price =>
    (arith.minus price bestPrice).decimal.lte (.finite NEAR_TIE_THRESHOLD)

/-- The agent hands over an empty registry, whose signals all compare as equal. -/
def selectBestBuyerOffer (offers : List SellerOffer) : Except JsError SellerOffer := do
  let sorted ← sortByPrice arith offers
  let best ← orThrow sorted.head? .typeError
  let bestPrice ← newValue lib best.price
  let nearTies ← sorted.filterM (nearTie arith bestPrice)
  if nearTies.length ≤ 1 then return best
  let ranked ← sortByPrice arith nearTies
  orThrow ranked.head? .typeError

/-! ### The rules -/

/-- `onOffersReceived` of a strategy that counters with `counterPrice`. -/
def acceptOrCounter (counterPrice : BuyerStrategyContext lib → Except JsError lib.Value) :
    BuyerStrategy lib := fun asked _ => do
  if asked.currentOffers = [] then return .wait
  let cheapest ← selectLowestPricedBuyerOffer arith asked.currentOffers
  let cheapestPrice ← newValue lib cheapest.price
  if cheapestPrice.decimal.lte asked.priv.budgetSoft.decimal = true then
    return .accept cheapest.seller
  let best ← selectBestBuyerOffer arith asked.currentOffers
  let price ← counterPrice asked
  return .counter best.seller (price.maxOrMin .gt asked.priv.budgetHard)

/-- `Math.min` of a number that is none is none. -/
def mathMin (x y : Float) : Float := if x.isNaN then x else if y.isNaN then y else min x y

def mathMax (x y : Float) : Float := if x.isNaN then x else if y.isNaN then y else max x y

structure LinearConcessionConfig where
  maxRounds : Float := 5

def LinearConcessionBuyer.onOffersReceived (config : LinearConcessionConfig) :
    BuyerStrategy lib :=
  acceptOrCounter arith fun ctx => do
    let anchor ← newValue lib (some (.str ctx.rfq.anchorPrice))
    let maxConcession := arith.minus ctx.priv.budgetSoft anchor
    let step := arith.div maxConcession (arith.ofNumber config.maxRounds)
    return arith.plus anchor (arith.mul step (arith.ofNumber (Float.ofNat ctx.round)))

structure TimeWeightedConfig where
  maxRounds : Float := 5
  assumedRoundDurationMs : Float := 1000

/-- How much of the range up to the hard budget is given by now. -/
def TimeWeightedBuyer.urgency (config : TimeWeightedConfig) (ctx : BuyerStrategyContext lib) :
    Float :=
  let round := Float.ofNat ctx.round
  let time := (ctx.timeRemainingMs.map Float.ofInt).getD (0 / 0)
  mathMin 1 (round / config.maxRounds +
    (1 - time / mathMax (time + round * config.assumedRoundDurationMs) 1))

def TimeWeightedBuyer.onOffersReceived (config : TimeWeightedConfig) : BuyerStrategy lib :=
  acceptOrCounter arith fun ctx => do
    let anchor ← newValue lib (some (.str ctx.rfq.anchorPrice))
    let range := arith.minus ctx.priv.budgetHard anchor
    return arith.plus anchor (arith.mul range (arith.ofNumber (urgency config ctx)))

structure CompetitiveBuyerConfig where
  maxRounds : Float := 5
  highCompThreshold : Float := 3
  medCompThreshold : Float := 2
  highCompFactor : Float := 0.5
  medCompFactor : Float := 0.75
  noCompFactor : Float := 1

/-- Every offer counts as a competitor. -/
def CompetitiveBuyer.competitionFactor (config : CompetitiveBuyerConfig) (offers : ℕ) : Float :=
  if Float.ofNat offers ≥ config.highCompThreshold then config.highCompFactor
  else if Float.ofNat offers ≥ config.medCompThreshold then config.medCompFactor
  else config.noCompFactor

def CompetitiveBuyer.onOffersReceived (config : CompetitiveBuyerConfig) : BuyerStrategy lib :=
  acceptOrCounter arith fun ctx => do
    let sorted ← sortByPrice arith ctx.currentOffers
    let anchor ← newValue lib (some (.str ctx.rfq.anchorPrice))
    let baseStep := arith.div (arith.minus ctx.priv.budgetSoft anchor)
      (arith.ofNumber config.maxRounds)
    let step := arith.mul baseStep (arith.ofNumber (competitionFactor config sorted.length))
    return arith.plus anchor (arith.mul step (arith.ofNumber (Float.ofNat ctx.round)))

inductive RuleBasedBuyer where
  | linearConcession (config : LinearConcessionConfig)
  | timeWeighted (config : TimeWeightedConfig)
  | competitive (config : CompetitiveBuyerConfig)

def RuleBasedBuyer.onOffersReceived : RuleBasedBuyer → BuyerStrategy lib
  | linearConcession config => LinearConcessionBuyer.onOffersReceived arith config
  | timeWeighted config => TimeWeightedBuyer.onOffersReceived arith config
  | competitive config => CompetitiveBuyer.onOffersReceived arith config

theorem RuleBasedBuyer.acceptOrCounter (buyer : RuleBasedBuyer) :
    ∃ counterPrice, buyer.onOffersReceived arith = Strategy.acceptOrCounter arith counterPrice := by
  cases buyer with
  | linearConcession config => exact ⟨_, rfl⟩
  | timeWeighted config => exact ⟨_, rfl⟩
  | competitive config => exact ⟨_, rfl⟩

/-! ### What is accepted -/

variable {arith}

theorem newValue_eq_ok {v : JsValue} {x : lib.Value} (h : newValue lib v = .ok x) :
    lib.newDecimal v = some x.decimal := by
  unfold newValue at h
  split at h
  · cases h
    assumption
  · cases h

/-- An accept names the seller of the cheapest offer, which is within the soft budget. -/
theorem RuleBasedBuyer.accepts {buyer : RuleBasedBuyer} {asked ctx : BuyerStrategyContext lib}
    {seller : JsValue} (h : buyer.onOffersReceived arith asked ctx = .ok (.accept seller)) :
    ∃ cheapest, selectLowestPricedBuyerOffer arith asked.currentOffers = .ok cheapest ∧
      seller = cheapest.seller ∧
      lib.AtMost cheapest.price asked.priv.budgetSoft.decimal := by
  obtain ⟨counterPrice, hbuyer⟩ := RuleBasedBuyer.acceptOrCounter arith buyer
  rw [hbuyer] at h
  unfold Strategy.acceptOrCounter at h
  split_ifs at h with hempty
  · simp at h
  · simp only [bind_eq_ok] at h
    obtain ⟨cheapest, hcheapest, cheapestPrice, hprice, h⟩ := h
    split_ifs at h with hsoft
    · simp only [pure_eq_ok, BuyerAction.accept.injEq] at h
      exact ⟨cheapest, hcheapest, h.symm, cheapestPrice.decimal, newValue_eq_ok hprice, hsoft⟩
    · simp only [bind_eq_ok, pure_eq_ok] at h
      obtain ⟨best, _, price, _, h⟩ := h
      cases h

/-! ### The cheapest offer -/

theorem mapM_priced {offers : List SellerOffer} {pairs : List (SellerOffer × lib.Value)}
    (h : offers.mapM (priced lib) = .ok pairs) :
    pairs.map Prod.fst = offers ∧
      ∀ pair ∈ pairs, lib.newDecimal pair.1.price = some pair.2.decimal := by
  induction offers generalizing pairs with
  | nil =>
    rw [List.mapM_nil, pure_eq_ok] at h
    subst h
    simp
  | cons offer offers ih =>
    simp only [List.mapM_cons, bind_eq_ok, pure_eq_ok] at h
    obtain ⟨pair, hpair, rest, hrest, rfl⟩ := h
    obtain ⟨hfst, hprices⟩ := ih hrest
    obtain ⟨price, hprice, rfl⟩ := map_eq_ok.mp hpair
    constructor
    · simp [hfst]
    · intro pair' hpair'
      rcases List.mem_cons.mp hpair' with rfl | hpair'
      · exact newValue_eq_ok hprice
      · exact hprices pair' hpair'

/-- The price of an offer, where it is a number. -/
def priceOf (lib : DecimalLib) (offer : SellerOffer) : ℚ :=
  match lib.newDecimal offer.price with
  | some (.finite p) => p
  | _ => 0

/-- Prices that are numbers, and that numbers can tell apart. -/
def TellsApart (lib : DecimalLib) (offers : List SellerOffer) : Prop :=
  (∀ offer ∈ offers, lib.newDecimal offer.price = some (.finite (priceOf lib offer))) ∧
    ∀ a ∈ offers, ∀ b ∈ offers, priceOf lib a < priceOf lib b →
      priceOf lib a + minNumber ≤ priceOf lib b

theorem dearer_eq_false_iff {offers : List SellerOffer} (h : TellsApart lib offers)
    {a b : SellerOffer × lib.Value} (ha : a.1 ∈ offers) (hb : b.1 ∈ offers)
    (hapriced : lib.newDecimal a.1.price = some a.2.decimal)
    (hbpriced : lib.newDecimal b.1.price = some b.2.decimal) :
    arith.dearer a.2 b.2 = false ↔ priceOf lib a.1 ≤ priceOf lib b.1 := by
  have hp : a.2.decimal = .finite (priceOf lib a.1) := by
    rw [h.1 _ ha, Option.some.injEq] at hapriced
    exact hapriced.symm
  have hq : b.2.decimal = .finite (priceOf lib b.1) := by
    rw [h.1 _ hb, Option.some.injEq] at hbpriced
    exact hbpriced.symm
  constructor
  · intro hnot
    by_contra hlt
    have hgap := h.2 _ hb _ ha (not_le.mp hlt)
    rw [arith.dearer_of_gap _ _ _ _ hp hq hgap] at hnot
    cases hnot
  · intro hle
    rw [Bool.eq_false_iff]
    intro hdearer
    have hlt := arith.lt_of_dearer _ _ hdearer
    rw [hp, hq] at hlt
    simp only [Decimal.lt, Decimal.cmp, decide_eq_true_eq, Option.some.injEq] at hlt
    split_ifs at hlt with hpq
    exact absurd hle (not_le.mpr hpq)

/-- Sorting more than one offer takes all their prices. -/
theorem sortByPrice_eq_ok {offers sorted : List SellerOffer}
    (h : sortByPrice arith offers = .ok sorted) :
    (offers.length ≤ 1 ∧ sorted = offers) ∨
      ∃ pairs, offers.mapM (priced lib) = .ok pairs ∧
        sorted = (pairs.insertionSort fun a b => arith.dearer a.2 b.2 = false).map Prod.fst := by
  unfold sortByPrice at h
  split_ifs at h with hshort
  · cases h
    exact .inl ⟨hshort, rfl⟩
  · obtain ⟨pairs, hpairs, hsorted⟩ := map_eq_ok.mp h
    exact .inr ⟨pairs, hpairs, hsorted.symm⟩

theorem selectLowestPricedBuyerOffer_mem {offers : List SellerOffer} {cheapest : SellerOffer}
    (h : selectLowestPricedBuyerOffer arith offers = .ok cheapest) : cheapest ∈ offers := by
  simp only [selectLowestPricedBuyerOffer, bind_eq_ok, orThrow_eq_ok] at h
  obtain ⟨sorted, hsorted, hhead⟩ := h
  have hmem := List.mem_of_head? hhead
  rcases sortByPrice_eq_ok hsorted with ⟨_, rfl⟩ | ⟨pairs, hpairs, rfl⟩
  · exact hmem
  · obtain ⟨pair, hpair, rfl⟩ := List.mem_map.mp hmem
    rw [List.mem_insertionSort] at hpair
    rw [← (mapM_priced hpairs).1]
    exact List.mem_map_of_mem hpair

end GhostBazaar.Strategy
