import GhostBazaar.Strategy.Concessions

/-! What a buyer that follows a rule bids, against what the countered seller asks. The price of a
counter does not look at the offers; only the hard budget caps it. -/
namespace GhostBazaar.Strategy.Exact
open Js

/-- The prices that a seller currently offers. -/
def asks (offers : List SellerOffer) (seller : JsString) : List ℚ :=
  (offers.filter fun offer => decide (offer.seller = seller)).map SellerOffer.price

theorem mem_asks {offers : List SellerOffer} {seller : JsString} {price : ℚ} :
    price ∈ asks offers seller ↔
      ∃ offer ∈ offers, offer.seller = seller ∧ offer.price = price := by
  unfold asks
  simp only [List.mem_map, List.mem_filter, decide_eq_true_eq, and_assoc]

/-- The lowest price that a seller currently offers. -/
def lowestAsk (offers : List SellerOffer) (seller : JsString) : Option ℚ :=
  (asks offers seller).min?

theorem lowestAsk_eq_some {offers : List SellerOffer} {seller : JsString} {ask : ℚ} :
    lowestAsk offers seller = some ask ↔
      (∃ offer ∈ offers, offer.seller = seller ∧ offer.price = ask) ∧
        ∀ offer ∈ offers, offer.seller = seller → ask ≤ offer.price := by
  unfold lowestAsk
  rw [List.min?_eq_some_iff, mem_asks]
  apply and_congr_right'
  constructor
  · intro h offer hoffer hseller
    exact h offer.price (mem_asks.mpr ⟨offer, hoffer, hseller, rfl⟩)
  · intro h price hprice
    obtain ⟨offer, hoffer, hseller, rfl⟩ := mem_asks.mp hprice
    exact h offer hoffer hseller

theorem selectLowestPricedBuyerOffer_least {offers : List SellerOffer} {cheapest : SellerOffer}
    (h : selectLowestPricedBuyerOffer offers = some cheapest) :
    ∀ offer ∈ offers, cheapest.price ≤ offer.price := by
  obtain ⟨rest, hsorted⟩ := List.head?_eq_some_iff.mp h
  exact (lowest_of_sorted hsorted).2

variable {fl : Rounding}

/-! ### The price of a counter -/

/-- What a buyer concedes towards. -/
def RuleBasedBuyer.goal : RuleBasedBuyer → BuyerPrivate → ℚ
  | linearConcession, priv => priv.budgetSoft
  | competitive, priv => priv.budgetSoft
  | timeWeighted, priv => priv.budgetHard

/-- Which part of the way from the anchor to its goal a buyer has conceded, more than all of it
after the last of its rounds. -/
def RuleBasedBuyer.progress : RuleBasedBuyer → BuyerStrategyContext fl → ℚ
  | linearConcession, ctx => ctx.round / 5
  | competitive, ctx =>
    ctx.round * CompetitiveBuyer.competitionFactor {} ctx.currentOffers.length / 5
  | timeWeighted, ctx => fl.toDecimal (TimeWeightedBuyer.urgency {} ctx).1

theorem RuleBasedBuyer.newPrice_eq (buyer : RuleBasedBuyer) (ctx : BuyerStrategyContext fl) :
    buyer.newPrice ctx =
      ctx.anchorPrice + (buyer.goal ctx.priv - ctx.anchorPrice) * buyer.progress ctx := by
  cases buyer with
  | linearConcession =>
    change ctx.anchorPrice + (ctx.priv.budgetSoft - ctx.anchorPrice) / 5 * ctx.round =
      ctx.anchorPrice + (ctx.priv.budgetSoft - ctx.anchorPrice) * (ctx.round / 5)
    ring
  | competitive =>
    have hlength : (sortBy comparePrices ctx.currentOffers).length = ctx.currentOffers.length :=
      List.length_insertionSort _ _
    unfold newPrice CompetitiveBuyer.newPrice goal progress
    simp only [hlength]
    ring
  | timeWeighted => rfl

/-- The countered seller has offers, and all of them are above the soft budget. -/
theorem RuleBasedBuyer.lowestAsk_of_counter {buyer : RuleBasedBuyer}
    {ctx : BuyerStrategyContext fl} {seller : JsString} {price : ℚ}
    (h : buyer.onOffersReceived ctx = .counter seller price) :
    ∃ ask, lowestAsk ctx.currentOffers seller = some ask ∧ ctx.priv.budgetSoft < ask := by
  obtain ⟨cheapest, best, hcheapest, hbest, hsoft, rfl, -⟩ := buyer.counters h
  have hmem := (selectBestBuyerOffer_rank hbest).1
  have hask : best.price ∈ asks ctx.currentOffers best.seller := mem_asks.mpr ⟨best, hmem, rfl, rfl⟩
  obtain ⟨ask, hleast⟩ := Option.isSome_iff_exists.mp (List.isSome_min?_of_mem hask)
  obtain ⟨⟨offer, hoffer, -, rfl⟩, -⟩ := lowestAsk_eq_some.mp hleast
  exact ⟨offer.price, hleast,
    hsoft.trans_le (selectLowestPricedBuyerOffer_least hcheapest offer hoffer)⟩

/-- A buyer that has not used up its rounds bids at most its goal. -/
theorem RuleBasedBuyer.newPrice_le_goal {buyer : RuleBasedBuyer} {ctx : BuyerStrategyContext fl}
    (hgoal : ctx.anchorPrice ≤ buyer.goal ctx.priv) (hprogress : buyer.progress ctx ≤ 1) :
    buyer.newPrice ctx ≤ buyer.goal ctx.priv := by
  have hconceded := mul_le_of_le_one_right (sub_nonneg.mpr hgoal) hprogress
  rw [buyer.newPrice_eq]
  linarith

/-- A counter stays at or below the ask as long as the hard budget or the conceded price does. The
buyers that concede towards the soft budget stay below every ask until their rounds are over. -/
theorem counter_le_ask_iff (buyer : RuleBasedBuyer) (ctx : BuyerStrategyContext fl)
    (hanchor : ctx.anchorPrice ≤ ctx.priv.budgetSoft) {seller : JsString} {price : ℚ}
    (h : buyer.onOffersReceived ctx = .counter seller price) :
    ∃ ask, lowestAsk ctx.currentOffers seller = some ask ∧ ctx.priv.budgetSoft < ask ∧
      price ≤ ctx.priv.budgetHard ∧
      (price ≤ ask ↔ ctx.priv.budgetHard ≤ ask ∨
        (buyer.goal ctx.priv - ctx.anchorPrice) * buyer.progress ctx ≤ ask - ctx.anchorPrice) ∧
      (buyer.goal ctx.priv = ctx.priv.budgetSoft → buyer.progress ctx ≤ 1 →
        price ≤ ctx.priv.budgetSoft) := by
  obtain ⟨ask, hask, hsoft⟩ := RuleBasedBuyer.lowestAsk_of_counter h
  obtain ⟨-, -, -, -, -, -, rfl⟩ := buyer.counters h
  refine ⟨ask, hask, hsoft, min_le_right _ _, ?_, ?_⟩
  · rw [min_le_iff, buyer.newPrice_eq, or_comm, ← le_sub_iff_add_le']
  · intro hgoal hprogress
    rw [← hgoal] at hanchor ⊢
    exact (min_le_left _ _).trans (RuleBasedBuyer.newPrice_le_goal hanchor hprogress)

section Sample

/-- After ten rounds every one of the buyers bids above the only offer. -/
theorem counter_above_ask :
    let ctx := { sampleBuyerContext with round := 11 }
    ctx.anchorPrice ≤ ctx.priv.budgetSoft ∧ ctx.priv.budgetSoft ≤ ctx.priv.budgetHard ∧
      lowestAsk ctx.currentOffers (js "seller") = some 15 ∧
      RuleBasedBuyer.linearConcession.onOffersReceived ctx = .counter (js "seller") 16 ∧
      RuleBasedBuyer.competitive.onOffersReceived ctx = .counter (js "seller") 16 ∧
      RuleBasedBuyer.timeWeighted.onOffersReceived ctx = .counter (js "seller") 20 := by
  intro ctx
  refine ⟨?_, ?_, rfl, ?_, ?_, ?_⟩
  · norm_num [ctx, sampleBuyerContext]
  · norm_num [ctx, sampleBuyerContext]
  · rw [sampleBuyerContext_counters, RuleBasedBuyer.newPrice_eq]
    norm_num [sampleBuyerContext, RuleBasedBuyer.goal, RuleBasedBuyer.progress]
  · rw [sampleBuyerContext_counters, RuleBasedBuyer.newPrice_eq]
    norm_num [sampleBuyerContext, RuleBasedBuyer.goal, RuleBasedBuyer.progress,
      CompetitiveBuyer.competitionFactor]
  · have htime : 0 ≤ ctx.timeRemainingMs.1 := by
      norm_num [ctx, sampleBuyerContext, noRounding, Rounding.ofRat]
    have hprogress : RuleBasedBuyer.timeWeighted.progress ctx = 1 :=
      TimeWeightedBuyer.urgency_eq_one ctx htime (by norm_num [ctx])
    rw [sampleBuyerContext_counters, RuleBasedBuyer.newPrice_eq, hprogress]
    norm_num [sampleBuyerContext, RuleBasedBuyer.goal]

theorem counter_le_ask_iff_sample :
    ∃ price ask, RuleBasedBuyer.linearConcession.onOffersReceived sampleBuyerContext =
        .counter (js "seller") price ∧
      lowestAsk sampleBuyerContext.currentOffers (js "seller") = some ask ∧ price ≤ ask := by
  have hcounter := sampleBuyerContext_counters .linearConcession 2
  have hanchor : sampleBuyerContext.anchorPrice ≤ sampleBuyerContext.priv.budgetSoft := by
    norm_num [sampleBuyerContext]
  obtain ⟨ask, hask, hsoft, -, -, hearly⟩ :=
    counter_le_ask_iff _ sampleBuyerContext hanchor hcounter
  have hprogress : RuleBasedBuyer.linearConcession.progress sampleBuyerContext ≤ 1 := by
    norm_num [sampleBuyerContext, RuleBasedBuyer.progress]
  exact ⟨_, ask, hcounter, hask, (hearly rfl hprogress).trans hsoft.le⟩

end Sample

end GhostBazaar.Strategy.Exact
