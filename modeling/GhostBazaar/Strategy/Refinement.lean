import GhostBazaar.Strategy.Concessions
import GhostBazaar.Strategy.Sellers

/-! The strategies of the agents against those with exact decimals. Where the prices are numbers
that the arithmetic tells apart, both rank the offers alike, so they accept and counter the same
sellers; what they counter with agrees as far as the arithmetic is exact. -/
namespace GhostBazaar.Strategy
open Js GhostBazaar.Core

variable {lib : DecimalLib} {arith : DecimalArithmetic lib} {offers : List SellerOffer}

/-! ### Offers -/

/-- The text of a field that is one. -/
def textOf (v : JsValue) : JsString := v.asStr.getD []

/-- An offer with its price as a decimal. -/
def exactOffer (lib : DecimalLib) (offer : SellerOffer) : Exact.SellerOffer :=
  ⟨textOf offer.offerId, textOf offer.seller, priceOf lib offer⟩

theorem TellsApart.mono (h : TellsApart lib offers) {some : List SellerOffer}
    (hsome : ∀ offer ∈ some, offer ∈ offers) : TellsApart lib some :=
  ⟨fun offer hoffer => h.1 offer (hsome offer hoffer),
    fun a ha b hb => h.2 a (hsome a ha) b (hsome b hb)⟩

theorem newValue_of_newDecimal {v : JsValue} {d : Decimal} (h : lib.newDecimal v = some d) :
    ∃ x, newValue lib v = .ok x ∧ x.decimal = d := by
  unfold newValue
  split
  · rename_i d' hd
    rw [h, Option.some.injEq] at hd
    exact ⟨_, rfl, hd.symm⟩
  · rename_i hnone
    rw [h] at hnone
    cases hnone

theorem TellsApart.newValue (h : TellsApart lib offers) {offer : SellerOffer}
    (hoffer : offer ∈ offers) : ∃ price, newValue lib offer.price = .ok price ∧
      price.decimal = .finite (priceOf lib offer) :=
  newValue_of_newDecimal (h.1 offer hoffer)

theorem TellsApart.mapM_priced (h : TellsApart lib offers) :
    ∃ pairs, offers.mapM (priced lib) = .ok pairs := by
  induction offers with
  | nil => exact ⟨[], rfl⟩
  | cons offer offers ih =>
    obtain ⟨price, hprice, -⟩ := h.newValue List.mem_cons_self
    obtain ⟨pairs, hpairs⟩ := ih (h.mono fun _ ho => List.mem_cons_of_mem _ ho)
    refine ⟨(offer, price) :: pairs, ?_⟩
    simp only [List.mapM_cons, bind_eq_ok, pure_eq_ok]
    exact ⟨_, map_eq_ok.mpr ⟨price, hprice, rfl⟩, pairs, hpairs, rfl⟩

/-! ### Ranking -/

variable (arith) in
/-- The comparison with `toNumber` sorts as the exact one does. -/
theorem sortByPrice_exact (h : TellsApart lib offers) : ∃ sorted,
    sortByPrice arith offers = .ok sorted ∧ sorted.Perm offers ∧
      sorted.map (exactOffer lib) =
        Exact.sortBy Exact.comparePrices (offers.map (exactOffer lib)) := by
  unfold sortByPrice
  split_ifs with hshort
  · refine ⟨offers, rfl, .refl _, ?_⟩
    match offers, hshort with
    | [], _ | [_], _ => rfl
  · obtain ⟨pairs, hpairs⟩ := h.mapM_priced
    obtain ⟨hfst, hprices⟩ := mapM_priced hpairs
    have hmem : ∀ pair ∈ pairs, pair.1 ∈ offers := fun pair hpair => by
      rw [← hfst]
      exact List.mem_map_of_mem hpair
    refine ⟨_, map_eq_ok.mpr ⟨pairs, hpairs, rfl⟩, ?_, ?_⟩
    · rw [← hfst]
      exact (List.perm_insertionSort _ _).map _
    · rw [← hfst, List.map_map, List.map_map]
      refine List.map_insertionSort _ _ _ _ fun a ha b hb => ?_
      rw [Exact.comparePrices_le_zero]
      exact dearer_eq_false_iff h (hmem a ha) (hmem b hb) (hprices a ha) (hprices b hb)

variable (arith) in
/-- The cheapest offer of a list is that of its exact offers. -/
theorem selectLowestPricedBuyerOffer_exact (h : TellsApart lib offers) (hne : offers ≠ []) :
    ∃ cheapest ∈ offers, selectLowestPricedBuyerOffer arith offers = .ok cheapest ∧
      Exact.selectLowestPricedBuyerOffer (offers.map (exactOffer lib)) =
        some (exactOffer lib cheapest) := by
  obtain ⟨sorted, hsorted, hperm, hexact⟩ := sortByPrice_exact arith h
  cases sorted with
  | nil => exact absurd hperm.symm.eq_nil hne
  | cons cheapest rest =>
    refine ⟨cheapest, hperm.subset List.mem_cons_self, ?_, ?_⟩
    · simp [selectLowestPricedBuyerOffer, hsorted, bind_eq_ok]
    · rw [Exact.selectLowestPricedBuyerOffer, ← hexact, List.map_cons, List.head?_cons]

theorem selectLowestPricedBuyerOffer_le (h : TellsApart lib offers) {cheapest : SellerOffer}
    (hselected : selectLowestPricedBuyerOffer arith offers = .ok cheapest) :
    ∀ offer ∈ offers, priceOf lib cheapest ≤ priceOf lib offer := by
  have hne : offers ≠ [] := List.ne_nil_of_mem (selectLowestPricedBuyerOffer_mem hselected)
  obtain ⟨other, -, hother, hexact⟩ := selectLowestPricedBuyerOffer_exact arith h hne
  rw [hselected, Except.ok.injEq] at hother
  subst hother
  obtain ⟨rest, hsorted⟩ := List.head?_eq_some_iff.mp hexact
  exact fun offer hoffer =>
    (Exact.lowest_of_sorted hsorted).2 (exactOffer lib offer) (List.mem_map_of_mem hoffer)

/-- The differences of the prices are not rounded. -/
def ExactMinus (arith : DecimalArithmetic lib) (offers : List SellerOffer) : Prop :=
  ∀ a ∈ offers, ∀ b ∈ offers, ∀ x y : lib.Value, x.decimal = .finite (priceOf lib a) →
    y.decimal = .finite (priceOf lib b) →
      (arith.minus x y).decimal = .finite (priceOf lib a - priceOf lib b)

theorem finite_lte_iff {p q : ℚ} : (Decimal.finite p).lte (.finite q) = true ↔ p ≤ q := by
  simp only [Decimal.lte, Decimal.cmp, decide_eq_true_eq, Option.some.injEq]
  split_ifs with hlt heq
  · simp [hlt.le]
  · simp [heq]
  · simp [lt_of_le_of_ne (not_lt.mp hlt) (Ne.symm heq)]

theorem nearTie_exact (h : TellsApart lib offers) (hminus : ExactMinus arith offers)
    {best offer : SellerOffer} (hbest : best ∈ offers) (hoffer : offer ∈ offers)
    {bestPrice : lib.Value} (hprice : bestPrice.decimal = .finite (priceOf lib best)) :
    nearTie arith bestPrice offer =
      .ok (decide (priceOf lib offer - priceOf lib best ≤ NEAR_TIE_THRESHOLD)) := by
  obtain ⟨price, hvalue, hdecimal⟩ := h.newValue hoffer
  rw [nearTie, hvalue]
  refine congrArg Except.ok (Bool.eq_iff_iff.mpr ?_)
  change (arith.minus price bestPrice).decimal.lte (.finite NEAR_TIE_THRESHOLD) = true ↔ _
  rw [hminus offer hoffer best hbest price bestPrice hdecimal hprice, finite_lte_iff,
    decide_eq_true_eq]

theorem filterM_eq_ok {α ε : Type} {f : α → Except ε Bool} {p : α → Bool} {l : List α}
    (h : ∀ a ∈ l, f a = .ok (p a)) : l.filterM f = .ok (l.filter p) := by
  have haux (acc : List α) : l.filterAuxM f acc = .ok ((l.filter p).reverse ++ acc) := by
    induction l generalizing acc with
    | nil => rfl
    | cons a l ih =>
      rw [List.filterAuxM, h a List.mem_cons_self]
      refine (ih (fun b hb => h b (List.mem_cons_of_mem a hb)) _).trans ?_
      cases hp : p a <;> simp [hp]
  rw [List.filterM, haux []]
  simp [ok_bind, Pure.pure, Except.pure]

/-- Without a registry near ties compare by their prices. -/
theorem compareOffers_unknown (a b : Exact.SellerOffer) :
    Exact.compareOffers (fun _ => none) a b = Exact.comparePrices a b := by
  simp [Exact.compareOffers, Exact.compareSignals]

theorem selectBestBuyerOffer_exact (h : TellsApart lib offers) (hminus : ExactMinus arith offers)
    (hne : offers ≠ []) : ∃ best ∈ offers, selectBestBuyerOffer arith offers = .ok best ∧
      Exact.selectBestBuyerOffer (offers.map (exactOffer lib)) (fun _ => none) =
        some (exactOffer lib best) := by
  obtain ⟨sorted, hsorted, hperm, hexact⟩ := sortByPrice_exact arith h
  cases sorted with
  | nil => exact absurd hperm.symm.eq_nil hne
  | cons best rest =>
    have hmem : ∀ offer ∈ best :: rest, offer ∈ offers := fun offer => hperm.mem_iff.mp
    have hbest := hmem best List.mem_cons_self
    obtain ⟨bestPrice, hvalue, hdecimal⟩ := h.newValue hbest
    let near (offer : SellerOffer) : Bool :=
      decide (priceOf lib offer - priceOf lib best ≤ NEAR_TIE_THRESHOLD)
    have hties : (best :: rest).filterM (nearTie arith bestPrice) =
        .ok ((best :: rest).filter near) := filterM_eq_ok fun offer hoffer =>
      nearTie_exact h hminus hbest (hmem offer hoffer) hdecimal
    have hfilter : ((best :: rest).map (exactOffer lib)).filter (fun offer =>
        decide (offer.price - (exactOffer lib best).price ≤ Exact.NEAR_TIE_THRESHOLD)) =
        ((best :: rest).filter near).map (exactOffer lib) := List.filter_map
    have hin : ∀ offer ∈ (best :: rest).filter near, offer ∈ offers := fun offer hoffer =>
      hmem offer (List.mem_filter.mp hoffer).1
    have hchosen : Exact.selectBestBuyerOffer (offers.map (exactOffer lib)) (fun _ => none) =
        if ((best :: rest).filter near).length ≤ 1 then some (exactOffer lib best)
        else (Exact.sortBy Exact.comparePrices
          (((best :: rest).filter near).map (exactOffer lib))).head? := by
      rw [Exact.selectBestBuyerOffer, ← hexact, List.map_cons]
      simp only [← List.map_cons, hfilter, List.length_map]
      simp only [Exact.sortBy, compareOffers_unknown]
    have htake : selectBestBuyerOffer arith offers =
        if ((best :: rest).filter near).length ≤ 1 then .ok best
        else sortByPrice arith ((best :: rest).filter near) >>= fun ranked =>
          orThrow ranked.head? .typeError := by
      rw [selectBestBuyerOffer, hsorted, ok_bind, List.head?_cons]
      simp only [orThrow, ok_bind, hvalue, hties]
      rfl
    rw [hchosen, htake]
    split_ifs with hfew
    · exact ⟨best, hbest, rfl, rfl⟩
    · obtain ⟨ranked, hranked, hrankedPerm, hrankedExact⟩ :=
        sortByPrice_exact arith (h.mono hin)
      cases ranked with
      | nil =>
        rw [hrankedPerm.symm.eq_nil] at hfew
        exact absurd (Nat.zero_le 1) hfew
      | cons first others =>
        refine ⟨first, hin first (hrankedPerm.subset List.mem_cons_self), ?_, ?_⟩
        · rw [hranked]
          rfl
        · rw [← hrankedExact, List.map_cons, List.head?_cons]

/-! ### Decisions -/

section Decisions
variable {fl : Exact.Rounding} {asked : BuyerStrategyContext lib}
  {ctx : Exact.BuyerStrategyContext fl}

/-- The agent hands over an empty registry. -/
structure Tracks (asked : BuyerStrategyContext lib) (ctx : Exact.BuyerStrategyContext fl) :
    Prop where
  offers : ctx.currentOffers = asked.currentOffers.map (exactOffer lib)
  sellerRegistry : ctx.sellerRegistry = fun _ => none
  budgetSoft : asked.priv.budgetSoft.decimal = .finite ctx.priv.budgetSoft
  budgetHard : asked.priv.budgetHard.decimal = .finite ctx.priv.budgetHard

inductive SameAction : BuyerAction lib → Exact.BuyerAction → Prop where
  | wait : SameAction .wait .wait
  | accept (seller : JsValue) : SameAction (.accept seller) (.accept (textOf seller))
  | counter (seller : JsValue) {price : lib.Value} {p : ℚ} (hprice : price.decimal = .finite p) :
    SameAction (.counter seller price) (.counter (textOf seller) p)

theorem min_exact {x y : lib.Value} {p q : ℚ} (hx : x.decimal = .finite p)
    (hy : y.decimal = .finite q) : (x.maxOrMin .gt y).decimal = .finite (min p q) := by
  change Decimal.maxOrMin .gt x.decimal y.decimal = _
  rw [hx, hy, Decimal.maxOrMin, if_neg (by simp), Decimal.cmp]
  rcases lt_trichotomy p q with hlt | rfl | hgt
  · simp [hlt, min_eq_left hlt.le]
  · simp
  · simp [hgt.not_gt, hgt.ne', min_eq_right hgt.le]

/-- Both look at the same two offers. -/
theorem acceptOrCounter_eq (counterPrice : BuyerStrategyContext lib → Except JsError lib.Value)
    (newPrice : Exact.BuyerStrategyContext fl → ℚ) (now : BuyerStrategyContext lib)
    (htracks : Tracks asked ctx) (h : TellsApart lib asked.currentOffers)
    (hminus : ExactMinus arith asked.currentOffers) (hne : asked.currentOffers ≠ []) :
    ∃ cheapest best : SellerOffer,
      acceptOrCounter arith counterPrice asked now =
        (if priceOf lib cheapest ≤ ctx.priv.budgetSoft then .ok (.accept cheapest.seller)
        else (counterPrice asked).map fun price =>
          .counter best.seller (price.maxOrMin .gt asked.priv.budgetHard)) ∧
      Exact.acceptOrCounter newPrice ctx =
        if priceOf lib cheapest ≤ ctx.priv.budgetSoft then .accept (textOf cheapest.seller)
        else .counter (textOf best.seller) (min (newPrice ctx) ctx.priv.budgetHard) := by
  obtain ⟨cheapest, hcheapest, hselected, hexact⟩ :=
    selectLowestPricedBuyerOffer_exact arith h hne
  obtain ⟨best, -, hbest, hbestExact⟩ := selectBestBuyerOffer_exact h hminus hne
  obtain ⟨cheapestPrice, hvalue, hdecimal⟩ := h.newValue hcheapest
  have hsoft : cheapestPrice.decimal.lte asked.priv.budgetSoft.decimal = true ↔
      priceOf lib cheapest ≤ ctx.priv.budgetSoft := by
    rw [hdecimal, htracks.budgetSoft]
    exact finite_lte_iff
  refine ⟨cheapest, best, ?_, ?_⟩
  · unfold acceptOrCounter
    simp only [hne, if_false, hselected, ok_bind, hvalue, hsoft, hbest]
    rfl
  · unfold Exact.acceptOrCounter
    rw [htracks.offers, htracks.sellerRegistry, hexact, hbestExact]
    rfl

/-- A rule decides as with exact decimals, if it computes the price of its counter exactly. -/
theorem acceptOrCounter_exact {counterPrice : BuyerStrategyContext lib → Except JsError lib.Value}
    {newPrice : Exact.BuyerStrategyContext fl → ℚ} (now : BuyerStrategyContext lib)
    (htracks : Tracks asked ctx) (h : TellsApart lib asked.currentOffers)
    (hminus : ExactMinus arith asked.currentOffers)
    (hprice : ∃ price, counterPrice asked = .ok price ∧ price.decimal = .finite (newPrice ctx)) :
    ∃ action, acceptOrCounter arith counterPrice asked now = .ok action ∧
      SameAction action (Exact.acceptOrCounter newPrice ctx) := by
  by_cases hne : asked.currentOffers = []
  · refine ⟨.wait, by rw [acceptOrCounter, if_pos hne]; rfl, ?_⟩
    rw [Exact.acceptOrCounter, htracks.offers, hne]
    exact .wait
  · obtain ⟨price, hcounter, hfinite⟩ := hprice
    obtain ⟨cheapest, best, hkept, hexact⟩ :=
      acceptOrCounter_eq counterPrice newPrice now htracks h hminus hne
    rw [hkept, hexact, hcounter]
    split_ifs
    · exact ⟨_, rfl, .accept cheapest.seller⟩
    · exact ⟨_, rfl, .counter best.seller (min_exact hfinite htracks.budgetHard)⟩

/-- Every rule accepts as the rules with exact decimals do: in the same contexts, and the same
seller. -/
theorem RuleBasedBuyer.accepts_exact_iff (buyer : RuleBasedBuyer) (buyer' : Exact.RuleBasedBuyer)
    (now : BuyerStrategyContext lib) (htracks : Tracks asked ctx)
    (h : TellsApart lib asked.currentOffers) (hminus : ExactMinus arith asked.currentOffers)
    (text : JsString) :
    (∃ seller, buyer.onOffersReceived arith asked now = .ok (.accept seller) ∧
      textOf seller = text) ↔ buyer'.onOffersReceived ctx = .accept text := by
  obtain ⟨counterPrice, hbuyer⟩ := RuleBasedBuyer.acceptOrCounter arith buyer
  rw [hbuyer, buyer'.acceptOrCounter]
  by_cases hne : asked.currentOffers = []
  · rw [Strategy.acceptOrCounter, if_pos hne, Exact.acceptOrCounter, htracks.offers, hne]
    constructor
    · rintro ⟨seller, hwait, -⟩
      cases hwait
    · intro hwait
      cases hwait
  · obtain ⟨cheapest, best, hkept, hexact⟩ :=
      acceptOrCounter_eq counterPrice buyer'.newPrice now htracks h hminus hne
    rw [hkept, hexact]
    split_ifs
    · simp
    · simp [map_eq_ok]

end Decisions

/-! ### Prices -/

section Prices
variable {fl : Exact.Rounding} {kept : ℚ → Prop}

/-- The operation does not round a result that is kept. -/
def ExactOn (kept : ℚ → Prop) (op : lib.Value → lib.Value → lib.Value) (f : ℚ → ℚ → ℚ) : Prop :=
  ∀ x y p q, x.decimal = .finite p → y.decimal = .finite q → kept (f p q) →
    (op x y).decimal = .finite (f p q)

/-- The library rounds to a number of digits, and keeps the results that have no more. -/
structure Precise (arith : DecimalArithmetic lib) (kept : ℚ → Prop) : Prop where
  minus : ExactOn kept arith.minus (· - ·)
  plus : ExactOn kept arith.plus (· + ·)
  mul : ExactOn kept arith.mul (· * ·)
  div : ∀ x y p q, x.decimal = .finite p → y.decimal = .finite q → q ≠ 0 → kept (p / q) →
    (arith.div x y).decimal = .finite (p / q)

theorem Precise.exactMinus (h : Precise arith kept)
    (hkept : ∀ a ∈ offers, ∀ b ∈ offers, kept (priceOf lib a - priceOf lib b)) :
    ExactMinus arith offers :=
  fun a ha b hb x y hx hy => h.minus x y _ _ hx hy (hkept a ha b hb)

/-- What the price of a counter depends on. -/
structure TracksPrice (arith : DecimalArithmetic lib) (asked : BuyerStrategyContext lib)
    (ctx : Exact.BuyerStrategyContext fl) : Prop where
  anchorPrice : lib.newDecimal (some (.str asked.rfq.anchorPrice)) = some (.finite ctx.anchorPrice)
  round : (arith.ofNumber (Float.ofNat asked.round)).decimal = .finite ctx.round

variable {asked : BuyerStrategyContext lib} {ctx : Exact.BuyerStrategyContext fl}

/-- From the anchor up by a step for every round. -/
theorem Precise.climb (h : Precise arith kept) (hprice : TracksPrice arith asked ctx)
    {anchor step : lib.Value} {s : ℚ} (hanchor : anchor.decimal = .finite ctx.anchorPrice)
    (hstep : step.decimal = .finite s)
    (hkept : ∀ q ∈ [s * ctx.round, ctx.anchorPrice + s * ctx.round], kept q) :
    (arith.plus anchor (arith.mul step (arith.ofNumber (Float.ofNat asked.round)))).decimal =
      .finite (ctx.anchorPrice + s * ctx.round) :=
  h.plus _ _ _ _ hanchor (h.mul _ _ _ _ hstep hprice.round (hkept _ (by simp)))
    (hkept _ (by simp))

/-- The part of the range up to the soft budget that a round gives. -/
theorem Precise.baseStep (h : Precise arith kept) (htracks : Tracks asked ctx)
    {anchor rounds : lib.Value} {n : ℚ} (hanchor : anchor.decimal = .finite ctx.anchorPrice)
    (hrounds : rounds.decimal = .finite n) (hn : n ≠ 0)
    (hkept : ∀ q ∈ [ctx.priv.budgetSoft - ctx.anchorPrice,
      (ctx.priv.budgetSoft - ctx.anchorPrice) / n], kept q) :
    (arith.div (arith.minus asked.priv.budgetSoft anchor) rounds).decimal =
      .finite ((ctx.priv.budgetSoft - ctx.anchorPrice) / n) :=
  h.div _ _ _ _ (h.minus _ _ _ _ htracks.budgetSoft hanchor (hkept _ (by simp))) hrounds hn
    (hkept _ (by simp))

theorem LinearConcessionBuyer.onOffersReceived_exact (h : Precise arith kept)
    {config : LinearConcessionConfig} {config' : Exact.LinearConcessionConfig}
    (now : BuyerStrategyContext lib) (htracks : Tracks asked ctx)
    (hprice : TracksPrice arith asked ctx) (hoffers : TellsApart lib asked.currentOffers)
    (hminus : ExactMinus arith asked.currentOffers)
    (hrounds : (arith.ofNumber config.maxRounds).decimal = .finite config'.maxRounds)
    (hpos : config'.maxRounds ≠ 0)
    (hkept : let range := ctx.priv.budgetSoft - ctx.anchorPrice
      let step := range / config'.maxRounds
      ∀ q ∈ [range, step, step * ctx.round, ctx.anchorPrice + step * ctx.round], kept q) :
    ∃ action, LinearConcessionBuyer.onOffersReceived arith config asked now = .ok action ∧
      SameAction action (Exact.LinearConcessionBuyer.onOffersReceived config' ctx) := by
  obtain ⟨anchor, hvalue, hanchor⟩ := newValue_of_newDecimal hprice.anchorPrice
  refine acceptOrCounter_exact now htracks hoffers hminus ⟨_, by rw [hvalue]; rfl, ?_⟩
  have hstep := h.baseStep htracks hanchor hrounds hpos fun q hq => hkept q (by grind)
  exact h.climb hprice hanchor hstep fun q hq => hkept q (by grind)

/-- The competition counts the offers, whatever their prices. -/
theorem CompetitiveBuyer.onOffersReceived_exact (h : Precise arith kept)
    {config : CompetitiveBuyerConfig} {config' : Exact.CompetitiveBuyerConfig}
    (now : BuyerStrategyContext lib) (htracks : Tracks asked ctx)
    (hprice : TracksPrice arith asked ctx) (hoffers : TellsApart lib asked.currentOffers)
    (hminus : ExactMinus arith asked.currentOffers)
    (hrounds : (arith.ofNumber config.maxRounds).decimal = .finite config'.maxRounds)
    (hpos : config'.maxRounds ≠ 0)
    (hfactor : ∀ n, (arith.ofNumber (competitionFactor config n)).decimal =
      .finite (Exact.CompetitiveBuyer.competitionFactor config' n))
    (hkept : let range := ctx.priv.budgetSoft - ctx.anchorPrice
      let baseStep := range / config'.maxRounds
      let step := baseStep *
        Exact.CompetitiveBuyer.competitionFactor config' ctx.currentOffers.length
      ∀ q ∈ [range, baseStep, step, step * ctx.round, ctx.anchorPrice + step * ctx.round],
        kept q) :
    ∃ action, CompetitiveBuyer.onOffersReceived arith config asked now = .ok action ∧
      SameAction action (Exact.CompetitiveBuyer.onOffersReceived config' ctx) := by
  obtain ⟨anchor, hvalue, hanchor⟩ := newValue_of_newDecimal hprice.anchorPrice
  obtain ⟨sorted, hsorted, hperm, -⟩ := sortByPrice_exact arith hoffers
  have hcount : ctx.currentOffers.length = sorted.length := by
    rw [htracks.offers, List.length_map, hperm.length_eq]
  have hlength : (Exact.sortBy Exact.comparePrices ctx.currentOffers).length = sorted.length := by
    rw [Exact.sortBy, List.length_insertionSort, hcount]
  refine acceptOrCounter_exact now htracks hoffers hminus
    ⟨_, by rw [hsorted, ok_bind, hvalue]; rfl, ?_⟩
  rw [Exact.CompetitiveBuyer.newPrice, hlength]
  rw [hcount] at hkept
  have hbase := h.baseStep htracks hanchor hrounds hpos fun q hq => hkept q (by grind)
  have hstep := h.mul _ _ _ _ hbase (hfactor sorted.length) (hkept _ (by simp))
  exact h.climb hprice hanchor hstep fun q hq => hkept q (by grind)

theorem TimeWeightedBuyer.onOffersReceived_exact (h : Precise arith kept)
    {config : TimeWeightedConfig} {config' : Exact.TimeWeightedConfig}
    (now : BuyerStrategyContext lib) (htracks : Tracks asked ctx)
    (hprice : TracksPrice arith asked ctx) (hoffers : TellsApart lib asked.currentOffers)
    (hminus : ExactMinus arith asked.currentOffers)
    (hurgency : (arith.ofNumber (urgency config asked)).decimal =
      .finite (fl.toDecimal (Exact.TimeWeightedBuyer.urgency config' ctx).1))
    (hkept : let range := ctx.priv.budgetHard - ctx.anchorPrice
      let given := range * fl.toDecimal (Exact.TimeWeightedBuyer.urgency config' ctx).1
      ∀ q ∈ [range, given, ctx.anchorPrice + given], kept q) :
    ∃ action, TimeWeightedBuyer.onOffersReceived arith config asked now = .ok action ∧
      SameAction action (Exact.TimeWeightedBuyer.onOffersReceived config' ctx) := by
  obtain ⟨anchor, hvalue, hanchor⟩ := newValue_of_newDecimal hprice.anchorPrice
  refine acceptOrCounter_exact now htracks hoffers hminus ⟨_, by rw [hvalue]; rfl, ?_⟩
  have hrange := h.minus _ _ _ _ htracks.budgetHard hanchor (hkept _ (by simp))
  have hgiven := h.mul _ _ _ _ hrange hurgency (hkept _ (by simp))
  exact h.plus _ _ _ _ hanchor hgiven (hkept _ (by simp))

end Prices

/-! ### Sellers -/

section Sellers
variable {kept : ℚ → Prop} {asked : SellerStrategyContext lib} {ctx : Exact.SellerStrategyContext}

structure TracksSeller (arith : DecimalArithmetic lib) (asked : SellerStrategyContext lib)
    (ctx : Exact.SellerStrategyContext) : Prop where
  latestCounter : asked.latestCounter.isTruthy = ctx.latestCounter.isSome
  floorPrice : asked.priv.floorPrice.decimal = .finite ctx.priv.floorPrice
  targetPrice : asked.priv.targetPrice.decimal = .finite ctx.priv.targetPrice
  round : (arith.ofNumber (Float.ofNat asked.round)).decimal = .finite ctx.round
  competingSellers : asked.competingSellers = ctx.competingSellers

inductive SameConcession : SellerAction lib → Exact.SellerAction → Prop where
  | hold : SameConcession .hold .hold
  | counter {price : lib.Value} {p : ℚ} (hprice : price.decimal = .finite p) :
    SameConcession (.counter price) (.counter p)

/-- A rule concedes as with exact decimals, if it computes its price exactly. -/
theorem concede_exact {newPrice : SellerStrategyContext lib → lib.Value}
    {step : Exact.SellerStrategyContext → ℚ} (htracks : TracksSeller arith asked ctx)
    (hprice : (newPrice asked).decimal = .finite (ctx.priv.targetPrice - step ctx * ctx.round)) :
    SameConcession (concede newPrice asked) (Exact.concede step ctx) := by
  unfold concede Exact.concede
  rw [htracks.latestCounter, hprice, htracks.floorPrice]
  cases ctx.latestCounter with
  | none => exact .hold
  | some counter =>
    simp only [Option.isSome_some, if_true, finite_lte_iff]
    split_ifs
    · exact .counter htracks.floorPrice
    · exact .counter hprice

/-- `new Decimal` reads the numbers of the rules. -/
structure ReadsRates (arith : DecimalArithmetic lib) : Prop where
  firm : (arith.ofNumber FirmSeller.concessionRate).decimal = .finite (1 / 20)
  flexible : (arith.ofNumber FlexibleSeller.concessionRate).decimal = .finite (1 / 4)
  maxRounds : (arith.ofNumber CompetitiveSeller.maxRounds).decimal = .finite 5
  multiplier : ∀ n : ℕ, (arith.ofNumber (CompetitiveSeller.multiplier n)).decimal =
    .finite (if (n : ℚ) ≥ 2 then 3 / 2 else 1 / 2)

/-- `buildStrategy(style)` -/
def NegotiationStyle.rule : NegotiationStyle → Exact.RuleBasedSeller
  | firm => .firm
  | competitive => .competitive
  | flexible | deadlineSensitive => .flexible

/-- The results on the way to the price of a rule. -/
def priceResults (rule : Exact.RuleBasedSeller) (ctx : Exact.SellerStrategyContext) : List ℚ :=
  let range := ctx.priv.targetPrice - ctx.priv.floorPrice
  [range, range / 5, rule.step ctx, rule.step ctx * ctx.round,
    ctx.priv.targetPrice - rule.step ctx * ctx.round]

theorem Precise.concession (h : Precise arith kept) (htracks : TracksSeller arith asked ctx)
    {rule : Exact.RuleBasedSeller} {step : lib.Value}
    (hstep : step.decimal = .finite (rule.step ctx)) (hkept : ∀ q ∈ priceResults rule ctx, kept q) :
    (concession arith step asked).decimal =
      .finite (ctx.priv.targetPrice - rule.step ctx * ctx.round) :=
  h.minus _ _ _ _ htracks.targetPrice
    (h.mul _ _ _ _ hstep htracks.round (hkept _ (by simp [priceResults])))
    (hkept _ (by simp [priceResults]))

/-- Every style concedes as its rule with exact decimals. -/
theorem NegotiationStyle.onCounterReceived_exact (h : Precise arith kept)
    (hreads : ReadsRates arith) (htracks : TracksSeller arith asked ctx)
    (style : NegotiationStyle) (hkept : ∀ q ∈ priceResults style.rule ctx, kept q) :
    SameConcession (style.onCounterReceived arith asked)
      (style.rule.onCounterReceived ctx) := by
  have hrange : (range arith asked).decimal =
      .finite (ctx.priv.targetPrice - ctx.priv.floorPrice) :=
    h.minus _ _ _ _ htracks.targetPrice htracks.floorPrice (hkept _ (by simp [priceResults]))
  have hstep : kept (style.rule.step ctx) := hkept _ (by simp [priceResults])
  cases style with
  | firm =>
    exact concede_exact htracks
      (h.concession htracks (h.mul _ _ _ _ hrange hreads.firm hstep) hkept)
  | flexible =>
    exact concede_exact htracks
      (h.concession htracks (h.mul _ _ _ _ hrange hreads.flexible hstep) hkept)
  | deadlineSensitive =>
    exact concede_exact htracks
      (h.concession htracks (h.mul _ _ _ _ hrange hreads.flexible hstep) hkept)
  | competitive =>
    have hbase := h.div _ _ _ _ hrange hreads.maxRounds (by norm_num)
      (hkept _ (by simp [priceResults]))
    have hmultiplier := hreads.multiplier asked.competingSellers
    rw [htracks.competingSellers] at hmultiplier
    refine concede_exact htracks (h.concession htracks ?_ hkept)
    rw [htracks.competingSellers]
    exact h.mul _ _ _ _ hbase hmultiplier hstep

end Sellers

end GhostBazaar.Strategy
