import Mathlib.Data.List.Sort
import Mathlib.Data.Prod.Lex
import Mathlib.Order.RelClasses
import Mathlib.Tactic.Linarith
import GhostBazaar.Js.Text
import GhostBazaar.Sorting

/-! The offer that a buyer prefers, with a registry that says what is known of the sellers and
with exact decimals. -/
namespace GhostBazaar.Strategy.Exact
open Js

/-- An offer with the decimal `new Decimal(offer.price)`. -/
structure SellerOffer where
  offerId : JsString
  seller : JsString
  price : ℚ

structure SellerRegistrySignal where
  reputationScore : Option ℚ
  totalFeedbacks : ℚ

/-- What a name has in common with every object is no signal, so it finds none. -/
abbrev SellerRegistry := JsString → Option SellerRegistrySignal

def NEAR_TIE_THRESHOLD : ℚ := 1

/-- `signal?.reputationScore ?? -1` -/
def scoreOf (signal : Option SellerRegistrySignal) : ℚ :=
  (signal.bind SellerRegistrySignal.reputationScore).getD (-1)

/-- `signal?.totalFeedbacks ?? -1` -/
def feedbacksOf (signal : Option SellerRegistrySignal) : ℚ :=
  (signal.map SellerRegistrySignal.totalFeedbacks).getD (-1)

def compareSignals (sellerA sellerB : JsString) (sellerRegistry : SellerRegistry) : ℚ :=
  let signalA := sellerRegistry sellerA
  let signalB := sellerRegistry sellerB
  let scoreA := scoreOf signalA
  let scoreB := scoreOf signalB
  if scoreA ≠ scoreB then scoreB - scoreA
  else feedbacksOf signalB - feedbacksOf signalA

/-- `new Decimal(a.price).minus(new Decimal(b.price)).toNumber()`, whose sign a sort looks at. -/
def comparePrices (a b : SellerOffer) : ℚ := a.price - b.price

/-- The comparison of near ties. -/
def compareOffers (sellerRegistry : SellerRegistry) (a b : SellerOffer) : ℚ :=
  let signalCmp := compareSignals a.seller b.seller sellerRegistry
  if signalCmp ≠ 0 then signalCmp else comparePrices a b

/-- `[...offers].sort(cmp)`, which is stable. -/
def sortBy (cmp : SellerOffer → SellerOffer → ℚ) (offers : List SellerOffer) : List SellerOffer :=
  offers.insertionSort fun a b => cmp a b ≤ 0

/-- `none` for no offers, where the source throws. -/
def selectBestBuyerOffer (offers : List SellerOffer) (sellerRegistry : SellerRegistry) :
    Option SellerOffer :=
  match sortBy comparePrices offers with
  | [] => none
  | best :: rest =>
    let nearTies := (best :: rest).filter fun offer =>
      decide (offer.price - best.price ≤ NEAR_TIE_THRESHOLD)
    if nearTies.length ≤ 1 then some best
    else (sortBy (compareOffers sellerRegistry) nearTies).head?

def selectLowestPricedBuyerOffer (offers : List SellerOffer) : Option SellerOffer :=
  (sortBy comparePrices offers).head?

/-! ### The order of the offers -/

/-- Within 1.00 of the lowest price. -/
def NearLowest (offers : List SellerOffer) (offer : SellerOffer) : Prop :=
  ∀ other ∈ offers, offer.price ≤ other.price + NEAR_TIE_THRESHOLD

/-- A higher score, then more feedbacks, then a lower price. -/
def Beats (sellerRegistry : SellerRegistry) (a b : SellerOffer) : Prop :=
  let scoreA := scoreOf (sellerRegistry a.seller)
  let scoreB := scoreOf (sellerRegistry b.seller)
  let feedbacksA := feedbacksOf (sellerRegistry a.seller)
  let feedbacksB := feedbacksOf (sellerRegistry b.seller)
  scoreB < scoreA ∨ scoreA = scoreB ∧
    (feedbacksB < feedbacksA ∨ feedbacksA = feedbacksB ∧ a.price < b.price)

/-- Equal in everything that the order looks at. -/
structure SameRank (sellerRegistry : SellerRegistry) (a b : SellerOffer) : Prop where
  score : scoreOf (sellerRegistry a.seller) = scoreOf (sellerRegistry b.seller)
  feedbacks : feedbacksOf (sellerRegistry a.seller) = feedbacksOf (sellerRegistry b.seller)
  price : a.price = b.price

/-- The place of an offer in the order, the best one lowest. -/
def rank (sellerRegistry : SellerRegistry) (offer : SellerOffer) : ℚ ×ₗ ℚ ×ₗ ℚ :=
  toLex (-scoreOf (sellerRegistry offer.seller),
    toLex (-feedbacksOf (sellerRegistry offer.seller), offer.price))

variable {sellerRegistry : SellerRegistry} {offers : List SellerOffer}

theorem rank_lt_iff (a b : SellerOffer) :
    rank sellerRegistry a < rank sellerRegistry b ↔ Beats sellerRegistry a b := by
  unfold rank Beats
  simp only [Prod.Lex.toLex_lt_toLex, neg_lt_neg_iff, neg_inj]

theorem rank_eq_iff (a b : SellerOffer) :
    rank sellerRegistry a = rank sellerRegistry b ↔ SameRank sellerRegistry a b := by
  unfold rank
  simp only [toLex_inj, Prod.mk.injEq, neg_inj]
  exact ⟨fun ⟨hscore, hfeedbacks, hprice⟩ => ⟨hscore, hfeedbacks, hprice⟩,
    fun h => ⟨h.score, h.feedbacks, h.price⟩⟩

theorem comparePrices_le_zero (a b : SellerOffer) : comparePrices a b ≤ 0 ↔ a.price ≤ b.price :=
  sub_nonpos

theorem compareSignals_le_zero (a b : JsString) :
    compareSignals a b sellerRegistry ≤ 0 ↔
      scoreOf (sellerRegistry b) < scoreOf (sellerRegistry a) ∨
        scoreOf (sellerRegistry a) = scoreOf (sellerRegistry b) ∧
          feedbacksOf (sellerRegistry b) ≤ feedbacksOf (sellerRegistry a) := by
  unfold compareSignals
  dsimp only
  split_ifs with hscore
  · rw [sub_nonpos, le_iff_lt_or_eq]
    constructor
    · rintro (hlt | heq)
      · exact Or.inl hlt
      · exact absurd heq.symm hscore
    · rintro (hlt | ⟨heq, -⟩)
      · exact Or.inl hlt
      · exact absurd heq hscore
  · rw [not_not] at hscore
    rw [sub_nonpos, hscore]
    simp

theorem compareSignals_eq_zero (a b : JsString) :
    compareSignals a b sellerRegistry = 0 ↔
      scoreOf (sellerRegistry a) = scoreOf (sellerRegistry b) ∧
        feedbacksOf (sellerRegistry a) = feedbacksOf (sellerRegistry b) := by
  unfold compareSignals
  dsimp only
  split_ifs with hscore
  · rw [sub_eq_zero]
    constructor
    · exact fun heq => absurd heq.symm hscore
    · exact fun heq => absurd heq.1 hscore
  · rw [not_not] at hscore
    rw [sub_eq_zero, eq_comm]
    exact (and_iff_right hscore).symm

/-- The comparison of near ties is that of their ranks, so it is a total preorder. -/
theorem compareOffers_le_zero (a b : SellerOffer) : compareOffers sellerRegistry a b ≤ 0 ↔
    rank sellerRegistry a ≤ rank sellerRegistry b := by
  unfold compareOffers rank
  simp only [Prod.Lex.toLex_le_toLex, neg_lt_neg_iff, neg_inj]
  split_ifs with hsignal
  · rw [compareSignals_le_zero, le_iff_lt_or_eq]
    rw [ne_eq, compareSignals_eq_zero] at hsignal
    constructor
    · rintro (hscore | ⟨hscore, hfeedbacks | hfeedbacks⟩)
      · exact Or.inl hscore
      · exact Or.inr ⟨hscore, Or.inl hfeedbacks⟩
      · exact absurd ⟨hscore, hfeedbacks.symm⟩ hsignal
    · rintro (hscore | ⟨hscore, hfeedbacks | ⟨hfeedbacks, -⟩⟩)
      · exact Or.inl hscore
      · exact Or.inr ⟨hscore, Or.inl hfeedbacks⟩
      · exact absurd ⟨hscore, hfeedbacks⟩ hsignal
  · rw [not_not, compareSignals_eq_zero] at hsignal
    rw [comparePrices_le_zero, hsignal.1, hsignal.2]
    simp

/-! ### The choice -/

theorem lowest_of_sorted {best : SellerOffer} {rest : List SellerOffer}
    (h : sortBy comparePrices offers = best :: rest) :
    best ∈ offers ∧ ∀ other ∈ offers, best.price ≤ other.price :=
  ⟨Sorting.head_mem h, Sorting.key_head_le (fun a _ b _ => comparePrices_le_zero a b) h⟩

theorem nearLowest_iff {best : SellerOffer} (hbest : best ∈ offers)
    (hlowest : ∀ other ∈ offers, best.price ≤ other.price) (offer : SellerOffer) :
    NearLowest offers offer ↔ offer.price - best.price ≤ NEAR_TIE_THRESHOLD := by
  constructor
  · intro hnear
    linarith [hnear best hbest]
  · intro hle other hother
    linarith [hlowest other hother]

/-- What is chosen has the lowest rank of the near ties. -/
theorem selectBestBuyerOffer_rank {chosen : SellerOffer}
    (h : selectBestBuyerOffer offers sellerRegistry = some chosen) :
    chosen ∈ offers ∧ NearLowest offers chosen ∧ ∀ offer ∈ offers, NearLowest offers offer →
      rank sellerRegistry chosen ≤ rank sellerRegistry offer := by
  unfold selectBestBuyerOffer at h
  cases hsorted : sortBy comparePrices offers with
  | nil =>
    rw [hsorted] at h
    cases h
  | cons best rest =>
    simp only [hsorted] at h
    obtain ⟨hbest, hlowest⟩ := lowest_of_sorted hsorted
    have hmem : ∀ offer, offer ∈ (best :: rest).filter (fun offer =>
        decide (offer.price - best.price ≤ NEAR_TIE_THRESHOLD)) ↔
          offer ∈ offers ∧ NearLowest offers offer := by
      intro offer
      rw [List.mem_filter, decide_eq_true_eq, nearLowest_iff hbest hlowest, ← hsorted]
      unfold sortBy
      rw [List.mem_insertionSort]
    generalize (best :: rest).filter _ = nearTies at h hmem
    split_ifs at h with hfew
    · obtain rfl := Option.some.inj h
      have hnear : NearLowest offers best := by
        rw [nearLowest_iff hbest hlowest, sub_self]
        exact zero_le_one
      refine ⟨hbest, hnear, ?_⟩
      intro offer hoffer hnear'
      have hone : nearTies = [best] := by
        obtain ⟨only, honly⟩ := List.length_eq_one_iff.mp
          (le_antisymm hfew (List.length_pos_of_mem ((hmem best).mpr ⟨hbest, hnear⟩)))
        have hthis := (hmem best).mpr ⟨hbest, hnear⟩
        rw [honly, List.mem_singleton] at hthis
        rw [honly, hthis]
      have hthis := (hmem offer).mpr ⟨hoffer, hnear'⟩
      rw [hone, List.mem_singleton] at hthis
      rw [hthis]
    · obtain ⟨others, hranked⟩ := List.head?_eq_some_iff.mp h
      have hleast := Sorting.key_head_le (fun a _ b _ => compareOffers_le_zero a b) hranked
      obtain ⟨hoffers, hnear⟩ := (hmem chosen).mp (Sorting.head_mem hranked)
      exact ⟨hoffers, hnear, fun offer hoffer hnear' => hleast offer ((hmem offer).mpr
        ⟨hoffer, hnear'⟩)⟩

theorem selectBestBuyerOffer_isSome (sellerRegistry : SellerRegistry) (h : offers ≠ []) :
    ∃ chosen, selectBestBuyerOffer offers sellerRegistry = some chosen := by
  obtain ⟨best, rest, hsorted⟩ :=
    Sorting.exists_head_of_ne_nil (fun a b => comparePrices a b ≤ 0) h
  unfold selectBestBuyerOffer
  simp only [sortBy, hsorted]
  split_ifs with hfew
  · exact ⟨best, rfl⟩
  · generalize (best :: rest).filter _ = nearTies at hfew ⊢
    have hties : nearTies ≠ [] := by
      intro hnil
      rw [hnil, List.length_nil] at hfew
      omega
    obtain ⟨chosen, others, hranked⟩ :=
      Sorting.exists_head_of_ne_nil (fun a b => compareOffers sellerRegistry a b ≤ 0) hties
    exact ⟨chosen, by rw [hranked, List.head?_cons]⟩

/-- The chosen offer is near the lowest price, no near tie beats it, and the order of the offers
decides between equals only. -/
theorem selectBestBuyerOffer_best (sellerRegistry : SellerRegistry) (h : offers ≠ []) :
    ∃ chosen ∈ offers, selectBestBuyerOffer offers sellerRegistry = some chosen ∧
      NearLowest offers chosen ∧
      (∀ other ∈ offers, NearLowest offers other → ¬ Beats sellerRegistry other chosen) ∧
      ∀ permuted : List SellerOffer, permuted.Perm offers → ∃ chosen',
        selectBestBuyerOffer permuted sellerRegistry = some chosen' ∧
          SameRank sellerRegistry chosen' chosen := by
  obtain ⟨chosen, hchosen⟩ := selectBestBuyerOffer_isSome sellerRegistry h
  obtain ⟨hmem, hnear, hleast⟩ := selectBestBuyerOffer_rank hchosen
  refine ⟨chosen, hmem, hchosen, hnear, ?_, ?_⟩
  · intro other hother hnear' hbeats
    exact absurd ((rank_lt_iff other chosen).mpr hbeats) (not_lt.mpr (hleast other hother hnear'))
  · intro permuted hperm
    have hne : permuted ≠ [] := fun hnil => h (hnil ▸ hperm).symm.eq_nil
    obtain ⟨chosen', hchosen'⟩ := selectBestBuyerOffer_isSome sellerRegistry hne
    obtain ⟨hmem', hnear', hleast'⟩ := selectBestBuyerOffer_rank hchosen'
    have hsame : ∀ offer, NearLowest permuted offer ↔ NearLowest offers offer := fun offer =>
      forall_congr' fun other => by rw [hperm.mem_iff]
    refine ⟨chosen', hchosen', ?_⟩
    rw [← rank_eq_iff]
    apply le_antisymm
    · exact hleast' chosen (hperm.mem_iff.mpr hmem) ((hsame chosen).mpr hnear)
    · exact hleast chosen' (hperm.mem_iff.mp hmem') ((hsame chosen').mp hnear')

/-- A rated seller is preferred to a cheaper one that nobody knows. -/
theorem selectBestBuyerOffer_best_rated :
    let offers : List SellerOffer := [⟨js "o1", js "unknown", 19 / 2⟩, ⟨js "o2", js "rated", 10⟩]
    let registry : SellerRegistry := fun s => if s = js "rated" then some ⟨some 4, 7⟩ else none
    ∃ chosen ∈ offers, selectBestBuyerOffer offers registry = some chosen ∧
      chosen.offerId = js "o2" := by
  intro offers registry
  obtain ⟨chosen, hmem, hchosen, -, hbest, -⟩ :=
    @selectBestBuyerOffer_best offers registry (List.cons_ne_nil _ _)
  refine ⟨chosen, hmem, hchosen, ?_⟩
  simp only [offers, List.mem_cons, List.not_mem_nil, or_false] at hmem
  rcases hmem with rfl | rfl
  · -- The offer without a rating is beaten by the other one.
    have hnot := hbest ⟨js "o2", js "rated", 10⟩ (by simp [offers])
      (by norm_num [offers, NearLowest, NEAR_TIE_THRESHOLD])
    have hrated : registry (js "rated") = some ⟨some 4, 7⟩ := if_pos rfl
    have hunknown : registry (js "unknown") = none := if_neg (by decide)
    exact absurd (by norm_num [Beats, hrated, hunknown, scoreOf]) hnot
  · rfl

end GhostBazaar.Strategy.Exact
