import GhostBazaar.Agents.SellerOffers

/-! The quotes that a seller signs. -/
namespace GhostBazaar.Agents
open Js GhostBazaar.Core Strategy Transition
open Mcp.SellerTools (AtLeast maxOrMin_text_atLeast_iff)

variable {lib : DecimalLib}

/-- The engine serves a quote. -/
def SellerLabel.isQuote : SellerLabel lib → Bool
  | .quoteArrives .. => true
  | _ => false

namespace SellerAgent

variable {config : SellerAgentConfig lib} {a a' : SellerAgent lib}

theorem setTask_signingQuote {t u : SellerPollId} {task : SellerTask lib} {h : Handling}
    {quote : Json} (htask : task ≠ .signingQuote h quote)
    (hu : (a.setTask t task).task u = .signingQuote h quote) :
    a.task u = .signingQuote h quote := by
  rw [setTask_task] at hu
  split_ifs at hu
  · exact absurd hu htask
  · exact hu

theorem process_signingQuote {now : ℤ} {t u : SellerPollId} {events : List NegotiationEvent}
    {h : Handling} {quote : Json}
    (hu : (process config now t a events).task u = .signingQuote h quote) :
    a.task u = .signingQuote h quote := by
  have hmeet : ∀ seen event, ((a.skip seen).meet config event).task = a.task := by
    intro seen event
    unfold SellerAgent.meet
    split_ifs <;> rfl
  rcases process_cases config now t a events with
    ⟨-, hend⟩ | ⟨seen, event, rest, -, -, ⟨-, asked, hstop⟩ | ⟨-, hstop⟩⟩
  · rw [hend] at hu
    exact setTask_signingQuote (by simp) hu
  · rw [hstop] at hu
    exact hmeet seen event ▸ setTask_signingQuote (by simp) hu
  · rw [hstop] at hu
    exact hmeet seen event ▸ setTask_signingQuote (by simp) hu

theorem complete_signingQuote {b : SellerAgent lib} {now : ℤ} {t u : SellerPollId}
    {h k : Handling} {quote : Json}
    (hu : (complete config now t b k).task u = .signingQuote h quote) (hb : b.task = a.task) :
    a.task u = .signingQuote h quote := by
  rw [← hb]
  exact process_signingQuote (a := { b with handled := b.handled ++ [k.event] }) hu

/-- A poll comes to sign a quote when the engine serves it with the buyer's signature alone. -/
theorem step_signingQuote {label : SellerLabel lib} (hstep : step config a label = some a')
    {u : SellerPollId} {h : Handling} {quote : Json} (hu : a'.task u = .signingQuote h quote) :
    a.task u = .signingQuote h quote ∨
      isBuyerSigned quote = true ∧ ∃ now, label = .quoteArrives u quote now := by
  cases label with
  | append event =>
    simp only [SellerAgent.step] at hstep
    split_ifs at hstep
    cases hstep
    exact .inl hu
  | markSettled now | stop =>
    cases hstep
    exact .inl hu
  | respondToRfq t now =>
    cases ht : a.task t <;>
      simp only [SellerAgent.step, ht, reduceCtorEq, Option.some.injEq] at hstep
    subst hstep
    exact .inl (setTask_signingQuote (by simp) hu)
  | poll t =>
    cases ht : a.task t <;>
      simp only [SellerAgent.step, ht, reduceCtorEq, Option.some.injEq] at hstep
    subst hstep
    refine .inl (setTask_signingQuote ?_ hu)
    split_ifs <;> simp
  | eventsArrive t n now =>
    cases ht : a.task t <;>
      simp only [SellerAgent.step, ht, reduceCtorEq, Option.some.injEq] at hstep
    subst hstep
    exact .inl (process_signingQuote hu)
  | strategyAnswers t action offerId now =>
    cases ht : a.task t <;>
      simp only [SellerAgent.step, ht, reduceCtorEq, Option.some.injEq] at hstep
    all_goals
      subst hstep
      left
      cases action <;> simp only [sanitizeSellerAction, openOffer, react, sendOffer] at hu
    all_goals first
      | exact setTask_signingQuote (by simp) hu
      | exact complete_signingQuote hu rfl
  | offerSigned t signature =>
    cases ht : a.task t <;>
      simp only [SellerAgent.step, ht, reduceCtorEq, Option.some.injEq] at hstep
    subst hstep
    exact .inl (setTask_signingQuote (by simp) hu)
  | offerPosted t now =>
    cases ht : a.task t <;> simp only [SellerAgent.step, ht, reduceCtorEq] at hstep
    rename_i k offer
    cases k with
    | none =>
      cases hstep
      exact .inl (setTask_signingQuote (by simp) hu)
    | some k =>
      cases hstep
      exact .inl (complete_signingQuote hu rfl)
  | quoteArrives t arrived now =>
    cases ht : a.task t <;>
      simp only [SellerAgent.step, ht, reduceCtorEq, Option.some.injEq] at hstep
    subst hstep
    split_ifs at hu with hsigned
    · rw [setTask_task] at hu
      split_ifs at hu with hut
      · rw [SellerTask.signingQuote.injEq] at hu
        obtain ⟨-, rfl⟩ := hu
        exact .inr ⟨hsigned, now, by rw [hut]⟩
      · exact .inl hu
    · exact .inl (complete_signingQuote hu rfl)
  | quoteSigned t cosigned =>
    cases ht : a.task t <;>
      simp only [SellerAgent.step, ht, reduceCtorEq, Option.some.injEq] at hstep
    subst hstep
    exact .inl (setTask_signingQuote (by simp) hu)
  | cosigned t now =>
    cases ht : a.task t <;>
      simp only [SellerAgent.step, ht, reduceCtorEq, Option.some.injEq] at hstep
    subst hstep
    exact .inl (complete_signingQuote hu rfl)
  | fails t now =>
    cases ht : a.task t <;>
      simp only [SellerAgent.step, ht, reduceCtorEq, Option.some.injEq] at hstep
    case gettingQuote | signingQuote | cosigning =>
      subst hstep
      exact .inl (process_signingQuote hu)
    all_goals
      subst hstep
      exact .inl (setTask_signingQuote (by simp) hu)

/-- Every quote that a poll signs was served to that poll. -/
theorem signingQuote_served {a : SellerAgent lib} (ha : ∀ u h quote,
      a.task u ≠ .signingQuote h quote) (labels : List (SellerLabel lib)) {u : SellerPollId}
    {h : Handling} {quote : Json}
    (hu : (run (step config) a labels).task u = .signingQuote h quote) :
    isBuyerSigned quote = true ∧ ∃ before now after,
      labels = before ++ .quoteArrives u quote now :: after := by
  induction labels using List.reverseRecOn with
  | nil => exact absurd hu (ha u h quote)
  | append_singleton labels label ih =>
    rw [run_append, run_cons, run_nil, next] at hu
    have hold : (run (step config) a labels).task u = .signingQuote h quote →
        isBuyerSigned quote = true ∧ ∃ before now after,
          labels ++ [label] = before ++ .quoteArrives u quote now :: after := by
      intro hu
      obtain ⟨hsigned, before, now, after, rfl⟩ := ih hu
      exact ⟨hsigned, before, now, after ++ [label], by simp⟩
    cases hstep : step config (run (step config) a labels) label with
    | none =>
      rw [hstep, Option.getD_none] at hu
      exact hold hu
    | some a' =>
      rw [hstep, Option.getD_some] at hu
      rcases step_signingQuote hstep hu with hu | ⟨hsigned, now, rfl⟩
      · exact hold hu
      · exact ⟨hsigned, labels, now, [], rfl⟩

/-- The seller signs a quote without a look at its price. As long as the engine serves it quotes
of its own offers, what it signs is signed by the buyer, and is not below its floor unless a
price was no number. -/
theorem cosigned_keep_floor (config : SellerAgentConfig lib) (rfq : RFQ)
    (labels : List (SellerLabel lib))
    (hserved : ∀ before t quote now after, labels = before ++ .quoteArrives t quote now :: after →
      ∃ offer ∈ posted config (start rfq) before,
        quote.get? (js "final_price") = SellerOffer.price offer)
    (t : SellerPollId) (h : Handling) (quote : Json)
    (ht : (run (SellerAgent.step config) (start rfq) labels).task t = .signingQuote h quote) :
    JsValue.isTruthy (quote.get? (js "buyer_signature")) = true ∧
    ∃ u action offerId now, ∃ price : lib.Value,
      .strategyAnswers u action offerId now ∈ labels ∧ askedPrice action = some price ∧
      quote.get? (js "final_price") =
        some (.str (price.maxOrMin .lt config.priv.floorPrice).text) ∧
      (AtLeast lib (price.maxOrMin .lt config.priv.floorPrice).text
          config.priv.floorPrice.decimal ↔
        price.decimal ≠ .nan ∧ config.priv.floorPrice.decimal ≠ .nan) := by
  obtain ⟨hsigned, before, now, after, hlabels⟩ := signingQuote_served (by simp [start]) labels ht
  obtain ⟨offer, hoffer, hprice⟩ := hserved before t quote now after hlabels
  obtain ⟨offerId, signature, u, action, now', price, hmem, hasked, rfl⟩ :=
    (Offering.run config rfq before).sent offer hoffer
  refine ⟨?_, u, action, offerId, now', price, ?_, hasked, hprice,
    maxOrMin_text_atLeast_iff price config.priv.floorPrice⟩
  · simp only [isBuyerSigned, Bool.and_eq_true] at hsigned
    exact hsigned.1.2
  · rw [hlabels]
    exact List.mem_append_left _ hmem

def sampleQuoteReady : NegotiationEvent where
  eventId := .text (js "e2")
  rfqId := js "rfq-1"
  eventType := js "quote_ready"
  actor := js "did:buyer"
  payload := none
  timestamp := js "1970-01-01T00:00:00.000Z"

def sampleQuote : Json :=
  .obj [(js "final_price", .str (js "60")), (js "buyer_signature", .str (js "signature"))]

/-- The buyer takes the offer, and the seller is served a quote of its price. -/
def fetchingQuote : List (SellerLabel BuyerAgent.sampleLib) :=
  offering ++ [.append sampleQuoteReady, .poll 1, .eventsArrive 1 1 0]

theorem cosigned_keep_floor_sample :
    (∃ h, (run (step sampleSellerConfig) (start sampleRfq)
      (fetchingQuote ++ [.quoteArrives 1 sampleQuote 0])).task 1 = .signingQuote h sampleQuote) ∧
    ∃ price : BuyerAgent.sampleLib.Value, sampleQuote.get? (js "final_price") =
      some (.str (price.maxOrMin .lt sampleSellerConfig.priv.floorPrice).text) := by
  have hnone : (fetchingQuote.all fun label => !label.isQuote) = true := by decide +kernel
  have hposted : (posted sampleSellerConfig (start sampleRfq) fetchingQuote).any (fun offer =>
      decide (sampleQuote.get? (js "final_price") = SellerOffer.price offer)) = true := by
    decide +kernel
  have hlast : ∀ before t quote now after, fetchingQuote ++ [.quoteArrives 1 sampleQuote 0] =
      before ++ .quoteArrives t quote now :: after →
      fetchingQuote = before ∧ sampleQuote = quote := by
    intro before t quote now after h
    rcases List.eq_nil_or_concat after with rfl | ⟨after, last, rfl⟩
    · obtain ⟨hinit, hquote⟩ := List.append_inj' h rfl
      simp only [List.cons.injEq, SellerLabel.quoteArrives.injEq] at hquote
      exact ⟨hinit, hquote.1.2.1⟩
    · rw [List.concat_eq_append, ← List.cons_append, ← List.append_assoc] at h
      obtain ⟨hinit, -⟩ := List.append_inj' h rfl
      have hmem := List.all_eq_true.mp hnone (.quoteArrives t quote now) (by simp [hinit])
      cases hmem
  obtain ⟨h, ht⟩ : ∃ h, (run (step sampleSellerConfig) (start sampleRfq)
      (fetchingQuote ++ [.quoteArrives 1 sampleQuote 0])).task 1 = .signingQuote h sampleQuote :=
    ⟨⟨sampleQuoteReady, []⟩, rfl⟩
  obtain ⟨-, -, -, -, -, price, -, -, hprice, -⟩ := cosigned_keep_floor sampleSellerConfig sampleRfq
    _ (fun before t quote now after hlabels => by
      obtain ⟨rfl, rfl⟩ := hlast before t quote now after hlabels
      obtain ⟨offer, hoffer, hsame⟩ := List.any_eq_true.mp hposted
      exact ⟨offer, hoffer, of_decide_eq_true hsame⟩) 1 h sampleQuote ht
  exact ⟨⟨h, ht⟩, price, hprice⟩

end SellerAgent
end GhostBazaar.Agents
