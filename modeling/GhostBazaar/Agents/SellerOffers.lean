import GhostBazaar.Agents.SellerRetries
import GhostBazaar.Mcp.SellerFloor

/-! The offers that a seller sends to the engine, against the prices that its strategy answered
and against its floor. -/
namespace GhostBazaar.Agents
open Js GhostBazaar.Core Strategy Transition
open Mcp.SellerTools (AtLeast maxOrMin_text_atLeast_iff)

variable {lib : DecimalLib}

/-- The price of an action, before it is sanitized. -/
def askedPrice : SellerAction lib → Option lib.Value
  | .respond price | .counter price => some price
  | .hold | .decline => none

/-- The ids drawn for the offers, one for each answer of the strategy. -/
def SellerLabel.offerId : SellerLabel lib → Option JsString
  | .strategyAnswers _ _ offerId _ => some offerId
  | _ => none

def SellerTask.HasNoOffer (task : SellerTask lib) : Prop :=
  ∀ h offer, task ≠ .signingOffer h offer ∧ task ≠ .postingOffer h offer

namespace SellerAgent

variable {config : SellerAgentConfig lib} {a a' : SellerAgent lib}

/-- The offer that a step posts. -/
def posts (a : SellerAgent lib) : SellerLabel lib → Option SellerOffer
  | .offerSigned t signature =>
    match a.task t with
    | .signingOffer _ offer => some (addSignature signature offer)
    | _ => none
  | _ => none

/-- The offers that a run posts, in their order. -/
def posted (config : SellerAgentConfig lib) :
    SellerAgent lib → List (SellerLabel lib) → List SellerOffer
  | _, [] => []
  | a, i :: is => (a.posts i).toList ++ posted config (next (step config) a i) is

theorem posted_append_singleton (a : SellerAgent lib) (is : List (SellerLabel lib))
    (i : SellerLabel lib) :
    posted config a (is ++ [i]) =
      posted config a is ++ ((run (step config) a is).posts i).toList := by
  induction is generalizing a with
  | nil => simp [posted]
  | cons j is ih =>
    rw [List.cons_append, posted, ih, posted, run_cons, List.append_assoc]

theorem posts_of_step_none {label : SellerLabel lib} (hstep : step config a label = none) :
    a.posts label = none := by
  cases label with
  | offerSigned t signature =>
    cases ht : a.task t <;> simp [SellerAgent.step, posts, ht] at hstep ⊢
  | _ => rfl

/-! ### What a step does about offers -/

/-- The offers stay as they are, but for those that are given up. -/
structure KeepsOffers (a a' : SellerAgent lib) : Prop where
  rfqId : a'.session.rfqId = a.session.rfqId
  rfq : a'.session.rfq = a.session.rfq
  ownOffers : a'.session.ownOffers = a.session.ownOffers
  task : ∀ u, a'.task u = a.task u ∨ SellerTask.HasNoOffer (a'.task u)

theorem KeepsOffers.refl (a : SellerAgent lib) : KeepsOffers a a :=
  ⟨rfl, rfl, rfl, fun _ => .inl rfl⟩

theorem KeepsOffers.setTask {b : SellerAgent lib} (h : KeepsOffers a b) (t : SellerPollId)
    {task : SellerTask lib} (htask : SellerTask.HasNoOffer task) :
    KeepsOffers a (b.setTask t task) where
  rfqId := h.rfqId
  rfq := h.rfq
  ownOffers := h.ownOffers
  task u := by
    rw [setTask_task]
    split_ifs
    · exact .inr htask
    · exact h.task u

theorem foldl_receive_keeps (s : SellerAgentSession) (seen : List NegotiationEvent) :
    (seen.foldl receive s).rfqId = s.rfqId ∧ (seen.foldl receive s).rfq = s.rfq ∧
      (seen.foldl receive s).ownOffers = s.ownOffers := by
  induction seen generalizing s with
  | nil => exact ⟨rfl, rfl, rfl⟩
  | cons event seen ih => exact ih (receive s event)

theorem KeepsOffers.skip {b : SellerAgent lib} (h : KeepsOffers a b)
    (seen : List NegotiationEvent) : KeepsOffers a (b.skip seen) := by
  obtain ⟨hrfqId, hrfq, hown⟩ := foldl_receive_keeps b.session seen
  exact ⟨hrfqId.trans h.rfqId, hrfq.trans h.rfq, hown.trans h.ownOffers, h.task⟩

theorem KeepsOffers.meet {b : SellerAgent lib} (h : KeepsOffers a b) (event : NegotiationEvent) :
    KeepsOffers a (b.meet config event) := by
  unfold SellerAgent.meet
  split_ifs <;> exact ⟨h.rfqId, h.rfq, h.ownOffers, h.task⟩

/-- The loop over the events sends nothing by itself. -/
theorem KeepsOffers.process {b : SellerAgent lib} (h : KeepsOffers a b) (now : ℤ)
    (t : SellerPollId) (events : List NegotiationEvent) :
    KeepsOffers a (process config now t b events) := by
  rcases process_cases config now t b events with
    ⟨-, hend⟩ | ⟨seen, event, rest, -, -, ⟨-, asked, hstop⟩ | ⟨-, hstop⟩⟩
  · rw [hend]
    exact (h.skip events).setTask t (by simp [SellerTask.HasNoOffer])
  · rw [hstop]
    exact ((h.skip seen).meet event).setTask t (by simp [SellerTask.HasNoOffer])
  · rw [hstop]
    exact ((h.skip seen).meet event).setTask t (by simp [SellerTask.HasNoOffer])

theorem KeepsOffers.complete {b : SellerAgent lib} (h : KeepsOffers a b) (now : ℤ)
    (t : SellerPollId) (handling : Handling) :
    KeepsOffers a (complete config now t b handling) := by
  unfold SellerAgent.complete
  apply KeepsOffers.process
  exact ⟨h.rfqId, h.rfq, h.ownOffers, h.task⟩

/-- What a step can do about offers. -/
inductive OfferMove (config : SellerAgentConfig lib) (a : SellerAgent lib) :
    SellerLabel lib → SellerAgent lib → Prop
  | keeps {label : SellerLabel lib} {a' : SellerAgent lib} (h : KeepsOffers a a')
    (hposts : a.posts label = none) : OfferMove config a label a'
  | makes (t : SellerPollId) (action : SellerAction lib) (offerId : JsString) (now : ℤ)
    (h : Option Handling) (price : lib.Value) (hprice : askedPrice action = some price) :
    OfferMove config a (.strategyAnswers t action offerId now)
      (sendOffer config t a h (price.maxOrMin .lt config.priv.floorPrice) offerId)
  | signs (t : SellerPollId) (signature : JsString) (h : Option Handling) (offer : SellerOffer)
    (ht : a.task t = .signingOffer h offer) :
    OfferMove config a (.offerSigned t signature)
      (a.setTask t (.postingOffer h (addSignature signature offer)))
  | records (t : SellerPollId) (now : ℤ) (h : Option Handling) (offer : SellerOffer)
    {a' : SellerAgent lib} (ht : a.task t = .postingOffer h offer)
    (hkeeps : KeepsOffers
      { a with session := { a.session with ownOffers := a.session.ownOffers ++ [offer] } } a') :
    OfferMove config a (.offerPosted t now) a'

theorem OfferMove.strategyAnswers {t : SellerPollId} {action : SellerAction lib}
    {offerId : JsString} {now : ℤ}
    (hstep : step config a (.strategyAnswers t action offerId now) = some a') :
    OfferMove config a (.strategyAnswers t action offerId now) a' := by
  unfold SellerAgent.step at hstep
  cases ht : a.task t <;> simp only [ht, reduceCtorEq, Option.some.injEq] at hstep
  case opening asked =>
    subst hstep
    cases action with
    | respond price => exact .makes t _ offerId now none price rfl
    | counter price =>
      exact .keeps ((KeepsOffers.refl a).setTask t (by simp [SellerTask.HasNoOffer])) rfl
    | hold => exact .keeps ((KeepsOffers.refl a).setTask t (by simp [SellerTask.HasNoOffer])) rfl
    | decline =>
      have hkeeps : KeepsOffers a { a with session := { a.session with stopped := true } } :=
        ⟨rfl, rfl, rfl, fun _ => .inl rfl⟩
      exact .keeps (hkeeps.setTask t (by simp [SellerTask.HasNoOffer])) rfl
  case deciding h asked =>
    subst hstep
    cases action with
    | respond price => exact .makes t _ offerId now (some h) price rfl
    | counter price => exact .makes t _ offerId now (some h) price rfl
    | hold => exact .keeps ((KeepsOffers.refl a).complete now t h) rfl
    | decline =>
      have hkeeps : KeepsOffers a { a with session := { a.session with stopped := true } } :=
        ⟨rfl, rfl, rfl, fun _ => .inl rfl⟩
      exact .keeps (hkeeps.complete now t h) rfl

theorem step_offerMove {label : SellerLabel lib} (hstep : step config a label = some a') :
    OfferMove config a label a' := by
  cases label with
  | strategyAnswers t action offerId now => exact .strategyAnswers hstep
  | append event =>
    simp only [SellerAgent.step] at hstep
    split_ifs at hstep
    cases hstep
    exact .keeps ⟨rfl, rfl, rfl, fun _ => .inl rfl⟩ rfl
  | respondToRfq t now =>
    cases ht : a.task t <;>
      simp only [SellerAgent.step, ht, reduceCtorEq, Option.some.injEq] at hstep
    subst hstep
    exact .keeps ((KeepsOffers.refl a).setTask t (by simp [SellerTask.HasNoOffer])) rfl
  | poll t =>
    cases ht : a.task t <;>
      simp only [SellerAgent.step, ht, reduceCtorEq, Option.some.injEq] at hstep
    subst hstep
    refine .keeps ((KeepsOffers.refl a).setTask t ?_) rfl
    split_ifs <;> simp [SellerTask.HasNoOffer]
  | eventsArrive t n now =>
    cases ht : a.task t <;>
      simp only [SellerAgent.step, ht, reduceCtorEq, Option.some.injEq] at hstep
    subst hstep
    exact .keeps ((KeepsOffers.refl a).process now t _) rfl
  | offerSigned t signature =>
    cases ht : a.task t <;>
      simp only [SellerAgent.step, ht, reduceCtorEq, Option.some.injEq] at hstep
    subst hstep
    exact .signs t signature _ _ ht
  | offerPosted t now =>
    cases ht : a.task t <;> simp only [SellerAgent.step, ht, reduceCtorEq] at hstep
    rename_i h offer
    refine .records t now h offer ht ?_
    cases h with
    | none =>
      cases hstep
      exact (KeepsOffers.refl _).setTask t (by simp [SellerTask.HasNoOffer])
    | some h =>
      cases hstep
      exact (KeepsOffers.refl _).complete now t h
  | quoteArrives t quote now =>
    cases ht : a.task t <;>
      simp only [SellerAgent.step, ht, reduceCtorEq, Option.some.injEq] at hstep
    subst hstep
    split_ifs
    · exact .keeps ((KeepsOffers.refl a).setTask t (by simp [SellerTask.HasNoOffer])) rfl
    · exact .keeps ((KeepsOffers.refl a).complete now t _) rfl
  | quoteSigned t cosigned =>
    cases ht : a.task t <;>
      simp only [SellerAgent.step, ht, reduceCtorEq, Option.some.injEq] at hstep
    subst hstep
    exact .keeps ((KeepsOffers.refl a).setTask t (by simp [SellerTask.HasNoOffer])) rfl
  | cosigned t now =>
    cases ht : a.task t <;>
      simp only [SellerAgent.step, ht, reduceCtorEq, Option.some.injEq] at hstep
    rename_i h cosigned
    subst hstep
    have hkeeps : KeepsOffers a
        { a with session := { a.session with quote := some cosigned } } :=
      ⟨rfl, rfl, rfl, fun _ => .inl rfl⟩
    exact .keeps (hkeeps.complete now t h) rfl
  | fails t now =>
    cases ht : a.task t <;>
      simp only [SellerAgent.step, ht, reduceCtorEq, Option.some.injEq] at hstep
    case gettingQuote | signingQuote | cosigning =>
      subst hstep
      exact .keeps ((KeepsOffers.refl a).process now t _) rfl
    all_goals
      subst hstep
      exact .keeps ((KeepsOffers.refl a).setTask t (by simp [SellerTask.HasNoOffer])) rfl
  | markSettled now =>
    cases hstep
    exact .keeps ⟨rfl, rfl, rfl, fun _ => .inl rfl⟩ rfl
  | stop =>
    cases hstep
    exact .keeps ⟨rfl, rfl, rfl, fun _ => .inl rfl⟩ rfl

/-! ### Offers and prices -/

/-- The offer answers a price of the strategy with an offer of this seller on this RFQ, at the
larger of that price and the floor. -/
structure Answers (config : SellerAgentConfig lib) (rfq : RFQ) (labels : List (SellerLabel lib))
    (offerId signature : JsString) (offer : SellerOffer) : Prop where
  asked : ∃ t action now price, .strategyAnswers t action offerId now ∈ labels ∧
    askedPrice action = some price ∧ offer = newOffer config (newSession rfq) offerId
      (price.maxOrMin .lt config.priv.floorPrice) signature

theorem Answers.mono {rfq : RFQ} {labels : List (SellerLabel lib)} {offerId signature : JsString}
    {offer : SellerOffer} (h : Answers config rfq labels offerId signature offer)
    (label : SellerLabel lib) :
    Answers config rfq (labels ++ [label]) offerId signature offer := by
  obtain ⟨t, action, now, price, hmem, hoffer⟩ := h.asked
  exact ⟨t, action, now, price, List.mem_append_left _ hmem, hoffer⟩

theorem addSignature_newOffer (s : SellerAgentSession) (offerId signature signature' : JsString)
    (price : lib.Value) :
    addSignature signature' (newOffer config s offerId price signature) =
      newOffer config s offerId price signature' := by
  have hkeys : ∀ key ∈ [js "offer_id", js "rfq_id", js "seller", js "listing_id", js "price",
      js "currency", js "valid_until"], key ≠ js "signature" := by decide +kernel
  simp only [List.forall_mem_cons] at hkeys
  obtain ⟨h₁, h₂, h₃, h₄, h₅, h₆, h₇, -⟩ := hkeys
  simp [addSignature, newOffer, h₁, h₂, h₃, h₄, h₅, h₆, h₇]

theorem Answers.addSignature {rfq : RFQ} {labels : List (SellerLabel lib)}
    {offerId signature : JsString} {offer : SellerOffer}
    (h : Answers config rfq labels offerId signature offer) (signature' : JsString) :
    Answers config rfq labels offerId signature' (addSignature signature' offer) := by
  obtain ⟨t, action, now, price, hmem, hprice, rfl⟩ := h.asked
  exact ⟨t, action, now, price, hmem, hprice, addSignature_newOffer _ _ _ _ _⟩

theorem Answers.offerId {rfq : RFQ} {labels : List (SellerLabel lib)}
    {offerId signature : JsString} {offer : SellerOffer}
    (h : Answers config rfq labels offerId signature offer) :
    offer.offerId = some (.str offerId) := by
  obtain ⟨t, action, now, price, -, -, rfl⟩ := h.asked
  rfl

theorem Answers.mem_offerIds {rfq : RFQ} {labels : List (SellerLabel lib)}
    {offerId signature : JsString} {offer : SellerOffer}
    (h : Answers config rfq labels offerId signature offer) :
    offerId ∈ labels.filterMap SellerLabel.offerId := by
  obtain ⟨t, action, now, price, hmem, -⟩ := h.asked
  exact List.mem_filterMap.mpr ⟨_, hmem, rfl⟩

/-- What the agent holds after a run, beside the offers that the run has posted. -/
structure Offering (config : SellerAgentConfig lib) (rfq : RFQ) (labels : List (SellerLabel lib))
    (sent : List SellerOffer) (a : SellerAgent lib) : Prop where
  rfqId : a.session.rfqId = rfq.rfqId
  sameRfq : a.session.rfq = rfq
  signing : ∀ t h offer, a.task t = .signingOffer h offer →
    ∃ offerId, Answers config rfq labels offerId (js "") offer
  posting : ∀ t h offer, a.task t = .postingOffer h offer → offer ∈ sent
  own : ∀ offer ∈ a.session.ownOffers, offer ∈ sent
  sent : ∀ offer ∈ sent, ∃ offerId signature, Answers config rfq labels offerId signature offer

variable {rfq : RFQ} {labels : List (SellerLabel lib)} {sent : List SellerOffer}

theorem Offering.start (config : SellerAgentConfig lib) (rfq : RFQ) :
    Offering config rfq [] [] (start rfq : SellerAgent lib) where
  rfqId := rfl
  sameRfq := rfl
  signing := by simp [SellerAgent.start]
  posting := by simp [SellerAgent.start]
  own := by simp [SellerAgent.start, newSession]
  sent := by simp

theorem Offering.keeps (h : Offering config rfq labels sent a) (hkeeps : KeepsOffers a a')
    (label : SellerLabel lib) : Offering config rfq (labels ++ [label]) sent a' where
  rfqId := hkeeps.rfqId.trans h.rfqId
  sameRfq := hkeeps.rfq.trans h.sameRfq
  signing t k offer ht := by
    rcases hkeeps.task t with hsame | hnone
    · obtain ⟨offerId, hanswers⟩ := h.signing t k offer (hsame ▸ ht)
      exact ⟨offerId, hanswers.mono label⟩
    · exact absurd ht (hnone k offer).1
  posting t k offer ht := by
    rcases hkeeps.task t with hsame | hnone
    · exact h.posting t k offer (hsame ▸ ht)
    · exact absurd ht (hnone k offer).2
  own := by
    rw [hkeeps.ownOffers]
    exact h.own
  sent offer hoffer := by
    obtain ⟨offerId, signature, hanswers⟩ := h.sent offer hoffer
    exact ⟨offerId, signature, hanswers.mono label⟩

theorem Offering.makes (h : Offering config rfq labels sent a) {t : SellerPollId}
    {action : SellerAction lib} {offerId : JsString} {now : ℤ} (k : Option Handling)
    {price : lib.Value} (hprice : askedPrice action = some price) :
    Offering config rfq (labels ++ [.strategyAnswers t action offerId now]) sent
      (sendOffer config t a k (price.maxOrMin .lt config.priv.floorPrice) offerId) where
  rfqId := h.rfqId
  sameRfq := h.sameRfq
  signing u k' offer hu := by
    unfold sendOffer at hu
    rw [setTask_task] at hu
    split_ifs at hu
    · rw [SellerTask.signingOffer.injEq] at hu
      refine ⟨offerId, t, action, now, price, List.mem_append_right _ (by simp), hprice, ?_⟩
      rw [← hu.2]
      simp only [newOffer, h.rfqId, h.sameRfq, newSession]
    · obtain ⟨other, hanswers⟩ := h.signing u k' offer hu
      exact ⟨other, hanswers.mono _⟩
  posting u k' offer hu := by
    unfold sendOffer at hu
    rw [setTask_task] at hu
    split_ifs at hu
    exact h.posting u k' offer hu
  own := h.own
  sent offer hoffer := by
    obtain ⟨other, signature, hanswers⟩ := h.sent offer hoffer
    exact ⟨other, signature, hanswers.mono _⟩

theorem Offering.signs (h : Offering config rfq labels sent a) {t : SellerPollId}
    (signature : JsString) {k : Option Handling} {offer : SellerOffer}
    (ht : a.task t = .signingOffer k offer) :
    Offering config rfq (labels ++ [.offerSigned t signature])
      (sent ++ [SellerAgent.addSignature signature offer])
      (a.setTask t (.postingOffer k (SellerAgent.addSignature signature offer))) where
  rfqId := h.rfqId
  sameRfq := h.sameRfq
  signing u k' other hu := by
    rw [setTask_task] at hu
    split_ifs at hu
    obtain ⟨offerId, hanswers⟩ := h.signing u k' other hu
    exact ⟨offerId, hanswers.mono _⟩
  posting u k' other hu := by
    rw [setTask_task] at hu
    split_ifs at hu
    · rw [SellerTask.postingOffer.injEq] at hu
      simp [← hu.2]
    · exact List.mem_append_left _ (h.posting u k' other hu)
  own other hother := List.mem_append_left _ (h.own other hother)
  sent other hother := by
    rcases List.mem_append.mp hother with hold | hnew
    · obtain ⟨offerId, signature', hanswers⟩ := h.sent other hold
      exact ⟨offerId, signature', hanswers.mono _⟩
    · obtain ⟨offerId, hanswers⟩ := h.signing t k offer ht
      rw [List.mem_singleton.mp hnew]
      exact ⟨offerId, signature, (hanswers.addSignature signature).mono _⟩

theorem Offering.records (h : Offering config rfq labels sent a) {t : SellerPollId}
    {k : Option Handling} {offer : SellerOffer} (ht : a.task t = .postingOffer k offer) :
    Offering config rfq labels sent
      { a with session := { a.session with ownOffers := a.session.ownOffers ++ [offer] } } where
  rfqId := h.rfqId
  sameRfq := h.sameRfq
  signing := h.signing
  posting := h.posting
  own other hother := by
    rcases List.mem_append.mp hother with hold | hnew
    · exact h.own other hold
    · rw [List.mem_singleton.mp hnew]
      exact h.posting t k offer ht
  sent := h.sent

/-- The offer that a step posts joins those of the run. -/
theorem Offering.step (h : Offering config rfq labels sent a) {label : SellerLabel lib}
    (hstep : step config a label = some a') :
    Offering config rfq (labels ++ [label]) (sent ++ (a.posts label).toList) a' := by
  cases step_offerMove hstep with
  | keeps hkeeps hposts =>
    rw [hposts, Option.toList_none, List.append_nil]
    exact h.keeps hkeeps label
  | makes t action offerId now k price hprice =>
    simpa [posts] using h.makes k hprice
  | signs t signature k offer ht =>
    simpa [posts, ht] using h.signs signature ht
  | records t now k offer ht hkeeps =>
    simpa [posts] using (h.records ht).keeps hkeeps _

theorem Offering.run (config : SellerAgentConfig lib) (rfq : RFQ)
    (labels : List (SellerLabel lib)) :
    Offering config rfq labels (posted config (SellerAgent.start rfq) labels)
      (run (SellerAgent.step config) (SellerAgent.start rfq) labels) := by
  induction labels using List.reverseRecOn with
  | nil => exact .start config rfq
  | append_singleton labels label ih =>
    rw [posted_append_singleton, run_append]
    cases hstep : SellerAgent.step config
        (Transition.run (SellerAgent.step config) (SellerAgent.start rfq) labels) label with
    | some a' => simpa [next, hstep] using ih.step hstep
    | none =>
      have hposts := posts_of_step_none hstep
      simpa [next, hstep, hposts] using ih.keeps (.refl _) label

/-! ### No offer twice -/

/-- The ids of the offers that were posted, and of those about to be, all differ. -/
structure Distinct (sent : List SellerOffer) (a : SellerAgent lib) : Prop where
  fresh : ∀ t h offer, a.task t = .signingOffer h offer → ∀ other ∈ sent,
    other.offerId ≠ offer.offerId
  apart : ∀ t u h k offer other, a.task t = .signingOffer h offer →
    a.task u = .signingOffer k other → offer.offerId = other.offerId → t = u
  once : (sent.map SellerOffer.offerId).Nodup

theorem Distinct.start (rfq : RFQ) : Distinct [] (SellerAgent.start rfq : SellerAgent lib) where
  fresh := by simp
  apart := by simp [SellerAgent.start]
  once := List.nodup_nil

theorem Distinct.keeps (h : Distinct sent a) (hkeeps : KeepsOffers a a') : Distinct sent a' where
  fresh t k offer ht := by
    rcases hkeeps.task t with hsame | hnone
    · exact h.fresh t k offer (hsame ▸ ht)
    · exact absurd ht (hnone k offer).1
  apart t u k l offer other ht hu := by
    rcases hkeeps.task t with hsame | hnone
    · rcases hkeeps.task u with hsame' | hnone'
      · exact h.apart t u k l offer other (hsame ▸ ht) (hsame' ▸ hu)
      · exact absurd hu (hnone' l other).1
    · exact absurd ht (hnone k offer).1
  once := h.once

theorem offerId_newOffer (s : SellerAgentSession) (offerId signature : JsString)
    (price : lib.Value) :
    (newOffer config s offerId price signature).offerId = some (.str offerId) := rfl

/-- A new offer has an id that none before it has. -/
theorem Distinct.makes (h : Distinct sent a) (ho : Offering config rfq labels sent a)
    {t : SellerPollId} {offerId : JsString} (k : Option Handling) (price : lib.Value)
    (hfresh : offerId ∉ labels.filterMap SellerLabel.offerId) :
    Distinct sent (sendOffer config t a k price offerId) := by
  have hother : ∀ {id signature : JsString} {offer : SellerOffer},
      Answers config rfq labels id signature offer → offer.offerId ≠ some (.str offerId) := by
    intro id signature offer hanswers heq
    rw [hanswers.offerId, Option.some.injEq, Json.str.injEq] at heq
    exact hfresh (heq ▸ hanswers.mem_offerIds)
  constructor
  · intro u l offer hu other hmem
    unfold sendOffer at hu
    rw [setTask_task] at hu
    split_ifs at hu
    · rw [SellerTask.signingOffer.injEq] at hu
      obtain ⟨id, signature, hanswers⟩ := ho.sent other hmem
      rw [← hu.2, offerId_newOffer]
      exact hother hanswers
    · exact h.fresh u l offer hu other hmem
  · intro u v l m offer other hu hv heq
    unfold sendOffer at hu hv
    rw [setTask_task] at hu hv
    split_ifs at hu hv with hut hvt hvt
    · rw [hut, hvt]
    · rw [SellerTask.signingOffer.injEq] at hu
      obtain ⟨id, hanswers⟩ := ho.signing v m other hv
      rw [← hu.2, offerId_newOffer] at heq
      exact absurd heq.symm (hother hanswers)
    · rw [SellerTask.signingOffer.injEq] at hv
      obtain ⟨id, hanswers⟩ := ho.signing u l offer hu
      rw [← hv.2, offerId_newOffer] at heq
      exact absurd heq (hother hanswers)
    · exact h.apart u v l m offer other hu hv heq
  · exact h.once

/-- A signed offer leaves the offers to sign for those that are posted. -/
theorem Distinct.signs (h : Distinct sent a) (ho : Offering config rfq labels sent a)
    {t : SellerPollId} (signature : JsString) {k : Option Handling} {offer : SellerOffer}
    (ht : a.task t = .signingOffer k offer) :
    Distinct (sent ++ [SellerAgent.addSignature signature offer])
      (a.setTask t (.postingOffer k (SellerAgent.addSignature signature offer))) := by
  obtain ⟨offerId, hanswers⟩ := ho.signing t k offer ht
  have hsame : (SellerAgent.addSignature signature offer).offerId = offer.offerId := by
    rw [(hanswers.addSignature signature).offerId, hanswers.offerId]
  constructor
  · intro u l other hu posted hposted
    rw [setTask_task] at hu
    split_ifs at hu with hut
    rcases List.mem_append.mp hposted with hold | hnew
    · exact h.fresh u l other hu posted hold
    · rw [List.mem_singleton.mp hnew, hsame]
      intro heq
      exact hut (h.apart t u k l offer other ht hu heq).symm
  · intro u v l m offer other hu hv
    rw [setTask_task] at hu hv
    split_ifs at hu hv
    exact h.apart u v l m offer other hu hv
  · rw [List.map_append, List.map_singleton, hsame]
    refine h.once.append (List.nodup_singleton _) ?_
    intro id hid hnew
    obtain ⟨other, hother, rfl⟩ := List.mem_map.mp hid
    exact h.fresh t k offer ht other hother (List.mem_singleton.mp hnew)

theorem Distinct.step (h : Distinct sent a) (ho : Offering config rfq labels sent a)
    {label : SellerLabel lib}
    (hfresh : ∀ id ∈ label.offerId, id ∉ labels.filterMap SellerLabel.offerId)
    (hstep : step config a label = some a') : Distinct (sent ++ (a.posts label).toList) a' := by
  cases step_offerMove hstep with
  | keeps hkeeps hposts =>
    rw [hposts, Option.toList_none, List.append_nil]
    exact h.keeps hkeeps
  | makes t action offerId now k price hprice =>
    simpa [posts] using h.makes ho k _ (hfresh offerId rfl)
  | signs t signature k offer ht =>
    simpa [posts, ht] using h.signs ho signature ht
  | records t now k offer ht hkeeps =>
    have hrecorded : Distinct sent { a with
        session := { a.session with ownOffers := a.session.ownOffers ++ [offer] } } :=
      ⟨h.fresh, h.apart, h.once⟩
    simpa [posts] using hrecorded.keeps hkeeps

theorem Distinct.run (config : SellerAgentConfig lib) (rfq : RFQ)
    {labels : List (SellerLabel lib)} (hids : (labels.filterMap SellerLabel.offerId).Nodup) :
    Distinct (posted config (SellerAgent.start rfq) labels)
      (run (SellerAgent.step config) (SellerAgent.start rfq) labels) := by
  induction labels using List.reverseRecOn with
  | nil => exact .start rfq
  | append_singleton labels label ih =>
    rw [List.filterMap_append, List.nodup_append] at hids
    obtain ⟨hinit, -, hapart⟩ := hids
    rw [posted_append_singleton, run_append]
    cases hstep : SellerAgent.step config
        (Transition.run (SellerAgent.step config) (SellerAgent.start rfq) labels) label with
    | some a' =>
      have hfresh : ∀ id ∈ label.offerId, id ∉ labels.filterMap SellerLabel.offerId := by
        intro id hid hmem
        refine hapart id hmem id ?_ rfl
        simp [Option.mem_def.mp hid]
      simpa [next, hstep] using (ih hinit).step (.run config rfq labels) hfresh hstep
    | none =>
      have hposts := posts_of_step_none hstep
      simpa [next, hstep, hposts] using ih hinit

/-- However the polls of a session overlap and whatever the strategy answers, every offer that
the seller posts, and so every one that it counts as its own, is an offer of its listing on
this RFQ at the larger of a price that the strategy answered and the floor: a price that is a
number never goes out below the floor. No offer is posted twice. -/
theorem offers_keep_floor (config : SellerAgentConfig lib) (rfq : RFQ)
    (labels : List (SellerLabel lib)) (hids : (labels.filterMap SellerLabel.offerId).Nodup) :
    (∀ offer ∈ (run (SellerAgent.step config) (start rfq) labels).session.ownOffers,
      offer ∈ posted config (start rfq) labels) ∧
    (∀ offer ∈ posted config (start rfq) labels, ∃ t action offerId now signature,
      ∃ price : lib.Value, .strategyAnswers t action offerId now ∈ labels ∧
        askedPrice action = some price ∧ offer = newOffer config (newSession rfq) offerId
          (price.maxOrMin .lt config.priv.floorPrice) signature ∧
        (AtLeast lib (price.maxOrMin .lt config.priv.floorPrice).text
            config.priv.floorPrice.decimal ↔
          price.decimal ≠ .nan ∧ config.priv.floorPrice.decimal ≠ .nan)) ∧
    ((posted config (start rfq) labels).map SellerOffer.offerId).Nodup := by
  have hoffering := Offering.run config rfq labels
  refine ⟨hoffering.own, fun offer hoffer => ?_, (Distinct.run config rfq hids).once⟩
  obtain ⟨offerId, signature, t, action, now, price, hmem, hprice, hsame⟩ :=
    hoffering.sent offer hoffer
  exact ⟨t, action, offerId, now, signature, price, hmem, hprice, hsame,
    maxOrMin_text_atLeast_iff price config.priv.floorPrice⟩

/-- The seller answers a counter with its target price. -/
def offering : List (SellerLabel BuyerAgent.sampleLib) :=
  asking [.strategyAnswers 0 (.respond sampleSellerConfig.priv.targetPrice) (js "o1") 0,
    .offerSigned 0 (js "signature"), .offerPosted 0 0]

theorem offers_keep_floor_sample :
    (posted sampleSellerConfig (start sampleRfq) offering).length = 1 ∧
      ((posted sampleSellerConfig (start sampleRfq) offering).map SellerOffer.offerId).Nodup := by
  refine ⟨by decide +kernel, ?_⟩
  have hids : (offering.filterMap SellerLabel.offerId).Nodup := by decide +kernel
  exact (offers_keep_floor sampleSellerConfig sampleRfq offering hids).2.2

end SellerAgent
end GhostBazaar.Agents
