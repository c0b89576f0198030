import GhostBazaar.Agents.BuyerBudget
import GhostBazaar.Strategy.RuleBased

/-! What becomes of a decision to accept. The strategy names the seller of the cheapest offer,
and the agent takes the first offer which that seller has made. -/
namespace GhostBazaar.Agents.BuyerAgent
open Js GhostBazaar.Core Strategy Transition

variable {lib : DecimalLib}

/-- The sessions are kept under their ids, and only gain offers while a strategy decides. -/
structure Asked (config : BuyerAgentConfig lib) (b : BuyerAgent lib) : Prop where
  keyed : ∀ rfqId s, b.sessions.get? rfqId = some s → s.rfqId = rfqId
  asked : ∀ t rfqId asked, b.task t = .deciding rfqId asked → asked.priv = config.priv ∧
    ∃ s, b.sessions.get? rfqId = some s ∧ asked.currentOffers <+: s.offers

variable {config : BuyerAgentConfig lib} {b : BuyerAgent lib}

theorem Asked.empty : Asked config (empty : BuyerAgent lib) := by
  constructor
  · intro rfqId s hs
    simp [BuyerAgent.empty] at hs
  · intro t rfqId asked htask
    simp [BuyerAgent.empty] at htask

theorem Asked.setTask (h : Asked config b) (t : PollId) {task : PollTask lib}
    (htask : ∀ rfqId asked, task = .deciding rfqId asked → asked.priv = config.priv ∧
      ∃ s, b.sessions.get? rfqId = some s ∧ asked.currentOffers <+: s.offers) :
    Asked config (b.setTask t task) := by
  constructor
  · exact h.keyed
  · intro u rfqId asked hu
    have hset : (b.setTask t task).task = Function.update b.task t task := rfl
    by_cases hut : u = t
    · rw [hset, hut, Function.update_self] at hu
      exact htask rfqId asked hu
    · rw [hset, Function.update_of_ne hut] at hu
      exact h.asked u rfqId asked hu

theorem Asked.send (h : Asked config b) (m : Message) : Asked config (b.send m) :=
  ⟨h.keyed, h.asked⟩

/-- A session may be added, or replaced by one with more offers. -/
theorem Asked.setSession (h : Asked config b) {rfqId : JsString} {s' : BuyerAgentSession}
    (hid : s'.rfqId = rfqId)
    (hoffers : ∀ s, b.sessions.get? rfqId = some s → s.offers <+: s'.offers) :
    Asked config (b.setSession rfqId s') := by
  constructor
  · intro id s hs
    rw [BuyerAgent.setSession, JsMap.get?_set] at hs
    split_ifs at hs with hsame
    · cases hs
      rw [hid, hsame]
    · exact h.keyed id s hs
  · intro t id asked htask
    obtain ⟨hpriv, s, hs, hprefix⟩ := h.asked t id asked htask
    refine ⟨hpriv, ?_⟩
    simp only [BuyerAgent.setSession, JsMap.get?_set]
    split_ifs with hsame
    · rw [hsame] at hs
      exact ⟨s', rfl, hprefix.trans (hoffers s hs)⟩
    · exact ⟨s, hs, hprefix⟩

theorem Asked.replace (h : Asked config b) {rfqId : JsString} {s s' : BuyerAgentSession}
    (hs : b.sessions.get? rfqId = some s) (hid : s'.rfqId = s.rfqId)
    (hoffers : s.offers <+: s'.offers) : Asked config (b.setSession rfqId s') := by
  apply h.setSession
  · rw [hid]
    exact h.keyed rfqId s hs
  · intro old hold
    rw [hs, Option.some.injEq] at hold
    exact hold ▸ hoffers

theorem receive_keeps (now : ℤ) (s : BuyerAgentSession) (event : NegotiationEvent) :
    (receive now s event).rfqId = s.rfqId ∧ s.offers <+: (receive now s event).offers := by
  unfold receive
  cases event.payload with
  | none =>
    dsimp only
    split_ifs <;> simp
  | some offer =>
    dsimp only
    split_ifs <;> simp

theorem foldl_receive_keeps (now : ℤ) (events : List NegotiationEvent) (s : BuyerAgentSession) :
    (events.foldl (receive now) s).rfqId = s.rfqId ∧
      s.offers <+: (events.foldl (receive now) s).offers := by
  induction events generalizing s with
  | nil => exact ⟨rfl, List.prefix_rfl⟩
  | cons event events ih =>
    obtain ⟨hid, hoffers⟩ := receive_keeps now s event
    obtain ⟨hid', hoffers'⟩ := ih (receive now s event)
    exact ⟨hid'.trans hid, hoffers.trans hoffers'⟩

theorem Asked.eventsArrive (h : Asked config b) (t : PollId) (newEvents : List NegotiationEvent)
    (now : ℤ) {rfqId : JsString} {s : BuyerAgentSession} (hs : b.sessions.get? rfqId = some s) :
    Asked config (b.eventsArrive config t newEvents now s) := by
  unfold BuyerAgent.eventsArrive
  split_ifs with hempty
  · exact h.setTask t (by rintro _ _ ⟨⟩)
  · have hkey := h.keyed rfqId s hs
    obtain ⟨hid, hoffers⟩ := foldl_receive_keeps now newEvents s
    dsimp only
    generalize newEvents.foldl (receive now) s = s' at hid hoffers
    have hidkey : s'.rfqId = rfqId := hid.trans hkey
    rw [hidkey]
    apply (h.replace hs hid hoffers).setTask
    intro id asked htask
    split_ifs at htask
    · cases htask
      refine ⟨rfl, s', ?_, List.prefix_rfl⟩
      simp [BuyerAgent.setSession]

theorem Asked.execute (h : Asked config b) (t : PollId) {rfqId : JsString}
    {s : BuyerAgentSession} (hs : b.sessions.get? rfqId = some s)
    (asked : BuyerStrategyContext lib) (counterId : JsString) (action : BuyerAction lib) :
    Asked config (b.execute config t s asked counterId action) := by
  obtain rfl := h.keyed rfqId s hs
  cases action with
  | counter seller price =>
    simp only [BuyerAgent.execute]
    split_ifs with hlate
    · exact h.setTask t (by rintro _ _ ⟨⟩)
    all_goals
      apply (h.replace hs (by rfl) (by rfl)).setTask
      rintro _ _ ⟨⟩
  | accept seller =>
    simp only [BuyerAgent.execute]
    cases targetOffer s seller with
    | none => exact h.setTask t (by rintro _ _ ⟨⟩)
    | some offer => exact h.setTask t (by rintro _ _ ⟨⟩)
  | wait => exact h.setTask t (by rintro _ _ ⟨⟩)
  | cancel =>
    simp only [BuyerAgent.execute]
    apply (h.replace hs (by rfl) (by rfl)).setTask
    rintro _ _ ⟨⟩

theorem Asked.strategyAnswers (h : Asked config b) (t : PollId) (strategy : BuyerStrategy lib)
    (counterId : JsString) (asked : BuyerStrategyContext lib) {rfqId : JsString}
    {s : BuyerAgentSession} (hs : b.sessions.get? rfqId = some s) :
    Asked config (b.strategyAnswers config t strategy counterId asked s) := by
  unfold BuyerAgent.strategyAnswers
  cases strategy asked (contextNow asked s) with
  | error e => exact h.setTask t (by rintro _ _ ⟨⟩)
  | ok action => exact h.execute t hs asked counterId _

theorem Asked.step (h : Asked config b) {label : AgentLabel lib} {b' : BuyerAgent lib}
    (hstep : step config b label = some b') : Asked config b' := by
  cases steps_of_step hstep with
  | @postRfq params rfqId _ _ _ _ hnew =>
    apply Asked.setSession (h.send _) (by rfl)
    intro s hs
    have hold : b.sessions.get? rfqId = some s := hs
    rw [hnew] at hold
    cases hold
  | @poll t rfqId htask =>
    unfold BuyerAgent.start
    split
    · exact h.setTask t (by rintro _ _ ⟨⟩)
    · apply h.setTask t
      intro id asked hdeciding
      split_ifs at hdeciding
  | eventsArrive newEvents now _ hs => exact h.eventsArrive _ newEvents now hs
  | strategyAnswers strategy counterId _ hs => exact h.strategyAnswers _ strategy counterId _ hs
  | proofReady => exact h.setTask _ (by rintro _ _ ⟨⟩)
  | counterSigned | acceptSigned | quoteSigned => exact (h.send _).setTask _ (by rintro _ _ ⟨⟩)
  | counterPosted _ hs | quotePosted _ hs | accepted _ _ _ hs =>
    exact (h.replace hs (by rfl) (by rfl)).setTask _ (by rintro _ _ ⟨⟩)
  | fails => exact h.setTask _ (by rintro _ _ ⟨⟩)
  | stop hs => exact h.replace hs (by rfl) (by rfl)

/-! ### The offer that is accepted -/

theorem strictEq_left {v w : JsValue} (h : v.strictEq w = true) : w.strictEq w = true := by
  unfold JsValue.strictEq at h ⊢
  split at h
  · rfl
  · simp only [Bool.and_eq_true, Bool.not_eq_true', decide_eq_true_eq] at h ⊢
    exact ⟨h.2 ▸ h.1, trivial⟩
  · cases h

/-- The seller of the cheapest offer asked its price from its first offer on. -/
def OpensCheapest (lib : DecimalLib) (offers : List SellerOffer) (cheapest : SellerOffer) :
    Prop :=
  ∀ first ∈ offers.find? fun o => o.seller.strictEq cheapest.seller,
    lib.newDecimal first.price = lib.newDecimal cheapest.price

instance (offers : List SellerOffer) (cheapest : SellerOffer) :
    Decidable (OpensCheapest lib offers cheapest) :=
  inferInstanceAs (Decidable (∀ first ∈ offers.find? fun o => o.seller.strictEq cheapest.seller,
    lib.newDecimal first.price = lib.newDecimal cheapest.price))

theorem targetOffer_seller {s : BuyerAgentSession} {seller : JsValue} {offer : SellerOffer}
    (h : targetOffer s seller = some offer) : offer.seller.strictEq seller = true := by
  unfold targetOffer at h
  simpa using List.find?_some h

/-- The offers that arrive while the strategy decides do not change which one is taken. -/
theorem targetOffer_eq {offers : List SellerOffer} {s : BuyerAgentSession}
    {cheapest : SellerOffer} (hearlier : offers <+: s.offers) (hcheapest : cheapest ∈ offers)
    (hseller : cheapest.seller.strictEq cheapest.seller = true) :
    ∃ offer, targetOffer s cheapest.seller = some offer ∧
      offers.find? (fun o => o.seller.strictEq cheapest.seller) = some offer := by
  have hfound : (offers.find? fun o => o.seller.strictEq cheapest.seller).isSome := by
    rw [List.find?_isSome]
    exact ⟨cheapest, hcheapest, hseller⟩
  obtain ⟨offer, hoffer⟩ := Option.isSome_iff_exists.mp hfound
  obtain ⟨later, hlater⟩ := hearlier
  refine ⟨offer, ?_, hoffer⟩
  rw [targetOffer, ← hlater, List.find?_append, hoffer, Option.some_or]

/-- An accept of the strategy is posted once it is signed, for the offer that the agent finds. -/
theorem sent_accept {t : PollId} {rfqId : JsString} {asked : BuyerStrategyContext lib}
    {s : BuyerAgentSession} {strategy : BuyerStrategy lib} {seller : JsValue}
    (htask : b.task t = .deciding rfqId asked) (hs : b.sessions.get? rfqId = some s)
    (haccept : strategy asked (contextNow asked s) = .ok (.accept seller))
    (counterId signature : JsString) :
    (run (BuyerAgent.step config) b [.strategyAnswers t strategy counterId, .signed t signature]).sent
      = b.sent ++ ((targetOffer s seller).map fun offer =>
          Message.accept s.rfqId offer (sessionRevision s)).toList := by
  have hanswer : next (BuyerAgent.step config) b (.strategyAnswers t strategy counterId) =
      b.execute config t s asked counterId (.accept seller) := by
    simp only [next, BuyerAgent.step, htask, withSession, hs, Option.map_some, Option.getD_some,
      BuyerAgent.strategyAnswers, haccept, sanitizeBuyerAction]
  rw [run_cons, run_cons, run_nil, hanswer]
  cases htarget : targetOffer s seller with
  | none => simp [BuyerAgent.execute, htarget, next, BuyerAgent.step, BuyerAgent.setTask]
  | some offer =>
    simp [BuyerAgent.execute, htarget, next, BuyerAgent.step, BuyerAgent.setTask, BuyerAgent.send]

/-- The accept that follows a decision of a rule is for an offer of the cheapest price, within
the soft budget, exactly when the seller of the cheapest offer opened with that price. -/
theorem accepted_cheapest_iff (config : BuyerAgentConfig lib) (arith : DecimalArithmetic lib)
    (buyer : RuleBasedBuyer) (labels : List (AgentLabel lib)) (t : PollId)
    (counterId signature : JsString) {rfqId : JsString} {asked : BuyerStrategyContext lib}
    {s : BuyerAgentSession} {cheapest : SellerOffer} {seller : JsValue}
    (hasked : (rfqId, asked) ∈ (run (BuyerAgent.step config) empty labels).asking t)
    (hs : s ∈ (run (BuyerAgent.step config) empty labels).sessions.get? rfqId)
    (hcheapest : selectLowestPricedBuyerOffer arith asked.currentOffers = .ok cheapest)
    (haccept : buyer.onOffersReceived arith asked (contextNow asked s) = .ok (.accept seller)) :
    let sent := (run (BuyerAgent.step config) empty labels).sent
    let sent' := (run (BuyerAgent.step config) empty (labels ++
      [.strategyAnswers t (buyer.onOffersReceived arith) counterId, .signed t signature])).sent
    (∀ text, cheapest.seller = some (.str text) →
      ∃ offer revision, sent' = sent ++ [.accept rfqId offer revision]) ∧
    ∀ offer revision, sent' = sent ++ [.accept rfqId offer revision] →
      (lib.AtMost offer.price config.priv.budgetSoft.decimal ∧
          lib.newDecimal offer.price = lib.newDecimal cheapest.price ↔
        OpensCheapest lib asked.currentOffers cheapest) := by
  have hinv : Asked config (run (BuyerAgent.step config) empty labels) :=
    run_invariant (fun _ _ _ h hstep => h.step hstep) Asked.empty labels
  have htask := task_of_mem_asking hasked
  rw [Option.mem_def] at hs
  obtain ⟨hpriv, s', hs', hprefix⟩ := hinv.asked t rfqId asked htask
  rw [hs, Option.some.injEq] at hs'
  subst hs'
  have hid := hinv.keyed rfqId s hs
  obtain ⟨cheapest', hsame, rfl, hsoft⟩ := buyer.accepts haccept
  rw [hcheapest, Except.ok.injEq] at hsame
  subst hsame
  rw [hpriv] at hsoft
  have hmem := selectLowestPricedBuyerOffer_mem hcheapest
  dsimp only
  rw [run_append, sent_accept htask hs haccept counterId signature, hid]
  constructor
  · intro text htext
    have hself : cheapest.seller.strictEq cheapest.seller = true := by
      rw [htext, JsValue.strictEq_str]
    obtain ⟨offer, htarget, _⟩ := targetOffer_eq hprefix hmem hself
    exact ⟨offer, sessionRevision s, by simp [htarget]⟩
  · intro offer revision hposted
    have htarget : targetOffer s cheapest.seller = some offer := by
      have hlist := List.append_cancel_left hposted
      cases h : targetOffer s cheapest.seller with
      | none => simp [h] at hlist
      | some o => simp_all
    have hself : cheapest.seller.strictEq cheapest.seller = true :=
      strictEq_left (targetOffer_seller htarget)
    obtain ⟨first, hfirst, hopens⟩ := targetOffer_eq hprefix hmem hself
    rw [htarget, Option.some.injEq] at hfirst
    subst hfirst
    have hiff : OpensCheapest lib asked.currentOffers cheapest ↔
        lib.newDecimal offer.price = lib.newDecimal cheapest.price := by
      simp [OpensCheapest, hopens]
    rw [hiff]
    constructor
    · intro h
      exact h.2
    · intro hprice
      obtain ⟨p, hp, hle⟩ := hsoft
      exact ⟨⟨p, hprice.trans hp, hle⟩, hprice⟩

/-! ### A seller that lowers its price -/

def sampleArithmetic : DecimalArithmetic sampleLib := .exact sampleLib

def sampleBuyer : RuleBasedBuyer := .linearConcession {}

/-- The buyer has seen the offers, and the strategy is asked. -/
def deciding (events : List NegotiationEvent) : List (AgentLabel sampleLib) :=
  [samplePost, .poll 0 (js "rfq-1"), .eventsArrive 0 events 0]

def accepting (events : List NegotiationEvent) : List (AgentLabel sampleLib) :=
  deciding events ++
    [.strategyAnswers 0 (sampleBuyer.onOffersReceived sampleArithmetic) (js "c1"), .signed 0 []]

/-- The prices of the accepts that the messages hold. -/
def acceptedPrices (sent : List Message) : List JsValue :=
  sent.filterMap fun m => match m with
    | .accept _ offer _ => some offer.price
    | _ => none

def acceptedSeller : Except JsError (BuyerAction lib) → Option JsValue
  | .ok (.accept seller) => some seller
  | _ => none

theorem acceptedSeller_eq_some {answer : Except JsError (BuyerAction lib)} {seller : JsValue}
    (h : acceptedSeller answer = some seller) : answer = .ok (.accept seller) := by
  unfold acceptedSeller at h
  split at h
  · cases h
    rfl
  · cases h

/-- The strategy is asked for the sample session, and accepts its cheapest offer at `price`. -/
def Decides (b : BuyerAgent sampleLib) (price : JsValue) : Prop :=
  ∃ p ∈ b.asking 0, ∃ s ∈ b.sessions.get? p.1,
    ∃ cheapest ∈ (selectLowestPricedBuyerOffer sampleArithmetic p.2.currentOffers).toOption,
      p.1 = js "rfq-1" ∧ cheapest.price = price ∧
        cheapest.seller = some (.str (js "did:seller")) ∧
        OpensCheapest sampleLib p.2.currentOffers cheapest ∧
        acceptedSeller (sampleBuyer.onOffersReceived sampleArithmetic p.2 (contextNow p.2 s)) =
          some (some (.str (js "did:seller")))

instance (b : BuyerAgent sampleLib) (price : JsValue) : Decidable (Decides b price) := by
  unfold Decides
  infer_instance

/-- The strategy accepts the offer of 30, and the agent posts an accept of the one of 60. -/
theorem accepts_dearer_offer :
    (∃ p ∈ (run (BuyerAgent.step sampleConfig) empty
        (deciding [sampleOffer "o1" "60", sampleOffer "o2" "30"])).asking 0,
      acceptedSeller (sampleBuyer.onOffersReceived sampleArithmetic p.2 p.2) =
        some (some (.str (js "did:seller")))) ∧
    acceptedPrices (run (BuyerAgent.step sampleConfig) empty
      (accepting [sampleOffer "o1" "60", sampleOffer "o2" "30"])).sent = [some (.str (js "60"))] ∧
    ¬ sampleLib.AtMost (some (.str (js "60"))) sampleConfig.priv.budgetSoft.decimal := by
  decide +kernel

theorem accepted_cheapest_sample :
    Decides (run (BuyerAgent.step sampleConfig) empty
      (deciding [sampleOffer "o1" "30", sampleOffer "o2" "60"])) (some (.str (js "30"))) ∧
    ∃ offer revision,
      (run (BuyerAgent.step sampleConfig) empty
        (accepting [sampleOffer "o1" "30", sampleOffer "o2" "60"])).sent =
      (run (BuyerAgent.step sampleConfig) empty
        (deciding [sampleOffer "o1" "30", sampleOffer "o2" "60"])).sent ++
        [.accept (js "rfq-1") offer revision] ∧
      sampleLib.newDecimal offer.price = sampleLib.newDecimal (some (.str (js "30"))) := by
  have hdecides : Decides (run (BuyerAgent.step sampleConfig) empty
      (deciding [sampleOffer "o1" "30", sampleOffer "o2" "60"])) (some (.str (js "30"))) := by
    decide +kernel
  refine ⟨hdecides, ?_⟩
  obtain ⟨⟨rfqId, asked⟩, hasked, s, hs, cheapest, hcheapest, rfl, hprice, hseller, hopens,
    haccept⟩ := hdecides
  have hselected : selectLowestPricedBuyerOffer sampleArithmetic asked.currentOffers =
      .ok cheapest := by
    cases h : selectLowestPricedBuyerOffer sampleArithmetic asked.currentOffers with
    | error e => simp [h, Except.toOption] at hcheapest
    | ok o => simp_all [Except.toOption]
  obtain ⟨hposted, hcheap⟩ := accepted_cheapest_iff sampleConfig sampleArithmetic sampleBuyer
    (deciding [sampleOffer "o1" "30", sampleOffer "o2" "60"]) 0 (js "c1") [] hasked hs hselected
    (acceptedSeller_eq_some haccept)
  obtain ⟨offer, revision, hsent⟩ := hposted _ hseller
  rw [← hprice]
  exact ⟨offer, revision, hsent, ((hcheap offer revision hsent).mpr hopens).2⟩

end GhostBazaar.Agents.BuyerAgent
