import GhostBazaar.Agents.BuyerAgent

/-! What a buyer commits to, against its hard budget. The sanitizer bounds the price of a
counter, and nothing bounds the offer that an accept settles on. -/
namespace GhostBazaar.Agents
open Js GhostBazaar.Core Strategy Transition

variable {lib : DecimalLib}

/-- The money that the message commits to is within the budget. -/
def Message.WithinBudget (lib : DecimalLib) (budget : Decimal) : Message → Prop
  | rfq _ => True
  | counter _ c => lib.AtMost (some (.str c.price)) budget
  | accept _ offer _ | signQuote _ offer _ => lib.AtMost offer.price budget

instance (budget : Decimal) : DecidablePred (Message.WithinBudget lib budget)
  | .rfq _ => .isTrue trivial
  | .counter _ c => inferInstanceAs (Decidable (lib.AtMost (some (.str c.price)) budget))
  | .accept _ offer _ => inferInstanceAs (Decidable (lib.AtMost offer.price budget))
  | .signQuote _ offer _ => inferInstanceAs (Decidable (lib.AtMost offer.price budget))

/-- The same of what a poll is about to commit to. -/
def PollTask.WithinBudget (budget : Decimal) : PollTask lib → Prop
  | proving _ c | signingCounter _ c | postingCounter _ c =>
    lib.AtMost (some (.str c.price)) budget
  | signingAccept _ offer _ | accepting _ offer | signingQuote _ offer _
  | sendingQuote _ offer _ => lib.AtMost offer.price budget
  | _ => True

namespace BuyerAgent

structure KeepsBudget (config : BuyerAgentConfig lib) (b : BuyerAgent lib) : Prop where
  tasks : ∀ t, (b.task t).WithinBudget config.priv.budgetHard.decimal
  sent : ∀ m ∈ b.sent, m.WithinBudget lib config.priv.budgetHard.decimal

/-- A counter that is posted in time has a number for a price, under a budget that is not
below the smallest price; an accept names a seller whose first offer is within the budget. -/
def AffordableAction (config : BuyerAgentConfig lib) (s : BuyerAgentSession)
    (asked : BuyerStrategyContext lib) : BuyerAction lib → Prop
  | .counter _ price => tooLate asked = false →
    price.decimal ≠ .nan ∧ (MIN_PRICE : lib.Value).decimal.lte config.priv.budgetHard.decimal = true
  | .accept seller =>
    ∀ offer ∈ targetOffer s seller, lib.AtMost offer.price config.priv.budgetHard.decimal
  | .wait | .cancel => True

instance (config : BuyerAgentConfig lib) (s : BuyerAgentSession)
    (asked : BuyerStrategyContext lib) : DecidablePred (AffordableAction config s asked)
  | .counter _ price => inferInstanceAs (Decidable (tooLate asked = false →
      price.decimal ≠ .nan ∧
        (MIN_PRICE : lib.Value).decimal.lte config.priv.budgetHard.decimal = true))
  | .accept seller => inferInstanceAs (Decidable (∀ offer ∈ targetOffer s seller,
      lib.AtMost offer.price config.priv.budgetHard.decimal))
  | .wait | .cancel => .isTrue trivial

def AffordableAnswer (config : BuyerAgentConfig lib) (s : BuyerAgentSession)
    (asked : BuyerStrategyContext lib) : Except JsError (BuyerAction lib) → Prop
  | .ok action => AffordableAction config s asked action
  | .error _ => True

instance (config : BuyerAgentConfig lib) (s : BuyerAgentSession)
    (asked : BuyerStrategyContext lib) : DecidablePred (AffordableAnswer config s asked)
  | .ok action => inferInstanceAs (Decidable (AffordableAction config s asked action))
  | .error _ => .isTrue trivial

/-- What a poll has asked the strategy. -/
def asking (b : BuyerAgent lib) (t : PollId) : Option (JsString × BuyerStrategyContext lib) :=
  match b.task t with
  | .deciding rfqId asked => some (rfqId, asked)
  | _ => none

/-- What a strategy answers to a poll is affordable. -/
def Affordable (config : BuyerAgentConfig lib) (b : BuyerAgent lib) : AgentLabel lib → Prop
  | .strategyAnswers t strategy _ =>
    ∀ p ∈ b.asking t, ∀ s ∈ b.sessions.get? p.1,
      AffordableAnswer config s p.2 (strategy p.2 (contextNow p.2 s))
  | _ => True

instance (config : BuyerAgentConfig lib) (b : BuyerAgent lib) :
    DecidablePred (Affordable config b)
  | .strategyAnswers t strategy _ => inferInstanceAs (Decidable (∀ p ∈ b.asking t,
      ∀ s ∈ b.sessions.get? p.1,
        AffordableAnswer config s p.2 (strategy p.2 (contextNow p.2 s))))
  | .postRfq .. | .poll .. | .eventsArrive .. | .proofReady .. | .signed .. | .posted ..
  | .accepted .. | .quoteSigned .. | .fails .. | .stop .. => .isTrue trivial

variable {config : BuyerAgentConfig lib} {b : BuyerAgent lib}

/-! ### Guarded runs -/

theorem KeepsBudget.empty : KeepsBudget config (empty : BuyerAgent lib) := by
  constructor
  · intro t
    trivial
  · intro m hm
    exact absurd hm List.not_mem_nil

theorem KeepsBudget.setTask (h : KeepsBudget config b) (t : PollId) {task : PollTask lib}
    (htask : task.WithinBudget config.priv.budgetHard.decimal) : KeepsBudget config (b.setTask t task) := by
  constructor
  · intro u
    have hset : (b.setTask t task).task = Function.update b.task t task := rfl
    by_cases hu : u = t
    · rw [hset, hu, Function.update_self]
      exact htask
    · rw [hset, Function.update_of_ne hu]
      exact h.tasks u
  · exact h.sent

theorem KeepsBudget.setSession (h : KeepsBudget config b) (rfqId : JsString)
    (s : BuyerAgentSession) : KeepsBudget config (b.setSession rfqId s) := ⟨h.tasks, h.sent⟩

theorem KeepsBudget.send (h : KeepsBudget config b) {m : Message}
    (hm : m.WithinBudget lib config.priv.budgetHard.decimal) : KeepsBudget config (b.send m) := by
  constructor
  · exact h.tasks
  · intro n hn
    rcases List.mem_append.mp hn with hn | hn
    · exact h.sent n hn
    · exact List.mem_singleton.mp hn ▸ hm

theorem KeepsBudget.eventsArrive (h : KeepsBudget config b) (t : PollId)
    (newEvents : List NegotiationEvent) (now : ℤ) (s : BuyerAgentSession) :
    KeepsBudget config (b.eventsArrive config t newEvents now s) := by
  unfold BuyerAgent.eventsArrive
  split_ifs
  · exact h.setTask t trivial
  · apply (h.setSession _ _).setTask
    split_ifs <;> trivial

/-- An affordable action is sanitized into a task within the budget. -/
theorem KeepsBudget.execute (h : KeepsBudget config b) (t : PollId) {s : BuyerAgentSession}
    {asked : BuyerStrategyContext lib} (counterId : JsString) {action : BuyerAction lib}
    (haction : AffordableAction config s asked action) :
    KeepsBudget config
      (b.execute config t s asked counterId (sanitizeBuyerAction action config.priv)) := by
  cases action with
  | counter seller price =>
    simp only [sanitizeBuyerAction, BuyerAgent.execute]
    split_ifs with hlate hproves
    · exact h.setTask t trivial
    all_goals
      apply (h.setSession _ _).setTask
      have hsafe := haction (Bool.eq_false_iff.mpr hlate)
      exact (sanitized_atMost_iff seller rfl).mpr hsafe
  | accept seller =>
    simp only [sanitizeBuyerAction, BuyerAgent.execute]
    cases htarget : targetOffer s seller with
    | none => exact h.setTask t trivial
    | some offer => exact h.setTask t (haction offer htarget)
  | wait => exact h.setTask t trivial
  | cancel => exact (h.setSession _ _).setTask t trivial

theorem KeepsBudget.strategyAnswers (h : KeepsBudget config b) (t : PollId)
    {strategy : BuyerStrategy lib} (counterId : JsString) {asked : BuyerStrategyContext lib}
    {s : BuyerAgentSession}
    (hanswer : AffordableAnswer config s asked (strategy asked (contextNow asked s))) :
    KeepsBudget config (b.strategyAnswers config t strategy counterId asked s) := by
  unfold BuyerAgent.strategyAnswers
  cases haction : strategy asked (contextNow asked s) with
  | error e => exact h.setTask t trivial
  | ok action =>
    rw [haction] at hanswer
    exact h.execute t counterId hanswer

theorem KeepsBudget.start (h : KeepsBudget config b) (t : PollId) (rfqId : JsString) :
    KeepsBudget config (b.start t rfqId) := by
  unfold BuyerAgent.start
  split
  · exact h.setTask t trivial
  · apply h.setTask
    split_ifs <;> trivial

theorem KeepsBudget.task (h : KeepsBudget config b) {t : PollId} {task : PollTask lib}
    (htask : b.task t = task) : task.WithinBudget config.priv.budgetHard.decimal :=
  htask ▸ h.tasks t

theorem KeepsBudget.step (h : KeepsBudget config b) {label : AgentLabel lib}
    (hlabel : Affordable config b label) {b' : BuyerAgent lib}
    (hstep : step config b label = some b') : KeepsBudget config b' := by
  cases steps_of_step hstep with
  | postRfq =>
    apply KeepsBudget.setSession
    exact h.send trivial
  | poll rfqId => exact h.start _ rfqId
  | eventsArrive newEvents now => exact h.eventsArrive _ newEvents now _
  | @strategyAnswers t rfqId asked s strategy counterId htask hs =>
    have hasked : (rfqId, asked) ∈ b.asking t := by
      simp [asking, htask]
    exact h.strategyAnswers t counterId (hlabel _ hasked s hs)
  | @proofReady t rfqId counter budgetProof htask =>
    have ht := h.task htask
    exact h.setTask t ht
  | @counterSigned t rfqId counter signature htask =>
    have ht := h.task htask
    exact (h.send (m := .counter rfqId { counter with signature := signature }) ht).setTask t ht
  | @acceptSigned t rfqId offer revision signature htask =>
    have ht := h.task htask
    exact (h.send (m := .accept rfqId offer revision) ht).setTask t ht
  | counterPosted => exact (h.setSession _ _).setTask _ trivial
  | quotePosted => exact (h.setSession _ _).setTask _ trivial
  | @accepted t rfqId offer s unsignedQuote now htask _ =>
    have ht := h.task htask
    exact (h.setSession _ _).setTask t ht
  | @quoteSigned t rfqId offer unsignedQuote buyerSigned htask =>
    have ht := h.task htask
    exact (h.send (m := .signQuote rfqId offer buyerSigned) ht).setTask t ht
  | fails => exact h.setTask _ trivial
  | stop => exact h.setSession _ _

/-! ### Unaffordable answers -/

theorem setTask_task (b : BuyerAgent lib) (t : PollId) (task : PollTask lib) :
    (b.setTask t task).task t = task := by
  simp [BuyerAgent.setTask]

theorem next_signed_counter {t : PollId} {rfqId : JsString} {counter : CounterOffer}
    (htask : b.task t = .signingCounter rfqId counter) (signature : JsString) :
    .counter rfqId { counter with signature := signature } ∈
      (next (BuyerAgent.step config) b (.signed t signature)).sent := by
  unfold next BuyerAgent.step
  simp [htask, BuyerAgent.send, BuyerAgent.setTask]

theorem next_signed_accept {t : PollId} {rfqId : JsString} {offer : SellerOffer}
    {revision : JsString} (htask : b.task t = .signingAccept rfqId offer revision)
    (signature : JsString) :
    .accept rfqId offer revision ∈
      (next (BuyerAgent.step config) b (.signed t signature)).sent := by
  unfold next BuyerAgent.step
  simp [htask, BuyerAgent.send, BuyerAgent.setTask]

/-- A counter goes out once its proof, if it needs one, and its signature are there. -/
theorem counter_sent (config : BuyerAgentConfig lib) {b : BuyerAgent lib} {t : PollId}
    {rfqId : JsString} {counter : CounterOffer}
    (htask : b.task t = .proving rfqId counter ∨ b.task t = .signingCounter rfqId counter) :
    ∃ sent, sent.price = counter.price ∧ .counter rfqId sent ∈
      (run (BuyerAgent.step config) b [.proofReady t .null, .signed t []]).sent := by
  rw [run_cons, run_cons, run_nil]
  rcases htask with htask | htask
  · have hproved : (next (BuyerAgent.step config) b (.proofReady t .null)).task t =
        .signingCounter rfqId { counter with budgetProof := some .null } := by
      unfold next BuyerAgent.step
      simp [htask, setTask_task]
    exact ⟨{ counter with budgetProof := some .null, signature := [] }, rfl,
      next_signed_counter hproved []⟩
  · have hkept : next (BuyerAgent.step config) b (.proofReady t .null) = b := by
      unfold next BuyerAgent.step
      simp [htask]
    rw [hkept]
    exact ⟨{ counter with signature := [] }, rfl, next_signed_counter htask []⟩

/-- What an unaffordable action makes the poll do, once it gets to send it. -/
theorem execute_overspends {t : PollId} {s : BuyerAgentSession}
    {asked : BuyerStrategyContext lib} (counterId : JsString) {action : BuyerAction lib}
    (haction : ¬ AffordableAction config s asked action) :
    ∃ m ∈ (run (BuyerAgent.step config)
        (b.execute config t s asked counterId (sanitizeBuyerAction action config.priv))
        [.proofReady t .null, .signed t []]).sent,
      ¬ m.WithinBudget lib config.priv.budgetHard.decimal := by
  cases action with
  | counter seller price =>
    simp only [AffordableAction, Classical.not_imp] at haction
    obtain ⟨hlate, hprice⟩ := haction
    simp only [sanitizeBuyerAction, BuyerAgent.execute, hlate, Bool.false_eq_true, if_false]
    generalize hcounter : newCounter config _ counterId seller _ = counter
    generalize hb : (b.setSession s.rfqId _).setTask t _ = b'
    have htask : b'.task t = .proving s.rfqId counter ∨
        b'.task t = .signingCounter s.rfqId counter := by
      rw [← hb, setTask_task]
      split_ifs <;> simp
    obtain ⟨sent, hsame, hsent⟩ := counter_sent config htask
    refine ⟨_, hsent, fun hwithin => hprice ?_⟩
    have hwithin : lib.AtMost (some (.str sent.price)) config.priv.budgetHard.decimal := hwithin
    rw [hsame, ← hcounter] at hwithin
    exact (sanitized_atMost_iff seller rfl).mp hwithin
  | accept seller =>
    simp only [AffordableAction, not_forall] at haction
    obtain ⟨offer, htarget, hprice⟩ := haction
    rw [Option.mem_def] at htarget
    simp only [sanitizeBuyerAction, BuyerAgent.execute, htarget]
    refine ⟨.accept s.rfqId offer (sessionRevision s), ?_, hprice⟩
    have hkept : next (BuyerAgent.step config)
        (b.setTask t (.signingAccept s.rfqId offer (sessionRevision s))) (.proofReady t .null) =
        b.setTask t (.signingAccept s.rfqId offer (sessionRevision s)) := by
      simp [next, BuyerAgent.step, setTask_task]
    rw [run_cons, run_cons, run_nil, hkept]
    exact next_signed_accept (setTask_task b t _) []
  | wait => exact absurd trivial haction
  | cancel => exact absurd trivial haction

theorem task_of_mem_asking {t : PollId} {rfqId : JsString} {asked : BuyerStrategyContext lib}
    (h : (rfqId, asked) ∈ b.asking t) : b.task t = .deciding rfqId asked := by
  unfold asking at h
  split at h
  · simp_all
  · cases h

/-- An unaffordable answer can always be followed by a message beyond the budget. -/
theorem overspends_of_not_affordable {label : AgentLabel lib}
    (hlabel : ¬ Affordable config b label) :
    ∃ more, ∃ m ∈ (run (BuyerAgent.step config) b (label :: more)).sent,
      ¬ m.WithinBudget lib config.priv.budgetHard.decimal := by
  cases label with
  | strategyAnswers t strategy counterId =>
    simp only [Affordable, not_forall] at hlabel
    obtain ⟨⟨rfqId, asked⟩, hasked, s, hs, hanswer⟩ := hlabel
    have htask := task_of_mem_asking hasked
    refine ⟨[.proofReady t .null, .signed t []], ?_⟩
    cases haction : strategy asked (contextNow asked s) with
    | error e =>
      rw [haction] at hanswer
      exact absurd trivial hanswer
    | ok action =>
      rw [haction] at hanswer
      have hnext : next (BuyerAgent.step config) b (.strategyAnswers t strategy counterId) =
          b.execute config t s asked counterId (sanitizeBuyerAction action config.priv) := by
        rw [Option.mem_def] at hs
        simp [next, BuyerAgent.step, htask, withSession, hs, BuyerAgent.strategyAnswers, haction]
      rw [run_cons, hnext]
      exact execute_overspends counterId hanswer
  | _ => exact absurd trivial hlabel

/-- The buyer keeps its budget in every run whose answers are affordable, and can lose it by
any answer that is not. -/
theorem keepsBudget_iff_affordable (config : BuyerAgentConfig lib) :
    (∀ labels, Guarded (BuyerAgent.step config) (Affordable config) empty labels →
      ∀ m ∈ (run (BuyerAgent.step config) empty labels).sent,
        m.WithinBudget lib config.priv.budgetHard.decimal) ∧
    ∀ labels label, ¬ Affordable config (run (BuyerAgent.step config) empty labels) label →
      ∃ more, ∃ m ∈ (run (BuyerAgent.step config) empty (labels ++ label :: more)).sent,
        ¬ m.WithinBudget lib config.priv.budgetHard.decimal := by
  constructor
  · intro labels hguarded
    have hkeeps := hguarded.invariant (P := KeepsBudget config)
      (fun _ _ _ h hlabel => h.step hlabel) KeepsBudget.empty
    exact hkeeps.sent
  · intro labels label hlabel
    obtain ⟨more, hover⟩ := overspends_of_not_affordable hlabel
    refine ⟨more, ?_⟩
    rw [run_append]
    exact hover

/-! ### A buyer that overspends -/

/-- The prices of the sample, as texts and as amounts. -/
def samplePrices : List (JsString × ℚ) :=
  [(js "0.000001", 1 / 1000000), (js "30", 30), (js "40", 40), (js "50", 50), (js "60", 60)]

def sampleNewDecimal (v : JsValue) : Option Decimal :=
  (samplePrices.find? fun p => v = some (.str p.1)).map fun p => .finite p.2

def sampleToText : Decimal → JsString
  | .finite q => ((samplePrices.find? fun p => p.2 = q).map Prod.fst).getD []
  | _ => js "NaN"

def sampleLib : DecimalLib where
  newDecimal := sampleNewDecimal
  toText := sampleToText
  new_toText v d h := by
    obtain ⟨p, hp, rfl⟩ := Option.map_eq_some_iff.mp h
    have hall : ∀ p ∈ samplePrices, sampleNewDecimal (some (.str (sampleToText (.finite p.2)))) =
        some (.finite p.2) := by decide +kernel
    exact hall p (List.mem_of_find?_eq_some hp)
  new_minPrice := by decide +kernel

theorem sample_sixty : ∃ v, sampleLib.newDecimal v = some (.finite 60) :=
  ⟨some (.str (js "60")), by decide +kernel⟩

def sampleConfig : BuyerAgentConfig sampleLib where
  did := js "did:buyer"
  priv :=
    { budgetSoft := ⟨.finite 40, some (.str (js "40")), by decide +kernel⟩
      budgetHard := ⟨.finite 50, some (.str (js "50")), by decide +kernel⟩ }
  zkProver := true
  parseOtherDate := fun _ => none

def sampleOffer (offerId price : String) : NegotiationEvent where
  eventId := .text (js offerId)
  rfqId := js "rfq-1"
  eventType := js "offer"
  actor := js "did:seller"
  payload := some (.obj [(js "offer_id", .str (js offerId)), (js "seller", .str (js "did:seller")),
    (js "price", .str (js price))])
  timestamp := js "1970-01-01T00:00:00.000Z"

def samplePost : AgentLabel sampleLib :=
  .postRfq ⟨js "smart-contract-audit", [], js "32", 3600⟩ (js "rfq-1") [] (js "commitment") 0

/-- The seller lowers its price from 60 to 30. The model cannot be reached, and the strategy
accepts the seller for its cheaper offer. -/
def overspending : List (AgentLabel sampleLib) :=
  [samplePost, .poll 0 (js "rfq-1"),
    .eventsArrive 0 [sampleOffer "o1" "60", sampleOffer "o2" "30"] 0,
    .strategyAnswers 0 (LLMBuyerStrategy.onOffersReceived none) (js "c1"), .signed 0 [],
    .accepted 0 .null 0, .quoteSigned 0 .null, .posted 0]

/-- The strategy counters with 60, and the sanitizer makes it 50; then it accepts 30. -/
def withinBudget : List (AgentLabel sampleLib) :=
  [samplePost, .poll 0 (js "rfq-1"), .eventsArrive 0 [sampleOffer "o1" "30"] 0,
    .strategyAnswers 0 (fun _ _ => .ok (.counter (some (.str (js "did:seller")))
      ⟨.finite 60, sample_sixty⟩)) (js "c1"),
    .proofReady 0 .null, .signed 0 [], .posted 0, .poll 1 (js "rfq-1"),
    .eventsArrive 1 [sampleOffer "o2" "60"] 0,
    .strategyAnswers 1 (LLMBuyerStrategy.onOffersReceived none) (js "c2"), .signed 1 [],
    .accepted 1 .null 0, .quoteSigned 1 .null, .posted 1]

theorem overspends_sample :
    (Decimal.finite 0).lt sampleConfig.priv.budgetHard.decimal = true ∧
      ¬ ∀ m ∈ (run (BuyerAgent.step sampleConfig) empty overspending).sent,
        m.WithinBudget sampleLib sampleConfig.priv.budgetHard.decimal := by
  constructor
  · decide +kernel
  · decide +kernel

theorem keepsBudget_iff_affordable_sample :
    Guarded (BuyerAgent.step sampleConfig) (Affordable sampleConfig) empty withinBudget ∧
      (run (BuyerAgent.step sampleConfig) empty withinBudget).sent.length = 4 ∧
      ∀ m ∈ (run (BuyerAgent.step sampleConfig) empty withinBudget).sent,
        m.WithinBudget sampleLib sampleConfig.priv.budgetHard.decimal := by
  have hguarded : Guarded (BuyerAgent.step sampleConfig) (Affordable sampleConfig) empty
      withinBudget := by
    decide +kernel
  have hlength : (run (BuyerAgent.step sampleConfig) empty withinBudget).sent.length = 4 := by
    decide +kernel
  exact ⟨hguarded, hlength, (keepsBudget_iff_affordable sampleConfig).1 withinBudget hguarded⟩

end BuyerAgent
end GhostBazaar.Agents
