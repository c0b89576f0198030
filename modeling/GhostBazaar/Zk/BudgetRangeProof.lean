import GhostBazaar.Engine.CommittedQuote
import GhostBazaar.Zk.Comparators
import GhostBazaar.Zk.ScalarField

/-! The budget circuit, and the counters of the engine that it is asked about. Its comparator goes
round the circle of the field, so it is sound for the prices that are far enough from the end. -/
namespace GhostBazaar.Zk
open Js GhostBazaar.Core Settlement Engine Transition

/-! ### The circuit -/

structure BudgetRangeProof (F : Type) where
  counter_price_scaled : F
  budget_commitment : F
  budget_hard_scaled : F
  commitment_salt : F
  leq : LessEqThan F 64

variable {F : Type} [Field F]

/-- `poseidon` is the hash of two inputs. -/
structure BudgetRangeProof.Holds (poseidon : F → F → F) (w : BudgetRangeProof F) : Prop where
  commitment : poseidon w.budget_hard_scaled w.commitment_salt = w.budget_commitment
  leq : w.leq.Holds
  price : w.leq.in 0 = w.counter_price_scaled
  budget : w.leq.in 1 = w.budget_hard_scaled
  range : w.leq.out = 1

/-- What a proof about this price shows of the budget, whatever the assignment is. -/
def ProvesWithinBudget (p : ℕ) [Fact p.Prime] (poseidon : ZMod p → ZMod p → ZMod p) (n : ℕ) :
    Prop :=
  ∀ w : BudgetRangeProof (ZMod p), w.Holds poseidon → w.counter_price_scaled = n →
    n ≤ w.budget_hard_scaled.val

/-- The assignment for a budget that is `d` above the price, along the circle. -/
def BudgetRangeProof.prove (poseidon : F → F → F) (price salt : F) (d : ℕ) :
    BudgetRangeProof F where
  counter_price_scaled := price
  budget_commitment := poseidon (price + d) salt
  budget_hard_scaled := price + d
  commitment_salt := salt
  leq := .prove 64 price d

theorem BudgetRangeProof.prove_holds (poseidon : F → F → F) (price salt : F) {d : ℕ}
    (hd : d < 2 ^ 64) : (BudgetRangeProof.prove poseidon price salt d).Holds poseidon :=
  ⟨rfl, LessEqThan.prove_holds price hd, rfl, rfl, rfl⟩

section

variable {p : ℕ} [Fact p.Prime] {poseidon : ZMod p → ZMod p → ZMod p} {n : ℕ}

/-- A price that leaves room for `2 ^ 64` steps does not come round to the start. -/
theorem provesWithinBudget_of_room (h : n + 2 ^ 64 ≤ p) : ProvesWithinBudget p poseidon n := by
  intro w hw hprice
  obtain ⟨d, hd, hbudget⟩ := hw.leq.exists_add hw.range
  rw [hw.budget, hw.price, hprice, ← Nat.cast_add] at hbudget
  rw [hbudget, ZMod.val_natCast_of_lt (by omega)]
  exact Nat.le_add_right n d

/-- Closer to the end there is an assignment for a budget that is below the price. -/
theorem not_provesWithinBudget (h : p < n + 2 ^ 64) (hn : 0 < n) :
    ¬ ProvesWithinBudget p poseidon n := by
  intro hproves
  -- the steps to the end, if the price lies before it
  have hd : p - n < 2 ^ 64 := by omega
  have hle := hproves (.prove poseidon n 0 (p - n)) (BudgetRangeProof.prove_holds _ _ _ hd) rfl
  have hval : ((n : ZMod p) + ((p - n : ℕ) : ZMod p)).val = (n + (p - n)) % p := by
    rw [← Nat.cast_add, ZMod.val_natCast]
  have hle : n ≤ (n + (p - n)) % p := hval ▸ hle
  rcases Nat.lt_or_ge n p with hlt | hge
  · rw [Nat.add_sub_cancel' hlt.le, Nat.mod_self] at hle
    omega
  · have hmod := Nat.mod_lt (n + (p - n)) (Nat.Prime.pos Fact.out : 0 < p)
    omega

theorem provesWithinBudget_iff (hn : 0 < n) :
    ProvesWithinBudget p poseidon n ↔ n + 2 ^ 64 ≤ p := by
  constructor
  · intro hproves
    by_contra hroom
    exact not_provesWithinBudget (by omega) hn hproves
  · exact provesWithinBudget_of_room

end

/-! ### The counters that the engine admits -/

/-- The counter route asks for a price of at least one unit, and for no more. -/
theorem checkCounter_units {env : EngineEnv} {now : ℤ} {rfqId : JsString} {body : Json}
    {session : Option DerivedSession} (h : checkCounter env now rfqId body session = .ok ()) :
    ∃ s mint n, session = some s ∧ mintFor s.rfq.currency = .ok mint ∧
      normalizeAmount env.mintDecimals (body.get? (js "price")) mint = .ok n ∧ 0 < n := by
  simp only [checkCounter, bind_eq_ok, checkAmount, liftThrown_eq_ok, require_eq_ok] at h
  obtain ⟨s, hs, -, -, mint, hmint, -, ⟨n, hn, hpos⟩, -⟩ := h
  rw [requireSession, orThrow_eq_ok] at hs
  exact ⟨s, mint, n, hs, hmint, hn, hpos⟩

/-- The circuit is sound for an admitted counter exactly when its price leaves room for the
comparator below the modulus. -/
theorem checkCounter_provesWithinBudget_iff (poseidon : Scalar → Scalar → Scalar)
    {env : EngineEnv} {now : ℤ} {rfqId : JsString} {body : Json}
    {session : Option DerivedSession} (h : checkCounter env now rfqId body session = .ok ()) :
    ∃ s mint n, session = some s ∧ mintFor s.rfq.currency = .ok mint ∧
      normalizeAmount env.mintDecimals (body.get? (js "price")) mint = .ok n ∧
      (ProvesWithinBudget scalarModulus poseidon n ↔ n + 2 ^ 64 ≤ scalarModulus) := by
  obtain ⟨s, mint, n, hs, hmint, hn, hpos⟩ := checkCounter_units h
  exact ⟨s, mint, n, hs, hmint, hn, provesWithinBudget_iff hpos⟩

/-! ### A price just below the modulus -/

/-- The request of the examples, with a commitment. -/
def committedRfqBody : Json :=
  .obj [text "rfq_id" firstNegotiation.rfqId, text "protocol" (js "ghost-bazaar-v4"),
    text "buyer" Settlement.sampleBuyer, text "service_type" (js "translation"),
      (js "spec", .obj []),
    text "anchor_price" (js "10"), text "currency" (js "USDC"), text "deadline" sampleDeadline,
    text "budget_commitment" (js "poseidon:" ++ List.replicate 64 49),
    text "signature" firstNegotiation.rfqSignature]

def budgetCounterBody (price : JsString) (scaled : ℕ) : Json :=
  .obj [text "counter_id" firstNegotiation.envelopeId, text "rfq_id" firstNegotiation.rfqId,
    (js "round", .num ⟨false, 1, 1, Or.inl (by decide)⟩), text "from" Settlement.sampleBuyer,
    text "to" Settlement.sampleSeller, text "price" price, text "currency" (js "USDC"),
    text "valid_until" sampleDeadline,
    (js "budget_proof", .obj [text "protocol" (js "groth16"), text "curve" (js "bn128"),
      text "counter_price_scaled" (natText scaled)]),
    text "signature" firstNegotiation.acceptSignature]

/-- The largest price whose units are below the modulus. -/
def wrappingPrice : JsString :=
  js "21888242871839275222246405745257275088548364400416034343698204186575808.495616"

/-- The verifier accepts, as it does for the proof of a satisfying assignment. -/
def budgetEnv : EngineEnv :=
  { sampleEngineEnv .null firstNegotiation.signatures with verifyBudgetProof := fun _ _ _ => true }

/-- The buyer asks with a commitment, and the seller offers. -/
def budgetRun : EngineState InMemoryEventStore :=
  let asked := firstNegotiation.moment firstNegotiation.created
  let offered := firstNegotiation.moment firstNegotiation.offered
  run (EngineState.step budgetEnv) EngineState.empty
    [.addListing sampleListing, .request 0 (.createRfq (some committedRfqBody)) asked,
      .resume 0 asked, .cleanup 0, .release 0,
      .request 1 (.submitOffer firstNegotiation.rfqId (some firstNegotiation.offerBody)) offered,
      .resume 1 offered, .cleanup 1, .release 1]

/-- The session of the run, and whether the route admits this counter to it. -/
def admitsCounter (body : Json) (s : DerivedSession) : Bool :=
  match checkCounter budgetEnv sampleNow firstNegotiation.rfqId body (some s) with
  | .ok () => s.rfq.currency = js "USDC"
  | .error _ => false

theorem admitsCounter_eq_true {body : Json} {s : DerivedSession}
    (h : admitsCounter body s = true) :
    checkCounter budgetEnv sampleNow firstNegotiation.rfqId body (some s) = .ok () ∧
      s.rfq.currency = js "USDC" := by
  unfold admitsCounter at h
  split at h
  · rename_i hcheck
    exact ⟨hcheck, of_decide_eq_true h⟩
  · cases h

/-- A price of nine leaves room. -/
theorem checkCounter_provesWithinBudget_nine : ∃ s,
    (budgetRun.manager.getSession 0 firstNegotiation.rfqId).1 = .ok (some s) ∧
      ∃ mint n, normalizeAmount MINT_DECIMALS (some (.str (js "9"))) mint = .ok n ∧
        (ProvesWithinBudget scalarModulus (fun budget salt => budget + salt) n ↔
          n + 2 ^ 64 ≤ scalarModulus) := by
  obtain ⟨s, hs, hadmitted⟩ := exists_session (p := admitsCounter
    (budgetCounterBody (js "9") 9000000)) (x := (budgetRun.manager.getSession 0
      firstNegotiation.rfqId).1) (by decide +kernel)
  obtain ⟨-, mint, n, -, -, hn, hiff⟩ := checkCounter_provesWithinBudget_iff
    (fun budget salt => budget + salt) (admitsCounter_eq_true hadmitted).1
  exact ⟨s, hs, mint, n, hn, hiff⟩

/-- The engine admits the price, and the circuit a budget of nothing for it. -/
theorem budgetRangeProof_wraps : ∃ s mint,
    (budgetRun.manager.getSession 0 firstNegotiation.rfqId).1 = .ok (some s) ∧
      checkCounter budgetEnv sampleNow firstNegotiation.rfqId
        (budgetCounterBody wrappingPrice (scalarModulus - 1)) (some s) = .ok () ∧
      mintFor s.rfq.currency = .ok mint ∧
      normalizeAmount MINT_DECIMALS (some (.str wrappingPrice)) mint =
        .ok (scalarModulus - 1) ∧
      ∃ w : BudgetRangeProof Scalar, w.Holds (fun budget salt => budget + salt) ∧
        w.counter_price_scaled = (scalarModulus - 1 : ℕ) ∧ w.budget_hard_scaled.val = 0 := by
  obtain ⟨s, hs, hadmitted⟩ := exists_session (p := admitsCounter
    (budgetCounterBody wrappingPrice (scalarModulus - 1))) (x := (budgetRun.manager.getSession 0
      firstNegotiation.rfqId).1) (by decide +kernel)
  obtain ⟨hcheck, hcurrency⟩ := admitsCounter_eq_true hadmitted
  refine ⟨s, js "4zMMC9srt5Ri5X14GAgXhaHii3GnPAEERYPJgZJDncDU", hs, hcheck, ?_, ?_, ?_⟩
  · rw [hcurrency]
    rfl
  · rw [normalizeAmount_eq_ok]
    exact ⟨6, wrappingPrice, by decide +kernel, rfl, by decide +kernel, by decide +kernel⟩
  · refine ⟨.prove _ (scalarModulus - 1 : ℕ) 0 1,
      BudgetRangeProof.prove_holds _ _ _ (by norm_num), rfl, ?_⟩
    have hend : ((scalarModulus - 1 : ℕ) : Scalar) + (1 : ℕ) = 0 := by
      rw [← Nat.cast_add]
      exact ZMod.natCast_self scalarModulus
    exact (congrArg ZMod.val hend).trans ZMod.val_zero

end GhostBazaar.Zk
