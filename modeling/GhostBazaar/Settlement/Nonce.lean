import GhostBazaar.Settlement.SettlementSound
import GhostBazaar.Transition
import Mathlib.Logic.Function.Basic

/-! `verifyAndExecute` on a server with concurrent calls. A call suspends at the RPC and
at the service executor; the consumed nonces are shared. -/
namespace GhostBazaar.Settlement
open Js GhostBazaar.Core Transition

/-! ### Nonces -/

/-- `consumedNonces.has(quoteId)`. An object is only equal to itself, and every request
decodes to new objects. -/
def isNonceConsumed (consumedNonces : List JsValue) (quoteId : JsValue) : Bool :=
  consumedNonces.any fun v => v.strictEq quoteId

def consumeNonce (consumedNonces : List JsValue) (quoteId : JsValue) : List JsValue :=
  quoteId :: consumedNonces

/-! ### Receipts -/

structure DealReceipt where
  quoteId : JsValue
  finalPrice : JsValue
  buyerPubkey : JsValue
  sellerPubkey : JsValue
  settledAt : Option JsString

structure SettlementResponse where
  receipt : DealReceipt
  explorerTx : JsString
  settlementMs : ℤ

def buildReceipt (env : SettlementEnv) (quote : Members) (request : SettlementRequest)
    (settlementMs now : ℤ) : SettlementResponse :=
  let pubkeyText (did : JsValue) : JsValue :=
    match env.publicKeyOf did with
    | some key => some (.str (env.toBase58 key))
    | none => did
  { receipt :=
      { quoteId := quote.lookup (js "quote_id")
        finalPrice := quote.lookup (js "final_price")
        buyerPubkey := pubkeyText (quote.lookup (js "buyer"))
        sellerPubkey := pubkeyText (quote.lookup (js "seller"))
        settledAt := toISOString now }
    explorerTx := explorerUrl request.paymentSignature request.cluster
    settlementMs }

/-! ### The calls of a server -/

/-- Steps 5 to 15, between the reply of the RPC and the start of the executor. -/
def checkBeforeExecution (env : SettlementEnv) (consumedNonces : List JsValue)
    (request : SettlementRequest) (quote : Members) (tx : JsValue) (now : ℤ) :
    Settling Unit := do
  let _ ← checkPayment env true request.usdcMint quote tx
  let nonceOk ← liftThrown (regexTest isNonce (quote.lookup (js "nonce")))
  require nonceOk invalidNonceFormat
  require (isNonceConsumed consumedNonces (quote.lookup (js "quote_id")) = false) nonceReplayed
  let expiresMs ← liftThrown (dateParseOf env.legacyDate (quote.lookup (js "expires_at")))
  require (isExpired now expiresMs = false) expiredQuote

inductive Execution where
  | idle
  /-- Suspended at the RPC. -/
  | fetching (request : SettlementRequest) (startMs : ℤ) (quote : Members)
  /-- The executor is started and unfinished. -/
  | executing (request : SettlementRequest) (startMs : ℤ) (quote : Members)
  | returned (response : SettlementResponse)
  | failed (e : Failure SettlementError)

structure SettlementServer where
  consumedNonces : List JsValue
  call : ℕ → Execution
  /-- The quote ids whose executor has returned, one entry for each time. -/
  completed : List JsValue

inductive ServerLabel where
  | call (t : ℕ) (request : SettlementRequest) (now : ℤ)
  | rpcReturns (t : ℕ) (tx : JsValue) (now : ℤ)
  | rpcThrows (t : ℕ) (e : JsError)
  | executorReturns (t : ℕ) (now : ℤ)
  | executorThrows (t : ℕ) (message : JsString)

namespace SettlementServer

def empty : SettlementServer := ⟨[], fun _ => .idle, []⟩

def setCall (s : SettlementServer) (t : ℕ) (e : Execution) : SettlementServer :=
  { s with call := Function.update s.call t e }

@[simp] theorem call_setCall (s : SettlementServer) (t u : ℕ) (e : Execution) :
    (s.setCall t e).call u = if u = t then e else s.call u := by
  simp [setCall, Function.update_apply]

/-- Step 17: the executor of call `t` has returned. -/
def complete (s : SettlementServer) (t : ℕ) (quoteId : JsValue) (response : SettlementResponse) :
    SettlementServer where
  consumedNonces := consumeNonce s.consumedNonces quoteId
  call := Function.update s.call t (.returned response)
  completed := quoteId :: s.completed

theorem call_complete (s : SettlementServer) (t u : ℕ) (quoteId : JsValue)
    (response : SettlementResponse) :
    (s.complete t quoteId response).call u = if u = t then .returned response else s.call u := by
  simp [complete, Function.update_apply]

def step (env : SettlementEnv) (s : SettlementServer) : ServerLabel → Option SettlementServer
  | .call t request now =>
    match s.call t with
    | .idle =>
      match checkRequest env false request now with
      | .ok quote => some (s.setCall t (.fetching request now quote))
      | .error e => some (s.setCall t (.failed e))
    | _ => none
  | .rpcReturns t tx now =>
    match s.call t with
    | .fetching request startMs quote =>
      match checkBeforeExecution env s.consumedNonces request quote tx now with
      | .ok () => some (s.setCall t (.executing request startMs quote))
      | .error e => some (s.setCall t (.failed e))
    | _ => none
  | .rpcThrows t e =>
    match s.call t with
    | .fetching _ _ _ => some (s.setCall t (.failed (.thrown e)))
    | _ => none
  | .executorReturns t now =>
    match s.call t with
    | .executing request startMs quote =>
      some (s.complete t (quote.lookup (js "quote_id"))
        (buildReceipt env quote request (now - startMs) now))
    | _ => none
  | .executorThrows t message =>
    match s.call t with
    | .executing _ _ _ => some (s.setCall t (.failed (.refused (executionFailed message))))
    | _ => none

/-! ### At most one execution -/

/-- The executor of call `t` is in progress for `quoteId`. -/
def Executing (s : SettlementServer) (t : ℕ) (quoteId : JsValue) : Prop :=
  ∃ request startMs quote, s.call t = .executing request startMs quote ∧
    quote.lookup (js "quote_id") = quoteId

/-- A step starts the executor for a quote id. -/
def Starts (env : SettlementEnv) (s : SettlementServer) (i : ServerLabel) (t : ℕ)
    (quoteId : JsValue) : Prop :=
  ∃ request startMs quote tx now, i = .rpcReturns t tx now ∧
    s.call t = .fetching request startMs quote ∧
    checkBeforeExecution env s.consumedNonces request quote tx now = .ok () ∧
    quote.lookup (js "quote_id") = quoteId

/-- No transaction passes the checks while another call executes the same quote id; and a
quote id that is an object or an array has not been completed before. -/
def NoOverlap (env : SettlementEnv) (s : SettlementServer) (i : ServerLabel) : Prop :=
  ∀ t quoteId, s.Starts env i t quoteId → (∀ u, ¬ s.Executing u quoteId) ∧
    ((∃ v, quoteId = some v ∧ v.isObject = true) → quoteId ∉ s.completed)

structure OnceEach (s : SettlementServer) : Prop where
  exclusive : ∀ t u quoteId, s.Executing t quoteId → s.Executing u quoteId → t = u
  notAgain : ∀ t quoteId, s.Executing t quoteId → quoteId ∉ s.completed
  once : s.completed.Nodup

/-- The quote ids that completed are remembered. -/
structure Remembered (s : SettlementServer) : Prop extends OnceEach s where
  consumed : ∀ quoteId ∈ s.completed, quoteId ∈ s.consumedNonces
  present : ∀ t request startMs quote, s.call t = .fetching request startMs quote →
    (quote.lookup (js "quote_id")).isSome

/-- Moving a call to a phase without an executor adds no execution. -/
theorem executing_of_call {s s' : SettlementServer} {t : ℕ} {e : Execution} {u : ℕ}
    {quoteId : JsValue} (hcall : s'.call u = if u = t then e else s.call u)
    (he : ∀ request startMs quote, e ≠ .executing request startMs quote)
    (h : s'.Executing u quoteId) : u ≠ t ∧ s.Executing u quoteId := by
  obtain ⟨request, startMs, quote, hu, hid⟩ := h
  rw [hcall] at hu
  split_ifs at hu with hut
  · exact absurd hu (he request startMs quote)
  · exact ⟨hut, request, startMs, quote, hu, hid⟩

/-- A call that leaves or enters the server without an executor. -/
theorem Remembered.setCall {s : SettlementServer} (h : s.Remembered) {t : ℕ} {e : Execution}
    (he : ∀ request startMs quote, e ≠ .executing request startMs quote)
    (hpresent : ∀ request startMs quote, e = .fetching request startMs quote →
      (quote.lookup (js "quote_id")).isSome) : (s.setCall t e).Remembered := by
  have hread (u : ℕ) (quoteId : JsValue) (hu : (s.setCall t e).Executing u quoteId) :=
    executing_of_call (call_setCall s t u e) he hu
  refine ⟨⟨fun u v quoteId hu hv => h.exclusive u v quoteId (hread u _ hu).2 (hread v _ hv).2,
    fun u quoteId hu => h.notAgain u quoteId (hread u _ hu).2, h.once⟩, h.consumed, ?_⟩
  intro u request startMs quote hcall
  rw [call_setCall] at hcall
  split_ifs at hcall
  · exact hpresent request startMs quote hcall
  · exact h.present u request startMs quote hcall

theorem checkBeforeExecution_fresh {env : SettlementEnv} {consumedNonces : List JsValue}
    {request : SettlementRequest} {quote : Members} {tx : JsValue} {now : ℤ}
    (h : checkBeforeExecution env consumedNonces request quote tx now = .ok ()) :
    isNonceConsumed consumedNonces (quote.lookup (js "quote_id")) = false := by
  simp only [checkBeforeExecution, bind_eq_ok, require_eq_ok, liftThrown_eq_ok] at h
  obtain ⟨_, -, _, -, -, -, -, hfresh, -⟩ := h
  exact hfresh

theorem not_mem_of_fresh {consumedNonces : List JsValue} {v : Json}
    (h : isNonceConsumed consumedNonces (some v) = false) (hv : v.isObject = false) :
    some v ∉ consumedNonces := by
  intro hmem
  rw [isNonceConsumed, List.any_eq_false] at h
  exact h (some v) hmem (by simp [JsValue.strictEq, hv])

theorem Remembered.start {env : SettlementEnv} {s : SettlementServer} (h : s.Remembered)
    {t : ℕ} {request : SettlementRequest} {startMs : ℤ} {quote : Members} {tx : JsValue} {now : ℤ}
    (hcall : s.call t = .fetching request startMs quote)
    (hcheck : checkBeforeExecution env s.consumedNonces request quote tx now = .ok ())
    (hok : s.NoOverlap env (.rpcReturns t tx now)) :
    (s.setCall t (.executing request startMs quote)).Remembered := by
  obtain ⟨halone, hobject⟩ := hok t _ ⟨request, startMs, quote, tx, now, rfl, hcall, hcheck, rfl⟩
  have hread (u : ℕ) (quoteId : JsValue)
      (hu : (s.setCall t (.executing request startMs quote)).Executing u quoteId) :
      u = t ∧ quoteId = quote.lookup (js "quote_id") ∨ u ≠ t ∧ s.Executing u quoteId := by
    obtain ⟨r, m, q, hq, hid⟩ := hu
    rw [call_setCall] at hq
    split_ifs at hq with hut
    · rw [Execution.executing.injEq] at hq
      exact Or.inl ⟨hut, by rw [← hid, hq.2.2]⟩
    · exact Or.inr ⟨hut, r, m, q, hq, hid⟩
  have hfresh : quote.lookup (js "quote_id") ∉ s.completed := by
    obtain ⟨v, hv⟩ := Option.isSome_iff_exists.mp (h.present t request startMs quote hcall)
    cases hobj : v.isObject with
    | true => exact hobject ⟨v, hv, hobj⟩
    | false =>
      intro hmem
      have hconsumed := checkBeforeExecution_fresh hcheck
      rw [hv] at hconsumed hmem
      exact not_mem_of_fresh hconsumed hobj (h.consumed _ hmem)
  refine ⟨⟨fun u v quoteId hu hv => ?_, fun u quoteId hu => ?_, h.once⟩, h.consumed, ?_⟩
  · rcases hread u quoteId hu with ⟨rfl, hidu⟩ | ⟨-, hu'⟩
    · rcases hread v quoteId hv with ⟨rfl, -⟩ | ⟨-, hv'⟩
      · rfl
      · exact absurd (hidu ▸ hv') (halone v)
    · rcases hread v quoteId hv with ⟨rfl, hidv⟩ | ⟨-, hv'⟩
      · exact absurd (hidv ▸ hu') (halone u)
      · exact h.exclusive u v quoteId hu' hv'
  · rcases hread u quoteId hu with ⟨-, hid⟩ | ⟨-, hu'⟩
    · exact hid ▸ hfresh
    · exact h.notAgain u quoteId hu'
  · intro u r m q hcall'
    rw [call_setCall] at hcall'
    split_ifs at hcall'
    exact h.present u r m q hcall'

theorem Remembered.complete {s : SettlementServer} (h : s.Remembered) {t : ℕ}
    {request : SettlementRequest} {startMs : ℤ} {quote : Members}
    (hcall : s.call t = .executing request startMs quote) (response : SettlementResponse) :
    (s.complete t (quote.lookup (js "quote_id")) response).Remembered := by
  have hrun : s.Executing t (quote.lookup (js "quote_id")) := ⟨request, startMs, quote, hcall, rfl⟩
  have hread (u : ℕ) (quoteId : JsValue)
      (hu : (s.complete t (quote.lookup (js "quote_id")) response).Executing u quoteId) :=
    executing_of_call (call_complete s t u _ response) (by rintro _ _ _ ⟨⟩) hu
  refine ⟨⟨fun u v quoteId hu hv => h.exclusive u v quoteId (hread u _ hu).2 (hread v _ hv).2,
    fun u quoteId hu hmem => ?_, ?_⟩, fun quoteId hmem => ?_, fun u r m q hq => ?_⟩
  · obtain ⟨hut, hu'⟩ := hread u quoteId hu
    rcases List.mem_cons.mp hmem with rfl | hmem
    · exact hut (h.exclusive u t _ hu' hrun)
    · exact h.notAgain u quoteId hu' hmem
  · exact List.nodup_cons.mpr ⟨h.notAgain t _ hrun, h.once⟩
  · rcases List.mem_cons.mp hmem with rfl | hmem
    · exact List.mem_cons_self
    · exact List.mem_cons_of_mem _ (h.consumed quoteId hmem)
  · rw [call_complete] at hq
    split_ifs at hq
    exact h.present u r m q hq

theorem Remembered.step {env : SettlementEnv} {s s' : SettlementServer} {i : ServerLabel}
    (h : s.Remembered) (hok : s.NoOverlap env i) (hstep : s.step env i = some s') :
    s'.Remembered := by
  cases i with
  | call t request now =>
    simp only [SettlementServer.step] at hstep
    split at hstep
    · split at hstep <;> simp only [Option.some.injEq] at hstep <;> subst hstep
      · rename_i quote hquote
        refine h.setCall (by rintro _ _ _ ⟨⟩) fun r m q hq => ?_
        rw [Execution.fetching.injEq] at hq
        have hid := (decodeQuoteHeader_eq_ok.mp (checkRequest_eq_ok.mp hquote).1).2
        rw [← hq.2.2]
        cases hlookup : quote.lookup (js "quote_id") with
        | none => simp [hlookup, JsValue.isTruthy] at hid
        | some v => rfl
      · exact h.setCall (by rintro _ _ _ ⟨⟩) (by rintro _ _ _ ⟨⟩)
    · simp at hstep
  | rpcReturns t tx now =>
    simp only [SettlementServer.step] at hstep
    split at hstep
    · rename_i request startMs quote hcall
      split at hstep <;> simp only [Option.some.injEq] at hstep <;> subst hstep
      · rename_i hcheck
        exact h.start hcall hcheck hok
      · exact h.setCall (by rintro _ _ _ ⟨⟩) (by rintro _ _ _ ⟨⟩)
    · simp at hstep
  | rpcThrows t e =>
    simp only [SettlementServer.step] at hstep
    split at hstep <;> simp only [reduceCtorEq, Option.some.injEq] at hstep
    exact hstep ▸ h.setCall (by rintro _ _ _ ⟨⟩) (by rintro _ _ _ ⟨⟩)
  | executorReturns t now =>
    simp only [SettlementServer.step] at hstep
    split at hstep <;> simp only [reduceCtorEq, Option.some.injEq] at hstep
    rename_i request startMs quote hcall
    exact hstep ▸ h.complete hcall _
  | executorThrows t message =>
    simp only [SettlementServer.step] at hstep
    split at hstep <;> simp only [reduceCtorEq, Option.some.injEq] at hstep
    exact hstep ▸ h.setCall (by rintro _ _ _ ⟨⟩) (by rintro _ _ _ ⟨⟩)

theorem empty_remembered : Remembered empty where
  exclusive := by simp [Executing, empty]
  notAgain := by simp [Executing, empty]
  once := List.nodup_nil
  consumed := by simp [empty]
  present := by simp [empty]

/-- In every run without an overlap, executions of one quote id exclude each other, none
follows a completed one, and each quote id completes at most once. -/
theorem verifyAndExecute_once (env : SettlementEnv) (is : List ServerLabel)
    (hok : Guarded (step env) (NoOverlap env) empty is) :
    OnceEach (run (step env) empty is) :=
  (hok.invariant (P := Remembered) (fun _ _ _ h hi hstep => h.step hi hstep)
    empty_remembered).toOnceEach

end SettlementServer

/-! ### Two calls at once -/

def signedByBuyer : JsString :=
  js "ed25519:XnP3/gAAgxX00CLvzWCSC0SbQKDlGJ3oJj018tlfXTAev4lLcPPthzXEi+Vci+qMrp1pDVB2Is03v7THrsajDg=="

def signedBySeller : JsString :=
  js "ed25519:+d7Ma6+RmJYzXPdxJnLOWieAuiZPQYsoZehOjtpPzoyaSm0NSYkmocZwpG+19/uBjCw0A9l6Qmvfno9QaZuwAA=="

def signedQuote : Members :=
  [(js "quote_id", .str (js "3f2c8f0e-6d1b-4c7e-9a55-0c2f8f3f1a10")),
    (js "rfq_id", .str (js "8b0c6e0f-3f0a-4a58-8c39-5d2a1a7e7f01")),
    (js "buyer", .str sampleBuyer),
    (js "seller", .str sampleSeller),
    (js "service_type", .str (js "translation")),
    (js "final_price", .str (js "9")),
    (js "currency", .str (js "USDC")),
    (js "payment_endpoint", .str (js "https://seller.example/execute")),
    (js "expires_at", .str (js "2026-03-01T12:05:00.000Z")),
    (js "nonce", .str (js "0x5a5a5a5a5a5a5a5a5a5a5a5a5a5a5a5a5a5a5a5a5a5a5a5a5a5a5a5a5a5a5a5a")),
    (js "memo_policy", .str (js "quote_id_required")),
    (js "buyer_signature", .str signedByBuyer),
    (js "seller_signature", .str signedBySeller)]

/-- The base64 text of `signedQuote`. -/
def signedHeader : JsString :=
  js "eyJxdW90ZV9pZCI6IjNmMmM4ZjBlLTZkMWItNGM3ZS05YTU1LTBjMmY4ZjNmMWExMCIsInJmcV9pZCI6Ijhi" ++
    js "MGM2ZTBmLTNmMGEtNGE1OC04YzM5LTVkMmExYTdlN2YwMSIsImJ1eWVyIjoiZGlkOmtleTp6Nk1rcjhSUUVj" ++
    js "YmdqaGRxR01wVFFiM2NlU2Jabkd6WHp6S2RqS1c2VzJSTVRpejYiLCJzZWxsZXIiOiJkaWQ6a2V5Ono2TWtq" ++
    js "NTk3M202UzVNdHh5YXBuV05LZUZSanRuTkduOWc3N0F1YTVGUHhrNkpEVSIsInNlcnZpY2VfdHlwZSI6InRy" ++
    js "YW5zbGF0aW9uIiwiZmluYWxfcHJpY2UiOiI5IiwiY3VycmVuY3kiOiJVU0RDIiwicGF5bWVudF9lbmRwb2lu" ++
    js "dCI6Imh0dHBzOi8vc2VsbGVyLmV4YW1wbGUvZXhlY3V0ZSIsImV4cGlyZXNfYXQiOiIyMDI2LTAzLTAxVDEy" ++
    js "OjA1OjAwLjAwMFoiLCJub25jZSI6IjB4NWE1YTVhNWE1YTVhNWE1YTVhNWE1YTVhNWE1YTVhNWE1YTVhNWE1" ++
    js "YTVhNWE1YTVhNWE1YTVhNWE1YTVhNWE1YSIsIm1lbW9fcG9saWN5IjoicXVvdGVfaWRfcmVxdWlyZWQiLCJi" ++
    js "dXllcl9zaWduYXR1cmUiOiJlZDI1NTE5OlhuUDMvZ0FBZ3hYMDBDTHZ6V0NTQzBTYlFLRGxHSjNvSmowMTh0" ++
    js "bGZYVEFldjRsTGNQUHRoelhFaStWY2krcU1ycDFwRFZCMklzMDN2N1RIcnNhakRnPT0iLCJzZWxsZXJfc2ln" ++
    js "bmF0dXJlIjoiZWQyNTUxOTorZDdNYTYrUm1KWXpYUGR4Sm5MT1dpZUF1aVpQUVlzb1plaE9qdHBQem95YVNt" ++
    js "ME5TWWttb2Nad3BHKzE5L3VCakN3MEE5bDZRbXZmbm85UWFadXdBQT09In0="

def signedRequest : SettlementRequest := ⟨signedHeader, samplePayment, usdcMint, none⟩

def signedPayment : Json := paymentTx sampleAccountText (js "9000000") usdcMint
  (js "GhostBazaar:quote_id:3f2c8f0e-6d1b-4c7e-9a55-0c2f8f3f1a10")

/-- 2026-03-01T12:01:00Z -/
def beforeExpiry : ℤ := 1772366460000

abbrev signedEnv : SettlementEnv := sampleEnv (.obj signedQuote) [signedByBuyer, signedBySeller]

namespace SettlementServer

/-- A call that completes, and a second call for the same quote after it. -/
def oneByOne : List ServerLabel :=
  [.call 1 signedRequest beforeExpiry, .rpcReturns 1 (some signedPayment) beforeExpiry,
    .executorReturns 1 beforeExpiry, .call 2 signedRequest beforeExpiry,
    .rpcReturns 2 (some signedPayment) beforeExpiry]

/-- Both calls pass the nonce check before either executor returns. -/
def bothAtOnce : List ServerLabel :=
  [.call 1 signedRequest beforeExpiry, .call 2 signedRequest beforeExpiry,
    .rpcReturns 1 (some signedPayment) beforeExpiry,
    .rpcReturns 2 (some signedPayment) beforeExpiry,
    .executorReturns 1 beforeExpiry, .executorReturns 2 beforeExpiry]

theorem checkRequest_signed :
    checkRequest signedEnv false signedRequest beforeExpiry = .ok signedQuote := by
  have h : (checkRequest signedEnv false signedRequest beforeExpiry).toOption =
      some signedQuote := by decide +kernel
  cases hc : checkRequest signedEnv false signedRequest beforeExpiry with
  | error e => simp [hc, Except.toOption] at h
  | ok quote => simpa [hc, Except.toOption] using h

theorem checkBeforeExecution_signed : checkBeforeExecution signedEnv [] signedRequest signedQuote
    (some signedPayment) beforeExpiry = .ok () := by
  have h : succeeds (checkBeforeExecution signedEnv [] signedRequest signedQuote
      (some signedPayment) beforeExpiry) = true := by decide +kernel
  exact (succeeds_iff.mp h).choose_spec

theorem next_call {env : SettlementEnv} {s : SettlementServer} {t : ℕ}
    {request : SettlementRequest} {now : ℤ} {quote : Members} (hidle : s.call t = .idle)
    (hcheck : checkRequest env false request now = .ok quote) :
    next (step env) s (.call t request now) = s.setCall t (.fetching request now quote) := by
  simp [next, step, hidle, hcheck]

theorem next_rpcReturns {env : SettlementEnv} {s : SettlementServer} {t : ℕ}
    {request : SettlementRequest} {startMs now : ℤ} {quote : Members} {tx : JsValue}
    (hcall : s.call t = .fetching request startMs quote)
    (hcheck : checkBeforeExecution env s.consumedNonces request quote tx now = .ok ()) :
    next (step env) s (.rpcReturns t tx now) =
      s.setCall t (.executing request startMs quote) := by
  simp [next, step, hcall, hcheck]

theorem next_executorReturns {env : SettlementEnv} {s : SettlementServer} {t : ℕ}
    {request : SettlementRequest} {startMs now : ℤ} {quote : Members}
    (hcall : s.call t = .executing request startMs quote) :
    next (step env) s (.executorReturns t now) = s.complete t (quote.lookup (js "quote_id"))
      (buildReceipt env quote request (now - startMs) now) := by
  simp [next, step, hcall]

/-- Without an executor in progress, a quote id that is a text may start one. -/
theorem noOverlap_of_alone {env : SettlementEnv} {s : SettlementServer} {i : ServerLabel}
    (halone : ∀ u request startMs quote, s.call u ≠ .executing request startMs quote)
    (htext : ∀ u request startMs quote, s.call u = .fetching request startMs quote →
      ∃ id, quote.lookup (js "quote_id") = some (.str id)) : s.NoOverlap env i := by
  rintro t quoteId ⟨request, startMs, quote, tx, now, -, hcall, -, rfl⟩
  refine ⟨fun u ⟨r, m, q, hu, _⟩ => halone u r m q hu, ?_⟩
  rintro ⟨v, hv, hobject⟩
  obtain ⟨id, hid⟩ := htext t request startMs quote hcall
  rw [hid, Option.some.injEq] at hv
  simp [← hv, Json.isObject] at hobject

theorem verifyAndExecute_once_oneByOne :
    OnceEach (run (step signedEnv) empty oneByOne) := by
  refine verifyAndExecute_once signedEnv oneByOne ?_
  let fetching : Execution := .fetching signedRequest beforeExpiry signedQuote
  let s₁ := empty.setCall 1 fetching
  let s₂ := s₁.setCall 1 (.executing signedRequest beforeExpiry signedQuote)
  let s₃ := s₂.complete 1 (signedQuote.lookup (js "quote_id"))
    (buildReceipt signedEnv signedQuote signedRequest (beforeExpiry - beforeExpiry) beforeExpiry)
  let s₄ := s₃.setCall 2 fetching
  have h₁ : next (step signedEnv) empty (.call 1 signedRequest beforeExpiry) = s₁ :=
    next_call rfl checkRequest_signed
  have h₂ : next (step signedEnv) s₁ (.rpcReturns 1 (some signedPayment) beforeExpiry) = s₂ :=
    next_rpcReturns (by simp [s₁, fetching]) checkBeforeExecution_signed
  have h₃ : next (step signedEnv) s₂ (.executorReturns 1 beforeExpiry) = s₃ :=
    next_executorReturns (by simp [s₂])
  have h₄ : next (step signedEnv) s₃ (.call 2 signedRequest beforeExpiry) = s₄ :=
    next_call (by simp [s₃, s₂, s₁, call_complete, empty]) checkRequest_signed
  have htext : ∃ id, signedQuote.lookup (js "quote_id") = some (.str id) :=
    ⟨js "3f2c8f0e-6d1b-4c7e-9a55-0c2f8f3f1a10", by decide +kernel⟩
  rw [oneByOne, Guarded, Guarded, Guarded, Guarded, Guarded, h₁, h₂, h₃, h₄]
  refine ⟨noOverlap_of_alone (by rintro _ _ _ _ ⟨⟩) (by rintro _ _ _ _ ⟨⟩), noOverlap_of_alone ?_ ?_, ?_,
    noOverlap_of_alone ?_ ?_, noOverlap_of_alone ?_ ?_, trivial⟩
  case refine_3 =>
    rintro t quoteId ⟨_, _, _, _, _, hlabel, -⟩
    cases hlabel
  all_goals
    intro u request startMs quote
    simp only [s₄, s₃, s₂, s₁, fetching, empty, call_setCall, call_complete]
    split_ifs <;> simp
  all_goals
    rintro - - rfl
    exact htext

/-- Two executors run for one quote, which completes twice. -/
theorem verifyAndExecute_twice : ¬ OnceEach (run (step signedEnv) empty bothAtOnce) := by
  intro h
  have htwice : (run (step signedEnv) empty bothAtOnce).completed =
      [signedQuote.lookup (js "quote_id"), signedQuote.lookup (js "quote_id")] := by
    decide +kernel
  have honce := h.once
  simp [htwice] at honce

end SettlementServer
end GhostBazaar.Settlement
