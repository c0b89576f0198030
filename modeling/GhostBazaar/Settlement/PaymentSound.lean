import GhostBazaar.Settlement.Transfers

/-! What a verification has seen when it accepts a payment: the transfer that the quote asks for,
and the memo that its policy asks for. -/
namespace GhostBazaar.Settlement
open Js GhostBazaar.Core

/-! ### The memo -/

/-- The memo that an instruction of a memo program carries: its parsed text, its decoded data, or
data that is not base58. -/
inductive InstructionMemo (base58Decode : JsString → Option (List UInt8)) (ix memo : Json) :
    Prop where
  | parsed (s : JsString) (hparsed : ix.get? (js "parsed") = some (.str s)) (hmemo : memo = .str s)
  | decoded (encoded : JsString) (bytes : List UInt8)
      (hdata : ix.get? (js "data") = some (.str encoded)) (hbytes : base58Decode encoded = some bytes)
      (hmemo : memo = .str (utf8Decode .initial bytes))
  | undecoded (hdata : ix.get? (js "data") = some memo)
      (hbytes : memo.asStr.bind base58Decode = none)

/-- The memo that a line of the log shows. -/
inductive LogMemo (line memo : JsString) : Prop where
  | quoted (hline : memoLog line = some memo)
  | named (hstart : startsWith line (js "Program log: ") = true)
      (hname : includes line (js "Ghost Bazaar:") = true) (hmemo : memo = line.drop 13)

/-- The transaction carries this memo, in an instruction or in its log. -/
inductive CarriesMemo (base58Decode : JsString → Option (List UInt8)) (tx memo : Json) : Prop where
  | instruction (all : List Json) (ix : Json) (hall : collectInstructions tx = .ok all)
      (hmem : ix ∈ all) (program : JsValue) (hprogram : programOf ix = .ok program)
      (hmemo : isMemoProgram program (ix.get? (js "program")) = true)
      (hcarries : InstructionMemo base58Decode ix memo)
  | log (lines : List Json) (line s : JsString)
      (hlines : iterateIfTruthy (JsValue.get? (tx.get? (js "meta")) (js "logMessages")) = .ok lines)
      (hmem : .str line ∈ lines) (hline : LogMemo line s) (hmemo : memo = .str s)

/-- The texts of a memo: a memo that is a list has those of its elements. -/
def memoTexts : Json → List JsString
  | .str s => [s]
  | .arr xs => xs.filterMap Json.toJsString
  | _ => []

variable {env : SettlementEnv} {tx ix memo : Json}

theorem instructionMemo_eq_some {base58Decode : JsString → Option (List UInt8)}
    (h : instructionMemo base58Decode ix = .ok (some memo)) : ∃ program,
      programOf ix = .ok program ∧ isMemoProgram program (ix.get? (js "program")) = true ∧
        InstructionMemo base58Decode ix memo := by
  rw [instructionMemo, bind_eq_ok] at h
  obtain ⟨program, hprogram, h⟩ := h
  refine ⟨program, hprogram, ?_⟩
  split at h
  · rename_i hmemo
    refine ⟨hmemo, ?_⟩
    split at h
    · rename_i u s hparsed
      cases h
      exact .parsed (u :: s) hparsed rfl
    · split at h
      · cases h
      · rename_i data hdata
        split at h
        · cases h
        · split at h
          · rename_i bytes hbytes
            cases h
            cases data with
            | str encoded => exact .decoded encoded bytes hdata hbytes rfl
            | _ => cases hbytes
          · rename_i hbytes
            cases h
            exact .undecoded hdata hbytes
  · cases h

theorem logMemo_eq_some {log : Json} (h : logMemo log = .ok (some memo)) :
    ∃ line s, log = .str line ∧ memo = .str s ∧ LogMemo line s := by
  rw [logMemo, bind_eq_ok] at h
  obtain ⟨line, hline, h⟩ := h
  rw [asString_eq_ok, Option.some.injEq] at hline
  split at h
  · rename_i s hs
    cases h
    exact ⟨line, s, hline, rfl, .quoted hs⟩
  · split at h
    · rename_i hnamed
      rw [Bool.and_eq_true] at hnamed
      cases h
      exact ⟨line, _, hline, rfl, .named hnamed.1 hnamed.2 rfl⟩
    · cases h

theorem extractMemo_eq_some {base58Decode : JsString → Option (List UInt8)}
    (h : extractMemo base58Decode tx = .ok (some memo)) : CarriesMemo base58Decode tx memo := by
  rw [extractMemo, bind_eq_ok] at h
  obtain ⟨all, hall, h⟩ := h
  obtain ⟨found, hfound, h⟩ := bind_eq_ok.mp h
  cases found with
  | some m =>
    cases h
    obtain ⟨pre, ix, post, rfl, -, hix⟩ := findFirst_eq_some.mp hfound
    obtain ⟨program, hprogram, hmemo, hcarries⟩ := instructionMemo_eq_some hix
    exact .instruction _ ix hall (by simp) program hprogram hmemo hcarries
  | none =>
    obtain ⟨lines, hlines, h⟩ := bind_eq_ok.mp h
    obtain ⟨pre, log, post, rfl, -, hlog⟩ := findFirst_eq_some.mp h
    obtain ⟨line, s, rfl, hmemo, hline⟩ := logMemo_eq_some hlog
    exact .log _ line s hlines (by simp) hline hmemo

/-- A memo that passes the comparison has a text that contains the text asked for. -/
theorem memoIncludes_text {needle : JsValue} (h : memoIncludes memo needle = .ok true) :
    ∃ text, stringOf needle = .ok text ∧ ∃ s ∈ memoTexts memo, includes s text = true := by
  cases memo with
  | str s =>
    obtain ⟨text, htext, hincludes⟩ := map_eq_ok.mp h
    exact ⟨text, htext, s, by simp [memoTexts], hincludes⟩
  | arr xs =>
    obtain ⟨text, htext⟩ := memoIncludes_stringOf h
    simp only [memoIncludes, Except.ok.injEq, List.any_eq_true] at h
    obtain ⟨x, hx, hsame⟩ := h
    refine ⟨text, htext, text, ?_, ?_⟩
    · cases needle with
      | none => simp [JsValue.strictEq] at hsame
      | some v =>
        rw [JsValue.strictEq, Bool.and_eq_true, decide_eq_true_eq] at hsame
        obtain ⟨-, rfl⟩ := hsame
        exact List.mem_filterMap.mpr ⟨x, hx, orThrow_eq_ok.mp htext⟩
    · exact (includes_iff _ _).mpr ⟨[], [], by simp⟩
  | _ => cases h

/-- What the policy of a quote asks of the memo: a text that contains the quote id, or the SHA-256
of the canonical quote. -/
def MemoKept (env : SettlementEnv) (quote : Members) (tx : Json) : MemoPolicy → Prop
  | .optional => True
  | .quoteIdRequired => ∃ memo, CarriesMemo env.base58Decode tx memo ∧ ∃ id,
      stringOf (quote.lookup (js "quote_id")) = .ok id ∧
      ∃ s ∈ memoTexts memo, includes s id = true
  | .hashRequired => ∃ memo, CarriesMemo env.base58Decode tx memo ∧
      ∃ s ∈ memoTexts memo,
        includes s (hexText (env.sha256 (env.canonicalJson quote)).bytes) = true

theorem checkMemo_kept {quote : Members} {policy : MemoPolicy}
    (hpolicy : quote.lookup (js "memo_policy") = some (.str policy.text))
    (h : checkMemo env quote tx = .ok ()) : MemoKept env quote tx policy := by
  cases policy with
  | optional => trivial
  | quoteIdRequired =>
    obtain ⟨memo, hmemo, hincludes⟩ := checkMemo_quoteIdRequired h hpolicy
    exact ⟨memo, extractMemo_eq_some hmemo, memoIncludes_text hincludes⟩
  | hashRequired =>
    have hopt : js "hash_required" ≠ js "optional" := by decide
    have hid : js "hash_required" ≠ js "quote_id_required" := by decide
    simp only [checkMemo, hpolicy, MemoPolicy.text, JsValue.strictEq_str, Option.some.injEq,
      Json.str.injEq, hopt, hid, if_false, if_true, bind_eq_ok, liftThrown_eq_ok, orThrow_eq_ok,
      require_eq_ok] at h
    obtain ⟨found, hfound, memo, hmemo, matched, hmatched, rfl⟩ := h
    obtain ⟨rfl, -⟩ := Option.filter_eq_some_iff.mp hmemo
    obtain ⟨text, htext, hcontains⟩ := memoIncludes_text hmatched
    rw [stringOf_str, Except.ok.injEq] at htext
    exact ⟨memo, extractMemo_eq_some hfound, htext ▸ hcontains⟩

/-! ### Soundness -/

/-- The transaction has no error, one of its instructions pays the price of the quote in tokens of
the mint to the account of the seller, and its memo is the one that the policy asks for. -/
structure Paid (env : SettlementEnv) (usdcMint : JsString) (quote : Members) (policy : MemoPolicy)
    (tx : Json) : Prop where
  noError : JsValue.isTruthy (JsValue.get? (tx.get? (js "meta")) (js "err")) = false
  transfer : ∃ destination amount, Asks env usdcMint quote destination amount ∧
    ∃ all, collectInstructions tx = .ok all ∧
      ∃ ix ∈ all, PaysBy env tx usdcMint destination amount ix
  memo : MemoKept env quote tx policy

/-- A compiled instruction at the top level is among all instructions. -/
theorem FirstPays.exists_paysBy {mint destination : JsString} {amount : ℕ}
    (h : FirstPays env tx mint destination amount) : ∃ all, collectInstructions tx = .ok all ∧
      ∃ ix ∈ all, PaysBy env tx mint destination amount ix := by
  cases h with
  | parsed pre ix post hall hpre hpays => exact ⟨_, hall, ix, by simp, .parsed hpays⟩
  | raw all pre ix post hall hnone hkeys hlist htop hpre hpays =>
    refine ⟨all, hall, ix, ?_, .raw hpays⟩
    rw [collectInstructions, bind_eq_ok] at hall
    obtain ⟨top, hread, hrest⟩ := hall
    change iterateIfTruthy (topInstructions tx) = .ok top at hread
    rw [iterateIfTruthy_of_truthy hlist, htop, Except.ok.injEq] at hread
    simp only [bind_eq_ok, pure_eq_ok] at hrest
    obtain ⟨_, -, _, -, rfl⟩ := hrest
    rw [← hread]
    simp

theorem checkPayment_paid {refuseFalsyMint : Bool} {usdcMint : JsString} {quote : Members}
    {tx : JsValue} {tx' : Json} {policy : MemoPolicy}
    (hpolicy : quote.lookup (js "memo_policy") = some (.str policy.text))
    (h : checkPayment env refuseFalsyMint usdcMint quote tx = .ok tx') :
    tx = some tx' ∧ Paid env usdcMint quote policy tx' := by
  obtain ⟨htx, -, herror, -, ⟨transfer, hextract, hpays, -⟩, hmemo⟩ := checkPayment_eq_ok.mp h
  obtain ⟨destination, amount, hasks, hagrees⟩ := pays_iff.mp hpays
  have hfirst := firstPays_iff.mp ⟨transfer, hextract, hagrees⟩
  exact ⟨htx, herror, ⟨destination, amount, hasks, hfirst.exists_paysBy⟩,
    checkMemo_kept hpolicy hmemo⟩

/-- A verification that returns, and a call that starts its executor, have seen the payment. -/
theorem accepted_paid (env : SettlementEnv) (request : SettlementRequest) (quote : Members)
    (policy : MemoPolicy) (tx : JsValue)
    (hpolicy : quote.lookup (js "memo_policy") = some (.str policy.text))
    (h : (∃ now result, verifySettlement env request now tx = .ok result ∧ result.quote = quote) ∨
      ∃ (s s' : SettlementServer) (t : ℕ) (startMs now : ℤ),
        s.call t = .fetching request startMs quote ∧
        s.step env (.rpcReturns t tx now) = some s' ∧
        s'.call t = .executing request startMs quote) :
    ∃ t, tx = some t ∧ Paid env request.usdcMint quote policy t := by
  rcases h with ⟨now, result, hresult, rfl⟩ | ⟨s, s', t, startMs, now, hcall, hstep, hstarted⟩
  · obtain ⟨-, ⟨tx', hpayment⟩, -⟩ := verifySettlement_eq_ok hresult
    exact ⟨tx', checkPayment_paid hpolicy hpayment⟩
  · simp only [SettlementServer.step, hcall] at hstep
    cases hcheck : checkBeforeExecution env s.consumedNonces request quote tx now with
    | error e =>
      rw [hcheck, Option.some.injEq] at hstep
      rw [← hstep, SettlementServer.call_setCall, if_pos rfl] at hstarted
      cases hstarted
    | ok u =>
      obtain ⟨tx', hpayment, -⟩ := bind_eq_ok.mp hcheck
      exact ⟨tx', checkPayment_paid hpolicy hpayment⟩

theorem accepted_paid_signed :
    ∃ t, some signedPayment = some t ∧ Paid signedEnv usdcMint signedQuote .quoteIdRequired t := by
  let s := SettlementServer.empty.setCall 1 (.fetching signedRequest beforeExpiry signedQuote)
  have hcall : s.call 1 = .fetching signedRequest beforeExpiry signedQuote := by
    simp [s]
  have hchecked : checkBeforeExecution signedEnv s.consumedNonces signedRequest signedQuote
      (some signedPayment) beforeExpiry = .ok () := SettlementServer.checkBeforeExecution_signed
  have hstep : s.step signedEnv (.rpcReturns 1 (some signedPayment) beforeExpiry) =
      some (s.setCall 1 (.executing signedRequest beforeExpiry signedQuote)) := by
    simp only [SettlementServer.step, hcall, hchecked]
  exact accepted_paid signedEnv signedRequest signedQuote .quoteIdRequired (some signedPayment)
    (by decide +kernel) (Or.inr ⟨s, _, 1, beforeExpiry, beforeExpiry, hcall, hstep, by simp⟩)

end GhostBazaar.Settlement
