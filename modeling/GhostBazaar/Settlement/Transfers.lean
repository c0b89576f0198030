import GhostBazaar.Settlement.Escapes

/-! The transfer and the memo that a verification accepts, in a parsed or in a raw instruction. -/
namespace GhostBazaar.Settlement
open Js GhostBazaar.Core

/-! ### Loops that return from their body -/

section Loops
variable {α β : Type} {f : α → Except JsError (Option β)}

theorem findFirst_eq_none {xs : List α} : findFirst f xs = .ok none ↔ ∀ x ∈ xs, f x = .ok none := by
  induction xs with
  | nil => simp [findFirst]
  | cons x xs ih =>
    rw [findFirst, bind_eq_ok, List.forall_mem_cons, ← ih]
    constructor
    · rintro ⟨found, hfound, hrest⟩
      cases found with
      | some y => cases hrest
      | none => exact ⟨hfound, hrest⟩
    · rintro ⟨hx, hrest⟩
      exact ⟨none, hx, hrest⟩

theorem findFirst_append {pre xs : List α} (hpre : ∀ y ∈ pre, f y = .ok none) :
    findFirst f (pre ++ xs) = findFirst f xs := by
  induction pre with
  | nil => rfl
  | cons y pre ih =>
    rw [List.forall_mem_cons] at hpre
    rw [List.cons_append, findFirst, hpre.1]
    exact ih hpre.2

theorem findFirst_eq_some {xs : List α} {y : β} : findFirst f xs = .ok (some y) ↔
    ∃ pre x post, xs = pre ++ x :: post ∧ (∀ z ∈ pre, f z = .ok none) ∧ f x = .ok (some y) := by
  constructor
  · intro h
    induction xs with
    | nil => simp [findFirst] at h
    | cons x xs ih =>
      rw [findFirst, bind_eq_ok] at h
      obtain ⟨found, hfound, hrest⟩ := h
      cases found with
      | some z =>
        cases hrest
        exact ⟨[], x, xs, rfl, by simp, hfound⟩
      | none =>
        obtain ⟨pre, z, post, rfl, hpre, hz⟩ := ih hrest
        exact ⟨x :: pre, z, post, rfl, List.forall_mem_cons.mpr ⟨hfound, hpre⟩, hz⟩
  · rintro ⟨pre, x, post, rfl, hpre, hx⟩
    rw [findFirst_append hpre, findFirst, hx]
    rfl

end Loops

/-! ### Instructions that pay -/

/-- `ix.parsed.info` -/
def infoOf (ix : Json) : JsValue := JsValue.get? (ix.get? (js "parsed")) (js "info")

/-- The amount of parsed token information. -/
def ReadsAmount (info : JsValue) (amount : ℕ) : Prop :=
  let tokenAmount := (info.get? (js "tokenAmount")).get? (js "amount")
  if tokenAmount.isNullish then
    ∃ s, stringOf (info.get? (js "amount")) = .ok s ∧ stringToBigInt s = some (amount : ℤ)
  else toBigInt tokenAmount = .ok (amount : ℤ)

/-- A parsed `transferChecked` of the token program. -/
structure ParsedPays (mint destination : JsString) (amount : ℕ) (ix : Json) : Prop where
  token : IsTokenInstruction ix
  type : JsValue.get? (ix.get? (js "parsed")) (js "type") = some (.str (js "transferChecked"))
  mint : (infoOf ix).get? (js "mint") = some (.str mint)
  destination : (infoOf ix).get? (js "destination") = some (.str destination)
  amount : ReadsAmount (infoOf ix) amount

/-- The account at this place of the instruction has this text. -/
def HasAccount (accountKeys : JsValue) (ix : Json) (place : ℕ) (text : JsString) : Prop :=
  ∃ index, elementAt (ix.get? (js "accounts")) place = .ok index ∧
    resolveAccountKey accountKeys index = .ok (some (.str text))

/-- A compiled `TransferChecked` of the token program: its data are the type, eight bytes of the
amount in little-endian order and the decimals. -/
structure RawPays (base58Decode : JsString → Option (List UInt8)) (accountKeys : JsValue)
    (mint destination : JsString) (amount : ℕ) (ix : Json) : Prop where
  program : ∃ key, element accountKeys (ix.get? (js "programIdIndex")) = .ok key ∧
    callToString key = .ok (some (.str TOKEN_PROGRAM_ID))
  data : ∃ encoded bytes, ix.get? (js "data") = some (.str encoded) ∧ encoded ≠ [] ∧
    base58Decode encoded = some (12 :: bytes) ∧ 9 ≤ bytes.length ∧
    Nat.ofDigits 256 ((bytes.take 8).map UInt8.toNat) = amount
  source : ∃ index source, elementAt (ix.get? (js "accounts")) 0 = .ok index ∧
    resolveAccountKey accountKeys index = .ok source
  mint : HasAccount accountKeys ix 1 mint
  destination : HasAccount accountKeys ix 2 destination

/-- What a transfer says, as far as it is compared. -/
def Agrees (transfer : TransferInfo) (mint destination : JsString) (amount : ℕ) : Prop :=
  transfer.mint = some (.str mint) ∧ transfer.destination = some (.str destination) ∧
    toBigInt transfer.amount = .ok (amount : ℤ)

theorem isTruthy_of_get? {v : JsValue} {key : JsString} {x : Json} (h : v.get? key = some x) :
    v.isTruthy = true := by
  rcases v with _ | (_ | _ | _ | _ | _ | _)
  all_goals first | rfl | cases h

variable {mint destination : JsString} {amount : ℕ} {ix : Json}

theorem readsAmount_iff {info : JsValue} : ReadsAmount info amount ↔ ∃ v,
    (let tokenAmount := (info.get? (js "tokenAmount")).get? (js "amount")
    if tokenAmount.isNullish then
      (stringOf (info.get? (js "amount"))).map fun s => some (Json.str s)
    else .ok tokenAmount) = .ok v ∧ toBigInt v = .ok (amount : ℤ) := by
  unfold ReadsAmount
  simp only
  split_ifs with hnullish
  · have hread (s : JsString) : toBigInt (some (.str s)) = .ok (amount : ℤ) ↔
        stringToBigInt s = some (amount : ℤ) := by
      simp [toBigInt, bind_eq_ok, stringOf_str]
    simp only [map_eq_ok]
    constructor
    · rintro ⟨s, hs, hamount⟩
      exact ⟨_, ⟨s, hs, rfl⟩, (hread s).mpr hamount⟩
    · rintro ⟨_, ⟨s, hs, rfl⟩, hamount⟩
      exact ⟨s, hs, (hread s).mp hamount⟩
  · simp

theorem ite_bind {α β ε : Type} {p : Prop} [Decidable p] {x y : Except ε α} {f : α → Except ε β} :
    (if p then x else y) >>= f = if p then x >>= f else y >>= f := by
  split_ifs <;> rfl

/-- The code finds a parsed payment exactly where there is one. -/
theorem parsedTransfer_agrees_iff :
    (∃ transfer, parsedTransfer ix = .ok (some transfer) ∧ Agrees transfer mint destination amount) ↔
      ParsedPays mint destination amount ix := by
  have hkinds : js "transfer" ≠ js "transferChecked" := by decide
  by_cases hnull : ix = .null
  · subst hnull
    constructor
    · rintro ⟨transfer, h, -⟩
      cases h
    · intro h
      cases h.type
  rw [parsedTransfer, member_of_ne_null hnull, ok_bind]
  constructor
  · rintro ⟨transfer, h, hmint, hdestination, hamount⟩
    split at h
    · cases h
    · obtain ⟨program, hprogram, h⟩ := bind_eq_ok.mp h
      split at h
      · rename_i htoken
        rw [Bool.or_eq_true, JsValue.strictEq_str] at htoken
        simp only at h
        split at h
        · rename_i hchecked
          rw [Bool.and_eq_true, JsValue.strictEq_str] at hchecked
          rw [← ite_bind, bind_eq_ok] at h
          obtain ⟨v, hv, hresult⟩ := h
          cases hresult
          have hmint' : (infoOf ix).get? (js "mint") = some (.str mint) := by
            unfold orElse at hmint
            split at hmint <;> simp_all [infoOf]
          exact ⟨⟨program, hprogram, by simpa [JsValue.strictEq_str] using htoken⟩, hchecked.1,
            hmint', hdestination, readsAmount_iff.mpr ⟨v, hv, hamount⟩⟩
        · split at h
          · obtain ⟨s, hs, hresult⟩ := bind_eq_ok.mp h
            cases hresult
            cases hmint
          · cases h
      · cases h
  · intro h
    have hinfo : JsValue.isTruthy (infoOf ix) = true := isTruthy_of_get? h.mint
    have hparsed : JsValue.isTruthy (ix.get? (js "parsed")) = true := isTruthy_of_get? h.type
    obtain ⟨program, hprogram, htoken⟩ := h.token
    obtain ⟨v, hv, hamount⟩ := readsAmount_iff.mp h.amount
    have hmint : orElse ((infoOf ix).get? (js "mint")) (some .null) = some (.str mint) := by
      rw [h.mint]
      rfl
    refine ⟨⟨(infoOf ix).get? (js "source"), (infoOf ix).get? (js "destination"), v,
      orElse ((infoOf ix).get? (js "mint")) (some .null)⟩, ?_, hmint, h.destination, hamount⟩
    have hprogram' : (program.strictEq (some (.str TOKEN_PROGRAM_ID)) ||
        JsValue.strictEq (ix.get? (js "program")) (some (.str (js "spl-token")))) = true := by
      rwa [Bool.or_eq_true]
    unfold infoOf at hinfo hv
    simp only [hparsed, Bool.not_true, Bool.false_eq_true, if_false, hprogram, ok_bind, hprogram',
      if_true, h.type, (JsValue.strictEq_str _ _).mpr, Bool.true_and, hinfo, infoOf]
    simp only at hv
    split_ifs at hv ⊢ with hnullish
    · rw [hv]
      rfl
    · cases hv
      rfl

theorem readU64LE_cons (u : UInt8) (bytes : List UInt8) :
    readU64LE (u :: bytes) 1 = Nat.ofDigits 256 ((bytes.take 8).map UInt8.toNat) := by
  rw [readU64LE, List.drop_one, List.tail_cons]
  induction bytes.take 8 with
  | nil => rfl
  | cons b bs ih => rw [List.foldr_cons, ih, List.map_cons, Nat.ofDigits_cons]

theorem toBigInt_natText (n : ℕ) : toBigInt (some (.str (natText n))) = .ok (n : ℤ) := by
  simp only [toBigInt, bind_eq_ok, orThrow_eq_ok]
  exact ⟨natText n, stringOf_str _, stringToBigInt_natText n⟩

theorem orElse_text_iff {key text : JsValue} (h : callToString key = .ok text) (s : JsString) :
    orElse text key = some (.str s) ↔ text = some (.str s) := by
  cases hnullish : text.isNullish with
  | false => simp [orElse, hnullish]
  | true =>
    -- without a text the key is nullish, or an object whose `toString` is `null`
    have hkey : key ≠ some (.str s) := by
      rintro rfl
      simp only [callToString, stringOf_str, Except.map, Except.ok.injEq] at h
      cases h
      cases hnullish
    have htext : text ≠ some (.str s) := by
      rintro rfl
      cases hnullish
    simp [orElse, hnullish, hkey, htext]

/-- The code finds a compiled payment exactly where there is one. -/
theorem rawTransfer_agrees_iff {base58Decode : JsString → Option (List UInt8)}
    {accountKeys : JsValue} :
    (∃ transfer, rawTransfer base58Decode accountKeys ix = .ok (some transfer) ∧
      Agrees transfer mint destination amount) ↔
      RawPays base58Decode accountKeys mint destination amount ix := by
  by_cases hnull : ix = .null
  · subst hnull
    constructor
    · rintro ⟨transfer, h, -⟩
      cases h
    · intro h
      obtain ⟨_, _, hdata, -⟩ := h.data
      cases hdata
  rw [rawTransfer, member_of_ne_null hnull, ok_bind]
  constructor
  · rintro ⟨transfer, h, hmint, hdestination, hamount⟩
    obtain ⟨key, hkey, h⟩ := bind_eq_ok.mp h
    obtain ⟨text, htext, h⟩ := bind_eq_ok.mp h
    simp only [Bool.and_eq_true, JsValue.strictEq_str, orElse_text_iff htext] at h
    split at h
    · rename_i htoken
      obtain ⟨encoded, hencoded, h⟩ := bind_eq_ok.mp h
      obtain ⟨data, hdata, h⟩ := bind_eq_ok.mp h
      rw [asString_eq_ok] at hencoded
      rw [orThrow_eq_ok] at hdata
      split at h
      · obtain ⟨_, -, h⟩ := bind_eq_ok.mp h
        obtain ⟨_, -, h⟩ := bind_eq_ok.mp h
        obtain ⟨_, -, h⟩ := bind_eq_ok.mp h
        obtain ⟨_, -, h⟩ := bind_eq_ok.mp h
        cases h
        cases hmint
      · split at h
        · rename_i hchecked
          obtain ⟨_, hindex₀, h⟩ := bind_eq_ok.mp h
          obtain ⟨_, hsource, h⟩ := bind_eq_ok.mp h
          obtain ⟨_, hindex₂, h⟩ := bind_eq_ok.mp h
          obtain ⟨_, hkey₂, h⟩ := bind_eq_ok.mp h
          obtain ⟨_, hindex₁, h⟩ := bind_eq_ok.mp h
          obtain ⟨_, hkey₁, h⟩ := bind_eq_ok.mp h
          cases h
          simp only at hmint hdestination hamount
          obtain ⟨hhead, hlength⟩ := hchecked
          obtain ⟨bytes, rfl⟩ : ∃ bytes, data = 12 :: bytes := by
            cases data with
            | nil => cases hhead
            | cons u bytes =>
              rw [List.head?_cons, Option.some.injEq] at hhead
              exact ⟨bytes, by rw [hhead]⟩
          rw [toBigInt_natText, Except.ok.injEq, Nat.cast_inj, readU64LE_cons] at hamount
          have hne : encoded ≠ [] := by
            rintro rfl
            rw [hencoded] at htoken
            exact absurd htoken.2 (by decide)
          exact ⟨⟨key, hkey, htext.trans (congrArg Except.ok htoken.1)⟩,
            ⟨encoded, bytes, hencoded, hne, hdata, by simpa using hlength, hamount⟩,
            ⟨_, _, hindex₀, hsource⟩, ⟨_, hindex₁, hmint ▸ hkey₁⟩, _, hindex₂, hdestination ▸ hkey₂⟩
        · cases h
    · cases h
  · intro h
    obtain ⟨key, hkey, hprogram⟩ := h.program
    obtain ⟨encoded, bytes, hencoded, hne, hdata, hlength, hamount⟩ := h.data
    obtain ⟨index₀, source, hindex₀, hsource⟩ := h.source
    obtain ⟨index₁, hindex₁, hkey₁⟩ := h.mint
    obtain ⟨index₂, hindex₂, hkey₂⟩ := h.destination
    refine ⟨⟨source, some (.str destination), some (.str (natText amount)), some (.str mint)⟩, ?_,
      rfl, rfl, toBigInt_natText amount⟩
    have htoken : JsValue.strictEq (orElse (some (.str TOKEN_PROGRAM_ID)) key)
        (some (.str TOKEN_PROGRAM_ID)) = true := by
      rw [JsValue.strictEq_str, orElse_text_iff hprogram]
    have htruthy : JsValue.isTruthy (some (.str encoded)) = true := by
      simpa [JsValue.isTruthy, Json.isTruthy] using hne
    have hkind : ¬ (12 : UInt8) = 3 := by decide
    simp only [hkey, hprogram, ok_bind, htoken, hencoded, htruthy, Bool.and_self, if_true, asString,
      JsValue.asStr, Json.asStr, Option.bind_some, orThrow, hdata, List.head?_cons,
        Option.some.injEq, hkind,
      false_and, if_false, List.length_cons, true_and, Nat.succ_le_succ hlength, hindex₀, hsource,
      hindex₁, hkey₁, hindex₂, hkey₂, readU64LE_cons, hamount]
    rfl

/-! ### The transfer that decides -/

/-- `tx.transaction?.message?.accountKeys` -/
def accountKeysOf (tx : Json) : JsValue :=
  (JsValue.get? (tx.get? (js "transaction")) (js "message")).get? (js "accountKeys")

theorem extractSplTransfer_eq_some {base58Decode : JsString → Option (List UInt8)} {tx : Json}
    {transfer : TransferInfo} :
    extractSplTransfer base58Decode tx = .ok (some transfer) ↔
      ∃ all, collectInstructions tx = .ok all ∧
        (findFirst parsedTransfer all = .ok (some transfer) ∨
          findFirst parsedTransfer all = .ok none ∧ (accountKeysOf tx).isTruthy = true ∧
            (topInstructions tx).isTruthy = true ∧ ∃ top, iterate (topInstructions tx) = .ok top ∧
              findFirst (rawTransfer base58Decode (accountKeysOf tx)) top =
                .ok (some transfer)) := by
  rw [extractSplTransfer, bind_eq_ok]
  refine exists_congr fun all => and_congr_right fun _ => ?_
  cases hparsed : findFirst parsedTransfer all with
  | error e => simp [error_bind]
  | ok found =>
    cases found with
    | some info => simp [ok_bind, Pure.pure, Except.pure]
    | none =>
      change (if (accountKeysOf tx).isTruthy && (topInstructions tx).isTruthy then
        iterate (topInstructions tx) >>= findFirst (rawTransfer base58Decode (accountKeysOf tx))
        else pure none) = .ok (some transfer) ↔ _
      cases hkeys : (accountKeysOf tx).isTruthy <;>
        cases htop : (topInstructions tx).isTruthy <;>
        simp [bind_eq_ok, Pure.pure, Except.pure]

section Payments
variable {env : SettlementEnv} {usdcMint : JsString} {quote : Members} {tx : Json}

/-- An instruction that pays, parsed or compiled. -/
inductive PaysBy (env : SettlementEnv) (tx : Json) (mint destination : JsString) (amount : ℕ)
    (ix : Json) : Prop where
  | parsed (hpays : ParsedPays mint destination amount ix)
  | raw (hpays : RawPays env.base58Decode (accountKeysOf tx) mint destination amount ix)

/-- What the quote asks for: the token account of its seller, and its price in base units. -/
structure Asks (env : SettlementEnv) (usdcMint : JsString) (quote : Members)
    (destination : JsString) (amount : ℕ) : Prop where
  destination : ∃ seller mint account, env.publicKeyOf (quote.lookup (js "seller")) = some seller ∧
    env.newPublicKey usdcMint = some mint ∧
    env.associatedTokenAddress mint seller = some account ∧ env.toBase58 account = destination
  amount : normalizeAmount env.mintDecimals (quote.lookup (js "final_price")) usdcMint = .ok amount

theorem Asks.unique {destination destination' : JsString} {amount amount' : ℕ}
    (h : Asks env usdcMint quote destination amount)
    (h' : Asks env usdcMint quote destination' amount') :
    destination = destination' ∧ amount = amount' := by
  obtain ⟨seller, mint, account, hseller, hmint, haccount, rfl⟩ := h.destination
  obtain ⟨seller', mint', account', hseller', hmint', haccount', rfl⟩ := h'.destination
  obtain rfl : seller = seller' := Option.some.inj (hseller.symm.trans hseller')
  obtain rfl : mint = mint' := Option.some.inj (hmint.symm.trans hmint')
  obtain rfl : account = account' := Option.some.inj (haccount.symm.trans haccount')
  exact ⟨rfl, Except.ok.inj (h.amount.symm.trans h'.amount)⟩

theorem pays_iff {transfer : TransferInfo} : Pays env usdcMint quote transfer ↔
    ∃ destination amount, Asks env usdcMint quote destination amount ∧
      Agrees transfer usdcMint destination amount := by
  constructor
  · rintro ⟨⟨seller, mint, account, hseller, hmint, haccount, hdestination⟩, hpaid, amount,
      hamount, hread⟩
    exact ⟨env.toBase58 account, amount,
      ⟨⟨seller, mint, account, hseller, hmint, haccount, rfl⟩, hamount⟩, hpaid, hdestination, hread⟩
  · rintro ⟨_, amount, ⟨⟨seller, mint, account, hseller, hmint, haccount, rfl⟩, hamount⟩, hpaid,
      hdestination, hread⟩
    exact ⟨⟨seller, mint, account, hseller, hmint, haccount, hdestination⟩, hpaid, amount, hamount,
      hread⟩

/-- The first transfer that the scan comes to pays: a parsed one, with no parsed transfer before it
in any instruction; or without a parsed transfer, a compiled one at the top level. -/
inductive FirstPays (env : SettlementEnv) (tx : Json) (mint destination : JsString)
    (amount : ℕ) : Prop where
  | parsed (pre : List Json) (ix : Json) (post : List Json)
      (hall : collectInstructions tx = .ok (pre ++ ix :: post))
      (hpre : ∀ y ∈ pre, parsedTransfer y = .ok none) (hpays : ParsedPays mint destination amount ix)
  | raw (all pre : List Json) (ix : Json) (post : List Json)
      (hall : collectInstructions tx = .ok all) (hnone : ∀ y ∈ all, parsedTransfer y = .ok none)
      (hkeys : (accountKeysOf tx).isTruthy = true)
      (hlist : (topInstructions tx).isTruthy = true)
      (htop : iterate (topInstructions tx) = .ok (pre ++ ix :: post))
      (hpre : ∀ y ∈ pre, rawTransfer env.base58Decode (accountKeysOf tx) y = .ok none)
      (hpays : RawPays env.base58Decode (accountKeysOf tx) mint destination amount ix)

theorem firstPays_iff {mint destination : JsString} {amount : ℕ} :
    (∃ transfer, extractSplTransfer env.base58Decode tx = .ok (some transfer) ∧
      Agrees transfer mint destination amount) ↔ FirstPays env tx mint destination amount := by
  constructor
  · rintro ⟨transfer, hextract, hagrees⟩
    obtain ⟨all, hall, hparsed | ⟨hnone, hkeys, hlist, top, htop, hraw⟩⟩ :=
      extractSplTransfer_eq_some.mp hextract
    · obtain ⟨pre, ix, post, rfl, hpre, hix⟩ := findFirst_eq_some.mp hparsed
      exact .parsed pre ix post hall hpre (parsedTransfer_agrees_iff.mp ⟨transfer, hix, hagrees⟩)
    · obtain ⟨pre, ix, post, rfl, hpre, hix⟩ := findFirst_eq_some.mp hraw
      exact .raw all pre ix post hall (findFirst_eq_none.mp hnone) hkeys hlist htop hpre
        (rawTransfer_agrees_iff.mp ⟨transfer, hix, hagrees⟩)
  · intro h
    cases h with
    | parsed pre ix post hall hpre hpays =>
      obtain ⟨transfer, hix, hagrees⟩ := parsedTransfer_agrees_iff.mpr hpays
      exact ⟨transfer, extractSplTransfer_eq_some.mpr
        ⟨_, hall, Or.inl (findFirst_eq_some.mpr ⟨pre, ix, post, rfl, hpre, hix⟩)⟩, hagrees⟩
    | raw all pre ix post hall hnone hkeys hlist htop hpre hpays =>
      obtain ⟨transfer, hix, hagrees⟩ := rawTransfer_agrees_iff.mpr hpays
      exact ⟨transfer, extractSplTransfer_eq_some.mpr ⟨all, hall,
        Or.inr ⟨findFirst_eq_none.mpr hnone, hkeys, hlist, _, htop,
          findFirst_eq_some.mpr ⟨pre, ix, post, rfl, hpre, hix⟩⟩⟩, hagrees⟩

/-! ### Steps 7 to 10 -/

/-- The part of `checkPayment` from the key of the seller to the amount. -/
def checkTransfer (env : SettlementEnv) (refuseFalsyMint : Bool) (usdcMint : JsString)
    (quote : Members) (tx : Json) : Settling Unit := do
  let sellerPubkey ← orThrow (env.publicKeyOf (quote.lookup (js "seller")))
    (.refused (malformedQuoteHeader (js "Cannot derive seller pubkey from DID")))
  let mint ← orThrow (env.newPublicKey usdcMint)
    (.thrown (.error (js "Invalid public key input")))
  let expectedAmount ← liftThrown
    (normalizeAmount env.mintDecimals (quote.lookup (js "final_price")) usdcMint)
  let expectedDestination ← orThrow (env.associatedTokenAddress mint sellerPubkey)
    (.thrown (.error []))
  let found ← liftThrown (extractSplTransfer env.base58Decode tx)
  let transfer ← orThrow found (.refused transferInstructionMissing)
  require (transfer.destination.strictEq (some (.str (env.toBase58 expectedDestination))))
    transferDestinationMismatch
  require (transfer.mint.strictEq (some (.str usdcMint)) ∧
    (refuseFalsyMint → transfer.mint.isTruthy)) transferMintMismatch
  let amount ← liftThrown (toBigInt transfer.amount)
  require (amount = expectedAmount) priceMismatch

theorem checkPayment_eq_steps (refuseFalsyMint : Bool) (tx : JsValue) :
    checkPayment env refuseFalsyMint usdcMint quote tx = (do
      let tx ← orThrow (tx.filter Json.isTruthy) (.refused transactionNotFound)
      require (JsValue.isTruthy (JsValue.get? (tx.get? (js "meta")) (js "err")) = false)
        transactionFailed
      require (JsValue.isTruthy (tx.get? (js "slot"))) transactionNotConfirmed
      checkTransfer env refuseFalsyMint usdcMint quote tx
      checkMemo env quote tx
      return tx) := by
  simp only [checkPayment, checkTransfer, bind_assoc]

theorem checkTransfer_eq_ok {refuseFalsyMint : Bool} :
    checkTransfer env refuseFalsyMint usdcMint quote tx = .ok () ↔
      ∃ transfer, extractSplTransfer env.base58Decode tx = .ok (some transfer) ∧
        Pays env usdcMint quote transfer ∧
        (refuseFalsyMint = true → transfer.mint.isTruthy = true) := by
  simp only [checkTransfer, bind_eq_ok, require_eq_ok, liftThrown_eq_ok, orThrow_eq_ok,
    JsValue.strictEq_str]
  constructor
  · rintro ⟨seller, hseller, mint, hmint, amount, hamount, account, haccount, _, hextract,
      transfer, rfl, ⟨⟩, hdestination, ⟨⟩, ⟨hpaid, htruthy⟩, _, hread, rfl⟩
    exact ⟨transfer, hextract, ⟨⟨seller, mint, account, hseller, hmint, haccount, hdestination⟩,
      hpaid, amount, hamount, hread⟩, htruthy⟩
  · rintro ⟨transfer, hextract, ⟨⟨seller, mint, account, hseller, hmint, haccount, hdestination⟩,
      hpaid, amount, hamount, hread⟩, htruthy⟩
    exact ⟨seller, hseller, mint, hmint, amount, hamount, account, haccount, _, hextract, transfer,
      rfl, (), hdestination, (), ⟨hpaid, htruthy⟩, amount, hread, rfl⟩

/-- A top-level instruction pays what the quote asks for. -/
def PaysAtTop (env : SettlementEnv) (usdcMint : JsString) (quote : Members) (tx : Json) : Prop :=
  ∃ destination amount, Asks env usdcMint quote destination amount ∧
    ∃ top, iterate (topInstructions tx) = .ok top ∧
      ∃ ix ∈ top, PaysBy env tx usdcMint destination amount ix

/-- Both verifications pass the steps on a transaction with a payment at its top level exactly when
the first transfer of the transaction is such a payment. -/
theorem payment_detected_iff (env : SettlementEnv) (usdcMint : JsString) (quote : Members)
    (tx : Json) :
    (PaysAtTop env usdcMint quote tx →
      ∀ refuseFalsyMint, checkTransfer env refuseFalsyMint usdcMint quote tx = .ok ()) ↔
    (PaysAtTop env usdcMint quote tx → usdcMint ≠ [] ∧ ∃ destination amount,
      Asks env usdcMint quote destination amount ∧
        FirstPays env tx usdcMint destination amount) := by
  refine forall_congr' fun _ => ?_
  simp only [checkTransfer_eq_ok, pays_iff]
  constructor
  · intro h
    obtain ⟨transfer, hextract, ⟨destination, amount, hasks, hagrees⟩, htruthy⟩ := h true
    refine ⟨?_, destination, amount, hasks, firstPays_iff.mp ⟨transfer, hextract, hagrees⟩⟩
    rintro rfl
    have hmint := htruthy rfl
    rw [hagrees.1] at hmint
    cases hmint
  · rintro ⟨hne, destination, amount, hasks, hfirst⟩ refuseFalsyMint
    obtain ⟨transfer, hextract, hagrees⟩ := firstPays_iff.mpr hfirst
    refine ⟨transfer, hextract, ⟨destination, amount, hasks, hagrees⟩, fun _ => ?_⟩
    rw [hagrees.1]
    simpa [JsValue.isTruthy, Json.isTruthy] using hne

end Payments

/-- A parsed transfer of the token program without a mint. -/
def plainTransfer (destination amount : JsString) : Json :=
  .obj [(js "program", .str (js "spl-token")),
    (js "parsed", .obj [(js "type", .str (js "transfer")),
      (js "info", .obj [(js "destination", .str destination), (js "amount", .str amount)])])]

def checkedTransfer (destination amount mint : JsString) : Json :=
  .obj [(js "program", .str (js "spl-token")),
    (js "parsed", .obj [(js "type", .str (js "transferChecked")),
      (js "info", .obj [(js "destination", .str destination), (js "mint", .str mint),
        (js "tokenAmount", .obj [(js "amount", .str amount)])])])]

/-- A payment of `signedQuote` after a fee of five units to another account. -/
def feeFirst : Json :=
  .obj [(js "slot", .num (.ofNat 1)),
    (js "transaction", .obj [(js "message", .obj [(js "instructions", .arr [
      plainTransfer otherAccountText (js "5"),
      checkedTransfer sampleAccountText (js "9000000") usdcMint])])])]

theorem payment_missed : ¬ (PaysAtTop signedEnv usdcMint signedQuote feeFirst →
    ∀ refuseFalsyMint,
      checkTransfer signedEnv refuseFalsyMint usdcMint signedQuote feeFirst = .ok ()) := by
  have hread : toBigInt (some (.str (js "9000000"))) = .ok (9000000 : ℤ) := by decide +kernel
  have hpays : ParsedPays usdcMint sampleAccountText 9000000
      (checkedTransfer sampleAccountText (js "9000000") usdcMint) :=
    parsedTransfer_agrees_iff.mp ⟨_, rfl, rfl, rfl, hread⟩
  have hasks : Asks signedEnv usdcMint signedQuote sampleAccountText 9000000 := by
    constructor
    · refine ⟨sampleSellerKey, usdcMintKey, sampleSellerAccount, ?_, ?_, ?_, ?_⟩ <;>
        decide +kernel
    · decide +kernel
  intro h
  have hchecked := h ⟨_, _, hasks, _, rfl, _, by simp, .parsed hpays⟩ true
  obtain ⟨transfer, hextract, hpaid, -⟩ := checkTransfer_eq_ok.mp hchecked
  have hplain : extractSplTransfer signedEnv.base58Decode feeFirst =
      .ok (some ⟨none, some (.str otherAccountText), some (.str (js "5")), some .null⟩) := rfl
  rw [hplain, Except.ok.injEq, Option.some.injEq] at hextract
  have hmint := hpaid.mint
  rw [← hextract] at hmint
  cases hmint

end GhostBazaar.Settlement
