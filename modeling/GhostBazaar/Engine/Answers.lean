import GhostBazaar.Engine.Segment

/-! Which bodies of the bidding routes make a check throw. A check answers when it succeeds
or refuses with a 4xx error. -/
namespace GhostBazaar.Engine
open Js GhostBazaar.Core

/-! ### Checks that throw nothing -/

section

variable {ε α β : Type}

/-- No exception of the language leaves the computation. -/
def Quiet (x : Except (Failure ε) α) : Prop := ∀ e, x ≠ .error (.thrown e)

/-- Every refusal of the computation has this property. -/
def Refuses (P : ε → Prop) (x : Except (Failure ε) α) : Prop :=
  ∀ e, x = .error (.refused e) → P e

theorem quiet_bind {x : Except (Failure ε) α} {f : α → Except (Failure ε) β} :
    Quiet (x >>= f) ↔ Quiet x ∧ ∀ a, x = .ok a → Quiet (f a) := by
  cases x with
  | ok a => simp [Quiet, ok_bind]
  | error e => simp [Quiet, error_bind]

theorem refuses_bind {P : ε → Prop} {x : Except (Failure ε) α} {f : α → Except (Failure ε) β} :
    Refuses P (x >>= f) ↔ Refuses P x ∧ ∀ a, x = .ok a → Refuses P (f a) := by
  cases x with
  | ok a => simp [Refuses, ok_bind]
  | error e => simp [Refuses, error_bind]

@[simp] theorem quiet_map {f : α → β} {x : Except (Failure ε) α} : Quiet (f <$> x) ↔ Quiet x := by
  cases x <;> simp [Quiet, Functor.map, Except.map]

@[simp] theorem refuses_map {P : ε → Prop} {f : α → β} {x : Except (Failure ε) α} :
    Refuses P (f <$> x) ↔ Refuses P x := by
  cases x <;> simp [Refuses, Functor.map, Except.map]

@[simp] theorem quiet_ok (a : α) : Quiet (Except.ok a : Except (Failure ε) α) := nofun

@[simp] theorem quiet_pure (a : α) : Quiet (pure a : Except (Failure ε) α) := nofun

@[simp] theorem refuses_ok (P : ε → Prop) (a : α) :
    Refuses P (Except.ok a : Except (Failure ε) α) := nofun

@[simp] theorem refuses_pure (P : ε → Prop) (a : α) :
    Refuses P (pure a : Except (Failure ε) α) := nofun

@[simp] theorem quiet_require {p : Prop} [Decidable p] {e : ε} : Quiet (require p e) := by
  intro e' h
  simp [require] at h

@[simp] theorem refuses_require {P : ε → Prop} {p : Prop} [Decidable p] {e : ε} :
    Refuses P (require p e) ↔ (¬ p → P e) := by
  simp only [Refuses, require_eq_refused]
  exact ⟨fun h hp => h e ⟨hp, rfl⟩, fun h e' he => he.2 ▸ h he.1⟩

@[simp] theorem quiet_orThrow_refused {o : Option α} {e : ε} :
    Quiet (orThrow o (Failure.refused e)) := by
  intro e' h
  simp at h

@[simp] theorem refuses_orThrow_refused {P : ε → Prop} {o : Option α} {e : ε} :
    Refuses P (orThrow o (Failure.refused e)) ↔ (o = none → P e) := by
  simp only [Refuses, orThrow_eq_error, Failure.refused.injEq]
  exact ⟨fun h ho => h e ⟨ho, rfl⟩, fun h e' he => he.2 ▸ h he.1⟩

theorem quiet_orThrow_thrown {o : Option α} {e : JsError} :
    Quiet (orThrow o (Failure.thrown e : Failure ε)) ↔ o.isSome = true := by
  cases o <;> simp [Quiet, orThrow]

@[simp] theorem refuses_orThrow_thrown {P : ε → Prop} {o : Option α} {e : JsError} :
    Refuses P (orThrow o (Failure.thrown e)) := by
  intro e' h
  simp at h

@[simp] theorem quiet_liftThrown {x : Except JsError α} :
    Quiet (liftThrown x : Except (Failure ε) α) ↔ ∃ a, x = .ok a := by
  cases x <;> simp [Quiet, liftThrown]

@[simp] theorem refuses_liftThrown {P : ε → Prop} {x : Except JsError α} :
    Refuses P (liftThrown x : Except (Failure ε) α) := by
  intro e h
  simp at h

end

/-! ### Fields -/

/-- `String(v)` returns. -/
def Coerces (v : JsValue) : Prop := v.toJsString.isSome = true

def IsText (v : JsValue) : Prop := ∃ s, v = some (.str s)

/-- A text of digits, with at most one point between them. -/
def IsPlainAmount (v : JsValue) : Prop := ∃ s, v = some (.str s) ∧ isPlainDecimal s = true

theorem regexTest_isOk {pattern : JsString → Bool} {v : JsValue} :
    (∃ b, regexTest pattern v = .ok b) ↔ Coerces v := by
  rw [regexTest, stringOf, Coerces]
  cases v.toJsString <;> simp [orThrow, Except.map]

theorem isFutureISO_isOk {c : Crypto} {now : ℤ} {v : JsValue} :
    (∃ b, isFutureISO c now v = .ok b) ↔ Coerces v := by
  rw [isFutureISO, dateParseOf, stringOf, Coerces]
  cases v.toJsString <;> simp [orThrow, Except.map]

/-- An object with all of these fields. -/
def Present (v : Json) (fields : List JsString) : Prop :=
  v.isObject = true ∧ ∀ f ∈ fields, JsValue.isNullish (v.get? f) = false

/-! ### The validators -/

def rfqFields : List JsString := [js "rfq_id", js "protocol", js "buyer", js "service_type",
  js "spec", js "anchor_price", js "currency", js "deadline", js "signature"]

def offerFields : List JsString := [js "offer_id", js "rfq_id", js "seller", js "listing_id",
  js "price", js "currency", js "valid_until", js "signature"]

def counterFields : List JsString := [js "counter_id", js "rfq_id", js "round", js "from",
  js "to", js "price", js "currency", js "valid_until", js "signature"]

/-- The tests of `validateRfq` before the deadline. -/
structure RfqHead (c : Crypto) (rfq : Json) : Prop where
  present : Present rfq rfqFields
  rfqId : regexTest isUuidV4 (rfq.get? (js "rfq_id")) = .ok true
  protocol : rfq.get? (js "protocol") = some (.str PROTOCOL_VERSION)
  buyer : isDid (rfq.get? (js "buyer")) = true
  anchorPrice : isValidDecimalPositive c.newDecimal (rfq.get? (js "anchor_price")) = true

/-- The tests of `validateRfq` before the commitment. -/
structure RfqTail (c : Crypto) (now : ℤ) (rfq : Json) : Prop extends RfqHead c rfq where
  deadline : isFutureISO c now (rfq.get? (js "deadline")) = .ok true
  currency : includesValue SUPPORTED_CURRENCIES (rfq.get? (js "currency")) = true
  signature : isSignatureFormat (rfq.get? (js "signature")) = true

/-- The tests of `validateOffer` before the expiry. -/
structure OfferHead (c : Crypto) (rfq : RfqTerms) (offer : Json) : Prop where
  present : Present offer offerFields
  offerId : regexTest isUuidV4 (offer.get? (js "offer_id")) = .ok true
  rfqId : offer.get? (js "rfq_id") = some (.str rfq.rfqId)
  seller : isDid (offer.get? (js "seller")) = true
  listingId : ((offer.get? (js "listing_id")).bind Json.asStr).any (fun s => !(trim s).isEmpty) =
    true
  price : isValidDecimalPositive c.newDecimal (offer.get? (js "price")) = true
  currency : offer.get? (js "currency") = some (.str rfq.currency)

/-- The tests of `validateCounter` before the expiry. -/
structure CounterHead (c : Crypto) (rfq : RfqTerms) (counter : Json) : Prop where
  present : Present counter counterFields
  counterId : regexTest isUuidV4 (counter.get? (js "counter_id")) = .ok true
  rfqId : counter.get? (js "rfq_id") = some (.str rfq.rfqId)
  round : isPositiveInteger (counter.get? (js "round")) = true
  sender : isDid (counter.get? (js "from")) = true
  recipient : isDid (counter.get? (js "to")) = true
  price : isValidDecimalPositive c.newDecimal (counter.get? (js "price")) = true
  currency : counter.get? (js "currency") = some (.str rfq.currency)

theorem validateRfq_quiet_iff {c : Crypto} {now : ℤ} {rfq : Json} :
    Quiet (validateRfq c now rfq) ↔
      (Present rfq rfqFields → Coerces (rfq.get? (js "rfq_id"))) ∧
        (RfqHead c rfq → Coerces (rfq.get? (js "deadline"))) ∧
        (RfqTail c now rfq → Coerces (rfq.get? (js "budget_commitment"))) := by
  have hcommitment : Quiet (if (rfq.get? (js "budget_commitment")).isSome then do
      let commitment ← liftThrown
        (regexTest isBudgetCommitment (rfq.get? (js "budget_commitment")))
      require commitment ValidationCode.invalidBudgetCommitmentFormat
      else pure ()) ↔ Coerces (rfq.get? (js "budget_commitment")) := by
    cases h : rfq.get? (js "budget_commitment") with
    | none => simp [Coerces, JsValue.toJsString]
    | some v =>
      rw [Option.isSome_some, if_pos rfl, quiet_bind, quiet_liftThrown, regexTest_isOk]
      exact and_iff_left fun _ _ => quiet_require
  simp only [validateRfq, quiet_bind, quiet_require, quiet_liftThrown, regexTest_isOk,
    isFutureISO_isOk, true_and, requireFields, require_eq_ok, liftThrown_eq_ok, forall_const,
    hcommitment]
  constructor
  · intro h
    refine ⟨fun hp => (h hp.1 hp.2).1, fun hh => ?_, fun ht => ?_⟩
    · exact ((h hh.present.1 hh.present.2).2 true hh.rfqId rfl hh.protocol hh.buyer
        hh.anchorPrice).1
    · exact ((h ht.present.1 ht.present.2).2 true ht.rfqId rfl ht.protocol ht.buyer
        ht.anchorPrice).2 true ht.deadline rfl ht.currency ht.signature
  · rintro ⟨hid, hdeadline, hcommitment⟩ hobject hfields
    refine ⟨hid ⟨hobject, hfields⟩, ?_⟩
    rintro _ huuid rfl hprotocol hbuyer hprice
    have hhead : RfqHead c rfq := ⟨⟨hobject, hfields⟩, huuid, hprotocol, hbuyer, hprice⟩
    refine ⟨hdeadline hhead, ?_⟩
    rintro _ hfuture rfl hcurrency hsignature
    exact hcommitment ⟨hhead, hfuture, hcurrency, hsignature⟩

theorem validateOffer_quiet_iff {c : Crypto} {now : ℤ} {offer : Json} {rfq : RfqTerms} :
    Quiet (validateOffer c now offer rfq) ↔
      (Present offer offerFields → Coerces (offer.get? (js "offer_id"))) ∧
        (OfferHead c rfq offer → Coerces (offer.get? (js "valid_until"))) := by
  simp only [validateOffer, quiet_bind, quiet_require, quiet_liftThrown, regexTest_isOk,
    isFutureISO_isOk, true_and, requireFields, require_eq_ok, liftThrown_eq_ok, forall_const]
  constructor
  · intro h
    refine ⟨fun hp => (h hp.1 hp.2).1, fun hh => ?_⟩
    exact ((h hh.present.1 hh.present.2).2 true hh.offerId rfl hh.rfqId hh.seller hh.listingId
      hh.price hh.currency).1
  · rintro ⟨hid, hexpiry⟩ hobject hfields
    refine ⟨hid ⟨hobject, hfields⟩, ?_⟩
    rintro _ huuid rfl hrfq hseller hlisting hprice hcurrency
    refine ⟨hexpiry ⟨⟨hobject, hfields⟩, huuid, hrfq, hseller, hlisting, hprice, hcurrency⟩, ?_⟩
    exact fun _ _ _ => trivial

theorem checkBudgetProof_quiet {counter : Json} {rfq : RfqTerms} :
    Quiet (checkBudgetProof counter rfq) := by
  rw [checkBudgetProof]
  split_ifs
  · simp [quiet_bind]
  · exact quiet_require

theorem validateCounter_quiet_iff {c : Crypto} {now : ℤ} {counter : Json} {rfq : RfqTerms} :
    Quiet (validateCounter c now counter rfq) ↔
      (Present counter counterFields → Coerces (counter.get? (js "counter_id"))) ∧
        (CounterHead c rfq counter → Coerces (counter.get? (js "valid_until"))) := by
  simp only [validateCounter, quiet_bind, quiet_require, quiet_liftThrown, regexTest_isOk,
    isFutureISO_isOk, true_and, requireFields, require_eq_ok, liftThrown_eq_ok, forall_const,
    checkBudgetProof_quiet]
  constructor
  · intro h
    refine ⟨fun hp => (h hp.1 hp.2).1, fun hh => ?_⟩
    exact ((h hh.present.1 hh.present.2).2 true hh.counterId rfl hh.rfqId hh.round hh.sender
      hh.recipient hh.price hh.currency).1
  · rintro ⟨hid, hexpiry⟩ hobject hfields
    refine ⟨hid ⟨hobject, hfields⟩, ?_⟩
    rintro _ huuid rfl hrfq hround hsender hrecipient hprice hcurrency
    refine ⟨hexpiry ⟨⟨hobject, hfields⟩, huuid, hrfq, hround, hsender, hrecipient, hprice,
      hcurrency⟩, ?_⟩
    exact fun _ _ _ _ => trivial

/-! ### The routes before the lock -/

/-- `registerMint` overwrites or adds, on top of the built-in mints. -/
def Registered (mintDecimals : List (JsString × ℕ)) : Prop :=
  ∃ registrations : List (JsString × ℕ),
    mintDecimals = registrations.foldl (fun table r => registerMint table r.1 r.2) MINT_DECIMALS

/-- The condition on a body of `POST /rfqs`. The first three fields are about what
`validateRfq` coerces, each for a body that comes so far. -/
structure RfqSound (env : EngineEnv) (now : ℤ) (body : Json) : Prop where
  rfqId : Present body rfqFields → Coerces (body.get? (js "rfq_id"))
  deadline : RfqHead env.toCrypto body → Coerces (body.get? (js "deadline"))
  commitment : RfqTail env.toCrypto now body → Coerces (body.get? (js "budget_commitment"))
  amount : validateRfq env.toCrypto now body = .ok () → validateSpecAndExtensions body = .ok () →
    IsPlainAmount (body.get? (js "anchor_price"))
  texts : checkRfq env now body = .ok () → IsText (body.get? (js "rfq_id")) ∧
    IsText (body.get? (js "deadline")) ∧ IsText (body.get? (js "service_type"))

/-- The condition on a body of `POST /rfqs/:id/offers` for the session it names. -/
structure OfferSound (env : EngineEnv) (now : ℤ) (rfqId : JsString) (session : DerivedSession)
    (body : Json) : Prop where
  offerId : Present body offerFields → Coerces (body.get? (js "offer_id"))
  expiry : OfferHead env.toCrypto session.rfq.terms body → Coerces (body.get? (js "valid_until"))
  amount : validateOffer env.toCrypto now body session.rfq.terms = .ok () →
    IsPlainAmount (body.get? (js "price"))
  texts : checkOffer env now rfqId body (some session) = .ok () →
    IsText (body.get? (js "offer_id")) ∧ IsText (body.get? (js "valid_until"))

/-- The condition on a body of `POST /rfqs/:id/counter` for the session it names. -/
structure CounterSound (env : EngineEnv) (now : ℤ) (rfqId : JsString) (session : DerivedSession)
    (body : Json) : Prop where
  counterId : Present body counterFields → Coerces (body.get? (js "counter_id"))
  expiry : CounterHead env.toCrypto session.rfq.terms body →
    Coerces (body.get? (js "valid_until"))
  amount : validateCounter env.toCrypto now body session.rfq.terms = .ok () →
    IsPlainAmount (body.get? (js "price"))
  texts : checkCounter env now rfqId body (some session) = .ok () →
    IsText (body.get? (js "counter_id"))

theorem lookup_foldl_registerMint (registrations table : List (JsString × ℕ)) (mint : JsString)
    (h : (table.lookup mint).isSome = true) : ((registrations.foldl (fun table r =>
      registerMint table r.1 r.2) table).lookup mint).isSome = true := by
  induction registrations generalizing table with
  | nil => exact h
  | cons r registrations ih =>
    refine ih (registerMint table r.1 r.2) ?_
    rw [registerMint, JsMap.lookup_setEntries]
    split_ifs
    · rfl
    · exact h

theorem mintFor_eq_ok {currency mint : JsString} : mintFor currency = .ok mint ↔
    currency = js "USDC" ∧ mint = js "4zMMC9srt5Ri5X14GAgXhaHii3GnPAEERYPJgZJDncDU" := by
  rw [mintFor]
  split_ifs with h <;> simp [h, eq_comm]

theorem quiet_mintFor (currency : JsString) : Quiet (mintFor currency) := by
  rw [mintFor]
  split_ifs <;> simp [Quiet]

/-- The amounts that `normalizeAmount` accepts for the mint of a session. -/
theorem normalizeAmount_isOk {env : EngineEnv} (hmints : Registered env.mintDecimals)
    {currency mint : JsString} (hmint : mintFor currency = .ok mint) {amount : JsValue} :
    (∃ n, normalizeAmount env.mintDecimals amount mint = .ok n) ↔ IsPlainAmount amount := by
  obtain ⟨registrations, htable⟩ := hmints
  obtain ⟨-, rfl⟩ := mintFor_eq_ok.mp hmint
  have hknown := lookup_foldl_registerMint registrations MINT_DECIMALS
    (js "4zMMC9srt5Ri5X14GAgXhaHii3GnPAEERYPJgZJDncDU") (by decide +kernel)
  rw [← htable, Option.isSome_iff_exists] at hknown
  obtain ⟨decimals, hdecimals⟩ := hknown
  simp only [normalizeAmount_eq_ok, IsPlainAmount]
  constructor
  · rintro ⟨n, _, s, -, hs, hplain, -⟩
    exact ⟨s, hs, hplain⟩
  · rintro ⟨s, hs, hplain⟩
    exact ⟨_, decimals, s, hdecimals, hs, hplain, rfl⟩

theorem quiet_checkAmount {env : EngineEnv} {amount : JsValue} {mint message : JsString} :
    Quiet (checkAmount env amount mint message) ↔
      ∃ n, normalizeAmount env.mintDecimals amount mint = .ok n := by
  simp [checkAmount, quiet_bind]

theorem quiet_checkExtensions (body : Json) : Quiet (checkExtensions body) := by
  unfold checkExtensions
  split
  · exact quiet_ok ()
  · simp [quiet_bind]

theorem quiet_preCheckSignatureFormat (c : Crypto) (signature signerDid : JsValue) :
    Quiet (preCheckSignatureFormat c signature signerDid) := by
  simp [preCheckSignatureFormat, didToPublicKey, quiet_bind]

theorem quiet_verifySignature (c : Crypto) (obj : Members)
    (signature signerDid errorCode : JsString) :
    Quiet (verifySignature c obj signature signerDid errorCode) := by
  simp [verifySignature, didToPublicKey, quiet_bind]

theorem quiet_answerValidation {kind : JsString} {unprocessable : List ValidationCode}
    {v : Validation Unit} : Quiet (answerValidation kind unprocessable v) ↔ Quiet v := by
  rcases v with (_ | _) | _ <;> simp [answerValidation, Quiet]

theorem answerValidation_eq_ok {kind : JsString} {unprocessable : List ValidationCode}
    {v : Validation Unit} {u : Unit} :
    answerValidation kind unprocessable v = .ok u ↔ v = .ok () := by
  rcases v with (_ | _) | _ <;> simp [answerValidation]

theorem quiet_validateSpecAndExtensions (body : Json) :
    Quiet (validateSpecAndExtensions body) := by
  simp [validateSpecAndExtensions, quiet_bind, quiet_checkExtensions]

theorem RfqSound.quiet {env : EngineEnv} (hmints : Registered env.mintDecimals) {now : ℤ}
    {body : Json} (h : RfqSound env now body) : Quiet (checkRfq env now body) := by
  simp only [checkRfq, quiet_bind, quiet_answerValidation, validateRfq_quiet_iff,
    answerValidation_eq_ok, quiet_validateSpecAndExtensions, quiet_mintFor, quiet_checkAmount,
    quiet_preCheckSignatureFormat, quiet_verifySignature, implies_true, true_and, and_true]
  refine ⟨⟨h.rfqId, h.deadline, h.commitment⟩, fun _ hvalid _ hspec mint hmint => ?_⟩
  exact (normalizeAmount_isOk hmints hmint).mpr (h.amount hvalid hspec)

theorem quiet_requireSession (session : Option DerivedSession) :
    Quiet (requireSession session) := quiet_orThrow_refused

theorem OfferSound.quiet {env : EngineEnv} (hmints : Registered env.mintDecimals) {now : ℤ}
    {r : JsString} {body : Json} {session : Option DerivedSession}
    (h : ∀ s, session = some s → OfferSound env now r s body) :
    Quiet (checkOffer env now r body session) := by
  simp only [checkOffer, quiet_bind, quiet_requireSession, quiet_answerValidation,
    validateOffer_quiet_iff, answerValidation_eq_ok, quiet_mintFor, quiet_checkAmount,
    quiet_checkExtensions, quiet_require, quiet_preCheckSignatureFormat, quiet_verifySignature,
    implies_true, true_and, and_true]
  intro s hs
  rw [requireSession, orThrow_eq_ok] at hs
  have hsound := h s hs
  refine ⟨⟨hsound.offerId, hsound.expiry⟩, fun _ hvalid mint hmint => ?_⟩
  exact (normalizeAmount_isOk hmints hmint).mpr (hsound.amount hvalid)

theorem CounterSound.quiet {env : EngineEnv} (hmints : Registered env.mintDecimals) {now : ℤ}
    {r : JsString} {body : Json} {session : Option DerivedSession}
    (h : ∀ s, session = some s → CounterSound env now r s body) :
    Quiet (checkCounter env now r body session) := by
  have hproof (s : DerivedSession) {mint : JsString}
      (hmint : ∃ n, normalizeAmount env.mintDecimals (body.get? (js "price")) mint = .ok n) :
      Quiet (checkCounterProof env body s mint) := by
    unfold checkCounterProof
    split
    · exact quiet_require
    · simp only [quiet_bind, quiet_orThrow_refused, quiet_liftThrown, quiet_require,
        implies_true, and_true, true_and]
      exact fun _ _ => hmint
  simp only [checkCounter, quiet_bind, quiet_requireSession, quiet_answerValidation,
    validateCounter_quiet_iff, answerValidation_eq_ok, quiet_mintFor, quiet_checkAmount,
    quiet_checkExtensions, quiet_require, quiet_verifySignature, implies_true, true_and, and_true]
  intro s hs
  rw [requireSession, orThrow_eq_ok] at hs
  have hsound := h s hs
  refine ⟨⟨hsound.counterId, hsound.expiry⟩, fun _ hvalid mint hmint => ?_⟩
  have hamount := (normalizeAmount_isOk hmints hmint).mpr (hsound.amount hvalid)
  exact ⟨hamount, fun _ _ _ _ _ _ _ _ _ _ => hproof s hamount⟩

theorem quiet_preCheckCounter {env : EngineEnv} {body : Json} :
    Quiet (preCheckCounter env body) ↔ body ≠ .null := by
  have hfield (key : JsString) : Quiet (field body key) ↔ body ≠ .null := by
    rw [field, quiet_liftThrown]
    simp only [member, bind_eq_ok, ensure_eq_ok, pure_eq_ok]
    cases body <;> simp [JsValue.isNullish]
  simp only [preCheckCounter, quiet_bind, hfield, quiet_preCheckSignatureFormat, implies_true,
    and_true]
  exact and_iff_left_of_imp fun h _ _ => h

/-! ### Refusals -/

def ClientError (e : EngineError) : Prop := 400 ≤ e.status ∧ e.status < 500

theorem refuses_answerValidation {kind : JsString} {unprocessable : List ValidationCode}
    {v : Validation Unit} : Refuses ClientError (answerValidation kind unprocessable v) := by
  rcases v with (_ | _) | _
  · rename_i code
    intro e he
    simp only [answerValidation, Except.error.injEq, Failure.refused.injEq] at he
    rw [← he, ClientError]
    split_ifs <;> simp
  · simp [answerValidation, Refuses]
  · simp [answerValidation]

theorem refuses_mintFor (currency : JsString) : Refuses ClientError (mintFor currency) := by
  rw [mintFor]
  split_ifs <;> simp [Refuses, ClientError]

theorem refuses_checkAmount (env : EngineEnv) (amount : JsValue) (mint message : JsString) :
    Refuses ClientError (checkAmount env amount mint message) := by
  simp [checkAmount, refuses_bind, ClientError]

theorem refuses_checkExtensions (body : Json) : Refuses ClientError (checkExtensions body) := by
  unfold checkExtensions
  split
  · exact refuses_ok _ ()
  · simp [refuses_bind, ClientError, malformedPayload]

theorem refuses_validateSpecAndExtensions (body : Json) :
    Refuses ClientError (validateSpecAndExtensions body) := by
  simp [validateSpecAndExtensions, refuses_bind, refuses_checkExtensions, ClientError,
    malformedPayload]

theorem refuses_preCheckSignatureFormat (c : Crypto) (signature signerDid : JsValue) :
    Refuses ClientError (preCheckSignatureFormat c signature signerDid) := by
  simp [preCheckSignatureFormat, didToPublicKey, refuses_bind, ClientError, malformedPayload]

theorem refuses_verifySignature (c : Crypto) (obj : Members)
    (signature signerDid errorCode : JsString) :
    Refuses ClientError (verifySignature c obj signature signerDid errorCode) := by
  simp [verifySignature, didToPublicKey, refuses_bind, ClientError, malformedPayload]

theorem refuses_requireSession (session : Option DerivedSession) :
    Refuses ClientError (requireSession session) := by
  simp [requireSession, ClientError, sessionNotFound]

theorem refuses_checkCounterProof (env : EngineEnv) (body : Json) (session : DerivedSession)
    (mint : JsString) : Refuses ClientError (checkCounterProof env body session mint) := by
  unfold checkCounterProof
  split <;> simp [refuses_bind, ClientError]

theorem refuses_checkRfq (env : EngineEnv) (now : ℤ) (body : Json) :
    Refuses ClientError (checkRfq env now body) := by
  simp [checkRfq, refuses_bind, refuses_answerValidation, refuses_validateSpecAndExtensions,
    refuses_mintFor, refuses_checkAmount, refuses_preCheckSignatureFormat,
    refuses_verifySignature]

theorem refuses_checkOffer (env : EngineEnv) (now : ℤ) (r : JsString) (body : Json)
    (session : Option DerivedSession) : Refuses ClientError (checkOffer env now r body session) := by
  simp [checkOffer, refuses_bind, refuses_requireSession, refuses_answerValidation,
    refuses_mintFor, refuses_checkAmount, refuses_checkExtensions,
    refuses_preCheckSignatureFormat, refuses_verifySignature, ClientError]

theorem refuses_checkCounter (env : EngineEnv) (now : ℤ) (r : JsString) (body : Json)
    (session : Option DerivedSession) :
    Refuses ClientError (checkCounter env now r body session) := by
  simp [checkCounter, refuses_bind, refuses_requireSession, refuses_answerValidation,
    refuses_mintFor, refuses_checkAmount, refuses_checkExtensions, refuses_checkCounterProof,
    refuses_verifySignature, unauthorizedCounter, ClientError]

theorem refuses_preCheckCounter (env : EngineEnv) (body : Json) :
    Refuses ClientError (preCheckCounter env body) := by
  simp [preCheckCounter, field, refuses_bind, refuses_preCheckSignatureFormat]

/-! ### Inside the lock -/

/-- A clock that `toISOString` accepts. -/
def Moment.Valid (m : Moment) : Prop := (toISOString m.now).isSome = true

theorem quiet_timestamp {m : Moment} (hm : m.Valid) : Quiet m.timestamp := by
  rw [Moment.timestamp, quiet_orThrow_thrown]
  exact hm

theorem quiet_lockedRfq {m : Moment} (hm : m.Valid) (r : JsString) (body : Json)
    (session : Option DerivedSession) : Quiet (lockedRfq m r body session) := by
  simp [lockedRfq, requireNewRfq, quiet_bind, quiet_timestamp hm]

theorem quiet_lockedOffer (env : EngineEnv) {m : Moment} (hm : m.Valid) (listings : ListingStore)
    (r : JsString) (body : Json) (session : Option DerivedSession) :
    Quiet (lockedOffer env m listings r body session) := by
  simp [lockedOffer, checkDeadline, assertState, quiet_requireSession, quiet_bind,
    quiet_timestamp hm]

theorem quiet_lockedCounter (env : EngineEnv) {m : Moment} (hm : m.Valid) (r : JsString)
    (body : Json) (session : Option DerivedSession) :
    Quiet (lockedCounter env m r body session) := by
  simp [lockedCounter, checkDeadline, assertState, quiet_requireSession, quiet_bind,
    quiet_timestamp hm]

theorem refuses_lockedRfq (m : Moment) (r : JsString) (body : Json)
    (session : Option DerivedSession) : Refuses ClientError (lockedRfq m r body session) := by
  simp [lockedRfq, requireNewRfq, Moment.timestamp, refuses_bind, ClientError]

theorem refuses_lockedOffer (env : EngineEnv) (m : Moment) (listings : ListingStore)
    (r : JsString) (body : Json) (session : Option DerivedSession) :
    Refuses ClientError (lockedOffer env m listings r body session) := by
  simp [lockedOffer, checkDeadline, assertState, refuses_requireSession, Moment.timestamp,
    refuses_bind, ClientError, sessionExpired]

theorem refuses_lockedCounter (env : EngineEnv) (m : Moment) (r : JsString) (body : Json)
    (session : Option DerivedSession) :
    Refuses ClientError (lockedCounter env m r body session) := by
  simp [lockedCounter, checkDeadline, assertState, refuses_requireSession, Moment.timestamp,
    refuses_bind, unauthorizedCounter, ClientError, sessionExpired]

end GhostBazaar.Engine
