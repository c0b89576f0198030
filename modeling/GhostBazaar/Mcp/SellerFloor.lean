import GhostBazaar.Mcp.SellerTools

/-! The floor of a seller against the offers that its tools post. The sanitizer raises a price to
the floor, and what comes after it may lower the price again. -/
namespace GhostBazaar.Mcp.SellerTools
open Js GhostBazaar.Core Strategy

variable {lib : DecimalLib} {tools : ToolLib lib}

/-- The text denotes at least the floor. -/
def AtLeast (lib : DecimalLib) (price : JsString) (floor : Decimal) : Prop :=
  ∃ p, lib.newDecimal (some (.str price)) = some p ∧ floor.lte p = true

instance (price : JsString) (floor : Decimal) : Decidable (AtLeast lib price floor) :=
  decidable_of_iff ((lib.newDecimal (some (.str price))).any floor.lte = true) <| by
    simp [AtLeast, Option.any_eq_true]

/-- The floor that a call is bound to. -/
def floorInForce (s : SellerTools) : ToolCall → Option JsString
  | .registerListing .. => none
  | .respondOffer rfqId _ floorPrice _ listingId =>
    resolve floorPrice ((s.sessions.get? rfqId).map (·.floorPrice))
      ((listingId.or s.sellerListingId).bind s.listingFloors.get?)
  | .respondCounter rfqId .. =>
    resolve none ((s.sessions.get? rfqId).map (·.floorPrice))
      (s.sellerListingId.bind s.listingFloors.get?)

/-- An offer at a price of the agent is safe when the larger of that price and the floor that was
resolved reaches the floor in the decimals of the price; every other offer is safe when the
prices that go into it are numbers. -/
def Safe (tools : ToolLib lib) (s : SellerTools) (floor : Decimal) : ToolCall → Prop
  | .registerListing .. => True
  | .respondOffer rfqId price floorPrice targetPrice _ =>
    match givenText price with
    | some text => ∃ p u, lib.newDecimal (some (.str text)) = some p ∧
      (resolve floorPrice ((s.sessions.get? rfqId).map (·.floorPrice)) price).bind
        (fun t => lib.newDecimal (some (.str t))) = some u ∧
      Decimal.KeepsFloor (decimalsOf text) floor (p.max u)
    | none => floor ≠ .nan ∧
      (resolve targetPrice ((s.sessions.get? rfqId).map (·.targetPrice)) price).bind
        (fun t => lib.newDecimal (some (.str t))) ≠ some .nan
  | .respondCounter rfqId counterId price events =>
    floor ≠ .nan ∧
    match givenText price with
    | some text => lib.newDecimal (some (.str text)) ≠ some .nan
    | none => ∀ session priv suggested, s.sessions.get? rfqId = some session →
      sellerPriv lib session = .ok priv →
      session.strategyStyle.onCounterReceived tools.arith (counterContext priv
        s.sellerNegotiationProfile (session.round + 1) counterId events) = .counter suggested →
      suggested.decimal ≠ .nan

theorem text_atLeast_iff (x : lib.Value) (floor : Decimal) :
    AtLeast lib x.text floor ↔ floor.lte x.decimal = true := by
  rw [AtLeast, x.new_text]
  simp

theorem toFixed_atLeast_iff (x : lib.Value) (decimals : ℕ) (floor : Decimal) :
    AtLeast lib (tools.toFixed x decimals) floor ↔
      Decimal.KeepsFloor decimals floor x.decimal := by
  rw [AtLeast, tools.new_toFixed, ← Decimal.lte_toFixed_iff]
  simp

theorem maxOrMin_text_atLeast_iff (x floor : lib.Value) :
    AtLeast lib (x.maxOrMin .lt floor).text floor.decimal ↔
      x.decimal ≠ .nan ∧ floor.decimal ≠ .nan := by
  rw [text_atLeast_iff]
  exact Decimal.lte_max_iff x.decimal floor.decimal

theorem givenText_eq_some {text : Option JsString} {t : JsString}
    (h : givenText text = some t) : text = some t := by
  unfold givenText at h
  exact Option.eq_some_of_filter_eq_some h

/-- Without a price of the agent, the floor that is resolved is the one in force. -/
theorem resolve_of_no_price {given stored price listing : Option JsString} {t : JsString}
    (hprice : givenText price = none) (h : givenText (resolve given stored price) = some t) :
    resolve given stored listing = some t := by
  unfold resolve at h ⊢
  cases hfirst : given.or stored with
  | none =>
    rw [hfirst, Option.none_or, hprice] at h
    cases h
  | some u =>
    rw [hfirst, Option.some_or] at h
    rw [Option.some_or]
    exact givenText_eq_some h

/-- What an offer needs before it has a price, and the price that it gets. -/
theorem respondOffer_eq_ok {s : SellerTools} {rfqId : JsString}
    {price floorPrice targetPrice listingId : Option JsString} {posted : JsString}
    {stored : SellerSessionState}
    (h : s.respondOffer tools rfqId price floorPrice targetPrice listingId = .ok (posted, stored)) :
    ∃ floorText targetText, ∃ floor target : lib.Value,
      givenText (resolve floorPrice ((s.sessions.get? rfqId).map (·.floorPrice)) price) =
        some floorText ∧
      givenText (resolve targetPrice ((s.sessions.get? rfqId).map (·.targetPrice)) price) =
        some targetText ∧
      lib.newDecimal (some (.str floorText)) = some floor.decimal ∧
      lib.newDecimal (some (.str targetText)) = some target.decimal ∧
      match givenText price with
      | some text => ∃ raw : lib.Value, lib.newDecimal (some (.str text)) = some raw.decimal ∧
        posted = tools.toFixed (raw.maxOrMin .lt floor) (decimalsOf text)
      | none => posted = (target.maxOrMin .lt floor).text := by
  unfold respondOffer at h
  simp only [bind, Except.bind, pure, Except.pure] at h
  split at h
  · cases h
  · split at h
    · cases h
    · rename_i floorText hfloorText
      split at h
      · cases h
      · rename_i targetText htargetText
        split at h
        · cases h
        · rename_i floor hfloor
          split at h
          · cases h
          · rename_i target htarget
            refine ⟨floorText, targetText, floor, target, orThrow_eq_ok.mp hfloorText,
              orThrow_eq_ok.mp htargetText, newValue_eq_ok hfloor, newValue_eq_ok htarget, ?_⟩
            cases hprice : givenText price with
            | none =>
              rw [hprice] at h
              cases h
              rfl
            | some text =>
              rw [hprice] at h
              simp only at h
              split at h
              · cases h
              · rename_i raw hraw
                cases h
                exact ⟨raw, newValue_eq_ok hraw, rfl⟩

theorem offered_atLeast_iff {s : SellerTools} {rfqId : JsString}
    {price floorPrice targetPrice listingId : Option JsString} {posted floorText : JsString}
    {floor : Decimal} {stored : SellerSessionState}
    (hpost : s.respondOffer tools rfqId price floorPrice targetPrice listingId =
      .ok (posted, stored))
    (hforce : floorInForce s (.respondOffer rfqId price floorPrice targetPrice listingId) =
      some floorText)
    (hfloor : lib.newDecimal (some (.str floorText)) = some floor) :
    AtLeast lib posted floor ↔
      Safe tools s floor (.respondOffer rfqId price floorPrice targetPrice listingId) := by
  obtain ⟨usedText, targetText, used, target, hused, htarget, hnewUsed, hnewTarget, hposted⟩ :=
    respondOffer_eq_ok hpost
  cases hprice : givenText price with
  | some text =>
    rw [hprice] at hposted
    obtain ⟨raw, hraw, rfl⟩ := hposted
    rw [toFixed_atLeast_iff]
    simp only [Safe, hprice, givenText_eq_some hused, hraw, Option.bind_some, hnewUsed]
    constructor
    · intro h
      exact ⟨_, _, rfl, rfl, h⟩
    · rintro ⟨p, u, hp, hu, h⟩
      cases hp
      cases hu
      exact h
  | none =>
    rw [hprice] at hposted
    subst hposted
    -- the floor of the sanitizer is the one in force
    have hsame : floorInForce s (.respondOffer rfqId price floorPrice targetPrice listingId) =
        some usedText := resolve_of_no_price hprice hused
    obtain rfl : usedText = floorText := Option.some.inj (hsame.symm.trans hforce)
    obtain rfl : floor = used.decimal := Option.some.inj (hfloor.symm.trans hnewUsed)
    rw [maxOrMin_text_atLeast_iff]
    simp only [Safe, hprice, givenText_eq_some htarget, Option.bind_some, hnewTarget, ne_eq,
      Option.some.injEq]
    exact and_comm

theorem NegotiationStyle.onCounterReceived_cases (tools : ToolLib lib) (style : NegotiationStyle)
    (ctx : SellerStrategyContext lib) :
    (∃ x, style.onCounterReceived tools.arith ctx = .counter x) ∨
      style.onCounterReceived tools.arith ctx = .hold := by
  cases style <;>
    simp only [NegotiationStyle.onCounterReceived, FirmSeller.onCounterReceived,
      CompetitiveSeller.onCounterReceived, FlexibleSeller.onCounterReceived, concede] <;>
    split_ifs <;> simp

theorem countered_atLeast_iff {s : SellerTools} {session : SellerSessionState}
    {priv : SellerPrivate lib} {counterId posted : JsString} {price : Option JsString}
    {events : Option (List NegotiationEvent)}
    (hpost : s.counterOffer tools session priv counterId price events = .ok (some posted)) :
    AtLeast lib posted priv.floorPrice.decimal ↔ priv.floorPrice.decimal ≠ .nan ∧
      match givenText price with
      | some text => lib.newDecimal (some (.str text)) ≠ some .nan
      | none => ∀ suggested,
        session.strategyStyle.onCounterReceived tools.arith (counterContext priv
          s.sellerNegotiationProfile session.round counterId events) = .counter suggested →
        suggested.decimal ≠ .nan := by
  unfold counterOffer at hpost
  cases hprice : givenText price with
  | some text =>
    simp only [hprice, bind, Except.bind] at hpost
    split at hpost
    · cases hpost
    · rename_i raw hraw
      cases hpost
      rw [maxOrMin_text_atLeast_iff]
      simp only [newValue_eq_ok hraw, ne_eq, Option.some.injEq]
      exact and_comm
  | none =>
    simp only [hprice] at hpost
    rcases NegotiationStyle.onCounterReceived_cases tools session.strategyStyle
      (counterContext priv s.sellerNegotiationProfile session.round counterId events) with
      ⟨x, hx⟩ | hhold
    · rw [hx] at hpost
      cases hpost
      rw [maxOrMin_text_atLeast_iff, hx]
      simp only [SellerAction.counter.injEq, forall_eq', ne_eq]
      exact and_comm
    · rw [hhold] at hpost
      cases hpost

theorem sellerPriv_floor {session : SellerSessionState} {priv : SellerPrivate lib}
    (h : sellerPriv lib session = .ok priv) :
    lib.newDecimal (some (.str session.floorPrice)) = some priv.floorPrice.decimal := by
  unfold sellerPriv at h
  simp only [bind, Except.bind, pure, Except.pure] at h
  split at h
  · cases h
  · rename_i floor hfloor
    split at h
    · cases h
    · cases h
      exact newValue_eq_ok hfloor

theorem toOption_join_eq_some {r : Except JsError (Option JsString)} {posted : JsString}
    (h : r.toOption.join = some posted) : r = .ok (some posted) := by
  cases r with
  | error e => cases h
  | ok o =>
    cases o with
    | none => cases h
    | some p =>
      cases h
      rfl

theorem answered_atLeast_iff {s : SellerTools} {call : ToolCall} {posted floorText : JsString}
    {floor : Decimal} (hpost : (s.answer tools call).2 = some posted)
    (hforce : floorInForce s call = some floorText)
    (hfloor : lib.newDecimal (some (.str floorText)) = some floor) :
    AtLeast lib posted floor ↔ Safe tools s floor call := by
  cases call with
  | registerListing floorPrice targetPrice profile listingId => cases hforce
  | respondOffer rfqId price floorPrice targetPrice listingId =>
    unfold answer at hpost
    simp only at hpost
    split at hpost
    · rename_i offerPrice stored hoffer
      cases hpost
      exact offered_atLeast_iff hoffer hforce hfloor
    · cases hpost
  | respondCounter rfqId counterId price events =>
    unfold answer at hpost
    simp only at hpost
    split at hpost
    · rename_i listing session hlisting hsession
      unfold respondCounter at hpost
      split at hpost
      · cases hpost
      · rename_i priv hpriv
        have hcounter : s.counterOffer tools { session with round := session.round + 1 } priv
            counterId price events = .ok (some posted) :=
          toOption_join_eq_some hpost
        obtain rfl : session.floorPrice = floorText := by
          simpa [floorInForce, resolve, hsession] using hforce
        obtain rfl : floor = priv.floorPrice.decimal :=
          Option.some.inj (hfloor.symm.trans (sellerPriv_floor hpriv))
        rw [countered_atLeast_iff hcounter]
        simp only [Safe]
        refine and_congr_right fun _ => ?_
        cases givenText price with
        | some text => exact Iff.rfl
        | none =>
          constructor
          · intro h session' priv' suggested hsession' hpriv'
            obtain rfl : session = session' := Option.some.inj (hsession.symm.trans hsession')
            obtain rfl : priv = priv' := Except.ok.inj (hpriv.symm.trans hpriv')
            exact h suggested
          · intro h suggested
            exact h session priv suggested hsession hpriv
    · cases hpost

/-- After every sequence of calls, a posted price is at least the floor in force exactly for a
safe call. -/
theorem posted_atLeast_iff (tools : ToolLib lib) (calls : List ToolCall) (call : ToolCall)
    {price floorText : JsString} {floor : Decimal}
    (hpost : ((run tools empty calls).answer tools call).2 = some price)
    (hforce : floorInForce (run tools empty calls) call = some floorText)
    (hfloor : lib.newDecimal (some (.str floorText)) = some floor) :
    AtLeast lib price floor ↔ Safe tools (run tools empty calls) floor call := by
  exact answered_atLeast_iff hpost hforce hfloor

/-! ### A seller below its floor -/

/-- The prices of the sample, as texts and as amounts. -/
def floorPrices : List (JsString × ℚ) :=
  [(js "0.000001", 1 / 1000000), (js "0", 0), (js "30", 30), (js "30.00", 30),
    (js "30.004", 30.004), (js "50", 50), (js "50.00", 50)]

def floorNewDecimal (v : JsValue) : Option Decimal :=
  (floorPrices.find? fun p => v = some (.str p.1)).map fun p => .finite p.2

def floorToText : Decimal → JsString
  | .finite q => ((floorPrices.find? fun p => p.2 = q).map Prod.fst).getD []
  | _ => js "NaN"

def floorLib : DecimalLib where
  newDecimal := floorNewDecimal
  toText := floorToText
  new_toText v d h := by
    obtain ⟨p, hp, rfl⟩ := Option.map_eq_some_iff.mp h
    have hall : ∀ p ∈ floorPrices, floorNewDecimal (some (.str (floorToText (.finite p.2)))) =
        some (.finite p.2) := by decide +kernel
    exact hall p (List.mem_of_find?_eq_some hp)
  new_minPrice := by decide +kernel

/-- The prices of the sample are multiples of a millionth. -/
theorem floorPrices_isInt : ∀ p ∈ floorPrices, ∃ n : ℤ, p.2 * 10 ^ 6 = n := by
  intro p hp
  simp only [floorPrices, List.mem_cons, List.not_mem_nil, or_false] at hp
  rcases hp with rfl | rfl | rfl | rfl | rfl | rfl | rfl
  · exact ⟨1, by norm_num⟩
  · exact ⟨0, by norm_num⟩
  · exact ⟨30000000, by norm_num⟩
  · exact ⟨30000000, by norm_num⟩
  · exact ⟨30004000, by norm_num⟩
  · exact ⟨50000000, by norm_num⟩
  · exact ⟨50000000, by norm_num⟩

theorem floorPrices_roundTo (decimals : ℕ) :
    ∀ p ∈ floorPrices, floorNewDecimal (some (.str (floorToText
      (.finite (roundTo decimals p.2))))) = some (.finite (roundTo decimals p.2)) := by
  rcases lt_or_ge decimals 6 with hsmall | hlarge
  · have hall : ∀ d < 6, ∀ p ∈ floorPrices, floorNewDecimal (some (.str (floorToText
        (.finite (roundTo d p.2))))) = some (.finite (roundTo d p.2)) := by decide +kernel
    exact hall decimals hsmall
  · intro p hp
    obtain ⟨n, hn⟩ := floorPrices_isInt p hp
    have hexact : p.2 * 10 ^ decimals = ((n * 10 ^ (decimals - 6) : ℤ) : ℚ) := by
      rw [← Nat.add_sub_of_le hlarge, pow_add, ← mul_assoc, hn, Nat.add_sub_cancel_left]
      push_cast
      rfl
    rw [roundTo_of_isInt hexact]
    have hall : ∀ p ∈ floorPrices, floorNewDecimal (some (.str (floorToText (.finite p.2)))) =
        some (.finite p.2) := by decide +kernel
    exact hall p hp

/-- The entry of the table with the decimals that are asked for. -/
def floorToFixed (d : Decimal) (decimals : ℕ) : JsString :=
  ((floorPrices.find? fun p => .finite p.2 = d ∧ decimalsOf p.1 = decimals).map
    Prod.fst).getD (floorToText d)

def floorTools : ToolLib floorLib where
  arith := .exact floorLib
  toFixed x decimals := floorToFixed (x.decimal.toFixed decimals) decimals
  new_toFixed x decimals := by
    obtain ⟨v, hv⟩ := x.isMade
    obtain ⟨p, hp, hx⟩ := Option.map_eq_some_iff.mp hv
    rw [← hx, floorToFixed]
    cases hfind : floorPrices.find? fun q =>
        .finite q.2 = (Decimal.finite p.2).toFixed decimals ∧ decimalsOf q.1 = decimals with
    | none => exact floorPrices_roundTo decimals p (List.mem_of_find?_eq_some hp)
    | some q =>
      have hmatch := List.find?_some hfind
      simp only [decide_eq_true_eq] at hmatch
      have hall : ∀ q ∈ floorPrices, floorNewDecimal (some (.str q.1)) = some (.finite q.2) := by
        decide +kernel
      rw [← hmatch.1]
      exact hall q (List.mem_of_find?_eq_some hfind)

def listAt (floorPrice : String) : ToolCall :=
  .registerListing (js floorPrice) (js "50") none (some (js "listing-1"))

def offerAt (price : String) (floorPrice : Option String) : ToolCall :=
  .respondOffer (js "rfq-1") (some (js price)) (floorPrice.map js) (some (js "50")) none

def listed : SellerTools := run floorTools empty [listAt "50"]

/-- A floor with more decimals than the price is rounded away, and the floor of the listing is
never looked at. -/
theorem offers_below_floor :
    (floorInForce listed (offerAt "30.00" (some "30.004")) = some (js "30.004") ∧
      (listed.answer floorTools (offerAt "30.00" (some "30.004"))).2 = some (js "30.00") ∧
      ¬ AtLeast floorLib (js "30.00") (.finite 30.004)) ∧
    floorInForce listed (offerAt "30" none) = some (js "50") ∧
      (listed.answer floorTools (offerAt "30" none)).2 = some (js "30") ∧
      ¬ AtLeast floorLib (js "30") (.finite 50) := by
  decide +kernel

theorem posted_atLeast_sample :
    AtLeast floorLib (js "50.00") (.finite 50) ↔
      Safe floorTools listed (.finite 50) (offerAt "30.00" (some "50")) := by
  have hpost : (listed.answer floorTools (offerAt "30.00" (some "50"))).2 = some (js "50.00") := by
    decide +kernel
  have hforce : floorInForce listed (offerAt "30.00" (some "50")) = some (js "50") := by
    decide +kernel
  exact posted_atLeast_iff floorTools [listAt "50"] (offerAt "30.00" (some "50")) hpost hforce
    (by decide +kernel)

end GhostBazaar.Mcp.SellerTools
