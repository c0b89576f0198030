import GhostBazaar.Engine.EngineInvariant

/-! What a commitment rests on: its quote is made out for the accepted offer, and both
parties signed it after that accept. -/
namespace GhostBazaar.Engine
open Js GhostBazaar.Core Settlement Transition

/-- The engine accepted the signature of this party on a quote. -/
def Accepted (env : EngineEnv) (quote : Members) (signature did : JsString) : Prop :=
  ∃ code, verifyQuoteSignature env.toCrypto quote signature did code = .ok ()

theorem QuoteOf.congr {env : EngineEnv} {s s' : DerivedSession} {offer : RecordedOffer}
    {q : SignedQuote} (hq : QuoteOf env s offer q) (hrfq : s'.rfq = s.rfq) :
    QuoteOf env s' offer q := by
  obtain ⟨rfqId, buyer, seller, price, currency, endpoint, policy, unsigned, expiry⟩ := hq
  exact ⟨hrfq ▸ rfqId, hrfq ▸ buyer, seller, price, currency, endpoint, policy, unsigned,
    hrfq ▸ expiry⟩

section

variable {env : EngineEnv} {P : DerivedSession → Members → Prop}
  {answers : List (JsString × JsValue)} {h : List Entry} {r : JsString}

/-! ### The cycle of a commitment -/

/-- An event that ends an accept cycle or starts one. -/
def EventType.isTurn : EventType → Bool
  | .winnerSelected | .cosignDeclined | .cosignTimeout => true
  | _ => false

/-- The log since the accept that selected the current offer. -/
structure Since (q : SignedQuote) (s : DerivedSession) (selected : NegotiationEvent)
    (post : List NegotiationEvent) : Prop where
  type : selected.type = .winnerSelected
  quote : selected.payload.lookup (js "quote") = some (.obj (quoteMembers q))
  noTurn : ∀ e ∈ post, e.type.isTurn = false
  buyer : ∀ signature, s.buyerSignature = some signature → ∃ e ∈ post, e.type = .quoteSigned ∧
    e.payload.lookup (js "buyer_signature") = some (.str signature)
  seller : ∀ signature, s.sellerSignature = some signature →
    ∃ e ∈ post, e.type = .quoteCommitted ∧
      e.payload.lookup (js "seller_signature") = some (.str signature)

/-- A session that awaits signatures, or has them. -/
structure Cycle (env : EngineEnv) (log : List NegotiationEvent) (s : DerivedSession)
    (q : SignedQuote) (offer : RecordedOffer) : Prop where
  unsignedQuote : s.unsignedQuote = some (.obj (quoteMembers q))
  quoteId : q.quoteId ≠ []
  quoteOf : QuoteOf env s offer q
  found : findOffer s.offers offer.offerId = some offer
  selectedOfferId : s.selectedOfferId = some offer.offerId
  selectedSeller : s.selectedSeller = some offer.seller
  buyer : ∀ signature, s.buyerSignature = some signature →
    Accepted env (quoteMembers q) signature s.rfq.buyer
  seller : ∀ signature, s.sellerSignature = some signature →
    Accepted env (quoteMembers q) signature offer.seller
  committed : s.state = .committed → s.buyerSignature.isSome ∧ s.sellerSignature.isSome
  since : ∃ pre selected post, log = pre ++ selected :: post ∧ Since q s selected post

theorem Cycle.quote_eq {log : List NegotiationEvent} {s : DerivedSession} {q : SignedQuote}
    {offer : RecordedOffer} (hc : Cycle env log s q offer) : s.quote = quoteMembers q := by
  rw [DerivedSession.quote, hc.unsignedQuote]
  rfl

/-- An accept opens a cycle without signatures. -/
theorem Recorded.opens {en : Entry} (hr : Recorded env P answers h en) {s : DerivedSession}
    {offer : RecordedOffer} (hs : deriveState (logOf h en.rfqId) = .ok (some s))
    (htype : en.event.type = .winnerSelected)
    (hoffer : findOffer s.offers offer.offerId = some offer)
    (hid : en.event.payload.lookup (js "offer_id") = some (.str offer.offerId)) :
    ∃ q, QuoteOf env s offer q ∧ q.quoteId ≠ [] ∧
      en.event.payload.lookup (js "quote") = some (.obj (quoteMembers q)) := by
  obtain ⟨m, envelope, signer, sellerDid, offerId, -, hlocked⟩ := hr.accept hs htype
  obtain ⟨s', q, hs', -, -, hbuild, -, hpayload⟩ := lockedAccept_ok hlocked
  obtain rfl : s = s' := Option.some.inj hs'
  obtain ⟨offer', hoffer', hquote, hquoteId⟩ := buildQuoteFromSession_ok hbuild
  have hid' : en.event.payload.lookup (js "offer_id") = some (.str offerId) := by
    rw [hpayload]
    rfl
  obtain rfl : offer.offerId = offerId := by simpa using hid.symm.trans hid'
  obtain rfl : offer = offer' := by simpa using hoffer.symm.trans hoffer'
  exact ⟨q, hquote, by rw [hquoteId]; exact m.quoteId_ne_nil, by rw [hpayload]; rfl⟩

theorem Recorded.signs {en : Entry} (hr : Recorded env P answers h en) {s : DerivedSession}
    {signature : JsString} (hs : deriveState (logOf h en.rfqId) = .ok (some s))
    (htype : en.event.type = .quoteSigned)
    (hpayload : en.event.payload.lookup (js "buyer_signature") = some (.str signature)) :
    Accepted env s.quote signature s.rfq.buyer := by
  obtain ⟨signature', hcallback⟩ := hr.sign .buyer (by rw [htype]; rfl)
  have happends := hr.appends hs
  rw [hcallback] at happends
  obtain ⟨now, m, s', hlocked, hfinish⟩ := happends
  obtain rfl : s = s' := Option.some.inj (lockedQuoteSign_ok hlocked).1
  obtain ⟨hverify, -, hpayload'⟩ := finishQuoteSign_ok hfinish
  obtain rfl : signature = signature' := by simpa using hpayload.symm.trans hpayload'
  exact ⟨_, hverify⟩

theorem Recorded.cosigns {en : Entry} (hr : Recorded env P answers h en) {s : DerivedSession}
    {signature : JsString} (hs : deriveState (logOf h en.rfqId) = .ok (some s))
    (htype : en.event.type = .quoteCommitted)
    (hpayload : en.event.payload.lookup (js "seller_signature") = some (.str signature)) :
    s.buyerSignature.isSome ∧ Accepted env s.quote signature (s.selectedSeller.getD []) := by
  obtain ⟨signature', hcallback⟩ := hr.sign .seller (by rw [htype]; rfl)
  have happends := hr.appends hs
  rw [hcallback] at happends
  obtain ⟨now, m, s', hlocked, hfinish⟩ := happends
  obtain ⟨hs', -, hsigned⟩ := lockedCosign_ok hlocked
  obtain rfl : s = s' := Option.some.inj hs'
  obtain ⟨hverify, -, hpayload', -⟩ := finishCosign_ok hfinish
  obtain rfl : signature = signature' := by simpa using hpayload.symm.trans hpayload'
  exact ⟨hsigned, _, hverify⟩

/-- An event that is no turn and keeps quote, seller and offers keeps the cycle. -/
theorem Since.extend {q : SignedQuote} {s s' : DerivedSession} {selected : NegotiationEvent}
    {post : List NegotiationEvent} (hs : Since q s selected post) {event : NegotiationEvent}
    (hturn : event.type.isTurn = false)
    (hbuyer : ∀ signature, s'.buyerSignature = some signature →
      s.buyerSignature = some signature ∨ event.type = .quoteSigned ∧
        event.payload.lookup (js "buyer_signature") = some (.str signature))
    (hseller : ∀ signature, s'.sellerSignature = some signature →
      s.sellerSignature = some signature ∨ event.type = .quoteCommitted ∧
        event.payload.lookup (js "seller_signature") = some (.str signature)) :
    Since q s' selected (post ++ [event]) where
  type := hs.type
  quote := hs.quote
  noTurn e he := by
    rcases List.mem_append.mp he with he | he
    · exact hs.noTurn e he
    · rw [List.mem_singleton.mp he, hturn]
  buyer signature hsig := by
    rcases hbuyer signature hsig with hold | hnew
    · obtain ⟨e, he, hrest⟩ := hs.buyer signature hold
      exact ⟨e, by simp [he], hrest⟩
    · exact ⟨event, by simp, hnew⟩
  seller signature hsig := by
    rcases hseller signature hsig with hold | hnew
    · obtain ⟨e, he, hrest⟩ := hs.seller signature hold
      exact ⟨e, by simp [he], hrest⟩
    · exact ⟨event, by simp, hnew⟩

/-- One event after another, the cycle of a commitment holds. -/
theorem Recorded.cycle {en : Entry} (hr : Recorded env P answers h en) {s s' : DerivedSession}
    (hs : deriveState (logOf h en.rfqId) = .ok (some s)) (hstep : EventStep s en.event s')
    (hcycle : s.state = .commitPending ∨ s.state = .committed →
      ∃ q offer, Cycle env (logOf h en.rfqId) s q offer)
    (hstate : s'.state = .commitPending ∨ s'.state = .committed) :
    ∃ q offer, Cycle env (logOf h en.rfqId ++ [en.event]) s' q offer := by
  cases hstep with
  | winnerSelected offer _ htype _ hoffer hid =>
    obtain ⟨q, hquote, hne, hpayload⟩ := hr.opens hs htype hoffer hid
    refine ⟨q, offer, ?_, hne, hquote.congr rfl, hoffer, rfl, rfl, by rintro _ ⟨⟩,
      by rintro _ ⟨⟩, by rintro ⟨⟩,
      logOf h en.rfqId, en.event, [], rfl, htype, hpayload,
      by rintro _ ⟨⟩, by rintro _ ⟨⟩, by rintro _ ⟨⟩⟩
    simp [optObject, hpayload, Option.filter, Json.isObject]
  | quoteSigned seller signature hpending htype _ _ hpayload =>
    obtain ⟨q, offer, hc⟩ := hcycle (Or.inl hpending)
    obtain ⟨pre, selected, post, hlog, hsince⟩ := hc.since
    have haccepted := hr.signs hs htype hpayload
    rw [hc.quote_eq] at haccepted
    refine ⟨q, offer, { hc with
      quoteOf := hc.quoteOf.congr rfl
      buyer := ?_
      committed := by rintro ⟨⟩
      since := ⟨pre, selected, post ++ [en.event], by simp [hlog], hsince.extend
        (by rw [htype]; rfl) ?_ fun _ h => Or.inl h⟩ }⟩
    · rintro _ ⟨⟩
      exact haccepted
    · rintro _ ⟨⟩
      exact Or.inr ⟨htype, hpayload⟩
  | quoteCommitted signature hpending htype hseller hpayload =>
    obtain ⟨q, offer, hc⟩ := hcycle (Or.inl hpending)
    obtain ⟨pre, selected, post, hlog, hsince⟩ := hc.since
    obtain ⟨hsigned, haccepted⟩ := hr.cosigns hs htype hpayload
    rw [hc.quote_eq, hc.selectedSeller, Option.getD_some] at haccepted
    refine ⟨q, offer, { hc with
      quoteOf := hc.quoteOf.congr rfl
      seller := ?_
      committed := fun _ => ⟨hsigned, rfl⟩
      since := ⟨pre, selected, post ++ [en.event], by simp [hlog], hsince.extend
        (by rw [htype]; rfl) (fun _ h => Or.inl h) ?_⟩ }⟩
    · rintro _ ⟨⟩
      exact haccepted
    · rintro _ ⟨⟩
      exact Or.inr ⟨htype, hpayload⟩
  | marker htype =>
    obtain ⟨q, offer, hc⟩ := hcycle hstate
    obtain ⟨pre, selected, post, hlog, hsince⟩ := hc.since
    refine ⟨q, offer, { hc with
      quoteOf := hc.quoteOf.congr rfl
      since := ⟨pre, selected, post ++ [en.event], by simp [hlog], hsince.extend ?_
        (fun _ h => Or.inl h) fun _ h => Or.inl h⟩ }⟩
    rcases htype with ⟨htype, -⟩ | ⟨htype, -⟩ <;> rw [htype] <;> rfl
  | _ => simp at hstate

theorem Journal.cycle (hj : Journal env P answers h) {s : DerivedSession}
    (hs : deriveState (logOf h r) = .ok (some s))
    (hstate : s.state = .commitPending ∨ s.state = .committed) :
    ∃ q offer, Cycle env (logOf h r) s q offer := by
  refine hj.session_induction (C := fun log s => s.state = .commitPending ∨ s.state = .committed →
    ∃ q offer, Cycle env log s q offer) (fun _ _ s _ _ hfirst hstate => ?_)
    (fun _ _ _ _ hr hs hstep hcycle hstate => hr.cycle hs hstep hcycle hstate) hs hstate
  rw [(initialSession_state hfirst).1] at hstate
  simp at hstate

/-! ### Offers -/

theorem Recorded.fresh_offerId {en : Entry} (hr : Recorded env P answers h en)
    {s : DerivedSession} (hs : deriveState (logOf h en.rfqId) = .ok (some s))
    (htype : en.event.type = .offerSubmitted) :
    ∀ o ∈ s.offers, en.event.payload.lookup (js "offer_id") ≠ some (.str o.offerId) := by
  obtain ⟨m, listings, body, -, hlocked⟩ := hr.offer hs htype
  obtain ⟨-, s', hs', hfresh⟩ := lockedOffer_ok hlocked
  obtain rfl : s = s' := Option.some.inj hs'
  exact hfresh

theorem EventStep.offers {s : DerivedSession} {event : NegotiationEvent} {s' : DerivedSession}
    (hstep : EventStep s event s') : s'.offers = s.offers ∨ ∃ offer : RecordedOffer,
      s'.offers = s.offers ++ [offer] ∧ event.type = .offerSubmitted ∧
        event.payload.lookup (js "offer_id") = some (.str offer.offerId) := by
  cases hstep with
  | offerSubmitted offer _ htype _ hid => exact Or.inr ⟨offer, rfl, htype, hid⟩
  | _ => exact Or.inl rfl

/-- The offers of a session have different ids. -/
theorem Journal.nodup_offerId (hj : Journal env P answers h) {s : DerivedSession}
    (hs : deriveState (logOf h r) = .ok (some s)) : (s.offers.map RecordedOffer.offerId).Nodup := by
  refine hj.session_induction (C := fun _ s => (s.offers.map RecordedOffer.offerId).Nodup)
    (fun _ _ s _ _ hfirst => ?_) (fun h en s s' hr hs hstep ih => ?_) hs
  · rw [(initialSession_state hfirst).2.1]
    exact List.nodup_nil
  · rcases hstep.offers with hsame | ⟨offer, hoffers, htype, hid⟩
    · exact hsame ▸ ih
    · rw [hoffers, List.map_append, List.nodup_append]
      refine ⟨ih, by simp, ?_⟩
      rintro a ha b hb rfl
      obtain ⟨o, ho, rfl⟩ := List.mem_map.mp ha
      have hsame : o.offerId = offer.offerId := by simpa using hb
      exact hr.fresh_offerId hs htype o ho (by rw [hid, hsame])

end

theorem unique_offer {offers : List RecordedOffer} {offer o : RecordedOffer}
    (hnodup : (offers.map RecordedOffer.offerId).Nodup) (hoffer : offer ∈ offers)
    (ho : o ∈ offers) (hid : o.offerId = offer.offerId) : o = offer :=
  List.inj_on_of_nodup_map hnodup ho hoffer hid

/-! ### Committed sessions -/

/-- What a committed session carries, in every run. -/
theorem committed_session {σ : Type} [InternalEventStore σ] (env : EngineEnv)
    (is : List EngineLabel) (r : JsString) (now : ℤ) {s : DerivedSession}
    (hs : ((run (EngineState.step env) (EngineState.empty : EngineState σ) is).manager.getSession
      now r).1 = .ok (some s)) (hstate : s.state = .committed) :
    ∃ q buyerSignature sellerSignature seller offer,
      s.unsignedQuote = some (.obj (quoteMembers q)) ∧
      s.buyerSignature = some buyerSignature ∧ s.sellerSignature = some sellerSignature ∧
      s.selectedSeller = some seller ∧
      Accepted env (quoteMembers q) buyerSignature s.rfq.buyer ∧
      Accepted env (quoteMembers q) sellerSignature seller ∧
      q.rfqId = s.rfq.rfqId ∧ q.buyer = s.rfq.buyer ∧
      (offer ∈ s.offers ∧ s.selectedOfferId = some offer.offerId ∧
        ∀ o ∈ s.offers, o.offerId = offer.offerId → o = offer) ∧
      q.seller = offer.seller ∧ q.finalPrice = offer.price ∧ q.currency = offer.currency ∧
      q.paymentEndpoint = offer.paymentEndpoint ∧
      (∃ expires deadline, dateParse env.legacyDate q.expiresAt = some expires ∧
        dateParse env.legacyDate s.rfq.deadline = some deadline ∧ expires ≤ deadline) ∧
      ∃ pre selected post,
        (run (EngineState.step env) (EngineState.empty : EngineState σ) is).manager.log r =
          pre ++ selected :: post ∧ Since q s selected post := by
  have he := EngineState.run_inv_true (σ := σ) env is
  rw [(he.getSession now r).1] at hs
  obtain ⟨q, offer, hc⟩ := he.journal.cycle hs (Or.inr hstate)
  obtain ⟨hbuyer, hseller⟩ := hc.committed hstate
  obtain ⟨buyerSignature, hbuyer⟩ := Option.isSome_iff_exists.mp hbuyer
  obtain ⟨sellerSignature, hseller⟩ := Option.isSome_iff_exists.mp hseller
  have hoffer := (findOffer_eq_some hc.found).1
  have hunique : ∀ o ∈ s.offers, o.offerId = offer.offerId → o = offer := fun o ho hid =>
    unique_offer (he.journal.nodup_offerId hs) hoffer ho hid
  refine ⟨q, buyerSignature, sellerSignature, offer.seller, offer, hc.unsignedQuote, hbuyer,
    hseller, hc.selectedSeller, hc.buyer _ hbuyer, hc.seller _ hseller, hc.quoteOf.rfqId,
    hc.quoteOf.buyer, ⟨hoffer, hc.selectedOfferId, hunique⟩, hc.quoteOf.seller,
    hc.quoteOf.finalPrice, hc.quoteOf.currency, hc.quoteOf.paymentEndpoint, hc.quoteOf.expiry, ?_⟩
  rw [he.log]
  exact hc.since

/-! ### A negotiation that commits -/

/-- A text as marked units and a closing zero. -/
def packText (s : JsString) : JsString := s.flatMap (fun u => [1, u]) ++ [0]

def unpack (s : JsString) : JsString → List JsString
  | 1 :: u :: rest => unpack (s ++ [u]) rest
  | _ :: rest => s :: unpack [] rest
  | [] => []

def pairUp : List JsString → Members
  | k :: v :: rest => (k, .str v) :: pairUp rest
  | _ => []

/-- A header text for members that are texts. -/
def packMembers (ms : Members) : JsString :=
  65535 :: ms.flatMap fun m => packText m.1 ++ packText (castText (some m.2))

theorem castText_str (s : JsString) : castText (some (.str s)) = s := rfl

def unpackHeader (header : JsString) : Option Json :=
  match header with
  | 65535 :: rest => some (.obj (pairUp (unpack [] rest)))
  | _ => none

theorem unpack_packText (s t rest : JsString) :
    unpack t (packText s ++ rest) = (t ++ s) :: unpack [] rest := by
  induction s generalizing t with
  | nil => simp [packText, unpack]
  | cons u s ih =>
    have h := ih (t ++ [u])
    simpa [packText, unpack] using h

theorem unpackHeader_packMembers {ms : Members} (h : ∀ m ∈ ms, ∃ s, m.2 = .str s) :
    unpackHeader (packMembers ms) = some (.obj ms) := by
  have hpairs : pairUp (unpack [] (ms.flatMap fun m => packText m.1 ++
      packText (castText (some m.2)))) = ms := by
    induction ms with
    | nil => rfl
    | cons m ms ih =>
      obtain ⟨s, hs⟩ := h m (by simp)
      have ih := ih fun m' hm => h m' (by simp [hm])
      rw [List.flatMap_cons, List.append_assoc, unpack_packText, unpack_packText]
      obtain ⟨k, v⟩ := m
      simp only at hs
      subst hs
      rw [List.nil_append, List.nil_append, pairUp, ih, castText_str]
  rw [packMembers, unpackHeader, hpairs]

theorem quoteMembers_texts (q : SignedQuote) : ∀ m ∈ quoteMembers q, ∃ s, m.2 = .str s := by
  intro m hm
  rw [quoteMembers, List.mem_append] at hm
  rcases hm with hm | hm
  · simp only [List.mem_cons, List.not_mem_nil, or_false] at hm
    rcases hm with rfl | rfl | rfl | rfl | rfl | rfl | rfl | rfl | rfl | rfl | rfl | rfl | rfl <;>
      exact ⟨_, rfl⟩
  · cases h : q.specHash with
    | none => simp [defined, h] at hm
    | some hash =>
      have hm : m = (js "spec_hash", .str hash) := by simpa [defined, h] using hm
      exact ⟨hash, by rw [hm]⟩

structure SampleNegotiation where
  rfqId : JsString
  offerId : JsString
  envelopeId : JsString
  quoteId : JsString
  created : JsString
  offered : JsString
  accepted : JsString
  signed : JsString
  committed : JsString
  settled : JsString
  rfqSignature : JsString
  offerSignature : JsString
  acceptSignature : JsString
  buyerSignature : JsString
  sellerSignature : JsString
  nonceByte : UInt8
  quoteId_ne_nil : quoteId ≠ [] := by decide

/-- A negotiation, with the signatures of its parties. -/
def firstNegotiation : SampleNegotiation where
  rfqId := js "99c03657-b4ea-47f9-a4a6-7a507173f72e"
  offerId := js "ec35f0d6-42a8-402d-aeed-398e00d27074"
  envelopeId := js "b855ed30-b5be-4ef8-abf2-fa76ada8f367"
  quoteId := js "3c36eb89-7268-4814-ae2f-9aba92103f7d"
  created := js "e469b130-2ec3-4dcd-a3f9-eb266d5e49d8"
  offered := js "3caf84f8-d708-4cbb-af8f-c3e6c09a824b"
  accepted := js "83cd218f-3965-45dd-a8ff-3ee8b7c09b32"
  signed := js "045aba2a-91f9-4aec-a058-c7969c516691"
  committed := js "ffe05b90-ff02-4692-a2b8-8781b6567958"
  settled := js "39a6b378-e8ae-4869-ad01-1abcd8c114ec"
  rfqSignature :=
      js "ed25519:0NEkUgRGDg04u2+mLH6t9XhGkEho5IHMr11WCmXP/Tr1Wh1EHjdU/4CNEhsndJMvZ/Au" ++
      js "Q1+lwooMThohcge4CQ=="
  offerSignature :=
      js "ed25519:5i5GN76haZ5WvhDws9dpf8f0yNmeFYS+z4z4quhXXK1yrUpFXTFIp1QqIierBRWIZhIb" ++
      js "d8cyyMrFzeme7kqpAw=="
  acceptSignature :=
      js "ed25519:rgo+LqECizOUdrUj8Qlhk+vUz3xjF0HhsozSg6KLPCXH9sw5eUqWRG7NmH4jM3+HEhlu" ++
      js "BPUT+DCLncH9wJj8DQ=="
  buyerSignature :=
      js "ed25519:751L/G4pW/OUGRoqyelQIQC9Z2VBUfmN2DmePlZZagq3QQfR2YAZcI1MxLuwtrOt9PDz" ++
      js "/NNldBMCnrinrYhYDA=="
  sellerSignature :=
      js "ed25519:/Nm4PEQFlcHganT/uaJUKkoSZAtz7nZTwe4vtbz3fiKSAm+nJ8Q/y4dsIyQOIhO1axih" ++
      js "cwVeJKtGmbw11+S5Dg=="
  nonceByte := 7

/-- Another negotiation of the same parties at the same price. -/
def secondNegotiation : SampleNegotiation where
  rfqId := js "b2d77152-77ce-40f2-adb1-50e1e087e156"
  offerId := js "8d1718a0-3fe9-44f3-aaf8-07a02d4d3ea7"
  envelopeId := js "6e701b21-370d-49a1-a230-f312d90bfab5"
  quoteId := js "df81407f-e62c-4400-a6c6-f837a1a0b060"
  created := js "7b7f870a-5908-46ef-ae0e-19e6965d270f"
  offered := js "f9f847ed-ee76-46a5-a238-74cf4471f9eb"
  accepted := js "d18318b6-e950-43c8-a566-e11e113f2d05"
  signed := js "dbd0fe54-fd78-4771-a0bb-0a802950c1a5"
  committed := js "14560a76-45d3-40d8-a55e-4dd6d7925e12"
  settled := js "ffc856df-15b5-4e13-a821-eb4bddffceb1"
  rfqSignature :=
      js "ed25519:gzuX4W37lAIZ9YJoaQ9y1peXAt3bR4vamGp2p8btk4rDNooNHyzhFfxLfM5lMUokBcaN" ++
      js "m5maC97GTD9Vo+L8DA=="
  offerSignature :=
      js "ed25519:Y429mInS32R6oYjSnIDSvfi96n6YK/p1oZnBujNaKfhUyQijCRDgZsejDgHdRd2E37m8" ++
      js "MmF39GliJwPhRzSqDw=="
  acceptSignature :=
      js "ed25519:dGd2YHmk6Vc/Tgr9UhVQ8noFGqJluBAjRbRIstInYKVlxbExy86ZtYx9PLfjZLszHQoW" ++
      js "yF1XQ19HDz2ilcKjAA=="
  buyerSignature :=
      js "ed25519:7/2tyYeUQlIvtSDFurdEuT++kJoO9yqDM8/DLoY+U3j0YN96asQtrJy9iXmdLfuH3CYZ" ++
      js "+ZiY9PYLh8FU4rl5Aw=="
  sellerSignature :=
      js "ed25519:LBFDQBpxwRhznFODsVjNBNUnRGg6CW5oBe24eoU7ib7cALBnbWdc+pZHmPnUvuPGbL1h" ++
      js "f7gyCcjywXekRf6LAQ=="
  nonceByte := 8

def sampleListing : Listing :=
  ⟨js "listing-1", Settlement.sampleSeller, js "https://seller.example/execute"⟩

def sampleStart : JsString := js "2026-03-01T12:00:00.000Z"

def sampleDeadline : JsString := js "2026-03-01T13:00:00.000Z"

def sampleNow : ℤ := 1772366400000

/-- The hash of the empty specification. -/
def emptySpecHash : Digest :=
  ⟨[68, 19, 111, 163, 85, 179, 103, 138, 17, 70, 173, 22, 247, 232, 100, 158, 148, 251, 79, 194,
    31, 231, 126, 131, 16, 192, 96, 246, 28, 170, 255, 138], rfl⟩

def text (key : String) (v : JsString) : JsString × Json := (js key, .str v)

namespace SampleNegotiation

def moment (n : SampleNegotiation) (eventId : JsString) : Moment :=
  ⟨sampleNow, eventId, n.quoteId, n.quoteId_ne_nil, ⟨List.replicate 32 n.nonceByte, rfl⟩⟩

def rfqBody (n : SampleNegotiation) : Json :=
  .obj [text "rfq_id" n.rfqId, text "protocol" (js "ghost-bazaar-v4"),
    text "buyer" Settlement.sampleBuyer, text "service_type" (js "translation"),
      (js "spec", .obj []),
    text "anchor_price" (js "10"), text "currency" (js "USDC"), text "deadline" sampleDeadline,
    text "signature" n.rfqSignature]

def offerBody (n : SampleNegotiation) : Json :=
  .obj [text "offer_id" n.offerId, text "rfq_id" n.rfqId, text "seller" Settlement.sampleSeller,
    text "listing_id" (js "listing-1"), text "price" (js "9"), text "currency" (js "USDC"),
    text "valid_until" sampleDeadline, text "signature" n.offerSignature]

def acceptBody (n : SampleNegotiation) : Json :=
  .obj [text "envelope_id" n.envelopeId, text "action" (js "accept"), text "rfq_id" n.rfqId,
    text "session_revision" n.offered, (js "payload", .obj [text "seller" Settlement.sampleSeller,
      text "offer_id" n.offerId]), text "issued_at" sampleStart,
    text "expires_at" sampleDeadline, text "signature" n.acceptSignature]

/-- The buyer asks, the seller offers, the buyer accepts and both sign. -/
def labels (n : SampleNegotiation) (t : CallId) : List EngineLabel :=
  [.request t (.createRfq (some n.rfqBody)) (n.moment n.created),
    .resume t (n.moment n.created), .cleanup t, .release t,
    .request (t + 1) (.submitOffer n.rfqId (some n.offerBody)) (n.moment n.offered),
    .resume (t + 1) (n.moment n.offered), .cleanup (t + 1), .release (t + 1),
    .request (t + 2) (.accept n.rfqId (some n.acceptBody)) (n.moment n.accepted),
    .resume (t + 2) (n.moment n.accepted), .resume (t + 2) (n.moment n.accepted),
    .cleanup (t + 2), .release (t + 2),
    .request (t + 3) (.sign .buyer n.rfqId (some (.obj [text "buyer_signature" n.buyerSignature])))
      (n.moment n.signed),
    .resume (t + 3) (n.moment n.signed), .cleanup (t + 3), .release (t + 3),
    .request (t + 4) (.sign .seller n.rfqId
      (some (.obj [text "seller_signature" n.sellerSignature]))) (n.moment n.committed),
    .resume (t + 4) (n.moment n.committed), .cleanup (t + 4), .release (t + 4)]

def signatures (n : SampleNegotiation) : List JsString :=
  [n.rfqSignature, n.offerSignature, n.acceptSignature, n.buyerSignature, n.sellerSignature]

end SampleNegotiation

/-- The libraries on the values of the examples. Other headers than its own carry `decoded`. -/
def sampleEngineEnv (decoded : Json) (signatures : List JsString) : EngineEnv where
  toSettlementEnv := { sampleEnv decoded signatures with
    sha256 := fun _ => emptySpecHash
    parseHeader := fun header => (unpackHeader header).or (some decoded) }
  headerText := packMembers
  parse_headerText q := by simp [unpackHeader_packMembers (quoteMembers_texts q)]
  verifyBudgetProof _ _ _ := false
  settlementWindowMs := none
  cosignTimeoutMs := none
  usdcMint := Settlement.usdcMint
  cluster := none
  lockTimeoutMs := 5000
  maxQueueSize := 10

def commitRun : EngineState InMemoryEventStore :=
  run (EngineState.step (sampleEngineEnv .null firstNegotiation.signatures)) EngineState.empty
    (.addListing sampleListing :: firstNegotiation.labels 0)

/-- The state of a session that was read, if there is one. -/
def readState (x : Except JsString (Option DerivedSession)) : Option SessionState :=
  match x with
  | .ok (some s) => some s.state
  | _ => none

theorem readState_eq_some {x : Except JsString (Option DerivedSession)} {state : SessionState}
    (h : readState x = some state) : ∃ s, x = .ok (some s) ∧ s.state = state := by
  match x, h with
  | .ok (some s), h => exact ⟨s, rfl, by simpa [readState] using h⟩

/-- A test of the session that was read. -/
theorem exists_session {x : Except JsString (Option DerivedSession)} {p : DerivedSession → Bool}
    (h : x.toOption.join.any p = true) : ∃ s, x = .ok (some s) ∧ p s = true := by
  match x, h with
  | .ok (some s), h => exact ⟨s, rfl, h⟩

theorem committed_session_sample : ∃ s q signature,
    (commitRun.manager.getSession 0 firstNegotiation.rfqId).1 = .ok (some s) ∧
      s.state = .committed ∧ s.unsignedQuote = some (.obj (quoteMembers q)) ∧
      s.sellerSignature = some signature := by
  have hread : readState (commitRun.manager.getSession 0 firstNegotiation.rfqId).1 =
      some .committed := by decide +kernel
  obtain ⟨s, hs, hstate⟩ := readState_eq_some hread
  obtain ⟨q, _, signature, _, _, hquote, -, hsignature, -⟩ := committed_session _ _ _ _ hs hstate
  exact ⟨s, q, signature, hs, hstate, hquote, hsignature⟩

end GhostBazaar.Engine
