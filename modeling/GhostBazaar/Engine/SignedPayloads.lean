import GhostBazaar.Core.SigningPayload
import GhostBazaar.Engine.AtomicAppend
import GhostBazaar.Engine.BidReplay
import GhostBazaar.Engine.CommittedQuote
import GhostBazaar.Engine.EngineInvariant

/-! The signing payloads of requests for quotes, offers and counters, rebuilt from the log.
Each route lists the signed fields twice, in different orders. -/
namespace GhostBazaar.Engine
open Js GhostBazaar.Core Transition

/-! ### Object literals -/

theorem keys_defined_sublist (fields : List (JsString × JsValue)) :
    ((defined fields).map Prod.fst).Sublist (fields.map Prod.fst) := by
  induction fields with
  | nil => exact List.Sublist.refl _
  | cons f fields ih =>
    obtain ⟨k, v⟩ := f
    cases v with
    | none => exact ih.cons k
    | some v => exact ih.cons_cons k

theorem keys_pick_sublist (body : Json) (keys : List JsString) :
    ((pick body keys).map Prod.fst).Sublist keys := by
  have hsublist := keys_defined_sublist (keys.map fun key => (key, body.get? key))
  rwa [map_fst_fields] at hsublist

theorem defined_perm {fields fields' : List (JsString × JsValue)} (h : fields.Perm fields') :
    (defined fields).Perm (defined fields') := h.filterMap _

/-- An object literal whose keys are names and whose values are JSON is JSON itself. -/
theorem defined_ordinary {fields : List (JsString × JsValue)}
    (hkeys : (fields.map Prod.fst).Nodup) (hnames : ∀ k ∈ fields.map Prod.fst,
      k.any (fun u => !isDigitUnit u) = true)
    (hvalues : ∀ f ∈ fields, ∀ v, f.2 = some v → v.Ordinary) :
    (Json.obj (defined fields)).Ordinary := by
  have hsublist := keys_defined_sublist fields
  refine ⟨hkeys.sublist hsublist, ?_, ordinaryMembers_iff.mpr ?_⟩
  · apply ObservedManager.enumerate_of_names
    rw [List.all_eq_true]
    exact fun m hm => hnames m.1 (hsublist.subset (List.mem_map_of_mem hm))
  · intro m hm
    unfold defined at hm
    rw [List.mem_filterMap] at hm
    obtain ⟨f, hf, hfm⟩ := hm
    obtain ⟨v, hv, rfl⟩ := Option.map_eq_some_iff.mp hfm
    exact hvalues f hf v hv

theorem get?_ordinary {body : Json} (h : body.Ordinary) {key : JsString} {v : Json}
    (hv : body.get? key = some v) : v.Ordinary := by
  cases body with
  | obj ms =>
    exact ordinaryMembers_iff.mp h.2.2 (key, v) (JsMap.mem_of_lookup hv)
  | null | bool _ | num _ | str _ | arr _ => cases hv

theorem pick_perm (body : Json) {keys keys' : List JsString} (h : keys.Perm keys') :
    (pick body keys).Perm (pick body keys') := defined_perm (h.map _)

theorem picked_ordinary {body : Json} (h : body.Ordinary) (keys : List JsString) :
    ∀ f ∈ keys.map fun key => (key, body.get? key), ∀ v, f.2 = some v → v.Ordinary := by
  intro f hf v hv
  obtain ⟨key, -, rfl⟩ := List.mem_map.mp hf
  exact get?_ordinary h hv

theorem pick_ordinary {body : Json} (h : body.Ordinary) {keys : List JsString}
    (hkeys : keys.Nodup) (hnames : ∀ k ∈ keys, k.any (fun u => !isDigitUnit u) = true) :
    (Json.obj (pick body keys)).Ordinary := by
  apply defined_ordinary
  · rwa [map_fst_fields]
  · rwa [map_fst_fields]
  · exact picked_ordinary h keys

/-! ### What is signed and what is stored -/

/-- A submitted body, the fields of it that the route verifies, and whose signature it is. -/
structure Submission where
  body : Json
  fields : Members
  signer : JsString

def Callback.submission : Callback → Option Submission
  | .createRfq body => some ⟨body, extractRfqFields body, castText (body.get? (js "buyer"))⟩
  | .submitOffer body => some ⟨body, extractOfferFields body, castText (body.get? (js "seller"))⟩
  | .sendCounter body => some ⟨body, extractCounterFields body, castText (body.get? (js "from"))⟩
  | _ => none

/-- The payload of an event without what the engine added to it. -/
def signedPart (event : NegotiationEvent) : Members :=
  match event.type with
  | .offerSubmitted => event.payload.filter fun m => decide (m.1 ≠ js "payment_endpoint")
  | _ => event.payload

/-- The submission was signed by its signer. -/
def Submission.Verified (c : Crypto) (s : Submission) : Prop :=
  ∃ key, c.didToPublicKey s.signer = some key ∧ c.verifyEd25519 (objectSigningPayload c s.fields)
    (castText (s.body.get? (js "signature"))) key = true

/-- The bytes that were verified come out of what a store keeps of the event, whatever the
store held before. -/
def Submission.Rebuilt (σ : Type) [EventStorage σ] (c : Crypto) (s : Submission) (r : JsString)
    (event : NegotiationEvent) : Prop :=
  ∀ (contents contents' : σ) (stored : NegotiationEvent),
    EventStorage.append contents r event = .ok (contents', stored) →
      objectSigningPayload c (signedPart stored) = objectSigningPayload c s.fields

/-- What an event keeps of a submission: its signed fields, as JSON. -/
structure Submission.Kept (s : Submission) (event : NegotiationEvent) : Prop where
  fields : (signedPart event).Perm s.fields
  nodup : (event.payload.map Prod.fst).Nodup
  json : JsonValued event

theorem signedPart_sublist (event : NegotiationEvent) : (signedPart event).Sublist
    event.payload := by
  unfold signedPart
  split
  · exact List.filter_sublist
  · exact List.Sublist.refl _

theorem Submission.Kept.rebuilt {s : Submission} {event : NegotiationEvent} (h : s.Kept event)
    {c : Crypto} (hcanonical : c.canonicalJson = canonicalJson) (σ : Type) [EventStorage σ]
    [ObservedManager.KeepsJson σ] (r : JsString) : s.Rebuilt σ c r event := by
  intro contents contents' stored happend
  rw [ObservedManager.KeepsJson.append_stored h.json happend]
  apply objectSigningPayload_perm hcanonical _ h.fields
  exact h.nodup.sublist ((signedPart_sublist event).map _)

/-! ### The routes -/

theorem IsText.cast {v : JsValue} (h : IsText v) : some (.str (castText v)) = v := by
  obtain ⟨s, rfl⟩ := h
  rfl

theorem lockedRfq_kept {m : Moment} {r : JsString} {body : Json} {before : Option DerivedSession}
    {event : NegotiationEvent} (hbody : body.Ordinary)
    (hlocked : lockedRfq m r body before = .ok event) {s : Submission}
    (hs : (Callback.createRfq body).submission = some s) : s.Kept event := by
  simp only [lockedRfq, bind_eq_ok, pure_eq_ok] at hlocked
  obtain ⟨-, -, _, -, rfl⟩ := hlocked
  obtain rfl := Option.some.inj hs
  have hjson : (Json.obj (extractRfqFields body)).Ordinary :=
    pick_ordinary hbody (by decide +kernel) (by decide +kernel)
  exact ⟨List.Perm.refl _, hjson.1, hjson⟩

/-- The payload of a counter: the signed fields, with the id of the route in the place of its own. -/
theorem lockedCounter_kept {env : EngineEnv} {m : Moment} {r : JsString} {body : Json}
    {before : Option DerivedSession} {event : NegotiationEvent} (hbody : body.Ordinary)
    (hrfqId : body.get? (js "rfq_id") = some (.str r))
    (hlocked : lockedCounter env m r body before = .ok event) {s : Submission}
    (hs : (Callback.sendCounter body).submission = some s) : s.Kept event := by
  simp only [lockedCounter, bind_eq_ok, pure_eq_ok] at hlocked
  obtain ⟨_, -, -, -, -, -, -, -, -, -, -, -, _, -, rfl⟩ := hlocked
  obtain rfl := Option.some.inj hs
  rw [← hrfqId]
  have hjson : (Json.obj (pick body [js "rfq_id", js "counter_id", js "round", js "from", js "to",
      js "price", js "currency", js "valid_until", js "signature", js "budget_proof",
      js "extensions"])).Ordinary :=
    pick_ordinary hbody (by decide +kernel) (by decide +kernel)
  have hfields : (pick body [js "rfq_id", js "counter_id", js "round", js "from", js "to",
      js "price", js "currency", js "valid_until", js "signature", js "budget_proof",
      js "extensions"]).Perm (extractCounterFields body) :=
    pick_perm body (by decide +kernel)
  exact ⟨hfields, hjson.1, hjson⟩

/-- The payload of an offer: the signed fields and the endpoint of the listing. -/
theorem lockedOffer_kept {env : EngineEnv} {m : Moment} {listings : ListingStore} {r : JsString}
    {body : Json} {before : Option DerivedSession} {event : NegotiationEvent}
    (hbody : body.Ordinary) (hrfqId : body.get? (js "rfq_id") = some (.str r))
    (hseller : IsText (body.get? (js "seller"))) (hlisting : IsText (body.get? (js "listing_id")))
    (hlocked : lockedOffer env m listings r body before = .ok event) {s : Submission}
    (hs : (Callback.submitOffer body).submission = some s) : s.Kept event := by
  simp only [lockedOffer, bind_eq_ok, pure_eq_ok] at hlocked
  obtain ⟨_, -, -, -, -, -, -, -, -, -, -, -, listing, -, -, -, _, -, rfl⟩ := hlocked
  obtain rfl := Option.some.inj hs
  rw [← hrfqId, hseller.cast, hlisting.cast]
  let picked : List JsString → List (JsString × JsValue) := fun keys =>
    keys.map fun key => (key, body.get? key)
  let fields := picked [js "rfq_id", js "offer_id", js "seller", js "price", js "currency",
    js "valid_until", js "signature", js "listing_id"] ++
      (js "payment_endpoint", some (.str listing.paymentEndpoint)) :: picked [js "extensions"]
  have hjson : (Json.obj (defined fields)).Ordinary := by
    apply defined_ordinary
    · have hkeys : [js "rfq_id", js "offer_id", js "seller", js "price", js "currency",
        js "valid_until", js "signature", js "listing_id", js "payment_endpoint",
        js "extensions"].Nodup := by decide +kernel
      exact hkeys
    · have hnames : ∀ k ∈ [js "rfq_id", js "offer_id", js "seller", js "price", js "currency",
        js "valid_until", js "signature", js "listing_id", js "payment_endpoint",
        js "extensions"], k.any (fun u => !isDigitUnit u) = true := by decide +kernel
      exact hnames
    · intro f hf v hv
      rcases List.mem_append.mp hf with hf | hf
      · exact picked_ordinary hbody _ f hf v hv
      · rcases List.mem_cons.mp hf with rfl | hf
        · obtain rfl := Option.some.inj hv
          trivial
        · exact picked_ordinary hbody _ f hf v hv
  have hperm : (defined fields).Perm ((js "payment_endpoint", .str listing.paymentEndpoint) ::
      extractOfferFields body) := by
    have hkeys : [js "rfq_id", js "offer_id", js "seller", js "price", js "currency",
        js "valid_until", js "signature", js "listing_id", js "extensions"].Perm [js "offer_id",
        js "rfq_id", js "seller", js "listing_id", js "price", js "currency", js "valid_until",
        js "signature", js "extensions"] := by decide +kernel
    apply (defined_perm List.perm_middle).trans
    exact (pick_perm body hkeys).cons _
  refine ⟨?_, hjson.1, hjson⟩
  have hother : ∀ m ∈ extractOfferFields body, m.1 ≠ js "payment_endpoint" := by
    have hnodup := (hperm.map Prod.fst).nodup_iff.mp hjson.1
    rw [List.map_cons, List.nodup_cons] at hnodup
    intro m hm heq
    exact hnodup.1 (List.mem_map.mpr ⟨m, hm, heq⟩)
  have hrest : ((js "payment_endpoint", Json.str listing.paymentEndpoint) ::
      extractOfferFields body).filter (fun m => decide (m.1 ≠ js "payment_endpoint")) =
        extractOfferFields body := by
    rw [List.filter_cons_of_neg (by simp), List.filter_eq_self]
    exact fun m hm => decide_eq_true (hother m hm)
  exact (hperm.filter _).trans (List.Perm.of_eq hrest)

/-! ### Every accepted submission -/

theorem checkOffer_ids {env : EngineEnv} {now : ℤ} {r : JsString} {body : Json}
    {s : DerivedSession} (h : checkOffer env now r body (some s) = .ok ()) :
    body.get? (js "rfq_id") = some (.str r) ∧ IsText (body.get? (js "listing_id")) := by
  simp only [checkOffer, requireSession, bind_eq_ok, orThrow_eq_ok, Option.some.injEq,
    answerValidation_eq_ok, require_eq_ok] at h
  obtain ⟨_, rfl, -, hvalid, mint, -, -, -, -, -, -, hrfqId, -⟩ := h
  simp only [validateOffer, bind_eq_ok, require_eq_ok, liftThrown_eq_ok] at hvalid
  obtain ⟨-, -, -, -, -, -, -, -, -, -, -, -, -, hlisting, -⟩ := hvalid
  obtain ⟨text, htext, -⟩ := (Option.any_eq_true _ _).mp hlisting
  exact ⟨hrfqId, text, JsValue.asStr_eq_some.mp htext⟩

theorem checkCounter_rfqId {env : EngineEnv} {now : ℤ} {r : JsString} {body : Json}
    {s : DerivedSession} (h : checkCounter env now r body (some s) = .ok ()) :
    body.get? (js "rfq_id") = some (.str r) := by
  simp only [checkCounter, bind_eq_ok, require_eq_ok] at h
  obtain ⟨_, -, -, -, -, -, -, -, -, -, -, hrfqId, -⟩ := h
  exact hrfqId

variable {env : EngineEnv} {P : DerivedSession → Members → Prop}
  {answers : List (JsString × JsValue)} {h : List Entry} {r : JsString}

/-- What passed the checks of its route was signed over the fields that the route lists. -/
theorem Admitted.verified {callback : Callback} (ha : Admitted env P answers h r callback)
    {s : Submission} (hs : callback.submission = some s) : s.Verified env.toCrypto := by
  cases callback with
  | createRfq body =>
    obtain ⟨⟨now, hcheck⟩, -⟩ := ha
    obtain rfl := Option.some.inj hs
    simp only [checkRfq, bind_eq_ok, verifySignature_eq_ok] at hcheck
    obtain ⟨-, -, -, -, -, -, -, -, -, -, hverified⟩ := hcheck
    exact hverified
  | submitOffer body =>
    obtain ⟨now, session, -, hcheck⟩ := ha
    obtain rfl := Option.some.inj hs
    simp only [checkOffer, bind_eq_ok, verifySignature_eq_ok] at hcheck
    obtain ⟨-, -, -, -, -, -, -, -, -, -, -, -, -, -, hverified⟩ := hcheck
    exact hverified
  | sendCounter body =>
    obtain ⟨now, session, -, hcheck⟩ := ha
    obtain rfl := Option.some.inj hs
    simp only [checkCounter, bind_eq_ok, verifySignature_eq_ok] at hcheck
    obtain ⟨-, -, -, -, -, -, -, -, -, -, -, -, -, -, -, -, -, -, hverified⟩ := hcheck
    exact hverified
  | accept _ _ _ _ | decline _ _ | sign _ _ | readQuote _ | confirm _ | expire | cosignTimeout =>
    cases hs

theorem Recorded.kept {en : Entry} (hr : Recorded env P answers h en) {s : Submission}
    (hs : en.callback.submission = some s) (hbody : s.body.Ordinary) : s.Kept en.event := by
  obtain ⟨before, -, hproduced⟩ := hr.produced
  have happends := hproduced.appends
  have hadmitted := hr.admitted
  obtain ⟨r, callback, event⟩ := en
  simp only at hs happends hadmitted ⊢
  cases callback with
  | createRfq body =>
    obtain ⟨m, hlocked⟩ := happends
    obtain rfl := Option.some.inj hs
    exact lockedRfq_kept hbody hlocked rfl
  | submitOffer body =>
    obtain ⟨m, listings, hlocked⟩ := happends
    obtain ⟨now, session, -, hcheck⟩ := hadmitted
    obtain rfl := Option.some.inj hs
    obtain ⟨hrfqId, hlisting⟩ := checkOffer_ids hcheck
    obtain ⟨hseller, -, -⟩ := checkOffer_texts hcheck
    exact lockedOffer_kept hbody hrfqId hseller hlisting hlocked rfl
  | sendCounter body =>
    obtain ⟨m, hlocked⟩ := happends
    obtain ⟨now, session, -, hcheck⟩ := hadmitted
    obtain rfl := Option.some.inj hs
    exact lockedCounter_kept hbody (checkCounter_rfqId hcheck) hlocked rfl
  | accept _ _ _ _ | decline _ _ | sign _ _ | readQuote _ | confirm _ | expire | cosignTimeout =>
    cases hs

/-- In every run, whatever was accepted is in its log, its signature was verified, and the
verified bytes can be rebuilt from what either store keeps. -/
theorem signedPayloads_rebuilt {σ : Type} [InternalEventStore σ] (env : EngineEnv)
    (hcanonical : env.canonicalJson = canonicalJson) (is : List EngineLabel) :
    let e := run (EngineState.step env) (EngineState.empty : EngineState σ) is
    ∀ en ∈ e.history, ∀ s, en.callback.submission = some s →
      (∃ text, parse text = some s.body) →
        en.event ∈ e.manager.log en.rfqId ∧ s.Verified env.toCrypto ∧
          s.Rebuilt InMemoryEventStore env.toCrypto en.rfqId en.event ∧
          s.Rebuilt SqliteEventStore env.toCrypto en.rfqId en.event := by
  intro e en hen s hs ⟨text, htext⟩
  have he : e.Inv env fun _ _ => True := EngineState.run_inv_true env is
  obtain ⟨h₁, h₂, hsplit⟩ := List.append_of_mem hen
  have hr := he.journal h₁ en h₂ hsplit
  have hkept : s.Kept en.event := hr.kept hs (parse_ordinary htext)
  refine ⟨?_, hr.admitted.verified hs, hkept.rebuilt hcanonical _ _, hkept.rebuilt hcanonical _ _⟩
  rw [he.log]
  exact mem_logOf.mpr ⟨en, hen, rfl, rfl⟩

/-- The offer of a negotiation that ends with a committed quote. -/
theorem signedPayloads_rebuilt_offer :
    ∃ en ∈ commitRun.history, ∃ s, en.callback.submission = some s ∧
      s.body = firstNegotiation.offerBody ∧
        s.Rebuilt SqliteEventStore (sampleEngineEnv .null firstNegotiation.signatures).toCrypto
          en.rfqId en.event := by
  have hbodies : some firstNegotiation.offerBody ∈ commitRun.history.map fun en =>
      en.callback.submission.map Submission.body := by decide +kernel
  obtain ⟨en, hen, hbody⟩ := List.mem_map.mp hbodies
  obtain ⟨s, hs, hsbody⟩ := Option.map_eq_some_iff.mp hbody
  have hordinary : firstNegotiation.offerBody.Ordinary := by
    refine ⟨by decide +kernel, ObservedManager.enumerate_of_names (by decide +kernel), ?_⟩
    simp [text, Json.OrdinaryMembers, Json.Ordinary]
  obtain ⟨-, -, -, hrebuilt⟩ := signedPayloads_rebuilt _ rfl _ en hen s hs
    ⟨_, hsbody ▸ parse_stringify hordinary⟩
  exact ⟨en, hen, s, hs, hsbody, hrebuilt⟩

end GhostBazaar.Engine
