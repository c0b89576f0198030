import GhostBazaar.Engine.Routes.Listings
import GhostBazaar.Engine.SignedPayloads

/-! The kinds of signed messages. The names of the signed fields tell the kinds apart, and an
accept from a decline by its action. -/
namespace GhostBazaar.Engine
open Js GhostBazaar.Core Settlement

inductive MessageKind where
  | rfq
  | offer
  | counter
  | control (action : ControlAction)
  | listing
  | quote
  | readAuth
  deriving DecidableEq

namespace MessageKind

def all : List MessageKind :=
  [rfq, offer, counter, control .accept, control .decline, listing, quote, readAuth]

theorem mem_all (k : MessageKind) : k ∈ all := by
  cases k with
  | control action => cases action <;> decide
  | _ => decide

def isControl : MessageKind → Bool
  | control _ => true
  | _ => false

/-- A field that every message of the kind has, and no other kind. -/
def mark : MessageKind → JsString
  | rfq => js "protocol"
  | offer => js "offer_id"
  | counter => js "counter_id"
  | control _ => js "envelope_id"
  | listing => js "title"
  | quote => js "buyer_signature"
  | readAuth => js "did"

/-- The fields that may be signed; a quote is signed with whatever it holds. -/
def names : MessageKind → List JsString
  | rfq => [js "rfq_id", js "protocol", js "buyer", js "service_type", js "spec",
      js "anchor_price", js "currency", js "deadline", js "signature", js "budget_commitment",
      js "extensions"]
  | offer => [js "offer_id", js "rfq_id", js "seller", js "listing_id", js "price",
      js "currency", js "valid_until", js "signature", js "extensions"]
  | counter => [js "counter_id", js "rfq_id", js "round", js "from", js "to", js "price",
      js "currency", js "valid_until", js "signature", js "budget_proof", js "extensions"]
  | control _ => [js "envelope_id", js "action", js "rfq_id", js "session_revision",
      js "payload", js "issued_at", js "expires_at", js "signature"]
  | listing => ALLOWED_LISTING_REGISTRATION_FIELDS
  | readAuth => [js "action", js "did", js "timestamp", js "signature"]
  | quote => []

end MessageKind

/-- The environment in which every signature is good: a check passes there when everything
else about the message is in order. -/
def EngineEnv.trusting (env : EngineEnv) : EngineEnv :=
  { env with verifyEd25519 := fun _ _ _ => true }

/-- A message of this kind gets as far as the verification of its signature over `bytes`. -/
inductive Reaches (env : EngineEnv) : MessageKind → ByteArray → Prop where
  | rfq {now : ℤ} {body : Json} (h : checkRfq env.trusting now body = .ok ()) :
    Reaches env .rfq (objectSigningPayload env.toCrypto (extractRfqFields body))
  | offer {now : ℤ} {rfqId : JsString} {body : Json} {session : Option DerivedSession}
    (h : checkOffer env.trusting now rfqId body session = .ok ()) :
    Reaches env .offer (objectSigningPayload env.toCrypto (extractOfferFields body))
  | counter {now : ℤ} {rfqId : JsString} {body : Json} {session : Option DerivedSession}
    (h : checkCounter env.trusting now rfqId body session = .ok ()) :
    Reaches env .counter (objectSigningPayload env.toCrypto (extractCounterFields body))
  | control {now : ℤ} {tombstones : EnvelopeTombstones} {body : Json} {action : ControlAction}
    {rfqId signerDid errorCode : JsString} {e : ControlEnvelope}
    (h : validateControlEnvelope env.trusting now tombstones body action rfqId signerDid
      errorCode = .ok e) :
    Reaches env (.control action) (objectSigningPayload env.toCrypto e.members)
  | listing {text : JsString} {members : Members}
    (h : checkListing env.trusting.toCrypto (parse text) = .ok members) :
    Reaches env .listing (objectSigningPayload env.toCrypto members)
  /-- The stored quote, the one of a header, or the one that a report rebuilds. -/
  | quote {quote : Members} (h : (quote.map Prod.fst).Nodup) :
    Reaches env .quote (quoteSigningPayload env.toCrypto quote)
  /-- Whatever the header of a read request holds. -/
  | readAuth {did timestamp : JsString} :
    Reaches env .readAuth (objectSigningPayload env.toCrypto [(js "action", .str (js "authenticate")),
      (js "did", .str did), (js "timestamp", .str timestamp), (js "signature", .str [])])

/-! ### The object under the bytes -/

/-- An object that can only be of this kind. -/
structure Labelled (k : MessageKind) (ms : Members) : Prop where
  nodup : (ms.map Prod.fst).Nodup
  marked : k.mark ∈ ms.map Prod.fst
  named : k ≠ .quote → ∀ key ∈ ms.map Prod.fst, key ∈ k.names
  action : ∀ action, k = .control action → (js "action", .str action.text) ∈ ms

theorem labelled_spread {k : MessageKind} {ms : Members} (hnodup : (ms.map Prod.fst).Nodup)
    (hmarked : k.mark ∈ ms.map Prod.fst) (hnamed : ∀ key ∈ ms.map Prod.fst, key ∈ k.names)
    (hsignature : js "signature" ∈ k.names) (hcontrol : ∀ action, k ≠ .control action) :
    Labelled k (spread ms (js "signature") (.str [])) where
  nodup := JsMap.nodup_setEntries hnodup
  marked := JsMap.mem_keys_setEntries.mpr (Or.inr hmarked)
  named := by
    intro _ key hkey
    rcases JsMap.mem_keys_setEntries.mp hkey with rfl | hkey
    · exact hsignature
    · exact hnamed key hkey
  action := fun action hk => absurd hk (hcontrol action)

/-- The fields that a route picks out of a body, among them the one that marks the kind. -/
theorem labelled_pick {k : MessageKind} {body : Json} (hcontrol : ∀ action, k ≠ .control action)
    (hnodup : k.names.Nodup) (hmark : k.mark ∈ k.names) (hsignature : js "signature" ∈ k.names)
    (hbody : (body.get? k.mark).isSome) :
    Labelled k (spread (pick body k.names) (js "signature") (.str [])) := by
  have hsublist := keys_pick_sublist body k.names
  apply labelled_spread (hnodup.sublist hsublist) _ (fun key hkey => hsublist.subset hkey)
    hsignature hcontrol
  obtain ⟨v, hv⟩ := Option.isSome_iff_exists.mp hbody
  have hlookup := @lookup_pick body _ hnodup k.mark
  rw [if_pos hmark, hv] at hlookup
  exact JsMap.mem_keys_of_lookup hlookup

theorem isSome_of_required {body : Json} {fields : List JsString}
    (h : ∀ f ∈ fields, JsValue.isNullish (body.get? f) = false) {key : JsString}
    (hkey : key ∈ fields) : (body.get? key).isSome := by
  have hnullish := h key hkey
  cases hv : body.get? key with
  | none => simp [hv, JsValue.isNullish] at hnullish
  | some v => rfl

theorem checkRfq_marked {env : EngineEnv} {now : ℤ} {body : Json}
    (h : checkRfq env now body = .ok ()) : (body.get? (js "protocol")).isSome := by
  simp only [checkRfq, bind_eq_ok, answerValidation_eq_ok] at h
  obtain ⟨-, hvalid, -⟩ := h
  simp only [validateRfq, bind_eq_ok, require_eq_ok, liftThrown_eq_ok] at hvalid
  obtain ⟨-, -, -, -, -, -, -, -, -, hprotocol, -⟩ := hvalid
  rw [hprotocol]
  rfl

theorem checkOffer_marked {env : EngineEnv} {now : ℤ} {r : JsString} {body : Json}
    {session : Option DerivedSession} (h : checkOffer env now r body session = .ok ()) :
    (body.get? (js "offer_id")).isSome := by
  simp only [checkOffer, bind_eq_ok, answerValidation_eq_ok] at h
  obtain ⟨_, -, -, hvalid, -⟩ := h
  simp only [validateOffer, requireFields, bind_eq_ok, require_eq_ok] at hvalid
  obtain ⟨-, -, -, hfields, -⟩ := hvalid
  exact isSome_of_required hfields List.mem_cons_self

theorem checkCounter_marked {env : EngineEnv} {now : ℤ} {r : JsString} {body : Json}
    {session : Option DerivedSession} (h : checkCounter env now r body session = .ok ()) :
    (body.get? (js "counter_id")).isSome := by
  simp only [checkCounter, bind_eq_ok, answerValidation_eq_ok] at h
  obtain ⟨_, -, -, hvalid, -⟩ := h
  simp only [validateCounter, requireFields, bind_eq_ok, require_eq_ok] at hvalid
  obtain ⟨-, -, -, hfields, -⟩ := hvalid
  exact isSome_of_required hfields List.mem_cons_self

theorem labelled_control (e : ControlEnvelope) :
    Labelled (.control e.action) (spread e.members (js "signature") (.str [])) := by
  have hkeys : (spread e.members (js "signature") (.str [])).map Prod.fst =
      (MessageKind.control e.action).names := by
    unfold spread
    rw [JsMap.keys_setEntries]
    exact if_pos (by simp [ControlEnvelope.members])
  refine ⟨?_, ?_, ?_, ?_⟩
  · rw [hkeys]
    exact (by decide +kernel : (MessageKind.control .accept).names.Nodup)
  · rw [hkeys]
    exact List.mem_cons_self
  · intro _ key hkey
    rwa [hkeys] at hkey
  · rintro action ⟨⟩
    have hlookup := lookup_spread e.members (js "signature") (js "action") (.str [])
    rw [if_neg (by decide)] at hlookup
    have haction : e.members.lookup (js "action") = some (.str e.action.text) := rfl
    rw [haction] at hlookup
    exact JsMap.mem_of_lookup hlookup

theorem labelled_listing {c : Crypto} {text : JsString} {members : Members}
    (h : checkListing c (parse text) = .ok members) :
    Labelled .listing (spread members (js "signature") (.str [])) := by
  simp only [checkListing, validateListingRegistrationShape, bind_eq_ok, orThrow_eq_ok,
    refuseFirst_eq_ok, pure_eq_ok] at h
  obtain ⟨body, hbody, ms, hms, signature, -, -, ⟨-, hallowed, -, hrequired, -⟩, -, -, -, -,
    rfl⟩ := h
  have hobj : body = .obj ms := by
    cases body <;> simp [asPlainObject] at hms
    rw [hms]
  have hordinary : (Json.obj ms).Ordinary := hobj ▸ parse_ordinary hbody
  apply labelled_spread hordinary.1
  · have htitle := hrequired (js "title") (by decide)
    cases hv : ms.lookup MessageKind.listing.mark with
    | none =>
      have hnone : ms.lookup (js "title") = none := hv
      simp [hnone, isNonEmptyText, JsValue.asStr] at htitle
    | some v => exact JsMap.mem_keys_of_lookup hv
  · intro key hkey
    exact not_not.mp (of_decide_eq_false (hallowed key hkey))
  · decide
  · rintro _ ⟨⟩

theorem labelled_quote {quote : Members} (h : (quote.map Prod.fst).Nodup) :
    Labelled .quote (spread (spread quote (js "buyer_signature") (.str []))
      (js "seller_signature") (.str [])) where
  nodup := JsMap.nodup_setEntries (JsMap.nodup_setEntries h)
  marked := JsMap.mem_keys_setEntries.mpr (Or.inr (JsMap.mem_keys_setEntries.mpr (Or.inl rfl)))
  named := fun hquote => absurd rfl hquote
  action := by rintro _ ⟨⟩

theorem labelled_readAuth (did timestamp : JsString) :
    Labelled .readAuth (spread [(js "action", .str (js "authenticate")), (js "did", .str did),
      (js "timestamp", .str timestamp), (js "signature", .str [])] (js "signature") (.str [])) := by
  have hnodup : MessageKind.readAuth.names.Nodup := by decide +kernel
  apply labelled_spread
  · exact hnodup
  · exact List.mem_cons_of_mem _ List.mem_cons_self
  · exact fun key hkey => hkey
  · decide
  · rintro _ ⟨⟩

theorem Reaches.labelled {env : EngineEnv} {k : MessageKind} {bytes : ByteArray}
    (h : Reaches env k bytes) : ∃ ms, Labelled k ms ∧ bytes = env.canonicalJson ms := by
  cases h with
  | rfq h =>
    refine ⟨_, labelled_pick ?_ ?_ ?_ ?_ (checkRfq_marked h), rfl⟩
    · rintro _ ⟨⟩
    · decide +kernel
    · decide
    · decide
  | offer h =>
    refine ⟨_, labelled_pick ?_ ?_ ?_ ?_ (checkOffer_marked h), rfl⟩
    · rintro _ ⟨⟩
    · decide +kernel
    · decide
    · decide
  | counter h =>
    refine ⟨_, labelled_pick ?_ ?_ ?_ ?_ (checkCounter_marked h), rfl⟩
    · rintro _ ⟨⟩
    · decide +kernel
    · decide
    · decide
  | control h =>
    obtain ⟨rfl, -, -⟩ := validateControlEnvelope_ok h
    exact ⟨_, labelled_control _, rfl⟩
  | listing h => exact ⟨_, labelled_listing h, rfl⟩
  | quote h => exact ⟨_, labelled_quote h, rfl⟩
  | readAuth => exact ⟨_, labelled_readAuth _ _, rfl⟩

/-! ### Different kinds -/

/-- The mark of a kind is no field of another one, but for the two envelopes. -/
theorem isControl_of_mark {k k' : MessageKind} (hne : k ≠ k') (hmark : k.mark ∈ k'.names) :
    k.isControl = true ∧ k'.isControl = true := by
  have htable : ∀ k ∈ MessageKind.all, ∀ k' ∈ MessageKind.all, k ≠ k' → k.mark ∈ k'.names →
      k.isControl = true ∧ k'.isControl = true := by decide +kernel
  exact htable k k.mem_all k' k'.mem_all hne hmark

theorem mark_ordinary (k : MessageKind) :
    k.mark ≠ js "__proto__" ∧ k.mark ≠ js "extensions" := by
  have htable : ∀ k ∈ MessageKind.all, k.mark ≠ js "__proto__" ∧ k.mark ≠ js "extensions" := by
    decide +kernel
  exact htable k k.mem_all

/-- The second object lacks the mark of the first, or both are envelopes. -/
theorem Labelled.canonicalJson_ne {k k' : MessageKind} {ms ns : Members} (h : Labelled k ms)
    (h' : Labelled k' ns) (hne : k ≠ k') (hquote : k' ≠ .quote) :
    canonicalJson ms ≠ canonicalJson ns := by
  intro heq
  obtain ⟨hproto, hextensions⟩ := mark_ordinary k
  obtain ⟨m, hm, hmark⟩ := List.mem_map.mp h.marked
  obtain ⟨w, hw, -⟩ := mem_of_canonicalJson_eq h.nodup h'.nodup heq hm (hmark ▸ hproto)
    (hmark ▸ hextensions)
  have hname := h'.named hquote _ (List.mem_map_of_mem hw)
  rw [hmark] at hname
  obtain ⟨hcontrol, hcontrol'⟩ := isControl_of_mark hne hname
  cases k with
  | control action =>
    cases k' with
    | control action' =>
      obtain ⟨v, hv, hsort⟩ := mem_of_canonicalJson_eq h.nodup h'.nodup heq (h.action action rfl)
        (by decide) (by decide)
      have haction' := h'.action action' rfl
      have hsame : v = .str action'.text :=
        congrArg Prod.snd (eq_of_mem_of_fst_eq h'.nodup hv haction' rfl)
      rw [hsame] at hsort
      simp only [sortKeys, Json.str.injEq] at hsort
      apply hne
      cases action <;> cases action' <;> first | rfl | exact absurd hsort (by decide)
    | _ => cases hcontrol'
  | _ => cases hcontrol

/-- Messages of two kinds are never signed over the same bytes. -/
theorem signedBytes_separate (env : EngineEnv) (hcanonical : env.canonicalJson = canonicalJson)
    {k k' : MessageKind} (hne : k ≠ k') {bytes bytes' : ByteArray} (h : Reaches env k bytes)
    (h' : Reaches env k' bytes') : bytes ≠ bytes' := by
  obtain ⟨ms, hms, rfl⟩ := h.labelled
  obtain ⟨ns, hns, rfl⟩ := h'.labelled
  rw [hcanonical]
  by_cases hquote : k' = .quote
  · exact (hns.canonicalJson_ne hms hne.symm (hquote ▸ hne)).symm
  · exact hms.canonicalJson_ne hns hne hquote

/-- A request for quotes, and the header with which its buyer reads. -/
theorem signedBytes_separate_sample :
    let env := sampleEngineEnv .null []
    objectSigningPayload env.toCrypto (extractRfqFields firstNegotiation.rfqBody) ≠
      objectSigningPayload env.toCrypto [(js "action", .str (js "authenticate")),
        (js "did", .str sampleBuyer), (js "timestamp", .str sampleStart),
        (js "signature", .str [])] := by
  intro env
  have hrfq : Reaches env .rfq _ := @Reaches.rfq env sampleNow firstNegotiation.rfqBody
    (by decide +kernel)
  exact signedBytes_separate env rfl (by decide : MessageKind.rfq ≠ .readAuth) hrfq .readAuth

end GhostBazaar.Engine
