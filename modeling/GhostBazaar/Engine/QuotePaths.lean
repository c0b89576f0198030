import GhostBazaar.Engine.AtomicAppend
import GhostBazaar.Engine.SettlementBinding
import GhostBazaar.Engine.StoreEquivalence

/-! The bytes that the signatures of a quote are over, on every way from the accept to the
settlement: through replies, the event log, the signing routes and the report. -/
namespace GhostBazaar.Core
open Js

/-! ### The helpers of a party -/

def signQuoteAsBuyer (c : Crypto) (signEd25519 : ByteArray → JsString) (quote : Members) :
    Members :=
  spread quote (js "buyer_signature") (.str (signEd25519 (quoteSigningPayload c quote)))

def signQuoteAsSeller (c : Crypto) (signEd25519 : ByteArray → JsString) (quote : Members) :
    Members :=
  spread quote (js "seller_signature") (.str (signEd25519 (quoteSigningPayload c quote)))

end GhostBazaar.Core

namespace GhostBazaar.Engine
open Js GhostBazaar.Core Settlement Transition

/-- The copy of `quoteSigningPayload` in the middleware. -/
def ValidateSignature.quoteSigningPayload (c : Crypto) (quote : Members) : ByteArray :=
  c.canonicalJson (spread (spread quote (js "buyer_signature") (.str []))
    (js "seller_signature") (.str []))

/-! ### One quote -/

/-- Whoever reads this JSON body signs these bytes, in either role. -/
def Carries (c : Crypto) (bytes : ByteArray) (body : Members) : Prop :=
  ∃ quote, parseRecord (textUnits (stringify (.obj body))) = some quote ∧
    quoteSigningPayload c quote = bytes ∧ ∀ signEd25519 : ByteArray → JsString,
      (signQuoteAsBuyer c signEd25519 quote).lookup (js "buyer_signature") =
          some (.str (signEd25519 bytes)) ∧
        (signQuoteAsSeller c signEd25519 quote).lookup (js "seller_signature") =
          some (.str (signEd25519 bytes))

theorem quoteMembers_ordinary (q : SignedQuote) : (Json.obj (quoteMembers q)).Ordinary := by
  have hkeys : (quoteMembers q).map Prod.fst = [js "quote_id", js "rfq_id", js "buyer",
      js "seller", js "service_type", js "final_price", js "currency", js "payment_endpoint",
      js "expires_at", js "nonce", js "memo_policy", js "buyer_signature",
      js "seller_signature"] ++ if q.specHash.isSome then [js "spec_hash"] else [] := by
    unfold quoteMembers
    cases q.specHash <;> rfl
  refine ⟨?_, ObservedManager.enumerate_of_names ?_, ordinaryMembers_iff.mpr ?_⟩
  · rw [hkeys]
    cases q.specHash.isSome with
    | false => decide +kernel
    | true => decide +kernel
  · have hnames : ((quoteMembers q).map Prod.fst).all (fun k => k.any fun u => !isDigitUnit u) =
        true := by
      rw [hkeys]
      cases q.specHash.isSome with
      | false => decide +kernel
      | true => decide +kernel
    rw [List.all_map] at hnames
    exact hnames
  · intro m hm
    obtain ⟨s, hs⟩ := quoteMembers_texts q m hm
    rw [hs]
    trivial

/-- The signatures that a quote already has do not count. -/
theorem quoteSigningPayload_signed (c : Crypto) (q : SignedQuote)
    (buyerSignature sellerSignature : Option JsString) :
    quoteSigningPayload c (signedMembers (.obj (quoteMembers q)) buyerSignature sellerSignature) =
      quoteSigningPayload c (quoteMembers q) := rfl

theorem carries_signed (c : Crypto) (q : SignedQuote)
    (buyerSignature sellerSignature : Option JsString) :
    Carries c (quoteSigningPayload c (quoteMembers q))
      (signedMembers (.obj (quoteMembers q)) buyerSignature sellerSignature) := by
  have hordinary : (Json.obj (signedMembers (.obj (quoteMembers q)) buyerSignature
      sellerSignature)).Ordinary :=
    quoteMembers_ordinary { q with
      buyerSignature := buyerSignature.getD []
      sellerSignature := sellerSignature.getD [] }
  have hpayload := quoteSigningPayload_signed c q buyerSignature sellerSignature
  refine ⟨_, parseRecord_ordinary hordinary, hpayload, ?_⟩
  intro signEd25519
  unfold signQuoteAsBuyer signQuoteAsSeller
  rw [lookup_spread, lookup_spread, if_pos rfl, if_pos rfl, hpayload]
  exact ⟨rfl, rfl⟩

/-! ### Every way through the engine -/

/-- What the parties sign, and what is verified, is over `bytes` on every way. The log up to
the accept is `pre`, and `selected` is the event that the accept recorded. -/
structure PathsAgree (env : EngineEnv) (r : JsString) (s : DerivedSession)
    (pre : List NegotiationEvent) (selected : NegotiationEvent) (bytes : ByteArray) : Prop where
  /-- The durable store keeps the quote as it is. -/
  stored : ∀ t : SqliteEventStore, (rowToEvent (t.newRow r selected)).payload = selected.payload
  accept : ∃ s₁, deriveState (pre ++ [selected]) = .ok (some s₁) ∧
    ∀ envelope signer sellerDid offerId now reply,
      (Callback.accept envelope signer sellerDid offerId).reply env now r s₁ = .ok (some reply) →
        Carries env.toCrypto bytes reply.body
  read : ∀ callerDid reply, lockedQuoteRead callerDid (some s) = .ok reply →
    Carries env.toCrypto bytes reply.body
  verified : ValidateSignature.quoteSigningPayload env.toCrypto s.quote = bytes
  signing : ∀ role signature now reply,
    (Callback.sign role signature).reply env now r s = .ok (some reply) →
      Carries env.toCrypto bytes reply.body
  report : ∀ now body request quote quoteId,
    openReport env now s body = .ok (request, quote, quoteId) →
      quoteSigningPayload env.toCrypto quote = bytes
  /-- A signature by the right key passes wherever a signature is checked. -/
  signature : ∀ (signEd25519 : ByteArray → JsString) (key : PublicKey),
    (∀ payload, env.verifyEd25519 payload (signEd25519 payload) key = true) →
      (∀ did code, env.didToPublicKey did = some key →
        verifyQuoteSignature env.toCrypto s.quote (signEd25519 bytes) did code = .ok ()) ∧
      ∀ quote, quoteSigningPayload env.toCrypto quote = bytes →
        env.verifySignature (quoteSigningPayload env.toCrypto quote)
          (some (.str (signEd25519 bytes))) key = .ok true

theorem pathsAgree_of_quote {env : EngineEnv} {r : JsString} {s s₁ : DerivedSession}
    {q : SignedQuote} {pre : List NegotiationEvent} {selected : NegotiationEvent}
    (hquote : s.unsignedQuote = some (.obj (quoteMembers q)))
    (hstored : ∀ t : SqliteEventStore,
      (rowToEvent (t.newRow r selected)).payload = selected.payload)
    (haccepted : deriveState (pre ++ [selected]) = .ok (some s₁))
    (hquote₁ : s₁.unsignedQuote = some (.obj (quoteMembers q)))
    (hunsigned : q.buyerSignature = [] ∧ q.sellerSignature = []) :
    PathsAgree env r s pre selected (quoteSigningPayload env.toCrypto (quoteMembers q)) where
  stored := hstored
  accept := by
    refine ⟨s₁, haccepted, ?_⟩
    intro envelope signer sellerDid offerId now reply hreply
    unfold Callback.reply at hreply
    rw [hquote₁, Option.map_some, Except.ok.injEq, Option.some.injEq] at hreply
    rw [← hreply]
    have hblank : spreadMembers (.obj (quoteMembers q)) =
        signedMembers (.obj (quoteMembers q)) none none := by
      obtain ⟨hbuyer, hseller⟩ := hunsigned
      cases q
      subst hbuyer hseller
      rfl
    rw [hblank]
    exact carries_signed _ q none none
  read := by
    intro callerDid reply hread
    simp only [lockedQuoteRead, requireSession, bind_eq_ok, orThrow_eq_ok, pure_eq_ok,
      Option.some.injEq] at hread
    obtain ⟨_, rfl, -, -, -, -, _, hq, rfl⟩ := hread
    obtain rfl : Json.obj (quoteMembers q) = _ := Option.some.inj (hquote.symm.trans hq)
    exact carries_signed _ q _ _
  verified := by
    unfold DerivedSession.quote
    rw [hquote]
    rfl
  signing := by
    intro role signature now reply hreply
    cases role with
    | buyer =>
      simp only [Callback.reply, hquote, Option.map_some, Except.ok.injEq,
        Option.some.injEq] at hreply
      rw [← hreply]
      exact carries_signed _ q _ _
    | seller =>
      simp only [Callback.reply, hquote, Option.map_some, Except.ok.injEq,
        Option.some.injEq] at hreply
      rw [← hreply]
      exact carries_signed _ q _ _
  report := by
    intro now body request quote quoteId hopen
    obtain ⟨-, -, rfl⟩ := openReport_ok hquote hopen
    exact quoteSigningPayload_signed _ q _ _
  signature := by
    intro signEd25519 key hsigns
    constructor
    · intro did code hkey
      rw [verifyQuoteSignature_eq_ok]
      refine ⟨key, hkey, ?_⟩
      unfold DerivedSession.quote
      rw [hquote]
      exact hsigns _
    · intro quote hbytes
      rw [hbytes]
      exact Core.verifySignature_eq_ok.mpr ⟨_, rfl, hsigns _⟩

theorem Recorded.accept_json {env : EngineEnv} {P : DerivedSession → Members → Prop}
    {answers : List (JsString × JsValue)} {h : List Entry} {en : Entry}
    (hr : Recorded env P answers h en) {s : DerivedSession}
    (hs : deriveState (logOf h en.rfqId) = .ok (some s))
    (htype : en.event.type = .winnerSelected) : JsonValued en.event := by
  obtain ⟨m, envelope, signer, sellerDid, offerId, -, hlocked⟩ := hr.accept hs htype
  obtain ⟨-, q, -, -, -, -, -, hpayload⟩ := lockedAccept_ok hlocked
  unfold JsonValued
  rw [hpayload]
  have hkeys : [js "seller", js "offer_id", js "quote"].Nodup := by decide +kernel
  have hnames : [js "seller", js "offer_id", js "quote"].all
      (fun k => k.any fun u => !isDigitUnit u) = true := by decide +kernel
  exact ⟨hkeys, ObservedManager.enumerate_of_names hnames,
    trivial, trivial, quoteMembers_ordinary q, trivial⟩

/-- In every run, for every session with a quote: the quote that its last accept recorded is
the one that is signed and verified everywhere. -/
theorem quote_paths_agree {σ : Type} [InternalEventStore σ] (env : EngineEnv)
    (is : List EngineLabel) (r : JsString) (now : ℤ) {s : DerivedSession}
    (hs : ((run (EngineState.step env) (EngineState.empty : EngineState σ) is).manager.getSession
      now r).1 = .ok (some s)) (hstate : s.state = .commitPending ∨ s.state = .committed) :
    ∃ q pre selected post,
      (run (EngineState.step env) (EngineState.empty : EngineState σ) is).manager.log r =
        pre ++ selected :: post ∧ Since q s selected post ∧
        PathsAgree env r s pre selected
          (quoteSigningPayload env.toCrypto (quoteMembers q)) := by
  have he := EngineState.run_inv_true (σ := σ) env is
  rw [(he.getSession now r).1] at hs
  obtain ⟨q, offer, hc⟩ := he.journal.cycle hs hstate
  obtain ⟨pre, selected, post, hlog, hsince⟩ := hc.since
  obtain ⟨h₁, en, h₂, hsplit, rfl, rfl, rfl⟩ := exists_entry_of_logOf hlog
  have hr := he.journal h₁ en h₂ hsplit
  obtain ⟨s₀, s₁, hs₀, haccepted, hstep⟩ := hr.eventStep (by simp [hsince.type])
  have hquote₁ : s₁.unsignedQuote = some (.obj (quoteMembers q)) := by
    cases hstep with
    | winnerSelected offer _ _ _ _ _ _ =>
      simp [optObject, hsince.quote, Option.filter, Json.isObject]
    | _ => simp_all [hsince.type]
  refine ⟨q, logOf h₁ en.rfqId, en.event, post, (he.log _).trans hlog, hsince, ?_⟩
  have hjson := hr.accept_json hs₀ hsince.type
  apply pathsAgree_of_quote hc.unsignedQuote _ haccepted hquote₁ hc.quoteOf.unsigned
  intro t
  rw [rowToEvent_newRow t hr.rfqId.symm hjson]

/-- The session that the parties of the example commit. -/
theorem quote_paths_agree_committed : ∃ s q pre selected,
    (commitRun.manager.getSession 0 firstNegotiation.rfqId).1 = .ok (some s) ∧
      PathsAgree (sampleEngineEnv .null firstNegotiation.signatures) firstNegotiation.rfqId s pre
        selected (quoteSigningPayload (sampleEngineEnv .null firstNegotiation.signatures).toCrypto
          (quoteMembers q)) := by
  have hread : readState (commitRun.manager.getSession 0 firstNegotiation.rfqId).1 =
      some .committed := by decide +kernel
  obtain ⟨s, hs, hstate⟩ := readState_eq_some hread
  obtain ⟨q, pre, selected, _, -, -, hagree⟩ := quote_paths_agree _ _ _ _ hs (Or.inr hstate)
  exact ⟨s, q, pre, selected, hs, hagree⟩

end GhostBazaar.Engine
