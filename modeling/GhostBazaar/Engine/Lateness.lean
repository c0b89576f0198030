import GhostBazaar.Engine.Enforcement

/-! No action of a participant is recorded after the deadline, as long as no signature is
verified across it. -/
namespace GhostBazaar.Engine
open Js GhostBazaar.Core Settlement Transition

/-- The events that participants bring about, apart from the RFQ and the settlement. -/
def EventType.isAction : EventType → Bool
  | .offerSubmitted | .counterSent | .winnerSelected | .quoteSigned | .quoteCommitted
  | .cosignDeclined => true
  | _ => false

/-- The deadline of the session, and the expiry of its quote, are still ahead. -/
def beforeDeadline (env : EngineEnv) (now : ℤ) (s : DerivedSession) : Bool :=
  !hasReached now (dateParse env.legacyDate s.rfq.deadline)

def beforeExpiry (env : EngineEnv) (now : ℤ) (s : DerivedSession) : Bool :=
  match JsValue.asStr (JsValue.get? s.unsignedQuote (js "expires_at")) with
  | some expiresAt => !hasReached now (dateParse env.legacyDate expiresAt)
  | none => true

/-- An event that is appended to this log at this time is not late. -/
structure Early (env : EngineEnv) (log : List NegotiationEvent) (now : ℤ)
    (event : NegotiationEvent) : Prop where
  deadline : event.type.isAction = true → ∃ s deadline, deriveState log = .ok (some s) ∧
    dateParse env.legacyDate s.rfq.deadline = some deadline ∧ now < deadline
  expiry : event.type = .quoteSigned ∨ event.type = .quoteCommitted →
    ∃ s expiresAt expires, deriveState log = .ok (some s) ∧
      JsValue.get? s.unsignedQuote (js "expires_at") = some (.str expiresAt) ∧
      dateParse env.legacyDate expiresAt = some expires ∧ now < expires

/-- The signature is accepted for this party. -/
def SigningRole.accepts (env : EngineEnv) (signature : JsString) (s : DerivedSession) :
    SigningRole → Bool
  | .buyer => succeeds (verifyQuoteSignature env.toCrypto s.quote signature s.rfq.buyer
      (js "invalid_buyer_signature"))
  | .seller => succeeds (verifyQuoteSignature env.toCrypto s.quote signature
      (s.selectedSeller.getD []) (js "invalid_seller_signature"))

/-- A signing route that comes back with an accepted signature would still pass the two
checks of the clock that it made before. -/
def Task.signsInTime (env : EngineEnv) (now : ℤ) : Task → Bool
  | .verifying _ role signature s =>
    !role.accepts env signature s || (beforeDeadline env now s && beforeExpiry env now s)
  | _ => true

/-- The clock does not pass the deadline or the expiry of the quote while a signature that is
accepted is being verified. -/
def Enforced.SignsInTime {σ : Type} (env : EngineEnv) (e : Enforced σ) (i : EnforcedLabel) :
    Prop :=
  (match i with
  | .engine (.resume t m) => (e.engine.task t).signsInTime env m.now
  | _ => true) = true

instance {σ : Type} (env : EngineEnv) (e : Enforced σ) (i : EnforcedLabel) :
    Decidable (e.SignsInTime env i) := by
  unfold Enforced.SignsInTime
  infer_instance

section

variable {env : EngineEnv} {P : DerivedSession → Members → Prop}
  {answers : List (JsString × JsValue)} {h : List Entry} {r : JsString}

theorem checkDeadline_ok {now : ℤ} {s : DerivedSession} (h : checkDeadline env now s = .ok ()) :
    beforeDeadline env now s = true := by
  rw [checkDeadline, require_eq_ok] at h
  rw [beforeDeadline, h]
  rfl

theorem lt_of_not_hasReached {now t : ℤ} (h : hasReached now (some t) = false) : now < t := by
  simpa [hasReached] using h

/-- The routes that append in the segment of their check append before the deadline. -/
theorem Callback.run_deadline {m : Moment} {listings : ListingStore} {callback : Callback}
    {log : List NegotiationEvent} {before : Option DerivedSession} {event : NegotiationEvent}
    (hrun : callback.run env m listings r log before = .ok (.append event))
    (htype : ∃ type, callback.eventType = some type ∧ type.isAction = true) :
    ∃ s, before = some s ∧ beforeDeadline env m.now s = true := by
  obtain ⟨type, htype, haction⟩ := htype
  cases callback with
  | submitOffer body =>
    simp only [Callback.run, lockedOffer, requireSession, bind_eq_ok, map_eq_ok,
      orThrow_eq_ok] at hrun
    obtain ⟨_, ⟨s, hs, ⟨⟩, hdeadline, -⟩, -⟩ := hrun
    exact ⟨s, hs, checkDeadline_ok hdeadline⟩
  | sendCounter body =>
    simp only [Callback.run, lockedCounter, requireSession, bind_eq_ok, map_eq_ok,
      orThrow_eq_ok] at hrun
    obtain ⟨_, ⟨s, hs, ⟨⟩, hdeadline, -⟩, -⟩ := hrun
    exact ⟨s, hs, checkDeadline_ok hdeadline⟩
  | accept envelope signer sellerDid offerId =>
    simp only [Callback.run, lockedAccept, requireSession, bind_eq_ok, map_eq_ok,
      orThrow_eq_ok] at hrun
    obtain ⟨_, ⟨s, hs, ⟨⟩, hdeadline, -⟩, -⟩ := hrun
    exact ⟨s, hs, checkDeadline_ok hdeadline⟩
  | decline envelope signer =>
    simp only [Callback.run, lockedDecline, requireSession, bind_eq_ok, map_eq_ok,
      orThrow_eq_ok] at hrun
    obtain ⟨_, ⟨s, hs, ⟨⟩, hdeadline, -⟩, -⟩ := hrun
    exact ⟨s, hs, checkDeadline_ok hdeadline⟩
  | sign role signature => cases role <;> simp [Callback.run, map_eq_ok] at hrun
  | _ =>
    simp only [Callback.eventType, Option.some.injEq, reduceCtorEq] at htype
    try simp [← htype, EventType.isAction] at haction

theorem Callback.run_unsigned {m : Moment} {listings : ListingStore} {callback : Callback}
    {log : List NegotiationEvent} {before : Option DerivedSession} {event : NegotiationEvent}
    (hrun : callback.run env m listings r log before = .ok (.append event)) :
    callback.eventType ≠ some .quoteSigned ∧ callback.eventType ≠ some .quoteCommitted := by
  cases callback with
  | sign role signature => cases role <;> simp [Callback.run, map_eq_ok] at hrun
  | _ => constructor <;> simp [Callback.eventType]

theorem Journal.beforeDeadline (hj : Journal env P answers h) {s : DerivedSession} {now : ℤ}
    (hs : deriveState (logOf h r) = .ok (some s)) (hbefore : beforeDeadline env now s = true) :
    ∃ deadline, dateParse env.legacyDate s.rfq.deadline = some deadline ∧ now < deadline := by
  obtain ⟨deadline, hdeadline⟩ := hj.deadline hs
  rw [Engine.beforeDeadline, hdeadline, Bool.not_eq_true'] at hbefore
  exact ⟨deadline, hdeadline, lt_of_not_hasReached hbefore⟩

/-- The quote of a session that awaits signatures names a date. -/
theorem Journal.beforeExpiry (hj : Journal env P answers h) {s : DerivedSession} {now : ℤ}
    (hs : deriveState (logOf h r) = .ok (some s)) (hstate : s.state = .commitPending)
    (hbefore : beforeExpiry env now s = true) :
    ∃ expiresAt expires, JsValue.get? s.unsignedQuote (js "expires_at") = some (.str expiresAt) ∧
      dateParse env.legacyDate expiresAt = some expires ∧ now < expires := by
  obtain ⟨q, offer, hcycle⟩ := hj.cycle hs (Or.inl hstate)
  obtain ⟨expires, deadline, hexpires, -, -⟩ := hcycle.quoteOf.expiry
  have hget : JsValue.get? s.unsignedQuote (js "expires_at") = some (.str q.expiresAt) := by
    rw [hcycle.unsignedQuote]
    rfl
  refine ⟨q.expiresAt, expires, hget, hexpires, ?_⟩
  simp only [Engine.beforeExpiry, hget, JsValue.asStr, Option.bind_some, Json.asStr, hexpires,
    Bool.not_eq_true'] at hbefore
  exact lt_of_not_hasReached hbefore

end

theorem finishSign_ok {env : EngineEnv} {m : Moment} {r signature : JsString}
    {role : SigningRole} {s : DerivedSession} {event : NegotiationEvent}
    (hfinish : finishSign env m r role signature s = .ok event) :
    role.accepts env signature s = true := by
  cases role with
  | buyer => rw [SigningRole.accepts, (finishQuoteSign_ok hfinish).1]; rfl
  | seller => rw [SigningRole.accepts, (finishCosign_ok hfinish).1]; rfl

namespace Enforced

variable {σ : Type} [InternalEventStore σ] {env : EngineEnv} {e e' : Enforced σ}

/-- What a step appends is early, if it ends no verification too late. -/
theorem Inv.early (he : Inv env e) {i : EnforcedLabel} (hi : e.SignsInTime env i) {m : Moment}
    (hclock : i.time = some m.now) {en : Entry}
    (hen : e'.engine.history = e.engine.history ++ [en])
    (hgrows : Grows env m (e.Verifies i) e.engine.history e'.engine.history) :
    Early env (logOf e.engine.history en.rfqId) m.now en.event := by
  generalize e'.engine.history = h' at hgrows hen
  cases hgrows with
  | same => simp at hen
  | ran listings r callback before event hbefore hrun =>
    obtain rfl : _ = en := by simpa using hen
    have heventType := (Produces.run m listings callback event hrun).appends.eventType
    constructor
    · intro haction
      obtain ⟨s, rfl, hdeadline⟩ := Callback.run_deadline hrun ⟨event.type, heventType, haction⟩
      obtain ⟨deadline, hparse, hlt⟩ := he.engine.journal.beforeDeadline hbefore hdeadline
      exact ⟨s, deadline, hbefore, hparse, hlt⟩
    · intro htype
      have hunsigned := Callback.run_unsigned hrun
      rw [heventType] at hunsigned
      rcases htype with htype | htype
      · exact absurd (congrArg some htype) hunsigned.1
      · exact absurd (congrArg some htype) hunsigned.2
  | signed r role signature s event hverified hbefore hfinish =>
    obtain rfl : _ = en := by simpa using hen
    have hsigns : beforeDeadline env m.now s = true ∧ beforeExpiry env m.now s = true ∧
        s.state = .commitPending := by
      cases i with
      | engine i =>
        obtain ⟨t, m', rfl, ht⟩ := hverified
        have hchecked := he.engine.checked t
        rw [ht] at hchecked
        obtain ⟨-, -, _, _, hrun⟩ := hchecked
        have hnow : m'.now = m.now := Option.some.inj hclock
        have hi : Task.signsInTime env m'.now (e.engine.task t) = true := hi
        simp only [ht, Task.signsInTime, finishSign_ok hfinish, Bool.not_true, Bool.false_or,
          Bool.and_eq_true, hnow] at hi
        exact ⟨hi.1, hi.2, (Callback.run_verify hrun).2.2⟩
      | _ => exact hverified.elim
    obtain ⟨hdeadline, hexpiry, hstate⟩ := hsigns
    constructor
    · intro _
      obtain ⟨deadline, hparse, hlt⟩ := he.engine.journal.beforeDeadline hbefore hdeadline
      exact ⟨s, deadline, hbefore, hparse, hlt⟩
    · intro _
      obtain ⟨expiresAt, expires, hget, hparse, hlt⟩ :=
        he.engine.journal.beforeExpiry hbefore hstate hexpiry
      exact ⟨s, expiresAt, expires, hbefore, hget, hparse, hlt⟩

/-- In a run that ends no verification too late, every action is recorded before the deadline,
and every signature before the quote expires. -/
theorem actions_early (env : EngineEnv) (clock : ℤ) (is : List EnforcedLabel) (i : EnforcedLabel)
    (hok : Guarded (step env) (SignsInTime env) (init clock : Enforced σ) (is ++ [i]))
    (r : JsString) :
    (run (step env) (init clock : Enforced σ) (is ++ [i])).engine.manager.log r =
        (run (step env) (init clock : Enforced σ) is).engine.manager.log r ∨
      ∃ event, (run (step env) (init clock : Enforced σ) (is ++ [i])).engine.manager.log r =
          (run (step env) (init clock : Enforced σ) is).engine.manager.log r ++ [event] ∧
        Early env ((run (step env) (init clock : Enforced σ) is).engine.manager.log r)
          (run (step env) (init clock : Enforced σ) (is ++ [i])).clock event := by
  have he := run_inv (σ := σ) env clock is
  have hi := (Guarded.append.mp hok).2.1
  obtain ⟨he', -, hgrows⟩ := he.next i
  rw [run_append, run_cons, run_nil, he.engine.log, he'.engine.log]
  rcases hgrows with hsame | ⟨m, hm, htime, hgrows⟩
  · exact Or.inl (by rw [hsame])
  · rcases hgrows.same_or_snoc with hsame | ⟨en, hen⟩
    · exact Or.inl (by rw [hsame])
    · have hearly := he.early hi htime hen hgrows
      rw [hen, logOf_snoc, hm]
      split_ifs with hr
      · exact Or.inr ⟨en.event, rfl, hr ▸ hearly⟩
      · exact Or.inl rfl

end Enforced

/-! ### A signature that is verified across the deadline -/

/-- The first negotiation until the engine verifies the buyer's signature. -/
def signingStart : List EnforcedLabel :=
  .engine (.addListing sampleListing) :: ((firstNegotiation.labels 0).take 14).map .engine

/-- The verification comes back at this time. -/
def signedAt (now : ℤ) : EnforcedLabel :=
  .engine (.resume 3 { firstNegotiation.moment firstNegotiation.signed with now })

def signingEnv : EngineEnv := sampleEngineEnv .null firstNegotiation.signatures

/-- 2026-03-01T13:00:00.000Z -/
def sampleDeadlineTime : ℤ := 1772370000000

def signingRun (is : List EnforcedLabel) : Enforced InMemoryEventStore :=
  run (Enforced.step signingEnv) (Enforced.init 0) is

theorem actions_early_sample :
    (signingRun (signingStart ++ [signedAt sampleNow])).engine.manager.log firstNegotiation.rfqId =
        (signingRun signingStart).engine.manager.log firstNegotiation.rfqId ∨
      ∃ event,
        (signingRun (signingStart ++ [signedAt sampleNow])).engine.manager.log
            firstNegotiation.rfqId =
          (signingRun signingStart).engine.manager.log firstNegotiation.rfqId ++ [event] ∧
        Early signingEnv ((signingRun signingStart).engine.manager.log firstNegotiation.rfqId)
          (signingRun (signingStart ++ [signedAt sampleNow])).clock event := by
  have hok : Guarded (Enforced.step signingEnv) (Enforced.SignsInTime signingEnv)
      (Enforced.init 0 : Enforced InMemoryEventStore)
      (signingStart ++ [signedAt sampleNow]) := by decide +kernel
  unfold signingRun
  exact Enforced.actions_early signingEnv 0 signingStart (signedAt sampleNow) hok
    firstNegotiation.rfqId

/-- The event that follows this log is signed when the deadline of the session is there. -/
def signedAtDeadline (log log' : List NegotiationEvent) (clock : ℤ) : Bool :=
  match deriveState log, log'.getLast? with
  | .ok (some s), some event => decide (log' = log ++ [event] ∧ event.type = .quoteSigned ∧
      dateParse signingEnv.legacyDate s.rfq.deadline = some clock)
  | _, _ => false

/-- The buyer's signature is recorded when the deadline has come. -/
theorem action_late : ∃ r s event,
    (signingRun (signingStart ++ [signedAt sampleDeadlineTime])).engine.manager.log r =
        (signingRun signingStart).engine.manager.log r ++ [event] ∧
      event.type = .quoteSigned ∧
      deriveState ((signingRun signingStart).engine.manager.log r) = .ok (some s) ∧
      dateParse signingEnv.legacyDate s.rfq.deadline =
        some (signingRun (signingStart ++ [signedAt sampleDeadlineTime])).clock := by
  have hlate : signedAtDeadline
      ((signingRun signingStart).engine.manager.log firstNegotiation.rfqId)
      ((signingRun (signingStart ++ [signedAt sampleDeadlineTime])).engine.manager.log
        firstNegotiation.rfqId)
      (signingRun (signingStart ++ [signedAt sampleDeadlineTime])).clock = true := by
    decide +kernel
  unfold signedAtDeadline at hlate
  split at hlate
  · rename_i s event hs _
    obtain ⟨hlog, htype, hdeadline⟩ := of_decide_eq_true hlate
    exact ⟨firstNegotiation.rfqId, s, event, hlog, htype, hs, hdeadline⟩
  · simp at hlate

end GhostBazaar.Engine
