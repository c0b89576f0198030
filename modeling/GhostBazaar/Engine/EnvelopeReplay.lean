import GhostBazaar.Core.SigningPayload
import GhostBazaar.Engine.CommittedQuote

/-! The replay protection of control envelopes. Calls of `validateControlEnvelope` that share a
tombstone store overlap at the verification of the signature, and the store is swept between. -/
namespace GhostBazaar.Engine
open Js GhostBazaar.Core Transition

/-- The bytes under the signature. Bodies whose members stand in another order, or whose payloads
do, carry one and the same signed envelope. -/
def ControlEnvelope.signedBytes (e : ControlEnvelope) : ByteArray :=
  canonicalJson (spread e.members (js "signature") (.str []))

structure EnvelopeCalls where
  clock : ℤ
  tombstones : EnvelopeTombstones
  /-- The envelope that a call has checked, with how many had been returned before. -/
  verifying : CallId → Option (ControlEnvelope × ℕ)
  /-- What the calls have returned. -/
  returned : List ControlEnvelope

inductive EnvelopeLabel where
  | pass (now : ℤ)
  | call (t : CallId) (body : Json) (expectedAction : ControlAction)
    (expectedRfqId expectedSignerDid signatureErrorCode : JsString)
  /-- The call goes on after the verification, which it has passed. -/
  | verified (t : CallId)
  | sweep

namespace EnvelopeCalls

def start (clock : ℤ) : EnvelopeCalls := ⟨clock, .empty, fun _ => none, []⟩

def step (env : EngineEnv) (c : EnvelopeCalls) : EnvelopeLabel → Option EnvelopeCalls
  | .pass now => if c.clock ≤ now then some { c with clock := now } else none
  | .call t body action rfqId signerDid code =>
    match c.verifying t with
    | some _ => none
    | none =>
      match validateControlEnvelope env c.clock c.tombstones body action rfqId signerDid code with
      | .ok e => some { c with
          verifying := Function.update c.verifying t (some (e, c.returned.length)) }
      | .error _ => some c
  | .verified t =>
    match c.verifying t with
    | some (e, _) => some { c with
        tombstones :=
          c.tombstones.use c.clock e.envelopeId EnvelopeTombstones.defaultRetentionMs
        verifying := Function.update c.verifying t none
        returned := c.returned ++ [e] }
    | none => none
  | .sweep => some { c with tombstones := c.tombstones.sweep c.clock }

/-- No other call has returned the envelope while its signature was verified. -/
def Undisturbed (c : EnvelopeCalls) : EnvelopeLabel → Prop
  | .verified t =>
    ∀ p ∈ c.verifying t, ∀ e ∈ c.returned.drop p.2, e.signedBytes ≠ p.1.signedBytes
  | _ => True

instance (c : EnvelopeCalls) : DecidablePred c.Undisturbed
  | .verified t => inferInstanceAs (Decidable
      (∀ p ∈ c.verifying t, ∀ e ∈ c.returned.drop p.2, e.signedBytes ≠ p.1.signedBytes))
  | .pass _ | .call .. | .sweep => .isTrue trivial

end EnvelopeCalls

/-! ### The signed bytes -/

/-- The bytes tell the texts of the fields. -/
theorem ControlEnvelope.text_of_signedBytes {e e' : ControlEnvelope}
    (h : e.signedBytes = e'.signedBytes) (key : JsString) {s s' : JsString}
    (hs : (spread e.members (js "signature") (.str [])).lookup key = some (.str s))
    (hs' : (spread e'.members (js "signature") (.str [])).lookup key = some (.str s'))
    (hproto : key ≠ js "__proto__") (hextensions : key ≠ js "extensions") : s = s' := by
  have hnodup (e : ControlEnvelope) :
      ((spread e.members (js "signature") (.str [])).map Prod.fst).Nodup := by
    apply JsMap.nodup_setEntries
    exact (by decide +kernel : [js "envelope_id", js "action", js "rfq_id", js "session_revision",
      js "payload", js "issued_at", js "expires_at", js "signature"].Nodup)
  obtain ⟨w, hw, hsort⟩ := mem_of_canonicalJson_eq (hnodup e) (hnodup e') h
    (JsMap.mem_of_lookup hs) hproto hextensions
  have hsame := eq_of_mem_of_fst_eq (hnodup e') hw (JsMap.mem_of_lookup hs') rfl
  obtain ⟨-, rfl⟩ := Prod.mk.inj hsame
  simpa only [sortKeys, Json.str.injEq] using hsort

theorem ControlEnvelope.eq_of_signedBytes {e e' : ControlEnvelope}
    (h : e.signedBytes = e'.signedBytes) :
    e.envelopeId = e'.envelopeId ∧ e.issuedAt = e'.issuedAt :=
  ⟨text_of_signedBytes h (js "envelope_id") rfl rfl (by decide) (by decide),
    text_of_signedBytes h (js "issued_at") rfl rfl (by decide) (by decide)⟩

/-! ### The retention -/

/-- A checked envelope is fresh, and its id has no tombstone. -/
theorem validateControlEnvelope_fresh {env : EngineEnv} {now : ℤ}
    {tombstones : EnvelopeTombstones} {body : Json} {action : ControlAction}
    {rfqId signerDid code : JsString} {e : ControlEnvelope}
    (h : validateControlEnvelope env now tombstones body action rfqId signerDid code = .ok e) :
    ∃ issued, dateParse env.legacyDate e.issuedAt = some issued ∧
      |now - issued| ≤ MAX_ISSUED_AGE_MS ∧ tombstones.isUsed e.envelopeId = false := by
  simp only [validateControlEnvelope, bind_eq_ok, pure_eq_ok, orThrow_eq_ok] at h
  obtain ⟨_, _, _, _, _, _, _, _, _, _, _, _, _, _, _, _, _, _, _, _, issued, hissued, _, hage, _, _,
    _, hused, _, _, _, _, rfl⟩ := h
  exact ⟨issued, hissued, by simpa [require] using hage, by simpa [require] using hused⟩

namespace EnvelopeTombstones

theorem get?_use (t : EnvelopeTombstones) (now : ℤ) (id other : JsString) (retentionMs : ℤ) :
    (t.use now id retentionMs).tombstones.get? other =
      if other = id then some (now + retentionMs) else t.tombstones.get? other :=
  t.tombstones.get?_set id other _

/-- A sweep forgets no tombstone before its expiry. -/
theorem get?_sweep {t : EnvelopeTombstones} {now expiry : ℤ} {id : JsString}
    (h : t.tombstones.get? id = some expiry) (hexpiry : now < expiry) :
    (t.sweep now).tombstones.get? id = some expiry := by
  unfold sweep
  split_ifs
  · exact h
  · rw [JsMap.get?_filter, h]
    simp [Option.filter, hexpiry]

end EnvelopeTombstones

namespace EnvelopeCalls

variable {env : EngineEnv} {c : EnvelopeCalls}

/-! ### Single use -/

/-- The id of the envelope has a tombstone that outlasts its window, or the window is over. -/
def Retired (env : EngineEnv) (clock : ℤ) (tombstones : EnvelopeTombstones)
    (e : ControlEnvelope) : Prop :=
  ∃ issued, dateParse env.legacyDate e.issuedAt = some issued ∧
    issued ≤ clock + MAX_ISSUED_AGE_MS ∧
    (issued + MAX_ISSUED_AGE_MS < clock ∨
      ∃ expiry, tombstones.tombstones.get? e.envelopeId = some expiry ∧
        issued + MAX_ISSUED_AGE_MS < expiry)

theorem Retired.pass {clock now : ℤ} {tombstones : EnvelopeTombstones} {e : ControlEnvelope}
    (h : Retired env clock tombstones e) (hnow : clock ≤ now) : Retired env now tombstones e := by
  obtain ⟨issued, hissued, hpast, hretired⟩ := h
  refine ⟨issued, hissued, by omega, ?_⟩
  rcases hretired with hover | hkept
  · exact .inl (by omega)
  · exact .inr hkept

theorem Retired.sweep {clock : ℤ} {tombstones : EnvelopeTombstones} {e : ControlEnvelope}
    (h : Retired env clock tombstones e) : Retired env clock (tombstones.sweep clock) e := by
  obtain ⟨issued, hissued, hpast, hretired⟩ := h
  refine ⟨issued, hissued, hpast, ?_⟩
  rcases hretired with hover | ⟨expiry, hget, hlong⟩
  · exact .inl hover
  · by_cases hexpiry : clock < expiry
    · exact .inr ⟨expiry, EnvelopeTombstones.get?_sweep hget hexpiry, hlong⟩
    · exact .inl (by omega)

/-- A tombstone that is set outlasts the window of every envelope that was issued by now. -/
theorem retired_use {clock : ℤ} {tombstones : EnvelopeTombstones} {e : ControlEnvelope}
    {issued : ℤ} (hissued : dateParse env.legacyDate e.issuedAt = some issued)
    (hpast : issued ≤ clock + MAX_ISSUED_AGE_MS) :
    Retired env clock
      (tombstones.use clock e.envelopeId EnvelopeTombstones.defaultRetentionMs) e := by
  refine ⟨issued, hissued, hpast, .inr ?_⟩
  refine ⟨clock + EnvelopeTombstones.defaultRetentionMs, ?_, ?_⟩
  · rw [EnvelopeTombstones.get?_use, if_pos rfl]
  · unfold EnvelopeTombstones.defaultRetentionMs
    unfold MAX_ISSUED_AGE_MS at hpast ⊢
    omega

theorem Retired.use {clock : ℤ} {tombstones : EnvelopeTombstones} {e : ControlEnvelope}
    (h : Retired env clock tombstones e) (id : JsString) :
    Retired env clock
      (tombstones.use clock id EnvelopeTombstones.defaultRetentionMs) e := by
  obtain ⟨issued, hissued, hpast, hretired⟩ := h
  by_cases hid : e.envelopeId = id
  · rw [← hid]
    exact retired_use hissued hpast
  · refine ⟨issued, hissued, hpast, hretired.imp_right ?_⟩
    rintro ⟨expiry, hget, hlong⟩
    refine ⟨expiry, ?_, hlong⟩
    rw [EnvelopeTombstones.get?_use, if_neg hid]
    exact hget

/-- A retired envelope is not accepted again, in whatever order its members are sent. -/
theorem Retired.rejects {clock : ℤ} {tombstones : EnvelopeTombstones} {e e' : ControlEnvelope}
    (h : Retired env clock tombstones e) (hbytes : e.signedBytes = e'.signedBytes) {body : Json}
    {action : ControlAction} {rfqId signerDid code : JsString} :
    validateControlEnvelope env clock tombstones body action rfqId signerDid code ≠ .ok e' := by
  intro hok
  obtain ⟨hid, hat⟩ := ControlEnvelope.eq_of_signedBytes hbytes
  obtain ⟨issued, hissued, hage, hunused⟩ := validateControlEnvelope_fresh hok
  obtain ⟨issued', hissued', _, hretired⟩ := h
  rw [hid, hat] at *
  rw [hissued, Option.some.injEq] at hissued'
  subst hissued'
  rcases hretired with hover | ⟨expiry, hget, _⟩
  · have hle := (abs_le.mp hage).2
    omega
  · rw [EnvelopeTombstones.isUsed, hget] at hunused
    cases hunused

structure SingleUse (env : EngineEnv) (c : EnvelopeCalls) : Prop where
  nodup : (c.returned.map ControlEnvelope.signedBytes).Nodup
  retired : ∀ e ∈ c.returned, Retired env c.clock c.tombstones e
  inFlight : ∀ t p, c.verifying t = some p →
    (∀ e ∈ c.returned.take p.2, e.signedBytes ≠ p.1.signedBytes) ∧
    p.2 ≤ c.returned.length ∧ ∃ issued, dateParse env.legacyDate p.1.issuedAt = some issued ∧
      issued ≤ c.clock + MAX_ISSUED_AGE_MS

theorem start_singleUse (clock : ℤ) : SingleUse env (start clock) where
  nodup := List.nodup_nil
  retired := by simp [start]
  inFlight := by simp [start]

theorem SingleUse.pass (h : SingleUse env c) {now : ℤ} (hnow : c.clock ≤ now) :
    SingleUse env { c with clock := now } where
  nodup := h.nodup
  retired := fun e he => (h.retired e he).pass hnow
  inFlight := by
    intro t p hp
    obtain ⟨hfresh, hlength, issued, hissued, hpast⟩ := h.inFlight t p hp
    exact ⟨hfresh, hlength, issued, hissued, hpast.trans (by dsimp only; omega)⟩

theorem SingleUse.call (h : SingleUse env c) {t : CallId} {body : Json} {action : ControlAction}
    {rfqId signerDid code : JsString} {e : ControlEnvelope}
    (hok : validateControlEnvelope env c.clock c.tombstones body action rfqId signerDid code =
      .ok e) :
    SingleUse env
      { c with verifying := Function.update c.verifying t (some (e, c.returned.length)) } where
  nodup := h.nodup
  retired := h.retired
  inFlight := by
    intro u p hp
    dsimp only at hp ⊢
    by_cases hu : u = t
    · rw [hu, Function.update_self] at hp
      cases hp
      obtain ⟨issued, hissued, hage, _⟩ := validateControlEnvelope_fresh hok
      refine ⟨?_, le_rfl, issued, hissued, ?_⟩
      · rw [List.take_length]
        exact fun e' he' hbytes => (h.retired e' he').rejects hbytes hok
      · have hge := (abs_le.mp hage).1
        omega
    · rw [Function.update_of_ne hu] at hp
      exact h.inFlight u p hp

theorem SingleUse.verified (h : SingleUse env c) {t : CallId} {e : ControlEnvelope} {since : ℕ}
    (ht : c.verifying t = some (e, since))
    (hnew : ∀ e' ∈ c.returned.drop since, e'.signedBytes ≠ e.signedBytes) :
    SingleUse env { c with
      tombstones := c.tombstones.use c.clock e.envelopeId EnvelopeTombstones.defaultRetentionMs
      verifying := Function.update c.verifying t none
      returned := c.returned ++ [e] } := by
  obtain ⟨hbefore, _, issued, hissued, hpast⟩ := h.inFlight t _ ht
  have hnever : e.signedBytes ∉ c.returned.map ControlEnvelope.signedBytes := by
    rw [← List.take_append_drop since c.returned, List.mem_map]
    rintro ⟨e', he', hbytes⟩
    rcases List.mem_append.mp he' with he' | he'
    · exact hbefore e' he' hbytes
    · exact hnew e' he' hbytes
  constructor
  · rw [List.map_append]
    apply h.nodup.append (List.nodup_singleton e.signedBytes)
    rw [List.disjoint_singleton]
    exact hnever
  · intro e' he'
    dsimp only at he' ⊢
    rcases List.mem_append.mp he' with he' | he'
    · exact (h.retired e' he').use e.envelopeId
    · rw [List.mem_singleton.mp he']
      exact retired_use hissued hpast
  · intro u p hp
    dsimp only at hp ⊢
    by_cases hu : u = t
    · rw [hu, Function.update_self] at hp
      cases hp
    · rw [Function.update_of_ne hu] at hp
      obtain ⟨hfresh, hlength, hage⟩ := h.inFlight u p hp
      refine ⟨?_, ?_, hage⟩
      · rw [List.take_append_of_le_length hlength]
        exact hfresh
      · rw [List.length_append]
        omega

theorem SingleUse.step (h : SingleUse env c) {label : EnvelopeLabel}
    (hlabel : c.Undisturbed label) {c' : EnvelopeCalls} (hstep : c.step env label = some c') :
    SingleUse env c' := by
  unfold EnvelopeCalls.step at hstep
  cases label with
  | pass now =>
    dsimp only at hstep
    split_ifs at hstep with hnow
    cases hstep
    exact h.pass hnow
  | call t body action rfqId signerDid code =>
    dsimp only at hstep
    split at hstep
    · cases hstep
    · split at hstep
      · rename_i e hok
        cases hstep
        exact h.call hok
      · cases hstep
        exact h
  | verified t =>
    dsimp only at hstep
    split at hstep
    · rename_i e since ht
      cases hstep
      exact h.verified ht (hlabel (e, since) ht)
    · cases hstep
  | sweep =>
    cases hstep
    exact ⟨h.nodup, fun e he => (h.retired e he).sweep, h.inFlight⟩

/-! ### Replays -/

theorem step_returned {label : EnvelopeLabel} {c' : EnvelopeCalls}
    (hstep : c.step env label = some c') : c.returned <+: c'.returned := by
  unfold EnvelopeCalls.step at hstep
  cases label with
  | pass now =>
    dsimp only at hstep
    split_ifs at hstep
    cases hstep
    exact List.prefix_rfl
  | call t body action rfqId signerDid code =>
    dsimp only at hstep
    split at hstep
    · cases hstep
    · split at hstep
      · cases hstep
        exact List.prefix_rfl
      · cases hstep
        exact List.prefix_rfl
  | verified t =>
    dsimp only at hstep
    split at hstep
    · cases hstep
      exact List.prefix_append _ _
    · cases hstep
  | sweep =>
    cases hstep
    exact List.prefix_rfl

theorem run_returned (env : EngineEnv) (c : EnvelopeCalls) (labels : List EnvelopeLabel) :
    c.returned <+: (run (step env) c labels).returned := by
  apply run_invariant (P := fun d : EnvelopeCalls => c.returned <+: d.returned) _
    List.prefix_rfl labels
  intro d label d' h hstep
  exact h.trans (step_returned hstep)

/-- A call that is disturbed returns its envelope a second time. -/
theorem disturbed_returns_twice {label : EnvelopeLabel} (h : ¬ c.Undisturbed label) :
    ¬ ((next (step env) c label).returned.map ControlEnvelope.signedBytes).Nodup := by
  cases label with
  | verified t =>
    simp only [Undisturbed, not_forall, not_not] at h
    obtain ⟨⟨e, since⟩, ht, e', he', hbytes⟩ := h
    rw [Option.mem_def] at ht
    have hnext : (next (step env) c (.verified t)).returned = c.returned ++ [e] := by
      simp [next, step, ht]
    rw [hnext, List.map_append]
    intro hnodup
    exact (List.nodup_append.mp hnodup).2.2 _ (List.mem_map_of_mem (List.mem_of_mem_drop he')) _
      (List.mem_singleton_self _) hbytes
  | _ => exact absurd trivial h

/-- No signed envelope is returned twice exactly in the runs where no call returns an envelope
that another call has returned while its signature was verified. -/
theorem envelope_single_use (env : EngineEnv) (clock : ℤ) (labels : List EnvelopeLabel) :
    ((run (step env) (start clock) labels).returned.map ControlEnvelope.signedBytes).Nodup ↔
      Guarded (step env) Undisturbed (start clock) labels := by
  constructor
  · generalize start clock = c
    induction labels generalizing c with
    | nil => exact fun _ => trivial
    | cons label labels ih =>
      intro hnodup
      rw [run_cons] at hnodup
      refine ⟨?_, ih _ hnodup⟩
      by_contra hdisturbed
      have hkept := (run_returned env (next (step env) c label) labels).sublist
      exact disturbed_returns_twice hdisturbed (hnodup.sublist (hkept.map _))
  · intro hguarded
    have hsingle : SingleUse env (run (step env) (start clock) labels) :=
      hguarded.invariant (fun _ _ _ h hlabel hstep => h.step hlabel hstep) (start_singleUse clock)
    exact hsingle.nodup

/-! ### Two overlapping calls -/

def acceptCall (t : CallId) : EnvelopeLabel :=
  .call t firstNegotiation.acceptBody .accept firstNegotiation.rfqId Settlement.sampleBuyer
    (js "invalid_buyer_signature")

/-- Both calls check the envelope before either has returned it. -/
theorem envelope_used_twice :
    ¬ ((run (step (sampleEngineEnv .null firstNegotiation.signatures)) (start sampleNow)
      [acceptCall 0, acceptCall 1, .verified 0, .verified 1]).returned.map
        ControlEnvelope.signedBytes).Nodup := by
  have htwice : ¬ (run (step (sampleEngineEnv .null firstNegotiation.signatures)) (start sampleNow)
      [acceptCall 0, acceptCall 1, .verified 0, .verified 1]).returned.Nodup := by
    decide +kernel
  exact fun hnodup => htwice hnodup.of_map

end EnvelopeCalls
end GhostBazaar.Engine
