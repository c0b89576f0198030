import GhostBazaar.Engine.Answers
import GhostBazaar.Engine.CommittedQuote

/-! What the locked sections of the enforcer act on: a deadline that has passed, or an accept
of the current cycle that has waited long enough. -/
namespace GhostBazaar.Engine
open Js GhostBazaar.Core Settlement Transition

section

variable {env : EngineEnv} {P : DerivedSession → Members → Prop}
  {answers : List (JsString × JsValue)} {h : List Entry} {r : JsString}

/-! ### What the enforcer reads from a session -/

/-- A session opens with a request that was checked, for the id of its log. -/
theorem Recorded.request {en : Entry} (hr : Recorded env P answers h en)
    (hlog : logOf h en.rfqId = []) {s : DerivedSession} (hs : initialSession en.event = .ok s) :
    ∃ now body, validateRfq env.toCrypto now body = .ok () ∧
      body.get? (js "rfq_id") = some (.str en.rfqId) ∧
      en.event.payload = extractRfqFields body := by
  obtain ⟨m, body, hcallback, hlocked⟩ := hr.opening hlog hs
  have hadmitted := hr.admitted
  rw [hcallback] at hadmitted
  obtain ⟨⟨now, hcheck⟩, hbody⟩ := hadmitted
  simp only [checkRfq, bind_eq_ok, answerValidation_eq_ok] at hcheck
  obtain ⟨-, hvalid, -⟩ := hcheck
  exact ⟨now, body, hvalid, hbody, (lockedRfq_ok hlocked).2.1⟩

/-- The deadline of a session is a date: the RFQ was refused otherwise. -/
theorem Recorded.deadline {en : Entry} (hr : Recorded env P answers h en)
    (hlog : logOf h en.rfqId = []) {s : DerivedSession} (hs : initialSession en.event = .ok s) :
    ∃ deadline, dateParse env.legacyDate s.rfq.deadline = some deadline := by
  obtain ⟨now, body, hvalid, -, hevent⟩ := hr.request hlog hs
  simp only [validateRfq, bind_eq_ok, require_eq_ok, liftThrown_eq_ok] at hvalid
  obtain ⟨-, -, -, -, -, -, -, -, -, -, -, -, -, -, future, hfuture, -, hisFuture, -⟩ := hvalid
  rw [hisFuture] at hfuture
  have hpayload : en.event.payload.lookup (js "deadline") = body.get? (js "deadline") := by
    rw [hevent, lookup_extractRfqFields, if_pos (by decide +kernel)]
  simp only [initialSession, bind_eq_ok, ensure_eq_ok, str_eq_ok, pure_eq_ok] at hs
  obtain ⟨-, -, _, -, _, -, _, -, _, -, deadline, hdeadline, _, -, rfl⟩ := hs
  rw [← hpayload, hdeadline, isFutureISO, dateParseOf, stringOf_str] at hfuture
  simp only [Except.map, Except.ok.injEq] at hfuture
  cases hparse : dateParse env.legacyDate deadline with
  | none => simp [hparse, isFuture] at hfuture
  | some t => exact ⟨t, rfl⟩

theorem Journal.deadline (hj : Journal env P answers h) {s : DerivedSession}
    (hs : deriveState (logOf h r) = .ok (some s)) :
    ∃ deadline, dateParse env.legacyDate s.rfq.deadline = some deadline := by
  apply hj.session_induction
    (C := fun _ s => ∃ deadline, dateParse env.legacyDate s.rfq.deadline = some deadline) _ _ hs
  · intro h en s hr hlog hs
    exact hr.deadline hlog hs
  · intro h en s s' _ _ hstep hdeadline
    rw [hstep.rfq]
    exact hdeadline

/-- The accept of the current cycle, stamped with its time, and the seller it selected. -/
structure SelectedAt (env : EngineEnv) (log : List NegotiationEvent) (s : DerivedSession)
    (seller : JsString) (at' : ℤ) : Prop where
  selectedSeller : s.selectedSeller = some seller
  accept : ∃ pre selected post, log = pre ++ selected :: post ∧
    selected.type = .winnerSelected ∧ (∀ e ∈ post, e.type.isTurn = false) ∧
    selected.payload.lookup (js "seller") = some (.str seller) ∧
    s.commitPendingAt = some selected.timestamp ∧
    dateParse env.legacyDate selected.timestamp = some at'

theorem lockedAccept_timestamp {m : Moment} {envelope : ControlEnvelope}
    {sellerDid offerId : JsString} {before : Option DerivedSession} {event : NegotiationEvent}
    (hlocked : lockedAccept env m r envelope sellerDid offerId before = .ok event) :
    dateParse env.legacyDate event.timestamp = some m.now := by
  simp only [lockedAccept, bind_eq_ok, pure_eq_ok] at hlocked
  obtain ⟨_, -, -, -, -, -, -, -, _, -, -, -, _, -, timestamp, htimestamp, rfl⟩ := hlocked
  rw [Moment.timestamp, orThrow_eq_ok] at htimestamp
  exact dateParse_toISOString env.legacyDate htimestamp

theorem SelectedAt.extend {log : List NegotiationEvent} {s s' : DerivedSession}
    {event : NegotiationEvent} {seller : JsString} {at' : ℤ} (hs : SelectedAt env log s seller at')
    (hseller : s'.selectedSeller = s.selectedSeller)
    (hpending : s'.commitPendingAt = s.commitPendingAt) (hturn : event.type.isTurn = false) :
    SelectedAt env (log ++ [event]) s' seller at' := by
  obtain ⟨pre, selected, post, rfl, htype, hpost, hpayload, hcommit, hparse⟩ := hs.accept
  refine ⟨hseller.trans hs.selectedSeller, pre, selected, post ++ [event], by simp, htype, ?_,
    hpayload, hpending.trans hcommit, hparse⟩
  intro e he
  rcases List.mem_append.mp he with he | he
  · exact hpost e he
  · rw [List.mem_singleton.mp he, hturn]

theorem Recorded.selectedAt {en : Entry} (hr : Recorded env P answers h en)
    {s s' : DerivedSession} (hs : deriveState (logOf h en.rfqId) = .ok (some s))
    (hstep : EventStep s en.event s')
    (hbefore : s.state = .commitPending → ∃ seller at',
      SelectedAt env (logOf h en.rfqId) s seller at')
    (hstate : s'.state = .commitPending) :
    ∃ seller at', SelectedAt env (logOf h en.rfqId ++ [en.event]) s' seller at' := by
  cases hstep with
  | winnerSelected offer _ htype _ _ _ hseller =>
    obtain ⟨m, envelope, signer, sellerDid, offerId, -, hlocked⟩ := hr.accept hs htype
    exact ⟨offer.seller, m.now, rfl, logOf h en.rfqId, en.event, [], rfl, htype, nofun, hseller,
      rfl, lockedAccept_timestamp hlocked⟩
  | quoteSigned _ _ hpending htype =>
    obtain ⟨seller, at', hselected⟩ := hbefore hpending
    exact ⟨seller, at', hselected.extend rfl rfl (by rw [htype]; rfl)⟩
  | marker htype =>
    obtain ⟨seller, at', hselected⟩ := hbefore hstate
    refine ⟨seller, at', hselected.extend rfl rfl ?_⟩
    rcases htype with ⟨htype, -⟩ | ⟨htype, -⟩ <;> rw [htype] <;> rfl
  | _ => simp at hstate

theorem Journal.selectedAt (hj : Journal env P answers h) {s : DerivedSession}
    (hs : deriveState (logOf h r) = .ok (some s)) (hstate : s.state = .commitPending) :
    ∃ seller at', SelectedAt env (logOf h r) s seller at' := by
  refine hj.session_induction (C := fun log s => s.state = .commitPending →
    ∃ seller at', SelectedAt env log s seller at') ?_ ?_ hs hstate
  · intro h en s _ _ hfirst hstate
    rw [(initialSession_state hfirst).1] at hstate
    simp at hstate
  · intro h en s s' hr hs hstep hbefore hstate
    exact hr.selectedAt hs hstep hbefore hstate

/-! ### The locked sections -/

/-- A session that the enforcer may expire at this time. -/
structure Overdue (env : EngineEnv) (now : ℤ) (s : DerivedSession) : Prop where
  state : s.state = .open ∨ s.state = .negotiating ∨ s.state = .commitPending
  deadline : ∃ deadline, dateParse env.legacyDate s.rfq.deadline = some deadline ∧ deadline ≤ now

theorem isBefore_eq_false {now t : ℤ} (h : isBefore now (some t) = false) : t ≤ now := by
  simpa [isBefore] using h

theorem Journal.overdue (hj : Journal env P answers h) {m : Moment}
    {before : Option DerivedSession} {event : NegotiationEvent}
    (hs : deriveState (logOf h r) = .ok before)
    (hlocked : lockedExpire env m r before = .ok (some event)) :
    ∃ s, before = some s ∧ Overdue env m.now s := by
  unfold lockedExpire at hlocked
  split at hlocked
  · simp at hlocked
  · rename_i s
    obtain ⟨deadline, hdeadline⟩ := hj.deadline hs
    split_ifs at hlocked with hterminal hearly
    · simp at hlocked
    · simp at hlocked
    · refine ⟨s, rfl, ?_, deadline, hdeadline, ?_⟩
      · cases hstate : s.state <;> simp [hstate, SessionState.isTerminal] at hterminal ⊢
      · rw [hdeadline, Bool.not_eq_true] at hearly
        exact isBefore_eq_false hearly

theorem Journal.timedOut (hj : Journal env P answers h) {m : Moment}
    {before : Option DerivedSession} {event : NegotiationEvent}
    (hs : deriveState (logOf h r) = .ok before)
    (hlocked : lockedCosignTimeout env m r before = .ok (some event)) :
    ∃ s seller at', before = some s ∧ s.state = .commitPending ∧
      SelectedAt env (logOf h r) s seller at' ∧ at' + env.cosignTimeout ≤ m.now ∧
      event.payload = [(js "seller", .str seller)] := by
  unfold lockedCosignTimeout at hlocked
  split at hlocked
  · simp at hlocked
  rename_i s
  split_ifs at hlocked with hstate
  · simp at hlocked
  rw [ne_eq, not_not] at hstate
  obtain ⟨seller, at', hselected⟩ := hj.selectedAt hs hstate
  obtain ⟨pre, selected, post, -, -, -, -, hpending, hparse⟩ := hselected.accept
  split at hlocked
  · simp at hlocked
  rename_i commitPendingAt hcommit
  rw [Option.filter_eq_some_iff, hpending, Option.some.injEq] at hcommit
  split_ifs at hlocked with hearly
  · simp at hlocked
  split at hlocked
  · simp at hlocked
  rename_i seller' hseller
  rw [Option.filter_eq_some_iff, hselected.selectedSeller, Option.some.injEq] at hseller
  simp only [map_eq_ok, Option.some.injEq] at hlocked
  obtain ⟨_, hevent, rfl⟩ := hlocked
  refine ⟨s, seller, at', rfl, hstate, hselected, ?_, ?_⟩
  · rw [← hcommit.1, hparse, Bool.not_eq_true] at hearly
    have hdue := isBefore_eq_false hearly
    omega
  · rw [(enforcerEvent_ok hevent).2.1, hseller.1]

/-- What is true of the session when an event of the enforcer is appended, and of the time
that an accept is stamped with. -/
structure Due (env : EngineEnv) (log : List NegotiationEvent) (now : ℤ)
    (event : NegotiationEvent) : Prop where
  expired : event.type = .negotiationExpired → ∃ s, deriveState log = .ok (some s) ∧
    Overdue env now s
  timedOut : event.type = .cosignTimeout → ∃ s seller at', deriveState log = .ok (some s) ∧
    s.state = .commitPending ∧ SelectedAt env log s seller at' ∧
    at' + env.cosignTimeout ≤ now ∧ event.payload = [(js "seller", .str seller)]
  stamped : event.type = .winnerSelected → dateParse env.legacyDate event.timestamp = some now

theorem Journal.due (hj : Journal env P answers h) {m : Moment} {listings : ListingStore}
    {callback : Callback} {before : Option DerivedSession} {event : NegotiationEvent}
    (hs : deriveState (logOf h r) = .ok before)
    (hrun : callback.run env m listings r (logOf h r) before = .ok (.append event)) :
    Due env (logOf h r) m.now event := by
  have heventType := (Produces.run m listings callback event hrun).appends.eventType
  constructor
  · intro htype
    rw [htype] at heventType
    cases callback with
    | expire =>
      simp only [Callback.run, map_eq_ok, appendOrLeave_eq_append] at hrun
      obtain ⟨_, hlocked, rfl⟩ := hrun
      obtain ⟨s, rfl, hoverdue⟩ := hj.overdue hs hlocked
      exact ⟨s, hs, hoverdue⟩
    | sign role signature => cases role <;> simp [Callback.eventType] at heventType
    | _ => simp [Callback.eventType] at heventType
  · intro htype
    rw [htype] at heventType
    cases callback with
    | cosignTimeout =>
      simp only [Callback.run, map_eq_ok, appendOrLeave_eq_append] at hrun
      obtain ⟨_, hlocked, rfl⟩ := hrun
      obtain ⟨s, seller, at', rfl, hrest⟩ := hj.timedOut hs hlocked
      exact ⟨s, seller, at', hs, hrest⟩
    | sign role signature => cases role <;> simp [Callback.eventType] at heventType
    | _ => simp [Callback.eventType] at heventType
  · intro htype
    rw [htype] at heventType
    cases callback with
    | accept envelope signer sellerDid offerId =>
      simp only [Callback.run, map_eq_ok, LockedResult.append.injEq] at hrun
      obtain ⟨_, hlocked, rfl⟩ := hrun
      exact lockedAccept_timestamp hlocked
    | sign role signature => cases role <;> simp [Callback.eventType] at heventType
    | _ => simp [Callback.eventType] at heventType

end

end GhostBazaar.Engine
