import GhostBazaar.Engine.Routes.Bidding

/-! The deadline enforcer: what an iteration of `scan` does with a session, and its two
locked sections. -/
namespace GhostBazaar.Engine
open Js

def DEFAULT_COSIGN_TIMEOUT_MS : ℤ := 60000

def MIN_COSIGN_TIMEOUT_MS : ℤ := 15000

def MAX_COSIGN_TIMEOUT_MS : ℤ := 120000

def EngineEnv.cosignTimeout (env : EngineEnv) : ℤ :=
  max MIN_COSIGN_TIMEOUT_MS (min MAX_COSIGN_TIMEOUT_MS
    (env.cosignTimeoutMs.getD DEFAULT_COSIGN_TIMEOUT_MS))

inductive ScanAction where
  | skip
  /-- A terminal session: its lock is removed. -/
  | cleanUp
  | expire
  | cosignTimeout
  deriving DecidableEq

/-- One iteration of `scan`. Every state that is not terminal is expirable. -/
def scanSession (env : EngineEnv) (now : ℤ) (session : DerivedSession) : ScanAction :=
  if session.state.isTerminal then .cleanUp
  else if hasReached now (dateParse env.legacyDate session.rfq.deadline) then .expire
  else if session.state = .commitPending ∧
      hasReached (now - env.cosignTimeout)
        (session.commitPendingAt.bind (dateParse env.legacyDate)) then .cosignTimeout
  else .skip

/-- `now < t` for a time that may be `NaN`. -/
def isBefore (now : ℤ) : Option ℤ → Bool
  | none => false
  | some t => decide (now < t)

def enforcerEvent (m : Moment) (rfqId : JsString) (type : EventType) (payload : Members) :
    Handling NegotiationEvent := do
  let timestamp ← m.timestamp
  return ⟨m.eventId, rfqId, type, timestamp, js "engine/deadline-enforcer", payload⟩

theorem enforcerEvent_ok {m : Moment} {rfqId : JsString} {type : EventType} {payload : Members}
    {event : NegotiationEvent} (h : enforcerEvent m rfqId type payload = .ok event) :
    event.type = type ∧ event.payload = payload ∧
      event.actor = js "engine/deadline-enforcer" := by
  simp only [enforcerEvent, bind_eq_ok, pure_eq_ok] at h
  obtain ⟨_, -, rfl⟩ := h
  exact ⟨rfl, rfl, rfl⟩

def lockedExpire (env : EngineEnv) (m : Moment) (rfqId : JsString)
    (session : Option DerivedSession) : Handling (Option NegotiationEvent) :=
  match session with
  | none => .ok none
  | some session =>
    if session.state.isTerminal then .ok none
    else if isBefore m.now (dateParse env.legacyDate session.rfq.deadline) then .ok none
    else (enforcerEvent m rfqId .negotiationExpired []).map some

def lockedCosignTimeout (env : EngineEnv) (m : Moment) (rfqId : JsString)
    (session : Option DerivedSession) : Handling (Option NegotiationEvent) :=
  match session with
  | none => .ok none
  | some session =>
    if session.state ≠ .commitPending then .ok none
    else match session.commitPendingAt.filter fun t => !t.isEmpty with
    | none => .ok none
    | some commitPendingAt =>
      if isBefore (m.now - env.cosignTimeout) (dateParse env.legacyDate commitPendingAt) then
        .ok none
      else match session.selectedSeller.filter fun seller => !seller.isEmpty with
      | none => .ok none
      | some seller =>
        (enforcerEvent m rfqId .cosignTimeout [(js "seller", .str seller)]).map some

theorem lockedExpire_ok {env : EngineEnv} {m : Moment} {rfqId : JsString}
    {session : Option DerivedSession} {event : NegotiationEvent}
    (h : lockedExpire env m rfqId session = .ok (some event)) :
    event.type = .negotiationExpired ∧ event.payload = [] ∧
      event.actor = js "engine/deadline-enforcer" := by
  unfold lockedExpire at h
  split at h
  · simp at h
  split_ifs at h
  · simp at h
  · simp at h
  · simp only [map_eq_ok, Option.some.injEq] at h
    obtain ⟨_, hevent, rfl⟩ := h
    exact enforcerEvent_ok hevent

theorem lockedCosignTimeout_ok {env : EngineEnv} {m : Moment} {rfqId : JsString}
    {session : Option DerivedSession} {event : NegotiationEvent}
    (h : lockedCosignTimeout env m rfqId session = .ok (some event)) :
    event.type = .cosignTimeout ∧ event.actor = js "engine/deadline-enforcer" ∧
      ∃ seller, event.payload = [(js "seller", .str seller)] := by
  unfold lockedCosignTimeout at h
  split at h
  · simp at h
  split_ifs at h
  · simp at h
  split at h
  · simp at h
  split_ifs at h
  · simp at h
  split at h
  · simp at h
  · simp only [map_eq_ok, Option.some.injEq] at h
    obtain ⟨_, hevent, rfl⟩ := h
    obtain ⟨htype, hpayload, hactor⟩ := enforcerEvent_ok hevent
    exact ⟨htype, hactor, _, hpayload⟩

end GhostBazaar.Engine
