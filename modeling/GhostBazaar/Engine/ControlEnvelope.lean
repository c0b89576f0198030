import GhostBazaar.Engine.Middleware

/-! Signed control envelopes: the checks that authenticate an accept or a decline, and the
tombstones of used envelope ids. -/
namespace GhostBazaar.Engine
open Js GhostBazaar.Core

inductive ControlAction where
  | accept
  | decline
  deriving DecidableEq

def ControlAction.text : ControlAction → JsString
  | .accept => js "accept"
  | .decline => js "decline"

structure ControlEnvelope where
  envelopeId : JsString
  action : ControlAction
  rfqId : JsString
  sessionRevision : JsString
  payload : Members
  issuedAt : JsString
  expiresAt : JsString
  signature : JsString
  deriving DecidableEq

/-- `envelopeForSig`, over which the signature is verified. -/
def ControlEnvelope.members (e : ControlEnvelope) : Members :=
  [(js "envelope_id", .str e.envelopeId), (js "action", .str e.action.text),
    (js "rfq_id", .str e.rfqId), (js "session_revision", .str e.sessionRevision),
    (js "payload", .obj e.payload), (js "issued_at", .str e.issuedAt),
    (js "expires_at", .str e.expiresAt), (js "signature", .str e.signature)]

/-! ### Tombstones -/

/-- `nextExpiry` is `none` for `Infinity`. -/
structure EnvelopeTombstones where
  tombstones : JsMap JsString ℤ
  nextExpiry : Option ℤ

namespace EnvelopeTombstones

def empty : EnvelopeTombstones := ⟨.empty, none⟩

def isUsed (t : EnvelopeTombstones) (envelopeId : JsString) : Bool :=
  (t.tombstones.get? envelopeId).isSome

def defaultRetentionMs : ℤ := 60 * 60 * 1000

def use (now : ℤ) (t : EnvelopeTombstones) (envelopeId : JsString) (retentionMs : ℤ) :
    EnvelopeTombstones where
  tombstones := t.tombstones.set envelopeId (now + retentionMs)
  nextExpiry := match t.nextExpiry with
    | some e => some (min (now + retentionMs) e)
    | none => some (now + retentionMs)

def sweep (now : ℤ) (t : EnvelopeTombstones) : EnvelopeTombstones :=
  -- nothing can have expired before the earliest expiry
  if t.nextExpiry.all (now < ·) then t
  else
    let kept := t.tombstones.filter fun _ expiry => decide (¬ expiry ≤ now)
    { tombstones := kept
      nextExpiry := (kept.entries.map Prod.snd).min? }

end EnvelopeTombstones

/-! ### Validation -/

def MAX_ISSUED_AGE_MS : ℤ := 60000

/-- A field that must be a text, possibly a non-empty one. -/
def envelopeText (body : Json) (key : JsString) (nonempty : Bool) : Handling JsString := do
  let v ← field body key
  orThrow (v.asStr.filter fun s => !(nonempty && s.isEmpty))
    (.refused (malformedPayload (js "Missing or invalid " ++ key)))

def checkAction (body : Json) (expectedAction : ControlAction) : Handling Unit := do
  let action ← field body (js "action")
  if action = some (.str expectedAction.text) then return ()
  -- `String(action)` throws for an object without a usable `toString`
  let text ← liftThrown (stringOf action)
  .error (.refused (malformedPayload
    (js "Expected action \"" ++ expectedAction.text ++ js "\", got \"" ++ text ++ js "\"")))

/-- `validateControlEnvelope` up to the use of the tombstone. -/
def validateControlEnvelope (env : EngineEnv) (now : ℤ) (tombstones : EnvelopeTombstones)
    (body : Json) (expectedAction : ControlAction)
    (expectedRfqId expectedSignerDid signatureErrorCode : JsString) :
    Handling ControlEnvelope := do
  let envelopeId ← envelopeText body (js "envelope_id") true
  checkAction body expectedAction
  let rfqId ← field body (js "rfq_id")
  require (rfqId = some (.str expectedRfqId))
    ⟨400, js "rfq_id_mismatch", js "Envelope rfq_id does not match route parameter"⟩
  let sessionRevision ← envelopeText body (js "session_revision") true
  let payload ← field body (js "payload")
  let payload ← orThrow (asPlainObject payload)
    (.refused (malformedPayload (js "Missing or invalid payload object")))
  let issuedAt ← envelopeText body (js "issued_at") false
  let expiresAt ← envelopeText body (js "expires_at") false
  let signature ← envelopeText body (js "signature") false
  let issuedMs ← orThrow (dateParse env.legacyDate issuedAt)
    (.refused (malformedPayload (js "issued_at is not a valid ISO8601 date")))
  require (|now - issuedMs| ≤ MAX_ISSUED_AGE_MS) (malformedPayload
    (js "issued_at is too old or too far in the future (max 60s drift)"))
  require (isExpired now (dateParse env.legacyDate expiresAt) = false)
    (malformedPayload (js "expires_at must be in the future"))
  require (tombstones.isUsed envelopeId = false)
    ⟨409, js "duplicate_control_envelope", js "This envelope has already been used"⟩
  preCheckSignatureFormat env.toCrypto (some (.str signature)) (some (.str expectedSignerDid))
  let envelope : ControlEnvelope := ⟨envelopeId, expectedAction, expectedRfqId, sessionRevision,
    payload, issuedAt, expiresAt, signature⟩
  verifySignature env.toCrypto envelope.members signature expectedSignerDid signatureErrorCode
  return envelope

/-- What the signature of an envelope was checked for. -/
def ControlEnvelope.SignedBy (env : EngineEnv) (e : ControlEnvelope) (signerDid : JsString) :
    Prop :=
  ∃ key, env.didToPublicKey signerDid = some key ∧
    env.verifyEd25519 (objectSigningPayload env.toCrypto e.members) e.signature key = true

theorem validateControlEnvelope_ok {env : EngineEnv} {now : ℤ}
    {tombstones : EnvelopeTombstones} {body : Json} {action : ControlAction}
    {rfqId signerDid code : JsString} {e : ControlEnvelope}
    (h : validateControlEnvelope env now tombstones body action rfqId signerDid code = .ok e) :
    e.action = action ∧ e.rfqId = rfqId ∧ e.SignedBy env signerDid := by
  simp only [validateControlEnvelope, bind_eq_ok, verifySignature_eq_ok, pure_eq_ok] at h
  obtain ⟨_, -, -, -, _, -, -, -, _, -, _, -, _, -, _, -, _, -, _, -, _, -, -, -, -, -, -, -, -, -,
    -, hsigned, rfl⟩ := h
  exact ⟨rfl, rfl, hsigned⟩

end GhostBazaar.Engine
