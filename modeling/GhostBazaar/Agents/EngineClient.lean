import GhostBazaar.Engine.ControlEnvelope

/-! What the client of the agents signs, and what the engine makes of it: the header of a read,
and the envelopes of an accept and of a decline. -/
namespace GhostBazaar.Agents
open Js GhostBazaar.Core Settlement Engine

/-! ### Base64 -/

def base64Unit (n : ℕ) : CodeUnit :=
  if n < 26 then Fin.ofNat 65536 (65 + n)
  else if n < 52 then Fin.ofNat 65536 (71 + n)
  else if n < 62 then Fin.ofNat 65536 (n - 4)
  else if n = 62 then 43 else 47

/-- `Buffer.from(bytes).toString("base64")` -/
def base64Text : List UInt8 → JsString
  | a :: b :: c :: rest =>
    base64Unit (a.toNat / 4) :: base64Unit (a.toNat % 4 * 16 + b.toNat / 16) ::
      base64Unit (b.toNat % 16 * 4 + c.toNat / 64) :: base64Unit (c.toNat % 64) :: base64Text rest
  | [a, b] =>
    [base64Unit (a.toNat / 4), base64Unit (a.toNat % 4 * 16 + b.toNat / 16),
      base64Unit (b.toNat % 16 * 4), 61]
  | [a] => [base64Unit (a.toNat / 4), base64Unit (a.toNat % 4 * 16), 61, 61]
  | [] => []

theorem isBase64Unit_base64Unit (n : ℕ) : isBase64Unit (base64Unit n) = true := by
  unfold base64Unit
  split_ifs with h₁ h₂ h₃ h₄
  · have hval : (Fin.ofNat 65536 (65 + n)).val = 65 + n := by
      simp only [Fin.val_ofNat]
      omega
    simp only [isBase64Unit, hval, Bool.or_eq_true, decide_eq_true_eq]
    omega
  · have hval : (Fin.ofNat 65536 (71 + n)).val = 71 + n := by
      simp only [Fin.val_ofNat]
      omega
    simp only [isBase64Unit, hval, Bool.or_eq_true, decide_eq_true_eq]
    omega
  · have hval : (Fin.ofNat 65536 (n - 4)).val = n - 4 := by
      simp only [Fin.val_ofNat]
      omega
    simp only [isBase64Unit, isDigitUnit, hval, Bool.or_eq_true, decide_eq_true_eq]
    omega
  · rfl
  · rfl

/-- The text is a run of units of the alphabet, with at most two `=` behind it. -/
theorem base64Text_shape (bytes : List UInt8) : ∃ body pad, base64Text bytes = body ++ pad ∧
    (∀ u ∈ body, isBase64Unit u = true) ∧ pad ∈ [[], [61], [61, 61]] ∧
    body.length * 3 / 4 = bytes.length := by
  induction bytes using base64Text.induct with
  | case1 a b c rest ih =>
    obtain ⟨body, pad, htext, hbody, hpad, hlength⟩ := ih
    refine ⟨_ :: _ :: _ :: _ :: body, pad, by rw [base64Text, htext]; rfl, ?_, hpad, ?_⟩
    · simpa [isBase64Unit_base64Unit] using hbody
    · simp only [List.length_cons]
      omega
  | case2 a b =>
    refine ⟨[_, _, _], [61], rfl, ?_, by simp, by simp⟩
    simp [isBase64Unit_base64Unit]
  | case3 a =>
    refine ⟨[_, _], [61, 61], rfl, ?_, by simp, by simp⟩
    simp [isBase64Unit_base64Unit]
  | case4 => exact ⟨[], [], rfl, by simp, by simp, rfl⟩

theorem base64Text_accepted (bytes : List UInt8) :
    isBase64 (base64Text bytes) = true ∧ base64Length (base64Text bytes) = bytes.length := by
  obtain ⟨body, pad, htext, hbody, hpad, hlength⟩ := base64Text_shape bytes
  have hstop : ∀ u ∈ pad.head?, isBase64Unit u = false := by
    simp only [List.mem_cons, List.not_mem_nil, or_false] at hpad
    rcases hpad with rfl | rfl | rfl
    · simp
    · simp [isBase64Unit, isDigitUnit]
    · simp [isBase64Unit, isDigitUnit]
  have hdrop : pad.dropWhile isBase64Unit = pad := by
    cases pad with
    | nil => rfl
    | cons u pad => exact List.dropWhile_cons_of_neg (by simp [hstop u rfl])
  have htake : pad.takeWhile isBase64Unit = [] := by
    cases pad with
    | nil => rfl
    | cons u pad => exact List.takeWhile_cons_of_neg (by simp [hstop u rfl])
  constructor
  · rw [isBase64, htext, List.dropWhile_append_of_pos hbody, hdrop]
    exact decide_eq_true hpad
  · rw [base64Length, htext, List.takeWhile_append_of_pos hbody, htake, List.append_nil, hlength]

theorem space_notMem_base64Text (bytes : List UInt8) : (32 : CodeUnit) ∉ base64Text bytes := by
  obtain ⟨body, pad, htext, hbody, hpad, -⟩ := base64Text_shape bytes
  rw [htext, List.mem_append]
  rintro (h | h)
  · exact absurd (hbody 32 h) (by decide)
  · simp only [List.mem_cons, List.not_mem_nil, or_false] at hpad
    rcases hpad with rfl | rfl | rfl <;> simp at h

/-! ### Keys -/

/-- The key pair of an agent, with the signatures that the library makes with it. -/
structure Keypair (c : Crypto) where
  publicKey : PublicKey
  /-- The base58 text of the key, behind the bytes that name its type. -/
  encoded : JsString
  /-- `ed25519.signAsync` with the secret key. -/
  signAsync : ByteArray → List UInt8
  length_signAsync : ∀ payload, (signAsync payload).length = 64
  space_notMem_encoded : (32 : CodeUnit) ∉ encoded
  decodes : c.didToPublicKey (js "did:key:z" ++ encoded) = some publicKey
  verifies : ∀ payload,
    c.verifyEd25519 payload (js "ed25519:" ++ base64Text (signAsync payload)) publicKey = true

namespace Keypair

variable {c : Crypto}

/-- `buildDid(publicKey)` -/
def did (k : Keypair c) : JsString := js "did:key:z" ++ k.encoded

theorem didToPublicKey_did (k : Keypair c) : c.didToPublicKey k.did = some k.publicKey := k.decodes

theorem space_notMem_did (k : Keypair c) : (32 : CodeUnit) ∉ k.did := by
  rw [did, List.mem_append, not_or]
  exact ⟨by decide +kernel, k.space_notMem_encoded⟩

theorem did_ne_nil (k : Keypair c) : k.did ≠ [] := by
  have hmethod : js "did:key:z" ≠ [] := by decide +kernel
  rw [did, ne_eq, List.append_eq_nil_iff, not_and]
  exact fun h => absurd h hmethod

def signEd25519 (k : Keypair c) (payload : ByteArray) : JsString :=
  js "ed25519:" ++ base64Text (k.signAsync payload)

/-- The signature of `signQuoteAsBuyer` and `signQuoteAsSeller`. -/
def signQuote (k : Keypair c) (quote : Members) : JsString :=
  k.signEd25519 (quoteSigningPayload c quote)

theorem verify_signEd25519 (k : Keypair c) (payload : ByteArray) :
    c.verifyEd25519 payload (k.signEd25519 payload) k.publicKey = true := k.verifies payload

theorem space_notMem_signEd25519 (k : Keypair c) (payload : ByteArray) :
    (32 : CodeUnit) ∉ k.signEd25519 payload := by
  rw [signEd25519, List.mem_append, not_or]
  exact ⟨by decide +kernel, space_notMem_base64Text _⟩

theorem preCheck_signEd25519 (k : Keypair c) (payload : ByteArray) :
    preCheckSignatureFormat c (some (.str (k.signEd25519 payload))) (some (.str k.did)) =
      .ok () := by
  have hmark : js "ed25519:" = [101, 100, 50, 53, 53, 49, 57, 58] := by decide +kernel
  have hdrop : (k.signEd25519 payload).drop 8 = base64Text (k.signAsync payload) := by
    simp [signEd25519, hmark]
  have hstarts : startsWith (k.signEd25519 payload) (js "ed25519:") = true := by
    simp [signEd25519, startsWith]
  obtain ⟨hbase64, hlength⟩ := base64Text_accepted (k.signAsync payload)
  rw [k.length_signAsync] at hlength
  simp [preCheckSignatureFormat, JsValue.asStr, Json.asStr, orThrow, require, ensure, hstarts,
    hdrop, hbase64, hlength, Engine.didToPublicKey, k.didToPublicKey_did, Bind.bind, Except.bind]

/-! ### The header of a read -/

def authPayload (did timestamp : JsString) : Members :=
  [(js "action", .str (js "authenticate")), (js "did", .str did),
    (js "timestamp", .str timestamp), (js "signature", .str [])]

/-- `buildAuthHeader`, which throws when the time is no date. -/
def buildAuthHeader (k : Keypair c) (now : ℤ) : Option JsString := do
  let timestamp ← toISOString now
  let signature := k.signEd25519 (objectSigningPayload c (authPayload k.did timestamp))
  return js "GhostBazaar-Ed25519 " ++ k.did ++ js " " ++ timestamp ++ js " " ++ signature

theorem space_notMem_padDigits (w n : ℕ) : (32 : CodeUnit) ∉ padDigits w n := by
  induction w with
  | zero => exact List.not_mem_nil
  | succ w ih =>
    rw [padDigits, List.mem_cons, not_or]
    refine ⟨fun h => ?_, ih⟩
    have hval := congrArg Fin.val h
    simp only [digitUnit, Fin.val_ofNat] at hval
    have hdigit : n / 10 ^ w % 10 < 10 := Nat.mod_lt _ (by decide)
    change 32 = _ at hval
    omega

theorem space_notMem_toISOString {t : ℤ} {s : JsString} (h : toISOString t = some s) :
    (32 : CodeUnit) ∉ s := by
  have hmarks : ∀ mark ∈ [js "-", js "+", js "T", js ":", js ".", js "Z"],
      (32 : CodeUnit) ∉ mark := by decide +kernel
  simp only [List.forall_mem_cons] at hmarks
  obtain ⟨hminus, hplus, hT, hcolon, hdot, hZ, -⟩ := hmarks
  have hyear : ∀ y, (32 : CodeUnit) ∉ yearText y := by
    intro y
    unfold yearText
    split_ifs <;> simp [space_notMem_padDigits, hminus, hplus]
  unfold toISOString at h
  split_ifs at h
  rw [Option.some.injEq] at h
  rw [← h]
  simp [space_notMem_padDigits, hyear, hminus, hT, hcolon, hdot, hZ]

/-- The engine takes the header of a client for sixty seconds around the time at which it was
made, by the engine's clock, for the key that made it. -/
theorem authenticateCaller_buildAuthHeader (k : Keypair c) {t now : ℤ} {header : JsString}
    (h : k.buildAuthHeader t = some header) :
    authenticateCaller c now (some header) =
      if |now - t| ≤ MAX_AUTH_DRIFT_MS then .ok k.did
      else .error (.refused
        (unauthorized (js "Authorization timestamp too far from server time"))) := by
  simp only [buildAuthHeader, Option.bind_eq_bind, Option.bind_eq_some_iff, Option.pure_def,
    Option.some.injEq] at h
  obtain ⟨timestamp, htime, rfl⟩ := h
  have hscheme : js "GhostBazaar-Ed25519 " = [71, 104, 111, 115, 116, 66, 97, 122, 97, 97, 114, 45,
      69, 100, 50, 53, 53, 49, 57, 32] := by decide +kernel
  have hspace : js " " = [32] := by decide +kernel
  generalize hsignature : k.signEd25519 (objectSigningPayload c (authPayload k.did timestamp)) =
    signature
  have hdid : ∀ u ∈ k.did, (u == (32 : CodeUnit)) = false := by
    intro u hu
    simpa using ne_of_mem_of_not_mem hu k.space_notMem_did
  have htimestamp : ∀ u ∈ timestamp, (u == (32 : CodeUnit)) = false := by
    intro u hu
    simpa using ne_of_mem_of_not_mem hu (space_notMem_toISOString htime)
  have hlast : ∀ u ∈ signature, (u == (32 : CodeUnit)) = false := by
    intro u hu
    simpa using ne_of_mem_of_not_mem hu (hsignature ▸ k.space_notMem_signEd25519 _)
  have hparts : (k.did ++ 32 :: (timestamp ++ 32 :: signature)).splitOn 32 =
      [k.did, timestamp, signature] := by
    rw [List.splitOn_eq_splitOnP, List.splitOnP_append_cons_of_forall_mem hdid 32 (by decide),
      List.splitOnP_append_cons_of_forall_mem htimestamp 32 (by decide),
      List.splitOnP_eq_singleton hlast]
  have hheader : js "GhostBazaar-Ed25519 " ++ k.did ++ js " " ++ timestamp ++ js " " ++ signature =
      js "GhostBazaar-Ed25519 " ++ (k.did ++ 32 :: (timestamp ++ 32 :: signature)) := by
    simp [hspace]
  have hdrop : (js "GhostBazaar-Ed25519 " ++ (k.did ++ 32 :: (timestamp ++ 32 :: signature))).drop
      20 = k.did ++ 32 :: (timestamp ++ 32 :: signature) := by
    rw [hscheme]
    rfl
  have hempty : (js "GhostBazaar-Ed25519 " ++
      (k.did ++ 32 :: (timestamp ++ 32 :: signature))).isEmpty = false := by
    rw [hscheme]
    rfl
  have hstarts : startsWith (js "GhostBazaar-Ed25519 " ++
      (k.did ++ 32 :: (timestamp ++ 32 :: signature))) (js "GhostBazaar-Ed25519 ") = true := by
    simp [startsWith]
  have hverified := hsignature ▸ k.verify_signEd25519 _
  rw [authPayload] at hverified
  rw [hheader, authenticateCaller]
  simp only [Option.filter_some, hempty, Bool.not_false, if_true, orThrow, hstarts, hdrop, hparts,
    k.didToPublicKey_did, dateParse_toISOString c.legacyDate htime, require, ensure, hverified,
    Bind.bind, Except.bind, Pure.pure, Except.pure]
  split_ifs <;> rfl

/-! ### Control envelopes -/

/-- The envelope of `accept` and `decline`, issued at one reading of the clock and expiring a
minute after the next. -/
def controlEnvelope (k : Keypair c) (action : ControlAction)
    (envelopeId rfqId sessionRevision : JsString) (payload : Members) (issued later : ℤ) :
    Option ControlEnvelope := do
  let issuedAt ← toISOString issued
  let expiresAt ← toISOString (later + 60000)
  let envelope : ControlEnvelope :=
    ⟨envelopeId, action, rfqId, sessionRevision, payload, issuedAt, expiresAt, []⟩
  return { envelope with
    signature := k.signEd25519 (objectSigningPayload c envelope.members) }

def accept (k : Keypair c) (envelopeId rfqId sellerId offerId sessionRevision : JsString)
    (issued later : ℤ) : Option ControlEnvelope :=
  k.controlEnvelope .accept envelopeId rfqId sessionRevision
    [(js "seller", .str sellerId), (js "offer_id", .str offerId)] issued later

def decline (k : Keypair c) (envelopeId rfqId sellerDid sessionRevision : JsString)
    (issued later : ℤ) : Option ControlEnvelope :=
  k.controlEnvelope .decline envelopeId rfqId sessionRevision
    [(js "seller", .str sellerDid)] issued later

end Keypair

/-- The signing payload leaves out the signature that the envelope carries. -/
theorem objectSigningPayload_members (c : Crypto) (e : ControlEnvelope) (signature : JsString) :
    objectSigningPayload c { e with signature }.members = objectSigningPayload c e.members := by
  have hkeys : ∀ key ∈ [js "envelope_id", js "action", js "rfq_id", js "session_revision",
      js "payload", js "issued_at", js "expires_at"], key ≠ js "signature" := by decide +kernel
  simp only [List.forall_mem_cons] at hkeys
  obtain ⟨h₁, h₂, h₃, h₄, h₅, h₆, h₇, -⟩ := hkeys
  simp [objectSigningPayload, ControlEnvelope.members, spread, JsMap.setEntries, h₁, h₂, h₃, h₄,
    h₅, h₆, h₇]

theorem field_members (e : ControlEnvelope) (key : JsString) :
    field (.obj e.members) key = .ok (e.members.lookup key) := rfl

theorem lookup_members (e : ControlEnvelope) :
    e.members.lookup (js "envelope_id") = some (.str e.envelopeId) ∧
    e.members.lookup (js "action") = some (.str e.action.text) ∧
    e.members.lookup (js "rfq_id") = some (.str e.rfqId) ∧
    e.members.lookup (js "session_revision") = some (.str e.sessionRevision) ∧
    e.members.lookup (js "payload") = some (.obj e.payload) ∧
    e.members.lookup (js "issued_at") = some (.str e.issuedAt) ∧
    e.members.lookup (js "expires_at") = some (.str e.expiresAt) ∧
    e.members.lookup (js "signature") = some (.str e.signature) :=
  ⟨rfl, rfl, rfl, rfl, rfl, rfl, rfl, rfl⟩

/-- What is left of the validation for a body that has the form of an envelope. -/
theorem validateControlEnvelope_members {env : EngineEnv} {now : ℤ}
    {tombstones : EnvelopeTombstones} {e e' : ControlEnvelope} {signerDid code : JsString} :
    validateControlEnvelope env now tombstones (.obj e.members) e.action e.rfqId signerDid code =
      .ok e' ↔ e.envelopeId ≠ [] ∧ e.sessionRevision ≠ [] ∧
        (∃ issuedMs, dateParse env.legacyDate e.issuedAt = some issuedMs ∧
          |now - issuedMs| ≤ MAX_ISSUED_AGE_MS) ∧
        isExpired now (dateParse env.legacyDate e.expiresAt) = false ∧
        tombstones.isUsed e.envelopeId = false ∧
        preCheckSignatureFormat env.toCrypto (some (.str e.signature)) (some (.str signerDid)) =
          .ok () ∧ e.SignedBy env signerDid ∧ e' = e := by
  obtain ⟨hid, haction, hrfq, hrevision, hpayload, hissued, hexpires, hsignature⟩ := lookup_members e
  simp only [validateControlEnvelope, envelopeText, checkAction, field_members, hid, haction, hrfq,
    hrevision, hpayload, hissued, hexpires, hsignature, bind_eq_ok, orThrow_eq_ok, require_eq_ok,
    pure_eq_ok, Engine.verifySignature_eq_ok, if_true, Except.ok.injEq, exists_eq_left', asPlainObject,
    JsValue.asStr, Json.asStr, Option.bind_some]
  constructor
  · rintro ⟨id, hid, -, -, -, -, revision, hrevision, _, ⟨⟩, _, hissued, _, hexpires, _, hsignature,
      ms, hms, -, hage, -, hexpired, -, hused, ⟨⟩, hformat, -, hsigned, rfl⟩
    rw [Option.filter_eq_some_iff, Option.some.injEq] at hid hrevision hissued hexpires hsignature
    obtain ⟨rfl, hid⟩ := hid
    obtain ⟨rfl, hrevision⟩ := hrevision
    obtain ⟨rfl, -⟩ := hissued
    obtain ⟨rfl, -⟩ := hexpires
    obtain ⟨rfl, -⟩ := hsignature
    exact ⟨by simpa using hid, by simpa using hrevision, ⟨ms, hms, hage⟩, hexpired, hused, hformat,
      hsigned, rfl⟩
  · rintro ⟨hid, hrevision, ⟨ms, hms, hage⟩, hexpired, hused, hformat, hsigned, rfl⟩
    exact ⟨_, by simpa using hid, (), trivial, (), trivial, _, by simpa using hrevision, _, rfl, _,
      by simp, _, by simp, _, by simp, ms, hms, (), hage, (), hexpired, (), hused, (), hformat, (),
      hsigned, rfl⟩

namespace Keypair

/-- The engine takes an envelope of a client exactly while it is a minute old at most, has not
expired and its id has not been used; the party it is expected of is the key that signed it. -/
theorem validateControlEnvelope_iff {env : EngineEnv} (k : Keypair env.toCrypto)
    {action : ControlAction} {envelopeId rfqId sessionRevision : JsString} {payload : Members}
    {issued later now : ℤ} {e e' : ControlEnvelope} {tombstones : EnvelopeTombstones}
    {code : JsString} (hid : envelopeId ≠ []) (hrevision : sessionRevision ≠ [])
    (he : k.controlEnvelope action envelopeId rfqId sessionRevision payload issued later = some e) :
    validateControlEnvelope env now tombstones (.obj e.members) action rfqId k.did code = .ok e' ↔
      e' = e ∧ |now - issued| ≤ MAX_ISSUED_AGE_MS ∧ now < later + 60000 ∧
        tombstones.isUsed envelopeId = false := by
  simp only [controlEnvelope, Option.bind_eq_bind, Option.bind_eq_some_iff, Option.pure_def,
    Option.some.injEq] at he
  obtain ⟨issuedAt, hissued, expiresAt, hexpires, rfl⟩ := he
  generalize hunsigned : (⟨envelopeId, action, rfqId, sessionRevision, payload, issuedAt, expiresAt,
    []⟩ : ControlEnvelope) = unsigned
  subst hunsigned
  have hsigned : ({ (⟨envelopeId, action, rfqId, sessionRevision, payload, issuedAt, expiresAt,
      []⟩ : ControlEnvelope) with signature := k.signEd25519 (objectSigningPayload env.toCrypto
        (⟨envelopeId, action, rfqId, sessionRevision, payload, issuedAt, expiresAt,
          []⟩ : ControlEnvelope).members) }).SignedBy env k.did := by
    refine ⟨k.publicKey, k.didToPublicKey_did, ?_⟩
    rw [objectSigningPayload_members]
    exact k.verify_signEd25519 _
  refine validateControlEnvelope_members.trans ?_
  simp only [hid, hrevision, dateParse_toISOString env.legacyDate hissued,
    dateParse_toISOString env.legacyDate hexpires, isExpired, k.preCheck_signEd25519, hsigned,
    ne_eq, not_false_eq_true, true_and, Option.some.injEq, exists_eq_left', decide_eq_false_iff_not,
    not_le]
  constructor
  · rintro ⟨hage, hexpired, hused, rfl⟩
    exact ⟨rfl, hage, hexpired, hused⟩
  · rintro ⟨rfl, hage, hexpired, hused⟩
    exact ⟨hage, hexpired, hused, rfl⟩

end Keypair
end GhostBazaar.Agents
