import GhostBazaar.Engine.DeadlineEnforcer
import GhostBazaar.Engine.Routes.Settlement

/-! The callbacks that the routes and the enforcer pass to `withLock`, as data. -/
namespace GhostBazaar.Engine
open Js GhostBazaar.Core Settlement

/-- A callback with the variables it captures. -/
inductive Callback where
  | createRfq (body : Json)
  | submitOffer (body : Json)
  | sendCounter (body : Json)
  /-- `signer` is the buyer before the lock, for whom the envelope was verified. -/
  | accept (envelope : ControlEnvelope) (signer sellerDid offerId : JsString)
  /-- `signer` is the selected seller before the lock. -/
  | decline (envelope : ControlEnvelope) (signer : JsString)
  | sign (role : SigningRole) (signature : JsString)
  | readQuote (callerDid : JsString)
  | confirm (c : Confirmation)
  | expire
  | cosignTimeout

/-- How the synchronous start of a callback ends. -/
inductive LockedResult where
  | append (event : NegotiationEvent)
  | leave (reply : Option Reply)
  /-- Suspended at `verifyQuoteSignature`. -/
  | verify (role : SigningRole) (signature : JsString) (session : DerivedSession)

def appendOrLeave (reply : Option Reply) : Option NegotiationEvent → LockedResult
  | some event => .append event
  | none => .leave reply

def confirmReply (env : EngineEnv) (now : ℤ) (c : Confirmation) : Handling Reply :=
  match c.route with
  | .execute => executeReply env now c.result
  | .settleReport => .ok (reportReply c)

def confirmResult (env : EngineEnv) (now : ℤ) (c : Confirmation) :
    Option NegotiationEvent → Handling LockedResult
  | some event => .ok (.append event)
  | none => (confirmReply env now c).map fun reply => .leave (some reply)

/-- `existingEvents` is the log of the session, `session` what it derives. -/
def Callback.run (env : EngineEnv) (m : Moment) (listingStore : ListingStore)
    (rfqId : JsString) (existingEvents : List NegotiationEvent)
    (session : Option DerivedSession) : Callback → Handling LockedResult
  | .createRfq body => (lockedRfq m rfqId body session).map .append
  | .submitOffer body => (lockedOffer env m listingStore rfqId body session).map .append
  | .sendCounter body => (lockedCounter env m rfqId body session).map .append
  | .accept envelope _ sellerDid offerId =>
    (lockedAccept env m rfqId envelope sellerDid offerId session).map .append
  | .decline envelope signer => (lockedDecline env m rfqId envelope signer session).map .append
  | .sign .buyer signature => (lockedQuoteSign env m.now session).map (.verify .buyer signature)
  | .sign .seller signature => (lockedCosign env m.now session).map (.verify .seller signature)
  | .readQuote callerDid => (lockedQuoteRead callerDid session).map fun r => .leave (some r)
  | .confirm c => do
    let event ← lockedConfirm m rfqId c existingEvents
    confirmResult env m.now c event
  | .expire => (lockedExpire env m rfqId session).map (appendOrLeave none)
  | .cosignTimeout => (lockedCosignTimeout env m rfqId session).map (appendOrLeave none)

/-- The rest of a signing callback, once the signature has been verified. -/
def finishSign (env : EngineEnv) (m : Moment) (rfqId : JsString) (role : SigningRole)
    (signature : JsString) (session : DerivedSession) : Handling NegotiationEvent :=
  match role with
  | .buyer => finishQuoteSign env m rfqId signature session
  | .seller => finishCosign env m rfqId signature session

/-- The reply of the route after the append; `session` is the new state. -/
def Callback.reply (env : EngineEnv) (now : ℤ) (rfqId : JsString) (session : DerivedSession) :
    Callback → Handling (Option Reply)
  | .createRfq _ => .ok (some (rfqReply session))
  | .submitOffer body => .ok (some (offerReply rfqId body session))
  | .sendCounter body => .ok (some (counterReply rfqId body session))
  | .accept _ _ _ _ => .ok (session.unsignedQuote.map fun quote => ⟨200, spreadMembers quote⟩)
  | .decline _ _ => .ok (some (declineReply rfqId session))
  | .sign .buyer _ => .ok (session.unsignedQuote.map fun quote =>
      ⟨200, signedMembers quote session.buyerSignature none⟩)
  | .sign .seller _ => .ok (session.unsignedQuote.map fun quote =>
      ⟨200, signedMembers quote session.buyerSignature session.sellerSignature⟩)
  | .confirm c => (confirmReply env now c).map some
  | .readQuote _ | .expire | .cosignTimeout => .ok none

end GhostBazaar.Engine
