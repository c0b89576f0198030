import GhostBazaar.Engine.Middleware

/-! `POST /listings` up to the verification of the seller's signature. -/
namespace GhostBazaar.Engine
open Js GhostBazaar.Core

def ALLOWED_LISTING_REGISTRATION_FIELDS : List JsString :=
  [js "listing_id", js "seller", js "title", js "category", js "service_type",
    js "negotiation_endpoint", js "payment_endpoint", js "base_terms", js "negotiation_profile",
    js "registry_agent_id", js "signature"]

def requiredStrings : List JsString :=
  [js "listing_id", js "seller", js "title", js "category", js "service_type",
    js "negotiation_endpoint", js "payment_endpoint"]

def allowedStyles : List JsString :=
  [js "firm", js "flexible", js "competitive", js "deadline-sensitive"]

def invalidListing (message : JsString) : EngineError := ⟨422, js "invalid_listing", message⟩

/-- A loop over names that refuses the first bad one. -/
def refuseFirst (names : List JsString) (bad : JsString → Bool) (e : JsString → EngineError) :
    Handling Unit :=
  match names.find? bad with
  | some name => .error (.refused (e name))
  | none => .ok ()

@[simp] theorem refuseFirst_eq_ok {names : List JsString} {bad : JsString → Bool}
    {e : JsString → EngineError} {u : Unit} :
    refuseFirst names bad e = .ok u ↔ ∀ name ∈ names, bad name = false := by
  unfold refuseFirst
  cases h : names.find? bad with
  | none => simpa using List.find?_eq_none.mp h
  | some name =>
    have hmem := List.mem_of_find?_eq_some h
    have hbad := List.find?_some h
    simp only [reduceCtorEq, false_iff]
    intro hall
    rw [hall name hmem] at hbad
    cases hbad

def isNonEmptyText (v : JsValue) : Bool := v.asStr.any fun s => !(trim s).isEmpty

/-- `undefined`, or a value that passes the test. -/
def optionalField (v : JsValue) (test : Json → Bool) : Bool := v.all test

def isBoolean : Json → Bool
  | .bool _ => true
  | _ => false

def checkNegotiationProfile (profile : Members) : Handling Unit := do
  require ((JsValue.asStr (profile.lookup (js "style"))).any fun s => decide (s ∈ allowedStyles))
    (invalidListing (js "negotiation_profile.style is invalid"))
  require (optionalField (profile.lookup (js "max_rounds")) fun v => isPositiveInteger (some v))
    (invalidListing (js "negotiation_profile.max_rounds must be a positive integer"))
  require (optionalField (profile.lookup (js "accepts_counter")) isBoolean)
    (invalidListing (js "negotiation_profile.accepts_counter must be boolean"))

def validateListingRegistrationShape (body : Members) : Handling Unit := do
  refuseFirst (body.map Prod.fst) (fun field =>
    decide (field ∉ ALLOWED_LISTING_REGISTRATION_FIELDS))
    fun field => invalidListing
      (js "Unexpected field \"" ++ field ++ js "\" in listing registration")
  refuseFirst requiredStrings (fun field => !isNonEmptyText (body.lookup field))
    fun field => invalidListing (field ++ js " must be a non-empty string")
  require (asPlainObject (body.lookup (js "base_terms"))).isSome
    (invalidListing (js "base_terms must be an object"))
  require (optionalField (body.lookup (js "registry_agent_id")) fun v => v.asStr.isSome)
    (invalidListing (js "registry_agent_id must be a string when provided"))
  match body.lookup (js "negotiation_profile") with
  | none => return ()
  | some v => do
    let profile ← orThrow (asPlainObject (some v))
      (.refused (invalidListing (js "negotiation_profile must be an object")))
    checkNegotiationProfile profile

/-- The body of a registration that is signed by its seller. -/
def checkListing (c : Crypto) (body : Option Json) : Handling Members := do
  let body ← orThrow body (.refused (malformedPayload (js "Invalid JSON body")))
  let body ← orThrow (asPlainObject (some body))
    (.refused (malformedPayload (js "Listing body must be a plain object")))
  let signature ← orThrow (JsValue.asStr (body.lookup (js "signature")))
    (.refused (malformedPayload (js "Missing or invalid signature")))
  validateListingRegistrationShape body
  preCheckSignatureFormat c (some (.str signature)) (body.lookup (js "seller"))
  verifySignature c body signature ((JsValue.asStr (body.lookup (js "seller"))).getD [])
    (js "invalid_seller_signature")
  return body

end GhostBazaar.Engine
