import GhostBazaar.Engine.ListingEnricher
import GhostBazaar.Engine.Registry.RegistryCache
import GhostBazaar.Engine.SessionLock
import GhostBazaar.Transition

/-! The listing routes in steps, each of them one synchronous segment: a request waits for the
verification of its signature and for the agent registry, and others run in between. -/
namespace GhostBazaar.Engine.Registry
open Js GhostBazaar.Core Transition

/-! ### The agent registry -/

def invalidRegistryAgentId (message : JsString) : Failure EngineError :=
  .refused ⟨422, js "invalid_registry_agent_id", message⟩

def normalizeRegistryAgentId : JsString → Handling JsString :=
  normalizeAgentId
    (invalidRegistryAgentId (js "registry_agent_id must be a non-empty decimal string"))
    (invalidRegistryAgentId (js "registry_agent_id must be a decimal string"))
    (invalidRegistryAgentId (js "registry_agent_id must be positive"))

/-- `verifyRegistryAgentBinding`, once the registry has answered. -/
def checkBinding (agentId sellerDid : JsString) (discovered : Option DiscoveredAgent) :
    Handling JsString := do
  let agent ← orThrow discovered (invalidRegistryAgentId (js "Registry agent not found"))
  ensure (natText agent.agentId = agentId)
    (invalidRegistryAgentId (js "Registry agent id does not match requested binding"))
  ensure (agent.did = sellerDid) (.refused ⟨422, js "registry_did_mismatch",
    js "Registry agent DID does not match listing seller"⟩)
  return agentId

/-- `Math.max(0, Math.min(100, score))` -/
def clampScore (score : JsNumber) : JsNumber :=
  let capped := if score.le (.ofNat 100) then score else .ofNat 100
  if JsNumber.zero.le capped then capped else .zero

def atLeastZero (x : JsNumber) : JsNumber := if JsNumber.zero.le x then x else .zero

def enrichment (agent : DiscoveredAgent) : Members :=
  [(js "agentId", .str (natText agent.agentId)),
    (js "name", .str (ListingEnricher.sanitizeString agent.name)),
    (js "reputationScore", (agent.reputationScore.map fun x => Json.num (clampScore x)).getD .null),
    (js "totalFeedbacks", .num (atLeastZero agent.totalFeedbacks))]

/-- `enrichListing`, once the registry has answered for the id of the listing. -/
def enrichListing (listing : Members) (agentId : JsString) (discovered : Option DiscoveredAgent) :
    Members :=
  match discovered with
  | none => listing
  | some agent =>
    if natText agent.agentId = agentId ∧ listing.lookup (js "seller") = some (.str agent.did) then
      spread listing (js "registry") (.obj (enrichment agent))
    else listing

/-! ### POST /listings -/

def buildListingForStorage (body : Members) (verifiedRegistryAgentId : Option JsString) :
    Listing where
  listingId := castText (body.lookup (js "listing_id"))
  seller := castText (body.lookup (js "seller"))
  title := castText (body.lookup (js "title"))
  category := castText (body.lookup (js "category"))
  serviceType := castText (body.lookup (js "service_type"))
  negotiationEndpoint := castText (body.lookup (js "negotiation_endpoint"))
  paymentEndpoint := castText (body.lookup (js "payment_endpoint"))
  baseTerms := (asPlainObject (body.lookup (js "base_terms"))).getD []
  negotiationProfile := body.lookup (js "negotiation_profile")
  registryAgentId := verifiedRegistryAgentId

def mapListingStoreError (message : JsString) : Failure EngineError :=
  if includes message (js "duplicate listing_id") then
    .refused ⟨409, js "duplicate_listing", message⟩
  else if includes message (js "capacity limit reached") then
    .refused ⟨503, js "capacity_exceeded", message⟩
  else if startsWith message (js "ListingStore:") then
    .refused ⟨422, js "invalid_listing", message⟩
  else .thrown (.error message)

/-- The listings that are not there are added. What was added before an error stays. -/
def seedListingsIfMissing (c : Crypto) :
    SqliteListingStore → List Listing → SqliteListingStore × Except JsString ℕ
  | s, [] => (s, .ok 0)
  | s, listing :: seeds =>
    if (s.getById listing.listingId).isSome then seedListingsIfMissing c s seeds
    else
      match s.add c listing with
      | .ok s' =>
        let (s', inserted) := seedListingsIfMissing c s' seeds
        (s', inserted.map (· + 1))
      | .error message =>
        if includes message (js "duplicate listing_id") then seedListingsIfMissing c s seeds
        else (s, .error message)

/-! ### The server -/

deriving instance DecidableEq for Reply

structure RegistrationEnv where
  crypto : Crypto
  cacheTtlMs : ℤ
  seeds : List Listing
  seeds_ordinary : ∀ l ∈ seeds, l.Ordinary

/-- What an answer of the registry is for. -/
inductive Purpose where
  | bind (body : Members)
  | enrich (listing : Members)
  deriving DecidableEq

inductive RegistrationTask where
  | idle
  /-- The body is signed by its seller. -/
  | verified (body : Members)
  | discovering (purpose : Purpose) (agentId : JsString) (began : ℤ)
  | discovered (purpose : Purpose) (agentId : JsString) (value : Option DiscoveredAgent)
  | unbound (body : Members)
  | answered (reply : Handling Reply)
  deriving DecidableEq

/-- An answer of the registry. -/
structure Discovery where
  agentId : JsString
  began : ℤ
  value : Option DiscoveredAgent

structure RegistrationServer where
  listingStore : SqliteListingStore
  registryCache : RegistryCache
  up : Bool
  task : CallId → RegistrationTask
  /-- A record of the answers of the registry. -/
  discoveries : List Discovery
  /-- A record of the listings that were answered with 201. -/
  created : List Listing

inductive RegistrationLabel where
  | register (t : CallId) (text : JsString)
  /-- `GET /listings/:id`, or one listing of `GET /listings`. -/
  | read (t : CallId) (listingId : JsString) (now : ℤ)
  /-- What the request waits for within the process is there. -/
  | resume (t : CallId) (now : ℤ)
  | registryAnswers (t : CallId) (value : Option DiscoveredAgent)
  | registryFails (t : CallId)
  /-- A new process over the same database, with or without seeding. -/
  | restart (seeding : Bool)

namespace RegistrationServer

def empty : RegistrationServer := ⟨.empty, .empty, false, fun _ => .idle, [], []⟩

def setTask (e : RegistrationServer) (t : CallId) (task : RegistrationTask) : RegistrationServer :=
  { e with task := Function.update e.task t task }

/-- `discoverRegistryAgent`, up to its first await. -/
def discover (e : RegistrationServer) (t : CallId) (purpose : Purpose) (agentId : JsString)
    (now : ℤ) : RegistrationServer :=
  match RegistryCache.cached e.registryCache now agentId with
  | some entry => e.setTask t (.discovered purpose agentId entry.value)
  | none => e.setTask t (.discovering purpose agentId now)

def readListing (e : RegistrationServer) (t : CallId) (listingId : JsString) (now : ℤ) :
    RegistrationServer :=
  match e.listingStore.getById listingId with
  | none => e.setTask t (.answered (.error (.refused
      ⟨404, js "listing_not_found", js "Listing not found"⟩)))
  | some listing =>
    match (JsValue.asStr (listing.lookup (js "registry_agent_id"))).filter fun s => !s.isEmpty with
    | none => e.setTask t (.answered (.ok ⟨200, listing⟩))
    | some registryAgentId =>
      match normalizeRegistryAgentId registryAgentId with
      | .ok agentId => e.discover t (.enrich listing) agentId now
      | .error _ => e.setTask t (.answered (.ok ⟨200, listing⟩))

/-- The end of a registration. -/
def storeListing (env : RegistrationEnv) (e : RegistrationServer) (t : CallId) (body : Members)
    (verifiedRegistryAgentId : Option JsString) : RegistrationServer :=
  let listing := buildListingForStorage body verifiedRegistryAgentId
  match e.listingStore.add env.crypto listing with
  | .ok listingStore =>
    { e with listingStore, created := e.created ++ [listing] }.setTask t
      (.answered (.ok ⟨201, listing.members⟩))
  | .error message => e.setTask t (.answered (.error (mapListingStoreError message)))

/-- The start of `verifyRegistryAgentBinding`. -/
def startBinding (e : RegistrationServer) (t : CallId) (body : Members) (now : ℤ) :
    RegistrationServer :=
  match JsValue.asStr (body.lookup (js "registry_agent_id")) with
  | none => e.setTask t (.unbound body)
  | some registryAgentId =>
    match normalizeRegistryAgentId registryAgentId with
    | .ok agentId => e.discover t (.bind body) agentId now
    | .error failure => e.setTask t (.answered (.error failure))

def finishDiscovery (env : RegistrationEnv) (e : RegistrationServer) (t : CallId)
    (purpose : Purpose) (agentId : JsString) (value : Option DiscoveredAgent) :
    RegistrationServer :=
  match purpose with
  | .bind body =>
    match checkBinding agentId (castText (body.lookup (js "seller"))) value with
    | .ok agentId => e.storeListing env t body (some agentId)
    | .error failure => e.setTask t (.answered (.error failure))
  | .enrich listing => e.setTask t (.answered (.ok ⟨200, enrichListing listing agentId value⟩))

def step (env : RegistrationEnv) (e : RegistrationServer) :
    RegistrationLabel → Option RegistrationServer
  | .register t text =>
    match e.up, e.task t with
    | true, .idle => some (e.setTask t (match checkListing env.crypto (parse text) with
        | .ok body => .verified body
        | .error failure => .answered (.error failure)))
    | _, _ => none
  | .read t listingId now =>
    match e.up, e.task t with
    | true, .idle => some (e.readListing t listingId now)
    | _, _ => none
  | .resume t now =>
    match e.task t with
    | .verified body => some (e.startBinding t body now)
    | .unbound body => some (e.storeListing env t body none)
    | .discovered purpose agentId value => some (e.finishDiscovery env t purpose agentId value)
    | _ => none
  | .registryAnswers t value =>
    match e.task t with
    | .discovering purpose agentId began =>
      let e : RegistrationServer := { e with
        registryCache := RegistryCache.store env.cacheTtlMs began agentId value e.registryCache
        discoveries := e.discoveries ++ [⟨agentId, began, value⟩] }
      some (e.setTask t (.discovered purpose agentId value))
    | _ => none
  | .registryFails t =>
    match e.task t with
    | .discovering (.bind _) _ _ => some (e.setTask t (.answered (.error (.refused
        ⟨503, js "registry_unavailable", js "Registry discovery is unavailable"⟩))))
    | .discovering (.enrich listing) _ _ => some (e.setTask t (.answered (.ok ⟨200, listing⟩)))
    | _ => none
  | .restart seeding =>
    let (listingStore, inserted) :=
      seedListingsIfMissing env.crypto e.listingStore (if seeding then env.seeds else [])
    -- a process that cannot seed does not come up
    some { e with
      listingStore
      registryCache := .empty
      up := succeeds inserted
      task := fun _ => .idle }

end RegistrationServer
end GhostBazaar.Engine.Registry
