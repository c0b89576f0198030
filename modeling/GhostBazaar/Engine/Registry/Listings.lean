import GhostBazaar.Engine.Routes.Listings
import GhostBazaar.Engine.SignedPayloads
import GhostBazaar.Engine.SqliteEventStore

/-! Listings and the durable table that holds them. Its text columns hold the texts as they are,
beside the JSON text of the whole listing. -/
namespace GhostBazaar.Engine.Registry
open Js GhostBazaar.Core

/-! ### Listings -/

structure Listing where
  listingId : JsString
  seller : JsString
  title : JsString
  category : JsString
  serviceType : JsString
  negotiationEndpoint : JsString
  paymentEndpoint : JsString
  baseTerms : Members
  negotiationProfile : Option Json
  registryAgentId : Option JsString

def Listing.fields (l : Listing) : List (JsString × JsValue) :=
  [(js "listing_id", some (.str l.listingId)), (js "seller", some (.str l.seller)),
    (js "title", some (.str l.title)), (js "category", some (.str l.category)),
    (js "service_type", some (.str l.serviceType)),
    (js "negotiation_endpoint", some (.str l.negotiationEndpoint)),
    (js "payment_endpoint", some (.str l.paymentEndpoint)),
    (js "base_terms", some (.obj l.baseTerms)), (js "negotiation_profile", l.negotiationProfile),
    (js "registry_agent_id", l.registryAgentId.map .str)]

/-- The object, in the order of its literal. -/
def Listing.members (l : Listing) : Members := defined l.fields

/-- Its terms and its profile come from JSON. -/
structure Listing.Ordinary (l : Listing) : Prop where
  baseTerms : (Json.obj l.baseTerms).Ordinary
  negotiationProfile : ∀ v ∈ l.negotiationProfile, v.Ordinary

theorem Listing.keys_nodup (l : Listing) : (l.fields.map Prod.fst).Nodup := by
  have hkeys : [js "listing_id", js "seller", js "title", js "category", js "service_type",
      js "negotiation_endpoint", js "payment_endpoint", js "base_terms", js "negotiation_profile",
      js "registry_agent_id"].Nodup := by decide +kernel
  exact hkeys

theorem Listing.Ordinary.members {l : Listing} (h : l.Ordinary) :
    (Json.obj l.members).Ordinary := by
  have hnames : ∀ k ∈ [js "listing_id", js "seller", js "title", js "category", js "service_type",
      js "negotiation_endpoint", js "payment_endpoint", js "base_terms", js "negotiation_profile",
      js "registry_agent_id"], k.any (fun u => !isDigitUnit u) = true := by decide +kernel
  apply defined_ordinary l.keys_nodup hnames
  intro f hf v hv
  simp only [fields, List.mem_cons, List.not_mem_nil, or_false] at hf
  rcases hf with rfl | rfl | rfl | rfl | rfl | rfl | rfl | rfl | rfl | rfl
  case inr.inr.inr.inr.inr.inr.inr.inl => exact Option.some.inj hv ▸ h.baseTerms
  case inr.inr.inr.inr.inr.inr.inr.inr.inl => exact h.negotiationProfile v hv
  case inr.inr.inr.inr.inr.inr.inr.inr.inr =>
    obtain ⟨id, -, rfl⟩ := Option.map_eq_some_iff.mp hv
    trivial
  all_goals
    exact Option.some.inj hv ▸ trivial

/-! ### Ids of registry agents -/

/-- `/^[0-9]+$/` -/
def isDecimalText (s : JsString) : Bool := !s.isEmpty && s.all isDigitUnit

/-- A positive decimal without leading zeros. The two callers differ in their errors. -/
def normalizeAgentId {ε : Type} (nonEmpty decimal positive : ε) (agentId : JsString) :
    Except ε JsString := do
  ensure ((trim agentId).isEmpty = false) nonEmpty
  ensure (isDecimalText agentId = true) decimal
  ensure (0 < digitsValue agentId) positive
  return natText (digitsValue agentId)

def normalizeRegistryAgentIdForStorage : JsString → Except JsString JsString :=
  normalizeAgentId (js "ListingStore: registry_agent_id must be a non-empty decimal string")
    (js "ListingStore: registry_agent_id must be a decimal string")
    (js "ListingStore: registry_agent_id must be positive")

theorem normalizeAgentId_eq_ok {ε : Type} {nonEmpty decimal positive : ε} {agentId id : JsString} :
    normalizeAgentId nonEmpty decimal positive agentId = .ok id ↔
      (trim agentId).isEmpty = false ∧ isDecimalText agentId = true ∧ 0 < digitsValue agentId ∧
        id = natText (digitsValue agentId) := by
  simp only [normalizeAgentId, bind_eq_ok, ensure_eq_ok, pure_eq_ok]
  constructor
  · rintro ⟨-, hempty, -, hdecimal, -, hpos, rfl⟩
    exact ⟨hempty, hdecimal, hpos, rfl⟩
  · rintro ⟨hempty, hdecimal, hpos, rfl⟩
    exact ⟨(), hempty, (), hdecimal, (), hpos, rfl⟩

theorem trim_digits {s : JsString} (h : ∀ u ∈ s, isDigitUnit u = true) : trim s = s := by
  have hkeep : ∀ t : JsString, (∀ u ∈ t, isDigitUnit u = true) → t.dropWhile isSpaceUnit = t := by
    intro t ht
    cases t with
    | nil => rfl
    | cons u t =>
      have hu := ht u List.mem_cons_self
      rw [List.dropWhile_cons_of_neg]
      simp only [isDigitUnit, decide_eq_true_eq] at hu
      simp only [isSpaceUnit, List.mem_cons, List.not_mem_nil, or_false, decide_eq_true_eq]
      omega
  rw [trim, hkeep s h, hkeep s.reverse (by simpa using h), List.reverse_reverse]

/-- What is normal stays as it is. -/
theorem normalizeAgentId_normal {ε : Type} {nonEmpty decimal positive : ε} {n : ℕ} (hn : 0 < n) :
    normalizeAgentId nonEmpty decimal positive (natText n) = .ok (natText n) := by
  obtain ⟨hne, hdigits, hvalue⟩ := natText_digits n
  rw [normalizeAgentId_eq_ok, trim_digits hdigits, hvalue]
  refine ⟨by simpa using hne, ?_, hn, rfl⟩
  rw [isDecimalText, Bool.and_eq_true, List.all_eq_true]
  exact ⟨by simpa using hne, hdigits⟩

/-! ### normalizeListingForStorage -/

/-- `/^https:\/\/.+/` -/
def isHttpsUrl (s : JsString) : Bool :=
  startsWith s (js "https://") &&
    (s.drop 8).head?.any fun u => !decide (u.val ∈ [10, 13, 0x2028, 0x2029])

def normalizeListingForStorage (c : Crypto) (listing : Listing) : Except JsString Listing := do
  ensure (listing.listingId ≠ []) (js "ListingStore: listing_id is required")
  ensure ((c.didToPublicKey listing.seller).isSome)
    (js "ListingStore: seller must be a valid did:key DID, got \"" ++ listing.seller ++ js "\"")
  ensure (isHttpsUrl listing.negotiationEndpoint = true)
    (js "ListingStore: negotiation_endpoint must be an HTTPS URL")
  ensure (isHttpsUrl listing.paymentEndpoint = true)
    (js "ListingStore: payment_endpoint must be an HTTPS URL")
  ensure (listing.serviceType ≠ []) (js "ListingStore: service_type is required")
  match listing.registryAgentId with
  | some agentId => do
    let normalized ← normalizeRegistryAgentIdForStorage agentId
    return { listing with registryAgentId := some normalized }
  | none => return listing

/-- A listing that the stores accept. -/
structure Listing.Acceptable (c : Crypto) (l : Listing) : Prop where
  listingId : l.listingId ≠ []
  seller : (c.didToPublicKey l.seller).isSome
  negotiationEndpoint : isHttpsUrl l.negotiationEndpoint = true
  paymentEndpoint : isHttpsUrl l.paymentEndpoint = true
  serviceType : l.serviceType ≠ []

theorem normalizeListingForStorage_eq_ok {c : Crypto} {listing normalized : Listing} :
    normalizeListingForStorage c listing = .ok normalized ↔ listing.Acceptable c ∧
      match listing.registryAgentId with
      | some agentId => ∃ id, normalizeRegistryAgentIdForStorage agentId = .ok id ∧
          normalized = { listing with registryAgentId := some id }
      | none => normalized = listing := by
  simp only [normalizeListingForStorage, bind_eq_ok, ensure_eq_ok]
  constructor
  · rintro ⟨-, hid, -, hseller, -, hnegotiation, -, hpayment, -, htype, h⟩
    refine ⟨⟨hid, hseller, hnegotiation, hpayment, htype⟩, ?_⟩
    cases hagent : listing.registryAgentId with
    | none =>
      rw [hagent] at h
      exact (pure_eq_ok.mp h).symm
    | some agentId =>
      simp only [hagent, bind_eq_ok, pure_eq_ok] at h
      obtain ⟨id, hnormal, rfl⟩ := h
      exact ⟨id, hnormal, rfl⟩
  · rintro ⟨⟨hid, hseller, hnegotiation, hpayment, htype⟩, h⟩
    refine ⟨(), hid, (), hseller, (), hnegotiation, (), hpayment, (), htype, ?_⟩
    cases hagent : listing.registryAgentId with
    | none =>
      rw [hagent] at h
      exact pure_eq_ok.mpr h.symm
    | some agentId =>
      simp only [hagent] at h
      obtain ⟨id, hnormal, rfl⟩ := h
      simp only [bind_eq_ok, pure_eq_ok]
      exact ⟨id, hnormal, rfl⟩

theorem normalizeListingForStorage_ordinary {c : Crypto} {listing normalized : Listing}
    (h : normalizeListingForStorage c listing = .ok normalized) (hordinary : listing.Ordinary) :
    normalized.Ordinary := by
  have hnormal := (normalizeListingForStorage_eq_ok.mp h).2
  cases hagent : listing.registryAgentId with
  | none =>
    rw [hagent] at hnormal
    exact hnormal ▸ hordinary
  | some agentId =>
    rw [hagent] at hnormal
    obtain ⟨id, -, rfl⟩ := hnormal
    exact ⟨hordinary.baseTerms, hordinary.negotiationProfile⟩

/-! ### The table -/

def MAX_LISTINGS : ℕ := 10000

structure ListingRow where
  listingId : JsString
  seller : JsString
  serviceType : JsString
  payload : JsString
  /-- The column was written by `JSON.stringify`. -/
  readable : (parseRecord payload).isSome

def rowToListing (row : ListingRow) : Members := (parseRecord row.payload).get row.readable

def newRow (l : Listing) : ListingRow where
  listingId := l.listingId
  seller := l.seller
  serviceType := l.serviceType
  payload := textUnits (stringify (.obj l.members))
  readable := by rw [parseRecord_stringify]; rfl

theorem rowToListing_newRow {l : Listing} (h : l.Ordinary) : rowToListing (newRow l) = l.members := by
  have hread := parseRecord_ordinary h.members
  simp only [rowToListing, newRow, hread, Option.get_some]

/-- The table `listings`, in the order of its inserts. -/
structure SqliteListingStore where
  rows : List ListingRow
  unique : (rows.map ListingRow.listingId).Nodup

namespace SqliteListingStore

def empty : SqliteListingStore := ⟨[], List.nodup_nil⟩

def insert (s : SqliteListingStore) (l : Listing)
    (hfresh : l.listingId ∉ s.rows.map ListingRow.listingId) : SqliteListingStore where
  rows := s.rows ++ [newRow l]
  unique := by
    rw [List.map_append, List.nodup_append]
    exact ⟨s.unique, List.nodup_singleton _, fun a ha b hb => by
      rw [List.mem_singleton.mp hb]
      exact fun h : a = l.listingId => hfresh (h ▸ ha)⟩

def add (c : Crypto) (s : SqliteListingStore) (listing : Listing) :
    Except JsString SqliteListingStore := do
  ensure (s.rows.length < MAX_LISTINGS) (js "ListingStore: capacity limit reached (10000)")
  let normalized ← normalizeListingForStorage c listing
  if hfresh : normalized.listingId ∉ s.rows.map ListingRow.listingId then
    return s.insert normalized hfresh
  else throw (js "ListingStore: duplicate listing_id \"" ++ normalized.listingId ++ js "\"")

def getRow (s : SqliteListingStore) (listingId : JsString) : Option ListingRow :=
  s.rows.find? fun row => decide (row.listingId = listingId)

def getById (s : SqliteListingStore) (listingId : JsString) : Option Members :=
  (s.getRow listingId).map rowToListing

theorem add_eq_ok {c : Crypto} {s s' : SqliteListingStore} {listing : Listing}
    (h : s.add c listing = .ok s') : s.rows.length < MAX_LISTINGS ∧
      ∃ normalized hfresh, normalizeListingForStorage c listing = .ok normalized ∧
        s' = s.insert normalized hfresh := by
  simp only [add, bind_eq_ok, ensure_eq_ok] at h
  obtain ⟨-, hroom, normalized, hnormal, h⟩ := h
  split_ifs at h with hfresh
  exact ⟨hroom, normalized, hfresh, hnormal, (pure_eq_ok.mp h).symm⟩

theorem getRow_eq_some {s : SqliteListingStore} {listingId : JsString} {row : ListingRow} :
    s.getRow listingId = some row ↔ row ∈ s.rows ∧ row.listingId = listingId := by
  constructor
  · intro h
    rw [getRow] at h
    have hid := List.find?_some h
    exact ⟨List.mem_of_find?_eq_some h, by simpa using hid⟩
  · rintro ⟨hmem, rfl⟩
    cases hfound : s.getRow row.listingId with
    | none =>
      have hnone := List.find?_eq_none.mp hfound row hmem
      simp at hnone
    | some other =>
      rw [getRow] at hfound
      have hother := List.find?_some hfound
      rw [decide_eq_true_eq] at hother
      exact congrArg some (List.inj_on_of_nodup_map s.unique (List.mem_of_find?_eq_some hfound)
        hmem hother)

end SqliteListingStore
end GhostBazaar.Engine.Registry
