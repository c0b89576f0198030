import GhostBazaar.Engine.Registry.Registration
import GhostBazaar.Settlement.SettlementSound

/-! Where the listings come from. Over any run, whatever is interleaved and whenever the process is
restarted: a row is a seed or was signed by its seller and bound to an agent of that seller, it is
never changed, and an answer of the registry is only used for its own agent and while it is fresh. -/
namespace GhostBazaar.Engine.Registry
open Js GhostBazaar.Core Transition

/-! ### What a listing comes from -/

/-- The body was accepted with the signature of its seller. -/
def SignedBody (env : RegistrationEnv) (body : Members) : Prop :=
  ∃ text, checkListing env.crypto (parse text) = .ok body

/-- The id that a body asks for, in its normal form. -/
def AsksFor (body : Members) (agentId : JsString) : Prop :=
  ∃ s, JsValue.asStr (body.lookup (js "registry_agent_id")) = some s ∧
    normalizeRegistryAgentId s = .ok agentId

/-- The registry has said this about the agent of this id. -/
def Said (discoveries : List Discovery) (agentId : JsString) (value : Option DiscoveredAgent) : Prop :=
  ∃ d ∈ discoveries, d.agentId = agentId ∧ d.value = value

/-- A listing without a binding asked for none; with one, the registry said that the agent belongs
to the seller. -/
def Bound (discoveries : List Discovery) (body : Members) : Option JsString → Prop
  | none => JsValue.asStr (body.lookup (js "registry_agent_id")) = none
  | some agentId => AsksFor body agentId ∧ ∃ agent, Said discoveries agentId (some agent) ∧
      natText agent.agentId = agentId ∧ agent.did = castText (body.lookup (js "seller"))

inductive Registered (env : RegistrationEnv) (discoveries : List Discovery) : Listing → Prop
  | seed {seed l : Listing} (hseed : seed ∈ env.seeds)
      (hnormal : normalizeListingForStorage env.crypto seed = .ok l) :
      Registered env discoveries l
  | signed {body : Members} {agentId : Option JsString} (hbody : SignedBody env body)
      (hbound : Bound discoveries body agentId) :
      Registered env discoveries (buildListingForStorage body agentId)

variable {env : RegistrationEnv} {discoveries more : List Discovery}

theorem Said.mono {agentId : JsString} {value : Option DiscoveredAgent}
    (h : Said discoveries agentId value) : Said (discoveries ++ more) agentId value := by
  obtain ⟨d, hd, hid, hvalue⟩ := h
  exact ⟨d, List.mem_append_left _ hd, hid, hvalue⟩

theorem Bound.mono {body : Members} {agentId : Option JsString} (h : Bound discoveries body agentId) :
    Bound (discoveries ++ more) body agentId := by
  cases agentId with
  | none => exact h
  | some agentId =>
    obtain ⟨hasks, agent, hsaid, hid, hdid⟩ := h
    exact ⟨hasks, agent, hsaid.mono, hid, hdid⟩

theorem Registered.mono {l : Listing} (h : Registered env discoveries l) :
    Registered env (discoveries ++ more) l := by
  cases h with
  | seed hseed hnormal => exact .seed hseed hnormal
  | signed hbody hbound => exact .signed hbody hbound.mono

theorem SignedBody.ordinary {body : Members} (h : SignedBody env body) :
    (Json.obj body).Ordinary := by
  obtain ⟨text, h⟩ := h
  simp only [checkListing, bind_eq_ok, orThrow_eq_ok, pure_eq_ok] at h
  obtain ⟨v, hparse, ms, hobject, -, -, -, -, -, -, -, -, rfl⟩ := h
  have hv := parse_ordinary hparse
  cases v with
  | obj members =>
    obtain rfl := Option.some.inj hobject
    exact hv
  | null | bool _ | num _ | str _ | arr _ => cases hobject

theorem buildListingForStorage_ordinary {body : Members} (h : (Json.obj body).Ordinary)
    (agentId : Option JsString) : (buildListingForStorage body agentId).Ordinary := by
  have hmembers := ordinaryMembers_iff.mp h.2.2
  constructor
  · unfold buildListingForStorage
    dsimp only
    cases hterms : body.lookup (js "base_terms") with
    | none => exact ⟨.nil, rfl, trivial⟩
    | some v =>
      have hv : v.Ordinary := hmembers _ (JsMap.mem_of_lookup hterms)
      cases v with
      | obj ms => exact hv
      | null | bool _ | num _ | str _ | arr _ => exact ⟨.nil, rfl, trivial⟩
  · intro v hv
    exact hmembers _ (JsMap.mem_of_lookup hv)

/-- A bound listing is stored as it was built: its id is normal already. -/
theorem normalize_built {body : Members} {agentId : Option JsString} {normalized : Listing}
    (hbound : Bound discoveries body agentId)
    (h : normalizeListingForStorage env.crypto (buildListingForStorage body agentId) =
      .ok normalized) : normalized = buildListingForStorage body agentId := by
  have hnormal := (normalizeListingForStorage_eq_ok.mp h).2
  cases agentId with
  | none => exact hnormal
  | some agentId =>
    obtain ⟨⟨s, -, hs⟩, -⟩ := hbound
    obtain ⟨-, -, hpos, rfl⟩ := normalizeAgentId_eq_ok.mp hs
    obtain ⟨id, hid, rfl⟩ := hnormal
    have hsame := hid.symm.trans (normalizeAgentId_normal hpos)
    rw [Except.ok.injEq] at hsame
    rw [hsame]
    rfl

theorem AsksFor.ne_nil {body : Members} {agentId : JsString} (h : AsksFor body agentId) :
    agentId ≠ [] := by
  obtain ⟨s, -, hs⟩ := h
  obtain ⟨-, -, -, rfl⟩ := normalizeAgentId_eq_ok.mp hs
  exact (natText_digits _).1

/-! ### The invariant -/

/-- A read shows a stored listing, with the agent that the listing is bound to or without. -/
def Shows (discoveries : List Discovery) (listing shown : Members) : Prop :=
  shown = listing ∨ ∃ agentId agent, AsksFor listing agentId ∧
    Said discoveries agentId (some agent) ∧ natText agent.agentId = agentId ∧
    listing.lookup (js "seller") = some (.str agent.did) ∧
    shown = spread listing (js "registry") (.obj (enrichment agent))

def IsFor (env : RegistrationEnv) (e : RegistrationServer) (agentId : JsString) : Purpose → Prop
  | .bind body => SignedBody env body ∧ AsksFor body agentId
  | .enrich listing => (∃ row ∈ e.listingStore.rows, listing = rowToListing row) ∧
      AsksFor listing agentId

def SoundReply (e : RegistrationServer) : Handling Reply → Prop
  | .ok reply => (reply.status = 201 ∧ ∃ l ∈ e.created, reply.body = l.members) ∨
      (reply.status = 200 ∧ ∃ row ∈ e.listingStore.rows,
        Shows e.discoveries (rowToListing row) reply.body)
  | .error _ => True

def Sound (env : RegistrationEnv) (e : RegistrationServer) : RegistrationTask → Prop
  | .idle => True
  | .verified body => SignedBody env body
  | .unbound body => SignedBody env body ∧ Bound e.discoveries body none
  | .discovering purpose agentId _ => IsFor env e agentId purpose
  | .discovered purpose agentId value => IsFor env e agentId purpose ∧
      Said e.discoveries agentId value
  | .answered reply => SoundReply e reply

/-- The rows, the records and the cache. -/
structure Kept (env : RegistrationEnv) (e : RegistrationServer) : Prop where
  rows : ∀ row ∈ e.listingStore.rows, ∃ l, row = newRow l ∧ l.Ordinary ∧
    Registered env e.discoveries l
  size : e.listingStore.rows.length ≤ MAX_LISTINGS
  created : (e.created.map newRow).Sublist e.listingStore.rows
  createdOrdinary : ∀ l ∈ e.created, l.Ordinary
  cache : ∀ p ∈ e.registryCache.entries, p.1 ≠ [] ∧ ∃ d ∈ e.discoveries, d.agentId = p.1 ∧
    d.value = p.2.value ∧ p.2.expiresAt = d.began + env.cacheTtlMs
  cacheSize : e.registryCache.entries.length ≤ MAX_CACHED_AGENTS

structure Provenance (env : RegistrationEnv) (e : RegistrationServer) : Prop extends Kept env e where
  tasks : ∀ t, Sound env e (e.task t)

/-- What is there stays there. -/
structure Extends (e e' : RegistrationServer) : Prop where
  rows : e.listingStore.rows <+: e'.listingStore.rows
  discoveries : e.discoveries <+: e'.discoveries
  created : e.created <+: e'.created

theorem Extends.refl (e : RegistrationServer) : Extends e e :=
  ⟨List.prefix_rfl, List.prefix_rfl, List.prefix_rfl⟩

theorem Extends.trans {e e' e'' : RegistrationServer} (h : Extends e e') (h' : Extends e' e'') :
    Extends e e'' :=
  ⟨h.rows.trans h'.rows, h.discoveries.trans h'.discoveries, h.created.trans h'.created⟩

variable {e e' : RegistrationServer}

theorem Shows.mono {listing shown : Members} (h : Shows discoveries listing shown) :
    Shows (discoveries ++ more) listing shown := by
  rcases h with h | ⟨agentId, agent, hasks, hsaid, hid, hseller, hshown⟩
  · exact .inl h
  · exact .inr ⟨agentId, agent, hasks, hsaid.mono, hid, hseller, hshown⟩

theorem IsFor.mono {agentId : JsString} {purpose : Purpose} (h : IsFor env e agentId purpose)
    (hmore : Extends e e') : IsFor env e' agentId purpose := by
  cases purpose with
  | bind body => exact h
  | enrich listing =>
    obtain ⟨⟨row, hrow, hlisting⟩, hasks⟩ := h
    exact ⟨⟨row, hmore.rows.subset hrow, hlisting⟩, hasks⟩

theorem Sound.mono {task : RegistrationTask} (h : Sound env e task) (hmore : Extends e e') :
    Sound env e' task := by
  obtain ⟨more, hdiscoveries⟩ := hmore.discoveries
  cases task with
  | idle => trivial
  | verified body => exact h
  | unbound body => exact h
  | discovering purpose agentId began => exact IsFor.mono h hmore
  | discovered purpose agentId value =>
    refine ⟨h.1.mono hmore, ?_⟩
    rw [← hdiscoveries]
    exact h.2.mono
  | answered reply =>
    cases reply with
    | error failure => trivial
    | ok reply =>
      rcases h with ⟨hstatus, l, hl, hbody⟩ | ⟨hstatus, row, hrow, hshows⟩
      · exact .inl ⟨hstatus, l, hmore.created.subset hl, hbody⟩
      · refine .inr ⟨hstatus, row, hmore.rows.subset hrow, ?_⟩
        rw [← hdiscoveries]
        exact hshows.mono

/-- One task changes, and what the server keeps grows. -/
theorem Provenance.advance (h : Provenance env e) (hkept : Kept env e') (hmore : Extends e e')
    {t : CallId} {task : RegistrationTask} (htasks : e'.task = Function.update e.task t task)
    (hsound : Sound env e' task) : Provenance env e' := by
  refine ⟨hkept, fun u => ?_⟩
  rw [htasks]
  by_cases hu : u = t
  · rw [hu, Function.update_self]
    exact hsound
  · rw [Function.update_of_ne hu]
    exact (h.tasks u).mono hmore

theorem Provenance.setTask (h : Provenance env e) (t : CallId) {task : RegistrationTask}
    (htask : Sound env e task) : Provenance env (e.setTask t task) :=
  h.advance ⟨h.rows, h.size, h.created, h.createdOrdinary, h.cache, h.cacheSize⟩
    ⟨List.prefix_rfl, List.prefix_rfl, List.prefix_rfl⟩ rfl htask

/-! ### Steps -/

/-- A step that keeps the invariant and what is there. -/
def Advances (env : RegistrationEnv) (e e' : RegistrationServer) : Prop :=
  Provenance env e' ∧ Extends e e'

theorem Provenance.wait (h : Provenance env e) (t : CallId) {task : RegistrationTask}
    (htask : Sound env e task) : Advances env e (e.setTask t task) :=
  ⟨h.setTask t htask, ⟨List.prefix_rfl, List.prefix_rfl, List.prefix_rfl⟩⟩

theorem Provenance.discover (h : Provenance env e) (t : CallId) {purpose : Purpose}
    {agentId : JsString} (now : ℤ) (hfor : IsFor env e agentId purpose) :
    Advances env e (e.discover t purpose agentId now) := by
  unfold RegistrationServer.discover
  cases hcached : RegistryCache.cached e.registryCache now agentId with
  | none => exact h.wait t hfor
  | some entry =>
    obtain ⟨-, d, hd, hid, hvalue, -⟩ := h.cache _ (RegistryCache.cached_eq_some hcached).1
    exact h.wait t ⟨hfor, d, hd, hid, hvalue⟩

theorem Provenance.readListing (h : Provenance env e) (t : CallId) (listingId : JsString)
    (now : ℤ) : Advances env e (e.readListing t listingId now) := by
  unfold RegistrationServer.readListing
  cases hfound : e.listingStore.getById listingId with
  | none => exact h.wait t trivial
  | some listing =>
    obtain ⟨row, hrow, rfl⟩ := Option.map_eq_some_iff.mp hfound
    have hmem := (SqliteListingStore.getRow_eq_some.mp hrow).1
    have hplain : Sound env e (.answered (.ok ⟨200, rowToListing row⟩)) :=
      .inr ⟨rfl, row, hmem, .inl rfl⟩
    dsimp only
    cases hid : (JsValue.asStr ((rowToListing row).lookup (js "registry_agent_id"))).filter
        fun s => !s.isEmpty with
    | none => exact h.wait t hplain
    | some registryAgentId =>
      dsimp only
      cases hnormal : normalizeRegistryAgentId registryAgentId with
      | error failure => exact h.wait t hplain
      | ok agentId =>
        exact h.discover t now ⟨⟨row, hmem, rfl⟩, registryAgentId,
          Option.eq_some_of_filter_eq_some hid, hnormal⟩

theorem Provenance.startBinding (h : Provenance env e) (t : CallId) {body : Members} (now : ℤ)
    (hbody : SignedBody env body) : Advances env e (e.startBinding t body now) := by
  unfold RegistrationServer.startBinding
  cases hid : JsValue.asStr (body.lookup (js "registry_agent_id")) with
  | none => exact h.wait t ⟨hbody, hid⟩
  | some registryAgentId =>
    dsimp only
    cases hnormal : normalizeRegistryAgentId registryAgentId with
    | error failure => exact h.wait t trivial
    | ok agentId => exact h.discover t now ⟨hbody, registryAgentId, hid, hnormal⟩

/-- A registered listing goes to the end of the table. -/
theorem Provenance.insert (h : Provenance env e) (t : CallId) {listing : Listing}
    (hfresh : listing.listingId ∉ e.listingStore.rows.map ListingRow.listingId)
    (hroom : e.listingStore.rows.length < MAX_LISTINGS) (hordinary : listing.Ordinary)
    (hregistered : Registered env e.discoveries listing) :
    Advances env e (({ e with
      listingStore := e.listingStore.insert listing hfresh
      created := e.created ++ [listing] } : RegistrationServer).setTask t
        (.answered (.ok ⟨201, listing.members⟩))) := by
  have hmore : Extends e (({ e with
      listingStore := e.listingStore.insert listing hfresh
      created := e.created ++ [listing] } : RegistrationServer).setTask t
        (.answered (.ok ⟨201, listing.members⟩))) :=
    ⟨List.prefix_append _ _, List.prefix_rfl, List.prefix_append _ _⟩
  refine ⟨h.advance ⟨?_, ?_, ?_, ?_, h.cache, h.cacheSize⟩ hmore rfl ?_, hmore⟩
  · intro row hrow
    rcases List.mem_append.mp hrow with hold | hnew
    · exact h.rows row hold
    · rw [List.mem_singleton.mp hnew]
      exact ⟨listing, rfl, hordinary, hregistered⟩
  · have hlength : (e.listingStore.rows ++ [newRow listing]).length ≤ MAX_LISTINGS := by
      rw [List.length_append, List.length_singleton]
      exact hroom
    exact hlength
  · have hsublist := h.created.append (List.Sublist.refl [newRow listing])
    have hmap : (e.created ++ [listing]).map newRow = e.created.map newRow ++ [newRow listing] :=
      List.map_append
    exact hmap ▸ hsublist
  · intro l hl
    rcases List.mem_append.mp hl with hold | hnew
    · exact h.createdOrdinary l hold
    · exact List.mem_singleton.mp hnew ▸ hordinary
  · exact .inl ⟨rfl, listing, List.mem_append_right _ (List.mem_singleton_self _), rfl⟩

theorem Provenance.storeListing (h : Provenance env e) (t : CallId) {body : Members}
    {agentId : Option JsString} (hbody : SignedBody env body)
    (hbound : Bound e.discoveries body agentId) :
    Advances env e (e.storeListing env t body agentId) := by
  unfold RegistrationServer.storeListing
  dsimp only
  cases hadd : e.listingStore.add env.crypto (buildListingForStorage body agentId) with
  | error message => exact h.wait t trivial
  | ok listingStore =>
    obtain ⟨hroom, normalized, hfresh, hnormal, rfl⟩ := SqliteListingStore.add_eq_ok hadd
    obtain rfl := normalize_built hbound hnormal
    exact h.insert t hfresh hroom (buildListingForStorage_ordinary hbody.ordinary agentId)
      (.signed hbody hbound)

theorem Provenance.finishDiscovery (h : Provenance env e) (t : CallId) {purpose : Purpose}
    {agentId : JsString} {value : Option DiscoveredAgent} (hfor : IsFor env e agentId purpose)
    (hsaid : Said e.discoveries agentId value) :
    Advances env e (e.finishDiscovery env t purpose agentId value) := by
  cases purpose with
  | bind body =>
    unfold RegistrationServer.finishDiscovery
    dsimp only
    cases hbinding : checkBinding agentId (castText (body.lookup (js "seller"))) value with
    | error failure => exact h.wait t trivial
    | ok bound =>
      simp only [checkBinding, bind_eq_ok, orThrow_eq_ok, ensure_eq_ok, pure_eq_ok] at hbinding
      obtain ⟨agent, rfl, -, hid, -, hdid, rfl⟩ := hbinding
      exact h.storeListing t hfor.1 ⟨hfor.2, agent, hsaid, hid, hdid⟩
  | enrich listing =>
    obtain ⟨⟨row, hrow, rfl⟩, hasks⟩ := hfor
    refine h.wait t (.inr ⟨rfl, row, hrow, ?_⟩)
    dsimp only
    cases value with
    | none => exact .inl rfl
    | some agent =>
      unfold enrichListing
      dsimp only
      split_ifs with hagent
      · exact .inr ⟨agentId, agent, hasks, hsaid, hagent.1, hagent.2, rfl⟩
      · exact .inl rfl

/-- The registry's answer is remembered for its own agent. -/
theorem Provenance.registryAnswers (h : Provenance env e) (t : CallId) {purpose : Purpose}
    {agentId : JsString} (began : ℤ) (value : Option DiscoveredAgent)
    (hfor : IsFor env e agentId purpose) :
    Advances env e (({ e with
      registryCache := RegistryCache.store env.cacheTtlMs began agentId value e.registryCache
      discoveries := e.discoveries ++ [⟨agentId, began, value⟩] } : RegistrationServer).setTask t
        (.discovered purpose agentId value)) := by
  have hmore : Extends e (({ e with
      registryCache := RegistryCache.store env.cacheTtlMs began agentId value e.registryCache
      discoveries := e.discoveries ++ [⟨agentId, began, value⟩] } : RegistrationServer).setTask t
        (.discovered purpose agentId value)) :=
    ⟨List.prefix_rfl, List.prefix_append _ _, List.prefix_rfl⟩
  have hsaid : (⟨agentId, began, value⟩ : Discovery) ∈ e.discoveries ++ [⟨agentId, began, value⟩] :=
    List.mem_append_right _ (List.mem_singleton_self _)
  have hne : agentId ≠ [] := by
    cases purpose with
    | bind body => exact hfor.2.ne_nil
    | enrich listing => exact hfor.2.ne_nil
  have hkeys : ∀ p ∈ (e.registryCache.set agentId ⟨value, began + env.cacheTtlMs⟩).entries,
      p.1 ≠ [] := by
    intro p hp
    obtain ⟨key, entry⟩ := p
    rw [← JsMap.get?_eq_some_iff, JsMap.get?_set] at hp
    split_ifs at hp with hkey
    · exact hkey ▸ hne
    · exact (h.cache _ (e.registryCache.get?_eq_some_iff.mp hp)).1
  refine ⟨h.advance ⟨?_, h.size, h.created, h.createdOrdinary, ?_, RegistryCache.prune_length hkeys⟩
    hmore rfl ?_, hmore⟩
  · intro row hrow
    obtain ⟨l, hl, hordinary, hregistered⟩ := h.rows row hrow
    exact ⟨l, hl, hordinary, hregistered.mono⟩
  · intro p hp
    rcases RegistryCache.mem_store hp with rfl | hold
    · exact ⟨hne, _, hsaid, rfl, rfl, rfl⟩
    · obtain ⟨hkey, d, hd, hd'⟩ := h.cache p hold
      exact ⟨hkey, d, List.mem_append_left _ hd, hd'⟩
  · exact ⟨hfor.mono hmore, _, hsaid, rfl, rfl⟩

/-- Seeding adds seeds at the end, as long as there is room. -/
theorem seedListingsIfMissing_rows (c : Crypto) (s : SqliteListingStore) (seeds : List Listing)
    (hsize : s.rows.length ≤ MAX_LISTINGS) :
    s.rows <+: (seedListingsIfMissing c s seeds).1.rows ∧
    (seedListingsIfMissing c s seeds).1.rows.length ≤ MAX_LISTINGS ∧
    ∀ row ∈ (seedListingsIfMissing c s seeds).1.rows, row ∈ s.rows ∨
      ∃ seed ∈ seeds, ∃ l, normalizeListingForStorage c seed = .ok l ∧ row = newRow l := by
  induction seeds generalizing s with
  | nil => exact ⟨List.prefix_rfl, hsize, fun row hrow => .inl hrow⟩
  | cons listing seeds ih =>
    have hskip : s.rows <+: (seedListingsIfMissing c s seeds).1.rows ∧
        (seedListingsIfMissing c s seeds).1.rows.length ≤ MAX_LISTINGS ∧
        ∀ row ∈ (seedListingsIfMissing c s seeds).1.rows, row ∈ s.rows ∨
          ∃ seed ∈ listing :: seeds, ∃ l, normalizeListingForStorage c seed = .ok l ∧
            row = newRow l := by
      obtain ⟨hgrows, hlength, hrows⟩ := ih s hsize
      refine ⟨hgrows, hlength, fun row hrow => (hrows row hrow).imp_right ?_⟩
      rintro ⟨seed, hseed, hrest⟩
      exact ⟨seed, List.mem_cons_of_mem _ hseed, hrest⟩
    unfold seedListingsIfMissing
    split_ifs
    · exact hskip
    · cases hadd : s.add c listing with
      | error message =>
        dsimp only
        split_ifs
        · exact hskip
        · exact ⟨List.prefix_rfl, hsize, fun row hrow => .inl hrow⟩
      | ok s' =>
        obtain ⟨hroom, l, hfresh, hnormal, rfl⟩ := SqliteListingStore.add_eq_ok hadd
        have hlength : (s.insert l hfresh).rows.length ≤ MAX_LISTINGS := by
          have hinsert : (s.insert l hfresh).rows = s.rows ++ [newRow l] := rfl
          rw [hinsert, List.length_append, List.length_singleton]
          exact hroom
        obtain ⟨hgrows, hsize', hrows⟩ := ih (s.insert l hfresh) hlength
        refine ⟨(List.prefix_append _ _).trans hgrows, hsize', fun row hrow => ?_⟩
        rcases hrows row hrow with hold | ⟨seed, hseed, hrest⟩
        · rcases List.mem_append.mp hold with hold | hnew
          · exact .inl hold
          · exact .inr ⟨listing, List.mem_cons_self, l, hnormal, List.mem_singleton.mp hnew⟩
        · exact .inr ⟨seed, List.mem_cons_of_mem _ hseed, hrest⟩

theorem Provenance.restart (h : Provenance env e) (seeding : Bool) :
    ∀ e', e.step env (.restart seeding) = some e' → Advances env e e' := by
  intro e' hstep
  have hseeds : ∀ l ∈ (if seeding then env.seeds else []), l ∈ env.seeds := by
    cases seeding <;> simp
  obtain ⟨hgrows, hsize, hrows⟩ := seedListingsIfMissing_rows env.crypto e.listingStore
    (if seeding then env.seeds else []) h.size
  simp only [RegistrationServer.step, Option.some.injEq] at hstep
  subst hstep
  refine ⟨⟨⟨fun row hrow => ?_, hsize, h.created.trans hgrows.sublist, h.createdOrdinary, ?_, ?_⟩,
    fun _ => trivial⟩, hgrows, List.prefix_rfl, List.prefix_rfl⟩
  · rcases hrows row hrow with hold | ⟨seed, hseed, l, hnormal, rfl⟩
    · exact h.rows row hold
    · exact ⟨l, rfl, normalizeListingForStorage_ordinary hnormal
        (env.seeds_ordinary seed (hseeds seed hseed)), .seed (hseeds seed hseed) hnormal⟩
  · intro p hp
    exact absurd hp List.not_mem_nil
  · exact Nat.zero_le _

theorem Provenance.step (h : Provenance env e) {label : RegistrationLabel}
    (hstep : e.step env label = some e') : Advances env e e' := by
  cases label with
  | register t text =>
    simp only [RegistrationServer.step] at hstep
    split at hstep
    · obtain rfl := Option.some.inj hstep
      apply h.wait
      cases hlisting : checkListing env.crypto (parse text) with
      | ok body => exact ⟨text, hlisting⟩
      | error failure => trivial
    · cases hstep
  | read t listingId now =>
    simp only [RegistrationServer.step] at hstep
    split at hstep
    · obtain rfl := Option.some.inj hstep
      exact h.readListing t listingId now
    · cases hstep
  | resume t now =>
    simp only [RegistrationServer.step] at hstep
    have htask := h.tasks t
    cases hcase : e.task t with
    | verified body =>
      rw [hcase] at hstep htask
      obtain rfl := Option.some.inj hstep
      exact h.startBinding t now htask
    | unbound body =>
      rw [hcase] at hstep htask
      obtain rfl := Option.some.inj hstep
      exact h.storeListing t htask.1 htask.2
    | discovered purpose agentId value =>
      rw [hcase] at hstep htask
      obtain rfl := Option.some.inj hstep
      exact h.finishDiscovery t htask.1 htask.2
    | idle | discovering purpose agentId began | answered reply =>
      rw [hcase] at hstep
      cases hstep
  | registryAnswers t value =>
    simp only [RegistrationServer.step] at hstep
    have htask := h.tasks t
    split at hstep
    case h_1 purpose agentId began hcase =>
      rw [hcase] at htask
      obtain rfl := Option.some.inj hstep
      exact h.registryAnswers t began value htask
    case h_2 => cases hstep
  | registryFails t =>
    simp only [RegistrationServer.step] at hstep
    have htask := h.tasks t
    split at hstep
    case h_1 => exact Option.some.inj hstep ▸ h.wait t trivial
    case h_2 listing agentId began hcase =>
      rw [hcase] at htask
      obtain ⟨⟨row, hrow, rfl⟩, -⟩ := htask
      exact Option.some.inj hstep ▸ h.wait t (.inr ⟨rfl, row, hrow, .inl rfl⟩)
    case h_3 => cases hstep
  | restart seeding => exact h.restart seeding e' hstep

/-! ### Runs -/

theorem Provenance.empty : Provenance env .empty where
  rows _ hrow := absurd hrow List.not_mem_nil
  size := Nat.zero_le _
  created := List.Sublist.refl _
  createdOrdinary _ hl := absurd hl List.not_mem_nil
  cache _ hp := absurd hp List.not_mem_nil
  cacheSize := Nat.zero_le _
  tasks _ := trivial

theorem Provenance.run (h : Provenance env e) (labels : List RegistrationLabel) :
    Advances env e (run (RegistrationServer.step env) e labels) := by
  induction labels generalizing e with
  | nil => exact ⟨h, .refl e⟩
  | cons label labels ih =>
    have hnext : Advances env e (next (RegistrationServer.step env) e label) :=
      next_induction ⟨h, .refl e⟩ fun e' hstep => h.step hstep
    obtain ⟨hrun, hmore⟩ := ih hnext.1
    exact ⟨hrun, hnext.2.trans hmore⟩

/-- The server after a run from an empty database. -/
def served (env : RegistrationEnv) (labels : List RegistrationLabel) : RegistrationServer :=
  run (RegistrationServer.step env) .empty labels

theorem served_provenance (env : RegistrationEnv) (labels : List RegistrationLabel) :
    Provenance env (served env labels) := (Provenance.empty.run labels).1

theorem served_extends (env : RegistrationEnv) (before after : List RegistrationLabel) :
    Extends (served env before) (served env (before ++ after)) := by
  rw [served, served, run_append]
  exact ((served_provenance env before).run after).2

theorem getById_newRow {s : SqliteListingStore} {l : Listing} (hrow : newRow l ∈ s.rows)
    (hordinary : l.Ordinary) : s.getById l.listingId = some l.members := by
  have hfound := SqliteListingStore.getRow_eq_some.mpr ⟨hrow, rfl⟩
  have hid : (newRow l).listingId = l.listingId := rfl
  rw [SqliteListingStore.getById, ← hid, hfound, Option.map_some, rowToListing_newRow hordinary]

/-- Over restarts and interleavings alike, the table only grows: its rows are seeds, or listings
that their sellers signed and that the registry has bound to agents of these sellers. Each listing
that was answered with 201 can be read for ever as it was answered, and no id is answered twice. -/
theorem listings_registered (env : RegistrationEnv) (before after : List RegistrationLabel) :
    (served env before).listingStore.rows <+: (served env (before ++ after)).listingStore.rows ∧
    (served env before).listingStore.rows.length ≤ MAX_LISTINGS ∧
    (∀ row ∈ (served env before).listingStore.rows, ∃ l, row.listingId = l.listingId ∧
      rowToListing row = l.members ∧ Registered env (served env before).discoveries l) ∧
    (∀ l ∈ (served env before).created,
      (served env (before ++ after)).listingStore.getById l.listingId = some l.members) ∧
    ((served env before).created.map Listing.listingId).Nodup := by
  have h := served_provenance env before
  have h' := served_provenance env (before ++ after)
  have hmore := served_extends env before after
  refine ⟨hmore.rows, h.size, fun row hrow => ?_, fun l hl => ?_, ?_⟩
  · obtain ⟨l, rfl, hordinary, hregistered⟩ := h.rows row hrow
    exact ⟨l, rfl, rowToListing_newRow hordinary, hregistered⟩
  · have hrow := h.created.subset (List.mem_map_of_mem hl)
    exact getById_newRow (hmore.rows.subset hrow) (h.createdOrdinary l hl)
  · have hids := h.created.map ListingRow.listingId
    rw [List.map_map] at hids
    exact (served env before).listingStore.unique.sublist hids

/-- What the cache answers, the registry has answered for the same id, to a request that is younger
than the time to live; and the cache stays small. -/
theorem cached_fresh (env : RegistrationEnv) (labels : List RegistrationLabel) :
    (∀ (now : ℤ) (agentId : JsString) (entry : CacheEntry),
      RegistryCache.cached (served env labels).registryCache now agentId = some entry →
      ∃ d ∈ (served env labels).discoveries, d.agentId = agentId ∧ d.value = entry.value ∧
        now < d.began + env.cacheTtlMs) ∧
    (served env labels).registryCache.entries.length ≤ MAX_CACHED_AGENTS := by
  have h := served_provenance env labels
  refine ⟨fun now agentId entry hcached => ?_, h.cacheSize⟩
  obtain ⟨hmem, hfresh⟩ := RegistryCache.cached_eq_some hcached
  obtain ⟨-, d, hd, hid, hvalue, hexpires⟩ := h.cache _ hmem
  exact ⟨d, hd, hid, hvalue, hexpires ▸ hfresh⟩

def sampleSeed : Listing where
  listingId := js "listing-1"
  seller := Settlement.sampleSeller
  title := js "Audit"
  category := js "security"
  serviceType := js "audit"
  negotiationEndpoint := js "https://seller.example/negotiate"
  paymentEndpoint := js "https://seller.example/execute"
  baseTerms := []
  negotiationProfile := none
  registryAgentId := some (js "007")

def sampleRegistry : RegistrationEnv where
  crypto := (Settlement.sampleEnv .null []).toCrypto
  cacheTtlMs := 60000
  seeds := [sampleSeed]
  seeds_ordinary l hl := by
    rw [List.mem_singleton.mp hl]
    exact ⟨⟨.nil, rfl, trivial⟩, by simp [sampleSeed]⟩

def sampleAgent : DiscoveredAgent where
  agentId := 7
  name := js "Auditor <b>one</b>"
  did := Settlement.sampleSeller
  reputationScore := some (.ofNat 250)
  totalFeedbacks := .ofNat 3

/-- The seed as it is stored. -/
def sampleListing : Listing := { sampleSeed with registryAgentId := some (js "7") }

def seededServer : RegistrationServer :=
  { RegistrationServer.empty with
    listingStore := SqliteListingStore.empty.insert sampleListing List.not_mem_nil
    up := true }

theorem restart_seeded : RegistrationServer.step sampleRegistry .empty (.restart true) =
    some seededServer := by
  have hstart : (RegistrationServer.empty).listingStore = .empty := rfl
  simp only [RegistrationServer.step, hstart]
  rfl

theorem getById_seeded :
    seededServer.listingStore.getById (js "listing-1") = some sampleListing.members := by
  have hrow : newRow sampleListing ∈ seededServer.listingStore.rows := List.mem_singleton_self _
  have hid : (newRow sampleListing).listingId = js "listing-1" := rfl
  have hfound : seededServer.listingStore.getRow (newRow sampleListing).listingId =
      some (newRow sampleListing) := SqliteListingStore.getRow_eq_some.mpr ⟨hrow, rfl⟩
  have hordinary : sampleListing.Ordinary :=
    ⟨⟨.nil, rfl, trivial⟩, by simp [sampleListing, sampleSeed]⟩
  rw [SqliteListingStore.getById, ← hid, hfound, Option.map_some, rowToListing_newRow hordinary]

theorem step_read {t : CallId} {listingId : JsString} {now : ℤ} (hup : e.up = true)
    (hidle : e.task t = .idle) :
    e.step env (.read t listingId now) = some (e.readListing t listingId now) := by
  simp only [RegistrationServer.step, hup, hidle]

theorem readListing_discovers {t : CallId} {listingId registryAgentId agentId : JsString} {now : ℤ}
    {listing : Members} (hfound : e.listingStore.getById listingId = some listing)
    (hasks : (JsValue.asStr (listing.lookup (js "registry_agent_id"))).filter
      (fun s => !s.isEmpty) = some registryAgentId)
    (hnormal : normalizeRegistryAgentId registryAgentId = .ok agentId)
    (hcached : RegistryCache.cached e.registryCache now agentId = none) :
    e.readListing t listingId now = e.setTask t (.discovering (.enrich listing) agentId now) := by
  simp only [RegistrationServer.readListing, hfound, hasks, hnormal, RegistrationServer.discover,
    hcached]

theorem read_seeded : seededServer.step sampleRegistry (.read 1 (js "listing-1") 1000) =
    some (seededServer.setTask 1 (.discovering (.enrich sampleListing.members) (js "7") 1000)) := by
  have hasks : (JsValue.asStr (sampleListing.members.lookup (js "registry_agent_id"))).filter
      (fun s => !s.isEmpty) = some (js "7") := by decide +kernel
  have hnormal : normalizeRegistryAgentId (js "7") = .ok (js "7") := by decide +kernel
  rw [step_read rfl rfl, readListing_discovers getById_seeded hasks hnormal rfl]

/-- A seed is read, and the registry answers. -/
def sampleReading : List RegistrationLabel :=
  [.restart true, .read 1 (js "listing-1") 1000, .registryAnswers 1 (some sampleAgent)]

theorem served_sampleReading (labels : List RegistrationLabel) :
    served sampleRegistry (sampleReading ++ labels) = run (RegistrationServer.step sampleRegistry)
      (seededServer.setTask 1 (.discovering (.enrich sampleListing.members) (js "7") 1000))
      (.registryAnswers 1 (some sampleAgent) :: labels) := by
  have hfirst : next (RegistrationServer.step sampleRegistry) .empty (.restart true) =
      seededServer := by rw [next, restart_seeded, Option.getD_some]
  have hsecond : next (RegistrationServer.step sampleRegistry) seededServer
      (.read 1 (js "listing-1") 1000) = seededServer.setTask 1
        (.discovering (.enrich sampleListing.members) (js "7") 1000) := by
    rw [next, read_seeded, Option.getD_some]
  rw [served, sampleReading, List.cons_append, List.cons_append, List.cons_append,
    List.nil_append, run_cons, run_cons, hfirst, hsecond]

theorem cached_fresh_sample : (∃ d ∈ (served sampleRegistry sampleReading).discoveries,
      d.agentId = js "7" ∧ d.value = some sampleAgent ∧ (60999 : ℤ) < d.began + 60000) ∧
    (served sampleRegistry sampleReading).registryCache.entries.length ≤ MAX_CACHED_AGENTS :=
  (cached_fresh sampleRegistry sampleReading).imp_left fun h =>
    h 60999 (js "7") ⟨some sampleAgent, 61000⟩ ((served_sampleReading []).symm ▸ by decide +kernel)

/-- A request that is answered without an error is either a registration, answered with a listing
that can be read from now on, or a read, which shows a stored listing and with it nothing but what
the registry said of the agent that the listing names. -/
theorem answers_stored (env : RegistrationEnv) (before after : List RegistrationLabel) (t : CallId)
    (reply : Reply) (hreply : (served env before).task t = .answered (.ok reply)) :
    (reply.status = 201 ∧ ∃ l : Listing, reply.body = l.members ∧
      (served env (before ++ after)).listingStore.getById l.listingId = some l.members) ∨
    (reply.status = 200 ∧ ∃ row ∈ (served env (before ++ after)).listingStore.rows,
      Shows (served env before).discoveries (rowToListing row) reply.body) := by
  have hsound := (served_provenance env before).tasks t
  rw [hreply] at hsound
  rcases hsound with ⟨hstatus, l, hl, hbody⟩ | ⟨hstatus, row, hrow, hshows⟩
  · exact .inl ⟨hstatus, l, hbody, (listings_registered env before after).2.2.2.1 l hl⟩
  · exact .inr ⟨hstatus, row, (served_extends env before after).rows.subset hrow, hshows⟩

def sampleReply : Reply :=
  ⟨200, [(js "listing_id", .str (js "listing-1")), (js "seller", .str Settlement.sampleSeller),
    (js "title", .str (js "Audit")), (js "category", .str (js "security")),
    (js "service_type", .str (js "audit")),
    (js "negotiation_endpoint", .str (js "https://seller.example/negotiate")),
    (js "payment_endpoint", .str (js "https://seller.example/execute")), (js "base_terms", .obj []),
    (js "registry_agent_id", .str (js "7")),
    (js "registry", .obj [(js "agentId", .str (js "7")), (js "name", .str (js "Auditor one")),
      (js "reputationScore", .num (.ofNat 100)), (js "totalFeedbacks", .num (.ofNat 3))])]⟩

theorem replied_sample : (served sampleRegistry (sampleReading ++ [.resume 1 1001])).task 1 =
    .answered (.ok sampleReply) := by
  rw [served_sampleReading]
  decide +kernel

theorem answers_stored_sample : ∃ row ∈ (served sampleRegistry
      (sampleReading ++ [.resume 1 1001] ++ [.restart false])).listingStore.rows,
    Shows (served sampleRegistry (sampleReading ++ [.resume 1 1001])).discoveries
      (rowToListing row) sampleReply.body := by
  have hanswers := answers_stored sampleRegistry _ [.restart false] _ _ replied_sample
  have hstatus : sampleReply.status ≠ 201 := by decide
  exact (hanswers.resolve_left fun h => hstatus h.1).2

end GhostBazaar.Engine.Registry
