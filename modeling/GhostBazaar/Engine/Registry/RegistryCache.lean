import GhostBazaar.Engine.Registry.Listings

/-! What the engine remembers of the agent registry. -/
namespace GhostBazaar.Engine.Registry
open Js GhostBazaar.Core

/-- What the registry says about an agent; `agentId` is a `bigint`. -/
structure DiscoveredAgent where
  agentId : ℕ
  name : JsString
  did : JsString
  reputationScore : Option JsNumber
  totalFeedbacks : JsNumber
  deriving DecidableEq

structure CacheEntry where
  value : Option DiscoveredAgent
  expiresAt : ℤ
  deriving DecidableEq

abbrev RegistryCache := JsMap JsString CacheEntry

def MAX_CACHED_AGENTS : ℕ := 1024

namespace RegistryCache

def cached (cache : RegistryCache) (now : ℤ) (agentId : JsString) : Option CacheEntry :=
  (cache.get? agentId).filter fun entry => decide (now < entry.expiresAt)

/-- The `while` loop over the oldest entries; it ends at an empty key. -/
def dropOldest : List (JsString × CacheEntry) → List (JsString × CacheEntry)
  | [] => []
  | e :: es => if MAX_CACHED_AGENTS < (e :: es).length ∧ e.1 ≠ [] then dropOldest es else e :: es

theorem dropOldest_suffix (es : List (JsString × CacheEntry)) : dropOldest es <:+ es := by
  induction es with
  | nil => exact List.suffix_rfl
  | cons e es ih =>
    unfold dropOldest
    split_ifs
    · exact ih.trans (List.suffix_cons e es)
    · exact List.suffix_rfl

def prune (now : ℤ) (cache : RegistryCache) : RegistryCache :=
  if MAX_CACHED_AGENTS < cache.entries.length then
    let live := cache.filter fun _ entry => decide (¬ entry.expiresAt ≤ now)
    ⟨dropOldest live.entries, live.nodup.sublist ((dropOldest_suffix _).sublist.map _)⟩
  else cache

/-- What a discovery that began at `now` leaves. -/
def store (ttl now : ℤ) (agentId : JsString) (value : Option DiscoveredAgent)
    (cache : RegistryCache) : RegistryCache :=
  prune now (cache.set agentId ⟨value, now + ttl⟩)

/-! ### What it holds -/

theorem dropOldest_length {es : List (JsString × CacheEntry)} (h : ∀ e ∈ es, e.1 ≠ []) :
    (dropOldest es).length ≤ MAX_CACHED_AGENTS := by
  induction es with
  | nil => exact Nat.zero_le _
  | cons e es ih =>
    rw [List.forall_mem_cons] at h
    unfold dropOldest
    split_ifs with hfull
    · exact ih h.2
    · have hsmall : ¬ MAX_CACHED_AGENTS < (e :: es).length := fun hlarge => hfull ⟨hlarge, h.1⟩
      exact not_lt.mp hsmall

theorem prune_entries_sublist (now : ℤ) (cache : RegistryCache) :
    (cache.prune now).entries.Sublist cache.entries := by
  unfold prune
  split_ifs
  · exact (dropOldest_suffix _).sublist.trans List.filter_sublist
  · exact List.Sublist.refl _

theorem prune_length {now : ℤ} {cache : RegistryCache} (h : ∀ e ∈ cache.entries, e.1 ≠ []) :
    (cache.prune now).entries.length ≤ MAX_CACHED_AGENTS := by
  unfold prune
  split_ifs with hlarge
  · exact dropOldest_length fun e he => h e (List.mem_of_mem_filter he)
  · exact not_lt.mp hlarge

theorem mem_store {ttl now : ℤ} {agentId : JsString} {value : Option DiscoveredAgent}
    {cache : RegistryCache} {e : JsString × CacheEntry}
    (he : e ∈ (cache.store ttl now agentId value).entries) :
    e = (agentId, ⟨value, now + ttl⟩) ∨ e ∈ cache.entries := by
  obtain ⟨key, entry⟩ := e
  rw [store] at he
  have hmem := (prune_entries_sublist now _).subset he
  rw [← JsMap.get?_eq_some_iff, JsMap.get?_set] at hmem
  split_ifs at hmem with hkey
  · obtain rfl := Option.some.inj hmem
    exact .inl (hkey ▸ rfl)
  · exact .inr (cache.get?_eq_some_iff.mp hmem)

theorem cached_eq_some {cache : RegistryCache} {now : ℤ} {agentId : JsString} {entry : CacheEntry}
    (h : cache.cached now agentId = some entry) :
    (agentId, entry) ∈ cache.entries ∧ now < entry.expiresAt := by
  rw [cached, Option.filter_eq_some_iff, decide_eq_true_eq] at h
  exact ⟨cache.get?_eq_some_iff.mp h.1, h.2⟩

end RegistryCache
end GhostBazaar.Engine.Registry
