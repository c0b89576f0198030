import GhostBazaar.Engine.EventStore
import GhostBazaar.Engine.SessionInvariant
import GhostBazaar.Engine.SessionLock

/-! The session manager: event store, lock table and the cache of derived sessions. An
operation that throws returns the state it leaves beside the error. -/
namespace GhostBazaar.Engine
open Js Transition InternalEventStore

structure CacheEntry where
  eventCount : ℕ
  session : DerivedSession
  lastAccessedAt : ℤ

structure SessionManager (σ : Type) where
  store : σ
  lockTable : LockTable
  sessionCache : JsMap JsString CacheEntry

namespace SessionManager

variable {σ : Type} [InternalEventStore σ]

def empty : SessionManager σ := ⟨InternalEventStore.empty, .empty, .empty⟩

def log (m : SessionManager σ) (rfqId : JsString) : List NegotiationEvent :=
  getAllEvents m.store rfqId

def cache (m : SessionManager σ) (rfqId : JsString) (entry : CacheEntry) : SessionManager σ :=
  { m with sessionCache := m.sessionCache.set rfqId entry }

/-- The replay of `getSession` when the cache has no entry of the current event count. -/
def loadSession (now : ℤ) (m : SessionManager σ) (rfqId : JsString) :
    Except JsString (Option DerivedSession) × SessionManager σ :=
  match deriveState (m.log rfqId) with
  | .error e => (.error e, m)
  | .ok none => (.ok none, m)
  | .ok (some s) => (.ok (some s), m.cache rfqId ⟨size m.store rfqId, s, now⟩)

def getSession (now : ℤ) (m : SessionManager σ) (rfqId : JsString) :
    Except JsString (Option DerivedSession) × SessionManager σ :=
  if size m.store rfqId = 0 then (.ok none, m)
  else match m.sessionCache.get? rfqId with
    | none => m.loadSession now rfqId
    | some entry =>
      if entry.eventCount = size m.store rfqId then
        (.ok (some entry.session), m.cache rfqId { entry with lastAccessedAt := now })
      else m.loadSession now rfqId

/-- Dry run, then append, then cache the candidate. -/
def appendEvent (now : ℤ) (m : SessionManager σ) (rfqId : JsString) (event : NegotiationEvent) :
    Except JsString DerivedSession × SessionManager σ :=
  if m.lockTable.activeLocks rfqId then
    match deriveState (m.log rfqId ++ [event]) with
    | .error e => (.error e, m)
    | .ok none =>
      (.error (js "SessionManager: deriveState returned null after append — should not happen"), m)
    | .ok (some s) =>
      match append m.store rfqId event with
      | .error e => (.error e, m)
      | .ok store =>
        (.ok s, { m with store }.cache rfqId ⟨size store rfqId, s, now⟩)
  else (.error (js "SessionManager.appendEvent: must be called within withLock(\"" ++ rfqId ++
    js "\") context"), m)

/-- A session without a lock counts as removed, and keeps its cache entry. -/
def removeLock (m : SessionManager σ) (rfqId : JsString) : Bool × SessionManager σ :=
  let (removed, lockTable) := m.lockTable.removeLock rfqId
  (removed, { m with
    lockTable
    sessionCache := if removed && (m.lockTable.locks rfqId).isSome then
      m.sessionCache.delete rfqId else m.sessionCache })

def evictStaleCache (now : ℤ) (m : SessionManager σ) (maxAgeMs : ℤ) : SessionManager σ :=
  { m with sessionCache := m.sessionCache.filter fun _ entry =>
      decide (¬ entry.lastAccessedAt < now - maxAgeMs) }

def getActiveSessionIds (m : SessionManager σ) : List JsString := listSessionIds m.store

def hasSession (m : SessionManager σ) (rfqId : JsString) : Bool := decide (0 < size m.store rfqId)

/-- Whether a call of `withLock` runs its callback at once. -/
def startsAtOnce (maxQueueSize : ℕ) (m : SessionManager σ) (rfqId : JsString) : Bool :=
  let (l, c) := m.lockTable.getOrCreateLock rfqId
  decide ((c.lock l).pending < maxQueueSize) && !(c.lock l).running

/-- Did `getSession` return? -/
def loads (now : ℤ) (m : SessionManager σ) (rfqId : JsString) : Bool :=
  succeeds (m.getSession now rfqId).1

/-- `withLock(rfqId, fn)` up to its first suspension. -/
def withLock (maxQueueSize : ℕ) (now : ℤ) (m : SessionManager σ) (t : CallId)
    (rfqId : JsString) : SessionManager σ :=
  { (if m.startsAtOnce maxQueueSize rfqId then (m.getSession now rfqId).2 else m) with
    lockTable := m.lockTable.call maxQueueSize t rfqId (m.loads now rfqId) }

end SessionManager

inductive ManagerLabel where
  | withLock (t : CallId) (rfqId : JsString) (now : ℤ)
  | resume (t : CallId) (now : ℤ)
  | timeout (t : CallId)
  | settle (t : CallId)
  | cleanup (t : CallId)
  | release (t : CallId)
  | removeLock (rfqId : JsString)
  | getSession (rfqId : JsString) (now : ℤ)
  | appendEvent (rfqId : JsString) (event : NegotiationEvent) (now : ℤ)
  | evictStaleCache (now maxAgeMs : ℤ)

namespace SessionManager

variable {σ : Type} [InternalEventStore σ]

/-- A step of the lock table alone. -/
def lockStep (maxQueueSize : ℕ) (m : SessionManager σ) (i : LockLabel) :
    Option (SessionManager σ) :=
  (m.lockTable.step maxQueueSize i).map fun lockTable => { m with lockTable }

def step (maxQueueSize : ℕ) (m : SessionManager σ) : ManagerLabel → Option (SessionManager σ)
  | .withLock t rfqId now =>
    if m.lockTable.turn t = .idle then some (m.withLock maxQueueSize now t rfqId) else none
  | .resume t now =>
    match m.lockTable.turn t with
    | .woken rfqId _ =>
      (m.getSession now rfqId).2.lockStep maxQueueSize (.resume t (m.loads now rfqId))
    | _ => none
  | .timeout t => m.lockStep maxQueueSize (.timeout t)
  | .settle t => m.lockStep maxQueueSize (.settle t)
  | .cleanup t => m.lockStep maxQueueSize (.cleanup t)
  | .release t => m.lockStep maxQueueSize (.release t)
  | .removeLock rfqId => some (m.removeLock rfqId).2
  | .getSession rfqId now => some (m.getSession now rfqId).2
  | .appendEvent rfqId event now => some (m.appendEvent now rfqId event).2
  | .evictStaleCache now maxAgeMs => some (m.evictStaleCache now maxAgeMs)

/-! ### The cache agrees with the log -/

/-- Every log replays, and a cache entry is the session of a prefix of its log. -/
structure Consistent (m : SessionManager σ) : Prop where
  accepted : ∀ r, ∃ s, deriveState (m.log r) = .ok s
  cached : ∀ r entry, m.sessionCache.get? r = some entry →
    entry.eventCount ≤ (m.log r).length ∧
      deriveState ((m.log r).take entry.eventCount) = .ok (some entry.session)

theorem empty_consistent : Consistent (empty : SessionManager σ) where
  accepted r := ⟨none, by rw [empty, log, getAllEvents_empty, deriveState]⟩
  cached := by simp [empty]

/-- Writing an entry that is the session of a prefix. -/
theorem Consistent.cache {m : SessionManager σ} (h : m.Consistent) {r : JsString}
    {entry : CacheEntry} (hle : entry.eventCount ≤ (m.log r).length)
    (hentry : deriveState ((m.log r).take entry.eventCount) = .ok (some entry.session)) :
    (m.cache r entry).Consistent := by
  refine ⟨h.accepted, fun q e he => ?_⟩
  rw [SessionManager.cache, JsMap.get?_set] at he
  split_ifs at he with hq
  · simp only [Option.some.injEq] at he
    rw [← he, hq]
    exact ⟨hle, hentry⟩
  · exact h.cached q e he

/-- Dropping cache entries. -/
theorem Consistent.forget {m : SessionManager σ} (h : m.Consistent)
    {sessionCache : JsMap JsString CacheEntry} {lockTable : LockTable}
    (hsub : ∀ r entry, sessionCache.get? r = some entry → m.sessionCache.get? r = some entry) :
    Consistent { m with sessionCache, lockTable } :=
  ⟨h.accepted, fun r entry he => h.cached r entry (hsub r entry he)⟩

/-- The session comes from the cache or from the replay, and both are the replay. -/
theorem Consistent.getSession {m : SessionManager σ} (h : m.Consistent) (now : ℤ)
    (r : JsString) : (m.getSession now r).1 = deriveState (m.log r) ∧
      (m.getSession now r).2.Consistent ∧ (m.getSession now r).2.store = m.store ∧
      (m.getSession now r).2.lockTable = m.lockTable := by
  have hload : (m.loadSession now r).1 = deriveState (m.log r) ∧
      (m.loadSession now r).2.Consistent ∧ (m.loadSession now r).2.store = m.store ∧
      (m.loadSession now r).2.lockTable = m.lockTable := by
    rw [loadSession]
    cases hs : deriveState (m.log r) with
    | error e => exact ⟨rfl, h, rfl, rfl⟩
    | ok s =>
      cases s with
      | none => exact ⟨rfl, h, rfl, rfl⟩
      | some s =>
        refine ⟨rfl, h.cache (size_eq m.store r).le ?_, rfl, rfl⟩
        rw [size_eq, log, List.take_length, ← log, hs]
  rw [SessionManager.getSession]
  split_ifs with hsize
  · rw [size_eq, List.length_eq_zero_iff] at hsize
    exact ⟨by rw [log, hsize, deriveState], h, rfl, rfl⟩
  · cases hentry : m.sessionCache.get? r with
    | none => exact hload
    | some entry =>
      obtain ⟨hle, htake⟩ := h.cached r entry hentry
      simp only
      split_ifs with hcount
      · have hfull : (m.log r).take entry.eventCount = m.log r := by
          rw [hcount, size_eq, log, List.take_length]
        exact ⟨by rw [← hfull, htake], h.cache hle htake, rfl, rfl⟩
      · exact hload

/-- What `appendEvent` does: it throws and changes nothing, or it appends the event. -/
theorem appendEvent_cases (now : ℤ) (m : SessionManager σ) (r : JsString)
    (event : NegotiationEvent) :
    (∃ e, m.appendEvent now r event = (.error e, m)) ∨
      ∃ s store, m.lockTable.activeLocks r = true ∧
        deriveState (m.log r ++ [event]) = .ok (some s) ∧
        append m.store r event = .ok store ∧ m.appendEvent now r event =
          (.ok s, { m with store }.cache r ⟨size store r, s, now⟩) := by
  rw [appendEvent]
  split_ifs with hactive
  · cases hs : deriveState (m.log r ++ [event]) with
    | error e => exact Or.inl ⟨e, rfl⟩
    | ok s =>
      cases s with
      | none => exact Or.inl ⟨_, rfl⟩
      | some s =>
        cases hstore : append m.store r event with
        | error e => exact Or.inl ⟨e, rfl⟩
        | ok store => exact Or.inr ⟨s, store, hactive, rfl, rfl, rfl⟩
  · exact Or.inl ⟨_, rfl⟩

theorem Consistent.appendEvent {m : SessionManager σ} (h : m.Consistent) (now : ℤ)
    (r : JsString) (event : NegotiationEvent) : (m.appendEvent now r event).2.Consistent := by
  rcases m.appendEvent_cases now r event with ⟨e, he⟩ | ⟨s, store, -, hs, hstore, he⟩
  · rw [he]
    exact h
  rw [he]
  have hlog (q : JsString) : getAllEvents store q =
      if q = r then m.log q ++ [event] else m.log q := append_log hstore q
  have hm : Consistent { m with store } := by
    refine ⟨fun q => ?_, fun q entry hentry => ?_⟩
    · rw [log, hlog]
      split_ifs with hq
      · exact ⟨some s, by rw [hq, hs]⟩
      · exact h.accepted q
    · obtain ⟨hle, htake⟩ := h.cached q entry hentry
      rw [log, hlog]
      split_ifs with hq
      · rw [List.length_append, List.take_append_of_le_length hle]
        exact ⟨by omega, htake⟩
      · exact ⟨hle, htake⟩
  refine hm.cache (size_eq store r).le ?_
  rw [log, size_eq, List.take_length, hlog, if_pos rfl, hs]

theorem Consistent.lockStep {maxQueueSize : ℕ} {m m' : SessionManager σ} (h : m.Consistent)
    {i : LockLabel} (hstep : m.lockStep maxQueueSize i = some m') : m'.Consistent := by
  rw [SessionManager.lockStep, Option.map_eq_some_iff] at hstep
  obtain ⟨c, -, rfl⟩ := hstep
  exact ⟨h.accepted, h.cached⟩

theorem Consistent.withLock {m : SessionManager σ} (h : m.Consistent) (maxQueueSize : ℕ)
    (now : ℤ) (t : CallId) (r : JsString) : (m.withLock maxQueueSize now t r).Consistent := by
  have hg := (h.getSession now r).2.1
  rw [SessionManager.withLock]
  split_ifs
  · exact ⟨hg.accepted, hg.cached⟩
  · exact ⟨h.accepted, h.cached⟩

theorem Consistent.withLock_store {m : SessionManager σ} (h : m.Consistent) (maxQueueSize : ℕ)
    (now : ℤ) (t : CallId) (r : JsString) :
    (m.withLock maxQueueSize now t r).store = m.store := by
  have hg := (h.getSession now r).2.2.1
  rw [SessionManager.withLock]
  split_ifs
  · exact hg
  · rfl

theorem Consistent.removeLock {m : SessionManager σ} (h : m.Consistent) (r : JsString) :
    (m.removeLock r).2.Consistent := by
  refine h.forget fun q entry hentry => ?_
  split_ifs at hentry
  · rw [JsMap.get?_delete] at hentry
    split_ifs at hentry
    exact hentry
  · exact hentry

theorem Consistent.evictStaleCache {m : SessionManager σ} (h : m.Consistent)
    (now maxAgeMs : ℤ) : (m.evictStaleCache now maxAgeMs).Consistent := by
  refine h.forget fun q entry hentry => ?_
  rw [JsMap.get?_filter, Option.filter_eq_some_iff] at hentry
  exact hentry.1

theorem Consistent.step {maxQueueSize : ℕ} {m m' : SessionManager σ} {i : ManagerLabel}
    (h : m.Consistent) (hstep : m.step maxQueueSize i = some m') : m'.Consistent := by
  cases i with
  | withLock t r now =>
    simp only [SessionManager.step, Option.ite_none_right_eq_some, Option.some.injEq] at hstep
    obtain ⟨-, rfl⟩ := hstep
    exact h.withLock maxQueueSize now t r
  | resume t now =>
    simp only [SessionManager.step] at hstep
    split at hstep
    · exact (h.getSession now _).2.1.lockStep hstep
    · simp at hstep
  | timeout t => exact h.lockStep hstep
  | settle t => exact h.lockStep hstep
  | cleanup t => exact h.lockStep hstep
  | release t => exact h.lockStep hstep
  | removeLock r =>
    simp only [SessionManager.step, Option.some.injEq] at hstep
    exact hstep ▸ h.removeLock r
  | getSession r now =>
    simp only [SessionManager.step, Option.some.injEq] at hstep
    exact hstep ▸ (h.getSession now r).2.1
  | appendEvent r event now =>
    simp only [SessionManager.step, Option.some.injEq] at hstep
    exact hstep ▸ h.appendEvent now r event
  | evictStaleCache now maxAgeMs =>
    simp only [SessionManager.step, Option.some.injEq] at hstep
    exact hstep ▸ h.evictStaleCache now maxAgeMs

/-- At every moment of every run, each log replays and `getSession` returns its replay. -/
theorem getSession_eq_deriveState (maxQueueSize : ℕ) (is : List ManagerLabel) (r : JsString)
    (now : ℤ) :
    let m := run (step maxQueueSize) (empty : SessionManager σ) is
    (∃ s, deriveState (getAllEvents m.store r) = .ok s ∧
      (s = none ↔ getAllEvents m.store r = [])) ∧
      (m.getSession now r).1 = deriveState (getAllEvents m.store r) := by
  intro m
  have hm : m.Consistent := run_invariant (fun _ _ _ h hstep => h.step hstep) empty_consistent is
  refine ⟨?_, (hm.getSession now r).1⟩
  obtain ⟨s, hs⟩ := hm.accepted r
  refine ⟨s, hs, fun h => deriveState_none_iff.mp (h ▸ hs), fun h => ?_⟩
  rw [log, h, deriveState, Except.ok.injEq] at hs
  exact hs.symm

end SessionManager
end GhostBazaar.Engine
