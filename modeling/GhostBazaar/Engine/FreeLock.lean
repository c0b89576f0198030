import GhostBazaar.Engine.Growth

/-! Calls that find the lock of their session free: their callbacks start at once, and what they
append is in the log when the step is over. -/
namespace GhostBazaar.Engine
open Js GhostBazaar.Core Settlement Transition InternalEventStore

theorem LockTable.call_starts {maxQueueSize : ℕ} {c : LockTable} {t : CallId} {r : JsString}
    (hpending : ((c.getOrCreateLock r).2.lock (c.getOrCreateLock r).1).pending < maxQueueSize)
    (hrunning : ((c.getOrCreateLock r).2.lock (c.getOrCreateLock r).1).running = false) :
    (c.call maxQueueSize t r true).turn t = .inCallback r (c.getOrCreateLock r).1 ∧
      (c.call maxQueueSize t r true).activeLocks r = true := by
  simp only [call, if_neg (Nat.not_le.mpr hpending), hrunning, Bool.not_false, if_true, start]
  exact ⟨Function.update_self _ _ _, Function.update_self _ _ _⟩

theorem SessionManager.startsAtOnce_congr {σ : Type} {m m' : SessionManager σ}
    (h : m.lockTable = m'.lockTable) (maxQueueSize : ℕ) (r : JsString) :
    m.startsAtOnce maxQueueSize r = m'.startsAtOnce maxQueueSize r := by
  unfold startsAtOnce
  rw [h]

theorem SessionManager.withLock_starts {σ : Type} [InternalEventStore σ] {m : SessionManager σ}
    {maxQueueSize : ℕ} {now : ℤ} {t : CallId} {r : JsString}
    (hstarts : m.startsAtOnce maxQueueSize r = true) (hloads : m.loads now r = true) :
    (∃ l, (m.withLock maxQueueSize now t r).lockTable.turn t = .inCallback r l) ∧
      (m.withLock maxQueueSize now t r).lockTable.activeLocks r = true := by
  simp only [startsAtOnce, Bool.and_eq_true, decide_eq_true_eq, Bool.not_eq_true'] at hstarts
  have hcall := LockTable.call_starts (t := t) hstarts.1 hstarts.2
  simp only [withLock, hloads]
  exact ⟨⟨_, hcall.1⟩, hcall.2⟩

namespace EngineState

variable {σ : Type} [InternalEventStore σ] {env : EngineEnv} {e e₀ : EngineState σ}
  {t : CallId} {r : JsString} {s s' : DerivedSession} {m : Moment} {callback : Callback}
  {event : NegotiationEvent}

theorem inv_next (he : Inv env (fun _ _ => True) e) (i : EngineLabel) :
    Inv env (fun _ _ => True) (next (step env) e i) :=
  next_induction he fun _ hstep => he.step (presents_true i) hstep

/-- Call `t` is suspended, and its segments have changed neither the logs nor the locks. -/
structure Waits (env : EngineEnv) (e₀ e : EngineState σ) (t : CallId) (k : Continuation) :
    Prop where
  inv : Inv env (fun _ _ => True) e
  task : e.task t = .suspended k
  store : e.manager.store = e₀.manager.store
  lockTable : e.manager.lockTable = e₀.manager.lockTable

theorem Waits.log {k : Continuation} (h : Waits env e₀ e t k) (q : JsString) :
    e.manager.log q = e₀.manager.log q := congrArg (getAllEvents · q) h.store

theorem next_eq {i : EngineLabel} {e' : EngineState σ} (h : e.step env i = some e') :
    next (step env) e i = e' := by
  rw [next, h, Option.getD_some]

omit [InternalEventStore σ] in
theorem settle_store (e : EngineState σ) (t : CallId) (outcome : Handling (Option Reply)) :
    (e.settle env t outcome).manager.store = e.manager.store := by
  unfold settle moveLock
  cases hstep : (e.setTask t (.finished outcome)).manager.lockStep env.maxQueueSize (.settle t) with
  | none => rfl
  | some manager =>
    rw [SessionManager.lockStep, Option.map_eq_some_iff] at hstep
    obtain ⟨lockTable, -, rfl⟩ := hstep
    rfl

omit [InternalEventStore σ] in
theorem settle_task (e : EngineState σ) (t : CallId) (outcome : Handling (Option Reply)) :
    (e.settle env t outcome).task t = .finished outcome :=
  Function.update_self _ _ _

/-- The callback of a call that finds the lock free starts in the same step. -/
theorem withLock_runs (he : Inv env (fun _ _ => True) e)
    (hs : deriveState (e.manager.log r) = .ok (some s))
    (hstarts : e.manager.startsAtOnce env.maxQueueSize r = true) (m : Moment) (t : CallId)
    (callback : Callback) :
    ∃ e' : EngineState σ, e.withLock env m t r callback =
        e'.runCallback env m t r callback (some s) ∧
      e'.manager.store = e.manager.store ∧ e'.manager.lockTable.activeLocks r = true ∧
      e'.listingStore = e.listingStore := by
  have hget : (e.manager.getSession m.now r).1 = .ok (some s) := by
    rw [(he.consistent.getSession m.now r).1, hs]
  have hloads : e.manager.loads m.now r = true := by
    rw [SessionManager.loads, hget]
    rfl
  obtain ⟨⟨l, hturn⟩, hactive⟩ := SessionManager.withLock_starts (t := t) hstarts hloads
  refine ⟨(e.setTask t (.waiting r callback)).setManager
    (e.manager.withLock env.maxQueueSize m.now t r), ?_,
    he.consistent.withLock_store env.maxQueueSize m.now t r, hactive, rfl⟩
  have hturn' : ((e.setTask t (.waiting r callback)).setManager
      (e.manager.withLock env.maxQueueSize m.now t r)).manager.lockTable.turn t =
        .inCallback r l := hturn
  unfold withLock
  rw [hget]
  unfold enter
  rw [hturn']

/-- A commit under the lock appends its event and answers. -/
theorem commit_appends (hactive : e.manager.lockTable.activeLocks r = true)
    (hderive : deriveState (e.manager.log r ++ [event]) = .ok (some s'))
    (hstores : ∃ store, append e.manager.store r event = .ok store) :
    (e.commit env m t r callback event).manager.log r = e.manager.log r ++ [event] ∧
      (e.commit env m t r callback event).task t =
        .finished (callback.reply env m.now r s') := by
  obtain ⟨store, happend⟩ := hstores
  have happended : e.manager.appendEvent m.now r event =
      (.ok s', { e.manager with store }.cache r ⟨size store r, s', m.now⟩) := by
    rw [SessionManager.appendEvent, if_pos hactive, hderive]
    simp only [happend]
  rw [commit, happended]
  refine ⟨?_, settle_task _ t _⟩
  have hfinal := append_log happend r
  rw [if_pos rfl] at hfinal
  exact (congrArg (getAllEvents · r) (settle_store _ t _)).trans hfinal

/-- On a free lock, what a callback appends is in the log at once. -/
theorem withLock_appends (he : Inv env (fun _ _ => True) e)
    (hs : deriveState (e.manager.log r) = .ok (some s))
    (hstarts : e.manager.startsAtOnce env.maxQueueSize r = true)
    (hrun : callback.run env m e.listingStore r (e.manager.log r) (some s) =
      .ok (.append event))
    (hderive : deriveState (e.manager.log r ++ [event]) = .ok (some s'))
    (hstores : ∃ store, append e.manager.store r event = .ok store) :
    (e.withLock env m t r callback).manager.log r = e.manager.log r ++ [event] ∧
      (e.withLock env m t r callback).task t = .finished (callback.reply env m.now r s') := by
  obtain ⟨e', hwith, hstore, hactive, hlistings⟩ := withLock_runs he hs hstarts m t callback
  have hlog : e'.manager.log r = e.manager.log r := congrArg (getAllEvents · r) hstore
  have hcommit : e'.runCallback env m t r callback (some s) = e'.commit env m t r callback event := by
    rw [runCallback, hlistings, hlog, hrun]
  rw [hwith, hcommit, ← hlog]
  exact commit_appends hactive (hlog ▸ hderive) (hstore ▸ hstores)

end EngineState
end GhostBazaar.Engine
