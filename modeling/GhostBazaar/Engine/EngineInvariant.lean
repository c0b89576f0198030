import GhostBazaar.Engine.Journal

/-! The invariant of the engine: the logs are those of the journal, and what a suspended
request has checked still stands behind what it does next. -/
namespace GhostBazaar.Engine
open Js GhostBazaar.Core Settlement Transition

/-! ### Callbacks -/

/-- Only a signing callback suspends inside the lock, on a session that awaits signatures. -/
theorem Callback.run_verify {env : EngineEnv} {m : Moment} {listings : ListingStore}
    {r : JsString} {log : List NegotiationEvent} {before : Option DerivedSession}
    {callback : Callback} {role : SigningRole} {signature : JsString} {s : DerivedSession}
    (h : callback.run env m listings r log before = .ok (.verify role signature s)) :
    callback = .sign role signature ∧ before = some s ∧ s.state = .commitPending := by
  cases callback with
  | sign role' signature' =>
    cases role' with
    | buyer =>
      simp only [Callback.run, map_eq_ok, LockedResult.verify.injEq] at h
      obtain ⟨s', hlocked, rfl, rfl, rfl⟩ := h
      obtain ⟨hbefore, hstate, -⟩ := lockedQuoteSign_ok hlocked
      exact ⟨rfl, hbefore, hstate⟩
    | seller =>
      simp only [Callback.run, map_eq_ok, LockedResult.verify.injEq] at h
      obtain ⟨s', hlocked, rfl, rfl, rfl⟩ := h
      obtain ⟨hbefore, hstate, -⟩ := lockedCosign_ok hlocked
      exact ⟨rfl, hbefore, hstate⟩
  | confirm c =>
    simp only [Callback.run, bind_eq_ok] at h
    obtain ⟨event, -, h⟩ := h
    cases event <;> simp [confirmResult, map_eq_ok] at h
  | expire | cosignTimeout =>
    simp only [Callback.run, map_eq_ok] at h
    obtain ⟨event, -, h⟩ := h
    cases event <;> simp [appendOrLeave] at h
  | _ =>
    simp only [Callback.run, map_eq_ok, reduceCtorEq, and_false, exists_false] at h

/-! ### The invariant -/

/-- Where the lock table may have a task. -/
def Task.Fits : Task → Turn → Prop
  | .idle, p | .suspended _, p => p = .idle
  | .waiting r _, p => ∀ r' l, p.on = some (r', l) → r' = r
  | .verifying r _ _ _, p => ∃ l, p = .inCallback r l
  | .finished _, _ => True

/-- What a task has checked. A signing callback that verifies a signature still has the
session of the log in its hands. -/
def Task.Checked (env : EngineEnv) (P : DerivedSession → Members → Prop)
    (answers : List (JsString × JsValue)) (h : List Entry) : Task → Prop
  | .suspended k => k.Checked env P answers h
  | .waiting r callback => Admitted env P answers h r callback
  | .verifying r role signature s => deriveState (logOf h r) = .ok (some s) ∧
      Admitted env P answers h r (.sign role signature) ∧
      ∃ m listings, (Callback.sign role signature).run env m listings r (logOf h r) (some s) =
        .ok (.verify role signature s)
  | .idle | .finished _ => True

theorem Task.Checked.mono {env : EngineEnv} {P : DerivedSession → Members → Prop}
    {answers answers' : List (JsString × JsValue)} {h h' : List Entry} {task : Task}
    (ht : task.Checked env P answers h) (ha : answers ⊆ answers') (hp : h <+: h')
    (hsame : ∀ r role signature s, task = .verifying r role signature s →
      logOf h' r = logOf h r) : task.Checked env P answers' h' := by
  cases task with
  | suspended k => exact Continuation.Checked.mono ht ha hp
  | waiting r callback => exact Admitted.mono ht ha hp
  | verifying r role signature s =>
    obtain ⟨hs, hadmitted, m, listings, hrun⟩ := ht
    have hlog := hsame r role signature s rfl
    exact ⟨hlog ▸ hs, hadmitted.mono ha hp, m, listings, hlog ▸ hrun⟩
  | idle | finished _ => trivial

/-- The enforcer removes no lock of such a session. -/
def Live (h : List Entry) (r : JsString) : Prop :=
  ∀ s, deriveState (logOf h r) = .ok (some s) → s.state.isTerminal = false

namespace EngineState

variable {σ : Type} [InternalEventStore σ]

structure Inv (env : EngineEnv) (P : DerivedSession → Members → Prop) (e : EngineState σ) :
    Prop where
  consistent : e.manager.Consistent
  wellFormed : e.manager.lockTable.WellFormed
  exclusive : ∀ r, Live e.history r → e.manager.lockTable.Exclusive r
  fits : ∀ t, (e.task t).Fits (e.manager.lockTable.turn t)
  log : ∀ r, e.manager.log r = logOf e.history r
  journal : Journal env P e.answers e.history
  checked : ∀ t, (e.task t).Checked env P e.answers e.history

variable {env : EngineEnv} {P : DerivedSession → Members → Prop} {e : EngineState σ}

theorem empty_inv : Inv env P (empty : EngineState σ) where
  consistent := SessionManager.empty_consistent
  wellFormed := LockTable.empty_wellFormed
  exclusive r _ := LockTable.empty_exclusive r
  fits _ := rfl
  log r := InternalEventStore.getAllEvents_empty r
  journal := .nil
  checked _ := trivial

/-! ### One field at a time -/

omit [InternalEventStore σ] in
@[simp] theorem task_setTask (e : EngineState σ) (t u : CallId) (task : Task) :
    (e.setTask t task).task u = if u = t then task else e.task u := by
  simp [setTask, Function.update_apply]

theorem Inv.setTask (he : Inv env P e) {t : CallId} {task : Task}
    (hfits : task.Fits (e.manager.lockTable.turn t))
    (hchecked : task.Checked env P e.answers e.history) : Inv env P (e.setTask t task) :=
  { he with
    fits := fun u => by
      rw [task_setTask]
      split_ifs with hu
      · exact hu ▸ hfits
      · exact he.fits u
    checked := fun u => by
      rw [task_setTask]
      split_ifs with hu
      · exact hchecked
      · exact he.checked u }

theorem Inv.finish (he : Inv env P e) (t : CallId) (outcome : Handling (Option Reply)) :
    Inv env P (e.setTask t (.finished outcome)) := he.setTask trivial trivial

/-- Another manager with the same logs. -/
theorem Inv.setManager (he : Inv env P e) {manager : SessionManager σ}
    (hconsistent : manager.Consistent) (hstore : manager.store = e.manager.store)
    (hwell : manager.lockTable.WellFormed)
    (hexclusive : ∀ r, Live e.history r → manager.lockTable.Exclusive r)
    (hfits : ∀ t, (e.task t).Fits (manager.lockTable.turn t)) :
    Inv env P (e.setManager manager) :=
  { he with
    consistent := hconsistent
    wellFormed := hwell
    exclusive := hexclusive
    fits := hfits
    log := fun r => (congrArg (InternalEventStore.getAllEvents · r) hstore).trans (he.log r) }

/-- Another cache. -/
theorem Inv.setCache (he : Inv env P e) {manager : SessionManager σ}
    (hconsistent : manager.Consistent) (hstore : manager.store = e.manager.store)
    (hlock : manager.lockTable = e.manager.lockTable) : Inv env P (e.setManager manager) :=
  he.setManager hconsistent hstore (hlock ▸ he.wellFormed)
    (fun r hr => hlock ▸ he.exclusive r hr) fun t => hlock ▸ he.fits t

theorem Inv.getSession (he : Inv env P e) (now : ℤ) (r : JsString) :
    (e.manager.getSession now r).1 = deriveState (logOf e.history r) ∧
      Inv env P (e.setManager (e.manager.getSession now r).2) := by
  obtain ⟨hs, hconsistent, hstore, hlock⟩ := he.consistent.getSession now r
  exact ⟨by rw [hs, he.log], he.setCache hconsistent hstore hlock⟩

theorem Inv.answer (he : Inv env P e) (paymentSignature : JsString) (tx : JsValue) :
    Inv env P (e.answer paymentSignature tx) :=
  { he with
    journal := he.journal.mono (List.subset_cons_self _ _)
    checked := fun t => (he.checked t).mono (List.subset_cons_self _ _) List.prefix_rfl
      fun _ _ _ _ _ => rfl }

/-! ### The lock table -/

theorem Task.Fits.step {maxQueueSize : ℕ} {c c' : LockTable} {i : LockLabel} {task : Task}
    {t : CallId} (hfits : task.Fits (c.turn t)) (hstep : c.step maxQueueSize i = some c')
    (hcall : ∀ r loaded, i = .call t r loaded → ∃ callback, task = .waiting r callback)
    (hsettle : i = .settle t → ∃ outcome, task = .finished outcome) :
    task.Fits (c'.turn t) := by
  rcases c.step_turn hstep t with hsame | ⟨r, loaded, hi, hon⟩ | hi | ⟨hidle, hin, hon⟩
  · exact hsame ▸ hfits
  · obtain ⟨callback, rfl⟩ := hcall r loaded hi
    exact hon
  · obtain ⟨outcome, rfl⟩ := hsettle hi
    trivial
  · cases task with
    | idle | suspended _ => exact absurd hfits hidle
    | waiting r callback => exact fun r' l h => hfits r' l (hon _ h)
    | verifying r _ _ _ =>
      obtain ⟨l, hl⟩ := hfits
      exact absurd hl (hin r l)
    | finished _ => trivial

/-- A step of the lock table that removes no lock of a live session. -/
theorem Inv.lockTable (he : Inv env P e) {manager : SessionManager σ} {i : LockLabel}
    (hconsistent : manager.Consistent) (hstore : manager.store = e.manager.store)
    (hstep : e.manager.lockTable.step env.maxQueueSize i = some manager.lockTable)
    (hremove : ∀ r, Live e.history r → i ≠ .removeLock r)
    (hcall : ∀ t r loaded, i = .call t r loaded → ∃ callback, e.task t = .waiting r callback)
    (hsettle : ∀ t, i = .settle t → ∃ outcome, e.task t = .finished outcome) :
    Inv env P (e.setManager manager) := by
  refine he.setManager hconsistent hstore (he.wellFormed.step hstep) (fun r hr => ?_) fun t => ?_
  · refine (he.exclusive r hr).step he.wellFormed (fun hwindow => ?_) hstep
    cases i with
    | removeLock s => exact hremove r hr (by rw [hwindow.1])
    | _ => exact hwindow
  · exact Task.Fits.step (he.fits t) hstep (hcall t) (hsettle t)

theorem Inv.lockStep (he : Inv env P e) {manager : SessionManager σ} {i : LockLabel}
    (hstep : e.manager.lockStep env.maxQueueSize i = some manager)
    (hremove : ∀ r, i ≠ .removeLock r) (hcall : ∀ t r loaded, i ≠ .call t r loaded)
    (hsettle : ∀ t, i = .settle t → ∃ outcome, e.task t = .finished outcome) :
    Inv env P (e.setManager manager) := by
  have hconsistent := he.consistent.lockStep hstep
  rw [SessionManager.lockStep, Option.map_eq_some_iff] at hstep
  obtain ⟨c, hc, rfl⟩ := hstep
  exact he.lockTable hconsistent rfl hc (fun r _ => hremove r)
    (fun t r loaded hi => absurd hi (hcall t r loaded)) hsettle

theorem Inv.moveSettled (he : Inv env P e) {t : CallId} {outcome : Handling (Option Reply)}
    (ht : e.task t = .finished outcome) : Inv env P (e.moveLock env (.settle t)) := by
  rw [moveLock]
  cases hstep : e.manager.lockStep env.maxQueueSize (.settle t) with
  | none => exact he
  | some manager =>
    refine he.lockStep hstep (by rintro _ ⟨⟩) (by rintro _ _ _ ⟨⟩) fun u hu => ⟨outcome, ?_⟩
    rw [LockLabel.settle.injEq] at hu
    exact hu ▸ ht

theorem Inv.settle (he : Inv env P e) (t : CallId) (outcome : Handling (Option Reply)) :
    Inv env P (e.settle env t outcome) :=
  (he.finish t outcome).moveSettled (by rw [task_setTask, if_pos rfl])

/-! ### Appends -/

/-- A terminal session stays terminal. -/
theorem Live.of_snoc {h : List Entry} {en : Entry} {r : JsString}
    (hlive : Live (h ++ [en]) r) (hen : ∃ s, deriveState (logOf h en.rfqId ++ [en.event]) =
      .ok (some s)) : Live h r := by
  intro s hs
  by_cases hr : r = en.rfqId
  · obtain ⟨s', hs'⟩ := hen
    have hlater := hlive s' (by rw [logOf_snoc, if_pos hr, hr, hs'])
    rw [← hr] at hs'
    rcases derives_append hs' with ⟨hlog, -⟩ | ⟨first, s₀, -, hs₀, hstep⟩
    · simp [hlog, deriveState] at hs
    · obtain rfl : s₀ = s := by simpa using hs₀.symm.trans hs
      exact hstep.live hlater
  · exact hlive s (by rw [logOf_snoc, if_neg hr, hs])

/-- The append of an event by a task inside its callback; no other task of the session
verifies a signature then. -/
theorem Inv.append (he : Inv env P e) {t : CallId} {outcome : Handling (Option Reply)}
    (en : Entry) {l : LockId} {now : ℤ} {s : DerivedSession} {manager : SessionManager σ}
    (ht : e.task t = .finished outcome)
    (hturn : e.manager.lockTable.turn t = .inCallback en.rfqId l)
    (happend : e.manager.appendEvent now en.rfqId en.event = (.ok s, manager))
    (hproduced : ∃ before, deriveState (logOf e.history en.rfqId) = .ok before ∧
      Produces env e.history en.rfqId before en.callback en.event)
    (hadmitted : Admitted env P e.answers e.history en.rfqId en.callback) :
    Inv env P ((e.setManager manager).record en) := by
  have hconsistent := he.consistent.appendEvent now en.rfqId en.event
  obtain ⟨err, herr⟩ | ⟨s', store, -, hs, hstore, hmanager⟩ :=
    e.manager.appendEvent_cases now en.rfqId en.event
  · simp [herr] at happend
  rw [hmanager, Prod.mk.injEq] at happend
  obtain ⟨-, rfl⟩ := happend
  rw [he.log] at hs
  have hlog (r : JsString) : InternalEventStore.getAllEvents store r =
      logOf (e.history ++ [en]) r := by
    rw [InternalEventStore.append_log hstore, logOf_snoc, ← he.log, SessionManager.log]
  refine
    { consistent := by rwa [hmanager] at hconsistent
      wellFormed := he.wellFormed
      exclusive := fun r hr => he.exclusive r (Live.of_snoc hr ⟨s', hs⟩)
      fits := he.fits
      log := hlog
      journal := he.journal.snoc
        { replays := ⟨s', hs⟩
          produced := hproduced
          admitted := hadmitted
          rfqId := InternalEventStore.append_rfqId hstore
          fresh := fun other hother => ?_ }
      checked := fun u => ?_ }
  · refine InternalEventStore.append_fresh hstore other.rfqId other.event ?_
    show other.event ∈ e.manager.log other.rfqId
    rw [he.log]
    exact mem_logOf.mpr ⟨other, hother, rfl, rfl⟩
  · refine (he.checked u).mono (List.Subset.refl _) (List.prefix_append _ _) ?_
    intro r role signature s₀ hu
    refine (logOf_snoc _ _ _).trans (if_neg ?_)
    rintro rfl
    -- both tasks would be inside a callback of a session that is not terminal
    have hu' := hu ▸ he.checked u
    obtain ⟨hs₀, -, m, listings, hrun⟩ := hu'
    have hlive : Live e.history en.rfqId := fun s₁ hs₁ => by
      obtain rfl : s₀ = s₁ := by simpa using hs₀.symm.trans hs₁
      rw [(Callback.run_verify hrun).2.2]
      rfl
    obtain ⟨l', hl'⟩ : ∃ l', e.manager.lockTable.turn u = .inCallback en.rfqId l' := by
      simpa [hu, Task.Fits] using he.fits u
    have hut : u = t := (he.exclusive _ hlive).unique he.wellFormed (by rw [hl', Turn.entered])
      (by rw [hturn, Turn.entered])
    rw [hut, ht] at hu
    simp at hu

theorem Inv.commit (he : Inv env P e) {m : Moment} {t : CallId} {r : JsString} {l : LockId}
    {callback : Callback} {event : NegotiationEvent}
    (hturn : e.manager.lockTable.turn t = .inCallback r l)
    (hproduced : ∃ before, deriveState (logOf e.history r) = .ok before ∧
      Produces env e.history r before callback event)
    (hadmitted : Admitted env P e.answers e.history r callback) :
    Inv env P (e.commit env m t r callback event) := by
  unfold EngineState.commit
  split
  · rename_i err manager happend
    obtain ⟨err', herr⟩ | ⟨s, store, -, -, -, hok⟩ := e.manager.appendEvent_cases m.now r event
    · rw [herr, Prod.mk.injEq] at happend
      exact happend.2 ▸ he.settle t _
    · simp [hok] at happend
  · rename_i s manager happend
    have ht : (e.setTask t (.finished (callback.reply env m.now r s))).task t =
        .finished (callback.reply env m.now r s) := by rw [task_setTask, if_pos rfl]
    exact ((he.finish t _).append ⟨r, callback, event⟩ ht hturn happend hproduced
      hadmitted).moveSettled ht

theorem Inv.runCallback (he : Inv env P e) {m : Moment} {t : CallId} {r : JsString} {l : LockId}
    {callback : Callback} {session : Option DerivedSession}
    (ht : e.task t = .waiting r callback)
    (hturn : e.manager.lockTable.turn t = .inCallback r l)
    (hs : deriveState (logOf e.history r) = .ok session) :
    Inv env P (e.runCallback env m t r callback session) := by
  have hadmitted : Admitted env P e.answers e.history r callback := by
    simpa [ht, Task.Checked] using he.checked t
  unfold EngineState.runCallback
  rw [he.log]
  split
  · exact he.settle t _
  · exact he.settle t _
  · rename_i event hrun
    exact he.commit hturn ⟨session, hs, .run m e.listingStore callback event hrun⟩ hadmitted
  · rename_i role signature s hrun
    obtain ⟨rfl, rfl, -⟩ := Callback.run_verify hrun
    exact he.setTask ⟨l, hturn⟩ ⟨hs, hadmitted, m, e.listingStore, hrun⟩

/-! ### Taking the lock -/

theorem Inv.enter (he : Inv env P e) {m : Moment} {t : CallId} {r : JsString}
    {callback : Callback} {session : Except JsString (Option DerivedSession)}
    (ht : e.task t = .waiting r callback)
    (hs : session = deriveState (logOf e.history r)) :
    Inv env P (e.enter env m t r callback session) := by
  unfold EngineState.enter
  split
  · rename_i r' l session hturn
    obtain rfl : r' = r := by simpa [ht, Task.Fits, hturn, Turn.on] using he.fits t
    exact he.runCallback ht hturn hs.symm
  · exact he
  · exact he.finish t _
  · exact he.finish t _

/-- The state at the call of `withLock`, with the lock table after it. -/
theorem Inv.locked (he : Inv env P e) {m : Moment} {t : CallId} {r : JsString}
    {callback : Callback} (hturn : e.manager.lockTable.turn t = .idle)
    (hadmitted : Admitted env P e.answers e.history r callback) :
    Inv env P ((e.setTask t (.waiting r callback)).setManager
      (e.manager.withLock env.maxQueueSize m.now t r)) := by
  have hwaiting : Inv env P (e.setTask t (.waiting r callback)) :=
    he.setTask (fun r' l h => by rw [hturn] at h; cases h) hadmitted
  have hconsistent : (e.manager.withLock env.maxQueueSize m.now t r).Consistent :=
    he.consistent.withLock env.maxQueueSize m.now t r
  refine hwaiting.lockTable (i := .call t r (e.manager.loads m.now r)) hconsistent
    (he.consistent.withLock_store env.maxQueueSize m.now t r) ?_ (by rintro _ _ ⟨⟩) ?_
    (by rintro _ ⟨⟩)
  · exact if_pos hturn
  · rintro u r' loaded hi
    cases hi
    exact ⟨callback, by rw [task_setTask, if_pos rfl]⟩

theorem Inv.withLock (he : Inv env P e) {m : Moment} {t : CallId} {r : JsString}
    {callback : Callback} (hturn : e.manager.lockTable.turn t = .idle)
    (hadmitted : Admitted env P e.answers e.history r callback) :
    Inv env P (e.withLock env m t r callback) :=
  (he.locked hturn hadmitted).enter ((task_setTask e t t _).trans (if_pos rfl))
    (he.getSession m.now r).1

theorem Inv.proceed (he : Inv env P e) {m : Moment} {t : CallId} {next : Handling Next}
    (hturn : e.manager.lockTable.turn t = .idle)
    (hnext : ∀ n, next = .ok n → n.Checked env P e.answers e.history) :
    Inv env P (e.proceed env m t next) := by
  unfold EngineState.proceed
  split
  · exact he.finish t _
  · rename_i k
    exact he.setTask hturn (hnext _ rfl)
  · rename_i r callback
    exact he.withLock hturn (hnext _ rfl)

theorem Inv.runSegment (he : Inv env P e) {m : Moment} {t : CallId} {segment : Segment}
    (hturn : e.manager.lockTable.turn t = .idle)
    (hsegment : ∀ n, segment.Gives e.history n → n.Checked env P e.answers e.history) :
    Inv env P (e.runSegment env m t segment) := by
  cases segment with
  | done next => exact he.proceed hturn fun n hn => hsegment n (Segment.gives_done.mpr hn)
  | load r k =>
    obtain ⟨hs, hinv⟩ := he.getSession m.now r
    have hlock := (he.consistent.getSession m.now r).2.2.2
    refine hinv.proceed (by rw [← hturn, ← hlock]; rfl) fun n hn => hsegment n ?_
    rw [hs, bind_eq_ok] at hn
    obtain ⟨session, hsession, hk⟩ := hn
    refine Segment.gives_load.mpr ⟨session, ?_, hk⟩
    exact thrownError_eq_ok.mp hsession
  | probe r k => exact he.proceed hturn fun n hn => hsegment n (.probe r k _ n hn)

/-! ### Steps -/

theorem Inv.writeTombstone (he : Inv env P e) (now : ℤ) (envelopeId : Option JsString) :
    Inv env P (e.writeTombstone now envelopeId) := by
  cases envelopeId with
  | none => exact he
  | some envelopeId => exact { he with }

omit [InternalEventStore σ] in
theorem writeTombstone_frame (e : EngineState σ) (now : ℤ) (envelopeId : Option JsString) :
    (e.writeTombstone now envelopeId).manager = e.manager ∧
      (e.writeTombstone now envelopeId).history = e.history ∧
      (e.writeTombstone now envelopeId).answers = e.answers := by
  cases envelopeId <;> exact ⟨rfl, rfl, rfl⟩

theorem Inv.woken (he : Inv env P e) {m : Moment} {t : CallId} {manager : SessionManager σ}
    (hstep : e.manager.step env.maxQueueSize (.resume t m.now) = some manager) :
    Inv env P (e.setManager manager) ∧ manager.store = e.manager.store := by
  cases hturn : e.manager.lockTable.turn t with
  | woken r' l =>
    simp only [SessionManager.step, hturn] at hstep
    have hinv := (he.getSession m.now r').2
    refine ⟨hinv.lockStep hstep (by rintro _ ⟨⟩) (by rintro _ _ _ ⟨⟩) (by rintro _ ⟨⟩), ?_⟩
    rw [SessionManager.lockStep, Option.map_eq_some_iff] at hstep
    obtain ⟨c, -, rfl⟩ := hstep
    exact (he.consistent.getSession m.now r').2.2.1
  | _ => simp [SessionManager.step, hturn] at hstep

theorem Inv.wake (he : Inv env P e) {m : Moment} {t : CallId} {r : JsString}
    {callback : Callback} {manager : SessionManager σ} (ht : e.task t = .waiting r callback)
    (hstep : e.manager.step env.maxQueueSize (.resume t m.now) = some manager) :
    Inv env P ((e.setManager manager).enter env m t r callback
      (e.manager.getSession m.now r).1) :=
  (he.woken hstep).1.enter ht (he.getSession m.now r).1

theorem Inv.continued (he : Inv env P e) {m : Moment} {t : CallId} {k : Continuation}
    {segment : Segment} (ht : e.task t = .suspended k) (hsegment : k.resume env m = some segment) :
    Inv env P ((e.writeTombstone m.now k.tombstone).runSegment env m t segment) := by
  have hfits := he.fits t
  have hchecked := he.checked t
  rw [ht] at hfits hchecked
  obtain ⟨hmanager, hhistory, hanswers⟩ := e.writeTombstone_frame m.now k.tombstone
  refine (he.writeTombstone m.now k.tombstone).runSegment (by rw [hmanager]; exact hfits) ?_
  rw [hhistory, hanswers]
  exact fun n hn => Continuation.resume_checked hchecked hsegment hn

theorem Inv.signed (he : Inv env P e) {m : Moment} {t : CallId} {r : JsString}
    {role : SigningRole} {signature : JsString} {s : DerivedSession} {event : NegotiationEvent}
    (ht : e.task t = .verifying r role signature s)
    (hfinish : finishSign env m r role signature s = .ok event) :
    Inv env P (e.commit env m t r (.sign role signature) event) := by
  have hfits := he.fits t
  have hchecked := he.checked t
  rw [ht] at hfits hchecked
  obtain ⟨l, hturn⟩ := hfits
  obtain ⟨hs, hadmitted, m', listings, hrun⟩ := hchecked
  exact he.commit hturn ⟨some s, hs, .sign m' m listings role signature s event rfl hrun hfinish⟩
    hadmitted

/-- `P` holds of the quote that the RPC reply lets `/execute` record. -/
def Presents (env : EngineEnv) (P : DerivedSession → Members → Prop) (e : EngineState σ) :
    EngineLabel → Prop
  | .rpcReturns t tx _ => ∀ fetch request quote,
      e.task t = .suspended (.fetching fetch request quote) → fetch = .execute →
        ∀ result r s, settleTransaction env.toSettlementEnv request quote tx = .ok result →
          quote.lookup (js "rfq_id") = some (.str r) →
          deriveState (e.manager.log r) = .ok (some s) → s.state = .committed →
          requireQuoteId s (quote.lookup (js "quote_id")) = .ok () →
          ¬ Settled (e.manager.log r) → P s quote
  | _ => True

theorem presents_true (i : EngineLabel) : e.Presents env (fun _ _ => True) i := by
  cases i <;> simp [Presents]

theorem Inv.rpcReturns (he : Inv env P e) {m : Moment} {t : CallId} {tx : JsValue}
    {fetch : Fetch} {request : SettlementRequest} {quote : Members}
    (hP : e.Presents env P (.rpcReturns t tx m))
    (ht : e.task t = .suspended (.fetching fetch request quote)) :
    Inv env P ((e.answer request.paymentSignature tx).runSegment env m t
      (fetch.resume env m request quote tx)) := by
  have hfits := he.fits t
  have hchecked := he.checked t
  rw [ht] at hfits hchecked
  refine (he.answer request.paymentSignature tx).runSegment hfits fun n hn => ?_
  refine Fetch.resume_checked hchecked List.mem_cons_self
    (fun hfetch result r s hresult hr hs => ?_) hn
  have hpresented := hP fetch request quote ht hfetch result r s hresult hr
  rw [he.log] at hpresented
  exact hpresented hs

theorem Inv.scan (he : Inv env P e) {m : Moment} {t : CallId} {r : JsString}
    {s : DerivedSession} (hturn : e.manager.lockTable.turn t = .idle)
    (hs : deriveState (logOf e.history r) = .ok (some s)) :
    Inv env P (e.scan env m t r s) := by
  unfold EngineState.scan
  split
  · exact he
  · rename_i hscan
    have hterminal : s.state.isTerminal = true := by
      unfold scanSession at hscan
      split_ifs at hscan with h
      exact h
    refine he.lockTable (i := .removeLock r) (he.consistent.removeLock r) rfl rfl ?_
      (by rintro _ _ _ ⟨⟩) (by rintro _ ⟨⟩)
    rintro r' hlive heq
    rw [LockLabel.removeLock.injEq] at heq
    have hs' := hlive s (by rw [← heq, hs])
    rw [hterminal] at hs'
    exact Bool.false_ne_true hs'.symm
  · exact he.withLock hturn trivial
  · exact he.withLock hturn trivial

theorem Inv.restart (he : Inv env P e) : Inv env P { e with
      manager := { (SessionManager.empty : SessionManager σ) with store := e.manager.store }
      tombstones := .empty
      listingStore := .empty
      task := fun _ => .idle } :=
  { consistent := ⟨he.consistent.accepted, fun r entry h => by simp [SessionManager.empty] at h⟩
    wellFormed := LockTable.empty_wellFormed
    exclusive := fun r _ => LockTable.empty_exclusive r
    fits := fun _ => rfl
    log := he.log
    journal := he.journal
    checked := fun _ => trivial }

theorem Inv.step (he : Inv env P e) {e' : EngineState σ} {i : EngineLabel}
    (hP : e.Presents env P i) (hstep : e.step env i = some e') : Inv env P e' := by
  cases steps_of_step hstep with
  | @request t request m ht =>
    have hfits := he.fits t
    rw [ht] at hfits
    exact he.runSegment hfits fun n hn => Request.begin_checked hn
  | continued m ht hsegment => exact he.continued ht hsegment
  | woken m ht hmanager => exact he.wake ht hmanager
  | signRefused => exact he.settle _ _
  | signed m ht hfinish => exact he.signed ht hfinish
  | rpcReturns tx m ht => exact he.rpcReturns hP ht
  | rpcThrows => exact he.finish _ _
  | lockTimeout _ hmanager =>
    exact (he.lockStep hmanager (by rintro _ ⟨⟩) (by rintro _ _ _ ⟨⟩) (by rintro _ ⟨⟩)).finish _ _
  | cleanup hmanager | release hmanager =>
    exact he.lockStep hmanager (by rintro _ ⟨⟩) (by rintro _ _ _ ⟨⟩) (by rintro _ ⟨⟩)
  | @enforce t r s m ht hsession =>
    have hfits := he.fits t
    rw [ht] at hfits
    obtain ⟨hs, hinv⟩ := he.getSession m.now r
    have hlock := (he.consistent.getSession m.now r).2.2.2
    refine hinv.scan ?_ (by rw [← hsession, hs]; rfl)
    show (e.manager.getSession m.now r).2.lockTable.turn t = .idle
    rw [hlock]
    exact hfits
  | sweep | addListing => exact { he with }
  | evictStaleCache now =>
    exact he.setCache (he.consistent.evictStaleCache now STALE_CACHE_MS) rfl rfl
  | read r now => exact (he.getSession now r).2
  | restart => exact he.restart

/-- The invariant holds after every run in which `/execute` is presented nothing but `P`. -/
theorem run_inv {is : List EngineLabel}
    (hok : Guarded (step env) (Presents env P) (empty : EngineState σ) is) :
    Inv env P (run (step env) (empty : EngineState σ) is) :=
  hok.invariant (fun _ _ _ he hP hstep => he.step hP hstep) empty_inv

/-- The invariant of every run. -/
theorem run_inv_true (env : EngineEnv) (is : List EngineLabel) :
    Inv env (fun _ _ => True) (run (step env) (empty : EngineState σ) is) :=
  run_inv (Guarded.of_forall (fun _ i => presents_true i) _ _)

end EngineState
end GhostBazaar.Engine
