import GhostBazaar.Engine.EngineInvariant

/-! What one step of the engine adds to the history, and at which moment. -/
namespace GhostBazaar.Engine
open Js GhostBazaar.Core Settlement Transition

/-- A history and the history after a step at this moment: at most one event more, which its
callback appends to the session that the log derives then. `V` says which verifications of a
signature the step ends. -/
inductive Grows (env : EngineEnv) (m : Moment)
    (V : JsString → SigningRole → JsString → DerivedSession → Prop) (h : List Entry) :
    List Entry → Prop where
  | same : Grows env m V h h
  | ran (listings : ListingStore) (r : JsString) (callback : Callback)
      (before : Option DerivedSession) (event : NegotiationEvent)
      (hbefore : deriveState (logOf h r) = .ok before)
      (hrun : callback.run env m listings r (logOf h r) before = .ok (.append event)) :
      Grows env m V h (h ++ [⟨r, callback, event⟩])
  | signed (r : JsString) (role : SigningRole) (signature : JsString) (s : DerivedSession)
      (event : NegotiationEvent) (hverified : V r role signature s)
      (hbefore : deriveState (logOf h r) = .ok (some s))
      (hfinish : finishSign env m r role signature s = .ok event) :
      Grows env m V h (h ++ [⟨r, .sign role signature, event⟩])

theorem Grows.same_or_snoc {env : EngineEnv} {m : Moment}
    {V : JsString → SigningRole → JsString → DerivedSession → Prop} {h h' : List Entry}
    (hg : Grows env m V h h') : h' = h ∨ ∃ en, h' = h ++ [en] := by
  cases hg with
  | same => exact Or.inl rfl
  | ran _ r callback _ event _ _ => exact Or.inr ⟨_, rfl⟩
  | signed r role signature _ event => exact Or.inr ⟨_, rfl⟩

theorem Grows.isPrefix {env : EngineEnv} {m : Moment}
    {V : JsString → SigningRole → JsString → DerivedSession → Prop} {h h' : List Entry}
    (hg : Grows env m V h h') : h <+: h' := by
  rcases hg.same_or_snoc with rfl | ⟨en, rfl⟩
  · exact List.prefix_rfl
  · exact List.prefix_append _ _

theorem Grows.imp {env : EngineEnv} {m : Moment}
    {V V' : JsString → SigningRole → JsString → DerivedSession → Prop} {h h' : List Entry}
    (hg : Grows env m V h h') (hV : ∀ r role signature s, V r role signature s →
      V' r role signature s) : Grows env m V' h h' := by
  cases hg with
  | same => exact .same
  | ran listings r callback before event hbefore hrun =>
    exact .ran listings r callback before event hbefore hrun
  | signed r role signature s event hverified hbefore hfinish =>
    exact .signed r role signature s event (hV _ _ _ _ hverified) hbefore hfinish

/-- What the synchronous segment of the label reads from outside, if it runs one. -/
def EngineLabel.moment : EngineLabel → Option Moment
  | .request _ _ m | .resume _ m | .rpcReturns _ _ m | .enforce _ _ m => some m
  | _ => none

/-- The time at which the step is taken, where it reads the clock. -/
def EngineLabel.time : EngineLabel → Option ℤ
  | .request _ _ m | .resume _ m | .rpcReturns _ _ m | .enforce _ _ m => some m.now
  | .sweep now | .evictStaleCache now | .read _ now => some now
  | _ => none

theorem EngineLabel.time_of_moment {i : EngineLabel} {m : Moment} (hm : i.moment = some m) :
    i.time = some m.now := by
  cases i <;> simp_all [EngineLabel.moment, EngineLabel.time]

namespace EngineState

variable {σ : Type} [InternalEventStore σ] {env : EngineEnv}
  {P : DerivedSession → Members → Prop} {e : EngineState σ} {m : Moment} {t : CallId}
  {r : JsString} {V : JsString → SigningRole → JsString → DerivedSession → Prop}

/-- The step ends the verification of this signature. -/
def Verifies (e : EngineState σ) (i : EngineLabel) (r : JsString) (role : SigningRole)
    (signature : JsString) (s : DerivedSession) : Prop :=
  ∃ t m, i = .resume t m ∧ e.task t = .verifying r role signature s

theorem commit_history (env : EngineEnv) (e : EngineState σ) (m : Moment) (t : CallId)
    (r : JsString) (callback : Callback) (event : NegotiationEvent) :
    (e.commit env m t r callback event).history = e.history ∨
      (e.commit env m t r callback event).history = e.history ++ [⟨r, callback, event⟩] := by
  unfold EngineState.commit
  split
  · exact Or.inl rfl
  · exact Or.inr rfl

theorem runCallback_grows (hlog : e.manager.log r = logOf e.history r) {callback : Callback}
    {session : Option DerivedSession} (hs : deriveState (logOf e.history r) = .ok session) :
    Grows env m V e.history (e.runCallback env m t r callback session).history := by
  unfold EngineState.runCallback
  rw [hlog]
  split
  · exact .same
  · exact .same
  · rename_i event hrun
    rcases e.commit_history env m t r callback event with
      hsame | happended
    · rw [hsame]
      exact .same
    · rw [happended]
      exact .ran e.listingStore r callback session event hs hrun
  · exact .same

theorem enter_grows (hlog : e.manager.log r = logOf e.history r) {callback : Callback}
    {session : Except JsString (Option DerivedSession)}
    (hs : session = deriveState (logOf e.history r)) :
    Grows env m V e.history (e.enter env m t r callback session).history := by
  unfold EngineState.enter
  split
  · exact runCallback_grows hlog hs.symm
  · exact .same
  · exact .same
  · exact .same

theorem Inv.withLock_grows (he : Inv env P e) (callback : Callback) :
    Grows env m V e.history (e.withLock env m t r callback).history := by
  have hstore := he.consistent.withLock_store env.maxQueueSize m.now t r
  have hlog : (e.manager.withLock env.maxQueueSize m.now t r).log r = logOf e.history r :=
    (congrArg (InternalEventStore.getAllEvents · r) hstore).trans (he.log r)
  exact enter_grows (e := (e.setTask t (.waiting r callback)).setManager _) hlog
    (he.getSession m.now r).1

theorem Inv.proceed_grows (he : Inv env P e) (next : Handling Next) :
    Grows env m V e.history (e.proceed env m t next).history := by
  unfold EngineState.proceed
  split
  · exact .same
  · exact .same
  · exact he.withLock_grows _

theorem Inv.runSegment_grows (he : Inv env P e) (segment : Segment) :
    Grows env m V e.history (e.runSegment env m t segment).history := by
  cases segment with
  | done next => exact he.proceed_grows next
  | load r k => exact (he.getSession m.now r).2.proceed_grows _
  | probe r k => exact he.proceed_grows _

theorem Inv.continued_grows (he : Inv env P e) (k : Continuation) (segment : Segment) :
    Grows env m V e.history
      ((e.writeTombstone m.now k.tombstone).runSegment env m t segment).history := by
  have hhistory := (e.writeTombstone_frame m.now k.tombstone).2.1
  have hgrows := (he.writeTombstone m.now k.tombstone).runSegment_grows (m := m) (t := t)
    (V := V) segment
  rwa [hhistory] at hgrows

theorem Inv.signed_grows (he : Inv env P e) {role : SigningRole} {signature : JsString}
    {s : DerivedSession} {event : NegotiationEvent} (ht : e.task t = .verifying r role signature s)
    (hfinish : finishSign env m r role signature s = .ok event) :
    Grows env m (e.Verifies (.resume t m)) e.history
      (e.commit env m t r (.sign role signature) event).history := by
  have hchecked := he.checked t
  rw [ht] at hchecked
  rcases e.commit_history env m t r (.sign role signature) event with hsame | happended
  · rw [hsame]
    exact .same
  · rw [happended]
    exact .signed r role signature s event ⟨t, m, rfl, ht⟩ hchecked.1 hfinish

theorem Inv.scan_grows (he : Inv env P e) (s : DerivedSession) :
    Grows env m V e.history (e.scan env m t r s).history := by
  unfold EngineState.scan
  split
  · exact .same
  · exact .same
  · exact he.withLock_grows _
  · exact he.withLock_grows _

/-- A step appends at most one event, and only within a segment. -/
theorem Inv.step_grows (he : Inv env P e) {e' : EngineState σ} {i : EngineLabel}
    (hstep : e.step env i = some e') :
    e'.history = e.history ∨
      ∃ m, i.moment = some m ∧ Grows env m (e.Verifies i) e.history e'.history := by
  cases steps_of_step hstep with
  | request request m => exact Or.inr ⟨m, rfl, he.runSegment_grows _⟩
  | continued m _ _ => exact Or.inr ⟨m, rfl, he.continued_grows _ _⟩
  | @woken t r callback manager m _ hmanager =>
    exact Or.inr ⟨m, rfl, enter_grows ((he.woken hmanager).1.log r) (he.getSession m.now r).1⟩
  | signed m ht hfinish => exact Or.inr ⟨m, rfl, he.signed_grows ht hfinish⟩
  | @rpcReturns t fetch request quote tx m _ =>
    exact Or.inr ⟨m, rfl, (he.answer request.paymentSignature tx).runSegment_grows _⟩
  | @enforce t r s m _ _ => exact Or.inr ⟨m, rfl, (he.getSession m.now r).2.scan_grows s⟩
  | signRefused | rpcThrows | lockTimeout | cleanup | release => exact Or.inl rfl
  | sweep | evictStaleCache | read | addListing | restart => exact Or.inl rfl

/-- The history is append-only. -/
theorem Inv.history_prefix (he : Inv env P e) {e' : EngineState σ} {i : EngineLabel}
    (hstep : e.step env i = some e') : e.history <+: e'.history := by
  rcases he.step_grows hstep with hsame | ⟨m, -, hgrows⟩
  · rw [hsame]
  · exact hgrows.isPrefix

/-- What a run has logged stays in front of what a longer run logs. -/
theorem run_log_prefix (env : EngineEnv) (is is' : List EngineLabel) (r : JsString) :
    (run (step env) (empty : EngineState σ) is).manager.log r <+:
      (run (step env) (empty : EngineState σ) (is ++ is')).manager.log r := by
  have he := run_inv_true (σ := σ) env is
  rw [run_append, he.log]
  have hrun : Inv env (fun _ _ => True)
      (run (step env) (run (step env) (empty : EngineState σ) is) is') ∧
      (run (step env) (empty : EngineState σ) is).history <+:
        (run (step env) (run (step env) (empty : EngineState σ) is) is').history := by
    refine run_invariant (P := fun e' => Inv env (fun _ _ => True) e' ∧
      (run (step env) (empty : EngineState σ) is).history <+: e'.history) ?_
      ⟨he, List.prefix_rfl⟩ is'
    rintro e i e' ⟨hinv, hp⟩ hstep
    exact ⟨hinv.step (presents_true i) hstep, hp.trans (hinv.history_prefix hstep)⟩
  rw [hrun.1.log]
  exact logOf_isPrefix hrun.2 r

end EngineState
end GhostBazaar.Engine
