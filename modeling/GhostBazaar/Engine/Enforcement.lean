import GhostBazaar.Engine.Due
import GhostBazaar.Engine.Growth

/-! The timer of the enforcer around the engine: its scans, the set of cleaned-up sessions,
and a clock that never goes back. Nothing is enforced before its time. -/
namespace GhostBazaar.Engine
open Js GhostBazaar.Core Settlement Transition

abbrev ScanId := ℕ

/-- Where a call of `scan` stands. A `stop` and a `start` during a scan make two loops, so
there may be several. -/
inductive ScanTask where
  | idle
  /-- The sessions that the loop still has to visit. -/
  | visiting (rest : List JsString)
  | awaiting (t : CallId) (rest : List JsString)

structure Enforced (σ : Type) where
  engine : EngineState σ
  clock : ℤ
  running : Bool
  /-- A `Set`, in insertion order. -/
  cleanedUpSessions : List JsString
  scan : ScanId → ScanTask

inductive EnforcedLabel where
  | engine (i : EngineLabel)
  | start
  | stop
  /-- The timer fires. -/
  | tick (k : ScanId) (now : ℤ)
  /-- The next session of the loop; `t` is its call of `withLock`, if it makes one. -/
  | visit (k : ScanId) (t : CallId) (m : Moment)
  | returned (k : ScanId)
  /-- The loop is over. -/
  | sweep (k : ScanId) (now : ℤ)

def EnforcedLabel.time : EnforcedLabel → Option ℤ
  | .engine i => i.time
  | .tick _ now | .sweep _ now => some now
  | .visit _ _ m => some m.now
  | .start | .stop | .returned _ => none

/-- The steps of the engine that belong to a scan. -/
def EngineLabel.isScan : EngineLabel → Bool
  | .enforce _ _ _ | .sweep _ | .evictStaleCache _ => true
  | _ => false

def MAX_CLEANED_UP : ℕ := 10000

/-- The oldest half goes. -/
def boundCleanedUp (cleanedUpSessions : List JsString) : List JsString :=
  if MAX_CLEANED_UP < cleanedUpSessions.length then
    cleanedUpSessions.drop (cleanedUpSessions.length / 2)
  else cleanedUpSessions

/-- `cleanedUpSessions.add(rfqId)`, when the lock could be removed. -/
def markCleanedUp (removed : Bool) (cleanedUpSessions : List JsString) (rfqId : JsString) :
    List JsString :=
  if removed ∧ rfqId ∉ cleanedUpSessions then cleanedUpSessions ++ [rfqId]
  else cleanedUpSessions

namespace Enforced

variable {σ : Type} [InternalEventStore σ]

def init (clock : ℤ) : Enforced σ := ⟨.empty, clock, false, [], fun _ => .idle⟩

def setScan (e : Enforced σ) (k : ScanId) (task : ScanTask) : Enforced σ :=
  { e with scan := Function.update e.scan k task }

/-- One iteration of the loop. An error of `getSession` only skips the session. -/
def visit (env : EngineEnv) (m : Moment) (e : Enforced σ) (k : ScanId) (t : CallId)
    (rfqId : JsString) (rest : List JsString) : Option (Enforced σ) :=
  if rfqId ∈ e.cleanedUpSessions then some (e.setScan k (.visiting rest))
  else match e.engine.manager.getSession m.now rfqId with
    | (.ok (some session), manager) =>
      (e.engine.step env (.enforce t rfqId m)).map fun engine =>
        match scanSession env m.now session with
        | .skip => { e with engine }.setScan k (.visiting rest)
        | .cleanUp => { e with
            engine
            cleanedUpSessions := markCleanedUp (manager.removeLock rfqId).1 e.cleanedUpSessions
              rfqId }.setScan k (.visiting rest)
        | .expire | .cosignTimeout => { e with engine }.setScan k (.awaiting t rest)
    | _ => some (e.setScan k (.visiting rest))

/-- A step, apart from the clock. A new process starts with a new enforcer. -/
def move (env : EngineEnv) (e : Enforced σ) : EnforcedLabel → Option (Enforced σ)
  | .engine .restart => (e.engine.step env .restart).map fun engine =>
    { (init e.clock : Enforced σ) with engine }
  | .engine i =>
    if i.isScan then none else (e.engine.step env i).map fun engine => { e with engine }
  | .start => some { e with running := true }
  | .stop => some { e with running := false }
  | .tick k _ =>
    match e.scan k with
    | .idle => if e.running then
        some (e.setScan k (.visiting e.engine.manager.getActiveSessionIds)) else none
    | _ => none
  | .visit k t m =>
    match e.scan k with
    | .visiting (rfqId :: rest) =>
      if e.running then e.visit env m k t rfqId rest else some (e.setScan k (.visiting []))
    | _ => none
  | .returned k =>
    match e.scan k with
    | .awaiting t rest =>
      match e.engine.task t with
      | .finished _ => some (e.setScan k (.visiting rest))
      | _ => none
    | _ => none
  | .sweep k now =>
    match e.scan k with
    | .visiting [] => some { e.setScan k .idle with
        engine := run (EngineState.step env) e.engine [.sweep now, .evictStaleCache now]
        cleanedUpSessions := boundCleanedUp e.cleanedUpSessions }
    | _ => none

/-- The clock never goes back. -/
def step (env : EngineEnv) (e : Enforced σ) (i : EnforcedLabel) : Option (Enforced σ) :=
  if e.clock ≤ i.time.getD e.clock then
    (e.move env i).map fun e' => { e' with clock := i.time.getD e.clock }
  else none

/-! ### The invariant -/

/-- The session is terminal. -/
def Ended (h : List Entry) (r : JsString) : Prop :=
  ∃ s, deriveState (logOf h r) = .ok (some s) ∧ s.state.isTerminal = true

/-- A terminal session stays terminal. -/
theorem Ended.mono {env : EngineEnv} {answers : List (JsString × JsValue)} {h h' : List Entry}
    {r : JsString} (he : Ended h r) (hj : Journal env (fun _ _ => True) answers h')
    (hp : h <+: h') : Ended h' r := by
  obtain ⟨s, hs, hterminal⟩ := he
  obtain ⟨more, hmore⟩ := logOf_isPrefix hp r
  cases hlog : logOf h r with
  | nil => simp [hlog, deriveState] at hs
  | cons first rest =>
    have hfirst : first ∈ logOf h' r := by
      rw [← hmore, hlog]
      exact List.mem_cons_self
    obtain ⟨s', hs'⟩ := hj.derives hfirst
    refine ⟨s', hs', ?_⟩
    rw [← hmore] at hs'
    refine foldlM_ok_induction (P := fun s => s.state.isTerminal = true) ?_ hterminal
      (deriveState_append hs hs')
    intro s₁ event s₂ hs₁ hstep
    obtain ⟨-, hcommitted, -⟩ := isValidTransition_terminal hs₁ (applyEvent_step hstep).transition
    rw [hcommitted]
    rfl

structure Inv (env : EngineEnv) (e : Enforced σ) : Prop where
  engine : e.engine.Inv env fun _ _ => True
  ended : ∀ r ∈ e.cleanedUpSessions, Ended e.engine.history r

variable {env : EngineEnv} {e e' : Enforced σ}

theorem init_inv (clock : ℤ) : Inv env (init clock : Enforced σ) where
  engine := EngineState.empty_inv
  ended _ hr := absurd hr List.not_mem_nil

/-- A step of the engine alone. -/
theorem Inv.engineStep (he : Inv env e) {i : EngineLabel} {engine : EngineState σ}
    (hstep : e.engine.step env i = some engine) :
    engine.Inv env (fun _ _ => True) ∧ ∀ r, Ended e.engine.history r → Ended engine.history r := by
  have hinv := he.engine.step (EngineState.presents_true i) hstep
  exact ⟨hinv, fun r hr => hr.mono hinv.journal (he.engine.history_prefix hstep)⟩

theorem Inv.cleanUp (he : Inv env e) {m : Moment} {r : JsString} {s : DerivedSession}
    {manager : SessionManager σ}
    (hs : e.engine.manager.getSession m.now r = (.ok (some s), manager))
    (hscan : scanSession env m.now s = .cleanUp) : Ended e.engine.history r := by
  have hderive := (he.engine.getSession m.now r).1
  rw [hs] at hderive
  refine ⟨s, hderive.symm, ?_⟩
  unfold scanSession at hscan
  split_ifs at hscan with hterminal
  exact hterminal

theorem Inv.visit (he : Inv env e) {m : Moment} {k : ScanId} {t : CallId} {r : JsString}
    {rest : List JsString} (hvisit : e.visit env m k t r rest = some e') :
    Inv env e' ∧ (e'.engine = e.engine ∨
      e.engine.step env (.enforce t r m) = some e'.engine) := by
  unfold Enforced.visit at hvisit
  split_ifs at hvisit
  · rw [Option.some.injEq] at hvisit
    exact hvisit ▸ ⟨⟨he.engine, he.ended⟩, Or.inl rfl⟩
  split at hvisit
  · rename_i s manager hs
    rw [Option.map_eq_some_iff] at hvisit
    obtain ⟨engine, hstep, rfl⟩ := hvisit
    obtain ⟨hinv, hended⟩ := he.engineStep hstep
    have hold : ∀ r ∈ e.cleanedUpSessions, Ended engine.history r :=
      fun r hr => hended r (he.ended r hr)
    split
    · exact ⟨⟨hinv, hold⟩, Or.inr hstep⟩
    · rename_i hscan
      refine ⟨⟨hinv, fun r' hr' => ?_⟩, Or.inr hstep⟩
      have hmem : r' ∈ markCleanedUp (manager.removeLock r).1 e.cleanedUpSessions r := hr'
      unfold markCleanedUp at hmem
      split_ifs at hmem
      · rcases List.mem_append.mp hmem with hmem | hmem
        · exact hold r' hmem
        · rw [List.mem_singleton.mp hmem]
          exact hended r (he.cleanUp hs hscan)
      · exact hold r' hmem
    · exact ⟨⟨hinv, hold⟩, Or.inr hstep⟩
    · exact ⟨⟨hinv, hold⟩, Or.inr hstep⟩
  · rw [Option.some.injEq] at hvisit
    exact hvisit ▸ ⟨⟨he.engine, he.ended⟩, Or.inl rfl⟩

/-- The step ends the verification of this signature. -/
def Verifies (e : Enforced σ) : EnforcedLabel → JsString → SigningRole → JsString →
    DerivedSession → Prop
  | .engine i => e.engine.Verifies i
  | _ => fun _ _ _ _ => False

/-- A step of the whole keeps the invariant, and grows the history as one of the engine's. -/
theorem Inv.move (he : Inv env e) {i : EnforcedLabel} (hmove : e.move env i = some e') :
    Inv env e' ∧ (e'.engine.history = e.engine.history ∨
      ∃ m, i.time = some m.now ∧ Grows env m (e.Verifies i) e.engine.history
        e'.engine.history) := by
  have hengine {i : EngineLabel} {engine : EngineState σ}
      (hstep : e.engine.step env i = some engine) : engine.history = e.engine.history ∨
        ∃ m, i.time = some m.now ∧
          Grows env m (e.engine.Verifies i) e.engine.history engine.history := by
    rcases he.engine.step_grows hstep with hsame | ⟨m, hm, hgrows⟩
    · exact Or.inl hsame
    · exact Or.inr ⟨m, EngineLabel.time_of_moment hm, hgrows⟩
  unfold Enforced.move at hmove
  split at hmove
  · rw [Option.map_eq_some_iff] at hmove
    obtain ⟨engine, hstep, rfl⟩ := hmove
    exact ⟨⟨(he.engineStep hstep).1, fun r hr => absurd hr List.not_mem_nil⟩, hengine hstep⟩
  · split_ifs at hmove
    rw [Option.map_eq_some_iff] at hmove
    obtain ⟨engine, hstep, rfl⟩ := hmove
    obtain ⟨hinv, hended⟩ := he.engineStep hstep
    exact ⟨⟨hinv, fun r hr => hended r (he.ended r hr)⟩, hengine hstep⟩
  · rw [Option.some.injEq] at hmove
    exact hmove ▸ ⟨⟨he.engine, he.ended⟩, Or.inl rfl⟩
  · rw [Option.some.injEq] at hmove
    exact hmove ▸ ⟨⟨he.engine, he.ended⟩, Or.inl rfl⟩
  · split at hmove
    · split_ifs at hmove
      rw [Option.some.injEq] at hmove
      exact hmove ▸ ⟨⟨he.engine, he.ended⟩, Or.inl rfl⟩
    · simp at hmove
  · split at hmove
    · split_ifs at hmove
      · obtain ⟨hinv, hsame | hstep⟩ := he.visit hmove
        · exact ⟨hinv, Or.inl (by rw [hsame])⟩
        · refine ⟨hinv, (hengine hstep).imp_right ?_⟩
          rintro ⟨m, hm, hgrows⟩
          refine ⟨m, hm, hgrows.imp ?_⟩
          rintro r role signature s ⟨t, m, hi, -⟩
          cases hi
      · rw [Option.some.injEq] at hmove
        exact hmove ▸ ⟨⟨he.engine, he.ended⟩, Or.inl rfl⟩
    · simp at hmove
  · split at hmove
    · split at hmove
      · rw [Option.some.injEq] at hmove
        exact hmove ▸ ⟨⟨he.engine, he.ended⟩, Or.inl rfl⟩
      · simp at hmove
    · simp at hmove
  · rename_i k now
    split at hmove
    · rw [Option.some.injEq] at hmove
      rw [← hmove]
      refine ⟨⟨?_, fun r hr => he.ended r ?_⟩, Or.inl rfl⟩
      · exact (he.engine.step (EngineState.presents_true (.sweep now)) rfl).step
          (EngineState.presents_true (.evictStaleCache now)) rfl
      · have hmem : r ∈ boundCleanedUp e.cleanedUpSessions := hr
        unfold boundCleanedUp at hmem
        split_ifs at hmem
        · exact List.mem_of_mem_drop hmem
        · exact hmem
    · simp at hmove

/-- What a label does in a state of a run, also when it is not enabled. -/
theorem Inv.next (he : Inv env e) (i : EnforcedLabel) :
    Inv env (next (step env) e i) ∧ e.clock ≤ (next (step env) e i).clock ∧
      ((next (step env) e i).engine.history = e.engine.history ∨
        ∃ m, (next (step env) e i).clock = m.now ∧ i.time = some m.now ∧
          Grows env m (e.Verifies i) e.engine.history (next (step env) e i).engine.history) := by
  cases hstep : e.step env i with
  | none =>
    have hsame : Transition.next (step env) e i = e := by
      rw [Transition.next, hstep, Option.getD_none]
    rw [hsame]
    exact ⟨he, le_rfl, Or.inl rfl⟩
  | some e' =>
    have hnext : Transition.next (step env) e i = e' := by
      rw [Transition.next, hstep, Option.getD_some]
    rw [hnext]
    unfold Enforced.step at hstep
    split_ifs at hstep with hclock
    rw [Option.map_eq_some_iff] at hstep
    obtain ⟨e₁, hmove, rfl⟩ := hstep
    obtain ⟨hinv, hgrows⟩ := he.move hmove
    refine ⟨⟨hinv.engine, hinv.ended⟩, hclock, hgrows.imp_right ?_⟩
    rintro ⟨m, htime, hgrows⟩
    exact ⟨m, by rw [htime, Option.getD_some], htime, hgrows⟩

theorem run_inv (env : EngineEnv) (clock : ℤ) (is : List EnforcedLabel) :
    Inv env (run (step env) (init clock : Enforced σ) is) := by
  refine run_invariant (fun e i e' he hstep => ?_) (init_inv clock) is
  have hnext := (he.next i).1
  rwa [Transition.next, hstep, Option.getD_some] at hnext

/-! ### Nothing is premature -/

/-- What holds of a step of the engine with its enforcer. -/
structure Timely (env : EngineEnv) (e e' : Enforced σ) : Prop where
  clock : e.clock ≤ e'.clock
  appends : ∀ r, e'.engine.manager.log r = e.engine.manager.log r ∨
    ∃ event, e'.engine.manager.log r = e.engine.manager.log r ++ [event] ∧
      Due env (e.engine.manager.log r) e'.clock event
  cleanedUp : ∀ r ∈ e.cleanedUpSessions,
    ∃ s, deriveState (e.engine.manager.log r) = .ok (some s) ∧ s.state.isTerminal = true

theorem Inv.due (he : Inv env e) (he' : Inv env e') {m : Moment} {en : Entry}
    {V : JsString → SigningRole → JsString → DerivedSession → Prop}
    (hgrows : Grows env m V e.engine.history e'.engine.history)
    (hen : e'.engine.history = e.engine.history ++ [en]) :
    Due env (logOf e.engine.history en.rfqId) m.now en.event := by
  have hr := he'.engine.journal e.engine.history en [] hen
  generalize e'.engine.history = h' at hgrows hen
  cases hgrows with
  | same => simp at hen
  | ran listings r callback before event hbefore hrun =>
    obtain rfl : _ = en := by simpa using hen
    exact he.engine.journal.due hbefore hrun
  | signed r role signature s event =>
    obtain rfl : _ = en := by simpa using hen
    have heventType : (Callback.sign role signature).eventType = some event.type := hr.eventType
    cases role with
    | buyer | seller =>
      rw [Callback.eventType, Option.some.injEq] at heventType
      constructor <;> intro htype <;> exact absurd (heventType.trans htype) (by decide)

theorem Inv.timely (he : Inv env e) (he' : Inv env e')
    {V : JsString → SigningRole → JsString → DerivedSession → Prop} (hclock : e.clock ≤ e'.clock)
    (hgrows : e'.engine.history = e.engine.history ∨
      ∃ m, e'.clock = m.now ∧ Grows env m V e.engine.history e'.engine.history) :
    Timely env e e' := by
  refine ⟨hclock, fun r => ?_, fun r hr => ?_⟩
  · rw [he.engine.log, he'.engine.log]
    rcases hgrows with hsame | ⟨m, hm, hgrows⟩
    · exact Or.inl (by rw [hsame])
    · rcases hgrows.same_or_snoc with hsame | ⟨en, hen⟩
      · exact Or.inl (by rw [hsame])
      · have hdue := he.due he' hgrows hen
        rw [hen, logOf_snoc, hm]
        split_ifs with hr
        · exact Or.inr ⟨en.event, rfl, hr ▸ hdue⟩
        · exact Or.inl rfl
  · rw [he.engine.log]
    exact he.ended r hr

/-- Every step of every run with its enforcer: what it appends is due, and the sessions that
later scans leave out are terminal. -/
theorem enforcement_timely (env : EngineEnv) (clock : ℤ) (is : List EnforcedLabel)
    (i : EnforcedLabel) :
    Timely env (run (step env) (init clock : Enforced σ) is)
      (run (step env) (init clock) (is ++ [i])) := by
  have he := run_inv (σ := σ) env clock is
  obtain ⟨he', hclock, hgrows⟩ := he.next i
  rw [run_append]
  exact he.timely he' hclock (hgrows.imp_right fun ⟨m, hm, _, hgrows⟩ => ⟨m, hm, hgrows⟩)

end Enforced
end GhostBazaar.Engine
