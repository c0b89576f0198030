import GhostBazaar.Engine.BidReplay
import GhostBazaar.Engine.Growth
import GhostBazaar.Engine.CommittedQuote

/-! How the bidding requests of a run end: with a reply, a 4xx refusal or a busy session,
when their bodies meet the condition of their route. -/
namespace GhostBazaar.Engine
open Js GhostBazaar.Core Settlement Transition

/-! ### Outcomes -/

def queueFull (env : EngineEnv) : Failure EngineError :=
  EngineState.busy (js "Session lock queue full (" ++ natText env.maxQueueSize ++ js " pending)")

def lockTimedOut (env : EngineEnv) : Failure EngineError :=
  EngineState.busy (js "Session lock timeout (" ++ natText env.lockTimeoutMs ++ js "ms)")

/-- A success, an `EngineError` of the 4xx range, or a `SessionBusyError`. -/
def Answered (env : EngineEnv) : Handling (Option Reply) → Prop
  | .ok reply => ∃ r, reply = some r ∧ r.status = 201
  | .error (.refused e) => ClientError e
  | .error failure => failure = queueFull env ∨ failure = lockTimedOut env

/-- A failure before the lock, or inside it. -/
def IsRefusal (failure : Failure EngineError) : Prop := ∃ e, failure = .refused e ∧ ClientError e

theorem IsRefusal.answered {env : EngineEnv} {failure : Failure EngineError}
    (h : IsRefusal failure) : Answered env (.error failure) := by
  obtain ⟨e, rfl, he⟩ := h
  exact he

theorem IsRefusal.of_quiet {α : Type} {x : Handling α} {failure : Failure EngineError}
    (hquiet : Quiet x) (hrefuses : Refuses ClientError x) (hx : x = .error failure) :
    IsRefusal failure := by
  cases failure with
  | refused e => exact ⟨e, rfl, hrefuses e hx⟩
  | thrown e => exact absurd hx (hquiet e)

/-! ### Bids under way -/

def Request.IsBid : Request → Prop
  | .createRfq _ | .submitOffer _ _ | .sendCounter _ _ => True
  | _ => False

def Callback.IsBid : Callback → Prop
  | .createRfq _ | .submitOffer _ | .sendCounter _ => True
  | _ => False

def Continuation.IsBid : Continuation → Prop
  | .createRfq _ | .submitOffer _ _ | .sendCounter _ _ => True
  | _ => False

def Next.IsBid : Next → Prop
  | .suspend k => k.IsBid
  | .lock _ callback => callback.IsBid

def Task.IsBid : Task → Prop
  | .suspended k => k.IsBid
  | .waiting _ callback => callback.IsBid
  | .idle | .verifying _ _ _ _ | .finished _ => False

/-- The fields that no check of the route reads as a text, but the replay does. -/
def Callback.Texts : Callback → Prop
  | .createRfq body => IsText (body.get? (js "deadline")) ∧ IsText (body.get? (js "service_type"))
  | .submitOffer body => IsText (body.get? (js "offer_id")) ∧
      IsText (body.get? (js "valid_until"))
  | .sendCounter body => IsText (body.get? (js "counter_id"))
  | _ => True

def Continuation.Texts : Continuation → Prop
  | .createRfq body => IsText (body.get? (js "rfq_id")) ∧ (Callback.createRfq body).Texts
  | .submitOffer _ body => (Callback.submitOffer body).Texts
  | .sendCounter _ body => (Callback.sendCounter body).Texts
  | _ => True

def Next.Texts : Next → Prop
  | .suspend k => k.Texts
  | .lock _ callback => callback.Texts

def Task.Texts : Task → Prop
  | .suspended k => k.Texts
  | .waiting _ callback => callback.Texts
  | .idle | .verifying _ _ _ _ | .finished _ => True

/-! ### Callbacks -/

theorem Callback.IsBid.answerError {callback : Callback} (h : callback.IsBid)
    (failure : Failure EngineError) : callback.answerError failure = failure := by
  cases callback <;> first | rfl | exact h.elim

theorem Callback.IsBid.reply {callback : Callback} (h : callback.IsBid) (env : EngineEnv)
    (now : ℤ) (r : JsString) (session : DerivedSession) :
    Answered env (callback.reply env now r session) := by
  cases callback <;> first | exact ⟨_, rfl, rfl⟩ | exact h.elim

section

variable {env : EngineEnv} {P : DerivedSession → Members → Prop}
  {answers : List (JsString × JsValue)} {h : List Entry} {r : JsString} {m : Moment}
  {listings : ListingStore} {session : Option DerivedSession} {callback : Callback}

theorem Callback.IsBid.run_error (hbid : callback.IsBid) (hm : m.Valid)
    {log : List NegotiationEvent} {failure : Failure EngineError}
    (hrun : callback.run env m listings r log session = .error failure) : IsRefusal failure := by
  have hmap {x : Handling NegotiationEvent} (hquiet : Quiet x) (hrefuses : Refuses ClientError x)
      (hx : x.map LockedResult.append = .error failure) : IsRefusal failure := by
    cases x with
    | ok event => simp [Except.map] at hx
    | error failure' =>
      obtain rfl : failure' = failure := by simpa [Except.map] using hx
      exact .of_quiet hquiet hrefuses rfl
  cases callback with
  | createRfq body => exact hmap (quiet_lockedRfq hm _ _ _) (refuses_lockedRfq _ _ _ _) hrun
  | submitOffer body =>
    exact hmap (quiet_lockedOffer _ hm _ _ _ _) (refuses_lockedOffer _ _ _ _ _ _) hrun
  | sendCounter body =>
    exact hmap (quiet_lockedCounter _ hm _ _ _) (refuses_lockedCounter _ _ _ _ _) hrun
  | _ => exact hbid.elim

/-- What a bid appends is accepted by the replay. -/
theorem Callback.IsBid.run_ok (hbid : callback.IsBid) (htexts : callback.Texts)
    (hadmitted : Admitted env P answers h r callback)
    (hs : deriveState (logOf h r) = .ok session) {result : LockedResult}
    (hrun : callback.run env m listings r (logOf h r) session = .ok result) :
    ∃ event, result = .append event ∧ AcceptedBid m r session event := by
  cases callback with
  | createRfq body =>
    simp only [Callback.run, map_eq_ok] at hrun
    obtain ⟨event, hlocked, rfl⟩ := hrun
    obtain ⟨⟨now, hcheck⟩, hrfqId⟩ := hadmitted
    exact ⟨event, rfl, lockedRfq_accepted hcheck hrfqId htexts.1 htexts.2 hlocked⟩
  | submitOffer body =>
    simp only [Callback.run, map_eq_ok] at hrun
    obtain ⟨event, hlocked, rfl⟩ := hrun
    obtain ⟨now, s, -, hcheck⟩ := hadmitted
    exact ⟨event, rfl, lockedOffer_accepted hcheck htexts.1 htexts.2 hlocked⟩
  | sendCounter body =>
    simp only [Callback.run, map_eq_ok] at hrun
    obtain ⟨event, hlocked, rfl⟩ := hrun
    obtain ⟨now, s, hseen, hcheck⟩ := hadmitted
    refine ⟨event, rfl, lockedCounter_accepted hcheck htexts (fun s₀ hs₀ => ?_) hlocked⟩
    exact hseen.rfq_eq (hs₀ ▸ hs)
  | _ => exact hbid.elim

end

/-! ### Appends -/

/-- A store that takes every event under an id that it does not know. -/
class EventIds (σ : Type) [InternalEventStore σ] where
  known : σ → JsString → Prop
  append_isOk : ∀ {s : σ} {r : JsString} {event : NegotiationEvent}, event.rfqId = r →
    ¬ known s event.eventId → ∃ s', InternalEventStore.append s r event = .ok s'

instance : EventIds InMemoryEventStore where
  known s id := id ∈ s.seenEventIds
  append_isOk {s r event} hr hid := by
    refine ⟨s.push r event, ?_⟩
    show s.append r event = _
    simp only [InMemoryEventStore.append, bind_eq_ok, ensure_eq_ok, pure_eq_ok]
    exact ⟨(), hr.symm, (), hid, trivial⟩

namespace EngineState

variable {σ : Type} [InternalEventStore σ] [EventIds σ]
  {env : EngineEnv} {P : DerivedSession → Members → Prop} {e : EngineState σ}

theorem Inv.appendEvent_isOk (he : Inv env P e) {m : Moment} {t : CallId} {r : JsString}
    {l : LockId} {before : Option DerivedSession} {event : NegotiationEvent}
    (hturn : e.manager.lockTable.turn t = .inCallback r l)
    (hs : deriveState (logOf e.history r) = .ok before) (haccepted : AcceptedBid m r before event)
    (hfresh : ¬ EventIds.known e.manager.store m.eventId) :
    ∃ s manager, e.manager.appendEvent m.now r event = (.ok s, manager) := by
  have hlive : Live e.history r := by
    intro s hs'
    obtain rfl : before = some s := by simpa using hs.symm.trans hs'
    exact haccepted.replays.1
  have hactive := (he.exclusive r hlive).active t (by rw [hturn, Turn.entered])
  have hreplays : ∃ s, deriveState (logOf e.history r ++ [event]) = .ok (some s) := by
    have hreplays := haccepted.replays
    cases hlog : logOf e.history r with
    | nil =>
      obtain rfl : before = none := by simpa [hlog, deriveState] using hs.symm
      obtain ⟨s, hs⟩ := hreplays
      exact ⟨s, by simp [deriveState, hs]⟩
    | cons first rest =>
      cases before with
      | none => simp [deriveState_none_iff, hlog] at hs
      | some s₀ =>
        obtain ⟨-, s, happly⟩ := hreplays
        exact ⟨s, deriveState_append_singleton.mpr ⟨s₀, hlog ▸ hs, happly⟩⟩
  obtain ⟨s, hs⟩ := hreplays
  obtain ⟨store, hstore⟩ := EventIds.append_isOk haccepted.rfqId
    (haccepted.eventId ▸ hfresh : ¬ EventIds.known e.manager.store event.eventId)
  rw [← he.log] at hs
  simp only [SessionManager.appendEvent, hactive, if_true, hs, hstore]
  exact ⟨_, _, rfl⟩

/-! ### One task at a time -/

/-- Only this task moves; a bid that it ends is answered. -/
structure Advances (env : EngineEnv) (t : CallId) (bid : Prop) (e e' : EngineState σ) : Prop where
  others : ∀ u, u ≠ t → e'.task u = e.task u
  texts : (e'.task t).Texts
  answered : bid → ∀ outcome, e'.task t = .finished outcome → Answered env outcome

omit [EventIds σ] [InternalEventStore σ] in
theorem Advances.finish {t : CallId} {bid : Prop} {outcome : Handling (Option Reply)}
    {e' : EngineState σ} (h : bid → Answered env outcome)
    (htask : e'.task = Function.update e.task t (.finished outcome)) :
    Advances env t bid e e' where
  others u hu := by rw [htask, Function.update_of_ne hu]
  texts := by rw [htask, Function.update_self]; trivial
  answered hbid outcome' ho := by
    rw [htask, Function.update_self, Task.finished.injEq] at ho
    exact ho ▸ h hbid

omit [EventIds σ] [InternalEventStore σ] in
theorem Advances.setTask {t : CallId} {bid : Prop} {task : Task} (htexts : task.Texts)
    (hopen : ∀ outcome, task ≠ .finished outcome) : Advances env t bid e (e.setTask t task) where
  others u hu := by rw [task_setTask, if_neg hu]
  texts := by rwa [task_setTask, if_pos rfl]
  answered _ outcome ho := by
    rw [task_setTask, if_pos rfl] at ho
    exact absurd ho (hopen outcome)

omit [EventIds σ] [InternalEventStore σ] in
/-- The step before changed no other task. -/
theorem Advances.of_others {t : CallId} {bid : Prop} {e₀ e' : EngineState σ}
    (h : Advances env t bid e e') (ho : ∀ u, u ≠ t → e.task u = e₀.task u) :
    Advances env t bid e₀ e' := { h with others := fun u hu => (h.others u hu).trans (ho u hu) }

theorem Inv.commit_advances (he : Inv env P e) {m : Moment} {t : CallId} {r : JsString}
    {l : LockId} {callback : Callback} {event : NegotiationEvent}
    (hturn : e.manager.lockTable.turn t = .inCallback r l)
    (hbid : callback.IsBid → ∃ before, deriveState (logOf e.history r) = .ok before ∧
      AcceptedBid m r before event ∧ ¬ EventIds.known e.manager.store m.eventId) :
    Advances env t callback.IsBid e (e.commit env m t r callback event) := by
  by_cases h : callback.IsBid
  · obtain ⟨before, hs, haccepted, hfresh⟩ := hbid h
    obtain ⟨s, manager, happend⟩ := he.appendEvent_isOk hturn hs haccepted hfresh
    rw [EngineState.commit, happend]
    exact .finish (fun h => h.reply env m.now r s) rfl
  · rw [EngineState.commit]
    split
    · exact .finish (fun h' => absurd h' h) rfl
    · exact .finish (fun h' => absurd h' h) rfl

theorem Inv.runCallback_advances (he : Inv env P e) {m : Moment} (hm : m.Valid)
    (hfresh : ¬ EventIds.known e.manager.store m.eventId) {t : CallId} {r : JsString}
    {l : LockId} {callback : Callback} {session : Option DerivedSession}
    (ht : e.task t = .waiting r callback) (htexts : callback.Texts)
    (hturn : e.manager.lockTable.turn t = .inCallback r l)
    (hs : deriveState (logOf e.history r) = .ok session) :
    Advances env t callback.IsBid e (e.runCallback env m t r callback session) := by
  have hadmitted : Admitted env P e.answers e.history r callback := by
    simpa [ht, Task.Checked] using he.checked t
  have hok (hbid : callback.IsBid) {result : LockedResult}
      (hrun : callback.run env m e.listingStore r (logOf e.history r) session = .ok result) :=
    hbid.run_ok htexts hadmitted hs hrun
  unfold EngineState.runCallback
  rw [he.log]
  split
  · rename_i failure hrun
    refine .finish (fun hbid => ?_) rfl
    rw [hbid.answerError]
    exact (hbid.run_error hm hrun).answered
  · rename_i reply hrun
    refine .finish (fun hbid => ?_) rfl
    obtain ⟨event, hevent, -⟩ := hok hbid hrun
    cases hevent
  · rename_i event hrun
    refine he.commit_advances hturn fun hbid => ⟨session, hs, ?_, hfresh⟩
    obtain ⟨event', hevent, haccepted⟩ := hok hbid hrun
    cases hevent
    exact haccepted
  · exact .setTask trivial (by rintro _ ⟨⟩)

theorem Inv.enter_advances (he : Inv env P e) {m : Moment} (hm : m.Valid)
    (hfresh : ¬ EventIds.known e.manager.store m.eventId) {t : CallId} {r : JsString}
    {callback : Callback} {session : Except JsString (Option DerivedSession)}
    (ht : e.task t = .waiting r callback) (htexts : callback.Texts)
    (hs : session = deriveState (logOf e.history r)) :
    Advances env t callback.IsBid e (e.enter env m t r callback session) := by
  unfold EngineState.enter
  split
  · rename_i r' l session hturn
    obtain rfl : r' = r := by simpa [ht, Task.Fits, hturn, Turn.on] using he.fits t
    exact he.runCallback_advances hm hfresh ht htexts hturn hs.symm
  · exact ⟨fun _ _ => rfl, ht ▸ htexts, fun _ outcome ho => by rw [ht] at ho; cases ho⟩
  · -- every log replays, so `getSession` has not thrown
    obtain ⟨s, hreplay⟩ := he.consistent.accepted r
    rw [he.log, ← hs] at hreplay
    cases hreplay
  · refine .finish (fun hbid => ?_) rfl
    rw [hbid.answerError]
    exact Or.inl rfl

theorem Inv.withLock_advances (he : Inv env P e) {m : Moment} (hm : m.Valid)
    (hfresh : ¬ EventIds.known e.manager.store m.eventId) {t : CallId} {r : JsString}
    {callback : Callback} (hturn : e.manager.lockTable.turn t = .idle)
    (hadmitted : Admitted env P e.answers e.history r callback) (htexts : callback.Texts) :
    Advances env t callback.IsBid e (e.withLock env m t r callback) := by
  have hinv := he.locked (m := m) hturn hadmitted
  have hstore := he.consistent.withLock_store env.maxQueueSize m.now t r
  refine (hinv.enter_advances hm ?_ ?_ htexts (he.getSession m.now r).1).of_others fun u hu => ?_
  · exact fun hknown => hfresh (hstore ▸ hknown)
  · exact (task_setTask e t t _).trans (if_pos rfl)
  · exact (task_setTask e t u _).trans (if_neg hu)

end EngineState

/-! ### Segments -/

/-- What a segment fails with, over the sessions of a history. -/
inductive Segment.Fails (h : List Entry) : Segment → Failure EngineError → Prop where
  | done (failure : Failure EngineError) : Fails h (.done (.error failure)) failure
  | load (r : JsString) (k : Option DerivedSession → Handling Next) (s : Option DerivedSession)
      (failure : Failure EngineError) (hs : deriveState (logOf h r) = .ok s)
      (hk : k s = .error failure) : Fails h (.load r k) failure
  | probe (r : JsString) (k : Bool → Handling Next) (found : Bool)
      (failure : Failure EngineError) (hk : k found = .error failure) :
      Fails h (.probe r k) failure

/-- A segment of a request: a bid stays one until the lock, and is refused before it or not
at all. -/
structure Segment.Serves (bid : Prop) (h : List Entry) (segment : Segment) : Prop where
  texts : ∀ n, segment.Gives h n → n.Texts
  stays : bid → ∀ n, segment.Gives h n → n.IsBid
  refuses : bid → ∀ failure, segment.Fails h failure → IsRefusal failure

/-- The segment ends with a value of this computation. -/
structure Handling.Serves (bid : Prop) (x : Handling Next) : Prop where
  texts : ∀ n, x = .ok n → n.Texts
  stays : bid → ∀ n, x = .ok n → n.IsBid
  refuses : bid → ∀ failure, x = .error failure → IsRefusal failure

section

variable {h : List Entry} {bid : Prop}

theorem Handling.Serves.done {x : Handling Next} (hx : Handling.Serves bid x) :
    (Segment.done x).Serves bid h where
  texts n hn := hx.texts n (Segment.gives_done.mp hn)
  stays hbid n hn := hx.stays hbid n (Segment.gives_done.mp hn)
  refuses hbid failure hf := by
    cases hf
    exact hx.refuses hbid failure rfl

theorem Segment.Serves.load {r : JsString} {k : Option DerivedSession → Handling Next}
    (hk : ∀ s, deriveState (logOf h r) = .ok s → Handling.Serves bid (k s)) :
    (Segment.load r k).Serves bid h where
  texts n hn := by
    obtain ⟨s, hs, hks⟩ := Segment.gives_load.mp hn
    exact (hk s hs).texts n hks
  stays hbid n hn := by
    obtain ⟨s, hs, hks⟩ := Segment.gives_load.mp hn
    exact (hk s hs).stays hbid n hks
  refuses hbid failure hf := by
    cases hf with
    | load _ _ s _ hs hks => exact (hk s hs).refuses hbid failure hks

theorem Segment.Serves.probe {r : JsString} {k : Bool → Handling Next}
    (hk : ∀ found, Handling.Serves bid (k found)) : (Segment.probe r k).Serves bid h where
  texts n hn := by
    obtain ⟨found, hks⟩ := Segment.gives_probe hn
    exact (hk found).texts n hks
  stays hbid n hn := by
    obtain ⟨found, hks⟩ := Segment.gives_probe hn
    exact (hk found).stays hbid n hks
  refuses hbid failure hf := by
    cases hf with
    | probe _ _ found _ hks => exact (hk found).refuses hbid failure hks

/-- A failure gives no value, so it only has to be a refusal. -/
theorem Handling.Serves.of_failure {failure : Failure EngineError} (hf : bid → IsRefusal failure) :
    Handling.Serves bid (.error failure) where
  texts := by rintro _ ⟨⟩
  stays := by rintro _ _ ⟨⟩
  refuses := by
    rintro hbid _ ⟨⟩
    exact hf hbid

theorem Segment.Serves.after {α : Type} {x : Handling α} {k : α → Segment}
    (hx : bid → ∀ failure, x = .error failure → IsRefusal failure)
    (hk : ∀ a, x = .ok a → (k a).Serves bid h) : (Segment.after x k).Serves bid h := by
  cases x with
  | ok a => exact hk a rfl
  | error failure => exact Handling.Serves.done (.of_failure fun hbid => hx hbid failure rfl)

/-- A check that comes before the next stage of a bid. -/
theorem Handling.Serves.of_check {check : Handling Unit} {next : Next} (hquiet : Quiet check)
    (hrefuses : Refuses ClientError check) (htexts : check = .ok () → next.Texts)
    (hbid : next.IsBid) : Handling.Serves bid (do check; return next) := by
  cases hcheck : check with
  | ok u =>
    constructor
    · rintro _ ⟨⟩
      exact htexts hcheck
    · rintro - _ ⟨⟩
      exact hbid
    · rintro - _ ⟨⟩
  | error failure => exact .of_failure fun _ => .of_quiet hquiet hrefuses hcheck

theorem Handling.Serves.of_error {failure : Failure EngineError} (hf : IsRefusal failure) :
    Handling.Serves bid (.error failure) :=
  .of_failure fun _ => hf

theorem noBody_isRefusal :
    IsRefusal (.refused (malformedPayload (js "Invalid JSON body"))) :=
  ⟨_, rfl, by simp [ClientError, malformedPayload]⟩

theorem parseBody_error {body : Option Json} {failure : Failure EngineError}
    (hf : parseBody body = .error failure) : IsRefusal failure := by
  simp only [parseBody, orThrow_eq_error] at hf
  exact hf.2 ▸ noBody_isRefusal

/-- A segment that asks for the lock, or suspends, on behalf of no bid. -/
theorem Segment.Serves.of_not_bid {segment : Segment} (hbid : ¬ bid)
    (htexts : ∀ n, segment.Gives h n → n.Texts) : segment.Serves bid h :=
  ⟨htexts, fun h => absurd h hbid, fun h => absurd h hbid⟩

/-! ### The segments of the routes -/

theorem checkOffer_session {env : EngineEnv} {now : ℤ} {r : JsString} {body : Json}
    {session : Option DerivedSession} (h : checkOffer env now r body session = .ok ()) :
    ∃ s, session = some s := by
  simp only [checkOffer, requireSession, bind_eq_ok, orThrow_eq_ok] at h
  obtain ⟨s, hs, -⟩ := h
  exact ⟨s, hs⟩

theorem checkCounter_session {env : EngineEnv} {now : ℤ} {r : JsString} {body : Json}
    {session : Option DerivedSession} (h : checkCounter env now r body session = .ok ()) :
    ∃ s, session = some s := by
  simp only [checkCounter, requireSession, bind_eq_ok, orThrow_eq_ok] at h
  obtain ⟨s, hs, -⟩ := h
  exact ⟨s, hs⟩

variable {env : EngineEnv} {m : Moment}

private theorem openCounter_ok {body : Option Json} {body' : Json}
    (hf : (do
      let body ← parseBody body
      preCheckCounter env body
      return body) = .ok body') : body = some body' ∧ preCheckCounter env body' = .ok () := by
  simp only [parseBody, bind_eq_ok, orThrow_eq_ok, pure_eq_ok] at hf
  obtain ⟨_, rfl, ⟨⟩, hpre, rfl⟩ := hf
  exact ⟨rfl, hpre⟩

private theorem openCounter_error {body : Option Json} {failure : Failure EngineError}
    (hf : (do
      let body ← parseBody body
      preCheckCounter env body
      return body) = .error failure) :
    failure = .refused (malformedPayload (js "Invalid JSON body")) ∨
      ∃ body', body = some body' ∧ preCheckCounter env body' = .error failure := by
  simp only [parseBody, bind_eq_error, orThrow_eq_ok, orThrow_eq_error] at hf
  rcases hf with ⟨-, rfl⟩ | ⟨body', rfl, hpre | ⟨_, -, hpure⟩⟩
  · exact Or.inl rfl
  · exact Or.inr ⟨body', rfl, hpre⟩
  · cases hpure

/-- The condition on the request that starts, over the logs of the sessions. -/
def Request.Sound (env : EngineEnv) (now : ℤ) (log : JsString → List NegotiationEvent) :
    Request → Prop
  | .createRfq (some body) => RfqSound env now body
  | .submitOffer r (some body) => ∀ s, deriveState (log r) = .ok (some s) →
      OfferSound env now r s body
  | .sendCounter r (some body) => body ≠ .null ∧ (preCheckCounter env body = .ok () →
      ∀ s, deriveState (log r) = .ok (some s) → CounterSound env now r s body)
  | _ => True

theorem Request.begin_texts {tombstones : EnvelopeTombstones} {request : Request}
    (hbid : ¬ request.IsBid) {n : Next} (hn : (request.begin env m tombstones).Gives h n) :
    n.Texts := by
  cases request with
  | createRfq body | submitOffer r body | sendCounter r body => exact absurd trivial hbid
  | accept r body | decline r body =>
    simp only [Request.begin, Segment.gives_after, Segment.gives_load, bind_eq_ok,
      pure_eq_ok] at hn
    obtain ⟨_, -, _, -, _, -, rfl⟩ := hn
    trivial
  | sign role r body =>
    simp only [Request.begin, Segment.gives_after, Segment.gives_load, bind_eq_ok,
      pure_eq_ok] at hn
    obtain ⟨_, -, _, -, _, -, rfl⟩ := hn
    trivial
  | readQuote r authorization | settleReport r authorization body
  | execute quoteHeader paymentSignature =>
    simp only [Request.begin, Segment.gives_done, bind_eq_ok, pure_eq_ok] at hn
    obtain ⟨_, -, rfl⟩ := hn
    trivial

theorem Request.begin_serves (hmints : Registered env.mintDecimals)
    {tombstones : EnvelopeTombstones} {request : Request} (hsound : request.Sound env m.now (logOf h)) :
    (request.begin env m tombstones).Serves request.IsBid h := by
  by_cases hbid : request.IsBid
  · cases request with
    | createRfq body =>
      cases body with
      | none => exact Handling.Serves.done (.of_error noBody_isRefusal)
      | some body =>
        refine Handling.Serves.done (.of_check (RfqSound.quiet hmints hsound)
          (refuses_checkRfq env m.now body) (fun hcheck => ?_) trivial)
        exact RfqSound.texts hsound hcheck
    | submitOffer r body =>
      refine .after (fun _ _ => parseBody_error) fun body' hbody => .load fun session hs => ?_
      obtain rfl : body = some body' := by simpa [parseBody] using hbody
      have hsound' (s) (h : session = some s) : OfferSound env m.now r s body' :=
        hsound s (h ▸ hs)
      refine .of_check (OfferSound.quiet hmints hsound') (refuses_checkOffer _ _ _ _ _)
        (fun hcheck => ?_) trivial
      obtain ⟨s, rfl⟩ := checkOffer_session hcheck
      exact (hsound' s rfl).texts hcheck
    | sendCounter r body =>
      refine .after (fun _ failure hf => ?_) fun body' hpre => .load fun session hs => ?_
      · rcases openCounter_error hf with rfl | ⟨body, rfl, hcheck⟩
        · exact noBody_isRefusal
        · exact .of_quiet (quiet_preCheckCounter.mpr hsound.1) (refuses_preCheckCounter _ _)
            hcheck
      · obtain ⟨rfl, hcheck⟩ := openCounter_ok hpre
        have hsound' (s) (h : session = some s) : CounterSound env m.now r s body' :=
          hsound.2 hcheck s (h ▸ hs)
        refine .of_check (CounterSound.quiet hmints hsound') (refuses_checkCounter _ _ _ _ _)
          (fun hcheck => ?_) trivial
        obtain ⟨s, rfl⟩ := checkCounter_session hcheck
        exact (hsound' s rfl).texts hcheck
    | _ => exact hbid.elim
  · exact .of_not_bid hbid fun n hn => Request.begin_texts hbid hn

theorem afterEnvelope_texts {r : JsString} {envelope : ControlEnvelope} {signer : JsString}
    {n : Next} (hn : afterEnvelope r envelope signer = .ok n) : n.Texts := by
  rw [afterEnvelope] at hn
  cases haction : envelope.action with
  | accept =>
    simp only [haction, bind_eq_ok, pure_eq_ok] at hn
    obtain ⟨_, -, rfl⟩ := hn
    trivial
  | decline =>
    simp only [haction, Except.ok.injEq] at hn
    exact hn ▸ trivial

theorem Continuation.resume_texts {k : Continuation} {segment : Segment} (hbid : ¬ k.IsBid)
    (hr : k.resume env m = some segment) {n : Next} (hn : segment.Gives h n) : n.Texts := by
  cases k with
  | createRfq _ | submitOffer _ _ | sendCounter _ _ => exact absurd trivial hbid
  | envelopeVerified r envelope signer | readQuote r callerDid =>
    simp only [Continuation.resume, Option.some.injEq] at hr
    simp only [← hr, Segment.gives_done, Except.ok.injEq] at hn
    exact hn ▸ trivial
  | envelopeValidated r envelope signer =>
    simp only [Continuation.resume, Option.some.injEq] at hr
    rw [← hr, Segment.gives_done] at hn
    exact afterEnvelope_texts hn
  | settleReport r callerDid body =>
    simp only [Continuation.resume, Option.some.injEq] at hr
    simp only [← hr, Segment.gives_load, bind_eq_ok, pure_eq_ok] at hn
    obtain ⟨_, -, _, -, rfl⟩ := hn
    trivial
  | reporterChecked r s body =>
    simp only [Continuation.resume, Option.some.injEq] at hr
    simp only [← hr, Segment.gives_done, bind_eq_ok, pure_eq_ok] at hn
    obtain ⟨_, -, rfl⟩ := hn
    trivial
  | fetching fetch request quote => simp [Continuation.resume] at hr

theorem Continuation.resume_serves {k : Continuation} {segment : Segment} (htexts : k.Texts)
    (hr : k.resume env m = some segment) : segment.Serves k.IsBid h := by
  by_cases hbid : k.IsBid
  · cases k with
    | createRfq body =>
      obtain ⟨⟨r, hrfqId⟩, hfields⟩ := htexts
      simp only [Continuation.resume, Option.some.injEq] at hr
      rw [← hr]
      refine .after (fun _ failure hf => ?_) fun r' _ => .probe fun found => ?_
      · rw [rfqKey, hrfqId] at hf
        cases hf
      · refine .of_check quiet_require ?_ (fun _ => hfields) trivial
        simp [requireNewRfq, ClientError]
    | submitOffer r body | sendCounter r body =>
      simp only [Continuation.resume, Option.some.injEq] at hr
      rw [← hr]
      refine Handling.Serves.done ⟨?_, ?_, by rintro _ _ ⟨⟩⟩
      · rintro _ ⟨⟩
        exact htexts
      · rintro - _ ⟨⟩
        trivial
    | _ => exact hbid.elim
  · exact .of_not_bid hbid fun n hn => Continuation.resume_texts hbid hr hn

theorem Fetch.resume_texts {fetch : Fetch} {request : SettlementRequest} {quote : Members}
    {tx : JsValue} {n : Next} (hn : (fetch.resume env m request quote tx).Gives h n) :
    n.Texts := by
  simp only [Fetch.resume, Segment.gives_after] at hn
  obtain ⟨result, -, hn⟩ := hn
  cases fetch with
  | execute =>
    simp only [Segment.gives_after, Segment.gives_load, bind_eq_ok, pure_eq_ok] at hn
    obtain ⟨_, -, _, -, _, -, rfl⟩ := hn
    trivial
  | settleReport r quoteId =>
    simp only [Segment.gives_done, bind_eq_ok, pure_eq_ok] at hn
    obtain ⟨_, -, rfl⟩ := hn
    trivial

end

/-! ### Steps -/

namespace EngineState

variable {σ : Type} [InternalEventStore σ] [EventIds σ]
  {env : EngineEnv} {P : DerivedSession → Members → Prop} {e : EngineState σ}

theorem Inv.proceed_advances (he : Inv env P e) {m : Moment} (hm : m.Valid)
    (hfresh : ¬ EventIds.known e.manager.store m.eventId) {t : CallId} {bid : Prop}
    {next : Handling Next} (hturn : e.manager.lockTable.turn t = .idle)
    (hnext : ∀ n, next = .ok n → n.Checked env P e.answers e.history)
    (hserves : Handling.Serves bid next) : Advances env t bid e (e.proceed env m t next) := by
  unfold EngineState.proceed
  split
  · rename_i failure
    exact .finish (fun hbid => (hserves.refuses hbid failure rfl).answered) rfl
  · rename_i k
    exact .setTask (hserves.texts _ rfl) (by rintro _ ⟨⟩)
  · rename_i r callback
    have h := he.withLock_advances hm hfresh hturn (hnext _ rfl) (hserves.texts _ rfl)
    exact { h with answered := fun hbid => h.answered (hserves.stays hbid _ rfl) }

theorem Inv.runSegment_advances (he : Inv env P e) {m : Moment} (hm : m.Valid)
    (hfresh : ¬ EventIds.known e.manager.store m.eventId) {t : CallId} {bid : Prop}
    {segment : Segment} (hturn : e.manager.lockTable.turn t = .idle)
    (hsegment : ∀ n, segment.Gives e.history n → n.Checked env P e.answers e.history)
    (hserves : segment.Serves bid e.history) :
    Advances env t bid e (e.runSegment env m t segment) := by
  cases segment with
  | done next =>
    refine he.proceed_advances hm hfresh hturn (fun n hn => hsegment n (Segment.gives_done.mpr hn)) ?_
    refine ⟨fun n hn => hserves.texts n (Segment.gives_done.mpr hn), fun hbid n hn =>
      hserves.stays hbid n (Segment.gives_done.mpr hn), fun hbid failure hf => ?_⟩
    exact hserves.refuses hbid failure (hf ▸ .done failure)
  | load r k =>
    obtain ⟨hs, hinv⟩ := he.getSession m.now r
    obtain ⟨session, hreplay⟩ := he.consistent.accepted r
    rw [he.log] at hreplay
    have hlock := (he.consistent.getSession m.now r).2.2.2
    have hstore := (he.consistent.getSession m.now r).2.2.1
    have hnext : (thrownError (e.manager.getSession m.now r).1 >>= k) = k session := by
      rw [hs, hreplay]
      rfl
    have hgives {n : Next} (hn : k session = .ok n) : (Segment.load r k).Gives e.history n :=
      Segment.gives_load.mpr ⟨session, hreplay, hn⟩
    rw [EngineState.runSegment, hnext]
    refine (hinv.proceed_advances hm (fun hknown => hfresh (hstore ▸ hknown))
      (by rw [← hturn, ← hlock]; rfl) (fun n hn => hsegment n (hgives hn)) ?_).of_others
        fun _ _ => rfl
    exact ⟨fun n hn => hserves.texts n (hgives hn), fun hbid n hn =>
      hserves.stays hbid n (hgives hn), fun hbid failure hf =>
        hserves.refuses hbid failure (.load r k session failure hreplay hf)⟩
  | probe r k =>
    refine he.proceed_advances hm hfresh hturn (fun n hn => hsegment n (.probe r k _ n hn)) ?_
    exact ⟨fun n hn => hserves.texts n (.probe r k _ n hn), fun hbid n hn =>
      hserves.stays hbid n (.probe r k _ n hn), fun hbid failure hf =>
        hserves.refuses hbid failure (.probe r k _ failure hf)⟩

theorem Inv.continued_advances (he : Inv env P e) {m : Moment} (hm : m.Valid)
    (hfresh : ¬ EventIds.known e.manager.store m.eventId) {t : CallId} {k : Continuation}
    {segment : Segment} (ht : e.task t = .suspended k) (htexts : (e.task t).Texts)
    (hsegment : k.resume env m = some segment) :
    Advances env t (e.task t).IsBid e
      ((e.writeTombstone m.now k.tombstone).runSegment env m t segment) := by
  have hfits := he.fits t
  have hchecked := he.checked t
  rw [ht] at hfits hchecked htexts ⊢
  obtain ⟨hmanager, hhistory, hanswers⟩ := e.writeTombstone_frame m.now k.tombstone
  have htask : (e.writeTombstone m.now k.tombstone).task = e.task := by
    cases k.tombstone <;> rfl
  refine ((he.writeTombstone m.now k.tombstone).runSegment_advances hm (hmanager ▸ hfresh)
    (by rw [hmanager]; exact hfits) ?_ ?_).of_others fun u _ => congrFun htask u
  · rw [hhistory, hanswers]
    exact fun n hn => Continuation.resume_checked hchecked hsegment hn
  · exact Continuation.resume_serves htexts hsegment

theorem Inv.woken_advances (he : Inv env P e) {m : Moment} (hm : m.Valid)
    (hfresh : ¬ EventIds.known e.manager.store m.eventId) {t : CallId} {r : JsString}
    {callback : Callback} {manager : SessionManager σ} (ht : e.task t = .waiting r callback)
    (htexts : (e.task t).Texts)
    (hmanager : e.manager.step env.maxQueueSize (.resume t m.now) = some manager) :
    Advances env t (e.task t).IsBid e ((e.setManager manager).enter env m t r callback
      (e.manager.getSession m.now r).1) := by
  rw [ht] at htexts ⊢
  obtain ⟨hinv, hstore⟩ := he.woken hmanager
  exact (hinv.enter_advances hm (fun hknown => hfresh (hstore ▸ hknown)) ht htexts
    (he.getSession m.now r).1).of_others fun _ _ => rfl

theorem Inv.signed_advances (he : Inv env P e) {m : Moment} {t : CallId} {r : JsString}
    {role : SigningRole} {signature : JsString} {s : DerivedSession}
    (ht : e.task t = .verifying r role signature s) (event : NegotiationEvent) :
    Advances env t (e.task t).IsBid e (e.commit env m t r (.sign role signature) event) := by
  have hfits := he.fits t
  rw [ht] at hfits ⊢
  obtain ⟨l, hturn⟩ := hfits
  show Advances env t (Callback.sign role signature).IsBid e _
  exact he.commit_advances hturn fun hbid => False.elim hbid

/-- What the fetch of a payment leads to is no answer to a bid. -/
theorem Inv.rpcReturns_advances (he : Inv env (fun _ _ => True) e) {m : Moment} (hm : m.Valid)
    (hfresh : ¬ EventIds.known e.manager.store m.eventId) {t : CallId} {fetch : Fetch}
    {request : SettlementRequest} {quote : Members}
    (ht : e.task t = .suspended (.fetching fetch request quote)) (tx : JsValue) :
    Advances env t False e ((e.answer request.paymentSignature tx).runSegment env m t
      (fetch.resume env m request quote tx)) := by
  have hfits := he.fits t
  have hchecked := he.checked t
  rw [ht] at hfits hchecked
  exact ((he.answer request.paymentSignature tx).runSegment_advances hm hfresh hfits
    (fun n hn => Fetch.resume_checked hchecked List.mem_cons_self Fetch.presents_true hn)
    (.of_not_bid id fun n hn => Fetch.resume_texts hn)).of_others fun _ _ => rfl

theorem Inv.scan_advances (he : Inv env P e) {m : Moment} (hm : m.Valid)
    (hfresh : ¬ EventIds.known e.manager.store m.eventId) {t : CallId} {r : JsString}
    {s : DerivedSession} (ht : e.task t = .idle) (hturn : e.manager.lockTable.turn t = .idle) :
    Advances env t False e (e.scan env m t r s) := by
  have hsame {e' : EngineState σ} (htask : e'.task = e.task) : Advances env t False e e' :=
    ⟨fun u _ => congrFun htask u, by rw [htask, ht]; trivial, fun h => h.elim⟩
  unfold EngineState.scan
  split
  · exact hsame rfl
  · exact hsame rfl
  · have hadmitted : Admitted env P e.answers e.history r .expire := trivial
    exact he.withLock_advances hm hfresh hturn hadmitted trivial
  · have hadmitted : Admitted env P e.answers e.history r .cosignTimeout := trivial
    exact he.withLock_advances hm hfresh hturn hadmitted trivial

/-! ### Runs -/

/-- The clock reads a time that `Date` can write, and `randomUUID` gives a new id. -/
def FreshMoment (e : EngineState σ) (i : EngineLabel) : Prop :=
  ∀ m, i.moment = some m → m.Valid ∧ ¬ EventIds.known e.manager.store m.eventId

omit [EventIds σ] in
/-- A request that starts in this step meets the condition of its route. -/
def SoundRequest (env : EngineEnv) (e : EngineState σ) : EngineLabel → Prop
  | .request t request m => e.task t = .idle → request.Sound env m.now e.manager.log
  | _ => True

omit [EventIds σ] in
/-- The step ends a bid with this outcome. -/
def Ends (env : EngineEnv) (e : EngineState σ) (i : EngineLabel) (t : CallId)
    (outcome : Handling (Option Reply)) : Prop :=
  ((e.task t).IsBid ∨ e.task t = .idle ∧ ∃ request m, i = .request t request m ∧ request.IsBid) ∧
    ∃ e', e.step env i = some e' ∧ e'.task t = .finished outcome

/-- What every step keeps, and how the bids that it ends are answered. -/
structure Serves (env : EngineEnv) (e : EngineState σ) (i : EngineLabel) (e' : EngineState σ) :
    Prop where
  texts : ∀ t, (e'.task t).Texts
  answered : ∀ t outcome, ((e.task t).IsBid ∨ e.task t = .idle ∧ ∃ request m,
    i = .request t request m ∧ request.IsBid) → e'.task t = .finished outcome →
      Answered env outcome

omit [EventIds σ] [InternalEventStore σ] in
theorem Advances.serves {i : EngineLabel} {e' : EngineState σ} {t : CallId} {bid : Prop}
    (h : Advances env t bid e e') (htexts : ∀ u, (e.task u).Texts)
    (hbid : (e.task t).IsBid ∨ e.task t = .idle ∧ (∃ request m,
      i = .request t request m ∧ request.IsBid) → bid)
    (hother : ∀ u request m, i = .request u request m → u = t) : e.Serves env i e' where
  texts u := by
    by_cases hu : u = t
    · exact hu ▸ h.texts
    · rw [h.others u hu]
      exact htexts u
  answered u outcome hstarts ho := by
    by_cases hu : u = t
    · subst hu
      exact h.answered (hbid hstarts) outcome ho
    · rw [h.others u hu] at ho
      rcases hstarts with hisBid | ⟨-, request, m, hi, -⟩
      · rw [ho] at hisBid
        exact hisBid.elim
      · exact absurd (hother u request m hi) hu

omit [EventIds σ] [InternalEventStore σ] in
theorem Serves.of_same {i : EngineLabel} {e' : EngineState σ} (htask : e'.task = e.task)
    (htexts : ∀ u, (e.task u).Texts) : e.Serves env i e' where
  texts u := htask ▸ htexts u
  answered u outcome hstarts ho := by
    rw [htask] at ho
    rcases hstarts with hisBid | ⟨hidle, -⟩
    · rw [ho] at hisBid
      exact hisBid.elim
    · rw [ho] at hidle
      cases hidle

omit [EventIds σ] [InternalEventStore σ] in
/-- In a step that starts no request, only the bids under way are answered. -/
theorem Advances.serves_of_no_request {i : EngineLabel} {e' : EngineState σ} {t : CallId}
    {bid : Prop} (h : Advances env t bid e e') (htexts : ∀ u, (e.task u).Texts)
    (hbid : (e.task t).IsBid → bid) (hi : ∀ u request m, i ≠ .request u request m) :
    e.Serves env i e' := by
  apply h.serves htexts
  · rintro (hisBid | ⟨-, request, m, heq, -⟩)
    · exact hbid hisBid
    · exact absurd heq (hi t request m)
  · intro u request m heq
    exact absurd heq (hi u request m)

theorem Inv.step_serves (hmints : Registered env.mintDecimals)
    (he : Inv env (fun _ _ => True) e)
    (htexts : ∀ u, (e.task u).Texts) {i : EngineLabel} (hmoment : e.FreshMoment i)
    (hsound : e.SoundRequest env i) {e' : EngineState σ} (hstep : e.step env i = some e') :
    e.Serves env i e' := by
  cases steps_of_step hstep with
  | @request t request m ht =>
    obtain ⟨hm, hfresh⟩ := hmoment m rfl
    have hfits := he.fits t
    rw [ht] at hfits
    have hlog : e.manager.log = logOf e.history := funext he.log
    have hsound := hsound ht
    rw [hlog] at hsound
    refine (he.runSegment_advances hm hfresh hfits (fun n hn => Request.begin_checked hn)
      (Request.begin_serves hmints hsound)).serves htexts ?_ ?_
    · rintro (hisBid | ⟨-, request', m', hi, hisBid⟩)
      · rw [ht] at hisBid
        exact hisBid.elim
      · cases hi
        exact hisBid
    · rintro u request' m' ⟨⟩
      rfl
  | @continued t k segment m ht hsegment =>
    obtain ⟨hm, hfresh⟩ := hmoment m rfl
    exact (he.continued_advances hm hfresh ht (htexts t) hsegment).serves_of_no_request htexts id
      (by rintro _ _ _ ⟨⟩)
  | @woken t r callback manager m ht hmanager =>
    obtain ⟨hm, hfresh⟩ := hmoment m rfl
    exact (he.woken_advances hm hfresh ht (htexts t) hmanager).serves_of_no_request htexts id
      (by rintro _ _ _ ⟨⟩)
  | @signRefused t r role signature s failure m ht _ =>
    refine (Advances.finish (False.elim : False → _) rfl).serves_of_no_request htexts ?_
      (by rintro _ _ _ ⟨⟩)
    rw [ht]
    exact id
  | @signed t r role signature s event m ht _ =>
    exact (he.signed_advances ht event).serves_of_no_request htexts id (by rintro _ _ _ ⟨⟩)
  | @rpcReturns t fetch request quote tx m ht =>
    obtain ⟨hm, hfresh⟩ := hmoment m rfl
    refine (he.rpcReturns_advances hm hfresh ht tx).serves_of_no_request htexts ?_
      (by rintro _ _ _ ⟨⟩)
    rw [ht]
    exact id
  | @rpcThrows t fetch request quote ht =>
    refine (Advances.finish (False.elim : False → _) rfl).serves_of_no_request htexts ?_
      (by rintro _ _ _ ⟨⟩)
    rw [ht]
    exact id
  | @lockTimeout t r callback manager ht _ =>
    refine (Advances.finish (fun hbid : callback.IsBid => ?_) rfl).serves_of_no_request htexts ?_
      (by rintro _ _ _ ⟨⟩)
    · rw [hbid.answerError]
      exact Or.inr rfl
    · rw [ht]
      exact id
  | @enforce t r s m ht hsession =>
    obtain ⟨hm, hfresh⟩ := hmoment m rfl
    have hfits := he.fits t
    rw [ht] at hfits
    obtain ⟨-, -, hstore, hlock⟩ := he.consistent.getSession m.now r
    have hadvances : Advances env t False e
        ((e.setManager (e.manager.getSession m.now r).2).scan env m t r s) :=
      ((he.getSession m.now r).2.scan_advances hm (fun hknown => hfresh (hstore ▸ hknown)) ht
        (by rw [← hfits, ← hlock]; rfl)).of_others fun _ _ => rfl
    refine hadvances.serves_of_no_request htexts ?_ (by rintro _ _ _ ⟨⟩)
    rw [ht]
    exact id
  | cleanup | release | sweep | evictStaleCache | read | addListing => exact .of_same rfl htexts
  | restart => exact ⟨fun _ => trivial, by rintro _ _ _ ⟨⟩⟩

/-- The state after a run whose steps all meet the conditions. -/
theorem run_texts (hmints : Registered env.mintDecimals) {is : List EngineLabel}
    (hok : Guarded (step env) (fun e i => e.FreshMoment i ∧ e.SoundRequest env i)
      (empty : EngineState σ) is) :
    let e := run (step env) (empty : EngineState σ) is
    Inv env (fun _ _ => True) e ∧ ∀ t, (e.task t).Texts := by
  refine hok.invariant (P := fun e : EngineState σ => Inv env (fun _ _ => True) e ∧
    ∀ t, (e.task t).Texts) (fun e i e' he hcond hstep => ?_) ⟨empty_inv, fun _ => trivial⟩
  obtain ⟨hmoment, hsound⟩ := hcond
  exact ⟨he.1.step (presents_true i) hstep,
    (he.1.step_serves hmints he.2 hmoment hsound hstep).texts⟩

end EngineState

/-- In every run whose requests meet the condition of their route, every bid that ends is
answered. -/
theorem bids_answered {σ : Type} [InternalEventStore σ] [EventIds σ] (env : EngineEnv)
    (hmints : Registered env.mintDecimals) (is : List EngineLabel) (i : EngineLabel)
    (hok : Guarded (EngineState.step env)
      (fun e i => e.FreshMoment i ∧ e.SoundRequest env i) (EngineState.empty : EngineState σ)
      (is ++ [i]))
    {t : CallId} {outcome : Handling (Option Reply)}
    (hends : (run (EngineState.step env) (EngineState.empty : EngineState σ) is).Ends env i t
      outcome) : Answered env outcome := by
  obtain ⟨hrun, ⟨hmoment, hsound⟩, -⟩ := Guarded.append.mp hok
  obtain ⟨he, htexts⟩ := EngineState.run_texts hmints hrun
  obtain ⟨hstarts, e', hstep, ho⟩ := hends
  exact (he.step_serves hmints htexts hmoment hsound hstep).answered t outcome hstarts ho

/-! ### Samples -/

/-- The libraries of the samples, with the exponent notation of the decimal library. -/
def exponentEnv : EngineEnv :=
  { sampleEngineEnv .null firstNegotiation.signatures with
    newDecimal := fun v => if v = some (.str (js "1e1")) then some (.finite 10)
      else (sampleEnv .null firstNegotiation.signatures).newDecimal v }

def exponentBody : Json :=
  .obj [text "rfq_id" firstNegotiation.rfqId, text "protocol" (js "ghost-bazaar-v4"),
    text "buyer" Settlement.sampleBuyer, text "service_type" (js "translation"),
      (js "spec", .obj []),
    text "anchor_price" (js "1e1"), text "currency" (js "USDC"), text "deadline" sampleDeadline,
    text "signature" firstNegotiation.rfqSignature]

/-- The thrown message of a task that has ended so. -/
def Task.message : Task → Option JsString
  | .finished (.error (.thrown (.error message))) => some message
  | _ => none

theorem Task.message_eq_some {task : Task} {message : JsString}
    (h : task.message = some message) :
    task = .finished (.error (.thrown (.error message))) := by
  unfold Task.message at h
  split at h
  · rw [Option.some.inj h]
  · cases h

/-- `validateRfq` accepts the price `1e1`, and `normalizeAmount` throws on it. -/
theorem bid_unanswered : ∃ outcome, (EngineState.empty : EngineState InMemoryEventStore).Ends
    exponentEnv (.request 0 (.createRfq (some exponentBody))
      (firstNegotiation.moment firstNegotiation.created)) 0 outcome ∧
        ¬ Answered exponentEnv outcome := by
  have hstep : ((EngineState.empty : EngineState InMemoryEventStore).step exponentEnv
      (.request 0 (.createRfq (some exponentBody))
        (firstNegotiation.moment firstNegotiation.created))).any (fun e =>
          decide ((e.task 0).message =
          some (js "Invalid decimal string: \"1e1\""))) = true := by decide +kernel
  obtain ⟨e, he, hmessage⟩ := (Option.any_eq_true _ _).mp hstep
  have htask := Task.message_eq_some (of_decide_eq_true hmessage)
  refine ⟨_, ⟨Or.inr ⟨rfl, _, _, rfl, trivial⟩, e, he, htask⟩, ?_⟩
  have hfull : js "Invalid decimal string: \"1e1\"" ≠
      js "Session lock queue full (" ++ natText exponentEnv.maxQueueSize ++ js " pending)" := by
    decide +kernel
  have htimeout : js "Invalid decimal string: \"1e1\"" ≠
      js "Session lock timeout (" ++ natText exponentEnv.lockTimeoutMs ++ js "ms)" := by
    decide +kernel
  rintro (h | h)
  · exact hfull (by simpa [queueFull, EngineState.busy] using h)
  · exact htimeout (by simpa [lockTimedOut, EngineState.busy] using h)

/-- The first step of the sample negotiation. -/
def sampleBid : List EngineLabel :=
  [.request 0 (.createRfq (some firstNegotiation.rfqBody))
    (firstNegotiation.moment firstNegotiation.created)]

theorem sampleBid_guarded : Guarded (EngineState.step
    (sampleEngineEnv .null firstNegotiation.signatures))
    (fun e i => e.FreshMoment i ∧ e.SoundRequest (sampleEngineEnv .null firstNegotiation.signatures) i)
    (EngineState.empty : EngineState InMemoryEventStore)
    (sampleBid ++ [.resume 0 (firstNegotiation.moment firstNegotiation.created)]) := by
  have hvalid : (firstNegotiation.moment firstNegotiation.created).Valid := by
    rw [Moment.Valid]
    decide +kernel
  have hsound : RfqSound (sampleEngineEnv .null firstNegotiation.signatures) sampleNow
      firstNegotiation.rfqBody :=
    { rfqId := fun _ => rfl
      deadline := fun _ => rfl
      commitment := fun _ => rfl
      amount := fun _ _ => ⟨js "10", rfl, by decide +kernel⟩
      texts := fun _ => ⟨⟨_, rfl⟩, ⟨_, rfl⟩, ⟨_, rfl⟩⟩ }
  have hfresh : firstNegotiation.created ∉ (run
      (EngineState.step (sampleEngineEnv .null firstNegotiation.signatures))
      (EngineState.empty : EngineState InMemoryEventStore)
        sampleBid).manager.store.seenEventIds := by
    decide +kernel
  refine ⟨⟨?_, fun _ => hsound⟩, ⟨?_, trivial⟩, trivial⟩
  · rintro m ⟨⟩
    exact ⟨hvalid, List.not_mem_nil⟩
  · rintro m ⟨⟩
    exact ⟨hvalid, hfresh⟩

def Task.outcome : Task → Option (Handling (Option Reply))
  | .finished outcome => some outcome
  | _ => none

theorem Task.outcome_eq_some {task : Task} {outcome : Handling (Option Reply)}
    (h : task.outcome = some outcome) : task = .finished outcome := by
  unfold Task.outcome at h
  split at h
  · rw [Option.some.inj h]
  · cases h

def Task.createsRfq : Task → Bool
  | .suspended (.createRfq _) => true
  | _ => false

theorem Task.isBid_of_createsRfq {task : Task} (h : task.createsRfq = true) : task.IsBid := by
  unfold Task.createsRfq at h
  split at h
  · trivial
  · cases h

theorem bids_answered_sample : ∃ outcome, (run
    (EngineState.step (sampleEngineEnv .null firstNegotiation.signatures))
    (EngineState.empty : EngineState InMemoryEventStore) sampleBid).Ends
      (sampleEngineEnv .null firstNegotiation.signatures)
      (.resume 0 (firstNegotiation.moment firstNegotiation.created)) 0 outcome ∧
    Answered (sampleEngineEnv .null firstNegotiation.signatures) outcome := by
  have hends : ((run (EngineState.step (sampleEngineEnv .null firstNegotiation.signatures))
      (EngineState.empty : EngineState InMemoryEventStore) sampleBid).step
        (sampleEngineEnv .null firstNegotiation.signatures)
        (.resume 0 (firstNegotiation.moment firstNegotiation.created))).any
      (fun e => (e.task 0).outcome.isSome) = true := by decide +kernel
  have hbid : ((run (EngineState.step (sampleEngineEnv .null firstNegotiation.signatures))
      (EngineState.empty : EngineState InMemoryEventStore) sampleBid).task 0).createsRfq = true := by
    decide +kernel
  obtain ⟨e, he, hfinished⟩ := (Option.any_eq_true _ _).mp hends
  obtain ⟨outcome, houtcome⟩ := Option.isSome_iff_exists.mp hfinished
  have hends : EngineState.Ends _ _ _ 0 outcome :=
    ⟨Or.inl (Task.isBid_of_createsRfq hbid), e, he, Task.outcome_eq_some houtcome⟩
  exact ⟨outcome, hends, bids_answered _ ⟨[], rfl⟩ sampleBid _ sampleBid_guarded hends⟩

end GhostBazaar.Engine
