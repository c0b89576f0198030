import GhostBazaar.Engine.Segment
import GhostBazaar.Engine.SessionManager

/-! The engine as a whole: requests and the deadline enforcer over one session manager.
A step is a synchronous segment; the clock stands still within one. -/
namespace GhostBazaar.Engine
open Js GhostBazaar.Core Settlement

/-- An appended event with the callback that appended it. -/
structure Entry where
  rfqId : JsString
  callback : Callback
  event : NegotiationEvent

/-- Where a request, or a locked section of the enforcer, stands. -/
inductive Task where
  | idle
  | suspended (k : Continuation)
  /-- Inside `withLock`, before the callback. -/
  | waiting (rfqId : JsString) (callback : Callback)
  /-- Inside a signing callback, with the session that the callback was given. -/
  | verifying (rfqId : JsString) (role : SigningRole) (signature : JsString)
      (session : DerivedSession)
  | finished (outcome : Handling (Option Reply))

structure EngineState (σ : Type) where
  manager : SessionManager σ
  tombstones : EnvelopeTombstones
  listingStore : ListingStore
  task : CallId → Task
  /-- A record of the appends, which no route reads. -/
  history : List Entry
  /-- A record of what the RPC returned for which payment signature. -/
  answers : List (JsString × JsValue)

inductive EngineLabel where
  | request (t : CallId) (request : Request) (m : Moment)
  /-- The microtask of a request, or of a woken waiter. -/
  | resume (t : CallId) (m : Moment)
  | rpcReturns (t : CallId) (tx : JsValue) (m : Moment)
  | rpcThrows (t : CallId)
  | lockTimeout (t : CallId)
  | cleanup (t : CallId)
  | release (t : CallId)
  /-- An iteration of the enforcer's scan; `t` is its call of `withLock`, if it makes one. -/
  | enforce (t : CallId) (rfqId : JsString) (m : Moment)
  | sweep (now : ℤ)
  | evictStaleCache (now : ℤ)
  /-- A read route looks up a session. -/
  | read (rfqId : JsString) (now : ℤ)
  | addListing (listing : Listing)
  /-- A new process over the same event store. -/
  | restart

namespace EngineState

variable {σ : Type} [InternalEventStore σ]

def empty : EngineState σ :=
  ⟨.empty, .empty, .empty, fun _ => .idle, [], []⟩

def setTask (e : EngineState σ) (t : CallId) (task : Task) : EngineState σ :=
  { e with task := Function.update e.task t task }

def setManager (e : EngineState σ) (manager : SessionManager σ) : EngineState σ :=
  { e with manager }

def record (e : EngineState σ) (entry : Entry) : EngineState σ :=
  { e with history := e.history ++ [entry] }

/-- A step of the lock table on behalf of a task that has come to that point. -/
def moveLock (env : EngineEnv) (e : EngineState σ) (i : LockLabel) : EngineState σ :=
  e.setManager ((e.manager.lockStep env.maxQueueSize i).getD e.manager)

/-- The callback has returned or thrown. -/
def settle (env : EngineEnv) (e : EngineState σ) (t : CallId)
    (outcome : Handling (Option Reply)) : EngineState σ :=
  (e.setTask t (.finished outcome)).moveLock env (.settle t)

/-- The callback appends its event and returns. -/
def commit (env : EngineEnv) (m : Moment) (e : EngineState σ) (t : CallId) (rfqId : JsString)
    (callback : Callback) (event : NegotiationEvent) : EngineState σ :=
  match e.manager.appendEvent m.now rfqId event with
  | (.error err, manager) => (e.setManager manager).settle env t
      (.error (callback.answerError (.thrown (.error err))))
  | (.ok session, manager) =>
    ((e.setManager manager).record ⟨rfqId, callback, event⟩).settle env t
      (callback.reply env m.now rfqId session)

def runCallback (env : EngineEnv) (m : Moment) (e : EngineState σ) (t : CallId)
    (rfqId : JsString) (callback : Callback) (session : Option DerivedSession) : EngineState σ :=
  match callback.run env m e.listingStore rfqId (e.manager.log rfqId) session with
  | .error failure => e.settle env t (.error (callback.answerError failure))
  | .ok (.leave reply) => e.settle env t (.ok reply)
  | .ok (.append event) => e.commit env m t rfqId callback event
  | .ok (.verify role signature session) =>
    e.setTask t (.verifying rfqId role signature session)

def busy (message : JsString) : Failure EngineError := .thrown (.error message)

/-- The turn of `t` decides how its `withLock` goes on; `session` is what `getSession` gave. -/
def enter (env : EngineEnv) (m : Moment) (e : EngineState σ) (t : CallId) (rfqId : JsString)
    (callback : Callback) (session : Except JsString (Option DerivedSession)) : EngineState σ :=
  match e.manager.lockTable.turn t, session with
  | .inCallback _ _, .ok session => e.runCallback env m t rfqId callback session
  | .waiting _ _, _ => e
  | .leaving _ _, .error err =>
    e.setTask t (.finished (.error (callback.answerError (.thrown (.error err)))))
  | _, _ => e.setTask t (.finished (.error (callback.answerError (busy
      (js "Session lock queue full (" ++ natText env.maxQueueSize ++ js " pending)")))))

def withLock (env : EngineEnv) (m : Moment) (e : EngineState σ) (t : CallId) (rfqId : JsString)
    (callback : Callback) : EngineState σ :=
  ((e.setTask t (.waiting rfqId callback)).setManager
    (e.manager.withLock env.maxQueueSize m.now t rfqId)).enter env m t rfqId callback
      (e.manager.getSession m.now rfqId).1

def proceed (env : EngineEnv) (m : Moment) (e : EngineState σ) (t : CallId) :
    Handling Next → EngineState σ
  | .error failure => e.setTask t (.finished (.error failure))
  | .ok (.suspend k) => e.setTask t (.suspended k)
  | .ok (.lock rfqId callback) => e.withLock env m t rfqId callback

def thrownError {α : Type} (x : Except JsString α) : Handling α :=
  x.mapError fun err => .thrown (.error err)

omit [InternalEventStore σ] in
theorem thrownError_eq_ok {α : Type} {x : Except JsString α} {a : α} :
    thrownError x = .ok a ↔ x = .ok a := by
  cases x <;> simp [thrownError, Except.mapError]

def runSegment (env : EngineEnv) (m : Moment) (e : EngineState σ) (t : CallId) :
    Segment → EngineState σ
  | .done next => e.proceed env m t next
  | .load rfqId k => (e.setManager (e.manager.getSession m.now rfqId).2).proceed env m t
      (thrownError (e.manager.getSession m.now rfqId).1 >>= k)
  | .probe rfqId k => e.proceed env m t (k (e.manager.hasSession rfqId))

def writeTombstone (now : ℤ) (e : EngineState σ) : Option JsString → EngineState σ
  | some envelopeId => { e with
      tombstones := e.tombstones.use now envelopeId EnvelopeTombstones.defaultRetentionMs }
  | none => e

/-- The session that an iteration of `scan` looks at, and what it does. -/
def scan (env : EngineEnv) (m : Moment) (e : EngineState σ) (t : CallId) (rfqId : JsString)
    (session : DerivedSession) : EngineState σ :=
  match scanSession env m.now session with
  | .skip => e
  | .cleanUp => e.setManager (e.manager.removeLock rfqId).2
  | .expire => e.withLock env m t rfqId .expire
  | .cosignTimeout => e.withLock env m t rfqId .cosignTimeout

def STALE_CACHE_MS : ℤ := 300000

def resume (env : EngineEnv) (m : Moment) (e : EngineState σ) (t : CallId) :
    Option (EngineState σ) :=
  match e.task t with
  | .suspended k => (k.resume env m).map fun segment =>
    (e.writeTombstone m.now k.tombstone).runSegment env m t segment
  | .waiting rfqId callback =>
    (e.manager.step env.maxQueueSize (.resume t m.now)).map fun manager =>
      (e.setManager manager).enter env m t rfqId callback (e.manager.getSession m.now rfqId).1
  | .verifying rfqId role signature session => some <|
    match finishSign env m rfqId role signature session with
    | .error failure => e.settle env t (.error failure)
    | .ok event => e.commit env m t rfqId (.sign role signature) event
  | _ => none

def answer (e : EngineState σ) (paymentSignature : JsString) (tx : JsValue) : EngineState σ :=
  { e with answers := (paymentSignature, tx) :: e.answers }

def rpcReturns (env : EngineEnv) (m : Moment) (e : EngineState σ) (t : CallId) (tx : JsValue) :
    Option (EngineState σ) :=
  match e.task t with
  | .suspended (.fetching fetch request quote) =>
    some ((e.answer request.paymentSignature tx).runSegment env m t
      (fetch.resume env m request quote tx))
  | _ => none

def step (env : EngineEnv) (e : EngineState σ) : EngineLabel → Option (EngineState σ)
  | .request t request m =>
    match e.task t with
    | .idle => some (e.runSegment env m t (request.begin env m e.tombstones))
    | _ => none
  | .resume t m => e.resume env m t
  | .rpcReturns t tx m => e.rpcReturns env m t tx
  | .rpcThrows t =>
    match e.task t with
    | .suspended (.fetching fetch _ _) =>
      some (e.setTask t (.finished (.error (.refused fetch.route.unexpected))))
    | _ => none
  | .lockTimeout t =>
    match e.task t with
    | .waiting _ callback => (e.manager.lockStep env.maxQueueSize (.timeout t)).map fun manager =>
      (e.setManager manager).setTask t
        (.finished (.error (callback.answerError (busy
          (js "Session lock timeout (" ++ natText env.lockTimeoutMs ++ js "ms)")))))
    | _ => none
  | .cleanup t => (e.manager.lockStep env.maxQueueSize (.cleanup t)).map e.setManager
  | .release t => (e.manager.lockStep env.maxQueueSize (.release t)).map e.setManager
  | .enforce t rfqId m =>
    match e.task t, (e.manager.getSession m.now rfqId).1 with
    | .idle, .ok (some session) =>
      some ((e.setManager (e.manager.getSession m.now rfqId).2).scan env m t rfqId session)
    | _, _ => none
  | .sweep now => some { e with tombstones := e.tombstones.sweep now }
  | .evictStaleCache now => some (e.setManager (e.manager.evictStaleCache now STALE_CACHE_MS))
  | .read rfqId now => some (e.setManager (e.manager.getSession now rfqId).2)
  | .addListing listing =>
    match e.listingStore.add listing with
    | .ok listingStore => some { e with listingStore }
    | .error _ => none
  | .restart => some { e with
      manager := { (SessionManager.empty : SessionManager σ) with store := e.manager.store }
      tombstones := .empty
      listingStore := .empty
      task := fun _ => .idle }

/-- The steps of the engine, each with the task of its call and what the modules under it
answered. -/
inductive Steps (env : EngineEnv) (e : EngineState σ) : EngineLabel → EngineState σ → Prop
  | request {t : CallId} (request : Request) (m : Moment) (ht : e.task t = .idle) :
      Steps env e (.request t request m)
        (e.runSegment env m t (request.begin env m e.tombstones))
  | continued {t : CallId} {k : Continuation} {segment : Segment} (m : Moment)
      (ht : e.task t = .suspended k) (hsegment : k.resume env m = some segment) :
      Steps env e (.resume t m) ((e.writeTombstone m.now k.tombstone).runSegment env m t segment)
  | woken {t : CallId} {r : JsString} {callback : Callback} {manager : SessionManager σ}
      (m : Moment) (ht : e.task t = .waiting r callback)
      (hmanager : e.manager.step env.maxQueueSize (.resume t m.now) = some manager) :
      Steps env e (.resume t m) ((e.setManager manager).enter env m t r callback
        (e.manager.getSession m.now r).1)
  | signRefused {t : CallId} {r : JsString} {role : SigningRole} {signature : JsString}
      {s : DerivedSession} {failure : Failure EngineError} (m : Moment)
      (ht : e.task t = .verifying r role signature s)
      (hfinish : finishSign env m r role signature s = .error failure) :
      Steps env e (.resume t m) (e.settle env t (.error failure))
  | signed {t : CallId} {r : JsString} {role : SigningRole} {signature : JsString}
      {s : DerivedSession} {event : NegotiationEvent} (m : Moment)
      (ht : e.task t = .verifying r role signature s)
      (hfinish : finishSign env m r role signature s = .ok event) :
      Steps env e (.resume t m) (e.commit env m t r (.sign role signature) event)
  | rpcReturns {t : CallId} {fetch : Fetch} {request : SettlementRequest} {quote : Members}
      (tx : JsValue) (m : Moment) (ht : e.task t = .suspended (.fetching fetch request quote)) :
      Steps env e (.rpcReturns t tx m) ((e.answer request.paymentSignature tx).runSegment env m t
        (fetch.resume env m request quote tx))
  | rpcThrows {t : CallId} {fetch : Fetch} {request : SettlementRequest} {quote : Members}
      (ht : e.task t = .suspended (.fetching fetch request quote)) :
      Steps env e (.rpcThrows t)
        (e.setTask t (.finished (.error (.refused fetch.route.unexpected))))
  | lockTimeout {t : CallId} {r : JsString} {callback : Callback} {manager : SessionManager σ}
      (ht : e.task t = .waiting r callback)
      (hmanager : e.manager.lockStep env.maxQueueSize (.timeout t) = some manager) :
      Steps env e (.lockTimeout t) ((e.setManager manager).setTask t
        (.finished (.error (callback.answerError (busy
          (js "Session lock timeout (" ++ natText env.lockTimeoutMs ++ js "ms)"))))))
  | cleanup {t : CallId} {manager : SessionManager σ}
      (hmanager : e.manager.lockStep env.maxQueueSize (.cleanup t) = some manager) :
      Steps env e (.cleanup t) (e.setManager manager)
  | release {t : CallId} {manager : SessionManager σ}
      (hmanager : e.manager.lockStep env.maxQueueSize (.release t) = some manager) :
      Steps env e (.release t) (e.setManager manager)
  | enforce {t : CallId} {r : JsString} {s : DerivedSession} (m : Moment)
      (ht : e.task t = .idle) (hsession : (e.manager.getSession m.now r).1 = .ok (some s)) :
      Steps env e (.enforce t r m)
        ((e.setManager (e.manager.getSession m.now r).2).scan env m t r s)
  | sweep (now : ℤ) : Steps env e (.sweep now) { e with tombstones := e.tombstones.sweep now }
  | evictStaleCache (now : ℤ) :
      Steps env e (.evictStaleCache now)
        (e.setManager (e.manager.evictStaleCache now STALE_CACHE_MS))
  | read (r : JsString) (now : ℤ) :
      Steps env e (.read r now) (e.setManager (e.manager.getSession now r).2)
  | addListing {listing : Listing} {listingStore : ListingStore}
      (hlistings : e.listingStore.add listing = .ok listingStore) :
      Steps env e (.addListing listing) { e with listingStore }
  | restart : Steps env e .restart { e with
      manager := { (SessionManager.empty : SessionManager σ) with store := e.manager.store }
      tombstones := .empty
      listingStore := .empty
      task := fun _ => .idle }

theorem steps_of_resume {env : EngineEnv} {e e' : EngineState σ} {m : Moment} {t : CallId}
    (h : e.resume env m t = some e') : Steps env e (.resume t m) e' := by
  unfold resume at h
  cases ht : e.task t with
  | suspended k =>
    simp only [ht, Option.map_eq_some_iff] at h
    obtain ⟨segment, hsegment, rfl⟩ := h
    exact .continued m ht hsegment
  | waiting r callback =>
    simp only [ht, Option.map_eq_some_iff] at h
    obtain ⟨manager, hmanager, rfl⟩ := h
    exact .woken m ht hmanager
  | verifying r role signature s =>
    simp only [ht, Option.some.injEq] at h
    cases hfinish : finishSign env m r role signature s with
    | error failure =>
      simp only [hfinish] at h
      exact h ▸ .signRefused m ht hfinish
    | ok event =>
      simp only [hfinish] at h
      exact h ▸ .signed m ht hfinish
  | _ => simp [ht] at h

theorem steps_of_step {env : EngineEnv} {e e' : EngineState σ} {i : EngineLabel}
    (h : e.step env i = some e') : Steps env e i e' := by
  cases i with
  | request t request m =>
    unfold step at h
    cases ht : e.task t with
    | idle =>
      simp only [ht, Option.some.injEq] at h
      exact h ▸ .request request m ht
    | _ => simp [ht] at h
  | resume t m => exact steps_of_resume h
  | rpcReturns t tx m =>
    unfold step rpcReturns at h
    cases ht : e.task t with
    | suspended k =>
      cases k with
      | fetching fetch request quote =>
        simp only [ht, Option.some.injEq] at h
        exact h ▸ .rpcReturns tx m ht
      | _ => simp [ht] at h
    | _ => simp [ht] at h
  | rpcThrows t =>
    unfold step at h
    cases ht : e.task t with
    | suspended k =>
      cases k with
      | fetching fetch request quote =>
        simp only [ht, Option.some.injEq] at h
        exact h ▸ .rpcThrows ht
      | _ => simp [ht] at h
    | _ => simp [ht] at h
  | lockTimeout t =>
    unfold step at h
    cases ht : e.task t with
    | waiting r callback =>
      simp only [ht, Option.map_eq_some_iff] at h
      obtain ⟨manager, hmanager, rfl⟩ := h
      exact .lockTimeout ht hmanager
    | _ => simp [ht] at h
  | cleanup t =>
    simp only [step, Option.map_eq_some_iff] at h
    obtain ⟨manager, hmanager, rfl⟩ := h
    exact .cleanup hmanager
  | release t =>
    simp only [step, Option.map_eq_some_iff] at h
    obtain ⟨manager, hmanager, rfl⟩ := h
    exact .release hmanager
  | enforce t r m =>
    simp only [step] at h
    split at h
    · rename_i s ht hsession
      rw [Option.some.injEq] at h
      exact h ▸ .enforce m ht hsession
    · simp at h
  | sweep now =>
    simp only [step, Option.some.injEq] at h
    exact h ▸ .sweep now
  | evictStaleCache now =>
    simp only [step, Option.some.injEq] at h
    exact h ▸ .evictStaleCache now
  | read r now =>
    simp only [step, Option.some.injEq] at h
    exact h ▸ .read r now
  | addListing listing =>
    simp only [step] at h
    cases hlistings : e.listingStore.add listing with
    | ok listingStore =>
      simp only [hlistings, Option.some.injEq] at h
      exact h ▸ .addListing hlistings
    | error err => simp [hlistings] at h
  | restart =>
    simp only [step, Option.some.injEq] at h
    exact h ▸ .restart

end EngineState
end GhostBazaar.Engine
