import GhostBazaar.Js.Text
import GhostBazaar.Transition
import Mathlib.Logic.Function.Basic

/-! The FIFO lock of a session and the lock table of the manager. A step is one
synchronous segment: a call, a microtask continuation or a timer callback. -/
namespace GhostBazaar.Engine
open Js Transition

abbrev LockId := ℕ

abbrev CallId := ℕ

/-- The state of a `SessionLock` object; a waiter is the call that waits. -/
structure SessionLock where
  running : Bool
  waiters : List CallId

def SessionLock.pending (l : SessionLock) : ℕ := l.waiters.length

/-- Where a call of `withLock(r, fn)` stands, and the lock object it uses. -/
inductive Turn where
  | idle
  /-- In the queue of the lock. -/
  | waiting (r : JsString) (l : LockId)
  /-- Resolved by `release`; the continuation has not run yet. -/
  | woken (r : JsString) (l : LockId)
  /-- The callback is started and unfinished. -/
  | inCallback (r : JsString) (l : LockId)
  /-- The callback is finished; `activeLocks.delete` has not run yet. -/
  | settled (r : JsString) (l : LockId)
  /-- `release` has not run yet. -/
  | leaving (r : JsString) (l : LockId)
  | done
  deriving DecidableEq

structure LockTable where
  locks : JsString → Option LockId
  lock : LockId → SessionLock
  nextLock : LockId
  activeLocks : JsString → Bool
  turn : CallId → Turn

namespace LockTable

def empty : LockTable where
  locks := fun _ => none
  lock := fun _ => ⟨false, []⟩
  nextLock := 0
  activeLocks := fun _ => false
  turn := fun _ => .idle

def setTurn (c : LockTable) (t : CallId) (p : Turn) : LockTable :=
  { c with turn := Function.update c.turn t p }

def setLock (c : LockTable) (l : LockId) (k : SessionLock) : LockTable :=
  { c with lock := Function.update c.lock l k }

def setActive (c : LockTable) (r : JsString) (b : Bool) : LockTable :=
  { c with activeLocks := Function.update c.activeLocks r b }

def getOrCreateLock (c : LockTable) (r : JsString) : LockId × LockTable :=
  match c.locks r with
  | some l => (l, c)
  | none => (c.nextLock, { c with
      locks := Function.update c.locks r (some c.nextLock)
      lock := Function.update c.lock c.nextLock ⟨false, []⟩
      nextLock := c.nextLock + 1 })

/-- The wrapper that `withLock` passes to `run`: when its `getSession` throws, the
callback is not started and the lock table entry is cleared at once. -/
def start (c : LockTable) (t : CallId) (r : JsString) (l : LockId) (loaded : Bool) : LockTable :=
  if loaded then (c.setActive r true).setTurn t (.inCallback r l)
  else (c.setActive r false).setTurn t (.leaving r l)

/-- `withLock(r, fn)` up to its first suspension. -/
def call (maxQueueSize : ℕ) (c : LockTable) (t : CallId) (r : JsString) (loaded : Bool) :
    LockTable :=
  let (l, c) := c.getOrCreateLock r
  if maxQueueSize ≤ (c.lock l).pending then c.setTurn t .done
  else if !(c.lock l).running then
    (c.setLock l { c.lock l with running := true }).start t r l loaded
  else
    (c.setLock l { c.lock l with waiters := (c.lock l).waiters ++ [t] }).setTurn t (.waiting r l)

/-- `waiter.resolve()`. -/
def wake (c : LockTable) (t : CallId) : LockTable :=
  match c.turn t with
  | .waiting r l => c.setTurn t (.woken r l)
  | _ => c

def release (c : LockTable) (l : LockId) : LockTable :=
  match (c.lock l).waiters with
  | t :: ts => (c.setLock l { c.lock l with waiters := ts }).wake t
  | [] => c.setLock l { c.lock l with running := false }

def removeLock (c : LockTable) (r : JsString) : Bool × LockTable :=
  if c.activeLocks r then (false, c)
  else match c.locks r with
    | none => (true, c)
    | some l =>
      if 0 < (c.lock l).pending then (false, c)
      else (true, { c with locks := Function.update c.locks r none })

end LockTable

inductive LockLabel where
  | call (t : CallId) (r : JsString) (loaded : Bool)
  /-- The continuation of a woken waiter. -/
  | resume (t : CallId) (loaded : Bool)
  | timeout (t : CallId)
  /-- The callback returns or throws. -/
  | settle (t : CallId)
  | cleanup (t : CallId)
  | release (t : CallId)
  | removeLock (r : JsString)
  deriving DecidableEq

def LockTable.step (maxQueueSize : ℕ) (c : LockTable) : LockLabel → Option LockTable
  | .call t r loaded =>
    if c.turn t = .idle then some (c.call maxQueueSize t r loaded) else none
  | .resume t loaded =>
    match c.turn t with
    | .woken r l => some (c.start t r l loaded)
    | _ => none
  | .timeout t =>
    match c.turn t with
    | .waiting _ l =>
      some ((c.setLock l { c.lock l with waiters := (c.lock l).waiters.erase t }).setTurn t .done)
    | _ => none
  | .settle t =>
    match c.turn t with
    | .inCallback r l => some (c.setTurn t (.settled r l))
    | _ => none
  | .cleanup t =>
    match c.turn t with
    | .settled r l => some ((c.setActive r false).setTurn t (.leaving r l))
    | _ => none
  | .release t =>
    match c.turn t with
    | .leaving _ l => some ((c.release l).setTurn t .done)
    | _ => none
  | .removeLock r => some (c.removeLock r).2

/-- The steps of the table, each with the turn of its call. -/
inductive LockTable.Steps (maxQueueSize : ℕ) (c : LockTable) : LockLabel → LockTable → Prop
  | call {t : CallId} (r : JsString) (loaded : Bool) (ht : c.turn t = .idle) :
      Steps maxQueueSize c (.call t r loaded) (c.call maxQueueSize t r loaded)
  | resume {t : CallId} {r : JsString} {l : LockId} (loaded : Bool) (ht : c.turn t = .woken r l) :
      Steps maxQueueSize c (.resume t loaded) (c.start t r l loaded)
  | timeout {t : CallId} {r : JsString} {l : LockId} (ht : c.turn t = .waiting r l) :
      Steps maxQueueSize c (.timeout t)
        ((c.setLock l { c.lock l with waiters := (c.lock l).waiters.erase t }).setTurn t .done)
  | settle {t : CallId} {r : JsString} {l : LockId} (ht : c.turn t = .inCallback r l) :
      Steps maxQueueSize c (.settle t) (c.setTurn t (.settled r l))
  | cleanup {t : CallId} {r : JsString} {l : LockId} (ht : c.turn t = .settled r l) :
      Steps maxQueueSize c (.cleanup t) ((c.setActive r false).setTurn t (.leaving r l))
  | release {t : CallId} {r : JsString} {l : LockId} (ht : c.turn t = .leaving r l) :
      Steps maxQueueSize c (.release t) ((c.release l).setTurn t .done)
  | removeLock (r : JsString) : Steps maxQueueSize c (.removeLock r) (c.removeLock r).2

theorem LockTable.steps_of_step {maxQueueSize : ℕ} {c c' : LockTable} {i : LockLabel}
    (h : c.step maxQueueSize i = some c') : Steps maxQueueSize c i c' := by
  cases i with
  | call t r loaded =>
    simp only [step, Option.ite_none_right_eq_some, Option.some.injEq] at h
    obtain ⟨ht, rfl⟩ := h
    exact .call r loaded ht
  | resume t loaded =>
    cases ht : c.turn t <;> simp only [step, ht, reduceCtorEq, Option.some.injEq] at h
    exact h ▸ .resume loaded ht
  | timeout t =>
    cases ht : c.turn t <;> simp only [step, ht, reduceCtorEq, Option.some.injEq] at h
    exact h ▸ .timeout ht
  | settle t =>
    cases ht : c.turn t <;> simp only [step, ht, reduceCtorEq, Option.some.injEq] at h
    exact h ▸ .settle ht
  | cleanup t =>
    cases ht : c.turn t <;> simp only [step, ht, reduceCtorEq, Option.some.injEq] at h
    exact h ▸ .cleanup ht
  | release t =>
    cases ht : c.turn t <;> simp only [step, ht, reduceCtorEq, Option.some.injEq] at h
    exact h ▸ .release ht
  | removeLock r =>
    simp only [step, Option.some.injEq] at h
    exact h ▸ .removeLock r

/-! ### Reading the calls -/

namespace Turn

/-- The session and the lock object of a call. -/
@[grind =] def on : Turn → Option (JsString × LockId)
  | .idle | .done => none
  | .waiting r l | .woken r l | .inCallback r l | .settled r l | .leaving r l => some (r, l)

/-- The lock object a call holds: it set `running`, or was woken by the holder before it. -/
@[grind =] def holds : Turn → Option LockId
  | .woken _ l | .inCallback _ l | .settled _ l | .leaving _ l => some l
  | .idle | .waiting _ _ | .done => none

/-- The session whose `activeLocks` entry a call has set. -/
@[grind =] def entered : Turn → Option JsString
  | .inCallback r _ | .settled r _ => some r
  | .idle | .waiting _ _ | .woken _ _ | .leaving _ _ | .done => none

/-- The session and the lock object of a call whose callback is not finished. -/
@[grind =] def needs : Turn → Option (JsString × LockId)
  | .waiting r l | .woken r l | .inCallback r l | .settled r l => some (r, l)
  | .idle | .leaving _ _ | .done => none

@[grind →] theorem on_of_holds {p : Turn} {l : LockId} (h : p.holds = some l) :
    ∃ r, p.on = some (r, l) := by
  cases p <;> simp_all [holds, on]

@[grind →] theorem on_of_needs {p : Turn} {x : JsString × LockId} (h : p.needs = some x) :
    p.on = some x := by
  cases p <;> simp_all [needs, on]

theorem on_of_entered {p : Turn} {r : JsString} (h : p.entered = some r) :
    ∃ l, p.needs = some (r, l) ∧ p.holds = some l := by
  cases p <;> simp_all [entered, needs, holds]

end Turn

namespace LockTable

@[grind =] theorem turn_setTurn (c : LockTable) (t u : CallId) (p : Turn) :
    (c.setTurn t p).turn u = if u = t then p else c.turn u := by
  simp [setTurn, Function.update_apply]

@[grind =] theorem lock_setLock (c : LockTable) (l m : LockId) (k : SessionLock) :
    (c.setLock l k).lock m = if m = l then k else c.lock m := by
  simp [setLock, Function.update_apply]

@[grind =] theorem activeLocks_setActive (c : LockTable) (r s : JsString) (b : Bool) :
    (c.setActive r b).activeLocks s = if s = r then b else c.activeLocks s := by
  simp [setActive, Function.update_apply]

@[simp, grind =] theorem locks_setTurn (c : LockTable) (t : CallId) (p : Turn) (r : JsString) :
    (c.setTurn t p).locks r = c.locks r := rfl

@[simp, grind =] theorem lock_setTurn (c : LockTable) (t : CallId) (p : Turn) (m : LockId) :
    (c.setTurn t p).lock m = c.lock m := rfl

@[simp, grind =] theorem nextLock_setTurn (c : LockTable) (t : CallId) (p : Turn) :
    (c.setTurn t p).nextLock = c.nextLock := rfl

@[simp, grind =] theorem activeLocks_setTurn (c : LockTable) (t : CallId) (p : Turn)
    (r : JsString) : (c.setTurn t p).activeLocks r = c.activeLocks r := rfl

@[simp, grind =] theorem locks_setLock (c : LockTable) (l : LockId) (k : SessionLock)
    (r : JsString) : (c.setLock l k).locks r = c.locks r := rfl

@[simp, grind =] theorem turn_setLock (c : LockTable) (l : LockId) (k : SessionLock) (u : CallId) :
    (c.setLock l k).turn u = c.turn u := rfl

@[simp, grind =] theorem nextLock_setLock (c : LockTable) (l : LockId) (k : SessionLock) :
    (c.setLock l k).nextLock = c.nextLock := rfl

@[simp, grind =] theorem activeLocks_setLock (c : LockTable) (l : LockId) (k : SessionLock)
    (r : JsString) : (c.setLock l k).activeLocks r = c.activeLocks r := rfl

@[simp, grind =] theorem locks_setActive (c : LockTable) (r : JsString) (b : Bool) (s : JsString) :
    (c.setActive r b).locks s = c.locks s := rfl

@[simp, grind =] theorem lock_setActive (c : LockTable) (r : JsString) (b : Bool) (m : LockId) :
    (c.setActive r b).lock m = c.lock m := rfl

@[simp, grind =] theorem turn_setActive (c : LockTable) (r : JsString) (b : Bool) (u : CallId) :
    (c.setActive r b).turn u = c.turn u := rfl

@[simp, grind =] theorem nextLock_setActive (c : LockTable) (r : JsString) (b : Bool) :
    (c.setActive r b).nextLock = c.nextLock := rfl

/-! ### Lock objects -/

/-- Each lock object belongs to one session, has at most one holder, and its queue
lists the calls that wait on it. -/
structure WellFormed (c : LockTable) : Prop where
  known : ∀ r l, c.locks r = some l → l < c.nextLock
  allocated : ∀ t r l, (c.turn t).on = some (r, l) → l < c.nextLock
  key : ∀ t r r' l, (c.turn t).on = some (r, l) → c.locks r' = some l → r' = r
  distinct : ∀ r r' l, c.locks r = some l → c.locks r' = some l → r = r'
  running : ∀ t l, (c.turn t).holds = some l → (c.lock l).running = true
  holder : ∀ t t' l, (c.turn t).holds = some l → (c.turn t').holds = some l → t = t'
  queue : ∀ l t, t ∈ (c.lock l).waiters ↔ ∃ r, c.turn t = .waiting r l
  nodup : ∀ l, (c.lock l).waiters.Nodup

theorem empty_wellFormed : WellFormed empty where
  known := by simp [empty]
  allocated := by simp [empty, Turn.on]
  key := by simp [empty]
  distinct := by simp [empty]
  running := by simp [empty, Turn.holds]
  holder := by simp [empty, Turn.holds]
  queue := by simp [empty]
  nodup := by simp [empty]

theorem getOrCreateLock_cases (c : LockTable) (r : JsString) :
    (∃ l, c.locks r = some l ∧ c.getOrCreateLock r = (l, c)) ∨
      c.locks r = none ∧ c.getOrCreateLock r = (c.nextLock, { c with
        locks := Function.update c.locks r (some c.nextLock)
        lock := Function.update c.lock c.nextLock ⟨false, []⟩
        nextLock := c.nextLock + 1 }) := by
  unfold getOrCreateLock
  cases h : c.locks r with
  | some l => exact Or.inl ⟨l, rfl, rfl⟩
  | none => exact Or.inr ⟨rfl, rfl⟩

theorem WellFormed.waiting_lt {c : LockTable} (h : c.WellFormed) {t : CallId} {r : JsString}
    {l : LockId} (ht : c.turn t = .waiting r l) : l < c.nextLock :=
  h.allocated t r l (by rw [ht, Turn.on])

theorem WellFormed.create {c : LockTable} (h : c.WellFormed) (r : JsString) : WellFormed { c with
      locks := Function.update c.locks r (some c.nextLock)
      lock := Function.update c.lock c.nextLock ⟨false, []⟩
      nextLock := c.nextLock + 1 } := by
  have hwait := fun t r l => h.waiting_lt (t := t) (r := r) (l := l)
  obtain ⟨known, allocated, key, distinct, running, holder, queue, nodup⟩ := h
  constructor <;> simp only [Function.update_apply]
  · grind
  · grind
  · grind
  · grind
  · grind
  · grind
  · grind
  · grind

/-- A new call becomes the holder of an idle lock. -/
theorem WellFormed.acquire {c : LockTable} (h : c.WellFormed) {t : CallId} {r : JsString}
    {l : LockId} {p : Turn} (hl : c.locks r = some l) (ht : c.turn t = .idle)
    (hrun : (c.lock l).running = false) (hon : p.on = some (r, l))
    (hp : ∀ r l, p ≠ .waiting r l) :
    ((c.setLock l { c.lock l with running := true }).setTurn t p).WellFormed := by
  obtain ⟨known, allocated, key, distinct, running, holder, queue, nodup⟩ := h
  constructor
  · grind
  · grind
  · grind
  · grind
  · grind
  · grind
  · grind
  · grind

/-- A new call joins the queue. -/
theorem WellFormed.enqueue {c : LockTable} (h : c.WellFormed) {t : CallId} {r : JsString}
    {l : LockId} (hl : c.locks r = some l) (ht : c.turn t = .idle) :
    ((c.setLock l { c.lock l with waiters := (c.lock l).waiters ++ [t] }).setTurn t
      (.waiting r l)).WellFormed := by
  obtain ⟨known, allocated, key, distinct, running, holder, queue, nodup⟩ := h
  constructor
  · grind
  · grind
  · grind
  · grind
  · grind
  · grind
  · grind
  · grind

/-- A call moves on with the lock it holds. -/
theorem WellFormed.advance {c : LockTable} (h : c.WellFormed) {t : CallId} {p : Turn}
    (hon : p.on = (c.turn t).on) (hholds : p.holds = (c.turn t).holds)
    (ht : ∀ r l, c.turn t ≠ .waiting r l) : (c.setTurn t p).WellFormed := by
  have hp : ∀ r l, p ≠ .waiting r l := by
    rintro r l rfl
    cases hc : c.turn t with
    | waiting r l => exact ht r l hc
    | _ => simp [hc, Turn.on, Turn.holds] at hon hholds
  obtain ⟨known, allocated, key, distinct, running, holder, queue, nodup⟩ := h
  constructor
  · grind
  · grind
  · grind
  · grind
  · grind
  · grind
  · grind
  · grind

theorem WellFormed.finish {c : LockTable} (h : c.WellFormed) {t : CallId}
    (ht : ∀ r l, c.turn t ≠ .waiting r l) : (c.setTurn t .done).WellFormed := by
  obtain ⟨known, allocated, key, distinct, running, holder, queue, nodup⟩ := h
  constructor
  · grind
  · grind
  · grind
  · grind
  · grind
  · grind
  · grind
  · grind

theorem WellFormed.giveUp {c : LockTable} (h : c.WellFormed) {t : CallId} {r : JsString}
    {l : LockId} (ht : c.turn t = .waiting r l) :
    ((c.setLock l { c.lock l with waiters := (c.lock l).waiters.erase t }).setTurn t
      .done).WellFormed := by
  have hmem := fun a : CallId => (h.nodup l).mem_erase_iff (a := a) (b := t)
  have hnodup := (h.nodup l).erase t
  obtain ⟨known, allocated, key, distinct, running, holder, queue, nodup⟩ := h
  constructor
  · grind
  · grind
  · grind
  · grind
  · grind
  · grind
  · grind
  · grind

theorem WellFormed.handOff {c : LockTable} (h : c.WellFormed) {t : CallId} {r : JsString}
    {l : LockId} (ht : c.turn t = .leaving r l) :
    ((c.release l).setTurn t .done).WellFormed := by
  unfold release
  cases hw : (c.lock l).waiters with
  | nil =>
    obtain ⟨known, allocated, key, distinct, running, holder, queue, nodup⟩ := h
    constructor
    · grind
    · grind
    · grind
    · grind
    · grind
    · grind
    · grind
    · grind
  | cons u us =>
    obtain ⟨r', hu⟩ := (h.queue l u).mp (by simp [hw])
    have hnodup := h.nodup l
    simp only [wake, turn_setLock, hu]
    obtain ⟨known, allocated, key, distinct, running, holder, queue, nodup⟩ := h
    constructor
    · grind
    · grind
    · grind
    · grind
    · grind
    · grind
    · grind
    · grind

theorem WellFormed.remove {c : LockTable} (h : c.WellFormed) (r : JsString) :
    (c.removeLock r).2.WellFormed := by
  unfold removeLock
  split_ifs
  · exact h
  · split
    · exact h
    · split_ifs
      · exact h
      · obtain ⟨known, allocated, key, distinct, running, holder, queue, nodup⟩ := h
        constructor <;> simp only [Function.update_apply] <;> grind

/-- Setting and clearing `activeLocks` entries does not concern the lock objects. -/
theorem WellFormed.setActive {c : LockTable} (h : c.WellFormed) (r : JsString) (b : Bool) :
    (c.setActive r b).WellFormed :=
  ⟨h.known, h.allocated, h.key, h.distinct, h.running, h.holder, h.queue, h.nodup⟩

theorem WellFormed.call {c : LockTable} (h : c.WellFormed) (maxQueueSize : ℕ) {t : CallId}
    (ht : c.turn t = .idle) (r : JsString) (loaded : Bool) :
    (c.call maxQueueSize t r loaded).WellFormed := by
  obtain ⟨l, c₁, hget, h₁, hl, ht₁⟩ : ∃ l c₁, c.getOrCreateLock r = (l, c₁) ∧
      c₁.WellFormed ∧ c₁.locks r = some l ∧ c₁.turn t = .idle := by
    rcases c.getOrCreateLock_cases r with ⟨l, hl, hget⟩ | ⟨-, hget⟩
    · exact ⟨l, c, hget, h, hl, ht⟩
    · exact ⟨_, _, hget, h.create r, by simp, ht⟩
  simp only [LockTable.call, hget]
  split_ifs with hfull hrun
  · exact h₁.finish (by simp [ht₁])
  · have hrun' : (c₁.lock l).running = false := by simpa using hrun
    cases loaded with
    | false => exact (h₁.acquire hl ht₁ hrun' (p := .leaving r l) rfl nofun).setActive r false
    | true => exact (h₁.acquire hl ht₁ hrun' (p := .inCallback r l) rfl nofun).setActive r true
  · exact h₁.enqueue hl ht₁

theorem WellFormed.step {maxQueueSize : ℕ} {c c' : LockTable} {i : LockLabel}
    (h : c.WellFormed) (hstep : c.step maxQueueSize i = some c') : c'.WellFormed := by
  cases steps_of_step hstep with
  | call r loaded ht => exact h.call maxQueueSize ht r loaded
  | @resume t r l loaded ht =>
    have hmove (p : Turn) (hon : p.on = (c.turn t).on) (hholds : p.holds = (c.turn t).holds) :=
      h.advance hon hholds (by simp [ht])
    cases loaded with
    | false => exact (hmove (.leaving _ _) (by rw [ht]; rfl) (by rw [ht]; rfl)).setActive _ _
    | true => exact (hmove (.inCallback _ _) (by rw [ht]; rfl) (by rw [ht]; rfl)).setActive _ _
  | timeout ht => exact h.giveUp ht
  | settle ht => exact h.advance (by rw [ht]; rfl) (by rw [ht]; rfl) (by simp [ht])
  | @cleanup t r l ht =>
    have hmove := h.advance (t := t) (p := .leaving r l) (by rw [ht]; rfl) (by rw [ht]; rfl)
      (by simp [ht])
    exact hmove.setActive _ _
  | release ht => exact h.handOff ht
  | removeLock r => exact h.remove r

/-! ### What a step does to the turns -/

theorem turn_release (c : LockTable) (l : LockId) (u : CallId) :
    (c.release l).turn u = c.turn u ∨
      ∃ r m, c.turn u = .waiting r m ∧ (c.release l).turn u = .woken r m := by
  unfold release
  cases (c.lock l).waiters with
  | nil => exact Or.inl rfl
  | cons v vs =>
    simp only [wake, turn_setLock]
    cases hv : c.turn v with
    | waiting r m =>
      simp only [turn_setTurn, turn_setLock]
      split_ifs with hu
      · exact Or.inr ⟨r, m, hu ▸ hv, rfl⟩
      · exact Or.inl rfl
    | _ => exact Or.inl rfl

theorem turn_getOrCreateLock (c : LockTable) (r : JsString) (u : CallId) :
    (c.getOrCreateLock r).2.turn u = c.turn u := by
  rcases c.getOrCreateLock_cases r with ⟨l, -, h⟩ | ⟨-, h⟩ <;> rw [h]

theorem turn_call (maxQueueSize : ℕ) (c : LockTable) (t : CallId) (r : JsString) (loaded : Bool)
    (u : CallId) : (c.call maxQueueSize t r loaded).turn u = c.turn u ∨
      u = t ∧ ∀ s l, ((c.call maxQueueSize t r loaded).turn u).on = some (s, l) → s = r := by
  have hcreate := c.turn_getOrCreateLock r u
  simp only [call, start]
  grind

theorem turn_removeLock (c : LockTable) (r : JsString) : (c.removeLock r).2.turn = c.turn := by
  unfold removeLock
  split_ifs
  · rfl
  · split
    · rfl
    · split_ifs <;> rfl

/-- A step leaves a turn alone, wakes it, starts a call, ends a callback, or moves a call
that is neither new nor inside its callback, on the same session. -/
theorem step_turn {maxQueueSize : ℕ} {c c' : LockTable} {i : LockLabel}
    (hstep : c.step maxQueueSize i = some c') (u : CallId) :
    c'.turn u = c.turn u ∨
      (∃ r loaded, i = .call u r loaded ∧ ∀ s l, (c'.turn u).on = some (s, l) → s = r) ∨
      i = .settle u ∨
      c.turn u ≠ .idle ∧ (∀ r l, c.turn u ≠ .inCallback r l) ∧
        ∀ x, (c'.turn u).on = some x → (c.turn u).on = some x := by
  cases steps_of_step hstep with
  | @call t r loaded _ =>
    rcases c.turn_call maxQueueSize t r loaded u with h | ⟨rfl, h⟩
    · exact Or.inl h
    · exact Or.inr (Or.inl ⟨r, loaded, rfl, h⟩)
  | removeLock r => exact Or.inl (by rw [turn_removeLock])
  | @release t r l ht =>
    have hrelease := c.turn_release l u
    grind
  | resume loaded ht =>
    simp only [start]
    grind
  | settle ht | timeout ht | cleanup ht => grind

/-! ### Exclusivity for one session -/

/-- Every unfinished callback of the session is on the lock object in `locks`, and the
session is in `activeLocks` while a callback is under way. -/
structure Exclusive (c : LockTable) (r : JsString) : Prop where
  current : ∀ t l, (c.turn t).needs = some (r, l) → c.locks r = some l
  active : ∀ t, (c.turn t).entered = some r → c.activeLocks r = true

theorem empty_exclusive (r : JsString) : Exclusive empty r where
  current := by simp [empty, Turn.needs]
  active := by simp [empty, Turn.entered]

theorem Exclusive.unique {c : LockTable} {r : JsString} (hc : c.WellFormed) (h : c.Exclusive r)
    {t u : CallId} (ht : (c.turn t).entered = some r) (hu : (c.turn u).entered = some r) :
    t = u := by
  obtain ⟨l, hl, hholds⟩ := Turn.on_of_entered ht
  obtain ⟨m, hm, hholds'⟩ := Turn.on_of_entered hu
  have hlm : l = m := Option.some.inj ((h.current t l hl).symm.trans (h.current u m hm))
  exact hc.holder t u l hholds (hlm ▸ hholds')

/-- `removeLock(r)` deletes the lock of `r` in the window between a hand-off and the
continuation of the woken waiter. -/
def RemovesInHandOff (c : LockTable) (r : JsString) : LockLabel → Prop
  | .removeLock s => s = r ∧ c.activeLocks r = false ∧
      ∃ t l, c.turn t = .woken r l ∧ (c.lock l).waiters = []
  | _ => False

theorem Exclusive.setTurn {c : LockTable} {r : JsString} (h : c.Exclusive r) {t : CallId}
    {p : Turn} (hneeds : p.needs = none ∨ p.needs = (c.turn t).needs)
    (hentered : p.entered = none ∨ p.entered = (c.turn t).entered) :
    (c.setTurn t p).Exclusive r := by
  obtain ⟨current, active⟩ := h
  constructor
  · grind
  · grind

theorem Exclusive.setLock {c : LockTable} {r : JsString} (h : c.Exclusive r) (l : LockId)
    (k : SessionLock) : (c.setLock l k).Exclusive r := ⟨h.current, h.active⟩

/-- A call enters its callback, or skips it, when no other call of the session is inside. -/
theorem Exclusive.start {c : LockTable} {r : JsString} (h : c.Exclusive r) {t : CallId}
    {s : JsString} {l : LockId} (loaded : Bool) (hl : s = r → c.locks r = some l)
    (halone : s = r → ∀ u, u ≠ t → (c.turn u).entered ≠ some r) :
    (c.start t s l loaded).Exclusive r := by
  obtain ⟨current, active⟩ := h
  unfold LockTable.start
  cases loaded with
  | false => constructor <;> grind
  | true => constructor <;> grind

/-- On an idle lock no call of the session is inside. -/
theorem Exclusive.none_entered {c : LockTable} {r : JsString} (hc : c.WellFormed)
    (h : c.Exclusive r) {l : LockId} (hl : c.locks r = some l)
    (hrun : (c.lock l).running = false) (u : CallId) : (c.turn u).entered ≠ some r := by
  intro hu
  cases hu' : c.turn u with
  | inCallback s m | settled s m =>
    simp only [hu', Turn.entered, Option.some.injEq] at hu
    have hm := h.current u m (by rw [hu', hu, Turn.needs])
    have hheld := hc.running u m (by rw [hu', Turn.holds])
    rw [hl, Option.some.injEq] at hm
    rw [← hm, hrun] at hheld
    exact Bool.false_ne_true hheld
  | _ => simp [hu', Turn.entered] at hu

theorem Exclusive.create {c : LockTable} {r : JsString} (h : c.Exclusive r) (s : JsString)
    (hs : c.locks s = none) : Exclusive { c with
      locks := Function.update c.locks s (some c.nextLock)
      lock := Function.update c.lock c.nextLock ⟨false, []⟩
      nextLock := c.nextLock + 1 } r := by
  obtain ⟨current, active⟩ := h
  constructor <;> simp only [Function.update_apply]
  · grind
  · exact active

theorem Exclusive.call {c : LockTable} {r : JsString} (hc : c.WellFormed) (h : c.Exclusive r)
    (maxQueueSize : ℕ) {t : CallId} (ht : c.turn t = .idle) (s : JsString) (loaded : Bool) :
    (c.call maxQueueSize t s loaded).Exclusive r := by
  obtain ⟨l, c₁, hget, hc₁, h₁, hl, ht₁⟩ : ∃ l c₁, c.getOrCreateLock s = (l, c₁) ∧
      c₁.WellFormed ∧ c₁.Exclusive r ∧ c₁.locks s = some l ∧ c₁.turn t = .idle := by
    rcases c.getOrCreateLock_cases s with ⟨l, hl, hget⟩ | ⟨hs, hget⟩
    · exact ⟨l, c, hget, hc, h, hl, ht⟩
    · exact ⟨_, _, hget, hc.create s, h.create s hs, by simp, ht⟩
  simp only [LockTable.call, hget]
  split_ifs with hfull hrun
  · exact h₁.setTurn (Or.inl rfl) (Or.inl rfl)
  · have hrun' : (c₁.lock l).running = false := by simpa using hrun
    refine (h₁.setLock l _).start loaded (fun hs => hs ▸ hl) fun hs u _ => ?_
    exact h₁.none_entered hc₁ (hs ▸ hl) hrun' u
  · obtain ⟨current, active⟩ := h₁
    constructor <;> grind

theorem Exclusive.release {c : LockTable} {r : JsString} (h : c.Exclusive r) (l : LockId) :
    (c.release l).Exclusive r := by
  unfold LockTable.release
  cases (c.lock l).waiters with
  | nil => exact h.setLock l _
  | cons u us =>
    simp only [wake, turn_setLock]
    cases hu : c.turn u with
    | waiting s m =>
      refine (h.setLock l _).setTurn (Or.inr ?_) (Or.inr ?_) <;>
        simp [hu, Turn.needs, Turn.entered]
    | _ => exact h.setLock l _

theorem Exclusive.remove {c : LockTable} {r : JsString} (hc : c.WellFormed) (h : c.Exclusive r)
    (s : JsString) (hok : ¬ c.RemovesInHandOff r (.removeLock s)) :
    (c.removeLock s).2.Exclusive r := by
  unfold LockTable.removeLock
  split_ifs with hactive
  · exact h
  split
  · exact h
  rename_i l hl
  split_ifs with hpending
  · exact h
  refine ⟨fun t m hneeds => ?_, h.active⟩
  show Function.update c.locks s none r = some m
  rw [Function.update_apply, h.current t m hneeds]
  split_ifs with hrs
  · subst hrs
    have hwaiters : (c.lock l).waiters = [] := by
      simpa [SessionLock.pending, List.length_eq_zero_iff] using hpending
    have hlm : l = m := Option.some.inj (hl.symm.trans (h.current t m hneeds))
    subst hlm
    exfalso
    cases ht : c.turn t with
    | waiting r' m =>
      simp only [ht, Turn.needs, Option.some.injEq, Prod.mk.injEq] at hneeds
      have hmem := (hc.queue l t).mpr ⟨r', by rw [ht, hneeds.2]⟩
      simp [hwaiters] at hmem
    | woken r' m =>
      simp only [ht, Turn.needs, Option.some.injEq, Prod.mk.injEq] at hneeds
      exact hok ⟨rfl, by simpa using hactive, t, l, by rw [ht, hneeds.1, hneeds.2], hwaiters⟩
    | inCallback r' m | settled r' m =>
      simp only [ht, Turn.needs, Option.some.injEq, Prod.mk.injEq] at hneeds
      exact hactive (h.active t (by rw [ht, hneeds.1, Turn.entered]))
    | _ => simp [ht, Turn.needs] at hneeds
  · rfl

theorem Exclusive.step {maxQueueSize : ℕ} {c c' : LockTable} {i : LockLabel} {r : JsString}
    (hc : c.WellFormed) (h : c.Exclusive r) (hok : ¬ c.RemovesInHandOff r i)
    (hstep : c.step maxQueueSize i = some c') : c'.Exclusive r := by
  cases steps_of_step hstep with
  | call s loaded ht => exact h.call hc maxQueueSize ht s loaded
  | @resume t s l loaded ht =>
    have hl : s = r → c.locks r = some l := fun hs => h.current t l (by rw [ht, hs, Turn.needs])
    refine h.start loaded hl fun hs u hut hu => hut ?_
    obtain ⟨m, hneeds, hholds⟩ := Turn.on_of_entered hu
    have hlm : l = m := Option.some.inj ((hl hs).symm.trans (h.current u m hneeds))
    exact hc.holder u t l (hlm ▸ hholds) (by rw [ht, Turn.holds])
  | timeout => exact (h.setLock _ _).setTurn (Or.inl rfl) (Or.inl rfl)
  | settle ht => exact h.setTurn (Or.inr (by rw [ht]; rfl)) (Or.inr (by rw [ht]; rfl))
  | @cleanup t s l ht =>
    -- no other call of this session is inside, so its entry may be cleared
    have halone : s = r → ∀ u, u ≠ t → (c.turn u).entered ≠ some r := fun hs u hut hu =>
      hut (h.unique hc hu (by rw [ht, hs, Turn.entered]))
    obtain ⟨current, active⟩ := h
    constructor <;> grind
  | release => exact (h.release _).setTurn (Or.inl rfl) (Or.inl rfl)
  | removeLock s => exact h.remove hc s hok

end LockTable

/-! ### Schedules -/

/-- A call is inside the callback that it passed to `withLock(r, ·)`. -/
def LockTable.InProgress (c : LockTable) (r : JsString) (t : CallId) : Prop :=
  ∃ l, c.turn t = .inCallback r l

/-- Mutual exclusion in every schedule that keeps `removeLock(r)` out of the hand-off window. -/
theorem withLock_exclusive (maxQueueSize : ℕ) (r : JsString) (is : List LockLabel)
    (hok : Guarded (LockTable.step maxQueueSize) (fun c i => ¬ c.RemovesInHandOff r i) .empty is)
    {t u : CallId} (hne : t ≠ u) :
    ¬ ((run (LockTable.step maxQueueSize) .empty is).InProgress r t ∧
      (run (LockTable.step maxQueueSize) .empty is).InProgress r u) := by
  have hinv := hok.invariant (P := fun c => c.WellFormed ∧ c.Exclusive r)
    (fun c i c' h hi hstep => ⟨h.1.step hstep, h.2.step h.1 hi hstep⟩)
    ⟨LockTable.empty_wellFormed, LockTable.empty_exclusive r⟩
  rintro ⟨⟨l, hl⟩, ⟨m, hm⟩⟩
  exact hne (hinv.2.unique hinv.1 (by rw [hl, Turn.entered]) (by rw [hm, Turn.entered]))

theorem withLock_exclusive_two :
    ¬ ((run (LockTable.step 10) .empty [.call 1 (js "rfq-1") true, .call 2 (js "rfq-1") true,
        .removeLock (js "rfq-1"), .settle 1, .cleanup 1, .release 1, .resume 2 true]).InProgress
          (js "rfq-1") 1 ∧
      (run (LockTable.step 10) .empty [.call 1 (js "rfq-1") true, .call 2 (js "rfq-1") true,
        .removeLock (js "rfq-1"), .settle 1, .cleanup 1, .release 1, .resume 2 true]).InProgress
          (js "rfq-1") 2) := by
  refine withLock_exclusive 10 (js "rfq-1") _ ?_ (by decide)
  refine ⟨id, id, fun h => ?_, id, id, id, id, trivial⟩
  have hactive := h.2.1
  revert hactive
  decide

/-- Call 1 hands the lock over to call 2; before call 2 goes on, the lock is removed and
call 3 starts on a new one. -/
def handOffSchedule (r : JsString) : List LockLabel :=
  [.call 1 r true, .call 2 r true, .settle 1, .cleanup 1, .release 1, .removeLock r,
    .call 3 r true, .resume 2 true]

theorem withLock_not_exclusive : ∃ r t u, t ≠ u ∧
    (run (LockTable.step 10) .empty (handOffSchedule r)).InProgress r t ∧
      (run (LockTable.step 10) .empty (handOffSchedule r)).InProgress r u :=
  ⟨js "rfq-1", 2, 3, by decide, ⟨0, by decide⟩, ⟨1, by decide⟩⟩

end GhostBazaar.Engine
