import GhostBazaar.Engine.SessionLock

/-! The order in which a lock object serves its calls. The lock table is run with a record of
which calls each lock admitted, started and timed out. -/
namespace GhostBazaar.Engine
open Js Transition

structure LockRecord where
  table : LockTable
  admitted : LockId → List CallId
  started : LockId → List CallId
  timedOut : LockId → List CallId

/-- The lock object that a call waits for or holds. -/
@[grind =] def Turn.lockId : Turn → Option LockId
  | .idle | .done => none
  | .waiting _ l | .woken _ l | .inCallback _ l | .settled _ l | .leaving _ l => some l

namespace LockRecord

def empty : LockRecord := ⟨.empty, fun _ => [], fun _ => [], fun _ => []⟩

/-- Adds a call to the list of a lock. -/
def note (lock : Option LockId) (t : CallId) (f : LockId → List CallId) : LockId → List CallId :=
  match lock with
  | some l => Function.update f l (f l ++ [t])
  | none => f

/-- A call is admitted unless the queue is full, starts at once or when it resumes, and times
out while it waits. -/
def record (c : LockRecord) (table : LockTable) : LockLabel → LockRecord
  | .call t _ _ => { c with
      table := table
      admitted := note (table.turn t).lockId t c.admitted
      started := note (table.turn t).holds t c.started }
  | .resume t _ => { c with table := table, started := note (table.turn t).holds t c.started }
  | .timeout t => { c with
      table := table, timedOut := note (c.table.turn t).lockId t c.timedOut }
  | .settle _ | .cleanup _ | .release _ | .removeLock _ => { c with table := table }

def step (maxQueueSize : ℕ) (c : LockRecord) (i : LockLabel) : Option LockRecord :=
  (c.table.step maxQueueSize i).map fun table => c.record table i

theorem record_table (c : LockRecord) (table : LockTable) (i : LockLabel) :
    (c.record table i).table = table := by
  cases i <;> rfl

/-- The record does not disturb the lock table. -/
theorem run_table (maxQueueSize : ℕ) (c : LockRecord) (is : List LockLabel) :
    (run (step maxQueueSize) c is).table = run (LockTable.step maxQueueSize) c.table is := by
  induction is generalizing c with
  | nil => rfl
  | cons i is ih =>
    have hnext : (next (step maxQueueSize) c i).table =
        next (LockTable.step maxQueueSize) c.table i := by
      unfold next step
      cases c.table.step maxQueueSize i with
      | none => rfl
      | some table => exact record_table c table i
    rw [run_cons, run_cons, ih, hnext]

theorem note_self (l : LockId) (t : CallId) (f : LockId → List CallId) :
    note (some l) t f l = f l ++ [t] := by
  simp [note]

theorem note_of_ne {lock : Option LockId} {l : LockId} (h : lock ≠ some l) (t : CallId)
    (f : LockId → List CallId) : note lock t f l = f l := by
  cases lock with
  | none => rfl
  | some m =>
    have hne : l ≠ m := fun hlm => h (by rw [hlm])
    simp [note, Function.update_of_ne hne]

theorem mem_note {lock : Option LockId} {l : LockId} {t u : CallId} {f : LockId → List CallId} :
    u ∈ note lock t f l ↔ u ∈ f l ∨ lock = some l ∧ u = t := by
  by_cases h : lock = some l
  · rw [h, note_self, List.mem_append, List.mem_singleton]
    simp
  · rw [note_of_ne h]
    simp [h]

theorem nodup_note {f : LockId → List CallId} {t : CallId} (hf : ∀ l, (f l).Nodup)
    (ht : ∀ l, t ∉ f l) (lock : Option LockId) (l : LockId) : (note lock t f l).Nodup := by
  by_cases h : lock = some l
  · rw [h, note_self, List.nodup_append]
    refine ⟨hf l, List.nodup_singleton t, ?_⟩
    intro a ha b hb hab
    rw [List.mem_singleton.mp hb] at hab
    exact ht l (hab ▸ ha)
  · rw [note_of_ne h]
    exact hf l

/-! ### The order -/

/-- The admitted calls that have not timed out are those that started, the one that was woken
and the queue, in this order. -/
def InOrder (l : LockId) (turn : CallId → Turn) (waiters admitted started timedOut : List CallId) :
    Prop :=
  ∃ woken, (∀ t, t ∈ woken ↔ ∃ r, turn t = .woken r l) ∧
    admitted.filter (fun t => t ∉ timedOut) = started ++ woken ++ waiters

variable {l : LockId} {turn turn' : CallId → Turn}
  {waiters admitted started timedOut : List CallId}

theorem InOrder.congr (h : InOrder l turn waiters admitted started timedOut)
    (hwoken : ∀ t, (∃ r, turn' t = .woken r l) ↔ ∃ r, turn t = .woken r l) :
    InOrder l turn' waiters admitted started timedOut := by
  obtain ⟨woken, hw, horder⟩ := h
  exact ⟨woken, fun t => (hw t).trans (hwoken t).symm, horder⟩

theorem InOrder.none_woken (h : InOrder l turn waiters admitted started timedOut)
    (hnone : ∀ t r, turn t ≠ .woken r l) :
    admitted.filter (fun t => t ∉ timedOut) = started ++ waiters := by
  obtain ⟨woken, hw, horder⟩ := h
  have hempty : woken = [] := by
    apply List.eq_nil_iff_forall_not_mem.mpr
    intro t ht
    obtain ⟨r, hr⟩ := (hw t).mp ht
    exact hnone t r hr
  rw [horder, hempty, List.append_nil]

theorem inOrder_of_none_woken (hnone : ∀ t r, turn t ≠ .woken r l)
    (horder : admitted.filter (fun t => t ∉ timedOut) = started ++ waiters) :
    InOrder l turn waiters admitted started timedOut := by
  refine ⟨[], ?_, by rw [horder, List.append_nil]⟩
  intro t
  constructor
  · intro ht
    cases ht
  · rintro ⟨r, hr⟩
    exact absurd hr (hnone t r)

theorem filter_admitted {t : CallId} (ht : t ∉ timedOut) :
    (admitted ++ [t]).filter (fun t => t ∉ timedOut) =
      admitted.filter (fun t => t ∉ timedOut) ++ [t] := by
  simp [List.filter_append, ht]

/-- A call starts at once on a free lock. -/
theorem InOrder.acquire (h : InOrder l turn [] admitted started timedOut) {t : CallId}
    (ht : t ∉ timedOut) (hnone : ∀ t r, turn t ≠ .woken r l) (hnone' : ∀ t r, turn' t ≠ .woken r l) :
    InOrder l turn' [] (admitted ++ [t]) (started ++ [t]) timedOut := by
  apply inOrder_of_none_woken hnone'
  rw [filter_admitted ht, h.none_woken hnone]
  simp

theorem InOrder.enqueue (h : InOrder l turn waiters admitted started timedOut) {t : CallId}
    (ht : t ∉ timedOut) (hwoken : ∀ t, (∃ r, turn' t = .woken r l) ↔ ∃ r, turn t = .woken r l) :
    InOrder l turn' (waiters ++ [t]) (admitted ++ [t]) started timedOut := by
  obtain ⟨woken, hw, horder⟩ := h
  refine ⟨woken, fun u => (hw u).trans (hwoken u).symm, ?_⟩
  rw [filter_admitted ht, horder]
  simp

/-- The call that was woken starts. -/
theorem InOrder.resume (h : InOrder l turn waiters admitted started timedOut)
    (hnodup : admitted.Nodup) {t : CallId} (ht : ∀ u, (∃ r, turn u = .woken r l) ↔ u = t)
    (hnone : ∀ t r, turn' t ≠ .woken r l) :
    InOrder l turn' waiters admitted (started ++ [t]) timedOut := by
  obtain ⟨woken, hw, horder⟩ := h
  have hwoken : woken = [t] := by
    have hdistinct : woken.Nodup := by
      have hall := hnodup.filter (fun t => decide (t ∉ timedOut))
      rw [horder] at hall
      exact (List.nodup_append.mp (List.nodup_append.mp hall).1).2.1
    have hperm : woken.Perm [t] := by
      apply (List.perm_ext_iff_of_nodup hdistinct (List.nodup_singleton t)).mpr
      intro u
      rw [hw, ht, List.mem_singleton]
    exact List.perm_singleton.mp hperm
  apply inOrder_of_none_woken hnone
  rw [horder, hwoken]

/-- The first of the queue is woken. -/
theorem InOrder.handOff {u : CallId} (h : InOrder l turn (u :: waiters) admitted started timedOut)
    (hnone : ∀ t r, turn t ≠ .woken r l) (hu : ∀ t, (∃ r, turn' t = .woken r l) ↔ t = u) :
    InOrder l turn' waiters admitted started timedOut := by
  refine ⟨[u], ?_, ?_⟩
  · intro t
    rw [hu, List.mem_singleton]
  · rw [h.none_woken hnone]
    simp

/-- A call of the queue times out. -/
theorem InOrder.timeout (h : InOrder l turn waiters admitted started timedOut)
    (hnodup : admitted.Nodup) {t : CallId} (ht : t ∈ waiters)
    (hwoken : ∀ t, (∃ r, turn' t = .woken r l) ↔ ∃ r, turn t = .woken r l) :
    InOrder l turn' (waiters.erase t) admitted started (timedOut ++ [t]) := by
  obtain ⟨woken, hw, horder⟩ := h
  refine ⟨woken, fun u => (hw u).trans (hwoken u).symm, ?_⟩
  have hdistinct := hnodup.filter (fun t => decide (t ∉ timedOut))
  rw [horder] at hdistinct
  obtain ⟨_, hqueue, hapart⟩ := List.nodup_append.mp hdistinct
  have hbefore : (started ++ woken).filter (fun u => decide (u ≠ t)) = started ++ woken := by
    rw [List.filter_eq_self]
    intro u hu
    exact decide_eq_true (hapart u hu t ht)
  have hsplit : admitted.filter (fun u => decide (u ∉ timedOut ++ [t])) =
      (admitted.filter fun u => decide (u ∉ timedOut)).filter fun u => decide (u ≠ t) := by
    rw [List.filter_filter]
    apply List.filter_congr
    intro u _
    simp [and_comm]
  rw [hsplit, horder, List.filter_append, hbefore, hqueue.erase_eq_filter]
  congr 1
  apply List.filter_congr
  intro u _
  by_cases hu : u = t <;> simp [hu]

/-! ### Steps -/

structure Ordered (maxQueueSize : ℕ) (c : LockRecord) : Prop where
  wellFormed : c.table.WellFormed
  fresh : ∀ t l, t ∈ c.admitted l → c.table.turn t ≠ .idle
  gone : ∀ t l, t ∈ c.timedOut l → c.table.turn t = .done
  nodup : ∀ l, (c.admitted l).Nodup
  order : ∀ l, InOrder l c.table.turn (c.table.lock l).waiters (c.admitted l) (c.started l)
    (c.timedOut l)
  free : ∀ l, (c.table.lock l).running = false → (c.table.lock l).waiters = []
  bounded : ∀ l, (c.table.lock l).waiters.length ≤ maxQueueSize

variable {maxQueueSize : ℕ} {c : LockRecord}

theorem empty_ordered : Ordered maxQueueSize empty where
  wellFormed := LockTable.empty_wellFormed
  fresh := by simp [empty]
  gone := by simp [empty]
  nodup := by simp [empty]
  order := by
    intro l
    apply inOrder_of_none_woken
    · simp [empty, LockTable.empty]
    · simp [empty, LockTable.empty]
  free := by simp [empty, LockTable.empty]
  bounded := by simp [empty, LockTable.empty]

/-- A holder of the lock rules out that another call was woken. -/
theorem Ordered.none_woken (h : Ordered maxQueueSize c) {t : CallId} {l : LockId}
    (ht : (c.table.turn t).holds = some l) (hnot : ∀ r, c.table.turn t ≠ .woken r l) (u : CallId)
    (r : JsString) : c.table.turn u ≠ .woken r l := by
  intro hu
  have hsame := h.wellFormed.holder t u l ht (by rw [hu, Turn.holds])
  exact hnot r (hsame ▸ hu)

theorem Ordered.none_woken_of_free (h : Ordered maxQueueSize c) {l : LockId}
    (hfree : (c.table.lock l).running = false) (u : CallId) (r : JsString) :
    c.table.turn u ≠ .woken r l := by
  intro hu
  have hheld := h.wellFormed.running u l (by rw [hu, Turn.holds])
  rw [hfree] at hheld
  cases hheld

/-- Neither the queues nor the calls that were woken change. -/
theorem Ordered.of_table (h : Ordered maxQueueSize c) {table : LockTable}
    (hwf : table.WellFormed) (hwaiters : ∀ m, (table.lock m).waiters = (c.table.lock m).waiters)
    (hrunning : ∀ m, (table.lock m).running = false → (c.table.lock m).waiters = [])
    (hidle : ∀ t, table.turn t = .idle → c.table.turn t = .idle)
    (hdone : ∀ t, c.table.turn t = .done → table.turn t = .done)
    (hwoken : ∀ t r l, table.turn t = .woken r l ↔ c.table.turn t = .woken r l) :
    Ordered maxQueueSize { c with table := table } where
  wellFormed := hwf
  fresh := fun t l ht hturn => h.fresh t l ht (hidle t hturn)
  gone := fun t l ht => hdone t (h.gone t l ht)
  nodup := h.nodup
  order := by
    intro l
    simp only [hwaiters]
    apply (h.order l).congr
    intro t
    simp only [hwoken]
  free := by
    intro l hl
    rw [hwaiters]
    exact hrunning l hl
  bounded := by
    intro l
    simp only [hwaiters]
    exact h.bounded l

theorem waiters_nextLock {table : LockTable} (h : table.WellFormed) :
    (table.lock table.nextLock).waiters = [] := by
  apply List.eq_nil_iff_forall_not_mem.mpr
  intro t ht
  obtain ⟨r, hr⟩ := (h.queue _ t).mp ht
  exact absurd (h.waiting_lt hr) (lt_irrefl _)

theorem Ordered.create (h : Ordered maxQueueSize c) (r : JsString) :
    Ordered maxQueueSize { c with table := { c.table with
      locks := Function.update c.table.locks r (some c.table.nextLock)
      lock := Function.update c.table.lock c.table.nextLock ⟨false, []⟩
      nextLock := c.table.nextLock + 1 } } := by
  have hnew := waiters_nextLock h.wellFormed
  have hwaiters : ∀ m, (Function.update c.table.lock c.table.nextLock ⟨false, []⟩ m).waiters =
      (c.table.lock m).waiters := by
    intro m
    by_cases hm : m = c.table.nextLock
    · rw [hm, Function.update_self, hnew]
    · rw [Function.update_of_ne hm]
  apply h.of_table (h.wellFormed.create r) hwaiters
  · intro m hm
    by_cases hnext : m = c.table.nextLock
    · rw [hnext, hnew]
    · simp only [Function.update_of_ne hnext] at hm
      exact h.free m hm
  · exact fun t ht => ht
  · exact fun t ht => ht
  · exact fun t r l => Iff.rfl

/-- What `start` makes of the call: it holds the lock, inside its callback or past it. -/
theorem start_turn (table : LockTable) (t : CallId) (r : JsString) (l : LockId) (loaded : Bool) :
    ∃ p : Turn, p.lockId = some l ∧ p.holds = some l ∧ (∀ s m, p ≠ .woken s m) ∧ p ≠ .idle ∧
      (∀ u, (table.start t r l loaded).turn u = if u = t then p else table.turn u) ∧
      ∀ m, (table.start t r l loaded).lock m = table.lock m := by
  cases loaded with
  | true =>
    refine ⟨.inCallback r l, rfl, rfl, by rintro _ _ ⟨⟩, by rintro ⟨⟩, ?_, ?_⟩
    · intro u
      simp [LockTable.start, LockTable.turn_setTurn]
    · intro m
      simp [LockTable.start]
  | false =>
    refine ⟨.leaving r l, rfl, rfl, by rintro _ _ ⟨⟩, by rintro ⟨⟩, ?_, ?_⟩
    · intro u
      simp [LockTable.start, LockTable.turn_setTurn]
    · intro m
      simp [LockTable.start]

theorem Ordered.notMem_of_idle (h : Ordered maxQueueSize c) {t : CallId}
    (ht : c.table.turn t = .idle) (l : LockId) : t ∉ c.admitted l ∧ t ∉ c.timedOut l := by
  constructor
  · intro hmem
    exact h.fresh t l hmem ht
  · intro hmem
    have hdone := h.gone t l hmem
    rw [ht] at hdone
    cases hdone

/-- What a new call does to the lists other than that of its own lock. -/
theorem Ordered.admit (h : Ordered maxQueueSize c) {t : CallId} {l : LockId} {new : LockTable}
    {started : LockId → List CallId} {p : Turn} (ht : c.table.turn t = .idle)
    (hlock : p.lockId = some l) (hp : ∀ s m, p ≠ .woken s m)
    (hturn : ∀ u, new.turn u = if u = t then p else c.table.turn u) (hwf : new.WellFormed)
    (horder : InOrder l new.turn (new.lock l).waiters (c.admitted l ++ [t]) (started l)
      (c.timedOut l))
    (hstarted : ∀ m, m ≠ l → started m = c.started m)
    (hlocks : ∀ m, m ≠ l → new.lock m = c.table.lock m)
    (hfree : (new.lock l).running = false → (new.lock l).waiters = [])
    (hbounded : (new.lock l).waiters.length ≤ maxQueueSize) :
    Ordered maxQueueSize
      { c with table := new, admitted := note (some l) t c.admitted, started := started } where
  wellFormed := hwf
  fresh := by
    intro u m hu
    dsimp only at hu ⊢
    rw [hturn]
    split_ifs with hut
    · intro hidle
      simp [hidle, Turn.lockId] at hlock
    · rcases mem_note.mp hu with hu | ⟨_, hu⟩
      · exact h.fresh u m hu
      · exact absurd hu hut
  gone := by
    intro u m hu
    have hut : u ≠ t := fun hut => (h.notMem_of_idle ht m).2 (hut ▸ hu)
    dsimp only
    rw [hturn, if_neg hut]
    exact h.gone u m hu
  nodup := nodup_note h.nodup (fun m => (h.notMem_of_idle ht m).1) (some l)
  order := by
    intro m
    dsimp only
    by_cases hm : m = l
    · rw [hm, note_self]
      exact horder
    · rw [note_of_ne (by simpa using Ne.symm hm), hstarted m hm, hlocks m hm]
      apply (h.order m).congr
      intro u
      rw [hturn]
      split_ifs with hu
      · simp [hu, ht, hp]
      · rfl
  free := by
    intro m hm
    by_cases hml : m = l
    · rw [hml] at hm ⊢
      exact hfree hm
    · dsimp only at hm ⊢
      rw [hlocks m hml] at hm ⊢
      exact h.free m hm
  bounded := by
    intro m
    by_cases hml : m = l
    · rw [hml]
      exact hbounded
    · dsimp only
      rw [hlocks m hml]
      exact h.bounded m

/-- A new call takes a free lock. -/
theorem Ordered.acquire (h : Ordered maxQueueSize c) {t : CallId} {r : JsString} {l : LockId}
    {loaded : Bool} (ht : c.table.turn t = .idle) (hfree : (c.table.lock l).running = false)
    (hwf : ((c.table.setLock l { c.table.lock l with running := true }).start t r l
      loaded).WellFormed) :
    Ordered maxQueueSize (c.record ((c.table.setLock l
      { c.table.lock l with running := true }).start t r l loaded) (.call t r loaded)) := by
  obtain ⟨p, hlock, hholds, hwoken, _, hturn, hlocks⟩ :=
    start_turn (c.table.setLock l { c.table.lock l with running := true }) t r l loaded
  generalize (c.table.setLock l { c.table.lock l with running := true }).start t r l loaded = new
    at *
  have hnew : new.lock l = { c.table.lock l with running := true } := by
    rw [hlocks, LockTable.lock_setLock, if_pos rfl]
  have hempty := h.free l hfree
  have hpt : new.turn t = p := by simp [hturn]
  simp only [record, hpt, hlock, hholds]
  apply h.admit ht hlock hwoken hturn hwf
  · rw [note_self, hnew, hempty]
    have horder := h.order l
    rw [hempty] at horder
    apply horder.acquire (h.notMem_of_idle ht l).2 (h.none_woken_of_free hfree)
    intro u s hu
    rw [hturn] at hu
    split_ifs at hu
    · exact hwoken s l hu
    · exact h.none_woken_of_free hfree u s hu
  · intro m hm
    exact note_of_ne (by simpa using Ne.symm hm) t c.started
  · intro m hm
    rw [hlocks, LockTable.lock_setLock, if_neg hm]
  · intro _
    rw [hnew, hempty]
  · rw [hnew, hempty]
    exact Nat.zero_le _

/-- A new call joins the queue of a lock that is held. -/
theorem Ordered.enqueue (h : Ordered maxQueueSize c) {t : CallId} {r : JsString} {l : LockId}
    (loaded : Bool) (ht : c.table.turn t = .idle) (hheld : (c.table.lock l).running = true)
    (hroom : (c.table.lock l).pending < maxQueueSize)
    (hwf : ((c.table.setLock l { c.table.lock l with
      waiters := (c.table.lock l).waiters ++ [t] }).setTurn t (.waiting r l)).WellFormed) :
    Ordered maxQueueSize (c.record ((c.table.setLock l { c.table.lock l with
      waiters := (c.table.lock l).waiters ++ [t] }).setTurn t (.waiting r l))
      (.call t r loaded)) := by
  have hpt : ∀ u, ((c.table.setLock l { c.table.lock l with
      waiters := (c.table.lock l).waiters ++ [t] }).setTurn t (.waiting r l)).turn u =
      if u = t then .waiting r l else c.table.turn u := by
    intro u
    simp [LockTable.turn_setTurn]
  simp only [record, hpt, if_pos]
  apply h.admit ht (p := .waiting r l) rfl (by rintro _ _ ⟨⟩) hpt hwf
  · simp only [LockTable.lock_setTurn, LockTable.lock_setLock, if_pos]
    apply (h.order l).enqueue (h.notMem_of_idle ht l).2
    intro u
    rw [hpt]
    split_ifs with hu
    · simp [hu, ht]
    · rfl
  · intro m _
    rfl
  · intro m hm
    rw [LockTable.lock_setTurn, LockTable.lock_setLock, if_neg hm]
  · simp [LockTable.lock_setLock, hheld]
  · simp only [LockTable.lock_setTurn, LockTable.lock_setLock, if_pos, List.length_append,
      List.length_singleton]
    exact hroom

theorem Ordered.call (h : Ordered maxQueueSize c) {t : CallId} (ht : c.table.turn t = .idle)
    (r : JsString) (loaded : Bool) :
    Ordered maxQueueSize
      (c.record (c.table.call maxQueueSize t r loaded) (.call t r loaded)) := by
  have hwf := h.wellFormed.call maxQueueSize ht r loaded
  obtain ⟨l, table, hget, h₁, ht₁⟩ : ∃ l table, c.table.getOrCreateLock r = (l, table) ∧
      Ordered maxQueueSize { c with table := table } ∧ table.turn t = .idle := by
    rcases c.table.getOrCreateLock_cases r with ⟨l, _, hget⟩ | ⟨_, hget⟩
    · exact ⟨l, c.table, hget, h, ht⟩
    · exact ⟨_, _, hget, h.create r, ht⟩
  simp only [LockTable.call, hget] at hwf ⊢
  split_ifs at hwf ⊢ with hfull hrun
  · have hturn : ∀ u, (table.setTurn t .done).turn u = if u = t then .done else table.turn u :=
      fun u => table.turn_setTurn t u .done
    have hrejected : Ordered maxQueueSize { c with table := table.setTurn t .done } :=
      h₁.of_table hwf (fun m => rfl) h₁.free (by grind) (by grind) (by grind)
    have hnone : ((table.setTurn t .done).turn t).lockId = none := by
      rw [hturn, if_pos rfl]
      rfl
    have hnone' : ((table.setTurn t .done).turn t).holds = none := by
      rw [hturn, if_pos rfl]
      rfl
    simp only [record, hnone, hnone']
    exact hrejected
  · exact h₁.acquire ht₁ (by simpa using hrun) hwf
  · exact h₁.enqueue loaded ht₁ (by simpa using hrun) (by simpa using hfull) hwf

/-- The call that was woken goes on. -/
theorem Ordered.resume (h : Ordered maxQueueSize c) {t : CallId} {r : JsString} {l : LockId}
    (ht : c.table.turn t = .woken r l) (loaded : Bool)
    (hwf : (c.table.start t r l loaded).WellFormed) :
    Ordered maxQueueSize (c.record (c.table.start t r l loaded) (.resume t loaded)) := by
  obtain ⟨p, hlock, hholds, hwoken, hidle, hturn, hlocks⟩ := start_turn c.table t r l loaded
  generalize c.table.start t r l loaded = new at *
  have hpt : new.turn t = p := by simp [hturn]
  have halone : ∀ u, (∃ s, c.table.turn u = .woken s l) ↔ u = t := by
    intro u
    constructor
    · rintro ⟨s, hu⟩
      exact h.wellFormed.holder u t l (by rw [hu, Turn.holds]) (by rw [ht, Turn.holds])
    · rintro rfl
      exact ⟨r, ht⟩
  simp only [record, hpt, hholds]
  constructor
  · exact hwf
  · intro u m hu
    dsimp only
    rw [hturn]
    split_ifs
    · exact hidle
    · exact h.fresh u m hu
  · intro u m hu
    have hdone := h.gone u m hu
    dsimp only
    rw [hturn, if_neg, hdone]
    rintro rfl
    rw [ht] at hdone
    cases hdone
  · exact h.nodup
  · intro m
    dsimp only
    rw [hlocks]
    by_cases hm : m = l
    · rw [hm, note_self]
      apply (h.order l).resume (h.nodup l) halone
      intro u s hu
      rw [hturn] at hu
      split_ifs at hu with hut
      · exact hwoken s l hu
      · exact hut ((halone u).mp ⟨s, hu⟩)
    · rw [note_of_ne (by simpa using Ne.symm hm)]
      apply (h.order m).congr
      intro u
      rw [hturn]
      split_ifs with hu
      · simp [hu, ht, hwoken, Ne.symm hm]
      · rfl
  · intro m hm
    dsimp only at hm ⊢
    rw [hlocks] at hm ⊢
    exact h.free m hm
  · intro m
    dsimp only
    rw [hlocks]
    exact h.bounded m

/-- A call of the queue gives up. -/
theorem Ordered.timeout (h : Ordered maxQueueSize c) {t : CallId} {r : JsString} {l : LockId}
    (ht : c.table.turn t = .waiting r l)
    (hwf : ((c.table.setLock l { c.table.lock l with
      waiters := (c.table.lock l).waiters.erase t }).setTurn t .done).WellFormed) :
    Ordered maxQueueSize (c.record ((c.table.setLock l { c.table.lock l with
      waiters := (c.table.lock l).waiters.erase t }).setTurn t .done) (.timeout t)) := by
  have hmem : t ∈ (c.table.lock l).waiters := (h.wellFormed.queue l t).mpr ⟨r, ht⟩
  have hlock : (c.table.turn t).lockId = some l := by rw [ht, Turn.lockId]
  have hturn : ∀ u, ((c.table.setLock l { c.table.lock l with
      waiters := (c.table.lock l).waiters.erase t }).setTurn t .done).turn u =
      if u = t then .done else c.table.turn u := by
    intro u
    simp [LockTable.turn_setTurn]
  have hlocks : ∀ m, ((c.table.setLock l { c.table.lock l with
      waiters := (c.table.lock l).waiters.erase t }).setTurn t .done).lock m =
      if m = l then { c.table.lock l with waiters := (c.table.lock l).waiters.erase t }
      else c.table.lock m := by
    intro m
    simp [LockTable.lock_setLock]
  generalize (c.table.setLock l { c.table.lock l with
    waiters := (c.table.lock l).waiters.erase t }).setTurn t .done = new at *
  have hwoken : ∀ m u, (∃ s, new.turn u = .woken s m) ↔ ∃ s, c.table.turn u = .woken s m := by
    intro m u
    rw [hturn]
    split_ifs with hu
    · simp [hu, ht]
    · rfl
  simp only [record, hlock]
  constructor
  · exact hwf
  · intro u m hu
    dsimp only
    rw [hturn]
    split_ifs
    · rintro ⟨⟩
    · exact h.fresh u m hu
  · intro u m hu
    dsimp only
    rw [hturn]
    split_ifs with hut
    · rfl
    · have hnoted : u ∈ note (some l) t c.timedOut m := hu
      rcases mem_note.mp hnoted with hu | ⟨_, hu⟩
      · exact h.gone u m hu
      · exact absurd hu hut
  · exact h.nodup
  · intro m
    dsimp only
    rw [hlocks]
    split_ifs with hm
    · rw [hm, note_self]
      exact (h.order l).timeout (h.nodup l) hmem (hwoken l)
    · rw [note_of_ne (by simpa using Ne.symm hm)]
      exact (h.order m).congr (hwoken m)
  · intro m hm
    dsimp only at hm ⊢
    rw [hlocks] at hm ⊢
    split_ifs at hm ⊢ with hml
    · rw [h.free l hm]
      rfl
    · exact h.free m hm
  · intro m
    dsimp only
    rw [hlocks]
    split_ifs with hml
    · exact List.length_erase_le.trans (h.bounded l)
    · exact h.bounded m

/-- The holder leaves: the lock is free again, or goes to the first of the queue. -/
theorem Ordered.release (h : Ordered maxQueueSize c) {t : CallId} {r : JsString} {l : LockId}
    (ht : c.table.turn t = .leaving r l) (hwf : ((c.table.release l).setTurn t .done).WellFormed) :
    Ordered maxQueueSize
      (c.record ((c.table.release l).setTurn t .done) (.release t)) := by
  have hnone := h.none_woken (t := t) (l := l) (by rw [ht, Turn.holds]) (by simp [ht])
  simp only [record]
  cases hw : (c.table.lock l).waiters with
  | nil =>
    have hrelease : c.table.release l =
        c.table.setLock l { c.table.lock l with running := false } := by
      simp [LockTable.release, hw]
    rw [hrelease] at hwf ⊢
    apply h.of_table hwf
    · grind
    · grind [Ordered.free]
    · grind
    · grind
    · grind
  | cons u us =>
    obtain ⟨s, hu⟩ := (h.wellFormed.queue l u).mp (by simp [hw])
    have hut : u ≠ t := by
      rintro rfl
      rw [ht] at hu
      cases hu
    have hrelease : c.table.release l =
        (c.table.setLock l { c.table.lock l with waiters := us }).setTurn u (.woken s l) := by
      simp [LockTable.release, LockTable.wake, hw, hu]
    rw [hrelease] at hwf ⊢
    have hturn : ∀ v, (((c.table.setLock l { c.table.lock l with waiters := us }).setTurn u
        (.woken s l)).setTurn t .done).turn v =
        if v = t then .done else if v = u then .woken s l else c.table.turn v := by
      intro v
      simp [LockTable.turn_setTurn]
    have hlocks : ∀ m, (((c.table.setLock l { c.table.lock l with waiters := us }).setTurn u
        (.woken s l)).setTurn t .done).lock m =
        if m = l then { c.table.lock l with waiters := us } else c.table.lock m := by
      intro m
      simp [LockTable.lock_setLock]
    generalize ((c.table.setLock l { c.table.lock l with waiters := us }).setTurn u
      (.woken s l)).setTurn t .done = new at *
    constructor
    · exact hwf
    · intro v m hv
      have hfresh := h.fresh v m hv
      dsimp only
      rw [hturn]
      split_ifs
      · rintro ⟨⟩
      · rintro ⟨⟩
      · exact hfresh
    · intro v m hv
      have hdone := h.gone v m hv
      dsimp only
      rw [hturn]
      split_ifs with hvt hvu
      · rfl
      · rw [hvu, hu] at hdone
        cases hdone
      · exact hdone
    · exact h.nodup
    · intro m
      dsimp only
      rw [hlocks]
      split_ifs with hm
      · rw [hm]
        have horder := h.order l
        rw [hw] at horder
        apply horder.handOff hnone
        intro v
        rw [hturn]
        split_ifs with hvt hvu
        · simp [hvt, Ne.symm hut]
        · simp [hvu]
        · simp [hvu, hnone]
      · apply (h.order m).congr
        intro v
        rw [hturn]
        split_ifs with hvt hvu
        · simp [hvt, ht]
        · simp [hvu, hu, Ne.symm hm]
        · rfl
    · intro m hm
      dsimp only at hm ⊢
      rw [hlocks] at hm ⊢
      split_ifs at hm ⊢ with hml
      · have hempty := h.free l hm
        rw [hw] at hempty
        cases hempty
      · exact h.free m hm
    · intro m
      dsimp only
      rw [hlocks]
      split_ifs with hml
      · have hbound := h.bounded l
        rw [hw, List.length_cons] at hbound
        exact Nat.le_of_succ_le hbound
      · exact h.bounded m

theorem Ordered.step (h : Ordered maxQueueSize c) {i : LockLabel} {c' : LockRecord}
    (hstep : c.step maxQueueSize i = some c') : Ordered maxQueueSize c' := by
  obtain ⟨table, htable, rfl⟩ := Option.map_eq_some_iff.mp hstep
  have hwf := h.wellFormed.step htable
  cases LockTable.steps_of_step htable with
  | call r loaded ht => exact h.call ht r loaded
  | resume loaded ht => exact h.resume ht loaded hwf
  | timeout ht => exact h.timeout ht hwf
  | settle ht | cleanup ht =>
    exact h.of_table hwf (fun _ => rfl) h.free (by grind) (by grind) (by grind)
  | release ht => exact h.release ht hwf
  | removeLock r =>
    have hlock : (c.table.removeLock r).2.lock = c.table.lock := by
      unfold LockTable.removeLock
      split_ifs
      · rfl
      · split
        · rfl
        · split_ifs <;> rfl
    have hturn := c.table.turn_removeLock r
    apply h.of_table hwf
    · simp [hlock]
    · rw [hlock]
      exact h.free
    · simp [hturn]
    · simp [hturn]
    · simp [hturn]

/-! ### Schedules -/

theorem run_ordered (maxQueueSize : ℕ) (is : List LockLabel) :
    Ordered maxQueueSize (run (step maxQueueSize) empty is) :=
  run_invariant (fun _ _ _ h hstep => h.step hstep) empty_ordered is

/-- A call that timed out stays recorded so. -/
theorem timedOut_mono (maxQueueSize : ℕ) (c : LockRecord) {t : CallId} {l : LockId}
    (ht : t ∈ c.timedOut l) (is : List LockLabel) :
    t ∈ (run (step maxQueueSize) c is).timedOut l := by
  apply run_invariant (P := fun c : LockRecord => t ∈ c.timedOut l) _ ht is
  intro c i c' h hstep
  obtain ⟨table, _, rfl⟩ := Option.map_eq_some_iff.mp hstep
  cases i with
  | timeout u => exact mem_note.mpr (.inl h)
  | _ => exact h

/-- The call is neither new nor in a queue. -/
def Past (p : Turn) : Prop := p ≠ .idle ∧ ∀ r l, p ≠ .waiting r l

theorem past_step {table table' : LockTable} {i : LockLabel} {u : CallId}
    (hstep : table.step maxQueueSize i = some table') (h : Past (table.turn u)) :
    Past (table'.turn u) := by
  unfold Past at h ⊢
  cases LockTable.steps_of_step hstep with
  | @call t r loaded ht =>
    rcases table.turn_call maxQueueSize t r loaded u with hsame | ⟨rfl, _⟩
    · rw [hsame]
      exact h
    · exact absurd ht h.1
  | removeLock r =>
    rw [LockTable.turn_removeLock]
    exact h
  | @release t r l ht =>
    have hrelease := table.turn_release l u
    grind
  | resume loaded ht =>
    simp only [LockTable.start]
    grind
  | settle ht | timeout ht | cleanup ht => grind

/-- Only a call of the queue times out. -/
theorem past_stays {c c' : LockRecord} {i : LockLabel} {t : CallId} {m : LockId}
    (h : Past (c.table.turn t) ∧ t ∉ c.timedOut m) (hstep : c.step maxQueueSize i = some c') :
    Past (c'.table.turn t) ∧ t ∉ c'.timedOut m := by
  obtain ⟨table, htable, rfl⟩ := Option.map_eq_some_iff.mp hstep
  constructor
  · rw [record_table]
    exact past_step htable h.1
  · cases i with
    | timeout u =>
      intro hmem
      have hnoted : t ∈ note (c.table.turn u).lockId u c.timedOut m := hmem
      rcases mem_note.mp hnoted with hmem | ⟨_, rfl⟩
      · exact h.2 hmem
      · cases LockTable.steps_of_step htable with
        | timeout hturn => exact h.1.2 _ _ hturn
    | _ => exact h.2

/-- A call that was woken does not time out any more. -/
theorem woken_stays (maxQueueSize : ℕ) {c : LockRecord} (hc : Ordered maxQueueSize c) {t : CallId}
    {r : JsString} {l : LockId} (ht : c.table.turn t = .woken r l) (is : List LockLabel)
    (m : LockId) : t ∉ (run (step maxQueueSize) c is).timedOut m := by
  have hpast : Past (c.table.turn t) := by
    rw [ht]
    exact ⟨by rintro ⟨⟩, by rintro _ _ ⟨⟩⟩
  have hin : t ∉ c.timedOut m := by
    intro hmem
    have hdone := hc.gone t m hmem
    rw [ht] at hdone
    cases hdone
  have hrun : Past ((run (step maxQueueSize) c is).table.turn t) ∧
      t ∉ (run (step maxQueueSize) c is).timedOut m :=
    run_invariant (P := fun c : LockRecord => Past (c.table.turn t) ∧ t ∉ c.timedOut m)
      (fun _ _ _ h hstep => past_stays h hstep) ⟨hpast, hin⟩ is
  exact hrun.2

/-- A lock object starts the calls it admits in order, without those that time out; no wake-up
is lost, and no call is both woken and timed out. -/
theorem lock_fifo (maxQueueSize : ℕ) (is js : List LockLabel) (l : LockId) :
    let c := run (step maxQueueSize) empty is
    let c' := run (step maxQueueSize) empty (is ++ js)
    c.table = run (LockTable.step maxQueueSize) .empty is ∧ (c.admitted l).Nodup ∧
    c.started l <+: (c.admitted l).filter (fun t => t ∉ c.timedOut l) ∧
    (∀ t ∈ c.timedOut l, t ∉ c'.started l) ∧
    (∀ t r, c.table.turn t = .woken r l → ∀ m, t ∉ c'.timedOut m) ∧
    (c.table.lock l).waiters.length ≤ maxQueueSize ∧
    ((c.table.lock l).running = false → (c.table.lock l).waiters = [] ∧
      c.started l = (c.admitted l).filter (fun t => t ∉ c.timedOut l)) := by
  have h := run_ordered maxQueueSize is
  have h' := run_ordered maxQueueSize (is ++ js)
  have hin : ∀ {c : LockRecord}, Ordered maxQueueSize c →
      c.started l <+: (c.admitted l).filter (fun t => t ∉ c.timedOut l) := by
    intro c hc
    obtain ⟨woken, _, horder⟩ := hc.order l
    rw [horder, List.append_assoc]
    exact List.prefix_append _ _
  dsimp only
  refine ⟨run_table maxQueueSize empty is, h.nodup l, hin h, ?_, ?_, h.bounded l, ?_⟩
  · intro t ht hstarted
    have hlater : t ∈ (run (step maxQueueSize) empty (is ++ js)).timedOut l := by
      rw [run_append]
      exact timedOut_mono maxQueueSize _ ht js
    have hkept := List.mem_filter.mp ((hin h').subset hstarted)
    exact of_decide_eq_true hkept.2 hlater
  · intro t r ht m
    rw [run_append]
    exact woken_stays maxQueueSize h ht js m
  · intro hfree
    have hempty := h.free l hfree
    have horder := (h.order l).none_woken (h.none_woken_of_free hfree)
    rw [hempty, List.append_nil] at horder
    exact ⟨hempty, horder.symm⟩

end LockRecord
end GhostBazaar.Engine
