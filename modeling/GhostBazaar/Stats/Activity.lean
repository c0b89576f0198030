import Mathlib.Algebra.Group.Fin.Basic
import Mathlib.Data.Int.Cast.Basic
import Mathlib.Tactic.Ring
import GhostBazaar.Transition

/-! The activity counters of the `StatsCollector`: events per minute in a circular buffer, and the
counters of the hour. -/
namespace GhostBazaar.Stats
open Transition

abbrev MINUTE_BUCKETS : ℕ := 5

def MINUTE_MS : ℤ := 60000

def HOUR_MS : ℤ := 3600000

structure ActivityCounters where
  minuteBuckets : Fin MINUTE_BUCKETS → ℕ
  currentBucketIdx : Fin MINUTE_BUCKETS
  lastBucketRotation : ℤ
  newSessionsLastHour : ℕ
  dealsLastHour : ℕ
  lastHourlyReset : ℤ

namespace ActivityCounters

/-- `now` is the time of the construction. -/
def init (now : ℤ) : ActivityCounters := ⟨fun _ => 0, 0, now, 0, 0, now⟩

/-- One round of the loop of `rotateMinuteBucket`: the next bucket is emptied. -/
def rotateOnce (c : ActivityCounters) : ActivityCounters :=
  { c with
    currentBucketIdx := c.currentBucketIdx + 1
    minuteBuckets := fun idx => if idx = c.currentBucketIdx + 1 then 0 else c.minuteBuckets idx }

def rotations (elapsed : ℤ) : ℕ := min (elapsed / MINUTE_MS).toNat MINUTE_BUCKETS

def rotateMinuteBucket (c : ActivityCounters) (now : ℤ) : ActivityCounters :=
  let elapsed := now - c.lastBucketRotation
  if elapsed ≥ MINUTE_MS then
    { rotateOnce^[rotations elapsed] c with
      lastBucketRotation := c.lastBucketRotation + rotations elapsed * MINUTE_MS }
  else c

def rotateHourly (c : ActivityCounters) (now : ℤ) : ActivityCounters :=
  let elapsed := now - c.lastHourlyReset
  if elapsed ≥ HOUR_MS then
    { c with
      newSessionsLastHour := 0
      dealsLastHour := 0
      lastHourlyReset := c.lastHourlyReset + elapsed / HOUR_MS * HOUR_MS }
  else c

/-- The part of `onEvent` that counts: an event that may start a session or make a deal. -/
def onEvent (c : ActivityCounters) (now : ℤ) (newSession deal : Bool) : ActivityCounters :=
  let c := (c.rotateMinuteBucket now).rotateHourly now
  { c with
    minuteBuckets := fun idx =>
      if idx = c.currentBucketIdx then c.minuteBuckets idx + 1 else c.minuteBuckets idx
    newSessionsLastHour := c.newSessionsLastHour + if newSession then 1 else 0
    dealsLastHour := c.dealsLastHour + if deal then 1 else 0 }

structure DashboardActivity where
  events_per_minute : Fin MINUTE_BUCKETS → ℕ
  new_sessions_last_hour : ℕ
  deals_last_hour : ℕ
  bucket_anchor_ms : ℤ

/-- The buckets from the newest to the oldest; reading rotates them too. -/
def getActivity (c : ActivityCounters) (now : ℤ) : ActivityCounters × DashboardActivity :=
  let c := (c.rotateMinuteBucket now).rotateHourly now
  (c, ⟨fun i => c.minuteBuckets (c.currentBucketIdx - i), c.newSessionsLastHour, c.dealsLastHour,
    c.lastBucketRotation⟩)

end ActivityCounters

/-! ### Runs -/

inductive ActivityCall where
  | onEvent (now : ℤ) (newSession deal : Bool)
  | getActivity (now : ℤ)

def ActivityCall.now : ActivityCall → ℤ
  | onEvent now _ _ | getActivity now => now

/-- The counters, the time of the last call, and the times of the events so far. -/
structure ActivityRun where
  counters : ActivityCounters
  clock : ℤ
  counted : List ℤ

namespace ActivityRun

def init (start : ℤ) : ActivityRun := ⟨.init start, start, []⟩

/-- Time does not go back. -/
def step (s : ActivityRun) (call : ActivityCall) : Option ActivityRun :=
  if call.now < s.clock then none
  else match call with
    | .onEvent now newSession deal =>
      some ⟨s.counters.onEvent now newSession deal, now, s.counted ++ [now]⟩
    | .getActivity now => some ⟨(s.counters.getActivity now).1, now, s.counted⟩

/-- The start of the minute that began `i` minutes before the anchor. -/
def minuteStart (anchor : ℤ) (i : ℕ) : ℤ := anchor - MINUTE_MS * i

/-- How many events fell into that minute. -/
def countIn (counted : List ℤ) (anchor : ℤ) (i : ℕ) : ℕ :=
  counted.countP fun t => decide (minuteStart anchor i ≤ t ∧ t < minuteStart anchor i + MINUTE_MS)

/-- The answer is about the minute of the call and the four before it. -/
def Accurate (counted : List ℤ) (now : ℤ) (a : ActivityCounters.DashboardActivity) : Prop :=
  now - a.bucket_anchor_ms < MINUTE_MS ∧
    ∀ i : Fin MINUTE_BUCKETS, a.events_per_minute i = countIn counted a.bucket_anchor_ms i

/-- A call before the sixth minute after the anchor is over. -/
def InTime (s : ActivityRun) (call : ActivityCall) : Prop :=
  call.now < s.counters.lastBucketRotation + 6 * MINUTE_MS

instance (s : ActivityRun) (call : ActivityCall) : Decidable (InTime s call) :=
  inferInstanceAs (Decidable (_ < _))

/-! ### The buffer -/

/-- The buckets, from the current one back, count the events of the minutes of the anchor. -/
structure Counts (counted : List ℤ) (c : ActivityCounters) : Prop where
  bucket : ∀ i : Fin MINUTE_BUCKETS,
    c.minuteBuckets (c.currentBucketIdx - i) = countIn counted c.lastBucketRotation i
  past : ∀ t ∈ counted, t < c.lastBucketRotation + MINUTE_MS

theorem countIn_shift (counted : List ℤ) (anchor : ℤ) (i : ℕ) :
    countIn counted (anchor + MINUTE_MS) (i + 1) = countIn counted anchor i := by
  have hstart : minuteStart (anchor + MINUTE_MS) (i + 1) = minuteStart anchor i := by
    unfold minuteStart
    push_cast
    ring
  rw [countIn, hstart, countIn]

/-- Nothing has happened yet in the minute after the last one. -/
theorem countIn_next {counted : List ℤ} {anchor : ℤ} (h : ∀ t ∈ counted, t < anchor + MINUTE_MS) :
    countIn counted (anchor + MINUTE_MS) 0 = 0 := by
  rw [countIn, List.countP_eq_zero]
  intro t ht
  have hpast := h t ht
  rw [decide_eq_true_eq, minuteStart]
  simp only [MINUTE_MS] at hpast ⊢
  omega

/-- The buckets of the ring, counted back from the next one. -/
theorem index_next : ∀ idx i : Fin MINUTE_BUCKETS, i ≠ 0 → idx + 1 - i ≠ idx + 1 ∧
    idx + 1 - i = idx - (i - 1) ∧ (i : ℕ) = ((i - 1 : Fin MINUTE_BUCKETS) : ℕ) + 1 := by
  decide

theorem index_back : ∀ idx i : Fin MINUTE_BUCKETS, idx - i = idx ↔ i = 0 := by
  decide

theorem Counts.rotateOnce {counted : List ℤ} {c : ActivityCounters} (h : Counts counted c) :
    Counts counted { c.rotateOnce with
      lastBucketRotation := c.lastBucketRotation + MINUTE_MS } := by
  constructor
  · intro i
    simp only [ActivityCounters.rotateOnce]
    by_cases hi : i = 0
    · have hcurrent : c.currentBucketIdx + 1 - i = c.currentBucketIdx + 1 :=
        (index_back _ i).mpr hi
      rw [if_pos hcurrent, hi, Fin.val_zero, countIn_next h.past]
    · -- the bucket `i` minutes back was `i - 1` minutes back before
      obtain ⟨hne, hback, hval⟩ := index_next c.currentBucketIdx i hi
      rw [if_neg hne, hback, h.bucket, hval, countIn_shift]
  · intro t ht
    have hpast := h.past t ht
    simp only [MINUTE_MS] at hpast ⊢
    omega

theorem Counts.rotate {counted : List ℤ} {c : ActivityCounters} (h : Counts counted c) (n : ℕ) :
    Counts counted { ActivityCounters.rotateOnce^[n] c with
      lastBucketRotation := c.lastBucketRotation + n * MINUTE_MS } := by
  induction n with
  | zero =>
    rw [Nat.cast_zero, zero_mul, add_zero]
    exact h
  | succ n ih =>
    have hstep := ih.rotateOnce
    have hanchor : c.lastBucketRotation + ((n + 1 : ℕ) : ℤ) * MINUTE_MS =
        c.lastBucketRotation + n * MINUTE_MS + MINUTE_MS := by
      push_cast
      ring
    rw [hanchor, Function.iterate_succ_apply']
    exact hstep

/-- In time, the rotations reach the minute of the call. -/
theorem Counts.rotateMinuteBucket {counted : List ℤ} {c : ActivityCounters} (h : Counts counted c)
    {now : ℤ} (hstart : c.lastBucketRotation ≤ now)
    (htime : now < c.lastBucketRotation + 6 * MINUTE_MS) :
    Counts counted (c.rotateMinuteBucket now) ∧
      (c.rotateMinuteBucket now).lastBucketRotation ≤ now ∧
      now < (c.rotateMinuteBucket now).lastBucketRotation + MINUTE_MS := by
  unfold ActivityCounters.rotateMinuteBucket
  simp only
  split_ifs with helapsed
  · have hrotations : (ActivityCounters.rotations (now - c.lastBucketRotation) : ℤ) =
        (now - c.lastBucketRotation) / MINUTE_MS := by
      simp only [ActivityCounters.rotations, MINUTE_MS, MINUTE_BUCKETS] at htime ⊢
      omega
    refine ⟨h.rotate _, ?_, ?_⟩
    · simp only [hrotations, MINUTE_MS]
      omega
    · simp only [hrotations, MINUTE_MS]
      omega
  · simp only [MINUTE_MS] at helapsed ⊢
    exact ⟨h, hstart, by omega⟩

theorem rotateHourly_frame (c : ActivityCounters) (now : ℤ) :
    (c.rotateHourly now).minuteBuckets = c.minuteBuckets ∧
      (c.rotateHourly now).currentBucketIdx = c.currentBucketIdx ∧
      (c.rotateHourly now).lastBucketRotation = c.lastBucketRotation := by
  unfold ActivityCounters.rotateHourly
  simp only
  split_ifs
  · exact ⟨rfl, rfl, rfl⟩
  · exact ⟨rfl, rfl, rfl⟩

theorem Counts.rotateHourly {counted : List ℤ} {c : ActivityCounters} (h : Counts counted c)
    (now : ℤ) : Counts counted (c.rotateHourly now) := by
  obtain ⟨hbuckets, hidx, hanchor⟩ := rotateHourly_frame c now
  constructor
  · rw [hbuckets, hidx, hanchor]
    exact h.bucket
  · rw [hanchor]
    exact h.past

/-- An event of this minute goes into the current bucket. -/
theorem Counts.count {counted : List ℤ} {c : ActivityCounters} (h : Counts counted c) {now : ℤ}
    (hstart : c.lastBucketRotation ≤ now) (hend : now < c.lastBucketRotation + MINUTE_MS)
    (newSessions deals : ℕ) :
    Counts (counted ++ [now]) { c with
      minuteBuckets := fun idx =>
        if idx = c.currentBucketIdx then c.minuteBuckets idx + 1 else c.minuteBuckets idx
      newSessionsLastHour := newSessions
      dealsLastHour := deals } := by
  constructor
  · intro i
    have hsplit : countIn (counted ++ [now]) c.lastBucketRotation i =
        countIn counted c.lastBucketRotation i + if i = 0 then 1 else 0 := by
      rw [countIn, List.countP_append, ← countIn, List.countP_singleton]
      congr 1
      have hminute : minuteStart c.lastBucketRotation i ≤ now ∧
          now < minuteStart c.lastBucketRotation i + MINUTE_MS ↔ i = 0 := by
        rw [Fin.ext_iff, Fin.val_zero, minuteStart]
        simp only [MINUTE_MS] at hend ⊢
        omega
      simp only [hminute, decide_eq_true_eq]
    simp only
    rw [hsplit, h.bucket]
    by_cases hi : i = 0
    · simp [hi]
    · have hne : c.currentBucketIdx - i ≠ c.currentBucketIdx := fun heq =>
        hi ((index_back _ i).mp heq)
      rw [if_neg hne, if_neg hi, add_zero]
  · intro t ht
    rcases List.mem_append.mp ht with ht | ht
    · exact h.past t ht
    · rw [List.mem_singleton.mp ht]
      exact hend

/-! ### Every run -/

structure Aligned (s : ActivityRun) : Prop where
  counts : Counts s.counted s.counters
  anchor : s.counters.lastBucketRotation ≤ s.clock

theorem Aligned.rotated {s : ActivityRun} (h : Aligned s) {call : ActivityCall}
    (hclock : ¬ call.now < s.clock) (htime : InTime s call) :
    Counts s.counted ((s.counters.rotateMinuteBucket call.now).rotateHourly call.now) ∧
      ((s.counters.rotateMinuteBucket call.now).rotateHourly call.now).lastBucketRotation ≤
        call.now ∧
      call.now < ((s.counters.rotateMinuteBucket call.now).rotateHourly
        call.now).lastBucketRotation + MINUTE_MS := by
  have hstart : s.counters.lastBucketRotation ≤ call.now := h.anchor.trans (not_lt.mp hclock)
  obtain ⟨hcounts, hle, hlt⟩ := h.counts.rotateMinuteBucket hstart htime
  obtain ⟨-, -, hanchor⟩ := rotateHourly_frame (s.counters.rotateMinuteBucket call.now) call.now
  rw [hanchor]
  exact ⟨hcounts.rotateHourly call.now, hle, hlt⟩

theorem Aligned.step {s s' : ActivityRun} (h : Aligned s) {call : ActivityCall}
    (htime : InTime s call) (hstep : s.step call = some s') : Aligned s' := by
  unfold ActivityRun.step at hstep
  split_ifs at hstep with hclock
  obtain ⟨hcounts, hle, hlt⟩ := h.rotated hclock htime
  cases call with
  | onEvent now newSession deal =>
    rw [Option.some.injEq] at hstep
    subst hstep
    exact ⟨hcounts.count hle hlt _ _, hle⟩
  | getActivity now =>
    rw [Option.some.injEq] at hstep
    subst hstep
    exact ⟨hcounts, hle⟩

theorem init_aligned (start : ℤ) : Aligned (init start) where
  counts := ⟨fun _ => rfl, by simp [init]⟩
  anchor := le_rfl

/-- As long as every call comes before the sixth minute after the anchor is over, each answer of
`getActivity` is accurate. -/
theorem getActivity_accurate (start : ℤ) (calls : List ActivityCall) (now : ℤ)
    (hok : Guarded step InTime (init start) (calls ++ [.getActivity now]))
    (hclock : (run step (init start) calls).clock ≤ now) :
    Accurate (run step (init start) calls).counted now
      ((run step (init start) calls).counters.getActivity now).2 := by
  obtain ⟨hbefore, hlast⟩ := Guarded.append.mp hok
  have haligned : Aligned (run step (init start) calls) :=
    hbefore.invariant (fun _ _ _ h htime hstep => h.step htime hstep) (init_aligned start)
  obtain ⟨hcounts, -, hlt⟩ := @Aligned.rotated _ haligned (.getActivity now) (not_lt.mpr hclock)
    hlast.1
  refine ⟨?_, hcounts.bucket⟩
  change now < _ + MINUTE_MS at hlt
  exact Int.sub_left_lt_of_lt_add hlt

/-- Ten idle minutes leave the anchor five minutes behind. -/
theorem getActivity_stale :
    ¬ Accurate (run step (init 0) [.onEvent 0 true false]).counted 600000
      ((run step (init 0) [.onEvent 0 true false]).counters.getActivity 600000).2 := by
  rintro ⟨hanchor, -⟩
  revert hanchor
  decide

theorem getActivity_accurate_sample :
    Accurate [0, 70000] 130000
      ((run step (init 0) [.onEvent 0 true false, .onEvent 70000 false true]).counters.getActivity
        130000).2 := by
  refine getActivity_accurate 0 [.onEvent 0 true false, .onEvent 70000 false true] 130000
    ⟨?_, ?_, ?_, trivial⟩ ?_ <;> decide

end ActivityRun
end GhostBazaar.Stats
