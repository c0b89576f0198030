import Mathlib.Algebra.Order.Group.Int
import Mathlib.Data.List.Basic
import Mathlib.Data.List.Induction
import Mathlib.Data.Option.Basic

/-! Counters in fixed windows. A window opens with the first event after the last one has run out,
and counts for as long as `length`, both ends included. -/
namespace GhostBazaar.FixedWindow

structure Window where
  count : ℕ
  windowStart : ℤ

def Window.runs (length now : ℤ) (w : Window) : Bool := decide (now - w.windowStart ≤ length)

/-- What a counter says at a time; a window that has run out says nothing. -/
def counted (length now : ℤ) (w : Option Window) : ℕ :=
  (w.filter (Window.runs length now)).elim 0 Window.count

/-- The window after one more event. -/
def bump (length now : ℤ) (w : Option Window) : Window :=
  match w.filter (Window.runs length now) with
  | some w => { w with count := w.count + 1 }
  | none => ⟨1, now⟩

/-- The window after events at these times. -/
def replay (length : ℤ) (w : Option Window) (times : List ℤ) : Option Window :=
  times.foldl (fun w now => some (bump length now w)) w

variable {length now : ℤ} {w : Option Window}

@[simp] theorem counted_none : counted length now none = 0 := rfl

theorem counted_some (w : Window) :
    counted length now (some w) = if now - w.windowStart ≤ length then w.count else 0 := by
  by_cases h : now - w.windowStart ≤ length <;> simp [counted, Option.filter, Window.runs, h]

theorem bump_none : bump length now none = ⟨1, now⟩ := rfl

theorem bump_some (w : Window) : bump length now (some w) =
    if now - w.windowStart ≤ length then ⟨w.count + 1, w.windowStart⟩ else ⟨1, now⟩ := by
  by_cases h : now - w.windowStart ≤ length <;> simp [bump, Option.filter, Window.runs, h]

theorem replay_append_singleton (times : List ℤ) (now : ℤ) : replay length w (times ++ [now]) =
    some (bump length now (replay length w times)) := List.foldl_append

/-- A window that has run out stays so. -/
theorem filter_filter_runs {now later : ℤ} (h : now ≤ later) (w : Option Window) :
    (w.filter (Window.runs length now)).filter (Window.runs length later) =
      w.filter (Window.runs length later) := by
  cases w with
  | none => rfl
  | some w =>
    by_cases hruns : now - w.windowStart ≤ length
    · simp [Option.filter, Window.runs, hruns]
    · have hlater : ¬ later - w.windowStart ≤ length := by omega
      simp [Option.filter, Window.runs, hruns, hlater]

theorem bump_filter_runs {now later : ℤ} (h : now ≤ later) (w : Option Window) :
    bump length later (w.filter (Window.runs length now)) = bump length later w := by
  rw [bump, filter_filter_runs h, bump]

/-! ### What a counter has seen -/

/-- The events of the window are later than its start, which is the first of them. -/
theorem count_le_of_replay {times : List ℤ} (hsorted : times.Pairwise (· ≤ ·)) {w : Window}
    (hw : replay length none times = some w) : w.windowStart ∈ times ∧
      w.count ≤ (times.filter fun t => decide (w.windowStart ≤ t)).length := by
  induction times using List.reverseRecOn generalizing w with
  | nil => simp [replay] at hw
  | append_singleton times now ih =>
    obtain ⟨hinit, -, hlast⟩ := List.pairwise_append.mp hsorted
    rw [replay_append_singleton, Option.some.injEq] at hw
    have hnew : (⟨1, now⟩ : Window).windowStart ∈ times ++ [now] ∧ (⟨1, now⟩ : Window).count ≤
        ((times ++ [now]).filter fun t => decide ((⟨1, now⟩ : Window).windowStart ≤ t)).length := by
      simp
    cases hold : replay length none times with
    | none =>
      rw [hold, bump_none] at hw
      exact hw ▸ hnew
    | some old =>
      obtain ⟨hmem, hcount⟩ := ih hinit hold
      have hstart : old.windowStart ≤ now := hlast _ hmem now (List.mem_singleton_self _)
      rw [hold, bump_some] at hw
      split_ifs at hw
      · subst hw
        refine ⟨List.mem_append_left _ hmem, ?_⟩
        have hone : ([now].filter fun t => decide (old.windowStart ≤ t)).length = 1 := by
          simp [hstart]
        rw [List.filter_append, List.length_append, hone]
        exact Nat.succ_le_succ hcount
      · exact hw ▸ hnew

/-- A counter says no more than what happened in the last `length`. -/
theorem counted_replay_le {times : List ℤ} (hsorted : times.Pairwise (· ≤ ·)) (now : ℤ) :
    counted length now (replay length none times) ≤
      (times.filter fun t => decide (now - length ≤ t)).length := by
  cases hw : replay length none times with
  | none => simp
  | some w =>
    rw [counted_some]
    split_ifs with hruns
    · refine (count_le_of_replay hsorted hw).2.trans (List.Sublist.length_le ?_)
      apply List.monotone_filter_right
      intro t ht
      simp only [decide_eq_true_eq] at ht ⊢
      omega
    · exact Nat.zero_le _

/-! ### A limit on the events -/

/-- Each event comes when the counter says less than the limit. -/
def Paced (length : ℤ) (limit : ℕ) : Option Window → List ℤ → Prop
  | _, [] => True
  | w, now :: times =>
    counted length now w < limit ∧ Paced length limit (some (bump length now w)) times

theorem Paced.append_singleton {limit : ℕ} {times : List ℤ} :
    Paced length limit w (times ++ [now]) ↔
      Paced length limit w times ∧ counted length now (replay length w times) < limit := by
  induction times generalizing w with
  | nil => simp [Paced, replay]
  | cons t times ih => simp [Paced, ih, replay, and_assoc]

/-- How many more events may fall between `first` and `first + length`. -/
def room (length : ℤ) (limit : ℕ) (first : ℤ) : Option Window → ℕ
  | none => 2 * limit - 1
  | some w =>
    if first ≤ w.windowStart then limit - w.count
    else if w.windowStart + length < first then 2 * limit - 1
    else 2 * limit - w.count

theorem room_none (limit : ℕ) (first : ℤ) : room length limit first none = 2 * limit - 1 := rfl

theorem room_some (limit : ℕ) (first : ℤ) (w : Window) : room length limit first (some w) =
    if first ≤ w.windowStart then limit - w.count
    else if w.windowStart + length < first then 2 * limit - 1
    else 2 * limit - w.count := rfl

def within (length first : ℤ) (t : ℤ) : Bool := decide (first ≤ t ∧ t ≤ first + length)

/-- No interval of the length of a window meets more than two windows. -/
theorem Paced.length_filter_le_room {limit : ℕ} {first : ℤ} {times : List ℤ}
    (h : Paced length limit w times) (hsorted : times.Pairwise (· ≤ ·))
    (hcount : ∀ v ∈ w, v.count ≤ limit) :
    (times.filter (within length first)).length ≤ room length limit first w := by
  induction times generalizing w with
  | nil => simp
  | cons now times ih =>
    obtain ⟨hnow, hrest⟩ := h
    obtain ⟨hall, hsorted⟩ := List.pairwise_cons.mp hsorted
    have hlater : first + length < now →
        ((now :: times).filter (within length first)).length = 0 := by
      intro hpast
      rw [List.length_eq_zero_iff, List.filter_eq_nil_iff]
      intro t ht
      have hle : now ≤ t := by
        rcases List.mem_cons.mp ht with rfl | ht
        · exact le_rfl
        · exact hall t ht
      simp only [within, decide_eq_true_eq]
      omega
    by_cases hpast : first + length < now
    · rw [hlater hpast]
      exact Nat.zero_le _
    have hnext := ih hrest hsorted
    have hcons : ((now :: times).filter (within length first)).length =
        (if first ≤ now then 1 else 0) + (times.filter (within length first)).length := by
      by_cases hfirst : first ≤ now
      · rw [List.filter_cons_of_pos (by simpa [within] using ⟨hfirst, by omega⟩), if_pos hfirst,
          List.length_cons, Nat.add_comm]
      · rw [List.filter_cons_of_neg (by simp [within, hfirst]), if_neg hfirst, Nat.zero_add]
    rw [hcons]
    have hopens : counted length now w = 0 → bump length now w = ⟨1, now⟩ →
        (∀ v ∈ w, v.windowStart + length < now) →
        (if first ≤ now then 1 else 0) + (times.filter (within length first)).length ≤
          room length limit first w := by
      intro hzero hbump hover
      rw [hbump] at hnext
      rw [hzero] at hnow
      have hroom := hnext (by simpa using Nat.succ_le_of_lt hnow)
      have hopened : (if first ≤ now then 1 else 0) + room length limit first (some ⟨1, now⟩) ≤
          if first ≤ now then limit else 2 * limit - 1 := by
        rw [room_some]
        by_cases hfirst : first ≤ now
        · simp only [hfirst, if_true]
          omega
        · simp only [hfirst, if_false]
          split_ifs <;> omega
      refine (Nat.add_le_add_left hroom _).trans (hopened.trans ?_)
      cases w with
      | none =>
        rw [room_none]
        split_ifs <;> omega
      | some v =>
        have hv := hcount v rfl
        have hend := hover v rfl
        rw [room_some]
        split_ifs <;> omega
    cases w with
    | none => exact hopens rfl rfl (by simp)
    | some v =>
      rw [counted_some, bump_some] at hopens
      rw [counted_some] at hnow
      rw [bump_some] at hnext
      by_cases hruns : now - v.windowStart ≤ length
      · rw [if_pos hruns] at hnow hnext
        have hroom := hnext (by simpa using Nat.succ_le_of_lt hnow)
        rw [room_some] at hroom ⊢
        dsimp only at hroom
        by_cases hfirst : first ≤ now
        · simp only [hfirst, if_true]
          split_ifs at hroom ⊢ <;> omega
        · simp only [hfirst, if_false]
          split_ifs at hroom ⊢ <;> omega
      · rw [if_neg hruns, if_neg hruns] at hopens
        refine hopens rfl rfl fun u hu => ?_
        obtain rfl := Option.some.inj hu
        omega

/-- However the events are spread, an interval of the length of a window holds fewer than twice
the limit. -/
theorem Paced.length_filter_le {limit : ℕ} {times : List ℤ}
    (h : Paced length limit none times) (hsorted : times.Pairwise (· ≤ ·)) (first : ℤ) :
    (times.filter (within length first)).length ≤ 2 * limit - 1 :=
  h.length_filter_le_room hsorted (by simp)

end GhostBazaar.FixedWindow
