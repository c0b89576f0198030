import Mathlib.Data.List.Basic
import Mathlib.Data.List.Induction
import Mathlib.Data.Option.Basic
import Mathlib.Logic.Function.Basic
import Mathlib.Order.Lattice

/-! Keys that are kept until they expire. A key is recorded with an expiry, again with another one
perhaps, and a scan at some time deletes the keys that have expired. -/
namespace GhostBazaar.Retention

inductive Entry (κ τ : Type) where
  | record (key : κ) (expiry : τ)
  | scan (now : τ)

/-- The key was last recorded with the expiry, which stands after every later scan. -/
def Outlasts {κ τ : Type} [LT τ] (history : List (Entry κ τ)) (key : κ) (expiry : τ) : Prop :=
  ∃ before after, history = before ++ .record key expiry :: after ∧
    (∀ other, .record key other ∉ after) ∧ ∀ now, .scan now ∈ after → now < expiry

section Outlasts

variable {κ τ : Type} [LT τ] {history : List (Entry κ τ)} {key : κ} {expiry : τ}

theorem not_outlasts_nil : ¬ Outlasts [] key expiry := by
  rintro ⟨before, after, h, -⟩
  have hlength := congrArg List.length h
  simp at hlength

theorem outlasts_append_singleton {entry : Entry κ τ} :
    Outlasts (history ++ [entry]) key expiry ↔
      entry = .record key expiry ∨ Outlasts history key expiry ∧
        (∀ other, entry ≠ .record key other) ∧ ∀ now, entry = .scan now → now < expiry := by
  constructor
  · rintro ⟨before, after, h, hlast, hscans⟩
    rcases after.eq_nil_or_concat' with rfl | ⟨init, last, rfl⟩
    · exact .inl (List.singleton_inj.mp (List.append_inj_right' h rfl))
    · rw [← List.cons_append, ← List.append_assoc] at h
      obtain ⟨rfl, hentry⟩ := List.append_inj' h rfl
      obtain rfl := List.singleton_inj.mp hentry
      refine .inr ⟨⟨before, init, rfl, ?_, ?_⟩, ?_, ?_⟩
      · exact fun other hmem => hlast other (List.mem_append_left _ hmem)
      · exact fun now hmem => hscans now (List.mem_append_left _ hmem)
      · rintro other rfl
        exact hlast other List.mem_concat_self
      · rintro now rfl
        exact hscans now List.mem_concat_self
  · rintro (rfl | ⟨⟨before, after, rfl, hlast, hscans⟩, hother, hnow⟩)
    · exact ⟨history, [], rfl, fun _ => List.not_mem_nil, fun _ h => absurd h List.not_mem_nil⟩
    · refine ⟨before, after ++ [entry], List.append_assoc _ _ _, ?_, ?_⟩
      · intro other hmem
        rcases List.mem_append.mp hmem with hafter | hentry
        · exact hlast other hafter
        · exact hother other (List.mem_singleton.mp hentry).symm
      · intro now hmem
        rcases List.mem_append.mp hmem with hafter | hentry
        · exact hscans now hafter
        · exact hnow now (List.mem_singleton.mp hentry).symm

end Outlasts

variable {κ τ : Type} [DecidableEq κ] [LinearOrder τ]

/-- `kept` gives the latest expiry of each key that is kept. -/
def enter (kept : κ → Option τ) : Entry κ τ → κ → Option τ
  | .record key expiry => Function.update kept key (some expiry)
  | .scan now => fun key => (kept key).filter fun expiry => decide (now < expiry)

/-- What is kept at the end of a history. -/
def replay (history : List (Entry κ τ)) : κ → Option τ := history.foldl enter fun _ => none

theorem replay_append_singleton (history : List (Entry κ τ)) (entry : Entry κ τ) :
    replay (history ++ [entry]) = enter (replay history) entry := List.foldl_append

/-- Scans delete the keys whose latest expiry has passed, and no others. -/
theorem replay_eq_some_iff (history : List (Entry κ τ)) (key : κ) (expiry : τ) :
    replay history key = some expiry ↔ Outlasts history key expiry := by
  induction history using List.reverseRecOn with
  | nil => exact iff_of_false (Option.some_ne_none expiry).symm not_outlasts_nil
  | append_singleton history entry ih =>
    rw [replay_append_singleton, outlasts_append_singleton, ← ih]
    cases entry with
    | record recorded latest =>
      by_cases hkey : key = recorded
      · subst hkey
        simp [enter]
      · simp [enter, Function.update_of_ne hkey, Ne.symm hkey]
    | scan now => simp [enter, Option.filter_eq_some_iff]

/-! ### A lower bound of what is kept -/

/-- `none` stands above everything. -/
def Bounds {κ τ : Type} [LE τ] (bound : Option τ) (kept : κ → Option τ) : Prop :=
  ∀ key, ∀ expiry ∈ kept key, ∃ least ∈ bound, least ≤ expiry

variable {bound : Option τ} {kept : κ → Option τ}

/-- Nothing expires before the bound, however old the bound is. -/
theorem Bounds.scan_eq (h : Bounds bound kept) {now : τ} (hnow : ∀ least ∈ bound, now < least) :
    enter kept (.scan now) = kept := by
  funext key
  cases hkey : kept key with
  | none => simp [enter, hkey]
  | some expiry =>
    obtain ⟨least, hleast, hle⟩ := h key expiry hkey
    simp [enter, hkey, Option.filter, (hnow least hleast).trans_le hle]

theorem Bounds.record (h : Bounds bound kept) (key : κ) (expiry : τ) :
    Bounds (some (bound.elim expiry (min expiry))) (enter kept (.record key expiry)) := by
  intro other latest hlatest
  refine ⟨_, rfl, ?_⟩
  by_cases hkey : other = key
  · subst hkey
    obtain rfl := Option.some.inj ((Function.update_self other _ kept).symm.trans hlatest)
    cases bound with
    | none => exact le_rfl
    | some least => exact min_le_left _ _
  · rw [enter, Function.update_of_ne hkey] at hlatest
    obtain ⟨least, rfl, hle⟩ := h other latest hlatest
    exact (min_le_right _ _).trans hle

end GhostBazaar.Retention
