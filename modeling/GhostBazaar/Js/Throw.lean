import Mathlib.Tactic.Common

/-! Code that may throw, as `Except`. A successful run is inverted statement by
statement with `bind_eq_ok`, `ensure_eq_ok` and `orThrow_eq_ok`. -/
namespace GhostBazaar.Js

variable {ε α β : Type}

/-- `if (!p) throw e`. -/
def ensure (p : Prop) [Decidable p] (e : ε) : Except ε Unit := if p then .ok () else .error e

/-- The value of an optional expression, or `throw e`. -/
def orThrow (o : Option α) (e : ε) : Except ε α :=
  match o with
  | some a => .ok a
  | none => .error e

def succeeds (x : Except ε α) : Bool :=
  match x with
  | .ok _ => true
  | .error _ => false

theorem succeeds_iff {x : Except ε α} : succeeds x = true ↔ ∃ a, x = .ok a := by
  cases x <;> simp [succeeds]

theorem bind_eq_ok {x : Except ε α} {f : α → Except ε β} {b : β} :
    x >>= f = .ok b ↔ ∃ a, x = .ok a ∧ f a = .ok b := by
  cases x with
  | error e => simp [Bind.bind, Except.bind]
  | ok a => simp [Bind.bind, Except.bind]

theorem bind_eq_error {x : Except ε α} {f : α → Except ε β} {e : ε} :
    x >>= f = .error e ↔ x = .error e ∨ ∃ a, x = .ok a ∧ f a = .error e := by
  cases x with
  | error e' => simp [Bind.bind, Except.bind]
  | ok a => simp [Bind.bind, Except.bind]

theorem ok_bind (a : α) (f : α → Except ε β) : (Except.ok a >>= f) = f a := rfl

theorem error_bind (e : ε) (f : α → Except ε β) : (Except.error e >>= f) = .error e := rfl

theorem map_eq_ok {x : Except ε α} {f : α → β} {b : β} :
    x.map f = .ok b ↔ ∃ a, x = .ok a ∧ f a = b := by
  cases x <;> simp [Except.map]

@[simp] theorem pure_eq_ok {a b : α} : (pure a : Except ε α) = .ok b ↔ a = b := by
  simp [Pure.pure, Except.pure]

@[simp] theorem throw_ne_ok {e : ε} {a : α} : (throw e : Except ε α) ≠ .ok a := nofun

@[simp] theorem ensure_eq_ok {p : Prop} [Decidable p] {e : ε} {u : Unit} :
    ensure p e = .ok u ↔ p := by
  unfold ensure
  split_ifs with h <;> simp [h]

@[simp] theorem orThrow_eq_ok {o : Option α} {e : ε} {a : α} :
    orThrow o e = .ok a ↔ o = some a := by
  cases o <;> simp [orThrow]

@[simp] theorem ensure_eq_error {p : Prop} [Decidable p] {e e' : ε} :
    ensure p e = .error e' ↔ ¬ p ∧ e = e' := by
  unfold ensure
  split_ifs with h <;> simp [h]

@[simp] theorem orThrow_eq_error {o : Option α} {e e' : ε} :
    orThrow o e = .error e' ↔ o = none ∧ e = e' := by
  cases o <;> simp [orThrow]

/-- What every step of a loop preserves holds of its result. -/
theorem foldlM_ok_induction {f : β → α → Except ε β} {P : β → Prop}
    (hstep : ∀ b a b', P b → f b a = .ok b' → P b') {as : List α} {b b' : β} (hb : P b)
    (h : as.foldlM f b = .ok b') : P b' := by
  induction as generalizing b with
  | nil =>
    rw [List.foldlM_nil, pure_eq_ok] at h
    exact h ▸ hb
  | cons a as ih =>
    rw [List.foldlM_cons, bind_eq_ok] at h
    obtain ⟨c, hc, h⟩ := h
    exact ih (hstep b a c hb hc) h

end GhostBazaar.Js
