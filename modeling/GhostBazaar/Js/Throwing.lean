import Mathlib.Tactic.Common

/-! Code that may throw after it has changed a state: what it changed before the throw stays. -/
namespace GhostBazaar.Js

variable {ε σ α : Type}

/-- The outcome of some code, and the state that it leaves. -/
abbrev Throwing (ε σ α : Type) := σ → Except ε α × σ

namespace Throwing

def andThen (x : Throwing ε σ Unit) (y : Throwing ε σ α) : Throwing ε σ α := fun s =>
  match x s with
  | (.ok (), s') => y s'
  | (.error e, s') => (.error e, s')

/-- `try { x } catch { }` -/
def swallow (x : Throwing ε σ Unit) : Throwing ε σ Unit := fun s => (.ok (), (x s).2)

/-- `for (const a of as) f(a)` -/
def forEach (f : α → Throwing ε σ Unit) : List α → Throwing ε σ Unit
  | [] => fun s => (.ok (), s)
  | a :: as => (f a).andThen (forEach f as)

def throwIf (e : Option ε) : Throwing ε σ Unit := fun s =>
  match e with
  | some e => (.error e, s)
  | none => (.ok (), s)

@[simp] theorem throwIf_state (e : Option ε) (s : σ) : (throwIf e s).2 = s := by
  cases e <;> rfl

/-- A loop over bodies that swallow their exceptions runs all of them. -/
theorem forEach_swallow (f : α → Throwing ε σ Unit) (as : List α) (s : σ) :
    forEach (fun a => swallow (f a)) as s = (.ok (), as.foldl (fun s a => (f a s).2) s) := by
  induction as generalizing s with
  | nil => rfl
  | cons a as ih => exact ih _

end Throwing
end GhostBazaar.Js
