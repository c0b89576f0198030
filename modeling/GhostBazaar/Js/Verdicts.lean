import GhostBazaar.Js.Coerce

/-! Checks that run one after another, against a list of verdicts: each verdict is the refusal of
one check, or `none` where it passes. -/
namespace GhostBazaar.Js

variable {ε α β : Type}

def refuseUnless (p : Prop) [Decidable p] (e : ε) : Option ε := if p then none else some e

def firstRefusal (verdicts : List (Option ε)) : Option ε := verdicts.findSome? id

@[simp] theorem refuseUnless_eq_none {p : Prop} [Decidable p] {e : ε} :
    refuseUnless p e = none ↔ p := by
  simp [refuseUnless]

@[simp] theorem refuseUnless_eq_some {p : Prop} [Decidable p] {e e' : ε} :
    refuseUnless p e = some e' ↔ ¬ p ∧ e = e' := by
  simp [refuseUnless]

theorem refuseUnless_congr {p q : Prop} [Decidable p] [Decidable q] {e : ε} (h : p ↔ q) :
    refuseUnless p e = refuseUnless q e := by
  simp only [refuseUnless, h]

@[simp] theorem firstRefusal_nil : firstRefusal ([] : List (Option ε)) = none := rfl

@[simp] theorem firstRefusal_cons (v : Option ε) (vs : List (Option ε)) :
    firstRefusal (v :: vs) = v.or (firstRefusal vs) := by
  cases v <;> simp [firstRefusal]

theorem firstRefusal_append (vs ws : List (Option ε)) :
    firstRefusal (vs ++ ws) = (firstRefusal vs).or (firstRefusal ws) := by
  induction vs with
  | nil => simp
  | cons v vs ih => simp [ih, Option.or_assoc]

theorem firstRefusal_eq_none {vs : List (Option ε)} :
    firstRefusal vs = none ↔ ∀ v ∈ vs, v = none := by
  simp [firstRefusal]

theorem mem_of_firstRefusal {vs : List (Option ε)} {e : ε} (h : firstRefusal vs = some e) :
    some e ∈ vs := by
  obtain ⟨v, hv, he⟩ := List.exists_of_findSome?_eq_some h
  rw [id] at he
  exact he ▸ hv

/-- Where the code refuses, its refusal is the first of the verdicts; where it returns, they all
pass. Nothing is said where it throws. -/
structure Meets (x : Except (Failure ε) α) (verdicts : List (Option ε)) : Prop where
  refuses : ∀ e, x = .error (.refused e) → firstRefusal verdicts = some e
  returns : ∀ a, x = .ok a → firstRefusal verdicts = none

theorem Meets.bind {x : Except (Failure ε) α} {f : α → Except (Failure ε) β}
    {vs ws : List (Option ε)} (hx : Meets x vs) (hf : ∀ a, x = .ok a → Meets (f a) ws) :
    Meets (x >>= f) (vs ++ ws) := by
  constructor
  · intro e he
    rw [firstRefusal_append]
    rcases bind_eq_error.mp he with herror | ⟨a, ha, hfa⟩
    · rw [hx.refuses e herror, Option.some_or]
    · rw [hx.returns a ha, Option.none_or]
      exact (hf a ha).refuses e hfa
  · intro b hb
    obtain ⟨a, ha, hfa⟩ := bind_eq_ok.mp hb
    rw [firstRefusal_append, hx.returns a ha, Option.none_or]
    exact (hf a ha).returns b hfa

theorem meets_pure (a : α) : Meets (pure a : Except (Failure ε) α) [] := by
  constructor
  · intro e he
    cases he
  · intro b _
    rfl

theorem meets_require (p : Prop) [Decidable p] (e : ε) : Meets (require p e) [refuseUnless p e] := by
  constructor
  · intro e' he
    obtain ⟨hp, rfl⟩ := require_eq_refused.mp he
    simp [refuseUnless, hp]
  · intro u hu
    have hp : p := require_eq_ok.mp hu
    simp [refuseUnless, hp]

theorem meets_orThrow (o : Option α) (e : ε) :
    Meets (orThrow o (.refused e)) [refuseUnless (o.isSome = true) e] := by
  cases o with
  | none =>
    constructor
    · intro e' he
      obtain ⟨-, he⟩ := orThrow_eq_error.mp he
      cases he
      rfl
    · intro a ha
      cases ha
  | some a =>
    constructor
    · intro e' he
      cases he
    · intro b _
      rfl

theorem meets_orThrow_thrown (o : Option α) (e : JsError) :
    Meets (orThrow o (.thrown e) : Except (Failure ε) α) [] := by
  constructor
  · intro e' he
    obtain ⟨-, he⟩ := orThrow_eq_error.mp he
    cases he
  · intro a _
    rfl

theorem meets_liftThrown (x : Except JsError α) : Meets (liftThrown x : Except (Failure ε) α) [] := by
  constructor
  · intro e he
    exact absurd he liftThrown_ne_refused
  · intro a _
    rfl

end GhostBazaar.Js
