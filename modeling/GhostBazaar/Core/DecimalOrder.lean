import GhostBazaar.Core.Amounts

/-! Comparisons of decimals, and the decimal library as the agents use it. -/
namespace GhostBazaar.Core
open Js

namespace Decimal

/-- `x.cmp(y)`, which is not a number when an operand is none. -/
def cmp : Decimal → Decimal → Option Ordering
  | nan, _ | _, nan => none
  | infinite a, infinite b => some (if a = b then .eq else if a then .lt else .gt)
  | infinite a, finite _ => some (if a then .lt else .gt)
  | finite _, infinite b => some (if b then .gt else .lt)
  | finite p, finite q => some (if p < q then .lt else if p = q then .eq else .gt)

def lt (x y : Decimal) : Bool := decide (x.cmp y = some .lt)

def lte (x y : Decimal) : Bool := decide (x.cmp y = some .lt ∨ x.cmp y = some .eq)

/-- A round of the loop in `maxOrMin`: NaN wins, else `y` replaces an `x` that compares as
`worse`. -/
def maxOrMin (worse : Ordering) (x y : Decimal) : Decimal :=
  if y = nan then y else if x.cmp y = some worse then y else x

/-- `Decimal.min(x, y)` -/
def min (x y : Decimal) : Decimal := maxOrMin .gt x y

/-- `Decimal.max(x, y)` -/
def max (x y : Decimal) : Decimal := maxOrMin .lt x y

theorem maxOrMin_eq (worse : Ordering) (x y : Decimal) :
    maxOrMin worse x y = x ∨ maxOrMin worse x y = y := by
  unfold maxOrMin
  split_ifs <;> simp

theorem lte_nan (x : Decimal) : x.lte nan = false := by
  cases x <;> rfl

theorem min_nan_left (y : Decimal) : min nan y = if y = nan then y else nan := by
  unfold min maxOrMin
  cases y <;> simp [cmp]

/-- The smaller of two numbers is at most the second. -/
theorem min_lte {x y : Decimal} (hx : x ≠ nan) (hy : y ≠ nan) : (min x y).lte y = true := by
  unfold min maxOrMin
  rw [if_neg hy]
  split_ifs with hgt
  · cases y <;> simp_all [lte, cmp]
  · cases x with
    | nan => exact absurd rfl hx
    | infinite a => cases y <;> cases a <;> simp_all [lte, cmp]
    | finite p =>
      cases y <;> simp_all [lte, cmp]
      grind

/-- A value that is first capped and then raised to a floor exceeds the cap exactly when the
floor does, or it was no number. -/
theorem clamp_lte_iff {x cap : Decimal} {floor : ℚ} :
    (max (min x cap) (finite floor)).lte cap = true ↔
      x ≠ nan ∧ (finite floor).lte cap = true := by
  by_cases hcap : cap = nan
  · rw [hcap, lte_nan, lte_nan]
    simp
  by_cases hx : x = nan
  · rw [hx, min_nan_left, if_neg hcap]
    simp [max, maxOrMin, cmp, lte]
  have hmin := min_lte hx hcap
  unfold max maxOrMin
  rw [if_neg (by simp)]
  split_ifs with hlt
  · simp [hx]
  · simp only [hmin, true_iff, ne_eq, hx, not_false_eq_true, true_and]
    generalize min x cap = y at hmin hlt
    cases y <;> cases cap <;> simp_all [lte, cmp]
    all_goals grind

end Decimal

/-- The decimal library: its constructor, `none` when it throws, and `toString`. -/
structure DecimalLib where
  newDecimal : JsValue → Option Decimal
  toText : Decimal → JsString
  /-- The text of a decimal denotes it. -/
  new_toText : ∀ v d, newDecimal v = some d → newDecimal (some (.str (toText d))) = some d
  new_minPrice : newDecimal (some (.str (js "0.000001"))) = some (.finite (1 / 1000000))

namespace DecimalLib

variable (lib : DecimalLib)

/-- A decimal that the library makes. -/
structure Value where
  decimal : Decimal
  isMade : ∃ v, lib.newDecimal v = some decimal

/-- The amount that a value denotes is at most `d`. -/
def AtMost (v : JsValue) (d : Decimal) : Prop :=
  ∃ p, lib.newDecimal v = some p ∧ p.lte d = true

instance (v : JsValue) (d : Decimal) : Decidable (lib.AtMost v d) :=
  match h : lib.newDecimal v with
  | none => .isFalse fun ⟨p, hp, _⟩ => by simp [h] at hp
  | some p =>
    if hle : p.lte d = true then .isTrue ⟨p, h, hle⟩
    else .isFalse fun ⟨q, hq, hqle⟩ => by
      rw [h, Option.some.injEq] at hq
      exact hle (hq ▸ hqle)

variable {lib}

def Value.text (x : lib.Value) : JsString := lib.toText x.decimal

def Value.maxOrMin (worse : Ordering) (x y : lib.Value) : lib.Value :=
  ⟨Decimal.maxOrMin worse x.decimal y.decimal, by
    rcases Decimal.maxOrMin_eq worse x.decimal y.decimal with h | h
    · rw [h]
      exact x.isMade
    · rw [h]
      exact y.isMade⟩

theorem Value.new_text (x : lib.Value) : lib.newDecimal (some (.str x.text)) = some x.decimal := by
  obtain ⟨v, hv⟩ := x.isMade
  exact lib.new_toText v x.decimal hv

theorem Value.text_atMost_iff (x : lib.Value) (d : Decimal) :
    lib.AtMost (some (.str x.text)) d ↔ x.decimal.lte d = true := by
  rw [AtMost, x.new_text]
  simp

end DecimalLib
end GhostBazaar.Core
