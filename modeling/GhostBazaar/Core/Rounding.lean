import Mathlib.Data.Rat.Floor
import Mathlib.Tactic.Linarith
import Mathlib.Tactic.Positivity
import GhostBazaar.Core.DecimalOrder

/-! Rounding to a number of decimals, half away from zero. -/
namespace GhostBazaar.Core

def roundHalfUp (y : ℚ) : ℤ := if 0 ≤ y then ⌊y + 1 / 2⌋ else -⌊-y + 1 / 2⌋

theorem le_roundHalfUp_iff (n : ℤ) (y : ℚ) :
    n ≤ roundHalfUp y ↔ if 0 ≤ y then (n : ℚ) - 1 / 2 ≤ y else (n : ℚ) - 1 / 2 < y := by
  unfold roundHalfUp
  split_ifs with hy
  · rw [Int.le_floor]
    constructor <;> intro h <;> linarith
  · rw [le_neg, ← Int.lt_add_one_iff, Int.floor_lt]
    push_cast
    constructor <;> intro h <;> linarith

/-- The value of `x.toFixed(decimals)`. -/
def roundTo (decimals : ℕ) (x : ℚ) : ℚ := roundHalfUp (x * 10 ^ decimals) / 10 ^ decimals

/-- `x` is at most half a unit of the last decimal below `floor`, rounded up to that decimal. -/
def Reaches (decimals : ℕ) (floor x : ℚ) : Prop :=
  if 0 ≤ x then (⌈floor * 10 ^ decimals⌉ : ℚ) - 1 / 2 ≤ x * 10 ^ decimals
  else (⌈floor * 10 ^ decimals⌉ : ℚ) - 1 / 2 < x * 10 ^ decimals

instance (decimals : ℕ) (floor x : ℚ) : Decidable (Reaches decimals floor x) := by
  unfold Reaches
  infer_instance

theorem le_roundTo_iff (decimals : ℕ) (floor x : ℚ) :
    floor ≤ roundTo decimals x ↔ Reaches decimals floor x := by
  have hscale : (0 : ℚ) < 10 ^ decimals := by positivity
  have hsign : 0 ≤ x * 10 ^ decimals ↔ 0 ≤ x := mul_nonneg_iff_of_pos_right hscale
  rw [roundTo, le_div_iff₀ hscale, ← Int.ceil_le, le_roundHalfUp_iff, Reaches]
  simp only [hsign]

/-- A number of decimals that is exact for `x` loses nothing. -/
theorem roundTo_of_isInt {decimals : ℕ} {x : ℚ} {n : ℤ} (h : x * 10 ^ decimals = n) :
    roundTo decimals x = x := by
  have hscale : (10 : ℚ) ^ decimals ≠ 0 := by positivity
  have hround : roundHalfUp (n : ℚ) = n := by
    unfold roundHalfUp
    split_ifs
    · rw [Int.floor_eq_iff]
      constructor <;> linarith
    · rw [neg_eq_iff_eq_neg, Int.floor_eq_iff]
      push_cast
      constructor <;> linarith
  rw [roundTo, h, hround, ← h]
  field_simp

namespace Decimal

/-- The value of `x.toFixed(decimals)`. -/
def toFixed (decimals : ℕ) : Decimal → Decimal
  | finite x => finite (roundTo decimals x)
  | x => x

/-- The same for values that may be no numbers. -/
def KeepsFloor (decimals : ℕ) : Decimal → Decimal → Prop
  | nan, _ | _, nan => False
  | finite floor, finite x => Reaches decimals floor x
  | floor, x => floor.lte x = true

theorem lte_toFixed_iff (decimals : ℕ) (floor x : Decimal) :
    floor.lte (x.toFixed decimals) = true ↔ KeepsFloor decimals floor x := by
  cases floor with
  | nan => cases x <;> simp [lte, cmp, KeepsFloor]
  | infinite a => cases x <;> simp [lte, cmp, toFixed, KeepsFloor]
  | finite f =>
    cases x with
    | nan => simp [lte, cmp, toFixed, KeepsFloor]
    | infinite a => simp [lte, cmp, toFixed, KeepsFloor]
    | finite x =>
      rw [KeepsFloor, ← le_roundTo_iff, toFixed]
      simp only [lte, cmp, Option.some.injEq, decide_eq_true_eq]
      grind

/-- The larger of a value and a floor is at least the floor, unless one is no number. -/
theorem lte_max_iff (x floor : Decimal) :
    floor.lte (max x floor) = true ↔ x ≠ nan ∧ floor ≠ nan := by
  unfold max maxOrMin
  cases x <;> cases floor <;> simp [lte, cmp] <;> grind

end Decimal
end GhostBazaar.Core
