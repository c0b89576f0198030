import Mathlib.Algebra.BigOperators.Fin
import Mathlib.Algebra.Field.Basic
import Mathlib.Tactic.LinearCombination

/-! The comparators of circuits over any field: their signals, their constraints and what these
say. Signals that are computed without a constraint are free. -/
namespace GhostBazaar.Zk

variable {F : Type} [Field F] {n : ℕ}

/-! ### Templates -/

structure Num2Bits (F : Type) (n : ℕ) where
  «in» : F
  out : Fin n → F

structure Num2Bits.Holds (c : Num2Bits F n) : Prop where
  binary : ∀ i, c.out i * (c.out i - 1) = 0
  lc1 : ∑ i, c.out i * 2 ^ (i : ℕ) = c.in

structure LessThan (F : Type) (n : ℕ) where
  «in» : Fin 2 → F
  out : F
  n2b : Num2Bits F (n + 1)

structure LessThan.Holds (c : LessThan F n) : Prop where
  n2b : c.n2b.Holds
  input : c.n2b.in = c.in 0 + 2 ^ n - c.in 1
  output : c.out = 1 - c.n2b.out (Fin.last n)

structure LessEqThan (F : Type) (n : ℕ) where
  «in» : Fin 2 → F
  out : F
  lt : LessThan F n

structure LessEqThan.Holds (c : LessEqThan F n) : Prop where
  lt : c.lt.Holds
  left : c.lt.in 0 = c.in 0
  right : c.lt.in 1 = c.in 1 + 1
  output : c.out = c.lt.out

/-! ### Bits -/

/-- What bits add up to is the image of a number of as many bits. -/
theorem exists_nat_of_binary (out : Fin n → F) (h : ∀ i, out i * (out i - 1) = 0) :
    ∃ k : ℕ, k < 2 ^ n ∧ ∑ i, out i * 2 ^ (i : ℕ) = k := by
  induction n with
  | zero => exact ⟨0, by simp, by simp⟩
  | succ n ih =>
    obtain ⟨k, hk, hsum⟩ := ih (fun i => out i.castSucc) fun i => h i.castSucc
    rw [Fin.sum_univ_castSucc]
    simp only [Fin.val_castSucc, Fin.val_last, hsum]
    rcases mul_eq_zero.mp (h (Fin.last n)) with hbit | hbit
    · refine ⟨k, ?_, ?_⟩
      · rw [pow_succ]
        omega
      · rw [hbit, zero_mul, add_zero]
    · refine ⟨k + 2 ^ n, ?_, ?_⟩
      · rw [pow_succ]
        omega
      · rw [sub_eq_zero.mp hbit, one_mul]
        push_cast
        rfl

/-- The bits of a number, as the prover computes them. -/
def bitsOf (F : Type) [Field F] (n k : ℕ) : Fin n → F := fun i => ((k / 2 ^ (i : ℕ) % 2 : ℕ) : F)

theorem bitsOf_binary (k : ℕ) (i : Fin n) : bitsOf F n k i * (bitsOf F n k i - 1) = 0 := by
  unfold bitsOf
  rcases Nat.mod_two_eq_zero_or_one (k / 2 ^ (i : ℕ)) with hbit | hbit
  · rw [hbit, Nat.cast_zero, zero_mul]
  · rw [hbit, Nat.cast_one, sub_self, mul_zero]

theorem sum_bitsOf (n k : ℕ) : ∑ i, bitsOf F n k i * 2 ^ (i : ℕ) = ((k % 2 ^ n : ℕ) : F) := by
  induction n with
  | zero => simp [Nat.mod_one]
  | succ n ih =>
    rw [Fin.sum_univ_castSucc, Nat.mod_pow_succ]
    have hlow : ∑ i : Fin n, bitsOf F (n + 1) k i.castSucc * 2 ^ (i.castSucc : ℕ) =
        ((k % 2 ^ n : ℕ) : F) := ih
    rw [hlow]
    unfold bitsOf
    rw [Fin.val_last]
    push_cast
    rw [mul_comm (2 ^ n : F)]

theorem cast_complement {d : ℕ} (hd : d < 2 ^ n) : ((2 ^ n - 1 - d : ℕ) : F) + 1 + d = 2 ^ n := by
  have hnat : 2 ^ n - 1 - d + 1 + d = 2 ^ n := by omega
  generalize 2 ^ n - 1 - d = k at hnat ⊢
  have hcast := congrArg (Nat.cast : ℕ → F) hnat
  push_cast at hcast
  exact hcast

/-! ### Comparisons -/

/-- The comparator finds the second input at most `2 ^ n - 1` steps ahead of the first, along the
circle of the field. -/
theorem LessEqThan.Holds.exists_add {c : LessEqThan F n} (h : c.Holds) (hout : c.out = 1) :
    ∃ d : ℕ, d < 2 ^ n ∧ c.in 1 = c.in 0 + d := by
  have hlast : c.lt.n2b.out (Fin.last n) = 0 := by
    have houtput := h.lt.output
    rw [← h.output, hout] at houtput
    linear_combination houtput
  obtain ⟨k, hk, hsum⟩ := exists_nat_of_binary (fun i => c.lt.n2b.out i.castSucc)
    fun i => h.lt.n2b.binary i.castSucc
  have hlc1 := h.lt.n2b.lc1
  rw [Fin.sum_univ_castSucc, hlast, zero_mul, add_zero] at hlc1
  simp only [Fin.val_castSucc] at hlc1
  rw [hsum, h.lt.input, h.left, h.right] at hlc1
  refine ⟨2 ^ n - 1 - k, by omega, ?_⟩
  have hcast : ((2 ^ n - 1 - k : ℕ) : F) + 1 + k = 2 ^ n := cast_complement hk
  linear_combination hlc1 - hcast

/-- The signals with which an honest prover shows it. -/
def LessEqThan.prove (n : ℕ) (a : F) (d : ℕ) : LessEqThan F n where
  «in» := ![a, a + d]
  out := 1
  lt := {
    «in» := ![a, a + d + 1]
    out := 1
    n2b := ⟨a + 2 ^ n - (a + d + 1), bitsOf F (n + 1) (2 ^ n - 1 - d)⟩ }

theorem LessEqThan.prove_holds (a : F) {d : ℕ} (hd : d < 2 ^ n) :
    (LessEqThan.prove n a d).Holds := by
  have hk : 2 ^ n - 1 - d < 2 ^ n := by omega
  have hlast : bitsOf F (n + 1) (2 ^ n - 1 - d) (Fin.last n) = 0 := by
    unfold bitsOf
    rw [Fin.val_last, Nat.div_eq_of_lt hk, Nat.zero_mod, Nat.cast_zero]
  have hcast : ((2 ^ n - 1 - d : ℕ) : F) + 1 + d = 2 ^ n := cast_complement hd
  refine ⟨⟨⟨bitsOf_binary _, ?_⟩, rfl, ?_⟩, rfl, rfl, rfl⟩
  · have hmod : (2 ^ n - 1 - d) % 2 ^ (n + 1) = 2 ^ n - 1 - d := by
      apply Nat.mod_eq_of_lt
      rw [pow_succ]
      omega
    refine (sum_bitsOf (n + 1) (2 ^ n - 1 - d)).trans ?_
    rw [hmod]
    change _ = a + 2 ^ n - (a + d + 1)
    linear_combination hcast
  · change 1 = 1 - bitsOf F (n + 1) (2 ^ n - 1 - d) (Fin.last n)
    rw [hlast, sub_zero]

end GhostBazaar.Zk
