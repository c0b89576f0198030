import Mathlib.Data.Nat.Prime.Basic
import Mathlib.Data.List.Prime
import Mathlib.NumberTheory.LucasPrimality
import Mathlib.Tactic.Ring

/-! Certificates for large primes: Lucas's test, with a power that the kernel can compute. -/
namespace GhostBazaar.LucasCertificate

/-- `acc * a ^ n` modulo `m`, for an exponent of at most `bits` bits. -/
def mulPow (m : ℕ) : (bits : ℕ) → (acc a n : ℕ) → ℕ
  | 0, acc, _, _ => acc % m
  | bits + 1, acc, a, n =>
    mulPow m bits (if n % 2 = 1 then acc * a % m else acc) (a * a % m) (n / 2)

theorem mulPow_lt {m : ℕ} (hm : 0 < m) (bits acc a n : ℕ) : mulPow m bits acc a n < m := by
  induction bits generalizing acc a n with
  | zero => exact Nat.mod_lt _ hm
  | succ bits ih => exact ih _ _ _

theorem cast_mulPow {m : ℕ} (bits acc a n : ℕ) (hn : n < 2 ^ bits) :
    (mulPow m bits acc a n : ZMod m) = acc * a ^ n := by
  induction bits generalizing acc a n with
  | zero =>
    have hzero : n = 0 := by simpa using hn
    rw [mulPow, hzero, ZMod.natCast_mod, pow_zero, mul_one]
  | succ bits ih =>
    have hhalf : n / 2 < 2 ^ bits := by
      rw [pow_succ] at hn
      omega
    have hn : 2 * (n / 2) + n % 2 = n := Nat.div_add_mod n 2
    rw [mulPow, ih _ _ _ hhalf, ZMod.natCast_mod]
    generalize n / 2 = k at hn
    split_ifs with hodd
    · rw [hodd] at hn
      rw [← hn, ZMod.natCast_mod]
      push_cast
      ring
    · have heven : n % 2 = 0 := by omega
      rw [heven] at hn
      rw [← hn]
      push_cast
      ring

/-- A generator `a` and the prime factors of `p - 1`, each as often as it divides. -/
structure Certificate (p : ℕ) where
  bits : ℕ
  a : ℕ
  factors : List ℕ

/-- What is left to compute: `a` to `p - 1` is one, and to no `(p - 1) / q`. -/
def Certificate.Checked {p : ℕ} (c : Certificate p) : Prop :=
  1 < p ∧ p ≤ 2 ^ c.bits ∧ c.factors.prod = p - 1 ∧ mulPow p c.bits 1 c.a (p - 1) = 1 ∧
    ∀ q ∈ c.factors, mulPow p c.bits 1 c.a ((p - 1) / q) ≠ 1

instance {p : ℕ} (c : Certificate p) : Decidable c.Checked := by
  unfold Certificate.Checked
  infer_instance

/-- Lucas's test. -/
theorem Certificate.prime {p : ℕ} (c : Certificate p) (h : c.Checked)
    (hfactors : ∀ q ∈ c.factors, q.Prime) : p.Prime := by
  obtain ⟨hone, hbits, hprod, hpow, hgenerates⟩ := h
  have hcast (n : ℕ) (hn : n < 2 ^ c.bits) : (mulPow p c.bits 1 c.a n : ZMod p) = c.a ^ n := by
    rw [cast_mulPow _ _ _ _ hn, Nat.cast_one, one_mul]
  apply lucas_primality p c.a
  · rw [← hcast _ (by omega), hpow, Nat.cast_one]
  · intro q hq hdvd
    rw [← hprod, hq.prime.dvd_prod_iff] at hdvd
    obtain ⟨q', hmem, hdvd⟩ := hdvd
    have hqq : q = q' := (Nat.prime_dvd_prime_iff_eq hq (hfactors q' hmem)).mp hdvd
    rw [hqq]
    have hlt : (p - 1) / q' < 2 ^ c.bits := by
      have hle := Nat.div_le_self (p - 1) q'
      omega
    rw [← hcast _ hlt]
    intro heq
    have hmod := (ZMod.natCast_eq_natCast_iff' _ 1 p).mp (heq.trans Nat.cast_one.symm)
    rw [Nat.mod_eq_of_lt (mulPow_lt (by omega) _ _ _ _), Nat.mod_eq_of_lt hone] at hmod
    exact hgenerates q' hmem hmod

end GhostBazaar.LucasCertificate
