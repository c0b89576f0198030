import Mathlib.Data.List.TakeWhile
import Mathlib.Data.Rat.Floor
import Mathlib.Tactic.FieldSimp
import Mathlib.Tactic.Linarith
import Mathlib.Tactic.Positivity
import GhostBazaar.Core.Amounts

/-! Decimal texts denote numbers, and `normalizeAmount` rounds them down to micro-units. -/
namespace GhostBazaar.Core
open Js

/-! ### Positional notation -/

theorem digitsValue_append (a b : JsString) :
    digitsValue (a ++ b) = digitsValue a * 10 ^ b.length + digitsValue b := by
  induction b using List.reverseRecOn with
  | nil => simp [digitsValue]
  | append_singleton b u ih =>
    have hsnoc : ∀ s : JsString, digitsValue (s ++ [u]) = digitsValue s * 10 + (u.val - 48) := by
      simp [digitsValue]
    rw [← List.append_assoc, hsnoc, hsnoc, ih, List.length_append, List.length_singleton, pow_succ]
    ring

theorem digitsValue_cons (u : CodeUnit) (s : JsString) :
    digitsValue (u :: s) = (u.val - 48) * 10 ^ s.length + digitsValue s := by
  have hone : digitsValue [u] = u.val - 48 := by simp [digitsValue]
  have happend := digitsValue_append [u] s
  rw [hone] at happend
  exact happend

theorem digitsValue_zeros (z : ℕ) : digitsValue (List.replicate z 48) = 0 := by
  induction z with
  | zero => rfl
  | succ z ih =>
    rw [List.replicate_succ, digitsValue_cons, ih]
    simp

theorem digitsValue_lt {s : JsString} (hs : ∀ u ∈ s, isDigitUnit u = true) :
    digitsValue s < 10 ^ s.length := by
  induction s with
  | nil => simp [digitsValue]
  | cons u s ih =>
    rw [List.forall_mem_cons] at hs
    have hu := hs.1
    simp only [isDigitUnit, decide_eq_true_eq] at hu
    have hrest := ih hs.2
    rw [digitsValue_cons, List.length_cons, pow_succ]
    have hdigit : u.val - 48 ≤ 9 := by omega
    have hmul := Nat.mul_le_mul_right (10 ^ s.length) hdigit
    omega

theorem digitsValue_inj {a b : JsString} (ha : ∀ u ∈ a, isDigitUnit u = true)
    (hb : ∀ u ∈ b, isDigitUnit u = true) (hlength : a.length = b.length)
    (hvalue : digitsValue a = digitsValue b) : a = b := by
  induction a generalizing b with
  | nil => exact (List.eq_nil_of_length_eq_zero hlength.symm).symm
  | cons u a ih =>
    cases b with
    | nil => cases hlength
    | cons v b =>
      rw [List.forall_mem_cons] at ha hb
      rw [List.length_cons, List.length_cons, Nat.add_right_cancel_iff] at hlength
      have hu := ha.1
      have hv := hb.1
      simp only [isDigitUnit, decide_eq_true_eq] at hu hv
      have hlta := digitsValue_lt ha.2
      have hltb := digitsValue_lt hb.2
      rw [digitsValue_cons, digitsValue_cons, hlength, Nat.add_comm,
        Nat.add_comm (_ * _) (digitsValue b)] at hvalue
      rw [hlength] at hlta
      -- the first digit is the quotient, the rest the remainder
      have hpos : 0 < 10 ^ b.length := by positivity
      have hdiv := congrArg (· / 10 ^ b.length) hvalue
      have hmod := congrArg (· % 10 ^ b.length) hvalue
      simp only [Nat.add_mul_mod_self_right, Nat.mod_eq_of_lt hlta, Nat.mod_eq_of_lt hltb] at hmod
      simp only [Nat.add_mul_div_right _ _ hpos, Nat.div_eq_of_lt hlta, Nat.div_eq_of_lt hltb,
        Nat.zero_add] at hdiv
      have huv : u = v := Fin.ext (by omega)
      rw [huv, ih ha.2 hb.2 hlength hmod]

/-! ### What a text denotes -/

theorem isDigits_iff {s : JsString} :
    isDigits s = true ↔ s ≠ [] ∧ ∀ u ∈ s, isDigitUnit u = true := by
  simp [isDigits]

/-- Digits, and perhaps a point and more digits, for the number in positional notation. -/
inductive Denotes : JsString → ℚ → Prop
  | whole {int : JsString} (hint : isDigits int = true) : Denotes int (digitsValue int)
  | fraction {int frac : JsString} (hint : isDigits int = true) (hfrac : isDigits frac = true) :
    Denotes (int ++ 46 :: frac) (digitsValue int + digitsValue frac / 10 ^ frac.length)

theorem point_notMem {int : JsString} (hint : isDigits int = true) : 46 ∉ int := by
  intro hpoint
  have hdigit := (isDigits_iff.mp hint).2 46 hpoint
  have hnot : isDigitUnit 46 = false := rfl
  rw [hnot] at hdigit
  cases hdigit

theorem span_point {int : JsString} (hint : isDigits int = true) (rest : JsString) :
    (int ++ 46 :: rest).span (· ≠ 46) = (int, 46 :: rest) := by
  have hne : ∀ u ∈ int, decide (u ≠ 46) = true := fun u hu =>
    decide_eq_true fun heq => point_notMem hint (heq ▸ hu)
  rw [List.span_eq_takeWhile_dropWhile, List.takeWhile_append_of_pos hne,
    List.dropWhile_append_of_pos hne]
  simp

theorem span_whole {int : JsString} (hint : isDigits int = true) :
    int.span (· ≠ 46) = (int, []) := by
  have hne : ∀ u ∈ int, decide (u ≠ 46) = true := fun u hu =>
    decide_eq_true fun heq => point_notMem hint (heq ▸ hu)
  rw [List.span_eq_takeWhile_dropWhile, List.takeWhile_eq_self_iff.mpr hne,
    List.dropWhile_eq_nil_iff.mpr hne]

theorem isPlainDecimal_iff {s : JsString} : isPlainDecimal s = true ↔ ∃ v, Denotes s v := by
  constructor
  · intro h
    have hsplit : s = (s.span (· ≠ 46)).1 ++ (s.span (· ≠ 46)).2 := by
      rw [List.span_eq_takeWhile_dropWhile]
      exact List.takeWhile_append_dropWhile.symm
    have hpoint : ∀ u rest, (s.span (· ≠ 46)).2 = u :: rest → u = 46 := by
      intro u rest hrest
      rw [List.span_eq_takeWhile_dropWhile] at hrest
      have hdrop : s.dropWhile (fun u => decide (u ≠ 46)) = u :: rest := hrest
      have hne : s.dropWhile (fun u => decide (u ≠ 46)) ≠ [] := by
        rw [hdrop]
        exact List.cons_ne_nil u rest
      have hhead := List.head_dropWhile_not (fun u : CodeUnit => decide (u ≠ 46)) hne
      simp only [hdrop, List.head_cons, decide_eq_false_iff_not, not_not] at hhead
      exact hhead
    unfold isPlainDecimal at h
    generalize s.span (· ≠ 46) = parts at hsplit hpoint h
    obtain ⟨int, rest⟩ := parts
    cases rest with
    | nil =>
      simp only [Bool.and_true] at h
      rw [hsplit, List.append_nil]
      exact ⟨_, .whole h⟩
    | cons u frac =>
      obtain rfl := hpoint u frac rfl
      rw [Bool.and_eq_true] at h
      rw [hsplit]
      exact ⟨_, .fraction h.1 h.2⟩
  · rintro ⟨v, hv⟩
    cases hv with
    | whole hint => simp only [isPlainDecimal, span_whole hint, hint, Bool.and_self]
    | fraction hint hfrac => simp only [isPlainDecimal, span_point hint, hint, hfrac, Bool.and_self]

/-! ### Rounding down -/

theorem microUnits_whole {int : JsString} (hint : isDigits int = true) (d : ℕ) :
    microUnits int d = digitsValue int * 10 ^ d := by
  simp only [microUnits, span_whole hint, List.drop_nil, List.length_nil, List.nil_append,
    Nat.sub_zero, List.take_nil]
  split_ifs with hd
  · rw [digitsValue_append, digitsValue_zeros, List.length_replicate, add_zero]
  · rw [Nat.eq_zero_of_not_pos hd, List.append_nil, pow_zero, mul_one]

theorem microUnits_fraction {int frac : JsString} (hint : isDigits int = true) (d : ℕ) :
    microUnits (int ++ 46 :: frac) d = digitsValue int * 10 ^ d +
      if frac.length < d then digitsValue frac * 10 ^ (d - frac.length)
      else digitsValue (frac.take d) := by
  simp only [microUnits, span_point hint, List.drop_one, List.tail_cons]
  split_ifs with hd
  · rw [digitsValue_append, digitsValue_append, digitsValue_zeros, List.length_append,
      List.length_replicate, add_zero, Nat.add_sub_cancel' hd.le]
  · rw [digitsValue_append, List.length_take, Nat.min_eq_left (Nat.le_of_not_lt hd)]

/-- The digits that are cut off are worth less than one unit of the last kept one. -/
theorem floor_fraction {frac : JsString} (hfrac : ∀ u ∈ frac, isDigitUnit u = true) (i d : ℕ)
    (hd : d ≤ frac.length) :
    ⌊((i : ℚ) + digitsValue frac / 10 ^ frac.length) * 10 ^ d⌋₊ =
      i * 10 ^ d + digitsValue (frac.take d) := by
  have hcut := digitsValue_append (frac.take d) (frac.drop d)
  rw [List.take_append_drop, List.length_drop] at hcut
  have hlt := digitsValue_lt (s := frac.drop d) fun u hu => hfrac u (List.mem_of_mem_drop hu)
  rw [List.length_drop] at hlt
  have hpow : (10 : ℚ) ^ frac.length = 10 ^ (frac.length - d) * 10 ^ d := by
    rw [← pow_add, Nat.sub_add_cancel hd]
  have hpos : (0 : ℚ) < 10 ^ (frac.length - d) := by positivity
  have hsum : ((i : ℚ) + digitsValue frac / 10 ^ frac.length) * 10 ^ d =
      ((i * 10 ^ d + digitsValue (frac.take d) : ℕ) : ℚ) +
        digitsValue (frac.drop d) / 10 ^ (frac.length - d) := by
    rw [hcut, hpow]
    push_cast
    field_simp
    ring
  have hsmall : (digitsValue (frac.drop d) : ℚ) / 10 ^ (frac.length - d) < 1 := by
    rw [div_lt_one hpos]
    exact_mod_cast hlt
  have hnonneg : (0 : ℚ) ≤ digitsValue (frac.drop d) / 10 ^ (frac.length - d) := by positivity
  rw [hsum, Nat.floor_eq_iff (by positivity)]
  constructor <;> linarith

theorem Denotes.microUnits {s : JsString} {v : ℚ} (h : Denotes s v) (d : ℕ) :
    microUnits s d = ⌊v * 10 ^ d⌋₊ := by
  cases h with
  | @whole int hint =>
    have hcast : (digitsValue s : ℚ) * 10 ^ d = ((digitsValue s * 10 ^ d : ℕ) : ℚ) := by
      push_cast
      rfl
    rw [microUnits_whole hint, hcast, Nat.floor_natCast]
  | @fraction int frac hint hfrac =>
    rw [microUnits_fraction hint]
    split_ifs with hd
    · have hpow : (10 : ℚ) ^ d = 10 ^ (d - frac.length) * 10 ^ frac.length := by
        rw [← pow_add, Nat.sub_add_cancel hd.le]
      have hcast : ((digitsValue int : ℚ) + digitsValue frac / 10 ^ frac.length) * 10 ^ d =
          ((digitsValue int * 10 ^ d + digitsValue frac * 10 ^ (d - frac.length) : ℕ) : ℚ) := by
        push_cast
        rw [hpow]
        field_simp
      rw [hcast, Nat.floor_natCast]
    · rw [floor_fraction (isDigits_iff.mp hfrac).2 _ d (Nat.le_of_not_lt hd)]

/-! ### Zeros that change nothing -/

theorem isDigits_append {a b : JsString} (ha : isDigits a = true)
    (hb : ∀ u ∈ b, isDigitUnit u = true) : isDigits (a ++ b) = true := by
  obtain ⟨hne, hdigits⟩ := isDigits_iff.mp ha
  refine isDigits_iff.mpr ⟨by simp [hne], fun u hu => ?_⟩
  rcases List.mem_append.mp hu with hu | hu
  · exact hdigits u hu
  · exact hb u hu

theorem isDigitUnit_zeros (z : ℕ) : ∀ u ∈ List.replicate z (48 : CodeUnit), isDigitUnit u = true := by
  intro u hu
  rw [List.eq_of_mem_replicate hu]
  rfl

theorem isDigits_zeros_append (z : ℕ) {s : JsString} (hs : isDigits s = true) :
    isDigits (List.replicate z 48 ++ s) = true := by
  obtain ⟨hne, hdigits⟩ := isDigits_iff.mp hs
  refine isDigits_iff.mpr ⟨by simp [hne], fun u hu => ?_⟩
  rcases List.mem_append.mp hu with hu | hu
  · exact isDigitUnit_zeros z u hu
  · exact hdigits u hu

theorem Denotes.zeros_append {s : JsString} {v : ℚ} (h : Denotes s v) (z : ℕ) :
    Denotes (List.replicate z 48 ++ s) v := by
  cases h with
  | whole hint =>
    have hvalue : digitsValue (List.replicate z 48 ++ s) = digitsValue s := by
      rw [digitsValue_append, digitsValue_zeros, zero_mul, zero_add]
    rw [← hvalue]
    exact .whole (isDigits_zeros_append z hint)
  | @fraction int frac hint hfrac =>
    have hvalue : digitsValue (List.replicate z 48 ++ int) = digitsValue int := by
      rw [digitsValue_append, digitsValue_zeros, zero_mul, zero_add]
    rw [← hvalue, ← List.append_assoc]
    exact .fraction (isDigits_zeros_append z hint) hfrac

/-- Zeros after a fraction. -/
theorem Denotes.append_zeros {s : JsString} {v : ℚ} (h : Denotes s v) (hpoint : 46 ∈ s) (z : ℕ) :
    Denotes (s ++ List.replicate z 48) v := by
  cases h with
  | whole hint => exact absurd hpoint (point_notMem hint)
  | @fraction int frac hint hfrac =>
    have hvalue : (digitsValue (frac ++ List.replicate z 48) : ℚ) /
        10 ^ (frac ++ List.replicate z (48 : CodeUnit)).length =
          digitsValue frac / 10 ^ frac.length := by
      rw [digitsValue_append, digitsValue_zeros, List.length_append, List.length_replicate, pow_add]
      push_cast
      field_simp
      ring
    rw [← hvalue, List.append_assoc, List.cons_append]
    exact .fraction hint (isDigits_append hfrac (isDigitUnit_zeros z))

/-- A fraction of zeros. -/
theorem Denotes.append_point {s : JsString} {v : ℚ} (h : Denotes s v) (hpoint : 46 ∉ s) (z : ℕ) :
    Denotes (s ++ 46 :: List.replicate (z + 1) 48) v := by
  cases h with
  | whole hint =>
    have hzeros : isDigits (List.replicate (z + 1) 48) = true :=
      isDigits_iff.mpr ⟨by simp, isDigitUnit_zeros (z + 1)⟩
    have hsum := Denotes.fraction hint hzeros
    rw [digitsValue_zeros, Nat.cast_zero, zero_div, add_zero] at hsum
    exact hsum
  | fraction => simp at hpoint

/-! ### `normalizeAmount` -/

variable {mintDecimals : List (JsString × ℕ)} {mint : JsString} {d : ℕ}

theorem normalizeAmount_iff (hmint : mintDecimals.lookup mint = some d) (s : JsString) (n : ℕ) :
    normalizeAmount mintDecimals (some (.str s)) mint = .ok n ↔
      ∃ v, Denotes s v ∧ n = ⌊v * 10 ^ d⌋₊ := by
  rw [normalizeAmount_eq_ok]
  constructor
  · rintro ⟨d', s', hmint', hs, hplain, rfl⟩
    obtain rfl : d = d' := Option.some.inj (hmint.symm.trans hmint')
    obtain rfl : s = s' := by simpa using hs
    obtain ⟨v, hv⟩ := isPlainDecimal_iff.mp hplain
    exact ⟨v, hv, hv.microUnits d⟩
  · rintro ⟨v, hv, rfl⟩
    exact ⟨d, s, hmint, rfl, isPlainDecimal_iff.mpr ⟨v, hv⟩, (hv.microUnits d).symm⟩

theorem Denotes.normalizeAmount {s : JsString} {v : ℚ} (h : Denotes s v)
    (hmint : mintDecimals.lookup mint = some d) :
    normalizeAmount mintDecimals (some (.str s)) mint = .ok ⌊v * 10 ^ d⌋₊ :=
  (normalizeAmount_iff hmint s _).mpr ⟨v, h, rfl⟩

/-- The texts that `normalizeAmount` accepts are the decimal ones, and it rounds the number that
they denote down to the decimals of the mint. So it keeps their order, whatever their zeros. -/
theorem normalizeAmount_floor (hmint : mintDecimals.lookup mint = some d) :
    (∀ s n, normalizeAmount mintDecimals (some (.str s)) mint = .ok n ↔
      ∃ v, Denotes s v ∧ n = ⌊v * 10 ^ d⌋₊) ∧
    (∀ s₁ s₂ v₁ v₂ n₁ n₂, Denotes s₁ v₁ → Denotes s₂ v₂ → v₁ ≤ v₂ →
      normalizeAmount mintDecimals (some (.str s₁)) mint = .ok n₁ →
      normalizeAmount mintDecimals (some (.str s₂)) mint = .ok n₂ → n₁ ≤ n₂) ∧
    ∀ s v z, Denotes s v →
      normalizeAmount mintDecimals (some (.str (List.replicate z 48 ++ s))) mint =
        normalizeAmount mintDecimals (some (.str s)) mint ∧
      (46 ∈ s → normalizeAmount mintDecimals (some (.str (s ++ List.replicate z 48))) mint =
        normalizeAmount mintDecimals (some (.str s)) mint) ∧
      (46 ∉ s →
        normalizeAmount mintDecimals (some (.str (s ++ 46 :: List.replicate (z + 1) 48))) mint =
          normalizeAmount mintDecimals (some (.str s)) mint) := by
  refine ⟨normalizeAmount_iff hmint, ?_, fun s v z h => ⟨?_, fun hpoint => ?_, fun hpoint => ?_⟩⟩
  · intro s₁ s₂ v₁ v₂ n₁ n₂ h₁ h₂ hle hn₁ hn₂
    rw [h₁.normalizeAmount hmint, Except.ok.injEq] at hn₁
    rw [h₂.normalizeAmount hmint, Except.ok.injEq] at hn₂
    rw [← hn₁, ← hn₂]
    apply Nat.floor_mono
    exact mul_le_mul_of_nonneg_right hle (by positivity)
  · rw [(h.zeros_append z).normalizeAmount hmint, h.normalizeAmount hmint]
  · rw [(h.append_zeros hpoint z).normalizeAmount hmint, h.normalizeAmount hmint]
  · rw [(h.append_point hpoint z).normalizeAmount hmint, h.normalizeAmount hmint]

theorem normalizeAmount_floor_usdc :
    normalizeAmount MINT_DECIMALS
      (some (.str (js "12.3456789"))) (js "EPjFWdd5AufqSSqeM2qN1xzybapC8G4wEGGkZwyTDt1v") =
        .ok 12345678 := by
  have hmint : MINT_DECIMALS.lookup (js "EPjFWdd5AufqSSqeM2qN1xzybapC8G4wEGGkZwyTDt1v") =
      some 6 := by decide +kernel
  refine ((normalizeAmount_floor hmint).1 _ _).mpr ⟨_, @Denotes.fraction (js "12")
    (js "3456789") (by decide) (by decide), ?_⟩
  have hint : digitsValue (js "12") = 12 := by decide
  have hfrac : digitsValue (js "3456789") = 3456789 := by decide
  have hlength : (js "3456789").length = 7 := by decide
  rw [hint, hfrac, hlength, eq_comm, Nat.floor_eq_iff (by norm_num)]
  norm_num

end GhostBazaar.Core
