import Mathlib.Data.List.DropRight
import GhostBazaar.Core.DecimalText
import GhostBazaar.Js.Parse

/-! Prices as the integers of the budget circuit, and back. -/
namespace GhostBazaar.Zk
open Js GhostBazaar.Core

/-- Devnet USDC. -/
def DEFAULT_USDC_MINT : JsString := js "4zMMC9srt5Ri5X14GAgXhaHii3GnPAEERYPJgZJDncDU"

def USDC_DECIMALS : ℕ := 6

def MIN_DECIMAL_PLACES : ℕ := 2

def scalePrice (mintDecimals : List (JsString × ℕ)) (decimalStr : JsValue)
    (mint : Option JsString) : Except JsError ℕ :=
  normalizeAmount mintDecimals decimalStr (mint.getD DEFAULT_USDC_MINT)

/-- `s.padStart(length, "0")` -/
def padStart (s : JsString) (length : ℕ) : JsString := List.replicate (length - s.length) 48 ++ s

def unscalePrice (scaled : ℕ) : JsString :=
  let str := padStart (natText scaled) (USDC_DECIMALS + 1)
  let whole := str.take (str.length - USDC_DECIMALS)
  let intPart := if whole = [] then js "0" else whole
  let fracRaw := str.drop (str.length - USDC_DECIMALS)
  -- trailing zeros are stripped beyond the places that are kept
  let trimmed := fracRaw.take MIN_DECIMAL_PLACES ++
    (fracRaw.drop MIN_DECIMAL_PLACES).rdropWhile fun u => decide (u = 48)
  intPart ++ [46] ++ trimmed

/-! ### The number that is written -/

/-- Stripped zeros were at the end. -/
theorem rdropWhile_zeros (s : JsString) :
    s.rdropWhile (fun u => decide (u = 48)) ++
      List.replicate (s.rtakeWhile fun u => decide (u = 48)).length 48 = s := by
  have hzeros : s.rtakeWhile (fun u => decide (u = 48)) =
      List.replicate (s.rtakeWhile fun u => decide (u = 48)).length 48 := by
    refine List.eq_replicate_of_mem fun u hu => ?_
    have himp := List.mem_rtakeWhile_imp (p := fun u : CodeUnit => decide (u = 48)) hu
    exact of_decide_eq_true himp
  rw [← hzeros]
  exact List.rdropWhile_append_rtakeWhile

theorem padStart_digits (n length : ℕ) : isDigits (padStart (natText n) length) = true ∧
    digitsValue (padStart (natText n) length) = n ∧
    length ≤ (padStart (natText n) length).length := by
  obtain ⟨hne, hdigits, hvalue⟩ := natText_digits n
  refine ⟨isDigits_zeros_append _ (isDigits_iff.mpr ⟨hne, hdigits⟩), ?_, ?_⟩
  · rw [padStart, digitsValue_append, digitsValue_zeros, hvalue, zero_mul, zero_add]
  · rw [padStart, List.length_append, List.length_replicate]
    omega

/-- Two digits or more, and no zero at the end beyond the second. -/
def Trimmed (frac : JsString) : Prop :=
  2 ≤ frac.length ∧ (frac.length = 2 ∨ frac.getLast? ≠ some 48)

/-- The parts of `unscalePrice`: the digits before the point, and the others but for zeros. -/
theorem unscalePrice_eq (n : ℕ) : ∃ int frac, unscalePrice n = int ++ 46 :: frac ∧
    isDigits int = true ∧ isDigits frac = true ∧ frac.length ≤ 6 ∧ Trimmed frac ∧
    padStart (natText n) 7 = int ++ (frac ++ List.replicate (6 - frac.length) 48) := by
  obtain ⟨hdigits, -, hlength⟩ := padStart_digits n 7
  obtain ⟨-, hall⟩ := isDigits_iff.mp hdigits
  have hunfold : unscalePrice n = (if (padStart (natText n) 7).take
      ((padStart (natText n) 7).length - 6) = [] then js "0" else (padStart (natText n) 7).take
        ((padStart (natText n) 7).length - 6)) ++ [46] ++
      (((padStart (natText n) 7).drop ((padStart (natText n) 7).length - 6)).take 2 ++
        (((padStart (natText n) 7).drop ((padStart (natText n) 7).length - 6)).drop 2).rdropWhile
          fun u => decide (u = 48)) := rfl
  rw [hunfold]
  generalize padStart (natText n) 7 = str at hlength hall
  have hsplit := List.take_append_drop (str.length - 6) str
  have htake : (str.take (str.length - 6)).length = str.length - 6 := by
    rw [List.length_take]
    omega
  have hdrop : (str.drop (str.length - 6)).length = 6 := by
    rw [List.length_drop]
    omega
  have hallTake : ∀ u ∈ str.take (str.length - 6), isDigitUnit u = true :=
    fun u hu => hall u (List.mem_of_mem_take hu)
  have hallDrop : ∀ u ∈ str.drop (str.length - 6), isDigitUnit u = true :=
    fun u hu => hall u (List.mem_of_mem_drop hu)
  generalize str.take (str.length - 6) = int at hsplit htake hallTake
  generalize str.drop (str.length - 6) = fracRaw at hsplit hdrop hallDrop
  have hne : int ≠ [] := by
    intro hnil
    rw [hnil, List.length_nil] at htake
    omega
  have hzeros := rdropWhile_zeros (fracRaw.drop 2)
  have htrimmed : fracRaw.take 2 ++ (fracRaw.drop 2).rdropWhile (fun u => decide (u = 48)) ++
      List.replicate ((fracRaw.drop 2).rtakeWhile fun u => decide (u = 48)).length 48 =
        fracRaw := by
    rw [List.append_assoc, hzeros, List.take_append_drop]
  generalize htrim : fracRaw.take 2 ++ (fracRaw.drop 2).rdropWhile (fun u => decide (u = 48)) =
    trimmed at htrimmed
  have hlengths := congrArg List.length htrimmed
  rw [List.length_append, List.length_replicate, hdrop] at hlengths
  have htwo : 2 ≤ trimmed.length := by
    rw [← htrim, List.length_append, List.length_take, hdrop]
    omega
  refine ⟨int, trimmed, ?_, isDigits_iff.mpr ⟨hne, hallTake⟩, isDigits_iff.mpr ⟨?_, ?_⟩, by omega,
    ⟨htwo, ?_⟩, ?_⟩
  · rw [if_neg hne, List.append_assoc]
    rfl
  · intro hnil
    rw [hnil, List.length_nil] at htwo
    omega
  · intro u hu
    exact hallDrop u (htrimmed ▸ List.mem_append_left _ hu)
  · have htake2 : (fracRaw.take 2).length = 2 := by
      rw [List.length_take, hdrop]
      rfl
    by_cases hrest : (fracRaw.drop 2).rdropWhile (fun u => decide (u = 48)) = []
    · left
      rw [← htrim, hrest, List.append_nil, htake2]
    · right
      have hlast := List.rdropWhile_last_not (p := fun u : CodeUnit => decide (u = 48))
        (l := fracRaw.drop 2) hrest
      rw [← htrim, List.getLast?_append_of_ne_nil _ hrest, List.getLast?_eq_some_getLast hrest]
      simpa using hlast
  · have hcount : 6 - trimmed.length =
        ((fracRaw.drop 2).rtakeWhile fun u => decide (u = 48)).length := by omega
    rw [hcount, htrimmed, hsplit]

theorem unscalePrice_denotes (n : ℕ) : Denotes (unscalePrice n) (n / 10 ^ 6) := by
  obtain ⟨int, frac, hunscale, hint, hfrac, hlength, -, hstr⟩ := unscalePrice_eq n
  have hvalue := (padStart_digits n 7).2.1
  rw [hstr, digitsValue_append, digitsValue_append, digitsValue_zeros, List.length_append,
    List.length_replicate, add_zero, Nat.add_sub_cancel' hlength] at hvalue
  have hfraction : (digitsValue frac : ℚ) / 10 ^ frac.length * 10 ^ 6 =
      digitsValue frac * 10 ^ (6 - frac.length) := by
    have hpow : (10 : ℚ) ^ 6 = 10 ^ (6 - frac.length) * 10 ^ frac.length := by
      rw [← pow_add, Nat.sub_add_cancel hlength]
    rw [hpow]
    field_simp
  have hsum : (n : ℚ) / 10 ^ 6 = digitsValue int + digitsValue frac / 10 ^ frac.length := by
    rw [div_eq_iff (by positivity), add_mul, hfraction, ← hvalue]
    push_cast
    rfl
  rw [hunscale, hsum]
  exact .fraction hint hfrac

/-! ### The text that is written -/

/-- A number with no zero at the start has as many digits as its size asks for. -/
theorem le_digitsValue {s : JsString} (hs : ∀ u ∈ s, isDigitUnit u = true) (hne : s ≠ [])
    (hhead : s.head? ≠ some 48) : 10 ^ (s.length - 1) ≤ digitsValue s := by
  cases s with
  | nil => exact absurd rfl hne
  | cons u s =>
    have hu := hs u List.mem_cons_self
    simp only [isDigitUnit, decide_eq_true_eq] at hu
    have hzero : u.val ≠ 48 := by
      intro heq
      apply hhead
      rw [List.head?_cons, Option.some.injEq]
      exact Fin.ext heq
    have hdigit : 1 ≤ u.val - 48 := by omega
    have hmul := Nat.mul_le_mul_right (10 ^ s.length) hdigit
    rw [digitsValue_cons, List.length_cons, Nat.add_sub_cancel]
    omega

/-- A text of seven digits, or of more with no zero at the start, is the padded one of its value. -/
theorem padStart_unique {t : JsString} (ht : ∀ u ∈ t, isDigitUnit u = true) (hlength : 7 ≤ t.length)
    (hhead : t.length = 7 ∨ t.head? ≠ some 48) : padStart (natText (digitsValue t)) 7 = t := by
  obtain ⟨hdigits, hvalue, -⟩ := padStart_digits (digitsValue t) 7
  apply digitsValue_inj (isDigits_iff.mp hdigits).2 ht _ hvalue
  have hupper := digitsValue_lt ht
  have hne : t ≠ [] := by
    rintro rfl
    simp at hlength
  rw [padStart, List.length_append, List.length_replicate]
  by_cases hzero : digitsValue t = 0
  · have hone : (natText 0).length = 1 := rfl
    rw [hzero, hone]
    rcases hhead with hseven | hhead
    · omega
    · have hlower := le_digitsValue ht hne hhead
      rw [hzero] at hlower
      exact absurd hlower (Nat.not_le.mpr (by positivity))
  · obtain ⟨-, -, -, hfirst⟩ := digitText_parts hzero
    obtain ⟨hne', hdigits', hvalue'⟩ := natText_digits (digitsValue t)
    have hlower' := le_digitsValue hdigits' hne' hfirst
    have hupper' := digitsValue_lt hdigits'
    rw [hvalue'] at hlower' hupper'
    have hle : (natText (digitsValue t)).length - 1 < t.length :=
      (Nat.pow_lt_pow_iff_right (by norm_num)).mp (lt_of_le_of_lt hlower' hupper)
    rcases hhead with hseven | hhead
    · omega
    · have hlower := le_digitsValue ht hne hhead
      have hle' : t.length - 1 < (natText (digitsValue t)).length :=
        (Nat.pow_lt_pow_iff_right (by norm_num)).mp (lt_of_le_of_lt hlower hupper')
      omega

theorem Trimmed.unique {a b : JsString} (ha : Trimmed a) (hb : Trimmed b) {i j : ℕ}
    (h : a ++ List.replicate i 48 = b ++ List.replicate j 48) : a = b := by
  have hprefixed : ∀ {a b : JsString} {i j : ℕ}, Trimmed a → Trimmed b → a.length ≤ b.length →
      a ++ List.replicate i 48 = b ++ List.replicate j 48 → a = b := by
    intro a b i j ha hb hle h
    obtain ⟨rest, rfl, hrest⟩ : ∃ rest, b = a ++ rest ∧
        List.replicate i 48 = rest ++ List.replicate j 48 := by
      rcases List.append_eq_append_iff.mp h with ⟨rest, hb, hi⟩ | ⟨rest, ha', hj⟩
      · exact ⟨rest, hb, hi⟩
      · have hlen := congrArg List.length ha'
        rw [List.length_append] at hlen
        have hnil : rest = [] := List.eq_nil_of_length_eq_zero (by omega)
        rw [hnil, List.append_nil] at ha'
        rw [hnil, List.nil_append] at hj
        exact ⟨[], by rw [ha', List.append_nil], by rw [← hj, List.nil_append]⟩
    cases rest using List.reverseRecOn with
    | nil => rw [List.append_nil]
    | append_singleton rest u =>
      have hu : u = 48 := by
        apply List.eq_of_mem_replicate (n := i)
        rw [hrest]
        simp
      rcases hb.2 with htwo | hlast
      · have htwo' := ha.1
        simp only [List.length_append, List.length_singleton] at htwo
        omega
      · rw [hu, ← List.append_assoc, List.getLast?_concat] at hlast
        exact absurd rfl hlast
  rcases Nat.le_total a.length b.length with hle | hle
  · exact hprefixed ha hb hle h
  · exact (hprefixed hb ha hle h.symm).symm

/-- A price as `unscalePrice` writes it: no zero at the start but one before the point, and two to
six digits after it with no zero at the end beyond the second. -/
def IsPriceText (s : JsString) : Prop :=
  ∃ int frac, s = int ++ 46 :: frac ∧ isDigits int = true ∧ isDigits frac = true ∧
    (int = [48] ∨ int.head? ≠ some 48) ∧ Trimmed frac ∧ frac.length ≤ 6

theorem unscalePrice_microUnits {s : JsString} (hs : IsPriceText s) :
    unscalePrice (microUnits s 6) = s := by
  obtain ⟨int, frac, rfl, hint, hfrac, hfirst, htrimmed, hlength⟩ := hs
  obtain ⟨hne, hintDigits⟩ := isDigits_iff.mp hint
  have hfracDigits := (isDigits_iff.mp hfrac).2
  have hdigits : ∀ u ∈ int ++ (frac ++ List.replicate (6 - frac.length) 48),
      isDigitUnit u = true := by
    intro u hu
    rcases List.mem_append.mp hu with hu | hu
    · exact hintDigits u hu
    · rcases List.mem_append.mp hu with hu | hu
      · exact hfracDigits u hu
      · exact isDigitUnit_zeros _ u hu
  have hvalue : microUnits (int ++ 46 :: frac) 6 =
      digitsValue (int ++ (frac ++ List.replicate (6 - frac.length) 48)) := by
    rw [microUnits_fraction hint, digitsValue_append, digitsValue_append, digitsValue_zeros,
      List.length_append, List.length_replicate, Nat.add_sub_cancel' hlength, add_zero]
    split_ifs with hlt
    · rfl
    · have hsix : frac.length = 6 := by omega
      rw [hsix, Nat.sub_self, pow_zero, mul_one, ← hsix, List.take_length]
  have hlen : (int ++ (frac ++ List.replicate (6 - frac.length) (48 : CodeUnit))).length =
      int.length + 6 := by
    rw [List.length_append, List.length_append, List.length_replicate,
      Nat.add_sub_cancel' hlength]
  have hpos : 0 < int.length := List.length_pos_iff.mpr hne
  obtain ⟨int', frac', hunscale, -, -, hlength', htrimmed', hstr⟩ :=
    unscalePrice_eq (microUnits (int ++ 46 :: frac) 6)
  rw [hvalue, padStart_unique hdigits (by omega) ?_] at hstr
  · have hsixes : (frac ++ List.replicate (6 - frac.length) (48 : CodeUnit)).length =
        (frac' ++ List.replicate (6 - frac'.length) (48 : CodeUnit)).length := by
      simp only [List.length_append, List.length_replicate]
      omega
    obtain ⟨hintEq, hfracEq⟩ := List.append_inj' hstr hsixes
    rw [hunscale, ← hintEq, htrimmed.unique htrimmed' hfracEq]
  · rcases hfirst with rfl | hfirst
    · left
      rw [hlen]
      rfl
    · right
      rw [List.head?_append_of_ne_nil _ hne]
      exact hfirst

/-! ### The two directions -/

/-- Scaling is the inverse of its inverse, which writes every price cut to six decimals and gives
a price text back as it was. -/
theorem scalePrice_unscalePrice {mintDecimals : List (JsString × ℕ)}
    (hmint : mintDecimals.lookup DEFAULT_USDC_MINT = some USDC_DECIMALS) :
    (∀ n, scalePrice mintDecimals (some (.str (unscalePrice n))) none = .ok n) ∧
    ∀ s n, scalePrice mintDecimals (some (.str s)) none = .ok n →
      scalePrice mintDecimals (some (.str (unscalePrice n))) none = .ok n ∧
      (∃ v, Denotes s v ∧ Denotes (unscalePrice n) (⌊v * 10 ^ 6⌋₊ / 10 ^ 6)) ∧
      (IsPriceText s → unscalePrice n = s) := by
  have hback : ∀ n, scalePrice mintDecimals (some (.str (unscalePrice n))) none = .ok n := by
    intro n
    refine ((normalizeAmount_floor hmint).1 _ _).mpr ⟨_, unscalePrice_denotes n, ?_⟩
    rw [USDC_DECIMALS, div_mul_cancel₀ _ (by positivity), Nat.floor_natCast]
  refine ⟨hback, fun s n hn => ⟨hback n, ?_, fun hs => ?_⟩⟩
  · obtain ⟨v, hv, rfl⟩ := (normalizeAmount_iff hmint s n).mp hn
    exact ⟨v, hv, unscalePrice_denotes _⟩
  · obtain ⟨v, hv, rfl⟩ := (normalizeAmount_iff hmint s n).mp hn
    rw [USDC_DECIMALS, ← hv.microUnits 6]
    exact unscalePrice_microUnits hs

theorem scalePrice_unscalePrice_default : unscalePrice 36500000 = js "36.50" := by
  have hmint : MINT_DECIMALS.lookup DEFAULT_USDC_MINT = some USDC_DECIMALS := by decide +kernel
  have hscale : scalePrice MINT_DECIMALS (some (.str (js "36.50"))) none = .ok 36500000 := by
    decide +kernel
  refine ((scalePrice_unscalePrice hmint).2 _ _ hscale).2.2 ⟨js "36", js "50", rfl, ?_⟩
  exact ⟨by decide, by decide, .inr (by decide), ⟨by decide, .inl (by decide)⟩, by decide⟩

end GhostBazaar.Zk
