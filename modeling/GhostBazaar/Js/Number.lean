import GhostBazaar.Js.Text
import Mathlib.Tactic.Ring
import Mathlib.Data.Nat.Digits.Lemmas
import Mathlib.Data.Rat.Defs
import Mathlib.Algebra.Order.Field.Rat

/-! Finite numbers and their text under `Number::toString` with radix ten. -/
namespace GhostBazaar.Js

/-- A finite double by its shortest digits: `s` holds the `k` digits, without a
trailing zero, and the value is `s * 10 ^ (n - k)`. The two zeros are one value. -/
structure JsNumber where
  neg : Bool
  s : ℕ
  n : ℤ
  normal : s % 10 ≠ 0 ∨ (s = 0 ∧ neg = false ∧ n = 0)
  deriving DecidableEq

namespace JsNumber

def zero : JsNumber := ⟨false, 0, 0, Or.inr ⟨rfl, rfl, rfl⟩⟩

/-- The rational denoted by the number. -/
def toRat (x : JsNumber) : ℚ :=
  (if x.neg then -1 else 1) * (x.s : ℚ) * (10 : ℚ) ^ (x.n - (Nat.digits 10 x.s).length)

def le (x y : JsNumber) : Bool := decide (x.toRat ≤ y.toRat)

/-- `Number.isInteger(x) && x > 0`. -/
def isPositiveInteger (x : JsNumber) : Bool :=
  !x.neg && decide (x.s ≠ 0 ∧ ((Nat.digits 10 x.s).length : ℤ) ≤ x.n)

def abs (x : JsNumber) : JsNumber :=
  ⟨false, x.s, x.n, x.normal.imp_right fun h => ⟨h.1, rfl, h.2.2⟩⟩

private def stripZeros : ℕ → ℕ → ℕ
  | 0, m => m
  | fuel + 1, m => if m % 10 = 0 then stripZeros fuel (m / 10) else m

private theorem stripZeros_mod (fuel m : ℕ) (hm : 0 < m) (hf : m < 10 ^ fuel) :
    stripZeros fuel m % 10 ≠ 0 := by
  induction fuel generalizing m with
  | zero => simp at hf; omega
  | succ fuel ih =>
    simp only [stripZeros]
    split_ifs with h
    · exact ih (m / 10) (by omega) (by rw [pow_succ] at hf; omega)
    · exact h

def ofNat (m : ℕ) : JsNumber :=
  if h : 0 < m then
    ⟨false, stripZeros (Nat.digits 10 m).length m, (Nat.digits 10 m).length,
      Or.inl (stripZeros_mod _ m h (Nat.lt_base_pow_length_digits (by omega)))⟩
  else zero

private theorem stripZeros_mul_pow {s : ℕ} (hs : s % 10 ≠ 0) {z fuel : ℕ} (hz : z ≤ fuel) :
    stripZeros fuel (s * 10 ^ z) = s := by
  induction z generalizing fuel with
  | zero => cases fuel <;> simp [stripZeros, hs]
  | succ z ih =>
    obtain ⟨fuel, rfl⟩ := Nat.exists_eq_succ_of_ne_zero (by omega : fuel ≠ 0)
    have hmul : s * 10 ^ (z + 1) = s * 10 ^ z * 10 := by rw [pow_succ, mul_assoc]
    rw [hmul, stripZeros, if_pos (by simp), Nat.mul_div_cancel _ (by omega)]
    exact ih (by omega)

theorem ofNat_mul_pow_ten {s : ℕ} (hs : s % 10 ≠ 0) (z : ℕ) :
    ofNat (s * 10 ^ z) = ⟨false, s, (Nat.digits 10 s).length + z, Or.inl hs⟩ := by
  have hpos : 0 < s * 10 ^ z := Nat.mul_pos (by omega) (by positivity)
  have hlen : (Nat.digits 10 (s * 10 ^ z)).length = z + (Nat.digits 10 s).length := by
    rw [mul_comm, Nat.digits_base_pow_mul (by omega) (by omega)]
    simp
  simp only [ofNat, dif_pos hpos, mk.injEq, true_and]
  exact ⟨stripZeros_mul_pow hs (by omega), by rw [hlen]; push_cast; ring⟩

theorem exists_mul_pow_ten {m : ℕ} (hm : m ≠ 0) : ∃ s z, s % 10 ≠ 0 ∧ m = s * 10 ^ z := by
  induction m using Nat.strong_induction_on with
  | _ m ih =>
    by_cases h : m % 10 = 0
    · obtain ⟨s, z, hs, hmul⟩ := ih (m / 10) (by omega) (by omega)
      exact ⟨s, z + 1, hs, by rw [pow_succ, ← mul_assoc, ← hmul]; omega⟩
    · exact ⟨m, 0, h, by simp⟩

theorem ofNat_injective : Function.Injective ofNat := by
  intro m m' h
  have hzero : ofNat 0 = zero := rfl
  by_cases hm : m = 0 <;> by_cases hm' : m' = 0
  · rw [hm, hm']
  · obtain ⟨s, z, hs, rfl⟩ := exists_mul_pow_ten hm'
    rw [hm, hzero, ofNat_mul_pow_ten hs, zero, mk.injEq] at h
    omega
  · obtain ⟨s, z, hs, rfl⟩ := exists_mul_pow_ten hm
    rw [hm', hzero, ofNat_mul_pow_ten hs, zero, mk.injEq] at h
    omega
  · obtain ⟨s, z, hs, rfl⟩ := exists_mul_pow_ten hm
    obtain ⟨t, w, ht, rfl⟩ := exists_mul_pow_ten hm'
    rw [ofNat_mul_pow_ten hs, ofNat_mul_pow_ten ht, mk.injEq] at h
    obtain ⟨-, rfl, hn⟩ := h
    have hzw : z = w := by omega
    rw [hzw]

/-! ### Text -/

def exponentText (e : ℤ) : List Char :=
  'e' :: (if 0 ≤ e then '+' else '-') :: digitText e.natAbs

def unsignedText (s : ℕ) (n : ℤ) : List Char :=
  let ds := digitText s
  if (ds.length : ℤ) ≤ n ∧ n ≤ 21 then ds ++ List.replicate (n - ds.length).toNat '0'
  else if 0 < n ∧ n ≤ 21 then ds.take n.toNat ++ '.' :: ds.drop n.toNat
  else if -6 < n ∧ n ≤ 0 then '0' :: '.' :: (List.replicate (-n).toNat '0' ++ ds)
  else match ds with
    | [] => []
    | [d] => d :: exponentText (n - 1)
    | d :: ds => d :: '.' :: (ds ++ exponentText (n - 1))

def toText (x : JsNumber) : List Char :=
  if x.s = 0 then ['0'] else (if x.neg then ['-'] else []) ++ unsignedText x.s x.n

/-- The characters of a number token. -/
def isTokenChar (c : Char) : Bool := isDigit c || c ∈ ['-', '+', '.', 'e']

/-! ### Reading back -/

def readExponent : List Char → ℤ
  | 'e' :: '-' :: ds => -(readNat ds : ℤ)
  | 'e' :: _ :: ds => readNat ds
  | _ => 0

/-- Mantissa and power of ten of an unsigned token. -/
def readUnsigned (t : List Char) : ℕ × ℤ :=
  let mantissa := t.takeWhile (· ≠ 'e')
  let int := mantissa.takeWhile (· ≠ '.')
  let frac := (mantissa.dropWhile (· ≠ '.')).tail
  (readNat (int ++ frac), readExponent (t.dropWhile (· ≠ 'e')) - frac.length)

theorem readExponent_exponentText {e : ℤ} :
    readExponent (exponentText e) = e := by
  by_cases he : 0 ≤ e
  · simp [exponentText, he, readExponent]
  · have hm : (if 0 ≤ e then '+' else '-') = '-' := if_neg he
    simp only [exponentText, hm, readExponent, readNat_digitText]
    omega

private theorem takeWhile_stop {p : Char → Bool} {xs : List Char} {c : Char} {ys : List Char}
    (hx : ∀ x ∈ xs, p x = true) (hc : p c = false) :
    (xs ++ c :: ys).takeWhile p = xs ∧ (xs ++ c :: ys).dropWhile p = c :: ys := by
  induction xs with
  | nil => simp [hc]
  | cons x xs ih => simp [hx x (by simp), ih (fun y hy => hx y (by simp [hy]))]

private theorem takeWhile_all {p : Char → Bool} {xs : List Char}
    (hx : ∀ x ∈ xs, p x = true) : xs.takeWhile p = xs ∧ xs.dropWhile p = [] := by
  induction xs with
  | nil => simp
  | cons x xs ih => simp [hx x (by simp), ih (fun y hy => hx y (by simp [hy]))]

/-- A token `int.frac` followed by an optional exponent. -/
theorem readUnsigned_split (int frac ex : List Char) (hi : ∀ c ∈ int, isDigit c = true)
    (hf : ∀ c ∈ frac, isDigit c = true) (hx : ex = [] ∨ ∃ e, ex = exponentText e) :
    readUnsigned (int ++ '.' :: (frac ++ ex)) =
      (readNat (int ++ frac), readExponent ex - frac.length) := by
  have hd : ∀ c, isDigit c = true → (c ≠ 'e') ∧ (c ≠ '.') := by
    rintro c hc
    constructor <;> rintro rfl <;> exact absurd hc (by decide)
  have hm : ∀ c ∈ int ++ '.' :: frac, decide (c ≠ 'e') = true := by
    intro c hc
    rcases List.mem_append.mp hc with h | h
    · simpa using (hd c (hi c h)).1
    · rcases List.mem_cons.mp h with rfl | h
      · decide
      · simpa using (hd c (hf c h)).1
  have hint : ∀ c ∈ int, decide (c ≠ '.') = true := fun c hc => by simpa using (hd c (hi c hc)).2
  have he : (int ++ '.' :: (frac ++ ex)).takeWhile (· ≠ 'e') = int ++ '.' :: frac ∧
      (int ++ '.' :: (frac ++ ex)).dropWhile (· ≠ 'e') = ex := by
    have hassoc : int ++ '.' :: (frac ++ ex) = (int ++ '.' :: frac) ++ ex := by simp
    rw [hassoc]
    rcases hx with rfl | ⟨e, rfl⟩
    · simpa using takeWhile_all hm
    · exact takeWhile_stop hm (by decide)
  have hp := @takeWhile_stop _ _ '.' frac hint (by decide)
  simp only [readUnsigned, he.1, he.2, hp.1, hp.2, List.tail_cons]

/-- A token without a point. -/
theorem readUnsigned_integral (int ex : List Char) (hi : ∀ c ∈ int, isDigit c = true)
    (hx : ex = [] ∨ ∃ e, ex = exponentText e) :
    readUnsigned (int ++ ex) = (readNat int, readExponent ex) := by
  have hd : ∀ c, isDigit c = true → (c ≠ 'e') ∧ (c ≠ '.') := by
    rintro c hc
    constructor <;> rintro rfl <;> exact absurd hc (by decide)
  have hm : ∀ c ∈ int, decide (c ≠ 'e') = true := fun c hc => by simpa using (hd c (hi c hc)).1
  have hint : ∀ c ∈ int, decide (c ≠ '.') = true := fun c hc => by simpa using (hd c (hi c hc)).2
  have he : (int ++ ex).takeWhile (· ≠ 'e') = int ∧ (int ++ ex).dropWhile (· ≠ 'e') = ex := by
    rcases hx with rfl | ⟨e, rfl⟩
    · simpa using takeWhile_all hm
    · exact takeWhile_stop hm (by decide)
  have hp := takeWhile_all hint
  simp only [readUnsigned, he.1, he.2, hp.1, hp.2]
  simp

/-- The token of `s` and `n` reads back as `s` with `z` zeros appended, and the
power of ten that makes up for them. -/
theorem readUnsigned_unsignedText {s : ℕ} (hs : s ≠ 0) (n : ℤ) :
    ∃ z : ℕ, readUnsigned (unsignedText s n) = (s * 10 ^ z, n - (digitText s).length - z) := by
  have hd : ∀ c ∈ digitText s, isDigit c = true := fun c => isDigit_of_mem_digitText
  have hz : ∀ m, ∀ c ∈ List.replicate m '0', isDigit c = true := by
    intro m c hc
    rw [List.eq_of_mem_replicate hc]
    decide
  simp only [unsignedText]
  split_ifs with h1 h2 h3
  · -- an integer, zeros appended
    refine ⟨(n - (digitText s).length).toNat, ?_⟩
    have h := readUnsigned_integral (digitText s ++
      List.replicate (n - (digitText s).length).toNat '0') []
      (fun c hc => (List.mem_append.mp hc).elim (hd c) (hz _ c)) (Or.inl rfl)
    rw [List.append_nil] at h
    rw [h, readNat_append_zeros, readNat_digitText]
    simp only [readExponent, Prod.mk.injEq, true_and]
    omega
  · -- the point falls inside the digits
    refine ⟨0, ?_⟩
    have h := readUnsigned_split ((digitText s).take n.toNat)
      ((digitText s).drop n.toNat) [] (fun c hc => hd c (List.mem_of_mem_take hc))
      (fun c hc => hd c (List.mem_of_mem_drop hc)) (Or.inl rfl)
    rw [List.append_nil] at h
    rw [h, List.take_append_drop, readNat_digitText]
    simp only [readExponent, List.length_drop, pow_zero, mul_one, Prod.mk.injEq, true_and]
    omega
  · -- zeros after the point
    refine ⟨0, ?_⟩
    have h := readUnsigned_split ['0'] (List.replicate (-n).toNat '0' ++ digitText s) [] (hz 1)
      (fun c hc => (List.mem_append.mp hc).elim (hz _ c) (hd c)) (Or.inl rfl)
    rw [List.append_nil] at h
    have hread : readNat (['0'] ++ (List.replicate (-n).toNat '0' ++ digitText s)) = s := by
      rw [← List.append_assoc, ← List.replicate_one, List.replicate_append_replicate,
        readNat_zeros_append, readNat_digitText]
    have hcons : '0' :: '.' :: (List.replicate (-n).toNat '0' ++ digitText s) =
      ['0'] ++ '.' :: (List.replicate (-n).toNat '0' ++ digitText s) := rfl
    rw [hcons, h, hread]
    simp only [readExponent, List.length_append, List.length_replicate, pow_zero, mul_one,
      Prod.mk.injEq, true_and]
    omega
  · -- exponent notation
    refine ⟨0, ?_⟩
    have hr := readNat_digitText s
    cases hds : digitText s with
    | nil => exact absurd hds (digitText_ne_nil hs)
    | cons d ds =>
      rw [hds] at hr hd
      cases ds with
      | nil =>
        have h := readUnsigned_integral [d] (exponentText (n - 1)) hd
          (Or.inr ⟨_, rfl⟩)
        simp only [List.singleton_append] at h
        rw [h, hr, readExponent_exponentText]
        simp
      | cons d' ds =>
        have h := readUnsigned_split [d] (d' :: ds) (exponentText (n - 1))
          (fun c hc => hd c (by simp_all)) (fun c hc => hd c (List.mem_cons_of_mem _ hc))
          (Or.inr ⟨_, rfl⟩)
        simp only [List.singleton_append] at h
        rw [h, hr, readExponent_exponentText]
        simp only [List.length_cons, pow_zero, mul_one, Prod.mk.injEq, true_and]
        omega

/-- A number without trailing zero and its zeros are determined by their product. -/
theorem mul_pow_ten_inj {s t x y : ℕ} (hs : s % 10 ≠ 0) (ht : t % 10 ≠ 0)
    (h : s * 10 ^ x = t * 10 ^ y) : s = t ∧ x = y := by
  induction x generalizing y with
  | zero =>
    cases y with
    | zero => simpa using h
    | succ y => rw [pow_succ, ← mul_assoc] at h; omega
  | succ x ih =>
    cases y with
    | zero => rw [pow_succ, ← mul_assoc] at h; omega
    | succ y =>
      have h' : s * 10 ^ x = t * 10 ^ y := by
        rw [pow_succ, pow_succ, ← mul_assoc, ← mul_assoc] at h
        omega
      obtain ⟨hst, hxy⟩ := ih h'
      exact ⟨hst, by rw [hxy]⟩

/-- An unsigned token starts with a digit and holds token characters only. -/
theorem unsignedText_chars {s : ℕ} (hs : s ≠ 0) (n : ℤ) :
    (∃ c rest, unsignedText s n = c :: rest ∧ isDigit c = true) ∧
      ∀ c ∈ unsignedText s n, isTokenChar c = true := by
  have htok : ∀ c, isDigit c = true → isTokenChar c = true := fun c hc => by simp [isTokenChar, hc]
  have hex : ∀ e, ∀ c ∈ exponentText e, isTokenChar c = true := by
    intro e c hc
    simp only [exponentText, List.mem_cons] at hc
    rcases hc with rfl | rfl | hc
    · decide
    · split_ifs <;> decide
    · exact htok c (isDigit_of_mem_digitText hc)
  have hz : ∀ m, ∀ c ∈ List.replicate m '0', isTokenChar c = true := by
    intro m c hc
    rw [List.eq_of_mem_replicate hc]
    decide
  have hpoint : isTokenChar '.' = true := by decide
  cases hds : digitText s with
  | nil => exact absurd hds (digitText_ne_nil hs)
  | cons d ds =>
    have hd : ∀ c ∈ d :: ds, isDigit c = true := fun c hc =>
      isDigit_of_mem_digitText (hds ▸ hc)
    have hdt : ∀ c ∈ d :: ds, isTokenChar c = true := fun c hc => htok c (hd c hc)
    simp only [unsignedText, hds]
    split_ifs with h1 h2 h3
    · refine ⟨⟨d, _, rfl, hd d (by simp)⟩, fun c hc => ?_⟩
      exact (List.mem_append.mp hc).elim (hdt c) (hz _ c)
    · obtain ⟨k, hk⟩ : ∃ k, n.toNat = k + 1 := ⟨n.toNat - 1, by omega⟩
      rw [hk]
      refine ⟨⟨d, _, rfl, hd d (by simp)⟩, fun c hc => ?_⟩
      rcases List.mem_append.mp hc with h | h
      · exact hdt c (List.mem_of_mem_take h)
      · rcases List.mem_cons.mp h with rfl | h
        · exact hpoint
        · exact hdt c (List.mem_of_mem_drop h)
    · refine ⟨⟨'0', _, rfl, by decide⟩, fun c hc => ?_⟩
      rcases List.mem_cons.mp hc with rfl | hc
      · decide
      rcases List.mem_cons.mp hc with rfl | hc
      · exact hpoint
      exact (List.mem_append.mp hc).elim (hz _ c) (hdt c)
    · cases ds with
      | nil =>
        refine ⟨⟨d, _, rfl, hd d (by simp)⟩, fun c hc => ?_⟩
        rcases List.mem_cons.mp hc with rfl | hc
        · exact hdt c (by simp)
        · exact hex _ c hc
      | cons d' ds =>
        refine ⟨⟨d, _, rfl, hd d (by simp)⟩, fun c hc => ?_⟩
        rcases List.mem_cons.mp hc with rfl | hc
        · exact hdt c (by simp)
        rcases List.mem_cons.mp hc with rfl | hc
        · exact hpoint
        exact (List.mem_append.mp hc).elim
          (fun h => hdt c (List.mem_cons_of_mem _ h)) (hex _ c)

theorem toText_chars (x : JsNumber) :
    (∃ c rest, x.toText = c :: rest ∧ (isDigit c = true ∨ c = '-')) ∧
      ∀ c ∈ x.toText, isTokenChar c = true := by
  rw [toText]
  split_ifs with h0 hneg
  · exact ⟨⟨'0', [], rfl, Or.inl (by decide)⟩, by simp [isTokenChar, isDigit]⟩
  · refine ⟨⟨'-', _, rfl, Or.inr rfl⟩, fun c hc => ?_⟩
    rcases List.mem_cons.mp hc with rfl | hc
    · decide
    · exact (unsignedText_chars h0 x.n).2 c hc
  · obtain ⟨⟨c, rest, hc, hd⟩, hall⟩ := unsignedText_chars h0 x.n
    exact ⟨⟨c, rest, by simpa using hc, Or.inl hd⟩, by simpa using hall⟩

/-- Sign, mantissa and power of ten of a token. -/
def readToken : List Char → Bool × ℕ × ℤ
  | '-' :: t => (true, readUnsigned t)
  | t => (false, readUnsigned t)

theorem readToken_toText (x : JsNumber) :
    ∃ z : ℕ, (x.s = 0 → z = 0) ∧
      readToken x.toText = (x.neg, x.s * 10 ^ z, x.n - (digitText x.s).length - z) := by
  by_cases h0 : x.s = 0
  · obtain ⟨hneg, hn⟩ := (x.normal.resolve_left (by simp [h0])).2
    exact ⟨0, fun _ => rfl, by rw [toText, if_pos h0, h0, hneg, hn]; decide⟩
  obtain ⟨z, hz⟩ := readUnsigned_unsignedText h0 x.n
  refine ⟨z, fun h => absurd h h0, ?_⟩
  rw [toText, if_neg h0, ← hz]
  cases hneg : x.neg with
  | true => rfl
  | false =>
    obtain ⟨⟨c, rest, hc, hd⟩, -⟩ := unsignedText_chars h0 x.n
    have hsign : c ≠ '-' := by
      rintro rfl
      exact absurd hd (by decide)
    simp only [Bool.false_eq_true, if_false, List.nil_append, hc]
    rw [readToken]
    rintro t ht
    exact hsign (List.cons.inj ht).1

/-- Different numbers print differently. -/
theorem toText_injective : Function.Injective toText := by
  intro x y h
  obtain ⟨z, hz0, hz⟩ := readToken_toText x
  obtain ⟨w, hw0, hw⟩ := readToken_toText y
  rw [h, hw] at hz
  simp only [Prod.mk.injEq] at hz
  obtain ⟨hneg, hmul, hpow⟩ := hz
  have hs : x.s = y.s ∧ z = w := by
    by_cases hx : x.s = 0
    · have hy : y.s = 0 := by simpa [hx] using hmul
      exact ⟨hx.trans hy.symm, (hz0 hx).trans (hw0 hy).symm⟩
    · have hy : y.s ≠ 0 := fun hy => hx (by simpa [hy] using hmul.symm)
      exact mul_pow_ten_inj (x.normal.resolve_right fun hn => hx hn.1)
        (y.normal.resolve_right fun hn => hy hn.1) hmul.symm
  obtain ⟨hs, rfl⟩ := hs
  have hn : x.n = y.n := by rw [hs] at hpow; omega
  cases x
  cases y
  simp only at hneg hs hn
  subst hneg hs hn
  rfl

end JsNumber
end GhostBazaar.Js
