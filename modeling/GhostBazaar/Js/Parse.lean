import GhostBazaar.Js.Coerce
import GhostBazaar.Js.Property
import GhostBazaar.Js.Stringify

/-! `JSON.parse`, and that it reads back what `JSON.stringify` wrote. A number literal is
read exactly; the literals of a double's own text need no rounding. -/
namespace GhostBazaar.Js

/-- The code units of a text. -/
def textUnits (t : List Char) : JsString := t.flatMap utf16Units

@[simp] theorem textUnits_append (t t' : List Char) :
    textUnits (t ++ t') = textUnits t ++ textUnits t' := List.flatMap_append

/-! ### Numbers -/

namespace JsNumber

/-- `m * 10 ^ e` with a sign; a negative zero is zero. -/
def ofDecimal (neg : Bool) (m : ℕ) (e : ℤ) : JsNumber :=
  if h : (ofNat m).s % 10 = 0 then zero else ⟨neg, (ofNat m).s, (ofNat m).n + e, Or.inl h⟩

theorem ofDecimal_mul_pow_ten (neg : Bool) {s : ℕ} (hs : s % 10 ≠ 0) (z : ℕ) (e : ℤ) :
    ofDecimal neg (s * 10 ^ z) e =
      ⟨neg, s, (Nat.digits 10 s).length + z + e, Or.inl hs⟩ := by
  have hval : (ofNat (s * 10 ^ z)).s = s := by rw [ofNat_mul_pow_ten hs]
  rw [ofDecimal, dif_neg (by rw [hval]; exact hs)]
  simp only [ofNat_mul_pow_ten hs]

end JsNumber

def readSign : JsString → Bool × JsString
  | u :: s => if u = 45 then (true, s) else (false, u :: s)
  | [] => (false, [])

/-- `.` and digits, or nothing. -/
def readFraction : JsString → Option (JsString × JsString)
  | u :: s =>
    if u = 46 then
      if (s.span isDigitUnit).1 = [] then none else some (s.span isDigitUnit)
    else some ([], u :: s)
  | [] => some ([], [])

def readExponentDigits (neg : Bool) (s : JsString) : Option (ℤ × JsString) :=
  if (s.span isDigitUnit).1 = [] then none
  else some ((if neg then -1 else 1) * digitsValue (s.span isDigitUnit).1,
    (s.span isDigitUnit).2)

/-- `e` or `E`, a sign and digits, or nothing. -/
def readExponentPart : JsString → Option (ℤ × JsString)
  | u :: s =>
    if u = 101 ∨ u = 69 then
      match s with
      | v :: t => if v = 43 then readExponentDigits false t
        else if v = 45 then readExponentDigits true t else readExponentDigits false (v :: t)
      | [] => none
    else some (0, u :: s)
  | [] => some (0, [])

def readNumber (s : JsString) : Option (JsNumber × JsString) :=
  let (neg, s) := readSign s
  let (int, s) := s.span isDigitUnit
  if int ≠ [] ∧ (int.length = 1 ∨ int.head? ≠ some 48) then do
    let (frac, s) ← readFraction s
    let (e, s) ← readExponentPart s
    return (.ofDecimal neg (digitsValue (int ++ frac)) (e - frac.length), s)
  else none

/-! ### Strings -/

def hexUnitVal (u : CodeUnit) : Option ℕ :=
  if isDigitUnit u then some (u.val - 48)
  else if 97 ≤ u.val ∧ u.val ≤ 102 then some (u.val - 87)
  else if 65 ≤ u.val ∧ u.val ≤ 70 then some (u.val - 55)
  else none

def readHex (a b c d : CodeUnit) : Option CodeUnit := do
  let a ← hexUnitVal a
  let b ← hexUnitVal b
  let c ← hexUnitVal c
  let d ← hexUnitVal d
  return Fin.ofNat 65536 (a * 4096 + b * 256 + c * 16 + d)

/-- The escapes of one character after the backslash. -/
def simpleEscape (u : CodeUnit) : Option CodeUnit :=
  if u = 34 ∨ u = 92 ∨ u = 47 then some u
  else if u = 98 then some 8 else if u = 102 then some 12 else if u = 110 then some 10
  else if u = 114 then some 13 else if u = 116 then some 9 else none

/-- A string literal after its opening quote. -/
def readString : JsString → Option (JsString × JsString)
  | [] => none
  | u :: s =>
    if u = 34 then some ([], s)
    else if u = 92 then
      match s with
      | [] => none
      | e :: s =>
        if e = 117 then
          match s with
          | a :: b :: c :: d :: s =>
            match readHex a b c d, readString s with
            | some v, some (text, rest) => some (v :: text, rest)
            | _, _ => none
          | _ => none
        else
          match simpleEscape e, readString s with
          | some v, some (text, rest) => some (v :: text, rest)
          | _, _ => none
    else if u.val < 32 then none
    else (readString s).map fun p => (u :: p.1, p.2)

/-! ### Values -/

def isJsonSpace (u : CodeUnit) : Bool := decide (u = 32 ∨ u = 9 ∨ u = 10 ∨ u = 13)

def skipSpace (s : JsString) : JsString := s.dropWhile isJsonSpace

/-- The object of the members in the order of the text: the last member of a name counts,
at the place of the first. -/
def objectOf (ms : Members) : Members :=
  enumerate (ms.foldl (fun o m => JsMap.setEntries m.1 m.2 o) [])

/-- A key and its colon. -/
def readKey (s : JsString) : Option (JsString × JsString) :=
  match skipSpace s with
  | u :: s => if u = 34 then do
      let (key, s) ← readString s
      let s ← expect [58] (skipSpace s)
      return (key, s)
    else none
  | [] => none

mutual
/-- A value at the head of a text. Each call of a recursion has read a character or more,
so the length of the text is fuel enough. -/
def readValue : ℕ → JsString → Option (Json × JsString)
  | 0, _ => none
  | fuel + 1, s =>
    match skipSpace s with
    | [] => none
    | u :: s =>
      if u = 34 then (readString s).map fun p => (.str p.1, p.2)
      else if u = 91 then
        match expect [93] (skipSpace s) with
        | some s => some (.arr [], s)
        | none => (readElems fuel s).map fun p => (.arr p.1, p.2)
      else if u = 123 then
        match expect [125] (skipSpace s) with
        | some s => some (.obj [], s)
        | none => (readMembers fuel s).map fun p => (.obj (objectOf p.1), p.2)
      else if u = 110 then (expect (js "ull") s).map fun s => (.null, s)
      else if u = 116 then (expect (js "rue") s).map fun s => (.bool true, s)
      else if u = 102 then (expect (js "alse") s).map fun s => (.bool false, s)
      else (readNumber (u :: s)).map fun p => (.num p.1, p.2)
def readElems : ℕ → JsString → Option (List Json × JsString)
  | 0, _ => none
  | fuel + 1, s =>
    match readValue fuel s with
    | none => none
    | some (x, s) =>
      match skipSpace s with
      | [] => none
      | u :: s =>
        if u = 44 then (readElems fuel s).map fun p => (x :: p.1, p.2)
        else if u = 93 then some ([x], s)
        else none
def readMembers : ℕ → JsString → Option (Members × JsString)
  | 0, _ => none
  | fuel + 1, s =>
    match readKey s with
    | none => none
    | some (key, s) =>
      match readValue fuel s with
      | none => none
      | some (v, s) =>
        match skipSpace s with
        | [] => none
        | u :: s =>
          if u = 44 then (readMembers fuel s).map fun p => ((key, v) :: p.1, p.2)
          else if u = 125 then some ([(key, v)], s)
          else none
end

/-- `JSON.parse(text)`, `none` for a `SyntaxError`. -/
def parse (text : JsString) : Option Json := do
  let (v, rest) ← readValue (text.length + 1) text
  guard (skipSpace rest = [])
  return v

/-! ### Reading a printed number -/

/-- What may follow a value in a text that `JSON.stringify` wrote. -/
def Closes (r : JsString) : Prop := ∀ u s, r = u :: s → u = 44 ∨ u = 93 ∨ u = 125

theorem closes_nil : Closes [] := nofun

theorem closes_cons {u : CodeUnit} {s : JsString} (h : u = 44 ∨ u = 93 ∨ u = 125) :
    Closes (u :: s) := by
  rintro v t heq
  rwa [← (List.cons.inj heq).1]

theorem Closes.head {r : JsString} (h : Closes r) :
    r = [] ∨ ∃ u s, r = u :: s ∧ (u = 44 ∨ u = 93 ∨ u = 125) := by
  cases r with
  | nil => exact Or.inl rfl
  | cons u s => exact Or.inr ⟨u, s, rfl, h u s rfl⟩

/-- A run of digits ends where something else begins. -/
theorem span_digits {ds r : JsString} (hd : ∀ u ∈ ds, isDigitUnit u = true)
    (hr : ∀ u s, r = u :: s → isDigitUnit u = false) : (ds ++ r).span isDigitUnit = (ds, r) := by
  rw [List.span_eq_takeWhile_dropWhile, List.takeWhile_append_of_pos hd,
    List.dropWhile_append_of_pos hd]
  cases r with
  | nil => simp
  | cons u s => simp [hr u s rfl]

/-- The parts of a number token. -/
structure NumberToken where
  neg : Bool
  int : JsString
  frac : JsString
  exponent : Option ℤ

namespace NumberToken

def exponentUnits : Option ℤ → JsString
  | none => []
  | some e => 101 :: (if 0 ≤ e then 43 else 45) :: natText e.natAbs

/-- The token without its sign. -/
def body (t : NumberToken) : JsString :=
  t.int ++ ((if t.frac = [] then [] else 46 :: t.frac) ++ exponentUnits t.exponent)

def units (t : NumberToken) : JsString := (if t.neg then [45] else []) ++ t.body

structure Valid (t : NumberToken) : Prop where
  int : ∀ u ∈ t.int, isDigitUnit u = true
  frac : ∀ u ∈ t.frac, isDigitUnit u = true
  nonempty : t.int ≠ []
  leading : t.int.length = 1 ∨ t.int.head? ≠ some 48

def value (t : NumberToken) : JsNumber :=
  .ofDecimal t.neg (digitsValue (t.int ++ t.frac)) (t.exponent.getD 0 - t.frac.length)

end NumberToken

theorem readExponentDigits_natText (neg : Bool) (n : ℕ) {r : JsString} (hr : Closes r) :
    readExponentDigits neg (natText n ++ r) = some ((if neg then -1 else 1) * (n : ℤ), r) := by
  obtain ⟨hne, hdigits, hvalue⟩ := natText_digits n
  have hspan := span_digits hdigits (r := r) fun u s h => by
    rcases hr u s h with rfl | rfl | rfl <;> rfl
  rw [readExponentDigits, hspan, if_neg hne, hvalue]

theorem readExponentPart_units (e : Option ℤ) {r : JsString} (hr : Closes r) :
    readExponentPart (NumberToken.exponentUnits e ++ r) = some (e.getD 0, r) := by
  cases e with
  | none =>
    rcases hr.head with rfl | ⟨u, s, rfl, hu⟩
    · rfl
    · have hne : ¬ (u = 101 ∨ u = 69) := by rcases hu with rfl | rfl | rfl <;> decide
      simp [NumberToken.exponentUnits, readExponentPart, hne]
  | some e =>
    by_cases he : 0 ≤ e
    · have hsign : (if 0 ≤ e then (43 : CodeUnit) else 45) = 43 := if_pos he
      have hval : ((if false = true then -1 else 1) * (e.natAbs : ℤ)) = e := by
        simp only [Bool.false_eq_true, if_false, one_mul]
        omega
      simp only [NumberToken.exponentUnits, hsign, List.cons_append, readExponentPart, true_or,
        if_true, readExponentDigits_natText _ _ hr, hval, Option.getD_some]
    · have hsign : (if 0 ≤ e then (43 : CodeUnit) else 45) = 45 := if_neg he
      have hne : ¬ (45 : CodeUnit) = 43 := by decide
      have hval : -1 * (e.natAbs : ℤ) = e := by omega
      simp only [NumberToken.exponentUnits, hsign, List.cons_append, readExponentPart, true_or,
        if_true, if_neg hne, readExponentDigits_natText _ _ hr, hval, Option.getD_some]

theorem exponentUnits_head {e : Option ℤ} {r : JsString} (hr : Closes r) {u : CodeUnit}
    {s : JsString} (h : NumberToken.exponentUnits e ++ r = u :: s) :
    isDigitUnit u = false ∧ u ≠ 46 := by
  cases e with
  | none =>
    rcases hr u s h with rfl | rfl | rfl <;> decide
  | some e =>
    rw [NumberToken.exponentUnits, List.cons_append, List.cons.injEq] at h
    rw [← h.1]
    decide

theorem readFraction_units {frac : JsString} (hf : ∀ u ∈ frac, isDigitUnit u = true)
    {e : Option ℤ} {r : JsString} (hr : Closes r) :
    readFraction ((if frac = [] then [] else 46 :: frac) ++
      (NumberToken.exponentUnits e ++ r)) =
        some (frac, NumberToken.exponentUnits e ++ r) := by
  by_cases hfrac : frac = []
  · rw [hfrac, if_pos rfl, List.nil_append]
    cases hrest : NumberToken.exponentUnits e ++ r with
    | nil => rfl
    | cons u s => rw [readFraction, if_neg (exponentUnits_head hr hrest).2]
  · have hspan := span_digits hf fun u s h => (exponentUnits_head (e := e) hr h).1
    rw [if_neg hfrac, List.cons_append, readFraction, if_pos rfl, hspan, if_neg hfrac]

theorem readNumber_units {t : NumberToken} (ht : t.Valid) {r : JsString} (hr : Closes r) :
    readNumber (t.units ++ r) = some (t.value, r) := by
  obtain ⟨neg, int, frac, e⟩ := t
  obtain ⟨hint, hfrac, hne, hlead⟩ := ht
  simp only at hint hfrac hne hlead
  have hsign : readSign ((if neg = true then [45] else []) ++ (int ++
      ((if frac = [] then [] else 46 :: frac) ++ (NumberToken.exponentUnits e ++ r)))) =
        (neg, int ++ ((if frac = [] then [] else 46 :: frac) ++
          (NumberToken.exponentUnits e ++ r))) := by
    cases neg with
    | true => rfl
    | false =>
      obtain ⟨u, int, rfl⟩ := List.exists_cons_of_ne_nil hne
      have hu : u ≠ 45 := by
        rintro rfl
        exact absurd (hint 45 (by simp)) (by decide)
      simp [readSign, hu]
  have hspan := span_digits (r := (if frac = [] then [] else 46 :: frac) ++
      (NumberToken.exponentUnits e ++ r)) hint fun u s h => by
    by_cases hf : frac = []
    · rw [hf, if_pos rfl, List.nil_append] at h
      exact (exponentUnits_head hr h).1
    · rw [if_neg hf, List.cons_append, List.cons.injEq] at h
      rw [← h.1]
      decide
  simp only [NumberToken.units, NumberToken.body, List.append_assoc, readNumber, hsign, hspan]
  rw [if_pos ⟨hne, hlead⟩]
  simp only [readFraction_units hfrac hr, readExponentPart_units e hr, Option.bind_eq_bind,
    Option.bind_some, NumberToken.value]
  rfl

theorem textUnits_digit_cons {c : Char} (hc : isDigit c = true) (t : List Char) :
    textUnits (c :: t) = Fin.ofNat 65536 c.toNat :: textUnits t := by
  simp only [isDigit, decide_eq_true_eq] at hc
  rw [textUnits, List.flatMap_cons, utf16Units, if_pos (by omega)]
  rfl

theorem textUnits_digits {t : List Char} (h : ∀ c ∈ t, isDigit c = true) :
    textUnits t = t.map fun c => Fin.ofNat 65536 c.toNat := by
  induction t with
  | nil => rfl
  | cons c t ih =>
    rw [textUnits_digit_cons (h c (by simp)), List.map_cons,
      ih fun d hd => h d (List.mem_cons_of_mem _ hd)]

theorem digitsValue_append_zeros (ds : JsString) (z : ℕ) :
    digitsValue (ds ++ List.replicate z 48) = digitsValue ds * 10 ^ z := by
  induction z with
  | zero => simp
  | succ z ih =>
    rw [List.replicate_succ', ← List.append_assoc, digitsValue, List.foldl_append,
      ← digitsValue, ih, pow_succ]
    simp [mul_assoc]

theorem digitsValue_zeros_append (z : ℕ) (ds : JsString) :
    digitsValue (List.replicate z 48 ++ ds) = digitsValue ds := by
  induction z with
  | zero => rfl
  | succ z ih => simpa [List.replicate_succ, digitsValue] using ih

/-- The digits of a positive number, most significant first. -/
theorem digitText_parts {s : ℕ} (hs : s ≠ 0) : textUnits (digitText s) = natText s ∧
    (natText s).length = (Nat.digits 10 s).length ∧ (digitText s).length = (natText s).length ∧
      (natText s).head? ≠ some 48 := by
  have hdigit : ∀ c ∈ digitText s, isDigit c = true := fun c => isDigit_of_mem_digitText
  have htext : textUnits (digitText s) = natText s := by rw [natText, if_neg hs, textUnits]
  have hlen : (natText s).length = (digitText s).length := by
    rw [← htext, textUnits_digits hdigit, List.length_map]
  refine ⟨htext, by rw [hlen, digitText]; simp, hlen.symm, ?_⟩
  have hne : Nat.digits 10 s ≠ [] := by simpa [Nat.digits_eq_nil_iff_eq_zero] using hs
  have hlast := Nat.getLast_digit_ne_zero 10 hs
  have hlt : (Nat.digits 10 s).getLast hne < 10 :=
    Nat.digits_lt_base (by omega) (List.getLast_mem hne)
  rw [← htext, textUnits_digits hdigit, digitText, List.head?_map, List.head?_map,
    List.head?_reverse, List.getLast?_eq_some_getLast hne]
  simp only [Option.map_some, ne_eq, Option.some.injEq, Fin.ext_iff, digitChar_toNat hlt]
  simp only [Fin.val_ofNat]
  intro h
  have : (48 + (Nat.digits 10 s).getLast hne) % 65536 = 48 := h
  omega

/-- A positive number prints as a token of its value. -/
theorem unsignedText_token {s : ℕ} (hs : s % 10 ≠ 0) (n : ℤ) (neg : Bool) :
    ∃ t : NumberToken, t.Valid ∧ t.neg = neg ∧ textUnits (JsNumber.unsignedText s n) = t.body ∧
      t.value = ⟨neg, s, n, Or.inl hs⟩ := by
  have hs0 : s ≠ 0 := by omega
  obtain ⟨htext, hlen, hchars, hhead⟩ := digitText_parts hs0
  obtain ⟨hne, hdigits, hvalue⟩ := natText_digits s
  have hdigit : ∀ c ∈ digitText s, isDigit c = true := fun c => isDigit_of_mem_digitText
  have hmap := (textUnits_digits hdigit).symm.trans htext
  have hzeros : ∀ z, textUnits (List.replicate z '0') = List.replicate z 48 := by
    intro z
    induction z with
    | zero => rfl
    | succ z ih => rw [List.replicate_succ, List.replicate_succ, ← ih]; rfl
  have hz : ∀ z, ∀ u ∈ List.replicate z (48 : CodeUnit), isDigitUnit u = true := by
    intro z u hu
    rw [List.eq_of_mem_replicate hu]
    decide
  simp only [JsNumber.unsignedText]
  split_ifs with h1 h2 h3
  · -- an integer, zeros appended
    refine ⟨⟨neg, natText s ++ List.replicate (n - (digitText s).length).toNat 48, [], none⟩,
      ⟨fun u hu => (List.mem_append.mp hu).elim (hdigits u) (hz _ u), by simp, by simp [hne], ?_⟩,
      rfl, ?_, ?_⟩
    · exact Or.inr (by rw [List.head?_append_of_ne_nil _ hne]; exact hhead)
    · simp [NumberToken.body, NumberToken.exponentUnits, htext, hzeros]
    · have hval : digitsValue (natText s ++ List.replicate (n - (digitText s).length).toNat 48 ++
          []) = s * 10 ^ (n - (digitText s).length).toNat := by
        rw [List.append_nil, digitsValue_append_zeros, hvalue]
      simp only [NumberToken.value, hval, JsNumber.ofDecimal_mul_pow_ten neg hs,
        JsNumber.mk.injEq, true_and, Option.getD_none, List.length_nil]
      omega
  · -- the point falls inside the digits
    have htake : textUnits ((digitText s).take n.toNat) = (natText s).take n.toNat := by
      rw [textUnits_digits fun c hc => hdigit c (List.mem_of_mem_take hc), List.map_take, hmap]
    have hdrop : textUnits ((digitText s).drop n.toNat) = (natText s).drop n.toNat := by
      rw [textUnits_digits fun c hc => hdigit c (List.mem_of_mem_drop hc), List.map_drop, hmap]
    have hrest : (natText s).drop n.toNat ≠ [] := by
      rw [ne_eq, List.drop_eq_nil_iff]
      omega
    have hcons : ∀ t, textUnits ('.' :: t) = 46 :: textUnits t := fun t => rfl
    refine ⟨⟨neg, (natText s).take n.toNat, (natText s).drop n.toNat, none⟩,
      ⟨fun u hu => hdigits u (List.mem_of_mem_take hu),
        fun u hu => hdigits u (List.mem_of_mem_drop hu), ?_, ?_⟩, rfl, ?_, ?_⟩
    · simp only [ne_eq, List.take_eq_nil_iff, hne, or_false]
      omega
    · exact Or.inr (by rw [List.head?_take, if_neg (by omega)]; exact hhead)
    · simp [NumberToken.body, NumberToken.exponentUnits, htake, hdrop, hrest, hcons]
    · have hval : digitsValue ((natText s).take n.toNat ++ (natText s).drop n.toNat) =
          s * 10 ^ 0 := by rw [List.take_append_drop, hvalue, pow_zero, mul_one]
      simp only [NumberToken.value, hval, JsNumber.ofDecimal_mul_pow_ten neg hs,
        JsNumber.mk.injEq, true_and, Option.getD_none, List.length_drop]
      omega
  · -- zeros after the point
    have hcons : ∀ t, textUnits ('0' :: '.' :: t) = 48 :: 46 :: textUnits t := fun t => rfl
    refine ⟨⟨neg, [48], List.replicate (-n).toNat 48 ++ natText s, none⟩,
      ⟨by simp [isDigitUnit], fun u hu => (List.mem_append.mp hu).elim (hz _ u) (hdigits u),
        by simp, Or.inl rfl⟩, rfl, ?_, ?_⟩
    · simp [NumberToken.body, NumberToken.exponentUnits, htext, hzeros, hcons, hne]
    · have hval : digitsValue ([48] ++ (List.replicate (-n).toNat 48 ++ natText s)) =
          s * 10 ^ 0 := by
        rw [← List.append_assoc, ← List.replicate_one, List.replicate_append_replicate,
          digitsValue_zeros_append, hvalue, pow_zero, mul_one]
      simp only [NumberToken.value, hval, JsNumber.ofDecimal_mul_pow_ten neg hs,
        JsNumber.mk.injEq, true_and, Option.getD_none, List.length_append, List.length_replicate]
      omega
  · -- exponent notation
    have hexp : textUnits (JsNumber.exponentText (n - 1)) =
        NumberToken.exponentUnits (some (n - 1)) := by
      have htext' : textUnits (digitText (n - 1).natAbs) = natText (n - 1).natAbs :=
        (digitText_parts (by omega)).1
      rw [JsNumber.exponentText, NumberToken.exponentUnits, ← htext']
      by_cases he : 0 ≤ n - 1
      · rw [if_pos he, if_pos he]; rfl
      · rw [if_neg he, if_neg he]; rfl
    cases hds : digitText s with
    | nil => exact absurd hds (digitText_ne_nil hs0)
    | cons d ds =>
      have hd : isDigit d = true := hdigit d (by simp [hds])
      have hcons : natText s = Fin.ofNat 65536 d.toNat :: textUnits ds := by
        rw [← htext, hds, textUnits_digit_cons hd]
      refine ⟨⟨neg, [Fin.ofNat 65536 d.toNat], textUnits ds, some (n - 1)⟩,
        ⟨fun u hu => hdigits u (by simp_all), fun u hu => hdigits u (by simp [hcons, hu]),
          by simp, Or.inl rfl⟩, rfl, ?_, ?_⟩
      · cases ds with
        | nil => simp only [textUnits_digit_cons hd, hexp]; rfl
        | cons c ds =>
          have hc : isDigit c = true := hdigit c (by simp [hds])
          have hpoint : ∀ t, textUnits ('.' :: t) = 46 :: textUnits t := fun t => rfl
          simp [NumberToken.body, textUnits_digit_cons hd, hpoint, textUnits_digit_cons hc, hexp]
      · have hint : digitsValue ([Fin.ofNat 65536 d.toNat] ++ textUnits ds) = s * 10 ^ 0 := by
          rw [List.singleton_append, ← hcons, hvalue, pow_zero, mul_one]
        have hcount : (textUnits ds).length + 1 = (Nat.digits 10 s).length := by
          rw [← hlen, hcons, List.length_cons]
        simp only [NumberToken.value, hint, JsNumber.ofDecimal_mul_pow_ten neg hs,
          JsNumber.mk.injEq, true_and, Option.getD_some]
        omega

theorem toText_token (x : JsNumber) :
    ∃ t : NumberToken, t.Valid ∧ textUnits x.toText = t.units ∧ t.value = x := by
  obtain ⟨neg, s, n, hnormal⟩ := x
  by_cases hs : s = 0
  · obtain ⟨hneg, hn⟩ := (hnormal.resolve_left (by simp [hs])).2
    subst hs hneg hn
    exact ⟨⟨false, [48], [], none⟩, ⟨by simp [isDigitUnit], by simp, by simp, Or.inl rfl⟩, rfl, rfl⟩
  · have hmod : s % 10 ≠ 0 := hnormal.resolve_right fun h => hs h.1
    obtain ⟨t, ht, rfl, htext, hvalue⟩ := unsignedText_token hmod n neg
    refine ⟨t, ht, ?_, hvalue⟩
    rw [JsNumber.toText, if_neg hs, textUnits_append, htext, NumberToken.units]
    have hsign : ∀ b : Bool, textUnits (if b = true then ['-'] else []) =
        if b = true then [45] else [] := by decide
    rw [hsign]

theorem readNumber_toText (x : JsNumber) {r : JsString} (hr : Closes r) :
    readNumber (textUnits x.toText ++ r) = some (x, r) := by
  obtain ⟨t, ht, htext, hvalue⟩ := toText_token x
  rw [htext, readNumber_units ht hr, hvalue]

/-! ### Reading a printed string -/

theorem hexUnitVal_hexDigit : ∀ d, d < 16 →
    hexUnitVal (Fin.ofNat 65536 (hexDigit d).toNat) = some d := by decide

theorem readString_plain {u : CodeUnit} (hlow : ¬ u.val < 32) (hq : u.val ≠ 34) (hb : u.val ≠ 92)
    (s : JsString) : readString (u :: s) = (readString s).map fun p => (u :: p.1, p.2) := by
  have hq' : u ≠ 34 := fun h => hq (by rw [h]; rfl)
  have hb' : u ≠ 92 := fun h => hb (by rw [h]; rfl)
  rw [readString.eq_def]
  simp only [hq', if_false, hb', hlow]

theorem readString_escape {e v : CodeUnit} (he : e ≠ 117) (hv : simpleEscape e = some v)
    (s : JsString) : readString (92 :: e :: s) = (readString s).map fun p => (v :: p.1, p.2) := by
  have hq : ¬ (92 : CodeUnit) = 34 := by decide
  rw [readString.eq_def]
  simp only [hq, if_false, if_true, he, hv]
  cases readString s <;> rfl

theorem readString_unicode (u : CodeUnit) (s : JsString) :
    readString (textUnits (unicodeEscape u) ++ s) =
      (readString s).map fun p => (u :: p.1, p.2) := by
  have hu := u.isLt
  have hunits : ∀ d, d < 16 → utf16Units (hexDigit d) = [Fin.ofNat 65536 (hexDigit d).toNat] := by
    decide
  have hval : Fin.ofNat 65536 (u.val / 4096 * 4096 + u.val / 256 % 16 * 256 +
      u.val / 16 % 16 * 16 + u.val % 16) = u := Fin.ext (by simp only [Fin.val_ofNat]; omega)
  have htext : textUnits (unicodeEscape u) = [92, 117,
      Fin.ofNat 65536 (hexDigit (u.val / 4096)).toNat,
      Fin.ofNat 65536 (hexDigit (u.val / 256 % 16)).toNat,
      Fin.ofNat 65536 (hexDigit (u.val / 16 % 16)).toNat,
      Fin.ofNat 65536 (hexDigit (u.val % 16)).toNat] := by
    simp only [unicodeEscape, textUnits, List.flatMap_cons,
      hunits _ (show u.val / 4096 < 16 by omega),
      hunits _ (show u.val / 256 % 16 < 16 by omega), hunits _ (show u.val / 16 % 16 < 16 by omega),
      hunits _ (show u.val % 16 < 16 by omega), List.flatMap_nil]
    rfl
  rw [htext]
  simp only [List.cons_append, List.nil_append]
  rw [readString, if_neg (by decide), if_pos rfl]
  simp only [if_true, readHex, hexUnitVal_hexDigit _ (show u.val / 4096 < 16 by omega),
    hexUnitVal_hexDigit _ (show u.val / 256 % 16 < 16 by omega),
    hexUnitVal_hexDigit _ (show u.val / 16 % 16 < 16 by omega),
    hexUnitVal_hexDigit _ (show u.val % 16 < 16 by omega), Option.bind_eq_bind, Option.bind_some,
    Option.pure_def, hval]
  cases readString s <;> rfl

theorem readString_escapeUnit (u : CodeUnit) (s : JsString) :
    readString (textUnits (escapeUnit u) ++ s) =
      (readString s).map fun p => (u :: p.1, p.2) := by
  have special {k : CodeUnit} (h : u.val = k.val) : u = k := Fin.ext h
  rw [escapeUnit]
  split_ifs with h8 h9 h10 h12 h13 h34 h92 hesc
  · rw [special (k := 8) h8]; exact readString_escape (e := 98) (by decide) rfl s
  · rw [special (k := 9) h9]; exact readString_escape (e := 116) (by decide) rfl s
  · rw [special (k := 10) h10]; exact readString_escape (e := 110) (by decide) rfl s
  · rw [special (k := 12) h12]; exact readString_escape (e := 102) (by decide) rfl s
  · rw [special (k := 13) h13]; exact readString_escape (e := 114) (by decide) rfl s
  · rw [special (k := 34) h34]; exact readString_escape (e := 34) (by decide) rfl s
  · rw [special (k := 92) h92]; exact readString_escape (e := 92) (by decide) rfl s
  · exact readString_unicode u s
  · simp only [not_or, Bool.not_eq_true] at hesc
    obtain ⟨hlow, hh, hl⟩ := hesc
    have htext : textUnits [unitChar u] = [u] := by
      rw [textUnits, List.flatMap_cons, utf16Units_unitChar hh hl, List.flatMap_nil]
      rfl
    rw [htext, List.singleton_append, readString_plain hlow h34 h92]

theorem readString_quoteUnits (s r : JsString) :
    readString (textUnits (quoteUnits s) ++ 34 :: r) = some (s, r) := by
  have hend : readString (34 :: r) = some ([], r) := by
    rw [readString.eq_def]
    simp only [if_true]
  induction s using quoteUnits.induct with
  | case1 => exact hend
  | case2 u => rw [quoteUnits, readString_escapeUnit, hend]; rfl
  | case3 u v s hpair ih =>
    have hh := hpair.1
    have hl := hpair.2
    have htext : textUnits (pairChar u v :: quoteUnits s) = u :: v :: textUnits (quoteUnits s) := by
      rw [textUnits, List.flatMap_cons, utf16Units_pairChar hh hl]
      rfl
    simp only [isHighSurrogate, isLowSurrogate, decide_eq_true_eq] at hh hl
    rw [quoteUnits, if_pos hpair, htext, List.cons_append, List.cons_append,
      readString_plain (by omega) (by omega) (by omega),
      readString_plain (by omega) (by omega) (by omega), ih]
    rfl
  | case4 u v s hpair ih =>
    rw [quoteUnits, if_neg hpair, textUnits_append, List.append_assoc, readString_escapeUnit, ih]
    rfl

/-! ### Reading a printed value -/

mutual
/-- Every object has distinct keys, in the order in which the language enumerates them. -/
def Json.Ordinary : Json → Prop
  | .arr xs => OrdinaryElems xs
  | .obj ms => (ms.map Prod.fst).Nodup ∧ enumerate ms = ms ∧ OrdinaryMembers ms
  | _ => True
def Json.OrdinaryElems : List Json → Prop
  | [] => True
  | x :: xs => x.Ordinary ∧ Json.OrdinaryElems xs
def Json.OrdinaryMembers : Members → Prop
  | [] => True
  | (_, v) :: ms => v.Ordinary ∧ Json.OrdinaryMembers ms
end

mutual
/-- The value with every object filled anew from its members. -/
def Json.rebuild : Json → Json
  | .arr xs => .arr (Json.rebuildElems xs)
  | .obj ms => .obj (objectOf (Json.rebuildMembers ms))
  | v => v
def Json.rebuildElems : List Json → List Json
  | [] => []
  | x :: xs => x.rebuild :: Json.rebuildElems xs
def Json.rebuildMembers : Members → Members
  | [] => []
  | (k, v) :: ms => (k, v.rebuild) :: Json.rebuildMembers ms
end

theorem skipSpace_cons {u : CodeUnit} (h : isJsonSpace u = false) (s : JsString) :
    skipSpace (u :: s) = u :: s := by
  rw [skipSpace, List.dropWhile_cons_of_neg (by simp [h])]

theorem foldl_setEntries (ms o : Members) (hm : (ms.map Prod.fst).Nodup)
    (ho : ∀ m ∈ ms, m.1 ∉ o.map Prod.fst) :
    ms.foldl (fun o m => JsMap.setEntries m.1 m.2 o) o = o ++ ms := by
  induction ms generalizing o with
  | nil => simp
  | cons m ms ih =>
    simp only [List.map_cons, List.nodup_cons] at hm
    rw [List.foldl_cons, JsMap.setEntries_of_notMem (ho m (by simp)), ih _ hm.2, List.append_assoc]
    · rfl
    · exact JsMap.notMem_keys_snoc hm.1 (fun n hn => ho n (List.mem_cons_of_mem _ hn)) m.2

theorem objectOf_ordinary {ms : Members} (hm : (ms.map Prod.fst).Nodup)
    (he : enumerate ms = ms) : objectOf ms = ms := by
  rw [objectOf, foldl_setEntries ms [] hm (by simp), List.nil_append, he]

mutual
theorem Json.rebuild_ordinary : (v : Json) → v.Ordinary → v.rebuild = v
  | .null, _ | .bool _, _ | .num _, _ | .str _, _ => rfl
  | .arr xs, h => by rw [Json.rebuild, Json.rebuildElems_ordinary xs h]
  | .obj ms, h => by
    rw [Json.rebuild, Json.rebuildMembers_ordinary ms h.2.2, objectOf_ordinary h.1 h.2.1]
theorem Json.rebuildElems_ordinary : (xs : List Json) → Json.OrdinaryElems xs →
    Json.rebuildElems xs = xs
  | [], _ => rfl
  | x :: xs, h => by
    rw [Json.rebuildElems, Json.rebuild_ordinary x h.1, Json.rebuildElems_ordinary xs h.2]
theorem Json.rebuildMembers_ordinary : (ms : Members) → Json.OrdinaryMembers ms →
    Json.rebuildMembers ms = ms
  | [], _ => rfl
  | (k, v) :: ms, h => by
    rw [Json.rebuildMembers, Json.rebuild_ordinary v h.1, Json.rebuildMembers_ordinary ms h.2]
end

/-- A printed number starts with a digit or a minus sign. -/
theorem toText_head (x : JsNumber) :
    ∃ u s, textUnits x.toText = u :: s ∧ (u = 45 ∨ isDigitUnit u = true) := by
  obtain ⟨t, ht, htext, -⟩ := toText_token x
  obtain ⟨u, int, hint⟩ := List.exists_cons_of_ne_nil ht.nonempty
  rw [htext, NumberToken.units, NumberToken.body, hint]
  cases t.neg with
  | true => exact ⟨45, _, rfl, Or.inl rfl⟩
  | false => exact ⟨u, _, rfl, Or.inr (ht.int u (by simp [hint]))⟩

theorem not_digit_unit {u : CodeUnit} (h : u = 45 ∨ isDigitUnit u = true) {v : CodeUnit}
    (hv : v ≠ 45) (hd : isDigitUnit v = false) : u ≠ v := by
  rintro rfl
  rcases h with h | h
  · exact hv h
  · rw [h] at hd
    exact Bool.noConfusion hd

/-- A printed value does not start like white space or the end of a list or object. -/
theorem stringify_head (v : Json) : ∃ u s, textUnits (stringify v) = u :: s ∧
    isJsonSpace u = false ∧ u ≠ 93 ∧ u ≠ 125 := by
  match v with
  | .null => exact ⟨110, _, rfl, by decide⟩
  | .bool true => exact ⟨116, _, rfl, by decide⟩
  | .bool false => exact ⟨102, _, rfl, by decide⟩
  | .num x =>
    obtain ⟨u, s, hu, hd⟩ := toText_head x
    refine ⟨u, s, by rw [stringify, hu], ?_, not_digit_unit hd (by decide) (by decide),
      not_digit_unit hd (by decide) (by decide)⟩
    simp only [isJsonSpace, decide_eq_false_iff_not, not_or]
    exact ⟨not_digit_unit hd (by decide) (by decide), not_digit_unit hd (by decide) (by decide),
      not_digit_unit hd (by decide) (by decide), not_digit_unit hd (by decide) (by decide)⟩
  | .str s => exact ⟨34, _, rfl, by decide⟩
  | .arr [] => exact ⟨91, _, rfl, by decide⟩
  | .arr (_ :: _) => exact ⟨91, _, rfl, by decide⟩
  | .obj [] => exact ⟨123, _, rfl, by decide⟩
  | .obj ((_, _) :: _) => exact ⟨123, _, rfl, by decide⟩

theorem expect_self (u : CodeUnit) (s : JsString) : expect [u] (u :: s) = some s :=
  expect_append [u] s

theorem expect_ne {u v : CodeUnit} (h : u ≠ v) (s : JsString) : expect [v] (u :: s) = none := by
  simp [expect, startsWith, List.isPrefixOf, Ne.symm h]

theorem readKey_quote (k t : JsString) :
    readKey (textUnits (quote k) ++ 58 :: t) = some (k, t) := by
  have htext : textUnits (quote k) ++ 58 :: t =
      34 :: (textUnits (quoteUnits k) ++ 34 :: 58 :: t) := by
    have hcons : ∀ u, textUnits ('"' :: u) = 34 :: textUnits u := fun u => rfl
    have hend : textUnits ['"'] = [34] := rfl
    rw [quote, hcons, textUnits_append, hend]
    simp
  rw [htext, readKey, skipSpace_cons (by decide)]
  simp only [if_true, readString_quoteUnits, Option.bind_eq_bind, Option.bind_some]
  rw [skipSpace_cons (by decide), expect_self]
  rfl

/-- The elements of a printed list, up to and with its closing bracket. -/
def elemsText : List Json → JsString
  | [] => []
  | x :: xs => textUnits (stringify x) ++ textUnits (stringifyElems xs)

def membersText : Members → JsString
  | [] => []
  | (k, v) :: ms =>
    textUnits (quote k) ++ 58 :: (textUnits (stringify v) ++ textUnits (stringifyMembers ms))

theorem textUnits_stringifyElems (xs : List Json) :
    textUnits (stringifyElems xs) = if xs = [] then [93] else 44 :: elemsText xs := by
  cases xs with
  | nil => rfl
  | cons x xs =>
    have hcons : ∀ t, textUnits (',' :: t) = 44 :: textUnits t := fun t => rfl
    rw [stringifyElems, hcons, textUnits_append, if_neg (by simp), elemsText]

theorem textUnits_stringifyMembers (ms : Members) :
    textUnits (stringifyMembers ms) = if ms = [] then [125] else 44 :: membersText ms := by
  match ms with
  | [] => rfl
  | (k, v) :: ms =>
    have hcons : ∀ t, textUnits (',' :: t) = 44 :: textUnits t := fun t => rfl
    have hcolon : ∀ t, textUnits (':' :: t) = 58 :: textUnits t := fun t => rfl
    rw [stringifyMembers, hcons, textUnits_append, hcolon, textUnits_append, if_neg (by simp),
      membersText]

theorem textUnits_arr {xs : List Json} (h : xs ≠ []) :
    textUnits (stringify (.arr xs)) = 91 :: elemsText xs := by
  obtain ⟨x, xs, rfl⟩ := List.exists_cons_of_ne_nil h
  have hcons : ∀ t, textUnits ('[' :: t) = 91 :: textUnits t := fun t => rfl
  rw [stringify, hcons, textUnits_append, elemsText]

theorem textUnits_obj {ms : Members} (h : ms ≠ []) :
    textUnits (stringify (.obj ms)) = 123 :: membersText ms := by
  obtain ⟨⟨k, v⟩, ms, rfl⟩ := List.exists_cons_of_ne_nil h
  have hcons : ∀ t, textUnits ('\x7b' :: t) = 123 :: textUnits t := fun t => rfl
  have hcolon : ∀ t, textUnits (':' :: t) = 58 :: textUnits t := fun t => rfl
  rw [stringify, hcons, textUnits_append, hcolon, textUnits_append, membersText]

theorem readValue_arr (fuel : ℕ) (s : JsString) : readValue (fuel + 1) (91 :: s) =
    match expect [93] (skipSpace s) with
    | some s => some (.arr [], s)
    | none => (readElems fuel s).map fun p => (.arr p.1, p.2) := by
  rw [readValue, skipSpace_cons (by decide)]
  simp

theorem readValue_obj (fuel : ℕ) (s : JsString) : readValue (fuel + 1) (123 :: s) =
    match expect [125] (skipSpace s) with
    | some s => some (.obj [], s)
    | none => (readMembers fuel s).map fun p => (.obj (objectOf p.1), p.2) := by
  rw [readValue, skipSpace_cons (by decide)]
  simp

mutual
theorem readValue_stringify : (v : Json) → (fuel : ℕ) → (r : JsString) → Closes r →
    (textUnits (stringify v)).length < fuel →
      readValue fuel (textUnits (stringify v) ++ r) = some (v.rebuild, r)
  | v, 0, r, hr, hfuel => absurd hfuel (Nat.not_lt_zero _)
  | .null, fuel + 1, r, _, _ => by
    have htext : textUnits (stringify .null) ++ r = 110 :: (js "ull" ++ r) := rfl
    rw [htext, readValue, skipSpace_cons (by decide)]
    simp [expect_append, Json.rebuild]
  | .bool true, fuel + 1, r, _, _ => by
    have htext : textUnits (stringify (.bool true)) ++ r = 116 :: (js "rue" ++ r) := rfl
    rw [htext, readValue, skipSpace_cons (by decide)]
    simp [expect_append, Json.rebuild]
  | .bool false, fuel + 1, r, _, _ => by
    have htext : textUnits (stringify (.bool false)) ++ r = 102 :: (js "alse" ++ r) := rfl
    rw [htext, readValue, skipSpace_cons (by decide)]
    simp [expect_append, Json.rebuild]
  | .num x, fuel + 1, r, hr, _ => by
    obtain ⟨u, s, hu, hspace, -, -⟩ := stringify_head (.num x)
    obtain ⟨u', s', hu', hd⟩ := toText_head x
    have hsame := hu
    rw [stringify, hu', List.cons.injEq] at hsame
    obtain ⟨rfl, rfl⟩ := hsame
    have hread := readNumber_toText x hr
    rw [hu', List.cons_append] at hread
    rw [hu, List.cons_append, readValue, skipSpace_cons hspace]
    simp only [not_digit_unit hd (show (34 : CodeUnit) ≠ 45 by decide) (by decide),
      not_digit_unit hd (show (91 : CodeUnit) ≠ 45 by decide) (by decide),
      not_digit_unit hd (show (123 : CodeUnit) ≠ 45 by decide) (by decide),
      not_digit_unit hd (show (110 : CodeUnit) ≠ 45 by decide) (by decide),
      not_digit_unit hd (show (116 : CodeUnit) ≠ 45 by decide) (by decide),
      not_digit_unit hd (show (102 : CodeUnit) ≠ 45 by decide) (by decide), if_false, hread]
    rfl
  | .str s, fuel + 1, r, _, _ => by
    have hcons : ∀ u, textUnits ('"' :: u) = 34 :: textUnits u := fun u => rfl
    have hend : textUnits ['"'] ++ r = 34 :: r := rfl
    rw [stringify, quote, hcons, textUnits_append, List.cons_append, List.append_assoc, hend,
      readValue, skipSpace_cons (by decide)]
    simp only [if_true, readString_quoteUnits]
    rfl
  | .arr xs, fuel + 1, r, _, hfuel => by
    by_cases hxs : xs = []
    · subst hxs
      have htext : textUnits (stringify (.arr [])) ++ r = 91 :: 93 :: r := rfl
      rw [htext, readValue_arr, skipSpace_cons (by decide), expect_self]
      rfl
    · rw [textUnits_arr hxs, List.length_cons] at hfuel
      have helems := readElems_stringify xs fuel r hxs (by omega)
      obtain ⟨x, ys, rfl⟩ := List.exists_cons_of_ne_nil hxs
      obtain ⟨u, s, hu, hspace, hne, -⟩ := stringify_head x
      have hfirst : expect [93] (skipSpace (elemsText (x :: ys) ++ r)) = none := by
        rw [elemsText, hu, List.cons_append, List.cons_append, skipSpace_cons hspace,
          expect_ne hne]
      rw [textUnits_arr hxs, List.cons_append, readValue_arr, hfirst, helems]
      rfl
  | .obj ms, fuel + 1, r, _, hfuel => by
    by_cases hms : ms = []
    · subst hms
      have htext : textUnits (stringify (.obj [])) ++ r = 123 :: 125 :: r := rfl
      rw [htext, readValue_obj, skipSpace_cons (by decide), expect_self]
      rfl
    · rw [textUnits_obj hms, List.length_cons] at hfuel
      have hmembers := readMembers_stringify ms fuel r hms (by omega)
      obtain ⟨⟨k, v⟩, ns, rfl⟩ := List.exists_cons_of_ne_nil hms
      have hquote : ∀ t, textUnits (quote k) ++ t = 34 :: (textUnits (quoteUnits k ++ ['"']) ++ t) :=
        fun t => rfl
      have hfirst : expect [125] (skipSpace (membersText ((k, v) :: ns) ++ r)) = none := by
        rw [membersText, hquote, List.cons_append, skipSpace_cons (by decide),
          expect_ne (by decide)]
      rw [textUnits_obj hms, List.cons_append, readValue_obj, hfirst, hmembers]
      rfl
theorem readElems_stringify : (xs : List Json) → (fuel : ℕ) →
    (r : JsString) → xs ≠ [] → (elemsText xs).length < fuel →
      readElems fuel (elemsText xs ++ r) = some (Json.rebuildElems xs, r)
  | xs, 0, r, _, hfuel => absurd hfuel (Nat.not_lt_zero _)
  | [], fuel + 1, r, hxs, _ => absurd rfl hxs
  | x :: xs, fuel + 1, r, _, hfuel => by
    have hlen := hfuel
    rw [elemsText, List.length_append, textUnits_stringifyElems] at hlen
    have hrest : Closes (textUnits (stringifyElems xs) ++ r) := by
      rw [textUnits_stringifyElems]
      split_ifs
      · exact closes_cons (by decide)
      · exact closes_cons (by decide)
    have hx : (textUnits (stringify x)).length < fuel := by
      split_ifs at hlen <;> simp only [List.length_cons] at hlen <;> omega
    rw [elemsText, List.append_assoc, readElems, readValue_stringify x fuel _ hrest hx,
      textUnits_stringifyElems]
    by_cases hxs : xs = []
    · subst hxs
      simp only [if_true, List.singleton_append]
      rw [skipSpace_cons (by decide)]
      simp [Json.rebuildElems]
    · rw [if_neg hxs, List.length_cons] at hlen
      have hind := readElems_stringify xs fuel r hxs (by omega)
      simp only [if_neg hxs, List.cons_append]
      rw [skipSpace_cons (by decide)]
      simp [hind, Json.rebuildElems]
theorem readMembers_stringify : (ms : Members) → (fuel : ℕ) →
    (r : JsString) → ms ≠ [] → (membersText ms).length < fuel →
      readMembers fuel (membersText ms ++ r) = some (Json.rebuildMembers ms, r)
  | ms, 0, r, _, hfuel => absurd hfuel (Nat.not_lt_zero _)
  | [], fuel + 1, r, hms, _ => absurd rfl hms
  | (k, v) :: ms, fuel + 1, r, _, hfuel => by
    have hlen := hfuel
    rw [membersText, List.length_append, List.length_cons, List.length_append,
      textUnits_stringifyMembers] at hlen
    have hrest : Closes (textUnits (stringifyMembers ms) ++ r) := by
      rw [textUnits_stringifyMembers]
      split_ifs
      · exact closes_cons (by decide)
      · exact closes_cons (by decide)
    have hx : (textUnits (stringify v)).length < fuel := by omega
    have hread := readValue_stringify v fuel _ hrest hx
    rw [membersText, List.append_assoc, List.cons_append, List.append_assoc, readMembers,
      readKey_quote]
    simp only [hread]
    rw [textUnits_stringifyMembers]
    by_cases hms : ms = []
    · subst hms
      simp only [if_true, List.singleton_append]
      rw [skipSpace_cons (by decide)]
      simp [Json.rebuildMembers]
    · rw [if_neg hms, List.length_cons] at hlen
      have hind := readMembers_stringify ms fuel r hms (by omega)
      simp only [if_neg hms, List.cons_append]
      rw [skipSpace_cons (by decide)]
      simp [hind, Json.rebuildMembers]
end

theorem parse_stringify_rebuild (v : Json) : parse (textUnits (stringify v)) = some v.rebuild := by
  have hread := readValue_stringify v _ [] closes_nil
    (Nat.lt_succ_self (textUnits (stringify v)).length)
  rw [List.append_nil] at hread
  rw [parse, hread]
  rfl

/-- `JSON.parse(JSON.stringify(v))` is `v`. -/
theorem parse_stringify {v : Json} (h : v.Ordinary) :
    parse (textUnits (stringify v)) = some v := by
  rw [parse_stringify_rebuild, v.rebuild_ordinary h]

/-! ### What is read -/

theorem ordinaryMembers_iff {ms : Members} :
    Json.OrdinaryMembers ms ↔ ∀ m ∈ ms, m.2.Ordinary := by
  induction ms with
  | nil => simp [Json.OrdinaryMembers]
  | cons m ms ih =>
    obtain ⟨k, v⟩ := m
    rw [Json.OrdinaryMembers, ih, List.forall_mem_cons]

theorem mem_setEntries {k : JsString} {v : Json} {o : Members} {m : JsString × Json}
    (h : m ∈ JsMap.setEntries k v o) : m = (k, v) ∨ m ∈ o := by
  induction o with
  | nil => simpa [JsMap.setEntries] using h
  | cons n o ih =>
    rw [JsMap.setEntries] at h
    split_ifs at h with hk
    · rcases List.mem_cons.mp h with h | h
      · exact Or.inl h
      · exact Or.inr (List.mem_cons_of_mem _ h)
    · rcases List.mem_cons.mp h with h | h
      · exact Or.inr (by simp [h])
      · exact (ih h).imp_right (List.mem_cons_of_mem _)

theorem objectOf_isOrdinary {ms : Members} (h : Json.OrdinaryMembers ms) :
    (Json.obj (objectOf ms)).Ordinary := by
  have hfill : ∀ (ms o : Members), Json.OrdinaryMembers ms →
      (o.map Prod.fst).Nodup ∧ Json.OrdinaryMembers o →
      ((ms.foldl (fun o m => JsMap.setEntries m.1 m.2 o) o).map Prod.fst).Nodup ∧
        Json.OrdinaryMembers (ms.foldl (fun o m => JsMap.setEntries m.1 m.2 o) o) := by
    intro ms
    induction ms with
    | nil => exact fun o _ ho => ho
    | cons m ms ih =>
      intro o hms ho
      rw [ordinaryMembers_iff, List.forall_mem_cons, ← ordinaryMembers_iff] at hms
      refine ih _ hms.2 ⟨JsMap.nodup_setEntries ho.1, ordinaryMembers_iff.mpr fun n hn => ?_⟩
      rcases mem_setEntries hn with rfl | hn
      · exact hms.1
      · exact ordinaryMembers_iff.mp ho.2 n hn
  obtain ⟨hnodup, hmembers⟩ := hfill ms [] h ⟨List.nodup_nil, trivial⟩
  have hperm := enumerate_perm (ms.foldl (fun o m => JsMap.setEntries m.1 m.2 o) [])
  refine ⟨(hperm.map Prod.fst).nodup_iff.mpr hnodup, enumerate_enumerate _, ?_⟩
  exact ordinaryMembers_iff.mpr fun m hm => ordinaryMembers_iff.mp hmembers m (hperm.mem_iff.mp hm)

/-- Every value that is read is one that the printer reads back. -/
theorem read_ordinary (fuel : ℕ) :
    (∀ s v r, readValue fuel s = some (v, r) → v.Ordinary) ∧
    (∀ s xs r, readElems fuel s = some (xs, r) → Json.OrdinaryElems xs) ∧
    (∀ s ms r, readMembers fuel s = some (ms, r) → Json.OrdinaryMembers ms) := by
  induction fuel with
  | zero => exact ⟨nofun, nofun, nofun⟩
  | succ fuel ih =>
    obtain ⟨hvalue, helems, hmembers⟩ := ih
    refine ⟨fun s v r h => ?_, fun s xs r h => ?_, fun s ms r h => ?_⟩
    · rw [readValue] at h
      split at h
      · cases h
      · split_ifs at h
        · obtain ⟨p, -, hp⟩ := Option.map_eq_some_iff.mp h
          cases hp
          trivial
        · split at h
          · cases h
            trivial
          · obtain ⟨p, hp, heq⟩ := Option.map_eq_some_iff.mp h
            cases heq
            exact helems _ _ _ hp
        · split at h
          · cases h
            exact ⟨List.nodup_nil, rfl, trivial⟩
          · obtain ⟨p, hp, heq⟩ := Option.map_eq_some_iff.mp h
            cases heq
            exact objectOf_isOrdinary (hmembers _ _ _ hp)
        all_goals
          obtain ⟨p, -, hp⟩ := Option.map_eq_some_iff.mp h
          cases hp
          trivial
    · rw [readElems] at h
      split at h
      · cases h
      · rename_i x s' hx
        split at h
        · cases h
        · split_ifs at h
          · obtain ⟨p, hp, heq⟩ := Option.map_eq_some_iff.mp h
            cases heq
            exact ⟨hvalue _ _ _ hx, helems _ _ _ hp⟩
          · cases h
            exact ⟨hvalue _ _ _ hx, trivial⟩
    · rw [readMembers] at h
      split at h
      · cases h
      · split at h
        · cases h
        · rename_i v s'' hv
          split at h
          · cases h
          · split_ifs at h
            · obtain ⟨p, hp, heq⟩ := Option.map_eq_some_iff.mp h
              cases heq
              exact ⟨hvalue _ _ _ hv, hmembers _ _ _ hp⟩
            · cases h
              exact ⟨hvalue _ _ _ hv, trivial⟩

theorem parse_ordinary {text : JsString} {v : Json} (h : parse text = some v) : v.Ordinary := by
  simp only [parse, Option.bind_eq_bind, Option.bind_eq_some_iff] at h
  obtain ⟨⟨w, rest⟩, hread, -, -, hv⟩ := h
  cases hv
  exact (read_ordinary _).1 _ _ _ hread

end GhostBazaar.Js
