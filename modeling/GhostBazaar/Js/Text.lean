import Mathlib.Data.Fin.Basic
import Mathlib.Data.List.Lex
import Mathlib.Data.List.Sort
import Mathlib.Data.Nat.Digits.Defs

/-! JavaScript strings as sequences of UTF-16 code units, with the string
methods the program calls. The order on `JsString` is the order of code units. -/
namespace GhostBazaar.Js

abbrev CodeUnit := Fin 65536

abbrev JsString := List CodeUnit

instance (priority := 2000) codeUnit_neZero : NeZero 65536 := ⟨by decide⟩

instance (priority := 2000) codeUnit_lawfulBEq : LawfulBEq CodeUnit := inferInstance

instance (priority := 2000) jsString_lawfulBEq : LawfulBEq JsString := inferInstance

def utf16Units (c : Char) : JsString :=
  if c.toNat < 0x10000 then [Fin.ofNat 65536 c.toNat]
  else [Fin.ofNat 65536 (0xD800 + (c.toNat - 0x10000) / 0x400),
    Fin.ofNat 65536 (0xDC00 + (c.toNat - 0x10000) % 0x400)]

/-! ### UTF-8 -/

/-- The code units of a code point. -/
def unitsOf (cp : ℕ) : JsString := utf16Units (Char.ofNat cp)

/-- A partly read sequence: its value so far, the bytes it needs, the range of the next. -/
structure Utf8State where
  codePoint : ℕ
  needed : ℕ
  lower : ℕ
  upper : ℕ

def Utf8State.initial : Utf8State := ⟨0, 0, 0x80, 0xBF⟩

/-- The first byte of a sequence, and what it emits at once. -/
def utf8Start (b : ℕ) : JsString × Utf8State :=
  if b < 0x80 then (unitsOf b, .initial)
  else if 0xC2 ≤ b ∧ b ≤ 0xDF then ([], ⟨b % 32, 1, 0x80, 0xBF⟩)
  else if 0xE0 ≤ b ∧ b ≤ 0xEF then
    ([], ⟨b % 16, 2, if b = 0xE0 then 0xA0 else 0x80, if b = 0xED then 0x9F else 0xBF⟩)
  else if 0xF0 ≤ b ∧ b ≤ 0xF4 then
    ([], ⟨b % 8, 3, if b = 0xF0 then 0x90 else 0x80, if b = 0xF4 then 0x8F else 0xBF⟩)
  else (unitsOf 0xFFFD, .initial)

/-- `Buffer.from(bytes).toString("utf-8")`: an ill-formed part reads as U+FFFD. -/
def utf8Decode (state : Utf8State) : List UInt8 → JsString
  | [] => if state.needed = 0 then [] else unitsOf 0xFFFD
  | b :: bs =>
    if state.needed = 0 then
      (utf8Start b.toNat).1 ++ utf8Decode (utf8Start b.toNat).2 bs
    else if state.lower ≤ b.toNat ∧ b.toNat ≤ state.upper then
      let codePoint := state.codePoint * 64 + b.toNat % 64
      if state.needed = 1 then unitsOf codePoint ++ utf8Decode .initial bs
      else utf8Decode ⟨codePoint, state.needed - 1, 0x80, 0xBF⟩ bs
    else unitsOf 0xFFFD ++ (utf8Start b.toNat).1 ++ utf8Decode (utf8Start b.toNat).2 bs

/-- The code units of a source literal. -/
def js (s : String) : JsString := utf8Decode .initial s.toByteArray.data.toList

def isHighSurrogate (u : CodeUnit) : Bool := decide (0xD800 ≤ u.val ∧ u.val < 0xDC00)

def isLowSurrogate (u : CodeUnit) : Bool := decide (0xDC00 ≤ u.val ∧ u.val < 0xE000)

/-- The character of a code unit that is not a surrogate. -/
def unitChar (u : CodeUnit) : Char := Char.ofNat u.val

/-- The supplementary character of a surrogate pair. -/
def pairChar (hi lo : CodeUnit) : Char :=
  Char.ofNat (0x10000 + (hi.val - 0xD800) * 0x400 + (lo.val - 0xDC00))

theorem toNat_charOfNat {n : ℕ} (h : n < 0xD800 ∨ (0xDFFF < n ∧ n < 0x110000)) :
    (Char.ofNat n).toNat = n := by
  have hv : n.isValidChar := h
  have hc : Char.ofNat n = Char.ofNatAux n hv := dif_pos hv
  rw [hc]
  rfl

theorem utf16Units_unitChar {u : CodeUnit} (hh : isHighSurrogate u = false)
    (hl : isLowSurrogate u = false) : utf16Units (unitChar u) = [u] := by
  have hu := u.isLt
  simp only [isHighSurrogate, isLowSurrogate, decide_eq_false_iff_not] at hh hl
  have hn : (unitChar u).toNat = u.val := toNat_charOfNat (by omega)
  simp [utf16Units, hn, hu]

theorem pairChar_toNat {hi lo : CodeUnit} (hh : isHighSurrogate hi = true)
    (hl : isLowSurrogate lo = true) :
    (pairChar hi lo).toNat = 0x10000 + (hi.val - 0xD800) * 0x400 + (lo.val - 0xDC00) := by
  simp only [isHighSurrogate, isLowSurrogate, decide_eq_true_eq] at hh hl
  exact toNat_charOfNat (by omega)

theorem utf16Units_pairChar {hi lo : CodeUnit} (hh : isHighSurrogate hi = true)
    (hl : isLowSurrogate lo = true) : utf16Units (pairChar hi lo) = [hi, lo] := by
  have hn := pairChar_toNat hh hl
  simp only [isHighSurrogate, isLowSurrogate, decide_eq_true_eq] at hh hl
  have hbig : ¬ (pairChar hi lo).toNat < 0x10000 := by omega
  have hhi : Fin.ofNat 65536 (0xD800 + ((pairChar hi lo).toNat - 0x10000) / 0x400) = hi :=
    Fin.ext (by simp only [Fin.val_ofNat]; omega)
  have hlo : Fin.ofNat 65536 (0xDC00 + ((pairChar hi lo).toNat - 0x10000) % 0x400) = lo :=
    Fin.ext (by simp only [Fin.val_ofNat]; omega)
  rw [utf16Units, if_neg hbig, hhi, hlo]

/-! ### Methods -/

/-- `s.startsWith(t)`. -/
def startsWith (s t : JsString) : Bool := t.isPrefixOf s

/-- `s.includes(t)`: a substring test. -/
def includes : JsString → JsString → Bool
  | [], t => t.isEmpty
  | u :: s, t => t.isPrefixOf (u :: s) || includes s t

theorem includes_iff (s t : JsString) : includes s t = true ↔ t <:+: s := by
  induction s with
  | nil => simp [includes]
  | cons u s ih => simp [includes, List.infix_cons_iff, ih]

/-! ### Decimal digits -/

def digitChar (d : ℕ) : Char := Char.ofNat (48 + d)

def digitVal (c : Char) : ℕ := c.toNat - 48

def isDigit (c : Char) : Bool := decide (48 ≤ c.toNat ∧ c.toNat ≤ 57)

theorem digitChar_toNat {d : ℕ} (h : d < 10) : (digitChar d).toNat = 48 + d :=
  toNat_charOfNat (by omega)

theorem digitVal_digitChar {d : ℕ} (h : d < 10) : digitVal (digitChar d) = d := by
  rw [digitVal, digitChar_toNat h]
  omega

theorem isDigit_digitChar {d : ℕ} (h : d < 10) : isDigit (digitChar d) = true := by
  simp only [isDigit, digitChar_toNat h, decide_eq_true_eq]
  omega

/-- Most significant digit first; empty for zero. -/
def digitText (n : ℕ) : List Char := (Nat.digits 10 n).reverse.map digitChar

def readNat (ds : List Char) : ℕ := Nat.ofDigits 10 (ds.reverse.map digitVal)

theorem isDigit_of_mem_digitText {n : ℕ} {c : Char} (h : c ∈ digitText n) :
    isDigit c = true := by
  obtain ⟨d, hd, rfl⟩ := List.mem_map.mp h
  exact isDigit_digitChar (Nat.digits_lt_base (by omega) (List.mem_reverse.mp hd))

theorem digitText_ne_nil {n : ℕ} (h : n ≠ 0) : digitText n ≠ [] := by
  simpa [digitText, Nat.digits_eq_nil_iff_eq_zero] using h

theorem map_digitVal_digitText (n : ℕ) : (digitText n).reverse.map digitVal = Nat.digits 10 n := by
  have hd : ∀ d ∈ Nat.digits 10 n, (digitVal ∘ digitChar) d = id d := fun d hd =>
    digitVal_digitChar (Nat.digits_lt_base (by omega) hd)
  rw [digitText, ← List.map_reverse, List.reverse_reverse, List.map_map,
    List.map_congr_left hd, List.map_id]

@[simp] theorem readNat_digitText (n : ℕ) : readNat (digitText n) = n := by
  rw [readNat, map_digitVal_digitText, Nat.ofDigits_digits]

theorem readNat_append_zeros (ds : List Char) (z : ℕ) :
    readNat (ds ++ List.replicate z '0') = readNat ds * 10 ^ z := by
  have hz : digitVal '0' = 0 := by decide
  simp only [readNat, List.reverse_append, List.reverse_replicate, List.map_append,
    List.map_replicate, hz, Nat.ofDigits_append, Nat.ofDigits_replicate_zero,
    List.length_replicate]
  ring

theorem readNat_zeros_append (z : ℕ) (ds : List Char) :
    readNat (List.replicate z '0' ++ ds) = readNat ds := by
  have hz : digitVal '0' = 0 := by decide
  simp only [readNat, List.reverse_append, List.reverse_replicate, List.map_append,
    List.map_replicate, hz, Nat.ofDigits_append_replicate_zero]

/-- `String(n)` for a natural number. -/
def natText (n : ℕ) : JsString :=
  if n = 0 then js "0" else (digitText n).flatMap utf16Units

end GhostBazaar.Js
