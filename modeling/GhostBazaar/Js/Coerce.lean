import GhostBazaar.Js.Date
import GhostBazaar.Js.Json
import GhostBazaar.Js.Map
import GhostBazaar.Js.Throw

/-! Property access and coercions that can throw, and the failures of the program's
functions: a refusal of their own, or an exception of the language. -/
namespace GhostBazaar.Js

inductive JsError where
  | typeError
  | rangeError
  | syntaxError
  | error (message : JsString)
  deriving DecidableEq

inductive Failure (ε : Type) where
  | refused (e : ε)
  | thrown (e : JsError)
  deriving DecidableEq

def liftThrown {ε α : Type} : Except JsError α → Except (Failure ε) α
  | .ok a => .ok a
  | .error e => .error (.thrown e)

@[simp] theorem liftThrown_eq_ok {ε α : Type} {x : Except JsError α} {a : α} :
    (liftThrown x : Except (Failure ε) α) = .ok a ↔ x = .ok a := by
  cases x <;> simp [liftThrown]

@[simp] theorem liftThrown_ne_refused {ε α : Type} {x : Except JsError α} {e : ε} :
    liftThrown x ≠ .error (.refused e) := by
  cases x <;> simp [liftThrown]

/-- `if (!p) throw`, for a refusal of the program. -/
def require {ε : Type} (p : Prop) [Decidable p] (e : ε) : Except (Failure ε) Unit :=
  ensure p (.refused e)

@[simp] theorem require_eq_ok {ε : Type} {p : Prop} [Decidable p] {e : ε} {u : Unit} :
    require p e = .ok u ↔ p := ensure_eq_ok

@[simp] theorem require_eq_refused {ε : Type} {p : Prop} [Decidable p] {e e' : ε} :
    require p e = .error (.refused e') ↔ ¬ p ∧ e = e' := by
  simp [require]

/-! ### Coercions -/

/-- `String(v)`. -/
def stringOf (v : JsValue) : Except JsError JsString := orThrow v.toJsString .typeError

/-- `pattern.test(v)`. -/
def regexTest (pattern : JsString → Bool) (v : JsValue) : Except JsError Bool :=
  (stringOf v).map pattern

/-- `Date.parse(v)`. -/
def dateParseOf (fallback : JsString → Option ℤ) (v : JsValue) : Except JsError (Option ℤ) :=
  (stringOf v).map (dateParse fallback)

/-- `v.method(…)` for a method that only strings have. -/
def asString (v : JsValue) : Except JsError JsString := orThrow v.asStr .typeError

@[simp] theorem asString_eq_ok {v : JsValue} {s : JsString} :
    asString v = .ok s ↔ v = some (.str s) := by
  rw [asString, orThrow_eq_ok, JsValue.asStr]
  cases v with
  | none => simp
  | some j => cases j <;> simp [Json.asStr]

theorem stringOf_str (s : JsString) : stringOf (some (.str s)) = .ok s := by
  simp [stringOf, JsValue.toJsString, Json.toJsString]

/-- `a ?? b`. -/
def orElse (a b : JsValue) : JsValue := if a.isNullish then b else a

/-- `v.key`, which throws when `v` is `null` or `undefined`. -/
def member (v : JsValue) (key : JsString) : Except JsError JsValue := do
  ensure (v.isNullish = false) .typeError
  return v.get? key

/-- `{ ...ms, key: value }`. -/
def spread (ms : Members) (key : JsString) (value : Json) : Members := JsMap.setEntries key value ms

theorem lookup_spread (ms : Members) (key k : JsString) (value : Json) :
    (spread ms key value).lookup k = if k = key then some value else ms.lookup k :=
  JsMap.lookup_setEntries key k value ms

/-! ### Text -/

def isDigitUnit (u : CodeUnit) : Bool := decide (48 ≤ u.val ∧ u.val ≤ 57)

/-- `[0-9a-f]` -/
def isLowerHex (u : CodeUnit) : Bool := isDigitUnit u || decide (97 ≤ u.val ∧ u.val ≤ 102)

/-- White space and line terminators. -/
def isSpaceUnit (u : CodeUnit) : Bool :=
  decide (u.val ∈ [9, 10, 11, 12, 13, 32, 160, 5760, 8232, 8233, 8239, 8287, 12288, 65279] ∨
    8192 ≤ u.val ∧ u.val ≤ 8202)

def trim (s : JsString) : JsString :=
  ((s.dropWhile isSpaceUnit).reverse.dropWhile isSpaceUnit).reverse

/-- The value of a text of decimal digits. -/
def digitsValue (s : JsString) : ℕ := s.foldl (fun n u => n * 10 + (u.val - 48)) 0

private theorem utf16Units_digitChar {d : ℕ} (h : d < 10) :
    utf16Units (digitChar d) = [Fin.ofNat 65536 (48 + d)] := by
  rw [utf16Units, digitChar_toNat h, if_pos (by omega)]

private theorem digitText_units (n : ℕ) : (digitText n).flatMap utf16Units =
    (Nat.digits 10 n).reverse.map fun d => Fin.ofNat 65536 (48 + d) := by
  have hd : ∀ d ∈ (Nat.digits 10 n).reverse, d < 10 := fun d hd =>
    Nat.digits_lt_base (by omega) (List.mem_reverse.mp hd)
  rw [digitText]
  generalize (Nat.digits 10 n).reverse = ds at hd
  induction ds with
  | nil => rfl
  | cons d ds ih =>
    rw [List.map_cons, List.flatMap_cons, utf16Units_digitChar (hd d (by simp)),
      ih fun e he => hd e (List.mem_cons_of_mem _ he)]
    rfl

/-- The text of a natural number is digits, and reads back. -/
theorem natText_digits (n : ℕ) : natText n ≠ [] ∧ (∀ u ∈ natText n, isDigitUnit u = true) ∧
    digitsValue (natText n) = n := by
  by_cases hn : n = 0
  · subst hn
    have hzero : natText 0 = [48] := rfl
    rw [hzero]
    exact ⟨List.cons_ne_nil _ _, by simp [isDigitUnit], rfl⟩
  rw [natText, if_neg hn, digitText_units]
  refine ⟨by simpa [Nat.digits_eq_nil_iff_eq_zero] using hn, ?_, ?_⟩
  · intro u hu
    obtain ⟨d, hd, rfl⟩ := List.mem_map.mp hu
    have hlt := Nat.digits_lt_base (b := 10) (by omega) (List.mem_reverse.mp hd)
    simp only [isDigitUnit, Fin.val_ofNat, decide_eq_true_eq]
    omega
  · rw [digitsValue, List.foldl_map, List.foldl_reverse]
    have hfold (ds : List ℕ) (hds : ∀ d ∈ ds, d < 10) :
        ds.foldr (fun d m => m * 10 + ((Fin.ofNat 65536 (48 + d)).val - 48)) 0 =
          Nat.ofDigits 10 ds := by
      induction ds with
      | nil => rfl
      | cons d ds ih =>
        have hd := hds d (by simp)
        have hval : (Fin.ofNat 65536 (48 + d)).val - 48 = d := by
          simp only [Fin.val_ofNat]
          omega
        rw [List.foldr_cons, ih fun e he => hds e (List.mem_cons_of_mem _ he), hval,
          Nat.ofDigits_cons]
        ring
    rw [hfold _ fun d hd => Nat.digits_lt_base (by omega) hd, Nat.ofDigits_digits]

/-- The code points of a string, a lone surrogate by itself. -/
def codePoints : JsString → List JsString
  | [] => []
  | [u] => [[u]]
  | u :: v :: s =>
    if isHighSurrogate u && isLowSurrogate v then [u, v] :: codePoints s
    else [u] :: codePoints (v :: s)

end GhostBazaar.Js
