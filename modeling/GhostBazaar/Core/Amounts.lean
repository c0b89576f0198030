import GhostBazaar.Js.Coerce

/-! Amounts: decimal texts, the decimals of the known mints, and integer micro-units. -/
namespace GhostBazaar.Core
open Js

/-- A value of the decimal library. -/
inductive Decimal where
  | nan
  | infinite (negative : Bool)
  | finite (q : ℚ)
  deriving DecidableEq

namespace Decimal

def isFinite : Decimal → Bool
  | finite _ => true
  | _ => false

/-- `d.gt(0)` -/
def gtZero : Decimal → Bool
  | nan => false
  | infinite negative => !negative
  | finite q => decide (0 < q)

end Decimal

/-- `newDecimal` is the constructor of the library, `none` when it throws. -/
def isValidDecimalPositive (newDecimal : JsValue → Option Decimal) (s : JsValue) : Bool :=
  match newDecimal s with
  | some d => d.gtZero && d.isFinite
  | none => false

/-- Mainnet and devnet USDC. -/
def MINT_DECIMALS : List (JsString × ℕ) :=
  [(js "EPjFWdd5AufqSSqeM2qN1xzybapC8G4wEGGkZwyTDt1v", 6),
    (js "4zMMC9srt5Ri5X14GAgXhaHii3GnPAEERYPJgZJDncDU", 6)]

def registerMint (mintDecimals : List (JsString × ℕ)) (mintAddress : JsString) (decimals : ℕ) :
    List (JsString × ℕ) := JsMap.setEntries mintAddress decimals mintDecimals

def isDigits (s : JsString) : Bool := !s.isEmpty && s.all isDigitUnit

/-- `/^\d+(\.\d+)?$/` -/
def isPlainDecimal (s : JsString) : Bool :=
  let (intPart, rest) := s.span (· ≠ 46)
  isDigits intPart && match rest with
    | [] => true
    | _ :: fracPart => isDigits fracPart

/-- The fraction is padded or cut to `decimals` digits. -/
def microUnits (s : JsString) (decimals : ℕ) : ℕ :=
  let (intPart, rest) := s.span (· ≠ 46)
  let fracPart := rest.drop 1
  digitsValue (intPart ++
    if fracPart.length < decimals then
      fracPart ++ List.replicate (decimals - fracPart.length) 48
    else fracPart.take decimals)

def normalizeWithDecimals (decimalStr : JsValue) (decimals : ℕ) : Except JsError ℕ := do
  let text ← stringOf decimalStr
  ensure (isPlainDecimal text) (.error (js "Invalid decimal string: \"" ++ text ++ js "\""))
  -- `split` is a method of strings only
  let s ← asString decimalStr
  return microUnits s decimals

def normalizeAmount (mintDecimals : List (JsString × ℕ)) (decimalStr : JsValue)
    (mintAddress : JsString) : Except JsError ℕ := do
  let decimals ← orThrow (mintDecimals.lookup mintAddress)
    (.error (js "Unknown mint address: \"" ++ mintAddress ++
      js "\". Register it with registerMint() first."))
  normalizeWithDecimals decimalStr decimals

theorem normalizeAmount_eq_ok {mintDecimals : List (JsString × ℕ)} {v : JsValue}
    {mint : JsString} {n : ℕ} :
    normalizeAmount mintDecimals v mint = .ok n ↔ ∃ decimals s,
      mintDecimals.lookup mint = some decimals ∧ v = some (.str s) ∧ isPlainDecimal s = true ∧
        n = microUnits s decimals := by
  simp only [normalizeAmount, normalizeWithDecimals, bind_eq_ok, orThrow_eq_ok, ensure_eq_ok,
    asString_eq_ok, pure_eq_ok]
  constructor
  · rintro ⟨decimals, hmint, text, htext, -, hplain, s, rfl, rfl⟩
    rw [stringOf_str, Except.ok.injEq] at htext
    exact ⟨decimals, s, hmint, rfl, htext ▸ hplain, rfl⟩
  · rintro ⟨decimals, s, hmint, rfl, hplain, rfl⟩
    exact ⟨decimals, hmint, s, stringOf_str s, (), hplain, s, rfl, rfl⟩

/-! ### Hashes -/

structure Digest where
  bytes : List UInt8
  length_eq : bytes.length = 32

def hexUnit (d : ℕ) : CodeUnit := Fin.ofNat 65536 (if d < 10 then 48 + d else 87 + d)

/-- `Buffer.from(bytes).toString("hex")`. -/
def hexText (bytes : List UInt8) : JsString :=
  bytes.flatMap fun b => [hexUnit (b.toNat / 16), hexUnit (b.toNat % 16)]

theorem isLowerHex_hexUnit : ∀ d, d < 16 → isLowerHex (hexUnit d) = true := by decide

theorem hexText_lowerHex (bytes : List UInt8) :
    (hexText bytes).length = 2 * bytes.length ∧ (hexText bytes).all isLowerHex = true := by
  induction bytes with
  | nil => exact ⟨rfl, rfl⟩
  | cons b bytes ih =>
    have hb := b.toNat_lt
    have hcons : hexText (b :: bytes) =
        hexUnit (b.toNat / 16) :: hexUnit (b.toNat % 16) :: hexText bytes := rfl
    rw [hcons]
    refine ⟨by simp only [List.length_cons, ih.1]; omega, ?_⟩
    simp only [List.all_cons, ih.2, isLowerHex_hexUnit _ (show b.toNat / 16 < 16 by omega),
      isLowerHex_hexUnit _ (show b.toNat % 16 < 16 by omega), Bool.and_self]

end GhostBazaar.Core
