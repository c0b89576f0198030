import GhostBazaar.Js.Coerce
import GhostBazaar.Js.Property

/-! Reading a transaction as the RPC returns it: its token transfer and its memo. Public
keys are their base58 texts. -/
namespace GhostBazaar.Settlement
open Js

def TOKEN_PROGRAM_ID : JsString := js "TokenkegQfeZyiNwAJbNbGKPFXCWuBvf9Ss623VQ5DA"

def MEMO_PROGRAM_V2 : JsString := js "MemoSq4gqABAXKb96qnH8TysNcWxMyWCqXgDLGmfcHr"

def MEMO_PROGRAM_V1 : JsString := js "Memo1UhkJBfCR1EPHNqwLDxhZMM2Yfc3G2YfZeVMQwE1"

/-! ### Access to untyped values -/

/-- `for (const x of v)`. -/
def iterate : JsValue → Except JsError (List Json)
  | some (.arr xs) => .ok xs
  | some (.str s) => .ok ((codePoints s).map .str)
  | _ => .error .typeError

def iterateIfTruthy (v : JsValue) : Except JsError (List Json) :=
  if v.isTruthy then iterate v else .ok []

/-- The first result of a loop that returns from its body. -/
def findFirst {α β : Type} (f : α → Except JsError (Option β)) : List α → Except JsError (Option β)
  | [] => .ok none
  | x :: xs => do
    match ← f x with
    | some y => return some y
    | none => findFirst f xs

/-- `v?.toString?.()`. -/
def callToString (v : JsValue) : Except JsError JsValue :=
  match v with
  | none | some .null => .ok none
  | some (.obj ms) =>
    match ms.lookup (js "toString") with
    | none => .ok (some (.str (js "[object Object]")))
    | some .null => .ok none
    | some _ => .error .typeError
  | some v => (stringOf (some v)).map fun s => some (.str s)

/-- The own property of a value under a key. What a value only inherits is a function or a
prototype: it gives no text of an account and throws nothing, just as an absent property. -/
def ownProperty (v : JsValue) (key : JsString) : JsValue :=
  match v with
  | some (.obj ms) => ms.lookup key
  | some (.arr xs) =>
    if key = js "length" then some (.num (.ofNat xs.length))
    else (arrayIndex? key).bind fun n => xs[n]?
  | some (.str s) =>
    if key = js "length" then some (.num (.ofNat s.length))
    else ((arrayIndex? key).bind fun n => s[n]?).map fun u => .str [u]
  | _ => none

/-- `v[i]` for a `v` that is not nullish: any index is read as a text. -/
def element (v i : JsValue) : Except JsError JsValue := (stringOf i).map (ownProperty v)

/-- `v[i]` for a literal index. -/
def elementAt (v : JsValue) (i : ℕ) : Except JsError JsValue := do
  ensure (v.isNullish = false) .typeError
  return ownProperty v (natText i)

/-- The texts of numbers, and other texts that are indices, name the same elements. -/
example : element (some (.arr [.str (js "k")])) (some (.str (js "0"))) =
    element (some (.arr [.str (js "k")])) (some (.num (.ofNat 0))) := rfl

/-! ### Integers -/

/-- The value of a hexadecimal digit, of either case. -/
def hexValue (u : CodeUnit) : Option ℕ :=
  if isDigitUnit u then some (u.val - 48)
  else if 97 ≤ u.val ∧ u.val ≤ 102 then some (u.val - 87)
  else if 65 ≤ u.val ∧ u.val ≤ 70 then some (u.val - 55)
  else none

def readRadix (radix : ℕ) (s : JsString) : Option ℕ :=
  if s = [] then none
  else s.foldl (fun acc u => do
    let n ← acc
    let d ← hexValue u
    if d < radix then some (n * radix + d) else none) (some 0)

/-- `StringToBigInt`. -/
def stringToBigInt (s : JsString) : Option ℤ :=
  let s := trim s
  if s = [] then some 0
  else if startsWith s (js "0x") || startsWith s (js "0X") then
    (readRadix 16 (s.drop 2)).map fun n => (n : ℤ)
  else if startsWith s (js "0o") || startsWith s (js "0O") then
    (readRadix 8 (s.drop 2)).map fun n => (n : ℤ)
  else if startsWith s (js "0b") || startsWith s (js "0B") then
    (readRadix 2 (s.drop 2)).map fun n => (n : ℤ)
  else if startsWith s (js "-") then (readRadix 10 (s.drop 1)).map fun n => -(n : ℤ)
  else if startsWith s (js "+") then (readRadix 10 (s.drop 1)).map fun n => (n : ℤ)
  else (readRadix 10 s).map fun n => (n : ℤ)

private theorem readRadix_foldl {s : JsString} (hs : ∀ u ∈ s, isDigitUnit u = true) (n : ℕ) :
    s.foldl (fun acc u => do
      let n ← acc
      let d ← hexValue u
      if d < 10 then some (n * 10 + d) else none) (some n) =
      some (s.foldl (fun n u => n * 10 + (u.val - 48)) n) := by
  induction s generalizing n with
  | nil => rfl
  | cons u s ih =>
    have hu := hs u (by simp)
    have hlt : u.val - 48 < 10 := by
      simp only [isDigitUnit, decide_eq_true_eq] at hu
      omega
    rw [List.foldl_cons, List.foldl_cons, ← ih (fun v hv => hs v (List.mem_cons_of_mem _ hv))]
    simp [hexValue, hu, hlt]

private theorem dropWhile_eq_self {s : JsString} (hs : ∀ u ∈ s, isDigitUnit u = true) :
    s.dropWhile isSpaceUnit = s := by
  cases s with
  | nil => rfl
  | cons u s =>
    have hu := hs u (by simp)
    have hspace : isSpaceUnit u = false := by
      simp only [isDigitUnit, isSpaceUnit, decide_eq_true_eq, decide_eq_false_iff_not,
        List.mem_cons, List.not_mem_nil, or_false] at hu ⊢
      omega
    rw [List.dropWhile_cons_of_neg (by simp [hspace])]

/-- `BigInt(n.toString())` is `n`. -/
theorem stringToBigInt_natText (n : ℕ) : stringToBigInt (natText n) = some (n : ℤ) := by
  obtain ⟨hne, hdig, hval⟩ := natText_digits n
  generalize natText n = s at *
  have htrim : trim s = s := by
    rw [trim, dropWhile_eq_self hdig, dropWhile_eq_self (by simpa using hdig), List.reverse_reverse]
  have hstart (c : CodeUnit) (cs : JsString) (hc : isDigitUnit c = false) :
      startsWith s (c :: cs) = false := by
    cases s with
    | nil => rfl
    | cons u s =>
      have hne : c ≠ u := fun h => by
        rw [h, hdig u (by simp)] at hc
        simp at hc
      simp [startsWith, List.isPrefixOf, beq_false_of_ne hne]
  have hzero (c : CodeUnit) (hc : isDigitUnit c = false) : startsWith s [48, c] = false := by
    rcases s with _ | ⟨u, _ | ⟨v, s⟩⟩
    · rfl
    · simp [startsWith, List.isPrefixOf]
    · have hne : c ≠ v := fun h => by
        rw [h, hdig v (by simp)] at hc
        simp at hc
      simp [startsWith, List.isPrefixOf, beq_false_of_ne hne]
  rw [stringToBigInt]
  simp only [htrim, hne, if_false, show js "0x" = [48, 120] from rfl,
    show js "0X" = [48, 88] from rfl, show js "0o" = [48, 111] from rfl,
    show js "0O" = [48, 79] from rfl, show js "0b" = [48, 98] from rfl,
    show js "0B" = [48, 66] from rfl, show js "-" = [45] from rfl, show js "+" = [43] from rfl,
    hzero 120 rfl, hzero 88 rfl, hzero 111 rfl, hzero 79 rfl, hzero 98 rfl, hzero 66 rfl,
    hstart 45 [] rfl, hstart 43 [] rfl, Bool.or_self, Bool.false_eq_true]
  rw [readRadix, if_neg hne, readRadix_foldl hdig, ← digitsValue, hval]
  rfl

/-- The natural number that the digits of a number denote. -/
def toNat? (x : JsNumber) : Option ℕ :=
  if x.s = 0 then some 0
  else if x.isPositiveInteger then some (x.s * 10 ^ (x.n.toNat - (Nat.digits 10 x.s).length))
  else none

/-- The integer nearest to `m` that has 53 significant bits; of two, the one that ends in zero. -/
def roundToDouble (m : ℕ) : ℕ :=
  let ulp := 2 ^ (m.size - 53)
  let q := m / ulp
  let r := m % ulp
  if 2 * r < ulp ∨ 2 * r = ulp ∧ q % 2 = 0 then q * ulp else (q + 1) * ulp

/-- `BigInt(v)`. A number has the value of its double, which its shortest digits only approximate
from `2 ^ 53` on. -/
def toBigInt (v : JsValue) : Except JsError ℤ :=
  match v with
  | none | some .null => .error .typeError
  | some (.bool b) => .ok (if b then 1 else 0)
  | some (.num x) =>
    match toNat? x.abs with
    | some n => .ok (if x.neg then -(roundToDouble n : ℤ) else roundToDouble n)
    | none => .error .rangeError
  | some v => do
    let s ← stringOf (some v)
    orThrow (stringToBigInt s) .syntaxError

/-- The shortest digits of `2 ^ 60`. -/
example : toBigInt (some (.num (.ofNat 1152921504606847000))) = .ok (2 ^ 60) := by decide +kernel

def readU64LE (data : List UInt8) (offset : ℕ) : ℕ :=
  ((data.drop offset).take 8).foldr (fun b n => b.toNat + 256 * n) 0

/-! ### Instructions -/

/-- Top-level instructions, then the inner ones. -/
def collectInstructions (tx : Json) : Except JsError (List Json) := do
  let msg := JsValue.get? (tx.get? (js "transaction")) (js "message")
  let top ← iterateIfTruthy (msg.get? (js "instructions"))
  let inner ← iterateIfTruthy (JsValue.get? (tx.get? (js "meta")) (js "innerInstructions"))
  let lists ← inner.mapM fun group => do
    iterateIfTruthy (← member (some group) (js "instructions"))
  return top ++ lists.flatten

/-- `ix.programId?.toString?.() ?? ix.program ?? ""`. -/
def programOf (ix : Json) : Except JsError JsValue := do
  let programId ← member (some ix) (js "programId")
  let text ← callToString programId
  return orElse (orElse text (ix.get? (js "program"))) (some (.str []))

structure TransferInfo where
  source : JsValue
  destination : JsValue
  amount : JsValue
  mint : JsValue
  deriving DecidableEq

/-- The transfer of a parsed instruction of the token program. -/
def parsedTransfer (ix : Json) : Except JsError (Option TransferInfo) := do
  let parsed ← member (some ix) (js "parsed")
  if !parsed.isTruthy then return none
  let programId ← programOf ix
  if programId.strictEq (some (.str TOKEN_PROGRAM_ID)) ||
      JsValue.strictEq (ix.get? (js "program")) (some (.str (js "spl-token"))) then
    let type := parsed.get? (js "type")
    let info := parsed.get? (js "info")
    if type.strictEq (some (.str (js "transferChecked"))) && info.isTruthy then
      let tokenAmount := (info.get? (js "tokenAmount")).get? (js "amount")
      let amount ← if tokenAmount.isNullish then
          (stringOf (info.get? (js "amount"))).map fun s => some (Json.str s)
        else .ok tokenAmount
      return some ⟨info.get? (js "source"), info.get? (js "destination"), amount,
        orElse (info.get? (js "mint")) (some .null)⟩
    if type.strictEq (some (.str (js "transfer"))) && info.isTruthy then
      let amount ← stringOf (info.get? (js "amount"))
      return some ⟨info.get? (js "source"), info.get? (js "destination"), some (.str amount),
        some .null⟩
  return none

def resolveAccountKey (accountKeys index : JsValue) : Except JsError JsValue := do
  let key ← element accountKeys index
  let pubkey ← callToString (key.get? (js "pubkey"))
  if !pubkey.isNullish then return pubkey
  let text ← callToString key
  if !text.isNullish then return text
  return some (.str (← stringOf key))

/-- The transfer of a compiled instruction: type 3 is Transfer, type 12 TransferChecked. -/
def rawTransfer (base58Decode : JsString → Option (List UInt8)) (accountKeys : JsValue)
    (ix : Json) : Except JsError (Option TransferInfo) := do
  let key ← element accountKeys (← member (some ix) (js "programIdIndex"))
  let progId := orElse (← callToString key) key
  let encoded : JsValue := ix.get? (js "data")
  if progId.strictEq (some (.str TOKEN_PROGRAM_ID)) && encoded.isTruthy then
    let data ← orThrow (base58Decode (← asString encoded)) (.error (js "Non-base58 character"))
    let accounts := ix.get? (js "accounts")
    let amount : JsValue := some (.str (natText (readU64LE data 1)))
    if data.head? = some 3 ∧ 9 ≤ data.length then
      let source ← resolveAccountKey accountKeys (← elementAt accounts 0)
      let destination ← resolveAccountKey accountKeys (← elementAt accounts 1)
      return some ⟨source, destination, amount, some .null⟩
    if data.head? = some 12 ∧ 10 ≤ data.length then
      let source ← resolveAccountKey accountKeys (← elementAt accounts 0)
      let destination ← resolveAccountKey accountKeys (← elementAt accounts 2)
      let mint ← resolveAccountKey accountKeys (← elementAt accounts 1)
      return some ⟨source, destination, amount, mint⟩
  return none

def extractSplTransfer (base58Decode : JsString → Option (List UInt8)) (tx : Json) :
    Except JsError (Option TransferInfo) := do
  let all ← collectInstructions tx
  match ← findFirst parsedTransfer all with
  | some info => return some info
  | none =>
    let msg := JsValue.get? (tx.get? (js "transaction")) (js "message")
    let accountKeys := msg.get? (js "accountKeys")
    let instructions := msg.get? (js "instructions")
    if accountKeys.isTruthy && instructions.isTruthy then
      findFirst (rawTransfer base58Decode accountKeys) (← iterate instructions)
    else return none

/-! ### Memo -/

def isMemoProgram (programId program : JsValue) : Bool :=
  programId.strictEq (some (.str MEMO_PROGRAM_V2)) ||
    programId.strictEq (some (.str MEMO_PROGRAM_V1)) ||
    program.strictEq (some (.str (js "spl-memo")))

/-- Memo data that does not decode is returned as it is. -/
def instructionMemo (base58Decode : JsString → Option (List UInt8)) (ix : Json) :
    Except JsError (Option Json) := do
  let programId ← programOf ix
  if isMemoProgram programId (ix.get? (js "program")) then
    match ix.get? (js "parsed") with
    | some (.str (u :: s)) => return some (.str (u :: s))
    | _ =>
      match ix.get? (js "data") with
      | none => return none
      | some data =>
        if !data.isTruthy then return none
        match (Json.asStr data).bind base58Decode with
        | some bytes => return some (.str (utf8Decode .initial bytes))
        | none => return some data
  else return none

/-- The group of `/^Program log: Memo \(len \d+\): "(.*)"$/`. -/
def memoLog (log : JsString) : Option JsString := do
  let rest ← expect (js "Program log: Memo (len ") log
  let (digits, rest) := rest.span isDigitUnit
  let rest ← if digits.isEmpty then none else expect (js "): \"") rest
  let text := rest.dropLast
  if rest.getLast? = some 34 ∧ text.all (fun u => decide (u.val ∉ [10, 13, 8232, 8233])) then
    some text
  else none

def logMemo (log : Json) : Except JsError (Option Json) := do
  let log ← asString (some log)
  match memoLog log with
  | some text => return some (.str text)
  | none =>
    if startsWith log (js "Program log: ") && includes log (js "Ghost Bazaar:") then
      return some (.str (log.drop 13))
    else return none

def extractMemo (base58Decode : JsString → Option (List UInt8)) (tx : Json) :
    Except JsError (Option Json) := do
  let all ← collectInstructions tx
  match ← findFirst (instructionMemo base58Decode) all with
  | some memo => return some memo
  | none =>
    findFirst logMemo (← iterateIfTruthy (JsValue.get? (tx.get? (js "meta")) (js "logMessages")))

end GhostBazaar.Settlement
