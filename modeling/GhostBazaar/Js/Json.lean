import GhostBazaar.Js.Number

/-! JSON values as `JSON.parse` returns them, and the coercions of the language
that the program applies to them. A missing property is `none`. -/
namespace GhostBazaar.Js

inductive Json where
  | null
  | bool (b : Bool)
  | num (x : JsNumber)
  | str (s : JsString)
  | arr (xs : List Json)
  | obj (ms : List (JsString × Json))

/-- The own properties of an object, in enumeration order. -/
abbrev Members := List (JsString × Json)

namespace Json

instance : Inhabited Json := ⟨.null⟩

mutual
def decEq : (v w : Json) → Decidable (v = w)
  | .null, .null => isTrue rfl
  | .bool a, .bool b => decidable_of_iff (a = b) (by simp)
  | .num x, .num y => decidable_of_iff (x = y) (by simp)
  | .str s, .str t => decidable_of_iff (s = t) (by simp)
  | .arr xs, .arr ys =>
    match decEqElems xs ys with
    | isTrue h => isTrue (by rw [h])
    | isFalse h => isFalse (by simpa using h)
  | .obj ms, .obj ns =>
    match decEqMembers ms ns with
    | isTrue h => isTrue (by rw [h])
    | isFalse h => isFalse (by simpa using h)
  | .null, .bool _ | .null, .num _ | .null, .str _ | .null, .arr _ | .null, .obj _
  | .bool _, .null | .bool _, .num _ | .bool _, .str _ | .bool _, .arr _ | .bool _, .obj _
  | .num _, .null | .num _, .bool _ | .num _, .str _ | .num _, .arr _ | .num _, .obj _
  | .str _, .null | .str _, .bool _ | .str _, .num _ | .str _, .arr _ | .str _, .obj _
  | .arr _, .null | .arr _, .bool _ | .arr _, .num _ | .arr _, .str _ | .arr _, .obj _
  | .obj _, .null | .obj _, .bool _ | .obj _, .num _ | .obj _, .str _ | .obj _, .arr _ =>
    isFalse nofun
def decEqElems : (xs ys : List Json) → Decidable (xs = ys)
  | [], [] => isTrue rfl
  | [], _ :: _ | _ :: _, [] => isFalse nofun
  | x :: xs, y :: ys =>
    match decEq x y, decEqElems xs ys with
    | isTrue h, isTrue hs => isTrue (by rw [h, hs])
    | isFalse h, _ => isFalse fun he => h (List.cons.inj he).1
    | _, isFalse hs => isFalse fun he => hs (List.cons.inj he).2
def decEqMembers : (ms ns : Members) → Decidable (ms = ns)
  | [], [] => isTrue rfl
  | [], _ :: _ | _ :: _, [] => isFalse nofun
  | (k, v) :: ms, (l, w) :: ns =>
    if hk : k = l then
      match decEq v w, decEqMembers ms ns with
      | isTrue h, isTrue hs => isTrue (by rw [hk, h, hs])
      | isFalse h, _ => isFalse fun he => h (Prod.mk.inj (List.cons.inj he).1).2
      | _, isFalse hs => isFalse fun he => hs (List.cons.inj he).2
    else isFalse fun he => hk (Prod.mk.inj (List.cons.inj he).1).1
end

instance : DecidableEq Json := decEq

/-- `v[key]` for an object; no other value has a property of a name the program reads. -/
def get? : Json → JsString → Option Json
  | .obj ms, key => ms.lookup key
  | _, _ => none

mutual
/-- No object has two members of one name, as `JSON.parse` guarantees. -/
def WellFormed : Json → Prop
  | .arr xs => WellFormedElems xs
  | .obj ms => (ms.map Prod.fst).Nodup ∧ WellFormedMembers ms
  | _ => True
def WellFormedElems : List Json → Prop
  | [] => True
  | x :: xs => WellFormed x ∧ WellFormedElems xs
def WellFormedMembers : Members → Prop
  | [] => True
  | (_, v) :: ms => WellFormed v ∧ WellFormedMembers ms
end

mutual
/-- Equality of JSON values up to the order of object members. -/
def same : Json → Json → Bool
  | .null, .null => true
  | .bool a, .bool b => a == b
  | .num x, .num y => x == y
  | .str s, .str t => s == t
  | .arr xs, .arr ys => sameElems xs ys
  | .obj ms, .obj ns => ms.length == ns.length && sameMembers ms ns
  | _, _ => false
def sameElems : List Json → List Json → Bool
  | [], [] => true
  | x :: xs, y :: ys => same x y && sameElems xs ys
  | _, _ => false
/-- Each member of the first object has a partner of the same name in the second. -/
def sameMembers : Members → Members → Bool
  | [], _ => true
  | (k, v) :: ms, ns =>
    (match ns.lookup k with
    | some w => same v w
    | none => false) && sameMembers ms ns
end

/-! ### Coercions -/

def asStr : Json → Option JsString
  | .str s => some s
  | _ => none

def isObject : Json → Bool
  | .arr _ | .obj _ => true
  | _ => false

def isTruthy : Json → Bool
  | .null => false
  | .bool b => b
  | .num x => decide (x.s ≠ 0)
  | .str s => !s.isEmpty
  | .arr _ | .obj _ => true

mutual
/-- `String(v)`; `none` is the `TypeError` of an object that shadows `toString`. -/
def toJsString : Json → Option JsString
  | .null => some (js "null")
  | .bool b => some (if b then js "true" else js "false")
  | .num x => some (x.toText.flatMap utf16Units)
  | .str s => some s
  | .arr xs => (joinElems xs).map fun parts => List.intercalate (js ",") parts
  | .obj ms => if (ms.lookup (js "toString")).isSome then none else some (js "[object Object]")
def joinElems : List Json → Option (List JsString)
  | [] => some []
  | .null :: xs => (joinElems xs).map fun parts => [] :: parts
  | x :: xs => do
    let s ← toJsString x
    let parts ← joinElems xs
    return s :: parts
end

end Json

/-! ### Possibly missing values -/

/-- The value of a property access, `none` for `undefined`. -/
abbrev JsValue := Option Json

namespace JsValue

def isTruthy : JsValue → Bool
  | some v => v.isTruthy
  | none => false

def toJsString : JsValue → Option JsString
  | some v => v.toJsString
  | none => some (js "undefined")

def asStr (v : JsValue) : Option JsString := v.bind Json.asStr

theorem asStr_eq_some {v : JsValue} {s : JsString} : v.asStr = some s ↔ v = some (.str s) := by
  cases v with
  | none => simp [asStr]
  | some x => cases x <;> simp [asStr, Json.asStr]

/-- `v === null || v === undefined`. -/
def isNullish : JsValue → Bool
  | none | some .null => true
  | some _ => false

/-- `===`; two objects that come from different parses are different. -/
def strictEq : JsValue → JsValue → Bool
  | none, none => true
  | some v, some w => !v.isObject && decide (v = w)
  | _, _ => false

/-- `v?.key`. -/
def get? (v : JsValue) (key : JsString) : JsValue := v.bind fun j => j.get? key

theorem strictEq_str (v : JsValue) (s : JsString) :
    strictEq v (some (.str s)) = true ↔ v = some (.str s) := by
  cases v with
  | none => simp [strictEq]
  | some w => cases w <;> simp [strictEq, Json.isObject]

end JsValue
end GhostBazaar.Js
