import GhostBazaar.Js.Json

/-! `JSON.stringify` without indentation, and that its text determines the value. -/
namespace GhostBazaar.Js

def hexDigit (d : ℕ) : Char := if d < 10 then Char.ofNat (48 + d) else Char.ofNat (87 + d)

def hexVal (c : Char) : ℕ := if c.toNat < 58 then c.toNat - 48 else c.toNat - 87

theorem hexVal_hexDigit : ∀ d, d < 16 → hexVal (hexDigit d) = d := by decide

/-- `\uXXXX` with lower-case digits. -/
def unicodeEscape (u : CodeUnit) : List Char :=
  ['\\', 'u', hexDigit (u.val / 4096), hexDigit (u.val / 256 % 16), hexDigit (u.val / 16 % 16),
    hexDigit (u.val % 16)]

/-- One code unit that is not part of a surrogate pair, inside a string literal. -/
def escapeUnit (u : CodeUnit) : List Char :=
  if u.val = 8 then ['\\', 'b'] else if u.val = 9 then ['\\', 't']
  else if u.val = 10 then ['\\', 'n'] else if u.val = 12 then ['\\', 'f']
  else if u.val = 13 then ['\\', 'r'] else if u.val = 34 then ['\\', '"']
  else if u.val = 92 then ['\\', '\\']
  else if u.val < 32 ∨ isHighSurrogate u ∨ isLowSurrogate u then unicodeEscape u
  else [unitChar u]

/-- `QuoteJSONString` without the quotes: it walks over code points. -/
def quoteUnits : JsString → List Char
  | [] => []
  | [u] => escapeUnit u
  | u :: v :: s =>
    if isHighSurrogate u ∧ isLowSurrogate v then pairChar u v :: quoteUnits s
    else escapeUnit u ++ quoteUnits (v :: s)

def quote (s : JsString) : List Char := '"' :: (quoteUnits s ++ ['"'])

mutual
def stringify : Json → List Char
  | .null => ['n', 'u', 'l', 'l']
  | .bool true => ['t', 'r', 'u', 'e']
  | .bool false => ['f', 'a', 'l', 's', 'e']
  | .num x => x.toText
  | .str s => quote s
  | .arr [] => ['[', ']']
  | .arr (x :: xs) => '[' :: (stringify x ++ stringifyElems xs)
  | .obj [] => ['\x7b', '\x7d']
  | .obj ((k, v) :: ms) => '\x7b' :: (quote k ++ ':' :: (stringify v ++ stringifyMembers ms))
def stringifyElems : List Json → List Char
  | [] => [']']
  | x :: xs => ',' :: (stringify x ++ stringifyElems xs)
def stringifyMembers : Members → List Char
  | [] => ['\x7d']
  | (k, v) :: ms => ',' :: (quote k ++ ':' :: (stringify v ++ stringifyMembers ms))
end

/-! ### String literals -/

/-- The value of a string literal up to its closing quote, and what follows it. -/
def unquote : List Char → Option (JsString × List Char)
  | [] => none
  | '"' :: r => some ([], r)
  | '\\' :: 'u' :: a :: b :: c :: d :: r =>
    (unquote r).map fun p => (Fin.ofNat 65536
      (hexVal a * 4096 + hexVal b * 256 + hexVal c * 16 + hexVal d) :: p.1, p.2)
  | '\\' :: 'b' :: r => (unquote r).map fun p => ((8 : CodeUnit) :: p.1, p.2)
  | '\\' :: 't' :: r => (unquote r).map fun p => ((9 : CodeUnit) :: p.1, p.2)
  | '\\' :: 'n' :: r => (unquote r).map fun p => ((10 : CodeUnit) :: p.1, p.2)
  | '\\' :: 'f' :: r => (unquote r).map fun p => ((12 : CodeUnit) :: p.1, p.2)
  | '\\' :: 'r' :: r => (unquote r).map fun p => ((13 : CodeUnit) :: p.1, p.2)
  | '\\' :: '"' :: r => (unquote r).map fun p => ((34 : CodeUnit) :: p.1, p.2)
  | '\\' :: '\\' :: r => (unquote r).map fun p => ((92 : CodeUnit) :: p.1, p.2)
  | c :: r => (unquote r).map fun p => (utf16Units c ++ p.1, p.2)

theorem unquote_unicodeEscape (u : CodeUnit) (r : List Char) :
    unquote (unicodeEscape u ++ r) = (unquote r).map fun p => (u :: p.1, p.2) := by
  have hu := u.isLt
  have hval : Fin.ofNat 65536 (u.val / 4096 * 4096 + u.val / 256 % 16 * 256 +
      u.val / 16 % 16 * 16 + u.val % 16) = u := Fin.ext (by simp only [Fin.val_ofNat]; omega)
  simp only [unicodeEscape, List.cons_append, List.nil_append, unquote]
  rw [hexVal_hexDigit _ (by omega), hexVal_hexDigit _ (by omega), hexVal_hexDigit _ (by omega),
    hexVal_hexDigit _ (by omega), hval]

/-- A character that stands for itself in a literal. -/
theorem unquote_plain {c : Char} (hq : c ≠ '"') (hb : c ≠ '\\') (r : List Char) :
    unquote (c :: r) = (unquote r).map fun p => (utf16Units c ++ p.1, p.2) := by
  rw [unquote] <;> simp_all

theorem unquote_escapeUnit (u : CodeUnit) (r : List Char) :
    unquote (escapeUnit u ++ r) = (unquote r).map fun p => (u :: p.1, p.2) := by
  have special {k : CodeUnit} (h : u.val = k.val) : u = k := Fin.ext h
  rw [escapeUnit]
  split_ifs with h8 h9 h10 h12 h13 h34 h92 hesc
  · rw [special (k := 8) h8]; simp [unquote]
  · rw [special (k := 9) h9]; simp [unquote]
  · rw [special (k := 10) h10]; simp [unquote]
  · rw [special (k := 12) h12]; simp [unquote]
  · rw [special (k := 13) h13]; simp [unquote]
  · rw [special (k := 34) h34]; simp [unquote]
  · rw [special (k := 92) h92]; simp [unquote]
  · exact unquote_unicodeEscape u r
  · simp only [not_or, Bool.not_eq_true] at hesc
    obtain ⟨-, hh, hl⟩ := hesc
    have hn : (unitChar u).toNat = u.val := by
      have hu := u.isLt
      simp only [isHighSurrogate, isLowSurrogate, decide_eq_false_iff_not] at hh hl
      exact toNat_charOfNat (by omega)
    have hq : unitChar u ≠ '"' := fun h => h34 (by rw [← hn, h]; rfl)
    have hb : unitChar u ≠ '\\' := fun h => h92 (by rw [← hn, h]; rfl)
    rw [List.singleton_append, unquote_plain hq hb, utf16Units_unitChar hh hl]
    rfl

theorem unquote_quoteUnits (s : JsString) (r : List Char) :
    unquote (quoteUnits s ++ '"' :: r) = some (s, r) := by
  induction s using quoteUnits.induct with
  | case1 => simp [quoteUnits, unquote]
  | case2 u => rw [quoteUnits, unquote_escapeUnit]; simp [unquote]
  | case3 u v s hpair ih =>
    have hn := pairChar_toNat hpair.1 hpair.2
    have hq : pairChar u v ≠ '"' := fun h => by rw [h] at hn; simp at hn; omega
    have hb : pairChar u v ≠ '\\' := fun h => by rw [h] at hn; simp at hn; omega
    rw [quoteUnits, if_pos hpair, List.cons_append, unquote_plain hq hb, ih,
      utf16Units_pairChar hpair.1 hpair.2]
    rfl
  | case4 u v s hpair ih =>
    rw [quoteUnits, if_neg hpair, List.append_assoc, unquote_escapeUnit, ih]
    rfl

theorem quote_append_inj {s t : JsString} {r r' : List Char}
    (h : quote s ++ r = quote t ++ r') : s = t ∧ r = r' := by
  simp only [quote, List.cons_append, List.append_assoc, List.nil_append, List.cons.injEq,
    true_and] at h
  have hs := unquote_quoteUnits s r
  rw [h, unquote_quoteUnits] at hs
  obtain ⟨rfl, rfl⟩ := Prod.mk.inj (Option.some.inj hs)
  exact ⟨rfl, rfl⟩

/-! ### Values -/

/-- What follows a value inside a text: nothing, a separator or a closing bracket. -/
def Delimited (r : List Char) : Prop := ∀ c t, r = c :: t → c = ',' ∨ c = ']' ∨ c = '\x7d'

theorem delimited_nil : Delimited [] := nofun

theorem delimited_elems (xs : List Json) (r : List Char) : Delimited (stringifyElems xs ++ r) := by
  rintro c t h
  cases xs <;> simp only [stringifyElems, List.cons_append, List.cons.injEq] at h <;>
    simp [← h.1]

theorem delimited_members (ms : Members) (r : List Char) :
    Delimited (stringifyMembers ms ++ r) := by
  rintro c t h
  cases ms with
  | nil =>
    simp only [stringifyMembers, List.cons_append, List.cons.injEq] at h
    simp [← h.1]
  | cons m ms =>
    simp only [stringifyMembers, List.cons_append, List.cons.injEq] at h
    simp [← h.1]

/-- A number token ends where the delimiter begins. -/
theorem toText_append_inj {x y : JsNumber} {r t : List Char} (hr : Delimited r)
    (ht : Delimited t) (h : x.toText ++ r = y.toText ++ t) : x = y ∧ r = t := by
  have hcut (z : JsNumber) (u : List Char) (hu : Delimited u) :
      (z.toText ++ u).takeWhile JsNumber.isTokenChar = z.toText := by
    have hall := (JsNumber.toText_chars z).2
    rw [List.takeWhile_append_of_pos hall]
    cases u with
    | nil => simp
    | cons c u =>
      have hc : JsNumber.isTokenChar c = false := by
        rcases hu c u rfl with rfl | rfl | rfl <;> decide
      simp [hc]
  have htext : x.toText = y.toText := by rw [← hcut x r hr, h, hcut y t ht]
  rw [htext] at h
  exact ⟨JsNumber.toText_injective htext, List.append_cancel_left h⟩

/-- The kind of a value. -/
def Json.kind : Json → ℕ
  | .null => 0
  | .bool true => 1
  | .bool false => 2
  | .num _ => 3
  | .str _ => 4
  | .arr _ => 5
  | .obj _ => 6

/-- The kind of value that a text starting with this character holds. -/
def leadKind (c : Char) : ℕ :=
  if c = 'n' then 0 else if c = 't' then 1 else if c = 'f' then 2
  else if c = '"' then 4 else if c = '[' then 5 else if c = '\x7b' then 6 else 3

theorem leadKind_stringify (v : Json) :
    ∃ c t, stringify v = c :: t ∧ leadKind c = v.kind := by
  match v with
  | .null => exact ⟨_, _, rfl, rfl⟩
  | .bool true => exact ⟨_, _, rfl, rfl⟩
  | .bool false => exact ⟨_, _, rfl, rfl⟩
  | .num x =>
    obtain ⟨⟨c, t, hc, hd⟩, -⟩ := JsNumber.toText_chars x
    refine ⟨c, t, by rw [stringify, hc], ?_⟩
    rcases hd with hd | rfl
    · have hne : ∀ k, isDigit k = false → c ≠ k := by
        rintro k hk rfl
        rw [hd] at hk
        exact Bool.noConfusion hk
      simp only [leadKind, Json.kind, hne 'n' (by decide), hne 't' (by decide),
        hne 'f' (by decide), hne '"' (by decide), hne '[' (by decide), hne '\x7b' (by decide),
        if_false]
    · rfl
  | .str s => exact ⟨_, _, rfl, rfl⟩
  | .arr [] => exact ⟨_, _, rfl, rfl⟩
  | .arr (_ :: _) => exact ⟨_, _, rfl, rfl⟩
  | .obj [] => exact ⟨_, _, rfl, rfl⟩
  | .obj ((_, _) :: _) => exact ⟨_, _, rfl, rfl⟩

theorem kind_eq_of_append {v w : Json} {r t : List Char}
    (h : stringify v ++ r = stringify w ++ t) : v.kind = w.kind := by
  obtain ⟨c, _, hc, hk⟩ := leadKind_stringify v
  obtain ⟨d, _, hd, hl⟩ := leadKind_stringify w
  rw [hc, hd, List.cons_append, List.cons_append] at h
  rw [← hk, ← hl, (List.cons.inj h).1]

/-- No text of a value starts like the tail of an empty list or object. -/
theorem stringify_ne_close {v : Json} {c : Char} {r t : List Char} (hc : c = ']' ∨ c = '\x7d') :
    stringify v ++ r ≠ c :: t := by
  obtain ⟨d, u, hd, hk⟩ := leadKind_stringify v
  rw [hd]
  intro h
  obtain rfl : d = c := (List.cons.inj h).1
  match v, hd with
  | .num x, hd =>
    obtain ⟨⟨e, s, he, hdig⟩, -⟩ := JsNumber.toText_chars x
    rw [stringify, he] at hd
    obtain rfl : e = d := (List.cons.inj hd).1
    rcases hdig with hdig | rfl
    · rcases hc with rfl | rfl <;> exact absurd hdig (by decide)
    · rcases hc with hc | hc <;> exact absurd hc (by decide)
  | .null, _ | .bool true, _ | .bool false, _ | .str _, _ | .arr _, _ | .obj _, _ =>
    rcases hc with rfl | rfl <;> exact absurd hk (by simp [leadKind, Json.kind])

mutual
/-- A text that is cut off by a delimiter determines its value. -/
theorem stringify_append_inj : (v w : Json) → (r t : List Char) → Delimited r → Delimited t →
    stringify v ++ r = stringify w ++ t → v = w ∧ r = t
  | .null, w, r, t, _, _, h => by
    have hk := kind_eq_of_append h
    match w, hk with
    | .null, _ => exact ⟨rfl, List.append_cancel_left h⟩
  | .bool true, w, r, t, _, _, h => by
    have hk := kind_eq_of_append h
    match w, hk with
    | .bool true, _ => exact ⟨rfl, List.append_cancel_left h⟩
  | .bool false, w, r, t, _, _, h => by
    have hk := kind_eq_of_append h
    match w, hk with
    | .bool false, _ => exact ⟨rfl, List.append_cancel_left h⟩
  | .num x, w, r, t, hr, ht, h => by
    have hk := kind_eq_of_append h
    match w, hk with
    | .num y, _ =>
      obtain ⟨rfl, rfl⟩ := toText_append_inj hr ht h
      exact ⟨rfl, rfl⟩
  | .str s, w, r, t, _, _, h => by
    have hk := kind_eq_of_append h
    match w, hk with
    | .str s', _ =>
      obtain ⟨rfl, rfl⟩ := quote_append_inj h
      exact ⟨rfl, rfl⟩
  | .arr xs, w, r, t, hr, ht, h => by
    have hk := kind_eq_of_append h
    match w, hk with
    | .arr ys, _ =>
      match xs, ys with
      | [], [] => exact ⟨rfl, List.append_cancel_left h⟩
      | [], y :: ys =>
        simp only [stringify, List.cons_append, List.nil_append, List.append_assoc,
          List.cons.injEq, true_and] at h
        exact absurd h.symm (stringify_ne_close (Or.inl rfl))
      | x :: xs, [] =>
        simp only [stringify, List.cons_append, List.nil_append, List.append_assoc,
          List.cons.injEq, true_and] at h
        exact absurd h (stringify_ne_close (Or.inl rfl))
      | x :: xs, y :: ys =>
        simp only [stringify, List.cons_append, List.append_assoc, List.cons.injEq,
          true_and] at h
        obtain ⟨rfl, hxs⟩ := stringify_append_inj x y _ _ (delimited_elems xs r)
          (delimited_elems ys t) h
        obtain ⟨rfl, rfl⟩ := stringifyElems_append_inj xs ys r t hr ht hxs
        exact ⟨rfl, rfl⟩
  | .obj ms, w, r, t, hr, ht, h => by
    have hk := kind_eq_of_append h
    match w, hk with
    | .obj ns, _ =>
      match ms, ns with
      | [], [] => exact ⟨rfl, List.append_cancel_left h⟩
      | [], (l, w) :: ns => simp [stringify, quote] at h
      | (k, v) :: ms, [] => simp [stringify, quote] at h
      | (k, v) :: ms, (l, w) :: ns =>
        simp only [stringify, List.cons_append, List.append_assoc, List.cons.injEq,
          true_and] at h
        obtain ⟨rfl, hv⟩ := quote_append_inj h
        simp only [List.cons.injEq, true_and] at hv
        obtain ⟨rfl, hms⟩ := stringify_append_inj v w _ _ (delimited_members ms r)
          (delimited_members ns t) hv
        obtain ⟨rfl, rfl⟩ := stringifyMembers_append_inj ms ns r t hr ht hms
        exact ⟨rfl, rfl⟩
theorem stringifyElems_append_inj : (xs ys : List Json) → (r t : List Char) → Delimited r →
    Delimited t → stringifyElems xs ++ r = stringifyElems ys ++ t → xs = ys ∧ r = t
  | [], [], r, t, _, _, h => ⟨rfl, List.append_cancel_left h⟩
  | [], y :: ys, r, t, _, _, h => by simp [stringifyElems] at h
  | x :: xs, [], r, t, _, _, h => by simp [stringifyElems] at h
  | x :: xs, y :: ys, r, t, hr, ht, h => by
    simp only [stringifyElems, List.cons_append, List.append_assoc, List.cons.injEq,
      true_and] at h
    obtain ⟨rfl, hxs⟩ := stringify_append_inj x y _ _ (delimited_elems xs r)
      (delimited_elems ys t) h
    obtain ⟨rfl, rfl⟩ := stringifyElems_append_inj xs ys r t hr ht hxs
    exact ⟨rfl, rfl⟩
theorem stringifyMembers_append_inj : (ms ns : Members) → (r t : List Char) → Delimited r →
    Delimited t → stringifyMembers ms ++ r = stringifyMembers ns ++ t → ms = ns ∧ r = t
  | [], [], r, t, _, _, h => ⟨rfl, List.append_cancel_left h⟩
  | [], (l, w) :: ns, r, t, _, _, h => by simp [stringifyMembers] at h
  | (k, v) :: ms, [], r, t, _, _, h => by simp [stringifyMembers] at h
  | (k, v) :: ms, (l, w) :: ns, r, t, hr, ht, h => by
    simp only [stringifyMembers, List.cons_append, List.append_assoc, List.cons.injEq,
      true_and] at h
    obtain ⟨rfl, hv⟩ := quote_append_inj h
    simp only [List.cons.injEq, true_and] at hv
    obtain ⟨rfl, hms⟩ := stringify_append_inj v w _ _ (delimited_members ms r)
      (delimited_members ns t) hv
    obtain ⟨rfl, rfl⟩ := stringifyMembers_append_inj ms ns r t hr ht hms
    exact ⟨rfl, rfl⟩
end

theorem stringify_injective : Function.Injective stringify := fun v w h =>
  (stringify_append_inj v w [] [] delimited_nil delimited_nil (by rw [h])).1

/-- The UTF-8 bytes of a text, as `new TextEncoder().encode(text)` returns them. -/
def encode (text : List Char) : ByteArray := (String.ofList text).toUTF8

theorem encode_injective : Function.Injective encode := fun _ _ h =>
  String.ofList_inj.mp (String.toByteArray_inj.mp h)

end GhostBazaar.Js
