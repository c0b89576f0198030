import GhostBazaar.Js.Text

/-! Time values in milliseconds, their ISO 8601 text and its parser. The calendar is
the proleptic Gregorian one, with years counted from March inside the computation. -/
namespace GhostBazaar.Js

structure CivilDate where
  year : ℤ
  month : ℕ
  day : ℕ
  deriving DecidableEq

/-- Day number of a civil date, day 0 being 1970-01-01. -/
def daysFromCivil (c : CivilDate) : ℤ :=
  let y := if c.month ≤ 2 then c.year - 1 else c.year
  let yoe := y % 400
  let mp : ℤ := if 2 < c.month then c.month - 3 else c.month + 9
  let doy := (153 * mp + 2) / 5 + c.day - 1
  y / 400 * 146097 + (yoe * 365 + yoe / 4 - yoe / 100 + doy) - 719468

def civilFromDays (days : ℤ) : CivilDate :=
  let z := days + 719468
  let doe := (z % 146097).toNat
  let century := min (doe / 36524) 3
  let quad := (doe - century * 36524) / 1461
  let rest := (doe - century * 36524) % 1461
  let year := min (rest / 365) 3
  let doy := rest - year * 365
  let mp := (5 * doy + 2) / 153
  let month := if mp < 10 then mp + 3 else mp - 9
  { year := z / 146097 * 400 + (century * 100 + quad * 4 + year : ℕ) + (if month ≤ 2 then 1 else 0)
    month := month
    day := doy - (153 * mp + 2) / 5 + 1 }

theorem civilFromDays_valid (days : ℤ) :
    1 ≤ (civilFromDays days).month ∧ (civilFromDays days).month ≤ 12 ∧
      1 ≤ (civilFromDays days).day ∧ (civilFromDays days).day ≤ 31 := by
  have hdoe : ((days + 719468) % 146097).toNat < 146097 := by omega
  simp only [civilFromDays]
  generalize ((days + 719468) % 146097).toNat = doe at hdoe
  have hdoy : (doe - min (doe / 36524) 3 * 36524) % 1461 -
      min ((doe - min (doe / 36524) 3 * 36524) % 1461 / 365) 3 * 365 ≤ 365 := by omega
  generalize (doe - min (doe / 36524) 3 * 36524) % 1461 -
    min ((doe - min (doe / 36524) 3 * 36524) % 1461 / 365) 3 * 365 = doy at hdoy
  refine ⟨?_, ?_, by omega, by omega⟩ <;> split_ifs <;> omega

/-- Month and day of a day of the March-based year. -/
private theorem dayOfYear_split {doy : ℕ} (h : doy ≤ 365) :
    (5 * doy + 2) / 153 < 12 ∧ (153 * ((5 * doy + 2) / 153) + 2) / 5 ≤ doy := by
  constructor <;> omega

private theorem dayOfEra_split {doe : ℕ} (h : doe < 146097) :
    let century := min (doe / 36524) 3
    let quad := (doe - century * 36524) / 1461
    let rest := (doe - century * 36524) % 1461
    let year := min (rest / 365) 3
    century ≤ 3 ∧ quad ≤ 24 ∧ year ≤ 3 ∧ rest - year * 365 ≤ 365 ∧
      doe = century * 36524 + quad * 1461 + year * 365 + (rest - year * 365) := by
  dsimp only
  have hcentury : min (doe / 36524) 3 ≤ 3 ∧ min (doe / 36524) 3 * 36524 ≤ doe ∧
      doe - min (doe / 36524) 3 * 36524 ≤ 36524 := by omega
  generalize min (doe / 36524) 3 = century at hcentury ⊢
  have hquad := Nat.div_add_mod (doe - century * 36524) 1461
  have hrest : (doe - century * 36524) % 1461 < 1461 := Nat.mod_lt _ (by norm_num)
  generalize (doe - century * 36524) % 1461 = rest at hquad hrest ⊢
  generalize (doe - century * 36524) / 1461 = quad at hquad ⊢
  have hyear : min (rest / 365) 3 ≤ 3 ∧ min (rest / 365) 3 * 365 ≤ rest ∧
      rest - min (rest / 365) 3 * 365 ≤ 365 := by omega
  generalize min (rest / 365) 3 = year at hyear ⊢
  refine ⟨hcentury.1, ?_, hyear.1, hyear.2.2, ?_⟩ <;> omega

private theorem eraDays (era : ℤ) {y : ℤ} {century quad year : ℕ} (hc : century ≤ 3)
    (hq : quad ≤ 24)
    (hyear : year ≤ 3) (hy : y = era * 400 + (century * 100 + quad * 4 + year : ℕ)) :
    y / 400 = era ∧ y % 400 * 365 + y % 400 / 4 - y % 400 / 100 =
      century * 36524 + quad * 1461 + year * 365 := by
  have hera : y / 400 = era := by omega
  have hyoe : y % 400 = century * 100 + quad * 4 + year := by omega
  have h4 : ((century : ℤ) * 100 + quad * 4 + year) / 4 = century * 25 + quad := by omega
  have h100 : ((century : ℤ) * 100 + quad * 4 + year) / 100 = century := by omega
  refine ⟨hera, ?_⟩
  rw [hyoe, h4, h100]
  ring

/-- The day number computed from a year that starts in March. -/
private theorem daysFromCivil_march (y : ℤ) {mp doy : ℕ} (hmp : mp < 12)
    (hday : (153 * mp + 2) / 5 ≤ doy) :
    let month := if mp < 10 then mp + 3 else mp - 9
    daysFromCivil ⟨y + (if month ≤ 2 then 1 else 0), month, doy - (153 * mp + 2) / 5 + 1⟩ =
      y / 400 * 146097 + (y % 400 * 365 + y % 400 / 4 - y % 400 / 100 + doy) - 719468 := by
  have hcast : ((153 * (mp : ℤ) + 2) / 5 + ((doy - (153 * mp + 2) / 5 + 1 : ℕ) : ℤ) - 1) = doy := by
    omega
  by_cases hm10 : mp < 10
  · have h2 : ¬ mp + 3 ≤ 2 := by omega
    have h3 : 2 < mp + 3 := by omega
    have hmonth : (((mp + 3 : ℕ) : ℤ) - 3) = mp := by omega
    simp only [daysFromCivil, hm10, if_true, h2, h3, if_false, hmonth, add_zero, hcast]
  · have h2 : mp - 9 ≤ 2 := by omega
    have h3 : ¬ 2 < mp - 9 := by omega
    have hmonth : (((mp - 9 : ℕ) : ℤ) + 9) = mp := by omega
    simp only [daysFromCivil, hm10, if_true, h2, h3, if_false, hmonth, add_sub_cancel_right, hcast]

private theorem yearOfEra_bounds (era : ℤ) {yoe : ℕ} (p : Prop) [Decidable p] (h : yoe ≤ 399) :
    era * 400 ≤ era * 400 + (yoe : ℤ) + (if p then 1 else 0) ∧
      era * 400 + (yoe : ℤ) + (if p then 1 else 0) ≤ era * 400 + 400 := by
  split_ifs <;> omega

private theorem civilFromDays_year (days : ℤ) :
    (days + 719468) / 146097 * 400 ≤ (civilFromDays days).year ∧
      (civilFromDays days).year ≤ (days + 719468) / 146097 * 400 + 400 := by
  have hdoe : ((days + 719468) % 146097).toNat < 146097 := by omega
  obtain ⟨hcentury, hquad, hyear, -, -⟩ := dayOfEra_split hdoe
  exact yearOfEra_bounds _ _ (by linarith)

theorem daysFromCivil_civilFromDays (days : ℤ) : daysFromCivil (civilFromDays days) = days := by
  have hdoe : ((days + 719468) % 146097).toNat < 146097 := by omega
  have hz : (((days + 719468) % 146097).toNat : ℤ) = (days + 719468) % 146097 := by omega
  obtain ⟨hcentury, hquad, hyear, hdoy, hsum⟩ := dayOfEra_split hdoe
  obtain ⟨hmp, hday⟩ := dayOfYear_split hdoy
  obtain ⟨hera, hyears⟩ := eraDays ((days + 719468) / 146097) hcentury hquad hyear rfl
  refine (daysFromCivil_march _ hmp hday).trans ?_
  rw [hera, hyears]
  omega

/-! ### Text of a time value -/

def digitUnit (d : ℕ) : CodeUnit := Fin.ofNat 65536 (48 + d)

/-- The last `w` decimal digits of `n`, with leading zeros. -/
def padDigits : ℕ → ℕ → JsString
  | 0, _ => []
  | w + 1, n => digitUnit (n / 10 ^ w % 10) :: padDigits w n

def readDigits : ℕ → ℕ → JsString → Option (ℕ × JsString)
  | 0, acc, s => some (acc, s)
  | _ + 1, _, [] => none
  | w + 1, acc, u :: s =>
    if 48 ≤ u.val ∧ u.val ≤ 57 then readDigits w (acc * 10 + (u.val - 48)) s else none

theorem readDigits_padDigits (w acc n : ℕ) (s : JsString) :
    readDigits w acc (padDigits w n ++ s) = some (acc * 10 ^ w + n % 10 ^ w, s) := by
  induction w generalizing acc with
  | zero => simp [padDigits, readDigits, Nat.mod_one]
  | succ w ih =>
    have hd : n / 10 ^ w % 10 < 10 := Nat.mod_lt _ (by norm_num)
    have hu : (digitUnit (n / 10 ^ w % 10)).val = 48 + n / 10 ^ w % 10 := by
      simp only [digitUnit, Fin.val_ofNat]
      omega
    have hrange : 48 ≤ 48 + n / 10 ^ w % 10 ∧ 48 + n / 10 ^ w % 10 ≤ 57 := by omega
    simp only [padDigits, List.cons_append, readDigits, hu, hrange, and_self, if_true, ih,
      Nat.add_sub_cancel_left, Nat.mod_pow_succ]
    congr 2
    ring

def yearText (y : ℤ) : JsString :=
  if 0 ≤ y ∧ y ≤ 9999 then padDigits 4 y.toNat
  else (if y < 0 then js "-" else js "+") ++ padDigits 6 y.natAbs

def msPerDay : ℤ := 86400000

/-- The largest magnitude of a time value. -/
def maxTime : ℤ := 8640000000000000

/-- `new Date(t).toISOString()`; `none` is the `RangeError`. -/
def toISOString (t : ℤ) : Option JsString :=
  if |t| ≤ maxTime then
    let date := civilFromDays (t / msPerDay)
    let ms := (t % msPerDay).toNat
    some (yearText date.year ++ js "-" ++ padDigits 2 date.month ++ js "-" ++
      padDigits 2 date.day ++ js "T" ++ padDigits 2 (ms / 3600000) ++ js ":" ++
      padDigits 2 (ms / 60000 % 60) ++ js ":" ++ padDigits 2 (ms / 1000 % 60) ++ js "." ++
      padDigits 3 (ms % 1000) ++ js "Z")
  else none

/-! ### Parsing the date time string format -/

def expect (c : JsString) (s : JsString) : Option JsString :=
  if startsWith s c then some (s.drop c.length) else none

@[simp] theorem expect_append (c s : JsString) : expect c (c ++ s) = some s := by
  simp [expect, startsWith]

def readYear (s : JsString) : Option (ℤ × JsString) :=
  if startsWith s (js "+") then
    (readDigits 6 0 (s.drop 1)).map fun r => ((r.1 : ℤ), r.2)
  else if startsWith s (js "-") then
    (readDigits 6 0 (s.drop 1)).bind fun r => if r.1 = 0 then none else some (-(r.1 : ℤ), r.2)
  else (readDigits 4 0 s).map fun r => ((r.1 : ℤ), r.2)

/-- `-MM-DD`, where the day, or both, may be missing. -/
def readMonthDay (s : JsString) : Option (ℕ × ℕ × JsString) :=
  if startsWith s (js "-") then do
    let (month, s) ← readDigits 2 0 (s.drop 1)
    if startsWith s (js "-") then do
      let (day, s) ← readDigits 2 0 (s.drop 1)
      return (month, day, s)
    else return (month, 1, s)
  else return (1, 1, s)

/-- `:ss` or `:ss.sss`, in milliseconds. -/
def readSeconds (s : JsString) : Option (ℕ × JsString) :=
  if startsWith s (js ":") then do
    let (sec, s) ← readDigits 2 0 (s.drop 1)
    guard (sec ≤ 59)
    if startsWith s (js ".") then do
      let (ms, s) ← readDigits 3 0 (s.drop 1)
      return (sec * 1000 + ms, s)
    else return (sec * 1000, s)
  else return (0, s)

/-- The offset from UTC in milliseconds. A local time has none and is not read here. -/
def readZone (s : JsString) : Option ℤ :=
  if s = js "Z" then some 0
  else do
    let sign ← if startsWith s (js "+") then some 1 else if startsWith s (js "-") then some (-1)
      else none
    let (hours, s) ← readDigits 2 0 (s.drop 1)
    let s ← expect (js ":") s
    let (minutes, s) ← readDigits 2 0 s
    guard (s = [] ∧ hours ≤ 23 ∧ minutes ≤ 59)
    return sign * (hours * 3600000 + minutes * 60000 : ℕ)

/-- `THH:mm` with seconds and offset, in milliseconds; empty for a date alone. -/
def readTime (s : JsString) : Option ℤ :=
  if s = [] then some 0
  else do
    let s ← expect (js "T") s
    let (hours, s) ← readDigits 2 0 s
    let s ← expect (js ":") s
    let (minutes, s) ← readDigits 2 0 s
    let (ms, s) ← readSeconds s
    let offset ← readZone s
    guard (minutes ≤ 59 ∧ (hours ≤ 23 ∨ hours = 24 ∧ minutes = 0 ∧ ms = 0))
    return (hours * 3600000 + minutes * 60000 + ms : ℕ) - offset

def parseIso (s : JsString) : Option ℤ := do
  let (year, s) ← readYear s
  let (month, day, s) ← readMonthDay s
  let time ← readTime s
  guard (1 ≤ month ∧ month ≤ 12 ∧ 1 ≤ day ∧ day ≤ 31)
  let t := daysFromCivil ⟨year, month, day⟩ * msPerDay + time
  guard (|t| ≤ maxTime)
  return t

/-- `Date.parse`, `none` for `NaN`. Texts in no format of the standard are left to
the implementation. -/
def dateParse (fallback : JsString → Option ℤ) (s : JsString) : Option ℤ :=
  parseIso s <|> fallback s

/-! ### Round trip -/

private theorem startsWith_digits (w n : ℕ) (s : JsString) (u : CodeUnit) (hu : u.val < 48) :
    startsWith (padDigits (w + 1) n ++ s) [u] = false := by
  have hd : n / 10 ^ w % 10 < 10 := Nat.mod_lt _ (by norm_num)
  have hne : u ≠ digitUnit (n / 10 ^ w % 10) := by
    intro h
    rw [h, digitUnit, Fin.val_ofNat] at hu
    omega
  simp only [startsWith, padDigits, List.cons_append, List.isPrefixOf, beq_false_of_ne hne,
    Bool.false_and]

private theorem readDigits_pad {w n : ℕ} (h : n < 10 ^ w) (s : JsString) :
    readDigits w 0 (padDigits w n ++ s) = some (n, s) := by
  rw [readDigits_padDigits, Nat.mod_eq_of_lt h]
  simp

theorem readYear_yearText {y : ℤ} (h : |y| < 1000000) (s : JsString) :
    readYear (yearText y ++ s) = some (y, s) := by
  rw [abs_lt] at h
  by_cases hy : 0 ≤ y ∧ y ≤ 9999
  · have hplus := startsWith_digits 3 y.toNat s 43 (by decide)
    have hminus := startsWith_digits 3 y.toNat s 45 (by decide)
    have hread := readDigits_pad (w := 4) (n := y.toNat) (by omega) s
    rw [yearText, if_pos hy, readYear, show js "+" = [43] from rfl, show js "-" = [45] from rfl,
      hplus, hminus, hread]
    simp [hy.1]
  · have hread := readDigits_pad (w := 6) (n := y.natAbs) (by omega) s
    rw [yearText, if_neg hy, readYear, show js "+" = [43] from rfl, show js "-" = [45] from rfl]
    by_cases hneg : y < 0
    · have hne : y.natAbs ≠ 0 := by omega
      simp [hneg, startsWith, hread, hne, abs_of_neg hneg]
    · simp [hneg, startsWith, hread, not_lt.mp hneg]

theorem readMonthDay_pad {month day : ℕ} (hm : month < 100) (hd : day < 100) (s : JsString) :
    readMonthDay (js "-" ++ padDigits 2 month ++ js "-" ++ padDigits 2 day ++ s) =
      some (month, day, s) := by
  have hmonth := readDigits_pad (w := 2) hm (js "-" ++ (padDigits 2 day ++ s))
  have hday := readDigits_pad (w := 2) hd s
  have hstart (r : JsString) : startsWith (js "-" ++ r) (js "-") = true := by simp [startsWith]
  have hdrop (r : JsString) : (js "-" ++ r).drop 1 = r := rfl
  simp only [List.append_assoc, readMonthDay, hstart, hdrop, if_true, hmonth, Option.bind_eq_bind,
    Option.bind_some, hday, Option.pure_def]

theorem readTime_pad {hours minutes sec ms : ℕ} (hh : hours < 24) (hm : minutes < 60)
    (hs : sec < 60) (hms : ms < 1000) :
    readTime (js "T" ++ padDigits 2 hours ++ js ":" ++ padDigits 2 minutes ++ js ":" ++
      padDigits 2 sec ++ js "." ++ padDigits 3 ms ++ js "Z") =
      some ((hours * 3600000 + minutes * 60000 + (sec * 1000 + ms) : ℕ) : ℤ) := by
  have hfrac := readDigits_pad (w := 3) hms (js "Z")
  have hsec := readDigits_pad (w := 2) (show sec < 10 ^ 2 by omega)
    (js "." ++ (padDigits 3 ms ++ js "Z"))
  have hmin := readDigits_pad (w := 2) (show minutes < 10 ^ 2 by omega)
    (js ":" ++ (padDigits 2 sec ++ (js "." ++ (padDigits 3 ms ++ js "Z"))))
  have hhour := readDigits_pad (w := 2) (show hours < 10 ^ 2 by omega)
    (js ":" ++ (padDigits 2 minutes ++ (js ":" ++ (padDigits 2 sec ++
      (js "." ++ (padDigits 3 ms ++ js "Z"))))))
  have hstart (c r : JsString) : startsWith (c ++ r) c = true := by simp [startsWith]
  have hdrop (r : JsString) : (js ":" ++ r).drop 1 = r := rfl
  have hdot (r : JsString) : (js "." ++ r).drop 1 = r := rfl
  have hne (r : JsString) : js "T" ++ r ≠ [] := by simp [show js "T" = [84] from rfl]
  have hseconds : readSeconds (js ":" ++ (padDigits 2 sec ++ (js "." ++
      (padDigits 3 ms ++ js "Z")))) = some (sec * 1000 + ms, js "Z") := by
    simp only [readSeconds, hstart, if_true, hdrop, hdot, hsec, Option.bind_eq_bind,
      Option.bind_some, show sec ≤ 59 by omega, guard_true, Option.pure_def, hfrac]
  have hrange : minutes ≤ 59 ∧ (hours ≤ 23 ∨
      hours = 24 ∧ minutes = 0 ∧ sec * 1000 + ms = 0) := ⟨by omega, Or.inl (by omega)⟩
  simp only [List.append_assoc, readTime, hne, if_false, expect_append, Option.bind_eq_bind,
    Option.bind_some, hhour, hmin, hseconds, readZone, if_true, hrange, and_self, guard_true,
    Option.pure_def, sub_zero]

/-- Milliseconds of a day from its hours, minutes, seconds and fraction. -/
private theorem msOfDay_split (ms : ℕ) : ms / 3600000 * 3600000 + ms / 60000 % 60 * 60000 +
    (ms / 1000 % 60 * 1000 + ms % 1000) = ms := by omega

theorem parseIso_toISOString {t : ℤ} {s : JsString} (h : toISOString t = some s) :
    parseIso s = some t := by
  by_cases ht : |t| ≤ maxTime
  · rw [toISOString, if_pos ht, Option.some.injEq] at h
    have hbound := abs_le.mp ht
    have hdate := daysFromCivil_civilFromDays (t / msPerDay)
    obtain ⟨hm1, hm2, hd1, hd2⟩ := civilFromDays_valid (t / msPerDay)
    have hyear := civilFromDays_year (t / msPerDay)
    have hy : |(civilFromDays (t / msPerDay)).year| < 1000000 := by
      simp only [msPerDay, maxTime] at hbound hyear ⊢
      rw [abs_lt]
      omega
    have hms : (t % msPerDay).toNat < 86400000 ∧
        t / msPerDay * msPerDay + ((t % msPerDay).toNat : ℤ) = t := by
      simp only [msPerDay]
      omega
    subst h
    generalize (t % msPerDay).toNat = ms at hms ⊢
    generalize civilFromDays (t / msPerDay) = date at *
    have htime := @readTime_pad (ms / 3600000) (ms / 60000 % 60) (ms / 1000 % 60) (ms % 1000)
      (by omega) (by omega) (by omega) (by omega)
    have hmd := @readMonthDay_pad date.month date.day (by omega) (by omega)
    rw [msOfDay_split] at htime
    simp only [List.append_assoc] at htime hmd ⊢
    have hvalid : 1 ≤ date.month ∧ date.month ≤ 12 ∧ 1 ≤ date.day ∧ date.day ≤ 31 :=
      ⟨hm1, hm2, hd1, hd2⟩
    simp only [parseIso, readYear_yearText hy, Option.bind_eq_bind, Option.bind_some, hmd, htime,
      hvalid, hdate, hms.2, ht, guard_true, Option.pure_def, true_and]
  · rw [toISOString, if_neg ht] at h
    simp at h

theorem dateParse_toISOString {t : ℤ} {s : JsString} (fallback : JsString → Option ℤ)
    (h : toISOString t = some s) : dateParse fallback s = some t := by
  rw [dateParse, parseIso_toISOString h]
  rfl

end GhostBazaar.Js
