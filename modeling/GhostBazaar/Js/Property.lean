import GhostBazaar.Js.Json
import Mathlib.Data.Nat.Digits.Lemmas

/-! Own properties of an object: the order in which they enumerate, and assignment. -/
namespace GhostBazaar.Js

/-- The value of a key that is an array index; such keys enumerate first. -/
def arrayIndex? (k : JsString) : Option ℕ :=
  let value := k.foldl (fun n u => n * 10 + (u.val - 48)) 0
  if k ≠ [] ∧ (∀ u ∈ k, 48 ≤ u.val ∧ u.val ≤ 57) ∧ (k.length = 1 ∨ k.head? ≠ some 48) ∧
    value ≤ 4294967294 then some value else none

def indexLe (m n : JsString × Json) : Prop := (arrayIndex? m.1).getD 0 ≤ (arrayIndex? n.1).getD 0

instance : DecidableRel indexLe := fun m n =>
  inferInstanceAs (Decidable ((arrayIndex? m.1).getD 0 ≤ (arrayIndex? n.1).getD 0))

/-- `OrdinaryOwnPropertyKeys`: array indices ascending, then the other keys as created. -/
def enumerate (ms : Members) : Members :=
  (ms.filter fun m => (arrayIndex? m.1).isSome).insertionSort indexLe ++
    ms.filter fun m => !(arrayIndex? m.1).isSome

/-- `obj[key] = value` on an ordinary object. For `__proto__` the assignment runs the
inherited setter, which creates no own property. -/
def setProperty (ms : Members) (key : JsString) (value : Json) : Members :=
  if key = js "__proto__" then ms
  else if key ∈ ms.map Prod.fst then ms.map fun m => if m.1 = key then (key, value) else m
  else ms ++ [(key, value)]

theorem enumerate_perm (ms : Members) : (enumerate ms).Perm ms :=
  ((List.perm_insertionSort indexLe _).append_right _).trans (List.filter_append_perm _ ms)

/-! ### Array indices -/

/-- The decimal value of a key, digit by digit. -/
theorem foldl_digits (k : JsString) (n : ℕ) :
    k.foldl (fun n u => n * 10 + (u.val - 48)) n =
      n * 10 ^ k.length + Nat.ofDigits 10 (k.reverse.map fun u => u.val - 48) := by
  induction k generalizing n with
  | nil => simp
  | cons u k ih =>
    rw [List.foldl_cons, ih, List.reverse_cons, List.map_append, Nat.ofDigits_append]
    simp only [List.map_cons, List.map_nil, Nat.ofDigits_singleton, List.length_map,
      List.length_reverse, List.length_cons]
    ring

/-- An index is written with the digits of its value and no leading zero. -/
theorem digits_of_arrayIndex {k : JsString} {n : ℕ} (h : arrayIndex? k = some n) :
    (n = 0 ∧ k = js "0") ∨ (k.reverse.map fun u => u.val - 48) = Nat.digits 10 n := by
  simp only [arrayIndex?, Option.ite_none_right_eq_some, Option.some.injEq] at h
  obtain ⟨⟨hne, hdigits, hhead, -⟩, hvalue⟩ := h
  rw [foldl_digits, zero_mul, zero_add] at hvalue
  obtain ⟨u, k, rfl⟩ := List.exists_cons_of_ne_nil hne
  have hu := hdigits u (by simp)
  by_cases hzero : u.val = 48
  · left
    have hunit : u = 48 := Fin.ext hzero
    have hk : k = [] := by simpa [hunit] using hhead
    subst hk hunit
    exact ⟨by simpa using hvalue.symm, by decide⟩
  · right
    rw [← hvalue]
    refine (Nat.digits_ofDigits 10 (by omega) _ (fun d hd => ?_) fun _ => ?_).symm
    · obtain ⟨v, hv, rfl⟩ := List.mem_map.mp hd
      have := hdigits v (List.mem_reverse.mp hv)
      omega
    · simp only [List.reverse_cons, List.map_append, List.map_cons, List.map_nil,
        List.getLast_append_of_ne_nil, List.getLast_singleton, ne_eq, reduceCtorEq,
        not_false_eq_true]
      omega

theorem isDigit_of_arrayIndex {k : JsString} {n : ℕ} (h : arrayIndex? k = some n) :
    ∀ u ∈ k, 48 ≤ u.val ∧ u.val ≤ 57 := by
  simp only [arrayIndex?, Option.ite_none_right_eq_some] at h
  exact h.1.2.1

/-- Two keys of one index are one key. -/
theorem arrayIndex_injective {k l : JsString} {n : ℕ} (hk : arrayIndex? k = some n)
    (hl : arrayIndex? l = some n) : k = l := by
  have hzero {l : JsString} (hl : arrayIndex? l = some 0) : l = js "0" := by
    rcases digits_of_arrayIndex hl with ⟨-, h⟩ | h
    · exact h
    · have : l = [] := by simpa using h
      subst this
      simp [arrayIndex?] at hl
  by_cases hn : n = 0
  · subst hn
    rw [hzero hk, hzero hl]
  · have hdk := (digits_of_arrayIndex hk).resolve_left fun h => hn h.1
    have hdl := (digits_of_arrayIndex hl).resolve_left fun h => hn h.1
    have hmap : k.map (fun u => u.val - 48) = l.map (fun u => u.val - 48) := by
      have := congrArg List.reverse (hdk.trans hdl.symm)
      simpa [List.map_reverse] using this
    refine List.ext_getElem (by simpa using congrArg List.length hmap) fun i hi hj => ?_
    have hi' := isDigit_of_arrayIndex hk _ (List.getElem_mem hi)
    have hj' := isDigit_of_arrayIndex hl _ (List.getElem_mem hj)
    have hget : k[i].val - 48 = l[i].val - 48 := by
      have := List.getElem_of_eq hmap (i := i) (by simpa using hi)
      simpa using this
    exact Fin.ext (by omega)

/-! ### The order of enumeration -/

/-- The order of two keys in an object whose keys were assigned in sorted order. -/
def EnumeratesBefore (k l : JsString) : Prop :=
  match arrayIndex? k, arrayIndex? l with
  | some i, some j => i < j
  | some _, none => True
  | none, some _ => False
  | none, none => k < l

theorem EnumeratesBefore.asymm {k l : JsString} (h : EnumeratesBefore k l) :
    ¬ EnumeratesBefore l k := by
  unfold EnumeratesBefore at h ⊢
  cases hk : arrayIndex? k <;> cases hl : arrayIndex? l <;> simp only [hk, hl] at h ⊢
  · exact lt_asymm (α := JsString) h
  · exact not_false
  · omega

instance : Std.Total indexLe := ⟨fun m _ => le_total ((arrayIndex? m.1).getD 0) _⟩

instance : IsTrans (JsString × Json) indexLe := ⟨fun _ _ _ h k => le_trans (α := ℕ) h k⟩

/-- An object that is filled in its order of enumeration keeps it. -/
theorem enumerate_enumerate (ms : Members) : enumerate (enumerate ms) = enumerate ms := by
  have hperm := List.perm_insertionSort indexLe (ms.filter fun m => (arrayIndex? m.1).isSome)
  have hindex : ∀ m ∈ (ms.filter fun m => (arrayIndex? m.1).isSome).insertionSort indexLe,
      (arrayIndex? m.1).isSome = true := fun m hm => (List.mem_filter.mp (hperm.mem_iff.mp hm)).2
  have hkeep : (enumerate ms).filter (fun m => (arrayIndex? m.1).isSome) =
      (ms.filter fun m => (arrayIndex? m.1).isSome).insertionSort indexLe := by
    have hnone : ms.filter (fun m => (arrayIndex? m.1).isSome && !(arrayIndex? m.1).isSome) = [] :=
      List.filter_eq_nil_iff.mpr fun m _ => by cases arrayIndex? m.1 <;> simp
    rw [enumerate, List.filter_append, List.filter_eq_self.mpr hindex, List.filter_filter, hnone,
      List.append_nil]
  have hrest : (enumerate ms).filter (fun m => !(arrayIndex? m.1).isSome) =
      ms.filter fun m => !(arrayIndex? m.1).isSome := by
    rw [enumerate, List.filter_append, List.filter_filter,
      List.filter_eq_nil_iff.mpr fun m hm => by simp [hindex m hm]]
    simp
  rw [enumerate, hkeep, hrest, (List.pairwise_insertionSort indexLe _).insertionSort_eq, enumerate]

/-- Members sorted by their keys enumerate in the order of enumeration. -/
theorem enumerate_pairwise {ms : Members} (hms : ms.Pairwise fun m n => m.1 < n.1) :
    (enumerate ms).Pairwise fun m n => EnumeratesBefore m.1 n.1 := by
  have hindexed : ((ms.filter fun m => (arrayIndex? m.1).isSome).insertionSort indexLe).Pairwise
      fun m n => m.1 ≠ n.1 :=
    ((List.perm_insertionSort indexLe _).pairwise_iff fun h => h.symm).mpr
      ((hms.imp fun h => ne_of_lt (α := JsString) h).sublist List.filter_sublist)
  have hmem {m} (hm : m ∈ (ms.filter fun m => (arrayIndex? m.1).isSome).insertionSort indexLe) :
      (arrayIndex? m.1).isSome = true :=
    (List.mem_filter.mp ((List.perm_insertionSort indexLe _).mem_iff.mp hm)).2
  refine List.pairwise_append.mpr ⟨?_, ?_, ?_⟩
  · refine ((List.pairwise_insertionSort indexLe _).and hindexed).imp_of_mem ?_
    intro m n hm hn ⟨hle, hne⟩
    obtain ⟨i, hi⟩ := Option.isSome_iff_exists.mp (hmem hm)
    obtain ⟨j, hj⟩ := Option.isSome_iff_exists.mp (hmem hn)
    simp only [indexLe, hi, hj, Option.getD_some] at hle
    simp only [EnumeratesBefore, hi, hj]
    refine lt_of_le_of_ne hle fun he => hne (arrayIndex_injective hi (he ▸ hj))
  · refine (hms.sublist List.filter_sublist).imp_of_mem ?_
    intro m n hm hn hlt
    have hm' : arrayIndex? m.1 = none := by simpa using (List.mem_filter.mp hm).2
    have hn' : arrayIndex? n.1 = none := by simpa using (List.mem_filter.mp hn).2
    simpa only [EnumeratesBefore, hm', hn'] using hlt
  · intro m hm n hn
    obtain ⟨i, hi⟩ := Option.isSome_iff_exists.mp (hmem hm)
    have hn' : arrayIndex? n.1 = none := by simpa using (List.mem_filter.mp hn).2
    simp [EnumeratesBefore, hi, hn']

end GhostBazaar.Js
