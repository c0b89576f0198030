import Mathlib.Data.List.Nodup
import Mathlib.Algebra.BigOperators.Group.List.Basic
import Mathlib.Algebra.GroupWithZero.Nat

/-! The `Map` of the language: entries in insertion order, one for each key. -/
namespace GhostBazaar.Js

structure JsMap (α β : Type) where
  entries : List (α × β)
  nodup : (entries.map Prod.fst).Nodup

namespace JsMap

variable {α β : Type}

def empty : JsMap α β := ⟨[], List.nodup_nil⟩

/-- The sum of the counters of a map. -/
def total (m : JsMap α ℕ) : ℕ := (m.entries.map Prod.snd).sum

@[simp] theorem total_empty : (empty : JsMap α ℕ).total = 0 := rfl

theorem lookup_cons_ite [BEq α] [LawfulBEq α] [DecidableEq α] (k l : α) (v : β)
    (es : List (α × β)) :
    ((k, v) :: es).lookup l = if l = k then some v else es.lookup l := by
  by_cases h : l = k
  · simp [h]
  · simp [List.lookup_cons, h, beq_false_of_ne h]

theorem mem_of_lookup [BEq α] [LawfulBEq α] {k : α} {v : β} {es : List (α × β)}
    (h : es.lookup k = some v) : (k, v) ∈ es := by
  obtain ⟨front, back, rfl, -⟩ := List.lookup_eq_some_iff.mp h
  exact List.mem_append_right _ List.mem_cons_self

theorem mem_keys_of_lookup [BEq α] [LawfulBEq α] {k : α} {v : β} {es : List (α × β)}
    (h : es.lookup k = some v) : k ∈ es.map Prod.fst := List.mem_map_of_mem (mem_of_lookup h)

/-- With unique keys, what is looked up is what is there. -/
theorem lookup_of_mem [BEq α] [LawfulBEq α] {k : α} {v : β} {es : List (α × β)}
    (hn : (es.map Prod.fst).Nodup) (h : (k, v) ∈ es) : es.lookup k = some v := by
  obtain ⟨front, back, rfl⟩ := List.append_of_mem h
  rw [List.map_append, List.nodup_append] at hn
  apply List.lookup_eq_some_iff.mpr
  refine ⟨front, back, rfl, ?_⟩
  intro e he
  rw [bne_iff_ne]
  exact (hn.2.2 e.1 (List.mem_map_of_mem he) k List.mem_cons_self).symm

variable [DecidableEq α]

def get? (m : JsMap α β) (k : α) : Option β := m.entries.lookup k

/-- `entries` after `map.set(k, v)`: an existing key keeps its place. -/
def setEntries (k : α) (v : β) : List (α × β) → List (α × β)
  | [] => [(k, v)]
  | (l, w) :: es => if l = k then (k, v) :: es else (l, w) :: setEntries k v es

theorem mem_keys_setEntries {k l : α} {v : β} {es : List (α × β)} :
    l ∈ (setEntries k v es).map Prod.fst ↔ l = k ∨ l ∈ es.map Prod.fst := by
  induction es with
  | nil => simp [setEntries]
  | cons e es ih =>
    obtain ⟨l', w⟩ := e
    by_cases h : l' = k
    · subst h; simp [setEntries]
    · rw [setEntries, if_neg h, List.map_cons, List.mem_cons, ih, List.map_cons, List.mem_cons]
      tauto

omit [DecidableEq α] in
theorem notMem_keys_snoc {k : α} {es fs : List (α × β)} (hk : k ∉ es.map Prod.fst)
    (hfs : ∀ e ∈ es, e.1 ∉ fs.map Prod.fst) (v : β) :
    ∀ e ∈ es, e.1 ∉ (fs ++ [(k, v)]).map Prod.fst := by
  intro e he hmem
  simp only [List.map_append, List.mem_append, List.map_cons, List.map_nil,
    List.mem_singleton] at hmem
  rcases hmem with h | h
  · exact hfs e he h
  · exact hk (List.mem_map.mpr ⟨e, he, h⟩)

theorem setEntries_of_notMem {k : α} {v : β} {es : List (α × β)} (h : k ∉ es.map Prod.fst) :
    setEntries k v es = es ++ [(k, v)] := by
  induction es with
  | nil => rfl
  | cons e es ih =>
    simp only [List.map_cons, List.mem_cons, not_or] at h
    rw [setEntries, if_neg (Ne.symm h.1), ih h.2]
    rfl

theorem keys_setEntries (k : α) (v : β) (es : List (α × β)) :
    (setEntries k v es).map Prod.fst =
      if k ∈ es.map Prod.fst then es.map Prod.fst else es.map Prod.fst ++ [k] := by
  induction es with
  | nil => rfl
  | cons e es ih =>
    obtain ⟨l, w⟩ := e
    by_cases h : l = k
    · simp [setEntries, h]
    · rw [setEntries, if_neg h, List.map_cons, ih]
      by_cases hk : k ∈ es.map Prod.fst
      · simp [hk]
      · simp [hk, Ne.symm h]

theorem nodup_setEntries {k : α} {v : β} {es : List (α × β)} (h : (es.map Prod.fst).Nodup) :
    ((setEntries k v es).map Prod.fst).Nodup := by
  induction es with
  | nil => simp [setEntries]
  | cons e es ih =>
    obtain ⟨l, w⟩ := e
    simp only [List.map_cons, List.nodup_cons] at h
    by_cases hk : l = k
    · subst hk; simpa [setEntries] using h
    · rw [setEntries, if_neg hk, List.map_cons, List.nodup_cons, mem_keys_setEntries]
      exact ⟨not_or.mpr ⟨hk, h.1⟩, ih h.2⟩

theorem lookup_setEntries [BEq α] [LawfulBEq α] (k l : α) (v : β) (es : List (α × β)) :
    (setEntries k v es).lookup l = if l = k then some v else es.lookup l := by
  induction es with
  | nil => rw [setEntries, lookup_cons_ite]
  | cons e es ih =>
    obtain ⟨l', w⟩ := e
    by_cases hk : l' = k
    · rw [setEntries, if_pos hk, lookup_cons_ite, lookup_cons_ite, hk]
      split_ifs <;> rfl
    · rw [setEntries, if_neg hk, lookup_cons_ite, lookup_cons_ite, ih]
      by_cases h : l = l'
      · rw [if_pos h, if_neg (h ▸ hk), if_pos h]
      · rw [if_neg h, if_neg h]

def set (m : JsMap α β) (k : α) (v : β) : JsMap α β :=
  ⟨setEntries k v m.entries, nodup_setEntries m.nodup⟩

@[simp] theorem get?_empty (k : α) : (empty : JsMap α β).get? k = none := rfl

theorem get?_set (m : JsMap α β) (k l : α) (v : β) :
    (m.set k v).get? l = if l = k then some v else m.get? l := lookup_setEntries k l v m.entries

@[simp] theorem get?_set_self (m : JsMap α β) (k : α) (v : β) : (m.set k v).get? k = some v := by
  simp [get?_set]

/-- The map that a loop leaves which deletes the entries failing a test. -/
def filter (m : JsMap α β) (p : α → β → Bool) : JsMap α β :=
  ⟨m.entries.filter fun e => p e.1 e.2, m.nodup.sublist (List.filter_sublist.map _)⟩

def delete (m : JsMap α β) (k : α) : JsMap α β := m.filter fun l _ => decide (l ≠ k)

theorem get?_filter (m : JsMap α β) (p : α → β → Bool) (k : α) :
    (m.filter p).get? k = (m.get? k).filter (p k) := by
  obtain ⟨es, hn⟩ := m
  simp only [get?, filter]
  induction es with
  | nil => rfl
  | cons e es ih =>
    obtain ⟨l, w⟩ := e
    simp only [List.map_cons, List.nodup_cons] at hn
    have hih := ih hn.2
    rw [List.filter_cons, lookup_cons_ite]
    by_cases hk : k = l
    · subst hk
      by_cases hp : p k w = true
      · simp [hp, Option.filter]
      · have hnone : es.lookup k = none := by
          rw [List.lookup_eq_none_iff]
          intro e he
          simpa using fun h : k = e.1 => hn.1 (List.mem_map.mpr ⟨e, he, h.symm⟩)
        simp [hp, hih, hnone, Option.filter]
    · by_cases hp : p l w = true
      · simp [hp, lookup_cons_ite, hk, hih]
      · simp [hp, hk, hih]

theorem get?_delete (m : JsMap α β) (k l : α) :
    (m.delete k).get? l = if l = k then none else m.get? l := by
  rw [delete, get?_filter]
  split_ifs with h
  · cases m.get? l <;> simp [h]
  · cases m.get? l <;> simp [h]

theorem get?_eq_some_iff (m : JsMap α β) {k : α} {v : β} :
    m.get? k = some v ↔ (k, v) ∈ m.entries := ⟨mem_of_lookup, lookup_of_mem m.nodup⟩

theorem mem_keys_iff (m : JsMap α β) (k : α) :
    k ∈ m.entries.map Prod.fst ↔ (m.get? k).isSome := by
  obtain ⟨es, hn⟩ := m
  simp only [get?]
  clear hn
  induction es with
  | nil => simp
  | cons e es ih =>
    obtain ⟨l, w⟩ := e
    rw [lookup_cons_ite, List.map_cons, List.mem_cons, ih]
    split_ifs with h <;> simp [h]

/-! ### Counters -/

/-- `map.set(k, (map.get(k) ?? 0) + 1)`. -/
def increment (m : JsMap α ℕ) (k : α) : JsMap α ℕ := m.set k ((m.get? k).getD 0 + 1)

theorem total_increment (m : JsMap α ℕ) (k : α) : (m.increment k).total = m.total + 1 := by
  obtain ⟨es, hn⟩ := m
  simp only [increment, set, total, get?]
  clear hn
  induction es with
  | nil => simp [setEntries]
  | cons e es ih =>
    obtain ⟨l, w⟩ := e
    by_cases hk : l = k
    · subst hk
      simp [setEntries]
      omega
    · rw [lookup_cons_ite, if_neg (Ne.symm hk), setEntries, if_neg hk, List.map_cons,
        List.sum_cons, ih,
        List.map_cons, List.sum_cons]
      omega

theorem get?_increment (m : JsMap α ℕ) (k l : α) :
    (m.increment k).get? l = if l = k then some ((m.get? k).getD 0 + 1) else m.get? l :=
  get?_set m k l _

end JsMap
end GhostBazaar.Js
