import Mathlib.Data.List.Sort
import Mathlib.Order.Lattice

/-! What comes first in a list that is sorted by a comparison of keys. -/
namespace GhostBazaar.Sorting

section

variable {α κ : Type} [LinearOrder κ] {r : α → α → Prop} [DecidableRel r] {key : α → κ}
  {as rest : List α} {head : α}

theorem exists_head_of_ne_nil (r : α → α → Prop) [DecidableRel r] (h : as ≠ []) :
    ∃ head rest, as.insertionSort r = head :: rest := by
  have hlength := List.length_insertionSort r as
  cases hsorted : as.insertionSort r with
  | nil =>
    rw [hsorted] at hlength
    exact absurd (List.length_eq_zero_iff.mp hlength.symm) h
  | cons head rest => exact ⟨head, rest, rfl⟩

theorem head_mem (h : as.insertionSort r = head :: rest) : head ∈ as := by
  rw [← List.mem_insertionSort r, h]
  exact List.mem_cons_self

/-- What is sorted first has the least key; `r` need not compare keys outside the list. -/
theorem key_head_le (hkey : ∀ a ∈ as, ∀ b ∈ as, r a b ↔ key a ≤ key b)
    (h : as.insertionSort r = head :: rest) : ∀ a ∈ as, key head ≤ key a := by
  induction as generalizing head rest with
  | nil => simp at h
  | cons x xs ih =>
    have hkeys : ∀ a ∈ xs, ∀ b ∈ xs, r a b ↔ key a ≤ key b := fun a ha b hb =>
      hkey a (List.mem_cons_of_mem x ha) b (List.mem_cons_of_mem x hb)
    by_cases hxs : xs = []
    · rw [hxs, List.insertionSort_cons, List.insertionSort_nil, List.orderedInsert_nil] at h
      cases h
      simp [hxs]
    · obtain ⟨y, ys, hsorted⟩ := exists_head_of_ne_nil r hxs
      have hleast := ih hkeys hsorted
      have hxy := hkey x List.mem_cons_self y (List.mem_cons_of_mem x (head_mem hsorted))
      rw [List.insertionSort_cons, hsorted, List.orderedInsert] at h
      intro a ha
      split_ifs at h with hr
      · cases h
        rcases List.mem_cons.mp ha with rfl | ha
        · exact le_refl _
        · exact (hxy.mp hr).trans (hleast a ha)
      · cases h
        rcases List.mem_cons.mp ha with rfl | ha
        · exact le_of_not_ge fun hle => hr (hxy.mpr hle)
        · exact hleast a ha

end

end GhostBazaar.Sorting
