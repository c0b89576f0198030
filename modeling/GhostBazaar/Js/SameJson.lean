import GhostBazaar.Js.Json
import GhostBazaar.Js.Map
import Mathlib.Data.List.Perm.Subperm
import Mathlib.Data.List.Nodup

/-! Equality of JSON values up to member order, in terms of the members of an object. -/
namespace GhostBazaar.Js

/-- Two objects with unique member names match under `R`: they have equally many
members, and each member of the first has a related one of its name in the second. -/
def MembersMatch (R : Json → Json → Prop) (ms ns : Members) : Prop :=
  ms.length = ns.length ∧ ∀ m ∈ ms, ∃ w, (m.1, w) ∈ ns ∧ R m.2 w

variable {R : Json → Json → Prop} {ms ns : Members}

theorem eq_of_mem_of_fst_eq (hn : (ns.map Prod.fst).Nodup) {m n : JsString × Json}
    (hm : m ∈ ns) (hm' : n ∈ ns) (hk : m.1 = n.1) : m = n :=
  List.inj_on_of_nodup_map hn hm hm' hk

theorem sameMembers_iff (hn : (ns.map Prod.fst).Nodup) :
    Json.sameMembers ms ns = true ↔ ∀ m ∈ ms, ∃ w, (m.1, w) ∈ ns ∧ Json.same m.2 w = true := by
  induction ms with
  | nil => simp [Json.sameMembers]
  | cons m ms ih =>
    obtain ⟨k, v⟩ := m
    rw [Json.sameMembers, Bool.and_eq_true, ih, List.forall_mem_cons]
    refine and_congr_left fun _ => ?_
    cases hl : ns.lookup k with
    | none =>
      have hout : ∀ w, (k, w) ∉ ns := fun w hw => by
        rw [JsMap.lookup_of_mem hn hw] at hl
        cases hl
      simp [hout]
    | some w =>
      have hw := JsMap.mem_of_lookup hl
      refine ⟨fun h => ⟨w, hw, h⟩, ?_⟩
      rintro ⟨w', hw', h⟩
      obtain ⟨-, rfl⟩ := Prod.mk.inj (eq_of_mem_of_fst_eq hn hw hw' rfl)
      exact h

theorem same_obj_iff (hn : (ns.map Prod.fst).Nodup) :
    Json.same (.obj ms) (.obj ns) = true ↔ MembersMatch (fun v w => Json.same v w = true) ms ns := by
  rw [Json.same, Bool.and_eq_true, sameMembers_iff hn, beq_iff_eq]
  rfl

namespace MembersMatch

/-- Matching objects have the same names, so each member of the second has a partner too. -/
theorem partner (h : MembersMatch R ms ns) (hm : (ms.map Prod.fst).Nodup)
    (hn : (ns.map Prod.fst).Nodup) : ∀ n ∈ ns, ∃ v, (n.1, v) ∈ ms ∧ R v n.2 := by
  intro n hmem
  have hsub : ms.map Prod.fst ⊆ ns.map Prod.fst := by
    intro k hk
    obtain ⟨m, hm', rfl⟩ := List.mem_map.mp hk
    obtain ⟨w, hw, -⟩ := h.2 m hm'
    exact List.mem_map.mpr ⟨_, hw, rfl⟩
  have hperm : (ms.map Prod.fst).Perm (ns.map Prod.fst) :=
    (hm.subperm hsub).perm_of_length_le (by simp [h.1])
  obtain ⟨m, hm', hk⟩ := List.mem_map.mp (hperm.mem_iff.mpr (List.mem_map.mpr ⟨n, hmem, rfl⟩))
  obtain ⟨w, hw, hR⟩ := h.2 m hm'
  have hnw : (m.1, w) = n := eq_of_mem_of_fst_eq hn hw hmem hk
  subst hnw
  exact ⟨m.2, hm', hR⟩

/-- A filter that cannot tell related members apart keeps objects matching. -/
theorem filter (h : MembersMatch R ms ns) (hm : (ms.map Prod.fst).Nodup)
    (hn : (ns.map Prod.fst).Nodup) {p : JsString × Json → Bool}
    (hp : ∀ k v w, R v w → p (k, v) = p (k, w)) :
    MembersMatch R (ms.filter p) (ns.filter p) := by
  have hkeys (ls : Members) (hl : (ls.map Prod.fst).Nodup) :
      ((ls.filter p).map Prod.fst).Nodup := hl.sublist (List.filter_sublist.map _)
  have hfwd : ∀ m ∈ ms.filter p, ∃ w, (m.1, w) ∈ ns.filter p ∧ R m.2 w := by
    intro m hmem
    obtain ⟨hm', hpm⟩ := List.mem_filter.mp hmem
    obtain ⟨w, hw, hR⟩ := h.2 m hm'
    exact ⟨w, List.mem_filter.mpr ⟨hw, by rw [← hp _ _ _ hR]; exact hpm⟩, hR⟩
  have hbwd : ∀ n ∈ ns.filter p, ∃ v, (n.1, v) ∈ ms.filter p := by
    intro n hmem
    obtain ⟨hn', hpn⟩ := List.mem_filter.mp hmem
    obtain ⟨v, hv, hR⟩ := h.partner hm hn n hn'
    exact ⟨v, List.mem_filter.mpr ⟨hv, by rw [hp _ _ _ hR]; exact hpn⟩⟩
  refine ⟨?_, hfwd⟩
  have hsub : (ms.filter p).map Prod.fst ⊆ (ns.filter p).map Prod.fst := by
    intro k hk
    obtain ⟨m, hmem, rfl⟩ := List.mem_map.mp hk
    obtain ⟨w, hw, -⟩ := hfwd m hmem
    exact List.mem_map.mpr ⟨_, hw, rfl⟩
  have hsub' : (ns.filter p).map Prod.fst ⊆ (ms.filter p).map Prod.fst := by
    intro k hk
    obtain ⟨n, hmem, rfl⟩ := List.mem_map.mp hk
    obtain ⟨v, hv⟩ := hbwd n hmem
    exact List.mem_map.mpr ⟨_, hv, rfl⟩
  have h1 := ((hkeys ms hm).subperm hsub).length_le
  have h2 := ((hkeys ns hn).subperm hsub').length_le
  simp only [List.length_map] at h1 h2
  omega

/-- Mapping the values of both objects by functions that respect the relations. -/
theorem map (h : MembersMatch R ms ns) {S : Json → Json → Prop} {f g : Json → Json}
    (hf : ∀ m ∈ ms, ∀ n ∈ ns, R m.2 n.2 → S (f m.2) (g n.2)) :
    MembersMatch S (ms.map fun m => (m.1, f m.2)) (ns.map fun n => (n.1, g n.2)) := by
  refine ⟨by simp [h.1], fun m' hm' => ?_⟩
  obtain ⟨m, hm, rfl⟩ := List.mem_map.mp hm'
  obtain ⟨w, hw, hR⟩ := h.2 m hm
  exact ⟨g w, List.mem_map.mpr ⟨_, hw, rfl⟩, hf m hm _ hw hR⟩

/-- Objects match under equality exactly when they are permutations of each other. -/
theorem perm_iff (hm : (ms.map Prod.fst).Nodup) :
    MembersMatch (· = ·) ms ns ↔ ms.Perm ns := by
  constructor
  · rintro ⟨hlen, hmem⟩
    have hsub : ms ⊆ ns := by
      intro m hm'
      obtain ⟨w, hw, rfl⟩ := hmem m hm'
      exact hw
    exact (hm.of_map.subperm hsub).perm_of_length_le hlen.ge
  · intro hp
    exact ⟨hp.length_eq, fun m hm' => ⟨m.2, hp.mem_iff.mp hm', rfl⟩⟩

end MembersMatch
end GhostBazaar.Js
