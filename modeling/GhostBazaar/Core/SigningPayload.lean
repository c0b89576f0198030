import GhostBazaar.Core.CanonicalInjective
import GhostBazaar.Core.Quote

/-! Signing payloads: what of an object its canonical bytes determine, and what they ignore. -/
namespace GhostBazaar.Core
open Js Json

/-! ### The order of the members -/

theorem sortKeysMembers_nodup {ms : Members} (hm : (ms.map Prod.fst).Nodup) :
    ((sortKeysMembers true ms).map Prod.fst).Nodup := by
  rw [sortKeysMembers_top, sortKeysMembers_eq, map_fst_map]
  exact hm.sublist (List.filter_sublist.map _)

theorem canonicalJson_perm {ms ns : Members} (hm : (ms.map Prod.fst).Nodup) (h : ms.Perm ns) :
    canonicalJson ms = canonicalJson ns := by
  have hn : (ns.map Prod.fst).Nodup := (h.map Prod.fst).nodup_iff.mp hm
  have hperm : (sortKeysMembers true ms).Perm (sortKeysMembers true ns) := by
    rw [sortKeysMembers_top, sortKeysMembers_top, sortKeysMembers_eq, sortKeysMembers_eq]
    exact (h.filter _).map _
  unfold canonicalJson
  rw [sortKeys, sortKeys, (sortedObject_eq_iff (sortKeysMembers_nodup hm)
    (sortKeysMembers_nodup hn)).mpr (hperm.filter _)]

/-- `{ ...obj, [key]: value }` up to the order of its members. -/
theorem spread_perm {ms : Members} (hm : (ms.map Prod.fst).Nodup) (key : JsString)
    (value : Json) :
    (spread ms key value).Perm ((key, value) :: ms.filter fun m => decide (m.1 ≠ key)) := by
  unfold spread
  induction ms with
  | nil => exact List.Perm.refl _
  | cons m ms ih =>
    obtain ⟨k, v⟩ := m
    rw [List.map_cons, List.nodup_cons] at hm
    unfold JsMap.setEntries
    split_ifs with hk
    · subst hk
      rw [List.filter_cons_of_neg (by simp), List.filter_eq_self.mpr]
      intro m hmem
      have hne : m.1 ≠ k := fun heq => hm.1 (List.mem_map.mpr ⟨m, hmem, heq⟩)
      simpa using hne
    · rw [List.filter_cons_of_pos (by simp [hk])]
      exact ((ih hm.2).cons _).trans (List.Perm.swap _ _ _)

theorem objectSigningPayload_perm {c : Crypto} (hcanonical : c.canonicalJson = canonicalJson)
    {ms ns : Members} (hm : (ms.map Prod.fst).Nodup) (h : ms.Perm ns) :
    objectSigningPayload c ms = objectSigningPayload c ns := by
  have hn : (ns.map Prod.fst).Nodup := (h.map Prod.fst).nodup_iff.mp hm
  unfold objectSigningPayload
  rw [hcanonical]
  apply canonicalJson_perm (JsMap.nodup_setEntries hm)
  exact (spread_perm hm _ _).trans (((h.filter _).cons _).trans (spread_perm hn _ _).symm)

/-! ### The members that the bytes show -/

/-- Equal bytes come from equal members, but for those that `sortKeys` loses or skips. -/
theorem mem_of_canonicalJson_eq {ms ns : Members} (hm : (ms.map Prod.fst).Nodup)
    (hn : (ns.map Prod.fst).Nodup) (h : canonicalJson ms = canonicalJson ns) {key : JsString}
    {v : Json} (hmem : (key, v) ∈ ms) (hproto : key ≠ js "__proto__")
    (hextensions : key ≠ js "extensions") :
    ∃ w, (key, w) ∈ ns ∧ sortKeys false v = sortKeys false w := by
  rw [canonicalJson, canonicalJson, encode_injective.eq_iff, stringify_injective.eq_iff, sortKeys,
    sortKeys, Json.obj.injEq, sortedObject_eq_iff (sortKeysMembers_nodup hm)
      (sortKeysMembers_nodup hn)] at h
  have hsorted : (key, sortKeys false v) ∈ ownMembers (sortKeysMembers true ms) := by
    apply List.mem_filter.mpr
    refine ⟨?_, decide_eq_true hproto⟩
    rw [sortKeysMembers_top, sortKeysMembers_eq]
    apply List.mem_map.mpr
    exact ⟨(key, v), List.mem_filter.mpr ⟨hmem, by simp [isEmptyExtensions, hextensions]⟩, rfl⟩
  have hother := (List.mem_filter.mp (h.mem_iff.mp hsorted)).1
  rw [sortKeysMembers_top, sortKeysMembers_eq] at hother
  obtain ⟨⟨k, w⟩, hw, heq⟩ := List.mem_map.mp hother
  obtain ⟨rfl, hsort⟩ := Prod.mk.inj heq
  exact ⟨w, (List.mem_filter.mp hw).1, hsort.symm⟩

end GhostBazaar.Core
