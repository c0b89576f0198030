import GhostBazaar.Js.Stringify
import GhostBazaar.Js.Property
import GhostBazaar.Js.SameJson

/-! `canonicalJson`: every signature and spec hash of the protocol is over its bytes. -/
namespace GhostBazaar.Core
open Js

/-! ### The order of the keys -/

def byKey (m n : JsString × Json) : Prop := m.1 ≤ n.1

instance : DecidableRel byKey := fun m n => inferInstanceAs (Decidable (m.1 ≤ n.1))

/-- The object that the loop of `sortKeys` fills, visiting the keys in sorted order. -/
def sortedObject (ms : Members) : Members :=
  enumerate ((ms.insertionSort byKey).foldl (fun o m => setProperty o m.1 m.2) [])

/-! ### The source functions -/

/-- A top-level member that is skipped: `extensions` whose value has no keys. -/
def isEmptyExtensions (m : JsString × Json) : Bool :=
  decide (m.1 = js "extensions") && match m.2 with
    | .obj [] | .arr [] => true
    | _ => false

mutual
def sortKeys (isTopLevel : Bool) : Json → Json
  | .arr xs => .arr (sortKeysElems xs)
  | .obj ms => .obj (sortedObject (sortKeysMembers isTopLevel ms))
  | v => v
def sortKeysElems : List Json → List Json
  | [] => []
  | x :: xs => sortKeys false x :: sortKeysElems xs
def sortKeysMembers (isTopLevel : Bool) : Members → Members
  | [] => []
  | (k, v) :: ms =>
    if isTopLevel && isEmptyExtensions (k, v) then sortKeysMembers isTopLevel ms
    else (k, sortKeys false v) :: sortKeysMembers isTopLevel ms
end

def canonicalJson (obj : Members) : ByteArray := encode (stringify (sortKeys true (.obj obj)))

/-! ### Sorting and assigning -/

theorem byKey_total_trans : Std.Total byKey ∧ IsTrans (JsString × Json) byKey :=
  ⟨⟨fun m n => le_total m.1 n.1⟩, ⟨fun _ _ _ h k => le_trans (α := JsString) h k⟩⟩

instance : Std.Total byKey := byKey_total_trans.1

instance : IsTrans (JsString × Json) byKey := byKey_total_trans.2

/-- Assigning fresh keys one after the other drops `__proto__` and keeps the rest. -/
theorem foldl_setProperty (ms o : Members) (hm : (ms.map Prod.fst).Nodup)
    (ho : ∀ m ∈ ms, m.1 ∉ o.map Prod.fst) :
    ms.foldl (fun o m => setProperty o m.1 m.2) o =
      o ++ ms.filter fun m => decide (m.1 ≠ js "__proto__") := by
  induction ms generalizing o with
  | nil => simp
  | cons m ms ih =>
    simp only [List.map_cons, List.nodup_cons] at hm
    rw [List.foldl_cons]
    by_cases hk : m.1 = js "__proto__"
    · rw [setProperty, if_pos hk, ih o hm.2 fun n hn => ho n (List.mem_cons_of_mem _ hn),
        List.filter_cons_of_neg (by simp [hk])]
    · have hout := ho m (by simp)
      rw [setProperty, if_neg hk, if_neg hout, ih _ hm.2, List.filter_cons_of_pos (by simp [hk]),
        List.append_assoc]
      · rfl
      · exact JsMap.notMem_keys_snoc hm.1 (fun n hn => ho n (List.mem_cons_of_mem _ hn)) m.2

/-- A list of members with unique keys has one sorted arrangement. -/
theorem insertionSort_eq_of_perm {ms ns : Members} (hm : (ms.map Prod.fst).Nodup)
    (h : ms.Perm ns) : ms.insertionSort byKey = ns.insertionSort byKey := by
  have hp : (ms.insertionSort byKey).Perm (ns.insertionSort byKey) :=
    (List.perm_insertionSort byKey ms).trans (h.trans (List.perm_insertionSort byKey ns).symm)
  refine hp.eq_of_pairwise ?_ (List.pairwise_insertionSort byKey ms)
    (List.pairwise_insertionSort byKey ns)
  intro a b ha hb hab hba
  have ha' := (List.perm_insertionSort byKey ms).mem_iff.mp ha
  have hb' := h.mem_iff.mpr ((List.perm_insertionSort byKey ns).mem_iff.mp hb)
  exact eq_of_mem_of_fst_eq hm ha' hb' (le_antisymm (α := JsString) hab hba)

theorem filter_insertionSort {ms : Members} (hm : (ms.map Prod.fst).Nodup)
    (p : JsString × Json → Bool) :
    (ms.insertionSort byKey).filter p = (ms.filter p).insertionSort byKey := by
  have hp : ((ms.insertionSort byKey).filter p).Perm ((ms.filter p).insertionSort byKey) :=
    ((List.perm_insertionSort byKey ms).filter p).trans
      (List.perm_insertionSort byKey (ms.filter p)).symm
  refine hp.eq_of_pairwise ?_
    ((List.pairwise_insertionSort byKey ms).sublist List.filter_sublist)
    (List.pairwise_insertionSort byKey _)
  intro a b ha hb hab hba
  have ha' := (List.perm_insertionSort byKey ms).mem_iff.mp (List.mem_filter.mp ha).1
  have hb' := (List.mem_filter.mp ((List.perm_insertionSort byKey _).mem_iff.mp hb)).1
  exact eq_of_mem_of_fst_eq hm ha' hb' (le_antisymm (α := JsString) hab hba)

/-- The members of an object that survive assignment into a fresh object. -/
def ownMembers (ms : Members) : Members := ms.filter fun m => decide (m.1 ≠ js "__proto__")

theorem ownMembers_nodup {ms : Members} (hm : (ms.map Prod.fst).Nodup) :
    ((ownMembers ms).map Prod.fst).Nodup := hm.sublist (List.filter_sublist.map _)

theorem sortedObject_eq {ms : Members} (hm : (ms.map Prod.fst).Nodup) :
    sortedObject ms = enumerate ((ownMembers ms).insertionSort byKey) := by
  have hs : ((ms.insertionSort byKey).map Prod.fst).Nodup :=
    ((List.perm_insertionSort byKey ms).map Prod.fst).nodup_iff.mpr hm
  rw [sortedObject, foldl_setProperty _ _ hs (by simp), List.nil_append,
    filter_insertionSort hm, ownMembers]

/-- The filled object is determined by the surviving members, in whatever order they came. -/
theorem sortedObject_eq_iff {ms ns : Members} (hm : (ms.map Prod.fst).Nodup)
    (hn : (ns.map Prod.fst).Nodup) :
    sortedObject ms = sortedObject ns ↔ (ownMembers ms).Perm (ownMembers ns) := by
  rw [sortedObject_eq hm, sortedObject_eq hn]
  constructor
  · intro h
    have hp (ls : Members) : (enumerate (ls.insertionSort byKey)).Perm ls :=
      (enumerate_perm _).trans (List.perm_insertionSort byKey ls)
    exact (hp _).symm.trans (h ▸ hp _)
  · intro h
    rw [insertionSort_eq_of_perm (ownMembers_nodup hm) h]

end GhostBazaar.Core
