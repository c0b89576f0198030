import GhostBazaar.Core.Canonical

/-! What `canonicalJson` determines about an object. The bytes fix every member except
those named `__proto__`, which the assignment in `sortKeys` loses, and a top-level `extensions`
that is empty, be it an object or a list. -/
namespace GhostBazaar.Core
open Js Json

/-! ### The part of a value that reaches the bytes -/

mutual
/-- The value without its members named `__proto__`, at any depth. -/
def visible : Json → Json
  | .arr xs => .arr (visibleElems xs)
  | .obj ms => .obj (visibleMembers ms)
  | v => v
def visibleElems : List Json → List Json
  | [] => []
  | x :: xs => visible x :: visibleElems xs
def visibleMembers : Members → Members
  | [] => []
  | (k, v) :: ms =>
    if k = js "__proto__" then visibleMembers ms else (k, visible v) :: visibleMembers ms
end

/-- A top-level object as `JSON.parse` returns it. -/
structure JsonObject where
  members : Members
  wellFormed : WellFormed (.obj members)

/-- The top-level object that the bytes show. -/
def JsonObject.visible (a : JsonObject) : Json :=
  Core.visible (.obj (a.members.filter fun m => !isEmptyExtensions m))

/-- An `extensions` member that stands for an absent one. -/
def isEmptyObjectExtensions (m : JsString × Json) : Bool :=
  decide (m.1 = js "extensions") && decide (m.2 = .obj [])

/-- Equality of top-level objects up to member order and up to a missing or empty
`extensions` member. -/
def JsonObject.Same (a b : JsonObject) : Prop :=
  same (.obj (a.members.filter fun m => !isEmptyObjectExtensions m))
    (.obj (b.members.filter fun m => !isEmptyObjectExtensions m)) = true

/-! ### Members as maps -/

theorem visibleMembers_eq (ms : Members) :
    visibleMembers ms = (ownMembers ms).map fun m => (m.1, visible m.2) := by
  induction ms with
  | nil => rfl
  | cons m ms ih =>
    obtain ⟨k, v⟩ := m
    by_cases hk : k = js "__proto__"
    · simp [visibleMembers, ownMembers, hk, ih]
    · simp [visibleMembers, ownMembers, hk, ih]

theorem sortKeysMembers_eq (ms : Members) :
    sortKeysMembers false ms = ms.map fun m => (m.1, sortKeys false m.2) := by
  induction ms with
  | nil => rfl
  | cons m ms ih =>
    obtain ⟨k, v⟩ := m
    simp [sortKeysMembers, ih]

theorem sortKeysMembers_top (ms : Members) :
    sortKeysMembers true ms = sortKeysMembers false (ms.filter fun m => !isEmptyExtensions m) := by
  induction ms with
  | nil => rfl
  | cons m ms ih =>
    obtain ⟨k, v⟩ := m
    by_cases he : isEmptyExtensions (k, v) = true
    · simp [sortKeysMembers, he, ih]
    · simp [sortKeysMembers, he, ih]

theorem ownMembers_sortKeys (ms : Members) :
    ownMembers (sortKeysMembers false ms) = (ownMembers ms).map fun m =>
      (m.1, sortKeys false m.2) := by
  rw [sortKeysMembers_eq, ownMembers, List.filter_map]
  rfl

theorem map_fst_map {f : Json → Json} (ms : Members) :
    (ms.map fun m => (m.1, f m.2)).map Prod.fst = ms.map Prod.fst := by
  simp [Function.comp_def]

theorem wellFormedMembers_iff {ms : Members} :
    WellFormedMembers ms ↔ ∀ m ∈ ms, WellFormed m.2 := by
  induction ms with
  | nil => simp [WellFormedMembers]
  | cons m ms ih =>
    obtain ⟨k, v⟩ := m
    simp [WellFormedMembers, ih]

theorem wellFormed_filter {ms : Members} (h : WellFormed (.obj ms)) (p : JsString × Json → Bool) :
    WellFormed (.obj (ms.filter p)) :=
  ⟨h.1.sublist (List.filter_sublist.map _), wellFormedMembers_iff.mpr fun m hm =>
    wellFormedMembers_iff.mp h.2 m (List.mem_filter.mp hm).1⟩

/-! ### Sorting keys against equality up to order -/

/-- `sortKeys` identifies two values exactly when their visible parts are the same. -/
def Reflects (v w : Json) : Prop :=
  sortKeys false v = sortKeys false w ↔ same (visible v) (visible w) = true

/-- The object case: the sorted objects agree when the surviving members do. -/
theorem reflects_obj {ms ns : Members} (hm : (ms.map Prod.fst).Nodup)
    (hn : (ns.map Prod.fst).Nodup) (h : ∀ m ∈ ms, ∀ n ∈ ns, Reflects m.2 n.2) :
    Reflects (.obj ms) (.obj ns) := by
  have hkeys (ls : Members) (hl : (ls.map Prod.fst).Nodup) (f : Json → Json) :
      (((ownMembers ls).map fun m => (m.1, f m.2)).map Prod.fst).Nodup := by
    rw [map_fst_map]
    exact ownMembers_nodup hl
  have hsort (ls : Members) (hl : (ls.map Prod.fst).Nodup) :
      ((sortKeysMembers false ls).map Prod.fst).Nodup := by
    rw [sortKeysMembers_eq, map_fst_map]
    exact hl
  have hown {ls : Members} {m} (hmem : m ∈ ownMembers ls) : m ∈ ls := (List.mem_filter.mp hmem).1
  -- both sides speak of the surviving members, with their values mapped
  have hleft : sortKeys false (.obj ms) = sortKeys false (.obj ns) ↔
      MembersMatch (· = ·) ((ownMembers ms).map fun m => (m.1, sortKeys false m.2))
        ((ownMembers ns).map fun n => (n.1, sortKeys false n.2)) := by
    rw [MembersMatch.perm_iff (hkeys ms hm _), ← ownMembers_sortKeys, ← ownMembers_sortKeys,
      ← sortedObject_eq_iff (hsort ms hm) (hsort ns hn)]
    simp [sortKeys]
  have hright : same (visible (.obj ms)) (visible (.obj ns)) = true ↔
      MembersMatch (fun v w => same v w = true) ((ownMembers ms).map fun m => (m.1, visible m.2))
        ((ownMembers ns).map fun n => (n.1, visible n.2)) := by
    rw [visible, visible, visibleMembers_eq, visibleMembers_eq, same_obj_iff (hkeys ns hn _)]
  rw [Reflects, hleft, hright]
  have hsplit (R : Json → Json → Prop) (f : Json → Json) :
      MembersMatch R ((ownMembers ms).map fun m => (m.1, f m.2))
        ((ownMembers ns).map fun n => (n.1, f n.2)) ↔
      MembersMatch (fun v w => R (f v) (f w)) (ownMembers ms) (ownMembers ns) := by
    constructor
    · rintro ⟨hlen, hmem⟩
      refine ⟨by simpa using hlen, fun m hm' => ?_⟩
      obtain ⟨w, hw, hR⟩ := hmem _ (List.mem_map.mpr ⟨m, hm', rfl⟩)
      obtain ⟨n, hn', he⟩ := List.mem_map.mp hw
      obtain ⟨h1, rfl⟩ := Prod.mk.inj he
      exact ⟨n.2, by rwa [← h1], hR⟩
    · exact fun hmm => hmm.map fun _ _ _ _ hR => hR
  rw [hsplit, hsplit]
  refine and_congr_right fun _ => forall₂_congr fun m hm' => exists_congr fun w => ?_
  exact and_congr_right fun hw => h m (hown hm') (m.1, w) (hown hw)

mutual
theorem sortKeys_reflects : (v w : Json) → WellFormed v → WellFormed w → Reflects v w
  | .arr xs, .arr ys, hv, hw => by
    simp only [Reflects, sortKeys, visible, same, Json.arr.injEq]
    exact sortKeysElems_reflects xs ys hv hw
  | .obj ms, .obj ns, hv, hw =>
    reflects_obj hv.1 hw.1 fun m hm n hn =>
      sortKeysMembers_reflects ms hv.2 m hm n.2 (wellFormedMembers_iff.mp hw.2 n hn)
  | .null, .null, _, _ => by simp [Reflects, sortKeys, visible, same]
  | .bool a, .bool b, _, _ => by simp [Reflects, sortKeys, visible, same]
  | .num x, .num y, _, _ => by simp [Reflects, sortKeys, visible, same]
  | .str s, .str t, _, _ => by simp [Reflects, sortKeys, visible, same]
  | .null, .bool _, _, _ | .null, .num _, _, _ | .null, .str _, _, _ | .null, .arr _, _, _
  | .null, .obj _, _, _ | .bool _, .null, _, _ | .bool _, .num _, _, _ | .bool _, .str _, _, _
  | .bool _, .arr _, _, _ | .bool _, .obj _, _, _ | .num _, .null, _, _ | .num _, .bool _, _, _
  | .num _, .str _, _, _ | .num _, .arr _, _, _ | .num _, .obj _, _, _ | .str _, .null, _, _
  | .str _, .bool _, _, _ | .str _, .num _, _, _ | .str _, .arr _, _, _ | .str _, .obj _, _, _
  | .arr _, .null, _, _ | .arr _, .bool _, _, _ | .arr _, .num _, _, _ | .arr _, .str _, _, _
  | .arr _, .obj _, _, _ | .obj _, .null, _, _ | .obj _, .bool _, _, _ | .obj _, .num _, _, _
  | .obj _, .str _, _, _ | .obj _, .arr _, _, _ => by simp [Reflects, sortKeys, visible, same]
theorem sortKeysElems_reflects : (xs ys : List Json) → WellFormedElems xs → WellFormedElems ys →
    (sortKeysElems xs = sortKeysElems ys ↔ sameElems (visibleElems xs) (visibleElems ys) = true)
  | [], [], _, _ => by simp [sortKeysElems, visibleElems, sameElems]
  | [], _ :: _, _, _ => by simp [sortKeysElems, visibleElems, sameElems]
  | _ :: _, [], _, _ => by simp [sortKeysElems, visibleElems, sameElems]
  | x :: xs, y :: ys, hx, hy => by
    have h := sortKeys_reflects x y hx.1 hy.1
    have hs := sortKeysElems_reflects xs ys hx.2 hy.2
    rw [Reflects] at h
    simp only [sortKeysElems, visibleElems, sameElems, List.cons.injEq, Bool.and_eq_true, h, hs]
theorem sortKeysMembers_reflects : (ms : Members) → WellFormedMembers ms → ∀ m ∈ ms,
    ∀ w, WellFormed w → Reflects m.2 w
  | [], _, _, hm, _, _ => nomatch hm
  | (_, v) :: ms, h, m, hm, w, hw => by
    rcases List.mem_cons.mp hm with rfl | hm
    · exact sortKeys_reflects v w h.1 hw
    · exact sortKeysMembers_reflects ms h.2 m hm w hw
end

theorem canonicalJson_eq_iff_visible (a b : JsonObject) :
    canonicalJson a.members = canonicalJson b.members ↔ same a.visible b.visible = true := by
  have htop (c : JsonObject) : sortKeys true (.obj c.members) =
      sortKeys false (.obj (c.members.filter fun m => !isEmptyExtensions m)) := by
    rw [sortKeys, sortKeys, sortKeysMembers_top]
  rw [canonicalJson, canonicalJson, encode_injective.eq_iff, stringify_injective.eq_iff, htop, htop]
  exact sortKeys_reflects _ _ (wellFormed_filter a.wellFormed _) (wellFormed_filter b.wellFormed _)

/-! ### Equal objects have equal bytes -/

mutual
theorem same_visible : (v w : Json) → WellFormed v → WellFormed w → same v w = true →
    same (visible v) (visible w) = true
  | .arr xs, .arr ys, hv, hw, h => by
    simp only [visible, same] at h ⊢
    exact sameElems_visible xs ys hv hw h
  | .obj ms, .obj ns, hv, hw, h => by
    have hmatch := ((same_obj_iff hw.1).mp h).filter hv.1 hw.1
      (p := fun m => decide (m.1 ≠ js "__proto__")) fun _ _ _ _ => rfl
    rw [visible, visible, visibleMembers_eq, visibleMembers_eq, same_obj_iff]
    · refine hmatch.map fun m hm n hn hs => ?_
      exact sameMembers_visible ms hv.2 m (List.mem_filter.mp hm).1 n.2
        (wellFormedMembers_iff.mp hw.2 n (List.mem_filter.mp hn).1) hs
    · rw [map_fst_map]
      exact ownMembers_nodup hw.1
  | .null, .null, _, _, _ => rfl
  | .bool a, .bool b, _, _, h => h
  | .num x, .num y, _, _, h => h
  | .str s, .str t, _, _, h => h
theorem sameElems_visible : (xs ys : List Json) → WellFormedElems xs → WellFormedElems ys →
    sameElems xs ys = true → sameElems (visibleElems xs) (visibleElems ys) = true
  | [], [], _, _, _ => rfl
  | x :: xs, y :: ys, hx, hy, h => by
    simp only [visibleElems, sameElems, Bool.and_eq_true] at h ⊢
    exact ⟨same_visible x y hx.1 hy.1 h.1, sameElems_visible xs ys hx.2 hy.2 h.2⟩
theorem sameMembers_visible : (ms : Members) → WellFormedMembers ms → ∀ m ∈ ms, ∀ w,
    WellFormed w → same m.2 w = true → same (visible m.2) (visible w) = true
  | [], _, _, hm, _, _, _ => nomatch hm
  | (_, v) :: ms, h, m, hm, w, hw, hs => by
    rcases List.mem_cons.mp hm with rfl | hm
    · exact same_visible v w h.1 hw hs
    · exact sameMembers_visible ms h.2 m hm w hw hs
end

theorem filter_emptyExtensions (ms : Members) :
    (ms.filter fun m => !isEmptyExtensions m) = (ms.filter fun m => !isEmptyObjectExtensions m).filter
      fun m => !(decide (m.1 = js "extensions") && decide (m.2 = .arr [])) := by
  rw [List.filter_filter]
  refine List.filter_congr fun m _ => ?_
  obtain ⟨k, v⟩ := m
  by_cases hk : k = js "extensions"
  · cases v with
    | arr xs => cases xs <;> simp [isEmptyExtensions, isEmptyObjectExtensions, hk]
    | obj ms => cases ms <;> simp [isEmptyExtensions, isEmptyObjectExtensions, hk]
    | _ => simp [isEmptyExtensions, isEmptyObjectExtensions, hk]
  · simp [isEmptyExtensions, isEmptyObjectExtensions, hk]

theorem JsonObject.Same.visible {a b : JsonObject} (h : a.Same b) :
    same a.visible b.visible = true := by
  have hwf (c : JsonObject) := wellFormed_filter c.wellFormed fun m => !isEmptyObjectExtensions m
  have hmatch := ((same_obj_iff (hwf b).1).mp h).filter (hwf a).1 (hwf b).1
    (p := fun m => !(decide (m.1 = js "extensions") && decide (m.2 = .arr []))) ?_
  · rw [← filter_emptyExtensions, ← filter_emptyExtensions] at hmatch
    have hb := wellFormed_filter b.wellFormed fun m => !isEmptyExtensions m
    exact same_visible _ _ (wellFormed_filter a.wellFormed _) hb ((same_obj_iff hb.1).mpr hmatch)
  · intro k v w hs
    have hempty : v = .arr [] ↔ w = .arr [] := by
      constructor
      · rintro rfl
        match w, hs with
        | .arr [], _ => rfl
      · rintro rfl
        match v, hs with
        | .arr [], _ => rfl
    simp only [hempty]

/-- `canonicalJson` identifies two objects exactly when they are equal up to presentation,
for every pair that does not differ in its invisible members alone: those named `__proto__`, and
an `extensions` that is the empty list. -/
theorem canonicalJson_injective_iff (a b : JsonObject) :
    (canonicalJson a.members = canonicalJson b.members ↔ a.Same b) ↔
      (same a.visible b.visible = true → a.Same b) := by
  rw [canonicalJson_eq_iff_visible]
  exact ⟨Iff.mp, fun h => ⟨h, JsonObject.Same.visible⟩⟩

/-- The bytes of `{"extensions":[]}` are those of `{}`, though it is another object. -/
example : ∃ a b : JsonObject, a.members = [(js "extensions", .arr [])] ∧ b.members = [] ∧
    canonicalJson a.members = canonicalJson b.members ∧ ¬ a.Same b :=
  ⟨⟨[(js "extensions", .arr [])], by simp [WellFormed, WellFormedMembers, WellFormedElems]⟩,
    ⟨[], by simp [WellFormed, WellFormedMembers]⟩, rfl, rfl,
    (canonicalJson_eq_iff_visible _ _).mpr (by decide), by unfold JsonObject.Same; decide⟩

/-- `{"spec":{"__proto__":{"pages":1}}}` and `{"spec":{}}`. -/
def protoSpec : JsonObject where
  members := [(js "spec", .obj [(js "__proto__", .obj [(js "pages", .num (JsNumber.ofNat 1))])])]
  wellFormed := by simp [WellFormed, WellFormedMembers]

def emptySpec : JsonObject where
  members := [(js "spec", .obj [])]
  wellFormed := by simp [WellFormed, WellFormedMembers]

/-- A member named `__proto__` can be added to a signed object without changing its bytes. -/
theorem canonicalJson_loses_proto :
    ¬ (canonicalJson protoSpec.members = canonicalJson emptySpec.members ↔
      protoSpec.Same emptySpec) := by
  rw [canonicalJson_injective_iff, not_forall]
  exact ⟨by decide, by unfold JsonObject.Same; decide⟩

end GhostBazaar.Core
