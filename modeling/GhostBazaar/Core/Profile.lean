import GhostBazaar.Core.CanonicalInjective

/-! The normative serialization: keys in the order of their code points at every depth.
`canonicalJson` produces it for the objects whose keys enumerate in that order and whose
`extensions` are no empty list. -/
namespace GhostBazaar.Core
open Js Json

/-! ### Code points -/

/-- The code points of a string; an unpaired surrogate is one by itself. -/
def codePointValues : JsString → List ℕ
  | [] => []
  | [u] => [u.val]
  | u :: v :: s =>
    if isHighSurrogate u ∧ isLowSurrogate v then (pairChar u v).toNat :: codePointValues s
    else u.val :: codePointValues (v :: s)

private def codePointUnits (n : ℕ) : JsString :=
  if n < 0x10000 then [Fin.ofNat 65536 n] else utf16Units (Char.ofNat n)

private theorem flatMap_codePointValues (s : JsString) : (codePointValues s).flatMap codePointUnits = s := by
  have hunit (u : CodeUnit) : codePointUnits u.val = [u] := by
    rw [codePointUnits, if_pos u.isLt]
    exact congrArg (fun v => [v]) (Fin.ext (Nat.mod_eq_of_lt u.isLt))
  induction s using codePointValues.induct with
  | case1 => rfl
  | case2 u => simp [codePointValues, hunit]
  | case3 u v s hpair ih =>
    have hbig : ¬ (pairChar u v).toNat < 0x10000 := by
      rw [pairChar_toNat hpair.1 hpair.2]
      omega
    rw [codePointValues, if_pos hpair, List.flatMap_cons, ih, codePointUnits, if_neg hbig,
      Char.ofNat_toNat, utf16Units_pairChar hpair.1 hpair.2]
    rfl
  | case4 u v s hpair ih =>
    rw [codePointValues, if_neg hpair, List.flatMap_cons, ih, hunit]
    rfl

theorem codePointValues_injective : Function.Injective codePointValues := fun s t h => by
  rw [← flatMap_codePointValues s, h, flatMap_codePointValues]

/-! ### The profile -/

def byCodePoint (m n : JsString × Json) : Prop := codePointValues m.1 ≤ codePointValues n.1

instance : DecidableRel byCodePoint := fun m n =>
  inferInstanceAs (Decidable (codePointValues m.1 ≤ codePointValues n.1))

instance : Std.Total byCodePoint := ⟨fun m n => le_total (codePointValues m.1) (codePointValues n.1)⟩

instance : IsTrans (JsString × Json) byCodePoint := ⟨fun _ _ _ h k => le_trans (α := List ℕ) h k⟩

mutual
/-- The value with the keys of every object in code point order. -/
def sortByCodePoint : Json → Json
  | .arr xs => .arr (sortByCodePointElems xs)
  | .obj ms => .obj ((sortByCodePointMembers ms).insertionSort byCodePoint)
  | v => v
def sortByCodePointElems : List Json → List Json
  | [] => []
  | x :: xs => sortByCodePoint x :: sortByCodePointElems xs
def sortByCodePointMembers : Members → Members
  | [] => []
  | (k, v) :: ms => (k, sortByCodePoint v) :: sortByCodePointMembers ms
end

/-- The bytes that the profile prescribes for an object; it omits only the `extensions` that are
the empty object. -/
def profileJson (obj : Members) : ByteArray :=
  encode (stringify (sortByCodePoint (.obj (obj.filter fun m => !isEmptyObjectExtensions m))))

/-- The keys of one object: `__proto__` is none of them, and those that precede others in
code point order also enumerate before them. -/
def KeysConform (keys : List JsString) : Prop :=
  js "__proto__" ∉ keys ∧
    ∀ k ∈ keys, ∀ l ∈ keys, codePointValues k < codePointValues l → EnumeratesBefore k l

mutual
/-- The keys of every object inside a value conform. -/
def Conforms : Json → Prop
  | .arr xs => ConformsElems xs
  | .obj ms => KeysConform (ms.map Prod.fst) ∧ ConformsMembers ms
  | _ => True
def ConformsElems : List Json → Prop
  | [] => True
  | x :: xs => Conforms x ∧ ConformsElems xs
def ConformsMembers : Members → Prop
  | [] => True
  | (_, v) :: ms => Conforms v ∧ ConformsMembers ms
end

/-! ### One object -/

theorem sortByCodePointMembers_eq (ms : Members) :
    sortByCodePointMembers ms = ms.map fun m => (m.1, sortByCodePoint m.2) := by
  induction ms with
  | nil => rfl
  | cons m ms ih =>
    obtain ⟨k, v⟩ := m
    simp [sortByCodePointMembers, ih]

theorem conformsMembers_iff {ms : Members} : ConformsMembers ms ↔ ∀ m ∈ ms, Conforms m.2 := by
  induction ms with
  | nil => simp [ConformsMembers]
  | cons m ms ih =>
    obtain ⟨k, v⟩ := m
    simp [ConformsMembers, ih]

/-- The keys of a sorted object strictly increase. -/
theorem byCodePoint_increasing {ms : Members} (hm : (ms.map Prod.fst).Nodup) :
    (ms.insertionSort byCodePoint).Pairwise fun m n => codePointValues m.1 < codePointValues n.1 := by
  have hne : (ms.insertionSort byCodePoint).Pairwise fun m n => m.1 ≠ n.1 :=
    ((List.perm_insertionSort byCodePoint ms).pairwise_iff fun h => h.symm).mpr
      (List.pairwise_map.mp hm)
  refine ((List.pairwise_insertionSort byCodePoint ms).and hne).imp ?_
  intro m n ⟨hle, hne⟩
  exact lt_of_le_of_ne hle fun he => hne (codePointValues_injective he)

/-- The keys of a filled object appear in the order of enumeration. -/
theorem sortedObject_pairwise {ms : Members} (hm : (ms.map Prod.fst).Nodup) :
    (sortedObject ms).Pairwise fun m n => EnumeratesBefore m.1 n.1 := by
  rw [sortedObject_eq hm]
  have hne : ((ownMembers ms).insertionSort byKey).Pairwise fun m n => m.1 ≠ n.1 :=
    ((List.perm_insertionSort byKey _).pairwise_iff fun h => h.symm).mpr
      (List.pairwise_map.mp (ownMembers_nodup hm))
  refine enumerate_pairwise (((List.pairwise_insertionSort byKey _).and hne).imp ?_)
  intro m n ⟨hle, hne⟩
  exact lt_of_le_of_ne (α := JsString) hle hne

theorem sortedObject_perm {ms : Members} (hm : (ms.map Prod.fst).Nodup) :
    (sortedObject ms).Perm (ownMembers ms) := by
  rw [sortedObject_eq hm]
  exact (enumerate_perm _).trans (List.perm_insertionSort byKey _)

theorem ownMembers_eq_self {ms : Members} :
    ownMembers ms = ms ↔ js "__proto__" ∉ ms.map Prod.fst := by
  rw [ownMembers, List.filter_eq_self]
  constructor
  · intro h hproto
    obtain ⟨m, hm, hk⟩ := List.mem_map.mp hproto
    exact of_decide_eq_true (h m hm) hk
  · intro h m hm
    exact decide_eq_true fun hk => h (List.mem_map.mpr ⟨m, hm, hk⟩)

/-- The filled object is the sorted one when its keys conform and its values agree. -/
theorem sortedObject_eq_profile_iff {ms : Members} (hm : (ms.map Prod.fst).Nodup)
    {f g : Json → Json} :
    sortedObject (ms.map fun m => (m.1, f m.2)) =
        (ms.map fun m => (m.1, g m.2)).insertionSort byCodePoint ↔
      KeysConform (ms.map Prod.fst) ∧ ∀ m ∈ ms, f m.2 = g m.2 := by
  have hf : ((ms.map fun m => (m.1, f m.2)).map Prod.fst).Nodup := by rwa [map_fst_map]
  have hg : ((ms.map fun m => (m.1, g m.2)).map Prod.fst).Nodup := by rwa [map_fst_map]
  have hsorted := List.perm_insertionSort byCodePoint (ms.map fun m => (m.1, g m.2))
  constructor
  · intro h
    have hperm : (ownMembers (ms.map fun m => (m.1, f m.2))).Perm
        (ms.map fun m => (m.1, g m.2)) := (sortedObject_perm hf).symm.trans (h ▸ hsorted)
    have hown : ownMembers (ms.map fun m => (m.1, f m.2)) = ms.map fun m => (m.1, f m.2) :=
      List.filter_sublist.eq_of_length (hperm.length_eq.trans (by simp))
    refine ⟨⟨?_, ?_⟩, fun m hmem => ?_⟩
    · rw [ownMembers_eq_self, map_fst_map] at hown
      exact hown
    · -- the common list is in both orders, so the orders agree on its keys
      have hboth := (sortedObject_pairwise hf).and (h ▸ byCodePoint_increasing hg)
      have hagree : ∀ m ∈ sortedObject (ms.map fun m => (m.1, f m.2)),
          ∀ n ∈ sortedObject (ms.map fun m => (m.1, f m.2)),
          codePointValues m.1 < codePointValues n.1 → EnumeratesBefore m.1 n.1 :=
        (hboth.imp fun h _ => h.1).forall_of_forall_of_flip (fun m _ h => (lt_irrefl _ h).elim)
          (hboth.imp fun h hgt => (lt_asymm h.2 hgt).elim)
      intro k hk l hl hlt
      obtain ⟨m, hm', rfl⟩ := List.mem_map.mp hk
      obtain ⟨n, hn', rfl⟩ := List.mem_map.mp hl
      have hin {m} (hm' : m ∈ ms) :
          (m.1, g m.2) ∈ sortedObject (ms.map fun m => (m.1, f m.2)) := by
        rw [h, hsorted.mem_iff]
        exact List.mem_map.mpr ⟨m, hm', rfl⟩
      exact hagree (m.1, g m.2) (hin hm') (n.1, g n.2) (hin hn') hlt
    · have hin : (m.1, f m.2) ∈ ms.map fun m => (m.1, g m.2) := by
        rw [← hperm.mem_iff, hown]
        exact List.mem_map.mpr ⟨m, hmem, rfl⟩
      exact (Prod.mk.inj (eq_of_mem_of_fst_eq hg hin (List.mem_map.mpr ⟨m, hmem, rfl⟩) rfl)).2
  · rintro ⟨⟨hproto, horder⟩, hvalues⟩
    have heq : (ms.map fun m => (m.1, f m.2)) = ms.map fun m => (m.1, g m.2) :=
      List.map_congr_left fun m hmem => by rw [hvalues m hmem]
    have hown := ownMembers_eq_self.mpr (by rwa [map_fst_map] :
      js "__proto__" ∉ (ms.map fun m => (m.1, g m.2)).map Prod.fst)
    rw [heq]
    have hperm := sortedObject_perm hg
    rw [hown] at hperm
    refine (hperm.trans hsorted.symm).eq_of_pairwise (fun _ _ _ _ h k => (lt_asymm h k).elim) ?_
      (byCodePoint_increasing hg)
    have hne : (sortedObject (ms.map fun m => (m.1, g m.2))).Pairwise fun m n => m.1 ≠ n.1 :=
      (hperm.pairwise_iff fun h => h.symm).mpr (List.pairwise_map.mp hg)
    refine ((sortedObject_pairwise hg).and hne).imp_of_mem fun {m n} hm' hn' ⟨hbefore, hne⟩ => ?_
    have hkey {m : JsString × Json} (hm' : m ∈ sortedObject (ms.map fun m => (m.1, g m.2))) :
        m.1 ∈ ms.map Prod.fst := by
      rw [← map_fst_map (f := g)]
      exact List.mem_map_of_mem (hperm.mem_iff.mp hm')
    refine (lt_or_gt_of_ne fun he => hne (codePointValues_injective he)).resolve_right fun hgt => ?_
    exact hbefore.asymm (horder _ (hkey hn') _ (hkey hm') hgt)

/-! ### Every value -/

mutual
theorem sortKeys_eq_profile_iff : (v : Json) → WellFormed v →
    (sortKeys false v = sortByCodePoint v ↔ Conforms v)
  | .arr xs, hv => by
    simp only [sortKeys, sortByCodePoint, Conforms, Json.arr.injEq]
    exact sortKeysElems_eq_profile_iff xs hv
  | .obj ms, hv => by
    simp only [sortKeys, sortByCodePoint, Conforms, Json.obj.injEq, sortKeysMembers_eq,
      sortByCodePointMembers_eq, sortedObject_eq_profile_iff hv.1, conformsMembers_iff]
    exact and_congr_right fun _ => sortKeysMembers_eq_profile_iff ms hv.2
  | .null, _ => by simp [sortKeys, sortByCodePoint, Conforms]
  | .bool _, _ => by simp [sortKeys, sortByCodePoint, Conforms]
  | .num _, _ => by simp [sortKeys, sortByCodePoint, Conforms]
  | .str _, _ => by simp [sortKeys, sortByCodePoint, Conforms]
theorem sortKeysElems_eq_profile_iff : (xs : List Json) → WellFormedElems xs →
    (sortKeysElems xs = sortByCodePointElems xs ↔ ConformsElems xs)
  | [], _ => by simp [sortKeysElems, sortByCodePointElems, ConformsElems]
  | x :: xs, hx => by
    simp only [sortKeysElems, sortByCodePointElems, ConformsElems, List.cons.injEq,
      sortKeys_eq_profile_iff x hx.1, sortKeysElems_eq_profile_iff xs hx.2]
theorem sortKeysMembers_eq_profile_iff : (ms : Members) → WellFormedMembers ms →
    ((∀ m ∈ ms, sortKeys false m.2 = sortByCodePoint m.2) ↔ ∀ m ∈ ms, Conforms m.2)
  | [], _ => by simp
  | (_, v) :: ms, h => by
    simp only [List.forall_mem_cons, sortKeys_eq_profile_iff v h.1,
      sortKeysMembers_eq_profile_iff ms h.2]
end

/-! ### Empty extensions -/

theorem mem_sortedObject {ms : Members} (hm : (ms.map Prod.fst).Nodup) {m : JsString × Json}
    (h : m ∈ sortedObject ms) : m ∈ ms :=
  (List.mem_filter.mp ((sortedObject_perm hm).mem_iff.mp h)).1

/-- The profile writes an `extensions` that is the empty list. -/
theorem emptyList_mem_profile {ms : Members} (h : (js "extensions", .arr []) ∈ ms) :
    (js "extensions", .arr []) ∈
      (sortByCodePointMembers (ms.filter fun m => !isEmptyObjectExtensions m)).insertionSort
        byCodePoint := by
  rw [(List.perm_insertionSort byCodePoint _).mem_iff, sortByCodePointMembers_eq]
  exact List.mem_map.mpr ⟨_, List.mem_filter.mpr ⟨h, by decide⟩, rfl⟩

/-- The code leaves it out. -/
theorem emptyList_notMem_sortKeys {ms : Members} (hms : WellFormed (.obj ms))
    (h : (js "extensions", .arr []) ∈ ms) :
    (js "extensions", .arr []) ∉
      sortedObject (sortKeysMembers false (ms.filter fun m => !isEmptyExtensions m)) := by
  intro hmem
  have hkeys := (wellFormed_filter hms fun m => !isEmptyExtensions m).1
  rw [sortKeysMembers_eq] at hmem
  obtain ⟨m, hm, he⟩ := List.mem_map.mp (mem_sortedObject (by rwa [map_fst_map]) hmem)
  obtain ⟨hm, hkept⟩ := List.mem_filter.mp hm
  have hvalue := eq_of_mem_of_fst_eq hms.1 hm h (Prod.mk.inj he).1
  rw [hvalue] at hkept
  exact absurd hkept (by decide)

theorem filter_extensions_eq {ms : Members} (h : (js "extensions", .arr []) ∉ ms) :
    (ms.filter fun m => !isEmptyExtensions m) = ms.filter fun m => !isEmptyObjectExtensions m := by
  rw [filter_emptyExtensions, List.filter_eq_self]
  intro m hm
  rw [Bool.not_eq_true', Bool.and_eq_false_imp, decide_eq_true_eq, decide_eq_false_iff_not]
  rintro hk hv
  exact h (by rw [← hk, ← hv]; exact (List.mem_filter.mp hm).1)

/-- `canonicalJson` writes the bytes of the profile exactly for the objects whose `extensions`
are no empty list and whose keys, at every depth, conform. -/
theorem canonicalJson_eq_profile_iff (a : JsonObject) :
    canonicalJson a.members = profileJson a.members ↔
      (js "extensions", .arr []) ∉ a.members ∧
        Conforms (.obj (a.members.filter fun m => !isEmptyObjectExtensions m)) := by
  have htop : sortKeys true (.obj a.members) =
      sortKeys false (.obj (a.members.filter fun m => !isEmptyExtensions m)) := by
    rw [sortKeys, sortKeys, sortKeysMembers_top]
  rw [canonicalJson, profileJson, encode_injective.eq_iff, stringify_injective.eq_iff, htop]
  by_cases hlist : (js "extensions", .arr []) ∈ a.members
  · simp only [hlist, not_true, false_and, iff_false]
    intro h
    rw [sortKeys, sortByCodePoint, Json.obj.injEq] at h
    exact emptyList_notMem_sortKeys a.wellFormed hlist (h ▸ emptyList_mem_profile hlist)
  · rw [filter_extensions_eq hlist]
    simp only [hlist, not_false_eq_true, true_and]
    exact sortKeys_eq_profile_iff _ (wellFormed_filter a.wellFormed _)

/-- `{"spec":{"10":"b","9":"a"}}`: the profile puts `10` before `9`. -/
def numberedSpec : JsonObject where
  members := [(js "spec", .obj [(js "9", .str (js "a")), (js "10", .str (js "b"))])]
  wellFormed := by
    have hkeys : [js "9", js "10"].Nodup := by decide +kernel
    exact ⟨List.nodup_singleton _, ⟨hkeys, trivial, trivial, trivial⟩, trivial⟩

private theorem ten_lt_nine : codePointValues (js "10") < codePointValues (js "9") := by
  have hten : codePointValues (js "10") = [49, 48] := by decide +kernel
  have hnine : codePointValues (js "9") = [57] := by decide +kernel
  rw [hten, hnine]
  decide

private theorem nine_before_ten : ¬ EnumeratesBefore (js "10") (js "9") := by
  have hten : js "10" = [49, 48] := by decide +kernel
  have hnine : js "9" = [57] := by decide +kernel
  have hiten : arrayIndex? [49, 48] = some 10 := by simp [arrayIndex?]
  have hinine : arrayIndex? [57] = some 9 := by simp [arrayIndex?]
  rw [hten, hnine, EnumeratesBefore, hiten, hinine]
  simp

private theorem not_keysConform {keys : List JsString} {k l : JsString} (hk : k ∈ keys)
    (hl : l ∈ keys) (hlt : codePointValues k < codePointValues l) (hbefore : ¬ EnumeratesBefore k l) :
    ¬ KeysConform keys := fun h => hbefore (h.2 k hk l hl hlt)

/-- The code enumerates integer keys by their value. -/
theorem canonicalJson_integer_keys :
    ¬ canonicalJson numberedSpec.members = profileJson numberedSpec.members := by
  have hmembers : (numberedSpec.members.filter fun m => !isEmptyObjectExtensions m) =
      [(js "spec", .obj [(js "9", .str (js "a")), (js "10", .str (js "b"))])] := by
    decide +kernel
  rw [canonicalJson_eq_profile_iff, hmembers]
  rintro ⟨-, hconforms⟩
  have hkeys : KeysConform [js "9", js "10"] := hconforms.2.1.1
  exact not_keysConform (.tail _ (.head _)) (.head _) ten_lt_nine nine_before_ten hkeys

end GhostBazaar.Core
