import GhostBazaar.Engine.NamePlaces

/-! When the sanitized name of an agent is clean: a condition on the places of the registered name. -/
namespace GhostBazaar.Engine.ListingEnricher
open Js
open scoped Classical

/-- The number of places kept before `i`. -/
noncomputable def keptBefore (input : JsString) (i : ℕ) : ℕ :=
  (List.range i).countP fun k => decide (Kept input k)

/-- What a registered name must not have: among its first shown units an entity that is one only
once the tags, entities and unprintable units in it are gone; and white space where it is cut. -/
structure LeavesClean (input : JsString) : Prop where
  broken : ∀ a b, EntityAt (unitAt input) (Shown input) a b →
    MAX_NAME_LENGTH ≤ keptBefore input b
  cut : ∀ i j, Kept input i → keptBefore input i = MAX_NAME_LENGTH - 1 →
    isSpaceUnit (unitAt input i) = true → i < j → Shown input j →
      isSpaceUnit (unitAt input j) = true

/-! ### The order of the kept places -/

theorem keptBefore_of_split {input : JsString} {front back : List ℕ} {i : ℕ}
    (h : keptPlaces input = front ++ i :: back) : keptBefore input i = front.length := by
  have hplaces := ascending_keptPlaces input
  rw [h] at hplaces
  unfold keptBefore
  rw [List.countP_eq_length_filter]
  apply List.Perm.length_eq
  rw [List.perm_ext_iff_of_nodup (List.nodup_range.filter _)
    ((List.pairwise_append.mp hplaces).1.imp ne_of_lt)]
  intro k
  rw [List.mem_filter, List.mem_range, decide_eq_true_eq, ← mem_keptPlaces, h]
  constructor
  · rintro ⟨hki, hk⟩
    exact (mem_between hplaces hk).1.mp hki
  · intro hk
    have hmem : k ∈ front ++ i :: back := List.mem_append_left _ hk
    exact ⟨(mem_between hplaces hmem).1.mpr hk, hmem⟩

theorem mem_take_keptPlaces {input : JsString} {k m : ℕ} :
    k ∈ (keptPlaces input).take m ↔ Kept input k ∧ keptBefore input k < m := by
  constructor
  · intro htake
    have hmem := List.mem_of_mem_take htake
    refine ⟨mem_keptPlaces.mp hmem, ?_⟩
    obtain ⟨front, back, hsplit⟩ := List.append_of_mem hmem
    rw [keptBefore_of_split hsplit]
    by_contra hlt
    rw [hsplit, List.take_append_of_le_length (not_lt.mp hlt)] at htake
    have hplaces := ascending_keptPlaces input
    rw [hsplit] at hplaces hmem
    exact lt_irrefl k ((mem_between hplaces hmem).1.mpr (List.mem_of_mem_take htake))
  · rintro ⟨hkept, hlt⟩
    obtain ⟨front, back, hsplit⟩ := List.append_of_mem (mem_keptPlaces.mpr hkept)
    rw [keptBefore_of_split hsplit] at hlt
    obtain ⟨n, hn⟩ := Nat.exists_eq_add_of_lt hlt
    rw [hsplit, List.take_append, show m - front.length = n + 1 by omega, List.take_succ_cons]
    exact List.mem_append_right _ List.mem_cons_self

theorem keptBefore_mono {input : JsString} {i j : ℕ} (h : i ≤ j) :
    keptBefore input i ≤ keptBefore input j :=
  (List.range_sublist.mpr h).countP_le

/-- A shown place behind one that is no white space is kept. -/
theorem Shown.kept {input : JsString} {i k : ℕ} (h : Shown input i) (hk : Shown input k)
    (hspace : isSpaceUnit (unitAt input k) = false) (hki : k ≤ i) : Kept input i :=
  ⟨h, k, hki, hk, hspace⟩

/-! ### Entities in the result -/

/-- The entities in the text at some places. -/
theorem hasEntity_places {u : ℕ → CodeUnit} {places : List ℕ} (h : places.Pairwise (· < ·)) :
    HasEntity (places.map u) ↔ ∃ a b, EntityAt u (· ∈ places) a b := by
  constructor
  · rintro ⟨word, hne, hword, front, back, heq⟩
    rw [List.append_assoc] at heq
    obtain ⟨before, others, rfl, rfl, hothers⟩ := List.map_eq_append_iff.mp heq.symm
    obtain ⟨first, rest, rfl, hfirst, hrest⟩ := List.map_eq_cons_iff.mp hothers
    change rest.map u = (word ++ [unitOf ';']) ++ back at hrest
    rw [List.append_assoc] at hrest
    obtain ⟨letters, tail, rfl, rfl, htail⟩ := List.map_eq_append_iff.mp hrest
    obtain ⟨last, after, rfl, hlast, -⟩ := List.map_eq_cons_iff.mp htail
    have hback := (List.pairwise_append.mp h).2.1
    refine ⟨first, last, (entityAt_append h List.mem_cons_self).mpr
      (entityAt_first hback hfirst ?_ ?_ hlast)⟩
    · rintro rfl
      exact hne rfl
    · exact fun k hk => hword (u k) (List.mem_map_of_mem hk)
  · rintro ⟨a, b, hentity⟩
    obtain ⟨front, back, rfl⟩ := List.append_of_mem hentity.first
    have hback := (List.pairwise_append.mp h).2.1
    have hhere := (entityAt_append h List.mem_cons_self).mp hentity
    obtain ⟨n, hn⟩ := hhere.entityLength hback
    obtain ⟨word, rest, hrest, hne, hword, -⟩ := entityLength_eq_some.mp hn
    refine ⟨word, hne, hword, front.map u, rest, ?_⟩
    rw [List.map_append, List.map_cons, hrest, hentity.ampersand]
    simp

/-- Trimming the end leaves what ends in something else than white space. -/
theorem prefix_rdropWhile {p : CodeUnit → Bool} {start text : JsString} {c : CodeUnit}
    (h : start ++ [c] <+: text) (hc : p c = false) : start ++ [c] <+: text.rdropWhile p := by
  obtain ⟨rest, rfl⟩ := h
  induction rest using List.reverseRecOn with
  | nil =>
    rw [List.append_nil, List.rdropWhile_concat_neg _ _ _ (by simp [hc])]
  | append_singleton rest d ih =>
    rw [← List.append_assoc]
    by_cases hd : p d = true
    · rw [List.rdropWhile_concat_pos _ _ _ hd]
      exact ih
    · rw [List.rdropWhile_concat_neg _ _ _ hd]
      exact ⟨rest ++ [d], by simp⟩

theorem hasEntity_sanitizeString (input : JsString) : HasEntity (sanitizeString input) ↔
    HasEntity ((keptText input).take MAX_NAME_LENGTH) := by
  rw [sanitizeString_eq]
  constructor
  · intro h
    exact h.of_infix (((List.rdropWhile_prefix isSpaceUnit _).take _).isInfix)
  · rintro ⟨word, hne, hword, front, back, heq⟩
    have hstart : (front ++ unitOf '&' :: word) ++ [unitOf ';'] <+:
        (keptText input).take MAX_NAME_LENGTH := ⟨back, by rw [← heq]; simp⟩
    have hbegins := prefix_rdropWhile (p := isSpaceUnit)
      (hstart.trans (List.take_prefix _ _)) (by decide)
    have hlength := hstart.length_le.trans (List.length_take_le _ _)
    have htake := List.prefix_take_iff.mpr ⟨hbegins, hlength⟩
    refine HasEntity.of_infix ?_ htake.isInfix
    exact ⟨word, hne, hword, front, [], by simp⟩

/-- The entities of the result are those that one reads in the shown places up to the cut. -/
theorem hasEntity_iff (input : JsString) : HasEntity (sanitizeString input) ↔
    ∃ a b, EntityAt (unitAt input) (Shown input) a b ∧ keptBefore input b < MAX_NAME_LENGTH := by
  have hsemicolon : isSpaceUnit (unitOf ';') = false := by decide
  have hampersand : isSpaceUnit (unitOf '&') = false := by decide
  rw [hasEntity_sanitizeString]
  unfold keptText
  rw [← List.map_take, hasEntity_places ((ascending_keptPlaces input).take)]
  apply exists_congr
  intro a
  apply exists_congr
  intro b
  constructor
  · intro h
    obtain ⟨hfirst, -⟩ := mem_take_keptPlaces.mp h.first
    obtain ⟨hlast, hbefore⟩ := mem_take_keptPlaces.mp h.last
    have htake : ∀ k, Shown input k → a < k → k < b →
        k ∈ (keptPlaces input).take MAX_NAME_LENGTH := by
      intro k hk hak hkb
      have hspace : isSpaceUnit (unitAt input a) = false := by rw [h.ampersand, hampersand]
      exact mem_take_keptPlaces.mpr ⟨hk.kept hfirst.1 hspace hak.le,
        lt_of_le_of_lt (keptBefore_mono hkb.le) hbefore⟩
    obtain ⟨k, hk, hak, hkb⟩ := h.nonempty
    exact ⟨⟨hfirst.1, hlast.1, h.ampersand, h.semicolon,
      fun k hk hak hkb => h.word k (htake k hk hak hkb) hak hkb,
      k, (mem_take_keptPlaces.mp hk).1.1, hak, hkb⟩, hbefore⟩
  · rintro ⟨h, hbefore⟩
    have htake : ∀ k, Shown input k → a ≤ k → k ≤ b →
        k ∈ (keptPlaces input).take MAX_NAME_LENGTH := by
      intro k hk hak hkb
      have hspace : isSpaceUnit (unitAt input a) = false := by rw [h.ampersand, hampersand]
      exact mem_take_keptPlaces.mpr ⟨hk.kept h.first hspace hak,
        lt_of_le_of_lt (keptBefore_mono hkb) hbefore⟩
    obtain ⟨k, hk, hak, hkb⟩ := h.nonempty
    exact ⟨htake a h.first (le_refl a) (hak.trans hkb).le,
      htake b h.last (hak.trans hkb).le (le_refl b), h.ampersand, h.semicolon,
      fun k hk => h.word k (mem_take_keptPlaces.mp hk).1.1, k, htake k hk hak.le hkb.le, hak, hkb⟩

/-! ### White space at the cut -/

/-- The kept places around one that has as many before it as the limit leaves. -/
theorem split_keptPlaces {input : JsString} (h : MAX_NAME_LENGTH < (keptPlaces input).length) :
    ∃ front i back, keptPlaces input = front ++ i :: back ∧
      front.length = MAX_NAME_LENGTH - 1 ∧ back ≠ [] := by
  have hlt : MAX_NAME_LENGTH - 1 < (keptPlaces input).length := by
    unfold MAX_NAME_LENGTH at h ⊢
    omega
  refine ⟨(keptPlaces input).take (MAX_NAME_LENGTH - 1), (keptPlaces input)[MAX_NAME_LENGTH - 1],
    (keptPlaces input).drop MAX_NAME_LENGTH, ?_, ?_, ?_⟩
  · conv_lhs => rw [← List.take_append_drop (MAX_NAME_LENGTH - 1) (keptPlaces input)]
    rw [List.drop_eq_getElem_cons hlt]
    rfl
  · rw [List.length_take]
    exact min_eq_left hlt.le
  · rw [ne_eq, List.drop_eq_nil_iff]
    exact not_le.mpr h

/-- Nothing is trimmed from the end of the result exactly when there is no white space where a
longer name is cut. -/
theorem sanitizeString_end (input : JsString) :
    (sanitizeString input).rdropWhile isSpaceUnit = sanitizeString input ↔
      ∀ i j, Kept input i → keptBefore input i = MAX_NAME_LENGTH - 1 →
        isSpaceUnit (unitAt input i) = true → i < j → Shown input j →
          isSpaceUnit (unitAt input j) = true := by
  have hplaces := ascending_keptPlaces input
  constructor
  · intro hend i j hi hbefore hspace hij hj
    by_contra hnot
    have hnot : isSpaceUnit (unitAt input j) = false := Bool.eq_false_of_not_eq_true hnot
    obtain ⟨front, back, hsplit⟩ := List.append_of_mem (mem_keptPlaces.mpr hi)
    rw [keptBefore_of_split hsplit] at hbefore
    have hjmem := mem_keptPlaces.mpr (hj.kept hj hnot (le_refl j))
    rw [hsplit] at hplaces hjmem
    obtain ⟨middle, rest, rfl⟩ := List.append_of_mem ((mem_between hplaces hjmem).2.mp hij)
    -- The name goes on behind the white space, so it is cut there.
    have hlong : (front.map (unitAt input) ++ unitAt input i :: middle.map (unitAt input)) ++
        [unitAt input j] <+: (keptText input).rdropWhile isSpaceUnit := by
      apply prefix_rdropWhile _ hnot
      refine ⟨rest.map (unitAt input), ?_⟩
      unfold keptText
      rw [hsplit]
      simp
    have hcut : sanitizeString input = front.map (unitAt input) ++ [unitAt input i] := by
      obtain ⟨more, hmore⟩ := hlong
      have hlimit : MAX_NAME_LENGTH = (front.map (unitAt input) ++ [unitAt input i]).length := by
        rw [List.length_append, List.length_map, hbefore]
        rfl
      rw [sanitizeString_eq, ← hmore, hlimit]
      have hfront : front.map (unitAt input) ++ unitAt input i :: middle.map (unitAt input) ++
          [unitAt input j] ++ more = (front.map (unitAt input) ++ [unitAt input i]) ++
            (middle.map (unitAt input) ++ [unitAt input j] ++ more) := by simp
      rw [hfront, List.take_left]
    rw [hcut, List.rdropWhile_concat_pos _ _ _ hspace] at hend
    have hlength := (List.rdropWhile_prefix isSpaceUnit (front.map (unitAt input))).length_le
    rw [hend, List.length_append, List.length_singleton] at hlength
    exact Nat.not_succ_le_self _ hlength
  · intro hcut
    rw [sanitizeString_eq]
    rcases Nat.lt_or_ge MAX_NAME_LENGTH ((keptText input).rdropWhile isSpaceUnit).length with
      hlong | hshort
    · have hbegins := List.rdropWhile_prefix isSpaceUnit (keptText input)
      have hnil : (keptText input).rdropWhile isSpaceUnit ≠ [] :=
        List.ne_nil_of_length_pos (Nat.zero_lt_of_lt hlong)
      have hlast := List.rdropWhile_last_not isSpaceUnit (keptText input) hnil
      have hlength := hbegins.length_le
      unfold keptText at hlength
      rw [List.length_map] at hlength
      obtain ⟨front, i, back, hsplit, hfront, -⟩ := split_keptPlaces (hlong.trans_le hlength)
      have hlimit : (front.map (unitAt input) ++ [unitAt input i]).length = MAX_NAME_LENGTH := by
        rw [List.length_append, List.length_map, hfront]
        rfl
      have hstart : front.map (unitAt input) ++ [unitAt input i] <+: keptText input := by
        refine ⟨back.map (unitAt input), ?_⟩
        unfold keptText
        rw [hsplit]
        simp
      obtain ⟨rest, hrest⟩ := List.prefix_of_prefix_length_le hstart hbegins
        (hlimit.trans_le hlong.le)
      have hrestnil : rest ≠ [] := by
        rintro rfl
        rw [← hrest, List.append_nil, hlimit] at hlong
        exact lt_irrefl _ hlong
      -- The last unit of the longer name is one behind the cut.
      have hback : rest <+: back.map (unitAt input) := by
        obtain ⟨more, hmore⟩ := hbegins
        rw [← hrest, List.append_assoc] at hmore
        have hkept : keptText input = (front.map (unitAt input) ++ [unitAt input i]) ++
            back.map (unitAt input) := by
          unfold keptText
          rw [hsplit]
          simp
        rw [hkept] at hmore
        exact ⟨more, List.append_cancel_left hmore⟩
      obtain ⟨j, hj, hunit⟩ := List.mem_map.mp (hback.subset (List.getLast_mem hrestnil))
      have hvisible : isSpaceUnit (unitAt input j) = false := by
        rw [hunit]
        simp only [← hrest, List.getLast_append_of_ne_nil _ hrestnil] at hlast
        exact Bool.eq_false_of_not_eq_true hlast
      have hjmem : j ∈ front ++ i :: back := List.mem_append_right _ (List.mem_cons_of_mem _ hj)
      have himem : i ∈ keptPlaces input := by simp [hsplit]
      have hkept : Shown input j := by
        rw [← hsplit] at hjmem
        exact (mem_keptPlaces.mp hjmem).1
      rw [hsplit] at hplaces
      have hspace : ¬ isSpaceUnit (unitAt input i) = true := by
        intro hspace
        have hbefore := (keptBefore_of_split hsplit).trans hfront
        rw [hcut i j (mem_keptPlaces.mp himem) hbefore hspace
          ((mem_between hplaces hjmem).2.mpr hj) hkept] at hvisible
        cases hvisible
      rw [← hrest, ← hlimit, List.take_left, List.rdropWhile_concat_neg _ _ _ hspace]
    · rw [List.take_of_length_le hshort, List.rdropWhile_idempotent]

/-- A name comes out clean exactly when no entity comes together in what is shown of it, and it is
not cut behind white space. -/
theorem sanitizeString_clean_iff (input : JsString) :
    CleanName (sanitizeString input) ↔ LeavesClean input := by
  constructor
  · intro h
    constructor
    · intro a b hentity
      by_contra hlt
      exact h.entities ((hasEntity_iff input).mpr ⟨a, b, hentity, not_le.mp hlt⟩)
    · exact (sanitizeString_end input).mp ((sanitizeString_again h.entities).mp h.again)
  · intro h
    have hentities : ¬ HasEntity (sanitizeString input) := by
      intro hentity
      obtain ⟨a, b, hat, hlt⟩ := (hasEntity_iff input).mp hentity
      exact absurd (h.broken a b hat) (not_le.mpr hlt)
    exact ⟨sanitizeString_tags input, hentities, sanitizeString_length input,
      (sanitizeString_again hentities).mpr ((sanitizeString_end input).mpr h.cut)⟩

/-- The entity in the middle goes, and the ends of another one meet. -/
theorem sanitizeString_joined : ¬ CleanName (sanitizeString (js "&&lt;lt;")) := by
  intro h
  apply h.entities
  refine ⟨js "lt", by decide, List.all_eq_true.mp (by decide), ?_⟩
  exact ⟨[], [], by decide⟩

end GhostBazaar.Engine.ListingEnricher
