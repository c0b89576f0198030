import GhostBazaar.Engine.ListingEnricher

/-! What the sanitizer keeps of a name from the registry, in terms of the places of the name as it
was registered. -/
namespace GhostBazaar.Engine.ListingEnricher
open Js
open scoped Classical

variable {u : ℕ → CodeUnit}

/-- The place stands in a tag: behind a `<`, and not behind the first `>` that follows. -/
def Tagged (u : ℕ → CodeUnit) (i : ℕ) : Prop :=
  ∃ a ≤ i, u a = unitOf '<' ∧ ∀ k, a ≤ k → k < i → u k ≠ unitOf '>'

/-- Some `&` and some `;` have a word between them when one reads the places of `P` only. -/
structure EntityAt (u : ℕ → CodeUnit) (P : ℕ → Prop) (a b : ℕ) : Prop where
  first : P a
  last : P b
  ampersand : u a = unitOf '&'
  semicolon : u b = unitOf ';'
  word : ∀ k, P k → a < k → k < b → isEntityUnit (u k) = true
  nonempty : ∃ k, P k ∧ a < k ∧ k < b

def InEntity (u : ℕ → CodeUnit) (P : ℕ → Prop) (i : ℕ) : Prop :=
  ∃ a b, EntityAt u P a b ∧ a ≤ i ∧ i ≤ b

def unitAt (input : JsString) (i : ℕ) : CodeUnit := input.getD i 0

def Outside (input : JsString) (i : ℕ) : Prop := i < input.length ∧ ¬ Tagged (unitAt input) i

/-- Outside of tags and of the entities that one reads there, and printable. -/
def Shown (input : JsString) (i : ℕ) : Prop :=
  Outside input i ∧ ¬ InEntity (unitAt input) (Outside input) i ∧
    isPrintable (unitAt input i) = true

/-- Shown, and not part of the white space at the start. -/
def Kept (input : JsString) (i : ℕ) : Prop :=
  Shown input i ∧ ∃ k ≤ i, Shown input k ∧ isSpaceUnit (unitAt input k) = false

/-! ### Tags -/

/-- Some tag is open before the place. -/
def TagOpen (u : ℕ → CodeUnit) (i : ℕ) : Prop :=
  ∃ a < i, u a = unitOf '<' ∧ ∀ k, a ≤ k → k < i → u k ≠ unitOf '>'

theorem tagged_iff (i : ℕ) : Tagged u i ↔ TagOpen u i ∨ u i = unitOf '<' := by
  constructor
  · rintro ⟨a, ha, hstart, hopen⟩
    rcases Nat.lt_or_eq_of_le ha with hlt | rfl
    · exact Or.inl ⟨a, hlt, hstart, hopen⟩
    · exact Or.inr hstart
  · rintro (⟨a, ha, hstart, hopen⟩ | hstart)
    · exact ⟨a, ha.le, hstart, hopen⟩
    · exact ⟨i, le_refl i, hstart, fun k hk hki => absurd hki (Nat.not_lt.mpr hk)⟩

theorem tagOpen_succ (i : ℕ) : TagOpen u (i + 1) ↔ Tagged u i ∧ u i ≠ unitOf '>' := by
  constructor
  · rintro ⟨a, ha, hstart, hopen⟩
    exact ⟨⟨a, Nat.le_of_lt_succ ha, hstart, fun k hak hki =>
      hopen k hak (hki.trans i.lt_succ_self)⟩,
      hopen i (Nat.le_of_lt_succ ha) i.lt_succ_self⟩
  · rintro ⟨⟨a, ha, hstart, hopen⟩, hend⟩
    refine ⟨a, Nat.lt_succ_of_le ha, hstart, ?_⟩
    intro k hak hki
    rcases Nat.lt_or_eq_of_le (Nat.le_of_lt_succ hki) with hlt | rfl
    · exact hopen k hak hlt
    · exact hend

/-- Induction along the rest of the text, with the state of the replacement as a property of the
place that it has come to. -/
theorem stripTags_places (rest : JsString) (i : ℕ) (hrest : ∀ k, k < rest.length →
    rest.getD k 0 = u (i + k)) : stripTags (decide (TagOpen u i)) rest =
      ((List.range' i rest.length).filter fun k => decide (¬ Tagged u k)).map u := by
  induction rest generalizing i with
  | nil => rfl
  | cons c rest ih =>
    have hc : c = u i := hrest 0 (Nat.succ_pos _)
    have hnext : ∀ k, k < rest.length → rest.getD k 0 = u (i + 1 + k) := by
      intro k hk
      have h := hrest (k + 1) (Nat.succ_lt_succ hk)
      rw [Nat.add_assoc, Nat.add_comm 1 k]
      exact h
    have ih := ih (i + 1) hnext
    rw [List.length_cons, List.range'_succ, List.filter_cons]
    unfold stripTags
    by_cases hopen : TagOpen u i
    · have htagged := (tagged_iff i).mpr (Or.inl hopen)
      have hstate : decide (TagOpen u (i + 1)) = decide (c ≠ unitOf '>') := by
        rw [hc, decide_eq_decide, tagOpen_succ]
        exact and_iff_right htagged
      rw [hstate] at ih
      rw [if_pos (by simpa using hopen), ih, if_neg (by simpa using htagged)]
    · rw [if_neg (by simpa using hopen)]
      by_cases hstart : c = unitOf '<'
      · have htagged := (tagged_iff i).mpr (Or.inr (hc.symm.trans hstart))
        have hstate : decide (TagOpen u (i + 1)) = true := by
          rw [decide_eq_true_eq, tagOpen_succ]
          refine ⟨htagged, ?_⟩
          rw [← hc, hstart]
          decide
        rw [hstate] at ih
        rw [if_pos hstart, ih, if_neg (by simpa using htagged)]
      · have htagged : ¬ Tagged u i := by
          rw [tagged_iff, not_or, ← hc]
          exact ⟨hopen, hstart⟩
        have hstate : decide (TagOpen u (i + 1)) = false := by
          rw [decide_eq_false_iff_not, tagOpen_succ]
          exact fun h => htagged h.1
        rw [hstate] at ih
        rw [if_neg hstart, ih, if_pos (by simpa using htagged), List.map_cons, hc]

theorem stripTags_outside (input : JsString) : stripTags false input =
    ((List.range input.length).filter fun i => decide (Outside input i)).map (unitAt input) := by
  have hclosed : decide (TagOpen (unitAt input) 0) = false := by
    rw [decide_eq_false_iff_not]
    rintro ⟨a, ha, -⟩
    exact Nat.not_lt_zero a ha
  have h := stripTags_places (u := unitAt input) input 0 fun k _ => by
    rw [Nat.zero_add]
    rfl
  rw [hclosed, ← List.range_eq_range'] at h
  rw [h]
  congr 1
  apply List.filter_congr
  intro i hi
  unfold Outside
  simp only [List.mem_range.mp hi, true_and]

/-! ### Entities -/

/-- The places of an ascending list, around one of them. -/
theorem mem_between {front back : List ℕ} {i k : ℕ}
    (h : (front ++ i :: back).Pairwise (· < ·)) (hk : k ∈ front ++ i :: back) :
    (k < i ↔ k ∈ front) ∧ (i < k ↔ k ∈ back) := by
  obtain ⟨-, hback, hbefore⟩ := List.pairwise_append.mp h
  have hafter := (List.pairwise_cons.mp hback).1
  have hfront : ∀ k ∈ front, k < i := fun k hk => hbefore k hk i List.mem_cons_self
  rw [List.mem_append, List.mem_cons] at hk
  rcases hk with hk | rfl | hk
  · have hlt := hfront k hk
    exact ⟨iff_of_true hlt hk, iff_of_false hlt.asymm fun hkb => hlt.asymm (hafter k hkb)⟩
  · exact ⟨iff_of_false (lt_irrefl k) fun hkf => lt_irrefl k (hfront k hkf),
      iff_of_false (lt_irrefl k) fun hkb => lt_irrefl k (hafter k hkb)⟩
  · have hlt := hafter k hk
    exact ⟨iff_of_false hlt.asymm fun hkf => hlt.asymm (hfront k hkf), iff_of_true hlt hk⟩

/-- An entity that the text at some places starts with. -/
theorem entityLength_places {places : List ℕ} {n : ℕ}
    (h : entityLength (places.map u) = some n) : ∃ word last rest,
      places = word ++ last :: rest ∧ word ≠ [] ∧ (∀ k ∈ word, isEntityUnit (u k) = true) ∧
        u last = unitOf ';' ∧ n = word.length + 1 := by
  obtain ⟨text, after, heq, hne, htext, rfl⟩ := entityLength_eq_some.mp h
  obtain ⟨word, others, rfl, rfl, hothers⟩ := List.map_eq_append_iff.mp heq
  obtain ⟨last, rest, rfl, hlast, -⟩ := List.map_eq_cons_iff.mp hothers
  refine ⟨word, last, rest, rfl, ?_, ?_, hlast, by rw [List.length_map]⟩
  · rintro rfl
    exact hne rfl
  · exact fun k hk => htext (u k) (List.mem_map_of_mem hk)

theorem not_isEntityUnit_ampersand : isEntityUnit (unitOf '&') ≠ true := by decide

theorem not_isEntityUnit_semicolon : isEntityUnit (unitOf ';') ≠ true := by decide

/-- The places of an entity that starts at the first place. -/
theorem EntityAt.entityLength {first : ℕ} {places : List ℕ}
    (hplaces : (first :: places).Pairwise (· < ·)) {b : ℕ}
    (h : EntityAt u (· ∈ first :: places) first b) :
    ∃ n, ListingEnricher.entityLength (places.map u) = some n := by
  obtain ⟨k, hk, hfk, hkb⟩ := h.nonempty
  have hb : b ∈ places := by
    rcases List.mem_cons.mp h.last with rfl | hb
    · exact absurd (hfk.trans hkb) (lt_irrefl _)
    · exact hb
  obtain ⟨word, rest, rfl⟩ := List.append_of_mem hb
  have hfirst := (List.pairwise_cons.mp hplaces).1
  have hrest := (List.pairwise_cons.mp hplaces).2
  refine ⟨(word.map u).length + 1, entityLength_eq_some.mpr
    ⟨word.map u, rest.map u, ?_, ?_, ?_, rfl⟩⟩
  · rw [List.map_append, List.map_cons, h.semicolon]
  · have hkmem : k ∈ word ++ b :: rest := by
      rcases List.mem_cons.mp hk with rfl | hk
      · exact absurd hfk (lt_irrefl _)
      · exact hk
    have hword := (mem_between hrest hkmem).1.mp hkb
    exact fun hnil => List.ne_nil_of_mem (List.mem_map_of_mem hword) hnil
  · intro c hc
    obtain ⟨k, hkword, rfl⟩ := List.mem_map.mp hc
    have hkmem : k ∈ word ++ b :: rest := List.mem_append_left _ hkword
    exact h.word k (List.mem_cons_of_mem _ hkmem) (hfirst k hkmem)
      ((mem_between hrest hkmem).1.mpr hkword)

/-- An entity behind some places is one among all of them, and the other way round when it does not
start at one of them. -/
theorem entityAt_append {front back : List ℕ} (h : (front ++ back).Pairwise (· < ·)) {a b : ℕ}
    (ha : a ∈ back) : EntityAt u (· ∈ front ++ back) a b ↔ EntityAt u (· ∈ back) a b := by
  obtain ⟨-, -, hbefore⟩ := List.pairwise_append.mp h
  have hback : ∀ k, a < k → (k ∈ front ++ back ↔ k ∈ back) := by
    intro k hak
    rw [List.mem_append]
    exact or_iff_right fun hk => (hbefore k hk a ha).asymm hak
  constructor
  · intro hentity
    obtain ⟨k, hk, hak, hkb⟩ := hentity.nonempty
    exact ⟨ha, (hback b (hak.trans hkb)).mp hentity.last, hentity.ampersand, hentity.semicolon,
      fun k hk => hentity.word k (List.mem_append_right _ hk), k, (hback k hak).mp hk, hak, hkb⟩
  · intro hentity
    obtain ⟨k, hk, hak, hkb⟩ := hentity.nonempty
    exact ⟨List.mem_append_right _ ha, List.mem_append_right _ hentity.last, hentity.ampersand,
      hentity.semicolon, fun k hk hak => hentity.word k ((hback k hak).mp hk) hak,
      k, List.mem_append_right _ hk, hak, hkb⟩

/-- Places at which no entity starts do not matter for the entities behind them. -/
theorem inEntity_append {front back : List ℕ} (h : (front ++ back).Pairwise (· < ·)) {i : ℕ}
    (hfront : ∀ a ∈ front, ∀ b, EntityAt u (· ∈ front ++ back) a b → b < i) :
    InEntity u (· ∈ front ++ back) i ↔ InEntity u (· ∈ back) i := by
  constructor
  · rintro ⟨a, b, hentity, hai, hib⟩
    rcases List.mem_append.mp hentity.first with ha | ha
    · exact absurd hib (Nat.not_le.mpr (hfront a ha b hentity))
    · exact ⟨a, b, (entityAt_append h ha).mp hentity, hai, hib⟩
  · rintro ⟨a, b, hentity, hai, hib⟩
    exact ⟨a, b, (entityAt_append h hentity.first).mpr hentity, hai, hib⟩

/-- The entity that an ampersand and the match behind it are. -/
theorem entityAt_first {first last : ℕ} {word rest : List ℕ}
    (h : (first :: (word ++ last :: rest)).Pairwise (· < ·)) (hfirst : u first = unitOf '&')
    (hne : word ≠ []) (hword : ∀ k ∈ word, isEntityUnit (u k) = true)
    (hlast : u last = unitOf ';') :
    EntityAt u (· ∈ first :: (word ++ last :: rest)) first last := by
  have hafter := (List.pairwise_cons.mp h).1
  have hrest := (List.pairwise_cons.mp h).2
  have hbetween : ∀ k ∈ first :: (word ++ last :: rest), first < k → k < last → k ∈ word := by
    intro k hk hfk hkl
    rcases List.mem_cons.mp hk with rfl | hk
    · exact absurd hfk (lt_irrefl _)
    · exact (mem_between hrest hk).1.mp hkl
  obtain ⟨k, hk⟩ := List.exists_mem_of_ne_nil word hne
  have hkmem : k ∈ word ++ last :: rest := List.mem_append_left _ hk
  exact ⟨List.mem_cons_self, by simp, hfirst, hlast,
    fun k hk hfk hkl => hword k (hbetween k hk hfk hkl),
    k, List.mem_cons_of_mem _ hkmem, hafter k hkmem, (mem_between hrest hkmem).1.mpr hk⟩

/-- No entity reaches from a match into what follows it. -/
theorem entity_of_match {first last : ℕ} {word rest : List ℕ}
    (h : (first :: (word ++ last :: rest)).Pairwise (· < ·))
    (hword : ∀ k ∈ word, isEntityUnit (u k) = true) (hlast : u last = unitOf ';') {a b : ℕ}
    (ha : a ∈ first :: (word ++ [last]))
    (hentity : EntityAt u (· ∈ first :: (word ++ last :: rest)) a b) : b ≤ last := by
  by_contra hlt
  have hlt := not_le.mp hlt
  rcases List.mem_cons.mp ha with rfl | ha
  · -- The semicolon of the match would be part of the word.
    have hmem : last ∈ word ++ last :: rest := by simp
    have hunit := hentity.word last (List.mem_cons_of_mem _ hmem)
      ((List.pairwise_cons.mp h).1 last hmem) hlt
    rw [hlast] at hunit
    exact not_isEntityUnit_semicolon hunit
  · rcases List.mem_append.mp ha with ha | ha
    · have hunit := hword a ha
      rw [hentity.ampersand] at hunit
      exact not_isEntityUnit_ampersand hunit
    · have hunit := hentity.ampersand
      rw [List.mem_singleton.mp ha, hlast] at hunit
      exact absurd hunit (by decide)

/-- Induction on the number of places: a match takes its places away together, any other place
stands alone. -/
theorem stripEntities_places (places : List ℕ) (h : places.Pairwise (· < ·)) :
    stripEntities 0 (places.map u) =
      (places.filter fun i => decide (¬ InEntity u (· ∈ places) i)).map u := by
  induction hlength : places.length using Nat.strong_induction_on generalizing places with
  | _ n ih =>
    cases places with
    | nil => rfl
    | cons first places =>
      subst hlength
      have hafter := (List.pairwise_cons.mp h).1
      have hrest := (List.pairwise_cons.mp h).2
      by_cases hentity : ∃ b, EntityAt u (· ∈ first :: places) first b
      · obtain ⟨b, hb⟩ := hentity
        obtain ⟨n, hn⟩ := hb.entityLength h
        obtain ⟨word, last, rest, rfl, hne, hword, hlast, rfl⟩ := entityLength_places hn
        have hwhole := entityAt_first h hb.ampersand hne hword hlast
        have hleft : stripEntities 0 ((first :: (word ++ last :: rest)).map u) =
            stripEntities 0 (rest.map u) := by
          rw [List.map_cons, stripEntities]
          simp only [hb.ampersand, ↓reduceIte, hn]
          have hmatched := stripEntities_matched ((word ++ [last]).map u) (rest.map u)
          rw [List.length_map, List.length_append, List.length_singleton, ← List.map_append,
            List.append_assoc] at hmatched
          exact hmatched
        have hsplit : first :: (word ++ last :: rest) = (first :: (word ++ [last])) ++ rest := by
          simp
        rw [hleft, ih rest.length (by simp; omega) rest
          (List.pairwise_cons.mp (List.pairwise_append.mp hrest).2.1).2 rfl, hsplit,
          List.filter_append, ← hsplit]
        have hgone : (first :: (word ++ [last])).filter (fun i => decide (¬ InEntity u
            (· ∈ first :: (word ++ last :: rest)) i)) = [] := by
          rw [List.filter_eq_nil_iff]
          intro i hi
          rw [decide_eq_true_eq, not_not]
          refine ⟨first, last, hwhole, ?_, ?_⟩
          · rcases List.mem_cons.mp hi with rfl | hi
            · exact le_refl _
            · exact (hafter i (by rw [List.mem_append] at hi ⊢; simp at hi ⊢; tauto)).le
          · rcases List.mem_cons.mp hi with rfl | hi
            · exact (hafter last (by simp)).le
            · rcases List.mem_append.mp hi with hi | hi
              · exact ((mem_between hrest (List.mem_append_left _ hi)).1.mpr hi).le
              · exact (List.mem_singleton.mp hi).le
        rw [hgone, List.nil_append]
        congr 1
        apply List.filter_congr
        intro i hi
        have hmem : i ∈ word ++ last :: rest := by simp [hi]
        have hlasti : last < i := (mem_between hrest hmem).2.mpr hi
        have hsame : InEntity u (· ∈ first :: (word ++ last :: rest)) i ↔
            InEntity u (· ∈ rest) i := by
          rw [hsplit]
          apply inEntity_append (by rw [← hsplit]; exact h)
          intro a ha b hab
          rw [← hsplit] at hab
          exact lt_of_le_of_lt (entity_of_match h hword hlast ha hab) hlasti
        rw [decide_eq_decide, hsame]
      · have hleft : stripEntities 0 ((first :: places).map u) =
            u first :: stripEntities 0 (places.map u) := by
          rw [List.map_cons, stripEntities]
          split_ifs with hfirst
          · cases hn : entityLength (places.map u) with
            | none => rfl
            | some n =>
              obtain ⟨word, last, rest, rfl, hne, hword, hlast, -⟩ := entityLength_places hn
              exact absurd ⟨last, entityAt_first h hfirst hne hword hlast⟩ hentity
          · rfl
        have hout : ¬ InEntity u (· ∈ first :: places) first := by
          rintro ⟨a, b, hab, ha, -⟩
          rcases List.mem_cons.mp hab.first with rfl | hmem
          · exact hentity ⟨b, hab⟩
          · exact absurd (hafter a hmem) (Nat.not_lt.mpr ha)
        rw [hleft, ih places.length (by simp) places hrest rfl, List.filter_cons,
          if_pos (by simpa using hout), List.map_cons]
        congr 2
        apply List.filter_congr
        intro i hi
        have hsame : InEntity u (· ∈ [first] ++ places) i ↔ InEntity u (· ∈ places) i := by
          apply inEntity_append h
          intro a ha b hab
          rw [List.mem_singleton.mp ha] at hab
          exact absurd ⟨b, hab⟩ hentity
        rw [decide_eq_decide, ← hsame]
        rfl

/-! ### What is kept -/

noncomputable def shownPlaces (input : JsString) : List ℕ :=
  (List.range input.length).filter fun i => decide (Shown input i)

noncomputable def keptPlaces (input : JsString) : List ℕ :=
  (List.range input.length).filter fun i => decide (Kept input i)

theorem ascending_filter_range (n : ℕ) (p : ℕ → Bool) :
    ((List.range n).filter p).Pairwise (· < ·) := List.pairwise_lt_range.filter _

theorem ascending_shownPlaces (input : JsString) : (shownPlaces input).Pairwise (· < ·) :=
  ascending_filter_range _ _

theorem ascending_keptPlaces (input : JsString) : (keptPlaces input).Pairwise (· < ·) :=
  ascending_filter_range _ _

theorem shown_lt {input : JsString} {i : ℕ} (h : Shown input i) : i < input.length := h.1.1

theorem mem_shownPlaces {input : JsString} {i : ℕ} : i ∈ shownPlaces input ↔ Shown input i := by
  unfold shownPlaces
  rw [List.mem_filter, List.mem_range, decide_eq_true_eq]
  exact and_iff_right_of_imp shown_lt

theorem mem_keptPlaces {input : JsString} {i : ℕ} : i ∈ keptPlaces input ↔ Kept input i := by
  unfold keptPlaces
  rw [List.mem_filter, List.mem_range, decide_eq_true_eq]
  exact and_iff_right_of_imp fun h => shown_lt h.1

/-- The three replacements leave the shown places. -/
theorem replaced_eq (input : JsString) :
    (stripEntities 0 (stripTags false input)).filter isPrintable =
      (shownPlaces input).map (unitAt input) := by
  rw [stripTags_outside, stripEntities_places _ (ascending_filter_range _ _), List.filter_map,
    List.filter_filter, List.filter_filter]
  unfold shownPlaces
  congr 1
  apply List.filter_congr
  intro i hi
  have hmem : (fun k => k ∈ (List.range input.length).filter fun i => decide (Outside input i)) =
      Outside input := by
    funext k
    rw [List.mem_filter, List.mem_range, decide_eq_true_eq, eq_iff_iff]
    exact and_iff_right_of_imp fun h => h.1
  rw [hmem]
  unfold Shown
  rw [Bool.eq_iff_iff]
  simp only [Bool.and_eq_true, decide_eq_true_eq, Function.comp_apply]
  tauto

/-- The places left of an ascending list when it is dropped from as long as a test succeeds. -/
theorem dropWhile_places {places : List ℕ} (h : places.Pairwise (· < ·)) (p : ℕ → Bool) :
    places.dropWhile p =
      places.filter fun i => decide (∃ k ∈ places, k ≤ i ∧ p k = false) := by
  induction places with
  | nil => rfl
  | cons first places ih =>
    have hafter := (List.pairwise_cons.mp h).1
    have hrest := (List.pairwise_cons.mp h).2
    by_cases hp : p first = true
    · have hnot : ¬ ∃ k ∈ first :: places, k ≤ first ∧ p k = false := by
        rintro ⟨k, hk, hle, hpk⟩
        rcases List.mem_cons.mp hk with rfl | hk
        · rw [hp] at hpk
          cases hpk
        · exact absurd (hafter k hk) (Nat.not_lt.mpr hle)
      rw [List.dropWhile_cons_of_pos hp, ih hrest, List.filter_cons,
        if_neg (by simpa only [decide_eq_true_eq] using hnot)]
      apply List.filter_congr
      intro i hi
      rw [decide_eq_decide]
      constructor
      · rintro ⟨k, hk, hle, hpk⟩
        exact ⟨k, List.mem_cons_of_mem _ hk, hle, hpk⟩
      · rintro ⟨k, hk, hle, hpk⟩
        rcases List.mem_cons.mp hk with rfl | hk
        · rw [hp] at hpk
          cases hpk
        · exact ⟨k, hk, hle, hpk⟩
    · rw [List.dropWhile_cons_of_neg hp]
      symm
      rw [List.filter_eq_self]
      intro i hi
      rw [decide_eq_true_eq]
      refine ⟨first, List.mem_cons_self, ?_, Bool.eq_false_of_not_eq_true hp⟩
      rcases List.mem_cons.mp hi with rfl | hi
      · exact le_refl _
      · exact (hafter i hi).le

theorem dropWhile_shown (input : JsString) :
    ((shownPlaces input).map (unitAt input)).dropWhile isSpaceUnit =
      (keptPlaces input).map (unitAt input) := by
  rw [List.dropWhile_map, dropWhile_places (ascending_shownPlaces input)]
  unfold shownPlaces keptPlaces
  rw [List.filter_filter]
  congr 1
  apply List.filter_congr
  intro i hi
  rw [Bool.eq_iff_iff, Bool.and_eq_true, decide_eq_true_eq, decide_eq_true_eq, decide_eq_true_eq]
  change (∃ k ∈ shownPlaces input, _) ∧ _ ↔ _
  unfold Kept
  rw [and_comm]
  apply and_congr_right
  intro _
  apply exists_congr
  intro k
  rw [mem_shownPlaces, Function.comp_apply]
  tauto

/-- The name before it is cut, at the end of which there may still be white space to trim. -/
noncomputable def keptText (input : JsString) : JsString :=
  (keptPlaces input).map (unitAt input)

theorem sanitizeString_eq (input : JsString) : sanitizeString input =
    ((keptText input).rdropWhile isSpaceUnit).take MAX_NAME_LENGTH := by
  unfold sanitizeString trim
  rw [replaced_eq, dropWhile_shown]
  rfl

end GhostBazaar.Engine.ListingEnricher
