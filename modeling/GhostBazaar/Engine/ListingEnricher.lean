import Mathlib.Data.List.DropRight
import GhostBazaar.Js.Coerce

/-! What the listing enricher makes of a name from the registry: three replacements, a trim and a
cut, each of them once. -/
namespace GhostBazaar.Engine.ListingEnricher
open Js

def MAX_NAME_LENGTH : ℕ := 200

def unitOf (c : Char) : CodeUnit := Fin.ofNat 65536 c.toNat

/-- `.replace(/<[^>]*>?/g, "")`, from a place inside or outside a tag. -/
def stripTags (inTag : Bool) : JsString → JsString
  | [] => []
  | c :: s =>
    if inTag then stripTags (decide (c ≠ unitOf '>')) s
    else if c = unitOf '<' then stripTags true s
    else c :: stripTags false s

/-- `[a-zA-Z0-9#]` -/
def isEntityUnit (c : CodeUnit) : Bool :=
  decide (48 ≤ c.val ∧ c.val ≤ 57 ∨ 65 ≤ c.val ∧ c.val ≤ 90 ∨ 97 ≤ c.val ∧ c.val ≤ 122 ∨
    c = unitOf '#')

/-- The length of a match of `[a-zA-Z0-9#]+;` at the start. -/
def entityLength (s : JsString) : Option ℕ :=
  let word := s.takeWhile isEntityUnit
  if word ≠ [] ∧ (s.dropWhile isEntityUnit).head? = some (unitOf ';') then some (word.length + 1)
  else none

/-- `.replace(/&[a-zA-Z0-9#]+;/g, "")`, where the next `matched` units are part of a match. -/
def stripEntities (matched : ℕ) : JsString → JsString
  | [] => []
  | c :: s =>
    match matched with
    | n + 1 => stripEntities n s
    | 0 =>
      if c = unitOf '&' then
        match entityLength s with
        | some n => stripEntities n s
        | none => c :: stripEntities 0 s
      else c :: stripEntities 0 s

/-- `[\x20-\x7E\u00A0-\uFFFF]` -/
def isPrintable (c : CodeUnit) : Bool := decide (32 ≤ c.val ∧ c.val ≤ 126 ∨ 160 ≤ c.val)

def sanitizeString (input : JsString) : JsString :=
  (trim ((stripEntities 0 (stripTags false input)).filter isPrintable)).take MAX_NAME_LENGTH

/-! ### Clean names -/

def HasEntity (s : JsString) : Prop :=
  ∃ word : JsString, word ≠ [] ∧ (∀ c ∈ word, isEntityUnit c = true) ∧
    unitOf '&' :: word ++ [unitOf ';'] <:+: s

/-- No markup, no more than the limit, and nothing left to sanitize. -/
structure CleanName (s : JsString) : Prop where
  tags : unitOf '<' ∉ s
  entities : ¬ HasEntity s
  length : s.length ≤ MAX_NAME_LENGTH
  again : sanitizeString s = s

theorem entityLength_eq_some {s : JsString} {n : ℕ} :
    entityLength s = some n ↔ ∃ word rest : JsString, s = word ++ unitOf ';' :: rest ∧ word ≠ [] ∧
      (∀ c ∈ word, isEntityUnit c = true) ∧ n = word.length + 1 := by
  unfold entityLength
  constructor
  · intro h
    dsimp only at h
    split_ifs at h with hmatch
    obtain ⟨rest, hrest⟩ := List.head?_eq_some_iff.mp hmatch.2
    refine ⟨s.takeWhile isEntityUnit, rest, ?_, hmatch.1, ?_, (Option.some.inj h).symm⟩
    · rw [← hrest, List.takeWhile_append_dropWhile]
    · exact fun c hc => List.mem_takeWhile_imp hc
  · rintro ⟨word, rest, rfl, hne, hword, rfl⟩
    have hend : isEntityUnit (unitOf ';') = false := by decide
    have htake : (word ++ unitOf ';' :: rest).takeWhile isEntityUnit = word := by
      rw [List.takeWhile_append_of_pos hword, List.takeWhile_cons_of_neg (by simp [hend]),
        List.append_nil]
    have hdrop : (word ++ unitOf ';' :: rest).dropWhile isEntityUnit = unitOf ';' :: rest := by
      rw [List.dropWhile_append_of_pos hword, List.dropWhile_cons_of_neg (by simp [hend])]
    rw [htake, hdrop]
    simp [hne]

theorem stripEntities_matched (word s : JsString) :
    stripEntities word.length (word ++ s) = stripEntities 0 s := by
  induction word with
  | nil => rfl
  | cons c word ih => exact ih

theorem HasEntity.of_infix {s t : JsString} (h : HasEntity s) (hpart : s <:+: t) : HasEntity t := by
  obtain ⟨word, hne, hword, hs⟩ := h
  exact ⟨word, hne, hword, hs.trans hpart⟩

/-- Where there is no entity, nothing is replaced. -/
theorem stripEntities_eq_self {s : JsString} (h : ¬ HasEntity s) : stripEntities 0 s = s := by
  induction s with
  | nil => rfl
  | cons c s ih =>
    have hs : ¬ HasEntity s := fun hs => h (hs.of_infix (List.suffix_cons c s).isInfix)
    unfold stripEntities
    split_ifs with hc
    · cases hlength : entityLength s with
      | none => rw [ih hs]
      | some n =>
        obtain ⟨word, rest, rfl, hne, hword, -⟩ := entityLength_eq_some.mp hlength
        refine absurd ⟨word, hne, hword, [], rest, ?_⟩ h
        rw [hc]
        simp
    · rw [ih hs]

theorem stripTags_eq_self {s : JsString} (h : unitOf '<' ∉ s) : stripTags false s = s := by
  induction s with
  | nil => rfl
  | cons c s ih =>
    rw [List.mem_cons, not_or] at h
    unfold stripTags
    rw [if_neg (by simp), if_neg (Ne.symm h.1), ih h.2]

theorem notMem_stripTags (inTag : Bool) (s : JsString) : unitOf '<' ∉ stripTags inTag s := by
  induction s generalizing inTag with
  | nil => exact List.not_mem_nil
  | cons c s ih =>
    unfold stripTags
    split_ifs with hin hc
    · exact ih _
    · exact ih _
    · rw [List.mem_cons, not_or]
      exact ⟨Ne.symm hc, ih _⟩

theorem stripEntities_sublist (n : ℕ) (s : JsString) : (stripEntities n s).Sublist s := by
  induction s generalizing n with
  | nil => exact List.Sublist.refl _
  | cons c s ih =>
    unfold stripEntities
    split
    · exact (ih _).cons c
    · split_ifs with hc
      · split
        · exact (ih _).cons c
        · exact (ih _).cons_cons c
      · exact (ih _).cons_cons c

theorem trim_sublist (s : JsString) : (trim s).Sublist s :=
  (List.rdropWhile_prefix isSpaceUnit _).sublist.trans (List.dropWhile_suffix _).sublist

theorem sanitizeString_tags (input : JsString) : unitOf '<' ∉ sanitizeString input := by
  intro hmem
  have htrim := (trim_sublist _).subset (List.mem_of_mem_take hmem)
  have hstrip := (stripEntities_sublist 0 _).subset (List.mem_of_mem_filter htrim)
  exact notMem_stripTags false input hstrip

theorem sanitizeString_length (input : JsString) :
    (sanitizeString input).length ≤ MAX_NAME_LENGTH := List.length_take_le _ _

theorem sanitizeString_printable (input : JsString) :
    ∀ c ∈ sanitizeString input, isPrintable c = true := by
  intro c hc
  have htrim := (trim_sublist _).subset (List.mem_of_mem_take hc)
  exact (List.mem_filter.mp htrim).2

/-- A name without entities stays as it is when the cut left no white space at its end. -/
theorem sanitizeString_again {input : JsString} (h : ¬ HasEntity (sanitizeString input)) :
    sanitizeString (sanitizeString input) = sanitizeString input ↔
      (sanitizeString input).rdropWhile isSpaceUnit = sanitizeString input := by
  have hstart : (sanitizeString input).dropWhile isSpaceUnit = sanitizeString input := by
    have hbegins : sanitizeString input <+:
        ((stripEntities 0 (stripTags false input)).filter isPrintable).dropWhile isSpaceUnit :=
      (List.take_prefix _ _).trans (List.rdropWhile_prefix isSpaceUnit _)
    generalize (stripEntities 0 (stripTags false input)).filter isPrintable = text at hbegins
    cases hname : sanitizeString input with
    | nil => rfl
    | cons c name =>
      rw [hname] at hbegins
      obtain ⟨rest, hrest⟩ := hbegins
      apply List.dropWhile_cons_of_neg
      have hhead := List.head_dropWhile_not isSpaceUnit (by rw [← hrest]; simp)
      simp only [← hrest, List.cons_append, List.head_cons] at hhead
      simp [hhead]
  have hagain : sanitizeString (sanitizeString input) =
      ((sanitizeString input).rdropWhile isSpaceUnit).take MAX_NAME_LENGTH := by
    have hself : ∀ s, sanitizeString s = (trim ((stripEntities 0 (stripTags false s)).filter
        isPrintable)).take MAX_NAME_LENGTH := fun s => rfl
    rw [hself (sanitizeString input), stripTags_eq_self (sanitizeString_tags input),
      stripEntities_eq_self h,
      List.filter_eq_self.mpr (sanitizeString_printable input)]
    unfold trim
    rw [hstart]
    rfl
  have hbegins := List.rdropWhile_prefix isSpaceUnit (sanitizeString input)
  rw [hagain, List.take_of_length_le (hbegins.length_le.trans (sanitizeString_length input))]

end GhostBazaar.Engine.ListingEnricher
