import GhostBazaar.Settlement.Nonce

/-! What `verifyAndExecute` throws beside its own errors. The quote is any JSON value and the
transaction any value of the RPC; the conditions go along with what the code reads of them. -/
namespace GhostBazaar.Settlement
open Js GhostBazaar.Core

section Outcomes
variable {ε α β : Type}

/-- The code runs to its end. -/
def Returns (x : Except ε α) : Prop := ∃ a, x = .ok a

/-- The code throws no exception of the language. -/
def Clean (x : Except (Failure ε) α) : Prop := ∀ e, x ≠ .error (.thrown e)

@[simp] theorem returns_ok (a : α) : Returns (.ok a : Except ε α) := ⟨a, rfl⟩

@[simp] theorem returns_pure (a : α) : Returns (pure a : Except ε α) := ⟨a, rfl⟩

@[simp] theorem not_returns_error (e : ε) : ¬ Returns (.error e : Except ε α) := by
  rintro ⟨a, h⟩
  cases h

theorem returns_bind {x : Except ε α} {f : α → Except ε β} :
    Returns (x >>= f) ↔ Returns x ∧ ∀ a, x = .ok a → Returns (f a) := by
  cases x with
  | error e => simp [error_bind]
  | ok a => simp [ok_bind]

@[simp] theorem returns_map {x : Except ε α} {f : α → β} : Returns (x.map f) ↔ Returns x := by
  cases x <;> simp [Except.map]

@[simp] theorem returns_map' {x : Except ε α} {f : α → β} : Returns (f <$> x) ↔ Returns x :=
  returns_map

@[simp] theorem returns_ensure {p : Prop} [Decidable p] {e : ε} :
    Returns (ensure p e) ↔ p := by
  simp [Returns]

@[simp] theorem returns_orThrow {o : Option α} {e : ε} : Returns (orThrow o e) ↔ ∃ a, o = some a := by
  simp [Returns]

@[simp] theorem clean_pure (a : α) : Clean (pure a : Except (Failure ε) α) := by
  intro e h
  cases h

theorem clean_bind {x : Except (Failure ε) α} {f : α → Except (Failure ε) β} :
    Clean (x >>= f) ↔ Clean x ∧ ∀ a, x = .ok a → Clean (f a) := by
  cases x with
  | error e => simp [Clean, error_bind]
  | ok a => simp [Clean, ok_bind]

@[simp] theorem clean_require {p : Prop} [Decidable p] {e : ε} : Clean (require p e) := by
  intro e'
  simp [require]

@[simp] theorem clean_liftThrown {x : Except JsError α} :
    Clean (liftThrown x : Except (Failure ε) α) ↔ Returns x := by
  cases x <;> simp [Clean, liftThrown]

@[simp] theorem clean_orThrow_refused {o : Option α} {e : ε} :
    Clean (orThrow o (.refused e)) := by
  intro e'
  simp

@[simp] theorem clean_orThrow_thrown {o : Option α} {e : JsError} :
    Clean (orThrow o (.thrown e) : Except (Failure ε) α) ↔ ∃ a, o = some a := by
  cases o <;> simp [Clean, orThrow]

end Outcomes

/-! ### Values -/

/-- `String(v)` returns. -/
def HasText (v : JsValue) : Prop := ∃ s, v.toJsString = some s

def IsString (v : JsValue) : Prop := ∃ s, v = some (.str s)

@[simp] theorem returns_stringOf {v : JsValue} : Returns (stringOf v) ↔ HasText v := returns_orThrow

@[simp] theorem returns_asString {v : JsValue} : Returns (asString v) ↔ IsString v := by
  simp [Returns, IsString]

@[simp] theorem returns_regexTest {pattern : JsString → Bool} {v : JsValue} :
    Returns (regexTest pattern v) ↔ HasText v := by
  simp [regexTest]

@[simp] theorem returns_dateParseOf {fallback : JsString → Option ℤ} {v : JsValue} :
    Returns (dateParseOf fallback v) ↔ HasText v := by
  simp [dateParseOf]

@[simp] theorem returns_member {v : JsValue} {key : JsString} :
    Returns (member v key) ↔ v.isNullish = false := by
  simp [member]

theorem returns_orThrow_bind {α β ε : Type} {o : Option α} {e : ε} {f : α → Except ε β} :
    Returns (orThrow o e >>= f) ↔ ∃ a, o = some a ∧ Returns (f a) := by
  cases o <;> simp [orThrow, error_bind, ok_bind]

theorem returns_asString_bind {α : Type} {v : JsValue} {f : JsString → Except JsError α} :
    Returns (asString v >>= f) ↔ ∃ s, v = some (.str s) ∧ Returns (f s) := by
  rw [asString, returns_orThrow_bind]
  simp only [JsValue.asStr_eq_some]

/-- `v?.toString?.()` returns: an object may have a `toString` only when it is `null`. -/
def Prints : JsValue → Prop
  | some (.obj ms) => ∀ f, ms.lookup (js "toString") = some f → f = .null
  | v => HasText v

@[simp] theorem returns_callToString {v : JsValue} : Returns (callToString v) ↔ Prints v := by
  cases v with
  | none => simp [callToString, Prints, HasText, JsValue.toJsString]
  | some j =>
    cases j with
    | obj ms =>
      simp only [callToString, Prints]
      cases ms.lookup (js "toString") with
      | none => simp
      | some f => cases f <;> simp
    | null => simp [callToString, Prints, HasText, JsValue.toJsString, Json.toJsString]
    | _ => simp [callToString, Prints]

/-- `for (const x of v)` goes through a list or the characters of a text. -/
def Iterable (v : JsValue) : Prop := v.isTruthy = true → (∃ xs, v = some (.arr xs)) ∨ IsString v

@[simp] theorem returns_iterateIfTruthy {v : JsValue} :
    Returns (iterateIfTruthy v) ↔ Iterable v := by
  unfold iterateIfTruthy Iterable IsString
  split_ifs with h
  · unfold iterate
    split <;> simp_all
  · simp [h]

theorem iterateIfTruthy_of_truthy {v : JsValue} (h : v.isTruthy = true) :
    iterateIfTruthy v = iterate v := if_pos h

/-! ### Loops that return from their body -/

/-- Everything that a loop comes to before it returns is readable. -/
def ReadsUntil {α β : Type} (f : α → Except JsError (Option β)) (good : α → Prop)
    (xs : List α) : Prop :=
  ∀ pre x post, xs = pre ++ x :: post → (∀ y ∈ pre, f y = .ok none) → good x

theorem returns_findFirst {α β : Type} {f : α → Except JsError (Option β)} {good : α → Prop}
    (hgood : ∀ x, Returns (f x) ↔ good x) (xs : List α) :
    Returns (findFirst f xs) ↔ ReadsUntil f good xs := by
  induction xs with
  | nil => simp [findFirst, ReadsUntil]
  | cons x xs ih =>
    rw [findFirst, returns_bind, hgood]
    constructor
    · rintro ⟨hx, hrest⟩ pre y post hsplit hpre
      cases pre with
      | nil =>
        obtain ⟨rfl, -⟩ := List.cons.inj hsplit
        exact hx
      | cons z pre =>
        obtain ⟨rfl, htail⟩ : x = z ∧ xs = pre ++ y :: post := List.cons.inj hsplit
        have hnone := hpre x (by simp)
        exact ih.mp (hrest none hnone) pre y post htail
          fun y hy => hpre y (List.mem_cons_of_mem _ hy)
    · intro hall
      refine ⟨hall [] x xs rfl (by simp), ?_⟩
      intro found hfound
      cases found with
      | some y => simp
      | none =>
        refine ih.mpr fun pre y post hsplit hpre => hall (x :: pre) y post (by simp [hsplit]) ?_
        intro z hz
        rcases List.mem_cons.mp hz with rfl | hz
        · exact hfound
        · exact hpre z hz

/-! ### The transaction -/

/-- `tx.transaction?.message?.instructions` -/
def topInstructions (tx : Json) : JsValue :=
  (JsValue.get? (tx.get? (js "transaction")) (js "message")).get? (js "instructions")

/-- `tx.meta?.innerInstructions` -/
def innerInstructions (tx : Json) : JsValue :=
  JsValue.get? (tx.get? (js "meta")) (js "innerInstructions")

/-- The instructions can be collected. -/
structure ListsInstructions (tx : Json) : Prop where
  top : Iterable (topInstructions tx)
  inner : Iterable (innerInstructions tx)
  groups : ∀ groups, iterateIfTruthy (innerInstructions tx) = .ok groups →
    ∀ group ∈ groups, group ≠ .null ∧ Iterable (group.get? (js "instructions"))

@[simp] theorem isNullish_some_iff {v : Json} : JsValue.isNullish (some v) = false ↔ v ≠ .null := by
  cases v <;> simp [JsValue.isNullish]

theorem returns_mapM {α β ε : Type} {f : α → Except ε β} {xs : List α} :
    Returns (xs.mapM f) ↔ ∀ x ∈ xs, Returns (f x) := by
  induction xs with
  | nil => simp
  | cons x xs ih =>
    rw [List.mapM_cons, returns_bind, List.forall_mem_cons, ← ih]
    refine and_congr_right fun ⟨y, hy⟩ => ?_
    simp only [hy, Except.ok.injEq, forall_eq', returns_bind, returns_pure, implies_true, and_true]

theorem member_of_ne_null {v : Json} (h : v ≠ .null) (key : JsString) :
    member (some v) key = .ok (v.get? key) := by
  rw [← isNullish_some_iff] at h
  simp [member, ensure, h, JsValue.get?]

/-- A read of a member, and what the code goes on with. -/
theorem returns_member_bind {α : Type} {v : Json} {key : JsString}
    {f : JsValue → Except JsError α} :
    Returns (member (some v) key >>= f) ↔ v ≠ .null ∧ Returns (f (v.get? key)) := by
  rw [returns_bind, returns_member, isNullish_some_iff]
  refine and_congr_right fun hne => ?_
  rw [member_of_ne_null hne]
  simp

theorem returns_collectInstructions {tx : Json} :
    Returns (collectInstructions tx) ↔ ListsInstructions tx := by
  have hgroup (group : Json) :
      Returns (member (some group) (js "instructions") >>= iterateIfTruthy) ↔
        group ≠ .null ∧ Iterable (group.get? (js "instructions")) := by
    rw [returns_member_bind, returns_iterateIfTruthy]
  rw [collectInstructions, returns_bind, returns_iterateIfTruthy]
  constructor
  · rintro ⟨htop, hrest⟩
    obtain ⟨top, hok⟩ := returns_iterateIfTruthy.mpr htop
    obtain ⟨hinner, hgroups⟩ := returns_bind.mp (hrest top hok)
    refine ⟨htop, returns_iterateIfTruthy.mp hinner, fun groups hgs group hmem => ?_⟩
    have hmap := (returns_bind.mp (hgroups groups hgs)).1
    exact (hgroup group).mp (returns_mapM.mp hmap group hmem)
  · rintro ⟨htop, hinner, hgroups⟩
    refine ⟨htop, fun _ _ => returns_bind.mpr ⟨returns_iterateIfTruthy.mpr hinner, ?_⟩⟩
    intro groups hgs
    refine returns_bind.mpr ⟨returns_mapM.mpr fun group hmem => ?_, fun _ _ => returns_pure _⟩
    exact (hgroup group).mpr (hgroups groups hgs group hmem)

/-- `ix.programId` can be read. -/
def HasProgram (ix : Json) : Prop := ix ≠ .null ∧ Prints (ix.get? (js "programId"))

theorem returns_programOf {ix : Json} : Returns (programOf ix) ↔ HasProgram ix := by
  rw [programOf, returns_member_bind, returns_bind, returns_callToString]
  simp [HasProgram]

/-- The instruction is one of the token program. -/
def IsTokenInstruction (ix : Json) : Prop :=
  ∃ program, programOf ix = .ok program ∧ (program.strictEq (some (.str TOKEN_PROGRAM_ID)) = true ∨
    JsValue.strictEq (ix.get? (js "program")) (some (.str (js "spl-token"))) = true)

/-- A parsed instruction of the token program names its program, and an amount that is a text or
can be made one. -/
def ParsedReadable (ix : Json) : Prop :=
  ix ≠ .null ∧ (JsValue.isTruthy (ix.get? (js "parsed")) = true →
    HasProgram ix ∧ (IsTokenInstruction ix →
      let parsed : JsValue := ix.get? (js "parsed")
      let info := parsed.get? (js "info")
      info.isTruthy = true →
        (parsed.get? (js "type") = some (.str (js "transferChecked")) ∧
            ((info.get? (js "tokenAmount")).get? (js "amount")).isNullish = true ∨
          parsed.get? (js "type") = some (.str (js "transfer"))) →
        HasText (info.get? (js "amount"))))

theorem returns_parsedTransfer (ix : Json) : Returns (parsedTransfer ix) ↔ ParsedReadable ix := by
  rw [parsedTransfer, returns_member_bind, ParsedReadable]
  refine and_congr_right fun _ => ?_
  by_cases hparsed : JsValue.isTruthy (ix.get? (js "parsed")) = true
  · simp only [hparsed, Bool.not_true, Bool.false_eq_true, ite_false, returns_bind, forall_const,
      returns_programOf]
    refine and_congr_right fun hprogram => ?_
    obtain ⟨program, hok⟩ := returns_programOf.mpr hprogram
    simp only [hok, Except.ok.injEq, forall_eq', IsTokenInstruction, exists_eq_left',
      JsValue.strictEq_str, Bool.or_eq_true, Bool.and_eq_true]
    have hkinds : js "transferChecked" ≠ js "transfer" := by decide
    generalize JsValue.get? (ix.get? (js "parsed")) (js "info") = info
    generalize JsValue.get? (ix.get? (js "parsed")) (js "type") = type
    split_ifs with htoken hchecked hnull htransfer
    · simp [htoken, hchecked, hnull]
    · simp [htoken, hchecked, hnull, hkinds]
    · simp [htoken, htransfer]
    · simp only [returns_pure, htoken, true_iff, forall_const]
      rintro hinfo (⟨rfl, -⟩ | rfl)
      · exact absurd ⟨rfl, hinfo⟩ hchecked
      · exact absurd ⟨rfl, hinfo⟩ htransfer
    · simp [htoken]
  · simp [hparsed]

/-- `v[i]`, and what the code goes on with. -/
theorem returns_element_bind {v i : JsValue} {α : Type} {f : JsValue → Except JsError α} :
    Returns (element v i >>= f) ↔ ∃ key, element v i = .ok key ∧ Returns (f key) := by
  cases element v i <;> simp [error_bind, ok_bind]

/-- An index of the message has a text, and so has the account that it names. -/
def KeyReadable (accountKeys index : JsValue) : Prop :=
  ∃ key, element accountKeys index = .ok key ∧ Prints (key.get? (js "pubkey")) ∧
    ((∀ v, callToString (key.get? (js "pubkey")) = .ok v → v.isNullish = true) → HasText key)

theorem hasText_iff_prints {v : JsValue} :
    HasText v ↔ Prints v ∧ ∀ w, callToString v = .ok w → w.isNullish = true → HasText v := by
  cases v with
  | none => exact ⟨fun h => ⟨h, fun _ _ _ => h⟩, And.left⟩
  | some j =>
    cases j with
    | obj ms =>
      simp only [HasText, JsValue.toJsString, Json.toJsString, Prints, callToString]
      cases ms.lookup (js "toString") with
      | none => simp
      | some f => cases f <;> simp [JsValue.isNullish]
    | _ => exact ⟨fun h => ⟨h, fun _ _ _ => h⟩, And.left⟩

theorem returns_resolveAccountKey {accountKeys index : JsValue} :
    Returns (resolveAccountKey accountKeys index) ↔ KeyReadable accountKeys index := by
  rw [resolveAccountKey, KeyReadable, returns_element_bind]
  refine exists_congr fun key => and_congr_right fun _ => ?_
  rw [returns_bind, returns_callToString]
  refine and_congr_right fun hprints => ?_
  obtain ⟨pubkey, hok⟩ := returns_callToString.mpr hprints
  simp only [hok, Except.ok.injEq, forall_eq']
  cases hnull : pubkey.isNullish with
  | false => simp
  | true =>
    simp only [Bool.not_true, Bool.false_eq_true, ite_false, returns_bind, returns_callToString,
      forall_const]
    rw [hasText_iff_prints]
    refine and_congr_right fun _ => forall₂_congr fun w _ => ?_
    cases w.isNullish <;> simp

theorem elementAt_of_not_nullish {v : JsValue} (h : v.isNullish = false) (i : ℕ) :
    elementAt v i = .ok (ownProperty v (natText i)) := by
  simp [elementAt, ensure, h]

/-- A read of an account, and what the code goes on with. -/
theorem returns_account_bind {accountKeys accounts : JsValue} {i : ℕ} {α : Type}
    {f : JsValue → Except JsError α} {p : Prop} (hf : ∀ key, Returns (f key) ↔ p) :
    Returns (do
      let index ← elementAt accounts i
      let key ← resolveAccountKey accountKeys index
      f key) ↔
    (accounts.isNullish = false ∧
      KeyReadable accountKeys (ownProperty accounts (natText i))) ∧ p := by
  cases h : accounts.isNullish with
  | false =>
    rw [elementAt_of_not_nullish h, ok_bind, returns_bind, returns_resolveAccountKey]
    simp only [hf, true_and]
    refine and_congr_right fun hkey => ?_
    obtain ⟨key, hok⟩ := returns_resolveAccountKey.mpr hkey
    simp [hok]
  | true => simp [elementAt, ensure, h, returns_bind]

/-- The accounts of a compiled instruction, by their indices in the message. -/
def AccountsReadable (accountKeys accounts : JsValue) (indices : List ℕ) : Prop :=
  accounts.isNullish = false ∧
    ∀ i ∈ indices, KeyReadable accountKeys (ownProperty accounts (natText i))

/-- A compiled instruction of the token program carries base58 data and, where it transfers, a
list of accounts whose keys have a text. -/
def RawReadable (base58Decode : JsString → Option (List UInt8)) (accountKeys : JsValue)
    (ix : Json) : Prop :=
  ix ≠ .null ∧ ∃ key, element accountKeys (ix.get? (js "programIdIndex")) = .ok key ∧
    Prints key ∧ ∀ text, callToString key = .ok text →
    orElse text key = some (.str TOKEN_PROGRAM_ID) →
    JsValue.isTruthy (ix.get? (js "data")) = true →
    ∃ encoded, ix.get? (js "data") = some (.str encoded) ∧
      ∃ data, base58Decode encoded = some data ∧
        (data.head? = some 3 ∧ 9 ≤ data.length →
          AccountsReadable accountKeys (ix.get? (js "accounts")) [0, 1]) ∧
        (data.head? = some 12 ∧ 10 ≤ data.length →
          AccountsReadable accountKeys (ix.get? (js "accounts")) [0, 2, 1])

theorem returns_rawTransfer (base58Decode : JsString → Option (List UInt8))
    (accountKeys : JsValue) (ix : Json) :
    Returns (rawTransfer base58Decode accountKeys ix) ↔
      RawReadable base58Decode accountKeys ix := by
  rw [rawTransfer, returns_member_bind, RawReadable]
  refine and_congr_right fun _ => ?_
  rw [returns_element_bind]
  refine exists_congr fun key => and_congr_right fun _ => ?_
  rw [returns_bind, returns_callToString]
  refine and_congr_right fun _ => forall₂_congr fun text _ => ?_
  simp only [Bool.and_eq_true, JsValue.strictEq_str, ← and_imp]
  split_ifs with htoken
  · simp only [htoken, and_self, forall_const]
    rw [returns_asString_bind]
    refine exists_congr fun encoded => and_congr_right fun _ => ?_
    rw [returns_orThrow_bind]
    refine exists_congr fun data => and_congr_right fun _ => ?_
    simp only [AccountsReadable, List.forall_mem_cons, List.not_mem_nil, false_implies,
      implies_true, and_true]
    split_ifs with htransfer hchecked
    · rw [returns_account_bind fun _ => returns_account_bind fun _ => iff_true_intro (by simp)]
      have hkind : ¬ (data.head? = some 12 ∧ 10 ≤ data.length) := by simp [htransfer.1]
      simp only [htransfer, and_self, forall_const]
      tauto
    · rw [returns_account_bind fun _ => returns_account_bind fun _ =>
        returns_account_bind fun _ => iff_true_intro (by simp)]
      simp only [hchecked, and_self, forall_const]
      tauto
    · simp [htransfer, hchecked]
  · simp [htoken]

/-- The instructions can be gone through up to the first transfer. -/
structure TransferReadable (base58Decode : JsString → Option (List UInt8)) (tx : Json) :
    Prop where
  lists : ListsInstructions tx
  parsed : ∀ all, collectInstructions tx = .ok all → ReadsUntil parsedTransfer ParsedReadable all
  /-- Without a parsed transfer, the compiled instructions are looked at. -/
  raw : ∀ all, collectInstructions tx = .ok all → findFirst parsedTransfer all = .ok none →
    let accountKeys := (JsValue.get? (tx.get? (js "transaction")) (js "message")).get?
      (js "accountKeys")
    accountKeys.isTruthy = true → (topInstructions tx).isTruthy = true →
    ∀ top, iterate (topInstructions tx) = .ok top →
      ReadsUntil (rawTransfer base58Decode accountKeys) (RawReadable base58Decode accountKeys) top

theorem returns_extractSplTransfer {base58Decode : JsString → Option (List UInt8)} {tx : Json} :
    Returns (extractSplTransfer base58Decode tx) ↔ TransferReadable base58Decode tx := by
  rw [extractSplTransfer, returns_bind, returns_collectInstructions]
  constructor
  · rintro ⟨hlists, hrest⟩
    refine ⟨hlists, fun all hall => ?_, fun all hall hnone hkeys htop top hiter => ?_⟩
    · exact (returns_findFirst returns_parsedTransfer all).mp (returns_bind.mp (hrest all hall)).1
    · have hraw := (returns_bind.mp (hrest all hall)).2 none hnone
      simp only [topInstructions] at htop hiter
      simp only [hkeys, htop, Bool.and_self, ite_true] at hraw
      exact (returns_findFirst (returns_rawTransfer _ _) top).mp
        ((returns_bind.mp hraw).2 top hiter)
  · rintro ⟨hlists, hparsed, hraw⟩
    refine ⟨hlists, fun all hall => ?_⟩
    rw [returns_bind, returns_findFirst returns_parsedTransfer]
    refine ⟨hparsed all hall, fun found hfound => ?_⟩
    cases found with
    | some info => simp
    | none =>
      simp only
      split_ifs with h
      · obtain ⟨hkeys, htop⟩ := (Bool.and_eq_true _ _).mp h
        have hiterate := returns_iterateIfTruthy.mpr hlists.top
        rw [topInstructions, iterateIfTruthy_of_truthy htop] at hiterate
        refine returns_bind.mpr ⟨hiterate, fun top hiter => ?_⟩
        exact (returns_findFirst (returns_rawTransfer _ _) top).mpr
          (hraw all hall hfound hkeys htop top hiter)
      · simp

/-! ### The memo -/

theorem returns_instructionMemo (base58Decode : JsString → Option (List UInt8)) (ix : Json) :
    Returns (instructionMemo base58Decode ix) ↔ HasProgram ix := by
  rw [instructionMemo, returns_bind, returns_programOf, and_iff_left_iff_imp]
  intro _ program _
  repeat' split
  all_goals simp

theorem returns_logMemo (log : Json) : Returns (logMemo log) ↔ IsString (some log) := by
  rw [logMemo, returns_bind, returns_asString, and_iff_left_iff_imp]
  intro _ text _
  repeat' split
  all_goals simp

/-- `tx.meta?.logMessages` -/
def logMessages (tx : Json) : JsValue := JsValue.get? (tx.get? (js "meta")) (js "logMessages")

/-- The memo can be searched for. -/
structure MemoReadable (base58Decode : JsString → Option (List UInt8)) (tx : Json) : Prop where
  lists : ListsInstructions tx
  instructions : ∀ all, collectInstructions tx = .ok all →
    ReadsUntil (instructionMemo base58Decode) HasProgram all
  /-- Without a memo instruction, the logs are looked at. -/
  logs : ∀ all, collectInstructions tx = .ok all →
    findFirst (instructionMemo base58Decode) all = .ok none →
    Iterable (logMessages tx) ∧ ∀ logs, iterateIfTruthy (logMessages tx) = .ok logs →
      ReadsUntil logMemo (fun log => IsString (some log)) logs

theorem returns_extractMemo {base58Decode : JsString → Option (List UInt8)} {tx : Json} :
    Returns (extractMemo base58Decode tx) ↔ MemoReadable base58Decode tx := by
  rw [extractMemo, returns_bind, returns_collectInstructions]
  constructor
  · rintro ⟨hlists, hrest⟩
    refine ⟨hlists, fun all hall => ?_, fun all hall hnone => ?_⟩
    · exact (returns_findFirst (returns_instructionMemo _) all).mp
        (returns_bind.mp (hrest all hall)).1
    · obtain ⟨hiter, hlogs⟩ := returns_bind.mp ((returns_bind.mp (hrest all hall)).2 none hnone)
      refine ⟨returns_iterateIfTruthy.mp hiter, fun logs hok => ?_⟩
      exact (returns_findFirst returns_logMemo logs).mp (hlogs logs hok)
  · rintro ⟨hlists, hinstructions, hlogs⟩
    refine ⟨hlists, fun all hall => ?_⟩
    rw [returns_bind, returns_findFirst (returns_instructionMemo _)]
    refine ⟨hinstructions all hall, fun found hfound => ?_⟩
    cases found with
    | some memo => simp
    | none =>
      obtain ⟨hiter, hreads⟩ := hlogs all hall hfound
      refine returns_bind.mpr ⟨returns_iterateIfTruthy.mpr hiter, fun logs hok => ?_⟩
      exact (returns_findFirst returns_logMemo logs).mpr (hreads logs hok)

/-- `memo.includes(needle)` returns for a text, and for a list. -/
def Includable (memo : Json) (needle : JsValue) : Prop :=
  match memo with
  | .str _ => HasText needle
  | .arr _ => True
  | _ => False

theorem returns_memoIncludes {memo : Json} {needle : JsValue} :
    Returns (memoIncludes memo needle) ↔ Includable memo needle := by
  cases memo <;> simp [memoIncludes, Includable]

/-- What steps 11 and 12 read. -/
def CheckMemoReadable (env : SettlementEnv) (quote : Members) (tx : Json) : Prop :=
  let policy : JsValue := quote.lookup (js "memo_policy")
  policy ≠ some (.str (js "optional")) → MemoReadable env.base58Decode tx ∧
    ∀ memo, extractMemo env.base58Decode tx = .ok (some memo) → memo.isTruthy = true →
      (policy = some (.str (js "quote_id_required")) →
        Includable memo (quote.lookup (js "quote_id"))) ∧
      (policy = some (.str (js "hash_required")) → Includable memo (some (.str [])))

/-- A value that is searched for and must be truthy, and what the code goes on with. -/
theorem clean_found_bind {x : Except JsError (Option Json)} {e : SettlementError}
    {f : Json → Settling Unit} :
    Clean (do
      let found ← liftThrown x
      let memo ← orThrow (found.filter Json.isTruthy) (.refused e)
      f memo) ↔
    Returns x ∧ ∀ memo, x = .ok (some memo) → memo.isTruthy = true → Clean (f memo) := by
  rw [clean_bind, clean_liftThrown]
  refine and_congr_right fun _ => ?_
  simp only [liftThrown_eq_ok, clean_bind, clean_orThrow_refused, true_and, orThrow_eq_ok,
    Option.filter_eq_some_iff]
  constructor
  · intro h memo hx htruthy
    exact h (some memo) hx memo ⟨rfl, htruthy⟩
  · rintro h _ hx memo ⟨rfl, htruthy⟩
    exact h memo hx htruthy

theorem clean_checkMemo {env : SettlementEnv} {quote : Members} {tx : Json} :
    Clean (checkMemo env quote tx) ↔ CheckMemoReadable env quote tx := by
  have hincludes (memo : Json) (needle : JsValue) :
      Clean (do
        let matched ← liftThrown (memoIncludes memo needle)
        require (matched = true) memoMismatch) ↔ Includable memo needle := by
    rw [clean_bind, clean_liftThrown, returns_memoIncludes]
    simp
  have htext (memo : Json) (s : JsString) :
      Includable memo (some (.str s)) ↔ Includable memo (some (.str [])) := by
    cases memo <;> simp [Includable, HasText, JsValue.toJsString, Json.toJsString]
  rw [checkMemo, CheckMemoReadable]
  simp only [JsValue.strictEq_str]
  by_cases hoptional : quote.lookup (js "memo_policy") = some (.str (js "optional"))
  · simp [hoptional]
  · simp only [hoptional, ite_false, ne_eq, not_false_eq_true, forall_const]
    rw [clean_found_bind, returns_extractMemo]
    refine and_congr_right fun _ => forall₃_congr fun memo _ _ => ?_
    split_ifs with hid hhash
    · have hkinds : js "quote_id_required" ≠ js "hash_required" := by decide
      rw [hincludes]
      simp [hid, hkinds]
    · have hkinds : js "hash_required" ≠ js "quote_id_required" := by decide
      rw [hincludes, htext]
      simp [hhash, hkinds]
    · simp [hid, hhash]

/-! ### The payment -/

/-- The RPC reports a transaction that succeeded and has a slot. -/
structure Confirmed (tx : Json) : Prop where
  truthy : tx.isTruthy = true
  succeeded : JsValue.isTruthy (JsValue.get? (tx.get? (js "meta")) (js "err")) = false
  slot : JsValue.isTruthy (tx.get? (js "slot")) = true

/-- What steps 7 to 12 read, for a seller with the key `seller`. -/
structure PaymentReadable (env : SettlementEnv) (usdcMint : JsString) (mint seller : PublicKey)
    (quote : Members) (tx : Json) : Prop where
  /-- Neither a sign, an exponent nor a missing digit. -/
  price : ∃ s, quote.lookup (js "final_price") = some (.str s) ∧ isPlainDecimal s = true
  /-- The key of the seller is on the curve. -/
  destination : ∃ account, env.associatedTokenAddress mint seller = some account
  transfer : TransferReadable env.base58Decode tx
  amount : ∀ transfer account,
    extractSplTransfer env.base58Decode tx = .ok (some transfer) →
    env.associatedTokenAddress mint seller = some account →
    transfer.destination = some (.str (env.toBase58 account)) →
    transfer.mint = some (.str usdcMint) ∧ transfer.mint.isTruthy = true →
    ∃ amount, toBigInt transfer.amount = .ok amount ∧
      (∀ n : ℕ, normalizeAmount env.mintDecimals (quote.lookup (js "final_price")) usdcMint =
        .ok n → amount = n → CheckMemoReadable env quote tx)

theorem returns_normalizeAmount {env : SettlementEnv} {usdcMint : JsString} {decimals : ℕ}
    (hmint : env.mintDecimals.lookup usdcMint = some decimals) {price : JsValue} :
    Returns (normalizeAmount env.mintDecimals price usdcMint) ↔
      ∃ s, price = some (.str s) ∧ isPlainDecimal s = true := by
  simp only [Returns, normalizeAmount_eq_ok, hmint]
  constructor
  · rintro ⟨_, _, s, -, hs, hplain, -⟩
    exact ⟨s, hs, hplain⟩
  · rintro ⟨s, hs, hplain⟩
    exact ⟨_, decimals, s, rfl, hs, hplain, rfl⟩

theorem clean_orThrow_refused_bind {ε α β : Type} {o : Option α} {e : ε}
    {f : α → Except (Failure ε) β} :
    Clean (orThrow o (.refused e) >>= f) ↔ ∀ a, o = some a → Clean (f a) := by
  rw [clean_bind]
  simp

theorem clean_require_bind {ε α : Type} {p : Prop} [Decidable p] {e : ε}
    {f : Unit → Except (Failure ε) α} :
    Clean (require p e >>= f) ↔ (p → Clean (f ())) := by
  rw [clean_bind]
  simp only [clean_require, true_and, require_eq_ok]
  exact ⟨fun h => h (), fun h _ => h⟩

theorem clean_liftThrown_bind {ε α β : Type} {x : Except JsError α}
    {f : α → Except (Failure ε) β} :
    Clean (liftThrown x >>= f) ↔ ∃ a, x = .ok a ∧ Clean (f a) := by
  cases x <;> simp [liftThrown, Clean, error_bind, ok_bind]

theorem clean_orThrow_thrown_bind {ε α β : Type} {o : Option α} {e : JsError}
    {f : α → Except (Failure ε) β} :
    Clean (orThrow o (.thrown e) >>= f) ↔ ∃ a, o = some a ∧ Clean (f a) := by
  cases o <;> simp [orThrow, Clean, error_bind, ok_bind]

theorem clean_checkPayment {env : SettlementEnv} {usdcMint : JsString} {decimals : ℕ}
    {mint : PublicKey} (hdecimals : env.mintDecimals.lookup usdcMint = some decimals)
    (hmint : env.newPublicKey usdcMint = some mint) {quote : Members} {tx : JsValue} :
    Clean (checkPayment env true usdcMint quote tx) ↔ ∀ t seller, tx = some t → Confirmed t →
      env.publicKeyOf (quote.lookup (js "seller")) = some seller →
      PaymentReadable env usdcMint mint seller quote t := by
  have hmemo (t : Json) : Clean (do
      checkMemo env quote t
      pure t) ↔ CheckMemoReadable env quote t := by
    rw [clean_bind, clean_checkMemo]
    simp
  simp only [checkPayment, clean_orThrow_refused_bind, clean_require_bind,
    clean_orThrow_thrown_bind, clean_liftThrown_bind, hmint, Option.some.injEq, exists_eq_left',
    JsValue.strictEq_str, forall_const, Option.filter_eq_some_iff, hmemo]
  constructor
  · rintro h t seller htx ⟨htruthy, herr, hslot⟩ hseller
    obtain ⟨expected, hexpected, account, haccount, found, hfound, hrest⟩ :=
      h t ⟨htx, htruthy⟩ herr hslot seller hseller
    refine ⟨(returns_normalizeAmount hdecimals).mp ⟨_, hexpected⟩, ⟨account, haccount⟩,
      returns_extractSplTransfer.mp ⟨_, hfound⟩, ?_⟩
    intro transfer account' htransfer haccount' hdest hmints
    obtain rfl : account = account' := Option.some.inj (haccount.symm.trans haccount')
    obtain rfl : found = some transfer := Except.ok.inj (hfound.symm.trans htransfer)
    obtain ⟨amount, hamount, hread⟩ := hrest transfer rfl hdest hmints
    refine ⟨amount, hamount, fun n hn heq => hread ?_⟩
    obtain rfl : expected = n := Except.ok.inj (hexpected.symm.trans hn)
    exact heq
  · rintro h t ⟨htx, htruthy⟩ herr hslot seller hseller
    obtain ⟨hprice, ⟨account, haccount⟩, htransfer, hamount⟩ :=
      h t seller htx ⟨htruthy, herr, hslot⟩ hseller
    obtain ⟨expected, hexpected⟩ := (returns_normalizeAmount hdecimals).mpr hprice
    obtain ⟨found, hfound⟩ := returns_extractSplTransfer.mpr htransfer
    refine ⟨expected, hexpected, account, haccount, found, hfound, ?_⟩
    rintro transfer rfl hdest hmints
    obtain ⟨amount, hok, hread⟩ := hamount transfer account hfound haccount hdest hmints
    exact ⟨amount, hok, hread expected hexpected⟩

/-! ### The quote -/

/-- What `verifyQuote` reads. -/
def QuoteReadable (c : Crypto) (now : ℤ) (quote : Members) : Prop :=
  PassesBeforeExpiry c quote → HasText (quote.lookup (js "expires_at")) ∧
    ∀ expiresMs, dateParseOf c.legacyDate (quote.lookup (js "expires_at")) = .ok expiresMs →
    isExpired now expiresMs = false → HasText (quote.lookup (js "nonce")) ∧
      (regexTest isNonce (quote.lookup (js "nonce")) = .ok true →
      ∀ buyer seller, c.publicKeyOf (quote.lookup (js "buyer")) = some buyer →
        c.publicKeyOf (quote.lookup (js "seller")) = some seller →
        ∃ sig, quote.lookup (js "buyer_signature") = some (.str sig) ∧
          (c.verifyEd25519 (quoteSigningPayload c quote) sig buyer = true →
            IsString (quote.lookup (js "seller_signature"))))

theorem exists_ok_and_iff {ε α : Type} {x : Except ε α} {P : α → Prop} :
    (∃ a, x = .ok a ∧ P a) ↔ Returns x ∧ ∀ a, x = .ok a → P a := by
  cases x <;> simp

theorem exists_verified_iff {c : Crypto} {payload : ByteArray} {sig : JsValue} {key : PublicKey}
    {P : Bool → Prop} : (∃ b, c.verifySignature payload sig key = .ok b ∧ P b) ↔
      ∃ s, sig = some (.str s) ∧ P (c.verifyEd25519 payload s key) := by
  simp only [verifySignature_eq_ok]
  constructor
  · rintro ⟨_, ⟨s, hs, rfl⟩, h⟩
    exact ⟨s, hs, h⟩
  · rintro ⟨s, hs, h⟩
    exact ⟨_, ⟨s, hs, rfl⟩, h⟩

theorem exists_verifySignature_iff {c : Crypto} {payload : ByteArray} {sig : JsValue}
    {key : PublicKey} : (∃ b, c.verifySignature payload sig key = .ok b) ↔ IsString sig := by
  have htrue : (∃ b, c.verifySignature payload sig key = .ok b ∧ True) ↔
      ∃ s, sig = some (.str s) ∧ True := exists_verified_iff
  simpa [IsString] using htrue

theorem clean_verifyQuote {c : Crypto} {now : ℤ} {quote : Members} :
    Clean (verifyQuote c now quote) ↔ QuoteReadable c now quote := by
  simp only [verifyQuote, clean_orThrow_refused_bind, clean_require_bind, clean_liftThrown_bind,
    exists_verified_iff, exists_verifySignature_iff, clean_require, and_true]
  simp only [exists_ok_and_iff, returns_dateParseOf, returns_regexTest]
  constructor
  · rintro h ⟨hamount, hcurrency, hmemo⟩
    obtain ⟨hdate, hrest⟩ := h hamount hcurrency hmemo
    refine ⟨hdate, fun expiresMs hexpires hlive => ?_⟩
    obtain ⟨hnonce, hsigned⟩ := hrest expiresMs hexpires hlive
    refine ⟨hnonce, fun hformat buyer seller hbuyer hseller => ?_⟩
    exact hsigned true hformat rfl buyer hbuyer seller hseller
  · intro h hamount hcurrency hmemo
    obtain ⟨hdate, hrest⟩ := h ⟨hamount, hcurrency, hmemo⟩
    refine ⟨hdate, fun expiresMs hexpires hlive => ?_⟩
    obtain ⟨hnonce, hsigned⟩ := hrest expiresMs hexpires hlive
    refine ⟨hnonce, ?_⟩
    rintro _ hformat rfl buyer hbuyer seller hseller
    exact hsigned hformat buyer seller hbuyer hseller

theorem clean_checkQuote {env : SettlementEnv} {forgive : Bool} {now : ℤ} {quote : Members} :
    Clean (checkQuote env forgive now quote) ↔ QuoteReadable env.toCrypto now quote := by
  rw [← clean_verifyQuote, checkQuote]
  cases verifyQuote env.toCrypto now quote with
  | ok u => simp [Clean]
  | error e =>
    cases e with
    | thrown e => simp [Clean]
    | refused code =>
      cases code <;> cases forgive <;> simp [Clean]

/-! ### A call -/

/-- The steps of a call of `verifyAndExecute` before its executor: `now` is the clock when the
call starts, `later` when the RPC has answered with `tx`. -/
def verifyBeforeExecution (env : SettlementEnv) (consumedNonces : List JsValue)
    (request : SettlementRequest) (tx : JsValue) (now later : ℤ) : Settling Members := do
  let quote ← checkRequest env false request now
  checkBeforeExecution env consumedNonces request quote tx later
  return quote

/-- The call goes on to its executor, or is refused with a status of the client's errors. -/
def Answered (x : Settling Members) : Prop :=
  (∃ quote, x = .ok quote) ∨ ∃ e, x = .error (.refused e) ∧ 400 ≤ e.httpStatus ∧ e.httpStatus < 500

/-- What a call reads can be read. -/
structure CallReadable (env : SettlementEnv) (mint : PublicKey) (request : SettlementRequest)
    (tx : JsValue) (now : ℤ) (quote : Members) : Prop where
  verification : QuoteReadable env.toCrypto now quote
  payment : verifyQuote env.toCrypto now quote = .ok () →
    isPaymentSignature env request.paymentSignature = true →
    ∀ t seller, tx = some t → Confirmed t →
      env.publicKeyOf (quote.lookup (js "seller")) = some seller →
      PaymentReadable env request.usdcMint mint seller quote t

theorem clean_decodeQuoteHeader {env : SettlementEnv} {header : JsString} :
    Clean (decodeQuoteHeader env header) := by
  intro e
  unfold decodeQuoteHeader
  split
  · split_ifs <;> simp
  · simp

/-- After its verification, a quote has a nonce and an expiry that can be read again. -/
theorem clean_checkBeforeExecution {env : SettlementEnv} {consumedNonces : List JsValue}
    {request : SettlementRequest} {tx : JsValue} {now later : ℤ} {quote : Members} {decimals : ℕ}
    {mint : PublicKey} (hdecimals : env.mintDecimals.lookup request.usdcMint = some decimals)
    (hmint : env.newPublicKey request.usdcMint = some mint)
    (hverified : verifyQuote env.toCrypto now quote = .ok ()) :
    Clean (checkBeforeExecution env consumedNonces request quote tx later) ↔
      ∀ t seller, tx = some t → Confirmed t →
        env.publicKeyOf (quote.lookup (js "seller")) = some seller →
        PaymentReadable env request.usdcMint mint seller quote t := by
  obtain ⟨-, ⟨expires, hexpires, -⟩, hnonce, -⟩ := verifyQuote_eq_ok hverified
  rw [checkBeforeExecution, clean_bind, clean_checkPayment hdecimals hmint,
    and_iff_left_iff_imp]
  intro _ _ _
  simp only [hnonce, hexpires, clean_liftThrown_bind, clean_require_bind, Except.ok.injEq,
    exists_eq_left', clean_require, implies_true]

theorem clean_verifyBeforeExecution {env : SettlementEnv} {consumedNonces : List JsValue}
    {request : SettlementRequest} {tx : JsValue} {now later : ℤ} {decimals : ℕ}
    {mint : PublicKey} (hdecimals : env.mintDecimals.lookup request.usdcMint = some decimals)
    (hmint : env.newPublicKey request.usdcMint = some mint) :
    Clean (verifyBeforeExecution env consumedNonces request tx now later) ↔
      ∀ quote, decodeQuoteHeader env request.quoteHeaderB64 = .ok quote →
        CallReadable env mint request tx now quote := by
  have hpassed (quote : Members) : checkQuote env false now quote = .ok () ↔
      verifyQuote env.toCrypto now quote = .ok () := by
    rw [checkQuote_eq_ok]
    simp
  have hrequest : Clean (checkRequest env false request now) ↔
      ∀ quote, decodeQuoteHeader env request.quoteHeaderB64 = .ok quote →
        QuoteReadable env.toCrypto now quote := by
    rw [checkRequest, clean_bind]
    simp only [clean_decodeQuoteHeader, true_and, clean_bind, clean_checkQuote, clean_require,
      clean_pure, implies_true, and_true]
  rw [verifyBeforeExecution, clean_bind, hrequest]
  simp only [clean_bind, clean_pure, implies_true, and_true]
  constructor
  · rintro ⟨hquote, hrest⟩ quote hdecode
    refine ⟨hquote quote hdecode, fun hverified hpayment => ?_⟩
    have hpass : checkRequest env false request now = .ok quote :=
      checkRequest_eq_ok.mpr ⟨hdecode, (hpassed quote).mpr hverified, hpayment⟩
    exact (clean_checkBeforeExecution hdecimals hmint hverified).mp (hrest quote hpass)
  · intro h
    refine ⟨fun quote hdecode => (h quote hdecode).verification, fun quote hpass => ?_⟩
    obtain ⟨hdecode, hcheck, hpayment⟩ := checkRequest_eq_ok.mp hpass
    have hverified := (hpassed quote).mp hcheck
    exact (clean_checkBeforeExecution hdecimals hmint hverified).mpr
      ((h quote hdecode).payment hverified hpayment)

/-! ### Refusals -/

/-- The code refuses with a status of the client's errors only. -/
def RefusesClient {α : Type} (x : Settling α) : Prop :=
  ∀ e, x = .error (.refused e) → 400 ≤ e.httpStatus ∧ e.httpStatus < 500

theorem RefusesClient.bind {α β : Type} {x : Settling α} {f : α → Settling β}
    (hx : RefusesClient x) (hf : ∀ a, RefusesClient (f a)) : RefusesClient (x >>= f) := by
  intro e h
  rcases bind_eq_error.mp h with h | ⟨a, -, h⟩
  · exact hx e h
  · exact hf a e h

theorem refusesClient_pure {α : Type} (a : α) : RefusesClient (pure a : Settling α) := by
  intro e h
  cases h

theorem refusesClient_require {p : Prop} [Decidable p] {e : SettlementError}
    (h : 400 ≤ e.httpStatus ∧ e.httpStatus < 500) : RefusesClient (require p e) := by
  intro e' he
  obtain ⟨-, rfl⟩ := require_eq_refused.mp he
  exact h

theorem refusesClient_orThrow {α : Type} {o : Option α} {f : Failure SettlementError}
    (h : ∀ e, f = .refused e → 400 ≤ e.httpStatus ∧ e.httpStatus < 500) :
    RefusesClient (orThrow o f) := by
  intro e he
  obtain ⟨-, rfl⟩ := orThrow_eq_error.mp he
  exact h e rfl

theorem refusesClient_liftThrown {α : Type} {x : Except JsError α} :
    RefusesClient (liftThrown x) := by
  intro e h
  exact absurd h liftThrown_ne_refused

theorem refusesClient_checkRequest (env : SettlementEnv) (request : SettlementRequest)
    (now : ℤ) : RefusesClient (checkRequest env false request now) := by
  have hheader (message : JsString) : 400 ≤ (malformedQuoteHeader message).httpStatus ∧
      (malformedQuoteHeader message).httpStatus < 500 :=
        ⟨le_refl _, by norm_num [malformedQuoteHeader]⟩
  refine .bind ?_ fun quote => .bind ?_ fun _ => .bind ?_ fun _ => refusesClient_pure _
  · intro e h
    unfold decodeQuoteHeader at h
    split at h
    · split_ifs at h
      cases h
      exact hheader _
    · cases h
      exact hheader _
  · intro e h
    unfold checkQuote at h
    cases hverify : verifyQuote env.toCrypto now quote with
    | ok u =>
      rw [hverify] at h
      cases h
    | error failure =>
      rw [hverify] at h
      cases failure with
      | thrown thrown => cases h
      | refused code =>
        cases code <;> cases h <;> first | exact hheader _ | decide
  · exact refusesClient_require (by decide)

theorem refusesClient_checkMemo (env : SettlementEnv) (quote : Members) (tx : Json) :
    RefusesClient (checkMemo env quote tx) := by
  have hmatch (memo : Json) (needle : JsValue) : RefusesClient (do
      let matched ← liftThrown (memoIncludes memo needle)
      require (matched = true) memoMismatch) :=
    .bind refusesClient_liftThrown fun _ => refusesClient_require (by decide)
  unfold checkMemo
  simp only
  split_ifs
  · exact refusesClient_pure _
  all_goals
    refine .bind refusesClient_liftThrown fun _ => .bind (refusesClient_orThrow ?_) fun memo => ?_
    · rintro _ ⟨⟩
      decide
    · first | exact hmatch memo _ | exact refusesClient_pure _

theorem refusesClient_checkBeforeExecution (env : SettlementEnv) (consumedNonces : List JsValue)
    (request : SettlementRequest) (quote : Members) (tx : JsValue) (now : ℤ) :
    RefusesClient (checkBeforeExecution env consumedNonces request quote tx now) := by
  refine .bind ?_ fun _ => .bind refusesClient_liftThrown fun _ =>
    .bind (refusesClient_require (by decide)) fun _ =>
    .bind (refusesClient_require (by decide)) fun _ =>
    .bind refusesClient_liftThrown fun _ => refusesClient_require (by decide)
  refine .bind (refusesClient_orThrow ?_) fun t => .bind (refusesClient_require (by decide))
    fun _ => .bind (refusesClient_require (by decide)) fun _ =>
    .bind (refusesClient_orThrow ?_) fun seller => .bind (refusesClient_orThrow nofun) fun mint =>
    .bind refusesClient_liftThrown fun amount => .bind (refusesClient_orThrow nofun) fun account =>
    .bind refusesClient_liftThrown fun found => .bind (refusesClient_orThrow ?_) fun transfer =>
    .bind (refusesClient_require (by decide)) fun _ =>
    .bind (refusesClient_require (by decide)) fun _ =>
    .bind refusesClient_liftThrown fun _ => .bind (refusesClient_require (by decide)) fun _ =>
    .bind (refusesClient_checkMemo env quote t) fun _ => refusesClient_pure t
  all_goals
    rintro _ ⟨⟩
    decide

theorem answered_iff_clean {x : Settling Members} (h : RefusesClient x) : Answered x ↔ Clean x := by
  cases x with
  | ok quote => simp [Answered, Clean]
  | error e =>
    cases e with
    | thrown e => simp [Answered, Clean]
    | refused e => simpa [Answered, Clean] using h e rfl

/-- A call is answered exactly when all that it reads of its quote and of its transaction can be
read. -/
theorem verifyAndExecute_answered_iff (env : SettlementEnv) (consumedNonces : List JsValue)
    (request : SettlementRequest) (tx : JsValue) (now later : ℤ) {decimals : ℕ}
    {mint : PublicKey} (hdecimals : env.mintDecimals.lookup request.usdcMint = some decimals)
    (hmint : env.newPublicKey request.usdcMint = some mint) :
    Answered (verifyBeforeExecution env consumedNonces request tx now later) ↔
      ∀ quote, decodeQuoteHeader env request.quoteHeaderB64 = .ok quote →
        CallReadable env mint request tx now quote := by
  rw [answered_iff_clean, clean_verifyBeforeExecution hdecimals hmint]
  exact .bind (refusesClient_checkRequest env request now) fun quote =>
    .bind (refusesClient_checkBeforeExecution env consumedNonces request quote tx later) fun _ =>
    refusesClient_pure quote

/-- A call that the RPC answers starts its executor, or fails, as its checks say. -/
theorem SettlementServer.call_run (env : SettlementEnv) (s : SettlementServer) (t : ℕ)
    (request : SettlementRequest) (tx : JsValue) (now later : ℤ) (hidle : s.call t = .idle) :
    (Transition.run (step env) s [.call t request now, .rpcReturns t tx later]).call t =
      match verifyBeforeExecution env s.consumedNonces request tx now later with
      | .ok quote => .executing request now quote
      | .error e => .failed e := by
  cases hrequest : checkRequest env false request now with
  | error e =>
    simp [Transition.run, Transition.next, step, hidle, hrequest, verifyBeforeExecution, error_bind]
  | ok quote =>
    cases hchecks : checkBeforeExecution env s.consumedNonces request quote tx later with
    | error e =>
      simp [Transition.run, Transition.next, step, hidle, hrequest, hchecks, setCall,
        verifyBeforeExecution, ok_bind]
    | ok u =>
      simp [Transition.run, Transition.next, step, hidle, hrequest, hchecks, setCall,
        verifyBeforeExecution, ok_bind]

/-! ### Quotes that end in another exception -/

/-- `signedQuote` without its signatures. -/
def unsignedQuote : Members :=
  signedQuote.filter fun p => p.1 ≠ js "buyer_signature" ∧ p.1 ≠ js "seller_signature"

/-- The base64 text of `unsignedQuote`. -/
def unsignedHeader : JsString :=
  js "eyJxdW90ZV9pZCI6IjNmMmM4ZjBlLTZkMWItNGM3ZS05YTU1LTBjMmY4ZjNmMWExMCIsInJmcV9pZCI6Ijhi" ++
    js "MGM2ZTBmLTNmMGEtNGE1OC04YzM5LTVkMmExYTdlN2YwMSIsImJ1eWVyIjoiZGlkOmtleTp6Nk1rcjhSUUVj" ++
    js "YmdqaGRxR01wVFFiM2NlU2Jabkd6WHp6S2RqS1c2VzJSTVRpejYiLCJzZWxsZXIiOiJkaWQ6a2V5Ono2TWtq" ++
    js "NTk3M202UzVNdHh5YXBuV05LZUZSanRuTkduOWc3N0F1YTVGUHhrNkpEVSIsInNlcnZpY2VfdHlwZSI6InRy" ++
    js "YW5zbGF0aW9uIiwiZmluYWxfcHJpY2UiOiI5IiwiY3VycmVuY3kiOiJVU0RDIiwicGF5bWVudF9lbmRwb2lu" ++
    js "dCI6Imh0dHBzOi8vc2VsbGVyLmV4YW1wbGUvZXhlY3V0ZSIsImV4cGlyZXNfYXQiOiIyMDI2LTAzLTAxVDEy" ++
    js "OjA1OjAwLjAwMFoiLCJub25jZSI6IjB4NWE1YTVhNWE1YTVhNWE1YTVhNWE1YTVhNWE1YTVhNWE1YTVhNWE1" ++
    js "YTVhNWE1YTVhNWE1YTVhNWE1YTVhNWE1YSIsIm1lbW9fcG9saWN5IjoicXVvdGVfaWRfcmVxdWlyZWQifQ=="

def exponentByBuyer : JsString :=
  js "ed25519:FH7LkyompH8weToPcy1aF4Ljr1Yjx27YfoDjuVx5YnOha/DtmcBjDVL0LZBsFm4MJ4M3+AlXnv6bKzy31hIUCw=="

def exponentBySeller : JsString :=
  js "ed25519:LZQ3bKYz48khw8BDIKIoHaAyyl5h/BdrOkN6yBiAOQr2qgfQQOEEaEguO1gyo+srM9FbMyZRqpAmxB3ov9LmDA=="

/-- `signedQuote` with its price written with an exponent. -/
def exponentQuote : Members :=
  spread (spread (spread signedQuote (js "final_price") (.str (js "9e0"))) (js "buyer_signature")
    (.str exponentByBuyer)) (js "seller_signature") (.str exponentBySeller)

/-- The base64 text of `exponentQuote`. -/
def exponentHeader : JsString :=
  js "eyJxdW90ZV9pZCI6IjNmMmM4ZjBlLTZkMWItNGM3ZS05YTU1LTBjMmY4ZjNmMWExMCIsInJmcV9pZCI6Ijhi" ++
    js "MGM2ZTBmLTNmMGEtNGE1OC04YzM5LTVkMmExYTdlN2YwMSIsImJ1eWVyIjoiZGlkOmtleTp6Nk1rcjhSUUVj" ++
    js "YmdqaGRxR01wVFFiM2NlU2Jabkd6WHp6S2RqS1c2VzJSTVRpejYiLCJzZWxsZXIiOiJkaWQ6a2V5Ono2TWtq" ++
    js "NTk3M202UzVNdHh5YXBuV05LZUZSanRuTkduOWc3N0F1YTVGUHhrNkpEVSIsInNlcnZpY2VfdHlwZSI6InRy" ++
    js "YW5zbGF0aW9uIiwiZmluYWxfcHJpY2UiOiI5ZTAiLCJjdXJyZW5jeSI6IlVTREMiLCJwYXltZW50X2VuZHBv" ++
    js "aW50IjoiaHR0cHM6Ly9zZWxsZXIuZXhhbXBsZS9leGVjdXRlIiwiZXhwaXJlc19hdCI6IjIwMjYtMDMtMDFU" ++
    js "MTI6MDU6MDAuMDAwWiIsIm5vbmNlIjoiMHg1YTVhNWE1YTVhNWE1YTVhNWE1YTVhNWE1YTVhNWE1YTVhNWE1" ++
    js "YTVhNWE1YTVhNWE1YTVhNWE1YTVhNWE1YTVhIiwibWVtb19wb2xpY3kiOiJxdW90ZV9pZF9yZXF1aXJlZCIs" ++
    js "ImJ1eWVyX3NpZ25hdHVyZSI6ImVkMjU1MTk6Rkg3TGt5b21wSDh3ZVRvUGN5MWFGNExqcjFZangyN1lmb0Rq" ++
    js "dVZ4NVluT2hhL0R0bWNCakRWTDBMWkJzRm00TUo0TTMrQWxYbnY2Ykt6eTMxaElVQ3c9PSIsInNlbGxlcl9z" ++
    js "aWduYXR1cmUiOiJlZDI1NTE5OkxaUTNiS1l6NDhraHc4QkRJS0lvSGFBeXlsNWgvQmRyT2tONnlCaUFPUXIy" ++
    js "cWdmUVFPRUVhRWd1TzFneW8rc3JNOUZiTXlaUnFwQW14QjNvdjlMbURBPT0ifQ=="

abbrev unsignedEnv : SettlementEnv := sampleEnv (.obj unsignedQuote) []

/-- The decimal library also reads exponents. -/
abbrev exponentEnv : SettlementEnv :=
  let env := sampleEnv (.obj exponentQuote) [exponentByBuyer, exponentBySeller]
  { env with newDecimal := fun v =>
      if v = some (.str (js "9e0")) then some (.finite 9) else env.newDecimal v }

/-- The exception of the language that a call ends in. -/
def escapeOf {α : Type} : Settling α → Option JsError
  | .error (.thrown e) => some e
  | _ => none

theorem not_answered_of_escape {x : Settling Members} {e : JsError} (h : escapeOf x = some e) :
    ¬ Answered x := by
  rintro (⟨quote, rfl⟩ | ⟨refusal, rfl, -⟩)
  · cases h
  · cases h

/-- A missing signature is no text, and an exponent no plain decimal. -/
theorem verifyAndExecute_escapes :
    ¬ Answered (verifyBeforeExecution unsignedEnv [] ⟨unsignedHeader, samplePayment, usdcMint, none⟩
      (some signedPayment) beforeExpiry beforeExpiry) ∧
    ¬ Answered (verifyBeforeExecution exponentEnv [] ⟨exponentHeader, samplePayment, usdcMint, none⟩
      (some signedPayment) beforeExpiry beforeExpiry) := by
  have hunsigned : escapeOf (verifyBeforeExecution unsignedEnv []
      ⟨unsignedHeader, samplePayment, usdcMint, none⟩ (some signedPayment) beforeExpiry
      beforeExpiry) = some .typeError := by decide +kernel
  have hexponent : escapeOf (verifyBeforeExecution exponentEnv []
      ⟨exponentHeader, samplePayment, usdcMint, none⟩ (some signedPayment) beforeExpiry
      beforeExpiry) = some (.error (js "Invalid decimal string: \"9e0\"")) := by decide +kernel
  exact ⟨not_answered_of_escape hunsigned, not_answered_of_escape hexponent⟩

theorem verifyAndExecute_answered_signed :
    ∃ quote, decodeQuoteHeader signedEnv signedRequest.quoteHeaderB64 = .ok quote ∧
      CallReadable signedEnv usdcMintKey signedRequest (some signedPayment) beforeExpiry quote := by
  have hdecodes : succeeds (decodeQuoteHeader signedEnv signedRequest.quoteHeaderB64) = true := by
    decide +kernel
  have hok : succeeds (verifyBeforeExecution signedEnv [] signedRequest (some signedPayment)
      beforeExpiry beforeExpiry) = true := by decide +kernel
  have hdecimals : signedEnv.mintDecimals.lookup signedRequest.usdcMint = some 6 := by
    decide +kernel
  have hmint : signedEnv.newPublicKey signedRequest.usdcMint = some usdcMintKey := by
    decide +kernel
  obtain ⟨quote, hquote⟩ := succeeds_iff.mp hdecodes
  exact ⟨quote, hquote, (verifyAndExecute_answered_iff signedEnv [] signedRequest
    (some signedPayment) beforeExpiry beforeExpiry hdecimals hmint).mp
      (.inl (succeeds_iff.mp hok)) quote hquote⟩

end GhostBazaar.Settlement
