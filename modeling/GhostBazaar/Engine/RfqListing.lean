import Mathlib.Data.List.Sort
import GhostBazaar.Engine.Due
import GhostBazaar.Engine.Routes.Reading

/-! `GET /rfqs` page by page. The pages hold every session that the query selects once, in the
order of the deadlines as texts; this is the order of the deadlines as times only for some. -/
namespace GhostBazaar.Engine
open Js GhostBazaar.Core Settlement Transition InternalEventStore

/-! ### The route -/

/-- `a.localeCompare(b)`, a consistent comparison that tells the ids of requests apart. -/
structure LocaleCompare where
  compare : JsString → JsString → ℤ
  swap : ∀ a b, compare a b ≤ 0 ↔ 0 ≤ compare b a
  trans : ∀ a b c, compare a b ≤ 0 → compare b c ≤ 0 → compare a c ≤ 0
  uuid : ∀ a b, isUuidV4 a = true → isUuidV4 b = true → compare a b = 0 → a = b

def DEFAULT_LIMIT : ℕ := 50

def MAX_LIMIT : ℕ := 200

/-- `/^\d+$/` -/
def isDigits (s : JsString) : Bool := !s.isEmpty && s.all isDigitUnit

/-- `/^[1-9]\d*$/` -/
def isPositiveDigits (s : JsString) : Bool := isDigits s && decide (s.head? ≠ some 48)

def invalidParam (message : JsString) : EngineError := ⟨400, js "invalid_param", message⟩

def parseLimit : Option JsString → Handling ℕ
  | none => .ok DEFAULT_LIMIT
  | some limitParam => do
    require (isPositiveDigits limitParam = true)
      (invalidParam (js "limit must be a positive integer"))
    return min (digitsValue limitParam) MAX_LIMIT

/-- A number that is too large to be exact lies behind the end, as its digits do. -/
def parseOffset : Option JsString → Handling ℕ
  | none => .ok 0
  | some offsetParam => do
    require (isDigits offsetParam = true)
      (invalidParam (js "offset must be a non-negative integer"))
    return digitsValue offsetParam

/-- The comparison of the listing. -/
def compareRfqs (locale : LocaleCompare) (a b : SessionRfq) : ℤ :=
  let byDeadline := locale.compare a.deadline b.deadline
  if byDeadline ≠ 0 then byDeadline else locale.compare a.rfqId b.rfqId

structure RfqPage where
  rfqs : List Members
  total : ℕ
  limit : ℕ
  offset : ℕ

variable {σ : Type} [InternalEventStore σ]

/-- The loop over the sessions. Its entries are summarised after the sort, which reads two fields
that a summary shares with its session. -/
def matchedSessions (now : ℤ) (q : RfqQuery) :
    List JsString → SessionManager σ → Except JsString (List DerivedSession) × SessionManager σ
  | [], m => (.ok [], m)
  | rfqId :: rfqIds, m =>
    match m.getSession now rfqId with
    | (.error e, m) => (.error e, m)
    | (.ok none, m) => matchedSessions now q rfqIds m
    | (.ok (some session), m) =>
      let (matched, m) := matchedSessions now q rfqIds m
      (matched.map fun matched => if q.selects session then session :: matched else matched, m)

/-- What is sent of the matches, in the order of the comparison. -/
def pageOf (locale : LocaleCompare) (matched : List DerivedSession) (limit offset : ℕ) : RfqPage :=
  let sorted := matched.insertionSort fun a b => compareRfqs locale a.rfq b.rfq ≤ 0
  ⟨((sorted.drop offset).take limit).map rfqSummary, matched.length, limit, offset⟩

def listRfqs (locale : LocaleCompare) (now : ℤ) (m : SessionManager σ) (q : RfqQuery)
    (limitParam offsetParam : Option JsString) : Handling RfqPage × SessionManager σ :=
  match parseLimit limitParam, parseOffset offsetParam with
  | .ok limit, .ok offset =>
    match matchedSessions now q m.getActiveSessionIds m with
    | (.ok matched, m) => (.ok (pageOf locale matched limit offset), m)
    | (.error e, m) => (.error (.thrown (.error e)), m)
  | .error failure, _ | _, .error failure => (.error failure, m)

/-! ### A complete listing and its order -/

/-- The session of some log that the query selects. -/
def Matches (m : SessionManager σ) (q : RfqQuery) (s : DerivedSession) : Prop :=
  ∃ r, deriveState (m.log r) = .ok (some s) ∧ q.selects s = true

/-- The deadline of the first is the earlier one, or they are the same instant and its id comes
first. -/
def Sooner (env : EngineEnv) (locale : LocaleCompare) (a b : SessionRfq) : Prop :=
  ∃ at' bt, dateParse env.legacyDate a.deadline = some at' ∧
    dateParse env.legacyDate b.deadline = some bt ∧
    (at' < bt ∨ at' = bt ∧ locale.compare a.rfqId b.rfqId ≤ 0)

/-- The pages together list every match once, with its number on each page. -/
structure ListsOnce (m : SessionManager σ) (q : RfqQuery) (L : ℕ)
    (answers : ℕ → Handling RfqPage) (listed : List DerivedSession) : Prop where
  once : (listed.map fun s => s.rfq.rfqId).Nodup
  matching : ∀ s, s ∈ listed ↔ Matches m q s
  total : ∀ k, ∃ page, answers k = .ok page ∧ page.total = listed.length
  pages : ∀ n, listed.length ≤ n * L → ∀ page : ℕ → RfqPage, (∀ k, answers k = .ok (page k)) →
    ((List.range n).flatMap fun k => (page k).rfqs) = listed.map rfqSummary

/-- The order of the texts is that of the times, for any two matches. -/
def DeadlinesAgree (env : EngineEnv) (locale : LocaleCompare) (m : SessionManager σ)
    (q : RfqQuery) : Prop :=
  ∀ a b, Matches m q a → Matches m q b → compareRfqs locale a.rfq b.rfq < 0 →
    Sooner env locale a.rfq b.rfq

/-! ### The parameters -/

theorem isDigits_natText (n : ℕ) : isDigits (natText n) = true := by
  obtain ⟨hne, hdigits, -⟩ := natText_digits n
  unfold isDigits
  rw [Bool.and_eq_true, List.all_eq_true]
  exact ⟨by simpa using hne, hdigits⟩

theorem parseOffset_natText (n : ℕ) : parseOffset (some (natText n)) = .ok n := by
  have hvalue := (natText_digits n).2.2
  simp only [parseOffset, isDigits_natText, require, bind, Except.bind, hvalue]
  rfl

/-- The text of a positive number does not start with a zero. -/
theorem natText_head {n : ℕ} (h : 0 < n) : (natText n).head? ≠ some 48 := by
  have hn := Nat.pos_iff_ne_zero.mp h
  have hne : Nat.digits 10 n ≠ [] := Nat.digits_ne_nil_iff_ne_zero.mpr hn
  have hlast := Nat.getLast_digit_ne_zero 10 hn
  have hlt := Nat.digits_lt_base (by norm_num : 1 < 10) (List.getLast_mem hne)
  have hdigits := List.dropLast_append_getLast hne
  generalize (Nat.digits 10 n).getLast hne = d at hlast hlt hdigits
  rw [natText, if_neg hn, digitText, ← hdigits, List.reverse_append, List.reverse_singleton,
    List.singleton_append, List.map_cons, List.flatMap_cons, utf16Units, digitChar_toNat hlt,
    if_pos (by omega), List.singleton_append, List.head?_cons]
  intro heq
  have hval := congrArg Fin.val (Option.some.inj heq)
  simp only [Fin.val_ofNat] at hval
  omega

theorem parseLimit_natText {n : ℕ} (h : 0 < n) (hmax : n ≤ MAX_LIMIT) :
    parseLimit (some (natText n)) = .ok n := by
  have hpositive : isPositiveDigits (natText n) = true := by
    unfold isPositiveDigits
    rw [isDigits_natText, decide_eq_true (natText_head h)]
    rfl
  have hvalue := (natText_digits n).2.2
  simp only [parseLimit, hpositive, require, bind, Except.bind, hvalue, min_eq_left hmax]
  rfl

/-! ### The order of the listing -/

section

variable {locale : LocaleCompare}

/-- Both keys, one after the other. -/
theorem compareRfqs_le_zero (a b : SessionRfq) : compareRfqs locale a b ≤ 0 ↔
    locale.compare a.deadline b.deadline < 0 ∨ locale.compare a.deadline b.deadline = 0 ∧
      locale.compare a.rfqId b.rfqId ≤ 0 := by
  unfold compareRfqs
  dsimp only
  split_ifs with h
  · constructor
    · exact fun hle => Or.inl (lt_of_le_of_ne hle h)
    · rintro (hlt | ⟨heq, -⟩)
      · exact hlt.le
      · exact absurd heq h
  · rw [not_not] at h
    simp [h]

theorem compareRfqs_total (a b : SessionRfq) :
    compareRfqs locale a b ≤ 0 ∨ compareRfqs locale b a ≤ 0 := by
  have hdeadline := locale.swap a.deadline b.deadline
  have hid := locale.swap a.rfqId b.rfqId
  have hdeadline' := locale.swap b.deadline a.deadline
  rw [compareRfqs_le_zero, compareRfqs_le_zero]
  omega

theorem compareRfqs_trans {a b c : SessionRfq} (hab : compareRfqs locale a b ≤ 0)
    (hbc : compareRfqs locale b c ≤ 0) : compareRfqs locale a c ≤ 0 := by
  rw [compareRfqs_le_zero] at *
  have hswap := locale.swap
  have htrans := locale.trans
  have hac : locale.compare a.deadline c.deadline ≤ 0 := by
    apply htrans _ b.deadline
    · omega
    · omega
  rcases lt_or_eq_of_le hac with hlt | heq
  · exact Or.inl hlt
  · -- Both steps keep the deadline, or the way back would be downhill.
    have hca : locale.compare c.deadline a.deadline ≤ 0 := (hswap _ _).mpr heq.ge
    have hba : locale.compare b.deadline a.deadline ≤ 0 := by
      apply htrans _ c.deadline _ _ hca
      omega
    have hcb : locale.compare c.deadline b.deadline ≤ 0 := by
      apply htrans _ a.deadline _ hca
      omega
    have hab' := (hswap b.deadline a.deadline).mp hba
    have hbc' := (hswap c.deadline b.deadline).mp hcb
    refine Or.inr ⟨heq, htrans _ b.rfqId _ ?_ ?_⟩
    · omega
    · omega

theorem compareRfqs_eq_zero {a b : SessionRfq} (hab : compareRfqs locale a b = 0)
    (ha : isUuidV4 a.rfqId = true) (hb : isUuidV4 b.rfqId = true) : a.rfqId = b.rfqId := by
  apply locale.uuid _ _ ha hb
  unfold compareRfqs at hab
  dsimp only at hab
  split_ifs at hab with h
  · exact absurd hab h
  · exact hab

end

/-! ### The sessions of the engine -/

section

variable {env : EngineEnv} {P : DerivedSession → Members → Prop}
  {answers : List (JsString × JsValue)} {h : List Entry} {r : JsString}

/-- The id of a session is that of its log, and was checked. -/
theorem Recorded.sessionId {en : Entry} (hr : Recorded env P answers h en)
    (hlog : logOf h en.rfqId = []) {s : DerivedSession} (hs : initialSession en.event = .ok s) :
    en.event.rfqId = s.rfq.rfqId ∧ isUuidV4 s.rfq.rfqId = true := by
  obtain ⟨now, body, hvalid, hbody, hevent⟩ := hr.request hlog hs
  simp only [validateRfq, bind_eq_ok, require_eq_ok, liftThrown_eq_ok] at hvalid
  obtain ⟨-, -, -, -, uuid, huuid, -, rfl, -⟩ := hvalid
  rw [hbody, regexTest, stringOf_str] at huuid
  simp only [Except.map, Except.ok.injEq] at huuid
  have hpayload : en.event.payload.lookup (js "rfq_id") = body.get? (js "rfq_id") := by
    rw [hevent, lookup_extractRfqFields, if_pos (by decide +kernel)]
  simp only [initialSession, bind_eq_ok, ensure_eq_ok, str_eq_ok, pure_eq_ok] at hs
  obtain ⟨-, -, _, -, rfqId, hrfqId, _, -, _, -, _, -, _, -, rfl⟩ := hs
  rw [hpayload, hbody, Option.some.injEq, Json.str.injEq] at hrfqId
  rw [hr.rfqId, ← hrfqId]
  exact ⟨rfl, huuid⟩

theorem Journal.sessionId (hj : Journal env P answers h) {s : DerivedSession}
    (hs : deriveState (logOf h r) = .ok (some s)) :
    s.rfq.rfqId = r ∧ isUuidV4 s.rfq.rfqId = true := by
  have hhead : ∀ e ∈ (logOf h r).head?, e.rfqId = s.rfq.rfqId ∧ isUuidV4 s.rfq.rfqId = true := by
    apply hj.session_induction (C := fun log s =>
      ∀ e ∈ log.head?, e.rfqId = s.rfq.rfqId ∧ isUuidV4 s.rfq.rfqId = true) _ _ hs
    · intro h en s hr hlog hs e he
      rw [List.head?_cons, Option.mem_def, Option.some.injEq] at he
      rw [← he]
      exact hr.sessionId hlog hs
    · intro h en s s' _ hs hstep hhead e he
      rw [hstep.rfq]
      apply hhead e
      cases hlog : logOf h en.rfqId with
      | nil =>
        rw [hlog, deriveState] at hs
        cases hs
      | cons first rest =>
        rw [hlog] at he
        exact he
  cases hlog : logOf h r with
  | nil =>
    rw [hlog, deriveState] at hs
    cases hs
  | cons first rest =>
    rw [hlog] at hhead
    obtain ⟨hid, huuid⟩ := hhead first rfl
    obtain ⟨h₁, en, h₂, hsplit, hr, hevent, -⟩ :=
      exists_entry_of_logOf (hlog.trans (List.nil_append _).symm)
    rw [← hid, ← hevent, (hj h₁ en h₂ hsplit).rfqId, hr]
    exact ⟨rfl, by rw [← hr, ← (hj h₁ en h₂ hsplit).rfqId, hevent, hid]; exact huuid⟩

end

/-! ### What the loop collects -/

/-- The matches of some logs, in their order. -/
def matchesOf (log : JsString → List NegotiationEvent) (q : RfqQuery) (rfqIds : List JsString) :
    List DerivedSession :=
  rfqIds.filterMap fun r => match deriveState (log r) with
    | .ok (some session) => if q.selects session then some session else none
    | _ => none

theorem mem_matchesOf {log : JsString → List NegotiationEvent} {q : RfqQuery}
    {rfqIds : List JsString} {s : DerivedSession} : s ∈ matchesOf log q rfqIds ↔
      ∃ r ∈ rfqIds, deriveState (log r) = .ok (some s) ∧ q.selects s = true := by
  unfold matchesOf
  rw [List.mem_filterMap]
  apply exists_congr
  intro r
  apply and_congr_right
  intro _
  split
  · rename_i session hsession
    rw [hsession, Except.ok.injEq, Option.some.injEq, Option.ite_none_right_eq_some,
      Option.some.injEq]
    constructor
    · rintro ⟨hselects, rfl⟩
      exact ⟨rfl, hselects⟩
    · rintro ⟨rfl, hselects⟩
      exact ⟨hselects, rfl⟩
  · rename_i hnone
    constructor
    · exact fun hs => nomatch hs
    · exact fun hs => absurd hs.1 (hnone s)

theorem matchedSessions_eq {m : SessionManager σ} (h : m.Consistent) (now : ℤ) (q : RfqQuery)
    (rfqIds : List JsString) :
    (matchedSessions now q rfqIds m).1 = .ok (matchesOf m.log q rfqIds) := by
  induction rfqIds generalizing m with
  | nil => rfl
  | cons r rfqIds ih =>
    obtain ⟨hsession, hconsistent, hstore, -⟩ := h.getSession now r
    have hlog : (m.getSession now r).2.log = m.log := by
      unfold SessionManager.log
      rw [hstore]
    have hrest := ih hconsistent
    rw [hlog] at hrest
    obtain ⟨s, hs⟩ := h.accepted r
    rw [hs] at hsession
    unfold matchedSessions matchesOf
    rw [List.filterMap_cons, hs]
    cases hget : m.getSession now r with
    | mk result next =>
      rw [hget] at hsession hrest
      simp only at hsession hrest
      subst hsession
      cases s with
      | none => exact hrest
      | some s =>
        cases hmatched : matchedSessions now q rfqIds next with
        | mk matched last =>
          rw [hmatched] at hrest
          simp only at hrest
          subst hrest
          simp only [Except.map]
          split_ifs with hselects
          · rw [hmatched]
            rfl
          · rw [hmatched]
            rfl

/-! ### The pages together -/

/-- The ids of a store are the keys of a map, so no session is listed twice. -/
class DistinctSessions (σ : Type) [InternalEventStore σ] : Prop where
  nodup : ∀ s : σ, (listSessionIds s).Nodup

instance : DistinctSessions InMemoryEventStore where
  nodup s := s.events.nodup

theorem flatMap_pages {α : Type} (l : List α) (L n : ℕ) :
    ((List.range n).flatMap fun k => (l.drop (k * L)).take L) = l.take (n * L) := by
  induction n with
  | zero => simp
  | succ n ih =>
    rw [List.range_succ, List.flatMap_append, ih, Nat.succ_mul, List.take_add]
    simp

theorem eq_of_map_eq {α β : Type} {f : α → β} {l l' : List α} (h : l.map f = l'.map f)
    (hinj : ∀ a ∈ l, ∀ b ∈ l', f a = f b → a = b) : l = l' := by
  induction l generalizing l' with
  | nil => exact (List.map_eq_nil_iff.mp h.symm).symm
  | cons a l ih =>
    obtain ⟨b, rest, rfl, hab, hrest⟩ := List.map_eq_cons_iff.mp h.symm
    have heq := hinj a List.mem_cons_self b List.mem_cons_self hab.symm
    have hrests := ih hrest.symm fun a ha b hb =>
      hinj a (List.mem_cons_of_mem _ ha) b (List.mem_cons_of_mem _ hb)
    rw [heq, hrests]

theorem compareRfqs_antisymm {locale : LocaleCompare} {a b : SessionRfq}
    (hab : compareRfqs locale a b ≤ 0) (hba : compareRfqs locale b a ≤ 0) :
    compareRfqs locale a b = 0 := by
  rw [compareRfqs_le_zero] at hab hba
  have hdeadline := locale.swap a.deadline b.deadline
  have hdeadline' := locale.swap b.deadline a.deadline
  have hid := locale.swap b.rfqId a.rfqId
  unfold compareRfqs
  dsimp only
  split_ifs with h
  · omega
  · omega

/-- The matches in the order in which they are sent. -/
def sortedMatches (locale : LocaleCompare) (m : SessionManager σ) (q : RfqQuery) :
    List DerivedSession :=
  (matchesOf m.log q m.getActiveSessionIds).insertionSort fun a b =>
    compareRfqs locale a.rfq b.rfq ≤ 0

theorem sortedMatches_pairwise (locale : LocaleCompare) (m : SessionManager σ) (q : RfqQuery) :
    (sortedMatches locale m q).Pairwise fun a b => compareRfqs locale a.rfq b.rfq ≤ 0 := by
  have htotal : Std.Total fun a b : DerivedSession => compareRfqs locale a.rfq b.rfq ≤ 0 :=
    ⟨fun a b => compareRfqs_total a.rfq b.rfq⟩
  have htrans : IsTrans DerivedSession fun a b => compareRfqs locale a.rfq b.rfq ≤ 0 :=
    ⟨fun a b c => compareRfqs_trans⟩
  exact List.pairwise_insertionSort _ _

/-- The answer to a request for a page of at most the largest size. -/
theorem listRfqs_page {m : SessionManager σ} (hm : m.Consistent) (locale : LocaleCompare) (now : ℤ)
    (q : RfqQuery) {L : ℕ} (hL : 0 < L) (hmax : L ≤ MAX_LIMIT) (offset : ℕ) :
    (listRfqs locale now m q (some (natText L)) (some (natText offset))).1 =
      .ok ⟨((sortedMatches locale m q).drop offset |>.take L).map rfqSummary,
        (matchesOf m.log q m.getActiveSessionIds).length, L, offset⟩ := by
  have hmatched := matchedSessions_eq hm now q m.getActiveSessionIds
  unfold listRfqs
  rw [parseLimit_natText hL hmax, parseOffset_natText]
  simp only
  cases hresult : matchedSessions now q m.getActiveSessionIds m with
  | mk result next =>
    rw [hresult] at hmatched
    simp only at hmatched
    subst hmatched
    rfl

/-- What the sessions of a manager are after any run of the engine. -/
structure Posted (env : EngineEnv) (m : SessionManager σ) : Prop where
  sessionId : ∀ r s, deriveState (m.log r) = .ok (some s) →
    s.rfq.rfqId = r ∧ isUuidV4 s.rfq.rfqId = true
  deadline : ∀ r s, deriveState (m.log r) = .ok (some s) →
    ∃ deadline, dateParse env.legacyDate s.rfq.deadline = some deadline

theorem posted_run (env : EngineEnv) (is : List EngineLabel) :
    Posted env (run (EngineState.step env) (EngineState.empty : EngineState σ) is).manager := by
  have he : (run (EngineState.step env) (EngineState.empty : EngineState σ) is).Inv env
    fun _ _ => True := EngineState.run_inv_true env is
  constructor
  · intro r s hs
    rw [he.log] at hs
    exact he.journal.sessionId hs
  · intro r s hs
    rw [he.log] at hs
    exact he.journal.deadline hs

theorem Posted.eq_of_rfqId {env : EngineEnv} {m : SessionManager σ} (h : Posted env m)
    {q : RfqQuery} {a b : DerivedSession} (ha : Matches m q a) (hb : Matches m q b)
    (hid : a.rfq.rfqId = b.rfq.rfqId) : a = b := by
  obtain ⟨r, hr, -⟩ := ha
  obtain ⟨r', hr', -⟩ := hb
  rw [(h.sessionId r a hr).1, (h.sessionId r' b hr').1] at hid
  rw [hid, hr', Except.ok.injEq, Option.some.injEq] at hr
  exact hr.symm

theorem rfqId_of_summary {a b : DerivedSession} (h : rfqSummary a = rfqSummary b) :
    a.rfq.rfqId = b.rfq.rfqId := by
  unfold rfqSummary at h
  rw [List.cons.injEq, Prod.mk.injEq, Json.str.injEq] at h
  exact h.1.2

theorem mem_sortedMatches (locale : LocaleCompare) {m : SessionManager σ} {q : RfqQuery}
    {s : DerivedSession} : s ∈ sortedMatches locale m q ↔ Matches m q s := by
  unfold sortedMatches Matches
  rw [List.mem_insertionSort, mem_matchesOf]
  apply exists_congr
  intro r
  apply and_iff_right_of_imp
  rintro ⟨hs, -⟩
  apply (mem_listSessionIds m.store r).mpr
  intro hnil
  unfold SessionManager.log at hs
  rw [hnil, deriveState] at hs
  cases hs

variable [DistinctSessions σ]

theorem sortedMatches_nodup {env : EngineEnv} {m : SessionManager σ} (h : Posted env m)
    (locale : LocaleCompare) (q : RfqQuery) :
    ((sortedMatches locale m q).map fun s => s.rfq.rfqId).Nodup := by
  have hsublist : ∀ rfqIds : List JsString,
      ((matchesOf m.log q rfqIds).map fun s => s.rfq.rfqId).Sublist rfqIds := by
    intro rfqIds
    induction rfqIds with
    | nil => exact List.Sublist.refl _
    | cons r rfqIds ih =>
      unfold matchesOf
      rw [List.filterMap_cons]
      split
      · exact ih.cons r
      · rename_i s hs
        have hr : s.rfq.rfqId = r := by
          split at hs
          · rename_i session hsession
            rw [Option.ite_none_right_eq_some, Option.some.injEq] at hs
            rw [← hs.2]
            exact (h.sessionId r session hsession).1
          · cases hs
        rw [List.map_cons, hr]
        exact ih.cons_cons r
  have hperm := (List.perm_insertionSort (fun a b : DerivedSession =>
    compareRfqs locale a.rfq b.rfq ≤ 0) (matchesOf m.log q m.getActiveSessionIds)).map
      fun s => s.rfq.rfqId
  apply hperm.nodup_iff.mpr
  exact (DistinctSessions.nodup m.store).sublist (hsublist _)

/-- The request for the page at `offset`, of a manager that need not be the one of other pages. -/
def askPage (locale : LocaleCompare) (q : RfqQuery) (L : ℕ) (m : SessionManager σ) (now : ℤ)
    (offset : ℕ) : Handling RfqPage :=
  (listRfqs locale now m q (some (natText L)) (some (natText offset))).1

section

variable {env : EngineEnv} {locale : LocaleCompare} {m : SessionManager σ} {q : RfqQuery} {L : ℕ}
  {at' : ℕ → SessionManager σ} {now : ℕ → ℤ}

omit [DistinctSessions σ] in
theorem askPage_eq (hL : 0 < L) (hmax : L ≤ MAX_LIMIT)
    (hat : ∀ k, (at' k).Consistent ∧ (at' k).store = m.store) (k : ℕ) :
    askPage locale q L (at' k) (now k) (k * L) =
      .ok ⟨((sortedMatches locale m q).drop (k * L) |>.take L).map rfqSummary,
        (sortedMatches locale m q).length, L, k * L⟩ := by
  unfold askPage
  rw [listRfqs_page (hat k).1 locale (now k) q hL hmax]
  unfold sortedMatches SessionManager.getActiveSessionIds SessionManager.log
  rw [(hat k).2, List.length_insertionSort]

/-- Exactly once, and with the right number, whatever the deadlines are. -/
theorem listsOnce_sortedMatches (h : Posted env m) (hL : 0 < L) (hmax : L ≤ MAX_LIMIT)
    (hat : ∀ k, (at' k).Consistent ∧ (at' k).store = m.store) :
    ListsOnce m q L (fun k => askPage locale q L (at' k) (now k) (k * L))
      (sortedMatches locale m q) where
  once := sortedMatches_nodup h locale q
  matching := fun _ => mem_sortedMatches locale
  total := fun k => ⟨_, askPage_eq hL hmax hat k, rfl⟩
  pages := by
    intro n hn page hpage
    have hrfqs : ∀ k, (page k).rfqs =
        ((sortedMatches locale m q).map rfqSummary |>.drop (k * L)).take L := by
      intro k
      have heq := hpage k
      rw [askPage_eq hL hmax hat k, Except.ok.injEq] at heq
      rw [← heq, List.map_take, List.map_drop]
    simp only [hrfqs]
    rw [flatMap_pages, List.take_of_length_le]
    rw [List.length_map]
    exact hn

/-- The list that the pages make up is no other. -/
theorem ListsOnce.eq_sortedMatches (h : Posted env m) (hL : 0 < L) (hmax : L ≤ MAX_LIMIT)
    (hat : ∀ k, (at' k).Consistent ∧ (at' k).store = m.store) {listed : List DerivedSession}
    (hlisted : ListsOnce m q L (fun k => askPage locale q L (at' k) (now k) (k * L)) listed) :
    listed = sortedMatches locale m q := by
  have hsorted := @listsOnce_sortedMatches _ _ _ _ locale m q L at' now h hL hmax hat
  have hpages := fun k => @askPage_eq _ _ locale m q L at' now hL hmax hat k
  have hlength : listed.length = (sortedMatches locale m q).length := by
    obtain ⟨page, hpage, htotal⟩ := hlisted.total 0
    rw [hpages 0, Except.ok.injEq] at hpage
    rw [← htotal, ← hpage]
  have henough : listed.length ≤ listed.length * L := Nat.le_mul_of_pos_right _ hL
  apply eq_of_map_eq
  · rw [← hlisted.pages _ henough _ hpages]
    rw [hlength] at henough ⊢
    exact hsorted.pages _ henough _ hpages
  · intro a ha b hb hsummary
    exact h.eq_of_rfqId ((hlisted.matching a).mp ha) ((hsorted.matching b).mp hb)
      (rfqId_of_summary hsummary)

/-- The sort puts the matches in the order of their times when the two orders agree. -/
theorem sooner_sortedMatches_iff (h : Posted env m) :
    ((sortedMatches locale m q).Pairwise fun a b => Sooner env locale a.rfq b.rfq) ↔
      DeadlinesAgree env locale m q := by
  have hpairwise := sortedMatches_pairwise locale m q
  constructor
  · intro hsooner a b ha hb hlt
    obtain ⟨front, back, hsplit⟩ := List.append_of_mem ((mem_sortedMatches locale).mpr ha)
    have hbmem := (mem_sortedMatches locale).mpr hb
    rw [hsplit] at hsooner hpairwise hbmem
    rcases List.mem_append.mp hbmem with hfront | hback
    · have hba := (List.pairwise_append.mp hpairwise).2.2 b hfront a List.mem_cons_self
      exact absurd (compareRfqs_antisymm hlt.le hba) hlt.ne
    · rcases List.mem_cons.mp hback with rfl | hback
      · exact absurd (compareRfqs_antisymm hlt.le hlt.le) hlt.ne
      · have hrest := (List.pairwise_append.mp hsooner).2.1
        exact (List.pairwise_cons.mp hrest).1 b hback
  · intro hagree
    have hnodup := sortedMatches_nodup h locale q
    rw [List.Nodup, List.pairwise_map] at hnodup
    apply (hpairwise.and hnodup).imp_of_mem
    intro a b ha hb hab
    obtain ⟨r, hr, -⟩ := (mem_sortedMatches locale).mp ha
    obtain ⟨r', hr', -⟩ := (mem_sortedMatches locale).mp hb
    apply hagree a b ((mem_sortedMatches locale).mp ha) ((mem_sortedMatches locale).mp hb)
    apply lt_of_le_of_ne hab.1
    intro hzero
    exact hab.2 (compareRfqs_eq_zero hzero (h.sessionId r a hr).2 (h.sessionId r' b hr').2)

end

/-- After any run of the engine: as long as no event is appended, the pages of a query list every
match once, and they do so in the order of the deadlines exactly when the deadlines of the matches
compare as texts the way they do as times. -/
theorem listRfqs_inOrder_iff (env : EngineEnv) (locale : LocaleCompare) (is : List EngineLabel)
    (q : RfqQuery) {L : ℕ} (hL : 0 < L) (hmax : L ≤ MAX_LIMIT) (at' : ℕ → SessionManager σ)
    (now : ℕ → ℤ)
    (hat : ∀ k, (at' k).Consistent ∧ (at' k).store =
      (run (EngineState.step env) (EngineState.empty : EngineState σ) is).manager.store) :
    let m := (run (EngineState.step env) (EngineState.empty : EngineState σ) is).manager
    (∃ listed, ListsOnce m q L (fun k => askPage locale q L (at' k) (now k) (k * L)) listed ∧
      listed.Pairwise fun a b => Sooner env locale a.rfq b.rfq) ↔
        DeadlinesAgree env locale m q := by
  intro m
  have h : Posted env m := posted_run env is
  rw [← sooner_sortedMatches_iff h]
  constructor
  · rintro ⟨listed, hlisted, hsooner⟩
    rw [← hlisted.eq_sortedMatches h hL hmax hat]
    exact hsooner
  · intro hsooner
    exact ⟨_, listsOnce_sortedMatches h hL hmax hat, hsooner⟩

/-! ### Two requests -/

/-- The order of the code units, which is that of a locale on digits. -/
def unitOrder : LocaleCompare where
  compare a b := if a < b then -1 else if a = b then 0 else 1
  swap a b := by
    rcases lt_trichotomy a b with h | rfl | h
    · simp [h, h.asymm, h.ne']
    · simp
    · simp [h, h.asymm, h.ne']
  trans a b c := by
    intro hab hbc
    have hle : ∀ {x y : JsString}, (if x < y then (-1 : ℤ) else if x = y then 0 else 1) ≤ 0 →
        x ≤ y := by
      intro x y hxy
      split_ifs at hxy with hlt heq
      · exact hlt.le
      · exact heq.le
      · omega
    rcases lt_or_eq_of_le ((hle hab).trans (hle hbc)) with hlt | rfl
    · simp [hlt]
    · simp
  uuid a b := by
    intro _ _ h
    split_ifs at h with hlt heq
    · exact heq
    · cases h

structure SampleRfq where
  rfqId : JsString
  deadline : JsString
  signature : JsString
  eventId : JsString

namespace SampleRfq

def body (p : SampleRfq) : Json :=
  .obj [text "rfq_id" p.rfqId, text "protocol" (js "ghost-bazaar-v4"),
    text "buyer" Settlement.sampleBuyer, text "service_type" (js "translation"),
    (js "spec", .obj []), text "anchor_price" (js "10"), text "currency" (js "USDC"),
    text "deadline" p.deadline, text "signature" p.signature]

def labels (p : SampleRfq) (t : CallId) : List EngineLabel :=
  let moment := firstNegotiation.moment p.eventId
  [.request t (.createRfq (some p.body)) moment, .resume t moment, .cleanup t, .release t]

/-- 10:00 as a clock two hours east of Greenwich shows it. -/
def eastern : SampleRfq where
  rfqId := firstNegotiation.rfqId
  deadline := js "2026-03-02T12:00:00+02:00"
  signature := js "ed25519:y0vJ5GtrBu3A6pwjWX6AksGU9DbvLC3DWYJ9jpBJyw9Frt2J8QCH5JwRPVE04rlut3ngkG9V" ++
    js "WuOINohIXjObDg=="
  eventId := firstNegotiation.created

def greenwich : SampleRfq where
  rfqId := secondNegotiation.rfqId
  deadline := js "2026-03-02T11:00:00Z"
  signature := js "ed25519:t/budTKWHG880xRnb0WI/TljmX9R9k0TV0QS87CB89YaXfm6S6W84GshcLaEDRoDBb7xrh9N" ++
    js "/Vp+9SbEfeqiBA=="
  eventId := secondNegotiation.created

def sooner : SampleRfq where
  rfqId := firstNegotiation.rfqId
  deadline := sampleDeadline
  signature := firstNegotiation.rfqSignature
  eventId := firstNegotiation.created

end SampleRfq

/-- The environment and the run of two requests for quotes. -/
def sampleListingEnv (p p' : SampleRfq) : EngineEnv :=
  sampleEngineEnv .null [p.signature, p'.signature]

def sampleListingRun (p p' : SampleRfq) : List EngineLabel := p.labels 0 ++ p'.labels 1

def sampleListed (p p' : SampleRfq) : EngineState InMemoryEventStore :=
  run (EngineState.step (sampleListingEnv p p')) EngineState.empty (sampleListingRun p p')

def everyRfq : RfqQuery := ⟨none, none, none, false⟩

def keysOf (s : DerivedSession) : JsString × JsString := (s.rfq.rfqId, s.rfq.deadline)

/-- The matches of a manager, by their ids and deadlines. -/
theorem matches_keys {m : SessionManager InMemoryEventStore} {q : RfqQuery}
    {keys : List (JsString × JsString)}
    (h : (matchesOf m.log q m.getActiveSessionIds).map keysOf = keys) :
    (∀ s, Matches m q s → keysOf s ∈ keys) ∧ ∀ key ∈ keys, ∃ s, Matches m q s ∧ keysOf s = key := by
  have hmem : ∀ s, s ∈ matchesOf m.log q m.getActiveSessionIds ↔ Matches m q s := by
    intro s
    rw [← mem_sortedMatches unitOrder]
    unfold sortedMatches
    rw [List.mem_insertionSort]
  rw [← h]
  constructor
  · exact fun s hs => List.mem_map_of_mem ((hmem s).mpr hs)
  · intro key hkey
    obtain ⟨s, hs, hkeys⟩ := List.mem_map.mp hkey
    exact ⟨s, (hmem s).mp hs, hkeys⟩

theorem listRfqs_eastern :
    let m := (sampleListed .eastern .greenwich).manager
    ¬ ∃ listed, ListsOnce m everyRfq 50
        (fun k => askPage unitOrder everyRfq 50 m 0 (k * 50)) listed ∧
      listed.Pairwise fun a b =>
        Sooner (sampleListingEnv .eastern .greenwich) unitOrder a.rfq b.rfq := by
  rintro m ⟨listed, hlisted, hsooner⟩
  have hposted : Posted (sampleListingEnv .eastern .greenwich) m := posted_run _ _
  have hinv : (sampleListed .eastern .greenwich).Inv _ _ := EngineState.run_inv_true _ _
  have hat : ∀ k : ℕ, m.Consistent ∧ m.store = m.store := fun _ => ⟨hinv.consistent, rfl⟩
  rw [hlisted.eq_sortedMatches hposted (by decide) (by decide) hat,
    sooner_sortedMatches_iff hposted] at hsooner
  have hkeys : (matchesOf m.log everyRfq m.getActiveSessionIds).map keysOf =
      [(SampleRfq.eastern.rfqId, SampleRfq.eastern.deadline),
        (SampleRfq.greenwich.rfqId, SampleRfq.greenwich.deadline)] := by decide +kernel
  obtain ⟨a, ha, hakeys⟩ := (matches_keys hkeys).2 _ List.mem_cons_self
  obtain ⟨b, hb, hbkeys⟩ := (matches_keys hkeys).2 (SampleRfq.greenwich.rfqId,
    SampleRfq.greenwich.deadline) (by simp)
  obtain ⟨haid, hadeadline⟩ := Prod.mk.inj hakeys
  obtain ⟨hbid, hbdeadline⟩ := Prod.mk.inj hbkeys
  have hlt : compareRfqs unitOrder b.rfq a.rfq < 0 := by
    unfold compareRfqs
    rw [haid, hbid, hadeadline, hbdeadline]
    decide +kernel
  -- The request that closes at 11:00 comes first, the one that closes at 10:00 second.
  obtain ⟨bt, at', hbt, hat', hle⟩ := hsooner b a hb ha hlt
  rw [hbdeadline, show dateParse _ _ = some 1772449200000 by decide +kernel,
    Option.some.injEq] at hbt
  rw [hadeadline, show dateParse _ _ = some 1772445600000 by decide +kernel,
    Option.some.injEq] at hat'
  omega

theorem listRfqs_inOrder_sooner :
    let m := (sampleListed .sooner .greenwich).manager
    ∃ listed, ListsOnce m everyRfq 50
        (fun k => askPage unitOrder everyRfq 50 m 0 (k * 50)) listed ∧
      listed.Pairwise fun a b =>
        Sooner (sampleListingEnv .sooner .greenwich) unitOrder a.rfq b.rfq := by
  intro m
  have hinv : (sampleListed .sooner .greenwich).Inv _ _ := EngineState.run_inv_true _ _
  apply (listRfqs_inOrder_iff (sampleListingEnv .sooner .greenwich) unitOrder
    (sampleListingRun .sooner .greenwich) everyRfq (L := 50) (by decide) (by decide) (fun _ => m)
    (fun _ => 0) fun _ => ⟨hinv.consistent, rfl⟩).mpr
  have hkeys : (matchesOf m.log everyRfq m.getActiveSessionIds).map keysOf =
      [(SampleRfq.sooner.rfqId, SampleRfq.sooner.deadline),
        (SampleRfq.greenwich.rfqId, SampleRfq.greenwich.deadline)] := by decide +kernel
  intro a b ha hb hlt
  have hakeys := (matches_keys hkeys).1 a ha
  have hbkeys := (matches_keys hkeys).1 b hb
  simp only [keysOf, List.mem_cons, List.not_mem_nil, or_false, Prod.mk.injEq] at hakeys hbkeys
  unfold compareRfqs at hlt
  unfold Sooner
  rcases hakeys with ⟨haid, hadeadline⟩ | ⟨haid, hadeadline⟩ <;>
    rcases hbkeys with ⟨hbid, hbdeadline⟩ | ⟨hbid, hbdeadline⟩ <;>
    rw [haid, hbid, hadeadline, hbdeadline] at hlt
  · exact absurd hlt (by decide +kernel)
  · refine ⟨1772370000000, 1772449200000, ?_, ?_, Or.inl (by norm_num)⟩
    · rw [hadeadline]
      decide +kernel
    · rw [hbdeadline]
      decide +kernel
  · exact absurd hlt (by decide +kernel)
  · exact absurd hlt (by decide +kernel)

end GhostBazaar.Engine
