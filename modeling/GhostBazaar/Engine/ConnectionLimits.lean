import GhostBazaar.Engine.ConnectionMaps

/-! How many connections the tracker lets a session and a caller hold, after any calls, and the slot
it keeps for the buyer. -/
namespace GhostBazaar.Engine
open Js
namespace TrackerMaps

variable {tr : TrackerMaps}

/-! ### Limits -/

/-- One call keeps both limits of every session. -/
structure Within (tr : TrackerMaps) : Prop where
  consistent : Consistent tr
  session : ∀ r, (tr.live r).length ≤ MAX_PER_SESSION
  did : ∀ r d, ((tr.live r).countP fun rec => decide (rec.callerDid = d)) ≤ MAX_PER_DID

theorem Consistent.countForDid_eq_countP (h : Consistent tr) (r d : JsString) :
    tr.countForDid r d = (tr.live r).countP fun rec => decide (rec.callerDid = d) := by
  rw [h.countForDid, List.countP_eq_length_filter]
  rfl

theorem Within.of_sublist (h : Within tr) {tr' : TrackerMaps} (hc : Consistent tr')
    (hlive : ∀ r, (tr'.live r).Sublist (tr.live r)) : Within tr' where
  consistent := hc
  session := fun r => (hlive r).length_le.trans (h.session r)
  did := fun r d => ((hlive r).countP_le).trans (h.did r d)

theorem Within.evict (h : Within tr) (reentry : ConnectionId → ℕ) (id : ConnectionId) :
    Within (tr.evict reentry id) := by
  apply h.of_sublist (h.consistent.evict reentry id).1
  intro r
  rw [h.consistent.live_evict]
  exact List.filter_sublist

/-- A connection below both limits is granted. -/
theorem Within.insert (h : Within tr) {r d : JsString}
    (hsession : (tr.live r).length < MAX_PER_SESSION)
    (hdid : ((tr.live r).countP fun rec => decide (rec.callerDid = d)) < MAX_PER_DID)
    (isBuyer : Bool) (openedAt : ℤ) (stream : SubscriptionId) :
    Within (tr.insert r d isBuyer openedAt stream) where
  consistent := h.consistent.insert r d isBuyer openedAt stream
  session := by
    intro r'
    rw [h.consistent.live_insert, List.length_append]
    split_ifs with hr
    · rw [hr]
      exact hsession
    · exact h.session r'
  did := by
    intro r' d'
    rw [h.consistent.live_insert, List.countP_append]
    split_ifs with hr
    · subst hr
      rw [List.countP_singleton]
      by_cases hd : d = d'
      · subst hd
        simpa using hdid
      · simpa [hd] using h.did r' d'
    · exact h.did r' d'

/-! ### The connection a full session gives up -/

theorem Consistent.findOldestNonBuyer_some (h : Consistent tr) {r : JsString}
    {oldest : ConnectionRecord} (hfind : tr.findOldestNonBuyer r = some oldest) :
    oldest ∈ tr.live r ∧ oldest.isBuyer = false ∧
      ∀ rec ∈ tr.live r, rec.isBuyer = false → oldest.openedAt ≤ rec.openedAt := by
  rw [h.findOldestNonBuyer] at hfind
  exact ConnectionTracker.findOldestNonBuyer_some hfind

theorem Consistent.findOldestNonBuyer_none (h : Consistent tr) {r : JsString}
    (hfind : tr.findOldestNonBuyer r = none) : ∀ rec ∈ tr.live r, rec.isBuyer = true := by
  rw [h.findOldestNonBuyer] at hfind
  exact ConnectionTracker.findOldestNonBuyer_none hfind

/-- The session without one of its connections. -/
theorem Consistent.live_evict_perm (h : Consistent tr) (reentry : ConnectionId → ℕ)
    {r : JsString} {rec : ConnectionRecord} (hrec : rec ∈ tr.live r) :
    (tr.live r).Perm (rec :: (tr.evict reentry rec.connectionId).live r) := by
  classical
  have hnodup : (tr.live r).Nodup := (h.nodup.of_map _).filter _
  have herase : (tr.live r).erase rec = (tr.evict reentry rec.connectionId).live r := by
    rw [h.live_evict, hnodup.erase_eq_filter]
    apply List.filter_congr
    intro other hother
    have hiff : other ≠ rec ↔ other.connectionId ≠ rec.connectionId := by
      rw [ne_eq, ne_eq, not_iff_not]
      constructor
      · exact congrArg ConnectionRecord.connectionId
      · exact h.eq_of_connectionId (mem_live.mp hrec).1 (mem_live.mp hother).1
    rw [Bool.eq_iff_iff, bne_iff_ne, decide_eq_true_eq]
    exact hiff
  rw [← herase]
  exact List.perm_cons_erase hrec

/-! ### Runs -/

/-- What a granted call has done: nothing but the new record, unless the session was full. -/
theorem acquire_eq_some {reentry : ConnectionId → ℕ} {now : ℤ} {r d : JsString} {isBuyer : Bool}
    {stream : SubscriptionId} {tr' : TrackerMaps} {id : ConnectionId}
    (h : tr.acquire reentry now r d isBuyer stream = some (tr', id)) :
    tr.countForDid r d < MAX_PER_DID ∧
      ((tr.countForSession r < MAX_PER_SESSION ∧ tr' = tr.insert r d isBuyer now stream) ∨
        ∃ oldest, MAX_PER_SESSION ≤ tr.countForSession r ∧ isBuyer = true ∧
          tr.findOldestNonBuyer r = some oldest ∧
          tr' = (tr.evict reentry oldest.connectionId).insert r d isBuyer now stream) := by
  unfold acquire at h
  split_ifs at h with hdid hsession hbuyer
  · rw [Option.map_eq_some_iff] at h
    obtain ⟨oldest, hfind, hgranted⟩ := h
    obtain ⟨rfl, -⟩ := Prod.mk.inj hgranted
    exact ⟨not_le.mp hdid, Or.inr ⟨oldest, hsession, hbuyer, hfind, rfl⟩⟩
  · obtain ⟨rfl, -⟩ := Prod.mk.inj (Option.some.inj h)
    exact ⟨not_le.mp hdid, Or.inl ⟨not_le.mp hsession, rfl⟩⟩

theorem Within.acquire (h : Within tr) {reentry : ConnectionId → ℕ} {now : ℤ} {r d : JsString}
    {isBuyer : Bool} {stream : SubscriptionId} {tr' : TrackerMaps} {id : ConnectionId}
    (hacquire : tr.acquire reentry now r d isBuyer stream = some (tr', id)) : Within tr' := by
  obtain ⟨hdid, ⟨hsession, rfl⟩ | ⟨oldest, hsession, -, hfind, rfl⟩⟩ := acquire_eq_some hacquire
  · rw [h.consistent.countForSession] at hsession
    rw [h.consistent.countForDid_eq_countP] at hdid
    exact h.insert hsession hdid isBuyer now stream
  · rw [h.consistent.countForDid_eq_countP] at hdid
    have hmem := (h.consistent.findOldestNonBuyer_some hfind).1
    have hperm := h.consistent.live_evict_perm reentry hmem
    have hfull := h.session r
    rw [hperm.length_eq, List.length_cons] at hfull
    rw [hperm.countP_eq] at hdid
    exact (h.evict reentry _).insert hfull
      (lt_of_le_of_lt (List.sublist_cons_self _ _).countP_le hdid) isBuyer now stream

theorem Within.call (h : Within tr) (c : TrackerCall) : Within (tr.call c) := by
  cases c with
  | acquire reentry now r d isBuyer stream =>
    simp only [TrackerMaps.call]
    cases hacquire : tr.acquire reentry now r d isBuyer stream with
    | none => exact h
    | some granted => exact h.acquire hacquire
  | release id =>
    apply h.of_sublist (h.consistent.removeRecord id)
    intro r
    rw [h.consistent.live_removeRecord]
    exact List.filter_sublist
  | closeAll reentry r =>
    apply h.of_sublist (h.consistent.closeAll reentry r).1
    intro r'
    rw [(h.consistent.closeAll reentry r).2]
    split_ifs
    · exact List.nil_sublist _
    · exact List.Sublist.refl _

theorem within_empty : Within empty where
  consistent := consistent_empty
  session := fun _ => Nat.zero_le _
  did := fun _ _ => Nat.zero_le _

theorem within_after (calls : List TrackerCall) : Within (after calls) := by
  unfold after
  induction calls using List.reverseRecOn with
  | nil => exact within_empty
  | append_singleton calls c ih =>
    rw [List.foldl_append, List.foldl_cons, List.foldl_nil]
    exact ih.call c

/-- `isBuyer` says whether the caller is the buyer of the session. -/
def Flagged (buyer : JsString → JsString) (tr : TrackerMaps) : Prop :=
  ∀ r, ∀ rec ∈ tr.live r, rec.isBuyer = decide (rec.callerDid = buyer r)

end TrackerMaps

def TrackerCall.Flagged (buyer : JsString → JsString) : TrackerCall → Prop
  | .acquire _ _ rfqId callerDid isBuyer _ => isBuyer = decide (callerDid = buyer rfqId)
  | _ => True

namespace TrackerMaps

variable {tr : TrackerMaps} {buyer : JsString → JsString}

theorem Flagged.of_subset (h : Flagged buyer tr) {tr' : TrackerMaps}
    (hlive : ∀ r, tr'.live r ⊆ tr.live r) : Flagged buyer tr' :=
  fun r rec hrec => h r rec (hlive r hrec)

theorem Flagged.insert (h : Flagged buyer tr) (hc : Consistent tr) {r d : JsString}
    {isBuyer : Bool} (hflag : isBuyer = decide (d = buyer r)) (openedAt : ℤ)
    (stream : SubscriptionId) : Flagged buyer (tr.insert r d isBuyer openedAt stream) := by
  intro r' rec hrec
  rw [hc.live_insert, List.mem_append] at hrec
  rcases hrec with hrec | hrec
  · exact h r' rec hrec
  · split_ifs at hrec with hr
    · rw [List.mem_singleton.mp hrec, hr]
      exact hflag
    · exact absurd hrec List.not_mem_nil

theorem Flagged.call (h : Flagged buyer tr) (hw : Within tr) {c : TrackerCall}
    (hflag : c.Flagged buyer) : Flagged buyer (tr.call c) := by
  cases c with
  | acquire reentry now r d isBuyer stream =>
    simp only [TrackerMaps.call]
    cases hacquire : tr.acquire reentry now r d isBuyer stream with
    | none => exact h
    | some granted =>
      obtain ⟨-, ⟨-, heq⟩ | ⟨oldest, -, -, -, heq⟩⟩ := acquire_eq_some hacquire
      · change Flagged buyer granted.1
        rw [heq]
        exact h.insert hw.consistent hflag now stream
      · change Flagged buyer granted.1
        rw [heq]
        refine Flagged.insert ?_ (hw.evict reentry _).consistent hflag now stream
        apply h.of_subset
        intro r'
        rw [hw.consistent.live_evict]
        exact List.filter_subset_self _
  | release id =>
    apply h.of_subset
    intro r
    change (tr.removeRecord id).live r ⊆ _
    rw [hw.consistent.live_removeRecord]
    exact List.filter_subset_self _
  | closeAll reentry r =>
    apply h.of_subset
    intro r'
    change (tr.closeAll reentry r).live r' ⊆ _
    rw [(hw.consistent.closeAll reentry r).2]
    split_ifs
    · exact List.nil_subset _
    · exact List.Subset.refl _

theorem flagged_after {calls : List TrackerCall} (hflags : ∀ c ∈ calls, c.Flagged buyer) :
    Flagged buyer (after calls) := by
  have hrun : ∀ tr, Within tr → Flagged buyer tr → Flagged buyer (calls.foldl call tr) := by
    induction calls with
    | nil => exact fun tr _ h => h
    | cons c calls ih =>
      intro tr hw h
      rw [List.foldl_cons]
      exact ih (fun c hc => hflags c (List.mem_cons_of_mem _ hc)) _ (hw.call c)
        (h.call hw (hflags c List.mem_cons_self))
  exact hrun empty within_empty fun r rec hrec => absurd hrec List.not_mem_nil

/-- In a full session there is a connection that the buyer can take the place of. -/
theorem Flagged.exists_nonBuyer (h : Flagged buyer tr) (hc : Consistent tr) {r : JsString}
    (hdid : tr.countForDid r (buyer r) < MAX_PER_DID)
    (hfull : MAX_PER_SESSION ≤ tr.countForSession r) :
    ∃ oldest, tr.findOldestNonBuyer r = some oldest := by
  cases hfind : tr.findOldestNonBuyer r with
  | some oldest => exact ⟨oldest, rfl⟩
  | none =>
    have hall : ∀ rec ∈ tr.live r, decide (rec.callerDid = buyer r) = true := by
      intro rec hrec
      rw [← h r rec hrec]
      exact hc.findOldestNonBuyer_none hfind rec hrec
    rw [hc.countForDid_eq_countP, List.countP_eq_length.mpr hall] at hdid
    rw [hc.countForSession] at hfull
    unfold MAX_PER_DID at hdid
    unfold MAX_PER_SESSION at hfull
    omega

/-- The connection `rec` gives up its slot to a newcomer, and no other connection does. -/
structure GivesWay (buyerDid r : JsString) (tr tr' : TrackerMaps) (rec : ConnectionRecord) :
    Prop where
  nonBuyer : rec.callerDid ≠ buyerDid
  oldest : ∀ other ∈ tr.live r, other.callerDid ≠ buyerDid → rec.openedAt ≤ other.openedAt
  only : ∃ rest newcomer, (tr.live r).Perm (rec :: rest) ∧ tr'.live r = rest ++ [newcomer]
  others : ∀ r', r' ≠ r → tr'.live r' = tr.live r'

theorem Flagged.givesWay (h : Flagged buyer tr) (hw : Within tr) {reentry : ConnectionId → ℕ}
    {now : ℤ} {r d : JsString} {isBuyer : Bool} {stream : SubscriptionId} {tr' : TrackerMaps}
    {id : ConnectionId} (hacquire : tr.acquire reentry now r d isBuyer stream = some (tr', id))
    (hfull : MAX_PER_SESSION ≤ tr.countForSession r) :
    ∃ rec, GivesWay (buyer r) r tr tr' rec := by
  obtain ⟨-, ⟨hsession, -⟩ | ⟨oldest, -, -, hfind, rfl⟩⟩ := acquire_eq_some hacquire
  · exact absurd hfull (not_le.mpr hsession)
  · obtain ⟨hmem, hseller, hmin⟩ := hw.consistent.findOldestNonBuyer_some hfind
    have hc := (hw.evict reentry oldest.connectionId).consistent
    refine ⟨oldest, ?_, ?_, ?_, ?_⟩
    · rw [h r oldest hmem] at hseller
      exact of_decide_eq_false hseller
    · intro other hother hdid
      apply hmin other hother
      rw [h r other hother]
      exact decide_eq_false hdid
    · have hlive := hc.live_insert r d isBuyer now stream r
      rw [if_pos rfl] at hlive
      exact ⟨_, _, hw.consistent.live_evict_perm reentry hmem, hlive⟩
    · intro r' hr
      rw [hc.live_insert, if_neg hr, List.append_nil, hw.consistent.live_evict]
      rw [List.filter_eq_self]
      intro other hother
      rw [decide_eq_true_eq]
      intro hid
      have heq := hw.consistent.eq_of_connectionId (mem_live.mp hmem).1 (mem_live.mp hother).1 hid
      exact hr ((mem_live.mp hother).2.symm.trans (heq ▸ (mem_live.mp hmem).2))

/-- The limits after any calls, and the slot that they reserve for the buyer of a session. -/
theorem connection_limits (calls : List TrackerCall) :
    (∀ r, (after calls).countForSession r ≤ MAX_PER_SESSION ∧
      (after calls).countForSession r = ((after calls).live r).length ∧
      (after calls).bySession.get? r ≠ some [] ∧
      ∀ d, (after calls).countForDid r d ≤ MAX_PER_DID ∧ (after calls).countForDid r d =
        ((after calls).live r).countP fun rec => decide (rec.callerDid = d)) ∧
    ∀ buyer : JsString → JsString, (∀ c ∈ calls, c.Flagged buyer) →
      ∀ reentry now r stream,
        match (after calls).acquire reentry now r (buyer r) true stream with
        | none => (after calls).countForDid r (buyer r) = MAX_PER_DID
        | some (tr', _) => MAX_PER_SESSION ≤ (after calls).countForSession r →
            ∃ rec, GivesWay (buyer r) r (after calls) tr' rec := by
  have hw := within_after calls
  have hc := hw.consistent
  refine ⟨fun r => ⟨?_, hc.countForSession r, ?_, fun d => ⟨?_, hc.countForDid_eq_countP r d⟩⟩, ?_⟩
  · rw [hc.countForSession]
    exact hw.session r
  · rw [hc.listed, entry]
    split_ifs with hnil
    · exact Option.some_ne_none _ |>.symm
    · exact fun h => hnil (Option.some.inj h)
  · rw [hc.countForDid_eq_countP]
    exact hw.did r d
  · intro buyer hflags reentry now r stream
    have hflagged := flagged_after hflags
    cases hacquire : (after calls).acquire reentry now r (buyer r) true stream with
    | some granted => exact fun hfull => hflagged.givesWay hw hacquire hfull
    | none =>
      have hlimit := hw.did r (buyer r)
      rw [← hc.countForDid_eq_countP] at hlimit
      apply le_antisymm hlimit
      by_contra hlt
      unfold acquire at hacquire
      rw [if_neg hlt] at hacquire
      split_ifs at hacquire with hfull hbuyer
      · obtain ⟨oldest, hfind⟩ := hflagged.exists_nonBuyer hc (not_le.mp hlt) hfull
        rw [hfind] at hacquire
        cases hacquire
      · exact hbuyer rfl

section Sample

/-- Ten connections of four sellers, the later ones opened by a clock that was set back. -/
def fullSession : List TrackerCall :=
  ([(10, "s1"), (9, "s1"), (8, "s1"), (7, "s2"), (6, "s2"), (5, "s2"), (4, "s3"), (3, "s3"),
    (2, "s3"), (1, "s4")] : List (ℤ × String)).map fun c =>
      .acquire (fun _ => 0) c.1 (js "r") (js c.2) false 0

theorem connection_limits_fullSession :
    ∃ tr' id, (after fullSession).acquire (fun _ => 2) 11 (js "r") (js "b") true 1 =
        some (tr', id) ∧ ∃ rec, GivesWay (js "b") (js "r") (after fullSession) tr' rec := by
  have hflags : ∀ c ∈ fullSession, c.Flagged fun _ => js "b" := by
    simp only [fullSession, List.map_cons, List.map_nil, List.forall_mem_cons, List.not_mem_nil,
      false_implies, implies_true, and_true, TrackerCall.Flagged]
    decide
  have h := (connection_limits fullSession).2 (fun _ => js "b") hflags (fun _ => 2) 11 (js "r") 1
  cases hacquire : (after fullSession).acquire (fun _ => 2) 11 (js "r") (js "b") true 1 with
  | none =>
    rw [hacquire] at h
    exact absurd h (by decide)
  | some granted =>
    rw [hacquire] at h
    exact ⟨granted.1, granted.2, rfl, h (by decide)⟩

end Sample

end TrackerMaps
end GhostBazaar.Engine
