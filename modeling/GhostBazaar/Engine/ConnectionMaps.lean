import GhostBazaar.Engine.EventStream

/-! The connection tracker with the two maps it keeps: every open connection once under its id and
once in the Set of its session. A `close` may release its own connection before the tracker
removes the record. -/
namespace GhostBazaar.Engine
open Js

/-- The Set of a session is the list of its ids in the order of insertion. -/
structure TrackerMaps where
  connections : JsMap ConnectionId ConnectionRecord
  bySession : JsMap JsString (List ConnectionId)
  nextId : ConnectionId

namespace TrackerMaps

def empty : TrackerMaps := ⟨.empty, .empty, 0⟩

def countForDid (tr : TrackerMaps) (rfqId callerDid : JsString) : ℕ :=
  match tr.bySession.get? rfqId with
  | none => 0
  | some ids => ids.countP fun id =>
      (tr.connections.get? id).any fun rec => decide (rec.callerDid = callerDid)

def countForSession (tr : TrackerMaps) (rfqId : JsString) : ℕ :=
  ((tr.bySession.get? rfqId).map List.length).getD 0

def findOldestNonBuyer (tr : TrackerMaps) (rfqId : JsString) : Option ConnectionRecord :=
  match tr.bySession.get? rfqId with
  | none => none
  | some ids => ids.foldl (fun oldest id =>
      match tr.connections.get? id with
      | some rec => ConnectionTracker.older oldest rec
      | none => oldest) none

/-- `removeRecord`, which is also `release`. -/
def removeRecord (tr : TrackerMaps) (id : ConnectionId) : TrackerMaps :=
  match tr.connections.get? id with
  | none => tr
  | some rec =>
    { tr with
      connections := tr.connections.delete id
      bySession := match tr.bySession.get? rec.rfqId with
        | none => tr.bySession
        | some ids =>
          let ids := ids.filter fun other => decide (other ≠ id)
          if ids = [] then tr.bySession.delete rec.rfqId else tr.bySession.set rec.rfqId ids }

/-- `rec.close(); this.removeRecord(rec.connectionId)`, where `close` releases its own id
`reentry id` times. -/
def evict (reentry : ConnectionId → ℕ) (tr : TrackerMaps) (id : ConnectionId) : TrackerMaps :=
  ((fun tr => removeRecord tr id)^[reentry id] tr).removeRecord id

/-- The record of a connection with the next id, in both maps. -/
def insert (tr : TrackerMaps) (rfqId callerDid : JsString) (isBuyer : Bool) (openedAt : ℤ)
    (stream : SubscriptionId) : TrackerMaps :=
  let id := tr.nextId + 1
  { connections := tr.connections.set id ⟨id, rfqId, callerDid, isBuyer, openedAt, stream⟩
    bySession := match tr.bySession.get? rfqId with
      | none => tr.bySession.set rfqId [id]
      | some ids => tr.bySession.set rfqId (if id ∈ ids then ids else ids ++ [id])
    nextId := id }

/-- `none` where the source returns `null`, and then nothing has changed. -/
def acquire (tr : TrackerMaps) (reentry : ConnectionId → ℕ) (now : ℤ)
    (rfqId callerDid : JsString) (isBuyer : Bool) (stream : SubscriptionId) :
    Option (TrackerMaps × ConnectionId) :=
  let granted (tr : TrackerMaps) : TrackerMaps × ConnectionId :=
    (tr.insert rfqId callerDid isBuyer now stream, tr.nextId + 1)
  if MAX_PER_DID ≤ tr.countForDid rfqId callerDid then none
  else if MAX_PER_SESSION ≤ tr.countForSession rfqId then
    if isBuyer then
      (tr.findOldestNonBuyer rfqId).map fun evicted =>
        granted (tr.evict reentry evicted.connectionId)
    else none
  else some (granted tr)

def closeAll (tr : TrackerMaps) (reentry : ConnectionId → ℕ) (rfqId : JsString) : TrackerMaps :=
  match tr.bySession.get? rfqId with
  | none => tr
  | some ids => ids.foldl (fun tr id =>
      match tr.connections.get? id with
      | some _ => tr.evict reentry id
      | none => tr) tr

end TrackerMaps

/-- A call on the tracker. Each call that closes connections says what their `close` does. -/
inductive TrackerCall where
  | acquire (reentry : ConnectionId → ℕ) (now : ℤ) (rfqId callerDid : JsString) (isBuyer : Bool)
      (stream : SubscriptionId)
  | release (id : ConnectionId)
  | closeAll (reentry : ConnectionId → ℕ) (rfqId : JsString)

namespace TrackerMaps

def call (tr : TrackerMaps) : TrackerCall → TrackerMaps
  | .acquire reentry now rfqId callerDid isBuyer stream =>
    match tr.acquire reentry now rfqId callerDid isBuyer stream with
    | some (tr, _) => tr
    | none => tr
  | .release id => tr.removeRecord id
  | .closeAll reentry rfqId => tr.closeAll reentry rfqId

/-- The tracker after some calls. -/
def after (calls : List TrackerCall) : TrackerMaps := calls.foldl call empty

/-! ### The records under both maps -/

/-- The open connections in the order of their insertion. -/
def records (tr : TrackerMaps) : ConnectionTracker where
  connections := tr.connections.entries.map Prod.snd
  nextId := tr.nextId

/-- The live records of a session. -/
def live (tr : TrackerMaps) (rfqId : JsString) : List ConnectionRecord :=
  tr.records.bySession rfqId

/-- What a map of Sets holds for a Set that is dropped once it is empty. -/
def entry (ids : List ConnectionId) : Option (List ConnectionId) :=
  if ids = [] then none else some ids

/-- Both maps hold the same connections. -/
structure Consistent (tr : TrackerMaps) : Prop where
  key : ∀ e ∈ tr.connections.entries, e.2.connectionId = e.1
  fresh : ∀ e ∈ tr.connections.entries, e.1 ≤ tr.nextId
  listed : ∀ r, tr.bySession.get? r = entry ((tr.live r).map ConnectionRecord.connectionId)

theorem consistent_empty : Consistent empty where
  key := fun _ he => absurd he List.not_mem_nil
  fresh := fun _ he => absurd he List.not_mem_nil
  listed := fun _ => rfl

variable {tr : TrackerMaps}

theorem mem_records {rec : ConnectionRecord} :
    rec ∈ tr.records.connections ↔ ∃ id, (id, rec) ∈ tr.connections.entries := by
  unfold records
  rw [List.mem_map]
  constructor
  · rintro ⟨⟨id, rec⟩, he, rfl⟩
    exact ⟨id, he⟩
  · rintro ⟨id, he⟩
    exact ⟨(id, rec), he, rfl⟩

theorem mem_live {rec : ConnectionRecord} {r : JsString} :
    rec ∈ tr.live r ↔ rec ∈ tr.records.connections ∧ rec.rfqId = r := by
  unfold live ConnectionTracker.bySession
  rw [List.mem_filter, decide_eq_true_eq]

theorem Consistent.get?_eq_some (h : Consistent tr) {id : ConnectionId} {rec : ConnectionRecord} :
    tr.connections.get? id = some rec ↔
      rec ∈ tr.records.connections ∧ rec.connectionId = id := by
  rw [mem_records]
  constructor
  · intro hget
    have hmem := tr.connections.get?_eq_some_iff.mp hget
    exact ⟨⟨id, hmem⟩, h.key _ hmem⟩
  · rintro ⟨⟨id', hmem⟩, rfl⟩
    have hkey : rec.connectionId = id' := h.key _ hmem
    rw [hkey]
    exact tr.connections.get?_eq_some_iff.mpr hmem

theorem Consistent.get?_of_live (h : Consistent tr) {rec : ConnectionRecord} {r : JsString}
    (hrec : rec ∈ tr.live r) : tr.connections.get? rec.connectionId = some rec :=
  h.get?_eq_some.mpr ⟨(mem_live.mp hrec).1, rfl⟩

theorem Consistent.nodup (h : Consistent tr) :
    (tr.records.connections.map ConnectionRecord.connectionId).Nodup := by
  have hkeys : tr.records.connections.map ConnectionRecord.connectionId =
      tr.connections.entries.map Prod.fst := by
    unfold records
    rw [List.map_map]
    exact List.map_congr_left fun e he => h.key e he
  rw [hkeys]
  exact tr.connections.nodup

/-! ### What the tracker reads -/

theorem Consistent.countForSession (h : Consistent tr) (r : JsString) :
    tr.countForSession r = (tr.live r).length := by
  unfold TrackerMaps.countForSession
  rw [h.listed, entry]
  split_ifs with hnil
  · rw [List.map_eq_nil_iff.mp hnil]
    rfl
  · simp

theorem Consistent.countForDid (h : Consistent tr) (r d : JsString) :
    tr.countForDid r d = tr.records.countForDid r d := by
  unfold TrackerMaps.countForDid ConnectionTracker.countForDid
  rw [h.listed, entry]
  change _ = ((tr.live r).filter _).length
  rw [← List.countP_eq_length_filter]
  split_ifs with hnil
  · rw [List.map_eq_nil_iff.mp hnil]
    rfl
  · change List.countP _ _ = _
    rw [List.countP_map]
    apply List.countP_congr
    intro rec hrec
    simp [h.get?_of_live hrec]

theorem Consistent.findOldestNonBuyer (h : Consistent tr) (r : JsString) :
    tr.findOldestNonBuyer r = tr.records.findOldestNonBuyer r := by
  unfold TrackerMaps.findOldestNonBuyer ConnectionTracker.findOldestNonBuyer
  rw [h.listed, entry]
  change _ = (tr.live r).foldl _ none
  split_ifs with hnil
  · rw [List.map_eq_nil_iff.mp hnil]
    rfl
  · change List.foldl _ none _ = _
    rw [List.foldl_map]
    apply List.foldl_ext
    intro oldest rec hrec
    simp only [h.get?_of_live hrec]

/-! ### What the tracker writes -/

theorem records_delete (h : Consistent tr) (id : ConnectionId)
    (bySession : JsMap JsString (List ConnectionId)) :
    records ⟨tr.connections.delete id, bySession, tr.nextId⟩ = tr.records.removeRecord id := by
  unfold records ConnectionTracker.removeRecord JsMap.delete JsMap.filter
  rw [List.filter_map]
  congr 2
  apply List.filter_congr
  intro e he
  simp only [Function.comp_apply, h.key e he]

theorem Consistent.records_removeRecord (h : Consistent tr) (id : ConnectionId) :
    (tr.removeRecord id).records = tr.records.removeRecord id := by
  unfold TrackerMaps.removeRecord
  split
  · rename_i hnone
    unfold ConnectionTracker.removeRecord
    have hall : ∀ rec ∈ tr.records.connections, decide (rec.connectionId ≠ id) = true := by
      intro rec hrec
      rw [decide_eq_true_eq]
      intro hid
      rw [h.get?_eq_some.mpr ⟨hrec, hid⟩] at hnone
      cases hnone
    rw [List.filter_eq_self.mpr hall]
  · exact records_delete h id _

theorem bySession_removeRecord (t : ConnectionTracker) (id : ConnectionId) (r : JsString) :
    (t.removeRecord id).bySession r =
      (t.bySession r).filter fun rec => decide (rec.connectionId ≠ id) := by
  unfold ConnectionTracker.bySession ConnectionTracker.removeRecord
  exact List.filter_comm ..

theorem Consistent.live_removeRecord (h : Consistent tr) (id : ConnectionId) (r : JsString) :
    (tr.removeRecord id).live r =
      (tr.live r).filter fun rec => decide (rec.connectionId ≠ id) := by
  unfold live
  rw [h.records_removeRecord, bySession_removeRecord]

/-- Two records with one id are one record. -/
theorem Consistent.eq_of_connectionId (h : Consistent tr) {rec other : ConnectionRecord}
    (hrec : rec ∈ tr.records.connections) (hother : other ∈ tr.records.connections)
    (hid : other.connectionId = rec.connectionId) : other = rec := by
  have hget := h.get?_eq_some.mpr ⟨hother, hid⟩
  rw [h.get?_eq_some.mpr ⟨hrec, rfl⟩] at hget
  exact (Option.some.inj hget).symm

/-- The Sets after a removal. -/
theorem Consistent.bySession_removeRecord (h : Consistent tr) {id : ConnectionId}
    {rec : ConnectionRecord} (hrec : tr.connections.get? id = some rec) (r : JsString) :
    (tr.removeRecord id).bySession.get? r =
      if r = rec.rfqId then
        entry (((tr.live r).map ConnectionRecord.connectionId).filter fun o => decide (o ≠ id))
      else tr.bySession.get? r := by
  have hmem := h.get?_eq_some.mp hrec
  have hlive : rec ∈ tr.live rec.rfqId := mem_live.mpr ⟨hmem.1, rfl⟩
  have hids : tr.bySession.get? rec.rfqId =
      some ((tr.live rec.rfqId).map ConnectionRecord.connectionId) := by
    rw [h.listed, entry, if_neg]
    exact List.ne_nil_of_mem (List.mem_map_of_mem hlive)
  unfold TrackerMaps.removeRecord entry
  simp only [hrec, hids]
  by_cases hr : r = rec.rfqId
  · subst hr
    rw [if_pos rfl]
    split_ifs with hnil
    · rw [JsMap.get?_delete, if_pos rfl]
    · rw [JsMap.get?_set, if_pos rfl]
  · rw [if_neg hr]
    split_ifs with hnil
    · rw [JsMap.get?_delete, if_neg hr]
    · rw [JsMap.get?_set, if_neg hr]

theorem Consistent.removeRecord (h : Consistent tr) (id : ConnectionId) :
    Consistent (tr.removeRecord id) := by
  cases hrec : tr.connections.get? id with
  | none =>
    have hsame : tr.removeRecord id = tr := by
      unfold TrackerMaps.removeRecord
      rw [hrec]
    rw [hsame]
    exact h
  | some rec =>
    have hentries : ∀ e ∈ (tr.removeRecord id).connections.entries,
        e ∈ tr.connections.entries := by
      intro e he
      unfold TrackerMaps.removeRecord at he
      rw [hrec] at he
      exact List.mem_of_mem_filter he
    have hnext : (tr.removeRecord id).nextId = tr.nextId := by
      unfold TrackerMaps.removeRecord
      rw [hrec]
    constructor
    · exact fun e he => h.key e (hentries e he)
    · intro e he
      rw [hnext]
      exact h.fresh e (hentries e he)
    · intro r
      rw [h.bySession_removeRecord hrec, h.live_removeRecord]
      split_ifs with hr
      · rw [List.filter_map]
        rfl
      · rw [h.listed, List.filter_eq_self.mpr]
        -- The record removed belongs to another session.
        intro other hother
        rw [decide_eq_true_eq]
        intro hid
        have hmem := h.get?_eq_some.mp hrec
        have hother := mem_live.mp hother
        have heq := h.eq_of_connectionId hmem.1 hother.1 (hid.trans hmem.2.symm)
        exact hr (hother.2.symm.trans (congrArg ConnectionRecord.rfqId heq))

theorem Consistent.evict (h : Consistent tr) (reentry : ConnectionId → ℕ) (id : ConnectionId) :
    Consistent (tr.evict reentry id) ∧ (tr.evict reentry id).records =
      tr.records.removeRecord id := by
  have hagain : ∀ n, Consistent ((fun tr => TrackerMaps.removeRecord tr id)^[n] tr) ∧
      ((fun tr => TrackerMaps.removeRecord tr id)^[n] tr).records.removeRecord id =
        tr.records.removeRecord id := by
    intro n
    induction n with
    | zero => exact ⟨h, rfl⟩
    | succ n ih =>
      rw [Function.iterate_succ_apply']
      refine ⟨ih.1.removeRecord id, ?_⟩
      rw [ih.1.records_removeRecord, ih.2]
      unfold ConnectionTracker.removeRecord
      rw [List.filter_filter]
      simp only [Bool.and_self]
  unfold TrackerMaps.evict
  refine ⟨(hagain _).1.removeRecord id, ?_⟩
  rw [(hagain _).1.records_removeRecord, (hagain _).2]

theorem Consistent.live_evict (h : Consistent tr) (reentry : ConnectionId → ℕ)
    (id : ConnectionId) (r : JsString) : (tr.evict reentry id).live r =
      (tr.live r).filter fun rec => decide (rec.connectionId ≠ id) := by
  unfold live
  rw [(h.evict reentry id).2, TrackerMaps.bySession_removeRecord]

theorem Consistent.newId (h : Consistent tr) :
    tr.nextId + 1 ∉ tr.connections.entries.map Prod.fst := by
  intro hmem
  obtain ⟨e, he, hid⟩ := List.mem_map.mp hmem
  have hfresh := h.fresh e he
  rw [hid] at hfresh
  exact Nat.not_succ_le_self _ hfresh

theorem Consistent.entries_insert (h : Consistent tr) (r d : JsString) (isBuyer : Bool)
    (openedAt : ℤ) (stream : SubscriptionId) :
    (tr.insert r d isBuyer openedAt stream).connections.entries = tr.connections.entries ++
      [(tr.nextId + 1, ⟨tr.nextId + 1, r, d, isBuyer, openedAt, stream⟩)] :=
  JsMap.setEntries_of_notMem h.newId

theorem Consistent.records_insert (h : Consistent tr) (r d : JsString) (isBuyer : Bool)
    (openedAt : ℤ) (stream : SubscriptionId) :
    (tr.insert r d isBuyer openedAt stream).records =
      tr.records.insert r d isBuyer openedAt stream := by
  unfold records ConnectionTracker.insert
  rw [h.entries_insert, List.map_append]
  rfl

theorem Consistent.live_insert (h : Consistent tr) (r d : JsString) (isBuyer : Bool)
    (openedAt : ℤ) (stream : SubscriptionId) (r' : JsString) :
    (tr.insert r d isBuyer openedAt stream).live r' = tr.live r' ++
      if r' = r then [⟨tr.nextId + 1, r, d, isBuyer, openedAt, stream⟩] else [] := by
  unfold live ConnectionTracker.bySession
  rw [h.records_insert]
  unfold ConnectionTracker.insert
  rw [List.filter_append, List.filter_singleton]
  congr 1
  by_cases hr : r' = r
  · simp [hr, records]
  · simp [hr, Ne.symm hr]

/-- The ids of a session's Set are ids of open connections. -/
theorem Consistent.newId_notMem (h : Consistent tr) {r : JsString} {ids : List ConnectionId}
    (hids : tr.bySession.get? r = some ids) : tr.nextId + 1 ∉ ids := by
  rw [h.listed, entry] at hids
  split_ifs at hids
  obtain rfl := Option.some.inj hids
  intro hmem
  obtain ⟨rec, hrec, hid⟩ := List.mem_map.mp hmem
  have hentry := tr.connections.get?_eq_some_iff.mp (h.get?_of_live hrec)
  have hfresh := h.fresh _ hentry
  simp only [hid] at hfresh
  exact Nat.not_succ_le_self _ hfresh

theorem Consistent.insert (h : Consistent tr) (r d : JsString) (isBuyer : Bool) (openedAt : ℤ)
    (stream : SubscriptionId) : Consistent (tr.insert r d isBuyer openedAt stream) := by
  constructor
  · intro e he
    rw [h.entries_insert, List.mem_append, List.mem_singleton] at he
    rcases he with he | rfl
    · exact h.key e he
    · rfl
  · intro e he
    rw [h.entries_insert, List.mem_append, List.mem_singleton] at he
    change e.1 ≤ tr.nextId + 1
    rcases he with he | rfl
    · exact Nat.le_succ_of_le (h.fresh e he)
    · exact Nat.le_refl _
  · intro r'
    rw [h.live_insert, List.map_append]
    have hlisted := h.listed r'
    unfold TrackerMaps.insert
    by_cases hr : r' = r
    · subst hr
      rw [if_pos rfl]
      cases hget : tr.bySession.get? r' with
      | none =>
        simp only [JsMap.get?_set_self]
        have hnil : (tr.live r').map ConnectionRecord.connectionId = [] := by
          by_contra hne
          rw [hget, entry, if_neg hne] at hlisted
          cases hlisted
        rw [hnil]
        rfl
      | some ids =>
        simp only [JsMap.get?_set_self, if_neg (h.newId_notMem hget)]
        have hids : (tr.live r').map ConnectionRecord.connectionId = ids := by
          rw [hget, entry] at hlisted
          split_ifs at hlisted
          exact (Option.some.inj hlisted).symm
        rw [hids, entry, if_neg (by simp)]
        rfl
    · rw [if_neg hr, List.map_nil, List.append_nil, ← hlisted]
      split
      · rw [JsMap.get?_set, if_neg hr]
      · rw [JsMap.get?_set, if_neg hr]

/-- The records a session keeps when some of its ids are closed one after the other. -/
theorem Consistent.closeEach (h : Consistent tr) (reentry : ConnectionId → ℕ)
    (ids : List ConnectionId) :
    let tr' := ids.foldl (fun tr id =>
      match tr.connections.get? id with
      | some _ => tr.evict reentry id
      | none => tr) tr
    Consistent tr' ∧ ∀ r, tr'.live r =
      (tr.live r).filter fun rec => decide (rec.connectionId ∉ ids) := by
  induction ids generalizing tr with
  | nil => exact ⟨h, fun r => (List.filter_eq_self.mpr (by simp)).symm⟩
  | cons id ids ih =>
    rw [List.foldl_cons]
    have hnext : ∀ next : TrackerMaps, Consistent next →
        (∀ r, next.live r = (tr.live r).filter fun rec => decide (rec.connectionId ≠ id)) →
        let tr' := ids.foldl (fun tr id =>
          match tr.connections.get? id with
          | some _ => tr.evict reentry id
          | none => tr) next
        Consistent tr' ∧ ∀ r, tr'.live r =
          (tr.live r).filter fun rec => decide (rec.connectionId ∉ id :: ids) := by
      intro next hnext hlive
      refine ⟨(ih hnext).1, fun r => ?_⟩
      rw [(ih hnext).2 r, hlive r, List.filter_filter]
      apply List.filter_congr
      intro rec hrec
      simp only [List.mem_cons, not_or, Bool.decide_and, Bool.and_comm]
    cases hget : tr.connections.get? id with
    | some rec => exact hnext _ (h.evict reentry id).1 (h.live_evict reentry id)
    | none =>
      refine hnext tr h fun r => (List.filter_eq_self.mpr ?_).symm
      intro rec hrec
      rw [decide_eq_true_eq]
      intro hid
      rw [← hid, h.get?_of_live hrec] at hget
      cases hget

/-- A session that is closed keeps no connection, and the others keep theirs. -/
theorem Consistent.closeAll (h : Consistent tr) (reentry : ConnectionId → ℕ) (r : JsString) :
    Consistent (tr.closeAll reentry r) ∧
      ∀ r', (tr.closeAll reentry r).live r' = if r' = r then [] else tr.live r' := by
  have hids : ∀ r', (tr.live r').filter (fun rec =>
      decide (rec.connectionId ∉ (tr.live r).map ConnectionRecord.connectionId)) =
        if r' = r then [] else tr.live r' := by
    intro r'
    split_ifs with hr
    · subst hr
      rw [List.filter_eq_nil_iff]
      intro rec hrec
      simpa using ⟨rec, hrec, rfl⟩
    · rw [List.filter_eq_self]
      intro rec hrec
      rw [decide_eq_true_eq, List.mem_map]
      rintro ⟨other, hother, hid⟩
      have hmem := mem_live.mp hrec
      have hmem' := mem_live.mp hother
      have heq := h.eq_of_connectionId hmem.1 hmem'.1 hid
      exact hr (hmem.2.symm.trans ((congrArg ConnectionRecord.rfqId heq).symm.trans hmem'.2))
  have hlisted := h.listed r
  unfold TrackerMaps.closeAll
  rw [hlisted, entry]
  split_ifs with hnil
  · refine ⟨h, fun r' => ?_⟩
    rw [← hids, hnil]
    exact (List.filter_eq_self.mpr (by simp)).symm
  · refine ⟨(h.closeEach reentry _).1, fun r' => ?_⟩
    rw [← hids]
    exact (h.closeEach reentry _).2 r'

end TrackerMaps
end GhostBazaar.Engine
