import GhostBazaar.Engine.EngineInvariant

/-! Control actions compare and swap: what an accept or a decline appends comes right
after the event that its envelope names. -/
namespace GhostBazaar.Engine
open Js GhostBazaar.Core Settlement Transition

/-- The envelope on whose behalf a callback appends, and for whom it was verified. -/
def Callback.envelope : Callback → Option (ControlEnvelope × JsString)
  | .accept envelope signer _ _ | .decline envelope signer => some (envelope, signer)
  | _ => none

def ControlAction.eventType : ControlAction → EventType
  | .accept => .winnerSelected
  | .decline => .cosignDeclined

/-- The envelope names the state of the session, and the session its signer. -/
structure Swaps (env : EngineEnv) (s : DerivedSession) (event : NegotiationEvent)
    (envelope : ControlEnvelope) (signer : JsString) : Prop where
  revision : envelope.sessionRevision = s.lastEventId
  type : event.type = envelope.action.eventType
  named : envelope.action.signer s = some signer
  signedBy : envelope.SignedBy env signer

section

variable {env : EngineEnv} {P : DerivedSession → Members → Prop}
  {answers : List (JsString × JsValue)} {h : List Entry}

theorem Recorded.swaps {en : Entry} (hr : Recorded env P answers h en)
    {envelope : ControlEnvelope} {signer : JsString}
    (hen : en.callback.envelope = some (envelope, signer)) :
    envelope.rfqId = en.rfqId ∧ ∃ s, deriveState (logOf h en.rfqId) = .ok (some s) ∧
      Swaps env s en.event envelope signer := by
  obtain ⟨before, hbefore, -⟩ := hr.produced
  have happends := hr.appends hbefore
  have hadmitted := hr.admitted
  cases hcallback : en.callback with
  | accept envelope' signer' sellerDid offerId =>
    simp only [hcallback, Callback.envelope, Option.some.injEq, Prod.mk.injEq] at hen
    obtain ⟨rfl, rfl⟩ := hen
    rw [hcallback] at hadmitted happends
    obtain ⟨⟨⟨s₀, hseen, hsigner⟩, hid, hsigned⟩, haction, -⟩ := hadmitted
    obtain ⟨m, hlocked⟩ := happends
    obtain ⟨s, q, rfl, -, hrevision, -, htype, -⟩ := lockedAccept_ok hlocked
    refine ⟨hid, s, hbefore, hrevision, by rw [htype, haction]; rfl, ?_, hsigned⟩
    rw [haction] at hsigner ⊢
    rw [← hsigner, ControlAction.signer, hseen.rfq_eq hbefore, ControlAction.signer]
  | decline envelope' signer' =>
    simp only [hcallback, Callback.envelope, Option.some.injEq, Prod.mk.injEq] at hen
    obtain ⟨rfl, rfl⟩ := hen
    rw [hcallback] at hadmitted happends
    obtain ⟨⟨-, hid, hsigned⟩, haction⟩ := hadmitted
    obtain ⟨m, hlocked⟩ := happends
    obtain ⟨s, rfl, hseller, hrevision, htype, -⟩ := lockedDecline_ok hlocked
    refine ⟨hid, s, hbefore, hrevision, by rw [htype, haction]; rfl, ?_, hsigned⟩
    rw [haction, ControlAction.signer, hseller]
  | _ => simp [hcallback, Callback.envelope] at hen

/-- Only control actions select a winner or decline a cosign. -/
theorem Recorded.exists_envelope {en : Entry} (hr : Recorded env P answers h en)
    (htype : en.event.type = .winnerSelected ∨ en.event.type = .cosignDeclined) :
    ∃ envelope signer, en.callback.envelope = some (envelope, signer) := by
  have heventType := hr.eventType
  cases hcallback : en.callback with
  | accept envelope signer sellerDid offerId => exact ⟨envelope, signer, rfl⟩
  | decline envelope signer => exact ⟨envelope, signer, rfl⟩
  | sign role signature =>
    cases role <;> simp [hcallback, Callback.eventType] at heventType <;> simp [← heventType] at htype
  | _ => simp [hcallback, Callback.eventType] at heventType <;> simp [← heventType] at htype

/-- An event id stands in the log of one session only. -/
theorem Journal.rfqId_unique (hj : Journal env P answers h) {r r' : JsString}
    {event event' : NegotiationEvent} (hevent : event ∈ logOf h r) (hevent' : event' ∈ logOf h r')
    (hid : event.eventId = event'.eventId) : r = r' := by
  obtain ⟨en, hen, rfl, rfl⟩ := mem_logOf.mp hevent
  obtain ⟨en', hen', rfl, rfl⟩ := mem_logOf.mp hevent'
  rw [List.inj_on_of_nodup_map hj.nodup_eventId hen hen' hid]

/-- The event id that an envelope names is the last one of a session only once. -/
theorem Journal.revision_once (hj : Journal env P answers h) :
    h.Pairwise fun a b => ∀ envelope envelope' signer signer',
      a.callback.envelope = some (envelope, signer) →
        b.callback.envelope = some (envelope', signer') →
          envelope.sessionRevision ≠ envelope'.sessionRevision := by
  refine hj.induction (C := List.Pairwise _) .nil fun h en hh hr ih => ?_
  rw [List.pairwise_append]
  refine ⟨ih, List.pairwise_singleton _ _,
    fun a ha b hb envelope envelope' signer signer' hea heb hrevision => ?_⟩
  rw [List.mem_singleton] at hb
  subst hb
  obtain ⟨h₁, h₂, rfl⟩ := List.append_of_mem ha
  obtain ⟨-, s, hs, hswaps⟩ := (hh h₁ a h₂ rfl).swaps hea
  obtain ⟨-, s', hs', hswaps'⟩ := hr.swaps heb
  obtain ⟨pre, last, hlog, hlast⟩ := deriveState_lastEventId hs
  obtain ⟨pre', last', hlog', hlast'⟩ := deriveState_lastEventId hs'
  have hsame : last.eventId = last'.eventId := by
    rw [hlast, hlast', ← hswaps.revision, ← hswaps'.revision, hrevision]
  have hin : last ∈ logOf (h₁ ++ a :: h₂) a.rfqId := by simp [logOf_append, hlog]
  have hin' : last' ∈ logOf (h₁ ++ a :: h₂) b.rfqId := by simp [hlog']
  have hid : a.rfqId = b.rfqId := hh.rfqId_unique hin hin' hsame
  -- the last event now comes after the event of `a`, and the ids of a log are distinct
  have hlater : logOf (h₁ ++ a :: h₂) b.rfqId = (pre ++ [last]) ++ a.event :: logOf h₂ a.rfqId := by
    rw [← hid, ← hlog, logOf_append]
    simp [logOf]
  have hnodup := hh.nodup_logOf b.rfqId
  rw [hlater, List.map_append, List.nodup_append] at hnodup
  refine hnodup.2.2 last.eventId (by simp) last'.eventId (List.mem_map_of_mem ?_) hsame
  rcases List.eq_nil_or_concat (a.event :: logOf h₂ a.rfqId) with hnil | ⟨front, x, hconcat⟩
  · simp at hnil
  · rw [List.concat_eq_append] at hconcat
    rw [hlog', hconcat, ← List.append_assoc] at hlater
    obtain rfl : last' = x := by simpa using (List.append_inj' hlater rfl).2
    simp [hconcat]

end

/-- No two elements satisfy `p` when the list keeps them apart. -/
theorem length_filter_le_one {α : Type} {R : α → α → Prop} {p : α → Bool} {l : List α}
    (hl : l.Pairwise R) (hp : ∀ a b, p a = true → p b = true → ¬ R a b) :
    (l.filter p).length ≤ 1 := by
  have hpair := hl.filter p
  have hall : ∀ a ∈ l.filter p, p a = true := fun a ha => (List.mem_filter.mp ha).2
  generalize l.filter p = k at hpair hall
  match k with
  | [] | [_] => simp
  | a :: b :: k =>
    rw [List.pairwise_cons] at hpair
    exact absurd (hpair.1 b (by simp)) (hp a b (hall a (by simp)) (hall b (by simp)))

/-- Compare and swap of control actions, in every run; of the envelopes that name one revision, in
whatever order their members are sent, at most one causes an event. -/
theorem controlAction_compareAndSwap {σ : Type} [InternalEventStore σ] (env : EngineEnv)
    (is : List EngineLabel) :
    let e := run (EngineState.step env) (EngineState.empty : EngineState σ) is
    (∀ r before event after, e.manager.log r = before ++ event :: after →
      event.type = .winnerSelected ∨ event.type = .cosignDeclined →
      ∃ en ∈ e.history, en.rfqId = r ∧ en.event = event ∧
        ∃ envelope signer, en.callback.envelope = some (envelope, signer) ∧
          envelope.SignedBy env signer ∧
          (∃ pre last, before = pre ++ [last] ∧ last.eventId = envelope.sessionRevision) ∧
          ∃ s, deriveState before = .ok (some s) ∧
            (event.type = .winnerSelected →
              envelope.action = .accept ∧ s.rfq.buyer = signer) ∧
            (event.type = .cosignDeclined →
              envelope.action = .decline ∧ s.selectedSeller = some signer)) ∧
    ∀ revision, (e.history.filter fun en => en.callback.envelope.map
      (fun p => p.1.sessionRevision) = some revision).length ≤ 1 := by
  intro e
  have he := EngineState.run_inv_true (σ := σ) env is
  refine ⟨fun r before event after hlog htype => ?_, fun revision => ?_⟩
  · rw [he.log] at hlog
    obtain ⟨h₁, en, h₂, hhistory, rfl, rfl, rfl⟩ := exists_entry_of_logOf hlog
    have hr := he.journal h₁ en h₂ hhistory
    obtain ⟨envelope, signer, hen⟩ := hr.exists_envelope htype
    obtain ⟨-, s, hs, hswaps⟩ := hr.swaps hen
    obtain ⟨pre, last, hpre, hlast⟩ := deriveState_lastEventId hs
    have hmem : en ∈ e.history := by
      rw [hhistory]
      simp
    refine ⟨en, hmem, rfl, rfl, envelope, signer, hen, hswaps.signedBy,
      ⟨pre, last, hpre, by rw [hlast, hswaps.revision]⟩, s, hs, ?_⟩
    have hsigner := hswaps.named
    have hevent := hswaps.type
    cases haction : envelope.action with
    | accept =>
      rw [haction] at hsigner hevent
      refine ⟨fun _ => ⟨rfl, Option.some.inj hsigner⟩, fun h => ?_⟩
      rw [hevent] at h
      cases h
    | decline =>
      rw [haction] at hsigner hevent
      refine ⟨fun h => ?_, fun _ => ⟨rfl, hsigner⟩⟩
      rw [hevent] at h
      cases h
  · exact length_filter_le_one he.journal.revision_once fun a b ha hb hab => by
      rw [decide_eq_true_eq, Option.map_eq_some_iff] at ha hb
      obtain ⟨⟨envelope, signer⟩, ha, rfl⟩ := ha
      obtain ⟨⟨envelope', signer'⟩, hb, hrevision⟩ := hb
      exact hab envelope envelope' signer signer' ha hb hrevision.symm

end GhostBazaar.Engine
