import GhostBazaar.Engine.Routes.Reading
import GhostBazaar.Engine.SessionInvariant
import GhostBazaar.Engine.SqliteEventStore
import GhostBazaar.Transition

/-! A participant that polls `GET /rfqs/:id/events` with the cursor of its last answer, while
events are appended: nothing is lost and nothing is repeated. -/
namespace GhostBazaar.Engine
open Js Transition EventStorage

/-- A store of events that refuses an event id it has stored. -/
class DedupStorage (τ : Type) extends EventStorage τ where
  append_fresh : ∀ {s r event s' stored}, append s r event = .ok (s', stored) →
    ∀ q, ∀ e ∈ getAllEvents s q, e.eventId ≠ stored.eventId

instance : DedupStorage InMemoryEventStore where
  append_fresh h q e he := by
    simp only [EventStorage.append, map_eq_ok, Prod.mk.injEq] at h
    obtain ⟨s', happend, rfl, rfl⟩ := h
    exact fun hid => (InMemoryEventStore.append_ok happend).2.1
      (hid ▸ InMemoryEventStore.seen_of_mem he)

instance : DedupStorage SqliteEventStore where
  append_fresh {s r event s' stored} h q e he := by
    obtain ⟨hfresh, rfl, rfl⟩ := SqliteEventStore.append_ok h
    obtain ⟨row, hrow, rfl⟩ := List.mem_map.mp he
    intro heq
    refine hfresh (List.mem_map.mpr ⟨row, ?_, heq⟩)
    rw [SqliteEventStore.getAll] at hrow
    exact List.mem_of_mem_filter hrow

/-! ### The polling client -/

structure Polling (τ : Type) where
  store : τ
  /-- The cursor of the last answer; `null` before there is one. -/
  cursor : Option JsString
  /-- The events of all answers so far. -/
  received : List Json
  answers : List (Handling Reply)

inductive PollLabel where
  | append (rfqId : JsString) (event : NegotiationEvent)
  | poll

/-- The events of an answer. -/
def replyEvents (reply : Reply) : List Json :=
  match reply.body.lookup (js "events") with
  | some (.arr events) => events
  | _ => []

def replyCursor (reply : Reply) : Option JsString :=
  JsValue.asStr (reply.body.lookup (js "cursor"))

namespace Polling

variable {τ : Type} [DedupStorage τ]

def init : Polling τ := ⟨EventStorage.empty, none, [], []⟩

/-- The route, for the session that the log derives. -/
def ask (rfqId callerDid : JsString) (p : Polling τ) : Handling Reply :=
  match deriveState (getAllEvents p.store rfqId) with
  | .error err => .error (.thrown (.error err))
  | .ok session => pollEvents p.store rfqId callerDid session p.cursor

def poll (rfqId callerDid : JsString) (p : Polling τ) : Polling τ :=
  match p.ask rfqId callerDid with
  | .ok reply => { p with
      cursor := replyCursor reply
      received := p.received ++ replyEvents reply
      answers := p.answers ++ [.ok reply] }
  | .error failure => { p with answers := p.answers ++ [.error failure] }

def step (rfqId callerDid : JsString) (p : Polling τ) : PollLabel → Option (Polling τ)
  | .append r event =>
    match append p.store r event with
    | .ok (store, _) => some { p with store }
    | .error _ => none
  | .poll => some (p.poll rfqId callerDid)

/-! ### The cursor -/

theorem eventsAfter_last {pre more : List NegotiationEvent} {e : NegotiationEvent}
    (hnodup : ((pre ++ [e] ++ more).map NegotiationEvent.eventId).Nodup) :
    eventsAfter (some e.eventId) (pre ++ [e] ++ more) = more := by
  have hpre : ∀ x ∈ pre, ¬ x.eventId = e.eventId := by
    intro x hx heq
    rw [List.append_assoc, List.map_append, List.nodup_append] at hnodup
    exact hnodup.2.2 x.eventId (List.mem_map_of_mem hx) e.eventId (by simp) heq
  have hidx : (pre ++ [e] ++ more).findIdx? (fun x => decide (x.eventId = e.eventId)) =
      some pre.length := by
    rw [List.append_assoc, List.findIdx?_append, List.findIdx?_eq_none_iff.mpr (by simpa using hpre)]
    simp [List.findIdx?_cons]
  rw [eventsAfter, hidx]
  exact List.drop_left' (by simp)

/-- What the client has read: the events up to the one its cursor names, of a log that
derived the buyer it read them under. -/
structure Read (callerDid : JsString) (log : List NegotiationEvent) (p : Polling τ)
    (pre : List NegotiationEvent) (e : NegotiationEvent) : Prop where
  cursor : p.cursor = some e.eventId
  upTo : pre ++ [e] <+: log
  received : ∃ polled s, polled <+: log ∧ deriveState polled = .ok (some s) ∧
    p.received = (visibleTo callerDid s.rfq.buyer (pre ++ [e])).map fun e => .obj (eventMembers e)

structure Inv (rfqId callerDid : JsString) (p : Polling τ) : Prop where
  nodup : ((getAllEvents p.store rfqId).map NegotiationEvent.eventId).Nodup
  read : p.cursor = none ∧ p.received = [] ∨
    ∃ pre e, Read callerDid (getAllEvents p.store rfqId) p pre e
  answers : ∀ err : EngineError, .error (.refused err) ∈ p.answers →
    err.code ≠ js "invalid_cursor"

variable {rfqId callerDid : JsString} {p : Polling τ}

theorem init_inv : Inv rfqId callerDid (init : Polling τ) where
  nodup := by
    rw [init, getAllEvents_empty]
    exact List.nodup_nil
  read := Or.inl ⟨rfl, rfl⟩
  answers _ herr := absurd herr List.not_mem_nil

theorem Inv.append (hp : Inv rfqId callerDid p) {r : JsString} {event stored : NegotiationEvent}
    {store : τ} (happend : append p.store r event = .ok (store, stored)) :
    Inv rfqId callerDid { p with store } := by
  have hlog := getAllEvents_append happend rfqId
  have hprefix : getAllEvents p.store rfqId <+: getAllEvents store rfqId := by
    rw [hlog]
    split_ifs
    · exact List.prefix_append _ _
    · exact List.prefix_rfl
  refine ⟨?_, hp.read.imp_right ?_, hp.answers⟩
  · rw [hlog]
    split_ifs
    · rw [List.map_append, List.nodup_append]
      refine ⟨hp.nodup, by simp, ?_⟩
      rintro a ha b hb rfl
      obtain ⟨x, hx, hid⟩ := List.mem_map.mp ha
      exact DedupStorage.append_fresh happend rfqId x hx (by simpa [hid] using hb)
    · exact hp.nodup
  · rintro ⟨pre, e, hread⟩
    obtain ⟨polled, s, hpolled, hs, hreceived⟩ := hread.received
    exact ⟨pre, e, hread.cursor, hread.upTo.trans hprefix, polled, s, hpolled.trans hprefix, hs,
      hreceived⟩

/-- What the client has read when a session is there: a part of the log, up to its cursor. -/
theorem Inv.split (hp : Inv rfqId callerDid p) {s : DerivedSession}
    (hs : deriveState (getAllEvents p.store rfqId) = .ok (some s)) :
    ∃ seen more, getAllEvents p.store rfqId = seen ++ more ∧
      eventsAfter p.cursor (getAllEvents p.store rfqId) = more ∧
      ValidCursor p.cursor (getAllEvents p.store rfqId) ∧
      p.received = (visibleTo callerDid s.rfq.buyer seen).map fun e => .obj (eventMembers e) := by
  rcases hp.read with ⟨hcursor, hreceived⟩ | ⟨pre, e, hread⟩
  · refine ⟨[], getAllEvents p.store rfqId, rfl, by rw [hcursor]; rfl, ?_, hreceived⟩
    rw [hcursor]
    exact nofun
  · obtain ⟨polled, s₀, hpolled, hs₀, hreceived⟩ := hread.received
    obtain ⟨more, hmore⟩ := hread.upTo
    have hnodup := hp.nodup
    refine ⟨pre ++ [e], more, hmore.symm, ?_, ?_, ?_⟩
    · rw [← hmore] at hnodup ⊢
      rw [hread.cursor]
      exact eventsAfter_last hnodup
    · rw [hread.cursor, ← hmore]
      rintro id ⟨⟩
      exact ⟨e, by simp, rfl⟩
    · rw [hreceived, rfq_eq_of_prefix hpolled hs₀ hs]

/-- The answer to a participant whose cursor is one of the session. -/
theorem ask_participant {s : DerivedSession}
    (hs : deriveState (getAllEvents p.store rfqId) = .ok (some s))
    (hpart : isParticipant callerDid s.rfq.buyer s.offers = true)
    (hcursor : ValidCursor p.cursor (getAllEvents p.store rfqId)) :
    ∃ reply, p.ask rfqId callerDid = .ok reply ∧
      replyEvents reply = (visibleTo callerDid s.rfq.buyer
        (eventsAfter p.cursor (getAllEvents p.store rfqId))).map (fun e => .obj (eventMembers e)) ∧
      replyCursor reply = ((visibleTo callerDid s.rfq.buyer
        (eventsAfter p.cursor (getAllEvents p.store rfqId))).getLast?.map
          NegotiationEvent.eventId).or p.cursor := by
  have hhas : ∀ id ∈ p.cursor, EventStorage.hasCursor p.store rfqId id = true := by
    intro id hid
    exact (hasCursor_iff _ _ _).mpr (hcursor id hid)
  rw [ask, hs]
  simp only [pollEvents, orThrow, ok_bind, require, ensure, if_pos hpart, if_pos hhas,
    getEvents_eq, pure_eq_ok]
  refine ⟨_, rfl, rfl, ?_⟩
  generalize ((visibleTo callerDid s.rfq.buyer
    (eventsAfter p.cursor (getAllEvents p.store rfqId))).getLast?.map
      NegotiationEvent.eventId).or p.cursor = responseCursor
  cases responseCursor <;> rfl

/-- A poll of a participant gives it everything it has not read yet. -/
theorem Inv.poll_participant (hp : Inv rfqId callerDid p) {s : DerivedSession}
    (hs : deriveState (getAllEvents p.store rfqId) = .ok (some s))
    (hpart : isParticipant callerDid s.rfq.buyer s.offers = true) :
    ∃ reply, p.ask rfqId callerDid = .ok reply ∧ Inv rfqId callerDid (p.poll rfqId callerDid) ∧
      (p.poll rfqId callerDid).received =
        (visibleTo callerDid s.rfq.buyer (getAllEvents p.store rfqId)).map fun e =>
          .obj (eventMembers e) := by
  obtain ⟨seen, more, hlog, hafter, hcursor, hreceived⟩ := hp.split hs
  obtain ⟨reply, hask, hevents, hnext⟩ := ask_participant hs hpart hcursor
  rw [hafter] at hevents hnext
  have hall : p.received ++ replyEvents reply =
      (visibleTo callerDid s.rfq.buyer (getAllEvents p.store rfqId)).map fun e =>
        .obj (eventMembers e) := by
    rw [hreceived, hevents, hlog, visibleTo_append, List.map_append]
  have hpoll : p.poll rfqId callerDid = { p with
      cursor := replyCursor reply
      received := p.received ++ replyEvents reply
      answers := p.answers ++ [.ok reply] } := by
    rw [poll, hask]
  refine ⟨reply, hask, ?_, by rw [hpoll]; exact hall⟩
  rw [hpoll]
  refine ⟨hp.nodup, ?_, ?_⟩
  · rcases List.eq_nil_or_concat (visibleTo callerDid s.rfq.buyer more) with hnil | ⟨init, e, he⟩
    · -- nothing new: the client keeps its cursor
      rw [hnil] at hevents hnext
      have hsame : replyCursor reply = p.cursor := hnext
      rw [hsame, hevents, List.map_nil, List.append_nil]
      exact hp.read.imp_right fun ⟨pre, e, hread⟩ => ⟨pre, e, hread.cursor, hread.upTo,
        hread.received⟩
    · rw [List.concat_eq_append] at he
      obtain ⟨before, after, rfl, hbefore, hafter'⟩ := List.filter_eq_append_iff.mp he
      obtain ⟨skipped, rest, rfl, hskipped, hvisible, hrest⟩ := List.filter_eq_cons_iff.mp hafter'
      have hlast : replyCursor reply = some e.eventId := by
        rw [hnext, he]
        simp
      refine Or.inr ⟨seen ++ before ++ skipped, e, hlast, ⟨rest, by simp [hlog]⟩,
        getAllEvents p.store rfqId, s, List.prefix_rfl, hs, ?_⟩
      have hnone : visibleTo callerDid s.rfq.buyer skipped = [] :=
        List.filter_eq_nil_iff.mpr hskipped
      have hrest : visibleTo callerDid s.rfq.buyer rest = [] := hrest
      rw [hall, hlog]
      simp only [visibleTo_append, hnone, List.append_assoc]
      rw [show e :: rest = [e] ++ rest from rfl, visibleTo_append, hrest, List.append_nil]
  · intro err herr
    rw [List.mem_append, List.mem_singleton] at herr
    exact hp.answers err (herr.resolve_right nofun)

theorem Inv.poll (hp : Inv rfqId callerDid p) : Inv rfqId callerDid (p.poll rfqId callerDid) := by
  have hkeep {failure : Failure EngineError} (hask : p.ask rfqId callerDid = .error failure)
      (hcode : ∀ err, failure = .refused err → err.code ≠ js "invalid_cursor") :
      Inv rfqId callerDid (p.poll rfqId callerDid) := by
    rw [Polling.poll, hask]
    refine ⟨hp.nodup, hp.read.imp_right fun ⟨pre, e, hread⟩ => ⟨pre, e, hread.cursor, hread.upTo,
      hread.received⟩, fun err herr => ?_⟩
    rw [List.mem_append, List.mem_singleton, Except.error.injEq] at herr
    exact herr.elim (hp.answers err) fun heq => hcode err heq.symm
  cases hs : deriveState (getAllEvents p.store rfqId) with
  | error err =>
    have hask : p.ask rfqId callerDid = .error (.thrown (.error err)) := by rw [ask, hs]
    exact hkeep hask nofun
  | ok session =>
    cases session with
    | none =>
      refine hkeep (by rw [ask, hs]; rfl) ?_
      rintro _ ⟨⟩
      decide
    | some s =>
      by_cases hpart : isParticipant callerDid s.rfq.buyer s.offers = true
      · obtain ⟨reply, -, hinv, -⟩ := hp.poll_participant hs hpart
        exact hinv
      · have hask : p.ask rfqId callerDid = .error (.refused (unauthorized
            (js "Only participants can access events"))) := by
          rw [ask, hs]
          simp only [pollEvents, orThrow, ok_bind, require, ensure, if_neg hpart, error_bind]
        refine hkeep hask ?_
        rintro _ ⟨⟩
        decide

theorem run_inv (is : List PollLabel) :
    Inv rfqId callerDid (run (step rfqId callerDid) (init : Polling τ) is) := by
  refine run_invariant (fun p i p' hp hstep => ?_) init_inv is
  cases i with
  | append r event =>
    simp only [Polling.step] at hstep
    split at hstep
    · rename_i store stored happend
      rw [Option.some.injEq] at hstep
      exact hstep ▸ hp.append happend
    · simp at hstep
  | poll =>
    rw [Polling.step, Option.some.injEq] at hstep
    exact hstep ▸ hp.poll

/-- Whatever is appended between the polls, none is refused for its cursor, and a participant
that polls has then received exactly what it may see of the log, each event once. -/
theorem polling_lossless (rfqId callerDid : JsString) (is : List PollLabel) :
    (∀ err : EngineError,
      .error (.refused err) ∈ (run (step rfqId callerDid) (init : Polling τ) is).answers →
        err.code ≠ js "invalid_cursor") ∧
    ∀ s, deriveState (getAllEvents (run (step rfqId callerDid) (init : Polling τ) is).store
        rfqId) = .ok (some s) →
      isParticipant callerDid s.rfq.buyer s.offers = true →
      (run (step rfqId callerDid) (init : Polling τ) (is ++ [.poll])).received =
        (visibleTo callerDid s.rfq.buyer (getAllEvents
          (run (step rfqId callerDid) (init : Polling τ) is).store rfqId)).map fun e =>
            .obj (eventMembers e) := by
  have hinv : Inv rfqId callerDid (run (step rfqId callerDid) (init : Polling τ) is) := run_inv is
  refine ⟨hinv.answers, fun s hs hpart => ?_⟩
  obtain ⟨reply, -, -, hreceived⟩ := hinv.poll_participant hs hpart
  rw [run_append]
  exact hreceived

end Polling
end GhostBazaar.Engine
