import GhostBazaar.Engine.StreamHoldings

/-! What a stream sends: the visible events after its cursor, each once and in order, then at most
one last message. -/
namespace GhostBazaar.Engine
open Js Transition

/-! ### Terminal events -/

/-- The state that the log of a session announced is the state that it ended in. -/
def Announces (log : List NegotiationEvent) (state : SessionState) : Prop :=
  if state.isTerminal then ∃ e ∈ log, e.type.terminalState = some state.text
  else ∀ e ∈ log, e.type.terminalState = none

theorem Announces.append {log : List NegotiationEvent} {event : NegotiationEvent}
    {s t : SessionState} (h : Announces log s) (hvalid : isValidTransition s event.type = some t) :
    Announces (log ++ [event]) t := by
  unfold Announces at h ⊢
  cases hterminal : s.isTerminal with
  | true =>
    obtain ⟨hs, ht, -⟩ := isValidTransition_terminal hterminal hvalid
    rw [hs] at h
    rw [ht]
    obtain ⟨e, he, hstate⟩ := h
    exact ⟨e, List.mem_append_left _ he, hstate⟩
  | false =>
    rw [hterminal] at h
    have hlive : ∀ e ∈ log, e.type.terminalState = none := h
    have hevent : if t.isTerminal then event.type.terminalState = some t.text
        else event.type.terminalState = none := by
      generalize event.type = type at hvalid
      cases s <;> cases type <;>
        simp_all [isValidTransition, SessionState.isTerminal] <;> subst hvalid <;>
        simp [EventType.terminalState, SessionState.text]
    split_ifs at hevent ⊢
    · exact ⟨event, List.mem_append_right _ (List.mem_singleton.mpr rfl), hevent⟩
    · intro e he
      rcases List.mem_append.mp he with he | he
      · exact hlive e he
      · rw [List.mem_singleton.mp he]
        exact hevent

theorem deriveState_announces {log : List NegotiationEvent} {s : DerivedSession}
    (hs : deriveState log = .ok (some s)) : Announces log s.state := by
  refine derives_induction (C := fun log s => Announces log s.state) ?_ ?_ hs
  · intro event s hfirst
    obtain ⟨hopen, -, -, -, -, -, -, -, htype, -⟩ := initialSession_state hfirst
    rw [hopen]
    simp [Announces, SessionState.isTerminal, htype, EventType.terminalState]
  · intro log event s s' _ hstep ih
    exact ih.append hstep.transition

/-! ### What a stream sends -/

/-- The visible events after the cursor. -/
def EventStream.due (c : EventStream) (log : List NegotiationEvent) : List StreamMessage :=
  (visibleTo c.callerDid c.buyer (eventsAfter c.cursor log)).map .negotiation

/-- What a stream that ends after these events may send last. -/
inductive Closing (past : List NegotiationEvent) : List StreamMessage → Prop
  | silent (hlive : ∀ e ∈ past, e.type.terminalState = none) : Closing past []
  | evicted (hlive : ∀ e ∈ past, e.type.terminalState = none) :
    Closing past [.error (js "evicted")]
  | terminal {e : NegotiationEvent} {state : JsString} (he : e ∈ past)
    (hstate : e.type.terminalState = some state) : Closing past [.terminal state]

inductive Said (log : List NegotiationEvent) (c : EventStream) : Prop
  | «open» (hopen : c.closed = false) (hcancelled : c.cancelled = false) (hend : c.endedAt = none)
    (hsent : c.sent = c.due log)
  | ended (n : ℕ) (closing : List StreamMessage) (hshut : c.closed = true ∨ c.cancelled = true)
    (hend : c.endedAt = some n) (hn : n ≤ log.length)
    (hsent : c.sent = c.due (log.take n) ++ closing) (hclosing : Closing (log.take n) closing)

theorem EventStream.due_append {c : EventStream} {log : List NegotiationEvent}
    (hcursor : ValidCursor c.cursor log) (event : NegotiationEvent) :
    c.due (log ++ [event]) =
      c.due log ++ if isEventVisibleTo event c.callerDid c.buyer then [.negotiation event] else [] := by
  rw [due, due, eventsAfter_append hcursor, visibleTo_append, List.map_append]
  congr 1
  split_ifs with hvisible
  · simp [visibleTo, hvisible]
  · simp [visibleTo, hvisible]

/-- One more event in the log, which an open stream sends when it is visible. -/
theorem Said.append {log : List NegotiationEvent} {c : EventStream} (h : Said log c)
    (hcursor : ValidCursor c.cursor log) (event : NegotiationEvent) :
    Said (log ++ [event])
      (if isEventVisibleTo event c.callerDid c.buyer then c.send (.negotiation event) else c) := by
  cases h with
  | «open» hopen hcancelled hend hsent =>
    have hdue := EventStream.due_append hcursor event
    split_ifs at hdue ⊢
    · simp only [EventStream.send, hopen, hcancelled, Bool.or_self, Bool.false_eq_true, if_false]
      exact .open rfl rfl hend (by rw [hsent]; exact hdue.symm)
    · rw [List.append_nil] at hdue
      exact .open hopen hcancelled hend (hsent.trans hdue.symm)
  | ended n closing hshut hend hn hsent hclosing =>
    have hsame : (if isEventVisibleTo event c.callerDid c.buyer then c.send (.negotiation event)
        else c) = c := by
      have hshut' : (c.closed || c.cancelled) = true := by
        rw [Bool.or_eq_true]
        exact hshut
      simp only [EventStream.send, hshut', if_true, ite_self]
    rw [hsame]
    refine .ended n closing hshut hend (by rw [List.length_append]; omega) ?_ ?_
    · rw [List.take_append_of_le_length hn, hsent]
    · rw [List.take_append_of_le_length hn]
      exact hclosing

theorem Said.append_closed {log : List NegotiationEvent} {c : EventStream} (h : Said log c)
    (hclosed : c.closed = true) (event : NegotiationEvent) : Said (log ++ [event]) c := by
  cases h with
  | «open» hopen =>
    rw [hopen] at hclosed
    cases hclosed
  | ended n closing hshut hend hn hsent hclosing =>
    refine .ended n closing hshut hend (by rw [List.length_append]; omega) ?_ ?_
    · rw [List.take_append_of_le_length hn, hsent]
    · rw [List.take_append_of_le_length hn]
      exact hclosing

/-- A stream that is released has sent all of the log and perhaps one message more. -/
theorem Said.finish {log : List NegotiationEvent} {c : EventStream} (h : Said log c)
    (hlive : ∀ e ∈ log, e.type.terminalState = none) (cleanedUp : Bool) :
    Said log (EventStream.finish c log.length cleanedUp) := by
  cases h with
  | «open» hopen hcancelled hend hsent =>
    refine .ended log.length [] (.inl rfl) ?_ le_rfl ?_ ?_
    · simp only [EventStream.finish, hend, Option.none_or]
    · rw [List.take_length, List.append_nil]
      exact hsent
    · rw [List.take_length]
      exact .silent hlive
  | ended n closing hshut hend hn hsent hclosing =>
    refine .ended n closing (.inl rfl) ?_ hn hsent hclosing
    simp only [EventStream.finish, hend, Option.some_or]

theorem Said.dismiss {log : List NegotiationEvent} {c : EventStream} (h : Said log c)
    {m : StreamMessage} (hclosing : Closing log [m]) (hopen : c.closed = false) (cleanedUp : Bool) :
    Said log (EventStream.finish (c.send m) log.length cleanedUp) := by
  cases h with
  | «open» _ hcancelled hend hsent =>
    simp only [EventStream.send, hopen, hcancelled, Bool.or_self, Bool.false_eq_true, if_false]
    refine .ended log.length [m] (.inl rfl) ?_ le_rfl ?_ ?_
    · simp only [EventStream.finish, hend, Option.none_or]
    · rw [List.take_length]
      exact congrArg (· ++ [m]) hsent
    · rw [List.take_length]
      exact hclosing
  | ended n closing hshut hend hn hsent hclosing' =>
    have hshut' : (c.closed || c.cancelled) = true := by
      rw [Bool.or_eq_true]
      exact hshut
    simp only [EventStream.send, hshut', if_true]
    refine .ended n closing (.inl rfl) ?_ hn hsent hclosing'
    simp only [EventStream.finish, hend, Option.some_or]

/-- The client goes away. -/
theorem Said.cancel {log : List NegotiationEvent} {c : EventStream} (h : Said log c)
    (hlive : c.closed = false → ∀ e ∈ log, e.type.terminalState = none) :
    Said log { c with cancelled := true, endedAt := c.endedAt.or (some log.length) } := by
  cases h with
  | «open» hopen hcancelled hend hsent =>
    refine .ended log.length [] (.inr rfl) ?_ le_rfl ?_ ?_
    · simp only [hend, Option.none_or]
    · rw [List.take_length, List.append_nil]
      exact hsent
    · rw [List.take_length]
      exact .silent (hlive hopen)
  | ended n closing hshut hend hn hsent hclosing =>
    refine .ended n closing (.inr rfl) ?_ hn hsent hclosing
    simp only [hend, Option.some_or]

end GhostBazaar.Engine
