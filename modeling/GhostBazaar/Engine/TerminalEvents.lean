import GhostBazaar.Engine.Growth
import GhostBazaar.Engine.SettlementBinding

/-! How the log of a session ends, after any run of the engine: a session ends at most once,
and only a committed one gets one more event, its settlement. -/
namespace GhostBazaar.Engine
open Js GhostBazaar.Core Settlement Transition

/-- The events that end a negotiation. -/
def EventType.ends : EventType → Bool
  | .quoteCommitted | .negotiationExpired | .negotiationCancelled => true
  | _ => false

/-- The last events of a session in this state, from the one that ended it on. -/
def SessionState.Ending : SessionState → List EventType → Prop
  | .committed, types => types = [.quoteCommitted] ∨
      types = [.quoteCommitted, .settlementConfirmed]
  | .expired, types => types = [.negotiationExpired]
  | .cancelled, types => types = [.negotiationCancelled]
  | .open, types | .negotiating, types | .commitPending, types => types = []

/-- A negotiation, then the ending that belongs to the state. -/
def EndsAs (log : List NegotiationEvent) (state : SessionState) : Prop :=
  ∃ talks ending, log = talks ++ ending ∧ state.Ending (ending.map NegotiationEvent.type) ∧
    ∀ event ∈ talks, event.type.ends = false ∧ event.type ≠ .settlementConfirmed

theorem SessionState.Ending.eq_nil {state : SessionState} {types : List EventType}
    (hstate : state.isTerminal = false) (he : state.Ending types) : types = [] := by
  cases state with
  | «open» | negotiating | commitPending => exact he
  | committed | expired | cancelled => simp [SessionState.isTerminal] at hstate

/-- A transition out of a live state gives an event that belongs to the ending of the next
state, or one more event of the negotiation. -/
theorem isValidTransition_live {s t : SessionState} {type : EventType}
    (hs : s.isTerminal = false) (h : isValidTransition s type = some t) :
    t.isTerminal = true ∧ t.Ending [type] ∨
      t.Ending [] ∧ type.ends = false ∧ type ≠ .settlementConfirmed := by
  cases s <;> cases type <;>
    simp_all [isValidTransition, SessionState.isTerminal] <;> subst h <;>
    simp [SessionState.Ending, EventType.ends]

section

variable {env : EngineEnv} {P : DerivedSession → Members → Prop}
  {answers : List (JsString × JsValue)} {h : List Entry} {r : JsString}

/-- The settlement routes look for a settlement in the whole log under the lock. -/
theorem Recorded.unsettled {en : Entry} (hr : Recorded env P answers h en)
    (htype : en.event.type = .settlementConfirmed) : ¬ Settled (logOf h en.rfqId) := by
  obtain ⟨s, hs, -⟩ := hr.settled_step htype
  obtain ⟨c, hcallback⟩ := hr.confirm htype
  have happends := hr.appends hs
  rw [hcallback] at happends
  obtain ⟨m, hlocked⟩ := happends
  rintro ⟨event, hevent, hsettled⟩
  exact (lockedConfirm_ok hlocked).1 event hevent hsettled

theorem EndsAs.step {en : Entry} {s s' : DerivedSession} (hr : Recorded env P answers h en)
    (hstep : EventStep s en.event s') (he : EndsAs (logOf h en.rfqId) s.state) :
    EndsAs (logOf h en.rfqId ++ [en.event]) s'.state := by
  obtain ⟨talks, ending, hlog, hending, htalks⟩ := he
  have htransition := hstep.transition
  cases hterminal : s.state.isTerminal with
  | false =>
    have hnil : ending = [] := List.map_eq_nil_iff.mp (hending.eq_nil hterminal)
    rw [hlog, hnil, List.append_nil]
    rcases isValidTransition_live hterminal htransition with ⟨-, hlast⟩ | ⟨hopen, hends, hsettle⟩
    · exact ⟨talks, [en.event], rfl, hlast, htalks⟩
    · refine ⟨talks ++ [en.event], [], by rw [List.append_nil], hopen, ?_⟩
      intro event hevent
      rcases List.mem_append.mp hevent with hmem | hmem
      · exact htalks event hmem
      · rw [List.mem_singleton] at hmem
        rw [hmem]
        exact ⟨hends, hsettle⟩
  | true =>
    -- only a committed session goes on, with a settlement that is not in the log yet
    obtain ⟨hs, hs', htype⟩ := isValidTransition_terminal hterminal htransition
    have hunsettled := hr.unsettled htype
    rw [hs] at hending
    refine ⟨talks, ending ++ [en.event], by rw [hlog, List.append_assoc], ?_, htalks⟩
    rcases hending with hcommitted | hsettled
    · rw [hs', List.map_append, hcommitted]
      exact Or.inr (by simp [htype])
    · have hmem : EventType.settlementConfirmed ∈ ending.map NegotiationEvent.type := by
        simp [hsettled]
      obtain ⟨event, hevent, hconfirmed⟩ := List.mem_map.mp hmem
      exact absurd ⟨event, by rw [hlog]; exact List.mem_append_right _ hevent, hconfirmed⟩
        hunsettled

theorem Journal.endsAs (hj : Journal env P answers h) {s : DerivedSession}
    (hs : deriveState (logOf h r) = .ok (some s)) : EndsAs (logOf h r) s.state := by
  apply hj.session_induction (C := fun log s => EndsAs log s.state) _ _ hs
  · intro h en s _ _ hs
    obtain ⟨hopen, -, -, -, -, -, -, -, htype, -⟩ := initialSession_state hs
    refine ⟨[en.event], [], rfl, by rw [hopen]; rfl, ?_⟩
    simp [htype, EventType.ends]
  · intro h en s s' hr _ hstep he
    exact he.step hr hstep

end

/-! ### What the shape of a log excludes -/

/-- The events around an event of an ending. -/
theorem SessionState.Ending.split {state : SessionState} {before after : List EventType}
    {type : EventType} (he : state.Ending (before ++ type :: after)) :
    type = .quoteCommitted ∧ before = [] ∧ (after = [] ∨ after = [.settlementConfirmed]) ∨
      (type = .negotiationExpired ∨ type = .negotiationCancelled) ∧ before = [] ∧ after = [] ∨
      type = .settlementConfirmed ∧ before = [.quoteCommitted] ∧ after = [] := by
  cases state with
  | «open» | negotiating | commitPending => simp [SessionState.Ending] at he
  | expired | cancelled => simp_all [SessionState.Ending, List.append_eq_singleton_iff]
  | committed =>
    cases before with
    | nil =>
      rcases he with he | he <;> rw [List.nil_append, List.cons.injEq] at he
      · exact Or.inl ⟨he.1, rfl, Or.inl he.2⟩
      · exact Or.inl ⟨he.1, rfl, Or.inr he.2⟩
    | cons first rest => simp_all [SessionState.Ending, List.append_eq_singleton_iff]

theorem EndsAs.split {log before after : List NegotiationEvent} {event : NegotiationEvent}
    {state : SessionState} (he : EndsAs log state) (hlog : log = before ++ event :: after)
    (htype : event.type.ends = true ∨ event.type = .settlementConfirmed) :
    ∃ talks ending, before = talks ++ ending ∧
      state.Ending ((ending ++ event :: after).map NegotiationEvent.type) ∧
      ∀ e ∈ talks, e.type.ends = false ∧ e.type ≠ .settlementConfirmed := by
  obtain ⟨talks, ending, rfl, hending, htalks⟩ := he
  rcases List.append_eq_append_iff.mp hlog with ⟨rest, rfl, hrest⟩ | ⟨rest, htalk, hrest⟩
  · exact ⟨talks, rest, rfl, hrest ▸ hending, htalks⟩
  · cases rest with
    | nil =>
      rw [List.append_nil] at htalk
      refine ⟨talks, [], by rw [htalk, List.append_nil], ?_, htalks⟩
      rw [List.nil_append] at hrest ⊢
      exact hrest ▸ hending
    | cons first rest =>
      rw [List.cons_append, List.cons.injEq] at hrest
      have hmem : event ∈ talks := by
        rw [htalk, hrest.1]
        exact List.mem_append_right _ List.mem_cons_self
      obtain ⟨hends, hsettled⟩ := htalks event hmem
      rcases htype with htype | htype
      · simp [hends] at htype
      · exact absurd htype hsettled

/-- The events around an event of this kind are of these types. -/
theorem EndsAs.around {log before after : List NegotiationEvent} {event : NegotiationEvent}
    {state : SessionState} (he : EndsAs log state) (hlog : log = before ++ event :: after)
    (htype : event.type.ends = true ∨ event.type = .settlementConfirmed) :
    (event.type = .quoteCommitted ∧ (∀ later ∈ after, later.type = .settlementConfirmed) ∧
        ∀ earlier ∈ before, earlier.type.ends = false) ∨
      ((event.type = .negotiationExpired ∨ event.type = .negotiationCancelled) ∧ after = [] ∧
        ∀ earlier ∈ before, earlier.type.ends = false) ∨
      (event.type = .settlementConfirmed ∧ after = [] ∧
        ∀ earlier ∈ before, earlier.type ≠ .settlementConfirmed) := by
  obtain ⟨talks, ending, rfl, hending, htalks⟩ := he.split hlog htype
  rw [List.map_append, List.map_cons] at hending
  have htalk : ending = [] → ∀ earlier ∈ talks ++ ending, earlier.type.ends = false := by
    rintro rfl earlier hearlier
    rw [List.append_nil] at hearlier
    exact (htalks earlier hearlier).1
  rcases hending.split with ⟨hcommitted, hnil, hafter⟩ | ⟨hclosed, hnil, hafter⟩ |
    ⟨hsettled, hone, hafter⟩
  · refine Or.inl ⟨hcommitted, fun later hlater => ?_, htalk (List.map_eq_nil_iff.mp hnil)⟩
    have hmem := List.mem_map_of_mem (f := NegotiationEvent.type) hlater
    rcases hafter with hafter | hafter
    · simp [hafter] at hmem
    · simpa [hafter] using hmem
  · exact Or.inr (Or.inl ⟨hclosed, List.map_eq_nil_iff.mp hafter,
      htalk (List.map_eq_nil_iff.mp hnil)⟩)
  · refine Or.inr (Or.inr ⟨hsettled, List.map_eq_nil_iff.mp hafter, fun earlier hearlier => ?_⟩)
    rcases List.mem_append.mp hearlier with hmem | hmem
    · exact (htalks earlier hmem).2
    · have hmem := List.mem_map_of_mem (f := NegotiationEvent.type) hmem
      rw [hone, List.mem_singleton] at hmem
      simp [hmem]

/-- The ends of a session, as its log shows them. -/
structure EndsOnce (log : List NegotiationEvent) : Prop where
  ended : ∀ before event after, log = before ++ event :: after → event.type.ends = true →
    ∀ other ∈ before ++ after, other.type.ends = false
  closed : ∀ before event after, log = before ++ event :: after →
    event.type = .negotiationExpired ∨ event.type = .negotiationCancelled → after = []
  committed : ∀ before event after, log = before ++ event :: after →
    event.type = .quoteCommitted → ∀ later ∈ after, later.type = .settlementConfirmed
  settled : ∀ before event after, log = before ++ event :: after →
    event.type = .settlementConfirmed →
    ∀ other ∈ before ++ after, other.type ≠ .settlementConfirmed

theorem EndsAs.once {log : List NegotiationEvent} {state : SessionState}
    (he : EndsAs log state) : EndsOnce log := by
  constructor
  · intro before event after hlog hends other hother
    rcases he.around hlog (Or.inl hends) with ⟨-, hafter, hbefore⟩ | ⟨-, rfl, hbefore⟩ |
      ⟨htype, -⟩
    · rcases List.mem_append.mp hother with hmem | hmem
      · exact hbefore other hmem
      · rw [hafter other hmem]
        rfl
    · rw [List.append_nil] at hother
      exact hbefore other hother
    · simp [htype, EventType.ends] at hends
  · intro before event after hlog htype
    have hends : event.type.ends = true := by
      rcases htype with htype | htype <;> rw [htype] <;> rfl
    rcases he.around hlog (Or.inl hends) with ⟨hcommitted, -⟩ | ⟨-, hafter, -⟩ | ⟨-, hafter, -⟩
    · simp [hcommitted] at htype
    · exact hafter
    · exact hafter
  · intro before event after hlog htype
    have hends : event.type.ends = true := by rw [htype]; rfl
    rcases he.around hlog (Or.inl hends) with ⟨-, hafter, -⟩ | ⟨-, rfl, -⟩ | ⟨-, rfl, -⟩
    · exact hafter
    · simp
    · simp
  · intro before event after hlog htype other hother
    rcases he.around hlog (Or.inr htype) with ⟨hcommitted, -⟩ | ⟨hclosed, -⟩ | ⟨-, rfl, hbefore⟩
    · simp [hcommitted] at htype
    · simp [htype] at hclosed
    · rw [List.append_nil] at hother
      exact hbefore other hother

/-- Whatever the requests, the scans and their order, the log of every session ends once, and
a longer run only adds to it. -/
theorem log_ends_once {σ : Type} [InternalEventStore σ] (env : EngineEnv)
    (is : List EngineLabel) (r : JsString) :
    EndsOnce ((run (EngineState.step env) (EngineState.empty : EngineState σ) is).manager.log
        r) ∧
      ∀ is', (run (EngineState.step env) (EngineState.empty : EngineState σ) is).manager.log r <+:
        (run (EngineState.step env) (EngineState.empty : EngineState σ) (is ++ is')).manager.log
          r := by
  refine ⟨?_, fun is' => EngineState.run_log_prefix env is is' r⟩
  have he := EngineState.run_inv_true (σ := σ) env is
  rw [he.log]
  cases hlog : logOf (run (EngineState.step env) (EngineState.empty : EngineState σ)
      is).history r with
  | nil => constructor <;> simp
  | cons first rest =>
    have hfirst : first ∈ logOf (run (EngineState.step env) (EngineState.empty : EngineState σ)
        is).history r := hlog ▸ List.mem_cons_self
    obtain ⟨s, hs⟩ := he.journal.derives hfirst
    rw [← hlog]
    exact (he.journal.endsAs hs).once

end GhostBazaar.Engine
