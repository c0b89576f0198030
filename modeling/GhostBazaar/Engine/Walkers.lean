import GhostBazaar.Engine.SessionInvariant

/-! The feeds that show a session's events with the state after each: the admin replay and the
recent feed walk over the log by rules of their own, the broadcaster has the derived session. -/
namespace GhostBazaar.Engine
open Js

/-! ### The feeds -/

/-- The rules of the admin replay. -/
def adminNextState (currentState : SessionState) (type : EventType) : SessionState :=
  if type = .offerSubmitted ∧ currentState = .open then .negotiating
  else if type = .winnerSelected then .commitPending
  else if type = .quoteCommitted then .committed
  else if type = .negotiationExpired then .expired
  else if type = .negotiationCancelled then .cancelled
  else if type = .commitPending then .commitPending
  else if (type = .cosignDeclined ∨ type = .cosignTimeout) ∧ currentState = .commitPending then
    .negotiating
  else currentState

/-- The rules of `GET /dashboard/feed/recent`, without the audit marker. -/
def recentNextState (currentState : SessionState) (type : EventType) : SessionState :=
  if type = .offerSubmitted ∧ currentState = .open then .negotiating
  else if type = .winnerSelected then .commitPending
  else if type = .quoteCommitted then .committed
  else if type = .negotiationExpired then .expired
  else if type = .negotiationCancelled then .cancelled
  else if (type = .cosignDeclined ∨ type = .cosignTimeout) ∧ currentState = .commitPending then
    .negotiating
  else currentState

/-- The loop of a walker: each event with the state after it. -/
def walk (nextState : SessionState → EventType → SessionState) :
    SessionState → List NegotiationEvent → List (NegotiationEvent × SessionState)
  | _, [] => []
  | currentState, event :: events =>
    (event, nextState currentState event.type) ::
      walk nextState (nextState currentState event.type) events

/-- `replayWithState` of the admin feed. -/
def replayWithState (events : List NegotiationEvent) : List (NegotiationEvent × SessionState) :=
  walk adminNextState .open events

def actorRole (buyer : JsString) (event : NegotiationEvent) : JsString :=
  if event.actor = buyer then js "buyer"
  else if startsWith event.actor (js "engine/") then js "system"
  else js "seller"

/-- An anonymized event. -/
structure FeedEntry where
  type : EventType
  actorRole : JsString
  stateAfter : SessionState
  deriving DecidableEq

/-- What the recent feed shows of one session, with the timestamps it sorts by. -/
def recentEntries (session : DerivedSession) (events : List NegotiationEvent) :
    List (FeedEntry × JsString) :=
  (walk recentNextState .open events).map fun (event, stateAfter) =>
    (⟨event.type, actorRole session.rfq.buyer event, stateAfter⟩, event.timestamp)

namespace EventBroadcaster

/-- `onEvent`, for the public feed. -/
def publicData (event : NegotiationEvent) (session : DerivedSession) : FeedEntry :=
  ⟨event.type, actorRole session.rfq.buyer event, session.state⟩

/-- `onEvent`, for the admins that watch the session. -/
def adminData (event : NegotiationEvent) (session : DerivedSession) :
    NegotiationEvent × SessionState := (event, session.state)

end EventBroadcaster

/-! ### Walkers that follow the state machine -/

/-- A walker need not be right about events that the state machine refuses. -/
structure Follows (nextState : SessionState → EventType → SessionState) : Prop where
  first : nextState .open .rfqCreated = .open
  valid : ∀ s type t, isValidTransition s type = some t → nextState s type = t

theorem follows_adminNextState : Follows adminNextState := by
  refine ⟨rfl, fun s type t h => ?_⟩
  cases s <;> cases type <;> first | cases h; done | (cases h; rfl)

theorem follows_recentNextState : Follows recentNextState := by
  refine ⟨rfl, fun s type t h => ?_⟩
  cases s <;> cases type <;> first | cases h; done | (cases h; rfl)

variable {nextState : SessionState → EventType → SessionState}

/-- The state that a walker has come to. -/
theorem Follows.foldl_eq (hw : Follows nextState) {log : List NegotiationEvent}
    {s : DerivedSession} (hs : deriveState log = .ok (some s)) :
    log.foldl (fun currentState event => nextState currentState event.type) .open = s.state := by
  refine derives_induction (C := fun log s =>
    log.foldl (fun currentState event => nextState currentState event.type) .open = s.state)
    ?_ ?_ hs
  · intro event s hfirst
    obtain ⟨hopen, -, -, -, -, -, -, -, htype, -⟩ := initialSession_state hfirst
    rw [List.foldl_cons, List.foldl_nil, htype, hopen]
    exact hw.first
  · intro log event s s' _ hstep ih
    rw [List.foldl_append, List.foldl_cons, List.foldl_nil, ih]
    exact hw.valid _ _ _ hstep.transition

theorem walk_getElem? (currentState : SessionState) (events : List NegotiationEvent) (i : ℕ) :
    (walk nextState currentState events)[i]? = events[i]?.map fun event =>
      (event, (events.take (i + 1)).foldl (fun s event => nextState s event.type)
        currentState) := by
  induction events generalizing currentState i with
  | nil => simp [walk]
  | cons event events ih =>
    cases i with
    | zero => simp [walk]
    | succ i =>
      rw [walk, List.getElem?_cons_succ, List.getElem?_cons_succ, ih, List.take_succ_cons,
        List.foldl_cons]

/-- Every prefix of a log that replays replays too. -/
theorem deriveState_take {log : List NegotiationEvent} {s : DerivedSession}
    (hs : deriveState log = .ok (some s)) (i : ℕ) :
    ∃ s', deriveState (log.take (i + 1)) = .ok (some s') := by
  induction log using List.reverseRecOn generalizing s with
  | nil => simp [deriveState] at hs
  | append_singleton log event ih =>
    by_cases hi : i + 1 ≤ log.length
    · rw [List.take_append_of_le_length hi]
      rcases derives_append hs with ⟨rfl, -⟩ | ⟨first, s₀, -, hs₀, -⟩
      · simp at hi
      · exact ih hs₀
    · rw [List.take_of_length_le (by simp; omega)]
      exact ⟨s, hs⟩

/-- All feeds show the derived state after each event: the admin replay, the recent feed and the
live ones. -/
theorem feeds_agree {log : List NegotiationEvent} {s : DerivedSession}
    (hs : deriveState log = .ok (some s)) {i : ℕ} {event : NegotiationEvent}
    (hi : log[i]? = some event) :
    ∃ s', deriveState (log.take (i + 1)) = .ok (some s') ∧
      (replayWithState log)[i]? = some (event, s'.state) ∧
      (recentEntries s log)[i]? =
        some (⟨event.type, actorRole s.rfq.buyer event, s'.state⟩, event.timestamp) ∧
      EventBroadcaster.adminData event s' = (event, s'.state) ∧
      EventBroadcaster.publicData event s' =
        ⟨event.type, actorRole s.rfq.buyer event, s'.state⟩ := by
  obtain ⟨s', hs'⟩ := deriveState_take hs i
  have hrfq := rfq_eq_of_prefix (List.take_prefix (i + 1) log) hs' hs
  refine ⟨s', hs', ?_, ?_, rfl, ?_⟩
  · rw [replayWithState, walk_getElem?, hi, Option.map_some,
      follows_adminNextState.foldl_eq hs']
  · rw [recentEntries, List.getElem?_map, walk_getElem?, hi, Option.map_some, Option.map_some,
      follows_recentNextState.foldl_eq hs']
  · rw [EventBroadcaster.publicData, hrfq]

theorem feeds_agree_committedLog :
    (replayWithState committedLog)[4]?.map Prod.snd = some .negotiating := by
  obtain ⟨s, hs⟩ : ∃ s, deriveState committedLog = .ok (some s) := ⟨_, rfl⟩
  obtain ⟨s', hs', hreplay, -⟩ := feeds_agree hs (i := 4) rfl
  have hstate : ∃ s', deriveState (committedLog.take 5) = .ok (some s') ∧
      s'.state = .negotiating := ⟨_, rfl, rfl⟩
  obtain ⟨s'', hs'', hnegotiating⟩ := hstate
  obtain rfl : s' = s'' := by simpa using hs'.symm.trans hs''
  rw [hreplay, Option.map_some, hnegotiating]

end GhostBazaar.Engine
