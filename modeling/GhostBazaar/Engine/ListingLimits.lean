import GhostBazaar.Engine.AdminAuth
import GhostBazaar.Engine.RfqListing

/-! The limit on `GET /rfqs`. What the route forgets of the addresses that ask, and when, makes no
difference to its answers. -/
namespace GhostBazaar.Engine
open Js GhostBazaar.Core FixedWindow Transition

/-! ### The route -/

def GET_RFQS_WINDOW_MS : ℤ := 60000

def GET_RFQS_MAX_PER_IP : ℕ := 60

/-- `getRfqsRateByIp` without the windows that have run out, once it is large. -/
def evictRates (now : ℤ) (rates : JsMap JsString Window) : JsMap JsString Window :=
  if 2000 < rates.entries.length then rates.filter fun _ v => v.runs GET_RFQS_WINDOW_MS now
  else rates

/-- A window that opens, and a request that is refused, evict nothing. -/
def checkGetRfqsRateLimit (now : ℤ) (ip : JsString) (rates : JsMap JsString Window) :
    Bool × JsMap JsString Window :=
  match (rates.get? ip).filter (Window.runs GET_RFQS_WINDOW_MS now) with
  | none => (true, rates.set ip ⟨1, now⟩)
  | some entry =>
    if GET_RFQS_MAX_PER_IP ≤ entry.count then (false, rates)
    else (true, evictRates now (rates.set ip { entry with count := entry.count + 1 }))

/-- A request, with the sessions that it finds. -/
structure ListRequest (σ : Type) [InternalEventStore σ] where
  forwardedFor : Option JsString
  realIp : Option JsString
  serviceType : Option JsString
  state : Option JsString
  buyer : Option JsString
  includeTerminal : Option JsString
  limitParam : Option JsString
  offsetParam : Option JsString
  now : ℤ
  sessions : SessionManager σ

variable {σ : Type} [InternalEventStore σ]

def ListRequest.clientIp (r : ListRequest σ) : JsString :=
  AdminAuth.clientIpOf r.forwardedFor r.realIp

def rateLimited : EngineError :=
  ⟨429, js "rate_limited", js "Too many requests — try again later"⟩

def VALID_STATES : List SessionState :=
  [.open, .negotiating, .commitPending, .committed, .expired, .cancelled]

def invalidState (stateFilter : JsString) : EngineError :=
  ⟨400, js "invalid_state", js "Invalid state \"" ++ stateFilter ++ js "\". Valid: " ++
    List.intercalate (js ", ") (VALID_STATES.map SessionState.text)⟩

/-- The `state` filter, which names a state when `toUpperCase` has been applied to it. -/
def parseState (toUpperCase : JsString → JsString) : Option JsString →
    Handling (Option SessionState)
  | none => .ok none
  | some text => do
    let stateFilter := toUpperCase text
    let state ← orThrow (VALID_STATES.find? fun s => decide (s.text = stateFilter))
      (.refused (invalidState stateFilter))
    return some state

/-- The route within its limit. -/
def answerListing (toUpperCase : JsString → JsString) (locale : LocaleCompare)
    (r : ListRequest σ) : Handling RfqPage × SessionManager σ :=
  match parseState toUpperCase r.state with
  | .error failure => (.error failure, r.sessions)
  | .ok state =>
    let includeTerminal := decide (r.includeTerminal = some (js "true"))
    let query : RfqQuery := ⟨r.serviceType, state, r.buyer, includeTerminal⟩
    listRfqs locale r.now r.sessions query r.limitParam r.offsetParam

def listOrRefuse (toUpperCase : JsString → JsString) (locale : LocaleCompare) (allowed : Bool)
    (r : ListRequest σ) : Handling RfqPage × SessionManager σ :=
  if allowed then answerListing toUpperCase locale r
  else (.error (.refused rateLimited), r.sessions)

def getRfqs (toUpperCase : JsString → JsString) (locale : LocaleCompare)
    (rates : JsMap JsString Window) (r : ListRequest σ) :
    JsMap JsString Window × (Handling RfqPage × SessionManager σ) :=
  let (allowed, rates) := checkGetRfqsRateLimit r.now r.clientIp rates
  (rates, listOrRefuse toUpperCase locale allowed r)

/-- The route with every time at which an address was served, in place of its window. -/
def getRfqsOf (toUpperCase : JsString → JsString) (locale : LocaleCompare)
    (served : JsString → List ℤ) (r : ListRequest σ) :
    (JsString → List ℤ) × (Handling RfqPage × SessionManager σ) :=
  let allowed := decide (counted GET_RFQS_WINDOW_MS r.now
    (replay GET_RFQS_WINDOW_MS none (served r.clientIp)) < GET_RFQS_MAX_PER_IP)
  (if allowed then Function.update served r.clientIp (served r.clientIp ++ [r.now]) else served,
    listOrRefuse toUpperCase locale allowed r)

/-! ### What is forgotten -/

variable {toUpperCase : JsString → JsString} {locale : LocaleCompare}
  {rates : JsMap JsString Window} {served : JsString → List ℤ} {now clock : ℤ} {ip : JsString}

theorem checkGetRfqsRateLimit_allows : (checkGetRfqsRateLimit now ip rates).1 =
    decide (counted GET_RFQS_WINDOW_MS now (rates.get? ip) < GET_RFQS_MAX_PER_IP) := by
  unfold checkGetRfqsRateLimit counted
  cases (rates.get? ip).filter (Window.runs GET_RFQS_WINDOW_MS now) with
  | none => rfl
  | some entry =>
    by_cases hfull : GET_RFQS_MAX_PER_IP ≤ entry.count
    · simp [hfull, not_lt.mpr hfull]
    · simp [hfull, not_le.mp hfull]

theorem get?_evictRates (later : ℤ) (h : now ≤ later) (rates : JsMap JsString Window)
    (ip : JsString) :
    ((evictRates now rates).get? ip).filter (Window.runs GET_RFQS_WINDOW_MS later) =
      (rates.get? ip).filter (Window.runs GET_RFQS_WINDOW_MS later) := by
  unfold evictRates
  split_ifs
  · rw [JsMap.get?_filter]
    exact filter_filter_runs h _
  · rfl

/-- A check counts the request of its address, if it lets it pass; what it forgets has run out. -/
theorem get?_checkGetRfqsRateLimit {later : ℤ} (h : now ≤ later) (q : JsString) :
    ((checkGetRfqsRateLimit now ip rates).2.get? q).filter
        (Window.runs GET_RFQS_WINDOW_MS later) =
      (if q = ip ∧ (checkGetRfqsRateLimit now ip rates).1 = true then
        some (bump GET_RFQS_WINDOW_MS now (rates.get? ip)) else rates.get? q).filter
          (Window.runs GET_RFQS_WINDOW_MS later) := by
  unfold checkGetRfqsRateLimit bump
  cases (rates.get? ip).filter (Window.runs GET_RFQS_WINDOW_MS now) with
  | none => simp [JsMap.get?_set]
  | some entry =>
    by_cases hfull : GET_RFQS_MAX_PER_IP ≤ entry.count
    · simp [hfull]
    · simp only [hfull, if_false, and_true]
      rw [get?_evictRates later h, JsMap.get?_set]

/-- From a time on, the table says what the times say at which its addresses were served. -/
def Tells (clock : ℤ) (rates : JsMap JsString Window) (served : JsString → List ℤ) : Prop :=
  ∀ ip later, clock ≤ later → (rates.get? ip).filter (Window.runs GET_RFQS_WINDOW_MS later) =
    (replay GET_RFQS_WINDOW_MS none (served ip)).filter (Window.runs GET_RFQS_WINDOW_MS later)

theorem Tells.counted (h : Tells clock rates served) (hnow : clock ≤ now) (ip : JsString) :
    counted GET_RFQS_WINDOW_MS now (rates.get? ip) =
      counted GET_RFQS_WINDOW_MS now (replay GET_RFQS_WINDOW_MS none (served ip)) := by
  rw [FixedWindow.counted, h ip now hnow, FixedWindow.counted]

theorem Tells.getRfqs (h : Tells clock rates served) (toUpperCase : JsString → JsString)
    (locale : LocaleCompare) {r : ListRequest σ}
    (hr : clock ≤ r.now) :
    (getRfqs toUpperCase locale rates r).2 = (getRfqsOf toUpperCase locale served r).2 ∧
      Tells r.now (getRfqs toUpperCase locale rates r).1
        (getRfqsOf toUpperCase locale served r).1 := by
  have hallows : (checkGetRfqsRateLimit r.now r.clientIp rates).1 =
      decide (FixedWindow.counted GET_RFQS_WINDOW_MS r.now
        (replay GET_RFQS_WINDOW_MS none (served r.clientIp)) < GET_RFQS_MAX_PER_IP) := by
    rw [checkGetRfqsRateLimit_allows, h.counted hr]
  constructor
  · exact congrArg (listOrRefuse toUpperCase locale · r) hallows
  · intro q later hlater
    have hbump : bump GET_RFQS_WINDOW_MS r.now (rates.get? r.clientIp) =
        bump GET_RFQS_WINDOW_MS r.now (replay GET_RFQS_WINDOW_MS none (served r.clientIp)) := by
      rw [bump, h r.clientIp r.now hr, bump]
    refine (get?_checkGetRfqsRateLimit hlater q).trans ?_
    rw [getRfqsOf, ← hallows, hbump]
    by_cases hcounts : q = r.clientIp ∧ (checkGetRfqsRateLimit r.now r.clientIp rates).1 = true
    · obtain ⟨rfl, hallowed⟩ := hcounts
      simp [hallowed, replay_append_singleton]
    · rw [if_neg hcounts, h q later (hr.trans hlater)]
      dsimp only
      split_ifs with hallowed
      · rw [Function.update_of_ne fun hq => hcounts ⟨hq, hallowed⟩]
      · rfl

theorem Tells.respond (h : Tells clock rates served) {requests : List (ListRequest σ)}
    (hclock : (clock :: requests.map (·.now)).Pairwise (· ≤ ·)) :
    (respond (Engine.getRfqs toUpperCase locale) rates requests).2 =
        (respond (getRfqsOf toUpperCase locale) served requests).2 ∧
      ∀ now, clock ≤ now → (∀ r ∈ requests, r.now ≤ now) →
        Tells now (respond (Engine.getRfqs toUpperCase locale) rates requests).1
          (respond (getRfqsOf toUpperCase locale) served requests).1 := by
  induction requests generalizing clock rates served with
  | nil => exact ⟨rfl, fun now hnow _ ip later hlater => h ip later (hnow.trans hlater)⟩
  | cons r requests ih =>
    obtain ⟨hfirst, hrest⟩ := List.pairwise_cons.mp hclock
    obtain ⟨hanswer, hnext⟩ := h.getRfqs toUpperCase locale (hfirst r.now (by simp))
    obtain ⟨hanswers, htells⟩ := ih hnext hrest
    refine ⟨?_, fun now _ hlast => ?_⟩
    · rw [Transition.respond, Transition.respond, hanswer, hanswers]
    · exact htells now (hlast r (by simp)) fun other hother => hlast other (by simp [hother])

theorem tells_empty (clock : ℤ) : Tells clock .empty fun _ => [] := fun _ _ _ => rfl

/-- From the first request on. -/
theorem clocked_cons {r : ListRequest σ} {requests : List (ListRequest σ)}
    (hclock : ((r :: requests).map (·.now)).Pairwise (· ≤ ·)) :
    (r.now :: (r :: requests).map (·.now)).Pairwise (· ≤ ·) := by
  refine List.pairwise_cons.mpr ⟨fun t ht => ?_, hclock⟩
  rcases List.mem_cons.mp ht with rfl | ht
  · exact le_rfl
  · exact (List.pairwise_cons.mp hclock).1 t ht

/-- Whatever sessions the requests find, the answers are those of a route that keeps every time at
which it has served an address. -/
theorem getRfqs_answers (toUpperCase : JsString → JsString) (locale : LocaleCompare)
    (requests : List (ListRequest σ))
    (hclock : (requests.map (·.now)).Pairwise (· ≤ ·)) :
    (respond (getRfqs toUpperCase locale) .empty requests).2 =
      (respond (getRfqsOf toUpperCase locale) (fun _ => []) requests).2 := by
  cases requests with
  | nil => rfl
  | cons r requests => exact ((tells_empty r.now).respond (clocked_cons hclock)).1

/-- `toUpperCase` on the letters from `a` to `z`. -/
def letterUpper (s : JsString) : JsString :=
  s.map fun u => if 97 ≤ u.val ∧ u.val ≤ 122 then u - 32 else u

/-- A request of a sample address, before there are sessions. -/
def sampleAsk (now : ℤ) : ListRequest InMemoryEventStore where
  forwardedFor := some (js " 10.0.0.7 , 10.0.0.1")
  realIp := none
  serviceType := none
  state := some (js "open")
  buyer := none
  includeTerminal := none
  limitParam := none
  offsetParam := some (js "-1")
  now := now
  sessions := EngineState.empty.manager

theorem getRfqs_answers_sample :
    (respond (getRfqs letterUpper unitOrder) .empty [sampleAsk 1, sampleAsk 60002]).2 =
      (respond (getRfqsOf letterUpper unitOrder) (fun _ => []) [sampleAsk 1, sampleAsk 60002]).2 :=
  getRfqs_answers letterUpper unitOrder [sampleAsk 1, sampleAsk 60002] (by decide)

/-! ### How often an address is served -/

def isRateLimited : Handling RfqPage → Bool
  | .error (.refused error) => decide (error.code = js "rate_limited")
  | _ => false

/-- A parameter that does not pass its check is called invalid. -/
theorem isRateLimited_of_require {valid : Prop} [Decidable valid] {message : JsString} {n : ℕ}
    {failure : Failure EngineError}
    (h : (do
      require valid (invalidParam message)
      return n : Handling ℕ) = .error failure) : isRateLimited (.error failure) = false := by
  have hcodes : js "invalid_param" ≠ js "rate_limited" := by decide +kernel
  simp only [require, bind_eq_error, ensure_eq_error] at h
  rcases h with ⟨-, rfl⟩ | ⟨-, -, hpure⟩
  · exact decide_eq_false hcodes
  · cases hpure

theorem isRateLimited_listRfqs (now : ℤ) (m : SessionManager σ) (q : RfqQuery)
    (limitParam offsetParam : Option JsString) :
    isRateLimited (listRfqs locale now m q limitParam offsetParam).1 = false := by
  have hlimit : ∀ failure, parseLimit limitParam = .error failure →
      isRateLimited (.error failure) = false := by
    intro failure hfailure
    cases limitParam with
    | none => cases hfailure
    | some text => exact isRateLimited_of_require hfailure
  have hoffset : ∀ failure, parseOffset offsetParam = .error failure →
      isRateLimited (.error failure) = false := by
    intro failure hfailure
    cases offsetParam with
    | none => cases hfailure
    | some text => exact isRateLimited_of_require hfailure
  unfold listRfqs
  split
  · split <;> rfl
  · exact hlimit _ ‹_›
  · exact hoffset _ ‹_›

theorem isRateLimited_answerListing (r : ListRequest σ) :
    isRateLimited (answerListing toUpperCase locale r).1 = false := by
  have hcodes : js "invalid_state" ≠ js "rate_limited" := by decide +kernel
  unfold answerListing
  split
  · rename_i failure hfailure
    cases hstate : r.state with
    | none =>
      rw [hstate] at hfailure
      cases hfailure
    | some text =>
      simp only [hstate, parseState, bind_eq_error, orThrow_eq_error] at hfailure
      rcases hfailure with ⟨-, rfl⟩ | ⟨_, -, hpure⟩
      · exact decide_eq_false hcodes
      · cases hpure
  · exact isRateLimited_listRfqs _ _ _ _ _

theorem isRateLimited_listOrRefuse (allowed : Bool) (r : ListRequest σ) :
    isRateLimited (listOrRefuse toUpperCase locale allowed r).1 = !allowed := by
  cases allowed with
  | true => exact isRateLimited_answerListing r
  | false =>
    have hlimited : isRateLimited (.error (.refused rateLimited)) = true := by decide +kernel
    exact hlimited

/-- The times at which an address was not refused for its rate. -/
def timesServed (ip : JsString) (requests : List (ListRequest σ))
    (answers : List (Handling RfqPage × SessionManager σ)) : List ℤ :=
  ((requests.zip answers).filter fun p =>
    decide (p.1.clientIp = ip) && !isRateLimited p.2.1).map (·.1.now)

theorem timesServed_cons (ip : JsString) (r : ListRequest σ) (requests : List (ListRequest σ))
    (answer : Handling RfqPage × SessionManager σ)
    (answers : List (Handling RfqPage × SessionManager σ)) :
    timesServed ip (r :: requests) (answer :: answers) =
      (if r.clientIp = ip ∧ isRateLimited answer.1 = false then [r.now] else []) ++
        timesServed ip requests answers := by
  unfold timesServed
  rw [List.zip_cons_cons, List.filter_cons]
  split_ifs <;> simp_all

/-- The list of an address holds the times at which it was served. -/
theorem respond_served (served : JsString → List ℤ) (requests : List (ListRequest σ))
    (ip : JsString) : (respond (getRfqsOf toUpperCase locale) served requests).1 ip = served ip ++
      timesServed ip requests (respond (getRfqsOf toUpperCase locale) served requests).2 := by
  induction requests generalizing served with
  | nil => simp [respond, timesServed]
  | cons r requests ih =>
    rw [respond, timesServed_cons, ih, ← List.append_assoc]
    refine congrArg (· ++ _) ?_
    rw [getRfqsOf, isRateLimited_listOrRefuse]
    by_cases hip : r.clientIp = ip
    · subst hip
      by_cases hallowed : counted GET_RFQS_WINDOW_MS r.now
          (replay GET_RFQS_WINDOW_MS none (served r.clientIp)) < GET_RFQS_MAX_PER_IP <;>
        simp [hallowed]
    · simp only [hip, false_and, if_false, List.append_nil]
      split_ifs
      · exact Function.update_of_ne (Ne.symm hip) _ _
      · rfl

theorem getRfqsOf_paced (toUpperCase : JsString → JsString) (locale : LocaleCompare)
    (served : JsString → List ℤ)
    (h : ∀ ip, Paced GET_RFQS_WINDOW_MS GET_RFQS_MAX_PER_IP none (served ip))
    (requests : List (ListRequest σ)) (ip : JsString) :
    Paced GET_RFQS_WINDOW_MS GET_RFQS_MAX_PER_IP none
      ((respond (getRfqsOf toUpperCase locale) served requests).1 ip) := by
  induction requests generalizing served with
  | nil => exact h ip
  | cons r requests ih =>
    refine ih _ fun q => ?_
    unfold getRfqsOf
    dsimp only
    split_ifs with hallowed
    · rw [Function.update_apply]
      split_ifs
      · exact Paced.append_singleton.mpr ⟨h r.clientIp, of_decide_eq_true hallowed⟩
      · exact h q
    · exact h q

theorem timesServed_sublist (ip : JsString) (requests : List (ListRequest σ))
    (answers : List (Handling RfqPage × SessionManager σ)) :
    (timesServed ip requests answers).Sublist (requests.map (·.now)) := by
  induction requests generalizing answers with
  | nil => simp [timesServed]
  | cons r requests ih =>
    cases answers with
    | nil => simp [timesServed]
    | cons answer answers =>
      rw [timesServed_cons, List.map_cons]
      split_ifs
      · exact (ih answers).cons_cons r.now
      · exact (ih answers).cons r.now

/-- However the requests are spread, an address is served less than twice the limit within a
minute. -/
theorem listings_in_minute (toUpperCase : JsString → JsString) (locale : LocaleCompare)
    (requests : List (ListRequest σ))
    (hclock : (requests.map (·.now)).Pairwise (· ≤ ·)) (ip : JsString) (first : ℤ) :
    ((timesServed ip requests (respond (getRfqs toUpperCase locale) .empty requests).2).filter
      (within GET_RFQS_WINDOW_MS first)).length ≤ 119 := by
  have hpaced := getRfqsOf_paced toUpperCase locale (fun _ => []) (fun _ => trivial) requests ip
  rw [respond_served, List.nil_append, ← getRfqs_answers _ locale requests hclock] at hpaced
  exact hpaced.length_filter_le (hclock.sublist (timesServed_sublist ip requests _)) first

theorem listings_in_minute_sample :
    ((timesServed (js "10.0.0.7") [sampleAsk 1, sampleAsk 60002]
      (respond (getRfqs letterUpper unitOrder) .empty [sampleAsk 1, sampleAsk 60002]).2).filter
        (within GET_RFQS_WINDOW_MS 2)).length ≤ 119 :=
  listings_in_minute letterUpper unitOrder [sampleAsk 1, sampleAsk 60002] (by decide) _ 2

/-- An address that is refused has been served as often as the limit within the last minute. -/
theorem refused_after_limit (toUpperCase : JsString → JsString) (locale : LocaleCompare)
    (requests : List (ListRequest σ))
    (r : ListRequest σ) (hclock : ((requests ++ [r]).map (·.now)).Pairwise (· ≤ ·))
    (hrefused : isRateLimited (getRfqs toUpperCase locale
      (respond (getRfqs toUpperCase locale) .empty requests).1 r).2.1 = true) :
    GET_RFQS_MAX_PER_IP ≤
      ((timesServed r.clientIp requests
        (respond (getRfqs toUpperCase locale) .empty requests).2).filter
        fun t => decide (r.now - GET_RFQS_WINDOW_MS ≤ t)).length := by
  rw [List.map_append, List.pairwise_append] at hclock
  obtain ⟨hsorted, -, hlast⟩ := hclock
  have htells : Tells r.now (respond (getRfqs toUpperCase locale) .empty requests).1
      (respond (getRfqsOf toUpperCase locale) (fun _ => []) requests).1 := by
    cases requests with
    | nil => exact tells_empty r.now
    | cons first requests =>
      have hbefore : ∀ other ∈ first :: requests, other.now ≤ r.now := fun other hother =>
        hlast _ (List.mem_map_of_mem hother) _ (by simp)
      exact ((tells_empty first.now).respond (clocked_cons hsorted)).2 r.now
        (hbefore first (by simp)) hbefore
  have hfull : GET_RFQS_MAX_PER_IP ≤ counted GET_RFQS_WINDOW_MS r.now
      (replay GET_RFQS_WINDOW_MS none
        ((respond (getRfqsOf toUpperCase locale) (fun _ => []) requests).1 r.clientIp)) := by
    rw [(htells.getRfqs _ locale le_rfl).1, getRfqsOf, isRateLimited_listOrRefuse] at hrefused
    simpa using hrefused
  rw [respond_served, List.nil_append, ← getRfqs_answers _ locale requests hsorted] at hfull
  exact hfull.trans (counted_replay_le
    (hsorted.sublist (timesServed_sublist r.clientIp requests _)) r.now)

theorem refused_after_limit_sample : GET_RFQS_MAX_PER_IP ≤
    ((timesServed (js "10.0.0.7") (List.replicate 60 (sampleAsk 1))
      (respond (getRfqs letterUpper unitOrder) .empty (List.replicate 60 (sampleAsk 1))).2).filter
        fun t => decide (60001 - GET_RFQS_WINDOW_MS ≤ t)).length :=
  refused_after_limit letterUpper unitOrder (List.replicate 60 (sampleAsk 1)) (sampleAsk 60001)
    (by decide +kernel) (by decide +kernel)

end GhostBazaar.Engine
