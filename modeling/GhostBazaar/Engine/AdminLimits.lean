import GhostBazaar.Engine.AdminSessions

/-! How many passwords an address can try: over any history of requests, the counter of an address
says what its own failures make it say, whatever is forgotten and whatever others try. -/
namespace GhostBazaar.Engine
open Js GhostBazaar.Core FixedWindow

namespace AdminRequest

/-- The address and the password of a login. -/
def attempt : AdminRequest → Option (JsString × JsString)
  | .login forwardedFor realIp body _ _ =>
    match AdminAuth.passwordOf body with
    | .ok password => some (AdminAuth.clientIpOf forwardedFor realIp, password)
    | .error _ => none
  | .access _ _ => none
  | .logout _ _ => none

end AdminRequest

namespace AdminAuth

variable {env : AdminEnv} {a : AdminAuth} {now : ℤ} {ip : JsString}

/-- What comparing the password of a request from this address says, where it is compared. -/
def verdict (env : AdminEnv) (a : AdminAuth) (ip : JsString) (r : AdminRequest) : Option Bool :=
  match env.adminToken.filter fun t => !t.isEmpty, r.attempt with
  | some token, some (address, password) =>
    if address = ip ∧ (a.checkLoginRateLimit r.now ip).1 then some (safeCompare env password token)
    else none
  | _, _ => none

/-- The times of the failures of an address, after one more request. -/
def failuresAfter (env : AdminEnv) (a : AdminAuth) (ip : JsString) (failed : List ℤ)
    (r : AdminRequest) : List ℤ :=
  match a.verdict env ip r with
  | none => failed
  | some true => []
  | some false => failed ++ [r.now]

/-- The times at which an address has failed since it last succeeded. -/
def failures (env : AdminEnv) (ip : JsString) (started : ℤ) (requests : List AdminRequest) :
    List ℤ :=
  (requests.foldl (fun s r => (s.1.handle env r, s.1.failuresAfter env ip s.2 r))
    (initial started, [])).2

/-! ### One request -/

@[simp] theorem checkLoginRateLimit_loginAttemptsByIp (ip : JsString) :
    (a.checkLoginRateLimit now ip).2.loginAttemptsByIp = a.loginAttemptsByIp := by
  unfold checkLoginRateLimit resetGlobal
  dsimp only
  split_ifs <;> rfl

theorem get?_pruneAttempts (attempts : JsMap JsString Window) (ip : JsString) :
    (pruneAttempts now attempts).get? ip = attempts.get? ip ∨
    (pruneAttempts now attempts).get? ip =
      (attempts.get? ip).filter (Window.runs LOGIN_WINDOW_MS now) := by
  unfold pruneAttempts
  split_ifs
  · exact .inr (JsMap.get?_filter _ _ _)
  · exact .inl rfl

/-- The counter of an address, after a request of which the comparison said this. -/
def counterAfter (now : ℤ) (w : Option Window) : Option Bool → Option Window
  | none => w
  | some true => none
  | some false => some (bump LOGIN_WINDOW_MS now w)

theorem handleLogin_attempts (password address : JsString) (bytes : Digest) {token : JsString}
    (htoken : env.adminToken.filter (fun t => !t.isEmpty) = some token) :
    (a.handleLogin env password address now bytes).2.loginAttemptsByIp =
      if (a.checkLoginRateLimit now address).1 then
        if safeCompare env password token then a.loginAttemptsByIp.delete address
        else pruneAttempts now (a.loginAttemptsByIp.set address
          (bump LOGIN_WINDOW_MS now (a.loginAttemptsByIp.get? address)))
      else a.loginAttemptsByIp := by
  unfold handleLogin
  rw [htoken]
  dsimp only
  cases (a.checkLoginRateLimit now address).1 with
  | false => simp
  | true =>
    cases safeCompare env password token with
    | false => simp [recordFailedLogin]
    | true =>
      simp only [Bool.not_true, Bool.false_eq_true, if_false, if_true]
      split_ifs <;> simp [sweepExpiredSessions, clearLoginAttempts]

theorem requireAdminAuth_loginAttemptsByIp (cookies : Option JsString) :
    (a.requireAdminAuth env cookies now).2.loginAttemptsByIp = a.loginAttemptsByIp := by
  unfold requireAdminAuth
  cases env.adminToken.filter fun t => !t.isEmpty with
  | none => rfl
  | some token =>
    cases cookieToken cookies with
    | none => rfl
    | some tok =>
      dsimp only
      split <;> rfl

theorem handleLogout_loginAttemptsByIp (cookies : Option JsString) :
    (a.handleLogout cookies).loginAttemptsByIp = a.loginAttemptsByIp := by
  unfold handleLogout
  split <;> rfl

theorem verdict_of_unconfigured (h : env.adminToken.filter (fun t => !t.isEmpty) = none)
    (r : AdminRequest) : a.verdict env ip r = none := by
  rw [verdict, h]

theorem verdict_of_noAttempt {r : AdminRequest} (h : r.attempt = none) :
    a.verdict env ip r = none := by
  rw [verdict, h]
  cases env.adminToken.filter fun t => !t.isEmpty <;> rfl

theorem verdict_of_attempt {r : AdminRequest} {token address password : JsString}
    (htoken : env.adminToken.filter (fun t => !t.isEmpty) = some token)
    (h : r.attempt = some (address, password)) :
    a.verdict env ip r = if address = ip ∧ (a.checkLoginRateLimit r.now ip).1 then
      some (safeCompare env password token) else none := by
  rw [verdict, htoken, h]

/-- Requests of other addresses do nothing to the counter of this one but forget a window that has
run out. -/
theorem attempts_handle (env : AdminEnv) (ip : JsString) (a : AdminAuth) (r : AdminRequest) :
    (a.handle env r).loginAttemptsByIp.get? ip =
      counterAfter r.now (a.loginAttemptsByIp.get? ip) (a.verdict env ip r) ∨
    (a.handle env r).loginAttemptsByIp.get? ip =
      (counterAfter r.now (a.loginAttemptsByIp.get? ip) (a.verdict env ip r)).filter
        (Window.runs LOGIN_WINDOW_MS r.now) := by
  cases r with
  | login forwardedFor realIp body now bytes =>
    rw [handle, postLogin]
    cases hpassword : passwordOf body with
    | error failure =>
      rw [verdict_of_noAttempt (by rw [AdminRequest.attempt, hpassword])]
      exact .inl rfl
    | ok password =>
      dsimp only
      cases htoken : env.adminToken.filter fun t => !t.isEmpty with
      | none =>
        rw [verdict_of_unconfigured htoken]
        exact .inl (by rw [handleLogin, htoken]; rfl)
      | some token =>
        rw [handleLogin_attempts password _ bytes htoken,
          verdict_of_attempt htoken (by rw [AdminRequest.attempt, hpassword]), AdminRequest.now]
        by_cases hip : clientIpOf forwardedFor realIp = ip
        · rw [hip]
          cases (a.checkLoginRateLimit now ip).1 with
          | false => exact .inl (by simp [counterAfter])
          | true =>
            cases safeCompare env password token with
            | true => exact .inl (by simp [counterAfter, JsMap.get?_delete])
            | false => simpa [counterAfter] using get?_pruneAttempts (a.loginAttemptsByIp.set ip
                (bump LOGIN_WINDOW_MS now (a.loginAttemptsByIp.get? ip))) ip
        · simp only [hip, false_and, if_false, counterAfter]
          split_ifs
          · exact .inl (by rw [JsMap.get?_delete, if_neg (Ne.symm hip)])
          · have hother := JsMap.get?_set a.loginAttemptsByIp (clientIpOf forwardedFor realIp) ip
              (bump LOGIN_WINDOW_MS now
                (a.loginAttemptsByIp.get? (clientIpOf forwardedFor realIp)))
            rw [if_neg (Ne.symm hip)] at hother
            rw [← hother]
            exact get?_pruneAttempts _ ip
          · exact .inl rfl
  | access cookies now =>
    rw [verdict_of_noAttempt rfl, handle, requireAdminAuth_loginAttemptsByIp]
    exact .inl rfl
  | logout cookies now =>
    rw [verdict_of_noAttempt rfl, handle, handleLogout_loginAttemptsByIp]
    exact .inl rfl

/-! ### A history of requests -/

variable {started : ℤ} {requests : List AdminRequest}

theorem foldl_serve (requests : List AdminRequest) :
    (requests.foldl (fun s r => (s.1.handle env r, s.1.failuresAfter env ip s.2 r)) (a, [])).1 =
      a.serve env requests := by
  induction requests using List.reverseRecOn with
  | nil => rfl
  | append_singleton requests r ih => rw [List.foldl_append, List.foldl_cons, List.foldl_nil, ih,
      serve_append_singleton]

theorem failures_append_singleton (r : AdminRequest) :
    failures env ip started (requests ++ [r]) = ((initial started).serve env requests).failuresAfter
      env ip (failures env ip started requests) r := by
  rw [failures, List.foldl_append, List.foldl_cons, List.foldl_nil, foldl_serve]
  rfl

theorem mem_failures {t : ℤ} (ht : t ∈ failures env ip started requests) :
    t ∈ requests.map AdminRequest.now := by
  induction requests using List.reverseRecOn with
  | nil => exact ht
  | append_singleton requests r ih =>
    rw [failures_append_singleton, failuresAfter] at ht
    rw [List.map_append, List.mem_append]
    split at ht
    · exact .inl (ih ht)
    · simp at ht
    · exact (List.mem_append.mp ht).imp ih (by simpa using ·)

theorem failures_sorted (hclock : (requests.map AdminRequest.now).Pairwise (· ≤ ·)) :
    (failures env ip started requests).Pairwise (· ≤ ·) := by
  induction requests using List.reverseRecOn with
  | nil => exact List.Pairwise.nil
  | append_singleton requests r ih =>
    rw [List.map_append, List.pairwise_append] at hclock
    rw [failures_append_singleton, failuresAfter]
    split
    · exact ih hclock.1
    · exact List.Pairwise.nil
    · exact List.pairwise_append.mpr ⟨ih hclock.1, List.pairwise_singleton ..,
        fun t ht => hclock.2.2 t (mem_failures ht)⟩

/-- From now on, the counter of an address is what its failures make it. -/
theorem attempts_serve (hclock : (requests.map AdminRequest.now ++ [now]).Pairwise (· ≤ ·)) :
    (((initial started).serve env requests).loginAttemptsByIp.get? ip).filter
        (Window.runs LOGIN_WINDOW_MS now) =
      (replay LOGIN_WINDOW_MS none (failures env ip started requests)).filter
        (Window.runs LOGIN_WINDOW_MS now) := by
  induction requests using List.reverseRecOn generalizing now with
  | nil => rfl
  | append_singleton requests r ih =>
    rw [List.map_append, List.pairwise_append] at hclock
    obtain ⟨hinit, -, hlast⟩ := hclock
    have hr : r.now ≤ now := hlast _ (by simp) now (List.mem_singleton_self now)
    have hold := ih hinit
    have hcounter : (counterAfter r.now
          (((initial started).serve env requests).loginAttemptsByIp.get? ip)
          (((initial started).serve env requests).verdict env ip r)).filter
          (Window.runs LOGIN_WINDOW_MS now) =
        (replay LOGIN_WINDOW_MS none (((initial started).serve env requests).failuresAfter env ip
          (failures env ip started requests) r)).filter (Window.runs LOGIN_WINDOW_MS now) := by
      unfold failuresAfter
      cases ((initial started).serve env requests).verdict env ip r with
      | none => rw [counterAfter, ← filter_filter_runs hr, hold, filter_filter_runs hr]
      | some right =>
        cases right with
        | true => rfl
        | false =>
          rw [replay_append_singleton, counterAfter, ← bump_filter_runs (le_refl r.now), hold,
            bump_filter_runs (le_refl r.now)]
    rw [serve_append_singleton, failures_append_singleton, ← hcounter]
    obtain hnext | hnext := attempts_handle env ip ((initial started).serve env requests) r
    · rw [hnext]
    · rw [hnext, filter_filter_runs hr]

theorem counted_serve (hclock : (requests.map AdminRequest.now ++ [now]).Pairwise (· ≤ ·)) :
    counted LOGIN_WINDOW_MS now
        (((initial started).serve env requests).loginAttemptsByIp.get? ip) =
      counted LOGIN_WINDOW_MS now
        (replay LOGIN_WINDOW_MS none (failures env ip started requests)) := by
  rw [counted, attempts_serve hclock, counted]

theorem checkLoginRateLimit_iff : (a.checkLoginRateLimit now ip).1 = true ↔
    counted LOGIN_WINDOW_MS now (a.loginAttemptsByIp.get? ip) < MAX_LOGIN_ATTEMPTS_PER_IP ∧
    ((a.resetGlobal now).globalLogin.count < MAX_LOGIN_ATTEMPTS_GLOBAL ∨
      counted LOGIN_WINDOW_MS now (a.loginAttemptsByIp.get? ip) = 0) := by
  have hkeep : (a.resetGlobal now).loginAttemptsByIp = a.loginAttemptsByIp := by
    unfold resetGlobal
    split_ifs <;> rfl
  unfold checkLoginRateLimit
  dsimp only
  rw [hkeep]
  split_ifs with hown hglobal
  · exact iff_of_false (by simp) fun h => not_le.mpr h.1 hown
  · refine iff_of_false (by simp) ?_
    rintro ⟨-, hfew | hnone⟩
    · exact not_le.mpr hfew hglobal.1
    · omega
  · refine iff_of_true rfl ⟨not_le.mp hown, ?_⟩
    rw [not_and_or, not_le, not_lt, Nat.le_zero] at hglobal
    exact hglobal

theorem verdict_false {r : AdminRequest} (h : a.verdict env ip r = some false) :
    (a.checkLoginRateLimit r.now ip).1 = true := by
  unfold verdict at h
  split at h
  · split_ifs at h with hallowed
    exact hallowed.2
  · cases h

/-- Each failure came when the counter was below the limit. -/
theorem failures_paced (hclock : (requests.map AdminRequest.now).Pairwise (· ≤ ·)) :
    Paced LOGIN_WINDOW_MS MAX_LOGIN_ATTEMPTS_PER_IP none (failures env ip started requests) := by
  induction requests using List.reverseRecOn with
  | nil => exact trivial
  | append_singleton requests r ih =>
    rw [List.map_append, List.map_singleton] at hclock
    have hold := ih (List.pairwise_append.mp hclock).1
    rw [failures_append_singleton, failuresAfter]
    cases hverdict : ((initial started).serve env requests).verdict env ip r with
    | none => exact hold
    | some right =>
      cases right with
      | true => exact trivial
      | false =>
        rw [Paced.append_singleton, ← counted_serve hclock]
        exact ⟨hold, (checkLoginRateLimit_iff.mp (verdict_false hverdict)).1⟩

/-- However its logins are spread and whatever other addresses do, an address fails no more than
nine times within a minute. -/
theorem failures_in_minute (env : AdminEnv) (ip : JsString) (started first : ℤ)
    (requests : List AdminRequest)
    (hclock : (requests.map AdminRequest.now).Pairwise (· ≤ ·)) :
    ((failures env ip started requests).filter (within LOGIN_WINDOW_MS first)).length ≤ 9 :=
  (failures_paced hclock).length_filter_le (failures_sorted hclock) first

/-- A password that is tried five times, too often once more, and again when the window is over. -/
def sampleGuess (now : ℤ) : AdminRequest :=
  .login (some (js " 10.0.0.7 , 10.0.0.1")) none (some (samplePassword (js "hunter2"))) now
    sampleToken

theorem failures_in_minute_guesses : ((failures samplePanel (js "10.0.0.7") 1000
      [sampleGuess 2000, sampleGuess 60000, sampleGuess 60000, sampleGuess 60000, sampleGuess 60000,
        sampleGuess 60001, sampleGuess 62001, sampleGuess 62001]).filter
      (within LOGIN_WINDOW_MS 2001)).length ≤ 9 :=
  failures_in_minute samplePanel _ _ _ _ (by decide)

theorem handleLogin_rateLimited {password : JsString} {bytes : Digest}
    (h : (a.handleLogin env password ip now bytes).1 = .rateLimited) :
    (a.checkLoginRateLimit now ip).1 = false := by
  unfold handleLogin at h
  split at h
  · cases h
  · dsimp only at h
    split_ifs at h with hallowed
    simpa using hallowed

/-- An address is not limited for what others did: it has failed itself in the last minute. -/
theorem rateLimited_of_failures (env : AdminEnv) (ip : JsString) (started now : ℤ)
    (requests : List AdminRequest) (password : JsString) (bytes : Digest)
    (hclock : (requests.map AdminRequest.now ++ [now]).Pairwise (· ≤ ·))
    (hlimited : (((initial started).serve env requests).handleLogin env password ip now bytes).1 =
      .rateLimited) :
    ∃ t ∈ failures env ip started requests, now - LOGIN_WINDOW_MS ≤ t := by
  have hrefused := handleLogin_rateLimited hlimited
  rw [← Bool.not_eq_true, checkLoginRateLimit_iff, counted_serve hclock] at hrefused
  have hsome : 0 < counted LOGIN_WINDOW_MS now
      (replay LOGIN_WINDOW_MS none (failures env ip started requests)) := by
    rw [Nat.pos_iff_ne_zero]
    intro hzero
    exact hrefused ⟨by rw [hzero]; decide, .inr hzero⟩
  have hsorted : (failures env ip started requests).Pairwise (· ≤ ·) :=
    failures_sorted (List.pairwise_append.mp hclock).1
  have hcount := hsome.trans_le (counted_replay_le hsorted now)
  obtain ⟨t, ht⟩ := List.exists_mem_of_length_pos hcount
  rw [List.mem_filter, decide_eq_true_eq] at ht
  exact ⟨t, ht⟩

theorem rateLimited_of_failures_guesses : ∃ t ∈ failures samplePanel (js "10.0.0.7") 1000
      [sampleGuess 2000, sampleGuess 2000, sampleGuess 2000, sampleGuess 2000, sampleGuess 3000],
    (62000 : ℤ) - LOGIN_WINDOW_MS ≤ t :=
  rateLimited_of_failures samplePanel (js "10.0.0.7") 1000 62000 _ (js "open sesame") sampleToken
    (by decide) rfl

end AdminAuth
end GhostBazaar.Engine
