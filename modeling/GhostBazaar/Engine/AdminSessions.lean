import GhostBazaar.Engine.AdminAuth

/-! Who is logged in to the admin panel: over any history of requests, the tokens that are accepted
are those of the logins that have neither run out nor been logged out. -/
namespace GhostBazaar.Engine
open Js GhostBazaar.Core FixedWindow
namespace AdminAuth

variable {env : AdminEnv} {a : AdminAuth} {now : ℤ} {sessionToken : JsString}

/-- The session of the token lasts until `now`. -/
def Live (a : AdminAuth) (sessionToken : JsString) (now : ℤ) : Prop :=
  ∃ exp, a.activeSessions.get? sessionToken = some exp ∧ now ≤ exp

/-- No session lasts longer than one that is opened at `now`. -/
def Bounded (a : AdminAuth) (now : ℤ) : Prop :=
  ∀ sessionToken exp, a.activeSessions.get? sessionToken = some exp → exp ≤ now + SESSION_MAX_AGE * 1000

/-! ### One request -/

theorem live_sweep {t : ℤ} (ht : t ≤ now) :
    (a.sweepExpiredSessions t).Live sessionToken now ↔ a.Live sessionToken now := by
  simp only [Live, sweepExpiredSessions, JsMap.get?_filter, Option.filter_eq_some_iff,
    decide_eq_true_eq]
  constructor
  · rintro ⟨exp, ⟨hget, -⟩, hle⟩
    exact ⟨exp, hget, hle⟩
  · rintro ⟨exp, hget, hle⟩
    exact ⟨exp, ⟨hget, by omega⟩, hle⟩

theorem live_delete {b : AdminAuth} {other : JsString}
    (hdelete : b.activeSessions = a.activeSessions.delete other) :
    b.Live sessionToken now ↔ a.Live sessionToken now ∧ other ≠ sessionToken := by
  simp only [Live, hdelete, JsMap.get?_delete]
  split_ifs with h
  · simp [h]
  · simp [Ne.symm h]

theorem live_set {b : AdminAuth} {other : JsString} {exp : ℤ}
    (hset : b.activeSessions = a.activeSessions.set other exp)
    (hexp : ∀ e, a.activeSessions.get? sessionToken = some e → e ≤ exp) :
    b.Live sessionToken now ↔
      (other = sessionToken ∧ now ≤ exp) ∨ a.Live sessionToken now := by
  simp only [Live, hset, JsMap.get?_set]
  split_ifs with h
  · subst h
    simp only [true_and, Option.some.injEq, exists_eq_left']
    constructor
    · exact Or.inl
    · rintro (hle | ⟨e, hget, hle⟩)
      · exact hle
      · exact hle.trans (hexp e hget)
  · simp [Ne.symm h]

@[simp] theorem checkLoginRateLimit_activeSessions (ip : JsString) :
    (a.checkLoginRateLimit now ip).2.activeSessions = a.activeSessions := by
  unfold checkLoginRateLimit resetGlobal
  dsimp only
  split_ifs <;> rfl

/-- What a login does to the sessions. -/
theorem handleLogin_cases (env : AdminEnv) (password ip : JsString) (now : ℤ) (bytes : Digest)
    (a : AdminAuth) :
    ((a.handleLogin env password ip now bytes).1 =
        .cookie (sessionCookieValue (hexText bytes.bytes)) ∧
      (a.sweepExpiredSessions now).activeSessions.entries.length < MAX_ACTIVE_SESSIONS ∧
      (a.handleLogin env password ip now bytes).2.activeSessions =
        (a.sweepExpiredSessions now).activeSessions.set (hexText bytes.bytes)
          (now + SESSION_MAX_AGE * 1000)) ∨
    ((∀ value, (a.handleLogin env password ip now bytes).1 ≠ .cookie value) ∧
      ((a.handleLogin env password ip now bytes).2.activeSessions = a.activeSessions ∨
       (a.handleLogin env password ip now bytes).2.activeSessions =
        (a.sweepExpiredSessions now).activeSessions)) := by
  unfold handleLogin
  cases env.adminToken.filter fun t => !t.isEmpty with
  | none => exact .inr ⟨by simp, .inl rfl⟩
  | some token =>
    have hkeep : (a.checkLoginRateLimit now ip).2.activeSessions = a.activeSessions :=
      checkLoginRateLimit_activeSessions ip
    dsimp only
    split_ifs with hallowed hcompare hfull
    · exact .inr ⟨by simp, .inl hkeep⟩
    · exact .inr ⟨by simp, .inl hkeep⟩
    · refine .inr ⟨by simp, .inr ?_⟩
      simp only [sweepExpiredSessions, clearLoginAttempts, hkeep]
    · refine .inl ⟨rfl, ?_, ?_⟩
      · simpa only [sweepExpiredSessions, clearLoginAttempts, hkeep, not_le] using hfull
      · simp only [sweepExpiredSessions, clearLoginAttempts, hkeep]

theorem sessionCookieValue_injective {token other : JsString}
    (h : sessionCookieValue token = sessionCookieValue other) : token = other := by
  simpa [sessionCookieValue] using h

theorem postLogin_cases (env : AdminEnv) (forwardedFor realIp : Option JsString)
    (body : Option Json) (now : ℤ) (bytes : Digest) (a : AdminAuth) :
    ((a.postLogin env forwardedFor realIp body now bytes).1 =
        .ok (sessionCookieValue (hexText bytes.bytes)) ∧
      (a.sweepExpiredSessions now).activeSessions.entries.length < MAX_ACTIVE_SESSIONS ∧
      (a.postLogin env forwardedFor realIp body now bytes).2.activeSessions =
        (a.sweepExpiredSessions now).activeSessions.set (hexText bytes.bytes)
          (now + SESSION_MAX_AGE * 1000)) ∨
    ((∀ value, (a.postLogin env forwardedFor realIp body now bytes).1 ≠ .ok value) ∧
      ((a.postLogin env forwardedFor realIp body now bytes).2.activeSessions = a.activeSessions ∨
       (a.postLogin env forwardedFor realIp body now bytes).2.activeSessions =
        (a.sweepExpiredSessions now).activeSessions)) := by
  unfold postLogin
  cases passwordOf body with
  | error failure => exact .inr ⟨by simp, .inl rfl⟩
  | ok password =>
    dsimp only
    rcases handleLogin_cases env password (clientIpOf forwardedFor realIp) now bytes a with
      ⟨hresult, hroom, hset⟩ | ⟨hresult, hkeep⟩
    · exact .inl ⟨by rw [hresult]; rfl, hroom, hset⟩
    · refine .inr ⟨fun value => ?_, hkeep⟩
      cases h : (a.handleLogin env password (clientIpOf forwardedFor realIp) now bytes).1 with
      | cookie value => exact absurd h (hresult value)
      | rateLimited => simp [loginReply]
      | refused => simp [loginReply]

/-- What a check does to the sessions. -/
theorem requireAdminAuth_cases (env : AdminEnv) (cookies : Option JsString) (now : ℤ)
    (a : AdminAuth) :
    (a.requireAdminAuth env cookies now).2.activeSessions = a.activeSessions ∨
    (a.requireAdminAuth env cookies now).2.activeSessions =
      (a.sweepExpiredSessions now).activeSessions ∨
    ∃ tok, (∀ exp, (a.sweepExpiredSessions now).activeSessions.get? tok = some exp →
        exp = 0 ∨ exp < now) ∧
      (a.requireAdminAuth env cookies now).2.activeSessions =
        (a.sweepExpiredSessions now).activeSessions.delete tok := by
  unfold requireAdminAuth
  cases env.adminToken.filter fun t => !t.isEmpty with
  | none => exact .inl rfl
  | some token =>
    cases cookieToken cookies with
    | none => exact .inr (.inl rfl)
    | some tok =>
      dsimp only
      cases hget : ((a.sweepExpiredSessions now).activeSessions.get? tok).filter
          fun exp => decide (exp ≠ 0 ∧ ¬ exp < now) with
      | some exp => exact .inr (.inl rfl)
      | none =>
        refine .inr (.inr ⟨tok, fun exp hexp => ?_, rfl⟩)
        rw [hexp, Option.filter_eq_none_iff] at hget
        have hfails := hget exp rfl
        simp only [decide_eq_true_eq] at hfails
        omega

theorem handleLogout_cases (cookies : Option JsString) (a : AdminAuth) :
    (cookieToken cookies = none ∧ a.handleLogout cookies = a) ∨
    ∃ tok, cookieToken cookies = some tok ∧
      (a.handleLogout cookies).activeSessions = a.activeSessions.delete tok := by
  unfold handleLogout
  cases cookieToken cookies with
  | none => exact .inl ⟨rfl, rfl⟩
  | some tok => exact .inr ⟨tok, rfl, rfl⟩

theorem live_of_activeSessions {b : AdminAuth} (h : b.activeSessions = a.activeSessions) :
    b.Live sessionToken now ↔ a.Live sessionToken now := by
  rw [Live, Live, h]

theorem Bounded.sweep {t : ℤ} (h : a.Bounded now) (ht : now ≤ t) :
    (a.sweepExpiredSessions t).Bounded t := by
  intro tok exp hget
  simp only [sweepExpiredSessions, JsMap.get?_filter, Option.filter_eq_some_iff] at hget
  have hexp := h tok exp hget.1
  omega

/-- The request issues this token. -/
def Issues (env : AdminEnv) (a : AdminAuth) (sessionToken : JsString) : AdminRequest → Prop
  | .login forwardedFor realIp body now bytes =>
    (a.postLogin env forwardedFor realIp body now bytes).1 = .ok (sessionCookieValue sessionToken)
  | .access _ _ => False
  | .logout _ _ => False

/-- The request closes the session of this token. -/
def Closes (sessionToken : JsString) : AdminRequest → Prop
  | .login _ _ _ _ _ => False
  | .access _ _ => False
  | .logout cookies _ => cookieToken cookies = some sessionToken

theorem live_handle {t : ℤ} {r : AdminRequest} (hbound : a.Bounded t) (ht : t ≤ r.now)
    (hpos : 0 < r.now) (hnow : r.now ≤ now) :
    (a.handle env r).Live sessionToken now ↔
      (a.Issues env sessionToken r ∧ now ≤ r.now + SESSION_MAX_AGE * 1000) ∨
      (a.Live sessionToken now ∧ ¬ Closes sessionToken r) := by
  cases r with
  | login forwardedFor realIp body now' bytes =>
    simp only [AdminRequest.now] at ht hnow
    simp only [handle, Issues, Closes, not_false_eq_true, and_true, AdminRequest.now]
    rcases postLogin_cases env forwardedFor realIp body now' bytes a with
      ⟨hresult, -, hset⟩ | ⟨hresult, hkeep⟩
    · rw [live_set hset (hbound.sweep ht sessionToken), live_sweep hnow, hresult,
        Except.ok.injEq]
      constructor
      · rintro (⟨rfl, hle⟩ | hlive)
        · exact .inl ⟨rfl, hle⟩
        · exact .inr hlive
      · rintro (⟨htok, hle⟩ | hlive)
        · exact .inl ⟨sessionCookieValue_injective htok, hle⟩
        · exact .inr hlive
    · have hno : ¬ ((a.postLogin env forwardedFor realIp body now' bytes).1 =
          .ok (sessionCookieValue sessionToken) ∧ now ≤ now' + SESSION_MAX_AGE * 1000) :=
        fun h => hresult _ h.1
      rw [or_iff_right hno]
      rcases hkeep with hkeep | hkeep
      · exact live_of_activeSessions hkeep
      · exact (live_of_activeSessions hkeep).trans (live_sweep hnow)
  | access cookies now' =>
    simp only [AdminRequest.now] at hpos hnow
    simp only [handle, Issues, Closes, false_and, false_or, not_false_eq_true, and_true]
    rcases requireAdminAuth_cases env cookies now' a with hsame | hsame | ⟨tok, hover, hdelete⟩
    · exact live_of_activeSessions hsame
    · exact (live_of_activeSessions hsame).trans (live_sweep hnow)
    · rw [live_delete hdelete, live_sweep hnow, and_iff_left_iff_imp]
      -- a session that lasts until `now` has passed the test
      rintro hlive rfl
      obtain ⟨exp, hexp, hle⟩ := (live_sweep hnow).mpr hlive
      have hold := hover exp hexp
      omega
  | logout cookies now' =>
    simp only [handle, Issues, Closes, false_and, false_or]
    rcases handleLogout_cases cookies a with ⟨hcookie, hsame⟩ | ⟨tok, hcookie, hdelete⟩
    · simp [hcookie, hsame]
    · rw [live_delete hdelete, hcookie, Option.some.injEq]

theorem Bounded.of_get? {b : AdminAuth} (h : a.Bounded now)
    (hget : ∀ tok exp, b.activeSessions.get? tok = some exp →
      a.activeSessions.get? tok = some exp ∨ exp = now + SESSION_MAX_AGE * 1000) :
    b.Bounded now := by
  intro tok exp hexp
  rcases hget tok exp hexp with hold | hnew
  · exact h tok exp hold
  · exact hnew.le

theorem Bounded.handle {t : ℤ} {r : AdminRequest} (h : a.Bounded t) (ht : t ≤ r.now) :
    (a.handle env r).Bounded r.now := by
  have hkeep : a.Bounded r.now := fun tok exp hget => (h tok exp hget).trans (by omega)
  have hsweep := h.sweep ht
  cases r with
  | login forwardedFor realIp body now' bytes =>
    rcases postLogin_cases env forwardedFor realIp body now' bytes a with
      ⟨-, -, hset⟩ | ⟨-, hsame | hsame⟩
    · refine hsweep.of_get? fun tok exp hget => ?_
      rw [AdminAuth.handle, hset, JsMap.get?_set] at hget
      split_ifs at hget
      · exact .inr (Option.some.inj hget).symm
      · exact .inl hget
    · exact hkeep.of_get? fun tok exp hget => .inl (hsame ▸ hget)
    · exact hsweep.of_get? fun tok exp hget => .inl (hsame ▸ hget)
  | access cookies now' =>
    rcases requireAdminAuth_cases env cookies now' a with hsame | hsame | ⟨tok, -, hdelete⟩
    · exact hkeep.of_get? fun tok exp hget => .inl (hsame ▸ hget)
    · exact hsweep.of_get? fun tok exp hget => .inl (hsame ▸ hget)
    · refine hsweep.of_get? fun tok exp hget => ?_
      rw [AdminAuth.handle, hdelete, JsMap.get?_delete] at hget
      split_ifs at hget
      exact .inl hget
  | logout cookies now' =>
    rcases handleLogout_cases cookies a with ⟨-, hsame⟩ | ⟨tok, -, hdelete⟩
    · exact hkeep.of_get? fun tok exp hget => .inl (hsame ▸ hget)
    · refine hkeep.of_get? fun tok exp hget => ?_
      rw [AdminAuth.handle, hdelete, JsMap.get?_delete] at hget
      split_ifs at hget
      exact .inl hget

/-- A full house refuses every login. -/
theorem length_handle (r : AdminRequest)
    (h : a.activeSessions.entries.length ≤ MAX_ACTIVE_SESSIONS) :
    (a.handle env r).activeSessions.entries.length ≤ MAX_ACTIVE_SESSIONS := by
  have hfilter (m : JsMap JsString ℤ) (p : JsString → ℤ → Bool)
      (hm : m.entries.length ≤ MAX_ACTIVE_SESSIONS) :
      (m.filter p).entries.length ≤ MAX_ACTIVE_SESSIONS :=
    (List.length_filter_le _ _).trans hm
  cases r with
  | login forwardedFor realIp body now' bytes =>
    rw [handle]
    rcases postLogin_cases env forwardedFor realIp body now' bytes a with
      ⟨-, hroom, hset⟩ | ⟨-, hsame | hsame⟩
    · have hlength := congrArg List.length (JsMap.keys_setEntries (hexText bytes.bytes)
        (now' + SESSION_MAX_AGE * 1000) (a.sweepExpiredSessions now').activeSessions.entries)
      rw [hset]
      simp only [JsMap.set]
      split_ifs at hlength <;>
        simp only [List.length_map, List.length_append, List.length_singleton] at hlength <;>
        omega
    · rwa [hsame]
    · rw [hsame]
      exact hfilter _ _ h
  | access cookies now' =>
    rw [handle]
    rcases requireAdminAuth_cases env cookies now' a with hsame | hsame | ⟨tok, -, hdelete⟩
    · rwa [hsame]
    · rw [hsame]
      exact hfilter _ _ h
    · rw [hdelete]
      exact hfilter _ _ (hfilter _ _ h)
  | logout cookies now' =>
    rw [handle]
    rcases handleLogout_cases cookies a with ⟨-, hsame⟩ | ⟨tok, -, hdelete⟩
    · rwa [hsame]
    · rw [hdelete]
      exact hfilter _ _ h

/-! ### A history of requests -/

variable {started : ℤ} {requests : List AdminRequest}

theorem serve_append_singleton (r : AdminRequest) :
    a.serve env (requests ++ [r]) = (a.serve env requests).handle env r := List.foldl_append

theorem length_serve : ((initial started).serve env requests).activeSessions.entries.length ≤
    MAX_ACTIVE_SESSIONS := by
  induction requests using List.reverseRecOn with
  | nil => exact Nat.zero_le _
  | append_singleton requests r ih =>
    rw [serve_append_singleton]
    exact length_handle r ih

/-- One of the requests is a login that issued this token, not too long ago, and no later one is
a logout with it. -/
def LoggedIn (env : AdminEnv) (started : ℤ) (requests : List AdminRequest)
    (sessionToken : JsString) (now : ℤ) : Prop :=
  ∃ before r after, requests = before ++ r :: after ∧
    ((initial started).serve env before).Issues env sessionToken r ∧
    now ≤ r.now + SESSION_MAX_AGE * 1000 ∧ ∀ q ∈ after, ¬ Closes sessionToken q

theorem loggedIn_append_singleton (r : AdminRequest) :
    LoggedIn env started (requests ++ [r]) sessionToken now ↔
      (((initial started).serve env requests).Issues env sessionToken r ∧
        now ≤ r.now + SESSION_MAX_AGE * 1000) ∨
      (LoggedIn env started requests sessionToken now ∧ ¬ Closes sessionToken r) := by
  constructor
  · rintro ⟨before, q, after, heq, hissues, hnow, hopen⟩
    rcases List.eq_nil_or_concat after with rfl | ⟨after, last, rfl⟩
    · obtain ⟨rfl, hqr⟩ := List.append_inj' heq rfl
      obtain rfl := List.singleton_inj.mp hqr
      exact .inl ⟨hissues, hnow⟩
    · rw [List.concat_eq_append, ← List.cons_append, ← List.append_assoc] at heq
      obtain ⟨rfl, hlast⟩ := List.append_inj' heq rfl
      obtain rfl := List.singleton_inj.mp hlast
      rw [List.concat_eq_append, List.forall_mem_append] at hopen
      exact .inr ⟨⟨before, q, after, rfl, hissues, hnow, hopen.1⟩,
        hopen.2 r (List.mem_singleton_self r)⟩
  · rintro (⟨hissues, hnow⟩ | ⟨⟨before, q, after, rfl, hissues, hnow, hopen⟩, hlast⟩)
    · exact ⟨requests, r, [], rfl, hissues, hnow, by simp⟩
    · refine ⟨before, q, after ++ [r], by simp, hissues, hnow, ?_⟩
      rw [List.forall_mem_append]
      exact ⟨hopen, by simpa using hlast⟩

theorem serve_bounded (hclock : (requests.map AdminRequest.now ++ [now]).Pairwise (· ≤ ·)) :
    ((initial started).serve env requests).Bounded now := by
  induction requests using List.reverseRecOn generalizing now with
  | nil => simp [serve, initial, Bounded]
  | append_singleton requests r ih =>
    rw [List.map_append, List.pairwise_append] at hclock
    have hlast : r.now ≤ now := hclock.2.2 _ (by simp) now (List.mem_singleton_self now)
    rw [serve_append_singleton]
    intro tok exp hget
    exact ((ih hclock.1).handle le_rfl tok exp hget).trans (by omega)

theorem live_serve (hclock : (requests.map AdminRequest.now ++ [now]).Pairwise (· ≤ ·))
    (hpos : ∀ r ∈ requests, 0 < r.now) :
    ((initial started).serve env requests).Live sessionToken now ↔
      LoggedIn env started requests sessionToken now := by
  induction requests using List.reverseRecOn with
  | nil => simp [serve, initial, Live, LoggedIn]
  | append_singleton requests r ih =>
    rw [List.map_append, List.pairwise_append] at hclock
    obtain ⟨hinit, -, hlast⟩ := hclock
    have hr : r.now ≤ now := hlast _ (by simp) now (List.mem_singleton_self now)
    have hbefore : (requests.map AdminRequest.now ++ [now]).Pairwise (· ≤ ·) := by
      refine List.pairwise_append.mpr ⟨(List.pairwise_append.mp hinit).1, List.pairwise_singleton .., ?_⟩
      intro t ht u hu
      exact hlast t (List.mem_append_left _ ht) u hu
    rw [List.forall_mem_append] at hpos
    rw [serve_append_singleton, loggedIn_append_singleton, ← ih hbefore hpos.1]
    exact live_handle (serve_bounded hinit) le_rfl (by simpa using hpos.2) hr

theorem Issues.configured {r : AdminRequest} (h : a.Issues env sessionToken r) :
    ∃ token, env.adminToken.filter (fun t => !t.isEmpty) = some token := by
  cases r with
  | login forwardedFor realIp body now' bytes =>
    cases hconfigured : env.adminToken.filter fun t => !t.isEmpty with
    | some token => exact ⟨token, rfl⟩
    | none =>
      simp only [Issues, postLogin] at h
      split at h
      · cases h
      · simp [handleLogin, hconfigured, loginReply] at h
  | access cookies now' => exact h.elim
  | logout cookies now' => exact h.elim

/-- A session that lasts is let in: an expiry of 0 is none, but the clock is past that. -/
theorem requireAdminAuth_ok_iff (cookies : Option JsString) (hpos : 0 < now) :
    (a.requireAdminAuth env cookies now).1 = .ok () ↔
      (∃ token, env.adminToken.filter (fun t => !t.isEmpty) = some token) ∧
      ∃ tok, cookieToken cookies = some tok ∧ a.Live tok now := by
  unfold requireAdminAuth
  cases env.adminToken.filter fun t => !t.isEmpty with
  | none => simp
  | some token =>
    cases cookieToken cookies with
    | none => simp
    | some tok =>
      simp only [Option.some.injEq, exists_eq', exists_eq_left', true_and]
      rw [← live_sweep (le_refl now)]
      cases hget : (a.sweepExpiredSessions now).activeSessions.get? tok with
      | none => simp [Live, hget]
      | some exp =>
        by_cases hlast : now ≤ exp
        · have hlasts : exp ≠ 0 ∧ ¬ exp < now := by omega
          simp only [Option.filter, hlasts, not_false_eq_true, ne_eq, and_self, decide_true, if_true]
          exact iff_of_true trivial ⟨exp, hget, hlast⟩
        · have hover : exp < now := not_le.mp hlast
          simp only [Option.filter, hover, not_true_eq_false, and_false, decide_false]
          refine iff_of_false (by simp) ?_
          rintro ⟨other, hother, hle⟩
          obtain rfl := Option.some.inj (hget.symm.trans hother)
          exact hlast hle

/-- A browser that was given a cookie sends back its token. -/
theorem cookieToken_issued (bytes : Digest) (rest : JsString) :
    cookieToken (some (SESSION_COOKIE ++ js "=" ++ hexText bytes.bytes ++ rest)) =
      some (hexText bytes.bytes) := by
  obtain ⟨hlength, hhex⟩ := hexText_lowerHex bytes.bytes
  rw [bytes.length_eq] at hlength
  have hname : (SESSION_COOKIE ++ js "=").length = 19 := rfl
  have hdrop : ((SESSION_COOKIE ++ js "=" ++ hexText bytes.bytes ++ rest).drop 19).take 64 =
      hexText bytes.bytes := by
    rw [List.append_assoc, ← hname, List.drop_left]
    exact List.take_left' hlength
  have hstarts : startsWith (SESSION_COOKIE ++ js "=" ++ hexText bytes.bytes ++ rest)
      (SESSION_COOKIE ++ js "=") := by
    rw [startsWith, List.append_assoc, List.isPrefixOf_iff_prefix]
    exact List.prefix_append _ _
  unfold cookieToken
  cases hcookie : SESSION_COOKIE ++ js "=" ++ hexText bytes.bytes ++ rest with
  | nil =>
    have hshort := congrArg List.length hcookie
    rw [List.length_append, List.length_append, hname] at hshort
    simp at hshort
  | cons u s =>
    rw [hcookie] at hdrop hstarts
    rw [Option.getD_some, matchCookie, hdrop, if_pos ⟨hstarts, hlength, hhex⟩]

/-- The panel is open to a cookie exactly if its token was issued in the last day and has not been
logged out, and it never holds more than its limit of sessions. -/
theorem admin_sessions (env : AdminEnv) (started now : ℤ) (requests : List AdminRequest)
    (cookies : Option JsString)
    (hclock : (requests.map AdminRequest.now ++ [now]).Pairwise (· ≤ ·))
    (hpos : ∀ r ∈ requests, 0 < r.now) (hnow : 0 < now) :
    ((((initial started).serve env requests).requireAdminAuth env cookies now).1 = .ok () ↔
      ∃ tok, cookieToken cookies = some tok ∧ LoggedIn env started requests tok now) ∧
    ((initial started).serve env requests).activeSessions.entries.length ≤
      MAX_ACTIVE_SESSIONS := by
  refine ⟨?_, length_serve⟩
  rw [requireAdminAuth_ok_iff cookies hnow]
  simp only [live_serve hclock hpos]
  refine and_iff_right_of_imp ?_
  rintro ⟨tok, -, before, r, after, -, hissues, -⟩
  exact hissues.configured

/-- A panel with a password, and one other password that is tried. -/
def samplePanel : AdminEnv where
  adminToken := some (js "open sesame")
  hmac s :=
    if s = js "open sesame" then
      ⟨[198, 84, 181, 137, 143, 128, 30, 60, 69, 117, 67, 144, 149, 101, 42, 126, 76, 88, 68, 117,
        64, 142, 146, 159, 116, 88, 247, 84, 142, 105, 50, 25], rfl⟩
    else
      ⟨[241, 20, 217, 111, 50, 98, 150, 136, 148, 100, 179, 110, 40, 156, 195, 36, 200, 117, 191,
        99, 112, 129, 39, 249, 168, 74, 224, 49, 90, 164, 5, 90], rfl⟩

def samplePassword (password : JsString) : Json := .obj [(js "password", .str password)]

def sampleToken : Digest := ⟨List.replicate 32 165, rfl⟩

theorem admin_sessions_day : (((initial 1000).serve samplePanel
      [.login none (some (js "10.0.0.1")) (some (samplePassword (js "open sesame"))) 2000
        sampleToken]).requireAdminAuth samplePanel
      (some (SESSION_COOKIE ++ js "=" ++ hexText sampleToken.bytes ++ js "; lang=en"))
      86402000).1 = .ok () :=
  (admin_sessions samplePanel 1000 86402000 _ _ (by decide) (by decide) (by decide)).1.mpr
    ⟨_, cookieToken_issued sampleToken _, [], _, [], rfl, rfl, by decide, by simp⟩

end AdminAuth
end GhostBazaar.Engine
