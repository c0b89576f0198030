import GhostBazaar.Engine.Middleware
import GhostBazaar.FixedWindow
import GhostBazaar.Js.Map

/-! The session cookies and the login limits of the admin panel. Every handler is one synchronous
segment, with one reading of the clock. -/
namespace GhostBazaar.Engine
open Js GhostBazaar.Core FixedWindow

/-! ### The state of the module -/

def SESSION_COOKIE : JsString := js "ghost_bazaar_admin"

/-- In seconds. -/
def SESSION_MAX_AGE : ℤ := 86400

def MAX_ACTIVE_SESSIONS : ℕ := 50

def LOGIN_WINDOW_MS : ℤ := 60000

def MAX_LOGIN_ATTEMPTS_PER_IP : ℕ := 5

def MAX_LOGIN_ATTEMPTS_GLOBAL : ℕ := 20

/-- How many addresses are remembered before those that have run out are forgotten. -/
def MAX_LOGIN_ADDRESSES : ℕ := 1000

structure AdminAuth where
  /-- The expiry of each session token. -/
  activeSessions : JsMap JsString ℤ
  loginAttemptsByIp : JsMap JsString Window
  globalLogin : Window

/-- The configured token, and the keyed hash that passwords are compared by. -/
structure AdminEnv where
  adminToken : Option JsString
  hmac : JsString → Digest

namespace AdminAuth

/-- `started` is when the module was loaded. -/
def initial (started : ℤ) : AdminAuth := ⟨.empty, .empty, ⟨0, started⟩⟩

def safeCompare (env : AdminEnv) (a b : JsString) : Bool :=
  decide ((env.hmac a).bytes = (env.hmac b).bytes)

def sweepExpiredSessions (now : ℤ) (a : AdminAuth) : AdminAuth :=
  { a with activeSessions := a.activeSessions.filter fun _ exp => decide (¬ exp < now) }

/-! ### The login limits -/

/-- A global window that has run out starts again. -/
def resetGlobal (now : ℤ) (a : AdminAuth) : AdminAuth :=
  if LOGIN_WINDOW_MS < now - a.globalLogin.windowStart then { a with globalLogin := ⟨0, now⟩ } else a

def checkLoginRateLimit (now : ℤ) (ip : JsString) (a : AdminAuth) : Bool × AdminAuth :=
  let a := a.resetGlobal now
  let failures := counted LOGIN_WINDOW_MS now (a.loginAttemptsByIp.get? ip)
  if MAX_LOGIN_ATTEMPTS_PER_IP ≤ failures then (false, a)
  -- the global limit is for addresses with failures of their own
  else if MAX_LOGIN_ATTEMPTS_GLOBAL ≤ a.globalLogin.count ∧ 0 < failures then (false, a)
  else (true, a)

/-- `loginAttemptsByIp` without the windows that have run out, once it is large. -/
def pruneAttempts (now : ℤ) (attempts : JsMap JsString Window) : JsMap JsString Window :=
  if MAX_LOGIN_ADDRESSES < attempts.entries.length then
    attempts.filter fun _ v => v.runs LOGIN_WINDOW_MS now
  else attempts

def recordFailedLogin (now : ℤ) (ip : JsString) (a : AdminAuth) : AdminAuth :=
  { a with
    globalLogin := bump LOGIN_WINDOW_MS now (some a.globalLogin)
    loginAttemptsByIp := pruneAttempts now (a.loginAttemptsByIp.set ip
      (bump LOGIN_WINDOW_MS now (a.loginAttemptsByIp.get? ip))) }

def clearLoginAttempts (ip : JsString) (a : AdminAuth) : AdminAuth :=
  { a with loginAttemptsByIp := a.loginAttemptsByIp.delete ip }

/-! ### Login, access and logout -/

inductive LoginResult where
  | cookie (value : JsString)
  | rateLimited
  | refused

def sessionCookieValue (sessionToken : JsString) : JsString :=
  SESSION_COOKIE ++ js "=" ++ sessionToken ++
    js "; HttpOnly; Secure; SameSite=None; Path=/admin; Max-Age=86400"

/-- `tokenBytes` are the random bytes that the call draws, if it comes so far. -/
def handleLogin (env : AdminEnv) (password clientIp : JsString) (now : ℤ) (tokenBytes : Digest)
    (a : AdminAuth) : LoginResult × AdminAuth :=
  match env.adminToken.filter fun t => !t.isEmpty with
  | none => (.refused, a)
  | some token =>
    let (allowed, a) := a.checkLoginRateLimit now clientIp
    if !allowed then (.rateLimited, a)
    else if !safeCompare env password token then (.refused, a.recordFailedLogin now clientIp)
    else
      let a := (a.clearLoginAttempts clientIp).sweepExpiredSessions now
      if MAX_ACTIVE_SESSIONS ≤ a.activeSessions.entries.length then (.refused, a)
      else
        let sessionToken := hexText tokenBytes.bytes
        (.cookie (sessionCookieValue sessionToken),
          { a with activeSessions := a.activeSessions.set sessionToken (now + SESSION_MAX_AGE * 1000) })

/-- The first match of `/ghost_bazaar_admin=([a-f0-9]{64})/`. -/
def matchCookie : JsString → Option JsString
  | [] => none
  | u :: s =>
    let token := ((u :: s).drop 19).take 64
    if startsWith (u :: s) (SESSION_COOKIE ++ js "=") ∧ token.length = 64 ∧ token.all isLowerHex
    then some token
    else matchCookie s

def cookieToken (cookies : Option JsString) : Option JsString := matchCookie (cookies.getD [])

/-- An expiry of 0 counts as none. -/
def requireAdminAuth (env : AdminEnv) (cookies : Option JsString) (now : ℤ) (a : AdminAuth) :
    Handling Unit × AdminAuth :=
  match env.adminToken.filter fun t => !t.isEmpty with
  | none => (.error (.refused ⟨403, js "forbidden",
      js "Admin API not configured — set ADMIN_TOKEN env var"⟩), a)
  | some _ =>
    let a := a.sweepExpiredSessions now
    match cookieToken cookies with
    | none => (.error (.refused ⟨401, js "unauthorized",
        js "Not logged in — visit /admin/login"⟩), a)
    | some sessionToken =>
      match (a.activeSessions.get? sessionToken).filter fun exp => decide (exp ≠ 0 ∧ ¬ exp < now) with
      | some _ => (.ok (), a)
      | none => (.error (.refused ⟨401, js "unauthorized",
          js "Session expired — please log in again"⟩),
          { a with activeSessions := a.activeSessions.delete sessionToken })

def handleLogout (cookies : Option JsString) (a : AdminAuth) : AdminAuth :=
  match cookieToken cookies with
  | some sessionToken => { a with activeSessions := a.activeSessions.delete sessionToken }
  | none => a

/-! ### The routes -/

/-- `forwardedFor` and `realIp` are headers. -/
def clientIpOf (forwardedFor realIp : Option JsString) : JsString :=
  match forwardedFor with
  | some h => trim ((h.splitOn 44).headD [])
  | none => realIp.getD (js "unknown")

/-- The password of a login request; a body that is no JSON counts as `{}`. -/
def passwordOf (body : Option Json) : Handling JsString := do
  let password ← field (body.getD (.obj [])) (js "password")
  match password with
  | some (.str s) =>
    require (s ≠ []) ⟨400, js "bad_request", js "Missing password field"⟩
    return s
  | _ => .error (.refused ⟨400, js "bad_request", js "Missing password field"⟩)

def loginReply : LoginResult → Handling JsString
  | .cookie value => .ok value
  | .rateLimited => .error (.refused ⟨429, js "rate_limited",
      js "Too many login attempts — try again in 1 minute"⟩)
  | .refused => .error (.refused ⟨401, js "unauthorized",
      js "Invalid password or too many active sessions"⟩)

/-- `POST /admin/login`; the answer is the value of the `Set-Cookie` header. -/
def postLogin (env : AdminEnv) (forwardedFor realIp : Option JsString) (body : Option Json)
    (now : ℤ) (tokenBytes : Digest) (a : AdminAuth) : Handling JsString × AdminAuth :=
  match passwordOf body with
  | .error failure => (.error failure, a)
  | .ok password =>
    let (result, a) := a.handleLogin env password (clientIpOf forwardedFor realIp) now tokenBytes
    (loginReply result, a)

end AdminAuth

/-- A request to `/admin/*`; `access` stands for every path but login and logout. -/
inductive AdminRequest where
  | login (forwardedFor realIp : Option JsString) (body : Option Json) (now : ℤ)
      (tokenBytes : Digest)
  | access (cookies : Option JsString) (now : ℤ)
  | logout (cookies : Option JsString) (now : ℤ)

namespace AdminRequest

def now : AdminRequest → ℤ
  | .login _ _ _ now _ | .access _ now | .logout _ now => now

end AdminRequest

namespace AdminAuth

def handle (env : AdminEnv) (a : AdminAuth) : AdminRequest → AdminAuth
  | .login forwardedFor realIp body now tokenBytes =>
    (a.postLogin env forwardedFor realIp body now tokenBytes).2
  | .access cookies now => (a.requireAdminAuth env cookies now).2
  | .logout cookies _ => a.handleLogout cookies

/-- The state after these requests. -/
def serve (env : AdminEnv) (a : AdminAuth) (requests : List AdminRequest) : AdminAuth :=
  requests.foldl (handle env) a

end AdminAuth
end GhostBazaar.Engine
