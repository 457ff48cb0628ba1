/-
**The rate-limit middleware, and requests racing through it.**

`RateLimitMiddleware.Handler` runs in front of the REST routes.  A request goes on untouched when
the middleware is disabled or its path is a skip path.  Otherwise it is identified by its API key
(`api:<key>`), or without one by its address (`ip:<address>`).  When the configuration asks for
the authentication component's limiter and there is a component, `checkAuthRateLimit` asks the
limiter: `CheckLimit` refuses the request with 429 and an audit entry, or accepts it, and then
`RecordRequest` counts it.  Otherwise the built-in check lets every request through, whatever
`RequestsPerMinute` and `BurstSize` say.

`auth.Component` and its `RateLimiter` are not among the sources.  The component enters through
its answers (`AuthComponent`), and the limiter as two functions of its state: `CheckLimit` is a
query that leaves the state as it is, and `RecordRequest` gives a new state.

Gin runs the handler of each request on a goroutine of its own, and the middleware holds no lock
between `CheckLimit` and `RecordRequest`.  This module runs any number of requests as an
interleaving of their steps, with configuration changes in between.  The first step of a request
runs the handler up to the limiter's answer; for an accepted request the second step records it
and writes the headers.

Main definitions:

* `AtomEngine.extractAPIKey`, `AtomEngine.getClientIdentifier` — how a request is identified;
* `AtomEngine.handler` — `Handler()` on one request, run without interruption;
* `AtomEngine.Middleware.step`, `AtomEngine.Middleware.run` — one event of the system, and a
  whole run;
* `AtomEngine.Middleware.SerialRun` — the runs in which no request starts while another one is
  between its check and its record;
* `AtomEngine.getRateLimitInfo` — `GetRateLimitInfo`.

Main results:

* `AtomEngine.getClientIdentifier_eq_iff` — two requests share an identifier exactly when they
  carry the same API key, or both carry none and come from the same address;
* `AtomEngine.Middleware.run_alone` — a request that runs without interruption does what
  `Handler()` does;
* `AtomEngine.Middleware.serial_usage_within_limit` — **in serial runs no client's usage ever
  passes the limit**;
* `AtomEngine.Middleware.interleaved_requests_exceed_limit` — **two requests of one client that
  find one slot left both get through when interleaved**;
* `AtomEngine.Middleware.audit_entry_per_refusal` — in every interleaving, the audit log holds,
  up to order, one entry per refused request, with its client, agent, method, path and reason,
  when there is an audit logger;
* `AtomEngine.Middleware.config_run` — the configuration after any run is the last one
  `UpdateConfig` installed, with the skip paths added since: `UpdateConfig` drops the others;
* `AtomEngine.getRateLimitInfo_remaining` — **`GetRateLimitInfo` reports no request left exactly
  where `Handler()` refuses none**.
-/

import Mathlib.Logic.Function.Basic
import Mathlib.Data.List.Basic

set_option autoImplicit false

namespace AtomEngine

/-! ### The configuration and the request -/

/-- `RateLimitConfig`; `WindowSize` is a `time.Duration`, in nanoseconds. -/
structure RateLimitConfig where
  enabled : Bool
  requestsPerMinute : Int
  burstSize : Int
  windowSize : Int
  skipPaths : List String
  useAuthRateLimiter : Bool
  deriving DecidableEq, Repr

/-- `DefaultRateLimitConfig()`. -/
def defaultRateLimitConfig : RateLimitConfig where
  enabled := true
  requestsPerMinute := 100
  burstSize := 10
  windowSize := 60000000000
  skipPaths := ["/health", "/metrics"]
  useAuthRateLimiter := true

/-- The parts of a request the middleware reads: the path and method, the `Authorization`,
`X-API-Key` and `User-Agent` headers (empty when absent), the `api_key` query parameter,
`c.ClientIP()`, and what `time.Now()` gives when the headers are written, in nanoseconds since
the Unix epoch. -/
structure Request where
  path : String
  method : String
  authorization : String := ""
  apiKeyHeader : String := ""
  apiKeyQuery : String := ""
  userAgent : String := ""
  clientIP : String
  now : Int := 0
  deriving DecidableEq, Repr

/-- What the middleware asks the authentication component: `IsReady()`, and whether
`GetRateLimiter()` and `GetAuditLogger()` return one. -/
structure AuthComponent where
  isReady : Bool
  hasRateLimiter : Bool
  hasAuditLogger : Bool
  deriving DecidableEq, Repr

/-- The component's rate limiter over its state `L`: `CheckLimit(clientID, apiKey)` answers from
the state, `RecordRequest(clientID, apiKey)` changes it. -/
structure RateLimiter (L : Type) where
  checkLimit : L → String → String → Bool
  recordRequest : L → String → String → L

/-! ### Identifying a request -/

/-- `extractAPIKey(c)`: the token of an `Authorization: Bearer <token>` header, else the
`X-API-Key` header, else the `api_key` query parameter.  `Bearer ` is ASCII, so the byte offsets
of the source are character offsets here. -/
def extractAPIKey (r : Request) : String :=
  if r.authorization ≠ "" ∧ r.authorization.length > 7 ∧
      r.authorization.data.take 7 = "Bearer ".data then
    String.mk (r.authorization.data.drop 7)
  else if r.apiKeyHeader ≠ "" then r.apiKeyHeader
  else if r.apiKeyQuery ≠ "" then r.apiKeyQuery
  else ""

/-- `getClientIdentifier(c)`. -/
def getClientIdentifier (r : Request) : String :=
  if extractAPIKey r ≠ "" then "api:" ++ extractAPIKey r else "ip:" ++ r.clientIP

/-- `shouldSkipPath(path)`. -/
def shouldSkipPath (config : RateLimitConfig) (path : String) : Bool :=
  config.skipPaths.any (path == ·)

theorem append_left_inj_data {a b c : String} (h : a ++ b = a ++ c) : b = c := by
  have := congrArg String.data h
  simp only [String.data_append, List.append_cancel_left_eq] at this
  exact String.ext this

theorem api_ne_ip (key ip : String) : "api:" ++ key ≠ "ip:" ++ ip := by
  intro h
  have := congrArg (fun s : String => s.data.head?) h
  simp at this

/-- **Two requests share an identifier exactly when they carry the same API key, or both carry
none and come from the same address.** -/
theorem getClientIdentifier_eq_iff (r r' : Request) :
    getClientIdentifier r = getClientIdentifier r' ↔
      extractAPIKey r = extractAPIKey r' ∧ (extractAPIKey r = "" → r.clientIP = r'.clientIP) := by
  unfold getClientIdentifier
  by_cases hk : extractAPIKey r = "" <;> by_cases hk' : extractAPIKey r' = ""
  · simp only [hk, hk', ne_eq, not_true_eq_false, if_false, true_and, forall_const]
    exact ⟨append_left_inj_data, fun h => by rw [h]⟩
  · simp only [hk, hk', ne_eq, not_true_eq_false, not_false_eq_true, if_false, if_true]
    exact ⟨fun h => absurd h.symm (api_ne_ip _ _), fun h => absurd h.1.symm hk'⟩
  · simp only [hk, hk', ne_eq, not_true_eq_false, not_false_eq_true, if_false, if_true]
    exact ⟨fun h => absurd h (api_ne_ip _ _), fun h => h.1.elim⟩
  · simp only [hk, ne_eq, hk', not_false_eq_true, if_true, false_implies, and_true]
    exact ⟨append_left_inj_data, fun h => by rw [h]⟩

/-! ### One request -/

/-- `addRateLimitHeaders(c, clientID)`: the limit, and unless the component's limiter is asked
for and missing, `unknown` remaining requests and the end of the window,
`time.Now().Add(WindowSize).Unix()`. -/
def addRateLimitHeaders (config : RateLimitConfig) (auth : Option AuthComponent) (now : Int) :
    List (String × String) :=
  ("X-RateLimit-Limit", toString config.requestsPerMinute) ::
    match config.useAuthRateLimiter, auth with
    | true, some a =>
        if a.hasRateLimiter then
          [("X-RateLimit-Remaining", "unknown"),
            ("X-RateLimit-Reset", toString ((now + config.windowSize).fdiv 1000000000))]
        else []
    | _, _ =>
        [("X-RateLimit-Remaining", "unknown"),
          ("X-RateLimit-Reset", toString ((now + config.windowSize).fdiv 1000000000))]

/-- What the audit logger records of a refused request, through
`LogAuthFailure(CreateAuthContextFromHTTP(clientID, User-Agent, method, path, Authorization),
"Rate limit exceeded")`. -/
structure AuditEntry where
  clientID : String
  userAgent : String
  method : String
  path : String
  authorization : String
  reason : String
  deriving DecidableEq, Repr

/-- The audit entries a refused request adds: one when the component has an audit logger. -/
def auditEntries (a : AuthComponent) (clientID : String) (r : Request) : List AuditEntry :=
  if a.hasAuditLogger then
    [⟨clientID, r.userAgent, r.method, r.path, r.authorization, "Rate limit exceeded"⟩]
  else []

/-- How a request ends in the middleware. -/
inductive Outcome where
  /-- `c.Next()`, after these headers. -/
  | next (headers : List (String × String))
  /-- `429 Too Many Requests` with the error `Rate limit exceeded`, and `c.Abort()`. -/
  | tooManyRequests
  deriving DecidableEq, Repr

section

variable {L : Type} (rl : RateLimiter L)

/-- `checkAuthRateLimit` up to the limiter's answer: `none` when it lets the request through
without asking the limiter, else what `CheckLimit` answers. -/
def limiterAnswer (a : AuthComponent) (limiter : L) (r : Request) (clientID : String) :
    Option Bool :=
  if !a.isReady then none
  else if !a.hasRateLimiter then none
  else some (rl.checkLimit limiter clientID (extractAPIKey r))

/-- `checkAuthRateLimit(c, clientID)`: whether the request goes on, the limiter's state and the
audit log after it. -/
def checkAuthRateLimit (a : AuthComponent) (limiter : L) (audit : List AuditEntry) (r : Request)
    (clientID : String) : Bool × L × List AuditEntry :=
  match limiterAnswer rl a limiter r clientID with
  | none => (true, limiter, audit)
  | some false => (false, limiter, audit ++ auditEntries a clientID r)
  | some true => (true, rl.recordRequest limiter clientID (extractAPIKey r), audit)

/-- `Handler()` on one request, run without interruption: how the request ends, the limiter's
state and the audit log.  The built-in check, `checkBuiltinRateLimit`, lets every request
through. -/
def handler (config : RateLimitConfig) (auth : Option AuthComponent) (limiter : L)
    (audit : List AuditEntry) (r : Request) : Outcome × L × List AuditEntry :=
  if !config.enabled then (.next [], limiter, audit)
  else if shouldSkipPath config r.path then (.next [], limiter, audit)
  else
    match config.useAuthRateLimiter, auth with
    | true, some a =>
        match checkAuthRateLimit rl a limiter audit r (getClientIdentifier r) with
        | (false, limiter', audit') => (.tooManyRequests, limiter', audit')
        | (true, limiter', audit') =>
            (.next (addRateLimitHeaders config auth r.now), limiter', audit')
    | _, _ => (.next (addRateLimitHeaders config auth r.now), limiter, audit)

end

/-! ### What `GetRateLimitInfo` tells a client -/

/-- `RateLimitInfo`, with the reset time in nanoseconds since the Unix epoch. -/
structure RateLimitInfo where
  limit : Int
  remaining : Int
  reset : Int
  window : Int
  deriving DecidableEq, Repr

/-- `GetRateLimitInfo(clientID)` at the time `now`: `Remaining` keeps its zero value unless the
component's limiter is asked for and present, when it is `-1`, for unknown.  The client is not
looked at. -/
def getRateLimitInfo (config : RateLimitConfig) (auth : Option AuthComponent) (now : Int)
    (_clientID : String) : RateLimitInfo where
  limit := config.requestsPerMinute
  remaining :=
    match config.useAuthRateLimiter, auth with
    | true, some a => if a.hasRateLimiter then -1 else 0
    | _, _ => 0
  reset := now + config.windowSize
  window := config.windowSize

/-- Without the component's limiter in use, `Handler()` refuses no request. -/
theorem handler_ne_tooManyRequests {L : Type} (rl : RateLimiter L) {config : RateLimitConfig}
    {auth : Option AuthComponent}
    (h : ∀ a, config.useAuthRateLimiter = true → auth = some a → a.hasRateLimiter = false)
    (limiter : L) (audit : List AuditEntry) (r : Request) :
    (handler rl config auth limiter audit r).1 ≠ .tooManyRequests := by
  unfold handler
  split_ifs
  · simp
  · simp
  · split
    · rename_i _ _ a hu
      simp [checkAuthRateLimit, limiterAnswer, h a hu rfl]
    · simp

/-- **`GetRateLimitInfo` reports no request left exactly where no request is refused.**  Its
`Remaining` is `0` or `-1`, never a count; and whenever it is `0`, `Handler()` lets every request
through, whatever the limiter's state and the request. -/
theorem getRateLimitInfo_remaining {L : Type} (rl : RateLimiter L) (config : RateLimitConfig)
    (auth : Option AuthComponent) (now : Int) (clientID : String) :
    ((getRateLimitInfo config auth now clientID).remaining = 0 ∨
        (getRateLimitInfo config auth now clientID).remaining = -1) ∧
      ((getRateLimitInfo config auth now clientID).remaining = 0 →
        ∀ (limiter : L) (audit : List AuditEntry) (r : Request),
          (handler rl config auth limiter audit r).1 ≠ .tooManyRequests) := by
  unfold getRateLimitInfo
  obtain ⟨enabled, perMinute, burst, window, skip, useAuth⟩ := config
  cases useAuth with
  | false =>
      exact ⟨.inl rfl, fun _ => handler_ne_tooManyRequests rl (fun _ h => absurd h Bool.false_ne_true)⟩
  | true =>
      cases auth with
      | none => exact ⟨.inl rfl, fun _ => handler_ne_tooManyRequests rl (fun _ _ h => nomatch h)⟩
      | some a =>
          obtain ⟨ready, hasLimiter, hasAudit⟩ := a
          cases hasLimiter with
          | false =>
              exact ⟨.inl rfl, fun _ => handler_ne_tooManyRequests rl (fun _ _ h => by cases h; rfl)⟩
          | true => exact ⟨.inr rfl, fun h => absurd h (by simp)⟩

/-! ### Requests racing through the middleware -/

/-- How far a request has got. -/
inductive RequestPhase where
  /-- Not yet started. -/
  | waiting
  /-- `CheckLimit(clientID, apiKey)` said yes; `RecordRequest` has not run yet. -/
  | checked (clientID apiKey : String)
  /-- Ended. -/
  | done (outcome : Outcome)
  deriving DecidableEq, Repr

/-- The request is between its check and its record. -/
def RequestPhase.isChecked : RequestPhase → Bool
  | .checked _ _ => true
  | _ => false

/-- The middleware's configuration, the component's answers, the limiter's state, the audit log
and the phase of each request (by its index). -/
structure Middleware (L : Type) where
  config : RateLimitConfig
  auth : Option AuthComponent
  limiter : L
  audit : List AuditEntry
  phase : ℕ → RequestPhase

/-- What happens next: a step of the request with this index, `UpdateConfig(config)` (which
ignores `nil`), or `AddSkipPath(path)`. -/
inductive Event where
  | handle (i : ℕ)
  | updateConfig (config : Option RateLimitConfig)
  | addSkipPath (path : String)

/-- The configuration an event installs: `UpdateConfig` with a configuration. -/
def Event.newConfig : Event → Option RateLimitConfig
  | .updateConfig config => config
  | _ => none

/-- The path an event adds to the skip paths. -/
def Event.addedPath : Event → Option String
  | .addSkipPath path => some path
  | _ => none

/-- The configuration the last `UpdateConfig` of a run installed, or `initial`. -/
def lastConfig (initial : RateLimitConfig) (events : List Event) : RateLimitConfig :=
  (events.filterMap Event.newConfig).getLast?.getD initial

/-- The paths of the `AddSkipPath` calls of a run after its last `UpdateConfig`, in order. -/
def addedSinceLastUpdate (events : List Event) : List String :=
  (events.reverse.takeWhile fun e => e.newConfig.isNone).reverse.filterMap Event.addedPath

/-- A configuration with more skip paths after its own. -/
def RateLimitConfig.appendSkipPaths (config : RateLimitConfig) (paths : List String) :
    RateLimitConfig :=
  { config with skipPaths := config.skipPaths ++ paths }

namespace Middleware

section

variable {L : Type} (rl : RateLimiter L) (rs : List Request)

/-- No request started yet. -/
def init (config : RateLimitConfig) (auth : Option AuthComponent) (limiter : L) : Middleware L :=
  ⟨config, auth, limiter, [], fun _ => .waiting⟩

/-- The first step of a request: `Handler()` up to the limiter's answer, with the phase it
leaves the request in and the audit log after it. -/
def checkStep (σ : Middleware L) (r : Request) : RequestPhase × List AuditEntry :=
  if !σ.config.enabled then (.done (.next []), σ.audit)
  else if shouldSkipPath σ.config r.path then (.done (.next []), σ.audit)
  else
    match σ.config.useAuthRateLimiter, σ.auth with
    | true, some a =>
        match limiterAnswer rl a σ.limiter r (getClientIdentifier r) with
        | none => (.done (.next (addRateLimitHeaders σ.config σ.auth r.now)), σ.audit)
        | some false =>
            (.done .tooManyRequests, σ.audit ++ auditEntries a (getClientIdentifier r) r)
        | some true => (.checked (getClientIdentifier r) (extractAPIKey r), σ.audit)
    | _, _ => (.done (.next (addRateLimitHeaders σ.config σ.auth r.now)), σ.audit)

/-- One event.  A step of a request that has not started runs `checkStep`; a step of a checked
request runs `RecordRequest` and writes the headers; an index past the requests, or a request
that has ended, does nothing. -/
def step (σ : Middleware L) : Event → Middleware L
  | .handle i =>
      match rs[i]?, σ.phase i with
      | some r, .waiting =>
          { σ with phase := Function.update σ.phase i (checkStep rl σ r).1
                   audit := (checkStep rl σ r).2 }
      | some r, .checked clientID apiKey =>
          { σ with limiter := rl.recordRequest σ.limiter clientID apiKey
                   phase := Function.update σ.phase i
                     (.done (.next (addRateLimitHeaders σ.config σ.auth r.now))) }
      | _, _ => σ
  | .updateConfig none => σ
  | .updateConfig (some config) => { σ with config }
  | .addSkipPath path => { σ with config := { σ.config with skipPaths := σ.config.skipPaths ++ [path] } }

/-- A run: the events in the order they happen. -/
def run (σ : Middleware L) (events : List Event) : Middleware L := events.foldl (step rl rs) σ

@[simp] theorem run_nil (σ : Middleware L) : run rl rs σ [] = σ := rfl

@[simp] theorem run_cons (σ : Middleware L) (e : Event) (events : List Event) :
    run rl rs σ (e :: events) = run rl rs (step rl rs σ e) events := rfl

/-- A step that serial handling allows: a request starts only while no request is between its
check and its record. -/
def Allowed (σ : Middleware L) : Event → Prop
  | .handle i => σ.phase i = .waiting → ∀ j, (σ.phase j).isChecked = false
  | _ => True

/-- A run every step of which serial handling allows. -/
def SerialRun : Middleware L → List Event → Prop
  | _, [] => True
  | σ, e :: events => Allowed σ e ∧ SerialRun (step rl rs σ e) events

theorem checkStep_ne_waiting (σ : Middleware L) (r : Request) :
    (checkStep rl σ r).1 ≠ .waiting := by
  unfold checkStep
  split_ifs
  · simp
  · simp
  · split
    · split <;> simp
    · simp


/-- `Handler()` is its first step followed, for a checked request, by `RecordRequest`. -/
theorem handler_eq_checkStep (σ : Middleware L) (r : Request) :
    handler rl σ.config σ.auth σ.limiter σ.audit r =
      match (checkStep rl σ r).1 with
      | .checked clientID apiKey => (.next (addRateLimitHeaders σ.config σ.auth r.now),
          rl.recordRequest σ.limiter clientID apiKey, (checkStep rl σ r).2)
      | .done outcome => (outcome, σ.limiter, (checkStep rl σ r).2)
      | .waiting => (.next [], σ.limiter, σ.audit) := by
  unfold handler checkStep checkAuthRateLimit
  by_cases hen : σ.config.enabled
  · by_cases hskip : shouldSkipPath σ.config r.path
    · simp [hen, hskip]
    · rcases hu : σ.config.useAuthRateLimiter
      · simp [hen, hskip, hu]
      · rcases ha : σ.auth with _ | a
        · simp [hen, hskip, hu]
        · rcases hl : limiterAnswer rl a σ.limiter r (getClientIdentifier r) with _ | _ | _ <;>
            simp [hen, hskip, hu, hl]
  · simp [hen]

/-- **A request that runs without interruption does what `Handler()` does**: its two steps end
it as `handler` does, with the limiter's state and the audit log `handler` gives. -/
theorem run_alone (σ : Middleware L) {i : ℕ} {r : Request} (hr : rs[i]? = some r)
    (hw : σ.phase i = .waiting) :
    (run rl rs σ [.handle i, .handle i]).phase i =
        .done (handler rl σ.config σ.auth σ.limiter σ.audit r).1 ∧
      (run rl rs σ [.handle i, .handle i]).limiter =
        (handler rl σ.config σ.auth σ.limiter σ.audit r).2.1 ∧
      (run rl rs σ [.handle i, .handle i]).audit =
        (handler rl σ.config σ.auth σ.limiter σ.audit r).2.2 := by
  rw [handler_eq_checkStep]
  have hne := checkStep_ne_waiting rl σ r
  rcases hc : (checkStep rl σ r).1 with _ | ⟨c, k⟩ | o
  · exact absurd hc hne
  · simp [step, hr, hw, hc]
  · simp [step, hr, hw, hc]

/-- A step of one request leaves the others' phases alone. -/
theorem step_phase_of_ne (σ : Middleware L) {i j : ℕ} (h : j ≠ i) :
    (step rl rs σ (.handle i)).phase j = σ.phase j := by
  simp only [step]
  split <;> simp [Function.update_noteq h]

/-- A request that is not scheduled does not move. -/
theorem run_phase_of_not_mem (σ : Middleware L) {j : ℕ} (events : List Event)
    (h : Event.handle j ∉ events) : (run rl rs σ events).phase j = σ.phase j := by
  induction events generalizing σ with
  | nil => rfl
  | cons e events ih =>
      simp only [List.mem_cons, not_or] at h
      rw [run_cons, ih _ h.2]
      cases e with
      | handle i => exact step_phase_of_ne rl rs σ (fun hji => h.1 (hji ▸ rfl))
      | updateConfig config => cases config <;> rfl
      | addSkipPath path => rfl

/-- A configuration change leaves the limiter and the requests alone. -/
theorem step_config (σ : Middleware L) {e : Event} (he : ∀ i, e ≠ .handle i) :
    (step rl rs σ e).limiter = σ.limiter ∧ (step rl rs σ e).phase = σ.phase := by
  cases e with
  | handle i => exact absurd rfl (he i)
  | updateConfig config => cases config <;> exact ⟨rfl, rfl⟩
  | addSkipPath path => exact ⟨rfl, rfl⟩

/-- A request's step leaves the configuration as it is. -/
theorem step_handle_config (σ : Middleware L) (i : ℕ) :
    (step rl rs σ (.handle i)).config = σ.config := by
  simp only [step]
  split <;> rfl

/-- **The configuration after any run** is the one the last `UpdateConfig` installed, or the
first one, with the paths of the `AddSkipPath` calls made since then appended to its skip paths:
requests never change it, and `UpdateConfig` drops every skip path added before it. -/
theorem config_run (σ : Middleware L) (events : List Event) :
    (run rl rs σ events).config =
      (lastConfig σ.config events).appendSkipPaths (addedSinceLastUpdate events) := by
  induction events using List.reverseRecOn with
  | nil => simp [lastConfig, addedSinceLastUpdate, RateLimitConfig.appendSkipPaths]
  | append_singleton events e ih =>
      have hrun : run rl rs σ (events ++ [e]) = step rl rs (run rl rs σ events) e := by
        simp only [run, List.foldl_append, List.foldl_cons, List.foldl_nil]
      rw [hrun]
      cases e with
      | handle i => simp [step_handle_config, ih, lastConfig, addedSinceLastUpdate, Event.newConfig,
          Event.addedPath]
      | updateConfig config =>
          cases config with
          | none => simp [step, ih, lastConfig, addedSinceLastUpdate, Event.newConfig,
              Event.addedPath]
          | some c => simp [step, lastConfig, addedSinceLastUpdate, Event.newConfig,
              RateLimitConfig.appendSkipPaths]
      | addSkipPath path =>
          simp [step, ih, lastConfig, addedSinceLastUpdate, Event.newConfig, Event.addedPath,
            RateLimitConfig.appendSkipPaths]

/-- The first step never leaves a request waiting, and leaves it checked only on the limiter's
yes, for its identifier and key. -/
theorem checkStep_checked {σ : Middleware L} {r : Request} {clientID apiKey : String}
    (h : (checkStep rl σ r).1 = .checked clientID apiKey) :
    rl.checkLimit σ.limiter clientID apiKey = true := by
  unfold checkStep at h
  split_ifs at h
  split at h
  · split at h <;> simp only [RequestPhase.done.injEq, RequestPhase.checked.injEq, reduceCtorEq] at h
    rename_i hl
    obtain ⟨rfl, rfl⟩ := h
    unfold limiterAnswer at hl
    split_ifs at hl
    exact Option.some.inj hl
  · simp at h

/-- The middleware asks the limiter about a request on this path: it is enabled, the path is not
skipped, and the configuration asks for a ready component that has a limiter. -/
def AsksLimiter (σ : Middleware L) (path : String) : Prop :=
  σ.config.enabled = true ∧ shouldSkipPath σ.config path = false ∧
    σ.config.useAuthRateLimiter = true ∧
    ∃ a, σ.auth = some a ∧ a.isReady = true ∧ a.hasRateLimiter = true

/-- Where the limiter is asked and says yes, the first step leaves the request checked. -/
theorem checkStep_of_checkLimit {σ : Middleware L} {r : Request} (h : AsksLimiter σ r.path)
    (hyes : rl.checkLimit σ.limiter (getClientIdentifier r) (extractAPIKey r) = true) :
    checkStep rl σ r = (.checked (getClientIdentifier r) (extractAPIKey r), σ.audit) := by
  obtain ⟨hen, hskip, hu, a, ha, hready, hlim⟩ := h
  simp [checkStep, hen, hskip, hu, ha, limiterAnswer, hready, hlim, hyes]

end

/-! ### The limiter's budget in serial runs -/

section Budget

variable {L : Type} (rl : RateLimiter L) (rs : List Request) (used : L → String → ℕ) (limit : ℕ)

/-- The budget invariant of serial runs: no client has used more than the limit, and a request
between its check and its record is the only one, and its client has room left. -/
structure Budget (σ : Middleware L) : Prop where
  within : ∀ c, used σ.limiter c ≤ limit
  checked : ∀ i c k, σ.phase i = .checked c k →
    used σ.limiter c < limit ∧ ∀ j, j ≠ i → (σ.phase j).isChecked = false

variable {rl used limit}

theorem Budget.of_eq {σ σ' : Middleware L} (hb : Budget used limit σ)
    (hl : σ'.limiter = σ.limiter) (hp : σ'.phase = σ.phase) : Budget used limit σ' :=
  ⟨hl ▸ hb.within, hl ▸ hp ▸ hb.checked⟩

/-- The budget survives every step serial handling allows, for a limiter that says yes only to
a client with room left and whose record counts one request of that client. -/
theorem budget_step (hcheck : ∀ l c k, rl.checkLimit l c k = true → used l c < limit)
    (hrecord : ∀ l c k c', used (rl.recordRequest l c k) c' = used l c' + if c' = c then 1 else 0)
    {σ : Middleware L} {e : Event} (hb : Budget used limit σ) (ha : Allowed σ e) :
    Budget used limit (step rl rs σ e) := by
  cases e with
  | updateConfig config =>
      have h := step_config rl rs σ (e := .updateConfig config) (fun _ => nofun)
      exact hb.of_eq h.1 h.2
  | addSkipPath path =>
      have h := step_config rl rs σ (e := .addSkipPath path) (fun _ => nofun)
      exact hb.of_eq h.1 h.2
  | handle i =>
    have hother := fun j (hj : j ≠ i) => step_phase_of_ne rl rs σ hj
    rcases hr : rs[i]? with _ | r
    · exact hb.of_eq (by simp [step, hr]) (by simp [step, hr])
    rcases hp : σ.phase i with _ | ⟨c, k⟩ | o
    · -- the check: only the limiter's yes leaves the request checked
      have hs : (step rl rs σ (.handle i)).phase i = (checkStep rl σ r).1 ∧
          (step rl rs σ (.handle i)).limiter = σ.limiter := by simp [step, hr, hp]
      have hidle := ha hp
      refine ⟨fun c => hs.2 ▸ hb.within c, fun j c k hj => ?_⟩
      by_cases hji : j = i
      · subst hji
        refine ⟨hs.2 ▸ hcheck _ _ _ (checkStep_checked rl (hs.1 ▸ hj)), fun j' hj' => ?_⟩
        rw [hother j' hj']
        exact hidle j'
      · have := hidle j
        rw [← hother j hji, hj] at this
        simp [RequestPhase.isChecked] at this
    · -- the record: the checked request's client had room for one more
      have hs : (step rl rs σ (.handle i)).phase i = .done (.next
            (addRateLimitHeaders σ.config σ.auth r.now)) ∧
          (step rl rs σ (.handle i)).limiter = rl.recordRequest σ.limiter c k := by
        simp [step, hr, hp]
      obtain ⟨hroom, halone⟩ := hb.checked i c k hp
      refine ⟨fun c' => ?_, fun j c' k' hj => ?_⟩
      · rw [hs.2, hrecord]
        have := hb.within c'
        split_ifs with hc
        · subst hc; omega
        · omega
      · by_cases hji : j = i
        · subst hji; simp [hs.1] at hj
        · have := halone j hji
          rw [← hother j hji, hj] at this
          simp [RequestPhase.isChecked] at this
    · exact hb.of_eq (by simp [step, hr, hp]) (by simp [step, hr, hp])

/-- The budget holds along every serial run. -/
theorem budget_run (hcheck : ∀ l c k, rl.checkLimit l c k = true → used l c < limit)
    (hrecord : ∀ l c k c', used (rl.recordRequest l c k) c' = used l c' + if c' = c then 1 else 0)
    {σ : Middleware L} {events : List Event} (hb : Budget used limit σ)
    (hs : SerialRun rl rs σ events) : Budget used limit (run rl rs σ events) := by
  induction events generalizing σ with
  | nil => exact hb
  | cons e events ih => exact ih (budget_step rs hcheck hrecord hb hs.1) hs.2

end Budget

/-- **In serial runs no client's usage ever passes the limit.**  For a limiter that says yes only
to a client with room left and whose record counts one request of that client, every run in
which no request starts while another is between its check and its record, with any
configuration changes in between, keeps every client within the limit. -/
theorem serial_usage_within_limit {L : Type} (rl : RateLimiter L) (used : L → String → ℕ)
    (limit : ℕ) (hcheck : ∀ l c k, rl.checkLimit l c k = true → used l c < limit)
    (hrecord : ∀ l c k c', used (rl.recordRequest l c k) c' = used l c' + if c' = c then 1 else 0)
    (rs : List Request) (config : RateLimitConfig) (auth : Option AuthComponent) (limiter : L)
    (hlimiter : ∀ c, used limiter c ≤ limit) (events : List Event)
    (hserial : SerialRun rl rs (init config auth limiter) events) :
    ∀ c, used (run rl rs (init config auth limiter) events).limiter c ≤ limit :=
  (budget_run rs hcheck hrecord ⟨hlimiter, fun _ _ _ h => by simp [init] at h⟩ hserial).within

/-! ### The audit log in every interleaving -/

section Audit

variable {L : Type} (rl : RateLimiter L) (rs : List Request)

/-- The entry `checkAuthRateLimit` has the audit logger record for a refused request. -/
def refusalEntry (r : Request) : AuditEntry :=
  ⟨getClientIdentifier r, r.userAgent, r.method, r.path, r.authorization, "Rate limit exceeded"⟩

/-- The entry of the request with index `j` in phase `ph`: its refusal entry if it was refused. -/
def entryOf (j : ℕ) (ph : RequestPhase) : Option AuditEntry :=
  if ph = .done .tooManyRequests then rs[j]?.map refusalEntry else none

/-- The entries of the requests refused so far, in the order of their indices. -/
def refusedEntries (σ : Middleware L) : List AuditEntry :=
  (List.range rs.length).filterMap fun j => entryOf rs j (σ.phase j)

/-- Whether the component has an audit logger. -/
def auditing (σ : Middleware L) : Bool := σ.auth.any (·.hasAuditLogger)

/-- The audit log holds, up to order, the entries of the refused requests when there is an audit
logger, and nothing without one. -/
def AuditInv (σ : Middleware L) : Prop :=
  σ.audit.Perm (if σ.auditing then refusedEntries rs σ else [])

theorem filterMap_range_update {α β : Type} (g : ℕ → α → Option β) (f : ℕ → α) {i : ℕ} (v : α)
    (hi : g i (f i) = none) :
    ∀ n, i < n → ((List.range n).filterMap fun j => g j (Function.update f i v j)).Perm
      (((List.range n).filterMap fun j => g j (f j)) ++ (g i v).toList)
  | 0, h => absurd h (Nat.not_lt_zero i)
  | n + 1, h => by
    simp only [List.range_succ, List.filterMap_append]
    rcases Nat.lt_succ_iff_lt_or_eq.mp h with h | rfl
    · simp only [List.filterMap_cons, List.filterMap_nil, Function.update_noteq (Nat.ne_of_gt h)]
      refine ((filterMap_range_update g f v hi n h).append_right _).trans ?_
      simpa only [List.append_assoc] using List.perm_append_comm.append_left _
    · have hsame : ((List.range i).filterMap fun j => g j (Function.update f i v j)) =
          (List.range i).filterMap fun j => g j (f j) :=
        List.filterMap_congr fun j hj => by
          rw [Function.update_noteq (Nat.ne_of_lt (List.mem_range.mp hj))]
      rw [hsame]
      cases hv : g i v <;> simp [hi, hv]

/-- The first step adds an audit entry exactly when it refuses the request and there is an audit
logger: the request's refusal entry. -/
theorem checkStep_audit (σ : Middleware L) (r : Request) :
    (checkStep rl σ r).2 = σ.audit ++
      if (checkStep rl σ r).1 = .done .tooManyRequests ∧ σ.auditing then [refusalEntry r]
      else [] := by
  unfold checkStep
  by_cases hen : σ.config.enabled
  · by_cases hskip : shouldSkipPath σ.config r.path
    · simp [hen, hskip]
    · rcases hu : σ.config.useAuthRateLimiter
      · simp [hen, hskip, hu]
      · rcases ha : σ.auth with _ | a
        · simp [hen, hskip, hu, ha]
        · rcases hl : limiterAnswer rl a σ.limiter r (getClientIdentifier r) with _ | _ | _ <;>
            simp [hen, hskip, hu, ha, hl, auditing, auditEntries]
          split <;> rfl
  · simp [hen]

theorem step_auth (σ : Middleware L) (e : Event) : (step rl rs σ e).auth = σ.auth := by
  cases e with
  | handle i => simp only [step]; split <;> rfl
  | updateConfig config => cases config <;> rfl
  | addSkipPath path => rfl

theorem run_auth (σ : Middleware L) (events : List Event) : (run rl rs σ events).auth = σ.auth := by
  induction events generalizing σ with
  | nil => rfl
  | cons e events ih => rw [run_cons, ih, step_auth]

/-- A step that appends, when there is an audit logger, the entries of the requests it refuses
keeps the invariant. -/
theorem auditInv_of_added {σ σ' : Middleware L} (h : AuditInv rs σ)
    (hau : σ'.auditing = σ.auditing) (added : List AuditEntry)
    (haudit : σ'.audit = σ.audit ++ if σ.auditing then added else [])
    (hrefused : (refusedEntries rs σ').Perm (refusedEntries rs σ ++ added)) : AuditInv rs σ' := by
  unfold AuditInv at *
  rw [haudit, hau]
  cases hA : σ.auditing <;> simp only [hA, if_true, Bool.false_eq_true, if_false] at h ⊢
  · simpa using h
  · exact (h.append_right added).trans hrefused.symm

/-- **One step keeps the audit log in step with the refusals**: the first step of a request
appends its refusal entry when it refuses it, and no other step writes the log or refuses. -/
theorem auditInv_step {σ : Middleware L} (h : AuditInv rs σ) (e : Event) :
    AuditInv rs (step rl rs σ e) := by
  cases e with
  | updateConfig config => cases config <;> exact h
  | addSkipPath path => exact h
  | handle i =>
    rcases hr : rs[i]? with _ | r
    · simpa [step, hr] using h
    have hi : i < rs.length := (List.getElem?_eq_some_iff.mp hr).1
    have hupdate := fun v (hv : σ.phase i ≠ .done .tooManyRequests) =>
      filterMap_range_update (entryOf rs) σ.phase v (by simp [entryOf, hv]) rs.length hi
    rcases hp : σ.phase i with _ | ⟨c, k⟩ | o
    · have hentry : entryOf rs i (checkStep rl σ r).1 =
          if (checkStep rl σ r).1 = .done .tooManyRequests then some (refusalEntry r) else none := by
        simp only [entryOf, hr, Option.map_some']
      simp only [step, hr, hp]
      refine auditInv_of_added rs h rfl _ ?_ (hupdate _ (by simp [hp]))
      rw [checkStep_audit, hentry]
      by_cases hv : (checkStep rl σ r).1 = .done .tooManyRequests <;> cases σ.auditing <;>
        simp [hv]
    · simp only [step, hr, hp]
      refine auditInv_of_added rs h rfl [] (by simp) ?_
      simpa [entryOf] using hupdate (.done (.next (addRateLimitHeaders σ.config σ.auth r.now)))
        (by simp [hp])
    · simpa [step, hr, hp] using h

theorem auditInv_run {σ : Middleware L} (h : AuditInv rs σ) (events : List Event) :
    AuditInv rs (run rl rs σ events) := by
  induction events generalizing σ with
  | nil => exact h
  | cons e events ih => exact ih (auditInv_step rl rs h e)

/-- **The audit log holds one entry per refused request, in every interleaving.**  With an audit
logger, its entries are, up to order, those of the refused requests, each with the request's
client identifier, `User-Agent`, method, path and `Authorization` and the reason
`Rate limit exceeded`; without one, it stays empty. -/
theorem audit_entry_per_refusal {L : Type} (rl : RateLimiter L) (rs : List Request)
    (config : RateLimitConfig) (auth : Option AuthComponent) (limiter : L) (events : List Event) :
    (run rl rs (init config auth limiter) events).audit.Perm
      (if auth.any (·.hasAuditLogger) then
        refusedEntries rs (run rl rs (init config auth limiter) events)
      else []) := by
  have hinit : AuditInv rs (init config auth limiter) := by
    simp only [AuditInv, refusedEntries, entryOf, init]
    split <;> simp
  have h := auditInv_run rl rs hinit events
  rwa [AuditInv, auditing, run_auth] at h

end Audit

/-! ### The check-then-record race -/

/-- **Two requests of one client that find one slot left both get through when interleaved.**  For
a limiter that says yes exactly to a client with room left and whose record counts one request of
that client: when two waiting requests with the same identifier find the limiter asked and their
client one request short of the limit, the interleaving check, check, record, record lets both
through and leaves the client one request over the limit. -/
theorem interleaved_requests_exceed_limit {L : Type} (rl : RateLimiter L)
    (used : L → String → ℕ) (limit : ℕ)
    (hcheck : ∀ l c k, rl.checkLimit l c k = true ↔ used l c < limit)
    (hrecord : ∀ l c k c', used (rl.recordRequest l c k) c' = used l c' + if c' = c then 1 else 0)
    (rs : List Request) (σ : Middleware L) {i j : ℕ} {ri rj : Request} (hij : i ≠ j)
    (hri : rs[i]? = some ri) (hrj : rs[j]? = some rj) (hwi : σ.phase i = .waiting)
    (hwj : σ.phase j = .waiting) (hsame : getClientIdentifier rj = getClientIdentifier ri)
    (hask : AsksLimiter σ ri.path ∧ AsksLimiter σ rj.path)
    (hroom : used σ.limiter (getClientIdentifier ri) + 1 = limit) :
    (run rl rs σ [.handle i, .handle j, .handle i, .handle j]).phase i =
        .done (.next (addRateLimitHeaders σ.config σ.auth ri.now)) ∧
      (run rl rs σ [.handle i, .handle j, .handle i, .handle j]).phase j =
        .done (.next (addRateLimitHeaders σ.config σ.auth rj.now)) ∧
      used (run rl rs σ [.handle i, .handle j, .handle i, .handle j]).limiter
        (getClientIdentifier ri) = limit + 1 := by
  have hyes : ∀ r k, getClientIdentifier r = getClientIdentifier ri →
      rl.checkLimit σ.limiter (getClientIdentifier r) k = true :=
    fun r k h => (hcheck _ _ _).2 (by rw [h]; omega)
  have hi := checkStep_of_checkLimit rl hask.1 (hyes ri _ rfl)
  have hj := checkStep_of_checkLimit rl (σ := { σ with
      phase := Function.update σ.phase i (.checked (getClientIdentifier ri) (extractAPIKey ri)) })
    hask.2 (hyes rj _ hsame)
  simp [step, hri, hrj, hwi, hwj, hi, hj, Function.update_noteq hij, Function.update_noteq hij.symm,
    hrecord, hsame]
  omega

/-- A limiter that counts the requests it recorded, per client, against a fixed limit. -/
def countingLimiter (limit : ℕ) : RateLimiter (List String) where
  checkLimit recorded clientID _ := decide (recorded.count clientID < limit)
  recordRequest recorded clientID _ := recorded ++ [clientID]

theorem countingLimiter_checkLimit (limit : ℕ) (l : List String) (c k : String) :
    (countingLimiter limit).checkLimit l c k = true ↔ l.count c < limit := by
  simp [countingLimiter]

theorem countingLimiter_recordRequest (limit : ℕ) (l : List String) (c k c' : String) :
    ((countingLimiter limit).recordRequest l c k).count c' =
      l.count c' + if c' = c then 1 else 0 := by
  simp [countingLimiter, List.count_singleton, eq_comm (a := c)]

/-- A request without an API key. -/
def anonymousRequest : Request where
  path := "/api/v1/processes"
  method := "GET"
  clientIP := "10.0.0.1"

/-- A ready component with a limiter and an audit logger. -/
def readyAuth : AuthComponent := ⟨true, true, true⟩

/-- The middleware with the default configuration and an empty counting limiter. -/
def fresh : Middleware (List String) := init defaultRateLimitConfig (some readyAuth) []

theorem run_alone_at_anonymous_request :
    [anonymousRequest][0]? = some anonymousRequest ∧ fresh.phase 0 = .waiting ∧
      (run (countingLimiter 1) [anonymousRequest] fresh [.handle 0, .handle 0]).phase 0 =
        .done (handler (countingLimiter 1) fresh.config fresh.auth fresh.limiter fresh.audit
          anonymousRequest).1 ∧
      (run (countingLimiter 1) [anonymousRequest] fresh [.handle 0, .handle 0]).limiter =
        (handler (countingLimiter 1) fresh.config fresh.auth fresh.limiter fresh.audit
          anonymousRequest).2.1 ∧
      (run (countingLimiter 1) [anonymousRequest] fresh [.handle 0, .handle 0]).audit =
        (handler (countingLimiter 1) fresh.config fresh.auth fresh.limiter fresh.audit
          anonymousRequest).2.2 :=
  ⟨rfl, rfl, run_alone (countingLimiter 1) [anonymousRequest] fresh rfl rfl⟩

theorem serial_usage_within_limit_at_two_requests :
    (∀ l c k, (countingLimiter 1).checkLimit l c k = true → l.count c < 1) ∧
      (∀ l c k c', ((countingLimiter 1).recordRequest l c k).count c' =
        l.count c' + if c' = c then 1 else 0) ∧
      (∀ c, ([] : List String).count c ≤ 1) ∧
      SerialRun (countingLimiter 1) [anonymousRequest, anonymousRequest] fresh
        [.handle 0, .handle 0, .handle 1, .handle 1] ∧
      ∀ c, (run (countingLimiter 1) [anonymousRequest, anonymousRequest] fresh
        [.handle 0, .handle 0, .handle 1, .handle 1]).limiter.count c ≤ 1 := by
  have hcheck := fun l c k => (countingLimiter_checkLimit 1 l c k).1
  have hserial : SerialRun (countingLimiter 1) [anonymousRequest, anonymousRequest] fresh
      [.handle 0, .handle 0, .handle 1, .handle 1] := by
    refine ⟨fun _ _ => rfl, fun h => absurd h (by decide), fun _ j => ?_,
      fun h => absurd h (by decide), trivial⟩
    show ((run (countingLimiter 1) [anonymousRequest, anonymousRequest] fresh
      [.handle 0, .handle 0]).phase j).isChecked = false
    by_cases hj : j = 0
    · subst hj; decide
    · rw [run_phase_of_not_mem _ _ _ _ (by simp [hj])]; rfl
  exact ⟨hcheck, countingLimiter_recordRequest 1, fun _ => by simp, hserial,
    serial_usage_within_limit (countingLimiter 1) (fun l c => l.count c) 1 hcheck
      (countingLimiter_recordRequest 1) _ _ _ _ (fun _ => by simp) _ hserial⟩

/-- Run one after the other, the second of two requests of one client is refused by a limiter
with room for one. -/
example :
    (run (countingLimiter 1) [anonymousRequest, anonymousRequest] fresh
      [.handle 0, .handle 0, .handle 1, .handle 1]).phase 1 = .done .tooManyRequests := by
  decide

theorem interleaved_requests_exceed_limit_at_anonymous_requests :
    (∀ l c k, (countingLimiter 1).checkLimit l c k = true ↔ l.count c < 1) ∧
      (∀ l c k c', ((countingLimiter 1).recordRequest l c k).count c' =
        l.count c' + if c' = c then 1 else 0) ∧
      (0 : ℕ) ≠ 1 ∧
      [anonymousRequest, anonymousRequest][0]? = some anonymousRequest ∧
      [anonymousRequest, anonymousRequest][1]? = some anonymousRequest ∧
      fresh.phase 0 = .waiting ∧ fresh.phase 1 = .waiting ∧
      getClientIdentifier anonymousRequest = getClientIdentifier anonymousRequest ∧
      (AsksLimiter fresh anonymousRequest.path ∧ AsksLimiter fresh anonymousRequest.path) ∧
      fresh.limiter.count (getClientIdentifier anonymousRequest) + 1 = 1 ∧
      ((run (countingLimiter 1) [anonymousRequest, anonymousRequest] fresh
          [.handle 0, .handle 1, .handle 0, .handle 1]).phase 0 =
        .done (.next (addRateLimitHeaders fresh.config fresh.auth anonymousRequest.now)) ∧
      (run (countingLimiter 1) [anonymousRequest, anonymousRequest] fresh
          [.handle 0, .handle 1, .handle 0, .handle 1]).phase 1 =
        .done (.next (addRateLimitHeaders fresh.config fresh.auth anonymousRequest.now)) ∧
      (run (countingLimiter 1) [anonymousRequest, anonymousRequest] fresh
          [.handle 0, .handle 1, .handle 0, .handle 1]).limiter.count
        (getClientIdentifier anonymousRequest) = 1 + 1) := by
  have hask : AsksLimiter fresh anonymousRequest.path :=
    ⟨rfl, by decide, rfl, readyAuth, rfl, rfl, rfl⟩
  exact ⟨countingLimiter_checkLimit 1, countingLimiter_recordRequest 1, by decide, rfl, rfl, rfl,
    rfl, rfl, ⟨hask, hask⟩, rfl,
    interleaved_requests_exceed_limit (countingLimiter 1) (fun l c => l.count c) 1
      (countingLimiter_checkLimit 1) (countingLimiter_recordRequest 1) _ fresh (by decide) rfl rfl
      rfl rfl rfl ⟨hask, hask⟩ rfl⟩

end Middleware

end AtomEngine
