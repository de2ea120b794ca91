/- Module: Sunbolt/Control/StartedAccounts
   scope: sunbolt-control/src/state.rs, sunbolt-control/src/routes/auth.rs, sunbolt-auth/src/lib.rs
   digest: Who can ever use a control plane that has started. -/

import Sunbolt.Control.AuthRuns
import Sunbolt.Control.Startup

set_option autoImplicit false
set_option relaxedAutoImplicit false

namespace Sunbolt.Control

open Sunbolt.Library
open Sunbolt.Auth (AuthConfig AuthStore Primitives StoredUser User normalizeEmail passwordHash trim)

/-- The requests of the auth routes. -/
inductive AuthRoute where
  | login (request : LoginRequest)
  | logout (headers : Cookies)
  | me (headers : Cookies)
  | terminalAccess (headers : Cookies)
  | mfaStepUp (headers : Cookies) (request : StepUpMfaRequest)

def AuthRoute.job : AuthRoute → AuthJob
  | .login request => .login request
  | .logout headers => .logout headers
  | .me headers => .me headers
  | .terminalAccess headers => .terminalAccess headers
  | .mfaStepUp headers request => .mfaStepUp headers request

/-- The runs of any number of requests, in any order, from the start of the service. -/
def ServiceConfig.Reaches (config : ServiceConfig) (primitives : Primitives)
    (history : List AuthEvent) (pool : AuthPool) : Prop :=
  (authService primitives config.toAuthConfig).Reaches AuthRoute.job (config.service primitives)
    history pool

/-- The account that the service starts with. -/
def ServiceConfig.admin (config : ServiceConfig) : User :=
  ⟨1, normalizeEmail config.adminEmail, .admin⟩

/-- The user that a call has found to be the one who asks. -/
def identified (x : Interaction AuthAction AuthReply) : Option User :=
  match x with
  | ⟨.login _ _ _, .ok (user, _)⟩ => some user
  | ⟨.currentUser _, found⟩ => found
  | _ => none

/-- A response that is not an error. -/
def isGranted : AuthResponse → Bool
  | .error _ _ => false
  | _ => true

/-- Nobody but the account of the start is ever served, and with its password only. -/
structure SoleAccount (primitives : Primitives) (config : ServiceConfig)
    (history : List AuthEvent) : Prop where
  identified : ∀ e ∈ history, ∀ user, identified e.interaction = some user →
    config.bootstrapAdmin = true ∧ user = config.admin
  login : ∀ e ∈ history, ∀ email password now, e.action = .login email password now →
    ((issued e.interaction).isSome = true ↔ config.bootstrapAdmin = true ∧
      normalizeEmail email = normalizeEmail config.adminEmail ∧
      passwordHash primitives password = passwordHash primitives config.adminPassword)
  granted : ∀ e ∈ history, ∀ response, e.action = .respond response → isGranted response = true →
    config.bootstrapAdmin = true
  shown : ∀ e ∈ history, ∀ user cookie, e.action = .respond (.user user cookie) →
    user = config.admin

/-! What the routes call. -/

/-- A call of a route: it changes no account, and grants only what someone has been identified
    for. -/
def routeAct (past : List (Interaction AuthAction AuthReply)) (action : AuthAction) : Prop :=
  (∀ email password role, action ≠ .upsertUser email password role) ∧
  (∀ response, action = .respond response → isGranted response = true →
    ∃ x ∈ past, (identified x).isSome = true) ∧
  ∀ user cookie, action = .respond (.user user cookie) → ∃ x ∈ past, identified x = some user

def routeOrder : Discipline AuthAction AuthReply AuthJob :=
  ⟨fun _ past action => routeAct past action,
    fun origin job past => job = origin ∧ past = [] ∧ ∃ route : AuthRoute, origin = route.job,
    fun _ _ => True⟩

section Bodies

variable (config : AuthConfig) {past : List (Interaction AuthAction AuthReply)}

attribute [local simp] auth respond recordAudit Program.perform

private theorem route_authLogin (request : LoginRequest) :
    (authLogin config request).All routeAct [] (fun _ _ => True) := by
  rw [authLogin, Program.all_bind]
  refine ⟨by simp [routeAct], fun allowed => ?_⟩
  rw [Program.all_done, Program.all_ite]
  refine ⟨fun _ => by simp [routeAct, isGranted], fun _ => ?_⟩
  rw [Program.all_bind]
  refine ⟨by simp [routeAct], fun now => ?_⟩
  rw [Program.all_done, Program.all_bind]
  refine ⟨by simp [routeAct], fun result => ?_⟩
  rw [Program.all_done]
  cases result with
  | error error => cases error <;> simp [routeAct, isGranted]
  | ok session =>
    obtain ⟨user, token⟩ := session
    rw [Program.all_bind]
    refine ⟨by simp [routeAct], fun _ => ?_⟩
    cases headerValue (config.sessionCookieHeader token) <;>
      simp [routeAct, isGranted, identified]

/-- A call that serves the user. -/
private def Serving (user : User) (action : AuthAction) : Prop :=
  (∀ email password role, action ≠ .upsertUser email password role) ∧
  ∀ other cookie, action = .respond (.user other cookie) → other = user

/-- For a user who has been identified a route may make any calls that serve him. -/
private theorem route_of_serving {user : User} {p : AuthProgram Unit}
    (known : ∃ x ∈ past, identified x = some user) (h : p.Each (Serving user) (fun _ => True)) :
    p.All routeAct past (fun _ _ => True) := by
  apply h.all
  · intro extra action _ serving
    obtain ⟨x, hx, huser⟩ := known
    have hmem : x ∈ past ++ extra := List.mem_append_left _ hx
    refine ⟨serving.1, fun response hresponse hgranted => ⟨x, hmem, ?_⟩, ?_⟩
    · rw [huser]
      rfl
    · intro other cookie hother
      rw [serving.2 other cookie hother]
      exact ⟨x, hmem, huser⟩
  · intro extra value _ _
    trivial

private theorem route_requireAuth {headers : Cookies} {next : User → AuthProgram Unit}
    (h : ∀ user, (next user).Each (Serving user) (fun _ => True)) :
    (requireAuthMiddleware headers next).All routeAct [] (fun _ _ => True) := by
  rw [requireAuthMiddleware]
  cases sessionTokenFromHeaders headers with
  | none => simp [routeAct, isGranted]
  | some token =>
    rw [Program.all_bind]
    refine ⟨by simp [routeAct], fun found => ?_⟩
    rw [Program.all_done]
    cases found with
    | none => simp [routeAct, isGranted]
    | some user =>
      apply route_of_serving _ (h user)
      exact ⟨⟨.currentUser token, some user⟩, by simp, rfl⟩

attribute [local simp] Serving

private theorem serving_authLogout (headers : Cookies) (user : User) :
    (authLogout config headers user).Each (Serving user) (fun _ => True) := by
  rw [authLogout]
  cases sessionTokenFromHeaders headers <;> simp

private theorem serving_authMe (user : User) :
    (authMe user).Each (Serving user) (fun _ => True) := by
  simp [authMe]

private theorem serving_authTerminalAccess (headers : Cookies) (user : User) :
    (authTerminalAccess config headers).Each (Serving user) (fun _ => True) := by
  apply Program.Each.then (Q := fun _ => True)
  · rw [authorizeTerminalRequest]
    cases sessionTokenFromHeaders headers with
    | none => simp
    | some token =>
      apply Program.Each.then (by simp)
      intro found
      cases found with
      | none => simp
      | some other =>
        rw [Program.each_ite]
        refine ⟨fun _ => by simp, fun _ => Program.Each.then ?_ (fun opened => by simp)⟩
        simp [canOpenTerminalWithSession]
  · intro result
    cases result <;> simp

private theorem serving_authMfaStepUp (headers : Cookies) (request : StepUpMfaRequest)
    (user : User) : (authMfaStepUp headers request user).Each (Serving user) (fun _ => True) := by
  apply Program.Each.then (by simp)
  intro allowed
  rw [Program.each_ite]
  refine ⟨fun _ => by simp, fun _ => Program.Each.then (by simp) (fun _ => ?_)⟩
  cases sessionTokenFromHeaders headers with
  | none => simp
  | some token =>
    apply Program.Each.then (by simp)
    intro result
    cases result with
    | ok recorded => simp
    | error error => cases error <;> simp

end Bodies

/-- The routes keep this order. -/
theorem routeOrder_sound (primitives : Primitives) (config : AuthConfig) :
    routeOrder.Sound (authService primitives config) AuthRoute.job where
  entered route := ⟨rfl, rfl, route, rfl⟩
  spawned hout stage hstage := by
    obtain ⟨out, -, rfl⟩ := Option.map_eq_some_iff.mp hout
    cases hstage
  body {origin job past} head := by
    obtain ⟨rfl, rfl, route, rfl⟩ := head
    change (route.job.program primitives config >>= fun _ => pure none).All routeAct [] _
    rw [Program.all_bind]
    cases route with
    | login request => exact route_authLogin config request
    | logout headers => exact route_requireAuth (serving_authLogout config headers)
    | me headers => exact route_requireAuth serving_authMe
    | terminalAccess headers =>
      exact route_requireAuth (serving_authTerminalAccess config headers)
    | mfaStepUp headers request => exact route_requireAuth (serving_authMfaStepUp headers request)

/-! The account of the start. -/

/-- The settings name an account that can be added. -/
structure ServiceConfig.Usable (config : ServiceConfig) : Prop where
  email : trim config.adminEmail.toList ≠ []
  password : config.adminPassword ≠ ""

section Start

variable {primitives : Primitives} {config : ServiceConfig}

/-- What is read from the environment, or stands in for it, is not blank. -/
theorem envText_getD {value : Option String} {default : String}
    (h : trim default.toList ≠ []) : trim ((envText value).getD default).toList ≠ [] := by
  cases hvalue : envText value with
  | none => exact h
  | some text =>
    obtain ⟨-, htext⟩ := Option.filter_eq_some_iff.mp hvalue
    exact of_decide_eq_true htext

theorem usable_fromEnv (env : Env) : (ServiceConfig.fromEnv env).Usable where
  email := envText_getD (by decide +kernel)
  password := by
    have hpassword : trim (ServiceConfig.fromEnv env).adminPassword.toList ≠ [] :=
      envText_getD (by decide +kernel)
    intro hempty
    rw [hempty] at hpassword
    exact hpassword (by decide +kernel)

/-- The service starts without accounts, or with the one account. -/
theorem accounts_service (primitives : Primitives) (usable : config.Usable) :
    (config.service primitives).store.accounts = if config.bootstrapAdmin then
      (AList.insert 1 ⟨config.admin, passwordHash primitives config.adminPassword⟩ ∅,
        AList.insert (normalizeEmail config.adminEmail) 1 ∅, 2)
    else (∅, ∅, 1) := by
  rw [ServiceConfig.service]
  split_ifs with hbootstrap
  · have hpassword : config.adminPassword.isEmpty ≠ true := by
      rw [Ne, String.isEmpty_iff]
      exact usable.password
    dsimp only [AuthStore.accounts]
    rw [AuthStore.upsertUser, if_neg usable.email, if_neg hpassword]
    rfl
  · rfl

variable {store : AuthStore}

theorem lookup_email_iff (usable : config.Usable)
    (same : store.accounts = (config.service primitives).store.accounts) {email : String}
    {userId : Nat} : store.userIdsByEmail.lookup email = some userId ↔
      config.bootstrapAdmin = true ∧ email = normalizeEmail config.adminEmail ∧ userId = 1 := by
  rw [accounts_service primitives usable, AuthStore.accounts] at same
  split_ifs at same with hbootstrap
  · have hemails := congrArg (fun accounts => accounts.2.1) same
    dsimp only at hemails
    rw [hemails, Table.lookup_insert, hbootstrap]
    split_ifs with hemail
    · simp [hemail, eq_comm]
    · simp [hemail]
  · have hemails := congrArg (fun accounts => accounts.2.1) same
    dsimp only at hemails
    rw [hemails]
    simp [hbootstrap]

theorem lookup_user_iff (usable : config.Usable)
    (same : store.accounts = (config.service primitives).store.accounts) {userId : Nat}
    {stored : StoredUser} : store.usersById.lookup userId = some stored ↔
      config.bootstrapAdmin = true ∧ userId = 1 ∧
        stored = ⟨config.admin, passwordHash primitives config.adminPassword⟩ := by
  rw [accounts_service primitives usable, AuthStore.accounts] at same
  split_ifs at same with hbootstrap
  · have husers := congrArg (fun accounts => accounts.1) same
    dsimp only at husers
    rw [husers, Table.lookup_insert, hbootstrap]
    split_ifs with hid
    · simp [hid, eq_comm]
    · simp [hid]
  · have husers := congrArg (fun accounts => accounts.1) same
    dsimp only at husers
    rw [husers]
    simp [hbootstrap]

/-- A login succeeds exactly with the email and the password of the account. -/
theorem login_iff (usable : config.Usable)
    (same : store.accounts = (config.service primitives).store.accounts)
    (email password : String) (now : Nat) (token : String) :
    (∃ user, (store.login primitives config.toAuthConfig email password now token).2 =
        .ok (user, token)) ↔
      config.bootstrapAdmin = true ∧ normalizeEmail email = normalizeEmail config.adminEmail ∧
        passwordHash primitives password = passwordHash primitives config.adminPassword := by
  rcases store.login_cases primitives config.toAuthConfig email password now token with
    ⟨error, heq, hwrong⟩ | ⟨userId, stored, hid, hstored, hhash, heq⟩
  · rw [heq]
    constructor
    · rintro ⟨user, hok⟩
      cases hok
    · rintro ⟨hbootstrap, hemail, hpassword⟩
      have hid : store.userIdsByEmail.lookup (normalizeEmail email) = some 1 :=
        (lookup_email_iff usable same).mpr ⟨hbootstrap, hemail, rfl⟩
      have hstored := (lookup_user_iff usable same).mpr ⟨hbootstrap, @rfl Nat 1, rfl⟩
      exact absurd hpassword.symm (hwrong 1 _ hid hstored)
  · rw [heq]
    obtain ⟨hbootstrap, hemail, -⟩ := (lookup_email_iff usable same).mp hid
    obtain ⟨-, -, rfl⟩ := (lookup_user_iff usable same).mp hstored
    exact ⟨fun _ => ⟨hbootstrap, hemail, hhash.symm⟩, fun _ => ⟨config.admin, rfl⟩⟩

end Start

section Runs

variable {primitives : Primitives} {config : ServiceConfig} {history : List AuthEvent}
  {pool : AuthPool}

/-- The routes change no account. -/
theorem ServiceConfig.Reaches.accounts (h : config.Reaches primitives history pool) :
    pool.shared.store.accounts = (config.service primitives).store.accounts := by
  apply (Service.Reaches.invariant (routeOrder_sound primitives config.toAuthConfig)
    (I := fun _ state => state.store.accounts = (config.service primitives).store.accounts)
    rfl _ h).2
  intro history state i origin action choice out held act hout
  exact ((performAuth_frame (authService_perform hout)).accounts act.1).trans held

/-- Every call finds the accounts of the start. -/
theorem ServiceConfig.Reaches.found (h : config.Reaches primitives history pool) {e : AuthEvent}
    (he : e ∈ history) : e.before.store.accounts = (config.service primitives).store.accounts ∧
      ∃ choice, performAuth primitives config.toAuthConfig e.before e.action choice =
        some (e.reply, e.after) := by
  obtain ⟨front, back, hsplit⟩ := List.append_of_mem he
  obtain ⟨before, after, choice, resume, hfront, hbefore, -, hout, -⟩ :=
    Service.Reaches.call h hsplit
  have hreached : config.Reaches primitives front before := hfront
  refine ⟨?_, choice, authService_perform hout⟩
  rw [← hbefore]
  exact hreached.accounts

/-- Whoever a call identifies is the account of the start. -/
theorem ServiceConfig.Reaches.identified (h : config.Reaches primitives history pool)
    (usable : config.Usable) {e : AuthEvent} (he : e ∈ history) {user : User}
    (huser : Control.identified e.interaction = some user) :
    config.bootstrapAdmin = true ∧ user = config.admin := by
  obtain ⟨same, choice, hout⟩ := h.found he
  obtain ⟨task, origin, action, reply, before, after, spawned⟩ := e
  dsimp only at same hout
  cases action with
  | login email password now =>
    cases choice <;> cases hout
    rename_i token
    rcases before.store.login_cases primitives config.toAuthConfig email password now token with
      ⟨error, heq, -⟩ | ⟨userId, stored, hid, hstored, -, heq⟩
    · simp [Event.interaction, Control.identified, heq] at huser
    · obtain ⟨hbootstrap, -, rfl⟩ := (lookup_user_iff usable same).mp hstored
      simp only [Event.interaction, Control.identified, heq, Option.some.injEq] at huser
      exact ⟨hbootstrap, huser.symm⟩
  | currentUser token =>
    cases choice <;> simp only [performAuth, reduceCtorEq] at hout
    obtain ⟨-, hleft⟩ := atInstant_eq hout
    cases hleft
    obtain ⟨session, -, hsession⟩ := Option.bind_eq_some_iff.mp huser
    obtain ⟨stored, hstored, rfl⟩ := Option.map_eq_some_iff.mp hsession
    obtain ⟨hbootstrap, -, rfl⟩ := (lookup_user_iff usable same).mp hstored
    exact ⟨hbootstrap, rfl⟩
  | _ => cases huser

theorem ServiceConfig.Reaches.soleAccount (h : config.Reaches primitives history pool)
    (usable : config.Usable) : SoleAccount primitives config history := by
  have hact : ∀ {e}, e ∈ history → ∃ front, front ⊆ history ∧
      routeAct (Service.own e.task front) e.action := by
    intro e he
    obtain ⟨front, back, hsplit⟩ := List.append_of_mem he
    refine ⟨front, ?_, Service.Reaches.act (routeOrder_sound primitives _) h hsplit⟩
    rw [hsplit]
    exact List.subset_append_left _ _
  constructor
  · intro e he user huser
    exact h.identified usable he huser
  · intro e he email password now haction
    obtain ⟨same, choice, hout⟩ := h.found he
    obtain ⟨task, origin, action, reply, before, after, spawned⟩ := e
    cases haction
    dsimp only at same hout
    cases choice <;> cases hout
    rename_i token
    rw [← login_iff usable same email password now token]
    rcases before.store.login_cases primitives config.toAuthConfig email password now token with
      ⟨error, heq, -⟩ | ⟨userId, stored, -, -, -, heq⟩
    · simp [Event.interaction, issued, heq]
    · simp [Event.interaction, issued, heq]
  · intro e he response hresponse hgranted
    obtain ⟨front, hfront, act⟩ := hact he
    obtain ⟨x, hx, hsome⟩ := act.2.1 response hresponse hgranted
    obtain ⟨d, hd, -, rfl⟩ := Service.mem_own.mp hx
    obtain ⟨user, huser⟩ := Option.isSome_iff_exists.mp hsome
    exact (h.identified usable (hfront hd) huser).1
  · intro e he user cookie hresponse
    obtain ⟨front, hfront, act⟩ := hact he
    obtain ⟨x, hx, huser⟩ := act.2.2 user cookie hresponse
    obtain ⟨d, hd, -, rfl⟩ := Service.mem_own.mp hx
    exact (h.identified usable (hfront hd) huser).2

end Runs

/-! What a start has checked. -/

/-- Production is closed: to other origins, to cookies without encryption, without storage, and to
    everybody. -/
structure ProductionClosed (database : Database) (app : StartedApp) (history : List AuthEvent) :
    Prop where
  secureCookie : app.config.secureCookie = true
  origins : allowsAnyOrigin app.allowedOrigins = false
  storage : ∃ config, app.productionState.storage = some config ∧
    database.connect config = .ok () ∧ database.ping config = .ok ()
  nobody : ∀ e ∈ history, identified e.interaction = none
  errors : ∀ e ∈ history, ∀ response, e.action = .respond response → isGranted response = false

section Started

variable {env : Env} {database : Database} {app : StartedApp}

theorem tryFromEnv_ok (started : StartedApp.tryFromEnv env database = .ok app) :
    app.config = ServiceConfig.fromEnv env ∧
      validateRuntimeConfigForMode app.runtimeMode app.config.toStartupAuthConfig
        app.allowedOrigins env.lookup = .ok () ∧
      ProductionState.fromMode app.runtimeMode env database = .ok app.productionState := by
  rw [StartedApp.tryFromEnv] at started
  cases hmode : RuntimeMode.fromEnv env with
  | error error =>
    rw [hmode] at started
    cases started
  | ok mode =>
    rw [hmode] at started
    cases hvalid : validateRuntimeConfigForMode mode (ServiceConfig.fromEnv env).toStartupAuthConfig
      (allowedOriginsFromEnv (env.lookup "SUNBOLT_ALLOWED_ORIGINS")) env.lookup with
    | error error =>
      simp only [hvalid, bind, Except.bind, Except.mapError] at started
      cases started
    | ok checked =>
      cases hstate : ProductionState.fromMode mode env database with
      | error error =>
        simp only [hvalid, hstate, bind, Except.bind, Except.mapError] at started
        cases started
      | ok state =>
        simp only [hvalid, hstate, bind, Except.bind, Except.mapError] at started
        cases started
        exact ⟨rfl, hvalid, hstate⟩

theorem hardened_of_validate {config : StartupAuthConfig} {allowedOrigins : List String}
    {lookup : String → Option String}
    (h : validateRuntimeConfigForMode .production config allowedOrigins lookup = .ok ()) :
    config.bootstrapAdmin = false ∧ config.secureCookie = true := by
  rw [validateRuntimeConfigForMode, if_neg (by decide)] at h
  split at h
  · cases h
  · split_ifs at h with hbootstrap hcookie
    exact ⟨eq_false_of_ne_true hbootstrap, by simpa using hcookie⟩

theorem storage_of_fromMode {state : ProductionState}
    (h : ProductionState.fromMode .production env database = .ok state) :
    ∃ config, state.storage = some config ∧ database.connect config = .ok () ∧
      database.ping config = .ok () := by
  have hvalid : ProductionStateConfig.postgres.validateFor .production = .ok () := by decide
  rw [ProductionState.fromMode, if_neg (by decide)] at h
  simp only [hvalid, bind, Except.bind] at h
  cases hconfig : PostgresConfig.fromEnv env with
  | error error =>
    simp only [hconfig, Except.mapError] at h
    cases h
  | ok config =>
    cases hconnect : database.connect config with
    | error error =>
      simp only [hconfig, hconnect, Except.mapError] at h
      cases h
    | ok connected =>
      cases hping : database.ping config with
      | error error =>
        simp only [hconfig, hconnect, hping, Except.mapError] at h
        cases h
      | ok answered =>
        simp only [hconfig, hconnect, hping, Except.mapError] at h
        cases h
        exact ⟨config, rfl, hconnect, hping⟩

end Started

private def sampleDatabase : Database := ⟨fun _ => .ok (), fun _ => .ok ()⟩

private def developmentEnv : Env where
  var name := if name = "SUNBOLT_ENV" then .ok " development" else .error .notPresent

private def productionEnv : Env where
  var name :=
    if name = "SUNBOLT_ENV" then .ok "production"
    else if name = "SUNBOLT_DATABASE_URL" then .ok "postgres://db/sunbolt"
    else if name = "SUNBOLT_PUBLIC_URL" then .ok "https://sunbolt.local"
    else if name = "SUNBOLT_ALLOWED_ORIGINS" then .ok "https://sunbolt.local"
    else if name = "SUNBOLT_COOKIE_SECURE" then .ok "on"
    else if name = "SUNBOLT_DEV_BOOTSTRAP_ADMIN" then .ok "no"
    else .error .notPresent

private def sampleLogin : List (Label AuthRoute AuthChoice) :=
  [.arrive (.login ⟨"Admin@Sunbolt.Local ", defaultAdminPassword⟩), .move 0 (.clock 0),
    .move 0 (.clock 0), .move 0 (.token "t"), .move 0 .none, .move 0 .none]

private def startedCalls (env : Env) : List AuthEvent :=
  ((((authService identityDigest (ServiceConfig.fromEnv env).toAuthConfig).machine
    AuthRoute.job).run ⟨(ServiceConfig.fromEnv env).service identityDigest, []⟩
      sampleLogin).map Prod.snd).getD []

private theorem reaches_startedCalls {env : Env} (h : (startedCalls env).isEmpty = false) :
    ∃ pool, (ServiceConfig.fromEnv env).Reaches identityDigest (startedCalls env) pool := by
  cases hrun : ((authService identityDigest (ServiceConfig.fromEnv env).toAuthConfig).machine
    AuthRoute.job).run ⟨(ServiceConfig.fromEnv env).service identityDigest, []⟩ sampleLogin with
  | none => simp [startedCalls, hrun] at h
  | some out =>
    refine ⟨out.1, sampleLogin, ?_⟩
    simp [startedCalls, hrun]

private theorem tryFromEnv_development :
    StartedApp.tryFromEnv developmentEnv sampleDatabase =
      .ok ⟨.development, .development, ServiceConfig.fromEnv developmentEnv, []⟩ := by
  rfl

private theorem tryFromEnv_production :
    StartedApp.tryFromEnv productionEnv sampleDatabase =
      .ok ⟨.production, ⟨some ⟨"postgres://db/sunbolt", 16, 1, 10, 10⟩, .postgres⟩,
        ServiceConfig.fromEnv productionEnv, ["https://sunbolt.local"]⟩ := by
  rfl

end Sunbolt.Control
