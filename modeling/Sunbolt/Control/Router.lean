/- Module: Sunbolt/Control/Router
   scope: sunbolt-control/src/routes/mod.rs, sunbolt-control/src/security.rs
   digest: The routes of the control plane and the layers that a request goes through. -/

import Sunbolt.Control.BrowserOrigin
import Sunbolt.Control.SessionCookie
import Sunbolt.Control.SessionValidity
import Sunbolt.Library.PathPattern

set_option autoImplicit false
set_option relaxedAutoImplicit false

namespace Sunbolt.Control

open Sunbolt.Auth (AuthConfig Primitives User)
open Sunbolt.Library.PathPattern

/-! Handlers and their routes. -/

inductive RouteHandler where
  | health
  | terminalWebsocket
  | listActiveTerminalSessions
  | listDetachedTerminalSessions
  | terminateTerminalSession
  | authLogin
  | authMfaStepUp
  | authLogout
  | authMe
  | authTerminalAccess
  | accessHistory
  | auditLogs
  | listNodes
  | nodeDetails
  | rotateNodeCredential
  | revokeNode
  | createEnrollmentToken
  | agentEnroll
  | agentHeartbeat
  | agentTransportWebsocket
  | agentTransportLongPoll
  deriving DecidableEq, Repr

/-- A path with its method, the layers on it and the handler within. -/
structure Route where
  path : String
  method : String
  csrf : Bool
  auth : Bool
  handler : RouteHandler
  deriving DecidableEq, Repr

/-- `build_router`. -/
def routes : List Route :=
  [⟨"/health", "GET", false, false, .health⟩,
    ⟨"/terminal/ws", "GET", false, false, .terminalWebsocket⟩,
    ⟨"/terminal/sessions/active", "GET", false, true, .listActiveTerminalSessions⟩,
    ⟨"/terminal/sessions/detached", "GET", false, true, .listDetachedTerminalSessions⟩,
    ⟨"/terminal/sessions/{session_id}/terminate", "POST", true, true, .terminateTerminalSession⟩,
    ⟨"/auth/login", "POST", true, false, .authLogin⟩,
    ⟨"/auth/mfa/step-up", "POST", true, true, .authMfaStepUp⟩,
    ⟨"/auth/logout", "POST", true, true, .authLogout⟩,
    ⟨"/auth/me", "GET", false, true, .authMe⟩,
    ⟨"/auth/terminal-access", "GET", false, true, .authTerminalAccess⟩,
    ⟨"/access/history", "GET", false, true, .accessHistory⟩,
    ⟨"/audit/logs", "GET", false, true, .auditLogs⟩,
    ⟨"/nodes", "GET", false, true, .listNodes⟩,
    ⟨"/nodes/{node_id}", "GET", false, true, .nodeDetails⟩,
    ⟨"/nodes/{node_id}/credentials/rotate", "POST", true, true, .rotateNodeCredential⟩,
    ⟨"/nodes/{node_id}/revoke", "POST", true, true, .revokeNode⟩,
    ⟨"/nodes/enrollment-tokens", "POST", true, true, .createEnrollmentToken⟩,
    ⟨"/agent/enroll", "POST", false, false, .agentEnroll⟩,
    ⟨"/agent/heartbeat", "POST", false, false, .agentHeartbeat⟩,
    ⟨"/agent/transport/ws", "GET", false, false, .agentTransportWebsocket⟩,
    ⟨"/agent/transport/long-poll", "POST", false, false, .agentTransportLongPoll⟩]

/-! Matching a path. -/

def Route.pattern (route : Route) : List (List Char) := segments route.path.toList

def Route.match? (route : Route) (path : List Char) : Option (Route × List String) :=
  (matchSegments route.pattern (segments path)).map (fun params => (route, params))

def Route.isStatic (route : Route) : Bool := !route.pattern.any isParam

/-- A path without parameters is preferred to one with them. -/
def findRoute (path : List Char) : Option (Route × List String) :=
  ((routes.filter Route.isStatic).findSome? (·.match? path)).or (routes.findSome? (·.match? path))

def HttpRequest.path (request : HttpRequest) : List Char :=
  request.uri.toList.takeWhile (· ≠ '?')

/-! The layers. -/

def csrfHeaderName : String := "x-sunbolt-csrf"
def csrfHeaderValue : String := "1"

def hasValidCsrfHeader (headers : HeaderMap) : Bool :=
  ((headers.get csrfHeaderName).bind toStr).any (fun value => value = csrfHeaderValue)

/-- What becomes of a request: an error of a layer or of the router, a granted preflight, or a
    handler with its path parameters and the user of the session, where one is required. -/
inductive Dispatched where
  | refused (status : Nat) (error : String)
  | notFound
  | methodNotAllowed
  | preflight
  | handled (handler : RouteHandler) (params : List String) (user : Option User)
  deriving DecidableEq

/-- A `get` handler answers `HEAD` as well. -/
def Route.answers (route : Route) (method : String) : Bool :=
  route.method = method || (route.method = "GET" && method = "HEAD")

/-- The layers of a route stay around its answer to a method that it does not have. -/
def Route.serve (route : Route) (params : List String) (request : HttpRequest)
    (user : Option User) : Dispatched :=
  if route.csrf && !hasValidCsrfHeader request.headers then
    .refused 403 "csrf protection failed"
  else if route.answers request.method then .handled route.handler params user
  else .methodNotAllowed

section Dispatch

/-! `current_user` of the auth service, as it is when the request comes. -/

variable (currentUser : String → Option User)

/-- `require_auth_middleware`. -/
def requireAuth (headers : HeaderMap) (next : User → Dispatched) : Dispatched :=
  match sessionTokenOf headers with
  | none => .refused 401 "missing auth session"
  | some token =>
    match currentUser token with
    | none => .refused 401 "invalid auth session"
    | some user => next user

def Route.enter (route : Route) (params : List String) (request : HttpRequest) : Dispatched :=
  if route.auth then
    requireAuth currentUser request.headers (fun user => route.serve params request (some user))
  else route.serve params request none

def dispatch (allowedOrigins : List String) (request : HttpRequest) : Dispatched :=
  if !isAllowedOrigin request.headers allowedOrigins then
    .refused 403 "cross-origin request rejected"
  else if isCorsPreflight request.headers request.method then .preflight
  else
    match findRoute request.path with
    | none => .notFound
    | some (route, params) => route.enter currentUser params request

end Dispatch

/-- The handlers that a browser changes something with. -/
def RouteHandler.isBrowserWrite : RouteHandler → Bool
  | .terminateTerminalSession => true
  | .authLogin => true
  | .authMfaStepUp => true
  | .authLogout => true
  | .rotateNodeCredential => true
  | .revokeNode => true
  | .createEnrollmentToken => true
  | _ => false

section Paths

variable {route : Route} {path : List Char} {params : List String}

/-- The path is that of the route, with these parameters. -/
def Route.Leads (route : Route) (params : List String) (path : List Char) : Prop :=
  fillSegments route.pattern params = some (segments path)

instance : Decidable (route.Leads params path) :=
  inferInstanceAs (Decidable (fillSegments route.pattern params = some (segments path)))

theorem Route.match?_iff {candidate : Route} :
    candidate.match? path = some (route, params) ↔ candidate = route ∧ route.Leads params path := by
  unfold Route.match? Route.Leads
  rw [Option.map_eq_some_iff]
  constructor
  · rintro ⟨given, hmatch, hsame⟩
    cases hsame
    exact ⟨rfl, matchSegments_iff.mp hmatch⟩
  · rintro ⟨rfl, hleads⟩
    exact ⟨params, matchSegments_iff.mpr hleads, rfl⟩

/-- Two routes with a path in common are one, or one of them has no parameters and the other
    has. -/
theorem overlapping_routes : ∀ route ∈ routes, ∀ other ∈ routes,
    overlaps route.pattern other.pattern = true → route.isStatic = other.isStatic →
      route = other := by
  decide +kernel

theorem Route.agree {candidates : List Route} (known : ∀ route ∈ candidates, route ∈ routes)
    (alike : ∀ route ∈ candidates, ∀ other ∈ candidates, route.match? path ≠ none →
      other.match? path ≠ none → route.isStatic = other.isStatic) :
    ∀ route ∈ candidates, ∀ other ∈ candidates, ∀ found another,
      route.match? path = some found → other.match? path = some another → found = another := by
  intro route hroute other hother found another hfound hanother
  obtain ⟨params, hmatch, rfl⟩ := Option.map_eq_some_iff.mp hfound
  obtain ⟨given, hgiven, rfl⟩ := Option.map_eq_some_iff.mp hanother
  have hstatic := alike route hroute other hother (by simp [hfound]) (by simp [hanother])
  obtain rfl := overlapping_routes route (known route hroute) other (known other hother)
    (overlaps_of_match hmatch hgiven) hstatic
  rw [Option.some.inj (hmatch.symm.trans hgiven)]

/-- The order of the routes does not matter: a path belongs to the one route without parameters
    that it is the path of, else to the one with parameters. -/
theorem findRoute_iff : findRoute path = some (route, params) ↔
    route ∈ routes ∧ route.Leads params path ∧
      (route.isStatic = true ∨
        ∀ other ∈ routes, other.isStatic = true → other.match? path = none) := by
  unfold findRoute
  have among : ∀ found, (routes.filter Route.isStatic).findSome? (·.match? path) = some found ↔
      ∃ candidate ∈ routes.filter Route.isStatic, candidate.match? path = some found := by
    intro found
    refine findSome?_iff_of_agree (Route.agree (fun _ => List.mem_of_mem_filter) ?_)
    intro one hone other hother _ _
    rw [(List.mem_filter.mp hone).2, (List.mem_filter.mp hother).2]
  cases hstatic : (routes.filter Route.isStatic).findSome? (·.match? path) with
  | some found =>
    obtain ⟨candidate, hcandidate, hmatch⟩ := (among found).mp hstatic
    rw [Option.some_or]
    constructor
    · rintro hfound
      obtain rfl := Option.some.inj hfound
      obtain ⟨rfl, hleads⟩ := Route.match?_iff.mp hmatch
      exact ⟨List.mem_of_mem_filter hcandidate, hleads, Or.inl (List.mem_filter.mp hcandidate).2⟩
    · rintro ⟨hroute, hleads, hown | hnone⟩
      · rw [← hstatic]
        exact (among _).mpr ⟨route, List.mem_filter.mpr ⟨hroute, hown⟩,
          Route.match?_iff.mpr ⟨rfl, hleads⟩⟩
      · obtain ⟨hknown, hown⟩ := List.mem_filter.mp hcandidate
        rw [hnone candidate hknown hown] at hmatch
        cases hmatch
  | none =>
    have hnone : ∀ other ∈ routes, other.isStatic = true → other.match? path = none := by
      intro other hother hown
      exact List.findSome?_eq_none_iff.mp hstatic other (List.mem_filter.mpr ⟨hother, hown⟩)
    have dynamic : ∀ other ∈ routes, other.match? path ≠ none → other.isStatic = false := by
      intro other hother hmatch
      rw [Bool.eq_false_iff]
      exact fun hown => hmatch (hnone other hother hown)
    rw [Option.none_or, findSome?_iff_of_agree (Route.agree (fun _ => id) ?_)]
    · constructor
      · rintro ⟨candidate, hcandidate, hmatch⟩
        obtain ⟨rfl, hleads⟩ := Route.match?_iff.mp hmatch
        exact ⟨hcandidate, hleads, Or.inr hnone⟩
      · rintro ⟨hroute, hleads, -⟩
        exact ⟨route, hroute, Route.match?_iff.mpr ⟨rfl, hleads⟩⟩
    · intro one hone other hother hmatch hanother
      rw [dynamic one hone hmatch, dynamic other hother hanother]

end Paths

/-- Every route to a browser write is a POST behind the CSRF layer, and all but the login are
    behind the session layer as well. -/
theorem guarded_routes : ∀ route ∈ routes, route.handler.isBrowserWrite = true →
    route.method = "POST" ∧ route.csrf = true ∧
      route.auth = decide (route.handler ≠ .authLogin) := by
  decide

/-- No path of a browser write is one without parameters of another route. -/
theorem writes_apart : ∀ route ∈ routes, route.handler.isBrowserWrite = true →
    ∀ other ∈ routes, other.isStatic = true → overlaps route.pattern other.pattern = true →
      route = other := by
  decide +kernel

theorem findRoute_of_write {route : Route} {path : List Char} {params : List String}
    (hroute : route ∈ routes) (write : route.handler.isBrowserWrite = true)
    (leads : route.Leads params path) : findRoute path = some (route, params) := by
  refine findRoute_iff.mpr ⟨hroute, leads, ?_⟩
  cases hstatic : route.isStatic with
  | true => exact Or.inl rfl
  | false =>
    refine Or.inr (fun other hother hown => ?_)
    rw [Route.match?, Option.map_eq_none_iff, Option.eq_none_iff_forall_ne_some]
    intro given hmatch
    have hsame := writes_apart route hroute write other hother hown
      (overlaps_of_match (matchSegments_iff.mpr leads) hmatch)
    rw [hsame, hown] at hstatic
    cases hstatic

/-- No route answers the method of a preflight. -/
theorem routes_methods : ∀ route ∈ routes, route.method = "GET" ∨ route.method = "POST" := by
  decide

/-- The header has to be the one byte that the page sends. -/
theorem hasValidCsrfHeader_iff (headers : HeaderMap) :
    hasValidCsrfHeader headers = true ↔ headers.get csrfHeaderName = some (textBytes "1") := by
  unfold hasValidCsrfHeader
  cases hget : headers.get csrfHeaderName with
  | none => simp
  | some value =>
    have hread : toStr (textBytes "1") = some "1" := by decide +kernel
    constructor
    · intro h
      obtain ⟨text, htext, hsame⟩ := (Option.any_eq_true _ _).mp h
      obtain rfl : text = "1" := of_decide_eq_true hsame
      have hvisible := (toStr_eq_some.mp htext).1
      rw [(toStr_eq_iff hvisible "1").mp htext]
    · intro h
      cases h
      rw [Option.bind_some, hread]
      rfl

section Guards

variable {currentUser : String → Option User} {allowedOrigins : List String}
  {request : HttpRequest} {handler : RouteHandler} {params : List String} {user : Option User}

/-- The request carries a session, and the user is the one it belongs to. -/
def Signed (currentUser : String → Option User) (headers : HeaderMap) (user : Option User) :
    Prop :=
  ∃ token signed, sessionTokenOf headers = some token ∧ currentUser token = some signed ∧
    user = some signed

theorem Route.serve_handled {route : Route} {given : List String} {signed : Option User} :
    route.serve given request signed = .handled handler params user ↔
      (route.csrf = true → hasValidCsrfHeader request.headers = true) ∧
        route.answers request.method = true ∧ route.handler = handler ∧ given = params ∧
          signed = user := by
  unfold Route.serve
  split
  · rename_i hrefused
    simp_all
  · rename_i hpassed
    split
    · rename_i hanswers
      simp_all
    · rename_i hanswers
      simp_all

/-- Behind the session layer the user is the one of the session, elsewhere there is none. -/
def Route.Admits (route : Route) (currentUser : String → Option User) (headers : HeaderMap)
    (user : Option User) : Prop :=
  if route.auth then Signed currentUser headers user else user = none

theorem Route.enter_handled {route : Route} {given : List String} :
    route.enter currentUser given request = .handled handler params user ↔
      (route.csrf = true → hasValidCsrfHeader request.headers = true) ∧
        route.answers request.method = true ∧ route.handler = handler ∧ given = params ∧
          route.Admits currentUser request.headers user := by
  unfold Route.enter Route.Admits requireAuth
  split
  · cases htoken : sessionTokenOf request.headers with
    | none => simp [Signed, htoken]
    | some token =>
      cases hsigned : currentUser token with
      | none => simp [Signed, htoken, hsigned]
      | some signed =>
        simp only [Route.serve_handled, Signed, htoken, Option.some.injEq, exists_and_left,
          exists_eq_left', hsigned, @eq_comm _ user]
  · simp only [Route.serve_handled, @eq_comm _ user]

/-- When a handler runs, and for whom. -/
theorem handled_iff :
    dispatch currentUser allowedOrigins request = .handled handler params user ↔
      isAllowedOrigin request.headers allowedOrigins = true ∧
        ∃ route, findRoute request.path = some (route, params) ∧ route.handler = handler ∧
          route.answers request.method = true ∧
          (route.csrf = true → request.headers.get csrfHeaderName = some (textBytes "1")) ∧
          route.Admits currentUser request.headers user := by
  unfold dispatch
  cases horigin : isAllowedOrigin request.headers allowedOrigins with
  | false => simp
  | true =>
    cases hpreflight : isCorsPreflight request.headers request.method with
    | true =>
      -- a preflight is an OPTIONS, which no route answers
      have hmethod : request.method = "OPTIONS" := by
        simp only [isCorsPreflight, Bool.and_eq_true, decide_eq_true_eq] at hpreflight
        exact hpreflight.1.1
      simp only [Bool.not_true, Bool.false_eq_true, if_false, if_true, true_and, false_iff,
        not_exists, not_and, reduceCtorEq]
      intro route hfound _ hanswers
      rcases routes_methods route (findRoute_iff.mp hfound).1 with hget | hpost
      · simp [Route.answers, hget, hmethod] at hanswers
      · simp [Route.answers, hpost, hmethod] at hanswers
    | false =>
      cases hfound : findRoute request.path with
      | none => simp
      | some found =>
        obtain ⟨route, given⟩ := found
        simp only [Bool.not_true, Bool.false_eq_true, if_false, true_and, Route.enter_handled,
          hasValidCsrfHeader_iff, Option.some.injEq, Prod.mk.injEq]
        constructor
        · rintro ⟨hcsrf, hanswers, hhandler, rfl, hadmits⟩
          exact ⟨route, ⟨rfl, rfl⟩, hhandler, hanswers, hcsrf, hadmits⟩
        · rintro ⟨_, ⟨rfl, rfl⟩, hhandler, hanswers, hcsrf, hadmits⟩
          exact ⟨hcsrf, hanswers, hhandler, rfl, hadmits⟩

/-- When a browser write runs. -/
theorem handled_write_iff (write : handler.isBrowserWrite = true) :
    dispatch currentUser allowedOrigins request = .handled handler params user ↔
      isAllowedOrigin request.headers allowedOrigins = true ∧ request.method = "POST" ∧
        request.headers.get csrfHeaderName = some (textBytes "1") ∧
        (∃ route ∈ routes, route.handler = handler ∧ route.Leads params request.path) ∧
        if handler = .authLogin then user = none
        else Signed currentUser request.headers user := by
  rw [handled_iff]
  have guards : ∀ route ∈ routes, route.handler = handler →
      (route.answers request.method = true ↔ request.method = "POST") ∧ route.csrf = true ∧
        (route.Admits currentUser request.headers user ↔
          if handler = .authLogin then user = none
          else Signed currentUser request.headers user) := by
    rintro route hroute rfl
    obtain ⟨hmethod, hcsrf, hauth⟩ := guarded_routes route hroute write
    refine ⟨?_, hcsrf, ?_⟩
    · simp [Route.answers, hmethod, eq_comm]
    · unfold Route.Admits
      rw [hauth]
      by_cases hlogin : route.handler = .authLogin
      · simp [hlogin]
      · simp [hlogin]
  constructor
  · rintro ⟨horigin, route, hfound, hhandler, hanswers, hcsrf, hadmits⟩
    obtain ⟨hroute, hleads, -⟩ := findRoute_iff.mp hfound
    obtain ⟨hpost, hguarded, hsigned⟩ := guards route hroute hhandler
    exact ⟨horigin, hpost.mp hanswers, hcsrf hguarded, ⟨route, hroute, hhandler, hleads⟩,
      hsigned.mp hadmits⟩
  · rintro ⟨horigin, hmethod, hcsrf, ⟨route, hroute, rfl, hleads⟩, hsigned⟩
    obtain ⟨hpost, -, hadmits⟩ := guards route hroute rfl
    exact ⟨horigin, route, findRoute_of_write hroute write hleads, rfl, hpost.mpr hmethod,
      fun _ => hcsrf, hadmits.mpr hsigned⟩

/-- What becomes of a request of a route's own method that carries what the route asks for. -/
theorem dispatch_of_leads {route : Route} (origin : isAllowedOrigin request.headers allowedOrigins)
    (found : findRoute request.path = some (route, params)) (method : request.method = route.method)
    (csrf : route.csrf = true → request.headers.get csrfHeaderName = some (textBytes "1")) :
    dispatch currentUser allowedOrigins request =
      if route.auth then
        requireAuth currentUser request.headers
          (fun user => .handled route.handler params (some user))
      else .handled route.handler params none := by
  have hserve : ∀ user, route.serve params request user = .handled route.handler params user := by
    intro user
    refine Route.serve_handled.mpr ⟨?_, ?_, rfl, rfl, rfl⟩
    · exact fun hguarded => (hasValidCsrfHeader_iff _).mpr (csrf hguarded)
    · simp [Route.answers, method]
  have hpreflight : isCorsPreflight request.headers request.method = false := by
    rcases routes_methods route (findRoute_iff.mp found).1 with hget | hpost
    · simp [isCorsPreflight, method, hget]
    · simp [isCorsPreflight, method, hpost]
  simp only [dispatch, origin, hpreflight, found, Route.enter, hserve, Bool.not_true,
    Bool.false_eq_true, if_false]

end Guards

section Writes

variable {primitives : Primitives} {config : AuthConfig} {history : List AuthEvent}
  {state : AuthState} {allowedOrigins : List String} {request : HttpRequest}
  {handler : RouteHandler} {params : List String} {user : Option User} {now : Nat}

/-- An operator has logged in. -/
private def operatorLogsIn : List AuthEvent :=
  authCalls identityDigest .default
    [.arrive (.upsertUser "ops@x" "pw" .operator), .move 0 .none,
      .arrive (.login ⟨"ops@x", "pw"⟩), .move 1 (.clock 1), .move 1 (.clock 1),
      .move 1 (.token "t")]

private theorem operatorLogsIn_calls : operatorLogsIn.isEmpty = false ∧
    issuedSessions operatorLogsIn = ["t"] ∧ (stateAfter operatorLogsIn).clock = 1 ∧
    ((stateAfter operatorLogsIn).store.currentUser "t" 2).2 = some ⟨1, "ops@x", .operator⟩ := by
  decide +kernel

def terminateRequest : HttpRequest :=
  ⟨"POST", "/terminal/sessions/local-1/terminate",
    [("x-sunbolt-csrf", textBytes "1"), ("cookie", textBytes "sunbolt_session=t")], []⟩

end Writes

end Sunbolt.Control
