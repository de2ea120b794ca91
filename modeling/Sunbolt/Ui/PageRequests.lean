/- Module: Sunbolt/Ui/PageRequests
   scope: sunbolt-ui/src/browser_bridge.rs, sunbolt-control/src/routes/mod.rs
   digest: Every request of the page reaches the handler that it is meant for. -/

import Sunbolt.Control.AppState
import Sunbolt.Control.Router
import Sunbolt.Ui.PageOrigins

set_option autoImplicit false
set_option relaxedAutoImplicit false

namespace Sunbolt.Ui

open Sunbolt.Auth (User)
open Sunbolt.Control (HttpRequest Route RouteHandler dispatch dispatch_of_leads findRoute
  findRoute_of_write forall_of_all isAllowedOrigin requireAuth sessionIdOf textBytes)
open Sunbolt.Library.PathPattern

/-- The text of a session id that the control plane has issued. -/
def Issued (id : String) : Prop := ∃ n, id = (sessionIdOf n).val

def Method.text : Method → String
  | .get => "GET"
  | .post => "POST"

/-- What the control plane receives for a request of the page, with whatever other headers the
    browser adds. -/
structure Request.SentAs (request : Request) (http : HttpRequest) : Prop where
  method : http.method = request.method.text
  uri : http.uri = request.path
  csrf : request.csrf = true → http.headers.get "x-sunbolt-csrf" = some (textBytes "1")

/-- What the page makes a request for. -/
inductive Request.Asks : Request → RouteHandler → List String → Prop
  | active : Asks ⟨.get, terminalActiveSessionsEndpoint, false, false⟩
    .listActiveTerminalSessions []
  | detached : Asks ⟨.get, terminalDetachedSessionsEndpoint, false, false⟩
    .listDetachedTerminalSessions []
  | me : Asks ⟨.get, authMeEndpoint, false, false⟩ .authMe []
  | access : Asks ⟨.get, authTerminalAccessEndpoint, false, false⟩ .authTerminalAccess []
  | login : Asks ⟨.post, authLoginEndpoint, true, true⟩ .authLogin []
  | stepUp : Asks ⟨.post, stepUpMfaEndpoint, true, true⟩ .authMfaStepUp []
  | terminate (sessionId : String) :
    Asks ⟨.post, terminatePath sessionId, true, false⟩ .terminateTerminalSession [sessionId]

/-! The paths of the page. -/

theorem Issued.chars {id : String} (h : Issued id) : ∀ c ∈ id.toList, c ≠ '/' ∧ c ≠ '?' := by
  obtain ⟨n, rfl⟩ := h
  have hid : (sessionIdOf n).val.toList = "local-".toList ++ Nat.toDigits 10 n := by
    simp [sessionIdOf]
  have hname : ∀ c ∈ "local-".toList, c ≠ '/' ∧ c ≠ '?' := forall_of_all (by decide)
  intro c hc
  rw [hid] at hc
  rcases List.mem_append.mp hc with hc | hdigit
  · exact hname c hc
  · have hdigit : c.isDigit = true :=
      Nat.isDigit_of_mem_toDigits (by decide) (by decide) hdigit
    constructor
    · rintro rfl
      cases hdigit
    · rintro rfl
      cases hdigit

theorem Issued.ne_nil {id : String} (h : Issued id) : id ≠ "" := by
  obtain ⟨n, rfl⟩ := h
  intro hempty
  have hlength := congrArg (fun text => text.toList.length) hempty
  simp [sessionIdOf] at hlength

section Served

variable {currentUser : String → Option User} {allowedOrigins : List String}
  {request : Request} {http : HttpRequest} {id : String}

def terminateRoute : Route :=
  ⟨"/terminal/sessions/{session_id}/terminate", "POST", true, true, .terminateTerminalSession⟩

theorem terminateRoute_leads (h : Issued id) :
    terminateRoute.Leads [id] (terminatePath id).toList := by
  have hpath : (terminatePath id).toList = ['/'].intercalate
      [[], "terminal".toList, "sessions".toList, id.toList, "terminate".toList] := by
    simp [terminatePath, terminalSessionTerminatePrefix, List.intercalate]
  have hfixed : '/' ∉ "terminal".toList ∧ '/' ∉ "sessions".toList ∧ '/' ∉ "terminate".toList := by
    decide
  have hparts : ∀ part ∈ [[], "terminal".toList, "sessions".toList, id.toList,
      "terminate".toList], '/' ∉ part := by
    intro part hpart
    simp only [List.mem_cons, List.not_mem_nil, or_false] at hpart
    rcases hpart with rfl | rfl | rfl | rfl | rfl
    · exact List.not_mem_nil
    · exact hfixed.1
    · exact hfixed.2.1
    · exact fun hslash => (h.chars '/' hslash).1 rfl
    · exact hfixed.2.2
  have hpattern : terminateRoute.pattern = [[], "terminal".toList, "sessions".toList,
      "\x7bsession_id\x7d".toList, "terminate".toList] := by decide +kernel
  rw [Route.Leads, hpath, segments_intercalate hparts (by simp), hpattern]
  simp [fillSegments, isParam, h.ne_nil]

theorem findRoute_terminate (h : Issued id) :
    findRoute (terminatePath id).toList = some (terminateRoute, [id]) :=
  findRoute_of_write (by decide) rfl (terminateRoute_leads h)

/-- The route of a request that a page makes for a session that was issued to it. -/
theorem Request.Traced.route (h : request.Traced Issued) :
    ∃ route params, request.Asks route.handler params ∧ route.method = request.method.text ∧
      route.auth = decide (route.handler ≠ .authLogin) ∧
      (route.csrf = true → request.csrf = true) ∧ '?' ∉ request.path.toList ∧
      findRoute request.path.toList = some (route, params) := by
  cases h with
  | active =>
    exact ⟨⟨terminalActiveSessionsEndpoint, "GET", false, true, .listActiveTerminalSessions⟩, [],
      .active, rfl, rfl, by decide, by decide, by decide +kernel⟩
  | detached =>
    exact ⟨⟨terminalDetachedSessionsEndpoint, "GET", false, true, .listDetachedTerminalSessions⟩,
      [], .detached, rfl, rfl, by decide, by decide, by decide +kernel⟩
  | me =>
    exact ⟨⟨authMeEndpoint, "GET", false, true, .authMe⟩, [], .me, rfl, rfl, by decide,
      by decide, by decide +kernel⟩
  | access =>
    exact ⟨⟨authTerminalAccessEndpoint, "GET", false, true, .authTerminalAccess⟩, [], .access,
      rfl, rfl, by decide, by decide, by decide +kernel⟩
  | login =>
    exact ⟨⟨authLoginEndpoint, "POST", true, false, .authLogin⟩, [], .login, rfl, rfl, by decide,
      by decide, by decide +kernel⟩
  | stepUp =>
    exact ⟨⟨stepUpMfaEndpoint, "POST", true, true, .authMfaStepUp⟩, [], .stepUp, rfl, rfl,
      by decide, by decide, by decide +kernel⟩
  | terminate sessionId known named =>
    refine ⟨terminateRoute, [sessionId], .terminate sessionId, rfl, rfl, fun _ => rfl, ?_,
      findRoute_terminate known⟩
    have hfixed : '?' ∉ terminalSessionTerminatePrefix.toList ∧ '?' ∉ "/".toList ∧
        '?' ∉ "/terminate".toList := by decide
    intro hmem
    simp only [terminatePath, String.toList_append, List.mem_append] at hmem
    rcases hmem with ((hmem | hmem) | hmem) | hmem
    · exact hfixed.1 hmem
    · exact hfixed.2.1 hmem
    · exact (known.chars '?' hmem).2 rfl
    · exact hfixed.2.2 hmem

/-- A request of a page in any run, for sessions that were issued to it, is never refused for its
    origin, its path, its method or the sentinel header: it comes to the handler it is meant for,
    with the login without a session and anything else for the user whose session it carries. -/
theorem page_requests_served {stored : Option StoredWorkspace}
    {labels : List (Page.Event × Bool)} {page : Page} {requests : List Request}
    (h : Shows stored labels page requests)
    (initial : ∀ workspace ∈ stored, workspace.Traced Issued (fun _ => True))
    (told : ∀ label ∈ labels, label.1.Traced Issued (fun _ => True))
    (made : request ∈ requests) (sent : request.SentAs http)
    (origin : isAllowedOrigin http.headers allowedOrigins = true) :
    ∃ handler params, request.Asks handler params ∧
      dispatch currentUser allowedOrigins http =
        if handler = .authLogin then .handled handler params none
        else requireAuth currentUser http.headers
          (fun user => .handled handler params (some user)) := by
  obtain ⟨route, params, asks, hmethod, hauth, hcsrf, hquery, found⟩ :=
    ((h.traced initial told).2 request made).route
  have hpath : http.path = request.path.toList := by
    rw [HttpRequest.path, sent.uri, List.takeWhile_eq_self_iff]
    intro c hc
    refine decide_eq_true ?_
    rintro rfl
    exact hquery hc
  refine ⟨route.handler, params, asks, ?_⟩
  rw [dispatch_of_leads origin (hpath ▸ found) (sent.method.trans hmethod.symm)
    (fun hguarded => sent.csrf (hcsrf hguarded)), hauth]
  by_cases hlogin : route.handler = .authLogin
  · simp [hlogin]
  · simp [hlogin]

end Served

theorem page_requests_served_ended : ∃ page requests request params,
    Shows (some resumedTab) endedLabels page requests ∧ request ∈ requests ∧
    request.SentAs Control.terminateRequest ∧
    request.Asks .terminateTerminalSession params ∧
    dispatch (fun _ => some ⟨1, "ops@x", .operator⟩) [] Control.terminateRequest =
      .handled .terminateTerminalSession params (some ⟨1, "ops@x", .operator⟩) := by
  obtain ⟨page, requests, shows, made⟩ : ∃ page requests,
      Shows (some resumedTab) endedLabels page requests ∧
        ⟨.post, terminatePath "local-1", true, false⟩ ∈ requests :=
    ⟨_, _, rfl, by decide⟩
  have issued : Issued "local-1" := ⟨1, by decide⟩
  have initial : ∀ workspace ∈ some resumedTab, workspace.Traced Issued (fun _ => True) := by
    intro workspace hworkspace
    obtain rfl := Option.mem_some.mp hworkspace
    refine ⟨by simp [resumedTab, issued], ?_⟩
    simp [resumedTab, SessionRecord.Traced, issued]
  have told : ∀ label ∈ endedLabels, label.1.Traced Issued (fun _ => True) := by
    simp [endedLabels, resumedLabels, Page.Event.Traced]
  have sent : Request.SentAs ⟨.post, terminatePath "local-1", true, false⟩
      Control.terminateRequest := ⟨rfl, by decide, fun _ => rfl⟩
  obtain ⟨handler, params, asks, served⟩ :=
    page_requests_served shows initial told made sent (rfl : isAllowedOrigin _ [] = true)
  have hhandler : handler = .terminateTerminalSession := by
    generalize hrequest : (⟨.post, terminatePath "local-1", true, false⟩ : Request) = request
      at asks
    cases asks <;> first | rfl | exact absurd hrequest (by decide)
  subst hhandler
  refine ⟨page, requests, _, params, shows, made, sent, asks, ?_⟩
  have hcookie : (Control.sessionTokenOf Control.terminateRequest.headers).isSome = true := by
    decide +kernel
  obtain ⟨token, htoken⟩ := Option.isSome_iff_exists.mp hcookie
  rw [served, if_neg (by decide), requireAuth, htoken]

end Sunbolt.Ui
