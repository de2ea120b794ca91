/- Module: Sunbolt/Control/BrowserOrigin
   scope: sunbolt-control/src/security.rs, sunbolt-control/src/routes/mod.rs
   digest: The origin middleware, and which values of the header it lets through in production. -/

import Sunbolt.Control.AuthHandlers
import Sunbolt.Control.HeaderValues
import Sunbolt.Control.RuntimeConfig

set_option autoImplicit false
set_option relaxedAutoImplicit false

namespace Sunbolt.Control

structure HttpRequest where
  method : String
  uri : String
  headers : HeaderMap
  body : List UInt8

structure HttpResponse where
  status : Nat
  headers : HeaderMap
  body : String

def originHeader : String := "origin"
def accessControlRequestMethod : String := "access-control-request-method"
def accessControlAllowOrigin : String := "access-control-allow-origin"
def requestIdHeader : String := "x-request-id"

/-! The checks on the headers of a request. -/

section Checks

variable (headers : HeaderMap)

def requestOrigin : Option String := (headers.get originHeader).bind toStr

def isAllowedOrigin (allowedOrigins : List String) : Bool :=
  if allowsAnyOrigin allowedOrigins then true
  else
    match requestOrigin headers with
    | none => true
    | some origin => allowedOrigins.any (fun allowed => allowed = origin)

def isCorsPreflight (method : String) : Bool :=
  method = "OPTIONS" && (requestOrigin headers).isSome &&
    headers.containsKey accessControlRequestMethod

end Checks

/-- `None` is the panic on an origin that is not a header value. -/
def applyCorsHeaders (headers : HeaderMap) (origin : String) : Option HeaderMap :=
  (headerValue origin).map (fun origin =>
    ((((headers.insert accessControlAllowOrigin (textBytes origin)).insert
      "access-control-allow-credentials" (textBytes "true")).insert
      "access-control-allow-methods" (textBytes "GET, POST, OPTIONS")).insert
      "access-control-allow-headers"
        (textBytes "content-type, x-request-id, x-sunbolt-csrf")).insert
      "access-control-expose-headers" (textBytes requestIdHeader) |>.append
      "vary" (textBytes "Origin"))

/-- The CORS headers of the response, if the request has an origin. -/
def decorate (origin : Option String) (response : HttpResponse) : Option HttpResponse :=
  match origin with
  | none => some response
  | some origin =>
    (applyCorsHeaders response.headers origin).map (fun headers =>
      { response with headers := headers })

/-- What becomes of a request. -/
inductive OriginOutcome where
  | rejected (response : HttpResponse)
  | preflight (response : HttpResponse)
  | forwarded (response : HttpResponse)

/-- `browser_origin_middleware`; `next` is the rest of the service. -/
def browserOriginMiddleware (allowedOrigins : List String) (request : HttpRequest)
    (next : HttpRequest → HttpResponse) : Option OriginOutcome :=
  if !isAllowedOrigin request.headers allowedOrigins then
    some (.rejected ⟨403, [("content-type", textBytes "application/json")],
      "\x7b\"error\":\"cross-origin request rejected\"\x7d"⟩)
  else
    let origin := requestOrigin request.headers
    if isCorsPreflight request.headers request.method then
      (decorate origin ⟨204, [], ""⟩).map .preflight
    else (decorate origin (next request)).map .forwarded

/-- The request gets past the middleware, or its preflight is granted, only with a configured
    origin, and what is reflected is that origin. -/
def PassesOnlyConfigured (allowedOrigins : List String) (request : HttpRequest)
    (next : HttpRequest → HttpResponse) (origin : HeaderValue) : Prop :=
  match browserOriginMiddleware allowedOrigins request next with
  | none => False
  | some (.rejected _) => True
  | some (.preflight response) =>
    response.headers.containsKey accessControlAllowOrigin = true →
      origin ∈ allowedOrigins.map textBytes ∧
        response.headers.get accessControlAllowOrigin = some origin
  | some (.forwarded response) =>
    origin ∈ allowedOrigins.map textBytes ∧
      (response = next request ∨ response.headers.get accessControlAllowOrigin = some origin)

/-- An origin that could be read is a header value, so that applying it does not panic. -/
theorem applyCorsHeaders_eq {origin : String} (h : origin.toList.all isVisible = true)
    (headers : HeaderMap) : ∃ applied, applyCorsHeaders headers origin = some applied ∧
      applied.get accessControlAllowOrigin = some (textBytes origin) := by
  have hvalue : headerValue origin = some origin := by
    rw [headerValue, if_pos]
    rw [isHeaderValue, List.all_eq_true]
    intro c hc
    have hvisible := List.all_eq_true.mp h c hc
    simp only [isVisible, Bool.or_eq_true, Bool.and_eq_true, decide_eq_true_eq] at hvisible ⊢
    exact hvisible.imp_right (fun range => ⟨range.1, Nat.ne_of_lt range.2⟩)
  rw [applyCorsHeaders, hvalue]
  refine ⟨_, rfl, ?_⟩
  simp [HeaderMap.get_append, HeaderMap.get_insert, accessControlAllowOrigin]

section Outcome

variable {allowedOrigins : List String} {request : HttpRequest}
  {next : HttpRequest → HttpResponse} {origin : HeaderValue}

/-- An origin that can be read passes only if it is configured. -/
private theorem passes_of_text (explicit : allowsAnyOrigin allowedOrigins = false)
    (found : request.headers.get originHeader = some origin) {text : String}
    (htext : toStr origin = some text) :
    PassesOnlyConfigured allowedOrigins request next origin := by
  have hbytes : origin = textBytes text :=
    (toStr_eq_iff (toStr_eq_some.mp htext).1 text).mp htext
  have hread : requestOrigin request.headers = some text := by
    rw [requestOrigin, found, Option.bind_some, htext]
  have hcheck : isAllowedOrigin request.headers allowedOrigins =
      allowedOrigins.any (fun allowed => allowed = text) := by
    rw [isAllowedOrigin, explicit, if_neg (by simp), hread]
  rw [PassesOnlyConfigured, browserOriginMiddleware, hcheck, hread]
  by_cases hallowed : allowedOrigins.any (fun allowed => allowed = text) = true
  · have hmem : origin ∈ allowedOrigins.map textBytes := by
      obtain ⟨allowed, hallowed, hsame⟩ := List.any_eq_true.mp hallowed
      exact List.mem_map.mpr ⟨allowed, hallowed, by rw [of_decide_eq_true hsame, hbytes]⟩
    rw [hallowed, Bool.not_true, if_neg (by simp)]
    split_ifs
    · obtain ⟨applied, happlied, hreflected⟩ := applyCorsHeaders_eq (visible_of_toStr htext) []
      simp only [decorate, happlied, Option.map_some]
      exact fun _ => ⟨hmem, hbytes ▸ hreflected⟩
    · obtain ⟨applied, happlied, hreflected⟩ :=
        applyCorsHeaders_eq (visible_of_toStr htext) (next request).headers
      simp only [decorate, happlied, Option.map_some]
      exact ⟨hmem, Or.inr (hbytes ▸ hreflected)⟩
  · rw [Bool.eq_false_iff.mpr hallowed, Bool.not_false, if_pos rfl]
    trivial

/-- An origin that cannot be read counts as none, and the request is passed on as it is. -/
private theorem forwards_unread (found : request.headers.get originHeader = some origin)
    (hunread : toStr origin = none) :
    browserOriginMiddleware allowedOrigins request next = some (.forwarded (next request)) := by
  have hread : requestOrigin request.headers = none := by
    rw [requestOrigin, found, Option.bind_some, hunread]
  rw [browserOriginMiddleware, isAllowedOrigin, hread, isCorsPreflight, hread]
  simp [decorate]

/-- In production an origin passes only if it is configured, exactly if its bytes are printable
    ASCII or those of a configured origin. -/
theorem passes_only_configured_iff {authConfig : StartupAuthConfig}
    {lookup : String → Option String}
    (production :
      validateRuntimeConfigForMode .production authConfig allowedOrigins lookup = .ok ())
    (found : request.headers.get originHeader = some origin) :
    PassesOnlyConfigured allowedOrigins request next origin ↔
      origin.all isVisibleAscii = true ∨ origin ∈ allowedOrigins.map textBytes := by
  cases htext : toStr origin with
  | some text =>
    exact iff_of_true (passes_of_text (explicit_of_validate production) found htext)
      (Or.inl (toStr_eq_some.mp htext).1)
  | none =>
    have hunseen : ¬origin.all isVisibleAscii = true := by
      intro hvisible
      rw [toStr, if_pos hvisible] at htext
      cases htext
    rw [PassesOnlyConfigured, forwards_unread found htext]
    constructor
    · exact fun passes => Or.inr passes.1
    · exact fun h => ⟨h.resolve_left hunseen, Or.inl rfl⟩

end Outcome

private def appOrigins : List String := ["https://app.example"]

private theorem appOrigins_accepted : validateRuntimeConfigForMode .production .production
    appOrigins (fun _ => some "set") = .ok () := by
  decide +kernel

private def requestFrom (origin : HeaderValue) : HttpRequest :=
  ⟨"POST", "/auth/login", [(originHeader, origin)], []⟩

theorem passes_only_configured_iff_app : PassesOnlyConfigured appOrigins
    (requestFrom (textBytes "https://app.example")) (fun _ => ⟨200, [], ""⟩)
    (textBytes "https://app.example") :=
  (passes_only_configured_iff appOrigins_accepted rfl).mpr (Or.inl (by decide +kernel))

/-- One byte that is not ASCII takes a foreign origin past the middleware. -/
theorem foreign_origin_forwarded :
    validateRuntimeConfigForMode .production .production appOrigins (fun _ => some "set") =
      .ok () ∧
    textBytes "https://évil.example" ∉ appOrigins.map textBytes ∧
    browserOriginMiddleware appOrigins (requestFrom (textBytes "https://évil.example"))
      (fun _ => ⟨200, [], ""⟩) = some (.forwarded ⟨200, [], ""⟩) := by
  refine ⟨appOrigins_accepted, by decide +kernel, ?_⟩
  exact forwards_unread rfl (by decide +kernel)

end Sunbolt.Control
