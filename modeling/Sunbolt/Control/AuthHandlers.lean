/- Module: Sunbolt/Control/AuthHandlers
   scope: sunbolt-control/src/routes/auth.rs, sunbolt-control/src/auth.rs, sunbolt-auth/src/lib.rs
   digest: The auth routes, the factor functions of the auth service, and their interleavings. -/

import Sunbolt.Control.AuthState

set_option autoImplicit false
set_option relaxedAutoImplicit false

namespace Sunbolt.Control

open Sunbolt.Library
open Sunbolt.Audit (toAsciiLowercase)
open Sunbolt.Auth (AuthConfig AuthContext AuthError AuthFactor AuthFactorEnrollment FactorResponse
  FactorResult FactorType MfaPurpose Primitives StoredRecoveryCode TotpSecret User UserRole
  canOpenTerminal hashRecoveryCode recoveryCodeRecords sessionCookieName trim)

structure LoginRequest where
  email : String
  password : String

structure StepUpMfaRequest where
  factorType : FactorType

/-- The `Cookie` header of a request, when it has one that is text. -/
abbrev Cookies := Option String

/-- `split_once('=')`. -/
def splitOnce : List Char → Option (List Char × List Char)
  | [] => none
  | c :: rest =>
    if c = '=' then some ([], rest)
    else (splitOnce rest).map (fun (name, value) => (c :: name, value))

/-- The loop over the cookies; one without a `=` ends it. -/
def findSessionToken : List (List Char) → Option String
  | [] => none
  | cookie :: cookies =>
    match splitOnce (trim cookie) with
    | none => none
    | some (name, value) =>
      if String.ofList name = sessionCookieName then some (String.ofList value)
      else findSessionToken cookies

def sessionTokenFromHeaders (headers : Cookies) : Option String :=
  headers.bind (fun cookies => findSessionToken (cookies.toList.splitOn ';'))

/-- `HeaderValue::from_str` takes a text without control characters other than the tab. -/
def isHeaderValue (text : String) : Bool :=
  text.toList.all (fun c => c = '\t' || (32 ≤ c.toNat && c.toNat ≠ 127))

def headerValue (text : String) : Option String := if isHeaderValue text then some text else none

def authRateLimitKey (email : String) : String :=
  String.ofList ((trim email.toList).map toAsciiLowercase)

/-- The `Debug` text of a factor type. -/
def factorTypeText : FactorType → String
  | .password => "Password"
  | .totp => "Totp"
  | .recoveryCode => "RecoveryCode"
  | .webAuthn => "WebAuthn"
  | .emailOtp => "EmailOtp"
  | .hardwareKey => "HardwareKey"
  | .adminApproval => "AdminApproval"
  | .sshKeySignature => "SshKeySignature"

inductive TerminalAuthorizationError where
  | unauthorized
  | forbidden
  | stepUpMfaRequired
  deriving DecidableEq, Repr

def TerminalAuthorizationError.statusCode : TerminalAuthorizationError → Nat
  | .unauthorized => 401
  | .forbidden => 403
  | .stepUpMfaRequired => 403

def TerminalAuthorizationError.message : TerminalAuthorizationError → String
  | .unauthorized => "terminal websocket authorization failed"
  | .forbidden => "terminal access is forbidden"
  | .stepUpMfaRequired => "step-up MFA is required before opening a terminal"

def respond (response : AuthResponse) : AuthProgram Unit := auth (.respond response)

def recordAudit (kind : Sunbolt.Audit.AuditEventKind) (actorEmail message : String) :
    AuthProgram Unit :=
  auth (.audit ⟨kind, some actorEmail, message⟩)

section Handlers

variable (config : AuthConfig)

/-! The middleware and the routes. -/

/-- `require_auth_middleware`: the handler runs for the user of the session. -/
def requireAuthMiddleware (headers : Cookies) (next : User → AuthProgram Unit) :
    AuthProgram Unit := do
  match sessionTokenFromHeaders headers with
  | none => respond (.error 401 "missing auth session")
  | some token =>
    match ← auth (.currentUser token) with
    | none => respond (.error 401 "invalid auth session")
    | some user => next user

def authLogin (request : LoginRequest) : AuthProgram Unit := do
  let actorKey := authRateLimitKey request.email
  if !(← auth (.checkLogin actorKey)) then
    recordAudit .userLoginFailed actorKey "login rate limit exceeded"
    respond (.error 429 "too many login attempts")
  else
    let now ← auth .instant
    match ← auth (.login request.email request.password now) with
    | .ok (user, sessionToken) =>
      recordAudit .userLoginSuccess user.email "user authenticated"
      match headerValue (config.sessionCookieHeader sessionToken) with
      | some cookie => respond (.user user (some cookie))
      | none => respond (.error 500 "failed to set auth cookie")
    | .error .invalidCredentials =>
      recordAudit .userLoginFailed (authRateLimitKey request.email) "login rejected"
      respond (.error 401 "invalid credentials")
    | .error _ => respond (.error 500 "auth service unavailable")

def authLogout (headers : Cookies) (user : User) : AuthProgram Unit := do
  match sessionTokenFromHeaders headers with
  | some token => auth (.logout token)
  | none => pure ()
  recordAudit .userLogout user.email "user logged out"
  respond (.user user (headerValue config.clearSessionCookieHeader))

def authMe (user : User) : AuthProgram Unit := respond (.user user none)

def canOpenTerminalWithSession (user : User) (token : String) : AuthProgram Bool :=
  if !canOpenTerminal user then pure false
  else if !config.requireStepUpMfaForTerminal then pure true
  else auth (.hasRecentMfa token)

def authorizeTerminalRequest (headers : Cookies) :
    AuthProgram (Except TerminalAuthorizationError User) := do
  match sessionTokenFromHeaders headers with
  | none => return .error .unauthorized
  | some token =>
    match ← auth (.currentUser token) with
    | none => return .error .unauthorized
    | some user =>
      if !canOpenTerminal user then return .error .forbidden
      else if ← canOpenTerminalWithSession config user token then return .ok user
      else if config.requireStepUpMfaForTerminal then return .error .stepUpMfaRequired
      else return .error .forbidden

def authTerminalAccess (headers : Cookies) : AuthProgram Unit := do
  match ← authorizeTerminalRequest config headers with
  | .ok _ => respond (.terminalAccess true)
  | .error error => respond (.error error.statusCode error.message)

def authMfaStepUp (headers : Cookies) (request : StepUpMfaRequest) (user : User) :
    AuthProgram Unit := do
  if !(← auth (.checkMfa user.email)) then
    recordAudit .userMfaChallenge user.email "step-up MFA challenge rate limit exceeded"
    respond (.error 429 "too many step-up MFA attempts")
  else
    recordAudit .userMfaChallenge user.email
      ("step-up MFA challenge requested using " ++ factorTypeText request.factorType)
    match sessionTokenFromHeaders headers with
    | none => respond (.error 401 "missing auth session")
    | some token =>
      match ← auth (.recordMfaSuccess token) with
      | .ok () =>
        recordAudit .userMfaSuccess user.email
          ("step-up MFA completed using " ++ factorTypeText request.factorType)
        respond (.stepUpMfa true request.factorType)
      | .error .invalidSession => respond (.error 401 "invalid auth session")
      | .error _ => respond (.error 500 "auth service unavailable")

end Handlers

section Factors

variable (primitives : Primitives)

/-! Enrollment; what it returns is read by the caller only. -/

def enrollTotpFactorWithSecret (userId : Nat) (label : String) (secret : TotpSecret) :
    AuthProgram Unit := do
  match ← auth (.enrollFactor userId .totp label) with
  | .error _ => pure ()
  | .ok factor =>
    let _ ← auth (.insertTotpSecret userId factor.id secret)

def recoveryCodeFactorLabel : String := "Recovery codes"

def generateRecoveryCodes (userId : Nat) : AuthProgram Unit := do
  match ← auth (.enrollFactor userId .recoveryCode recoveryCodeFactorLabel) with
  | .error _ => pure ()
  | .ok factor =>
    let codes ← auth .freshRecoveryCodes
    auth (.storeRecoveryCodeRecords factor.id (recoveryCodeRecords primitives codes))

def regenerateRecoveryCodes (userId : Nat) : AuthProgram Unit := do
  let found ← auth (.recoveryCodeFactorForUser userId)
  let factor := found.getD ⟨0, userId, .recoveryCode, recoveryCodeFactorLabel, true⟩
  if factor.id = 0 then generateRecoveryCodes primitives userId
  else
    let codes ← auth .freshRecoveryCodes
    auth (.storeRecoveryCodeRecords factor.id (recoveryCodeRecords primitives codes))

/-! Verification. -/

/-- `begin_factor_challenge`, and the challenge's id. -/
def beginFactorChallenge (factor : AuthFactor) (ctx : AuthContext) :
    AuthProgram (Except AuthError String) := do
  match ← auth (.ensureFactorEnrolled ctx.user.id factor.factorType) with
  | .error error => return .error error
  | .ok () =>
    let now ← auth .unixTime
    return (factor.beginChallenge now ctx).map (·.challengeId)

def verifyFactorChallenge (factor : AuthFactor) (ctx : AuthContext) (response : FactorResponse) :
    AuthProgram (Except AuthError FactorResult) := do
  if response.factorType ≠ factor.factorType then return .error .factorTypeMismatch
  else
    match ← auth (.ensureFactorEnrolled ctx.user.id factor.factorType) with
    | .error error => return .error error
    | .ok () =>
      let now ← auth .unixTime
      match factor.verifyChallenge now ctx response with
      | .error error => return .error error
      | .ok result =>
        if result.userId ≠ ctx.user.id ∨ result.factorType ≠ factor.factorType then
          return .error .factorTypeMismatch
        else if !result.verified then return .error .factorVerificationFailed
        else return .ok result

def verifyTotpCode (user : User) (purpose : MfaPurpose) (code : String) :
    AuthProgram (Except AuthError FactorResult) := do
  match ← auth (.totpFactorForUser user.id) with
  | .error error => return .error error
  | .ok totp =>
    let factor := totp.authFactor primitives.sha256
    match ← beginFactorChallenge factor ⟨user, purpose⟩ with
    | .error error => return .error error
    | .ok challengeId =>
      verifyFactorChallenge factor ⟨user, purpose⟩ ⟨challengeId, .totp, code⟩

def verifyRecoveryCode (user : User) (code : String) :
    AuthProgram (Except AuthError FactorResult) := do
  match ← auth (.recoveryCodeFactorForUser user.id) with
  | none => return .error .recoveryCodeInvalid
  | some factor =>
    if ← auth (.useRecoveryCode factor.id (hashRecoveryCode primitives code)) then
      return .ok ⟨user.id, .recoveryCode, true⟩
    else return .error .recoveryCodeInvalid

end Factors

/-- What arrives: a request of a route, or a call of the auth service. -/
inductive AuthJob where
  | login (request : LoginRequest)
  | logout (headers : Cookies)
  | me (headers : Cookies)
  | terminalAccess (headers : Cookies)
  | mfaStepUp (headers : Cookies) (request : StepUpMfaRequest)
  | upsertUser (email password : String) (role : UserRole)
  | enrollFactor (userId : Nat) (factorType : FactorType) (label : String)
  | enrollTotpFactor (userId : Nat) (label : String) (secret : TotpSecret)
  | generateRecoveryCodes (userId : Nat)
  | regenerateRecoveryCodes (userId : Nat)
  | verifyFactorChallenge (factor : AuthFactor) (ctx : AuthContext) (response : FactorResponse)
  | verifyTotpCode (user : User) (purpose : MfaPurpose) (code : String)
  | verifyRecoveryCode (user : User) (code : String)

section Service

variable (primitives : Primitives) (config : AuthConfig)

/-- A verification ends by returning its result to its caller. -/
def returning (p : AuthProgram (Except AuthError FactorResult)) : AuthProgram Unit := do
  let result ← p
  auth (.returned result)

def AuthJob.program : AuthJob → AuthProgram Unit
  | .login request => authLogin config request
  | .logout headers => requireAuthMiddleware headers (authLogout config headers)
  | .me headers => requireAuthMiddleware headers authMe
  | .terminalAccess headers =>
    requireAuthMiddleware headers (fun _ => authTerminalAccess config headers)
  | .mfaStepUp headers request => requireAuthMiddleware headers (authMfaStepUp headers request)
  | .upsertUser email password role => do
    let _ ← auth (.upsertUser email password role)
  | .enrollFactor userId factorType label => do
    let _ ← auth (.enrollFactor userId factorType label)
  | .enrollTotpFactor userId label secret => enrollTotpFactorWithSecret userId label secret
  | .generateRecoveryCodes userId => Sunbolt.Control.generateRecoveryCodes primitives userId
  | .regenerateRecoveryCodes userId => Sunbolt.Control.regenerateRecoveryCodes primitives userId
  | .verifyFactorChallenge factor ctx response =>
    returning (Sunbolt.Control.verifyFactorChallenge factor ctx response)
  | .verifyTotpCode user purpose code =>
    returning (Sunbolt.Control.verifyTotpCode primitives user purpose code)
  | .verifyRecoveryCode user code =>
    returning (Sunbolt.Control.verifyRecoveryCode primitives user code)

def authService : Service AuthState AuthAction AuthReply AuthJob AuthChoice where
  perform _ state action choice := (performAuth primitives config state action choice).map
    (fun (reply, state) => ⟨reply, state, []⟩)
  body job := do
    job.program primitives config
    return none

abbrev AuthEvent := Event AuthState AuthAction AuthReply AuthJob

abbrev AuthPool := Pool AuthState AuthAction AuthReply AuthJob

/-- The runs of any number of requests and calls, in any order, from an empty service. -/
def AuthReaches (history : List AuthEvent) (pool : AuthPool) : Prop :=
  (authService primitives config).Reaches id .new history pool

end Service

end Sunbolt.Control
