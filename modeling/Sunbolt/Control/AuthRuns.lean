/- Module: Sunbolt/Control/AuthRuns
   scope: sunbolt-control/src/state.rs, sunbolt-auth/src/lib.rs
   digest: Runs of the calls of the auth state in any order, and what each call leaves as it is. -/

import Sunbolt.Control.AuthHandlers
import Sunbolt.Library.Alone

set_option autoImplicit false
set_option relaxedAutoImplicit false

namespace Sunbolt.Control

open Sunbolt.Library
open Sunbolt.Auth (AuthConfig AuthContext AuthError AuthFactor AuthFactorEnrollment AuthStore
  FactorResponse FactorResult FactorType Primitives User)

/-- The token that a login has issued, and for whom. -/
def issued (x : Interaction AuthAction AuthReply) : Option (User × String) :=
  match x with
  | ⟨.login _ _ _, .ok (user, token)⟩ => some (user, token)
  | _ => none

/-- The state that the calls of a run have left. -/
def stateAfter (history : List AuthEvent) : AuthState :=
  (history.getLast?.map (·.after)).getD .new

/-- The runs of any calls, whoever makes them. -/
inductive AuthRun (primitives : Primitives) (config : AuthConfig) :
    List AuthEvent → AuthState → Prop
  | start : AuthRun primitives config [] .new
  | next {history : List AuthEvent} {e : AuthEvent} {choice : AuthChoice}
    (earlier : AuthRun primitives config history e.before)
    (call : performAuth primitives config e.before e.action choice = some (e.reply, e.after)) :
    AuthRun primitives config (history ++ [e]) e.after

section Calls

variable {primitives : Primitives} {config : AuthConfig} {state next : AuthState}
  {action : AuthAction} {choice : AuthChoice} {reply : AuthReply action}

theorem atInstant_eq {α : Type} {now : Nat} {f : AuthState → α × AuthState} {out : α × AuthState}
    (h : state.atInstant now f = some out) :
    state.clock ≤ now ∧ out = f { state with clock := now } := by
  rw [AuthState.atInstant] at h
  split_ifs at h with hle
  exact ⟨hle, (Option.some.inj h).symm⟩

/-- What a call leaves as it is, unless it is one of those that are there to change it. -/
structure AuthFrame (action : AuthAction) (state next : AuthState) : Prop where
  clock : state.clock ≤ next.clock
  loginRateLimiter : (∀ key, action ≠ .checkLogin key) →
    next.loginRateLimiter = state.loginRateLimiter
  accounts : (∀ email password role, action ≠ .upsertUser email password role) →
    next.store.accounts = state.store.accounts

theorem performAuth_frame
    (h : performAuth primitives config state action choice = some (reply, next)) :
    AuthFrame action state next := by
  cases action with
  | instant | checkMfa key | currentUser token | hasRecentMfa token =>
    cases choice <;> simp only [performAuth, reduceCtorEq] at h
    obtain ⟨hle, hout⟩ := atInstant_eq h
    cases hout
    exact ⟨hle, fun _ => rfl, fun _ => rfl⟩
  | checkLogin key =>
    cases choice <;> simp only [performAuth, reduceCtorEq] at h
    obtain ⟨hle, hout⟩ := atInstant_eq h
    cases hout
    exact ⟨hle, fun other => absurd rfl (other key), fun _ => rfl⟩
  | recordMfaSuccess token =>
    cases choice <;> simp only [performAuth, reduceCtorEq] at h
    obtain ⟨hle, hout⟩ := atInstant_eq h
    cases hout
    exact ⟨hle, fun _ => rfl, fun _ => AuthStore.accounts_recordMfaSuccess ..⟩
  | upsertUser email password role =>
    cases choice <;> cases h
    exact ⟨le_rfl, fun _ => rfl, fun other => absurd rfl (other email password role)⟩
  | login email password now =>
    cases choice <;> cases h
    exact ⟨le_rfl, fun _ => rfl, fun _ => AuthStore.accounts_login ..⟩
  | enrollFactor userId factorType label =>
    cases choice <;> cases h
    exact ⟨le_rfl, fun _ => rfl, fun _ => AuthStore.accounts_enrollFactor ..⟩
  | useRecoveryCode factorId hash =>
    cases choice <;> cases h
    exact ⟨le_rfl, fun _ => rfl, fun _ => AuthStore.accounts_useRecoveryCode ..⟩
  | _ =>
    cases choice <;> cases h
    exact ⟨le_rfl, fun _ => rfl, fun _ => rfl⟩

end Calls

section Runs

variable {primitives : Primitives} {config : AuthConfig} {history : List AuthEvent}
  {pool : AuthPool} {state : AuthState}

theorem authService_perform {i : Nat} {state : AuthState} {action : AuthAction}
    {choice : AuthChoice} {out : Outcome AuthState AuthAction AuthReply AuthJob action}
    (h : (authService primitives config).perform i state action choice = some out) :
    performAuth primitives config state action choice = some (out.reply, out.shared) := by
  obtain ⟨⟨reply, next⟩, hout, rfl⟩ := Option.map_eq_some_iff.mp h
  exact hout

/-- The calls before a given one are a run, which leaves the state that it finds. -/
theorem AuthReaches.front (h : AuthReaches primitives config history pool)
    {front : List AuthEvent} (hfirst : front <+: history) :
    ∃ before, AuthReaches primitives config front before ∧ before.shared = stateAfter front := by
  obtain ⟨back, rfl⟩ := hfirst
  cases back with
  | nil =>
    rw [List.append_nil] at h
    exact ⟨pool, h, h.shared_eq⟩
  | cons e back =>
    obtain ⟨before, after, choice, resume, hfront, -⟩ := h.call rfl
    exact ⟨before, hfront, hfront.shared_eq⟩

theorem AuthReaches.performed (h : AuthReaches primitives config history pool)
    {front back : List AuthEvent} {e : AuthEvent} (hsplit : history = front ++ e :: back) :
    e.before = stateAfter front ∧ ∃ choice,
      performAuth primitives config e.before e.action choice = some (e.reply, e.after) := by
  obtain ⟨before, after, choice, resume, hfront, hbefore, -, hout, -⟩ := h.call hsplit
  exact ⟨hbefore.symm.trans hfront.shared_eq, choice, authService_perform hout⟩

theorem AuthRun.state_eq (h : AuthRun primitives config history state) :
    state = stateAfter history := by
  cases h with
  | start => rfl
  | next earlier call =>
    rw [stateAfter, List.getLast?_concat]
    rfl

/-- Where a call stands: the calls before it are a run, and it is made in the state they leave. -/
theorem AuthRun.event (h : AuthRun primitives config history state)
    {front back : List AuthEvent} {e : AuthEvent} (hsplit : history = front ++ e :: back) :
    AuthRun primitives config front e.before ∧ ∃ choice,
      performAuth primitives config e.before e.action choice = some (e.reply, e.after) := by
  induction h generalizing back with
  | start => simp at hsplit
  | @next history last choice earlier call ih =>
    rcases List.eq_nil_or_concat back with rfl | ⟨rest, final, rfl⟩
    · obtain ⟨rfl, heq⟩ := List.append_inj' hsplit rfl
      cases heq
      exact ⟨earlier, choice, call⟩
    · rw [List.concat_eq_append, ← List.cons_append, ← List.append_assoc] at hsplit
      obtain ⟨rfl, -⟩ := List.append_inj' hsplit rfl
      exact ih rfl

/-- No call has read a later instant than the clock of the state that the run leaves. -/
theorem AuthRun.clock_le (h : AuthRun primitives config history state) :
    ∀ e ∈ history, e.after.clock ≤ state.clock := by
  induction h with
  | start => exact fun e he => absurd he List.not_mem_nil
  | next earlier call ih =>
    intro e he
    rcases List.mem_append.mp he with he | he
    · exact (ih e he).trans (performAuth_frame call).clock
    · rw [List.mem_singleton.mp he]

/-- The calls of the handlers are such a run. -/
theorem AuthReaches.authRun (h : AuthReaches primitives config history pool) :
    AuthRun primitives config history pool.shared := by
  induction hlength : history.length generalizing history pool with
  | zero =>
    obtain rfl := List.length_eq_zero_iff.mp hlength
    rw [h.shared_eq]
    exact .start
  | succ n ih =>
    obtain ⟨front, e, rfl⟩ : ∃ front e, history = front ++ [e] := by
      rcases List.eq_nil_or_concat history with rfl | ⟨front, e, rfl⟩
      · cases hlength
      · exact ⟨front, e, List.concat_eq_append⟩
    obtain ⟨before, hfront, hbefore⟩ := h.front (List.prefix_append front [e])
    have hsplit : front ++ [e] = front ++ e :: [] := rfl
    obtain ⟨hstate, choice, hout⟩ := h.performed hsplit
    have hrun := ih hfront (by simpa using hlength)
    rw [hbefore, ← hstate] at hrun
    have hafter : pool.shared = e.after := by
      rw [h.shared_eq, List.getLast?_concat]
      rfl
    rw [hafter]
    exact hrun.next hout

/-- A digest without collisions, for the runs on given inputs. -/
def identityDigest : Primitives := ⟨fun bytes => bytes, fun c => [c.toLower]⟩

/-- The calls that an interleaving makes, if it makes all of them. -/
def authCalls (primitives : Primitives) (config : AuthConfig)
    (labels : List (Label AuthJob AuthChoice)) : List AuthEvent :=
  ((((authService primitives config).machine id).run ⟨.new, []⟩ labels).map Prod.snd).getD []

theorem reaches_authCalls {labels : List (Label AuthJob AuthChoice)}
    (h : (authCalls primitives config labels).isEmpty = false) :
    ∃ pool, AuthReaches primitives config (authCalls primitives config labels) pool := by
  cases hrun : ((authService primitives config).machine id).run ⟨.new, []⟩ labels with
  | none => simp [authCalls, hrun] at h
  | some out =>
    refine ⟨out.1, labels, ?_⟩
    simp [authCalls, hrun]

end Runs

/-! Calls with no other call in between. -/

section Alone

variable {primitives : Primitives} {config : AuthConfig} {i : Nat} {state last : AuthState}

/-- A call about which the environment decides nothing has one outcome. -/
theorem alone_auth (action : AuthAction) (out : AuthReply action × AuthState)
    (hout : ∀ choice found, performAuth primitives config state action choice = some found ↔
      choice = .none ∧ found = out) {result : AuthReply action} :
    (authService primitives config).Alone i (auth action) state last result ↔
      result = out.1 ∧ last = out.2 := by
  rw [auth, Service.alone_perform]
  constructor
  · rintro ⟨choice, found, hfound, rfl, rfl⟩
    obtain ⟨-, heq⟩ := (hout choice _).mp (authService_perform hfound)
    exact ⟨congrArg Prod.fst heq, congrArg Prod.snd heq⟩
  · rintro ⟨rfl, rfl⟩
    refine ⟨.none, ⟨out.1, out.2, []⟩, ?_, rfl, rfl⟩
    change Option.map _ (performAuth primitives config state action .none) = _
    rw [(hout .none out).mpr ⟨rfl, rfl⟩]
    rfl

theorem alone_enrollFactor {userId : Nat} {factorType : FactorType} {label : String}
    {enrolled : Except AuthError AuthFactorEnrollment} :
    (authService primitives config).Alone i (auth (.enrollFactor userId factorType label)) state
      last enrolled ↔ enrolled = (state.store.enrollFactor userId factorType label).2 ∧
      last = { state with store := (state.store.enrollFactor userId factorType label).1 } := by
  refine alone_auth (.enrollFactor userId factorType label)
    (state.onStore (state.store.enrollFactor userId factorType label)) ?_
  intro choice found
  cases choice <;> simp [performAuth, eq_comm]

end Alone

/-! What the jobs call. -/

/-- What some calls are made for by one kind of job only. -/
inductive AuthDuty where
  | login
  | terminalAccess
  | recoveryCodes
  deriving DecidableEq

def duty : AuthAction → Option AuthDuty
  | .checkLogin _ => some .login
  | .login .. => some .login
  | .respond (.terminalAccess true) => some .terminalAccess
  | .freshRecoveryCodes => some .recoveryCodes
  | .storeRecoveryCodeRecords .. => some .recoveryCodes
  | .useRecoveryCode .. => some .recoveryCodes
  | _ => none

def AuthJob.duty : AuthJob → Option AuthDuty
  | .login _ => some .login
  | .terminalAccess _ => some .terminalAccess
  | .generateRecoveryCodes _ => some .recoveryCodes
  | .regenerateRecoveryCodes _ => some .recoveryCodes
  | .verifyRecoveryCode .. => some .recoveryCodes
  | _ => none

/-- The call is for any job, or has this duty. -/
def InDuty (given : Option AuthDuty) (action : AuthAction) : Prop :=
  duty action = none ∨ duty action = given

section Bodies

attribute [local simp] auth respond recordAudit returning Program.perform InDuty duty

variable {given : Option AuthDuty}

private theorem within_authLogin (config : AuthConfig) (request : LoginRequest) :
    (authLogin config request).Each (InDuty (some .login)) (fun _ => True) := by
  refine Program.Each.then (by simp) (fun allowed => ?_)
  rw [Program.each_ite]
  refine ⟨fun _ => by simp, fun _ => ?_⟩
  refine Program.Each.then (by simp) (fun now => Program.Each.then (by simp) (fun result => ?_))
  match result with
  | .ok (user, token) =>
    refine Program.Each.then (by simp) (fun _ => ?_)
    cases headerValue (config.sessionCookieHeader token) <;> simp
  | .error error => cases error <;> simp

private theorem within_requireAuth {headers : Cookies} {next : User → AuthProgram Unit}
    (h : ∀ user, (next user).Each (InDuty given) (fun _ => True)) :
    (requireAuthMiddleware headers next).Each (InDuty given) (fun _ => True) := by
  rw [requireAuthMiddleware]
  cases sessionTokenFromHeaders headers with
  | none => simp
  | some token =>
    refine Program.Each.then (by simp) (fun found => ?_)
    cases found with
    | none => simp
    | some user => exact h user

private theorem within_authorizeTerminal (config : AuthConfig) (headers : Cookies) :
    (authorizeTerminalRequest config headers).Each (InDuty given) (fun _ => True) := by
  rw [authorizeTerminalRequest]
  cases sessionTokenFromHeaders headers with
  | none => simp
  | some token =>
    refine Program.Each.then (by simp) (fun found => ?_)
    cases found with
    | none => simp
    | some user =>
      rw [Program.each_ite]
      refine ⟨fun _ => by simp, fun _ => Program.Each.then ?_ (fun opened => by simp)⟩
      simp [canOpenTerminalWithSession]

private theorem within_authTerminalAccess (config : AuthConfig) (headers : Cookies) :
    (authTerminalAccess config headers).Each (InDuty (some .terminalAccess)) (fun _ => True) := by
  refine Program.Each.then (within_authorizeTerminal config headers) (fun result => ?_)
  cases result <;> simp

private theorem within_authMfaStepUp (headers : Cookies) (request : StepUpMfaRequest)
    (user : User) : (authMfaStepUp headers request user).Each (InDuty given) (fun _ => True) := by
  refine Program.Each.then (by simp) (fun allowed => ?_)
  rw [Program.each_ite]
  refine ⟨fun _ => by simp, fun _ => Program.Each.then (by simp) (fun _ => ?_)⟩
  cases sessionTokenFromHeaders headers with
  | none => simp
  | some token =>
    refine Program.Each.then (by simp) (fun result => ?_)
    match result with
    | .ok () => simp
    | .error error => cases error <;> simp

private theorem within_authLogout (config : AuthConfig) (headers : Cookies) (user : User) :
    (authLogout config headers user).Each (InDuty given) (fun _ => True) := by
  rw [authLogout]
  cases sessionTokenFromHeaders headers <;> simp

private theorem within_generateRecoveryCodes (primitives : Primitives) (userId : Nat) :
    (generateRecoveryCodes primitives userId).Each (InDuty (some .recoveryCodes))
      (fun _ => True) := by
  refine Program.Each.then (by simp) (fun enrolled => ?_)
  cases enrolled <;> simp

private theorem within_regenerateRecoveryCodes (primitives : Primitives) (userId : Nat) :
    (regenerateRecoveryCodes primitives userId).Each (InDuty (some .recoveryCodes))
      (fun _ => True) := by
  refine Program.Each.then (by simp) (fun found => ?_)
  rw [Program.each_ite]
  exact ⟨fun _ => within_generateRecoveryCodes primitives userId, fun _ => by simp⟩

private theorem within_beginFactorChallenge (factor : AuthFactor) (ctx : AuthContext) :
    (beginFactorChallenge factor ctx).Each (InDuty given) (fun _ => True) := by
  refine Program.Each.then (by simp) (fun enrolled => ?_)
  cases enrolled <;> simp

private theorem within_verifyFactorChallenge (factor : AuthFactor) (ctx : AuthContext)
    (response : FactorResponse) :
    (verifyFactorChallenge factor ctx response).Each (InDuty given) (fun _ => True) := by
  rw [verifyFactorChallenge, Program.each_ite]
  refine ⟨fun _ => by simp, fun _ => Program.Each.then (by simp) (fun enrolled => ?_)⟩
  cases enrolled with
  | error error => simp
  | ok enrolled =>
    refine Program.Each.then (by simp) (fun now => ?_)
    cases factor.verifyChallenge now ctx response with
    | error error => simp
    | ok result => simp

private theorem within_verifyTotpCode (primitives : Primitives) (user : User)
    (purpose : Sunbolt.Auth.MfaPurpose) (code : String) :
    (verifyTotpCode primitives user purpose code).Each (InDuty given) (fun _ => True) := by
  refine Program.Each.then (by simp) (fun totp => ?_)
  cases totp with
  | error error => simp
  | ok totp =>
    refine Program.Each.then (within_beginFactorChallenge _ _) (fun challenge => ?_)
    cases challenge with
    | error error => simp
    | ok challengeId => exact within_verifyFactorChallenge _ _ _

private theorem within_verifyRecoveryCode (primitives : Primitives) (user : User)
    (code : String) :
    (verifyRecoveryCode primitives user code).Each (InDuty (some .recoveryCodes))
      (fun _ => True) := by
  refine Program.Each.then (by simp) (fun found => ?_)
  cases found <;> simp

private theorem within_returning {p : AuthProgram (Except AuthError FactorResult)}
    (h : p.Each (InDuty given) (fun _ => True)) :
    (returning p).Each (InDuty given) (fun _ => True) :=
  Program.Each.then h (fun result => by simp)

/-- A job makes calls that are for any job, and those of its own duty. -/
theorem inDuty_program (primitives : Primitives) (config : AuthConfig) (job : AuthJob) :
    (job.program primitives config).Each (InDuty job.duty) (fun _ => True) := by
  cases job with
  | login request => exact within_authLogin config request
  | logout headers => exact within_requireAuth (within_authLogout config headers)
  | me headers => exact within_requireAuth (fun user => by simp [authMe])
  | terminalAccess headers =>
    exact within_requireAuth (fun _ => within_authTerminalAccess config headers)
  | mfaStepUp headers request => exact within_requireAuth (within_authMfaStepUp headers request)
  | upsertUser email password role => simp [AuthJob.program]
  | enrollFactor userId factorType label => simp [AuthJob.program]
  | enrollTotpFactor userId label secret =>
    refine Program.Each.then (by simp) (fun enrolled => ?_)
    cases enrolled <;> simp
  | generateRecoveryCodes userId => exact within_generateRecoveryCodes primitives userId
  | regenerateRecoveryCodes userId => exact within_regenerateRecoveryCodes primitives userId
  | verifyFactorChallenge factor ctx response =>
    exact within_returning (within_verifyFactorChallenge factor ctx response)
  | verifyTotpCode user purpose code => exact within_returning (within_verifyTotpCode ..)
  | verifyRecoveryCode user code => exact within_returning (within_verifyRecoveryCode ..)

/-- A job without the duty makes none of its calls. -/
theorem off_duty {primitives : Primitives} {config : AuthConfig} {job : AuthJob} {own : AuthDuty}
    (h : job.duty ≠ some own) :
    (job.program primitives config).Each (fun action => duty action ≠ some own)
      (fun _ => True) := by
  refine (inDuty_program primitives config job).imp (fun action within heq => ?_)
  rcases within with hnone | hsame
  · rw [hnone] at heq
    cases heq
  · exact h (hsame.symm.trans heq)

end Bodies

end Sunbolt.Control
