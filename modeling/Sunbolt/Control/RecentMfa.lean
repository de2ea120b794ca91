/- Module: Sunbolt/Control/RecentMfa
   scope: sunbolt-control/src/routes/auth.rs, sunbolt-control/src/auth.rs, sunbolt-auth/src/lib.rs
   digest: A session has recent MFA only since a verification, if successes are recorded so. -/

import Sunbolt.Control.AuthRuns

set_option autoImplicit false
set_option relaxedAutoImplicit false

namespace Sunbolt.Control

open Sunbolt.Library
open Sunbolt.Auth (AuthConfig AuthContext AuthError AuthFactor AuthStore FactorResponse FactorResult
  Primitives SessionRecord User canOpenTerminal)

/-- The user whose response a call of the auth service verifies. -/
def responder : AuthJob → Option Nat
  | .verifyFactorChallenge _ ctx _ => some ctx.user.id
  | .verifyTotpCode user _ _ => some user.id
  | .verifyRecoveryCode user _ => some user.id
  | _ => none

/-- The user whose response has been verified successfully, where a verification returns. -/
def verifiedUser (e : AuthEvent) : Option Nat :=
  match e.action with
  | .returned (.ok _) => responder e.origin
  | _ => none

/-- Since the login that issued the token, a factor response of the user who logged in has been
    verified. -/
def VerifiedSince (history : List AuthEvent) (token : String) : Prop :=
  ∃ front login since user, history = front ++ login :: since ∧
    issued login.interaction = some (user, token) ∧
    (∀ e ∈ since, ∀ other, issued e.interaction ≠ some (other, token)) ∧
    ∃ e ∈ since, verifiedUser e = some user.id

/-- In every state of the run, whoever counts as having recent MFA has been verified. -/
def RecentMfaVerified (config : AuthConfig) (history : List AuthEvent) : Prop :=
  ∀ front, front <+: history → ∀ token now, (stateAfter front).clock ≤ now →
    ((stateAfter front).store.hasRecentMfa config token now).2 = true → VerifiedSince front token

/-- While the policy is on, a request is granted terminal access after a check that its session
    has recent MFA, and whoever passes that check has been verified. -/
def AccessVerified (config : AuthConfig) (history : List AuthEvent) : Prop :=
  config.requireStepUpMfaForTerminal = true → ∀ front e back, history = front ++ e :: back →
    e.action = .respond (.terminalAccess true) →
    ∃ headers token, e.origin = .terminalAccess headers ∧
      sessionTokenFromHeaders headers = some token ∧
      ∃ before check between, front = before ++ check :: between ∧ check.task = e.task ∧
        check.interaction = ⟨.hasRecentMfa token, true⟩ ∧ VerifiedSince before token

/-- A success is recorded on a session that has not expired only after a factor response of its
    user has been verified. -/
def StepUpsVerified (history : List AuthEvent) : Prop :=
  ∀ front e back token session, history = front ++ e :: back →
    e.action = .recordMfaSuccess token →
    e.before.store.sessionsByToken.lookup token = some session →
    e.after.clock < session.expiresAt → VerifiedSince front token

section VerifiedSince

variable {history : List AuthEvent} {e : AuthEvent} {token : String}

theorem VerifiedSince.next (h : VerifiedSince history token)
    (hissued : ∀ other, issued e.interaction ≠ some (other, token)) :
    VerifiedSince (history ++ [e]) token := by
  obtain ⟨front, login, since, user, rfl, hlogin, hlater, verified, hmem, huser⟩ := h
  refine ⟨front, login, since ++ [e], user, by simp, hlogin, ?_, verified, ?_, huser⟩
  · intro later hlaterMem other
    rcases List.mem_append.mp hlaterMem with hmem | hmem
    · exact hlater later hmem other
    · rw [List.mem_singleton.mp hmem]
      exact hissued other
  · exact List.mem_append_left _ hmem

theorem VerifiedSince.of_next (h : VerifiedSince (history ++ [e]) token)
    (hverified : verifiedUser e = none) : VerifiedSince history token := by
  obtain ⟨front, login, since, user, hsplit, hlogin, hlater, verified, hmem, huser⟩ := h
  rcases List.eq_nil_or_concat since with rfl | ⟨earlier, last, rfl⟩
  · cases hmem
  · rw [List.concat_eq_append] at hsplit hlater hmem
    rw [← List.cons_append, ← List.append_assoc] at hsplit
    obtain ⟨rfl, hlast⟩ := List.append_inj' hsplit rfl
    obtain rfl : e = last := List.singleton_inj.mp hlast
    refine ⟨front, login, earlier, user, rfl, hlogin, ?_, verified, ?_, huser⟩
    · intro later hlaterMem
      exact hlater later (List.mem_append_left _ hlaterMem)
    · rcases List.mem_append.mp hmem with hearlier | hself
      · exact hearlier
      · rw [List.mem_singleton.mp hself, hverified] at huser
        cases huser

theorem verified_of_since (h : VerifiedSince history token) :
    ∃ e ∈ history, verifiedUser e ≠ none := by
  obtain ⟨front, login, since, user, rfl, -, -, e, hmem, huser⟩ := h
  refine ⟨e, List.mem_append_right _ (List.mem_cons_of_mem _ hmem), ?_⟩
  rw [huser]
  exact Option.some_ne_none _

/-- How to find that a user has been verified since the login that is call `n`. -/
theorem verifiedSince_of (n : Nat) (user : User)
    (hlogin : history[n]?.bind (fun e => issued e.interaction) = some (user, token))
    (hlater : (history.drop (n + 1)).all (fun e => (issued e.interaction).isNone) = true)
    (hverified : (history.drop (n + 1)).any (fun e => verifiedUser e = some user.id) = true) :
    VerifiedSince history token := by
  obtain ⟨login, hget, hissued⟩ := Option.bind_eq_some_iff.mp hlogin
  obtain ⟨hn, rfl⟩ := List.getElem?_eq_some_iff.mp hget
  obtain ⟨verified, hmem, huser⟩ := List.any_eq_true.mp hverified
  refine ⟨history.take n, history[n], history.drop (n + 1), user, ?_, hissued, ?_, verified, hmem,
    of_decide_eq_true huser⟩
  · rw [← List.drop_eq_getElem_cons hn, List.take_append_drop]
  · intro later hlaterMem other heq
    have hnone := List.all_eq_true.mp hlater later hlaterMem
    rw [heq] at hnone
    cases hnone

end VerifiedSince

section Calls

variable {primitives : Primitives} {config : AuthConfig} {state next : AuthState}
  {action : AuthAction} {choice : AuthChoice} {reply : AuthReply action} {token : String}
  {session : SessionRecord}

/-- What a call has to do with the session of a token that it leaves: it has found it there,
    it has opened it, or it has recorded a success on it. -/
inductive SessionLeft (state next : AuthState) (x : Interaction AuthAction AuthReply)
    (token : String) (session : SessionRecord) : Prop
  | kept (found : state.store.sessionsByToken.lookup token = some session)
    (others : ∀ user, issued x ≠ some (user, token))
  | opened (fresh : session.recentMfaAt = none)
  | recorded (earlier : SessionRecord) (now : Nat) (hcall : x.action = .recordMfaSuccess token)
    (found : state.store.sessionsByToken.lookup token = some earlier)
    (live : now < earlier.expiresAt) (hclock : next.clock = now)

private theorem kept_of_purge {store : AuthStore} {now : Nat}
    (found : (store.purgeExpiredSessionsLocked now).sessionsByToken.lookup token = some session) :
    store.sessionsByToken.lookup token = some session := by
  rw [AuthStore.lookup_purge, Option.filter_eq_some_iff] at found
  exact found.1

private theorem sessionLeft_login {email password fresh : String} {now : Nat}
    {result : Except AuthError (User × String)}
    (h : some (state.onStore (state.store.login primitives config email password now fresh)) =
      some (result, next))
    (found : next.store.sessionsByToken.lookup token = some session) :
    SessionLeft state next ⟨.login email password now, result⟩ token session := by
  rcases state.store.login_cases primitives config email password now fresh with
    ⟨error, heq, -⟩ | ⟨-, stored, -, -, -, heq⟩
  · rw [AuthState.onStore, heq] at h
    cases h
    exact .kept found (by intro user hissued; cases hissued)
  · rw [AuthState.onStore, heq] at h
    cases h
    rw [Table.lookup_insert] at found
    by_cases htoken : token = fresh
    · rw [if_pos htoken] at found
      cases found
      exact .opened rfl
    · rw [if_neg htoken] at found
      refine .kept found ?_
      intro user hissued
      cases hissued
      exact htoken rfl

private theorem sessionLeft_record {named : String} {now : Nat} {result : Except AuthError Unit}
    (h : state.atInstant now (fun state => state.onStore (state.store.recordMfaSuccess named now)) =
      some (result, next))
    (found : next.store.sessionsByToken.lookup token = some session) :
    SessionLeft state next ⟨.recordMfaSuccess named, result⟩ token session := by
  obtain ⟨-, hout⟩ := atInstant_eq h
  have others : ∀ user, issued ⟨.recordMfaSuccess named, result⟩ ≠ some (user, token) := by
    intro user hissued
    cases hissued
  rcases state.store.recordMfaSuccess_cases named now with
    ⟨heq, -⟩ | ⟨earlier, hearlier, live, heq⟩
  · rw [AuthState.onStore, heq] at hout
    cases hout
    exact .kept (kept_of_purge found) others
  · rw [AuthState.onStore, heq] at hout
    cases hout
    rw [Table.lookup_insert] at found
    by_cases htoken : token = named
    · subst htoken
      exact .recorded earlier now rfl hearlier live rfl
    · rw [if_neg htoken] at found
      exact .kept (kept_of_purge found) others

/-- The sessions of every call. -/
theorem sessionLeft (h : performAuth primitives config state action choice = some (reply, next))
    (found : next.store.sessionsByToken.lookup token = some session) :
    SessionLeft state next ⟨action, reply⟩ token session := by
  cases action with
  | login email password now =>
    cases choice <;> first | exact sessionLeft_login h found | cases h
  | recordMfaSuccess named =>
    cases choice <;> first | exact sessionLeft_record h found | cases h
  | logout named =>
    cases choice <;> cases h
    rw [AuthStore.logout, Table.lookup_erase] at found
    split_ifs at found
    exact .kept found (fun _ hissued => by cases hissued)
  | upsertUser email password role =>
    cases choice <;> cases h
    exact .kept (state.store.sessions_upsertUser primitives .. ▸ found)
      (fun _ hissued => by cases hissued)
  | enrollFactor userId factorType label =>
    cases choice <;> cases h
    exact .kept (state.store.sessions_enrollFactor .. ▸ found)
      (fun _ hissued => by cases hissued)
  | useRecoveryCode factorId hash =>
    cases choice <;> cases h
    exact .kept (state.store.sessions_useRecoveryCode .. ▸ found)
      (fun _ hissued => by cases hissued)
  | currentUser named =>
    cases choice <;> simp only [performAuth, reduceCtorEq] at h
    obtain ⟨-, hout⟩ := atInstant_eq h
    cases hout
    exact .kept (kept_of_purge found) (fun _ hissued => by cases hissued)
  | hasRecentMfa named =>
    cases choice <;> simp only [performAuth, reduceCtorEq] at h
    obtain ⟨-, hout⟩ := atInstant_eq h
    cases hout
    exact .kept (kept_of_purge found) (fun _ hissued => by cases hissued)
  | instant | checkLogin key | checkMfa key =>
    cases choice <;> simp only [performAuth, reduceCtorEq] at h
    obtain ⟨-, hout⟩ := atInstant_eq h
    cases hout
    exact .kept found (fun _ hissued => by cases hissued)
  | _ =>
    cases choice <;> cases h
    exact .kept found (fun _ hissued => by cases hissued)

/-- Who counts as having recent MFA has a session on which a success has been recorded. -/
theorem recorded_of_hasRecentMfa {store : AuthStore} {now : Nat}
    (h : (store.hasRecentMfa config token now).2 = true) :
    ∃ session, store.sessionsByToken.lookup token = some session ∧
      session.recentMfaAt ≠ none := by
  rw [AuthStore.hasRecentMfa] at h
  obtain ⟨session, found, hrecent⟩ := (Option.any_eq_true _ _).mp h
  obtain ⟨recentMfaAt, hsome, -⟩ := (Option.any_eq_true _ _).mp hrecent
  refine ⟨session, kept_of_purge found, ?_⟩
  rw [hsome]
  exact Option.some_ne_none _

/-- A success that is recorded on a session makes it count right away. -/
theorem hasRecentMfa_recordMfaSuccess {store : AuthStore} {now : Nat}
    (found : store.sessionsByToken.lookup token = some session) (live : now < session.expiresAt) :
    ((store.recordMfaSuccess token now).1.hasRecentMfa config token now).2 = true := by
  rcases store.recordMfaSuccess_cases token now with
    ⟨-, expired⟩ | ⟨other, hother, -, heq⟩
  · have := expired session found
    omega
  · obtain rfl : session = other := Option.some.inj (found.symm.trans hother)
    rw [heq, AuthStore.hasRecentMfa]
    have hlookup : AList.lookup token ((AuthStore.purgeExpiredSessionsLocked
        { store.purgeExpiredSessionsLocked now with
          sessionsByToken := AList.insert token { session with recentMfaAt := some now }
            (store.purgeExpiredSessionsLocked now).sessionsByToken } now).sessionsByToken) =
        some { session with recentMfaAt := some now } := by
      rw [AuthStore.lookup_purge, AList.lookup_insert, Option.filter_some_pos (by simpa using live)]
    simp only [hlookup]
    simp

end Calls

section Runs

variable {primitives : Primitives} {config : AuthConfig} {history : List AuthEvent}
  {pool : AuthPool}

private theorem StepUpsVerified.front {back : List AuthEvent}
    (h : StepUpsVerified (history ++ back)) : StepUpsVerified history := by
  intro front e rest token session hsplit
  exact h front e (rest ++ back) token session (by simp [hsplit])

/-- The invariant: a success that is recorded on a session comes after a verification. -/
theorem AuthReaches.verified (h : AuthReaches primitives config history pool)
    (stepUps : StepUpsVerified history) {token : String} {session : SessionRecord}
    (found : pool.shared.store.sessionsByToken.lookup token = some session)
    (recorded : session.recentMfaAt ≠ none) : VerifiedSince history token := by
  induction hlength : history.length generalizing history pool session with
  | zero =>
    obtain rfl := List.length_eq_zero_iff.mp hlength
    rw [h.shared_eq] at found
    cases found
  | succ n ih =>
    obtain ⟨front, e, rfl⟩ : ∃ front e, history = front ++ [e] := by
      rcases List.eq_nil_or_concat history with rfl | ⟨front, e, rfl⟩
      · cases hlength
      · exact ⟨front, e, List.concat_eq_append⟩
    obtain ⟨before, hfront, hbefore⟩ := h.front (List.prefix_append front [e])
    have hsplit : front ++ [e] = front ++ e :: [] := rfl
    obtain ⟨hstate, choice, hout⟩ := h.performed hsplit
    have hafter : pool.shared = e.after := by
      rw [h.shared_eq, List.getLast?_concat]
      rfl
    rw [hafter] at found
    cases sessionLeft hout found with
    | kept earlier others =>
      rw [hstate, ← hbefore] at earlier
      exact (ih hfront stepUps.front earlier recorded (by simpa using hlength)).next others
    | opened fresh => exact absurd fresh recorded
    | recorded earlier now hcall hearlier live hclock =>
      have verified : VerifiedSince front token :=
        stepUps front e [] token earlier rfl hcall hearlier (hclock ▸ live)
      refine verified.next ?_
      intro user hissued
      obtain ⟨task, origin, action, reply, state, next, spawned⟩ := e
      cases hcall
      cases hissued

/-! The order of the calls of a terminal access. -/

/-- While the policy is on, access is granted after the check of the session's token. -/
def accessAct (config : AuthConfig) (origin : AuthJob)
    (past : List (Interaction AuthAction AuthReply)) (action : AuthAction) : Prop :=
  config.requireStepUpMfaForTerminal = true → action = .respond (.terminalAccess true) →
    ∃ headers token, origin = .terminalAccess headers ∧
      sessionTokenFromHeaders headers = some token ∧ ⟨.hasRecentMfa token, true⟩ ∈ past

def accessOrder (config : AuthConfig) : Discipline AuthAction AuthReply AuthJob :=
  ⟨accessAct config, fun origin job _ => job = origin, fun _ _ => True⟩

/-- The calls that grant no access. -/
def GrantsNone (action : AuthAction) : Prop := action ≠ .respond (.terminalAccess true)

section Bodies

attribute [local simp] auth respond recordAudit Program.perform GrantsNone

/-- Only the terminal access route grants access. -/
private theorem none_program (primitives : Primitives) (config : AuthConfig) {job : AuthJob}
    (h : ∀ headers, job ≠ .terminalAccess headers) :
    (job.program primitives config).Each GrantsNone (fun _ => True) := by
  have hduty : job.duty ≠ some .terminalAccess := by
    cases job with
    | terminalAccess headers => exact absurd rfl (h headers)
    | _ => simp [AuthJob.duty]
  refine (off_duty hduty).imp (fun action other => ?_)
  rintro rfl
  exact other rfl

/-- The requests that have passed the check of their session. -/
def Checked (headers : Cookies) (past : List (Interaction AuthAction AuthReply)) : Prop :=
  ∃ token, sessionTokenFromHeaders headers = some token ∧ ⟨.hasRecentMfa token, true⟩ ∈ past

private theorem access_canOpenTerminal {config : AuthConfig} {origin : AuthJob} {user : User}
    {token : String} {past : List (Interaction AuthAction AuthReply)}
    (policy : config.requireStepUpMfaForTerminal = true) :
    (canOpenTerminalWithSession config user token).All (accessAct config origin) past
      (fun past opened => opened = true → ⟨.hasRecentMfa token, true⟩ ∈ past) := by
  rw [canOpenTerminalWithSession, Program.all_ite]
  refine ⟨fun _ => by simp, fun _ => ?_⟩
  simp [policy, accessAct]

private theorem access_authorize {config : AuthConfig} {origin : AuthJob} (headers : Cookies)
    {past : List (Interaction AuthAction AuthReply)}
    (policy : config.requireStepUpMfaForTerminal = true) :
    (authorizeTerminalRequest config headers).All (accessAct config origin) past
      (fun past result => ∀ user, result = .ok user → Checked headers past) := by
  rw [authorizeTerminalRequest]
  cases htoken : sessionTokenFromHeaders headers with
  | none => simp
  | some token =>
    rw [Program.all_bind]
    refine ⟨by simp [accessAct], fun found => ?_⟩
    cases found with
    | none => simp
    | some user =>
      rw [Program.all_done, Program.all_ite]
      refine ⟨fun _ => by simp, fun _ => ?_⟩
      rw [Program.all_bind]
      refine (access_canOpenTerminal policy).mono ?_
      intro past opened checked
      cases opened with
      | true =>
        intro user _
        exact ⟨token, htoken, checked rfl⟩
      | false => simp [policy]

private theorem access_terminalAccess {config : AuthConfig} (headers : Cookies)
    {past : List (Interaction AuthAction AuthReply)} :
    ((AuthJob.terminalAccess headers).program primitives config).All
      (accessAct config (.terminalAccess headers)) past (fun _ _ => True) := by
  by_cases policy : config.requireStepUpMfaForTerminal = true
  · rw [AuthJob.program, requireAuthMiddleware]
    cases htoken : sessionTokenFromHeaders headers with
    | none => simp [accessAct]
    | some token =>
      rw [Program.all_bind]
      refine ⟨by simp [accessAct], fun found => ?_⟩
      cases found with
      | none => simp [accessAct]
      | some user =>
        rw [Program.all_done, authTerminalAccess, Program.all_bind]
        refine (access_authorize headers policy).mono ?_
        intro past result checked
        cases result with
        | error error => simp [accessAct]
        | ok user =>
          obtain ⟨token, htoken, hmem⟩ := checked user rfl
          exact ⟨fun _ _ => ⟨headers, token, rfl, htoken, hmem⟩, fun _ => trivial⟩
  · exact Program.all_of_forall (fun _ _ required => absurd required policy) (fun _ _ => trivial)

end Bodies

/-- The handlers keep this order. -/
theorem accessOrder_sound (primitives : Primitives) (config : AuthConfig) :
    (accessOrder config).Sound (authService primitives config) id where
  entered _ := rfl
  spawned hout stage hstage := by
    obtain ⟨out, -, rfl⟩ := Option.map_eq_some_iff.mp hout
    cases hstage
  body {origin job past} same := by
    obtain rfl : job = origin := same
    change (job.program primitives config >>= fun _ => pure none).All (accessAct config job) past _
    rw [Program.all_bind]
    by_cases haccess : ∃ headers, job = .terminalAccess headers
    · obtain ⟨headers, rfl⟩ := haccess
      exact access_terminalAccess headers
    · have others : ∀ headers, job ≠ .terminalAccess headers :=
        fun headers heq => haccess ⟨headers, heq⟩
      refine (none_program primitives config others).all ?_ (fun _ _ _ _ => trivial)
      intro extra action _ grantsNone _ grants
      exact absurd grants grantsNone

private theorem AuthReaches.accessVerified (h : AuthReaches primitives config history pool)
    (stepUps : StepUpsVerified history) : AccessVerified config history := by
  intro policy front e back hsplit hgrants
  obtain ⟨headers, token, horigin, htoken, hmem⟩ :=
    Service.Reaches.act (accessOrder_sound primitives config) h hsplit policy hgrants
  refine ⟨headers, token, horigin, htoken, ?_⟩
  obtain ⟨check, hcheck, htask, hcall⟩ := Service.mem_own.mp hmem
  obtain ⟨before, between, rfl⟩ := List.append_of_mem hcheck
  refine ⟨before, check, between, rfl, htask, hcall, ?_⟩
  -- the check has found a session on which a success has been recorded
  have hrun : history = before ++ check :: (between ++ e :: back) := by simp [hsplit]
  obtain ⟨hstate, choice, hout⟩ := h.performed hrun
  obtain ⟨pool', hbefore, hpool⟩ := h.front ⟨check :: (between ++ e :: back), hrun.symm⟩
  obtain ⟨task, origin, action, reply, state, next, spawned⟩ := check
  cases hcall
  cases choice <;> simp only [performAuth, reduceCtorEq] at hout
  obtain ⟨-, hreply⟩ := atInstant_eq hout
  have recent := congrArg Prod.fst hreply
  obtain ⟨session, found, recorded⟩ := recorded_of_hasRecentMfa recent.symm
  rw [show state = stateAfter before from hstate, ← hpool] at found
  rw [hrun] at stepUps
  exact hbefore.verified stepUps.front found recorded

/-- In a run in which every success is recorded after a verification, and only in such a run,
    a session has recent MFA, and a request is granted terminal access under the policy, only
    since a factor response of its user has been verified. -/
theorem recent_mfa_verified_iff (h : AuthReaches primitives config history pool) :
    RecentMfaVerified config history ∧ AccessVerified config history ↔ StepUpsVerified history := by
  constructor
  · rintro ⟨recent, -⟩ front e back token session hsplit hcall found live
    obtain ⟨-, choice, hout⟩ := h.performed hsplit
    have hfirst : front ++ [e] <+: history := ⟨back, by simp [hsplit]⟩
    have verified : VerifiedSince (front ++ [e]) token := by
      refine recent _ hfirst token e.after.clock ?_ ?_
      · rw [stateAfter, List.getLast?_concat]
        exact le_rfl
      · rw [stateAfter, List.getLast?_concat]
        obtain ⟨task, origin, action, reply, state, next, spawned⟩ := e
        cases hcall
        cases choice <;> simp only [performAuth, reduceCtorEq] at hout
        obtain ⟨-, hafter⟩ := atInstant_eq hout
        cases hafter
        exact hasRecentMfa_recordMfaSuccess found live
    refine verified.of_next ?_
    rw [verifiedUser, hcall]
  · intro stepUps
    refine ⟨?_, h.accessVerified stepUps⟩
    intro front hfirst token now _ hrecent
    obtain ⟨before, hfront, hbefore⟩ := h.front hfirst
    rw [← hbefore] at hrecent
    obtain ⟨session, found, recorded⟩ := recorded_of_hasRecentMfa hrecent
    obtain ⟨back, rfl⟩ := hfirst
    exact hfront.verified stepUps.front found recorded

end Runs

section Samples

/-- The digest of the one text that is hashed below. -/
private def adminDigest : Primitives where
  sha256 bytes :=
    if bytes = Utf8Lossy.encode "sunbolt-dev-v1:sunbolt-dev-admin".toList then
    [183, 22, 145, 252, 116, 29, 14, 47, 230, 119, 137, 158, 19, 114, 191, 185, 84, 151, 134, 49,
      122, 225, 85, 192, 186, 238, 85, 184, 84, 122, 206, 108]
    else []
  toLowercase c := [c.toLower]

private def sampleSession : String :=
  "0123456789abcdef0123456789abcdef0123456789abcdef0123456789abcdef"

private def sampleCookies : Cookies := some ("sunbolt_session=" ++ sampleSession)

/-- The bootstrap account is added, and its user logs in. -/
private def adminLogin : List (Label AuthJob AuthChoice) :=
  [.arrive (.upsertUser "admin@sunbolt.local" "sunbolt-dev-admin" .admin), .move 0 .none,
    .arrive (.login ⟨"admin@sunbolt.local", "sunbolt-dev-admin"⟩), .move 1 (.clock 1),
    .move 1 (.clock 1), .move 1 (.token sampleSession), .move 1 .none, .move 1 .none]

/-- A factor that expects one secret. -/
private def staticFactor : AuthFactor where
  factorType := .hardwareKey
  beginChallenge _ ctx :=
    .ok ⟨"challenge-1", ctx.user.id, .hardwareKey, ctx.purpose, "Enter MFA code"⟩
  verifyChallenge _ ctx response :=
    .ok ⟨ctx.user.id, response.factorType, response.secret = "123456"⟩

/-- The user enrolls the factor and responds to its challenge. -/
private def adminVerifies : List (Label AuthJob AuthChoice) :=
  [.arrive (.enrollFactor 1 .hardwareKey "key"), .move 2 .none,
    .arrive (.verifyFactorChallenge staticFactor
      ⟨⟨1, "admin@sunbolt.local", .admin⟩, .terminalStepUp⟩
      ⟨"challenge-1", .hardwareKey, "123456"⟩),
    .move 3 .none, .move 3 (.clock 1700000000), .move 3 .none]

/-- The step-up route is called and then the terminal access route. -/
private def stepUpAndOpen (task : Nat) : List (Label AuthJob AuthChoice) :=
  [.arrive (.mfaStepUp sampleCookies ⟨.hardwareKey⟩), .move task (.clock 2), .move task (.clock 2),
    .move task .none, .move task (.clock 2), .move task .none, .move task .none,
    .arrive (.terminalAccess sampleCookies), .move (task + 1) (.clock 3),
    .move (task + 1) (.clock 3), .move (task + 1) (.clock 3), .move (task + 1) .none]

private def verifiedAccess : List AuthEvent :=
  authCalls adminDigest .default (adminLogin ++ adminVerifies ++ stepUpAndOpen 4)

private def unverifiedAccess : List AuthEvent :=
  authCalls adminDigest .default (adminLogin ++ stepUpAndOpen 2)

private def grantsAccess (e : AuthEvent) : Bool :=
  match e.action with
  | .respond response => response = .terminalAccess true
  | _ => false

private def recordedToken (e : AuthEvent) : Option String :=
  match e.action with
  | .recordMfaSuccess token => some token
  | _ => none

private theorem grants_of {e : AuthEvent} (h : grantsAccess e = true) :
    e.action = .respond (.terminalAccess true) := by
  unfold grantsAccess at h
  split at h
  · rename_i response hrespond
    rw [hrespond, of_decide_eq_true h]
  · cases h

/-- The success is recorded by call 13, the login is call 3, and a verification comes between. -/
private theorem verifiedAccess_calls :
    verifiedAccess.isEmpty = false ∧ verifiedAccess.any grantsAccess = true ∧
    verifiedAccess.zipIdx.filterMap (fun p => (recordedToken p.1).map (fun token => (token, p.2))) =
      [(sampleSession, 13)] ∧
    (verifiedAccess.take 13)[3]?.bind (fun e => issued e.interaction) =
      some (⟨1, "admin@sunbolt.local", .admin⟩, sampleSession) ∧
    ((verifiedAccess.take 13).drop 4).all (fun e => (issued e.interaction).isNone) = true ∧
    ((verifiedAccess.take 13).drop 4).any (fun e => verifiedUser e = some 1) = true := by
  decide +kernel

theorem recent_mfa_verified_iff_factor : ∃ pool,
    AuthReaches adminDigest .default verifiedAccess pool ∧
    verifiedAccess.any grantsAccess = true ∧
    RecentMfaVerified .default verifiedAccess ∧ AccessVerified .default verifiedAccess := by
  obtain ⟨hcalls, hgrants, honly, hlogin, hlater, hverified⟩ := verifiedAccess_calls
  obtain ⟨pool, h⟩ : ∃ pool, AuthReaches adminDigest .default verifiedAccess pool :=
    reaches_authCalls hcalls
  refine ⟨pool, h, hgrants, (recent_mfa_verified_iff h).mpr ?_⟩
  intro front e back token session hsplit hcall found _
  have hget : verifiedAccess[front.length]? = some e := by simp [hsplit]
  have hmem : (token, front.length) ∈ verifiedAccess.zipIdx.filterMap (fun p =>
      (recordedToken p.1).map (fun token => (token, p.2))) := by
    refine List.mem_filterMap.mpr ⟨(e, front.length), List.mem_zipIdx_iff_getElem?.mpr hget, ?_⟩
    simp [recordedToken, hcall]
  rw [honly, List.mem_singleton, Prod.mk.injEq] at hmem
  have hfront : front = verifiedAccess.take 13 := by rw [hsplit, ← hmem.2, List.take_left]
  rw [hfront, hmem.1]
  exact verifiedSince_of 3 _ hlogin hlater hverified

/-- Nobody has verified anything, and the session counts as having recent MFA. -/
private theorem unverifiedAccess_calls :
    unverifiedAccess.isEmpty = false ∧ unverifiedAccess.any grantsAccess = true ∧
    unverifiedAccess.all (fun e => (verifiedUser e).isNone) = true ∧
    ((stateAfter unverifiedAccess).store.hasRecentMfa .default sampleSession
      (stateAfter unverifiedAccess).clock).2 = true := by
  decide +kernel

theorem step_up_without_factor : ∃ pool,
    AuthReaches adminDigest .default unverifiedAccess pool ∧
    unverifiedAccess.any grantsAccess = true ∧
    ¬RecentMfaVerified .default unverifiedAccess ∧ ¬AccessVerified .default unverifiedAccess := by
  obtain ⟨hcalls, hgrants, hnone, counted⟩ := unverifiedAccess_calls
  obtain ⟨pool, h⟩ : ∃ pool, AuthReaches adminDigest .default unverifiedAccess pool :=
    reaches_authCalls hcalls
  have unverified : ∀ {front token}, front <+: unverifiedAccess → ¬VerifiedSince front token := by
    intro front token hfirst verified
    obtain ⟨e, he, hsome⟩ := verified_of_since verified
    have hunverified := List.all_eq_true.mp hnone e (List.IsPrefix.subset hfirst he)
    exact hsome (Option.isNone_iff_eq_none.mp hunverified)
  refine ⟨pool, h, hgrants, ?_, ?_⟩
  · intro recent
    exact unverified (List.prefix_refl _)
      (recent _ (List.prefix_refl _) sampleSession _ le_rfl counted)
  · intro access
    obtain ⟨e, he, hgrant⟩ := List.any_eq_true.mp hgrants
    obtain ⟨front, back, hsplit⟩ := List.append_of_mem he
    obtain ⟨headers, token, -, -, before, check, between, hfront, -, -, verified⟩ :=
      access rfl front e back hsplit (grants_of hgrant)
    refine unverified ⟨check :: (between ++ e :: back), ?_⟩ verified
    simp [hsplit, hfront]

end Samples

end Sunbolt.Control
