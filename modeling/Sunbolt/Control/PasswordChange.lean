/- Module: Sunbolt/Control/PasswordChange
   scope: sunbolt-auth/src/lib.rs
   digest: What becomes of the sessions of a user whose password is changed. -/

import Sunbolt.Control.SessionValidity
import Sunbolt.Control.UserStore

set_option autoImplicit false
set_option relaxedAutoImplicit false

namespace Sunbolt.Control

open Sunbolt.Library
open Sunbolt.Auth (AuthConfig Primitives User UserRole)

/-- A login of the account has issued the token at `start`. -/
def IssuedAt (history : List AuthEvent) (token : String) (userId start : Nat) : Prop :=
  ∃ e ∈ history, ∃ email password user,
    e.interaction = ⟨.login email password start, .ok (user, token)⟩ ∧ user.id = userId

/-- The call gives an account, which had a password, another one. -/
def ChangesPassword (earlier : List AuthEvent) (e : AuthEvent) (userId : Nat) : Prop :=
  ∃ spelling password old role user,
    e.interaction = ⟨.upsertUser spelling password role, .ok user⟩ ∧ user.id = userId ∧
    lastPassword spelling earlier = some old ∧ old ≠ password

/-- No token that was issued for the account before the change stands for anyone at `now`. -/
def OldSessionsEnded (earlier : List AuthEvent) (state : AuthState) (userId now : Nat) : Prop :=
  ∀ token start, IssuedAt earlier token userId start →
    (state.store.currentUser token now).2 = none

/-- Every session that the account had before the change has been logged out or has run out. -/
def OldSessionsOver (config : AuthConfig) (earlier history : List AuthEvent)
    (userId now : Nat) : Prop :=
  ∀ token start, IssuedAt earlier token userId start →
    ¬LoggedIn history token userId start ∨ start + config.sessionTtl ≤ now

section Runs

variable {primitives : Primitives} {config : AuthConfig} {history : List AuthEvent}
  {state : AuthState} {token : String}

/-- A fresh token has been issued by one login only. -/
theorem FreshSessions.unique (fresh : FreshSessions history) {d e : AuthEvent} {user other : User}
    (hd : d ∈ history) (he : e ∈ history) (hissued : issued d.interaction = some (user, token))
    (hissued' : issued e.interaction = some (other, token)) : d = e := by
  induction history with
  | nil => cases hd
  | cons first history ih =>
    have hnew : ∀ {x : AuthEvent} {u u' : User}, x ∈ history →
        issued first.interaction = some (u, token) →
        issued x.interaction = some (u', token) → False := by
      intro x u u' hx hfirst hlater
      rw [FreshSessions, issuedSessions, List.filterMap_cons, hfirst] at fresh
      exact (List.nodup_cons.mp fresh).1 (mem_issuedSessions hx hlater)
    have hrest : FreshSessions history :=
      List.Nodup.sublist ((List.sublist_cons_self first history).filterMap _) fresh
    rcases List.mem_cons.mp hd with rfl | hlater
    · rcases List.mem_cons.mp he with rfl | hlater
      · rfl
      · exact (hnew hlater hissued hissued').elim
    · rcases List.mem_cons.mp he with rfl | hlater'
      · exact (hnew hlater hissued' hissued).elim
      · exact ih hrest hlater hlater'

/-- An account that an upsert has returned is there from then on. -/
theorem AuthRun.user_of_upsert (h : AuthRun primitives config history state) {e : AuthEvent}
    (he : e ∈ history) {spelling password : String} {role : UserRole} {user : User}
    (upsert : e.interaction = ⟨.upsertUser spelling password role, .ok user⟩) :
    ∃ last, last.id = user.id ∧ LastUpsert history last := by
  obtain ⟨stored, hstored, -⟩ :=
    (h.consistent.indexed _ _).mp (h.indexed_of_upsert he upsert)
  have hlast := h.accounts.2 user.id
  rw [hstored, Option.map_some] at hlast
  exact ⟨stored.user, h.lastUpsert_iff.mp hlast.symm⟩

end Runs

/-- A change of the password ends no session: the old ones have ended exactly where each has
    been logged out or has run out. -/
theorem old_sessions_ended_iff {primitives : Primitives} {config : AuthConfig}
    {earlier since : List AuthEvent} {change : AuthEvent} {state : AuthState} {userId now : Nat}
    (h : AuthRun primitives config (earlier ++ change :: since) state)
    (fresh : FreshSessions (earlier ++ change :: since))
    (changes : ChangesPassword earlier change userId) (hnow : state.clock ≤ now) :
    OldSessionsEnded earlier state userId now ↔
      OldSessionsOver config earlier (earlier ++ change :: since) userId now := by
  constructor
  · intro ended token start hissued
    by_contra hlive
    simp only [not_or, not_not, Nat.not_le] at hlive
    obtain ⟨spelling, password, old, role, user, hcall, rfl, -⟩ := changes
    obtain ⟨last, hid, hlast⟩ := h.user_of_upsert (by simp) hcall
    have hvalid : ValidAt config (earlier ++ change :: since) token now last :=
      ⟨start, hid ▸ hlive.1, hlive.2, hlast⟩
    have hfound := (h.currentUser_iff fresh hnow).mpr hvalid
    rw [ended token start hissued] at hfound
    cases hfound
  · intro ended token start hissued
    cases hfound : (state.store.currentUser token now).2 with
    | none => rfl
    | some found =>
      obtain ⟨again, hlogin, hlive, -⟩ := (h.currentUser_iff fresh hnow).mp hfound
      obtain ⟨d, hd, email, password, user, hcall, rfl⟩ := hissued
      obtain ⟨front, e, later, email', password', user', hsplit, hcall', hid, hsince⟩ := hlogin
      -- the token has been issued once, so that both are the same login
      have hfirst : issued d.interaction = some (user, token) := by
        rw [hcall]
        rfl
      have hagain : issued e.interaction = some (user', token) := by
        rw [hcall']
        rfl
      have he : e ∈ earlier ++ change :: since := by
        rw [hsplit]
        simp
      have hsame : d = e := fresh.unique (List.mem_append_left _ hd) he hfirst hagain
      rw [hsame, hcall'] at hcall
      cases hcall
      rcases ended token start ⟨d, hd, _, _, _, hsame ▸ hcall', rfl⟩ with
        hout | hover
      · exact absurd ⟨front, e, later, _, _, _, hsplit, hcall', rfl, hsince⟩ hout
      · omega

section Samples

/-- A user logs in, and then gets another password under another spelling of the email. -/
private def renewedPassword : List AuthEvent :=
  authCalls identityDigest .default
    [.arrive (.upsertUser "ops@x" "old" .operator), .move 0 .none,
      .arrive (.login ⟨"ops@x", "old"⟩), .move 1 (.clock 1), .move 1 (.clock 1),
      .move 1 (.token "t"), .arrive (.upsertUser "OPS@x" "new" .operator), .move 2 .none]

private def loginsBy (now : Nat) (e : AuthEvent) : Bool :=
  match e.action with
  | .login _ _ start => start ≤ now
  | _ => true

private theorem renewedPassword_calls : ∃ earlier change,
    renewedPassword = earlier ++ [change] ∧ ChangesPassword earlier change 1 ∧
    IssuedAt earlier "t" 1 1 ∧ earlier.all (loginsBy 1) = true ∧
    FreshSessions (earlier ++ [change]) ∧ (stateAfter (earlier ++ [change])).clock = 1 ∧
    ((stateAfter (earlier ++ [change])).store.currentUser "t" 2).2 =
      some ⟨1, "ops@x", .operator⟩ := by
  have hissued : issuedSessions renewedPassword = ["t"] := by decide +kernel
  refine ⟨renewedPassword.take 4, (renewedPassword.drop 4).head (by decide +kernel), rfl,
    ⟨"OPS@x", "new", "old", .operator, ⟨1, "ops@x", .operator⟩, rfl, rfl, by decide +kernel,
      by decide⟩,
    ⟨(renewedPassword.drop 3).head (by decide +kernel), List.mem_of_getElem? (i := 3) rfl,
      "ops@x", "old", ⟨1, "ops@x", .operator⟩, rfl, rfl⟩,
    by decide +kernel, ?_, by decide +kernel, by decide +kernel⟩
  change (issuedSessions renewedPassword).Nodup
  rw [hissued]
  exact List.nodup_singleton _

private theorem renewedPassword_reached : renewedPassword.isEmpty = false := by decide +kernel

/-- Eight hours later the session has run out. -/
theorem old_sessions_ended_iff_late : ∃ earlier change state,
    AuthRun identityDigest .default (earlier ++ [change]) state ∧
    ChangesPassword earlier change 1 ∧ IssuedAt earlier "t" 1 1 ∧
    OldSessionsEnded earlier state 1 (8 * 60 * 60 * 1000000000 + 1) := by
  obtain ⟨earlier, change, hsplit, changes, hissued, hlogins, fresh, hclock, -⟩ :=
    renewedPassword_calls
  obtain ⟨pool, h⟩ : ∃ pool, AuthReaches identityDigest .default renewedPassword pool :=
    reaches_authCalls renewedPassword_reached
  have hrun := h.authRun
  rw [hsplit] at hrun
  have hnow : pool.shared.clock ≤ 8 * 60 * 60 * 1000000000 + 1 := by
    rw [hrun.state_eq, hclock]
    omega
  refine ⟨earlier, change, pool.shared, hrun, changes, hissued,
    (old_sessions_ended_iff hrun fresh changes hnow).mpr ?_⟩
  rintro token start ⟨e, he, email, password, user, hcall, -⟩
  have hstart := List.all_eq_true.mp hlogins e he
  rw [loginsBy, show e.action = _ from congrArg Interaction.action hcall] at hstart
  have hstart : start ≤ 1 := of_decide_eq_true hstart
  have httl : AuthConfig.default.sessionTtl = 8 * 60 * 60 * 1000000000 := rfl
  right
  omega

/-- Right after the change the old token still stands for the user. -/
theorem old_session_survives : ∃ earlier change state,
    AuthRun identityDigest .default (earlier ++ [change]) state ∧
    FreshSessions (earlier ++ [change]) ∧ ChangesPassword earlier change 1 ∧ state.clock ≤ 2 ∧
    ¬OldSessionsEnded earlier state 1 2 := by
  obtain ⟨earlier, change, hsplit, changes, hissued, -, fresh, hclock, hfound⟩ :=
    renewedPassword_calls
  obtain ⟨pool, h⟩ : ∃ pool, AuthReaches identityDigest .default renewedPassword pool :=
    reaches_authCalls renewedPassword_reached
  have hrun := h.authRun
  rw [hsplit] at hrun
  rw [← hrun.state_eq] at hclock hfound
  refine ⟨earlier, change, pool.shared, hrun, fresh, changes, by omega, fun ended => ?_⟩
  rw [ended "t" 1 hissued] at hfound
  cases hfound

end Samples

end Sunbolt.Control
