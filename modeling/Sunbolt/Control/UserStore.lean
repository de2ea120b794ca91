/- Module: Sunbolt/Control/UserStore
   scope: sunbolt-auth/src/lib.rs
   digest: Users, emails and sessions stay consistent, and the last upsert decides who logs in. -/

import Sunbolt.Auth.Spellings
import Sunbolt.Control.AuthAccounts

set_option autoImplicit false
set_option relaxedAutoImplicit false

namespace Sunbolt.Control

open Sunbolt.Library
open Sunbolt.Auth (AuthConfig AuthError AuthStore Primitives SessionRecord StoredUser User UserRole
  normalizeEmail normalizeEmail_idem passwordHash passwordBytes passwordHash_inj NoCollision)

/-- What an upsert that succeeds under a spelling of the email has made the password. -/
def passwordGiven (email : String) (e : AuthEvent) : Option String :=
  match e.interaction with
  | ⟨.upsertUser spelling password _, .ok _⟩ =>
    if normalizeEmail spelling = normalizeEmail email then some password else none
  | _ => none

/-- The password of the last successful upsert under any spelling of the email. -/
def lastPassword (email : String) (history : List AuthEvent) : Option String :=
  (history.filterMap (passwordGiven email)).getLast?

/-- The password that a call is given. -/
def passwordOf (e : AuthEvent) : Option String :=
  match e.action with
  | .upsertUser _ password _ => some password
  | .login _ password _ => some password
  | _ => none

/-- What is hashed for the passwords of a run. -/
def passwordMessages (history : List AuthEvent) : List (List UInt8) :=
  (history.filterMap passwordOf).map passwordBytes

/-- The index of the emails and the map of the users are inverse to each other, and what is in
    the store is in order. -/
structure UsersConsistent (store : AuthStore) : Prop where
  indexed : ∀ email userId, store.userIdsByEmail.lookup email = some userId ↔
    ∃ stored, store.usersById.lookup userId = some stored ∧ stored.user.email = email
  numbered : ∀ userId stored, store.usersById.lookup userId = some stored →
    stored.user.id = userId
  normalized : ∀ userId stored, store.usersById.lookup userId = some stored →
    normalizeEmail stored.user.email = stored.user.email
  sessions : ∀ token session, store.sessionsByToken.lookup token = some session →
    ∃ stored, store.usersById.lookup session.userId = some stored

/-- What holds of the users in every run. -/
structure UserStoreSound (history : List AuthEvent) (state : AuthState) : Prop where
  store : UsersConsistent state.store
  keepsId : ∀ d ∈ history, ∀ e ∈ history, ∀ spelling password role user spelling' password'
    role' user', d.interaction = ⟨.upsertUser spelling password role, .ok user⟩ →
    e.interaction = ⟨.upsertUser spelling' password' role', .ok user'⟩ →
    (normalizeEmail spelling = normalizeEmail spelling' ↔ user.id = user'.id)
  login : ∀ front e back, history = front ++ e :: back → ∀ email password now,
    e.action = .login email password now →
    ((∃ session, e.interaction = ⟨.login email password now, .ok session⟩) ↔
      lastPassword email front = some password)

section Steps

variable {primitives : Primitives} {config : AuthConfig} {state next : AuthState}
  {action : AuthAction} {choice : AuthChoice} {reply : AuthReply action}

/-- A session after a call other than a login was there before, for the same user. -/
private theorem session_before (other : ∀ email password now, action ≠ .login email password now)
    (call : performAuth primitives config state action choice = some (reply, next))
    {token : String} {session : SessionRecord}
    (found : next.store.sessionsByToken.lookup token = some session) :
    ∃ earlier, state.store.sessionsByToken.lookup token = some earlier ∧
      earlier.userId = session.userId := by
  have purged : ∀ {now : Nat} {session : SessionRecord},
      (state.store.purgeExpiredSessionsLocked now).sessionsByToken.lookup token = some session →
      state.store.sessionsByToken.lookup token = some session := by
    intro now session hfound
    rw [AuthStore.lookup_purge, Option.filter_eq_some_iff] at hfound
    exact hfound.1
  cases action with
  | login email password now => exact absurd rfl (other email password now)
  | recordMfaSuccess named =>
    cases choice <;> simp only [performAuth, reduceCtorEq] at call
    obtain ⟨-, hout⟩ := atInstant_eq call
    rcases state.store.recordMfaSuccess_cases named _ with ⟨heq, -⟩ | ⟨earlier, hearlier, -, heq⟩
    · rw [AuthState.onStore, heq] at hout
      cases hout
      exact ⟨session, purged found, rfl⟩
    · rw [AuthState.onStore, heq] at hout
      cases hout
      rw [Table.lookup_insert] at found
      split_ifs at found with hsame
      · cases found
        exact ⟨earlier, hsame ▸ hearlier, rfl⟩
      · exact ⟨session, purged found, rfl⟩
  | logout named =>
    cases choice <;> cases call
    rw [AuthStore.logout, Table.lookup_erase] at found
    split_ifs at found
    exact ⟨session, found, rfl⟩
  | upsertUser email password role =>
    cases choice <;> cases call
    exact ⟨session, state.store.sessions_upsertUser primitives .. ▸ found, rfl⟩
  | enrollFactor userId factorType label =>
    cases choice <;> cases call
    exact ⟨session, state.store.sessions_enrollFactor .. ▸ found, rfl⟩
  | useRecoveryCode factorId hash =>
    cases choice <;> cases call
    exact ⟨session, state.store.sessions_useRecoveryCode .. ▸ found, rfl⟩
  | currentUser named | hasRecentMfa named =>
    cases choice <;> simp only [performAuth, reduceCtorEq] at call
    obtain ⟨-, hout⟩ := atInstant_eq call
    cases hout
    exact ⟨session, purged found, rfl⟩
  | instant | checkLogin key | checkMfa key =>
    cases choice <;> simp only [performAuth, reduceCtorEq] at call
    obtain ⟨-, hout⟩ := atInstant_eq call
    cases hout
    exact ⟨session, found, rfl⟩
  | _ =>
    cases choice <;> cases call
    exact ⟨session, found, rfl⟩

/-- The number and the email of a user, which no call changes. -/
private def identity (stored : StoredUser) : Nat × String := (stored.user.id, stored.user.email)

private theorem UsersConsistent.of_same {store next : AuthStore} (h : UsersConsistent store)
    (emails : next.userIdsByEmail = store.userIdsByEmail)
    (users : ∀ userId, (next.usersById.lookup userId).map identity =
      (store.usersById.lookup userId).map identity)
    (sessions : ∀ token session, next.sessionsByToken.lookup token = some session →
      ∃ stored, store.usersById.lookup session.userId = some stored) :
    UsersConsistent next := by
  have hold : ∀ {userId found}, next.usersById.lookup userId = some found →
      ∃ earlier, store.usersById.lookup userId = some earlier ∧
        earlier.user.id = found.user.id ∧ earlier.user.email = found.user.email := by
    intro userId found hfound
    have hsame := users userId
    rw [hfound, Option.map_some] at hsame
    obtain ⟨earlier, hearlier, heq⟩ := Option.map_eq_some_iff.mp hsame.symm
    exact ⟨earlier, hearlier, Prod.mk.inj heq⟩
  have hnew : ∀ {userId earlier}, store.usersById.lookup userId = some earlier →
      ∃ found, next.usersById.lookup userId = some found ∧
        found.user.email = earlier.user.email := by
    intro userId earlier hearlier
    have hsame := users userId
    rw [hearlier, Option.map_some] at hsame
    obtain ⟨found, hfound, heq⟩ := Option.map_eq_some_iff.mp hsame
    exact ⟨found, hfound, (Prod.mk.inj heq).2⟩
  refine ⟨fun email userId => ?_, fun userId found hfound => ?_, fun userId found hfound => ?_,
    fun token session hsession => ?_⟩
  · rw [emails, h.indexed]
    constructor
    · rintro ⟨earlier, hearlier, rfl⟩
      exact hnew hearlier
    · rintro ⟨found, hfound, rfl⟩
      obtain ⟨earlier, hearlier, -, hemail⟩ := hold hfound
      exact ⟨earlier, hearlier, hemail⟩
  · obtain ⟨earlier, hearlier, hnumber, -⟩ := hold hfound
    exact hnumber.symm.trans (h.numbered userId earlier hearlier)
  · obtain ⟨earlier, hearlier, -, hemail⟩ := hold hfound
    rw [← hemail]
    exact h.normalized userId earlier hearlier
  · obtain ⟨earlier, hearlier⟩ := sessions token session hsession
    obtain ⟨found, hfound, -⟩ := hnew hearlier
    exact ⟨found, hfound⟩

theorem UsersConsistent.upsertUser {store : AuthStore} (h : UsersConsistent store)
    (accounts : Accounts store) (email password : String) (role : UserRole) :
    UsersConsistent (store.upsertUser primitives email password role).1 := by
  rcases store.upsertUser_cases primitives email password role with
    ⟨error, heq⟩ | ⟨known, stored, hid, hstored, heq⟩ | ⟨hnone, heq⟩
  · rw [heq]
    exact h
  · rw [heq]
    refine h.of_same rfl (fun userId => ?_) h.sessions
    dsimp only
    rw [Table.lookup_insert]
    split_ifs with hknown
    · rw [hknown, hstored]
      rfl
    · rfl
  · rw [heq]
    have hfresh : ∀ userId stored, store.usersById.lookup userId = some stored →
        userId ≠ store.nextUserId :=
      fun userId stored hstored => Nat.ne_of_lt (accounts.numbered userId stored hstored).2
    refine ⟨fun other userId => ?_, fun userId found => ?_, fun userId found => ?_,
      fun token session hsession => ?_⟩
    · dsimp only
      rw [Table.lookup_insert, Table.lookup_insert]
      by_cases hother : other = normalizeEmail email
      · rw [if_pos hother]
        constructor
        · rintro ⟨⟩
          exact ⟨_, if_pos rfl, hother.symm⟩
        · rintro ⟨found, hfound, hemail⟩
          split_ifs at hfound with hnew
          · rw [hnew]
          · have hindex := (h.indexed other userId).mpr ⟨found, hfound, hemail⟩
            rw [hother, hnone] at hindex
            cases hindex
      · rw [if_neg hother, h.indexed]
        constructor
        · rintro ⟨found, hfound, hemail⟩
          exact ⟨found, (if_neg (hfresh userId found hfound)).trans hfound, hemail⟩
        · rintro ⟨found, hfound, hemail⟩
          split_ifs at hfound with hnew
          · cases hfound
            exact absurd hemail.symm hother
          · exact ⟨found, hfound, hemail⟩
    · dsimp only
      rw [Table.lookup_insert]
      split_ifs with hnew
      · rintro ⟨⟩
        exact hnew.symm
      · exact h.numbered userId found
    · dsimp only
      rw [Table.lookup_insert]
      split_ifs with hnew
      · rintro ⟨⟩
        exact normalizeEmail_idem email
      · exact h.normalized userId found
    · obtain ⟨found, hfound⟩ := h.sessions token session hsession
      exact ⟨found, (Table.lookup_insert ..).trans
        ((if_neg (hfresh session.userId found hfound)).trans hfound)⟩

/-- Every call keeps the store consistent. -/
theorem UsersConsistent.step (h : UsersConsistent state.store) (accounts : Accounts state.store)
    (call : performAuth primitives config state action choice = some (reply, next)) :
    UsersConsistent next.store := by
  by_cases hupsert : ∃ email password role, action = .upsertUser email password role
  · obtain ⟨email, password, role, rfl⟩ := hupsert
    cases choice <;> cases call
    exact h.upsertUser accounts email password role
  · have same := (performAuth_frame call).accounts
      (fun email password role heq => hupsert ⟨email, password, role, heq⟩)
    simp only [AuthStore.accounts, Prod.mk.injEq] at same
    obtain ⟨husers, hemails, -⟩ := same
    refine h.of_same hemails (fun userId => by rw [husers]) (fun token session found => ?_)
    by_cases hlogin : ∃ email password now, action = .login email password now
    · obtain ⟨email, password, now, rfl⟩ := hlogin
      cases choice <;> simp only [performAuth, reduceCtorEq] at call
      rename_i fresh
      rcases state.store.login_cases primitives config email password now fresh with
        ⟨error, heq, -⟩ | ⟨userId, stored, -, hstored, -, heq⟩
      · rw [AuthState.onStore, heq] at call
        cases call
        exact h.sessions token session found
      · rw [AuthState.onStore, heq] at call
        cases call
        rw [Table.lookup_insert] at found
        split_ifs at found with hsame
        · cases found
          exact ⟨stored, h.numbered userId stored hstored ▸ hstored⟩
        · exact h.sessions token session found
    · obtain ⟨earlier, hearlier, huser⟩ := session_before
        (fun email password now heq => hlogin ⟨email, password, now, heq⟩) call found
      rw [← huser]
      exact h.sessions token earlier hearlier

end Steps

section Histories

variable {history : List AuthEvent} {e : AuthEvent}

theorem lastPassword_append_one (email : String) :
    lastPassword email (history ++ [e]) =
      (passwordGiven email e).or (lastPassword email history) := by
  rw [lastPassword, List.filterMap_append]
  cases hgiven : passwordGiven email e with
  | none => simp [hgiven, lastPassword]
  | some password => simp [hgiven]

theorem lastPassword_mem {email password : String}
    (h : lastPassword email history = some password) :
    password ∈ history.filterMap passwordOf := by
  obtain ⟨e, he, hgiven⟩ := List.mem_filterMap.mp (List.mem_of_getLast? h)
  refine List.mem_filterMap.mpr ⟨e, he, ?_⟩
  obtain ⟨task, origin, action, reply, before, after, spawned⟩ := e
  unfold passwordGiven at hgiven
  split at hgiven
  · rename_i heq
    cases heq
    split_ifs at hgiven
    exact hgiven
  · cases hgiven

end Histories

section Runs

variable {primitives : Primitives} {config : AuthConfig} {history : List AuthEvent}
  {state : AuthState}

theorem AuthRun.consistent (h : AuthRun primitives config history state) :
    UsersConsistent state.store := by
  induction h with
  | start =>
    exact ⟨fun email userId => ⟨nofun, fun ⟨_, found, _⟩ => nomatch found⟩, nofun, nofun, nofun⟩
  | next earlier call ih => exact ih.step earlier.accounts.1 call

/-- The user of a successful upsert is found under its email from then on. -/
theorem AuthRun.indexed_of_upsert (h : AuthRun primitives config history state) {e : AuthEvent}
    (he : e ∈ history) {spelling password : String} {role : UserRole} {user : User}
    (upsert : e.interaction = ⟨.upsertUser spelling password role, .ok user⟩) :
    state.store.userIdsByEmail.lookup (normalizeEmail spelling) = some user.id := by
  induction h with
  | start => cases he
  | @next history last choice earlier call ih =>
    rcases List.mem_append.mp he with he | he
    · exact (earlier.accounts.1.step call).2.1 _ _ (ih he)
    · obtain rfl := List.mem_singleton.mp he
      obtain ⟨task, origin, action, reply, before, after, spawned⟩ := e
      cases upsert
      dsimp only at earlier call ⊢
      cases choice <;> simp only [performAuth, reduceCtorEq] at call
      rcases before.store.upsertUser_cases primitives spelling password role with
        ⟨error, heq⟩ | ⟨known, stored, hid, hstored, heq⟩ | ⟨hnone, heq⟩
      · rw [AuthState.onStore, heq] at call
        cases call
      · rw [AuthState.onStore, heq] at call
        cases call
        rw [hid]
        exact congrArg some (earlier.accounts.1.numbered known stored hstored).1.symm
      · rw [AuthState.onStore, heq] at call
        cases call
        exact (Table.lookup_insert ..).trans (if_pos rfl)

/-- The hash that a login under the email is compared with is that of the last password. -/
theorem AuthRun.hash_eq (h : AuthRun primitives config history state) (email : String) :
    ((state.store.userIdsByEmail.lookup (normalizeEmail email)).bind
        (fun userId => state.store.usersById.lookup userId)).map (·.passwordHash) =
      (lastPassword email history).map (passwordHash primitives) := by
  induction h with
  | start => rfl
  | @next history e choice earlier call ih =>
    rw [lastPassword_append_one]
    obtain ⟨task, origin, action, reply, before, after, spawned⟩ := e
    by_cases hupsert : ∃ spelling password role, action = .upsertUser spelling password role
    · obtain ⟨spelling, password, role, rfl⟩ := hupsert
      dsimp only at earlier call ih ⊢
      cases choice <;> simp only [performAuth, reduceCtorEq] at call
      rcases before.store.upsertUser_cases primitives spelling password role with
        ⟨error, heq⟩ | ⟨known, stored, hid, hstored, heq⟩ | ⟨hnone, heq⟩
      · rw [AuthState.onStore, heq] at call
        cases call
        exact ih
      · rw [AuthState.onStore, heq] at call
        cases call
        dsimp only [passwordGiven, Event.interaction]
        by_cases hsame : normalizeEmail spelling = normalizeEmail email
        · rw [if_pos hsame, ← hsame, hid, Option.bind_some, Table.lookup_insert, if_pos rfl]
          rfl
        · rw [if_neg hsame, Option.none_or, ← ih]
          cases hother : before.store.userIdsByEmail.lookup (normalizeEmail email) with
          | none => rfl
          | some userId =>
            -- another email leads to another account
            have hne : userId ≠ known := by
              rintro rfl
              obtain ⟨found, hfound, hemail⟩ := (earlier.consistent.indexed _ _).mp hother
              obtain ⟨found', hfound', hemail'⟩ := (earlier.consistent.indexed _ _).mp hid
              rw [hfound] at hfound'
              cases hfound'
              exact hsame (hemail'.symm.trans hemail)
            rw [Option.bind_some, Option.bind_some, Table.lookup_insert, if_neg hne]
      · rw [AuthState.onStore, heq] at call
        cases call
        dsimp only [passwordGiven, Event.interaction]
        by_cases hsame : normalizeEmail spelling = normalizeEmail email
        · rw [if_pos hsame, ← hsame, Table.lookup_insert, if_pos rfl, Option.bind_some,
            Table.lookup_insert, if_pos rfl]
          rfl
        · rw [if_neg hsame, Option.none_or, ← ih, Table.lookup_insert, if_neg (Ne.symm hsame)]
          cases hother : before.store.userIdsByEmail.lookup (normalizeEmail email) with
          | none => rfl
          | some userId =>
            obtain ⟨found, hfound, -⟩ := (earlier.consistent.indexed _ _).mp hother
            have hne : userId ≠ before.store.nextUserId :=
              Nat.ne_of_lt (earlier.accounts.1.numbered userId found hfound).2
            rw [Option.bind_some, Option.bind_some, Table.lookup_insert, if_neg hne]
    · have hplain : ∀ spelling password role, action ≠ .upsertUser spelling password role :=
        fun spelling password role heq => hupsert ⟨spelling, password, role, heq⟩
      have same := (performAuth_frame call).accounts hplain
      simp only [AuthStore.accounts, Prod.mk.injEq] at same
      obtain ⟨husers, hemails, -⟩ := same
      have hnone : passwordGiven email ⟨task, origin, action, reply, before, after, spawned⟩ =
          none := by
        unfold passwordGiven
        split
        · rename_i spelling password role user heq
          cases heq
          exact absurd rfl (hplain spelling password role)
        · rfl
      rw [hnone, Option.none_or, ← ih]
      dsimp only
      rw [husers, hemails]

end Runs

/-- An account is made, renewed under another spelling, and both passwords are tried. -/
private def renewedAccount : List AuthEvent :=
  authCalls identityDigest .default
    [.arrive (.upsertUser " Ops@X" "old" .operator), .move 0 .none,
      .arrive (.upsertUser "ops@x " "new" .viewer), .move 1 .none,
      .arrive (.login ⟨"OPS@x", "old"⟩), .move 2 (.clock 1), .move 2 (.clock 1),
      .move 2 (.token "t"), .arrive (.login ⟨"OPS@x", "new"⟩), .move 3 (.clock 2),
      .move 3 (.clock 2), .move 3 (.token "t")]

end Sunbolt.Control
