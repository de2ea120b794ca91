/- Module: Sunbolt/Control/SessionValidity
   scope: sunbolt-auth/src/lib.rs, sunbolt-control/src/auth.rs
   digest: Whom a session token stands for, and when it opens a terminal, over whole runs. -/

import Sunbolt.Control.AuthAccounts
import Sunbolt.Library.Alone

set_option autoImplicit false
set_option relaxedAutoImplicit false

namespace Sunbolt.Control

open Sunbolt.Library
open Sunbolt.Auth (AuthConfig AuthError AuthStore Primitives SessionRecord User canOpenTerminal)

/-! What the calls of a run say about a token. -/

/-- A login of the account has issued the token at `start`, and it has not been logged out
    since. -/
def LoggedIn (history : List AuthEvent) (token : String) (userId start : Nat) : Prop :=
  ∃ front e since email password user, history = front ++ e :: since ∧
    e.interaction = ⟨.login email password start, .ok (user, token)⟩ ∧ user.id = userId ∧
    ∀ d ∈ since, d.action ≠ .logout token

/-- The last upsert of the account has made it `user`, with the role that it has given. -/
def LastUpsert (history : List AuthEvent) (user : User) : Prop :=
  ∃ front e since email password, history = front ++ e :: since ∧
    e.interaction = ⟨.upsertUser email password user.role, .ok user⟩ ∧
    ∀ d ∈ since, ∀ other, upserted d.interaction = some other → other.id ≠ user.id

/-- A success of MFA has been recorded on the session of the token at `time`. -/
def MfaAt (history : List AuthEvent) (token : String) (time : Nat) : Prop :=
  ∃ e ∈ history, e.interaction = ⟨.recordMfaSuccess token, .ok ()⟩ ∧ e.after.clock = time

/-- At `now` the token is one of a live session of `user`. -/
def ValidAt (config : AuthConfig) (history : List AuthEvent) (token : String) (now : Nat)
    (user : User) : Prop :=
  ∃ start, LoggedIn history token user.id start ∧ now < start + config.sessionTtl ∧
    LastUpsert history user

def issuedSessions (history : List AuthEvent) : List String :=
  history.filterMap (fun e => (issued e.interaction).map Prod.snd)

/-- No token is drawn twice. -/
def FreshSessions (history : List AuthEvent) : Prop := (issuedSessions history).Nodup

/-! Sessions that nothing but a logout ends. -/

/-- What a call does to the session of the token. -/
def sessionNext (config : AuthConfig) (token : String) (session : Option SessionRecord)
    (e : AuthEvent) : Option SessionRecord :=
  match e.interaction with
  | ⟨.login _ _ start, .ok (user, fresh)⟩ =>
    if token = fresh then some ⟨user.id, start + config.sessionTtl, none⟩ else session
  | ⟨.logout closed, _⟩ => if token = closed then none else session
  | ⟨.recordMfaSuccess named, .ok ()⟩ =>
    if token = named then session.map (fun s => { s with recentMfaAt := some e.after.clock })
    else session
  | _ => session

def sessionOf (config : AuthConfig) (token : String) (history : List AuthEvent) :
    Option SessionRecord :=
  history.foldl (sessionNext config token) none

@[simp] theorem sessionOf_append_one (config : AuthConfig) (token : String)
    (history : List AuthEvent) (e : AuthEvent) :
    sessionOf config token (history ++ [e]) =
      sessionNext config token (sessionOf config token history) e :=
  List.foldl_append ..

/-- Both say the same about the session as long as it has not expired. -/
def AgreeFrom (now : Nat) (kept session : Option SessionRecord) : Prop :=
  ∀ later, now ≤ later → kept.filter (fun s => later < s.expiresAt) =
    session.filter (fun s => later < s.expiresAt)

theorem AgreeFrom.mono {now later : Nat} {kept session : Option SessionRecord}
    (h : AgreeFrom now kept session) (hle : now ≤ later) : AgreeFrom later kept session :=
  fun last hlast => h last (hle.trans hlast)

theorem AgreeFrom.purge {now : Nat} {store : AuthStore} {token : String}
    {session : Option SessionRecord}
    (h : AgreeFrom now (store.sessionsByToken.lookup token) session) :
    AgreeFrom now ((store.purgeExpiredSessionsLocked now).sessionsByToken.lookup token)
      session := by
  intro later hle
  rw [AuthStore.lookup_purge, Option.filter_filter, ← h later hle]
  have hlive : ∀ s : SessionRecord, (decide (now < s.expiresAt) && decide (later < s.expiresAt)) =
      decide (later < s.expiresAt) := by
    intro s
    rw [← Bool.decide_and, decide_eq_decide]
    omega
  simp only [hlive]

theorem AgreeFrom.live {now : Nat} {kept session : Option SessionRecord} {found : SessionRecord}
    (h : AgreeFrom now kept session) (hfound : kept = some found) (live : now < found.expiresAt) :
    session = some found := by
  have heq := h now le_rfl
  rw [hfound, Option.filter_some_pos (by simpa using live)] at heq
  exact (Option.filter_eq_some_iff.mp heq.symm).1

section Calls

variable {primitives : Primitives} {config : AuthConfig}

/-- A call of the store does to the session what `sessionNext` says. -/
theorem agree_step {e : AuthEvent} {choice : AuthChoice} {token : String}
    {session : Option SessionRecord}
    (h : AgreeFrom e.before.clock (e.before.store.sessionsByToken.lookup token) session)
    (call : performAuth primitives config e.before e.action choice = some (e.reply, e.after)) :
    AgreeFrom e.after.clock (e.after.store.sessionsByToken.lookup token)
      (sessionNext config token session e) := by
  obtain ⟨task, origin, action, reply, before, after, spawned⟩ := e
  dsimp only at h call ⊢
  cases action with
  | login email password start =>
    cases choice <;> simp only [performAuth, reduceCtorEq] at call
    rename_i fresh
    rcases before.store.login_cases primitives config email password start fresh with
      ⟨error, heq, -⟩ | ⟨-, stored, -, -, -, heq⟩
    · rw [AuthState.onStore, heq] at call
      cases call
      exact h
    · rw [AuthState.onStore, heq] at call
      cases call
      change AgreeFrom before.clock _ (if token = fresh then _ else session)
      rw [Table.lookup_insert]
      split_ifs
      · exact fun _ _ => rfl
      · exact h
  | logout closed =>
    cases choice <;> cases call
    change AgreeFrom before.clock _ (if token = closed then none else session)
    rw [AuthStore.logout, Table.lookup_erase]
    split_ifs
    · exact fun _ _ => rfl
    · exact h
  | recordMfaSuccess named =>
    cases choice <;> simp only [performAuth, reduceCtorEq] at call
    rename_i now
    obtain ⟨hle, hout⟩ := atInstant_eq call
    have hnow := h.mono hle
    rcases before.store.recordMfaSuccess_cases named now with
      ⟨heq, -⟩ | ⟨found, hfound, live, heq⟩
    · rw [AuthState.onStore, heq] at hout
      cases hout
      exact hnow.purge
    · rw [AuthState.onStore, heq] at hout
      cases hout
      change AgreeFrom now _ (if token = named then
        session.map (fun s => { s with recentMfaAt := some now }) else session)
      rw [Table.lookup_insert]
      split_ifs with hsame
      · subst hsame
        rw [hnow.live hfound live]
        exact fun _ _ => rfl
      · exact hnow.purge
  | currentUser named =>
    cases choice <;> simp only [performAuth, reduceCtorEq] at call
    obtain ⟨hle, hout⟩ := atInstant_eq call
    cases hout
    exact (h.mono hle).purge
  | hasRecentMfa named =>
    cases choice <;> simp only [performAuth, reduceCtorEq] at call
    obtain ⟨hle, hout⟩ := atInstant_eq call
    cases hout
    exact (h.mono hle).purge
  | instant | checkLogin key | checkMfa key =>
    cases choice <;> simp only [performAuth, reduceCtorEq] at call
    obtain ⟨hle, hout⟩ := atInstant_eq call
    cases hout
    exact h.mono hle
  | upsertUser email password role =>
    cases choice <;> cases call
    change AgreeFrom before.clock _ session
    rw [AuthStore.sessions_upsertUser]
    exact h
  | enrollFactor userId factorType label =>
    cases choice <;> cases call
    change AgreeFrom before.clock _ session
    rw [AuthStore.sessions_enrollFactor]
    exact h
  | useRecoveryCode factorId hash =>
    cases choice <;> cases call
    change AgreeFrom before.clock _ session
    rw [AuthStore.sessions_useRecoveryCode]
    exact h
  | _ =>
    cases choice <;> cases call
    exact h

end Calls

section Runs

variable {primitives : Primitives} {config : AuthConfig} {history : List AuthEvent}
  {state : AuthState} {token : String} {session : SessionRecord} {user : User}

/-- In every run the store holds the sessions that have not expired. -/
theorem AuthRun.agree (h : AuthRun primitives config history state) (token : String) :
    AgreeFrom state.clock (state.store.sessionsByToken.lookup token)
      (sessionOf config token history) := by
  induction h with
  | start => exact fun _ _ => rfl
  | next earlier call ih =>
    rw [sessionOf_append_one]
    exact agree_step ih call

end Runs

/-! What the sessions say about the calls. -/

section Sessions

variable {config : AuthConfig} {history : List AuthEvent} {e : AuthEvent} {token : String}
  {session : SessionRecord} {earlier : Option SessionRecord}

theorem LoggedIn.snoc {userId start : Nat} (h : LoggedIn history token userId start)
    (keeps : e.action ≠ .logout token) : LoggedIn (history ++ [e]) token userId start := by
  obtain ⟨front, login, since, email, password, user, rfl, hlogin, huser, hsince⟩ := h
  refine ⟨front, login, since ++ [e], email, password, user, by simp, hlogin, huser, ?_⟩
  intro d hd
  rcases List.mem_append.mp hd with hd | hd
  · exact hsince d hd
  · rw [List.mem_singleton.mp hd]
    exact keeps

theorem MfaAt.append {time : Nat} (h : MfaAt history token time) (since : List AuthEvent) :
    MfaAt (history ++ since) token time := by
  obtain ⟨e, he, hcall, htime⟩ := h
  exact ⟨e, List.mem_append_left _ he, hcall, htime⟩

/-- Where a session comes from: a login, a success recorded on an earlier one, or before. -/
inductive SessionFrom (config : AuthConfig) (token : String) (earlier : Option SessionRecord)
    (e : AuthEvent) (session : SessionRecord) : Prop
  | opened (email password : String) (start : Nat) (user : User)
    (hcall : e.interaction = ⟨.login email password start, .ok (user, token)⟩)
    (hsession : session = ⟨user.id, start + config.sessionTtl, none⟩)
  | recorded (before : SessionRecord) (found : earlier = some before)
    (hcall : e.interaction = ⟨.recordMfaSuccess token, .ok ()⟩)
    (hsession : session = { before with recentMfaAt := some e.after.clock })
  | kept (found : earlier = some session) (stays : e.action ≠ .logout token)
    (unrecorded : e.interaction ≠ ⟨.recordMfaSuccess token, .ok ()⟩)

theorem sessionFrom (h : sessionNext config token earlier e = some session) :
    SessionFrom config token earlier e session := by
  unfold sessionNext at h
  split at h
  · rename_i email password start user fresh hcall
    split_ifs at h with hsame
    · subst hsame
      cases h
      exact .opened email password start user hcall rfl
    · refine .kept h ?_ ?_
      · rw [show e.action = _ from congrArg Interaction.action hcall]
        exact nofun
      · rw [hcall]
        exact nofun
  · rename_i closed reply hcall
    split_ifs at h with hsame
    refine .kept h ?_ ?_
    · rw [show e.action = _ from congrArg Interaction.action hcall]
      intro heq
      cases heq
      exact hsame rfl
    · rw [hcall]
      exact nofun
  · rename_i named hcall
    split_ifs at h with hsame
    · subst hsame
      obtain ⟨before, found, rfl⟩ := Option.map_eq_some_iff.mp h
      exact .recorded before found hcall rfl
    · refine .kept h ?_ ?_
      · rw [show e.action = _ from congrArg Interaction.action hcall]
        exact nofun
      · rw [hcall]
        intro heq
        cases heq
        exact hsame rfl
  · rename_i hlogin hlogout hrecord
    refine .kept h ?_ (fun heq => hrecord token heq)
    obtain ⟨task, origin, action, reply, before, after, spawned⟩ := e
    intro heq
    cases heq
    exact hlogout token reply rfl

/-- A call that neither logs the token out nor issues it again leaves the session there. -/
theorem sessionNext_keeps (config : AuthConfig) (session : SessionRecord)
    (stays : e.action ≠ .logout token)
    (other : ∀ user, issued e.interaction ≠ some (user, token)) :
    ∃ after, sessionNext config token (some session) e = some after ∧
      after.userId = session.userId ∧ after.expiresAt = session.expiresAt := by
  unfold sessionNext
  split
  · rename_i email password start user fresh hcall
    rw [if_neg]
    · exact ⟨session, rfl, rfl, rfl⟩
    · rintro rfl
      exact other user (by rw [hcall]; rfl)
  · rename_i closed reply hcall
    rw [if_neg]
    · exact ⟨session, rfl, rfl, rfl⟩
    · rintro rfl
      exact stays (congrArg Interaction.action hcall)
  · split_ifs
    · exact ⟨_, rfl, rfl, rfl⟩
    · exact ⟨session, rfl, rfl, rfl⟩
  · exact ⟨session, rfl, rfl, rfl⟩

/-- A session has been opened by a login that has not been logged out since. -/
theorem loggedIn_of_sessionOf (h : sessionOf config token history = some session) :
    ∃ start, LoggedIn history token session.userId start ∧
      session.expiresAt = start + config.sessionTtl ∧
      ∀ time, session.recentMfaAt = some time → MfaAt history token time := by
  induction history using List.reverseRecOn generalizing session with
  | nil => cases h
  | append_singleton history e ih =>
    rw [sessionOf_append_one] at h
    cases sessionFrom h with
    | opened email password start user hcall hsession =>
      subst hsession
      have hlogin : LoggedIn (history ++ [e]) token user.id start :=
        ⟨history, e, [], email, password, user, rfl, hcall, rfl,
          fun d hd => absurd hd List.not_mem_nil⟩
      refine ⟨start, hlogin, rfl, ?_⟩
      intro time htime
      cases htime
    | recorded before found hcall hsession =>
      obtain ⟨start, hlogin, hexpires, -⟩ := ih found
      subst hsession
      have stays : e.action ≠ .logout token := by
        rw [show e.action = _ from congrArg Interaction.action hcall]
        exact nofun
      refine ⟨start, hlogin.snoc stays, hexpires, ?_⟩
      intro time htime
      cases htime
      exact ⟨e, by simp, hcall, rfl⟩
    | kept found stays _ =>
      obtain ⟨start, hlogin, hexpires, hmfa⟩ := ih found
      exact ⟨start, hlogin.snoc stays, hexpires, fun time htime => (hmfa time htime).append [e]⟩

theorem mem_issuedSessions {user : User} (he : e ∈ history)
    (h : issued e.interaction = some (user, token)) : token ∈ issuedSessions history :=
  List.mem_filterMap.mpr ⟨e, he, by rw [h]; rfl⟩

theorem FreshSessions.front {since : List AuthEvent} (h : FreshSessions (history ++ since)) :
    FreshSessions history := by
  rw [FreshSessions, issuedSessions, List.filterMap_append] at h
  exact (List.nodup_append.mp h).1

/-- A fresh token has its session from its login on until it is logged out. -/
theorem sessionOf_of_loggedIn (config : AuthConfig) {userId start : Nat}
    (fresh : FreshSessions history)
    (h : LoggedIn history token userId start) :
    ∃ session, sessionOf config token history = some session ∧ session.userId = userId ∧
      session.expiresAt = start + config.sessionTtl := by
  obtain ⟨front, login, since, email, password, user, rfl, hlogin, huser, hsince⟩ := h
  have hissued : issued login.interaction = some (user, token) := by rw [hlogin]; rfl
  have hothers : ∀ d ∈ since, ∀ other, issued d.interaction ≠ some (other, token) := by
    intro d hd other hd'
    rw [FreshSessions, ← List.singleton_append, issuedSessions, List.filterMap_append,
      List.filterMap_append] at fresh
    have hdisjoint := (List.nodup_append.mp (List.nodup_append.mp fresh).2.1).2.2
    exact hdisjoint token (mem_issuedSessions List.mem_cons_self hissued) token
      (mem_issuedSessions hd hd') rfl
  have hopened : sessionOf config token (front ++ [login]) =
      some ⟨user.id, start + config.sessionTtl, none⟩ := by
    rw [sessionOf_append_one, sessionNext, hlogin]
    exact if_pos rfl
  clear fresh
  rw [← List.singleton_append, ← List.append_assoc]
  induction since using List.reverseRecOn with
  | nil =>
    rw [List.append_nil]
    exact ⟨_, hopened, huser, rfl⟩
  | append_singleton since e ih =>
    obtain ⟨session, hsession, hid, hexpires⟩ :=
      ih (fun d hd => hsince d (List.mem_append_left _ hd))
        (fun d hd => hothers d (List.mem_append_left _ hd))
    obtain ⟨after, hafter, hid', hexpires'⟩ :=
      sessionNext_keeps config session (hsince e (by simp)) (hothers e (by simp))
    rw [← List.append_assoc, sessionOf_append_one, hsession]
    exact ⟨after, hafter, hid'.trans hid, hexpires'.trans hexpires⟩

end Sessions

section Answers

variable {primitives : Primitives} {config : AuthConfig} {history : List AuthEvent}
  {state : AuthState} {token : String} {session : SessionRecord} {user : User}

/-- A success is recorded only on a token that has been issued. -/
theorem AuthRun.issued_of_mfa (h : AuthRun primitives config history state) {time : Nat}
    (hmfa : MfaAt history token time) : token ∈ issuedSessions history := by
  obtain ⟨e, he, hcall, -⟩ := hmfa
  obtain ⟨front, back, rfl⟩ := List.append_of_mem he
  obtain ⟨hfront, choice, hout⟩ := h.event rfl
  have hagree := hfront.agree token
  obtain ⟨task, origin, action, reply, before, after, spawned⟩ := e
  dsimp only at hout hagree
  cases hcall
  cases choice <;> simp only [performAuth, reduceCtorEq] at hout
  obtain ⟨hle, hleft⟩ := atInstant_eq hout
  rcases before.store.recordMfaSuccess_cases token _ with
    ⟨heq, -⟩ | ⟨found, hfound, live, heq⟩
  · rw [AuthState.onStore, heq] at hleft
    cases hleft
  · have hsession := (hagree.mono hle).live hfound live
    obtain ⟨start, hlogin, -⟩ := loggedIn_of_sessionOf hsession
    obtain ⟨earlier, login, since, email, password, user, rfl, hlogin, -⟩ := hlogin
    have hissued : issued login.interaction = some (user, token) := by rw [hlogin]; rfl
    exact mem_issuedSessions (by simp) hissued

/-- A session remembers the last success that has been recorded for its token. -/
theorem AuthRun.recent_of_mfa (h : AuthRun primitives config history state)
    (fresh : FreshSessions history) {time : Nat} (hmfa : MfaAt history token time)
    (hsession : sessionOf config token history = some session) :
    ∃ last, session.recentMfaAt = some last ∧ time ≤ last := by
  induction h generalizing session with
  | start => cases hsession
  | @next history e choice earlier call ih =>
    rw [sessionOf_append_one] at hsession
    obtain ⟨d, hd, hcall, htime⟩ := hmfa
    cases sessionFrom hsession with
    | opened email password start user hlogin hnew =>
      -- the token has been issued only now, and yet a success has been recorded for it
      have hissued : issued e.interaction = some (user, token) := by rw [hlogin]; rfl
      rcases List.mem_append.mp hd with hd | hd
      · have hbefore := earlier.issued_of_mfa ⟨d, hd, hcall, rfl⟩
        rw [FreshSessions, issuedSessions, List.filterMap_append] at fresh
        exact absurd rfl ((List.nodup_append.mp fresh).2.2 token hbefore token
          (mem_issuedSessions List.mem_cons_self hissued))
      · rw [List.mem_singleton.mp hd, hlogin] at hcall
        cases hcall
    | recorded before found _ hnew =>
      refine ⟨e.after.clock, by rw [hnew], ?_⟩
      rw [← htime]
      exact (earlier.next call).clock_le d hd
    | kept found _ unrecorded =>
      rcases List.mem_append.mp hd with hd | hd
      · exact ih fresh.front ⟨d, hd, hcall, htime⟩ found
      · rw [List.mem_singleton.mp hd] at hcall
        exact absurd hcall unrecorded

/-- What an account has been made by its last upsert is what that has returned. -/
theorem AuthRun.lastUpsert_iff (h : AuthRun primitives config history state) {userId : Nat} :
    lastUpserted userId history = some user ↔ user.id = userId ∧ LastUpsert history user := by
  constructor
  · intro hlast
    induction h with
    | start => cases hlast
    | @next history e choice earlier call ih =>
      rw [lastUpserted_append_one, upsertedNext] at hlast
      split at hlast
      · rename_i made hmade
        split_ifs at hlast with hsame
        · cases hlast
          refine ⟨hsame, history, e, [], ?_⟩
          unfold upserted at hmade
          split at hmade
          · rename_i email password role made' hcall
            cases hmade
            obtain ⟨task, origin, action, reply, before, after, spawned⟩ := e
            dsimp only at call
            cases hcall
            cases choice <;> simp only [performAuth, reduceCtorEq] at call
            have hrole : user.role = role := by
              rcases before.store.upsertUser_cases primitives email password role with
                ⟨error, heq⟩ | ⟨known, stored, -, -, heq⟩ | ⟨-, heq⟩
              · rw [AuthState.onStore, heq] at call
                cases call
              · rw [AuthState.onStore, heq] at call
                cases call
                rfl
              · rw [AuthState.onStore, heq] at call
                cases call
                rfl
            subst hrole
            exact ⟨email, password, rfl, rfl, fun d hd => absurd hd List.not_mem_nil⟩
          · cases hmade
        · obtain ⟨hid, front, d, since, email, password, rfl, hcall, hsince⟩ := ih hlast
          refine ⟨hid, front, d, since ++ [e], email, password, by simp, hcall, ?_⟩
          intro last hmem other hother
          rcases List.mem_append.mp hmem with hmem | hmem
          · exact hsince last hmem other hother
          · rw [List.mem_singleton.mp hmem, hmade] at hother
            cases hother
            rw [hid]
            exact hsame
      · rename_i hnone
        obtain ⟨hid, front, d, since, email, password, rfl, hcall, hsince⟩ := ih hlast
        refine ⟨hid, front, d, since ++ [e], email, password, by simp, hcall, ?_⟩
        intro last hmem other hother
        rcases List.mem_append.mp hmem with hmem | hmem
        · exact hsince last hmem other hother
        · rw [List.mem_singleton.mp hmem, hnone] at hother
          cases hother
  · rintro ⟨rfl, front, e, since, email, password, rfl, hcall, hsince⟩
    clear h
    induction since using List.reverseRecOn with
    | nil =>
      rw [lastUpserted_append_one, upsertedNext, hcall]
      exact if_pos rfl
    | append_singleton since last ih =>
      rw [← List.cons_append, ← List.append_assoc, lastUpserted_append_one,
        ih (fun d hd => hsince d (List.mem_append_left _ hd)), upsertedNext]
      split
      · rename_i other hother
        exact if_neg (hsince last (by simp) other hother)
      · rfl

end Answers

/-! The authorization of a terminal. -/

section Authorization

variable {primitives : Primitives} {config : AuthConfig} {history : List AuthEvent}
  {state middle last : AuthState} {task : Nat} {token : String} {headers : Cookies} {user : User}

/-- The request is authorized for the user, with the clock at `now` throughout. -/
def AuthorizesAt (primitives : Primitives) (config : AuthConfig) (state : AuthState)
    (headers : Cookies) (now : Nat) (user : User) : Prop :=
  ∃ task last, (authService primitives config).Alone task
    (authorizeTerminalRequest config headers) { state with clock := now } last (.ok user) ∧
    last.clock = now

theorem alone_clock {α : Type} {p : AuthProgram α} {result : α}
    (h : (authService primitives config).Alone task p state last result) :
    state.clock ≤ last.clock := by
  induction p generalizing state with
  | done value =>
    obtain ⟨rfl, -⟩ := h
    exact le_rfl
  | call action resume ih =>
    obtain ⟨choice, out, hout, hrest⟩ := h
    exact (performAuth_frame (authService_perform hout)).clock.trans (ih out.reply hrest)

/-- Reading who is logged in while the clock stands still. -/
theorem alone_currentUser {found : Option User} :
    ((authService primitives config).Alone task (auth (.currentUser token)) state middle found ∧
      middle.clock = state.clock) ↔
    (found, middle) = state.onStore (state.store.currentUser token state.clock) := by
  constructor
  · rintro ⟨⟨choice, out, hout, rfl, rfl⟩, hclock⟩
    have hcall := authService_perform hout
    cases choice <;> simp only [performAuth, reduceCtorEq] at hcall
    obtain ⟨-, hleft⟩ := atInstant_eq hcall
    have hnow := congrArg (fun pair => pair.2.clock) hleft
    obtain rfl := hnow.symm.trans hclock
    exact hleft
  · intro heq
    obtain ⟨rfl, rfl⟩ := Prod.mk.inj heq
    have hcall : performAuth primitives config state (.currentUser token) (.clock state.clock) =
        some (state.onStore (state.store.currentUser token state.clock)) := if_pos le_rfl
    refine ⟨⟨.clock state.clock, ⟨_, _, []⟩, ?_, rfl, rfl⟩, rfl⟩
    change Option.map _ (performAuth primitives config state _ _) = _
    rw [hcall]
    rfl

theorem alone_hasRecentMfa {recent : Bool} :
    ((authService primitives config).Alone task (auth (.hasRecentMfa token)) state middle recent ∧
      middle.clock = state.clock) ↔
    (recent, middle) = state.onStore (state.store.hasRecentMfa config token state.clock) := by
  constructor
  · rintro ⟨⟨choice, out, hout, rfl, rfl⟩, hclock⟩
    have hcall := authService_perform hout
    cases choice <;> simp only [performAuth, reduceCtorEq] at hcall
    obtain ⟨-, hleft⟩ := atInstant_eq hcall
    have hnow := congrArg (fun pair => pair.2.clock) hleft
    obtain rfl := hnow.symm.trans hclock
    exact hleft
  · intro heq
    obtain ⟨rfl, rfl⟩ := Prod.mk.inj heq
    have hcall : performAuth primitives config state (.hasRecentMfa token) (.clock state.clock) =
        some (state.onStore (state.store.hasRecentMfa config token state.clock)) := if_pos le_rfl
    refine ⟨⟨.clock state.clock, ⟨_, _, []⟩, ?_, rfl, rfl⟩, rfl⟩
    change Option.map _ (performAuth primitives config state _ _) = _
    rw [hcall]
    rfl

/-- A request with a session cookie is authorized exactly if the session is that of a user who
    may open terminals, and has recent MFA where that is required. -/
theorem authorizesAt_iff (hcookie : sessionTokenFromHeaders headers = some token) {now : Nat} :
    AuthorizesAt primitives config state headers now user ↔
      (state.store.currentUser token now).2 = some user ∧ canOpenTerminal user = true ∧
      (config.requireStepUpMfaForTerminal = true →
        ((state.store.purgeExpiredSessionsLocked now).hasRecentMfa config token now).2 = true) := by
  constructor
  · rintro ⟨task, last, h, hclock⟩
    rw [authorizeTerminalRequest, hcookie] at h
    obtain ⟨middle, found, hfound, hrest⟩ := Service.alone_bind.mp h
    have hstill : middle.clock = now :=
      Nat.le_antisymm ((alone_clock hrest).trans hclock.le) (alone_clock hfound)
    obtain ⟨rfl, rfl⟩ := Prod.mk.inj (alone_currentUser.mp ⟨hfound, hstill⟩)
    dsimp only [AuthState.onStore] at hrest ⊢
    cases hcurrent : (state.store.currentUser token now).2 with
    | none =>
      rw [hcurrent] at hrest
      cases hrest.2
    | some other =>
      rw [hcurrent] at hrest
      dsimp only at hrest
      by_cases hopen : canOpenTerminal other = true
      · rw [if_neg (by simp [hopen])] at hrest
        obtain ⟨checked, opened, hopened, hend⟩ := Service.alone_bind.mp hrest
        have hpolicy : opened = true ∧ other = user := by
          cases opened with
          | true =>
            obtain ⟨-, heq⟩ := hend
            cases heq
            exact ⟨rfl, rfl⟩
          | false =>
            by_cases hrequired : config.requireStepUpMfaForTerminal = true
            · simp only [Bool.false_eq_true, if_false, hrequired, if_true] at hend
              cases hend.2
            · simp only [Bool.false_eq_true, if_false, hrequired] at hend
              cases hend.2
        obtain ⟨rfl, rfl⟩ := hpolicy
        refine ⟨rfl, hopen, fun hrequired => ?_⟩
        rw [canOpenTerminalWithSession, if_neg (by simp [hopen]), if_neg (by simp [hrequired])]
          at hopened
        have hstill' : checked.clock = now :=
          Nat.le_antisymm ((alone_clock hend).trans hclock.le) (alone_clock hopened)
        obtain ⟨hrecent, -⟩ := Prod.mk.inj (alone_hasRecentMfa.mp ⟨hopened, hstill'⟩)
        exact hrecent.symm
      · rw [if_pos (by simp [hopen])] at hrest
        cases hrest.2
  · rintro ⟨hcurrent, hopen, hrecent⟩
    let start : AuthState := { state with clock := now }
    let found : AuthState := (start.onStore (start.store.currentUser token now)).2
    have hfound : (authService primitives config).Alone 0 (auth (.currentUser token)) start found
        (some user) := by
      rw [← hcurrent]
      exact (alone_currentUser.mpr rfl).1
    obtain ⟨last, hopened, hclock⟩ : ∃ last, (authService primitives config).Alone 0
        (canOpenTerminalWithSession config user token) found last true ∧ last.clock = now := by
      rw [canOpenTerminalWithSession, if_neg (by simp [hopen])]
      by_cases hrequired : config.requireStepUpMfaForTerminal = true
      · rw [if_neg (by simp [hrequired]), ← hrecent hrequired]
        exact ⟨_, alone_hasRecentMfa.mpr rfl⟩
      · rw [if_pos (by simpa using hrequired)]
        exact ⟨found, ⟨rfl, rfl⟩, rfl⟩
    refine ⟨0, last, ?_, hclock⟩
    rw [authorizeTerminalRequest, hcookie]
    refine Service.alone_bind.mpr ⟨found, some user, hfound, ?_⟩
    dsimp only
    rw [if_neg (by simp [hopen])]
    exact Service.alone_bind.mpr ⟨last, true, hopened, rfl, rfl⟩

end Authorization

section Validity

variable {primitives : Primitives} {config : AuthConfig} {history : List AuthEvent}
  {state : AuthState} {token : String} {user : User} {now : Nat}

/-- Who is logged in under a token. -/
theorem AuthRun.currentUser_iff (h : AuthRun primitives config history state)
    (fresh : FreshSessions history) (hnow : state.clock ≤ now) :
    (state.store.currentUser token now).2 = some user ↔ ValidAt config history token now user := by
  have hfound : (state.store.currentUser token now).2 =
      ((sessionOf config token history).filter (fun s => now < s.expiresAt)).bind
        (fun session => lastUpserted session.userId history) := by
    rw [AuthStore.currentUser, AuthStore.lookup_purge, h.agree token now hnow]
    simp only [AuthStore.purgeExpiredSessionsLocked, h.accounts.2]
  rw [hfound, Option.bind_eq_some_iff]
  constructor
  · rintro ⟨session, hsession, hlast⟩
    obtain ⟨hsession, live⟩ := Option.filter_eq_some_iff.mp hsession
    obtain ⟨start, hlogin, hexpires, -⟩ := loggedIn_of_sessionOf hsession
    obtain ⟨hid, hupsert⟩ := h.lastUpsert_iff.mp hlast
    have live : now < session.expiresAt := of_decide_eq_true live
    exact ⟨start, hid ▸ hlogin, hexpires ▸ live, hupsert⟩
  · rintro ⟨start, hlogin, live, hupsert⟩
    obtain ⟨session, hsession, hid, hexpires⟩ := sessionOf_of_loggedIn config fresh hlogin
    refine ⟨session, Option.filter_eq_some_iff.mpr ⟨hsession, ?_⟩, ?_⟩
    · rw [hexpires]
      exact decide_eq_true live
    · exact h.lastUpsert_iff.mpr ⟨hid.symm, hupsert⟩

/-- Where the session of a token is live, it has recent MFA if and only if a success has been
    recorded for the token that is recent enough. -/
theorem AuthRun.recentMfa_iff (h : AuthRun primitives config history state)
    (fresh : FreshSessions history) (hnow : state.clock ≤ now)
    (hvalid : ValidAt config history token now user) :
    ((state.store.purgeExpiredSessionsLocked now).hasRecentMfa config token now).2 = true ↔
      ∃ time, MfaAt history token time ∧ now ≤ time + config.recentMfaTtl := by
  obtain ⟨start, hlogin, live, -⟩ := hvalid
  obtain ⟨session, hsession, -, hexpires⟩ := sessionOf_of_loggedIn config fresh hlogin
  have hlive : (some session).filter (fun s => now < s.expiresAt) = some session := by
    refine Option.filter_some_pos (decide_eq_true ?_)
    rw [hexpires]
    exact live
  have hfound : (((state.store.purgeExpiredSessionsLocked now).purgeExpiredSessionsLocked
      now).sessionsByToken.lookup token) = some session := by
    rw [AuthStore.lookup_purge, AuthStore.lookup_purge, h.agree token now hnow, hsession, hlive,
      hlive]
  have hrecent : ((state.store.purgeExpiredSessionsLocked now).hasRecentMfa config token now).2 =
      session.recentMfaAt.any (fun time => now - time ≤ config.recentMfaTtl) := by
    rw [AuthStore.hasRecentMfa, hfound]
    rfl
  rw [hrecent, Option.any_eq_true]
  constructor
  · rintro ⟨time, htime, hle⟩
    obtain ⟨-, -, -, hmfa⟩ := loggedIn_of_sessionOf hsession
    have hle : now - time ≤ config.recentMfaTtl := of_decide_eq_true hle
    exact ⟨time, hmfa time htime, by omega⟩
  · rintro ⟨time, hmfa, hle⟩
    obtain ⟨last, hlast, horder⟩ := h.recent_of_mfa fresh hmfa hsession
    exact ⟨last, hlast, decide_eq_true (by omega)⟩

end Validity

section Samples

/-- An operator logs in and steps up. -/
private def operatorStepsUp : List AuthEvent :=
  authCalls identityDigest .default
    [.arrive (.upsertUser "ops@x" "pw" .operator), .move 0 .none,
      .arrive (.login ⟨"ops@x", "pw"⟩), .move 1 (.clock 1), .move 1 (.clock 1),
      .move 1 (.token "t"), .arrive (.mfaStepUp (some "sunbolt_session=t") ⟨.totp⟩),
      .move 2 (.clock 2), .move 2 (.clock 2), .move 2 .none, .move 2 (.clock 3)]

private theorem operatorStepsUp_calls : operatorStepsUp.isEmpty = false ∧
    issuedSessions operatorStepsUp = ["t"] ∧ (stateAfter operatorStepsUp).clock = 3 ∧
    ((stateAfter operatorStepsUp).store.currentUser "t" 4).2 = some ⟨1, "ops@x", .operator⟩ ∧
    (((stateAfter operatorStepsUp).store.purgeExpiredSessionsLocked 4).hasRecentMfa .default "t"
      4).2 = true ∧
    sessionTokenFromHeaders (some "sunbolt_session=t") = some "t" := by
  decide +kernel

end Samples

end Sunbolt.Control
