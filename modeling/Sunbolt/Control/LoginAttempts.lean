/- Module: Sunbolt/Control/LoginAttempts
   scope: sunbolt-control/src/routes/auth.rs, sunbolt-control/src/rate_limit.rs
   digest: However an email is spelled, the login limiter bounds the guesses at its password. -/

import Sunbolt.Control.AuthAccounts
import Sunbolt.Control.RateLimits

set_option autoImplicit false
set_option relaxedAutoImplicit false

namespace Sunbolt.Control

open Sunbolt.Library
open Sunbolt.Auth (AuthConfig AuthError Primitives User normalizeEmail)

/-- The instant of a request: the one that its check has read. -/
def RequestedAt (history : List AuthEvent) (task now : Nat) : Prop :=
  ∃ e ∈ history, e.task = task ∧ (∃ key, e.action = .checkLogin key) ∧ e.after.clock = now

/-- The request has reached the comparison with the password of the account. -/
def Compares (history : List AuthEvent) (userId task : Nat) : Prop :=
  ∃ e ∈ history, e.task = task ∧ ∃ email password now stored,
    e.action = .login email password now ∧
    e.before.store.userIdsByEmail.lookup (normalizeEmail email) = some userId ∧
    e.before.store.usersById.lookup userId = some stored

/-- The request has been denied by the limiter. -/
def Denied (history : List AuthEvent) (task : Nat) : Prop :=
  ∃ key, ⟨.checkLogin key, false⟩ ∈ Service.own task history

/-- For each account no more requests than the limiter allows reach the comparison in any window,
    and a denied request leaves the store, with its sessions, as it is. -/
structure GuessesBounded (history : List AuthEvent) : Prop where
  bounded : ∀ userId first (requests : List Nat), requests.Nodup →
    (∀ task ∈ requests, Compares history userId task ∧ ∃ now, RequestedAt history task now ∧
      first ≤ now ∧ now < first + defaultLoginRateWindow) →
    requests.length ≤ defaultLoginRateMax
  denied : ∀ e ∈ history, Denied history e.task → e.after.store = e.before.store

/-- Where the limiter finds attempts in a bucket, one window can be subtracted from the instant. -/
def SubtractsWindow (history : List AuthEvent) : Prop :=
  ∀ e ∈ history, ∀ key, e.action = .checkLogin key →
    defaultLoginRateWindow ≤ e.after.clock ∨ e.before.loginRateLimiter.bucket key = []

/-! The calls of the login limiter. -/

def loginCheck (e : AuthEvent) : Option (Served SlidingWindowRateLimiter Attempt Bool) :=
  match e.interaction with
  | ⟨.checkLogin key, allowed⟩ =>
    some ⟨⟨key, e.after.clock⟩, allowed, e.before.loginRateLimiter, e.after.loginRateLimiter⟩
  | _ => none

def loginChecks (history : List AuthEvent) : AttemptHistory := history.filterMap loginCheck

section Checks

variable {primitives : Primitives} {config : AuthConfig} {history : List AuthEvent}
  {state : AuthState}

theorem loginCheck_of_action {e : AuthEvent} {key : String} (h : e.action = .checkLogin key) :
    ∃ allowed, e.interaction = ⟨.checkLogin key, allowed⟩ ∧ loginCheck e =
      some ⟨⟨key, e.after.clock⟩, allowed, e.before.loginRateLimiter,
        e.after.loginRateLimiter⟩ := by
  obtain ⟨task, origin, action, reply, before, after, spawned⟩ := e
  cases h
  exact ⟨reply, rfl, rfl⟩

theorem action_of_loginCheck {e : AuthEvent} {c : Served SlidingWindowRateLimiter Attempt Bool}
    (h : loginCheck e = some c) : e.interaction = ⟨.checkLogin c.call.key, c.reply⟩ ∧
      c.call.now = e.after.clock ∧ c.before = e.before.loginRateLimiter := by
  unfold loginCheck at h
  split at h
  · rename_i key allowed hcall
    cases h
    exact ⟨hcall, rfl, rfl⟩
  · cases h

/-- The checks are a run of the limiter, at instants that go on. -/
theorem AuthRun.loginChecks (h : AuthRun primitives config history state) :
    Serves SlidingWindowRateLimiter.serve (.new defaultLoginRateWindow defaultLoginRateMax)
        (loginChecks history) state.loginRateLimiter ∧
      ClockGoesOn (loginChecks history) := by
  induction h with
  | start => exact ⟨.start, .nil⟩
  | @next history e choice earlier call ih =>
    obtain ⟨hrun, clock⟩ := ih
    have frame := performAuth_frame call
    rw [Control.loginChecks, List.filterMap_append, List.filterMap_cons, List.filterMap_nil]
    by_cases hcheck : ∃ key, e.action = .checkLogin key
    · obtain ⟨key, haction⟩ := hcheck
      obtain ⟨allowed, hcall, hsome⟩ := loginCheck_of_action haction
      have hbefore : ∀ c ∈ Control.loginChecks history, c.call.now ≤ e.after.clock := by
        intro c hc
        obtain ⟨d, hd, hdc⟩ := List.mem_filterMap.mp hc
        rw [(action_of_loginCheck hdc).2.1]
        exact (earlier.clock_le d hd).trans frame.clock
      rw [hsome]
      refine ⟨?_, ?_⟩
      · have hnext := hrun.next ⟨key, e.after.clock⟩
        obtain ⟨task, origin, action, reply, before, after, spawned⟩ := e
        cases haction
        cases choice <;> simp only [performAuth, reduceCtorEq] at call
        obtain ⟨-, hout⟩ := atInstant_eq call
        cases hcall
        cases hout
        exact hnext
      · rw [ClockGoesOn, List.map_append, List.pairwise_append]
        refine ⟨clock, List.pairwise_singleton _ _, ?_⟩
        intro now hnow last hlast
        obtain ⟨c, hc, rfl⟩ := List.mem_map.mp hnow
        rw [List.mem_singleton.mp hlast]
        exact hbefore c hc
    · have hnone : loginCheck e = none := by
        rw [Option.eq_none_iff_forall_ne_some]
        intro c hc
        have hcall := (action_of_loginCheck hc).1
        exact hcheck ⟨c.call.key, congrArg Interaction.action hcall⟩
      rw [hnone, List.append_nil, frame.loginRateLimiter fun key heq => hcheck ⟨key, heq⟩]
      exact ⟨hrun, clock⟩

/-- Of one key no more checks than the limit succeed in a window. -/
theorem AuthRun.allowed_le (h : AuthRun primitives config history state)
    (subtracts : SubtractsWindow history) (key : String) (first : Nat) :
    (allowedOn key (Control.loginChecks history)).countP
      (fun t => first ≤ t ∧ t < first + defaultLoginRateWindow) ≤ defaultLoginRateMax := by
  obtain ⟨hrun, clock⟩ := h.loginChecks
  refine countP_allowedOn_le hrun clock key ?_ ?_
  · intro c hc hkey
    obtain ⟨e, he, hcheck⟩ := List.mem_filterMap.mp hc
    obtain ⟨hcall, hnow, hbefore⟩ := action_of_loginCheck hcheck
    rw [hnow, hbefore]
    refine subtracts e he key ?_
    rw [← hkey]
    exact congrArg Interaction.action hcall
  · intro t now ht hnow hle
    simp only [decide_eq_true_eq] at ht hnow
    omega

end Checks

/-! The order of the calls of a login. -/

/-- A request is checked first, under the key of its email, and logs in once it is allowed. -/
def loginAct (origin : AuthJob) (past : List (Interaction AuthAction AuthReply))
    (action : AuthAction) : Prop :=
  (∀ key, action = .checkLogin key →
    past = [] ∧ ∃ request, origin = .login request ∧ key = authRateLimitKey request.email) ∧
  (∀ email password now, action = .login email password now →
    ∃ request now, origin = .login request ∧ email = request.email ∧
      past = [⟨.checkLogin (authRateLimitKey request.email), true⟩, ⟨.instant, now⟩]) ∧
  ((∃ key, ⟨.checkLogin key, false⟩ ∈ past) →
    (∃ input, action = .audit input) ∨ ∃ response, action = .respond response)

def loginOrder : Discipline AuthAction AuthReply AuthJob :=
  ⟨loginAct, fun origin job past => job = origin ∧ past = [], fun _ _ => True⟩

section Bodies

variable (primitives : Primitives) (config : AuthConfig)

attribute [local simp] auth respond recordAudit Program.perform

private theorem login_authLogin (request : LoginRequest) :
    (authLogin config request).All (loginAct (.login request)) [] (fun _ _ => True) := by
  rw [authLogin, Program.all_bind]
  refine ⟨by simp [loginAct], fun allowed => ?_⟩
  rw [Program.all_done, Program.all_ite]
  constructor
  · intro hdenied
    simp [loginAct]
  · intro hallowed
    obtain rfl : allowed = true := by simpa using hallowed
    rw [Program.all_bind]
    refine ⟨by simp [loginAct], fun now => ?_⟩
    rw [Program.all_done, Program.all_bind]
    refine ⟨by simp [loginAct], fun result => ?_⟩
    rw [Program.all_done]
    match result with
    | .ok (user, token) =>
      rw [Program.all_bind]
      refine ⟨by simp [loginAct], fun _ => ?_⟩
      cases headerValue (config.sessionCookieHeader token) <;> simp [loginAct]
    | .error error => cases error <;> simp [loginAct]

/-- The calls that are no part of a login. -/
private def NoLogin (action : AuthAction) : Prop :=
  (∀ key, action ≠ .checkLogin key) ∧ ∀ email password now, action ≠ .login email password now

private theorem noLogin_program {job : AuthJob} (h : ∀ request, job ≠ .login request) :
    (job.program primitives config).Each NoLogin (fun _ => True) := by
  have hduty : job.duty ≠ some .login := by
    cases job with
    | login request => exact absurd rfl (h request)
    | _ => simp [AuthJob.duty]
  refine (off_duty hduty).imp (fun action other => ⟨?_, ?_⟩)
  · rintro key rfl
    exact other rfl
  · rintro email password now rfl
    exact other rfl

end Bodies

/-- The handlers keep this order. -/
theorem loginOrder_sound (primitives : Primitives) (config : AuthConfig) :
    loginOrder.Sound (authService primitives config) id where
  entered _ := ⟨rfl, rfl⟩
  spawned hout stage hstage := by
    obtain ⟨out, -, rfl⟩ := Option.map_eq_some_iff.mp hout
    cases hstage
  body {origin job past} head := by
    obtain ⟨rfl, rfl⟩ := head
    change (job.program primitives config >>= fun _ => pure none).All (loginAct job) [] _
    rw [Program.all_bind]
    by_cases hlogin : ∃ request, job = .login request
    · obtain ⟨request, rfl⟩ := hlogin
      exact login_authLogin config request
    · have others : ∀ request, job ≠ .login request := fun request heq => hlogin ⟨request, heq⟩
      refine (noLogin_program primitives config others).all ?_ (fun _ _ _ _ => trivial)
      intro extra action hextra noLogin
      refine ⟨fun key heq => absurd heq (noLogin.1 key),
        fun email password now heq => absurd heq (noLogin.2 email password now), ?_⟩
      rintro ⟨key, hmem⟩
      exact absurd rfl ((hextra _ hmem).1 key)

section Runs

variable {primitives : Primitives} {config : AuthConfig} {history : List AuthEvent}
  {pool : AuthPool}

/-- A task makes one check at most. -/
theorem AuthReaches.check_unique (h : AuthReaches primitives config history pool)
    {d e : AuthEvent} {key other : String} (hd : d ∈ history) (he : e ∈ history)
    (hdcall : d.action = .checkLogin key) (hecall : e.action = .checkLogin other)
    (htask : d.task = e.task) : d = e := by
  have first : ∀ {front back : List AuthEvent} {e : AuthEvent} {key : String},
      history = front ++ e :: back → e.action = .checkLogin key → ∀ d ∈ front,
      d.task ≠ e.task := by
    intro front back e key hsplit hcall d hd hsame
    have hpast := ((Service.Reaches.act (loginOrder_sound primitives config) h hsplit).1
      key hcall).1
    have hmem : d.interaction ∈ Service.own e.task front :=
      Service.mem_own.mpr ⟨d, hd, hsame, rfl⟩
    rw [hpast] at hmem
    cases hmem
  obtain ⟨front, back, hsplit⟩ := List.append_of_mem he
  rw [hsplit] at hd
  rcases List.mem_append.mp hd with hfront | hrest
  · exact absurd htask (first hsplit hecall d hfront)
  rcases List.mem_cons.mp hrest with rfl | hback
  · rfl
  · obtain ⟨between, later, rfl⟩ := List.append_of_mem hback
    have hsplit' : history = (front ++ e :: between) ++ d :: later := by simp [hsplit]
    exact absurd htask.symm (first hsplit' hdcall e (by simp))

/-- A request that reaches the comparison has been allowed under the email of the account. -/
theorem AuthReaches.allowed_of_compares (h : AuthReaches primitives config history pool)
    {userId task : Nat} (hcompares : Compares history userId task) :
    ∃ key, (∃ d ∈ history, d.task = task ∧ d.interaction = ⟨.checkLogin key, true⟩) ∧
      ∃ e ∈ history, e.before.store.userIdsByEmail.lookup key = some userId := by
  obtain ⟨e, he, rfl, email, password, now, stored, hcall, found, -⟩ := hcompares
  obtain ⟨front, back, hsplit⟩ := List.append_of_mem he
  obtain ⟨request, instant, -, hemail, hpast⟩ :=
    (Service.Reaches.act (loginOrder_sound primitives config) h hsplit).2.1 email password now
      hcall
  have hmem : ⟨.checkLogin (authRateLimitKey request.email), true⟩ ∈
      Service.own e.task front := by
    rw [hpast]
    exact List.mem_cons_self
  obtain ⟨d, hd, htask, hdcall⟩ := Service.mem_own.mp hmem
  refine ⟨authRateLimitKey request.email, ⟨d, ?_, htask, hdcall⟩, e, he, ?_⟩
  · rw [hsplit]
    exact List.mem_append_left _ hd
  · -- the limiter and the auth service compute the same text from the email
    have hkey : authRateLimitKey request.email = normalizeEmail request.email := rfl
    rw [hkey, ← hemail]
    exact found

/-- The checks of one key that are allowed at an instant with `p`. -/
private def allowedWhen (key : String) (p : Nat → Bool) (e : AuthEvent) : Bool :=
  (loginCheck e).any (fun c => c.call.key = key && c.reply && p c.call.now)

private theorem countP_allowedWhen (key : String) (p : Nat → Bool) (history : List AuthEvent) :
    history.countP (allowedWhen key p) = (allowedOn key (loginChecks history)).countP p := by
  induction history with
  | nil => rfl
  | cons e history ih =>
    rw [List.countP_cons, ih]
    cases hcheck : loginCheck e with
    | none => simp [loginChecks, allowedWhen, hcheck]
    | some c =>
      by_cases hallowed : (c.call.key = key && c.reply) = true
      · simp [loginChecks, allowedWhen, allowedOn, hcheck, hallowed, List.countP_cons]
      · simp [loginChecks, allowedWhen, allowedOn, hcheck, hallowed]

theorem AuthReaches.compares_le (h : AuthReaches primitives config history pool)
    (subtracts : SubtractsWindow history) {userId first : Nat} {requests : List Nat}
    (nodup : requests.Nodup) (guesses : ∀ task ∈ requests, Compares history userId task ∧
      ∃ now, RequestedAt history task now ∧ first ≤ now ∧ now < first + defaultLoginRateWindow) :
    requests.length ≤ defaultLoginRateMax := by
  rcases List.eq_nil_or_concat requests with rfl | ⟨others, one, hone⟩
  · exact Nat.zero_le _
  have honeMem : one ∈ requests := by simp [hone]
  obtain ⟨key, -, known, hknown, found⟩ := h.allowed_of_compares (guesses one honeMem).1
  let inWindow : Nat → Bool := fun t => first ≤ t ∧ t < first + defaultLoginRateWindow
  have hsubset : requests ⊆ (history.filter (allowedWhen key inWindow)).map (·.task) := by
    intro task htask
    obtain ⟨hcompares, now, ⟨e, he, hetask, ⟨other, hecall⟩, rfl⟩, hwindow⟩ := guesses task htask
    obtain ⟨own, ⟨d, hd, hdtask, hdcall⟩, known', hknown', found'⟩ :=
      h.allowed_of_compares hcompares
    obtain rfl : own = key := h.authRun.email_unique hknown' hknown found' found
    have hsame : d = e := h.check_unique hd he (congrArg Interaction.action hdcall) hecall
      (hdtask.trans hetask.symm)
    subst hsame
    obtain ⟨allowed, hcall, hcheck⟩ :=
      loginCheck_of_action (congrArg Interaction.action hdcall)
    obtain rfl : allowed = true := by
      have heq := hcall.symm.trans hdcall
      cases heq
      rfl
    refine List.mem_map.mpr ⟨d, List.mem_filter.mpr ⟨hd, ?_⟩, hdtask⟩
    rw [allowedWhen, hcheck]
    simpa [inWindow] using hwindow
  calc requests.length
      ≤ ((history.filter (allowedWhen key inWindow)).map (·.task)).length :=
        (List.subperm_of_subset nodup hsubset).length_le
    _ = history.countP (allowedWhen key inWindow) := by
        rw [List.length_map, List.countP_eq_length_filter]
    _ = (allowedOn key (loginChecks history)).countP inWindow := countP_allowedWhen ..
    _ ≤ defaultLoginRateMax := h.authRun.allowed_le subtracts key first

/-- After a denied check a request only records this and responds. -/
theorem AuthReaches.denied_keeps (h : AuthReaches primitives config history pool)
    {e : AuthEvent} (he : e ∈ history) (hdenied : Denied history e.task) :
    e.after.store = e.before.store := by
  obtain ⟨key, hmem⟩ := hdenied
  obtain ⟨d, hd, htask, hdcall⟩ := Service.mem_own.mp hmem
  obtain ⟨front, back, hsplit⟩ := List.append_of_mem he
  obtain ⟨-, choice, hout⟩ := h.performed hsplit
  have hcases : (∃ key, e.action = .checkLogin key) ∨ (∃ input, e.action = .audit input) ∨
      ∃ response, e.action = .respond response := by
    rw [hsplit] at hd
    rcases List.mem_append.mp hd with hfront | hrest
    · have hpast : ⟨.checkLogin key, false⟩ ∈ Service.own e.task front :=
        Service.mem_own.mpr ⟨d, hfront, htask, hdcall⟩
      exact Or.inr ((Service.Reaches.act (loginOrder_sound primitives config) h hsplit).2.2
        ⟨key, hpast⟩)
    rcases List.mem_cons.mp hrest with rfl | hback
    · exact Or.inl ⟨key, congrArg Interaction.action hdcall⟩
    · -- nothing comes before the check
      obtain ⟨between, later, rfl⟩ := List.append_of_mem hback
      have hsplit' : history = (front ++ e :: between) ++ d :: later := by simp [hsplit]
      have hpast := ((Service.Reaches.act (loginOrder_sound primitives config) h hsplit').1 key
        (congrArg Interaction.action hdcall)).1
      have hown : e.interaction ∈ Service.own d.task (front ++ e :: between) :=
        Service.mem_own.mpr ⟨e, by simp, htask.symm, rfl⟩
      rw [hpast] at hown
      cases hown
  obtain ⟨task, origin, action, reply, before, after, spawned⟩ := e
  dsimp only at hcases hout ⊢
  rcases hcases with ⟨key, haction⟩ | ⟨input, haction⟩ | ⟨response, haction⟩
  · cases haction
    cases choice <;> simp only [performAuth, reduceCtorEq] at hout
    obtain ⟨-, hleft⟩ := atInstant_eq hout
    cases hleft
    rfl
  · cases haction
    cases choice <;> cases hout
    rfl
  · cases haction
    cases choice <;> cases hout
    rfl

/-- In every run whose checks find an empty bucket, or come so late that one window can be
    subtracted from their instant, the guesses at each account are bounded. -/
theorem guesses_bounded (h : AuthReaches primitives config history pool)
    (subtracts : SubtractsWindow history) : GuessesBounded history where
  bounded _ _ _ nodup guesses := h.compares_le subtracts nodup guesses
  denied _ he hdenied := h.denied_keeps he hdenied

end Runs

section Samples

/-- A login that takes its three steps at one instant, with a wrong password. -/
private def guess (task now : Nat) (email : String) : List (Label AuthJob AuthChoice) :=
  [.arrive (.login ⟨email, "guess"⟩), .move task (.clock now), .move task (.clock now),
    .move task (.token "")]

private def addAccount : List (Label AuthJob AuthChoice) :=
  [.arrive (.upsertUser "ops@x" "pw" .operator), .move 0 .none]

/-- Guesses with different spellings, one window after the first instant. -/
private def lateGuesses : List AuthEvent :=
  authCalls identityDigest .default (addAccount ++ guess 1 defaultLoginRateWindow "ops@x" ++
    guess 2 defaultLoginRateWindow " OPS@x")

/-- Eleven guesses right after the first instant, which is within one window of the epoch. -/
private def earlyGuesses : List AuthEvent :=
  authCalls identityDigest .default
    (addAccount ++ (List.range 11).flatMap (fun n => guess (n + 1) n "Ops@X "))

private def checksLate (e : AuthEvent) : Bool :=
  match e.action with
  | .checkLogin _ => defaultLoginRateWindow ≤ e.after.clock
  | _ => true

private theorem lateGuesses_calls : lateGuesses.isEmpty = false ∧
    lateGuesses.all checksLate = true := by
  decide +kernel

theorem guesses_bounded_late : ∃ pool,
    AuthReaches identityDigest .default lateGuesses pool ∧ GuessesBounded lateGuesses := by
  obtain ⟨hcalls, hlate⟩ := lateGuesses_calls
  obtain ⟨pool, h⟩ : ∃ pool, AuthReaches identityDigest .default lateGuesses pool :=
    reaches_authCalls hcalls
  refine ⟨pool, h, guesses_bounded h ?_⟩
  intro e he key hcheck
  have hlater := List.all_eq_true.mp hlate e he
  rw [checksLate, hcheck] at hlater
  exact Or.inl (of_decide_eq_true hlater)

/-- The request of this task has been checked before `last`. -/
private def checkedBefore (task last : Nat) (e : AuthEvent) : Bool :=
  match e.action with
  | .checkLogin _ => e.task = task && e.after.clock < last
  | _ => false

/-- The request of this task has its password compared with that of the account. -/
private def guesses (userId task : Nat) (e : AuthEvent) : Bool :=
  match e.action with
  | .login email _ _ => e.task = task &&
    e.before.store.userIdsByEmail.lookup (normalizeEmail email) = some userId &&
    (e.before.store.usersById.lookup userId).isSome
  | _ => false

private theorem compares_of_guesses {history : List AuthEvent} {userId task : Nat}
    (h : history.any (guesses userId task) = true) : Compares history userId task := by
  obtain ⟨e, he, hguess⟩ := List.any_eq_true.mp h
  unfold guesses at hguess
  split at hguess
  · rename_i email password now hcall
    simp only [Bool.and_eq_true, decide_eq_true_eq] at hguess
    obtain ⟨⟨htask, found⟩, hsome⟩ := hguess
    obtain ⟨stored, hstored⟩ := Option.isSome_iff_exists.mp hsome
    exact ⟨e, he, htask, email, password, now, stored, hcall, found, hstored⟩
  · cases hguess

private theorem requestedAt_of_checkedBefore {history : List AuthEvent} {task last : Nat}
    (h : history.any (checkedBefore task last) = true) :
    ∃ now, RequestedAt history task now ∧ now < last := by
  obtain ⟨e, he, hchecked⟩ := List.any_eq_true.mp h
  unfold checkedBefore at hchecked
  split at hchecked
  · rename_i key hcall
    simp only [Bool.and_eq_true, decide_eq_true_eq] at hchecked
    exact ⟨_, ⟨e, he, hchecked.1, ⟨key, hcall⟩, rfl⟩, hchecked.2⟩
  · cases hchecked

private theorem earlyGuesses_calls : earlyGuesses.isEmpty = false ∧
    ∀ task ∈ (List.range 11).map (· + 1), earlyGuesses.any (guesses 1 task) = true ∧
      earlyGuesses.any (checkedBefore task defaultLoginRateWindow) = true := by
  decide +kernel

theorem early_guesses_unbounded : ∃ pool,
    AuthReaches identityDigest .default earlyGuesses pool ∧ ¬GuessesBounded earlyGuesses := by
  obtain ⟨hcalls, hguesses⟩ := earlyGuesses_calls
  obtain ⟨pool, h⟩ : ∃ pool, AuthReaches identityDigest .default earlyGuesses pool :=
    reaches_authCalls hcalls
  refine ⟨pool, h, fun hbounded => ?_⟩
  have hle : ((List.range 11).map (· + 1)).length ≤ defaultLoginRateMax := by
    refine hbounded.bounded 1 0 _ (by decide) (fun task htask => ?_)
    obtain ⟨hguess, hchecked⟩ := hguesses task htask
    obtain ⟨now, hrequested, hlt⟩ := requestedAt_of_checkedBefore hchecked
    exact ⟨compares_of_guesses hguess, now, hrequested, Nat.zero_le _, by omega⟩
  exact absurd hle (by decide)

end Samples

end Sunbolt.Control
