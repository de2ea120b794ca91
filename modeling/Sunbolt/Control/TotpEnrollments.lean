/- Module: Sunbolt/Control/TotpEnrollments
   scope: sunbolt-auth/src/lib.rs, sunbolt-auth/src/totp.rs
   digest: Which of the TOTP factors that a user has enrolled a verification looks at. -/

import Sunbolt.Auth.RecoveryCodes
import Sunbolt.Auth.TotpCodes
import Sunbolt.Control.AuthRuns
import Sunbolt.Library.Serving
import Sunbolt.Library.Sha256

set_option autoImplicit false
set_option relaxedAutoImplicit false

namespace Sunbolt.Control

open Sunbolt.Library
open Sunbolt.Audit (isWhitespace)
open Sunbolt.Auth (AuthConfig AuthContext AuthError AuthFactor AuthFactorEnrollment AuthStore
  FactorResponse FactorResult FactorsOwned FactorType MfaPurpose Primitives TotpConfig TotpFactor
  TotpSecret User UserRole isWhitespace_of_isDigit trim trim_eq_self)

/-! The calls, when no other call comes between their critical sections. -/

section Calls

variable (primitives : Primitives) (store : AuthStore)

/-- `enroll_totp_factor_with_secret`. -/
def enrollTotp (userId : Nat) (label : String) (secret : TotpSecret) :
    AuthStore × Except AuthError AuthFactorEnrollment :=
  match store.enrollFactor userId .totp label with
  | (store, .error error) => (store, .error error)
  | (store, .ok factor) =>
    match store.insertTotpSecret userId factor.id secret with
    | (store, .error error) => (store, .error error)
    | (store, .ok _) => (store, .ok factor)

/-- `begin_factor_challenge`, and the challenge's id. -/
def beginChallenge (factor : AuthFactor) (ctx : AuthContext) (now : Nat) :
    Except AuthError String :=
  match store.ensureFactorEnrolled ctx.user.id factor.factorType with
  | .error error => .error error
  | .ok () => (factor.beginChallenge now ctx).map (·.challengeId)

/-- `verify_factor_challenge`. -/
def verifyChallenge (factor : AuthFactor) (ctx : AuthContext) (response : FactorResponse)
    (now : Nat) : Except AuthError FactorResult :=
  if response.factorType ≠ factor.factorType then .error .factorTypeMismatch
  else
    match store.ensureFactorEnrolled ctx.user.id factor.factorType with
    | .error error => .error error
    | .ok () =>
      match factor.verifyChallenge now ctx response with
      | .error error => .error error
      | .ok result =>
        if result.userId ≠ ctx.user.id ∨ result.factorType ≠ factor.factorType then
          .error .factorTypeMismatch
        else if !result.verified then .error .factorVerificationFailed
        else .ok result

/-- `verify_totp_code`; the clock is read for the challenge and for its verification. -/
def verifyTotp (user : User) (purpose : MfaPurpose) (code : String) (begunAt now : Nat) :
    Except AuthError FactorResult :=
  match store.totpFactorForUser user.id with
  | .error error => .error error
  | .ok totp =>
    let factor := totp.authFactor primitives.sha256
    match beginChallenge store factor ⟨user, purpose⟩ begunAt with
    | .error error => .error error
    | .ok challengeId =>
      verifyChallenge store factor ⟨user, purpose⟩ ⟨challengeId, .totp, code⟩ now

end Calls

inductive FactorCall where
  | upsertUser (email password : String) (role : UserRole)
  | enrollFactor (userId : Nat) (factorType : FactorType) (label : String)
  | enrollTotp (userId : Nat) (label : String) (secret : TotpSecret)

def serveEnrollment (primitives : Primitives) (store : AuthStore) :
    FactorCall → AuthStore × Option (Except AuthError AuthFactorEnrollment)
  | .upsertUser email password role =>
    ((store.upsertUser primitives email password role).1, none)
  | .enrollFactor userId factorType label =>
    let (store, result) := store.enrollFactor userId factorType label
    (store, some result)
  | .enrollTotp userId label secret =>
    let (store, result) := Sunbolt.Control.enrollTotp store userId label secret
    (store, some result)

abbrev FactorEvent :=
  Served AuthStore FactorCall (Option (Except AuthError AuthFactorEnrollment))

/-- The enrollments of any users, one after another, from an empty store. -/
abbrev EnrollmentRun (primitives : Primitives) : List FactorEvent → AuthStore → Prop :=
  Serves (serveEnrollment primitives) .default

/-- The secret that a call has enrolled a TOTP factor of the user with. -/
def enrolledSecret (userId : Nat) (e : FactorEvent) : Option TotpSecret :=
  match e.call, e.reply with
  | .enrollTotp named _ secret, some (.ok _) => if named = userId then some secret else none
  | _, _ => none

/-- The secrets of the TOTP factors of the user, in the order of their enrollment. -/
def enrolledSecrets (userId : Nat) (history : List FactorEvent) : List TotpSecret :=
  history.filterMap (enrolledSecret userId)

/-- The code that the secret has at this time, under the default configuration. -/
def codeOf (primitives : Primitives) (secret : TotpSecret) (unixTimeSecs : Nat) : String :=
  (TotpFactor.new secret .default).codeAt primitives.sha256 unixTimeSecs

/-- The code of the secret is one of those of the other secret around this time. -/
def SharesCode (primitives : Primitives) (first secret : TotpSecret) (unixTimeSecs : Nat) : Prop :=
  ∃ counter ∈ (TotpFactor.new first .default).counters unixTimeSecs,
    Sunbolt.Auth.hotpSha256 primitives.sha256 first.bytes counter TotpConfig.default.digits =
      codeOf primitives secret unixTimeSecs

/-- The verification of the code that the secret has at this time succeeds. -/
def AcceptsCodeOf (primitives : Primitives) (store : AuthStore) (user : User)
    (purpose : MfaPurpose) (secret : TotpSecret) (begunAt unixTimeSecs : Nat) : Prop :=
  ∃ result, verifyTotp primitives store user purpose (codeOf primitives secret unixTimeSecs)
    begunAt unixTimeSecs = .ok result

/-! The calls are the programs of the service, run with no other call in between. -/

section Programs

variable {primitives : Primitives} {config : AuthConfig} {i : Nat} {state last : AuthState}

private theorem alone_ensure {userId : Nat} {factorType : FactorType}
    {found : Except AuthError Unit} :
    (authService primitives config).Alone i (auth (.ensureFactorEnrolled userId factorType)) state
      last found ↔ found = state.store.ensureFactorEnrolled userId factorType ∧ last = state := by
  refine alone_auth (.ensureFactorEnrolled userId factorType)
    (state.store.ensureFactorEnrolled userId factorType, state) ?_
  intro choice found
  cases choice <;> simp [performAuth, eq_comm]

private theorem alone_unixTime {now : Nat} :
    (authService primitives config).Alone i (auth .unixTime) state last now ↔ last = state := by
  rw [auth, Service.alone_perform]
  constructor
  · rintro ⟨choice, found, hfound, rfl, rfl⟩
    have hcall := authService_perform hfound
    cases choice <;>
      simp only [performAuth, reduceCtorEq, Option.some.injEq, Prod.mk.injEq] at hcall
    exact hcall.2.symm
  · rintro rfl
    exact ⟨.clock now, ⟨now, last, []⟩, rfl, rfl, rfl⟩

private theorem alone_insertSecret {userId factorId : Nat} {secret : TotpSecret}
    {email : Except AuthError String} :
    (authService primitives config).Alone i (auth (.insertTotpSecret userId factorId secret)) state
      last email ↔ email = (state.store.insertTotpSecret userId factorId secret).2 ∧
      last = { state with store := (state.store.insertTotpSecret userId factorId secret).1 } := by
  refine alone_auth (.insertTotpSecret userId factorId secret)
    (state.onStore (state.store.insertTotpSecret userId factorId secret)) ?_
  intro choice found
  cases choice <;> simp [performAuth, eq_comm]

theorem alone_enrollTotp {userId : Nat} {label : String} {secret : TotpSecret} {result : Unit} :
    (authService primitives config).Alone i (enrollTotpFactorWithSecret userId label secret) state
      last result ↔
      last = { state with store := (enrollTotp state.store userId label secret).1 } := by
  rw [enrollTotpFactorWithSecret, Service.alone_then (fun _ _ => alone_enrollFactor)]
  simp only [enrollTotp]
  rcases state.store.enrollFactor userId .totp label with ⟨store, error | factor⟩
  · exact and_iff_left rfl
  · dsimp only
    rw [Service.alone_then (fun _ _ => alone_insertSecret)]
    rcases store.insertTotpSecret userId factor.id secret with ⟨store, error | email⟩
    · exact and_iff_left rfl
    · exact and_iff_left rfl

/-- A clock is read, and the rest depends on nothing else. -/
private theorem alone_clocked {α : Type} {f : Nat → α} {result : α} :
    (authService primitives config).Alone i (do
      let now ← auth .unixTime
      return f now) state last result ↔ last = state ∧ ∃ now, result = f now := by
  rw [Service.alone_bind]
  constructor
  · rintro ⟨middle, now, hclock, rfl, rfl⟩
    exact ⟨alone_unixTime.mp hclock, now, rfl⟩
  · rintro ⟨rfl, now, rfl⟩
    exact ⟨last, now, alone_unixTime.mpr rfl, rfl, rfl⟩

private theorem alone_const {α : Type} {value result : α} :
    (authService primitives config).Alone i (pure value) state last result ↔
      last = state ∧ ∃ _now : Nat, result = value := by
  rw [Service.alone_pure]
  exact and_congr_right (fun _ => ⟨fun h => ⟨0, h⟩, fun ⟨_, h⟩ => h⟩)

theorem alone_beginChallenge {factor : AuthFactor} {ctx : AuthContext}
    {result : Except AuthError String} :
    (authService primitives config).Alone i (beginFactorChallenge factor ctx) state last result ↔
      last = state ∧ ∃ now, result = beginChallenge state.store factor ctx now := by
  rw [beginFactorChallenge, Service.alone_then (fun _ _ => alone_ensure)]
  simp only [beginChallenge]
  cases state.store.ensureFactorEnrolled ctx.user.id factor.factorType with
  | error error => exact alone_const
  | ok u => exact alone_clocked

theorem alone_verifyChallenge {factor : AuthFactor} {ctx : AuthContext}
    {response : FactorResponse} {result : Except AuthError FactorResult} :
    (authService primitives config).Alone i (verifyFactorChallenge factor ctx response) state last
      result ↔
      last = state ∧ ∃ now, result = verifyChallenge state.store factor ctx response now := by
  rw [verifyFactorChallenge]
  simp only [verifyChallenge]
  split_ifs with hdiffers
  · exact alone_const
  · rw [Service.alone_then (fun _ _ => alone_ensure)]
    cases state.store.ensureFactorEnrolled ctx.user.id factor.factorType with
    | error error => exact alone_const
    | ok u =>
      refine Iff.trans ?_ (@alone_clocked primitives config i state last _ _ _)
      refine iff_of_eq (congrArg (fun p => (authService primitives config).Alone i p state last
        result) (congrArg (auth .unixTime >>= ·) (funext (fun now => ?_))))
      dsimp only
      cases factor.verifyChallenge now ctx response with
      | error error => rfl
      | ok verified =>
        dsimp only
        split_ifs <;> rfl

theorem alone_verifyTotp {user : User} {purpose : MfaPurpose} {code : String}
    {result : Except AuthError FactorResult} :
    (authService primitives config).Alone i (verifyTotpCode primitives user purpose code) state
      last result ↔ last = state ∧
      ∃ begunAt now, result = verifyTotp primitives state.store user purpose code begunAt now := by
  have hfind : ∀ left found, (authService primitives config).Alone i
      (auth (.totpFactorForUser user.id)) state left found ↔
        found = state.store.totpFactorForUser user.id ∧ left = state := by
    intro left found
    refine alone_auth (.totpFactorForUser user.id)
      (state.store.totpFactorForUser user.id, state) ?_
    intro choice out
    cases choice <;> simp [performAuth, eq_comm]
  rw [verifyTotpCode, Service.alone_then hfind]
  simp only [verifyTotp]
  cases state.store.totpFactorForUser user.id with
  | error error =>
    rw [Service.alone_pure]
    refine and_congr_right (fun _ => ⟨fun h => ⟨0, 0, h⟩, ?_⟩)
    rintro ⟨_, _, h⟩
    exact h
  | ok totp =>
    dsimp only
    rw [Service.alone_bind]
    constructor
    · rintro ⟨middle, begun, hbegin, hrest⟩
      obtain ⟨rfl, begunAt, rfl⟩ := alone_beginChallenge.mp hbegin
      split at hrest
      · rename_i error herror
        obtain ⟨rfl, rfl⟩ := hrest
        exact ⟨rfl, begunAt, 0, by rw [herror]⟩
      · rename_i challengeId hbegun
        obtain ⟨rfl, now, rfl⟩ := alone_verifyChallenge.mp hrest
        exact ⟨rfl, begunAt, now, by rw [hbegun]⟩
    · rintro ⟨rfl, begunAt, now, rfl⟩
      refine ⟨last, _, alone_beginChallenge.mpr ⟨rfl, begunAt, rfl⟩, ?_⟩
      cases beginChallenge last.store (totp.authFactor primitives.sha256) ⟨user, purpose⟩
          begunAt with
      | error error => exact ⟨rfl, rfl⟩
      | ok challengeId => exact alone_verifyChallenge.mpr ⟨rfl, now, rfl⟩

end Programs

/-! The factors of a user, in the order of their enrollment. -/

/-- The secrets that a verification for the user could look at. -/
def secretsFor (store : AuthStore) (userId : Nat) : List TotpSecret :=
  (store.factorsOf userId).filterMap (fun factor =>
    if factor.enabled && factor.factorType = .totp then
      store.totpSecretsByFactorId.lookup factor.id
    else none)

/-- No secret is kept under a number that no factor has had yet. -/
structure SecretsInOrder (store : AuthStore) : Prop where
  owned : FactorsOwned store
  known : ∀ factorId secret, store.totpSecretsByFactorId.lookup factorId = some secret →
    factorId < store.nextFactorId

section Secrets

variable {primitives : Primitives} {store : AuthStore}

/-- The verification looks at the first of them. -/
theorem totpFactorForUser_eq (userId : Nat) : store.totpFactorForUser userId =
    match (secretsFor store userId).head? with
    | none => .error .totpSecretMissing
    | some secret => .ok ⟨secret, .default⟩ := by
  rw [secretsFor, List.head?_filterMap]
  rfl

theorem ensureFactorEnrolled_of_secret {userId : Nat} {secret : TotpSecret}
    (h : secret ∈ secretsFor store userId) : store.ensureFactorEnrolled userId .totp = .ok () := by
  obtain ⟨factor, hfactor, hsecret⟩ := List.mem_filterMap.mp h
  split_ifs at hsecret with htotp
  rw [AuthStore.ensureFactorEnrolled, AuthStore.enrolled,
    if_pos (List.find?_isSome.mpr ⟨factor, hfactor, htotp⟩)]

/-- A new factor has no secret yet. -/
theorem SecretsInOrder.enrollFactor (h : SecretsInOrder store) (userId : Nat)
    (factorType : FactorType) (label : String) :
    SecretsInOrder (store.enrollFactor userId factorType label).1 ∧
    ∀ other, secretsFor (store.enrollFactor userId factorType label).1 other =
      secretsFor store other := by
  have howned := h.owned.enrollFactor userId factorType label
  have hfactors := fun other => h.owned.factorsOf_enrollFactor userId other factorType label
  rcases store.enrollFactor_cases userId factorType label with
    ⟨error, heq⟩ | ⟨factor, hid, -, -, -, heq⟩
  · rw [heq]
    exact ⟨h, fun _ => rfl⟩
  · rw [heq] at howned hfactors ⊢
    refine ⟨⟨howned, fun factorId secret hlookup => ?_⟩, fun other => ?_⟩
    · exact Nat.lt_succ_of_lt (h.known factorId secret hlookup)
    · have hnew : store.totpSecretsByFactorId.lookup factor.id = none := by
        cases hlookup : store.totpSecretsByFactorId.lookup factor.id with
        | none => rfl
        | some secret => exact absurd (h.known _ _ hlookup) (hid ▸ Nat.lt_irrefl _)
      rw [secretsFor, hfactors other, List.filterMap_append, secretsFor]
      dsimp only [Except.toOption]
      split_ifs
      · simp [hnew]
      · simp

theorem SecretsInOrder.upsertUser (h : SecretsInOrder store) (email password : String)
    (role : UserRole) : SecretsInOrder (store.upsertUser primitives email password role).1 ∧
    ∀ userId, secretsFor (store.upsertUser primitives email password role).1 userId =
      secretsFor store userId := by
  rcases store.upsertUser_cases primitives email password role with
    ⟨error, heq⟩ | ⟨known, stored, -, -, heq⟩ | ⟨-, heq⟩
  · rw [heq]
    exact ⟨h, fun _ => rfl⟩
  · rw [heq]
    exact ⟨⟨h.owned.of_same rfl rfl rfl, h.known⟩, fun _ => rfl⟩
  · rw [heq]
    exact ⟨⟨h.owned.of_same rfl rfl rfl, h.known⟩, fun _ => rfl⟩

private theorem user_of_enrolled {userId : Nat} {factorType : FactorType} {label : String}
    {factor : AuthFactorEnrollment}
    (h : (store.enrollFactor userId factorType label).2 = .ok factor) :
    (store.usersById.lookup userId).isSome = true := by
  rw [AuthStore.enrollFactor] at h
  split_ifs at h with hlabel huser
  simpa [Option.isSome_iff_ne_none] using huser

/-- A TOTP enrollment fails and adds no secret, or adds one to those of its user. -/
theorem SecretsInOrder.enrollTotp (h : SecretsInOrder store) (userId : Nat) (label : String)
    (secret : TotpSecret) :
    SecretsInOrder (enrollTotp store userId label secret).1 ∧
    ∀ other, secretsFor (enrollTotp store userId label secret).1 other =
      secretsFor store other ++
        if other = userId ∧ (enrollTotp store userId label secret).2.toOption.isSome then [secret]
        else [] := by
  have howned := h.owned.enrollFactor userId .totp label
  have hfactors := fun other => h.owned.factorsOf_enrollFactor userId other .totp label
  have huser : ∀ factor, (store.enrollFactor userId .totp label).2 = .ok factor →
      (store.usersById.lookup userId).isSome = true := fun _ => user_of_enrolled
  rcases store.enrollFactor_cases userId .totp label with
    ⟨error, heq⟩ | ⟨factor, hid, -, htype, henabled, heq⟩
  · rw [Sunbolt.Control.enrollTotp, heq]
    exact ⟨h, fun _ => by simp [Except.toOption]⟩
  · obtain ⟨stored, hstored⟩ := Option.isSome_iff_exists.mp (huser factor (by rw [heq]))
    rw [heq] at howned hfactors
    have hresult : Sunbolt.Control.enrollTotp store userId label secret =
        ({ store with
            factorIdsByUserId := store.factorIdsByUserId.push userId store.nextFactorId
            authFactorsById := AList.insert store.nextFactorId factor store.authFactorsById
            totpSecretsByFactorId := AList.insert factor.id secret store.totpSecretsByFactorId
            nextFactorId := store.nextFactorId + 1 }, .ok factor) := by
      rw [Sunbolt.Control.enrollTotp, heq]
      simp [AuthStore.insertTotpSecret, hstored]
    rw [hresult]
    refine ⟨⟨howned.of_same rfl rfl rfl, fun factorId found hlookup => ?_⟩, fun other => ?_⟩
    · dsimp only at hlookup ⊢
      rw [Table.lookup_insert] at hlookup
      split_ifs at hlookup with hnew
      · omega
      · exact Nat.lt_succ_of_lt (h.known factorId found hlookup)
    · have hold : ∀ f ∈ store.factorsOf other, f.id ≠ factor.id := by
        intro f hf
        obtain ⟨factorId, -, hlookup⟩ := List.mem_filterMap.mp hf
        obtain ⟨hown, -, hlt⟩ := h.owned.numbered factorId f hlookup
        omega
      have hkept : ∀ f ∈ store.factorsOf other,
          (if f.enabled && f.factorType = .totp then
            AList.lookup f.id (AList.insert factor.id secret store.totpSecretsByFactorId)
          else none) =
          if f.enabled && f.factorType = .totp then store.totpSecretsByFactorId.lookup f.id
          else none := by
        intro f hf
        rw [Table.lookup_insert, if_neg (hold f hf)]
      have hlisted := hfactors other
      simp only [secretsFor, AuthStore.factorsOf] at hlisted hkept ⊢
      rw [hlisted, List.filterMap_append, List.filterMap_congr hkept]
      by_cases hother : other = userId
      · simp [hother, henabled, htype, Except.toOption]
      · simp [hother]

end Secrets

section Runs

variable {primitives : Primitives} {history : List FactorEvent} {store : AuthStore}

/-- After a run the secrets of a user are those that were enrolled, in their order. -/
theorem secretsFor_eq (h : EnrollmentRun primitives history store) : SecretsInOrder store ∧
    ∀ userId, secretsFor store userId = enrolledSecrets userId history := by
  refine h.invariant (I := fun history store => SecretsInOrder store ∧
    ∀ userId, secretsFor store userId = enrolledSecrets userId history)
    ⟨⟨FactorsOwned.default, nofun⟩, fun _ => rfl⟩ ?_
  rintro history store call - ⟨inOrder, same⟩
  have hlast : ∀ userId e, enrolledSecrets userId (history ++ [e]) =
      enrolledSecrets userId history ++ (enrolledSecret userId e).toList := by
    intro userId e
    rw [enrolledSecrets, List.filterMap_append]
    rfl
  cases call with
  | upsertUser email password role =>
    obtain ⟨hnext, hsecrets⟩ := @SecretsInOrder.upsertUser primitives _ inOrder email password role
    refine ⟨hnext, fun other => ?_⟩
    rw [hlast, ← same other]
    exact (hsecrets other).trans (List.append_nil _).symm
  | enrollFactor userId factorType label =>
    obtain ⟨hnext, hsecrets⟩ := inOrder.enrollFactor userId factorType label
    refine ⟨hnext, fun other => ?_⟩
    rw [hlast, ← same other]
    exact (hsecrets other).trans (List.append_nil _).symm
  | enrollTotp userId label secret =>
    obtain ⟨hnext, hsecrets⟩ := inOrder.enrollTotp userId label secret
    refine ⟨hnext, fun other => ?_⟩
    rw [hlast, ← same other]
    refine (hsecrets other).trans (congrArg _ ?_)
    simp only [served, serveEnrollment, enrolledSecret]
    cases (enrollTotp store userId label secret).2 with
    | error error => simp [Except.toOption]
    | ok factor =>
      by_cases hother : userId = other
      · simp [hother, Except.toOption]
      · simp [hother, Ne.symm hother, Except.toOption]

/-- A TOTP response is right if it is, but for whitespace around it, a code of the secret that
    comes first. -/
theorem verifyTotp_ok_iff {user : User} {purpose : MfaPurpose} {code : String}
    {begunAt now : Nat} :
    (∃ result, verifyTotp primitives store user purpose code begunAt now = .ok result) ↔
      ∃ first, (secretsFor store user.id).head? = some first ∧
        (TotpFactor.new first .default).verifyCodeAt primitives.sha256
          (String.ofList (trim code.toList)) now = true := by
  rw [verifyTotp, totpFactorForUser_eq]
  cases hfirst : (secretsFor store user.id).head? with
  | none =>
    constructor
    · rintro ⟨_, ⟨⟩⟩
    · rintro ⟨_, ⟨⟩, -⟩
  | some first =>
    have hensure := ensureFactorEnrolled_of_secret (List.mem_of_mem_head? hfirst)
    simp only [beginChallenge, verifyChallenge, TotpFactor.authFactor, hensure]
    simp only [TotpFactor.new, Except.map, ne_eq, not_true_eq_false, or_self, if_false]
    cases hcode : TotpFactor.verifyCodeAt primitives.sha256 ⟨first, .default⟩
      (String.ofList (trim code.toList)) now <;> simp [hcode]

theorem verifyCodeAt_codeOf {first secret : TotpSecret} {unixTimeSecs : Nat} :
    (TotpFactor.new first .default).verifyCodeAt primitives.sha256
      (String.ofList (trim (codeOf primitives secret unixTimeSecs).toList)) unixTimeSecs = true ↔
      SharesCode primitives first secret unixTimeSecs := by
  have hdigits : ∀ c ∈ (codeOf primitives secret unixTimeSecs).toList, c.isDigit = true :=
    (TotpFactor.new secret .default).isDigit_codeAt unixTimeSecs
  have htrim : trim (codeOf primitives secret unixTimeSecs).toList =
      (codeOf primitives secret unixTimeSecs).toList :=
    trim_eq_self (fun c hc => isWhitespace_of_isDigit (hdigits c hc))
  rw [htrim, String.ofList_toList, TotpFactor.verifyCodeAt, List.any_eq_true]
  simp only [decide_eq_true_eq]
  rfl

/-- The code of a secret is one of its own codes. -/
theorem sharesCode_self (secret : TotpSecret) {unixTimeSecs : Nat}
    (hrange : unixTimeSecs < 2 ^ 64) : SharesCode primitives secret secret unixTimeSecs := by
  refine ⟨unixTimeSecs / max TotpConfig.default.periodSecs 1, ?_, rfl⟩
  have hle : unixTimeSecs / max TotpConfig.default.periodSecs 1 ≤ unixTimeSecs :=
    Nat.div_le_self _ _
  rw [TotpFactor.counters]
  dsimp only [TotpFactor.new]
  rw [List.mem_range'_1]
  generalize unixTimeSecs / max TotpConfig.default.periodSecs 1 = counter at hle ⊢
  omega

/-- The code of an enrolled factor is accepted exactly if the factor has the secret that the user
    enrolled first, or its code happens to be a code of that secret as well. -/
theorem totp_code_accepted_iff (h : EnrollmentRun primitives history store) {user : User}
    {e : FactorEvent} (he : e ∈ history) {secret : TotpSecret}
    (enrolled : enrolledSecret user.id e = some secret) (purpose : MfaPurpose) (begunAt : Nat)
    {unixTimeSecs : Nat} (hrange : unixTimeSecs < 2 ^ 64) :
    AcceptsCodeOf primitives store user purpose secret begunAt unixTimeSecs ↔
      ∀ first, (enrolledSecrets user.id history).head? = some first →
        first = secret ∨ SharesCode primitives first secret unixTimeSecs := by
  rw [AcceptsCodeOf, verifyTotp_ok_iff, (secretsFor_eq h).2 user.id]
  constructor
  · rintro ⟨first, hfirst, hcode⟩ other hother
    obtain rfl := Option.some.inj (hfirst.symm.trans hother)
    exact Or.inr (verifyCodeAt_codeOf.mp hcode)
  · intro hshares
    obtain ⟨first, rest, hlist⟩ := List.exists_cons_of_ne_nil
      (List.ne_nil_of_mem (List.mem_filterMap.mpr ⟨e, he, enrolled⟩))
    have hfirst : (enrolledSecrets user.id history).head? = some first := by
      rw [enrolledSecrets, hlist]
      rfl
    refine ⟨first, hfirst, verifyCodeAt_codeOf.mpr ?_⟩
    rcases hshares first hfirst with rfl | hcode
    · exact sharesCode_self first hrange
    · exact hcode

end Runs

/-- SHA-256, and letters in lower case. -/
private def realDigest : Primitives := ⟨Sha256.sha256, fun c => [c.toLower]⟩

/-- A user enrolls two authenticator apps. -/
private def twoApps : List FactorCall :=
  [.upsertUser "ops@x" "p" .operator, .enrollTotp 1 "phone" ⟨[1]⟩, .enrollTotp 1 "tablet" ⟨[2]⟩]

private def ops : User := ⟨1, "ops@x", .operator⟩

/-- The event of the first app, and that no secret comes before it. -/
private theorem twoApps_history :
    (historyOf (serveEnrollment realDigest) .default twoApps).map (enrolledSecret 1) =
      [none, some ⟨[1]⟩, some ⟨[2]⟩] := by
  decide +kernel

private theorem enrolled_twoApps {secret : TotpSecret} (h : secret = ⟨[1]⟩ ∨ secret = ⟨[2]⟩) :
    ∃ e ∈ historyOf (serveEnrollment realDigest) .default twoApps,
      enrolledSecret 1 e = some secret := by
  refine List.mem_map.mp ?_
  rw [twoApps_history]
  rcases h with rfl | rfl <;> simp

theorem totp_code_accepted_iff_first : AcceptsCodeOf realDigest
    (endOf (serveEnrollment realDigest) .default twoApps) ops .login ⟨[1]⟩ 59 59 := by
  obtain ⟨e, he, henrolled⟩ := enrolled_twoApps (Or.inl rfl)
  refine (totp_code_accepted_iff (Serves.ofCalls (serveEnrollment realDigest) .default twoApps) he
    henrolled .login 59 (by decide)).mpr (fun first hfirst => Or.inl ?_)
  have hsecrets := congrArg (fun l => (l.filterMap id).head?) twoApps_history
  simp only [List.filterMap_map, Function.id_comp] at hsecrets
  exact Option.some.inj (hfirst.symm.trans hsecrets)

/-- The codes of the second app are rejected. -/
theorem second_totp_factor_rejected : ∃ history store, EnrollmentRun realDigest history store ∧
    (∃ e ∈ history, enrolledSecret ops.id e = some ⟨[2]⟩) ∧
    ¬AcceptsCodeOf realDigest store ops .login ⟨[2]⟩ 59 59 := by
  refine ⟨_, _, Serves.ofCalls (serveEnrollment realDigest) .default twoApps,
    enrolled_twoApps (Or.inr rfl), ?_⟩
  have hrejected : (verifyTotp realDigest
      (endOf (serveEnrollment realDigest) .default twoApps) ops .login
      (codeOf realDigest ⟨[2]⟩ 59) 59 59).toOption.isNone = true := by
    decide +kernel
  rintro ⟨result, haccepted⟩
  rw [haccepted] at hrejected
  cases hrejected

end Sunbolt.Control
