/- Module: Sunbolt/Control/ExpiryInstants
   scope: sunbolt-control/src/routes/node.rs, sunbolt-control/src/node.rs, sunbolt-auth/src/lib.rs
   digest: The instants at which enrollment tokens and sessions expire, and when they overflow. -/

import Sunbolt.Auth.AuthStore
import Sunbolt.Control.NodeEnrollmentRegistry
import Sunbolt.Library.Instant
import Sunbolt.Library.Sha256

set_option autoImplicit false
set_option relaxedAutoImplicit false

namespace Sunbolt.Control

open Sunbolt.Library
open Sunbolt.Auth (AuthConfig AuthError AuthStore Primitives StoredUser User normalizeEmail
  passwordHash)

/-- `str::parse::<u64>`. -/
def parseU64 (text : String) : Option UInt64 :=
  let digits := match text.toList with
    | '+' :: rest => rest
    | all => all
  if digits = [] || digits.any (fun c => !c.isDigit) then none
  else
    let n := digits.foldl (fun n c => n * 10 + (c.toNat - '0'.toNat)) 0
    if n < 2 ^ 64 then some (UInt64.ofNat n) else none

/-- `env_u64`, for the value of the variable. -/
def envU64 (value : Option String) : Option UInt64 := value.bind parseU64

def defaultSessionTtlSecs : UInt64 := 8 * 60 * 60

/-- The session TTL of `AuthConfig::from_env`, in seconds. -/
def sessionTtlSecs (value : Option String) : UInt64 :=
  (envU64 value).getD defaultSessionTtlSecs

/-- The TTL of an enrollment token, in seconds. -/
def tokenTtlSecs (expiresInSecs : Option UInt64) : UInt64 :=
  max (expiresInSecs.getD (15 * 60)) 60

/-- A value behind a lock; a panic of its holder poisons it. -/
structure Mutex (S : Type) where
  value : S
  poisoned : Bool

/-- The last step of `create_enrollment_token`: `create_token`, which takes the lock even if it is
    poisoned. No response is a panic. -/
def createEnrollmentToken (registry : Mutex NodeEnrollmentRegistry) (user : User)
    (expiresInSecs : Option UInt64) (bytes : RandomBytes) (now : Instant) :
    Mutex NodeEnrollmentRegistry × Option EnrollmentTokenResponse :=
  let ttl := Duration.fromSecs (tokenTtlSecs expiresInSecs)
  match now.checkedAdd ttl with
  | none =>
    ({ value := { registry.value with nextTokenId := registry.value.nextTokenId + 1 }
       poisoned := true }, none)
  | some _ =>
    let out := registry.value.createToken user ttl.toNanos bytes now.index
    ({ registry with value := out.1 }, some out.2)

/-- `login`: a poisoned store is not available. The instant is added up once the password has
    been checked, where the rest of the model inserts the session. -/
def loginLocked (primitives : Primitives) (config : AuthConfig) (store : Mutex AuthStore)
    (ttl : Duration) (email password : String) (now : Instant) (token : String) :
    Mutex AuthStore × Option (Except AuthError (User × String)) :=
  if store.poisoned then (store, some (.error (.storeUnavailable "sessions")))
  else
    let config := { config with sessionTtl := ttl.toNanos }
    match store.value.login primitives config email password now.index token with
    | (_, .error error) => (store, some (.error error))
    | (next, .ok result) =>
      match now.checkedAdd ttl with
      | none => ({ store with poisoned := true }, none)
      | some _ => ({ store with value := next }, some (.ok result))

/-- Neither the creation of a token nor a login panics, whatever is registered and stored. -/
def NeitherPanics (primitives : Primitives) (config : AuthConfig) (expiresInSecs : Option UInt64)
    (sessionTtl : Option String) (now : Instant) : Prop :=
  (∀ registry user bytes,
    (createEnrollmentToken registry user expiresInSecs bytes now).2.isSome = true) ∧
  ∀ store email password token,
    (loginLocked primitives config store (.fromSecs (sessionTtlSecs sessionTtl)) email password
      now token).2.isSome = true

section Panics

variable {primitives : Primitives} {config : AuthConfig} {now : Instant}

theorem createEnrollmentToken_isSome (registry : Mutex NodeEnrollmentRegistry) (user : User)
    (expiresInSecs : Option UInt64) (bytes : RandomBytes) :
    (createEnrollmentToken registry user expiresInSecs bytes now).2.isSome = true ↔
      now.secs + (tokenTtlSecs expiresInSecs).toNat < 2 ^ 63 := by
  rw [← Instant.isSome_checkedAdd_fromSecs, createEnrollmentToken]
  dsimp only
  cases now.checkedAdd (.fromSecs (tokenTtlSecs expiresInSecs)) <;> rfl

/-- A token that was created expires at the instant that was added up. -/
theorem expiresAt_createEnrollmentToken {registry : Mutex NodeEnrollmentRegistry} {user : User}
    {expiresInSecs : Option UInt64} {bytes : RandomBytes} {response : EnrollmentTokenResponse}
    (h : (createEnrollmentToken registry user expiresInSecs bytes now).2 = some response) :
    ∃ expiresAt, now.checkedAdd (.fromSecs (tokenTtlSecs expiresInSecs)) = some expiresAt ∧
      ((createEnrollmentToken registry user expiresInSecs bytes now).1.value.tokensByHash.lookup
        (tokenHash response.token)).map (·.expiresAt) = some expiresAt.index := by
  rw [createEnrollmentToken] at h ⊢
  dsimp only at h ⊢
  cases hsum : now.checkedAdd (.fromSecs (tokenTtlSecs expiresInSecs)) with
  | none => simp [hsum] at h
  | some expiresAt =>
    rw [hsum] at h
    obtain rfl := Option.some.inj h
    refine ⟨expiresAt, rfl, ?_⟩
    rw [Instant.index_checkedAdd now _ hsum]
    simp [NodeEnrollmentRegistry.createToken]

/-- A login panics exactly if the credentials are right and the instant is out of range. -/
theorem loginLocked_isSome (store : Mutex AuthStore) (ttl : UInt64)
    (email password token : String) :
    (loginLocked primitives config store (.fromSecs ttl) email password now token).2.isSome =
      true ↔
    (store.poisoned = false → (store.value.login primitives
      { config with sessionTtl := (Duration.fromSecs ttl).toNanos } email password now.index
      token).2.isOk = true → now.secs + ttl.toNat < 2 ^ 63) := by
  rw [← Instant.isSome_checkedAdd_fromSecs, loginLocked]
  cases store.poisoned with
  | true => simp
  | false =>
    dsimp only
    generalize store.value.login primitives
      { config with sessionTtl := (Duration.fromSecs ttl).toNanos } email password now.index
      token = out
    obtain ⟨next, _ | result⟩ := out
    · simp [Except.isOk, Except.toBool]
    · cases now.checkedAdd (.fromSecs ttl) <;> simp [Except.isOk, Except.toBool]

/-- The account `ops@x` with the password `p`. -/
def opsOnly (primitives : Primitives) : Mutex AuthStore :=
  ⟨(AuthStore.default.upsertUser primitives "ops@x" "p" .admin).1, false⟩

theorem login_opsOnly : ((opsOnly primitives).value.login primitives config "ops@x" "p" now.index
    "t").2.isOk = true := by
  have hid : (opsOnly primitives).value.userIdsByEmail.lookup (normalizeEmail "ops@x") =
      some 1 := rfl
  have hstored : (opsOnly primitives).value.usersById.lookup 1 =
      some ⟨⟨1, normalizeEmail "ops@x", .admin⟩, passwordHash primitives "p"⟩ := rfl
  simp only [AuthStore.login, hid, hstored, ne_eq, not_true, if_false]
  rfl

/-- Whatever the other arguments are, neither panics exactly if both instants are in range. -/
theorem expiry_in_range_iff (primitives : Primitives) (config : AuthConfig)
    (expiresInSecs : Option UInt64) (sessionTtl : Option String) (now : Instant) :
    NeitherPanics primitives config expiresInSecs sessionTtl now ↔
      now.secs + (tokenTtlSecs expiresInSecs).toNat < 2 ^ 63 ∧
      now.secs + (sessionTtlSecs sessionTtl).toNat < 2 ^ 63 := by
  constructor
  · rintro ⟨hcreate, hlogin⟩
    refine ⟨(createEnrollmentToken_isSome ⟨.default, false⟩ ⟨1, "ops@x", .admin⟩ expiresInSecs
      (.replicate 32 0)).mp (hcreate _ _ _), ?_⟩
    exact (loginLocked_isSome (opsOnly primitives) _ "ops@x" "p" "t").mp (hlogin _ _ _ _) rfl
      login_opsOnly
  · rintro ⟨htoken, hsession⟩
    exact ⟨fun registry user bytes =>
        (createEnrollmentToken_isSome registry user expiresInSecs bytes).mpr htoken,
      fun store email password token =>
        (loginLocked_isSome store _ email password token).mpr (fun _ _ => hsession)⟩

end Panics

private def firstSecond : Instant := ⟨0, 0, by decide, nanosPerSec_pos⟩

/-- The largest numbers of seconds that a request and the environment can hold. -/
theorem expiry_overflows : ∃ primitives,
    ¬NeitherPanics primitives .default (some (2 ^ 64 - 1)) (some "18446744073709551615")
      firstSecond ∧
    (createEnrollmentToken ⟨.default, false⟩ ⟨1, "ops@x", .admin⟩ (some (2 ^ 64 - 1))
      (.replicate 32 0) firstSecond).2.isNone = true ∧
    (loginLocked primitives .default (opsOnly primitives)
      (.fromSecs (sessionTtlSecs (some "18446744073709551615"))) "ops@x" "p" firstSecond
      "t").1.poisoned = true := by
  refine ⟨⟨Sha256.sha256, fun c => [c.toLower]⟩, fun h => ?_, by decide +kernel, by decide +kernel⟩
  have hrange := (createEnrollmentToken_isSome ⟨.default, false⟩ ⟨1, "ops@x", .admin⟩ _
    (.replicate 32 0)).mp (h.1 _ _ _)
  revert hrange
  decide +kernel

end Sunbolt.Control
