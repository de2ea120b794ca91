/- Module: Sunbolt/Auth/AuthStore
   scope: sunbolt-auth/src/lib.rs, sunbolt-auth/src/recovery_codes.rs
   digest: The store of the auth service and what each of its critical sections does. -/

import Sunbolt.Auth.Factors
import Sunbolt.Audit.Chain
import Sunbolt.Library.Table
import Sunbolt.Library.Utf8Lossy

set_option autoImplicit false
set_option relaxedAutoImplicit false

namespace Sunbolt.Auth

open Sunbolt.Library
open Sunbolt.Audit (isWhitespace toAsciiLowercase hexDigits)

/-- What the service takes from its libraries: the digest of the crate `sha2` and the lower case
    of a character, which may be several. -/
structure Primitives where
  sha256 : List UInt8 → List UInt8
  toLowercase : Char → List Char

/-- The settings that the handlers read; durations and instants are in nanoseconds. -/
structure AuthConfig where
  secureCookie : Bool
  sessionTtl : Nat
  recentMfaTtl : Nat
  requireStepUpMfaForTerminal : Bool

structure StoredUser where
  user : User
  passwordHash : String

structure SessionRecord where
  userId : Nat
  expiresAt : Nat
  recentMfaAt : Option Nat

structure StoredRecoveryCode where
  hash : String
  used : Bool
  deriving DecidableEq, Repr

structure AuthStore where
  usersById : Table Nat StoredUser
  userIdsByEmail : Table String Nat
  sessionsByToken : Table String SessionRecord
  authFactorsById : Table Nat AuthFactorEnrollment
  factorIdsByUserId : Table Nat (List Nat)
  recoveryCodesByFactorId : Table Nat (List StoredRecoveryCode)
  totpSecretsByFactorId : Table Nat TotpSecret
  nextUserId : Nat
  nextFactorId : Nat

def AuthStore.default : AuthStore := ⟨∅, ∅, ∅, ∅, ∅, ∅, ∅, 1, 1⟩

def normalizeEmail (email : String) : String :=
  String.ofList ((trim email.toList).map toAsciiLowercase)

/-- The digest of a salted text in hex digits. -/
def saltedHash (primitives : Primitives) (salt : String) (text : List Char) : String :=
  String.ofList (hexDigits (primitives.sha256 (Utf8Lossy.encode (salt.toList ++ text))))

def passwordHash (primitives : Primitives) (password : String) : String :=
  saltedHash primitives "sunbolt-dev-v1:" password.toList

def normalizeRecoveryCode (primitives : Primitives) (code : String) : List Char :=
  (code.toList.filter (fun c => !isWhitespace c)).flatMap primitives.toLowercase

def hashRecoveryCode (primitives : Primitives) (code : String) : String :=
  saltedHash primitives "sunbolt-recovery-code-v1:" (normalizeRecoveryCode primitives code)

def recoveryCodeRecords (primitives : Primitives) (codes : List String) :
    List StoredRecoveryCode :=
  codes.map (fun code => ⟨hashRecoveryCode primitives code, false⟩)

def canOpenTerminal (user : User) : Bool :=
  user.role = .admin || user.role = .operator

/-- What `from_env` reads from an empty environment. -/
def AuthConfig.default : AuthConfig :=
  ⟨false, 8 * 60 * 60 * 1000000000, 10 * 60 * 1000000000, true⟩

/-! The session cookie. -/

def sessionCookieName : String := "sunbolt_session"

/-- `Duration::as_secs`. -/
def asSecs (duration : Nat) : Nat := duration / 1000000000

def AuthConfig.cookieHeader (config : AuthConfig) (value : String) (maxAge : Nat) : String :=
  sessionCookieName ++ "=" ++ value ++ "; Path=/; Max-Age=" ++ toString maxAge ++
    "; HttpOnly; SameSite=Strict" ++ (if config.secureCookie then "; Secure" else "")

def AuthConfig.sessionCookieHeader (config : AuthConfig) (token : String) : String :=
  config.cookieHeader token (asSecs config.sessionTtl)

def AuthConfig.clearSessionCookieHeader (config : AuthConfig) : String :=
  config.cookieHeader "" 0

namespace AuthStore

variable (primitives : Primitives) (config : AuthConfig) (store : AuthStore)

/-! Users and sessions. -/

def upsertUser (email password : String) (role : UserRole) :
    AuthStore × Except AuthError User :=
  if trim email.toList = [] then (store, .error .invalidCredentials)
  else if password.isEmpty then (store, .error .invalidCredentials)
  else
    let normalizedEmail := normalizeEmail email
    let hash := passwordHash primitives password
    match store.userIdsByEmail.lookup normalizedEmail with
    | some userId =>
      match store.usersById.lookup userId with
      | none => (store, .error (.storeUnavailable "user-record"))
      | some stored =>
        let user := { stored.user with role := role }
        ({ store with usersById := AList.insert userId ⟨user, hash⟩ store.usersById }, .ok user)
    | none =>
      let user : User := ⟨store.nextUserId, normalizedEmail, role⟩
      ({ store with
          userIdsByEmail := AList.insert normalizedEmail user.id store.userIdsByEmail
          usersById := AList.insert user.id ⟨user, hash⟩ store.usersById
          nextUserId := store.nextUserId + 1 }, .ok user)

def login (email password : String) (now : Nat) (token : String) :
    AuthStore × Except AuthError (User × String) :=
  match store.userIdsByEmail.lookup (normalizeEmail email) with
  | none => (store, .error .invalidCredentials)
  | some userId =>
    match store.usersById.lookup userId with
    | none => (store, .error .invalidCredentials)
    | some stored =>
      if stored.passwordHash ≠ passwordHash primitives password then
        (store, .error .invalidCredentials)
      else
        let session : SessionRecord := ⟨stored.user.id, now + config.sessionTtl, none⟩
        ({ store with sessionsByToken := AList.insert token session store.sessionsByToken },
          .ok (stored.user, token))

def purgeExpiredSessionsLocked (now : Nat) : AuthStore :=
  { store with sessionsByToken := store.sessionsByToken.retain (fun s => now < s.expiresAt) }

def currentUser (token : String) (now : Nat) : AuthStore × Option User :=
  let store := store.purgeExpiredSessionsLocked now
  (store, (store.sessionsByToken.lookup token).bind
    (fun session => (store.usersById.lookup session.userId).map (·.user)))

def logout (token : String) : AuthStore :=
  { store with sessionsByToken := AList.erase token store.sessionsByToken }

/-- An `Instant` in the future has not elapsed at all. -/
def hasRecentMfa (token : String) (now : Nat) : AuthStore × Bool :=
  let store := store.purgeExpiredSessionsLocked now
  (store, (store.sessionsByToken.lookup token).any
    (fun session => session.recentMfaAt.any (fun at_ => now - at_ ≤ config.recentMfaTtl)))

def recordMfaSuccess (token : String) (now : Nat) : AuthStore × Except AuthError Unit :=
  let store := store.purgeExpiredSessionsLocked now
  match store.sessionsByToken.lookup token with
  | none => (store, .error .invalidSession)
  | some session =>
    ({ store with
        sessionsByToken := AList.insert token { session with recentMfaAt := some now }
          store.sessionsByToken }, .ok ())

/-! Factors. -/

def factorsOf (userId : Nat) : List AuthFactorEnrollment :=
  ((store.factorIdsByUserId.lookup userId).getD []).filterMap
    (fun factorId => store.authFactorsById.lookup factorId)

def enrolled (userId : Nat) (factorType : FactorType) : Option AuthFactorEnrollment :=
  (store.factorsOf userId).find? (fun factor => factor.enabled && factor.factorType = factorType)

def enrollFactor (userId : Nat) (factorType : FactorType) (label : String) :
    AuthStore × Except AuthError AuthFactorEnrollment :=
  if trim label.toList = [] then (store, .error .invalidFactorLabel)
  else if (store.usersById.lookup userId).isNone then (store, .error .userNotFound)
  else
    let enrollment : AuthFactorEnrollment :=
      ⟨store.nextFactorId, userId, factorType, String.ofList (trim label.toList), true⟩
    let ids := (store.factorIdsByUserId.lookup userId).getD []
    ({ store with
        factorIdsByUserId := AList.insert userId (ids ++ [enrollment.id]) store.factorIdsByUserId
        authFactorsById := AList.insert enrollment.id enrollment store.authFactorsById
        nextFactorId := store.nextFactorId + 1 }, .ok enrollment)

/-- The second critical section of `enroll_totp_factor_with_secret`. -/
def insertTotpSecret (userId factorId : Nat) (secret : TotpSecret) :
    AuthStore × Except AuthError String :=
  ({ store with
      totpSecretsByFactorId := AList.insert factorId secret store.totpSecretsByFactorId },
    match store.usersById.lookup userId with
    | none => .error .userNotFound
    | some stored => .ok stored.user.email)

def storeRecoveryCodeRecords (factorId : Nat) (records : List StoredRecoveryCode) : AuthStore :=
  { store with
    recoveryCodesByFactorId := AList.insert factorId records store.recoveryCodesByFactorId }

def recoveryCodeFactorForUser (userId : Nat) : Option AuthFactorEnrollment :=
  store.enrolled userId .recoveryCode

/-- Mark the first unused record of this hash. -/
def markUsed (hash : String) : List StoredRecoveryCode → Option (List StoredRecoveryCode)
  | [] => none
  | record :: rest =>
    if record.hash = hash && !record.used then some ({ record with used := true } :: rest)
    else (markUsed hash rest).map (record :: ·)

/-- The second critical section of `verify_recovery_code`. -/
def useRecoveryCode (factorId : Nat) (hash : String) : AuthStore × Bool :=
  match (store.recoveryCodesByFactorId.lookup factorId).bind (markUsed hash) with
  | none => (store, false)
  | some records => (store.storeRecoveryCodeRecords factorId records, true)

def totpFactorForUser (userId : Nat) : Except AuthError TotpFactor :=
  let secret := (store.factorsOf userId).findSome? (fun factor =>
    if factor.enabled && factor.factorType = .totp then
      store.totpSecretsByFactorId.lookup factor.id
    else none)
  match secret with
  | none => .error .totpSecretMissing
  | some secret => .ok ⟨secret, .default⟩

def ensureFactorEnrolled (userId : Nat) (factorType : FactorType) : Except AuthError Unit :=
  if (store.enrolled userId factorType).isSome then .ok () else .error .factorNotEnrolled

/-! What each section leaves of the accounts. -/

section Accounts

/-- The users and their emails. -/
def accounts : Table Nat StoredUser × Table String Nat × Nat :=
  (store.usersById, store.userIdsByEmail, store.nextUserId)

theorem accounts_login (email password : String) (now : Nat) (token : String) :
    (store.login primitives config email password now token).1.accounts = store.accounts := by
  rw [login]
  split
  · rfl
  · split
    · rfl
    · split <;> rfl

theorem accounts_recordMfaSuccess (token : String) (now : Nat) :
    (store.recordMfaSuccess token now).1.accounts = store.accounts := by
  rw [recordMfaSuccess]
  split <;> rfl

theorem accounts_enrollFactor (userId : Nat) (factorType : FactorType) (label : String) :
    (store.enrollFactor userId factorType label).1.accounts = store.accounts := by
  rw [enrollFactor]
  split
  · rfl
  · split <;> rfl

theorem accounts_useRecoveryCode (factorId : Nat) (hash : String) :
    (store.useRecoveryCode factorId hash).1.accounts = store.accounts := by
  rw [useRecoveryCode]
  split <;> rfl

/-- Adding a user fails, or gives the account of the email the role, and makes that account
    where there is none. -/
theorem upsertUser_cases (email password : String) (role : UserRole) :
    (∃ error, store.upsertUser primitives email password role = (store, .error error)) ∨
    (∃ userId stored, store.userIdsByEmail.lookup (normalizeEmail email) = some userId ∧
      store.usersById.lookup userId = some stored ∧
      store.upsertUser primitives email password role =
        ({ store with
            usersById := AList.insert userId
              ⟨{ stored.user with role := role }, passwordHash primitives password⟩
              store.usersById }, .ok { stored.user with role := role })) ∨
    (store.userIdsByEmail.lookup (normalizeEmail email) = none ∧
      store.upsertUser primitives email password role =
        ({ store with
            userIdsByEmail :=
              AList.insert (normalizeEmail email) store.nextUserId store.userIdsByEmail
            usersById := AList.insert store.nextUserId
              ⟨⟨store.nextUserId, normalizeEmail email, role⟩, passwordHash primitives password⟩
              store.usersById
            nextUserId := store.nextUserId + 1 },
          .ok ⟨store.nextUserId, normalizeEmail email, role⟩)) := by
  rw [upsertUser]
  split
  · exact Or.inl ⟨_, rfl⟩
  · split
    · exact Or.inl ⟨_, rfl⟩
    · dsimp only
      split
      · rename_i userId hid
        split
        · exact Or.inl ⟨_, rfl⟩
        · rename_i stored hstored
          exact Or.inr (Or.inl ⟨userId, stored, hid, hstored, rfl⟩)
      · rename_i hnone
        exact Or.inr (Or.inr ⟨hnone, rfl⟩)

end Accounts

/-! What each section leaves of the sessions. -/

section Sessions

theorem sessions_upsertUser (email password : String) (role : UserRole) :
    (store.upsertUser primitives email password role).1.sessionsByToken =
      store.sessionsByToken := by
  rw [upsertUser]
  split
  · rfl
  · split
    · rfl
    · dsimp only
      split
      · split <;> rfl
      · rfl

theorem sessions_enrollFactor (userId : Nat) (factorType : FactorType) (label : String) :
    (store.enrollFactor userId factorType label).1.sessionsByToken = store.sessionsByToken := by
  rw [enrollFactor]
  split
  · rfl
  · split <;> rfl

theorem sessions_useRecoveryCode (factorId : Nat) (hash : String) :
    (store.useRecoveryCode factorId hash).1.sessionsByToken = store.sessionsByToken := by
  rw [useRecoveryCode]
  split <;> rfl

/-- A login opens a session under its token where the hashes agree, or changes nothing. -/
theorem login_cases (email password : String) (now : Nat) (token : String) :
    (∃ error, store.login primitives config email password now token = (store, .error error) ∧
      ∀ userId stored, store.userIdsByEmail.lookup (normalizeEmail email) = some userId →
        store.usersById.lookup userId = some stored →
        stored.passwordHash ≠ passwordHash primitives password) ∨
    ∃ userId stored, store.userIdsByEmail.lookup (normalizeEmail email) = some userId ∧
      store.usersById.lookup userId = some stored ∧
      stored.passwordHash = passwordHash primitives password ∧
      store.login primitives config email password now token =
        ({ store with
            sessionsByToken := AList.insert token
              ⟨stored.user.id, now + config.sessionTtl, none⟩ store.sessionsByToken },
          .ok (stored.user, token)) := by
  rw [login]
  split
  · rename_i hnone
    refine Or.inl ⟨_, rfl, fun userId stored found => ?_⟩
    rw [hnone] at found
    cases found
  · rename_i userId hid
    split
    · rename_i hnone
      refine Or.inl ⟨_, rfl, fun other stored found hstored => ?_⟩
      rw [hid] at found
      cases found
      rw [hnone] at hstored
      cases hstored
    · rename_i stored hstored
      split_ifs with hdiffers
      · refine Or.inl ⟨_, rfl, fun other found hother hfound => ?_⟩
        rw [hid] at hother
        cases hother
        rw [hstored] at hfound
        cases hfound
        exact hdiffers
      · exact Or.inr ⟨userId, stored, hid, hstored, Decidable.not_not.mp hdiffers, rfl⟩

theorem lookup_purge (now : Nat) (token : String) :
    (store.purgeExpiredSessionsLocked now).sessionsByToken.lookup token =
      (store.sessionsByToken.lookup token).filter (fun s => now < s.expiresAt) :=
  Table.lookup_retain ..

/-- A success is recorded on the session of the token, if that has not expired. -/
theorem recordMfaSuccess_cases (token : String) (now : Nat) :
    store.recordMfaSuccess token now =
        (store.purgeExpiredSessionsLocked now, .error .invalidSession) ∧
      (∀ session, store.sessionsByToken.lookup token = some session → session.expiresAt ≤ now) ∨
    ∃ session, store.sessionsByToken.lookup token = some session ∧ now < session.expiresAt ∧
      store.recordMfaSuccess token now =
        ({ store.purgeExpiredSessionsLocked now with
            sessionsByToken := AList.insert token { session with recentMfaAt := some now }
              (store.purgeExpiredSessionsLocked now).sessionsByToken }, .ok ()) := by
  have hlookup : _ = (store.sessionsByToken.lookup token).filter _ := store.lookup_purge now token
  rw [recordMfaSuccess]
  dsimp only
  split
  · rename_i hnone
    refine Or.inl ⟨rfl, fun session found => ?_⟩
    rw [hnone, found] at hlookup
    by_contra hlive
    rw [Option.filter_some_pos (by simpa using hlive)] at hlookup
    cases hlookup
  · rename_i session hsome
    rw [hsome, eq_comm, Option.filter_eq_some_iff] at hlookup
    exact Or.inr ⟨session, hlookup.1, by simpa using hlookup.2, rfl⟩

end Sessions

end AuthStore

end Sunbolt.Auth
