/- Module: Sunbolt/Auth/Passkeys
   scope: sunbolt-auth/src/lib.rs, sunbolt-auth/src/passkeys.rs
   digest: Registering passkeys, and when a registration that fails leaves the store alone. -/

import Sunbolt.Auth.RecoveryCodes
import Sunbolt.Library.Sha256

set_option autoImplicit false
set_option relaxedAutoImplicit false

namespace Sunbolt.Auth

open Sunbolt.Library

structure PasskeyCredential where
  id : Nat
  userId : Nat
  credentialId : String
  publicKey : String
  label : String
  enabled : Bool
  deriving DecidableEq, Repr

structure PasskeyRegistrationChallenge where
  challengeId : String
  userId : Nat
  userEmail : String
  relyingPartyId : String
  relyingPartyName : String
  origin : String
  challenge : String
  deriving DecidableEq, Repr

/-- The errors of the passkey operations: the three that only they have, and the others. -/
inductive PasskeyError where
  | invalidPasskeyRelyingParty
  | invalidPasskeyCredential
  | passkeyChallengeNotFound
  | auth (error : AuthError)
  deriving DecidableEq, Repr

/-- The store with the tables of the passkeys. -/
structure PasskeyStore extends AuthStore where
  passkeyRegistrationChallengesById : Table String PasskeyRegistrationChallenge
  passkeyCredentialsById : Table Nat PasskeyCredential
  passkeyCredentialIdsByUserId : Table Nat (List Nat)
  nextPasskeyCredentialId : Nat

def PasskeyStore.default : PasskeyStore := ⟨.default, ∅, ∅, ∅, 1⟩

/-! Challenges. -/

def base64urlAlphabet : List Char :=
  "ABCDEFGHIJKLMNOPQRSTUVWXYZabcdefghijklmnopqrstuvwxyz0123456789-_".toList

/-- The digit of the six bits from the given one on. -/
def base64urlDigit (chunk shift : Nat) : Char :=
  base64urlAlphabet.getD (chunk >>> shift &&& 0x3f) 'A'

/-- Three bytes are four digits; what is left over is encoded without padding. -/
def base64urlEncode : List UInt8 → List Char
  | a :: b :: c :: rest =>
    let chunk := a.toNat <<< 16 ||| b.toNat <<< 8 ||| c.toNat
    base64urlDigit chunk 18 :: base64urlDigit chunk 12 :: base64urlDigit chunk 6 ::
      base64urlDigit chunk 0 :: base64urlEncode rest
  | [a, b] =>
    let chunk := a.toNat <<< 16 ||| b.toNat <<< 8
    [base64urlDigit chunk 18, base64urlDigit chunk 12, base64urlDigit chunk 6]
  | [a] =>
    let chunk := a.toNat <<< 16
    [base64urlDigit chunk 18, base64urlDigit chunk 12]
  | [] => []

example : base64urlEncode [115, 117, 110, 98, 111, 108, 116] = "c3VuYm9sdA".toList := by
  decide +kernel

/-- `registration_challenge`, for the bytes that are drawn. -/
def registrationChallenge (userId : Nat) (userEmail relyingPartyId relyingPartyName origin : String)
    (bytes : Vector UInt8 32) : PasskeyRegistrationChallenge :=
  let challenge := String.ofList (base64urlEncode bytes.toList)
  { challengeId := "passkey-registration-" ++ toString userId ++ "-" ++ challenge
    userId := userId
    userEmail := userEmail
    relyingPartyId := relyingPartyId
    relyingPartyName := relyingPartyName
    origin := origin
    challenge := challenge }

/-! The operations. -/

def AuthStore.passkeyFactorForUser (store : AuthStore) (userId : Nat) :
    Option AuthFactorEnrollment :=
  store.enrolled userId .webAuthn

/-- The factor of the passkeys of a user, which is enrolled where there is none. -/
def AuthStore.ensurePasskeyFactor (store : AuthStore) (userId : Nat) :
    AuthStore × Except AuthError AuthFactorEnrollment :=
  match store.passkeyFactorForUser userId with
  | some factor => (store, .ok factor)
  | none => store.enrollFactor userId .webAuthn "Passkeys"

def blank (text : String) : Bool := trim text.toList = []

namespace PasskeyStore

variable (store : PasskeyStore)

def beginPasskeyRegistration (user : User) (relyingPartyId origin : String)
    (bytes : Vector UInt8 32) :
    PasskeyStore × Except PasskeyError PasskeyRegistrationChallenge :=
  if blank relyingPartyId || blank origin then (store, .error .invalidPasskeyRelyingParty)
  else
    let challenge :=
      registrationChallenge user.id user.email relyingPartyId "Sunbolt" origin bytes
    ({ store with
        passkeyRegistrationChallengesById := AList.insert challenge.challengeId challenge
          store.passkeyRegistrationChallengesById }, .ok challenge)

/-- The last critical section of `register_passkey_credential`: take the challenge, and store the
    credential if it is the user's. -/
def takePasskeyChallenge (factor : AuthFactorEnrollment) (userId : Nat)
    (challengeId credentialId publicKey label : String) :
    PasskeyStore × Except PasskeyError PasskeyCredential :=
  match store.passkeyRegistrationChallengesById.lookup challengeId with
  | none => (store, .error .passkeyChallengeNotFound)
  | some challenge =>
    let store := { store with
      passkeyRegistrationChallengesById :=
        AList.erase challengeId store.passkeyRegistrationChallengesById }
    if challenge.userId ≠ userId then (store, .error .passkeyChallengeNotFound)
    else
      let credential : PasskeyCredential :=
        ⟨store.nextPasskeyCredentialId, userId, credentialId, publicKey,
          String.ofList (trim label.toList), true⟩
      ({ store with
          nextPasskeyCredentialId := store.nextPasskeyCredentialId + 1
          passkeyCredentialIdsByUserId :=
            store.passkeyCredentialIdsByUserId.push userId credential.id
          passkeyCredentialsById :=
            AList.insert credential.id credential store.passkeyCredentialsById
          authFactorsById := AList.insert factor.id factor store.authFactorsById },
        .ok credential)

def registerPasskeyCredential (userId : Nat)
    (challengeId credentialId publicKey label : String) :
    PasskeyStore × Except PasskeyError PasskeyCredential :=
  if blank label || blank credentialId || blank publicKey then
    (store, .error .invalidPasskeyCredential)
  else
    match store.ensurePasskeyFactor userId with
    | (next, .error error) => ({ store with toAuthStore := next }, .error (.auth error))
    | (next, .ok factor) =>
      { store with toAuthStore := next }.takePasskeyChallenge factor userId challengeId
        credentialId publicKey label

/-- What a failed registration is not to change: the factors, the challenges that are pending, and
    the credentials. -/
def registrations : (Table Nat AuthFactorEnrollment × Table Nat (List Nat)) ×
    Table String PasskeyRegistrationChallenge × Table Nat PasskeyCredential ×
    Table Nat (List Nat) :=
  ((store.authFactorsById, store.factorIdsByUserId), store.passkeyRegistrationChallengesById,
    store.passkeyCredentialsById, store.passkeyCredentialIdsByUserId)

/-- The challenge is pending, and it is the user's. -/
def OwnsChallenge (userId : Nat) (challengeId : String) : Prop :=
  ∃ challenge, store.passkeyRegistrationChallengesById.lookup challengeId = some challenge ∧
    challenge.userId = userId

def FailureChangesNothing (userId : Nat)
    (challengeId credentialId publicKey label : String) : Prop :=
  ∀ error,
    (store.registerPasskeyCredential userId challengeId credentialId publicKey label).2 =
      .error error →
    (store.registerPasskeyCredential userId challengeId credentialId publicKey
      label).1.registrations = store.registrations

end PasskeyStore

section Failures

variable {store : PasskeyStore} {userId : Nat}
  {challengeId credentialId publicKey label : String}

/-- The factor is there, the user is unknown, or a factor is added to the list of the user. -/
theorem ensurePasskeyFactor_cases (store : AuthStore) (userId : Nat) :
    (∃ factor, store.passkeyFactorForUser userId = some factor ∧
      store.ensurePasskeyFactor userId = (store, .ok factor)) ∨
    (store.passkeyFactorForUser userId = none ∧ store.usersById.lookup userId = none ∧
      store.ensurePasskeyFactor userId = (store, .error .userNotFound)) ∨
    (store.passkeyFactorForUser userId = none ∧ store.usersById.lookup userId ≠ none ∧
      ∃ next factor, store.ensurePasskeyFactor userId = (next, .ok factor) ∧
        next.factorIdsByUserId ≠ store.factorIdsByUserId) := by
  rw [AuthStore.ensurePasskeyFactor]
  cases hfactor : store.passkeyFactorForUser userId with
  | some factor => exact Or.inl ⟨factor, rfl, rfl⟩
  | none =>
    cases huser : store.usersById.lookup userId with
    | none =>
      refine Or.inr (Or.inl ⟨rfl, rfl, ?_⟩)
      simp only [AuthStore.enrollFactor, huser]
      rfl
    | some user =>
      refine Or.inr (Or.inr ⟨rfl, Option.some_ne_none user, ?_⟩)
      simp only [AuthStore.enrollFactor, huser]
      exact ⟨_, _, rfl, Table.push_ne _ _ _⟩

theorem takePasskeyChallenge_ok (factor : AuthFactorEnrollment)
    (h : store.OwnsChallenge userId challengeId) :
    ∃ credential, (store.takePasskeyChallenge factor userId challengeId credentialId publicKey
      label).2 = .ok credential := by
  obtain ⟨challenge, hlookup, rfl⟩ := h
  simp only [PasskeyStore.takePasskeyChallenge, hlookup, ne_eq, not_true, if_false]
  exact ⟨_, rfl⟩

theorem takePasskeyChallenge_error (factor : AuthFactorEnrollment)
    (h : ¬store.OwnsChallenge userId challengeId) :
    store.takePasskeyChallenge factor userId challengeId credentialId publicKey label =
      ({ store with
          passkeyRegistrationChallengesById :=
            AList.erase challengeId store.passkeyRegistrationChallengesById },
        .error .passkeyChallengeNotFound) := by
  rw [PasskeyStore.takePasskeyChallenge]
  cases hlookup : store.passkeyRegistrationChallengesById.lookup challengeId with
  | none => rw [Table.erase_eq_self_iff.mpr hlookup]
  | some challenge => exact if_pos (fun huser => h ⟨challenge, hlookup, huser⟩)

/-- Once the factor is there, a failure changes nothing exactly if no challenge is lost. -/
theorem takePasskeyChallenge_unchanged_iff (factor : AuthFactorEnrollment) :
    (∀ error, (store.takePasskeyChallenge factor userId challengeId credentialId publicKey
        label).2 = .error error →
      (store.takePasskeyChallenge factor userId challengeId credentialId publicKey
        label).1.registrations = store.registrations) ↔
      store.OwnsChallenge userId challengeId ∨
      store.passkeyRegistrationChallengesById.lookup challengeId = none := by
  by_cases howns : store.OwnsChallenge userId challengeId
  · obtain ⟨credential, hok⟩ := takePasskeyChallenge_ok factor howns
    rw [hok]
    exact iff_of_true nofun (Or.inl howns)
  · rw [takePasskeyChallenge_error factor howns, ← Table.erase_eq_self_iff]
    simp [PasskeyStore.registrations, howns]

/-- A failed registration changes nothing exactly in these cases: a text is blank, the challenge is
    the user's, the factor is missing and cannot be enrolled, or it is there already and no
    challenge is pending under the id. -/
theorem passkey_failure_changes_nothing_iff (store : PasskeyStore) (userId : Nat)
    (challengeId credentialId publicKey label : String) :
    store.FailureChangesNothing userId challengeId credentialId publicKey label ↔
      (blank label || blank credentialId || blank publicKey) = true ∨
      store.OwnsChallenge userId challengeId ∨
      (store.passkeyFactorForUser userId = none ∧ store.usersById.lookup userId = none) ∨
      (store.passkeyFactorForUser userId ≠ none ∧
        store.passkeyRegistrationChallengesById.lookup challengeId = none) := by
  rw [PasskeyStore.FailureChangesNothing, PasskeyStore.registerPasskeyCredential]
  by_cases hblank : (blank label || blank credentialId || blank publicKey) = true
  · simp [hblank]
  rw [if_neg hblank]
  rcases ensurePasskeyFactor_cases store.toAuthStore userId with
    ⟨factor, hfactor, heq⟩ | ⟨hnone, huser, heq⟩ | ⟨hnone, huser, next, factor, heq, hne⟩
  · simp only [heq, takePasskeyChallenge_unchanged_iff factor]
    simp [hblank, hfactor]
  · simp only [heq]
    exact iff_of_true (fun _ _ => trivial) (Or.inr (Or.inr (Or.inl ⟨hnone, huser⟩)))
  · simp only [heq]
    by_cases howns : store.OwnsChallenge userId challengeId
    · obtain ⟨credential, hok⟩ :=
        @takePasskeyChallenge_ok { store with toAuthStore := next } userId challengeId credentialId
          publicKey label factor howns
      rw [hok]
      exact iff_of_true nofun (Or.inr (Or.inl howns))
    · rw [@takePasskeyChallenge_error { store with toAuthStore := next } userId challengeId
        credentialId publicKey label factor howns]
      refine iff_of_false (fun h => hne ?_) (by simp [hblank, howns, hnone, huser])
      exact congrArg (·.1.2) (h _ rfl)

end Failures

/-- The first of two users has begun a registration. -/
private def begun : PasskeyStore × Except PasskeyError PasskeyRegistrationChallenge :=
  let primitives : Primitives := ⟨Sha256.sha256, fun c => [c.toLower]⟩
  let first := AuthStore.default.upsertUser primitives "ops@x" "p" .operator
  let second := first.1.upsertUser primitives "dev@x" "p" .operator
  { PasskeyStore.default with toAuthStore := second.1 }.beginPasskeyRegistration
    ⟨1, "ops@x", .operator⟩ "localhost" "http://localhost:3000" (.replicate 32 0)

private def begunId : String :=
  "passkey-registration-1-" ++ String.ofList (List.replicate 43 'A')

/-- The other user fails with that challenge, and it is gone; a factor is enrolled instead. -/
theorem failed_registration_takes_challenge :
    (begun.1.registerPasskeyCredential 2 begunId "c" "k" "Laptop").2.toOption = none ∧
    begun.1.OwnsChallenge 1 begunId ∧
    ¬begun.1.FailureChangesNothing 2 begunId "c" "k" "Laptop" := by
  have hfailed : (begun.1.registerPasskeyCredential 2 begunId "c" "k" "Laptop").2 =
      .error .passkeyChallengeNotFound := by
    decide +kernel
  refine ⟨by rw [hfailed]; rfl, ?_, fun h => ?_⟩
  · have hpending : (begun.1.passkeyRegistrationChallengesById.lookup begunId).map (·.userId) =
        some 1 := by
      decide +kernel
    exact Option.map_eq_some_iff.mp hpending
  · have hlost := congrArg (fun r => (AList.lookup begunId r.2.1).isSome) (h _ hfailed)
    revert hlost
    decide +kernel

end Sunbolt.Auth
