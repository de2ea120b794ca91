/- Module: Sunbolt/Control/AuthState
   scope: sunbolt-control/src/state.rs, sunbolt-control/src/config.rs
   digest: The state the auth handlers share, and every atomic access one of them makes to it. -/

import Sunbolt.Auth.AuthStore
import Sunbolt.Control.NodeEnrollment
import Sunbolt.Control.RateLimiter
import Sunbolt.Library.Pool

set_option autoImplicit false
set_option relaxedAutoImplicit false

namespace Sunbolt.Control

open Sunbolt.Library
open Sunbolt.Auth (AuthStore AuthConfig AuthError AuthFactorEnrollment FactorResult FactorType
  Primitives StoredRecoveryCode TotpFactor TotpSecret User UserRole)

def defaultLoginRateWindow : Nat := secs (15 * 60)
def defaultLoginRateMax : Nat := 10
def defaultMfaRateWindow : Nat := secs (5 * 60)
def defaultMfaRateMax : Nat := 5

/-- What the auth handlers share; `clock` is the last instant that a call has read. -/
structure AuthState where
  store : AuthStore
  loginRateLimiter : SlidingWindowRateLimiter
  mfaRateLimiter : SlidingWindowRateLimiter
  audit : List Sunbolt.Audit.AuditEventInput
  clock : Nat

/-- The state of a service that no account has been added to yet. -/
def AuthState.new : AuthState where
  store := .default
  loginRateLimiter := .new defaultLoginRateWindow defaultLoginRateMax
  mfaRateLimiter := .new defaultMfaRateWindow defaultMfaRateMax
  audit := []
  clock := 0

/-- An HTTP response: its body, and the cookie it sets. -/
inductive AuthResponse where
  | user (user : User) (setCookie : Option String)
  | stepUpMfa (accepted : Bool) (factorType : FactorType)
  | terminalAccess (accepted : Bool)
  | error (status : Nat) (error : String)
  deriving DecidableEq

/-- What the environment decides about a call: the clock, and what is drawn at random. -/
inductive AuthChoice where
  | none
  | clock (now : Nat)
  | token (token : String)
  | codes (codes : List String)

/-- The critical sections of the auth service and of the limiters, the clocks, and what a caller
    sees: an HTTP response, or the result of a verification. -/
inductive AuthAction where
  | instant
  | unixTime
  | checkLogin (key : String)
  | checkMfa (key : String)
  | upsertUser (email password : String) (role : UserRole)
  | login (email password : String) (now : Nat)
  | currentUser (token : String)
  | logout (token : String)
  | hasRecentMfa (token : String)
  | recordMfaSuccess (token : String)
  | enrollFactor (userId : Nat) (factorType : FactorType) (label : String)
  | insertTotpSecret (userId factorId : Nat) (secret : TotpSecret)
  | freshRecoveryCodes
  | storeRecoveryCodeRecords (factorId : Nat) (records : List StoredRecoveryCode)
  | recoveryCodeFactorForUser (userId : Nat)
  | useRecoveryCode (factorId : Nat) (hash : String)
  | totpFactorForUser (userId : Nat)
  | ensureFactorEnrolled (userId : Nat) (factorType : FactorType)
  | audit (input : Sunbolt.Audit.AuditEventInput)
  | respond (response : AuthResponse)
  | returned (result : Except AuthError FactorResult)

abbrev AuthReply : AuthAction → Type
  | .instant => Nat
  | .unixTime => Nat
  | .checkLogin _ => Bool
  | .checkMfa _ => Bool
  | .upsertUser .. => Except AuthError User
  | .login .. => Except AuthError (User × String)
  | .currentUser _ => Option User
  | .logout _ => Unit
  | .hasRecentMfa _ => Bool
  | .recordMfaSuccess _ => Except AuthError Unit
  | .enrollFactor .. => Except AuthError AuthFactorEnrollment
  | .insertTotpSecret .. => Except AuthError String
  | .freshRecoveryCodes => List String
  | .storeRecoveryCodeRecords .. => Unit
  | .recoveryCodeFactorForUser _ => Option AuthFactorEnrollment
  | .useRecoveryCode .. => Bool
  | .totpFactorForUser _ => Except AuthError TotpFactor
  | .ensureFactorEnrolled .. => Except AuthError Unit
  | .audit _ => Unit
  | .respond _ => Unit
  | .returned _ => Unit

namespace AuthState

variable (state : AuthState)

/-- A call that reads the monotonic clock. -/
def atInstant {α : Type} (now : Nat) (f : AuthState → α × AuthState) : Option (α × AuthState) :=
  if state.clock ≤ now then some (f { state with clock := now }) else none

/-- A call that does something to the store, and replies. -/
def onStore {α : Type} (out : AuthStore × α) : α × AuthState :=
  (out.2, { state with store := out.1 })

end AuthState

section Perform

variable (primitives : Primitives) (config : AuthConfig)

/-- Each call reads the clock once, inside its critical section. -/
def performAuth (state : AuthState) :
    (action : AuthAction) → AuthChoice → Option (AuthReply action × AuthState)
  | .instant, .clock now => state.atInstant now (fun state => (now, state))
  | .unixTime, .clock now => some (now, state)
  | .checkLogin key, .clock now => state.atInstant now (fun state =>
    let (limiter, allowed) := state.loginRateLimiter.checkAndRecord key now
    (allowed, { state with loginRateLimiter := limiter }))
  | .checkMfa key, .clock now => state.atInstant now (fun state =>
    let (limiter, allowed) := state.mfaRateLimiter.checkAndRecord key now
    (allowed, { state with mfaRateLimiter := limiter }))
  | .upsertUser email password role, .none =>
    some (state.onStore (state.store.upsertUser primitives email password role))
  | .login email password now, .token token =>
    some (state.onStore (state.store.login primitives config email password now token))
  | .currentUser token, .clock now => state.atInstant now (fun state =>
    state.onStore (state.store.currentUser token now))
  | .logout token, .none => some ((), { state with store := state.store.logout token })
  | .hasRecentMfa token, .clock now => state.atInstant now (fun state =>
    state.onStore (state.store.hasRecentMfa config token now))
  | .recordMfaSuccess token, .clock now => state.atInstant now (fun state =>
    state.onStore (state.store.recordMfaSuccess token now))
  | .enrollFactor userId factorType label, .none =>
    some (state.onStore (state.store.enrollFactor userId factorType label))
  | .insertTotpSecret userId factorId secret, .none =>
    some (state.onStore (state.store.insertTotpSecret userId factorId secret))
  | .freshRecoveryCodes, .codes codes => some (codes, state)
  | .storeRecoveryCodeRecords factorId records, .none =>
    some ((), { state with store := state.store.storeRecoveryCodeRecords factorId records })
  | .recoveryCodeFactorForUser userId, .none =>
    some (state.store.recoveryCodeFactorForUser userId, state)
  | .useRecoveryCode factorId hash, .none =>
    some (state.onStore (state.store.useRecoveryCode factorId hash))
  | .totpFactorForUser userId, .none => some (state.store.totpFactorForUser userId, state)
  | .ensureFactorEnrolled userId factorType, .none =>
    some (state.store.ensureFactorEnrolled userId factorType, state)
  | .audit input, .none => some ((), { state with audit := state.audit ++ [input] })
  | .respond _, .none => some ((), state)
  | .returned _, .none => some ((), state)
  | _, _ => none

end Perform

/-- A handler of the auth routes, or a function of the auth service. -/
abbrev AuthProgram := Program AuthAction AuthReply

def auth (action : AuthAction) : AuthProgram (AuthReply action) :=
  Program.perform (R := AuthReply) action

end Sunbolt.Control
