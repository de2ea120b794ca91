/- Module: Sunbolt/Auth/Factors
   scope: sunbolt-auth/src/mfa.rs, sunbolt-auth/src/totp.rs
   digest: MFA factors and the TOTP factor. -/

import Sunbolt.Audit.Redaction
import Mathlib.Algebra.Group.Nat.Defs

set_option autoImplicit false
set_option relaxedAutoImplicit false

namespace Sunbolt.Auth

open Sunbolt.Audit (isWhitespace)

/-- `str::trim`. -/
def trim (text : List Char) : List Char :=
  ((text.dropWhile isWhitespace).reverse.dropWhile isWhitespace).reverse

inductive UserRole where
  | admin
  | operator
  | viewer
  deriving DecidableEq, Repr

structure User where
  id : Nat
  email : String
  role : UserRole
  deriving DecidableEq, Repr

inductive FactorType where
  | password
  | totp
  | recoveryCode
  | webAuthn
  | emailOtp
  | hardwareKey
  | adminApproval
  | sshKeySignature
  deriving DecidableEq, Repr

inductive MfaPurpose where
  | login
  | terminalStepUp
  | factorEnrollment
  deriving DecidableEq, Repr

structure AuthContext where
  user : User
  purpose : MfaPurpose

structure AuthFactorEnrollment where
  id : Nat
  userId : Nat
  factorType : FactorType
  label : String
  enabled : Bool
  deriving DecidableEq, Repr

structure FactorChallenge where
  challengeId : String
  userId : Nat
  factorType : FactorType
  purpose : MfaPurpose
  message : String

structure FactorResponse where
  challengeId : String
  factorType : FactorType
  secret : String

structure FactorResult where
  userId : Nat
  factorType : FactorType
  verified : Bool
  deriving DecidableEq, Repr

/-- The errors of the service that are not about a poisoned lock. -/
inductive AuthError where
  | invalidCredentials
  | invalidSession
  | userNotFound
  | invalidFactorLabel
  | factorNotEnrolled
  | factorTypeMismatch
  | factorVerificationFailed
  | totpSecretMissing
  | recoveryCodeInvalid
  | storeUnavailable (what : String)
  deriving DecidableEq, Repr

/-- An implementation of a factor; what it answers may depend on the Unix time of the call. -/
structure AuthFactor where
  factorType : FactorType
  beginChallenge : Nat → AuthContext → Except AuthError FactorChallenge
  verifyChallenge : Nat → AuthContext → FactorResponse → Except AuthError FactorResult

structure TotpConfig where
  issuer : String
  digits : Nat
  periodSecs : Nat
  skewSteps : Nat

def TotpConfig.default : TotpConfig := ⟨"Sunbolt", 6, 30, 1⟩

structure TotpSecret where
  bytes : List UInt8
  deriving DecidableEq, Repr

structure TotpFactor where
  secret : TotpSecret
  config : TotpConfig

/-! One-time codes over the digest of the crate `sha2`. -/

section Codes

variable (sha256 : List UInt8 → List UInt8)

def hmacBlockSize : Nat := 64

/-- A longer key is hashed first; the block is filled with zeros. -/
def keyBlock (key : List UInt8) : List UInt8 :=
  let key := if key.length > hmacBlockSize then sha256 key else key
  key ++ List.replicate (hmacBlockSize - key.length) 0

def hmacSha256 (key message : List UInt8) : List UInt8 :=
  let block := keyBlock sha256 key
  sha256 (block.map (0x5c ^^^ ·) ++ sha256 (block.map (0x36 ^^^ ·) ++ message))

/-- The eight bytes of a `u64`, the highest first. -/
def toBeBytes (n : Nat) : List UInt8 :=
  (List.range 8).map (fun i => UInt8.ofNat (n / 256 ^ (7 - i)))

def byteAt (bytes : List UInt8) (i : Nat) : Nat := (bytes.getD i 0).toNat

/-- The source computes the modulus as a `u32`, which is exact up to nine digits. -/
def hotpSha256 (secret : List UInt8) (counter digits : Nat) : String :=
  let hmac := hmacSha256 sha256 secret (toBeBytes counter)
  let offset := byteAt hmac (hmac.length - 1) % 16
  let binary := byteAt hmac offset % 128 * 256 ^ 3 + byteAt hmac (offset + 1) * 256 ^ 2 +
    byteAt hmac (offset + 2) * 256 + byteAt hmac (offset + 3)
  let code := Nat.toDigits 10 (binary % 10 ^ digits)
  String.ofList (List.replicate (digits - code.length) '0' ++ code)

def TotpFactor.codeAt (factor : TotpFactor) (unixTimeSecs : Nat) : String :=
  hotpSha256 sha256 factor.secret.bytes (unixTimeSecs / max factor.config.periodSecs 1)
    factor.config.digits

/-- The counters around the one of the given time, within the range of a `u64`. -/
def TotpFactor.counters (factor : TotpFactor) (unixTimeSecs : Nat) : List Nat :=
  let counter := unixTimeSecs / max factor.config.periodSecs 1
  let first := counter - factor.config.skewSteps
  let last := min (counter + factor.config.skewSteps) (2 ^ 64 - 1)
  List.range' first (last + 1 - first)

def TotpFactor.verifyCodeAt (factor : TotpFactor) (code : String) (unixTimeSecs : Nat) : Bool :=
  (factor.counters unixTimeSecs).any (fun candidate =>
    hotpSha256 sha256 factor.secret.bytes candidate factor.config.digits = code)

/-- The TOTP factor as a factor of the pipeline; the challenge names the user and the time. -/
def TotpFactor.authFactor (factor : TotpFactor) : AuthFactor where
  factorType := .totp
  beginChallenge now ctx := .ok
    { challengeId := "totp-" ++ toString ctx.user.id ++ "-" ++ toString now
      userId := ctx.user.id
      factorType := .totp
      purpose := ctx.purpose
      message := "Enter the code from your authenticator app" }
  verifyChallenge now ctx response := .ok
    { userId := ctx.user.id
      factorType := .totp
      verified := factor.verifyCodeAt sha256 (String.ofList (trim response.secret.toList)) now }

end Codes

end Sunbolt.Auth
