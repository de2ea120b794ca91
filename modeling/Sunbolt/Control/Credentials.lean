/- Module: Sunbolt/Control/Credentials
   scope: sunbolt-control/src/security.rs, sunbolt-control/src/agent/mod.rs
   digest: Random tokens and their hash, node credentials, and the requests of an agent. -/

import Sunbolt.Audit.Chain
import Sunbolt.Control.NodeEnrollment
import Sunbolt.Library.SipHash
import Sunbolt.Library.Utf8Lossy
import Mathlib

set_option autoImplicit false
set_option relaxedAutoImplicit false

namespace Sunbolt.Control

open Sunbolt.Library
open Sunbolt.Audit (hexDigits hexSha256)

/-- What `OsRng` fills the buffer of `random_token` with. -/
abbrev RandomBytes := Vector UInt8 32

def randomToken (bytes : RandomBytes) : String := String.ofList (hexDigits bytes.toList)

/-- `DefaultHasher` is SipHash-1-3 with keys of zeros, and a string ends in a byte that UTF-8
    never uses. -/
@[irreducible]
def tokenHash (token : String) : UInt64 :=
  SipHash.hash 0 0 (Utf8Lossy.encode token.toList ++ [0xff])

def nodeCredentialTtl : Nat := secs (90 * 24 * 60 * 60)

/-- Whole seconds since the epoch; the system clock may stand before it. -/
def unixSecs (system : Int) : Int := min ((system.toNat / 1000000000 : Nat) : Int) (2 ^ 63 - 1)

def credentialExpirationUnixSecs (system : Int) : Int := unixSecs (system + nodeCredentialTtl)

section Digest

/-! The digest of the crate `sha2`, from bytes to bytes. -/

variable (sha256 : ByteArray → List UInt8)

def credentialFingerprint (secret : String) : String :=
  "sha256:" ++ hexSha256 sha256 secret.toByteArray

def credentialProof (nodeId secret : String) : String :=
  credentialFingerprint sha256 ("sunbolt-agent-auth-v1\x00" ++ nodeId ++ "\x00" ++ secret)

/-- The secret and its fingerprint. -/
def generateNodeCredential (bytes : RandomBytes) : String × String :=
  (randomToken bytes, credentialFingerprint sha256 (randomToken bytes))

end Digest

/-! A secret, with the digests that SHA-256 has for it and for its proof on the first node. -/

def sampleBytes : RandomBytes := Vector.replicate 32 1

def sampleDigest (data : ByteArray) : List UInt8 :=
  if data = (randomToken sampleBytes).toByteArray then
    [88, 186, 221, 155, 69, 81, 69, 180, 135, 173, 36, 199, 242, 89, 204, 67,
      124, 196, 255, 208, 120, 71, 22, 132, 82, 73, 50, 31, 181, 150, 28, 252]
  else if data =
      ("sunbolt-agent-auth-v1\x00node-1\x00" ++ randomToken sampleBytes).toByteArray then
    [204, 161, 155, 237, 80, 199, 32, 180, 225, 208, 30, 199, 158, 206, 154, 117,
      212, 229, 224, 62, 147, 101, 227, 111, 158, 127, 37, 194, 103, 115, 83, 89]
  else []

structure AgentEnrollmentRequest where
  token : String
  nodeName : String
  hostname : String
  os : String
  architecture : String
  agentVersion : String
  deriving DecidableEq, Repr

structure AgentEnrollmentResponse where
  nodeId : String
  credentialFingerprint : String
  credentialSecret : String
  credentialExpiresAtUnixSecs : Int
  deriving DecidableEq, Repr

structure AgentHeartbeatRequest where
  nodeId : String
  credentialFingerprint : String
  credentialProof : String
  hostname : String
  os : String
  architecture : String
  agentVersion : String
  deriving DecidableEq, Repr

structure EnrollmentTokenResponse where
  token : String
  expiresInSecs : Nat
  enrollmentCommand : String
  deriving DecidableEq, Repr

structure RotatedNodeCredential where
  credentialFingerprint : String
  credentialSecret : String
  credentialCreatedAtUnixSecs : Int
  credentialExpiresAtUnixSecs : Int
  previousCredentialFingerprint : Option String
  deriving DecidableEq, Repr

structure NodeCredentialRotationResponse where
  node : NodeView
  credential : RotatedNodeCredential
  deriving DecidableEq, Repr

inductive EnrollmentError where
  | invalidToken
  | tokenUsed
  | tokenExpired
  deriving DecidableEq, Repr

end Sunbolt.Control
