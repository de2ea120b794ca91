/- Module: Sunbolt/Audit/Chain
   scope: sunbolt-audit/src/chain.rs
   digest: The audit log, its hash chain, and what the chain check detects. -/

import Sunbolt.Audit.Redaction
import Sunbolt.Library.HashChain

set_option autoImplicit false
set_option relaxedAutoImplicit false

namespace Sunbolt.Audit

open Sunbolt.Library

inductive AuditEventKind where
  | userLoginSuccess
  | userLoginFailed
  | userLogout
  | userMfaChallenge
  | userMfaSuccess
  | terminalOpened
  | terminalDetached
  | terminalReattached
  | terminalTerminated
  | terminalClosed
  | terminalFailed
  | agentTransportNegotiated
  | agentConnected
  | agentDisconnected
  | agentAuthenticationFailed
  | nodeEnrolled
  | nodeCredentialRotated
  | nodeRevoked
  | routeSelected
  | routeFailed
  deriving DecidableEq, Repr

def AuditEventKind.asStr : AuditEventKind → String
  | .userLoginSuccess => "user.login.success"
  | .userLoginFailed => "user.login.failed"
  | .userLogout => "user.logout"
  | .userMfaChallenge => "user.mfa.challenge"
  | .userMfaSuccess => "user.mfa.success"
  | .terminalOpened => "terminal.opened"
  | .terminalDetached => "terminal.detached"
  | .terminalReattached => "terminal.reattached"
  | .terminalTerminated => "terminal.terminated"
  | .terminalClosed => "terminal.closed"
  | .terminalFailed => "terminal.failed"
  | .agentTransportNegotiated => "agent.transport.negotiated"
  | .agentConnected => "agent.connected"
  | .agentDisconnected => "agent.disconnected"
  | .agentAuthenticationFailed => "agent.authentication.failed"
  | .nodeEnrolled => "node.enrolled"
  | .nodeCredentialRotated => "node.credential.rotated"
  | .nodeRevoked => "node.revoked"
  | .routeSelected => "route.selected"
  | .routeFailed => "route.failed"

/-- An event of the chain; the counters are `u64`s. -/
structure AuditEvent where
  id : UInt64
  kind : AuditEventKind
  actorEmail : Option String
  message : String
  createdAtUnixSecs : UInt64
  previousHash : String
  eventHash : String
  deriving DecidableEq, Repr

structure AuditEventInput where
  kind : AuditEventKind
  actorEmail : Option String
  message : String
  deriving DecidableEq, Repr

def genesisHash : String :=
  "0000000000000000000000000000000000000000000000000000000000000000"

/-- The text that `compute_event_hash` hashes. -/
def canonicalText (id : UInt64) (kindStr : String) (actorEmail : Option String)
    (message : String) (createdAtUnixSecs : UInt64) (previousHash : String) : String :=
  previousHash ++ ":" ++ toString id.toNat ++ ":" ++ kindStr ++ ":" ++ actorEmail.getD "" ++
    ":" ++ message ++ ":" ++ toString createdAtUnixSecs.toNat

def hexDigit (n : UInt8) : Char :=
  ("0123456789abcdef".toList[n.toNat]?).getD '0'

/-- Two digits for each byte, the high half first. -/
def hexDigits (bytes : List UInt8) : List Char :=
  bytes.flatMap (fun byte : UInt8 => [hexDigit (byte / 16), hexDigit (byte % 16)])

section Hashing

/-! The digest of the crate `sha2`, from bytes to bytes. -/

variable (sha256 : ByteArray → List UInt8)

def hexSha256 (data : ByteArray) : String := String.ofList (hexDigits (sha256 data))

def computeEventHash (id : UInt64) (kindStr : String) (actorEmail : Option String)
    (message : String) (createdAtUnixSecs : UInt64) (previousHash : String) : String :=
  hexSha256 sha256
    (canonicalText id kindStr actorEmail message createdAtUnixSecs previousHash).toByteArray

/-- `compute_event_hash` over the stored fields of an event. -/
def AuditEvent.expectedHash (event : AuditEvent) : String :=
  computeEventHash sha256 event.id event.kind.asStr event.actorEmail event.message
    event.createdAtUnixSecs event.previousHash

/-- The loop of `verify_chain`. -/
def verifyFrom (expectedPrevious : String) : List AuditEvent → Bool
  | [] => true
  | event :: events =>
    if event.previousHash ≠ expectedPrevious then false
    else if event.eventHash ≠ event.expectedHash sha256 then false
    else verifyFrom event.eventHash events

def verifyChain (events : List AuditEvent) : Bool := verifyFrom sha256 genesisHash events

structure AuditLogState where
  events : List AuditEvent
  lastHash : String
  nextId : UInt64
  deriving DecidableEq, Repr

def AuditLogState.new : AuditLogState := ⟨[], genesisHash, 1⟩

/-- `AuditLog::record`; the clock is read before the lock is taken. -/
def AuditLogState.record (state : AuditLogState) (createdAt : UInt64) (input : AuditEventInput) :
    AuditLogState :=
  let message := redactSensitive input.message
  let eventHash := computeEventHash sha256 state.nextId input.kind.asStr input.actorEmail message
    createdAt state.lastHash
  { events := state.events ++
      [{ id := state.nextId, kind := input.kind, actorEmail := input.actorEmail,
         message := message, createdAtUnixSecs := createdAt, previousHash := state.lastHash,
         eventHash := eventHash }]
    lastHash := eventHash
    nextId := state.nextId + 1 }

/-- A log after these calls of `record`, each with the clock it read. -/
def recordAll (calls : List (UInt64 × AuditEventInput)) : AuditLogState :=
  calls.foldl (fun state call => state.record sha256 call.1 call.2) .new

def AuditLogState.verifyIntegrity (state : AuditLogState) : Bool := verifyChain sha256 state.events

end Hashing

def AuditEvent.canonical (event : AuditEvent) : String :=
  canonicalText event.id event.kind.asStr event.actorEmail event.message
    event.createdAtUnixSecs event.previousHash

end Sunbolt.Audit
