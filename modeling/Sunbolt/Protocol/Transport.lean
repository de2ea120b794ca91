/- Module: Sunbolt/Protocol/Transport
   scope: sunbolt-protocol
   digest: Agent transport envelopes, their payloads and their validation. -/

import Sunbolt.Protocol.Messages

set_option autoImplicit false
set_option relaxedAutoImplicit false

namespace Sunbolt.Protocol

structure AgentTransportMessageId where
  val : Nat
  deriving DecidableEq, Repr

namespace AgentTransportMessageId

def first : AgentTransportMessageId := ⟨1⟩

def next (id : AgentTransportMessageId) : AgentTransportMessageId := ⟨saturatingSucc id.val⟩

def isValid (id : AgentTransportMessageId) : Bool := id.val ≠ 0

end AgentTransportMessageId

structure TerminalOutputSequence where
  val : Nat
  deriving DecidableEq, Repr

namespace TerminalOutputSequence

def first : TerminalOutputSequence := ⟨0⟩

def next (sequence : TerminalOutputSequence) : TerminalOutputSequence :=
  ⟨saturatingSucc sequence.val⟩

end TerminalOutputSequence

structure AgentTransportReconnectPolicy where
  initialBackoffMs : Nat
  maxBackoffMs : Nat
  multiplier : UInt8
  jitterPercent : UInt8
  maxAttempts : Option Nat
  resumeWindowMs : Nat
  deriving DecidableEq, Repr

def AgentTransportReconnectPolicy.productionDefault : AgentTransportReconnectPolicy :=
  ⟨1000, 30000, 2, 20, none, 120000⟩

structure TerminalStreamResumeCursor where
  sessionId : TerminalSessionId
  lastOutputSequence : TerminalOutputSequence
  deriving DecidableEq, Repr

structure AgentTransportResumeRequest where
  previousTransportId : AgentTransportId
  lastReceivedMessageId : AgentTransportMessageId
  terminalSequences : List TerminalStreamResumeCursor
  deriving DecidableEq, Repr

inductive AgentTransportResumeDecision where
  | notRequested
  | accepted
  | rejected (reason : String)
  deriving DecidableEq, Repr

structure AgentTransportClientHello where
  supportedProtocolVersions : List UInt16
  supportedTransports : List AgentTransportKind
  preferredTransport : AgentTransportKind
  agentVersion : String
  credentialFingerprint : String
  credentialProof : String
  resume : Option AgentTransportResumeRequest
  deriving DecidableEq, Repr

structure AgentTransportServerHello where
  acceptedProtocolVersion : UInt16
  selectedTransport : AgentTransportKind
  heartbeatIntervalMs : Nat
  livenessTimeoutMs : Nat
  maxInFlightMessages : Nat
  reconnectPolicy : AgentTransportReconnectPolicy
  resume : AgentTransportResumeDecision
  deriving DecidableEq, Repr

inductive AgentTransportHeartbeat where
  | ping (sentAtUnixMs : Nat)
  | pong (pingMessageId : AgentTransportMessageId) (receivedAtUnixMs : Nat)
  deriving DecidableEq, Repr

inductive AgentTransportErrorCode where
  | unsupportedProtocolVersion
  | unsupportedTransport
  | authenticationFailed
  | nodeRevoked
  | duplicateConnection
  | heartbeatTimeout
  | backpressureLimitExceeded
  | missingMessageId
  | missingTerminalOutputSequence
  | unexpectedTerminalOutputSequence
  | invalidTerminalSequenceOrder
  | malformedMessage
  | internal
  deriving DecidableEq, Repr

structure AgentTransportError where
  code : AgentTransportErrorCode
  message : String
  deriving DecidableEq, Repr

inductive AgentTransportPayload where
  | clientHello (hello : AgentTransportClientHello)
  | serverHello (hello : AgentTransportServerHello)
  | heartbeat (heartbeat : AgentTransportHeartbeat)
  | terminalCommand (command : AgentTerminalCommand)
  | terminalEvent (sequence : Option TerminalOutputSequence) (event : AgentTerminalEvent)
  | error (error : AgentTransportError)
  deriving DecidableEq, Repr

structure AgentTransportEnvelope where
  protocolVersion : UInt16
  messageId : AgentTransportMessageId
  nodeId : NodeId
  transportId : AgentTransportId
  payload : AgentTransportPayload
  deriving DecidableEq, Repr

structure AgentTransportLongPollRequest where
  clientHello : AgentTransportEnvelope
  events : List AgentTransportEnvelope
  deriving DecidableEq, Repr

structure AgentTransportLongPollResponse where
  envelopes : List AgentTransportEnvelope
  retryAfterMs : Nat
  degraded : Bool
  degradedReason : Option String
  deriving DecidableEq, Repr

inductive AgentTransportProtocolError where
  | unsupportedProtocolVersion (received supported : UInt16)
  | missingMessageId
  | missingTerminalOutputSequence
  | unexpectedTerminalOutputSequence
  | invalidTerminalSequenceOrder (previous received : TerminalOutputSequence)
  deriving DecidableEq, Repr

def AgentTransportProtocolError.text : AgentTransportProtocolError → String
  | .unsupportedProtocolVersion received supported =>
    "unsupported protocol version " ++ toString received.toNat ++ "; supported version is " ++
      toString supported.toNat
  | .missingMessageId => "transport message id must be non-zero"
  | .missingTerminalOutputSequence => "terminal output events must include a sequence number"
  | .unexpectedTerminalOutputSequence =>
    "terminal sequence numbers are only valid for terminal output events"
  | .invalidTerminalSequenceOrder previous received =>
    "terminal output sequence " ++ toString received.val ++ " did not follow " ++
      toString previous.val

namespace AgentTransportEnvelope

/-- An envelope of the current protocol version. -/
def current (messageId : AgentTransportMessageId) (nodeId : NodeId)
    (transportId : AgentTransportId) (payload : AgentTransportPayload) :
    AgentTransportEnvelope :=
  ⟨Protocol.protocolVersion, messageId, nodeId, transportId, payload⟩

def validate (envelope : AgentTransportEnvelope) : Except AgentTransportProtocolError Unit :=
  if envelope.protocolVersion ≠ Protocol.protocolVersion then
    .error (.unsupportedProtocolVersion envelope.protocolVersion Protocol.protocolVersion)
  else if !envelope.messageId.isValid then
    .error .missingMessageId
  else
    match envelope.payload with
    | .terminalEvent none (.terminalOutput ..) => .error .missingTerminalOutputSequence
    | .terminalEvent (some _) (.terminalOutput ..) => .ok ()
    | .terminalEvent (some _) _ => .error .unexpectedTerminalOutputSequence
    | _ => .ok ()

end AgentTransportEnvelope

def validateNextTerminalOutputSequence (previous received : TerminalOutputSequence) :
    Except AgentTransportProtocolError Unit :=
  if received = previous.next then .ok ()
  else .error (.invalidTerminalSequenceOrder previous received)

theorem validateNextTerminalOutputSequence_eq_ok {previous received : TerminalOutputSequence} :
    validateNextTerminalOutputSequence previous received = .ok () ↔ received = previous.next := by
  rw [validateNextTerminalOutputSequence]
  split_ifs with h
  · exact iff_of_true rfl h
  · exact iff_of_false (fun heq => by cases heq) h

end Sunbolt.Protocol
