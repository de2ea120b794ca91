/- Module: Sunbolt/Protocol/Messages
   scope: sunbolt-protocol
   digest: Identifiers, browser messages, agent commands and events of the terminal protocol. -/

import Mathlib.Algebra.Group.Nat.Defs
import Mathlib.Data.List.Basic

set_option autoImplicit false
set_option relaxedAutoImplicit false

namespace Sunbolt.Protocol

def protocolVersion : UInt16 := 1

/-- The largest `u64`, where the counters of the protocol saturate. -/
def u64Max : Nat := 2 ^ 64 - 1

def saturatingSucc (n : Nat) : Nat := min (n + 1) u64Max

structure TerminalSessionId where
  val : String
  deriving DecidableEq, Repr

structure TerminalReconnectToken where
  val : String
  deriving DecidableEq, Repr

structure NodeId where
  val : String
  deriving DecidableEq, Repr

structure AgentTransportId where
  val : String
  deriving DecidableEq, Repr

inductive AgentTransportKind where
  | webSocketTlsTcp443
  | http2TlsTcp443
  | quicUdp443
  | longPollHttps
  deriving DecidableEq, Repr

def AgentTransportKind.isRestrictiveNetworkFallback : AgentTransportKind → Bool
  | .longPollHttps => true
  | _ => false

structure TerminalTransportStatus where
  kind : AgentTransportKind
  degraded : Bool
  message : Option String
  deriving DecidableEq, Repr

structure TerminalSize where
  cols : UInt16
  rows : UInt16
  deriving DecidableEq, Repr

structure TerminalExit where
  status : Option Int32
  deriving DecidableEq, Repr

inductive TerminalErrorCode where
  | unauthorized
  | forbidden
  | sessionNotFound
  | sessionExpired
  | invalidMessage
  | terminalUnavailable
  | internal
  deriving DecidableEq, Repr

structure TerminalError where
  code : TerminalErrorCode
  message : String
  deriving DecidableEq, Repr

/-- Browser to control plane. -/
inductive TerminalClientMessage where
  | start (nodeId : Option NodeId) (initialSize : TerminalSize)
  | input (sessionId : TerminalSessionId) (data : String)
  | resize (sessionId : TerminalSessionId) (size : TerminalSize)
  | close (sessionId : TerminalSessionId)
  | terminate (sessionId : TerminalSessionId)
  | detach (sessionId : TerminalSessionId)
  | reattach (sessionId : TerminalSessionId) (reconnectToken : TerminalReconnectToken)
  | ping (nonce : String)
  deriving DecidableEq, Repr

/-- Control plane to browser. -/
inductive TerminalServerMessage where
  | started (sessionId : TerminalSessionId) (nodeId : Option NodeId) (size : TerminalSize)
      (reconnectToken : Option TerminalReconnectToken)
      (transportStatus : Option TerminalTransportStatus)
  | output (sessionId : TerminalSessionId) (sequence : Nat) (data : String)
  | exited (sessionId : TerminalSessionId) (exit : TerminalExit)
  | detached (sessionId : TerminalSessionId)
  | reattached (sessionId : TerminalSessionId) (nodeId : Option NodeId) (size : TerminalSize)
      (reconnectToken : Option TerminalReconnectToken)
      (transportStatus : Option TerminalTransportStatus)
  | error (sessionId : Option TerminalSessionId) (error : TerminalError)
  | pong (nonce : String)
  deriving DecidableEq, Repr

/-- Control plane to agent. -/
inductive AgentTerminalCommand where
  | startTerminal (sessionId : TerminalSessionId) (size : TerminalSize)
  | writeInput (sessionId : TerminalSessionId) (data : String)
  | resizeTerminal (sessionId : TerminalSessionId) (size : TerminalSize)
  | closeTerminal (sessionId : TerminalSessionId)
  deriving DecidableEq, Repr

/-- Agent to control plane. -/
inductive AgentTerminalEvent where
  | terminalStarted (sessionId : TerminalSessionId) (size : TerminalSize)
  | terminalOutput (sessionId : TerminalSessionId) (data : String)
  | terminalExited (sessionId : TerminalSessionId) (exit : TerminalExit)
  | terminalError (sessionId : TerminalSessionId) (error : TerminalError)
  deriving DecidableEq, Repr

def AgentTerminalCommand.sessionId : AgentTerminalCommand → TerminalSessionId
  | .startTerminal sessionId _ => sessionId
  | .writeInput sessionId _ => sessionId
  | .resizeTerminal sessionId _ => sessionId
  | .closeTerminal sessionId => sessionId

def AgentTerminalEvent.sessionId : AgentTerminalEvent → TerminalSessionId
  | .terminalStarted sessionId _ => sessionId
  | .terminalOutput sessionId _ => sessionId
  | .terminalExited sessionId _ => sessionId
  | .terminalError sessionId _ => sessionId

def TerminalServerMessage.isStarted : TerminalServerMessage → Bool
  | .started .. => true
  | _ => false

def TerminalServerMessage.isOutput : TerminalServerMessage → Bool
  | .output .. => true
  | _ => false

def TerminalServerMessage.isExited : TerminalServerMessage → Bool
  | .exited .. => true
  | _ => false

def TerminalServerMessage.isError : TerminalServerMessage → Bool
  | .error .. => true
  | _ => false

def protocolErrorText (code : TerminalErrorCode) (message : String) : TerminalError :=
  ⟨code, message⟩

end Sunbolt.Protocol
