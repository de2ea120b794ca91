/- Module: Sunbolt/Agent/Identity
   scope: sunbolt-agent/src/lib.rs
   digest: The identity of an enrolled agent and the messages it builds from it. -/

import Sunbolt.Audit.Chain
import Sunbolt.Protocol.Transport

set_option autoImplicit false
set_option relaxedAutoImplicit false

namespace Sunbolt.Agent

open Sunbolt.Protocol

structure LocalNodeInfo where
  hostname : String
  os : String
  architecture : String
  agentVersion : String
  deriving DecidableEq, Repr

structure AgentNodeIdentity where
  nodeId : String
  credentialFingerprint : String
  credentialSecret : String
  credentialExpiresAtUnixSecs : Int
  agentVersion : String
  deriving DecidableEq, Repr

inductive AgentHeartbeatStatus where
  | online
  deriving DecidableEq, Repr

structure AgentHeartbeatMessage where
  nodeId : String
  credentialFingerprint : String
  credentialProof : String
  hostname : String
  os : String
  architecture : String
  agentVersion : String
  status : AgentHeartbeatStatus
  deriving DecidableEq, Repr

/-- The agent's side of its connection; the node id is the one of its heartbeat. -/
structure AgentConnection where
  nodeId : String

def AgentConnection.transportId (connection : AgentConnection) : AgentTransportId :=
  ⟨connection.nodeId ++ "-outbound"⟩

/-- The connection with the heartbeat it is prepared with. -/
structure PreparedConnection where
  controlPlaneUrl : String
  heartbeat : AgentHeartbeatMessage
  deriving DecidableEq, Repr

section Digest

/-! The digest of the crate `sha2`, from bytes to bytes. -/

variable (sha256 : ByteArray → List UInt8)

def credentialFingerprint (secret : String) : String :=
  "sha256:" ++ String.ofList (Audit.hexDigits (sha256 secret.toByteArray))

def credentialProof (nodeId secret : String) : String :=
  credentialFingerprint sha256 ("sunbolt-agent-auth-v1\x00" ++ nodeId ++ "\x00" ++ secret)

def AgentHeartbeatMessage.fromNodeIdentity (nodeId credentialFingerprint credentialSecret : String)
    (nodeInfo : LocalNodeInfo) : AgentHeartbeatMessage where
  credentialProof := Agent.credentialProof sha256 nodeId credentialSecret
  nodeId := nodeId
  credentialFingerprint := credentialFingerprint
  hostname := nodeInfo.hostname
  os := nodeInfo.os
  architecture := nodeInfo.architecture
  agentVersion := nodeInfo.agentVersion
  status := .online

namespace PreparedConnection

def new (controlPlaneUrl : String) (identity : AgentNodeIdentity) (nodeInfo : LocalNodeInfo) :
    PreparedConnection where
  controlPlaneUrl := controlPlaneUrl
  heartbeat := .fromNodeIdentity sha256 identity.nodeId identity.credentialFingerprint
    identity.credentialSecret nodeInfo

end PreparedConnection

end Digest

namespace PreparedConnection

variable (connection : PreparedConnection)

def agentConnection : AgentConnection := ⟨connection.heartbeat.nodeId⟩

def transportClientHello : AgentTransportClientHello where
  supportedProtocolVersions := [protocolVersion]
  supportedTransports := [.quicUdp443, .webSocketTlsTcp443, .http2TlsTcp443, .longPollHttps]
  preferredTransport := .quicUdp443
  agentVersion := connection.heartbeat.agentVersion
  credentialFingerprint := connection.heartbeat.credentialFingerprint
  credentialProof := connection.heartbeat.credentialProof
  resume := none

def transportClientHelloEnvelope : AgentTransportEnvelope :=
  .current .first ⟨connection.heartbeat.nodeId⟩ connection.agentConnection.transportId
    (.clientHello connection.transportClientHello)

end PreparedConnection

end Sunbolt.Agent
