/- Module: Sunbolt/Control/NodeEnrollment
   scope: sunbolt-control/src/node.rs
   digest: Enrolled nodes, their credentials and heartbeats, and node revocation. -/

import Mathlib.Data.List.Basic
import Mathlib.Data.List.MinMax

set_option autoImplicit false
set_option relaxedAutoImplicit false

namespace Sunbolt.Control

/-- Instants and durations are nanoseconds. -/
def secs (n : Nat) : Nat := n * 1000000000

def nodeOfflineAfter : Nat := secs 90

inductive NodeStatus where
  | enrolled
  | online
  | offline
  | revoked
  deriving DecidableEq, Repr

structure NodeRecord where
  id : Nat
  nodeId : String
  displayName : String
  hostname : String
  os : String
  architecture : String
  agentVersion : String
  status : NodeStatus
  deriving DecidableEq, Repr

structure NodeCredentialRecord where
  nodeId : Nat
  credentialFingerprint : String
  credentialProof : String
  createdAt : Nat
  createdAtUnixSecs : Int
  expiresAt : Nat
  expiresAtUnixSecs : Int
  rotatedFromFingerprint : Option String
  deriving DecidableEq, Repr

structure NodeHeartbeatRecord where
  nodeId : Nat
  status : NodeStatus
  receivedAt : Nat
  deriving DecidableEq, Repr

structure NodeView where
  nodeId : String
  displayName : String
  hostname : String
  os : String
  architecture : String
  agentVersion : String
  status : NodeStatus
  credentialExpiresAtUnixSecs : Option Int
  deriving DecidableEq, Repr

inductive NodeConnectionError where
  | unknownNode
  | invalidCredential
  | credentialExpired
  | revoked
  deriving DecidableEq, Repr

structure NodeEnrollmentState where
  nodes : List NodeRecord
  credentials : List NodeCredentialRecord
  heartbeats : List NodeHeartbeatRecord
  deriving DecidableEq, Repr

namespace NodeEnrollmentState

variable (state : NodeEnrollmentState)

def latestHeartbeatAt (nodeId : Nat) : Option Nat :=
  ((state.heartbeats.filter (fun heartbeat =>
    heartbeat.nodeId == nodeId && heartbeat.status != .revoked)).map (·.receivedAt)).max?

def authenticatedCredential (nodeId : Nat) (presentedProof claimedFingerprint : String) :
    Option NodeCredentialRecord :=
  state.credentials.find? (fun credential =>
    credential.nodeId == nodeId && credential.credentialFingerprint == claimedFingerprint &&
      credential.credentialProof == presentedProof)

def credentialExpirationForNode (nodeId : Nat) : Option Int :=
  ((state.credentials.filter (·.nodeId == nodeId)).map (·.expiresAtUnixSecs)).max?

def nodeView (node : NodeRecord) (lastHeartbeatAt : Option Nat) (now : Nat)
    (credentialExpiresAtUnixSecs : Option Int) : NodeView where
  nodeId := node.nodeId
  displayName := node.displayName
  hostname := node.hostname
  os := node.os
  architecture := node.architecture
  agentVersion := node.agentVersion
  status :=
    if node.status == .online && lastHeartbeatAt.any (fun at' => nodeOfflineAfter ≤ now - at')
    then .offline else node.status
  credentialExpiresAtUnixSecs := credentialExpiresAtUnixSecs

def position (nodeId : String) : Option Nat :=
  state.nodes.findIdx? (·.nodeId == nodeId)

def setNode (index : Nat) (f : NodeRecord → NodeRecord) : NodeEnrollmentState :=
  { state with nodes := state.nodes.modify index f }

def authenticateTransport (nodeId credentialFingerprint credentialProof agentVersion : String)
    (now : Nat) : NodeEnrollmentState × Except NodeConnectionError NodeView :=
  match state.position nodeId with
  | none => (state, .error .unknownNode)
  | some index =>
    match state.nodes[index]? with
    | none => (state, .error .unknownNode)
    | some node =>
      if node.status = .revoked then (state, .error .revoked)
      else
        match state.authenticatedCredential node.id credentialProof credentialFingerprint with
        | none => (state, .error .invalidCredential)
        | some credential =>
          if credential.expiresAt ≤ now then (state, .error .credentialExpired)
          else
            let node := { node with agentVersion := agentVersion, status := .online }
            let state :=
              { state.setNode index (fun _ => node) with
                heartbeats := state.heartbeats ++ [⟨node.id, .online, now⟩] }
            (state, .ok (nodeView node (some now) now (state.credentialExpirationForNode node.id)))

def nodeDetails (nodeId : String) (now : Nat) : Option NodeView :=
  (state.nodes.find? (·.nodeId == nodeId)).map (fun node =>
    nodeView node (state.latestHeartbeatAt node.id) now (state.credentialExpirationForNode node.id))

def revokeNode (nodeId : String) (now : Nat) :
    NodeEnrollmentState × Except NodeConnectionError NodeView :=
  match state.position nodeId with
  | none => (state, .error .unknownNode)
  | some index =>
    match state.nodes[index]? with
    | none => (state, .error .unknownNode)
    | some node =>
      let node := { node with status := .revoked }
      let state := state.setNode index (fun _ => node)
      (state, .ok (nodeView node (state.latestHeartbeatAt node.id) now
        (state.credentialExpirationForNode node.id)))

def nodeIsOnline (nodeId : String) (now : Nat) : Bool :=
  (state.nodeDetails nodeId now).any (·.status == .online)

end NodeEnrollmentState

end Sunbolt.Control
