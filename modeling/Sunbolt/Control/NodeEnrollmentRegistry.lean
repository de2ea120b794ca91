/- Module: Sunbolt/Control/NodeEnrollmentRegistry
   scope: sunbolt-control/src/node.rs
   digest: Enrollment tokens, node credentials and heartbeats, and what each operation does. -/

import Sunbolt.Auth.Factors
import Sunbolt.Control.Credentials
import Sunbolt.Library.Serving
import Sunbolt.Library.Table

set_option autoImplicit false
set_option relaxedAutoImplicit false

namespace Sunbolt.Control

open Sunbolt.Library
open Sunbolt.Auth (User)

structure EnrollmentTokenRecord where
  id : Nat
  createdByUserId : Nat
  expiresAt : Nat
  usedByNodeId : Option Nat
  deriving DecidableEq, Repr

/-- The tokens, the nodes with what belongs to them, and the counters. A counter is a `Nat`:
    every node id it gives out stays in a `Vec`, which cannot hold 2^64 nodes. -/
structure NodeEnrollmentRegistry where
  tokensByHash : Table UInt64 EnrollmentTokenRecord
  inner : NodeEnrollmentState
  nextTokenId : Nat
  nextNodeId : Nat

def NodeEnrollmentRegistry.default : NodeEnrollmentRegistry := ⟨∅, ⟨[], [], []⟩, 1, 1⟩

/-- The order of `latest_credential_for_node`: by creation, and a rotated one is later. -/
def NodeCredentialRecord.notAfter (credential other : NodeCredentialRecord) : Bool :=
  credential.createdAt < other.createdAt ||
    credential.createdAt == other.createdAt &&
      (credential.createdAtUnixSecs < other.createdAtUnixSecs ||
        credential.createdAtUnixSecs == other.createdAtUnixSecs &&
          (!credential.rotatedFromFingerprint.isSome || other.rotatedFromFingerprint.isSome))

namespace NodeEnrollmentState

variable (state : NodeEnrollmentState)

/-- `max_by_key`: the last one of those that no other one is after. -/
def latestCredentialForNode (nodeId : Nat) : Option NodeCredentialRecord :=
  (state.credentials.filter (·.nodeId == nodeId)).foldl (fun latest credential =>
    match latest with
    | none => some credential
    | some other => if other.notAfter credential then some credential else some other) none

def heartbeat (request : AgentHeartbeatRequest) (now : Nat) :
    NodeEnrollmentState × Except NodeConnectionError NodeView :=
  match state.position request.nodeId with
  | none => (state, .error .unknownNode)
  | some index =>
    match state.nodes[index]? with
    | none => (state, .error .unknownNode)
    | some node =>
      if node.status = .revoked then (state, .error .revoked)
      else
        match state.authenticatedCredential node.id request.credentialProof
            request.credentialFingerprint with
        | none => (state, .error .invalidCredential)
        | some credential =>
          if credential.expiresAt ≤ now then (state, .error .credentialExpired)
          else
            let node := { node with
              hostname := request.hostname
              os := request.os
              architecture := request.architecture
              agentVersion := request.agentVersion
              status := .online }
            let state :=
              { state.setNode index (fun _ => node) with
                heartbeats := state.heartbeats ++ [⟨node.id, .online, now⟩] }
            (state, .ok (nodeView node (some now) now (state.credentialExpirationForNode node.id)))

section Digest

variable (sha256 : ByteArray → List UInt8)

/-- `now` and `system` are what the two clocks show during the call. -/
def rotateCredential (nodeId : String) (bytes : RandomBytes) (now : Nat) (system : Int) :
    NodeEnrollmentState × Except NodeConnectionError NodeCredentialRotationResponse :=
  match state.position nodeId with
  | none => (state, .error .unknownNode)
  | some index =>
    match state.nodes[index]? with
    | none => (state, .error .unknownNode)
    | some node =>
      if node.status = .revoked then (state, .error .revoked)
      else
        let previous := (state.latestCredentialForNode node.id).map (·.credentialFingerprint)
        let (secret, fingerprint) := generateNodeCredential sha256 bytes
        let state := { state with
          credentials := state.credentials ++ [{
            nodeId := node.id
            credentialFingerprint := fingerprint
            credentialProof := credentialProof sha256 nodeId secret
            createdAt := now
            createdAtUnixSecs := unixSecs system
            expiresAt := now + nodeCredentialTtl
            expiresAtUnixSecs := credentialExpirationUnixSecs system
            rotatedFromFingerprint := previous }] }
        (state, .ok {
          node := nodeView node (state.latestHeartbeatAt node.id) now
            (state.credentialExpirationForNode node.id)
          credential := {
            credentialFingerprint := fingerprint
            credentialSecret := secret
            credentialCreatedAtUnixSecs := unixSecs system
            credentialExpiresAtUnixSecs := credentialExpirationUnixSecs system
            previousCredentialFingerprint := previous } })

/-- The state with a node enrolled in it, and its first credential. -/
def addNode (id : Nat) (nodeId secret fingerprint : String) (request : AgentEnrollmentRequest)
    (now : Nat) (system : Int) : NodeEnrollmentState where
  nodes := state.nodes ++ [{
    id := id
    nodeId := nodeId
    displayName := request.nodeName
    hostname := request.hostname
    os := request.os
    architecture := request.architecture
    agentVersion := request.agentVersion
    status := .enrolled }]
  credentials := state.credentials ++ [{
    nodeId := id
    credentialFingerprint := fingerprint
    credentialProof := credentialProof sha256 nodeId secret
    createdAt := now
    createdAtUnixSecs := unixSecs system
    expiresAt := now + nodeCredentialTtl
    expiresAtUnixSecs := credentialExpirationUnixSecs system
    rotatedFromFingerprint := none }]
  heartbeats := state.heartbeats ++ [⟨id, .enrolled, now⟩]

end Digest

end NodeEnrollmentState

namespace NodeEnrollmentRegistry

variable (registry : NodeEnrollmentRegistry)

def enrollmentCommand (token : String) : String :=
  "SUNBOLT_CONTROL_PLANE_URL=http://127.0.0.1:3000 SUNBOLT_AGENT_ENROLLMENT_TOKEN=" ++ token ++
    " cargo run -p sunbolt-agent"

def createToken (user : User) (ttl : Nat) (bytes : RandomBytes) (now : Nat) :
    NodeEnrollmentRegistry × EnrollmentTokenResponse :=
  let token := randomToken bytes
  ({ registry with
      nextTokenId := registry.nextTokenId + 1
      tokensByHash := registry.tokensByHash.insert (tokenHash token)
        ⟨registry.nextTokenId, user.id, now + ttl, none⟩ },
    ⟨token, ttl / 1000000000, enrollmentCommand token⟩)

/-- The text of a node's id. -/
def nodeIdText (id : Nat) : String := "node-" ++ toString id

section Digest

variable (sha256 : ByteArray → List UInt8)

def enroll (request : AgentEnrollmentRequest) (bytes : RandomBytes) (now : Nat) (system : Int) :
    NodeEnrollmentRegistry × Except EnrollmentError AgentEnrollmentResponse :=
  match registry.tokensByHash.lookup (tokenHash request.token) with
  | none => (registry, .error .invalidToken)
  | some token =>
    if token.usedByNodeId.isSome then (registry, .error .tokenUsed)
    else if token.expiresAt ≤ now then (registry, .error .tokenExpired)
    else
      let id := registry.nextNodeId
      let nodeId := nodeIdText id
      let (secret, fingerprint) := generateNodeCredential sha256 bytes
      ({ registry with
          nextNodeId := id + 1
          tokensByHash := registry.tokensByHash.insert (tokenHash request.token)
            { token with usedByNodeId := some id }
          inner := registry.inner.addNode sha256 id nodeId secret fingerprint request now system },
        .ok ⟨nodeId, fingerprint, secret, credentialExpirationUnixSecs system⟩)

end Digest

/-- An operation on the nodes leaves the tokens and the counters. -/
def onInner {α : Type} (result : NodeEnrollmentState × α) : NodeEnrollmentRegistry × α :=
  ({ registry with inner := result.1 }, result.2)

def heartbeat (request : AgentHeartbeatRequest) (now : Nat) :
    NodeEnrollmentRegistry × Except NodeConnectionError NodeView :=
  registry.onInner (registry.inner.heartbeat request now)

def authenticateTransport (nodeId credentialFingerprint credentialProof agentVersion : String)
    (now : Nat) : NodeEnrollmentRegistry × Except NodeConnectionError NodeView :=
  registry.onInner (registry.inner.authenticateTransport nodeId credentialFingerprint
    credentialProof agentVersion now)

def rotateCredential (sha256 : ByteArray → List UInt8) (nodeId : String) (bytes : RandomBytes)
    (now : Nat) (system : Int) :
    NodeEnrollmentRegistry × Except NodeConnectionError NodeCredentialRotationResponse :=
  registry.onInner (registry.inner.rotateCredential sha256 nodeId bytes now system)

def revokeNode (nodeId : String) (now : Nat) :
    NodeEnrollmentRegistry × Except NodeConnectionError NodeView :=
  registry.onInner (registry.inner.revokeNode nodeId now)

end NodeEnrollmentRegistry

/-- The operations of the registry, with the times they read and the bytes they draw. -/
inductive EnrollmentCall where
  | createToken (user : User) (ttl : Nat) (bytes : RandomBytes) (now : Nat)
  | enroll (request : AgentEnrollmentRequest) (bytes : RandomBytes) (now : Nat) (system : Int)
  | heartbeat (request : AgentHeartbeatRequest) (now : Nat)
  | authenticateTransport (nodeId credentialFingerprint credentialProof agentVersion : String)
      (now : Nat)
  | rotateCredential (nodeId : String) (bytes : RandomBytes) (now : Nat) (system : Int)
  | revokeNode (nodeId : String) (now : Nat)

inductive EnrollmentReply where
  | created (response : EnrollmentTokenResponse)
  | enrolled (result : Except EnrollmentError AgentEnrollmentResponse)
  | viewed (result : Except NodeConnectionError NodeView)
  | rotated (result : Except NodeConnectionError NodeCredentialRotationResponse)

abbrev EnrollmentEvent := Served NodeEnrollmentRegistry EnrollmentCall EnrollmentReply

section Digest

variable (sha256 : ByteArray → List UInt8)

def NodeEnrollmentRegistry.serve (registry : NodeEnrollmentRegistry) :
    EnrollmentCall → NodeEnrollmentRegistry × EnrollmentReply
  | .createToken user ttl bytes now =>
    (registry.createToken user ttl bytes now).map id .created
  | .enroll request bytes now system =>
    (registry.enroll sha256 request bytes now system).map id .enrolled
  | .heartbeat request now => (registry.heartbeat request now).map id .viewed
  | .authenticateTransport nodeId fingerprint proof version now =>
    (registry.authenticateTransport nodeId fingerprint proof version now).map id .viewed
  | .rotateCredential nodeId bytes now system =>
    (registry.rotateCredential sha256 nodeId bytes now system).map id .rotated
  | .revokeNode nodeId now => (registry.revokeNode nodeId now).map id .viewed

/-- The operations of a run that starts with no token and no node. -/
def EnrollmentReaches (history : List EnrollmentEvent) (registry : NodeEnrollmentRegistry) : Prop :=
  Serves (NodeEnrollmentRegistry.serve sha256) .default history registry

end Digest

end Sunbolt.Control
