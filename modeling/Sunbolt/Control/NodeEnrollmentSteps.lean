/- Module: Sunbolt/Control/NodeEnrollmentSteps
   scope: sunbolt-control/src/node.rs
   digest: What each operation of the enrollment registry makes of it. -/

import Sunbolt.Control.NodeEnrollmentRegistry
import Sunbolt.Library.Records

set_option autoImplicit false
set_option relaxedAutoImplicit false

namespace Sunbolt.Control

open Sunbolt.Library
open NodeEnrollmentRegistry (nodeIdText)

theorem nodeIdText_injective : Function.Injective nodeIdText := by
  intro m n h
  have htext : toString m = toString n := (String.append_right_inj "node-").mp h
  have hdigits : Nat.toDigits 10 m = Nat.toDigits 10 n := by
    simpa using congrArg String.toList htext
  have hvalue := congrArg (fun digits => Nat.ofDigitChars 10 digits 0) hdigits
  simpa [Nat.ofDigitChars_toDigits] using hvalue

namespace NodeEnrollmentState

variable (state : NodeEnrollmentState)

/-- The node that an operation on this node id works on. -/
def node (nodeId : String) : Option NodeRecord :=
  Records.find NodeRecord.nodeId state.nodes nodeId

/-- The node that may connect with this credential now, or why there is none. -/
def checkCredential (nodeId credentialFingerprint credentialProof : String) (now : Nat) :
    Except NodeConnectionError NodeRecord :=
  match state.node nodeId with
  | none => .error .unknownNode
  | some node =>
    if node.status = .revoked then .error .revoked
    else
      match state.authenticatedCredential node.id credentialProof credentialFingerprint with
      | none => .error .invalidCredential
      | some credential =>
        if credential.expiresAt ≤ now then .error .credentialExpired else .ok node

def changeNode (nodeId : String) (change : NodeRecord → NodeRecord) : NodeEnrollmentState :=
  match state.position nodeId with
  | none => state
  | some index => state.setNode index change

/-- The node is online as of now; `after` is its record from here on. -/
def connect (nodeId : String) (after : NodeRecord) (now : Nat) : NodeEnrollmentState :=
  { state.changeNode nodeId (fun _ => after) with
    heartbeats := state.heartbeats ++ [⟨after.id, .online, now⟩] }

def issueCredential (credential : NodeCredentialRecord) : NodeEnrollmentState :=
  { state with credentials := state.credentials ++ [credential] }

/-- What a node reports of itself with a heartbeat. -/
def beating (node : NodeRecord) (request : AgentHeartbeatRequest) : NodeRecord :=
  { node with
    hostname := request.hostname
    os := request.os
    architecture := request.architecture
    agentVersion := request.agentVersion
    status := .online }

def greeting (node : NodeRecord) (agentVersion : String) : NodeRecord :=
  { node with agentVersion := agentVersion, status := .online }

theorem lookup_cases (nodeId : String) :
    (state.position nodeId = none ∧ state.node nodeId = none) ∨
      ∃ index node, state.position nodeId = some index ∧ state.nodes[index]? = some node ∧
        state.node nodeId = some node :=
  Records.position_cases NodeRecord.nodeId state.nodes nodeId

/-- A heartbeat is admitted by the same checks as a transport, and then connects the node. -/
theorem heartbeat_eq (request : AgentHeartbeatRequest) (now : Nat) :
    state.heartbeat request now =
      match state.checkCredential request.nodeId request.credentialFingerprint
          request.credentialProof now with
      | .error error => (state, .error error)
      | .ok node =>
        (state.connect request.nodeId (beating node request) now,
          .ok (nodeView (beating node request) (some now) now
            ((state.connect request.nodeId (beating node request) now).credentialExpirationForNode
              node.id))) := by
  rw [heartbeat, checkCredential]
  rcases state.lookup_cases request.nodeId with
    ⟨hposition, hnode⟩ | ⟨index, node, hposition, hget, hnode⟩
  · simp only [hposition, hnode]
  · simp only [hposition, hnode, hget, connect, changeNode, beating]
    split_ifs with hrevoked
    · rfl
    · cases state.authenticatedCredential node.id request.credentialProof
          request.credentialFingerprint with
      | none => rfl
      | some credential =>
        dsimp only
        split_ifs with hexpired
        · rfl
        · rfl

theorem authenticateTransport_eq (nodeId fingerprint proof version : String) (now : Nat) :
    state.authenticateTransport nodeId fingerprint proof version now =
      match state.checkCredential nodeId fingerprint proof now with
      | .error error => (state, .error error)
      | .ok node =>
        (state.connect nodeId (greeting node version) now,
          .ok (nodeView (greeting node version) (some now) now
            ((state.connect nodeId (greeting node version) now).credentialExpirationForNode
              node.id))) := by
  rw [authenticateTransport, checkCredential]
  rcases state.lookup_cases nodeId with
    ⟨hposition, hnode⟩ | ⟨index, node, hposition, hget, hnode⟩
  · simp only [hposition, hnode]
  · simp only [hposition, hnode, hget, connect, changeNode, greeting]
    split_ifs with hrevoked
    · rfl
    · cases state.authenticatedCredential node.id proof fingerprint with
      | none => rfl
      | some credential =>
        dsimp only
        split_ifs with hexpired
        · rfl
        · rfl

/-- A revocation changes the status of a known node and nothing else. -/
theorem revokeNode_eq (nodeId : String) (now : Nat) :
    state.revokeNode nodeId now =
      match state.node nodeId with
      | none => (state, .error .unknownNode)
      | some node =>
        let after := { node with status := NodeStatus.revoked }
        let revoked := state.changeNode nodeId (fun _ => after)
        (revoked, .ok (nodeView after (revoked.latestHeartbeatAt node.id) now
          (revoked.credentialExpirationForNode node.id))) := by
  rw [revokeNode]
  rcases state.lookup_cases nodeId with
    ⟨hposition, hnode⟩ | ⟨index, node, hposition, hget, hnode⟩
  · simp only [hposition, hnode]
  · simp only [hposition, hnode, hget, changeNode]

section Digest

variable (sha256 : ByteArray → List UInt8)

/-- The record of a credential that is issued to a node. -/
def newCredential (id : Nat) (nodeId : String) (bytes : RandomBytes) (now : Nat) (system : Int)
    (previous : Option String) : NodeCredentialRecord where
  nodeId := id
  credentialFingerprint := credentialFingerprint sha256 (randomToken bytes)
  credentialProof := credentialProof sha256 nodeId (randomToken bytes)
  createdAt := now
  createdAtUnixSecs := unixSecs system
  expiresAt := now + nodeCredentialTtl
  expiresAtUnixSecs := credentialExpirationUnixSecs system
  rotatedFromFingerprint := previous

theorem rotateCredential_cases (nodeId : String) (bytes : RandomBytes) (now : Nat)
    (system : Int) :
    (∃ error, state.rotateCredential sha256 nodeId bytes now system = (state, .error error) ∧
      (error = .revoked ↔ ∃ node, state.node nodeId = some node ∧ node.status = .revoked)) ∨
    ∃ node previous response, state.node nodeId = some node ∧ node.status ≠ .revoked ∧
      state.rotateCredential sha256 nodeId bytes now system =
        (state.issueCredential (newCredential sha256 node.id nodeId bytes now system previous),
          .ok response) ∧
      response.credential.credentialSecret = randomToken bytes ∧
      response.credential.credentialFingerprint =
        credentialFingerprint sha256 (randomToken bytes) := by
  rw [rotateCredential]
  rcases state.lookup_cases nodeId with
    ⟨hposition, hnode⟩ | ⟨index, node, hposition, hget, hnode⟩
  · refine .inl ⟨.unknownNode, ?_, ?_⟩
    · simp only [hposition]
    · simp [hnode]
  · by_cases hrevoked : node.status = .revoked
    · refine .inl ⟨.revoked, ?_, ?_⟩
      · simp only [hposition, hget, if_pos hrevoked]
      · simp [hnode, hrevoked]
    · let previous := (state.latestCredentialForNode node.id).map (·.credentialFingerprint)
      let issued := state.issueCredential
        (newCredential sha256 node.id nodeId bytes now system previous)
      refine .inr ⟨node, previous, ⟨nodeView node (issued.latestHeartbeatAt node.id) now
        (issued.credentialExpirationForNode node.id), ⟨_, _, unixSecs system,
        credentialExpirationUnixSecs system, previous⟩⟩, hnode, hrevoked, ?_, rfl, rfl⟩
      simp only [hposition, hget, if_neg hrevoked]
      rfl

end Digest

/-! What an operation leaves of the rest. -/

variable {state} {nodeId other : String}

/-- Under its own id the replaced node is found, and every other one as before. -/
theorem node_changeNode {node : NodeRecord} (after : NodeRecord)
    (found : state.node nodeId = some node) (text : after.nodeId = node.nodeId) (other : String) :
    (state.changeNode nodeId (fun _ => after)).node other =
      if other = nodeId then some after else state.node other := by
  have hkeeps : ∀ x : NodeRecord, x.nodeId = nodeId → after.nodeId = nodeId :=
    fun _ _ => text.trans (Records.key_of_find found)
  rw [changeNode]
  rcases state.lookup_cases nodeId with ⟨-, hnode⟩ | ⟨index, -, hposition, -, -⟩
  · rw [found] at hnode
    cases hnode
  · simp only [hposition]
    have hmodify := Records.find_modify (j := other) hposition hkeeps
    rw [NodeEnrollmentState.node] at found
    rw [found] at hmodify
    exact hmodify

@[simp] theorem credentials_changeNode (change : NodeRecord → NodeRecord) :
    (state.changeNode nodeId change).credentials = state.credentials := by
  rw [changeNode]
  split <;> rfl

@[simp] theorem heartbeats_changeNode (change : NodeRecord → NodeRecord) :
    (state.changeNode nodeId change).heartbeats = state.heartbeats := by
  rw [changeNode]
  split <;> rfl

/-- What is the same in a node and its successor is the same in the lists of nodes. -/
theorem map_changeNode {β : Type} (g : NodeRecord → β) {node after : NodeRecord}
    (hnode : state.node nodeId = some node) (same : g after = g node) :
    (state.changeNode nodeId (fun _ => after)).nodes.map g = state.nodes.map g := by
  rw [changeNode]
  rcases state.lookup_cases nodeId with
    ⟨hposition, -⟩ | ⟨index, found, hposition, hget, hfound⟩
  · simp only [hposition]
  · simp only [hposition]
    refine Records.map_modify g (fun x hx => ?_)
    rw [hget, Option.some.injEq] at hx
    rw [hnode, Option.some.injEq] at hfound
    rw [same, hfound, hx]

end NodeEnrollmentState

def EnrollmentReply.isError : EnrollmentReply → Bool
  | .enrolled (.error _) | .viewed (.error _) | .rotated (.error _) => true
  | _ => false

section Digest

variable (sha256 : ByteArray → List UInt8)

/-- Everything a call can make of a registry. -/
inductive EnrollmentStep (registry : NodeEnrollmentRegistry) :
    EnrollmentCall → EnrollmentReply → NodeEnrollmentRegistry → Prop
  | refused (call : EnrollmentCall) (reply : EnrollmentReply) (error : reply.isError = true) :
    EnrollmentStep registry call reply registry
  | created (user : Auth.User) (ttl : Nat) (bytes : RandomBytes) (now : Nat)
      (response : EnrollmentTokenResponse) (token : response.token = randomToken bytes) :
    EnrollmentStep registry (.createToken user ttl bytes now) (.created response)
      { registry with
        nextTokenId := registry.nextTokenId + 1
        tokensByHash := registry.tokensByHash.insert (tokenHash (randomToken bytes))
          ⟨registry.nextTokenId, user.id, now + ttl, none⟩ }
  | enrolled (request : AgentEnrollmentRequest) (bytes : RandomBytes) (now : Nat) (system : Int)
      (token : EnrollmentTokenRecord)
      (found : registry.tokensByHash.lookup (tokenHash request.token) = some token)
      (unused : token.usedByNodeId = none) (live : now < token.expiresAt) :
    EnrollmentStep registry (.enroll request bytes now system)
      (.enrolled (.ok ⟨nodeIdText registry.nextNodeId,
        credentialFingerprint sha256 (randomToken bytes), randomToken bytes,
        credentialExpirationUnixSecs system⟩))
      { registry with
        nextNodeId := registry.nextNodeId + 1
        tokensByHash := registry.tokensByHash.insert (tokenHash request.token)
          { token with usedByNodeId := some registry.nextNodeId }
        inner := registry.inner.addNode sha256 registry.nextNodeId
          (nodeIdText registry.nextNodeId) (randomToken bytes)
          (credentialFingerprint sha256 (randomToken bytes)) request now system }
  | connected (call : EnrollmentCall) (nodeId : String) (node after : NodeRecord) (now : Nat)
      (view : NodeView) (found : registry.inner.node nodeId = some node)
      (allowed : node.status ≠ .revoked) (id : after.id = node.id)
      (text : after.nodeId = node.nodeId) :
    EnrollmentStep registry call (.viewed (.ok view))
      { registry with inner := registry.inner.connect nodeId after now }
  | revoked (nodeId : String) (node : NodeRecord) (now : Nat) (view : NodeView)
      (found : registry.inner.node nodeId = some node) :
    EnrollmentStep registry (.revokeNode nodeId now) (.viewed (.ok view))
      { registry with
        inner := registry.inner.changeNode nodeId (fun _ => { node with status := .revoked }) }
  | rotated (nodeId : String) (node : NodeRecord) (bytes : RandomBytes) (now : Nat)
      (system : Int) (previous : Option String) (response : NodeCredentialRotationResponse)
      (found : registry.inner.node nodeId = some node) (allowed : node.status ≠ .revoked)
      (secret : response.credential.credentialSecret = randomToken bytes)
      (fingerprint : response.credential.credentialFingerprint =
        credentialFingerprint sha256 (randomToken bytes)) :
    EnrollmentStep registry (.rotateCredential nodeId bytes now system) (.rotated (.ok response))
      { registry with
        inner := registry.inner.issueCredential
          (NodeEnrollmentState.newCredential sha256 node.id nodeId bytes now system previous) }

namespace NodeEnrollmentRegistry

variable {registry : NodeEnrollmentRegistry}

/-- An admitted node is the one found under its id, and it is not revoked. -/
theorem admitted {state : NodeEnrollmentState} {nodeId fingerprint proof : String} {now : Nat}
    {node : NodeRecord} (h : state.checkCredential nodeId fingerprint proof now = .ok node) :
    state.node nodeId = some node ∧ node.status ≠ .revoked := by
  rw [NodeEnrollmentState.checkCredential] at h
  cases hnode : state.node nodeId with
  | none =>
    rw [hnode] at h
    cases h
  | some found =>
    simp only [hnode] at h
    split_ifs at h with hrevoked
    split at h
    · cases h
    · split_ifs at h
      cases h
      exact ⟨rfl, hrevoked⟩

theorem enroll_step (request : AgentEnrollmentRequest) (bytes : RandomBytes) (now : Nat)
    (system : Int) :
    EnrollmentStep sha256 registry (.enroll request bytes now system)
      (.enrolled (registry.enroll sha256 request bytes now system).2)
      (registry.enroll sha256 request bytes now system).1 := by
  rw [enroll]
  cases hlookup : registry.tokensByHash.lookup (tokenHash request.token) with
  | none => exact .refused _ _ rfl
  | some token =>
    dsimp only
    split_ifs with hused hexpired
    · exact .refused _ _ rfl
    · exact .refused _ _ rfl
    · have hunused : token.usedByNodeId = none := by
        rwa [Bool.not_eq_true, Option.isSome_eq_false_iff, Option.isNone_iff_eq_none] at hused
      exact .enrolled request bytes now system token hlookup hunused (Nat.lt_of_not_le hexpired)

theorem serve_step (call : EnrollmentCall) :
    EnrollmentStep sha256 registry call (registry.serve sha256 call).2
      (registry.serve sha256 call).1 := by
  cases call with
  | createToken user ttl bytes now => exact .created user ttl bytes now _ rfl
  | enroll request bytes now system => exact enroll_step sha256 request bytes now system
  | heartbeat request now =>
    simp only [serve, heartbeat, onInner, Prod.map, id, NodeEnrollmentState.heartbeat_eq]
    cases hchecked : registry.inner.checkCredential request.nodeId request.credentialFingerprint
        request.credentialProof now with
    | error error => exact .refused _ _ rfl
    | ok node =>
      obtain ⟨hfound, hallowed⟩ := admitted hchecked
      exact .connected _ request.nodeId node _ now _ hfound hallowed rfl rfl
  | authenticateTransport nodeId fingerprint proof version now =>
    simp only [serve, authenticateTransport, onInner, Prod.map, id,
      NodeEnrollmentState.authenticateTransport_eq]
    cases hchecked : registry.inner.checkCredential nodeId fingerprint proof now with
    | error error => exact .refused _ _ rfl
    | ok node =>
      obtain ⟨hfound, hallowed⟩ := admitted hchecked
      exact .connected _ nodeId node _ now _ hfound hallowed rfl rfl
  | rotateCredential nodeId bytes now system =>
    rcases registry.inner.rotateCredential_cases sha256 nodeId bytes now system with
      ⟨error, h, -⟩ | ⟨node, previous, response, hnode, hallowed, h, hsecret, hfingerprint⟩
    · simp only [serve, rotateCredential, onInner, Prod.map, id, h]
      exact .refused _ _ rfl
    · simp only [serve, rotateCredential, onInner, Prod.map, id, h]
      exact .rotated nodeId node bytes now system previous response hnode hallowed hsecret
        hfingerprint
  | revokeNode nodeId now =>
    simp only [serve, revokeNode, onInner, Prod.map, id, NodeEnrollmentState.revokeNode_eq]
    cases hnode : registry.inner.node nodeId with
    | none => exact .refused _ _ rfl
    | some node => exact .revoked nodeId node now _ hnode

end NodeEnrollmentRegistry

end Digest

/-- An operation that fails changes nothing. -/
theorem EnrollmentStep.same_of_isError {registry after : NodeEnrollmentRegistry}
    {call : EnrollmentCall} {reply : EnrollmentReply}
    {sha256 : ByteArray → List UInt8}
    (step : EnrollmentStep sha256 registry call reply after) (error : reply.isError = true) :
    after = registry := by
  cases step with
  | refused call reply error => rfl
  | _ => cases error

/-! A token and the enrollment with it. -/

def sampleToken : RandomBytes := Vector.replicate 32 0

def sampleRequest : AgentEnrollmentRequest :=
  ⟨randomToken sampleToken, "edge", "edge-1", "linux", "x86_64", "0.1.0"⟩

def sampleCalls : List EnrollmentCall :=
  [.createToken ⟨1, "admin@sunbolt.local", .admin⟩ (secs 900) sampleToken 0,
    .enroll sampleRequest sampleBytes 5 (secs 1700000000)]

def sampleRegistry : NodeEnrollmentRegistry :=
  endOf (NodeEnrollmentRegistry.serve sampleDigest) .default sampleCalls

def sampleHistory (later : List EnrollmentCall) : List EnrollmentEvent :=
  historyOf (NodeEnrollmentRegistry.serve sampleDigest) .default sampleCalls ++
    historyOf (NodeEnrollmentRegistry.serve sampleDigest) sampleRegistry later

def sampleEnd (later : List EnrollmentCall) : NodeEnrollmentRegistry :=
  endOf (NodeEnrollmentRegistry.serve sampleDigest) sampleRegistry later

theorem sample_reached (later : List EnrollmentCall) :
    EnrollmentReaches sampleDigest (sampleHistory later) (sampleEnd later) :=
  Serves.trans (.ofCalls _ _ _) (.ofCalls _ _ _)

end Sunbolt.Control
