/- Module: Sunbolt/Control/NodeCredentials
   scope: sunbolt-control/src/node.rs, sunbolt-control/src/agent/mod.rs, sunbolt-agent/src/lib.rs
   digest: Which credentials connect a node, by a heartbeat or by a transport hello. -/

import Sunbolt.Agent.Identity
import Sunbolt.Control.AgentHandlers
import Sunbolt.Control.EnrollmentTokens

set_option autoImplicit false
set_option relaxedAutoImplicit false

namespace Sunbolt.Control

open Sunbolt.Library
open NodeEnrollmentRegistry (nodeIdText)

namespace NodeEnrollmentState

variable (state : NodeEnrollmentState)

/-- No node has two credentials with one fingerprint and one proof. -/
def CredentialsDistinct : Prop :=
  state.credentials.Pairwise (fun credential other =>
    ¬(credential.nodeId = other.nodeId ∧
      credential.credentialFingerprint = other.credentialFingerprint ∧
      credential.credentialProof = other.credentialProof))

/-- There is such a node, it is not revoked, and it has this credential, not yet expired. -/
def Holds (nodeId fingerprint proof : String) (now : Nat) : Prop :=
  ∃ node ∈ state.nodes, node.nodeId = nodeId ∧ node.status ≠ .revoked ∧
    ∃ credential ∈ state.credentials, credential.nodeId = node.id ∧
      credential.credentialFingerprint = fingerprint ∧ credential.credentialProof = proof ∧
      now < credential.expiresAt

variable {state} {next : Nat}

theorem authenticatedCredential_of_mem (distinct : state.CredentialsDistinct)
    {credential : NodeCredentialRecord} (hmem : credential ∈ state.credentials) :
    state.authenticatedCredential credential.nodeId credential.credentialProof
      credential.credentialFingerprint = some credential := by
  refine Records.find?_of_pairwise (distinct.imp ?_) hmem (by simp)
  intro first second hdistinct hboth
  simp only [Bool.and_eq_true, beq_iff_eq] at hboth
  obtain ⟨⟨⟨hid, hfingerprint⟩, hproof⟩, ⟨hid', hfingerprint'⟩, hproof'⟩ := hboth
  exact hdistinct ⟨hid.trans hid'.symm, hfingerprint.trans hfingerprint'.symm,
    hproof.trans hproof'.symm⟩

theorem Linked.node_of_mem (linked : state.Linked next) {node : NodeRecord}
    (hmem : node ∈ state.nodes) : state.node node.nodeId = some node := by
  refine Records.find_of_mem ?_ hmem
  rw [linked.named]
  exact linked.apart.map nodeIdText_injective

/-- A node is admitted exactly with a credential that it holds. -/
theorem checkCredential_ok_iff (linked : state.Linked next) (distinct : state.CredentialsDistinct)
    (nodeId fingerprint proof : String) (now : Nat) :
    (∃ node, state.checkCredential nodeId fingerprint proof now = .ok node) ↔
      state.Holds nodeId fingerprint proof now := by
  constructor
  · rintro ⟨node, hchecked⟩
    obtain ⟨hnode, hallowed⟩ := NodeEnrollmentRegistry.admitted hchecked
    refine ⟨node, Records.mem_of_find hnode, Records.key_of_find hnode, hallowed, ?_⟩
    simp only [checkCredential, hnode, if_neg hallowed] at hchecked
    cases hcredential : state.authenticatedCredential node.id proof fingerprint with
    | none =>
      rw [hcredential] at hchecked
      cases hchecked
    | some credential =>
      simp only [hcredential] at hchecked
      split_ifs at hchecked with hexpired
      rw [authenticatedCredential] at hcredential
      have hmatch := List.find?_some hcredential
      simp only [Bool.and_eq_true, beq_iff_eq] at hmatch
      exact ⟨credential, List.mem_of_find?_eq_some hcredential, hmatch.1.1, hmatch.1.2, hmatch.2,
        Nat.lt_of_not_le hexpired⟩
  · rintro ⟨node, hmem, rfl, hallowed, credential, hcredential, hid, rfl, rfl, hlive⟩
    have hfound := authenticatedCredential_of_mem distinct hcredential
    rw [hid] at hfound
    refine ⟨node, ?_⟩
    simp only [checkCredential, linked.node_of_mem hmem, if_neg hallowed, hfound,
      if_neg (Nat.not_le_of_lt hlive)]

end NodeEnrollmentState

/-- Nothing but the metadata and the status of one node is different, and one heartbeat is new. -/
structure OnlyConnects (registry after : NodeEnrollmentRegistry) (nodeId : String) (now : Nat) :
    Prop where
  tokens : after.tokensByHash = registry.tokensByHash
  counters : after.nextTokenId = registry.nextTokenId ∧ after.nextNodeId = registry.nextNodeId
  credentials : after.inner.credentials = registry.inner.credentials
  length : after.inner.nodes.length = registry.inner.nodes.length
  nodes : ∀ (i : Nat) (node changed : NodeRecord), registry.inner.nodes[i]? = some node →
    after.inner.nodes[i]? = some changed →
      changed.id = node.id ∧ changed.nodeId = node.nodeId ∧
        changed.displayName = node.displayName ∧ (node.nodeId ≠ nodeId → changed = node)
  heartbeats : ∃ node, registry.inner.node nodeId = some node ∧
    after.inner.heartbeats = registry.inner.heartbeats ++ [⟨node.id, .online, now⟩]

section Connects

variable {registry : NodeEnrollmentRegistry} {nodeId : String} {node : NodeRecord}

theorem onlyConnects (changed : NodeRecord) (found : registry.inner.node nodeId = some node)
    (id : changed.id = node.id) (text : changed.nodeId = node.nodeId)
    (name : changed.displayName = node.displayName) (now : Nat) :
    OnlyConnects registry { registry with inner := registry.inner.connect nodeId changed now }
      nodeId now where
  tokens := rfl
  counters := ⟨rfl, rfl⟩
  credentials := NodeEnrollmentState.credentials_changeNode _
  length := by
    have hids := congrArg List.length (NodeEnrollmentState.ids_changeNode found id)
    rw [NodeEnrollmentState.ids, NodeEnrollmentState.ids, List.length_map, List.length_map] at hids
    exact hids
  nodes i old new hold hnew := by
    change (registry.inner.changeNode nodeId (fun _ => changed)).nodes[i]? = some new at hnew
    rw [NodeEnrollmentState.changeNode] at hnew
    rcases registry.inner.lookup_cases nodeId with
      ⟨hposition, -⟩ | ⟨index, other, hposition, hget, hother⟩
    · rw [hposition] at hnew
      rw [Option.some.inj (hnew.symm.trans hold)]
      exact ⟨rfl, rfl, rfl, fun _ => rfl⟩
    · rw [found, Option.some.injEq] at hother
      subst hother
      simp only [hposition] at hnew
      by_cases hi : i = index
      · subst hi
        rw [hget, Option.some.injEq] at hold
        subst hold
        have hchanged : new = changed := by
          simpa [NodeEnrollmentState.setNode, hget] using hnew.symm
        rw [hchanged]
        exact ⟨id, text, name, fun hne => absurd (Records.key_of_find found) hne⟩
      · rw [NodeEnrollmentState.setNode, Records.getElem?_modify_of_ne hi] at hnew
        rw [Option.some.inj (hnew.symm.trans hold)]
        exact ⟨rfl, rfl, rfl, fun _ => rfl⟩
  heartbeats := ⟨node, found, by rw [NodeEnrollmentState.connect, id]⟩

/-- What a call that connects a node does, given what the checks before it say. -/
structure Decided (registry : NodeEnrollmentRegistry) (nodeId : String) (now : Nat)
    (admitted : Except NodeConnectionError NodeRecord)
    (result : NodeEnrollmentRegistry × Except NodeConnectionError NodeView) : Prop where
  accepts : (∃ view, result.2 = .ok view) ↔ ∃ node, admitted = .ok node
  refuses : ∀ error, result.2 = .error error ↔ admitted = .error error
  unchanged : ∀ error, result.2 = .error error → result.1 = registry
  connects : ∀ view, result.2 = .ok view → OnlyConnects registry result.1 nodeId now

theorem decided_heartbeat (registry : NodeEnrollmentRegistry) (request : AgentHeartbeatRequest)
    (now : Nat) :
    Decided registry request.nodeId now
      (registry.inner.checkCredential request.nodeId request.credentialFingerprint
        request.credentialProof now)
      (registry.heartbeat request now) := by
  rw [NodeEnrollmentRegistry.heartbeat, NodeEnrollmentRegistry.onInner,
    NodeEnrollmentState.heartbeat_eq]
  cases hchecked : registry.inner.checkCredential request.nodeId request.credentialFingerprint
      request.credentialProof now with
  | error error => constructor <;> simp
  | ok node =>
    obtain ⟨found, -⟩ := NodeEnrollmentRegistry.admitted hchecked
    refine ⟨by simp, by simp, by simp, fun view _ => ?_⟩
    exact onlyConnects (NodeEnrollmentState.beating node request) found rfl rfl rfl now

theorem decided_authenticateTransport (registry : NodeEnrollmentRegistry)
    (nodeId fingerprint proof version : String) (now : Nat) :
    Decided registry nodeId now (registry.inner.checkCredential nodeId fingerprint proof now)
      (registry.authenticateTransport nodeId fingerprint proof version now) := by
  rw [NodeEnrollmentRegistry.authenticateTransport, NodeEnrollmentRegistry.onInner,
    NodeEnrollmentState.authenticateTransport_eq]
  cases hchecked : registry.inner.checkCredential nodeId fingerprint proof now with
  | error error => constructor <;> simp
  | ok node =>
    obtain ⟨found, -⟩ := NodeEnrollmentRegistry.admitted hchecked
    refine ⟨by simp, by simp, by simp, fun view _ => ?_⟩
    exact onlyConnects (NodeEnrollmentState.greeting node version) found rfl rfl rfl now

end Connects

section Agreement

variable {sha256 : ByteArray → List UInt8} {history : List EnrollmentEvent}
  {registry : NodeEnrollmentRegistry}

/-- A heartbeat and a transport hello with one credential: what the first and the second make of
    the registry and reply. -/
structure DecidedAlike (registry : NodeEnrollmentRegistry) (nodeId fingerprint proof : String)
    (now : Nat) (beat hello : NodeEnrollmentRegistry × Except NodeConnectionError NodeView) :
    Prop where
  beats : (∃ view, beat.2 = .ok view) ↔ registry.inner.Holds nodeId fingerprint proof now
  greets : (∃ view, hello.2 = .ok view) ↔ registry.inner.Holds nodeId fingerprint proof now
  refused : ∀ error, beat.2 = .error error ↔ hello.2 = .error error
  unchanged : ∀ error, beat.2 = .error error → beat.1 = registry ∧ hello.1 = registry
  beaten : ∀ view, beat.2 = .ok view → OnlyConnects registry beat.1 nodeId now
  greeted : ∀ view, hello.2 = .ok view → OnlyConnects registry hello.1 nodeId now

/-- Both connect the node exactly when it holds that credential now, both are refused for the
    same reason otherwise, and neither touches anything else. -/
theorem heartbeat_agrees_with_transport (reached : EnrollmentReaches sha256 history registry)
    (distinct : registry.inner.CredentialsDistinct) (request : AgentHeartbeatRequest)
    (agentVersion : String) (now : Nat) :
    DecidedAlike registry request.nodeId request.credentialFingerprint request.credentialProof now
      (registry.heartbeat request now)
      (registry.authenticateTransport request.nodeId request.credentialFingerprint
        request.credentialProof agentVersion now) := by
  have holds := NodeEnrollmentState.checkCredential_ok_iff reached.linked distinct request.nodeId
    request.credentialFingerprint request.credentialProof now
  have beat := decided_heartbeat registry request now
  have hello := decided_authenticateTransport registry request.nodeId
    request.credentialFingerprint request.credentialProof agentVersion now
  exact {
    beats := beat.accepts.trans holds
    greets := hello.accepts.trans holds
    refused := fun error => (beat.refuses error).trans (hello.refuses error).symm
    unchanged := fun error h => ⟨beat.unchanged error h,
      hello.unchanged error ((hello.refuses error).mpr ((beat.refuses error).mp h))⟩
    beaten := beat.connects
    greeted := hello.connects }

theorem heartbeat_agrees_with_transport_sample :
    DecidedAlike sampleRegistry "node-1" "sha256:0" "proof" 9
      (sampleRegistry.heartbeat ⟨"node-1", "sha256:0", "proof", "h", "o", "a", "v"⟩ 9)
      (sampleRegistry.authenticateTransport "node-1" "sha256:0" "proof" "0.1.0" 9) := by
  have distinct : sampleRegistry.inner.CredentialsDistinct := by
    have hone : sampleRegistry.inner.credentials.length = 1 := by decide +kernel
    obtain ⟨credential, hcredentials⟩ := List.length_eq_one_iff.mp hone
    rw [NodeEnrollmentState.CredentialsDistinct, hcredentials]
    exact List.pairwise_singleton _ _
  exact heartbeat_agrees_with_transport (sample_reached []) distinct
    ⟨"node-1", "sha256:0", "proof", "h", "o", "a", "v"⟩ "0.1.0" 9

end Agreement

/-! What the agent builds from a credential it was given. -/

/-- The body of the request: the status of the message is not among the fields read. -/
def heartbeatRequest (message : Agent.AgentHeartbeatMessage) : AgentHeartbeatRequest where
  nodeId := message.nodeId
  credentialFingerprint := message.credentialFingerprint
  credentialProof := message.credentialProof
  hostname := message.hostname
  os := message.os
  architecture := message.architecture
  agentVersion := message.agentVersion

/-- The secret that a call returned. -/
def EnrollmentReply.secret : EnrollmentReply → Option String
  | .enrolled (.ok response) => some response.credentialSecret
  | .rotated (.ok response) => some response.credential.credentialSecret
  | _ => none

def grantedSecrets (history : List EnrollmentEvent) : List String :=
  history.filterMap (fun e => e.reply.secret)

/-- The call gave a node this secret with this fingerprint, good until then. -/
inductive Grants (e : EnrollmentEvent) : String → String → String → Nat → Prop
  | enrolled {request : AgentEnrollmentRequest} {bytes : RandomBytes} {now : Nat} {system : Int}
      {response : AgentEnrollmentResponse} (call : e.call = .enroll request bytes now system)
      (reply : e.reply = .enrolled (.ok response)) :
    Grants e response.nodeId response.credentialSecret response.credentialFingerprint
      (now + nodeCredentialTtl)
  | rotated {nodeId : String} {bytes : RandomBytes} {now : Nat} {system : Int}
      {response : NodeCredentialRotationResponse}
      (call : e.call = .rotateCredential nodeId bytes now system)
      (reply : e.reply = .rotated (.ok response)) :
    Grants e nodeId response.credential.credentialSecret
      response.credential.credentialFingerprint (now + nodeCredentialTtl)

/-- The registry has the credential that belongs to the secret, for the node of that id. -/
def HasCredential (sha256 : ByteArray → List UInt8) (state : NodeEnrollmentState)
    (nodeId secret fingerprint : String) (expiresAt : Nat) : Prop :=
  ∃ node, state.node nodeId = some node ∧
    ∃ credential ∈ state.credentials, credential.nodeId = node.id ∧
      credential.credentialFingerprint = fingerprint ∧
      credential.credentialProof = credentialProof sha256 nodeId secret ∧
      credential.expiresAt = expiresAt

section Granted

variable {sha256 : ByteArray → List UInt8} {history : List EnrollmentEvent}
  {registry after : NodeEnrollmentRegistry} {e : EnrollmentEvent} {call : EnrollmentCall}
  {reply : EnrollmentReply}

/-- A replaced node is found under the ids it was found under, and is the same node. -/
theorem exists_node_changeNode {state : NodeEnrollmentState} {other nodeId : String}
    {old changed node : NodeRecord} (replaced : state.node other = some old)
    (id : changed.id = old.id) (text : changed.nodeId = old.nodeId)
    (found : state.node nodeId = some node) :
    ∃ later, (state.changeNode other (fun _ => changed)).node nodeId = some later ∧
      later.id = node.id := by
  have hnode := NodeEnrollmentState.node_changeNode changed replaced text nodeId
  by_cases hother : nodeId = other
  · rw [if_pos hother] at hnode
    rw [hother, replaced, Option.some.injEq] at found
    exact ⟨changed, hnode, found ▸ id⟩
  · rw [if_neg hother] at hnode
    exact ⟨node, hnode.trans found, rfl⟩

/-- What a call leaves of the nodes and credentials: ids stay and credentials are only added. -/
theorem EnrollmentStep.grows (step : EnrollmentStep sha256 registry call reply after)
    {nodeId : String} {node : NodeRecord} (found : registry.inner.node nodeId = some node) :
    (∃ later, after.inner.node nodeId = some later ∧ later.id = node.id) ∧
      registry.inner.credentials ⊆ after.inner.credentials := by
  cases step with
  | refused _ _ error => exact ⟨⟨node, found, rfl⟩, List.Subset.refl _⟩
  | created user ttl bytes now response token => exact ⟨⟨node, found, rfl⟩, List.Subset.refl _⟩
  | enrolled request bytes now system token hfound unused live =>
    refine ⟨⟨node, ?_, rfl⟩, List.subset_append_left _ _⟩
    rw [NodeEnrollmentState.node] at found ⊢
    rw [NodeEnrollmentState.addNode, Records.find_append, found]
    rfl
  | connected _ other old changed now view hfound allowed id text =>
    refine ⟨exists_node_changeNode hfound id text found, ?_⟩
    rw [NodeEnrollmentState.connect, NodeEnrollmentState.credentials_changeNode]
    exact List.Subset.refl _
  | revoked other old now view hfound =>
    refine ⟨exists_node_changeNode hfound rfl rfl found, ?_⟩
    rw [NodeEnrollmentState.credentials_changeNode]
    exact List.Subset.refl _
  | rotated other old bytes now system previous response hfound allowed secret fingerprint =>
    exact ⟨⟨node, found, rfl⟩, List.subset_append_left _ _⟩

theorem HasCredential.step {nodeId secret fingerprint : String} {expiresAt : Nat}
    (h : HasCredential sha256 registry.inner nodeId secret fingerprint expiresAt)
    (step : EnrollmentStep sha256 registry call reply after) :
    HasCredential sha256 after.inner nodeId secret fingerprint expiresAt := by
  obtain ⟨node, hnode, credential, hmem, hid, hrest⟩ := h
  obtain ⟨⟨later, hlater, hsame⟩, hgrows⟩ := step.grows hnode
  exact ⟨later, hlater, credential, hgrows hmem, hid.trans hsame.symm, hrest⟩

/-- The call that gives a credential records it. -/
theorem EnrollmentStep.grants (step : EnrollmentStep sha256 registry e.call e.reply after)
    (linked : after.inner.Linked after.nextNodeId) {nodeId secret fingerprint : String}
    {expiresAt : Nat} (h : Grants e nodeId secret fingerprint expiresAt) :
    HasCredential sha256 after.inner nodeId secret fingerprint expiresAt := by
  cases h with
  | enrolled hcall hreply =>
    rw [hcall, hreply] at step
    cases step with
    | refused _ _ error => cases error
    | enrolled request bytes now system token found unused live =>
      have hnode := linked.node_of_mem (List.mem_append_right _ (List.mem_singleton_self _))
      exact ⟨_, hnode, _, List.mem_append_right _ (List.mem_singleton_self _), rfl, rfl, rfl, rfl⟩
  | rotated hcall hreply =>
    rw [hcall, hreply] at step
    cases step with
    | refused _ _ error => cases error
    | rotated _ node bytes now system previous response found allowed hsecret hfingerprint =>
      rw [hsecret, hfingerprint]
      exact ⟨node, found, _, List.mem_append_right _ (List.mem_singleton_self _), rfl, rfl, rfl,
        rfl⟩

theorem hasCredential_of_grants (reached : EnrollmentReaches sha256 history registry)
    (he : e ∈ history) {nodeId secret fingerprint : String} {expiresAt : Nat}
    (h : Grants e nodeId secret fingerprint expiresAt) :
    HasCredential sha256 registry.inner nodeId secret fingerprint expiresAt := by
  refine Serves.invariant (I := fun history registry => e ∈ history →
    HasCredential sha256 registry.inner nodeId secret fingerprint expiresAt) ?_ ?_ reached he
  · intro hnone
    cases hnone
  · intro history registry call hrun ih hmem
    have step := registry.serve_step sha256 call
    rcases List.mem_append.mp hmem with hmem | hmem
    · exact (ih hmem).step step
    · rw [List.mem_singleton] at hmem
      subst hmem
      exact EnrollmentStep.grants step (EnrollmentReaches.linked (hrun.next call)) h

/-- The fingerprints on record are those of the secrets that were given, in their order. -/
theorem EnrollmentStep.fingerprints (step : EnrollmentStep sha256 registry call reply after) :
    after.inner.credentials.map (·.credentialFingerprint) =
      registry.inner.credentials.map (·.credentialFingerprint) ++
        reply.secret.toList.map (credentialFingerprint sha256) := by
  cases step with
  | refused _ _ error =>
    have hsecret : reply.secret = none := by
      cases reply with
      | created response => rfl
      | enrolled result =>
        cases result with
        | error error => rfl
        | ok response => cases error
      | viewed result => rfl
      | rotated result =>
        cases result with
        | error error => rfl
        | ok response => cases error
    rw [hsecret, Option.toList_none, List.map_nil, List.append_nil]
  | created user ttl bytes now response token => exact (List.append_nil _).symm
  | enrolled request bytes now system token found unused live => exact List.map_append
  | connected _ other old changed now view hfound allowed id text =>
    rw [NodeEnrollmentState.connect, NodeEnrollmentState.credentials_changeNode]
    exact (List.append_nil _).symm
  | revoked other old now view hfound =>
    rw [NodeEnrollmentState.credentials_changeNode]
    exact (List.append_nil _).symm
  | rotated other old bytes now system previous response hfound allowed secret fingerprint =>
    rw [EnrollmentReply.secret, secret]
    exact List.map_append

theorem fingerprints_eq (reached : EnrollmentReaches sha256 history registry) :
    registry.inner.credentials.map (·.credentialFingerprint) =
      (grantedSecrets history).map (credentialFingerprint sha256) := by
  refine Serves.invariant (I := fun history registry =>
    registry.inner.credentials.map (·.credentialFingerprint) =
      (grantedSecrets history).map (credentialFingerprint sha256)) rfl ?_ reached
  intro history registry call _ ih
  have hsecrets : grantedSecrets (history ++ [served (NodeEnrollmentRegistry.serve sha256) registry
      call]) = grantedSecrets history ++ (registry.serve sha256 call).2.secret.toList := by
    rw [grantedSecrets, List.filterMap_append]
    cases hsecret : (registry.serve sha256 call).2.secret <;>
      simp [grantedSecrets, served, hsecret]
  rw [(registry.serve_step sha256 call).fingerprints, ih, hsecrets, List.map_append]

/-- The two crates compute the same fingerprint and the same proof. -/
theorem agent_credentialFingerprint (secret : String) :
    Agent.credentialFingerprint sha256 secret = credentialFingerprint sha256 secret := rfl

theorem agent_credentialProof (nodeId secret : String) :
    Agent.credentialProof sha256 nodeId secret = credentialProof sha256 nodeId secret :=
  agent_credentialFingerprint _

/-- Negotiating asks the registry once, and its reply opens the transport. -/
def Negotiates (registry : NodeEnrollmentRegistry)
    (envelope : Protocol.AgentTransportEnvelope) (kind : Protocol.AgentTransportKind)
    (now : Nat) : Prop :=
  ∃ nodeId fingerprint proof version resume view,
    negotiateTransportForKind envelope kind =
      .call (.node (.authenticateTransport nodeId fingerprint proof version)) resume ∧
    (registry.authenticateTransport nodeId fingerprint proof version now).2 = .ok view ∧
    resume (Except.ok view) = .done (.ok ⟨envelope.nodeId, envelope.transportId, kind⟩)

theorem negotiates_of_admitted {connection : Agent.PreparedConnection}
    {kind : Protocol.AgentTransportKind} {now : Nat} {node : NodeRecord}
    (supported : kind ∈ connection.transportClientHello.supportedTransports)
    (checked : registry.inner.checkCredential connection.heartbeat.nodeId
      connection.heartbeat.credentialFingerprint connection.heartbeat.credentialProof now =
        .ok node) :
    Negotiates registry connection.transportClientHelloEnvelope kind now := by
  have hvalid : connection.transportClientHelloEnvelope.validate = .ok () := rfl
  have hhello : validateClientHelloForTransport connection.transportClientHello kind = .ok () := by
    rw [validateClientHelloForTransport,
      if_neg (by simp [Agent.PreparedConnection.transportClientHello]),
      if_neg (not_not_intro supported)]
  obtain ⟨view, hview⟩ := (decided_authenticateTransport registry connection.heartbeat.nodeId
    connection.heartbeat.credentialFingerprint connection.heartbeat.credentialProof
    connection.heartbeat.agentVersion now).accepts.mpr ⟨node, checked⟩
  obtain ⟨resume, hcall, hdone⟩ : ∃ resume,
      negotiateTransportForKind connection.transportClientHelloEnvelope kind =
        .call (.node (.authenticateTransport connection.heartbeat.nodeId
          connection.heartbeat.credentialFingerprint connection.heartbeat.credentialProof
          connection.heartbeat.agentVersion)) resume ∧
      resume (Except.ok view) = .done (.ok ⟨connection.transportClientHelloEnvelope.nodeId,
        connection.transportClientHelloEnvelope.transportId, kind⟩) := by
    rw [negotiateTransportForKind, hvalid]
    simp only [Agent.PreparedConnection.transportClientHelloEnvelope,
      Protocol.AgentTransportEnvelope.current, hhello]
    exact ⟨_, rfl, rfl⟩
  exact ⟨_, _, _, _, resume, view, hcall, hview, hdone⟩

/-- No two credentials have one fingerprint when no two secrets do. -/
theorem credentialsDistinct (reached : EnrollmentReaches sha256 history registry)
    (secrets : (grantedSecrets history).Nodup)
    (free : ∀ secret ∈ grantedSecrets history, ∀ other ∈ grantedSecrets history,
      credentialFingerprint sha256 secret = credentialFingerprint sha256 other →
        secret = other) : registry.inner.CredentialsDistinct := by
  have hnodup : (registry.inner.credentials.map (·.credentialFingerprint)).Nodup := by
    rw [fingerprints_eq reached]
    exact secrets.map_on (fun secret hsecret other hother => free secret hsecret other hother)
  rw [List.Nodup, List.pairwise_map] at hnodup
  exact hnodup.imp (fun hne hsame => hne hsame.2.1)

/-- What the agent builds from a credential is accepted at any time before that credential
    expires, as long as the node is not revoked and whatever was called since, by the heartbeat
    endpoint and by both transports that the control plane negotiates. The values of `OsRng` do
    not repeat, and the digests of the secrets do not collide. -/
theorem credential_accepted (reached : EnrollmentReaches sha256 history registry)
    (secrets : (grantedSecrets history).Nodup)
    (free : ∀ secret ∈ grantedSecrets history, ∀ other ∈ grantedSecrets history,
      credentialFingerprint sha256 secret = credentialFingerprint sha256 other → secret = other)
    (he : e ∈ history) {nodeId secret fingerprint : String} {expiresAt now : Nat}
    (grants : Grants e nodeId secret fingerprint expiresAt) (before : now < expiresAt)
    (live : ∀ node, registry.inner.node nodeId = some node → node.status ≠ .revoked)
    (url version : String) (unix : Int) (info : Agent.LocalNodeInfo) :
    (∃ view, (registry.heartbeat (heartbeatRequest
      (.fromNodeIdentity sha256 nodeId fingerprint secret info)) now).2 = .ok view) ∧
    ∀ kind ∈ [Protocol.AgentTransportKind.webSocketTlsTcp443, .longPollHttps],
      Negotiates registry (Agent.PreparedConnection.new sha256 url
        ⟨nodeId, fingerprint, secret, unix, version⟩ info).transportClientHelloEnvelope kind
        now := by
  obtain ⟨node, hnode, credential, hmem, hid, hfingerprint, hproof, hexpires⟩ :=
    hasCredential_of_grants reached he grants
  have hholds : registry.inner.Holds nodeId fingerprint
      (Agent.credentialProof sha256 nodeId secret) now :=
    ⟨node, Records.mem_of_find hnode, Records.key_of_find hnode, live node hnode, credential, hmem,
      hid, hfingerprint, hproof.trans (agent_credentialProof nodeId secret).symm,
      by rw [hexpires]; exact before⟩
  obtain ⟨found, hchecked⟩ := (NodeEnrollmentState.checkCredential_ok_iff reached.linked
    (credentialsDistinct reached secrets free) _ _ _ _).mpr hholds
  constructor
  · exact (decided_heartbeat registry _ now).accepts.mpr ⟨found, hchecked⟩
  · intro kind hkind
    refine negotiates_of_admitted ?_ hchecked
    simp only [List.mem_cons, List.not_mem_nil, or_false] at hkind
    rcases hkind with rfl | rfl
    · simp [Agent.PreparedConnection.transportClientHello]
    · simp [Agent.PreparedConnection.transportClientHello]

end Granted

private def sampleInfo : Agent.LocalNodeInfo := ⟨"edge-1", "linux", "x86_64", "0.1.0"⟩

/-- What the sample enrollment returns. -/
private theorem sample_grants : ∃ e ∈ sampleHistory [],
    Grants e (nodeIdText 1) (randomToken sampleBytes)
      (credentialFingerprint sampleDigest (randomToken sampleBytes)) (5 + nodeCredentialTtl) := by
  let created := (NodeEnrollmentRegistry.default.createToken
    ⟨1, "admin@sunbolt.local", .admin⟩ (secs 900) sampleToken 0).1
  have hreply : (created.enroll sampleDigest sampleRequest sampleBytes 5 (secs 1700000000)).2 =
      .ok _ := enroll_of_found (AList.lookup_insert _) rfl (by decide) _ _
  have hgrants := Grants.enrolled
    (e := served (NodeEnrollmentRegistry.serve sampleDigest) created
      (.enroll sampleRequest sampleBytes 5 (secs 1700000000)))
    rfl (congrArg EnrollmentReply.enrolled hreply)
  exact ⟨_, List.mem_cons_of_mem _ List.mem_cons_self, hgrants⟩

theorem credential_accepted_sample :
    ∃ view, (sampleRegistry.heartbeat (heartbeatRequest (.fromNodeIdentity sampleDigest
      (nodeIdText 1) (credentialFingerprint sampleDigest (randomToken sampleBytes))
      (randomToken sampleBytes) sampleInfo)) (secs 1000)).2 = .ok view := by
  have hsecrets : grantedSecrets (sampleHistory []) = [randomToken sampleBytes] := by
    decide +kernel
  have hstatus : (sampleRegistry.inner.node (nodeIdText 1)).map (·.status) =
      some .enrolled := by
    decide +kernel
  obtain ⟨e, he, grants⟩ := sample_grants
  refine (credential_accepted (sample_reached []) ?_ ?_ he grants (by decide) ?_
    "http://127.0.0.1:3000" "0.1.0" 0 sampleInfo).1
  · rw [hsecrets]
    exact List.nodup_singleton _
  · rw [hsecrets]
    simp
  · intro node hnode
    change sampleRegistry.inner.node _ = some node at hnode
    rw [hnode, Option.map_some, Option.some.injEq] at hstatus
    rw [hstatus]
    decide

end Sunbolt.Control
