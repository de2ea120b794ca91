/- Module: Sunbolt/Control/RevokedNodes
   scope: sunbolt-control/src/node.rs
   digest: A revoked node stays revoked, whatever is called afterwards. -/

import Sunbolt.Control.NodeEnrollmentSteps

set_option autoImplicit false
set_option relaxedAutoImplicit false

namespace Sunbolt.Control

open Sunbolt.Library

namespace NodeEnrollmentState

variable {state : NodeEnrollmentState} {nodeId : String} {node : NodeRecord}

/-- The operations that act for a node refuse, and the views of it say why. -/
structure ShutOut (sha256 : ByteArray → List UInt8) (registry : NodeEnrollmentRegistry)
    (nodeId : String) : Prop where
  heartbeat : ∀ request now, request.nodeId = nodeId →
    registry.heartbeat request now = (registry, .error .revoked)
  authenticateTransport : ∀ fingerprint proof version now,
    registry.authenticateTransport nodeId fingerprint proof version now =
      (registry, .error .revoked)
  rotateCredential : ∀ bytes now system,
    registry.rotateCredential sha256 nodeId bytes now system = (registry, .error .revoked)
  nodeDetails : ∀ now, ∃ view, registry.inner.nodeDetails nodeId now = some view ∧
    view.status = .revoked
  nodeIsOnline : ∀ now, registry.inner.nodeIsOnline nodeId now = false

/-- The node that operations on this id find is revoked. -/
def IsRevoked (state : NodeEnrollmentState) (nodeId : String) : Prop :=
  ∃ node, state.node nodeId = some node ∧ node.status = .revoked

theorem nodeDetails_eq (state : NodeEnrollmentState) (nodeId : String) (now : Nat) :
    state.nodeDetails nodeId now = (state.node nodeId).map (fun node =>
      nodeView node (state.latestHeartbeatAt node.id) now
        (state.credentialExpirationForNode node.id)) := rfl

theorem IsRevoked.checkCredential (h : state.IsRevoked nodeId) (fingerprint proof : String)
    (now : Nat) :
    state.checkCredential nodeId fingerprint proof now = .error .revoked := by
  obtain ⟨node, hnode, hrevoked⟩ := h
  simp only [NodeEnrollmentState.checkCredential, hnode, if_pos hrevoked]

theorem IsRevoked.rotateCredential (h : state.IsRevoked nodeId)
    (sha256 : ByteArray → List UInt8) (bytes : RandomBytes) (now : Nat) (system : Int) :
    state.rotateCredential sha256 nodeId bytes now system = (state, .error .revoked) := by
  rcases state.rotateCredential_cases sha256 nodeId bytes now system with
    ⟨error, heq, herror⟩ | ⟨node, previous, response, hnode, hallowed, -⟩
  · rw [heq, herror.mpr h]
  · obtain ⟨found, hfound, hrevoked⟩ := h
    rw [hfound, Option.some.injEq] at hnode
    exact absurd (hnode ▸ hrevoked) hallowed

/-- A revoked record is never shown as another status, however old its last heartbeat is. -/
theorem IsRevoked.nodeDetails (h : state.IsRevoked nodeId) (now : Nat) :
    ∃ view, state.nodeDetails nodeId now = some view ∧ view.status = .revoked := by
  obtain ⟨node, hnode, hrevoked⟩ := h
  rw [nodeDetails_eq, hnode]
  refine ⟨_, rfl, ?_⟩
  simp [nodeView, hrevoked]

theorem IsRevoked.shutOut {sha256 : ByteArray → List UInt8} {registry : NodeEnrollmentRegistry}
    (h : registry.inner.IsRevoked nodeId) : ShutOut sha256 registry nodeId where
  heartbeat request now hid := by
    rw [NodeEnrollmentRegistry.heartbeat, heartbeat_eq, hid, h.checkCredential]
    rfl
  authenticateTransport fingerprint proof version now := by
    rw [NodeEnrollmentRegistry.authenticateTransport, authenticateTransport_eq, h.checkCredential]
    rfl
  rotateCredential bytes now system := by
    rw [NodeEnrollmentRegistry.rotateCredential, h.rotateCredential]
    rfl
  nodeDetails now := h.nodeDetails now
  nodeIsOnline now := by
    obtain ⟨view, hview, hstatus⟩ := h.nodeDetails now
    rw [NodeEnrollmentState.nodeIsOnline, hview]
    simp [hstatus]

end NodeEnrollmentState

open NodeEnrollmentState

section Digest

variable {sha256 : ByteArray → List UInt8} {registry after : NodeEnrollmentRegistry}

/-- No call makes anything else of a revoked node: only a node that is not revoked connects, and
    a new node comes behind the ones that are there. -/
theorem EnrollmentStep.isRevoked {call : EnrollmentCall} {reply : EnrollmentReply} {nodeId : String}
    (step : EnrollmentStep sha256 registry call reply after) (h : registry.inner.IsRevoked nodeId) :
    after.inner.IsRevoked nodeId := by
  obtain ⟨node, hnode, hrevoked⟩ := h
  cases step with
  | refused _ _ error => exact ⟨node, hnode, hrevoked⟩
  | created user ttl bytes now response token => exact ⟨node, hnode, hrevoked⟩
  | enrolled request bytes now system token found unused live =>
    refine ⟨node, ?_, hrevoked⟩
    rw [NodeEnrollmentState.node] at hnode ⊢
    rw [addNode, Records.find_append, hnode]
    rfl
  | connected _ other found changed now view hfound hallowed hid htext =>
    have hother : nodeId ≠ other := by
      rintro rfl
      rw [hnode, Option.some.injEq] at hfound
      exact hallowed (hfound ▸ hrevoked)
    have hkeep := node_changeNode changed hfound htext nodeId
    rw [if_neg hother] at hkeep
    exact ⟨node, hkeep.trans hnode, hrevoked⟩
  | revoked other found now view hfound =>
    have hkeep := node_changeNode { found with status := .revoked } hfound rfl nodeId
    by_cases hother : nodeId = other
    · rw [if_pos hother] at hkeep
      exact ⟨_, hkeep, rfl⟩
    · rw [if_neg hother] at hkeep
      exact ⟨node, hkeep.trans hnode, hrevoked⟩
  | rotated other found bytes now system previous response hfound hallowed hsecret hprint =>
    exact ⟨node, hnode, hrevoked⟩

theorem isRevoked_of_serves {history : List EnrollmentEvent} {nodeId : String}
    (h : Serves (NodeEnrollmentRegistry.serve sha256) registry history after)
    (hrevoked : registry.inner.IsRevoked nodeId) : after.inner.IsRevoked nodeId :=
  Serves.invariant (I := fun _ registry => registry.inner.IsRevoked nodeId) hrevoked
    (fun _ registry call _ ih => (registry.serve_step sha256 call).isRevoked ih) h

theorem isRevoked_of_revokeNode {nodeId : String} {now : Nat} {view : NodeView}
    (h : (registry.inner.revokeNode nodeId now).2 = .ok view) :
    (registry.inner.revokeNode nodeId now).1.IsRevoked nodeId := by
  rw [revokeNode_eq] at h ⊢
  cases hnode : registry.inner.node nodeId with
  | none =>
    rw [hnode] at h
    cases h
  | some node =>
    have hkeep := node_changeNode { node with status := .revoked } hnode rfl nodeId
    rw [if_pos rfl] at hkeep
    exact ⟨_, hkeep, rfl⟩

/-- Once a call of `revoke_node` has succeeded, the node is shut out at every later point of the
    run, whatever credentials it had and whatever is called in between. -/
theorem revoked_for_good {history front back : List EnrollmentEvent} {e : EnrollmentEvent}
    {nodeId : String} {now : Nat} {view : NodeView}
    (reached : EnrollmentReaches sha256 history registry)
    (split : history = front ++ e :: back) (call : e.call = .revokeNode nodeId now)
    (succeeded : e.reply = .viewed (.ok view)) : ShutOut sha256 registry nodeId := by
  obtain ⟨-, heq, hback⟩ := reached.split split
  have hserved : e = served (NodeEnrollmentRegistry.serve sha256) e.before
      (.revokeNode nodeId now) := call ▸ heq
  have hreply : (e.before.inner.revokeNode nodeId now).2 = .ok view := by
    rw [hserved] at succeeded
    exact EnrollmentReply.viewed.inj succeeded
  have hafter : e.after.inner = (e.before.inner.revokeNode nodeId now).1 := by
    rw [hserved]
    rfl
  have hrevoked : e.after.inner.IsRevoked nodeId := by
    rw [hafter]
    exact isRevoked_of_revokeNode hreply
  exact (isRevoked_of_serves hback hrevoked).shutOut

end Digest

private theorem sample_revokes :
    ∃ view, (sampleRegistry.inner.revokeNode "node-1" 9).2 = .ok view := by
  have hok : (sampleRegistry.inner.revokeNode "node-1" 9).2.isOk = true := by decide +kernel
  cases hresult : (sampleRegistry.inner.revokeNode "node-1" 9).2 with
  | error error =>
    rw [hresult] at hok
    cases hok
  | ok view => exact ⟨view, rfl⟩

theorem revoked_for_good_sample : ShutOut sampleDigest
    (sampleEnd [.revokeNode "node-1" 9, .rotateCredential "node-1" sampleToken 10 11])
    "node-1" := by
  obtain ⟨view, hview⟩ := sample_revokes
  exact revoked_for_good (sample_reached _) rfl rfl (congrArg EnrollmentReply.viewed hview)

end Sunbolt.Control
