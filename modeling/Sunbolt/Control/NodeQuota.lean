/- Module: Sunbolt/Control/NodeQuota
   scope: sunbolt-control/src/routes/node.rs, sunbolt-control/src/routes/agent.rs
   digest: What the limiters of the node routes allow: how many nodes a user can let in. -/

import Sunbolt.Control.NodeAccess
import Sunbolt.Control.SharedLimiter

set_option autoImplicit false
set_option relaxedAutoImplicit false

namespace Sunbolt.Control.NodeRoutes

open Sunbolt.Library
open Sunbolt.Auth (Primitives User)

/-! The limiters of the routes. -/

def tokenCheck : Interaction NodeAction NodeReply → Option (String × Bool)
  | ⟨.checkToken key, allowed⟩ => some (key, allowed)
  | _ => none

def agentCheck : Interaction NodeAction NodeReply → Option (String × Bool)
  | ⟨.checkAgent key, allowed⟩ => some (key, allowed)
  | _ => none

section Checks

variable {primitives : Primitives} {sha256 : ByteArray → List UInt8} {state next : NodeState}
  {action : NodeAction} {choice : NodeChoice} {reply : NodeReply action}

theorem limiterStep_token
    (h : performNode primitives sha256 state action choice = some (reply, next)) :
    LimiterStep NodeState.enrollmentTokenRateLimiter NodeState.clock tokenCheck state next
      ⟨action, reply⟩ where
  goesOn := (performNode_frame h).clock
  checked := by
    intro key allowed hcheck
    cases action with
    | checkToken other =>
      cases hcheck
      cases choice <;> simp only [performNode, reduceCtorEq] at h
      obtain ⟨-, hout⟩ := atInstant_eq h
      cases hout
      rfl
    | _ => cases hcheck
  other := by
    intro hcheck
    apply (performNode_frame h).tokenLimiter
    rintro key rfl
    cases hcheck

theorem limiterStep_agent
    (h : performNode primitives sha256 state action choice = some (reply, next)) :
    LimiterStep NodeState.agentAuthFailureRateLimiter NodeState.clock agentCheck state next
      ⟨action, reply⟩ where
  goesOn := (performNode_frame h).clock
  checked := by
    intro key allowed hcheck
    cases action with
    | checkAgent other =>
      cases hcheck
      cases choice <;> simp only [performNode, reduceCtorEq] at h
      obtain ⟨-, hout⟩ := atInstant_eq h
      cases hout
      rfl
    | _ => cases hcheck
  other := by
    intro hcheck
    apply (performNode_frame h).agentLimiter
    rintro key rfl
    cases hcheck

end Checks

/-! The tokens that the nodes were enrolled with. -/

/-- The token that a call has created. -/
def tokenMade : Interaction NodeAction NodeReply → Option String
  | ⟨.createToken _ _, some response⟩ => some response.token
  | _ => none

def tokensMade (history : List NodeEvent) : List String :=
  history.filterMap (fun e => tokenMade e.interaction)

section Tokens

variable {primitives : Primitives} {sha256 : ByteArray → List UInt8} {history : List NodeEvent}
  {pool : NodePool} {action : NodeAction} {reply : NodeReply action}

theorem tokenMade_of_registryReply {result : EnrollmentReply}
    (h : registryReply action reply = some result) :
    result.token = tokenMade ⟨action, reply⟩ := by
  cases action with
  | createToken user expiresInSecs =>
    obtain ⟨response, rfl, rfl⟩ := Option.map_eq_some_iff.mp h
    rfl
  | enroll request | heartbeat request | authenticateTransport nodeId fingerprint proof version
  | rotateCredential nodeId | revokeNode nodeId =>
    cases h
    rfl
  | _ => cases h

theorem tokenMade_of_silent (h : registryReply action reply = none) :
    tokenMade ⟨action, reply⟩ = none := by
  cases action with
  | createToken user expiresInSecs =>
    rw [registryReply, Option.map_eq_none_iff] at h
    rw [h]
    rfl
  | _ => rfl

/-- The calls of the registry in a run have created the tokens of the run; and the nodes hang
    together with them as after any calls. -/
theorem NodeReaches.tokensLinked (h : NodeReaches primitives sha256 history pool) :
    ∃ calls : List EnrollmentEvent, createdTokens calls = tokensMade history ∧
      pool.shared.nodeEnrollment.inner.Linked pool.shared.nodeEnrollment.nextNodeId ∧
      (TokensApart calls → pool.shared.nodeEnrollment.TokensLinked calls) := by
  refine Service.Reaches.invariant_of_calls (I := fun history state =>
    ∃ calls : List EnrollmentEvent, createdTokens calls = tokensMade history ∧
      state.nodeEnrollment.inner.Linked state.nodeEnrollment.nextNodeId ∧
      (TokensApart calls → state.nodeEnrollment.TokensLinked calls)) ?_ ?_ h
  · refine ⟨[], rfl, ?_, fun _ => ?_⟩
    · constructor <;> simp [NodeState.new, NodeEnrollmentRegistry.default, NodeEnrollmentState.ids]
    · constructor <;> simp [NodeState.new, NodeEnrollmentRegistry.default, NodeEnrollmentState.ids,
        enrolledTokens, NodeEnrollmentRegistry.UsedBy]
  · intro history state i origin action choice out held hout
    obtain ⟨calls, hcreated, linked, htokens⟩ := held
    have hmade : tokensMade (history ++
        [⟨i, origin, action, out.reply, state, out.shared, out.spawned⟩]) =
          tokensMade history ++ (tokenMade ⟨action, out.reply⟩).toList := filterMap_append_one _ _ _
    cases (performNode_frame (nodeService_perform hout)).registry with
    | kept silent nextTokenId same =>
      refine ⟨calls, ?_, ?_, fun apart => ?_⟩
      · rw [hmade, tokenMade_of_silent silent, hcreated]
        exact (List.append_nil _).symm
      · rw [same]
        exact linked
      · have hbefore := htokens apart
        rw [same]
        exact ⟨hbefore.issued, hbefore.spent, hbefore.once, hbefore.counted, hbefore.used⟩
    | served call result asks replied serves =>
      have hstep := state.nodeEnrollment.serve_step sha256 call
      rw [serves] at hstep
      let e : EnrollmentEvent := ⟨call, result, state.nodeEnrollment, out.shared.nodeEnrollment⟩
      refine ⟨calls ++ [e], ?_, hstep.linked linked, fun apart => ?_⟩
      · rw [createdTokens_concat, hcreated, hmade, ← tokenMade_of_registryReply replied]
      · exact @EnrollmentStep.tokensLinked _ _ _ calls e hstep linked (htokens apart.front) apart

/-- A request creates one token at most. -/
theorem NodeReaches.create_unique (h : NodeReaches primitives sha256 history pool)
    {d e : NodeEvent} (hd : d ∈ history) (he : e ∈ history)
    (hdmade : (tokenMade d.interaction).isSome = true)
    (hemade : (tokenMade e.interaction).isSome = true) (same : d.task = e.task) : d = e := by
  have creates : ∀ {e : NodeEvent}, (tokenMade e.interaction).isSome = true →
      ∃ user expiresInSecs, e.action = .createToken user expiresInSecs := by
    rintro ⟨task, origin, action, reply, before, after, spawned⟩ hmade
    cases action with
    | createToken user expiresInSecs => exact ⟨user, expiresInSecs, rfl⟩
    | _ => cases hmade
  apply Service.eq_of_task (K := fun action =>
    ∃ user expiresInSecs, action = .createToken user expiresInSecs) hd he (creates hdmade)
    (creates hemade) same
  rintro front e back hsplit - ⟨user, expiresInSecs, haction⟩ x hx ⟨user', expiresInSecs', hx'⟩
  have hact := Service.Reaches.act accessOrder_sound h hsplit
  rw [haction] at hact
  rw [hact.1, List.mem_singleton] at hx
  rw [hx] at hx'
  cases hx'

end Tokens

/-! The nodes that a user lets in. -/

/-- The task is an administrator's request, which the limiter let through at `now`; it created the
    token with which the node was enrolled. -/
def LetIn (history : List NodeEvent) (registry : NodeEnrollmentRegistry) (email : String)
    (task now : Nat) (node : NodeRecord) : Prop :=
  ∃ user request token, user.role = .admin ∧ user.email = email ∧
    (∃ d ∈ history, d.task = task ∧ d.interaction = ⟨.checkToken email, true⟩ ∧
      d.after.clock = now) ∧
    (∃ e ∈ history, e.task = task ∧ e.origin = .createEnrollmentToken user request ∧
      tokenMade e.interaction = some token) ∧
    registry.UsedBy (tokenHash token) node.id

/-- No two tokens that were created have the same hash. -/
def TokensDiffer (history : List NodeEvent) : Prop := ((tokensMade history).map tokenHash).Nodup

/-- The window can be subtracted from the instants of the checks of token requests. -/
def TokenWindowSubtracts (history : List NodeEvent) : Prop :=
  WindowSubtracts defaultEnrollmentTokenRateWindow NodeState.enrollmentTokenRateLimiter
    NodeState.clock tokenCheck history

/-- Every node was let in by one request, which let in no other node; and no administrator lets in
    more nodes in any window than the limiter allows. -/
structure NodesAccounted (history : List NodeEvent) (registry : NodeEnrollmentRegistry) : Prop where
  letIn : ∀ node ∈ registry.inner.nodes,
    ∃! task, ∃ email now, LetIn history registry email task now node
  apart : ∀ node ∈ registry.inner.nodes, ∀ node' ∈ registry.inner.nodes, ∀ email email' task now
    now', LetIn history registry email task now node →
    LetIn history registry email' task now' node' → node = node'
  bounded : ∀ email first (nodes : List NodeRecord), nodes.Nodup →
    (∀ node ∈ nodes, node ∈ registry.inner.nodes ∧ ∃ task now,
      LetIn history registry email task now node ∧ first ≤ now ∧
        now < first + defaultEnrollmentTokenRateWindow) →
    nodes.length ≤ defaultEnrollmentTokenRateMax

section Nodes

variable {primitives : Primitives} {sha256 : ByteArray → List UInt8} {history : List NodeEvent}
  {pool : NodePool}

/-- A call that has created a token stands after the check of its request. -/
theorem NodeReaches.letIn (h : NodeReaches primitives sha256 history pool) {e : NodeEvent}
    (he : e ∈ history) {token : String} (hmade : tokenMade e.interaction = some token)
    {registry : NodeEnrollmentRegistry} {node : NodeRecord}
    (used : registry.UsedBy (tokenHash token) node.id) :
    ∃ email now, LetIn history registry email e.task now node := by
  obtain ⟨front, back, hsplit⟩ := List.append_of_mem he
  have hact := Service.Reaches.act accessOrder_sound h hsplit
  obtain ⟨user, expiresInSecs, haction⟩ :
      ∃ user expiresInSecs, e.action = .createToken user expiresInSecs := by
    obtain ⟨task, origin, action, reply, before, after, spawned⟩ := e
    cases action with
    | createToken user expiresInSecs => exact ⟨user, expiresInSecs, rfl⟩
    | _ => cases hmade
  rw [haction] at hact
  obtain ⟨hpast, hadmin, request, horigin, -⟩ := hact
  have hchecked : ⟨.checkToken user.email, true⟩ ∈ Service.own e.task front := by
    rw [hpast]
    exact List.mem_cons_self
  obtain ⟨d, hd, htask, hcall⟩ := Service.mem_own.mp hchecked
  refine ⟨user.email, d.after.clock, user, request, token, hadmin, rfl, ⟨d, ?_, htask, hcall, rfl⟩,
    ⟨e, he, rfl, horigin, hmade⟩, used⟩
  rw [hsplit]
  exact List.mem_append_left _ hd

/-- A request lets one node in at most. -/
theorem NodeReaches.letIn_node (h : NodeReaches primitives sha256 history pool)
    {registry : NodeEnrollmentRegistry} {node node' : NodeRecord} {email email' : String}
    {task now now' : Nat} (letIn : LetIn history registry email task now node)
    (letIn' : LetIn history registry email' task now' node') : node.id = node'.id := by
  obtain ⟨-, -, token, -, -, -, ⟨e, he, htask, -, hmade⟩, record, hrecord, hid⟩ := letIn
  obtain ⟨-, -, token', -, -, -, ⟨e', he', htask', -, hmade'⟩, record', hrecord', hid'⟩ := letIn'
  obtain rfl : e = e' := h.create_unique he he' (by rw [hmade]; rfl) (by rw [hmade']; rfl)
    (htask.trans htask'.symm)
  obtain rfl : token = token' := Option.some.inj (hmade.symm.trans hmade')
  obtain rfl : record = record' := Option.some.inj (hrecord.symm.trans hrecord')
  exact Option.some.inj (hid.symm.trans hid')

/-- A node is let in by one request at most. -/
theorem letIn_task {registry : NodeEnrollmentRegistry} {calls : List EnrollmentEvent}
    (held : registry.TokensLinked calls) (differ : TokensDiffer history) {node : NodeRecord}
    (known : node ∈ registry.inner.nodes) {email email' : String} {task task' now now' : Nat}
    (letIn : LetIn history registry email task now node)
    (letIn' : LetIn history registry email' task' now' node) : task = task' := by
  obtain ⟨-, -, token, -, -, -, ⟨e, he, rfl, -, hmade⟩, used⟩ := letIn
  obtain ⟨-, -, token', -, -, -, ⟨e', he', rfl, -, hmade'⟩, used'⟩ := letIn'
  have hhash : tokenHash token = tokenHash token' :=
    (held.used _ (List.mem_map_of_mem known)).unique used used'
  have happart : (history.filterMap (fun e => (tokenMade e.interaction).map tokenHash)).Nodup := by
    rwa [TokensDiffer, tokensMade, List.map_filterMap] at differ
  have hsame : e = e' := by
    apply Records.eq_of_nodup_filterMap happart he he'
    · rw [hmade, Option.map_some]
    · rw [hmade', Option.map_some, hhash]
  rw [hsame]

end Nodes

end Sunbolt.Control.NodeRoutes
