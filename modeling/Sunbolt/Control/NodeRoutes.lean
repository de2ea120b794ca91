/- Module: Sunbolt/Control/NodeRoutes
   scope: sunbolt-control/src/routes/node.rs, sunbolt-control/src/routes/agent.rs
   digest: The node and agent routes over one registry, and every interleaving of their requests. -/

import Sunbolt.Audit.Chain
import Sunbolt.Auth.Rbac
import Sunbolt.Control.ExpiryInstants
import Sunbolt.Control.NodePresence
import Sunbolt.Control.RateLimiter
import Sunbolt.Library.Pool

set_option autoImplicit false
set_option relaxedAutoImplicit false

namespace Sunbolt.Control.NodeRoutes

open Sunbolt.Library
open Sunbolt.Auth (Primitives RbacCall RbacReply RbacStore User)

def defaultEnrollmentTokenRateWindow : Nat := secs (15 * 60)
def defaultEnrollmentTokenRateMax : Nat := 5
def defaultAgentAuthFailureRateWindow : Nat := secs (5 * 60)
def defaultAgentAuthFailureRateMax : Nat := 10

/-! The permissions that the routes ask for. -/

def nodeRegister : Sunbolt.Auth.Permission := ⟨"node.register"⟩
def nodeCredentialRotate : Sunbolt.Auth.Permission := ⟨"node.credential.rotate"⟩
def nodeRevoke : Sunbolt.Auth.Permission := ⟨"node.revoke"⟩
def terminalReattach : Sunbolt.Auth.Permission := ⟨"terminal.reattach"⟩

def userHasControlPlanePermission (user : User) (permission : Sunbolt.Auth.Permission) : Bool :=
  match user.role with
  | .admin => true
  | .operator => permission = .terminalOpen || permission = terminalReattach
  | .viewer => false

/-- What the routes share. The audit log holds what they record, and `clock` is the last instant
    that a call has read. -/
structure NodeState where
  nodeEnrollment : NodeEnrollmentRegistry
  auth : RbacStore
  enrollmentTokenRateLimiter : SlidingWindowRateLimiter
  agentAuthFailureRateLimiter : SlidingWindowRateLimiter
  audit : List Sunbolt.Audit.AuditEventInput
  clock : Nat

def NodeState.new : NodeState where
  nodeEnrollment := .default
  auth := .default
  enrollmentTokenRateLimiter :=
    .new defaultEnrollmentTokenRateWindow defaultEnrollmentTokenRateMax
  agentAuthFailureRateLimiter :=
    .new defaultAgentAuthFailureRateWindow defaultAgentAuthFailureRateMax
  audit := []
  clock := 0

structure EnrollmentTokenRequest where
  expiresInSecs : Option UInt64

/-- An HTTP response, by its body. -/
inductive NodeResponse where
  | token (response : EnrollmentTokenResponse)
  | nodes (nodes : List NodeView)
  | node (node : NodeView)
  | rotation (rotation : NodeCredentialRotationResponse)
  | enrolled (response : AgentEnrollmentResponse)
  | heartbeat (accepted : Bool) (node : NodeView)
  | error (status : Nat) (error : String)
  deriving DecidableEq

/-- What the environment decides about a call: the clocks, what is drawn at random, and whether
    a lock is found poisoned. -/
inductive NodeChoice where
  | none
  | poisoned
  | clock (now : Instant)
  | drawn (bytes : RandomBytes) (now : Instant) (system : Int)

/-- The critical sections of the registry, the limiters and the store, and the response. -/
inductive NodeAction where
  | checkToken (key : String)
  | checkAgent (key : String)
  | createToken (user : User) (expiresInSecs : Option UInt64)
  | enroll (request : AgentEnrollmentRequest)
  | heartbeat (request : AgentHeartbeatRequest)
  | authenticateTransport (nodeId credentialFingerprint credentialProof agentVersion : String)
  | listNodes
  | nodeDetails (nodeId : String)
  | rotateCredential (nodeId : String)
  | revokeNode (nodeId : String)
  | workspaceOfNode (nodeId : String)
  | workspacePermission (user : User) (workspaceId : Nat) (permission : Sunbolt.Auth.Permission)
  | rbac (call : RbacCall)
  | audit (input : Sunbolt.Audit.AuditEventInput)
  | respond (response : NodeResponse)

/-- A token is not returned where its creation panics, and no decision where a lock is poisoned. -/
abbrev NodeReply : NodeAction → Type
  | .checkToken _ => Bool
  | .checkAgent _ => Bool
  | .createToken .. => Option EnrollmentTokenResponse
  | .enroll _ => Except EnrollmentError AgentEnrollmentResponse
  | .heartbeat _ => Except NodeConnectionError NodeView
  | .authenticateTransport .. => Except NodeConnectionError NodeView
  | .listNodes => List NodeView
  | .nodeDetails _ => Option NodeView
  | .rotateCredential _ => Except NodeConnectionError NodeCredentialRotationResponse
  | .revokeNode _ => Except NodeConnectionError NodeView
  | .workspaceOfNode _ => Option (Option Nat)
  | .workspacePermission .. => Option Bool
  | .rbac _ => RbacReply
  | .audit _ => Unit
  | .respond _ => Unit

namespace NodeState

variable (state : NodeState)

/-- A call that reads the monotonic clock. -/
def atInstant {α : Type} (now : Instant) (f : NodeState → α × NodeState) :
    Option (α × NodeState) :=
  if state.clock ≤ now.index then some (f { state with clock := now.index }) else none

/-- A call that does something to the registry, and replies. -/
def onRegistry {α : Type} (out : NodeEnrollmentRegistry × α) : α × NodeState :=
  (out.2, { state with nodeEnrollment := out.1 })

def workspaceOf (nodeId : String) : Option Nat :=
  (state.auth.workspaceNodesByNodeId.lookup nodeId).map (·.workspaceId)

end NodeState

section Perform

variable (primitives : Primitives) (sha256 : ByteArray → List UInt8)

/-- The registry takes its lock even if it is poisoned, so a panic of `create_token` is only seen
    by its own caller. -/
def performNode (state : NodeState) :
    (action : NodeAction) → NodeChoice → Option (NodeReply action × NodeState)
  | .checkToken key, .clock now => state.atInstant now (fun state =>
    let (limiter, allowed) := state.enrollmentTokenRateLimiter.checkAndRecord key now.index
    (allowed, { state with enrollmentTokenRateLimiter := limiter }))
  | .checkAgent key, .clock now => state.atInstant now (fun state =>
    let (limiter, allowed) := state.agentAuthFailureRateLimiter.checkAndRecord key now.index
    (allowed, { state with agentAuthFailureRateLimiter := limiter }))
  | .createToken user expiresInSecs, .drawn bytes now _ => state.atInstant now (fun state =>
    let (registry, response) :=
      createEnrollmentToken ⟨state.nodeEnrollment, false⟩ user expiresInSecs bytes now
    state.onRegistry (registry.value, response))
  | .enroll request, .drawn bytes now system => state.atInstant now (fun state =>
    state.onRegistry (state.nodeEnrollment.enroll sha256 request bytes now.index system))
  | .heartbeat request, .clock now => state.atInstant now (fun state =>
    state.onRegistry (state.nodeEnrollment.heartbeat request now.index))
  | .authenticateTransport nodeId fingerprint proof version, .clock now =>
    state.atInstant now (fun state => state.onRegistry
      (state.nodeEnrollment.authenticateTransport nodeId fingerprint proof version now.index))
  | .listNodes, .clock now => state.atInstant now (fun state =>
    (state.nodeEnrollment.inner.listNodes now.index, state))
  | .nodeDetails nodeId, .clock now => state.atInstant now (fun state =>
    (state.nodeEnrollment.inner.nodeDetails nodeId now.index, state))
  | .rotateCredential nodeId, .drawn bytes now system => state.atInstant now (fun state =>
    state.onRegistry
      (state.nodeEnrollment.rotateCredential sha256 nodeId bytes now.index system))
  | .revokeNode nodeId, .clock now => state.atInstant now (fun state =>
    state.onRegistry (state.nodeEnrollment.revokeNode nodeId now.index))
  | .workspaceOfNode nodeId, .none => some (some (state.workspaceOf nodeId), state)
  | .workspaceOfNode _, .poisoned => some (none, state)
  | .workspacePermission user workspaceId permission, .none =>
    some (some (state.auth.userHasWorkspacePermission user workspaceId permission), state)
  | .workspacePermission .., .poisoned => some (none, state)
  | .rbac call, .none =>
    let (auth, reply) := RbacStore.serve primitives state.auth call
    some (reply, { state with auth := auth })
  | .audit input, .none => some ((), { state with audit := state.audit ++ [input] })
  | .respond _, .none => some ((), state)
  | _, _ => none

end Perform

/-- A handler of the node or agent routes. -/
abbrev NodeProgram := Program NodeAction NodeReply

def call (action : NodeAction) : NodeProgram (NodeReply action) :=
  Program.perform (R := NodeReply) action

def respond (response : NodeResponse) : NodeProgram Unit := call (.respond response)

def record (kind : Sunbolt.Audit.AuditEventKind) (actorEmail : Option String) (message : String) :
    NodeProgram Unit :=
  call (.audit ⟨kind, actorEmail, message⟩)

/-! The routes of users. -/

/-- `user_has_node_permission`; it locks the store for the node, and again for the workspace. -/
def userHasNodePermission (user : User) (nodeId : String)
    (permission : Sunbolt.Auth.Permission) : NodeProgram (Option Bool) := do
  if user.role = .admin then return some true
  else
    match ← call (.workspaceOfNode nodeId) with
    | none => return none
    | some none => return some false
    | some (some workspaceId) => call (.workspacePermission user workspaceId permission)

def createEnrollmentToken (user : User) (request : EnrollmentTokenRequest) :
    NodeProgram Unit := do
  if !userHasControlPlanePermission user nodeRegister then
    respond (.error 403 "node enrollment token creation is not permitted")
  else if !(← call (.checkToken user.email)) then
    respond (.error 429 "too many enrollment token requests")
  else
    match ← call (.createToken user request.expiresInSecs) with
    | none => pure ()
    | some response => respond (.token response)

/-- The filter of `list_nodes`: a node is left out as well where no decision can be made. -/
def viewable (user : User) : List NodeView → NodeProgram (List NodeView)
  | [] => return []
  | node :: nodes => do
    let allowed ← userHasNodePermission user node.nodeId .nodeView
    let rest ← viewable user nodes
    return if allowed.getD false then node :: rest else rest

def listNodes (user : User) : NodeProgram Unit := do
  let nodes ← call .listNodes
  let nodes ← viewable user nodes
  respond (.nodes nodes)

def nodeDetails (user : User) (nodeId : String) : NodeProgram Unit := do
  match ← call (.nodeDetails nodeId) with
  | none => respond (.error 404 "node not found")
  | some node =>
    match ← userHasNodePermission user nodeId .nodeView with
    | some true => respond (.node node)
    | some false => respond (.error 403 "node view is not permitted")
    | none => respond (.error 500 "auth service unavailable")

/-- The message of the audit event about a new credential. -/
def rotatedMessage (nodeId fingerprint : String) : String :=
  "node " ++ nodeId ++ " credential rotated to " ++ fingerprint

def rotateNodeCredential (user : User) (nodeId : String) : NodeProgram Unit := do
  match ← userHasNodePermission user nodeId nodeCredentialRotate with
  | some false => respond (.error 403 "node credential rotation is not permitted")
  | none => respond (.error 500 "auth service unavailable")
  | some true =>
    match ← call (.rotateCredential nodeId) with
    | .ok rotation =>
      record .nodeCredentialRotated (some user.email)
        (rotatedMessage nodeId rotation.credential.credentialFingerprint)
      respond (.rotation rotation)
    | .error .unknownNode => respond (.error 404 "node not found")
    | .error .revoked => respond (.error 403 "node revoked")
    | .error .invalidCredential | .error .credentialExpired =>
      respond (.error 403 "node credential cannot be rotated")

def revokedMessage (nodeId : String) : String := "node " ++ nodeId ++ " revoked"

/-- `revoke_node`, less what it does to the sessions and connections of the node. -/
def revokeNode (user : User) (nodeId : String) : NodeProgram Unit := do
  match ← userHasNodePermission user nodeId nodeRevoke with
  | some false => respond (.error 403 "node revocation is not permitted")
  | none => respond (.error 500 "auth service unavailable")
  | some true =>
    match ← call (.revokeNode nodeId) with
    | .ok node =>
      record .nodeRevoked (some user.email) (revokedMessage nodeId)
      respond (.node node)
    | .error .unknownNode => respond (.error 404 "node not found")
    | .error .invalidCredential | .error .credentialExpired | .error .revoked =>
      respond (.error 403 "node is not allowed")

/-! The routes of agents. -/

def enrolledMessage (nodeId : String) : String := "node " ++ nodeId ++ " enrolled"

def agentEnroll (request : AgentEnrollmentRequest) : NodeProgram Unit := do
  match ← call (.enroll request) with
  | .ok response =>
    record .nodeEnrolled none (enrolledMessage response.nodeId)
    respond (.enrolled response)
  | .error .invalidToken | .error .tokenUsed | .error .tokenExpired =>
    respond (.error 401 "invalid enrollment token")

def nodeConnectionErrorReason : NodeConnectionError → String
  | .unknownNode => "unknown node"
  | .invalidCredential => "invalid credential"
  | .credentialExpired => "credential expired"
  | .revoked => "node revoked"

def authenticationFailedMessage (nodeId : String) (error : NodeConnectionError) : String :=
  "agent authentication failed for node " ++ nodeId ++ ": " ++ nodeConnectionErrorReason error

def authenticationLimitedMessage (nodeId : String) : String :=
  "agent authentication rate limit exceeded for node " ++ nodeId

/-- Whether the agent has failed too often. -/
def recordAgentAuthenticationFailed (nodeId : String) (error : NodeConnectionError) :
    NodeProgram Bool := do
  let allowed ← call (.checkAgent nodeId)
  record .agentAuthenticationFailed none
    (if allowed then authenticationFailedMessage nodeId error
    else authenticationLimitedMessage nodeId)
  return !allowed

def agentHeartbeat (request : AgentHeartbeatRequest) : NodeProgram Unit := do
  match ← call (.heartbeat request) with
  | .ok node => respond (.heartbeat true node)
  | .error .revoked =>
    let rateLimited ← recordAgentAuthenticationFailed request.nodeId .revoked
    respond (.error (if rateLimited then 429 else 403)
      (if rateLimited then "too many agent authentication failures" else "node revoked"))
  | .error error =>
    let rateLimited ← recordAgentAuthenticationFailed request.nodeId error
    respond (.error (if rateLimited then 429 else 401)
      (if rateLimited then "too many agent authentication failures"
      else "invalid node credential"))

/-- The reason that the audit event of a refused handshake gives. -/
def agentTransportAuthenticationFailureReason : NodeConnectionError → String
  | .unknownNode | .invalidCredential | .credentialExpired => "invalid node identity"
  | .revoked => "node revoked"

def transportFailedMessage (nodeId transportId : String) (error : NodeConnectionError) : String :=
  "agent transport authentication failed for node " ++ nodeId ++ " on transport " ++
    transportId ++ ": " ++ agentTransportAuthenticationFailureReason error

def transportLimitedMessage (nodeId transportId : String) : String :=
  "agent transport authentication rate limit exceeded for node " ++ nodeId ++ " on transport " ++
    transportId

/-- The authentication of a transport handshake, and the record of its failure. -/
def agentTransport (nodeId transportId credentialFingerprint credentialProof : String)
    (agentVersion : String) : NodeProgram Unit := do
  match ← call (.authenticateTransport nodeId credentialFingerprint credentialProof
      agentVersion) with
  | .ok _ => pure ()
  | .error error =>
    let allowed ← call (.checkAgent nodeId)
    record .agentAuthenticationFailed none
      (if allowed then transportFailedMessage nodeId transportId error
      else transportLimitedMessage nodeId transportId)

/-- What arrives: a request of a signed-in user or of an agent, or a change of who may do what. -/
inductive NodeJob where
  | createEnrollmentToken (user : User) (request : EnrollmentTokenRequest)
  | listNodes (user : User)
  | nodeDetails (user : User) (nodeId : String)
  | rotateNodeCredential (user : User) (nodeId : String)
  | revokeNode (user : User) (nodeId : String)
  | agentEnroll (request : AgentEnrollmentRequest)
  | agentHeartbeat (request : AgentHeartbeatRequest)
  | agentTransport (nodeId transportId credentialFingerprint credentialProof agentVersion : String)
  | rbac (call : RbacCall)

def NodeJob.program : NodeJob → NodeProgram Unit
  | .createEnrollmentToken user request => NodeRoutes.createEnrollmentToken user request
  | .listNodes user => NodeRoutes.listNodes user
  | .nodeDetails user nodeId => NodeRoutes.nodeDetails user nodeId
  | .rotateNodeCredential user nodeId => NodeRoutes.rotateNodeCredential user nodeId
  | .revokeNode user nodeId => NodeRoutes.revokeNode user nodeId
  | .agentEnroll request => NodeRoutes.agentEnroll request
  | .agentHeartbeat request => NodeRoutes.agentHeartbeat request
  | .agentTransport nodeId transportId fingerprint proof version =>
    NodeRoutes.agentTransport nodeId transportId fingerprint proof version
  | .rbac change => do
    let _ ← call (.rbac change)

section Service

variable (primitives : Primitives) (sha256 : ByteArray → List UInt8)

def nodeService : Service NodeState NodeAction NodeReply NodeJob NodeChoice where
  perform _ state action choice := (performNode primitives sha256 state action choice).map
    (fun (reply, state) => ⟨reply, state, []⟩)
  body job := do
    job.program
    return none

abbrev NodeEvent := Event NodeState NodeAction NodeReply NodeJob

abbrev NodePool := Pool NodeState NodeAction NodeReply NodeJob

abbrev NodePast := List (Interaction NodeAction NodeReply)

/-- The runs of any number of requests, in any order, from an empty service. -/
def NodeReaches (history : List NodeEvent) (pool : NodePool) : Prop :=
  (nodeService primitives sha256).Reaches id .new history pool

end Service

/-! What a call does. -/

/-- The audit events that a call records. -/
def recorded : NodeAction → List Sunbolt.Audit.AuditEventInput
  | .audit input => [input]
  | _ => []

/-- The operation of the registry that a call is. -/
inductive NodeAction.Asks : NodeAction → EnrollmentCall → Prop
  | createToken (user : User) (expiresInSecs : Option UInt64) (ttl : Nat) (bytes : RandomBytes)
    (now : Nat) : Asks (.createToken user expiresInSecs) (.createToken user ttl bytes now)
  | enroll (request : AgentEnrollmentRequest) (bytes : RandomBytes) (now : Nat) (system : Int) :
    Asks (.enroll request) (.enroll request bytes now system)
  | heartbeat (request : AgentHeartbeatRequest) (now : Nat) :
    Asks (.heartbeat request) (.heartbeat request now)
  | authenticateTransport (nodeId fingerprint proof version : String) (now : Nat) :
    Asks (.authenticateTransport nodeId fingerprint proof version)
      (.authenticateTransport nodeId fingerprint proof version now)
  | rotateCredential (nodeId : String) (bytes : RandomBytes) (now : Nat) (system : Int) :
    Asks (.rotateCredential nodeId) (.rotateCredential nodeId bytes now system)
  | revokeNode (nodeId : String) (now : Nat) : Asks (.revokeNode nodeId) (.revokeNode nodeId now)

/-- What the registry has replied to a call, where the call is one of its operations. -/
def registryReply : (action : NodeAction) → NodeReply action → Option EnrollmentReply
  | .createToken .., response => response.map .created
  | .enroll _, result => some (.enrolled result)
  | .heartbeat _, result => some (.viewed result)
  | .authenticateTransport .., result => some (.viewed result)
  | .rotateCredential _, result => some (.rotated result)
  | .revokeNode _, result => some (.viewed result)
  | _, _ => none

section Calls

variable {primitives : Primitives} {sha256 : ByteArray → List UInt8} {state next : NodeState}
  {action : NodeAction} {choice : NodeChoice} {reply : NodeReply action}

/-- A call is an operation of the registry, or leaves the nodes and tokens as they are. -/
inductive RegistryStep (sha256 : ByteArray → List UInt8) (state next : NodeState)
    (action : NodeAction) (reply : NodeReply action) : Prop
  | served (call : EnrollmentCall) (result : EnrollmentReply) (asks : action.Asks call)
    (replied : registryReply action reply = some result)
    (serves : state.nodeEnrollment.serve sha256 call = (next.nodeEnrollment, result))
  | kept (silent : registryReply action reply = none) (nextTokenId : Nat)
    (same : next.nodeEnrollment = { state.nodeEnrollment with nextTokenId := nextTokenId })

/-- What a call changes, and what it leaves as it is. -/
structure NodeFrame (primitives : Primitives) (sha256 : ByteArray → List UInt8)
    (state next : NodeState) (action : NodeAction) (reply : NodeReply action) : Prop where
  clock : state.clock ≤ next.clock
  audit : next.audit = state.audit ++ recorded action
  auth : next.auth = state.auth ∨
    ∃ change, action = .rbac change ∧ next.auth = (state.auth.serve primitives change).1
  tokenLimiter : (∀ key, action ≠ .checkToken key) →
    next.enrollmentTokenRateLimiter = state.enrollmentTokenRateLimiter
  agentLimiter : (∀ key, action ≠ .checkAgent key) →
    next.agentAuthFailureRateLimiter = state.agentAuthFailureRateLimiter
  registry : RegistryStep sha256 state next action reply

theorem atInstant_eq {α : Type} {now : Instant} {f : NodeState → α × NodeState}
    {out : α × NodeState} (h : state.atInstant now f = some out) :
    state.clock ≤ now.index ∧ f { state with clock := now.index } = out := by
  rw [NodeState.atInstant] at h
  split_ifs at h with hle
  exact ⟨hle, Option.some.inj h⟩

theorem performNode_frame
    (h : performNode primitives sha256 state action choice = some (reply, next)) :
    NodeFrame primitives sha256 state next action reply := by
  cases action with
  | checkToken key =>
    cases choice <;> simp only [performNode, reduceCtorEq] at h
    obtain ⟨hle, hout⟩ := atInstant_eq h
    cases hout
    exact ⟨hle, (List.append_nil _).symm, Or.inl rfl, fun other => absurd rfl (other key),
      fun _ => rfl, .kept rfl _ rfl⟩
  | checkAgent key =>
    cases choice <;> simp only [performNode, reduceCtorEq] at h
    obtain ⟨hle, hout⟩ := atInstant_eq h
    cases hout
    exact ⟨hle, (List.append_nil _).symm, Or.inl rfl, fun _ => rfl,
      fun other => absurd rfl (other key), .kept rfl _ rfl⟩
  | createToken user expiresInSecs =>
    cases choice <;> simp only [performNode, reduceCtorEq] at h
    obtain ⟨hle, hout⟩ := atInstant_eq h
    cases hout
    refine ⟨hle, (List.append_nil _).symm, Or.inl rfl, fun _ => rfl, fun _ => rfl, ?_⟩
    dsimp only [NodeState.onRegistry, Control.createEnrollmentToken]
    split
    · exact .kept rfl _ rfl
    · exact .served _ _ (.createToken user expiresInSecs _ _ _) rfl rfl
  | enroll request =>
    cases choice <;> simp only [performNode, reduceCtorEq] at h
    obtain ⟨hle, hout⟩ := atInstant_eq h
    cases hout
    exact ⟨hle, (List.append_nil _).symm, Or.inl rfl, fun _ => rfl, fun _ => rfl,
      .served _ _ (.enroll request _ _ _) rfl rfl⟩
  | heartbeat request =>
    cases choice <;> simp only [performNode, reduceCtorEq] at h
    obtain ⟨hle, hout⟩ := atInstant_eq h
    cases hout
    exact ⟨hle, (List.append_nil _).symm, Or.inl rfl, fun _ => rfl, fun _ => rfl,
      .served _ _ (.heartbeat request _) rfl rfl⟩
  | authenticateTransport nodeId fingerprint proof version =>
    cases choice <;> simp only [performNode, reduceCtorEq] at h
    obtain ⟨hle, hout⟩ := atInstant_eq h
    cases hout
    exact ⟨hle, (List.append_nil _).symm, Or.inl rfl, fun _ => rfl, fun _ => rfl,
      .served _ _ (.authenticateTransport nodeId fingerprint proof version _) rfl rfl⟩
  | rotateCredential nodeId =>
    cases choice <;> simp only [performNode, reduceCtorEq] at h
    obtain ⟨hle, hout⟩ := atInstant_eq h
    cases hout
    exact ⟨hle, (List.append_nil _).symm, Or.inl rfl, fun _ => rfl, fun _ => rfl,
      .served _ _ (.rotateCredential nodeId _ _ _) rfl rfl⟩
  | revokeNode nodeId =>
    cases choice <;> simp only [performNode, reduceCtorEq] at h
    obtain ⟨hle, hout⟩ := atInstant_eq h
    cases hout
    exact ⟨hle, (List.append_nil _).symm, Or.inl rfl, fun _ => rfl, fun _ => rfl,
      .served _ _ (.revokeNode nodeId _) rfl rfl⟩
  | listNodes | nodeDetails nodeId =>
    cases choice <;> simp only [performNode, reduceCtorEq] at h
    obtain ⟨hle, hout⟩ := atInstant_eq h
    cases hout
    exact ⟨hle, (List.append_nil _).symm, Or.inl rfl, fun _ => rfl, fun _ => rfl, .kept rfl _ rfl⟩
  | rbac change =>
    cases choice <;> cases h
    exact ⟨le_rfl, (List.append_nil _).symm, Or.inr ⟨change, rfl, rfl⟩, fun _ => rfl,
      fun _ => rfl, .kept rfl _ rfl⟩
  | audit input =>
    cases choice <;> cases h
    exact ⟨le_rfl, rfl, Or.inl rfl, fun _ => rfl, fun _ => rfl, .kept rfl _ rfl⟩
  | workspaceOfNode nodeId | workspacePermission user workspaceId permission | respond response =>
    cases choice <;> cases h
    all_goals exact ⟨le_rfl, (List.append_nil _).symm, Or.inl rfl, fun _ => rfl, fun _ => rfl,
      .kept rfl _ rfl⟩

end Calls

section Runs

variable {primitives : Primitives} {sha256 : ByteArray → List UInt8} {history : List NodeEvent}
  {pool : NodePool}

theorem nodeService_perform {i : Nat} {state : NodeState} {action : NodeAction}
    {choice : NodeChoice} {out : Outcome NodeState NodeAction NodeReply NodeJob action}
    (h : (nodeService primitives sha256).perform i state action choice = some out) :
    performNode primitives sha256 state action choice = some (out.reply, out.shared) := by
  obtain ⟨⟨reply, next⟩, hout, rfl⟩ := Option.map_eq_some_iff.mp h
  exact hout

/-- Where a call of a run stands: the calls before it are a run, which leaves what it finds. -/
theorem NodeReaches.performed (h : NodeReaches primitives sha256 history pool)
    {front back : List NodeEvent} {e : NodeEvent} (hsplit : history = front ++ e :: back) :
    ∃ before choice, NodeReaches primitives sha256 front before ∧ before.shared = e.before ∧
      performNode primitives sha256 e.before e.action choice = some (e.reply, e.after) := by
  obtain ⟨before, after, choice, resume, hfront, hbefore, -, hout, -⟩ := h.call hsplit
  exact ⟨before, choice, hfront, hbefore, nodeService_perform hout⟩

/-- The calls that an interleaving makes, if it makes all of them. -/
def nodeCalls (primitives : Primitives) (sha256 : ByteArray → List UInt8)
    (labels : List (Label NodeJob NodeChoice)) : List NodeEvent :=
  ((((nodeService primitives sha256).machine id).run ⟨.new, []⟩ labels).map Prod.snd).getD []

theorem reaches_nodeCalls {labels : List (Label NodeJob NodeChoice)}
    (h : (nodeCalls primitives sha256 labels).isEmpty = false) :
    ∃ pool, NodeReaches primitives sha256 (nodeCalls primitives sha256 labels) pool := by
  cases hrun : ((nodeService primitives sha256).machine id).run ⟨.new, []⟩ labels with
  | none => simp [nodeCalls, hrun] at h
  | some out =>
    refine ⟨out.1, labels, ?_⟩
    simp [nodeCalls, hrun]

end Runs

/-! A run in which a node is enrolled. -/

def sampleInstant : Instant := ⟨1000, 0, by decide, nanosPerSec_pos⟩

def sampleDigests : Primitives := ⟨id, fun c => [c]⟩

def sampleEnrollment : List (Label NodeJob NodeChoice) :=
  [.arrive (.createEnrollmentToken ⟨1, "admin@sunbolt.local", .admin⟩ ⟨none⟩),
    .arrive (.agentEnroll sampleRequest), .move 0 (.clock sampleInstant),
    .move 0 (.drawn sampleToken sampleInstant 0), .move 0 .none,
    .move 1 (.drawn sampleBytes sampleInstant 0), .move 1 .none, .move 1 .none]

end Sunbolt.Control.NodeRoutes
