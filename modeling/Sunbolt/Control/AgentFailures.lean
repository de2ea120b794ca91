/- Module: Sunbolt/Control/AgentFailures
   scope: sunbolt-control/src/routes/agent.rs, sunbolt-control/src/rate_limit.rs
   digest: What an agent that fails to authenticate is told, and how often. -/

import Sunbolt.Control.NodeQuota

set_option autoImplicit false
set_option relaxedAutoImplicit false

namespace Sunbolt.Control.NodeRoutes

open Sunbolt.Library
open Sunbolt.Auth (Primitives)

/-- The answer to a heartbeat that the registry refused. -/
def refusal (error : NodeConnectionError) (allowed : Bool) : NodeResponse :=
  if allowed then
    if error = .revoked then .error 403 "node revoked" else .error 401 "invalid node credential"
  else .error 429 "too many agent authentication failures"

/-- What is recorded of it. -/
def refusedMessage (nodeId : String) (error : NodeConnectionError) (allowed : Bool) : String :=
  if allowed then authenticationFailedMessage nodeId error
  else authenticationLimitedMessage nodeId

/-- The failures of the node id that the limiter let through in the window before `now`. -/
def failuresWithin (history : List NodeEvent) (nodeId : String) (now : Nat) : Nat :=
  history.countP (fun e => agentCheck e.interaction = some (nodeId, true) &&
    now < e.after.clock + defaultAgentAuthFailureRateWindow)

/-- The call gives the agent, or the reader of the audit log, the reason of a failure. -/
def GivesReason (nodeId : String) (origin : NodeJob) (action : NodeAction) : Prop :=
  (∃ request error, origin = .agentHeartbeat request ∧ request.nodeId = nodeId ∧
    (action = .respond (refusal error true) ∨
      ∃ kind actorEmail, action = .audit ⟨kind, actorEmail, refusedMessage nodeId error true⟩)) ∨
  ∃ transportId fingerprint proof version error,
    origin = .agentTransport nodeId transportId fingerprint proof version ∧
    ∃ kind actorEmail,
      action = .audit ⟨kind, actorEmail, transportFailedMessage nodeId transportId error⟩

/-- The request of an agent of the node has failed at `now`, and the reason was given. -/
def Reproved (history : List NodeEvent) (nodeId : String) (task now : Nat) : Prop :=
  (∃ d ∈ history, d.task = task ∧ d.action = .checkAgent nodeId ∧ d.after.clock = now) ∧
  ∃ e ∈ history, e.task = task ∧ GivesReason nodeId e.origin e.action

/-- The window can be subtracted from the instants of the checks of failures. -/
def AgentWindowSubtracts (history : List NodeEvent) : Prop :=
  WindowSubtracts defaultAgentAuthFailureRateWindow NodeState.agentAuthFailureRateLimiter
    NodeState.clock agentCheck history

/-! The order of an agent's calls. -/

/-- A heartbeat is accepted at once, or its refusal checked, recorded and answered. -/
def heartbeatAct (request : AgentHeartbeatRequest) (past : NodePast) : NodeAction → Prop
  | .checkAgent key => key = request.nodeId ∧ ∃ error, past = [⟨.heartbeat request, .error error⟩]
  | .audit input => ∃ error allowed,
    past = [⟨.heartbeat request, .error error⟩, ⟨.checkAgent request.nodeId, allowed⟩] ∧
    input = ⟨.agentAuthenticationFailed, none, refusedMessage request.nodeId error allowed⟩
  | .respond response =>
    (∃ view, past = [⟨.heartbeat request, .ok view⟩] ∧ response = .heartbeat true view) ∨
    ∃ error allowed, past = [⟨.heartbeat request, .error error⟩,
        ⟨.checkAgent request.nodeId, allowed⟩, ⟨.audit ⟨.agentAuthenticationFailed, none,
          refusedMessage request.nodeId error allowed⟩, ()⟩] ∧
      response = refusal error allowed
  | .heartbeat asked => asked = request ∧ past = []
  | _ => False

/-- A failed handshake is checked and recorded. -/
def handshakeAct (nodeId transportId : String) (past : NodePast) : NodeAction → Prop
  | .checkAgent key => key = nodeId ∧ ∀ x ∈ past, agentCheck x = none
  | .audit input => ∃ early error allowed, past = early ++ [⟨.checkAgent nodeId, allowed⟩] ∧
    input = ⟨.agentAuthenticationFailed, none,
      if allowed then transportFailedMessage nodeId transportId error
      else transportLimitedMessage nodeId transportId⟩
  | _ => True

def failureAct (origin : NodeJob) (past : NodePast) (action : NodeAction) : Prop :=
  match origin with
  | .agentHeartbeat request => heartbeatAct request past action
  | .agentTransport nodeId transportId _ _ _ => handshakeAct nodeId transportId past action
  | _ => True

def failureOrder : Discipline NodeAction NodeReply NodeJob :=
  ⟨failureAct, fun origin job past => job = origin ∧ past = [], fun _ _ => True⟩

section Bodies

private theorem failure_agentHeartbeat (request : AgentHeartbeatRequest) :
    (agentHeartbeat request).All (failureAct (.agentHeartbeat request)) [] (fun _ _ => True) := by
  rw [agentHeartbeat, Program.all_bind]
  refine ⟨⟨rfl, rfl⟩, fun result => ?_⟩
  rw [Program.all_done]
  cases result with
  | ok view => exact ⟨Or.inl ⟨view, rfl, rfl⟩, fun _ => trivial⟩
  | error error =>
    cases error <;>
      exact ⟨⟨rfl, _, rfl⟩, fun allowed => ⟨⟨_, allowed, rfl, by cases allowed <;> rfl⟩, fun _ =>
        ⟨Or.inr ⟨_, allowed, by cases allowed <;> rfl, by cases allowed <;> rfl⟩,
          fun _ => trivial⟩⟩⟩

private theorem failure_agentTransport (nodeId transportId fingerprint proof version : String) :
    (agentTransport nodeId transportId fingerprint proof version).All
      (failureAct (.agentTransport nodeId transportId fingerprint proof version)) []
      (fun _ _ => True) := by
  rw [agentTransport, Program.all_bind]
  refine ⟨trivial, fun result => ?_⟩
  rw [Program.all_done]
  cases result with
  | ok view => trivial
  | error error =>
    refine ⟨⟨rfl, ?_⟩, fun allowed => ⟨⟨_, error, allowed, rfl, rfl⟩, fun _ => trivial⟩⟩
    intro x hx
    rw [List.nil_append, List.mem_singleton] at hx
    rw [hx]
    rfl

end Bodies

/-- What happens around the failures of agents. -/
structure FailuresBounded (history : List NodeEvent) : Prop where
  reasons : ∀ nodeId first (tasks : List Nat), tasks.Nodup →
    (∀ task ∈ tasks, ∃ now, Reproved history nodeId task now ∧ first ≤ now ∧
      now < first + defaultAgentAuthFailureRateWindow) →
    tasks.length ≤ defaultAgentAuthFailureRateMax
  answered : ∀ front e back request response, history = front ++ e :: back →
    e.origin = .agentHeartbeat request → e.action = .respond response →
    (∃ d ∈ front, d.task = e.task ∧ ∃ view, d.interaction = ⟨.heartbeat request, .ok view⟩ ∧
      response = .heartbeat true view) ∨
    ∃ early d late error, front = early ++ d :: late ∧ d.task = e.task ∧
      d.action = .checkAgent request.nodeId ∧
      (∃ c ∈ early, c.task = e.task ∧ c.interaction = ⟨.heartbeat request, .error error⟩) ∧
      response = refusal error
        (failuresWithin early request.nodeId d.after.clock < defaultAgentAuthFailureRateMax)
  kept : ∀ e ∈ history, ∀ request error, e.interaction = ⟨.heartbeat request, .error error⟩ →
    e.after.nodeEnrollment = e.before.nodeEnrollment

section Runs

variable {primitives : Primitives} {sha256 : ByteArray → List UInt8} {history : List NodeEvent}
  {pool : NodePool}

theorem failureOrder_sound : failureOrder.Sound (nodeService primitives sha256) id where
  entered _ := ⟨rfl, rfl⟩
  spawned hout stage hstage := by
    obtain ⟨out, -, rfl⟩ := Option.map_eq_some_iff.mp hout
    cases hstage
  body {origin job past} head := by
    obtain ⟨rfl, rfl⟩ := head
    change (job.program >>= fun _ => pure none).All (failureAct job) [] _
    rw [Program.all_bind]
    cases job with
    | agentHeartbeat request => exact failure_agentHeartbeat request
    | agentTransport nodeId transportId fingerprint proof version =>
      exact failure_agentTransport nodeId transportId fingerprint proof version
    | _ => exact Program.all_of_forall (fun _ _ => trivial) (fun _ _ => trivial)

theorem refusal_eq {error error' : NodeConnectionError} {allowed : Bool}
    (h : refusal error true = refusal error' allowed) : allowed = true := by
  cases allowed with
  | true => rfl
  | false =>
    rw [refusal, refusal, if_pos rfl, if_neg Bool.false_ne_true] at h
    split_ifs at h <;> cases h

/-- Texts that start differently are different. -/
theorem append_ne {start start' : String} (n : Nat) (length : n ≤ start.toList.length)
    (length' : n ≤ start'.toList.length)
    (apart : start.toList.take n ≠ start'.toList.take n) (rest rest' : String) :
    start ++ rest ≠ start' ++ rest' := by
  intro heq
  have hlists : (start ++ rest).toList.take n = (start' ++ rest').toList.take n := by rw [heq]
  rw [String.toList_append, String.toList_append, List.take_append_of_le_length length,
    List.take_append_of_le_length length'] at hlists
  exact apart hlists

theorem authenticationMessage_ne {nodeId : String} {error : NodeConnectionError} :
    authenticationFailedMessage nodeId error ≠ authenticationLimitedMessage nodeId := by
  unfold authenticationFailedMessage authenticationLimitedMessage
  simp only [String.append_assoc]
  apply append_ne 22 <;> decide +kernel

theorem transportMessage_ne {nodeId transportId : String} {error : NodeConnectionError} :
    transportFailedMessage nodeId transportId error ≠
      transportLimitedMessage nodeId transportId := by
  unfold transportFailedMessage transportLimitedMessage
  simp only [String.append_assoc]
  apply append_ne 32 <;> decide +kernel

theorem refusedMessage_eq {nodeId : String} {error error' : NodeConnectionError} {allowed : Bool}
    (h : refusedMessage nodeId error true = refusedMessage nodeId error' allowed) :
    allowed = true := by
  cases allowed with
  | true => rfl
  | false =>
    rw [refusedMessage, refusedMessage, if_pos rfl, if_neg Bool.false_ne_true] at h
    exact absurd h authenticationMessage_ne

/-- Where a reason is given the check of the task has let the failure through. -/
theorem NodeReaches.allowed_of_reason (h : NodeReaches primitives sha256 history pool)
    {e : NodeEvent} (he : e ∈ history) {nodeId : String}
    (gives : GivesReason nodeId e.origin e.action) :
    ∃ d ∈ history, d.task = e.task ∧ d.interaction = ⟨.checkAgent nodeId, true⟩ := by
  obtain ⟨front, back, hsplit⟩ := List.append_of_mem he
  have hact : failureAct e.origin (Service.own e.task front) e.action :=
    Service.Reaches.act failureOrder_sound h hsplit
  have hmem : ⟨.checkAgent nodeId, true⟩ ∈ Service.own e.task front := by
    rcases gives with ⟨request, error, horigin, rfl, hresponse | ⟨kind, actorEmail, hinput⟩⟩ |
      ⟨transportId, fingerprint, proof, version, error, horigin, kind, actorEmail, hinput⟩
    · rw [horigin, hresponse] at hact
      rcases hact with ⟨view, -, heq⟩ | ⟨error', allowed, hpast, heq⟩
      · rw [refusal, if_pos rfl] at heq
        split_ifs at heq
      · obtain rfl : allowed = true := refusal_eq heq
        rw [hpast]
        simp
    · rw [horigin, hinput] at hact
      obtain ⟨error', allowed, hpast, heq⟩ := hact
      obtain rfl : allowed = true := refusedMessage_eq (congrArg (·.message) heq)
      rw [hpast]
      simp
    · rw [horigin, hinput] at hact
      obtain ⟨early, error', allowed, hpast, heq⟩ := hact
      cases allowed with
      | true =>
        rw [hpast]
        simp
      | false => exact absurd (congrArg (·.message) heq) transportMessage_ne
  obtain ⟨d, hd, htask, hcall⟩ := Service.mem_own.mp hmem
  refine ⟨d, ?_, htask, hcall⟩
  rw [hsplit]
  exact List.mem_append_left _ hd

/-- The request of an agent is checked once. -/
theorem NodeReaches.agentCheck_unique (h : NodeReaches primitives sha256 history pool)
    {d c e : NodeEvent} (hd : d ∈ history) (hc : c ∈ history) (he : e ∈ history)
    {key other : String}
    (hdcall : d.action = .checkAgent key) (hccall : c.action = .checkAgent other)
    (hdtask : d.task = e.task) (hctask : c.task = e.task) {nodeId : String}
    (gives : GivesReason nodeId e.origin e.action) : d = c := by
  apply Service.eq_of_task (K := fun action => ∃ key, action = .checkAgent key) hd hc
    ⟨key, hdcall⟩ ⟨other, hccall⟩ (hdtask.trans hctask.symm)
  rintro front c' back hsplit htask ⟨key', hcall⟩ x hx ⟨key'', hx'⟩
  have hact : failureAct c'.origin (Service.own c'.task front) c'.action :=
    Service.Reaches.act failureOrder_sound h hsplit
  have hc' : c' ∈ history := by
    rw [hsplit]
    exact List.mem_append_right _ List.mem_cons_self
  have horigin : c'.origin = e.origin :=
    Service.Reaches.origin failureOrder_sound h hc' he (htask.trans hctask)
  rw [horigin, hcall] at hact
  rcases gives with ⟨request, error, heq, -⟩ |
    ⟨transportId, fingerprint, proof, version, error, heq, -⟩
  · rw [heq] at hact
    obtain ⟨-, error', hpast⟩ := hact
    rw [hpast, List.mem_singleton] at hx
    rw [hx] at hx'
    cases hx'
  · rw [heq] at hact
    have hnone := hact.2 x hx
    obtain ⟨action, reply⟩ := x
    cases hx'
    cases hnone

/-- The check of a task that lets a failure through, or does not, by what was let through before. -/
theorem NodeReaches.agentCheck_iff (h : NodeReaches primitives sha256 history pool)
    (subtracts : AgentWindowSubtracts history) {front back : List NodeEvent} {e : NodeEvent}
    (hsplit : history = front ++ e :: back) {nodeId : String} {allowed : Bool}
    (hcall : e.interaction = ⟨.checkAgent nodeId, allowed⟩) : allowed = true ↔
      failuresWithin front nodeId e.after.clock < defaultAgentAuthFailureRateMax := by
  have hcheck : agentCheck e.interaction = some (nodeId, allowed) := by
    rw [hcall]
    rfl
  exact allowed_iff NodeState.agentAuthFailureRateLimiter NodeState.clock agentCheck h rfl
    (fun hout => limiterStep_agent (nodeService_perform hout)) subtracts
    hsplit hcheck

/-- A refused heartbeat leaves the registry as it is. -/
theorem NodeReaches.refused_kept (h : NodeReaches primitives sha256 history pool) {e : NodeEvent}
    (he : e ∈ history) {request : AgentHeartbeatRequest} {error : NodeConnectionError}
    (hcall : e.interaction = ⟨.heartbeat request, .error error⟩) :
    e.after.nodeEnrollment = e.before.nodeEnrollment := by
  obtain ⟨front, back, hsplit⟩ := List.append_of_mem he
  obtain ⟨-, choice, -, -, hout⟩ := h.performed hsplit
  obtain ⟨task, origin, action, reply, before, after, spawned⟩ := e
  cases hcall
  cases (performNode_frame hout).registry with
  | kept silent nextTokenId same => cases silent
  | served call result asks replied serves =>
    have hstep := before.nodeEnrollment.serve_step sha256 call
    rw [serves] at hstep
    cases replied
    exact hstep.same_of_isError rfl

end Runs

/-- An agent that nobody enrolled beats eleven times. -/
private def sampleFailures : List (Label NodeJob NodeChoice) :=
  (List.range 11).flatMap (fun task =>
    [.arrive (.agentHeartbeat ⟨"node-1", "f", "p", "edge-1", "linux", "x86_64", "0.1.0"⟩),
      .move task (.clock sampleInstant), .move task (.clock sampleInstant), .move task .none,
      .move task .none])

/-- The status of an answer. -/
private def answerStatus (e : NodeEvent) : Option Nat :=
  match e.action with
  | .respond (.error status _) => some status
  | _ => none

end Sunbolt.Control.NodeRoutes
