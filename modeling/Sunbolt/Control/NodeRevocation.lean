/- Module: Sunbolt/Control/NodeRevocation
   scope: sunbolt-control/src/routes/node.rs, sunbolt-control/src/terminal/mod.rs,
     sunbolt-control/src/agent/mod.rs
   digest: When the revocation of a node leaves no session and no connection of it. -/

import Sunbolt.Control.ConnectionLedger

set_option autoImplicit false
set_option relaxedAutoImplicit false

namespace Sunbolt.Control

open Sunbolt.Library
open Sunbolt.Protocol (TerminalSessionId AgentTransportId)
open Sunbolt.Terminal (TerminalSessionState)

def NoSessionOn (nodeId : String) (state : AppState) : Prop :=
  ∀ sessionId session, state.sessions.get sessionId = some session →
    session.nodeId ≠ some nodeId

/-- No session of the node is tracked and no connection of it is registered. -/
structure NothingLeft (nodeId : String) (state : AppState) : Prop where
  sessions : NoSessionOn nodeId state
  connection : state.agentConnections.connection nodeId = none

/-- The call tracks a new session on the node. -/
def OpensOn (nodeId : String) (e : ControlEvent) : Prop :=
  ∃ request output, e.interaction = ⟨.terminal (.insert request), .ok output⟩ ∧
    request.nodeId = some nodeId

/-- The call registers a connection of the node. -/
def RegistersOn (nodeId : String) (e : ControlEvent) : Prop :=
  ∃ transportId channel, madeBy e.interaction = some (nodeId, transportId, channel)

/-- A revocation of the node that has closed its sessions and then dropped its connection. -/
structure Revocation (history front middle back : History) (close disconnect : ControlEvent)
    (nodeId : String) : Prop where
  split : history = front ++ close :: middle ++ disconnect :: back
  revokes : ∃ actorEmail, close.origin = .revokeNode actorEmail nodeId
  same : disconnect.task = close.task
  closes : close.action = .terminal (.closeSessionsForNode nodeId)
  disconnects : disconnect.action = .agent (.disconnect nodeId)

section Live

variable {history : History} {state : AppState}

/-- Every session on a node counts as live. -/
def NodesLive (registry : TerminalSessionRegistry) : Prop :=
  ∀ sessionId session, registry.get sessionId = some session → session.nodeId ≠ none →
    session.isLive = true

/-- A session that a task holds a PTY for is on no node. -/
private theorem Ledger.nodeId_of_local (ledger : Ledger history state) {task pty output : Nat}
    {actorEmail : String} {sessionId : TerminalSessionId}
    (attached : Attached (own task history) actorEmail sessionId (.local pty) output)
    {session : TrackedTerminalSession} (found : state.sessions.get sessionId = some session) :
    session.nodeId = none := by
  obtain ⟨opener, request, channel, hopened, hid, hbackend⟩ : ∃ opener request channel,
      OpenedBy history opener request channel ∧ request.sessionId = sessionId ∧
        request.backend = .local pty := by
    rcases attached with ⟨-, request, hd, hid, hbackend⟩ | ⟨token, target, -, hd, hbackend, -⟩
    · exact ⟨task, request, output, hd, hid, hbackend⟩
    · obtain ⟨opener, request, channel, hopened, hid, -, hfields⟩ := ledger.reattached hd
      simp only [Prod.mk.injEq] at hfields
      exact ⟨opener, request, channel, hopened, hid, hfields.1.symm.trans hbackend⟩
  obtain ⟨other, later, given, hlater, hlaterId, hidentity⟩ := ledger.tracked found
  obtain ⟨-, rfl, -⟩ := ledger.unique_id hlater hopened (hlaterId.trans hid.symm)
  simp only [TrackedTerminalSession.identity, TerminalSessionInsert.identity,
    Prod.mk.injEq] at hidentity
  exact hidentity.2.2.2.trans (ledger.spawned hlater hbackend).1

private theorem isLive_moveTo {session : TrackedTerminalSession} {state : TerminalSessionState}
    (live : session.isLive = true) (hstate : state.isTerminal = false) :
    (session.moveTo state).isLive = true := by
  rw [TrackedTerminalSession.moveTo]
  split
  · exact live
  · simpa [TrackedTerminalSession.isLive] using hstate

variable {front : History} {e : ControlEvent}

/-- A handler ends no session on a node but by taking it out. -/
private theorem Next.not_terminal (next : Next front e) {sessionId : TerminalSessionId}
    {state : TerminalSessionState} (haction : e.action = .terminal (.setState sessionId state))
    {session : TrackedTerminalSession} (found : e.before.sessions.get sessionId = some session)
    (remote : session.nodeId ≠ none) : state.isTerminal = false := by
  have act := next.act
  rw [haction] at act
  obtain ⟨actorEmail, -, -, hcause⟩ := browser_only act rfl
  cases state with
  | terminated =>
    obtain ⟨pty, output, attached, -⟩ := hcause
    exact absurd (next.ledger.nodeId_of_local attached found) remote
  | failed => cases hcause
  | expired => cases hcause
  | _ => rfl

private theorem Next.nodesLive (next : Next front e) (live : NodesLive e.before.sessions) :
    NodesLive e.after.sessions := by
  have ended : ∀ {named state session}, e.action = .terminal (.setState named state) →
      e.before.sessions.get named = some session → session.nodeId ≠ none →
      state.isTerminal = false := fun haction found remote => next.not_terminal haction found remote
  obtain ⟨task, origin, action, reply, before, after, spawned⟩ := e
  have step : AppStep task before action reply after := next.step
  intro sessionId session found remote
  cases step with
  | write write =>
    cases write.session found with
    | same session earlier => exact live sessionId session earlier remote
    | insert request now token named => rfl
    | setState state session earlier =>
      have hnode : (session.moveTo state).nodeId = session.nodeId := by
        rw [TrackedTerminalSession.moveTo]
        split <;> rfl
      rw [hnode] at remote
      exact isLive_moveTo (live sessionId session earlier remote) (ended rfl earlier remote)
    | reattach token actorEmail now fresh session reply earlier => rfl
    | touch now session earlier => exact live sessionId session earlier remote
    | setSize size session earlier => exact live sessionId session earlier remote
    | recordOutput data session reply earlier => exact live sessionId session earlier remote
    | rememberServerMessage message session earlier named =>
      exact live sessionId session earlier remote
  | _ => exact live sessionId session found remote

variable {config : TerminalSessionConfig} {nodes : NodeEnrollmentState} {pool : ControlPool}

private theorem Reaches.nodesLive (h : Reaches config nodes history pool) :
    NodesLive pool.shared.sessions := by
  refine h.keeps (I := fun _ state => NodesLive state.sessions) ?_
    (fun front e next live => next.nodesLive live)
  intro sessionId session found
  cases found

end Live

section Revoked

variable {config : TerminalSessionConfig} {nodes : NodeEnrollmentState} {pool : ControlPool}
  {history front middle back : History} {e close disconnect : ControlEvent} {nodeId : String}

/-- A call that opens no session on the node leaves none there if there was none. -/
private theorem Next.noSessionOn (next : Next front e) (closed : NoSessionOn nodeId e.before)
    (opens : ¬OpensOn nodeId e) : NoSessionOn nodeId e.after := by
  obtain ⟨task, origin, action, reply, before, after, spawned⟩ := e
  have step : AppStep task before action reply after := next.step
  intro sessionId session found hnode
  cases step with
  | write write =>
    rcases write.identity found with ⟨earlier, hearlier, heq⟩ | ⟨request, output, heq, -, hfields⟩
    · have hsame : session.nodeId = earlier.nodeId := congrArg (fun identity => identity.2.2.2) heq
      exact closed sessionId earlier hearlier (hsame.symm.trans hnode)
    · have hsame : session.nodeId = request.nodeId :=
        congrArg (fun identity => identity.2.2.2) hfields
      exact opens ⟨request, output, heq, hsame.symm.trans hnode⟩
  | _ => exact closed sessionId session found hnode

/-- A call that registers no connection of the node leaves none there if there was none. -/
private theorem Next.noConnection (next : Next front e)
    (unregistered : e.before.agentConnections.connection nodeId = none)
    (registers : ¬RegistersOn nodeId e) : e.after.agentConnections.connection nodeId = none := by
  by_contra hsome
  obtain ⟨connection, found⟩ := Option.ne_none_iff_exists'.mp hsome
  rcases next.step.connection found with hbefore | hmade
  · rw [unregistered] at hbefore
    cases hbefore
  · exact registers ⟨_, _, hmade⟩

/-- The closing step leaves no session of the node. -/
private theorem Reaches.closed (h : Reaches config nodes history pool)
    (hsplit : history = front ++ close :: back)
    (closes : close.action = .terminal (.closeSessionsForNode nodeId)) :
    NoSessionOn nodeId close.after := by
  obtain ⟨before, hfront, hbefore⟩ := h.front hsplit
  have live := hfront.nodesLive
  rw [hbefore] at live
  have step := (h.next hsplit).step
  obtain ⟨task, origin, action, reply, before, after, spawned⟩ := close
  cases closes
  change AppStep task before (.terminal (.closeSessionsForNode nodeId)) reply after at step
  change NodesLive before.sessions at live
  intro sessionId session found hnode
  cases step with
  | write write =>
    cases write
    change (before.sessions.closeSessionsForNode nodeId).1.get sessionId = some session at found
    rw [TerminalSessionRegistry.closeSessionsForNode,
      TerminalSessionRegistry.get_removeEach] at found
    split_ifs at found with hid
    refine hid (List.mem_map.mpr ⟨(sessionId, session), Table.mem_select.mpr ⟨found, ?_⟩, rfl⟩)
    have hlive := live sessionId session found (by simp [hnode])
    simp [TerminalSessionRegistry.isOnNode, hnode, hlive]
  | read read => cases read

/-- Until the connection is dropped no session of the node is tracked again, unless one is
    opened. -/
private theorem Reaches.noSession_before (h : Reaches config nodes history pool)
    (revocation : Revocation history front middle back close disconnect nodeId)
    (calm : ∀ e ∈ middle, ¬OpensOn nodeId e) : NoSessionOn nodeId disconnect.before := by
  obtain ⟨before, hfront, hbefore⟩ := h.front revocation.split
  have closed := hfront.closed rfl revocation.closes
  rw [← hbefore]
  exact hfront.since_end rfl closed
    (fun front other hother next closed => next.noSessionOn closed (calm other hother))

private theorem Revocation.step_disconnect (h : Reaches config nodes history pool)
    (revocation : Revocation history front middle back close disconnect nodeId) :
    disconnect.after = { disconnect.before with
      agentConnections := disconnect.before.agentConnections.disconnect nodeId } := by
  have step := (h.next revocation.split).step
  obtain ⟨-, -, -, -, disconnects⟩ := revocation
  obtain ⟨task, origin, action, reply, before, after, spawned⟩ := disconnect
  cases disconnects
  change AppStep task before (.agent (.disconnect nodeId)) reply after at step
  cases step with
  | agent step =>
    cases step with
    | disconnect => rfl
    | onChannel index channel after found hchannel => cases hchannel

private theorem Next.opened_on (next : Next front e) (opens : OpensOn nodeId e) :
    ¬NoSessionOn nodeId e.after := by
  obtain ⟨request, output, heq, hnode⟩ := opens
  obtain ⟨task, origin, action, reply, before, after, spawned⟩ := e
  cases heq
  have step : AppStep task before (.terminal (.insert request)) (.ok output) after := next.step
  obtain ⟨-, now, token, hsessions⟩ := step.opened
  intro closed
  refine closed request.sessionId (request.tracked output now token) ?_ hnode
  change after.sessions.get request.sessionId = _
  rw [hsessions, TerminalSessionRegistry.get_insert, if_pos rfl]

private theorem Next.registered_on (next : Next front e) (registers : RegistersOn nodeId e) :
    e.after.agentConnections.connection nodeId ≠ none := by
  obtain ⟨transportId, channel, made⟩ := registers
  obtain ⟨task, origin, action, reply, before, after, spawned⟩ := e
  have step : AppStep task before action reply after := next.step
  cases step with
  | agent step =>
    cases step with
    | registerTransport named given kind =>
      cases made
      change (before.agentConnections.put nodeId _).1.connection nodeId ≠ none
      rw [AgentConnectionRegistry.connection_put, if_pos rfl]
      exact Option.some_ne_none _
    | ensureLongPollTransport named given =>
      change (before.agentConnections.ensureLongPollTransport named given).1.connection nodeId ≠
        none
      change madeBy ⟨.agent (.ensureLongPollTransport named given),
        (before.agentConnections.ensureLongPollTransport named given).2⟩ = _ at made
      rcases before.agentConnections.ensureLongPollTransport_cases named given with
        ⟨existing, -, heq⟩ | ⟨registration, hfresh, heq⟩
      · rw [madeBy, heq] at made
        cases made
      · rw [madeBy, heq] at made
        simp only [if_neg hfresh, Option.some.injEq, Prod.mk.injEq] at made
        rw [heq, AgentConnectionRegistry.connection_put, if_pos made.1.symm]
        exact Option.some_ne_none _
    | onChannel index channel after found hchannel => cases hchannel <;> cases made
    | _ => cases made
  | _ => cases made

end Revoked

/-- An administrator revokes the node, as the task of this number; `closed` steps take care of
    the sessions that were closed. -/
private def revoking (task closed : Nat) : List (Label Arrival Choice) :=
  [.arrive (.revoke "admin" "n"), .move task (.decide true), .move task (.clock 1),
    .move task .none] ++ List.replicate closed (.move task .none) ++
  [.move task .none, .move task .none, .move task .none]

/-- The agent has connected and Bob has opened a terminal when the node is revoked. -/
private def revoked : History :=
  calls defaultTerminalSessionConfig oneNode
    (agentOpening 0 false ++ remoteOpening 1 "bob" "t0" ++ revoking 2 4)

/-- Bob's handler has told the agent to start the terminal when the node is revoked, and tracks
    the session afterwards. -/
private def revokedMeanwhile : History :=
  calls defaultTerminalSessionConfig oneNode
    (agentOpening 0 false ++ (remoteOpening 1 "bob" "t0").dropLast.dropLast.dropLast ++
      revoking 2 0 ++ [.move 1 (.clockToken 0 ⟨"t0"⟩), .move 1 .none, .move 1 .none])

/-- No call opens a session or registers a connection. -/
private def opensNothing (e : ControlEvent) : Bool :=
  match e.action with
  | .terminal (.insert _) => false
  | .agent (.registerTransport ..) => false
  | .agent (.ensureLongPollTransport ..) => false
  | _ => true

private theorem calm_of_opensNothing {e : ControlEvent} (h : opensNothing e = true)
    (nodeId : String) : ¬OpensOn nodeId e ∧ ¬RegistersOn nodeId e := by
  obtain ⟨task, origin, action, reply, before, after, spawned⟩ := e
  constructor
  · rintro ⟨request, output, heq, -⟩
    cases heq
    cases h
  · rintro ⟨transportId, channel, made⟩
    change madeBy ⟨action, reply⟩ = _ at made
    unfold madeBy at made
    split at made
    · rename_i heq
      cases heq
      cases h
    · rename_i heq
      cases heq
      cases h
    · cases made

end Sunbolt.Control
