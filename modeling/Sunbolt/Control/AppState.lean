/- Module: Sunbolt/Control/AppState
   scope: sunbolt-control/src/state.rs
   digest: The state all handlers share, and every atomic access a handler makes to it. -/

import Sunbolt.Library.Pool
import Sunbolt.Control.SessionRegistry
import Sunbolt.Control.AgentConnections
import Sunbolt.Control.NodeEnrollment
import Sunbolt.Control.Routing

set_option autoImplicit false
set_option relaxedAutoImplicit false

namespace Sunbolt.Control

open Sunbolt.Library
open Sunbolt.Protocol (TerminalSessionId TerminalReconnectToken TerminalServerMessage
  TerminalClientMessage AgentTerminalCommand AgentTerminalEvent AgentTransportId
  AgentTransportKind AgentTransportMessageId AgentTransportEnvelope NodeId)
open Sunbolt.Terminal (TerminalSessionState LocalPtySession ChildStatus TerminalExitStatus)

/-- A browser frame; a text frame carries what the JSON parser makes of it. -/
inductive WebSocketMessage where
  | text (parsed : Except String TerminalClientMessage)
  | binary
  | close
  | ping
  | pong

/-- An agent frame; a text frame carries the envelope it parses to, if it does. -/
inductive AgentFrame where
  | text (parsed : Option AgentTransportEnvelope)
  | other

/-- The next item of an agent websocket. -/
inductive AgentIncoming where
  | frame (frame : AgentFrame)
  | failed (text : String)
  | closed

inductive Permission where
  | terminalOpen
  | terminalReattach
  | terminalTerminate
  | nodeRevoke
  deriving DecidableEq, Repr

inductive AuditEventKind where
  | terminalOpened
  | terminalDetached
  | terminalReattached
  | terminalTerminated
  | terminalClosed
  | terminalFailed
  | agentTransportNegotiated
  | agentConnected
  | agentDisconnected
  | agentAuthenticationFailed
  | nodeRevoked
  | routeSelected
  | routeFailed
  deriving DecidableEq, Repr

structure AuditEventInput where
  kind : AuditEventKind
  actorEmail : Option String
  message : String
  deriving DecidableEq, Repr

structure AppState where
  sessions : TerminalSessionRegistry
  agentConnections : AgentConnectionRegistry
  nodeEnrollment : NodeEnrollmentState
  nodeRouter : InMemoryNodeRouter
  nextSessionId : Nat
  audit : List AuditEventInput

/-- What a handler attached to an output channel is woken by. -/
inductive AttachedWake where
  | output (received : Received TerminalServerMessage) (next : Nat)
  | incoming (message : Option WebSocketMessage)
  | idleCheck

/-- What the handler that opened a remote terminal is woken by. -/
inductive EventWake where
  | event (event : Option AgentTerminalEvent)
  | incoming (message : Option WebSocketMessage)

/-- What the handler of an agent websocket is woken by. -/
inductive AgentWake where
  | incoming (incoming : AgentIncoming)
  | command (command : Option AgentTerminalCommand)
  | livenessCheck

/-- What the environment decides about a call: the clock, a fresh random token, the outcome of
    a system call, a received frame, the branch of a `select!`, an authorization decision. -/
inductive Choice where
  | none
  | clock (now : Nat)
  | clockToken (now : Nat) (token : TerminalReconnectToken)
  | decide (answer : Bool)
  | system (result : Except Sunbolt.Terminal.TerminalError Unit)
  | read (result : Except Sunbolt.Terminal.TerminalError (List UInt8))
  | child (status : ChildStatus)
  | browser (message : Option WebSocketMessage)
  | channel
  | tick
  | agent (incoming : AgentIncoming)

/-- Accesses to the session registry, its PTYs and its output channels. -/
inductive TerminalAction where
  | insert (request : TerminalSessionInsert)
  | setState (sessionId : TerminalSessionId) (state : TerminalSessionState)
  | reattach (sessionId : TerminalSessionId) (reconnectToken : TerminalReconnectToken)
      (actorEmail : String)
  | reconnectToken (sessionId : TerminalSessionId)
  | ownerMatches (sessionId : TerminalSessionId) (actorEmail : String)
  | nodeId (sessionId : TerminalSessionId)
  | touch (sessionId : TerminalSessionId)
  | isIdle (sessionId : TerminalSessionId) (timeout : Nat)
  | isExceededMaxDuration (sessionId : TerminalSessionId) (maxDuration : Nat)
  | setSize (sessionId : TerminalSessionId) (size : ProtocolTerminalSize)
  | recordOutput (sessionId : TerminalSessionId) (data : String)
  | rememberServerMessage (message : TerminalServerMessage)
  | terminate (sessionId : TerminalSessionId)
  | remove (sessionId : TerminalSessionId)
  | state (sessionId : TerminalSessionId)
  | drainExpired (maxDuration idleTimeout : Nat)
  | closeSessionsForNode (nodeId : String)
  | spawnDefaultShell (size : Sunbolt.Terminal.TerminalSize)
  | writeInput (pty : Nat) (data : String)
  | resize (pty : Nat) (size : Sunbolt.Terminal.TerminalSize)
  | close (pty : Nat)
  | isClosed (pty : Nat)
  | readOutput (pty : Nat)
  | tryWaitExit (pty : Nat)
  | waitExit (pty : Nat)
  | subscribe (output : Nat)
  | broadcast (output : Nat) (message : TerminalServerMessage)
  | dropSender (output : Nat)
  | selectAttached (output next : Nat) (idleChecks : Bool)

abbrev TerminalReply : TerminalAction → Type
  | .insert _ => Except SessionLimitError Nat
  | .setState .. => Unit
  | .reattach .. => Option TerminalReattachTarget
  | .reconnectToken _ => Option TerminalReconnectToken
  | .ownerMatches .. => Bool
  | .nodeId _ => Option String
  | .touch _ => Unit
  | .isIdle .. => Bool
  | .isExceededMaxDuration .. => Bool
  | .setSize .. => Unit
  | .recordOutput .. => Option TerminalServerMessage
  | .rememberServerMessage _ => Unit
  | .terminate _ => Option TerminalBackend
  | .remove _ => Unit
  | .state _ => Option TerminalSessionState
  | .drainExpired .. => List RemovedSession
  | .closeSessionsForNode _ => List RemovedSession
  | .spawnDefaultShell _ => Except Sunbolt.Terminal.TerminalError Nat
  | .writeInput .. => Except Sunbolt.Terminal.TerminalError Unit
  | .resize .. => Except Sunbolt.Terminal.TerminalError Unit
  | .close _ => Unit
  | .isClosed _ => Bool
  | .readOutput _ => Except Sunbolt.Terminal.TerminalError (List UInt8)
  | .tryWaitExit _ => Except Sunbolt.Terminal.TerminalError (Option TerminalExitStatus)
  | .waitExit _ => Except Sunbolt.Terminal.TerminalError (Option TerminalExitStatus)
  | .subscribe _ => Nat
  | .broadcast .. => Unit
  | .dropSender _ => Unit
  | .selectAttached .. => AttachedWake

def outputBufferSize : Nat := 8192

/-- A read never returns more than the buffer holds. -/
def fitsBuffer : Except Sunbolt.Terminal.TerminalError (List UInt8) → Bool
  | .ok bytes => bytes.length ≤ outputBufferSize
  | .error _ => true

def performTerminal (registry : TerminalSessionRegistry) :
    (action : TerminalAction) → Choice → Option (TerminalReply action × TerminalSessionRegistry)
  | .insert request, .clockToken now token =>
    let (registry, result) := registry.insertBackend request now token
    some (result, registry)
  | .setState sessionId state, .none => some ((), registry.setState sessionId state)
  | .reattach sessionId reconnectToken actorEmail, .clockToken now token =>
    let (registry, target) := registry.reattach sessionId reconnectToken actorEmail now token
    some (target, registry)
  | .reconnectToken sessionId, .none => some (registry.reconnectToken sessionId, registry)
  | .ownerMatches sessionId actorEmail, .none =>
    some (registry.ownerMatches sessionId actorEmail, registry)
  | .nodeId sessionId, .none => some (registry.nodeId sessionId, registry)
  | .touch sessionId, .clock now => some ((), registry.touch sessionId now)
  | .isIdle sessionId timeout, .clock now =>
    some (registry.isIdle sessionId timeout now, registry)
  | .isExceededMaxDuration sessionId maxDuration, .clock now =>
    some (registry.isExceededMaxDuration sessionId maxDuration now, registry)
  | .setSize sessionId size, .none => some ((), registry.setSize sessionId size)
  | .recordOutput sessionId data, .none =>
    let (registry, message) := registry.recordOutput sessionId data
    some (message, registry)
  | .rememberServerMessage message, .none => some ((), registry.rememberServerMessage message)
  | .terminate sessionId, .none =>
    let (registry, backend) := registry.terminate sessionId
    some (backend, registry)
  | .remove sessionId, .none => some ((), registry.remove sessionId)
  | .state sessionId, .none => some (registry.state sessionId, registry)
  | .drainExpired maxDuration idleTimeout, .clock now =>
    let (registry, removed) := registry.drainExpired maxDuration idleTimeout now
    some (removed, registry)
  | .closeSessionsForNode nodeId, .none =>
    let (registry, removed) := registry.closeSessionsForNode nodeId
    some (removed, registry)
  | .spawnDefaultShell _, .system (.ok ()) =>
    some (.ok registry.ptys.length,
      { registry with ptys := registry.ptys ++ [LocalPtySession.spawned] })
  | .spawnDefaultShell _, .system (.error error) => some (.error error, registry)
  | .writeInput pty _, .system result =>
    registry.ptys[pty]?.map (fun session => (session.guardClosed result, registry))
  | .resize pty _, .system result =>
    registry.ptys[pty]?.map (fun session => (session.guardClosed result, registry))
  | .close pty, .none => some ((), registry.closePty pty)
  | .isClosed pty, .none => registry.ptys[pty]?.map (fun session => (session.closed, registry))
  | .readOutput pty, .read result =>
    if fitsBuffer result then
      registry.ptys[pty]?.map (fun session => (session.guardClosed result, registry))
    else none
  | .tryWaitExit pty, .child status =>
    registry.ptys[pty]?.map (fun session =>
      let (session, result) := session.tryWaitExit status
      (result, { registry with ptys := registry.ptys.set pty session }))
  | .waitExit pty, .child status =>
    registry.ptys[pty]?.bind (fun session => (session.waitExit status).map (fun
      (session, result) => (result, { registry with ptys := registry.ptys.set pty session })))
  | .subscribe output, .none =>
    registry.outputs[output]?.map (fun channel => (channel.log.length, registry))
  | .broadcast output message, .none =>
    some ((), { registry with outputs := registry.outputs.modify output (·.send message) })
  | .dropSender output, .none => some ((), registry.dropSender output)
  | .selectAttached output next _, .channel =>
    registry.outputs[output]?.bind (fun channel =>
      (channel.recv outputChannelCapacity next).map (fun (received, next) =>
        (.output received next, registry)))
  | .selectAttached _ _ _, .browser message => some (.incoming message, registry)
  | .selectAttached _ _ true, .tick => some (.idleCheck, registry)
  | _, _ => none

/-- Accesses to the agent connections and their channels. -/
inductive AgentAction where
  | connection (nodeId : String)
  | connectedNodeIdsExcept (nodeId : String)
  | registerTransport (nodeId : String) (transportId : AgentTransportId)
      (transportKind : AgentTransportKind)
  | ensureLongPollTransport (nodeId : String) (transportId : AgentTransportId)
  | disconnect (nodeId : String)
  | disconnectTransport (nodeId : String) (transportId : AgentTransportId)
  | dropTransport (channel : Nat)
  | sendCommand (channel : Nat) (command : AgentTerminalCommand)
  | trySendEvent (channel : Nat) (event : AgentTerminalEvent)
  | lockEvents (channel : Nat)
  | unlockEvents (channel : Nat)
  | lockCommands (channel : Nat)
  | unlockCommands (channel : Nat)
  | recvCommandTimeout (channel : Nat)
  | tryRecvCommand (channel : Nat)
  | nextLongPollMessageId (channel : Nat)
  | selectEvent (channel : Nat)
  | selectAgent (channel : Nat)

abbrev AgentReply : AgentAction → Type
  | .connection _ => Option RegisteredAgentConnection
  | .connectedNodeIdsExcept _ => List NodeId
  | .registerTransport .. => AgentConnectionRegistration × Nat
  | .ensureLongPollTransport .. => AgentConnectionRegistration × RegisteredAgentConnection
  | .disconnect _ => Unit
  | .disconnectTransport .. => Bool
  | .dropTransport _ => Unit
  | .sendCommand .. => Bool
  | .trySendEvent .. => Bool
  | .lockEvents _ => Unit
  | .unlockEvents _ => Unit
  | .lockCommands _ => Unit
  | .unlockCommands _ => Unit
  | .recvCommandTimeout _ => Option AgentTerminalCommand
  | .tryRecvCommand _ => Option AgentTerminalCommand
  | .nextLongPollMessageId _ => AgentTransportMessageId
  | .selectEvent _ => EventWake
  | .selectAgent _ => AgentWake

/-- A call on one channel that exists. -/
def AgentConnectionRegistry.onChannel {α : Type} (registry : AgentConnectionRegistry)
    (index : Nat) (f : AgentChannel → Option (α × AgentChannel)) :
    Option (α × AgentConnectionRegistry) :=
  registry.channels[index]?.bind (fun channel =>
    (f channel).map (fun (reply, channel) =>
      (reply, { registry with channels := registry.channels.set index channel })))

/-- Which task holds a receiver is known by the task's number. A channel whose connection is
    no longer registered may have lost its other end, so there the environment may also
    decide that it has. -/
def performAgent (task : Nat) (registry : AgentConnectionRegistry) :
    (action : AgentAction) → Choice → Option (AgentReply action × AgentConnectionRegistry)
  | .connection nodeId, .none => some (registry.connection nodeId, registry)
  | .connectedNodeIdsExcept nodeId, .none =>
    some (registry.connectedNodeIdsExcept nodeId, registry)
  | .registerTransport nodeId transportId transportKind, .none =>
    let (registry, reply) := registry.registerTransport nodeId transportId transportKind
    some (reply, registry)
  | .ensureLongPollTransport nodeId transportId, .none =>
    let (registry, reply) := registry.ensureLongPollTransport nodeId transportId
    some (reply, registry)
  | .disconnect nodeId, .none => some ((), registry.disconnect nodeId)
  | .disconnectTransport nodeId transportId, .none =>
    let (registry, removed) := registry.disconnectTransport nodeId transportId
    some (removed, registry)
  | .dropTransport index, .none =>
    registry.onChannel index (fun channel =>
      some ((), { channel with commandsOpen := false, eventsOpen := false }))
  | .sendCommand index command, .none =>
    registry.onChannel index (fun channel =>
      (channel.sendCommand command).map (fun (channel, sent) => (sent, channel)))
  | .trySendEvent index event, .none =>
    registry.onChannel index (fun channel =>
      let (channel, sent) := channel.trySendEvent event
      some (sent, channel))
  | .trySendEvent index _, .tick =>
    if registry.isRegistered index then none
    else registry.onChannel index (fun channel => some (false, channel))
  | .lockEvents index, .none =>
    registry.onChannel index (fun channel =>
      if channel.eventLock.isNone then some ((), { channel with eventLock := some task })
      else none)
  | .unlockEvents index, .none =>
    registry.onChannel index (fun channel =>
      if channel.eventLock = some task then some ((), { channel with eventLock := none })
      else none)
  | .lockCommands index, .none =>
    registry.onChannel index (fun channel =>
      if channel.commandLock.isNone then some ((), { channel with commandLock := some task })
      else none)
  | .unlockCommands index, .none =>
    registry.onChannel index (fun channel =>
      if channel.commandLock = some task then some ((), { channel with commandLock := none })
      else none)
  | .recvCommandTimeout index, .channel =>
    registry.onChannel index (fun channel =>
      match channel.tryRecvCommand with
      | (channel, some command) => some (some command, channel)
      | (_, none) => none)
  | .recvCommandTimeout _, .tick => some (none, registry)
  | .tryRecvCommand index, .none =>
    registry.onChannel index (fun channel =>
      let (channel, command) := channel.tryRecvCommand
      some (command, channel))
  | .nextLongPollMessageId index, .none =>
    registry.onChannel index (fun channel =>
      some (channel.nextMessageId,
        { channel with nextMessageId := channel.nextMessageId.next }))
  | .selectEvent index, .channel =>
    registry.onChannel index (fun channel =>
      channel.recvEvent.map (fun (channel, event) => (.event event, channel)))
  | .selectEvent _, .browser message => some (.incoming message, registry)
  | .selectAgent _, .agent incoming => some (.incoming incoming, registry)
  | .selectAgent index, .channel =>
    registry.onChannel index (fun channel =>
      match channel.tryRecvCommand with
      | (channel, some command) => some (.command (some command), channel)
      | (channel, none) =>
        if registry.isRegistered index then none else some (.command none, channel))
  | .selectAgent _, .tick => some (.livenessCheck, registry)
  | _, _ => none

/-- Accesses to the enrolled nodes and the router. -/
inductive NodeAction where
  | nodeIsOnline (nodeId : String)
  | nodeDetails (nodeId : String)
  | authenticateTransport (nodeId credentialFingerprint credentialProof agentVersion : String)
  | revokeNode (nodeId : String)
  | selectRoute (request : RouteRequest)
  | recordSuccess (route : NodeRoute)
  | recordFailure (route : NodeRoute)

abbrev NodeReply : NodeAction → Type
  | .nodeIsOnline _ => Bool
  | .nodeDetails _ => Option NodeView
  | .authenticateTransport .. => Except NodeConnectionError NodeView
  | .revokeNode _ => Except NodeConnectionError NodeView
  | .selectRoute _ => Option NodeRoute
  | .recordSuccess _ => Unit
  | .recordFailure _ => Unit

def performNode (enrollment : NodeEnrollmentState) (router : InMemoryNodeRouter) :
    (action : NodeAction) → Choice →
      Option (NodeReply action × NodeEnrollmentState × InMemoryNodeRouter)
  | .nodeIsOnline nodeId, .clock now =>
    some (enrollment.nodeIsOnline nodeId now, enrollment, router)
  | .nodeDetails nodeId, .clock now =>
    some (enrollment.nodeDetails nodeId now, enrollment, router)
  | .authenticateTransport nodeId fingerprint proof agentVersion, .clock now =>
    let (enrollment, result) :=
      enrollment.authenticateTransport nodeId fingerprint proof agentVersion now
    some (result, enrollment, router)
  | .revokeNode nodeId, .clock now =>
    let (enrollment, result) := enrollment.revokeNode nodeId now
    some (result, enrollment, router)
  | .selectRoute request, .none => some (router.selectRoute request, enrollment, router)
  | .recordSuccess route, .none => some ((), enrollment, router.recordSuccess route)
  | .recordFailure route, .none => some ((), enrollment, router.recordFailure route)
  | _, _ => none

/-- The remaining effects: sockets and HTTP responses, the clock, the audit log, the counter of
    session ids, authorization decisions (`none` when the auth service is unavailable) and the
    start of a PTY reader. -/
inductive HostAction where
  | nextSessionId
  | receive
  | send (message : TerminalServerMessage)
  | receiveAgent
  | sendAgent (envelope : AgentTransportEnvelope)
  | now
  | audit (input : AuditEventInput)
  | respond (status : Nat) (error : Option String)
  | userHasNodePermission (actorEmail nodeId : String) (permission : Permission)
  | agentAuthFailureAllowed (nodeId : String)
  | spawnReader (pty : Nat) (sessionId : TerminalSessionId) (output : Nat)

abbrev HostReply : HostAction → Type
  | .nextSessionId => TerminalSessionId
  | .receive => Option WebSocketMessage
  | .send _ => Bool
  | .receiveAgent => AgentIncoming
  | .sendAgent _ => Bool
  | .now => Nat
  | .audit _ => Unit
  | .respond .. => Unit
  | .userHasNodePermission .. => Option Bool
  | .agentAuthFailureAllowed _ => Bool
  | .spawnReader .. => Unit

/-- `next_session_id`: the text of the counter, which then moves on. -/
def sessionIdOf (n : Nat) : TerminalSessionId := ⟨"local-" ++ toString n⟩

def performHost (state : AppState) :
    (action : HostAction) → Choice → Option (HostReply action × AppState)
  | .nextSessionId, .none =>
    some (sessionIdOf state.nextSessionId, { state with nextSessionId := state.nextSessionId + 1 })
  | .receive, .browser message => some (message, state)
  | .send _, .decide sent => some (sent, state)
  | .receiveAgent, .agent incoming => some (incoming, state)
  | .sendAgent _, .decide sent => some (sent, state)
  | .now, .clock now => some (now, state)
  | .audit input, .none => some ((), { state with audit := state.audit ++ [input] })
  | .respond .., .none => some ((), state)
  | .userHasNodePermission .., .decide allowed => some (some allowed, state)
  | .userHasNodePermission .., .none => some (none, state)
  | .agentAuthFailureAllowed _, .decide allowed => some (allowed, state)
  | .spawnReader .., .none => some ((), state)
  | _, _ => none

inductive Action where
  | terminal (action : TerminalAction)
  | agent (action : AgentAction)
  | node (action : NodeAction)
  | host (action : HostAction)

abbrev Reply : Action → Type
  | .terminal action => TerminalReply action
  | .agent action => AgentReply action
  | .node action => NodeReply action
  | .host action => HostReply action

def perform (task : Nat) (state : AppState) :
    (action : Action) → Choice → Option (Reply action × AppState)
  | .terminal action, choice =>
    (performTerminal state.sessions action choice).map (fun (reply, sessions) =>
      (reply, { state with sessions := sessions }))
  | .agent action, choice =>
    (performAgent task state.agentConnections action choice).map (fun (reply, connections) =>
      (reply, { state with agentConnections := connections }))
  | .node action, choice =>
    (performNode state.nodeEnrollment state.nodeRouter action choice).map
      (fun (reply, enrollment, router) =>
        (reply, { state with nodeEnrollment := enrollment, nodeRouter := router }))
  | .host action, choice => performHost state action choice

/-- A handler: a program over these accesses. -/
abbrev Handler := Program Action Reply

def terminal (action : TerminalAction) : Handler (TerminalReply action) :=
  Program.perform (R := Reply) (.terminal action)

def agent (action : AgentAction) : Handler (AgentReply action) :=
  Program.perform (R := Reply) (.agent action)

def node (action : NodeAction) : Handler (NodeReply action) :=
  Program.perform (R := Reply) (.node action)

def host (action : HostAction) : Handler (HostReply action) :=
  Program.perform (R := Reply) (.host action)

end Sunbolt.Control
