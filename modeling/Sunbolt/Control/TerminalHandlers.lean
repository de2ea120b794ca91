/- Module: Sunbolt/Control/TerminalHandlers
   scope: sunbolt-control/src/terminal/mod.rs
   digest: The browser websocket handlers, the PTY reader and the cleanup worker. -/

import Sunbolt.Control.AppState
import Sunbolt.Library.Utf8Lossy

set_option autoImplicit false
set_option relaxedAutoImplicit false

namespace Sunbolt.Control

open Sunbolt.Library
open Sunbolt.Protocol (TerminalSessionId TerminalReconnectToken TerminalServerMessage
  TerminalClientMessage TerminalErrorCode TerminalExit AgentTerminalCommand AgentTerminalEvent
  NodeId TerminalTransportStatus AgentTransportLongPollRequest AgentTransportMessageId
  AgentTransportId AgentTransportKind protocolErrorText)
open Sunbolt.Terminal (TerminalExitStatus)

/-- A browser attached to a local session: where its receiver stands and whether the stream
    has failed. -/
structure LocalAttachment where
  actorEmail : String
  sessionId : TerminalSessionId
  pty : Nat
  output : Nat
  outputNext : Nat
  terminalFailed : Bool

/-- The handler that opened a remote session and reads its node's events. -/
structure RemoteOpening where
  actorEmail : String
  sessionId : TerminalSessionId
  nodeId : NodeId
  connection : RegisteredAgentConnection
  output : Nat
  terminalOpened : Bool
  terminalFailed : Bool

/-- A browser attached to a remote session by a reattach. -/
structure RemoteAttachment where
  actorEmail : String
  sessionId : TerminalSessionId
  commands : Nat
  output : Nat
  outputNext : Nat

structure AgentTransportHandshake where
  nodeId : NodeId
  transportId : AgentTransportId
  selectedTransport : AgentTransportKind

/-- An agent websocket after its handshake. -/
structure AgentSession where
  handshake : AgentTransportHandshake
  channel : Nat
  nextMessageId : AgentTransportMessageId
  lastHeartbeatAt : Nat

/-- Where a task stands between two loop iterations, or where it starts. -/
inductive Stage where
  | terminalSocket (actorEmail : String)
  | localAttached (attachment : LocalAttachment)
  | remoteOpened (opening : RemoteOpening)
  | remoteAttached (attachment : RemoteAttachment)
  | ptyReader (pty : Nat) (sessionId : TerminalSessionId) (output : Nat)
  | terminateSession (actorEmail : String) (sessionId : TerminalSessionId)
  | cleanupWorker
  | revokeNode (actorEmail : String) (nodeId : String)
  | agentSocket
  | agentConnected (session : AgentSession)
  | agentLongPoll (request : AgentTransportLongPollRequest)

def parseClientMessage : WebSocketMessage → Except Sunbolt.Protocol.TerminalError
    TerminalClientMessage
  | .text (.ok message) => .ok message
  | .text (.error text) =>
    .error (protocolErrorText .invalidMessage ("invalid terminal message JSON: " ++ text))
  | .binary =>
    .error (protocolErrorText .invalidMessage "binary terminal messages are not supported")
  | .close => .error (protocolErrorText .invalidMessage "terminal websocket closed")
  | .ping | .pong =>
    .error (protocolErrorText .invalidMessage
      "websocket control frames are not terminal protocol messages")

def terminalSizeFromProtocol (size : ProtocolTerminalSize) : Sunbolt.Terminal.TerminalSize :=
  ⟨max size.cols 1, max size.rows 1⟩

def exitMessage (sessionId : TerminalSessionId) (exit : TerminalExitStatus) :
    TerminalServerMessage :=
  .exited sessionId ⟨exit.code⟩

def protocolError (code : TerminalErrorCode) (error : Sunbolt.Terminal.TerminalError) :
    Sunbolt.Protocol.TerminalError :=
  protocolErrorText code error.text

def runIf (condition : Bool) (p : Handler Unit) : Handler Unit :=
  if condition then p else return

/-- Send a message to the browser and go on whatever becomes of it. -/
def sendIgnored (message : TerminalServerMessage) : Handler Unit := do
  let _ ← host (.send message)

def sendError (sessionId : Option TerminalSessionId) (code : TerminalErrorCode)
    (message : String) : Handler Unit :=
  sendIgnored (.error sessionId (protocolErrorText code message))

def record (kind : AuditEventKind) (actorEmail : Option String) (message : String) :
    Handler Unit :=
  host (.audit ⟨kind, actorEmail, message⟩)

def auditTerminalDetached (actorEmail : String) (sessionId : TerminalSessionId)
    (reason : String) : Handler Unit :=
  record .terminalDetached actorEmail
    ("terminal session " ++ sessionId.val ++ " detached: " ++ reason)

/-- The browser is gone: detach the session and say so in the audit log. -/
def detachDisconnected (actorEmail : String) (sessionId : TerminalSessionId) : Handler Unit := do
  terminal (.setState sessionId .detached)
  auditTerminalDetached actorEmail sessionId "browser websocket disconnected"

def sessionIdMatches (received active : TerminalSessionId) : Handler Bool := do
  if received = active then
    return true
  sendError active .sessionNotFound "terminal session id does not match this connection"
  return false

def authorizeSessionReattach (actorEmail : String) (sessionId : TerminalSessionId) :
    Handler Bool := do
  let owner : Bool ← terminal (.ownerMatches sessionId actorEmail)
  if !owner then
    return false
  let nodeId : Option String ← terminal (.nodeId sessionId)
  match nodeId with
  | none => return true
  | some nodeId =>
    let details : Option NodeView ← node (.nodeDetails nodeId)
    if details.any (fun details => details.status == .revoked) then
      return false
    let allowed : Option Bool ← host (.userHasNodePermission actorEmail nodeId .terminalReattach)
    return allowed.getD false

def authorizeSessionTerminate (actorEmail : String) (sessionId : TerminalSessionId) :
    Handler Bool := do
  let nodeId : Option String ← terminal (.nodeId sessionId)
  match nodeId with
  | none => return true
  | some nodeId =>
    let allowed : Option Bool ← host (.userHasNodePermission actorEmail nodeId .terminalTerminate)
    return allowed.getD false

def terminalMissingOrExpiredCode (sessionId : TerminalSessionId) : Handler TerminalErrorCode := do
  let state : Option Sunbolt.Terminal.TerminalSessionState ← terminal (.state sessionId)
  match state with
  | some .expired | some .terminated => return .sessionExpired
  | _ => return .sessionNotFound

/-! Local sessions. -/

def detachLocalTerminal (active : TerminalSessionId) : Handler Bool := do
  terminal (.setState active .detached)
  sendIgnored (.detached active)
  return false

def reattachLocalTerminal (active : TerminalSessionId) : Handler Bool := do
  terminal (.setState active .reattaching)
  terminal (.setState active .active)
  let token : Option TerminalReconnectToken ← terminal (.reconnectToken active)
  sendIgnored (.reattached active none ⟨80, 24⟩ token none)
  terminal (.setState active .active)
  return true

/-- A PTY operation that failed is reported to the browser. -/
def reportFailure (active : TerminalSessionId)
    (result : Except Sunbolt.Terminal.TerminalError Unit) : Handler Unit :=
  match result with
  | .ok () => return
  | .error error => sendIgnored (.error active (protocolError .terminalUnavailable error))

/-- Close and Terminate are one branch of the source. -/
def terminateLocalTerminal (actorEmail : String) (pty : Nat)
    (sessionId active : TerminalSessionId) : Handler Bool := do
  if !(← sessionIdMatches sessionId active) then
    return true
  terminal (.setState active .terminating)
  record .terminalTerminated actorEmail
    ("terminal session " ++ active.val ++ " explicitly terminated")
  terminal (.close pty)
  sendIgnored (.exited active ⟨none⟩)
  return false

/-- One browser frame on a local session; false when the handler has to leave its loop. -/
def handleClientFrame (actorEmail : String) (pty : Nat) (active : TerminalSessionId)
    (message : WebSocketMessage) : Handler Bool := do
  match parseClientMessage message with
  | .error error =>
    sendIgnored (.error active error)
    return true
  | .ok (.input sessionId data) =>
    if !(← sessionIdMatches sessionId active) then
      return true
    reportFailure active (← terminal (.writeInput pty data))
    return true
  | .ok (.resize sessionId size) =>
    if !(← sessionIdMatches sessionId active) then
      return true
    terminal (.setSize active size)
    reportFailure active (← terminal (.resize pty (terminalSizeFromProtocol size)))
    return true
  | .ok (.close sessionId) => terminateLocalTerminal actorEmail pty sessionId active
  | .ok (.terminate sessionId) => terminateLocalTerminal actorEmail pty sessionId active
  | .ok (.detach sessionId) =>
    if !(← sessionIdMatches sessionId active) then
      return true
    auditTerminalDetached actorEmail active "user detached terminal session"
    detachLocalTerminal active
  | .ok (.reattach sessionId _) =>
    if !(← sessionIdMatches sessionId active) then
      return true
    reattachLocalTerminal active
  | .ok (.ping nonce) =>
    sendIgnored (.pong nonce)
    return true
  | .ok (.start ..) =>
    sendError active .invalidMessage "terminal session is already started"
    return true

/-- What follows the loop: a detached session stays, any other is removed. -/
def leaveLocalSession (attachment : LocalAttachment) : Handler (Option Stage) := do
  let state : Option Sunbolt.Terminal.TerminalSessionState ←
    terminal (.state attachment.sessionId)
  if state = some .detached then
    return none
  terminal (.setState attachment.sessionId .terminating)
  terminal (.remove attachment.sessionId)
  runIf (!attachment.terminalFailed)
    (record .terminalClosed attachment.actorEmail
      ("terminal session " ++ attachment.sessionId.val ++ " closed"))
  return none

def expireLocalSession (attachment : LocalAttachment) (reason : String) :
    Handler (Option Stage) := do
  terminal (.setState attachment.sessionId .terminating)
  sendError attachment.sessionId .terminalUnavailable reason
  leaveLocalSession attachment

/-- A stream error is audited and keeps the close from being audited as well. -/
def noteStreamError (attachment : LocalAttachment) (output : TerminalServerMessage) :
    Handler LocalAttachment :=
  match output with
  | .error _ error => do
    record .terminalFailed attachment.actorEmail ("terminal stream error: " ++ error.message)
    return { attachment with terminalFailed := true }
  | _ => return attachment

def forwardLocalOutput (attachment : LocalAttachment) (output : TerminalServerMessage) :
    Handler (Option Stage) := do
  terminal (.touch attachment.sessionId)
  runIf output.isExited (terminal (.setState attachment.sessionId .terminated))
  let attachment ← noteStreamError attachment output
  let sent : Bool ← host (.send output)
  if !sent then
    detachDisconnected attachment.actorEmail attachment.sessionId
    leaveLocalSession attachment
  else if output.isExited then
    leaveLocalSession attachment
  else
    return some (.localAttached attachment)

/-- One turn of the loop that the first attach and a local reattach share. -/
def localAttachedLoop (config : TerminalSessionConfig) (attachment : LocalAttachment) :
    Handler (Option Stage) := do
  let wake : AttachedWake ←
    terminal (.selectAttached attachment.output attachment.outputNext true)
  match wake with
  | .output .lagged next => return some (.localAttached { attachment with outputNext := next })
  | .output .closed _ => leaveLocalSession attachment
  | .output (.value output) next =>
    forwardLocalOutput { attachment with outputNext := next } output
  | .incoming (some message) =>
    terminal (.touch attachment.sessionId)
    if ← handleClientFrame attachment.actorEmail attachment.pty attachment.sessionId message then
      return some (.localAttached attachment)
    else
      leaveLocalSession attachment
  | .incoming none =>
    detachDisconnected attachment.actorEmail attachment.sessionId
    leaveLocalSession attachment
  | .idleCheck =>
    let idle : Bool ← terminal (.isIdle attachment.sessionId config.idleTimeout)
    if idle then
      expireLocalSession attachment "terminal session idle timeout reached"
    else
      let exceeded : Bool ←
        terminal (.isExceededMaxDuration attachment.sessionId config.maxDuration)
      if exceeded then
        expireLocalSession attachment "terminal session exceeded maximum allowed duration"
      else
        return some (.localAttached attachment)

/-- The session is tracked: tell the browser and start reading the PTY. -/
def startLocalTerminal (actorEmail : String) (sessionId : TerminalSessionId)
    (size : ProtocolTerminalSize) (pty output : Nat) : Handler (Option Stage) := do
  let token : Option TerminalReconnectToken ← terminal (.reconnectToken sessionId)
  let sent : Bool ← host (.send (.started sessionId none size token none))
  if !sent then
    record .terminalFailed actorEmail "failed to send terminal started message"
    terminal (.close pty)
    terminal (.dropSender output)
    return none
  record .terminalOpened actorEmail ("terminal session " ++ sessionId.val ++ " opened")
  terminal (.setState sessionId .active)
  let outputNext : Nat ← terminal (.subscribe output)
  host (.spawnReader pty sessionId output)
  return some (.localAttached ⟨actorEmail, sessionId, pty, output, outputNext, false⟩)

/-- The PTY runs: track the session, or close the PTY again. -/
def trackLocalTerminal (config : TerminalSessionConfig) (actorEmail : String)
    (sessionId : TerminalSessionId) (size : ProtocolTerminalSize) (pty : Nat) :
    Handler (Option Stage) := do
  let inserted : Except SessionLimitError Nat ← terminal (.insert
    { sessionId := sessionId, backend := .local pty, size := size, config := config,
      actorEmail := actorEmail, nodeId := none, transportStatus := none })
  match inserted with
  | .error limitError =>
    record .terminalFailed actorEmail limitError.message
    terminal (.close pty)
    sendError sessionId .terminalUnavailable limitError.message
    return none
  | .ok output => startLocalTerminal actorEmail sessionId size pty output

/-- The first attach to a new local session. -/
def openLocalTerminal (config : TerminalSessionConfig) (actorEmail : String)
    (sessionId : TerminalSessionId) (size : ProtocolTerminalSize) : Handler (Option Stage) := do
  let spawned : Except Sunbolt.Terminal.TerminalError Nat ←
    terminal (.spawnDefaultShell (terminalSizeFromProtocol size))
  match spawned with
  | .error error =>
    record .terminalFailed actorEmail ("terminal spawn failed: " ++ error.text)
    sendIgnored (.error sessionId (protocolError .terminalUnavailable error))
    return none
  | .ok pty => trackLocalTerminal config actorEmail sessionId size pty

/-- What `read_pty_output` makes of one read. -/
def outputText (bytes : List UInt8) : String := String.ofList (Utf8Lossy.decode bytes)

def broadcastExit (sessionId : TerminalSessionId) (output : Nat)
    (exit : Except Sunbolt.Terminal.TerminalError (Option TerminalExitStatus))
    (otherwise : Handler Unit) : Handler Unit :=
  match exit with
  | .ok (some exit) => terminal (.broadcast output (exitMessage sessionId exit))
  | _ => otherwise

def broadcastRecorded (output : Nat) (message : Option TerminalServerMessage) : Handler Unit :=
  match message with
  | some message => terminal (.broadcast output message)
  | none => return

/-- The end of the reader: it waits for the child and drops its sender. -/
def finishReader (pty : Nat) (sessionId : TerminalSessionId) (output : Nat) :
    Handler (Option Stage) := do
  let exit : Except Sunbolt.Terminal.TerminalError (Option TerminalExitStatus) ←
    terminal (.waitExit pty)
  broadcastExit sessionId output exit (return)
  terminal (.dropSender output)
  return none

/-- One turn of the reader's loop. -/
def readPtyOutput (pty : Nat) (sessionId : TerminalSessionId) (output : Nat) :
    Handler (Option Stage) := do
  let closed : Bool ← terminal (.isClosed pty)
  if closed then
    finishReader pty sessionId output
  else
    let read : Except Sunbolt.Terminal.TerminalError (List UInt8) ← terminal (.readOutput pty)
    match read with
    | .ok [] => finishReader pty sessionId output
    | .error .closed => finishReader pty sessionId output
    | .ok bytes =>
      let message : Option TerminalServerMessage ←
        terminal (.recordOutput sessionId (outputText bytes))
      broadcastRecorded output message
      return some (.ptyReader pty sessionId output)
    | .error error =>
      let exit : Except Sunbolt.Terminal.TerminalError (Option TerminalExitStatus) ←
        terminal (.tryWaitExit pty)
      broadcastExit sessionId output exit
        (terminal (.broadcast output
          (.error sessionId (protocolError .terminalUnavailable error))))
      finishReader pty sessionId output

/-! Remote sessions. -/

/-- The message a node's event becomes; an output is recorded under the session it names. -/
def agentEventToBrowserMessage (event : AgentTerminalEvent) (nodeId : NodeId)
    (transportStatus : Option TerminalTransportStatus) : Handler TerminalServerMessage :=
  match event with
  | .terminalStarted sessionId size =>
    return .started sessionId nodeId size none transportStatus
  | .terminalOutput sessionId data => do
    let message : Option TerminalServerMessage ← terminal (.recordOutput sessionId data)
    return message.getD (.output sessionId 0 data)
  | .terminalExited sessionId exit => return .exited sessionId exit
  | .terminalError sessionId error => return .error sessionId error

/-- Send a command to the agent; false when its connection has dropped. -/
def forwardCommand (commands : Nat) (active : TerminalSessionId)
    (command : AgentTerminalCommand) : Handler Bool := do
  let sent : Bool ← agent (.sendCommand commands command)
  if !sent then
    sendError active .terminalUnavailable "agent connection dropped"
    return false
  return true

/-- Close and Terminate are one branch of the source. -/
def terminateRemoteTerminal (actorEmail : String) (commands : Nat)
    (sessionId active : TerminalSessionId) : Handler Bool := do
  if !(← sessionIdMatches sessionId active) then
    return true
  if !(← authorizeSessionTerminate actorEmail active) then
    sendError active .forbidden "terminal terminate is not permitted for this session"
    return true
  terminal (.setState active .terminating)
  record .terminalTerminated actorEmail
    ("remote terminal session " ++ active.val ++ " explicitly terminated")
  let _ ← agent (.sendCommand commands (.closeTerminal sessionId))
  return false

/-- One browser frame on a remote session; false when the handler has to leave its loop. -/
def handleRemoteClientFrame (actorEmail : String) (commands : Nat) (active : TerminalSessionId)
    (message : WebSocketMessage) : Handler Bool := do
  match parseClientMessage message with
  | .error error =>
    sendIgnored (.error active error)
    return true
  | .ok (.input sessionId data) =>
    if !(← sessionIdMatches sessionId active) then
      return true
    forwardCommand commands active (.writeInput sessionId data)
  | .ok (.resize sessionId size) =>
    if !(← sessionIdMatches sessionId active) then
      return true
    forwardCommand commands active (.resizeTerminal sessionId size)
  | .ok (.close sessionId) => terminateRemoteTerminal actorEmail commands sessionId active
  | .ok (.terminate sessionId) => terminateRemoteTerminal actorEmail commands sessionId active
  | .ok (.detach sessionId) =>
    if !(← sessionIdMatches sessionId active) then
      return true
    terminal (.setState active .detached)
    auditTerminalDetached actorEmail active "user detached remote terminal session"
    sendIgnored (.detached sessionId)
    return false
  | .ok (.reattach sessionId _) =>
    if !(← sessionIdMatches sessionId active) then
      return true
    sendError sessionId .invalidMessage "remote terminal reattach is not available yet"
    return true
  | .ok (.ping nonce) =>
    sendIgnored (.pong nonce)
    return true
  | .ok (.start ..) =>
    sendError active .invalidMessage "terminal session is already started"
    return true

/-- The handler returns: the lock on the events and the sender are dropped. -/
def releaseOpening (opening : RemoteOpening) : Handler (Option Stage) := do
  agent (.unlockEvents opening.connection.channel)
  terminal (.dropSender opening.output)
  return none

/-- What follows the loop: a detached session stays, any other is terminated and the agent
    is told. -/
def leaveRemoteSession (opening : RemoteOpening) : Handler (Option Stage) := do
  let sessionId := opening.sessionId
  let state : Option Sunbolt.Terminal.TerminalSessionState ← terminal (.state sessionId)
  if state = some .detached then
    releaseOpening opening
  else
    let _ ← terminal (.terminate sessionId)
    let _ ← agent (.sendCommand opening.connection.channel (.closeTerminal sessionId))
    runIf opening.terminalFailed
      (record .terminalFailed opening.actorEmail
        ("remote terminal session " ++ sessionId.val ++ " failed"))
    runIf (!opening.terminalFailed && opening.terminalOpened)
      (record .terminalClosed opening.actorEmail
        ("remote terminal session " ++ sessionId.val ++ " closed"))
    releaseOpening opening

/-- The agent has started the terminal. -/
def markOpened (opening : RemoteOpening) : Handler Unit := do
  terminal (.setState opening.sessionId .active)
  record .terminalOpened opening.actorEmail
    ("remote terminal session " ++ opening.sessionId.val ++ " opened on " ++ opening.nodeId.val)

/-- What one event of the node leads to, whichever session it names. -/
def handleAgentEvent (opening : RemoteOpening) (event : AgentTerminalEvent) :
    Handler (Option Stage) := do
  let sessionId := opening.sessionId
  let message ← agentEventToBrowserMessage event opening.nodeId
    opening.connection.terminalTransportStatus
  runIf message.isStarted (markOpened opening)
  let opening := { opening with
    terminalOpened := opening.terminalOpened || message.isStarted
    terminalFailed := opening.terminalFailed || message.isError }
  runIf (!message.isOutput) (terminal (.rememberServerMessage message))
  terminal (.broadcast opening.output message)
  let sent : Bool ← host (.send message)
  if !sent then
    detachDisconnected opening.actorEmail sessionId
    leaveRemoteSession opening
  else if message.isExited then
    terminal (.remove sessionId)
    leaveRemoteSession opening
  else
    return some (.remoteOpened opening)

/-- One turn of the loop of the handler that opened the session. -/
def remoteOpenedLoop (opening : RemoteOpening) : Handler (Option Stage) := do
  let wake : EventWake ← agent (.selectEvent opening.connection.channel)
  match wake with
  | .event none =>
    sendError opening.sessionId .terminalUnavailable "agent disconnected during terminal session"
    leaveRemoteSession { opening with terminalFailed := true }
  | .event (some event) => handleAgentEvent opening event
  | .incoming (some message) =>
    if ← handleRemoteClientFrame opening.actorEmail opening.connection.channel
        opening.sessionId message then
      return some (.remoteOpened opening)
    else
      leaveRemoteSession opening
  | .incoming none =>
    detachDisconnected opening.actorEmail opening.sessionId
    leaveRemoteSession opening

/-- One turn of the loop of a browser reattached to a remote session. -/
def remoteAttachedLoop (attachment : RemoteAttachment) : Handler (Option Stage) := do
  let wake : AttachedWake ←
    terminal (.selectAttached attachment.output attachment.outputNext false)
  match wake with
  | .output .lagged next => return some (.remoteAttached { attachment with outputNext := next })
  | .output .closed _ => return none
  | .output (.value output) next =>
    terminal (.touch attachment.sessionId)
    let sent : Bool ← host (.send output)
    if !sent then
      detachDisconnected attachment.actorEmail attachment.sessionId
      return none
    else if output.isExited then
      terminal (.remove attachment.sessionId)
      return none
    else
      return some (.remoteAttached { attachment with outputNext := next })
  | .incoming (some message) =>
    terminal (.touch attachment.sessionId)
    if ← handleRemoteClientFrame attachment.actorEmail attachment.commands
        attachment.sessionId message then
      return some (.remoteAttached attachment)
    else
      return none
  | .incoming none =>
    detachDisconnected attachment.actorEmail attachment.sessionId
    return none
  | .idleCheck => return some (.remoteAttached attachment)

def recordRouteSelected (actorEmail nodeId : String) (sessionId : TerminalSessionId)
    (routeId : String) : Handler Unit :=
  record .routeSelected actorEmail
    ("route " ++ routeId ++ " selected for terminal session " ++ sessionId.val ++ " on node " ++
      nodeId)

def recordRouteFailed (actorEmail nodeId : String) (sessionId : TerminalSessionId)
    (routeId : Option String) (reason : String) : Handler Unit :=
  record .routeFailed actorEmail
    ("route " ++ routeId.getD "unavailable" ++ " failed for terminal session " ++ sessionId.val ++
      " on node " ++ nodeId ++ ": " ++ reason)

/-- The agent has been told to start the terminal: track the session and take over the events. -/
def trackRemoteTerminal (config : TerminalSessionConfig) (actorEmail : String) (nodeId : NodeId)
    (sessionId : TerminalSessionId) (size : ProtocolTerminalSize) (route : NodeRoute)
    (connection : RegisteredAgentConnection) : Handler (Option Stage) := do
  let inserted : Except SessionLimitError Nat ← terminal (.insert
    { sessionId := sessionId, backend := .remote connection.channel, size := size,
      config := config, actorEmail := actorEmail, nodeId := some nodeId.val,
      transportStatus := some connection.terminalTransportStatus })
  match inserted with
  | .error limitError =>
    let _ ← agent (.sendCommand connection.channel (.closeTerminal sessionId))
    record .terminalFailed actorEmail limitError.message
    sendError sessionId .terminalUnavailable limitError.message
    return none
  | .ok output =>
    node (.recordSuccess route)
    agent (.lockEvents connection.channel)
    return some (.remoteOpened ⟨actorEmail, sessionId, nodeId, connection, output, false, false⟩)

/-- The selected route is the direct one: start the terminal over the node's connection. -/
def startRemoteTerminal (config : TerminalSessionConfig) (actorEmail : String) (nodeId : NodeId)
    (sessionId : TerminalSessionId) (size : ProtocolTerminalSize) (route : NodeRoute) :
    Handler (Option Stage) := do
  let connection : Option RegisteredAgentConnection ← agent (.connection nodeId.val)
  match connection with
  | none =>
    node (.recordFailure route)
    recordRouteFailed actorEmail nodeId.val sessionId (some route.routeId)
      "selected route has no active agent connection"
    record .terminalFailed actorEmail
      ("remote terminal requested without agent channel " ++ nodeId.val)
    sendError sessionId .terminalUnavailable "agent connection is not active"
    return none
  | some connection =>
    let sent : Bool ← agent (.sendCommand connection.channel (.startTerminal sessionId size))
    if !sent then
      agent (.disconnect nodeId.val)
      node (.recordFailure route)
      recordRouteFailed actorEmail nodeId.val sessionId (some route.routeId)
        "selected route dropped before terminal start"
      sendError sessionId .terminalUnavailable "agent connection dropped"
      return none
    else
      trackRemoteTerminal config actorEmail nodeId sessionId size route connection

/-- The first attach to a new remote session. -/
def openRemoteTerminal (config : TerminalSessionConfig) (actorEmail : String) (nodeId : NodeId)
    (sessionId : TerminalSessionId) (size : ProtocolTerminalSize) : Handler (Option Stage) := do
  let allowed : Option Bool ← host (.userHasNodePermission actorEmail nodeId.val .terminalOpen)
  if !allowed.getD false then
    record .terminalFailed actorEmail
      ("terminal open is not permitted for node " ++ nodeId.val)
    sendError sessionId .forbidden "terminal open is not permitted for this node"
    return none
  let online : Bool ← node (.nodeIsOnline nodeId.val)
  if !online then
    record .terminalFailed actorEmail
      ("remote terminal requested for unavailable node " ++ nodeId.val)
    sendError sessionId .terminalUnavailable "agent node is not online"
    return none
  let connection : Option RegisteredAgentConnection ← agent (.connection nodeId.val)
  let relays : List NodeId ← agent (.connectedNodeIdsExcept nodeId.val)
  let route : Option NodeRoute ← node (.selectRoute ⟨nodeId, connection.isSome, relays⟩)
  match route with
  | none =>
    recordRouteFailed actorEmail nodeId.val sessionId none "no healthy route is available"
    record .terminalFailed actorEmail
      ("remote terminal requested without healthy route " ++ nodeId.val)
    sendError sessionId .terminalUnavailable "no healthy route is available for the agent node"
    return none
  | some (.relayNode target relay) =>
    let route := NodeRoute.relayNode target relay
    recordRouteSelected actorEmail nodeId.val sessionId route.routeId
    node (.recordFailure route)
    recordRouteFailed actorEmail nodeId.val sessionId (some route.routeId)
      "selected relay route is not executable for terminal streams"
    record .terminalFailed actorEmail
      ("relay route selected for " ++ nodeId.val ++ ", but relay execution is not enabled")
    sendError sessionId .terminalUnavailable
      "relay routing is selected but not enabled for terminal streams"
    return none
  | some (.directAgent target) =>
    let route := NodeRoute.directAgent target
    recordRouteSelected actorEmail nodeId.val sessionId route.routeId
    startRemoteTerminal config actorEmail nodeId sessionId size route

/-! Reattach and the entry points. -/

def sendReplay : List TerminalServerMessage → Handler Unit
  | [] => return
  | message :: rest => do
    sendIgnored message
    sendReplay rest

def handleTerminalReattach (actorEmail : String) (sessionId : TerminalSessionId)
    (reconnectToken : TerminalReconnectToken) : Handler (Option Stage) := do
  if !(← authorizeSessionReattach actorEmail sessionId) then
    sendError sessionId .forbidden "terminal reattach is not permitted for this session"
    return none
  let target : Option TerminalReattachTarget ←
    terminal (.reattach sessionId reconnectToken actorEmail)
  match target with
  | none =>
    let code ← terminalMissingOrExpiredCode sessionId
    sendError sessionId code "terminal session was not found or is no longer reattachable"
    return none
  | some target =>
    sendIgnored (.reattached sessionId (target.nodeId.map NodeId.mk) target.size
      (some target.reconnectToken) target.transportStatus)
    sendReplay target.replay
    terminal (.setState sessionId .active)
    record .terminalReattached actorEmail
      ("terminal session " ++ sessionId.val ++ " reattached")
    match target.backend with
    | .local pty =>
      return some (.localAttached
        ⟨actorEmail, sessionId, pty, target.output, target.outputNext, false⟩)
    | .remote commands =>
      return some (.remoteAttached
        ⟨actorEmail, sessionId, commands, target.output, target.outputNext⟩)

/-- A browser websocket, from its first frame. -/
def handleTerminalSocket (config : TerminalSessionConfig) (actorEmail : String) :
    Handler (Option Stage) := do
  let first : Option WebSocketMessage ← host .receive
  match first with
  | none => return none
  | some first =>
    match parseClientMessage first with
    | .error error =>
      sendIgnored (.error none error)
      return none
    | .ok (.reattach sessionId reconnectToken) =>
      handleTerminalReattach actorEmail sessionId reconnectToken
    | .ok (.start nodeId size) =>
      let sessionId : TerminalSessionId ← host .nextSessionId
      match nodeId with
      | some nodeId => openRemoteTerminal config actorEmail nodeId sessionId size
      | none => openLocalTerminal config actorEmail sessionId size
    | .ok _ =>
      sendError none .invalidMessage "first terminal message must be start or reattach"
      return none

/-- The agent of a remote session is told to close its terminal. -/
def closeAtAgent (backend : TerminalBackend) (sessionId : TerminalSessionId) : Handler Unit :=
  match backend with
  | .remote commands => do
    let _ ← agent (.sendCommand commands (.closeTerminal sessionId))
  | .local _ => return

/-- The HTTP request that terminates a session. -/
def terminateTerminalSession (actorEmail : String) (sessionId : TerminalSessionId) :
    Handler (Option Stage) := do
  let owner : Bool ← terminal (.ownerMatches sessionId actorEmail)
  if !owner then
    host (.respond 404 (some "terminal session was not found"))
    return none
  if !(← authorizeSessionTerminate actorEmail sessionId) then
    host (.respond 403 (some "terminal terminate is not permitted for this session"))
    return none
  let backend : Option TerminalBackend ← terminal (.terminate sessionId)
  match backend with
  | none =>
    host (.respond 404 (some "terminal session was not found"))
    return none
  | some backend =>
    closeAtAgent backend sessionId
    record .terminalTerminated actorEmail
      ("terminal session " ++ sessionId.val ++ " explicitly terminated")
    host (.respond 200 none)
    return none

/-- What becomes of the sessions a bulk removal took out: the browsers and the agent are told,
    the close is audited and the sender is dropped. -/
def closeRemoved (error : Sunbolt.Protocol.TerminalError)
    (auditText : TerminalSessionId → String) : List RemovedSession → Handler Unit
  | [] => return
  | removed :: rest => do
    terminal (.broadcast removed.output (.error removed.sessionId error))
    closeAtAgent removed.backend removed.sessionId
    record .terminalClosed removed.actorEmail (auditText removed.sessionId)
    terminal (.dropSender removed.output)
    closeRemoved error auditText rest

/-- One tick of the cleanup worker. -/
def sessionCleanupWorker (config : TerminalSessionConfig) : Handler (Option Stage) := do
  let expired : List RemovedSession ←
    terminal (.drainExpired config.maxDuration config.idleTimeout)
  closeRemoved (protocolErrorText .sessionExpired "terminal session expired")
    (fun sessionId => "terminal session " ++ sessionId.val ++ " expired") expired
  return some .cleanupWorker

/-- The HTTP request that revokes a node. -/
def revokeNode (actorEmail : String) (nodeId : String) : Handler (Option Stage) := do
  let allowed : Option Bool ← host (.userHasNodePermission actorEmail nodeId .nodeRevoke)
  match allowed with
  | none =>
    host (.respond 500 (some "auth service unavailable"))
    return none
  | some false =>
    host (.respond 403 (some "node revocation is not permitted"))
    return none
  | some true =>
    let revoked : Except NodeConnectionError NodeView ← node (.revokeNode nodeId)
    match revoked with
    | .error .unknownNode =>
      host (.respond 404 (some "node not found"))
      return none
    | .error _ =>
      host (.respond 403 (some "node is not allowed"))
      return none
    | .ok _ =>
      let closed : List RemovedSession ← terminal (.closeSessionsForNode nodeId)
      closeRemoved (protocolErrorText .terminalUnavailable "node revoked")
        (fun sessionId =>
          "terminal session " ++ sessionId.val ++ " closed: node " ++ nodeId ++ " revoked")
        closed
      agent (.disconnect nodeId)
      record .nodeRevoked actorEmail ("node " ++ nodeId ++ " revoked")
      host (.respond 200 none)
      return none

end Sunbolt.Control
