/- Module: Sunbolt/Control/AgentHandlers
   scope: sunbolt-control/src/agent/mod.rs
   digest: The agent websocket and long-poll handlers, and the machine of all handlers. -/

import Sunbolt.Control.TerminalHandlers

set_option autoImplicit false
set_option relaxedAutoImplicit false

namespace Sunbolt.Control

open Sunbolt.Library
open Sunbolt.Protocol

def agentTransportHeartbeatInterval : Nat := secs 30

def agentTransportLivenessTimeout : Nat := secs 90

def agentTransportMaxInFlightMessages : Nat := 128

def agentTransportLongPollBatch : Nat := 32

def millis (duration : Nat) : Nat := min (duration / 1000000) u64Max

inductive AgentTransportConnectionError where
  | missingClientHello
  | invalidEnvelope
  | unsupportedProtocolVersion
  | unsupportedTransport
  | authenticationFailed
  | revoked
  deriving DecidableEq, Repr

def transportErrorForConnection : AgentTransportConnectionError → AgentTransportError
  | .missingClientHello | .invalidEnvelope =>
    ⟨.malformedMessage, "first agent transport frame must be a valid client hello"⟩
  | .unsupportedProtocolVersion =>
    ⟨.unsupportedProtocolVersion, "agent transport protocol version is not supported"⟩
  | .unsupportedTransport =>
    ⟨.unsupportedTransport, "agent transport does not support the required transport"⟩
  | .authenticationFailed => ⟨.authenticationFailed, "agent transport authentication failed"⟩
  | .revoked => ⟨.nodeRevoked, "agent node is revoked"⟩

def transportErrorForAuthRateLimit (error : AgentTransportConnectionError)
    (rateLimited : Bool) : AgentTransportError :=
  if rateLimited then
    ⟨.authenticationFailed, "too many agent transport authentication failures"⟩
  else transportErrorForConnection error

def agentTransportAuthenticationFailureReason : AgentTransportConnectionError → String
  | .authenticationFailed => "invalid node identity"
  | .revoked => "node revoked"
  | _ => "not an authentication failure"

def agentTransportKindName : AgentTransportKind → String
  | .webSocketTlsTcp443 => "WebSocketTlsTcp443"
  | .http2TlsTcp443 => "Http2TlsTcp443"
  | .quicUdp443 => "QuicUdp443"
  | .longPollHttps => "LongPollHttps"

def AgentTransportHandshake.serverHello (handshake : AgentTransportHandshake) :
    AgentTransportServerHello where
  acceptedProtocolVersion := protocolVersion
  selectedTransport := handshake.selectedTransport
  heartbeatIntervalMs := millis agentTransportHeartbeatInterval
  livenessTimeoutMs := millis agentTransportLivenessTimeout
  maxInFlightMessages := agentTransportMaxInFlightMessages
  reconnectPolicy := .productionDefault
  resume := .notRequested

def AgentTransportHandshake.envelope (handshake : AgentTransportHandshake)
    (messageId : AgentTransportMessageId) (payload : AgentTransportPayload) :
    AgentTransportEnvelope :=
  .current messageId handshake.nodeId handshake.transportId payload

def parseTransportEnvelope : AgentFrame → Except AgentTransportConnectionError
    AgentTransportEnvelope
  | .text (some envelope) => .ok envelope
  | .text none => .error .invalidEnvelope
  | .other => .error .invalidEnvelope

def validateClientHelloForTransport (hello : AgentTransportClientHello)
    (required : AgentTransportKind) : Except AgentTransportConnectionError Unit :=
  if !hello.supportedProtocolVersions.contains protocolVersion then
    .error .unsupportedProtocolVersion
  else if required ∉ hello.supportedTransports then
    .error .unsupportedTransport
  else .ok ()

def authenticateTransportClient (nodeId : NodeId) (hello : AgentTransportClientHello) :
    Handler (Except AgentTransportConnectionError NodeView) := do
  let result : Except NodeConnectionError NodeView ← node (.authenticateTransport nodeId.val
    hello.credentialFingerprint hello.credentialProof hello.agentVersion)
  match result with
  | .ok view => return .ok view
  | .error .revoked => return .error .revoked
  | .error _ => return .error .authenticationFailed

def negotiateTransportForKind (envelope : AgentTransportEnvelope) (kind : AgentTransportKind) :
    Handler (Except AgentTransportConnectionError AgentTransportHandshake) := do
  match envelope.validate with
  | .error _ => return .error .invalidEnvelope
  | .ok () =>
    match envelope.payload with
    | .clientHello hello =>
      match validateClientHelloForTransport hello kind with
      | .error error => return .error error
      | .ok () =>
        match ← authenticateTransportClient envelope.nodeId hello with
        | .error error => return .error error
        | .ok _ => return .ok ⟨envelope.nodeId, envelope.transportId, kind⟩
    | _ => return .error .missingClientHello

/-- An authentication failure is counted and audited; true when the limit is exceeded. -/
def recordAgentTransportAuthenticationFailure (nodeId : NodeId) (transportId : AgentTransportId)
    (error : AgentTransportConnectionError) : Handler Bool := do
  if error ≠ .authenticationFailed ∧ error ≠ .revoked then
    return false
  let allowed : Bool ← host (.agentAuthFailureAllowed nodeId.val)
  record .agentAuthenticationFailed none
    (if allowed then
      "agent transport authentication failed for node " ++ nodeId.val ++ " on transport " ++
        transportId.val ++ ": " ++ agentTransportAuthenticationFailureReason error
    else
      "agent transport authentication rate limit exceeded for node " ++ nodeId.val ++
        " on transport " ++ transportId.val)
  return !allowed

inductive TransportFrameOutcome where
  | heartbeatReceived (pingMessageId : AgentTransportMessageId)
  | terminalEventReceived
  | ignored
  deriving DecidableEq, Repr

/-- One envelope of an authenticated agent: a terminal event goes to the event channel. -/
def handleAgentTransportEnvelope (handshake : AgentTransportHandshake)
    (envelope : AgentTransportEnvelope) (channel : Nat) :
    Handler (Except AgentTransportError TransportFrameOutcome) := do
  match envelope.validate with
  | .error error =>
    return .error ⟨.malformedMessage, "invalid transport envelope: " ++ error.text⟩
  | .ok () =>
    if envelope.nodeId ≠ handshake.nodeId ∨ envelope.transportId ≠ handshake.transportId then
      return .error ⟨.malformedMessage, "transport envelope identity does not match connection"⟩
    match envelope.payload with
    | .heartbeat (.ping _) => return .ok (.heartbeatReceived envelope.messageId)
    | .terminalEvent _ event =>
      let sent : Bool ← agent (.trySendEvent channel event)
      if sent then
        return .ok .terminalEventReceived
      else
        return .error ⟨.backpressureLimitExceeded, "terminal event channel is full"⟩
    | _ => return .ok .ignored

def agentDisconnectedText (handshake : AgentTransportHandshake) (reason : String) : String :=
  "agent node " ++ handshake.nodeId.val ++ " disconnected from transport " ++
    handshake.transportId.val ++ ": " ++ reason

/-- What follows the loop of an agent websocket. Its ends of the channels go with it. -/
def leaveAgentSocket (session : AgentSession) (reason : String) : Handler (Option Stage) := do
  let handshake := session.handshake
  let _ ← agent (.disconnectTransport handshake.nodeId.val handshake.transportId)
  record .agentDisconnected none (agentDisconnectedText handshake reason)
  agent (.dropTransport session.channel)
  return none

def frameResult (session : AgentSession) (frame : AgentFrame) :
    Handler (Except AgentTransportError TransportFrameOutcome) :=
  match parseTransportEnvelope frame with
  | .ok envelope => handleAgentTransportEnvelope session.handshake envelope session.channel
  | .error _ => pure (.error ⟨.malformedMessage, "invalid transport frame: InvalidEnvelope"⟩)

/-- One frame of an authenticated agent websocket. -/
def handleAgentFrame (session : AgentSession) (frame : AgentFrame) : Handler (Option Stage) := do
  let outcome ← frameResult session frame
  let next := { session with nextMessageId := session.nextMessageId.next }
  match outcome with
  | .ok (.heartbeatReceived pingMessageId) =>
    let now : Nat ← host .now
    let sent : Bool ← host (.sendAgent (session.handshake.envelope session.nextMessageId
      (.heartbeat (.pong pingMessageId 0))))
    if sent then
      return some (.agentConnected { next with lastHeartbeatAt := now })
    else
      leaveAgentSocket session "failed to send heartbeat acknowledgement"
  | .ok _ => return some (.agentConnected session)
  | .error error =>
    let _ ← host (.sendAgent (session.handshake.envelope session.nextMessageId
      (.error ⟨.malformedMessage, "invalid transport frame: " ++ error.message⟩)))
    return some (.agentConnected next)

/-- One turn of the loop of an agent websocket. -/
def agentConnectedLoop (session : AgentSession) : Handler (Option Stage) := do
  let wake : AgentWake ← agent (.selectAgent session.channel)
  match wake with
  | .incoming (.frame frame) => handleAgentFrame session frame
  | .incoming (.failed text) => leaveAgentSocket session ("agent websocket error: " ++ text)
  | .incoming .closed => leaveAgentSocket session "agent websocket closed"
  | .command none => leaveAgentSocket session "agent command channel closed"
  | .command (some command) =>
    let sent : Bool ← host (.sendAgent (session.handshake.envelope session.nextMessageId
      (.terminalCommand command)))
    if sent then
      return some (.agentConnected { session with nextMessageId := session.nextMessageId.next })
    else
      leaveAgentSocket session "failed to send terminal command to agent"
  | .livenessCheck =>
    let now : Nat ← host .now
    if agentTransportLivenessTimeout ≤ now - session.lastHeartbeatAt then
      leaveAgentSocket session "agent transport heartbeat timeout"
    else
      return some (.agentConnected session)

def recordAgentReplaced (handshake : AgentTransportHandshake) : Handler Unit :=
  record .agentDisconnected none
    ("duplicate agent transport replaced existing connection for node " ++ handshake.nodeId.val)

def recordAgentNegotiated (handshake : AgentTransportHandshake) : Handler Unit :=
  record .agentTransportNegotiated none
    ("agent transport " ++ handshake.transportId.val ++ " negotiated for node " ++
      handshake.nodeId.val ++ " using " ++ agentTransportKindName handshake.selectedTransport)

/-- An agent websocket, from its first frame. -/
def handleAgentTransportSocket : Handler (Option Stage) := do
  let first : AgentIncoming ← host .receiveAgent
  match first with
  | .failed _ => return none
  | .closed => return none
  | .frame frame =>
    match parseTransportEnvelope frame with
    | .error error =>
      let _ ← host (.sendAgent (.current .first ⟨"unknown"⟩ ⟨"unknown"⟩
        (.error (transportErrorForConnection error))))
      return none
    | .ok envelope =>
      match ← negotiateTransportForKind envelope .webSocketTlsTcp443 with
      | .error error =>
        let rateLimited ← recordAgentTransportAuthenticationFailure envelope.nodeId
          envelope.transportId error
        let _ ← host (.sendAgent (.current .first envelope.nodeId envelope.transportId
          (.error (transportErrorForAuthRateLimit error rateLimited))))
        return none
      | .ok handshake =>
        let registered : AgentConnectionRegistration × Nat ← agent (.registerTransport
          handshake.nodeId.val handshake.transportId handshake.selectedTransport)
        runIf (registered.1 = .replacedExisting) (recordAgentReplaced handshake)
        recordAgentNegotiated handshake
        record .agentConnected none
          ("agent node " ++ handshake.nodeId.val ++ " connected on transport " ++
            handshake.transportId.val)
        let sent : Bool ← host (.sendAgent (handshake.envelope ⟨2⟩
          (.serverHello handshake.serverHello)))
        if !sent then
          let _ ← agent (.disconnectTransport handshake.nodeId.val handshake.transportId)
          agent (.dropTransport registered.2)
          return none
        let now : Nat ← host .now
        return some (.agentConnected ⟨handshake, registered.2, ⟨3⟩, now⟩)

/-! The long-poll transport. -/

def recordLongPollRegistration (registration : AgentConnectionRegistration)
    (handshake : AgentTransportHandshake) : Handler Unit := do
  if registration ≠ .existing then
    runIf (registration = .replacedExisting) (recordAgentReplaced handshake)
    recordAgentNegotiated handshake
    record .agentConnected none
      ("agent node " ++ handshake.nodeId.val ++ " connected on degraded long-poll transport " ++
        handshake.transportId.val)

def longPollEnvelope (handshake : AgentTransportHandshake) (channel : Nat)
    (payload : AgentTransportPayload) : Handler AgentTransportEnvelope := do
  let messageId : AgentTransportMessageId ← agent (.nextLongPollMessageId channel)
  return handshake.envelope messageId payload

def handleLongPollEvents (handshake : AgentTransportHandshake) (channel : Nat) :
    List AgentTransportEnvelope → List AgentTransportEnvelope →
      Handler (List AgentTransportEnvelope)
  | [], envelopes => return envelopes
  | event :: events, envelopes => do
    match ← handleAgentTransportEnvelope handshake event channel with
    | .ok (.heartbeatReceived pingMessageId) =>
      let pong ← longPollEnvelope handshake channel (.heartbeat (.pong pingMessageId 0))
      handleLongPollEvents handshake channel events (envelopes ++ [pong])
    | .ok _ => handleLongPollEvents handshake channel events envelopes
    | .error error =>
      let envelope ← longPollEnvelope handshake channel (.error error)
      handleLongPollEvents handshake channel events (envelopes ++ [envelope])

/-- Take the commands that are there, at most `room` of them. -/
def takeLongPollCommands (handshake : AgentTransportHandshake) (channel : Nat) :
    Nat → List AgentTransportEnvelope → Handler (List AgentTransportEnvelope)
  | 0, envelopes => return envelopes
  | room + 1, envelopes => do
    let command : Option AgentTerminalCommand ← agent (.tryRecvCommand channel)
    match command with
    | none => return envelopes
    | some command =>
      let envelope ← longPollEnvelope handshake channel (.terminalCommand command)
      takeLongPollCommands handshake channel room (envelopes ++ [envelope])

/-- With nothing but the server hello to answer, wait for a command. -/
def awaitLongPollCommand (handshake : AgentTransportHandshake) (channel : Nat)
    (envelopes : List AgentTransportEnvelope) : Handler (List AgentTransportEnvelope) := do
  if envelopes.length ≠ 1 then
    return envelopes
  let command : Option AgentTerminalCommand ← agent (.recvCommandTimeout channel)
  match command with
  | some command =>
    let envelope ← longPollEnvelope handshake channel (.terminalCommand command)
    return envelopes ++ [envelope]
  | none => return envelopes

def appendLongPollCommands (handshake : AgentTransportHandshake) (channel : Nat)
    (envelopes : List AgentTransportEnvelope) : Handler (List AgentTransportEnvelope) := do
  agent (.lockCommands channel)
  let envelopes ← awaitLongPollCommand handshake channel envelopes
  let envelopes ← takeLongPollCommands handshake channel
    (agentTransportLongPollBatch - envelopes.length) envelopes
  agent (.unlockCommands channel)
  return envelopes

def sendAll : List AgentTransportEnvelope → Handler Unit
  | [] => return
  | envelope :: rest => do
    let _ ← host (.sendAgent envelope)
    sendAll rest

def rejectLongPoll (failed : AgentTransportEnvelope) (error : AgentTransportConnectionError) :
    Handler (Option Stage) := do
  let rateLimited ← recordAgentTransportAuthenticationFailure failed.nodeId failed.transportId
    error
  host (.respond (if rateLimited then 429 else 400) none)
  let _ ← host (.sendAgent (.current .first failed.nodeId failed.transportId
    (.error (transportErrorForAuthRateLimit error rateLimited))))
  return none

/-- One long-poll request; its response is sent envelope by envelope. -/
def agentTransportLongPoll (request : AgentTransportLongPollRequest) :
    Handler (Option Stage) := do
  match ← negotiateTransportForKind request.clientHello .longPollHttps with
  | .error error => rejectLongPoll request.clientHello error
  | .ok handshake =>
    let registered : AgentConnectionRegistration × RegisteredAgentConnection ←
      agent (.ensureLongPollTransport handshake.nodeId.val handshake.transportId)
    recordLongPollRegistration registered.1 handshake
    if !registered.2.longPoll then
      return ← rejectLongPoll request.clientHello .unsupportedTransport
    let channel := registered.2.channel
    let hello ← longPollEnvelope handshake channel (.serverHello handshake.serverHello)
    let envelopes ← handleLongPollEvents handshake channel request.events [hello]
    let envelopes ← appendLongPollCommands handshake channel envelopes
    host (.respond 200 none)
    sendAll envelopes
    return none

/-! All handlers together. -/

/-- What the environment may start. -/
inductive Arrival where
  | browser (actorEmail : String)
  | terminate (actorEmail : String) (sessionId : TerminalSessionId)
  | revoke (actorEmail : String) (nodeId : String)
  | agentSocket
  | longPoll (request : AgentTransportLongPollRequest)
  | cleanup

def entry : Arrival → Stage
  | .browser actorEmail => .terminalSocket actorEmail
  | .terminate actorEmail sessionId => .terminateSession actorEmail sessionId
  | .revoke actorEmail nodeId => .revokeNode actorEmail nodeId
  | .agentSocket => .agentSocket
  | .longPoll request => .agentLongPoll request
  | .cleanup => .cleanupWorker

def body (config : TerminalSessionConfig) : Stage → Handler (Option Stage)
  | .terminalSocket actorEmail => handleTerminalSocket config actorEmail
  | .localAttached attachment => localAttachedLoop config attachment
  | .remoteOpened opening => remoteOpenedLoop opening
  | .remoteAttached attachment => remoteAttachedLoop attachment
  | .ptyReader pty sessionId output => readPtyOutput pty sessionId output
  | .terminateSession actorEmail sessionId => terminateTerminalSession actorEmail sessionId
  | .cleanupWorker => sessionCleanupWorker config
  | .revokeNode actorEmail nodeId => revokeNode actorEmail nodeId
  | .agentSocket => handleAgentTransportSocket
  | .agentConnected session => agentConnectedLoop session
  | .agentLongPoll request => agentTransportLongPoll request

/-- The reader is the only task a handler starts. -/
def spawned : Action → List Stage
  | .host (.spawnReader pty sessionId output) => [.ptyReader pty sessionId output]
  | _ => []

/-- The control plane: every handler over the one application state. -/
def controlPlane (config : TerminalSessionConfig) :
    Service AppState Action Reply Stage Choice where
  perform task state action choice :=
    (perform task state action choice).map (fun (reply, state) => ⟨reply, state, spawned action⟩)
  body := body config

/-- A control plane that has just started: no session, no connection, any enrolled nodes. -/
def AppState.boot (nodes : NodeEnrollmentState) : AppState where
  sessions := ⟨∅, [], []⟩
  agentConnections := ⟨∅, []⟩
  nodeEnrollment := nodes
  nodeRouter := ⟨∅⟩
  nextSessionId := 1
  audit := []

abbrev ControlEvent := Event AppState Action Reply Stage

abbrev ControlPool := Pool AppState Action Reply Stage

/-- The runs of the control plane, from its start. -/
def Reaches (config : TerminalSessionConfig) (nodes : NodeEnrollmentState)
    (history : List ControlEvent) (pool : ControlPool) : Prop :=
  (controlPlane config).Reaches entry (.boot nodes) history pool

/-- The calls made along the given labels; none at all when one of them is not enabled. -/
def calls (config : TerminalSessionConfig) (nodes : NodeEnrollmentState)
    (labels : List (Label Arrival Choice)) : List ControlEvent :=
  ((((controlPlane config).machine entry).run ⟨.boot nodes, []⟩ labels).map Prod.snd).getD []

theorem reaches_calls {config : TerminalSessionConfig} {nodes : NodeEnrollmentState}
    {labels : List (Label Arrival Choice)} (h : (calls config nodes labels).isEmpty = false) :
    ∃ pool, Reaches config nodes (calls config nodes labels) pool := by
  cases hrun : ((controlPlane config).machine entry).run ⟨.boot nodes, []⟩ labels with
  | none => simp [calls, hrun] at h
  | some out =>
    refine ⟨out.1, labels, ?_⟩
    simp [calls, hrun]

/-- A history around the call at a position. -/
theorem split_at {α : Type} {history : List α} {n : Nat} {e : α}
    (h : history[n]? = some e) : history = history.take n ++ e :: history.drop (n + 1) := by
  obtain ⟨hn, rfl⟩ := List.getElem?_eq_some_iff.mp h
  rw [← List.drop_eq_getElem_cons hn, List.take_append_drop]

/-- A browser opens a local terminal, as the task of this number. -/
def localOpening (task : Nat) (actorEmail token : String) : List (Label Arrival Choice) :=
  [.arrive (.browser actorEmail),
    .move task (.browser (some (.text (.ok (.start none ⟨80, 24⟩))))),
    .move task .none, .move task (.system (.ok ())), .move task (.clockToken 0 ⟨token⟩),
    .move task .none, .move task (.decide true), .move task .none, .move task .none,
    .move task .none, .move task .none]

/-- One node has enrolled; its credential is good for an hour. -/
def oneNode : NodeEnrollmentState where
  nodes := [⟨0, "n", "n", "n", "linux", "x86_64", "1", .enrolled⟩]
  credentials := [⟨0, "f", "p", 0, 0, secs 3600, 3600, none⟩]
  heartbeats := []

/-- An envelope of the node's agent. -/
def agentEnvelope (messageId : Nat) (payload : AgentTransportPayload) : AgentTransportEnvelope :=
  .current ⟨messageId⟩ ⟨"n"⟩ ⟨"n-outbound"⟩ payload

def agentHello : AgentTransportClientHello :=
  ⟨[1], [.webSocketTlsTcp443], .webSocketTlsTcp443, "1", "f", "p", none⟩

/-- The node's agent connects over a websocket, as the task of this number. -/
def agentOpening (task : Nat) (replaces : Bool) : List (Label Arrival Choice) :=
  [.arrive .agentSocket,
    .move task (.agent (.frame (.text (some (agentEnvelope 1 (.clientHello agentHello)))))),
    .move task (.clock 0), .move task .none] ++
  (if replaces then [.move task .none] else []) ++
  [.move task .none, .move task .none, .move task (.decide true), .move task (.clock 0)]

/-- A browser opens a terminal on the node, as the task of this number. -/
def remoteOpening (task : Nat) (actorEmail token : String) : List (Label Arrival Choice) :=
  [.arrive (.browser actorEmail),
    .move task (.browser (some (.text (.ok (.start (some ⟨"n"⟩) ⟨80, 24⟩))))),
    .move task .none, .move task (.decide true), .move task (.clock 0), .move task .none,
    .move task .none, .move task .none, .move task .none, .move task .none, .move task .none,
    .move task (.clockToken 0 ⟨token⟩), .move task .none, .move task .none]

/-- The limits when the environment sets none. -/
def defaultTerminalSessionConfig : TerminalSessionConfig :=
  ⟨16, 5, 10, secs (30 * 60), secs (8 * 60 * 60)⟩

end Sunbolt.Control
