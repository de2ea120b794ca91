/- Module: Sunbolt/Control/Steps
   scope: sunbolt-control/src/state.rs
   digest: What one call can do to the application state, said once for each action. -/

import Sunbolt.Control.AgentHandlers

set_option autoImplicit false
set_option relaxedAutoImplicit false

namespace Sunbolt.Control

open Sunbolt.Library
open Sunbolt.Protocol (TerminalSessionId TerminalReconnectToken TerminalServerMessage
  AgentTerminalCommand AgentTerminalEvent AgentTransportId AgentTransportKind)
open Sunbolt.Terminal (TerminalSessionState LocalPtySession ChildStatus)

/-- The calls that change the session registry, its PTYs or its channels. -/
inductive TerminalWrite (registry : TerminalSessionRegistry) :
    (action : TerminalAction) → TerminalReply action → TerminalSessionRegistry → Prop
  | insert (request : TerminalSessionInsert) (now : Nat) (token : TerminalReconnectToken) :
    TerminalWrite registry (.insert request) (registry.insertBackend request now token).2
      (registry.insertBackend request now token).1
  | setState (sessionId : TerminalSessionId) (state : TerminalSessionState) :
    TerminalWrite registry (.setState sessionId state) () (registry.setState sessionId state)
  | reattach (sessionId : TerminalSessionId) (reconnectToken : TerminalReconnectToken)
      (actorEmail : String) (now : Nat) (token : TerminalReconnectToken) :
    TerminalWrite registry (.reattach sessionId reconnectToken actorEmail)
      (registry.reattach sessionId reconnectToken actorEmail now token).2
      (registry.reattach sessionId reconnectToken actorEmail now token).1
  | touch (sessionId : TerminalSessionId) (now : Nat) :
    TerminalWrite registry (.touch sessionId) () (registry.touch sessionId now)
  | setSize (sessionId : TerminalSessionId) (size : ProtocolTerminalSize) :
    TerminalWrite registry (.setSize sessionId size) () (registry.setSize sessionId size)
  | recordOutput (sessionId : TerminalSessionId) (data : String) :
    TerminalWrite registry (.recordOutput sessionId data) (registry.recordOutput sessionId data).2
      (registry.recordOutput sessionId data).1
  | rememberServerMessage (message : TerminalServerMessage) :
    TerminalWrite registry (.rememberServerMessage message) ()
      (registry.rememberServerMessage message)
  | terminate (sessionId : TerminalSessionId) :
    TerminalWrite registry (.terminate sessionId) (registry.terminate sessionId).2
      (registry.terminate sessionId).1
  | remove (sessionId : TerminalSessionId) :
    TerminalWrite registry (.remove sessionId) () (registry.remove sessionId)
  | drainExpired (maxDuration idleTimeout now : Nat) :
    TerminalWrite registry (.drainExpired maxDuration idleTimeout)
      (registry.drainExpired maxDuration idleTimeout now).2
      (registry.drainExpired maxDuration idleTimeout now).1
  | closeSessionsForNode (nodeId : String) :
    TerminalWrite registry (.closeSessionsForNode nodeId) (registry.closeSessionsForNode nodeId).2
      (registry.closeSessionsForNode nodeId).1
  | spawnDefaultShell (size : Sunbolt.Terminal.TerminalSize) :
    TerminalWrite registry (.spawnDefaultShell size) (.ok registry.ptys.length)
      { registry with ptys := registry.ptys ++ [LocalPtySession.spawned] }
  | close (pty : Nat) : TerminalWrite registry (.close pty) () (registry.closePty pty)
  | tryWaitExit (pty : Nat) (session : LocalPtySession) (status : ChildStatus)
      (found : registry.ptys[pty]? = some session) :
    TerminalWrite registry (.tryWaitExit pty) (session.tryWaitExit status).2
      { registry with ptys := registry.ptys.set pty (session.tryWaitExit status).1 }
  | waitExit (pty : Nat) (session next : LocalPtySession) (status : ChildStatus)
      (result : Except Sunbolt.Terminal.TerminalError
        (Option Sunbolt.Terminal.TerminalExitStatus))
      (found : registry.ptys[pty]? = some session)
      (waited : session.waitExit status = some (next, result)) :
    TerminalWrite registry (.waitExit pty) result
      { registry with ptys := registry.ptys.set pty next }
  | broadcast (output : Nat) (message : TerminalServerMessage) :
    TerminalWrite registry (.broadcast output message) ()
      { registry with outputs := registry.outputs.modify output (·.send message) }
  | dropSender (output : Nat) :
    TerminalWrite registry (.dropSender output) () (registry.dropSender output)

/-- The calls that only look. -/
inductive TerminalRead (registry : TerminalSessionRegistry) :
    (action : TerminalAction) → TerminalReply action → Prop
  | reconnectToken (sessionId : TerminalSessionId) :
    TerminalRead registry (.reconnectToken sessionId) (registry.reconnectToken sessionId)
  | ownerMatches (sessionId : TerminalSessionId) (actorEmail : String) :
    TerminalRead registry (.ownerMatches sessionId actorEmail)
      (registry.ownerMatches sessionId actorEmail)
  | nodeId (sessionId : TerminalSessionId) :
    TerminalRead registry (.nodeId sessionId) (registry.nodeId sessionId)
  | isIdle (sessionId : TerminalSessionId) (timeout now : Nat) :
    TerminalRead registry (.isIdle sessionId timeout) (registry.isIdle sessionId timeout now)
  | isExceededMaxDuration (sessionId : TerminalSessionId) (maxDuration now : Nat) :
    TerminalRead registry (.isExceededMaxDuration sessionId maxDuration)
      (registry.isExceededMaxDuration sessionId maxDuration now)
  | state (sessionId : TerminalSessionId) :
    TerminalRead registry (.state sessionId) (registry.state sessionId)
  | spawnDefaultShell (size : Sunbolt.Terminal.TerminalSize)
      (error : Sunbolt.Terminal.TerminalError) :
    TerminalRead registry (.spawnDefaultShell size) (.error error)
  | writeInput (pty : Nat) (data : String) (session : LocalPtySession)
      (result : Except Sunbolt.Terminal.TerminalError Unit)
      (found : registry.ptys[pty]? = some session) :
    TerminalRead registry (.writeInput pty data) (session.guardClosed result)
  | resize (pty : Nat) (size : Sunbolt.Terminal.TerminalSize) (session : LocalPtySession)
      (result : Except Sunbolt.Terminal.TerminalError Unit)
      (found : registry.ptys[pty]? = some session) :
    TerminalRead registry (.resize pty size) (session.guardClosed result)
  | isClosed (pty : Nat) (session : LocalPtySession)
      (found : registry.ptys[pty]? = some session) :
    TerminalRead registry (.isClosed pty) session.closed
  | readOutput (pty : Nat) (session : LocalPtySession)
      (result : Except Sunbolt.Terminal.TerminalError (List UInt8))
      (found : registry.ptys[pty]? = some session) (fits : fitsBuffer result = true) :
    TerminalRead registry (.readOutput pty) (session.guardClosed result)
  | subscribe (output : Nat) (channel : Broadcast TerminalServerMessage)
      (found : registry.outputs[output]? = some channel) :
    TerminalRead registry (.subscribe output) channel.log.length
  | selectOutput (output next after : Nat) (idleChecks : Bool)
      (channel : Broadcast TerminalServerMessage)
      (received : Received TerminalServerMessage)
      (found : registry.outputs[output]? = some channel)
      (got : channel.recv outputChannelCapacity next = some (received, after)) :
    TerminalRead registry (.selectAttached output next idleChecks) (.output received after)
  | selectIncoming (output next : Nat) (idleChecks : Bool)
      (message : Option WebSocketMessage) :
    TerminalRead registry (.selectAttached output next idleChecks) (.incoming message)
  | selectIdleCheck (output next : Nat) :
    TerminalRead registry (.selectAttached output next true) .idleCheck

/-- Every enabled call on the registry is one of these. -/
theorem performTerminal_cases {registry next : TerminalSessionRegistry}
    {action : TerminalAction} {choice : Choice} {reply : TerminalReply action}
    (h : performTerminal registry action choice = some (reply, next)) :
    TerminalWrite registry action reply next ∨
      TerminalRead registry action reply ∧ next = registry := by
  unfold performTerminal at h
  split at h
  · cases h
    exact Or.inl (.insert ..)
  · cases h
    exact Or.inl (.setState ..)
  · cases h
    exact Or.inl (.reattach ..)
  · cases h
    exact Or.inr ⟨.reconnectToken .., rfl⟩
  · cases h
    exact Or.inr ⟨.ownerMatches .., rfl⟩
  · cases h
    exact Or.inr ⟨.nodeId .., rfl⟩
  · cases h
    exact Or.inl (.touch ..)
  · cases h
    exact Or.inr ⟨.isIdle .., rfl⟩
  · cases h
    exact Or.inr ⟨.isExceededMaxDuration .., rfl⟩
  · cases h
    exact Or.inl (.setSize ..)
  · cases h
    exact Or.inl (.recordOutput ..)
  · cases h
    exact Or.inl (.rememberServerMessage ..)
  · cases h
    exact Or.inl (.terminate ..)
  · cases h
    exact Or.inl (.remove ..)
  · cases h
    exact Or.inr ⟨.state .., rfl⟩
  · cases h
    exact Or.inl (.drainExpired ..)
  · cases h
    exact Or.inl (.closeSessionsForNode ..)
  · cases h
    exact Or.inl (.spawnDefaultShell ..)
  · cases h
    exact Or.inr ⟨.spawnDefaultShell .., rfl⟩
  · obtain ⟨session, found, heq⟩ := Option.map_eq_some_iff.mp h
    cases heq
    exact Or.inr ⟨.writeInput _ _ session _ found, rfl⟩
  · obtain ⟨session, found, heq⟩ := Option.map_eq_some_iff.mp h
    cases heq
    exact Or.inr ⟨.resize _ _ session _ found, rfl⟩
  · cases h
    exact Or.inl (.close ..)
  · obtain ⟨session, found, heq⟩ := Option.map_eq_some_iff.mp h
    cases heq
    exact Or.inr ⟨.isClosed _ session found, rfl⟩
  · split at h
    · rename_i fits
      obtain ⟨session, found, heq⟩ := Option.map_eq_some_iff.mp h
      cases heq
      exact Or.inr ⟨.readOutput _ session _ found fits, rfl⟩
    · cases h
  · obtain ⟨session, found, heq⟩ := Option.map_eq_some_iff.mp h
    cases heq
    exact Or.inl (.tryWaitExit _ session _ found)
  · obtain ⟨session, found, heq⟩ := Option.bind_eq_some_iff.mp h
    obtain ⟨⟨after, result⟩, waited, heq⟩ := Option.map_eq_some_iff.mp heq
    cases heq
    exact Or.inl (.waitExit _ session after _ _ found waited)
  · obtain ⟨channel, found, heq⟩ := Option.map_eq_some_iff.mp h
    cases heq
    exact Or.inr ⟨.subscribe _ channel found, rfl⟩
  · cases h
    exact Or.inl (.broadcast ..)
  · cases h
    exact Or.inl (.dropSender ..)
  · obtain ⟨channel, found, heq⟩ := Option.bind_eq_some_iff.mp h
    obtain ⟨⟨received, after⟩, got, heq⟩ := Option.map_eq_some_iff.mp heq
    cases heq
    exact Or.inr ⟨.selectOutput _ _ _ _ channel _ found got, rfl⟩
  · cases h
    exact Or.inr ⟨.selectIncoming .., rfl⟩
  · cases h
    exact Or.inr ⟨.selectIdleCheck .., rfl⟩
  · cases h

/-- What a call makes of the session it leaves under an id. -/
inductive SessionStep (registry : TerminalSessionRegistry) (sessionId : TerminalSessionId) :
    (action : TerminalAction) → TerminalReply action → TrackedTerminalSession → Prop
  | same {action : TerminalAction} {reply : TerminalReply action}
      (session : TrackedTerminalSession) (found : registry.get sessionId = some session) :
    SessionStep registry sessionId action reply session
  | insert (request : TerminalSessionInsert) (now : Nat) (token : TerminalReconnectToken)
      (named : request.sessionId = sessionId) :
    SessionStep registry sessionId (.insert request) (.ok registry.outputs.length)
      (request.tracked registry.outputs.length now token)
  | setState (state : TerminalSessionState) (session : TrackedTerminalSession)
      (found : registry.get sessionId = some session) :
    SessionStep registry sessionId (.setState sessionId state) () (session.moveTo state)
  | reattach (reconnectToken : TerminalReconnectToken) (actorEmail : String) (now : Nat)
      (token : TerminalReconnectToken) (session : TrackedTerminalSession)
      (reply : Option TerminalReattachTarget) (found : registry.get sessionId = some session) :
    SessionStep registry sessionId (.reattach sessionId reconnectToken actorEmail) reply
      { session with reconnectToken := token, state := .reattaching, lastActivity := now }
  | touch (now : Nat) (session : TrackedTerminalSession)
      (found : registry.get sessionId = some session) :
    SessionStep registry sessionId (.touch sessionId) () { session with lastActivity := now }
  | setSize (size : ProtocolTerminalSize) (session : TrackedTerminalSession)
      (found : registry.get sessionId = some session) :
    SessionStep registry sessionId (.setSize sessionId size) () { session with size := size }
  | recordOutput (data : String) (session : TrackedTerminalSession)
      (reply : Option TerminalServerMessage) (found : registry.get sessionId = some session) :
    SessionStep registry sessionId (.recordOutput sessionId data) reply
      (session.record sessionId data)
  | rememberServerMessage (message : TerminalServerMessage) (session : TrackedTerminalSession)
      (found : registry.get sessionId = some session)
      (named : TerminalSessionRegistry.rememberedSession message = some sessionId) :
    SessionStep registry sessionId (.rememberServerMessage message) ()
      (session.pushReplay message)

/-- A change of one session either made the session that is found, or left it alone. -/
private theorem get_of_modify {registry : TerminalSessionRegistry}
    {f : TrackedTerminalSession → TrackedTerminalSession} {c : Prop} [Decidable c]
    {sessionId : TerminalSessionId} {session : TrackedTerminalSession}
    (h : (if c then (registry.get sessionId).map f else registry.get sessionId) = some session) :
    (c ∧ ∃ before, registry.get sessionId = some before ∧ session = f before) ∨
      registry.get sessionId = some session := by
  by_cases hc : c
  · rw [if_pos hc] at h
    obtain ⟨before, hbefore, heq⟩ := Option.map_eq_some_iff.mp h
    exact Or.inl ⟨hc, before, hbefore, heq.symm⟩
  · rw [if_neg hc] at h
    exact Or.inr h

private theorem get_of_removal {registry : TerminalSessionRegistry} {c : Prop} [Decidable c]
    {sessionId : TerminalSessionId} {session : TrackedTerminalSession}
    (h : (if c then none else registry.get sessionId) = some session) :
    registry.get sessionId = some session := by
  by_cases hc : c
  · rw [if_pos hc] at h
    cases h
  · rwa [if_neg hc] at h

/-- A session found after a call was there before, or the call inserted it. -/
theorem TerminalWrite.session {registry next : TerminalSessionRegistry}
    {action : TerminalAction} {reply : TerminalReply action}
    (h : TerminalWrite registry action reply next) {sessionId : TerminalSessionId}
    {session : TrackedTerminalSession} (found : next.get sessionId = some session) :
    SessionStep registry sessionId action reply session := by
  cases h with
  | insert request now token =>
    rcases registry.insertBackend_cases request now token with ⟨error, heq⟩ | heq
    · rw [heq] at found
      exact .same session found
    · rw [heq] at found ⊢
      rw [TerminalSessionRegistry.get_insert] at found
      by_cases hid : sessionId = request.sessionId
      · rw [if_pos hid] at found
        cases found
        exact .insert request now token hid.symm
      · rw [if_neg hid] at found
        exact .same session found
  | setState named state =>
    rw [TerminalSessionRegistry.get_setState] at found
    rcases get_of_modify found with ⟨rfl, before, hbefore, rfl⟩ | hsame
    · exact .setState state before hbefore
    · exact .same session hsame
  | reattach named reconnectToken actorEmail now token =>
    rcases registry.reattach_cases named reconnectToken actorEmail now token with
      heq | ⟨tracked, -, -, -, -, heq⟩
    · rw [heq] at found
      exact .same session found
    · rw [heq, TerminalSessionRegistry.get_modify] at found
      rcases get_of_modify found with ⟨rfl, before, hbefore, rfl⟩ | hsame
      · exact .reattach reconnectToken actorEmail now token before _ hbefore
      · exact .same session hsame
  | touch named now =>
    rw [TerminalSessionRegistry.get_touch] at found
    rcases get_of_modify found with ⟨rfl, before, hbefore, rfl⟩ | hsame
    · exact .touch now before hbefore
    · exact .same session hsame
  | setSize named size =>
    rw [TerminalSessionRegistry.get_setSize] at found
    rcases get_of_modify found with ⟨rfl, before, hbefore, rfl⟩ | hsame
    · exact .setSize size before hbefore
    · exact .same session hsame
  | recordOutput named data =>
    rw [TerminalSessionRegistry.get_recordOutput] at found
    rcases get_of_modify found with ⟨rfl, before, hbefore, rfl⟩ | hsame
    · exact .recordOutput data before _ hbefore
    · exact .same session hsame
  | rememberServerMessage message =>
    rw [TerminalSessionRegistry.get_rememberServerMessage] at found
    rcases get_of_modify found with ⟨hnamed, before, hbefore, rfl⟩ | hsame
    · exact .rememberServerMessage message before hbefore hnamed
    · exact .same session hsame
  | terminate named =>
    rw [TerminalSessionRegistry.get_terminate] at found
    exact .same session (get_of_removal found)
  | remove named =>
    rw [TerminalSessionRegistry.get_remove] at found
    exact .same session (get_of_removal found)
  | drainExpired maxDuration idleTimeout now =>
    rw [TerminalSessionRegistry.drainExpired, TerminalSessionRegistry.get_removeEach] at found
    exact .same session (get_of_removal found)
  | closeSessionsForNode nodeId =>
    rw [TerminalSessionRegistry.closeSessionsForNode,
      TerminalSessionRegistry.get_removeEach] at found
    exact .same session (get_of_removal found)
  | _ => exact .same session found

/-- A call on one channel of an agent connection, made by this task. -/
inductive ChannelStep (task : Nat) :
    (action : AgentAction) → AgentReply action → Nat → AgentChannel → AgentChannel → Prop
  | dropTransport (index : Nat) (channel : AgentChannel) :
    ChannelStep task (.dropTransport index) () index channel
      { channel with commandsOpen := false, eventsOpen := false }
  | sendCommand (index : Nat) (command : AgentTerminalCommand) (channel next : AgentChannel)
      (sent : Bool) (h : channel.sendCommand command = some (next, sent)) :
    ChannelStep task (.sendCommand index command) sent index channel next
  | trySendEvent (index : Nat) (event : AgentTerminalEvent) (channel : AgentChannel) :
    ChannelStep task (.trySendEvent index event) (channel.trySendEvent event).2 index channel
      (channel.trySendEvent event).1
  | trySendEventLost (index : Nat) (event : AgentTerminalEvent) (channel : AgentChannel) :
    ChannelStep task (.trySendEvent index event) false index channel channel
  | lockEvents (index : Nat) (channel : AgentChannel) (free : channel.eventLock = none) :
    ChannelStep task (.lockEvents index) () index channel { channel with eventLock := some task }
  | unlockEvents (index : Nat) (channel : AgentChannel)
      (held : channel.eventLock = some task) :
    ChannelStep task (.unlockEvents index) () index channel { channel with eventLock := none }
  | lockCommands (index : Nat) (channel : AgentChannel) (free : channel.commandLock = none) :
    ChannelStep task (.lockCommands index) () index channel
      { channel with commandLock := some task }
  | unlockCommands (index : Nat) (channel : AgentChannel)
      (held : channel.commandLock = some task) :
    ChannelStep task (.unlockCommands index) () index channel { channel with commandLock := none }
  | recvCommand (index : Nat) (command : AgentTerminalCommand) (channel next : AgentChannel)
      (h : channel.tryRecvCommand = (next, some command)) :
    ChannelStep task (.recvCommandTimeout index) (some command) index channel next
  | tryRecvCommand (index : Nat) (channel : AgentChannel) :
    ChannelStep task (.tryRecvCommand index) channel.tryRecvCommand.2 index channel
      channel.tryRecvCommand.1
  | nextLongPollMessageId (index : Nat) (channel : AgentChannel) :
    ChannelStep task (.nextLongPollMessageId index) channel.nextMessageId index channel
      { channel with nextMessageId := channel.nextMessageId.next }
  | selectEvent (index : Nat) (channel next : AgentChannel) (event : Option AgentTerminalEvent)
      (h : channel.recvEvent = some (next, event)) :
    ChannelStep task (.selectEvent index) (.event event) index channel next
  | selectCommand (index : Nat) (command : AgentTerminalCommand) (channel next : AgentChannel)
      (h : channel.tryRecvCommand = (next, some command)) :
    ChannelStep task (.selectAgent index) (.command (some command)) index channel next
  | selectCommandsClosed (index : Nat) (channel : AgentChannel) :
    ChannelStep task (.selectAgent index) (.command none) index channel channel

/-- What a call does to the agent connections. -/
inductive AgentStep (task : Nat) (registry : AgentConnectionRegistry) :
    (action : AgentAction) → AgentReply action → AgentConnectionRegistry → Prop
  | connection (nodeId : String) :
    AgentStep task registry (.connection nodeId) (registry.connection nodeId) registry
  | connectedNodeIdsExcept (nodeId : String) :
    AgentStep task registry (.connectedNodeIdsExcept nodeId)
      (registry.connectedNodeIdsExcept nodeId) registry
  | registerTransport (nodeId : String) (transportId : AgentTransportId)
      (transportKind : AgentTransportKind) :
    AgentStep task registry (.registerTransport nodeId transportId transportKind)
      (registry.registerTransport nodeId transportId transportKind).2
      (registry.registerTransport nodeId transportId transportKind).1
  | ensureLongPollTransport (nodeId : String) (transportId : AgentTransportId) :
    AgentStep task registry (.ensureLongPollTransport nodeId transportId)
      (registry.ensureLongPollTransport nodeId transportId).2
      (registry.ensureLongPollTransport nodeId transportId).1
  | disconnect (nodeId : String) :
    AgentStep task registry (.disconnect nodeId) () (registry.disconnect nodeId)
  | disconnectTransport (nodeId : String) (transportId : AgentTransportId) :
    AgentStep task registry (.disconnectTransport nodeId transportId)
      (registry.disconnectTransport nodeId transportId).2
      (registry.disconnectTransport nodeId transportId).1
  | recvCommandTimeout (index : Nat) :
    AgentStep task registry (.recvCommandTimeout index) none registry
  | selectIncoming (index : Nat) (message : Option WebSocketMessage) :
    AgentStep task registry (.selectEvent index) (.incoming message) registry
  | selectAgentIncoming (index : Nat) (incoming : AgentIncoming) :
    AgentStep task registry (.selectAgent index) (.incoming incoming) registry
  | selectLivenessCheck (index : Nat) :
    AgentStep task registry (.selectAgent index) .livenessCheck registry
  | onChannel {action : AgentAction} {reply : AgentReply action} (index : Nat)
      (channel next : AgentChannel) (found : registry.channels[index]? = some channel)
      (step : ChannelStep task action reply index channel next) :
    AgentStep task registry action reply
      { registry with channels := registry.channels.set index next }

theorem onChannel_some {α : Type} {registry next : AgentConnectionRegistry}
    {index : Nat} {f : AgentChannel → Option (α × AgentChannel)} {reply : α}
    (h : registry.onChannel index f = some (reply, next)) :
    ∃ channel after, registry.channels[index]? = some channel ∧
      f channel = some (reply, after) ∧
      next = { registry with channels := registry.channels.set index after } := by
  obtain ⟨channel, found, h⟩ := Option.bind_eq_some_iff.mp h
  obtain ⟨⟨given, after⟩, hf, heq⟩ := Option.map_eq_some_iff.mp h
  cases heq
  exact ⟨channel, after, found, hf, rfl⟩

private theorem tryRecvCommand_none {channel next : AgentChannel}
    (h : channel.tryRecvCommand = (next, none)) : next = channel := by
  unfold AgentChannel.tryRecvCommand at h
  split at h <;> cases h
  rfl

/-- Every enabled call on the agent connections is one of these. -/
theorem performAgent_cases {task : Nat} {registry next : AgentConnectionRegistry}
    {action : AgentAction} {choice : Choice} {reply : AgentReply action}
    (h : performAgent task registry action choice = some (reply, next)) :
    AgentStep task registry action reply next := by
  unfold performAgent at h
  split at h
  · cases h
    exact .connection _
  · cases h
    exact .connectedNodeIdsExcept _
  · cases h
    exact .registerTransport ..
  · cases h
    exact .ensureLongPollTransport ..
  · cases h
    exact .disconnect _
  · cases h
    exact .disconnectTransport ..
  · obtain ⟨channel, after, found, heq, rfl⟩ := onChannel_some h
    cases heq
    exact .onChannel _ channel _ found (.dropTransport ..)
  · obtain ⟨channel, after, found, heq, rfl⟩ := onChannel_some h
    obtain ⟨⟨after, sent⟩, hsent, heq⟩ := Option.map_eq_some_iff.mp heq
    cases heq
    exact .onChannel _ channel _ found (.sendCommand _ _ _ _ _ hsent)
  · obtain ⟨channel, after, found, heq, rfl⟩ := onChannel_some h
    cases heq
    exact .onChannel _ channel _ found (.trySendEvent ..)
  · split at h
    · cases h
    · obtain ⟨channel, after, found, heq, rfl⟩ := onChannel_some h
      cases heq
      exact .onChannel _ channel _ found (.trySendEventLost ..)
  · obtain ⟨channel, after, found, heq, rfl⟩ := onChannel_some h
    split at heq
    · rename_i free
      cases heq
      exact .onChannel _ channel _ found (.lockEvents _ _ (Option.isNone_iff_eq_none.mp free))
    · cases heq
  · obtain ⟨channel, after, found, heq, rfl⟩ := onChannel_some h
    split at heq
    · rename_i held
      cases heq
      exact .onChannel _ channel _ found (.unlockEvents _ _ held)
    · cases heq
  · obtain ⟨channel, after, found, heq, rfl⟩ := onChannel_some h
    split at heq
    · rename_i free
      cases heq
      exact .onChannel _ channel _ found (.lockCommands _ _ (Option.isNone_iff_eq_none.mp free))
    · cases heq
  · obtain ⟨channel, after, found, heq, rfl⟩ := onChannel_some h
    split at heq
    · rename_i held
      cases heq
      exact .onChannel _ channel _ found (.unlockCommands _ _ held)
    · cases heq
  · obtain ⟨channel, after, found, heq, rfl⟩ := onChannel_some h
    split at heq
    · rename_i taken
      cases heq
      exact .onChannel _ channel _ found (.recvCommand _ _ _ _ taken)
    · cases heq
  · cases h
    exact .recvCommandTimeout _
  · obtain ⟨channel, after, found, heq, rfl⟩ := onChannel_some h
    cases heq
    exact .onChannel _ channel _ found (.tryRecvCommand ..)
  · obtain ⟨channel, after, found, heq, rfl⟩ := onChannel_some h
    cases heq
    exact .onChannel _ channel _ found (.nextLongPollMessageId ..)
  · obtain ⟨channel, after, found, heq, rfl⟩ := onChannel_some h
    obtain ⟨⟨after, event⟩, taken, heq⟩ := Option.map_eq_some_iff.mp heq
    cases heq
    exact .onChannel _ channel _ found (.selectEvent _ _ _ _ taken)
  · cases h
    exact .selectIncoming ..
  · cases h
    exact .selectAgentIncoming ..
  · obtain ⟨channel, after, found, heq, rfl⟩ := onChannel_some h
    split at heq
    · rename_i taken
      cases heq
      exact .onChannel _ channel _ found (.selectCommand _ _ _ _ taken)
    · split at heq
      · cases heq
      · rename_i empty _
        cases heq
        obtain rfl := tryRecvCommand_none empty
        exact .onChannel _ _ _ found (.selectCommandsClosed ..)
  · cases h
    exact .selectLivenessCheck _
  · cases h

/-- What a call does to the application state. -/
inductive AppStep (task : Nat) (state : AppState) :
    (action : Action) → Reply action → AppState → Prop
  | write {action : TerminalAction} {reply : TerminalReply action}
      {sessions : TerminalSessionRegistry}
      (h : TerminalWrite state.sessions action reply sessions) :
    AppStep task state (.terminal action) reply { state with sessions := sessions }
  | read {action : TerminalAction} {reply : TerminalReply action}
      (h : TerminalRead state.sessions action reply) :
    AppStep task state (.terminal action) reply state
  | agent {action : AgentAction} {reply : AgentReply action}
      {connections : AgentConnectionRegistry}
      (h : AgentStep task state.agentConnections action reply connections) :
    AppStep task state (.agent action) reply { state with agentConnections := connections }
  | node {action : NodeAction} {reply : NodeReply action} (choice : Choice)
      {enrollment : NodeEnrollmentState} {router : InMemoryNodeRouter}
      (h : performNode state.nodeEnrollment state.nodeRouter action choice =
        some (reply, enrollment, router)) :
    AppStep task state (.node action) reply
      { state with nodeEnrollment := enrollment, nodeRouter := router }
  | nextSessionId :
    AppStep task state (.host .nextSessionId) (sessionIdOf state.nextSessionId)
      { state with nextSessionId := state.nextSessionId + 1 }
  | audit (input : AuditEventInput) :
    AppStep task state (.host (.audit input)) () { state with audit := state.audit ++ [input] }
  | host {action : HostAction} {reply : HostReply action} (quiet : action ≠ .nextSessionId) :
    AppStep task state (.host action) reply state

theorem perform_cases {task : Nat} {state next : AppState} {action : Action} {choice : Choice}
    {reply : Reply action} (h : perform task state action choice = some (reply, next)) :
    AppStep task state action reply next := by
  cases action with
  | terminal action =>
    obtain ⟨⟨given, sessions⟩, hperform, heq⟩ := Option.map_eq_some_iff.mp h
    cases heq
    rcases performTerminal_cases hperform with hwrite | ⟨hread, rfl⟩
    · exact .write hwrite
    · exact .read hread
  | agent action =>
    obtain ⟨⟨given, connections⟩, hperform, heq⟩ := Option.map_eq_some_iff.mp h
    cases heq
    exact .agent (performAgent_cases hperform)
  | node action =>
    obtain ⟨⟨given, enrollment, router⟩, hperform, heq⟩ := Option.map_eq_some_iff.mp h
    cases heq
    exact .node choice hperform
  | host action =>
    simp only [perform] at h
    unfold performHost at h
    split at h
    all_goals first
      | cases h; exact .nextSessionId
      | cases h; exact .audit _
      | cases h; exact .host (by simp)
      | cases h

end Sunbolt.Control
