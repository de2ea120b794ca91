/- Module: Sunbolt/Control/LongPollDelivery
   scope: sunbolt-control/src/agent/mod.rs
   digest: Long-poll requests deliver the commands of a connection once and in order. -/

import Sunbolt.Control.ConnectionLedger
import Sunbolt.Control.LongPollOrder
import Sunbolt.Library.Alone

set_option autoImplicit false
set_option relaxedAutoImplicit false

namespace Sunbolt.Control

open Sunbolt.Library
open Sunbolt.Protocol

/-- The command this call puts on the channel, if it does. -/
def sendingOf (channel : Nat) (x : Interaction Action Reply) : List AgentTerminalCommand :=
  match x with
  | ⟨.agent (.sendCommand index command), true⟩ => if index = channel then [command] else []
  | _ => []

/-- The commands accepted on the channel so far, in the order of their sends. -/
def acceptedOn (channel : Nat) (history : History) : List AgentTerminalCommand :=
  history.flatMap (fun e => sendingOf channel e.interaction)

/-- What the calls of a run show, with the task that made each call. -/
def byTask {α : Type} (f : Interaction Action Reply → List α) (history : History) :
    List (Nat × α) :=
  history.flatMap (fun e => (f e.interaction).map (Prod.mk e.task))

/-- The commands taken off the channel, with the task that took each. -/
def takes (channel : Nat) (history : History) : List (Nat × AgentTerminalCommand) :=
  byTask (commandTakenOf channel) history

/-- The message ids given out for envelopes of the connection, with the task that got each. -/
def messageIds (channel : Nat) (history : History) : List (Nat × AgentTransportMessageId) :=
  byTask (messageIdOf channel) history

/-- The task serves this request on the long-poll connection with this channel. -/
structure PollOf (history : History) (channel task : Nat)
    (request : AgentTransportLongPollRequest) : Prop where
  origin : ∃ e ∈ history, e.task = task ∧ e.origin = .agentLongPoll request
  served : PollsOn (own task history) channel

/-- A long-poll connection was registered with this channel. -/
def PolledChannel (history : History) (channel : Nat) : Prop :=
  ∃ task, PollsOn (own task history) channel

/-- A websocket was registered with this channel. -/
def SocketChannel (history : History) (channel : Nat) : Prop :=
  ∃ task, RegisteredChannel (own task history) channel

/-- The command number `i` in the response of a task is the accepted command number
    `position task i`; none is in two places, and the numbers go up within a response. -/
structure CarriesOnce (history : History) (channel : Nat) (position : Nat → Nat → Nat) :
    Prop where
  carried : ∀ {task request i command}, PollOf history channel task request →
    (commandsIn (response (own task history)))[i]? = some command →
    (acceptedOn channel history)[position task i]? = some command
  once : ∀ {task other request given i j}, PollOf history channel task request →
    PollOf history channel other given →
    i < (commandsIn (response (own task history))).length →
    j < (commandsIn (response (own other history))).length →
    position task i = position other j → task = other ∧ i = j
  ordered : ∀ {task request i j}, PollOf history channel task request → i < j →
    j < (commandsIn (response (own task history))).length → position task i < position task j

/-- What the requests on one connection make of its commands and its message ids. -/
structure LongPollDelivery (history : History) (channel : Nat) : Prop where
  taken : (takes channel history).map Prod.snd <+: acceptedOn channel history
  takers : ∀ take ∈ takes channel history, ∃ request, PollOf history channel take.1 request
  carried : ∃ position, CarriesOnce history channel position
  few : ∀ {task request}, PollOf history channel task request →
    (response (own task history)).length ≤
      max agentTransportLongPollBatch (1 + request.events.length)
  valid : ∀ {task request}, PollOf history channel task request →
    ∀ envelope ∈ response (own task history), envelope.messageId.isValid = true
  increasing : (messageIds channel history).length ≤ 2 ^ 64 - 2 →
    ∀ {task request}, PollOf history channel task request →
      ((response (own task history)).map (·.messageId.val)).Pairwise (· < ·)
  apart : (messageIds channel history).length ≤ 2 ^ 64 - 2 →
    ∀ {task other request given}, PollOf history channel task request →
      PollOf history channel other given → ∀ envelope ∈ response (own task history),
        ∀ envelope' ∈ response (own other history),
          envelope.messageId = envelope'.messageId → task = other

section ByTask

variable {α : Type} {f : Interaction Action Reply → List α} {history : History}

theorem byTask_append_one (e : ControlEvent) :
    byTask f (history ++ [e]) = byTask f history ++ (f e.interaction).map (Prod.mk e.task) := by
  rw [byTask, List.flatMap_append, List.flatMap_singleton, byTask]

/-- What one task showed is what its own calls show. -/
theorem own_of_byTask (task : Nat) :
    ((byTask f history).filter (fun x => x.1 = task)).map Prod.snd =
      (own task history).flatMap f := by
  induction history using List.reverseRecOn with
  | nil => rfl
  | append_singleton history e ih =>
    rw [byTask_append_one, List.filter_append, List.map_append, ih]
    by_cases htask : e.task = task
    · subst htask
      rw [own, own, Service.own_append_same, List.flatMap_append, List.flatMap_singleton,
        List.filter_map, List.map_map]
      simp [Function.comp_def]
    · rw [own, own, Service.own_append_other history htask, List.filter_map]
      simp [Function.comp_def, htask]

theorem mem_byTask {x : Nat × α} :
    x ∈ byTask f history ↔ ∃ e ∈ history, e.task = x.1 ∧ x.2 ∈ f e.interaction := by
  obtain ⟨task, value⟩ := x
  simp only [byTask, List.mem_flatMap, List.mem_map, Prod.mk.injEq]
  constructor
  · rintro ⟨e, he, given, hgiven, htask, rfl⟩
    exact ⟨e, he, htask, hgiven⟩
  · rintro ⟨e, he, htask, hvalue⟩
    exact ⟨e, he, value, hvalue, htask, rfl⟩

end ByTask

section Channel

variable {task channel : Nat} {state next : AppState} {action : Action} {reply : Reply action}

/-- The channel with this number, which is empty until it is made. -/
def channelAt (channel : Nat) (connections : AgentConnectionRegistry) : AgentChannel :=
  connections.channels[channel]?.getD .opened

/-- What a call does to the commands and to the message ids of a channel. -/
structure ChannelMove (channel : Nat) (x : Interaction Action Reply)
    (before after : AgentChannel) : Prop where
  commands : before.commands ++ sendingOf channel x = commandTakenOf channel x ++ after.commands
  ids : messageIdOf channel x = [] ∧ after.nextMessageId = before.nextMessageId ∨
    messageIdOf channel x = [before.nextMessageId] ∧
      after.nextMessageId = before.nextMessageId.next

private theorem move_of_same {x : Interaction Action Reply} {before after : AgentChannel}
    (commands : after.commands = before.commands) (ids : after.nextMessageId = before.nextMessageId)
    (sending : sendingOf channel x = []) (taken : commandTakenOf channel x = [])
    (given : messageIdOf channel x = []) : ChannelMove channel x before after := by
  refine ⟨?_, Or.inl ⟨given, ids⟩⟩
  rw [sending, taken, List.append_nil, List.nil_append, commands]

private theorem tryRecvCommand_cases (channel : AgentChannel) :
    channel.tryRecvCommand.1.commands = channel.commands ∧ channel.tryRecvCommand.2 = none ∧
      channel.tryRecvCommand.1.nextMessageId = channel.nextMessageId ∨
    ∃ command, channel.commands = command :: channel.tryRecvCommand.1.commands ∧
      channel.tryRecvCommand.2 = some command ∧
      channel.tryRecvCommand.1.nextMessageId = channel.nextMessageId := by
  rw [AgentChannel.tryRecvCommand]
  split
  · rename_i command commands heq
    exact Or.inr ⟨command, heq, rfl, rfl⟩
  · exact Or.inl ⟨rfl, rfl, rfl⟩

/-- A call on one channel moves this channel, and no other one. -/
private theorem ChannelStep.move {action : AgentAction} {reply : AgentReply action} {index : Nat}
    {before after : AgentChannel} (step : ChannelStep task action reply index before after) :
    ChannelMove index ⟨.agent action, reply⟩ before after ∧ ∀ other, index ≠ other →
      ∀ same : AgentChannel, ChannelMove other ⟨.agent action, reply⟩ same same := by
  cases step with
  | sendCommand index command before after sent h =>
    refine ⟨?_, fun other hother same => ?_⟩
    · rw [AgentChannel.sendCommand] at h
      split_ifs at h
      · cases h
        exact move_of_same rfl rfl rfl rfl rfl
      · cases h
        exact ⟨by simp [sendingOf, commandTakenOf], Or.inl ⟨rfl, rfl⟩⟩
    · cases sent with
      | true => exact move_of_same rfl rfl (if_neg hother) rfl rfl
      | false => exact move_of_same rfl rfl rfl rfl rfl
  | trySendEvent index event before =>
    refine ⟨?_, fun other hother same => move_of_same rfl rfl rfl rfl rfl⟩
    rw [AgentChannel.trySendEvent]
    split_ifs
    · exact move_of_same rfl rfl rfl rfl rfl
    · exact move_of_same rfl rfl rfl rfl rfl
  | recvCommand index command before after h =>
    refine ⟨?_, fun other hother same => move_of_same rfl rfl rfl (if_neg hother) rfl⟩
    rcases tryRecvCommand_cases before with ⟨-, hnone, -⟩ | ⟨first, hcommands, hfirst, hid⟩
    · rw [h] at hnone
      cases hnone
    · rw [h] at hcommands hfirst hid
      cases hfirst
      exact ⟨by simp [sendingOf, commandTakenOf, hcommands], Or.inl ⟨rfl, hid⟩⟩
  | tryRecvCommand index before =>
    rcases tryRecvCommand_cases before with ⟨hsame, hnone, hid⟩ | ⟨first, hcommands, hfirst, hid⟩
    · refine ⟨?_, fun other hother same => ?_⟩
      · exact move_of_same hsame hid rfl (by rw [hnone]; rfl) rfl
      · exact move_of_same rfl rfl rfl (by rw [hnone]; rfl) rfl
    · refine ⟨⟨?_, Or.inl ⟨rfl, hid⟩⟩, fun other hother same => ?_⟩
      · rw [hfirst, hcommands]
        simp [sendingOf, commandTakenOf]
      · rw [hfirst]
        exact move_of_same rfl rfl rfl (if_neg hother) rfl
  | nextLongPollMessageId index before =>
    refine ⟨⟨?_, Or.inr ⟨if_pos rfl, rfl⟩⟩, fun other hother same => ?_⟩
    · exact List.append_nil _
    · exact move_of_same rfl rfl rfl rfl (if_neg hother)
  | selectEvent index before after event h =>
    refine ⟨?_, fun other hother same => move_of_same rfl rfl rfl rfl rfl⟩
    rw [AgentChannel.recvEvent] at h
    split at h
    · cases h
      exact move_of_same rfl rfl rfl rfl rfl
    · split_ifs at h
      cases h
      exact move_of_same rfl rfl rfl rfl rfl
  | selectCommand index command before after h =>
    refine ⟨?_, fun other hother same => move_of_same rfl rfl rfl (if_neg hother) rfl⟩
    rcases tryRecvCommand_cases before with ⟨-, hnone, -⟩ | ⟨first, hcommands, hfirst, hid⟩
    · rw [h] at hnone
      cases hnone
    · rw [h] at hcommands hfirst hid
      cases hfirst
      exact ⟨by simp [sendingOf, commandTakenOf, hcommands], Or.inl ⟨rfl, hid⟩⟩
  | _ =>
    exact ⟨move_of_same rfl rfl rfl rfl rfl,
      fun other hother same => move_of_same rfl rfl rfl rfl rfl⟩

private theorem channelAt_put (connections : AgentConnectionRegistry) (nodeId : String)
    (connection : RegisteredAgentConnection) :
    channelAt channel (connections.put nodeId connection).1 = channelAt channel connections := by
  simp only [channelAt, AgentConnectionRegistry.put]
  rcases lt_trichotomy channel connections.channels.length with hlt | rfl | hgt
  · rw [List.getElem?_append_left hlt]
  · simp
  · rw [List.getElem?_eq_none (by simp; omega), List.getElem?_eq_none hgt.le]

private theorem channelAt_set {connections : AgentConnectionRegistry} {index : Nat}
    {before after : AgentChannel} (found : connections.channels[index]? = some before) :
    channelAt channel { connections with channels := connections.channels.set index after } =
      if index = channel then after else channelAt channel connections := by
  obtain ⟨hlt, -⟩ := List.getElem?_eq_some_iff.mp found
  rw [channelAt, channelAt, List.getElem?_set]
  by_cases hindex : index = channel
  · subst hindex
    simp [hlt]
  · simp [hindex]

/-- What one call does to the commands and message ids of any channel. -/
theorem AppStep.channelMove (step : AppStep task state action reply next) (channel : Nat) :
    ChannelMove channel ⟨action, reply⟩ (channelAt channel state.agentConnections)
      (channelAt channel next.agentConnections) := by
  cases step with
  | agent step =>
    cases step with
    | registerTransport nodeId transportId kind =>
      change ChannelMove channel _ _ (channelAt channel (state.agentConnections.put nodeId _).1)
      rw [channelAt_put]
      exact move_of_same rfl rfl rfl rfl rfl
    | ensureLongPollTransport nodeId transportId =>
      change ChannelMove channel _ _ (channelAt channel
        (state.agentConnections.ensureLongPollTransport nodeId transportId).1)
      rcases state.agentConnections.ensureLongPollTransport_cases nodeId transportId with
        ⟨connection, -, heq⟩ | ⟨registration, -, heq⟩
      · rw [heq]
        exact move_of_same rfl rfl rfl rfl rfl
      · rw [heq, channelAt_put]
        exact move_of_same rfl rfl rfl rfl rfl
    | disconnectTransport nodeId transportId =>
      change ChannelMove channel _ _ (channelAt channel
        (state.agentConnections.disconnectTransport nodeId transportId).1)
      rw [AgentConnectionRegistry.disconnectTransport]
      split_ifs
      · exact move_of_same rfl rfl rfl rfl rfl
      · exact move_of_same rfl rfl rfl rfl rfl
    | onChannel index before after found step =>
      obtain ⟨moved, others⟩ := step.move
      change ChannelMove channel _ _ (channelAt channel
        { state.agentConnections with channels := state.agentConnections.channels.set index after })
      rw [channelAt_set found]
      by_cases hindex : index = channel
      · subst hindex
        rw [if_pos rfl, channelAt, found]
        exact moved
      · rw [if_neg hindex]
        exact others channel hindex _
    | _ => exact move_of_same rfl rfl rfl rfl rfl
  | write h => cases h <;> exact move_of_same rfl rfl rfl rfl rfl
  | read h => cases h <;> exact move_of_same rfl rfl rfl rfl rfl
  | _ => exact move_of_same rfl rfl rfl rfl rfl

end Channel

/-! Which channels are polled, and by whom. -/

section Transports

/-- The connection is served by long-poll requests or by a websocket, as it says. -/
def Transported (history : History) (connection : RegisteredAgentConnection) : Prop :=
  connection.longPoll = true ∧ PolledChannel history connection.channel ∨
    connection.longPoll = false ∧ SocketChannel history connection.channel

/-- No channel is both a websocket's and polled. -/
structure TransportLedger (history : History) (state : AppState) : Prop where
  socket : ∀ {channel}, SocketChannel history channel →
    channel < state.agentConnections.channels.length
  polled : ∀ {channel}, PolledChannel history channel →
    channel < state.agentConnections.channels.length
  apart : ∀ {channel}, SocketChannel history channel → ¬PolledChannel history channel
  connected : ∀ {nodeId connection},
    state.agentConnections.connection nodeId = some connection → Transported history connection
  ensured : ∀ {task nodeId transportId registration connection}, Did (own task history)
    (.agent (.ensureLongPollTransport nodeId transportId)) (registration, connection) →
    Transported history connection

variable {front : History} {e : ControlEvent} {channel : Nat}

theorem socketChannel_snoc : SocketChannel (front ++ [e]) channel ↔
    SocketChannel front channel ∨ ∃ nodeId transportId kind registration, e.interaction =
      ⟨.agent (.registerTransport nodeId transportId kind), (registration, channel)⟩ := by
  constructor
  · rintro ⟨task, nodeId, transportId, kind, registration, hdid⟩
    rcases did_snoc.mp hdid with hold | ⟨-, hnew⟩
    · exact Or.inl ⟨task, nodeId, transportId, kind, registration, hold⟩
    · exact Or.inr ⟨nodeId, transportId, kind, registration, hnew⟩
  · rintro (⟨task, nodeId, transportId, kind, registration, hold⟩ |
      ⟨nodeId, transportId, kind, registration, hnew⟩)
    · exact ⟨task, nodeId, transportId, kind, registration, did_snoc.mpr (Or.inl hold)⟩
    · exact ⟨e.task, nodeId, transportId, kind, registration, did_snoc.mpr (Or.inr ⟨rfl, hnew⟩)⟩

theorem polledChannel_snoc : PolledChannel (front ++ [e]) channel ↔
    PolledChannel front channel ∨ ∃ nodeId transportId registration connection,
      e.interaction =
        ⟨.agent (.ensureLongPollTransport nodeId transportId), (registration, connection)⟩ ∧
      connection.channel = channel ∧ connection.longPoll = true := by
  constructor
  · rintro ⟨task, nodeId, transportId, registration, connection, hdid, hserved⟩
    rcases did_snoc.mp hdid with hold | ⟨-, hnew⟩
    · exact Or.inl ⟨task, nodeId, transportId, registration, connection, hold, hserved⟩
    · exact Or.inr ⟨nodeId, transportId, registration, connection, hnew, hserved⟩
  · rintro (⟨task, nodeId, transportId, registration, connection, hold, hserved⟩ |
      ⟨nodeId, transportId, registration, connection, hnew, hserved⟩)
    · exact ⟨task, nodeId, transportId, registration, connection, did_snoc.mpr (Or.inl hold),
        hserved⟩
    · exact ⟨e.task, nodeId, transportId, registration, connection,
        did_snoc.mpr (Or.inr ⟨rfl, hnew⟩), hserved⟩

theorem Transported.later {connection : RegisteredAgentConnection}
    (h : Transported front connection) : Transported (front ++ [e]) connection := by
  rcases h with ⟨hlong, hpolled⟩ | ⟨hshort, hsocket⟩
  · exact Or.inl ⟨hlong, polledChannel_snoc.mpr (Or.inl hpolled)⟩
  · exact Or.inr ⟨hshort, socketChannel_snoc.mpr (Or.inl hsocket)⟩

/-- What a call registers, with the connections before and after it. -/
private inductive Registers (x : Interaction Action Reply)
    (before after : AgentConnectionRegistry) : Prop
  | socket (nodeId : String) (transportId : AgentTransportId) (kind : AgentTransportKind)
    (registration : AgentConnectionRegistration)
    (call : x = ⟨.agent (.registerTransport nodeId transportId kind),
      (registration, before.channels.length)⟩)
    (put : after = (before.put nodeId
      ⟨before.channels.length, transportId, kind, none, false⟩).1)
  | polled (nodeId : String) (transportId : AgentTransportId)
    (registration : AgentConnectionRegistration) (connection : RegisteredAgentConnection)
    (call : x = ⟨.agent (.ensureLongPollTransport nodeId transportId),
      (registration, connection)⟩)
    (fresh : connection.channel = before.channels.length) (long : connection.longPoll = true)
    (put : after = (before.put nodeId connection).1)
  | existing (nodeId : String) (transportId : AgentTransportId)
    (connection : RegisteredAgentConnection)
    (call : x = ⟨.agent (.ensureLongPollTransport nodeId transportId), (.existing, connection)⟩)
    (found : before.connection nodeId = some connection) (same : after = before)
  | nothing
    (socket : ∀ nodeId transportId kind,
      x.action ≠ .agent (.registerTransport nodeId transportId kind))
    (polled : ∀ nodeId transportId,
      x.action ≠ .agent (.ensureLongPollTransport nodeId transportId))
    (channels : before.channels.length ≤ after.channels.length)
    (connected : ∀ nodeId connection, after.connection nodeId = some connection →
      before.connection nodeId = some connection)

private theorem AppStep.registers {task : Nat} {state next : AppState} {action : Action}
    {reply : Reply action} (step : AppStep task state action reply next) :
    Registers ⟨action, reply⟩ state.agentConnections next.agentConnections := by
  have nothing : (∀ nodeId transportId kind,
      action ≠ .agent (.registerTransport nodeId transportId kind)) →
      (∀ nodeId transportId, action ≠ .agent (.ensureLongPollTransport nodeId transportId)) →
      Registers ⟨action, reply⟩ state.agentConnections next.agentConnections := by
    intro socket polled
    refine .nothing socket polled step.channels_le (fun nodeId connection found => ?_)
    rcases step.connection found with hold | hmade
    · exact hold
    · unfold madeBy at hmade
      split at hmade
      · rename_i named transportId kind registered heq
        exact absurd (congrArg Interaction.action heq) (socket named transportId kind)
      · rename_i named transportId registered heq
        exact absurd (congrArg Interaction.action heq) (polled named transportId)
      · cases hmade
  cases step with
  | agent step =>
    cases step with
    | registerTransport nodeId transportId kind => exact .socket nodeId transportId kind _ rfl rfl
    | ensureLongPollTransport nodeId transportId =>
      rcases state.agentConnections.ensureLongPollTransport_cases nodeId transportId with
        ⟨connection, found, heq⟩ | ⟨registration, hfresh, heq⟩
      · rw [heq]
        exact .existing nodeId transportId connection rfl found rfl
      · rw [heq]
        exact .polled nodeId transportId registration _ rfl rfl rfl rfl
    | onChannel index before after found step => cases step <;> exact nothing nofun nofun
    | _ => exact nothing nofun nofun
  | _ => exact nothing nofun nofun

private theorem connected_put {before : AgentConnectionRegistry} {nodeId other : String}
    {connection found : RegisteredAgentConnection}
    (h : (before.put nodeId connection).1.connection other = some found) :
    found = connection ∨ before.connection other = some found := by
  rw [AgentConnectionRegistry.connection_put] at h
  split_ifs at h
  · exact Or.inl (Option.some.inj h).symm
  · exact Or.inr h

private theorem length_put (before : AgentConnectionRegistry) (nodeId : String)
    (connection : RegisteredAgentConnection) :
    (before.put nodeId connection).1.channels.length = before.channels.length + 1 := by
  simp [AgentConnectionRegistry.put]

/-- A call that makes the channel `n`, or none, for one of the two transports keeps them apart. -/
private theorem TransportLedger.extend (ledger : TransportLedger front e.before)
    (made : Option Bool)
    (socket : ∀ {channel}, SocketChannel (front ++ [e]) channel → SocketChannel front channel ∨
      channel = e.before.agentConnections.channels.length ∧ made = some false)
    (polled : ∀ {channel}, PolledChannel (front ++ [e]) channel → PolledChannel front channel ∨
      channel = e.before.agentConnections.channels.length ∧ made = some true)
    (channels : e.before.agentConnections.channels.length + made.toList.length ≤
      e.after.agentConnections.channels.length)
    (connected : ∀ {nodeId connection},
      e.after.agentConnections.connection nodeId = some connection →
      Transported (front ++ [e]) connection)
    (ensured : ∀ {nodeId transportId registration connection}, e.interaction =
      ⟨.agent (.ensureLongPollTransport nodeId transportId), (registration, connection)⟩ →
      Transported (front ++ [e]) connection) :
    TransportLedger (front ++ [e]) e.after where
  socket h := by
    rcases socket h with hold | ⟨rfl, rfl⟩
    · exact (ledger.socket hold).trans_le ((Nat.le_add_right ..).trans channels)
    · exact channels
  polled h := by
    rcases polled h with hold | ⟨rfl, rfl⟩
    · exact (ledger.polled hold).trans_le ((Nat.le_add_right ..).trans channels)
    · exact channels
  apart h h' := by
    rcases socket h with hold | ⟨rfl, rfl⟩
    · rcases polled h' with hold' | ⟨rfl, rfl⟩
      · exact ledger.apart hold hold'
      · exact absurd (ledger.socket hold) (lt_irrefl _)
    · rcases polled h' with hold' | ⟨-, hmade⟩
      · exact absurd (ledger.polled hold') (lt_irrefl _)
      · cases hmade
  connected := connected
  ensured h := by
    rcases did_snoc.mp h with hold | ⟨-, hnew⟩
    · exact (ledger.ensured hold).later
    · exact ensured hnew

theorem TransportLedger.step (ledger : TransportLedger front e.before) (next : Next front e) :
    TransportLedger (front ++ [e]) e.after := by
  have registers : Registers e.interaction e.before.agentConnections e.after.agentConnections :=
    next.step.registers
  cases registers with
  | socket nodeId transportId kind registration call put =>
    refine ledger.extend (some false) (fun h => ?_) (fun h => ?_) ?_ (fun found => ?_)
      (fun h => ?_)
    · rcases socketChannel_snoc.mp h with hold | ⟨_, _, _, _, hnew⟩
      · exact Or.inl hold
      · cases call.symm.trans hnew
        exact Or.inr ⟨rfl, rfl⟩
    · rcases polledChannel_snoc.mp h with hold | ⟨_, _, _, _, hnew, -⟩
      · exact Or.inl hold
      · cases call.symm.trans hnew
    · exact put ▸ (length_put ..).ge
    · rw [put] at found
      rcases connected_put found with rfl | hold
      · exact Or.inr ⟨rfl, socketChannel_snoc.mpr (Or.inr ⟨_, _, _, _, call⟩)⟩
      · exact (ledger.connected hold).later
    · cases call.symm.trans h
  | polled nodeId transportId registration connection call fresh long put =>
    have hnew : Transported (front ++ [e]) connection :=
      Or.inl ⟨long, polledChannel_snoc.mpr (Or.inr ⟨_, _, _, _, call, rfl, long⟩)⟩
    refine ledger.extend (some true) (fun h => ?_) (fun h => ?_) ?_ (fun found => ?_)
      (fun h => ?_)
    · rcases socketChannel_snoc.mp h with hold | ⟨_, _, _, _, hnew⟩
      · exact Or.inl hold
      · cases call.symm.trans hnew
    · rcases polledChannel_snoc.mp h with hold | ⟨_, _, _, _, hnew, hchannel, -⟩
      · exact Or.inl hold
      · cases call.symm.trans hnew
        exact Or.inr ⟨hchannel.symm.trans fresh, rfl⟩
    · exact put ▸ (length_put ..).ge
    · rw [put] at found
      rcases connected_put found with rfl | hold
      · exact hnew
      · exact (ledger.connected hold).later
    · cases call.symm.trans h
      exact hnew
  | existing nodeId transportId connection call found same =>
    refine ledger.extend none (fun h => ?_) (fun h => ?_) (same ▸ le_rfl) (fun found => ?_)
      (fun h => ?_)
    · rcases socketChannel_snoc.mp h with hold | ⟨_, _, _, _, hnew⟩
      · exact Or.inl hold
      · cases call.symm.trans hnew
    · rcases polledChannel_snoc.mp h with hold | ⟨_, _, _, _, hnew, rfl, hlong⟩
      · exact Or.inl hold
      · cases call.symm.trans hnew
        -- the connection that is found says how it is served
        rcases ledger.connected found with ⟨-, hpolled⟩ | ⟨hshort, -⟩
        · exact Or.inl hpolled
        · rw [hlong] at hshort
          cases hshort
    · rw [same] at found
      exact (ledger.connected found).later
    · cases call.symm.trans h
      exact (ledger.connected found).later
  | nothing socket polled channels connected =>
    refine ledger.extend none (fun h => ?_) (fun h => ?_) channels (fun found => ?_)
      (fun h => ?_)
    · rcases socketChannel_snoc.mp h with hold | ⟨_, _, _, _, hnew⟩
      · exact Or.inl hold
      · exact absurd (congrArg Interaction.action hnew) (socket _ _ _)
    · rcases polledChannel_snoc.mp h with hold | ⟨_, _, _, _, hnew, -⟩
      · exact Or.inl hold
      · exact absurd (congrArg Interaction.action hnew) (polled _ _)
    · exact (ledger.connected (connected _ _ found)).later
    · exact absurd (congrArg Interaction.action h) (polled _ _)

end Transports

section Runs

variable {config : TerminalSessionConfig} {nodes : NodeEnrollmentState} {history : History}
  {pool : ControlPool} {channel task : Nat} {request : AgentTransportLongPollRequest}

theorem Reaches.transports (h : Reaches config nodes history pool) :
    TransportLedger history pool.shared := by
  refine h.keeps (I := TransportLedger) ?_ (fun front e next ledger => ledger.step next)
  constructor
  · rintro channel ⟨task, _, _, _, _, hdid⟩
    cases hdid
  · rintro channel ⟨task, _, _, _, _, hdid, -⟩
    cases hdid
  · rintro channel ⟨task, _, _, _, _, hdid⟩
    cases hdid
  · intro nodeId connection found
    cases found
  · intro task nodeId transportId registration connection hdid
    cases hdid

/-- The message id of the envelope made as number `n` on a connection. -/
def messageIdAt (n : Nat) : AgentTransportMessageId := ⟨min (2 + n) u64Max⟩

theorem messageIdAt_next (n : Nat) : (messageIdAt n).next = messageIdAt (n + 1) := by
  simp only [messageIdAt, AgentTransportMessageId.next, saturatingSucc,
    AgentTransportMessageId.mk.injEq]
  omega

/-- What has been sent on a channel and what has been taken from it and given out by it. -/
structure ChannelLog (history : History) (channel : Nat) (state : AgentChannel) : Prop where
  commands : acceptedOn channel history =
    (takes channel history).map Prod.snd ++ state.commands
  ids : (messageIds channel history).map Prod.snd =
    (List.range (messageIds channel history).length).map messageIdAt
  next : state.nextMessageId = messageIdAt (messageIds channel history).length

theorem Reaches.channelLog (h : Reaches config nodes history pool) (channel : Nat) :
    ChannelLog history channel (channelAt channel pool.shared.agentConnections) := by
  refine h.keeps (I := fun history state =>
    ChannelLog history channel (channelAt channel state.agentConnections)) ⟨rfl, rfl, rfl⟩ ?_
  intro front e next log
  have moved : ChannelMove channel e.interaction (channelAt channel e.before.agentConnections)
      (channelAt channel e.after.agentConnections) := next.step.channelMove channel
  have htakes : takes channel (front ++ [e]) =
      takes channel front ++ (commandTakenOf channel e.interaction).map (Prod.mk e.task) :=
    byTask_append_one e
  have hids : messageIds channel (front ++ [e]) =
      messageIds channel front ++ (messageIdOf channel e.interaction).map (Prod.mk e.task) :=
    byTask_append_one e
  have hcommands : acceptedOn channel (front ++ [e]) =
      (takes channel (front ++ [e])).map Prod.snd ++
        (channelAt channel e.after.agentConnections).commands := by
    rw [acceptedOn, List.flatMap_append, List.flatMap_singleton]
    change acceptedOn channel front ++ _ = _
    rw [log.commands, htakes, List.map_append, List.map_map, List.append_assoc, moved.commands]
    simp [Function.comp_def]
  rcases moved.ids with ⟨hnone, hsame⟩ | ⟨hone, hnext⟩
  · rw [hnone, List.map_nil, List.append_nil] at hids
    refine ⟨hcommands, ?_, ?_⟩
    · rw [hids]
      exact log.ids
    · rw [hids, hsame]
      exact log.next
  · rw [hone, log.next] at hids
    refine ⟨hcommands, ?_, ?_⟩
    · rw [hids, List.map_append, log.ids]
      simp [List.range_succ]
    · rw [hnext, log.next, messageIdAt_next, hids]
      simp

/-- Every request of a run answers with what it was given. -/
theorem Reaches.answered (h : Reaches config nodes history pool)
    (poll : PollOf history channel task request) : Answered request channel (own task history) := by
  refine Reaches.along (I := fun history _ => ∀ task request, PollOf history channel task request →
    Answered request channel (own task history)) ?_ ?_ h task request poll
  · rintro task request ⟨⟨e, he, -⟩, -⟩
    cases he
  · intro front e pool hrun ih task request poll
    obtain ⟨⟨other, hother, htask, horigin⟩, served⟩ := poll
    by_cases hsame : e.task = task
    · have horigin : e.origin = .agentLongPoll request := by
        rw [← horigin]
        exact hrun.origin (by simp) hother (hsame.trans htask.symm)
      have act := Service.Reaches.act (pollOrder_sound config) hrun (rfl : front ++ [e] = _)
      change pollAct e.origin (own e.task front) e.action at act
      rw [horigin] at act
      subst hsame
      rw [own, Service.own_append_same] at served ⊢
      exact act e.reply channel served
    · rw [own, Service.own_append_other front hsame] at served ⊢
      refine ih task request ⟨⟨other, ?_, htask, horigin⟩, served⟩
      rcases List.mem_append.mp hother with hold | hnew
      · exact hold
      · rw [List.mem_singleton.mp hnew] at htask
        exact absurd htask hsame

private theorem action_of_taken {action : Action} {reply : Reply action}
    {command : AgentTerminalCommand} (taken : command ∈ commandTakenOf channel ⟨action, reply⟩) :
    action = .agent (.recvCommandTimeout channel) ∨ action = .agent (.tryRecvCommand channel) ∨
      action = .agent (.selectAgent channel) := by
  have haction : ∀ {given : Action} {x : Reply given},
      (⟨action, reply⟩ : Interaction Action Reply) =
      ⟨given, x⟩ → action = given := fun heq => congrArg Interaction.action heq
  unfold commandTakenOf at taken
  split at taken
  · rename_i index given heq
    split_ifs at taken with hindex
    · exact Or.inl (hindex ▸ haction heq)
    · cases taken
  · rename_i index given heq
    split_ifs at taken with hindex
    · exact Or.inr (Or.inl (hindex ▸ haction heq))
    · cases taken
  · rename_i index given heq
    split_ifs at taken with hindex
    · exact Or.inr (Or.inr (hindex ▸ haction heq))
    · cases taken
  · cases taken

/-- Commands of a channel are taken by requests that serve it, or by its websocket. -/
private theorem taker_of_act {origin : Stage} {past : Past} {action : Action}
    {reply : Reply action} {command : AgentTerminalCommand} (act : controlAct origin past action)
    (taken : command ∈ commandTakenOf channel ⟨action, reply⟩) :
    (∃ request, origin = .agentLongPoll request ∧ EnsuredChannel past channel) ∨
      RegisteredChannel past channel := by
  rcases action_of_taken taken with rfl | rfl | rfl
  all_goals
    cases origin with
    | agentLongPoll request =>
      first
        | exact Or.inl ⟨request, rfl, act⟩
        | cases act
    | agentSocket =>
      first
        | exact Or.inr act
        | cases act
    | cleanupWorker =>
      obtain ⟨_, _, _, _, hremoved⟩ := act
      cases hremoved
    | revokeNode actorEmail nodeId =>
      obtain ⟨_, _, hremoved⟩ := act
      cases hremoved
    | _ => cases act

/-- Who takes a command of a polled channel serves a request on it. -/
private theorem Reaches.taker (h : Reaches config nodes history pool)
    (registered : PolledChannel history channel) {take : Nat × AgentTerminalCommand}
    (htake : take ∈ takes channel history) :
    ∃ request, PollOf history channel take.1 request := by
  obtain ⟨e, he, htask, hcommand⟩ := mem_byTask.mp htake
  obtain ⟨front, back, hsplit⟩ := List.append_of_mem he
  have ledger := h.transports
  have hinitial : ∀ task, own task front <+: own task history := by
    intro task
    rw [hsplit]
    exact own_isPrefix task front (e :: back)
  rcases taker_of_act (h.next hsplit).act hcommand with ⟨request, horigin, ensured⟩ | socket
  · obtain ⟨nodeId, transportId, registration, connection, hdid, hchannel⟩ :=
      ensured.later (hinitial e.task)
    refine ⟨request, ⟨e, he, htask, horigin⟩, nodeId, transportId, registration, connection,
      htask ▸ hdid, hchannel, ?_⟩
    rcases ledger.ensured hdid with ⟨hlong, -⟩ | ⟨-, hsocket⟩
    · exact hlong
    · exact absurd registered (ledger.apart (hchannel ▸ hsocket))
  · exact absurd registered (ledger.apart ⟨e.task, socket.later (hinitial e.task)⟩)

/-- Where the entry number `i` of a task stands among the entries of all tasks. -/
def positionOf {α : Type} (entries : List (Nat × α)) (task i : Nat) : Nat :=
  ((entries.findIdxs (fun x => x.1 = task))[i]?).getD 0

section Positions

variable {α : Type} {entries : List (Nat × α)} {i j : Nat} {value : α}

theorem getElem?_positionOf (h : ((entries.filter (fun x => x.1 = task)).map Prod.snd)[i]? =
    some value) : entries[positionOf entries task i]? = some (task, value) := by
  rw [List.getElem?_map, Option.map_eq_some_iff] at h
  obtain ⟨⟨other, given⟩, hentry, rfl⟩ := h
  obtain ⟨hi, hget⟩ := List.getElem?_eq_some_iff.mp hentry
  have htask : other = task := by
    simpa using (List.mem_filter.mp (List.mem_of_getElem? hentry)).2
  subst htask
  have hlength : i < (entries.findIdxs (fun x => decide (x.1 = other))).length := by
    rwa [List.length_findIdxs, List.countP_eq_length_filter]
  have hposition : positionOf entries other i =
      (entries.findIdxs (fun x => decide (x.1 = other)))[i] := by
    rw [positionOf, List.getElem?_eq_getElem hlength, Option.getD_some]
  rw [hposition, ← hget, List.getElem_filter_eq_getElem_getElem_findIdxs]
  exact List.getElem?_eq_getElem _

theorem positionOf_lt (hij : i < j)
    (hj : j < (entries.filter (fun x => x.1 = task)).length) :
    positionOf entries task i < positionOf entries task j := by
  have hlength : j < (entries.findIdxs (fun x => decide (x.1 = task))).length := by
    rwa [List.length_findIdxs, List.countP_eq_length_filter]
  rw [positionOf, positionOf, List.getElem?_eq_getElem hlength,
    List.getElem?_eq_getElem (hij.trans hlength), Option.getD_some, Option.getD_some]
  exact List.pairwise_iff_getElem.mp List.pairwise_findIdxs i j (hij.trans hlength) hlength hij

end Positions

private theorem Reaches.carriesOnce (h : Reaches config nodes history pool) (channel : Nat) :
    CarriesOnce history channel (positionOf (takes channel history)) := by
  have hshown : ∀ {task request}, PollOf history channel task request →
      commandsIn (response (own task history)) <+:
        ((takes channel history).filter (fun x => x.1 = task)).map Prod.snd := by
    intro task request poll
    rw [takes, own_of_byTask]
    exact (h.answered poll).commands
  have hentry : ∀ {task request i command}, PollOf history channel task request →
      (commandsIn (response (own task history)))[i]? = some command →
      (takes channel history)[positionOf (takes channel history) task i]? =
        some (task, command) := by
    intro task request i command poll hcommand
    obtain ⟨rest, hrest⟩ := hshown poll
    obtain ⟨hi, -⟩ := List.getElem?_eq_some_iff.mp hcommand
    apply getElem?_positionOf
    rw [← hrest, List.getElem?_append_left hi, hcommand]
  have hlt : ∀ {task request i j}, PollOf history channel task request → i < j →
      j < (commandsIn (response (own task history))).length →
      positionOf (takes channel history) task i < positionOf (takes channel history) task j := by
    intro task request i j poll hij hj
    apply positionOf_lt hij
    have hle := (hshown poll).length_le
    rw [List.length_map] at hle
    omega
  constructor
  · intro task request i command poll hcommand
    have htaken : ((takes channel history).map Prod.snd)[positionOf (takes channel history)
        task i]? = some command := by
      rw [List.getElem?_map, hentry poll hcommand]
      rfl
    obtain ⟨hi, -⟩ := List.getElem?_eq_some_iff.mp htaken
    rw [(h.channelLog channel).commands, List.getElem?_append_left hi, htaken]
  · intro task other request given i j poll poll' hi hj hsame
    have hleft := hentry poll (List.getElem?_eq_getElem hi)
    have hright := hentry poll' (List.getElem?_eq_getElem hj)
    rw [hsame, hright, Option.some.injEq, Prod.mk.injEq] at hleft
    obtain ⟨rfl, -⟩ := hleft
    refine ⟨rfl, ?_⟩
    rcases lt_trichotomy i j with hij | heq | hji
    · exact absurd hsame (hlt poll hij hj).ne
    · exact heq
    · exact absurd hsame (hlt poll hji hi).ne'
  · intro task request i j poll hij hj
    exact hlt poll hij hj

/-- The ids given out on a connection go up until they reach the largest one. -/
private theorem ids_increase {n : Nat} (few : n ≤ 2 ^ 64 - 2) :
    ((List.range n).map messageIdAt).Pairwise (fun id other => id.val < other.val) := by
  rw [List.pairwise_map]
  refine List.Pairwise.imp_of_mem (fun {i j} _ hj hij => ?_) List.pairwise_lt_range
  have hj := List.mem_range.mp hj
  simp only [messageIdAt, u64Max]
  omega

private theorem Reaches.id_mem (h : Reaches config nodes history pool)
    (poll : PollOf history channel task request) {envelope : AgentTransportEnvelope}
    (henvelope : envelope ∈ response (own task history)) :
    (task, envelope.messageId) ∈ messageIds channel history := by
  have hgiven : envelope.messageId ∈ messageIdsGiven channel (own task history) :=
    (h.answered poll).ids.subset (List.mem_map_of_mem henvelope)
  rw [messageIdsGiven, ← own_of_byTask, List.mem_map] at hgiven
  obtain ⟨⟨other, id⟩, hmem, hid⟩ := hgiven
  obtain ⟨hmem, htask⟩ := List.mem_filter.mp hmem
  simp only [decide_eq_true_eq] at htask hid
  rw [← htask, ← hid]
  exact hmem

/-- Whatever requests there are on a long-poll connection and however they interleave, they
    deliver its commands once and in order, in envelopes with ids of their own. -/
theorem long_poll_delivers (h : Reaches config nodes history pool)
    (registered : PolledChannel history channel) : LongPollDelivery history channel where
  taken := by
    rw [(h.channelLog channel).commands]
    exact List.prefix_append ..
  takers := fun take htake => h.taker registered htake
  carried := ⟨_, h.carriesOnce channel⟩
  few := fun poll => (h.answered poll).few
  valid := by
    intro task request poll envelope henvelope
    have hid : envelope.messageId ∈ (messageIds channel history).map Prod.snd :=
      List.mem_map_of_mem (f := Prod.snd) (h.id_mem poll henvelope)
    rw [(h.channelLog channel).ids, List.mem_map] at hid
    obtain ⟨n, -, hid⟩ := hid
    rw [← hid, messageIdAt, AgentTransportMessageId.isValid, decide_eq_true_eq, u64Max]
    dsimp only
    omega
  increasing := by
    intro few task request poll
    have hall := ids_increase few
    rw [← (h.channelLog channel).ids] at hall
    have hown : ((messageIdsGiven channel (own task history))).Pairwise
        (fun id other => id.val < other.val) := by
      rw [messageIdsGiven, ← own_of_byTask]
      exact hall.sublist (List.filter_sublist.map Prod.snd)
    have hresponse := hown.sublist (h.answered poll).ids.sublist
    rw [List.pairwise_map] at hresponse ⊢
    exact hresponse
  apart := by
    intro few task other request given poll poll' envelope henvelope envelope' henvelope' hsame
    have hall := ids_increase few
    rw [← (h.channelLog channel).ids] at hall
    have hnodup : ((messageIds channel history).map Prod.snd).Nodup :=
      hall.imp (fun hlt heq => absurd (congrArg AgentTransportMessageId.val heq) hlt.ne)
    have hleft := h.id_mem poll henvelope
    have hright := h.id_mem poll' henvelope'
    rw [hsame] at hleft
    exact congrArg Prod.fst (List.inj_on_of_nodup_map hnodup hleft hright rfl)

end Runs

/-- The node's agent asks for commands over long-poll. -/
private def pollRequest : AgentTransportLongPollRequest :=
  ⟨agentEnvelope 1 (.clientHello ⟨[1], [.longPollHttps], .longPollHttps, "1", "f", "p", none⟩), []⟩

/-- The first request of the node registers its connection, as the task of this number. -/
private def firstPoll (task : Nat) : List (Label Arrival Choice) :=
  [.arrive (.longPoll pollRequest), .move task (.clock 0), .move task .none, .move task .none,
    .move task .none, .move task .none, .move task .none, .move task .tick, .move task .none,
    .move task .none, .move task .none, .move task (.decide true)]

/-- What the environment decides in a later request that waits in vain for a command. -/
private def vainPoll : List Choice :=
  [.clock 0, .none, .none, .none, .tick, .none, .none, .none, .decide true]

/-- The connection that the first request registers. -/
private def pollConnection : RegisteredAgentConnection :=
  ⟨0, ⟨"n-outbound"⟩, .longPollHttps, some longPollDegradedReason, true⟩

private def pollContact : NodeHeartbeatRecord := ⟨0, .online, 0⟩

/-- The state after such requests. -/
private def polled (heartbeats : List NodeHeartbeatRecord) (next : AgentTransportMessageId)
    (lock : Option Nat) : AppState where
  sessions := ⟨∅, [], []⟩
  agentConnections := ⟨AList.insert "n" pollConnection ∅, [⟨[], true, lock, [], true, none, next⟩]⟩
  nodeEnrollment := { oneNode with
    nodes := [⟨0, "n", "n", "n", "linux", "x86_64", "1", .online⟩]
    heartbeats := heartbeats }
  nodeRouter := ⟨∅⟩
  nextSessionId := 1
  audit := [⟨.agentTransportNegotiated, none,
      "agent transport n-outbound negotiated for node n using LongPollHttps"⟩,
    ⟨.agentConnected, none,
      "agent node n connected on degraded long-poll transport n-outbound"⟩]

private def pollHello (messageId : AgentTransportMessageId) : AgentTransportEnvelope :=
  .current messageId ⟨"n"⟩ ⟨"n-outbound"⟩
    (.serverHello (AgentTransportHandshake.serverHello ⟨⟨"n"⟩, ⟨"n-outbound"⟩, .longPollHttps⟩))

/-- The calls of one such request. -/
private def vainEvents (task : Nat) (heartbeats : List NodeHeartbeatRecord)
    (next : AgentTransportMessageId) : List ControlEvent :=
  let origin := Stage.agentLongPoll pollRequest
  let later := heartbeats ++ [pollContact]
  let view := NodeEnrollmentState.nodeView ⟨0, "n", "n", "n", "linux", "x86_64", "1", .online⟩
    (some 0) 0 (some 3600)
  [⟨task, origin, .node (.authenticateTransport "n" "f" "p" "1"), .ok view,
      polled heartbeats next none, polled later next none, []⟩,
    ⟨task, origin, .agent (.ensureLongPollTransport "n" ⟨"n-outbound"⟩),
      (.existing, pollConnection), polled later next none, polled later next none, []⟩,
    ⟨task, origin, .agent (.nextLongPollMessageId 0), next, polled later next none,
      polled later next.next none, []⟩,
    ⟨task, origin, .agent (.lockCommands 0), (), polled later next.next none,
      polled later next.next (some task), []⟩,
    ⟨task, origin, .agent (.recvCommandTimeout 0), none, polled later next.next (some task),
      polled later next.next (some task), []⟩,
    ⟨task, origin, .agent (.tryRecvCommand 0), none, polled later next.next (some task),
      polled later next.next (some task), []⟩,
    ⟨task, origin, .agent (.unlockCommands 0), (), polled later next.next (some task),
      polled later next.next none, []⟩,
    ⟨task, origin, .host (.respond 200 none), (), polled later next.next none,
      polled later next.next none, []⟩,
    ⟨task, origin, .host (.sendAgent (pollHello next)), true, polled later next.next none,
      polled later next.next none, []⟩]

private theorem solo_vainPoll (task : Nat) (heartbeats : List NodeHeartbeatRecord)
    (next : AgentTransportMessageId) :
    (controlPlane defaultTerminalSessionConfig).solo task (.agentLongPoll pollRequest)
      (body defaultTerminalSessionConfig (.agentLongPoll pollRequest))
      (polled heartbeats next none) vainPoll =
    some (.done none, polled (heartbeats ++ [pollContact]) next.next none,
      vainEvents task heartbeats next) := by
  refine Service.solo_call rfl (Service.solo_call rfl (Service.solo_call rfl (Service.solo_call rfl
    (Service.solo_call rfl (Service.solo_call rfl (Service.solo_call ?_ (Service.solo_call rfl
      (Service.solo_call rfl rfl))))))))
  change (controlPlane defaultTerminalSessionConfig).perform task _ (.agent (.unlockCommands 0))
    .none = _
  simp [controlPlane, perform, performAgent, AgentConnectionRegistry.onChannel, polled,
    pollConnection,
    spawned]

/-- After `n` requests each of them has been answered with the id made for it. -/
private structure PolledTimes (n : Nat) (history : History) : Prop where
  tasks : ∀ e ∈ history, e.task < n
  count : (messageIds 0 history).length = n
  polls : ∀ task, task < n → PollOf history 0 task pollRequest
  hello : ∀ task, task < n → pollHello (messageIdAt task) ∈ response (own task history)

private theorem mem_response {history : History} {task : Nat} {envelope : AgentTransportEnvelope} :
    envelope ∈ response (own task history) ↔
      ∃ sent, Did (own task history) (.host (.sendAgent envelope)) sent := by
  simp only [response, List.mem_flatMap]
  constructor
  · rintro ⟨x, hx, henvelope⟩
    unfold envelopeOf at henvelope
    split at henvelope
    · rename_i given sent
      obtain rfl := List.mem_singleton.mp henvelope
      exact ⟨sent, hx⟩
    · cases henvelope
  · rintro ⟨sent, hdid⟩
    exact ⟨_, hdid, List.mem_singleton_self envelope⟩

private theorem PolledTimes.next {n : Nat} {history : History} (h : PolledTimes n history)
    (heartbeats : List NodeHeartbeatRecord) :
    PolledTimes (n + 1) (history ++ vainEvents n heartbeats (messageIdAt n)) := by
  have hown : ∀ e ∈ vainEvents n heartbeats (messageIdAt n), e.task = n := by
    intro e he
    simp only [vainEvents, List.mem_cons, List.not_mem_nil, or_false] at he
    rcases he with rfl | rfl | rfl | rfl | rfl | rfl | rfl | rfl | rfl <;> rfl
  have hdid : ∀ {e : ControlEvent}, e ∈ vainEvents n heartbeats (messageIdAt n) →
      Did (own n (history ++ vainEvents n heartbeats (messageIdAt n))) e.action e.reply := by
    intro e he
    exact Service.mem_own.mpr ⟨e, List.mem_append_right _ he, hown e he, rfl⟩
  constructor
  · intro e he
    rcases List.mem_append.mp he with hold | hnew
    · exact (h.tasks e hold).trans (Nat.lt_succ_self n)
    · rw [hown e hnew]
      exact Nat.lt_succ_self n
  · rw [messageIds, byTask, List.flatMap_append, List.length_append]
    exact congrArg (· + 1) h.count
  · intro task htask
    rcases Nat.lt_succ_iff_lt_or_eq.mp htask with hold | rfl
    · obtain ⟨⟨e, he, horigin⟩, nodeId, transportId, registration, connection, did, hserved⟩ :=
        h.polls task hold
      exact ⟨⟨e, List.mem_append_left _ he, horigin⟩, nodeId, transportId, registration,
        connection, did.later (own_isPrefix ..), hserved⟩
    · refine ⟨⟨_, List.mem_append_right _ List.mem_cons_self, rfl, rfl⟩, "n", ⟨"n-outbound"⟩,
        .existing, pollConnection, ?_, rfl, rfl⟩
      exact hdid (List.mem_cons_of_mem _ List.mem_cons_self)
  · intro task htask
    rw [mem_response]
    rcases Nat.lt_succ_iff_lt_or_eq.mp htask with hold | rfl
    · obtain ⟨sent, did⟩ := mem_response.mp (h.hello task hold)
      exact ⟨sent, did.later (own_isPrefix ..)⟩
    · exact ⟨true, hdid (List.mem_of_getElem? (i := 8) rfl)⟩

private theorem polled_once : ∃ history pool,
    Reaches defaultTerminalSessionConfig oneNode history pool ∧ PolledTimes 1 history ∧
      pool.shared = polled [pollContact] (messageIdAt 1) none ∧ pool.tasks.length = 1 := by
  have hrun : ∃ pool history, ((controlPlane defaultTerminalSessionConfig).machine entry).run
      ⟨.boot oneNode, []⟩ (firstPoll 0) = some (pool, history) ∧
      pool.shared = polled [pollContact] (messageIdAt 1) none ∧ pool.tasks.length = 1 ∧
      history = calls defaultTerminalSessionConfig oneNode (firstPoll 0) :=
    ⟨_, _, rfl, rfl, rfl, rfl⟩
  obtain ⟨pool, history, hrun, hshared, hlength, hcalls⟩ := hrun
  refine ⟨history, pool, ⟨firstPoll 0, hrun⟩, ?_, hshared, hlength⟩
  rw [hcalls]
  constructor
  · have hall : (calls defaultTerminalSessionConfig oneNode (firstPoll 0)).all
        (fun e => e.task = 0) = true := rfl
    intro e he
    have htask : e.task = 0 := by simpa using List.all_eq_true.mp hall e he
    rw [htask]
    exact Nat.zero_lt_one
  · rfl
  · intro task htask
    obtain rfl : task = 0 := Nat.lt_one_iff.mp htask
    refine ⟨⟨_, List.mem_of_getElem? (i := 0) rfl, rfl, rfl⟩, "n", ⟨"n-outbound"⟩, .registered,
      pollConnection, List.mem_of_getElem? (i := 1) rfl, rfl, rfl⟩
  · intro task htask
    obtain rfl : task = 0 := Nat.lt_one_iff.mp htask
    exact mem_response.mpr ⟨true, List.mem_of_getElem? (i := 10) rfl⟩

private theorem polled_times (n : Nat) : ∃ history pool heartbeats,
    Reaches defaultTerminalSessionConfig oneNode history pool ∧ PolledTimes (n + 1) history ∧
      pool.shared = polled heartbeats (messageIdAt (n + 1)) none ∧ pool.tasks.length = n + 1 := by
  induction n with
  | zero =>
    obtain ⟨history, pool, h⟩ := polled_once
    exact ⟨history, pool, [pollContact], h⟩
  | succ n ih =>
    obtain ⟨history, ⟨shared, tasks⟩, heartbeats, ⟨labels, hrun⟩, htimes, hshared, hlength⟩ := ih
    have hshared : shared = polled heartbeats (messageIdAt (n + 1)) none := hshared
    have hlength : tasks.length = n + 1 := hlength
    subst hshared
    have hpoll := Service.run_solo entry
      (solo_vainPoll tasks.length heartbeats (messageIdAt (n + 1)))
    rw [messageIdAt_next] at hpoll
    refine ⟨_, ⟨polled (heartbeats ++ [pollContact]) (messageIdAt (n + 1 + 1)) none,
        tasks ++ [⟨.agentLongPoll pollRequest, .done none⟩]⟩, heartbeats ++ [pollContact],
      ⟨labels ++ .arrive (.longPoll pollRequest) :: vainPoll.map (.move tasks.length), ?_⟩,
      htimes.next heartbeats, rfl, ?_⟩
    · rw [Machine.run_append]
      refine ⟨_, _, _, hrun, ?_, rfl⟩
      rw [Machine.run_cons]
      exact ⟨_, [], _, rfl, hpoll, by rw [hlength]; rfl⟩
    · simp [hlength]

/-- Ids start at two and stop at the largest one: the last two of `2 ^ 64 - 1` envelopes share
    it. -/
theorem long_poll_ids_saturate : ∃ history pool task other request envelope envelope',
    Reaches defaultTerminalSessionConfig oneNode history pool ∧
    (messageIds 0 history).length = 2 ^ 64 - 1 ∧ task ≠ other ∧
    PollOf history 0 task request ∧ PollOf history 0 other request ∧
    envelope ∈ response (own task history) ∧ envelope' ∈ response (own other history) ∧
    envelope.messageId = envelope'.messageId := by
  obtain ⟨history, pool, heartbeats, h, times, -, -⟩ := polled_times (2 ^ 64 - 2)
  have hlast : 2 ^ 64 - 2 < 2 ^ 64 - 2 + 1 := Nat.lt_succ_self _
  have hbefore : 2 ^ 64 - 3 < 2 ^ 64 - 2 + 1 := by omega
  have hids : messageIdAt (2 ^ 64 - 3) = messageIdAt (2 ^ 64 - 2) := by
    rw [messageIdAt, messageIdAt, u64Max]
    rfl
  refine ⟨history, pool, 2 ^ 64 - 3, 2 ^ 64 - 2, pollRequest, _, _, h, ?_, by omega,
    times.polls _ hbefore, times.polls _ hlast, times.hello _ hbefore, times.hello _ hlast, hids⟩
  exact times.count.trans (by omega)

/-- A terminal is opened on the node between its first two requests. -/
private def commandPolled : History :=
  calls defaultTerminalSessionConfig oneNode
    (firstPoll 0 ++ remoteOpening 1 "alice" "t" ++
      [.arrive (.longPoll pollRequest), .move 2 (.clock 0), .move 2 .none, .move 2 .none,
        .move 2 .none, .move 2 .channel, .move 2 .none, .move 2 .none, .move 2 .none,
        .move 2 .none, .move 2 (.decide true), .move 2 (.decide true)])

theorem long_poll_delivers_once : ∃ pool,
    Reaches defaultTerminalSessionConfig oneNode commandPolled pool ∧
    acceptedOn 0 commandPolled = [.startTerminal (sessionIdOf 1) ⟨80, 24⟩] ∧
    commandsIn (response (own 2 commandPolled)) = [.startTerminal (sessionIdOf 1) ⟨80, 24⟩] ∧
    LongPollDelivery commandPolled 0 := by
  obtain ⟨pool, h⟩ : ∃ pool, Reaches defaultTerminalSessionConfig oneNode commandPolled pool :=
    reaches_calls rfl
  have registered : PolledChannel commandPolled 0 := ⟨0, "n", ⟨"n-outbound"⟩, .registered,
    pollConnection, List.mem_of_getElem? (i := 1) rfl, rfl, rfl⟩
  exact ⟨pool, h, rfl, rfl, long_poll_delivers h registered⟩

end Sunbolt.Control
