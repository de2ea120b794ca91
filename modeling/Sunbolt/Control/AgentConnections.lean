/- Module: Sunbolt/Control/AgentConnections
   scope: sunbolt-control/src/agent/mod.rs
   digest: The registry of agent connections and the command and event channels behind them. -/

import Sunbolt.Library.Table
import Sunbolt.Protocol.Transport

set_option autoImplicit false
set_option relaxedAutoImplicit false

namespace Sunbolt.Control

open Sunbolt.Library (Table)
open Sunbolt.Protocol (AgentTransportId AgentTransportKind AgentTransportMessageId
  AgentTerminalCommand AgentTerminalEvent NodeId TerminalTransportStatus)

def agentTransportChannelCapacity : Nat := 128

def longPollDegradedReason : String :=
  "restrictive network fallback active; terminal latency may be higher"

/-- The two bounded channels made for one agent connection. The receiver of the events is
    behind a lock that one task may hold; so is the long-poll receiver of the commands. -/
structure AgentChannel where
  commands : List AgentTerminalCommand
  commandsOpen : Bool
  commandLock : Option Nat
  events : List AgentTerminalEvent
  eventsOpen : Bool
  eventLock : Option Nat
  nextMessageId : AgentTransportMessageId
  deriving DecidableEq, Repr

namespace AgentChannel

/-- Channels of a new connection; its long-poll message ids start at two. -/
def opened : AgentChannel := ⟨[], true, none, [], true, none, ⟨2⟩⟩

/-- An awaited send: it fails when the receiver is gone and waits while the channel is full. -/
def sendCommand (channel : AgentChannel) (command : AgentTerminalCommand) :
    Option (AgentChannel × Bool) :=
  if !channel.commandsOpen then some (channel, false)
  else if channel.commands.length < agentTransportChannelCapacity then
    some ({ channel with commands := channel.commands ++ [command] }, true)
  else none

/-- A send that does not wait: it fails when the channel is full. -/
def trySendEvent (channel : AgentChannel) (event : AgentTerminalEvent) : AgentChannel × Bool :=
  if channel.events.length < agentTransportChannelCapacity then
    ({ channel with events := channel.events ++ [event] }, true)
  else (channel, false)

/-- A receive: the next event, the end when the sender is gone, or nothing while it waits. -/
def recvEvent (channel : AgentChannel) : Option (AgentChannel × Option AgentTerminalEvent) :=
  match channel.events with
  | event :: events => some ({ channel with events := events }, some event)
  | [] => if channel.eventsOpen then none else some (channel, none)

/-- The next command, if there is one. -/
def tryRecvCommand (channel : AgentChannel) : AgentChannel × Option AgentTerminalCommand :=
  match channel.commands with
  | command :: commands => ({ channel with commands := commands }, some command)
  | [] => (channel, none)

end AgentChannel

structure RegisteredAgentConnection where
  channel : Nat
  transportId : AgentTransportId
  transportKind : AgentTransportKind
  degradedReason : Option String
  longPoll : Bool
  deriving DecidableEq, Repr

def RegisteredAgentConnection.terminalTransportStatus (connection : RegisteredAgentConnection) :
    TerminalTransportStatus where
  kind := connection.transportKind
  degraded := connection.transportKind.isRestrictiveNetworkFallback
  message := connection.degradedReason

inductive AgentConnectionRegistration where
  | existing
  | registered
  | replacedExisting
  deriving DecidableEq, Repr

/-- The map behind the registry lock, and every channel made so far, oldest first. -/
structure AgentConnectionRegistry where
  connections : Table String RegisteredAgentConnection
  channels : List AgentChannel

namespace AgentConnectionRegistry

variable (registry : AgentConnectionRegistry)

def connection (nodeId : String) : Option RegisteredAgentConnection :=
  registry.connections.lookup nodeId

def put (nodeId : String) (connection : RegisteredAgentConnection) :
    AgentConnectionRegistry × AgentConnectionRegistration :=
  ({ connections := AList.insert nodeId connection registry.connections
     channels := registry.channels ++ [AgentChannel.opened] },
    if (registry.connection nodeId).isSome then .replacedExisting else .registered)

/-- The channels are made just before the registration and belong to the caller alone until
    then, so both are one step. -/
def registerTransport (nodeId : String) (transportId : AgentTransportId)
    (transportKind : AgentTransportKind) :
    AgentConnectionRegistry × (AgentConnectionRegistration × Nat) :=
  let channel := registry.channels.length
  let (next, registration) :=
    registry.put nodeId ⟨channel, transportId, transportKind, none, false⟩
  (next, registration, channel)

def ensureLongPollTransport (nodeId : String) (transportId : AgentTransportId) :
    AgentConnectionRegistry × (AgentConnectionRegistration × RegisteredAgentConnection) :=
  let fresh : RegisteredAgentConnection :=
    ⟨registry.channels.length, transportId, .longPollHttps, some longPollDegradedReason, true⟩
  match registry.connection nodeId with
  | some connection =>
    if connection.transportId = transportId && connection.transportKind = .longPollHttps then
      (registry, .existing, connection)
    else
      let (next, registration) := registry.put nodeId fresh
      (next, registration, fresh)
  | none =>
    let (next, registration) := registry.put nodeId fresh
    (next, registration, fresh)

def disconnect (nodeId : String) : AgentConnectionRegistry :=
  { registry with connections := AList.erase nodeId registry.connections }

def disconnectTransport (nodeId : String) (transportId : AgentTransportId) :
    AgentConnectionRegistry × Bool :=
  if (registry.connection nodeId).any (·.transportId = transportId) then
    (registry.disconnect nodeId, true)
  else (registry, false)

def connectedNodeIdsExcept (nodeId : String) : List NodeId :=
  (registry.connections.keys.filter (· ≠ nodeId)).map NodeId.mk

/-- Some node's registered connection still uses the channel. -/
def isRegistered (channel : Nat) : Bool :=
  registry.connections.entries.any (fun e => e.2.channel == channel)

def modifyChannel (channel : Nat) (f : AgentChannel → AgentChannel) : AgentConnectionRegistry :=
  { registry with channels := registry.channels.modify channel f }

end AgentConnectionRegistry

end Sunbolt.Control
