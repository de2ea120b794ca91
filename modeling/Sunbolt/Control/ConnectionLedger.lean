/- Module: Sunbolt/Control/ConnectionLedger
   scope: sunbolt-control/src/agent/mod.rs
   digest: In every run each agent channel belongs to one registration of one node. -/

import Sunbolt.Control.SessionLedger

set_option autoImplicit false
set_option relaxedAutoImplicit false

namespace Sunbolt.Control

open Sunbolt.Library
open Sunbolt.Protocol (TerminalSessionId AgentTransportId AgentTransportKind)

/-- The node, the transport id and the channel of the connection a call registers, if it does. -/
def madeBy (x : Interaction Action Reply) : Option (String × AgentTransportId × Nat) :=
  match x with
  | ⟨.agent (.registerTransport nodeId transportId _), registered⟩ =>
    some (nodeId, transportId, registered.2)
  | ⟨.agent (.ensureLongPollTransport nodeId transportId), registered⟩ =>
    if registered.1 = .existing then none else some (nodeId, transportId, registered.2.channel)
  | _ => none

/-- A transport of the node was registered with this id and this channel. -/
def Made (history : History) (nodeId : String) (transportId : AgentTransportId)
    (channel : Nat) : Prop :=
  ∃ e ∈ history, madeBy e.interaction = some (nodeId, transportId, channel)

theorem Made.later {front late : History} {nodeId : String} {transportId : AgentTransportId}
    {channel : Nat} (h : Made front nodeId transportId channel) :
    Made (front ++ late) nodeId transportId channel := by
  obtain ⟨e, he, hmade⟩ := h
  exact ⟨e, List.mem_append_left late he, hmade⟩

theorem made_snoc {front : History} {e : ControlEvent} {nodeId : String}
    {transportId : AgentTransportId} {channel : Nat} :
    Made (front ++ [e]) nodeId transportId channel ↔
      Made front nodeId transportId channel ∨
        madeBy e.interaction = some (nodeId, transportId, channel) := by
  constructor
  · rintro ⟨other, hother, hmade⟩
    rcases List.mem_append.mp hother with hold | hnew
    · exact Or.inl ⟨other, hold, hmade⟩
    · obtain rfl := List.mem_singleton.mp hnew
      exact Or.inr hmade
  · rintro (hold | hnew)
    · exact hold.later
    · exact ⟨e, List.mem_append_right front (List.mem_singleton_self e), hnew⟩

section Step

variable {task : Nat} {state next : AppState} {action : Action} {reply : Reply action}

namespace AgentConnectionRegistry

variable (registry : AgentConnectionRegistry) (nodeId other : String)

theorem connection_put (connection : RegisteredAgentConnection) :
    (registry.put nodeId connection).1.connection other =
      if other = nodeId then some connection else registry.connection other :=
  Table.lookup_insert registry.connections nodeId other connection

theorem connection_disconnect :
    (registry.disconnect nodeId).connection other =
      if other = nodeId then none else registry.connection other :=
  Table.lookup_erase registry.connections nodeId other

theorem connection_disconnectTransport (transportId : AgentTransportId) :
    (registry.disconnectTransport nodeId transportId).1.connection other =
      if other = nodeId ∧ (registry.connection nodeId).any (·.transportId = transportId) = true
      then none else registry.connection other := by
  rw [disconnectTransport]
  by_cases hmatch : (registry.connection nodeId).any (·.transportId = transportId) = true
  · rw [if_pos hmatch, connection_disconnect]
    simp only [hmatch, and_true]
  · rw [if_neg hmatch, if_neg (fun h => hmatch h.2)]

/-- A long-poll request is served by the connection that is there, or registers a new one. -/
theorem ensureLongPollTransport_cases (transportId : AgentTransportId) :
    (∃ connection, registry.connection nodeId = some connection ∧
      registry.ensureLongPollTransport nodeId transportId =
        (registry, .existing, connection)) ∨
    ∃ registration, registration ≠ .existing ∧
      registry.ensureLongPollTransport nodeId transportId =
        ((registry.put nodeId ⟨registry.channels.length, transportId, .longPollHttps,
          some longPollDegradedReason, true⟩).1, registration,
          ⟨registry.channels.length, transportId, .longPollHttps, some longPollDegradedReason,
            true⟩) := by
  have fresh : ∀ connection, (registry.put nodeId connection).2 ≠ .existing := by
    intro connection
    rw [put]
    split <;> simp
  have opened := fresh ⟨registry.channels.length, transportId, .longPollHttps,
    some longPollDegradedReason, true⟩
  rw [ensureLongPollTransport]
  split
  · rename_i connection found
    split
    · exact Or.inl ⟨connection, found, rfl⟩
    · exact Or.inr ⟨_, opened, rfl⟩
  · exact Or.inr ⟨_, opened, rfl⟩

end AgentConnectionRegistry

/-- A connection found after a call was there before, or the call registered it. -/
theorem AppStep.connection (step : AppStep task state action reply next) {nodeId : String}
    {connection : RegisteredAgentConnection}
    (found : next.agentConnections.connection nodeId = some connection) :
    state.agentConnections.connection nodeId = some connection ∨
      madeBy ⟨action, reply⟩ = some (nodeId, connection.transportId, connection.channel) := by
  cases step with
  | agent hstep =>
    cases hstep with
    | registerTransport named transportId kind =>
      change ((state.agentConnections.put named _).1).connection nodeId = _ at found
      rw [AgentConnectionRegistry.connection_put] at found
      split_ifs at found with hnode
      · cases found
        subst hnode
        exact Or.inr rfl
      · exact Or.inl found
    | ensureLongPollTransport named transportId =>
      rcases state.agentConnections.ensureLongPollTransport_cases named transportId with
        ⟨existing, -, heq⟩ | ⟨registration, hfresh, heq⟩
      · simp only [heq] at found
        exact Or.inl found
      · simp only [heq, AgentConnectionRegistry.connection_put] at found
        split_ifs at found with hnode
        · cases found
          subst hnode
          rw [madeBy, heq]
          exact Or.inr (if_neg hfresh)
        · exact Or.inl found
    | disconnect named =>
      simp only [AgentConnectionRegistry.connection_disconnect] at found
      split_ifs at found
      exact Or.inl found
    | disconnectTransport named transportId =>
      simp only [AgentConnectionRegistry.connection_disconnectTransport] at found
      split_ifs at found
      exact Or.inl found
    | _ => exact Or.inl found
  | _ => exact Or.inl found

/-- A registration takes the next channel. -/
theorem AppStep.made (step : AppStep task state action reply next) {nodeId : String}
    {transportId : AgentTransportId} {channel : Nat}
    (made : madeBy ⟨action, reply⟩ = some (nodeId, transportId, channel)) :
    channel = state.agentConnections.channels.length ∧
      channel < next.agentConnections.channels.length := by
  cases step with
  | agent hstep =>
    cases hstep with
    | registerTransport named given kind =>
      cases made
      exact ⟨rfl, by simp [AgentConnectionRegistry.registerTransport,
        AgentConnectionRegistry.put]⟩
    | ensureLongPollTransport named given =>
      rcases state.agentConnections.ensureLongPollTransport_cases named given with
        ⟨existing, -, heq⟩ | ⟨registration, hfresh, heq⟩
      · rw [madeBy, heq] at made
        cases made
      · rw [madeBy, heq] at made
        simp only [if_neg hfresh, Option.some.injEq, Prod.mk.injEq] at made
        obtain ⟨-, -, rfl⟩ := made
        exact ⟨rfl, by simp [heq, AgentConnectionRegistry.put]⟩
    | onChannel index channel after found hchannel => cases hchannel <;> cases made
    | _ => cases made
  | _ => cases made

theorem AppStep.channels_le (step : AppStep task state action reply next) :
    state.agentConnections.channels.length ≤ next.agentConnections.channels.length := by
  cases step with
  | agent hstep =>
    cases hstep with
    | registerTransport named transportId kind =>
      simp [AgentConnectionRegistry.registerTransport, AgentConnectionRegistry.put]
    | ensureLongPollTransport named transportId =>
      rcases state.agentConnections.ensureLongPollTransport_cases named transportId with
        ⟨existing, -, heq⟩ | ⟨registration, hfresh, heq⟩
      · simp [heq]
      · simp [heq, AgentConnectionRegistry.put]
    | disconnectTransport named transportId =>
      rw [AgentConnectionRegistry.disconnectTransport]
      split <;> exact le_rfl
    | onChannel index channel after found hchannel => simp
    | _ => exact le_rfl
  | _ => exact le_rfl

end Step

/-- Where every registered connection comes from. -/
structure ConnectionLedger (history : History) (state : AppState) : Prop where
  channel : ∀ {nodeId transportId channel}, Made history nodeId transportId channel →
    channel < state.agentConnections.channels.length
  once : ∀ {nodeId other transportId given channel}, Made history nodeId transportId channel →
    Made history other given channel → nodeId = other ∧ transportId = given
  connected : ∀ {nodeId connection},
    state.agentConnections.connection nodeId = some connection →
    Made history nodeId connection.transportId connection.channel
  found : ∀ {task nodeId connection},
    Did (own task history) (.agent (.connection nodeId)) (some connection) →
    Made history nodeId connection.transportId connection.channel

theorem ConnectionLedger.step {front : History} {e : ControlEvent}
    (ledger : ConnectionLedger front e.before) (next : Next front e) :
    ConnectionLedger (front ++ [e]) e.after where
  channel made := by
    rcases made_snoc.mp made with hold | hnew
    · exact (ledger.channel hold).trans_le next.step.channels_le
    · exact (next.step.made hnew).2
  once made made' := by
    rcases made_snoc.mp made with hold | hnew
    · rcases made_snoc.mp made' with hold' | hnew'
      · exact ledger.once hold hold'
      · exact absurd (next.step.made hnew').1 (ledger.channel hold).ne
    · rcases made_snoc.mp made' with hold' | hnew'
      · exact absurd (next.step.made hnew).1 (ledger.channel hold').ne
      · cases hnew.symm.trans hnew'
        exact ⟨rfl, rfl⟩
  connected connected := by
    rcases next.step.connection connected with hold | hnew
    · exact (ledger.connected hold).later
    · exact made_snoc.mpr (Or.inr hnew)
  found {task nodeId connection} found := by
    rcases did_snoc.mp found with hold | ⟨-, heq⟩
    · exact (ledger.found hold).later
    · obtain ⟨other, origin, action, reply, before, after, spawned⟩ := e
      cases heq
      have step : AppStep other before (.agent (.connection nodeId)) (some connection) after :=
        next.step
      have hfound : some connection = before.agentConnections.connection nodeId := by
        generalize some connection = reply at step
        cases step with
        | agent hstep =>
          cases hstep with
          | connection => rfl
          | onChannel index channel later found hchannel => cases hchannel
      exact (ledger.connected hfound.symm).later

variable {config : TerminalSessionConfig} {nodes : NodeEnrollmentState} {history : History}
  {pool : ControlPool}

theorem Reaches.connections (h : Reaches config nodes history pool) :
    ConnectionLedger history pool.shared := by
  refine h.keeps (I := ConnectionLedger) ?_ (fun front e next ledger => ledger.step next)
  refine ⟨?_, ?_, ?_, ?_⟩
  · rintro nodeId transportId channel ⟨e, he, -⟩
    cases he
  · rintro nodeId other transportId given channel ⟨e, he, -⟩
    cases he
  · intro nodeId connection found
    cases found
  · intro task nodeId connection found
    cases found

/-- The session of a remote terminal is on the node whose connection serves it. -/
theorem Reaches.remote_node (h : Reaches config nodes history pool) {task output channel : Nat}
    {request : TerminalSessionInsert} (opened : OpenedBy history task request output)
    (remote : request.backend = .remote channel) : ∃ nodeId transportId,
      request.nodeId = some nodeId ∧ Made history nodeId transportId channel := by
  have source := (h.ledger.inserted opened).2
  rw [BackendSource, remote] at source
  obtain ⟨nodeId, connection, hnode, hfound, rfl⟩ := source
  exact ⟨nodeId, connection.transportId, hnode, h.connections.found hfound⟩

end Sunbolt.Control
