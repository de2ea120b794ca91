/- Module: Sunbolt/Control/StaleCleanup
   scope: sunbolt-control/src/agent/mod.rs, sunbolt-control/src/terminal/mod.rs,
     sunbolt-agent/src/lib.rs
   digest: When the clean-up of an old agent connection takes away a newer one. -/

import Sunbolt.Agent.Identity
import Sunbolt.Control.ConnectionLedger

set_option autoImplicit false
set_option relaxedAutoImplicit false

namespace Sunbolt.Control

open Sunbolt.Library
open Sunbolt.Protocol (AgentTransportId)
open Sunbolt.Agent (AgentConnection)

/-- Every connection registered so far uses the id that the agent of its node sends. -/
def UsesAgentIds (history : History) : Prop :=
  ∀ nodeId transportId channel, Made history nodeId transportId channel →
    transportId = AgentConnection.transportId ⟨nodeId⟩

/-- A clean-up for the connection with this channel: its websocket is over or did not take the
    server hello, or it did not take the start of a terminal. -/
def CleansUp (front : History) (e : ControlEvent) (nodeId : String) (channel : Nat) : Prop :=
  (∃ transportId kind registration,
    e.action = .agent (.disconnectTransport nodeId transportId) ∧
    Did (own e.task front) (.agent (.registerTransport nodeId transportId kind))
      (registration, channel)) ∨
  (e.action = .agent (.disconnect nodeId) ∧ ∃ connection sessionId size,
    connection.channel = channel ∧
    Did (own e.task front) (.agent (.connection nodeId)) (some connection) ∧
    Did (own e.task front) (.agent (.sendCommand channel (.startTerminal sessionId size))) false)

/-- A connection of the node that was registered later is still registered after the call. -/
def KeepsNewer (e : ControlEvent) (nodeId : String) (channel : Nat) : Prop :=
  ∀ newer, e.before.agentConnections.connection nodeId = some newer → channel < newer.channel →
    e.after.agentConnections.connection nodeId = some newer

/-- The call finds no connection of the node that was registered later. -/
def FindsNoneNewer (e : ControlEvent) (nodeId : String) (channel : Nat) : Prop :=
  ∀ newer, e.before.agentConnections.connection nodeId = some newer → newer.channel ≤ channel

section Cleanup

variable {config : TerminalSessionConfig} {nodes : NodeEnrollmentState}
  {history front back : History} {pool : ControlPool} {e : ControlEvent}
  {nodeId : String} {channel : Nat}

/-- The channels number the connections in the order of their registration. -/
theorem Reaches.made_in_order (h : Reaches config nodes history pool)
    (hsplit : history = front ++ e :: back) {other given : String}
    {transportId earlier : AgentTransportId} {older : Nat}
    (made : madeBy e.interaction = some (other, transportId, channel))
    (before : Made front given earlier older) : older < channel := by
  obtain ⟨middle, hfront, hbefore⟩ := h.front hsplit
  have hlt := hfront.connections.channel before
  have hnext := ((h.next hsplit).step.made made).1
  rw [hbefore] at hlt
  exact hlt.trans_eq hnext.symm

/-- A clean-up for a connection of the node takes away whichever connection it finds. -/
private theorem Reaches.connection_of_cleanup (h : Reaches config nodes history pool)
    (ids : UsesAgentIds history) (hsplit : history = front ++ e :: back)
    (cleanup : CleansUp front e nodeId channel) :
    e.after.agentConnections.connection nodeId = none := by
  have step := (h.next hsplit).step
  obtain ⟨middle, hfront, hbefore⟩ := h.front hsplit
  have sent : ∀ {given : AgentTransportId} {named : Nat}, Made front nodeId given named →
      given = AgentConnection.transportId ⟨nodeId⟩ := by
    intro given named made
    exact ids nodeId given named (hsplit ▸ made.later)
  rcases cleanup with ⟨transportId, kind, registration, haction, hmade⟩ | ⟨haction, -⟩
  · have hregistered : Made front nodeId transportId channel := by
      obtain ⟨maker, hmaker, -, heq⟩ := Service.mem_own.mp hmade
      exact ⟨maker, hmaker, by rw [heq]; rfl⟩
    have hid := sent hregistered
    have found : ∀ connection, e.before.agentConnections.connection nodeId = some connection →
        connection.transportId = transportId := by
      intro connection hconnection
      rw [← hbefore] at hconnection
      exact (sent (hfront.connections.connected hconnection)).trans hid.symm
    obtain ⟨task, origin, action, reply, before, after, spawned⟩ := e
    cases haction
    change AppStep task before (.agent (.disconnectTransport nodeId transportId)) reply after
      at step
    cases step with
    | agent step =>
      cases step with
      | disconnectTransport =>
        change (before.agentConnections.disconnectTransport nodeId transportId).1.connection
          nodeId = none
        rw [AgentConnectionRegistry.connection_disconnectTransport]
        cases hconnection : before.agentConnections.connection nodeId with
        | none => simp
        | some connection =>
          have heq := found connection hconnection
          simp [heq]
      | onChannel index channel after found hchannel => cases hchannel
  · obtain ⟨task, origin, action, reply, before, after, spawned⟩ := e
    cases haction
    change AppStep task before (.agent (.disconnect nodeId)) reply after at step
    cases step with
    | agent step =>
      cases step with
      | disconnect =>
        exact (AgentConnectionRegistry.connection_disconnect _ nodeId nodeId).trans (if_pos rfl)
      | onChannel index channel after found hchannel => cases hchannel

/-- In a run whose connections use the ids that agents send, no clean-up takes away a newer
    connection exactly when none finds one. -/
theorem cleanup_keeps_newer_iff (h : Reaches config nodes history pool)
    (ids : UsesAgentIds history) :
    (∀ front e back nodeId channel, history = front ++ e :: back →
      CleansUp front e nodeId channel → KeepsNewer e nodeId channel) ↔
    ∀ front e back nodeId channel, history = front ++ e :: back →
      CleansUp front e nodeId channel → FindsNoneNewer e nodeId channel := by
  refine forall_congr' fun front => forall_congr' fun e => forall_congr' fun back =>
    forall_congr' fun nodeId => forall_congr' fun channel => forall_congr' fun hsplit =>
      forall_congr' fun cleanup => ?_
  have gone := h.connection_of_cleanup ids hsplit cleanup
  constructor
  · intro keeps newer found
    by_contra hnewer
    have hkept := keeps newer found (not_le.mp hnewer)
    rw [gone] at hkept
    cases hkept
  · intro none newer found hnewer
    exact absurd (none newer found) (not_le.mpr hnewer)

end Cleanup

/-- The node's agent connects, once more if it is to do so, and its first websocket ends. -/
private def reconnects (again : Bool) : History :=
  calls defaultTerminalSessionConfig oneNode
    (agentOpening 0 false ++ (if again then agentOpening 1 true else []) ++
      [.move 0 (.agent .closed), .move 0 .none])

private def usesAgentId (e : ControlEvent) : Bool :=
  (madeBy e.interaction).all (fun made => made.2.1 == AgentConnection.transportId ⟨made.1⟩)

private theorem usesAgentIds_of_all {history : History}
    (h : history.all usesAgentId = true) : UsesAgentIds history := by
  rintro nodeId transportId channel ⟨e, he, hmade⟩
  have huses := List.all_eq_true.mp h e he
  rw [usesAgentId, hmade] at huses
  simpa using huses

/-- Without a second connection the first one is cleaned up with no harm. -/
theorem cleanup_keeps_newer_single : ∃ pool,
    Reaches defaultTerminalSessionConfig oneNode (reconnects false) pool ∧
    ∀ front e back nodeId channel, reconnects false = front ++ e :: back →
      CleansUp front e nodeId channel → KeepsNewer e nodeId channel := by
  obtain ⟨pool, h⟩ : ∃ pool,
      Reaches defaultTerminalSessionConfig oneNode (reconnects false) pool := reaches_calls rfl
  refine ⟨pool, h, (cleanup_keeps_newer_iff h (usesAgentIds_of_all rfl)).mpr ?_⟩
  intro front e back nodeId channel hsplit cleanup newer found
  obtain ⟨middle, hfront, hbefore⟩ := h.front hsplit
  rw [← hbefore] at found
  have made := @Made.later _ (e :: back) _ _ _ (hfront.connections.connected found)
  rw [← hsplit] at made
  have hfirst : (reconnects false).all
      (fun e => (madeBy e.interaction).all (fun made => made.2.2 == 0)) = true := rfl
  obtain ⟨maker, hmaker, hmade⟩ := made
  have hzero := List.all_eq_true.mp hfirst maker hmaker
  rw [hmade] at hzero
  have hchannel : newer.channel = 0 := by simpa using hzero
  exact hchannel ▸ Nat.zero_le channel

/-- The end of the first websocket unregisters the second connection. -/
theorem old_cleanup_unregisters_newer : ∃ pool front e back newer,
    Reaches defaultTerminalSessionConfig oneNode (reconnects true) pool ∧
    UsesAgentIds (reconnects true) ∧ reconnects true = front ++ e :: back ∧
    CleansUp front e "n" 0 ∧
    e.before.agentConnections.connection "n" = some newer ∧ 0 < newer.channel ∧
    e.after.agentConnections.connection "n" = none := by
  obtain ⟨pool, h⟩ : ∃ pool,
      Reaches defaultTerminalSessionConfig oneNode (reconnects true) pool := reaches_calls rfl
  obtain ⟨e, he, htask, haction, hbefore, hafter⟩ : ∃ e, (reconnects true)[16]? = some e ∧
      e.task = 0 ∧ e.action = .agent (.disconnectTransport "n" ⟨"n-outbound"⟩) ∧
      (e.before.agentConnections.connection "n").map (·.channel) = some 1 ∧
      e.after.agentConnections.connection "n" = none := by
    refine ⟨_, rfl, ?_⟩
    exact ⟨rfl, rfl, rfl, rfl⟩
  obtain ⟨newer, hfound, hchannel⟩ := Option.map_eq_some_iff.mp hbefore
  refine ⟨pool, _, e, _, newer, h, usesAgentIds_of_all rfl, split_at he, Or.inl ?_, hfound, ?_,
    hafter⟩
  · refine ⟨⟨"n-outbound"⟩, .webSocketTlsTcp443, .registered, haction, ?_⟩
    rw [htask]
    exact List.mem_of_getElem? (i := 2) rfl
  · rw [hchannel]
    exact Nat.zero_lt_one

end Sunbolt.Control
