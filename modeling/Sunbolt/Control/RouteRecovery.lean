/- Module: Sunbolt/Control/RouteRecovery
   scope: sunbolt-control/src/routing.rs, sunbolt-control/src/terminal/mod.rs
   digest: When the direct route to a node is selected again after its agent reconnects. -/

import Sunbolt.Control.ConnectionLedger

set_option autoImplicit false
set_option relaxedAutoImplicit false

namespace Sunbolt.Control

open Sunbolt.Library
open Sunbolt.Protocol (NodeId AgentTransportId)

/-- Whether a call records a success or a failure of the endpoint. -/
def outcomeOn (endpoint : RouteEndpoint) : Action → Option Bool
  | .node (.recordSuccess route) => if route.endpoint = endpoint then some true else none
  | .node (.recordFailure route) => if route.endpoint = endpoint then some false else none
  | _ => none

def failuresAfter (endpoint : RouteEndpoint) (failures : Nat) (action : Action) : Nat :=
  match outcomeOn endpoint action with
  | some true => 0
  | some false => failures + 1
  | none => failures

/-- The failures recorded on the endpoint since its last recorded success. -/
def failuresOn (endpoint : RouteEndpoint) (history : History) : Nat :=
  history.foldl (fun failures e => failuresAfter endpoint failures e.action) 0

/-- A route to the node is asked for while its agent is connected, and the node has registered a
    fresh connection after the last failure recorded on its direct route. -/
structure FreshSelection (history front : History) (target : NodeId) (route : Option NodeRoute) :
    Prop where
  asked : ∃ e back relays, history = front ++ e :: back ∧
    e.interaction = ⟨.node (.selectRoute ⟨target, true, relays⟩), route⟩
  fresh : ∃ early registered late transportId channel, front = early ++ registered :: late ∧
    madeBy registered.interaction = some (target.val, transportId, channel) ∧
    ∀ e ∈ late, outcomeOn (.directAgent target) e.action ≠ some false

theorem failuresOn_append_one (endpoint : RouteEndpoint) (history : History) (e : ControlEvent) :
    failuresOn endpoint (history ++ [e]) =
      failuresAfter endpoint (failuresOn endpoint history) e.action := by
  rw [failuresOn, List.foldl_append]
  rfl

section Step

variable {task : Nat} {state next : AppState} {action : Action} {reply : Reply action}

theorem performNode_router {enrollment enrollment' : NodeEnrollmentState}
    {router router' : InMemoryNodeRouter} {action : NodeAction} {reply : NodeReply action}
    {choice : Choice}
    (h : performNode enrollment router action choice = some (reply, enrollment', router')) :
    (∃ route, action = .recordSuccess route ∧ router' = router.recordSuccess route) ∨
    (∃ route, action = .recordFailure route ∧ router' = router.recordFailure route) ∨
    (∀ endpoint, outcomeOn endpoint (.node action) = none) ∧ router' = router := by
  unfold performNode at h
  split at h
  all_goals cases h
  · exact Or.inr (Or.inr ⟨fun _ => rfl, rfl⟩)
  · exact Or.inr (Or.inr ⟨fun _ => rfl, rfl⟩)
  · exact Or.inr (Or.inr ⟨fun _ => rfl, rfl⟩)
  · exact Or.inr (Or.inr ⟨fun _ => rfl, rfl⟩)
  · exact Or.inr (Or.inr ⟨fun _ => rfl, rfl⟩)
  · exact Or.inl ⟨_, rfl, rfl⟩
  · exact Or.inr (Or.inl ⟨_, rfl, rfl⟩)

/-- A call counts a failure, forgets them all, or leaves the count alone. -/
theorem AppStep.failures (step : AppStep task state action reply next) (endpoint : RouteEndpoint)
    {count : Nat} (counted : state.nodeRouter.failures endpoint = min count 255) :
    next.nodeRouter.failures endpoint = min (failuresAfter endpoint count action) 255 := by
  cases step with
  | write h => exact counted
  | read h => exact counted
  | agent h => exact counted
  | nextSessionId => exact counted
  | audit input => exact counted
  | host quiet => exact counted
  | node choice h =>
    rcases performNode_router h with ⟨route, rfl, rfl⟩ | ⟨route, rfl, rfl⟩ | ⟨hnone, rfl⟩
    · dsimp only
      rw [InMemoryNodeRouter.failures_recordSuccess, counted, failuresAfter, outcomeOn]
      by_cases hsame : route.endpoint = endpoint
      · rw [if_pos hsame, if_pos hsame]
        rfl
      · rw [if_neg hsame, if_neg hsame]
    · dsimp only
      rw [InMemoryNodeRouter.failures_recordFailure, counted, failuresAfter, outcomeOn]
      by_cases hsame : route.endpoint = endpoint
      · rw [if_pos hsame, if_pos hsame]
        dsimp only
        omega
      · rw [if_neg hsame, if_neg hsame]
    · rw [failuresAfter, hnone]
      exact counted

theorem AppStep.selectRoute {request : RouteRequest} {route : Option NodeRoute}
    (step : AppStep task state (.node (.selectRoute request)) route next) :
    route = state.nodeRouter.selectRoute request := by
  cases step with
  | node choice h =>
    cases choice with
    | none =>
      cases h
      rfl
    | _ => cases h

end Step

section Runs

variable {config : TerminalSessionConfig} {nodes : NodeEnrollmentState}
  {history front back : History} {pool : ControlPool} {e : ControlEvent} {target : NodeId}
  {route : Option NodeRoute}

/-- The router counts the failures since the last success, up to the largest count it holds. -/
theorem Reaches.failures (h : Reaches config nodes history pool) (endpoint : RouteEndpoint) :
    pool.shared.nodeRouter.failures endpoint = min (failuresOn endpoint history) 255 := by
  refine h.keeps (I := fun history state =>
    state.nodeRouter.failures endpoint = min (failuresOn endpoint history) 255) rfl ?_
  intro front e next counted
  rw [failuresOn_append_one]
  exact next.step.failures endpoint counted

/-- Whatever happened to the connection, a route is selected by the recorded failures alone. -/
theorem Reaches.selects_direct_iff (h : Reaches config nodes history pool)
    (split : history = front ++ e :: back) {relays : List NodeId}
    (asked : e.interaction = ⟨.node (.selectRoute ⟨target, true, relays⟩), route⟩) :
    route = some (.directAgent target) ↔
      failuresOn (.directAgent target) front < RouteHealthRecord.unhealthyAfter := by
  obtain ⟨before, hfront, hbefore⟩ := h.front split
  have next := h.next split
  have counted := hfront.failures (.directAgent target)
  rw [hbefore] at counted
  obtain ⟨task, origin, action, reply, state, after, spawned⟩ := e
  cases asked
  have hroute := AppStep.selectRoute next.step
  have hdirect := state.nodeRouter.selectRoute_eq_direct ⟨target, true, relays⟩
  dsimp only at counted hdirect
  have hlarge : RouteHealthRecord.unhealthyAfter ≤ 255 := by decide
  rw [hroute, hdirect, counted, and_iff_right rfl]
  omega

/-- After its agent has reconnected a node is routed to directly exactly when fewer than three
    failures of the direct route were recorded since its last success. -/
theorem reconnected_direct_iff (h : Reaches config nodes history pool)
    (selection : FreshSelection history front target route) :
    route = some (.directAgent target) ↔
      failuresOn (.directAgent target) front < RouteHealthRecord.unhealthyAfter := by
  obtain ⟨e, back, relays, split, asked⟩ := selection.asked
  exact h.selects_direct_iff split asked

end Runs

/-- A browser asks for a terminal on the node and finds its agent connected. -/
private def remoteSelecting (task : Nat) (actorEmail : String) : List (Label Arrival Choice) :=
  (remoteOpening task actorEmail "t").take 10

/-- The agent's socket is closed. -/
private def agentLeaves (task : Nat) : List (Label Arrival Choice) :=
  [.move task (.agent .closed), .move task .none, .move task .none, .move task .none]

/-- The start command fails, and so does the route. -/
private def startFails (task : Nat) : List (Label Arrival Choice) :=
  [.move task .none, .move task .none, .move task .none]

/-- The agent is lost while three terminals are being opened on it, and then reconnects. -/
private def lostOnce : History :=
  calls defaultTerminalSessionConfig oneNode
    (agentOpening 0 false ++ remoteSelecting 1 "alice" ++ remoteSelecting 2 "alice" ++
      remoteSelecting 3 "alice" ++ agentLeaves 0 ++ startFails 1 ++ startFails 2 ++
      startFails 3 ++ agentOpening 4 false ++ (remoteOpening 5 "alice" "t").take 8)

/-- One terminal is opened on the connected agent. -/
private def openedDirectly : History :=
  calls defaultTerminalSessionConfig oneNode
    (agentOpening 0 false ++ (remoteOpening 1 "alice" "t").take 8)

private def outcomes (endpoint : RouteEndpoint) (history : History) : List (Option Bool) :=
  history.map (fun e => outcomeOn endpoint e.action)

private theorem no_failure_of_outcomes {endpoint : RouteEndpoint} {late : History}
    (h : (outcomes endpoint late).all (· != some false) = true) :
    ∀ e ∈ late, outcomeOn endpoint e.action ≠ some false := by
  intro e he
  have hall := List.all_eq_true.mp h _ (List.mem_map_of_mem he)
  simpa using hall

theorem reconnected_direct_once : ∃ pool front,
    Reaches defaultTerminalSessionConfig oneNode openedDirectly pool ∧
    FreshSelection openedDirectly front ⟨"n"⟩ (some (.directAgent ⟨"n"⟩)) ∧
    failuresOn (.directAgent ⟨"n"⟩) front < RouteHealthRecord.unhealthyAfter := by
  obtain ⟨pool, h⟩ : ∃ pool, Reaches defaultTerminalSessionConfig oneNode openedDirectly pool :=
    reaches_calls rfl
  obtain ⟨e, he, asked⟩ : ∃ e, openedDirectly[13]? = some e ∧ e.interaction =
      ⟨.node (.selectRoute ⟨⟨"n"⟩, true, []⟩), some (.directAgent ⟨"n"⟩)⟩ := ⟨_, rfl, rfl⟩
  obtain ⟨registered, hregistered, hmade⟩ : ∃ e, (openedDirectly.take 13)[2]? = some e ∧
      madeBy e.interaction = some ("n", ⟨"n-outbound"⟩, 0) := ⟨_, rfl, rfl⟩
  have selection : FreshSelection openedDirectly (openedDirectly.take 13) ⟨"n"⟩
      (some (.directAgent ⟨"n"⟩)) :=
    ⟨⟨e, _, [], split_at he, asked⟩,
      ⟨_, registered, _, _, _, split_at hregistered, hmade,
        no_failure_of_outcomes rfl⟩⟩
  exact ⟨pool, _, h, selection, (reconnected_direct_iff h selection).mp rfl⟩

/-- One loss of the agent fails three opens at once: after the agent has reconnected no route to
    it is selected. -/
theorem reconnected_not_routed : ∃ pool front route,
    Reaches defaultTerminalSessionConfig oneNode lostOnce pool ∧
    FreshSelection lostOnce front ⟨"n"⟩ route ∧ route ≠ some (.directAgent ⟨"n"⟩) := by
  obtain ⟨pool, h⟩ : ∃ pool, Reaches defaultTerminalSessionConfig oneNode lostOnce pool :=
    reaches_calls rfl
  obtain ⟨e, he, asked⟩ : ∃ e, lostOnce[60]? = some e ∧ e.interaction =
      ⟨.node (.selectRoute ⟨⟨"n"⟩, true, []⟩), none⟩ := ⟨_, rfl, rfl⟩
  obtain ⟨registered, hregistered, hmade⟩ : ∃ e, (lostOnce.take 60)[49]? = some e ∧
      madeBy e.interaction = some ("n", ⟨"n-outbound"⟩, 1) := ⟨_, rfl, rfl⟩
  have selection : FreshSelection lostOnce (lostOnce.take 60) ⟨"n"⟩ none :=
    ⟨⟨e, _, [], split_at he, asked⟩,
      ⟨_, registered, _, _, _, split_at hregistered, hmade, no_failure_of_outcomes rfl⟩⟩
  exact ⟨pool, _, none, h, selection, nofun⟩

end Sunbolt.Control
