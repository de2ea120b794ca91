/- Module: Sunbolt/Control/RouteHealth
   scope: sunbolt-control/src/routing.rs
   digest: Route health and selection by the failures since the last success of an endpoint. -/

import Mathlib.Data.List.Induction
import Sunbolt.Control.Routing

set_option autoImplicit false
set_option relaxedAutoImplicit false

namespace Sunbolt.Control

open Sunbolt.Library (Table)
open Sunbolt.Protocol (NodeId)

inductive RouteCall where
  | recordSuccess (route : NodeRoute)
  | recordFailure (route : NodeRoute)

namespace RouteCall

def endpoint : RouteCall → RouteEndpoint
  | recordSuccess route => route.endpoint
  | recordFailure route => route.endpoint

def isFailure : RouteCall → Bool
  | recordSuccess _ => false
  | recordFailure _ => true

end RouteCall

def InMemoryNodeRouter.default : InMemoryNodeRouter := ⟨∅⟩

def InMemoryNodeRouter.record (router : InMemoryNodeRouter) : RouteCall → InMemoryNodeRouter
  | .recordSuccess route => router.recordSuccess route
  | .recordFailure route => router.recordFailure route

/-- The router after these calls. -/
def recorded (calls : List RouteCall) : InMemoryNodeRouter :=
  calls.foldl InMemoryNodeRouter.record .default

def callsOn (endpoint : RouteEndpoint) (calls : List RouteCall) : List RouteCall :=
  calls.filter (fun call => call.endpoint = endpoint)

/-- How many of the calls on the endpoint come after its last success; all of these failed. -/
def failuresSince (endpoint : RouteEndpoint) (calls : List RouteCall) : Nat :=
  ((callsOn endpoint calls).reverse.takeWhile RouteCall.isFailure).length

def healthOf (failures : Nat) : RouteHealth :=
  if failures = 0 then .healthy else if failures < 3 then .degraded else .unhealthy

/-- The route that a request should get when the endpoints have had these failures. -/
structure SelectsByFailures (failures : RouteEndpoint → Nat) (request : RouteRequest)
    (selected : Option NodeRoute) : Prop where
  direct : selected = some (.directAgent request.targetNodeId) ↔
    request.directAgentConnected = true ∧
      healthOf (failures (.directAgent request.targetNodeId)) ≠ .unhealthy
  relay : ∀ target relay, selected = some (.relayNode target relay) ↔
    target = request.targetNodeId ∧
    ¬(request.directAgentConnected = true ∧
      healthOf (failures (.directAgent request.targetNodeId)) ≠ .unhealthy) ∧
    ∃ before after, request.relayCandidates = before ++ relay :: after ∧
      (∀ other ∈ before, healthOf (failures (.relayNode other)) = .unhealthy) ∧
      healthOf (failures (.relayNode relay)) ≠ .unhealthy
  noRoute : selected = none ↔
    ¬(request.directAgentConnected = true ∧
      healthOf (failures (.directAgent request.targetNodeId)) ≠ .unhealthy) ∧
    ∀ relay ∈ request.relayCandidates, healthOf (failures (.relayNode relay)) = .unhealthy

theorem failuresSince_append_one (endpoint : RouteEndpoint) (calls : List RouteCall)
    (call : RouteCall) :
    failuresSince endpoint (calls ++ [call]) =
      if call.endpoint = endpoint then
        if call.isFailure then failuresSince endpoint calls + 1 else 0
      else failuresSince endpoint calls := by
  rw [failuresSince, callsOn, List.filter_append]
  by_cases hsame : call.endpoint = endpoint
  · rw [if_pos hsame, List.filter_cons_of_pos (by simpa using hsame), List.filter_nil,
      List.reverse_append, List.reverse_singleton, List.singleton_append, List.takeWhile_cons]
    split_ifs
    · rfl
    · rfl
  · rw [if_neg hsame, List.filter_cons_of_neg (by simpa using hsame), List.filter_nil,
      List.append_nil]
    rfl

/-- Eight bits count the failures up to 255. -/
theorem failures_recorded (endpoint : RouteEndpoint) (calls : List RouteCall) :
    (recorded calls).failures endpoint = min (failuresSince endpoint calls) 255 := by
  induction calls using List.reverseRecOn with
  | nil => rfl
  | append_singleton calls call ih =>
    rw [failuresSince_append_one, recorded, List.foldl_append]
    rw [recorded] at ih
    cases call with
    | recordSuccess route =>
      refine (InMemoryNodeRouter.failures_recordSuccess ..).trans ?_
      rw [ih, RouteCall.endpoint]
      by_cases hsame : route.endpoint = endpoint
      · rw [if_pos hsame, if_pos hsame]
        rfl
      · rw [if_neg hsame, if_neg hsame]
    | recordFailure route =>
      refine (InMemoryNodeRouter.failures_recordFailure ..).trans ?_
      rw [ih, RouteCall.endpoint]
      by_cases hsame : route.endpoint = endpoint
      · rw [if_pos hsame, if_pos hsame, RouteCall.isFailure, if_pos rfl]
        omega
      · rw [if_neg hsame, if_neg hsame]

/-- The counter stops far above the threshold, so that it decides as the number itself. -/
theorem routeHealth_recorded (endpoint : RouteEndpoint) (calls : List RouteCall) :
    (recorded calls).routeHealth endpoint = healthOf (failuresSince endpoint calls) := by
  have hcount := failures_recorded endpoint calls
  rw [InMemoryNodeRouter.failures] at hcount
  rw [InMemoryNodeRouter.routeHealth, healthOf]
  cases hlookup : (recorded calls).health.lookup endpoint with
  | none =>
    rw [hlookup, Option.map_none, Option.getD_none] at hcount
    have hzero : failuresSince endpoint calls = 0 := by omega
    rw [if_pos hzero]
    rfl
  | some record =>
    rw [hlookup, Option.map_some, Option.getD_some] at hcount
    rw [Option.map_some, Option.getD_some, RouteHealthRecord.health, hcount,
      RouteHealthRecord.unhealthyAfter]
    split_ifs <;> first | rfl | omega

theorem selectRoute_selects (router : InMemoryNodeRouter) {failures : RouteEndpoint → Nat}
    (h : ∀ endpoint, router.routeHealth endpoint = healthOf (failures endpoint))
    (request : RouteRequest) :
    SelectsByFailures failures request (router.selectRoute request) := by
  have hselect : router.selectRoute request =
      if request.directAgentConnected = true ∧
        healthOf (failures (.directAgent request.targetNodeId)) ≠ .unhealthy then
        some (.directAgent request.targetNodeId)
      else (request.relayCandidates.find? (fun relay =>
        healthOf (failures (.relayNode relay)) != .unhealthy)).map
          (NodeRoute.relayNode request.targetNodeId) := by
    simp only [InMemoryNodeRouter.selectRoute, h, Bool.and_eq_true, bne_iff_ne]
  rw [hselect]
  split_ifs with hdirect
  · exact ⟨iff_of_true rfl hdirect,
      fun target relay => iff_of_false (by simp) (fun h => h.2.1 hdirect),
      iff_of_false (by simp) (fun h => h.1 hdirect)⟩
  · cases hfind : request.relayCandidates.find? (fun relay =>
        healthOf (failures (.relayNode relay)) != .unhealthy) with
    | none =>
      have hall : ∀ relay ∈ request.relayCandidates,
          healthOf (failures (.relayNode relay)) = .unhealthy := by
        simpa using hfind
      refine ⟨iff_of_false (by simp) hdirect, fun target relay => iff_of_false (by simp) ?_,
        iff_of_true rfl ⟨hdirect, hall⟩⟩
      rintro ⟨-, -, before, after, hsplit, -, hhealthy⟩
      exact hhealthy (hall relay (by simp [hsplit]))
    | some found =>
      obtain ⟨hfound, before, after, hsplit, hbefore⟩ := List.find?_eq_some_iff_append.mp hfind
      have hbefore : ∀ other ∈ before, healthOf (failures (.relayNode other)) = .unhealthy := by
        simpa using hbefore
      rw [bne_iff_ne] at hfound
      refine ⟨iff_of_false (by simp) hdirect, fun target relay => ?_, iff_of_false (by simp) ?_⟩
      · rw [Option.map_some, Option.some_inj, NodeRoute.relayNode.injEq]
        constructor
        · rintro ⟨rfl, rfl⟩
          exact ⟨rfl, hdirect, before, after, hsplit, hbefore, hfound⟩
        · rintro ⟨rfl, -, before', after', hsplit', hbefore', hhealthy⟩
          -- the first relay that is not unhealthy is the one that was found
          have hfirst : request.relayCandidates.find? (fun relay =>
              healthOf (failures (.relayNode relay)) != .unhealthy) = some relay :=
            List.find?_eq_some_iff_append.mpr ⟨bne_iff_ne.mpr hhealthy, before', after', hsplit',
              by simpa using hbefore'⟩
          rw [hfind] at hfirst
          exact ⟨rfl, Option.some.inj hfirst⟩
      · exact fun h => hfound (h.2 found (by simp [hsplit]))

/-- After any calls the health of an endpoint is that of its failures since its last success,
    whatever was recorded on other endpoints, and routes are selected by it. -/
theorem router_decides_by_failures (calls : List RouteCall) :
    (∀ endpoint, (recorded calls).routeHealth endpoint =
      healthOf (failuresSince endpoint calls) ∧
      (recorded calls).routeHealth endpoint =
        (recorded (callsOn endpoint calls)).routeHealth endpoint) ∧
    ∀ request, SelectsByFailures (fun endpoint => failuresSince endpoint calls) request
      ((recorded calls).selectRoute request) := by
  refine ⟨fun endpoint => ⟨routeHealth_recorded endpoint calls, ?_⟩,
    selectRoute_selects _ (fun endpoint => routeHealth_recorded endpoint calls)⟩
  rw [routeHealth_recorded, routeHealth_recorded, failuresSince, failuresSince, callsOn, callsOn,
    List.filter_filter]
  simp

end Sunbolt.Control
