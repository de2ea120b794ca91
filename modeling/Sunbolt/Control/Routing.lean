/- Module: Sunbolt/Control/Routing
   scope: sunbolt-control/src/routing.rs
   digest: Route selection between a direct agent and relay nodes, by recorded health. -/

import Sunbolt.Library.Table
import Sunbolt.Protocol.Messages

set_option autoImplicit false
set_option relaxedAutoImplicit false

namespace Sunbolt.Control

open Sunbolt.Library (Table)
open Sunbolt.Protocol (NodeId)

structure RouteRequest where
  targetNodeId : NodeId
  directAgentConnected : Bool
  relayCandidates : List NodeId
  deriving DecidableEq, Repr

inductive RouteEndpoint where
  | directAgent (targetNodeId : NodeId)
  | relayNode (relayNodeId : NodeId)
  deriving DecidableEq, Repr

inductive NodeRoute where
  | directAgent (targetNodeId : NodeId)
  | relayNode (targetNodeId relayNodeId : NodeId)
  deriving DecidableEq, Repr

namespace NodeRoute

def endpoint : NodeRoute → RouteEndpoint
  | .directAgent targetNodeId => .directAgent targetNodeId
  | .relayNode _ relayNodeId => .relayNode relayNodeId

def routeId : NodeRoute → String
  | .directAgent targetNodeId => "direct-agent:" ++ targetNodeId.val
  | .relayNode targetNodeId relayNodeId =>
    "relay:" ++ relayNodeId.val ++ ":" ++ targetNodeId.val

end NodeRoute

inductive RouteHealth where
  | healthy
  | degraded
  | unhealthy
  deriving DecidableEq, Repr

structure RouteHealthRecord where
  consecutiveFailures : Nat
  deriving DecidableEq, Repr

namespace RouteHealthRecord

def unhealthyAfter : Nat := 3

def recordFailure (record : RouteHealthRecord) : RouteHealthRecord :=
  ⟨min (record.consecutiveFailures + 1) 255⟩

def health (record : RouteHealthRecord) : RouteHealth :=
  if record.consecutiveFailures = 0 then .healthy
  else if unhealthyAfter ≤ record.consecutiveFailures then .unhealthy
  else .degraded

end RouteHealthRecord

structure InMemoryNodeRouter where
  health : Table RouteEndpoint RouteHealthRecord

namespace InMemoryNodeRouter

variable (router : InMemoryNodeRouter)

def routeHealth (endpoint : RouteEndpoint) : RouteHealth :=
  ((router.health.lookup endpoint).map RouteHealthRecord.health).getD .healthy

def selectRoute (request : RouteRequest) : Option NodeRoute :=
  if request.directAgentConnected &&
      router.routeHealth (.directAgent request.targetNodeId) != .unhealthy then
    some (.directAgent request.targetNodeId)
  else
    (request.relayCandidates.find? (fun relay =>
      router.routeHealth (.relayNode relay) != .unhealthy)).map
        (NodeRoute.relayNode request.targetNodeId)

def recordSuccess (route : NodeRoute) : InMemoryNodeRouter :=
  ⟨AList.insert route.endpoint ⟨0⟩ router.health⟩

def recordFailure (route : NodeRoute) : InMemoryNodeRouter :=
  ⟨AList.insert route.endpoint
    (((router.health.lookup route.endpoint).map RouteHealthRecord.recordFailure).getD ⟨1⟩)
    router.health⟩

/-- The failures recorded on an endpoint since its last success, as far as they are counted. -/
def failures (endpoint : RouteEndpoint) : Nat :=
  ((router.health.lookup endpoint).map RouteHealthRecord.consecutiveFailures).getD 0

theorem routeHealth_eq_unhealthy (endpoint : RouteEndpoint) :
    router.routeHealth endpoint = .unhealthy ↔
      RouteHealthRecord.unhealthyAfter ≤ router.failures endpoint := by
  rw [routeHealth, failures, RouteHealthRecord.unhealthyAfter]
  cases router.health.lookup endpoint with
  | none => simp
  | some record =>
    rw [Option.map_some, Option.map_some, Option.getD_some, Option.getD_some,
      RouteHealthRecord.health, RouteHealthRecord.unhealthyAfter]
    split_ifs with hzero hmany
    · simp [hzero]
    · simp [hmany]
    · simp [hmany]

/-- The direct route is selected when an agent is connected and its endpoint is not unhealthy. -/
theorem selectRoute_eq_direct (request : RouteRequest) :
    router.selectRoute request = some (.directAgent request.targetNodeId) ↔
      request.directAgentConnected = true ∧
        router.failures (.directAgent request.targetNodeId) < RouteHealthRecord.unhealthyAfter := by
  have hhealth := router.routeHealth_eq_unhealthy (.directAgent request.targetNodeId)
  rw [selectRoute]
  split_ifs with hdirect
  · rw [Bool.and_eq_true, bne_iff_ne, Ne, hhealth, Nat.not_le] at hdirect
    exact iff_of_true rfl hdirect
  · rw [Bool.and_eq_true, bne_iff_ne, Ne, hhealth, Nat.not_le] at hdirect
    refine iff_of_false ?_ hdirect
    rw [Option.map_eq_some_iff]
    rintro ⟨relay, -, heq⟩
    cases heq

theorem failures_recordSuccess (route : NodeRoute) (endpoint : RouteEndpoint) :
    (router.recordSuccess route).failures endpoint =
      if route.endpoint = endpoint then 0 else router.failures endpoint := by
  rw [failures, recordSuccess, Table.lookup_insert]
  split_ifs with hsame hsame' hsame'
  · rfl
  · exact absurd hsame.symm hsame'
  · exact absurd hsame'.symm hsame
  · rfl

theorem failures_recordFailure (route : NodeRoute) (endpoint : RouteEndpoint) :
    (router.recordFailure route).failures endpoint =
      if route.endpoint = endpoint then min (router.failures endpoint + 1) 255
      else router.failures endpoint := by
  rw [failures, recordFailure, Table.lookup_insert]
  by_cases hsame : endpoint = route.endpoint
  · rw [if_pos hsame, if_pos hsame.symm, failures, hsame]
    cases router.health.lookup route.endpoint <;> rfl
  · rw [if_neg hsame, if_neg (Ne.symm hsame)]
    rfl

end InMemoryNodeRouter

end Sunbolt.Control
