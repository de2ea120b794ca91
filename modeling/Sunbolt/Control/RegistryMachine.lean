/- Module: Sunbolt/Control/RegistryMachine
   scope: sunbolt-control/src/terminal/session_registry.rs
   digest: Runs of the registry's own operations, called in any order with any arguments. -/

import Sunbolt.Library.Machine
import Sunbolt.Control.SessionRegistry

set_option autoImplicit false
set_option relaxedAutoImplicit false

namespace Sunbolt.Control

open Sunbolt.Library (Table Machine)
open Sunbolt.Protocol (TerminalSessionId TerminalReconnectToken TerminalServerMessage)
open Sunbolt.Terminal (TerminalSessionState)

/-- The operations that change the registry, with the times and tokens they draw. -/
inductive RegistryCall where
  | insert (request : TerminalSessionInsert) (now : Nat) (token : TerminalReconnectToken)
  | setState (sessionId : TerminalSessionId) (state : TerminalSessionState)
  | detach (sessionId : TerminalSessionId)
  | reattach (sessionId : TerminalSessionId) (reconnectToken : TerminalReconnectToken)
      (actorEmail : String) (now : Nat) (token : TerminalReconnectToken)
  | touch (sessionId : TerminalSessionId) (now : Nat)
  | setSize (sessionId : TerminalSessionId) (size : ProtocolTerminalSize)
  | recordOutput (sessionId : TerminalSessionId) (data : String)
  | rememberServerMessage (message : TerminalServerMessage)
  | terminate (sessionId : TerminalSessionId)
  | remove (sessionId : TerminalSessionId)
  | drainExpired (maxDuration detachedIdleTimeout now : Nat)
  | closeSessionsForNode (nodeId : String)

inductive RegistryReply where
  | done
  | inserted (result : Except SessionLimitError Nat)
  | reattached (target : Option TerminalReattachTarget)
  | recorded (message : Option TerminalServerMessage)
  | terminated (backend : Option TerminalBackend)
  | removed (sessions : List RemovedSession)

namespace TerminalSessionRegistry

def empty : TerminalSessionRegistry := ⟨∅, [], []⟩

variable (registry : TerminalSessionRegistry)

def serve : RegistryCall → TerminalSessionRegistry × RegistryReply
  | .insert request now token =>
    ((registry.insertBackend request now token).1,
      .inserted (registry.insertBackend request now token).2)
  | .setState sessionId state => (registry.setState sessionId state, .done)
  | .detach sessionId => (registry.detach sessionId, .done)
  | .reattach sessionId reconnectToken actorEmail now token =>
    ((registry.reattach sessionId reconnectToken actorEmail now token).1,
      .reattached (registry.reattach sessionId reconnectToken actorEmail now token).2)
  | .touch sessionId now => (registry.touch sessionId now, .done)
  | .setSize sessionId size => (registry.setSize sessionId size, .done)
  | .recordOutput sessionId data =>
    ((registry.recordOutput sessionId data).1, .recorded (registry.recordOutput sessionId data).2)
  | .rememberServerMessage message => (registry.rememberServerMessage message, .done)
  | .terminate sessionId =>
    ((registry.terminate sessionId).1, .terminated (registry.terminate sessionId).2)
  | .remove sessionId => (registry.remove sessionId, .done)
  | .drainExpired maxDuration detachedIdleTimeout now =>
    ((registry.drainExpired maxDuration detachedIdleTimeout now).1,
      .removed (registry.drainExpired maxDuration detachedIdleTimeout now).2)
  | .closeSessionsForNode nodeId =>
    ((registry.closeSessionsForNode nodeId).1, .removed (registry.closeSessionsForNode nodeId).2)

end TerminalSessionRegistry

/-- One operation of a run, between the registries it found and left. -/
structure RegistryEvent where
  call : RegistryCall
  reply : RegistryReply
  before : TerminalSessionRegistry
  after : TerminalSessionRegistry

def TerminalSessionRegistry.event (registry : TerminalSessionRegistry) (call : RegistryCall) :
    RegistryEvent :=
  ⟨call, (registry.serve call).2, registry, (registry.serve call).1⟩

def registryMachine : Machine TerminalSessionRegistry RegistryCall RegistryEvent where
  step registry call := some ((registry.serve call).1, [registry.event call])

/-- The operations of a run that starts with no session. -/
def RegistryReaches (history : List RegistryEvent) (registry : TerminalSessionRegistry) : Prop :=
  ∃ calls, registryMachine.run .empty calls = some (registry, history)

theorem RegistryReaches.invariant {I : List RegistryEvent → TerminalSessionRegistry → Prop}
    (initial : I [] .empty)
    (preserved : ∀ history registry call, I history registry →
      I (history ++ [registry.event call]) (registry.serve call).1)
    {history : List RegistryEvent} {registry : TerminalSessionRegistry}
    (h : RegistryReaches history registry) : I history registry := by
  obtain ⟨calls, hrun⟩ := h
  refine Machine.invariant initial ?_ hrun
  intro history registry call next now ih hstep
  simp only [registryMachine, Option.some.injEq, Prod.mk.injEq] at hstep
  obtain ⟨rfl, rfl⟩ := hstep
  exact preserved history registry call ih

/-- Each event of a run is the one of its call where the run has come to. -/
theorem RegistryReaches.front {history front back : List RegistryEvent} {e : RegistryEvent}
    {registry : TerminalSessionRegistry} (h : RegistryReaches history registry)
    (hsplit : history = front ++ e :: back) :
    RegistryReaches front e.before ∧ e = e.before.event e.call := by
  obtain ⟨calls, hrun⟩ := h
  induction calls using List.reverseRecOn generalizing registry history back with
  | nil =>
    simp only [Machine.run_nil, Option.some.injEq, Prod.mk.injEq] at hrun
    obtain ⟨-, rfl⟩ := hrun
    simp at hsplit
  | append_singleton calls call ih =>
    obtain ⟨middle, early, late, hearly, hstep, rfl⟩ := (Machine.run_snoc _).mp hrun
    simp only [registryMachine, Option.some.injEq, Prod.mk.injEq] at hstep
    obtain ⟨rfl, rfl⟩ := hstep
    rcases List.eq_nil_or_concat back with rfl | ⟨rest, last, rfl⟩
    · obtain ⟨rfl, heq⟩ := List.append_inj' hsplit rfl
      cases heq
      exact ⟨⟨calls, hearly⟩, rfl⟩
    · rw [List.concat_eq_append, ← List.cons_append, ← List.append_assoc] at hsplit
      obtain ⟨rfl, -⟩ := List.append_inj' hsplit rfl
      exact ih rfl hearly

theorem RegistryReaches.event {history : List RegistryEvent} {e : RegistryEvent}
    {registry : TerminalSessionRegistry} (h : RegistryReaches history registry) (he : e ∈ history) :
    e = e.before.event e.call := by
  obtain ⟨front, back, hsplit⟩ := List.append_of_mem he
  exact (h.front hsplit).2

theorem map_call_of_run {calls : List RegistryCall} {history : List RegistryEvent}
    {start registry : TerminalSessionRegistry}
    (h : registryMachine.run start calls = some (registry, history)) :
    history.map (·.call) = calls := by
  induction calls generalizing start history with
  | nil =>
    simp only [Machine.run_nil, Option.some.injEq, Prod.mk.injEq] at h
    rw [← h.2, List.map_nil]
  | cons call calls ih =>
    obtain ⟨next, now, later, hstep, hrun, rfl⟩ := (Machine.run_cons _).mp h
    simp only [registryMachine, Option.some.injEq, Prod.mk.injEq] at hstep
    rw [← hstep.2, List.map_append, ih hrun]
    rfl

/-- How an operation goes on with a session: its user and its node stay, and a session that is
    over stays so. -/
structure Continues (before after : TrackedTerminalSession) : Prop where
  actorEmail : after.actorEmail = before.actorEmail
  nodeId : after.nodeId = before.nodeId
  isLive : after.isLive = true → before.isLive = true

theorem TrackedTerminalSession.continues_moveTo (session : TrackedTerminalSession)
    (state : TerminalSessionState) : Continues session (session.moveTo state) := by
  rw [moveTo]
  split_ifs with hskip
  · exact ⟨rfl, rfl, id⟩
  · refine ⟨rfl, rfl, ?_⟩
    simp only [Bool.and_eq_true, Bool.not_eq_true', decide_eq_true_eq, not_and] at hskip
    cases hstate : session.state <;> cases state <;>
      simp_all [isLive, TerminalSessionState.canTransitionTo, TerminalSessionState.isTerminal]

end Sunbolt.Control
