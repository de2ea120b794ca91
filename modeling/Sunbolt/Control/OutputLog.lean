/- Module: Sunbolt/Control/OutputLog
   scope: sunbolt-control/src/terminal/session_registry.rs
   digest: What is sent on an output channel is what its receivers get. -/

import Sunbolt.Control.SessionLedger

set_option autoImplicit false
set_option relaxedAutoImplicit false

namespace Sunbolt.Control

open Sunbolt.Library
open Sunbolt.Protocol (TerminalSessionId TerminalServerMessage)

/-- What a call sends on an output channel. -/
def sentTo (output : Nat) (x : Interaction Action Reply) : List TerminalServerMessage :=
  match x with
  | ⟨.terminal (.broadcast named message), _⟩ => if named = output then [message] else []
  | _ => []

theorem mem_sentTo {output : Nat} {message : TerminalServerMessage}
    {x : Interaction Action Reply} (h : message ∈ sentTo output x) :
    x.action = .terminal (.broadcast output message) := by
  unfold sentTo at h
  split at h
  · split_ifs at h with hnamed
    · rw [hnamed, List.mem_singleton.mp h]
    · cases h
  · cases h

private theorem outputLog_eq {registry next : TerminalSessionRegistry}
    (h : next.outputs = registry.outputs) (output : Nat) :
    next.outputLog output = registry.outputLog output := by
  rw [TerminalSessionRegistry.outputLog, h, TerminalSessionRegistry.outputLog]

/-- A channel grows by what is sent on it, and by nothing else. -/
theorem AppStep.outputLog {task : Nat} {state next : AppState} {action : Action}
    {reply : Reply action} (step : AppStep task state action reply next) {output : Nat}
    (hlt : output < state.sessions.outputs.length) :
    next.sessions.outputLog output =
      state.sessions.outputLog output ++ sentTo output ⟨action, reply⟩ := by
  have same : ∀ {sessions : TerminalSessionRegistry},
      sessions.outputLog output = state.sessions.outputLog output →
      sessions.outputLog output = state.sessions.outputLog output ++ [] :=
    fun h => h.trans (List.append_nil _).symm
  cases step with
  | write hwrite =>
    cases hwrite with
    | insert request now token =>
      rcases state.sessions.insertBackend_cases request now token with ⟨error, heq⟩ | heq
      · exact same (outputLog_eq (by rw [heq]) output)
      · refine same ?_
        rw [heq]
        simp [TerminalSessionRegistry.outputLog, List.getElem?_append_left hlt]
    | reattach named reconnectToken actorEmail now token =>
      rcases state.sessions.reattach_cases named reconnectToken actorEmail now token with
        heq | ⟨tracked, -, -, -, -, heq⟩
      · exact same (outputLog_eq (by rw [heq]) output)
      · exact same (outputLog_eq (by rw [heq]; rfl) output)
    | rememberServerMessage message =>
      refine same (outputLog_eq ?_ output)
      rw [TerminalSessionRegistry.rememberServerMessage]
      split <;> rfl
    | terminate named => exact same (TerminalSessionRegistry.outputLog_terminate ..)
    | remove named => exact same (TerminalSessionRegistry.outputLog_remove ..)
    | drainExpired maxDuration idleTimeout now =>
      exact same (outputLog_eq (TerminalSessionRegistry.outputs_removeEach ..) output)
    | closeSessionsForNode nodeId =>
      exact same (outputLog_eq (TerminalSessionRegistry.outputs_removeEach ..) output)
    | broadcast named message =>
      exact state.sessions.outputLog_broadcast named message hlt
    | dropSender named => exact same (TerminalSessionRegistry.outputLog_dropSender ..)
    | _ => exact same (outputLog_eq rfl output)
  | read hread => cases hread <;> exact same rfl
  | _ => exact same rfl

/-- A value comes off the log at the receiver's position. -/
theorem AppStep.received {task : Nat} {state next : AppState} {output position after : Nat}
    {idleChecks : Bool} {message : TerminalServerMessage}
    (step : AppStep task state (.terminal (.selectAttached output position idleChecks))
      (.output (.value message) after) next) :
    (state.sessions.outputLog output)[position]? = some message ∧ after = position + 1 := by
  generalize hreply : AttachedWake.output (.value message) after = reply at step
  cases step with
  | write hwrite => cases hwrite
  | read hread =>
    cases hread with
    | selectOutput output position given idleChecks channel received found got =>
      cases hreply
      obtain ⟨hvalue, hafter⟩ := Broadcast.recv_value got
      exact ⟨by simpa [TerminalSessionRegistry.outputLog, found] using hvalue, hafter⟩
    | _ => cases hreply

end Sunbolt.Control
