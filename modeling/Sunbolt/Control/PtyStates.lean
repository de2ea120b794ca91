/- Module: Sunbolt/Control/PtyStates
   scope: sunbolt-terminal, sunbolt-control/src/terminal/session_registry.rs
   digest: What one call may do to a local PTY. -/

import Sunbolt.Control.Steps

set_option autoImplicit false
set_option relaxedAutoImplicit false

namespace Sunbolt.Control

open Sunbolt.Protocol (TerminalSessionId)
open Sunbolt.Terminal (TerminalSessionState TerminalExitStatus LocalPtySession ChildStatus)

theorem close_closed (session : LocalPtySession) : session.close.closed = true := by
  rw [LocalPtySession.close]
  split
  · assumption
  · rfl

theorem close_close (session : LocalPtySession) : session.close.close = session.close := by
  rw [LocalPtySession.close, if_pos (close_closed session)]

/-- Whoever is told of an exit takes the child. -/
theorem child_of_tryWaitExit {session : LocalPtySession} {status : ChildStatus}
    {exit : TerminalExitStatus} (h : (session.tryWaitExit status).2 = .ok (some exit)) :
    session.child = true ∧ (session.tryWaitExit status).1.child = false := by
  cases hchild : session.child with
  | false =>
    unfold LocalPtySession.tryWaitExit at h
    rw [if_neg (Bool.eq_false_iff.mp hchild)] at h
    cases h
  | true =>
    unfold LocalPtySession.tryWaitExit at h ⊢
    rw [if_pos hchild] at h ⊢
    cases status with
    | running => cases h
    | exited code => exact ⟨rfl, rfl⟩
    | unknown text => cases h

theorem child_of_waitExit {session after : LocalPtySession} {status : ChildStatus}
    {exit : TerminalExitStatus} (h : session.waitExit status = some (after, .ok (some exit))) :
    session.child = true ∧ after.child = false := by
  cases hchild : session.child with
  | false =>
    unfold LocalPtySession.waitExit at h
    rw [if_neg (Bool.eq_false_iff.mp hchild)] at h
    cases h
  | true =>
    unfold LocalPtySession.waitExit at h
    rw [if_pos hchild] at h
    cases status with
    | running => cases h
    | exited code =>
      cases h
      exact ⟨rfl, rfl⟩
    | unknown text => cases h

namespace TerminalSessionRegistry

/-- Some PTYs have been closed, and nothing else has happened to any. -/
structure Closes (registry next : TerminalSessionRegistry) : Prop where
  each : ∀ (pty : Nat) (session : LocalPtySession), registry.ptys[pty]? = some session →
    next.ptys[pty]? = some session ∨ next.ptys[pty]? = some session.close

variable {registry middle next : TerminalSessionRegistry}

theorem closes_of_ptys (same : next.ptys = registry.ptys) : registry.Closes next :=
  ⟨fun _ _ found => Or.inl (same ▸ found)⟩

theorem Closes.trans (first : registry.Closes middle) (second : middle.Closes next) :
    registry.Closes next := by
  constructor
  intro pty session found
  rcases first.each pty session found with hsame | hclosed
  · exact second.each pty session hsame
  · right
    rcases second.each pty session.close hclosed with hstays | hagain
    · exact hstays
    · rw [close_close] at hagain
      exact hagain

theorem closes_closePty (registry : TerminalSessionRegistry) (named : Nat) :
    registry.Closes (registry.closePty named) := by
  constructor
  intro pty session found
  rw [closePty, List.getElem?_modify, found]
  by_cases hnamed : named = pty
  · right
    simp [hnamed]
  · left
    simp [hnamed]

theorem closes_removeTracked (registry : TerminalSessionRegistry) (sessionId : TerminalSessionId) :
    registry.Closes (registry.removeTracked sessionId).1 := by
  rw [removeTracked]
  split
  · exact closes_of_ptys rfl
  · rename_i session _
    cases hbackend : session.backend with
    | remote commands => exact closes_of_ptys rfl
    | «local» pty =>
      have erased : registry.Closes
          { registry with sessions := AList.erase sessionId registry.sessions } :=
        closes_of_ptys rfl
      exact erased.trans (closes_closePty _ pty)

theorem closes_terminate (registry : TerminalSessionRegistry) (sessionId : TerminalSessionId) :
    registry.Closes (registry.terminate sessionId).1 := by
  have assigned : registry.Closes (registry.modify sessionId ({ · with state := .terminating })) :=
    closes_of_ptys rfl
  have removed := assigned.trans (closes_removeTracked _ sessionId)
  rw [terminate]
  split
  · rename_i heq
    rwa [heq] at removed
  · rename_i heq
    rw [heq] at removed
    exact removed.trans (closes_of_ptys rfl)

theorem closes_remove (registry : TerminalSessionRegistry) (sessionId : TerminalSessionId) :
    registry.Closes (registry.remove sessionId) := by
  have removed := closes_removeTracked registry sessionId
  rw [remove]
  split
  · rename_i heq
    rwa [heq] at removed
  · rename_i heq
    rw [heq] at removed
    exact removed.trans (closes_of_ptys rfl)

theorem closes_removeEach (state : TerminalSessionState) (ids : List TerminalSessionId)
    (registry : TerminalSessionRegistry) : registry.Closes (removeEach state ids registry).1 := by
  induction ids generalizing registry with
  | nil => exact closes_of_ptys rfl
  | cons first ids ih =>
    have assigned : registry.Closes (registry.modify first ({ · with state := state })) :=
      closes_of_ptys rfl
    have removed := assigned.trans (closes_removeTracked _ first)
    rw [removeEach]
    split
    · rename_i heq
      rw [heq] at removed
      exact removed.trans (ih _)
    · rename_i heq
      rw [heq] at removed
      exact removed.trans (ih _)

end TerminalSessionRegistry

/-- What one call may do to a PTY. -/
inductive PtyStep (session : LocalPtySession) : LocalPtySession → Prop
  | same : PtyStep session session
  | close : PtyStep session session.close
  | tryWait (status : ChildStatus) : PtyStep session (session.tryWaitExit status).1
  | wait (status : ChildStatus) (after : LocalPtySession)
      (result : Except Sunbolt.Terminal.TerminalError (Option TerminalExitStatus))
      (waited : session.waitExit status = some (after, result)) : PtyStep session after

namespace PtyStep

variable {session after : LocalPtySession}

/-- A PTY that is closed stays closed. -/
theorem closed (step : PtyStep session after) (h : session.closed = true) :
    after.closed = true := by
  cases step with
  | same => exact h
  | close => exact close_closed session
  | tryWait status =>
    unfold LocalPtySession.tryWaitExit
    split
    · split
      · exact h
      · rfl
      · exact h
    · exact h
  | wait status after result waited =>
    unfold LocalPtySession.waitExit at waited
    split at waited
    · split at waited
      · cases waited
      · cases waited
        rfl
      · cases waited
        exact h
    · cases waited
      exact h

/-- A child that has been taken stays taken. -/
theorem taken (step : PtyStep session after) (h : session.child = false) :
    after.child = false := by
  cases step with
  | same => exact h
  | close =>
    rw [LocalPtySession.close]
    split
    · exact h
    · rfl
  | tryWait status =>
    have gone : ¬session.child = true := Bool.eq_false_iff.mp h
    unfold LocalPtySession.tryWaitExit
    rw [if_neg gone]
    exact h
  | wait status after result waited =>
    have gone : ¬session.child = true := Bool.eq_false_iff.mp h
    unfold LocalPtySession.waitExit at waited
    rw [if_neg gone] at waited
    cases waited
    exact h

end PtyStep

section Steps

variable {registry next : TerminalSessionRegistry} {action : TerminalAction}
  {reply : TerminalReply action} {pty : Nat} {session : LocalPtySession}

private theorem ptyStep_of_closes (closes : registry.Closes next)
    (found : registry.ptys[pty]? = some session) :
    ∃ after, next.ptys[pty]? = some after ∧ PtyStep session after := by
  rcases closes.each pty session found with hsame | hclosed
  · exact ⟨session, hsame, .same⟩
  · exact ⟨session.close, hclosed, .close⟩

private theorem ptyStep_of_set {named : Nat} {shell after : LocalPtySession}
    (found : registry.ptys[pty]? = some session) (there : registry.ptys[named]? = some shell)
    (step : PtyStep shell after) :
    ∃ left, (registry.ptys.set named after)[pty]? = some left ∧ PtyStep session left := by
  by_cases hnamed : named = pty
  · subst hnamed
    obtain rfl := Option.some.inj (found.symm.trans there)
    obtain ⟨hlt, -⟩ := List.getElem?_eq_some_iff.mp found
    exact ⟨after, List.getElem?_set_self hlt, step⟩
  · refine ⟨session, ?_, .same⟩
    rw [List.getElem?_set_ne hnamed]
    exact found

/-- A call leaves a PTY as it is, closes it, or asks for the exit of its child. -/
theorem TerminalWrite.ptyStep (write : TerminalWrite registry action reply next)
    (found : registry.ptys[pty]? = some session) :
    ∃ after, next.ptys[pty]? = some after ∧ PtyStep session after := by
  have same : ∀ {sessions : TerminalSessionRegistry}, sessions.ptys = registry.ptys →
      ∃ after, sessions.ptys[pty]? = some after ∧ PtyStep session after :=
    fun hptys => ptyStep_of_closes (TerminalSessionRegistry.closes_of_ptys hptys) found
  cases write with
  | insert request now token =>
    rcases registry.insertBackend_cases request now token with ⟨error, heq⟩ | heq
    · exact same (by rw [heq])
    · exact same (by rw [heq])
  | reattach named reconnectToken actorEmail now token =>
    rcases registry.reattach_cases named reconnectToken actorEmail now token with
      heq | ⟨tracked, -, -, -, -, heq⟩
    · exact same (by rw [heq])
    · refine same ?_
      rw [heq]
      rfl
  | rememberServerMessage message =>
    refine same ?_
    rw [TerminalSessionRegistry.rememberServerMessage]
    split <;> rfl
  | terminate named =>
    exact ptyStep_of_closes (TerminalSessionRegistry.closes_terminate ..) found
  | remove named => exact ptyStep_of_closes (TerminalSessionRegistry.closes_remove ..) found
  | drainExpired maxDuration idleTimeout now =>
    exact ptyStep_of_closes (TerminalSessionRegistry.closes_removeEach ..) found
  | closeSessionsForNode nodeId =>
    exact ptyStep_of_closes (TerminalSessionRegistry.closes_removeEach ..) found
  | spawnDefaultShell size =>
    obtain ⟨hlt, -⟩ := List.getElem?_eq_some_iff.mp found
    refine ⟨session, ?_, .same⟩
    rw [List.getElem?_append_left hlt]
    exact found
  | close named => exact ptyStep_of_closes (TerminalSessionRegistry.closes_closePty ..) found
  | tryWaitExit named shell status there =>
    exact ptyStep_of_set found there (.tryWait status)
  | waitExit named shell after status result there waited =>
    exact ptyStep_of_set found there (.wait status after result waited)
  | _ => exact same rfl

theorem AppStep.ptyStep {task : Nat} {state after : AppState} {action : Action}
    {reply : Reply action} (step : AppStep task state action reply after)
    (found : state.sessions.ptys[pty]? = some session) :
    ∃ left, after.sessions.ptys[pty]? = some left ∧ PtyStep session left := by
  cases step with
  | write hwrite => exact hwrite.ptyStep found
  | _ => exact ⟨session, found, .same⟩

end Steps

end Sunbolt.Control
