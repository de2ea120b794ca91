/- Module: Sunbolt/Control/ExitOrder
   scope: sunbolt-control/src/terminal/mod.rs
   digest: The reader of a session broadcasts an exit right after it is told of it, once. -/

import Sunbolt.Control.PtyStates
import Sunbolt.Control.ReaderLog

set_option autoImplicit false
set_option relaxedAutoImplicit false

namespace Sunbolt.Control

open Sunbolt.Library
open Sunbolt.Protocol (TerminalSessionId TerminalServerMessage)
open Sunbolt.Terminal (TerminalExitStatus LocalPtySession ChildStatus)

/-- The exit in the answer of a PTY that was asked for it. -/
def exitIn (answer : Except Sunbolt.Terminal.TerminalError (Option TerminalExitStatus)) :
    Option TerminalExitStatus :=
  match answer with
  | .ok exit => exit
  | .error _ => none

/-- The exit that this call tells of. -/
def toldOf (x : Interaction Action Reply) : Option TerminalExitStatus :=
  match x with
  | ⟨.terminal (.waitExit _), answer⟩ => exitIn answer
  | ⟨.terminal (.tryWaitExit _), answer⟩ => exitIn answer
  | _ => none

/-- The exit that the last call told of, which is still to be broadcast. -/
def telling (past : Past) : Option TerminalExitStatus := past.getLast?.bind toldOf

/-- The exits that the calls so far told of. -/
def told (past : Past) : List TerminalExitStatus := past.filterMap toldOf

/-- An exit that the reader was told of is broadcast at once, and it makes up no other one. -/
def reportsNext (sessionId : TerminalSessionId) (past : Past) (action : Action) : Prop :=
  (∀ exit, telling past = some exit →
    ∃ output, action = .terminal (.broadcast output (exitMessage sessionId exit))) ∧
  ∀ output message, action = .terminal (.broadcast output message) → message.isExited = true →
    pending past = some message ∨
      ∃ exit, telling past = some exit ∧ message = exitMessage sessionId exit

def exitAct : Stage → Past → Action → Prop
  | .ptyReader _ sessionId _ => reportsNext sessionId
  | _ => fun _ _ => True

def exitHead : Stage → Stage → Past → Prop
  | .ptyReader pty sessionId output, stage, past =>
    stage = .ptyReader pty sessionId output ∧ telling past = none
  | _, _, _ => True

/-- How the readers report the ends of their shells. -/
def exitOrder : Discipline Action Reply Stage := ⟨exitAct, exitHead, fun _ _ => True⟩

theorem exitIn_eq_some
    {answer : Except Sunbolt.Terminal.TerminalError (Option TerminalExitStatus)}
    {exit : TerminalExitStatus} : exitIn answer = some exit ↔ answer = .ok (some exit) := by
  cases answer with
  | ok found => simp [exitIn]
  | error error => simp [exitIn]

@[simp] theorem telling_append_one (past : Past) (x : Interaction Action Reply) :
    telling (past ++ [x]) = toldOf x := by
  simp [telling]

@[simp] theorem told_append_one (past : Past) (x : Interaction Action Reply) :
    told (past ++ [x]) = told past ++ (toldOf x).toList := by
  rw [told, List.filterMap_append]
  cases htold : toldOf x with
  | none => rw [List.filterMap_cons_none htold]; rfl
  | some exit => rw [List.filterMap_cons_some htold]; rfl

section Reader

variable {pty : Nat} {sessionId : TerminalSessionId} {output : Nat} {past : Past}

private def broadcasts : Action → Bool
  | .terminal (.broadcast ..) => true
  | _ => false

private theorem reportsNext_of_silent {action : Action} (quiet : telling past = none)
    (silent : broadcasts action = false) : reportsNext sessionId past action := by
  refine ⟨fun exit htelling => ?_, fun named message haction => ?_⟩
  · rw [quiet] at htelling
    cases htelling
  · rw [haction] at silent
    cases silent

private theorem exits_broadcastExit {otherwise : Handler Unit}
    {exit : Except Sunbolt.Terminal.TerminalError (Option TerminalExitStatus)}
    (some_exit : ∀ status, exit = .ok (some status) → telling past = some status)
    (other : (∀ status, exit ≠ .ok (some status)) →
      otherwise.All (reportsNext sessionId) past (fun later _ => telling later = none)) :
    (broadcastExit sessionId output exit otherwise).All (reportsNext sessionId) past
      (fun later _ => telling later = none) := by
  unfold broadcastExit
  split
  · rename_i status
    have htelling := some_exit status rfl
    refine ⟨⟨fun found hfound => ?_, fun named message haction _ => ?_⟩, fun _ => ?_⟩
    · rw [htelling] at hfound
      cases hfound
      exact ⟨output, rfl⟩
    · cases haction
      exact Or.inr ⟨status, htelling, rfl⟩
    · exact telling_append_one ..
  · rename_i hother
    exact other hother

private theorem exits_finishReader (quiet : telling past = none) :
    (finishReader pty sessionId output).All (reportsNext sessionId) past
      (fun _ next => next = none) := by
  rw [finishReader, Program.all_bind]
  refine ⟨reportsNext_of_silent quiet rfl, fun exit => ?_⟩
  rw [Program.all_done, Program.all_bind]
  refine (exits_broadcastExit (fun status hstatus => ?_) (fun none => ?_)).mono
    (fun later _ hlater => ⟨reportsNext_of_silent hlater rfl, fun _ => rfl⟩)
  · rw [telling_append_one, hstatus]
    rfl
  · rw [Program.all_pure, telling_append_one, Option.eq_none_iff_forall_ne_some]
    exact fun status hstatus => none status (exitIn_eq_some.mp hstatus)

private theorem exits_broadcastRecorded {message : Option TerminalServerMessage}
    (quiet : telling past = none) (recorded : pending past = message) :
    (broadcastRecorded output message).All (reportsNext sessionId) past
      (fun later _ => telling later = none) := by
  cases message with
  | none => exact quiet
  | some message =>
    refine ⟨⟨fun exit htelling => ?_, fun named given haction _ => ?_⟩, fun _ => ?_⟩
    · rw [quiet] at htelling
      cases htelling
    · cases haction
      exact Or.inl recorded
    · exact telling_append_one ..

private theorem exits_readPtyOutput (quiet : telling past = none) :
    (readPtyOutput pty sessionId output).All (reportsNext sessionId) past (fun later next =>
      ∀ stage ∈ next, stage = .ptyReader pty sessionId output ∧ telling later = none) := by
  have ends : ∀ {later : Past}, telling later = none →
      (finishReader pty sessionId output).All (reportsNext sessionId) later (fun last next =>
        ∀ stage ∈ next, stage = .ptyReader pty sessionId output ∧ telling last = none) := by
    intro later hlater
    refine (exits_finishReader hlater).mono (fun last next hnone => ?_)
    rw [hnone]
    nofun
  rw [readPtyOutput, Program.all_bind]
  refine ⟨reportsNext_of_silent quiet rfl, fun closed => ?_⟩
  rw [Program.all_done, Program.all_ite]
  refine ⟨fun _ => ends (telling_append_one ..), fun _ => ?_⟩
  rw [Program.all_bind]
  refine ⟨reportsNext_of_silent (telling_append_one ..) rfl, fun read => ?_⟩
  rw [Program.all_done]
  split
  · exact ends (telling_append_one ..)
  · exact ends (telling_append_one ..)
  · rw [Program.all_bind]
    refine ⟨reportsNext_of_silent (telling_append_one ..) rfl, fun message => ?_⟩
    rw [Program.all_done, Program.all_bind]
    refine (exits_broadcastRecorded ?_ ?_).mono (fun later _ hlater => ?_)
    · rw [telling_append_one]
      rfl
    · rw [pending_append_one]
      rfl
    rintro stage ⟨⟩
    exact ⟨rfl, hlater⟩
  · rename_i error _
    rw [Program.all_bind]
    refine ⟨reportsNext_of_silent (telling_append_one ..) rfl, fun exit => ?_⟩
    rw [Program.all_done, Program.all_bind]
    refine (exits_broadcastExit (fun status hstatus => ?_) (fun none => ?_)).mono
      (fun later _ hlater => ends hlater)
    · rw [telling_append_one, hstatus]
      rfl
    · refine ⟨⟨fun status htelling => ?_, fun named message haction hexited => ?_⟩, fun _ => ?_⟩
      · rw [telling_append_one] at htelling
        exact absurd (exitIn_eq_some.mp htelling) (none status)
      · cases haction
        cases hexited
      · exact telling_append_one ..

end Reader

/-- Every run of the control plane reports exits in this order. -/
theorem exitOrder_sound (config : TerminalSessionConfig) :
    exitOrder.Sound (controlPlane config) entry where
  entered e := by
    cases e <;> trivial
  spawned hout := head_of_spawned hout (fun _ _ _ => ⟨rfl, rfl⟩)
  body := by
    intro origin stage past head
    cases origin with
    | ptyReader pty sessionId output =>
      obtain ⟨rfl, quiet⟩ := head
      refine (exits_readPtyOutput quiet).mono (fun later next hnext => ?_)
      cases next with
      | none => trivial
      | some stage => exact hnext stage rfl
    | _ =>
      refine Program.all_of_forall (fun _ _ => trivial) (fun later next => ?_)
      cases next <;> trivial

/-- The exits sent to the receivers of a channel so far. -/
def TerminalSessionRegistry.sentExits (registry : TerminalSessionRegistry) (output : Nat) :
    List TerminalServerMessage :=
  (registry.outputLog output).filter (·.isExited)

section Runs

variable {config : TerminalSessionConfig} {nodes : NodeEnrollmentState}
  {history front back : History} {pool : ControlPool} {e : ControlEvent} {pty output : Nat}
  {sessionId : TerminalSessionId}

/-- Who is told of an exit takes the child of the PTY. -/
theorem AppStep.told {task : Nat} {state next : AppState} {action : Action}
    {reply : Reply action} {exit : TerminalExitStatus}
    (step : AppStep task state action reply next)
    (h : toldOf ⟨action, reply⟩ = some exit) :
    ∃ named session after, (action = .terminal (.waitExit named) ∨
        action = .terminal (.tryWaitExit named)) ∧
      state.sessions.ptys[named]? = some session ∧ session.child = true ∧
      next.sessions.ptys[named]? = some after ∧ after.child = false := by
  cases step with
  | write hwrite =>
    cases hwrite with
    | tryWaitExit named session status found =>
      obtain ⟨hlt, -⟩ := List.getElem?_eq_some_iff.mp found
      obtain ⟨hchild, htaken⟩ := child_of_tryWaitExit (exitIn_eq_some.mp h)
      exact ⟨named, session, _, Or.inr rfl, found, hchild, List.getElem?_set_self hlt, htaken⟩
    | waitExit named session after status result found waited =>
      obtain ⟨hlt, -⟩ := List.getElem?_eq_some_iff.mp found
      have hresult : result = .ok (some exit) := exitIn_eq_some.mp h
      obtain ⟨hchild, htaken⟩ := child_of_waitExit (hresult ▸ waited)
      exact ⟨named, session, after, Or.inl rfl, found, hchild, List.getElem?_set_self hlt, htaken⟩
    | _ => cases h
  | read hread => cases hread <;> cases h
  | agent hagent => cases h
  | node choice hnode => cases h
  | nextSessionId => cases h
  | audit input => cases h
  | host quiet => cases h

/-- The child of a PTY is taken by the first call that tells of its exit. -/
private theorem Reaches.toldOnce (h : Reaches config nodes history pool) :
    (told (readerCalls pty sessionId output history)).length ≤ 1 ∧
      (told (readerCalls pty sessionId output history) ≠ [] → ∃ session,
        pool.shared.sessions.ptys[pty]? = some session ∧ session.child = false) := by
  refine h.keeps (I := fun history state =>
    (told (readerCalls pty sessionId output history)).length ≤ 1 ∧
      (told (readerCalls pty sessionId output history) ≠ [] → ∃ session,
        state.sessions.ptys[pty]? = some session ∧ session.child = false)) ?_ ?_
  · exact ⟨Nat.zero_le 1, fun hsome => absurd rfl hsome⟩
  · rintro front e next ⟨hcount, htaken⟩
    have stays : (∃ session, e.before.sessions.ptys[pty]? = some session ∧
        session.child = false) → ∃ session, e.after.sessions.ptys[pty]? = some session ∧
        session.child = false := by
      rintro ⟨session, found, hchild⟩
      obtain ⟨after, hafter, step⟩ := next.step.ptyStep found
      exact ⟨after, hafter, step.taken hchild⟩
    by_cases reader : e.origin = .ptyReader pty sessionId output
    · rw [readerCalls_append_reader reader, told_append_one]
      cases htold : toldOf e.interaction with
      | none =>
        rw [Option.toList_none, List.append_nil]
        exact ⟨hcount, fun hsome => stays (htaken hsome)⟩
      | some exit =>
        obtain ⟨named, session, after, hasks, found, hchild, hafter, hgone⟩ :=
          next.step.told htold
        have hnamed : named = pty := by
          have act := next.act
          rw [reader] at act
          rcases hasks with haction | haction
          · rw [haction] at act
            exact act.1
          · rw [haction] at act
            exact act.1
        subst hnamed
        have hnone : told (readerCalls named sessionId output front) = [] := by
          by_contra hsome
          obtain ⟨earlier, hearlier, hfalse⟩ := htaken hsome
          rw [found] at hearlier
          cases hearlier
          rw [hchild] at hfalse
          cases hfalse
        rw [hnone]
        exact ⟨Nat.le_refl 1, fun _ => ⟨after, hafter, hgone⟩⟩
    · rw [readerCalls_append_other reader]
      exact ⟨hcount, fun hsome => stays (htaken hsome)⟩

/-- What a reader is about to broadcast is an output. -/
private theorem Reaches.pending_isOutput (h : Reaches config nodes history pool)
    {message : TerminalServerMessage}
    (hpending : pending (readerCalls pty sessionId output history) = some message) :
    message.isOutput = true := by
  obtain ⟨named, data, hrecord⟩ := recorded_of_pending hpending
  obtain ⟨e, he, heq⟩ := List.mem_map.mp hrecord
  have hmem := (List.mem_filter.mp he).1
  have hkept : message ∈ recordedFor named history := by
    refine List.mem_flatMap.mpr ⟨e, hmem, ?_⟩
    rw [heq, recordOf, if_pos rfl]
    exact List.mem_singleton_self message
  obtain ⟨-, sequence, text, rfl⟩ := h.mem_recordedFor hkept
  rfl

/-- One call of the reader: it broadcasts the exit that it was told of, and no other. -/
private theorem exits_of_reportsNext {past : Past} {action : Action} {reply : Reply action}
    (reports : reportsNext sessionId past action)
    (act : readerAct pty sessionId output past action)
    (outputs : ∀ message, pending past = some message → message.isOutput = true) :
    (sentTo output ⟨action, reply⟩).filter (·.isExited) =
      (telling past).toList.map (exitMessage sessionId) := by
  cases htelling : telling past with
  | some exit =>
    obtain ⟨named, rfl⟩ := reports.1 exit htelling
    rw [sentTo, if_pos act.1]
    rfl
  | none =>
    refine List.filter_eq_nil_iff.mpr (fun message hmem hexited => ?_)
    obtain rfl : action = .terminal (.broadcast output message) := mem_sentTo hmem
    rcases reports.2 output message rfl hexited with hpending | ⟨exit, hfound, -⟩
    · have houtput := outputs message hpending
      cases message with
      | exited given exit => cases houtput
      | _ => cases hexited
    · rw [htelling] at hfound
      cases hfound

/-- The exits on the channel of a local session are those that its reader was told of, but for
    the one it is about to broadcast. -/
theorem Reaches.exits_eq (h : Reaches config nodes history pool) {opener : Nat}
    {request : TerminalSessionInsert} (opened : OpenedBy history opener request output)
    (backend : request.backend = .local pty) :
    (told (readerCalls pty request.sessionId output history)).map
        (exitMessage request.sessionId) =
      pool.shared.sessions.sentExits output ++
        (telling (readerCalls pty request.sessionId output history)).toList.map
          (exitMessage request.sessionId) := by
  refine h.along (I := fun history state => OpenedBy history opener request output →
    (told (readerCalls pty request.sessionId output history)).map
        (exitMessage request.sessionId) =
      state.sessions.sentExits output ++
        (telling (readerCalls pty request.sessionId output history)).toList.map
          (exitMessage request.sessionId)) ?_ ?_ opened
  · exact fun hopened => absurd hopened List.not_mem_nil
  · intro front e pool hrun ih hopened
    have next := hrun.next rfl
    obtain ⟨before, hfront, -⟩ := hrun.front rfl
    rcases did_snoc.mp hopened with hold | ⟨-, heq⟩
    · have hlog : e.after.sessions.sentExits output = e.before.sessions.sentExits output ++
          (sentTo output e.interaction).filter (·.isExited) := by
        rw [TerminalSessionRegistry.sentExits, next.step.outputLog (next.ledger.channel hold),
          List.filter_append]
        rfl
      by_cases reader : e.origin = .ptyReader pty request.sessionId output
      · have act := next.act
        have reports := Service.Reaches.act (exitOrder_sound config) hrun
          (rfl : front ++ [e] = front ++ e :: [])
        rw [reader] at act reports
        change reportsNext request.sessionId (own e.task front) e.action at reports
        rw [hrun.own_reader rfl reader] at act reports
        have hsent : (sentTo output e.interaction).filter (·.isExited) = _ :=
          exits_of_reportsNext reports act (fun message => hfront.pending_isOutput)
        rw [readerCalls_append_reader reader, told_append_one, telling_append_one, List.map_append,
          ih hold, hlog, ← hsent]
      · have hnone : (sentTo output e.interaction).filter (·.isExited) = [] := by
          refine List.filter_eq_nil_iff.mpr (fun message hmem hexited => ?_)
          obtain ⟨named, error, rfl⟩ := next.sends_error hold backend reader hmem
          cases hexited
        rw [readerCalls_append_other reader, hlog, hnone, List.append_nil]
        exact ih hold
    · obtain ⟨task, origin, action, reply, before, after, spawned⟩ := e
      cases heq
      obtain ⟨hfresh, now, token, hafter⟩ := AppStep.opened next.step
      obtain ⟨-, hcalls⟩ := hrun.unused hopened hfresh pty
      change after.sessions = _ at hafter
      change output = before.sessions.outputs.length at hfresh
      have hother : origin ≠ .ptyReader pty request.sessionId output := by
        rintro rfl
        cases next.act
      have hempty : after.sessions.sentExits output = [] := by
        rw [TerminalSessionRegistry.sentExits, TerminalSessionRegistry.outputLog, hafter, hfresh]
        simp [Broadcast.opened]
      rw [readerCalls_append_other hother, hcalls]
      exact hempty.symm ▸ rfl

/-- At most one exit is ever broadcast for a local session. -/
theorem Reaches.sentExits_le (h : Reaches config nodes history pool) {opener : Nat}
    {request : TerminalSessionInsert} (opened : OpenedBy history opener request output)
    (backend : request.backend = .local pty) :
    (pool.shared.sessions.sentExits output).length ≤ 1 := by
  have hcount : (told (readerCalls pty request.sessionId output history)).length ≤ 1 :=
    h.toldOnce.1
  have hlength := congrArg List.length (h.exits_eq opened backend)
  rw [List.length_map, List.length_append] at hlength
  omega

end Runs

end Sunbolt.Control
