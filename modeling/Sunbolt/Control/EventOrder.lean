/- Module: Sunbolt/Control/EventOrder
   scope: sunbolt-control/src/terminal/mod.rs
   digest: A handler records an output of its node right after it has taken it, and broadcasts it
     right after it has recorded it. -/

import Sunbolt.Control.PlainCalls

set_option autoImplicit false
set_option relaxedAutoImplicit false

namespace Sunbolt.Control

open Sunbolt.Library
open Sunbolt.Protocol (TerminalSessionId TerminalServerMessage AgentTerminalEvent)

/-- How far a handler has come with an output of its node. -/
inductive OutputStage where
  | taken (sessionId : TerminalSessionId) (data : String)
  | recorded (message : TerminalServerMessage)

def outputStage (x : Interaction Action Reply) : Option OutputStage :=
  match x with
  | ⟨.agent (.selectEvent _), .event (some (.terminalOutput sessionId data))⟩ =>
    some (.taken sessionId data)
  | ⟨.terminal (.recordOutput sessionId data), recorded⟩ =>
    let message := recorded.getD (.output sessionId 0 data)
    if message.isOutput then some (.recorded message) else none
  | _ => none

/-- The output the last call was about. -/
def handling (past : Past) : Option OutputStage := past.getLast?.bind outputStage

/-- An output that was taken is recorded; one that was recorded is broadcast on the channel of
    the handler's own session. -/
def handlesNext (past : Past) (action : Action) : Prop :=
  ∀ stage, handling past = some stage →
    match stage with
    | .taken sessionId data => action = .terminal (.recordOutput sessionId data)
    | .recorded message => ∃ sessionId channel output,
      Opened past sessionId (.remote channel) output ∧
        action = .terminal (.broadcast output message)

def eventAct : Stage → Past → Action → Prop
  | .terminalSocket _ => handlesNext
  | _ => fun _ _ => True

def eventHead : Stage → Stage → Past → Prop
  | .terminalSocket _, _, past => handling past = none
  | _, _, _ => True

/-- How the handlers pass on the outputs of their nodes. -/
def eventOrder : Discipline Action Reply Stage := ⟨eventAct, eventHead, fun _ _ => True⟩

/-- The calls that are about no output of a node. -/
def isAside : Action → Bool
  | .agent (.selectEvent _) => false
  | .terminal (.recordOutput ..) => false
  | _ => true

def Aside (action : Action) : Prop := isAside action = true

theorem outputStage_of_aside {x : Interaction Action Reply} (h : isAside x.action = true) :
    outputStage x = none := by
  unfold outputStage
  split
  · cases h
  · cases h
  · rfl

@[simp] theorem handling_nil : handling [] = none := rfl

@[simp] theorem handling_append_one (past : Past) (x : Interaction Action Reply) :
    handling (past ++ [x]) = outputStage x := by
  simp [handling]

theorem handling_append {past extra : Past} (h : handling past = none)
    (aside : ∀ x ∈ extra, isAside x.action = true) : handling (past ++ extra) = none := by
  rcases List.eq_nil_or_concat extra with rfl | ⟨earlier, last, rfl⟩
  · rwa [List.append_nil]
  · rw [List.concat_eq_append, ← List.append_assoc, handling_append_one]
    exact outputStage_of_aside (aside last (by simp))

section Bodies

attribute [local simp] terminal agent node host Program.perform Aside isAside Plain isPlain
  sendIgnored sendError record auditTerminalDetached detachDisconnected sessionIdMatches runIf
  recordRouteSelected recordRouteFailed

variable {actorEmail : String} {past : Past}

private theorem aside_of_plain {α : Type} {p : Handler α} (h : p.Each Plain (fun _ => True)) :
    p.Each Aside (fun _ => True) := by
  refine h.imp (fun action plain => ?_)
  change isAside action = true
  unfold isAside
  split
  · exact plain
  · exact plain
  · rfl

/-- A handler that is between two outputs stays so over calls that are about none. -/
private theorem all_of_aside {α : Type} {p : Handler α} (h : handling past = none)
    (aside : p.Each Aside (fun _ => True)) :
    p.All handlesNext past (fun later _ => handling later = none) := by
  refine aside.all (fun extra action hextra _ stage hstage => ?_)
    (fun extra _ hextra _ => handling_append h hextra)
  rw [handling_append h hextra] at hstage
  cases hstage

private theorem aside_localAttachedLoop (config : TerminalSessionConfig)
    (attachment : LocalAttachment) :
    (localAttachedLoop config attachment).Each Aside (fun _ => True) := by
  refine Program.Each.then (by simp) (fun wake => ?_)
  match wake with
  | .output .lagged next => simp
  | .output .closed next => exact aside_of_plain (plain_leaveLocalSession attachment)
  | .output (.value output) next =>
    refine aside_of_plain (Program.Each.then (by simp) (fun _ => ?_))
    refine Program.Each.then (by simp) (fun _ => ?_)
    refine Program.Each.then (plain_noteStreamError _ _) (fun noted => ?_)
    simp [plain_leaveLocalSession]
  | .incoming (some message) =>
    refine aside_of_plain (Program.Each.then (by simp) (fun _ => ?_))
    exact Program.Each.then (plain_handleClientFrame ..) (fun goes => by
      simp [plain_leaveLocalSession])
  | .incoming none => exact aside_of_plain (by simp [plain_leaveLocalSession])
  | .idleCheck => exact aside_of_plain (by simp [expireLocalSession, plain_leaveLocalSession])

private theorem aside_remoteAttachedLoop (attachment : RemoteAttachment) :
    (remoteAttachedLoop attachment).Each Aside (fun _ => True) := by
  refine Program.Each.then (by simp) (fun wake => ?_)
  match wake with
  | .output .lagged next => simp
  | .output .closed next => simp
  | .output (.value output) next => simp
  | .incoming (some message) =>
    refine aside_of_plain (Program.Each.then (by simp) (fun _ => ?_))
    exact Program.Each.then (plain_handleRemoteClientFrame ..) (fun goes => by simp)
  | .incoming none => simp
  | .idleCheck => simp

/-- What a handler makes of the message of an event. -/
private def forwardEvent (opening : RemoteOpening) (message : TerminalServerMessage) :
    Handler (Option Stage) := do
  runIf message.isStarted (markOpened opening)
  let opening := { opening with
    terminalOpened := opening.terminalOpened || message.isStarted
    terminalFailed := opening.terminalFailed || message.isError }
  runIf (!message.isOutput) (terminal (.rememberServerMessage message))
  terminal (.broadcast opening.output message)
  let sent : Bool ← host (.send message)
  if !sent then
    detachDisconnected opening.actorEmail opening.sessionId
    leaveRemoteSession opening
  else if message.isExited then
    terminal (.remove opening.sessionId)
    leaveRemoteSession opening
  else
    return some (.remoteOpened opening)

private theorem handleAgentEvent_eq (opening : RemoteOpening) (event : AgentTerminalEvent) :
    handleAgentEvent opening event = agentEventToBrowserMessage event opening.nodeId
      opening.connection.terminalTransportStatus >>= forwardEvent opening := rfl

private theorem plain_forwardEvent (opening : RemoteOpening) (message : TerminalServerMessage) :
    (forwardEvent opening message).Each Plain (fun _ => True) := by
  simp [forwardEvent, markOpened, plain_leaveRemoteSession]

private theorem isStarted_of_isOutput {message : TerminalServerMessage}
    (h : message.isOutput = true) : message.isStarted = false := by
  cases message with
  | output sessionId sequence data => rfl
  | _ => cases h

/-- An output that has been recorded is broadcast first of all. -/
private theorem handles_forwardEvent {opening : RemoteOpening} {message : TerminalServerMessage}
    (opened : Opened past opening.sessionId (.remote opening.connection.channel) opening.output)
    (houtput : message.isOutput = true) (recorded : handling past = some (.recorded message)) :
    (forwardEvent opening message).All handlesNext past
      (fun later _ => handling later = none) := by
  simp only [forwardEvent, isStarted_of_isOutput houtput, houtput, runIf, Bool.not_true,
    Bool.false_eq_true, if_false]
  change (terminal (.broadcast opening.output message) >>= fun _ => _).All _ _ _
  rw [Program.all_bind]
  refine ⟨fun stage hstage => ?_, fun _ => all_of_aside (handling_append_one ..) ?_⟩
  · rw [recorded] at hstage
    cases hstage
    exact ⟨_, _, _, opened, rfl⟩
  · exact aside_of_plain (by simp [plain_leaveRemoteSession])

private theorem handles_handleAgentEvent {opening : RemoteOpening} {event : AgentTerminalEvent}
    (opened : Opened past opening.sessionId (.remote opening.connection.channel) opening.output)
    (took : handling past =
      outputStage ⟨.agent (.selectEvent opening.connection.channel), .event (some event)⟩) :
    (handleAgentEvent opening event).All handlesNext past
      (fun later _ => handling later = none) := by
  rw [handleAgentEvent_eq, Program.all_bind]
  cases event with
  | terminalOutput sessionId data =>
    refine ⟨fun stage hstage => ?_, fun recorded => ?_⟩
    · rw [took] at hstage
      cases hstage
      rfl
    have later := opened.later (List.prefix_append past
      [⟨.terminal (.recordOutput sessionId data), recorded⟩])
    change (forwardEvent opening (recorded.getD (.output sessionId 0 data))).All _ _ _
    cases houtput : (recorded.getD (.output sessionId 0 data)).isOutput with
    | true => exact handles_forwardEvent later houtput (by simp [outputStage, houtput])
    | false =>
      refine all_of_aside ?_ (aside_of_plain (plain_forwardEvent _ _))
      simp [outputStage, houtput]
  | terminalStarted sessionId size =>
    exact all_of_aside took (aside_of_plain (plain_forwardEvent _ _))
  | terminalExited sessionId exit =>
    exact all_of_aside took (aside_of_plain (plain_forwardEvent _ _))
  | terminalError sessionId error =>
    exact all_of_aside took (aside_of_plain (plain_forwardEvent _ _))

private theorem handles_remoteOpenedLoop {opening : RemoteOpening} (idle : handling past = none)
    (opened : Opened past opening.sessionId (.remote opening.connection.channel)
      opening.output) :
    (remoteOpenedLoop opening).All handlesNext past (fun later _ => handling later = none) := by
  rw [remoteOpenedLoop, Program.all_bind]
  refine ⟨fun stage hstage => ?_, fun wake => ?_⟩
  · rw [idle] at hstage
    cases hstage
  have woken := opened.later (List.prefix_append past
    [⟨.agent (.selectEvent opening.connection.channel), wake⟩])
  rw [Program.all_done]
  cases wake with
  | event event =>
    cases event with
    | none =>
      refine all_of_aside (by simp [outputStage]) (aside_of_plain ?_)
      exact Program.Each.then (by simp) (fun _ => plain_leaveRemoteSession _)
    | some event => exact handles_handleAgentEvent woken (handling_append_one ..)
  | incoming message =>
    cases message with
    | none =>
      refine all_of_aside (by simp [outputStage]) (aside_of_plain ?_)
      simp [plain_leaveRemoteSession]
    | some message =>
      refine all_of_aside (by simp [outputStage]) (aside_of_plain ?_)
      exact Program.Each.then (plain_handleRemoteClientFrame _ _ _ _)
        (fun goes => by simp [plain_leaveRemoteSession])

private theorem handles_eventBody {config : TerminalSessionConfig} {stage : Stage}
    (known : browserHead actorEmail past stage) (idle : handling past = none) :
    (body config stage).All handlesNext past (fun later _ => handling later = none) := by
  cases stage with
  | terminalSocket actor =>
    exact all_of_aside idle (aside_of_plain (plain_handleTerminalSocket config actor))
  | localAttached attachment => exact all_of_aside idle (aside_localAttachedLoop config attachment)
  | remoteOpened opening => exact handles_remoteOpenedLoop idle known.2.1
  | remoteAttached attachment => exact all_of_aside idle (aside_remoteAttachedLoop attachment)
  | _ => cases known

end Bodies

/-- Every run of the control plane keeps this order along with the order of its calls. -/
theorem eventOrder_sound (config : TerminalSessionConfig) :
    (controlOrder.and eventOrder).Sound (controlPlane config) entry := by
  refine (controlOrder_sound config).and ?_ ?_ ?_
  · intro e
    cases e with
    | browser actorEmail => rfl
    | _ => trivial
  · exact fun hout => head_of_spawned hout (fun _ _ _ => trivial)
  · intro origin stage past known head
    cases origin with
    | terminalSocket actorEmail =>
      refine (handles_eventBody known head).mono (fun later next hnext => ?_)
      cases next with
      | none => trivial
      | some stage => exact hnext
    | _ =>
      refine Program.all_of_forall (fun _ _ => trivial) (fun later next => ?_)
      cases next <;> trivial

section Runs

variable {config : TerminalSessionConfig} {nodes : NodeEnrollmentState}
  {history front back : History} {pool : ControlPool} {e : ControlEvent}

theorem Reaches.eventAct (h : Reaches config nodes history pool)
    (hsplit : history = front ++ e :: back) : eventAct e.origin (own e.task front) e.action :=
  (Service.Reaches.act (eventOrder_sound config) h hsplit).2

end Runs

end Sunbolt.Control
