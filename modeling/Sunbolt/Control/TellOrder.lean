/- Module: Sunbolt/Control/TellOrder
   scope: sunbolt-control/src/terminal/mod.rs
   digest: Where everything comes from that a browser is told along with its session. -/

import Sunbolt.Control.PlainCalls

set_option autoImplicit false
set_option relaxedAutoImplicit false

namespace Sunbolt.Control

open Sunbolt.Library
open Sunbolt.Protocol (TerminalSessionId TerminalReconnectToken TerminalServerMessage
  AgentTerminalEvent NodeId TerminalTransportStatus)

/-- Why a handler tells its browser of a session: it has just read the token of a local session,
    has just reattached its user, has taken the event of a node, or passes on what it received. -/
inductive Tells (actorEmail : String) (past : Past) : TerminalServerMessage → Prop
  | opened (early : Past) (sessionId : TerminalSessionId) (size : ProtocolTerminalSize)
      (token : Option TerminalReconnectToken) (pty output : Nat)
      (attached : Attached early actorEmail sessionId (.local pty) output)
      (reads : past = early ++ [⟨.terminal (.reconnectToken sessionId), token⟩]) :
    Tells actorEmail past (.started sessionId none size token none)
  | again (early : Past) (sessionId : TerminalSessionId) (token : Option TerminalReconnectToken)
      (pty output : Nat) (attached : Attached early actorEmail sessionId (.local pty) output)
      (reads : past = early ++ [⟨.terminal (.reconnectToken sessionId), token⟩]) :
    Tells actorEmail past (.reattached sessionId none ⟨80, 24⟩ token none)
  | reattached (early : Past) (sessionId : TerminalSessionId) (given : TerminalReconnectToken)
      (target : TerminalReattachTarget)
      (accepted : past =
        early ++ [⟨.terminal (.reattach sessionId given actorEmail), some target⟩]) :
    Tells actorEmail past (.reattached sessionId (target.nodeId.map NodeId.mk) target.size
      (some target.reconnectToken) target.transportStatus)
  | started (sessionId : TerminalSessionId) (nodeId : Option NodeId) (size : ProtocolTerminalSize)
      (status : Option TerminalTransportStatus) (channel : Nat) (event : AgentTerminalEvent)
      (took : Took past channel event) :
    Tells actorEmail past (.started sessionId nodeId size none status)
  | stream (message : TerminalServerMessage) (x : Interaction Action Reply) (hx : x ∈ past)
      (hstream : message ∈ streamOf x) : Tells actorEmail past message

/-- A message that tells a browser of its session has one of these reasons. -/
def tells (actorEmail : String) (past : Past) (action : Action) : Prop :=
  ∀ message, action = .host (.send message) → isMute action = false →
    Tells actorEmail past message

def tellAct : Stage → Past → Action → Prop
  | .terminalSocket actorEmail => tells actorEmail
  | _ => fun _ _ => True

/-- How the handlers tell their browsers of the sessions. -/
def tellOrder : Discipline Action Reply Stage :=
  ⟨tellAct, fun _ _ _ => True, fun _ _ => True⟩

section Bodies

attribute [local simp] terminal agent node host Program.perform Silent isPlain isMute sendIgnored
  sendError record auditTerminalDetached detachDisconnected sessionIdMatches runIf

variable {actorEmail : String} {past : Past} {message : TerminalServerMessage}

private theorem tells_of_mute {action : Action} (h : isMute action = true) :
    tells actorEmail past action := by
  intro message _ loud
  rw [h] at loud
  cases loud

private theorem tells_of_source (source : Tells actorEmail past message) :
    tells actorEmail past (.host (.send message)) := by
  intro sent haction _
  cases haction
  exact source

/-- Calls that tell the browser of no session. -/
private theorem all_of_mute {α : Type} {p : Handler α} (h : p.Each Silent (fun _ => True)) :
    p.All (tells actorEmail) past (fun later _ => past <+: later) :=
  h.all (fun _ _ _ quiet => tells_of_mute quiet.2)
    (fun extra _ _ _ => List.prefix_append past extra)

private theorem tells_since {α : Type} {p : Handler α} {later : Past} (hlater : past <+: later)
    (h : p.All (tells actorEmail) later (fun last _ => later <+: last)) :
    p.All (tells actorEmail) later (fun last _ => past <+: last) :=
  h.mono (fun _ _ hlast => hlater.trans hlast)

/-- One part of a handler after another. -/
private theorem tells_then {α β : Type} {p : Handler α} {next : α → Handler β}
    (first : p.All (tells actorEmail) past (fun later _ => past <+: later))
    (rest : ∀ later value, past <+: later →
      (next value).All (tells actorEmail) later (fun last _ => later <+: last)) :
    (p >>= next).All (tells actorEmail) past (fun last _ => past <+: last) := by
  rw [Program.all_bind]
  exact first.mono (fun later value hlater => tells_since hlater (rest later value hlater))

/-- A call and what follows its reply. -/
private theorem tells_call {α : Type} {action : Action} {next : Reply action → Handler α}
    (act : tells actorEmail past action)
    (rest : ∀ reply, (next reply).All (tells actorEmail) (past ++ [⟨action, reply⟩])
      (fun last _ => past ++ [⟨action, reply⟩] <+: last)) :
    (Program.perform action >>= next).All (tells actorEmail) past
      (fun last _ => past <+: last) := by
  rw [Program.all_bind]
  refine ⟨act, fun reply => ?_⟩
  rw [Program.all_done]
  exact tells_since (List.prefix_append past _) (rest reply)

private theorem tells_sendIgnored (act : tells actorEmail past (.host (.send message))) :
    (sendIgnored message).All (tells actorEmail) past (fun later _ => past <+: later) :=
  tells_call act (fun _ => List.prefix_refl _)

/-! Local sessions. -/

/-- A browser that asks again is told the token that the session has now. -/
private theorem tells_reattachLocalTerminal {active : TerminalSessionId} {pty output : Nat}
    (attached : Attached past actorEmail active (.local pty) output) :
    (reattachLocalTerminal active).All (tells actorEmail) past
      (fun later _ => past <+: later) := by
  refine tells_then (all_of_mute (by simp)) (fun later _ hlater => ?_)
  refine tells_then (all_of_mute (by simp)) (fun last _ hlast => ?_)
  refine tells_call (tells_of_mute rfl) (fun token => ?_)
  refine tells_then (tells_sendIgnored (tells_of_source ?_)) (fun _ _ _ => ?_)
  · exact .again last active token pty output ((attached.later hlater).later hlast) rfl
  · exact all_of_mute (by simp)

private theorem tells_handleClientFrame {pty output : Nat} {active : TerminalSessionId}
    {message : WebSocketMessage}
    (attached : Attached past actorEmail active (.local pty) output) :
    (handleClientFrame actorEmail pty active message).All (tells actorEmail) past
      (fun later _ => past <+: later) := by
  rw [handleClientFrame]
  cases parseClientMessage message with
  | error error => exact all_of_mute (by simp)
  | ok message =>
    cases message with
    | reattach sessionId token =>
      refine tells_then (all_of_mute (by simp)) (fun later same hlater => ?_)
      rw [Program.all_ite]
      refine ⟨fun _ => List.prefix_refl later, fun _ => ?_⟩
      exact tells_reattachLocalTerminal (attached.later hlater)
    | _ =>
      refine all_of_mute ?_
      simp [terminateLocalTerminal, detachLocalTerminal, silent_reportFailure]

/-- What a task received for its browser it may send. -/
private theorem tells_stream {later : Past} {x : Interaction Action Reply} (hx : x ∈ past)
    (hlater : past <+: later) (hstream : message ∈ streamOf x) :
    tells actorEmail later (.host (.send message)) :=
  tells_of_source (.stream message x (hlater.subset hx) hstream)

private theorem tells_forwardLocalOutput {attachment : LocalAttachment}
    {output : TerminalServerMessage} {x : Interaction Action Reply} (hx : x ∈ past)
    (hstream : output ∈ streamOf x) :
    (forwardLocalOutput attachment output).All (tells actorEmail) past
      (fun later _ => past <+: later) := by
  refine tells_then (all_of_mute (by simp)) (fun touched _ htouched => ?_)
  refine tells_then (all_of_mute (by simp)) (fun set _ hset => ?_)
  refine tells_then (all_of_mute (silent_noteStreamError attachment output))
    (fun noted _ hnoted => ?_)
  refine tells_call (tells_stream hx ((htouched.trans hset).trans hnoted) hstream) (fun sent => ?_)
  exact all_of_mute (by simp [silent_leaveLocalSession])

private theorem tells_localAttachedLoop {config : TerminalSessionConfig}
    {attachment : LocalAttachment}
    (attached : Attached past actorEmail attachment.sessionId (.local attachment.pty)
      attachment.output)
    (same : attachment.actorEmail = actorEmail) :
    (localAttachedLoop config attachment).All (tells actorEmail) past
      (fun later _ => past <+: later) := by
  refine tells_call (tells_of_mute rfl) (fun wake => ?_)
  have woken := attached.later (List.prefix_append past
    [⟨.terminal (.selectAttached attachment.output attachment.outputNext true), wake⟩])
  match wake with
  | .output .lagged next => exact List.prefix_refl _
  | .output .closed next => exact all_of_mute (silent_leaveLocalSession attachment)
  | .output (.value output) next =>
    exact tells_forwardLocalOutput (List.mem_append_right _ (List.mem_singleton_self _))
      (List.mem_singleton_self output)
  | .incoming (some message) =>
    refine tells_then (all_of_mute (by simp)) (fun later _ hlater => ?_)
    subst same
    refine tells_then (tells_handleClientFrame (woken.later hlater)) (fun last goes hlast => ?_)
    exact all_of_mute (by simp [silent_leaveLocalSession])
  | .incoming none =>
    exact all_of_mute (by simp [silent_leaveLocalSession])
  | .idleCheck =>
    exact all_of_mute (by simp [expireLocalSession, silent_leaveLocalSession])

/-- The first message of a local session has the token that was read for it. -/
private theorem tells_startLocalTerminal {sessionId : TerminalSessionId}
    {size : ProtocolTerminalSize} {pty output : Nat}
    (opened : Opened past sessionId (.local pty) output) :
    (startLocalTerminal actorEmail sessionId size pty output).All (tells actorEmail) past
      (fun later _ => past <+: later) := by
  refine tells_call (tells_of_mute rfl) (fun token => ?_)
  refine tells_call (tells_of_source ?_) (fun sent => ?_)
  · exact .opened past sessionId size token pty output (Or.inl opened) rfl
  · exact all_of_mute (by simp)

private theorem tells_openLocalTerminal {config : TerminalSessionConfig}
    {sessionId : TerminalSessionId} {size : ProtocolTerminalSize}
    (issued : Did past (.host .nextSessionId) sessionId) :
    (openLocalTerminal config actorEmail sessionId size).All (tells actorEmail) past
      (fun later _ => past <+: later) := by
  refine tells_call (tells_of_mute rfl) (fun spawned => ?_)
  have hlater := List.prefix_append past
    [⟨.terminal (.spawnDefaultShell (terminalSizeFromProtocol size)), spawned⟩]
  cases spawned with
  | error error => exact all_of_mute (by simp)
  | ok pty =>
    refine tells_call (tells_of_mute rfl) (fun inserted => ?_)
    cases inserted with
    | error limitError => exact all_of_mute (by simp)
    | ok output =>
      refine tells_startLocalTerminal ⟨?_, ?_⟩
      · exact (issued.later hlater).later (List.prefix_append ..)
      · exact ⟨_, List.mem_append_right _ (List.mem_singleton_self _), rfl, rfl⟩

/-! Remote sessions. -/

/-- The message that an event becomes may be sent. -/
private theorem tells_agentEventToBrowserMessage {event : AgentTerminalEvent} {nodeId : NodeId}
    {status : Option TerminalTransportStatus} {channel : Nat} (took : Took past channel event) :
    (agentEventToBrowserMessage event nodeId status).All (tells actorEmail) past
      (fun later message => past <+: later ∧
        ∀ last, later <+: last → tells actorEmail last (.host (.send message))) := by
  cases event with
  | terminalStarted sessionId size =>
    refine ⟨List.prefix_refl past, fun last hlast => tells_of_source ?_⟩
    exact .started sessionId (some nodeId) size status channel _ (Did.later hlast took)
  | terminalOutput sessionId data =>
    rw [agentEventToBrowserMessage, Program.all_bind]
    refine ⟨tells_of_mute rfl, fun message => ⟨List.prefix_append .., fun last hlast => ?_⟩⟩
    exact tells_stream (List.mem_append_right _ (List.mem_singleton_self _)) hlast
      (List.mem_singleton_self _)
  | terminalExited sessionId exit =>
    exact ⟨List.prefix_refl past, fun _ _ => tells_of_mute rfl⟩
  | terminalError sessionId error =>
    exact ⟨List.prefix_refl past, fun _ _ => tells_of_mute rfl⟩

private theorem tells_handleAgentEvent {opening : RemoteOpening} {event : AgentTerminalEvent}
    {channel : Nat} (took : Took past channel event) :
    (handleAgentEvent opening event).All (tells actorEmail) past
      (fun later _ => past <+: later) := by
  rw [handleAgentEvent, Program.all_bind]
  refine (tells_agentEventToBrowserMessage took).mono (fun later message hmessage => ?_)
  obtain ⟨hlater, sends⟩ := hmessage
  refine tells_since hlater ?_
  refine tells_then (all_of_mute (by simp [markOpened]))
    (fun opened _ hopened => ?_)
  refine tells_then (all_of_mute (by simp)) (fun kept _ hkept => ?_)
  refine tells_then (all_of_mute (by simp)) (fun cast _ hcast => ?_)
  refine tells_call (sends cast ((hopened.trans hkept).trans hcast)) (fun sent => ?_)
  exact all_of_mute (by simp [silent_leaveRemoteSession])

private theorem tells_remoteOpenedLoop {opening : RemoteOpening} :
    (remoteOpenedLoop opening).All (tells actorEmail) past (fun later _ => past <+: later) := by
  refine tells_call (tells_of_mute rfl) (fun wake => ?_)
  match wake with
  | .event none => exact all_of_mute (by simp [silent_leaveRemoteSession])
  | .event (some event) =>
    exact tells_handleAgentEvent (List.mem_append_right _ (List.mem_singleton_self _))
  | .incoming (some message) =>
    refine tells_then (all_of_mute (silent_handleRemoteClientFrame ..)) (fun later goes _ => ?_)
    exact all_of_mute (by simp [silent_leaveRemoteSession])
  | .incoming none =>
    exact all_of_mute (by simp [silent_leaveRemoteSession])

private theorem tells_remoteAttachedLoop {attachment : RemoteAttachment} :
    (remoteAttachedLoop attachment).All (tells actorEmail) past
      (fun later _ => past <+: later) := by
  refine tells_call (tells_of_mute rfl) (fun wake => ?_)
  match wake with
  | .output .lagged next => exact List.prefix_refl _
  | .output .closed next => exact List.prefix_refl _
  | .output (.value output) next =>
    refine tells_then (all_of_mute (by simp)) (fun later _ hlater => ?_)
    refine tells_call (tells_stream (List.mem_append_right _ (List.mem_singleton_self _)) hlater
      (List.mem_singleton_self output)) (fun sent => ?_)
    exact all_of_mute (by simp)
  | .incoming (some message) =>
    refine tells_then (all_of_mute (by simp)) (fun later _ _ => ?_)
    refine tells_then (all_of_mute (silent_handleRemoteClientFrame ..)) (fun last goes _ => ?_)
    exact all_of_mute (by simp)
  | .incoming none => exact all_of_mute (by simp)
  | .idleCheck => exact List.prefix_refl _

/-! Reattaches and the first frame. -/

private theorem tells_sendReplay {x : Interaction Action Reply}
    {messages : List TerminalServerMessage} (hx : x ∈ past)
    (hstream : ∀ message ∈ messages, message ∈ streamOf x) :
    (sendReplay messages).All (tells actorEmail) past (fun later _ => past <+: later) := by
  induction messages generalizing past with
  | nil => exact List.prefix_refl past
  | cons message rest ih =>
    refine tells_then (tells_sendIgnored ?_) (fun later _ hlater => ?_)
    · exact tells_stream hx (List.prefix_refl past) (hstream message (List.mem_cons_self ..))
    · exact ih (hlater.subset hx)
        (fun other hother => hstream other (List.mem_cons_of_mem message hother))

/-- A reattached browser is sent the token that came with the reattach, and then the replay. -/
private theorem tells_handleTerminalReattach {sessionId : TerminalSessionId}
    {token : TerminalReconnectToken} :
    (handleTerminalReattach actorEmail sessionId token).All (tells actorEmail) past
      (fun later _ => past <+: later) := by
  refine tells_then (all_of_mute (silent_authorizeSessionReattach ..))
    (fun later allowed _ => ?_)
  rw [Program.all_ite]
  refine ⟨fun _ => all_of_mute (by simp),
    fun _ => tells_call (tells_of_mute rfl) (fun target => ?_)⟩
  cases target with
  | none =>
    refine all_of_mute (Program.Each.then (Program.Each.then (by simp) (fun state => ?_))
      (fun code => by simp))
    split <;> simp
  | some target =>
    have accepted := List.mem_append_right later (List.mem_singleton_self
      (⟨.terminal (.reattach sessionId token actorEmail), some target⟩ :
        Interaction Action Reply))
    refine tells_then (tells_sendIgnored (tells_of_source ?_)) (fun told _ htold => ?_)
    · exact .reattached later sessionId token target rfl
    · refine tells_then (tells_sendReplay (htold.subset accepted) (fun _ hmessage => hmessage))
        (fun _ _ _ => all_of_mute ?_)
      cases target.backend <;> simp

private theorem tells_handleTerminalSocket {config : TerminalSessionConfig} :
    (handleTerminalSocket config actorEmail).All (tells actorEmail) past
      (fun later _ => past <+: later) := by
  refine tells_call (tells_of_mute rfl) (fun first => ?_)
  cases first with
  | none => exact List.prefix_refl _
  | some first =>
    dsimp only
    cases parseClientMessage first with
    | error error => exact all_of_mute (by simp)
    | ok message =>
      cases message with
      | reattach sessionId token => exact tells_handleTerminalReattach
      | start nodeId size =>
        refine tells_call (tells_of_mute rfl) (fun sessionId => ?_)
        cases nodeId with
        | none =>
          exact tells_openLocalTerminal (List.mem_append_right _ (List.mem_singleton_self _))
        | some nodeId => exact all_of_mute (silent_openRemoteTerminal ..)
      | _ => exact all_of_mute (by simp)

private theorem tells_socketBody {config : TerminalSessionConfig} {stage : Stage}
    (known : browserHead actorEmail past stage) :
    (body config stage).All (tells actorEmail) past (fun later _ => past <+: later) := by
  cases stage with
  | terminalSocket actor =>
    obtain ⟨rfl, -⟩ := known
    exact tells_handleTerminalSocket
  | localAttached attachment => exact tells_localAttachedLoop known.2.attached known.1
  | remoteOpened opening => exact tells_remoteOpenedLoop
  | remoteAttached attachment => exact tells_remoteAttachedLoop
  | _ => cases known

end Bodies

/-- Every run of the control plane keeps this order along with the order of its calls. -/
theorem tellOrder_sound (config : TerminalSessionConfig) :
    (controlOrder.and tellOrder).Sound (controlPlane config) entry := by
  refine (controlOrder_sound config).and (fun _ => trivial) (fun _ _ _ => trivial) ?_
  intro origin stage past known head
  cases origin with
  | terminalSocket actorEmail =>
    refine (tells_socketBody known).mono (fun later next _ => ?_)
    cases next <;> trivial
  | _ =>
    refine Program.all_of_forall (fun _ _ => trivial) (fun later next => ?_)
    cases next <;> trivial

/-- Whatever tells a browser of its session keeps this order. -/
theorem Reaches.tells {config : TerminalSessionConfig} {nodes : NodeEnrollmentState}
    {history front back : History} {pool : ControlPool} {e : ControlEvent}
    (h : Reaches config nodes history pool) (hsplit : history = front ++ e :: back)
    {actorEmail : String} (browser : e.origin = .terminalSocket actorEmail) :
    Control.tells actorEmail (own e.task front) e.action := by
  have act : tellAct e.origin (own e.task front) e.action :=
    (Service.Reaches.act (tellOrder_sound config) h hsplit).2
  rw [browser] at act
  exact act

end Sunbolt.Control
