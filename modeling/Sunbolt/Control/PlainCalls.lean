/- Module: Sunbolt/Control/PlainCalls
   scope: sunbolt-control/src/terminal/mod.rs
   digest: What the handlers of a browser do besides waiting and recording. -/

import Sunbolt.Control.SessionLedger

set_option autoImplicit false
set_option relaxedAutoImplicit false

namespace Sunbolt.Control

open Sunbolt.Library
open Sunbolt.Protocol (TerminalSessionId TerminalServerMessage NodeId)

/-- The calls that neither wait for a frame, an output or an event nor record an output. -/
def isPlain : Action → Bool
  | .terminal (.selectAttached ..) => false
  | .terminal (.recordOutput ..) => false
  | .agent (.selectEvent _) => false
  | _ => true

def Plain (action : Action) : Prop := isPlain action = true

/-- The calls that do not tell a browser that it has a session. -/
def isMute : Action → Bool
  | .host (.send (.started ..)) => false
  | .host (.send (.reattached ..)) => false
  | _ => true

def Silent (action : Action) : Prop := isPlain action = true ∧ isMute action = true

theorem plain_of_silent {α : Type} {p : Handler α} {Q : α → Prop} (h : p.Each Silent Q) :
    p.Each Plain Q := h.imp (fun _ quiet => quiet.1)

section Bodies

attribute [local simp] terminal agent node host Program.perform Plain isPlain Silent isMute
  sendIgnored sendError record auditTerminalDetached detachDisconnected sessionIdMatches runIf
  recordRouteSelected recordRouteFailed

theorem silent_reportFailure (active : TerminalSessionId)
    (result : Except Sunbolt.Terminal.TerminalError Unit) :
    (reportFailure active result).Each Silent (fun _ => True) := by
  cases result <;> simp [reportFailure]

private theorem silent_of_lookup (action : Action) (h : Lookup action) : Silent action := by
  unfold Lookup isLookup at h
  split at h <;> first | exact ⟨rfl, rfl⟩ | cases h

theorem silent_authorizeSessionReattach (actor : String) (sessionId : TerminalSessionId) :
    (authorizeSessionReattach actor sessionId).Each Silent (fun _ => True) :=
  (lookup_authorizeSessionReattach actor sessionId).imp silent_of_lookup

theorem plain_handleClientFrame (actor : String) (pty : Nat) (active : TerminalSessionId)
    (message : WebSocketMessage) :
    (handleClientFrame actor pty active message).Each Plain (fun _ => True) := by
  rw [handleClientFrame]
  cases parseClientMessage message with
  | error error => simp
  | ok message =>
    cases message <;>
      simp [terminateLocalTerminal, detachLocalTerminal, reattachLocalTerminal,
        plain_of_silent (silent_reportFailure ..)]

theorem silent_terminateRemoteTerminal (actor : String) (commands : Nat)
    (sessionId active : TerminalSessionId) :
    (terminateRemoteTerminal actor commands sessionId active).Each Silent (fun _ => True) := by
  refine Program.Each.then (by simp) (fun same => ?_)
  rw [Program.each_ite]
  refine ⟨fun _ => by simp, fun _ => ?_⟩
  exact Program.Each.then ((lookup_authorizeSessionTerminate actor active).imp silent_of_lookup)
    (fun allowed => by simp)

theorem silent_handleRemoteClientFrame (actor : String) (commands : Nat)
    (active : TerminalSessionId) (message : WebSocketMessage) :
    (handleRemoteClientFrame actor commands active message).Each Silent (fun _ => True) := by
  rw [handleRemoteClientFrame]
  cases parseClientMessage message with
  | error error => simp
  | ok message =>
    cases message <;> simp [forwardCommand, silent_terminateRemoteTerminal]

theorem plain_handleRemoteClientFrame (actor : String) (commands : Nat)
    (active : TerminalSessionId) (message : WebSocketMessage) :
    (handleRemoteClientFrame actor commands active message).Each Plain (fun _ => True) :=
  plain_of_silent (silent_handleRemoteClientFrame actor commands active message)

theorem silent_leaveLocalSession (attachment : LocalAttachment) :
    (leaveLocalSession attachment).Each Silent (fun _ => True) := by
  simp [leaveLocalSession]

theorem plain_leaveLocalSession (attachment : LocalAttachment) :
    (leaveLocalSession attachment).Each Plain (fun _ => True) :=
  plain_of_silent (silent_leaveLocalSession attachment)

theorem silent_leaveRemoteSession (opening : RemoteOpening) :
    (leaveRemoteSession opening).Each Silent (fun _ => True) := by
  simp [leaveRemoteSession, releaseOpening]

theorem plain_leaveRemoteSession (opening : RemoteOpening) :
    (leaveRemoteSession opening).Each Plain (fun _ => True) :=
  plain_of_silent (silent_leaveRemoteSession opening)

theorem silent_noteStreamError (attachment : LocalAttachment)
    (output : TerminalServerMessage) :
    (noteStreamError attachment output).Each Silent (fun _ => True) := by
  cases output <;> simp [noteStreamError]

theorem plain_noteStreamError (attachment : LocalAttachment)
    (output : TerminalServerMessage) :
    (noteStreamError attachment output).Each Plain (fun _ => True) :=
  plain_of_silent (silent_noteStreamError attachment output)

theorem plain_sendReplay (messages : List TerminalServerMessage) :
    (sendReplay messages).Each Plain (fun _ => True) := by
  induction messages with
  | nil => trivial
  | cons message rest ih => simpa [sendReplay] using ih

theorem plain_handleTerminalReattach (actor : String) (sessionId : TerminalSessionId)
    (token : Sunbolt.Protocol.TerminalReconnectToken) :
    (handleTerminalReattach actor sessionId token).Each Plain (fun _ => True) := by
  refine Program.Each.then (plain_of_silent (silent_authorizeSessionReattach actor sessionId))
    (fun allowed => ?_)
  rw [Program.each_ite]
  refine ⟨fun _ => by simp, fun _ => Program.Each.then (by simp) (fun target => ?_)⟩
  cases target with
  | none =>
    refine Program.Each.then (Program.Each.then (by simp) (fun state => ?_)) (fun code => by simp)
    split <;> simp
  | some target =>
    refine Program.Each.then (by simp) (fun _ => ?_)
    refine Program.Each.then (plain_sendReplay _) (fun _ => ?_)
    cases target.backend <;> simp

theorem plain_openLocalTerminal (config : TerminalSessionConfig) (actor : String)
    (sessionId : TerminalSessionId) (size : ProtocolTerminalSize) :
    (openLocalTerminal config actor sessionId size).Each Plain (fun _ => True) := by
  refine Program.Each.then (by simp) (fun spawned => ?_)
  cases spawned with
  | error error => simp
  | ok pty =>
    refine Program.Each.then (by simp) (fun inserted => ?_)
    cases inserted <;> simp [startLocalTerminal]

theorem silent_startRemoteTerminal (config : TerminalSessionConfig) (actor : String)
    (nodeId : NodeId) (sessionId : TerminalSessionId) (size : ProtocolTerminalSize)
    (route : NodeRoute) :
    (startRemoteTerminal config actor nodeId sessionId size route).Each Silent
      (fun _ => True) := by
  refine Program.Each.then (by simp) (fun connection => ?_)
  cases connection with
  | none => simp
  | some connection =>
    refine Program.Each.then (by simp) (fun sent => ?_)
    rw [Program.each_ite]
    refine ⟨fun _ => by simp, fun _ => Program.Each.then (by simp) (fun inserted => ?_)⟩
    cases inserted <;> simp

theorem silent_openRemoteTerminal (config : TerminalSessionConfig) (actor : String)
    (nodeId : NodeId) (sessionId : TerminalSessionId) (size : ProtocolTerminalSize) :
    (openRemoteTerminal config actor nodeId sessionId size).Each Silent (fun _ => True) := by
  refine Program.Each.then (by simp) (fun allowed => ?_)
  rw [Program.each_ite]
  refine ⟨fun _ => by simp, fun _ => Program.Each.then (by simp) (fun online => ?_)⟩
  rw [Program.each_ite]
  refine ⟨fun _ => by simp, fun _ => ?_⟩
  refine Program.Each.then (by simp) (fun connection => ?_)
  refine Program.Each.then (by simp) (fun relays => ?_)
  refine Program.Each.then (by simp) (fun route => ?_)
  match route with
  | none => simp
  | some (.relayNode target relay) => simp
  | some (.directAgent target) =>
    exact Program.Each.then (by simp) (fun _ => silent_startRemoteTerminal ..)

theorem plain_handleTerminalSocket (config : TerminalSessionConfig) (actor : String) :
    (handleTerminalSocket config actor).Each Plain (fun _ => True) := by
  refine Program.Each.then (by simp) (fun first => ?_)
  cases first with
  | none => simp
  | some first =>
    dsimp only
    cases parseClientMessage first with
    | error error => simp
    | ok message =>
      cases message with
      | reattach sessionId token => exact plain_handleTerminalReattach ..
      | start nodeId size =>
        refine Program.Each.then (by simp) (fun sessionId => ?_)
        cases nodeId with
        | none => exact plain_openLocalTerminal ..
        | some nodeId => exact plain_of_silent (silent_openRemoteTerminal ..)
      | _ => simp

end Bodies

end Sunbolt.Control
