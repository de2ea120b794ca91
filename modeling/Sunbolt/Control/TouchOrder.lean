/- Module: Sunbolt/Control/TouchOrder
   scope: sunbolt-control/src/terminal/mod.rs
   digest: A handler touches its session right after it has taken something from its channel. -/

import Sunbolt.Control.PlainCalls

set_option autoImplicit false
set_option relaxedAutoImplicit false

namespace Sunbolt.Control

open Sunbolt.Library
open Sunbolt.Protocol (TerminalSessionId TerminalServerMessage AgentTerminalEvent NodeId
  TerminalErrorCode)

/-- The channel that an attached handler waits on when it is given a frame of its browser or an
    output. -/
def takenOn (x : Interaction Action Reply) : Option Nat :=
  match x with
  | ⟨.terminal (.selectAttached output _ _), .incoming (some _)⟩ => some output
  | ⟨.terminal (.selectAttached output _ _), .output (.value _) _⟩ => some output
  | _ => none

/-- The channel the last call took something on. -/
def owed (past : Past) : Option Nat := past.getLast?.bind takenOn

/-- Who has taken something on a channel touches a session it is attached to over it. -/
def touchesNext (actorEmail : String) (past : Past) (action : Action) : Prop :=
  ∀ output, owed past = some output → ∃ sessionId backend,
    Attached past actorEmail sessionId backend output ∧ action = .terminal (.touch sessionId)

def touchAct : Stage → Past → Action → Prop
  | .terminalSocket actorEmail => touchesNext actorEmail
  | _ => fun _ _ => True

def touchHead : Stage → Stage → Past → Prop
  | .terminalSocket _, _, past => owed past = none
  | _, _, _ => True

/-- How the handlers keep a session from becoming idle. -/
def touchOrder : Discipline Action Reply Stage := ⟨touchAct, touchHead, fun _ _ => True⟩

/-- The calls that take nothing. -/
def isSteady : Action → Bool
  | .terminal (.selectAttached ..) => false
  | _ => true

def Steady (action : Action) : Prop := isSteady action = true

theorem takenOn_of_steady {x : Interaction Action Reply} (h : isSteady x.action = true) :
    takenOn x = none := by
  unfold takenOn
  split
  · cases h
  · cases h
  · rfl

@[simp] theorem owed_nil : owed [] = none := rfl

@[simp] theorem owed_append_one (past : Past) (x : Interaction Action Reply) :
    owed (past ++ [x]) = takenOn x := by
  simp [owed]

theorem owed_append {past extra : Past} (h : owed past = none)
    (steady : ∀ x ∈ extra, isSteady x.action = true) : owed (past ++ extra) = none := by
  rcases List.eq_nil_or_concat extra with rfl | ⟨earlier, last, rfl⟩
  · rwa [List.append_nil]
  · rw [List.concat_eq_append, ← List.append_assoc, owed_append_one]
    exact takenOn_of_steady (steady last (by simp))

section Bodies

attribute [local simp] terminal agent node host Program.perform Steady isSteady Plain isPlain
  sendIgnored sendError record auditTerminalDetached detachDisconnected sessionIdMatches runIf
  recordRouteSelected recordRouteFailed

variable {actorEmail : String} {past : Past}

/-- Calls that take nothing owe nothing. -/
private theorem all_of_steady {α : Type} {p : Handler α} (h : owed past = none)
    (steady : p.Each Steady (fun _ => True)) :
    p.All (touchesNext actorEmail) past (fun later _ => owed later = none) := by
  refine steady.all (fun extra action hextra _ output howed => ?_)
    (fun extra _ hextra _ => owed_append h hextra)
  rw [owed_append h hextra] at howed
  cases howed

private theorem steady_of_plain {α : Type} {p : Handler α} (h : p.Each Plain (fun _ => True)) :
    p.Each Steady (fun _ => True) := by
  refine h.imp (fun action plain => ?_)
  change isSteady action = true
  unfold isSteady
  split
  · exact plain
  · rfl

private theorem plain_remoteOpenedLoop (opening : RemoteOpening) :
    (remoteOpenedLoop opening).Each Steady (fun _ => True) := by
  refine Program.Each.then (by simp) (fun wake => ?_)
  match wake with
  | .event none =>
    refine steady_of_plain (Program.Each.then (by simp) (fun _ => ?_))
    exact plain_leaveRemoteSession _
  | .event (some event) =>
    refine Program.Each.then ?_ (fun message => steady_of_plain ?_)
    · cases event <;> simp [agentEventToBrowserMessage]
    · simp [markOpened, plain_leaveRemoteSession]
  | .incoming (some message) =>
    refine steady_of_plain (Program.Each.then (plain_handleRemoteClientFrame _ _ _ _) ?_)
    exact fun goes => by simp [plain_leaveRemoteSession]
  | .incoming none => exact steady_of_plain (by simp [plain_leaveRemoteSession])

/-- What a handler does after it has taken something on the channel of its session. -/
private theorem all_touch_then {sessionId : TerminalSessionId} {backend : TerminalBackend}
    {output : Nat} {rest : Handler (Option Stage)}
    (attached : Attached past actorEmail sessionId backend output)
    (took : ∀ given, owed past = some given → given = output)
    (plain : rest.Each Plain (fun _ => True)) :
    (do terminal (.touch sessionId); rest : Handler (Option Stage)).All (touchesNext actorEmail)
      past (fun later _ => owed later = none) := by
  rw [Program.all_bind]
  refine ⟨fun given howed => ?_, fun _ => all_of_steady (by simp [takenOn]) (steady_of_plain plain)⟩
  exact ⟨sessionId, backend, took given howed ▸ attached, rfl⟩

private theorem plain_forwardLocalRest (attachment : LocalAttachment)
    (output : TerminalServerMessage) : (do
      runIf output.isExited (terminal (.setState attachment.sessionId .terminated))
      let attachment ← noteStreamError attachment output
      let sent : Bool ← host (.send output)
      if !sent then
        detachDisconnected attachment.actorEmail attachment.sessionId
        leaveLocalSession attachment
      else if output.isExited then
        leaveLocalSession attachment
      else
        return some (.localAttached attachment) : Handler (Option Stage)).Each Plain
      (fun _ => True) := by
  refine Program.Each.then (by simp) (fun _ => ?_)
  refine Program.Each.then (plain_noteStreamError _ _) (fun noted => ?_)
  simp [plain_leaveLocalSession]

private theorem touches_localAttachedLoop {config : TerminalSessionConfig}
    {attachment : LocalAttachment} (idle : owed past = none)
    (attached : Attached past actorEmail attachment.sessionId (.local attachment.pty)
      attachment.output) :
    (localAttachedLoop config attachment).All (touchesNext actorEmail) past
      (fun later _ => owed later = none) := by
  rw [localAttachedLoop, Program.all_bind]
  refine ⟨fun output howed => ?_, fun wake => ?_⟩
  · rw [idle] at howed
    cases howed
  have woken := attached.later (List.prefix_append past
    [⟨.terminal (.selectAttached attachment.output attachment.outputNext true), wake⟩])
  rw [Program.all_done]
  cases wake with
  | output received next =>
    cases received with
    | lagged => exact owed_append_one ..
    | closed =>
      exact all_of_steady (owed_append_one ..)
        (steady_of_plain (plain_leaveLocalSession attachment))
    | value output =>
      refine all_touch_then woken (fun given howed => ?_) (plain_forwardLocalRest ..)
      rw [owed_append_one] at howed
      exact (Option.some.inj howed).symm
  | incoming message =>
    cases message with
    | none =>
      exact all_of_steady (owed_append_one ..) (steady_of_plain (by simp [plain_leaveLocalSession]))
    | some message =>
      refine all_touch_then woken (fun given howed => ?_) ?_
      · rw [owed_append_one] at howed
        exact (Option.some.inj howed).symm
      · refine Program.Each.then (plain_handleClientFrame ..) (fun goes => ?_)
        simp [plain_leaveLocalSession]
  | idleCheck =>
    refine all_of_steady (owed_append_one ..) (steady_of_plain ?_)
    simp [expireLocalSession, plain_leaveLocalSession]

private theorem touches_remoteAttachedLoop {attachment : RemoteAttachment} (idle : owed past = none)
    (attached : Attached past actorEmail attachment.sessionId (.remote attachment.commands)
      attachment.output) :
    (remoteAttachedLoop attachment).All (touchesNext actorEmail) past
      (fun later _ => owed later = none) := by
  rw [remoteAttachedLoop, Program.all_bind]
  refine ⟨fun output howed => ?_, fun wake => ?_⟩
  · rw [idle] at howed
    cases howed
  have woken := attached.later (List.prefix_append past
    [⟨.terminal (.selectAttached attachment.output attachment.outputNext false), wake⟩])
  rw [Program.all_done]
  cases wake with
  | output received next =>
    cases received with
    | lagged => exact owed_append_one ..
    | closed => exact owed_append_one ..
    | value output =>
      refine all_touch_then woken (fun given howed => ?_) (by simp)
      rw [owed_append_one] at howed
      exact (Option.some.inj howed).symm
  | incoming message =>
    cases message with
    | none => exact all_of_steady (owed_append_one ..) (steady_of_plain (by simp))
    | some message =>
      refine all_touch_then woken (fun given howed => ?_) ?_
      · rw [owed_append_one] at howed
        exact (Option.some.inj howed).symm
      · exact Program.Each.then (plain_handleRemoteClientFrame ..) (fun goes => by simp)
  | idleCheck => exact owed_append_one ..

private theorem touches_socketBody {config : TerminalSessionConfig} {stage : Stage}
    (known : browserHead actorEmail past stage) (idle : owed past = none) :
    (body config stage).All (touchesNext actorEmail) past (fun later _ => owed later = none) := by
  cases stage with
  | terminalSocket actor =>
    exact all_of_steady idle (steady_of_plain (plain_handleTerminalSocket config actor))
  | localAttached attachment => exact touches_localAttachedLoop idle known.2.attached
  | remoteOpened opening => exact all_of_steady idle (plain_remoteOpenedLoop opening)
  | remoteAttached attachment => exact touches_remoteAttachedLoop idle known.2.attached
  | _ => cases known

end Bodies

/-- Every run of the control plane keeps this order along with the order of its calls. -/
theorem touchOrder_sound (config : TerminalSessionConfig) :
    (controlOrder.and touchOrder).Sound (controlPlane config) entry := by
  refine (controlOrder_sound config).and ?_ ?_ ?_
  · intro e
    cases e with
    | browser actorEmail => rfl
    | _ => trivial
  · exact fun hout => head_of_spawned hout (fun _ _ _ => trivial)
  · intro origin stage past known head
    cases origin with
    | terminalSocket actorEmail =>
      refine (touches_socketBody known head).mono (fun later next hnext => ?_)
      cases next with
      | none => trivial
      | some stage => exact hnext
    | _ =>
      refine Program.all_of_forall (fun _ _ => trivial) (fun later next => ?_)
      cases next <;> trivial

section Runs

variable {config : TerminalSessionConfig} {nodes : NodeEnrollmentState}
  {history front middle back : History} {pool : ControlPool} {take : ControlEvent} {output : Nat}

private theorem Reaches.touchAct {e : ControlEvent} (h : Reaches config nodes history pool)
    (hsplit : history = front ++ e :: back) : touchAct e.origin (own e.task front) e.action :=
  (Service.Reaches.act (touchOrder_sound config) h hsplit).2

/-- Only the handler of a browser takes something on a channel of outputs. -/
private theorem browser_of_takenOn {origin : Stage} {past : Past} {e : ControlEvent}
    (act : controlAct origin past e.action) (took : takenOn e.interaction = some output) :
    ∃ actorEmail, origin = .terminalSocket actorEmail := by
  obtain ⟨channel, next, idle, haction⟩ : ∃ channel next idle,
      e.action = .terminal (.selectAttached channel next idle) := by
    obtain ⟨task, stage, action, reply, before, after, spawned⟩ := e
    change takenOn ⟨action, reply⟩ = some output at took
    unfold takenOn at took
    split at took
    · rename_i heq
      cases heq
      exact ⟨_, _, _, rfl⟩
    · rename_i heq
      cases heq
      exact ⟨_, _, _, rfl⟩
    · cases took
  rw [haction] at act
  cases origin with
  | terminalSocket actorEmail => exact ⟨actorEmail, rfl⟩
  | cleanupWorker =>
    obtain ⟨_, _, _, _, hremoved⟩ := act
    cases hremoved
  | revokeNode actorEmail nodeId =>
    obtain ⟨_, _, hremoved⟩ := act
    cases hremoved
  | _ => cases act

/-- The next call of a handler that has taken something on a channel touches the session that
    the channel belongs to. -/
theorem Reaches.touches_next (h : Reaches config nodes history pool)
    (hsplit : history = front ++ take :: (middle ++ back))
    (took : takenOn take.interaction = some output)
    (goesOn : ∃ e ∈ middle, e.task = take.task) :
    ∃ touch ∈ middle, ∃ opener request, OpenedBy history opener request output ∧
      touch.action = .terminal (.touch request.sessionId) := by
  obtain ⟨waits, touch, rest, hmiddle, hsame, hwaits⟩ := exists_next_own goesOn
  have hlater : history = (front ++ take :: waits) ++ touch :: (rest ++ back) := by
    rw [hsplit, hmiddle]
    simp
  have hmem : touch ∈ middle := by
    rw [hmiddle]
    exact List.mem_append_right _ (List.mem_cons_self ..)
  have hown : own touch.task (front ++ take :: waits) =
      own take.task front ++ [take.interaction] := by
    rw [hsame]
    exact own_append_cons take.task front waits rfl hwaits
  obtain ⟨actorEmail, horigin⟩ := browser_of_takenOn (h.next hsplit).act took
  have htouch : touch.origin = .terminalSocket actorEmail := by
    rw [← horigin]
    refine h.origin ?_ ?_ hsame
    · exact hlater ▸ List.mem_append_right _ (List.mem_cons_self ..)
    · exact hsplit ▸ List.mem_append_right _ (List.mem_cons_self ..)
  have act := h.touchAct hlater
  rw [htouch, hown] at act
  obtain ⟨sessionId, backend, attached, haction⟩ := act output (by rw [owed_append_one, took])
  rw [← hown] at attached
  obtain ⟨opener, request, hopened, rfl, -⟩ := h.attached hlater htouch attached
  exact ⟨touch, hmem, opener, request, hopened.later (hlater ▸ own_isPrefix opener _ _), haction⟩

end Runs

end Sunbolt.Control
