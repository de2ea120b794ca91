/- Module: Sunbolt/Control/ProgramOrder
   scope: sunbolt-control
   digest: What a browser handler must have done before each of its calls. -/

import Sunbolt.Control.AgentHandlers

set_option autoImplicit false
set_option relaxedAutoImplicit false

namespace Sunbolt.Control

open Sunbolt.Library
open Sunbolt.Protocol (TerminalSessionId TerminalReconnectToken TerminalServerMessage
  AgentTerminalCommand AgentTerminalEvent AgentTransportId TerminalErrorCode)

abbrev Past := List (Interaction Action Reply)

/-- The task made this call and got this reply. -/
def Did (past : Past) (action : Action) (reply : Reply action) : Prop :=
  (⟨action, reply⟩ : Interaction Action Reply) ∈ past

/-- The browser asked to be reattached with its first frame. -/
def AskedToReattach (past : Past) (sessionId : TerminalSessionId)
    (token : TerminalReconnectToken) : Prop :=
  Did past (.host .receive) (some (.text (.ok (.reattach sessionId token))))

/-- The session is the one the task was started for. -/
def Named (past : Past) (sessionId : TerminalSessionId) : Prop :=
  Did past (.host .nextSessionId) sessionId ∨ ∃ token, AskedToReattach past sessionId token

/-- The task opened the session. -/
def Opened (past : Past) (sessionId : TerminalSessionId) (backend : TerminalBackend)
    (output : Nat) : Prop :=
  Did past (.host .nextSessionId) sessionId ∧
    ∃ request, Did past (.terminal (.insert request)) (.ok output) ∧
      request.sessionId = sessionId ∧ request.backend = backend

/-- The task reattached its user to the session. -/
def Reattached (past : Past) (actorEmail : String) (sessionId : TerminalSessionId)
    (backend : TerminalBackend) (output : Nat) : Prop :=
  ∃ token target, AskedToReattach past sessionId token ∧
    Did past (.terminal (.reattach sessionId token actorEmail)) (some target) ∧
    target.backend = backend ∧ target.output = output

def Attached (past : Past) (actorEmail : String) (sessionId : TerminalSessionId)
    (backend : TerminalBackend) (output : Nat) : Prop :=
  Opened past sessionId backend output ∨ Reattached past actorEmail sessionId backend output

/-- The browser of the task sent this frame after it was attached. -/
def ReceivedFrame (past : Past) (message : WebSocketMessage) : Prop :=
  (∃ output next idle, Did past (.terminal (.selectAttached output next idle))
    (.incoming (some message))) ∨
  (∃ channel, Did past (.agent (.selectEvent channel)) (.incoming (some message)))

def AskedToEnd (past : Past) (sessionId : TerminalSessionId) : Prop :=
  ReceivedFrame past (.text (.ok (.close sessionId))) ∨
    ReceivedFrame past (.text (.ok (.terminate sessionId)))

/-- After its loop the task found the session in a state other than Detached, or untracked. -/
def LeftLoop (past : Past) (sessionId : TerminalSessionId) : Prop :=
  ∃ state, state ≠ some .detached ∧ Did past (.terminal (.state sessionId)) state

def TimedOut (past : Past) (sessionId : TerminalSessionId) : Prop :=
  (∃ timeout, Did past (.terminal (.isIdle sessionId timeout)) true) ∨
    (∃ duration, Did past (.terminal (.isExceededMaxDuration sessionId duration)) true)

def SawExit (past : Past) (output : Nat) : Prop :=
  ∃ next idle sessionId exit after, Did past (.terminal (.selectAttached output next idle))
    (.output (.value (.exited sessionId exit)) after)

/-- The task took this event off its channel. -/
def Took (past : Past) (channel : Nat) (event : AgentTerminalEvent) : Prop :=
  Did past (.agent (.selectEvent channel)) (.event (some event))

def StartedLost (past : Past) (sessionId : TerminalSessionId) : Prop :=
  ∃ node size token status, Did past
    (.host (.send (.started sessionId node size token status))) false

def InsertRefused (past : Past) (sessionId : TerminalSessionId) (backend : TerminalBackend) :
    Prop :=
  ∃ request error, Did past (.terminal (.insert request)) (.error error) ∧
    request.sessionId = sessionId ∧ request.backend = backend

/-- Where the backend of a new session comes from. -/
def BackendSource (past : Past) (request : TerminalSessionInsert) : Prop :=
  match request.backend with
  | .local pty => request.nodeId = none ∧
      ∃ size, Did past (.terminal (.spawnDefaultShell size)) (.ok pty)
  | .remote channel => ∃ nodeId connection, request.nodeId = some nodeId ∧
      Did past (.agent (.connection nodeId)) (some connection) ∧ connection.channel = channel

/-- What may have put a session into a state. -/
def stateCause (past : Past) (actorEmail : String) (sessionId : TerminalSessionId) :
    Sunbolt.Terminal.TerminalSessionState → Prop
  | .active | .detached | .reattaching => True
  | .terminated => ∃ pty output, Attached past actorEmail sessionId (.local pty) output ∧
      SawExit past output
  | .terminating =>
    LeftLoop past sessionId ∨ TimedOut past sessionId ∨ AskedToEnd past sessionId
  | _ => False

def commandCause (past : Past) (actorEmail : String) (channel : Nat) :
    AgentTerminalCommand → Prop
  | .startTerminal sessionId _ => Did past (.host .nextSessionId) sessionId
  | .closeTerminal sessionId =>
    (∃ output, Attached past actorEmail sessionId (.remote channel) output) ∨
      InsertRefused past sessionId (.remote channel)
  | .writeInput sessionId _ =>
    ∃ output, Attached past actorEmail sessionId (.remote channel) output
  | .resizeTerminal sessionId _ =>
    ∃ output, Attached past actorEmail sessionId (.remote channel) output

/-! What a task has received for its browser and what it has shown it, in order. -/

/-- Where the task's receiver stands after this call. -/
def cursorAfter (x : Interaction Action Reply) (before : Option Nat) : Option Nat :=
  match x with
  | ⟨.terminal (.reattach ..), some target⟩ => some target.outputNext
  | ⟨.terminal (.subscribe _), next⟩ => some next
  | ⟨.terminal (.selectAttached ..), .output _ next⟩ => some next
  | _ => before

def cursor (past : Past) : Option Nat := past.foldl (fun before x => cursorAfter x before) none

/-- The messages of this call that are meant for the browser. -/
def streamOf (x : Interaction Action Reply) : List TerminalServerMessage :=
  match x with
  | ⟨.terminal (.reattach ..), some target⟩ => target.replay
  | ⟨.terminal (.selectAttached ..), .output (.value message) _⟩ => [message]
  | ⟨.terminal (.recordOutput sessionId data), message⟩ =>
    [message.getD (.output sessionId 0 data)]
  | _ => []

/-- The outputs a task owes its browser so far. -/
def due (past : Past) : List TerminalServerMessage :=
  past.flatMap (fun x => (streamOf x).filter (·.isOutput))

def shownBy (x : Interaction Action Reply) : List TerminalServerMessage :=
  match x with
  | ⟨.host (.send message), _⟩ => [message]
  | _ => []

/-- The outputs a task has sent its browser so far. -/
def shown (past : Past) : List TerminalServerMessage :=
  past.flatMap (fun x => (shownBy x).filter (·.isOutput))

/-- A message to the browser is about the task's own session, an event the task took or
    something it received for its browser. -/
def messageSource (past : Past) (message : TerminalServerMessage) : Prop :=
  match TerminalSessionRegistry.rememberedSession message with
  | none => True
  | some sessionId => Named past sessionId ∨
      (∃ channel event, Took past channel event ∧ event.sessionId = sessionId) ∨
      ∃ x ∈ past, message ∈ streamOf x

/-- The message a node's event becomes. -/
def eventMessage (past : Past) (message : TerminalServerMessage) : AgentTerminalEvent → Prop
  | .terminalStarted sessionId size =>
    ∃ node status, message = .started sessionId node size none status
  | .terminalOutput sessionId data => ∃ recorded,
      Did past (.terminal (.recordOutput sessionId data)) recorded ∧
      message = recorded.getD (.output sessionId 0 data)
  | .terminalExited sessionId exit => message = .exited sessionId exit
  | .terminalError sessionId error => message = .error sessionId error

/-- The calls that move none of these: neither the receiver, nor what is owed, nor what has been
    shown; nor do they open the session or start its reader. -/
def isSettled : Action → Bool
  | .terminal (.insert _) => false
  | .terminal (.reattach ..) => false
  | .terminal (.recordOutput ..) => false
  | .terminal (.subscribe _) => false
  | .terminal (.selectAttached ..) => false
  | .host (.spawnReader ..) => false
  | .host (.send message) => !message.isOutput
  | _ => true

def Fresh (past : Past) : Prop := ∀ x ∈ past, isSettled x.action = true

/-- What a browser handler has done before each call. -/
def browserAct (actorEmail : String) (past : Past) : Action → Prop
  | .terminal (.insert request) =>
    request.actorEmail = actorEmail ∧ Did past (.host .nextSessionId) request.sessionId ∧
      Fresh past ∧ BackendSource past request
  | .terminal (.setState sessionId state) =>
    (∃ backend output, Attached past actorEmail sessionId backend output) ∧
      stateCause past actorEmail sessionId state
  | .terminal (.reattach sessionId token actor) =>
    actor = actorEmail ∧ Fresh past ∧ AskedToReattach past sessionId token
  | .terminal (.recordOutput sessionId data) =>
    ∃ channel, Took past channel (.terminalOutput sessionId data)
  | .terminal (.rememberServerMessage message) =>
    message.isOutput = false ∧ ∃ channel event, Took past channel event ∧
      eventMessage past message event
  | .terminal (.terminate sessionId) =>
    (∃ channel output, Opened past sessionId (.remote channel) output) ∧ LeftLoop past sessionId
  | .terminal (.remove sessionId) =>
    ((∃ pty output, Attached past actorEmail sessionId (.local pty) output) ∧
      LeftLoop past sessionId) ∨
    (∃ channel output, Attached past actorEmail sessionId (.remote channel) output)
  | .terminal (.writeInput pty _) =>
    ∃ sessionId output, Attached past actorEmail sessionId (.local pty) output
  | .terminal (.resize pty _) =>
    ∃ sessionId output, Attached past actorEmail sessionId (.local pty) output
  | .terminal (.close pty) =>
    (∃ sessionId, InsertRefused past sessionId (.local pty)) ∨
    (∃ sessionId output, Attached past actorEmail sessionId (.local pty) output ∧
      (StartedLost past sessionId ∨ AskedToEnd past sessionId))
  | .terminal (.broadcast output message) =>
    ∃ sessionId channel event, Opened past sessionId (.remote channel) output ∧
      Took past channel event ∧ eventMessage past message event
  | .terminal (.setSize sessionId _) =>
    ∃ pty output, Attached past actorEmail sessionId (.local pty) output
  | .terminal (.subscribe output) =>
    ∃ sessionId pty, Opened past sessionId (.local pty) output
  | .terminal (.selectAttached output next _) => cursor past = some next ∧
      ∃ sessionId backend, Attached past actorEmail sessionId backend output
  | .terminal (.drainExpired ..) => False
  | .terminal (.closeSessionsForNode _) => False
  | .terminal (.isClosed _) => False
  | .terminal (.readOutput _) => False
  | .terminal (.tryWaitExit _) => False
  | .terminal (.waitExit _) => False
  | .terminal _ => True
  | .agent (.sendCommand channel command) => commandCause past actorEmail channel command
  | .agent (.disconnect nodeId) => ∃ connection,
      Did past (.agent (.connection nodeId)) (some connection) ∧ ∃ sessionId size,
      Did past (.agent (.sendCommand connection.channel (.startTerminal sessionId size))) false
  | .agent (.selectEvent channel) => ∃ sessionId output,
      Opened past sessionId (.remote channel) output
  | .agent (.lockEvents channel) => ∃ sessionId output,
      Opened past sessionId (.remote channel) output
  | .agent (.unlockEvents channel) => ∃ sessionId output,
      Opened past sessionId (.remote channel) output
  | .agent (.connection _) => True
  | .agent (.connectedNodeIdsExcept _) => True
  | .agent _ => False
  | .node (.authenticateTransport ..) => False
  | .node (.revokeNode _) => False
  | .node _ => True
  | .host (.spawnReader pty sessionId output) => Opened past sessionId (.local pty) output ∧
      ∀ pty sessionId output reply, ¬Did past (.host (.spawnReader pty sessionId output)) reply
  | .host (.send message) => messageSource past message ∧
      (message.isOutput = true → shown past ++ [message] <+: due past)
  | .host _ => True

/-! What a task has done stays done. -/

section Later

variable {past longer : Past} (h : past <+: longer)
include h

theorem Did.later {action : Action} {reply : Reply action} (hd : Did past action reply) :
    Did longer action reply := h.subset hd

theorem Named.later {sessionId : TerminalSessionId} (hn : Named past sessionId) :
    Named longer sessionId :=
  hn.imp (Did.later h) (fun ⟨token, hd⟩ => ⟨token, Did.later h hd⟩)

theorem Opened.later {sessionId : TerminalSessionId} {backend : TerminalBackend} {output : Nat}
    (ho : Opened past sessionId backend output) : Opened longer sessionId backend output := by
  obtain ⟨hnext, request, hd, hid, hbackend⟩ := ho
  exact ⟨hnext.later h, request, hd.later h, hid, hbackend⟩

theorem Attached.later {actorEmail : String} {sessionId : TerminalSessionId}
    {backend : TerminalBackend} {output : Nat}
    (ha : Attached past actorEmail sessionId backend output) :
    Attached longer actorEmail sessionId backend output := by
  rcases ha with ho | ⟨token, target, hasked, hd, hbackend, houtput⟩
  · exact Or.inl (ho.later h)
  · exact Or.inr ⟨token, target, Did.later h hasked, hd.later h, hbackend, houtput⟩

theorem ReceivedFrame.later {message : WebSocketMessage} (hr : ReceivedFrame past message) :
    ReceivedFrame longer message := by
  rcases hr with ⟨output, next, idle, hd⟩ | ⟨channel, hd⟩
  · exact Or.inl ⟨output, next, idle, hd.later h⟩
  · exact Or.inr ⟨channel, hd.later h⟩

theorem AskedToEnd.later {sessionId : TerminalSessionId} (ha : AskedToEnd past sessionId) :
    AskedToEnd longer sessionId :=
  ha.imp (ReceivedFrame.later h) (ReceivedFrame.later h)

theorem LeftLoop.later {sessionId : TerminalSessionId} (hl : LeftLoop past sessionId) :
    LeftLoop longer sessionId := by
  obtain ⟨state, hstate, hd⟩ := hl
  exact ⟨state, hstate, hd.later h⟩

theorem TimedOut.later {sessionId : TerminalSessionId} (ht : TimedOut past sessionId) :
    TimedOut longer sessionId := by
  rcases ht with ⟨timeout, hd⟩ | ⟨duration, hd⟩
  · exact Or.inl ⟨timeout, hd.later h⟩
  · exact Or.inr ⟨duration, hd.later h⟩

theorem SawExit.later {output : Nat} (hs : SawExit past output) : SawExit longer output := by
  obtain ⟨next, idle, sessionId, exit, after, hd⟩ := hs
  exact ⟨next, idle, sessionId, exit, after, hd.later h⟩

theorem StartedLost.later {sessionId : TerminalSessionId} (hs : StartedLost past sessionId) :
    StartedLost longer sessionId := by
  obtain ⟨node, size, token, status, hd⟩ := hs
  exact ⟨node, size, token, status, hd.later h⟩

theorem InsertRefused.later {sessionId : TerminalSessionId} {backend : TerminalBackend}
    (hr : InsertRefused past sessionId backend) : InsertRefused longer sessionId backend := by
  obtain ⟨request, error, hd, hid, hbackend⟩ := hr
  exact ⟨request, error, hd.later h, hid, hbackend⟩

theorem stateCause.later {actorEmail : String} {sessionId : TerminalSessionId}
    {state : Sunbolt.Terminal.TerminalSessionState}
    (hc : stateCause past actorEmail sessionId state) :
    stateCause longer actorEmail sessionId state := by
  cases state with
  | terminated =>
    obtain ⟨pty, output, ha, hs⟩ := hc
    exact ⟨pty, output, ha.later h, hs.later h⟩
  | terminating =>
    exact hc.imp (LeftLoop.later h) (Or.imp (TimedOut.later h) (AskedToEnd.later h))
  | _ => exact hc

theorem commandCause.later {actorEmail : String} {channel : Nat} {command : AgentTerminalCommand}
    (hc : commandCause past actorEmail channel command) :
    commandCause longer actorEmail channel command := by
  cases command with
  | startTerminal sessionId size => exact Did.later h hc
  | closeTerminal sessionId =>
    exact hc.imp (fun ⟨output, ha⟩ => ⟨output, ha.later h⟩) (InsertRefused.later h)
  | writeInput sessionId data => exact hc.imp (fun output ha => ha.later h)
  | resizeTerminal sessionId size => exact hc.imp (fun output ha => ha.later h)

theorem eventMessage.later {message : TerminalServerMessage} {event : AgentTerminalEvent}
    (hm : eventMessage past message event) : eventMessage longer message event := by
  cases event with
  | terminalOutput sessionId data =>
    obtain ⟨recorded, hd, hmessage⟩ := hm
    exact ⟨recorded, hd.later h, hmessage⟩
  | _ => exact hm

theorem messageSource.later {message : TerminalServerMessage}
    (hm : messageSource past message) : messageSource longer message := by
  rw [messageSource] at hm ⊢
  split
  · trivial
  · rename_i sessionId hid
    rw [hid] at hm
    rcases hm with hnamed | ⟨channel, event, htook, hevent⟩ | ⟨x, hx, hmessage⟩
    · exact Or.inl (hnamed.later h)
    · exact Or.inr (Or.inl ⟨channel, event, Did.later h htook, hevent⟩)
    · exact Or.inr (Or.inr ⟨x, h.subset hx, hmessage⟩)

end Later

theorem browserAct.later {actorEmail : String} {past later : Past} {action : Action}
    (h : past <+: later) (hsettled : isSettled action = true)
    (ha : browserAct actorEmail past action) : browserAct actorEmail later action := by
  match action, ha with
  | .terminal (.insert _), _ => cases hsettled
  | .terminal (.reattach ..), _ => cases hsettled
  | .terminal (.recordOutput ..), _ => cases hsettled
  | .terminal (.subscribe _), _ => cases hsettled
  | .terminal (.selectAttached ..), _ => cases hsettled
  | .host (.spawnReader ..), _ => cases hsettled
  | .host (.send message), ⟨hsource, _⟩ =>
    exact ⟨hsource.later h, fun houtput => by simp [isSettled, houtput] at hsettled⟩
  | .terminal (.setState ..), ⟨⟨backend, output, hattached⟩, hcause⟩ =>
    exact ⟨⟨backend, output, Attached.later h hattached⟩, stateCause.later h hcause⟩
  | .terminal (.rememberServerMessage _), ⟨houtput, channel, event, htook, hmessage⟩ =>
    exact ⟨houtput, channel, event, Did.later h htook, eventMessage.later h hmessage⟩
  | .terminal (.terminate _), ⟨⟨channel, output, hopened⟩, hleft⟩ =>
    exact ⟨⟨channel, output, Opened.later h hopened⟩, LeftLoop.later h hleft⟩
  | .terminal (.remove _), .inl ⟨⟨pty, output, hattached⟩, hleft⟩ =>
    exact .inl ⟨⟨pty, output, Attached.later h hattached⟩, LeftLoop.later h hleft⟩
  | .terminal (.remove _), .inr ⟨channel, output, hattached⟩ =>
    exact .inr ⟨channel, output, Attached.later h hattached⟩
  | .terminal (.writeInput ..), ⟨sessionId, output, hattached⟩ =>
    exact ⟨sessionId, output, Attached.later h hattached⟩
  | .terminal (.resize ..), ⟨sessionId, output, hattached⟩ =>
    exact ⟨sessionId, output, Attached.later h hattached⟩
  | .terminal (.close _), .inl ⟨sessionId, hrefused⟩ =>
    exact .inl ⟨sessionId, InsertRefused.later h hrefused⟩
  | .terminal (.close _), .inr ⟨sessionId, output, hattached, hcause⟩ =>
    exact .inr ⟨sessionId, output, Attached.later h hattached,
      hcause.imp (StartedLost.later h) (AskedToEnd.later h)⟩
  | .terminal (.broadcast ..), ⟨sessionId, channel, event, hopened, htook, hmessage⟩ =>
    exact ⟨sessionId, channel, event, Opened.later h hopened, Did.later h htook,
      eventMessage.later h hmessage⟩
  | .terminal (.setSize ..), ⟨pty, output, hattached⟩ =>
    exact ⟨pty, output, Attached.later h hattached⟩
  | .terminal (.reconnectToken _), _ => trivial
  | .terminal (.ownerMatches ..), _ => trivial
  | .terminal (.nodeId _), _ => trivial
  | .terminal (.touch _), _ => trivial
  | .terminal (.isIdle ..), _ => trivial
  | .terminal (.isExceededMaxDuration ..), _ => trivial
  | .terminal (.state _), _ => trivial
  | .terminal (.spawnDefaultShell _), _ => trivial
  | .terminal (.dropSender _), _ => trivial
  | .agent (.sendCommand ..), ha => exact commandCause.later h ha
  | .agent (.disconnect _), ⟨connection, hconnection, sessionId, size, hsent⟩ =>
    exact ⟨connection, Did.later h hconnection, sessionId, size, Did.later h hsent⟩
  | .agent (.selectEvent _), ⟨sessionId, output, hopened⟩ =>
    exact ⟨sessionId, output, Opened.later h hopened⟩
  | .agent (.lockEvents _), ⟨sessionId, output, hopened⟩ =>
    exact ⟨sessionId, output, Opened.later h hopened⟩
  | .agent (.unlockEvents _), ⟨sessionId, output, hopened⟩ =>
    exact ⟨sessionId, output, Opened.later h hopened⟩
  | .agent (.connection _), _ => trivial
  | .agent (.connectedNodeIdsExcept _), _ => trivial
  | .node (.nodeIsOnline _), _ => trivial
  | .node (.nodeDetails _), _ => trivial
  | .node (.selectRoute _), _ => trivial
  | .node (.recordSuccess _), _ => trivial
  | .node (.recordFailure _), _ => trivial
  | .host .nextSessionId, _ => trivial
  | .host .receive, _ => trivial
  | .host .receiveAgent, _ => trivial
  | .host (.sendAgent _), _ => trivial
  | .host .now, _ => trivial
  | .host (.audit _), _ => trivial
  | .host (.respond ..), _ => trivial
  | .host (.userHasNodePermission ..), _ => trivial
  | .host (.agentAuthFailureAllowed _), _ => trivial

/-- The later calls are all settled ones. -/
def Settles (past later : Past) : Prop := ∃ extra, later = past ++ extra ∧ Fresh extra

namespace Settles

variable {past later : Past}

theorem refl (past : Past) : Settles past past := ⟨[], by simp, by simp [Fresh]⟩

theorem trans {last : Past} (h : Settles past later) (h' : Settles later last) :
    Settles past last := by
  obtain ⟨extra, rfl, hextra⟩ := h
  obtain ⟨more, rfl, hmore⟩ := h'
  exact ⟨extra ++ more, by simp, List.forall_mem_append.mpr ⟨hextra, hmore⟩⟩

theorem snoc {action : Action} {reply : Reply action} (h : isSettled action = true) :
    Settles past (past ++ [⟨action, reply⟩]) := ⟨_, rfl, by simpa [Fresh] using h⟩

theorem isPrefix (h : Settles past later) : past <+: later := by
  obtain ⟨extra, rfl, -⟩ := h
  exact List.prefix_append ..

theorem fresh (h : Settles past later) (hfresh : Fresh past) : Fresh later := by
  obtain ⟨extra, rfl, hextra⟩ := h
  exact List.forall_mem_append.mpr ⟨hfresh, hextra⟩

/-- An unsettled call of the longer past was there before. -/
theorem did (h : Settles past later) {action : Action} {reply : Reply action}
    (haction : isSettled action = false) (hd : Did later action reply) :
    Did past action reply := by
  obtain ⟨extra, rfl, hextra⟩ := h
  rcases List.mem_append.mp hd with hd | hd
  · exact hd
  · rw [hextra _ hd] at haction
    cases haction

end Settles

theorem cursor_settled {x : Interaction Action Reply} (h : isSettled x.action = true)
    (before : Option Nat) : cursorAfter x before = before := by
  unfold cursorAfter
  split
  · cases h
  · cases h
  · cases h
  · rfl

theorem stream_settled {x : Interaction Action Reply} (h : isSettled x.action = true) :
    streamOf x = [] := by
  unfold streamOf
  split
  · cases h
  · cases h
  · cases h
  · rfl

private theorem shown_settled {x : Interaction Action Reply} (h : isSettled x.action = true) :
    (shownBy x).filter (·.isOutput) = [] := by
  unfold shownBy
  split
  · simpa [isSettled] using h
  · rfl

@[simp] theorem cursor_append_one (past : Past) (x : Interaction Action Reply) :
    cursor (past ++ [x]) = cursorAfter x (cursor past) := by
  simp [cursor]

@[simp] theorem due_append (past extra : Past) : due (past ++ extra) = due past ++ due extra := by
  simp [due]

@[simp] theorem shown_append (past extra : Past) :
    shown (past ++ extra) = shown past ++ shown extra := by
  simp [shown]

namespace Fresh

variable {past : Past}

theorem due_eq (h : Fresh past) : due past = [] := by
  rw [due, List.flatMap_eq_nil_iff]
  intro x hx
  rw [stream_settled (h x hx), List.filter_nil]

theorem shown_eq (h : Fresh past) : shown past = [] := by
  rw [shown, List.flatMap_eq_nil_iff]
  exact fun x hx => shown_settled (h x hx)

theorem cursor_append {before : Past} (h : Fresh past) :
    cursor (before ++ past) = cursor before := by
  rw [cursor, List.foldl_append]
  change past.foldl _ (cursor before) = cursor before
  induction past with
  | nil => rfl
  | cons x past ih =>
    rw [List.foldl_cons, cursor_settled (h x (List.mem_cons_self ..))]
    exact ih (fun y hy => h y (List.mem_cons_of_mem x hy))

end Fresh

namespace Settles

variable {past later : Past} (h : Settles past later)
include h

theorem cursor_eq : cursor later = cursor past := by
  obtain ⟨extra, rfl, hextra⟩ := h
  exact hextra.cursor_append

theorem due_eq : due later = due past := by
  obtain ⟨extra, rfl, hextra⟩ := h
  rw [due_append, hextra.due_eq, List.append_nil]

theorem shown_eq : shown later = shown past := by
  obtain ⟨extra, rfl, hextra⟩ := h
  rw [shown_append, hextra.shown_eq, List.append_nil]

end Settles

/-- One call, with the calls up to it named. -/
theorem all_call_then {α : Type} {Act : Past → Action → Prop} {past : Past} {action : Action}
    {resume : Reply action → Handler α} {Post : Past → α → Prop} (act : Act past action)
    (next : ∀ reply longer, longer = past ++ [⟨action, reply⟩] → Did longer action reply →
      (resume reply).All Act longer Post) :
    (Program.call action resume).All Act past Post :=
  ⟨act, fun reply => next reply _ rfl (by simp [Did])⟩

/-- One settled call. -/
theorem all_settled_then {α : Type} {Act : Past → Action → Prop} {past : Past} {action : Action}
    {resume : Reply action → Handler α} {Post : Past → α → Prop}
    (settled : isSettled action = true) (act : Act past action)
    (next : ∀ reply longer, Settles past longer → Did longer action reply →
      (resume reply).All Act longer Post) :
    (Program.call action resume).All Act past Post :=
  ⟨act, fun reply => next reply _ (Settles.snoc settled) (by simp [Did])⟩

/-- The calls a browser handler may make from here on, whatever it does in between. -/
def Settled (actorEmail : String) (past : Past) (action : Action) : Prop :=
  isSettled action = true ∧ browserAct actorEmail past action

theorem all_of_settled {α : Type} {actorEmail : String} {past : Past} {p : Handler α}
    {Q : α → Prop} {Post : Past → α → Prop} (h : p.Each (Settled actorEmail past) Q)
    (post : ∀ later value, Settles past later → Q value → Post later value) :
    p.All (browserAct actorEmail) past Post :=
  h.all (fun _ _ _ haction => haction.2.later (List.prefix_append ..) haction.1)
    (fun extra value hextra => post _ value ⟨extra, rfl, fun x hx => (hextra x hx).1⟩)

end Sunbolt.Control
