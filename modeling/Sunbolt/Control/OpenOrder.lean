/- Module: Sunbolt/Control/OpenOrder
   scope: sunbolt-control/src/terminal/mod.rs
   digest: What a browser handler has started when it fails to open a session, and has closed. -/

import Sunbolt.Control.ServiceOrder

set_option autoImplicit false
set_option relaxedAutoImplicit false

namespace Sunbolt.Control

open Sunbolt.Library
open Sunbolt.Protocol (TerminalSessionId TerminalReconnectToken NodeId)

/-- A terminal that a handler has started: a shell, or one at the agent behind a channel. -/
inductive StartedTerminal where
  | shell (pty : Nat)
  | agent (channel : Nat) (sessionId : TerminalSessionId)
  deriving DecidableEq, Repr

/-- The terminals without a close after this call, given those before it. -/
def unclosedAfter (x : Interaction Action Reply) (unclosed : List StartedTerminal) :
    List StartedTerminal :=
  match x with
  | ⟨.terminal (.spawnDefaultShell _), .ok pty⟩ => .shell pty :: unclosed
  | ⟨.agent (.sendCommand channel (.startTerminal sessionId _)), true⟩ =>
    .agent channel sessionId :: unclosed
  | ⟨.terminal (.close pty), _⟩ => unclosed.filter (· ≠ .shell pty)
  | ⟨.agent (.sendCommand channel (.closeTerminal sessionId)), _⟩ =>
    unclosed.filter (· ≠ .agent channel sessionId)
  | _ => unclosed

/-- The terminals that a task has started and for which it has issued no close since. -/
def unclosed (past : Past) : List StartedTerminal :=
  past.foldl (fun unclosed x => unclosedAfter x unclosed) []

/-- The task has a session to serve: it has started the reader of a local one, taken over the
    events of a remote one, or reattached its user to one. -/
def Serves (past : Past) : Prop :=
  (∃ pty sessionId output, Did past (.host (.spawnReader pty sessionId output)) ()) ∨
  (∃ channel, Did past (.agent (.lockEvents channel)) ()) ∨
  ∃ sessionId token actorEmail target,
    Did past (.terminal (.reattach sessionId token actorEmail)) (some target)

/-- The calls that take no session out and change none but one that they insert, reattach to or
    mark Active. -/
def isOpening : Action → Bool
  | .terminal (.setState _ .active) => true
  | .terminal (.setState ..) => false
  | .terminal (.touch _) => false
  | .terminal (.setSize ..) => false
  | .terminal (.recordOutput ..) => false
  | .terminal (.rememberServerMessage _) => false
  | .terminal (.terminate _) => false
  | .terminal (.remove _) => false
  | .terminal (.drainExpired ..) => false
  | .terminal (.closeSessionsForNode _) => false
  | _ => true

/-- A call of a task that serves no session: only a session that it has inserted is announced as
    started. -/
structure OpeningCall (past : Past) (action : Action) : Prop where
  opening : isOpening action = true
  announced : ∀ sessionId node size token status,
    action = .host (.send (.started sessionId node size token status)) →
    ∃ request output, Did past (.terminal (.insert request)) (.ok output) ∧
      request.sessionId = sessionId

/-- What a handler leaves behind that gives up now: these terminals, and of the sessions only one
    whose Started message was lost. -/
structure LeavesOnly (past : Past) (terminals : List StartedTerminal) : Prop where
  started : unclosed past = terminals
  inserted : ∀ request output, Did past (.terminal (.insert request)) (.ok output) →
    StartedLost past request.sessionId
  issued : ∀ sessionId other, Did past (.host .nextSessionId) sessionId →
    Did past (.host .nextSessionId) other → sessionId = other

def openAct : Stage → Past → Action → Prop
  | .terminalSocket _, past, action => Serves past ∨ OpeningCall past action
  | _, _, _ => True

/-- A handler goes on beyond its first frame only to serve a session. -/
def openHead : Stage → Stage → Past → Prop
  | .terminalSocket _, stage, past =>
    Serves past ∨ past = [] ∧ ∃ actorEmail, stage = .terminalSocket actorEmail
  | _, _, _ => True

def openHalt : Stage → Past → Prop
  | .terminalSocket _, past => Serves past ∨ LeavesOnly past []
  | _, _ => True

/-- How the browser handlers open their sessions. -/
def openOrder : Discipline Action Reply Stage := ⟨openAct, openHead, openHalt⟩

/-- The opening calls that start, insert, close and announce nothing. -/
def isNeutral : Action → Bool
  | .terminal (.insert _) => false
  | .terminal (.spawnDefaultShell _) => false
  | .terminal (.close _) => false
  | .agent (.sendCommand ..) => false
  | .host .nextSessionId => false
  | .host (.send (.started ..)) => false
  | action => isOpening action

def Neutral (action : Action) : Prop := isNeutral action = true

section Past

variable {past longer extra : Past} {terminals : List StartedTerminal}

theorem Serves.later (h : past <+: longer) (serves : Serves past) : Serves longer := by
  rcases serves with ⟨pty, sessionId, output, hd⟩ | ⟨channel, hd⟩ |
    ⟨sessionId, token, actorEmail, target, hd⟩
  · exact Or.inl ⟨pty, sessionId, output, hd.later h⟩
  · exact Or.inr (Or.inl ⟨channel, hd.later h⟩)
  · exact Or.inr (Or.inr ⟨sessionId, token, actorEmail, target, hd.later h⟩)

theorem unclosed_snoc (past : Past) (x : Interaction Action Reply) :
    unclosed (past ++ [x]) = unclosedAfter x (unclosed past) := by
  rw [unclosed, List.foldl_append]
  rfl

theorem unclosedAfter_neutral {x : Interaction Action Reply} (h : Neutral x.action) :
    unclosedAfter x terminals = terminals := by
  unfold unclosedAfter
  split <;> first | rfl | cases h

theorem isOpening_of_neutral {action : Action} (h : Neutral action) : isOpening action = true := by
  unfold Neutral isNeutral at h
  split at h <;> first | exact h | cases h

theorem Neutral.opening {action : Action} (h : Neutral action) : OpeningCall past action where
  opening := isOpening_of_neutral h
  announced sessionId node size token status haction := by
    subst haction
    cases h

private theorem did_of_snoc {x : Interaction Action Reply} {action : Action}
    {reply : Reply action} (h : Did (past ++ [x]) action reply) (other : x.action ≠ action) :
    Did past action reply := by
  rcases List.mem_append.mp h with hold | hnew
  · exact hold
  · exact absurd (congrArg Interaction.action (List.mem_singleton.mp hnew)).symm other

theorem LeavesOnly.nil : LeavesOnly [] [] :=
  ⟨rfl, fun _ _ hd => absurd hd List.not_mem_nil, fun _ _ => nofun⟩

/-- A call that neither inserts a session nor is given an id. -/
theorem LeavesOnly.snoc {x : Interaction Action Reply} (h : LeavesOnly past terminals)
    (none : ∀ request output, x ≠ ⟨.terminal (.insert request), .ok output⟩)
    (given : x.action ≠ .host .nextSessionId) :
    LeavesOnly (past ++ [x]) (unclosedAfter x terminals) where
  started := by rw [unclosed_snoc, h.started]
  inserted request output inserted := by
    rcases List.mem_append.mp inserted with hold | hnew
    · exact (h.inserted request output hold).later (List.prefix_append ..)
    · exact absurd (List.mem_singleton.mp hnew).symm (none request output)
  issued sessionId other hs ho :=
    h.issued sessionId other (did_of_snoc hs given) (did_of_snoc ho given)

theorem LeavesOnly.refused (h : LeavesOnly past terminals) (request : TerminalSessionInsert)
    (error : SessionLimitError) :
    LeavesOnly (past ++ [⟨.terminal (.insert request), .error error⟩]) terminals :=
  h.snoc (by simp) (by simp)

theorem LeavesOnly.spawned (h : LeavesOnly past []) (size : Sunbolt.Terminal.TerminalSize)
    (pty : Nat) :
    LeavesOnly (past ++ [⟨.terminal (.spawnDefaultShell size), .ok pty⟩]) [.shell pty] :=
  h.snoc (by simp) (by simp)

theorem LeavesOnly.closed {pty : Nat} (h : LeavesOnly past [.shell pty])
    (reply : Reply (.terminal (.close pty))) :
    LeavesOnly (past ++ [⟨.terminal (.close pty), reply⟩]) [] := by
  have hclosed := h.snoc (x := ⟨.terminal (.close pty), reply⟩) (by simp) (by simp)
  simpa [unclosedAfter] using hclosed

theorem LeavesOnly.toldAgent {channel : Nat} {sessionId : TerminalSessionId}
    (h : LeavesOnly past [.agent channel sessionId]) (sent : Bool) :
    LeavesOnly (past ++ [⟨.agent (.sendCommand channel (.closeTerminal sessionId)), sent⟩]) [] := by
  have hclosed := h.snoc
    (x := ⟨.agent (.sendCommand channel (.closeTerminal sessionId)), sent⟩)
    (by simp) (by simp)
  simpa [unclosedAfter] using hclosed

/-- The id of the session is the first one that the task is given. -/
theorem LeavesOnly.given (h : LeavesOnly past terminals) (sessionId : TerminalSessionId)
    (first : ∀ other, ¬Did past (.host .nextSessionId) other) :
    LeavesOnly (past ++ [⟨.host .nextSessionId, sessionId⟩]) terminals where
  started := by
    rw [unclosed_snoc, h.started]
    rfl
  inserted request output inserted :=
    (h.inserted request output (did_of_snoc inserted (by simp))).later (List.prefix_append ..)
  issued named other hs ho := by
    have only : ∀ {given}, Did (past ++ [⟨.host .nextSessionId, sessionId⟩])
        (.host .nextSessionId) given → given = sessionId := by
      intro given hgiven
      rcases List.mem_append.mp hgiven with hold | hnew
      · exact absurd hold (first given)
      · cases List.mem_singleton.mp hnew
        rfl
    rw [only hs, only ho]

/-- The Started message of the session that was inserted last is lost. -/
theorem LeavesOnly.lost (h : LeavesOnly past terminals) {request : TerminalSessionInsert}
    {output : Nat} {sessionId : TerminalSessionId} (named : request.sessionId = sessionId)
    (token : Option TerminalReconnectToken) {node : Option NodeId} {size : ProtocolTerminalSize}
    {given : Option TerminalReconnectToken}
    {status : Option Sunbolt.Protocol.TerminalTransportStatus} :
    LeavesOnly (past ++ [⟨.terminal (.insert request), .ok output⟩] ++
      [⟨.terminal (.reconnectToken sessionId), token⟩] ++
      [⟨.host (.send (.started sessionId node size given status)), false⟩]) terminals where
  started := by
    rw [unclosed_snoc, unclosed_snoc, unclosed_snoc, h.started]
    rfl
  inserted other channel inserted := by
    have earlier := did_of_snoc (did_of_snoc inserted (by simp)) (by simp)
    rcases List.mem_append.mp earlier with hold | hnew
    · refine (h.inserted other channel hold).later ?_
      rw [List.append_assoc, List.append_assoc]
      exact List.prefix_append ..
    · cases List.mem_singleton.mp hnew
      exact ⟨node, size, given, status, by simp [Did, named]⟩
  issued first second hf hs := by
    refine h.issued first second ?_ ?_
    · exact did_of_snoc (did_of_snoc (did_of_snoc hf (by simp)) (by simp)) (by simp)
    · exact did_of_snoc (did_of_snoc (did_of_snoc hs (by simp)) (by simp)) (by simp)

theorem LeavesOnly.append (h : LeavesOnly past terminals)
    (neutral : ∀ x ∈ extra, Neutral x.action) : LeavesOnly (past ++ extra) terminals := by
  induction extra using List.reverseRecOn with
  | nil => rwa [List.append_nil]
  | append_singleton extra x ih =>
    have hx : Neutral x.action := neutral x (by simp)
    have earlier := ih (fun y hy => neutral y (List.mem_append_left [x] hy))
    have same : unclosedAfter x terminals = terminals := unclosedAfter_neutral hx
    rw [← List.append_assoc, ← same]
    refine earlier.snoc (fun request output heq => ?_) (fun haction => ?_)
    · rw [heq] at hx
      cases hx
    · rw [haction] at hx
      cases hx

end Past

/-- What a body of a browser handler ends in. -/
def openPost (past : Past) : Option Stage → Prop
  | none => Serves past ∨ LeavesOnly past []
  | some _ => Serves past

def OpenAct (past : Past) (action : Action) : Prop := Serves past ∨ OpeningCall past action

/-- The call sends a Started message. -/
def isAnnouncement : Action → Bool
  | .host (.send (.started ..)) => true
  | _ => false

theorem openAct_of_silent {past : Past} {action : Action} (opening : isOpening action = true)
    (silent : isAnnouncement action = false) : OpenAct past action := by
  refine Or.inr ⟨opening, ?_⟩
  rintro sessionId node size token status rfl
  cases silent

section Bodies

attribute [local simp] terminal agent node host Program.perform Neutral isNeutral isOpening
  sendIgnored sendError record runIf recordRouteSelected recordRouteFailed

variable {past : Past} {terminals : List StartedTerminal}

/-- A task that serves a session may do anything. -/
private theorem all_of_serves {p : Handler (Option Stage)} (serves : Serves past) :
    p.All OpenAct past openPost := by
  induction p generalizing past with
  | done next =>
    cases next with
    | none => exact Or.inl serves
    | some stage => exact serves
  | call action resume ih =>
    exact ⟨Or.inl serves, fun reply => ih reply (serves.later (List.prefix_append ..))⟩

private theorem all_of_neutral {α : Type} {p : Handler α} {Q : α → Prop} {Post : Past → α → Prop}
    (left : LeavesOnly past terminals) (h : p.Each Neutral Q)
    (post : ∀ later value, LeavesOnly later terminals → Q value → Post later value) :
    p.All OpenAct past Post :=
  h.all (fun _ _ _ neutral => Or.inr neutral.opening)
    (fun _ value neutral hvalue => post _ value (left.append neutral) hvalue)

/-- A handler that gives up has nothing left to close. -/
private theorem all_of_refused {p : Handler (Option Stage)} (left : LeavesOnly past [])
    (h : p.Each Neutral (fun next => next = none)) : p.All OpenAct past openPost := by
  refine all_of_neutral left h ?_
  rintro later next hlater rfl
  exact Or.inr hlater

/-! Local sessions. -/

/-- A Started message that is lost has the handler close the shell. -/
private theorem open_startLocalTerminal {actorEmail : String} {sessionId : TerminalSessionId}
    {size : ProtocolTerminalSize} {pty output : Nat} {request : TerminalSessionInsert}
    (left : LeavesOnly past [.shell pty]) (named : request.sessionId = sessionId) :
    (startLocalTerminal actorEmail sessionId size pty output).All OpenAct
      (past ++ [⟨.terminal (.insert request), .ok output⟩]) openPost := by
  rw [startLocalTerminal, Program.all_bind]
  refine ⟨openAct_of_silent rfl rfl, fun token => ?_⟩
  rw [Program.all_done, Program.all_bind]
  refine ⟨Or.inr ⟨rfl, ?_⟩, fun sent => ?_⟩
  · rintro named node size token status heq
    cases heq
    exact ⟨request, output, by simp [Did], named⟩
  rw [Program.all_done, Program.all_ite]
  cases sent with
  | false =>
    refine ⟨fun _ => ?_, fun hsent => absurd rfl hsent⟩
    have hlost : LeavesOnly (past ++ [⟨.terminal (.insert request), .ok output⟩] ++
        [⟨.terminal (.reconnectToken sessionId), token⟩] ++
        [⟨.host (.send (.started sessionId none size token none)), false⟩]) [.shell pty] :=
      left.lost named token
    rw [Program.all_bind]
    refine all_of_neutral (Q := fun _ => True) hlost (by simp) (fun _ _ hlater _ => ?_)
    rw [Program.all_bind]
    exact ⟨openAct_of_silent rfl rfl, fun closed => all_of_refused (hlater.closed closed) (by simp)⟩
  | true =>
    refine ⟨fun hsent => (by cases hsent), fun _ => ?_⟩
    rw [Program.all_bind]
    refine ⟨openAct_of_silent rfl rfl, fun _ => ?_⟩
    rw [Program.all_done, Program.all_bind]
    refine ⟨openAct_of_silent rfl rfl, fun _ => ?_⟩
    rw [Program.all_done, Program.all_bind]
    refine ⟨openAct_of_silent rfl rfl, fun outputNext => ?_⟩
    rw [Program.all_done, Program.all_bind]
    refine ⟨openAct_of_silent rfl rfl, fun _ => all_of_serves (Or.inl ?_)⟩
    exact ⟨pty, sessionId, output, List.mem_append_right _ (List.mem_singleton_self _)⟩

private theorem open_openLocalTerminal {config : TerminalSessionConfig} {actorEmail : String}
    {sessionId : TerminalSessionId} {size : ProtocolTerminalSize} (left : LeavesOnly past []) :
    (openLocalTerminal config actorEmail sessionId size).All OpenAct past openPost := by
  rw [openLocalTerminal, Program.all_bind]
  refine ⟨openAct_of_silent rfl rfl, fun spawned => ?_⟩
  cases spawned with
  | error error => exact all_of_refused (left.snoc (by simp) (by simp)) (by simp)
  | ok pty =>
    rw [Program.all_done]
    dsimp only
    rw [trackLocalTerminal, Program.all_bind]
    refine ⟨openAct_of_silent rfl rfl, fun inserted => ?_⟩
    have hspawned := left.spawned (terminalSizeFromProtocol size) pty
    cases inserted with
    | ok output => exact open_startLocalTerminal hspawned rfl
    | error limitError =>
      rw [Program.all_done, Program.all_bind]
      refine all_of_neutral (Q := fun _ => True) (hspawned.refused _ _) (by simp)
        (fun later _ hlater _ => ?_)
      rw [Program.all_bind]
      refine ⟨openAct_of_silent rfl rfl, fun closed => ?_⟩
      exact all_of_refused (hlater.closed closed) (by simp)

/-! Remote sessions. -/

private theorem open_trackRemoteTerminal {config : TerminalSessionConfig} {actorEmail : String}
    {nodeId : NodeId} {sessionId : TerminalSessionId} {size : ProtocolTerminalSize}
    {route : NodeRoute} {connection : RegisteredAgentConnection}
    (left : LeavesOnly past [.agent connection.channel sessionId]) :
    (trackRemoteTerminal config actorEmail nodeId sessionId size route connection).All OpenAct
      past openPost := by
  rw [trackRemoteTerminal, Program.all_bind]
  refine ⟨openAct_of_silent rfl rfl, fun inserted => ?_⟩
  cases inserted with
  | ok output =>
    -- the events are taken over, so the session is served
    rw [Program.all_done, Program.all_bind]
    refine ⟨openAct_of_silent rfl rfl, fun _ => ?_⟩
    rw [Program.all_done, Program.all_bind]
    refine ⟨openAct_of_silent rfl rfl, fun _ => all_of_serves (Or.inr (Or.inl ?_))⟩
    exact ⟨connection.channel, List.mem_append_right _ (List.mem_singleton_self _)⟩
  | error limitError =>
    rw [Program.all_done, Program.all_bind]
    exact ⟨openAct_of_silent rfl rfl, fun sent =>
      all_of_refused ((left.refused _ _).toldAgent sent) (by simp)⟩

private theorem open_startRemoteTerminal {config : TerminalSessionConfig} {actorEmail : String}
    {nodeId : NodeId} {sessionId : TerminalSessionId} {size : ProtocolTerminalSize}
    {route : NodeRoute} (left : LeavesOnly past []) :
    (startRemoteTerminal config actorEmail nodeId sessionId size route).All OpenAct past
      openPost := by
  rw [startRemoteTerminal, Program.all_bind]
  refine all_of_neutral (Q := fun _ => True) left (by simp) (fun later connection hlater _ => ?_)
  cases connection with
  | none => exact all_of_refused hlater (by simp)
  | some connection =>
    dsimp only
    rw [Program.all_bind]
    refine ⟨openAct_of_silent rfl rfl, fun sent => ?_⟩
    rw [Program.all_done, Program.all_ite]
    cases sent with
    | false =>
      refine ⟨fun _ => ?_, fun hsent => absurd rfl hsent⟩
      exact all_of_refused (hlater.snoc (by simp) (by simp)) (by simp)
    | true =>
      refine ⟨fun hsent => (by cases hsent), fun _ => ?_⟩
      exact open_trackRemoteTerminal (hlater.snoc (by simp) (by simp))

private theorem open_openRemoteTerminal {config : TerminalSessionConfig} {actorEmail : String}
    {nodeId : NodeId} {sessionId : TerminalSessionId} {size : ProtocolTerminalSize}
    (left : LeavesOnly past []) :
    (openRemoteTerminal config actorEmail nodeId sessionId size).All OpenAct past openPost := by
  rw [openRemoteTerminal, Program.all_bind]
  refine all_of_neutral (Q := fun _ => True) left (by simp) (fun _ allowed asked _ => ?_)
  rw [Program.all_ite]
  refine ⟨fun _ => all_of_refused asked (by simp), fun _ => ?_⟩
  rw [Program.all_bind]
  refine all_of_neutral (Q := fun _ => True) asked (by simp) (fun _ online checked _ => ?_)
  rw [Program.all_ite]
  refine ⟨fun _ => all_of_refused checked (by simp), fun _ => ?_⟩
  rw [Program.all_bind]
  refine all_of_neutral (Q := fun _ => True) checked (by simp) (fun _ connection found _ => ?_)
  rw [Program.all_bind]
  refine all_of_neutral (Q := fun _ => True) found (by simp) (fun _ relays known _ => ?_)
  rw [Program.all_bind]
  refine all_of_neutral (Q := fun _ => True) known (by simp) (fun _ route chosen _ => ?_)
  cases route with
  | none => exact all_of_refused chosen (by simp)
  | some route =>
    cases route with
    | relayNode target relay => exact all_of_refused chosen (by simp)
    | directAgent target =>
      dsimp only
      rw [Program.all_bind]
      exact all_of_neutral (Q := fun _ => True) chosen (by simp)
        (fun _ _ selected _ => open_startRemoteTerminal selected)

/-! The first frame. -/

private theorem neutral_of_lookup (action : Action) (h : Lookup action) : Neutral action := by
  unfold Lookup isLookup at h
  split at h <;> first | rfl | cases h

private theorem open_handleTerminalReattach {actorEmail : String} {sessionId : TerminalSessionId}
    {token : TerminalReconnectToken} (left : LeavesOnly past []) :
    (handleTerminalReattach actorEmail sessionId token).All OpenAct past openPost := by
  rw [handleTerminalReattach, Program.all_bind]
  refine all_of_neutral left ((lookup_authorizeSessionReattach ..).imp neutral_of_lookup)
    (fun _ allowed asked _ => ?_)
  rw [Program.all_ite]
  refine ⟨fun _ => all_of_refused asked (by simp), fun _ => ?_⟩
  rw [Program.all_bind]
  refine ⟨openAct_of_silent rfl rfl, fun target => ?_⟩
  rw [Program.all_done]
  cases target with
  | some target =>
    refine all_of_serves (Or.inr (Or.inr ⟨sessionId, token, actorEmail, target, ?_⟩))
    exact List.mem_append_right _ (List.mem_singleton_self _)
  | none =>
    refine all_of_refused (asked.snoc (by simp) (by simp)) ?_
    refine Program.Each.then (Program.Each.then (by simp) (fun state => ?_)) (fun code => by simp)
    split <;> simp

private theorem open_handleTerminalSocket {config : TerminalSessionConfig} {actorEmail : String} :
    (handleTerminalSocket config actorEmail).All OpenAct [] openPost := by
  rw [handleTerminalSocket, Program.all_bind]
  refine ⟨openAct_of_silent rfl rfl, fun first => ?_⟩
  have received : LeavesOnly ([] ++ [⟨.host .receive, first⟩]) [] :=
    LeavesOnly.nil.snoc (by simp) (by simp)
  rw [Program.all_done]
  cases first with
  | none => exact Or.inr received
  | some first =>
    dsimp only
    cases parseClientMessage first with
    | error error => exact all_of_refused received (by simp)
    | ok message =>
      cases message with
      | reattach sessionId token => exact open_handleTerminalReattach received
      | start nodeId size =>
        dsimp only
        rw [Program.all_bind]
        refine ⟨openAct_of_silent rfl rfl, fun sessionId => ?_⟩
        have issued := received.given sessionId (fun _ hd => by cases List.mem_singleton.mp hd)
        cases nodeId with
        | none => exact open_openLocalTerminal issued
        | some nodeId => exact open_openRemoteTerminal issued
      | _ => exact all_of_refused received (by simp)

private theorem open_post {past : Past} {next : Option Stage} (h : openPost past next)
    (actorEmail : String) : openOrder.post (.terminalSocket actorEmail) past next := by
  cases next with
  | none => exact h
  | some stage => exact Or.inl h

end Bodies

/-- The browser handlers open their sessions in this order. -/
theorem openOrder_sound (config : TerminalSessionConfig) :
    openOrder.Sound (controlPlane config) entry where
  entered e := by
    cases e with
    | browser actorEmail => exact Or.inr ⟨rfl, actorEmail, rfl⟩
    | _ => trivial
  spawned hout := head_of_spawned hout (fun _ _ _ => trivial)
  body := by
    intro origin stage past head
    cases origin with
    | terminalSocket actorEmail =>
      suffices opens : (body config stage).All OpenAct past openPost from
        opens.mono (fun _ _ hpost => open_post hpost actorEmail)
      rcases head with serves | ⟨rfl, actor, rfl⟩
      · exact all_of_serves serves
      · exact open_handleTerminalSocket
    | _ =>
      refine Program.all_of_forall (fun _ _ => trivial) (fun later next => ?_)
      cases next <;> trivial

end Sunbolt.Control
