/- Module: Sunbolt/Control/ExplicitTerminate
   scope: sunbolt-control/src/terminal/mod.rs
   digest: What is left of a session once the handler that was told to end it has returned. -/

import Sunbolt.Control.SessionEnds

set_option autoImplicit false
set_option relaxedAutoImplicit false

namespace Sunbolt.Control

open Sunbolt.Library
open Sunbolt.Protocol (TerminalSessionId AgentTerminalCommand)

/-- The handler has accepted an explicit end of the session: it acts on a Close or Terminate
    message of its browser, or the terminate request has found the session. -/
def AcceptsTerminate (history : History) (sessionId : TerminalSessionId) (task : Nat) : Prop :=
  (AskedToEnd (own task history) sessionId ∧ Marked (own task history) sessionId) ∨
  ∃ e ∈ history, e.task = task ∧ (∃ actorEmail, e.origin = .terminateSession actorEmail sessionId) ∧
    ∃ backend, e.interaction = ⟨.terminal (.terminate sessionId), some backend⟩

/-- The command was put on the channel, or the channel had already lost its receiver. -/
def Sends (channel : Nat) (command : AgentTerminalCommand) (e : ControlEvent) : Prop :=
  e.interaction = ⟨.agent (.sendCommand channel command), true⟩ ∨
  e.interaction = ⟨.agent (.sendCommand channel command), false⟩ ∧
    ∃ agent, e.before.agentConnections.channels[channel]? = some agent ∧ agent.commandsOpen = false

/-- The session is no longer tracked, and its backend was closed. -/
structure Ended (history : History) (state : AppState) (request : TerminalSessionInsert) :
    Prop where
  untracked : state.sessions.get request.sessionId = none
  closed : ∀ pty, request.backend = .local pty → state.sessions.IsClosed pty
  told : ∀ channel, request.backend = .remote channel →
    ∃ e ∈ history, Sends channel (.closeTerminal request.sessionId) e

/-- The handler serves a browser that was reattached to the session of a node. -/
def ReattachedRemotely (history : History) (sessionId : TerminalSessionId) (task : Nat) : Prop :=
  ∃ actorEmail channel output,
    Reattached (own task history) actorEmail sessionId (.remote channel) output

section Terminate

variable {config : TerminalSessionConfig} {nodes : NodeEnrollmentState} {history : History}
  {pool : ControlPool} {opener output task : Nat} {request : TerminalSessionInsert}

private theorem sendCommand_sent {channel next : AgentChannel} {command : AgentTerminalCommand}
    {sent : Bool} (h : channel.sendCommand command = some (next, sent)) :
    sent = true ∨ sent = false ∧ channel.commandsOpen = false := by
  unfold AgentChannel.sendCommand at h
  split_ifs at h with hclosed
  · cases h
    exact Or.inr ⟨rfl, by simpa using hclosed⟩
  · cases h
    exact Or.inl rfl

/-- A send that was made either went through or met a closed channel. -/
private theorem AppStep.sends {state next : AppState} {channel : Nat}
    {command : AgentTerminalCommand} {sent : Bool}
    (step : AppStep task state (.agent (.sendCommand channel command)) sent next) :
    sent = true ∨ sent = false ∧ ∃ agent,
      state.agentConnections.channels[channel]? = some agent ∧ agent.commandsOpen = false := by
  cases step with
  | agent step =>
    cases step with
    | onChannel index agent after found channelStep =>
      cases channelStep with
      | sendCommand _ _ _ _ _ hsent =>
        refine (sendCommand_sent hsent).imp_right (fun hclosed => ?_)
        exact ⟨hclosed.1, agent, found, hclosed.2⟩

private theorem Reaches.sends_of_told (h : Reaches config nodes history pool) {channel : Nat}
    {sessionId : TerminalSessionId} (told : ToldAgent (own task history) channel sessionId) :
    ∃ e ∈ history, Sends channel (.closeTerminal sessionId) e := by
  obtain ⟨sent, hd⟩ := told
  obtain ⟨front, e, back, hsplit, -, heq⟩ := exists_split_of_did hd
  refine ⟨e, hsplit ▸ List.mem_append_right _ (List.mem_cons_self ..), ?_⟩
  have step := (h.next hsplit).step
  obtain ⟨task, origin, action, reply, before, after, spawned⟩ := e
  cases heq
  rcases AppStep.sends step with rfl | ⟨rfl, hclosed⟩
  · exact Or.inl rfl
  · exact Or.inr ⟨rfl, hclosed⟩

/-- Whoever has marked a session is the handler of a browser. -/
private theorem Reaches.browser_of_marked (h : Reaches config nodes history pool)
    {sessionId : TerminalSessionId} (marked : Marked (own task history) sessionId) :
    ∃ actorEmail, ∀ e ∈ history, e.task = task → e.origin = .terminalSocket actorEmail := by
  obtain ⟨front, marker, back, hsplit, hmarker, heq⟩ := exists_split_of_did marked
  have act := (h.next hsplit).act
  have haction : marker.action = .terminal (.setState sessionId .terminating) :=
    congrArg Interaction.action heq
  rw [haction] at act
  obtain ⟨actorEmail, horigin, -⟩ := browser_only act rfl
  refine ⟨actorEmail, fun e he htask => ?_⟩
  rw [← horigin]
  exact h.origin he (hsplit ▸ List.mem_append_right _ (List.mem_cons_self ..))
    (htask.trans hmarker.symm)

/-- A browser handler that has marked a session leaves it in one of three ways. -/
theorem Reaches.leaves (h : Reaches config nodes history pool)
    {sessionId : TerminalSessionId} (marked : Marked (own task history) sessionId)
    (returned : Returned pool task) : ∃ actorEmail,
    (∀ e ∈ history, e.task = task → e.origin = .terminalSocket actorEmail) ∧
      Leaves (own task history) actorEmail sessionId := by
  obtain ⟨actorEmail, browser⟩ := h.browser_of_marked marked
  obtain ⟨e, he, htask, -⟩ := Service.mem_own.mp marked
  have hhalt := h.loopHalt he (htask ▸ returned)
  rw [browser e he htask, htask] at hhalt
  exact ⟨actorEmail, browser, hhalt.leaves sessionId marked⟩

/-- What a browser handler may take out of the registry by its own calls. -/
private theorem Reaches.tookOut_of_takesOut (h : Reaches config nodes history pool)
    {sessionId : TerminalSessionId} {e : ControlEvent} (he : e ∈ history) {actorEmail : String}
    (horigin : e.origin = .terminalSocket actorEmail) (takes : TakesOut sessionId e) :
    TookOut (own e.task history) sessionId := by
  obtain ⟨htracked, hgone⟩ := takes
  obtain ⟨session, found⟩ := Option.ne_none_iff_exists'.mp htracked
  obtain ⟨front, back, hsplit⟩ := List.append_of_mem he
  have next := h.next hsplit
  rcases next.step.writes with hsame | ⟨called, given, hcall, write⟩
  · rw [hsame] at hgone
    exact absurd hgone htracked
  · obtain ⟨htakes, -⟩ : _ ∧ (session.backend = .local 0 → _) := write.takesOut found hgone
    have haction : e.action = .terminal called := congrArg Interaction.action hcall
    have act := next.act
    rw [horigin, haction] at act
    have hdid : Did (own e.task history) (.terminal called) given :=
      Service.mem_own.mpr ⟨e, he, rfl, hcall⟩
    cases called with
    | terminate named =>
      obtain rfl : named = sessionId := by simpa [mayTakeOut] using htakes
      exact Or.inr ⟨given, hdid⟩
    | remove named =>
      obtain rfl : named = sessionId := by simpa [mayTakeOut] using htakes
      exact Or.inl hdid
    | drainExpired maxDuration idleTimeout => cases act
    | closeSessionsForNode nodeId => cases act
    | _ => cases htakes

/-- The terminate request that found the session has taken it out. -/
private theorem Reaches.takesOut_of_request (h : Reaches config nodes history pool)
    {sessionId : TerminalSessionId} {e : ControlEvent} (he : e ∈ history)
    {backend : TerminalBackend}
    (heq : e.interaction = ⟨.terminal (.terminate sessionId), some backend⟩) :
    TakesOut sessionId e ∧ ∃ opener request output, OpenedBy history opener request output ∧
      request.sessionId = sessionId ∧ request.backend = backend := by
  obtain ⟨front, back, hsplit⟩ := List.append_of_mem he
  have next := h.next hsplit
  have step := next.step
  have ledger := next.ledger
  obtain ⟨task, origin, action, reply, before, after, spawned⟩ := e
  cases heq
  obtain ⟨hafter, hreply⟩ := AppStep.terminates step
  obtain ⟨session, found, hbackend⟩ := Option.map_eq_some_iff.mp hreply.symm
  have tracked : before.sessions.get sessionId ≠ none := by
    change before.sessions.get sessionId = some session at found
    rw [found]
    exact Option.some_ne_none session
  refine ⟨⟨tracked, hafter⟩, ?_⟩
  obtain ⟨opener, request, output, hopened, hid, hidentity⟩ := ledger.tracked found
  have hsame : session.backend = request.backend := congrArg Prod.fst hidentity
  exact ⟨opener, request, output, hopened.later (hsplit ▸ own_isPrefix opener front _), hid,
    hsame.symm.trans hbackend⟩

end Terminate

/-- The agent reports that Alice's terminal has started, and her handler shows it to her. -/
def agentStarts (agent task : Nat) : List (Label Arrival Choice) :=
  [.move agent (.agent (.frame (.text (some (agentEnvelope 2
      (.terminalEvent none (.terminalStarted (sessionIdOf 1) ⟨80, 24⟩))))))),
    .move agent .none, .move task .channel, .move task .none, .move task .none, .move task .none,
    .move task .none, .move task (.decide true)]

/-- Alice detaches in her first browser: its handler returns. -/
def openerDetaches (task : Nat) : List (Label Arrival Choice) :=
  [.move task (.browser (some (.text (.ok (.detach (sessionIdOf 1)))))), .move task .none,
    .move task .none, .move task (.decide true), .move task .none, .move task .none,
    .move task .none]

/-- Alice reattaches in another browser and is shown the replay. -/
def remoteReattach (task : Nat) : List (Label Arrival Choice) :=
  [.arrive (.browser "alice"),
    .move task (.browser (some (.text (.ok (.reattach (sessionIdOf 1) ⟨"t0"⟩))))),
    .move task .none, .move task .none, .move task (.clock 1), .move task (.decide true),
    .move task (.clockToken 1 ⟨"t1"⟩), .move task (.decide true), .move task (.decide true),
    .move task .none, .move task .none]

/-- The browser that is attached to a remote session terminates it. -/
def remoteTerminate (task : Nat) : List (Label Arrival Choice) :=
  [.move task (.browser (some (.text (.ok (.terminate (sessionIdOf 1)))))), .move task (.clock 2),
    .move task .none, .move task (.decide true), .move task .none, .move task .none,
    .move task .none]

/-- The browser that opened a local session terminates it. -/
private def localTerminate (task : Nat) : List (Label Arrival Choice) :=
  [.move task (.browser (some (.text (.ok (.terminate (sessionIdOf 1)))))), .move task (.clock 1),
    .move task .none, .move task .none, .move task .none, .move task (.decide true),
    .move task .none, .move task .none, .move task .none, .move task .none]

private def locally : History :=
  calls defaultTerminalSessionConfig ⟨[], [], []⟩ (localOpening 0 "alice" "t0" ++ localTerminate 0)

private def remotely : History :=
  calls defaultTerminalSessionConfig oneNode
    (agentOpening 0 false ++ remoteOpening 1 "alice" "t0" ++ agentStarts 0 1 ++
      openerDetaches 1 ++ remoteReattach 2 ++ remoteTerminate 2)

private def isReattach : Interaction Action Reply → Bool
  | ⟨.terminal (.reattach ..), _⟩ => true
  | _ => false

end Sunbolt.Control
