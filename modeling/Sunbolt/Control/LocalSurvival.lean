/- Module: Sunbolt/Control/LocalSurvival
   scope: sunbolt-control/src/terminal/mod.rs
   digest: When a local session and its PTY survive the disconnects of their browsers. -/

import Sunbolt.Control.OutputLog

set_option autoImplicit false
set_option relaxedAutoImplicit false

namespace Sunbolt.Control

open Sunbolt.Library
open Sunbolt.Protocol (TerminalSessionId TerminalServerMessage)
open Sunbolt.Terminal (TerminalSessionState LocalPtySession ChildStatus)

/-- The calls that mean to end the session: a close or terminate message, a timeout, an expiry,
    the exit of the process. -/
def endsSession (sessionId : TerminalSessionId) (pty : Nat) (x : Interaction Action Reply) :
    Bool :=
  match x with
  | ⟨.terminal (.selectAttached ..), .incoming (some (.text (.ok (.close named))))⟩ =>
    named = sessionId
  | ⟨.terminal (.selectAttached ..), .incoming (some (.text (.ok (.terminate named))))⟩ =>
    named = sessionId
  | ⟨.agent (.selectEvent _), .incoming (some (.text (.ok (.close named))))⟩ =>
    named = sessionId
  | ⟨.agent (.selectEvent _), .incoming (some (.text (.ok (.terminate named))))⟩ =>
    named = sessionId
  | ⟨.terminal (.isIdle named _), idle⟩ => named = sessionId && idle
  | ⟨.terminal (.isExceededMaxDuration named _), exceeded⟩ => named = sessionId && exceeded
  | ⟨.terminal (.drainExpired ..), removed⟩ =>
    removed.any (fun session => session.sessionId = sessionId)
  | ⟨.terminal (.waitExit named), .ok (some _)⟩ => named = pty
  | ⟨.terminal (.tryWaitExit named), .ok (some _)⟩ => named = pty
  | _ => false

def isTerminateOf (sessionId : TerminalSessionId) : Stage → Bool
  | .terminateSession _ named => named = sessionId
  | _ => false

/-- Only output, input, disconnects and reattach attempts reach the session. -/
def OnlyTraffic (history : History) (sessionId : TerminalSessionId) (pty : Nat) : Prop :=
  history.all (fun e => !endsSession sessionId pty e.interaction &&
    !isTerminateOf sessionId e.origin) = true

/-- The first attach was told that the session has started, and whenever a handler of the
    session has left its loop and looks at it, the session is detached at that moment. -/
structure LeavesDetached (history : History) (sessionId : TerminalSessionId) : Prop where
  started : ∀ task, ¬StartedLost (own task history) sessionId
  looks : ∀ e ∈ history, e.action = .terminal (.state sessionId) →
    (∃ actorEmail backend output,
      Attached (own e.task history) actorEmail sessionId backend output) →
    e.before.sessions.state sessionId = some .detached

/-- Neither terminating nor terminated. -/
def TrackedTerminalSession.isAlive (session : TrackedTerminalSession) : Bool :=
  session.state ≠ .terminating && session.state ≠ .terminated

/-- The session is tracked and alive, and its PTY is open. -/
structure Survives (registry : TerminalSessionRegistry) (sessionId : TerminalSessionId)
    (pty : Nat) : Prop where
  session : ∃ session, registry.get sessionId = some session ∧ session.isAlive = true
  shell : ∃ shell, registry.ptys[pty]? = some shell ∧ shell.closed = false

namespace OnlyTraffic

variable {history : History} {sessionId : TerminalSessionId} {pty : Nat}

theorem event (h : OnlyTraffic history sessionId pty) {e : ControlEvent} (he : e ∈ history) :
    endsSession sessionId pty e.interaction = false ∧
      isTerminateOf sessionId e.origin = false := by
  simpa using List.all_eq_true.mp h e he

theorem call (h : OnlyTraffic history sessionId pty) {task : Nat}
    {x : Interaction Action Reply} (hx : x ∈ own task history) :
    endsSession sessionId pty x = false := by
  obtain ⟨e, he, -, rfl⟩ := Service.mem_own.mp hx
  exact (h.event he).1

theorem not_askedToEnd (h : OnlyTraffic history sessionId pty) (task : Nat) :
    ¬AskedToEnd (own task history) sessionId := by
  rintro ((⟨output, next, idle, hd⟩ | ⟨channel, hd⟩) | ⟨output, next, idle, hd⟩ | ⟨channel, hd⟩)
  all_goals
    have hcall := h.call hd
    simp [endsSession] at hcall

theorem not_timedOut (h : OnlyTraffic history sessionId pty) (task : Nat) :
    ¬TimedOut (own task history) sessionId := by
  rintro (⟨timeout, hd⟩ | ⟨duration, hd⟩)
  all_goals
    have hcall := h.call hd
    simp [endsSession] at hcall

theorem not_waited (h : OnlyTraffic history sessionId pty) (task : Nat)
    (exit : Sunbolt.Terminal.TerminalExitStatus) : ¬Waited (own task history) pty exit := by
  rintro (hd | hd)
  all_goals
    have hcall := h.call hd
    simp [endsSession] at hcall

theorem early (h : OnlyTraffic history sessionId pty) {front late : History}
    (hsplit : history = front ++ late) : OnlyTraffic front sessionId pty := by
  subst hsplit
  rw [OnlyTraffic, List.all_append, Bool.and_eq_true] at h
  exact h.1

end OnlyTraffic

/-- What the proofs below use of the whole history, in a form that every front of it has. -/
structure Quiet (history : History) (sessionId : TerminalSessionId) (pty : Nat) : Prop where
  traffic : OnlyTraffic history sessionId pty
  started : ∀ task, ¬StartedLost (own task history) sessionId
  looks : ∀ {task state}, Did (own task history) (.terminal (.state sessionId)) state →
    (∃ actorEmail backend output,
      Attached (own task history) actorEmail sessionId backend output) →
    state = some .detached
  owned : ∀ {task request result}, Did (own task history) (.terminal (.insert request)) result →
    request.backend = .local pty → request.sessionId = sessionId ∧ ∃ output, result = .ok output
  placed : ∀ {task request result}, Did (own task history) (.terminal (.insert request)) result →
    request.sessionId = sessionId → request.backend = .local pty

section Quiet

variable {sessionId : TerminalSessionId} {pty : Nat} {front : History} {e : ControlEvent}

private theorem Quiet.early {late : History} (h : Quiet (front ++ late) sessionId pty) :
    Quiet front sessionId pty where
  traffic := h.traffic.early rfl
  started task hlost := h.started task (hlost.later (own_isPrefix task front late))
  looks {task state} hd := by
    rintro ⟨actorEmail, backend, output, hattached⟩
    exact h.looks (hd.later (own_isPrefix task front late))
      ⟨actorEmail, backend, output, hattached.later (own_isPrefix task front late)⟩
  owned {task request result} hd := h.owned (hd.later (own_isPrefix task front late))
  placed {task request result} hd := h.placed (hd.later (own_isPrefix task front late))

/-- A tracked session with the PTY is the session of the PTY, and on no node. -/
private theorem Quiet.tracked {history : History} {state : AppState}
    (h : Quiet history sessionId pty) (ledger : Ledger history state)
    {named : TerminalSessionId} {session : TrackedTerminalSession}
    (found : state.sessions.get named = some session) (hpty : session.backend = .local pty) :
    named = sessionId ∧ session.nodeId = none := by
  obtain ⟨task, request, output, hopened, rfl, hidentity⟩ := ledger.tracked found
  simp only [TrackedTerminalSession.identity, TerminalSessionInsert.identity,
    Prod.mk.injEq] at hidentity
  obtain ⟨hbackend, -, -, hnode⟩ := hidentity
  have hlocal : request.backend = .local pty := hbackend.symm.trans hpty
  exact ⟨(h.owned hopened hlocal).1, hnode.trans (ledger.spawned hopened hlocal).1⟩

/-- The session itself is on no node. -/
private theorem Quiet.nodeId {history : History} {state : AppState}
    (h : Quiet history sessionId pty) (ledger : Ledger history state)
    {session : TrackedTerminalSession} (found : state.sessions.get sessionId = some session) :
    session.nodeId = none := by
  obtain ⟨task, request, output, hopened, hid, hidentity⟩ := ledger.tracked found
  simp only [TrackedTerminalSession.identity, TerminalSessionInsert.identity,
    Prod.mk.injEq] at hidentity
  exact hidentity.2.2.2.trans (ledger.spawned hopened (h.placed hopened hid)).1

private theorem Quiet.attached {history : History} {state : AppState}
    (h : Quiet history sessionId pty) (ledger : Ledger history state) {task : Nat}
    {actorEmail : String} {named : TerminalSessionId} {backend : TerminalBackend} {output : Nat}
    (attached : Attached (own task history) actorEmail named backend output) :
    named = sessionId ↔ backend = .local pty := by
  have key : ∀ {opener request result}, Did (own opener history) (.terminal (.insert request))
      result → request.sessionId = named → request.backend = backend →
      (named = sessionId ↔ backend = .local pty) := by
    rintro opener request result hd rfl rfl
    exact ⟨h.placed hd, fun hpty => (h.owned hd hpty).1⟩
  rcases attached with ⟨-, request, hd, hid, hbackend⟩ | ⟨token, target, -, hd, hbackend, -⟩
  · exact key hd hid hbackend
  · obtain ⟨opener, request, output', hopened, hid, -, hfields⟩ := ledger.reattached hd
    simp only [Prod.mk.injEq] at hfields
    exact key hopened hid (hfields.1.symm.trans hbackend)

/-- No call terminates or removes the session. -/
private theorem Quiet.not_terminate (h : Quiet (front ++ [e]) sessionId pty) (next : Next front e)
    (haction : e.action = .terminal (.terminate sessionId)) : False := by
  have act := next.act
  have origin := (h.traffic.event (List.mem_append_right front (List.mem_singleton_self e))).2
  rw [haction] at act
  cases horigin : e.origin with
  | terminalSocket actorEmail =>
    rw [horigin] at act
    obtain ⟨⟨channel, output, opened⟩, -⟩ := act
    cases (h.early.attached next.ledger (Or.inl opened : Attached _ actorEmail _ _ _)).mp rfl
  | terminateSession actorEmail named =>
    rw [horigin] at act origin
    simp [isTerminateOf, act.1] at origin
  | cleanupWorker =>
    rw [horigin] at act
    obtain ⟨_, _, _, _, hremoved⟩ := act
    cases hremoved
  | revokeNode actorEmail nodeId =>
    rw [horigin] at act
    obtain ⟨_, _, hremoved⟩ := act
    cases hremoved
  | _ =>
    rw [horigin] at act
    cases act

private theorem Quiet.not_left (h : Quiet front sessionId pty) {task : Nat}
    {actorEmail : String} {backend : TerminalBackend} {output : Nat}
    (attached : Attached (own task front) actorEmail sessionId backend output) :
    ¬LeftLoop (own task front) sessionId := by
  rintro ⟨state, hstate, hd⟩
  exact hstate (h.looks hd ⟨_, _, _, attached⟩)

private theorem Quiet.not_remove (h : Quiet (front ++ [e]) sessionId pty) (next : Next front e)
    (haction : e.action = .terminal (.remove sessionId)) : False := by
  have act := next.act
  rw [haction] at act
  obtain ⟨actorEmail, -, ⟨⟨pty', output, attached⟩, left⟩ | ⟨channel, output, attached⟩⟩ :=
    browser_only act rfl
  · exact h.early.not_left attached left
  · cases (h.early.attached next.ledger attached).mp rfl

private theorem Quiet.not_drained (h : Quiet (front ++ [e]) sessionId pty)
    {maxDuration idleTimeout : Nat} {removed : List RemovedSession}
    (heq : e.interaction = ⟨.terminal (.drainExpired maxDuration idleTimeout), removed⟩) :
    ∀ session ∈ removed, session.sessionId ≠ sessionId := by
  have hevent := (h.traffic.event (List.mem_append_right front (List.mem_singleton_self e))).1
  rw [heq] at hevent
  simpa [endsSession] using hevent

private theorem closed_tryWaitExit {session : LocalPtySession} {status : ChildStatus}
    (alive : session.closed = false)
    (quiet : ∀ exit, (session.tryWaitExit status).2 ≠ .ok (some exit)) :
    (session.tryWaitExit status).1.closed = false := by
  unfold LocalPtySession.tryWaitExit at quiet ⊢
  split
  · rename_i hchild
    simp only [hchild, if_true] at quiet
    split
    · exact alive
    · rename_i code
      exact absurd rfl (quiet ⟨code⟩)
    · exact alive
  · exact alive

private theorem closed_waitExit {session next : LocalPtySession} {status : ChildStatus}
    {result : Except Sunbolt.Terminal.TerminalError
      (Option Sunbolt.Terminal.TerminalExitStatus)}
    (alive : session.closed = false) (waited : session.waitExit status = some (next, result))
    (quiet : ∀ exit, result ≠ .ok (some exit)) : next.closed = false := by
  unfold LocalPtySession.waitExit at waited
  split at waited
  · split at waited
    · cases waited
    · rename_i code
      cases waited
      exact absurd rfl (quiet ⟨code⟩)
    · cases waited
      exact alive
  · cases waited
    exact alive

/-- An open PTY of the session stays open. -/
private theorem Quiet.shell_step (h : Quiet (front ++ [e]) sessionId pty) (next : Next front e)
    (shell : ∃ shell, e.before.sessions.ptys[pty]? = some shell ∧ shell.closed = false) :
    ∃ shell, e.after.sessions.ptys[pty]? = some shell ∧ shell.closed = false := by
  have other : ∀ {named session}, e.before.sessions.get named = some session →
      named ≠ sessionId → session.backend ≠ .local pty :=
    fun found hne hpty => hne (h.early.tracked next.ledger found hpty).1
  have waits : ∀ exit, ¬Waited (own e.task (front ++ [e])) pty exit :=
    h.traffic.not_waited e.task
  have last : ∀ {action : Action} {reply : Reply action}, e.interaction = ⟨action, reply⟩ →
      Did (own e.task (front ++ [e])) action reply :=
    fun heq => did_snoc.mpr (Or.inr ⟨rfl, heq⟩)
  obtain ⟨session, found, hopen⟩ := shell
  obtain ⟨task, origin, action, reply, before, after, spawned⟩ := e
  have step : AppStep task before action reply after := next.step
  cases step with
  | write hwrite =>
    cases hwrite with
    | insert request now token =>
      rcases before.sessions.insertBackend_cases request now token with ⟨error, heq⟩ | heq
      · exact ⟨session, by rw [heq]; exact found, hopen⟩
      · exact ⟨session, by rw [heq]; exact found, hopen⟩
    | reattach named reconnectToken actorEmail now token =>
      rcases before.sessions.reattach_cases named reconnectToken actorEmail now token with
        heq | ⟨tracked, -, -, -, -, heq⟩
      · exact ⟨session, by rw [heq]; exact found, hopen⟩
      · exact ⟨session, by rw [heq]; exact found, hopen⟩
    | rememberServerMessage message =>
      refine ⟨session, ?_, hopen⟩
      rw [TerminalSessionRegistry.rememberServerMessage]
      split <;> exact found
    | terminate named =>
      refine ⟨session, ?_, hopen⟩
      rw [TerminalSessionRegistry.ptys_terminate, found]
      exact fun tracked htracked => other htracked
        (fun hnamed => h.not_terminate next (hnamed ▸ rfl))
    | remove named =>
      refine ⟨session, ?_, hopen⟩
      rw [TerminalSessionRegistry.ptys_remove, found]
      exact fun tracked htracked => other htracked
        (fun hnamed => h.not_remove next (hnamed ▸ rfl))
    | drainExpired maxDuration idleTimeout now =>
      refine ⟨session, ?_, hopen⟩
      rw [TerminalSessionRegistry.drainExpired, TerminalSessionRegistry.ptys_removeEach, found]
      intro id hid tracked htracked
      refine other htracked (fun hname => ?_)
      obtain ⟨gone, hgone, hgoneName⟩ :=
        TerminalSessionRegistry.exists_removed before.sessions id hid htracked
      exact h.not_drained rfl gone hgone (hgoneName.trans hname)
    | closeSessionsForNode nodeId =>
      refine ⟨session, ?_, hopen⟩
      rw [TerminalSessionRegistry.closeSessionsForNode,
        TerminalSessionRegistry.ptys_removeEach, found]
      intro id hid tracked htracked hpty
      obtain ⟨⟨name, selected⟩, hselected, rfl⟩ := List.mem_map.mp hid
      obtain ⟨hlookup, hnode⟩ := Table.mem_select.mp hselected
      obtain rfl := Option.some.inj (hlookup.symm.trans htracked)
      have hnone := (h.early.tracked next.ledger htracked hpty).2
      simp [TerminalSessionRegistry.isOnNode, hnone] at hnode
    | close named =>
      refine ⟨session, ?_, hopen⟩
      have hne : named ≠ pty := by
        rintro rfl
        obtain ⟨actorEmail, rfl, hclose⟩ := browser_only next.act rfl
        rcases hclose with ⟨name, request, error, hd, -, hbackend⟩ |
          ⟨name, output, attached, hcause⟩
        · obtain ⟨-, output, heq⟩ := h.early.owned hd hbackend
          cases heq
        · obtain rfl := (h.early.attached next.ledger attached).mpr rfl
          rcases hcause with hlost | hasked
          · exact h.early.started task hlost
          · exact h.early.traffic.not_askedToEnd task hasked
      simpa [TerminalSessionRegistry.closePty, hne] using found
    | tryWaitExit named shell status hshell =>
      by_cases hne : named = pty
      · subst hne
        obtain rfl := Option.some.inj (hshell.symm.trans found)
        have hlt := (List.getElem?_eq_some_iff.mp found).1
        refine ⟨_, List.getElem?_set_self hlt, closed_tryWaitExit hopen (fun exit hexit => ?_)⟩
        exact waits exit (Or.inr (hexit ▸ last rfl))
      · exact ⟨session, (List.getElem?_set_ne hne).trans found, hopen⟩
    | waitExit named shell after status result hshell hwaited =>
      by_cases hne : named = pty
      · subst hne
        obtain rfl := Option.some.inj (hshell.symm.trans found)
        have hlt := (List.getElem?_eq_some_iff.mp found).1
        refine ⟨_, List.getElem?_set_self hlt, closed_waitExit hopen hwaited (fun exit hexit => ?_)⟩
        exact waits exit (Or.inl (hexit ▸ last rfl))
      · exact ⟨session, (List.getElem?_set_ne hne).trans found, hopen⟩
    | spawnDefaultShell size =>
      exact ⟨session, List.getElem?_append_left (List.getElem?_eq_some_iff.mp found).1 ▸ found,
        hopen⟩
    | _ => exact ⟨session, found, hopen⟩
  | _ => exact ⟨session, found, hopen⟩

/-- No exit is ever sent on the channel of the session. -/
private theorem Quiet.not_exited (h : Quiet (front ++ [e]) sessionId pty) (next : Next front e)
    {opener output : Nat} {request : TerminalSessionInsert}
    (opened : OpenedBy front opener request output) (hpty : request.backend = .local pty)
    {message : TerminalServerMessage}
    (sent : message ∈ sentTo output e.interaction) : message.isExited = false := by
  obtain ⟨task, origin, action, reply, before, after, spawned⟩ := e
  have act : controlAct origin (own task front) action := next.act
  have origin_reader : ∀ {reading named channel}, origin = .ptyReader reading named channel →
      ∃ other, Did (own other front) (.host (.spawnReader reading named channel)) () := next.reader
  have onChannel : ∀ {other later backend}, OpenedBy front other later output →
      later.backend = backend → backend = .local pty := by
    intro other later backend hlater hbackend
    obtain ⟨-, rfl⟩ := next.ledger.unique_output opened hlater
    exact hbackend.symm.trans hpty
  obtain rfl : action = .terminal (.broadcast output message) := mem_sentTo sent
  cases origin with
  | terminalSocket actorEmail =>
    obtain ⟨name, channel, event, ⟨-, later, hlater, -, hbackend⟩, -⟩ := act
    cases onChannel hlater hbackend
  | ptyReader reading name named =>
    obtain ⟨rfl, hpending | ⟨-, ⟨exit, hwaited, rfl⟩ | ⟨error, rfl⟩⟩⟩ := act
    · obtain ⟨recorded, data, hrecord⟩ := recorded_of_pending hpending
      obtain ⟨sequence, rfl⟩ := next.ledger.recorded hrecord
      rfl
    · obtain ⟨other, hspawned⟩ := origin_reader rfl
      obtain ⟨-, later, hlater, -, hbackend⟩ := next.ledger.reader hspawned
      cases onChannel hlater hbackend
      exact absurd hwaited (h.early.traffic.not_waited task exit)
    · rfl
  | cleanupWorker =>
    obtain ⟨-, -, removed, -, session, -, -, error, rfl⟩ := act
    rfl
  | revokeNode actorEmail nodeId =>
    obtain ⟨removed, -, session, -, -, error, rfl⟩ := act
    rfl
  | _ => cases act

/-- Nothing on the channel of the session, nor anything taken off it, is an exit. -/
private structure ExitFree (history : History) (state : AppState) (pty : Nat) : Prop where
  log : ∀ {opener request output}, OpenedBy history opener request output →
    request.backend = .local pty → ∀ message ∈ state.sessions.outputLog output,
      message.isExited = false
  taken : ∀ {task output next idle message after},
    Did (own task history) (.terminal (.selectAttached output next idle))
      (.output (.value message) after) → output < state.sessions.outputs.length ∧
    ∀ {opener request}, OpenedBy history opener request output →
      request.backend = .local pty → message.isExited = false

private theorem Quiet.exitFree_step (h : Quiet (front ++ [e]) sessionId pty)
    (next : Next front e) (free : ExitFree front e.before pty) :
    ExitFree (front ++ [e]) e.after pty := by
  have opens : ∀ {opener request output}, OpenedBy (front ++ [e]) opener request output →
      OpenedBy front opener request output ∨
        output = e.before.sessions.outputs.length ∧ e.after.sessions.outputLog output = [] := by
    intro opener request output hopened
    rcases did_snoc.mp hopened with hold | ⟨-, heq⟩
    · exact Or.inl hold
    · obtain ⟨task, origin, action, reply, before, after, spawned⟩ := e
      cases heq
      obtain ⟨houtput, now, token, hafter⟩ := AppStep.opened next.step
      refine Or.inr ⟨houtput, ?_⟩
      rw [TerminalSessionRegistry.outputLog, hafter, houtput]
      simp [Broadcast.opened]
  constructor
  · intro opener request output hopened hpty message hmessage
    rcases opens hopened with hold | ⟨-, hempty⟩
    · rw [next.step.outputLog (next.ledger.channel hold)] at hmessage
      rcases List.mem_append.mp hmessage with hmessage | hmessage
      · exact free.log hold hpty message hmessage
      · exact h.not_exited next hold hpty hmessage
    · rw [hempty] at hmessage
      cases hmessage
  · intro task output position idle message after hd
    have hlt : output < e.before.sessions.outputs.length ∧
        ∀ {opener request}, OpenedBy front opener request output →
          request.backend = .local pty → message.isExited = false := by
      rcases did_snoc.mp hd with hold | ⟨-, heq⟩
      · exact free.taken hold
      · obtain ⟨other, origin, action, reply, before, last, spawned⟩ := e
        cases heq
        obtain ⟨hvalue, -⟩ := AppStep.received next.step
        refine ⟨?_, fun hopened hpty => free.log hopened hpty message
          (List.mem_of_getElem? hvalue)⟩
        by_contra hge
        simp [TerminalSessionRegistry.outputLog,
          List.getElem?_eq_none (Nat.le_of_not_lt hge)] at hvalue
    refine ⟨hlt.1.trans_le next.step.outputs_le, fun hopened hpty => ?_⟩
    rcases opens hopened with hold | ⟨houtput, -⟩
    · exact hlt.2 hold hpty
    · exact absurd houtput hlt.1.ne

private theorem alive_moveTo {session : TrackedTerminalSession} {state : TerminalSessionState}
    (alive : session.isAlive = true) (hstate : state ≠ .terminating ∧ state ≠ .terminated) :
    (session.moveTo state).isAlive = true := by
  rw [TrackedTerminalSession.moveTo]
  split
  · exact alive
  · simpa [TrackedTerminalSession.isAlive] using hstate

private theorem alive_of_modify {found : Option TrackedTerminalSession} {c : Prop} [Decidable c]
    {f : TrackedTerminalSession → TrackedTerminalSession} {session : TrackedTerminalSession}
    (hfound : found = some session) (alive : session.isAlive = true)
    (keeps : c → (f session).isAlive = true) :
    ∃ session, (if c then found.map f else found) = some session ∧ session.isAlive = true := by
  split_ifs with hc
  · exact ⟨f session, by rw [hfound]; rfl, keeps hc⟩
  · exact ⟨session, hfound, alive⟩

private theorem alive_of_removal {found : Option TrackedTerminalSession} {c : Prop} [Decidable c]
    {session : TrackedTerminalSession} (hfound : found = some session)
    (alive : session.isAlive = true) (hc : ¬c) :
    ∃ session, (if c then none else found) = some session ∧ session.isAlive = true :=
  ⟨session, by rw [if_neg hc, hfound], alive⟩

/-- A handler puts the session into no state that ends it. -/
private theorem Quiet.not_ended (h : Quiet (front ++ [e]) sessionId pty) (next : Next front e)
    (free : ExitFree front e.before pty) {state : TerminalSessionState}
    (haction : e.action = .terminal (.setState sessionId state)) :
    state ≠ .terminating ∧ state ≠ .terminated := by
  have act := next.act
  rw [haction] at act
  obtain ⟨actorEmail, -, ⟨backend, output, attached⟩, hcause⟩ := browser_only act rfl
  constructor
  · rintro rfl
    rcases hcause with left | timedOut | asked
    · exact h.early.not_left attached left
    · exact h.early.traffic.not_timedOut e.task timedOut
    · exact h.early.traffic.not_askedToEnd e.task asked
  · rintro rfl
    obtain ⟨shell, channel, held, position, idle, named, exit, after, hd⟩ := hcause
    have hpty := (h.early.attached next.ledger held).mp rfl
    obtain ⟨-, hfree⟩ := free.taken hd
    rcases held with ⟨-, request, hopened, -, hbackend⟩ |
      ⟨token, target, -, hreattached, hbackend, houtput⟩
    · cases hfree hopened (hbackend.trans hpty)
    · obtain ⟨opener, request, output', hopened, -, -, hfields⟩ :=
        next.ledger.reattached hreattached
      simp only [Prod.mk.injEq] at hfields
      rw [← houtput, hfields.2.1] at hfree
      cases hfree hopened (hfields.1.symm.trans (hbackend.trans hpty))

/-- A tracked session that is alive stays so. -/
private theorem Quiet.alive_step (h : Quiet (front ++ [e]) sessionId pty) (next : Next front e)
    (free : ExitFree front e.before pty)
    (tracked : ∃ session, e.before.sessions.get sessionId = some session ∧
      session.isAlive = true) :
    ∃ session, e.after.sessions.get sessionId = some session ∧ session.isAlive = true := by
  have ended : ∀ {state}, e.action = .terminal (.setState sessionId state) →
      state ≠ .terminating ∧ state ≠ .terminated := h.not_ended next free
  obtain ⟨session, found, alive⟩ := tracked
  obtain ⟨task, origin, action, reply, before, after, spawned⟩ := e
  have step : AppStep task before action reply after := next.step
  cases step with
  | write hwrite =>
    cases hwrite with
    | insert request now token =>
      rcases before.sessions.insertBackend_cases request now token with ⟨error, heq⟩ | heq
      · exact ⟨session, by rw [heq]; exact found, alive⟩
      · simp only [heq, TerminalSessionRegistry.get_insert]
        split_ifs
        · exact ⟨_, rfl, rfl⟩
        · exact ⟨session, found, alive⟩
    | setState named state =>
      simp only [TerminalSessionRegistry.get_setState]
      exact alive_of_modify found alive
        (fun hnamed => alive_moveTo alive (ended (hnamed ▸ rfl)))
    | reattach named reconnectToken actorEmail now token =>
      rcases before.sessions.reattach_cases named reconnectToken actorEmail now token with
        heq | ⟨tracked, -, -, -, -, heq⟩
      · exact ⟨session, by rw [heq]; exact found, alive⟩
      · simp only [heq, TerminalSessionRegistry.get_modify]
        exact alive_of_modify found alive (fun _ => rfl)
    | touch named now =>
      simp only [TerminalSessionRegistry.get_touch]
      exact alive_of_modify found alive (fun _ => alive)
    | setSize named size =>
      simp only [TerminalSessionRegistry.get_setSize]
      exact alive_of_modify found alive (fun _ => alive)
    | recordOutput named data =>
      simp only [TerminalSessionRegistry.get_recordOutput]
      exact alive_of_modify found alive (fun _ => alive)
    | rememberServerMessage message =>
      simp only [TerminalSessionRegistry.get_rememberServerMessage]
      exact alive_of_modify found alive (fun _ => alive)
    | terminate named =>
      simp only [TerminalSessionRegistry.get_terminate]
      exact alive_of_removal found alive (fun hnamed => h.not_terminate next (hnamed ▸ rfl))
    | remove named =>
      simp only [TerminalSessionRegistry.get_remove]
      exact alive_of_removal found alive (fun hnamed => h.not_remove next (hnamed ▸ rfl))
    | drainExpired maxDuration idleTimeout now =>
      simp only [TerminalSessionRegistry.drainExpired, TerminalSessionRegistry.get_removeEach]
      refine alive_of_removal found alive (fun hid => ?_)
      obtain ⟨gone, hgone, hname⟩ :=
        TerminalSessionRegistry.exists_removed before.sessions sessionId hid found
      exact h.not_drained rfl gone hgone hname
    | closeSessionsForNode nodeId =>
      simp only [TerminalSessionRegistry.closeSessionsForNode,
        TerminalSessionRegistry.get_removeEach]
      refine alive_of_removal found alive (fun hid => ?_)
      obtain ⟨⟨name, selected⟩, hselected, rfl⟩ := List.mem_map.mp hid
      obtain ⟨hlookup, hnode⟩ := Table.mem_select.mp hselected
      simp [TerminalSessionRegistry.isOnNode, h.early.nodeId next.ledger hlookup] at hnode
    | _ => exact ⟨session, found, alive⟩
  | _ => exact ⟨session, found, alive⟩

/-- What a quiet history keeps about the session and its PTY. -/
private structure Kept (history : History) (state : AppState) (sessionId : TerminalSessionId)
    (pty : Nat) : Prop where
  free : ExitFree history state pty
  session : ∀ {task request output}, OpenedBy history task request output →
    request.sessionId = sessionId →
    ∃ session, state.sessions.get sessionId = some session ∧ session.isAlive = true
  shell : ∀ {task size}, Did (own task history) (.terminal (.spawnDefaultShell size)) (.ok pty) →
    ∃ shell, state.sessions.ptys[pty]? = some shell ∧ shell.closed = false

private theorem Quiet.kept_step (h : Quiet (front ++ [e]) sessionId pty) (next : Next front e)
    (kept : Kept front e.before sessionId pty) :
    Kept (front ++ [e]) e.after sessionId pty where
  free := h.exitFree_step next kept.free
  session {task request output} hopened hid := by
    rcases did_snoc.mp hopened with hold | ⟨-, heq⟩
    · exact h.alive_step next kept.free (kept.session hold hid)
    · obtain ⟨other, origin, action, reply, before, after, spawned⟩ := e
      cases heq
      obtain ⟨-, now, token, hafter⟩ := AppStep.opened next.step
      subst hid
      exact ⟨_, by rw [hafter, TerminalSessionRegistry.get_insert, if_pos rfl], rfl⟩
  shell {task size} hspawned := by
    rcases did_snoc.mp hspawned with hold | ⟨-, heq⟩
    · exact h.shell_step next (kept.shell hold)
    · obtain ⟨other, origin, action, reply, before, after, spawned⟩ := e
      cases heq
      obtain ⟨hpty, hafter⟩ := AppStep.spawnedShell next.step
      refine ⟨LocalPtySession.spawned, ?_, rfl⟩
      rw [hafter, hpty]
      simp

end Quiet

section Survival

variable {config : TerminalSessionConfig} {nodes : NodeEnrollmentState} {history : History}
  {pool : ControlPool} {task output pty : Nat} {request : TerminalSessionInsert}

private theorem Reaches.quiet (h : Reaches config nodes history pool)
    (opened : OpenedBy history task request output) (hpty : request.backend = .local pty)
    (traffic : OnlyTraffic history request.sessionId pty)
    (detached : LeavesDetached history request.sessionId) :
    Quiet history request.sessionId pty where
  traffic := traffic
  started := detached.started
  looks {other state} hd attached := by
    obtain ⟨front, e, back, hsplit, htask, heq⟩ := exists_split_of_did hd
    have he : e ∈ history := hsplit ▸ List.mem_append_right _ (List.mem_cons_self ..)
    have step := (h.next hsplit).step
    have hstate := detached.looks e he (congrArg Interaction.action heq) (htask ▸ attached)
    obtain ⟨named, origin, action, reply, before, after, spawned⟩ := e
    cases heq
    exact (AppStep.stateRead step).trans hstate
  owned {other later result} hd hlater := by
    obtain ⟨-, rfl, rfl⟩ := h.ledger.unique_pty hd opened hlater hpty
    exact ⟨rfl, output, rfl⟩
  placed {other later result} hd hid := by
    have hissued := (h.ledger.inserted hd).1
    rw [hid] at hissued
    obtain rfl := h.ledger.issuedOnce hissued (h.ledger.inserted opened).1
    cases h.ledger.insertedOnce hd opened
    exact hpty

/-- A local session that sees only output, input, disconnects and reattaches stays tracked and
    alive with its PTY open, as long as every handler that leaves its loop finds it detached. -/
theorem survives_disconnects (h : Reaches config nodes history pool)
    (opened : OpenedBy history task request output) (hpty : request.backend = .local pty)
    (traffic : OnlyTraffic history request.sessionId pty)
    (detached : LeavesDetached history request.sessionId) :
    Survives pool.shared.sessions request.sessionId pty := by
  have kept := h.keeps (I := fun history state => Quiet history request.sessionId pty →
    Kept history state request.sessionId pty)
    (fun _ => ⟨⟨fun hd => absurd hd List.not_mem_nil, fun hd => absurd hd List.not_mem_nil⟩,
      fun hd => absurd hd List.not_mem_nil, fun hd => absurd hd List.not_mem_nil⟩)
    (fun front e next ih quiet => quiet.kept_step next (ih quiet.early))
    (h.quiet opened hpty traffic detached)
  obtain ⟨-, size, hspawned⟩ := h.ledger.spawned opened hpty
  exact ⟨kept.session opened rfl, kept.shell hspawned⟩

end Survival

/-- The browser goes away, and its handler looks at the session. -/
private def disconnecting : List (Label Arrival Choice) :=
  [.move 0 (.browser none), .move 0 .none, .move 0 .none, .move 0 .none]

private def disconnected : History :=
  calls defaultTerminalSessionConfig ⟨[], [], []⟩ (localOpening 0 "alice" "t0" ++ disconnecting)

private def localRequest : TerminalSessionInsert :=
  ⟨sessionIdOf 1, .local 0, ⟨80, 24⟩, defaultTerminalSessionConfig, "alice", none, none⟩

private def startsSent : Interaction Action Reply → Bool
  | ⟨.host (.send (.started ..)), sent⟩ => sent
  | _ => true

private def looksDetached (e : ControlEvent) : Bool :=
  match e.action with
  | .terminal (.state named) => e.before.sessions.state named = some .detached
  | _ => true

theorem survives_disconnects_once : ∃ pool,
    Reaches defaultTerminalSessionConfig ⟨[], [], []⟩ disconnected pool ∧
    Survives pool.shared.sessions (sessionIdOf 1) 0 := by
  obtain ⟨pool, h⟩ : ∃ pool, Reaches defaultTerminalSessionConfig ⟨[], [], []⟩ disconnected pool :=
    reaches_calls rfl
  have opened : OpenedBy disconnected 0 localRequest 0 := List.mem_of_getElem? (i := 3) rfl
  have started : disconnected.all (fun e => startsSent e.interaction) = true := rfl
  have looks : disconnected.all looksDetached = true := rfl
  refine ⟨pool, h, survives_disconnects h opened rfl rfl ⟨?_, ?_⟩⟩
  · rintro task ⟨node, size, token, status, hd⟩
    obtain ⟨e, he, -, heq⟩ := Service.mem_own.mp hd
    have hsent := List.all_eq_true.mp started e he
    simp [heq, startsSent] at hsent
  · intro e he haction _
    simpa [looksDetached, haction] using List.all_eq_true.mp looks e he

/-- The second browser reattaches while the first is still attached, then the first goes away. -/
private def overtaken : History :=
  calls defaultTerminalSessionConfig ⟨[], [], []⟩ (localOpening 0 "alice" "t0" ++
    [.arrive (.browser "alice"),
      .move 2 (.browser (some (.text (.ok (.reattach (sessionIdOf 1) ⟨"t0"⟩))))), .move 2 .none,
      .move 2 .none, .move 2 (.clockToken 1 ⟨"t1"⟩)] ++
    disconnecting ++ [.move 0 .none, .move 0 .none])

theorem killed_by_disconnect : ∃ pool,
    Reaches defaultTerminalSessionConfig ⟨[], [], []⟩ overtaken pool ∧
    OpenedBy overtaken 0 localRequest 0 ∧ OnlyTraffic overtaken (sessionIdOf 1) 0 ∧
    pool.shared.sessions.get (sessionIdOf 1) = none ∧
    pool.shared.sessions.ptys[0]?.map (·.closed) = some true := by
  obtain ⟨pool, h⟩ : ∃ pool, Reaches defaultTerminalSessionConfig ⟨[], [], []⟩ overtaken pool :=
    reaches_calls rfl
  refine ⟨pool, h, List.mem_of_getElem? (i := 3) rfl, rfl, ?_, ?_⟩
  · rw [h.shared_eq]
    rfl
  · rw [h.shared_eq]
    rfl

end Sunbolt.Control
