/- Module: Sunbolt/Control/IdleTimeout
   scope: sunbolt-control/src/terminal/mod.rs, sunbolt-control/src/terminal/session_registry.rs
   digest: Which idle sessions are gone after an idle check and a cleanup tick. -/

import Sunbolt.Control.ExplicitTerminate

set_option autoImplicit false
set_option relaxedAutoImplicit false

namespace Sunbolt.Control

open Sunbolt.Library
open Sunbolt.Protocol (TerminalSessionId)
open Sunbolt.Terminal (TerminalSessionState)

/-- A call decided this way reads this clock, if it reads one at all. -/
def Choice.readsClock (now : Nat) : Choice → Bool
  | .clock given => given == now
  | .clockToken given _ => given == now
  | _ => true

/-- The call was made at this time. -/
def MadeAt (now : Nat) (e : ControlEvent) : Prop :=
  ∃ choice : Choice, choice.readsClock now = true ∧
    perform e.task e.before e.action choice = some (e.reply, e.after)

/-- A tick of the cleanup worker that finds the session tracked, running and idle for the
    timeout. -/
structure IdleTick (config : TerminalSessionConfig) (now : Nat) (tick : ControlEvent)
    (sessionId : TerminalSessionId) (session : TrackedTerminalSession) : Prop where
  drains : tick.action = .terminal (.drainExpired config.maxDuration config.idleTimeout)
  made : MadeAt now tick
  found : tick.before.sessions.get sessionId = some session
  live : session.isLive = true
  idle : config.idleTimeout ≤ now - session.lastActivity

/-- An idle check of a handler found the session idle, and the handler has returned. -/
def IdleChecked (config : TerminalSessionConfig) (history : History) (pool : ControlPool)
    (sessionId : TerminalSessionId) : Prop :=
  ∃ task, Did (own task history) (.terminal (.isIdle sessionId config.idleTimeout)) true ∧
    Returned pool task

section Idle

variable {config : TerminalSessionConfig} {nodes : NodeEnrollmentState}
  {history front later : History} {pool : ControlPool} {opener output now : Nat}
  {request : TerminalSessionInsert} {tick : ControlEvent} {session : TrackedTerminalSession}

private theorem drained_of_perform {task maxDuration idleTimeout : Nat} {state after : AppState}
    {choice : Choice} {removed : List RemovedSession} (reads : choice.readsClock now = true)
    (h : perform task state (.terminal (.drainExpired maxDuration idleTimeout)) choice =
      some (removed, after)) :
    after.sessions = (state.sessions.drainExpired maxDuration idleTimeout now).1 := by
  obtain ⟨⟨given, sessions⟩, hterminal, heq⟩ := Option.map_eq_some_iff.mp h
  cases heq
  cases choice with
  | clock read =>
    obtain rfl : read = now := eq_of_beq reads
    cases hterminal
    rfl
  | _ => cases hterminal

/-- What a drain at this time leaves in the registry. -/
theorem MadeAt.drained {maxDuration idleTimeout : Nat} (made : MadeAt now tick)
    (drains : tick.action = .terminal (.drainExpired maxDuration idleTimeout)) :
    tick.after.sessions = (tick.before.sessions.drainExpired maxDuration idleTimeout now).1 := by
  obtain ⟨choice, reads, hperform⟩ := made
  obtain ⟨task, origin, action, reply, before, after, spawned⟩ := tick
  cases drains
  exact drained_of_perform reads hperform

/-- A drain takes out just the sessions that have expired. -/
theorem get_drainExpired {registry : TerminalSessionRegistry} {sessionId : TerminalSessionId}
    {maxDuration idleTimeout : Nat} (found : registry.get sessionId = some session) :
    (registry.drainExpired maxDuration idleTimeout now).1.get sessionId = none ↔
      TerminalSessionRegistry.isExpired maxDuration idleTimeout now session = true := by
  rw [TerminalSessionRegistry.drainExpired, TerminalSessionRegistry.get_removeEach]
  have hmem : sessionId ∈ (Table.select registry.sessions
      (TerminalSessionRegistry.isExpired maxDuration idleTimeout now)).map Prod.fst ↔
      TerminalSessionRegistry.isExpired maxDuration idleTimeout now session = true := by
    rw [List.mem_map]
    constructor
    · rintro ⟨⟨named, tracked⟩, hselected, rfl⟩
      obtain ⟨hlookup, hexpired⟩ := Table.mem_select.mp hselected
      rw [Option.some.inj (found.symm.trans hlookup)]
      exact hexpired
    · intro hexpired
      exact ⟨(sessionId, session), Table.mem_select.mpr ⟨found, hexpired⟩, rfl⟩
  rw [← hmem]
  split_ifs with hid
  · exact iff_of_true rfl hid
  · rw [found]
    exact iff_of_false (Option.some_ne_none session) hid

/-- Only the handler of a browser looks whether a session is idle. -/
private theorem browser_of_isIdle {origin : Stage} {past : Past} {sessionId : TerminalSessionId}
    {timeout : Nat} (act : controlAct origin past (.terminal (.isIdle sessionId timeout))) :
    ∃ actorEmail, origin = .terminalSocket actorEmail := by
  cases origin with
  | terminalSocket actorEmail => exact ⟨actorEmail, rfl⟩
  | cleanupWorker =>
    obtain ⟨_, _, _, _, hremoved⟩ := act
    cases hremoved
  | revokeNode actorEmail nodeId =>
    obtain ⟨_, _, hremoved⟩ := act
    cases hremoved
  | _ => cases act

/-- A handler that found its session idle has marked it by the time it returns. -/
private theorem Reaches.marked_of_idle (h : Reaches config nodes history pool)
    {sessionId : TerminalSessionId} {task timeout : Nat}
    (idle : Did (own task history) (.terminal (.isIdle sessionId timeout)) true)
    (returned : Returned pool task) : Marked (own task history) sessionId := by
  obtain ⟨front, check, back, hsplit, htask, heq⟩ := exists_split_of_did idle
  have act := (h.next hsplit).act
  have haction : check.action = .terminal (.isIdle sessionId timeout) :=
    congrArg Interaction.action heq
  rw [haction] at act
  obtain ⟨actorEmail, horigin⟩ := browser_of_isIdle act
  have he : check ∈ history := hsplit ▸ List.mem_append_right _ (List.mem_cons_self ..)
  have hhalt := h.loopHalt he (htask ▸ returned)
  rw [horigin, htask] at hhalt
  exact hhalt.idle sessionId timeout idle

/-- A tick takes out a session that is idle for the timeout when it is Detached or too old. -/
private theorem IdleTick.takesOut_iff {sessionId : TerminalSessionId}
    (idle : IdleTick config now tick sessionId session) :
    TakesOut sessionId tick ↔
      session.state = .detached ∨ config.maxDuration ≤ now - session.createdAt := by
  have tracked : tick.before.sessions.get sessionId ≠ none := by
    rw [idle.found]
    exact Option.some_ne_none session
  rw [TakesOut, and_iff_right tracked, idle.made.drained idle.drains,
    get_drainExpired idle.found]
  simp only [TerminalSessionRegistry.isExpired, idle.live, idle.idle, Bool.true_and,
    Bool.or_eq_true, decide_eq_true_eq, Bool.and_eq_true, beq_iff_eq, decide_true, and_true]
  exact or_comm

/-- A local session is gone when its handler has found it idle and has returned. -/
private theorem Reaches.gone_of_checked (h : Reaches config nodes history pool)
    (opened : OpenedBy history opener request output) {pty : Nat}
    (backend : request.backend = .local pty)
    (checked : IdleChecked config history pool request.sessionId) :
    pool.shared.sessions.get request.sessionId = none := by
  obtain ⟨task, hidle, returned⟩ := checked
  obtain ⟨actorEmail, browser, leaves⟩ := h.leaves (h.marked_of_idle hidle returned) returned
  cases leaves with
  | «local» named channel attached gone =>
    exact h.gone_of_tookOut opened browser (gone.resolve_right h.not_foundDetached)
  | opened commands channel started told gone =>
    exact h.gone_of_tookOut opened browser (gone.resolve_right h.not_foundDetached)
  | reattached commands channel reattached told kept =>
    cases backend.symm.trans (h.backend_of_attached opened (Or.inr reattached))

/-- After an idle check and a cleanup tick have found a session idle for the timeout it is gone
    exactly when the tick found it Detached or too old, when it is a local one, or when a later
    call takes it out: nothing looks whether an attached remote session is idle. -/
theorem idle_timeout_removes_iff (h : Reaches config nodes history pool)
    (opened : OpenedBy history opener request output) (hsplit : history = front ++ tick :: later)
    (idle : IdleTick config now tick request.sessionId session)
    (checked : (∃ pty, request.backend = .local pty) → session.state ≠ .detached →
      IdleChecked config history pool request.sessionId) :
    pool.shared.sessions.get request.sessionId = none ↔
      session.state = .detached ∨ config.maxDuration ≤ now - session.createdAt ∨
        (∃ pty, request.backend = .local pty) ∨
        ∃ e ∈ later, TakesOut request.sessionId e := by
  have hmem : tick ∈ history := hsplit ▸ List.mem_append_right _ (List.mem_cons_self ..)
  constructor
  · intro gone
    obtain ⟨e, he, takes⟩ := (h.gone_iff opened).mp gone
    rw [hsplit] at he
    rcases List.mem_append.mp he with hearly | hlate
    · -- the tick found the session tracked, so nothing had taken it out before
      obtain ⟨before, hfront, hbefore⟩ := h.front hsplit
      obtain ⟨first, earlier, given, hopened, hid, -⟩ := (h.next hsplit).ledger.tracked idle.found
      have hgone := (hfront.gone_iff hopened).mpr ⟨e, hearly, hid ▸ takes⟩
      rw [hid, hbefore, idle.found] at hgone
      cases hgone
    · rcases List.mem_cons.mp hlate with rfl | hlater
      · exact (idle.takesOut_iff.mp takes).imp_right Or.inl
      · exact Or.inr (Or.inr (Or.inr ⟨e, hlater, takes⟩))
  · intro condition
    by_cases taken : TakesOut request.sessionId tick
    · exact (h.gone_iff opened).mpr ⟨tick, hmem, taken⟩
    · rw [idle.takesOut_iff, not_or] at taken
      obtain ⟨attached, young⟩ := taken
      rcases condition with hdetached | hold | ⟨pty, backend⟩ | ⟨e, he, takes⟩
      · exact absurd hdetached attached
      · exact absurd hold young
      · exact h.gone_of_checked opened backend (checked ⟨pty, backend⟩ attached)
      · refine (h.gone_iff opened).mpr ⟨e, ?_, takes⟩
        exact hsplit ▸ List.mem_append_right _ (List.mem_cons_of_mem _ he)

end Idle

/-- A cleanup worker starts, as the task of this number, and ticks at this time. -/
private def ticking (task now : Nat) : List (Label Arrival Choice) :=
  [.arrive .cleanup, .move task (.clock now)]

/-- The handler of a local session finds it idle at this time and leaves it. -/
private def idleCheck (task now : Nat) : List (Label Arrival Choice) :=
  [.move task .tick, .move task (.clock now), .move task .none, .move task (.decide true),
    .move task .none, .move task .none, .move task .none, .move task .none]

private def locallyIdle : History :=
  calls defaultTerminalSessionConfig ⟨[], [], []⟩
    (localOpening 0 "alice" "t0" ++ ticking 2 (secs 1800) ++ idleCheck 0 (secs 1800))

/-- Alice's terminal on the node has started; nothing happens for the timeout. -/
private def remotelyIdle : History :=
  calls defaultTerminalSessionConfig oneNode
    (agentOpening 0 false ++ remoteOpening 1 "alice" "t0" ++ agentStarts 0 1 ++
      ticking 2 (secs 1800))

theorem idle_timeout_removes_locally : ∃ pool tick request session,
    Reaches defaultTerminalSessionConfig ⟨[], [], []⟩ locallyIdle pool ∧
    OpenedBy locallyIdle 0 request 0 ∧
    locallyIdle = locallyIdle.take 10 ++ tick :: locallyIdle.drop 11 ∧
    IdleTick defaultTerminalSessionConfig (secs 1800) tick request.sessionId session ∧
    session.state = .active ∧ pool.shared.sessions.get request.sessionId = none := by
  obtain ⟨pool, h, returned⟩ : ∃ pool,
      Reaches defaultTerminalSessionConfig ⟨[], [], []⟩ locallyIdle pool ∧ Returned pool 0 :=
    reaches_returned rfl
  obtain ⟨request, opened, hid, backend⟩ : ∃ request, OpenedBy locallyIdle 0 request 0 ∧
      request.sessionId = sessionIdOf 1 ∧ request.backend = .local 0 :=
    ⟨_, List.mem_of_getElem? (i := 3) rfl, rfl, rfl⟩
  obtain ⟨tick, session, htick, idle, hactive⟩ : ∃ tick session, locallyIdle[10]? = some tick ∧
      IdleTick defaultTerminalSessionConfig (secs 1800) tick (sessionIdOf 1) session ∧
      session.state = .active := by
    refine ⟨_, _, rfl, ⟨rfl, ⟨.clock (secs 1800), rfl, rfl⟩, rfl, rfl, ?_⟩, rfl⟩
    exact Nat.le_refl (secs 1800)
  rw [← hid] at idle
  have checked : IdleChecked defaultTerminalSessionConfig locallyIdle pool request.sessionId := by
    rw [hid]
    exact ⟨0, List.mem_of_getElem? (i := 11) rfl, returned⟩
  refine ⟨pool, tick, request, session, h, opened, split_at htick, idle, hactive, ?_⟩
  exact (idle_timeout_removes_iff h opened (split_at htick) idle (fun _ _ => checked)).mpr
    (Or.inr (Or.inr (Or.inl ⟨0, backend⟩)))

/-- The tick has found the attached remote session idle for the timeout, and goes on tracking
    it. -/
theorem idle_remote_session_stays : ∃ pool tick request session,
    Reaches defaultTerminalSessionConfig oneNode remotelyIdle pool ∧
    remotelyIdle = remotelyIdle.take 28 ++ [tick] ∧ OpenedBy remotelyIdle 1 request 0 ∧
    request.backend = .remote 0 ∧
    IdleTick defaultTerminalSessionConfig (secs 1800) tick request.sessionId session ∧
    session.state = .active ∧ pool.shared.sessions.get request.sessionId ≠ none := by
  obtain ⟨pool, h⟩ : ∃ pool, Reaches defaultTerminalSessionConfig oneNode remotelyIdle pool :=
    reaches_calls rfl
  obtain ⟨request, opened, hid, backend⟩ : ∃ request, OpenedBy remotelyIdle 1 request 0 ∧
      request.sessionId = sessionIdOf 1 ∧ request.backend = .remote 0 :=
    ⟨_, List.mem_of_getElem? (i := 10) rfl, rfl, rfl⟩
  obtain ⟨tick, session, htick, idle, hactive⟩ : ∃ tick session, remotelyIdle[28]? = some tick ∧
      IdleTick defaultTerminalSessionConfig (secs 1800) tick (sessionIdOf 1) session ∧
      session.state = .active := by
    refine ⟨_, _, rfl, ⟨rfl, ⟨.clock (secs 1800), rfl, rfl⟩, rfl, rfl, ?_⟩, rfl⟩
    exact Nat.le_refl (secs 1800)
  refine ⟨pool, tick, request, session, h, split_at htick, opened, backend, hid ▸ idle, hactive, ?_⟩
  have hstate : pool.shared.sessions.state (sessionIdOf 1) = some .active := by
    rw [h.shared_eq]
    rfl
  intro gone
  rw [TerminalSessionRegistry.state, ← hid, gone] at hstate
  cases hstate

end Sunbolt.Control
