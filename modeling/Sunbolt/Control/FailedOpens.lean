/- Module: Sunbolt/Control/FailedOpens
   scope: sunbolt-control/src/terminal/mod.rs, sunbolt-control/src/terminal/session_registry.rs
   digest: When a terminal that failed to open has left nothing behind. -/

import Sunbolt.Control.OpenOrder
import Sunbolt.Control.SessionEnds

set_option autoImplicit false
set_option relaxedAutoImplicit false

namespace Sunbolt.Control

open Sunbolt.Library
open Sunbolt.Protocol (TerminalSessionId TerminalReconnectToken)

/-- The handler was given this id for a new session, and has come to serve none. -/
def FailedOpen (past : Past) (sessionId : TerminalSessionId) : Prop :=
  Did past (.host .nextSessionId) sessionId ∧ ¬Serves past

/-- The handler of the failed session leaves nothing behind: no entry for it, no change of
    another session, no terminal that it has started without a close; and nobody else has started
    one for it. -/
structure LeavesNothing (history : History) (state : AppState) (task : Nat)
    (sessionId : TerminalSessionId) : Prop where
  entry : state.sessions.get sessionId = none
  others : ∀ e ∈ history, e.task = task → ∀ other, other ≠ sessionId →
    e.after.sessions.get other = e.before.sessions.get other
  closed : unclosed (own task history) = []
  starter : ∀ e ∈ history, ∀ channel size,
    e.action = .agent (.sendCommand channel (.startTerminal sessionId size)) → e.task = task

/-- Another task has taken the session out of the registry. -/
def TakenOut (history : History) (task : Nat) (sessionId : TerminalSessionId) : Prop :=
  ∃ e ∈ history, e.task ≠ task ∧ e.before.sessions.get sessionId ≠ none ∧
    e.after.sessions.get sessionId = none

section Opening

variable {config : TerminalSessionConfig} {nodes : NodeEnrollmentState}
  {history front back : History} {pool : ControlPool} {e : ControlEvent} {task : Nat}
  {sessionId other : TerminalSessionId}

/-- The session that an opening call inserts, reattaches to or moves. -/
def opensOn : Interaction Action Reply → Option TerminalSessionId
  | ⟨.terminal (.insert request), _⟩ => some request.sessionId
  | ⟨.terminal (.reattach sessionId ..), some _⟩ => some sessionId
  | ⟨.terminal (.setState sessionId _), _⟩ => some sessionId
  | _ => none

private theorem get_modify_or (registry : TerminalSessionRegistry)
    (f : TrackedTerminalSession → TrackedTerminalSession) :
    (registry.modify sessionId f).get other = registry.get other ∨
      sessionId = other ∧ (registry.modify sessionId f).get other ≠ none := by
  rw [TerminalSessionRegistry.get_modify]
  split_ifs with heq
  · cases registry.get other with
    | none => exact Or.inl rfl
    | some session => exact Or.inr ⟨heq.symm, Option.some_ne_none _⟩
  · exact Or.inl rfl

/-- An opening call changes at most the session that it is about, and does not take it out. -/
theorem AppStep.opening {state next : AppState} {action : Action} {reply : Reply action}
    (step : AppStep task state action reply next) (opening : isOpening action = true)
    (other : TerminalSessionId) :
    next.sessions.get other = state.sessions.get other ∨
      opensOn ⟨action, reply⟩ = some other ∧ next.sessions.get other ≠ none := by
  cases step with
  | write hwrite =>
    cases hwrite with
    | insert request now token =>
      rcases state.sessions.insertBackend_cases request now token with ⟨error, heq⟩ | heq
      · rw [heq]
        exact Or.inl rfl
      · rw [heq, TerminalSessionRegistry.get_insert]
        split_ifs with hother
        · exact Or.inr ⟨congrArg some hother.symm, Option.some_ne_none _⟩
        · exact Or.inl rfl
    | reattach named given actorEmail now token =>
      rcases state.sessions.reattach_cases named given actorEmail now token with
        heq | ⟨session, -, -, -, -, heq⟩
      · rw [heq]
        exact Or.inl rfl
      · rw [heq]
        exact (get_modify_or state.sessions _).imp_right (And.imp_left (congrArg some))
    | setState named moved =>
      exact (get_modify_or state.sessions _).imp_right (And.imp_left (congrArg some))
    | _ => first | (cases opening; done) | exact Or.inl rfl
  | _ => exact Or.inl rfl

/-- The session of a call is the one that the task was given the id of, unless it serves one. -/
private theorem given_of_opens {actorEmail : String} {past : Past}
    {x : Interaction Action Reply} (act : browserAct actorEmail past x.action)
    (opens : opensOn x = some other) :
    Did past (.host .nextSessionId) other ∨ Serves (past ++ [x]) := by
  unfold opensOn at opens
  split at opens
  · cases opens
    exact Or.inl act.2.1
  · rename_i named token actor target
    exact Or.inr (Or.inr (Or.inr ⟨named, token, actor, target, by simp [Did]⟩))
  · cases opens
    obtain ⟨⟨backend, output, opened | ⟨token, target, -, reattached, -⟩⟩, -⟩ := act
    · exact Or.inl opened.1
    · refine Or.inr (Or.inr (Or.inr ⟨other, token, actorEmail, target, ?_⟩))
      exact reattached.later (List.prefix_append ..)
  · cases opens

/-- A failed open is the handler of a browser. -/
private theorem Reaches.failed_browser (h : Reaches config nodes history pool)
    (failed : FailedOpen (own task history) sessionId) :
    ∃ e ∈ history, e.task = task ∧ ∃ actorEmail, e.origin = .terminalSocket actorEmail := by
  obtain ⟨front, e, back, hsplit, htask, hissues⟩ := exists_split_of_did failed.1
  have act := (h.next hsplit).act
  have haction : e.action = .host .nextSessionId := congrArg Interaction.action hissues
  rw [haction] at act
  obtain ⟨actorEmail, horigin, -⟩ := browser_only_host act rfl
  exact ⟨e, hsplit ▸ List.mem_append_right _ (List.mem_cons_self ..), htask, actorEmail, horigin⟩

private theorem Reaches.leavesOnly (h : Reaches config nodes history pool)
    (returned : Returned pool task) (failed : FailedOpen (own task history) sessionId) :
    LeavesOnly (own task history) [] := by
  obtain ⟨e, he, rfl, actorEmail, horigin⟩ := h.failed_browser failed
  obtain ⟨origin, ended⟩ := returned
  have halt : openHalt e.origin (own e.task history) :=
    Service.Reaches.halted (openOrder_sound config) h he ended
  rw [horigin] at halt
  exact halt.resolve_left failed.2

/-- Every call of a handler that fails to open its session is an opening call. -/
private theorem Reaches.failed_act (h : Reaches config nodes history pool)
    (failed : FailedOpen (own e.task history) sessionId) (hsplit : history = front ++ e :: back) :
    OpeningCall (own e.task front) e.action ∧ ∃ actorEmail,
      browserAct actorEmail (own e.task front) e.action := by
  obtain ⟨other, hother, htask, actorEmail, hbrowser⟩ := h.failed_browser failed
  have he : e ∈ history := hsplit ▸ List.mem_append_right _ (List.mem_cons_self ..)
  have horigin : e.origin = .terminalSocket actorEmail :=
    (h.origin he hother htask.symm).trans hbrowser
  have opens := Service.Reaches.act (openOrder_sound config) h hsplit
  have act := (h.next hsplit).act
  rw [horigin] at opens act
  refine ⟨Or.resolve_left opens (fun serves => failed.2 (serves.later ?_)), actorEmail, act⟩
  exact hsplit ▸ own_isPrefix e.task front (e :: back)

/-- A handler that fails to open its session changes no other one, and does not take it out. -/
private theorem Reaches.failed_step (h : Reaches config nodes history pool)
    (returned : Returned pool task) (failed : FailedOpen (own task history) sessionId)
    (he : e ∈ history) (htask : e.task = task) (other : TerminalSessionId) :
    e.after.sessions.get other = e.before.sessions.get other ∨
      other = sessionId ∧ e.after.sessions.get other ≠ none := by
  subst htask
  obtain ⟨front, back, hsplit⟩ := List.append_of_mem he
  obtain ⟨opening, actorEmail, act⟩ := h.failed_act failed hsplit
  rcases (h.next hsplit).step.opening opening.opening other with hsame | ⟨opens, left⟩
  · exact Or.inl hsame
  refine Or.inr ⟨?_, left⟩
  rcases given_of_opens (x := e.interaction) act opens with given | serves
  · refine (h.leavesOnly returned failed).issued other sessionId (given.later ?_) failed.1
    exact hsplit ▸ own_isPrefix e.task front (e :: back)
  · refine absurd (serves.later ?_) failed.2
    have hown : own e.task (front ++ [e]) = own e.task front ++ [e.interaction] :=
      Service.own_append_same ..
    have hthrough : history = front ++ [e] ++ back := hsplit.trans (List.append_cons ..)
    rw [hthrough, ← hown]
    exact own_isPrefix e.task (front ++ [e]) back

/-- A start command goes out for the id that its sender was given. -/
private theorem Next.starter {channel : Nat} {size : ProtocolTerminalSize} (next : Next front e)
    (starts : e.action = .agent (.sendCommand channel (.startTerminal sessionId size))) :
    Did (own e.task front) (.host .nextSessionId) sessionId := by
  have act := next.act
  rw [starts] at act
  cases horigin : e.origin with
  | terminalSocket actorEmail =>
    rw [horigin] at act
    exact act
  | terminateSession actorEmail named =>
    rw [horigin] at act
    cases act.1
  | cleanupWorker =>
    rw [horigin] at act
    obtain ⟨_, _, _, _, _, _, _, hclose⟩ := act
    cases hclose
  | revokeNode actorEmail nodeId =>
    rw [horigin] at act
    obtain ⟨_, _, _, _, _, hclose⟩ := act
    cases hclose
  | _ =>
    rw [horigin] at act
    cases act

/-- The entry of a session whose Started message was lost stays until another task takes it
    out. -/
private theorem Reaches.lost_stays (h : Reaches config nodes history pool)
    (returned : Returned pool task) (failed : FailedOpen (own task history) sessionId)
    (lost : StartedLost (own task history) sessionId)
    (kept : ¬TakenOut history task sessionId) :
    pool.shared.sessions.get sessionId ≠ none := by
  obtain ⟨node, size, token, status, hsent⟩ := lost
  obtain ⟨front, sends, back, hsplit, rfl, hsends⟩ := exists_split_of_did hsent
  obtain ⟨opening, -⟩ := h.failed_act failed hsplit
  obtain ⟨request, output, hinsert, rfl⟩ :=
    opening.announced _ _ _ _ _ (congrArg Interaction.action hsends)
  have hinsert := hinsert.later (hsplit ▸ own_isPrefix sends.task front (sends :: back))
  obtain ⟨early, inserts, later, hinserts, -, heq⟩ := exists_split_of_did hinsert
  refine h.since_end (I := fun state => state.sessions.get request.sessionId ≠ none) hinserts
    ((h.next hinserts).insert_tracked heq) ?_
  intro before other hother next tracked gone
  have hmem : other ∈ history :=
    hinserts ▸ List.mem_append_right _ (List.mem_cons_of_mem inserts hother)
  by_cases htask : other.task = sends.task
  · rcases h.failed_step returned failed hmem htask request.sessionId with hsame | ⟨-, left⟩
    · exact tracked (hsame.symm.trans gone)
    · exact left gone
  · exact kept ⟨other, hmem, htask, tracked, gone⟩

/-- A session whose Started message was not lost was not inserted, and one that another task
    has taken out does not come back. -/
private theorem Reaches.untracked (h : Reaches config nodes history pool)
    (returned : Returned pool task) (failed : FailedOpen (own task history) sessionId)
    (undone : ¬StartedLost (own task history) sessionId ∨ TakenOut history task sessionId) :
    pool.shared.sessions.get sessionId = none := by
  rcases undone with announced | ⟨e, he, -, tracked, gone⟩
  · rw [Option.eq_none_iff_forall_ne_some]
    intro session found
    obtain ⟨opener, request, output, hopened, rfl, -⟩ := h.ledger.tracked found
    obtain rfl := h.ledger.issuedOnce (h.ledger.inserted hopened).1 failed.1
    exact announced ((h.leavesOnly returned failed).inserted request output hopened)
  · obtain ⟨opener, request, output, hopened, rfl⟩ := h.opened_of_tracked he tracked
    exact (h.gone_iff hopened).mpr ⟨e, he, tracked, gone⟩

/-- A handler that was given a session id and returns without serving it leaves nothing behind
    where the Started message of the session was not lost, or another task has taken the session
    out; and only there. -/
theorem failed_open_leaves_nothing_iff (h : Reaches config nodes history pool)
    (returned : Returned pool task) (failed : FailedOpen (own task history) sessionId) :
    LeavesNothing history pool.shared task sessionId ↔
      ¬StartedLost (own task history) sessionId ∨ TakenOut history task sessionId := by
  constructor
  · intro left
    by_contra hnot
    obtain ⟨lost, kept⟩ := not_or.mp hnot
    exact h.lost_stays returned failed (not_not.mp lost) kept left.entry
  · intro undone
    refine ⟨h.untracked returned failed undone, ?_, (h.leavesOnly returned failed).started, ?_⟩
    · intro e he htask other hother
      exact (h.failed_step returned failed he htask other).resolve_right
        (fun hopened => hother hopened.1)
    · intro e he channel size starts
      obtain ⟨front, back, hsplit⟩ := List.append_of_mem he
      have given := (h.next hsplit).starter starts
      exact h.ledger.issuedOnce (given.later (hsplit ▸ own_isPrefix e.task front (e :: back)))
        failed.1

end Opening

section Runs

variable {history : History} {task : Nat} {sessionId : TerminalSessionId}

/-- The calls by which a handler begins to serve a session. -/
private def beginsToServe : Action → Bool
  | .host (.spawnReader ..) => true
  | .agent (.lockEvents _) => true
  | .terminal (.reattach ..) => true
  | _ => false

private def announces : Action → Bool
  | .host (.send (.started ..)) => true
  | _ => false

/-- No call of the task is one of these. -/
private def never (history : History) (task : Nat) (p : Action → Bool) : Bool :=
  history.all (fun e => e.task != task || !p e.action)

private theorem not_did_of_never {p : Action → Bool} {action : Action} {reply : Reply action}
    (h : never history task p = true) (hp : p action = true) :
    ¬Did (own task history) action reply := by
  intro hd
  obtain ⟨e, he, htask, heq⟩ := Service.mem_own.mp hd
  have hnot := List.all_eq_true.mp h e he
  have haction : e.action = action := congrArg Interaction.action heq
  simp [htask, haction, hp] at hnot

private theorem failedOpen_of_never
    (issued : Did (own task history) (.host .nextSessionId) sessionId)
    (idle : never history task beginsToServe = true) :
    FailedOpen (own task history) sessionId := by
  refine ⟨issued, ?_⟩
  rintro (⟨pty, named, output, hd⟩ | ⟨channel, hd⟩ | ⟨named, token, actorEmail, target, hd⟩)
  · exact not_did_of_never idle rfl hd
  · exact not_did_of_never idle rfl hd
  · exact not_did_of_never idle rfl hd

/-- One session is all that this configuration allows. -/
private def oneSession : TerminalSessionConfig := ⟨1, 1, 1, secs (30 * 60), secs (8 * 60 * 60)⟩

/-- Bob opens a terminal where the session of Alice is the last one allowed. -/
private def openingSecond : List (Label Arrival Choice) :=
  localOpening 0 "alice" "t0" ++
    [.arrive (.browser "bob"), .move 2 (.browser (some (.text (.ok (.start none ⟨80, 24⟩))))),
      .move 2 .none, .move 2 (.system (.ok ())), .move 2 (.clockToken 0 ⟨"t1"⟩), .move 2 .none,
      .move 2 .none, .move 2 (.decide true)]

private def overLimit : History := calls oneSession ⟨[], [], []⟩ openingSecond

theorem failed_open_leaves_nothing_over_limit : ∃ pool,
    Reaches oneSession ⟨[], [], []⟩ overLimit pool ∧ Returned pool 2 ∧
    LeavesNothing overLimit pool.shared 2 (sessionIdOf 2) := by
  obtain ⟨pool, h, returned⟩ : ∃ pool, Reaches oneSession ⟨[], [], []⟩ overLimit pool ∧
      Returned pool 2 := reaches_returned rfl
  have issued : Did (own 2 overLimit) (.host .nextSessionId) (sessionIdOf 2) :=
    List.mem_of_getElem? (i := 1) rfl
  have quiet : ¬StartedLost (own 2 overLimit) (sessionIdOf 2) := by
    rintro ⟨node, size, token, status, hd⟩
    exact not_did_of_never (p := announces) rfl rfl hd
  exact ⟨pool, h, returned, (failed_open_leaves_nothing_iff h returned
    (failedOpen_of_never issued rfl)).mpr (Or.inl quiet)⟩

/-- The browser of a new local session is gone when the session is announced to it. -/
private def losingStarted : List (Label Arrival Choice) :=
  [.arrive (.browser "alice"), .move 0 (.browser (some (.text (.ok (.start none ⟨80, 24⟩))))),
    .move 0 .none, .move 0 (.system (.ok ())), .move 0 (.clockToken 0 ⟨"t0"⟩), .move 0 .none,
    .move 0 (.decide false), .move 0 .none, .move 0 .none, .move 0 .none]

private def lostStarted : History := calls defaultTerminalSessionConfig ⟨[], [], []⟩ losingStarted

/-- The open fails, and its session stays in the registry. -/
theorem failed_open_left_tracked : ∃ pool,
    Reaches defaultTerminalSessionConfig ⟨[], [], []⟩ lostStarted pool ∧ Returned pool 0 ∧
    FailedOpen (own 0 lostStarted) (sessionIdOf 1) ∧
    pool.shared.sessions.state (sessionIdOf 1) = some .starting ∧
    ¬LeavesNothing lostStarted pool.shared 0 (sessionIdOf 1) := by
  obtain ⟨pool, h, returned⟩ : ∃ pool,
      Reaches defaultTerminalSessionConfig ⟨[], [], []⟩ lostStarted pool ∧ Returned pool 0 :=
    reaches_returned rfl
  have issued : Did (own 0 lostStarted) (.host .nextSessionId) (sessionIdOf 1) :=
    List.mem_of_getElem? (i := 1) rfl
  have starting : pool.shared.sessions.state (sessionIdOf 1) = some .starting := by
    rw [h.shared_eq]
    rfl
  refine ⟨pool, h, returned, failedOpen_of_never issued rfl, starting, fun left => ?_⟩
  rw [TerminalSessionRegistry.state, left.entry] at starting
  cases starting

end Runs

end Sunbolt.Control
