/- Module: Sunbolt/Control/SessionEnds
   scope: sunbolt-control/src/terminal/session_registry.rs
   digest: A session leaves the registry for good, and its PTY is closed with it. -/

import Sunbolt.Control.LoopOrder
import Sunbolt.Control.PtyStates
import Sunbolt.Control.SessionLedger

set_option autoImplicit false
set_option relaxedAutoImplicit false

namespace Sunbolt.Control

open Sunbolt.Library
open Sunbolt.Protocol (TerminalSessionId TerminalReconnectToken)
open Sunbolt.Terminal (TerminalSessionState)

/-! Closed PTYs. -/

namespace TerminalSessionRegistry

variable {registry : TerminalSessionRegistry} {pty : Nat}

/-- The PTY has been closed, or its shell has been seen to exit. -/
def IsClosed (registry : TerminalSessionRegistry) (pty : Nat) : Prop :=
  ∃ session, registry.ptys[pty]? = some session ∧ session.closed = true

theorem isClosed_of_ptys {next : TerminalSessionRegistry} (h : registry.IsClosed pty)
    (same : next.ptys = registry.ptys) : next.IsClosed pty := by
  rw [IsClosed, same]
  exact h

/-- What closes some PTYs leaves none of the closed ones open. -/
theorem IsClosed.closes {next : TerminalSessionRegistry} (h : registry.IsClosed pty)
    (closes : registry.Closes next) : next.IsClosed pty := by
  obtain ⟨session, found, hclosed⟩ := h
  rcases closes.each pty session found with hsame | hagain
  · exact ⟨session, hsame, hclosed⟩
  · exact ⟨session.close, hagain, close_closed session⟩

theorem isClosed_closePty (h : pty < registry.ptys.length) :
    (registry.closePty pty).IsClosed pty :=
  ⟨registry.ptys[pty].close, by simp [TerminalSessionRegistry.closePty, h], close_closed _⟩

variable {sessionId : TerminalSessionId} {session : TrackedTerminalSession}

/-- A session that is taken out has its PTY closed. -/
theorem isClosed_removeTracked (found : registry.get sessionId = some session)
    (backend : session.backend = .local pty) (h : pty < registry.ptys.length) :
    (registry.removeTracked sessionId).1.IsClosed pty := by
  rw [TerminalSessionRegistry.removeTracked, found]
  dsimp only
  rw [backend]
  exact isClosed_closePty h

theorem isClosed_terminate (found : registry.get sessionId = some session)
    (backend : session.backend = .local pty) (h : pty < registry.ptys.length) :
    (registry.terminate sessionId).1.IsClosed pty := by
  have hclosed : ((registry.modify sessionId ({ · with state := .terminating })).removeTracked
      sessionId).1.IsClosed pty := by
    have assigned : (registry.modify sessionId ({ · with state := .terminating })).get sessionId =
        some { session with state := .terminating } := by
      rw [get_modify, if_pos rfl, found]
      rfl
    exact isClosed_removeTracked assigned backend h
  rw [TerminalSessionRegistry.terminate]
  split
  · rename_i heq
    rwa [heq] at hclosed
  · rename_i heq
    rw [heq] at hclosed
    exact isClosed_of_ptys hclosed rfl

theorem isClosed_remove (found : registry.get sessionId = some session)
    (backend : session.backend = .local pty) (h : pty < registry.ptys.length) :
    (registry.remove sessionId).IsClosed pty := by
  have hclosed := isClosed_removeTracked found backend h
  rw [TerminalSessionRegistry.remove]
  split
  · rename_i heq
    rwa [heq] at hclosed
  · rename_i heq
    rw [heq] at hclosed
    exact isClosed_of_ptys hclosed rfl

theorem isClosed_removeEach {state : TerminalSessionState} {ids : List TerminalSessionId}
    (hid : sessionId ∈ ids) (found : registry.get sessionId = some session)
    (backend : session.backend = .local pty) (h : pty < registry.ptys.length) :
    (removeEach state ids registry).1.IsClosed pty := by
  induction ids generalizing registry session with
  | nil => cases hid
  | cons first ids ih =>
    have hget := get_removeTracked (registry.modify first ({ · with state := state })) first
    have hsizes := sizes_removeTracked (registry.modify first ({ · with state := state })) first
    by_cases hfirst : sessionId = first
    · subst hfirst
      have hclosed : ((registry.modify sessionId ({ · with state := state })).removeTracked
          sessionId).1.IsClosed pty := by
        have assigned : (registry.modify sessionId ({ · with state := state })).get sessionId =
            some { session with state := state } := by
          rw [get_modify, if_pos rfl, found]
          rfl
        exact isClosed_removeTracked assigned backend h
      rw [TerminalSessionRegistry.removeEach]
      split
      · rename_i heq
        rw [heq] at hclosed
        exact hclosed.closes (closes_removeEach state ids _)
      · rename_i heq
        rw [heq] at hclosed
        exact hclosed.closes (closes_removeEach state ids _)
    · have hrest : sessionId ∈ ids := (List.mem_cons.mp hid).resolve_left hfirst
      have kept := hget sessionId
      rw [if_neg hfirst, get_modify, if_neg hfirst, found] at kept
      have held : pty < ((registry.modify first ({ · with state := state })).removeTracked
          first).1.ptys.length := by
        have hlength := congrArg Prod.fst hsizes
        simp only [sizes, ptys_modify] at hlength
        omega
      rw [TerminalSessionRegistry.removeEach]
      split
      · rename_i heq
        rw [heq] at kept held
        exact ih hrest kept backend held
      · rename_i heq
        rw [heq] at kept held
        exact ih hrest kept backend held

theorem terminate_reply (registry : TerminalSessionRegistry) (sessionId : TerminalSessionId) :
    (registry.terminate sessionId).2 = (registry.get sessionId).map (·.backend) := by
  have hget : (registry.modify sessionId ({ · with state := .terminating })).get sessionId =
      (registry.get sessionId).map ({ · with state := .terminating }) := by
    rw [get_modify, if_pos rfl]
  rw [TerminalSessionRegistry.terminate, TerminalSessionRegistry.removeTracked, hget]
  cases registry.get sessionId with
  | none => rfl
  | some session => rfl

end TerminalSessionRegistry

section Steps

variable {registry next : TerminalSessionRegistry} {action : TerminalAction}
  {reply : TerminalReply action} {pty : Nat}

/-- A closed PTY stays closed. -/
theorem TerminalWrite.isClosed (write : TerminalWrite registry action reply next)
    (h : registry.IsClosed pty) : next.IsClosed pty := by
  obtain ⟨session, found, hclosed⟩ := h
  obtain ⟨after, hafter, step⟩ := write.ptyStep found
  exact ⟨after, hafter, step.closed hclosed⟩

/-- The calls that may take a session out of the registry. -/
def mayTakeOut (sessionId : TerminalSessionId) : TerminalAction → Bool
  | .terminate named => named = sessionId
  | .remove named => named = sessionId
  | .drainExpired .. => true
  | .closeSessionsForNode _ => true
  | _ => false

private theorem tracked_of_modify {named sessionId : TerminalSessionId}
    {f : TrackedTerminalSession → TrackedTerminalSession}
    (h : (registry.modify named f).get sessionId = none) : registry.get sessionId = none := by
  rw [TerminalSessionRegistry.get_modify] at h
  split_ifs at h
  · exact Option.map_eq_none_iff.mp h
  · exact h

/-- A session that a call takes out has its PTY closed by it. -/
theorem TerminalWrite.takesOut (write : TerminalWrite registry action reply next)
    {sessionId : TerminalSessionId} {session : TrackedTerminalSession}
    (found : registry.get sessionId = some session) (gone : next.get sessionId = none) :
    mayTakeOut sessionId action = true ∧
      (session.backend = .local pty → pty < registry.ptys.length → next.IsClosed pty) := by
  have stays : ∀ {P : Prop}, registry.get sessionId = none → P := by
    intro P hnone
    rw [found] at hnone
    cases hnone
  cases write with
  | insert request now token =>
    rcases registry.insertBackend_cases request now token with ⟨error, heq⟩ | heq
    · rw [heq] at gone
      exact stays gone
    · rw [heq, TerminalSessionRegistry.get_insert] at gone
      split_ifs at gone
      exact stays gone
  | setState named state => exact stays (tracked_of_modify gone)
  | reattach named reconnectToken actorEmail now token =>
    rcases registry.reattach_cases named reconnectToken actorEmail now token with
      heq | ⟨tracked, -, -, -, -, heq⟩
    · rw [heq] at gone
      exact stays gone
    · rw [heq] at gone
      exact stays (tracked_of_modify gone)
  | touch named now => exact stays (tracked_of_modify gone)
  | setSize named size => exact stays (tracked_of_modify gone)
  | recordOutput named data => exact stays (tracked_of_modify gone)
  | rememberServerMessage message =>
    rw [TerminalSessionRegistry.get_rememberServerMessage] at gone
    split_ifs at gone
    · exact stays (Option.map_eq_none_iff.mp gone)
    · exact stays gone
  | terminate named =>
    rw [TerminalSessionRegistry.get_terminate] at gone
    split_ifs at gone with hid
    · subst hid
      exact ⟨by simp [mayTakeOut], TerminalSessionRegistry.isClosed_terminate found⟩
    · exact stays gone
  | remove named =>
    rw [TerminalSessionRegistry.get_remove] at gone
    split_ifs at gone with hid
    · subst hid
      exact ⟨by simp [mayTakeOut], TerminalSessionRegistry.isClosed_remove found⟩
    · exact stays gone
  | drainExpired maxDuration idleTimeout now =>
    rw [TerminalSessionRegistry.drainExpired, TerminalSessionRegistry.get_removeEach] at gone
    split_ifs at gone with hid
    · exact ⟨rfl, TerminalSessionRegistry.isClosed_removeEach hid found⟩
    · exact stays gone
  | closeSessionsForNode nodeId =>
    rw [TerminalSessionRegistry.closeSessionsForNode,
      TerminalSessionRegistry.get_removeEach] at gone
    split_ifs at gone with hid
    · exact ⟨rfl, TerminalSessionRegistry.isClosed_removeEach hid found⟩
    · exact stays gone
  | _ => exact stays gone

/-- The session keeps its state, is set to one its state may go to, or is reattached to. -/
def StateMove (sessionId : TerminalSessionId) (before after : TerminalSessionState)
    (action : TerminalAction) : Prop :=
  after = before ∨
  (action = .setState sessionId after ∧ before.canTransitionTo after = true) ∨
  (∃ token actorEmail, action = .reattach sessionId token actorEmail) ∧
    before.isReattachable = true ∧ after = .reattaching

private theorem stateMove_moveTo (sessionId : TerminalSessionId)
    (session : TrackedTerminalSession) (state : TerminalSessionState) :
    StateMove sessionId session.state (session.moveTo state).state
      (.setState sessionId state) := by
  rw [TrackedTerminalSession.moveTo]
  split_ifs with hskip
  · exact Or.inl rfl
  · by_cases hsame : session.state = state
    · exact Or.inl hsame.symm
    · refine Or.inr (Or.inl ⟨rfl, ?_⟩)
      by_contra hnot
      exact hskip (by simpa [hsame] using hnot)

theorem TerminalWrite.stateMove (write : TerminalWrite registry action reply next)
    {sessionId : TerminalSessionId} {session after : TrackedTerminalSession}
    (found : registry.get sessionId = some session) (left : next.get sessionId = some after)
    (old : ∀ request, action = .insert request → request.sessionId ≠ sessionId) :
    StateMove sessionId session.state after.state action := by
  have unchanged : registry.get sessionId = some after →
      StateMove sessionId session.state after.state action := by
    intro hsame
    obtain rfl := Option.some.inj (found.symm.trans hsame)
    exact Or.inl rfl
  have step := write.session left
  cases step with
  | same _ hsame => exact unchanged hsame
  | insert request now token named => exact absurd named (old request rfl)
  | setState state before hbefore =>
    obtain rfl := Option.some.inj (found.symm.trans hbefore)
    exact stateMove_moveTo sessionId session state
  | reattach reconnectToken actorEmail now token before given hbefore =>
    cases write with
    | reattach _ _ _ now' token' =>
      rcases registry.reattach_cases sessionId reconnectToken actorEmail now' token' with
        heq | ⟨tracked, htracked, -, reattachable, -, -⟩
      · rw [heq] at left
        exact unchanged left
      · obtain rfl := Option.some.inj (found.symm.trans htracked)
        exact Or.inr (Or.inr ⟨⟨_, _, rfl⟩, reattachable, rfl⟩)
  | touch now before hbefore =>
    obtain rfl := Option.some.inj (found.symm.trans hbefore)
    exact Or.inl rfl
  | setSize size before hbefore =>
    obtain rfl := Option.some.inj (found.symm.trans hbefore)
    exact Or.inl rfl
  | recordOutput data before given hbefore =>
    obtain rfl := Option.some.inj (found.symm.trans hbefore)
    exact Or.inl rfl
  | rememberServerMessage message before hbefore named =>
    obtain rfl := Option.some.inj (found.symm.trans hbefore)
    exact Or.inl rfl

end Steps

/-- Only a write changes the registry. -/
theorem AppStep.writes {task : Nat} {state next : AppState} {action : Action}
    {reply : Reply action} (step : AppStep task state action reply next) :
    next.sessions = state.sessions ∨ ∃ (called : TerminalAction) (given : TerminalReply called),
      (⟨action, reply⟩ : Interaction Action Reply) = ⟨.terminal called, given⟩ ∧
        TerminalWrite state.sessions called given next.sessions := by
  cases step with
  | write write => exact Or.inr ⟨_, _, rfl, write⟩
  | _ => exact Or.inl rfl

theorem AppStep.setsState {task : Nat} {state next : AppState} {sessionId : TerminalSessionId}
    {target : TerminalSessionState} {reply : Unit}
    (step : AppStep task state (.terminal (.setState sessionId target)) reply next) :
    next.sessions = state.sessions.setState sessionId target := by
  cases step with
  | write write =>
    cases write
    rfl
  | read read => cases read

theorem AppStep.removes {task : Nat} {state next : AppState} {sessionId : TerminalSessionId}
    {reply : Unit} (step : AppStep task state (.terminal (.remove sessionId)) reply next) :
    next.sessions.get sessionId = none := by
  cases step with
  | write write =>
    cases write
    exact (TerminalSessionRegistry.get_remove ..).trans (if_pos rfl)
  | read read => cases read

theorem AppStep.terminates {task : Nat} {state next : AppState} {sessionId : TerminalSessionId}
    {backend : Option TerminalBackend}
    (step : AppStep task state (.terminal (.terminate sessionId)) backend next) :
    next.sessions.get sessionId = none ∧
      backend = (state.sessions.get sessionId).map (·.backend) := by
  cases step with
  | write write =>
    cases write
    exact ⟨(TerminalSessionRegistry.get_terminate ..).trans (if_pos rfl),
      TerminalSessionRegistry.terminate_reply ..⟩
  | read read => cases read

/-! Sessions over a run. -/

/-- The call that takes the session out of the registry. -/
def TakesOut (sessionId : TerminalSessionId) (e : ControlEvent) : Prop :=
  e.before.sessions.get sessionId ≠ none ∧ e.after.sessions.get sessionId = none

section Calls

variable {front : History} {e : ControlEvent} {request : TerminalSessionInsert} {output : Nat}

theorem Next.ledger_after (next : Next front e) : Ledger (front ++ [e]) e.after :=
  next.ledger.step next.act next.step

/-- An insert gives the session an id that no session had before. -/
theorem Next.insert_fresh (next : Next front e)
    (inserts : e.interaction = ⟨.terminal (.insert request), .ok output⟩) {opener given : Nat}
    {earlier : TerminalSessionInsert} (opened : OpenedBy front opener earlier given) :
    earlier.sessionId ≠ request.sessionId := by
  intro hid
  have hold : OpenedBy (front ++ [e]) opener earlier given :=
    opened.later (own_isPrefix opener front [e])
  have hnew : OpenedBy (front ++ [e]) e.task request output :=
    did_snoc.mpr (Or.inr ⟨rfl, inserts⟩)
  obtain ⟨-, -, houtput⟩ := next.ledger_after.unique_id hold hnew hid
  have step := next.step
  have channel := next.ledger.channel opened
  obtain ⟨task, origin, action, reply, before, after, spawned⟩ := e
  cases inserts
  have hlength : output = before.sessions.outputs.length := step.opened.1
  change given < before.sessions.outputs.length at channel
  omega

/-- A session is not tracked yet when its insert is tried. -/
theorem Next.insert_untracked (next : Next front e)
    (haction : e.action = .terminal (.insert request)) :
    e.before.sessions.get request.sessionId = none := by
  rw [Option.eq_none_iff_forall_ne_some]
  intro session found
  obtain ⟨opener, earlier, given, hopened, hid, -⟩ := next.ledger.tracked found
  obtain ⟨result, inserts⟩ : ∃ result, e.interaction = ⟨.terminal (.insert request), result⟩ := by
    obtain ⟨task, origin, action, reply, before, after, spawned⟩ := e
    cases haction
    exact ⟨reply, rfl⟩
  have hnew : Did (own e.task (front ++ [e])) (.terminal (.insert request)) result :=
    did_snoc.mpr (Or.inr ⟨rfl, inserts⟩)
  have hold : OpenedBy (front ++ [e]) opener earlier given :=
    hopened.later (own_isPrefix opener front [e])
  have issued := (next.ledger_after.inserted hold).1
  rw [hid] at issued
  obtain rfl := next.ledger_after.issuedOnce (next.ledger_after.inserted hnew).1 issued
  have heq := next.ledger_after.insertedOnce hold hnew
  exact next.insert_fresh (inserts.trans heq.symm) hopened rfl

theorem Next.insert_tracked (next : Next front e)
    (inserts : e.interaction = ⟨.terminal (.insert request), .ok output⟩) :
    e.after.sessions.get request.sessionId ≠ none := by
  have step := next.step
  obtain ⟨task, origin, action, reply, before, after, spawned⟩ := e
  cases inserts
  obtain ⟨-, now, token, hafter⟩ := AppStep.opened step
  rw [hafter, TerminalSessionRegistry.get_insert, if_pos rfl]
  exact Option.some_ne_none _

/-- A session that has been taken out does not come back. -/
theorem Next.stays_gone (next : Next front e) {opener : Nat}
    (opened : OpenedBy front opener request output)
    (gone : e.before.sessions.get request.sessionId = none) :
    e.after.sessions.get request.sessionId = none := by
  rcases next.step.writes with hsame | ⟨called, given, hcall, write⟩
  · rw [hsame]
    exact gone
  · rw [Option.eq_none_iff_forall_ne_some]
    intro session found
    rcases write.identity found with ⟨before, hbefore, -⟩ | ⟨later, channel, heq, hid, -⟩
    · rw [gone] at hbefore
      cases hbefore
    · exact next.insert_fresh (hcall.trans heq) opened hid.symm

/-- A session that a call finds untracked and leaves tracked is the one it inserts. -/
theorem Next.inserted_of_untracked (next : Next front e) {sessionId : TerminalSessionId}
    {session : TrackedTerminalSession} (gone : e.before.sessions.get sessionId = none)
    (left : e.after.sessions.get sessionId = some session) :
    ∃ request output now token,
      e.interaction = ⟨.terminal (.insert request), .ok output⟩ ∧
      request.sessionId = sessionId ∧ session = request.tracked output now token := by
  rcases next.step.writes with hsame | ⟨called, given, hcall, write⟩
  · rw [hsame, gone] at left
    cases left
  · have step := write.session left
    have tracked : ∀ {before}, e.before.sessions.get sessionId ≠ some before := by
      intro before hbefore
      rw [gone] at hbefore
      cases hbefore
    cases step with
    | insert request now token named => exact ⟨request, _, now, token, hcall, named, rfl⟩
    | same _ found => exact absurd found tracked
    | setState state before found => exact absurd found tracked
    | reattach token actorEmail now fresh before given found => exact absurd found tracked
    | touch now before found => exact absurd found tracked
    | setSize size before found => exact absurd found tracked
    | recordOutput data before given found => exact absurd found tracked
    | rememberServerMessage message before found named => exact absurd found tracked

/-- What the next call makes of the state of a tracked session. -/
theorem Next.stateMove (next : Next front e) {sessionId : TerminalSessionId}
    {before after : TrackedTerminalSession}
    (found : e.before.sessions.get sessionId = some before)
    (left : e.after.sessions.get sessionId = some after) :
    after.state = before.state ∨
    (e.action = .terminal (.setState sessionId after.state) ∧
      before.state.canTransitionTo after.state = true) ∨
    (∃ token actorEmail, e.action = .terminal (.reattach sessionId token actorEmail)) ∧
      before.state.isReattachable = true ∧ after.state = .reattaching := by
  rcases next.step.writes with hsame | ⟨called, given, hcall, write⟩
  · rw [hsame, found] at left
    rw [Option.some.inj left]
    exact Or.inl rfl
  · have haction : e.action = .terminal called := congrArg Interaction.action hcall
    rw [haction]
    simp only [Action.terminal.injEq]
    refine write.stateMove found left ?_
    rintro request rfl rfl
    rw [next.insert_untracked haction] at found
    cases found

/-- The opening of a session in a longer history. -/
theorem openedBy_snoc {opener : Nat} (opened : OpenedBy (front ++ [e]) opener request output) :
    OpenedBy front opener request output ∨
      e.interaction = ⟨.terminal (.insert request), .ok output⟩ :=
  (did_snoc.mp opened).imp_right And.right

end Calls

section Runs

variable {config : TerminalSessionConfig} {nodes : NodeEnrollmentState} {history : History}
  {pool : ControlPool} {opener output : Nat} {request : TerminalSessionInsert}

/-- A session that a call found tracked was opened before. -/
theorem Reaches.opened_of_tracked (h : Reaches config nodes history pool) {e : ControlEvent}
    (he : e ∈ history) {sessionId : TerminalSessionId}
    (tracked : e.before.sessions.get sessionId ≠ none) :
    ∃ opener request output, OpenedBy history opener request output ∧
      request.sessionId = sessionId := by
  obtain ⟨front, back, rfl⟩ := List.append_of_mem he
  obtain ⟨session, found⟩ := Option.ne_none_iff_exists'.mp tracked
  obtain ⟨opener, request, output, hopened, hid, -⟩ := (h.next rfl).ledger.tracked found
  exact ⟨opener, request, output, hopened.later (own_isPrefix opener front (e :: back)), hid⟩

/-- A session that was opened is untracked when some call has taken it out, and only then. -/
theorem Reaches.gone_iff (h : Reaches config nodes history pool)
    (opened : OpenedBy history opener request output) :
    pool.shared.sessions.get request.sessionId = none ↔
      ∃ e ∈ history, TakesOut request.sessionId e := by
  refine h.along (I := fun history state => ∀ {opener request output},
    OpenedBy history opener request output → (state.sessions.get request.sessionId = none ↔
      ∃ e ∈ history, TakesOut request.sessionId e)) ?_ ?_ opened
  · intro opener request output opened
    exact absurd opened List.not_mem_nil
  · intro front e pool run ih opener request output opened
    have next := run.next rfl
    have later : (∃ other ∈ front ++ [e], TakesOut request.sessionId other) ↔
        (∃ other ∈ front, TakesOut request.sessionId other) ∨ TakesOut request.sessionId e := by
      simp only [List.mem_append, List.mem_singleton, or_and_right, exists_or, exists_eq_left]
    rw [later]
    rcases openedBy_snoc opened with hold | inserts
    · by_cases gone : e.before.sessions.get request.sessionId = none
      · exact iff_of_true (next.stays_gone hold gone) (Or.inl ((ih hold).mp gone))
      · have htracked : ¬∃ other ∈ front, TakesOut request.sessionId other :=
          fun htaken => gone ((ih hold).mpr htaken)
        rw [or_iff_right htracked, TakesOut]
        exact (and_iff_right gone).symm
    · refine iff_of_false (next.insert_tracked inserts) ?_
      rintro (⟨other, hother, htracked, -⟩ | ⟨htracked, -⟩)
      · obtain ⟨before, hfront, -⟩ := run.front rfl
        obtain ⟨opener, earlier, given, hopened, hid⟩ :=
          hfront.opened_of_tracked hother htracked
        exact next.insert_fresh inserts hopened hid
      · exact htracked (next.insert_untracked (congrArg Interaction.action inserts))

/-- Some browser has been reattached to the session. -/
def WasReattached (history : History) (sessionId : TerminalSessionId) : Prop :=
  ∃ task token actorEmail target,
    Did (own task history) (.terminal (.reattach sessionId token actorEmail)) (some target)

/-- A tracked session has been started, and one that was reattached to has left Starting. -/
theorem Reaches.started (h : Reaches config nodes history pool) {sessionId : TerminalSessionId}
    {session : TrackedTerminalSession}
    (found : pool.shared.sessions.get sessionId = some session) :
    session.state ≠ .created ∧ (WasReattached history sessionId → session.state ≠ .starting) := by
  refine h.keeps (I := fun history state => ∀ {session},
    state.sessions.get sessionId = some session → session.state ≠ .created ∧
      (WasReattached history sessionId → session.state ≠ .starting)) ?_ ?_ found
  · intro session found
    cases found
  · intro front e next ih session found
    have earlier : WasReattached (front ++ [e]) sessionId → session.state ≠ .reattaching →
        WasReattached front sessionId := by
      rintro ⟨task, token, actorEmail, target, hd⟩ hstate
      rcases did_snoc.mp hd with hold | ⟨-, heq⟩
      · exact ⟨task, token, actorEmail, target, hold⟩
      · have hnow := next.step.reattaching heq
        rw [TerminalSessionRegistry.state, found] at hnow
        exact absurd (Option.some.inj hnow) hstate
    cases hbefore : e.before.sessions.get sessionId with
    | none =>
      obtain ⟨request, output, now, token, inserts, rfl, rfl⟩ :=
        next.inserted_of_untracked hbefore found
      refine ⟨TerminalSessionState.noConfusion, fun hreattached _ => ?_⟩
      obtain ⟨task, token, actorEmail, target, hd⟩ :=
        earlier hreattached TerminalSessionState.noConfusion
      obtain ⟨opener, first, channel, hopened, hid, -⟩ := next.ledger.reattached hd
      exact next.insert_fresh inserts hopened hid
    | some before =>
      obtain ⟨notCreated, notStarting⟩ := ih hbefore
      rcases next.stateMove hbefore found with hsame | ⟨-, allowed⟩ | ⟨-, -, hreattaching⟩
      · rw [hsame]
        refine ⟨notCreated, fun hreattached hstarting => ?_⟩
        exact notStarting (earlier hreattached (by simp [hsame, hstarting])) hstarting
      · have hleft : session.state = .starting → before.state = .created := by
          intro hstarting
          rw [hstarting] at allowed
          cases hstate : before.state <;>
            simp_all [TerminalSessionState.canTransitionTo]
        refine ⟨fun hcreated => ?_, fun _ hstarting => notCreated (hleft hstarting)⟩
        rw [hcreated] at allowed
        cases hstate : before.state <;> simp_all [TerminalSessionState.canTransitionTo]
      · rw [hreattaching]
        exact ⟨TerminalSessionState.noConfusion, fun _ => TerminalSessionState.noConfusion⟩

/-- The PTY of a session that has been taken out is closed. -/
theorem Reaches.closed_of_gone (h : Reaches config nodes history pool)
    (opened : OpenedBy history opener request output) {pty : Nat}
    (backend : request.backend = .local pty)
    (gone : pool.shared.sessions.get request.sessionId = none) :
    pool.shared.sessions.IsClosed pty := by
  refine h.keeps (I := fun history state => ∀ {opener request output pty},
    OpenedBy history opener request output → request.backend = .local pty →
      state.sessions.get request.sessionId = none → state.sessions.IsClosed pty) ?_ ?_
    opened backend gone
  · intro opener request output pty opened
    exact absurd opened List.not_mem_nil
  · intro front e next ih opener request output pty opened backend gone
    rcases openedBy_snoc opened with hold | inserts
    · rcases next.step.writes with hsame | ⟨called, given, hcall, write⟩
      · rw [hsame] at gone
        exact TerminalSessionRegistry.isClosed_of_ptys (ih hold backend gone) (by rw [hsame])
      · cases found : e.before.sessions.get request.sessionId with
        | none => exact write.isClosed (ih hold backend found)
        | some session =>
          obtain ⟨size, hspawned⟩ := (next.ledger.spawned hold backend).2
          refine (write.takesOut found gone).2 ?_ (next.ledger.pty hspawned)
          obtain ⟨other, later, channel, hopened, hid, hidentity⟩ := next.ledger.tracked found
          obtain ⟨-, rfl, -⟩ := next.ledger.unique_id hopened hold hid
          have hbackend : session.backend = later.backend := congrArg Prod.fst hidentity
          rw [hbackend, backend]
    · exact absurd gone (next.insert_tracked inserts)

/-! Handlers that have returned. -/

/-- The handler has run to its end. -/
def Returned (pool : ControlPool) (task : Nat) : Prop :=
  ∃ origin, pool.tasks[task]? = some ⟨origin, .done none⟩

/-- The handler has returned once these labels are followed. -/
def returnsAfter (config : TerminalSessionConfig) (nodes : NodeEnrollmentState)
    (labels : List (Label Arrival Choice)) (task : Nat) : Bool :=
  match ((controlPlane config).machine entry).run ⟨.boot nodes, []⟩ labels with
  | none => false
  | some (pool, _) => match pool.tasks[task]? with
    | some ⟨_, .done none⟩ => true
    | _ => false

theorem reaches_returned {labels : List (Label Arrival Choice)} {task : Nat}
    (h : returnsAfter config nodes labels task = true) :
    ∃ pool, Reaches config nodes (calls config nodes labels) pool ∧ Returned pool task := by
  unfold returnsAfter at h
  split at h
  · cases h
  · rename_i pool made hrun
    refine ⟨pool, ⟨labels, by simp [calls, hrun]⟩, ?_⟩
    split at h
    · rename_i origin htask
      exact ⟨origin, htask⟩
    · cases h

/-- Every call of a run keeps the order of how handlers end. -/
theorem Reaches.loopAct {front back : History} {e : ControlEvent}
    (h : Reaches config nodes history pool) (hsplit : history = front ++ e :: back) :
    loopAct e.origin (own e.task front) e.action :=
  (Service.Reaches.act (loopOrder_sound config) h hsplit).2

/-- What is left behind by a handler that has returned. -/
theorem Reaches.loopHalt (h : Reaches config nodes history pool) {e : ControlEvent}
    (he : e ∈ history) (returned : Returned pool e.task) :
    loopHalt e.origin (own e.task history) := by
  obtain ⟨origin, ended⟩ := returned
  exact (Service.Reaches.halted (loopOrder_sound config) h he ended).2

section Marked

variable {front : History} {e : ControlEvent} {sessionId : TerminalSessionId} {task : Nat}

/-- A session that was never reattached to is attached to by its opener only. -/
private theorem Reaches.opener_of_attached {back : History}
    (h : Reaches config nodes history pool) (hsplit : history = front ++ e :: back)
    {state : TerminalSessionState} (sets : e.action = .terminal (.setState sessionId state))
    (fresh : ¬WasReattached front sessionId) :
    ∃ actorEmail request output, e.origin = .terminalSocket actorEmail ∧
      OpenedBy front e.task request output ∧ request.sessionId = sessionId := by
  have act := (h.next hsplit).act
  rw [sets] at act
  obtain ⟨actorEmail, horigin, ⟨backend, output, attached⟩, -⟩ := browser_only act rfl
  rcases attached with ⟨-, request, hinsert, hid, -⟩ | ⟨token, target, -, hreattached, -⟩
  · exact ⟨actorEmail, request, output, horigin, hinsert, hid⟩
  · exact absurd ⟨e.task, token, actorEmail, target, hreattached⟩ fresh

/-- While a session that a handler has set to Terminating is still Starting, nobody brings it
    to Active: only its opener could, which is the one that has ended it. -/
private theorem Reaches.not_activated (run : Reaches config nodes (front ++ [e]) pool)
    (marked : Marked (own task front) sessionId) {session : TrackedTerminalSession}
    (found : e.before.sessions.get sessionId = some session) (starting : session.state = .starting)
    (activates : e.action = .terminal (.setState sessionId .active)) : False := by
  obtain ⟨before, hfront, hbefore⟩ := run.front rfl
  have fresh : ¬WasReattached front sessionId := by
    intro hreattached
    rw [← hbefore] at found
    exact (hfront.started found).2 hreattached starting
  obtain ⟨actorEmail, request, output, horigin, hopened, hid⟩ :=
    run.opener_of_attached rfl activates fresh
  obtain ⟨early, marker, late, hsplit, hmarker, hmark⟩ := exists_split_of_did marked
  have early_fresh : ¬WasReattached early sessionId := by
    rintro ⟨other, token, actor, target, hd⟩
    exact fresh ⟨other, token, actor, target, hd.later (hsplit ▸ own_isPrefix other early _)⟩
  obtain ⟨-, later, given, -, hopened', hid'⟩ :=
    hfront.opener_of_attached hsplit (congrArg Interaction.action hmark) early_fresh
  have hopened' : OpenedBy front marker.task later given :=
    hopened'.later (hsplit ▸ own_isPrefix marker.task early _)
  obtain ⟨hsame, -, -⟩ := hfront.ledger.unique_id hopened' hopened (hid'.trans hid.symm)
  have act := run.loopAct rfl
  rw [horigin, activates] at act
  have calm : Calm (own e.task front) := act
  rw [← hsame, hmarker] at calm
  exact calm.not_marked marked

private theorem moveTo_terminating (session : TrackedTerminalSession) :
    (session.moveTo .terminating).state.isReattachable = false := by
  rw [TrackedTerminalSession.moveTo]
  cases hstate : session.state <;>
    simp [TerminalSessionState.canTransitionTo, TerminalSessionState.isReattachable, hstate]

/-- A session that a handler has set to Terminating is never attached to again. -/
theorem Reaches.marked_state (h : Reaches config nodes history pool)
    (marked : Marked (own task history) sessionId) {session : TrackedTerminalSession}
    (found : pool.shared.sessions.get sessionId = some session) :
    session.state.isReattachable = false := by
  refine h.along (I := fun history state => ∀ {task session},
    Marked (own task history) sessionId → state.sessions.get sessionId = some session →
      session.state.isReattachable = false) ?_ ?_ marked found
  · intro task session marked
    exact absurd marked List.not_mem_nil
  · intro front e pool run ih task session marked found
    have next := run.next rfl
    cases hbefore : e.before.sessions.get sessionId with
    | none =>
      obtain ⟨request, output, now, token, -, -, rfl⟩ := next.inserted_of_untracked hbefore found
      rfl
    | some before =>
      rcases did_snoc.mp marked with hold | ⟨-, hmark⟩
      · have earlier := ih hold hbefore
        rcases next.stateMove hbefore found with hsame | ⟨hset, allowed⟩ | ⟨-, reattachable, -⟩
        · rw [hsame]
          exact earlier
        · by_contra hattachable
          have hstates : before.state = .starting ∧ session.state = .active := by
            revert allowed earlier hattachable
            cases before.state <;> cases session.state <;> decide
          rw [hstates.2] at hset
          exact run.not_activated hold hbefore hstates.1 hset
        · rw [earlier] at reattachable
          cases reattachable
      · have step := next.step
        obtain ⟨task, origin, action, reply, state, after, spawned⟩ := e
        cases hmark
        rw [AppStep.setsState step, TerminalSessionRegistry.get_setState, if_pos rfl] at found
        obtain ⟨tracked, -, rfl⟩ := Option.map_eq_some_iff.mp found
        exact moveTo_terminating tracked

/-- Nobody finds a session Detached that it has set to Terminating. -/
theorem Reaches.not_foundDetached (h : Reaches config nodes history pool) :
    ¬FoundDetached (own task history) sessionId := by
  rintro ⟨early, late, heq, marked⟩
  obtain ⟨front, e, back, hsplit, htask, hread, hfront⟩ := exists_split_of_own heq
  obtain ⟨before, hrun, hbefore⟩ := h.front hsplit
  have step := (h.next hsplit).step
  obtain ⟨task, origin, action, reply, state, after, spawned⟩ := e
  cases hread
  have hdetached := AppStep.stateRead step
  obtain ⟨session, found, hstate⟩ := Option.map_eq_some_iff.mp hdetached.symm
  rw [← hfront] at marked
  have hgone := hrun.marked_state marked (hbefore ▸ found)
  rw [hstate] at hgone
  cases hgone

end Marked

/-- A session that was found untracked after it had been opened stays so. -/
theorem Reaches.stays_gone (h : Reaches config nodes history pool)
    (opened : OpenedBy history opener request output) {front back : History} {e : ControlEvent}
    (hsplit : history = front ++ e :: back) (hafter : e.after.sessions.get request.sessionId = none)
    {task given : Nat} {earlier : TerminalSessionInsert}
    (openedFirst : OpenedBy front task earlier given)
    (hid : earlier.sessionId = request.sessionId) :
    pool.shared.sessions.get request.sessionId = none := by
  rw [h.gone_iff opened]
  by_cases gone : e.before.sessions.get request.sessionId = none
  · obtain ⟨before, hfront, hbefore⟩ := h.front hsplit
    rw [← hid, ← hbefore, hfront.gone_iff openedFirst] at gone
    obtain ⟨other, hother, htakes⟩ := gone
    exact ⟨other, hsplit ▸ List.mem_append_left _ hother, hid ▸ htakes⟩
  · exact ⟨e, hsplit ▸ List.mem_append_right _ (List.mem_cons_self ..), gone, hafter⟩

/-- A browser handler that took the session out leaves it untracked. -/
theorem Reaches.gone_of_tookOut (h : Reaches config nodes history pool)
    (opened : OpenedBy history opener request output) {task : Nat} {actorEmail : String}
    (browser : ∀ e ∈ history, e.task = task → e.origin = .terminalSocket actorEmail)
    (took : TookOut (own task history) request.sessionId) :
    pool.shared.sessions.get request.sessionId = none := by
  have leaves : ∀ {front back : History} {e : ControlEvent}, history = front ++ e :: back →
      e.task = task → e.after.sessions.get request.sessionId = none →
      (∃ backend output, Attached (own e.task front) actorEmail request.sessionId backend output) →
      pool.shared.sessions.get request.sessionId = none := by
    rintro front back e hsplit htask hafter ⟨backend, channel, attached⟩
    have horigin := browser e (hsplit ▸ List.mem_append_right _ (List.mem_cons_self ..)) htask
    obtain ⟨first, earlier, hopened, hid, -⟩ := h.attached hsplit horigin attached
    exact h.stays_gone opened hsplit hafter hopened hid
  rcases took with hremoved | ⟨backend, hterminated⟩
  · obtain ⟨front, e, back, hsplit, htask, heq⟩ := exists_split_of_did hremoved
    have horigin := browser e (hsplit ▸ List.mem_append_right _ (List.mem_cons_self ..)) htask
    have next := h.next hsplit
    have act := next.act
    have step := next.step
    rw [horigin] at act
    refine leaves hsplit htask ?_ ?_
    · obtain ⟨task, origin, action, reply, before, after, spawned⟩ := e
      cases heq
      exact AppStep.removes step
    · have haction : e.action = .terminal (.remove request.sessionId) :=
        congrArg Interaction.action heq
      rw [haction] at act
      rcases act with ⟨⟨pty, channel, attached⟩, -⟩ | ⟨commands, channel, attached⟩
      · exact ⟨_, _, attached⟩
      · exact ⟨_, _, attached⟩
  · obtain ⟨front, e, back, hsplit, htask, heq⟩ := exists_split_of_did hterminated
    have horigin := browser e (hsplit ▸ List.mem_append_right _ (List.mem_cons_self ..)) htask
    have next := h.next hsplit
    have act := next.act
    have step := next.step
    rw [horigin] at act
    refine leaves hsplit htask ?_ ?_
    · obtain ⟨task, origin, action, reply, before, after, spawned⟩ := e
      cases heq
      exact (AppStep.terminates step).1
    · have haction : e.action = .terminal (.terminate request.sessionId) :=
        congrArg Interaction.action heq
      rw [haction] at act
      obtain ⟨⟨commands, channel, hopened⟩, -⟩ := act
      exact ⟨_, _, Or.inl hopened⟩

/-- A session has the backend that every handler attached to it goes by. -/
theorem Reaches.backend_of_attached (h : Reaches config nodes history pool)
    (opened : OpenedBy history opener request output) {task given : Nat} {actorEmail : String}
    {backend : TerminalBackend}
    (attached : Attached (own task history) actorEmail request.sessionId backend given) :
    request.backend = backend := by
  rcases attached with ⟨-, later, hinsert, hid, hbackend⟩ | ⟨token, target, -, hd, hbackend, -⟩
  · obtain ⟨-, rfl, -⟩ := h.ledger.unique_id opened hinsert hid.symm
    exact hbackend
  · obtain ⟨other, later, channel, hopened, hid, -, hfields⟩ := h.ledger.reattached hd
    obtain ⟨-, rfl, -⟩ := h.ledger.unique_id opened hopened hid.symm
    exact (congrArg Prod.fst hfields).symm.trans hbackend

end Runs

end Sunbolt.Control
