/- Module: Sunbolt/Control/DetachAudit
   scope: sunbolt-control/src/terminal/mod.rs, sunbolt-control/src/terminal/session_registry.rs
   digest: When a session whose detach is in the audit log is Detached as the handler returns. -/

import Sunbolt.Control.DetachOrder
import Sunbolt.Control.DetachOwnership
import Sunbolt.Control.SessionEnds

set_option autoImplicit false
set_option relaxedAutoImplicit false

namespace Sunbolt.Control

open Sunbolt.Library
open Sunbolt.Protocol (TerminalSessionId)

section Runs

variable {config : TerminalSessionConfig} {nodes : NodeEnrollmentState}
  {history front later early between : History} {pool : ControlPool} {e marks last : ControlEvent}
  {task : Nat} {sessionId : TerminalSessionId}

/-- The session is in one of the two states in which marking it Detached leaves it Detached. -/
def MayDetach (state : AppState) (sessionId : TerminalSessionId) : Prop :=
  state.sessions.state sessionId = some .active ∨ state.sessions.state sessionId = some .detached

theorem TerminalWrite.state_eq {registry next : TerminalSessionRegistry}
    {action : TerminalAction} {reply : TerminalReply action}
    (write : TerminalWrite registry action reply next)
    (still : isMove (.terminal action) = false) :
    next.state sessionId = registry.state sessionId := by
  unfold TerminalSessionRegistry.state
  cases write with
  | touch named now =>
    rw [TerminalSessionRegistry.get_touch]
    split_ifs <;> simp [Function.comp_def]
  | setSize named size =>
    rw [TerminalSessionRegistry.get_setSize]
    split_ifs <;> simp [Function.comp_def]
  | recordOutput named data =>
    rw [TerminalSessionRegistry.get_recordOutput]
    split_ifs <;> simp [Function.comp_def, TrackedTerminalSession.record,
      TrackedTerminalSession.pushReplay]
  | rememberServerMessage message =>
    rw [TerminalSessionRegistry.get_rememberServerMessage]
    split_ifs <;> simp [Function.comp_def, TrackedTerminalSession.pushReplay]
  | _ => first | (cases still; done) | rfl

theorem AppStep.state_eq {state next : AppState} {action : Action} {reply : Reply action}
    (step : AppStep task state action reply next) (still : isMove action = false) :
    next.sessions.state sessionId = state.sessions.state sessionId := by
  cases step with
  | write write => exact write.state_eq still
  | _ => rfl

private theorem did_own_cons {task : Nat} {action : Action} {reply : Reply action}
    (h : Did (own task (early ++ marks :: between)) action reply) :
    Did (own task early) action reply ∨ marks.interaction = ⟨action, reply⟩ ∨
      Did (own task between) action reply := by
  obtain ⟨e, he, htask, heq⟩ := Service.mem_own.mp h
  rcases List.mem_append.mp he with hearly | hrest
  · exact Or.inl (Service.mem_own.mpr ⟨e, hearly, htask, heq⟩)
  · rcases List.mem_cons.mp hrest with rfl | hbetween
    · exact Or.inr (Or.inl heq)
    · exact Or.inr (Or.inr (Service.mem_own.mpr ⟨e, hbetween, htask, heq⟩))

private theorem Reaches.detachAct (h : Reaches config nodes history pool)
    (hsplit : history = front ++ e :: later) : DetachAct (own e.task front) e.action :=
  Service.Reaches.act (detachOrder_sound config) h hsplit

/-- The task marked the session with this call. -/
structure Marks (history early between : History) (marks : ControlEvent) (task : Nat)
    (sessionId : TerminalSessionId) : Prop where
  split : history = early ++ marks :: between
  task_eq : marks.task = task
  detaches : Detaches sessionId marks

theorem Marks.marked (marked : Marks history early between marks task sessionId)
    (rest : History) : MarkedDetached (own task (early ++ marks :: rest)) sessionId := by
  refine Service.mem_own.mpr ⟨marks, by simp, marked.task_eq, ?_⟩
  have hdetaches := marked.detaches
  obtain ⟨i, origin, action, reply, before, after, spawned⟩ := marks
  cases hdetaches
  rfl

/-- The handler leaves the session Detached where its mark has taken effect and no other handler
    takes the session out of Detached. -/
private theorem detached_of_kept (h : Reaches config nodes history pool)
    (marked : Marks history early between marks task sessionId)
    (found : MayDetach marks.before sessionId)
    (kept : ∀ other ∈ between, other.task ≠ task →
      other.before.sessions.state sessionId = some .detached →
      other.after.sessions.state sessionId = some .detached) :
    pool.shared.sessions.state sessionId = some .detached := by
  have unread := ((h.detachAct marked.split).marks sessionId marked.detaches).2
  rw [marked.task_eq] at unread
  refine (h.onward (I := fun middle state => state.sessions.state sessionId = some .detached ∧
    ∀ found, Did (own task middle) (.terminal (.state sessionId)) found → found = some .detached)
    marked.split ⟨?_, nofun⟩ ?_).1
  · exact ((h.next marked.split).step.detaches_iff marked.detaches).mpr found
  · rintro middle other rest hrest next ⟨hstate, hreads⟩
    by_cases htask : other.task = task
    · have hother : history = (early ++ marks :: middle) ++ other :: rest := by
        rw [marked.split, hrest]
        simp
      have act := h.detachAct hother
      rw [htask] at act
      have still : isMove other.action = false := by
        rw [Bool.eq_false_iff]
        intro hmove
        obtain ⟨state, hother, hread⟩ := act.moves sessionId (marked.marked middle) hmove
        rcases did_own_cons hread with hearly | hmarks | hmiddle
        · exact unread ⟨state, hother, hearly⟩
        · have haction : marks.action = _ := marked.detaches
          have hread : marks.action = .terminal (.state sessionId) :=
            congrArg Interaction.action hmarks
          cases haction.symm.trans hread
        · exact hother (hreads state hmiddle)
      refine ⟨(next.step.state_eq still).trans hstate, fun found hfound => ?_⟩
      rcases did_snoc.mp hfound with hold | ⟨-, heq⟩
      · exact hreads found hold
      · have step := next.step
        obtain ⟨i, origin, action, reply, before, after, spawned⟩ := other
        cases heq
        exact (AppStep.stateRead step).trans hstate
    · refine ⟨kept other (hrest ▸ by simp) htask hstate, fun found hfound => hreads found ?_⟩
      rcases did_snoc.mp hfound with hold | ⟨heq, -⟩
      · exact hold
      · exact absurd heq.symm htask

/-- Where the mark has no effect the session is not Detached, unless another handler detaches
    it. -/
private theorem found_of_detached (h : Reaches config nodes history pool)
    (marked : Marks history early between marks task sessionId)
    (untouched : ∀ other ∈ between, other.task ≠ task →
      other.after.sessions.state sessionId = other.before.sessions.state sessionId)
    (detached : pool.shared.sessions.state sessionId = some .detached) :
    MayDetach marks.before sessionId := by
  by_contra hnot
  refine h.onward (I := fun _ state => state.sessions.state sessionId ≠ some .detached)
    marked.split ?_ ?_ detached
  · exact fun hafter => hnot (((h.next marked.split).step.detaches_iff marked.detaches).mp hafter)
  · intro middle other rest hrest next hbefore hafter
    by_cases htask : other.task = task
    · have hother : history = (early ++ marks :: middle) ++ other :: rest := by
        rw [marked.split, hrest]
        simp
      have act := h.detachAct hother
      rw [htask] at act
      rcases next.step.detached hafter with hold | haction
      · exact hbefore hold
      · exact (act.marks sessionId haction).1 (marked.marked middle)
    · exact hbefore ((untouched other (hrest ▸ by simp) htask).symm.trans hafter)

/-- When the step of a handler ends that has recorded a detach, the session of the entry is
    Detached where the step found it Active, or Detached already, when it marked it, and no
    other handler has taken it out of Detached since; and while no other handler changes the
    state of the session it is Detached exactly then. -/
theorem detach_audit_truthful_iff (h : Reaches config nodes (front ++ [last]) pool)
    (returned : Returned pool last.task) {input : AuditEventInput}
    (recorded : Did (own last.task (front ++ [last])) (.host (.audit input)) ())
    (kind : input.kind = .terminalDetached) :
    ∃ actorEmail sessionId, ∃ reason ∈ detachReasons,
      input = detachEntry actorEmail sessionId reason ∧
      ∃ early marks between,
        Marks (front ++ [last]) early between marks last.task sessionId ∧
        (MayDetach marks.before sessionId →
          (∀ other ∈ between, other.task ≠ last.task →
            other.before.sessions.state sessionId = some .detached →
            other.after.sessions.state sessionId = some .detached) →
          pool.shared.sessions.state sessionId = some .detached) ∧
        ((∀ other ∈ between, other.task ≠ last.task →
            other.after.sessions.state sessionId = other.before.sessions.state sessionId) →
          (pool.shared.sessions.state sessionId = some .detached ↔
            MayDetach marks.before sessionId)) := by
  obtain ⟨origin, htask⟩ := returned
  obtain ⟨early, audits, late, haudits, hsame, heq⟩ := exists_split_of_did recorded
  obtain ⟨actorEmail, sessionId, reason, hreason, rfl⟩ :=
    (h.detachAct haudits).audits input (congrArg Interaction.action heq) kind
  refine ⟨actorEmail, sessionId, reason, hreason, rfl, ?_⟩
  have truthful : Truthful (own last.task (front ++ [last])) :=
    Service.Reaches.halted (detachOrder_sound config) h (by simp) htask
  obtain ⟨early, marks, between, hsplit, hmarks, hdetaches⟩ :=
    exists_split_of_did (truthful sessionId ⟨actorEmail, reason, hreason, recorded⟩)
  have marked : Marks (front ++ [last]) early between marks last.task sessionId :=
    ⟨hsplit, hmarks, congrArg Interaction.action hdetaches⟩
  refine ⟨early, marks, between, marked, detached_of_kept h marked, fun untouched =>
    ⟨found_of_detached h marked untouched, fun found => detached_of_kept h marked found ?_⟩⟩
  intro other hother hne hbefore
  exact (untouched other hother hne).trans hbefore

end Runs

/-- The browser of a local session closes its tab. -/
private def closingTab : List (Label Arrival Choice) :=
  localOpening 0 "alice" "t0" ++
    [.move 0 (.browser none), .move 0 .none, .move 0 .none, .move 0 .none]

private def tabClosed : History := calls defaultTerminalSessionConfig ⟨[], [], []⟩ closingTab

private def detachesActive (e : ControlEvent) : Bool :=
  match e.action with
  | .terminal (.setState named .detached) => e.before.sessions.state named == some .active
  | _ => true

theorem detach_audit_truthful_iff_tab_closed : ∃ pool last,
    Reaches defaultTerminalSessionConfig ⟨[], [], []⟩ (tabClosed.take 13 ++ [last]) pool ∧
    Returned pool last.task ∧ AuditedDetach (own last.task tabClosed) (sessionIdOf 1) ∧
    pool.shared.sessions.state (sessionIdOf 1) = some .detached := by
  obtain ⟨pool, h, returned⟩ : ∃ pool,
      Reaches defaultTerminalSessionConfig ⟨[], [], []⟩ tabClosed pool ∧ Returned pool 0 :=
    reaches_returned rfl
  obtain ⟨last, hlast, htask⟩ : ∃ last, tabClosed[13]? = some last ∧ last.task = 0 :=
    ⟨_, rfl, rfl⟩
  have hend : tabClosed.drop 14 = [] := rfl
  have hsplit : tabClosed = tabClosed.take 13 ++ [last] := by
    have hsplit := split_at hlast
    rwa [hend] at hsplit
  have hreason : "browser websocket disconnected" ∈ detachReasons := by simp [detachReasons]
  have recorded : Did (own 0 tabClosed) (.host (.audit (detachEntry "alice" (sessionIdOf 1)
      "browser websocket disconnected"))) () := List.mem_of_getElem? (i := 12) rfl
  have halone : tabClosed.all (fun e => e.task == 0) = true := rfl
  have hactive : tabClosed.all detachesActive = true := rfl
  rw [hsplit] at h recorded
  rw [← htask] at returned recorded
  refine ⟨pool, last, h, returned, ⟨"alice", _, hreason, hsplit.symm ▸ recorded⟩, ?_⟩
  obtain ⟨actorEmail, sessionId, reason, hgiven, hentry, early, marks, between, marked, holds, -⟩ :=
    detach_audit_truthful_iff h returned recorded rfl
  rw [detachEntry_session hreason hgiven hentry]
  have hmarks : marks ∈ tabClosed := by
    rw [hsplit, marked.split]
    simp
  refine holds (Or.inl ?_) (fun other hother hne => ?_)
  · have hstate := List.all_eq_true.mp hactive marks hmarks
    have hdetaches : marks.action = _ := marked.detaches
    simpa [detachesActive, hdetaches] using hstate
  · have hmem : other ∈ tabClosed := by
      rw [hsplit, marked.split]
      simp [hother]
    have hzero := List.all_eq_true.mp halone other hmem
    exact absurd ((by simpa using hzero : other.task = 0).trans htask.symm) hne

/-- The browser of a remote session goes away before the agent has started the terminal. -/
private def leavingEarly : List (Label Arrival Choice) :=
  agentOpening 0 false ++ remoteOpening 1 "alice" "t0" ++
    [.move 1 (.browser none), .move 1 .none, .move 1 .none, .move 1 .none, .move 1 .none,
      .move 1 .none, .move 1 .none, .move 1 .none]

private def leftEarly : History := calls defaultTerminalSessionConfig oneNode leavingEarly

/-- The log says that the session is detached, and it is gone. -/
theorem detach_audited_while_starting : ∃ pool last, last.task = 1 ∧
    Reaches defaultTerminalSessionConfig oneNode (leftEarly.take 27 ++ [last]) pool ∧
    Returned pool 1 ∧ AuditedDetach (own 1 (leftEarly.take 27 ++ [last])) (sessionIdOf 1) ∧
    pool.shared.sessions.state (sessionIdOf 1) = none := by
  obtain ⟨pool, h, returned⟩ : ∃ pool,
      Reaches defaultTerminalSessionConfig oneNode leftEarly pool ∧ Returned pool 1 :=
    reaches_returned rfl
  obtain ⟨last, hlast, htask⟩ : ∃ last, leftEarly[27]? = some last ∧ last.task = 1 :=
    ⟨_, rfl, rfl⟩
  have hend : leftEarly.drop 28 = [] := rfl
  have hsplit : leftEarly = leftEarly.take 27 ++ [last] := by
    have hsplit := split_at hlast
    rwa [hend] at hsplit
  have recorded : Did (own 1 leftEarly) (.host (.audit (detachEntry "alice" (sessionIdOf 1)
      "browser websocket disconnected"))) () := List.mem_of_getElem? (i := 15) rfl
  have hgone : pool.shared.sessions.state (sessionIdOf 1) = none := by
    rw [h.shared_eq]
    rfl
  have hreason : "browser websocket disconnected" ∈ detachReasons := by simp [detachReasons]
  rw [hsplit] at h recorded
  exact ⟨pool, last, htask, h, returned, ⟨"alice", _, hreason, recorded⟩, hgone⟩

end Sunbolt.Control
