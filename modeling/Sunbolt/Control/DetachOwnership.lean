/- Module: Sunbolt/Control/DetachOwnership
   scope: sunbolt-control/src/terminal/mod.rs, sunbolt-control/src/terminal/session_registry.rs
   digest: When an older connection marks a session Detached that a newer one is attached to. -/

import Sunbolt.Control.SessionLedger

set_option autoImplicit false
set_option relaxedAutoImplicit false

namespace Sunbolt.Control

open Sunbolt.Library
open Sunbolt.Protocol (TerminalSessionId TerminalReconnectToken)
open Sunbolt.Terminal (TerminalSessionState)

/-- A step that marks the session detached: the browser has gone or has asked for it. -/
def Detaches (sessionId : TerminalSessionId) (e : ControlEvent) : Prop :=
  e.action = .terminal (.setState sessionId .detached)

/-- A reattach to the session that is accepted. -/
def Reattaches (sessionId : TerminalSessionId) (e : ControlEvent) : Prop :=
  ∃ token actorEmail target,
    e.interaction = ⟨.terminal (.reattach sessionId token actorEmail), some target⟩

/-- The connection of this task is older than what follows the history. -/
def AttachedBefore (front : History) (sessionId : TerminalSessionId) (task : Nat) : Prop :=
  ∃ actorEmail backend output, Attached (own task front) actorEmail sessionId backend output

/-- A newer connection has reattached with `e` and is attached ever since. -/
structure Takeover (history front later : History) (e : ControlEvent)
    (sessionId : TerminalSessionId) : Prop where
  split : history = front ++ e :: later
  accepted : Reattaches sessionId e
  stays : ∀ other ∈ later, other.task = e.task → ¬Detaches sessionId other

section States

variable {registry next : TerminalSessionRegistry} {sessionId : TerminalSessionId}

private theorem state_moveTo {session : TrackedTerminalSession} {state : TerminalSessionState}
    (h : (session.moveTo state).state = .detached) :
    session.state = .detached ∨ state = .detached := by
  rw [TrackedTerminalSession.moveTo] at h
  split_ifs at h
  · exact Or.inl h
  · exact Or.inr h

/-- Only a session that is Active goes to Detached by such a step. -/
theorem state_setState_detached :
    (registry.setState sessionId .detached).state sessionId = some .detached ↔
      registry.state sessionId = some .active ∨ registry.state sessionId = some .detached := by
  rw [TerminalSessionRegistry.state, TerminalSessionRegistry.get_setState, if_pos rfl,
    TerminalSessionRegistry.state]
  cases registry.get sessionId with
  | none => simp
  | some session =>
    simp only [Option.map_some, Option.some.injEq, TrackedTerminalSession.moveTo]
    cases hstate : session.state <;> simp [TerminalSessionState.canTransitionTo, hstate]

/-- A session found detached after a call was so before, or the call has detached it. -/
theorem TerminalWrite.detached {action : TerminalAction} {reply : TerminalReply action}
    (write : TerminalWrite registry action reply next)
    (h : next.state sessionId = some .detached) :
    registry.state sessionId = some .detached ∨ action = .setState sessionId .detached := by
  obtain ⟨session, found, hstate⟩ := Option.map_eq_some_iff.mp h
  have before : ∀ {earlier : TrackedTerminalSession}, registry.get sessionId = some earlier →
      earlier.state = .detached → registry.state sessionId = some .detached := by
    intro earlier hearlier hdetached
    rw [TerminalSessionRegistry.state, hearlier, Option.map_some, hdetached]
  cases write.session found with
  | same session earlier => exact Or.inl (before earlier hstate)
  | insert request now token named => cases hstate
  | setState state session earlier =>
    rcases state_moveTo hstate with hold | rfl
    · exact Or.inl (before earlier hold)
    · exact Or.inr rfl
  | reattach token actorEmail now fresh session reply earlier => cases hstate
  | touch now session earlier => exact Or.inl (before earlier hstate)
  | setSize size session earlier => exact Or.inl (before earlier hstate)
  | recordOutput data session reply earlier => exact Or.inl (before earlier hstate)
  | rememberServerMessage message session earlier named => exact Or.inl (before earlier hstate)

theorem AppStep.detached {task : Nat} {state after : AppState} {action : Action}
    {reply : Reply action} (step : AppStep task state action reply after)
    (h : after.sessions.state sessionId = some .detached) :
    state.sessions.state sessionId = some .detached ∨
      action = .terminal (.setState sessionId .detached) := by
  cases step with
  | write write =>
    rcases write.detached h with hbefore | rfl
    · exact Or.inl hbefore
    · exact Or.inr rfl
  | _ => exact Or.inl h

/-- What a step that detaches leaves of the session, by the state it finds. -/
theorem AppStep.detaches_iff {task : Nat} {state after : AppState} {action : Action}
    {reply : Reply action} (step : AppStep task state action reply after)
    (haction : action = .terminal (.setState sessionId .detached)) :
    after.sessions.state sessionId = some .detached ↔
      state.sessions.state sessionId = some .active ∨
        state.sessions.state sessionId = some .detached := by
  subst haction
  cases step with
  | write write =>
    cases write
    exact state_setState_detached
  | read read => cases read

end States

section Takeovers

variable {config : TerminalSessionConfig} {nodes : NodeEnrollmentState} {pool : ControlPool}
  {history front later : History} {e : ControlEvent} {sessionId : TerminalSessionId}

private theorem Reaches.step_of_later (h : Reaches config nodes history pool)
    (hsplit : history = front ++ e :: later) {other : ControlEvent} (hother : other ∈ later) :
    AppStep other.task other.before other.action other.reply other.after := by
  obtain ⟨middle, back, rfl⟩ := List.append_of_mem hother
  have hlater : history = (front ++ e :: middle) ++ other :: back := by simp [hsplit]
  exact (h.next hlater).step

/-- While the newer connection is the last to have reattached and no older one detaches the
    session from Active, the session does not become Detached. -/
private theorem not_detached_of_takeover (h : Reaches config nodes history pool)
    (takeover : Takeover history front later e sessionId)
    (calm : ∀ other ∈ later, Detaches sessionId other →
      other.before.sessions.state sessionId ≠ some .active) :
    pool.shared.sessions.state sessionId ≠ some .detached := by
  obtain ⟨token, actorEmail, target, hreattach⟩ := takeover.accepted
  refine h.since_end (I := fun state => state.sessions.state sessionId ≠ some .detached)
    takeover.split ?_ ?_
  · rw [(h.next takeover.split).step.reattaching hreattach]
    exact fun heq => (nomatch heq)
  · intro before other hother next earlier hdetached
    rcases next.step.detached hdetached with hold | haction
    · exact earlier hold
    · rcases (next.step.detaches_iff haction).mp hdetached with hactive | hold
      · exact calm other hother haction hactive
      · exact earlier hold

/-- An older connection leaves the session Detached under a newer one exactly when one of its
    detach or disconnect steps finds it Active, or Detached already; and as long as no such step
    of another connection finds it Active, it is Detached in no state that the newer connection
    is attached in. -/
theorem older_never_detaches_iff (h : Reaches config nodes history pool)
    (takeover : Takeover history front later e sessionId) :
    ((∀ other ∈ later, AttachedBefore front sessionId other.task → Detaches sessionId other →
        other.after.sessions.state sessionId ≠ some .detached) ↔
      ∀ other ∈ later, AttachedBefore front sessionId other.task → Detaches sessionId other →
        other.before.sessions.state sessionId ≠ some .active ∧
          other.before.sessions.state sessionId ≠ some .detached) ∧
    ((∀ other ∈ later, Detaches sessionId other →
        other.before.sessions.state sessionId ≠ some .active) →
      pool.shared.sessions.state sessionId ≠ some .detached) := by
  constructor
  · refine forall_congr' fun other => forall_congr' fun hother =>
      forall_congr' fun _ => forall_congr' fun haction => ?_
    rw [ne_eq, (h.step_of_later takeover.split hother).detaches_iff haction, not_or]
  · exact fun calm => not_detached_of_takeover h takeover calm

end Takeovers

/-- Alice's second browser reattaches to the session of her first one. -/
def secondBrowser : List (Label Arrival Choice) :=
  [.arrive (.browser "alice"),
    .move 2 (.browser (some (.text (.ok (.reattach (sessionIdOf 1) ⟨"t0"⟩))))), .move 2 .none,
    .move 2 .none, .move 2 (.clockToken 1 ⟨"t1"⟩)]

def firstDisconnects : List (Label Arrival Choice) :=
  [.move 0 (.browser none), .move 0 .none]

/-- The first browser goes away while the session is still Reattaching. -/
private def early : History :=
  calls defaultTerminalSessionConfig ⟨[], [], []⟩
    (localOpening 0 "alice" "t0" ++ secondBrowser ++ firstDisconnects)

/-- It goes away after the second one has set the session Active. -/
private def late : History :=
  calls defaultTerminalSessionConfig ⟨[], [], []⟩ (localOpening 0 "alice" "t0" ++ secondBrowser ++
    [.move 2 (.decide true), .move 2 .none] ++ firstDisconnects)

/-- No detach step of these calls is of this task or finds the session Active. -/
private def calmFor (task : Nat) (checksState : Bool) (later : History) : Bool :=
  later.all (fun other => match other.action with
    | .terminal (.setState _ .detached) => other.task != task &&
      !(checksState && other.before.sessions.state (sessionIdOf 1) == some .active)
    | _ => true)

private theorem not_own_of_calmFor {task : Nat} {checksState : Bool} {later : History}
    (h : calmFor task checksState later = true) :
    ∀ other ∈ later, other.task = task → ¬Detaches (sessionIdOf 1) other := by
  intro other hother htask haction
  have hcalm := List.all_eq_true.mp h other hother
  rw [Detaches] at haction
  simp [haction, htask] at hcalm

theorem older_never_detaches_early : ∃ pool e,
    Reaches defaultTerminalSessionConfig ⟨[], [], []⟩ early pool ∧
    Takeover early (early.take 13) (early.drop 14) e (sessionIdOf 1) ∧
    pool.shared.sessions.state (sessionIdOf 1) ≠ some .detached := by
  obtain ⟨pool, h⟩ : ∃ pool, Reaches defaultTerminalSessionConfig ⟨[], [], []⟩ early pool :=
    reaches_calls rfl
  obtain ⟨e, he, htask, haccepted⟩ : ∃ e, early[13]? = some e ∧ e.task = 2 ∧
      Reattaches (sessionIdOf 1) e := ⟨_, rfl, rfl, _, _, _, rfl⟩
  have hcalm : calmFor 2 true (early.drop 14) = true := rfl
  have takeover : Takeover early (early.take 13) (early.drop 14) e (sessionIdOf 1) :=
    ⟨split_at he, haccepted, htask ▸ not_own_of_calmFor hcalm⟩
  refine ⟨pool, e, h, takeover, (older_never_detaches_iff h takeover).2 ?_⟩
  intro other hother haction
  have hchecked := List.all_eq_true.mp hcalm other hother
  rw [Detaches] at haction
  simp only [haction, Bool.true_and, Bool.and_eq_true, Bool.not_eq_true', beq_eq_false_iff_ne]
    at hchecked
  exact hchecked.2

/-- The first browser's disconnect marks the session that the second one is attached to. -/
theorem disconnect_detaches_newer : ∃ pool e other,
    Reaches defaultTerminalSessionConfig ⟨[], [], []⟩ late pool ∧
    Takeover late (late.take 13) (late.drop 14) e (sessionIdOf 1) ∧
    other ∈ late.drop 14 ∧ AttachedBefore (late.take 13) (sessionIdOf 1) other.task ∧
    Detaches (sessionIdOf 1) other ∧
    other.after.sessions.state (sessionIdOf 1) = some .detached ∧
    pool.shared.sessions.state (sessionIdOf 1) = some .detached := by
  obtain ⟨pool, h⟩ : ∃ pool, Reaches defaultTerminalSessionConfig ⟨[], [], []⟩ late pool :=
    reaches_calls rfl
  obtain ⟨e, he, htask, haccepted⟩ : ∃ e, late[13]? = some e ∧ e.task = 2 ∧
      Reattaches (sessionIdOf 1) e := ⟨_, rfl, rfl, _, _, _, rfl⟩
  have hcalm : calmFor 2 false (late.drop 14) = true := rfl
  obtain ⟨other, hother, hzero, haction, hafter⟩ : ∃ other, (late.drop 14)[3]? = some other ∧
      other.task = 0 ∧ Detaches (sessionIdOf 1) other ∧
      other.after.sessions.state (sessionIdOf 1) = some .detached := by
    refine ⟨_, rfl, ?_⟩
    exact ⟨rfl, rfl, rfl⟩
  refine ⟨pool, e, other, h, ⟨split_at he, haccepted, htask ▸ not_own_of_calmFor hcalm⟩,
    List.mem_of_getElem? hother, ?_, haction, hafter, ?_⟩
  · rw [hzero]
    refine ⟨"alice", .local 0, 0, Or.inl ⟨List.mem_of_getElem? (i := 1) rfl, ?_⟩⟩
    exact ⟨_, List.mem_of_getElem? (i := 3) rfl, rfl, rfl⟩
  · rw [h.shared_eq]
    rfl

end Sunbolt.Control
