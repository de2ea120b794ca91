/- Module: Sunbolt/Control/StateChanges
   scope: sunbolt-control/src/terminal/session_registry.rs
   digest: Which state changes of the registry the lifecycle relation allows. -/

import Sunbolt.Control.RegistryMachine

set_option autoImplicit false
set_option relaxedAutoImplicit false

namespace Sunbolt.Control

open Sunbolt.Library (Table)
open Sunbolt.Protocol (TerminalSessionId TerminalReconnectToken)
open Sunbolt.Terminal (TerminalSessionState)

/-- An assignment to the state of a session. -/
structure StateChange where
  sessionId : TerminalSessionId
  before : TerminalSessionState
  after : TerminalSessionState
  deriving DecidableEq

namespace TerminalSessionRegistry

variable (registry : TerminalSessionRegistry)

/-- The assignment to one session, if it is tracked. -/
def assign (sessionId : TerminalSessionId)
    (state : TrackedTerminalSession → TerminalSessionState) : List StateChange :=
  ((registry.get sessionId).map (fun session => ⟨sessionId, session.state, state session⟩)).toList

/-- The assignments to the sessions that a bulk removal takes out. -/
def assignEach (p : TrackedTerminalSession → Bool) (state : TerminalSessionState) :
    List StateChange :=
  (Table.select registry.sessions p).map (fun e => ⟨e.1, e.2.state, state⟩)

/-- Every assignment to a session's state in an operation. `set_state` skips the assignments
    that its guard refuses; the others have no guard of their own. -/
def assigned : RegistryCall → List StateChange
  | .setState sessionId state =>
    registry.assign sessionId (fun session => (session.moveTo state).state)
  | .detach sessionId =>
    registry.assign sessionId (fun session => (session.moveTo .detached).state)
  | .reattach sessionId reconnectToken actorEmail now token =>
    match (registry.reattach sessionId reconnectToken actorEmail now token).2 with
    | none => []
    | some _ => registry.assign sessionId (fun _ => .reattaching)
  | .terminate sessionId => registry.assign sessionId (fun _ => .terminating)
  | .drainExpired maxDuration detachedIdleTimeout now =>
    registry.assignEach (isExpired maxDuration detachedIdleTimeout now) .expired
  | .closeSessionsForNode nodeId => registry.assignEach (isOnNode nodeId) .terminating
  | .insert .. | .touch .. | .setSize .. | .recordOutput .. | .rememberServerMessage _
  | .remove _ => []

theorem mem_assign {sessionId : TerminalSessionId}
    {state : TrackedTerminalSession → TerminalSessionState} {change : StateChange} :
    change ∈ registry.assign sessionId state ↔ ∃ session,
      registry.get sessionId = some session ∧
        change = ⟨sessionId, session.state, state session⟩ := by
  rw [assign, Option.mem_toList, Option.map_eq_some_iff]
  simp only [eq_comm]

theorem mem_assignEach {p : TrackedTerminalSession → Bool} {state : TerminalSessionState}
    {change : StateChange} :
    change ∈ registry.assignEach p state ↔ ∃ sessionId session,
      registry.get sessionId = some session ∧ p session = true ∧
        change = ⟨sessionId, session.state, state⟩ := by
  simp only [assignEach, List.mem_map, Prod.exists, Table.mem_select, and_assoc, get, eq_comm]

/-- A session that a change of one session leaves in another state was that session. -/
private theorem state_of_modify {sessionId named : TerminalSessionId}
    {f : TrackedTerminalSession → TrackedTerminalSession} {before after : TrackedTerminalSession}
    (hbefore : registry.get sessionId = some before)
    (hafter : (registry.modify named f).get sessionId = some after) :
    after.state = before.state ∨ (sessionId = named ∧ after.state = (f before).state) := by
  rw [get_modify, hbefore] at hafter
  split_ifs at hafter with hid
  · obtain rfl := Option.some.inj hafter
    exact Or.inr ⟨hid, rfl⟩
  · obtain rfl := Option.some.inj hafter
    exact Or.inl rfl

private theorem assign_of_modify {sessionId named : TerminalSessionId}
    {f : TrackedTerminalSession → TrackedTerminalSession} {before after : TrackedTerminalSession}
    (hbefore : registry.get sessionId = some before)
    (hafter : (registry.modify named f).get sessionId = some after) :
    after.state = before.state ∨ ⟨sessionId, before.state, after.state⟩ ∈
      registry.assign named (fun session => (f session).state) := by
  rcases registry.state_of_modify hbefore hafter with hsame | ⟨rfl, hstate⟩
  · exact Or.inl hsame
  · rw [hstate]
    exact Or.inr (registry.mem_assign.mpr ⟨before, hbefore, rfl⟩)

private theorem same_of_modify {sessionId named : TerminalSessionId}
    {f : TrackedTerminalSession → TrackedTerminalSession} {before after : TrackedTerminalSession}
    (hbefore : registry.get sessionId = some before)
    (hafter : (registry.modify named f).get sessionId = some after)
    (keeps : ∀ session, (f session).state = session.state) : after.state = before.state := by
  rcases registry.state_of_modify hbefore hafter with hsame | ⟨-, hstate⟩
  · exact hsame
  · rw [hstate, keeps]

private theorem same_of_removed {sessionId : TerminalSessionId} {next : TerminalSessionRegistry}
    {gone : Prop} [Decidable gone] {before after : TrackedTerminalSession}
    (hbefore : registry.get sessionId = some before)
    (hnext : next.get sessionId = if gone then none else registry.get sessionId)
    (hafter : next.get sessionId = some after) : after.state = before.state := by
  rw [hnext, hbefore] at hafter
  split_ifs at hafter
  rw [Option.some.inj hafter]

/-- A session that is in another state after an operation has been assigned this state by it. -/
theorem assigned_of_serve {call : RegistryCall} {sessionId : TerminalSessionId}
    {before after : TrackedTerminalSession} (hbefore : registry.get sessionId = some before)
    (hafter : (registry.serve call).1.get sessionId = some after)
    (old : ∀ request now token, call = .insert request now token →
      request.sessionId ≠ sessionId) :
    after.state = before.state ∨
      ⟨sessionId, before.state, after.state⟩ ∈ registry.assigned call := by
  cases call with
  | insert request now token =>
    left
    rcases registry.insertBackend_cases request now token with ⟨error, heq⟩ | heq
    · rw [serve, heq] at hafter
      rw [Option.some.inj (hbefore.symm.trans hafter)]
    · rw [serve, heq, get_insert, if_neg (old request now token rfl).symm] at hafter
      rw [Option.some.inj (hbefore.symm.trans hafter)]
  | setState named state => exact registry.assign_of_modify hbefore hafter
  | detach named => exact registry.assign_of_modify hbefore hafter
  | reattach named reconnectToken actorEmail now token =>
    rcases registry.reattach_cases named reconnectToken actorEmail now token with
      heq | ⟨tracked, -, -, -, -, heq⟩
    · rw [serve, heq] at hafter
      rw [Option.some.inj (hbefore.symm.trans hafter)]
      exact Or.inl rfl
    · rw [serve, heq] at hafter
      rw [assigned, heq]
      exact registry.assign_of_modify hbefore hafter
  | touch named now => exact Or.inl (registry.same_of_modify hbefore hafter (fun _ => rfl))
  | setSize named size => exact Or.inl (registry.same_of_modify hbefore hafter (fun _ => rfl))
  | recordOutput named data => exact Or.inl (registry.same_of_modify hbefore hafter (fun _ => rfl))
  | rememberServerMessage message =>
    rw [serve, rememberServerMessage] at hafter
    split at hafter
    · rw [Option.some.inj (hbefore.symm.trans hafter)]
      exact Or.inl rfl
    · exact Or.inl (registry.same_of_modify hbefore hafter (fun _ => rfl))
  | terminate named =>
    exact Or.inl (registry.same_of_removed hbefore (registry.get_terminate named sessionId) hafter)
  | remove named =>
    exact Or.inl (registry.same_of_removed hbefore (registry.get_remove named sessionId) hafter)
  | drainExpired maxDuration detachedIdleTimeout now =>
    exact Or.inl (registry.same_of_removed hbefore
      (registry.get_removeEach sessionId .expired _) hafter)
  | closeSessionsForNode nodeId =>
    exact Or.inl (registry.same_of_removed hbefore
      (registry.get_removeEach sessionId .terminating _) hafter)

end TerminalSessionRegistry

/-- The lifecycle relation lets the session stay or go this way. -/
def StateChange.isAllowed (change : StateChange) : Prop :=
  change.before ≠ change.after → change.before.canTransitionTo change.after = true

instance : DecidablePred StateChange.isAllowed := fun change =>
  inferInstanceAs (Decidable (change.before ≠ change.after →
    change.before.canTransitionTo change.after = true))

/-- A running session that may be put into `Terminating`, or that is in it. -/
def canTerminate (state : TerminalSessionState) : Bool :=
  state.canTransitionTo .terminating || state == .terminating

/-- The operation finds no session in a state from which its unguarded assignment is not a
    transition of the lifecycle. -/
def TerminalSessionRegistry.IsOrderly (registry : TerminalSessionRegistry) : RegistryCall → Prop
  | .reattach sessionId reconnectToken actorEmail _ _ => ∀ session,
    registry.get sessionId = some session → session.actorEmail = actorEmail →
      session.reconnectToken = reconnectToken → session.state ≠ .active
  | .terminate sessionId => ∀ session, registry.get sessionId = some session →
    canTerminate session.state = true
  | .drainExpired maxDuration detachedIdleTimeout now => ∀ sessionId session,
    registry.get sessionId = some session →
      TerminalSessionRegistry.isExpired maxDuration detachedIdleTimeout now session = true →
      session.state = .active ∨ session.state = .detached
  | .closeSessionsForNode nodeId => ∀ sessionId session, registry.get sessionId = some session →
    TerminalSessionRegistry.isOnNode nodeId session = true → canTerminate session.state = true
  | .insert .. | .setState .. | .detach _ | .touch .. | .setSize .. | .recordOutput ..
  | .rememberServerMessage _ | .remove _ => True

section Lifecycle

variable {registry : TerminalSessionRegistry}

theorem moveTo_isAllowed (session : TrackedTerminalSession) (sessionId : TerminalSessionId)
    (state : TerminalSessionState) :
    (StateChange.mk sessionId session.state (session.moveTo state).state).isAllowed := by
  intro hne
  rw [TrackedTerminalSession.moveTo] at hne ⊢
  split_ifs at hne ⊢ with hskip
  · exact absurd rfl hne
  · simp only [Bool.and_eq_true, Bool.not_eq_true', decide_eq_true_eq, not_and, ne_eq,
      Decidable.not_not] at hskip
    by_contra hnot
    exact hne (hskip (by simpa using hnot))

private theorem terminating_isAllowed (sessionId : TerminalSessionId)
    (state : TerminalSessionState) :
    (StateChange.mk sessionId state .terminating).isAllowed ↔ canTerminate state = true := by
  cases state <;> simp [StateChange.isAllowed, canTerminate, TerminalSessionState.canTransitionTo]

private theorem expired_isAllowed (sessionId : TerminalSessionId) {state : TerminalSessionState}
    (live : state.isTerminal = false) :
    (StateChange.mk sessionId state .expired).isAllowed ↔ state = .active ∨ state = .detached := by
  cases state <;>
    simp_all [StateChange.isAllowed, TerminalSessionState.canTransitionTo,
      TerminalSessionState.isTerminal]

private theorem reattaching_isAllowed (sessionId : TerminalSessionId)
    {state : TerminalSessionState} (reattachable : state.isReattachable = true) :
    (StateChange.mk sessionId state .reattaching).isAllowed ↔ state ≠ .active := by
  cases state <;>
    simp_all [StateChange.isAllowed, TerminalSessionState.canTransitionTo,
      TerminalSessionState.isReattachable]

/-- The assignments of one operation follow the lifecycle exactly when it is orderly. -/
theorem assigned_isAllowed_iff (call : RegistryCall) :
    (∀ change ∈ registry.assigned call, change.isAllowed) ↔ registry.IsOrderly call := by
  cases call with
  | setState sessionId state =>
    refine iff_of_true ?_ trivial
    intro change hmem
    obtain ⟨session, -, rfl⟩ := registry.mem_assign.mp hmem
    exact moveTo_isAllowed session sessionId state
  | detach sessionId =>
    refine iff_of_true ?_ trivial
    intro change hmem
    obtain ⟨session, -, rfl⟩ := registry.mem_assign.mp hmem
    exact moveTo_isAllowed session sessionId .detached
  | reattach sessionId reconnectToken actorEmail now token =>
    rw [TerminalSessionRegistry.IsOrderly, TerminalSessionRegistry.assigned]
    by_cases haccepts : ∃ session, registry.get sessionId = some session ∧
        session.actorEmail = actorEmail ∧ session.reconnectToken = reconnectToken ∧
        session.state.isReattachable = true
    · obtain ⟨session, hget, hactor, htoken, hstate⟩ := haccepts
      have heq : (registry.reattach sessionId reconnectToken actorEmail now token).2 ≠ none := by
        simp [TerminalSessionRegistry.reattach, hget, hactor, htoken, hstate]
      obtain ⟨target, htarget⟩ := Option.ne_none_iff_exists'.mp heq
      rw [htarget]
      constructor
      · intro h other hother _ _
        obtain rfl := Option.some.inj (hget.symm.trans hother)
        exact (reattaching_isAllowed sessionId hstate).mp
          (h _ (registry.mem_assign.mpr ⟨session, hget, rfl⟩))
      · intro h change hmem
        obtain ⟨other, hother, rfl⟩ := registry.mem_assign.mp hmem
        obtain rfl := Option.some.inj (hget.symm.trans hother)
        exact (reattaching_isAllowed sessionId hstate).mpr (h session hget hactor htoken)
    · rcases registry.reattach_cases sessionId reconnectToken actorEmail now token with
        heq | ⟨session, hget, hactor, hstate, htoken, -⟩
      · rw [heq]
        refine iff_of_true (fun change hmem => absurd hmem List.not_mem_nil) ?_
        intro session hget hactor htoken hactive
        refine haccepts ⟨session, hget, hactor, htoken, ?_⟩
        rw [hactive]
        rfl
      · exact absurd ⟨session, hget, hactor, htoken, hstate⟩ haccepts
  | terminate sessionId =>
    constructor
    · intro h session hget
      exact (terminating_isAllowed sessionId _).mp
        (h _ (registry.mem_assign.mpr ⟨session, hget, rfl⟩))
    · intro h change hmem
      obtain ⟨session, hget, rfl⟩ := registry.mem_assign.mp hmem
      exact (terminating_isAllowed sessionId _).mpr (h session hget)
  | drainExpired maxDuration detachedIdleTimeout now =>
    have live : ∀ session, TerminalSessionRegistry.isExpired maxDuration detachedIdleTimeout now
        session = true → session.state.isTerminal = false := by
      intro session hexpired
      simp only [TerminalSessionRegistry.isExpired, Bool.and_eq_true] at hexpired
      exact Bool.not_eq_true' _ ▸ hexpired.1
    constructor
    · intro h sessionId session hget hexpired
      exact (expired_isAllowed sessionId (live session hexpired)).mp
        (h _ (registry.mem_assignEach.mpr ⟨sessionId, session, hget, hexpired, rfl⟩))
    · intro h change hmem
      obtain ⟨sessionId, session, hget, hexpired, rfl⟩ := registry.mem_assignEach.mp hmem
      exact (expired_isAllowed sessionId (live session hexpired)).mpr
        (h sessionId session hget hexpired)
  | closeSessionsForNode nodeId =>
    constructor
    · intro h sessionId session hget hnode
      exact (terminating_isAllowed sessionId _).mp
        (h _ (registry.mem_assignEach.mpr ⟨sessionId, session, hget, hnode, rfl⟩))
    · intro h change hmem
      obtain ⟨sessionId, session, hget, hnode, rfl⟩ := registry.mem_assignEach.mp hmem
      exact (terminating_isAllowed sessionId _).mpr (h sessionId session hget hnode)
  | _ => exact iff_of_true (fun change hmem => absurd hmem List.not_mem_nil) trivial

end Lifecycle

/-- In every run, all assignments follow the lifecycle exactly when no operation makes one of
    the unguarded assignments from a state that has no transition for it. -/
theorem lifecycle_respected_iff {history : List RegistryEvent} {registry : TerminalSessionRegistry}
    (h : RegistryReaches history registry) :
    ((∀ e ∈ history, ∀ change ∈ e.before.assigned e.call, change.isAllowed) ∧
      ∀ e ∈ history, ∀ sessionId before after, e.before.get sessionId = some before →
        e.after.get sessionId = some after →
        (∀ request now token, e.call = .insert request now token →
          request.sessionId ≠ sessionId) →
        (StateChange.mk sessionId before.state after.state).isAllowed) ↔
      ∀ e ∈ history, e.before.IsOrderly e.call := by
  constructor
  · rintro ⟨hassigned, -⟩ e he
    exact (assigned_isAllowed_iff e.call).mp (hassigned e he)
  · intro orderly
    refine ⟨fun e he => (assigned_isAllowed_iff e.call).mpr (orderly e he), ?_⟩
    intro e he sessionId before after hbefore hafter old hne
    rw [h.event he] at hafter
    rcases e.before.assigned_of_serve hbefore hafter old with hsame | hmem
    · exact absurd hsame.symm hne
    · exact (assigned_isAllowed_iff e.call).mpr (orderly e he) _ hmem hne

private def lifeInsert : RegistryCall :=
  .insert ⟨⟨"s1"⟩, .local 0, ⟨80, 24⟩, ⟨2, 2, 2, 60, 3600⟩, "alice", none, none⟩ 0 ⟨"t1"⟩

private def lifeReattach : RegistryCall := .reattach ⟨"s1"⟩ ⟨"t1"⟩ "alice" 1 ⟨"t2"⟩

theorem lifecycle_respected_detached : ∃ history registry, RegistryReaches history registry ∧
    history.map (·.call) =
      [lifeInsert, .setState ⟨"s1"⟩ .active, .detach ⟨"s1"⟩, lifeReattach] ∧
    ((∀ e ∈ history, ∀ change ∈ e.before.assigned e.call, change.isAllowed) ∧
      ∀ e ∈ history, ∀ sessionId before after, e.before.get sessionId = some before →
        e.after.get sessionId = some after →
        (∀ request now token, e.call = .insert request now token →
          request.sessionId ≠ sessionId) →
        (StateChange.mk sessionId before.state after.state).isAllowed) := by
  obtain ⟨history, registry, hrun, hchanges⟩ : ∃ history registry,
      registryMachine.run .empty [lifeInsert, .setState ⟨"s1"⟩ .active, .detach ⟨"s1"⟩,
        lifeReattach] = some (registry, history) ∧
      history.flatMap (fun e => e.before.assigned e.call) = [⟨⟨"s1"⟩, .starting, .active⟩,
        ⟨⟨"s1"⟩, .active, .detached⟩, ⟨⟨"s1"⟩, .detached, .reattaching⟩] := ⟨_, _, rfl, rfl⟩
  refine ⟨history, registry, ⟨_, hrun⟩, map_call_of_run hrun,
    (lifecycle_respected_iff ⟨_, hrun⟩).mpr ?_⟩
  intro e he
  refine (assigned_isAllowed_iff e.call).mp ?_
  intro change hchange
  have hmem : change ∈ history.flatMap (fun e => e.before.assigned e.call) :=
    List.mem_flatMap.mpr ⟨e, he, hchange⟩
  rw [hchanges] at hmem
  have allowed : ∀ change ∈ [StateChange.mk ⟨"s1"⟩ .starting .active, ⟨⟨"s1"⟩, .active, .detached⟩,
      ⟨⟨"s1"⟩, .detached, .reattaching⟩], change.isAllowed := by decide
  exact allowed change hmem

/-- A reattach while another browser is attached goes from `Active` straight to `Reattaching`. -/
theorem reattach_breaks_lifecycle : ∃ history registry, RegistryReaches history registry ∧
    ∃ e ∈ history, ∃ change ∈ e.before.assigned e.call, change.before ≠ change.after ∧
      change.before.canTransitionTo change.after = false := by
  obtain ⟨history, registry, hrun, hlast⟩ : ∃ history registry,
      registryMachine.run .empty [lifeInsert, .setState ⟨"s1"⟩ .active, lifeReattach] =
        some (registry, history) ∧
      history[2]?.map (fun e => e.before.assigned e.call) =
        some [⟨⟨"s1"⟩, .active, .reattaching⟩] := ⟨_, _, rfl, rfl⟩
  obtain ⟨e, he, heq⟩ := Option.map_eq_some_iff.mp hlast
  refine ⟨history, registry, ⟨_, hrun⟩, e, List.mem_of_getElem? he, ?_⟩
  rw [heq]
  exact ⟨_, List.mem_singleton_self _, by decide, rfl⟩

end Sunbolt.Control
