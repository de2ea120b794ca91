/- Module: Sunbolt/Control/NodeIsolation
   scope: sunbolt-control/src/terminal/mod.rs, sunbolt-control/src/agent/mod.rs
   digest: When the events of one node leave the sessions of the others as they are. -/

import Sunbolt.Control.ConnectionLedger

set_option autoImplicit false
set_option relaxedAutoImplicit false

namespace Sunbolt.Control

open Sunbolt.Library
open Sunbolt.Protocol (TerminalSessionId TerminalServerMessage u64Max saturatingSucc)

/-- The call takes in an event of the node's agent, or is made by a handler that serves a
    remote terminal over a connection of the node. -/
def HandlesNode (front : History) (nodeId : String) (e : ControlEvent) : Prop :=
  ∃ transportId channel, Made front nodeId transportId channel ∧
    ((∃ event, e.action = .agent (.trySendEvent channel event)) ∨
      ∃ sessionId output, Opened (own e.task front) sessionId (.remote channel) output)

/-- What a session looks like to its browsers is the same. -/
structure Unaffected (before after : TrackedTerminalSession) : Prop where
  replay : after.replay = before.replay
  nextOutputSequence : after.nextOutputSequence = before.nextOutputSequence
  state : after.state = before.state

theorem Unaffected.refl (session : TrackedTerminalSession) : Unaffected session session :=
  ⟨rfl, rfl, rfl⟩

/-- Every session of another node, and every local one, is still there as it was. -/
def KeepsOthers (nodeId : String) (registry next : TerminalSessionRegistry) : Prop :=
  ∀ sessionId session, registry.get sessionId = some session → session.nodeId ≠ some nodeId →
    ∃ after, next.get sessionId = some after ∧ Unaffected session after

/-- The replay is full of copies of the message, so that one more does not show. -/
def TrackedTerminalSession.IsFullOf (session : TrackedTerminalSession)
    (message : TerminalServerMessage) : Prop :=
  session.replay.items = List.replicate outputReplayCapacity message

/-- The session an output or a remembered message names is untracked or on this node; or what
    is written to it does not show. -/
def NamesOwn (nodeId : String) (e : ControlEvent) : Prop :=
  match e.action with
  | .terminal (.recordOutput named data) => ∀ session,
    e.before.sessions.get named = some session → session.nodeId = some nodeId ∨
      session.nextOutputSequence = u64Max ∧ session.IsFullOf (.output named u64Max data)
  | .terminal (.rememberServerMessage message) => ∀ named session,
    TerminalSessionRegistry.rememberedSession message = some named →
    e.before.sessions.get named = some session →
      session.nodeId = some nodeId ∨ session.IsFullOf message
  | _ => True

section Writes

variable {registry next : TerminalSessionRegistry}

theorem saturatingSucc_eq_self_iff {n : Nat} : saturatingSucc n = n ↔ n = u64Max := by
  rw [saturatingSucc]
  omega

/-- A recorded output shows, unless the counter is at its end and the replay full of it. -/
theorem unaffected_record_iff (session : TrackedTerminalSession) (named : TerminalSessionId)
    (data : String) :
    Unaffected session (session.record named data) ↔
      session.nextOutputSequence = u64Max ∧ session.IsFullOf (.output named u64Max data) := by
  have hcounter : (session.record named data).nextOutputSequence = session.nextOutputSequence ↔
      session.nextOutputSequence = u64Max := saturatingSucc_eq_self_iff
  have hreplay : (session.record named data).replay = session.replay ↔
      session.IsFullOf (session.outputMessage named data) := Window.push_eq_self_iff ..
  constructor
  · rintro ⟨replay, counter, -⟩
    have hmax := hcounter.mp counter
    have hfull := hreplay.mp replay
    rw [TrackedTerminalSession.outputMessage, hmax] at hfull
    exact ⟨hmax, hfull⟩
  · rintro ⟨hmax, hfull⟩
    refine ⟨hreplay.mpr ?_, hcounter.mpr hmax, rfl⟩
    rwa [TrackedTerminalSession.outputMessage, hmax]

theorem unaffected_pushReplay_iff (session : TrackedTerminalSession)
    (message : TerminalServerMessage) :
    Unaffected session (session.pushReplay message) ↔ session.IsFullOf message := by
  have hreplay : (session.pushReplay message).replay = session.replay ↔
      session.IsFullOf message := Window.push_eq_self_iff ..
  constructor
  · exact fun h => hreplay.mp h.replay
  · exact fun h => ⟨hreplay.mpr h, rfl, rfl⟩

variable {nodeId : String}

theorem keepsOthers_of_get (h : ∀ sessionId, next.get sessionId = registry.get sessionId) :
    KeepsOthers nodeId registry next := by
  intro sessionId session found _
  exact ⟨session, (h sessionId).trans found, .refl session⟩

/-- A change of one session keeps the others; whether it keeps this one is up to the change. -/
theorem keepsOthers_modify_iff (named : TerminalSessionId)
    (f : TrackedTerminalSession → TrackedTerminalSession) :
    KeepsOthers nodeId registry (registry.modify named f) ↔
      ∀ session, registry.get named = some session → session.nodeId = some nodeId ∨
        Unaffected session (f session) := by
  constructor
  · intro h session found
    by_cases hnode : session.nodeId = some nodeId
    · exact Or.inl hnode
    · obtain ⟨after, hafter, hsame⟩ := h named session found hnode
      rw [TerminalSessionRegistry.get_modify, if_pos rfl, found, Option.map_some,
        Option.some.injEq] at hafter
      exact Or.inr (hafter ▸ hsame)
  · intro h sessionId session found hnode
    rw [TerminalSessionRegistry.get_modify]
    by_cases hnamed : sessionId = named
    · subst hnamed
      rw [if_pos rfl, found]
      exact ⟨f session, rfl, (h session found).resolve_left hnode⟩
    · rw [if_neg hnamed]
      exact ⟨session, found, .refl session⟩

theorem keepsOthers_of_removal {named : TerminalSessionId}
    (h : ∀ sessionId, next.get sessionId =
      if sessionId = named then none else registry.get sessionId)
    (own : ∀ session, registry.get named = some session → session.nodeId = some nodeId) :
    KeepsOthers nodeId registry next := by
  intro sessionId session found hnode
  rw [h]
  by_cases hnamed : sessionId = named
  · subst hnamed
    exact absurd (own session found) hnode
  · rw [if_neg hnamed]
    exact ⟨session, found, .refl session⟩

theorem keepsOthers_remember_iff (message : TerminalServerMessage) :
    KeepsOthers nodeId registry (registry.rememberServerMessage message) ↔
      ∀ named session, TerminalSessionRegistry.rememberedSession message = some named →
        registry.get named = some session →
          session.nodeId = some nodeId ∨ session.IsFullOf message := by
  rw [TerminalSessionRegistry.rememberServerMessage]
  cases hnamed : TerminalSessionRegistry.rememberedSession message with
  | none =>
    refine iff_of_true (keepsOthers_of_get (fun _ => rfl)) ?_
    intro named session hsome
    cases hsome
  | some named =>
    refine (keepsOthers_modify_iff named _).trans ?_
    simp only [unaffected_pushReplay_iff, Option.some.injEq]
    constructor
    · rintro hkept other session rfl found
      exact hkept session found
    · exact fun hnames session found => hnames named session rfl found

end Writes

section Handlers

variable {config : TerminalSessionConfig} {nodes : NodeEnrollmentState}
  {history front back : History} {pool : ControlPool} {e : ControlEvent} {nodeId : String}

/-- Whatever the handler of a terminal on the node is attached to is on the node. -/
private theorem Reaches.nodeId_of_attached (h : Reaches config nodes history pool)
    (hsplit : history = front ++ e :: back) {transportId : Sunbolt.Protocol.AgentTransportId}
    {channel output : Nat} {sessionId : TerminalSessionId}
    (made : Made front nodeId transportId channel)
    (opened : Opened (own e.task front) sessionId (.remote channel) output)
    {actorEmail : String} {named : TerminalSessionId} {backend : TerminalBackend} {given : Nat}
    (attached : Attached (own e.task front) actorEmail named backend given)
    {session : TrackedTerminalSession} (found : e.before.sessions.get named = some session) :
    session.nodeId = some nodeId := by
  have ledger := (h.next hsplit).ledger
  obtain ⟨before, hfront, -⟩ := h.front hsplit
  obtain ⟨-, request, hinsert, -, hbackend⟩ := opened
  have hnamed : request.sessionId = named := by
    rcases attached with ⟨-, later, hlater, hid, -⟩ | ⟨token, target, -, hreattach, -⟩
    · cases ledger.insertedOnce hinsert hlater
      exact hid
    · exact absurd hreattach (ledger.oneWay hinsert)
  obtain ⟨opener, later, channelOf, hopened, hid, hidentity⟩ := ledger.tracked found
  obtain ⟨-, rfl, -⟩ := ledger.unique_id hinsert hopened (hnamed.trans hid.symm)
  obtain ⟨home, transport, hhome, hmade⟩ := hfront.remote_node hinsert hbackend
  obtain ⟨rfl, -⟩ := hfront.connections.once hmade made
  simp only [TrackedTerminalSession.identity, TerminalSessionInsert.identity,
    Prod.mk.injEq] at hidentity
  exact hidentity.2.2.2.trans hhome

/-- The handler of a remote terminal is the one of the browser that opened it, and it has
    neither a terminal to open nor a session to reattach to. -/
private theorem Reaches.serving_act (h : Reaches config nodes history pool)
    (hsplit : history = front ++ e :: back) {channel output : Nat}
    {sessionId : TerminalSessionId}
    (opened : Opened (own e.task front) sessionId (.remote channel) output) :
    ∃ actorEmail, browserAct actorEmail (own e.task front) e.action ∧
      ¬Fresh (own e.task front) := by
  obtain ⟨-, request, hinsert, -, -⟩ := opened
  have hlater : OpenedBy history e.task request output :=
    hinsert.later (hsplit ▸ own_isPrefix e.task front (e :: back))
  have horigin : e.origin = .terminalSocket request.actorEmail :=
    h.opener_origin hlater (hsplit ▸ List.mem_append_right _ (List.mem_cons_self ..)) rfl
  have act := (h.next hsplit).act
  rw [horigin] at act
  refine ⟨request.actorEmail, act, fun fresh => ?_⟩
  cases fresh _ hinsert

/-- One call of a handler that serves the node keeps the sessions of the other nodes exactly
    when it names none of them. -/
private theorem Reaches.keepsOthers_iff (h : Reaches config nodes history pool)
    (hsplit : history = front ++ e :: back) (handles : HandlesNode front nodeId e) :
    KeepsOthers nodeId e.before.sessions e.after.sessions ↔ NamesOwn nodeId e := by
  have step := (h.next hsplit).step
  obtain ⟨transportId, channel, made, ⟨event, haction⟩ | ⟨sessionId, output, opened⟩⟩ := handles
  · obtain ⟨task, origin, action, reply, before, after, spawned⟩ := e
    cases haction
    change AppStep task before (.agent (.trySendEvent channel event)) reply after at step
    refine iff_of_true ?_ trivial
    cases step
    exact keepsOthers_of_get (fun _ => rfl)
  · obtain ⟨actorEmail, act, stale⟩ := h.serving_act hsplit opened
    have mine : ∀ {named backend given},
        Attached (own e.task front) actorEmail named backend given →
        ∀ session, e.before.sessions.get named = some session →
          session.nodeId = some nodeId :=
      fun attached session found => h.nodeId_of_attached hsplit made opened attached found
    obtain ⟨task, origin, action, reply, before, after, spawned⟩ := e
    change AppStep task before action reply after at step
    cases step with
    | write write =>
      cases write with
      | insert request now token => exact absurd act.2.2.1 stale
      | setState named state =>
        obtain ⟨⟨backend, given, attached⟩, -⟩ := act
        refine iff_of_true ?_ trivial
        exact (keepsOthers_modify_iff named _).mpr
          (fun session found => Or.inl (mine attached session found))
      | reattach named token actor now fresh => exact absurd act.2.1 stale
      | touch named now =>
        refine iff_of_true ?_ trivial
        exact (keepsOthers_modify_iff named _).mpr (fun session _ => Or.inr ⟨rfl, rfl, rfl⟩)
      | setSize named size =>
        refine iff_of_true ?_ trivial
        exact (keepsOthers_modify_iff named _).mpr (fun session _ => Or.inr ⟨rfl, rfl, rfl⟩)
      | recordOutput named data =>
        refine (keepsOthers_modify_iff named _).trans ?_
        refine forall_congr' fun session => imp_congr_right fun _ => or_congr_right ?_
        exact unaffected_record_iff session named data
      | rememberServerMessage message =>
        exact keepsOthers_remember_iff message
      | terminate named =>
        obtain ⟨⟨remote, given, opened⟩, -⟩ := act
        refine iff_of_true ?_ trivial
        exact keepsOthers_of_removal (before.sessions.get_terminate named)
          (mine (Or.inl opened))
      | remove named =>
        refine iff_of_true ?_ trivial
        refine keepsOthers_of_removal (before.sessions.get_remove named) ?_
        rcases act with ⟨⟨pty, given, attached⟩, -⟩ | ⟨remote, given, attached⟩
        · exact mine attached
        · exact mine attached
      | drainExpired maxDuration idleTimeout now => cases act
      | closeSessionsForNode named => cases act
      | spawnDefaultShell size => exact iff_of_true (keepsOthers_of_get (fun _ => rfl)) trivial
      | close pty => exact iff_of_true (keepsOthers_of_get (fun _ => rfl)) trivial
      | tryWaitExit pty session status found => cases act
      | waitExit pty session next status result found waited => cases act
      | broadcast named message =>
        exact iff_of_true (keepsOthers_of_get (fun _ => rfl)) trivial
      | dropSender named => exact iff_of_true (keepsOthers_of_get (fun _ => rfl)) trivial
    | read read =>
      refine iff_of_true (keepsOthers_of_get (fun _ => rfl)) ?_
      cases read <;> trivial
    | _ => exact iff_of_true (keepsOthers_of_get (fun _ => rfl)) trivial

/-- In a run every event of a node leaves the sessions of all other nodes as they are exactly
    when every output and every message that its handlers write names an untracked session or
    one of the node itself, or does not show. -/
theorem other_nodes_unchanged_iff (h : Reaches config nodes history pool) :
    (∀ front e back nodeId, history = front ++ e :: back → HandlesNode front nodeId e →
      KeepsOthers nodeId e.before.sessions e.after.sessions) ↔
    ∀ front e back nodeId, history = front ++ e :: back → HandlesNode front nodeId e →
      NamesOwn nodeId e := by
  refine forall_congr' fun front => forall_congr' fun e => forall_congr' fun back =>
    forall_congr' fun nodeId => forall_congr' fun hsplit => forall_congr' fun handles => ?_
  exact h.keepsOthers_iff hsplit handles

end Handlers

/-- Alice opens a local terminal, the node's agent connects, Bob opens a terminal on the node,
    and the agent sends an output of this session, which Bob's handler records. -/
private def outputOf (sessionId : TerminalSessionId) : History :=
  calls defaultTerminalSessionConfig oneNode
    (localOpening 0 "alice" "t0" ++ agentOpening 2 false ++ remoteOpening 3 "bob" "t1" ++
      [.move 2 (.agent (.frame (.text (some (agentEnvelope 2
          (.terminalEvent (some ⟨1⟩) (.terminalOutput sessionId "x"))))))),
        .move 2 .none, .move 3 .channel, .move 3 .none])

/-- Whatever the call writes names a session of the node. -/
private def writesToNode (e : ControlEvent) : Bool :=
  match e.action with
  | .terminal (.recordOutput named _) =>
    (e.before.sessions.get named).all (fun session => session.nodeId == some "n")
  | .terminal (.rememberServerMessage message) =>
    (TerminalSessionRegistry.rememberedSession message).isNone
  | _ => true

private theorem namesOwn_of_writesToNode {e : ControlEvent} (h : writesToNode e = true) :
    NamesOwn "n" e := by
  obtain ⟨task, origin, action, reply, before, after, spawned⟩ := e
  unfold NamesOwn
  split
  · rename_i named data haction
    cases haction
    intro session found
    have hnode : (before.sessions.get named).all
        (fun session => session.nodeId == some "n") = true := h
    rw [show before.sessions.get named = some session from found] at hnode
    exact Or.inl (by simpa using hnode)
  · rename_i message haction
    cases haction
    intro named session hnamed
    have hnone : (TerminalSessionRegistry.rememberedSession message).isNone = true := h
    rw [hnamed] at hnone
    cases hnone
  · trivial

theorem other_nodes_unchanged_own : ∃ pool,
    Reaches defaultTerminalSessionConfig oneNode (outputOf (sessionIdOf 2)) pool ∧
    ∀ front e back nodeId, outputOf (sessionIdOf 2) = front ++ e :: back →
      HandlesNode front nodeId e → KeepsOthers nodeId e.before.sessions e.after.sessions := by
  obtain ⟨pool, h⟩ : ∃ pool,
      Reaches defaultTerminalSessionConfig oneNode (outputOf (sessionIdOf 2)) pool :=
    reaches_calls rfl
  refine ⟨pool, h, (other_nodes_unchanged_iff h).mpr ?_⟩
  have hwrites : (outputOf (sessionIdOf 2)).all writesToNode = true := rfl
  have hmade : (outputOf (sessionIdOf 2)).all
      (fun e => (madeBy e.interaction).all (fun made => made.1 == "n")) = true := rfl
  rintro front e back nodeId hsplit ⟨transportId, channel, ⟨maker, hmaker, made⟩, -⟩
  have hnode := List.all_eq_true.mp hmade maker
    (hsplit ▸ List.mem_append_left _ hmaker)
  rw [made] at hnode
  obtain rfl : nodeId = "n" := by simpa using hnode
  exact namesOwn_of_writesToNode
    (List.all_eq_true.mp hwrites e (hsplit ▸ List.mem_append_right _ (List.mem_cons_self ..)))

/-- The agent names Alice's session, and its output is written into her replay. -/
theorem event_writes_to_foreign_session : ∃ pool front e back,
    Reaches defaultTerminalSessionConfig oneNode (outputOf (sessionIdOf 1)) pool ∧
    outputOf (sessionIdOf 1) = front ++ e :: back ∧ HandlesNode front "n" e ∧
    ¬KeepsOthers "n" e.before.sessions e.after.sessions := by
  obtain ⟨pool, h⟩ : ∃ pool,
      Reaches defaultTerminalSessionConfig oneNode (outputOf (sessionIdOf 1)) pool :=
    reaches_calls rfl
  obtain ⟨e, he, htask, hbefore, hafter⟩ : ∃ e, (outputOf (sessionIdOf 1))[33]? = some e ∧
      e.task = 3 ∧
      (e.before.sessions.get (sessionIdOf 1)).map
        (fun session => (session.nodeId, session.nextOutputSequence)) = some (none, 1) ∧
      (e.after.sessions.get (sessionIdOf 1)).map (·.nextOutputSequence) = some 2 := by
    refine ⟨_, rfl, ?_⟩
    exact ⟨rfl, rfl, rfl⟩
  refine ⟨pool, _, e, _, h, split_at he, ⟨⟨"n-outbound"⟩, 0, ?_, Or.inr ⟨sessionIdOf 2, 1, ?_⟩⟩,
    ?_⟩
  · exact ⟨_, List.mem_of_getElem? (i := 12) rfl, rfl⟩
  · rw [htask]
    refine ⟨List.mem_of_getElem? (i := 1) rfl, _, List.mem_of_getElem? (i := 10) rfl, rfl, rfl⟩
  · intro hkept
    obtain ⟨session, found, hfields⟩ := Option.map_eq_some_iff.mp hbefore
    obtain ⟨hnode, hcounter⟩ := Prod.mk.inj hfields
    obtain ⟨after, hfound, hsame⟩ := hkept _ session found (by simp [hnode])
    rw [hfound, Option.map_some, hsame.nextOutputSequence, hcounter] at hafter
    cases hafter

end Sunbolt.Control
