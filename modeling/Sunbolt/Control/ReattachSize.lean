/- Module: Sunbolt/Control/ReattachSize
   scope: sunbolt-control/src/terminal/mod.rs, sunbolt-control/src/terminal/session_registry.rs
   digest: When a browser that reattaches is told the size that its terminal has now. -/

import Sunbolt.Control.TokenDelivery

set_option autoImplicit false
set_option relaxedAutoImplicit false

namespace Sunbolt.Control

open Sunbolt.Library
open Sunbolt.Protocol (TerminalSessionId TerminalReconnectToken NodeId TerminalTransportStatus)

/-- The Resize that is carried out by a call: the PTY of a local session takes the size that the
    handler has just recorded, the agent of a remote one is handed it. -/
def acceptedResize (front : History) (e : ControlEvent) :
    Option (TerminalSessionId × ProtocolTerminalSize) :=
  match e.interaction with
  | ⟨.terminal (.resize ..), .ok ()⟩ =>
    match (own e.task front).getLast? with
    | some ⟨.terminal (.setSize sessionId size), _⟩ => some (sessionId, size)
    | _ => none
  | ⟨.agent (.sendCommand _ (.resizeTerminal sessionId size)), true⟩ => some (sessionId, size)
  | _ => none

/-- The size of a session after the calls that follow `front`. -/
def sizeAfter (sessionId : TerminalSessionId) (front : History) (size : ProtocolTerminalSize) :
    History → ProtocolTerminalSize
  | [] => size
  | e :: rest =>
    match acceptedResize front e with
    | some (named, given) =>
      sizeAfter sessionId (front ++ [e]) (if named = sessionId then given else size) rest
    | none => sizeAfter sessionId (front ++ [e]) size rest

/-- The size of the last Resize that was accepted for a session, or its initial one. -/
def currentSize (sessionId : TerminalSessionId) (initial : ProtocolTerminalSize)
    (history : History) : ProtocolTerminalSize :=
  sizeAfter sessionId [] initial history

/-- The size of the last Resize that a handler set out to carry out on a local session, whatever
    became of it, or its initial one. -/
def recordedSize (sessionId : TerminalSessionId) (initial : ProtocolTerminalSize)
    (history : History) : ProtocolTerminalSize :=
  history.foldl (fun size e => match e.action with
    | .terminal (.setSize named given) => if named = sessionId then given else size
    | _ => size) initial

/-- The task answers a Reattach message of the browser that is attached through it: it has just
    read the token for that. -/
def AnswersReattach (front : History) (task : Nat) (sessionId : TerminalSessionId) : Prop :=
  ∃ token, (own task front).getLast? = some ⟨.terminal (.reconnectToken sessionId), token⟩

/-- The task answers a reconnect: its last call is the reattach, after `early`. -/
structure AnswersReconnect (front early : History) (reconnect : ControlEvent) (waits : History)
    (task : Nat) (sessionId : TerminalSessionId) : Prop where
  split : front = early ++ reconnect :: waits
  task_eq : reconnect.task = task
  accepted : Reattaches sessionId reconnect
  silent : ∀ other ∈ waits, other.task ≠ task

section Sizes

variable {config : TerminalSessionConfig} {nodes : NodeEnrollmentState}
  {history front back early : History} {pool : ControlPool} {e : ControlEvent}
  {sessionId : TerminalSessionId} {request : TerminalSessionInsert} {opener output : Nat}

theorem recordedSize_snoc (sessionId : TerminalSessionId) (initial : ProtocolTerminalSize)
    (front : History) (e : ControlEvent) :
    recordedSize sessionId initial (front ++ [e]) = match e.action with
      | .terminal (.setSize named given) =>
        if named = sessionId then given else recordedSize sessionId initial front
      | _ => recordedSize sessionId initial front := by
  rw [recordedSize, List.foldl_append]
  rfl

/-- A call that records no size for the session leaves the recorded size as it is. -/
theorem recordedSize_same {initial : ProtocolTerminalSize}
    (other : ∀ size, e.action ≠ .terminal (.setSize sessionId size)) :
    recordedSize sessionId initial (front ++ [e]) = recordedSize sessionId initial front := by
  rw [recordedSize_snoc]
  split
  · rename_i named given haction
    refine if_neg (fun hnamed => other given ?_)
    rw [haction, hnamed]
  · rfl

/-- Sizes are recorded for local sessions that have been opened. -/
private theorem Reaches.opened_of_setSize (h : Reaches config nodes history pool)
    (hsplit : history = front ++ e :: back) {size : ProtocolTerminalSize}
    (haction : e.action = .terminal (.setSize sessionId size)) :
    ∃ opener request output pty, OpenedBy front opener request output ∧
      request.sessionId = sessionId ∧ request.backend = .local pty := by
  have act := (h.next hsplit).act
  rw [haction] at act
  obtain ⟨actorEmail, browser, pty, output, attached⟩ := browser_only act rfl
  obtain ⟨opener, request, opened, named, backend, -⟩ := h.attached hsplit browser attached
  exact ⟨opener, request, output, pty, opened, named, backend⟩

/-- Nobody records a size for a session of a node, nor for one before it is opened. -/
private theorem recordedSize_initial {initial : ProtocolTerminalSize}
    (none : ∀ e ∈ history, ∀ size, e.action ≠ .terminal (.setSize sessionId size)) :
    recordedSize sessionId initial history = initial := by
  induction history using List.reverseRecOn with
  | nil => rfl
  | append_singleton front e ih =>
    rw [recordedSize_same (none e (List.mem_append_right front (List.mem_singleton_self e)))]
    exact ih (fun other hother => none other (List.mem_append_left [e] hother))

private theorem Reaches.recordedSize_remote (h : Reaches config nodes history pool)
    (opened : OpenedBy history opener request output) {channel : Nat}
    (backend : request.backend = .remote channel) :
    recordedSize request.sessionId request.size history = request.size := by
  refine recordedSize_initial (fun e he size haction => ?_)
  obtain ⟨front, back, hsplit⟩ := List.append_of_mem he
  obtain ⟨other, later, given, pty, hlater, named, hlocal⟩ := h.opened_of_setSize hsplit haction
  have hlater := hlater.later (hsplit ▸ own_isPrefix other front (e :: back))
  obtain ⟨-, rfl, -⟩ := h.ledger.unique_id hlater opened named
  cases backend.symm.trans hlocal

private theorem Reaches.recordedSize_fresh (h : Reaches config nodes history pool)
    (hsplit : history = front ++ e :: back)
    (inserts : e.interaction = ⟨.terminal (.insert request), .ok output⟩)
    (initial : ProtocolTerminalSize) :
    recordedSize request.sessionId initial front = initial := by
  refine recordedSize_initial (fun other hother size haction => ?_)
  obtain ⟨before, hfront, -⟩ := h.front hsplit
  obtain ⟨first, rest, hrest⟩ := List.append_of_mem hother
  obtain ⟨opener, earlier, given, pty, opened, named, -⟩ := hfront.opened_of_setSize hrest haction
  have hearlier : OpenedBy front opener earlier given :=
    opened.later (hrest ▸ own_isPrefix opener first (other :: rest))
  exact (h.next hsplit).insert_fresh inserts hearlier named

/-- A recorded size is the size of the session. -/
private theorem AppStep.size_set {state next : AppState} {task : Nat}
    {size : ProtocolTerminalSize} {reply : Reply (.terminal (.setSize sessionId size))}
    (step : AppStep task state (.terminal (.setSize sessionId size)) reply next)
    {session : TrackedTerminalSession} (found : next.sessions.get sessionId = some session) :
    session.size = size := by
  cases step with
  | write hwrite =>
    cases hwrite with
    | setSize named given =>
      rw [TerminalSessionRegistry.get_setSize, if_pos rfl] at found
      obtain ⟨before, -, rfl⟩ := Option.map_eq_some_iff.mp found
      rfl
  | read hread => cases hread

/-- Other calls leave the size of a session as it is. -/
private theorem AppStep.size_kept {state next : AppState} {task : Nat} {action : Action}
    {reply : Reply action} (step : AppStep task state action reply next)
    (other : ∀ size, action ≠ .terminal (.setSize sessionId size))
    {session : TrackedTerminalSession} (found : next.sessions.get sessionId = some session) :
    (∃ before, state.sessions.get sessionId = some before ∧ session.size = before.size) ∨
    ∃ request output, (⟨action, reply⟩ : Interaction Action Reply) =
      ⟨.terminal (.insert request), .ok output⟩ ∧ request.sessionId = sessionId ∧
      session.size = request.size := by
  cases step with
  | write hwrite =>
    cases hwrite.session found with
    | same session before => exact Or.inl ⟨session, before, rfl⟩
    | insert request now token named => exact Or.inr ⟨request, _, rfl, named, rfl⟩
    | setState state session before =>
      refine Or.inl ⟨session, before, ?_⟩
      rw [TrackedTerminalSession.moveTo]
      split <;> rfl
    | reattach given actorEmail now token session reply before =>
      exact Or.inl ⟨session, before, rfl⟩
    | touch now session before => exact Or.inl ⟨session, before, rfl⟩
    | setSize size session before => exact absurd rfl (other size)
    | recordOutput data session reply before => exact Or.inl ⟨session, before, rfl⟩
    | rememberServerMessage message session before named =>
      exact Or.inl ⟨session, before, rfl⟩
  | _ => exact Or.inl ⟨session, found, rfl⟩

/-- The registry has the size that was recorded last. -/
theorem Reaches.size_recorded (h : Reaches config nodes history pool)
    (opened : OpenedBy history opener request output) {session : TrackedTerminalSession}
    (found : pool.shared.sessions.get request.sessionId = some session) :
    session.size = recordedSize request.sessionId request.size history := by
  refine h.along (I := fun history state => ∀ {opener request output},
    OpenedBy history opener request output → ∀ {session},
      state.sessions.get request.sessionId = some session →
      session.size = recordedSize request.sessionId request.size history) ?_ ?_ opened found
  · exact fun hopened => absurd hopened List.not_mem_nil
  · intro front e _ run ih opener request output opened session found
    have next := run.next rfl
    rcases did_snoc.mp opened with hold | ⟨-, inserts⟩
    · by_cases hset : ∃ size, e.action = .terminal (.setSize request.sessionId size)
      · obtain ⟨size, haction⟩ := hset
        have step := next.step
        rw [recordedSize_snoc, haction]
        obtain ⟨i, origin, action, reply, before, after, spawned⟩ := e
        cases haction
        simpa using AppStep.size_set step found
      · have other : ∀ size, e.action ≠ .terminal (.setSize request.sessionId size) :=
          fun size haction => hset ⟨size, haction⟩
        rw [recordedSize_same other]
        rcases next.step.size_kept other found with
          ⟨before, hbefore, hsame⟩ | ⟨later, channel, hinsert, hid, -⟩
        · exact hsame.trans (ih hold hbefore)
        · exact absurd hid.symm (next.insert_fresh hinsert hold)
    · have other : ∀ size, e.action ≠ .terminal (.setSize request.sessionId size) := by
        intro size haction
        cases haction.symm.trans (congrArg Interaction.action inserts)
      rw [recordedSize_same other, run.recordedSize_fresh rfl inserts]
      have step := next.step
      obtain ⟨i, origin, action, reply, before, after, spawned⟩ := e
      cases inserts
      obtain ⟨-, now, token, hafter⟩ := AppStep.opened step
      change after.sessions.get request.sessionId = some session at found
      rw [hafter, TerminalSessionRegistry.get_insert, if_pos rfl] at found
      cases found
      rfl

/-- A reattach hands out the size that the registry has. -/
private theorem AppStep.reattachedSize {state next : AppState} {task : Nat}
    {given : TerminalReconnectToken} {actorEmail : String} {target : TerminalReattachTarget}
    (step : AppStep task state (.terminal (.reattach sessionId given actorEmail)) (some target)
      next) :
    ∃ session, state.sessions.get sessionId = some session ∧ target.size = session.size := by
  generalize hreply : some target = reply at step
  cases step with
  | write hwrite =>
    cases hwrite with
    | reattach _ _ _ now token =>
      rcases state.sessions.reattach_cases sessionId given actorEmail now token with
        heq | ⟨session, found, -, -, -, heq⟩
      · rw [heq] at hreply
        cases hreply
      · rw [heq] at hreply
        cases hreply
        exact ⟨session, found, rfl⟩
  | read hread => cases hread

/-- The last call of a task stands in the history after its other ones. -/
private theorem exists_last_own {task : Nat} {past : Past} {x : Interaction Action Reply}
    (h : own task history = past ++ [x]) :
    ∃ front e waits, history = front ++ e :: waits ∧ e.task = task ∧ e.interaction = x ∧
      ∀ other ∈ waits, other.task ≠ task := by
  obtain ⟨front, e, waits, hsplit, htask, heq, howns⟩ := exists_split_of_own h
  refine ⟨front, e, waits, hsplit, htask, heq, fun other hother hsame => ?_⟩
  have hlength : (own task history).length = (own task front).length + 1 := by
    rw [h, howns, List.length_append, List.length_singleton]
  have hwaits : other.interaction ∈ own task waits :=
    Service.mem_own.mpr ⟨other, hother, hsame, rfl⟩
  have hpos := List.length_pos_of_mem hwaits
  rw [hsplit, own, Service.own, List.filter_append, List.map_append, List.length_append,
    List.filter_cons_of_pos (by simpa using htask), List.map_cons, List.length_cons] at hlength
  change (own task front).length + ((own task waits).length + 1) = _ at hlength
  omega

/-- The size in a Reattached message is the one that the registry had at the reattach. -/
private theorem Reaches.reconnected (h : Reaches config nodes history pool) {waits : History}
    (hsplit : history = early ++ e :: waits) {given : TerminalReconnectToken}
    {actorEmail : String} {target : TerminalReattachTarget}
    (accepted : e.interaction =
      ⟨.terminal (.reattach sessionId given actorEmail), some target⟩) :
    ∃ opener request output, OpenedBy early opener request output ∧
      request.sessionId = sessionId ∧
      target.size = recordedSize sessionId request.size early ∧
      ∀ channel, request.backend = .remote channel → target.size = request.size := by
  obtain ⟨before, hfront, hbefore⟩ := h.front hsplit
  have step := (h.next hsplit).step
  obtain ⟨i, origin, action, reply, state, after, spawned⟩ := e
  cases accepted
  obtain ⟨session, found, hsize⟩ := AppStep.reattachedSize step
  have found : before.shared.sessions.get sessionId = some session := hbefore ▸ found
  obtain ⟨opener, request, output, opened, rfl, -⟩ := hfront.ledger.tracked found
  have hrecorded := hsize.trans (hfront.size_recorded opened found)
  refine ⟨opener, request, output, opened, rfl, hrecorded, fun channel backend => ?_⟩
  rw [hrecorded, hfront.recordedSize_remote opened backend]

/-- A Reattached message has the current size of the session exactly when this size is, in the
    answer to a Reattach of the browser that is attached, 80 by 24; in the answer to a reconnect
    to a session of a node, its initial one; and to a local session, the one recorded last
    before the reconnect. -/
theorem reattached_size_iff (h : Reaches config nodes history pool)
    (hsplit : history = front ++ e :: back) {nodeId : Option NodeId} {size : ProtocolTerminalSize}
    {token : Option TerminalReconnectToken} {status : Option TerminalTransportStatus}
    (sends : e.action = .host (.send (.reattached sessionId nodeId size token status))) :
    ∃ opener request output, OpenedBy front opener request output ∧
      request.sessionId = sessionId ∧
      ((AnswersReattach front e.task sessionId ∧ (∃ pty, request.backend = .local pty) ∧
        (size = currentSize sessionId request.size front ↔
          currentSize sessionId request.size front = ⟨80, 24⟩)) ∨
      ∃ early reconnect waits, AnswersReconnect front early reconnect waits e.task sessionId ∧
        (∀ channel, request.backend = .remote channel →
          (size = currentSize sessionId request.size front ↔
            currentSize sessionId request.size front = request.size)) ∧
        ∀ pty, request.backend = .local pty →
          (size = currentSize sessionId request.size front ↔
            currentSize sessionId request.size front =
              recordedSize sessionId request.size early)) := by
  have act := (h.next hsplit).act
  rw [sends] at act
  obtain ⟨actorEmail, browser, -⟩ := browser_only_host act rfl
  have loud : isMute e.action = false := by rw [sends]; rfl
  generalize hmessage : Sunbolt.Protocol.TerminalServerMessage.reattached sessionId nodeId size
    token status = message at sends
  cases h.tells hsplit browser message sends loud with
  | opened => cases hmessage
  | started => cases hmessage
  | again past named given pty output attached reads =>
    cases hmessage
    have hlater := attached.later (reads ▸ List.prefix_append past _)
    obtain ⟨opener, request, opened, rfl, backend, -⟩ := h.attached hsplit browser hlater
    refine ⟨opener, request, output, opened, rfl, Or.inl ⟨⟨token, ?_⟩, ⟨pty, backend⟩, eq_comm⟩⟩
    rw [reads, List.getLast?_concat]
  | reattached past named given target accepted =>
    cases hmessage
    obtain ⟨early, reconnect, waits, rfl, htask, heq, silent⟩ := exists_last_own accepted
    have hreconnect : history = early ++ reconnect :: (waits ++ e :: back) := by simp [hsplit]
    obtain ⟨opener, request, output, opened, rfl, hrecorded, hremote⟩ :=
      h.reconnected hreconnect heq
    refine ⟨opener, request, output, opened.later (own_isPrefix opener early _), rfl,
      Or.inr ⟨early, reconnect, waits, ⟨rfl, htask, ⟨given, actorEmail, target, heq⟩, silent⟩,
        fun channel backend => ?_, fun pty backend => ?_⟩⟩
    · rw [hremote channel backend]
      exact eq_comm
    · rw [hrecorded]
      exact eq_comm
  | stream message x hx hstream =>
    cases hmessage
    cases (h.stream_of_source hsplit browser ⟨x, hx, hstream⟩).1

end Sizes

/-- The browser that is attached to a local session resizes its terminal. -/
private def resizing (task : Nat) : List (Label Arrival Choice) :=
  [.move task (.browser (some (.text (.ok (.resize (sessionIdOf 1) ⟨120, 40⟩))))),
    .move task (.clock 1), .move task .none, .move task (.system (.ok ()))]

/-- It goes away, and comes back over another connection. -/
private def reconnecting (task other : Nat) : List (Label Arrival Choice) :=
  [.move task (.browser none), .move task .none, .move task .none, .move task .none,
    .arrive (.browser "alice"),
    .move other (.browser (some (.text (.ok (.reattach (sessionIdOf 1) ⟨"t0"⟩))))),
    .move other .none, .move other .none, .move other (.clockToken 3 ⟨"t1"⟩),
    .move other (.decide true), .move other .none, .move other .none]

private def resizedLocally : History :=
  calls defaultTerminalSessionConfig ⟨[], [], []⟩
    (localOpening 0 "alice" "t0" ++ resizing 0 ++ reconnecting 0 2)

private def acceptsReattach : Interaction Action Reply → Bool
  | ⟨.terminal (.reattach ..), some _⟩ => true
  | _ => false

private def insertsLocally : Interaction Action Reply → Bool
  | ⟨.terminal (.insert request), _⟩ => request.size == ⟨80, 24⟩ && request.backend == .local 0
  | _ => true

/-- A local session that is reconnected to has kept its size. -/
theorem reattached_size_kept : ∃ pool e opener request output,
    Reaches defaultTerminalSessionConfig ⟨[], [], []⟩ resizedLocally pool ∧
    resizedLocally[22]? = some e ∧
    e.action = .host (.send (.reattached (sessionIdOf 1) none ⟨120, 40⟩ (some ⟨"t1"⟩) none)) ∧
    OpenedBy (resizedLocally.take 22) opener request output ∧
    request.sessionId = sessionIdOf 1 ∧
    ⟨120, 40⟩ = currentSize (sessionIdOf 1) request.size (resizedLocally.take 22) := by
  obtain ⟨pool, h⟩ : ∃ pool,
      Reaches defaultTerminalSessionConfig ⟨[], [], []⟩ resizedLocally pool := reaches_calls rfl
  obtain ⟨e, he, sends, htask⟩ : ∃ e, resizedLocally[22]? = some e ∧
      e.action = .host (.send (.reattached (sessionIdOf 1) none ⟨120, 40⟩ (some ⟨"t1"⟩) none)) ∧
      e.task = 2 := ⟨_, rfl, rfl, rfl⟩
  obtain ⟨opener, request, output, opened, named, answers⟩ :=
    reattached_size_iff h (split_at he) sends
  refine ⟨pool, e, opener, request, output, h, he, sends, opened, named, ?_⟩
  have hinserts : resizedLocally.all (fun e => insertsLocally e.interaction) = true := rfl
  obtain ⟨insert, hinsert, -, heq⟩ := Service.mem_own.mp opened
  have hrequest := List.all_eq_true.mp hinserts insert (List.mem_of_mem_take hinsert)
  rw [heq] at hrequest
  obtain ⟨hsize, hbackend⟩ : request.size = ⟨80, 24⟩ ∧ request.backend = .local 0 := by
    simpa [insertsLocally] using hrequest
  rcases answers with ⟨⟨token, hlast⟩, -⟩ | ⟨early, reconnect, waits, answers, -, holds⟩
  · have hreattach : ∃ given target, (own 2 (resizedLocally.take 22)).getLast? =
        some ⟨.terminal (.reattach (sessionIdOf 1) given "alice"), target⟩ := ⟨_, _, rfl⟩
    obtain ⟨given, target, hreattach⟩ := hreattach
    rw [htask, hreattach] at hlast
    cases hlast
  · have hearly : early = resizedLocally.take 21 := by
      have hfirst : (resizedLocally.take 21).all (fun e => !acceptsReattach e.interaction) =
          true := rfl
      obtain ⟨accepts, haccepts⟩ : ∃ accepts, resizedLocally.take 22 =
        resizedLocally.take 21 ++ [accepts] := ⟨_, rfl⟩
      have hsplit := haccepts.symm.trans answers.split
      rcases List.eq_nil_or_concat waits with rfl | ⟨rest, last, rfl⟩
      · exact (List.append_inj' hsplit rfl).1.symm
      · rw [List.concat_eq_append, ← List.cons_append, ← List.append_assoc] at hsplit
        have hbefore := (List.append_inj' hsplit rfl).1
        have hnone := List.all_eq_true.mp hfirst reconnect (by simp [hbefore])
        obtain ⟨given, actor, target, haccepted⟩ := answers.accepted
        rw [haccepted] at hnone
        cases hnone
    refine (holds 0 hbackend).mpr ?_
    rw [hsize, hearly]
    rfl

/-- A browser was told another size than the current one. -/
def ToldAnotherSize (history : History) : Prop :=
  ∃ front e back sessionId nodeId size token status opener request output,
    history = front ++ e :: back ∧
    e.action = .host (.send (.reattached sessionId nodeId size token status)) ∧
    OpenedBy front opener request output ∧ request.sessionId = sessionId ∧
    size ≠ currentSize sessionId request.size front

/-- The browser that is attached sends a Reattach. -/
private def askingAgain (task : Nat) : List (Label Arrival Choice) :=
  [.move task (.browser (some (.text (.ok (.reattach (sessionIdOf 1) ⟨"t0"⟩))))),
    .move task (.clock 2), .move task .none, .move task .none, .move task .none,
    .move task (.decide true), .move task .none]

private def resizedAgain : History :=
  calls defaultTerminalSessionConfig ⟨[], [], []⟩
    (localOpening 0 "alice" "t0" ++ resizing 0 ++ askingAgain 0)

/-- The browser that opened a remote session resizes its terminal. -/
private def remoteResize (task : Nat) : List (Label Arrival Choice) :=
  [.move task (.browser (some (.text (.ok (.resize (sessionIdOf 1) ⟨120, 40⟩))))),
    .move task .none]

private def resizedRemotely : History :=
  calls defaultTerminalSessionConfig oneNode
    (agentOpening 0 false ++ remoteOpening 1 "alice" "t0" ++ agentStarts 0 1 ++ remoteResize 1 ++
      openerDetaches 1 ++ remoteReattach 2)

/-- A Reattach of the browser that is attached is answered with 80 by 24, and a reconnect to a
    session of a node with its initial size, after the terminal was made 120 by 40. -/
theorem reattached_size_lost :
    (∃ pool, Reaches defaultTerminalSessionConfig ⟨[], [], []⟩ resizedAgain pool ∧
      ToldAnotherSize resizedAgain) ∧
    ∃ pool, Reaches defaultTerminalSessionConfig oneNode resizedRemotely pool ∧
      ToldAnotherSize resizedRemotely := by
  constructor
  · obtain ⟨pool, h⟩ : ∃ pool,
        Reaches defaultTerminalSessionConfig ⟨[], [], []⟩ resizedAgain pool := reaches_calls rfl
    obtain ⟨e, he, sends⟩ : ∃ e, resizedAgain[19]? = some e ∧ e.action =
        .host (.send (.reattached (sessionIdOf 1) none ⟨80, 24⟩ (some ⟨"t0"⟩) none)) :=
      ⟨_, rfl, rfl⟩
    obtain ⟨request, opened, named, hcurrent⟩ : ∃ request,
        OpenedBy (resizedAgain.take 19) 0 request 0 ∧ request.sessionId = sessionIdOf 1 ∧
        currentSize (sessionIdOf 1) request.size (resizedAgain.take 19) = ⟨120, 40⟩ :=
      ⟨_, List.mem_of_getElem? (i := 3) rfl, rfl, rfl⟩
    refine ⟨pool, h, _, e, _, _, _, _, _, _, 0, request, 0, split_at he, sends, opened, named, ?_⟩
    rw [hcurrent]
    decide
  · obtain ⟨pool, h⟩ : ∃ pool,
        Reaches defaultTerminalSessionConfig oneNode resizedRemotely pool := reaches_calls rfl
    obtain ⟨e, he, node, size, token, status, sends, hsize⟩ : ∃ e, resizedRemotely[43]? = some e ∧
        ∃ node size token status, e.action =
          .host (.send (.reattached (sessionIdOf 1) node size token status)) ∧
          size = ⟨80, 24⟩ :=
      ⟨_, rfl, _, _, _, _, rfl, rfl⟩
    obtain ⟨request, opened, named, hcurrent⟩ : ∃ request,
        OpenedBy (resizedRemotely.take 43) 1 request 0 ∧ request.sessionId = sessionIdOf 1 ∧
        currentSize (sessionIdOf 1) request.size (resizedRemotely.take 43) = ⟨120, 40⟩ :=
      ⟨_, List.mem_of_getElem? (i := 10) rfl, rfl, rfl⟩
    refine ⟨pool, h, _, e, _, _, _, _, _, _, 1, request, 0, split_at he, sends, opened, named, ?_⟩
    rw [hcurrent, hsize]
    decide

end Sunbolt.Control
