/- Module: Sunbolt/Control/TokenDelivery
   scope: sunbolt-control/src/terminal/mod.rs, sunbolt-control/src/terminal/session_registry.rs
   digest: When the owner of a session has been sent the token that the session has now. -/

import Sunbolt.Control.GreetOrder
import Sunbolt.Control.ReattachDelivery
import Sunbolt.Control.ExplicitTerminate

set_option autoImplicit false
set_option relaxedAutoImplicit false

namespace Sunbolt.Control

open Sunbolt.Library
open Sunbolt.Protocol (TerminalSessionId TerminalReconnectToken TerminalServerMessage
  AgentTerminalEvent NodeId TerminalTransportStatus)

/-- The call gives the session a token: it opens the session or reattaches to it. -/
def GivesToken (sessionId : TerminalSessionId) (e : ControlEvent) : Prop :=
  (∃ request output, e.interaction = ⟨.terminal (.insert request), .ok output⟩ ∧
    request.sessionId = sessionId) ∨ Reattaches sessionId e

/-- The browser that opened the session waits for Started, one that reattached to it for
    Reattached. -/
inductive Welcomes (sessionId : TerminalSessionId) :
    Interaction Action Reply → TerminalServerMessage → Prop
  | started (request : TerminalSessionInsert) (output : Nat) (nodeId : Option NodeId)
      (size : ProtocolTerminalSize) (token : Option TerminalReconnectToken)
      (status : Option TerminalTransportStatus) (named : request.sessionId = sessionId) :
    Welcomes sessionId ⟨.terminal (.insert request), .ok output⟩
      (.started sessionId nodeId size token status)
  | reattached (given : TerminalReconnectToken) (actorEmail : String)
      (target : TerminalReattachTarget) (nodeId : Option NodeId) (size : ProtocolTerminalSize)
      (token : Option TerminalReconnectToken) (status : Option TerminalTransportStatus) :
    Welcomes sessionId ⟨.terminal (.reattach sessionId given actorEmail), some target⟩
      (.reattached sessionId nodeId size token status)

/-- The browser that opened the session, or the last one that reattached to it, has been sent the
    message that it waits for. -/
def Greeted (history : History) (sessionId : TerminalSessionId) : Prop :=
  ∃ front e back message, history = front ++ e :: back ∧
    Welcomes sessionId e.interaction message ∧
    Did (own e.task history) (.host (.send message)) true ∧
    ∀ other ∈ back, ¬GivesToken sessionId other

/-- The token that the session has now was in a Started or Reattached message about the session
    which was sent to a browser of its owner. -/
def TokenDelivered (history : History) (sessionId : TerminalSessionId)
    (session : TrackedTerminalSession) : Prop :=
  ∃ e ∈ history, ∃ message, e.origin = .terminalSocket session.actorEmail ∧
    e.interaction = ⟨.host (.send message), true⟩ ∧
    greetingOf message = some (sessionId, some session.reconnectToken)

/-- A message that a browser gets at second hand: it tells of no reattach and has no token. -/
def passedOn : TerminalServerMessage → Bool
  | .started _ _ _ token _ => token.isNone
  | .reattached .. => false
  | _ => true

section Tokens

variable {config : TerminalSessionConfig} {nodes : NodeEnrollmentState}
  {history front back : History} {pool : ControlPool} {e : ControlEvent} {task : Nat}
  {sessionId : TerminalSessionId}

/-! The token that a session has. -/

private theorem token_moveTo (session : TrackedTerminalSession)
    (state : Sunbolt.Terminal.TerminalSessionState) :
    (session.moveTo state).reconnectToken = session.reconnectToken := by
  rw [TrackedTerminalSession.moveTo]
  split <;> rfl

/-- An accepted reattach leaves the session with the token that it hands out. -/
private theorem reattach_token {registry : TerminalSessionRegistry}
    {given token : TerminalReconnectToken} {actorEmail : String} {now : Nat}
    {session : TrackedTerminalSession}
    (found : (registry.reattach sessionId given actorEmail now token).1.get sessionId =
      some session) :
    ((registry.reattach sessionId given actorEmail now token).2 = none ∧
      registry.get sessionId = some session) ∨
    ∃ target, (registry.reattach sessionId given actorEmail now token).2 = some target ∧
      session.reconnectToken = target.reconnectToken := by
  rcases registry.reattach_cases sessionId given actorEmail now token with
    heq | ⟨tracked, -, -, -, -, heq⟩
  · rw [heq] at found ⊢
    exact Or.inl ⟨rfl, found⟩
  · rw [heq, TerminalSessionRegistry.get_modify, if_pos rfl] at found
    obtain ⟨before, -, rfl⟩ := Option.map_eq_some_iff.mp found
    rw [heq]
    exact Or.inr ⟨_, rfl, rfl⟩

/-- A session keeps its token until it is given another one. -/
theorem TerminalWrite.token {registry next : TerminalSessionRegistry}
    {action : TerminalAction} {reply : TerminalReply action}
    (h : TerminalWrite registry action reply next) {session : TrackedTerminalSession}
    (found : next.get sessionId = some session) :
    (∃ before, registry.get sessionId = some before ∧
      session.reconnectToken = before.reconnectToken) ∨
    (∃ request output, (⟨.terminal action, reply⟩ : Interaction Action Reply) =
      ⟨.terminal (.insert request), .ok output⟩ ∧ request.sessionId = sessionId) ∨
    ∃ given actorEmail target, (⟨.terminal action, reply⟩ : Interaction Action Reply) =
      ⟨.terminal (.reattach sessionId given actorEmail), some target⟩ ∧
      session.reconnectToken = target.reconnectToken := by
  cases h.session found with
  | same session before => exact Or.inl ⟨session, before, rfl⟩
  | insert request now token named => exact Or.inr (Or.inl ⟨request, _, rfl, named⟩)
  | setState state session before => exact Or.inl ⟨session, before, token_moveTo session state⟩
  | reattach given actorEmail now token session reply before =>
    cases h with
    | reattach _ _ _ later fresh =>
      rcases reattach_token found with ⟨-, same⟩ | ⟨target, hreply, htoken⟩
      · exact Or.inl ⟨_, same, rfl⟩
      · exact Or.inr (Or.inr ⟨given, actorEmail, target, by rw [hreply], htoken⟩)
  | touch now session before => exact Or.inl ⟨session, before, rfl⟩
  | setSize size session before => exact Or.inl ⟨session, before, rfl⟩
  | recordOutput data session reply before => exact Or.inl ⟨session, before, rfl⟩
  | rememberServerMessage message session before named =>
    exact Or.inl ⟨session, before, rfl⟩

theorem AppStep.token {state next : AppState} {action : Action} {reply : Reply action}
    (step : AppStep task state action reply next) {session : TrackedTerminalSession}
    (found : next.sessions.get sessionId = some session) :
    (∃ before, state.sessions.get sessionId = some before ∧
      session.reconnectToken = before.reconnectToken) ∨
    (∃ request output, (⟨action, reply⟩ : Interaction Action Reply) =
      ⟨.terminal (.insert request), .ok output⟩ ∧ request.sessionId = sessionId) ∨
    ∃ given actorEmail target, (⟨action, reply⟩ : Interaction Action Reply) =
      ⟨.terminal (.reattach sessionId given actorEmail), some target⟩ ∧
      session.reconnectToken = target.reconnectToken := by
  cases step with
  | write hwrite => exact hwrite.token found
  | _ => exact Or.inl ⟨session, found, rfl⟩

theorem AppStep.reattachedToken {state next : AppState} {given : TerminalReconnectToken}
    {actorEmail : String} {target : TerminalReattachTarget}
    (step : AppStep task state (.terminal (.reattach sessionId given actorEmail)) (some target)
      next) {session : TrackedTerminalSession}
    (found : next.sessions.get sessionId = some session) :
    session.reconnectToken = target.reconnectToken := by
  generalize hreply : some target = reply at step
  cases step with
  | write hwrite =>
    cases hwrite with
    | reattach _ _ _ now token =>
      rcases reattach_token found with ⟨hnone, -⟩ | ⟨other, hother, htoken⟩
      · cases hreply.trans hnone
      · cases hreply.trans hother
        exact htoken
  | read hread => cases hread

theorem AppStep.tokenRead {state next : AppState} {token : Option TerminalReconnectToken}
    (step : AppStep task state (.terminal (.reconnectToken sessionId)) token next) :
    next = state ∧ token = state.sessions.reconnectToken sessionId := by
  cases step with
  | write hwrite => cases hwrite
  | read hread =>
    cases hread
    exact ⟨rfl, rfl⟩

/-- The token that a session has after a call is the one it has at the end, when nothing gives it
    another one in between. -/
theorem Reaches.token_kept (h : Reaches config nodes history pool)
    (hsplit : history = front ++ e :: back) (last : ∀ other ∈ back, ¬GivesToken sessionId other)
    {token : Option TerminalReconnectToken}
    (start : ∀ session, e.after.sessions.get sessionId = some session →
      token = some session.reconnectToken)
    {session : TrackedTerminalSession}
    (found : pool.shared.sessions.get sessionId = some session) :
    token = some session.reconnectToken := by
  refine h.since_end (I := fun state => ∀ session, state.sessions.get sessionId = some session →
    token = some session.reconnectToken) hsplit start ?_ session found
  intro before other hother next earlier session hfound
  rcases next.step.token hfound with ⟨old, hold, hsame⟩ | hopens | ⟨given, actor, target, heq, -⟩
  · rw [hsame]
    exact earlier old hold
  · exact absurd (Or.inl hopens) (last other hother)
  · exact absurd (Or.inr ⟨given, actor, target, heq⟩) (last other hother)

/-- A session that is tracked was opened by the user that it belongs to. -/
private theorem Reaches.opened_tracked (h : Reaches config nodes history pool)
    {session : TrackedTerminalSession}
    (found : pool.shared.sessions.get sessionId = some session) {opener output : Nat}
    {request : TerminalSessionInsert} (opened : OpenedBy history opener request output)
    (named : request.sessionId = sessionId) : session.identity = request.identity output := by
  obtain ⟨other, later, given, hlater, hid, hidentity⟩ := h.ledger.tracked found
  obtain ⟨-, rfl, rfl⟩ := h.ledger.unique_id hlater opened (hid.trans named.symm)
  exact hidentity

/-- Whoever is given a session is the handler of a browser of its owner, and has had no session
    before. -/
private theorem Reaches.given_fresh (h : Reaches config nodes history pool)
    (hsplit : history = front ++ e :: back) (gives : GivesToken sessionId e) :
    Fresh (own e.task front) ∧ ∃ request output opener actorEmail,
      OpenedBy history opener request output ∧ request.sessionId = sessionId ∧
      request.actorEmail = actorEmail ∧ e.origin = .terminalSocket actorEmail := by
  have next := h.next hsplit
  have act := next.act
  have hinitial : ∀ other, own other front <+: own other history :=
    fun other => hsplit ▸ own_isPrefix other front (e :: back)
  have hown : e.interaction ∈ own e.task history :=
    Service.mem_own.mpr ⟨e, hsplit ▸ List.mem_append_right _ (List.mem_cons_self ..), rfl, rfl⟩
  have ledger := h.ledger
  obtain ⟨i, origin, action, reply, before, after, spawned⟩ := e
  rcases gives with ⟨request, output, heq, hid⟩ | ⟨given, actor, target, heq⟩
  · cases heq
    obtain ⟨actorEmail, rfl, hactor, -, fresh, -⟩ := browser_only act rfl
    exact ⟨fresh, request, output, i, actorEmail, hown, hid, hactor, rfl⟩
  · cases heq
    obtain ⟨actorEmail, rfl, rfl, fresh, -⟩ := browser_only act rfl
    obtain ⟨opener, request, output, hopened, hid, hactor, -⟩ := ledger.reattached hown
    exact ⟨fresh, request, output, opener, actor, hopened, hid, hactor, rfl⟩

private theorem Attached.not_fresh {past : Past} {actorEmail : String}
    {backend : TerminalBackend} {output : Nat}
    (attached : Attached past actorEmail sessionId backend output) : ¬Fresh past := by
  intro fresh
  rcases attached with ⟨-, request, hinsert, -, -⟩ | ⟨given, target, -, haccepted, -, -⟩
  · cases fresh _ hinsert
  · cases fresh _ haccepted

/-- The last task that was given the session and has then read the token of the session has read
    the token that the session has now. -/
private theorem Reaches.read_current (h : Reaches config nodes history pool)
    (hsplit : history = front ++ e :: back) (gives : GivesToken sessionId e)
    (last : ∀ other ∈ back, ¬GivesToken sessionId other) {actorEmail : String}
    {token : Option TerminalReconnectToken}
    (read : ReadToken (own e.task history) actorEmail sessionId token)
    {session : TrackedTerminalSession}
    (found : pool.shared.sessions.get sessionId = some session) :
    token = some session.reconnectToken := by
  obtain ⟨earlier, later, pty, output, hown, attached⟩ := read
  obtain ⟨early, reads, late, hreads, htask, heq, howns⟩ := exists_split_of_own hown
  have hne : e ≠ reads := by
    rintro rfl
    rcases gives with ⟨request, given, hinsert, -⟩ | ⟨given, actor, target, hreattach⟩
    · cases heq.symm.trans hinsert
    · cases heq.symm.trans hreattach
  -- the task reads the token after it was given the session, so nothing comes in between
  obtain ⟨between, -, rfl⟩ : ∃ between, early = front ++ e :: between ∧
      back = between ++ reads :: late := by
    rcases before_or_after hsplit hreads hne with hafter | ⟨between, rfl, -⟩
    · exact hafter
    · have fresh := (h.given_fresh hsplit gives).1
      refine absurd (fun x hx => fresh x ?_) (howns ▸ attached).not_fresh
      exact (own_isPrefix e.task early (reads :: between)).subset hx
  refine h.token_kept hreads (fun other hother => last other ?_) (fun held hheld => ?_) found
  · exact List.mem_append_right _ (List.mem_cons_of_mem reads hother)
  · have step := (h.next hreads).step
    obtain ⟨i, origin, action, reply, before, after, spawned⟩ := reads
    cases heq
    obtain ⟨hsame, hread⟩ := AppStep.tokenRead step
    change after = before at hsame
    change after.sessions.get sessionId = some held at hheld
    rw [hsame] at hheld
    rw [hread, TerminalSessionRegistry.reconnectToken, hheld, Option.map_some]

/-! What the tasks receive for their browsers. -/

/-- An event and a recorded output make no message that would give a token away. -/
private theorem passedOn_eventMessage {state : AppState} (ledger : Ledger front state)
    {message : TerminalServerMessage} {event : AgentTerminalEvent}
    (h : eventMessage (own task front) message event) : passedOn message = true := by
  cases event with
  | terminalStarted named size =>
    obtain ⟨node, status, rfl⟩ := h
    rfl
  | terminalOutput named data =>
    obtain ⟨recorded, hrecord, rfl⟩ := h
    cases recorded with
    | none => rfl
    | some message =>
      obtain ⟨sequence, rfl⟩ := ledger.recorded hrecord
      rfl
  | terminalExited named exit =>
    obtain rfl := h
    rfl
  | terminalError named error =>
    obtain rfl := h
    rfl

/-- Nothing that is broadcast has a token, and Started is broadcast for remote sessions alone. -/
private theorem Next.broadcasts (next : Next front e) {output : Nat}
    {message : TerminalServerMessage} (haction : e.action = .terminal (.broadcast output message)) :
    passedOn message = true ∧ (message.isStarted = true →
      ∃ named channel, Opened (own e.task front) named (.remote channel) output) := by
  have act := next.act
  have ledger := next.ledger
  rw [haction] at act
  generalize e.origin = origin at act
  cases origin with
  | terminalSocket actorEmail =>
    obtain ⟨named, channel, event, opened, -, hmessage⟩ := act
    exact ⟨passedOn_eventMessage ledger hmessage, fun _ => ⟨named, channel, opened⟩⟩
  | ptyReader pty named given =>
    obtain ⟨-, hpending | ⟨-, ⟨exit, -, rfl⟩ | ⟨error, rfl⟩⟩⟩ := act
    · obtain ⟨recorded, data, hd⟩ := recorded_of_pending hpending
      obtain ⟨sequence, rfl⟩ := ledger.recorded hd
      exact ⟨rfl, fun hstarted => nomatch hstarted⟩
    · exact ⟨rfl, fun hstarted => nomatch hstarted⟩
    · exact ⟨rfl, fun hstarted => nomatch hstarted⟩
  | cleanupWorker =>
    obtain ⟨_, _, _, -, _, -, -, error, rfl⟩ := act
    exact ⟨rfl, fun hstarted => nomatch hstarted⟩
  | revokeNode actorEmail nodeId =>
    obtain ⟨_, -, _, -, -, error, rfl⟩ := act
    exact ⟨rfl, fun hstarted => nomatch hstarted⟩
  | _ => cases act

/-- Whatever is in the log of a channel was broadcast on it. -/
private theorem Reaches.broadcast_of_log (h : Reaches config nodes history pool)
    {opener output : Nat} {request : TerminalSessionInsert}
    (opened : OpenedBy history opener request output) {message : TerminalServerMessage}
    (hmem : message ∈ pool.shared.sessions.outputLog output) :
    ∃ front e back, history = front ++ e :: back ∧
      e.action = .terminal (.broadcast output message) := by
  have sent : ∃ e ∈ history, e.action = .terminal (.broadcast output message) := by
    refine h.keeps (I := fun history state => OpenedBy history opener request output →
      message ∈ state.sessions.outputLog output →
      ∃ e ∈ history, e.action = .terminal (.broadcast output message)) ?_ ?_ opened hmem
    · exact fun hnone => absurd hnone List.not_mem_nil
    · intro front e next ih hopened hlog
      rcases did_snoc.mp hopened with hold | ⟨-, heq⟩
      · rw [next.step.outputLog (next.ledger.channel hold)] at hlog
        rcases List.mem_append.mp hlog with hearlier | hsent
        · obtain ⟨other, hother, haction⟩ := ih hold hearlier
          exact ⟨other, List.mem_append_left _ hother, haction⟩
        · exact ⟨e, List.mem_append_right _ (List.mem_singleton_self e), mem_sentTo hsent⟩
      · -- the channel has just been made, so nothing is in its log
        have step := next.step
        obtain ⟨i, origin, action, reply, before, after, spawned⟩ := e
        cases heq
        obtain ⟨hnew, now, token, hsessions⟩ := AppStep.opened step
        change message ∈ after.sessions.outputLog output at hlog
        rw [hsessions, TerminalSessionRegistry.outputLog, hnew] at hlog
        simp [Broadcast.opened] at hlog
  obtain ⟨e, he, haction⟩ := sent
  obtain ⟨front, back, hsplit⟩ := List.append_of_mem he
  exact ⟨front, e, back, hsplit, haction⟩

private theorem mem_pushReplay {session : TrackedTerminalSession}
    {message pushed : TerminalServerMessage}
    (h : message ∈ (session.pushReplay pushed).replay.items) :
    message ∈ session.replay.items ∨ message = pushed := by
  rw [TrackedTerminalSession.pushReplay, Window.push_items] at h
  exact (List.mem_append.mp (List.mem_of_mem_drop h)).imp_right List.mem_singleton.mp

/-- Nothing that is kept for replay has a token. -/
private theorem Reaches.passedOn_replay (h : Reaches config nodes history pool)
    {session : TrackedTerminalSession}
    (found : pool.shared.sessions.get sessionId = some session) {message : TerminalServerMessage}
    (hmem : message ∈ session.replay.items) : passedOn message = true := by
  refine h.keeps (I := fun _ state => ∀ session, state.sessions.get sessionId = some session →
    ∀ message ∈ session.replay.items, passedOn message = true) ?_ ?_ session found message hmem
  · exact fun _ hnone => nomatch hnone
  · intro front e next ih session found message hmem
    have act := next.act
    have ledger := next.ledger
    have step := next.step
    obtain ⟨i, origin, action, reply, before, after, spawned⟩ := e
    change AppStep i before action reply after at step
    cases step with
    | write hwrite =>
      cases hwrite.session found with
      | same session before => exact ih session before message hmem
      | insert request now token named => exact absurd hmem List.not_mem_nil
      | setState state session before =>
        refine ih session before message ?_
        rw [TrackedTerminalSession.moveTo] at hmem
        split at hmem <;> exact hmem
      | reattach given actorEmail now token session reply before =>
        exact ih session before message hmem
      | touch now session before => exact ih session before message hmem
      | setSize size session before => exact ih session before message hmem
      | recordOutput data session reply before =>
        rcases mem_pushReplay hmem with hold | rfl
        · exact ih session before message hold
        · rfl
      | rememberServerMessage pushed session before named =>
        rcases mem_pushReplay hmem with hold | rfl
        · exact ih session before message hold
        · obtain ⟨actorEmail, -, -, channel, event, -, hmessage⟩ := browser_only act rfl
          exact passedOn_eventMessage ledger hmessage
    | _ => exact ih session found message hmem

/-- What a handler receives for its browser has no token, and one that opened a local session
    receives no Started. -/
private theorem Reaches.passedOn_stream (h : Reaches config nodes history pool)
    (hsplit : history = front ++ e :: back) {actorEmail : String}
    (browser : e.origin = .terminalSocket actorEmail) {message : TerminalServerMessage}
    (hmem : message ∈ streamOf e.interaction) :
    passedOn message = true ∧ ∀ request output pty, OpenedBy history e.task request output →
      request.backend = .local pty → message.isStarted = false := by
  have next := h.next hsplit
  have act := next.act
  have attachedTo := fun (sessionId : TerminalSessionId) backend output
    (attached : Attached (own e.task front) actorEmail sessionId backend output) =>
      h.attached hsplit browser attached
  have hown : e.interaction ∈ own e.task history :=
    Service.mem_own.mpr ⟨e, hsplit ▸ List.mem_append_right _ (List.mem_cons_self ..), rfl, rfl⟩
  have hinitial : ∀ other, own other front <+: own other history :=
    fun other => hsplit ▸ own_isPrefix other front (e :: back)
  obtain ⟨before, hfront, hbefore⟩ := h.front hsplit
  have ledger := h.ledger
  have step := next.step
  rw [browser] at act
  obtain ⟨i, origin, action, reply, state, after, spawned⟩ := e
  change message ∈ streamOf ⟨action, reply⟩ at hmem
  change AppStep i state action reply after at step
  unfold streamOf at hmem
  split at hmem
  · -- the replay that comes with a reattach
    rename_i sessionId given actor target heq
    cases heq
    obtain ⟨session, found, hreplay, -⟩ := AppStep.reattach step
    have found : before.shared.sessions.get sessionId = some session := hbefore ▸ found
    refine ⟨hfront.passedOn_replay found (hreplay ▸ hmem), fun request output pty opened _ => ?_⟩
    exact absurd hown (ledger.oneWay opened)
  · -- a message off the channel of the session
    rename_i output position idle sent next heq
    cases heq
    obtain rfl := List.mem_singleton.mp hmem
    obtain ⟨-, sessionId, backend, attached⟩ := act
    obtain ⟨opener, request, opened, -, hbackend, -⟩ := attachedTo _ _ _ attached
    have hlog : message ∈ before.shared.sessions.outputLog output := by
      rw [hbefore]
      exact List.mem_of_getElem? (AppStep.received step).1
    obtain ⟨early, sends, late, hsends, haction⟩ := hfront.broadcast_of_log opened hlog
    obtain ⟨hpassed, hremote⟩ := (hfront.next hsends).broadcasts haction
    refine ⟨hpassed, fun later given pty hlater hlocal => ?_⟩
    rw [Bool.eq_false_iff]
    intro hstarted
    obtain ⟨named, channel, -, remote, hinsert, -, hchannel⟩ := hremote hstarted
    have hinsert : OpenedBy front sends.task remote output :=
      Did.later (hsends ▸ own_isPrefix sends.task early (sends :: late)) hinsert
    obtain ⟨-, rfl⟩ := hfront.ledger.unique_output opened hinsert
    rcases attached with ⟨-, mine, hmine, -, hmybackend⟩ | ⟨given, target, -, hgiven, -, -⟩
    · have heq := ledger.insertedOnce (hmine.later (hinitial i)) hlater
      cases heq
      rw [hlocal, ← hbackend, hchannel] at hmybackend
      cases hmybackend
    · exact ledger.oneWay hlater (hgiven.later (hinitial i))
  · -- an output that the handler records itself
    rename_i sessionId data recorded heq
    cases heq
    obtain rfl := List.mem_singleton.mp hmem
    cases recorded with
    | none => exact ⟨rfl, fun _ _ _ _ _ => rfl⟩
    | some message =>
      obtain ⟨sequence, rfl⟩ := ledger.recorded hown
      exact ⟨rfl, fun _ _ _ _ _ => rfl⟩
  · cases hmem

/-! The messages that tell the browsers of their sessions. -/

section Greetings

variable {session : TrackedTerminalSession} {greeting : ControlEvent} {early late : History}
  {nodeId : Option NodeId} {size : ProtocolTerminalSize} {token : Option TerminalReconnectToken}
  {status : Option TerminalTransportStatus} {actorEmail : String}

/-- What a task received for its browser and has passed on. -/
theorem Reaches.stream_of_source (h : Reaches config nodes history pool)
    (hsplit : history = early ++ greeting :: late)
    (browser : greeting.origin = .terminalSocket actorEmail) {message : TerminalServerMessage}
    (source : ∃ x ∈ own greeting.task early, message ∈ streamOf x) :
    passedOn message = true ∧ ∀ request output pty, OpenedBy history greeting.task request output →
      request.backend = .local pty → message.isStarted = false := by
  obtain ⟨x, hx, hstream⟩ := source
  obtain ⟨e, he, htask, rfl⟩ := Service.mem_own.mp hx
  obtain ⟨front, back, hfront⟩ := List.append_of_mem he
  have hbefore : history = front ++ e :: (back ++ greeting :: late) := by
    rw [hsplit, hfront, List.append_assoc, List.cons_append]
  have horigin : e.origin = .terminalSocket actorEmail := by
    rw [← browser]
    refine h.origin ?_ ?_ htask
    · exact hsplit ▸ List.mem_append_left _ he
    · exact hsplit ▸ List.mem_append_right _ (List.mem_cons_self ..)
  rw [← htask]
  exact h.passedOn_stream hbefore horigin hstream

/-- The Started message of a local session has the token that the session has until it is given
    another one. -/
private theorem Reaches.started_token (h : Reaches config nodes history pool)
    (hsplit : history = front ++ e :: back) (last : ∀ other ∈ back, ¬GivesToken sessionId other)
    (found : pool.shared.sessions.get sessionId = some session)
    {request : TerminalSessionInsert} {output pty : Nat}
    (opens : e.interaction = ⟨.terminal (.insert request), .ok output⟩)
    (named : request.sessionId = sessionId) (backend : request.backend = .local pty)
    (hgreeting : history = early ++ greeting :: late) (same : greeting.task = e.task)
    (browser : greeting.origin = .terminalSocket actorEmail)
    (sends : greeting.action =
      .host (.send (.started sessionId nodeId size token status))) :
    token = some session.reconnectToken := by
  have hopened : OpenedBy history e.task request output :=
    Service.mem_own.mpr ⟨e, hsplit ▸ List.mem_append_right _ (List.mem_cons_self ..), rfl, opens⟩
  have hinitial : own greeting.task early <+: own e.task history := by
    rw [hgreeting, same]
    exact own_isPrefix e.task early (greeting :: late)
  rcases h.greets hgreeting browser _ sessionId token sends rfl with
    read | ⟨given, target, accepted, -⟩ | ⟨-, channel, event, took⟩ | stream
  · exact h.read_current hsplit (Or.inl ⟨request, output, opens, named⟩) last
      (read.later hinitial) found
  · exact absurd (accepted.later hinitial) (h.ledger.oneWay hopened)
  · obtain ⟨other, given, -, later, hinsert, -, hremote⟩ :=
      h.opened_of_took (Did.later hinitial took)
    have heq := h.ledger.insertedOnce hopened hinsert
    cases heq
    rw [backend] at hremote
    cases hremote
  · cases (h.stream_of_source hgreeting browser stream).2 request output pty (same ▸ hopened)
      backend

/-- The Reattached message has the token that came with the last reattach. -/
private theorem Reaches.reattached_token (h : Reaches config nodes history pool)
    (hsplit : history = front ++ e :: back) (last : ∀ other ∈ back, ¬GivesToken sessionId other)
    (found : pool.shared.sessions.get sessionId = some session)
    {given : TerminalReconnectToken} {actor : String} {target : TerminalReattachTarget}
    (reattaches : e.interaction =
      ⟨.terminal (.reattach sessionId given actor), some target⟩)
    (hgreeting : history = early ++ greeting :: late) (same : greeting.task = e.task)
    (browser : greeting.origin = .terminalSocket actorEmail)
    (sends : greeting.action =
      .host (.send (.reattached sessionId nodeId size token status))) :
    token = some session.reconnectToken := by
  have haccepted : Did (own e.task history) (.terminal (.reattach sessionId given actor))
      (some target) :=
    Service.mem_own.mpr
      ⟨e, hsplit ▸ List.mem_append_right _ (List.mem_cons_self ..), rfl, reattaches⟩
  have hinitial : own greeting.task early <+: own e.task history := by
    rw [hgreeting, same]
    exact own_isPrefix e.task early (greeting :: late)
  rcases h.greets hgreeting browser _ sessionId token sends rfl with
    read | ⟨other, later, accepted, rfl⟩ | ⟨-, channel, event, took⟩ | stream
  · exact h.read_current hsplit (Or.inr ⟨given, actor, target, reattaches⟩) last
      (read.later hinitial) found
  · cases h.reattach_once haccepted (accepted.later hinitial)
    refine h.token_kept hsplit last (fun held hheld => ?_) found
    have step := (h.next hsplit).step
    obtain ⟨i, origin, action, reply, before, after, spawned⟩ := e
    cases reattaches
    exact congrArg some (AppStep.reattachedToken step hheld).symm
  · obtain ⟨other, output, -, request, hinsert, -, -⟩ :=
      h.opened_of_took (Did.later hinitial took)
    exact absurd haccepted (h.ledger.oneWay hinsert)
  · cases (h.stream_of_source hgreeting browser stream).1

/-- Nobody reattaches to a session before it is opened. -/
private theorem Reaches.not_reattached_before (h : Reaches config nodes history pool)
    (hsplit : history = front ++ e :: back) {request : TerminalSessionInsert} {output : Nat}
    (opens : e.interaction = ⟨.terminal (.insert request), .ok output⟩) :
    ∀ other ∈ front, ¬Reattaches request.sessionId other := by
  rintro other hother ⟨given, actor, target, heq⟩
  have next := h.next hsplit
  have haccepted : Did (own other.task front)
      (.terminal (.reattach request.sessionId given actor)) (some target) :=
    Service.mem_own.mpr ⟨other, hother, rfl, heq⟩
  obtain ⟨opener, later, channel, hopened, hid, -⟩ := next.ledger.reattached haccepted
  exact next.insert_fresh opens hopened hid

/-- Only a local session and one that was reattached to has its token sent to the owner. -/
private theorem Reaches.held_of_delivered (h : Reaches config nodes history pool)
    (found : pool.shared.sessions.get sessionId = some session)
    (delivered : TokenDelivered history sessionId session) :
    (∃ pty, session.backend = .local pty) ∨ ∃ e ∈ history, Reattaches sessionId e := by
  obtain ⟨sends, hmem, message, browser, heq, hgreeting⟩ := delivered
  obtain ⟨early, late, hsplit⟩ := List.append_of_mem hmem
  have haction : sends.action = .host (.send message) := congrArg Interaction.action heq
  rcases h.greets hsplit browser message sessionId _ haction hgreeting with
    read | ⟨given, target, accepted, -⟩ | ⟨hnone, -⟩ | stream
  · obtain ⟨first, rest, pty, output, hown, attached⟩ := read
    have hlater := attached.later (hown ▸ List.prefix_append ..)
    obtain ⟨opener, request, opened, named, backend, -⟩ := h.attached hsplit browser hlater
    have hidentity := h.opened_tracked found
      (opened.later (hsplit ▸ own_isPrefix opener early (sends :: late))) named
    exact Or.inl ⟨pty, (congrArg Prod.fst hidentity).trans backend⟩
  · obtain ⟨e, he, -, heq⟩ := Service.mem_own.mp accepted
    exact Or.inr ⟨e, hsplit ▸ List.mem_append_left _ he, given, session.actorEmail, target, heq⟩
  · cases hnone
  · have passed := (h.stream_of_source hsplit browser stream).1
    cases message with
    | started named node size token status =>
      cases hgreeting
      cases passed
    | reattached named node size token status => cases passed
    | _ => cases hgreeting

/-- Whoever is given a session is a browser of its owner. -/
private theorem Reaches.owner_of_gives (h : Reaches config nodes history pool)
    (found : pool.shared.sessions.get sessionId = some session)
    (hsplit : history = front ++ e :: back) (gives : GivesToken sessionId e)
    (hmem : greeting ∈ history) (same : greeting.task = e.task) :
    greeting.origin = .terminalSocket session.actorEmail := by
  obtain ⟨-, request, output, opener, actorEmail, opened, named, hactor, browser⟩ :=
    h.given_fresh hsplit gives
  have hidentity := h.opened_tracked found opened named
  have howner : session.actorEmail = request.actorEmail :=
    congrArg (fun identity => identity.2.2.1) hidentity
  rw [howner, hactor, ← browser]
  exact h.origin hmem (hsplit ▸ List.mem_append_right _ (List.mem_cons_self ..)) same

/-- A session that was opened last and that anybody has reattached to is none. -/
private theorem Reaches.not_reattached (h : Reaches config nodes history pool)
    (hsplit : history = front ++ e :: back) {request : TerminalSessionInsert} {output : Nat}
    (opens : e.interaction = ⟨.terminal (.insert request), .ok output⟩)
    (last : ∀ other ∈ back, ¬GivesToken request.sessionId other) :
    ∀ other ∈ history, ¬Reattaches request.sessionId other := by
  intro other hother reattaches
  rw [hsplit] at hother
  rcases List.mem_append.mp hother with hbefore | hafter
  · exact h.not_reattached_before hsplit opens other hbefore reattaches
  · rcases List.mem_cons.mp hafter with rfl | hlater
    · obtain ⟨given, actor, target, hreattach⟩ := reattaches
      cases opens.symm.trans hreattach
    · exact last other hlater (Or.inr reattaches)

/-- Once the browser that was given a session last has been sent the message that it waits for,
    the owner has been sent the token that the session has, whatever state it is in, exactly when
    the session is a local one or somebody has reattached to it: the Started message of a remote
    session has no token. -/
theorem token_delivered_iff (h : Reaches config nodes history pool)
    (found : pool.shared.sessions.get sessionId = some session)
    (greeted : Greeted history sessionId) :
    TokenDelivered history sessionId session ↔
      (∃ pty, session.backend = .local pty) ∨ ∃ e ∈ history, Reattaches sessionId e := by
  refine ⟨h.held_of_delivered found, fun held => ?_⟩
  obtain ⟨front, e, back, message, hsplit, welcomes, sent, last⟩ := greeted
  obtain ⟨early, sends, late, hsends, same, heq⟩ := exists_split_of_did sent
  have haction : sends.action = .host (.send message) := congrArg Interaction.action heq
  have hmem : sends ∈ history := hsends ▸ List.mem_append_right _ (List.mem_cons_self ..)
  have he : e ∈ history := hsplit ▸ List.mem_append_right _ (List.mem_cons_self ..)
  generalize hinteraction : e.interaction = x at welcomes
  cases welcomes with
  | started request output nodeId size token status named =>
    subst named
    have browser := h.owner_of_gives found hsplit
      (Or.inl ⟨request, output, hinteraction, rfl⟩) hmem same
    obtain ⟨pty, backend⟩ : ∃ pty, session.backend = .local pty := by
      refine held.resolve_right (fun ⟨other, hother, reattaches⟩ => ?_)
      exact h.not_reattached hsplit hinteraction last other hother reattaches
    have hidentity := h.opened_tracked found
      (Service.mem_own.mpr ⟨e, he, rfl, hinteraction⟩) rfl
    have htoken := h.started_token hsplit last found hinteraction rfl
      ((congrArg Prod.fst hidentity).symm.trans backend) hsends same browser haction
    exact ⟨sends, hmem, _, browser, heq, by rw [htoken]; rfl⟩
  | reattached given actor target nodeId size token status =>
    have browser := h.owner_of_gives found hsplit
      (Or.inr ⟨given, actor, target, hinteraction⟩) hmem same
    have htoken := h.reattached_token hsplit last found hinteraction hsends same browser haction
    exact ⟨sends, hmem, _, browser, heq, by rw [htoken]; rfl⟩

end Greetings

end Tokens

private def openedLocally : History :=
  calls defaultTerminalSessionConfig ⟨[], [], []⟩ (localOpening 0 "alice" "t0")

private def openedRemotely : History :=
  calls defaultTerminalSessionConfig oneNode
    (agentOpening 0 false ++ remoteOpening 1 "alice" "t0" ++ agentStarts 0 1)

private theorem gives_none_of_all {later : History} {sessionId : TerminalSessionId}
    (h : later.all (fun e =>
    match e.interaction with
    | ⟨.terminal (.insert _), .ok _⟩ => false
    | ⟨.terminal (.reattach ..), some _⟩ => false
    | _ => true) = true) : ∀ other ∈ later, ¬GivesToken sessionId other := by
  intro other hother gives
  have hquiet := List.all_eq_true.mp h other hother
  rcases gives with ⟨request, output, heq, -⟩ | ⟨given, actor, target, heq⟩
  · rw [heq] at hquiet
    cases hquiet
  · rw [heq] at hquiet
    cases hquiet

/-- The token of a local session reaches its owner. -/
theorem token_delivered_locally : ∃ pool session,
    Reaches defaultTerminalSessionConfig ⟨[], [], []⟩ openedLocally pool ∧
    pool.shared.sessions.get (sessionIdOf 1) = some session ∧ session.state = .active ∧
    Greeted openedLocally (sessionIdOf 1) ∧
    TokenDelivered openedLocally (sessionIdOf 1) session := by
  obtain ⟨pool, h⟩ : ∃ pool, Reaches defaultTerminalSessionConfig ⟨[], [], []⟩ openedLocally pool :=
    reaches_calls rfl
  obtain ⟨session, found, hstate, hbackend⟩ : ∃ session,
      pool.shared.sessions.get (sessionIdOf 1) = some session ∧ session.state = .active ∧
      session.backend = .local 0 := by
    rw [h.shared_eq]
    exact ⟨_, rfl, rfl, rfl⟩
  obtain ⟨e, he, htask, request, hopens, named⟩ : ∃ e, openedLocally[3]? = some e ∧ e.task = 0 ∧
      ∃ request, e.interaction = ⟨.terminal (.insert request), .ok 0⟩ ∧
        request.sessionId = sessionIdOf 1 := ⟨_, rfl, rfl, _, rfl, rfl⟩
  have hsent : Did (own e.task openedLocally) (.host (.send
      (.started (sessionIdOf 1) none ⟨80, 24⟩ (some ⟨"t0"⟩) none))) true := by
    rw [htask]
    exact List.mem_of_getElem? (i := 5) rfl
  have greeted : Greeted openedLocally (sessionIdOf 1) :=
    ⟨_, e, _, _, split_at he, hopens ▸ .started request 0 _ _ _ _ named, hsent,
      gives_none_of_all rfl⟩
  exact ⟨pool, session, h, found, hstate, greeted,
    (token_delivered_iff h found greeted).mpr (Or.inl ⟨0, hbackend⟩)⟩

private def sendsPassedOn : Interaction Action Reply → Bool
  | ⟨.host (.send message), _⟩ => passedOn message
  | _ => true

/-- Alice's terminal on the node runs, and no message has told her the token of its session. -/
theorem remote_token_withheld : ∃ pool session,
    Reaches defaultTerminalSessionConfig oneNode openedRemotely pool ∧
    pool.shared.sessions.get (sessionIdOf 1) = some session ∧ session.state = .active ∧
    Greeted openedRemotely (sessionIdOf 1) ∧
    ¬TokenDelivered openedRemotely (sessionIdOf 1) session := by
  obtain ⟨pool, h⟩ : ∃ pool, Reaches defaultTerminalSessionConfig oneNode openedRemotely pool :=
    reaches_calls rfl
  obtain ⟨session, found, hstate⟩ : ∃ session,
      pool.shared.sessions.get (sessionIdOf 1) = some session ∧ session.state = .active := by
    rw [h.shared_eq]
    exact ⟨_, rfl, rfl⟩
  obtain ⟨e, he, htask, request, hopens, named⟩ : ∃ e, openedRemotely[17]? = some e ∧ e.task = 1 ∧
      ∃ request, e.interaction = ⟨.terminal (.insert request), .ok 0⟩ ∧
        request.sessionId = sessionIdOf 1 := ⟨_, rfl, rfl, _, rfl, rfl⟩
  have hsent : Did (own e.task openedRemotely) (.host (.send (.started (sessionIdOf 1) (some ⟨"n"⟩)
      ⟨80, 24⟩ none (some ⟨.webSocketTlsTcp443, false, none⟩)))) true := by
    rw [htask]
    exact List.mem_of_getElem? (i := 18) rfl
  have greeted : Greeted openedRemotely (sessionIdOf 1) :=
    ⟨_, e, _, _, split_at he, hopens ▸ .started request 0 _ _ _ _ named, hsent,
      gives_none_of_all rfl⟩
  refine ⟨pool, session, h, found, hstate, greeted, ?_⟩
  rintro ⟨sends, hmem, message, -, heq, hgreeting⟩
  have hsilent : openedRemotely.all (fun e => sendsPassedOn e.interaction) = true := rfl
  have passed := List.all_eq_true.mp hsilent sends hmem
  rw [heq] at passed
  change passedOn message = true at passed
  cases message with
  | started named node size token status =>
    cases hgreeting
    cases passed
  | reattached named node size token status => cases passed
  | _ => cases hgreeting

end Sunbolt.Control
