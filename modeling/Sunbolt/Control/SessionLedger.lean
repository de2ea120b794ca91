/- Module: Sunbolt/Control/SessionLedger
   scope: sunbolt-control
   digest: In every run each session, PTY and channel has one origin, and every task knows it. -/

import Sunbolt.Control.ServiceOrder
import Sunbolt.Control.Steps

set_option autoImplicit false
set_option relaxedAutoImplicit false

namespace Sunbolt.Control

open Sunbolt.Library
open Sunbolt.Protocol (TerminalSessionId TerminalReconnectToken TerminalServerMessage
  AgentTerminalCommand AgentTerminalEvent AgentTransportId)

abbrev History := List ControlEvent

/-- The calls of one task. -/
abbrev own (task : Nat) (history : History) : Past := Service.own task history

theorem did_snoc {history : History} {e : ControlEvent} {task : Nat} {action : Action}
    {reply : Reply action} :
    Did (own task (history ++ [e])) action reply ↔
      Did (own task history) action reply ∨
        task = e.task ∧ e.interaction = ⟨action, reply⟩ := by
  by_cases h : e.task = task
  · subst h
    simp only [own, Service.own_append_same, Did, List.mem_append, List.mem_singleton, true_and]
    exact or_congr_right eq_comm
  · simp only [own, Service.own_append_other history h]
    exact ⟨Or.inl, fun h' => h'.resolve_right (fun h' => h h'.1.symm)⟩

theorem own_isPrefix (task : Nat) (front back : History) :
    own task front <+: own task (front ++ back) := by
  rw [own, own, Service.own, Service.own, List.filter_append, List.map_append]
  exact List.prefix_append ..

theorem sessionIdOf_injective {m n : Nat} (h : sessionIdOf m = sessionIdOf n) : m = n := by
  have hval : "local-" ++ toString m = "local-" ++ toString n :=
    congrArg TerminalSessionId.val h
  have hdigits : Nat.toDigits 10 m = Nat.toDigits 10 n := by
    have hlist := congrArg String.toList hval
    simpa [String.toList_append] using hlist
  have := congrArg (fun digits => Nat.ofDigitChars 10 digits 0) hdigits
  simpa [Nat.ofDigitChars_toDigits] using this

/-- What never changes about a tracked session. -/
def TrackedTerminalSession.identity (session : TrackedTerminalSession) :
    TerminalBackend × Nat × String × Option String :=
  (session.backend, session.output, session.actorEmail, session.nodeId)

def TerminalSessionInsert.identity (request : TerminalSessionInsert) (output : Nat) :
    TerminalBackend × Nat × String × Option String :=
  (request.backend, output, request.actorEmail, request.nodeId)

private theorem identity_moveTo (session : TrackedTerminalSession)
    (state : Sunbolt.Terminal.TerminalSessionState) :
    (session.moveTo state).identity = session.identity := by
  rw [TrackedTerminalSession.moveTo]
  split <;> rfl

/-- A session found after a call was there before, or the call inserted it. -/
theorem TerminalWrite.identity {registry next : TerminalSessionRegistry}
    {action : TerminalAction} {reply : TerminalReply action}
    (h : TerminalWrite registry action reply next) {sessionId : TerminalSessionId}
    {session : TrackedTerminalSession} (found : next.get sessionId = some session) :
    (∃ before, registry.get sessionId = some before ∧ session.identity = before.identity) ∨
    ∃ request output, (⟨.terminal action, reply⟩ : Interaction Action Reply) =
        ⟨.terminal (.insert request), .ok output⟩ ∧ request.sessionId = sessionId ∧
        session.identity = request.identity output := by
  cases h.session found with
  | same session before => exact Or.inl ⟨session, before, rfl⟩
  | insert request now token named => exact Or.inr ⟨request, _, rfl, named, rfl⟩
  | setState state session before =>
    exact Or.inl ⟨session, before, identity_moveTo session state⟩
  | reattach reconnectToken actorEmail now token session reply before =>
    exact Or.inl ⟨session, before, rfl⟩
  | touch now session before => exact Or.inl ⟨session, before, rfl⟩
  | setSize size session before => exact Or.inl ⟨session, before, rfl⟩
  | recordOutput data session reply before => exact Or.inl ⟨session, before, rfl⟩
  | rememberServerMessage message session before named =>
    exact Or.inl ⟨session, before, rfl⟩

/-- PTYs and channels are only ever added. -/
theorem TerminalWrite.sizes {registry next : TerminalSessionRegistry}
    {action : TerminalAction} {reply : TerminalReply action}
    (h : TerminalWrite registry action reply next) :
    registry.ptys.length ≤ next.ptys.length ∧ registry.outputs.length ≤ next.outputs.length := by
  have same : ∀ {next : TerminalSessionRegistry}, next.sizes = registry.sizes →
      registry.ptys.length ≤ next.ptys.length ∧
        registry.outputs.length ≤ next.outputs.length := by
    intro next heq
    obtain ⟨hptys, houtputs⟩ := Prod.mk.inj heq
    exact ⟨hptys.ge, houtputs.ge⟩
  cases h with
  | insert request now token =>
    rcases registry.insertBackend_cases request now token with ⟨error, heq⟩ | heq
    · rw [heq]
      exact same rfl
    · rw [heq]
      simp
  | reattach named reconnectToken actorEmail now token =>
    rcases registry.reattach_cases named reconnectToken actorEmail now token with
      heq | ⟨tracked, -, -, -, -, heq⟩
    · rw [heq]
      exact same rfl
    · rw [heq]
      exact same (TerminalSessionRegistry.sizes_modify ..)
  | rememberServerMessage message =>
    refine same ?_
    rw [TerminalSessionRegistry.rememberServerMessage]
    split <;> simp
  | terminate named => exact same (by simp)
  | remove named => exact same (by simp)
  | drainExpired maxDuration idleTimeout now =>
    exact same (by rw [TerminalSessionRegistry.drainExpired]; simp)
  | closeSessionsForNode nodeId =>
    exact same (by rw [TerminalSessionRegistry.closeSessionsForNode]; simp)
  | close pty => exact same (by simp)
  | dropSender output => exact same (by simp)
  | spawnDefaultShell size => simp
  | tryWaitExit pty session status found => simp
  | waitExit pty session after status result found waited => simp
  | broadcast output message => simp
  | _ => exact same rfl

/-- Some task opened a session with this request, over this output channel. -/
def OpenedBy (history : History) (task : Nat) (request : TerminalSessionInsert) (output : Nat) :
    Prop :=
  Did (own task history) (.terminal (.insert request)) (.ok output)

/-- Where everything in the registry comes from. -/
structure Ledger (history : History) (state : AppState) : Prop where
  issued : ∀ {task sessionId}, Did (own task history) (.host .nextSessionId) sessionId →
    ∃ n < state.nextSessionId, sessionId = sessionIdOf n
  issuedOnce : ∀ {task other sessionId},
    Did (own task history) (.host .nextSessionId) sessionId →
    Did (own other history) (.host .nextSessionId) sessionId → task = other
  inserted : ∀ {task request result},
    Did (own task history) (.terminal (.insert request)) result →
    Did (own task history) (.host .nextSessionId) request.sessionId ∧
      BackendSource (own task history) request
  insertedOnce : ∀ {task request result later other},
    Did (own task history) (.terminal (.insert request)) result →
    Did (own task history) (.terminal (.insert later)) other →
    (⟨.terminal (.insert request), result⟩ : Interaction Action Reply) =
      ⟨.terminal (.insert later), other⟩
  oneWay : ∀ {task request result sessionId token actorEmail target},
    Did (own task history) (.terminal (.insert request)) result →
    ¬Did (own task history) (.terminal (.reattach sessionId token actorEmail)) target
  channel : ∀ {task request output}, OpenedBy history task request output →
    output < state.sessions.outputs.length
  channelOnce : ∀ {task other request later output}, OpenedBy history task request output →
    OpenedBy history other later output → task = other
  pty : ∀ {task size pty},
    Did (own task history) (.terminal (.spawnDefaultShell size)) (.ok pty) →
    pty < state.sessions.ptys.length
  ptyOnce : ∀ {task other size later pty},
    Did (own task history) (.terminal (.spawnDefaultShell size)) (.ok pty) →
    Did (own other history) (.terminal (.spawnDefaultShell later)) (.ok pty) → task = other
  tracked : ∀ {sessionId session}, state.sessions.get sessionId = some session →
    ∃ task request output, OpenedBy history task request output ∧
      request.sessionId = sessionId ∧ session.identity = request.identity output
  reattached : ∀ {task sessionId token actorEmail target},
    Did (own task history) (.terminal (.reattach sessionId token actorEmail)) (some target) →
    ∃ opener request output, OpenedBy history opener request output ∧
      request.sessionId = sessionId ∧ request.actorEmail = actorEmail ∧
      (target.backend, target.output, target.nodeId) = (request.backend, output, request.nodeId)
  owner : ∀ {task sessionId actorEmail},
    Did (own task history) (.terminal (.ownerMatches sessionId actorEmail)) true →
    ∃ opener request output, OpenedBy history opener request output ∧
      request.sessionId = sessionId ∧ request.actorEmail = actorEmail
  recorded : ∀ {task sessionId data message},
    Did (own task history) (.terminal (.recordOutput sessionId data)) (some message) →
    ∃ sequence, message = .output sessionId sequence data
  reader : ∀ {task pty sessionId output reply},
    Did (own task history) (.host (.spawnReader pty sessionId output)) reply →
    Opened (own task history) sessionId (.local pty) output

/-- The calls on the registry that only the handler of a browser makes. -/
def isBrowserOnly : TerminalAction → Bool
  | .insert _ => true
  | .setState .. => true
  | .reattach .. => true
  | .touch _ => true
  | .setSize .. => true
  | .rememberServerMessage _ => true
  | .remove _ => true
  | .spawnDefaultShell _ => true
  | .close _ => true
  | _ => false

theorem browser_only {origin : Stage} {past : Past} {action : TerminalAction}
    (h : controlAct origin past (.terminal action)) (honly : isBrowserOnly action = true) :
    ∃ actorEmail, origin = .terminalSocket actorEmail ∧
      browserAct actorEmail past (.terminal action) := by
  cases origin with
  | terminalSocket actorEmail => exact ⟨actorEmail, rfl, h⟩
  | cleanupWorker =>
    cases action with
    | drainExpired maxDuration idleTimeout => cases honly
    | broadcast output message => cases honly
    | dropSender output => cases honly
    | _ =>
      obtain ⟨_, _, _, _, h⟩ := h
      cases h
  | revokeNode actorEmail nodeId =>
    cases action with
    | closeSessionsForNode nodeId => cases honly
    | broadcast output message => cases honly
    | dropSender output => cases honly
    | _ =>
      obtain ⟨_, _, h⟩ := h
      cases h
  | _ => cases action <;> first | (cases h; done) | cases honly

/-- The other calls that only the handler of a browser makes. -/
def isBrowserHost : HostAction → Bool
  | .nextSessionId => true
  | .receive => true
  | .send _ => true
  | .spawnReader .. => true
  | _ => false

theorem browser_only_host {origin : Stage} {past : Past} {action : HostAction}
    (h : controlAct origin past (.host action)) (honly : isBrowserHost action = true) :
    ∃ actorEmail, origin = .terminalSocket actorEmail ∧
      browserAct actorEmail past (.host action) := by
  cases origin with
  | terminalSocket actorEmail => exact ⟨actorEmail, rfl, h⟩
  | cleanupWorker =>
    obtain ⟨_, _, _, _, h⟩ := h
    cases action <;> first | (cases h; done) | cases honly
  | revokeNode actorEmail nodeId =>
    cases action <;> first | (cases honly; done) | (obtain ⟨_, _, h⟩ := h; cases h)
  | _ => cases action <;> first | (cases h; done) | cases honly

section Step

variable {history : History} {task : Nat} {origin : Stage} {action : Action}
  {reply : Reply action} {state next : AppState} {spawned : List Stage}

/-- The history with one more call. -/
private abbrev more (history : History) (task : Nat) (origin : Stage) (action : Action)
    (reply : Reply action) (state next : AppState) (spawned : List Stage) : History :=
  history ++ [⟨task, origin, action, reply, state, next, spawned⟩]

private theorem own_more_isPrefix (other : Nat) :
    own other history <+: own other (more history task origin action reply state next spawned) :=
  own_isPrefix other history _

private theorem issued_step (step : AppStep task state action reply next) {other : Nat}
    {sessionId : TerminalSessionId}
    (h : Did (own other (more history task origin action reply state next spawned))
      (.host .nextSessionId) sessionId) :
    Did (own other history) (.host .nextSessionId) sessionId ∨
      other = task ∧ sessionId = sessionIdOf state.nextSessionId ∧
        next.nextSessionId = state.nextSessionId + 1 := by
  rcases did_snoc.mp h with hold | ⟨hother, heq⟩
  · exact Or.inl hold
  · cases heq
    cases step with
    | nextSessionId => exact Or.inr ⟨hother, rfl, rfl⟩
    | host quiet => exact absurd rfl quiet

private theorem nextSessionId_le (step : AppStep task state action reply next) :
    state.nextSessionId ≤ next.nextSessionId := by
  cases step <;> simp

private theorem registry_sizes (step : AppStep task state action reply next) :
    state.sessions.ptys.length ≤ next.sessions.ptys.length ∧
      state.sessions.outputs.length ≤ next.sessions.outputs.length := by
  cases step with
  | write hwrite => exact hwrite.sizes
  | _ => exact ⟨le_rfl, le_rfl⟩

theorem AppStep.outputs_le (step : AppStep task state action reply next) :
    state.sessions.outputs.length ≤ next.sessions.outputs.length := (registry_sizes step).2

/-- A session is opened by the call that inserts it, with a new channel. -/
theorem AppStep.opened {output : Nat} {request : TerminalSessionInsert}
    (step : AppStep task state (.terminal (.insert request)) (.ok output) next) :
    output = state.sessions.outputs.length ∧ ∃ now token, next.sessions =
      { state.sessions with
          sessions := AList.insert request.sessionId (request.tracked output now token)
            state.sessions.sessions
          outputs := state.sessions.outputs ++ [Broadcast.opened 2] } := by
  generalize hresult : (Except.ok output : Except SessionLimitError Nat) = result at step
  cases step with
  | write hwrite =>
    cases hwrite with
    | insert request now token =>
      rcases state.sessions.insertBackend_cases request now token with ⟨error, heq⟩ | heq
      · rw [heq] at hresult
        cases hresult
      · rw [heq] at hresult ⊢
        cases hresult
        exact ⟨rfl, now, token, rfl⟩
  | read hread => cases hread

theorem AppStep.spawnedShell {pty : Nat} {size : Sunbolt.Terminal.TerminalSize}
    (step : AppStep task state (.terminal (.spawnDefaultShell size)) (.ok pty) next) :
    pty = state.sessions.ptys.length ∧ next.sessions.ptys =
      state.sessions.ptys ++ [Sunbolt.Terminal.LocalPtySession.spawned] := by
  generalize hresult : (Except.ok pty : Except Sunbolt.Terminal.TerminalError Nat) = result
    at step
  cases step with
  | write hwrite =>
    cases hwrite with
    | spawnDefaultShell size =>
      cases hresult
      exact ⟨rfl, rfl⟩
  | read hread =>
    cases hread
    cases hresult

theorem AppStep.stateRead {sessionId : TerminalSessionId}
    {found : Option Sunbolt.Terminal.TerminalSessionState}
    (step : AppStep task state (.terminal (.state sessionId)) found next) :
    found = state.sessions.state sessionId := by
  cases step with
  | write hwrite => cases hwrite
  | read hread =>
    cases hread
    rfl

/-- An accepted reattach leaves the session in Reattaching. -/
theorem AppStep.reattaching (step : AppStep task state action reply next)
    {sessionId : TerminalSessionId} {token : TerminalReconnectToken} {actorEmail : String}
    {target : TerminalReattachTarget}
    (h : (⟨action, reply⟩ : Interaction Action Reply) =
      ⟨.terminal (.reattach sessionId token actorEmail), some target⟩) :
    next.sessions.state sessionId = some .reattaching := by
  cases h
  generalize hreply : some target = reply at step
  cases step with
  | write write =>
    cases write with
    | reattach _ _ _ now new =>
      rcases state.sessions.reattach_cases sessionId token actorEmail now new with
        heq | ⟨tracked, hget, -, -, -, heq⟩
      · rw [heq] at hreply
        cases hreply
      · change (state.sessions.reattach sessionId token actorEmail now new).1.state sessionId = _
        rw [heq, TerminalSessionRegistry.state, TerminalSessionRegistry.get_modify, if_pos rfl,
          hget]
        rfl
  | read read => cases read

private theorem openedBy_step (step : AppStep task state action reply next) {other : Nat}
    {request : TerminalSessionInsert} {output : Nat}
    (h : OpenedBy (more history task origin action reply state next spawned) other request
      output) :
    OpenedBy history other request output ∨
      other = task ∧ output = state.sessions.outputs.length ∧
        output < next.sessions.outputs.length := by
  rcases did_snoc.mp h with hold | ⟨hother, heq⟩
  · exact Or.inl hold
  · cases heq
    obtain ⟨rfl, now, token, hnext⟩ := step.opened
    exact Or.inr ⟨hother, rfl, by simp [hnext]⟩

private theorem spawned_step (step : AppStep task state action reply next) {other pty : Nat}
    {size : Sunbolt.Terminal.TerminalSize}
    (h : Did (own other (more history task origin action reply state next spawned))
      (.terminal (.spawnDefaultShell size)) (.ok pty)) :
    Did (own other history) (.terminal (.spawnDefaultShell size)) (.ok pty) ∨
      other = task ∧ pty = state.sessions.ptys.length ∧ pty < next.sessions.ptys.length := by
  rcases did_snoc.mp h with hold | ⟨hother, heq⟩
  · exact Or.inl hold
  · cases heq
    obtain ⟨rfl, hnext⟩ := step.spawnedShell
    exact Or.inr ⟨hother, rfl, by simp [hnext]⟩

private theorem tracked_step (ledger : Ledger history state)
    (step : AppStep task state action reply next) {sessionId : TerminalSessionId}
    {session : TrackedTerminalSession} (found : next.sessions.get sessionId = some session) :
    ∃ opener request output,
      OpenedBy (more history task origin action reply state next spawned) opener request output ∧
      request.sessionId = sessionId ∧ session.identity = request.identity output := by
  have before : ∀ {session : TrackedTerminalSession},
      state.sessions.get sessionId = some session → ∃ opener request output,
        OpenedBy (more history task origin action reply state next spawned) opener request
          output ∧ request.sessionId = sessionId ∧
        session.identity = request.identity output := by
    intro session found
    obtain ⟨opener, request, output, hopened, hfields⟩ := ledger.tracked found
    exact ⟨opener, request, output, hopened.later (own_more_isPrefix opener), hfields⟩
  cases step with
  | write hwrite =>
    rcases hwrite.identity found with ⟨earlier, hearlier, heq⟩ | ⟨request, output, heq, hfields⟩
    · rw [heq]
      exact before hearlier
    · exact ⟨task, request, output, did_snoc.mpr (Or.inr ⟨rfl, heq⟩), hfields⟩
  | _ => exact before found

private theorem reattached_step (ledger : Ledger history state)
    (step : AppStep task state action reply next) {other : Nat} {sessionId : TerminalSessionId}
    {token : TerminalReconnectToken} {actorEmail : String} {target : TerminalReattachTarget}
    (h : Did (own other (more history task origin action reply state next spawned))
      (.terminal (.reattach sessionId token actorEmail)) (some target)) :
    ∃ opener request output, OpenedBy history opener request output ∧
      request.sessionId = sessionId ∧ request.actorEmail = actorEmail ∧
      (target.backend, target.output, target.nodeId) =
        (request.backend, output, request.nodeId) := by
  rcases did_snoc.mp h with hold | ⟨hother, heq⟩
  · exact ledger.reattached hold
  · cases heq
    clear h
    generalize hresult : some target = result at step
    cases step with
    | write hwrite =>
      cases hwrite with
      | reattach sessionId token actorEmail now fresh =>
        rcases state.sessions.reattach_cases sessionId token actorEmail now fresh with
          heq | ⟨tracked, found, hactor, -, -, heq⟩
        · rw [heq] at hresult
          cases hresult
        · rw [heq] at hresult
          cases hresult
          obtain ⟨opener, request, output, hopened, hid, hidentity⟩ := ledger.tracked found
          simp only [TrackedTerminalSession.identity, TerminalSessionInsert.identity,
            Prod.mk.injEq] at hidentity ⊢
          obtain ⟨hbackend, houtput, hemail, hnode⟩ := hidentity
          exact ⟨opener, request, output, hopened, hid, hemail ▸ hactor, hbackend, houtput, hnode⟩
    | read hread => cases hread

private theorem owner_step (ledger : Ledger history state)
    (step : AppStep task state action reply next) {other : Nat} {sessionId : TerminalSessionId}
    {actorEmail : String}
    (h : Did (own other (more history task origin action reply state next spawned))
      (.terminal (.ownerMatches sessionId actorEmail)) true) :
    ∃ opener request output, OpenedBy history opener request output ∧
      request.sessionId = sessionId ∧ request.actorEmail = actorEmail := by
  rcases did_snoc.mp h with hold | ⟨hother, heq⟩
  · exact ledger.owner hold
  · cases heq
    clear h
    generalize hresult : true = result at step
    cases step with
    | write hwrite => cases hwrite
    | read hread =>
      cases hread
      cases found : state.sessions.get sessionId with
      | none => simp [TerminalSessionRegistry.ownerMatches, found] at hresult
      | some session =>
        have hactor : session.actorEmail = actorEmail := by
          simpa [TerminalSessionRegistry.ownerMatches, found] using hresult
        obtain ⟨opener, request, output, hopened, hid, hidentity⟩ := ledger.tracked found
        simp only [TrackedTerminalSession.identity, TerminalSessionInsert.identity,
          Prod.mk.injEq] at hidentity
        exact ⟨opener, request, output, hopened, hid, hidentity.2.2.1 ▸ hactor⟩

private theorem recorded_step (ledger : Ledger history state)
    (step : AppStep task state action reply next) {other : Nat} {sessionId : TerminalSessionId}
    {data : String} {message : TerminalServerMessage}
    (h : Did (own other (more history task origin action reply state next spawned))
      (.terminal (.recordOutput sessionId data)) (some message)) :
    ∃ sequence, message = .output sessionId sequence data := by
  rcases did_snoc.mp h with hold | ⟨hother, heq⟩
  · exact ledger.recorded hold
  · cases heq
    clear h
    generalize hresult : some message = result at step
    cases step with
    | write hwrite =>
      cases hwrite with
      | recordOutput sessionId data =>
        obtain ⟨session, -, heq⟩ := Option.map_eq_some_iff.mp hresult.symm
        exact ⟨session.nextOutputSequence, heq.symm⟩
    | read hread => cases hread

/-- Only the browser handler that opened a local session starts its reader, once. -/
theorem spawner {origin : Stage} {past : Past} {pty output : Nat}
    {sessionId : TerminalSessionId}
    (act : controlAct origin past (.host (.spawnReader pty sessionId output))) :
    Opened past sessionId (.local pty) output ∧
      ∀ pty sessionId output reply,
        ¬Did past (.host (.spawnReader pty sessionId output)) reply := by
  obtain ⟨actorEmail, -, hact⟩ := browser_only_host act rfl
  exact hact

private theorem reader_step (ledger : Ledger history state)
    (act : controlAct origin (own task history) action) {other pty output : Nat}
    {sessionId : TerminalSessionId} {given : Unit}
    (h : Did (own other (more history task origin action reply state next spawned))
      (.host (.spawnReader pty sessionId output)) given) :
    Opened (own other history) sessionId (.local pty) output := by
  rcases did_snoc.mp h with hold | ⟨rfl, heq⟩
  · exact ledger.reader hold
  · cases heq
    exact (spawner act).1

private theorem inserted_step (ledger : Ledger history state)
    (act : controlAct origin (own task history) action) {other : Nat}
    {request : TerminalSessionInsert} {result : Except SessionLimitError Nat}
    (h : Did (own other (more history task origin action reply state next spawned))
      (.terminal (.insert request)) result) :
    Did (own other history) (.host .nextSessionId) request.sessionId ∧
      BackendSource (own other history) request := by
  rcases did_snoc.mp h with hold | ⟨rfl, heq⟩
  · exact ledger.inserted hold
  · cases heq
    obtain ⟨actorEmail, rfl, -, hissued, -, hsource⟩ := browser_only act rfl
    exact ⟨hissued, hsource⟩

private theorem BackendSource.later {past longer : Past} (h : past <+: longer)
    {request : TerminalSessionInsert} (hs : BackendSource past request) :
    BackendSource longer request := by
  unfold BackendSource at hs ⊢
  split
  · rename_i pty heq
    rw [heq] at hs
    obtain ⟨hnode, size, hd⟩ := hs
    exact ⟨hnode, size, hd.later h⟩
  · rename_i channel heq
    rw [heq] at hs
    obtain ⟨nodeId, connection, hnode, hd, hchannel⟩ := hs
    exact ⟨nodeId, connection, hnode, hd.later h, hchannel⟩

private theorem insertedOnce_step (ledger : Ledger history state)
    (act : controlAct origin (own task history) action) {other : Nat}
    {request later : TerminalSessionInsert} {result given : Except SessionLimitError Nat}
    (h : Did (own other (more history task origin action reply state next spawned))
      (.terminal (.insert request)) result)
    (h' : Did (own other (more history task origin action reply state next spawned))
      (.terminal (.insert later)) given) :
    (⟨.terminal (.insert request), result⟩ : Interaction Action Reply) =
      ⟨.terminal (.insert later), given⟩ := by
  -- a task that inserts has inserted nothing before
  have fresh : ∀ {request given}, action = .terminal (.insert request) →
      ∀ {earlier}, ¬Did (own task history) (.terminal (.insert earlier)) given := by
    rintro request given rfl earlier hd
    obtain ⟨actorEmail, rfl, -, -, hfresh, -⟩ := browser_only act rfl
    cases hfresh _ hd
  rcases did_snoc.mp h with hold | ⟨rfl, heq⟩
  · rcases did_snoc.mp h' with hold' | ⟨rfl, heq'⟩
    · exact ledger.insertedOnce hold hold'
    · exact absurd hold (fresh (congrArg Interaction.action heq'))
  · rcases did_snoc.mp h' with hold' | ⟨-, heq'⟩
    · exact absurd hold' (fresh (congrArg Interaction.action heq))
    · exact heq.symm.trans heq'

/-- A task inserts or reattaches only before it has done either. -/
private theorem oneWay_step (ledger : Ledger history state)
    (act : controlAct origin (own task history) action) {other : Nat}
    {request : TerminalSessionInsert} {result : Except SessionLimitError Nat}
    {sessionId : TerminalSessionId} {token : TerminalReconnectToken} {actorEmail : String}
    {target : Option TerminalReattachTarget}
    (h : Did (own other (more history task origin action reply state next spawned))
      (.terminal (.insert request)) result) :
    ¬Did (own other (more history task origin action reply state next spawned))
      (.terminal (.reattach sessionId token actorEmail)) target := by
  intro h'
  rcases did_snoc.mp h with hold | ⟨rfl, heq⟩
  · rcases did_snoc.mp h' with hold' | ⟨rfl, heq'⟩
    · exact ledger.oneWay hold hold'
    · cases heq'
      obtain ⟨named, rfl, -, hfresh, -⟩ := browser_only act rfl
      cases hfresh _ hold
  · cases heq
    obtain ⟨named, rfl, -, -, hfresh, -⟩ := browser_only act rfl
    rcases did_snoc.mp h' with hold' | ⟨-, heq'⟩
    · cases hfresh _ hold'
    · cases heq'

/-- A disciplined call keeps the ledger. -/
theorem Ledger.step (ledger : Ledger history state)
    (act : controlAct origin (own task history) action)
    (step : AppStep task state action reply next) :
    Ledger (history ++ [⟨task, origin, action, reply, state, next, spawned⟩]) next where
  issued h := by
    rcases issued_step step h with hold | ⟨-, hid, hnext⟩
    · obtain ⟨n, hn, hid⟩ := ledger.issued hold
      exact ⟨n, hn.trans_le (nextSessionId_le step), hid⟩
    · exact ⟨_, hnext ▸ Nat.lt_succ_self _, hid⟩
  issuedOnce h h' := by
    rcases issued_step step h with hold | ⟨rfl, hid, -⟩
    · rcases issued_step step h' with hold' | ⟨rfl, hid', -⟩
      · exact ledger.issuedOnce hold hold'
      · obtain ⟨n, hn, hid⟩ := ledger.issued hold
        exact absurd (sessionIdOf_injective (hid.symm.trans hid')) hn.ne
    · rcases issued_step step h' with hold' | ⟨rfl, -, -⟩
      · obtain ⟨n, hn, hid'⟩ := ledger.issued hold'
        exact absurd (sessionIdOf_injective (hid'.symm.trans hid)) hn.ne
      · rfl
  inserted h := by
    obtain ⟨hissued, hsource⟩ := inserted_step ledger act h
    exact ⟨hissued.later (own_more_isPrefix _), hsource.later (own_more_isPrefix _)⟩
  insertedOnce h h' := insertedOnce_step ledger act h h'
  oneWay h := oneWay_step ledger act h
  channel h := by
    rcases openedBy_step step h with hold | ⟨-, -, hlt⟩
    · exact (ledger.channel hold).trans_le (registry_sizes step).2
    · exact hlt
  channelOnce h h' := by
    rcases openedBy_step step h with hold | ⟨rfl, houtput, -⟩
    · rcases openedBy_step step h' with hold' | ⟨rfl, houtput', -⟩
      · exact ledger.channelOnce hold hold'
      · exact absurd houtput' (ledger.channel hold).ne
    · rcases openedBy_step step h' with hold' | ⟨rfl, -, -⟩
      · exact absurd houtput (ledger.channel hold').ne
      · rfl
  pty h := by
    rcases spawned_step step h with hold | ⟨-, -, hlt⟩
    · exact (ledger.pty hold).trans_le (registry_sizes step).1
    · exact hlt
  ptyOnce h h' := by
    rcases spawned_step step h with hold | ⟨rfl, hpty, -⟩
    · rcases spawned_step step h' with hold' | ⟨rfl, hpty', -⟩
      · exact ledger.ptyOnce hold hold'
      · exact absurd hpty' (ledger.pty hold).ne
    · rcases spawned_step step h' with hold' | ⟨rfl, -, -⟩
      · exact absurd hpty (ledger.pty hold').ne
      · rfl
  tracked found := tracked_step ledger step found
  reattached h := by
    obtain ⟨opener, request, output, hopened, hfields⟩ := reattached_step ledger step h
    exact ⟨opener, request, output, hopened.later (own_more_isPrefix opener), hfields⟩
  owner h := by
    obtain ⟨opener, request, output, hopened, hfields⟩ := owner_step ledger step h
    exact ⟨opener, request, output, hopened.later (own_more_isPrefix opener), hfields⟩
  recorded h := recorded_step ledger step h
  reader h := (reader_step ledger act h).later (own_more_isPrefix _)

end Step

namespace Ledger

variable {history : History} {state : AppState} {task other output given : Nat}
  {request later : TerminalSessionInsert}

private theorem unique_task (ledger : Ledger history state)
    (h : OpenedBy history task request output) (h' : OpenedBy history other later given)
    (same : task = other) : task = other ∧ request = later ∧ output = given := by
  subst same
  have heq := ledger.insertedOnce h h'
  cases heq
  exact ⟨rfl, rfl, rfl⟩

/-- A session id is opened once. -/
theorem unique_id (ledger : Ledger history state) (h : OpenedBy history task request output)
    (h' : OpenedBy history other later given) (hid : request.sessionId = later.sessionId) :
    task = other ∧ request = later ∧ output = given := by
  refine ledger.unique_task h h' (ledger.issuedOnce (ledger.inserted h).1 ?_)
  rw [hid]
  exact (ledger.inserted h').1

/-- A channel belongs to one session. -/
theorem unique_output (ledger : Ledger history state) (h : OpenedBy history task request output)
    (h' : OpenedBy history other later output) : task = other ∧ request = later := by
  obtain ⟨htask, hrequest, -⟩ := ledger.unique_task h h' (ledger.channelOnce h h')
  exact ⟨htask, hrequest⟩

/-- An insert of a local session comes after the spawn of its PTY. -/
theorem spawned (ledger : Ledger history state) {pty : Nat}
    {result : Except SessionLimitError Nat}
    (h : Did (own task history) (.terminal (.insert request)) result)
    (hbackend : request.backend = .local pty) : request.nodeId = none ∧ ∃ size,
      Did (own task history) (.terminal (.spawnDefaultShell size)) (.ok pty) := by
  have hsource := (ledger.inserted h).2
  rw [BackendSource, hbackend] at hsource
  exact hsource

/-- A PTY belongs to one session, also when its insert was refused. -/
theorem unique_pty (ledger : Ledger history state) {pty : Nat}
    {result found : Except SessionLimitError Nat}
    (h : Did (own task history) (.terminal (.insert request)) result)
    (h' : Did (own other history) (.terminal (.insert later)) found)
    (hpty : request.backend = .local pty) (hpty' : later.backend = .local pty) :
    task = other ∧ request = later ∧ result = found := by
  obtain ⟨-, size, hd⟩ := ledger.spawned h hpty
  obtain ⟨-, size', hd'⟩ := ledger.spawned h' hpty'
  obtain rfl := ledger.ptyOnce hd hd'
  have heq := ledger.insertedOnce h h'
  cases heq
  exact ⟨rfl, rfl, rfl⟩

end Ledger

theorem Ledger.boot (nodes : NodeEnrollmentState) : Ledger [] (.boot nodes) where
  issued h := absurd h List.not_mem_nil
  issuedOnce h := absurd h List.not_mem_nil
  inserted h := absurd h List.not_mem_nil
  insertedOnce h := absurd h List.not_mem_nil
  oneWay h := absurd h List.not_mem_nil
  channel h := absurd h List.not_mem_nil
  channelOnce h := absurd h List.not_mem_nil
  pty h := absurd h List.not_mem_nil
  ptyOnce h := absurd h List.not_mem_nil
  tracked h := by cases h
  reattached h := absurd h List.not_mem_nil
  owner h := absurd h List.not_mem_nil
  recorded h := absurd h List.not_mem_nil
  reader h := absurd h List.not_mem_nil

/-! Runs of the control plane. -/

/-- A call that may come next: its task keeps its order, and the state has it enabled. -/
structure Next (front : History) (e : ControlEvent) : Prop where
  ledger : Ledger front e.before
  act : controlAct e.origin (own e.task front) e.action
  step : AppStep e.task e.before e.action e.reply e.after
  spawned : e.spawned = spawned e.action
  origin : ∀ other ∈ front, other.task = e.task → other.origin = e.origin
  reader : ∀ {pty sessionId output}, e.origin = .ptyReader pty sessionId output →
    ∃ task, Did (own task front) (.host (.spawnReader pty sessionId output)) ()

variable {config : TerminalSessionConfig} {nodes : NodeEnrollmentState}

theorem Reaches.ledger {history : History} {pool : ControlPool}
    (h : Reaches config nodes history pool) : Ledger history pool.shared := by
  refine (Service.Reaches.invariant (controlOrder_sound config) (Ledger.boot nodes) ?_ h).2
  rintro history state task origin action choice out ledger act hperform
  obtain ⟨⟨reply, next⟩, hnext, rfl⟩ := Option.map_eq_some_iff.mp hperform
  exact ledger.step act (perform_cases hnext)

/-- A task has one origin. -/
theorem Reaches.origin {history : History} {pool : ControlPool}
    (h : Reaches config nodes history pool) {e other : ControlEvent} (he : e ∈ history)
    (hother : other ∈ history) (htask : e.task = other.task) : e.origin = other.origin :=
  Service.Reaches.origin (controlOrder_sound config) h he hother htask

private theorem spawned_of_perform {task : Nat} {state : AppState} {action : Action}
    {choice : Choice} {reply : Reply action} {after : AppState} {stages : List Stage}
    (h : (controlPlane config).perform task state action choice = some ⟨reply, after, stages⟩) :
    AppStep task state action reply after ∧ stages = spawned action := by
  obtain ⟨⟨given, next⟩, hnext, heq⟩ := Option.map_eq_some_iff.mp h
  obtain ⟨rfl, rfl, rfl⟩ := Outcome.mk.inj heq
  exact ⟨perform_cases hnext, rfl⟩

/-- The reader of this PTY, session and channel. -/
def isReader (pty : Nat) (sessionId : TerminalSessionId) (output : Nat) : Stage → Bool
  | .ptyReader p s o => p = pty && s = sessionId && o = output
  | _ => false

theorem eq_of_isReader {pty : Nat} {sessionId : TerminalSessionId} {output : Nat}
    {stage : Stage} (h : isReader pty sessionId output stage = true) :
    stage = .ptyReader pty sessionId output := by
  cases stage with
  | ptyReader p s o =>
    simp only [isReader, Bool.and_eq_true, decide_eq_true_eq] at h
    obtain ⟨⟨rfl, rfl⟩, rfl⟩ := h
    rfl
  | _ => cases h

private theorem isReader_entry {pty : Nat} {sessionId : TerminalSessionId} {output : Nat}
    (e : Arrival) : isReader pty sessionId output (entry e) = false := by
  cases e <;> rfl

/-- A reader in the pool was started by some call. -/
private theorem Reaches.reader_spawned {history : History} {pool : ControlPool}
    (h : Reaches config nodes history pool) {i : Nat} {t : Task Action Reply Stage}
    (ht : pool.tasks[i]? = some t) {pty : Nat} {sessionId : TerminalSessionId} {output : Nat}
    (horigin : t.origin = .ptyReader pty sessionId output) :
    ∃ task, Did (own task history) (.host (.spawnReader pty sessionId output)) () := by
  have hcount := h.count_origin isReader_entry (p := isReader pty sessionId output)
  have hpos : 0 < pool.tasks.countP (fun t => isReader pty sessionId output t.origin) :=
    List.countP_pos_iff.mpr ⟨t, List.mem_of_getElem? ht, by simp [horigin, isReader]⟩
  rw [hcount] at hpos
  obtain ⟨stage, hstage, hreader⟩ := List.countP_pos_iff.mp hpos
  obtain ⟨e, he, hstarts⟩ := List.mem_flatMap.mp hstage
  obtain ⟨front, back, rfl⟩ := List.append_of_mem he
  obtain ⟨_, _, _, _, _, _, _, hperform, _⟩ := h.call rfl
  obtain ⟨hstep, hspawned⟩ := spawned_of_perform hperform
  obtain rfl := eq_of_isReader hreader
  obtain ⟨task, origin, action, reply, before, after, stages⟩ := e
  change AppStep task before action reply after at hstep
  change stages = spawned action at hspawned
  subst hspawned
  change _ ∈ spawned action at hstarts
  unfold spawned at hstarts
  split at hstarts
  · obtain ⟨rfl, rfl, rfl⟩ := Stage.ptyReader.inj (List.mem_singleton.mp hstarts)
    exact ⟨task, Service.mem_own.mpr ⟨_, he, rfl, rfl⟩⟩
  · cases hstarts

/-- Every call of a run may come next where it stands. -/
theorem Reaches.next {history front back : History} {pool : ControlPool} {e : ControlEvent}
    (h : Reaches config nodes history pool) (hsplit : history = front ++ e :: back) :
    Next front e := by
  obtain ⟨before, after, choice, resume, hfront, hbefore, htask, hperform, -, -⟩ := h.call hsplit
  obtain ⟨hstep, hspawned⟩ := spawned_of_perform hperform
  have hfront : Reaches config nodes front before := hfront
  refine ⟨hbefore ▸ hfront.ledger, Service.Reaches.act (controlOrder_sound config) h hsplit,
    hstep, hspawned, ?_, fun horigin => hfront.reader_spawned htask horigin⟩
  intro other hother hsame
  subst hsplit
  exact h.origin (List.mem_append_left _ hother)
    (List.mem_append_right _ (List.mem_cons_self ..)) hsame

/-- What a history starts with is a run that ends where its next call begins. -/
theorem Reaches.front {history front back : History} {pool : ControlPool} {e : ControlEvent}
    (h : Reaches config nodes history pool) (hsplit : history = front ++ e :: back) :
    ∃ before, Reaches config nodes front before ∧ before.shared = e.before := by
  obtain ⟨before, after, choice, resume, hfront, hbefore, -⟩ := h.call hsplit
  exact ⟨before, hfront, hbefore⟩

/-- A run ends where its last call has left it. -/
theorem Reaches.shared_last {front : History} {e : ControlEvent} {pool : ControlPool}
    (h : Reaches config nodes (front ++ [e]) pool) : pool.shared = e.after := by
  rw [h.shared_eq, List.getLast?_append]
  rfl

/-- The invariant rule of the control plane, for steps that need the whole run so far. -/
theorem Reaches.along {I : History → AppState → Prop} (boot : I [] (.boot nodes))
    (step : ∀ front e pool, Reaches config nodes (front ++ [e]) pool → I front e.before →
      I (front ++ [e]) e.after)
    {history : History} {pool : ControlPool} (h : Reaches config nodes history pool) :
    I history pool.shared := by
  induction history using List.reverseRecOn generalizing pool with
  | nil => exact h.shared_eq ▸ boot
  | append_singleton front e ih =>
    obtain ⟨before, hfront, hbefore⟩ := h.front rfl
    rw [h.shared_last]
    exact step front e pool h (hbefore ▸ ih hfront)

/-- The invariant rule of the control plane. -/
theorem Reaches.keeps {I : History → AppState → Prop} (boot : I [] (.boot nodes))
    (step : ∀ front e, Next front e → I front e.before → I (front ++ [e]) e.after)
    {history : History} {pool : ControlPool} (h : Reaches config nodes history pool) :
    I history pool.shared :=
  h.along boot (fun front e _ hrun => step front e (hrun.next rfl))

/-- What a call establishes and each later call keeps, given the calls in between, holds at the
    end. -/
theorem Reaches.onward {I : History → AppState → Prop} {history front later : History}
    {e : ControlEvent} {pool : ControlPool} (h : Reaches config nodes history pool)
    (hsplit : history = front ++ e :: later) (start : I [] e.after)
    (step : ∀ middle other rest, later = middle ++ other :: rest →
      Next (front ++ e :: middle) other → I middle other.before →
      I (middle ++ [other]) other.after) : I later pool.shared := by
  induction later using List.reverseRecOn generalizing history pool with
  | nil =>
    subst hsplit
    exact h.shared_last ▸ start
  | append_singleton later last ih =>
    have hlast : history = (front ++ e :: later) ++ [last] := by simp [hsplit]
    obtain ⟨before, hfront, hbefore⟩ := h.front hlast
    have earlier := ih hfront rfl (fun middle other rest hrest =>
      step middle other (rest ++ [last]) (by simp [hrest]))
    have final := step later last [] rfl (h.next hlast) (hbefore ▸ earlier)
    subst hlast
    exact h.shared_last ▸ final

/-- What a call establishes and the later calls keep holds at the end. -/
theorem Reaches.since_end {I : AppState → Prop} {history front later : History} {e : ControlEvent}
    {pool : ControlPool} (h : Reaches config nodes history pool)
    (hsplit : history = front ++ e :: later) (start : I e.after)
    (step : ∀ before, ∀ other ∈ later, Next before other → I other.before → I other.after) :
    I pool.shared :=
  h.onward (I := fun _ state => I state) hsplit start
    (fun _ other _ hrest next found => step _ other (by simp [hrest]) next found)

/-- What a call establishes and the later calls keep holds after each of these. -/
theorem Reaches.since {I : AppState → Prop} {history front later : History} {e : ControlEvent}
    {pool : ControlPool} (h : Reaches config nodes history pool)
    (hsplit : history = front ++ e :: later) (start : I e.after)
    (step : ∀ before, ∀ other ∈ later, Next before other → I other.before → I other.after) :
    ∀ other ∈ e :: later, I other.after := by
  refine (h.onward (I := fun middle state => I state ∧ ∀ other ∈ e :: middle, I other.after)
    hsplit ⟨start, ?_⟩ ?_).2
  · intro other hother
    rwa [List.mem_singleton.mp hother]
  · rintro middle other rest hrest next ⟨found, earlier⟩
    have left : I other.after := step _ other (by simp [hrest]) next found
    refine ⟨left, fun last hlast => ?_⟩
    rw [← List.cons_append] at hlast
    rcases List.mem_append.mp hlast with hold | hnew
    · exact earlier last hold
    · rwa [List.mem_singleton.mp hnew]

/-- A call of a task stands somewhere in the history. -/
theorem exists_split_of_did {history : History} {task : Nat} {action : Action}
    {reply : Reply action} (h : Did (own task history) action reply) :
    ∃ front e back, history = front ++ e :: back ∧ e.task = task ∧
      e.interaction = ⟨action, reply⟩ := by
  obtain ⟨e, he, htask, heq⟩ := Service.mem_own.mp h
  obtain ⟨front, back, hsplit⟩ := List.append_of_mem he
  exact ⟨front, e, back, hsplit, htask, heq⟩

/-- Where a task stood is where the history stood. -/
theorem exists_split_of_own {history : History} {task : Nat} {early late : Past}
    {x : Interaction Action Reply} (h : own task history = early ++ x :: late) :
    ∃ front e back, history = front ++ e :: back ∧ e.task = task ∧ e.interaction = x ∧
      own task front = early := by
  rw [own, Service.own, List.map_eq_append_iff] at h
  obtain ⟨first, rest, hfilter, hearly, hrest⟩ := h
  obtain ⟨e, others, rfl, rfl, -⟩ := List.map_eq_cons_iff.mp hrest
  obtain ⟨front, later, rfl, hfront, hlater⟩ := List.filter_eq_append_iff.mp hfilter
  obtain ⟨skipped, back, rfl, hskipped, htask, -⟩ := List.filter_eq_cons_iff.mp hlater
  refine ⟨front ++ skipped, e, back, by simp, by simpa using htask, rfl, ?_⟩
  rw [own, Service.own, List.filter_append, hfront, List.filter_eq_nil_iff.mpr hskipped,
    List.append_nil, hearly]

/-- Of two calls in a history that differ one comes first. -/
theorem before_or_after {history front back early late : History} {first second : ControlEvent}
    (hsplit : history = front ++ first :: back) (hsplit' : history = early ++ second :: late)
    (hne : first ≠ second) :
    (∃ between, early = front ++ first :: between ∧ back = between ++ second :: late) ∨
      ∃ between, front = early ++ second :: between ∧ late = between ++ first :: back := by
  rw [hsplit] at hsplit'
  rcases List.append_eq_append_iff.mp hsplit' with ⟨extra, hearly, hrest⟩ | ⟨extra, hfront, hrest⟩
  · cases extra with
    | nil => exact absurd (List.cons.inj hrest).1 hne
    | cons head tail =>
      obtain ⟨rfl, htail⟩ := List.cons.inj hrest
      exact Or.inl ⟨tail, hearly, htail⟩
  · cases extra with
    | nil => exact absurd (List.cons.inj hrest).1.symm hne
    | cons head tail =>
      obtain ⟨rfl, htail⟩ := List.cons.inj hrest
      exact Or.inr ⟨tail, hfront, htail⟩

theorem own_eq_nil {others : History} {task : Nat} (h : ∀ e ∈ others, e.task ≠ task) :
    own task others = [] := by
  rw [own, Service.own, List.map_eq_nil_iff, List.filter_eq_nil_iff]
  intro e he
  simpa using h e he

theorem own_append_cons (task : Nat) (front waits : History) {e : ControlEvent}
    (htask : e.task = task) (silent : ∀ other ∈ waits, other.task ≠ task) :
    own task (front ++ e :: waits) = own task front ++ [e.interaction] := by
  have hsilent : own task waits = [] := own_eq_nil silent
  rw [own, Service.own, List.filter_append, List.map_append,
    List.filter_cons_of_pos (by simpa using htask), List.map_cons]
  exact congrArg (fun rest => own task front ++ e.interaction :: rest) hsilent

/-- A task that goes on has a next call. -/
theorem exists_next_own {later : History} {task : Nat} (goesOn : ∃ e ∈ later, e.task = task) :
    ∃ waits e rest, later = waits ++ e :: rest ∧ e.task = task ∧
      ∀ other ∈ waits, other.task ≠ task := by
  obtain ⟨e, he, htask⟩ := goesOn
  obtain ⟨found, hfind⟩ := Option.isSome_iff_exists.mp
    ((List.find?_isSome (p := fun e => e.task == task)).mpr ⟨e, he, by simpa using htask⟩)
  obtain ⟨hsame, waits, rest, hlater, hwaits⟩ := List.find?_eq_some_iff_append.mp hfind
  exact ⟨waits, found, rest, hlater, by simpa using hsame, fun other hother => by
    simpa using hwaits other hother⟩

private theorem isReader_self (pty : Nat) (sessionId : TerminalSessionId) (output : Nat) :
    isReader pty sessionId output (.ptyReader pty sessionId output) = true := by
  simp [isReader]

private theorem spawns_of_isReader {action : Action} {pty : Nat}
    {sessionId : TerminalSessionId} {output : Nat}
    (h : 0 < (spawned action).countP (isReader pty sessionId output)) :
    action = .host (.spawnReader pty sessionId output) := by
  obtain ⟨stage, hstage, hreader⟩ := List.countP_pos_iff.mp h
  obtain rfl := eq_of_isReader hreader
  unfold spawned at hstage
  split at hstage
  · obtain ⟨rfl, rfl, rfl⟩ := Stage.ptyReader.inj (List.mem_singleton.mp hstage)
    rfl
  · cases hstage

private theorem countP_spawned_le (action : Action) (p : Stage → Bool) :
    (spawned action).countP p ≤ 1 := by
  refine List.countP_le_length.trans ?_
  unfold spawned
  split
  · exact le_rfl
  · exact Nat.zero_le 1

/-- A reader is started at most once. -/
private theorem Reaches.count_readers {history : History} {pool : ControlPool}
    (h : Reaches config nodes history pool) (pty : Nat) (sessionId : TerminalSessionId)
    (output : Nat) :
    (history.flatMap (·.spawned)).countP (isReader pty sessionId output) ≤ 1 ∧
      (0 < (history.flatMap (·.spawned)).countP (isReader pty sessionId output) →
        ∃ task, Did (own task history) (.host (.spawnReader pty sessionId output)) ()) := by
  refine h.keeps (I := fun history _ =>
    (history.flatMap (·.spawned)).countP (isReader pty sessionId output) ≤ 1 ∧
      (0 < (history.flatMap (·.spawned)).countP (isReader pty sessionId output) →
        ∃ task, Did (own task history) (.host (.spawnReader pty sessionId output)) ())) ?_ ?_
  · exact ⟨Nat.zero_le 1, fun hpos => absurd hpos (lt_irrefl 0)⟩
  · rintro front e next ⟨once, started⟩
    rw [List.flatMap_append, List.flatMap_singleton, List.countP_append, next.spawned]
    by_cases hspawns : 0 < (spawned e.action).countP (isReader pty sessionId output)
    · have haction := spawns_of_isReader hspawns
      have hd : Did (own e.task (front ++ [e])) (.host (.spawnReader pty sessionId output)) () := by
        refine did_snoc.mpr (Or.inr ⟨rfl, ?_⟩)
        obtain ⟨task, origin, action, reply, before, after, spawned⟩ := e
        cases haction
        rfl
      have hnone : (front.flatMap (·.spawned)).countP (isReader pty sessionId output) = 0 := by
        by_contra hsome
        obtain ⟨task, hearlier⟩ := started (Nat.pos_of_ne_zero hsome)
        have act := next.act
        rw [haction] at act
        obtain ⟨⟨-, request, hinsert, -, -⟩, hfirst⟩ := spawner act
        obtain ⟨-, later, hlater, -, -⟩ := next.ledger.reader hearlier
        obtain rfl := next.ledger.channelOnce hinsert hlater
        exact hfirst _ _ _ _ hearlier
      rw [hnone, Nat.zero_add]
      exact ⟨countP_spawned_le _ _, fun _ => ⟨e.task, hd⟩⟩
    · rw [Nat.eq_zero_of_not_pos hspawns, Nat.add_zero]
      refine ⟨once, fun hpos => ?_⟩
      obtain ⟨task, hd⟩ := started hpos
      exact ⟨task, hd.later (own_isPrefix task front [e])⟩

private theorem two_le_countP {α : Type} {p : α → Bool} {l : List α} {i j : Nat} {a b : α}
    (hi : l[i]? = some a) (hj : l[j]? = some b) (hlt : i < j) (ha : p a = true)
    (hb : p b = true) : 2 ≤ l.countP p := by
  have hfront : a ∈ l.take j := List.mem_of_getElem? ((List.getElem?_take_of_lt hlt).trans hi)
  have hback : b ∈ l.drop j := by
    refine List.mem_of_getElem? (i := 0) ?_
    rwa [List.getElem?_drop]
  have hfirst : 0 < (l.take j).countP p := List.countP_pos_iff.mpr ⟨a, hfront, ha⟩
  have hsecond : 0 < (l.drop j).countP p := List.countP_pos_iff.mpr ⟨b, hback, hb⟩
  rw [← List.take_append_drop j l, List.countP_append]
  omega

/-- A session has one reader. -/
theorem Reaches.reader_unique {history : History} {pool : ControlPool}
    (h : Reaches config nodes history pool) {e other : ControlEvent} (he : e ∈ history)
    (hother : other ∈ history) {pty output : Nat} {sessionId : TerminalSessionId}
    (reader : e.origin = .ptyReader pty sessionId output)
    (reader' : other.origin = .ptyReader pty sessionId output) : e.task = other.task := by
  have holds : controlOrder.Holds history pool :=
    Service.Reaches.holds (controlOrder_sound config) h
  obtain ⟨t, ht, horigin⟩ := holds.known e he
  obtain ⟨t', ht', horigin'⟩ := holds.known other hother
  have hself : isReader pty sessionId output t.origin = true := by
    rw [horigin, reader, isReader_self]
  have hself' : isReader pty sessionId output t'.origin = true := by
    rw [horigin', reader', isReader_self]
  have honce := (h.count_readers pty sessionId output).1
  rw [← h.count_origin isReader_entry] at honce
  by_contra hne
  rcases lt_or_gt_of_ne hne with hlt | hgt
  · have htwo : 2 ≤ pool.tasks.countP (fun t => isReader pty sessionId output t.origin) :=
      two_le_countP ht ht' hlt hself hself'
    omega
  · have htwo : 2 ≤ pool.tasks.countP (fun t => isReader pty sessionId output t.origin) :=
      two_le_countP ht' ht hgt hself' hself
    omega

/-- The task that opened a session is the handler of a browser of its user. -/
theorem Reaches.opener_origin {history : History} {pool : ControlPool}
    (h : Reaches config nodes history pool) {task output : Nat}
    {request : TerminalSessionInsert} (opened : OpenedBy history task request output)
    {e : ControlEvent} (he : e ∈ history) (htask : e.task = task) :
    e.origin = .terminalSocket request.actorEmail := by
  obtain ⟨front, insert, back, hsplit, hinsert, heq⟩ := exists_split_of_did opened
  have act := (h.next hsplit).act
  obtain ⟨i, origin, action, reply, before, after, spawned⟩ := insert
  cases heq
  obtain ⟨actorEmail, rfl, hactor, -⟩ := browser_only act rfl
  rw [hactor]
  exact h.origin he (hsplit ▸ List.mem_append_right _ (List.mem_cons_self ..))
    (htask.trans hinsert.symm)

/-- What a browser task is attached to was opened by its own user. -/
theorem Reaches.attached {history front back : History} {pool : ControlPool}
    {e : ControlEvent} (h : Reaches config nodes history pool)
    (hsplit : history = front ++ e :: back) {actorEmail : String}
    (origin : e.origin = .terminalSocket actorEmail) {sessionId : TerminalSessionId}
    {backend : TerminalBackend} {output : Nat}
    (attached : Attached (own e.task front) actorEmail sessionId backend output) :
    ∃ opener request, OpenedBy front opener request output ∧
      request.sessionId = sessionId ∧ request.backend = backend ∧
      request.actorEmail = actorEmail := by
  rcases attached with ⟨-, request, hd, hid, hbackend⟩ | ⟨token, target, -, hd, hbackend, houtput⟩
  · have hopened : OpenedBy history e.task request output :=
      Did.later (hsplit ▸ own_isPrefix e.task front (e :: back)) hd
    have he : e ∈ history := hsplit ▸ List.mem_append_right _ (List.mem_cons_self ..)
    have horigin := origin.symm.trans (h.opener_origin hopened he rfl)
    cases horigin
    exact ⟨e.task, request, hd, hid, hbackend, rfl⟩
  · obtain ⟨opener, request, output', hopened, hid, hactor, hfields⟩ :=
      (h.next hsplit).ledger.reattached hd
    simp only [Prod.mk.injEq] at hfields
    obtain ⟨hbackend', houtput', -⟩ := hfields
    refine ⟨opener, request, ?_, hid, hbackend'.symm.trans hbackend, hactor⟩
    rwa [← houtput, houtput']

end Sunbolt.Control
