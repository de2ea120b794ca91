/- Module: Sunbolt/Control/BrowserOrder
   scope: sunbolt-control/src/terminal/mod.rs
   digest: Every browser handler keeps the program order of its calls. -/

import Sunbolt.Control.ProgramOrder

set_option autoImplicit false
set_option relaxedAutoImplicit false

namespace Sunbolt.Control

open Sunbolt.Library
open Sunbolt.Protocol (TerminalSessionId TerminalReconnectToken TerminalServerMessage
  TerminalClientMessage AgentTerminalCommand AgentTerminalEvent TerminalErrorCode NodeId)

/-- The task's receiver stands at `next`, and everything it took there has been shown. -/
structure Watching (actorEmail : String) (past : Past) (sessionId : TerminalSessionId)
    (backend : TerminalBackend) (output next : Nat) : Prop where
  attached : Attached past actorEmail sessionId backend output
  cursor : cursor past = some next
  shown : shown past = due past

/-- What a browser handler knows when it goes on with a stage. -/
def browserHead (actorEmail : String) (past : Past) : Stage → Prop
  | .terminalSocket actor => actor = actorEmail ∧ past = []
  | .localAttached attachment => attachment.actorEmail = actorEmail ∧
      Watching actorEmail past attachment.sessionId (.local attachment.pty) attachment.output
        attachment.outputNext
  | .remoteOpened opening => opening.actorEmail = actorEmail ∧
      Opened past opening.sessionId (.remote opening.connection.channel) opening.output ∧
      shown past = due past
  | .remoteAttached attachment => attachment.actorEmail = actorEmail ∧
      Watching actorEmail past attachment.sessionId (.remote attachment.commands)
        attachment.output attachment.outputNext
  | _ => False

def browserPost (actorEmail : String) (past : Past) (next : Option Stage) : Prop :=
  ∀ stage ∈ next, browserHead actorEmail past stage

theorem Opened.named {past : Past} {sessionId : TerminalSessionId} {backend : TerminalBackend}
    {output : Nat} (h : Opened past sessionId backend output) : Named past sessionId :=
  Or.inl h.1

theorem Attached.named {past : Past} {actorEmail : String} {sessionId : TerminalSessionId}
    {backend : TerminalBackend} {output : Nat}
    (h : Attached past actorEmail sessionId backend output) : Named past sessionId := by
  rcases h with ho | ⟨token, -, hasked, -⟩
  · exact ho.named
  · exact Or.inr ⟨token, hasked⟩

theorem messageSource_of_stream {past : Past} {message : TerminalServerMessage}
    (h : ∃ x ∈ past, message ∈ streamOf x) : messageSource past message := by
  rw [messageSource]
  split
  · trivial
  · exact Or.inr (Or.inr h)

theorem Watching.later {actorEmail : String} {past later : Past}
    {sessionId : TerminalSessionId} {backend : TerminalBackend} {output next : Nat}
    (h : Watching actorEmail past sessionId backend output next) (settles : Settles past later) :
    Watching actorEmail later sessionId backend output next where
  attached := h.attached.later settles.isPrefix
  cursor := settles.cursor_eq.trans h.cursor
  shown := by rw [settles.shown_eq, settles.due_eq, h.shown]

/-- The calls that only look something up. -/
def isLookup : Action → Bool
  | .terminal (.ownerMatches ..) => true
  | .terminal (.nodeId _) => true
  | .node (.nodeDetails _) => true
  | .host (.userHasNodePermission ..) => true
  | _ => false

def Lookup (action : Action) : Prop := isLookup action = true

section Lookups

attribute [local simp] terminal node host Program.perform Lookup isLookup

theorem lookup_authorizeSessionReattach (actorEmail : String) (sessionId : TerminalSessionId) :
    (authorizeSessionReattach actorEmail sessionId).Each Lookup (fun _ => True) := by
  refine Program.Each.then (by simp) (fun owner => ?_)
  rw [Program.each_ite]
  refine ⟨fun _ => by simp, fun _ => Program.Each.then (by simp) (fun nodeId => ?_)⟩
  cases nodeId <;> simp

theorem lookup_authorizeSessionTerminate (actorEmail : String) (sessionId : TerminalSessionId) :
    (authorizeSessionTerminate actorEmail sessionId).Each Lookup (fun _ => True) := by
  refine Program.Each.then (by simp) (fun nodeId => ?_)
  cases nodeId <;> simp

end Lookups

section Browser

attribute [local simp] terminal agent node host Program.perform Settled isSettled browserAct
  browserPost messageSource TerminalSessionRegistry.rememberedSession
  TerminalServerMessage.isOutput

variable {actorEmail : String} {past : Past}

@[simp] private theorem each_record (Q : Unit → Prop) (kind : AuditEventKind)
    (actor : Option String) (message : String) :
    (record kind actor message).Each (Settled actorEmail past) Q ↔ Q () := by
  simp only [record, host, Program.perform, Program.each_call, Settled, isSettled, browserAct,
    and_self, true_and, Program.each_done]
  exact ⟨fun h => h (), fun h _ => h⟩

@[simp] private theorem each_sendIgnored (Q : Unit → Prop) (message : TerminalServerMessage) :
    (sendIgnored message).Each (Settled actorEmail past) Q ↔
      (message.isOutput = false ∧ messageSource past message) ∧ Q () := by
  simp only [sendIgnored, host, Program.perform, Program.each_bind, Program.each_call, Settled,
    isSettled, browserAct, Program.each_done, Program.each_pure, Bool.not_eq_true']
  constructor
  · rintro ⟨⟨hout, hsource, -⟩, hQ⟩
    exact ⟨⟨hout, hsource⟩, hQ true⟩
  · rintro ⟨⟨hout, hsource⟩, hQ⟩
    exact ⟨⟨hout, hsource, fun h => absurd h (ne_true_of_eq_false hout)⟩, fun _ => hQ⟩

@[simp] private theorem each_sendError (Q : Unit → Prop) (sessionId : Option TerminalSessionId)
    (code : TerminalErrorCode) (message : String) :
    (sendError sessionId code message).Each (Settled actorEmail past) Q ↔
      messageSource past (.error sessionId ⟨code, message⟩) ∧ Q () := by
  simp [sendError, Sunbolt.Protocol.protocolErrorText]

@[simp] private theorem each_auditTerminalDetached (Q : Unit → Prop)
    (sessionId : TerminalSessionId) (actor reason : String) :
    (auditTerminalDetached actor sessionId reason).Each (Settled actorEmail past) Q ↔ Q () := by
  simp [auditTerminalDetached]

private theorem each_sessionIdMatches {Q : Bool → Prop} {received active : TerminalSessionId}
    (named : Named past active) (same : received = active → Q true) (other : Q false) :
    (sessionIdMatches received active).Each (Settled actorEmail past) Q := by
  simpa [sessionIdMatches, named, other] using same

private theorem each_reportFailure {Q : Unit → Prop} {active : TerminalSessionId}
    (named : Named past active) (result : Except Sunbolt.Terminal.TerminalError Unit)
    (h : Q ()) :
    (reportFailure active result).Each (Settled actorEmail past) Q := by
  cases result <;> simpa [reportFailure, named] using h

private theorem each_terminateLocalTerminal {pty output : Nat}
    {named sessionId : TerminalSessionId}
    (attached : Attached past actorEmail sessionId (.local pty) output)
    (asked : named = sessionId → AskedToEnd past sessionId) :
    (terminateLocalTerminal actorEmail pty named sessionId).Each (Settled actorEmail past)
      (fun _ => True) := by
  rw [terminateLocalTerminal, Program.each_bind]
  refine each_sessionIdMatches attached.named (fun hnamed => ?_) (by simp)
  have entered : ∃ backend output, Attached past actorEmail sessionId backend output :=
    ⟨_, _, attached⟩
  have cause := asked hnamed
  simp [entered, stateCause, cause, attached.named]
  exact Or.inr ⟨sessionId, ⟨output, attached⟩, Or.inr cause⟩

private theorem each_handleClientFrame {pty output : Nat} {sessionId : TerminalSessionId}
    {message : WebSocketMessage}
    (attached : Attached past actorEmail sessionId (.local pty) output)
    (received : ReceivedFrame past message) :
    (handleClientFrame actorEmail pty sessionId message).Each (Settled actorEmail past)
      (fun _ => True) := by
  have entered : ∃ backend output, Attached past actorEmail sessionId backend output :=
    ⟨_, _, attached⟩
  have owned : ∃ pty output, Attached past actorEmail sessionId (.local pty) output :=
    ⟨_, _, attached⟩
  have held : ∃ sessionId output, Attached past actorEmail sessionId (.local pty) output :=
    ⟨_, _, attached⟩
  have named := attached.named
  rw [handleClientFrame]
  cases message with
  | text parsed =>
    cases parsed with
    | error text => simp [parseClientMessage, named]
    | ok message =>
      cases message with
      | close id =>
        exact each_terminateLocalTerminal attached (fun hid => Or.inl (hid ▸ received))
      | terminate id =>
        exact each_terminateLocalTerminal attached (fun hid => Or.inr (hid ▸ received))
      | input id data =>
        simp only [parseClientMessage, Program.each_bind]
        refine each_sessionIdMatches named (fun _ => ?_) (by simp)
        simp [held, each_reportFailure named]
      | resize id size =>
        simp only [parseClientMessage, Program.each_bind]
        refine each_sessionIdMatches named (fun _ => ?_) (by simp)
        simp [held, owned, each_reportFailure named]
      | detach id =>
        simp only [parseClientMessage, Program.each_bind]
        refine each_sessionIdMatches named (fun _ => ?_) (by simp)
        simp [detachLocalTerminal, entered, stateCause, named]
      | reattach id token =>
        simp only [parseClientMessage, Program.each_bind]
        refine each_sessionIdMatches named (fun _ => ?_) (by simp)
        simp [reattachLocalTerminal, entered, stateCause, named]
      | _ => simp [parseClientMessage, named]
  | _ => simp [parseClientMessage, named]

private theorem post_localAttached {attachment : LocalAttachment}
    (actor : attachment.actorEmail = actorEmail)
    (watching : Watching actorEmail past attachment.sessionId (.local attachment.pty)
      attachment.output attachment.outputNext) :
    browserPost actorEmail past (some (.localAttached attachment)) := by
  simp [browserHead, actor, watching]

private theorem all_leaveLocalSession {attachment : LocalAttachment}
    (actor : attachment.actorEmail = actorEmail)
    (attached : Attached past actorEmail attachment.sessionId (.local attachment.pty)
      attachment.output) :
    (leaveLocalSession attachment).All (browserAct actorEmail) past (browserPost actorEmail) := by
  subst actor
  rw [leaveLocalSession, Program.all_bind]
  refine all_settled_then rfl trivial (fun state later hlater hstate => ?_)
  rw [Program.all_done, Program.all_ite]
  refine ⟨fun _ => by simp, fun hdetached => all_of_settled (Q := fun next => next = none) ?_
    (fun _ _ _ hnone => by simp [hnone])⟩
  have hattached := attached.later hlater.isPrefix
  have left : LeftLoop later attachment.sessionId := ⟨state, hdetached, hstate⟩
  have entered : ∃ backend output, Attached later attachment.actorEmail attachment.sessionId
      backend output := ⟨_, _, hattached⟩
  have owned : ∃ pty output, Attached later attachment.actorEmail attachment.sessionId
      (.local pty) output := ⟨_, _, hattached⟩
  simp [entered, owned, stateCause, left, runIf]

private theorem all_expireLocalSession {attachment : LocalAttachment} {reason : String}
    (actor : attachment.actorEmail = actorEmail)
    (attached : Attached past actorEmail attachment.sessionId (.local attachment.pty)
      attachment.output)
    (timedOut : TimedOut past attachment.sessionId) :
    (expireLocalSession attachment reason).All (browserAct actorEmail) past
      (browserPost actorEmail) := by
  have entered : ∃ backend output, Attached past actorEmail attachment.sessionId backend output :=
    ⟨_, _, attached⟩
  rw [expireLocalSession, Program.all_bind]
  refine all_of_settled (p := terminal (.setState attachment.sessionId .terminating))
    (Q := fun _ => True) (by simp [entered, stateCause, timedOut]) (fun later _ hlater _ => ?_)
  have hattached := attached.later hlater.isPrefix
  rw [Program.all_bind]
  refine all_of_settled (Q := fun _ => True) (by simp [hattached.named])
    (fun last _ hlast _ => all_leaveLocalSession actor (hattached.later hlast.isPrefix))

private theorem each_noteStreamError (attachment : LocalAttachment)
    (output : TerminalServerMessage) :
    (noteStreamError attachment output).Each (Settled actorEmail past) (fun noted =>
      noted.actorEmail = attachment.actorEmail ∧ noted.sessionId = attachment.sessionId ∧
        noted.pty = attachment.pty ∧ noted.output = attachment.output ∧
        noted.outputNext = attachment.outputNext) := by
  cases output <;> simp [noteStreamError]

private theorem each_detachDisconnected {sessionId : TerminalSessionId}
    (entered : ∃ backend output, Attached past actorEmail sessionId backend output) :
    (detachDisconnected actorEmail sessionId).Each (Settled actorEmail past)
      (fun _ => True) := by
  simp [detachDisconnected, entered, stateCause]

private theorem all_detachAndLeave {attachment : LocalAttachment}
    (actor : attachment.actorEmail = actorEmail)
    (attached : Attached past actorEmail attachment.sessionId (.local attachment.pty)
      attachment.output) :
    (do
      detachDisconnected attachment.actorEmail attachment.sessionId
      leaveLocalSession attachment).All (browserAct actorEmail) past
      (browserPost actorEmail) := by
  rw [Program.all_bind, actor]
  exact all_of_settled (each_detachDisconnected ⟨_, _, attached⟩) (fun later _ hlater _ =>
    all_leaveLocalSession actor (attached.later hlater.isPrefix))

/-- The task owes its browser just this message. -/
structure Owes (past : Past) (message : TerminalServerMessage) : Prop where
  owed : shown past ++ [message].filter (·.isOutput) = due past
  source : messageSource past message

namespace Owes

variable {message : TerminalServerMessage}

theorem later {last : Past} (settles : Settles past last) (h : Owes past message) :
    Owes last message where
  owed := by rw [settles.shown_eq, settles.due_eq, h.owed]
  source := h.source.later settles.isPrefix

theorem act (h : Owes past message) : browserAct actorEmail past (.host (.send message)) := by
  refine ⟨h.source, fun hout => ?_⟩
  have howed := h.owed
  rw [List.filter_cons_of_pos hout, List.filter_nil] at howed
  exact howed ▸ List.prefix_refl _

theorem sent (h : Owes past message) (ok : Bool) :
    shown (past ++ [⟨.host (.send message), ok⟩]) =
      due (past ++ [⟨.host (.send message), ok⟩]) := by
  simpa [shown, due, shownBy, streamOf] using h.owed

end Owes

/-- A task at the position `next` that owes its browser just this message. -/
structure Forwards (actorEmail : String) (past : Past) (sessionId : TerminalSessionId)
    (backend : TerminalBackend) (output next : Nat) (message : TerminalServerMessage) : Prop where
  attached : Attached past actorEmail sessionId backend output
  cursor : cursor past = some next
  owes : Owes past message

namespace Forwards

variable {sessionId : TerminalSessionId} {backend : TerminalBackend} {output next : Nat}
  {message : TerminalServerMessage}

theorem later {last : Past} (settles : Settles past last)
    (h : Forwards actorEmail past sessionId backend output next message) :
    Forwards actorEmail last sessionId backend output next message where
  attached := h.attached.later settles.isPrefix
  cursor := settles.cursor_eq.trans h.cursor
  owes := h.owes.later settles

theorem sent (h : Forwards actorEmail past sessionId backend output next message)
    (ok : Bool) :
    Watching actorEmail (past ++ [⟨.host (.send message), ok⟩]) sessionId backend output next
      where
  attached := h.attached.later (List.prefix_append ..)
  cursor := by simpa [cursorAfter] using h.cursor
  shown := h.owes.sent ok

end Forwards

/-! What a wake of an attached task leaves it with. -/

section Wake

variable {sessionId : TerminalSessionId} {backend : TerminalBackend} {output next after : Nat}

private theorem watching_incoming (idle : Bool)
    (h : Watching actorEmail past sessionId backend output next)
    (message : Option WebSocketMessage) :
    Watching actorEmail (past ++ [⟨.terminal (.selectAttached output next idle),
      .incoming message⟩]) sessionId backend output next where
  attached := h.attached.later (List.prefix_append ..)
  cursor := by simpa [cursorAfter] using h.cursor
  shown := by simpa [shown, due, shownBy, streamOf] using h.shown

private theorem watching_idleCheck (idle : Bool)
    (h : Watching actorEmail past sessionId backend output next) :
    Watching actorEmail (past ++ [⟨.terminal (.selectAttached output next idle),
      .idleCheck⟩]) sessionId backend output next where
  attached := h.attached.later (List.prefix_append ..)
  cursor := by simpa [cursorAfter] using h.cursor
  shown := by simpa [shown, due, shownBy, streamOf] using h.shown

private theorem watching_lagged (idle : Bool)
    (h : Watching actorEmail past sessionId backend output next) :
    Watching actorEmail (past ++ [⟨.terminal (.selectAttached output next idle),
      .output .lagged after⟩]) sessionId backend output after where
  attached := h.attached.later (List.prefix_append ..)
  cursor := by simp [cursorAfter]
  shown := by simpa [shown, due, shownBy, streamOf] using h.shown

private theorem forwards_value (idle : Bool) (message : TerminalServerMessage)
    (h : Watching actorEmail past sessionId backend output next) :
    Forwards actorEmail (past ++ [⟨.terminal (.selectAttached output next idle),
      .output (.value message) after⟩]) sessionId backend output after message where
  attached := h.attached.later (List.prefix_append ..)
  cursor := by simp [cursorAfter]
  owes :=
    { owed := by simpa [shown, due, shownBy, streamOf] using h.shown
      source := messageSource_of_stream
        ⟨_, List.mem_append_right _ (List.mem_singleton_self _), by simp [streamOf]⟩ }

end Wake

private theorem all_forwardLocalOutput {attachment : LocalAttachment}
    {output : TerminalServerMessage} (actor : attachment.actorEmail = actorEmail)
    (forwards : Forwards actorEmail past attachment.sessionId (.local attachment.pty)
      attachment.output attachment.outputNext output)
    (exited : output.isExited = true → SawExit past attachment.output) :
    (forwardLocalOutput attachment output).All (browserAct actorEmail) past
      (browserPost actorEmail) := by
  rw [forwardLocalOutput, Program.all_bind]
  refine all_of_settled (Q := fun _ => True) (by simp) (fun touched _ htouched _ => ?_)
  have touching := forwards.later htouched
  rw [Program.all_bind]
  refine all_of_settled (Q := fun _ => True) ?_ (fun noted _ hnoted _ => ?_)
  · rw [runIf, Program.each_ite]
    refine ⟨fun h => ?_, fun _ => by simp⟩
    exact ⟨⟨rfl, ⟨_, _, touching.attached⟩, _, _, touching.attached,
      (exited h).later htouched.isPrefix⟩, fun _ => trivial⟩
  · rw [Program.all_bind]
    refine all_of_settled (each_noteStreamError attachment output)
      (fun ready noted' hready hsame => ?_)
    obtain ⟨hactor, hid, hpty, houtput, hnext⟩ := hsame
    have hforwards : Forwards actorEmail ready noted'.sessionId (.local noted'.pty)
        noted'.output noted'.outputNext output := by
      rw [hid, hpty, houtput, hnext]
      exact (touching.later hnoted).later hready
    have hactor' := hactor.trans actor
    rw [Program.all_bind]
    refine ⟨hforwards.owes.act, fun ok => ?_⟩
    rw [Program.all_done, Program.all_ite]
    have watching := hforwards.sent ok
    refine ⟨fun _ => all_detachAndLeave hactor' watching.attached, fun _ => ?_⟩
    rw [Program.all_ite]
    exact ⟨fun _ => all_leaveLocalSession hactor' watching.attached,
      fun _ => post_localAttached hactor' watching⟩

private theorem all_localAttachedLoop {config : TerminalSessionConfig}
    {attachment : LocalAttachment} (actor : attachment.actorEmail = actorEmail)
    (watching : Watching actorEmail past attachment.sessionId (.local attachment.pty)
      attachment.output attachment.outputNext) :
    (localAttachedLoop config attachment).All (browserAct actorEmail) past
      (browserPost actorEmail) := by
  rw [localAttachedLoop, Program.all_bind]
  refine ⟨⟨watching.cursor, _, _, watching.attached⟩, fun wake => ?_⟩
  rw [Program.all_done]
  have woken := watching.attached.later (List.prefix_append past
    [⟨.terminal (.selectAttached attachment.output attachment.outputNext true), wake⟩])
  match wake with
  | .output .lagged next => exact post_localAttached actor (watching_lagged true watching)
  | .output .closed next => exact all_leaveLocalSession actor woken
  | .output (.value output) next =>
    refine all_forwardLocalOutput actor (forwards_value true output watching) (fun hexited => ?_)
    cases output with
    | exited sessionId exit =>
      exact ⟨attachment.outputNext, true, sessionId, exit, next, by simp [Did]⟩
    | _ => cases hexited
  | .incoming none => exact all_detachAndLeave actor woken
  | .incoming (some message) =>
    have received : ReceivedFrame (past ++ [⟨.terminal (.selectAttached attachment.output
        attachment.outputNext true), .incoming (some message)⟩]) message :=
      Or.inl ⟨attachment.output, attachment.outputNext, true, by simp [Did]⟩
    have incoming := watching_incoming true watching (some message)
    dsimp only
    rw [Program.all_bind, actor]
    refine all_of_settled (Q := fun _ => True) (by simp) (fun touched _ htouched _ => ?_)
    rw [Program.all_bind]
    refine all_of_settled (each_handleClientFrame (incoming.attached.later htouched.isPrefix)
      (received.later htouched.isPrefix)) (fun last goesOn hlast _ => ?_)
    have hlater := incoming.later (htouched.trans hlast)
    rw [Program.all_ite]
    exact ⟨fun _ => post_localAttached actor hlater,
      fun _ => all_leaveLocalSession actor hlater.attached⟩
  | .idleCheck =>
    have checking := watching_idleCheck true watching
    dsimp only
    rw [Program.all_bind]
    refine all_settled_then rfl trivial (fun idle later hlater hidle => ?_)
    rw [Program.all_done, Program.all_ite]
    have hchecking := checking.later hlater
    refine ⟨fun h => all_expireLocalSession actor hchecking.attached
      (Or.inl ⟨config.idleTimeout, ?_⟩), fun _ => ?_⟩
    · rwa [h] at hidle
    · rw [Program.all_bind]
      refine all_settled_then rfl trivial (fun exceeded last hlast hexceeded => ?_)
      rw [Program.all_done, Program.all_ite]
      have hlasting := hchecking.later hlast
      refine ⟨fun h => all_expireLocalSession actor hlasting.attached
        (Or.inr ⟨config.maxDuration, ?_⟩), fun _ => post_localAttached actor hlasting⟩
      rwa [h] at hexceeded

private theorem not_did_append {action other : Action} {reply : Reply action}
    {given : Reply other} (h : ¬Did past action reply) (hne : other ≠ action) :
    ¬Did (past ++ [⟨other, given⟩]) action reply := by
  intro hd
  rcases List.mem_append.mp hd with hd | hd
  · exact h hd
  · rw [List.mem_singleton] at hd
    exact hne (congrArg Interaction.action hd).symm

private theorem Fresh.no_reader (h : Fresh past) (pty : Nat) (sessionId : TerminalSessionId)
    (output : Nat) (reply : Unit) :
    ¬Did past (.host (.spawnReader pty sessionId output)) reply := by
  intro hd
  cases h _ hd

private theorem all_startLocalTerminal {sessionId : TerminalSessionId}
    {size : ProtocolTerminalSize} {pty output : Nat}
    (opened : Opened past sessionId (.local pty) output) (quiet : shown past = due past)
    (noReader : ∀ pty sessionId output reply,
      ¬Did past (.host (.spawnReader pty sessionId output)) reply) :
    (startLocalTerminal actorEmail sessionId size pty output).All (browserAct actorEmail) past
      (browserPost actorEmail) := by
  rw [startLocalTerminal, Program.all_bind]
  refine all_settled_then rfl trivial (fun token asked hasked _ => ?_)
  have hopened := opened.later hasked.isPrefix
  rw [Program.all_done, Program.all_bind]
  refine all_settled_then rfl ⟨Or.inl hopened.named, nofun⟩ (fun sent told htold hsent => ?_)
  have htelling := hopened.later htold.isPrefix
  rw [Program.all_done, Program.all_ite]
  refine ⟨fun hfailed => all_of_settled (Q := fun next => next = none) ?_ (by simp),
    fun _ => ?_⟩
  · have unsent : sent = false := by simpa using hfailed
    have lost : StartedLost told sessionId := ⟨none, size, token, none, unsent ▸ hsent⟩
    simp only [Program.each_bind, each_record]
    exact ⟨⟨rfl, Or.inr ⟨sessionId, output, Or.inl htelling, Or.inl lost⟩⟩, by simp⟩
  · have entered : ∃ backend output, Attached told actorEmail sessionId backend output :=
      ⟨_, _, Or.inl htelling⟩
    rw [Program.all_bind]
    refine all_of_settled (Q := fun _ => True) (by simp) (fun noted _ hnoted _ => ?_)
    rw [Program.all_bind]
    refine all_settled_then rfl ⟨entered.imp (fun _ => .imp (fun _ h => h.later hnoted.isPrefix)),
      trivial⟩ (fun _ active hactive _ => ?_)
    have settled := ((hasked.trans htold).trans hnoted).trans hactive
    have hactivated := opened.later settled.isPrefix
    rw [Program.all_done, Program.all_bind]
    refine all_call_then ⟨_, _, hactivated⟩ (fun next subscribed heq hsubscribed => ?_)
    have hready : Opened subscribed sessionId (.local pty) output :=
      hactivated.later (heq ▸ List.prefix_append ..)
    rw [Program.all_done, Program.all_bind]
    refine all_call_then ⟨hready, fun p s o r hd => ?_⟩ (fun _ reading heq' _ => ?_)
    · rw [heq] at hd
      exact not_did_append (fun hd => noReader p s o r (settled.did rfl hd)) (by simp) hd
    · rw [Program.all_done]
      refine post_localAttached rfl ⟨Or.inl (hready.later (heq' ▸ List.prefix_append ..)), ?_, ?_⟩
      · rw [heq', cursor_append_one, heq, cursor_append_one]
        rfl
      · simp only [heq', heq, shown_append, due_append, settled.shown_eq, settled.due_eq, quiet]
        rfl

private theorem all_trackLocalTerminal {config : TerminalSessionConfig}
    {sessionId : TerminalSessionId} {size : ProtocolTerminalSize} {pty : Nat}
    (issued : Did past (.host .nextSessionId) sessionId) (fresh : Fresh past)
    (hasPty : ∃ size, Did past (.terminal (.spawnDefaultShell size)) (.ok pty)) :
    (trackLocalTerminal config actorEmail sessionId size pty).All (browserAct actorEmail) past
      (browserPost actorEmail) := by
  rw [trackLocalTerminal, Program.all_bind]
  refine all_call_then ⟨rfl, issued, fresh, rfl, hasPty⟩ (fun inserted tracked heq hdid => ?_)
  rw [Program.all_done]
  have hissued : Did tracked (.host .nextSessionId) sessionId :=
    issued.later (heq ▸ List.prefix_append ..)
  cases inserted with
  | error error =>
    refine all_of_settled (Q := fun next => next = none) ?_ (by simp)
    have refused : InsertRefused tracked sessionId (.local pty) := ⟨_, error, hdid, rfl, rfl⟩
    have named : Named tracked sessionId := Or.inl hissued
    simp only [Program.each_bind, each_record]
    exact ⟨⟨rfl, Or.inl ⟨sessionId, refused⟩⟩, by simp [named]⟩
  | ok output =>
    refine all_startLocalTerminal ⟨hissued, _, hdid, rfl, rfl⟩ ?_ (fun p s o r => ?_)
    · simp only [heq, shown_append, due_append, fresh.shown_eq, fresh.due_eq]
      rfl
    · rw [heq]
      exact not_did_append (fresh.no_reader p s o r) (by simp)

private theorem all_openLocalTerminal {config : TerminalSessionConfig}
    {sessionId : TerminalSessionId} {size : ProtocolTerminalSize}
    (issued : Did past (.host .nextSessionId) sessionId) (fresh : Fresh past) :
    (openLocalTerminal config actorEmail sessionId size).All (browserAct actorEmail) past
      (browserPost actorEmail) := by
  rw [openLocalTerminal, Program.all_bind]
  refine all_settled_then rfl trivial (fun spawned later hlater hspawned => ?_)
  rw [Program.all_done]
  have hissued := issued.later hlater.isPrefix
  cases spawned with
  | error error =>
    have named : Named later sessionId := Or.inl hissued
    exact all_of_settled (Q := fun next => next = none) (by simp [named]) (by simp)
  | ok pty => exact all_trackLocalTerminal hissued (hlater.fresh fresh) ⟨_, hspawned⟩

/-! Remote sessions. -/

private theorem each_forwardCommand {commands : Nat} {active : TerminalSessionId}
    {command : AgentTerminalCommand} (named : Named past active)
    (cause : commandCause past actorEmail commands command) :
    (forwardCommand commands active command).Each (Settled actorEmail past)
      (fun _ => True) := by
  simp [forwardCommand, cause, named]

private theorem settled_of_lookup (action : Action) (h : Lookup action) :
    Settled actorEmail past action := by
  unfold Lookup isLookup at h
  split at h <;> first | exact ⟨rfl, trivial⟩ | cases h

private theorem each_terminateRemoteTerminal {commands output : Nat}
    {named sessionId : TerminalSessionId}
    (attached : Attached past actorEmail sessionId (.remote commands) output)
    (asked : named = sessionId → AskedToEnd past sessionId) :
    (terminateRemoteTerminal actorEmail commands named sessionId).Each
      (Settled actorEmail past) (fun _ => True) := by
  rw [terminateRemoteTerminal, Program.each_bind]
  refine each_sessionIdMatches attached.named (fun hnamed => ?_) (by simp)
  have cause := asked hnamed
  subst hnamed
  have entered : ∃ backend output, Attached past actorEmail named backend output :=
    ⟨_, _, attached⟩
  have command : commandCause past actorEmail commands (.closeTerminal named) :=
    Or.inl ⟨_, attached⟩
  simp only [Bool.not_true, Bool.false_eq_true, if_false, Program.each_bind]
  refine ((lookup_authorizeSessionTerminate actorEmail named).imp settled_of_lookup).mono ?_
  intro allowed _
  simp [entered, stateCause, cause, command, attached.named]

private theorem each_handleRemoteClientFrame {commands output : Nat}
    {sessionId : TerminalSessionId} {message : WebSocketMessage}
    (attached : Attached past actorEmail sessionId (.remote commands) output)
    (received : ReceivedFrame past message) :
    (handleRemoteClientFrame actorEmail commands sessionId message).Each
      (Settled actorEmail past) (fun _ => True) := by
  have entered : ∃ backend output, Attached past actorEmail sessionId backend output :=
    ⟨_, _, attached⟩
  have named := attached.named
  rw [handleRemoteClientFrame]
  cases message with
  | text parsed =>
    cases parsed with
    | error text => simp [parseClientMessage, named]
    | ok message =>
      cases message with
      | close id =>
        exact each_terminateRemoteTerminal attached (fun hid => Or.inl (hid ▸ received))
      | terminate id =>
        exact each_terminateRemoteTerminal attached (fun hid => Or.inr (hid ▸ received))
      | input id data =>
        simp only [parseClientMessage, Program.each_bind]
        refine each_sessionIdMatches named (fun hid => ?_) (by simp)
        subst hid
        exact each_forwardCommand named ⟨_, attached⟩
      | resize id size =>
        simp only [parseClientMessage, Program.each_bind]
        refine each_sessionIdMatches named (fun hid => ?_) (by simp)
        subst hid
        exact each_forwardCommand named ⟨_, attached⟩
      | detach id =>
        simp only [parseClientMessage, Program.each_bind]
        refine each_sessionIdMatches named (fun hid => ?_) (by simp)
        subst hid
        simp [entered, stateCause, named]
      | reattach id token =>
        simp only [parseClientMessage, Program.each_bind]
        refine each_sessionIdMatches named (fun hid => ?_) (by simp)
        subst hid
        simp [named]
      | _ => simp [parseClientMessage, named]
  | _ => simp [parseClientMessage, named]

private theorem each_releaseOpening {opening : RemoteOpening}
    (opened : Opened past opening.sessionId (.remote opening.connection.channel)
      opening.output) :
    (releaseOpening opening).Each (Settled actorEmail past) (fun next => next = none) := by
  have holds : ∃ sessionId output,
      Opened past sessionId (.remote opening.connection.channel) output := ⟨_, _, opened⟩
  simp [releaseOpening, holds]

private theorem all_leaveRemoteSession {opening : RemoteOpening}
    (opened : Opened past opening.sessionId (.remote opening.connection.channel)
      opening.output) :
    (leaveRemoteSession opening).All (browserAct actorEmail) past (browserPost actorEmail) := by
  rw [leaveRemoteSession, Program.all_bind]
  refine all_settled_then rfl trivial (fun state later hlater hstate => ?_)
  have hopened := opened.later hlater.isPrefix
  rw [Program.all_done, Program.all_ite]
  refine ⟨fun _ => all_of_settled (each_releaseOpening hopened) (fun _ _ _ h => by simp [h]),
    fun hdetached => all_of_settled (Q := fun next => next = none) ?_
      (fun _ _ _ h => by simp [h])⟩
  have left : LeftLoop later opening.sessionId := ⟨state, hdetached, hstate⟩
  have entered : ∃ channel output, Opened later opening.sessionId (.remote channel) output :=
    ⟨_, _, hopened⟩
  have command : commandCause later actorEmail opening.connection.channel
      (.closeTerminal opening.sessionId) := Or.inl ⟨_, Or.inl hopened⟩
  have release : (releaseOpening opening).Each (Settled actorEmail later)
      (fun next => next = none) := each_releaseOpening hopened
  simp [runIf, left, entered, command, release]

private theorem all_agentEventToBrowserMessage {channel : Nat} {event : AgentTerminalEvent}
    {nodeId : NodeId} {status : Option Sunbolt.Protocol.TerminalTransportStatus}
    (took : Took past channel event) (quiet : shown past = due past) :
    (agentEventToBrowserMessage event nodeId status).All (browserAct actorEmail) past
      (fun later message => past <+: later ∧ eventMessage later message event ∧
        Owes later message) := by
  have source : Named past event.sessionId ∨ (∃ channel other, Took past channel other ∧
      other.sessionId = event.sessionId) ∨ False := Or.inr (Or.inl ⟨channel, event, took, rfl⟩)
  cases event with
  | terminalStarted sessionId size =>
    refine ⟨List.prefix_refl _, ⟨_, _, rfl⟩, by simpa using quiet, ?_⟩
    exact Or.inr (Or.inl ⟨channel, _, took, rfl⟩)
  | terminalExited sessionId exit =>
    refine ⟨List.prefix_refl _, rfl, by simpa using quiet, ?_⟩
    exact Or.inr (Or.inl ⟨channel, _, took, rfl⟩)
  | terminalError sessionId error =>
    refine ⟨List.prefix_refl _, rfl, by simpa using quiet, ?_⟩
    exact Or.inr (Or.inl ⟨channel, _, took, rfl⟩)
  | terminalOutput sessionId data =>
    rw [agentEventToBrowserMessage, Program.all_bind]
    refine all_call_then ⟨channel, took⟩ (fun recorded later heq hdid => ?_)
    refine ⟨heq ▸ List.prefix_append .., ⟨recorded, hdid, rfl⟩, ?_, ?_⟩
    · simpa [heq, shown, due, shownBy, streamOf] using quiet
    · exact messageSource_of_stream ⟨_, hdid, by simp [streamOf]⟩

private theorem each_markOpened {opening : RemoteOpening}
    (opened : Opened past opening.sessionId (.remote opening.connection.channel)
      opening.output) :
    (markOpened opening).Each (Settled actorEmail past) (fun _ => True) := by
  have entered : ∃ backend output, Attached past actorEmail opening.sessionId backend output :=
    ⟨_, _, Or.inl opened⟩
  simp [markOpened, entered, stateCause]

private theorem post_remoteOpened {opening : RemoteOpening}
    (actor : opening.actorEmail = actorEmail)
    (opened : Opened past opening.sessionId (.remote opening.connection.channel)
      opening.output) (quiet : shown past = due past) :
    browserPost actorEmail past (some (.remoteOpened opening)) := by
  simp [browserHead, actor, opened, quiet]

private theorem all_detachAndLeaveRemote {opening : RemoteOpening}
    (actor : opening.actorEmail = actorEmail)
    (opened : Opened past opening.sessionId (.remote opening.connection.channel)
      opening.output) :
    (do
      detachDisconnected opening.actorEmail opening.sessionId
      leaveRemoteSession opening).All (browserAct actorEmail) past (browserPost actorEmail) := by
  rw [Program.all_bind, actor]
  exact all_of_settled (each_detachDisconnected ⟨_, _, Or.inl opened⟩)
    (fun later _ hlater _ => all_leaveRemoteSession (opened.later hlater.isPrefix))

private theorem all_handleAgentEvent {opening : RemoteOpening} {event : AgentTerminalEvent}
    (actor : opening.actorEmail = actorEmail)
    (opened : Opened past opening.sessionId (.remote opening.connection.channel)
      opening.output)
    (took : Took past opening.connection.channel event) (quiet : shown past = due past) :
    (handleAgentEvent opening event).All (browserAct actorEmail) past
      (browserPost actorEmail) := by
  rw [handleAgentEvent, Program.all_bind]
  refine (all_agentEventToBrowserMessage took quiet).mono ?_
  rintro became message ⟨hbecame, hmessage, howes⟩
  have hopened := opened.later hbecame
  have htook := Did.later hbecame took
  rw [Program.all_bind]
  refine all_of_settled (Q := fun _ => True) ?_ (fun marked _ hmarked _ => ?_)
  · rw [runIf, Program.each_ite]
    exact ⟨fun _ => each_markOpened hopened, fun _ => trivial⟩
  · dsimp only
    have htaken := Did.later hmarked.isPrefix htook
    have hrelayed := hmessage.later hmarked.isPrefix
    rw [Program.all_bind]
    refine all_of_settled (Q := fun _ => True) ?_ (fun kept _ hkept _ => ?_)
    · rw [runIf, Program.each_ite]
      refine ⟨fun hout =>
          ⟨⟨rfl, by simpa using hout, _, event, htaken, hrelayed⟩, fun _ => trivial⟩,
        fun _ => trivial⟩
    · have hkeeping := hopened.later (hmarked.trans hkept).isPrefix
      rw [Program.all_bind]
      refine all_settled_then rfl ⟨_, _, event, hkeeping, Did.later hkept.isPrefix htaken,
        hrelayed.later hkept.isPrefix⟩ (fun _ spread hspread _ => ?_)
      have hspreading := hkeeping.later hspread.isPrefix
      have owing := howes.later ((hmarked.trans hkept).trans hspread)
      rw [Program.all_done, Program.all_bind]
      refine ⟨owing.act, fun ok => ?_⟩
      have hsent := hspreading.later (List.prefix_append spread [⟨.host (.send message), ok⟩])
      rw [Program.all_done, Program.all_ite]
      constructor
      · intro _
        rw [Program.all_bind, actor]
        exact all_of_settled (each_detachDisconnected ⟨_, _, Or.inl hsent⟩)
          (fun later _ hlater _ => all_leaveRemoteSession (hsent.later hlater.isPrefix))
      intro _
      rw [Program.all_ite]
      refine ⟨fun _ => ?_, fun _ => post_remoteOpened actor hsent (owing.sent ok)⟩
      rw [Program.all_bind]
      refine all_settled_then rfl (Or.inr ⟨_, _, Or.inl hsent⟩) (fun _ last hlast _ => ?_)
      exact all_leaveRemoteSession (hsent.later hlast.isPrefix)

private theorem all_remoteOpenedLoop {opening : RemoteOpening}
    (actor : opening.actorEmail = actorEmail)
    (opened : Opened past opening.sessionId (.remote opening.connection.channel)
      opening.output) (quiet : shown past = due past) :
    (remoteOpenedLoop opening).All (browserAct actorEmail) past (browserPost actorEmail) := by
  rw [remoteOpenedLoop, Program.all_bind]
  refine all_settled_then rfl ⟨_, _, opened⟩ (fun wake later hlater hwake => ?_)
  have hopened := opened.later hlater.isPrefix
  have hquiet : shown later = due later := by rw [hlater.shown_eq, hlater.due_eq, quiet]
  rw [Program.all_done]
  match wake with
  | .event none =>
    dsimp only
    rw [Program.all_bind]
    exact all_of_settled (Q := fun _ => True) (by simp [hopened.named])
      (fun last _ hlast _ => all_leaveRemoteSession (hopened.later hlast.isPrefix))
  | .event (some event) => exact all_handleAgentEvent actor hopened hwake hquiet
  | .incoming none => exact all_detachAndLeaveRemote actor hopened
  | .incoming (some message) =>
    have received : ReceivedFrame later message := Or.inr ⟨_, hwake⟩
    dsimp only
    rw [Program.all_bind, actor]
    refine all_of_settled (each_handleRemoteClientFrame (Or.inl hopened) received)
      (fun last goesOn hlast _ => ?_)
    have hlasting := hopened.later hlast.isPrefix
    rw [Program.all_ite]
    refine ⟨fun _ => post_remoteOpened actor hlasting ?_, fun _ => all_leaveRemoteSession hlasting⟩
    rw [hlast.shown_eq, hlast.due_eq, hquiet]

private theorem post_remoteAttached {attachment : RemoteAttachment}
    (actor : attachment.actorEmail = actorEmail)
    (watching : Watching actorEmail past attachment.sessionId (.remote attachment.commands)
      attachment.output attachment.outputNext) :
    browserPost actorEmail past (some (.remoteAttached attachment)) := by
  simp [browserHead, actor, watching]

private theorem all_detachRemote {sessionId : TerminalSessionId}
    (entered : ∃ backend output, Attached past actorEmail sessionId backend output) :
    (do
      detachDisconnected actorEmail sessionId
      return none : Handler (Option Stage)).All (browserAct actorEmail) past
      (browserPost actorEmail) := by
  rw [Program.all_bind]
  exact all_of_settled (each_detachDisconnected entered) (by simp)

private theorem all_remoteAttachedLoop {attachment : RemoteAttachment}
    (actor : attachment.actorEmail = actorEmail)
    (watching : Watching actorEmail past attachment.sessionId (.remote attachment.commands)
      attachment.output attachment.outputNext) :
    (remoteAttachedLoop attachment).All (browserAct actorEmail) past
      (browserPost actorEmail) := by
  rw [remoteAttachedLoop, Program.all_bind]
  refine ⟨⟨watching.cursor, _, _, watching.attached⟩, fun wake => ?_⟩
  rw [Program.all_done]
  have woken := watching.attached.later (List.prefix_append past
    [⟨.terminal (.selectAttached attachment.output attachment.outputNext false), wake⟩])
  match wake with
  | .output .lagged next => exact post_remoteAttached actor (watching_lagged false watching)
  | .output .closed next => simp
  | .output (.value output) next =>
    dsimp only
    rw [Program.all_bind]
    refine all_of_settled (Q := fun _ => True) (by simp) (fun touched _ htouched _ => ?_)
    have touching := (forwards_value false output watching).later htouched
    rw [Program.all_bind]
    refine ⟨touching.owes.act, fun ok => ?_⟩
    have hsent := touching.sent ok
    rw [Program.all_done, Program.all_ite, actor]
    refine ⟨fun _ => all_detachRemote ⟨_, _, hsent.attached⟩, fun _ => ?_⟩
    rw [Program.all_ite]
    refine ⟨fun _ => ?_, fun _ => post_remoteAttached rfl hsent⟩
    have owned : ∃ channel output, Attached _ actorEmail attachment.sessionId
      (.remote channel) output := ⟨_, _, hsent.attached⟩
    exact all_of_settled (Q := fun next => next = none) (by simp [owned]) (by simp)
  | .incoming none =>
    dsimp only
    rw [actor]
    exact all_detachRemote ⟨_, _, woken⟩
  | .incoming (some message) =>
    have received : ReceivedFrame (past ++ [⟨.terminal (.selectAttached attachment.output
        attachment.outputNext false), .incoming (some message)⟩]) message :=
      Or.inl ⟨attachment.output, attachment.outputNext, false, by simp [Did]⟩
    have incoming := watching_incoming false watching (some message)
    dsimp only
    rw [Program.all_bind, actor]
    refine all_of_settled (Q := fun _ => True) (by simp) (fun touched _ htouched _ => ?_)
    rw [Program.all_bind]
    refine all_of_settled (each_handleRemoteClientFrame
      (incoming.attached.later htouched.isPrefix) (received.later htouched.isPrefix))
      (fun last goesOn hlast _ => ?_)
    have hlater := incoming.later (htouched.trans hlast)
    rw [Program.all_ite]
    exact ⟨fun _ => post_remoteAttached actor hlater, fun _ => by simp⟩
  | .idleCheck => exact post_remoteAttached actor (watching_idleCheck false watching)

private theorem all_trackRemoteTerminal {config : TerminalSessionConfig} {nodeId : NodeId}
    {sessionId : TerminalSessionId} {size : ProtocolTerminalSize} {route : NodeRoute}
    {connection : RegisteredAgentConnection}
    (issued : Did past (.host .nextSessionId) sessionId) (fresh : Fresh past)
    (connected : Did past (.agent (.connection nodeId.val)) (some connection)) :
    (trackRemoteTerminal config actorEmail nodeId sessionId size route connection).All
      (browserAct actorEmail) past (browserPost actorEmail) := by
  rw [trackRemoteTerminal, Program.all_bind]
  refine all_call_then ⟨rfl, issued, fresh, _, _, rfl, connected, rfl⟩
    (fun inserted tracked heq hdid => ?_)
  rw [Program.all_done]
  have hissued : Did tracked (.host .nextSessionId) sessionId :=
    issued.later (heq ▸ List.prefix_append ..)
  cases inserted with
  | error error =>
    have refused : commandCause tracked actorEmail connection.channel
        (.closeTerminal sessionId) := Or.inr ⟨_, error, hdid, rfl, rfl⟩
    have named : Named tracked sessionId := Or.inl hissued
    exact all_of_settled (Q := fun next => next = none) (by simp [refused, named]) (by simp)
  | ok output =>
    have opened : Opened tracked sessionId (.remote connection.channel) output :=
      ⟨hissued, _, hdid, rfl, rfl⟩
    have holds : ∃ sessionId output, Opened tracked sessionId (.remote connection.channel)
        output := ⟨_, _, opened⟩
    refine all_of_settled (Q := fun next => next = some (.remoteOpened ⟨actorEmail, sessionId,
      nodeId, connection, output, false, false⟩)) (by simp [holds]) ?_
    rintro later next hlater rfl
    refine post_remoteOpened rfl (opened.later hlater.isPrefix) ?_
    rw [hlater.shown_eq, hlater.due_eq, heq]
    simp only [shown_append, due_append, fresh.shown_eq, fresh.due_eq]
    rfl

private theorem all_startRemoteTerminal {config : TerminalSessionConfig} {nodeId : NodeId}
    {sessionId : TerminalSessionId} {size : ProtocolTerminalSize} {route : NodeRoute}
    (issued : Did past (.host .nextSessionId) sessionId) (fresh : Fresh past) :
    (startRemoteTerminal config actorEmail nodeId sessionId size route).All
      (browserAct actorEmail) past (browserPost actorEmail) := by
  rw [startRemoteTerminal, Program.all_bind]
  refine all_settled_then rfl trivial (fun connection asked hasked hconnection => ?_)
  have hissued := issued.later hasked.isPrefix
  rw [Program.all_done]
  cases connection with
  | none =>
    have named : Named asked sessionId := Or.inl hissued
    exact all_of_settled (Q := fun next => next = none) (by simp [named, recordRouteFailed])
      (by simp)
  | some connection =>
    dsimp only
    rw [Program.all_bind]
    refine all_settled_then rfl hissued (fun sent told htold hsent => ?_)
    have htelling := hissued.later htold.isPrefix
    rw [Program.all_done, Program.all_ite]
    refine ⟨fun hfailed => all_of_settled (Q := fun next => next = none) ?_ (by simp),
      fun _ => all_trackRemoteTerminal htelling (htold.fresh (hasked.fresh fresh))
        (hconnection.later htold.isPrefix)⟩
    have unsent : sent = false := by simpa using hfailed
    have named : Named told sessionId := Or.inl htelling
    have dropped : ∃ connection,
        Did told (.agent (.connection nodeId.val)) (some connection) ∧ ∃ sessionId size,
        Did told (.agent (.sendCommand connection.channel (.startTerminal sessionId size)))
          false :=
      ⟨connection, hconnection.later htold.isPrefix, _, _, unsent ▸ hsent⟩
    simp [dropped, named, recordRouteFailed]

private theorem all_openRemoteTerminal {config : TerminalSessionConfig} {nodeId : NodeId}
    {sessionId : TerminalSessionId} {size : ProtocolTerminalSize}
    (issued : Did past (.host .nextSessionId) sessionId) (fresh : Fresh past) :
    (openRemoteTerminal config actorEmail nodeId sessionId size).All (browserAct actorEmail)
      past (browserPost actorEmail) := by
  have refuse : ∀ {later : Past}, Settles past later → Named later sessionId :=
    fun h => Or.inl (issued.later h.isPrefix)
  rw [openRemoteTerminal, Program.all_bind]
  refine all_settled_then rfl trivial (fun allowed asked hasked _ => ?_)
  rw [Program.all_done, Program.all_ite]
  refine ⟨fun _ => all_of_settled (Q := fun next => next = none) (by simp [refuse hasked])
    (by simp), fun _ => ?_⟩
  rw [Program.all_bind]
  refine all_settled_then rfl trivial (fun online checked hchecked _ => ?_)
  have hcheck := hasked.trans hchecked
  rw [Program.all_done, Program.all_ite]
  refine ⟨fun _ => all_of_settled (Q := fun next => next = none) (by simp [refuse hcheck])
    (by simp), fun _ => ?_⟩
  rw [Program.all_bind]
  refine all_settled_then rfl trivial (fun connection found hfound _ => ?_)
  rw [Program.all_done, Program.all_bind]
  refine all_settled_then rfl trivial (fun relays listed hlisted _ => ?_)
  rw [Program.all_done, Program.all_bind]
  refine all_settled_then rfl trivial (fun route routed hrouted _ => ?_)
  have hroute := ((hcheck.trans hfound).trans hlisted).trans hrouted
  rw [Program.all_done]
  match route with
  | none =>
    exact all_of_settled (Q := fun next => next = none)
      (by simp [refuse hroute, recordRouteFailed]) (by simp)
  | some (.relayNode target relay) =>
    exact all_of_settled (Q := fun next => next = none)
      (by simp [refuse hroute, recordRouteSelected, recordRouteFailed]) (by simp)
  | some (.directAgent target) =>
    dsimp only
    rw [Program.all_bind]
    refine all_of_settled (Q := fun _ => True) (by simp [recordRouteSelected])
      (fun selected _ hselected _ => ?_)
    have hselect := hroute.trans hselected
    exact all_startRemoteTerminal (issued.later hselect.isPrefix) (hselect.fresh fresh)

/-! Reattaching. -/

private theorem each_terminalMissingOrExpiredCode (sessionId : TerminalSessionId) :
    (terminalMissingOrExpiredCode sessionId).Each (Settled actorEmail past)
      (fun _ => True) := by
  simp only [terminalMissingOrExpiredCode, terminal, Program.perform, Program.each_bind,
    Program.each_call, Program.each_done]
  refine ⟨⟨rfl, trivial⟩, fun state => ?_⟩
  split <;> simp

private theorem shown_send (message : TerminalServerMessage) (ok : Bool) :
    shown [⟨.host (.send message), ok⟩] = [message].filter (·.isOutput) := by
  rw [shown, List.flatMap_singleton]
  rfl

private theorem due_send (message : TerminalServerMessage) (ok : Bool) :
    due [⟨.host (.send message), ok⟩] = [] := rfl

/-- While it replays, a task still owes its browser the rest of the replay. -/
private theorem all_sendReplay {rest : List TerminalServerMessage}
    {Post : Past → Unit → Prop}
    (owed : shown past ++ rest.filter (·.isOutput) = due past)
    (source : ∀ message ∈ rest, ∃ x ∈ past, message ∈ streamOf x)
    (post : ∀ later, past <+: later → shown later = due later → cursor later = cursor past →
      Post later ()) :
    (sendReplay rest).All (browserAct actorEmail) past Post := by
  induction rest generalizing past with
  | nil => exact post past (List.prefix_refl _) (by simpa using owed) rfl
  | cons message rest ih =>
    have hsource := messageSource_of_stream (source message (List.mem_cons_self ..))
    rw [sendReplay, Program.all_bind, sendIgnored, Program.all_bind]
    refine ⟨⟨hsource, fun hout => ?_⟩, fun ok => ?_⟩
    · rw [List.filter_cons_of_pos hout] at owed
      exact ⟨_, by rw [← owed, List.append_assoc, List.singleton_append]⟩
    · refine ih ?_ (fun other hother => ?_) (fun later hlater hshown hcursor => ?_)
      · rw [shown_append, due_append, shown_send, due_send, List.append_nil, List.append_assoc,
          ← List.filter_append]
        exact owed
      · obtain ⟨x, hx, hmem⟩ := source other (List.mem_cons_of_mem _ hother)
        exact ⟨x, List.mem_append_left _ hx, hmem⟩
      · refine post later ((List.prefix_append ..).trans hlater) hshown (hcursor.trans ?_)
        rw [cursor_append_one]
        rfl

private theorem all_handleTerminalReattach {sessionId : TerminalSessionId}
    {token : TerminalReconnectToken} (asked : AskedToReattach past sessionId token)
    (fresh : Fresh past) :
    (handleTerminalReattach actorEmail sessionId token).All (browserAct actorEmail) past
      (browserPost actorEmail) := by
  have named : ∀ {later : Past}, past <+: later → Named later sessionId :=
    fun h => Or.inr ⟨token, Did.later h asked⟩
  rw [handleTerminalReattach, Program.all_bind]
  refine all_of_settled ((lookup_authorizeSessionReattach actorEmail sessionId).imp
    settled_of_lookup) (fun decided allowed hdecided _ => ?_)
  rw [Program.all_ite]
  refine ⟨fun _ => all_of_settled (Q := fun next => next = none)
    (by simp [named hdecided.isPrefix]) (by simp), fun _ => ?_⟩
  rw [Program.all_bind]
  refine all_call_then ⟨rfl, hdecided.fresh fresh, Did.later hdecided.isPrefix asked⟩
    (fun target reattached heq hdid => ?_)
  have hlonger : past <+: reattached := hdecided.isPrefix.trans (heq ▸ List.prefix_append ..)
  rw [Program.all_done]
  cases target with
  | none =>
    dsimp only
    rw [Program.all_bind]
    refine all_of_settled (each_terminalMissingOrExpiredCode sessionId)
      (fun later code hlater _ => ?_)
    exact all_of_settled (Q := fun next => next = none)
      (by simp [named (hlonger.trans hlater.isPrefix)]) (by simp)
  | some target =>
    have hfresh := hdecided.fresh fresh
    have hshown : shown reattached = [] := by
      rw [heq, shown_append, hfresh.shown_eq]
      rfl
    have hdue : due reattached = target.replay.filter (·.isOutput) := by
      rw [heq, due_append, hfresh.due_eq]
      simp [due, streamOf]
    dsimp only
    rw [Program.all_bind]
    refine all_of_settled (Q := fun _ => True) (by simp [named hlonger])
      (fun greeted _ hgreeted _ => ?_)
    rw [Program.all_bind]
    refine all_sendReplay ?_ ?_ (fun replayed hreplayed hcaught hcursor => ?_)
    · rw [hgreeted.shown_eq, hgreeted.due_eq, hshown, hdue, List.nil_append]
    · exact fun message hmessage => ⟨_, hgreeted.isPrefix.subset hdid, hmessage⟩
    · have hafter := hgreeted.isPrefix.trans hreplayed
      have attached : Reattached replayed actorEmail sessionId target.backend target.output :=
        ⟨token, target, Did.later (hlonger.trans hafter) asked, hdid.later hafter, rfl, rfl⟩
      have entered : ∃ backend output, Attached replayed actorEmail sessionId backend output :=
        ⟨_, _, Or.inr attached⟩
      have hwatch : Watching actorEmail replayed sessionId target.backend target.output
          target.outputNext := by
        refine ⟨Or.inr attached, hcursor.trans (hgreeted.cursor_eq.trans ?_), hcaught⟩
        rw [heq, cursor_append_one]
        rfl
      rw [Program.all_bind]
      refine all_settled_then rfl ⟨entered, trivial⟩ (fun _ active hactive _ => ?_)
      rw [Program.all_done, Program.all_bind]
      refine all_of_settled (Q := fun _ => True) (by simp) (fun noted _ hnoted _ => ?_)
      have hwatching := hwatch.later (hactive.trans hnoted)
      cases hbackend : target.backend with
      | «local» pty => exact post_localAttached rfl (hbackend ▸ hwatching)
      | remote commands => exact post_remoteAttached rfl (hbackend ▸ hwatching)

theorem text_of_parseClientMessage {message : WebSocketMessage}
    {parsed : TerminalClientMessage} (h : parseClientMessage message = .ok parsed) :
    message = .text (.ok parsed) := by
  cases message with
  | text result =>
    cases result with
    | ok given =>
      rw [parseClientMessage, Except.ok.injEq] at h
      rw [h]
    | error text => cases h
  | _ => cases h

theorem all_handleTerminalSocket (config : TerminalSessionConfig) (actorEmail : String) :
    (handleTerminalSocket config actorEmail).All (browserAct actorEmail) []
      (browserPost actorEmail) := by
  rw [handleTerminalSocket, Program.all_bind]
  refine all_settled_then rfl trivial (fun first received hreceived hdid => ?_)
  have hfresh := hreceived.fresh (fun _ h => absurd h List.not_mem_nil)
  rw [Program.all_done]
  cases first with
  | none => simp
  | some first =>
    dsimp only
    cases hparsed : parseClientMessage first with
    | error error => exact all_of_settled (Q := fun next => next = none) (by simp) (by simp)
    | ok message =>
      obtain rfl := text_of_parseClientMessage hparsed
      cases message with
      | reattach sessionId token => exact all_handleTerminalReattach hdid hfresh
      | start nodeId size =>
        dsimp only
        rw [Program.all_bind]
        refine all_settled_then rfl trivial (fun sessionId issued hissued hnext => ?_)
        rw [Program.all_done]
        cases nodeId with
        | none => exact all_openLocalTerminal hnext (hissued.fresh hfresh)
        | some nodeId => exact all_openRemoteTerminal hnext (hissued.fresh hfresh)
      | _ => exact all_of_settled (Q := fun next => next = none) (by simp) (by simp)

/-- Every body a browser task can be in keeps its order. -/
theorem all_browserBody (config : TerminalSessionConfig) {stage : Stage}
    (head : browserHead actorEmail past stage) :
    (body config stage).All (browserAct actorEmail) past (browserPost actorEmail) := by
  cases stage with
  | terminalSocket actor =>
    obtain ⟨rfl, rfl⟩ := head
    exact all_handleTerminalSocket config actor
  | localAttached attachment => exact all_localAttachedLoop head.1 head.2
  | remoteOpened opening => exact all_remoteOpenedLoop head.1 head.2.1 head.2.2
  | remoteAttached attachment => exact all_remoteAttachedLoop head.1 head.2
  | _ => cases head

end Browser

end Sunbolt.Control
