/- Module: Sunbolt/Control/LoopOrder
   scope: sunbolt-control/src/terminal/mod.rs
   digest: How a handler that ends a session leaves it, on each attach path. -/

import Sunbolt.Control.ServiceOrder

set_option autoImplicit false
set_option relaxedAutoImplicit false

namespace Sunbolt.Control

open Sunbolt.Library
open Sunbolt.Protocol (TerminalSessionId TerminalServerMessage AgentTerminalEvent NodeId)

/-- A call that sets out to end a session, or the answer that makes a handler do so. -/
def isEnding : Interaction Action Reply → Bool
  | ⟨.terminal (.setState _ .terminating), _⟩ => true
  | ⟨.terminal (.terminate _), _⟩ => true
  | ⟨.terminal (.remove _), _⟩ => true
  | ⟨.terminal (.isIdle ..), idle⟩ => idle
  | _ => false

/-- The calls that never set out to end a session and do not refresh one. -/
def isHarmless : Action → Bool
  | .terminal (.setState _ .terminating) => false
  | .terminal (.terminate _) => false
  | .terminal (.remove _) => false
  | .terminal (.isIdle ..) => false
  | .terminal (.touch _) => false
  | _ => true

def Harmless (action : Action) : Prop := isHarmless action = true

/-- The harmless calls that do not bring a session back to Active either. -/
def isStill : Action → Bool
  | .terminal (.setState _ .active) => false
  | action => isHarmless action

def Still (action : Action) : Prop := isStill action = true

/-- The task has ended nothing so far. -/
def Calm (past : Past) : Prop := ∀ x ∈ past, isEnding x = false

def marks (sessionId : TerminalSessionId) : Action → Bool
  | .terminal (.setState named .terminating) => named = sessionId
  | _ => false

/-- The ending calls of a handler on this session. -/
def endsOf (sessionId : TerminalSessionId) : Action → Bool
  | .terminal (.setState named .terminating) => named = sessionId
  | .terminal (.terminate named) => named = sessionId
  | .terminal (.remove named) => named = sessionId
  | .terminal (.isIdle named _) => named = sessionId
  | _ => false

/-- Every ending call so far is one of these. -/
def Only (allowed : Action → Bool) (past : Past) : Prop :=
  ∀ x ∈ past, isEnding x = true → allowed x.action = true

/-- The task has set the session to Terminating, where the lifecycle allows it. -/
def Marked (past : Past) (sessionId : TerminalSessionId) : Prop :=
  Did past (.terminal (.setState sessionId .terminating)) ()

/-- The task has taken the session out of the registry. -/
def TookOut (past : Past) (sessionId : TerminalSessionId) : Prop :=
  Did past (.terminal (.remove sessionId)) () ∨
    ∃ backend, Did past (.terminal (.terminate sessionId)) backend

/-- After it had set the session to Terminating the task found it Detached. -/
def FoundDetached (past : Past) (sessionId : TerminalSessionId) : Prop :=
  ∃ front back, past = front ++ ⟨.terminal (.state sessionId), some .detached⟩ :: back ∧
    Marked front sessionId

/-- The agent was told to close the terminal of the session. -/
def ToldAgent (past : Past) (channel : Nat) (sessionId : TerminalSessionId) : Prop :=
  ∃ sent, Did past (.agent (.sendCommand channel (.closeTerminal sessionId))) sent

/-- How a browser handler has left a session that it had set to Terminating. -/
inductive Leaves (past : Past) (actorEmail : String) (sessionId : TerminalSessionId) : Prop
  | «local» (pty output : Nat) (attached : Attached past actorEmail sessionId (.local pty) output)
      (gone : TookOut past sessionId ∨ FoundDetached past sessionId)
  | opened (channel output : Nat) (opened : Opened past sessionId (.remote channel) output)
      (told : ToldAgent past channel sessionId)
      (gone : TookOut past sessionId ∨ FoundDetached past sessionId)
  | reattached (channel output : Nat)
      (reattached : Reattached past actorEmail sessionId (.remote channel) output)
      (told : ToldAgent past channel sessionId) (kept : Only (marks sessionId) past)

/-- The handler may refresh the activity of the session: not the one that opened it remotely. -/
def MayTouch (past : Past) (actorEmail : String) (sessionId : TerminalSessionId) : Prop :=
  (∃ pty output, Attached past actorEmail sessionId (.local pty) output) ∨
    ∃ channel output, Reattached past actorEmail sessionId (.remote channel) output

def socketAct (actorEmail : String) (past : Past) : Action → Prop
  | .terminal (.setState _ .active) => Calm past
  | .terminal (.touch sessionId) => MayTouch past actorEmail sessionId
  | _ => True

/-- What holds of a browser handler that has returned. -/
structure SocketHalt (actorEmail : String) (past : Past) : Prop where
  leaves : ∀ sessionId, Marked past sessionId → Leaves past actorEmail sessionId
  idle : ∀ sessionId timeout, Did past (.terminal (.isIdle sessionId timeout)) true →
    Marked past sessionId

def loopAct : Stage → Past → Action → Prop
  | .terminalSocket actorEmail => socketAct actorEmail
  | _ => fun _ _ => True

/-- A browser handler goes round a loop as long as it has ended nothing. -/
def socketHead (actorEmail : String) (past : Past) : Stage → Prop
  | .remoteAttached attachment => Calm past ∧ Reattached past actorEmail attachment.sessionId
      (.remote attachment.commands) attachment.output
  | _ => Calm past

def loopHead : Stage → Stage → Past → Prop
  | .terminalSocket actorEmail, stage, past => socketHead actorEmail past stage
  | .terminateSession .., _, past => past = []
  | _, _, _ => True

def loopHalt : Stage → Past → Prop
  | .terminalSocket actorEmail, past => SocketHalt actorEmail past
  | .terminateSession _ sessionId, past => ∀ channel,
    Did past (.terminal (.terminate sessionId)) (some (.remote channel)) →
      ToldAgent past channel sessionId
  | _, _ => True

/-- How the handlers end. -/
def loopOrder : Discipline Action Reply Stage := ⟨loopAct, loopHead, loopHalt⟩

section Past

variable {past : Past} {sessionId : TerminalSessionId} {allowed : Action → Bool}

theorem isEnding_of_isHarmless {x : Interaction Action Reply} (h : isHarmless x.action = true) :
    isEnding x = false := by
  unfold isEnding
  split
  · cases h
  · cases h
  · cases h
  · cases h
  · rfl

theorem Calm.append {extra : Past} (h : Calm past)
    (quiet : ∀ x ∈ extra, isHarmless x.action = true) :
    Calm (past ++ extra) :=
  List.forall_mem_append.mpr ⟨h, fun x hx => isEnding_of_isHarmless (quiet x hx)⟩

theorem Calm.snoc {x : Interaction Action Reply} (h : Calm past) (quiet : isEnding x = false) :
    Calm (past ++ [x]) := by
  refine List.forall_mem_append.mpr ⟨h, fun y hy => ?_⟩
  rw [List.mem_singleton.mp hy]
  exact quiet

theorem Calm.only (h : Calm past) : Only allowed past := by
  intro x hx hends
  rw [h x hx] at hends
  cases hends

theorem Only.append {extra : Past} (h : Only allowed past)
    (quiet : ∀ x ∈ extra, isHarmless x.action = true) : Only allowed (past ++ extra) := by
  refine List.forall_mem_append.mpr ⟨h, fun x hx hends => ?_⟩
  rw [isEnding_of_isHarmless (quiet x hx)] at hends
  cases hends

theorem Only.snoc {x : Interaction Action Reply} (h : Only allowed past)
    (ok : isEnding x = true → allowed x.action = true) : Only allowed (past ++ [x]) := by
  refine List.forall_mem_append.mpr ⟨h, fun y hy => ?_⟩
  rw [List.mem_singleton.mp hy]
  exact ok

theorem Only.mono {more : Action → Bool} (h : Only allowed past)
    (himp : ∀ action, allowed action = true → more action = true) : Only more past :=
  fun x hx hends => himp _ (h x hx hends)

theorem endsOf_of_marks {action : Action} (h : marks sessionId action = true) :
    endsOf sessionId action = true := by
  unfold marks at h
  split at h
  · exact h
  · cases h

/-- The session that such a task has marked is the one it may. -/
theorem Only.marked (h : Only (endsOf sessionId) past) {named : TerminalSessionId}
    (marked : Marked past named) : named = sessionId := by
  have hallowed := h _ marked rfl
  simpa [endsOf] using hallowed

theorem Only.idle (h : Only (endsOf sessionId) past) {named : TerminalSessionId} {timeout : Nat}
    (idle : Did past (.terminal (.isIdle named timeout)) true) : named = sessionId := by
  have hallowed := h _ idle rfl
  simpa [endsOf] using hallowed

theorem Only.not_tookOut (h : Only (marks sessionId) past) {named : TerminalSessionId} :
    ¬TookOut past named := by
  rintro (hremoved | ⟨backend, hterminated⟩)
  · exact absurd (h _ hremoved rfl) (by simp [marks])
  · exact absurd (h _ hterminated rfl) (by simp [marks])

theorem Calm.not_marked (h : Calm past) {named : TerminalSessionId} : ¬Marked past named :=
  fun marked => by cases h _ marked

theorem Calm.not_idle (h : Calm past) {named : TerminalSessionId} {timeout : Nat} :
    ¬Did past (.terminal (.isIdle named timeout)) true :=
  fun idle => by cases h _ idle

theorem Calm.halt (h : Calm past) (actorEmail : String) : SocketHalt actorEmail past where
  leaves _ marked := absurd marked h.not_marked
  idle _ _ idle := absurd idle h.not_idle

/-- A removal without a mark, as when the shell has exited. -/
theorem Calm.halt_removed (h : Calm past) (actorEmail : String) (sessionId : TerminalSessionId) :
    SocketHalt actorEmail (past ++ [⟨.terminal (.remove sessionId), ()⟩]) where
  leaves named marked := by
    rcases List.mem_append.mp marked with hold | hnew
    · exact absurd hold h.not_marked
    · cases List.mem_singleton.mp hnew
  idle named timeout idle := by
    rcases List.mem_append.mp idle with hold | hnew
    · exact absurd hold h.not_idle
    · cases List.mem_singleton.mp hnew

/-- A task whose ending calls are all on one session. -/
theorem Only.halt {actorEmail : String} (h : Only (endsOf sessionId) past)
    (marked : Marked past sessionId) (leaves : Leaves past actorEmail sessionId) :
    SocketHalt actorEmail past where
  leaves _ hmarked := h.marked hmarked ▸ leaves
  idle _ _ hidle := h.idle hidle ▸ marked

end Past

def socketPost (actorEmail : String) (past : Past) : Option Stage → Prop
  | none => SocketHalt actorEmail past
  | some stage => socketHead actorEmail past stage

/-- The handler does not go on with the loop of a browser reattached to a remote session. -/
def Elsewhere (next : Option Stage) : Prop := ∀ attachment, next ≠ some (.remoteAttached attachment)

section Bodies

attribute [local simp] terminal agent node host Program.perform Harmless isHarmless Still isStill
  Elsewhere

variable {actorEmail : String} {past : Past}

theorem Calm.post (h : Calm past) {next : Option Stage} (elsewhere : Elsewhere next) :
    socketPost actorEmail past next := by
  cases next with
  | none => exact h.halt actorEmail
  | some stage =>
    cases stage with
    | remoteAttached attachment => exact absurd rfl (elsewhere attachment)
    | _ => exact h

private theorem socketAct_of_harmless (calm : Calm past) {action : Action}
    (quiet : Harmless action) :
    socketAct actorEmail past action := by
  unfold socketAct
  split
  · exact calm
  · cases quiet
  · trivial

private theorem harmless_of_still {action : Action} (still : Still action) : Harmless action := by
  unfold Still isStill at still
  split at still
  · cases still
  · exact still

private theorem socketAct_of_still {action : Action} (still : Still action) :
    socketAct actorEmail past action := by
  unfold socketAct
  split
  · cases still
  · cases still
  · trivial

/-- Harmless calls leave a calm task calm. -/
private theorem all_of_harmless {α : Type} {p : Handler α} {Q : α → Prop} {Post : Past → α → Prop}
    (calm : Calm past) (h : p.Each Harmless Q)
    (post : ∀ extra value, Calm (past ++ extra) → Q value → Post (past ++ extra) value) :
    p.All (socketAct actorEmail) past Post :=
  h.all (fun _ _ hextra haction => socketAct_of_harmless (calm.append hextra) haction)
    (fun extra value hextra hvalue => post extra value (calm.append hextra) hvalue)

/-- Still calls may follow anything. -/
private theorem all_of_still {α : Type} {p : Handler α} {Q : α → Prop} {Post : Past → α → Prop}
    (h : p.Each Still Q)
    (post : ∀ extra value, (∀ x ∈ extra, isHarmless x.action = true) → Q value →
      Post (past ++ extra) value) :
    p.All (socketAct actorEmail) past Post :=
  h.all (fun _ _ _ haction => socketAct_of_still haction)
    (fun extra value hextra hvalue =>
      post extra value (fun x hx => harmless_of_still (hextra x hx)) hvalue)

section Messages

variable {P : Action → Prop} (host : ∀ action, P (.host action)) (Q : Unit → Prop)
include host

private theorem each_record_of_host (kind : AuditEventKind) (actor : Option String)
    (message : String) :
    (record kind actor message).Each P Q ↔ Q () := by
  simp only [record, Control.host, Program.perform, Program.each_call, host, true_and,
    Program.each_done]
  exact ⟨fun h => h (), fun h _ => h⟩

private theorem each_sendIgnored_of_host (message : TerminalServerMessage) :
    (sendIgnored message).Each P Q ↔ Q () := by
  simp only [sendIgnored, Control.host, Program.perform, Program.each_bind, Program.each_call,
    host, true_and, Program.each_done, Program.each_pure]
  exact ⟨fun h => h true, fun h _ => h⟩

private theorem each_sendError_of_host (sessionId : Option TerminalSessionId)
    (code : Sunbolt.Protocol.TerminalErrorCode) (message : String) :
    (sendError sessionId code message).Each P Q ↔ Q () := by
  rw [sendError, each_sendIgnored_of_host host]

end Messages

section Simp

variable (Q : Unit → Prop) (sessionId : Option TerminalSessionId) (kind : AuditEventKind)
  (actor : Option String) (code : Sunbolt.Protocol.TerminalErrorCode) (text : String)
  (message : TerminalServerMessage)

@[simp] private theorem harmless_record : (record kind actor text).Each Harmless Q ↔ Q () :=
  each_record_of_host (fun _ => rfl) Q kind actor text

@[simp] private theorem harmless_sendIgnored : (sendIgnored message).Each Harmless Q ↔ Q () :=
  each_sendIgnored_of_host (fun _ => rfl) Q message

@[simp] private theorem harmless_sendError :
    (sendError sessionId code text).Each Harmless Q ↔ Q () :=
  each_sendError_of_host (fun _ => rfl) Q sessionId code text

@[simp] private theorem still_record : (record kind actor text).Each Still Q ↔ Q () :=
  each_record_of_host (fun _ => rfl) Q kind actor text

@[simp] private theorem still_sendIgnored : (sendIgnored message).Each Still Q ↔ Q () :=
  each_sendIgnored_of_host (fun _ => rfl) Q message

end Simp

private theorem harmless_sendReplay (messages : List TerminalServerMessage) :
    (sendReplay messages).Each Harmless (fun _ => True) := by
  induction messages with
  | nil => trivial
  | cons message rest ih => simpa [sendReplay] using ih

private theorem harmless_trackLocalTerminal (config : TerminalSessionConfig) (actor : String)
    (sessionId : TerminalSessionId) (size : ProtocolTerminalSize) (pty : Nat) :
    (trackLocalTerminal config actor sessionId size pty).Each Harmless Elsewhere := by
  rw [trackLocalTerminal, Program.each_bind]
  refine ⟨rfl, fun inserted => ?_⟩
  rw [Program.each_done]
  cases inserted with
  | error error => simp
  | ok output => simp [startLocalTerminal]

private theorem harmless_openLocalTerminal (config : TerminalSessionConfig) (actor : String)
    (sessionId : TerminalSessionId) (size : ProtocolTerminalSize) :
    (openLocalTerminal config actor sessionId size).Each Harmless Elsewhere := by
  rw [openLocalTerminal, Program.each_bind]
  refine ⟨rfl, fun spawned => ?_⟩
  rw [Program.each_done]
  cases spawned with
  | error error => simp
  | ok pty => exact harmless_trackLocalTerminal ..

private theorem harmless_startRemoteTerminal (config : TerminalSessionConfig) (actor : String)
    (nodeId : NodeId) (sessionId : TerminalSessionId) (size : ProtocolTerminalSize)
    (route : NodeRoute) :
    (startRemoteTerminal config actor nodeId sessionId size route).Each Harmless Elsewhere := by
  rw [startRemoteTerminal, Program.each_bind]
  refine ⟨rfl, fun connection => ?_⟩
  rw [Program.each_done]
  cases connection with
  | none => simp [recordRouteFailed]
  | some connection =>
    dsimp only
    rw [Program.each_bind]
    refine ⟨rfl, fun sent => ?_⟩
    rw [Program.each_done, Program.each_ite]
    refine ⟨fun _ => by simp [recordRouteFailed], fun _ => ?_⟩
    rw [trackRemoteTerminal, Program.each_bind]
    refine ⟨rfl, fun inserted => ?_⟩
    cases inserted <;> simp

private theorem harmless_openRemoteTerminal (config : TerminalSessionConfig) (actor : String)
    (nodeId : NodeId) (sessionId : TerminalSessionId) (size : ProtocolTerminalSize) :
    (openRemoteTerminal config actor nodeId sessionId size).Each Harmless Elsewhere := by
  rw [openRemoteTerminal, Program.each_bind]
  refine ⟨rfl, fun allowed => ?_⟩
  rw [Program.each_done, Program.each_ite]
  refine ⟨fun _ => by simp, fun _ => ?_⟩
  rw [Program.each_bind]
  refine ⟨rfl, fun online => ?_⟩
  rw [Program.each_done, Program.each_ite]
  refine ⟨fun _ => by simp, fun _ => ?_⟩
  simp only [Program.each_bind]
  refine ⟨rfl, fun connection => ⟨rfl, fun relays => ⟨rfl, fun route => ?_⟩⟩⟩
  simp only [Program.each_done]
  cases route with
  | none => simp [recordRouteFailed]
  | some route =>
    cases route with
    | relayNode target relay => simp [recordRouteSelected, recordRouteFailed]
    | directAgent target => simp [recordRouteSelected, harmless_startRemoteTerminal]

private theorem harmless_of_lookup (action : Action) (h : Lookup action) : Harmless action := by
  unfold Lookup isLookup at h
  split at h <;> first | rfl | cases h

private theorem harmless_terminalMissingOrExpiredCode (sessionId : TerminalSessionId) :
    (terminalMissingOrExpiredCode sessionId).Each Harmless (fun _ => True) := by
  rw [terminalMissingOrExpiredCode, Program.each_bind]
  refine ⟨rfl, fun state => ?_⟩
  rw [Program.each_done]
  split <;> trivial

theorem Reattached.later {longer : Past} {sessionId : TerminalSessionId}
    {backend : TerminalBackend} {output : Nat} (h : past <+: longer)
    (hr : Reattached past actorEmail sessionId backend output) :
    Reattached longer actorEmail sessionId backend output := by
  obtain ⟨token, target, hasked, hd, hfields⟩ := hr
  exact ⟨token, target, Did.later h hasked, hd.later h, hfields⟩

private theorem ends_handleTerminalReattach (calm : Calm past) {sessionId : TerminalSessionId}
    {token : Sunbolt.Protocol.TerminalReconnectToken}
    (asked : AskedToReattach past sessionId token) :
    (handleTerminalReattach actorEmail sessionId token).All (socketAct actorEmail) past
      (socketPost actorEmail) := by
  rw [handleTerminalReattach, Program.all_bind]
  refine all_of_harmless calm ((lookup_authorizeSessionReattach actorEmail sessionId).imp
    harmless_of_lookup) (fun extra allowed hcalm _ => ?_)
  rw [Program.all_ite]
  refine ⟨fun _ => ?_, fun _ => ?_⟩
  · exact all_of_harmless (Q := fun next => next = none) hcalm (by simp)
      (fun _ next hlast hnone => hlast.post (by simp [hnone]))
  rw [Program.all_bind]
  refine ⟨trivial, fun target => ?_⟩
  have hreply := hcalm.snoc (x := ⟨.terminal (.reattach sessionId token actorEmail), target⟩) rfl
  rw [Program.all_done]
  cases target with
  | none =>
    dsimp only
    rw [Program.all_bind]
    refine all_of_harmless hreply (harmless_terminalMissingOrExpiredCode sessionId)
      (fun _ code hcode _ => ?_)
    exact all_of_harmless (Q := fun next => next = none) hcode (by simp)
      (fun _ next hlast hnone => hlast.post (by simp [hnone]))
  | some target =>
    have reattached : Reattached (past ++ extra ++
        [⟨.terminal (.reattach sessionId token actorEmail), some target⟩]) actorEmail sessionId
        target.backend target.output := by
      refine ⟨token, target, Did.later ?_ asked, by simp [Did], rfl, rfl⟩
      exact (List.prefix_append ..).trans (List.prefix_append ..)
    refine all_of_harmless (Q := fun next =>
        ∀ attachment, next = some (.remoteAttached attachment) →
      attachment.sessionId = sessionId ∧ target.backend = .remote attachment.commands ∧
        target.output = attachment.output) hreply ?_ (fun last next hlast hnext => ?_)
    · rw [Program.each_bind, harmless_sendIgnored, Program.each_bind]
      refine (harmless_sendReplay target.replay).mono (fun _ _ => ?_)
      cases target.backend with
      | «local» pty => simp
      | remote commands => simp
    · cases next with
      | none => exact hlast.halt actorEmail
      | some stage =>
        cases stage with
        | remoteAttached attachment =>
          obtain ⟨rfl, hbackend, houtput⟩ := hnext attachment rfl
          rw [hbackend, houtput] at reattached
          exact ⟨hlast, Reattached.later (List.prefix_append ..) reattached⟩
        | _ => exact hlast

private theorem all_firstFrame {config : TerminalSessionConfig} :
    (handleTerminalSocket config actorEmail).All (socketAct actorEmail) []
      (socketPost actorEmail) := by
  have stopped : ∀ {past : Past} {p : Handler (Option Stage)}, Calm past →
      p.Each Harmless Elsewhere → p.All (socketAct actorEmail) past (socketPost actorEmail) :=
    fun calm h => all_of_harmless calm h (fun _ _ hlast hnext => hlast.post hnext)
  rw [handleTerminalSocket, Program.all_bind]
  refine ⟨trivial, fun first => ?_⟩
  have calm : Calm ([] ++ [⟨.host .receive, first⟩]) := by
    intro x hx
    rw [List.mem_singleton.mp hx]
    rfl
  rw [Program.all_done]
  cases first with
  | none => exact calm.halt actorEmail
  | some first =>
    dsimp only
    cases hparsed : parseClientMessage first with
    | error error => exact stopped calm (by simp)
    | ok message =>
      obtain rfl := text_of_parseClientMessage hparsed
      cases message with
      | reattach sessionId token =>
        exact ends_handleTerminalReattach calm (by simp [AskedToReattach, Did])
      | start nodeId size =>
        refine stopped calm ?_
        dsimp only
        rw [Program.each_bind]
        refine ⟨rfl, fun sessionId => ?_⟩
        rw [Program.each_done]
        cases nodeId with
        | none => exact harmless_openLocalTerminal ..
        | some nodeId => exact harmless_openRemoteTerminal ..
      | _ => exact stopped calm (by simp)

/-! Local sessions. -/

/-- The handler has marked the session and ended nothing else. -/
structure Ending (past : Past) (sessionId : TerminalSessionId) : Prop where
  only : Only (endsOf sessionId) past
  marked : Marked past sessionId

section Local

variable {sessionId : TerminalSessionId} {pty output : Nat}

theorem Ending.append (h : Ending past sessionId) (extra : Past)
    (quiet : ∀ x ∈ extra, isHarmless x.action = true) : Ending (past ++ extra) sessionId where
  only := h.only.append quiet
  marked := h.marked.later (List.prefix_append ..)

theorem Ending.halt (h : Ending past sessionId) (leaves : Leaves past actorEmail sessionId) :
    SocketHalt actorEmail past := h.only.halt h.marked leaves

private theorem ends_leaveLocalSession {attachment : LocalAttachment}
    (attached : Attached past actorEmail attachment.sessionId (.local attachment.pty)
      attachment.output) (ending : Calm past ∨ Ending past attachment.sessionId) :
    (leaveLocalSession attachment).All (socketAct actorEmail) past (socketPost actorEmail) := by
  rw [leaveLocalSession, Program.all_bind]
  refine ⟨trivial, fun state => ?_⟩
  have asked := attached.later (List.prefix_append past
    [⟨.terminal (.state attachment.sessionId), state⟩])
  have only : Only (endsOf attachment.sessionId) past := ending.elim Calm.only Ending.only
  rw [Program.all_done, Program.all_ite]
  constructor
  · rintro rfl
    rcases ending with calm | ending
    · exact (calm.snoc rfl).halt actorEmail
    · refine (ending.append [_] (by simp)).halt (.local _ _ asked (Or.inr ?_))
      exact ⟨past, [], rfl, ending.marked⟩
  · intro _
    rw [Program.all_bind]
    refine ⟨trivial, fun _ => ?_⟩
    rw [Program.all_done, Program.all_bind]
    refine ⟨trivial, fun _ => ?_⟩
    rw [Program.all_done, Program.all_bind]
    have gone : Ending (past ++ [⟨.terminal (.state attachment.sessionId), state⟩] ++
        [⟨.terminal (.setState attachment.sessionId .terminating), ()⟩] ++
        [⟨.terminal (.remove attachment.sessionId), ()⟩]) attachment.sessionId := by
      refine ⟨(((only.snoc ?_).snoc ?_).snoc ?_), ?_⟩
      · intro h
        cases h
      · exact fun _ => by simp [endsOf]
      · exact fun _ => by simp [endsOf]
      · simp [Marked, Did]
    refine all_of_still (Q := fun _ => True) ?_ (fun extra _ hextra _ => ?_)
    · simp [runIf]
    · refine (gone.append _ hextra).halt (.local _ _ (asked.later ?_) (Or.inl (Or.inl ?_)))
      · exact ((List.prefix_append ..).trans (List.prefix_append ..)).trans
          (List.prefix_append ..)
      · simp [Did]

private theorem ends_expireLocalSession {attachment : LocalAttachment} {reason : String}
    (attached : Attached past actorEmail attachment.sessionId (.local attachment.pty)
      attachment.output) (only : Only (endsOf attachment.sessionId) past) :
    (expireLocalSession attachment reason).All (socketAct actorEmail) past
      (socketPost actorEmail) := by
  rw [expireLocalSession, Program.all_bind]
  refine ⟨trivial, fun _ => ?_⟩
  have marked : Ending (past ++ [⟨.terminal (.setState attachment.sessionId .terminating), ()⟩])
      attachment.sessionId :=
    ⟨only.snoc (fun _ => by simp [endsOf]), by simp [Marked, Did]⟩
  rw [Program.all_done, Program.all_bind]
  refine all_of_still (Q := fun _ => True) (by simp [sendError]) (fun extra _ hextra _ => ?_)
  refine ends_leaveLocalSession (attached.later ?_) (Or.inr (marked.append _ hextra))
  exact (List.prefix_append ..).trans (List.prefix_append ..)

/-- The task has marked the session and done nothing else to end it. -/
structure JustMarked (past : Past) (sessionId : TerminalSessionId) : Prop where
  only : Only (marks sessionId) past
  marked : Marked past sessionId

theorem JustMarked.ending (h : JustMarked past sessionId) : Ending past sessionId where
  only := h.only.mono (fun _ => endsOf_of_marks)
  marked := h.marked

theorem JustMarked.append (h : JustMarked past sessionId) (extra : Past)
    (quiet : ∀ x ∈ extra, isHarmless x.action = true) : JustMarked (past ++ extra) sessionId where
  only := h.only.append quiet
  marked := h.marked.later (List.prefix_append ..)

theorem Calm.justMarked (h : Calm past) (sessionId : TerminalSessionId) :
    JustMarked (past ++ [⟨.terminal (.setState sessionId .terminating), ()⟩]) sessionId where
  only := h.only.snoc (fun _ => by simp [marks])
  marked := by simp [Marked, Did]

/-- A frame of the browser ends nothing, or it marks the session and the loop is left. -/
def AfterFrame (past : Past) (sessionId : TerminalSessionId) (later : Past) (goesOn : Bool) :
    Prop :=
  past <+: later ∧ (Calm later ∨ goesOn = false ∧ JustMarked later sessionId)

private theorem harmless_sessionIdMatches (received active : TerminalSessionId) :
    (sessionIdMatches received active).Each Harmless (fun _ => True) := by
  simp [sessionIdMatches]

private theorem all_terminateLocalTerminal (calm : Calm past) (actor : String)
    (named : TerminalSessionId) :
    (terminateLocalTerminal actor pty named sessionId).All (socketAct actorEmail) past
      (AfterFrame past sessionId) := by
  rw [terminateLocalTerminal, Program.all_bind]
  refine all_of_harmless calm (harmless_sessionIdMatches named sessionId)
    (fun extra same hcalm _ => ?_)
  rw [Program.all_ite]
  refine ⟨fun _ => ⟨List.prefix_append .., Or.inl hcalm⟩, fun _ => ?_⟩
  rw [Program.all_bind]
  refine ⟨trivial, fun _ => ?_⟩
  have marked := hcalm.justMarked sessionId
  rw [Program.all_done]
  refine all_of_still (Q := fun goesOn => goesOn = false) (by simp)
    (fun more goesOn hmore hleft => ?_)
  exact ⟨((List.prefix_append ..).trans (List.prefix_append ..)).trans (List.prefix_append ..),
    Or.inr ⟨hleft, marked.append _ hmore⟩⟩

private theorem all_quietFrame (calm : Calm past) {p : Handler Bool}
    (quiet : p.Each Harmless (fun _ => True)) :
    p.All (socketAct actorEmail) past (AfterFrame past sessionId) :=
  all_of_harmless calm quiet (fun _ _ hcalm _ => ⟨List.prefix_append .., Or.inl hcalm⟩)

private theorem harmless_reportFailure (active : TerminalSessionId)
    (result : Except Sunbolt.Terminal.TerminalError Unit) :
    (reportFailure active result).Each Harmless (fun _ => True) := by
  cases result <;> simp [reportFailure]

private theorem all_handleClientFrame (calm : Calm past) (actor : String)
    (message : WebSocketMessage) :
    (handleClientFrame actor pty sessionId message).All (socketAct actorEmail) past
      (AfterFrame past sessionId) := by
  rw [handleClientFrame]
  split
  · exact all_quietFrame calm (by simp)
  · refine all_quietFrame calm ?_
    simp [sessionIdMatches, harmless_reportFailure]
  · refine all_quietFrame calm ?_
    simp [sessionIdMatches, harmless_reportFailure]
  · exact all_terminateLocalTerminal calm actor _
  · exact all_terminateLocalTerminal calm actor _
  · refine all_quietFrame calm ?_
    simp [sessionIdMatches, auditTerminalDetached, detachLocalTerminal]
  · refine all_quietFrame calm ?_
    simp [sessionIdMatches, reattachLocalTerminal]
  · exact all_quietFrame calm (by simp)
  · exact all_quietFrame calm (by simp)

/-- The handler has been woken and has refreshed its session. -/
private theorem all_touch {α : Type} {resume : Unit → Handler α} {Post : Past → α → Prop}
    (may : MayTouch past actorEmail sessionId) (calm : Calm past)
    (next : Calm (past ++ [⟨.terminal (.touch sessionId), ()⟩]) →
      (resume ()).All (socketAct actorEmail) (past ++ [⟨.terminal (.touch sessionId), ()⟩]) Post) :
    (terminal (.touch sessionId) >>= resume).All (socketAct actorEmail) past Post := by
  rw [Program.all_bind]
  exact ⟨may, fun _ => next (calm.snoc rfl)⟩

private theorem harmless_noteStreamError (attachment : LocalAttachment)
    (output : TerminalServerMessage) :
    (noteStreamError attachment output).Each Harmless (fun noted =>
      noted.sessionId = attachment.sessionId ∧ noted.pty = attachment.pty ∧
        noted.output = attachment.output) := by
  cases output <;> simp [noteStreamError]

private theorem ends_detachAndLeave {attachment : LocalAttachment} (calm : Calm past)
    (attached : Attached past actorEmail attachment.sessionId (.local attachment.pty)
      attachment.output) :
    (do
      detachDisconnected attachment.actorEmail attachment.sessionId
      leaveLocalSession attachment).All (socketAct actorEmail) past (socketPost actorEmail) := by
  rw [Program.all_bind]
  refine all_of_harmless (Q := fun _ => True) calm ?_ (fun extra _ hcalm _ => ?_)
  · simp [detachDisconnected, auditTerminalDetached]
  · exact ends_leaveLocalSession (attached.later (List.prefix_append ..)) (Or.inl hcalm)

private theorem ends_forwardLocalOutput (attachment : LocalAttachment) (calm : Calm past)
    (attached : Attached past actorEmail attachment.sessionId (.local attachment.pty)
      attachment.output) (message : TerminalServerMessage) :
    (forwardLocalOutput attachment message).All (socketAct actorEmail) past
      (socketPost actorEmail) := by
  rw [forwardLocalOutput]
  refine all_touch (Or.inl ⟨_, _, attached⟩) calm (fun touched => ?_)
  have hattached := attached.later (List.prefix_append past
    [⟨.terminal (.touch attachment.sessionId), ()⟩])
  rw [Program.all_bind]
  refine all_of_harmless (Q := fun _ => True) touched ?_ (fun exits _ hexits _ => ?_)
  · simp [runIf]
  rw [Program.all_bind]
  refine all_of_harmless hexits (harmless_noteStreamError attachment message)
    (fun notes noted hnoted hsame => ?_)
  obtain ⟨hid, hpty, houtput⟩ := hsame
  have hready := (hattached.later (List.prefix_append _ exits)).later (List.prefix_append _ notes)
  generalize past ++ [_] ++ exits ++ notes = ready at hready hnoted ⊢
  rw [← hid, ← hpty, ← houtput] at hready
  rw [Program.all_bind]
  refine ⟨trivial, fun sent => ?_⟩
  have hsent := hready.later (List.prefix_append _ [⟨.host (.send message), sent⟩])
  have calmSent := hnoted.snoc (x := ⟨.host (.send message), sent⟩) rfl
  rw [Program.all_done, Program.all_ite]
  refine ⟨fun _ => ends_detachAndLeave calmSent hsent, fun _ => ?_⟩
  rw [Program.all_ite]
  exact ⟨fun _ => ends_leaveLocalSession hsent (Or.inl calmSent), fun _ => calmSent⟩

private theorem all_checkIdle {config : TerminalSessionConfig} {attachment : LocalAttachment}
    (calm : Calm past)
    (attached : Attached past actorEmail attachment.sessionId (.local attachment.pty)
      attachment.output) :
    (do
      let idle : Bool ← terminal (.isIdle attachment.sessionId config.idleTimeout)
      if idle then
        expireLocalSession attachment "terminal session idle timeout reached"
      else
        let exceeded : Bool ←
          terminal (.isExceededMaxDuration attachment.sessionId config.maxDuration)
        if exceeded then
          expireLocalSession attachment "terminal session exceeded maximum allowed duration"
        else
          return some (.localAttached attachment) :
      Handler (Option Stage)).All (socketAct actorEmail) past (socketPost actorEmail) := by
  rw [Program.all_bind]
  refine ⟨trivial, fun idle => ?_⟩
  have checked := attached.later (List.prefix_append past
    [⟨.terminal (.isIdle attachment.sessionId config.idleTimeout), idle⟩])
  have only : Only (endsOf attachment.sessionId) (past ++
      [⟨.terminal (.isIdle attachment.sessionId config.idleTimeout), idle⟩]) :=
    calm.only.snoc (fun _ => by simp [endsOf])
  rw [Program.all_done, Program.all_ite]
  refine ⟨fun _ => ends_expireLocalSession checked only, fun hactive => ?_⟩
  have hcalm : Calm (past ++
      [⟨.terminal (.isIdle attachment.sessionId config.idleTimeout), idle⟩]) := by
    refine calm.snoc ?_
    simpa [isEnding] using hactive
  rw [Program.all_bind]
  refine ⟨trivial, fun exceeded => ?_⟩
  have hlast := hcalm.snoc (x := ⟨.terminal (.isExceededMaxDuration attachment.sessionId
    config.maxDuration), exceeded⟩) rfl
  rw [Program.all_done, Program.all_ite]
  exact ⟨fun _ => ends_expireLocalSession (checked.later (List.prefix_append ..)) hlast.only,
    fun _ => hlast⟩

private theorem ends_localAttachedLoop {config : TerminalSessionConfig}
    {attachment : LocalAttachment} (calm : Calm past)
    (attached : Attached past actorEmail attachment.sessionId (.local attachment.pty)
      attachment.output) :
    (localAttachedLoop config attachment).All (socketAct actorEmail) past
      (socketPost actorEmail) := by
  rw [localAttachedLoop, Program.all_bind]
  refine ⟨trivial, fun wake => ?_⟩
  have woken := attached.later (List.prefix_append past
    [⟨.terminal (.selectAttached attachment.output attachment.outputNext true), wake⟩])
  have hcalm := calm.snoc (x := ⟨.terminal (.selectAttached attachment.output
    attachment.outputNext true), wake⟩) rfl
  rw [Program.all_done]
  cases wake with
  | output received next =>
    cases received with
    | lagged => exact hcalm
    | closed => exact ends_leaveLocalSession woken (Or.inl hcalm)
    | value message =>
      exact ends_forwardLocalOutput { attachment with outputNext := next } hcalm woken message
  | incoming message =>
    cases message with
    | none => exact ends_detachAndLeave hcalm woken
    | some message =>
      refine all_touch (Or.inl ⟨_, _, woken⟩) hcalm (fun touched => ?_)
      rw [Program.all_bind]
      refine (all_handleClientFrame touched _ message).mono ?_
      rintro later goesOn ⟨hlater, hended⟩
      have hattached := (woken.later (List.prefix_append ..)).later hlater
      rw [Program.all_ite]
      constructor
      · rintro rfl
        rcases hended with calmLater | ⟨hleft, -⟩
        · exact calmLater
        · cases hleft
      · intro _
        exact ends_leaveLocalSession hattached (hended.imp_right (fun h => h.2.ending))
  | idleCheck => exact all_checkIdle hcalm woken

end Local

/-! Remote sessions. -/

section Remote

variable {sessionId : TerminalSessionId} {channel output : Nat}

/-- A frame ends nothing, or the handler marks the session, tells the agent and leaves. -/
def AfterRemoteFrame (past : Past) (channel : Nat) (sessionId : TerminalSessionId)
    (later : Past) (goesOn : Bool) : Prop :=
  past <+: later ∧ (Calm later ∨
    goesOn = false ∧ JustMarked later sessionId ∧ ToldAgent later channel sessionId)

private theorem all_quietRemoteFrame (calm : Calm past) {p : Handler Bool}
    (quiet : p.Each Harmless (fun _ => True)) :
    p.All (socketAct actorEmail) past (AfterRemoteFrame past channel sessionId) :=
  all_of_harmless calm quiet (fun _ _ hcalm _ => ⟨List.prefix_append .., Or.inl hcalm⟩)

private theorem all_terminateRemoteTerminal (calm : Calm past) (actor : String)
    (named : TerminalSessionId) :
    (terminateRemoteTerminal actor channel named sessionId).All (socketAct actorEmail) past
      (AfterRemoteFrame past channel sessionId) := by
  rw [terminateRemoteTerminal, Program.all_bind, sessionIdMatches]
  by_cases hnamed : named = sessionId
  · subst hnamed
    rw [if_pos rfl, Program.all_pure]
    simp only [Bool.not_true, Bool.false_eq_true, if_false]
    rw [Program.all_bind]
    refine all_of_harmless calm ((lookup_authorizeSessionTerminate actor named).imp
      harmless_of_lookup) (fun extra allowed hcalm _ => ?_)
    rw [Program.all_ite]
    refine ⟨fun _ => ?_, fun _ => ?_⟩
    · refine all_of_harmless (Q := fun _ => True) hcalm (by simp) (fun more _ hmore _ => ?_)
      exact ⟨(List.prefix_append ..).trans (List.prefix_append ..), Or.inl hmore⟩
    · rw [Program.all_bind]
      refine ⟨trivial, fun _ => ?_⟩
      have marked := hcalm.justMarked named
      rw [Program.all_done, Program.all_bind]
      refine all_of_still (Q := fun _ => True) (by simp) (fun more _ hmore _ => ?_)
      rw [Program.all_bind]
      refine ⟨trivial, fun sent => ?_⟩
      refine ⟨?_, Or.inr ⟨rfl, (marked.append _ hmore).append [_] (by simp),
        sent, by simp [Did]⟩⟩
      exact (((List.prefix_append ..).trans (List.prefix_append ..)).trans
        (List.prefix_append ..)).trans (List.prefix_append ..)
  · rw [if_neg hnamed, Program.all_bind]
    refine all_of_harmless (Q := fun _ => True) calm (by simp) (fun extra _ hcalm _ => ?_)
    exact ⟨List.prefix_append .., Or.inl hcalm⟩

private theorem all_handleRemoteClientFrame (calm : Calm past) (actor : String)
    (message : WebSocketMessage) :
    (handleRemoteClientFrame actor channel sessionId message).All (socketAct actorEmail) past
      (AfterRemoteFrame past channel sessionId) := by
  rw [handleRemoteClientFrame]
  split
  · exact all_quietRemoteFrame calm (by simp)
  · refine all_quietRemoteFrame calm ?_
    simp [sessionIdMatches, forwardCommand]
  · refine all_quietRemoteFrame calm ?_
    simp [sessionIdMatches, forwardCommand]
  · exact all_terminateRemoteTerminal calm actor _
  · exact all_terminateRemoteTerminal calm actor _
  · refine all_quietRemoteFrame calm ?_
    simp [sessionIdMatches, auditTerminalDetached]
  · refine all_quietRemoteFrame calm ?_
    simp [sessionIdMatches]
  · exact all_quietRemoteFrame calm (by simp)
  · exact all_quietRemoteFrame calm (by simp)

/-- What the handler that opened a remote session may have done before it leaves its loop. -/
structure Closing (past : Past) (channel : Nat) (sessionId : TerminalSessionId) : Prop where
  only : Only (endsOf sessionId) past
  idle : ∀ named timeout, ¬Did past (.terminal (.isIdle named timeout)) true
  told : Marked past sessionId → ToldAgent past channel sessionId

theorem Calm.closing (h : Calm past) : Closing past channel sessionId where
  only := h.only
  idle _ _ := h.not_idle
  told marked := absurd marked h.not_marked

theorem JustMarked.closing (h : JustMarked past sessionId)
    (told : ToldAgent past channel sessionId) : Closing past channel sessionId where
  only := h.ending.only
  idle named timeout hidle := by cases h.only _ hidle rfl
  told _ := told

theorem ToldAgent.later {longer : Past} (h : past <+: longer)
    (told : ToldAgent past channel sessionId) : ToldAgent longer channel sessionId :=
  told.imp (fun _ hsent => hsent.later h)

theorem Closing.snoc (h : Closing past channel sessionId) {x : Interaction Action Reply}
    (allowed : isEnding x = true → endsOf sessionId x.action = true)
    (idle : ∀ named timeout, x.action ≠ .terminal (.isIdle named timeout))
    (told : marks sessionId x.action = false) : Closing (past ++ [x]) channel sessionId where
  only := h.only.snoc allowed
  idle named timeout hidle := by
    rcases List.mem_append.mp hidle with hold | hnew
    · exact h.idle named timeout hold
    · exact idle named timeout (congrArg Interaction.action (List.mem_singleton.mp hnew)).symm
  told marked := by
    rcases List.mem_append.mp marked with hold | hnew
    · exact (h.told hold).later (List.prefix_append ..)
    · rw [← List.mem_singleton.mp hnew] at told
      simp [marks] at told

theorem Closing.append (h : Closing past channel sessionId) (extra : Past)
    (quiet : ∀ x ∈ extra, isHarmless x.action = true) :
    Closing (past ++ extra) channel sessionId := by
  induction extra using List.reverseRecOn with
  | nil => rwa [List.append_nil]
  | append_singleton extra x ih =>
    have hx : isHarmless x.action = true := quiet x (by simp)
    rw [← List.append_assoc]
    refine (ih (fun y hy => quiet y (List.mem_append_left _ hy))).snoc ?_ ?_ ?_
    · intro hends
      rw [isEnding_of_isHarmless hx] at hends
      cases hends
    · intro named timeout haction
      rw [haction] at hx
      cases hx
    · unfold marks
      split
      · rename_i haction
        rw [haction] at hx
        cases hx
      · rfl

private theorem harmless_releaseOpening (opening : RemoteOpening) :
    (releaseOpening opening).Each Still (fun next => next = none) := by
  simp [releaseOpening]

/-- The handler returns having told the agent, and the session is out or was found detached. -/
private theorem Closing.halt (h : Closing past channel sessionId) (output : Nat)
    (opened : Opened past sessionId (.remote channel) output)
    (gone : Marked past sessionId → TookOut past sessionId ∨ FoundDetached past sessionId) :
    SocketHalt actorEmail past where
  leaves named marked := by
    obtain rfl := h.only.marked marked
    exact .opened channel output opened (h.told marked) (gone marked)
  idle named timeout hidle := absurd hidle (h.idle named timeout)

private theorem ends_leaveRemoteSession (opening : RemoteOpening)
    (opened : Opened past opening.sessionId (.remote opening.connection.channel)
      opening.output)
    (closing : Closing past opening.connection.channel opening.sessionId) :
    (leaveRemoteSession opening).All (socketAct actorEmail) past (socketPost actorEmail) := by
  rw [leaveRemoteSession, Program.all_bind]
  refine ⟨trivial, fun state => ?_⟩
  rw [Program.all_done, Program.all_ite]
  constructor
  · rintro rfl
    refine all_of_still (harmless_releaseOpening opening) ?_
    rintro extra next hextra rfl
    have hlast := (closing.append [⟨.terminal (.state opening.sessionId), some .detached⟩]
      (by simp)).append _ hextra
    refine hlast.halt opening.output (opened.later ?_) (fun marked => Or.inr ?_)
    · exact (List.prefix_append ..).trans (List.prefix_append ..)
    · refine ⟨past, extra, by simp, ?_⟩
      -- only the calls before the state was read may have marked the session
      rcases List.mem_append.mp marked with hold | hnew
      · rcases List.mem_append.mp hold with hold | hnew
        · exact hold
        · cases List.mem_singleton.mp hnew
      · cases hextra _ hnew
  · intro _
    rw [Program.all_bind]
    refine ⟨trivial, fun backend => ?_⟩
    rw [Program.all_done, Program.all_bind]
    refine ⟨trivial, fun sent => ?_⟩
    rw [Program.all_done]
    have hlast : Closing (past ++ [⟨.terminal (.state opening.sessionId), state⟩] ++
        [⟨.terminal (.terminate opening.sessionId), backend⟩] ++
        [⟨.agent (.sendCommand opening.connection.channel (.closeTerminal opening.sessionId)),
          sent⟩]) opening.connection.channel opening.sessionId := by
      refine ((closing.snoc ?_ ?_ ?_).snoc ?_ ?_ ?_).snoc ?_ ?_ ?_ <;>
        simp [isEnding, endsOf, marks]
    refine all_of_still (Q := fun next => next = none) ?_ ?_
    · simp [runIf, harmless_releaseOpening]
    · rintro extra next hextra rfl
      refine (hlast.append _ hextra).halt opening.output (opened.later ?_)
        (fun _ => Or.inl (Or.inr ⟨backend, ?_⟩))
      · exact (((List.prefix_append ..).trans (List.prefix_append ..)).trans
          (List.prefix_append ..)).trans (List.prefix_append ..)
      · simp [Did]

private theorem each_agentEventToBrowserMessage (event : AgentTerminalEvent) (nodeId : NodeId)
    (status : Option Sunbolt.Protocol.TerminalTransportStatus) :
    (agentEventToBrowserMessage event nodeId status).Each Harmless (fun _ => True) := by
  cases event <;> simp [agentEventToBrowserMessage]

private theorem ends_detachAndLeaveRemote (opening : RemoteOpening) (calm : Calm past)
    (opened : Opened past opening.sessionId (.remote opening.connection.channel)
      opening.output) :
    (do
      detachDisconnected opening.actorEmail opening.sessionId
      leaveRemoteSession opening).All (socketAct actorEmail) past (socketPost actorEmail) := by
  rw [Program.all_bind]
  refine all_of_harmless (Q := fun _ => True) calm ?_ (fun extra _ hcalm _ => ?_)
  · simp [detachDisconnected, auditTerminalDetached]
  · exact ends_leaveRemoteSession opening (opened.later (List.prefix_append ..)) hcalm.closing

private theorem ends_handleAgentEvent {opening : RemoteOpening} (calm : Calm past)
    (opened : Opened past opening.sessionId (.remote opening.connection.channel)
      opening.output) (event : AgentTerminalEvent) :
    (handleAgentEvent opening event).All (socketAct actorEmail) past
      (socketPost actorEmail) := by
  rw [handleAgentEvent, Program.all_bind]
  refine all_of_harmless calm (each_agentEventToBrowserMessage ..)
    (fun became message hbecame _ => ?_)
  rw [Program.all_bind]
  refine all_of_harmless (Q := fun _ => True) hbecame ?_ (fun marked _ hmarked _ => ?_)
  · simp [runIf, markOpened]
  dsimp only
  rw [Program.all_bind]
  refine all_of_harmless (Q := fun _ => True) hmarked ?_ (fun kept _ hkept _ => ?_)
  · simp [runIf]
  have ready := ((opened.later (List.prefix_append _ became)).later
    (List.prefix_append _ marked)).later (List.prefix_append _ kept)
  rw [Program.all_bind]
  refine ⟨trivial, fun _ => ?_⟩
  rw [Program.all_done, Program.all_bind]
  refine ⟨trivial, fun sent => ?_⟩
  have hsent := (ready.later (List.prefix_append _ [⟨.terminal (.broadcast opening.output message),
    ()⟩])).later (List.prefix_append _ [⟨.host (.send message), sent⟩])
  have calmSent := (hkept.snoc (x := ⟨.terminal (.broadcast opening.output message), ()⟩)
    rfl).snoc (x := ⟨.host (.send message), sent⟩) rfl
  rw [Program.all_done, Program.all_ite]
  refine ⟨fun _ => ends_detachAndLeaveRemote { opening with
    terminalOpened := opening.terminalOpened || message.isStarted
    terminalFailed := opening.terminalFailed || message.isError } calmSent hsent, fun _ => ?_⟩
  rw [Program.all_ite]
  refine ⟨fun _ => ?_, fun _ => calmSent⟩
  rw [Program.all_bind]
  refine ⟨trivial, fun _ => ?_⟩
  refine ends_leaveRemoteSession _ (hsent.later (List.prefix_append ..)) ?_
  exact calmSent.closing.snoc (by simp [endsOf]) (by simp) rfl

private theorem ends_remoteOpenedLoop {opening : RemoteOpening} (calm : Calm past)
    (opened : Opened past opening.sessionId (.remote opening.connection.channel)
      opening.output) :
    (remoteOpenedLoop opening).All (socketAct actorEmail) past (socketPost actorEmail) := by
  rw [remoteOpenedLoop, Program.all_bind]
  refine ⟨trivial, fun wake => ?_⟩
  have woken := opened.later (List.prefix_append past
    [⟨.agent (.selectEvent opening.connection.channel), wake⟩])
  have hcalm := calm.snoc (x := ⟨.agent (.selectEvent opening.connection.channel), wake⟩) rfl
  rw [Program.all_done]
  cases wake with
  | event event =>
    cases event with
    | none =>
      dsimp only
      rw [Program.all_bind]
      refine all_of_harmless (Q := fun _ => True) hcalm (by simp) (fun extra _ hextra _ => ?_)
      exact ends_leaveRemoteSession { opening with terminalFailed := true }
        (woken.later (List.prefix_append ..)) hextra.closing
    | some event => exact ends_handleAgentEvent hcalm woken event
  | incoming message =>
    cases message with
    | none => exact ends_detachAndLeaveRemote opening hcalm woken
    | some message =>
      dsimp only
      rw [Program.all_bind]
      refine (all_handleRemoteClientFrame hcalm _ message).mono ?_
      rintro later goesOn ⟨hlater, hended⟩
      rw [Program.all_ite]
      constructor
      · rintro rfl
        rcases hended with calmLater | ⟨hleft, -⟩
        · exact calmLater
        · cases hleft
      · intro _
        refine ends_leaveRemoteSession opening (woken.later hlater) ?_
        rcases hended with calmLater | ⟨-, marked, told⟩
        · exact calmLater.closing
        · exact marked.closing told

private theorem ends_remoteAttachedLoop {attachment : RemoteAttachment} (calm : Calm past)
    (reattached : Reattached past actorEmail attachment.sessionId (.remote attachment.commands)
      attachment.output) :
    (remoteAttachedLoop attachment).All (socketAct actorEmail) past (socketPost actorEmail) := by
  have detached : ∀ {later : Past}, Calm later → (do
      detachDisconnected attachment.actorEmail attachment.sessionId
      return none : Handler (Option Stage)).All (socketAct actorEmail) later
      (socketPost actorEmail) := by
    intro later hlater
    refine all_of_harmless (Q := fun next => next = none) hlater ?_
      (fun _ next hcalm hnone => hcalm.post (by simp [hnone]))
    simp [detachDisconnected, auditTerminalDetached]
  rw [remoteAttachedLoop, Program.all_bind]
  refine ⟨trivial, fun wake => ?_⟩
  have woken := Reattached.later (List.prefix_append past
    [⟨.terminal (.selectAttached attachment.output attachment.outputNext false), wake⟩]) reattached
  have hcalm := calm.snoc (x := ⟨.terminal (.selectAttached attachment.output
    attachment.outputNext false), wake⟩) rfl
  have again : ∀ {later : Past} {next : Nat}, Calm later →
      Reattached later actorEmail attachment.sessionId (.remote attachment.commands)
        attachment.output →
      socketPost actorEmail later (some (.remoteAttached { attachment with outputNext := next })) :=
    fun hlater hkept => ⟨hlater, hkept⟩
  rw [Program.all_done]
  cases wake with
  | output received next =>
    cases received with
    | lagged => exact again hcalm woken
    | closed => exact hcalm.halt actorEmail
    | value output =>
      refine all_touch (Or.inr ⟨_, _, woken⟩) hcalm (fun touched => ?_)
      rw [Program.all_bind]
      refine ⟨trivial, fun sent => ?_⟩
      have hsent := touched.snoc (x := ⟨.host (.send output), sent⟩) rfl
      rw [Program.all_done, Program.all_ite]
      refine ⟨fun _ => detached hsent, fun _ => ?_⟩
      rw [Program.all_ite]
      refine ⟨fun _ => ?_, fun _ => again hsent (Reattached.later ?_ woken)⟩
      rw [Program.all_bind]
      · exact ⟨trivial, fun _ => hsent.halt_removed actorEmail attachment.sessionId⟩
      · exact (List.prefix_append ..).trans (List.prefix_append ..)
  | incoming message =>
    cases message with
    | none => exact detached hcalm
    | some message =>
      refine all_touch (Or.inr ⟨_, _, woken⟩) hcalm (fun touched => ?_)
      rw [Program.all_bind]
      refine (all_handleRemoteClientFrame touched _ message).mono ?_
      rintro later goesOn ⟨hlater, hended⟩
      rw [Program.all_ite]
      constructor
      · rintro rfl
        rcases hended with calmLater | ⟨hleft, -⟩
        · exact ⟨calmLater, Reattached.later ((List.prefix_append ..).trans hlater) woken⟩
        · cases hleft
      · intro _
        rcases hended with calmLater | ⟨-, marked, told⟩
        · exact calmLater.halt actorEmail
        · refine marked.ending.halt (.reattached _ _ (Reattached.later ?_ woken) told marked.only)
          exact (List.prefix_append ..).trans hlater
  | idleCheck => exact ⟨hcalm, woken⟩

end Remote

/-! All browser handlers, and the request that terminates a session. -/

private theorem ends_socketBody {config : TerminalSessionConfig} {stage : Stage}
    (known : browserHead actorEmail past stage) (head : socketHead actorEmail past stage) :
    (body config stage).All (socketAct actorEmail) past (socketPost actorEmail) := by
  cases stage with
  | terminalSocket actor =>
    obtain ⟨rfl, rfl⟩ := known
    exact all_firstFrame
  | localAttached attachment => exact ends_localAttachedLoop head known.2.attached
  | remoteOpened opening => exact ends_remoteOpenedLoop head known.2.1
  | remoteAttached attachment => exact ends_remoteAttachedLoop head.1 head.2
  | _ => cases known

end Bodies

section Terminate

variable {past : Past} {actorEmail : String} {sessionId : TerminalSessionId}

/-- The calls that are no terminate of this session. -/
def IsOther (sessionId : TerminalSessionId) (action : Action) : Prop :=
  action ≠ .terminal (.terminate sessionId)

def Untouched (past : Past) (sessionId : TerminalSessionId) : Prop :=
  ∀ x ∈ past, IsOther sessionId x.action

private theorem Untouched.append (h : Untouched past sessionId) {extra : Past}
    (other : ∀ x ∈ extra, IsOther sessionId x.action) : Untouched (past ++ extra) sessionId :=
  List.forall_mem_append.mpr ⟨h, other⟩

/-- A task that has terminated nothing has nothing to tell. -/
private theorem Untouched.halt (h : Untouched past sessionId) (actorEmail : String) :
    loopHalt (.terminateSession actorEmail sessionId) past := by
  intro channel hgiven
  exact absurd rfl (h _ hgiven)

/-- The only terminate of such a task handed out this backend. -/
private theorem Untouched.given (h : Untouched past sessionId) {extra : Past}
    (other : ∀ x ∈ extra, IsOther sessionId x.action) {backend given : Option TerminalBackend}
    (hgiven : Did (past ++ [⟨.terminal (.terminate sessionId), backend⟩] ++ extra)
      (.terminal (.terminate sessionId)) given) : given = backend := by
  rcases List.mem_append.mp hgiven with hold | hnew
  · rcases List.mem_append.mp hold with hold | hnew
    · exact absurd rfl (h _ hold)
    · cases List.mem_singleton.mp hnew
      rfl
  · exact absurd rfl (other _ hnew)

private theorem each_authorizeTerminate :
    (authorizeSessionTerminate actorEmail sessionId).Each (IsOther sessionId)
      (fun _ => True) := by
  rw [authorizeSessionTerminate, Program.each_bind]
  refine ⟨by simp [IsOther], fun nodeId => ?_⟩
  rw [Program.each_done]
  cases nodeId with
  | none => trivial
  | some nodeId => exact ⟨by simp [IsOther], fun _ => trivial⟩

private theorem all_ended (sessionId : TerminalSessionId) {Post : Past → Option Stage → Prop}
    {p : Handler (Option Stage)} (h : p.Each (IsOther sessionId) (fun next => next = none))
    (post : ∀ extra, (∀ x ∈ extra, IsOther sessionId x.action) → Post (past ++ extra) none) :
    p.All (fun _ _ => True) past Post :=
  h.all (fun _ _ _ _ => trivial) (fun extra _ hextra hnone => hnone ▸ post extra hextra)

/-- The request tells the agent of every remote session that it takes out. -/
private theorem all_terminateTold :
    (terminateTerminalSession actorEmail sessionId).All (fun _ _ => True) []
      (loopOrder.post (.terminateSession actorEmail sessionId)) := by
  have fresh : Untouched [] sessionId := fun _ h => absurd h List.not_mem_nil
  rw [terminateTerminalSession, Program.all_bind]
  refine ⟨trivial, fun owner => ?_⟩
  have asked : Untouched ([] ++ [⟨.terminal (.ownerMatches sessionId actorEmail), owner⟩])
      sessionId := fresh.append (by simp [IsOther])
  rw [Program.all_done, Program.all_ite]
  refine ⟨fun _ => ?_, fun _ => ?_⟩
  · exact all_ended sessionId ⟨by simp [IsOther], fun _ => rfl⟩
      (fun extra hextra => (asked.append hextra).halt actorEmail)
  rw [Program.all_bind]
  refine each_authorizeTerminate.all (fun _ _ _ _ => trivial) (fun checks allowed hchecks _ => ?_)
  have checked := asked.append hchecks
  rw [Program.all_ite]
  refine ⟨fun _ => ?_, fun _ => ?_⟩
  · exact all_ended sessionId ⟨by simp [IsOther], fun _ => rfl⟩
      (fun extra hextra => (checked.append hextra).halt actorEmail)
  rw [Program.all_bind]
  refine ⟨trivial, fun backend => ?_⟩
  rw [Program.all_done]
  cases backend with
  | none =>
    refine all_ended sessionId ⟨by simp [IsOther], fun _ => rfl⟩ (fun extra hextra channel h => ?_)
    cases checked.given hextra h
  | some backend =>
    cases backend with
    | «local» pty =>
      refine all_ended sessionId ?_ (fun extra hextra channel h => ?_)
      · simp [closeAtAgent, record, host, Program.perform, IsOther]
      · cases checked.given hextra h
    | remote commands =>
      dsimp only [closeAtAgent]
      rw [Program.all_bind, Program.all_bind]
      refine ⟨trivial, fun sent => ?_⟩
      refine all_ended sessionId ?_ (fun extra hextra channel h => ?_)
      · simp [record, host, Program.perform, IsOther]
      · rw [List.append_assoc _ [_] extra] at h
        obtain rfl : channel = commands := by
          have heq := checked.given (List.forall_mem_append.mpr ⟨by simp [IsOther], hextra⟩) h
          simpa using heq
        exact ⟨sent, by simp [Did]⟩

end Terminate

/-- Every run of the control plane keeps this order along with the order of its calls. -/
theorem loopOrder_sound (config : TerminalSessionConfig) :
    (controlOrder.and loopOrder).Sound (controlPlane config) entry := by
  refine (controlOrder_sound config).and ?_ ?_ ?_
  · intro e
    cases e with
    | browser actorEmail => exact fun _ h => absurd h List.not_mem_nil
    | terminate actorEmail sessionId => rfl
    | _ => trivial
  · exact fun hout => head_of_spawned hout (fun _ _ _ => trivial)
  · intro origin stage past known head
    cases origin with
    | terminalSocket actorEmail =>
      refine (ends_socketBody known head).mono (fun later next hnext => ?_)
      cases next with
      | none => exact hnext
      | some stage => exact hnext
    | terminateSession actorEmail sessionId =>
      obtain rfl : stage = .terminateSession actorEmail sessionId := known
      obtain rfl : past = [] := head
      exact all_terminateTold
    | _ =>
      refine Program.all_of_forall (fun _ _ => trivial) (fun later next => ?_)
      cases next <;> trivial

end Sunbolt.Control
