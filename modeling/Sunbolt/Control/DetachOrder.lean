/- Module: Sunbolt/Control/DetachOrder
   scope: sunbolt-control/src/terminal/mod.rs
   digest: How a handler that records a detach marks its session and what it does after that. -/

import Sunbolt.Control.ServiceOrder

set_option autoImplicit false
set_option relaxedAutoImplicit false

namespace Sunbolt.Control

open Sunbolt.Library
open Sunbolt.Protocol (TerminalSessionId TerminalReconnectToken TerminalServerMessage
  AgentTerminalEvent AgentTransportEnvelope AgentTransportId AgentTransportKind
  AgentTransportLongPollRequest AgentTransportPayload NodeId TerminalTransportStatus)

/-- The audit entry of a detach. -/
def detachEntry (actorEmail : String) (sessionId : TerminalSessionId) (reason : String) :
    AuditEventInput :=
  ⟨.terminalDetached, some actorEmail,
    "terminal session " ++ sessionId.val ++ " detached: " ++ reason⟩

/-- The reasons that the handlers give for one. -/
def detachReasons : List String :=
  ["browser websocket disconnected", "user detached terminal session",
    "user detached remote terminal session"]

/-- The task has told the audit log that the session is detached. -/
def AuditedDetach (past : Past) (sessionId : TerminalSessionId) : Prop :=
  ∃ actorEmail, ∃ reason ∈ detachReasons,
    Did past (.host (.audit (detachEntry actorEmail sessionId reason))) ()

/-- The task has marked the session Detached, where the lifecycle allows it. -/
def MarkedDetached (past : Past) (sessionId : TerminalSessionId) : Prop :=
  Did past (.terminal (.setState sessionId .detached)) ()

/-- The calls by which a handler leaves a session: it marks the session Detached, records that
    and looks whether the session is. -/
def isLeaving : Action → Bool
  | .terminal (.setState _ .detached) => true
  | .terminal (.state _) => true
  | .host (.audit input) => input.kind == .terminalDetached
  | _ => false

def Staying (action : Action) : Prop := isLeaving action = false

/-- The calls that may take a session out of the state it is in. -/
def isMove : Action → Bool
  | .terminal (.insert _) => true
  | .terminal (.setState ..) => true
  | .terminal (.reattach ..) => true
  | .terminal (.terminate _) => true
  | .terminal (.remove _) => true
  | .terminal (.drainExpired ..) => true
  | .terminal (.closeSessionsForNode _) => true
  | _ => false

/-- A task marks a session Detached at most once, before it looks at the state, and moves it on
    only when it has found it in another state. -/
structure DetachAct (past : Past) (action : Action) : Prop where
  audits : ∀ input, action = .host (.audit input) → input.kind = .terminalDetached →
    ∃ actorEmail sessionId, ∃ reason ∈ detachReasons,
      input = detachEntry actorEmail sessionId reason
  marks : ∀ sessionId, action = .terminal (.setState sessionId .detached) →
    ¬MarkedDetached past sessionId ∧ ¬LeftLoop past sessionId
  moves : ∀ sessionId, MarkedDetached past sessionId → isMove action = true →
    LeftLoop past sessionId

/-- The task has not left any session. -/
def Stayed (past : Past) : Prop := ∀ x ∈ past, Staying x.action

/-- Whatever the task has audited as detached it has marked so. -/
def Truthful (past : Past) : Prop :=
  ∀ sessionId, AuditedDetach past sessionId → MarkedDetached past sessionId

/-- How the handlers leave their sessions. -/
def detachOrder : Discipline Action Reply Stage where
  act _ := DetachAct
  head _ _ := Stayed
  halt _ := Truthful

section Past

variable {past : Past} {sessionId : TerminalSessionId}

private theorem take_reverse_eq {a b r s : List Char} (n : Nat) (h : a ++ r = b ++ s)
    (hr : n ≤ r.length) (hs : n ≤ s.length) : r.reverse.take n = s.reverse.take n := by
  have hends := congrArg (fun text => text.reverse.take n) h
  simpa [List.reverse_append, List.take_append_of_le_length, hr, hs] using hends

/-- The reasons can be told apart by how their texts end. -/
private theorem reason_unique : ∀ reason ∈ detachReasons, ∀ other ∈ detachReasons,
    (" detached: " ++ reason).toList.reverse.take 19 =
      (" detached: " ++ other).toList.reverse.take 19 → reason = other := by
  decide

private theorem le_reason_length :
    ∀ reason ∈ detachReasons, 19 ≤ (" detached: " ++ reason).toList.length := by
  decide

/-- An entry tells which session it is about. -/
theorem detachEntry_session {actorEmail other reason reason' : String}
    {sessionId named : TerminalSessionId} (hreason : reason ∈ detachReasons)
    (hreason' : reason' ∈ detachReasons)
    (h : detachEntry actorEmail sessionId reason = detachEntry other named reason') :
    sessionId = named := by
  have htext : sessionId.val.toList ++ (" detached: " ++ reason).toList =
      named.val.toList ++ (" detached: " ++ reason').toList := by
    have hmessage := congrArg (fun entry => entry.message.toList) h
    simpa [detachEntry, String.append_assoc] using hmessage
  obtain rfl := reason_unique reason hreason reason' hreason'
    (take_reverse_eq 19 htext (le_reason_length reason hreason)
      (le_reason_length reason' hreason'))
  have hval : sessionId.val = named.val := String.ext (List.append_cancel_right htext)
  cases sessionId
  cases named
  exact congrArg _ hval

theorem Stayed.not_marked (h : Stayed past) : ¬MarkedDetached past sessionId :=
  fun marked => by cases h _ marked

theorem Stayed.not_left (h : Stayed past) : ¬LeftLoop past sessionId := by
  rintro ⟨state, -, hread⟩
  cases h _ hread

theorem Stayed.not_audited (h : Stayed past) : ¬AuditedDetach past sessionId := by
  rintro ⟨actorEmail, reason, -, haudit⟩
  cases h _ haudit

theorem Stayed.truthful (h : Stayed past) : Truthful past :=
  fun _ audited => absurd audited h.not_audited

theorem Stayed.append {extra : Past} (h : Stayed past) (h' : Stayed extra) :
    Stayed (past ++ extra) := List.forall_mem_append.mpr ⟨h, h'⟩

theorem Stayed.snoc {action : Action} {reply : Reply action} (h : Stayed past)
    (staying : Staying action) : Stayed (past ++ [⟨action, reply⟩]) :=
  h.append (by simpa [Stayed] using staying)

/-- A call that leaves nothing is fine as long as the task has left nothing. -/
private theorem Stayed.act (h : Stayed past) {action : Action} (staying : Staying action) :
    DetachAct past action where
  audits input haction hkind := by
    subst haction
    simp [Staying, isLeaving, hkind] at staying
  marks named haction := by
    subst haction
    cases staying
  moves named marked := absurd marked h.not_marked

/-- The task leaves this session, if any: it has marked no other one. -/
structure Parting (past : Past) (sessionId : TerminalSessionId) : Prop where
  marks : ∀ named, MarkedDetached past named → named = sessionId
  truthful : Truthful past

/-- The calls by which a task leaves this session. -/
def Parts (sessionId : TerminalSessionId) (action : Action) : Prop :=
  action = .terminal (.setState sessionId .detached) ∨
    ∃ actorEmail, ∃ reason ∈ detachReasons,
      action = .host (.audit (detachEntry actorEmail sessionId reason))

theorem Stayed.parting (h : Stayed past) (sessionId : TerminalSessionId) :
    Parting past sessionId where
  marks _ marked := absurd marked h.not_marked
  truthful := h.truthful

/-- A task that has left nothing may leave its session, marking it once. -/
theorem Stayed.act_parts (h : Stayed past) {extra : Past}
    (parts : ∀ x ∈ extra, Parts sessionId x.action) {action : Action}
    (haction : Parts sessionId action)
    (once : action = .terminal (.setState sessionId .detached) →
      ¬MarkedDetached extra sessionId) : DetachAct (past ++ extra) action where
  audits input hinput _ := by
    rcases haction with heq | ⟨actorEmail, reason, hreason, heq⟩
    · cases heq.symm.trans hinput
    · cases heq.symm.trans hinput
      exact ⟨actorEmail, sessionId, reason, hreason, rfl⟩
  marks named hmark := by
    obtain rfl : sessionId = named := by
      rcases haction with heq | ⟨_, _, -, heq⟩
      · cases heq.symm.trans hmark
        rfl
      · cases heq.symm.trans hmark
    refine ⟨fun marked => ?_, ?_⟩
    · exact (List.mem_append.mp marked).elim h.not_marked (once hmark)
    · rintro ⟨state, hstate, hread⟩
      rcases List.mem_append.mp hread with hold | hnew
      · exact h.not_left ⟨state, hstate, hold⟩
      · rcases parts _ hnew with heq | ⟨_, _, -, heq⟩ <;> cases heq
  moves named marked hmove := by
    rcases List.mem_append.mp marked with hold | hnew
    · exact absurd hold h.not_marked
    · obtain rfl : sessionId = named := by
        rcases parts _ hnew with heq | ⟨_, _, -, heq⟩
        · cases heq
          rfl
        · cases heq
      rcases haction with heq | ⟨_, _, -, heq⟩
      · exact absurd hnew (once heq)
      · rw [heq] at hmove
        cases hmove

theorem Stayed.parted (h : Stayed past) {extra : Past}
    (parts : ∀ x ∈ extra, Parts sessionId x.action) (marked : MarkedDetached extra sessionId) :
    Parting (past ++ extra) sessionId where
  marks named hmarked := by
    rcases List.mem_append.mp hmarked with hold | hnew
    · exact absurd hold h.not_marked
    · rcases parts _ hnew with heq | ⟨actorEmail, reason, -, heq⟩
      · cases heq
        rfl
      · cases heq
  truthful named := by
    rintro ⟨actorEmail, reason, hreason, haudit⟩
    rcases List.mem_append.mp haudit with hold | hnew
    · exact absurd ⟨actorEmail, reason, hreason, hold⟩ h.not_audited
    · rcases parts _ hnew with heq | ⟨other, given, hgiven, heq⟩
      · cases heq
      · have hentry : detachEntry actorEmail named reason = detachEntry other sessionId given := by
          simpa using heq
        rw [detachEntry_session hreason hgiven hentry]
        exact List.mem_append_right past marked

theorem Parting.append (h : Parting past sessionId) {extra : Past}
    (unmarked : ∀ named, ¬MarkedDetached extra named)
    (unaudited : ∀ named, ¬AuditedDetach extra named) : Parting (past ++ extra) sessionId where
  marks named marked := by
    rcases List.mem_append.mp marked with hold | hnew
    · exact h.marks named hold
    · exact absurd hnew (unmarked named)
  truthful named := by
    rintro ⟨actorEmail, reason, hreason, haudit⟩
    rcases List.mem_append.mp haudit with hold | hnew
    · exact (h.truthful named ⟨actorEmail, reason, hreason, hold⟩).later (List.prefix_append ..)
    · exact absurd ⟨actorEmail, reason, hreason, hnew⟩ (unaudited named)

theorem Parting.stay (h : Parting past sessionId) {extra : Past} (stayed : Stayed extra) :
    Parting (past ++ extra) sessionId :=
  h.append (fun _ => stayed.not_marked) (fun _ => stayed.not_audited)

/-- A task that looks at the state of its session does not leave it by that. -/
theorem Parting.look (h : Parting past sessionId)
    (state : Option Sunbolt.Terminal.TerminalSessionState) :
    Parting (past ++ [⟨.terminal (.state sessionId), state⟩]) sessionId := by
  refine h.append (fun named marked => ?_) (fun named audited => ?_)
  · cases List.mem_singleton.mp marked
  · obtain ⟨actorEmail, reason, -, haudit⟩ := audited
    cases List.mem_singleton.mp haudit

end Past

/-- Calls that leave no session and move none. -/
def Resting (action : Action) : Prop := Staying action ∧ isMove action = false

section Bodies

attribute [local simp] terminal agent node host Program.perform Staying isLeaving Resting isMove
  sendIgnored sendError record sessionIdMatches runIf recordRouteSelected recordRouteFailed
  closeAtAgent

variable {past : Past} {sessionId : TerminalSessionId} {origin : Stage}

/-! The parts of the handlers. -/

/-- Calls that leave nothing. -/
private theorem all_of_staying {α : Type} {p : Handler α} {Q : α → Prop} {Post : Past → α → Prop}
    (stayed : Stayed past) (h : p.Each Staying Q)
    (post : ∀ extra value, Stayed (past ++ extra) → Q value → Post (past ++ extra) value) :
    p.All DetachAct past Post :=
  h.all (fun _ _ hextra staying => (stayed.append hextra).act staying)
    (fun extra value hextra hvalue => post extra value (stayed.append hextra) hvalue)

/-- Calls of a task that has left its session and found it in another state. -/
private theorem all_of_left {α : Type} {p : Handler α} {Q : α → Prop} {Post : Past → α → Prop}
    (parting : Parting past sessionId) (left : LeftLoop past sessionId) (h : p.Each Staying Q)
    (post : ∀ later value, Truthful later → Q value → Post later value) :
    p.All DetachAct past Post := by
  refine h.all (fun extra action hextra staying => ?_)
    (fun extra value hextra hvalue => post _ value (parting.stay hextra).truthful hvalue)
  refine ⟨fun input haction hkind => ?_, fun named haction => ?_, fun named marked _ => ?_⟩
  · subst haction
    simp [hkind] at staying
  · subst haction
    cases staying
  · rw [(parting.stay hextra).marks named marked]
    exact left.later (List.prefix_append ..)

/-- Calls of a task that has left its session which move no session. -/
private theorem all_of_quiet {α : Type} {p : Handler α} {Q : α → Prop} {Post : Past → α → Prop}
    (parting : Parting past sessionId) (h : p.Each Resting Q)
    (post : ∀ extra value, Parting (past ++ extra) sessionId → Q value →
      Post (past ++ extra) value) :
    p.All DetachAct past Post := by
  refine h.all (fun extra action hextra quiet => ?_)
    (fun extra value hextra hvalue => post _ value
      (parting.stay (fun x hx => (hextra x hx).1)) hvalue)
  refine ⟨fun input haction hkind => ?_, fun named haction => ?_, fun named marked hmove => ?_⟩
  · subst haction
    simp [hkind] at quiet
  · subst haction
    cases quiet.1
  · rw [quiet.2] at hmove
    cases hmove

/-- What follows a loop: the handler looks at the state and may move the session only where it
    is not Detached. -/
private theorem parts_leave {next : Option Sunbolt.Terminal.TerminalSessionState →
      Handler (Option Stage)} (parting : Parting past sessionId)
    (detached : (next (some .detached)).Each Resting (fun next => next = none))
    (other : ∀ state, (next state).Each Staying (fun next => next = none)) :
    (terminal (.state sessionId) >>= next).All DetachAct past (detachOrder.post origin) := by
  rw [Program.all_bind]
  refine ⟨⟨by simp, by simp, by simp⟩, fun state => ?_⟩
  rw [Program.all_done]
  by_cases hstate : state = some .detached
  · subst hstate
    refine all_of_quiet (parting.look _) detached ?_
    rintro extra next hparting rfl
    exact hparting.truthful
  · refine all_of_left (parting.look state) ⟨state, hstate, by simp [Did]⟩ (other state) ?_
    rintro later next truthful rfl
    exact truthful

private theorem parts_leaveLocalSession {attachment : LocalAttachment}
    (parting : Parting past attachment.sessionId) :
    (leaveLocalSession attachment).All DetachAct past (detachOrder.post origin) :=
  parts_leave parting (by simp) (fun state => by simp)

private theorem parts_leaveRemoteSession {opening : RemoteOpening}
    (parting : Parting past opening.sessionId) :
    (leaveRemoteSession opening).All DetachAct past (detachOrder.post origin) :=
  parts_leave parting (by simp [releaseOpening]) (fun state => by simp [releaseOpening])

/-- A task marks its session and records that, in either order. -/
private theorem parts_mark {α : Type} {first second : Action} {next : Handler α}
    {Post : Past → α → Prop} (stayed : Stayed past) (parts : Parts sessionId first)
    (parts' : Parts sessionId second)
    (either : first = .terminal (.setState sessionId .detached) ↔
      second ≠ .terminal (.setState sessionId .detached))
    (rest : ∀ later, Parting later sessionId → next.All DetachAct later Post) :
    (Program.call first (fun _ => Program.call second (fun _ => next))).All DetachAct past
      Post := by
  have marked : ∀ reply, MarkedDetached [⟨first, reply⟩] sessionId →
      first = .terminal (.setState sessionId .detached) := by
    intro reply hmarked
    exact (congrArg Interaction.action (List.mem_singleton.mp hmarked)).symm
  have act : DetachAct (past ++ []) first :=
    stayed.act_parts (List.forall_mem_nil _) parts (fun _ => List.not_mem_nil)
  rw [List.append_nil] at act
  refine ⟨act, fun reply => ⟨stayed.act_parts ?_ parts' ?_, fun reply' => rest _ ?_⟩⟩
  · intro x hx
    rw [List.mem_singleton.mp hx]
    exact parts
  · exact fun hsecond hmarked => either.mp (marked reply hmarked) hsecond
  · rw [List.append_assoc]
    refine stayed.parted (fun x hx => ?_) ?_
    · rcases List.mem_cons.mp hx with rfl | hx
      · exact parts
      · rw [List.mem_singleton.mp hx]
        exact parts'
    · by_cases hfirst : first = .terminal (.setState sessionId .detached)
      · subst hfirst
        exact List.mem_cons_self ..
      · obtain hsecond := not_not.mp (fun hne => hfirst (either.mpr hne))
        subst hsecond
        exact List.mem_cons_of_mem _ (List.mem_cons_self ..)

private theorem parts_detachDisconnected {α : Type} {next : Handler α} {Post : Past → α → Prop}
    (stayed : Stayed past) (actorEmail : String)
    (rest : ∀ later, Parting later sessionId → next.All DetachAct later Post) :
    (do
      detachDisconnected actorEmail sessionId
      next).All DetachAct past Post := by
  exact parts_mark stayed (Or.inl rfl) (Or.inr ⟨actorEmail, _, by simp [detachReasons], rfl⟩)
    (by simp) rest

theorem staying_noteStreamError (attachment : LocalAttachment) (output : TerminalServerMessage) :
    (noteStreamError attachment output).Each Staying
      (fun noted => noted.sessionId = attachment.sessionId) := by
  cases output <;> simp [noteStreamError]

private theorem staying_reportFailure (active : TerminalSessionId)
    (result : Except Sunbolt.Terminal.TerminalError Unit) :
    (reportFailure active result).Each Staying (fun _ => True) := by
  cases result <;> simp [reportFailure]

/-- A frame leaves the handler in its loop, or it is about to leave the session. -/
def AfterDetach (sessionId : TerminalSessionId) (later : Past) (goesOn : Bool) : Prop :=
  Parting later sessionId ∧ (goesOn = true → Stayed later)

private theorem parts_frame {p : Handler Bool} (stayed : Stayed past)
    (h : p.Each Staying (fun _ => True)) :
    p.All DetachAct past (AfterDetach sessionId) :=
  all_of_staying stayed h (fun _ _ hstayed _ => ⟨hstayed.parting sessionId, fun _ => hstayed⟩)

private theorem parts_handleClientFrame {pty : Nat} (stayed : Stayed past) (actorEmail : String)
    (message : WebSocketMessage) :
    (handleClientFrame actorEmail pty sessionId message).All DetachAct past
      (AfterDetach sessionId) := by
  rw [handleClientFrame]
  split
  · exact parts_frame stayed (by simp)
  · exact parts_frame stayed (by simp [staying_reportFailure])
  · exact parts_frame stayed (by simp [staying_reportFailure])
  · exact parts_frame stayed (by simp [terminateLocalTerminal])
  · exact parts_frame stayed (by simp [terminateLocalTerminal])
  · rw [Program.all_bind]
    refine all_of_staying (Q := fun _ => True) stayed (by simp) (fun extra same hstayed _ => ?_)
    rw [Program.all_ite]
    refine ⟨fun _ => ⟨hstayed.parting sessionId, fun _ => hstayed⟩, fun _ => ?_⟩
    have quiet : (do
        sendIgnored (.detached sessionId)
        return false : Handler Bool).Each Resting (fun goesOn => goesOn = false) := by simp
    refine parts_mark hstayed (Or.inr ⟨actorEmail, _, by simp [detachReasons], rfl⟩) (Or.inl rfl)
      (by simp) (fun later parting => all_of_quiet parting quiet ?_)
    rintro more goesOn hparting rfl
    exact ⟨hparting, fun hgoes => by cases hgoes⟩
  · exact parts_frame stayed (by simp [reattachLocalTerminal])
  · exact parts_frame stayed (by simp)
  · exact parts_frame stayed (by simp)

private theorem staying_of_lookup (action : Action) (h : Lookup action) : Staying action := by
  unfold Lookup isLookup at h
  split at h <;> first | rfl | cases h

private theorem staying_terminateRemoteTerminal (actorEmail : String) (commands : Nat)
    (named active : TerminalSessionId) :
    (terminateRemoteTerminal actorEmail commands named active).Each Staying (fun _ => True) := by
  refine Program.Each.then (by simp) (fun same => ?_)
  rw [Program.each_ite]
  refine ⟨fun _ => by simp, fun _ => ?_⟩
  exact Program.Each.then ((lookup_authorizeSessionTerminate ..).imp staying_of_lookup)
    (fun allowed => by simp)

private theorem parts_handleRemoteClientFrame {commands : Nat} (stayed : Stayed past)
    (actorEmail : String) (message : WebSocketMessage) :
    (handleRemoteClientFrame actorEmail commands sessionId message).All DetachAct past
      (AfterDetach sessionId) := by
  rw [handleRemoteClientFrame]
  split
  · exact parts_frame stayed (by simp)
  · exact parts_frame stayed (by simp [forwardCommand])
  · exact parts_frame stayed (by simp [forwardCommand])
  · exact parts_frame stayed (staying_terminateRemoteTerminal ..)
  · exact parts_frame stayed (staying_terminateRemoteTerminal ..)
  · rename_i named _
    rw [Program.all_bind]
    refine all_of_staying (Q := fun _ => True) stayed (by simp) (fun extra same hstayed _ => ?_)
    rw [Program.all_ite]
    refine ⟨fun _ => ⟨hstayed.parting sessionId, fun _ => hstayed⟩, fun _ => ?_⟩
    have quiet : (do
        sendIgnored (.detached named)
        return false : Handler Bool).Each Resting (fun goesOn => goesOn = false) := by simp
    refine parts_mark hstayed (Or.inl rfl) (Or.inr ⟨actorEmail, _, by simp [detachReasons], rfl⟩)
      (by simp) (fun later parting => all_of_quiet parting quiet ?_)
    rintro more goesOn hparting rfl
    exact ⟨hparting, fun hgoes => by cases hgoes⟩
  · exact parts_frame stayed (by simp)
  · exact parts_frame stayed (by simp)
  · exact parts_frame stayed (by simp)

/-! The loops. -/

/-- A frame is handled, and the handler goes on or leaves. -/
private theorem parts_afterFrame {frame : Handler Bool} {stage : Stage}
    {leave : Handler (Option Stage)}
    (framed : frame.All DetachAct past (AfterDetach sessionId))
    (leaves : ∀ later, Parting later sessionId →
      leave.All DetachAct later (detachOrder.post origin)) :
    (do if ← frame then return some stage else leave).All DetachAct past
      (detachOrder.post origin) := by
  rw [Program.all_bind]
  refine framed.mono (fun later goesOn hlater => ?_)
  rw [Program.all_ite]
  exact ⟨fun hstays => hlater.2 hstays, fun _ => leaves later hlater.1⟩

private theorem parts_stop {p : Handler (Option Stage)} (stayed : Stayed past)
    (h : p.Each Staying (fun _ => True)) :
    p.All DetachAct past (detachOrder.post origin) := by
  refine all_of_staying stayed h (fun extra next hstayed _ => ?_)
  cases next with
  | none => exact hstayed.truthful
  | some stage => exact hstayed

private theorem parts_forwardLocalOutput {attachment : LocalAttachment} (stayed : Stayed past)
    (message : TerminalServerMessage) :
    (forwardLocalOutput attachment message).All DetachAct past (detachOrder.post origin) := by
  rw [forwardLocalOutput, Program.all_bind]
  refine all_of_staying (Q := fun _ => True) stayed (by simp) (fun _ _ touched _ => ?_)
  rw [Program.all_bind]
  refine all_of_staying (Q := fun _ => True) touched (by simp) (fun _ _ told _ => ?_)
  rw [Program.all_bind]
  refine all_of_staying told (staying_noteStreamError attachment message)
    (fun _ noted hnoted hsame => ?_)
  rw [Program.all_bind]
  refine all_of_staying (Q := fun _ => True) hnoted (by simp) (fun _ sent hsent _ => ?_)
  rw [Program.all_ite]
  refine ⟨fun _ => ?_, fun _ => ?_⟩
  · exact parts_detachDisconnected hsent _ (fun _ parting => parts_leaveLocalSession parting)
  · rw [Program.all_ite]
    exact ⟨fun _ => parts_leaveLocalSession (hsent.parting _), fun _ => hsent⟩

private theorem parts_expireLocalSession {attachment : LocalAttachment} (stayed : Stayed past)
    (reason : String) :
    (expireLocalSession attachment reason).All DetachAct past (detachOrder.post origin) := by
  rw [expireLocalSession, Program.all_bind]
  refine all_of_staying (Q := fun _ => True) stayed (by simp) (fun _ _ marked _ => ?_)
  rw [Program.all_bind]
  exact all_of_staying (Q := fun _ => True) marked (by simp)
    (fun _ _ told _ => parts_leaveLocalSession (told.parting _))

private theorem parts_localAttachedLoop {config : TerminalSessionConfig}
    {attachment : LocalAttachment} (stayed : Stayed past) :
    (localAttachedLoop config attachment).All DetachAct past (detachOrder.post origin) := by
  rw [localAttachedLoop, Program.all_bind]
  refine all_of_staying (Q := fun _ => True) stayed (by simp) (fun _ wake woken _ => ?_)
  cases wake with
  | output received next =>
    cases received with
    | lagged => exact woken
    | closed => exact parts_leaveLocalSession (woken.parting _)
    | value message => exact parts_forwardLocalOutput woken message
  | incoming message =>
    cases message with
    | none =>
      exact parts_detachDisconnected woken _ (fun _ parting => parts_leaveLocalSession parting)
    | some message =>
      dsimp only
      rw [Program.all_bind]
      refine all_of_staying (Q := fun _ => True) woken (by simp) (fun _ _ touched _ => ?_)
      exact parts_afterFrame (parts_handleClientFrame touched _ message)
        (fun _ parting => parts_leaveLocalSession parting)
  | idleCheck =>
    dsimp only
    rw [Program.all_bind]
    refine all_of_staying (Q := fun _ => True) woken (by simp) (fun _ idle checked _ => ?_)
    rw [Program.all_ite]
    refine ⟨fun _ => parts_expireLocalSession checked _, fun _ => ?_⟩
    rw [Program.all_bind]
    refine all_of_staying (Q := fun _ => True) checked (by simp) (fun _ exceeded again _ => ?_)
    rw [Program.all_ite]
    exact ⟨fun _ => parts_expireLocalSession again _, fun _ => again⟩

private theorem staying_agentEventToBrowserMessage (event : AgentTerminalEvent) (nodeId : NodeId)
    (status : Option TerminalTransportStatus) :
    (agentEventToBrowserMessage event nodeId status).Each Staying (fun _ => True) := by
  cases event <;> simp [agentEventToBrowserMessage]

private theorem parts_handleAgentEvent {opening : RemoteOpening} (stayed : Stayed past)
    (event : AgentTerminalEvent) :
    (handleAgentEvent opening event).All DetachAct past (detachOrder.post origin) := by
  rw [handleAgentEvent, Program.all_bind]
  refine all_of_staying stayed (staying_agentEventToBrowserMessage ..)
    (fun _ message made _ => ?_)
  rw [Program.all_bind]
  refine all_of_staying (Q := fun _ => True) made (by simp [markOpened]) (fun _ _ marked _ => ?_)
  dsimp only
  rw [Program.all_bind]
  refine all_of_staying (Q := fun _ => True) marked (by simp) (fun _ _ kept _ => ?_)
  rw [Program.all_bind]
  refine all_of_staying (Q := fun _ => True) kept (by simp) (fun _ _ told _ => ?_)
  rw [Program.all_bind]
  refine all_of_staying (Q := fun _ => True) told (by simp) (fun _ sent hsent _ => ?_)
  rw [Program.all_ite]
  refine ⟨fun _ => ?_, fun _ => ?_⟩
  · exact parts_detachDisconnected hsent _ (fun _ parting => parts_leaveRemoteSession parting)
  · rw [Program.all_ite]
    refine ⟨fun _ => ?_, fun _ => hsent⟩
    rw [Program.all_bind]
    exact all_of_staying (Q := fun _ => True) hsent (by simp)
      (fun _ _ removed _ => parts_leaveRemoteSession (removed.parting _))

private theorem parts_remoteOpenedLoop {opening : RemoteOpening} (stayed : Stayed past) :
    (remoteOpenedLoop opening).All DetachAct past (detachOrder.post origin) := by
  rw [remoteOpenedLoop, Program.all_bind]
  refine all_of_staying (Q := fun _ => True) stayed (by simp) (fun _ wake woken _ => ?_)
  cases wake with
  | event event =>
    cases event with
    | none =>
      dsimp only
      rw [Program.all_bind]
      exact all_of_staying (Q := fun _ => True) woken (by simp)
        (fun _ _ told _ => parts_leaveRemoteSession (told.parting _))
    | some event => exact parts_handleAgentEvent woken event
  | incoming message =>
    cases message with
    | none =>
      exact parts_detachDisconnected woken _ (fun _ parting => parts_leaveRemoteSession parting)
    | some message =>
      exact parts_afterFrame (parts_handleRemoteClientFrame woken _ message)
        (fun _ parting => parts_leaveRemoteSession parting)

private theorem parts_remoteAttachedLoop {attachment : RemoteAttachment} (stayed : Stayed past) :
    (remoteAttachedLoop attachment).All DetachAct past (detachOrder.post origin) := by
  have gone : ∀ {later : Past}, Parting later attachment.sessionId →
      (return none : Handler (Option Stage)).All DetachAct later (detachOrder.post origin) :=
    fun parting => parting.truthful
  rw [remoteAttachedLoop, Program.all_bind]
  refine all_of_staying (Q := fun _ => True) stayed (by simp) (fun _ wake woken _ => ?_)
  cases wake with
  | output received next =>
    cases received with
    | lagged => exact woken
    | closed => exact woken.truthful
    | value message =>
      dsimp only
      rw [Program.all_bind]
      refine all_of_staying (Q := fun _ => True) woken (by simp) (fun _ _ touched _ => ?_)
      rw [Program.all_bind]
      refine all_of_staying (Q := fun _ => True) touched (by simp) (fun _ sent hsent _ => ?_)
      rw [Program.all_ite]
      refine ⟨fun _ => parts_detachDisconnected hsent _ (fun _ parting => gone parting),
        fun _ => parts_stop hsent ?_⟩
      simp
  | incoming message =>
    cases message with
    | none => exact parts_detachDisconnected woken _ (fun _ parting => gone parting)
    | some message =>
      dsimp only
      rw [Program.all_bind]
      refine all_of_staying (Q := fun _ => True) woken (by simp) (fun _ _ touched _ => ?_)
      exact parts_afterFrame (parts_handleRemoteClientFrame touched _ message)
        (fun _ parting => gone parting)
  | idleCheck => exact woken

/-! The first frame. -/

private theorem staying_sendReplay (messages : List TerminalServerMessage) :
    (sendReplay messages).Each Staying (fun _ => True) := by
  induction messages with
  | nil => trivial
  | cons message rest ih => simpa [sendReplay] using ih

private theorem parts_handleTerminalReattach (stayed : Stayed past) (actorEmail : String)
    (sessionId : TerminalSessionId) (token : TerminalReconnectToken) :
    (handleTerminalReattach actorEmail sessionId token).All DetachAct past
      (detachOrder.post origin) := by
  rw [handleTerminalReattach, Program.all_bind]
  refine all_of_staying stayed ((lookup_authorizeSessionReattach ..).imp staying_of_lookup)
    (fun _ allowed asked _ => ?_)
  rw [Program.all_ite]
  refine ⟨fun _ => parts_stop asked (by simp), fun _ => ?_⟩
  rw [Program.all_bind]
  refine all_of_staying (Q := fun _ => True) asked (by simp) (fun _ target hreply _ => ?_)
  cases target with
  | none =>
    -- the state only tells which error the browser is sent
    dsimp only
    rw [Program.all_bind, terminalMissingOrExpiredCode, Program.all_bind]
    refine ⟨⟨by simp, by simp, by simp⟩, fun state => ?_⟩
    rw [Program.all_done]
    refine all_of_quiet (Q := fun _ => True) ((hreply.parting sessionId).look state) ?_
      (fun _ code answered _ => ?_)
    · split <;> trivial
    · refine all_of_quiet (Q := fun next => next = none) answered (by simp) ?_
      rintro more next hparting rfl
      exact hparting.truthful
  | some target =>
    refine parts_stop hreply (Program.Each.then (by simp) (fun _ => ?_))
    refine Program.Each.then (staying_sendReplay _) (fun _ => ?_)
    cases target.backend <;> simp

private theorem staying_openLocalTerminal (config : TerminalSessionConfig) (actorEmail : String)
    (sessionId : TerminalSessionId) (size : ProtocolTerminalSize) :
    (openLocalTerminal config actorEmail sessionId size).Each Staying (fun _ => True) := by
  refine Program.Each.then (by simp) (fun spawned => ?_)
  cases spawned with
  | error error => simp
  | ok pty =>
    refine Program.Each.then (by simp) (fun inserted => ?_)
    cases inserted <;> simp [startLocalTerminal]

private theorem staying_startRemoteTerminal (config : TerminalSessionConfig)
    (actorEmail : String) (nodeId : NodeId) (sessionId : TerminalSessionId)
    (size : ProtocolTerminalSize) (route : NodeRoute) :
    (startRemoteTerminal config actorEmail nodeId sessionId size route).Each Staying
      (fun _ => True) := by
  refine Program.Each.then (by simp) (fun connection => ?_)
  cases connection with
  | none => simp
  | some connection =>
    refine Program.Each.then (by simp) (fun sent => ?_)
    rw [Program.each_ite]
    refine ⟨fun _ => by simp, fun _ => Program.Each.then (by simp) (fun inserted => ?_)⟩
    cases inserted <;> simp

private theorem staying_openRemoteTerminal (config : TerminalSessionConfig) (actorEmail : String)
    (nodeId : NodeId) (sessionId : TerminalSessionId) (size : ProtocolTerminalSize) :
    (openRemoteTerminal config actorEmail nodeId sessionId size).Each Staying
      (fun _ => True) := by
  refine Program.Each.then (by simp) (fun allowed => ?_)
  rw [Program.each_ite]
  refine ⟨fun _ => by simp, fun _ => Program.Each.then (by simp) (fun online => ?_)⟩
  rw [Program.each_ite]
  refine ⟨fun _ => by simp, fun _ => ?_⟩
  refine Program.Each.then (by simp) (fun connection => ?_)
  refine Program.Each.then (by simp) (fun relays => ?_)
  refine Program.Each.then (by simp) (fun route => ?_)
  match route with
  | none => simp
  | some (.relayNode target relay) => simp
  | some (.directAgent target) =>
    exact Program.Each.then (by simp) (fun _ => staying_startRemoteTerminal ..)

private theorem parts_handleTerminalSocket (config : TerminalSessionConfig) (stayed : Stayed past)
    (actorEmail : String) :
    (handleTerminalSocket config actorEmail).All DetachAct past (detachOrder.post origin) := by
  rw [handleTerminalSocket, Program.all_bind]
  refine all_of_staying (Q := fun _ => True) stayed (by simp) (fun _ first received _ => ?_)
  cases first with
  | none => exact received.truthful
  | some first =>
    dsimp only
    cases parseClientMessage first with
    | error error => exact parts_stop received (by simp)
    | ok message =>
      cases message with
      | reattach sessionId token => exact parts_handleTerminalReattach received ..
      | start nodeId size =>
        refine parts_stop received (Program.Each.then (by simp) (fun sessionId => ?_))
        cases nodeId with
        | none => exact staying_openLocalTerminal ..
        | some nodeId => exact staying_openRemoteTerminal ..
      | _ => exact parts_stop received (by simp)

/-! The other handlers. -/

private theorem staying_closeRemoved (error : Sunbolt.Protocol.TerminalError)
    (auditText : TerminalSessionId → String) (removed : List RemovedSession) :
    (closeRemoved error auditText removed).Each Staying (fun _ => True) := by
  induction removed with
  | nil => trivial
  | cons session rest ih =>
    rw [closeRemoved]
    cases session.backend <;> simp [ih]

private theorem staying_finishReader (pty output : Nat) (sessionId : TerminalSessionId) :
    (finishReader pty sessionId output).Each Staying (fun _ => True) := by
  refine Program.Each.then (by simp) (fun exit => ?_)
  unfold broadcastExit
  split <;> simp

private theorem staying_readPtyOutput (pty output : Nat) (sessionId : TerminalSessionId) :
    (readPtyOutput pty sessionId output).Each Staying (fun _ => True) := by
  refine Program.Each.then (by simp) (fun closed => ?_)
  rw [Program.each_ite]
  refine ⟨fun _ => staying_finishReader .., fun _ => Program.Each.then (by simp) (fun read => ?_)⟩
  split
  · exact staying_finishReader ..
  · exact staying_finishReader ..
  · refine Program.Each.then (by simp) (fun message => ?_)
    cases message <;> simp [broadcastRecorded]
  · refine Program.Each.then (by simp) (fun exit => Program.Each.then ?_ (fun _ =>
      staying_finishReader ..))
    unfold broadcastExit
    split <;> simp

private theorem staying_sessionCleanupWorker (config : TerminalSessionConfig) :
    (sessionCleanupWorker config).Each Staying (fun _ => True) := by
  refine Program.Each.then (by simp) (fun expired => ?_)
  exact Program.Each.then (staying_closeRemoved ..) (fun _ => by simp)

private theorem staying_terminateTerminalSession (actorEmail : String)
    (sessionId : TerminalSessionId) :
    (terminateTerminalSession actorEmail sessionId).Each Staying (fun _ => True) := by
  refine Program.Each.then (by simp) (fun owner => ?_)
  rw [Program.each_ite]
  refine ⟨fun _ => by simp, fun _ => ?_⟩
  refine Program.Each.then ?_ (fun allowed => ?_)
  · refine Program.Each.then (by simp) (fun nodeId => ?_)
    cases nodeId <;> simp
  · rw [Program.each_ite]
    refine ⟨fun _ => by simp, fun _ => Program.Each.then (by simp) (fun backend => ?_)⟩
    match backend with
    | none => simp
    | some (.local pty) => simp
    | some (.remote commands) => simp

private theorem staying_revokeNode (actorEmail nodeId : String) :
    (revokeNode actorEmail nodeId).Each Staying (fun _ => True) := by
  refine Program.Each.then (by simp) (fun allowed => ?_)
  match allowed with
  | none => simp
  | some false => simp
  | some true =>
    refine Program.Each.then (by simp) (fun revoked => ?_)
    split
    · simp
    · simp
    · refine Program.Each.then (by simp) (fun closed => ?_)
      exact Program.Each.then (staying_closeRemoved ..) (fun _ => by simp)

private theorem staying_handleAgentTransportEnvelope (handshake : AgentTransportHandshake)
    (envelope : AgentTransportEnvelope) (channel : Nat) :
    (handleAgentTransportEnvelope handshake envelope channel).Each Staying (fun _ => True) := by
  rw [handleAgentTransportEnvelope]
  split
  · simp
  · rw [Program.each_ite]
    refine ⟨fun _ => by simp, fun _ => ?_⟩
    split <;> simp

private theorem staying_agentConnectedLoop (session : AgentSession) :
    (agentConnectedLoop session).Each Staying (fun _ => True) := by
  refine Program.Each.then (by simp) (fun wake => ?_)
  split
  · refine Program.Each.then ?_ (fun outcome => ?_)
    · rw [frameResult]
      split
      · exact staying_handleAgentTransportEnvelope ..
      · simp
    · split <;> simp [leaveAgentSocket]
  all_goals simp [leaveAgentSocket]

private theorem staying_negotiateTransportForKind (envelope : AgentTransportEnvelope)
    (kind : AgentTransportKind) :
    (negotiateTransportForKind envelope kind).Each Staying (fun _ => True) := by
  rw [negotiateTransportForKind]
  split
  · simp
  · split
    · split
      · simp
      · refine Program.Each.then (Program.Each.then (by simp) (fun result => ?_))
          (fun result => ?_)
        · split <;> simp
        · split <;> simp
    · simp

private theorem staying_recordAuthenticationFailure (nodeId : NodeId)
    (transportId : AgentTransportId) (error : AgentTransportConnectionError) :
    (recordAgentTransportAuthenticationFailure nodeId transportId error).Each Staying
      (fun _ => True) := by
  rw [recordAgentTransportAuthenticationFailure]
  simp

private theorem staying_handleAgentTransportSocket :
    handleAgentTransportSocket.Each Staying (fun _ => True) := by
  refine Program.Each.then (by simp) (fun first => ?_)
  split
  · simp
  · simp
  · split
    · simp
    · refine Program.Each.then (staying_negotiateTransportForKind ..) (fun result => ?_)
      split
      · exact Program.Each.then (staying_recordAuthenticationFailure ..) (fun _ => by simp)
      · refine Program.Each.then (by simp) (fun registered => ?_)
        simp [recordAgentReplaced, recordAgentNegotiated]

private theorem staying_longPollEnvelope (handshake : AgentTransportHandshake) (channel : Nat)
    (payload : AgentTransportPayload) :
    (longPollEnvelope handshake channel payload).Each Staying (fun _ => True) := by
  simp [longPollEnvelope]

private theorem staying_handleLongPollEvents (handshake : AgentTransportHandshake) (channel : Nat)
    (events envelopes : List AgentTransportEnvelope) :
    (handleLongPollEvents handshake channel events envelopes).Each Staying (fun _ => True) := by
  induction events generalizing envelopes with
  | nil => trivial
  | cons event events ih =>
    refine Program.Each.then (staying_handleAgentTransportEnvelope ..) (fun outcome => ?_)
    split
    · exact Program.Each.then (staying_longPollEnvelope ..) (fun _ => ih _)
    · exact ih _
    · exact Program.Each.then (staying_longPollEnvelope ..) (fun _ => ih _)

private theorem staying_takeLongPollCommands (handshake : AgentTransportHandshake)
    (channel room : Nat) (envelopes : List AgentTransportEnvelope) :
    (takeLongPollCommands handshake channel room envelopes).Each Staying (fun _ => True) := by
  induction room generalizing envelopes with
  | zero => trivial
  | succ room ih =>
    refine Program.Each.then (by simp) (fun command => ?_)
    cases command with
    | none => simp
    | some command => exact Program.Each.then (staying_longPollEnvelope ..) (fun _ => ih _)

private theorem staying_appendLongPollCommands (handshake : AgentTransportHandshake) (channel : Nat)
    (envelopes : List AgentTransportEnvelope) :
    (appendLongPollCommands handshake channel envelopes).Each Staying (fun _ => True) := by
  refine Program.Each.then (by simp) (fun _ => ?_)
  refine Program.Each.then ?_ (fun awaited => ?_)
  · rw [awaitLongPollCommand, Program.each_ite]
    refine ⟨fun _ => by simp, fun _ => Program.Each.then (by simp) (fun command => ?_)⟩
    cases command with
    | none => simp
    | some command => exact Program.Each.then (staying_longPollEnvelope ..) (fun _ => by simp)
  · exact Program.Each.then (staying_takeLongPollCommands ..) (fun _ => by simp)

private theorem staying_rejectLongPoll (failed : AgentTransportEnvelope)
    (error : AgentTransportConnectionError) :
    (rejectLongPoll failed error).Each Staying (fun _ => True) :=
  Program.Each.then (staying_recordAuthenticationFailure ..) (fun _ => by simp)

private theorem staying_sendAll (envelopes : List AgentTransportEnvelope) :
    (sendAll envelopes).Each Staying (fun _ => True) := by
  induction envelopes with
  | nil => trivial
  | cons envelope rest ih => simpa [sendAll] using ih

private theorem staying_agentTransportLongPoll (request : AgentTransportLongPollRequest) :
    (agentTransportLongPoll request).Each Staying (fun _ => True) := by
  refine Program.Each.then (staying_negotiateTransportForKind ..) (fun result => ?_)
  split
  · exact staying_rejectLongPoll ..
  · refine Program.Each.then (by simp) (fun registered => ?_)
    refine Program.Each.then ?_ (fun _ => ?_)
    · simp [recordLongPollRegistration, recordAgentReplaced, recordAgentNegotiated]
    · rw [Program.each_ite]
      refine ⟨fun _ => ?_, fun _ => ?_⟩
      · exact Program.Each.then (staying_recordAuthenticationFailure ..) (fun _ => by simp)
      refine Program.Each.then (staying_longPollEnvelope ..) (fun hello => ?_)
      refine Program.Each.then (staying_handleLongPollEvents ..) (fun envelopes => ?_)
      refine Program.Each.then (staying_appendLongPollCommands ..) (fun envelopes => ?_)
      exact Program.Each.then (by simp) (fun _ =>
        Program.Each.then (staying_sendAll _) (fun _ => by simp))

end Bodies

/-- Every handler leaves its session in this order. -/
theorem detachOrder_sound (config : TerminalSessionConfig) :
    detachOrder.Sound (controlPlane config) entry where
  entered _ := List.forall_mem_nil _
  spawned _ _ _ := List.forall_mem_nil _
  body := by
    intro origin stage past stayed
    cases stage with
    | terminalSocket actorEmail => exact parts_handleTerminalSocket config stayed actorEmail
    | localAttached attachment => exact parts_localAttachedLoop stayed
    | remoteOpened opening => exact parts_remoteOpenedLoop stayed
    | remoteAttached attachment => exact parts_remoteAttachedLoop stayed
    | ptyReader pty sessionId output => exact parts_stop stayed (staying_readPtyOutput ..)
    | terminateSession actorEmail sessionId =>
      exact parts_stop stayed (staying_terminateTerminalSession ..)
    | cleanupWorker => exact parts_stop stayed (staying_sessionCleanupWorker config)
    | revokeNode actorEmail nodeId => exact parts_stop stayed (staying_revokeNode ..)
    | agentSocket => exact parts_stop stayed staying_handleAgentTransportSocket
    | agentConnected session => exact parts_stop stayed (staying_agentConnectedLoop session)
    | agentLongPoll request => exact parts_stop stayed (staying_agentTransportLongPoll request)

end Sunbolt.Control
