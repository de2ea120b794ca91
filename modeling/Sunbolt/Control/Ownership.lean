/- Module: Sunbolt/Control/Ownership
   scope: sunbolt-control/src/terminal/mod.rs
   digest: Only the user who opened a session drives its terminal. -/

import Sunbolt.Control.SessionLedger

set_option autoImplicit false
set_option relaxedAutoImplicit false

namespace Sunbolt.Control

open Sunbolt.Library
open Sunbolt.Protocol (TerminalSessionId)

/-- The authenticated user behind a browser connection or a terminate request. -/
def requester : Stage → Option String
  | .terminalSocket actorEmail => some actorEmail
  | .terminateSession actorEmail _ => some actorEmail
  | _ => none

/-- The PTY is the one of this session. -/
def HoldsPty (history : History) (sessionId : TerminalSessionId) (pty : Nat) : Prop :=
  ∃ task request output, OpenedBy history task request output ∧
    request.sessionId = sessionId ∧ request.backend = .local pty

/-- The call applies input, a resize or a close to the session's PTY, or sends its agent the
    command for it. -/
def Drives (history : History) (sessionId : TerminalSessionId) : Action → Prop
  | .terminal (.writeInput pty _) => HoldsPty history sessionId pty
  | .terminal (.resize pty _) => HoldsPty history sessionId pty
  | .terminal (.close pty) => HoldsPty history sessionId pty
  | .terminal (.terminate named) => named = sessionId
  | .terminal (.remove named) => named = sessionId
  | .agent (.sendCommand _ (.writeInput named _)) => named = sessionId
  | .agent (.sendCommand _ (.resizeTerminal named _)) => named = sessionId
  | .agent (.sendCommand _ (.closeTerminal named)) => named = sessionId
  | _ => False

/-- A start message of this user was given this session id. -/
def OpensSession (history : History) (sessionId : TerminalSessionId) (actorEmail : String) :
    Prop :=
  ∃ e ∈ history, e.origin = .terminalSocket actorEmail ∧
    e.interaction = ⟨.host .nextSessionId, sessionId⟩

/-- The user opened the session, and the registry knows nobody else as its actor. -/
structure Owns (history : History) (sessionId : TerminalSessionId) (actorEmail : String) :
    Prop where
  opens : OpensSession history sessionId actorEmail
  recorded : ∀ {task request output}, OpenedBy history task request output →
    request.sessionId = sessionId → request.actorEmail = actorEmail

section Owner

variable {config : TerminalSessionConfig} {nodes : NodeEnrollmentState}
  {history : History} {pool : ControlPool}

private theorem opensSession_of_did {task : Nat} {sessionId : TerminalSessionId}
    {actorEmail : String} (issued : Did (own task history) (.host .nextSessionId) sessionId)
    (origin : ∀ e ∈ history, e.task = task → e.origin = .terminalSocket actorEmail) :
    OpensSession history sessionId actorEmail := by
  obtain ⟨e, he, htask, heq⟩ := Service.mem_own.mp issued
  exact ⟨e, he, origin e he htask, heq⟩

private theorem owns_of_opened (h : Reaches config nodes history pool) {task output : Nat}
    {request : TerminalSessionInsert} (opened : OpenedBy history task request output) :
    Owns history request.sessionId request.actorEmail where
  opens := opensSession_of_did (h.ledger.inserted opened).1
    (fun e he htask => h.opener_origin opened he htask)
  recorded opened' hid := by
    obtain ⟨-, rfl, -⟩ := h.ledger.unique_id opened' opened hid
    rfl

variable {front back : History} {e : ControlEvent} {actorEmail : String}
  {sessionId : TerminalSessionId}

private theorem owns_of_attached (h : Reaches config nodes history pool)
    (hsplit : history = front ++ e :: back) (origin : e.origin = .terminalSocket actorEmail)
    {backend : TerminalBackend} {output : Nat}
    (attached : Attached (own e.task front) actorEmail sessionId backend output) :
    Owns history sessionId actorEmail := by
  obtain ⟨opener, request, hopened, rfl, -, rfl⟩ := h.attached hsplit origin attached
  exact owns_of_opened h (hopened.later (hsplit ▸ own_isPrefix opener front (e :: back)))

/-- Whoever is attached to a PTY owns the session that has it. -/
private theorem owns_of_pty (h : Reaches config nodes history pool)
    (hsplit : history = front ++ e :: back) (origin : e.origin = .terminalSocket actorEmail)
    {pty : Nat} (holds : HoldsPty history sessionId pty)
    (attached : ∃ named output,
      Attached (own e.task front) actorEmail named (.local pty) output) :
    Owns history sessionId actorEmail := by
  obtain ⟨named, output, attached⟩ := attached
  obtain ⟨opener, request, hopened, rfl, hbackend, rfl⟩ := h.attached hsplit origin attached
  obtain ⟨task, holder, channel, hheld, rfl, hpty⟩ := holds
  have hopened : OpenedBy history opener request output :=
    hopened.later (hsplit ▸ own_isPrefix opener front (e :: back))
  obtain ⟨-, rfl, -⟩ := h.ledger.unique_pty hopened hheld hbackend hpty
  exact owns_of_opened h hopened

private theorem not_refused_of_pty (h : Reaches config nodes history pool)
    (hsplit : history = front ++ e :: back) {pty : Nat} {named : TerminalSessionId}
    (holds : HoldsPty history sessionId pty) :
    ¬InsertRefused (own e.task front) named (.local pty) := by
  rintro ⟨request, error, hrefused, -, hbackend⟩
  obtain ⟨task, holder, channel, hheld, -, hpty⟩ := holds
  have hlater := hrefused.later (hsplit ▸ own_isPrefix e.task front (e :: back))
  obtain ⟨-, -, heq⟩ := h.ledger.unique_pty hlater hheld hbackend hpty
  cases heq

/-- A session whose insert was refused is its starter's, and nobody ever opens it. -/
private theorem owns_of_refused (h : Reaches config nodes history pool)
    (hsplit : history = front ++ e :: back) (origin : e.origin = .terminalSocket actorEmail)
    {backend : TerminalBackend} (refused : InsertRefused (own e.task front) sessionId backend) :
    Owns history sessionId actorEmail := by
  obtain ⟨request, error, hrefused, rfl, -⟩ := refused
  have hlater := hrefused.later (hsplit ▸ own_isPrefix e.task front (e :: back))
  have issued := (h.ledger.inserted hlater).1
  have he : e ∈ history := hsplit ▸ List.mem_append_right _ (List.mem_cons_self ..)
  refine ⟨opensSession_of_did issued (fun other hother htask =>
    (h.origin hother he htask).trans origin), fun {task later output} hopened hid => ?_⟩
  have hissued := (h.ledger.inserted hopened).1
  rw [hid] at hissued
  obtain rfl := h.ledger.issuedOnce hissued issued
  cases h.ledger.insertedOnce hopened hlater

private theorem owns_of_browser (h : Reaches config nodes history pool)
    (hsplit : history = front ++ e :: back) (origin : e.origin = .terminalSocket actorEmail)
    (drives : Drives history sessionId e.action) : Owns history sessionId actorEmail := by
  have act := (h.next hsplit).act
  rw [origin] at act
  cases haction : e.action with
  | terminal action =>
    rw [haction] at act drives
    cases action with
    | writeInput pty data => exact owns_of_pty h hsplit origin drives act
    | resize pty size => exact owns_of_pty h hsplit origin drives act
    | close pty =>
      rcases act with ⟨named, refused⟩ | ⟨named, output, attached, -⟩
      · exact absurd refused (not_refused_of_pty h hsplit drives)
      · exact owns_of_pty h hsplit origin drives ⟨named, output, attached⟩
    | terminate named =>
      obtain ⟨⟨channel, output, opened⟩, -⟩ := act
      exact drives ▸ owns_of_attached h hsplit origin (Or.inl opened)
    | remove named =>
      rcases act with ⟨⟨pty, output, attached⟩, -⟩ | ⟨channel, output, attached⟩
      · exact drives ▸ owns_of_attached h hsplit origin attached
      · exact drives ▸ owns_of_attached h hsplit origin attached
    | _ => cases drives
  | agent action =>
    rw [haction] at act drives
    cases action with
    | sendCommand channel command =>
      cases command with
      | startTerminal named size => cases drives
      | writeInput named data =>
        obtain ⟨output, attached⟩ := act
        exact drives ▸ owns_of_attached h hsplit origin attached
      | resizeTerminal named size =>
        obtain ⟨output, attached⟩ := act
        exact drives ▸ owns_of_attached h hsplit origin attached
      | closeTerminal named =>
        rcases act with ⟨output, attached⟩ | refused
        · exact drives ▸ owns_of_attached h hsplit origin attached
        · exact drives ▸ owns_of_refused h hsplit origin refused
    | _ => cases drives
  | node action =>
    rw [haction] at drives
    cases drives
  | host action =>
    rw [haction] at drives
    cases drives

private theorem owns_of_terminate (h : Reaches config nodes history pool)
    (hsplit : history = front ++ e :: back) {target : TerminalSessionId}
    (origin : e.origin = .terminateSession actorEmail target)
    (drives : Drives history sessionId e.action) : Owns history sessionId actorEmail := by
  have next := h.next hsplit
  have act := next.act
  rw [origin] at act
  have owned : Did (own e.task front) (.terminal (.ownerMatches target actorEmail)) true →
      Owns history target actorEmail := by
    intro hd
    obtain ⟨opener, request, output, hopened, rfl, rfl⟩ := next.ledger.owner hd
    exact owns_of_opened h (hopened.later (hsplit ▸ own_isPrefix opener front (e :: back)))
  cases haction : e.action with
  | terminal action =>
    rw [haction] at act drives
    cases action with
    | terminate named =>
      obtain ⟨rfl, hd⟩ := act
      exact drives ▸ owned hd
    | writeInput pty data => cases act
    | resize pty size => cases act
    | close pty => cases act
    | remove named => cases act
    | _ => cases drives
  | agent action =>
    rw [haction] at act drives
    cases action with
    | sendCommand channel command =>
      obtain ⟨rfl, hd, -⟩ := act
      exact drives ▸ owned hd
    | _ => cases drives
  | node action =>
    rw [haction] at drives
    cases drives
  | host action =>
    rw [haction] at drives
    cases drives

/-- Whatever a browser message or a terminate request applies to a terminal, its user is the
    one who opened the session. -/
theorem drives_only_owner (h : Reaches config nodes history pool) (he : e ∈ history)
    (user : requester e.origin = some actorEmail)
    (drives : Drives history sessionId e.action) : Owns history sessionId actorEmail := by
  obtain ⟨front, back, hsplit⟩ := List.append_of_mem he
  cases horigin : e.origin with
  | terminalSocket actor =>
    rw [horigin] at user
    cases user
    exact owns_of_browser h hsplit horigin drives
  | terminateSession actor target =>
    rw [horigin] at user
    cases user
    exact owns_of_terminate h hsplit horigin drives
  | _ =>
    rw [horigin] at user
    cases user

end Owner

/-- A user opens a terminal and types into it. -/
private def typing : List (Label Arrival Choice) :=
  localOpening 0 "alice" "t0" ++
    [.move 0 (.browser (some (.text (.ok (.input (sessionIdOf 1) "ls"))))), .move 0 (.clock 1),
      .move 0 (.system (.ok ()))]

private def typed : History := calls defaultTerminalSessionConfig ⟨[], [], []⟩ typing

theorem drives_only_owner_typing : ∃ e ∈ typed, Drives typed (sessionIdOf 1) e.action ∧
    Owns typed (sessionIdOf 1) "alice" := by
  obtain ⟨pool, h⟩ : ∃ pool, Reaches defaultTerminalSessionConfig ⟨[], [], []⟩ typed pool :=
    reaches_calls rfl
  obtain ⟨e, he⟩ : ∃ e, typed[12]? = some e := ⟨_, rfl⟩
  have haction : typed[12]?.map Event.action = some (.terminal (.writeInput 0 "ls")) := rfl
  have horigin : typed[12]?.map Event.origin = some (.terminalSocket "alice") := rfl
  rw [he, Option.map_some, Option.some.injEq] at haction horigin
  have holds : HoldsPty typed (sessionIdOf 1) 0 :=
    ⟨0, _, 0, List.mem_of_getElem? (i := 3) rfl, rfl, rfl⟩
  have drives : Drives typed (sessionIdOf 1) e.action := haction ▸ holds
  have hmem := List.mem_of_getElem? he
  exact ⟨e, hmem, drives, drives_only_owner h hmem (horigin ▸ rfl) drives⟩

end Sunbolt.Control
