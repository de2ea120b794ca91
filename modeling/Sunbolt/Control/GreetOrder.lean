/- Module: Sunbolt/Control/GreetOrder
   scope: sunbolt-control/src/terminal/mod.rs
   digest: Where the token comes from that a browser is sent along with its session. -/

import Sunbolt.Control.TellOrder

set_option autoImplicit false
set_option relaxedAutoImplicit false

namespace Sunbolt.Control

open Sunbolt.Library
open Sunbolt.Protocol (TerminalSessionId TerminalReconnectToken TerminalServerMessage
  AgentTerminalEvent NodeId)

/-- The session and the token of a message that tells a browser of its session. -/
def greetingOf :
    TerminalServerMessage → Option (TerminalSessionId × Option TerminalReconnectToken)
  | .started sessionId _ _ token _ => some (sessionId, token)
  | .reattached sessionId _ _ token _ => some (sessionId, token)
  | _ => none

/-- The task was attached to a local session when it read the session's token. -/
def ReadToken (past : Past) (actorEmail : String) (sessionId : TerminalSessionId)
    (token : Option TerminalReconnectToken) : Prop :=
  ∃ early late pty output,
    past = early ++ ⟨.terminal (.reconnectToken sessionId), token⟩ :: late ∧
      Attached early actorEmail sessionId (.local pty) output

/-- The token was read, or it came with a reattach; an event of a node brings none, and what the
    task received for its browser it only passes on. -/
def TokenSource (actorEmail : String) (past : Past) (message : TerminalServerMessage)
    (sessionId : TerminalSessionId) (token : Option TerminalReconnectToken) : Prop :=
  ReadToken past actorEmail sessionId token ∨
  (∃ given target, Did past (.terminal (.reattach sessionId given actorEmail)) (some target) ∧
    token = some target.reconnectToken) ∨
  (token = none ∧ ∃ channel event, Took past channel event) ∨
  ∃ x ∈ past, message ∈ streamOf x

/-- A message that tells the browser of its session has a token that comes from somewhere. -/
def greets (actorEmail : String) (past : Past) (action : Action) : Prop :=
  ∀ message sessionId token, action = .host (.send message) →
    greetingOf message = some (sessionId, token) →
    TokenSource actorEmail past message sessionId token

def greetAct : Stage → Past → Action → Prop
  | .terminalSocket actorEmail => greets actorEmail
  | _ => fun _ _ => True

/-- How the handlers tell their browsers of the sessions. -/
def greetOrder : Discipline Action Reply Stage :=
  ⟨greetAct, fun _ _ _ => True, fun _ _ => True⟩

theorem ReadToken.later {past longer : Past} (h : past <+: longer) {actorEmail : String}
    {sessionId : TerminalSessionId} {token : Option TerminalReconnectToken}
    (hread : ReadToken past actorEmail sessionId token) :
    ReadToken longer actorEmail sessionId token := by
  obtain ⟨extra, rfl⟩ := h
  obtain ⟨early, late, pty, output, rfl, attached⟩ := hread
  exact ⟨early, late ++ extra, pty, output, by simp, attached⟩

/-- The reasons for telling a browser of its session say where the token comes from. -/
theorem greets_of_tells {actorEmail : String} {past : Past} {action : Action}
    (h : tells actorEmail past action) : greets actorEmail past action := by
  intro message sessionId token haction hgreeting
  have loud : isMute action = false := by
    subst haction
    cases message <;> first | rfl | cases hgreeting
  cases h message haction loud with
  | opened early named size given pty output attached reads =>
    cases hgreeting
    exact Or.inl ⟨early, [], pty, output, reads, attached⟩
  | again early named given pty output attached reads =>
    cases hgreeting
    exact Or.inl ⟨early, [], pty, output, reads, attached⟩
  | reattached early named given target accepted =>
    cases hgreeting
    refine Or.inr (Or.inl ⟨given, target, ?_, rfl⟩)
    rw [accepted]
    exact List.mem_append_right early (List.mem_singleton_self _)
  | started named nodeId size status channel event took =>
    cases hgreeting
    exact Or.inr (Or.inr (Or.inl ⟨rfl, channel, event, took⟩))
  | stream _ x hx hstream => exact Or.inr (Or.inr (Or.inr ⟨x, hx, hstream⟩))

/-- Every run of the control plane keeps this order along with the order of its calls. -/
theorem greetOrder_sound (config : TerminalSessionConfig) :
    (controlOrder.and greetOrder).Sound (controlPlane config) entry where
  entered := (tellOrder_sound config).entered
  spawned := (tellOrder_sound config).spawned
  body {origin stage past} known := by
    have greeted : ∀ past action, (controlOrder.and tellOrder).act origin past action →
        (controlOrder.and greetOrder).act origin past action := by
      intro past action act
      refine ⟨act.1, ?_⟩
      have told : tellAct origin past action := act.2
      cases origin with
      | terminalSocket actorEmail => exact greets_of_tells told
      | _ => trivial
    refine (((tellOrder_sound config).body known).imp greeted).mono (fun later next hnext => ?_)
    cases next <;> exact hnext

/-- Whatever tells a browser of its session keeps this order. -/
theorem Reaches.greets {config : TerminalSessionConfig} {nodes : NodeEnrollmentState}
    {history front back : History} {pool : ControlPool} {e : ControlEvent}
    (h : Reaches config nodes history pool) (hsplit : history = front ++ e :: back)
    {actorEmail : String} (browser : e.origin = .terminalSocket actorEmail) :
    Control.greets actorEmail (own e.task front) e.action := by
  have act : greetAct e.origin (own e.task front) e.action :=
    (Service.Reaches.act (greetOrder_sound config) h hsplit).2
  rw [browser] at act
  exact act

end Sunbolt.Control
