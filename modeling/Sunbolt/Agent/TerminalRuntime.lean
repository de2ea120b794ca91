/- Module: Sunbolt/Agent/TerminalRuntime
   scope: sunbolt-agent/src/lib.rs
   digest: The terminal sessions of an agent and what it reports of their output. -/

import Sunbolt.Library.Table
import Sunbolt.Library.Utf8Lossy
import Sunbolt.Protocol.Messages
import Sunbolt.Terminal.Lifecycle

set_option autoImplicit false
set_option relaxedAutoImplicit false

namespace Sunbolt.Agent

open Sunbolt.Library
open Sunbolt.Protocol (TerminalSessionId AgentTerminalEvent)
open Sunbolt.Terminal (LocalPtySession)

inductive AgentError where
  | terminalSessionMissing (sessionId : String)
  | terminal (error : Sunbolt.Terminal.TerminalError)
  deriving DecidableEq, Repr

structure AgentTerminalRuntime where
  sessions : Table TerminalSessionId LocalPtySession

namespace AgentTerminalRuntime

variable (runtime : AgentTerminalRuntime) (sessionId : TerminalSessionId)

def session : Except AgentError LocalPtySession :=
  match runtime.sessions.lookup sessionId with
  | none => .error (.terminalSessionMissing sessionId.val)
  | some session => .ok session

/-- What the PTY of the session gives one call; `read` is what the system makes of the call. -/
def readPty (read : Except Sunbolt.Terminal.TerminalError (List UInt8)) :
    Except AgentError (List UInt8) := do
  let session ← runtime.session sessionId
  (session.guardClosed read).mapError .terminal

/-- A read of nothing is no event; any other one is decoded by itself. -/
def readOutput (read : Except Sunbolt.Terminal.TerminalError (List UInt8)) :
    Except AgentError (Option AgentTerminalEvent) := do
  let bytes ← runtime.readPty sessionId read
  if bytes.length = 0 then return none
  return some (.terminalOutput sessionId (String.ofList (Utf8Lossy.decode bytes)))

end AgentTerminalRuntime

/-! What a series of calls reads and reports. The runtime may change between two of them. -/

/-- A call of `read_output`: the runtime it finds and what the system makes of the read. -/
structure ReadCall where
  runtime : AgentTerminalRuntime
  read : Except Sunbolt.Terminal.TerminalError (List UInt8)

/-- The bytes a call takes from the stream. -/
def ReadCall.chunk (call : ReadCall) (sessionId : TerminalSessionId) : List (List UInt8) :=
  match call.runtime.readPty sessionId call.read with
  | .ok bytes => if bytes.length = 0 then [] else [bytes]
  | .error _ => []

/-- The text of the event a call returns. -/
def ReadCall.text (call : ReadCall) (sessionId : TerminalSessionId) : List Char :=
  match call.runtime.readOutput sessionId call.read with
  | .ok (some (.terminalOutput _ data)) => data.toList
  | _ => []

theorem ReadCall.text_eq (call : ReadCall) (sessionId : TerminalSessionId) :
    call.text sessionId = (call.chunk sessionId).flatMap Utf8Lossy.decode := by
  rw [ReadCall.text, ReadCall.chunk, AgentTerminalRuntime.readOutput]
  cases hread : call.runtime.readPty sessionId call.read with
  | error error => rfl
  | ok bytes =>
    by_cases hlength : bytes.length = 0
    · simp [bind, Except.bind, hlength, pure, Except.pure]
    · simp [bind, Except.bind, hlength, pure, Except.pure]

/-- The events of a stream carry its text exactly when no read starts inside a character. -/
theorem readOutput_text_iff (sessionId : TerminalSessionId) (calls : List ReadCall)
    {text : List Char}
    (stream : (calls.flatMap (·.chunk sessionId)).flatten = Utf8Lossy.encode text) :
    calls.flatMap (·.text sessionId) = text ↔
      ∀ chunk ∈ calls.flatMap (·.chunk sessionId), Utf8Lossy.StartsClean chunk := by
  have htexts : calls.flatMap (·.text sessionId) =
      (calls.flatMap (·.chunk sessionId)).flatMap Utf8Lossy.decode := by
    rw [List.flatMap_assoc]
    exact List.flatMap_congr fun call _ => call.text_eq sessionId
  rw [htexts]
  exact Utf8Lossy.flatMap_decode_eq_iff stream

end Sunbolt.Agent
