/- Module: Sunbolt/Terminal/Lifecycle
   scope: sunbolt-terminal
   digest: Session lifecycle states, their transitions, and the local PTY behind a session. -/

import Mathlib.Data.List.Basic

set_option autoImplicit false
set_option relaxedAutoImplicit false

namespace Sunbolt.Terminal

inductive TerminalSessionState where
  | created
  | starting
  | active
  | detached
  | reattaching
  | terminating
  | terminated
  | failed
  | expired
  deriving DecidableEq, Repr

namespace TerminalSessionState

def canTransitionTo : TerminalSessionState → TerminalSessionState → Bool
  | .created, .starting => true
  | .starting, .active | .starting, .failed => true
  | .active, .detached | .active, .terminating | .active, .failed | .active, .expired => true
  | .detached, .reattaching | .detached, .terminating | .detached, .failed
  | .detached, .expired => true
  | .reattaching, .active | .reattaching, .terminating | .reattaching, .failed => true
  | .terminating, .terminated | .failed, .terminated | .expired, .terminated => true
  | _, _ => false

def isReattachable : TerminalSessionState → Bool
  | .active | .detached | .reattaching => true
  | _ => false

def isTerminal : TerminalSessionState → Bool
  | .terminated | .failed | .expired => true
  | _ => false

end TerminalSessionState

structure TerminalExitStatus where
  code : Option Int32
  deriving DecidableEq, Repr

structure TerminalSize where
  cols : UInt16
  rows : UInt16
  deriving DecidableEq, Repr

/-- Errors of PTY operations; the texts come from the operating system. -/
inductive TerminalError where
  | openPty (text : String)
  | spawn (text : String)
  | cloneReader (text : String)
  | takeWriter (text : String)
  | writeInput (text : String)
  | readOutput (text : String)
  | resize (text : String)
  | close (text : String)
  | wait (text : String)
  | closed
  | missingDefaultShell
  deriving DecidableEq, Repr

def TerminalError.text : TerminalError → String
  | .openPty text => "failed to open PTY: " ++ text
  | .spawn text => "failed to spawn shell: " ++ text
  | .cloneReader text => "failed to clone PTY reader: " ++ text
  | .takeWriter text => "failed to take PTY writer: " ++ text
  | .writeInput text => "failed to write PTY input: " ++ text
  | .readOutput text => "failed to read PTY output: " ++ text
  | .resize text => "failed to resize PTY: " ++ text
  | .close text => "failed to close PTY session: " ++ text
  | .wait text => "failed to wait for PTY process exit: " ++ text
  | .closed => "PTY session is already closed"
  | .missingDefaultShell => "default shell is not configured"

/-- A local PTY: whether it is closed, and whether the handle of its child process is held. -/
structure LocalPtySession where
  closed : Bool
  child : Bool
  deriving DecidableEq, Repr

/-- What the operating system says about the child process. -/
inductive ChildStatus where
  | running
  | exited (code : Option Int32)
  | unknown (text : String)
  deriving DecidableEq, Repr

namespace LocalPtySession

def spawned : LocalPtySession := ⟨false, true⟩

/-- An operation that fails on a closed session and otherwise ends as the system says. -/
def guardClosed {α : Type} (session : LocalPtySession) (result : Except TerminalError α) :
    Except TerminalError α :=
  if session.closed then .error .closed else result

/-- Only the first `close` takes the child and kills it. -/
def close (session : LocalPtySession) : LocalPtySession :=
  if session.closed then session else ⟨true, false⟩

def tryWaitExit (session : LocalPtySession) (status : ChildStatus) :
    LocalPtySession × Except TerminalError (Option TerminalExitStatus) :=
  if session.child then
    match status with
    | .running => (session, .ok none)
    | .exited code => (⟨true, false⟩, .ok (some ⟨code⟩))
    | .unknown text => (session, .error (.wait text))
  else (session, .ok none)

/-- The blocking wait takes the child whatever the outcome; it does not return while the
    child is running. -/
def waitExit (session : LocalPtySession) (status : ChildStatus) :
    Option (LocalPtySession × Except TerminalError (Option TerminalExitStatus)) :=
  if session.child then
    match status with
    | .running => none
    | .exited code => some (⟨true, false⟩, .ok (some ⟨code⟩))
    | .unknown text => some (⟨session.closed, false⟩, .error (.wait text))
  else some (session, .ok none)

end LocalPtySession

end Sunbolt.Terminal
