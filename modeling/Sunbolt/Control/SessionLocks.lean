/- Module: Sunbolt/Control/SessionLocks
   scope: sunbolt-control/src/terminal/session_registry.rs, sunbolt-terminal/src/lib.rs
   digest: The registry lock and the child locks of the PTYs, held and waited for by threads. -/

import Sunbolt.Control.TerminalHandlers

set_option autoImplicit false
set_option relaxedAutoImplicit false

namespace Sunbolt.Control

open Sunbolt.Library
open Sunbolt.Protocol (TerminalSessionId TerminalReconnectToken TerminalServerMessage)
open Sunbolt.Terminal (TerminalSessionState LocalPtySession TerminalExitStatus)

/-- A child lock with what the operating system knows of the shell it guards. -/
structure ChildLock where
  holder : Option Nat
  running : Bool
  deriving DecidableEq, Repr

/-- The registry with the locks around it. Entry `i` of `children` belongs to PTY `i`. -/
structure LockedSessions where
  registry : TerminalSessionRegistry
  registryLock : Option Nat
  children : List ChildLock

/-- The steps of a thread between which another thread may run. -/
inductive LockAction where
  | lockRegistry
  | unlockRegistry
  | lockChild (pty : Nat)
  | unlockChild (pty : Nat)
  | spawnShell
  | insert (request : TerminalSessionInsert)
  | spawnReader (pty : Nat) (sessionId : TerminalSessionId) (output : Nat)
  | setState (sessionId : TerminalSessionId) (state : TerminalSessionState)
  | overwriteState (sessionId : TerminalSessionId) (state : TerminalSessionState)
  | removeEntry (sessionId : TerminalSessionId)
  | expiredIds (maxDuration idleTimeout : Nat)
  | recordOutput (sessionId : TerminalSessionId) (data : String)
  | broadcast (output : Nat) (message : TerminalServerMessage)
  | dropSender (output : Nat)
  | isClosed (pty : Nat)
  | setClosed (pty : Nat)
  | swapClosed (pty : Nat)
  | readOutput (pty : Nat)
  | hasChild (pty : Nat)
  | takeChild (pty : Nat)
  | kill (pty : Nat)
  | tryWait (pty : Nat)
  | wait (pty : Nat)
  | exit (pty : Nat)

abbrev LockReply : LockAction → Type
  | .spawnShell => Nat
  | .insert _ => Except SessionLimitError Nat
  | .removeEntry _ => Option TrackedTerminalSession
  | .expiredIds .. => List TerminalSessionId
  | .recordOutput .. => Option TerminalServerMessage
  | .isClosed _ => Bool
  | .swapClosed _ => Bool
  | .readOutput _ => Except Sunbolt.Terminal.TerminalError (List UInt8)
  | .hasChild _ => Bool
  | .takeChild _ => Bool
  | .tryWait _ => Except Sunbolt.Terminal.TerminalError (Option TerminalExitStatus)
  | .wait _ => Except Sunbolt.Terminal.TerminalError TerminalExitStatus
  | _ => Unit

/-- What the environment decides about a step: clocks and tokens, what a read returns, whether
    a kill succeeds, the code of a process that has ended, a failure of the system call. -/
inductive LockChoice where
  | none
  | clock (now : Nat)
  | clockToken (now : Nat) (token : TerminalReconnectToken)
  | read (result : Except Sunbolt.Terminal.TerminalError (List UInt8))
  | killed (succeeds : Bool)
  | code (code : Option Int32)
  | failed (text : String)

abbrev Thread := Program LockAction LockReply

def lockStep (action : LockAction) : Thread (LockReply action) :=
  Program.perform (R := LockReply) action

namespace LockedSessions

variable (state : LockedSessions)

def onPty (pty : Nat) (f : LocalPtySession → LocalPtySession) : LockedSessions :=
  { state with registry := { state.registry with ptys := state.registry.ptys.modify pty f } }

def onChild (pty : Nat) (f : ChildLock → ChildLock) : LockedSessions :=
  { state with children := state.children.modify pty f }

/-- The shell of the PTY runs. -/
def isRunning (pty : Nat) : Bool := (state.children[pty]?.map (·.running)).getD false

/-- The thread that holds the child lock of the PTY. -/
def childHolder (pty : Nat) : Option Nat := state.children[pty]?.bind (·.holder)

def pty (pty : Nat) : Option LocalPtySession := state.registry.ptys[pty]?

end LockedSessions

/-- One step of the thread of this number, where it is enabled: a lock that is held is waited
    for, and a blocking wait for the child does not return while the shell runs. -/
def performLock (thread : Nat) (state : LockedSessions) :
    (action : LockAction) → LockChoice → Option (LockReply action × LockedSessions)
  | .lockRegistry, .none =>
    if state.registryLock.isNone then some ((), { state with registryLock := some thread })
    else none
  | .unlockRegistry, .none =>
    if state.registryLock = some thread then some ((), { state with registryLock := none })
    else none
  | .lockChild pty, .none =>
    if pty < state.children.length ∧ state.childHolder pty = none then
      some ((), state.onChild pty ({ · with holder := some thread }))
    else none
  | .unlockChild pty, .none =>
    if state.childHolder pty = some thread then
      some ((), state.onChild pty ({ · with holder := none }))
    else none
  | .spawnShell, .none =>
    some (state.registry.ptys.length,
      { state with
        registry := { state.registry with
          ptys := state.registry.ptys ++ [LocalPtySession.spawned] }
        children := state.children ++ [⟨none, true⟩] })
  | .insert request, .clockToken now token =>
    let (registry, result) := state.registry.insertBackend request now token
    some (result, { state with registry := registry })
  | .spawnReader .., .none => some ((), state)
  | .setState sessionId next, .none =>
    some ((), { state with registry := state.registry.setState sessionId next })
  | .overwriteState sessionId next, .none =>
    some ((), { state with
      registry := state.registry.modify sessionId ({ · with state := next }) })
  | .removeEntry sessionId, .none =>
    some (state.registry.get sessionId, { state with registry :=
      { state.registry with sessions := AList.erase sessionId state.registry.sessions } })
  | .expiredIds maxDuration idleTimeout, .clock now =>
    some ((Table.select state.registry.sessions
      (TerminalSessionRegistry.isExpired maxDuration idleTimeout now)).map Prod.fst, state)
  | .recordOutput sessionId data, .none =>
    let (registry, message) := state.registry.recordOutput sessionId data
    some (message, { state with registry := registry })
  | .broadcast output message, .none =>
    some ((), { state with registry := { state.registry with
      outputs := state.registry.outputs.modify output (·.send message) } })
  | .dropSender output, .none =>
    some ((), { state with registry := state.registry.dropSender output })
  | .isClosed pty, .none => (state.pty pty).map (fun session => (session.closed, state))
  | .setClosed pty, .none => some ((), state.onPty pty ({ · with closed := true }))
  | .swapClosed pty, .none => (state.pty pty).map (fun session =>
      (session.closed, state.onPty pty ({ · with closed := true })))
  | .readOutput pty, .read result =>
    if fitsBuffer result then
      (state.pty pty).map (fun session => (session.guardClosed result, state))
    else none
  | .hasChild pty, .none => (state.pty pty).map (fun session => (session.child, state))
  | .takeChild pty, .none => (state.pty pty).map (fun session =>
      (session.child, state.onPty pty ({ · with child := false })))
  | .kill pty, .killed succeeds =>
    some ((), state.onChild pty (fun child =>
      { child with running := child.running && !succeeds }))
  | .tryWait pty, .code code =>
    some (.ok (if state.isRunning pty then none else some ⟨code⟩), state)
  | .tryWait _, .failed text => some (.error (.wait text), state)
  | .wait pty, .code code =>
    if state.isRunning pty then none else some (.ok ⟨code⟩, state)
  | .wait _, .failed text => some (.error (.wait text), state)
  | .exit pty, .none => some ((), state.onChild pty ({ · with running := false }))
  | _, _ => none

/-! The methods of a PTY; each one that takes the child lock gives it back at its end. -/

/-- `close`: only the first caller goes on to the child lock. -/
def closeSession (pty : Nat) : Thread Unit := do
  let closed : Bool ← lockStep (.swapClosed pty)
  if closed then
    return
  lockStep (.lockChild pty)
  let child : Bool ← lockStep (.takeChild pty)
  if child then
    lockStep (.kill pty)
  lockStep (.unlockChild pty)

def tryWaitExit (pty : Nat) :
    Thread (Except Sunbolt.Terminal.TerminalError (Option TerminalExitStatus)) := do
  lockStep (.lockChild pty)
  let child : Bool ← lockStep (.hasChild pty)
  if !child then
    lockStep (.unlockChild pty)
    return .ok none
  let status : Except Sunbolt.Terminal.TerminalError (Option TerminalExitStatus) ←
    lockStep (.tryWait pty)
  match status with
  | .ok (some exit) =>
    lockStep (.setClosed pty)
    let _ ← lockStep (.takeChild pty)
    lockStep (.unlockChild pty)
    return .ok (some exit)
  | status =>
    lockStep (.unlockChild pty)
    return status

/-- `wait_exit`: the guard of the child lock lives until the method returns, also while it
    waits for the child. -/
def waitExit (pty : Nat) :
    Thread (Except Sunbolt.Terminal.TerminalError (Option TerminalExitStatus)) := do
  lockStep (.lockChild pty)
  let child : Bool ← lockStep (.takeChild pty)
  if !child then
    lockStep (.unlockChild pty)
    return .ok none
  let status : Except Sunbolt.Terminal.TerminalError TerminalExitStatus ← lockStep (.wait pty)
  match status with
  | .error error =>
    lockStep (.unlockChild pty)
    return .error error
  | .ok exit =>
    lockStep (.setClosed pty)
    lockStep (.unlockChild pty)
    return .ok (some exit)

/-! The operations of the registry, each under its lock. -/

def closeLocked : TerminalBackend → Thread Unit
  | .local pty => closeSession pty
  | .remote _ => return

/-- `remove_tracked`, with the registry lock held; the entry's sender goes to the caller. -/
def removeLocked (sessionId : TerminalSessionId) : Thread (Option TrackedTerminalSession) := do
  let removed : Option TrackedTerminalSession ← lockStep (.removeEntry sessionId)
  match removed with
  | none => return none
  | some session =>
    closeLocked session.backend
    return some session

def dropRemoved : Option TrackedTerminalSession → Thread Unit
  | none => return
  | some session => lockStep (.dropSender session.output)

def detachSession (sessionId : TerminalSessionId) : Thread Unit := do
  lockStep .lockRegistry
  lockStep (.setState sessionId .detached)
  lockStep .unlockRegistry

def terminateSession (sessionId : TerminalSessionId) : Thread (Option TerminalBackend) := do
  lockStep .lockRegistry
  lockStep (.overwriteState sessionId .terminating)
  let removed ← removeLocked sessionId
  dropRemoved removed
  lockStep .unlockRegistry
  return removed.map (·.backend)

def removeSession (sessionId : TerminalSessionId) : Thread Unit := do
  lockStep .lockRegistry
  let removed ← removeLocked sessionId
  dropRemoved removed
  lockStep .unlockRegistry

/-- The removals of `drain_expired`; the senders of the removed sessions go to the caller. -/
def removeExpired : List TerminalSessionId → Thread (List RemovedSession)
  | [] => return []
  | sessionId :: ids => do
    lockStep (.overwriteState sessionId .expired)
    let removed ← removeLocked sessionId
    let rest ← removeExpired ids
    match removed with
    | none => return rest
    | some session =>
      return ⟨sessionId, session.actorEmail, session.output, session.backend⟩ :: rest

def drainExpiredSessions (maxDuration idleTimeout : Nat) : Thread (List RemovedSession) := do
  lockStep .lockRegistry
  let expired : List TerminalSessionId ← lockStep (.expiredIds maxDuration idleTimeout)
  let removed ← removeExpired expired
  lockStep .unlockRegistry
  return removed

def recordOutputLocked (sessionId : TerminalSessionId) (data : String) :
    Thread (Option TerminalServerMessage) := do
  lockStep .lockRegistry
  let message : Option TerminalServerMessage ← lockStep (.recordOutput sessionId data)
  lockStep .unlockRegistry
  return message

/-! The threads. -/

/-- What a thread has been started for. -/
inductive LockStage where
  | openLocal (request : TerminalSessionInsert)
  | reader (pty : Nat) (sessionId : TerminalSessionId) (output : Nat)
  | terminate (sessionId : TerminalSessionId)
  | remove (sessionId : TerminalSessionId)
  | drainExpired (maxDuration idleTimeout : Nat)
  | detach (sessionId : TerminalSessionId)
  | terminateFrame (pty : Nat) (sessionId : TerminalSessionId)
  | shellExit (pty : Nat)

/-- The first attach: spawn the shell, track it and start its reader. -/
def openLocalSession (request : TerminalSessionInsert) : Thread (Option LockStage) := do
  let pty : Nat ← lockStep .spawnShell
  lockStep .lockRegistry
  let inserted : Except SessionLimitError Nat ←
    lockStep (.insert { request with backend := .local pty })
  lockStep .unlockRegistry
  match inserted with
  | .error _ =>
    closeSession pty
    return none
  | .ok output =>
    lockStep (.spawnReader pty request.sessionId output)
    return none

def sendExit (sessionId : TerminalSessionId) (output : Nat)
    (exit : Except Sunbolt.Terminal.TerminalError (Option TerminalExitStatus))
    (otherwise : Thread Unit) : Thread Unit :=
  match exit with
  | .ok (some exit) => lockStep (.broadcast output (exitMessage sessionId exit))
  | _ => otherwise

def sendRecorded (output : Nat) (message : Option TerminalServerMessage) : Thread Unit :=
  match message with
  | some message => lockStep (.broadcast output message)
  | none => return

def finishReading (pty : Nat) (sessionId : TerminalSessionId) (output : Nat) :
    Thread (Option LockStage) := do
  let exit ← waitExit pty
  sendExit sessionId output exit (return)
  lockStep (.dropSender output)
  return none

/-- One turn of the loop of `read_pty_output`. -/
def readLocked (pty : Nat) (sessionId : TerminalSessionId) (output : Nat) :
    Thread (Option LockStage) := do
  let closed : Bool ← lockStep (.isClosed pty)
  if closed then
    finishReading pty sessionId output
  else
    let read : Except Sunbolt.Terminal.TerminalError (List UInt8) ← lockStep (.readOutput pty)
    match read with
    | .ok [] => finishReading pty sessionId output
    | .error .closed => finishReading pty sessionId output
    | .ok bytes =>
      let message ← recordOutputLocked sessionId (outputText bytes)
      sendRecorded output message
      return some (.reader pty sessionId output)
    | .error error =>
      let exit ← tryWaitExit pty
      sendExit sessionId output exit (lockStep (.broadcast output
        (.error sessionId (protocolError .terminalUnavailable error))))
      finishReading pty sessionId output

/-- A Close or Terminate frame and what follows the loop it ends. -/
def terminateFrame (pty : Nat) (sessionId : TerminalSessionId) : Thread (Option LockStage) := do
  lockStep .lockRegistry
  lockStep (.setState sessionId .terminating)
  lockStep .unlockRegistry
  closeSession pty
  removeSession sessionId
  return none

def lockBody : LockStage → Thread (Option LockStage)
  | .openLocal request => openLocalSession request
  | .reader pty sessionId output => readLocked pty sessionId output
  | .terminate sessionId => do
    let _ ← terminateSession sessionId
    return none
  | .remove sessionId => do
    removeSession sessionId
    return none
  | .drainExpired maxDuration idleTimeout => do
    let _ ← drainExpiredSessions maxDuration idleTimeout
    return none
  | .detach sessionId => do
    detachSession sessionId
    return none
  | .terminateFrame pty sessionId => terminateFrame pty sessionId
  | .shellExit pty => do
    lockStep (.exit pty)
    return none

def startedBy : LockAction → List LockStage
  | .spawnReader pty sessionId output => [.reader pty sessionId output]
  | _ => []

/-- The threads of the control plane over the locks, step by step. -/
def lockPlane : Service LockedSessions LockAction LockReply LockStage LockChoice where
  perform thread state action choice :=
    (performLock thread state action choice).map
      (fun (reply, state) => ⟨reply, state, startedBy action⟩)
  body := lockBody

/-- What the environment may start: anything but a reader. -/
inductive LockArrival where
  | openLocal (request : TerminalSessionInsert)
  | terminate (sessionId : TerminalSessionId)
  | remove (sessionId : TerminalSessionId)
  | drainExpired (maxDuration idleTimeout : Nat)
  | detach (sessionId : TerminalSessionId)
  | terminateFrame (pty : Nat) (sessionId : TerminalSessionId)
  | shellExit (pty : Nat)

def lockEntry : LockArrival → LockStage
  | .openLocal request => .openLocal request
  | .terminate sessionId => .terminate sessionId
  | .remove sessionId => .remove sessionId
  | .drainExpired maxDuration idleTimeout => .drainExpired maxDuration idleTimeout
  | .detach sessionId => .detach sessionId
  | .terminateFrame pty sessionId => .terminateFrame pty sessionId
  | .shellExit pty => .shellExit pty

/-- No session yet, and every lock is free. -/
def LockedSessions.boot : LockedSessions := ⟨⟨∅, [], []⟩, none, []⟩

abbrev LockPool := Pool LockedSessions LockAction LockReply LockStage

abbrev LockEvent := Event LockedSessions LockAction LockReply LockStage

/-- The interleavings of such threads. -/
def LockReaches (history : List LockEvent) (pool : LockPool) : Prop :=
  lockPlane.Reaches lockEntry .boot history pool

end Sunbolt.Control
