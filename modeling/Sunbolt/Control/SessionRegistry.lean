/- Module: Sunbolt/Control/SessionRegistry
   scope: sunbolt-control/src/terminal/session_registry.rs
   digest: The registry of tracked terminal sessions, with the PTYs and channels they hold. -/

import Sunbolt.Library.Table
import Sunbolt.Protocol.Messages
import Sunbolt.Terminal.Lifecycle

set_option autoImplicit false
set_option relaxedAutoImplicit false

namespace Sunbolt.Control

open Sunbolt.Library (Table Window Broadcast)
open Sunbolt.Protocol (TerminalSessionId TerminalReconnectToken TerminalServerMessage
  TerminalTransportStatus u64Max saturatingSucc)
open Sunbolt.Terminal (TerminalSessionState LocalPtySession)

abbrev ProtocolTerminalSize := Sunbolt.Protocol.TerminalSize

def outputChannelCapacity : Nat := 64

def outputReplayCapacity : Nat := 128

instance : NeZero outputReplayCapacity := ⟨by decide⟩

structure TerminalSessionConfig where
  maxSessions : Nat
  maxSessionsPerUser : Nat
  maxSessionsPerNode : Nat
  idleTimeout : Nat
  maxDuration : Nat
  deriving DecidableEq, Repr

inductive SessionLimitError where
  | globalCapacity
  | perUser
  | perNode
  deriving DecidableEq, Repr

def SessionLimitError.message : SessionLimitError → String
  | .globalCapacity => "maximum terminal session count reached"
  | .perUser => "maximum terminal sessions per user reached"
  | .perNode => "maximum terminal sessions per node reached"

/-- A shared PTY or a command channel, named by its index in the store or among the agent
    channels. -/
inductive TerminalBackend where
  | local (pty : Nat)
  | remote (commands : Nat)
  deriving DecidableEq, Repr

structure TrackedTerminalSession where
  backend : TerminalBackend
  output : Nat
  replay : Window TerminalServerMessage outputReplayCapacity
  nextOutputSequence : Nat
  reconnectToken : TerminalReconnectToken
  state : TerminalSessionState
  lastActivity : Nat
  createdAt : Nat
  size : ProtocolTerminalSize
  actorEmail : String
  nodeId : Option String
  transportStatus : Option TerminalTransportStatus

structure TerminalSessionInsert where
  sessionId : TerminalSessionId
  backend : TerminalBackend
  size : ProtocolTerminalSize
  config : TerminalSessionConfig
  actorEmail : String
  nodeId : Option String
  transportStatus : Option TerminalTransportStatus
  deriving DecidableEq, Repr

structure TerminalReattachTarget where
  backend : TerminalBackend
  output : Nat
  outputNext : Nat
  replay : List TerminalServerMessage
  size : ProtocolTerminalSize
  reconnectToken : TerminalReconnectToken
  nodeId : Option String
  transportStatus : Option TerminalTransportStatus
  deriving DecidableEq, Repr

/-- A session taken out of the registry by a bulk removal; its sender is still alive. -/
structure RemovedSession where
  sessionId : TerminalSessionId
  actorEmail : String
  output : Nat
  backend : TerminalBackend
  deriving DecidableEq, Repr

/-- The map behind the registry lock, and the PTYs and output channels it refers to. -/
structure TerminalSessionRegistry where
  sessions : Table TerminalSessionId TrackedTerminalSession
  ptys : List LocalPtySession
  outputs : List (Broadcast TerminalServerMessage)

namespace TrackedTerminalSession

/-- `set_state` on one session: a change the lifecycle does not allow is ignored. -/
def moveTo (session : TrackedTerminalSession) (state : TerminalSessionState) :
    TrackedTerminalSession :=
  if !session.state.canTransitionTo state && session.state ≠ state then session
  else { session with state := state }

def pushReplay (session : TrackedTerminalSession) (message : TerminalServerMessage) :
    TrackedTerminalSession :=
  { session with replay := session.replay.push message }

def outputMessage (session : TrackedTerminalSession) (sessionId : TerminalSessionId)
    (data : String) : TerminalServerMessage :=
  .output sessionId session.nextOutputSequence data

def record (session : TrackedTerminalSession) (sessionId : TerminalSessionId) (data : String) :
    TrackedTerminalSession :=
  { session with nextOutputSequence := saturatingSucc session.nextOutputSequence }.pushReplay
    (session.outputMessage sessionId data)

/-- The session still counts against the limits of its user and its node. -/
def isLive (session : TrackedTerminalSession) : Bool := !session.state.isTerminal

end TrackedTerminalSession

/-- The entry a new session starts with. -/
def TerminalSessionInsert.tracked (request : TerminalSessionInsert) (output now : Nat)
    (token : TerminalReconnectToken) : TrackedTerminalSession where
  backend := request.backend
  output := output
  replay := Window.empty
  nextOutputSequence := 1
  reconnectToken := token
  state := .starting
  lastActivity := now
  createdAt := now
  size := request.size
  actorEmail := request.actorEmail
  nodeId := request.nodeId
  transportStatus := request.transportStatus

namespace TerminalSessionRegistry

variable (registry : TerminalSessionRegistry)

def get (sessionId : TerminalSessionId) : Option TrackedTerminalSession :=
  registry.sessions.lookup sessionId

def modify (sessionId : TerminalSessionId) (f : TrackedTerminalSession → TrackedTerminalSession) :
    TerminalSessionRegistry :=
  { registry with sessions := Table.modify registry.sessions sessionId f }

def insertBackend (request : TerminalSessionInsert) (now : Nat) (token : TerminalReconnectToken) :
    TerminalSessionRegistry × Except SessionLimitError Nat :=
  let tracked := registry.sessions.entries.map (fun e => e.2)
  if request.config.maxSessions ≤ tracked.length then (registry, .error .globalCapacity)
  else if request.config.maxSessionsPerUser ≤
      tracked.countP (fun s => s.actorEmail == request.actorEmail && s.isLive) then
    (registry, .error .perUser)
  else if request.config.maxSessionsPerNode ≤
      tracked.countP (fun s => s.nodeId == request.nodeId && s.isLive) then
    (registry, .error .perNode)
  else
    let output := registry.outputs.length
    ({ registry with
        sessions := AList.insert request.sessionId (request.tracked output now token)
          registry.sessions
        -- one sender stays in the registry, the other goes to the caller
        outputs := registry.outputs ++ [Broadcast.opened 2] },
      .ok output)

def setState (sessionId : TerminalSessionId) (state : TerminalSessionState) :
    TerminalSessionRegistry :=
  registry.modify sessionId (·.moveTo state)

def detach (sessionId : TerminalSessionId) : TerminalSessionRegistry :=
  registry.setState sessionId .detached

def reattach (sessionId : TerminalSessionId) (reconnectToken : TerminalReconnectToken)
    (actorEmail : String) (now : Nat) (token : TerminalReconnectToken) :
    TerminalSessionRegistry × Option TerminalReattachTarget :=
  match registry.get sessionId with
  | none => (registry, none)
  | some tracked =>
    if tracked.actorEmail ≠ actorEmail || !tracked.state.isReattachable then (registry, none)
    else if tracked.reconnectToken ≠ reconnectToken then (registry, none)
    else
      (registry.modify sessionId (fun tracked =>
          { tracked with reconnectToken := token, state := .reattaching, lastActivity := now }),
        some
          { backend := tracked.backend
            output := tracked.output
            outputNext := (registry.outputs[tracked.output]?.map (·.log.length)).getD 0
            replay := tracked.replay.items
            size := tracked.size
            reconnectToken := token
            nodeId := tracked.nodeId
            transportStatus := tracked.transportStatus })

def reconnectToken (sessionId : TerminalSessionId) : Option TerminalReconnectToken :=
  (registry.get sessionId).map (·.reconnectToken)

def ownerMatches (sessionId : TerminalSessionId) (actorEmail : String) : Bool :=
  (registry.get sessionId).any (·.actorEmail == actorEmail)

def nodeId (sessionId : TerminalSessionId) : Option String :=
  (registry.get sessionId).bind (·.nodeId)

def touch (sessionId : TerminalSessionId) (now : Nat) : TerminalSessionRegistry :=
  registry.modify sessionId (fun session => { session with lastActivity := now })

def isIdle (sessionId : TerminalSessionId) (timeout now : Nat) : Bool :=
  (registry.get sessionId).all (fun session => timeout ≤ now - session.lastActivity)

def setSize (sessionId : TerminalSessionId) (size : ProtocolTerminalSize) :
    TerminalSessionRegistry :=
  registry.modify sessionId (fun session => { session with size := size })

def recordOutput (sessionId : TerminalSessionId) (data : String) :
    TerminalSessionRegistry × Option TerminalServerMessage :=
  (registry.modify sessionId (·.record sessionId data),
    (registry.get sessionId).map (·.outputMessage sessionId data))

/-- The session a server message is about, if it is kept for replay at all. -/
def rememberedSession : TerminalServerMessage → Option TerminalSessionId
  | .output sessionId .. => some sessionId
  | .exited sessionId _ => some sessionId
  | .detached sessionId => some sessionId
  | .reattached sessionId .. => some sessionId
  | .started sessionId .. => some sessionId
  | .error sessionId _ => sessionId
  | .pong _ => none

def rememberServerMessage (message : TerminalServerMessage) : TerminalSessionRegistry :=
  match rememberedSession message with
  | none => registry
  | some sessionId => registry.modify sessionId (·.pushReplay message)

def closePty (pty : Nat) : TerminalSessionRegistry :=
  { registry with ptys := registry.ptys.modify pty LocalPtySession.close }

def closeBackend : TerminalBackend → TerminalSessionRegistry
  | .local pty => registry.closePty pty
  | .remote _ => registry

def dropSender (output : Nat) : TerminalSessionRegistry :=
  { registry with outputs := registry.outputs.modify output Broadcast.dropSender }

/-- The session leaves the map and its backend is closed; its sender goes to the caller. -/
def removeTracked (sessionId : TerminalSessionId) :
    TerminalSessionRegistry × Option TrackedTerminalSession :=
  match registry.get sessionId with
  | none => (registry, none)
  | some session =>
    ({ registry with sessions := AList.erase sessionId registry.sessions }.closeBackend
      session.backend, some session)

def terminate (sessionId : TerminalSessionId) : TerminalSessionRegistry × Option TerminalBackend :=
  match (registry.modify sessionId ({ · with state := .terminating })).removeTracked sessionId with
  | (registry, none) => (registry, none)
  | (registry, some session) => (registry.dropSender session.output, some session.backend)

def remove (sessionId : TerminalSessionId) : TerminalSessionRegistry :=
  match registry.removeTracked sessionId with
  | (registry, none) => registry
  | (registry, some session) => registry.dropSender session.output

def state (sessionId : TerminalSessionId) : Option TerminalSessionState :=
  (registry.get sessionId).map (·.state)

def isExceededMaxDuration (sessionId : TerminalSessionId) (maxDuration now : Nat) : Bool :=
  (registry.get sessionId).all (fun session => maxDuration ≤ now - session.createdAt)

/-- Remove the sessions of the given ids one by one, each first put into `state`. -/
def removeEach (state : TerminalSessionState) :
    List TerminalSessionId → TerminalSessionRegistry → TerminalSessionRegistry × List RemovedSession
  | [], registry => (registry, [])
  | sessionId :: ids, registry =>
    match (registry.modify sessionId ({ · with state := state })).removeTracked sessionId with
    | (registry, none) => removeEach state ids registry
    | (registry, some session) =>
      let (registry, removed) := removeEach state ids registry
      (registry, ⟨sessionId, session.actorEmail, session.output, session.backend⟩ :: removed)

def isExpired (maxDuration detachedIdleTimeout now : Nat) (session : TrackedTerminalSession) :
    Bool :=
  session.isLive && (maxDuration ≤ now - session.createdAt ||
    (session.state == .detached && detachedIdleTimeout ≤ now - session.lastActivity))

def drainExpired (maxDuration detachedIdleTimeout now : Nat) :
    TerminalSessionRegistry × List RemovedSession :=
  removeEach .expired
    ((Table.select registry.sessions (isExpired maxDuration detachedIdleTimeout now)).map
      Prod.fst) registry

def isOnNode (nodeId : String) (session : TrackedTerminalSession) : Bool :=
  session.nodeId == some nodeId && session.isLive

def closeSessionsForNode (nodeId : String) : TerminalSessionRegistry × List RemovedSession :=
  removeEach .terminating
    ((Table.select registry.sessions (isOnNode nodeId)).map Prod.fst) registry

/-! What each operation leaves of a session, of the PTYs and of the output channels. -/

section Effects

variable (sessionId other : TerminalSessionId)

@[simp] theorem get_modify (f : TrackedTerminalSession → TrackedTerminalSession) :
    (registry.modify sessionId f).get other =
      if other = sessionId then (registry.get other).map f else registry.get other := by
  simp only [get, modify, Table.lookup_modify]
  split_ifs with h
  · rw [h]
  · rfl

@[simp] theorem ptys_modify (f : TrackedTerminalSession → TrackedTerminalSession) :
    (registry.modify sessionId f).ptys = registry.ptys := rfl

@[simp] theorem outputs_modify (f : TrackedTerminalSession → TrackedTerminalSession) :
    (registry.modify sessionId f).outputs = registry.outputs := rfl

@[simp] theorem get_closePty (pty : Nat) : (registry.closePty pty).get other = registry.get other :=
  rfl

@[simp] theorem outputs_closePty (pty : Nat) :
    (registry.closePty pty).outputs = registry.outputs := rfl

@[simp] theorem get_closeBackend (backend : TerminalBackend) :
    (registry.closeBackend backend).get other = registry.get other := by
  cases backend <;> rfl

@[simp] theorem outputs_closeBackend (backend : TerminalBackend) :
    (registry.closeBackend backend).outputs = registry.outputs := by
  cases backend <;> rfl

@[simp] theorem get_dropSender (output : Nat) :
    (registry.dropSender output).get other = registry.get other := rfl

@[simp] theorem ptys_dropSender (output : Nat) :
    (registry.dropSender output).ptys = registry.ptys := rfl

/-- Removing a session touches no other session. -/
theorem get_removeTracked :
    (registry.removeTracked sessionId).1.get other =
      if other = sessionId then none else registry.get other := by
  rw [removeTracked]
  split
  · rename_i h
    split_ifs with hother
    · rw [hother, h]
    · rfl
  · rw [get_closeBackend]
    exact Table.lookup_erase registry.sessions sessionId other

theorem snd_removeTracked : (registry.removeTracked sessionId).2 = registry.get sessionId := by
  rw [removeTracked]
  split <;> simp_all

theorem get_terminate :
    (registry.terminate sessionId).1.get other =
      if other = sessionId then none else registry.get other := by
  have hget := get_removeTracked (registry.modify sessionId ({ · with state := .terminating }))
    sessionId other
  rw [get_modify] at hget
  rw [terminate]
  split
  · rename_i h
    rw [h] at hget
    rw [hget]
    split_ifs <;> rfl
  · rename_i h
    rw [h] at hget
    rw [get_dropSender, hget]
    split_ifs <;> rfl

theorem get_remove :
    (registry.remove sessionId).get other =
      if other = sessionId then none else registry.get other := by
  have hget := get_removeTracked registry sessionId other
  rw [remove]
  split
  · rename_i h
    rwa [h] at hget
  · rename_i h
    rwa [h, ← get_dropSender] at hget

@[simp] theorem outputs_removeTracked :
    (registry.removeTracked sessionId).1.outputs = registry.outputs := by
  rw [removeTracked]
  split
  · rfl
  · rw [outputs_closeBackend]

@[simp] theorem get_setState (state : TerminalSessionState) :
    (registry.setState sessionId state).get other =
      if other = sessionId then (registry.get other).map (·.moveTo state)
      else registry.get other := by
  rw [setState, get_modify]

@[simp] theorem get_touch (now : Nat) :
    (registry.touch sessionId now).get other =
      if other = sessionId then
        (registry.get other).map (fun session => { session with lastActivity := now })
      else registry.get other := by
  rw [touch, get_modify]

@[simp] theorem get_setSize (size : ProtocolTerminalSize) :
    (registry.setSize sessionId size).get other =
      if other = sessionId then
        (registry.get other).map (fun session => { session with size := size })
      else registry.get other := by
  rw [setSize, get_modify]

@[simp] theorem get_recordOutput (data : String) :
    (registry.recordOutput sessionId data).1.get other =
      if other = sessionId then (registry.get other).map (·.record sessionId data)
      else registry.get other := by
  rw [recordOutput, get_modify]

theorem get_rememberServerMessage (message : TerminalServerMessage) :
    (registry.rememberServerMessage message).get other =
      if rememberedSession message = some other then
        (registry.get other).map (·.pushReplay message)
      else registry.get other := by
  rw [rememberServerMessage]
  split
  · rename_i h
    simp [h]
  · rename_i sessionId h
    simp only [h, get_modify, Option.some.injEq, eq_comm]

theorem get_insert (session : TrackedTerminalSession)
    (outputs : List (Broadcast TerminalServerMessage)) :
    ({ registry with sessions := AList.insert sessionId session registry.sessions
                     outputs := outputs } : TerminalSessionRegistry).get other =
      if other = sessionId then some session else registry.get other :=
  Table.lookup_insert registry.sessions sessionId other session

/-- An insert that succeeds adds the new session and its channel; any other changes nothing. -/
theorem insertBackend_cases (request : TerminalSessionInsert) (now : Nat)
    (token : TerminalReconnectToken) :
    (∃ error, registry.insertBackend request now token = (registry, .error error)) ∨
    registry.insertBackend request now token =
      ({ registry with
          sessions := AList.insert request.sessionId
            (request.tracked registry.outputs.length now token) registry.sessions
          outputs := registry.outputs ++ [Broadcast.opened 2] },
        .ok registry.outputs.length) := by
  simp only [insertBackend]
  split_ifs
  · exact Or.inl ⟨_, rfl⟩
  · exact Or.inl ⟨_, rfl⟩
  · exact Or.inl ⟨_, rfl⟩
  · exact Or.inr rfl

/-- A reattach either finds a reattachable session of its user under the right token, or
    changes nothing. -/
theorem reattach_cases (reconnectToken : TerminalReconnectToken) (actorEmail : String)
    (now : Nat) (token : TerminalReconnectToken) :
    registry.reattach sessionId reconnectToken actorEmail now token = (registry, none) ∨
    ∃ tracked, registry.get sessionId = some tracked ∧ tracked.actorEmail = actorEmail ∧
      tracked.state.isReattachable = true ∧ tracked.reconnectToken = reconnectToken ∧
      registry.reattach sessionId reconnectToken actorEmail now token =
        (registry.modify sessionId (fun tracked =>
          { tracked with reconnectToken := token, state := .reattaching, lastActivity := now }),
          some
            { backend := tracked.backend
              output := tracked.output
              outputNext := (registry.outputs[tracked.output]?.map (·.log.length)).getD 0
              replay := tracked.replay.items
              size := tracked.size
              reconnectToken := token
              nodeId := tracked.nodeId
              transportStatus := tracked.transportStatus }) := by
  rw [reattach]
  split
  · exact Or.inl rfl
  · rename_i tracked h
    split_ifs with hactor htoken
    · exact Or.inl rfl
    · exact Or.inl rfl
    · simp only [ne_eq, Bool.not_eq_true', not_or, Decidable.not_not, Bool.or_eq_true,
        decide_eq_true_eq, Bool.not_eq_false] at hactor htoken
      exact Or.inr ⟨tracked, h, hactor.1, hactor.2, htoken, rfl⟩

/-- Removing several sessions touches no other session. -/
theorem get_removeEach (state : TerminalSessionState) (ids : List TerminalSessionId) :
    (removeEach state ids registry).1.get other =
      if other ∈ ids then none else registry.get other := by
  induction ids generalizing registry with
  | nil => simp [removeEach]
  | cons sessionId ids ih =>
    have hget := get_removeTracked (registry.modify sessionId ({ · with state := state }))
      sessionId other
    rw [get_modify] at hget
    rw [removeEach]
    split
    · rename_i next h
      rw [h] at hget
      rw [ih, hget]
      by_cases hother : other = sessionId <;> simp [hother]
    · rename_i next session h
      rw [h] at hget
      simp only [ih, hget]
      by_cases hother : other = sessionId <;> simp [hother]

/-- Every session of the given ids that is tracked is removed. -/
theorem exists_removed {state : TerminalSessionState} {ids : List TerminalSessionId}
    {session : TrackedTerminalSession} (hid : sessionId ∈ ids)
    (found : registry.get sessionId = some session) :
    ∃ removed ∈ (removeEach state ids registry).2, removed.sessionId = sessionId := by
  induction ids generalizing registry session with
  | nil => cases hid
  | cons first ids ih =>
    have hget := get_removeTracked (registry.modify first ({ · with state := state })) first
    have hsnd := snd_removeTracked (registry.modify first ({ · with state := state })) first
    rw [get_modify, if_pos rfl] at hsnd
    rw [removeEach]
    by_cases hfirst : sessionId = first
    · subst hfirst
      rw [found, Option.map_some] at hsnd
      split
      · rename_i heq
        rw [heq] at hsnd
        cases hsnd
      · rename_i next removed heq
        exact ⟨_, List.mem_cons_self .., rfl⟩
    · have hrest : sessionId ∈ ids := (List.mem_cons.mp hid).resolve_left hfirst
      have kept := hget sessionId
      rw [if_neg hfirst, get_modify, if_neg hfirst, found] at kept
      split
      · rename_i next heq
        rw [heq] at kept
        exact ih _ hrest kept
      · rename_i next removed heq
        rw [heq] at kept
        obtain ⟨gone, hgone, hname⟩ := ih _ hrest kept
        exact ⟨gone, List.mem_cons_of_mem _ hgone, hname⟩

/-! PTYs and output channels. -/

/-- Everything sent on an output channel so far. -/
def outputLog (output : Nat) : List TerminalServerMessage :=
  (registry.outputs[output]?.map (·.log)).getD []

@[simp] theorem outputLog_dropSender (output named : Nat) :
    (registry.dropSender named).outputLog output = registry.outputLog output := by
  simp only [outputLog, dropSender, List.getElem?_modify]
  cases registry.outputs[output]? with
  | none => rfl
  | some channel => by_cases h : named = output <;> simp [h]

theorem outputLog_terminate (output : Nat) :
    (registry.terminate sessionId).1.outputLog output = registry.outputLog output := by
  have houtputs := outputs_removeTracked
    (registry.modify sessionId ({ · with state := .terminating })) sessionId
  rw [terminate]
  split
  · rename_i h
    rw [h] at houtputs
    rw [outputLog, houtputs, outputs_modify, outputLog]
  · rename_i h
    rw [h] at houtputs
    rw [outputLog_dropSender, outputLog, houtputs, outputs_modify, outputLog]

theorem outputLog_remove (output : Nat) :
    (registry.remove sessionId).outputLog output = registry.outputLog output := by
  have houtputs := outputs_removeTracked registry sessionId
  rw [remove]
  split
  · rename_i h
    rw [h] at houtputs
    rw [outputLog, houtputs, outputLog]
  · rename_i h
    rw [h] at houtputs
    rw [outputLog_dropSender, outputLog, houtputs, outputLog]

@[simp] theorem outputs_removeEach (state : TerminalSessionState)
    (ids : List TerminalSessionId) :
    (removeEach state ids registry).1.outputs = registry.outputs := by
  induction ids generalizing registry with
  | nil => rfl
  | cons sessionId ids ih =>
    have houtputs := outputs_removeTracked (registry.modify sessionId ({ · with state := state }))
      sessionId
    rw [removeEach]
    split
    · rename_i h
      rw [h] at houtputs
      rw [ih, houtputs, outputs_modify]
    · rename_i h
      rw [h] at houtputs
      rw [ih, houtputs, outputs_modify]

/-- The output channels an operation leaves are the ones it found, as far as their logs go. -/
theorem outputLog_broadcast {output : Nat} (named : Nat) (message : TerminalServerMessage)
    (h : output < registry.outputs.length) :
    ({ registry with outputs := registry.outputs.modify named (·.send message) } :
      TerminalSessionRegistry).outputLog output =
      registry.outputLog output ++ (if named = output then [message] else []) := by
  simp only [outputLog, List.getElem?_modify, List.getElem?_eq_getElem h]
  by_cases hnamed : named = output <;> simp [hnamed]

theorem ptys_closeBackend {pty : Nat} {backend : TerminalBackend} (h : backend ≠ .local pty) :
    (registry.closeBackend backend).ptys[pty]? = registry.ptys[pty]? := by
  cases backend with
  | remote commands => rfl
  | «local» named =>
    have hne : named ≠ pty := fun heq => h (heq ▸ rfl)
    simp [closeBackend, closePty, hne]

/-- A PTY that the session does not hold survives its removal. -/
theorem ptys_removeTracked {pty : Nat}
    (h : ∀ session, registry.get sessionId = some session → session.backend ≠ .local pty) :
    (registry.removeTracked sessionId).1.ptys[pty]? = registry.ptys[pty]? := by
  rw [removeTracked]
  split
  · rfl
  · rename_i session hsession
    exact ptys_closeBackend _ (h session hsession)

theorem ptys_terminate {pty : Nat}
    (h : ∀ session, registry.get sessionId = some session → session.backend ≠ .local pty) :
    (registry.terminate sessionId).1.ptys[pty]? = registry.ptys[pty]? := by
  have hptys : ((registry.modify sessionId ({ · with state := .terminating })).removeTracked
      sessionId).1.ptys[pty]? = registry.ptys[pty]? := by
    rw [ptys_removeTracked, ptys_modify]
    intro session hsession
    rw [get_modify, if_pos rfl] at hsession
    obtain ⟨before, hbefore, rfl⟩ := Option.map_eq_some_iff.mp hsession
    exact h before hbefore
  rw [terminate]
  split
  · rename_i heq
    rwa [heq] at hptys
  · rename_i heq
    rwa [heq] at hptys

theorem ptys_remove {pty : Nat}
    (h : ∀ session, registry.get sessionId = some session → session.backend ≠ .local pty) :
    (registry.remove sessionId).ptys[pty]? = registry.ptys[pty]? := by
  have hptys := ptys_removeTracked registry sessionId h
  rw [remove]
  split
  · rename_i heq
    rwa [heq] at hptys
  · rename_i heq
    rwa [heq] at hptys

theorem ptys_removeEach {pty : Nat} {state : TerminalSessionState}
    {ids : List TerminalSessionId}
    (h : ∀ id ∈ ids, ∀ session, registry.get id = some session → session.backend ≠ .local pty) :
    (removeEach state ids registry).1.ptys[pty]? = registry.ptys[pty]? := by
  induction ids generalizing registry with
  | nil => rfl
  | cons first ids ih =>
    have hptys : ((registry.modify first ({ · with state := state })).removeTracked
        first).1.ptys[pty]? = registry.ptys[pty]? := by
      rw [ptys_removeTracked, ptys_modify]
      intro session hsession
      rw [get_modify, if_pos rfl] at hsession
      obtain ⟨before, hbefore, rfl⟩ := Option.map_eq_some_iff.mp hsession
      exact h first (List.mem_cons_self ..) before hbefore
    have hget := get_removeTracked (registry.modify first ({ · with state := state })) first
    have held : ∀ {next : TerminalSessionRegistry},
        (∀ other, next.get other = if other = first then none else
          (registry.modify first ({ · with state := state })).get other) →
        ∀ id ∈ ids, ∀ session, next.get id = some session → session.backend ≠ .local pty := by
      intro next hnext id hid session hsession
      rw [hnext, get_modify] at hsession
      split_ifs at hsession
      exact h id (List.mem_cons_of_mem _ hid) session hsession
    rw [removeEach]
    split
    · rename_i next heq
      rw [heq] at hptys hget
      rw [ih _ (held hget), hptys]
    · rename_i next session heq
      rw [heq] at hptys hget
      rw [ih _ (held hget), hptys]

/-- How many PTYs and output channels there are. -/
def sizes : Nat × Nat := (registry.ptys.length, registry.outputs.length)

@[simp] theorem sizes_modify (f : TrackedTerminalSession → TrackedTerminalSession) :
    (registry.modify sessionId f).sizes = registry.sizes := rfl

@[simp] theorem sizes_dropSender (output : Nat) :
    (registry.dropSender output).sizes = registry.sizes := by
  simp [sizes, dropSender]

@[simp] theorem sizes_closePty (pty : Nat) : (registry.closePty pty).sizes = registry.sizes := by
  simp [sizes, closePty]

@[simp] theorem sizes_removeTracked :
    (registry.removeTracked sessionId).1.sizes = registry.sizes := by
  rw [removeTracked]
  split
  · rfl
  · rename_i session _
    cases hbackend : session.backend with
    | remote commands => simp [closeBackend, sizes]
    | «local» pty => simp [closeBackend, closePty, sizes]

@[simp] theorem sizes_terminate : (registry.terminate sessionId).1.sizes = registry.sizes := by
  have hsizes := sizes_removeTracked
    (registry.modify sessionId ({ · with state := .terminating })) sessionId
  rw [terminate]
  split
  · rename_i h
    rw [h, sizes_modify] at hsizes
    exact hsizes
  · rename_i h
    rw [h, sizes_modify] at hsizes
    rw [sizes_dropSender, hsizes]

@[simp] theorem sizes_remove : (registry.remove sessionId).sizes = registry.sizes := by
  have hsizes := sizes_removeTracked registry sessionId
  rw [remove]
  split
  · rename_i h
    rwa [h] at hsizes
  · rename_i h
    rw [h] at hsizes
    rw [sizes_dropSender, hsizes]

@[simp] theorem sizes_removeEach (state : TerminalSessionState) (ids : List TerminalSessionId) :
    (removeEach state ids registry).1.sizes = registry.sizes := by
  induction ids generalizing registry with
  | nil => rfl
  | cons sessionId ids ih =>
    have hsizes := sizes_removeTracked (registry.modify sessionId ({ · with state := state }))
      sessionId
    rw [removeEach]
    split
    · rename_i h
      rw [h, sizes_modify] at hsizes
      rw [ih, hsizes]
    · rename_i h
      rw [h, sizes_modify] at hsizes
      rw [ih, hsizes]

end Effects

end TerminalSessionRegistry

end Sunbolt.Control
