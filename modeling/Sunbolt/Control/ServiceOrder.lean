/- Module: Sunbolt/Control/ServiceOrder
   scope: sunbolt-control
   digest: The program order of every handler of the control plane, kept by every run. -/

import Sunbolt.Control.BrowserOrder

set_option autoImplicit false
set_option relaxedAutoImplicit false

namespace Sunbolt.Control

open Sunbolt.Library
open Sunbolt.Protocol (TerminalSessionId TerminalServerMessage AgentTerminalCommand
  AgentTerminalEvent AgentTransportId AgentTransportKind AgentTransportEnvelope
  AgentTransportError AgentTransportMessageId AgentTransportPayload
  AgentTransportLongPollRequest NodeId)

/-! The PTY reader. -/

/-- The chunk a call read, if any. -/
def chunkOf (x : Interaction Action Reply) : List (List UInt8) :=
  match x with
  | ⟨.terminal (.readOutput _), .ok bytes⟩ => if bytes = [] then [] else [bytes]
  | _ => []

/-- The non-empty chunks read so far. -/
def chunks (past : Past) : List (List UInt8) := past.flatMap chunkOf

def textOf (x : Interaction Action Reply) : List String :=
  match x with
  | ⟨.terminal (.recordOutput _ data), _⟩ => [data]
  | _ => []

/-- The texts recorded so far. -/
def texts (past : Past) : List String := past.flatMap textOf

def recordedBy (x : Interaction Action Reply) : Option TerminalServerMessage :=
  match x with
  | ⟨.terminal (.recordOutput _ _), message⟩ => message
  | _ => none

/-- The output the last call recorded, which is still to be broadcast. -/
def pending (past : Past) : Option TerminalServerMessage := past.getLast?.bind recordedBy

/-- What is still to be broadcast has been recorded. -/
theorem recorded_of_pending {past : Past} {message : TerminalServerMessage}
    (h : pending past = some message) :
    ∃ sessionId data, Did past (.terminal (.recordOutput sessionId data)) (some message) := by
  obtain ⟨x, hlast, hrecorded⟩ := Option.bind_eq_some_iff.mp h
  have hmem : x ∈ past := List.mem_of_getLast? hlast
  unfold recordedBy at hrecorded
  split at hrecorded
  · cases hrecorded
    exact ⟨_, _, hmem⟩
  · cases hrecorded

@[simp] theorem pending_append_one (past : Past) (x : Interaction Action Reply) :
    pending (past ++ [x]) = recordedBy x := by
  simp [pending]

@[simp] theorem chunks_append_one (past : Past) (x : Interaction Action Reply) :
    chunks (past ++ [x]) = chunks past ++ chunkOf x := by
  simp [chunks]

@[simp] theorem texts_append_one (past : Past) (x : Interaction Action Reply) :
    texts (past ++ [x]) = texts past ++ textOf x := by
  simp [texts]

/-- Every chunk has been recorded, and nothing is to be broadcast. -/
structure ReaderIdle (past : Past) : Prop where
  pending : pending past = none
  texts : texts past = (chunks past).map outputText

/-- The reader was told how the child ended. -/
def Waited (past : Past) (pty : Nat) (exit : Sunbolt.Terminal.TerminalExitStatus) : Prop :=
  Did past (.terminal (.waitExit pty)) (.ok (some exit)) ∨
    Did past (.terminal (.tryWaitExit pty)) (.ok (some exit))

def readerAct (pty : Nat) (sessionId : TerminalSessionId) (output : Nat) (past : Past) :
    Action → Prop
  | .terminal (.isClosed named) => named = pty ∧ ReaderIdle past
  | .terminal (.readOutput named) => named = pty ∧ ReaderIdle past
  | .terminal (.recordOutput named data) => named = sessionId ∧ pending past = none ∧
      texts past ++ [data] = (chunks past).map outputText
  | .terminal (.broadcast named message) => named = output ∧
      (pending past = some message ∨ pending past = none ∧
        ((∃ exit, Waited past pty exit ∧ message = exitMessage sessionId exit) ∨
          ∃ error, message = .error sessionId error))
  | .terminal (.tryWaitExit named) => named = pty ∧ ReaderIdle past
  | .terminal (.waitExit named) => named = pty ∧ ReaderIdle past
  | .terminal (.dropSender named) => named = output ∧ ReaderIdle past
  | _ => False

def readerHead (pty : Nat) (sessionId : TerminalSessionId) (output : Nat) (past : Past)
    (stage : Stage) : Prop :=
  stage = .ptyReader pty sessionId output ∧ ReaderIdle past

def readerPost (pty : Nat) (sessionId : TerminalSessionId) (output : Nat) (past : Past) :
    Option Stage → Prop
  | some stage => readerHead pty sessionId output past stage
  | none => ReaderIdle past

section Reader

variable {pty : Nat} {sessionId : TerminalSessionId} {output : Nat} {past : Past}

private theorem ReaderIdle.snoc (h : ReaderIdle past) {x : Interaction Action Reply}
    (recorded : recordedBy x = none) (chunk : chunkOf x = []) (text : textOf x = []) :
    ReaderIdle (past ++ [x]) where
  pending := by rw [pending_append_one, recorded]
  texts := by rw [texts_append_one, chunks_append_one, chunk, text, List.append_nil,
    List.append_nil, h.texts]

private theorem all_broadcastExit {otherwise : Handler Unit} (idle : ReaderIdle past)
    (exit : Except Sunbolt.Terminal.TerminalError (Option Sunbolt.Terminal.TerminalExitStatus))
    (waited : ∀ status, exit = .ok (some status) → Waited past pty status)
    (other : otherwise.All (readerAct pty sessionId output) past
      (fun later _ => ReaderIdle later)) :
    (broadcastExit sessionId output exit otherwise).All (readerAct pty sessionId output) past
      (fun later _ => ReaderIdle later) := by
  unfold broadcastExit
  split
  · rename_i status
    exact ⟨⟨rfl, Or.inr ⟨idle.pending, Or.inl ⟨status, waited status rfl, rfl⟩⟩⟩,
      fun _ => idle.snoc rfl rfl rfl⟩
  · exact other

private theorem all_finishReader (idle : ReaderIdle past) :
    (finishReader pty sessionId output).All (readerAct pty sessionId output) past
      (readerPost pty sessionId output) := by
  rw [finishReader, Program.all_bind]
  refine all_call_then ⟨rfl, idle⟩ (fun exit later heq hwaited => ?_)
  have waited : ReaderIdle later := heq ▸ idle.snoc rfl rfl rfl
  rw [Program.all_done, Program.all_bind]
  refine (all_broadcastExit waited exit (fun status h => Or.inl (h ▸ hwaited))
    (by simpa using waited)).mono (fun later _ hlater => ?_)
  exact ⟨⟨rfl, hlater⟩, fun _ => hlater.snoc rfl rfl rfl⟩

/-- A recorded output is broadcast at once; a session that is gone has none. -/
private theorem all_broadcastRecorded {message : Option TerminalServerMessage}
    (recorded : pending past = message) (caught : texts past = (chunks past).map outputText) :
    (broadcastRecorded output message).All (readerAct pty sessionId output) past
      (fun later _ => ReaderIdle later) := by
  cases message with
  | none => exact ⟨recorded, caught⟩
  | some message =>
    refine ⟨⟨rfl, Or.inl recorded⟩, fun _ => ⟨by rw [pending_append_one]; rfl, ?_⟩⟩
    simpa [chunkOf, textOf] using caught

private theorem all_recordOutput {bytes : List UInt8} (idle : ReaderIdle past)
    (some_bytes : bytes ≠ []) {named : Nat} {longer : Past}
    (read : longer = past ++ [⟨.terminal (.readOutput named), .ok bytes⟩]) :
    (do
      let message : Option TerminalServerMessage ←
        terminal (.recordOutput sessionId (outputText bytes))
      broadcastRecorded output message
      return some (.ptyReader pty sessionId output) :
      Handler (Option Stage)).All (readerAct pty sessionId output) longer
      (readerPost pty sessionId output) := by
  have hpending : pending longer = none := by
    rw [read, pending_append_one]
    rfl
  have htexts : texts longer ++ [outputText bytes] = (chunks longer).map outputText := by
    rw [read, texts_append_one, chunks_append_one, idle.texts]
    simp [chunkOf, textOf, some_bytes]
  rw [Program.all_bind]
  refine all_call_then ⟨rfl, hpending, htexts⟩ (fun message recorded heq _ => ?_)
  rw [Program.all_done, Program.all_bind]
  refine (all_broadcastRecorded ?_ ?_).mono (fun later _ hlater => ⟨rfl, hlater⟩)
  · rw [heq, pending_append_one]
    rfl
  · rw [heq, texts_append_one, chunks_append_one]
    simpa [chunkOf, textOf] using htexts

theorem all_readPtyOutput (idle : ReaderIdle past) :
    (readPtyOutput pty sessionId output).All (readerAct pty sessionId output) past
      (readerPost pty sessionId output) := by
  rw [readPtyOutput, Program.all_bind]
  refine all_call_then ⟨rfl, idle⟩ (fun closed asked heq _ => ?_)
  have hasked : ReaderIdle asked := heq ▸ idle.snoc rfl rfl rfl
  rw [Program.all_done, Program.all_ite]
  refine ⟨fun _ => all_finishReader hasked, fun _ => ?_⟩
  rw [Program.all_bind]
  refine all_call_then ⟨rfl, hasked⟩ (fun result reading heq' _ => ?_)
  rw [Program.all_done]
  split
  · exact all_finishReader (heq' ▸ hasked.snoc rfl rfl rfl)
  · exact all_finishReader (heq' ▸ hasked.snoc rfl rfl rfl)
  · rename_i bytes hbytes _
    exact all_recordOutput hasked hbytes heq'
  · rename_i error _
    have hreading : ReaderIdle reading := heq' ▸ hasked.snoc rfl rfl rfl
    rw [Program.all_bind]
    refine all_call_then ⟨rfl, hreading⟩ (fun exit tried heq'' htry => ?_)
    have htried : ReaderIdle tried := heq'' ▸ hreading.snoc rfl rfl rfl
    rw [Program.all_done, Program.all_bind]
    refine (all_broadcastExit htried exit (fun status h => Or.inr (h ▸ htry)) ?_).mono
      (fun later _ hlater => all_finishReader hlater)
    exact ⟨⟨rfl, Or.inr ⟨htried.pending, Or.inr ⟨_, rfl⟩⟩⟩, fun _ => htried.snoc rfl rfl rfl⟩

end Reader

/-! The HTTP requests and the cleanup worker. -/

def terminateAct (actorEmail : String) (sessionId : TerminalSessionId) (past : Past) :
    Action → Prop
  | .terminal (.ownerMatches named actor) => named = sessionId ∧ actor = actorEmail
  | .terminal (.nodeId _) => True
  | .terminal (.terminate named) => named = sessionId ∧
      Did past (.terminal (.ownerMatches sessionId actorEmail)) true
  | .agent (.sendCommand channel command) => command = .closeTerminal sessionId ∧
      Did past (.terminal (.ownerMatches sessionId actorEmail)) true ∧
      Did past (.terminal (.terminate sessionId)) (some (.remote channel))
  | .host (.userHasNodePermission ..) => True
  | .host (.audit _) => True
  | .host (.respond ..) => True
  | _ => False

/-- The calls about sessions that a bulk removal took out. -/
def removedAct (removed : List RemovedSession) : Action → Prop
  | .terminal (.broadcast output message) => ∃ session ∈ removed, session.output = output ∧
      ∃ error, message = .error session.sessionId error
  | .terminal (.dropSender output) => ∃ session ∈ removed, session.output = output
  | .agent (.sendCommand channel command) => ∃ session ∈ removed,
      session.backend = .remote channel ∧ command = .closeTerminal session.sessionId
  | .host (.audit _) => True
  | _ => False

def cleanupAct (past : Past) : Action → Prop
  | .terminal (.drainExpired ..) => True
  | action => ∃ maxDuration idleTimeout removed,
      Did past (.terminal (.drainExpired maxDuration idleTimeout)) removed ∧
      removedAct removed action

def revokeAct (nodeId : String) (past : Past) : Action → Prop
  | .host (.userHasNodePermission ..) => True
  | .host (.respond ..) => True
  | .host (.audit _) => True
  | .node (.revokeNode named) => named = nodeId
  | .terminal (.closeSessionsForNode named) => named = nodeId ∧
      ∃ view, Did past (.node (.revokeNode nodeId)) (.ok view)
  | .agent (.disconnect named) => named = nodeId ∧
      ∃ removed, Did past (.terminal (.closeSessionsForNode nodeId)) removed
  | action => ∃ removed, Did past (.terminal (.closeSessionsForNode nodeId)) removed ∧
      removedAct removed action

section Requests

attribute [local simp] terminal agent node host Program.perform

variable {past : Past}

private theorem each_closeAtAgent {removed : List RemovedSession} {session : RemovedSession}
    (h : session ∈ removed) :
    (closeAtAgent session.backend session.sessionId).Each (removedAct removed)
      (fun _ => True) := by
  cases hbackend : session.backend with
  | «local» pty => trivial
  | remote commands => exact ⟨⟨session, h, hbackend, rfl⟩, fun _ => trivial⟩

private theorem each_closeRemoved {removed rest : List RemovedSession}
    {error : Sunbolt.Protocol.TerminalError} {auditText : TerminalSessionId → String}
    (h : rest ⊆ removed) :
    (closeRemoved error auditText rest).Each (removedAct removed) (fun _ => True) := by
  induction rest with
  | nil => trivial
  | cons session rest ih =>
    have hsession : session ∈ removed := h (List.mem_cons_self ..)
    have hrest := ih (fun x hx => h (List.mem_cons_of_mem _ hx))
    rw [closeRemoved, Program.each_bind]
    refine ⟨⟨session, hsession, rfl, _, rfl⟩, fun _ => ?_⟩
    rw [Program.each_done, Program.each_bind]
    refine (each_closeAtAgent hsession).mono (fun _ _ => ?_)
    rw [Program.each_bind]
    refine ⟨trivial, fun _ => ?_⟩
    rw [Program.each_done, Program.each_bind]
    exact ⟨⟨session, hsession, rfl⟩, fun _ => hrest⟩

private theorem all_closeRemoved {Act : Past → Action → Prop} {Post : Past → Unit → Prop}
    {removed : List RemovedSession} {error : Sunbolt.Protocol.TerminalError}
    {auditText : TerminalSessionId → String}
    (act : ∀ extra action, removedAct removed action → Act (past ++ extra) action)
    (post : ∀ later, past <+: later → Post later ()) :
    (closeRemoved error auditText removed).All Act past Post :=
  (each_closeRemoved (List.Subset.refl removed)).all
    (fun extra action _ h => act extra action h)
    (fun _ _ _ _ => post _ (List.prefix_append ..))

private theorem all_sessionCleanupWorker {config : TerminalSessionConfig} :
    (sessionCleanupWorker config).All cleanupAct past
      (fun _ next => next = some .cleanupWorker) := by
  rw [sessionCleanupWorker, Program.all_bind]
  refine all_call_then trivial (fun removed later _ hdrained => ?_)
  rw [Program.all_done, Program.all_bind]
  refine all_closeRemoved (fun extra action h => ?_) (fun _ _ => rfl)
  have drained : ∃ maxDuration idleTimeout removed,
      Did (later ++ extra) (.terminal (.drainExpired maxDuration idleTimeout)) removed ∧
      removedAct removed action :=
    ⟨_, _, removed, Did.later (List.prefix_append ..) hdrained, h⟩
  unfold cleanupAct
  split
  · trivial
  · exact drained

private theorem revokeAct_of_removed {nodeId : String} {removed : List RemovedSession}
    {action : Action} (closed : Did past (.terminal (.closeSessionsForNode nodeId)) removed)
    (h : removedAct removed action) : revokeAct nodeId past action := by
  unfold revokeAct
  split
  · trivial
  · trivial
  · trivial
  · cases h
  · cases h
  · cases h
  · exact ⟨removed, closed, h⟩

private theorem all_revokeNode {actorEmail nodeId : String} :
    (revokeNode actorEmail nodeId).All (revokeAct nodeId) past (fun _ next => next = none) := by
  rw [revokeNode, Program.all_bind]
  refine all_call_then trivial (fun allowed asked _ _ => ?_)
  rw [Program.all_done]
  match allowed with
  | none => exact ⟨trivial, fun _ => rfl⟩
  | some false => exact ⟨trivial, fun _ => rfl⟩
  | some true =>
    dsimp only
    rw [Program.all_bind]
    refine all_call_then rfl (fun revoked later _ hrevoked => ?_)
    rw [Program.all_done]
    split
    · exact ⟨trivial, fun _ => rfl⟩
    · exact ⟨trivial, fun _ => rfl⟩
    · rename_i view _
      rw [Program.all_bind]
      refine all_call_then ⟨rfl, view, hrevoked⟩ (fun removed closed _ hclosed => ?_)
      rw [Program.all_done, Program.all_bind]
      refine all_closeRemoved (fun extra action h => revokeAct_of_removed
        (Did.later (List.prefix_append ..) hclosed) h) (fun last hlast => ?_)
      rw [Program.all_bind]
      exact ⟨⟨rfl, removed, hclosed.later hlast⟩, fun _ => ⟨trivial, fun _ =>
        ⟨trivial, fun _ => rfl⟩⟩⟩

private theorem all_terminateTerminalSession {actorEmail : String}
    {sessionId : TerminalSessionId} :
    (terminateTerminalSession actorEmail sessionId).All (terminateAct actorEmail sessionId) past
      (fun _ next => next = none) := by
  rw [terminateTerminalSession, Program.all_bind]
  refine all_call_then ⟨rfl, rfl⟩ (fun owner asked _ howner => ?_)
  rw [Program.all_done, Program.all_ite]
  refine ⟨fun _ => ⟨trivial, fun _ => rfl⟩, fun howned => ?_⟩
  have owned : owner = true := by simpa using howned
  have authorized : (authorizeSessionTerminate actorEmail sessionId).All
      (terminateAct actorEmail sessionId) asked (fun later _ => asked <+: later) := by
    rw [authorizeSessionTerminate, Program.all_bind]
    refine all_call_then trivial (fun nodeId later heq _ => ?_)
    rw [Program.all_done]
    cases nodeId with
    | none => exact heq ▸ List.prefix_append ..
    | some nodeId =>
      exact ⟨trivial, fun _ => heq ▸ (List.prefix_append ..).trans (List.prefix_append ..)⟩
  rw [Program.all_bind]
  refine authorized.mono (fun later allowed hlater => ?_)
  rw [Program.all_ite]
  refine ⟨fun _ => ⟨trivial, fun _ => rfl⟩, fun _ => ?_⟩
  rw [Program.all_bind]
  have howner : Did later (.terminal (.ownerMatches sessionId actorEmail)) true :=
    Did.later hlater (owned ▸ howner)
  refine all_call_then ⟨rfl, howner⟩ (fun backend ended heq hended => ?_)
  rw [Program.all_done]
  match backend with
  | none => exact ⟨trivial, fun _ => rfl⟩
  | some (.local pty) => exact ⟨trivial, fun _ => ⟨trivial, fun _ => rfl⟩⟩
  | some (.remote commands) =>
    exact ⟨⟨rfl, howner.later (heq ▸ List.prefix_append ..), hended⟩,
      fun _ => ⟨trivial, fun _ => ⟨trivial, fun _ => rfl⟩⟩⟩

end Requests

/-! The agent transports. -/

def Authenticated (past : Past) (nodeId : String) : Prop :=
  ∃ fingerprint proof version view, Did past
    (.node (.authenticateTransport nodeId fingerprint proof version)) (.ok view)

/-- The task has not registered a websocket yet. -/
def Unregistered (past : Past) : Prop :=
  ∀ nodeId transportId kind registered,
    ¬Did past (.agent (.registerTransport nodeId transportId kind)) registered

/-- The task registered its websocket under this channel. -/
def RegisteredChannel (past : Past) (channel : Nat) : Prop :=
  ∃ nodeId transportId kind registration, Did past
    (.agent (.registerTransport nodeId transportId kind)) (registration, channel)

/-- The task serves a long-poll connection with this channel. -/
def EnsuredChannel (past : Past) (channel : Nat) : Prop :=
  ∃ nodeId transportId registration connection, Did past
    (.agent (.ensureLongPollTransport nodeId transportId)) (registration, connection) ∧
    connection.channel = channel

def agentAct (past : Past) : Action → Prop
  | .node (.authenticateTransport ..) => True
  | .agent (.registerTransport nodeId _ kind) => kind = .webSocketTlsTcp443 ∧
      Authenticated past nodeId ∧ Unregistered past
  | .agent (.disconnectTransport nodeId transportId) => ∃ kind registered,
      Did past (.agent (.registerTransport nodeId transportId kind)) registered
  | .agent (.dropTransport channel) => RegisteredChannel past channel
  | .agent (.trySendEvent channel _) => RegisteredChannel past channel
  | .agent (.selectAgent channel) => RegisteredChannel past channel
  | .host .receiveAgent => True
  | .host (.sendAgent _) => True
  | .host .now => True
  | .host (.audit _) => True
  | .host (.agentAuthFailureAllowed _) => True
  | _ => False

def longPollAct (past : Past) : Action → Prop
  | .node (.authenticateTransport ..) => True
  | .agent (.ensureLongPollTransport nodeId _) => Authenticated past nodeId
  | .agent (.trySendEvent channel _) => EnsuredChannel past channel
  | .agent (.lockCommands channel) => EnsuredChannel past channel
  | .agent (.unlockCommands channel) => EnsuredChannel past channel
  | .agent (.recvCommandTimeout channel) => EnsuredChannel past channel
  | .agent (.tryRecvCommand channel) => EnsuredChannel past channel
  | .agent (.nextLongPollMessageId channel) => EnsuredChannel past channel
  | .host (.sendAgent _) => True
  | .host (.audit _) => True
  | .host (.respond ..) => True
  | .host (.agentAuthFailureAllowed _) => True
  | _ => False

/-- The session of a websocket task is the one it registered. -/
def AgentRegistered (past : Past) (session : AgentSession) : Prop :=
  ∃ kind registration, Did past (.agent (.registerTransport session.handshake.nodeId.val
    session.handshake.transportId kind)) (registration, session.channel)

def agentHead (past : Past) : Stage → Prop
  | .agentSocket => past = []
  | .agentConnected session => AgentRegistered past session
  | _ => False

def agentPost (past : Past) (next : Option Stage) : Prop := ∀ stage ∈ next, agentHead past stage

section Agents

attribute [local simp] terminal agent node host Program.perform agentAct longPollAct

variable {past longer : Past}

theorem Authenticated.later (h : past <+: longer) {nodeId : String}
    (ha : Authenticated past nodeId) : Authenticated longer nodeId := by
  obtain ⟨fingerprint, proof, version, view, hd⟩ := ha
  exact ⟨fingerprint, proof, version, view, hd.later h⟩

theorem RegisteredChannel.later (h : past <+: longer) {channel : Nat}
    (hr : RegisteredChannel past channel) : RegisteredChannel longer channel := by
  obtain ⟨nodeId, transportId, kind, registration, hd⟩ := hr
  exact ⟨nodeId, transportId, kind, registration, hd.later h⟩

theorem AgentRegistered.later (h : past <+: longer) {session : AgentSession}
    (hr : AgentRegistered past session) : AgentRegistered longer session := by
  obtain ⟨kind, registration, hd⟩ := hr
  exact ⟨kind, registration, hd.later h⟩

theorem AgentRegistered.channel {session : AgentSession} (h : AgentRegistered past session) :
    RegisteredChannel past session.channel := by
  obtain ⟨kind, registration, hd⟩ := h
  exact ⟨_, _, kind, registration, hd⟩

theorem EnsuredChannel.later (h : past <+: longer) {channel : Nat}
    (hr : EnsuredChannel past channel) : EnsuredChannel longer channel := by
  obtain ⟨nodeId, transportId, registration, connection, hd, hchannel⟩ := hr
  exact ⟨nodeId, transportId, registration, connection, hd.later h, hchannel⟩

private theorem Unregistered.snoc (h : Unregistered past) {action : Action}
    (hne : ∀ nodeId transportId kind,
      action ≠ .agent (.registerTransport nodeId transportId kind)) (reply : Reply action) :
    Unregistered (past ++ [⟨action, reply⟩]) := by
  intro nodeId transportId kind registered hd
  rcases List.mem_append.mp hd with hd | hd
  · exact h _ _ _ _ hd
  · rw [List.mem_singleton] at hd
    exact hne _ _ _ (congrArg Interaction.action hd).symm

/-- The handshake up to the registration: only its own node is authenticated. -/
private theorem all_negotiateTransportForKind {Act : Past → Action → Prop}
    (act : ∀ past nodeId fingerprint proof version,
      Act past (.node (.authenticateTransport nodeId fingerprint proof version)))
    (unregistered : Unregistered past) (envelope : AgentTransportEnvelope)
    (kind : AgentTransportKind) {Post : Past →
      Except AgentTransportConnectionError AgentTransportHandshake → Prop}
    (failed : ∀ later error, Post later (.error error))
    (negotiated : ∀ later, Unregistered later → Authenticated later envelope.nodeId.val →
      Post later (.ok ⟨envelope.nodeId, envelope.transportId, kind⟩)) :
    (negotiateTransportForKind envelope kind).All Act past Post := by
  rw [negotiateTransportForKind]
  split
  · exact failed _ _
  · split
    · rename_i hello _
      split
      · exact failed _ _
      · rw [Program.all_bind, authenticateTransportClient, Program.all_bind]
        refine all_call_then (act ..) (fun result later heq hdid => ?_)
        rw [Program.all_done]
        split
        · refine negotiated _ ?_ ⟨_, _, _, _, hdid⟩
          exact heq ▸ unregistered.snoc (by simp) _
        · exact failed _ _
        · exact failed _ _
    · exact failed _ _

/-- The calls an order allows from here on, whatever else is called in between. -/
def Onward (Act : Past → Action → Prop) (past : Past) (action : Action) : Prop :=
  ∀ extra, Act (past ++ extra) action

private theorem all_of_onward {α : Type} {Act : Past → Action → Prop} {p : Handler α}
    {Q : α → Prop} {Post : Past → α → Prop} (h : p.Each (Onward Act past) Q)
    (post : ∀ later value, past <+: later → Q value → Post later value) : p.All Act past Post :=
  h.all (fun extra _ _ haction => haction extra)
    (fun _ value _ => post _ value (List.prefix_append ..))

@[simp] private theorem each_recordOnward {Act : Past → Action → Prop} {Q : Unit → Prop}
    (kind : AuditEventKind) (actor : Option String) (message : String) :
    (record kind actor message).Each (Onward Act past) Q ↔
      Onward Act past (.host (.audit ⟨kind, actor, message⟩)) ∧ Q () := by
  simp only [record, host, Program.perform, Program.each_call, Program.each_done]
  exact ⟨fun h => ⟨h.1, h.2 ()⟩, fun h => ⟨h.1, fun _ => h.2⟩⟩

private theorem each_handleAgentTransportEnvelope {Act : Past → Action → Prop}
    {handshake : AgentTransportHandshake} {envelope : AgentTransportEnvelope} {channel : Nat}
    (act : ∀ event, Onward Act past (.agent (.trySendEvent channel event))) :
    (handleAgentTransportEnvelope handshake envelope channel).Each (Onward Act past)
      (fun _ => True) := by
  rw [handleAgentTransportEnvelope]
  split
  · trivial
  · rw [Program.each_ite]
    refine ⟨fun _ => trivial, fun _ => ?_⟩
    split
    · trivial
    · rename_i event _
      exact ⟨act event, fun sent => by cases sent <;> trivial⟩
    · trivial

/-- The task goes on with the same connection, or not at all. -/
def SameSession (session : AgentSession) (next : Option Stage) : Prop :=
  ∀ stage ∈ next, ∃ later, stage = .agentConnected later ∧
    later.handshake = session.handshake ∧ later.channel = session.channel

private theorem each_leaveAgentSocket {session : AgentSession} (reason : String)
    (registered : AgentRegistered past session) :
    (leaveAgentSocket session reason).Each (Onward agentAct past) (SameSession session) := by
  have left : ∀ extra : Past, ∃ kind registration channel, Did (past ++ extra)
      (.agent (.registerTransport session.handshake.nodeId.val session.handshake.transportId
        kind)) (registration, channel) := by
    intro extra
    obtain ⟨kind, registration, hd⟩ := registered
    exact ⟨kind, registration, _, hd.later (List.prefix_append ..)⟩
  have held : ∀ extra : Past, RegisteredChannel (past ++ extra) session.channel :=
    fun extra => registered.channel.later (List.prefix_append ..)
  simp [leaveAgentSocket, Onward, left, held, SameSession]

private theorem each_handleAgentFrame {session : AgentSession} {frame : AgentFrame}
    (registered : AgentRegistered past session) :
    (handleAgentFrame session frame).Each (Onward agentAct past) (SameSession session) := by
  have leave := fun reason => each_leaveAgentSocket reason registered
  have send : ∀ event, Onward agentAct past (.agent (.trySendEvent session.channel event)) :=
    fun event extra => registered.channel.later (List.prefix_append ..)
  have outcome : (frameResult session frame).Each (Onward agentAct past) (fun _ => True) := by
    rw [frameResult]
    split
    · exact each_handleAgentTransportEnvelope send
    · trivial
  rw [handleAgentFrame, Program.each_bind]
  refine outcome.mono (fun result _ => ?_)
  dsimp only
  split
  · simp [Onward, leave, SameSession]
  · simp [SameSession]
  · simp [Onward, SameSession]

private theorem each_agentConnectedLoop {session : AgentSession}
    (registered : AgentRegistered past session) :
    (agentConnectedLoop session).Each (Onward agentAct past) (SameSession session) := by
  have leave := fun reason => each_leaveAgentSocket reason registered
  rw [agentConnectedLoop, Program.each_bind]
  refine ⟨fun extra => registered.channel.later (List.prefix_append ..), fun wake => ?_⟩
  rw [Program.each_done]
  split
  · exact each_handleAgentFrame registered
  · exact leave _
  · exact leave _
  · exact leave _
  · simp [Onward, leave, SameSession]
  · simp [Onward, leave, SameSession]

private theorem agentPost_of_same {session : AgentSession} {next : Option Stage}
    (registered : AgentRegistered past session) (same : SameSession session next) :
    agentPost past next := by
  intro stage hstage
  obtain ⟨later, rfl, hhandshake, hchannel⟩ := same stage hstage
  obtain ⟨kind, registration, hd⟩ := registered
  exact ⟨kind, registration, by rw [hhandshake, hchannel]; exact hd⟩

private theorem all_agentConnectedLoop {session : AgentSession}
    (registered : AgentRegistered past session) :
    (agentConnectedLoop session).All agentAct past agentPost :=
  all_of_onward (each_agentConnectedLoop registered)
    (fun _ _ hlater same => agentPost_of_same (registered.later hlater) same)

private theorem each_recordAgentTransportAuthenticationFailure {Act : Past → Action → Prop}
    (audit : ∀ input, Onward Act past (.host (.audit input)))
    (allowed : ∀ nodeId, Onward Act past (.host (.agentAuthFailureAllowed nodeId)))
    (nodeId : NodeId) (transportId : AgentTransportId) (error : AgentTransportConnectionError) :
    (recordAgentTransportAuthenticationFailure nodeId transportId error).Each (Onward Act past)
      (fun _ => True) := by
  rw [recordAgentTransportAuthenticationFailure, Program.each_ite]
  refine ⟨fun _ => trivial, fun _ => ?_⟩
  simp [audit, allowed]

private theorem each_recordAgentReplaced {Act : Past → Action → Prop} {Q : Unit → Prop}
    (audit : ∀ input, Onward Act past (.host (.audit input)))
    (handshake : AgentTransportHandshake) (h : Q ()) :
    (recordAgentReplaced handshake).Each (Onward Act past) Q := by
  simp [recordAgentReplaced, audit, h]

private theorem each_recordAgentNegotiated {Act : Past → Action → Prop} {Q : Unit → Prop}
    (audit : ∀ input, Onward Act past (.host (.audit input)))
    (handshake : AgentTransportHandshake) (h : Q ()) :
    (recordAgentNegotiated handshake).Each (Onward Act past) Q := by
  simp [recordAgentNegotiated, audit, h]

private theorem all_handleAgentTransportSocket :
    handleAgentTransportSocket.All agentAct [] agentPost := by
  have audit : ∀ {past : Past} input, Onward agentAct past (.host (.audit input)) :=
    fun _ _ => trivial
  have stopped : ∀ past, agentPost past none := fun _ _ h => absurd h (by simp)
  rw [handleAgentTransportSocket, Program.all_bind]
  refine all_call_then trivial (fun first received heq _ => ?_)
  rw [Program.all_done]
  have fresh : Unregistered received := by
    have nothing : Unregistered ([] : Past) := fun _ _ _ _ h => List.not_mem_nil h
    exact heq ▸ nothing.snoc (by simp) first
  split
  · exact stopped _
  · exact stopped _
  · split
    · exact ⟨trivial, fun _ => stopped _⟩
    · rename_i envelope _
      rw [Program.all_bind]
      refine all_negotiateTransportForKind (fun _ _ _ _ _ => trivial) fresh envelope _
        (fun later error => ?_) (fun later unregistered authenticated => ?_)
      · dsimp only
        rw [Program.all_bind]
        refine all_of_onward (each_recordAgentTransportAuthenticationFailure audit
          (fun _ _ => trivial) _ _ _) (fun _ _ _ _ => ?_)
        exact ⟨trivial, fun _ => stopped _⟩
      · dsimp only
        rw [Program.all_bind]
        refine all_call_then ⟨rfl, authenticated, unregistered⟩ (fun registered joined _ hdid => ?_)
        rw [Program.all_done]
        have joins : ∀ {last : Past}, joined <+: last → ∀ session : AgentSession,
            session.handshake = ⟨envelope.nodeId, envelope.transportId, .webSocketTlsTcp443⟩ →
            session.channel = registered.2 → AgentRegistered last session := by
          rintro last hlast ⟨-, channel, -, -⟩ rfl rfl
          exact ⟨_, registered.1, hdid.later hlast⟩
        have replaced : (runIf (registered.1 = .replacedExisting) (recordAgentReplaced
            ⟨envelope.nodeId, envelope.transportId, .webSocketTlsTcp443⟩)).Each
            (Onward agentAct joined) (fun _ => True) := by
          rw [runIf, Program.each_ite]
          exact ⟨fun _ => each_recordAgentReplaced audit _ trivial, fun _ => trivial⟩
        have left : ∀ extra : Past, ∃ kind registration channel, Did (joined ++ extra)
            (.agent (.registerTransport envelope.nodeId.val envelope.transportId kind))
            (registration, channel) :=
          fun extra => ⟨_, registered.1, registered.2, hdid.later (List.prefix_append ..)⟩
        have held : ∀ extra : Past, RegisteredChannel (joined ++ extra) registered.2 :=
          fun extra => ⟨_, _, _, registered.1, hdid.later (List.prefix_append ..)⟩
        refine all_of_onward (Q := SameSession ⟨⟨envelope.nodeId, envelope.transportId,
          .webSocketTlsTcp443⟩, registered.2, ⟨3⟩, 0⟩) ?_ (fun last next hlast same =>
            agentPost_of_same (joins hlast _ rfl rfl) same)
        rw [Program.each_bind]
        refine replaced.mono (fun _ _ => ?_)
        rw [Program.each_bind]
        refine each_recordAgentNegotiated audit _ ?_
        simp [Onward, SameSession, left, held]

/-! The long-poll handler keeps to the channel it ensured. -/

section LongPoll

variable {channel : Nat} (ensured : ∀ extra : Past, EnsuredChannel (past ++ extra) channel)
include ensured

private theorem each_longPollEnvelope {Q : AgentTransportEnvelope → Prop}
    {handshake : AgentTransportHandshake} {payload : AgentTransportPayload}
    (h : ∀ envelope, Q envelope) :
    (longPollEnvelope handshake channel payload).Each (Onward longPollAct past) Q :=
  ⟨ensured, fun _ => h _⟩

private theorem each_handleLongPollEvents (handshake : AgentTransportHandshake)
    (events envelopes : List AgentTransportEnvelope) :
    (handleLongPollEvents handshake channel events envelopes).Each (Onward longPollAct past)
      (fun _ => True) := by
  induction events generalizing envelopes with
  | nil => trivial
  | cons event events ih =>
    rw [handleLongPollEvents, Program.each_bind]
    refine (each_handleAgentTransportEnvelope (fun _ extra => ensured extra)).mono
      (fun outcome _ => ?_)
    split
    · rw [Program.each_bind]
      exact each_longPollEnvelope ensured (fun envelope => ih _)
    · exact ih envelopes
    · rw [Program.each_bind]
      exact each_longPollEnvelope ensured (fun envelope => ih _)

private theorem each_takeLongPollCommands (handshake : AgentTransportHandshake) (room : Nat)
    (envelopes : List AgentTransportEnvelope) :
    (takeLongPollCommands handshake channel room envelopes).Each (Onward longPollAct past)
      (fun _ => True) := by
  induction room generalizing envelopes with
  | zero => trivial
  | succ room ih =>
    rw [takeLongPollCommands, Program.each_bind]
    refine ⟨ensured, fun command => ?_⟩
    rw [Program.each_done]
    cases command with
    | none => trivial
    | some command =>
      dsimp only
      rw [Program.each_bind]
      exact each_longPollEnvelope ensured (fun envelope => ih _)

private theorem each_awaitLongPollCommand (handshake : AgentTransportHandshake)
    (envelopes : List AgentTransportEnvelope) :
    (awaitLongPollCommand handshake channel envelopes).Each (Onward longPollAct past)
      (fun _ => True) := by
  rw [awaitLongPollCommand, Program.each_ite]
  refine ⟨fun _ => trivial, fun _ => ?_⟩
  rw [Program.each_bind]
  refine ⟨ensured, fun command => ?_⟩
  rw [Program.each_done]
  cases command with
  | none => trivial
  | some command =>
    dsimp only
    rw [Program.each_bind]
    exact each_longPollEnvelope ensured (fun _ => trivial)

private theorem each_appendLongPollCommands (handshake : AgentTransportHandshake)
    (envelopes : List AgentTransportEnvelope) :
    (appendLongPollCommands handshake channel envelopes).Each (Onward longPollAct past)
      (fun _ => True) := by
  rw [appendLongPollCommands, Program.each_bind]
  refine ⟨ensured, fun _ => ?_⟩
  rw [Program.each_done, Program.each_bind]
  refine (each_awaitLongPollCommand ensured handshake envelopes).mono (fun awaited _ => ?_)
  rw [Program.each_bind]
  refine (each_takeLongPollCommands ensured handshake _ awaited).mono (fun taken _ => ?_)
  exact ⟨ensured, fun _ => trivial⟩

end LongPoll

private theorem each_sendAll {Act : Past → Action → Prop}
    (send : ∀ envelope, Onward Act past (.host (.sendAgent envelope)))
    (envelopes : List AgentTransportEnvelope) :
    (sendAll envelopes).Each (Onward Act past) (fun _ => True) := by
  induction envelopes with
  | nil => trivial
  | cons envelope rest ih => exact ⟨send envelope, fun _ => ih⟩

private theorem each_rejectLongPoll (failed : AgentTransportEnvelope)
    (error : AgentTransportConnectionError) :
    (rejectLongPoll failed error).Each (Onward longPollAct past) (fun next => next = none) := by
  rw [rejectLongPoll, Program.each_bind]
  refine (each_recordAgentTransportAuthenticationFailure (fun _ _ => trivial)
    (fun _ _ => trivial) _ _ _).mono (fun rateLimited _ => ?_)
  simp [Onward]

private theorem each_recordLongPollRegistration (registration : AgentConnectionRegistration)
    (handshake : AgentTransportHandshake) :
    (recordLongPollRegistration registration handshake).Each (Onward longPollAct past)
      (fun _ => True) := by
  have audit : ∀ input, Onward longPollAct past (.host (.audit input)) := fun _ _ => trivial
  rw [recordLongPollRegistration, Program.each_ite]
  refine ⟨fun _ => ?_, fun _ => trivial⟩
  rw [Program.each_bind, runIf, Program.each_ite]
  have negotiated : (recordAgentNegotiated handshake >>= fun _ => record .agentConnected none
      ("agent node " ++ handshake.nodeId.val ++ " connected on degraded long-poll transport " ++
        handshake.transportId.val)).Each (Onward longPollAct past) (fun _ => True) := by
    rw [Program.each_bind]
    exact each_recordAgentNegotiated audit handshake (by simp [audit])
  exact ⟨fun _ => each_recordAgentReplaced audit handshake negotiated, fun _ => negotiated⟩

private theorem all_agentTransportLongPoll (request : AgentTransportLongPollRequest) :
    (agentTransportLongPoll request).All longPollAct [] (fun _ next => next = none) := by
  rw [agentTransportLongPoll, Program.all_bind]
  refine all_negotiateTransportForKind (fun _ _ _ _ _ => trivial)
    (fun _ _ _ _ h => List.not_mem_nil h) request.clientHello _ (fun later error => ?_)
    (fun later _ authenticated => ?_)
  · exact all_of_onward (each_rejectLongPoll _ _) (fun _ _ _ h => h)
  · dsimp only
    rw [Program.all_bind]
    refine all_call_then authenticated (fun registered joined _ hdid => ?_)
    have ensured : ∀ extra : Past, EnsuredChannel (joined ++ extra) registered.2.channel :=
      fun extra => ⟨_, _, registered.1, registered.2, hdid.later (List.prefix_append ..), rfl⟩
    rw [Program.all_done]
    refine all_of_onward (Q := fun next => next = none) ?_ (fun _ _ _ h => h)
    rw [Program.each_bind]
    refine (each_recordLongPollRegistration _ _).mono (fun _ _ => ?_)
    rw [Program.each_ite]
    refine ⟨fun _ => ?_, fun _ => ?_⟩
    · exact each_rejectLongPoll _ _
    · rw [Program.each_bind]
      refine each_longPollEnvelope ensured (fun hello => ?_)
      rw [Program.each_bind]
      refine (each_handleLongPollEvents ensured _ _ _).mono (fun envelopes _ => ?_)
      rw [Program.each_bind]
      refine (each_appendLongPollCommands ensured _ _).mono (fun envelopes _ => ?_)
      rw [Program.each_bind]
      refine ⟨fun _ => trivial, fun _ => ?_⟩
      rw [Program.each_done, Program.each_bind]
      exact (each_sendAll (fun _ _ => trivial) envelopes).mono (fun _ _ => rfl)

end Agents

/-! All handlers together: a task keeps the order of the stage it started in. -/

def controlAct : Stage → Past → Action → Prop
  | .terminalSocket actorEmail => browserAct actorEmail
  | .ptyReader pty sessionId output => readerAct pty sessionId output
  | .terminateSession actorEmail sessionId => terminateAct actorEmail sessionId
  | .cleanupWorker => cleanupAct
  | .revokeNode _ nodeId => revokeAct nodeId
  | .agentSocket => agentAct
  | .agentLongPoll _ => longPollAct
  | _ => fun _ _ => False

def controlHead : Stage → Stage → Past → Prop
  | .terminalSocket actorEmail, stage, past => browserHead actorEmail past stage
  | .ptyReader pty sessionId output, stage, past =>
    readerHead pty sessionId output past stage
  | .terminateSession actorEmail sessionId, stage, _ =>
    stage = .terminateSession actorEmail sessionId
  | .cleanupWorker, stage, _ => stage = .cleanupWorker
  | .revokeNode actorEmail nodeId, stage, _ => stage = .revokeNode actorEmail nodeId
  | .agentSocket, stage, past => agentHead past stage
  | .agentLongPoll request, stage, past => stage = .agentLongPoll request ∧ past = []
  | _, _, _ => False

def controlHalt : Stage → Past → Prop
  | .ptyReader .., past => ReaderIdle past
  | _, _ => True

def controlOrder : Discipline Action Reply Stage := ⟨controlAct, controlHead, controlHalt⟩

private theorem control_body {config : TerminalSessionConfig} {origin stage : Stage}
    {past : Past} (head : controlHead origin stage past) :
    (body config stage).All (controlAct origin) past (controlOrder.post origin) := by
  cases origin with
  | terminalSocket actorEmail =>
    refine (all_browserBody config head).mono (fun later next hnext => ?_)
    cases next with
    | none => trivial
    | some stage => exact hnext stage rfl
  | ptyReader pty sessionId output =>
    obtain ⟨rfl, idle⟩ := head
    refine (all_readPtyOutput idle).mono (fun later next hnext => ?_)
    cases next with
    | none => exact hnext
    | some stage => exact hnext
  | terminateSession actorEmail sessionId =>
    cases head
    exact all_terminateTerminalSession.mono (fun later next hnext => hnext ▸ trivial)
  | cleanupWorker =>
    cases head
    exact all_sessionCleanupWorker.mono (fun later next hnext => hnext ▸ rfl)
  | revokeNode actorEmail nodeId =>
    cases head
    exact all_revokeNode.mono (fun later next hnext => hnext ▸ trivial)
  | agentSocket =>
    have post : ∀ later next, agentPost later next → controlOrder.post .agentSocket later next := by
      intro later next hnext
      cases next with
      | none => trivial
      | some stage => exact hnext stage rfl
    cases stage with
    | agentSocket =>
      cases head
      exact all_handleAgentTransportSocket.mono post
    | agentConnected session => exact (all_agentConnectedLoop head).mono post
    | _ => cases head
  | agentLongPoll request =>
    obtain ⟨rfl, rfl⟩ := head
    exact (all_agentTransportLongPoll request).mono (fun later next hnext => hnext ▸ trivial)
  | _ => cases head

/-- The tasks that a call starts are readers. -/
theorem head_of_spawned {order : Discipline Action Reply Stage} {config : TerminalSessionConfig}
    {i : Nat} {sh : AppState} {action : Action} {choice : Choice}
    {out : Outcome AppState Action Reply Stage action}
    (hout : (controlPlane config).perform i sh action choice = some out)
    (reader : ∀ pty sessionId output, order.head (.ptyReader pty sessionId output)
      (.ptyReader pty sessionId output) []) :
    ∀ stage ∈ out.spawned, order.head stage stage [] := by
  intro stage hstage
  obtain ⟨⟨reply, state⟩, -, rfl⟩ := Option.map_eq_some_iff.mp hout
  simp only [spawned] at hstage
  split at hstage
  · obtain rfl := List.mem_singleton.mp hstage
    exact reader _ _ _
  · cases hstage

/-- Every run of the control plane keeps the program order of its handlers. -/
theorem controlOrder_sound (config : TerminalSessionConfig) :
    controlOrder.Sound (controlPlane config) entry where
  entered e := by
    cases e with
    | browser actorEmail => exact ⟨rfl, rfl⟩
    | agentSocket => rfl
    | longPoll request => exact ⟨rfl, rfl⟩
    | _ => rfl
  spawned hout := head_of_spawned hout (fun _ _ _ => ⟨rfl, rfl, rfl⟩)
  body := control_body

end Sunbolt.Control
