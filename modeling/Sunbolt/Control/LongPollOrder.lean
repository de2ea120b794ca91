/- Module: Sunbolt/Control/LongPollOrder
   scope: sunbolt-control/src/agent/mod.rs
   digest: A long-poll request answers with the ids and the commands it was given, in order. -/

import Sunbolt.Control.ServiceOrder

set_option autoImplicit false
set_option relaxedAutoImplicit false

namespace Sunbolt.Control

open Sunbolt.Library
open Sunbolt.Protocol

/-- The command this call takes off the channel, if it does. -/
def commandTakenOf (channel : Nat) (x : Interaction Action Reply) : List AgentTerminalCommand :=
  match x with
  | ⟨.agent (.recvCommandTimeout index), some command⟩ => if index = channel then [command] else []
  | ⟨.agent (.tryRecvCommand index), some command⟩ => if index = channel then [command] else []
  | ⟨.agent (.selectAgent index), .command (some command)⟩ =>
    if index = channel then [command] else []
  | _ => []

/-- The message id this call is given for an envelope of the connection, if it is. -/
def messageIdOf (channel : Nat) (x : Interaction Action Reply) : List AgentTransportMessageId :=
  match x with
  | ⟨.agent (.nextLongPollMessageId index), messageId⟩ =>
    if index = channel then [messageId] else []
  | _ => []

def envelopeOf (x : Interaction Action Reply) : List AgentTransportEnvelope :=
  match x with
  | ⟨.host (.sendAgent envelope), _⟩ => [envelope]
  | _ => []

def commandOf (payload : AgentTransportPayload) : Option AgentTerminalCommand :=
  match payload with
  | .terminalCommand command => some command
  | _ => none

def commandsTaken (channel : Nat) (past : Past) : List AgentTerminalCommand :=
  past.flatMap (commandTakenOf channel)

def messageIdsGiven (channel : Nat) (past : Past) : List AgentTransportMessageId :=
  past.flatMap (messageIdOf channel)

/-- The envelopes of the response of a request, as far as it has been sent. -/
def response (past : Past) : List AgentTransportEnvelope := past.flatMap envelopeOf

def commandsIn (envelopes : List AgentTransportEnvelope) : List AgentTerminalCommand :=
  envelopes.filterMap (fun envelope => commandOf envelope.payload)

/-- The task serves a request on the long-poll connection with this channel. -/
def PollsOn (past : Past) (channel : Nat) : Prop :=
  ∃ nodeId transportId registration connection, Did past
    (.agent (.ensureLongPollTransport nodeId transportId)) (registration, connection) ∧
    connection.channel = channel ∧ connection.longPoll = true

/-- The response so far: its envelopes bear the ids the request was given, and it carries the
    commands the request took, both in order. -/
structure Answered (request : AgentTransportLongPollRequest) (channel : Nat) (past : Past) :
    Prop where
  ids : (response past).map (·.messageId) <+: messageIdsGiven channel past
  commands : commandsIn (response past) <+: commandsTaken channel past
  few : (response past).length ≤ max agentTransportLongPollBatch (1 + request.events.length)

/-- Whatever the reply to the call is, the response is right after it. -/
def answersNext (request : AgentTransportLongPollRequest) (past : Past) (action : Action) : Prop :=
  ∀ reply channel, PollsOn (past ++ [⟨action, reply⟩]) channel →
    Answered request channel (past ++ [⟨action, reply⟩])

def pollAct : Stage → Past → Action → Prop
  | .agentLongPoll request => answersNext request
  | _ => fun _ _ => True

def pollHead : Stage → Stage → Past → Prop
  | .agentLongPoll request, stage, past => stage = .agentLongPoll request ∧ past = []
  | _, _, _ => True

/-- How a long-poll request puts its response together. -/
def pollOrder : Discipline Action Reply Stage := ⟨pollAct, pollHead, fun _ _ => True⟩

/-- The calls that a response does not depend on. -/
def isPollAside : Action → Bool
  | .agent (.ensureLongPollTransport ..) => false
  | .agent (.recvCommandTimeout _) => false
  | .agent (.tryRecvCommand _) => false
  | .agent (.selectAgent _) => false
  | .agent (.nextLongPollMessageId _) => false
  | .host (.sendAgent _) => false
  | _ => true

section Past

variable {past : Past} {x : Interaction Action Reply} {channel : Nat}

theorem response_append_one : response (past ++ [x]) = response past ++ envelopeOf x := by
  rw [response, List.flatMap_append, List.flatMap_singleton, response]

theorem messageIdsGiven_append_one :
    messageIdsGiven channel (past ++ [x]) =
      messageIdsGiven channel past ++ messageIdOf channel x := by
  rw [messageIdsGiven, List.flatMap_append, List.flatMap_singleton, messageIdsGiven]

theorem commandsTaken_append_one :
    commandsTaken channel (past ++ [x]) =
      commandsTaken channel past ++ commandTakenOf channel x := by
  rw [commandsTaken, List.flatMap_append, List.flatMap_singleton, commandsTaken]

theorem commandsIn_append_one (envelopes : List AgentTransportEnvelope)
    (envelope : AgentTransportEnvelope) : commandsIn (envelopes ++ [envelope]) =
      commandsIn envelopes ++ (commandOf envelope.payload).toList := by
  rw [commandsIn, List.filterMap_append, commandsIn]
  cases h : commandOf envelope.payload <;> simp [h]

theorem pollsOn_append_one {action : Action} {reply : Reply action}
    (other : ∀ nodeId transportId, action ≠ .agent (.ensureLongPollTransport nodeId transportId)) :
    PollsOn (past ++ [⟨action, reply⟩]) channel ↔ PollsOn past channel := by
  constructor
  · rintro ⟨nodeId, transportId, registration, connection, hdid, hserved⟩
    rcases List.mem_append.mp hdid with hold | hnew
    · exact ⟨nodeId, transportId, registration, connection, hold, hserved⟩
    · have haction := congrArg Interaction.action (List.mem_singleton.mp hnew)
      exact absurd haction.symm (other nodeId transportId)
  · rintro ⟨nodeId, transportId, registration, connection, hdid, hserved⟩
    exact ⟨nodeId, transportId, registration, connection, List.mem_append_left _ hdid, hserved⟩

theorem aside_messageId (h : isPollAside x.action = true) : messageIdOf channel x = [] := by
  unfold messageIdOf
  split
  · cases h
  · rfl

theorem aside_commandTaken (h : isPollAside x.action = true) : commandTakenOf channel x = [] := by
  unfold commandTakenOf
  split
  · cases h
  · cases h
  · cases h
  · rfl

theorem aside_envelope (h : isPollAside x.action = true) : envelopeOf x = [] := by
  unfold envelopeOf
  split
  · cases h
  · rfl

end Past

/-- The request has these envelopes ready, and still has to answer with these commands. -/
structure Polling (past : Past) (channel : Nat) (envelopes : List AgentTransportEnvelope)
    (pending : List AgentTerminalCommand) : Prop where
  only : ∀ other, PollsOn past other → other = channel
  ids : messageIdsGiven channel past = envelopes.map (·.messageId)
  commands : commandsTaken channel past = commandsIn envelopes ++ pending
  unsent : response past = []

section Bodies

attribute [local simp] terminal agent node host Program.perform

variable {past : Past} {request : AgentTransportLongPollRequest} {channel : Nat}
  {envelopes : List AgentTransportEnvelope} {pending : List AgentTerminalCommand}

/-- Before anything is sent every call but a send is fine. -/
private theorem answersNext_of_unsent {action : Action} (unsent : response past = [])
    (quiet : ∀ envelope, action ≠ .host (.sendAgent envelope)) :
    answersNext request past action := by
  intro reply other _
  have hsent : response (past ++ [⟨action, reply⟩]) = [] := by
    rw [response_append_one, unsent, List.nil_append]
    unfold envelopeOf
    split
    · rename_i envelope _ heq
      exact absurd (congrArg Interaction.action heq) (quiet envelope)
    · rfl
  constructor
  · rw [hsent]
    exact List.nil_prefix
  · rw [hsent]
    exact List.nil_prefix
  · rw [hsent]
    exact Nat.zero_le _

/-- A task that serves no connection may send what it likes. -/
private theorem answersNext_of_none {action : Action} (none : ∀ other, ¬PollsOn past other)
    (aside : ∀ nodeId transportId, action ≠ .agent (.ensureLongPollTransport nodeId transportId)) :
    answersNext request past action :=
  fun _ other served => absurd ((pollsOn_append_one aside).mp served) (none other)

namespace Polling

theorem act (h : Polling past channel envelopes pending) {action : Action}
    (quiet : ∀ envelope, action ≠ .host (.sendAgent envelope)) :
    answersNext request past action :=
  answersNext_of_unsent h.unsent quiet

theorem aside (h : Polling past channel envelopes pending) {x : Interaction Action Reply}
    (haside : isPollAside x.action = true) : Polling (past ++ [x]) channel envelopes pending := by
  constructor
  · intro other served
    have hother : ∀ nodeId transportId,
        x.action ≠ .agent (.ensureLongPollTransport nodeId transportId) := by
      intro nodeId transportId heq
      rw [heq] at haside
      cases haside
    exact h.only other ((pollsOn_append_one hother).mp served)
  · rw [messageIdsGiven_append_one, aside_messageId haside, List.append_nil, h.ids]
  · rw [commandsTaken_append_one, aside_commandTaken haside, List.append_nil, h.commands]
  · rw [response_append_one, aside_envelope haside, List.append_nil, h.unsent]

/-- A command was taken: it is to be answered. -/
theorem took (h : Polling past channel envelopes []) {action : AgentAction}
    (takes : action = .recvCommandTimeout channel ∨ action = .tryRecvCommand channel)
    {reply : Reply (.agent action)} (command : Option AgentTerminalCommand)
    (hreply : commandTakenOf channel ⟨.agent action, reply⟩ = command.toList) :
    Polling (past ++ [⟨.agent action, reply⟩]) channel envelopes command.toList := by
  constructor
  · intro other served
    have hother : ∀ nodeId transportId, Action.agent action ≠
        .agent (.ensureLongPollTransport nodeId transportId) := by
      rintro nodeId transportId heq
      rcases takes with rfl | rfl <;> cases heq
    exact h.only other ((pollsOn_append_one hother).mp served)
  · rw [messageIdsGiven_append_one, h.ids]
    rcases takes with rfl | rfl <;> exact List.append_nil _
  · rw [commandsTaken_append_one, h.commands, hreply, List.append_nil]
  · rw [response_append_one, h.unsent]
    rcases takes with rfl | rfl <;> rfl

end Polling

/-- An envelope gets the next id of the connection. -/
private theorem polls_longPollEnvelope {handshake : AgentTransportHandshake}
    {payload : AgentTransportPayload}
    (h : Polling past channel envelopes (commandOf payload).toList) :
    (longPollEnvelope handshake channel payload).All (answersNext request) past
      (fun later envelope => Polling later channel (envelopes ++ [envelope]) []) := by
  refine ⟨h.act (fun envelope heq => by cases heq), fun messageId => ?_⟩
  constructor
  · intro other served
    exact h.only other ((pollsOn_append_one (fun nodeId transportId heq => by cases heq)).mp served)
  · rw [messageIdsGiven_append_one, h.ids, List.map_append]
    simp [messageIdOf, AgentTransportHandshake.envelope, AgentTransportEnvelope.current]
  · rw [commandsTaken_append_one, h.commands, commandsIn_append_one, List.append_nil]
    exact List.append_nil _
  · rw [response_append_one, h.unsent]
    rfl

private theorem polls_handleAgentTransportEnvelope {handshake : AgentTransportHandshake}
    {envelope : AgentTransportEnvelope} (h : Polling past channel envelopes []) :
    (handleAgentTransportEnvelope handshake envelope channel).All (answersNext request) past
      (fun later _ => Polling later channel envelopes []) := by
  rw [handleAgentTransportEnvelope]
  split
  · exact h
  · rw [Program.all_ite]
    refine ⟨fun _ => h, fun _ => ?_⟩
    split
    · exact h
    · refine ⟨h.act (fun envelope heq => by cases heq), fun sent => ?_⟩
      have hsent := h.aside (x := ⟨.agent (.trySendEvent channel _), sent⟩) rfl
      cases sent
      · exact hsent
      · exact hsent
    · exact h

private theorem polls_handleLongPollEvents {handshake : AgentTransportHandshake}
    {events : List AgentTransportEnvelope} (h : Polling past channel envelopes []) :
    (handleLongPollEvents handshake channel events envelopes).All (answersNext request) past
      (fun later ready => Polling later channel ready [] ∧
        ready.length ≤ envelopes.length + events.length) := by
  induction events generalizing past envelopes with
  | nil => exact ⟨h, le_rfl⟩
  | cons event events ih =>
    -- each event adds one envelope or none
    have more : ∀ {later : Past} {envelope : AgentTransportEnvelope},
        Polling later channel (envelopes ++ [envelope]) [] →
        (handleLongPollEvents handshake channel events (envelopes ++ [envelope])).All
          (answersNext request) later (fun later ready => Polling later channel ready [] ∧
            ready.length ≤ envelopes.length + (event :: events).length) := by
      intro later envelope hlater
      refine (ih hlater).mono (fun last ready hready => ⟨hready.1, hready.2.trans ?_⟩)
      simp only [List.length_append, List.length_cons, List.length_nil]
      omega
    rw [handleLongPollEvents, Program.all_bind]
    refine (polls_handleAgentTransportEnvelope h).mono (fun later outcome hlater => ?_)
    split
    · rw [Program.all_bind]
      exact (polls_longPollEnvelope hlater).mono (fun last envelope hlast => more hlast)
    · refine (ih hlater).mono (fun last ready hready => ⟨hready.1, hready.2.trans ?_⟩)
      simp only [List.length_cons]
      omega
    · rw [Program.all_bind]
      exact (polls_longPollEnvelope hlater).mono (fun last envelope hlast => more hlast)

private theorem polls_takeLongPollCommands {handshake : AgentTransportHandshake} {room : Nat}
    (h : Polling past channel envelopes []) :
    (takeLongPollCommands handshake channel room envelopes).All (answersNext request) past
      (fun later ready => Polling later channel ready [] ∧
        ready.length ≤ envelopes.length + room) := by
  induction room generalizing past envelopes with
  | zero => exact ⟨h, le_rfl⟩
  | succ room ih =>
    rw [takeLongPollCommands, Program.all_bind]
    refine ⟨h.act (fun envelope heq => by cases heq), fun command => ?_⟩
    rw [Program.all_done]
    cases command with
    | none => exact ⟨h.took (Or.inr rfl) none rfl, Nat.le_add_right ..⟩
    | some command =>
      dsimp only
      rw [Program.all_bind]
      have taken : Polling (past ++ [⟨.agent (.tryRecvCommand channel), some command⟩]) channel
          envelopes [command] := h.took (Or.inr rfl) (some command) (if_pos rfl)
      refine (polls_longPollEnvelope taken).mono (fun later envelope hlater => ?_)
      refine (ih hlater).mono (fun last ready hready => ⟨hready.1, hready.2.trans ?_⟩)
      simp only [List.length_append, List.length_cons, List.length_nil]
      omega

private theorem polls_awaitLongPollCommand {handshake : AgentTransportHandshake}
    (h : Polling past channel envelopes []) :
    (awaitLongPollCommand handshake channel envelopes).All (answersNext request) past
      (fun later ready => Polling later channel ready [] ∧
        ready.length ≤ max 2 envelopes.length) := by
  rw [awaitLongPollCommand, Program.all_ite]
  refine ⟨fun _ => ⟨h, le_max_right ..⟩, fun hone => ?_⟩
  rw [Program.all_bind]
  refine ⟨h.act (fun envelope heq => by cases heq), fun command => ?_⟩
  rw [Program.all_done]
  cases command with
  | none => exact ⟨h.took (Or.inl rfl) none rfl, le_max_right ..⟩
  | some command =>
    dsimp only
    rw [Program.all_bind]
    have taken : Polling (past ++ [⟨.agent (.recvCommandTimeout channel), some command⟩]) channel
        envelopes [command] := h.took (Or.inl rfl) (some command) (if_pos rfl)
    refine (polls_longPollEnvelope taken).mono (fun later envelope hlater => ⟨hlater, ?_⟩)
    rw [List.length_append, List.length_singleton, not_not.mp hone]
    exact le_max_left ..

private theorem polls_appendLongPollCommands {handshake : AgentTransportHandshake}
    (h : Polling past channel envelopes []) :
    (appendLongPollCommands handshake channel envelopes).All (answersNext request) past
      (fun later ready => Polling later channel ready [] ∧
        ready.length ≤ max agentTransportLongPollBatch envelopes.length) := by
  rw [appendLongPollCommands, Program.all_bind]
  refine ⟨h.act (fun envelope heq => by cases heq), fun _ => ?_⟩
  have locked := h.aside (x := ⟨.agent (.lockCommands channel), ()⟩) rfl
  rw [Program.all_done, Program.all_bind]
  refine (polls_awaitLongPollCommand locked).mono (fun later awaited hawaited => ?_)
  rw [Program.all_bind]
  refine (polls_takeLongPollCommands hawaited.1).mono (fun last ready hready => ?_)
  refine ⟨hready.1.act (fun envelope heq => by cases heq), fun _ => ?_⟩
  refine ⟨hready.1.aside (x := ⟨.agent (.unlockCommands channel), ()⟩) rfl, ?_⟩
  have hlength := hawaited.2
  have htaken := hready.2
  simp only [agentTransportLongPollBatch] at htaken ⊢
  omega

/-- The envelopes that are ready are sent in order. -/
private theorem polls_sendAll {rest : List AgentTransportEnvelope}
    (only : ∀ other, PollsOn past other → other = channel)
    (ids : messageIdsGiven channel past = (response past ++ rest).map (·.messageId))
    (commands : commandsTaken channel past = commandsIn (response past ++ rest))
    (few : (response past ++ rest).length ≤
      max agentTransportLongPollBatch (1 + request.events.length)) :
    (sendAll rest).All (answersNext request) past (fun _ _ => True) := by
  induction rest generalizing past with
  | nil => trivial
  | cons envelope rest ih =>
    have hresponse : ∀ sent : Bool,
        response (past ++ [⟨.host (.sendAgent envelope), sent⟩]) = response past ++ [envelope] :=
      fun sent => response_append_one
    have hids : ∀ sent : Bool, messageIdsGiven channel
        (past ++ [⟨.host (.sendAgent envelope), sent⟩]) = messageIdsGiven channel past :=
      fun sent => messageIdsGiven_append_one.trans (List.append_nil _)
    have hcommands : ∀ sent : Bool, commandsTaken channel
        (past ++ [⟨.host (.sendAgent envelope), sent⟩]) = commandsTaken channel past :=
      fun sent => commandsTaken_append_one.trans (List.append_nil _)
    have honly : ∀ (sent : Bool) other,
        PollsOn (past ++ [⟨.host (.sendAgent envelope), sent⟩]) other → other = channel :=
      fun sent other served =>
        only other ((pollsOn_append_one (fun nodeId transportId heq => by cases heq)).mp served)
    have hsplit : response past ++ envelope :: rest = (response past ++ [envelope]) ++ rest := by
      simp
    rw [hsplit] at ids commands few
    refine ⟨?_, fun sent => ?_⟩
    · intro sent other served
      obtain rfl := honly sent other served
      constructor
      · rw [hresponse, hids, ids]
        exact (List.prefix_append ..).map _
      · rw [hresponse, hcommands, commands]
        exact (List.prefix_append ..).filterMap _
      · rw [hresponse]
        rw [List.length_append] at few
        exact (Nat.le_add_right ..).trans few
    · apply ih (honly sent)
      · rw [hids, hresponse, ids]
      · rw [hcommands, hresponse, commands]
      · rw [hresponse]
        exact few

/-- Calls that find no connection. -/
private def Unserved (action : Action) : Prop :=
  ∀ nodeId transportId, action ≠ .agent (.ensureLongPollTransport nodeId transportId)

private theorem none_after {extra : Past} (none : ∀ other, ¬PollsOn past other)
    (unserved : ∀ x ∈ extra, Unserved x.action) : ∀ other, ¬PollsOn (past ++ extra) other := by
  rintro other ⟨nodeId, transportId, registration, connection, hdid, hserved⟩
  rcases List.mem_append.mp hdid with hold | hnew
  · exact none other ⟨nodeId, transportId, registration, connection, hold, hserved⟩
  · exact unserved _ hnew nodeId transportId rfl

private theorem each_record_of_audit {P : Action → Prop} (audit : ∀ input, P (.host (.audit input)))
    (kind : AuditEventKind) (actor : Option String) (message : String) :
    (record kind actor message).Each P (fun _ => True) :=
  ⟨audit _, fun _ => trivial⟩

/-- A request that serves no connection is refused. -/
private theorem polls_rejectLongPoll {failed : AgentTransportEnvelope}
    {error : AgentTransportConnectionError} (none : ∀ other, ¬PollsOn past other) :
    (rejectLongPoll failed error).All (answersNext request) past (fun _ next => next = .none) := by
  have each : (rejectLongPoll failed error).Each Unserved (fun next => next = .none) := by
    rw [rejectLongPoll, Program.each_bind]
    refine Program.Each.mono (Q := fun _ => True) ?_ (fun rateLimited _ => ?_)
    · rw [recordAgentTransportAuthenticationFailure, Program.each_ite]
      refine ⟨fun _ => trivial, fun _ => ?_⟩
      rw [Program.each_bind]
      refine ⟨fun _ _ heq => (by cases heq), fun allowed => ?_⟩
      rw [Program.each_done]
      exact Program.Each.then (each_record_of_audit (fun _ _ _ heq => by cases heq) ..)
        (fun _ => trivial)
    · exact ⟨fun _ _ heq => (by cases heq), fun _ => ⟨fun _ _ heq => (by cases heq), fun _ => rfl⟩⟩
  refine each.all (fun extra action unserved haction => ?_) (fun _ _ _ h => h)
  exact answersNext_of_none (none_after none unserved) haction

private theorem polls_recordLongPollRegistration {registration : AgentConnectionRegistration}
    {handshake : AgentTransportHandshake} (h : Polling past channel envelopes pending) :
    (recordLongPollRegistration registration handshake).All (answersNext request) past
      (fun later _ => Polling later channel envelopes pending ∧
        ∀ other, PollsOn later other → PollsOn past other) := by
  have audit : ∀ input : AuditEventInput, isPollAside (.host (.audit input)) = true := fun _ => rfl
  have each : (recordLongPollRegistration registration handshake).Each
      (fun action => isPollAside action = true) (fun _ => True) := by
    rw [recordLongPollRegistration, Program.each_ite]
    refine ⟨fun _ => ?_, fun _ => trivial⟩
    rw [runIf]
    refine Program.Each.then ?_ (fun _ => ?_)
    · rw [Program.each_ite]
      exact ⟨fun _ => each_record_of_audit audit .., fun _ => trivial⟩
    · refine Program.Each.then (each_record_of_audit audit ..) (fun _ => ?_)
      exact each_record_of_audit audit ..
  have kept : ∀ extra : Past, (∀ x ∈ extra, isPollAside x.action = true) →
      Polling (past ++ extra) channel envelopes pending := by
    intro extra
    induction extra using List.reverseRecOn with
    | nil =>
      intro _
      rwa [List.append_nil]
    | append_singleton extra x ih =>
      intro haside
      rw [← List.append_assoc]
      exact (ih (fun y hy => haside y (List.mem_append_left _ hy))).aside
        (haside x (List.mem_append_right _ (List.mem_singleton_self x)))
  refine each.all (fun extra action haside haction => ?_) (fun extra _ haside _ =>
    ⟨kept extra haside, ?_⟩)
  · refine (kept extra haside).act (fun envelope heq => ?_)
    rw [heq] at haction
    cases haction
  · rintro other ⟨nodeId, transportId, registration, connection, hdid, hserved⟩
    rcases List.mem_append.mp hdid with hold | hnew
    · exact ⟨nodeId, transportId, registration, connection, hold, hserved⟩
    · cases haside _ hnew

section Found

variable {nodeId : String} {transportId : AgentTransportId}
  {registered : AgentConnectionRegistration × RegisteredAgentConnection}

private theorem pollsOn_found (stranger : ∀ other, ¬PollsOn past other) {other : Nat}
    (served : PollsOn (past ++ [⟨.agent (.ensureLongPollTransport nodeId transportId),
      registered⟩]) other) : other = registered.2.channel ∧ registered.2.longPoll = true := by
  obtain ⟨node, transport, registration, connection, hdid, rfl, hlong⟩ := served
  rcases List.mem_append.mp hdid with hold | hnew
  · exact absurd ⟨node, transport, registration, connection, hold, rfl, hlong⟩ (stranger _)
  · cases List.mem_singleton.mp hnew
    exact ⟨rfl, hlong⟩

/-- The connection has been found; nothing has been made for the response yet. -/
private theorem polling_found (stranger : ∀ other, ¬PollsOn past other)
    (ids : ∀ other, messageIdsGiven other past = [])
    (commands : ∀ other, commandsTaken other past = []) (unsent : response past = []) :
    Polling (past ++ [⟨.agent (.ensureLongPollTransport nodeId transportId), registered⟩])
      registered.2.channel [] [] := by
  constructor
  · exact fun other served => (pollsOn_found stranger served).1
  · rw [messageIdsGiven_append_one, ids]
    rfl
  · rw [commandsTaken_append_one, commands]
    rfl
  · rw [response_append_one, unsent]
    rfl

end Found

theorem polls_agentTransportLongPoll :
    (agentTransportLongPoll request).All (answersNext request) [] (fun _ next => next = none) := by
  rw [agentTransportLongPoll, Program.all_bind, negotiateTransportForKind]
  have nobody : ∀ other, ¬PollsOn ([] : Past) other := by
    rintro other ⟨_, _, _, _, hdid, -⟩
    cases hdid
  split
  · exact polls_rejectLongPoll nobody
  · split
    · rename_i hello _
      split
      · exact polls_rejectLongPoll nobody
      · rw [Program.all_bind, authenticateTransportClient, Program.all_bind]
        refine ⟨answersNext_of_unsent rfl (fun _ heq => by cases heq), fun result => ?_⟩
        have stranger : ∀ other, ¬PollsOn ([⟨.node (.authenticateTransport
            request.clientHello.nodeId.val hello.credentialFingerprint hello.credentialProof
            hello.agentVersion), result⟩] : Past) other :=
          none_after nobody (List.forall_mem_singleton.mpr (fun _ _ heq => by cases heq))
        rw [Program.all_done]
        split
        · rw [Program.all_pure, Program.all_pure]
          dsimp only
          rw [Program.all_bind]
          refine ⟨answersNext_of_unsent rfl (fun _ heq => by cases heq), fun registered => ?_⟩
          rw [Program.all_done, Program.all_bind]
          refine (polls_recordLongPollRegistration (polling_found stranger (fun _ => rfl)
            (fun _ => rfl) rfl)).mono (fun noted _ hnoted => ?_)
          rw [Program.all_ite]
          refine ⟨fun closed => ?_, fun _ => ?_⟩
          · refine polls_rejectLongPoll (fun other served => ?_)
            have hopen := (pollsOn_found stranger (hnoted.2 other served)).2
            rw [hopen] at closed
            cases closed
          · rw [Program.all_bind]
            refine (polls_longPollEnvelope hnoted.1).mono (fun greeted hello hgreeted => ?_)
            rw [Program.all_bind]
            refine (polls_handleLongPollEvents hgreeted).mono (fun later ready hready => ?_)
            rw [Program.all_bind]
            refine (polls_appendLongPollCommands hready.1).mono (fun last envelopes hlast => ?_)
            have few : envelopes.length ≤
                max agentTransportLongPollBatch (1 + request.events.length) :=
              hlast.2.trans (max_le_max le_rfl hready.2)
            rw [Program.all_bind]
            refine ⟨hlast.1.act (fun _ heq => by cases heq), fun _ => ?_⟩
            have responded := hlast.1.aside (x := ⟨.host (.respond 200 none), ()⟩) rfl
            rw [Program.all_done, Program.all_bind]
            refine (polls_sendAll responded.only ?_ ?_ ?_).mono (fun _ _ _ => rfl)
            · rw [responded.ids, responded.unsent, List.nil_append]
            · rw [responded.commands, responded.unsent, List.nil_append, List.append_nil]
            · rw [responded.unsent, List.nil_append]
              exact few
        · exact polls_rejectLongPoll stranger
        · exact polls_rejectLongPoll stranger
    · exact polls_rejectLongPoll nobody

end Bodies

/-- Every run of the control plane answers long-poll requests in this order. -/
theorem pollOrder_sound (config : TerminalSessionConfig) :
    pollOrder.Sound (controlPlane config) entry where
  entered e := by
    cases e with
    | longPoll request => exact ⟨rfl, rfl⟩
    | _ => trivial
  spawned hout := head_of_spawned hout (fun _ _ _ => trivial)
  body := by
    intro origin stage past head
    cases origin with
    | agentLongPoll request =>
      obtain ⟨rfl, rfl⟩ := head
      exact polls_agentTransportLongPoll.mono (fun later next hnext => hnext ▸ trivial)
    | _ =>
      refine Program.all_of_forall (fun _ _ => trivial) (fun later next => ?_)
      cases next <;> trivial

end Sunbolt.Control
