/- Module: Sunbolt/Control/EventStreams
   scope: sunbolt-control/src/terminal/mod.rs, sunbolt-control/src/agent/mod.rs
   digest: When the handlers that share a node's event channel each get their own stream. -/

import Sunbolt.Control.ConnectionLedger

set_option autoImplicit false
set_option relaxedAutoImplicit false

namespace Sunbolt.Control

open Sunbolt.Library
open Sunbolt.Protocol (TerminalSessionId TerminalServerMessage AgentTerminalEvent)

/-- The event this call puts on the channel, if it does. -/
def arrivalOf (channel : Nat) (x : Interaction Action Reply) : List AgentTerminalEvent :=
  match x with
  | ⟨.agent (.trySendEvent index event), true⟩ => if index = channel then [event] else []
  | _ => []

/-- The event this call takes off the channel, if it does. -/
def takenOf (channel : Nat) (x : Interaction Action Reply) : List AgentTerminalEvent :=
  match x with
  | ⟨.agent (.selectEvent index), .event (some event)⟩ => if index = channel then [event] else []
  | _ => []

/-- The events accepted on the channel so far, in their arrival order. -/
def arrivedOn (channel : Nat) (history : History) : List AgentTerminalEvent :=
  history.flatMap (fun e => arrivalOf channel e.interaction)

/-- The events that any handler took off the channel so far. -/
def takenFrom (channel : Nat) (history : History) : List AgentTerminalEvent :=
  history.flatMap (fun e => takenOf channel e.interaction)

/-- The events that the handler of this task took; `handleAgentEvent` gets each of them. -/
def takenBy (task channel : Nat) (history : History) : List AgentTerminalEvent :=
  (own task history).flatMap (takenOf channel)

/-- The events still waiting on the channel. -/
def waitingOn (channel : Nat) (connections : AgentConnectionRegistry) :
    List AgentTerminalEvent :=
  (connections.channels[channel]?.map (·.events)).getD []

section Queue

variable {task channel : Nat} {state next : AppState} {action : Action} {reply : Reply action}

private theorem waitingOn_set {connections : AgentConnectionRegistry} {index : Nat}
    {before after : AgentChannel} (found : connections.channels[index]? = some before) :
    waitingOn channel { connections with channels := connections.channels.set index after } =
      if index = channel then after.events else waitingOn channel connections := by
  obtain ⟨hlt, -⟩ := List.getElem?_eq_some_iff.mp found
  rw [waitingOn, waitingOn, List.getElem?_set]
  by_cases hindex : index = channel
  · subst hindex
    simp [hlt]
  · simp [hindex]

private theorem waitingOn_put (connections : AgentConnectionRegistry) (nodeId : String)
    (connection : RegisteredAgentConnection) :
    waitingOn channel (connections.put nodeId connection).1 = waitingOn channel connections := by
  simp only [waitingOn, AgentConnectionRegistry.put]
  rcases lt_trichotomy channel connections.channels.length with hlt | rfl | hgt
  · rw [List.getElem?_append_left hlt]
  · simp [AgentChannel.opened]
  · rw [List.getElem?_eq_none (by simp; omega), List.getElem?_eq_none hgt.le]

private theorem events_sendCommand {channel next : AgentChannel}
    {command : Sunbolt.Protocol.AgentTerminalCommand} {sent : Bool}
    (h : channel.sendCommand command = some (next, sent)) : next.events = channel.events := by
  rw [AgentChannel.sendCommand] at h
  split_ifs at h
  · cases h
    rfl
  · cases h
    rfl

private theorem events_tryRecvCommand (channel : AgentChannel) :
    channel.tryRecvCommand.1.events = channel.events := by
  rw [AgentChannel.tryRecvCommand]
  split <;> rfl

/-- The call moves the queue of this channel as a queue, and no other one. -/
private def Queues (x : Interaction Action Reply) (index : Nat) (before after : AgentChannel) :
    Prop :=
  before.events ++ arrivalOf index x = takenOf index x ++ after.events ∧
    ∀ other, index ≠ other → arrivalOf other x = [] ∧ takenOf other x = []

private theorem queues_of_same {x : Interaction Action Reply} {index : Nat}
    {before after : AgentChannel} (same : after.events = before.events)
    (arrival : ∀ other, arrivalOf other x = []) (taken : ∀ other, takenOf other x = []) :
    Queues x index before after := by
  refine ⟨?_, fun other _ => ⟨arrival other, taken other⟩⟩
  rw [arrival, taken, List.append_nil, List.nil_append, same]

/-- A call on one channel takes from the front of its queue or adds at the end. -/
private theorem ChannelStep.queue {action : AgentAction} {reply : AgentReply action}
    {index : Nat} {before after : AgentChannel}
    (step : ChannelStep task action reply index before after) :
    Queues ⟨.agent action, reply⟩ index before after := by
  cases step with
  | sendCommand index command before next sent h =>
    exact queues_of_same (events_sendCommand h) (fun _ => rfl)
      (fun _ => rfl)
  | trySendEvent index event before =>
    rw [AgentChannel.trySendEvent]
    split_ifs
    · refine ⟨by simp [arrivalOf, takenOf], fun other hother => ?_⟩
      exact ⟨if_neg hother, rfl⟩
    · exact queues_of_same rfl (fun _ => rfl) (fun _ => rfl)
  | recvCommand index command before next h =>
    have hevents := events_tryRecvCommand before
    rw [h] at hevents
    exact queues_of_same hevents (fun _ => rfl) (fun _ => rfl)
  | tryRecvCommand index before =>
    exact queues_of_same (events_tryRecvCommand before) (fun _ => rfl) (fun _ => rfl)
  | selectEvent index before next event h =>
    rw [AgentChannel.recvEvent] at h
    split at h
    · rename_i first rest hevents
      cases h
      refine ⟨by simp [arrivalOf, takenOf, hevents], fun other hother => ?_⟩
      exact ⟨rfl, if_neg hother⟩
    · split_ifs at h
      cases h
      exact queues_of_same rfl (fun _ => rfl) (fun _ => rfl)
  | selectCommand index command before next h =>
    have hevents := events_tryRecvCommand before
    rw [h] at hevents
    exact queues_of_same hevents (fun _ => rfl) (fun _ => rfl)
  | _ => exact queues_of_same rfl (fun _ => rfl) (fun _ => rfl)

/-- One call takes from the front of a channel's queue or adds at its end. -/
theorem AppStep.queue (step : AppStep task state action reply next) (channel : Nat) :
    waitingOn channel state.agentConnections ++ arrivalOf channel ⟨action, reply⟩ =
      takenOf channel ⟨action, reply⟩ ++ waitingOn channel next.agentConnections := by
  cases step with
  | agent step =>
    cases step with
    | registerTransport nodeId transportId kind =>
      change _ ++ [] = [] ++ waitingOn channel (state.agentConnections.put nodeId _).1
      rw [waitingOn_put, List.append_nil, List.nil_append]
    | ensureLongPollTransport nodeId transportId =>
      change _ ++ [] = [] ++ waitingOn channel
        (state.agentConnections.ensureLongPollTransport nodeId transportId).1
      rcases state.agentConnections.ensureLongPollTransport_cases nodeId transportId with
        ⟨connection, -, heq⟩ | ⟨registration, -, heq⟩
      · rw [heq, List.append_nil, List.nil_append]
      · rw [heq, waitingOn_put, List.append_nil, List.nil_append]
    | disconnectTransport nodeId transportId =>
      change _ ++ [] = [] ++ waitingOn channel
        (state.agentConnections.disconnectTransport nodeId transportId).1
      rw [AgentConnectionRegistry.disconnectTransport]
      split_ifs
      · exact List.append_nil _
      · exact List.append_nil _
    | onChannel index before after found step =>
      obtain ⟨own, others⟩ := step.queue
      change waitingOn channel state.agentConnections ++ _ = _ ++ waitingOn channel
        { state.agentConnections with channels := state.agentConnections.channels.set index after }
      rw [waitingOn_set found]
      by_cases hindex : index = channel
      · subst hindex
        rw [if_pos rfl, waitingOn, found]
        exact own
      · rw [if_neg hindex, (others channel hindex).1, (others channel hindex).2,
          List.append_nil, List.nil_append]
    | _ => exact List.append_nil _
  | _ => exact List.append_nil _

end Queue

section Streams

variable {config : TerminalSessionConfig} {nodes : NodeEnrollmentState}
  {history : History} {pool : ControlPool}

/-- What has arrived on a channel has been taken, in this order, or is still waiting. -/
theorem Reaches.arrivedOn_eq (h : Reaches config nodes history pool) (channel : Nat) :
    arrivedOn channel history =
      takenFrom channel history ++ waitingOn channel pool.shared.agentConnections := by
  refine h.keeps (I := fun history state => arrivedOn channel history =
    takenFrom channel history ++ waitingOn channel state.agentConnections) rfl ?_
  intro front e next ih
  have hqueue := next.step.queue channel
  change waitingOn channel e.before.agentConnections ++ arrivalOf channel e.interaction =
    takenOf channel e.interaction ++ waitingOn channel e.after.agentConnections at hqueue
  simp only [arrivedOn, takenFrom, List.flatMap_append, List.flatMap_singleton] at ih ⊢
  rw [ih, List.append_assoc, hqueue, List.append_assoc]

/-- What one task takes are the events of one session, if it takes just these. -/
theorem takenBy_eq_filter {task channel : Nat} {sessionId : TerminalSessionId}
    (own : ∀ e ∈ history, ∀ event ∈ takenOf channel e.interaction,
      event.sessionId = sessionId ↔ e.task = task) :
    takenBy task channel history =
      (takenFrom channel history).filter (fun event => event.sessionId = sessionId) := by
  induction history with
  | nil => rfl
  | cons e history ih =>
    have hrest := ih (fun other hother => own other (List.mem_cons_of_mem e hother))
    have hhead := own e (List.mem_cons_self ..)
    have hfrom : takenFrom channel (e :: history) =
        takenOf channel e.interaction ++ takenFrom channel history := rfl
    rw [hfrom, List.filter_append, ← hrest]
    by_cases htask : e.task = task
    · have hall : (takenOf channel e.interaction).filter
          (fun event => event.sessionId = sessionId) = takenOf channel e.interaction :=
        List.filter_eq_self.mpr (fun event hevent => by simpa using (hhead event hevent).mpr htask)
      rw [hall]
      simp [takenBy, Service.own, htask]
    · have hnone : (takenOf channel e.interaction).filter
          (fun event => event.sessionId = sessionId) = [] :=
        List.filter_eq_nil_iff.mpr
          (fun event hevent => by simpa using fun hid => htask ((hhead event hevent).mp hid))
      rw [hnone]
      simp [takenBy, Service.own, htask]

theorem mem_takenOf {channel : Nat} {x : Interaction Action Reply} {event : AgentTerminalEvent} :
    event ∈ takenOf channel x ↔ x = ⟨.agent (.selectEvent channel), .event (some event)⟩ := by
  constructor
  · intro hmem
    unfold takenOf at hmem
    split at hmem
    · rename_i index taken
      split_ifs at hmem with hindex
      · obtain rfl := List.mem_singleton.mp hmem
        rw [hindex]
      · cases hmem
    · cases hmem
  · rintro rfl
    simp [takenOf]

/-- Only a handler that has opened a remote terminal reads a node's events. -/
theorem opened_of_select {origin : Stage} {past : Past} {channel : Nat}
    (act : controlAct origin past (.agent (.selectEvent channel))) :
    ∃ sessionId output, Opened past sessionId (.remote channel) output := by
  cases origin with
  | terminalSocket actorEmail => exact act
  | cleanupWorker =>
    obtain ⟨_, _, _, _, hremoved⟩ := act
    cases hremoved
  | revokeNode actorEmail nodeId =>
    obtain ⟨_, _, hremoved⟩ := act
    cases hremoved
  | _ => cases act

/-- The event at the head of the queue names the session of the handler that takes it. -/
def TakesOwn (front : History) (e : ControlEvent) : Prop :=
  ∀ channel event, e.interaction = ⟨.agent (.selectEvent channel), .event (some event)⟩ →
    ∃ output, Opened (own e.task front) event.sessionId (.remote channel) output

/-- The call writes to the replay of the session. -/
def WritesTo (sessionId : TerminalSessionId) (action : Action) : Prop :=
  (∃ data, action = .terminal (.recordOutput sessionId data)) ∨
    ∃ message, action = .terminal (.rememberServerMessage message) ∧
      TerminalSessionRegistry.rememberedSession message = some sessionId

/-- The task is acting on an event of this session. -/
def ActsOnEventOf (past : Past) (channel : Nat) (sessionId : TerminalSessionId) : Prop :=
  ∃ event, Took past channel event ∧ event.sessionId = sessionId

/-- The handler of the session handles the events of the session and no others, in their
    arrival order; what its browsers are shown and what is written to it comes from these. -/
structure OwnStream (history : History) (connections : AgentConnectionRegistry) (task : Nat)
    (sessionId : TerminalSessionId) (channel output : Nat) : Prop where
  handled : (arrivedOn channel history).filter (fun event => event.sessionId = sessionId) =
    takenBy task channel history ++
      (waitingOn channel connections).filter (fun event => event.sessionId = sessionId)
  shown : ∀ {front e back actorEmail message}, history = front ++ e :: back →
    e.origin = .terminalSocket actorEmail → e.action = .terminal (.broadcast output message) →
    e.task = task ∧ ∃ event, Took (own task front) channel event ∧
      event.sessionId = sessionId ∧ eventMessage (own task front) message event
  written : ∀ {front e back actorEmail}, history = front ++ e :: back →
    e.origin = .terminalSocket actorEmail → WritesTo sessionId e.action →
    e.task = task ∧ ActsOnEventOf (own task front) channel sessionId

variable {front back : History} {e : ControlEvent} {task channel output : Nat}
  {request : TerminalSessionInsert}

/-- A message that is no output is about the session of its event. -/
private theorem sessionId_of_eventMessage {state : AppState} (ledger : Ledger history state)
    {message : TerminalServerMessage} {event : AgentTerminalEvent}
    (made : eventMessage (own task history) message event) (houtput : message.isOutput = false) :
    TerminalSessionRegistry.rememberedSession message = some event.sessionId := by
  cases event with
  | terminalStarted sessionId size =>
    obtain ⟨node, status, rfl⟩ := made
    rfl
  | terminalOutput sessionId data =>
    obtain ⟨recorded, hd, rfl⟩ := made
    cases recorded with
    | none => cases houtput
    | some message =>
      obtain ⟨sequence, rfl⟩ := ledger.recorded hd
      cases houtput
  | terminalExited sessionId exit =>
    cases made
    rfl
  | terminalError sessionId error =>
    cases made
    rfl

/-- In a run whose handlers take only their own events, a task that took an event opened the
    session it names. -/
private theorem opened_of_took
    (takesOwn : ∀ front e back, history = front ++ e :: back → TakesOwn front e)
    {event : AgentTerminalEvent} (took : Took (own task history) channel event) :
    ∃ request output, OpenedBy history task request output ∧
      request.sessionId = event.sessionId ∧ request.backend = .remote channel := by
  obtain ⟨front, e, back, hsplit, rfl, heq⟩ := exists_split_of_did took
  obtain ⟨output, -, request, hinsert, hid, hbackend⟩ :=
    takesOwn front e back hsplit channel event heq
  exact ⟨request, output, hinsert.later (hsplit ▸ own_isPrefix e.task front (e :: back)), hid,
    hbackend⟩

private theorem Reaches.ownStream (h : Reaches config nodes history pool)
    (takesOwn : ∀ front e back, history = front ++ e :: back → TakesOwn front e)
    (opened : OpenedBy history task request output) (remote : request.backend = .remote channel) :
    OwnStream history pool.shared.agentConnections task request.sessionId channel output where
  handled := by
    have taken : takenBy task channel history =
        (takenFrom channel history).filter (fun event => event.sessionId = request.sessionId) := by
      refine takenBy_eq_filter (fun e he event hevent => ?_)
      have took : Took (own e.task history) channel event :=
        Service.mem_own.mpr ⟨e, he, rfl, mem_takenOf.mp hevent⟩
      obtain ⟨later, given, hlater, hid, -⟩ := opened_of_took takesOwn took
      constructor
      · intro hsame
        exact (h.ledger.unique_id hlater opened (hid.trans hsame)).1
      · intro htask
        subst htask
        cases h.ledger.insertedOnce hlater opened
        exact hid.symm
    rw [h.arrivedOn_eq channel, List.filter_append, taken]
  shown {front e back actorEmail message} hsplit horigin haction := by
    have act := (h.next hsplit).act
    rw [horigin, haction] at act
    obtain ⟨named, source, event, ⟨-, later, hlater, -, hbackend⟩, took, made⟩ := act
    have hlonger : own e.task front <+: own e.task history :=
      hsplit ▸ own_isPrefix e.task front (e :: back)
    obtain ⟨rfl, rfl⟩ := h.ledger.unique_output (hlater.later hlonger) opened
    obtain rfl : source = channel := by
      have heq := hbackend.symm.trans remote
      cases heq
      rfl
    obtain ⟨third, given, hthird, hid, -⟩ := opened_of_took takesOwn (took.later hlonger)
    cases h.ledger.insertedOnce hthird opened
    exact ⟨rfl, event, took, hid.symm, made⟩
  written {front e back actorEmail} hsplit horigin hwrites := by
    have next := h.next hsplit
    have act := next.act
    rw [horigin] at act
    have hlonger : own e.task front <+: own e.task history :=
      hsplit ▸ own_isPrefix e.task front (e :: back)
    have acts : ∀ {source event}, Took (own e.task front) source event →
        event.sessionId = request.sessionId →
        e.task = task ∧ ActsOnEventOf (own task front) channel request.sessionId := by
      intro source event took hevent
      obtain ⟨later, given, hlater, hid, hbackend⟩ := opened_of_took takesOwn (took.later hlonger)
      obtain ⟨rfl, rfl, -⟩ := h.ledger.unique_id hlater opened (hid.trans hevent)
      obtain rfl : source = channel := by
        have heq := hbackend.symm.trans remote
        cases heq
        rfl
      exact ⟨rfl, event, took, hevent⟩
    rcases hwrites with ⟨data, haction⟩ | ⟨message, haction, hnamed⟩
    · rw [haction] at act
      obtain ⟨source, took⟩ := act
      exact acts took rfl
    · rw [haction] at act
      obtain ⟨houtput, source, event, took, made⟩ := act
      have hevent := sessionId_of_eventMessage next.ledger made houtput
      rw [hnamed, Option.some.injEq] at hevent
      exact acts took hevent.symm

end Streams

/-- Bob and Carol open terminals on one node, and its agent reports the start of a session.
    Bob's handler holds the events; Carol's waits for them. -/
private def startOf (sessionId : TerminalSessionId) : History :=
  calls defaultTerminalSessionConfig oneNode
    (agentOpening 0 false ++ remoteOpening 1 "bob" "t0" ++
      (remoteOpening 2 "carol" "t1").dropLast ++
      [.move 0 (.agent (.frame (.text (some (agentEnvelope 2
          (.terminalEvent none (.terminalStarted sessionId ⟨80, 24⟩))))))),
        .move 0 .none, .move 1 .channel, .move 1 .none, .move 1 .none, .move 1 .none,
        .move 1 .none, .move 1 (.decide true)])

/-- An event that is taken is taken by the task of Bob, and names his session. -/
private def takenByBob (e : ControlEvent) : Bool :=
  match e.interaction with
  | ⟨.agent (.selectEvent _), .event (some event)⟩ =>
    e.task == 1 && event.sessionId == sessionIdOf 1
  | _ => true

end Sunbolt.Control
