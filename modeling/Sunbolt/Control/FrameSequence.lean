/- Module: Sunbolt/Control/FrameSequence
   scope: sunbolt-control/src/agent/mod.rs, sunbolt-protocol/src/transport.rs
   digest: When the output that an agent connection forwards is numbered without a gap. -/

import Sunbolt.Control.EventStreams
import Sunbolt.Library.Alone
import Mathlib.Data.List.Chain

set_option autoImplicit false
set_option relaxedAutoImplicit false

namespace Sunbolt.Control

open Sunbolt.Library
open Sunbolt.Protocol

/-- One envelope that a task handles, with the environment's choices and what came of it. -/
structure HandledFrame where
  task : Nat
  handshake : AgentTransportHandshake
  envelope : AgentTransportEnvelope
  choices : List Choice
  before : AppState
  after : AppState
  result : Except AgentTransportError TransportFrameOutcome

/-- The runs of one connection: its frames in the order in which they are handled, and between
    them any calls of any tasks that put nothing on its channel. -/
inductive FrameRun (config : TerminalSessionConfig) (channel : Nat) (start : AppState) :
    List HandledFrame → AppState → Prop
  | start : FrameRun config channel start [] start
  | other {frames : List HandledFrame} {state next : AppState} {task : Nat} {action : Action}
      {reply : Reply action} (earlier : FrameRun config channel start frames state)
      (step : AppStep task state action reply next)
      (elsewhere : ∀ event, action ≠ .agent (.trySendEvent channel event)) :
    FrameRun config channel start frames next
  | frame {frames : List HandledFrame} (handled : HandledFrame)
      (earlier : FrameRun config channel start frames handled.before)
      (call : (controlPlane config).AloneWith handled.task
        (handleAgentTransportEnvelope handled.handshake handled.envelope channel)
        handled.choices handled.before handled.after handled.result) :
    FrameRun config channel start (frames ++ [handled]) handled.after

/-- The session and the number of an output frame. -/
def outputNumber (envelope : AgentTransportEnvelope) :
    Option (TerminalSessionId × TerminalOutputSequence) :=
  match envelope.payload with
  | .terminalEvent (some sequence) (.terminalOutput sessionId _) => some (sessionId, sequence)
  | _ => none

/-- The environment decides that the receiver of the events is gone. -/
def Choice.receiverGone : Choice → Bool
  | .tick => true
  | _ => false

namespace HandledFrame

/-- The number of the frame, if it is output of this session. -/
def numberIn (sessionId : TerminalSessionId) (handled : HandledFrame) :
    Option TerminalOutputSequence :=
  (outputNumber handled.envelope).bind (fun number =>
    if number.1 = sessionId then some number.2 else none)

/-- The events that the handling has put on the channel. -/
def puts (channel : Nat) (handled : HandledFrame) : List AgentTerminalEvent :=
  (waitingOn channel handled.after.agentConnections).drop
    (waitingOn channel handled.before.agentConnections).length

/-- The frame passes all the checks that the handler makes: it is well formed, it names the
    connection, and its event finds room on a channel whose receiver is there. -/
def Admits (channel : Nat) (handled : HandledFrame) : Prop :=
  handled.envelope.validate = .ok () ∧
    handled.envelope.nodeId = handled.handshake.nodeId ∧
    handled.envelope.transportId = handled.handshake.transportId ∧
    (waitingOn channel handled.before.agentConnections).length < agentTransportChannelCapacity ∧
    handled.choices.any (·.receiverGone) = false

instance (channel : Nat) (handled : HandledFrame) : Decidable (handled.Admits channel) :=
  inferInstanceAs (Decidable (_ ∧ _ ∧ _ ∧ _ ∧ _))

end HandledFrame

/-- The numbers of the session's output, in the order of these frames. -/
def outputNumbers (sessionId : TerminalSessionId) (frames : List HandledFrame) :
    List TerminalOutputSequence :=
  frames.filterMap (HandledFrame.numberIn sessionId)

/-- The frames whose event was put on the channel. -/
def forwarded (channel : Nat) (frames : List HandledFrame) : List HandledFrame :=
  frames.filter (fun handled => handled.puts channel ≠ [])

/-- The frames that pass the checks of the handler. -/
def admitted (channel : Nat) (frames : List HandledFrame) : List HandledFrame :=
  frames.filter (fun handled => handled.Admits channel)

/-- Output of a session whose number does not follow the last one among the earlier frames. -/
def Breaks (earlier : List HandledFrame) (handled : HandledFrame) : Prop :=
  ∃ sessionId previous received,
    handled.numberIn sessionId = some received ∧
    (outputNumbers sessionId earlier).getLast? = some previous ∧
    validateNextTerminalOutputSequence previous received ≠ .ok ()

/-- The forwarded output of each session is numbered without a gap, and a frame that would
    break this is answered with an error and not forwarded. -/
structure InSequence (channel : Nat) (frames : List HandledFrame) : Prop where
  successive : ∀ sessionId, (outputNumbers sessionId (forwarded channel frames)).IsChain
    (fun previous received => received = previous.next)
  refused : ∀ front handled back, frames = front ++ handled :: back →
    Breaks (forwarded channel front) handled →
    (∃ error, handled.result = .error error) ∧ handled.puts channel = []

/-- Every output frame that passes the checks of the handler follows the output of its session
    that passed them before. -/
def Numbered (channel : Nat) (frames : List HandledFrame) : Prop :=
  ∀ front handled back, frames = front ++ handled :: back →
    handled.Admits channel → ¬ Breaks (admitted channel front) handled

section Frames

variable {config : TerminalSessionConfig} {channel : Nat} {handled : HandledFrame}
  {sessionId : TerminalSessionId} {received : TerminalOutputSequence}

theorem HandledFrame.numberIn_eq_some :
    handled.numberIn sessionId = some received ↔
      ∃ data, handled.envelope.payload =
        .terminalEvent (some received) (.terminalOutput sessionId data) := by
  rw [numberIn, outputNumber]
  split
  · rename_i sequence named data hpayload
    rw [hpayload, Option.bind_some, Option.ite_none_right_eq_some]
    constructor
    · rintro ⟨rfl, heq⟩
      cases heq
      exact ⟨data, rfl⟩
    · rintro ⟨data, heq⟩
      cases heq
      exact ⟨rfl, rfl⟩
  · rename_i hother
    constructor
    · intro h
      cases h
    · rintro ⟨data, heq⟩
      exact absurd heq (hother _ _ _)

/-- What a send to the channel does, by the room that it finds and the environment's choice. -/
theorem trySendEvent_cases {task : Nat} {state next : AppState} {event : AgentTerminalEvent}
    {choice : Choice} {sent : Bool}
    (h : perform task state (.agent (.trySendEvent channel event)) choice = some (sent, next)) :
    (choice.receiverGone = false ∧
      (waitingOn channel state.agentConnections).length < agentTransportChannelCapacity ∧
      sent = true ∧ waitingOn channel next.agentConnections =
        waitingOn channel state.agentConnections ++ [event]) ∨
    ((choice.receiverGone = true ∨ ¬
      (waitingOn channel state.agentConnections).length < agentTransportChannelCapacity) ∧
      sent = false ∧ waitingOn channel next.agentConnections =
        waitingOn channel state.agentConnections) := by
  obtain ⟨⟨reply, connections⟩, hperform, heq⟩ := Option.map_eq_some_iff.mp h
  cases heq
  have hqueue := (perform_cases h).queue channel
  change _ ++ arrivalOf channel ⟨.agent (.trySendEvent channel event), sent⟩ =
    [] ++ waitingOn channel connections at hqueue
  have hwaiting : waitingOn channel connections = waitingOn channel state.agentConnections ++
      arrivalOf channel ⟨.agent (.trySendEvent channel event), sent⟩ := hqueue.symm
  cases choice with
  | none =>
    obtain ⟨before, after, found, heq, rfl⟩ := onChannel_some hperform
    have hevents : waitingOn channel state.agentConnections = before.events := by
      rw [waitingOn, found]
      rfl
    rw [AgentChannel.trySendEvent] at heq
    split_ifs at heq with hroom
    · cases heq
      refine Or.inl ⟨rfl, hevents ▸ hroom, rfl, ?_⟩
      rw [hwaiting, arrivalOf, if_pos rfl]
    · cases heq
      refine Or.inr ⟨Or.inr (hevents ▸ hroom), rfl, ?_⟩
      rw [hwaiting]
      exact List.append_nil _
  | tick =>
    change (if _ then none else _) = _ at hperform
    split_ifs at hperform
    obtain ⟨before, after, found, heq, rfl⟩ := onChannel_some hperform
    cases heq
    refine Or.inr ⟨Or.inl rfl, rfl, ?_⟩
    rw [hwaiting]
    exact List.append_nil _
  | _ => cases hperform

/-- An output frame is forwarded when it passes the checks and is answered with an error when
    it does not; its number is not looked at. -/
theorem output_cases
    (call : (controlPlane config).AloneWith handled.task
      (handleAgentTransportEnvelope handled.handshake handled.envelope channel)
      handled.choices handled.before handled.after handled.result)
    (output : handled.numberIn sessionId = some received) :
    (handled.Admits channel ∧ handled.puts channel ≠ []) ∨
    (¬ handled.Admits channel ∧ handled.puts channel = [] ∧
      ∃ error, handled.result = .error error) := by
  obtain ⟨task, handshake, envelope, choices, before, after, result⟩ := handled
  obtain ⟨data, hpayload⟩ := HandledFrame.numberIn_eq_some.mp output
  dsimp only at call hpayload
  rw [handleAgentTransportEnvelope] at call
  cases hvalid : envelope.validate with
  | error error =>
    rw [hvalid] at call
    obtain ⟨rfl, rfl, rfl⟩ := call
    refine Or.inr ⟨fun admits => ?_, List.drop_length .., _, rfl⟩
    cases hvalid.symm.trans admits.1
  | ok _ =>
    rw [hvalid] at call
    dsimp only at call
    split_ifs at call with hother
    · obtain ⟨rfl, rfl, rfl⟩ := call
      refine Or.inr ⟨fun admits => ?_, List.drop_length .., _, rfl⟩
      rcases hother with hnode | htransport
      · exact hnode admits.2.1
      · exact htransport admits.2.2.1
    · rw [hpayload] at call
      obtain ⟨choice, rest, out, rfl, hout, hrest⟩ := call
      obtain ⟨⟨sent, next⟩, hperform, rfl⟩ := Option.map_eq_some_iff.mp hout
      have hidentity : envelope.nodeId = handshake.nodeId ∧
          envelope.transportId = handshake.transportId := by
        constructor
        · exact of_not_not (fun hnode => hother (Or.inl hnode))
        · exact of_not_not (fun htransport => hother (Or.inr htransport))
      rcases trySendEvent_cases hperform with
        ⟨hthere, hroom, rfl, hwaiting⟩ | ⟨hfails, rfl, hwaiting⟩
      · obtain ⟨rfl, rfl, rfl⟩ := hrest
        refine Or.inl ⟨⟨hvalid, hidentity.1, hidentity.2, hroom, ?_⟩, ?_⟩
        · rw [List.any_cons, hthere]
          rfl
        · rw [HandledFrame.puts, hwaiting, List.drop_left]
          exact List.cons_ne_nil _ _
      · obtain ⟨rfl, rfl, rfl⟩ := hrest
        refine Or.inr ⟨?_, ?_, _, rfl⟩
        · rintro ⟨-, -, -, hroom, hthere⟩
          rw [List.any_cons, Bool.or_eq_false_iff] at hthere
          rcases hfails with hgone | hfull
          · exact absurd hgone (by rw [hthere.1]; exact Bool.false_ne_true)
          · exact hfull hroom
        · rw [HandledFrame.puts, hwaiting]
          exact List.drop_length ..

theorem FrameRun.called {start state : AppState} {frames : List HandledFrame}
    (run : FrameRun config channel start frames state) (h : handled ∈ frames) :
    (controlPlane config).AloneWith handled.task
      (handleAgentTransportEnvelope handled.handshake handled.envelope channel)
      handled.choices handled.before handled.after handled.result := by
  induction run with
  | start => cases h
  | other earlier step elsewhere ih => exact ih h
  | frame last earlier call ih =>
    rcases List.mem_append.mp h with hold | hlast
    · exact ih hold
    · rw [List.mem_singleton.mp hlast]
      exact call

end Frames

section Numbers

variable {config : TerminalSessionConfig} {channel : Nat} {start state : AppState}
  {frames : List HandledFrame}

/-- The frames that are forwarded are those that pass the checks. -/
theorem FrameRun.outputNumbers_eq (run : FrameRun config channel start frames state)
    {part : List HandledFrame} (hpart : part ⊆ frames) (sessionId : TerminalSessionId) :
    outputNumbers sessionId (forwarded channel part) =
      outputNumbers sessionId (admitted channel part) := by
  induction part with
  | nil => rfl
  | cons handled part ih =>
    have hrest := ih (fun other hother => hpart (List.mem_cons_of_mem handled hother))
    cases hnumber : handled.numberIn sessionId with
    | none =>
      have hskip : ∀ keep : HandledFrame → Bool,
          outputNumbers sessionId ((handled :: part).filter keep) =
            outputNumbers sessionId (part.filter keep) := by
        intro keep
        rw [List.filter_cons]
        split_ifs
        · exact List.filterMap_cons_none hnumber
        · rfl
      rw [forwarded, admitted, hskip, hskip]
      exact hrest
    | some received =>
      rcases output_cases (run.called (hpart List.mem_cons_self)) hnumber with
        ⟨hadmits, hputs⟩ | ⟨hrefused, hputs, -⟩
      · rw [forwarded, admitted, List.filter_cons_of_pos (by simpa using hputs),
          List.filter_cons_of_pos (by simpa using hadmits)]
        rw [outputNumbers, outputNumbers, List.filterMap_cons_some hnumber,
          List.filterMap_cons_some hnumber]
        exact congrArg _ hrest
      · rw [forwarded, admitted, List.filter_cons_of_neg (by simpa using hputs),
          List.filter_cons_of_neg (by simpa using hrefused)]
        exact hrest

theorem FrameRun.breaks_iff (run : FrameRun config channel start frames state)
    {part : List HandledFrame} (hpart : part ⊆ frames) {handled : HandledFrame} :
    Breaks (forwarded channel part) handled ↔ Breaks (admitted channel part) handled := by
  simp only [Breaks, run.outputNumbers_eq hpart]

/-- One more frame adds its number when it is forwarded. -/
private theorem outputNumbers_concat (front : List HandledFrame) (handled : HandledFrame)
    (sessionId : TerminalSessionId) :
    outputNumbers sessionId (forwarded channel (front ++ [handled])) =
      outputNumbers sessionId (forwarded channel front) ++
        (if handled.puts channel = [] then none else handled.numberIn sessionId).toList := by
  rw [forwarded, List.filter_append, outputNumbers, List.filterMap_append]
  apply congrArg (outputNumbers sessionId (forwarded channel front) ++ ·)
  by_cases hputs : handled.puts channel = []
  · rw [if_pos hputs, List.filter_cons_of_neg (by simpa using hputs)]
    rfl
  · rw [if_neg hputs, List.filter_cons_of_pos (by simpa using hputs)]
    cases hnumber : handled.numberIn sessionId with
    | none => exact List.filterMap_cons_none hnumber
    | some received => exact List.filterMap_cons_some hnumber

/-- Numbers that never break the order are successive. -/
theorem isChain_of_unbroken {sessionId : TerminalSessionId}
    (unbroken : ∀ front handled back, frames = front ++ handled :: back →
      handled.puts channel ≠ [] → ¬ Breaks (forwarded channel front) handled) :
    (outputNumbers sessionId (forwarded channel frames)).IsChain
      (fun previous received => received = previous.next) := by
  induction frames using List.reverseRecOn with
  | nil => exact List.IsChain.nil
  | append_singleton front handled ih =>
    have hfront := ih (fun early other late split => unbroken early other (late ++ [handled])
      (by rw [split, List.append_assoc, List.cons_append]))
    rw [outputNumbers_concat]
    split_ifs with hputs
    · rw [Option.toList_none, List.append_nil]
      exact hfront
    · cases hnumber : handled.numberIn sessionId with
      | none =>
        rw [Option.toList_none, List.append_nil]
        exact hfront
      | some received =>
        refine hfront.append (List.IsChain.singleton received) ?_
        intro previous hprevious next hnext
        cases hnext
        refine of_not_not (fun hother => unbroken front handled [] rfl hputs ?_)
        refine ⟨sessionId, previous, received, hnumber, hprevious, ?_⟩
        rw [ne_eq, validateNextTerminalOutputSequence_eq_ok]
        exact hother

/-- The forwarded output of an agent connection is in sequence exactly when the agent's output
    frames are, as far as they pass the checks that do not look at the number. -/
theorem in_sequence_iff (run : FrameRun config channel start frames state) :
    InSequence channel frames ↔ Numbered channel frames := by
  have hfront : ∀ {front back : List HandledFrame} {handled : HandledFrame},
      frames = front ++ handled :: back → handled ∈ frames ∧ front ⊆ frames := by
    rintro front back handled rfl
    exact ⟨List.mem_append_cons_self, List.subset_append_left ..⟩
  have hcases : ∀ {front : List HandledFrame} {handled : HandledFrame}, handled ∈ frames →
      Breaks (forwarded channel front) handled →
      (handled.Admits channel ∧ handled.puts channel ≠ []) ∨
      (¬ handled.Admits channel ∧ handled.puts channel = [] ∧
        ∃ error, handled.result = .error error) := by
    rintro front handled hmem ⟨sessionId, previous, received, hnumber, -⟩
    exact output_cases (run.called hmem) hnumber
  constructor
  · intro inSequence front handled back split hadmits hbreaks
    obtain ⟨hmem, hsub⟩ := hfront split
    have hforwarded := (run.breaks_iff hsub).mpr hbreaks
    rcases hcases hmem hforwarded with ⟨-, hputs⟩ | ⟨hrefused, -⟩
    · exact hputs (inSequence.refused front handled back split hforwarded).2
    · exact hrefused hadmits
  · intro numbered
    have hunbroken : ∀ front handled back, frames = front ++ handled :: back →
        Breaks (forwarded channel front) handled → ¬ handled.Admits channel :=
      fun front handled back split hbreaks hadmits =>
        numbered front handled back split hadmits
          ((run.breaks_iff (hfront split).2).mp hbreaks)
    refine ⟨fun sessionId => isChain_of_unbroken ?_, ?_⟩
    · intro front handled back split hputs hbreaks
      rcases hcases (hfront split).1 hbreaks with ⟨hadmits, -⟩ | ⟨-, hnothing, -⟩
      · exact hunbroken front handled back split hbreaks hadmits
      · exact hputs hnothing
    · intro front handled back split hbreaks
      rcases hcases (hfront split).1 hbreaks with ⟨hadmits, -⟩ | ⟨-, hnothing, herror⟩
      · exact absurd hadmits (hunbroken front handled back split hbreaks)
      · exact ⟨herror, hnothing⟩

end Numbers

/-- The calls by which the node's agent has connected. -/
private def connecting : History :=
  calls defaultTerminalSessionConfig oneNode (agentOpening 0 false)

/-- The state in which the agent is connected. -/
private def connected : AppState := (connecting.getLast?.map (·.after)).getD (.boot oneNode)

/-- The agent sends output of its session under this number. -/
private def outputFrame (number : Nat) : AgentTransportEnvelope :=
  agentEnvelope 2 (.terminalEvent (some ⟨number⟩) (.terminalOutput ⟨"local-1"⟩ "out"))

/-- The state with these events on the first channel. -/
private def queued (events : List AgentTerminalEvent) : AppState :=
  { connected with
    agentConnections := connected.agentConnections.modifyChannel 0 ({ · with events := events }) }

private def output : AgentTerminalEvent := .terminalOutput ⟨"local-1"⟩ "out"

/-- The connected agent's frame of this number, as it is handled with these events waiting. -/
private def outputHandled (number : Nat) (events : List AgentTerminalEvent) : HandledFrame where
  task := 0
  handshake := ⟨⟨"n"⟩, ⟨"n-outbound"⟩, .webSocketTlsTcp443⟩
  envelope := outputFrame number
  choices := [.none]
  before := queued events
  after := queued (events ++ [output])
  result := .ok .terminalEventReceived

/-- The agent sends its output under the number 0 and then under another one. -/
private theorem outputs_run (second : Nat) :
    FrameRun defaultTerminalSessionConfig 0 connected
      [outputHandled 0 [], outputHandled second [output]] (queued [output, output]) := by
  have hfirst : FrameRun defaultTerminalSessionConfig 0 connected [outputHandled 0 []]
      (queued [output]) :=
    .frame (outputHandled 0 []) .start ⟨_, _, _, rfl, rfl, rfl, rfl, rfl⟩
  exact .frame (outputHandled second [output]) hfirst ⟨_, _, _, rfl, rfl, rfl, rfl, rfl⟩

private theorem numbered_outputs :
    Numbered 0 [outputHandled 0 [], outputHandled 1 [output]] := by
  rintro front handled back split - ⟨sessionId, previous, received, hnumber, hlast, hother⟩
  match front, split with
  | [], split => cases hlast
  | [early], split =>
    cases split
    obtain ⟨data, hpayload⟩ := HandledFrame.numberIn_eq_some.mp hnumber
    cases hpayload
    cases hlast
    exact hother rfl
  | early :: next :: front, split =>
    have hlength := congrArg List.length split
    simp only [List.cons_append, List.length_cons, List.length_append, List.length_nil] at hlength
    omega

theorem in_sequence_once : ∃ pool, Reaches defaultTerminalSessionConfig oneNode connecting pool ∧
    ∃ frames state, FrameRun defaultTerminalSessionConfig 0 pool.shared frames state ∧
      outputNumbers ⟨"local-1"⟩ (forwarded 0 frames) = [⟨0⟩, ⟨1⟩] ∧ InSequence 0 frames := by
  obtain ⟨pool, h⟩ : ∃ pool, Reaches defaultTerminalSessionConfig oneNode connecting pool :=
    reaches_calls rfl
  have hshared : pool.shared = connected := h.shared_eq
  have run : FrameRun defaultTerminalSessionConfig 0 pool.shared
      [outputHandled 0 [], outputHandled 1 [output]] (queued [output, output]) :=
    hshared ▸ outputs_run 1
  exact ⟨pool, h, _, _, run, rfl, (in_sequence_iff run).mpr numbered_outputs⟩

/-- The agent's second output frame skips a number and is forwarded. -/
theorem gap_forwarded : ∃ pool, Reaches defaultTerminalSessionConfig oneNode connecting pool ∧
    ∃ frames state, FrameRun defaultTerminalSessionConfig 0 pool.shared frames state ∧
      outputNumbers ⟨"local-1"⟩ (forwarded 0 frames) = [⟨0⟩, ⟨2⟩] ∧ ¬ InSequence 0 frames := by
  obtain ⟨pool, h⟩ : ∃ pool, Reaches defaultTerminalSessionConfig oneNode connecting pool :=
    reaches_calls rfl
  have hshared : pool.shared = connected := h.shared_eq
  have hnumbers : outputNumbers ⟨"local-1"⟩
      (forwarded 0 [outputHandled 0 [], outputHandled 2 [output]]) = [⟨0⟩, ⟨2⟩] := rfl
  refine ⟨pool, h, _, _, hshared ▸ outputs_run 2, hnumbers, fun inSequence => ?_⟩
  have hsuccessive := inSequence.successive ⟨"local-1"⟩
  rw [hnumbers] at hsuccessive
  cases hsuccessive with
  | cons_cons hnext hrest => cases hnext

end Sunbolt.Control
