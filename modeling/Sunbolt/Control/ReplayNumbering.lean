/- Module: Sunbolt/Control/ReplayNumbering
   scope: sunbolt-control/src/terminal/session_registry.rs
   digest: Outputs are numbered without a gap, and the replay keeps the newest messages in order. -/

import Sunbolt.Control.RegistryMachine

set_option autoImplicit false
set_option relaxedAutoImplicit false

namespace Sunbolt.Control

open Sunbolt.Library (Window)
open Sunbolt.Protocol (TerminalSessionId TerminalServerMessage u64Max saturatingSucc)
open Sunbolt.Terminal (TerminalSessionState)
open TerminalSessionRegistry (rememberedSession)

/-- The session that an operation is about; the bulk removals are about no single one. -/
def RegistryCall.named : RegistryCall → Option TerminalSessionId
  | .insert request .. => some request.sessionId
  | .setState sessionId _ => some sessionId
  | .detach sessionId => some sessionId
  | .reattach sessionId .. => some sessionId
  | .touch sessionId _ => some sessionId
  | .setSize sessionId _ => some sessionId
  | .recordOutput sessionId _ => some sessionId
  | .rememberServerMessage message => rememberedSession message
  | .terminate sessionId => some sessionId
  | .remove sessionId => some sessionId
  | .drainExpired .. => none
  | .closeSessionsForNode _ => none

def outputNumberOf : TerminalServerMessage → Option Nat
  | .output _ sequence _ => some sequence
  | _ => none

namespace RegistryEvent

/-- A new session of this id begins. -/
def inserts (sessionId : TerminalSessionId) (e : RegistryEvent) : Bool :=
  match e.call, e.reply with
  | .insert request .., .inserted (.ok _) => request.sessionId = sessionId
  | _, _ => false

/-- The number that `record_output` has given an output of the session. -/
def outputNumber (sessionId : TerminalSessionId) (e : RegistryEvent) : Option Nat :=
  match e.call, e.reply with
  | .recordOutput named _, .recorded (some message) =>
    if named = sessionId then outputNumberOf message else none
  | _, _ => none

/-- The message that an operation pushes to the replay of the session while it is tracked. -/
def pushed (sessionId : TerminalSessionId) (e : RegistryEvent) : Option TerminalServerMessage :=
  match e.call, e.reply with
  | .recordOutput named _, .recorded message => if named = sessionId then message else none
  | .rememberServerMessage message, _ =>
    if rememberedSession message = some sessionId then some message else none
  | _, _ => none

end RegistryEvent

/-- The operations since the session that is tracked under the id was inserted. -/
def sinceInsert (sessionId : TerminalSessionId) (history : List RegistryEvent) :
    List RegistryEvent :=
  history.foldl (fun since e => if e.inserts sessionId then [] else since ++ [e]) []

/-- What has been pushed to the replay of the session. -/
def pushes (sessionId : TerminalSessionId) (history : List RegistryEvent) :
    List TerminalServerMessage :=
  (sinceInsert sessionId history).filterMap (·.pushed sessionId)

/-- The outputs of a session are numbered one after another, and its replay holds the newest
    messages in their order, of which the outputs end with the newest one. -/
structure ReplayInOrder (history : List RegistryEvent) (sessionId : TerminalSessionId)
    (session : TrackedTerminalSession) : Prop where
  numbers : (sinceInsert sessionId history).filterMap (·.outputNumber sessionId) =
    List.range' 1 (session.nextOutputSequence - 1)
  bounded : session.replay.items.length ≤ outputReplayCapacity
  newest : session.replay.items = (pushes sessionId history).drop
    ((pushes sessionId history).length - outputReplayCapacity)
  consecutive : ∃ first ≤ session.nextOutputSequence,
    session.replay.items.filterMap outputNumberOf =
    List.range' first (session.nextOutputSequence - first)

/-- This is so for every session, and an operation on one session leaves the others as they
    are. -/
structure ReplaysInOrder (history : List RegistryEvent) (registry : TerminalSessionRegistry) :
    Prop where
  sessions : ∀ sessionId session, registry.get sessionId = some session →
    ReplayInOrder history sessionId session
  apart : ∀ e ∈ history, ∀ sessionId, e.call.named = some sessionId → ∀ other ≠ sessionId,
    e.after.get other = e.before.get other
  kept : ∀ e ∈ history, e.call.named = none → ∀ other session,
    e.after.get other = some session → e.before.get other = some session

/-- Only messages that are no outputs are remembered. -/
def RemembersNoOutput (history : List RegistryEvent) : Prop :=
  ∀ e ∈ history, ∀ message, e.call = .rememberServerMessage message →
    outputNumberOf message = none

/-- No session has come to the last number. -/
def BelowSaturation (history : List RegistryEvent) : Prop :=
  ∀ e ∈ history, ∀ sessionId session, e.before.get sessionId = some session →
    session.nextOutputSequence < u64Max

/-! What an operation does to the replay of a session. -/

/-- An operation begins a session, records an output of it, remembers a message for it, or
    leaves its replay and its numbering as they are. -/
inductive ReplayStep (sessionId : TerminalSessionId) (e : RegistryEvent)
    (after : TrackedTerminalSession) : Prop
  | inserted (inserts : e.inserts sessionId = true) (replay : after.replay = Window.empty)
    (next : after.nextOutputSequence = 1)
  | recorded (before : TrackedTerminalSession) (tracked : e.before.get sessionId = some before)
    (others : e.inserts sessionId = false) (data : String)
    (pushed : e.pushed sessionId = some (before.outputMessage sessionId data))
    (number : e.outputNumber sessionId = some before.nextOutputSequence)
    (replay : after.replay = before.replay.push (before.outputMessage sessionId data))
    (next : after.nextOutputSequence = saturatingSucc before.nextOutputSequence)
  | remembered (before : TrackedTerminalSession) (tracked : e.before.get sessionId = some before)
    (others : e.inserts sessionId = false) (message : TerminalServerMessage)
    (call : e.call = .rememberServerMessage message) (pushed : e.pushed sessionId = some message)
    (number : e.outputNumber sessionId = none) (replay : after.replay = before.replay.push message)
    (next : after.nextOutputSequence = before.nextOutputSequence)
  | kept (before : TrackedTerminalSession) (tracked : e.before.get sessionId = some before)
    (others : e.inserts sessionId = false) (pushed : e.pushed sessionId = none)
    (number : e.outputNumber sessionId = none) (replay : after.replay = before.replay)
    (next : after.nextOutputSequence = before.nextOutputSequence)

namespace TerminalSessionRegistry

variable {registry : TerminalSessionRegistry} {sessionId : TerminalSessionId}
  {after : TrackedTerminalSession}

private theorem kept_of_modify {named : TerminalSessionId} {call : RegistryCall}
    {f : TrackedTerminalSession → TrackedTerminalSession}
    (h : (registry.modify named f).get sessionId = some after)
    (keeps : ∀ session, (f session).replay = session.replay ∧
      (f session).nextOutputSequence = session.nextOutputSequence)
    (others : (registry.event call).inserts sessionId = false)
    (pushed : (registry.event call).pushed sessionId = none)
    (number : (registry.event call).outputNumber sessionId = none) :
    ReplayStep sessionId (registry.event call) after := by
  rw [get_modify] at h
  split_ifs at h
  · obtain ⟨before, hbefore, rfl⟩ := Option.map_eq_some_iff.mp h
    exact .kept before hbefore others pushed number (keeps before).1 (keeps before).2
  · exact .kept after h others pushed number rfl rfl

private theorem kept_of_removal {next : TerminalSessionRegistry} {call : RegistryCall}
    {gone : Prop} [Decidable gone]
    (hnext : next.get sessionId = if gone then none else registry.get sessionId)
    (h : next.get sessionId = some after)
    (others : (registry.event call).inserts sessionId = false)
    (pushed : (registry.event call).pushed sessionId = none)
    (number : (registry.event call).outputNumber sessionId = none) :
    ReplayStep sessionId (registry.event call) after := by
  rw [hnext] at h
  split_ifs at h
  exact .kept after h others pushed number rfl rfl

theorem moveTo_replay (session : TrackedTerminalSession) (state : TerminalSessionState) :
    (session.moveTo state).replay = session.replay ∧
      (session.moveTo state).nextOutputSequence = session.nextOutputSequence := by
  rw [TrackedTerminalSession.moveTo]
  split_ifs
  · exact ⟨rfl, rfl⟩
  · exact ⟨rfl, rfl⟩

/-- What each operation does to the replay of a session that is tracked afterwards. -/
theorem replayStep (call : RegistryCall)
    (h : (registry.event call).after.get sessionId = some after) :
    ReplayStep sessionId (registry.event call) after := by
  cases call with
  | insert request now token =>
    rw [event, serve] at h ⊢
    rcases registry.insertBackend_cases request now token with ⟨error, heq⟩ | heq
    · rw [heq] at h ⊢
      exact .kept after h rfl rfl rfl rfl rfl
    · rw [heq] at h ⊢
      dsimp only at h
      rw [get_insert] at h
      split_ifs at h with hid
      · cases h
        exact .inserted (by simp [RegistryEvent.inserts, hid]) rfl rfl
      · exact .kept after h (by simp [RegistryEvent.inserts, Ne.symm hid]) rfl rfl rfl rfl
  | setState named state => exact kept_of_modify h (moveTo_replay · state) rfl rfl rfl
  | detach named => exact kept_of_modify h (moveTo_replay · .detached) rfl rfl rfl
  | reattach named reconnectToken actorEmail now token =>
    rw [event, serve] at h ⊢
    rcases registry.reattach_cases named reconnectToken actorEmail now token with
      heq | ⟨tracked, -, -, -, -, heq⟩
    · rw [heq] at h ⊢
      exact .kept after h rfl rfl rfl rfl rfl
    · rw [heq] at h ⊢
      dsimp only at h
      rw [get_modify] at h
      split_ifs at h
      · obtain ⟨before, hbefore, rfl⟩ := Option.map_eq_some_iff.mp h
        exact .kept before hbefore rfl rfl rfl rfl rfl
      · exact .kept after h rfl rfl rfl rfl rfl
  | touch named now => exact kept_of_modify h (fun _ => ⟨rfl, rfl⟩) rfl rfl rfl
  | setSize named size => exact kept_of_modify h (fun _ => ⟨rfl, rfl⟩) rfl rfl rfl
  | recordOutput named data =>
    have hget := registry.get_recordOutput named sessionId data
    rw [event, serve] at h ⊢
    dsimp only at h
    rw [hget] at h
    split_ifs at h with hid
    · obtain ⟨before, hbefore, rfl⟩ := Option.map_eq_some_iff.mp h
      subst hid
      refine .recorded before hbefore rfl data ?_ ?_ rfl rfl
      · simp [RegistryEvent.pushed, recordOutput, hbefore]
      · simp [RegistryEvent.outputNumber, recordOutput, hbefore, outputNumberOf,
          TrackedTerminalSession.outputMessage]
    · refine .kept after h rfl ?_ ?_ rfl rfl
      · simp [RegistryEvent.pushed, Ne.symm hid]
      · unfold RegistryEvent.outputNumber
        split
        · rename_i heq _
          cases heq
          rw [if_neg (Ne.symm hid)]
        · rfl
  | rememberServerMessage message =>
    have hget := registry.get_rememberServerMessage sessionId message
    rw [event, serve] at h ⊢
    dsimp only at h
    rw [hget] at h
    split_ifs at h with hid
    · obtain ⟨before, hbefore, rfl⟩ := Option.map_eq_some_iff.mp h
      exact .remembered before hbefore rfl message rfl (if_pos hid) rfl rfl rfl
    · exact .kept after h rfl (if_neg hid) rfl rfl rfl
  | terminate named =>
    exact kept_of_removal (registry.get_terminate named sessionId) h rfl rfl rfl
  | remove named => exact kept_of_removal (registry.get_remove named sessionId) h rfl rfl rfl
  | drainExpired maxDuration detachedIdleTimeout now =>
    exact kept_of_removal (registry.get_removeEach sessionId .expired _) h rfl rfl rfl
  | closeSessionsForNode nodeId =>
    exact kept_of_removal (registry.get_removeEach sessionId .terminating _) h rfl rfl rfl

/-- An operation on one session leaves every other one as it is. -/
theorem serve_apart {call : RegistryCall} (hnamed : call.named = some sessionId)
    {other : TerminalSessionId} (hne : other ≠ sessionId) :
    (registry.serve call).1.get other = registry.get other := by
  cases call with
  | insert request now token =>
    cases hnamed
    rw [serve]
    rcases registry.insertBackend_cases request now token with ⟨error, heq⟩ | heq
    · rw [heq]
    · rw [heq]
      dsimp only
      rw [get_insert, if_neg hne]
  | reattach named reconnectToken actorEmail now token =>
    cases hnamed
    rw [serve]
    rcases registry.reattach_cases sessionId reconnectToken actorEmail now token with
      heq | ⟨tracked, -, -, -, -, heq⟩
    · rw [heq]
    · rw [heq]
      dsimp only
      rw [get_modify, if_neg hne]
  | rememberServerMessage message =>
    have hother : rememberedSession message ≠ some other := by
      intro heq
      exact hne (Option.some.inj (heq.symm.trans hnamed))
    rw [serve]
    dsimp only
    rw [get_rememberServerMessage, if_neg hother]
  | terminate named =>
    cases hnamed
    exact (registry.get_terminate sessionId other).trans (if_neg hne)
  | remove named =>
    cases hnamed
    exact (registry.get_remove sessionId other).trans (if_neg hne)
  | drainExpired maxDuration detachedIdleTimeout now => cases hnamed
  | closeSessionsForNode nodeId => cases hnamed
  | _ =>
    cases hnamed
    exact (registry.get_modify sessionId other _).trans (if_neg hne)

/-- A bulk removal leaves the sessions that it does not remove as they are. -/
theorem serve_kept {call : RegistryCall} (hnamed : call.named = none) {other : TerminalSessionId}
    {session : TrackedTerminalSession}
    (found : (registry.serve call).1.get other = some session) :
    registry.get other = some session := by
  cases call with
  | rememberServerMessage message =>
    have hnone : rememberedSession message = none := hnamed
    rw [serve] at found
    dsimp only at found
    rwa [get_rememberServerMessage, hnone, if_neg nofun] at found
  | drainExpired maxDuration detachedIdleTimeout now =>
    have hget := registry.get_removeEach other .expired
      ((Sunbolt.Library.Table.select registry.sessions
        (isExpired maxDuration detachedIdleTimeout now)).map Prod.fst)
    rw [serve] at found
    dsimp only [drainExpired] at found
    rw [hget] at found
    split_ifs at found
    exact found
  | closeSessionsForNode nodeId =>
    have hget := registry.get_removeEach other .terminating
      ((Sunbolt.Library.Table.select registry.sessions (isOnNode nodeId)).map Prod.fst)
    rw [serve] at found
    dsimp only [closeSessionsForNode] at found
    rw [hget] at found
    split_ifs at found
    exact found
  | _ => cases hnamed

end TerminalSessionRegistry

/-! Runs. -/

section Runs

variable {history : List RegistryEvent} {registry : TerminalSessionRegistry}
  {sessionId : TerminalSessionId} {e : RegistryEvent}

theorem sinceInsert_append_one : sinceInsert sessionId (history ++ [e]) =
    if e.inserts sessionId then [] else sinceInsert sessionId history ++ [e] := by
  rw [sinceInsert, List.foldl_append]
  rfl

/-- What has been pushed and numbered once an operation that begins no session is over. -/
theorem pushes_append_one (others : e.inserts sessionId = false) :
    pushes sessionId (history ++ [e]) =
        pushes sessionId history ++ (e.pushed sessionId).toList ∧
      (sinceInsert sessionId (history ++ [e])).filterMap (·.outputNumber sessionId) =
        (sinceInsert sessionId history).filterMap (·.outputNumber sessionId) ++
          (e.outputNumber sessionId).toList := by
  have hsince : sinceInsert sessionId (history ++ [e]) = sinceInsert sessionId history ++ [e] := by
    rw [sinceInsert_append_one, others]
    rfl
  rw [pushes, hsince, List.filterMap_append, List.filterMap_append, pushes]
  constructor
  · cases hpushed : e.pushed sessionId <;> simp [hpushed]
  · cases hnumber : e.outputNumber sessionId <;> simp [hnumber]

/-- The invariant of a session: its outputs have been numbered and pushed alike, and its replay
    is the end of what has been pushed. -/
structure ReplayInvariant (history : List RegistryEvent) (sessionId : TerminalSessionId)
    (session : TrackedTerminalSession) : Prop where
  positive : 0 < session.nextOutputSequence
  numbers : (sinceInsert sessionId history).filterMap (·.outputNumber sessionId) =
    List.range' 1 (session.nextOutputSequence - 1)
  outputs : (pushes sessionId history).filterMap outputNumberOf =
    List.range' 1 (session.nextOutputSequence - 1)
  newest : session.replay.items = (pushes sessionId history).drop
    ((pushes sessionId history).length - outputReplayCapacity)

/-- Below the last number, one more output has the next number. -/
theorem range'_saturatingSucc {next : Nat} (positive : 0 < next) (below : next < u64Max) :
    List.range' 1 (saturatingSucc next - 1) = List.range' 1 (next - 1) ++ [next] := by
  have hsucc : saturatingSucc next - 1 = (next - 1) + 1 := by
    rw [saturatingSucc]
    omega
  rw [hsucc, List.range'_concat]
  congr 2
  omega

theorem ReplayInvariant.step {after : TrackedTerminalSession}
    (earlier : ∀ before, e.before.get sessionId = some before →
      ReplayInvariant history sessionId before ∧ before.nextOutputSequence < u64Max)
    (remembers : ∀ message, e.call = .rememberServerMessage message →
      outputNumberOf message = none)
    (step : ReplayStep sessionId e after) : ReplayInvariant (history ++ [e]) sessionId after := by
  cases step with
  | inserted inserts replay next =>
    have hsince : sinceInsert sessionId (history ++ [e]) = [] := by
      rw [sinceInsert_append_one, inserts]
      rfl
    refine ⟨?_, ?_, ?_, ?_⟩
    · rw [next]
      exact Nat.one_pos
    · rw [hsince, next]
      rfl
    · rw [pushes, hsince, next]
      rfl
    · rw [pushes, hsince, replay, List.filterMap_nil, List.drop_nil]
      rfl
  | recorded before tracked others data pushed number replay next =>
    obtain ⟨⟨positive, numbers, outputs, newest⟩, below⟩ := earlier before tracked
    obtain ⟨hpushes, hnumbers⟩ := pushes_append_one others
    have hsucc := range'_saturatingSucc positive below
    rw [pushed] at hpushes
    rw [number] at hnumbers
    refine ⟨?_, ?_, ?_, ?_⟩
    · rw [next, saturatingSucc]
      omega
    · rw [hnumbers, numbers, next, hsucc]
      rfl
    · rw [hpushes, List.filterMap_append, outputs, next, hsucc]
      rfl
    · rw [hpushes, replay]
      exact Window.push_of_drop newest _
  | remembered before tracked others message call pushed number replay next =>
    obtain ⟨⟨positive, numbers, outputs, newest⟩, -⟩ := earlier before tracked
    obtain ⟨hpushes, hnumbers⟩ := pushes_append_one others
    rw [pushed] at hpushes
    rw [number] at hnumbers
    refine ⟨next ▸ positive, ?_, ?_, ?_⟩
    · rw [hnumbers, numbers, next]
      exact List.append_nil _
    · have hnone := remembers message call
      rw [hpushes, List.filterMap_append, outputs, next]
      simp [hnone]
    · rw [hpushes, replay]
      exact Window.push_of_drop newest _
  | kept before tracked others pushed number replay next =>
    obtain ⟨⟨positive, numbers, outputs, newest⟩, -⟩ := earlier before tracked
    obtain ⟨hpushes, hnumbers⟩ := pushes_append_one others
    rw [pushed] at hpushes
    rw [number] at hnumbers
    rw [Option.toList_none, List.append_nil] at hpushes hnumbers
    exact ⟨next ▸ positive, by rw [hnumbers, numbers, next], by rw [hpushes, outputs, next],
      by rw [hpushes, replay, newest]⟩

theorem RegistryReaches.replayInvariant (h : RegistryReaches history registry)
    (remembers : RemembersNoOutput history) (below : BelowSaturation history) :
    ∀ sessionId session, registry.get sessionId = some session →
      ReplayInvariant history sessionId session := by
  refine h.invariant (I := fun history registry => RemembersNoOutput history →
    BelowSaturation history → ∀ sessionId session, registry.get sessionId = some session →
      ReplayInvariant history sessionId session) ?_ ?_ remembers below
  · intro _ _ sessionId session found
    cases found
  · intro history registry call ih remembers below sessionId session found
    have hlast : registry.event call ∈ history ++ [registry.event call] := by simp
    have hfront : ∀ {e}, e ∈ history → e ∈ history ++ [registry.event call] :=
      fun he => List.mem_append_left _ he
    have hearlier := ih (fun e he => remembers e (hfront he)) (fun e he => below e (hfront he))
    refine ReplayInvariant.step (fun before tracked => ⟨?_, ?_⟩) (remembers _ hlast)
      (TerminalSessionRegistry.replayStep call found)
    · exact hearlier sessionId before tracked
    · exact below _ hlast sessionId before tracked

/-- Each operation gives one number at most. -/
theorem RegistryReaches.next_le (h : RegistryReaches history registry) :
    ∀ sessionId session, registry.get sessionId = some session →
      session.nextOutputSequence ≤ history.length + 1 := by
  refine h.invariant (I := fun history registry => ∀ sessionId session,
    registry.get sessionId = some session → session.nextOutputSequence ≤ history.length + 1) ?_ ?_
  · intro sessionId session found
    cases found
  · intro history registry call ih sessionId session found
    rw [List.length_append, List.length_singleton]
    cases TerminalSessionRegistry.replayStep call found with
    | inserted inserts replay next => omega
    | recorded before tracked others data pushed number replay next =>
      have hbefore := ih sessionId before tracked
      rw [next, saturatingSucc]
      omega
    | remembered before tracked others message call pushed number replay next =>
      have hbefore := ih sessionId before tracked
      omega
    | kept before tracked others pushed number replay next =>
      have hbefore := ih sessionId before tracked
      omega

/-- A run of fewer operations than there are numbers stays below the last one. -/
theorem RegistryReaches.belowSaturation (h : RegistryReaches history registry)
    (short : history.length < u64Max) : BelowSaturation history := by
  intro e he sessionId session found
  obtain ⟨front, back, rfl⟩ := List.append_of_mem he
  have hle := (h.front rfl).1.next_le sessionId session found
  rw [List.length_append, List.length_cons] at short
  omega

/-- The outputs at the end of what has been pushed carry the last numbers. -/
theorem ReplayInvariant.inOrder {session : TrackedTerminalSession}
    (h : ReplayInvariant history sessionId session) : ReplayInOrder history sessionId session where
  numbers := h.numbers
  bounded := session.replay.bounded
  newest := h.newest
  consecutive := by
    have hpositive := h.positive
    have houtputs := h.outputs
    rw [← List.take_append_drop ((pushes sessionId history).length - outputReplayCapacity)
      (pushes sessionId history), ← h.newest, List.filterMap_append] at houtputs
    generalize ((pushes sessionId history).take _).filterMap outputNumberOf = dropped at houtputs
    have hlength := congrArg List.length houtputs
    rw [List.length_append, List.length_range'] at hlength
    refine ⟨1 + dropped.length, by omega, ?_⟩
    have hdrop := congrArg (List.drop dropped.length) houtputs
    rw [List.drop_left, List.drop_range'] at hdrop
    rw [hdrop]
    congr 1
    · omega
    · omega

/-- Below the last number, in every run of the registry's operations the outputs of each session
    are numbered without a gap and the replays are in order. -/
theorem replays_in_order (h : RegistryReaches history registry)
    (remembers : RemembersNoOutput history) (below : BelowSaturation history) :
    ReplaysInOrder history registry where
  sessions sessionId session found :=
    (h.replayInvariant remembers below sessionId session found).inOrder
  apart e he sessionId hnamed other hne := by
    rw [h.event he]
    exact TerminalSessionRegistry.serve_apart hnamed hne
  kept e he hnamed other session found := by
    rw [h.event he] at found
    exact TerminalSessionRegistry.serve_kept hnamed found

end Runs

/-- A session gives outputs, is detached and reattached, and another one begins meanwhile. -/
private def reattachedOutputs : List RegistryCall :=
  [.insert ⟨⟨"s1"⟩, .local 0, ⟨80, 24⟩, ⟨2, 2, 2, 60, 3600⟩, "alice", none, none⟩ 0 ⟨"t1"⟩,
    .setState ⟨"s1"⟩ .active, .recordOutput ⟨"s1"⟩ "a", .detach ⟨"s1"⟩,
    .rememberServerMessage (.detached ⟨"s1"⟩),
    .insert ⟨⟨"s2"⟩, .local 1, ⟨80, 24⟩, ⟨2, 2, 2, 60, 3600⟩, "alice", none, none⟩ 1 ⟨"t2"⟩,
    .recordOutput ⟨"s2"⟩ "x", .reattach ⟨"s1"⟩ ⟨"t1"⟩ "alice" 2 ⟨"t3"⟩,
    .recordOutput ⟨"s1"⟩ "b"]

theorem replays_in_order_reattached : ∃ history registry, RegistryReaches history registry ∧
    (registry.get ⟨"s1"⟩).map (·.replay.items) =
      some [.output ⟨"s1"⟩ 1 "a", .detached ⟨"s1"⟩, .output ⟨"s1"⟩ 2 "b"] ∧
    ReplaysInOrder history registry := by
  obtain ⟨history, registry, hrun, hreplay, hquiet⟩ : ∃ history registry,
      registryMachine.run .empty reattachedOutputs = some (registry, history) ∧
      (registry.get ⟨"s1"⟩).map (·.replay.items) =
        some [.output ⟨"s1"⟩ 1 "a", .detached ⟨"s1"⟩, .output ⟨"s1"⟩ 2 "b"] ∧
      history.all (fun e => match e.call with
        | .rememberServerMessage message => (outputNumberOf message).isNone
        | _ => true) = true := ⟨_, _, rfl, by decide, rfl⟩
  have hreaches : RegistryReaches history registry := ⟨reattachedOutputs, hrun⟩
  have hlength : history.length = 9 := by
    rw [← List.length_map (fun e : RegistryEvent => e.call), map_call_of_run hrun]
    rfl
  refine ⟨history, registry, hreaches, hreplay, replays_in_order hreaches ?_ ?_⟩
  · intro e he message hcall
    have hnone := List.all_eq_true.mp hquiet e he
    rw [hcall] at hnone
    exact Option.isNone_iff_eq_none.mp hnone
  · refine hreaches.belowSaturation ?_
    rw [hlength, u64Max]
    decide

end Sunbolt.Control
