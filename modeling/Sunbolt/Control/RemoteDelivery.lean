/- Module: Sunbolt/Control/RemoteDelivery
   scope: sunbolt-control/src/terminal/mod.rs, sunbolt-control/src/terminal/session_registry.rs
   digest: When the outputs of a node that come in after a detach reach the reattached browser. -/

import Sunbolt.Control.EventOrder
import Sunbolt.Control.ReattachDelivery
import Sunbolt.Control.ExplicitTerminate

set_option autoImplicit false
set_option relaxedAutoImplicit false

namespace Sunbolt.Control

open Sunbolt.Library
open Sunbolt.Protocol (TerminalSessionId TerminalServerMessage AgentTerminalEvent)

/-- The call takes the event that came in as number `n` on the channel. -/
def TakesNth (front : History) (take : ControlEvent) (channel n : Nat) : Prop :=
  (takenFrom channel front).length = n ∧
    ∃ event, take.interaction = ⟨.agent (.selectEvent channel), .event (some event)⟩

/-- A handler took the output number `n` of the channel and then recorded it. -/
def RecordedAs (history : History) (channel n : Nat) (sessionId : TerminalSessionId)
    (data : String) (recorded : Option TerminalServerMessage) : Prop :=
  ∃ front take waits record back, history = front ++ take :: (waits ++ record :: back) ∧
    TakesNth front take channel n ∧ (∀ other ∈ waits, other.task ≠ take.task) ∧
    record.task = take.task ∧
    record.interaction = ⟨.terminal (.recordOutput sessionId data), recorded⟩

/-- The handler of this task took the output number `n` of the channel. -/
def TakenBy (history : History) (channel n task : Nat) : Prop :=
  ∃ front take back, history = front ++ take :: back ∧ TakesNth front take channel n ∧
    take.task = task

/-- The calls that write to the replay of the session. -/
def writesReplay (sessionId : TerminalSessionId) : Action → Bool
  | .terminal (.recordOutput named _) => named = sessionId
  | .terminal (.rememberServerMessage message) =>
    TerminalSessionRegistry.rememberedSession message = some sessionId
  | _ => false

theorem writesReplay_iff {sessionId : TerminalSessionId} {action : Action} :
    writesReplay sessionId action = true ↔ WritesTo sessionId action := by
  unfold writesReplay
  split
  · simp [WritesTo]
  · simp [WritesTo]
  · rename_i hrecord hremember
    refine iff_of_false Bool.false_ne_true ?_
    rintro (⟨data, rfl⟩ | ⟨message, rfl, -⟩)
    · exact hrecord _ _ rfl
    · exact hremember _ rfl

/-- How many messages were written to the replay of the session. -/
def replayWrites (sessionId : TerminalSessionId) (history : History) : Nat :=
  history.countP (fun e => writesReplay sessionId e.action)

/-- A session of a node is detached with `detach` and reattached with `reattach`. -/
structure RemoteReattach (history front middle back : History) (detach reattach : ControlEvent)
    (opener output channel : Nat) (request : TerminalSessionInsert)
    (target : TerminalReattachTarget) : Prop where
  split : history = front ++ detach :: (middle ++ reattach :: back)
  opened : OpenedBy history opener request output
  remote : request.backend = .remote channel
  detaches : Detaches request.sessionId detach
  detached : detach.after.sessions.state request.sessionId = some .detached
  accepted : ∃ token actorEmail, reattach.interaction =
    ⟨.terminal (.reattach request.sessionId token actorEmail), some target⟩

/-- The browser of this task is still connected and has been shown all that was sent to it, and
    the handler that opened the session is between two events. -/
structure AtRest (history : History) (sessions : TerminalSessionRegistry)
    (browser opener output : Nat) : Prop where
  received : cursor (own browser history) = some (sessions.outputLog output).length
  shown : shown (own browser history) = due (own browser history)
  connected : ∀ message, ¬Did (own browser history) (.host (.send message)) false
  between : handling (own opener history) = none

/-- The output number `n` of the channel was recorded before the reattach and is in the replay
    that the browser was given, or it was sent to the browser. -/
def SurvivesReattach (history beforeReattach : History) (browser : Nat)
    (target : TerminalReattachTarget) (channel n : Nat) (sessionId : TerminalSessionId)
    (data : String) : Prop :=
  (∃ message, RecordedAs beforeReattach channel n sessionId data (some message) ∧
    message ∈ target.replay) ∨
  ∃ recorded, RecordedAs history channel n sessionId data recorded ∧
    Did (own browser history) (.host (.send (recorded.getD (.output sessionId 0 data)))) true

section Queues

variable {config : TerminalSessionConfig} {nodes : NodeEnrollmentState}
  {history front early back : History} {pool : ControlPool} {take : ControlEvent}
  {channel n : Nat}

private theorem arrivedOn_isPrefix {late : History} (h : early <+: late) :
    arrivedOn channel early <+: arrivedOn channel late := by
  obtain ⟨rest, rfl⟩ := h
  rw [arrivedOn, arrivedOn, List.flatMap_append]
  exact List.prefix_append ..

private theorem takenFrom_isPrefix {late : History} (h : early <+: late) :
    takenFrom channel early <+: takenFrom channel late := by
  obtain ⟨rest, rfl⟩ := h
  rw [takenFrom, takenFrom, List.flatMap_append]
  exact List.prefix_append ..

private theorem takenFrom_take {event : AgentTerminalEvent}
    (heq : take.interaction = ⟨.agent (.selectEvent channel), .event (some event)⟩) :
    takenFrom channel (front ++ [take]) = takenFrom channel front ++ [event] := by
  rw [takenFrom, List.flatMap_append, List.flatMap_singleton, heq]
  simp [takenFrom, takenOf]

/-- The event with this number is the one that is taken. -/
private theorem Reaches.arrived_of_take (h : Reaches config nodes history pool)
    (hsplit : history = front ++ take :: back) {event : AgentTerminalEvent}
    (heq : take.interaction = ⟨.agent (.selectEvent channel), .event (some event)⟩) :
    (arrivedOn channel (front ++ [take]))[(takenFrom channel front).length]? = some event := by
  cases back with
  | nil =>
    have harrived := h.arrivedOn_eq channel
    rw [hsplit, takenFrom_take heq] at harrived
    rw [harrived]
    simp
  | cons next back =>
    have hnext : history = (front ++ [take]) ++ next :: back := by simp [hsplit]
    obtain ⟨before, hfront, -⟩ := h.front hnext
    rw [hfront.arrivedOn_eq channel, takenFrom_take heq]
    simp

/-- What was accepted after `early` is taken after `early`. -/
private theorem Reaches.taken_after (h : Reaches config nodes history pool)
    (hsplit : history = front ++ take :: back) (hearly : early <+: history)
    (taken : TakesNth front take channel n) (accepted : (arrivedOn channel early).length ≤ n) :
    early <+: front := by
  obtain ⟨hn, event, heq⟩ := taken
  have harrived := h.arrived_of_take hsplit heq
  obtain ⟨hlt, -⟩ := List.getElem?_eq_some_iff.mp harrived
  have hfirst : front ++ [take] <+: history := ⟨back, by simp [hsplit]⟩
  have hnot : ¬front ++ [take] <+: early := by
    intro hprefix
    have hle : (arrivedOn channel (front ++ [take])).length ≤ (arrivedOn channel early).length :=
      (arrivedOn_isPrefix hprefix).length_le
    omega
  rcases List.prefix_or_prefix_of_prefix hearly hfirst with hprefix | hprefix
  · rcases List.prefix_concat_iff.mp hprefix with rfl | hfront
    · exact absurd (List.prefix_refl _) hnot
    · exact hfront
  · exact absurd hprefix hnot

/-- The event that is taken is the one that was accepted with its number. -/
private theorem Reaches.event_of_take (h : Reaches config nodes history pool)
    (hsplit : history = front ++ take :: back) {event accepted : AgentTerminalEvent}
    (heq : take.interaction = ⟨.agent (.selectEvent channel), .event (some event)⟩)
    (hn : (takenFrom channel front).length = n)
    (arrived : (arrivedOn channel history)[n]? = some accepted) : event = accepted := by
  have harrived := h.arrived_of_take hsplit heq
  obtain ⟨rest, hrest⟩ : arrivedOn channel (front ++ [take]) <+: arrivedOn channel history :=
    arrivedOn_isPrefix ⟨back, by simp [hsplit]⟩
  obtain ⟨hlt, -⟩ := List.getElem?_eq_some_iff.mp harrived
  rw [hn] at harrived hlt
  rw [← hrest, List.getElem?_append_left hlt, harrived] at arrived
  exact Option.some.inj arrived

end Queues

section Replay

variable {config : TerminalSessionConfig} {nodes : NodeEnrollmentState}
  {history front later back : History} {pool : ControlPool} {e : ControlEvent}
  {opener output : Nat} {request : TerminalSessionInsert} {message : TerminalServerMessage}

/-- The message is in the replay of the session, and at most `k` newer ones are. -/
private def Keeps (registry : TerminalSessionRegistry) (sessionId : TerminalSessionId)
    (message : TerminalServerMessage) (k : Nat) : Prop :=
  ∀ session, registry.get sessionId = some session →
    ∃ older newer, session.replay.items = older ++ message :: newer ∧ newer.length ≤ k

/-- A call that writes to the replay of a session pushes one message. -/
private theorem Next.pushes (next : Next front e) {sessionId : TerminalSessionId}
    (writes : WritesTo sessionId e.action) {session : TrackedTerminalSession}
    (found : e.after.sessions.get sessionId = some session) :
    ∃ before pushed, e.before.sessions.get sessionId = some before ∧
      session.replay = before.replay.push pushed := by
  obtain ⟨task, origin, action, reply, before, after, spawned⟩ := e
  have step : AppStep task before action reply after := next.step
  change after.sessions.get sessionId = some session at found
  rcases writes with ⟨data, rfl⟩ | ⟨written, rfl, named⟩
  · obtain ⟨hafter, -⟩ := AppStep.recordOutput step
    rw [hafter, TerminalSessionRegistry.get_recordOutput, if_pos rfl] at found
    obtain ⟨was, hwas, rfl⟩ := Option.map_eq_some_iff.mp found
    exact ⟨was, _, hwas, rfl⟩
  · cases step with
    | write write =>
      cases write with
      | rememberServerMessage =>
        change (before.sessions.rememberServerMessage written).get sessionId = _ at found
        rw [TerminalSessionRegistry.get_rememberServerMessage] at found
        rw [if_pos named] at found
        obtain ⟨was, hwas, rfl⟩ := Option.map_eq_some_iff.mp found
        exact ⟨was, _, hwas, rfl⟩
    | read read => cases read

/-- A recorded output is the newest message in the replay. -/
private theorem Next.keeps_recorded (next : Next front e) {sessionId : TerminalSessionId}
    {data : String} (records : e.interaction =
      ⟨.terminal (.recordOutput sessionId data), some message⟩) :
    Keeps e.after.sessions sessionId message 0 := by
  intro session found
  obtain ⟨task, origin, action, reply, before, after, spawned⟩ := e
  cases records
  have step : AppStep task before (.terminal (.recordOutput sessionId data)) (some message)
    after := next.step
  obtain ⟨hafter, hreply⟩ := AppStep.recordOutput step
  change after.sessions.get sessionId = some session at found
  rw [hafter, TerminalSessionRegistry.get_recordOutput, if_pos rfl] at found
  obtain ⟨was, hwas, rfl⟩ := Option.map_eq_some_iff.mp found
  rw [hwas, Option.map_some, Option.some.injEq] at hreply
  obtain ⟨older, holder⟩ := Library.Window.push_newest was.replay message
  refine ⟨older, [], ?_, le_rfl⟩
  rw [← holder, hreply]
  rfl

/-- One call leaves the message in the replay while there is room for it. -/
private theorem Next.keeps_step (next : Next front e)
    (opened : OpenedBy front opener request output) {k : Nat}
    (keeps : Keeps e.before.sessions request.sessionId message k)
    (room : k + (if writesReplay request.sessionId e.action then 1 else 0) <
      outputReplayCapacity) :
    Keeps e.after.sessions request.sessionId message
      (k + if writesReplay request.sessionId e.action then 1 else 0) := by
  intro session found
  cases hwrites : writesReplay request.sessionId e.action with
  | true =>
    rw [hwrites, if_pos rfl] at room
    obtain ⟨before, pushed, hbefore, hreplay⟩ := next.pushes (writesReplay_iff.mp hwrites) found
    obtain ⟨older, newer, hitems, hnewer⟩ := keeps before hbefore
    obtain ⟨rest, hrest⟩ := Library.Window.push_keeps hitems
      (lt_of_le_of_lt (Nat.add_le_add_right hnewer 1) room) pushed
    refine ⟨rest, newer ++ [pushed], hreplay ▸ hrest, ?_⟩
    rw [List.length_append, List.length_singleton, if_pos rfl]
    exact Nat.add_le_add_right hnewer 1
  | false =>
    have hquiet : ¬WritesTo request.sessionId e.action := by
      rw [← writesReplay_iff, hwrites]
      exact Bool.false_ne_true
    obtain ⟨before, hbefore, -, hreplay⟩ := next.keeps_replay opened hquiet found
    rw [hreplay]
    exact keeps before hbefore

/-- While few others follow, a message stays in the replay. -/
private theorem Reaches.keeps_replay (h : Reaches config nodes history pool)
    (hsplit : history = front ++ e :: later) (opened : OpenedBy front opener request output)
    {data : String} (records : e.interaction =
      ⟨.terminal (.recordOutput request.sessionId data), some message⟩)
    (few : replayWrites request.sessionId later < outputReplayCapacity) :
    Keeps pool.shared.sessions request.sessionId message
      (replayWrites request.sessionId later) := by
  induction later using List.reverseRecOn generalizing history pool with
  | nil =>
    subst hsplit
    rw [h.shared_last]
    exact (h.next rfl).keeps_recorded records
  | append_singleton later last ih =>
    have hsplit' : history = (front ++ e :: later) ++ [last] := by simp [hsplit]
    obtain ⟨before, hfront, hbefore⟩ := h.front hsplit'
    have hlast : pool.shared = last.after := by
      rw [hsplit'] at h
      exact h.shared_last
    have hcount : replayWrites request.sessionId (later ++ [last]) =
        replayWrites request.sessionId later +
          if writesReplay request.sessionId last.action then 1 else 0 := by
      rw [replayWrites, List.countP_append, List.countP_singleton, replayWrites]
    rw [hcount] at few ⊢
    have earlier := ih hfront rfl (lt_of_le_of_lt (Nat.le_add_right ..) few)
    rw [hbefore] at earlier
    rw [hlast]
    exact (h.next hsplit').keeps_step (opened.later (own_isPrefix opener front _)) earlier few

/-- What has been sent on a channel stays in its log. -/
private theorem Reaches.log_isPrefix (h : Reaches config nodes history pool)
    (hsplit : history = front ++ e :: later) (hlt : output < e.before.sessions.outputs.length) :
    e.after.sessions.outputLog output <+: pool.shared.sessions.outputLog output := by
  have next := h.next hsplit
  refine (h.since_end (I := fun state => output < state.sessions.outputs.length ∧
      e.after.sessions.outputLog output <+: state.sessions.outputLog output) hsplit
    ⟨hlt.trans_le next.step.outputs_le, List.prefix_refl _⟩ ?_).2
  rintro before other - next ⟨hother, kept⟩
  refine ⟨hother.trans_le next.step.outputs_le, kept.trans ?_⟩
  rw [next.step.outputLog hother]
  exact List.prefix_append ..

end Replay

section Delivery

variable {config : TerminalSessionConfig} {nodes : NodeEnrollmentState}
  {history front middle back : History} {pool : ControlPool} {detach reattach : ControlEvent}
  {opener output channel source n : Nat} {request : TerminalSessionInsert}
  {target : TerminalReattachTarget} {data : String}

private theorem sent_of_shown {past : Past} {message : TerminalServerMessage}
    (hmem : message ∈ Control.shown past) :
    ∃ sent : Bool, Did past (.host (.send message)) sent := by
  obtain ⟨x, hx, hshown⟩ := List.mem_flatMap.mp hmem
  have hby := List.mem_of_mem_filter hshown
  unfold shownBy at hby
  split at hby
  · obtain rfl := List.mem_singleton.mp hby
    exact ⟨_, hx⟩
  · cases hby

/-- The session was open before it was detached. -/
private theorem RemoteReattach.opened_before (h : Reaches config nodes history pool)
    (r : RemoteReattach history front middle back detach reattach opener output channel request
      target) : OpenedBy front opener request output := by
  have next := h.next r.split
  have act := next.act
  have haction : detach.action = .terminal (.setState request.sessionId .detached) := r.detaches
  rw [haction] at act
  obtain ⟨actorEmail, horigin, ⟨backend, given, attached⟩, -⟩ := browser_only act rfl
  obtain ⟨other, later, hopened, hid, -⟩ := h.attached r.split horigin attached
  have hlater := hopened.later (r.split ▸ own_isPrefix other front _)
  obtain ⟨rfl, rfl, rfl⟩ := h.ledger.unique_id hlater r.opened hid
  exact hopened

/-- The reattach finds the session, and gives the browser its replay and its channel. -/
private theorem RemoteReattach.found (h : Reaches config nodes history pool)
    (r : RemoteReattach history front middle back detach reattach opener output channel request
      target) :
    target.output = output ∧ ∃ session,
      reattach.before.sessions.get request.sessionId = some session ∧
      target.replay = session.replay.items := by
  have hsplit : history = (front ++ detach :: middle) ++ reattach :: back := by simp [r.split]
  have next := h.next hsplit
  obtain ⟨token, actorEmail, heq⟩ := r.accepted
  have hdid : Did (own reattach.task history)
      (.terminal (.reattach request.sessionId token actorEmail)) (some target) :=
    Service.mem_own.mpr ⟨reattach, hsplit ▸ List.mem_append_right _ (List.mem_cons_self ..), rfl,
      heq⟩
  obtain ⟨other, later, given, hopened, hid, -, hfields⟩ := h.ledger.reattached hdid
  obtain ⟨-, rfl, rfl⟩ := h.ledger.unique_id hopened r.opened hid
  simp only [Prod.mk.injEq] at hfields
  refine ⟨hfields.2.1, ?_⟩
  obtain ⟨task, origin, action, reply, before, after, spawned⟩ := reattach
  cases heq
  obtain ⟨session, found, hreplay, -⟩ := AppStep.reattach next.step
  exact ⟨session, found, hreplay⟩

/-- An output that was recorded between the detach and the reattach is in the replay. -/
private theorem RemoteReattach.replayed (h : Reaches config nodes history pool)
    (r : RemoteReattach history front middle back detach reattach opener output channel request
      target)
    (few : replayWrites request.sessionId middle ≤ outputReplayCapacity)
    (accepted : (arrivedOn source (front ++ [detach])).length ≤ n)
    {recorded : Option TerminalServerMessage}
    (handled : RecordedAs (front ++ detach :: middle) source n request.sessionId data recorded) :
    ∃ message, recorded = some message ∧ message ∈ target.replay := by
  have hsplit : history = (front ++ detach :: middle) ++ reattach :: back := by simp [r.split]
  obtain ⟨before, hfront, hbefore⟩ := h.front hsplit
  obtain ⟨-, session, found, hreplay⟩ := r.found h
  rw [← hbefore] at found
  obtain ⟨early, take, waits, record, late, heq, taken, hwaits, htask, hrecord⟩ := handled
  -- the take comes after the detach, and the record after the take
  obtain ⟨rest, rfl⟩ := hfront.taken_after heq ⟨middle, by simp⟩ taken accepted
  have hmiddle : middle = (rest ++ take :: waits) ++ record :: late := by
    simpa using heq
  have hlate : (front ++ detach :: middle) =
      (front ++ detach :: (rest ++ take :: waits)) ++ record :: late := by simp [hmiddle]
  have hopened : OpenedBy (front ++ detach :: (rest ++ take :: waits)) opener request output :=
    (r.opened_before h).later (own_isPrefix opener front _)
  have next := hfront.next hlate
  cases recorded with
  | none =>
    exfalso
    have hgone : record.before.sessions.get request.sessionId = none := by
      have step := next.step
      obtain ⟨task, origin, action, reply, before, after, spawned⟩ := record
      cases hrecord
      obtain ⟨-, hreply⟩ := AppStep.recordOutput step
      exact Option.map_eq_none_iff.mp hreply.symm
    have hlost := hfront.stays_gone
      (hopened.later (hlate ▸ own_isPrefix opener _ (record :: late))) hlate
      (next.stays_gone hopened hgone) hopened rfl
    rw [found] at hlost
    cases hlost
  | some message =>
    have few : replayWrites request.sessionId late < outputReplayCapacity := by
      refine lt_of_lt_of_le ?_ few
      have haction : record.action = .terminal (.recordOutput request.sessionId data) :=
        congrArg Interaction.action hrecord
      have hwrites : writesReplay request.sessionId record.action = true := by
        rw [haction]
        simp [writesReplay]
      rw [hmiddle, replayWrites, replayWrites, List.countP_append, List.countP_cons, if_pos hwrites]
      omega
    obtain ⟨older, newer, hitems, -⟩ :=
      hfront.keeps_replay hlate hopened hrecord few session found
    refine ⟨message, rfl, ?_⟩
    rw [hreplay, hitems]
    exact List.mem_append_right _ (List.mem_cons_self ..)

/-- The next call of the handler that opened a session, when it has an output in its hands. -/
private theorem Reaches.handles_next (h : Reaches config nodes history pool)
    (opened : OpenedBy history opener request output) {take : ControlEvent} {later : History}
    (hsplit : history = front ++ take :: later) (htask : take.task = opener)
    {stage : OutputStage} (hstage : outputStage take.interaction = some stage)
    (between : handling (own opener history) = none) :
    ∃ waits next rest, later = waits ++ next :: rest ∧ next.task = opener ∧
      (∀ other ∈ waits, other.task ≠ opener) ∧
      handlesNext (own opener front ++ [take.interaction]) next.action := by
  have goesOn : ∃ e ∈ later, e.task = opener := by
    by_contra hnone
    have hsilent : ∀ other ∈ later, other.task ≠ opener :=
      fun other hother hsame => hnone ⟨other, hother, hsame⟩
    rw [hsplit, own_append_cons opener front later htask hsilent, handling_append_one,
      hstage] at between
    cases between
  obtain ⟨waits, next, rest, rfl, hnext, hwaits⟩ := exists_next_own goesOn
  have hlater : history = (front ++ take :: waits) ++ next :: rest := by simp [hsplit]
  have act := h.eventAct hlater
  rw [h.opener_origin opened (hlater ▸ List.mem_append_right _ (List.mem_cons_self ..)) hnext,
    hnext, own_append_cons opener front waits htask hwaits] at act
  exact ⟨waits, next, rest, rfl, hnext, hwaits, act⟩

/-- An output that the opener broadcasts after the reattach is sent to the browser. -/
private theorem RemoteReattach.delivered (h : Reaches config nodes history pool)
    (r : RemoteReattach history front middle back detach reattach opener output channel request
      target)
    (rest : AtRest history pool.shared.sessions reattach.task opener output)
    (keepsUp : KeepsUp (own reattach.task history)) {cast : ControlEvent}
    {between late : History} (hback : back = between ++ cast :: late)
    {message : TerminalServerMessage} (houtput : message.isOutput = true)
    (hcast : cast.action = .terminal (.broadcast output message)) :
    Did (own reattach.task history) (.host (.send message)) true := by
  have hsplit : history = (front ++ detach :: middle) ++ reattach :: back := by simp [r.split]
  have hlate : history =
      (front ++ detach :: (middle ++ reattach :: between)) ++ cast :: late := by
    simp [r.split, hback]
  obtain ⟨rfl, -⟩ := r.found h
  obtain ⟨token, actorEmail, heq⟩ := r.accepted
  obtain ⟨position, receiving⟩ := h.receiving hsplit heq keepsUp
  obtain rfl : position = (pool.shared.sessions.outputLog target.output).length :=
    Option.some.inj (receiving.cursor.symm.trans rest.received)
  -- the log at the reattach, then what came before the broadcast, then the broadcast
  have opened := r.opened_before h
  have hreattach : target.output < reattach.before.sessions.outputs.length :=
    (h.next hsplit).ledger.channel (opened.later (own_isPrefix opener front _))
  have hcastLt : target.output < cast.before.sessions.outputs.length :=
    (h.next hlate).ledger.channel (opened.later (own_isPrefix opener front _))
  obtain ⟨before, hfront, hbefore⟩ := h.front hlate
  have hgrown : reattach.after.sessions.outputLog target.output <+:
      cast.before.sessions.outputLog target.output := by
    rw [← hbefore]
    have hbetween : front ++ detach :: (middle ++ reattach :: between) =
        (front ++ detach :: middle) ++ reattach :: between := by simp
    exact hfront.log_isPrefix hbetween hreattach
  have hsame : reattach.before.sessions.outputLog target.output <+:
      reattach.after.sessions.outputLog target.output := by
    rw [(h.next hsplit).step.outputLog hreattach]
    exact List.prefix_append ..
  have hsent : cast.before.sessions.outputLog target.output ++ [message] <+:
      pool.shared.sessions.outputLog target.output := by
    have hlog := (h.next hlate).step.outputLog hcastLt
    have hsentTo : sentTo target.output ⟨cast.action, cast.reply⟩ = [message] := by
      obtain ⟨task, origin, action, reply, before, after, spawned⟩ := cast
      cases hcast
      simp [sentTo]
    rw [hsentTo] at hlog
    rw [← hlog]
    exact h.log_isPrefix hlate hcastLt
  have hmem : message ∈ (pool.shared.sessions.outputLog target.output).drop
      (reattach.before.sessions.outputLog target.output).length := by
    obtain ⟨extra, hextra⟩ := hsent
    obtain ⟨grown, hgrown⟩ := hsame.trans hgrown
    rw [← hextra, ← hgrown, List.append_assoc, List.append_assoc, List.drop_left]
    simp
  have hdue : message ∈ due (own reattach.task history) := by
    rw [receiving.due, List.take_length]
    refine List.mem_append_right _ (List.mem_filter.mpr ⟨hmem, houtput⟩)
  rw [← rest.shown] at hdue
  obtain ⟨sent, hdid⟩ := sent_of_shown hdue
  cases sent with
  | true => exact hdid
  | false => exact absurd hdid (rest.connected message)

/-- The message that is made of an output is an output. -/
private theorem isOutput_recorded (h : Reaches config nodes history pool) {later : History}
    {record : ControlEvent} (hsplit : history = front ++ record :: later)
    {sessionId : TerminalSessionId} {recorded : Option TerminalServerMessage}
    (heq : record.interaction = ⟨.terminal (.recordOutput sessionId data), recorded⟩) :
    (recorded.getD (.output sessionId 0 data)).isOutput = true := by
  have step := (h.next hsplit).step
  obtain ⟨task, origin, action, reply, before, after, spawned⟩ := record
  cases heq
  obtain ⟨-, hreply⟩ := AppStep.recordOutput step
  rw [hreply]
  cases before.sessions.get sessionId with
  | none => rfl
  | some session => rfl

/-- An output of the node that is accepted after the detach survives the reattach, if whoever
    takes it has recorded it before the reattach or the handler that opened the session takes it,
    which does so only while it still reads the node's events. -/
theorem remote_output_survives (h : Reaches config nodes history pool)
    (r : RemoteReattach history front middle back detach reattach opener output channel request
      target)
    (few : replayWrites request.sessionId middle ≤ outputReplayCapacity)
    (keepsUp : KeepsUp (own reattach.task history))
    (rest : AtRest history pool.shared.sessions reattach.task opener output)
    (since : (arrivedOn source (front ++ [detach])).length ≤ n)
    (accepted : (arrivedOn source history)[n]? = some (.terminalOutput request.sessionId data))
    (handled : (∃ recorded, RecordedAs (front ++ detach :: middle) source n request.sessionId data
      recorded) ∨ TakenBy history source n opener) :
    SurvivesReattach history (front ++ detach :: middle) reattach.task target source n
      request.sessionId data := by
  have early : ∀ {recorded}, RecordedAs (front ++ detach :: middle) source n request.sessionId
      data recorded → SurvivesReattach history (front ++ detach :: middle) reattach.task target
        source n request.sessionId data := by
    intro recorded before
    obtain ⟨message, rfl, hmem⟩ := r.replayed h few since before
    exact Or.inl ⟨message, before, hmem⟩
  rcases handled with ⟨recorded, before⟩ | ⟨first, take, later, hsplit, ⟨hn, event, htake⟩, htask⟩
  · exact early before
  obtain rfl := h.event_of_take hsplit htake hn accepted
  -- the opener records the output next
  obtain ⟨waits, record, tail, rfl, hrecord, hwaits, act⟩ :=
    h.handles_next r.opened hsplit htask (by rw [htake]; rfl) rest.between
  have haction := act (.taken request.sessionId data) (by rw [handling_append_one, htake]; rfl)
  obtain ⟨recorded, heq⟩ : ∃ recorded, record.interaction =
      ⟨.terminal (.recordOutput request.sessionId data), recorded⟩ := by
    obtain ⟨task, origin, action, reply, before, after, spawned⟩ := record
    cases haction
    exact ⟨reply, rfl⟩
  have hrecordSplit : history = (first ++ take :: waits) ++ record :: tail := by simp [hsplit]
  have hreattach : history = (front ++ detach :: middle) ++ reattach :: back := by simp [r.split]
  have hne : record ≠ reattach := by
    rintro rfl
    obtain ⟨token, actorEmail, hreattached⟩ := r.accepted
    rw [heq] at hreattached
    cases hreattached
  have hothers : ∀ other ∈ waits, other.task ≠ take.task := htask ▸ hwaits
  rcases before_or_after hrecordSplit hreattach hne with ⟨between, hbefore, -⟩ |
    ⟨between, hafter, hlate⟩
  · apply early
    exact ⟨first, take, waits, record, between, by simp [hbefore], ⟨hn, _, htake⟩, hothers,
      hrecord.trans htask.symm, heq⟩
  · -- it broadcasts the message after that
    have houtput := isOutput_recorded h hrecordSplit heq
    have hstage : outputStage record.interaction =
        some (.recorded (recorded.getD (.output request.sessionId 0 data))) := by
      rw [heq]
      simp [outputStage, houtput]
    obtain ⟨pauses, cast, final, rfl, hcastTask, hpauses, act⟩ :=
      h.handles_next r.opened hrecordSplit hrecord hstage rest.between
    obtain ⟨named, commands, given, hopened, hcast⟩ :=
      act (.recorded _) (by rw [handling_append_one, hstage])
    obtain ⟨-, later, hinsert, -⟩ := hopened
    rw [← own_append_cons opener _ pauses hrecord hpauses] at hinsert
    have hcastSplit : history =
        ((first ++ take :: waits) ++ record :: pauses) ++ cast :: final := by simp [hsplit]
    cases h.ledger.insertedOnce (hinsert.later (hcastSplit ▸ own_isPrefix opener _ _)) r.opened
    refine Or.inr ⟨recorded, ⟨first, take, waits, record, _, hsplit, ⟨hn, _, htake⟩, hothers,
      hrecord.trans htask.symm, heq⟩, ?_⟩
    have hback : back = (between ++ record :: pauses) ++ cast :: final := by simp [hlate]
    exact r.delivered h rest keepsUp hback houtput hcast

private theorem lt_of_recordedAs {recorded : Option TerminalServerMessage}
    {sessionId : TerminalSessionId} (h : RecordedAs history source n sessionId data recorded) :
    n < (takenFrom source history).length := by
  obtain ⟨early, take, waits, record, late, rfl, ⟨hn, event, heq⟩, -⟩ := h
  have htaken : takenOf source take.interaction = [event] := by
    rw [heq]
    simp [takenOf]
  have hlength : (takenFrom source (early ++ take :: (waits ++ record :: late))).length =
      (takenFrom source early).length +
        (1 + (takenFrom source (waits ++ record :: late)).length) := by
    rw [takenFrom, List.flatMap_append, List.flatMap_cons, htaken]
    rw [List.length_append, List.length_append]
    rfl
  omega

end Delivery

/-- The node's agent sends the next piece of the output of Alice's terminal. -/
private def outputArrives (agent messageId : Nat) (data : String) :
    List (Label Arrival Choice) :=
  [.move agent (.agent (.frame (.text (some (agentEnvelope messageId
      (.terminalEvent (some ⟨1⟩) (.terminalOutput (sessionIdOf 1) data))))))), .move agent .none]

/-- The handler that opened the session takes the output and passes it on. -/
private def openerForwards (task : Nat) : List (Label Arrival Choice) :=
  [.move task .channel, .move task .none, .move task .none, .move task (.decide true)]

/-- A reattached browser detaches, and its handler returns. -/
private def remoteDetach (task : Nat) : List (Label Arrival Choice) :=
  [.move task (.browser (some (.text (.ok (.detach (sessionIdOf 1)))))), .move task (.clock 2),
    .move task .none, .move task .none, .move task (.decide true)]

/-- A third browser reattaches and is shown two messages of the replay. -/
private def reattachAgain (task : Nat) : List (Label Arrival Choice) :=
  [.arrive (.browser "alice"),
    .move task (.browser (some (.text (.ok (.reattach (sessionIdOf 1) ⟨"t1"⟩))))),
    .move task .none, .move task .none, .move task (.clock 3), .move task (.decide true),
    .move task (.clockToken 3 ⟨"t2"⟩), .move task (.decide true), .move task (.decide true),
    .move task (.decide true), .move task .none, .move task .none]

/-- Alice's second browser detaches while the first one stays; one output comes in before her
    third browser reattaches and one after that. -/
private def openerStays : History :=
  calls defaultTerminalSessionConfig oneNode
    (agentOpening 0 false ++ remoteOpening 1 "alice" "t0" ++ agentStarts 0 1 ++
      remoteReattach 2 ++ remoteDetach 2 ++ outputArrives 0 3 "a" ++ openerForwards 1 ++
      reattachAgain 3 ++ outputArrives 0 4 "b" ++ openerForwards 1 ++
      [.move 3 .channel, .move 3 (.clock 4), .move 3 (.decide true)])

/-- Alice's only browser detaches, an output comes in, and her second browser reattaches. -/
private def openerLeaves : History :=
  calls defaultTerminalSessionConfig oneNode
    (agentOpening 0 false ++ remoteOpening 1 "alice" "t0" ++ agentStarts 0 1 ++
      openerDetaches 1 ++ outputArrives 0 3 "x" ++ remoteReattach 2)

private def isLostSend : Interaction Action Reply → Bool
  | ⟨.host (.send _), sent⟩ => !sent
  | _ => false

private theorem connected_of_all {past : Past} (h : past.all (fun x => !isLostSend x) = true) :
    ∀ message, ¬Did past (.host (.send message)) false := by
  intro message hd
  have hx := List.all_eq_true.mp h _ hd
  simp [isLostSend] at hx

theorem remote_output_survives_opener : ∃ pool front middle back detach reattach request target,
    Reaches defaultTerminalSessionConfig oneNode openerStays pool ∧
    RemoteReattach openerStays front middle back detach reattach 1 0 0 request target ∧
    SurvivesReattach openerStays (front ++ detach :: middle) reattach.task target 0 1
      request.sessionId "a" ∧
    SurvivesReattach openerStays (front ++ detach :: middle) reattach.task target 0 2
      request.sessionId "b" := by
  obtain ⟨pool, h⟩ : ∃ pool, Reaches defaultTerminalSessionConfig oneNode openerStays pool :=
    reaches_calls rfl
  obtain ⟨request, opened, hid, hremote⟩ : ∃ request, OpenedBy openerStays 1 request 0 ∧
      request.sessionId = sessionIdOf 1 ∧ request.backend = .remote 0 :=
    ⟨_, List.mem_of_getElem? (i := 10) rfl, rfl, rfl⟩
  obtain ⟨detach, hdetach, hdetaches, hdetached, harrived⟩ : ∃ e, openerStays[40]? = some e ∧
      Detaches (sessionIdOf 1) e ∧
      e.after.sessions.state (sessionIdOf 1) = some .detached ∧
      (arrivedOn 0 (openerStays.take 40 ++ [e])).length = 1 := by
    refine ⟨_, rfl, ?_⟩
    exact ⟨rfl, rfl, rfl⟩
  obtain ⟨reattach, target, hreattach, htask, haccepted⟩ : ∃ e target,
      (openerStays.drop 41)[13]? = some e ∧ e.task = 3 ∧ e.interaction =
        ⟨.terminal (.reattach (sessionIdOf 1) ⟨"t1"⟩ "alice"), some target⟩ :=
    ⟨_, _, rfl, rfl, rfl⟩
  have r : RemoteReattach openerStays (openerStays.take 40) ((openerStays.drop 41).take 13)
      ((openerStays.drop 41).drop 14) detach reattach 1 0 0 request target := by
    refine ⟨?_, opened, hremote, ?_, ?_, ⟨⟨"t1"⟩, "alice", ?_⟩⟩
    · rw [← split_at hreattach]
      exact split_at hdetach
    · rw [hid]
      exact hdetaches
    · rw [hid]
      exact hdetached
    · rw [hid]
      exact haccepted
  have few : replayWrites request.sessionId ((openerStays.drop 41).take 13) ≤
      outputReplayCapacity := by
    have hone : replayWrites (sessionIdOf 1) ((openerStays.drop 41).take 13) = 1 := rfl
    rw [hid, hone, outputReplayCapacity]
    omega
  have keepsUp : KeepsUp (own reattach.task openerStays) := by
    rw [htask]
    exact keepsUp_of_all rfl
  have rest : AtRest openerStays pool.shared.sessions reattach.task 1 0 := by
    rw [htask, h.shared_eq]
    exact ⟨rfl, rfl, connected_of_all rfl, rfl⟩
  refine ⟨pool, _, _, _, detach, reattach, request, target, h, r, ?_, ?_⟩
  · refine remote_output_survives h r few keepsUp rest harrived.le ?_ (Or.inr ?_)
    · rw [hid]
      rfl
    · obtain ⟨take, htake, htaker, hn, hevent⟩ : ∃ e, openerStays[45]? = some e ∧ e.task = 1 ∧
          (takenFrom 0 (openerStays.take 45)).length = 1 ∧ ∃ event,
            e.interaction = ⟨.agent (.selectEvent 0), .event (some event)⟩ :=
        ⟨_, rfl, rfl, rfl, _, rfl⟩
      exact ⟨_, take, _, split_at htake, ⟨hn, hevent⟩, htaker⟩
  · refine remote_output_survives h r few keepsUp rest (harrived.le.trans (Nat.le_succ 1)) ?_
      (Or.inr ?_)
    · rw [hid]
      rfl
    · obtain ⟨take, htake, htaker, hn, hevent⟩ : ∃ e, openerStays[62]? = some e ∧ e.task = 1 ∧
          (takenFrom 0 (openerStays.take 62)).length = 2 ∧ ∃ event,
            e.interaction = ⟨.agent (.selectEvent 0), .event (some event)⟩ :=
        ⟨_, rfl, rfl, rfl, _, rfl⟩
      exact ⟨_, take, _, split_at htake, ⟨hn, hevent⟩, htaker⟩

/-- With the handler that opened the session gone, nobody takes the output: it stays on the
    channel, and the browser that reattaches never sees it. -/
theorem remote_output_lost : ∃ pool front middle back detach reattach request target,
    Reaches defaultTerminalSessionConfig oneNode openerLeaves pool ∧
    RemoteReattach openerLeaves front middle back detach reattach 1 0 0 request target ∧
    replayWrites request.sessionId middle ≤ outputReplayCapacity ∧
    KeepsUp (own reattach.task openerLeaves) ∧
    AtRest openerLeaves pool.shared.sessions reattach.task 1 0 ∧
    (arrivedOn 0 (front ++ [detach])).length ≤ 1 ∧
    (arrivedOn 0 openerLeaves)[1]? = some (.terminalOutput request.sessionId "x") ∧
    waitingOn 0 pool.shared.agentConnections = [.terminalOutput request.sessionId "x"] ∧
    ¬SurvivesReattach openerLeaves (front ++ detach :: middle) reattach.task target 0 1
      request.sessionId "x" := by
  obtain ⟨pool, h⟩ : ∃ pool, Reaches defaultTerminalSessionConfig oneNode openerLeaves pool :=
    reaches_calls rfl
  obtain ⟨request, opened, hid, hremote⟩ : ∃ request, OpenedBy openerLeaves 1 request 0 ∧
      request.sessionId = sessionIdOf 1 ∧ request.backend = .remote 0 :=
    ⟨_, List.mem_of_getElem? (i := 10) rfl, rfl, rfl⟩
  obtain ⟨detach, hdetach, hdetaches, hdetached, harrived⟩ : ∃ e, openerLeaves[29]? = some e ∧
      Detaches (sessionIdOf 1) e ∧
      e.after.sessions.state (sessionIdOf 1) = some .detached ∧
      (arrivedOn 0 (openerLeaves.take 29 ++ [e])).length = 1 := by
    refine ⟨_, rfl, ?_⟩
    exact ⟨rfl, rfl, rfl⟩
  obtain ⟨reattach, target, hreattach, htask, haccepted⟩ : ∃ e target,
      (openerLeaves.drop 30)[12]? = some e ∧ e.task = 2 ∧ e.interaction =
        ⟨.terminal (.reattach (sessionIdOf 1) ⟨"t0"⟩ "alice"), some target⟩ :=
    ⟨_, _, rfl, rfl, rfl⟩
  have split : openerLeaves = openerLeaves.take 29 ++ detach ::
      ((openerLeaves.drop 30).take 12 ++ reattach :: (openerLeaves.drop 30).drop 13) := by
    rw [← split_at hreattach]
    exact split_at hdetach
  have htaken : (takenFrom 0 openerLeaves).length = 1 := rfl
  refine ⟨pool, openerLeaves.take 29, (openerLeaves.drop 30).take 12,
    (openerLeaves.drop 30).drop 13, detach, reattach, request, target, h,
    ⟨split, opened, hremote, ?_, ?_, ⟨⟨"t0"⟩, "alice", ?_⟩⟩, ?_, ?_, ?_, harrived.le, ?_, ?_, ?_⟩
  · rw [hid]
    exact hdetaches
  · rw [hid]
    exact hdetached
  · rw [hid]
    exact haccepted
  · have hnone : replayWrites (sessionIdOf 1) ((openerLeaves.drop 30).take 12) = 0 := rfl
    rw [hid, hnone]
    exact Nat.zero_le _
  · rw [htask]
    exact keepsUp_of_all rfl
  · rw [htask, h.shared_eq]
    exact ⟨rfl, rfl, connected_of_all rfl, rfl⟩
  · rw [hid]
    rfl
  · rw [hid, h.shared_eq]
    rfl
  · rintro (⟨message, before, -⟩ | ⟨recorded, handled, -⟩)
    · have hlt := lt_of_recordedAs before
      have hprefix : openerLeaves.take 29 ++ detach :: (openerLeaves.drop 30).take 12 <+:
          openerLeaves := ⟨_, by rw [List.append_assoc]; exact split.symm⟩
      have hle : (takenFrom 0 _).length ≤ (takenFrom 0 openerLeaves).length :=
        (takenFrom_isPrefix hprefix).length_le
      omega
    · have hlt := lt_of_recordedAs handled
      omega

end Sunbolt.Control
