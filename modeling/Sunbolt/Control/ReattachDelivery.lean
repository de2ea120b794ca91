/- Module: Sunbolt/Control/ReattachDelivery
   scope: sunbolt-control/src/terminal/mod.rs, sunbolt-control/src/terminal/session_registry.rs
   digest: When the replay and the live outputs of a reattached browser hold every output once. -/

import Sunbolt.Control.DetachOwnership
import Sunbolt.Control.ReaderLog

set_option autoImplicit false
set_option relaxedAutoImplicit false

namespace Sunbolt.Control

open Sunbolt.Library
open Sunbolt.Protocol (TerminalSessionId TerminalReconnectToken TerminalServerMessage u64Max)

/-- The receiver of a browser that was reattached after `early` had been sent stands at
    `position`; the browser is owed the replay and what the receiver has passed. -/
structure Receiving (history : History) (sessions : TerminalSessionRegistry) (task : Nat)
    (target : TerminalReattachTarget) (early : List TerminalServerMessage) (position : Nat) :
    Prop where
  cursor : cursor (own task history) = some position
  sent : early <+: sessions.outputLog target.output
  started : early.length ≤ position
  inLog : position ≤ (sessions.outputLog target.output).length
  due : due (own task history) = target.replay.filter (·.isOutput) ++
    (((sessions.outputLog target.output).take position).drop early.length).filter (·.isOutput)

section Receiver

variable {config : TerminalSessionConfig} {nodes : NodeEnrollmentState}
  {history front back : History} {pool : ControlPool} {e : ControlEvent} {task : Nat}

/-- An accepted reattach takes the replay and the end of the log in one step. -/
theorem AppStep.reattach {state next : AppState} {sessionId : TerminalSessionId}
    {token : TerminalReconnectToken} {actorEmail : String} {target : TerminalReattachTarget}
    (step : AppStep task state (.terminal (.reattach sessionId token actorEmail)) (some target)
      next) :
    ∃ session, state.sessions.get sessionId = some session ∧
      target.replay = session.replay.items ∧ target.output = session.output ∧
      target.outputNext = (state.sessions.outputLog target.output).length ∧
      next.sessions.outputs = state.sessions.outputs := by
  generalize hreply : some target = reply at step
  cases step with
  | write hwrite =>
    cases hwrite with
    | reattach named reconnectToken actor now fresh =>
      rcases state.sessions.reattach_cases sessionId token actorEmail now fresh with
        heq | ⟨session, found, -, -, -, heq⟩
      · rw [heq] at hreply
        cases hreply
      · rw [heq] at hreply ⊢
        cases hreply
        refine ⟨session, found, rfl, rfl, ?_, TerminalSessionRegistry.outputs_modify ..⟩
        rw [TerminalSessionRegistry.outputLog]
        cases state.sessions.outputs[session.output]? with
        | none => rfl
        | some channel => rfl
  | read hread => cases hread

/-- The end of the channel leaves the receiver where it stands. -/
theorem AppStep.receivedClosed {state next : AppState} {output position after : Nat}
    {idleChecks : Bool}
    (step : AppStep task state (.terminal (.selectAttached output position idleChecks))
      (.output .closed after) next) : after = position := by
  generalize hreply : AttachedWake.output .closed after = reply at step
  cases step with
  | write hwrite => cases hwrite
  | read hread =>
    cases hread with
    | selectOutput output position given idleChecks channel received found got =>
      cases hreply
      exact Broadcast.recv_closed got
    | _ => cases hreply

/-- A task reattaches at most once. -/
theorem Reaches.reattach_once (h : Reaches config nodes history pool)
    {sessionId other : TerminalSessionId} {token given : TerminalReconnectToken}
    {actorEmail actor : String} {target found : Option TerminalReattachTarget}
    (hd : Did (own task history) (.terminal (.reattach sessionId token actorEmail)) target)
    (hd' : Did (own task history) (.terminal (.reattach other given actor)) found) :
    (⟨.terminal (.reattach sessionId token actorEmail), target⟩ : Interaction Action Reply) =
      ⟨.terminal (.reattach other given actor), found⟩ := by
  refine h.keeps (I := fun history _ =>
    Did (own task history) (.terminal (.reattach sessionId token actorEmail)) target →
    Did (own task history) (.terminal (.reattach other given actor)) found →
    (⟨.terminal (.reattach sessionId token actorEmail), target⟩ : Interaction Action Reply) =
      ⟨.terminal (.reattach other given actor), found⟩) ?_ ?_ hd hd'
  · intro hnone
    exact absurd hnone List.not_mem_nil
  · intro front e next ih hd hd'
    have fresh : ∀ {sessionId token actorEmail},
        e.action = .terminal (.reattach sessionId token actorEmail) →
        Fresh (own e.task front) := by
      intro sessionId token actorEmail haction
      have act := next.act
      rw [haction] at act
      obtain ⟨named, -, -, hfresh, -⟩ := browser_only act rfl
      exact hfresh
    rcases did_snoc.mp hd with hold | ⟨rfl, heq⟩
    · rcases did_snoc.mp hd' with hold' | ⟨rfl, heq'⟩
      · exact ih hold hold'
      · cases fresh (congrArg Interaction.action heq') _ hold
    · rcases did_snoc.mp hd' with hold' | ⟨-, heq'⟩
      · cases fresh (congrArg Interaction.action heq) _ hold'
      · exact heq.symm.trans heq'

/-- A task that took an event of a node has opened a terminal on it. -/
theorem Reaches.opened_of_took (h : Reaches config nodes history pool) {channel : Nat}
    {event : Sunbolt.Protocol.AgentTerminalEvent} (took : Took (own task history) channel event) :
    ∃ sessionId output, Opened (own task history) sessionId (.remote channel) output := by
  obtain ⟨front, e, back, hsplit, rfl, heq⟩ := exists_split_of_did took
  have act := (h.next hsplit).act
  have haction : e.action = .agent (.selectEvent channel) := congrArg Interaction.action heq
  rw [haction] at act
  obtain ⟨sessionId, output, hopened⟩ := opened_of_select act
  exact ⟨sessionId, output, hopened.later (hsplit ▸ own_isPrefix e.task front (e :: back))⟩

/-- The receiver is never told that it fell behind. -/
def KeepsUp (past : Past) : Prop :=
  ∀ output position idle after,
    ¬Did past (.terminal (.selectAttached output position idle)) (.output .lagged after)

namespace Receiving

variable {sessions next : TerminalSessionRegistry} {target : TerminalReattachTarget}
  {early : List TerminalServerMessage} {position : Nat} {longer : History}

private theorem waits (r : Receiving history sessions task target early position)
    (log : sessions.outputLog target.output <+: next.outputLog target.output)
    (stays : Control.cursor (own task longer) = Control.cursor (own task history))
    (owed : Control.due (own task longer) = Control.due (own task history)) :
    Receiving longer next task target early position := by
  have hsent := r.sent.trans log
  obtain ⟨extra, hextra⟩ := log
  refine ⟨stays.trans r.cursor, hsent, r.started, ?_, ?_⟩
  · rw [← hextra, List.length_append]
    exact r.inLog.trans (Nat.le_add_right ..)
  · rw [owed, r.due, ← hextra, List.take_append_of_le_length r.inLog]

private theorem takes (r : Receiving history sessions task target early position)
    {message : TerminalServerMessage}
    (value : (sessions.outputLog target.output)[position]? = some message)
    (log : next.outputLog target.output = sessions.outputLog target.output)
    (moves : Control.cursor (own task longer) = some (position + 1))
    (owed : Control.due (own task longer) =
      Control.due (own task history) ++ [message].filter (·.isOutput)) :
    Receiving longer next task target early (position + 1) := by
  obtain ⟨hlt, -⟩ := List.getElem?_eq_some_iff.mp value
  have hlength : ((sessions.outputLog target.output).take position).length = position :=
    List.length_take_of_le r.inLog
  refine ⟨moves, log ▸ r.sent, r.started.trans (Nat.le_succ position), ?_, ?_⟩
  · rw [log]
    exact hlt
  · rw [owed, r.due, log, List.take_add_one, value, Option.toList_some,
      List.drop_append_of_le_length (by rw [hlength]; exact r.started), List.filter_append,
      List.append_assoc]

end Receiving

private theorem due_append_one (past : Past) (x : Interaction Action Reply) :
    Control.due (past ++ [x]) = Control.due past ++ (streamOf x).filter (·.isOutput) := by
  simp [Control.due]

/-- The calls of a reattached browser that move its receiver are those on its loop's select. -/
theorem Reaches.reattached_call (h : Reaches config nodes (front ++ [e]) pool)
    {sessionId : TerminalSessionId} {token : TerminalReconnectToken} {actorEmail : String}
    {target : TerminalReattachTarget}
    (accepted : Did (own e.task front) (.terminal (.reattach sessionId token actorEmail))
      (some target))
    {user : String} (browser : e.origin = .terminalSocket user) :
    ((∀ before, cursorAfter e.interaction before = before) ∧ streamOf e.interaction = []) ∨
    ∃ position idle received after, cursor (own e.task front) = some position ∧
      e.interaction =
        ⟨.terminal (.selectAttached target.output position idle), .output received after⟩ := by
  obtain ⟨pool', hfront, -⟩ := h.front rfl
  have next := h.next rfl
  have act := next.act
  rw [browser] at act
  have hclosed : ∀ {named backend output}, ¬Opened (own e.task front) named backend output := by
    rintro named backend output ⟨-, request, hinsert, -, -⟩
    exact next.ledger.oneWay hinsert accepted
  have hstale : ¬Fresh (own e.task front) := by
    intro fresh
    cases fresh _ accepted
  obtain ⟨task, origin, action, reply, before, after, spawned⟩ := e
  cases action with
  | terminal action =>
    cases action with
    | reattach named token actor => exact absurd act.2.1 hstale
    | subscribe named =>
      obtain ⟨other, pty, opened⟩ := act
      exact absurd opened hclosed
    | recordOutput named data =>
      obtain ⟨channel, took⟩ := act
      obtain ⟨other, given, opened⟩ := hfront.opened_of_took took
      exact absurd opened hclosed
    | selectAttached named place idle =>
      obtain ⟨hplace, other, backend, attached⟩ := act
      have hnamed : named = target.output := by
        rcases attached with opened | ⟨given, found, -, hd, -, hfound⟩
        · exact absurd opened hclosed
        · cases hfront.reattach_once accepted hd
          exact hfound.symm
      subst hnamed
      cases reply with
      | output received later => exact Or.inr ⟨place, idle, received, later, hplace, rfl⟩
      | incoming message => exact Or.inl ⟨fun _ => rfl, rfl⟩
      | idleCheck => exact Or.inl ⟨fun _ => rfl, rfl⟩
    | _ => exact Or.inl ⟨fun _ => rfl, rfl⟩
  | _ => exact Or.inl ⟨fun _ => rfl, rfl⟩

/-- The channel of a session that was reattached has been made. -/
theorem Ledger.reattached_channel {state : AppState} (ledger : Ledger front state)
    {sessionId : TerminalSessionId} {token : TerminalReconnectToken} {actorEmail : String}
    {target : TerminalReattachTarget}
    (accepted : Did (own task front) (.terminal (.reattach sessionId token actorEmail))
      (some target)) : target.output < state.sessions.outputs.length := by
  obtain ⟨opener, request, output, hopened, -, -, hfields⟩ := ledger.reattached accepted
  simp only [Prod.mk.injEq] at hfields
  exact hfields.2.1 ▸ ledger.channel hopened

private theorem Reaches.receiving_own (h : Reaches config nodes (front ++ [e]) pool)
    {sessionId : TerminalSessionId} {token : TerminalReconnectToken} {actorEmail : String}
    {target : TerminalReattachTarget}
    (accepted : Did (own e.task front) (.terminal (.reattach sessionId token actorEmail))
      (some target))
    {user : String} (browser : e.origin = .terminalSocket user)
    (keepsUp : KeepsUp (own e.task (front ++ [e]))) {early : List TerminalServerMessage}
    {position : Nat} (r : Receiving front e.before.sessions e.task target early position) :
    ∃ after, Receiving (front ++ [e]) e.after.sessions e.task target early after := by
  have next := h.next rfl
  have howns : own e.task (front ++ [e]) = own e.task front ++ [e.interaction] :=
    Service.own_append_same ..
  have hlog := next.step.outputLog (next.ledger.reattached_channel accepted)
  have hinitial : e.before.sessions.outputLog target.output <+:
      e.after.sessions.outputLog target.output := hlog ▸ List.prefix_append ..
  rcases h.reattached_call accepted browser with
    ⟨hcursor, hstream⟩ | ⟨place, idle, received, after, hplace, hselect⟩
  · refine ⟨position, r.waits hinitial ?_ ?_⟩
    · rw [howns, cursor_append_one, hcursor]
    · rw [howns, due_append_one, hstream, List.filter_nil, List.append_nil]
  · obtain rfl : position = place := Option.some.inj (r.cursor.symm.trans hplace)
    obtain ⟨task, origin, action, reply, before, later, spawned⟩ := e
    cases hselect
    cases received with
    | value message =>
      obtain ⟨hvalue, rfl⟩ := AppStep.received next.step
      refine ⟨position + 1, r.takes hvalue (hlog.trans (List.append_nil _)) ?_ ?_⟩
      · rw [howns, cursor_append_one]
        rfl
      · rw [howns, due_append_one]
        rfl
    | lagged =>
      exact absurd (did_snoc.mpr (Or.inr ⟨rfl, rfl⟩)) (keepsUp target.output position idle after)
    | closed =>
      obtain rfl := AppStep.receivedClosed next.step
      refine ⟨after, r.waits hinitial ?_ ?_⟩
      · rw [howns, cursor_append_one, r.cursor]
        rfl
      · rw [howns, due_append_one]
        exact List.append_nil _

/-- Only a browser's task reattaches. -/
theorem Reaches.browser_of_reattach (h : Reaches config nodes history pool)
    (hsplit : history = front ++ e :: back) {sessionId : TerminalSessionId}
    (accepted : Reattaches sessionId e) :
    ∃ user, ∀ other ∈ history, other.task = e.task → other.origin = .terminalSocket user := by
  obtain ⟨token, actorEmail, target, heq⟩ := accepted
  have act := (h.next hsplit).act
  have haction : e.action = .terminal (.reattach sessionId token actorEmail) :=
    congrArg Interaction.action heq
  rw [haction] at act
  obtain ⟨user, horigin, -⟩ := browser_only act rfl
  refine ⟨user, fun other hother htask => ?_⟩
  rw [h.origin hother (hsplit ▸ List.mem_append_right _ (List.mem_cons_self ..)) htask, horigin]

/-- Right after the reattach the browser is owed the replay alone. -/
private theorem Reaches.receiving_start (h : Reaches config nodes (front ++ [e]) pool)
    {sessionId : TerminalSessionId} {token : TerminalReconnectToken} {actorEmail : String}
    {target : TerminalReattachTarget}
    (accepted : e.interaction =
      ⟨.terminal (.reattach sessionId token actorEmail), some target⟩) :
    Receiving (front ++ [e]) e.after.sessions e.task target
      (e.before.sessions.outputLog target.output) target.outputNext := by
  have next := h.next rfl
  have act := next.act
  have howns : own e.task (front ++ [e]) = own e.task front ++ [e.interaction] :=
    Service.own_append_same ..
  obtain ⟨task, origin, action, reply, before, after, spawned⟩ := e
  cases accepted
  obtain ⟨user, -, -, hfresh, -⟩ := browser_only act rfl
  obtain ⟨session, -, -, -, hnext, houtputs⟩ := AppStep.reattach next.step
  have hlog : after.sessions.outputLog target.output = before.sessions.outputLog target.output := by
    rw [TerminalSessionRegistry.outputLog, houtputs, TerminalSessionRegistry.outputLog]
  refine ⟨?_, hlog ▸ List.prefix_refl _, hnext.ge, ?_, ?_⟩
  · rw [howns, cursor_append_one]
    rfl
  · rw [hnext, ← hlog]
  · rw [howns, due_append_one, hfresh.due_eq, ← hnext,
      List.drop_of_length_le (List.length_take_le ..)]
    exact (List.append_nil _).symm

/-- A reattached browser that keeps up is owed the replay and the log it has passed since. -/
theorem Reaches.receiving (h : Reaches config nodes history pool)
    (hsplit : history = front ++ e :: back) {sessionId : TerminalSessionId}
    {token : TerminalReconnectToken} {actorEmail : String} {target : TerminalReattachTarget}
    (accepted : e.interaction =
      ⟨.terminal (.reattach sessionId token actorEmail), some target⟩)
    (keepsUp : KeepsUp (own e.task history)) :
    ∃ position, Receiving history pool.shared.sessions e.task target
      (e.before.sessions.outputLog target.output) position := by
  refine h.along (I := fun history state => ∀ back, history = front ++ e :: back →
    KeepsUp (own e.task history) → ∃ position, Receiving history state.sessions e.task target
      (e.before.sessions.outputLog target.output) position) ?_ ?_ back hsplit keepsUp
  · intro back hnil
    simp at hnil
  · intro early last pool hrun ih back heq hkeeps
    rcases List.eq_nil_or_concat back with rfl | ⟨later, final, rfl⟩
    · obtain ⟨rfl, hlast⟩ := List.append_inj' heq rfl
      obtain rfl := List.singleton_inj.mp hlast
      exact ⟨target.outputNext, hrun.receiving_start accepted⟩
    · obtain ⟨rfl, hlast⟩ := List.append_inj' (heq.trans (by simp) :
        early ++ [last] = (front ++ e :: later) ++ [final]) rfl
      obtain rfl := List.singleton_inj.mp hlast
      have hinitial := own_isPrefix e.task (front ++ e :: later) [last]
      obtain ⟨position, r⟩ := ih later rfl
        (fun output position idle after hd => hkeeps output position idle after (hd.later hinitial))
      have hmem : e ∈ front ++ e :: later := List.mem_append_right _ (List.mem_cons_self ..)
      have hdid : Did (own e.task (front ++ e :: later))
          (.terminal (.reattach sessionId token actorEmail)) (some target) :=
        Service.mem_own.mpr ⟨e, hmem, rfl, accepted⟩
      by_cases htask : last.task = e.task
      · obtain ⟨user, browser⟩ := hrun.browser_of_reattach heq ⟨_, _, _, accepted⟩
        have horigin := browser last (List.mem_append_right _ (List.mem_singleton_self last)) htask
        rw [← htask] at r hdid hkeeps ⊢
        exact hrun.receiving_own hdid horigin hkeeps r
      · have next := hrun.next rfl
        have hlog := next.step.outputLog (next.ledger.reattached_channel hdid)
        have hsame : own e.task ((front ++ e :: later) ++ [last]) =
            own e.task (front ++ e :: later) := Service.own_append_other _ htask
        exact ⟨position, r.waits (hlog ▸ List.prefix_append ..) (by rw [hsame]) (by rw [hsame])⟩

/-- What a browser has been shown are the first of the outputs it is owed. -/
theorem Reaches.shown_isPrefix (h : Reaches config nodes history pool) {user : String}
    (browser : ∀ e ∈ history, e.task = task → e.origin = .terminalSocket user) :
    shown (own task history) <+: due (own task history) := by
  refine h.keeps (I := fun history _ =>
    (∀ e ∈ history, e.task = task → e.origin = .terminalSocket user) →
    shown (own task history) <+: due (own task history)) ?_ ?_ browser
  · exact fun _ => List.prefix_refl _
  · intro front e next ih hbrowser
    have earlier := ih (fun other hother => hbrowser other (List.mem_append_left _ hother))
    by_cases htask : e.task = task
    · subst htask
      have act := next.act
      rw [hbrowser e (List.mem_append_right _ (List.mem_singleton_self e)) rfl] at act
      have howns : own e.task (front ++ [e]) = own e.task front ++ [e.interaction] :=
        Service.own_append_same ..
      rw [howns, due_append_one, shown_append]
      have silent : shown [e.interaction] = [] →
          shown (own e.task front) ++ shown [e.interaction] <+:
            due (own e.task front) ++ (streamOf e.interaction).filter (·.isOutput) := by
        intro hsilent
        rw [hsilent, List.append_nil]
        exact earlier.trans (List.prefix_append ..)
      obtain ⟨task, origin, action, reply, before, after, spawned⟩ := e
      cases action with
      | host action =>
        cases action with
        | send message =>
          cases houtput : message.isOutput with
          | true =>
            have hshown : shown [⟨.host (.send message), reply⟩] = [message] := by
              simp [shown, shownBy, houtput]
            change shown (own task front) ++ shown [⟨.host (.send message), reply⟩] <+: _
            rw [hshown]
            exact (act.2 houtput).trans (List.prefix_append ..)
          | false =>
            refine silent ?_
            change shown [⟨.host (.send message), reply⟩] = []
            simp [shown, shownBy, houtput]
        | _ => exact silent rfl
      | _ => exact silent rfl
    · have hsame : own task (front ++ [e]) = own task front := Service.own_append_other _ htask
      rw [hsame]
      exact earlier

end Receiver

/-! Numbers. -/

/-- The sequence numbers go up. -/
def Increasing (messages : List TerminalServerMessage) : Prop :=
  (messages.map sequenceOf).Pairwise (· < ·)

/-- Every recorded output is shown once, and the outputs come with increasing numbers. -/
structure ShownOnce (shown recorded : List TerminalServerMessage) : Prop where
  increasing : Increasing shown
  once : ∀ message ∈ recorded, shown.count message = 1

section Numbers

variable {messages : List TerminalServerMessage}

theorem Increasing.sublist {fewer : List TerminalServerMessage} (h : Increasing messages)
    (hsub : fewer.Sublist messages) : Increasing fewer :=
  List.Pairwise.sublist (hsub.map sequenceOf) h

theorem Increasing.nodup (h : Increasing messages) : messages.Nodup := by
  have hnodup : (messages.map sequenceOf).Nodup := h.imp (fun hlt => hlt.ne)
  exact hnodup.of_map sequenceOf

theorem not_increasing_of_twice (before after : List TerminalServerMessage)
    (message : TerminalServerMessage) :
    ¬Increasing (before ++ [message] ++ (message :: after)) := by
  intro h
  have hpair : Increasing [message, message] := by
    refine h.sublist ?_
    exact (List.sublist_append_right before [message]).append
      (List.singleton_sublist.mpr (List.mem_cons_self ..))
  simp [Increasing] at hpair

/-- The numbers given out one after the other go up until the counter is at its end. -/
theorem increasing_drop_iff
    (numbered : messages.map sequenceOf =
      (List.range messages.length).map (fun i => min (i + 1) u64Max))
    {k : Nat} (two : k + 2 ≤ messages.length ∨ messages.length ≤ u64Max) :
    Increasing (messages.drop k) ↔ messages.length ≤ u64Max := by
  rw [Increasing, List.map_drop, numbered]
  constructor
  · intro h
    rcases two with htwo | hle
    · by_contra hgt
      -- the last two outputs have the same number
      have hlast := List.pairwise_iff_getElem.mp h (messages.length - 2 - k)
        (messages.length - 1 - k) (by simp; omega) (by simp; omega) (by omega)
      simp only [List.getElem_drop, List.getElem_map, List.getElem_range] at hlast
      omega
    · exact hle
  · intro hle
    refine List.Pairwise.sublist (List.drop_sublist ..) ?_
    rw [List.pairwise_map]
    refine List.Pairwise.imp_of_mem ?_ (List.pairwise_lt_range (n := messages.length))
    intro i j hi hj hlt
    have hi' := List.mem_range.mp hi
    have hj' := List.mem_range.mp hj
    omega

end Numbers

section Deliveries

variable {config : TerminalSessionConfig} {nodes : NodeEnrollmentState}
  {history front back : History} {pool : ControlPool} {e : ControlEvent} {pty output : Nat}
  {sessionId : TerminalSessionId}

/-- A browser reattaches with `e` to a local session that only its reader writes to, and keeps
    up with the reader's broadcasts. -/
structure Reattachment (history front back : History) (e : ControlEvent) (pty : Nat)
    (sessionId : TerminalSessionId) (output : Nat) : Prop where
  split : history = front ++ e :: back
  opened : ∃ opener request, OpenedBy history opener request output ∧
    request.sessionId = sessionId ∧ request.backend = .local pty
  accepted : Reattaches sessionId e
  only : OnlyReader history pty sessionId output
  keepsUp : KeepsUp (own e.task history)

/-- The reader has broadcast every output it has recorded. -/
def AllSent (history : History) (sessions : TerminalSessionRegistry)
    (sessionId : TerminalSessionId) (output : Nat) : Prop :=
  recordedFor sessionId history = sessions.sentOutputs output

/-- The reader has broadcast all its outputs, and the browser has received and been shown them. -/
structure CaughtUp (history : History) (sessions : TerminalSessionRegistry) (task : Nat)
    (sessionId : TerminalSessionId) (output : Nat) : Prop where
  sent : AllSent history sessions sessionId output
  received : cursor (own task history) = some (sessions.outputLog output).length
  shown : shown (own task history) = due (own task history)

/-- The reattach itself records nothing. -/
private theorem Reattachment.recorded
    (r : Reattachment history front back e pty sessionId output) :
    recordedFor sessionId history =
      recordedFor sessionId front ++ recordedFor sessionId back := by
  obtain ⟨token, actorEmail, target, accepted⟩ := r.accepted
  have silent : recordOf sessionId e.interaction = [] := by
    rw [accepted]
    rfl
  rw [r.split, recordedFor_append, recordedFor, recordedFor, List.flatMap_cons, silent,
    List.nil_append, recordedFor]

/-- What a reattached browser is owed starts the replay, the output the reader was about to
    broadcast and everything recorded since; a browser that has caught up is owed all of it. -/
private theorem Reaches.delivery (h : Reaches config nodes history pool)
    (r : Reattachment history front back e pty sessionId output) :
    ∃ unsent : Option TerminalServerMessage,
      recordedFor sessionId front = e.before.sessions.sentOutputs output ++ unsent.toList ∧
      due (own e.task history) <+: (recordedFor sessionId front).drop
        ((recordedFor sessionId front).length - outputReplayCapacity) ++
          (unsent.toList ++ recordedFor sessionId back) ∧
      (CaughtUp history pool.shared.sessions e.task sessionId output →
        due (own e.task history) = (recordedFor sessionId front).drop
          ((recordedFor sessionId front).length - outputReplayCapacity) ++
            (unsent.toList ++ recordedFor sessionId back)) := by
  obtain ⟨token, actorEmail, target, accepted⟩ := r.accepted
  obtain ⟨opener, request, hopened, rfl, backend⟩ := r.opened
  obtain ⟨before, hfront, hbefore⟩ := h.front r.split
  have next := h.next r.split
  have only : OnlyReader front pty request.sessionId output := (r.split ▸ r.only).of_append
  obtain ⟨position, receiving⟩ := h.receiving r.split accepted r.keepsUp
  obtain ⟨session, found, hreplay, houtput, -, -⟩ : ∃ session,
      e.before.sessions.get request.sessionId = some session ∧
      target.replay = session.replay.items ∧ target.output = session.output ∧
      target.outputNext = (e.before.sessions.outputLog target.output).length ∧
      e.after.sessions.outputs = e.before.sessions.outputs := by
    have step := next.step
    obtain ⟨task, origin, action, reply, before, after, spawned⟩ := e
    cases accepted
    exact AppStep.reattach step
  -- the session that is found is the one that was opened over the channel
  obtain ⟨opener', request', given, hearly, hid, hidentity⟩ := next.ledger.tracked found
  obtain ⟨rfl, rfl, rfl⟩ := h.ledger.unique_id
    (hearly.later (r.split ▸ own_isPrefix opener' front (e :: back))) hopened hid
  simp only [TrackedTerminalSession.identity, TerminalSessionInsert.identity,
    Prod.mk.injEq] at hidentity
  obtain rfl : target.output = given := houtput.trans hidentity.2.1
  have early := hfront.readerLog hearly backend only
  have late := h.readerLog hopened backend r.only
  rw [hbefore] at early
  obtain ⟨live, hlive⟩ := receiving.sent
  have houtputs : target.replay.filter (·.isOutput) = (recordedFor request'.sessionId front).drop
      ((recordedFor request'.sessionId front).length - outputReplayCapacity) := by
    rw [hreplay, (early.kept session found).2, List.filter_eq_self]
    intro message hmem
    obtain ⟨-, sequence, data, rfl⟩ := hfront.mem_recordedFor (List.mem_of_mem_drop hmem)
    rfl
  have hall := r.recorded
  have hsent : pool.shared.sessions.sentOutputs target.output =
      e.before.sessions.sentOutputs target.output ++ live.filter (·.isOutput) := by
    rw [TerminalSessionRegistry.sentOutputs, ← hlive, List.filter_append,
      TerminalSessionRegistry.sentOutputs]
  have hflow : (pending (readerCalls pty request'.sessionId target.output front)).toList ++
      recordedFor request'.sessionId back = live.filter (·.isOutput) ++
        (pending (readerCalls pty request'.sessionId target.output history)).toList := by
    have hsame := hall.symm.trans late.sent
    rw [hsent, early.sent, List.append_assoc, List.append_assoc] at hsame
    exact List.append_cancel_left hsame
  have hdue : due (own e.task history) = (recordedFor request'.sessionId front).drop
      ((recordedFor request'.sessionId front).length - outputReplayCapacity) ++
        (live.take (position - (e.before.sessions.outputLog target.output).length)).filter
          (·.isOutput) := by
    rw [receiving.due, houtputs, ← hlive, List.drop_take, List.drop_left]
  refine ⟨pending (readerCalls pty request'.sessionId target.output front), early.sent, ?_, ?_⟩
  · rw [hdue, hflow, List.prefix_append_right_inj]
    exact ((List.take_prefix _ live).filter _).trans (List.prefix_append ..)
  · intro caught
    have hend : position = (pool.shared.sessions.outputLog target.output).length :=
      Option.some.inj (receiving.cursor.symm.trans caught.received)
    have hnone : (pending (readerCalls pty request'.sessionId target.output history)).toList = [] :=
      List.self_eq_append_right.mp (caught.sent.symm.trans late.sent)
    rw [hdue, hflow, hnone, List.append_nil, hend, ← hlive, List.length_append,
      Nat.add_sub_cancel_left, List.take_length]

/-- The replay, the output on its way and the later outputs have increasing numbers exactly when
    there is none on its way, which would come twice, and the counter is not at its end. -/
private theorem increasing_delivery_iff {unsent : Option TerminalServerMessage}
    {all recorded sent later : List TerminalServerMessage} (hall : all = recorded ++ later)
    (hrecorded : recorded = sent ++ unsent.toList)
    (numbered : all.map sequenceOf =
      (List.range all.length).map (fun i => min (i + 1) u64Max)) :
    Increasing (recorded.drop (recorded.length - outputReplayCapacity) ++
      (unsent.toList ++ later)) ↔ unsent = none ∧ all.length ≤ u64Max := by
  cases unsent with
  | none =>
    have hdrop : recorded.drop (recorded.length - outputReplayCapacity) ++ later =
        all.drop (recorded.length - outputReplayCapacity) := by
      rw [hall, List.drop_append_of_le_length (Nat.sub_le ..)]
    have two : recorded.length - outputReplayCapacity + 2 ≤ all.length ∨
        all.length ≤ u64Max := by
      rw [hall, List.length_append, outputReplayCapacity, u64Max]
      omega
    rw [Option.toList_none, List.nil_append, hdrop, increasing_drop_iff numbered two]
    exact (and_iff_right rfl).symm
  | some message =>
    have hlast : recorded.drop (recorded.length - outputReplayCapacity) =
        sent.drop (recorded.length - outputReplayCapacity) ++ [message] := by
      rw [hrecorded, Option.toList_some, List.drop_append_of_le_length]
      rw [List.length_append, List.length_singleton, outputReplayCapacity]
      omega
    rw [hlast]
    exact iff_of_false (not_increasing_of_twice _ later message) (fun h => nomatch h.1)

/-- A reattached browser that has caught up was shown every output recorded since the detach
    once, with increasing numbers, exactly when no recorded output was on its way to the channel
    at the reattach and the numbers have not run out; and then its numbers increase all along. -/
theorem shown_once_iff {early since : History} (h : Reaches config nodes history pool)
    (r : Reattachment history (early ++ since) back e pty sessionId output)
    (few : (recordedFor sessionId since).length ≤ outputReplayCapacity) :
    (CaughtUp history pool.shared.sessions e.task sessionId output →
      (ShownOnce (shown (own e.task history)) (recordedFor sessionId (since ++ e :: back)) ↔
        AllSent (early ++ since) e.before.sessions sessionId output ∧
          (recordedFor sessionId history).length ≤ u64Max)) ∧
    (AllSent (early ++ since) e.before.sessions sessionId output ∧
      (recordedFor sessionId history).length ≤ u64Max →
      Increasing (shown (own e.task history))) := by
  obtain ⟨unsent, hunsent, hinitial, hcaught⟩ := h.delivery r
  obtain ⟨opener, request, hopened, rfl, backend⟩ := r.opened
  have numbered := (h.readerLog hopened backend r.only).numbered
  have hincreasing := increasing_delivery_iff r.recorded hunsent numbered
  have hnone : AllSent (early ++ since) e.before.sessions request.sessionId output ↔
      unsent = none := by
    rw [AllSent, hunsent, List.append_right_eq_self, Option.toList_eq_nil_iff]
  rw [hnone, ← hincreasing]
  constructor
  · intro caught
    rw [caught.shown, hcaught caught]
    constructor
    · exact fun once => once.increasing
    · intro increasing
      refine ⟨increasing, fun message hmem => ?_⟩
      refine List.count_eq_one_of_mem increasing.nodup ?_
      have hparts : recordedFor request.sessionId (since ++ e :: back) =
          recordedFor request.sessionId since ++ recordedFor request.sessionId back := by
        have hall := r.recorded
        rw [r.split] at hall
        simp only [recordedFor_append, List.append_assoc] at hall ⊢
        exact List.append_cancel_left hall
      rw [hparts] at hmem
      rcases List.mem_append.mp hmem with hreplayed | hlive
      · refine List.mem_append_left _ ?_
        rw [recordedFor_append, List.drop_append_of_le_length]
        · exact List.mem_append_right _ hreplayed
        · rw [List.length_append]
          omega
      · exact List.mem_append_right _ (List.mem_append_right _ hlive)
  · intro increasing
    obtain ⟨user, browser⟩ := h.browser_of_reattach r.split r.accepted
    have hshown := h.shown_isPrefix browser
    exact increasing.sublist (hshown.trans hinitial).sublist

end Deliveries

/-- One turn of the reader of Alice's session. -/
private def readerTurn (byte : UInt8) : List (Label Arrival Choice) :=
  [.move 1 .none, .move 1 (.read (.ok [byte])), .move 1 .none, .move 1 .none]

/-- Alice's second browser takes the next output. -/
private def takesOutput : List (Label Arrival Choice) :=
  [.move 2 .channel, .move 2 (.clock 1), .move 2 (.decide true)]

/-- The reader is between two reads when the second browser reattaches. -/
private def settled : History :=
  calls defaultTerminalSessionConfig ⟨[], [], []⟩
    (localOpening 0 "alice" "t0" ++ readerTurn 97 ++ firstDisconnects ++ readerTurn 98 ++
      secondBrowser ++ [.move 2 (.decide true), .move 2 (.decide true), .move 2 (.decide true),
        .move 2 .none, .move 2 .none] ++ readerTurn 99 ++ takesOutput)

/-- The reader has recorded an output and not yet broadcast it. -/
private def between : History :=
  calls defaultTerminalSessionConfig ⟨[], [], []⟩
    (localOpening 0 "alice" "t0" ++ firstDisconnects ++ (readerTurn 98).take 3 ++ secondBrowser ++
      [.move 2 (.decide true), .move 2 (.decide true), .move 2 .none, .move 2 .none] ++
      (readerTurn 98).drop 3 ++ takesOutput)

private theorem onlyReader_of_all {history : History} {pty output : Nat}
    {sessionId : TerminalSessionId} (h : history.all (fun e => match e.action with
      | .terminal (.recordOutput ..) => isReader pty sessionId output e.origin
      | .terminal (.rememberServerMessage _) => false
      | _ => true) = true) : OnlyReader history pty sessionId output := by
  intro e he hwrites
  have hx := List.all_eq_true.mp h e he
  rcases hwrites with ⟨data, haction⟩ | ⟨message, haction, -⟩
  · rw [haction] at hx
    exact eq_of_isReader hx
  · rw [haction] at hx
    cases hx

theorem keepsUp_of_all {past : Past} (h : past.all (fun x => match x with
      | ⟨.terminal (.selectAttached ..), .output .lagged _⟩ => false
      | _ => true) = true) : KeepsUp past := by
  intro output position idle after hd
  cases List.all_eq_true.mp h _ hd

theorem shown_once_settled : ∃ pool e,
    Reaches defaultTerminalSessionConfig ⟨[], [], []⟩ settled pool ∧
    Reattachment settled ((settled.take 23).take 15 ++ (settled.take 23).drop 15)
      (settled.drop 24) e 0 (sessionIdOf 1) 0 ∧
    CaughtUp settled pool.shared.sessions e.task (sessionIdOf 1) 0 ∧
    ShownOnce (shown (own e.task settled)) (recordedFor (sessionIdOf 1)
      ((settled.take 23).drop 15 ++ e :: settled.drop 24)) ∧
    Increasing (shown (own e.task settled)) := by
  obtain ⟨pool, h⟩ : ∃ pool, Reaches defaultTerminalSessionConfig ⟨[], [], []⟩ settled pool :=
    reaches_calls rfl
  obtain ⟨e, he, htask, haccepted, hsent⟩ : ∃ e, settled[23]? = some e ∧ e.task = 2 ∧
      Reattaches (sessionIdOf 1) e ∧ recordedFor (sessionIdOf 1) (settled.take 23) =
        e.before.sessions.sentOutputs 0 := ⟨_, rfl, rfl, ⟨_, _, _, rfl⟩, rfl⟩
  have reattachment : Reattachment settled
      ((settled.take 23).take 15 ++ (settled.take 23).drop 15) (settled.drop 24) e 0
      (sessionIdOf 1) 0 := by
    refine ⟨?_, ⟨0, _, List.mem_of_getElem? (i := 3) rfl, rfl, rfl⟩, haccepted,
      onlyReader_of_all rfl, ?_⟩
    · rw [List.take_append_drop]
      exact split_at he
    · rw [htask]
      exact keepsUp_of_all rfl
  have caught : CaughtUp settled pool.shared.sessions e.task (sessionIdOf 1) 0 := by
    rw [h.shared_eq, htask]
    exact ⟨rfl, rfl, rfl⟩
  have calm : AllSent ((settled.take 23).take 15 ++ (settled.take 23).drop 15)
      e.before.sessions (sessionIdOf 1) 0 ∧
      (recordedFor (sessionIdOf 1) settled).length ≤ u64Max := by
    rw [List.take_append_drop]
    refine ⟨hsent, ?_⟩
    have hthree : (recordedFor (sessionIdOf 1) settled).length = 3 := rfl
    rw [hthree, u64Max]
    omega
  have few : (recordedFor (sessionIdOf 1) ((settled.take 23).drop 15)).length ≤
      outputReplayCapacity := by
    have hone : (recordedFor (sessionIdOf 1) ((settled.take 23).drop 15)).length = 1 := rfl
    rw [hone, outputReplayCapacity]
    omega
  obtain ⟨honce, hincreasing⟩ := shown_once_iff h reattachment few
  exact ⟨pool, e, h, reattachment, caught, (honce caught).mpr calm, hincreasing calm⟩

/-- An output that is recorded but not yet broadcast at the reattach comes twice. -/
theorem output_shown_twice : ∃ pool e,
    Reaches defaultTerminalSessionConfig ⟨[], [], []⟩ between pool ∧
    Reattachment between ((between.take 18).take 11 ++ (between.take 18).drop 11)
      (between.drop 19) e 0 (sessionIdOf 1) 0 ∧
    (recordedFor (sessionIdOf 1) ((between.take 18).drop 11)).length ≤ outputReplayCapacity ∧
    CaughtUp between pool.shared.sessions e.task (sessionIdOf 1) 0 ∧
    .output (sessionIdOf 1) 1 "b" ∈ recordedFor (sessionIdOf 1) ((between.take 18).drop 11) ∧
    (shown (own e.task between)).count (.output (sessionIdOf 1) 1 "b") = 2 ∧
    ¬Increasing (shown (own e.task between)) := by
  obtain ⟨pool, h⟩ : ∃ pool, Reaches defaultTerminalSessionConfig ⟨[], [], []⟩ between pool :=
    reaches_calls rfl
  obtain ⟨e, he, htask, haccepted⟩ : ∃ e, between[18]? = some e ∧ e.task = 2 ∧
      Reattaches (sessionIdOf 1) e := ⟨_, rfl, rfl, _, _, _, rfl⟩
  have hrecorded : recordedFor (sessionIdOf 1) ((between.take 18).drop 11) =
      [.output (sessionIdOf 1) 1 "b"] := by
    decide +kernel
  have hshown : shown (own 2 between) =
      [.output (sessionIdOf 1) 1 "b", .output (sessionIdOf 1) 1 "b"] := by
    decide +kernel
  refine ⟨pool, e, h, ?_, ?_, ?_, ?_, ?_, ?_⟩
  · refine ⟨?_, ⟨0, _, List.mem_of_getElem? (i := 3) rfl, rfl, rfl⟩, haccepted,
      onlyReader_of_all rfl, ?_⟩
    · rw [List.take_append_drop]
      exact split_at he
    · rw [htask]
      exact keepsUp_of_all rfl
  · rw [hrecorded, outputReplayCapacity]
    exact Nat.le_of_ble_eq_true rfl
  · rw [h.shared_eq, htask]
    exact ⟨rfl, rfl, rfl⟩
  · rw [hrecorded]
    exact List.mem_singleton_self _
  · rw [htask, hshown]
    simp
  · rw [htask, hshown]
    simp [Increasing]

end Sunbolt.Control
