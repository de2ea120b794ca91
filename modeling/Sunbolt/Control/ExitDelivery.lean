/- Module: Sunbolt/Control/ExitDelivery
   scope: sunbolt-control/src/terminal/mod.rs, sunbolt-control/src/terminal/session_registry.rs
   digest: When a browser that reattaches to a local session is told that its shell has exited. -/

import Sunbolt.Control.ExitOrder
import Sunbolt.Control.ReattachDelivery

set_option autoImplicit false
set_option relaxedAutoImplicit false

namespace Sunbolt.Control

open Sunbolt.Library
open Sunbolt.Protocol (TerminalSessionId TerminalReconnectToken TerminalServerMessage)

/-- What the handler of a browser was handed for it, by the replay and by its receiver. -/
def handed (past : Past) : List TerminalServerMessage := past.flatMap streamOf

/-- The receiver is told that it fell behind, and goes on past this place of the log. -/
def overtakes (place : Nat) (x : Interaction Action Reply) : Bool :=
  match x with
  | ⟨.terminal (.selectAttached _ position _), .output .lagged after⟩ =>
    position ≤ place && place < after
  | _ => false

def Overtook (past : Past) (place : Nat) : Prop := ∃ x ∈ past, overtakes place x = true

/-- A browser reattaches with `e` to a local session. -/
structure Rejoins (history front back : History) (e : ControlEvent) (pty : Nat)
    (sessionId : TerminalSessionId) (output : Nat) : Prop where
  split : history = front ++ e :: back
  opened : ∃ opener request, OpenedBy history opener request output ∧
    request.sessionId = sessionId ∧ request.backend = .local pty
  accepted : Reattaches sessionId e

/-- The reader of the session has made its last call, which it does not before the shell has
    ended, and the browser's receiver has come to the end of the channel. -/
structure Drained (history : History) (sessions : TerminalSessionRegistry) (task pty : Nat)
    (sessionId : TerminalSessionId) (output : Nat) : Prop where
  finished : (readerCalls pty sessionId output history).getLast? =
    some ⟨.terminal (.dropSender output), ()⟩
  received : cursor (own task history) = some (sessions.outputLog output).length

/-- The browser was handed an Exited message of the session. -/
def HearsExit (past : Past) (sessionId : TerminalSessionId) : Prop :=
  ∃ exit, .exited sessionId exit ∈ handed past

/-- The replay that the browser finds holds an Exited message; or the reader is told of the exit
    and has not broadcast it when the browser reattaches, and the browser's receiver does not
    fall behind past it. -/
def ExitReaches (history : History) (sessions : TerminalSessionRegistry) (e : ControlEvent)
    (pty : Nat) (sessionId : TerminalSessionId) (output : Nat) : Prop :=
  (∃ session exit, e.before.sessions.get sessionId = some session ∧
    .exited sessionId exit ∈ session.replay.items) ∨
  told (readerCalls pty sessionId output history) ≠ [] ∧
    e.before.sessions.sentExits output = [] ∧
    ∀ place message, (sessions.outputLog output)[place]? = some message →
      message.isExited = true → ¬Overtook (own e.task history) place

/-- The receiver of a browser that was reattached after `early` had been sent stands at
    `position`; it was handed the replay and what it has passed without overtaking it. -/
structure Hearing (history : History) (sessions : TerminalSessionRegistry) (task : Nat)
    (target : TerminalReattachTarget) (early : List TerminalServerMessage) (position : Nat) :
    Prop where
  cursor : cursor (own task history) = some position
  sent : early <+: sessions.outputLog target.output
  started : early.length ≤ position
  inLog : position ≤ (sessions.outputLog target.output).length
  heard : ∀ i message, early.length ≤ i → i < position →
    (sessions.outputLog target.output)[i]? = some message →
    message ∈ handed (own task history) ∨ Overtook (own task history) i
  came : ∀ message ∈ handed (own task history), message ∈ target.replay ∨
    ∃ i, early.length ≤ i ∧ i < position ∧
      (sessions.outputLog target.output)[i]? = some message ∧ ¬Overtook (own task history) i
  passed : ∀ i, Overtook (own task history) i → i < position
  kept : ∀ message ∈ target.replay, message ∈ handed (own task history)

theorem handed_append_one (past : Past) (x : Interaction Action Reply) :
    handed (past ++ [x]) = handed past ++ streamOf x := by
  simp [handed]

theorem overtook_append_one {past : Past} {x : Interaction Action Reply} {place : Nat} :
    Overtook (past ++ [x]) place ↔ Overtook past place ∨ overtakes place x = true := by
  constructor
  · rintro ⟨y, hy, hover⟩
    rcases List.mem_append.mp hy with hold | hnew
    · exact Or.inl ⟨y, hold, hover⟩
    · exact Or.inr (List.mem_singleton.mp hnew ▸ hover)
  · rintro (⟨y, hy, hover⟩ | hover)
    · exact ⟨y, List.mem_append_left _ hy, hover⟩
    · exact ⟨x, List.mem_append_right _ (List.mem_singleton_self x), hover⟩

/-- A call that leaves the receiver where it stands overtakes nothing. -/
theorem overtakes_of_cursor {x : Interaction Action Reply} {place : Nat}
    (stays : ∀ before, cursorAfter x before = before) : overtakes place x = false := by
  unfold overtakes
  split
  · cases stays none
  · rfl

namespace Hearing

variable {history longer : History} {sessions next : TerminalSessionRegistry} {task : Nat}
  {target : TerminalReattachTarget} {early : List TerminalServerMessage} {position : Nat}

/-- The log may grow while the browser's handler does something else. -/
private theorem waits (r : Hearing history sessions task target early position)
    (log : sessions.outputLog target.output <+: next.outputLog target.output)
    (stays : Control.cursor (own task longer) = Control.cursor (own task history))
    (same : handed (own task longer) = handed (own task history))
    (overtaken : ∀ i, Overtook (own task longer) i ↔ Overtook (own task history) i) :
    Hearing longer next task target early position := by
  obtain ⟨extra, hextra⟩ := log
  have hget : ∀ i, i < position → (next.outputLog target.output)[i]? =
      (sessions.outputLog target.output)[i]? := by
    intro i hi
    rw [← hextra, List.getElem?_append_left (Nat.lt_of_lt_of_le hi r.inLog)]
  constructor
  · exact stays.trans r.cursor
  · exact r.sent.trans ⟨extra, hextra⟩
  · exact r.started
  · rw [← hextra, List.length_append]
    exact r.inLog.trans (Nat.le_add_right ..)
  · intro i message hfrom hto hvalue
    rw [same, overtaken]
    exact r.heard i message hfrom hto (hget i hto ▸ hvalue)
  · intro message hmem
    rw [same] at hmem
    rcases r.came message hmem with hreplayed | ⟨i, hfrom, hto, hvalue, hnot⟩
    · exact Or.inl hreplayed
    · refine Or.inr ⟨i, hfrom, hto, (hget i hto).trans hvalue, ?_⟩
      rw [overtaken]
      exact hnot
  · exact fun i hover => r.passed i ((overtaken i).mp hover)
  · exact fun message hmem => same ▸ r.kept message hmem

/-- The receiver gets the next value. -/
private theorem takes (r : Hearing history sessions task target early position)
    {message : TerminalServerMessage}
    (value : (sessions.outputLog target.output)[position]? = some message)
    (log : next.outputLog target.output = sessions.outputLog target.output)
    (moves : Control.cursor (own task longer) = some (position + 1))
    (adds : handed (own task longer) = handed (own task history) ++ [message])
    (overtaken : ∀ i, Overtook (own task longer) i ↔ Overtook (own task history) i) :
    Hearing longer next task target early (position + 1) := by
  obtain ⟨hlt, -⟩ := List.getElem?_eq_some_iff.mp value
  constructor
  · exact moves
  · exact log ▸ r.sent
  · exact Nat.le_succ_of_le r.started
  · rw [log]
    exact hlt
  · intro i given hfrom hto hvalue
    rw [log] at hvalue
    rw [adds, overtaken]
    rcases Nat.lt_succ_iff_lt_or_eq.mp hto with hold | rfl
    · exact (r.heard i given hfrom hold hvalue).imp_left (List.mem_append_left _)
    · rw [value] at hvalue
      obtain rfl := Option.some.inj hvalue
      exact Or.inl (List.mem_append_right _ (List.mem_singleton_self message))
  · intro given hmem
    rw [adds] at hmem
    rw [log]
    rcases List.mem_append.mp hmem with hold | hnew
    · rcases r.came given hold with hreplayed | ⟨i, hfrom, hto, hvalue, hnot⟩
      · exact Or.inl hreplayed
      · exact Or.inr ⟨i, hfrom, Nat.lt_succ_of_lt hto, hvalue, fun h => hnot ((overtaken i).mp h)⟩
    · obtain rfl := List.mem_singleton.mp hnew
      refine Or.inr ⟨position, r.started, Nat.lt_succ_self position, value, fun h => ?_⟩
      exact absurd (r.passed position ((overtaken position).mp h)) (Nat.lt_irrefl position)
  · exact fun i hover => Nat.lt_succ_of_lt (r.passed i ((overtaken i).mp hover))
  · intro given hmem
    rw [adds]
    exact List.mem_append_left _ (r.kept given hmem)

/-- The receiver falls behind and overtakes what is no longer kept. -/
private theorem skips (r : Hearing history sessions task target early position) {after : Nat}
    (further : position < after) (bounded : after ≤ (sessions.outputLog target.output).length)
    (log : next.outputLog target.output = sessions.outputLog target.output)
    (moves : Control.cursor (own task longer) = some after)
    (same : handed (own task longer) = handed (own task history))
    (overtaken : ∀ i, Overtook (own task longer) i ↔
      Overtook (own task history) i ∨ position ≤ i ∧ i < after) :
    Hearing longer next task target early after := by
  constructor
  · exact moves
  · exact log ▸ r.sent
  · exact r.started.trans further.le
  · rw [log]
    exact bounded
  · intro i given hfrom hto hvalue
    rw [log] at hvalue
    rw [same, overtaken]
    by_cases hold : i < position
    · exact (r.heard i given hfrom hold hvalue).imp_right Or.inl
    · exact Or.inr (Or.inr ⟨Nat.le_of_not_lt hold, hto⟩)
  · intro given hmem
    rw [same] at hmem
    rw [log]
    rcases r.came given hmem with hreplayed | ⟨i, hfrom, hto, hvalue, hnot⟩
    · exact Or.inl hreplayed
    · refine Or.inr ⟨i, hfrom, hto.trans further, hvalue, fun h => ?_⟩
      rcases (overtaken i).mp h with hbefore | ⟨hle, -⟩
      · exact hnot hbefore
      · omega
  · intro i hover
    rcases (overtaken i).mp hover with hbefore | ⟨-, hlt⟩
    · exact (r.passed i hbefore).trans further
    · exact hlt
  · exact fun given hmem => same ▸ r.kept given hmem

end Hearing

section Runs

variable {config : TerminalSessionConfig} {nodes : NodeEnrollmentState}
  {history front back : History} {pool : ControlPool} {e : ControlEvent} {pty output : Nat}
  {sessionId : TerminalSessionId}

/-- A receiver that fell behind goes further on, and not past the end. -/
theorem AppStep.receivedLagged {task : Nat} {state next : AppState} {output position after : Nat}
    {idleChecks : Bool}
    (step : AppStep task state (.terminal (.selectAttached output position idleChecks))
      (.output .lagged after) next) :
    position < after ∧ after ≤ (state.sessions.outputLog output).length := by
  generalize hreply : AttachedWake.output .lagged after = reply at step
  cases step with
  | write hwrite => cases hwrite
  | read hread =>
    cases hread with
    | selectOutput output position given idleChecks channel received found got =>
      cases hreply
      have hlog : state.sessions.outputLog output = channel.log := by
        rw [TerminalSessionRegistry.outputLog, found]
        rfl
      rw [hlog]
      exact Broadcast.recv_lagged got
    | _ => cases hreply

/-- Right after the reattach the browser was handed the replay alone. -/
private theorem Reaches.hearing_start (h : Reaches config nodes (front ++ [e]) pool)
    {token : TerminalReconnectToken} {actorEmail : String} {target : TerminalReattachTarget}
    (accepted : e.interaction =
      ⟨.terminal (.reattach sessionId token actorEmail), some target⟩) :
    Hearing (front ++ [e]) e.after.sessions e.task target
      (e.before.sessions.outputLog target.output) target.outputNext := by
  have next := h.next rfl
  have act := next.act
  have howns : own e.task (front ++ [e]) = own e.task front ++ [e.interaction] :=
    Service.own_append_same ..
  obtain ⟨task, origin, action, reply, before, after, spawned⟩ := e
  cases accepted
  obtain ⟨user, -, -, hfresh, -⟩ := browser_only act rfl
  obtain ⟨session, -, -, -, hnext, houtputs⟩ := AppStep.reattach next.step
  have hlog : after.sessions.outputLog target.output = before.sessions.outputLog target.output := by
    rw [TerminalSessionRegistry.outputLog, houtputs, TerminalSessionRegistry.outputLog]
  have hhanded : handed (own task front) = [] := by
    rw [handed, List.flatMap_eq_nil_iff]
    exact fun x hx => stream_settled (hfresh x hx)
  have hreplay : handed (own task (front ++ [⟨task, origin,
      .terminal (.reattach sessionId token actorEmail), some target, before, after, spawned⟩])) =
      target.replay := by
    rw [howns, handed_append_one, hhanded]
    rfl
  have hnone : ∀ place, ¬Overtook (own task (front ++ [⟨task, origin,
      .terminal (.reattach sessionId token actorEmail), some target, before, after, spawned⟩]))
      place := by
    intro place hover
    rw [howns] at hover
    rcases overtook_append_one.mp hover with ⟨x, hx, hbefore⟩ | hlast
    · rw [overtakes_of_cursor (cursor_settled (hfresh x hx))] at hbefore
      cases hbefore
    · cases hlast
  constructor
  · rw [howns, cursor_append_one]
    rfl
  · exact hlog ▸ List.prefix_refl _
  · exact hnext.ge
  · rw [hlog]
    exact hnext.le
  · intro i message hfrom hto
    omega
  · intro message hmem
    exact Or.inl (hreplay ▸ hmem)
  · exact fun i hover => absurd hover (hnone i)
  · exact fun message hmem => hreplay.symm ▸ hmem

private theorem Reaches.hearing_own (h : Reaches config nodes (front ++ [e]) pool)
    {token : TerminalReconnectToken} {actorEmail : String} {target : TerminalReattachTarget}
    (accepted : Did (own e.task front) (.terminal (.reattach sessionId token actorEmail))
      (some target))
    {user : String} (browser : e.origin = .terminalSocket user)
    {early : List TerminalServerMessage} {position : Nat}
    (r : Hearing front e.before.sessions e.task target early position) :
    ∃ after, Hearing (front ++ [e]) e.after.sessions e.task target early after := by
  have next := h.next rfl
  have howns : own e.task (front ++ [e]) = own e.task front ++ [e.interaction] :=
    Service.own_append_same ..
  have hlog := next.step.outputLog (next.ledger.reattached_channel accepted)
  rcases h.reattached_call accepted browser with
    ⟨hcursor, hstream⟩ | ⟨place, idle, received, after, hplace, hselect⟩
  · refine ⟨position, r.waits (hlog ▸ List.prefix_append ..) ?_ ?_ ?_⟩
    · rw [howns, cursor_append_one, hcursor]
    · rw [howns, handed_append_one, hstream, List.append_nil]
    · intro i
      rw [howns, overtook_append_one, overtakes_of_cursor hcursor]
      exact or_iff_left Bool.false_ne_true
  · obtain rfl : position = place := Option.some.inj (r.cursor.symm.trans hplace)
    obtain ⟨task, origin, action, reply, before, later, spawned⟩ := e
    cases hselect
    have hsame : later.sessions.outputLog target.output =
        before.sessions.outputLog target.output := hlog.trans (List.append_nil _)
    cases received with
    | value message =>
      obtain ⟨hvalue, rfl⟩ := AppStep.received next.step
      refine ⟨position + 1, r.takes hvalue hsame ?_ ?_ ?_⟩
      · rw [howns, cursor_append_one]
        rfl
      · rw [howns, handed_append_one]
        rfl
      · intro i
        rw [howns, overtook_append_one]
        exact or_iff_left Bool.false_ne_true
    | lagged =>
      obtain ⟨hfurther, hbounded⟩ := AppStep.receivedLagged next.step
      refine ⟨after, r.skips hfurther hbounded hsame ?_ ?_ ?_⟩
      · rw [howns, cursor_append_one]
        rfl
      · rw [howns, handed_append_one]
        exact List.append_nil _
      · intro i
        rw [howns, overtook_append_one]
        refine or_congr_right ?_
        change (decide (position ≤ i) && decide (i < after)) = true ↔ _
        rw [Bool.and_eq_true, decide_eq_true_eq, decide_eq_true_eq]
    | closed =>
      obtain rfl := AppStep.receivedClosed next.step
      refine ⟨after, r.waits (hsame ▸ List.prefix_refl _) ?_ ?_ ?_⟩
      · rw [howns, cursor_append_one, r.cursor]
        rfl
      · rw [howns, handed_append_one]
        exact List.append_nil _
      · intro i
        rw [howns, overtook_append_one]
        exact or_iff_left Bool.false_ne_true

/-- A reattached browser was handed the replay and what its receiver has passed since. -/
theorem Reaches.hearing (h : Reaches config nodes history pool)
    (hsplit : history = front ++ e :: back) {token : TerminalReconnectToken}
    {actorEmail : String} {target : TerminalReattachTarget}
    (accepted : e.interaction =
      ⟨.terminal (.reattach sessionId token actorEmail), some target⟩) :
    ∃ position, Hearing history pool.shared.sessions e.task target
      (e.before.sessions.outputLog target.output) position := by
  refine h.along (I := fun history state => ∀ back, history = front ++ e :: back →
    ∃ position, Hearing history state.sessions e.task target
      (e.before.sessions.outputLog target.output) position) ?_ ?_ back hsplit
  · intro back hnil
    simp at hnil
  · intro early last pool hrun ih back heq
    rcases List.eq_nil_or_concat back with rfl | ⟨later, final, rfl⟩
    · obtain ⟨rfl, hlast⟩ := List.append_inj' heq rfl
      obtain rfl := List.singleton_inj.mp hlast
      exact ⟨target.outputNext, hrun.hearing_start accepted⟩
    · obtain ⟨rfl, hlast⟩ := List.append_inj' (heq.trans (by simp) :
        early ++ [last] = (front ++ e :: later) ++ [final]) rfl
      obtain rfl := List.singleton_inj.mp hlast
      obtain ⟨position, r⟩ := ih later rfl
      have hmem : e ∈ front ++ e :: later := List.mem_append_right _ (List.mem_cons_self ..)
      have hdid : Did (own e.task (front ++ e :: later))
          (.terminal (.reattach sessionId token actorEmail)) (some target) :=
        Service.mem_own.mpr ⟨e, hmem, rfl, accepted⟩
      by_cases htask : last.task = e.task
      · obtain ⟨user, browser⟩ := hrun.browser_of_reattach heq ⟨_, _, _, accepted⟩
        have horigin := browser last (List.mem_append_right _ (List.mem_singleton_self last)) htask
        rw [← htask] at r hdid ⊢
        exact hrun.hearing_own hdid horigin r
      · have next := hrun.next rfl
        have hlog := next.step.outputLog (next.ledger.reattached_channel hdid)
        have hsame : own e.task ((front ++ e :: later) ++ [last]) =
            own e.task (front ++ e :: later) := Service.own_append_other _ htask
        exact ⟨position, r.waits (hlog ▸ List.prefix_append ..) (by rw [hsame]) (by rw [hsame])
          (fun i => by rw [hsame])⟩

/-- A letter that stands at most once in a list has one place there. -/
private theorem place_unique {α : Type} {p : α → Bool} {l : List α} {i j : Nat} {a b : α}
    (once : (l.filter p).length ≤ 1) (hi : l[i]? = some a) (hj : l[j]? = some b)
    (ha : p a = true) (hb : p b = true) : ¬i < j := by
  intro hlt
  have hfirst : a ∈ (l.take j).filter p := by
    refine List.mem_filter.mpr ⟨List.mem_of_getElem? (i := i) ?_, ha⟩
    rw [List.getElem?_take_of_lt hlt]
    exact hi
  have hsecond : b ∈ (l.drop j).filter p := by
    refine List.mem_filter.mpr ⟨List.mem_of_getElem? (i := 0) ?_, hb⟩
    rw [List.getElem?_drop]
    exact hj
  have hboth : (l.filter p).length =
      ((l.take j).filter p).length + ((l.drop j).filter p).length := by
    rw [← List.length_append, ← List.filter_append, List.take_append_drop]
  have hone := List.length_pos_of_mem hfirst
  have htwo := List.length_pos_of_mem hsecond
  omega

/-- What the reader of a session that has ended was told is on the channel. -/
private theorem Reaches.exits_sent (h : Reaches config nodes history pool) {opener : Nat}
    {request : TerminalSessionInsert} (opened : OpenedBy history opener request output)
    (backend : request.backend = .local pty)
    (finished : (readerCalls pty request.sessionId output history).getLast? =
      some ⟨.terminal (.dropSender output), ()⟩) :
    (told (readerCalls pty request.sessionId output history)).map
      (exitMessage request.sessionId) = pool.shared.sessions.sentExits output := by
  have hnone : telling (readerCalls pty request.sessionId output history) = none := by
    rw [telling, finished]
    rfl
  rw [h.exits_eq opened backend, hnone]
  exact List.append_nil _

/-- A browser that has reattached to a local session and has received all there is was handed an
    Exited message exactly when the replay held one or the reader had yet to broadcast it. -/
theorem exit_heard_iff (h : Reaches config nodes history pool)
    (rejoins : Rejoins history front back e pty sessionId output)
    (drained : Drained history pool.shared.sessions e.task pty sessionId output) :
    HearsExit (own e.task history) sessionId ↔
      ExitReaches history pool.shared.sessions e pty sessionId output := by
  obtain ⟨opener, request, hopened, rfl, backend⟩ := rejoins.opened
  obtain ⟨token, actorEmail, target, accepted⟩ := rejoins.accepted
  obtain ⟨position, r⟩ := h.hearing rejoins.split accepted
  have next := h.next rejoins.split
  obtain ⟨session, found, hreplay, houtput⟩ : ∃ session,
      e.before.sessions.get request.sessionId = some session ∧
      target.replay = session.replay.items ∧ target.output = session.output := by
    have step := next.step
    obtain ⟨task, origin, action, reply, before, after, spawned⟩ := e
    cases accepted
    obtain ⟨session, found, hreplay, houtput, -⟩ := AppStep.reattach step
    exact ⟨session, found, hreplay, houtput⟩
  -- the session that is found is the one that was opened over the channel
  obtain ⟨opener', request', given, hearly, hid, hidentity⟩ := next.ledger.tracked found
  obtain ⟨rfl, rfl, rfl⟩ := h.ledger.unique_id
    (hearly.later (rejoins.split ▸ own_isPrefix opener' front (e :: back))) hopened hid
  simp only [TrackedTerminalSession.identity, TerminalSessionInsert.identity,
    Prod.mk.injEq] at hidentity
  obtain rfl : target.output = given := houtput.trans hidentity.2.1
  have hsent := h.exits_sent hopened backend drained.finished
  have honce := h.sentExits_le hopened backend
  have hposition : position = (pool.shared.sessions.outputLog target.output).length :=
    Option.some.inj (r.cursor.symm.trans drained.received)
  obtain ⟨late, hlate⟩ := r.sent
  have hparts : pool.shared.sessions.sentExits target.output =
      e.before.sessions.sentExits target.output ++ late.filter (·.isExited) := by
    rw [TerminalSessionRegistry.sentExits, ← hlate, List.filter_append]
    rfl
  constructor
  · rintro ⟨exit, hheard⟩
    rcases r.came _ hheard with hreplayed | ⟨place, hfrom, hto, hvalue, hnot⟩
    · exact Or.inl ⟨session, exit, found, hreplay ▸ hreplayed⟩
    · have hexit : TerminalServerMessage.exited request'.sessionId exit ∈
          late.filter (·.isExited) := by
        refine List.mem_filter.mpr ⟨?_, rfl⟩
        rw [← hlate, List.getElem?_append_right hfrom] at hvalue
        exact List.mem_of_getElem? hvalue
      have hpos := List.length_pos_of_mem hexit
      rw [hparts, List.length_append] at honce
      refine Or.inr ⟨?_, ?_, ?_⟩
      · intro hnone
        rw [hnone, hparts] at hsent
        rw [(List.append_eq_nil_iff.mp hsent.symm).2] at hpos
        cases hpos
      · exact List.eq_nil_of_length_eq_zero (by omega)
      · intro other message hother hexited
        have hwhole := h.sentExits_le hopened backend
        have hafter := place_unique hwhole hvalue hother rfl hexited
        have hbefore := place_unique hwhole hother hvalue hexited rfl
        obtain rfl : place = other := by omega
        exact hnot
  · rintro (⟨tracked, exit, htracked, hmem⟩ | ⟨htold, hnone, hnot⟩)
    · rw [found] at htracked
      cases htracked
      exact ⟨exit, r.kept _ (hreplay ▸ hmem)⟩
    · obtain ⟨exit, hexit⟩ := List.exists_mem_of_ne_nil _ htold
      have hmessage : exitMessage request'.sessionId exit ∈ late.filter (·.isExited) := by
        rw [hnone, List.nil_append] at hparts
        rw [← hparts, ← hsent]
        exact List.mem_map_of_mem hexit
      obtain ⟨index, hindex⟩ := List.getElem?_of_mem (List.mem_filter.mp hmessage).1
      have hvalue : (pool.shared.sessions.outputLog target.output)[
          (e.before.sessions.outputLog target.output).length + index]? =
          some (exitMessage request'.sessionId exit) := by
        rw [← hlate, List.getElem?_append_right (Nat.le_add_right ..), Nat.add_sub_cancel_left]
        exact hindex
      obtain ⟨hlt, -⟩ := List.getElem?_eq_some_iff.mp hvalue
      rcases r.heard _ _ (Nat.le_add_right ..) (hposition ▸ hlt) hvalue with hheard | hover
      · exact ⟨_, hheard⟩
      · exact absurd hover (hnot _ _ hvalue rfl)

end Runs

/-- The shell of Alice's session exits, and its reader reports it and ends. -/
private def shellExits : List (Label Arrival Choice) :=
  [.move 1 .none, .move 1 (.read (.ok [])), .move 1 (.child (.exited (some 0))), .move 1 .none,
    .move 1 .none]

/-- Alice's second browser is told that it is reattached and goes on with its loop. -/
private def greeted : List (Label Arrival Choice) :=
  [.move 2 (.decide true), .move 2 .none, .move 2 .none]

/-- The second browser reattaches before the shell exits. -/
private def exitAfter : History :=
  calls defaultTerminalSessionConfig ⟨[], [], []⟩
    (localOpening 0 "alice" "t0" ++ secondBrowser ++ greeted ++ shellExits ++
      [.move 2 .channel, .move 2 (.clock 1), .move 2 .none, .move 2 (.decide true)])

/-- The shell exits while no browser is attached. -/
private def exitBetween : History :=
  calls defaultTerminalSessionConfig ⟨[], [], []⟩
    (localOpening 0 "alice" "t0" ++ firstDisconnects ++ shellExits ++ secondBrowser ++ greeted)

theorem KeepsUp.not_overtook {past : Past} (h : KeepsUp past) (place : Nat) :
    ¬Overtook past place := by
  rintro ⟨x, hx, hover⟩
  unfold overtakes at hover
  split at hover
  · exact h _ _ _ _ hx
  · cases hover

theorem exit_heard_once : ∃ pool e,
    Reaches defaultTerminalSessionConfig ⟨[], [], []⟩ exitAfter pool ∧
    Rejoins exitAfter (exitAfter.take 13) (exitAfter.drop 14) e 0 (sessionIdOf 1) 0 ∧
    Drained exitAfter pool.shared.sessions e.task 0 (sessionIdOf 1) 0 ∧
    HearsExit (own e.task exitAfter) (sessionIdOf 1) := by
  obtain ⟨pool, h⟩ : ∃ pool, Reaches defaultTerminalSessionConfig ⟨[], [], []⟩ exitAfter pool :=
    reaches_calls rfl
  obtain ⟨e, he, htask, haccepted, hunsent⟩ : ∃ e, exitAfter[13]? = some e ∧ e.task = 2 ∧
      Reattaches (sessionIdOf 1) e ∧ e.before.sessions.sentExits 0 = [] :=
    ⟨_, rfl, rfl, ⟨_, _, _, rfl⟩, rfl⟩
  have rejoins : Rejoins exitAfter (exitAfter.take 13) (exitAfter.drop 14) e 0
      (sessionIdOf 1) 0 :=
    ⟨split_at he, ⟨0, _, List.mem_of_getElem? (i := 3) rfl, rfl, rfl⟩, haccepted⟩
  have drained : Drained exitAfter pool.shared.sessions e.task 0 (sessionIdOf 1) 0 := by
    rw [h.shared_eq, htask]
    exact ⟨rfl, rfl⟩
  have htold : told (readerCalls 0 (sessionIdOf 1) 0 exitAfter) = [⟨some 0⟩] := rfl
  have keepsUp : KeepsUp (own 2 exitAfter) := keepsUp_of_all rfl
  refine ⟨pool, e, h, rejoins, drained, (exit_heard_iff h rejoins drained).mpr (Or.inr ?_)⟩
  refine ⟨?_, hunsent, fun place message _ _ => ?_⟩
  · rw [htold]
    exact List.cons_ne_nil _ _
  · rw [htask]
    exact keepsUp.not_overtook place

/-- A shell exits while no browser is attached: the browser that reattaches afterwards has
    received all there is, and nothing of it is an Exited message. -/
theorem exit_lost : ∃ pool e,
    Reaches defaultTerminalSessionConfig ⟨[], [], []⟩ exitBetween pool ∧
    Rejoins exitBetween (exitBetween.take 20) (exitBetween.drop 21) e 0 (sessionIdOf 1) 0 ∧
    Drained exitBetween pool.shared.sessions e.task 0 (sessionIdOf 1) 0 ∧
    told (readerCalls 0 (sessionIdOf 1) 0 (exitBetween.take 20)) = [⟨some 0⟩] ∧
    ¬HearsExit (own e.task exitBetween) (sessionIdOf 1) := by
  obtain ⟨pool, h⟩ : ∃ pool, Reaches defaultTerminalSessionConfig ⟨[], [], []⟩ exitBetween pool :=
    reaches_calls rfl
  obtain ⟨e, he, htask, haccepted⟩ : ∃ e, exitBetween[20]? = some e ∧ e.task = 2 ∧
      Reattaches (sessionIdOf 1) e := ⟨_, rfl, rfl, _, _, _, rfl⟩
  have hnothing : handed (own 2 exitBetween) = [] := rfl
  refine ⟨pool, e, h, ⟨split_at he, ⟨0, _, List.mem_of_getElem? (i := 3) rfl, rfl, rfl⟩,
    haccepted⟩, ?_, rfl, ?_⟩
  · rw [h.shared_eq, htask]
    exact ⟨rfl, rfl⟩
  · rintro ⟨exit, hmem⟩
    rw [htask, hnothing] at hmem
    cases hmem

end Sunbolt.Control
