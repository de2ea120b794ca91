/- Module: Sunbolt/Control/IdleExpiry
   scope: sunbolt-control/src/terminal/mod.rs, sunbolt-control/src/terminal/session_registry.rs
   digest: When a detached session that expires as idle has really been idle. -/

import Sunbolt.Control.IdleTimeout
import Sunbolt.Control.TouchOrder

set_option autoImplicit false
set_option relaxedAutoImplicit false

namespace Sunbolt.Control

open Sunbolt.Library
open Sunbolt.Protocol (TerminalSessionId TerminalReconnectToken TerminalServerMessage)
open Sunbolt.Terminal (TerminalSessionState)

/-- The calls of a run with the time of each; the clock never goes back. -/
structure Timed (stamped : List (Nat × ControlEvent)) : Prop where
  made : ∀ p ∈ stamped, MadeAt p.1 p.2
  forward : stamped.Pairwise (fun p q => p.1 ≤ q.1)

def callsOf (stamped : List (Nat × ControlEvent)) : History := stamped.map Prod.snd

/-- The calls that set the last activity of a session. -/
inductive Refreshes (sessionId : TerminalSessionId) (e : ControlEvent) : Prop
  | insert (request : TerminalSessionInsert) (output : Nat)
      (call : e.interaction = ⟨.terminal (.insert request), .ok output⟩)
      (named : request.sessionId = sessionId)
  | reattach (token : TerminalReconnectToken) (actorEmail : String)
      (target : TerminalReattachTarget)
      (call : e.interaction = ⟨.terminal (.reattach sessionId token actorEmail), some target⟩)
  | touch (call : e.action = .terminal (.touch sessionId))

/-- An attach or a reattach, an input of a browser that is attached, or an output of the
    session. -/
inductive Activity (opener : Nat) (request : TerminalSessionInsert) (output : Nat)
    (e : ControlEvent) : Prop
  | opened (call : e.interaction = ⟨.terminal (.insert request), .ok output⟩)
  | reattached (token : TerminalReconnectToken) (actorEmail : String)
      (target : TerminalReattachTarget)
      (call : e.interaction =
        ⟨.terminal (.reattach request.sessionId token actorEmail), some target⟩)
  | input (next : Nat) (idleChecks : Bool) (data : String)
      (call : e.interaction = ⟨.terminal (.selectAttached output next idleChecks),
        .incoming (some (.text (.ok (.input request.sessionId data))))⟩)
  | openerInput (channel : Nat) (data : String) (byOpener : e.task = opener)
      (call : e.interaction = ⟨.agent (.selectEvent channel),
        .incoming (some (.text (.ok (.input request.sessionId data))))⟩)
  | output (data : String) (message : TerminalServerMessage)
      (call : e.interaction = ⟨.terminal (.recordOutput request.sessionId data), some message⟩)

/-- A drain that finds the session Detached and idle for the timeout, and so removes it. -/
structure IdleDrain (idleTimeout now : Nat) (drain : ControlEvent)
    (sessionId : TerminalSessionId) (session : TrackedTerminalSession) : Prop where
  drains : ∃ maxDuration, drain.action = .terminal (.drainExpired maxDuration idleTimeout)
  found : drain.before.sessions.get sessionId = some session
  detached : session.state = .detached
  idle : idleTimeout ≤ now - session.lastActivity

/-- A drain that finds the session Detached. -/
def DrainsDetached (sessionId : TerminalSessionId) (drain : ControlEvent) : Prop :=
  (∃ maxDuration idleTimeout,
    drain.action = .terminal (.drainExpired maxDuration idleTimeout)) ∧
  drain.before.sessions.state sessionId = some .detached

/-- Input and output of the session go through handlers that wait on its channel: the handler
    that opened it remotely is given no input, every output is taken off the channel, and whoever
    takes something makes its next call, all before a drain finds the session Detached. -/
structure Attended (history : History) (opener : Nat) (request : TerminalSessionInsert)
    (output : Nat) : Prop where
  inputs : ∀ e ∈ history, ∀ channel data, e.task = opener →
    e.interaction ≠ ⟨.agent (.selectEvent channel),
      .incoming (some (.text (.ok (.input request.sessionId data))))⟩
  outputs : ∀ front recorded middle drain back data message,
    history = front ++ recorded :: (middle ++ drain :: back) →
    recorded.interaction = ⟨.terminal (.recordOutput request.sessionId data), some message⟩ →
    DrainsDetached request.sessionId drain →
    ∃ take ∈ middle, takenOn take.interaction = some output
  prompt : ∀ front take middle drain back,
    history = front ++ take :: (middle ++ drain :: back) →
    takenOn take.interaction = some output → DrainsDetached request.sessionId drain →
    ∃ e ∈ middle, e.task = take.task

section Clock

variable {now : Nat} {e : ControlEvent} {sessionId : TerminalSessionId}
  {session : TrackedTerminalSession}

private theorem performTerminal_of_perform {task : Nat} {state after : AppState}
    {action : TerminalAction} {choice : Choice} {reply : TerminalReply action}
    (h : perform task state (.terminal action) choice = some (reply, after)) :
    performTerminal state.sessions action choice = some (reply, after.sessions) := by
  obtain ⟨⟨given, sessions⟩, hterminal, heq⟩ := Option.map_eq_some_iff.mp h
  cases heq
  exact hterminal

private theorem refreshed_by_insert {registry after : TerminalSessionRegistry}
    {request : TerminalSessionInsert} {output : Nat} {choice : Choice}
    (reads : choice.readsClock now = true)
    (h : performTerminal registry (.insert request) choice = some (.ok output, after))
    (found : after.get request.sessionId = some session) : session.lastActivity = now := by
  cases choice with
  | clockToken given token =>
    obtain rfl : given = now := eq_of_beq reads
    rcases registry.insertBackend_cases request given token with ⟨error, heq⟩ | heq
    · simp only [performTerminal, heq, Option.some.injEq, Prod.mk.injEq] at h
      cases h.1
    · simp only [performTerminal, heq, Option.some.injEq, Prod.mk.injEq] at h
      rw [← h.2, TerminalSessionRegistry.get_insert, if_pos rfl] at found
      cases found
      rfl
  | _ => cases h

private theorem refreshed_by_reattach {registry after : TerminalSessionRegistry}
    {token : TerminalReconnectToken} {actorEmail : String} {target : TerminalReattachTarget}
    {choice : Choice} (reads : choice.readsClock now = true)
    (h : performTerminal registry (.reattach sessionId token actorEmail) choice =
      some (some target, after))
    (found : after.get sessionId = some session) : session.lastActivity = now := by
  cases choice with
  | clockToken given fresh =>
    obtain rfl : given = now := eq_of_beq reads
    rcases registry.reattach_cases sessionId token actorEmail given fresh with
      heq | ⟨tracked, htracked, -, -, -, heq⟩
    · simp only [performTerminal, heq, Option.some.injEq, Prod.mk.injEq] at h
      cases h.1
    · simp only [performTerminal, heq, Option.some.injEq, Prod.mk.injEq] at h
      rw [← h.2, TerminalSessionRegistry.get_modify, if_pos rfl, htracked] at found
      cases found
      rfl
  | _ => cases h

private theorem refreshed_by_touch {registry after : TerminalSessionRegistry} {choice : Choice}
    {reply : Unit} (reads : choice.readsClock now = true)
    (h : performTerminal registry (.touch sessionId) choice = some (reply, after))
    (found : after.get sessionId = some session) : session.lastActivity = now := by
  cases choice with
  | clock given =>
    obtain rfl : given = now := eq_of_beq reads
    cases h
    rw [TerminalSessionRegistry.get_touch, if_pos rfl] at found
    obtain ⟨before, -, rfl⟩ := Option.map_eq_some_iff.mp found
    rfl
  | _ => cases h

/-- A call that refreshes a session leaves its own time as the session's last activity. -/
theorem MadeAt.refreshed (made : MadeAt now e) (refreshes : Refreshes sessionId e)
    (found : e.after.sessions.get sessionId = some session) : session.lastActivity = now := by
  obtain ⟨choice, reads, hperform⟩ := made
  obtain ⟨task, origin, action, reply, before, after, spawned⟩ := e
  cases refreshes with
  | insert request output call named =>
    cases call
    subst named
    exact refreshed_by_insert reads (performTerminal_of_perform hperform) found
  | reattach token actorEmail target call =>
    cases call
    exact refreshed_by_reattach reads (performTerminal_of_perform hperform) found
  | touch call =>
    cases call
    exact refreshed_by_touch reads (performTerminal_of_perform hperform) found

end Clock

section Runs

variable {config : TerminalSessionConfig} {nodes : NodeEnrollmentState}
  {stamped front back : List (Nat × ControlEvent)} {pool : ControlPool}
  {sessionId : TerminalSessionId} {session : TrackedTerminalSession}

theorem callsOf_append (front back : List (Nat × ControlEvent)) :
    callsOf (front ++ back) = callsOf front ++ callsOf back := List.map_append

theorem callsOf_cons (p : Nat × ControlEvent) (back : List (Nat × ControlEvent)) :
    callsOf (p :: back) = p.2 :: callsOf back := rfl

theorem Timed.of_append (timed : Timed (front ++ back)) : Timed front where
  made p hp := timed.made p (List.mem_append_left _ hp)
  forward := (List.pairwise_append.mp timed.forward).1

private theorem lastActivity_moveTo (session : TrackedTerminalSession)
    (state : TerminalSessionState) :
    (session.moveTo state).lastActivity = session.lastActivity := by
  rw [TrackedTerminalSession.moveTo]
  split_ifs <;> rfl

/-- No other call changes the last activity of a session. -/
private theorem Next.keeps_lastActivity {past : History} {e : ControlEvent} (next : Next past e)
    (quiet : ¬Refreshes sessionId e) {after : TrackedTerminalSession}
    (found : e.before.sessions.get sessionId = some session)
    (left : e.after.sessions.get sessionId = some after) :
    after.lastActivity = session.lastActivity := by
  have same : ∀ before, e.before.sessions.get sessionId = some before →
      before.lastActivity = session.lastActivity := by
    intro before hbefore
    rw [Option.some.inj (hbefore.symm.trans found)]
  rcases next.step.writes with hsame | ⟨called, given, hcall, write⟩
  · rw [hsame] at left
    exact same _ left
  · generalize e.after.sessions = sessions at write left
    have step := write.session left
    cases step with
    | same _ hbefore => exact same _ hbefore
    | insert request now token named => exact absurd (.insert request _ hcall named) quiet
    | setState state before hbefore =>
      rw [lastActivity_moveTo]
      exact same before hbefore
    | reattach token actorEmail now fresh before given hbefore =>
      cases write with
      | reattach _ _ _ now' token' =>
        rcases e.before.sessions.reattach_cases sessionId token actorEmail now' token' with
          heq | ⟨tracked, -, -, -, -, heq⟩
        · rw [heq] at left
          exact same _ left
        · rw [heq] at hcall
          exact absurd (.reattach token actorEmail _ hcall) quiet
    | touch now before hbefore =>
      exact absurd (.touch (congrArg Interaction.action hcall)) quiet
    | setSize size before hbefore => exact same before hbefore
    | recordOutput data before given hbefore => exact same before hbefore
    | rememberServerMessage message before hbefore named => exact same before hbefore

/-- The last activity of a session is no earlier than any call that refreshed it. -/
theorem Timed.refreshed_le (timed : Timed stamped)
    (h : Reaches config nodes (callsOf stamped) pool) {p : Nat × ControlEvent} (hp : p ∈ stamped)
    (refreshes : Refreshes sessionId p.2)
    (found : pool.shared.sessions.get sessionId = some session) : p.1 ≤ session.lastActivity := by
  induction stamped using List.reverseRecOn generalizing pool session with
  | nil => cases hp
  | append_singleton earlier last ih =>
    rw [callsOf_append] at h
    obtain ⟨before, hfront, hbefore⟩ := h.front rfl
    have next := h.next rfl
    have hshared : pool.shared = last.2.after := h.shared_last
    rw [hshared] at found
    have hlast : last ∈ earlier ++ [last] := List.mem_append_right _ (List.mem_singleton_self last)
    by_cases hrefreshes : Refreshes sessionId last.2
    · rw [(timed.made last hlast).refreshed hrefreshes found]
      rcases List.mem_append.mp hp with hold | hnew
      · exact (List.pairwise_append.mp timed.forward).2.2 p hold last (List.mem_singleton_self last)
      · rw [List.mem_singleton.mp hnew]
    · have hold : p ∈ earlier := by
        rcases List.mem_append.mp hp with hold | hnew
        · exact hold
        · rw [List.mem_singleton.mp hnew] at refreshes
          exact absurd refreshes hrefreshes
      cases hfound : last.2.before.sessions.get sessionId with
      | none =>
        obtain ⟨request, output, now, token, inserts, named, -⟩ :=
          next.inserted_of_untracked hfound found
        exact absurd (.insert request output inserts named) hrefreshes
      | some tracked =>
        rw [next.keeps_lastActivity hrefreshes hfound found]
        exact ih timed.of_append hfront hold (hbefore ▸ hfound)

section Expiry

variable {opener output now idleTimeout : Nat} {request : TerminalSessionInsert}
  {drain : ControlEvent}

private theorem exists_split_of_mem_callsOf {e : ControlEvent} (he : e ∈ callsOf stamped) :
    ∃ early t late, stamped = early ++ (t, e) :: late := by
  obtain ⟨⟨t, event⟩, hp, rfl⟩ := List.mem_map.mp he
  obtain ⟨early, late, hsplit⟩ := List.append_of_mem hp
  exact ⟨early, t, late, hsplit⟩

/-- Whoever takes something on the channel of the session has touched it before the drain. -/
private theorem Attended.touched (attended : Attended (callsOf stamped) opener request output)
    (h : Reaches config nodes (callsOf stamped) pool)
    (opened : OpenedBy (callsOf stamped) opener request output)
    {early late : List (Nat × ControlEvent)} {take : Nat × ControlEvent}
    (hsplit : stamped = early ++ take :: (late ++ (now, drain) :: back))
    (took : takenOn take.2.interaction = some output)
    (drains : DrainsDetached request.sessionId drain) :
    ∃ q ∈ late, Refreshes request.sessionId q.2 := by
  have hcalls : callsOf stamped =
      callsOf early ++ take.2 :: (callsOf late ++ drain :: callsOf back) := by
    rw [hsplit, callsOf_append, callsOf_cons, callsOf_append, callsOf_cons]
  have goesOn := attended.prompt _ _ _ _ _ hcalls took drains
  obtain ⟨touch, htouch, first, named, hopened, haction⟩ := h.touches_next hcalls took goesOn
  obtain ⟨-, rfl⟩ := h.ledger.unique_output hopened opened
  obtain ⟨q, hq, rfl⟩ := List.mem_map.mp htouch
  exact ⟨q, hq, .touch haction⟩

/-- Every activity of an attended session is followed by a call that refreshes it. -/
private theorem Attended.refreshed (attended : Attended (callsOf stamped) opener request output)
    (h : Reaches config nodes (callsOf stamped) pool)
    (opened : OpenedBy (callsOf stamped) opener request output)
    {early late : List (Nat × ControlEvent)} {p : Nat × ControlEvent}
    (hsplit : stamped = early ++ p :: (late ++ (now, drain) :: back))
    (activity : Activity opener request output p.2)
    (drains : DrainsDetached request.sessionId drain) :
    ∃ q ∈ p :: late, Refreshes request.sessionId q.2 := by
  cases activity with
  | opened call => exact ⟨p, List.mem_cons_self .., .insert request output call rfl⟩
  | reattached token actorEmail target call =>
    exact ⟨p, List.mem_cons_self .., .reattach token actorEmail target call⟩
  | input next idleChecks data call =>
    obtain ⟨q, hq, refreshes⟩ := attended.touched h opened hsplit (by rw [call]; rfl) drains
    exact ⟨q, List.mem_cons_of_mem p hq, refreshes⟩
  | openerInput channel data byOpener call =>
    have hmem : p.2 ∈ callsOf stamped := by
      rw [hsplit, callsOf_append]
      exact List.mem_append_right _ (List.mem_cons_self ..)
    exact absurd call (attended.inputs p.2 hmem channel data byOpener)
  | output data message call =>
    have hcalls : callsOf stamped =
        callsOf early ++ p.2 :: (callsOf late ++ drain :: callsOf back) := by
      rw [hsplit, callsOf_append, callsOf_cons, callsOf_append, callsOf_cons]
    obtain ⟨take, htake, took⟩ := attended.outputs _ _ _ _ _ _ _ hcalls call drains
    obtain ⟨waits, t, rest, rfl⟩ := exists_split_of_mem_callsOf htake
    have hlater :
        stamped = (early ++ p :: waits) ++ (t, take) :: (rest ++ (now, drain) :: back) := by
      rw [hsplit]
      simp
    obtain ⟨q, hq, refreshes⟩ := attended.touched h opened hlater took drains
    refine ⟨q, List.mem_cons_of_mem p (List.mem_append_right _ ?_), refreshes⟩
    exact List.mem_cons_of_mem _ hq

/-- A drain that removes a Detached session as idle finds no attach, input or output of it in
    the timeout before, as long as the session is attended. -/
theorem idle_expiry_respects_activity (h : Reaches config nodes (callsOf stamped) pool)
    (timed : Timed stamped) (opened : OpenedBy (callsOf stamped) opener request output)
    (attended : Attended (callsOf stamped) opener request output)
    (hsplit : stamped = front ++ (now, drain) :: back)
    (expires : IdleDrain idleTimeout now drain request.sessionId session) :
    ∀ p ∈ front, Activity opener request output p.2 → idleTimeout ≤ now - p.1 := by
  intro p hp activity
  obtain ⟨early, late, rfl⟩ := List.append_of_mem hp
  have hlater : stamped = early ++ p :: (late ++ (now, drain) :: back) := by
    rw [hsplit]
    simp
  have drains : DrainsDetached request.sessionId drain := by
    obtain ⟨maxDuration, haction⟩ := expires.drains
    refine ⟨⟨maxDuration, idleTimeout, haction⟩, ?_⟩
    rw [TerminalSessionRegistry.state, expires.found, Option.map_some, expires.detached]
  obtain ⟨q, hq, refreshes⟩ := attended.refreshed h opened hlater activity drains
  have timedFront : Timed (early ++ p :: late) := by
    rw [hsplit] at timed
    exact timed.of_append
  have hforward : p.1 ≤ q.1 := by
    rcases List.mem_cons.mp hq with rfl | hlate
    · exact le_rfl
    · have hpairs := (List.pairwise_append.mp timedFront.forward).2.1
      exact (List.pairwise_cons.mp hpairs).1 q hlate
  have hactive : q.1 ≤ session.lastActivity := by
    rw [hsplit, callsOf_append] at h
    obtain ⟨before, hfront, hbefore⟩ := h.front rfl
    have found : before.shared.sessions.get request.sessionId = some session := by
      rw [hbefore]
      exact expires.found
    exact timedFront.refreshed_le hfront (List.mem_append_right _ hq) refreshes found
  have hidle := expires.idle
  omega

end Expiry

end Runs

/-! Runs along labels that say when each call is made. -/

/-- Every move along the labels reads the clock at its own time. -/
def readAlong : List Nat → List (Label Arrival Choice) → Bool
  | times, .arrive _ :: labels => readAlong times labels
  | now :: times, .move _ choice :: labels => choice.readsClock now && readAlong times labels
  | _, _ => true

private theorem made_along {config : TerminalSessionConfig} {labels : List (Label Arrival Choice)}
    {pool next : ControlPool} {history : History} {times : List Nat}
    (hrun : ((controlPlane config).machine entry).run pool labels = some (next, history))
    (reads : readAlong times labels = true) : ∀ p ∈ times.zip history, MadeAt p.1 p.2 := by
  induction labels generalizing pool history times with
  | nil =>
    cases hrun
    simp
  | cons label labels ih =>
    obtain ⟨middle, made, later, hstep, hrest, rfl⟩ := (Machine.run_cons _).mp hrun
    rcases (controlPlane config).machine_step entry hstep with ⟨e, rfl, rfl, -⟩ |
      ⟨task, choice, origin, action, resume, out, rfl, -, hperform, rfl, -⟩
    · exact ih hrest (by simpa [readAlong] using reads)
    · cases times with
      | nil => simp
      | cons now times =>
        rw [readAlong, Bool.and_eq_true] at reads
        rw [List.singleton_append, List.zip_cons_cons]
        refine List.forall_mem_cons.mpr ⟨⟨choice, reads.1, ?_⟩, ih hrest reads.2⟩
        obtain ⟨⟨reply, after⟩, hmade, rfl⟩ := Option.map_eq_some_iff.mp hperform
        exact hmade

theorem timed_calls {config : TerminalSessionConfig} {nodes : NodeEnrollmentState}
    {labels : List (Label Arrival Choice)} {times : List Nat}
    (reads : readAlong times labels = true) (forward : times.Pairwise (· ≤ ·))
    (each : times.length = (calls config nodes labels).length) :
    Timed (times.zip (calls config nodes labels)) ∧
      callsOf (times.zip (calls config nodes labels)) = calls config nodes labels := by
  refine ⟨⟨?_, ?_⟩, List.map_snd_zip each.ge⟩
  · unfold calls
    cases hrun : ((controlPlane config).machine entry).run ⟨.boot nodes, []⟩ labels with
    | none => simp
    | some out => exact made_along hrun reads
  · refine List.pairwise_map.mp ?_
    rwa [List.map_fst_zip each.le]

/-- Every take of this history is followed by a call of the same task that is no drain. -/
private def goesOn : History → Bool
  | take :: next :: rest =>
    ((takenOn take.interaction).isNone || (next.task == take.task && (match next.action with
      | .terminal (.drainExpired ..) => false
      | _ => true))) && goesOn (next :: rest)
  | _ => true

private theorem prompt_of_goesOn {history front middle back : History} {take drain : ControlEvent}
    {output : Nat} {sessionId : TerminalSessionId} (h : goesOn history = true)
    (hsplit : history = front ++ take :: (middle ++ drain :: back))
    (took : takenOn take.interaction = some output) (drains : DrainsDetached sessionId drain) :
    ∃ e ∈ middle, e.task = take.task := by
  induction front generalizing history with
  | nil =>
    subst hsplit
    obtain ⟨⟨maxDuration, idleTimeout, haction⟩, -⟩ := drains
    cases middle with
    | nil => simp [goesOn, took, haction] at h
    | cons next rest =>
      have hnext : next.task = take.task := by
        simp only [List.nil_append, List.cons_append, goesOn, took, Option.isNone_some,
          Bool.false_or, Bool.and_eq_true, beq_iff_eq] at h
        exact h.1.1
      exact ⟨next, List.mem_cons_self .., hnext⟩
  | cons first front ih =>
    subst hsplit
    refine ih ?_ rfl
    cases front with
    | nil =>
      simp only [List.cons_append, List.nil_append, goesOn, Bool.and_eq_true] at h
      exact h.2
    | cons second front =>
      simp only [List.cons_append, goesOn, Bool.and_eq_true] at h
      exact h.2

/-- Alice types into her local terminal at five seconds, goes away, and the session expires half
    an hour later. -/
private def typedLocally : List (Label Arrival Choice) :=
  localOpening 0 "alice" "t0" ++
    [.move 0 (.browser (some (.text (.ok (.input (sessionIdOf 1) "ls"))))),
      .move 0 (.clock (secs 5)), .move 0 (.system (.ok ())), .move 0 (.browser none),
      .move 0 .none, .move 0 .none, .move 0 .none, .arrive .cleanup,
      .move 2 (.clock (secs 1805))]

private def localTimes : List Nat :=
  List.replicate 10 0 ++ List.replicate 7 (secs 5) ++ [secs 1805]

/-- Alice types into her terminal on the node ten seconds before the cleanup, and goes away. -/
private def typedRemotely : List (Label Arrival Choice) :=
  agentOpening 0 false ++ remoteOpening 1 "alice" "t0" ++ agentStarts 0 1 ++
    [.move 1 (.browser (some (.text (.ok (.input (sessionIdOf 1) "ls"))))), .move 1 .none,
      .move 1 (.browser none), .move 1 .none, .move 1 .none, .move 1 .none, .move 1 .none,
      .move 1 .none, .arrive .cleanup, .move 2 (.clock (secs 1800))]

private def remoteTimes : List Nat :=
  List.replicate 28 0 ++ List.replicate 8 (secs 1790) ++ [secs 1800]

private def localRun : List (Nat × ControlEvent) :=
  localTimes.zip (calls defaultTerminalSessionConfig ⟨[], [], []⟩ typedLocally)

private def remoteRun : List (Nat × ControlEvent) :=
  remoteTimes.zip (calls defaultTerminalSessionConfig oneNode typedRemotely)

/-- Nothing is recorded, and no frame is taken off a channel of events. -/
private def isSilent (e : ControlEvent) : Bool :=
  match e.action with
  | .terminal (.recordOutput ..) => false
  | .agent (.selectEvent _) => false
  | _ => true

private theorem attended_of_isSilent {history : History} (silent : history.all isSilent = true)
    (goes : goesOn history = true) (opener : Nat) (request : TerminalSessionInsert)
    (output : Nat) : Attended history opener request output where
  inputs e he channel data _ call := by
    have hsilent := List.all_eq_true.mp silent e he
    have haction : e.action = .agent (.selectEvent channel) := congrArg Interaction.action call
    simp [isSilent, haction] at hsilent
  outputs front recorded middle drain back data message hsplit call _ := by
    have hmem : recorded ∈ history := hsplit ▸ List.mem_append_right _ (List.mem_cons_self ..)
    have hsilent := List.all_eq_true.mp silent recorded hmem
    have haction : recorded.action = .terminal (.recordOutput request.sessionId data) :=
      congrArg Interaction.action call
    simp [isSilent, haction] at hsilent
  prompt front take middle drain back hsplit took drains :=
    prompt_of_goesOn goes hsplit took drains

theorem idle_expiry_respects_typing : ∃ pool drain session request,
    Reaches defaultTerminalSessionConfig ⟨[], [], []⟩ (callsOf localRun) pool ∧
    Timed localRun ∧ OpenedBy (callsOf localRun) 0 request 0 ∧
    localRun = localRun.take 17 ++ (secs 1805, drain) :: localRun.drop 18 ∧
    IdleDrain (secs 1800) (secs 1805) drain request.sessionId session ∧
    ∀ p ∈ localRun.take 17, Activity 0 request 0 p.2 → secs 1800 ≤ secs 1805 - p.1 := by
  obtain ⟨timed, hcalls⟩ : Timed localRun ∧ callsOf localRun =
      calls defaultTerminalSessionConfig ⟨[], [], []⟩ typedLocally :=
    timed_calls rfl (by decide) rfl
  obtain ⟨pool, h⟩ : ∃ pool,
      Reaches defaultTerminalSessionConfig ⟨[], [], []⟩ (callsOf localRun) pool := by
    rw [hcalls]
    exact reaches_calls rfl
  obtain ⟨request, opened, hid⟩ : ∃ request, OpenedBy (callsOf localRun) 0 request 0 ∧
      request.sessionId = sessionIdOf 1 := ⟨_, List.mem_of_getElem? (i := 3) rfl, rfl⟩
  obtain ⟨drain, session, hdrain, expires⟩ : ∃ drain session,
      localRun[17]? = some (secs 1805, drain) ∧
      IdleDrain (secs 1800) (secs 1805) drain (sessionIdOf 1) session := by
    refine ⟨_, _, rfl, ⟨_, rfl⟩, rfl, rfl, ?_⟩
    exact Nat.le_refl (secs 1800)
  rw [← hid] at expires
  have attended : Attended (callsOf localRun) 0 request 0 :=
    attended_of_isSilent rfl rfl 0 request 0
  exact ⟨pool, drain, session, request, h, timed, opened, split_at hdrain, expires,
    idle_expiry_respects_activity h timed opened attended (split_at hdrain) expires⟩

/-- Alice's session on the node is removed as idle ten seconds after she typed into it: the
    handler that opened it does not touch it. -/
theorem expires_after_remote_input : ∃ pool drain session request p,
    Reaches defaultTerminalSessionConfig oneNode (callsOf remoteRun) pool ∧
    Timed remoteRun ∧ OpenedBy (callsOf remoteRun) 1 request 0 ∧
    remoteRun = remoteRun.take 36 ++ (secs 1800, drain) :: remoteRun.drop 37 ∧
    IdleDrain (secs 1800) (secs 1800) drain request.sessionId session ∧
    p ∈ remoteRun.take 36 ∧ Activity 1 request 0 p.2 ∧ secs 1800 - p.1 = secs 10 ∧
    TakesOut request.sessionId drain := by
  obtain ⟨timed, hcalls⟩ : Timed remoteRun ∧ callsOf remoteRun =
      calls defaultTerminalSessionConfig oneNode typedRemotely :=
    timed_calls rfl (by decide) rfl
  obtain ⟨pool, h⟩ : ∃ pool,
      Reaches defaultTerminalSessionConfig oneNode (callsOf remoteRun) pool := by
    rw [hcalls]
    exact reaches_calls rfl
  obtain ⟨request, opened, hid⟩ : ∃ request, OpenedBy (callsOf remoteRun) 1 request 0 ∧
      request.sessionId = sessionIdOf 1 := ⟨_, List.mem_of_getElem? (i := 10) rfl, rfl⟩
  obtain ⟨drain, session, hdrain, expires, takes⟩ : ∃ drain session,
      remoteRun[36]? = some (secs 1800, drain) ∧
      IdleDrain (secs 1800) (secs 1800) drain (sessionIdOf 1) session ∧
      TakesOut (sessionIdOf 1) drain := by
    refine ⟨_, _, rfl, ⟨⟨_, rfl⟩, rfl, rfl, ?_⟩, ?_, rfl⟩
    · exact Nat.le_refl (secs 1800)
    · exact Option.some_ne_none _
  obtain ⟨p, hp, htime, htask, hcall⟩ : ∃ p, (remoteRun.take 36)[28]? = some p ∧
      p.1 = secs 1790 ∧ p.2.task = 1 ∧ p.2.interaction = ⟨.agent (.selectEvent 0),
        .incoming (some (.text (.ok (.input (sessionIdOf 1) "ls"))))⟩ := ⟨_, rfl, rfl, rfl, rfl⟩
  rw [← hid] at expires takes hcall
  refine ⟨pool, drain, session, request, p, h, timed, opened, split_at hdrain, expires,
    List.mem_of_getElem? hp, .openerInput 0 "ls" htask hcall, ?_, takes⟩
  rw [htime]
  rfl

end Sunbolt.Control
