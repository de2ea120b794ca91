/- Module: Sunbolt/Control/ReaderLog
   scope: sunbolt-control/src/terminal/mod.rs, sunbolt-control/src/terminal/session_registry.rs
   digest: What the reader of a local session records, what of it has been broadcast and what is
     kept for replay. -/

import Sunbolt.Control.EventStreams
import Sunbolt.Control.OutputLog

set_option autoImplicit false
set_option relaxedAutoImplicit false

namespace Sunbolt.Control

open Sunbolt.Library
open Sunbolt.Protocol (TerminalSessionId TerminalServerMessage u64Max saturatingSucc)

/-- The output this call records for the session, if it does. -/
def recordOf (sessionId : TerminalSessionId) (x : Interaction Action Reply) :
    List TerminalServerMessage :=
  match x with
  | ⟨.terminal (.recordOutput named _), message⟩ =>
    if named = sessionId then message.toList else []
  | _ => []

/-- The outputs recorded for the session so far. -/
def recordedFor (sessionId : TerminalSessionId) (history : History) :
    List TerminalServerMessage :=
  history.flatMap (fun e => recordOf sessionId e.interaction)

def sequenceOf : TerminalServerMessage → Nat
  | .output _ sequence _ => sequence
  | _ => 0

/-- The outputs sent to the receivers of a channel so far. -/
def TerminalSessionRegistry.sentOutputs (registry : TerminalSessionRegistry) (output : Nat) :
    List TerminalServerMessage :=
  (registry.outputLog output).filter (·.isOutput)

/-- Nothing but its reader writes to the replay of the session. -/
def OnlyReader (history : History) (pty : Nat) (sessionId : TerminalSessionId) (output : Nat) :
    Prop :=
  ∀ e ∈ history, WritesTo sessionId e.action → e.origin = .ptyReader pty sessionId output

/-- The calls of the reader of a session. -/
def readerCalls (pty : Nat) (sessionId : TerminalSessionId) (output : Nat) (history : History) :
    Past :=
  (history.filter (fun e => isReader pty sessionId output e.origin)).map (·.interaction)

@[simp] theorem recordedFor_append (sessionId : TerminalSessionId) (front back : History) :
    recordedFor sessionId (front ++ back) =
      recordedFor sessionId front ++ recordedFor sessionId back :=
  List.flatMap_append ..

@[simp] theorem recordedFor_one (sessionId : TerminalSessionId) (e : ControlEvent) :
    recordedFor sessionId [e] = recordOf sessionId e.interaction :=
  List.flatMap_singleton ..

theorem recordOf_of_not_writes {sessionId : TerminalSessionId} {x : Interaction Action Reply}
    (quiet : ¬WritesTo sessionId x.action) : recordOf sessionId x = [] := by
  unfold recordOf
  split
  · rename_i named data message
    rw [if_neg]
    rintro rfl
    exact quiet (Or.inl ⟨data, rfl⟩)
  · rfl

theorem OnlyReader.of_append {front back : History} {pty output : Nat}
    {sessionId : TerminalSessionId} (h : OnlyReader (front ++ back) pty sessionId output) :
    OnlyReader front pty sessionId output :=
  fun e he => h e (List.mem_append_left _ he)

section Reading

variable {config : TerminalSessionConfig} {nodes : NodeEnrollmentState}
  {history front back : History} {pool : ControlPool} {e : ControlEvent} {pty output : Nat}
  {sessionId : TerminalSessionId}

/-- The reader of a session has made just its own calls. -/
theorem Reaches.own_reader (h : Reaches config nodes history pool)
    (hsplit : history = front ++ e :: back)
    (reader : e.origin = .ptyReader pty sessionId output) :
    own e.task front = readerCalls pty sessionId output front := by
  have he : e ∈ history := hsplit ▸ List.mem_append_right _ (List.mem_cons_self ..)
  rw [own, Service.own, readerCalls]
  congr 1
  refine List.filter_congr (fun other hother => ?_)
  have hmem : other ∈ history := hsplit ▸ List.mem_append_left _ hother
  rw [Bool.eq_iff_iff, beq_iff_eq]
  constructor
  · intro htask
    rw [h.origin hmem he htask, reader]
    simp [isReader]
  · intro hreader
    exact h.reader_unique hmem he (eq_of_isReader hreader) reader

theorem readerCalls_append_reader (reader : e.origin = .ptyReader pty sessionId output) :
    readerCalls pty sessionId output (front ++ [e]) =
      readerCalls pty sessionId output front ++ [e.interaction] := by
  simp [readerCalls, reader, isReader]

theorem readerCalls_append_other (other : e.origin ≠ .ptyReader pty sessionId output) :
    readerCalls pty sessionId output (front ++ [e]) = readerCalls pty sessionId output front := by
  have hreader : isReader pty sessionId output e.origin = false := by
    rw [Bool.eq_false_iff]
    exact fun h => other (eq_of_isReader h)
  simp [readerCalls, hreader]

/-- A reader reads a session that was opened over its PTY and its channel. -/
theorem Next.reader_opened (next : Next front e)
    (reader : e.origin = .ptyReader pty sessionId output) :
    ∃ opener request, OpenedBy front opener request output ∧ request.sessionId = sessionId ∧
      request.backend = .local pty := by
  obtain ⟨opener, spawned⟩ := next.reader reader
  obtain ⟨-, request, hinsert, hid, hbackend⟩ := next.ledger.reader spawned
  exact ⟨opener, request, hinsert, hid, hbackend⟩

/-- An output is recorded for a tracked session, under the number that comes next. -/
theorem AppStep.recordOutput {task : Nat} {state next : AppState} {data : String}
    {reply : Option TerminalServerMessage}
    (step : AppStep task state (.terminal (.recordOutput sessionId data)) reply next) :
    next.sessions = (state.sessions.recordOutput sessionId data).1 ∧
      reply = (state.sessions.get sessionId).map (·.outputMessage sessionId data) := by
  cases step with
  | write hwrite =>
    cases hwrite with
    | recordOutput => exact ⟨rfl, rfl⟩
  | read hread => cases hread

/-- What is recorded for a session comes after the session was opened, and is an output. -/
theorem Reaches.mem_recordedFor (h : Reaches config nodes history pool)
    {message : TerminalServerMessage} (hmem : message ∈ recordedFor sessionId history) :
    (∃ opener request given, OpenedBy history opener request given ∧
      request.sessionId = sessionId) ∧
    ∃ sequence data, message = .output sessionId sequence data := by
  obtain ⟨e, he, hrecord⟩ := List.mem_flatMap.mp hmem
  obtain ⟨front, back, hsplit⟩ := List.append_of_mem he
  have next := h.next hsplit
  have step := next.step
  have hinitial : ∀ task, own task front <+: own task history :=
    fun task => hsplit ▸ own_isPrefix task front (e :: back)
  obtain ⟨task, origin, action, reply, before, after, spawned⟩ := e
  have ledger : Ledger front before := next.ledger
  change AppStep task before action reply after at step
  change message ∈ recordOf sessionId ⟨action, reply⟩ at hrecord
  unfold recordOf at hrecord
  split at hrecord
  · rename_i named data given heq
    cases heq
    obtain ⟨-, hreply⟩ := step.recordOutput
    by_cases hnamed : named = sessionId
    · subst hnamed
      rw [if_pos rfl, Option.mem_toList, hreply, Option.map_eq_some_iff] at hrecord
      obtain ⟨session, found, rfl⟩ := hrecord
      obtain ⟨opener, request, given, hopened, hid, -⟩ := ledger.tracked found
      exact ⟨⟨opener, request, given, hopened.later (hinitial opener), hid⟩, _, _, rfl⟩
    · rw [if_neg hnamed] at hrecord
      cases hrecord
  · cases hrecord

/-- What the registry and the channel of a local session hold of what its reader has recorded:
    all of it has been sent but the output the reader is about to broadcast. -/
structure ReaderLog (history : History) (sessions : TerminalSessionRegistry) (pty : Nat)
    (sessionId : TerminalSessionId) (output : Nat) : Prop where
  sent : recordedFor sessionId history =
    sessions.sentOutputs output ++ (pending (readerCalls pty sessionId output history)).toList
  numbered : (recordedFor sessionId history).map sequenceOf =
    (List.range (recordedFor sessionId history).length).map (fun i => min (i + 1) u64Max)
  kept : ∀ session, sessions.get sessionId = some session →
    session.nextOutputSequence = min ((recordedFor sessionId history).length + 1) u64Max ∧
    session.replay.items = (recordedFor sessionId history).drop
      ((recordedFor sessionId history).length - outputReplayCapacity)

/-- Nothing has been recorded for a session that is being opened, and nobody reads it yet. -/
theorem Reaches.unused (h : Reaches config nodes (front ++ [e]) pool) {task : Nat}
    {request : TerminalSessionInsert} (opened : OpenedBy (front ++ [e]) task request output)
    (fresh : output = e.before.sessions.outputs.length) (pty : Nat) :
    recordedFor request.sessionId front = [] ∧
      readerCalls pty request.sessionId output front = [] := by
  obtain ⟨before, hfront, hbefore⟩ := h.front rfl
  have next := h.next rfl
  constructor
  · refine List.eq_nil_iff_forall_not_mem.mpr (fun message hmem => ?_)
    obtain ⟨⟨opener, later, given, hopened, hid⟩, -⟩ := hfront.mem_recordedFor hmem
    have hlater := hopened.later (own_isPrefix opener front [e])
    obtain ⟨-, -, rfl⟩ := h.ledger.unique_id hlater opened hid
    exact absurd fresh (next.ledger.channel hopened).ne
  · rw [readerCalls, List.map_eq_nil_iff, List.filter_eq_nil_iff]
    intro other hother hreader
    obtain ⟨early, late, hsplit⟩ := List.append_of_mem hother
    obtain ⟨opener, later, hopened, -, -⟩ :=
      (hfront.next hsplit).reader_opened (eq_of_isReader hreader)
    have hfinal : OpenedBy front opener later output :=
      hopened.later (hsplit ▸ own_isPrefix opener early (other :: late))
    exact absurd fresh (next.ledger.channel hfinal).ne

/-- What anyone but the reader of a session sends on its channel is an error. -/
theorem Next.sends_error (next : Next front e) {opener : Nat}
    {request : TerminalSessionInsert} (opened : OpenedBy front opener request output)
    (backend : request.backend = .local pty)
    (other : e.origin ≠ .ptyReader pty request.sessionId output)
    {message : TerminalServerMessage} (hmem : message ∈ sentTo output e.interaction) :
    ∃ sessionId error, message = .error sessionId error := by
  have act := next.act
  have reads := fun pty sessionId output
    (reader : e.origin = .ptyReader pty sessionId output) => next.reader_opened reader
  have ledger := next.ledger
  obtain ⟨task, origin, action, reply, before, after, spawned⟩ := e
  obtain rfl : action = .terminal (.broadcast output message) := mem_sentTo hmem
  cases origin with
  | terminalSocket actorEmail =>
    obtain ⟨sessionId, channel, event, ⟨-, later, hinsert, -, hremote⟩, -⟩ := act
    obtain ⟨-, rfl⟩ := ledger.unique_output opened hinsert
    rw [backend] at hremote
    cases hremote
  | ptyReader reading sessionId given =>
    obtain ⟨rfl, -⟩ := act
    obtain ⟨reader, later, hopened, hid, hbackend⟩ := reads _ _ _ rfl
    obtain ⟨-, rfl⟩ := ledger.unique_output opened hopened
    rw [backend] at hbackend
    cases hbackend
    exact absurd (congrArg (Stage.ptyReader pty · output) hid.symm) other
  | cleanupWorker =>
    obtain ⟨maxDuration, idleTimeout, removed, -, session, -, -, error, rfl⟩ := act
    exact ⟨_, error, rfl⟩
  | revokeNode actorEmail nodeId =>
    obtain ⟨removed, -, session, -, -, error, rfl⟩ := act
    exact ⟨_, error, rfl⟩
  | _ => cases act

/-- One call of the reader: what it records is broadcast by its next call. -/
private theorem readerAct.flow {past : Past} {action : Action} {reply : Reply action}
    (act : readerAct pty sessionId output past action)
    (outputs : ∀ message, pending past = some message → message.isOutput = true) :
    (pending past).toList ++ recordOf sessionId ⟨action, reply⟩ =
      (sentTo output ⟨action, reply⟩).filter (·.isOutput) ++
        (recordedBy ⟨action, reply⟩).toList := by
  have idles : ReaderIdle past → (pending past).toList = [] := by
    intro idle
    rw [idle.pending]
    rfl
  cases action with
  | terminal action =>
    cases action with
    | isClosed named => exact congrArg (· ++ _) (idles act.2)
    | readOutput named => exact congrArg (· ++ _) (idles act.2)
    | tryWaitExit named => exact congrArg (· ++ _) (idles act.2)
    | waitExit named => exact congrArg (· ++ _) (idles act.2)
    | dropSender named => exact congrArg (· ++ _) (idles act.2)
    | recordOutput named data =>
      obtain ⟨hnamed, hpending, -⟩ := act
      rw [hpending, recordOf, if_pos hnamed]
      rfl
    | broadcast named message =>
      obtain ⟨hnamed, hmessage⟩ := act
      rw [sentTo, if_pos hnamed]
      rcases hmessage with hpending | ⟨hpending, hend⟩
      · rw [hpending, List.filter_cons_of_pos (outputs message hpending)]
        rfl
      · have hquiet : message.isOutput = false := by
          rcases hend with ⟨exit, -, rfl⟩ | ⟨error, rfl⟩
          · rfl
          · rfl
        rw [hpending, List.filter_cons_of_neg (by simp [hquiet])]
        rfl
    | _ => cases act
  | _ => cases act

private theorem Reaches.sent_step (h : Reaches config nodes (front ++ [e]) pool) {opener : Nat}
    {request : TerminalSessionInsert} (opened : OpenedBy front opener request output)
    (backend : request.backend = .local pty)
    (only : OnlyReader (front ++ [e]) pty request.sessionId output)
    (sent : recordedFor request.sessionId front = e.before.sessions.sentOutputs output ++
      (pending (readerCalls pty request.sessionId output front)).toList) :
    recordedFor request.sessionId (front ++ [e]) = e.after.sessions.sentOutputs output ++
      (pending (readerCalls pty request.sessionId output (front ++ [e]))).toList := by
  have next := h.next rfl
  obtain ⟨before, hfront, -⟩ := h.front rfl
  have hlog : e.after.sessions.sentOutputs output =
      e.before.sessions.sentOutputs output ++
        (sentTo output e.interaction).filter (·.isOutput) := by
    rw [TerminalSessionRegistry.sentOutputs, next.step.outputLog (next.ledger.channel opened),
      List.filter_append]
    rfl
  rw [recordedFor_append, recordedFor_one, sent, hlog, List.append_assoc, List.append_assoc]
  congr 1
  by_cases reader : e.origin = .ptyReader pty request.sessionId output
  · have act := next.act
    rw [reader, h.own_reader rfl reader] at act
    rw [readerCalls_append_reader reader, pending_append_one]
    refine act.flow (fun message hpending => ?_)
    have hmem : message ∈ recordedFor request.sessionId front := by
      rw [sent, hpending]
      exact List.mem_append_right _ (List.mem_singleton_self message)
    obtain ⟨-, sequence, data, rfl⟩ := hfront.mem_recordedFor hmem
    rfl
  · have hquiet : ¬WritesTo request.sessionId e.action := fun writes =>
      reader (only e (List.mem_append_right _ (List.mem_singleton_self e)) writes)
    have hsends : (sentTo output e.interaction).filter (·.isOutput) = [] := by
      refine List.filter_eq_nil_iff.mpr (fun message hmem => ?_)
      obtain ⟨sessionId, error, rfl⟩ := next.sends_error opened backend reader hmem
      exact Bool.false_ne_true
    rw [readerCalls_append_other reader, hsends, recordOf_of_not_writes hquiet, List.append_nil,
      List.nil_append]

/-- A call that does not write to the session leaves its counter and its replay. -/
theorem Next.keeps_replay (next : Next front e) {opener : Nat}
    {request : TerminalSessionInsert} (opened : OpenedBy front opener request output)
    (quiet : ¬WritesTo request.sessionId e.action) {session : TrackedTerminalSession}
    (found : e.after.sessions.get request.sessionId = some session) :
    ∃ before, e.before.sessions.get request.sessionId = some before ∧
      session.nextOutputSequence = before.nextOutputSequence ∧
      session.replay = before.replay := by
  have act := next.act
  have ledger := next.ledger
  obtain ⟨task, origin, action, reply, before, after, spawned⟩ := e
  have step : AppStep task before action reply after := next.step
  cases step with
  | write write =>
    cases write.session found with
    | same session was => exact ⟨session, was, rfl, rfl⟩
    | insert later now token named =>
      -- the id has been given out before
      obtain ⟨actorEmail, -, -, hissued, hfresh, -⟩ := browser_only act rfl
      obtain rfl := ledger.issuedOnce hissued (named ▸ (ledger.inserted opened).1)
      cases hfresh _ opened
    | setState state session was =>
      refine ⟨session, was, ?_⟩
      rw [TrackedTerminalSession.moveTo]
      split <;> exact ⟨rfl, rfl⟩
    | reattach reconnectToken actorEmail now token session reply was =>
      exact ⟨session, was, rfl, rfl⟩
    | touch now session was => exact ⟨session, was, rfl, rfl⟩
    | setSize size session was => exact ⟨session, was, rfl, rfl⟩
    | recordOutput data session reply was => exact absurd (Or.inl ⟨data, rfl⟩) quiet
    | rememberServerMessage message session was named =>
      exact absurd (Or.inr ⟨message, rfl, named⟩) quiet
  | _ => exact ⟨session, found, rfl, rfl⟩

/-- One more output is numbered and kept; any other call changes neither. -/
private theorem Reaches.kept_step (h : Reaches config nodes (front ++ [e]) pool) {opener : Nat}
    {request : TerminalSessionInsert} (opened : OpenedBy front opener request output)
    (only : OnlyReader (front ++ [e]) pty request.sessionId output)
    (log : ReaderLog front e.before.sessions pty request.sessionId output)
    (sent : recordedFor request.sessionId (front ++ [e]) =
      e.after.sessions.sentOutputs output ++
        (pending (readerCalls pty request.sessionId output (front ++ [e]))).toList) :
    ReaderLog (front ++ [e]) e.after.sessions pty request.sessionId output := by
  have next := h.next rfl
  by_cases hwrites : WritesTo request.sessionId e.action
  · have reader := only e (List.mem_append_right _ (List.mem_singleton_self e)) hwrites
    have act := next.act
    rw [reader] at act
    rcases hwrites with ⟨data, haction⟩ | ⟨message, haction, -⟩
    · obtain ⟨task, origin, action, reply, before, after, spawned⟩ := e
      obtain rfl : action = .terminal (.recordOutput request.sessionId data) := haction
      obtain ⟨hafter, hreply⟩ := AppStep.recordOutput next.step
      change after.sessions = (before.sessions.recordOutput request.sessionId data).1 at hafter
      change reply = _ at hreply
      have hrecord : recordedFor request.sessionId (front ++
          [⟨task, origin, .terminal (.recordOutput request.sessionId data), reply, before, after,
            spawned⟩]) = recordedFor request.sessionId front ++ reply.toList := by
        rw [recordedFor_append, recordedFor_one]
        exact congrArg _ (if_pos rfl)
      refine ⟨sent, ?_, ?_⟩
      · rw [hrecord, hreply]
        cases hfound : before.sessions.get request.sessionId with
        | none => simpa using log.numbered
        | some session =>
          obtain ⟨hnext, -⟩ := log.kept session hfound
          simp [log.numbered, List.range_succ, TrackedTerminalSession.outputMessage, sequenceOf,
            hnext]
      · intro session found
        change after.sessions.get request.sessionId = some session at found
        rw [hafter, TerminalSessionRegistry.get_recordOutput, if_pos rfl] at found
        obtain ⟨was, hwas, rfl⟩ := Option.map_eq_some_iff.mp found
        obtain ⟨hnext, hreplay⟩ := log.kept was hwas
        rw [hrecord, hreply, hwas]
        constructor
        · change saturatingSucc was.nextOutputSequence = _
          rw [hnext, saturatingSucc, Option.map_some, Option.toList_some, List.length_append,
            List.length_singleton]
          omega
        · exact Window.push_of_drop hreplay _
    · rw [haction] at act
      cases act
  · have hsame : recordedFor request.sessionId (front ++ [e]) =
        recordedFor request.sessionId front := by
      rw [recordedFor_append, recordedFor_one, recordOf_of_not_writes hwrites, List.append_nil]
    refine ⟨sent, ?_, ?_⟩
    · rw [hsame]
      exact log.numbered
    · intro session found
      obtain ⟨before, hbefore, hnext, hreplay⟩ := next.keeps_replay opened hwrites found
      rw [hsame, hnext, hreplay]
      exact log.kept before hbefore

/-- In every run, what the reader of a session has recorded is what its channel has been sent
    and what the session keeps. -/
theorem Reaches.readerLog (h : Reaches config nodes history pool) {opener : Nat}
    {request : TerminalSessionInsert} (opened : OpenedBy history opener request output)
    (backend : request.backend = .local pty)
    (only : OnlyReader history pty request.sessionId output) :
    ReaderLog history pool.shared.sessions pty request.sessionId output := by
  refine h.along (I := fun history state => OpenedBy history opener request output →
    OnlyReader history pty request.sessionId output →
    ReaderLog history state.sessions pty request.sessionId output) ?_ ?_ opened only
  · intro hopened
    exact absurd hopened List.not_mem_nil
  · intro front e pool hrun ih hopened honly
    rcases did_snoc.mp hopened with hold | ⟨-, heq⟩
    · have log := ih hold honly.of_append
      exact hrun.kept_step hold honly log (hrun.sent_step hold backend honly log.sent)
    · have next := hrun.next rfl
      obtain ⟨task, origin, action, reply, before, after, spawned⟩ := e
      cases heq
      obtain ⟨hfresh, now, token, hafter⟩ := AppStep.opened next.step
      obtain ⟨hrecorded, hcalls⟩ := hrun.unused hopened hfresh pty
      change after.sessions = _ at hafter
      change output = before.sessions.outputs.length at hfresh
      have hother : origin ≠ .ptyReader pty request.sessionId output := by
        rintro rfl
        cases next.act
      have hnone : recordedFor request.sessionId (front ++
          [⟨task, origin, .terminal (.insert request), .ok output, before, after, spawned⟩]) =
          [] := by
        rw [recordedFor_append, hrecorded, recordedFor_one]
        rfl
      have hempty : after.sessions.sentOutputs output = [] := by
        rw [TerminalSessionRegistry.sentOutputs, TerminalSessionRegistry.outputLog, hafter, hfresh]
        simp [Broadcast.opened]
      refine ⟨?_, ?_, ?_⟩
      · rw [hnone, readerCalls_append_other hother, hcalls]
        exact hempty.symm ▸ rfl
      · rw [hnone]
        rfl
      · intro session found
        change after.sessions.get request.sessionId = some session at found
        rw [hafter, TerminalSessionRegistry.get_insert, if_pos rfl] at found
        cases found
        rw [hnone]
        exact ⟨rfl, rfl⟩

end Reading

end Sunbolt.Control
