/- Module: Sunbolt/Agent/RuntimeTracking
   scope: sunbolt-agent/src/lib.rs
   digest: The commands of an agent's terminals, and when it tracks exactly those that run. -/

import Sunbolt.Agent.TerminalRuntime
import Sunbolt.Terminal.CloseRuns

set_option autoImplicit false
set_option relaxedAutoImplicit false

namespace Sunbolt.Agent

open Sunbolt.Library
open Sunbolt.Protocol (AgentTerminalCommand AgentTerminalEvent TerminalSessionId)
open Sunbolt.Terminal (ChildStatus LocalPtySession ObservesExit Kills TerminalError TerminalSize
  servePty)

/-- The errors of a call: that a session exists already, and the others. -/
inductive CommandError where
  | terminalSessionExists (sessionId : String)
  | agent (error : AgentError)
  deriving DecidableEq, Repr

/-- What the system makes of the PTY operations of one call, as far as it comes to them. -/
structure PtyOutcomes where
  spawn : TerminalSize → Except TerminalError Unit
  write : List UInt8 → Except TerminalError Unit
  resize : TerminalSize → Except TerminalError Unit
  kill : Except String Unit

def terminalSizeFromProtocol (size : Sunbolt.Protocol.TerminalSize) : TerminalSize :=
  ⟨max size.cols 1, max size.rows 1⟩

namespace AgentTerminalRuntime

variable (runtime : AgentTerminalRuntime) (sessionId : TerminalSessionId)

def new : AgentTerminalRuntime := ⟨∅⟩

/-- An operation on the PTY of a session, which answers with no event. -/
def onSession (result : Except TerminalError Unit) :
    Except CommandError (Option AgentTerminalEvent) :=
  match runtime.session sessionId with
  | .error error => .error (.agent error)
  | .ok session =>
    match session.guardClosed result with
    | .error error => .error (.agent (.terminal error))
    | .ok _ => .ok none

/-- A close removes the session before it kills the child. -/
def handleCommand (command : AgentTerminalCommand) (outcomes : PtyOutcomes) :
    AgentTerminalRuntime × Except CommandError (Option AgentTerminalEvent) :=
  match command with
  | .startTerminal sessionId size =>
    if (runtime.sessions.lookup sessionId).isSome then
      (runtime, .error (.terminalSessionExists sessionId.val))
    else
      match outcomes.spawn (terminalSizeFromProtocol size) with
      | .error error => (runtime, .error (.agent (.terminal error)))
      | .ok _ =>
        ({ runtime with sessions := AList.insert sessionId .spawned runtime.sessions },
          .ok (some (.terminalStarted sessionId size)))
  | .writeInput sessionId data =>
    (runtime, runtime.onSession sessionId (outcomes.write (Utf8Lossy.encode data.toList)))
  | .resizeTerminal sessionId size =>
    (runtime, runtime.onSession sessionId (outcomes.resize (terminalSizeFromProtocol size)))
  | .closeTerminal sessionId =>
    match runtime.sessions.lookup sessionId with
    | none => (runtime, .error (.agent (.terminalSessionMissing sessionId.val)))
    | some session =>
      let runtime := { runtime with sessions := AList.erase sessionId runtime.sessions }
      match (session.closeKilling outcomes.kill).2 with
      | .error error => (runtime, .error (.agent (.terminal error)))
      | .ok _ => (runtime, .ok (some (.terminalExited sessionId ⟨none⟩)))

/-- A wait that returns no exit leaves the session as it is, so that only an exit is stored. -/
theorem tryWaitExit_same {session : LocalPtySession} {status : ChildStatus}
    (h : ∀ exit, (session.tryWaitExit status).2 ≠ .ok (some exit)) :
    (session.tryWaitExit status).1 = session := by
  obtain ⟨closed, child⟩ := session
  cases child with
  | false => rfl
  | true =>
    cases status with
    | exited code => exact absurd rfl (h ⟨code⟩)
    | running | unknown text => rfl

def pollExit (status : ChildStatus) :
    AgentTerminalRuntime × Except CommandError (Option AgentTerminalEvent) :=
  match runtime.session sessionId with
  | .error error => (runtime, .error (.agent error))
  | .ok session =>
    match (session.tryWaitExit status).2 with
    | .error error => (runtime, .error (.agent (.terminal error)))
    | .ok none => (runtime, .ok none)
    | .ok (some exit) =>
      ({ runtime with sessions := AList.erase sessionId runtime.sessions },
        .ok (some (.terminalExited sessionId ⟨exit.code⟩)))

end AgentTerminalRuntime

/-- The calls of a runtime, with what the system makes of them. -/
inductive RuntimeCall where
  | handleCommand (command : AgentTerminalCommand) (outcomes : PtyOutcomes)
  | readOutput (sessionId : TerminalSessionId) (read : Except TerminalError (List UInt8))
  | pollExit (sessionId : TerminalSessionId) (status : ChildStatus)

def RuntimeCall.sessionId : RuntimeCall → TerminalSessionId
  | .handleCommand command _ => command.sessionId
  | .readOutput sessionId _ => sessionId
  | .pollExit sessionId _ => sessionId

def AgentTerminalRuntime.serve (runtime : AgentTerminalRuntime) : RuntimeCall →
    AgentTerminalRuntime × Except CommandError (Option AgentTerminalEvent)
  | .handleCommand command outcomes => runtime.handleCommand command outcomes
  | .readOutput sessionId read => (runtime, (runtime.readOutput sessionId read).mapError .agent)
  | .pollExit sessionId status => runtime.pollExit sessionId status

abbrev RuntimeEvent :=
  Served AgentTerminalRuntime RuntimeCall (Except CommandError (Option AgentTerminalEvent))

/-- The runs of a runtime that starts with no session. -/
abbrev RuntimeRun : List RuntimeEvent → AgentTerminalRuntime → Prop :=
  Serves AgentTerminalRuntime.serve .new

/-! What a run says about a session. -/

section Sessions

variable (sessionId : TerminalSessionId) (e : RuntimeEvent)

def Starts : Prop := ∃ size, e.reply = .ok (some (.terminalStarted sessionId size))

def ReportsExit : Prop := ∃ exit, e.reply = .ok (some (.terminalExited sessionId exit))

/-- It was started, and no exit has been reported since. -/
def Running (history : List RuntimeEvent) : Prop :=
  ∃ front e back, history = front ++ e :: back ∧ Starts sessionId e ∧
    ∀ d ∈ back, ¬ReportsExit sessionId d

/-- The call has killed the process of the session, or has seen it exit. -/
def EndsProcess : Prop :=
  ∃ session, e.before.sessions.lookup sessionId = some session ∧
    ((∃ outcomes, e.call = .handleCommand (.closeTerminal sessionId) outcomes ∧
      Kills (served servePty session (.close outcomes.kill))) ∨
    ∃ status, e.call = .pollExit sessionId status ∧
      ObservesExit (served servePty session (.tryWaitExit status)))

end Sessions

structure TracksRunning (history : List RuntimeEvent) (runtime : AgentTerminalRuntime) : Prop where
  errors : ∀ e ∈ history, (∃ error, e.reply = .error error) →
    ∀ sessionId, sessionId ∈ e.after.sessions ↔ sessionId ∈ e.before.sessions
  tracked : ∀ sessionId, sessionId ∈ runtime.sessions ↔ Running sessionId history
  once : runtime.sessions.keys.Nodup
  ended : ∀ e ∈ history, ∀ sessionId ∈ e.before.sessions, sessionId ∉ e.after.sessions →
    EndsProcess sessionId e
  others : ∀ e ∈ history, ∀ sessionId, sessionId ≠ e.call.sessionId →
    e.after.sessions.lookup sessionId = e.before.sessions.lookup sessionId

/-- Every session that is tracked is open and holds its child. -/
def AllHeld (runtime : AgentTerminalRuntime) : Prop :=
  ∀ sessionId session, runtime.sessions.lookup sessionId = some session → session = .spawned

/-- What a call can do: nothing to the sessions, or start or end the one it names. -/
inductive Does (runtime : AgentTerminalRuntime) : RuntimeCall → AgentTerminalRuntime →
    Except CommandError (Option AgentTerminalEvent) → Prop
  | nothing {call : RuntimeCall} {reply : Except CommandError (Option AgentTerminalEvent)}
      (noStart : ∀ sessionId size, reply ≠ .ok (some (.terminalStarted sessionId size)))
      (noExit : ∀ sessionId exit, reply ≠ .ok (some (.terminalExited sessionId exit))) :
      Does runtime call runtime reply
  | start {sessionId : TerminalSessionId} {size : Sunbolt.Protocol.TerminalSize}
      {outcomes : PtyOutcomes} (fresh : runtime.sessions.lookup sessionId = none) :
      Does runtime (.handleCommand (.startTerminal sessionId size) outcomes)
        { runtime with sessions := AList.insert sessionId .spawned runtime.sessions }
        (.ok (some (.terminalStarted sessionId size)))
  | kill {sessionId : TerminalSessionId} {outcomes : PtyOutcomes}
      (tracked : runtime.sessions.lookup sessionId = some .spawned)
      (killed : outcomes.kill = .ok ()) :
      Does runtime (.handleCommand (.closeTerminal sessionId) outcomes)
        { runtime with sessions := AList.erase sessionId runtime.sessions }
        (.ok (some (.terminalExited sessionId ⟨none⟩)))
  | reap {sessionId : TerminalSessionId} {code : Option Int32}
      (tracked : runtime.sessions.lookup sessionId = some .spawned) :
      Does runtime (.pollExit sessionId (.exited code))
        { runtime with sessions := AList.erase sessionId runtime.sessions }
        (.ok (some (.terminalExited sessionId ⟨code⟩)))
  | lose {sessionId : TerminalSessionId} {outcomes : PtyOutcomes} {text : String}
      (tracked : runtime.sessions.lookup sessionId = some .spawned)
      (failed : outcomes.kill = .error text) :
      Does runtime (.handleCommand (.closeTerminal sessionId) outcomes)
        { runtime with sessions := AList.erase sessionId runtime.sessions }
        (.error (.agent (.terminal (.close text))))

section Steps

variable {runtime : AgentTerminalRuntime}

theorem Does.of_error {call : RuntimeCall} {error : CommandError} :
    Does runtime call runtime (.error error) :=
  .nothing (fun _ _ heq => by cases heq) (fun _ _ heq => by cases heq)

theorem Does.of_none {call : RuntimeCall} : Does runtime call runtime (.ok none) :=
  .nothing (fun _ _ heq => by cases heq) (fun _ _ heq => by cases heq)

theorem quiet_onSession (sessionId : TerminalSessionId) (result : Except TerminalError Unit)
    (event : AgentTerminalEvent) : runtime.onSession sessionId result ≠ .ok (some event) := by
  intro hevent
  rw [AgentTerminalRuntime.onSession] at hevent
  split at hevent
  · cases hevent
  · split at hevent <;> cases hevent

theorem does_handleCommand (held : AllHeld runtime) (command : AgentTerminalCommand)
    (outcomes : PtyOutcomes) :
    Does runtime (.handleCommand command outcomes) (runtime.handleCommand command outcomes).1
      (runtime.handleCommand command outcomes).2 := by
  cases command with
  | startTerminal sessionId size =>
    simp only [AgentTerminalRuntime.handleCommand]
    cases hlookup : runtime.sessions.lookup sessionId with
    | some session => exact .of_error
    | none =>
      cases outcomes.spawn (terminalSizeFromProtocol size) with
      | error error => exact .of_error
      | ok u => exact .start hlookup
  | writeInput sessionId data =>
    exact .nothing (fun _ _ => quiet_onSession _ _ _) (fun _ _ => quiet_onSession _ _ _)
  | resizeTerminal sessionId size =>
    exact .nothing (fun _ _ => quiet_onSession _ _ _) (fun _ _ => quiet_onSession _ _ _)
  | closeTerminal sessionId =>
    simp only [AgentTerminalRuntime.handleCommand]
    cases hlookup : runtime.sessions.lookup sessionId with
    | none => exact .of_error
    | some session =>
      obtain rfl := held sessionId session hlookup
      cases hkill : outcomes.kill with
      | ok u => exact .kill hlookup hkill
      | error text => exact .lose hlookup hkill

theorem does_readOutput (sessionId : TerminalSessionId)
    (read : Except TerminalError (List UInt8)) :
    Does runtime (.readOutput sessionId read) runtime
      ((runtime.readOutput sessionId read).mapError .agent) := by
  have hquiet : ∀ event, (runtime.readOutput sessionId read).mapError CommandError.agent =
      .ok (some event) → ∃ data, event = .terminalOutput sessionId data := by
    intro event hevent
    rw [AgentTerminalRuntime.readOutput] at hevent
    cases hread : runtime.readPty sessionId read with
    | error error =>
      rw [hread] at hevent
      cases hevent
    | ok bytes =>
      rw [hread] at hevent
      by_cases hlength : bytes.length = 0
      · simp [bind, Except.bind, hlength, pure, Except.pure, Except.mapError] at hevent
      · simp only [bind, Except.bind, hlength, pure, Except.pure, if_false, Except.mapError,
          Except.ok.injEq, Option.some.injEq] at hevent
        exact ⟨_, hevent.symm⟩
  refine .nothing (fun named size hevent => ?_) (fun named exit hevent => ?_)
  · obtain ⟨data, hdata⟩ := hquiet _ hevent
    cases hdata
  · obtain ⟨data, hdata⟩ := hquiet _ hevent
    cases hdata

theorem does_pollExit (held : AllHeld runtime) (sessionId : TerminalSessionId)
    (status : ChildStatus) :
    Does runtime (.pollExit sessionId status) (runtime.pollExit sessionId status).1
      (runtime.pollExit sessionId status).2 := by
  rw [AgentTerminalRuntime.pollExit, AgentTerminalRuntime.session]
  cases hlookup : runtime.sessions.lookup sessionId with
  | none => exact .of_error
  | some session =>
    obtain rfl := held sessionId session hlookup
    cases status with
    | running => exact .of_none
    | exited code => exact .reap hlookup
    | unknown text => exact .of_error

theorem does_serve (held : AllHeld runtime) (call : RuntimeCall) :
    Does runtime call (runtime.serve call).1 (runtime.serve call).2 := by
  cases call with
  | handleCommand command outcomes => exact does_handleCommand held command outcomes
  | readOutput sessionId read => exact does_readOutput sessionId read
  | pollExit sessionId status => exact does_pollExit held sessionId status

end Steps

section Runs

variable {history : List RuntimeEvent} {runtime : AgentTerminalRuntime} {e : RuntimeEvent}
  {sessionId : TerminalSessionId}

theorem RuntimeRun.allHeld (h : RuntimeRun history runtime) : AllHeld runtime := by
  have initial : AllHeld .new := by
    intro sessionId session hlookup
    cases hlookup
  refine Serves.invariant (I := fun _ runtime => AllHeld runtime) initial ?_ h
  intro history runtime call earlier held sessionId session hlookup
  have hdoes := does_serve held call
  revert hlookup hdoes
  generalize (runtime.serve call).1 = next
  generalize (runtime.serve call).2 = reply
  intro hlookup hdoes
  cases hdoes with
  | nothing => exact held sessionId session hlookup
  | start fresh =>
    rw [Table.lookup_insert] at hlookup
    split_ifs at hlookup
    · exact (Option.some.inj hlookup).symm
    · exact held sessionId session hlookup
  | kill | reap | lose =>
    rw [Table.lookup_erase] at hlookup
    split_ifs at hlookup
    exact held sessionId session hlookup

theorem RuntimeRun.does (h : RuntimeRun history runtime) (he : e ∈ history) :
    Does e.before e.call e.after e.reply := by
  obtain ⟨front, back, hsplit⟩ := List.append_of_mem he
  obtain ⟨hfront, hserved, -⟩ := h.split hsplit
  have hdoes := does_serve (RuntimeRun.allHeld hfront) e.call
  have hafter : e.after = (e.before.serve e.call).1 := congrArg Served.after hserved
  have hreply : e.reply = (e.before.serve e.call).2 := congrArg Served.reply hserved
  rw [hafter, hreply]
  exact hdoes

/-- Whether a session runs is settled by the last call that started it or reported its exit. -/
theorem running_append_one : Running sessionId (history ++ [e]) ↔
    Starts sessionId e ∨ Running sessionId history ∧ ¬ReportsExit sessionId e := by
  constructor
  · rintro ⟨front, d, back, hsplit, hstarts, hsince⟩
    rcases List.eq_nil_or_concat back with rfl | ⟨rest, last, rfl⟩
    · obtain ⟨-, hlast⟩ := List.append_inj' hsplit rfl
      cases hlast
      exact Or.inl hstarts
    · rw [List.concat_eq_append, ← List.cons_append, ← List.append_assoc] at hsplit
      obtain ⟨rfl, hlast⟩ := List.append_inj' hsplit rfl
      cases hlast
      refine Or.inr ⟨⟨front, d, rest, rfl, hstarts, fun c hc => hsince c ?_⟩, hsince e ?_⟩
      · rw [List.concat_eq_append]
        exact List.mem_append_left _ hc
      · rw [List.concat_eq_append]
        exact List.mem_append_right _ List.mem_cons_self
  · rintro (hstarts | ⟨⟨front, d, back, rfl, hstarts, hsince⟩, hquiet⟩)
    · exact ⟨history, e, [], rfl, hstarts, fun _ hd => absurd hd List.not_mem_nil⟩
    · refine ⟨front, d, back ++ [e], by rw [List.append_assoc, List.cons_append], hstarts, ?_⟩
      intro c hc
      rcases List.mem_append.mp hc with hc | hc
      · exact hsince c hc
      · rwa [List.mem_singleton.mp hc]

/-- A close that finds its session does not fail to kill its process. -/
def KillsIfTracked (e : RuntimeEvent) : Prop :=
  ∀ sessionId outcomes, e.call = .handleCommand (.closeTerminal sessionId) outcomes →
    sessionId ∈ e.before.sessions → ∀ text, outcomes.kill ≠ .error text

theorem KillsIfTracked.not_failed {outcomes : PtyOutcomes} {text : String}
    {reply : Except CommandError (Option AgentTerminalEvent)} {after : AgentTerminalRuntime}
    (kills : KillsIfTracked
      ⟨.handleCommand (.closeTerminal sessionId) outcomes, reply, runtime, after⟩)
    (tracked : runtime.sessions.lookup sessionId = some .spawned) : outcomes.kill ≠ .error text :=
  kills sessionId outcomes rfl (AList.lookup_isSome.mp (Option.isSome_of_eq_some tracked)) text

/-- The tracked sessions are those that run, as long as no such close has failed. -/
theorem RuntimeRun.tracked (h : RuntimeRun history runtime)
    (kills : ∀ e ∈ history, KillsIfTracked e) (sessionId : TerminalSessionId) :
    sessionId ∈ runtime.sessions ↔ Running sessionId history := by
  revert kills
  refine Serves.invariant (I := fun history runtime => (∀ e ∈ history, KillsIfTracked e) →
    (sessionId ∈ runtime.sessions ↔ Running sessionId history)) ?_ ?_ h
  · intro _
    refine iff_of_false (AList.notMem_empty _) ?_
    rintro ⟨front, e, back, hsplit, -⟩
    exact absurd hsplit.symm (by simp)
  · intro history runtime call earlier ih kills
    have hkills := kills _ (List.mem_append_right _ List.mem_cons_self)
    have hbefore := ih (fun e he => kills e (List.mem_append_left _ he))
    have hdoes := does_serve (RuntimeRun.allHeld earlier) call
    rw [running_append_one, ← hbefore]
    rw [served] at hkills ⊢
    generalize (runtime.serve call).1 = next at hdoes hkills ⊢
    generalize (runtime.serve call).2 = reply at hdoes hkills ⊢
    cases hdoes with
    | nothing noStart noExit =>
      have hstarts : ¬Starts sessionId ⟨call, reply, runtime, runtime⟩ := by
        rintro ⟨size, hreply⟩
        exact noStart sessionId size hreply
      have hexit : ¬ReportsExit sessionId ⟨call, reply, runtime, runtime⟩ := by
        rintro ⟨exit, hreply⟩
        exact noExit sessionId exit hreply
      simp [hstarts, hexit]
    | start fresh => simp [Starts, ReportsExit, AList.mem_insert, eq_comm]
    | kill | reap => simp [Starts, ReportsExit, AList.mem_erase, eq_comm, and_comm]
    | lose tracked failed => exact absurd failed (hkills.not_failed tracked)

/-- A runtime tracks the terminals that run exactly if no close of a tracked session fails to kill
    its process. -/
theorem tracks_running_iff (h : RuntimeRun history runtime) :
    TracksRunning history runtime ↔ ∀ e ∈ history, KillsIfTracked e := by
  constructor
  · intro sound e he sessionId outcomes hcall hmem text hfailed
    obtain ⟨front, back, hsplit⟩ := List.append_of_mem he
    obtain ⟨hfront, hserved, -⟩ := h.split hsplit
    obtain ⟨session, hlookup⟩ := Option.isSome_iff_exists.mp (AList.lookup_isSome.mpr hmem)
    obtain rfl := RuntimeRun.allHeld hfront sessionId session hlookup
    have hlost : e.before.serve e.call =
        ({ e.before with sessions := AList.erase sessionId e.before.sessions },
          .error (.agent (.terminal (.close text)))) := by
      rw [hcall]
      simp [AgentTerminalRuntime.serve, AgentTerminalRuntime.handleCommand, hlookup, hfailed]
      rfl
    have hreply : e.reply = .error (.agent (.terminal (.close text))) :=
      (congrArg Served.reply hserved).trans (congrArg Prod.snd hlost)
    have hafter : e.after = _ := (congrArg Served.after hserved).trans (congrArg Prod.fst hlost)
    have hsame := (sound.errors e he ⟨_, hreply⟩ sessionId).mpr hmem
    rw [hafter] at hsame
    exact (AList.mem_erase.mp hsame).1 rfl
  · intro kills
    refine ⟨?_, h.tracked kills, runtime.sessions.nodupKeys, ?_, ?_⟩
    · intro e he herror sessionId
      have hkills := kills e he
      have hdoes := RuntimeRun.does h he
      obtain ⟨call, reply, before, after⟩ := e
      dsimp only at hdoes
      cases hdoes with
      | nothing => exact Iff.rfl
      | start | kill | reap => exact nomatch herror.choose_spec
      | lose tracked failed => exact absurd failed (hkills.not_failed tracked)
    · intro e he sessionId hbefore hafter
      have hkills := kills e he
      have hdoes := RuntimeRun.does h he
      obtain ⟨call, reply, before, after⟩ := e
      dsimp only at hdoes
      have hnamed : ∀ named : TerminalSessionId, sessionId ∉ AList.erase named before.sessions →
          sessionId = named := by
        intro named hgone
        by_contra hother
        exact hgone (AList.mem_erase.mpr ⟨hother, hbefore⟩)
      cases hdoes with
      | nothing => exact absurd hbefore hafter
      | start => exact absurd ((AList.mem_insert _).mpr (Or.inr hbefore)) hafter
      | kill found killed =>
        obtain rfl := hnamed _ hafter
        exact ⟨_, found, Or.inl ⟨_, rfl, congrArg _ killed, rfl, rfl⟩⟩
      | reap found =>
        obtain rfl := hnamed _ hafter
        exact ⟨_, found, Or.inr ⟨_, rfl, _, rfl⟩⟩
      | lose tracked failed => exact absurd failed (hkills.not_failed tracked)
    · intro e he sessionId hother
      have hdoes := RuntimeRun.does h he
      obtain ⟨call, reply, before, after⟩ := e
      dsimp only at hdoes
      cases hdoes with
      | nothing => rfl
      | start => exact AList.lookup_insert_ne hother
      | kill | reap | lose => exact AList.lookup_erase_ne hother

end Runs

private def shell : TerminalSessionId := ⟨"shell-1"⟩

/-- Every operation succeeds. -/
private def willing : PtyOutcomes := ⟨fun _ => .ok (), fun _ => .ok (), fun _ => .ok (), .ok ()⟩

/-- A terminal is started, polled while it runs, and closed. -/
private def closedCalls : List RuntimeCall :=
  [.handleCommand (.startTerminal shell ⟨80, 24⟩) willing, .pollExit shell .running,
    .handleCommand (.closeTerminal shell) willing]

theorem tracks_running_iff_closed :
    TracksRunning (historyOf AgentTerminalRuntime.serve .new closedCalls)
      (endOf AgentTerminalRuntime.serve .new closedCalls) := by
  refine (tracks_running_iff (Serves.ofCalls AgentTerminalRuntime.serve .new closedCalls)).mpr ?_
  intro e he sessionId outcomes hcall hmem text hfailed
  simp only [closedCalls, historyOf, List.mem_cons, List.not_mem_nil, or_false] at he
  rcases he with rfl | rfl | rfl
  · cases hcall
  · cases hcall
  · cases hcall
    cases hfailed

/-- The kill of the close fails. -/
private def lostCalls : List RuntimeCall :=
  [.handleCommand (.startTerminal shell ⟨80, 24⟩) willing,
    .handleCommand (.closeTerminal shell) { willing with kill := .error "EPERM" }]

/-- The close returns an error, and the terminal that still runs is not tracked any more. -/
theorem failed_close_loses_terminal :
    (∃ e ∈ historyOf AgentTerminalRuntime.serve .new lostCalls,
      e.reply = .error (.agent (.terminal (.close "EPERM"))) ∧ shell ∈ e.before.sessions ∧
      shell ∉ e.after.sessions ∧ ¬EndsProcess shell e) ∧
    ¬TracksRunning (historyOf AgentTerminalRuntime.serve .new lostCalls)
      (endOf AgentTerminalRuntime.serve .new lostCalls) := by
  have hlost : ∃ e ∈ historyOf AgentTerminalRuntime.serve .new lostCalls,
      e.reply = .error (.agent (.terminal (.close "EPERM"))) ∧ shell ∈ e.before.sessions ∧
      shell ∉ e.after.sessions ∧ ¬EndsProcess shell e := by
    refine ⟨_, List.mem_cons_of_mem _ List.mem_cons_self, rfl, AList.lookup_isSome.mp rfl,
      AList.lookup_eq_none.mp rfl, ?_⟩
    rintro ⟨session, -, ⟨outcomes, hcall, hkill, -⟩ | ⟨status, hcall, -⟩⟩
    · cases hcall
      cases hkill
    · cases hcall
  refine ⟨hlost, fun sound => ?_⟩
  obtain ⟨e, he, hreply, hbefore, hafter, -⟩ := hlost
  exact hafter ((sound.errors e he ⟨_, hreply⟩ shell).mpr hbefore)

end Sunbolt.Agent
