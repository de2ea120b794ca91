/- Module: Sunbolt/Agent/HostRecords
   scope: sunbolt-agent/src/lib.rs
   digest: What the agents of a control plane keep in files and ask of it, step by step. -/

import Sunbolt.Agent.AgentRuntime

set_option autoImplicit false
set_option relaxedAutoImplicit false

namespace Sunbolt.Agent

open Sunbolt.Control (AgentEnrollmentRequest AgentEnrollmentResponse EnrollmentCall
  EnrollmentEvent EnrollmentReaches EnrollmentReply Grants NodeEnrollmentRegistry RandomBytes
  heartbeatRequest)
open Sunbolt.Library

section Steps

variable (sha256 : ByteArray → List UInt8)

/-- The calls that a process makes, with what it goes on to at the reply. -/
inductive Process.Asks (process : Process) : EnrollmentCall → (EnrollmentReply → Phase) → Prop
  | enroll {request : AgentEnrollmentRequest} (phase : process.phase = .enrolling request)
      (bytes : RandomBytes) (now : Nat) (system : Int) :
    Asks process (.enroll request bytes now system) afterEnroll
  | heartbeat {connection : PreparedConnection} (phase : process.phase = .connected connection)
      (now : Nat) :
    Asks process (.heartbeat (heartbeatRequest connection.heartbeat) now)
      (afterHeartbeat connection)

/-- What a step does. -/
inductive HostStep (hosts : Hosts) : Hosts → List HostCall → Prop
  | started (config : AgentConfig) (nodeInfo : LocalNodeInfo) (readable : Bool)
      (idle : hosts.isRunning config.identityPath = false) :
    HostStep hosts
      { hosts with processes := hosts.processes ++ [⟨config, nodeInfo,
        phaseAtStart sha256 config nodeInfo ((hosts.files config.identityPath).load readable)⟩] }
      []
  | stopped (index : Nat) (phase : Phase) (finished : phase.isOver = true) :
    HostStep hosts (hosts.setPhase index phase) []
  | called {index : Nat} {process : Process} {call : EnrollmentCall}
      {next : EnrollmentReply → Phase} {phase : Phase} {event : EnrollmentEvent}
      (found : hosts.processes[index]? = some process) (asks : process.Asks call next)
      (served : event = Library.served (NodeEnrollmentRegistry.serve sha256) hosts.registry call)
      (goes : phase = next event.reply ∨ phase.isOver = true) :
    HostStep hosts ({ hosts with registry := event.after }.setPhase index phase)
      [⟨some index, event⟩]
  | opened {index : Nat} {process : Process} {response : AgentEnrollmentResponse}
      (found : hosts.processes[index]? = some process)
      (phase : process.phase = .enrolled response) :
    HostStep hosts ((hosts.setFile process.path .cutOff).setPhase index
      (.saving (.fromEnrollment response process.nodeInfo))) []
  | written {index : Nat} {process : Process} {identity : AgentNodeIdentity} {after : Phase}
      (found : hosts.processes[index]? = some process) (phase : process.phase = .saving identity)
      (goes : after = .connected (.new sha256 process.config.controlPlaneUrl identity
        process.nodeInfo) ∨ after.isOver = true) :
    HostStep hosts ((hosts.setFile process.path (.complete identity)).setPhase index after) []
  | other {call : EnrollmentCall} {event : EnrollmentEvent}
      (served : event = Library.served (NodeEnrollmentRegistry.serve sha256) hosts.registry call) :
    HostStep hosts { hosts with registry := event.after } [⟨none, event⟩]

variable {sha256} {hosts after : Hosts} {calls : List HostCall} {event : HostEvent}

theorem step_exchange {index : Nat} {process : Process} {call : EnrollmentCall}
    {next : EnrollmentReply → Phase} (found : hosts.processes[index]? = some process)
    (asks : process.Asks call next) (delivery : Delivery)
    (h : hosts.exchange sha256 index call delivery next = (after, calls)) :
    HostStep sha256 hosts after calls := by
  cases delivery with
  | lost =>
    cases h
    exact .stopped index _ rfl
  | unanswered =>
    cases h
    exact .called found asks rfl (Or.inr rfl)
  | answered =>
    cases h
    exact .called found asks rfl (Or.inl rfl)

theorem step_proceed {index : Nat} {process : Process}
    (found : hosts.processes[index]? = some process)
    (h : hosts.proceed sha256 index process event process.phase = some (after, calls)) :
    HostStep sha256 hosts after calls := by
  generalize hphase : process.phase = phase at h
  unfold Hosts.proceed at h
  split at h
  · exact step_exchange found (.enroll hphase _ _ _) _ (Option.some.inj h)
  · split at h
    · cases h
      exact .opened found hphase
    · cases h
      exact .stopped index _ rfl
  · cases h
    refine .written found hphase ?_
    split
    · exact Or.inl rfl
    · exact Or.inr rfl
  · cases h
    exact .stopped index _ rfl
  · exact step_exchange found (.heartbeat hphase _) _ (Option.some.inj h)
  · cases h
    exact .stopped index _ rfl
  · split at h
    · cases h
    · cases h
      exact .stopped index _ rfl
  · cases h

theorem agentHosts_step (h : (agentHosts sha256).step hosts event = some (after, calls)) :
    HostStep sha256 hosts after calls := by
  change Hosts.step sha256 hosts event = some (after, calls) at h
  unfold Hosts.step at h
  split at h
  · dsimp only at h
    split at h
    · cases h
    · rename_i idle
      cases h
      exact .started _ _ _ (Bool.not_eq_true _ ▸ idle)
  · cases h
    exact .other rfl
  · split at h
    · cases h
    · obtain ⟨process, found, h⟩ := Option.bind_eq_some_iff.mp h
      exact step_proceed found h

end Steps

/-! The files and the processes. -/

section Layout

variable (sha256 : ByteArray → List UInt8)

/-- The file is as far as the process has come. -/
def Phase.Agrees (file : IdentityFile) : Phase → Prop
  | .enrolling _ => file = .missing
  | .enrolled _ => file = .missing
  | .saving _ => file = .cutOff
  | .connected connection => ∃ identity nodeInfo, file = .complete identity ∧
      connection.heartbeat = .fromNodeIdentity sha256 identity.nodeId
        identity.credentialFingerprint identity.credentialSecret nodeInfo
  | .ended _ => True
  | .killed => True

/-- One process at most is running on a file, and it agrees with it. -/
structure Layout (files : String → IdentityFile) (processes : List Process) : Prop where
  alone : ∀ {i j : Nat} {process other : Process}, processes[i]? = some process →
    processes[j]? = some other → process.phase.isOver = false → other.phase.isOver = false →
    process.path = other.path → i = j
  agrees : ∀ {i : Nat} {process : Process}, processes[i]? = some process →
    process.phase.Agrees sha256 (files process.path)

variable {sha256} {files : String → IdentityFile} {processes : List Process} {index : Nat}
  {process : Process} {file : IdentityFile} {phase : Phase}

theorem Phase.agrees_of_isOver (h : phase.isOver = true) : phase.Agrees sha256 file := by
  cases phase with
  | ended result => trivial
  | killed => trivial
  | _ => cases h

/-- The processes after one of them has gone on to another phase. -/
theorem getElem?_phase {i : Nat} {found : Process}
    (h : (processes.modify index ({ · with phase }))[i]? = some found) :
    processes[i]? = some found ∧ i ≠ index ∨
      ∃ process, processes[index]? = some process ∧ i = index ∧
        found = { process with phase } := by
  rw [List.getElem?_modify] at h
  obtain ⟨process, hprocess, hfound⟩ := Option.map_eq_some_iff.mp h
  by_cases hindex : index = i
  · subst hindex
    rw [if_pos rfl] at hfound
    exact Or.inr ⟨process, hprocess, rfl, hfound.symm⟩
  · rw [if_neg hindex] at hfound
    exact Or.inl ⟨hfound ▸ hprocess, fun heq => hindex heq.symm⟩

/-- A running process changes its phase, and nobody's file but its own. -/
theorem Layout.change (h : Layout sha256 files processes)
    (found : processes[index]? = some process) (running : process.phase.isOver = false)
    (agrees : phase.Agrees sha256 file) :
    Layout sha256 (Function.update files process.path file)
      (processes.modify index ({ · with phase })) := by
  have earlier : ∀ {i : Nat} {changed : Process},
      (processes.modify index ({ · with phase }))[i]? = some changed →
        ∃ old, processes[i]? = some old ∧ old.path = changed.path ∧
          (changed.phase.isOver = false → old.phase.isOver = false) := by
    intro i changed hchanged
    rcases getElem?_phase hchanged with ⟨hsame, -⟩ | ⟨old, hold, rfl, rfl⟩
    · exact ⟨changed, hsame, rfl, id⟩
    · obtain rfl := Option.some.inj (found.symm.trans hold)
      exact ⟨process, found, rfl, fun _ => running⟩
  constructor
  · intro i j first second hfirst hsecond hi hj hpath
    obtain ⟨old, hold, holdPath, holdRuns⟩ := earlier hfirst
    obtain ⟨other, hother, hotherPath, hotherRuns⟩ := earlier hsecond
    exact h.alone hold hother (holdRuns hi) (hotherRuns hj)
      (holdPath.trans (hpath.trans hotherPath.symm))
  · intro i changed hchanged
    rcases getElem?_phase hchanged with ⟨hsame, hother⟩ | ⟨old, hold, rfl, rfl⟩
    · by_cases hpath : changed.path = process.path
      · -- another process with this file is over
        cases hover : changed.phase.isOver with
        | true => exact Phase.agrees_of_isOver hover
        | false => exact absurd (h.alone hsame found hover running hpath) hother
      · rw [Function.update_of_ne hpath]
        exact h.agrees hsame
    · obtain rfl := Option.some.inj (found.symm.trans hold)
      change phase.Agrees sha256 (Function.update files process.path file process.path)
      rwa [Function.update_self]

theorem Layout.stop (h : Layout sha256 files processes) (finished : phase.isOver = true) :
    Layout sha256 files (processes.modify index ({ · with phase })) := by
  constructor
  · intro i j first second hfirst hsecond hi hj hpath
    rcases getElem?_phase hfirst with ⟨hfirst, -⟩ | ⟨_, _, _, rfl⟩
    · rcases getElem?_phase hsecond with ⟨hsecond, -⟩ | ⟨_, _, _, rfl⟩
      · exact h.alone hfirst hsecond hi hj hpath
      · exact absurd (finished.symm.trans hj) (by simp)
    · exact absurd (finished.symm.trans hi) (by simp)
  · intro i changed hchanged
    rcases getElem?_phase hchanged with ⟨hsame, -⟩ | ⟨_, _, _, rfl⟩
    · exact h.agrees hsame
    · exact Phase.agrees_of_isOver finished

theorem agrees_phaseAtStart (config : AgentConfig) (nodeInfo : LocalNodeInfo)
    (file : IdentityFile) (readable : Bool) :
    (phaseAtStart sha256 config nodeInfo (file.load readable)).Agrees sha256 file := by
  unfold IdentityFile.load
  cases readable with
  | false => trivial
  | true =>
    cases file with
    | missing =>
      change (phaseAtStart sha256 config nodeInfo (.ok none)).Agrees sha256 .missing
      unfold phaseAtStart
      cases config.enrollmentRequest nodeInfo with
      | error error => trivial
      | ok request => rfl
    | cutOff => trivial
    | complete identity => exact ⟨identity, nodeInfo, rfl, rfl⟩

theorem not_running {hosts : Hosts} {path : String} (idle : hosts.isRunning path = false)
    (found : hosts.processes[index]? = some process) (running : process.phase.isOver = false) :
    process.path ≠ path := by
  intro hpath
  have hany := List.any_eq_false.mp idle process (List.mem_of_getElem? found)
  simp [hpath, running] at hany

theorem getElem?_started {i : Nat} {found : Process}
    (h : (processes ++ [process])[i]? = some found) :
    processes[i]? = some found ∨ i = processes.length ∧ found = process := by
  rw [List.getElem?_append] at h
  split at h
  · exact Or.inl h
  · rename_i hlength
    rw [List.getElem?_singleton] at h
    split at h
    · rename_i hi
      exact Or.inr ⟨by omega, (Option.some.inj h).symm⟩
    · cases h

theorem Layout.start {hosts : Hosts} (h : Layout sha256 hosts.files hosts.processes)
    (idle : hosts.isRunning process.path = false)
    (agrees : process.phase.Agrees sha256 (hosts.files process.path)) :
    Layout sha256 hosts.files (hosts.processes ++ [process]) := by
  constructor
  · intro i j first second hfirst hsecond hi hj hpath
    rcases getElem?_started hfirst with hold | ⟨hlast, hnew⟩
    · rcases getElem?_started hsecond with hold' | ⟨hlast', hnew'⟩
      · exact h.alone hold hold' hi hj hpath
      · exact absurd (hnew' ▸ hpath) (not_running idle hold hi)
    · rcases getElem?_started hsecond with hold' | ⟨hlast', hnew'⟩
      · exact absurd (hnew ▸ hpath).symm (not_running idle hold' hj)
      · rw [hlast, hlast']
  · intro i found hfound
    rcases getElem?_started hfound with hold | ⟨rfl, rfl⟩
    · exact h.agrees hold
    · exact agrees

theorem Process.Asks.running {call : EnrollmentCall} {next : EnrollmentReply → Phase}
    (asks : process.Asks call next) : process.phase.isOver = false := by
  cases asks with
  | enroll phase bytes now system => exact phase ▸ rfl
  | heartbeat phase now => exact phase ▸ rfl

theorem Process.Asks.agrees {call : EnrollmentCall} {next : EnrollmentReply → Phase}
    (asks : process.Asks call next) (h : process.phase.Agrees sha256 file)
    (reply : EnrollmentReply) : (next reply).Agrees sha256 file := by
  cases asks with
  | enroll phase bytes now system =>
    rw [phase] at h
    unfold afterEnroll
    split
    · exact h
    · trivial
  | heartbeat phase now =>
    rw [phase] at h
    unfold afterHeartbeat
    split
    · exact h
    · trivial

theorem HostStep.layout {hosts after : Hosts} {calls : List HostCall}
    (step : HostStep sha256 hosts after calls) (h : Layout sha256 hosts.files hosts.processes) :
    Layout sha256 after.files after.processes := by
  cases step with
  | started config nodeInfo readable idle =>
    let process : Process := ⟨config, nodeInfo,
      phaseAtStart sha256 config nodeInfo ((hosts.files config.identityPath).load readable)⟩
    exact Layout.start h (show hosts.isRunning process.path = false from idle)
      (agrees_phaseAtStart config nodeInfo _ readable)
  | stopped index phase finished => exact h.stop finished
  | called found asks served goes =>
    rcases goes with rfl | finished
    · have hnext := fun reply => h.change found asks.running (asks.agrees (h.agrees found) reply)
      simp only [Function.update_eq_self] at hnext
      exact hnext _
    · exact h.stop finished
  | opened found phase => exact h.change found (phase ▸ rfl) rfl
  | written found phase goes =>
    refine h.change found (phase ▸ rfl) ?_
    rcases goes with rfl | finished
    · exact ⟨_, _, rfl, rfl⟩
    · exact Phase.agrees_of_isOver finished
  | other served => exact h

end Layout

/-! Where the identities come from. -/

section Records

variable (sha256 : ByteArray → List UInt8)

def Hosts.pathOf (hosts : Hosts) (index : Nat) : Option String :=
  (hosts.processes[index]?).map Process.path

/-- A process with this file was given the identity, with a credential that is good until then. -/
def Enrolled (hosts : Hosts) (calls : List HostCall) (path : String)
    (identity : AgentNodeIdentity) (expiresAt : Nat) : Prop :=
  ∃ call ∈ calls, ∃ index, call.caller = some index ∧ hosts.pathOf index = some path ∧
    Grants call.event identity.nodeId identity.credentialSecret identity.credentialFingerprint
      expiresAt

/-- The identity that a process has been given and not yet saved. -/
def Process.pending (process : Process) : Option AgentNodeIdentity :=
  match process.phase with
  | .enrolled response => some (.fromEnrollment response process.nodeInfo)
  | .saving identity => some identity
  | _ => none

/-- The heartbeat of a host with this identity. -/
def Beats (identity : AgentNodeIdentity) (call : EnrollmentCall) : Prop :=
  ∃ nodeInfo now, call = .heartbeat (heartbeatRequest (.fromNodeIdentity sha256 identity.nodeId
    identity.credentialFingerprint identity.credentialSecret nodeInfo)) now

/-- What a process asks of the control plane: to enroll, or with an identity that was given to
    a process with its file before. -/
def Entitled (hosts : Hosts) (calls : List HostCall) (index : Nat) (call : EnrollmentCall) : Prop :=
  (∃ request bytes now system, call = .enroll request bytes now system) ∨
    ∃ path identity expiresAt, hosts.pathOf index = some path ∧
      Enrolled hosts calls path identity expiresAt ∧ Beats sha256 identity call

/-- The control plane has served the calls, and every identity was given in one of them. -/
structure Records (hosts : Hosts) (calls : List HostCall) : Prop where
  reached : EnrollmentReaches sha256 (calls.map (·.event)) hosts.registry
  pending : ∀ {i : Nat} {process : Process} {identity : AgentNodeIdentity},
    hosts.processes[i]? = some process → process.pending = some identity →
    ∃ expiresAt, Enrolled hosts calls process.path identity expiresAt
  files : ∀ {path : String} {identity : AgentNodeIdentity},
    hosts.files path = .complete identity →
    ∃ expiresAt, Enrolled hosts calls path identity expiresAt
  entitled : ∀ {front back : List HostCall} {call : HostCall} {index : Nat},
    calls = front ++ call :: back → call.caller = some index →
    Entitled sha256 hosts front index call.event.call

variable {sha256} {hosts after : Hosts} {calls more : List HostCall} {path : String}
  {identity : AgentNodeIdentity} {expiresAt index : Nat}

theorem pathOf_of_getElem? {process : Process} (h : hosts.processes[index]? = some process) :
    hosts.pathOf index = some process.path := by
  rw [Hosts.pathOf, h]
  rfl

theorem pathOf_setPhase (hosts : Hosts) (i : Nat) (phase : Phase) :
    (hosts.setPhase i phase).pathOf index = hosts.pathOf index := by
  simp only [Hosts.pathOf, Hosts.setPhase, List.getElem?_modify]
  cases hosts.processes[index]? with
  | none => rfl
  | some process =>
    by_cases hindex : i = index
    · subst hindex
      simp [Process.path]
    · simp [hindex]

/-- A process keeps its file. -/
theorem HostStep.pathOf (step : HostStep sha256 hosts after more)
    (h : hosts.pathOf index = some path) : after.pathOf index = some path := by
  cases step with
  | started config nodeInfo readable idle =>
    obtain ⟨process, hprocess, hpath⟩ := Option.map_eq_some_iff.mp h
    have hlength := (List.getElem?_eq_some_iff.mp hprocess).1
    rw [Hosts.pathOf, List.getElem?_append_left hlength, hprocess, Option.map_some, hpath]
  | stopped _ phase finished => rwa [pathOf_setPhase]
  | called found asks served goes => exact (pathOf_setPhase ..).trans h
  | opened found phase => exact (pathOf_setPhase ..).trans h
  | written found phase goes => exact (pathOf_setPhase ..).trans h
  | other served => exact h

theorem Enrolled.later (h : Enrolled hosts calls path identity expiresAt)
    (step : HostStep sha256 hosts after more) (extra : List HostCall) :
    Enrolled after (calls ++ extra) path identity expiresAt := by
  obtain ⟨call, hmem, index, hcaller, hpath, grants⟩ := h
  exact ⟨call, List.mem_append_left _ hmem, index, hcaller, step.pathOf hpath, grants⟩

theorem Entitled.later {call : EnrollmentCall} (h : Entitled sha256 hosts calls index call)
    (step : HostStep sha256 hosts after more) : Entitled sha256 after calls index call := by
  rcases h with henroll | ⟨path, identity, expiresAt, hpath, henrolled, hbeats⟩
  · exact Or.inl henroll
  · have henrolled := henrolled.later step []
    rw [List.append_nil] at henrolled
    exact Or.inr ⟨path, identity, expiresAt, step.pathOf hpath, henrolled, hbeats⟩

/-- The control plane serves what a step shows. -/
theorem HostStep.serves {start : NodeEnrollmentRegistry} {history : List EnrollmentEvent}
    (step : HostStep sha256 hosts after more)
    (h : Serves (NodeEnrollmentRegistry.serve sha256) start history hosts.registry) :
    Serves (NodeEnrollmentRegistry.serve sha256) start (history ++ more.map (·.event))
      after.registry := by
  cases step with
  | called found asks served goes =>
    subst served
    exact h.next _
  | other served =>
    subst served
    exact h.next _
  | _ =>
    rw [List.map_nil, List.append_nil]
    exact h

theorem pending_of_isOver {process : Process} {phase : Phase} (h : phase.isOver = true) :
    ({ process with phase } : Process).pending = none := by
  cases phase with
  | ended result => rfl
  | killed => rfl
  | _ => cases h

theorem pending_phaseAtStart (config : AgentConfig) (nodeInfo : LocalNodeInfo)
    (loaded : Except RuntimeError (Option AgentNodeIdentity)) :
    (⟨config, nodeInfo, phaseAtStart sha256 config nodeInfo loaded⟩ : Process).pending = none := by
  unfold phaseAtStart
  cases loaded with
  | error error => rfl
  | ok found =>
    cases found with
    | some identity => rfl
    | none => cases config.enrollmentRequest nodeInfo <;> rfl

/-- Only the answer to an enrollment gives a process something to save. -/
theorem Process.Asks.pending {process : Process} {call : EnrollmentCall}
    {next : EnrollmentReply → Phase} (asks : process.Asks call next) {reply : EnrollmentReply}
    (h : ({ process with phase := next reply } : Process).pending = some identity) :
    ∃ request bytes now system response, call = .enroll request bytes now system ∧
      reply = .enrolled (.ok response) ∧
      identity = .fromEnrollment response process.nodeInfo := by
  cases asks with
  | enroll phase bytes now system =>
    unfold afterEnroll at h
    split at h
    · exact ⟨_, _, _, _, _, rfl, rfl, (Option.some.inj h).symm⟩
    · cases h
  | heartbeat phase now =>
    unfold afterHeartbeat at h
    split at h
    · cases h
    · cases h

/-- What is pending for a process was pending before, or has just been given to it. -/
theorem Records.pending_step (h : Records sha256 hosts calls)
    (step : HostStep sha256 hosts after more) {i : Nat} {process : Process}
    (found : after.processes[i]? = some process) (hpending : process.pending = some identity) :
    ∃ expiresAt, Enrolled after (calls ++ more) process.path identity expiresAt := by
  have kept : ∀ {old : Process}, hosts.processes[i]? = some old → old.pending = some identity →
      old.path = process.path →
      ∃ expiresAt, Enrolled after (calls ++ more) process.path identity expiresAt := by
    intro old hold hidentity hpath
    obtain ⟨expiresAt, henrolled⟩ := h.pending hold hidentity
    exact ⟨expiresAt, hpath ▸ henrolled.later step more⟩
  cases step with
  | started config nodeInfo readable idle =>
    rcases getElem?_started found with hold | ⟨-, rfl⟩
    · exact kept hold hpending rfl
    · rw [pending_phaseAtStart] at hpending
      cases hpending
  | stopped _ phase finished =>
    rcases getElem?_phase found with ⟨hold, -⟩ | ⟨old, hold, -, rfl⟩
    · exact kept hold hpending rfl
    · rw [pending_of_isOver finished] at hpending
      cases hpending
  | @called _ process _ _ _ _ hprocess asks served goes =>
    rcases getElem?_phase found with ⟨hold, -⟩ | ⟨old, hold, rfl, rfl⟩
    · exact kept hold hpending rfl
    · obtain rfl := Option.some.inj (hprocess.symm.trans hold)
      rcases goes with rfl | finished
      · obtain ⟨request, bytes, now, system, response, hcall, hreply, rfl⟩ :=
          asks.pending hpending
        subst hcall
        have hpath : hosts.pathOf i = some process.path := pathOf_of_getElem? hprocess
        exact ⟨_, _, List.mem_append_right _ List.mem_cons_self, i, rfl,
          (pathOf_setPhase ..).trans hpath, .enrolled (congrArg Served.call served) hreply⟩
      · rw [pending_of_isOver finished] at hpending
        cases hpending
  | opened hprocess phase =>
    rcases getElem?_phase found with ⟨hold, -⟩ | ⟨old, hold, rfl, rfl⟩
    · exact kept hold hpending rfl
    · obtain rfl := Option.some.inj (hprocess.symm.trans hold)
      refine kept hprocess ?_ rfl
      rw [← hpending, Process.pending, phase]
      rfl
  | written hprocess phase goes =>
    rcases getElem?_phase found with ⟨hold, -⟩ | ⟨old, hold, rfl, rfl⟩
    · exact kept hold hpending rfl
    · rcases goes with rfl | finished
      · cases hpending
      · rw [pending_of_isOver finished] at hpending
        cases hpending
  | other served => exact kept found hpending rfl

theorem Records.files_step (h : Records sha256 hosts calls)
    (step : HostStep sha256 hosts after more) (found : after.files path = .complete identity) :
    ∃ expiresAt, Enrolled after (calls ++ more) path identity expiresAt := by
  have kept : hosts.files path = .complete identity →
      ∃ expiresAt, Enrolled after (calls ++ more) path identity expiresAt := by
    intro hfile
    obtain ⟨expiresAt, henrolled⟩ := h.files hfile
    exact ⟨expiresAt, henrolled.later step more⟩
  cases step with
  | @opened _ process _ hprocess phase =>
    change Function.update hosts.files process.path IdentityFile.cutOff path = _ at found
    by_cases hpath : path = process.path
    · rw [hpath, Function.update_self] at found
      cases found
    · rw [Function.update_of_ne hpath] at found
      exact kept found
  | @written _ process saved _ hprocess phase goes =>
    change Function.update hosts.files process.path (IdentityFile.complete saved) path = _ at found
    by_cases hpath : path = process.path
    · rw [hpath, Function.update_self] at found
      cases found
      have hpending : process.pending = some identity := by rw [Process.pending, phase]
      obtain ⟨expiresAt, henrolled⟩ := h.pending hprocess hpending
      exact ⟨expiresAt, hpath ▸ henrolled.later (.written hprocess phase goes) []⟩
    · rw [Function.update_of_ne hpath] at found
      exact kept found
  | _ => exact kept found

/-- The last of the calls, or one of those before. -/
theorem split_snoc {α : Type} {xs front back : List α} {last x : α}
    (h : xs ++ [last] = front ++ x :: back) :
    xs = front ∧ last = x ∨ ∃ rest, xs = front ++ x :: rest := by
  rcases List.eq_nil_or_concat back with rfl | ⟨rest, final, rfl⟩
  · obtain ⟨hxs, hlast⟩ := List.append_inj' h rfl
    exact Or.inl ⟨hxs, (List.cons.inj hlast).1⟩
  · rw [List.concat_eq_append, ← List.cons_append, ← List.append_assoc] at h
    exact Or.inr ⟨rest, (List.append_inj' h rfl).1⟩

theorem Records.entitled_step (h : Records sha256 hosts calls)
    (layout : Layout sha256 hosts.files hosts.processes)
    (step : HostStep sha256 hosts after more) {front back : List HostCall} {call : HostCall}
    (hsplit : calls ++ more = front ++ call :: back) (hcaller : call.caller = some index) :
    Entitled sha256 after front index call.event.call := by
  have kept : ∀ {rest : List HostCall}, calls = front ++ call :: rest →
      Entitled sha256 after front index call.event.call :=
    fun hold => (h.entitled hold hcaller).later step
  have stepped := step
  cases step with
  | called hprocess asks served goes =>
    rcases split_snoc hsplit with ⟨rfl, rfl⟩ | ⟨rest, hold⟩
    · cases hcaller
      subst served
      cases asks with
      | enroll phase bytes now system => exact Or.inl ⟨_, bytes, now, system, rfl⟩
      | heartbeat phase now =>
        have hagrees := layout.agrees hprocess
        rw [phase] at hagrees
        obtain ⟨identity, nodeInfo, hfile, hheartbeat⟩ := hagrees
        obtain ⟨expiresAt, henrolled⟩ := h.files hfile
        refine Entitled.later (Or.inr ⟨_, identity, expiresAt, pathOf_of_getElem? hprocess,
          henrolled, nodeInfo, now, ?_⟩) stepped
        rw [← hheartbeat]
        rfl
    · exact kept hold
  | other served =>
    rcases split_snoc hsplit with ⟨rfl, rfl⟩ | ⟨rest, hold⟩
    · cases hcaller
    · exact kept hold
  | _ =>
    rw [List.append_nil] at hsplit
    exact kept hsplit

theorem Records.step (h : Records sha256 hosts calls)
    (layout : Layout sha256 hosts.files hosts.processes)
    (step : HostStep sha256 hosts after more) : Records sha256 after (calls ++ more) where
  reached := by
    rw [List.map_append]
    exact step.serves h.reached
  pending := h.pending_step step
  files := h.files_step step
  entitled := h.entitled_step layout step

end Records

end Sunbolt.Agent
