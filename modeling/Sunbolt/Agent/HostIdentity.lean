/- Module: Sunbolt/Agent/HostIdentity
   scope: sunbolt-agent/src/lib.rs, sunbolt-control/src/node.rs
   digest: Where the identity of a host comes from, and how long it is good for. -/

import Sunbolt.Agent.HostRecords
import Sunbolt.Control.NodePresence
import Sunbolt.Control.RevokedNodes

set_option autoImplicit false
set_option relaxedAutoImplicit false

namespace Sunbolt.Agent

open Sunbolt.Control (AgentHeartbeatRequest EnrollmentCall EnrollmentEvent EnrollmentReaches
  EnrollmentReply Grants HasCredential NodeEnrollmentRegistry NodeEnrollmentState
  credentialFingerprint credentialsDistinct decided_heartbeat grantedSecrets
  hasCredential_of_grants heartbeatRequest isRevoked_of_serves)
open Sunbolt.Control.NodeEnrollmentRegistry (nodeIdText)
open Sunbolt.Library

/-! Runs. -/

section Runs

variable {sha256 : ByteArray → List UInt8} {events : List HostEvent} {hosts : Hosts}
  {calls : List HostCall}

/-- The events of a run that starts without a node, an identity or a process. -/
def HostsReach (sha256 : ByteArray → List UInt8) (events : List HostEvent) (hosts : Hosts)
    (calls : List HostCall) : Prop :=
  (agentHosts sha256).run .initial events = some (hosts, calls)

theorem HostsReach.sound (h : HostsReach sha256 events hosts calls) :
    Layout sha256 hosts.files hosts.processes ∧ Records sha256 hosts calls := by
  refine Machine.invariant (I := fun calls hosts =>
    Layout sha256 hosts.files hosts.processes ∧ Records sha256 hosts calls) ⟨⟨?_, ?_⟩, ?_⟩ ?_ h
  · intro i j process other hprocess
    simp [Hosts.initial] at hprocess
  · intro i process hprocess
    simp [Hosts.initial] at hprocess
  · refine ⟨.start, ?_, ?_, ?_⟩
    · intro i process identity hprocess
      simp [Hosts.initial] at hprocess
    · intro path identity hfile
      cases hfile
    · intro front back call index hsplit
      simp at hsplit
  · rintro calls hosts event next now ⟨layout, records⟩ hstep
    have step := agentHosts_step hstep
    exact ⟨step.layout layout, records.step layout step⟩

/-- A credential on record is good for its node until it expires or the node is revoked. -/
theorem holds_iff {state : NodeEnrollmentState} {next : Nat} (linked : state.Linked next)
    (distinct : state.CredentialsDistinct) {nodeId secret fingerprint : String}
    {expiresAt : Nat} (has : HasCredential sha256 state nodeId secret fingerprint expiresAt)
    (now : Nat) :
    state.Holds nodeId fingerprint (credentialProof sha256 nodeId secret) now ↔
      ¬state.IsRevoked nodeId ∧ now < expiresAt := by
  obtain ⟨node, hnode, credential, hmem, hid, hfingerprint, hproof, hexpires⟩ := has
  have hproof : credential.credentialProof = credentialProof sha256 nodeId secret := hproof
  constructor
  · rintro ⟨other, hother, rfl, allowed, found, hfound, hfoundId, hsame, hsameProof, hlive⟩
    have hnode' := linked.node_of_mem hother
    obtain rfl := Option.some.inj (hnode.symm.trans hnode')
    refine ⟨?_, ?_⟩
    · rintro ⟨revoked, hrevoked, hstatus⟩
      obtain rfl := Option.some.inj (hnode.symm.trans hrevoked)
      exact allowed hstatus
    · -- both credentials are the one that is found for the fingerprint and the proof
      have hfirst := NodeEnrollmentState.authenticatedCredential_of_mem distinct hmem
      have hsecond := NodeEnrollmentState.authenticatedCredential_of_mem distinct hfound
      rw [hid, hproof, hfingerprint] at hfirst
      rw [hfoundId, hsameProof, hsame, hfirst] at hsecond
      rw [← hexpires, Option.some.inj hsecond]
      exact hlive
  · rintro ⟨allowed, hlive⟩
    refine ⟨node, Records.mem_of_find hnode, Records.key_of_find hnode, ?_, credential, hmem, hid,
      hfingerprint, hproof, hexpires ▸ hlive⟩
    exact fun hrevoked => allowed ⟨node, hnode, hrevoked⟩

section Accepted

variable {front back : List HostCall} {call : HostCall} {path : String}
  {identity : AgentNodeIdentity} {expiresAt : Nat}

/-- The secrets that were given out are all different, and so are their fingerprints. -/
structure SecretsApart (sha256 : ByteArray → List UInt8) (calls : List HostCall) : Prop where
  secrets : (grantedSecrets (calls.map (·.event))).Nodup
  fingerprints : ∀ secret ∈ grantedSecrets (calls.map (·.event)),
    ∀ other ∈ grantedSecrets (calls.map (·.event)),
    credentialFingerprint sha256 secret = credentialFingerprint sha256 other → secret = other

theorem SecretsApart.earlier (h : SecretsApart sha256 (front ++ back)) :
    SecretsApart sha256 front := by
  have hsplit : grantedSecrets ((front ++ back).map (·.event)) =
      grantedSecrets (front.map (·.event)) ++ grantedSecrets (back.map (·.event)) := by
    rw [List.map_append, grantedSecrets, List.filterMap_append]
    rfl
  refine ⟨?_, ?_⟩
  · have hnodup := h.secrets
    rw [hsplit] at hnodup
    exact hnodup.of_append_left
  · intro secret hsecret other hother
    refine h.fingerprints secret ?_ other ?_
    · rw [hsplit]
      exact List.mem_append_left _ hsecret
    · rw [hsplit]
      exact List.mem_append_left _ hother

/-- A heartbeat with an identity is accepted until its credential expires or its node is
    revoked. -/
theorem Records.accepts_iff (records : Records sha256 hosts calls)
    (apart : SecretsApart sha256 calls) (hsplit : calls = front ++ call :: back)
    (henrolled : Enrolled hosts front path identity expiresAt)
    {nodeInfo : LocalNodeInfo} {now : Nat}
    (hcall : call.event.call = .heartbeat (heartbeatRequest (.fromNodeIdentity sha256
      identity.nodeId identity.credentialFingerprint identity.credentialSecret nodeInfo)) now) :
    (∃ view, call.event.reply = .viewed (.ok view)) ↔
      ¬call.event.before.inner.IsRevoked identity.nodeId ∧ now < expiresAt := by
  obtain ⟨opener, hopener, index, -, -, grants⟩ := henrolled
  have hevents : calls.map (·.event) =
      front.map (·.event) ++ call.event :: back.map (·.event) := by
    rw [hsplit, List.map_append, List.map_cons]
  obtain ⟨reached, hserved, -⟩ := records.reached.split hevents
  have reached : EnrollmentReaches sha256 (front.map (·.event)) call.event.before := reached
  rw [hsplit] at apart
  have distinct := credentialsDistinct reached apart.earlier.secrets apart.earlier.fingerprints
  have has := hasCredential_of_grants reached (List.mem_map_of_mem hopener) grants
  have hreply : call.event.reply = .viewed (call.event.before.heartbeat (heartbeatRequest
      (.fromNodeIdentity sha256 identity.nodeId identity.credentialFingerprint
        identity.credentialSecret nodeInfo)) now).2 := by
    have hcalled := congrArg Served.reply hserved
    rw [hcall] at hcalled
    exact hcalled
  rw [← holds_iff reached.linked distinct has now,
    ← NodeEnrollmentState.checkCredential_ok_iff reached.linked distinct, hreply]
  simp only [EnrollmentReply.viewed.injEq]
  exact (decided_heartbeat call.event.before _ now).accepts

end Accepted

/-! Identities that are never replaced. -/

section Kept

variable {later : List HostEvent} {final : Hosts} {more : List HostCall} {path : String}
  {identity : AgentNodeIdentity}

theorem serves_of_run (h : (agentHosts sha256).run hosts later = some (final, more)) :
    Serves (NodeEnrollmentRegistry.serve sha256) hosts.registry (more.map (·.event))
      final.registry := by
  refine Machine.invariant (I := fun more final => Serves (NodeEnrollmentRegistry.serve sha256)
    hosts.registry (more.map (·.event)) final.registry) .start ?_ h
  intro more current event next now hserves hstep
  rw [List.map_append]
  exact (agentHosts_step hstep).serves hserves

/-- The callers of a run, each of which has a file, and the callers on one file do what `P`
    says. -/
def CallersOn (path : String) (P : EnrollmentCall → Prop) (more : List HostCall)
    (hosts : Hosts) : Prop :=
  ∀ call ∈ more, ∀ index, call.caller = some index →
    ∃ own, hosts.pathOf index = some own ∧ (own = path → P call.event.call)

theorem CallersOn.step {P : EnrollmentCall → Prop} {current after : Hosts} {now : List HostCall}
    (h : CallersOn path P more current) (step : HostStep sha256 current after now)
    (asked : ∀ {index : Nat} {process : Process} {call : EnrollmentCall}
      {next : EnrollmentReply → Phase}, current.processes[index]? = some process →
      process.Asks call next → process.path = path → P call) :
    CallersOn path P (more ++ now) after := by
  intro call hmem index hcaller
  rcases List.mem_append.mp hmem with hmem | hnow
  · obtain ⟨own, hown, hproperty⟩ := h call hmem index hcaller
    exact ⟨own, step.pathOf hown, hproperty⟩
  · have stepped := step
    cases step with
    | called found asks served goes =>
      rw [List.mem_singleton] at hnow
      subst hnow
      cases hcaller
      subst served
      exact ⟨_, stepped.pathOf (pathOf_of_getElem? found), asked found asks⟩
    | other served =>
      rw [List.mem_singleton] at hnow
      subst hnow
      cases hcaller
    | _ => cases hnow

/-- The files that a step changes are those of processes that have not got an identity file. -/
theorem HostStep.files {after : Hosts} (step : HostStep sha256 hosts after more)
    (quiet : ∀ {index : Nat} {process : Process}, hosts.processes[index]? = some process →
      process.path = path → (∀ response, process.phase ≠ .enrolled response) ∧
        ∀ identity, process.phase ≠ .saving identity) :
    after.files path = hosts.files path := by
  cases step with
  | @opened _ process response found phase =>
    refine Function.update_of_ne ?_ _ _
    rintro rfl
    exact (quiet found rfl).1 response phase
  | @written _ process identity _ found phase goes =>
    refine Function.update_of_ne ?_ _ _
    rintro rfl
    exact (quiet found rfl).2 identity phase
  | _ => rfl

/-- A process that is running has been so before the step, or has been started by it. -/
theorem HostStep.running {after : Hosts} (step : HostStep sha256 hosts after more) {index : Nat}
    {process : Process} (found : after.processes[index]? = some process)
    (running : process.phase.isOver = false) :
    (∃ old, hosts.processes[index]? = some old ∧ old.path = process.path ∧
      old.phase.isOver = false) ∨
    ∃ readable, process.phase = phaseAtStart sha256 process.config process.nodeInfo
      ((hosts.files process.path).load readable) := by
  have changed : ∀ {i : Nat} {process' : Process} {phase : Phase},
      hosts.processes[i]? = some process' → process'.phase.isOver = false →
      (hosts.processes.modify i ({ · with phase }))[index]? = some process →
      ∃ old, hosts.processes[index]? = some old ∧ old.path = process.path ∧
        old.phase.isOver = false := by
    intro i process' phase hprocess hrunning hchanged
    rcases getElem?_phase hchanged with ⟨hold, -⟩ | ⟨old, hold, rfl, rfl⟩
    · exact ⟨process, hold, rfl, running⟩
    · obtain rfl := Option.some.inj (hprocess.symm.trans hold)
      exact ⟨process', hprocess, rfl, hrunning⟩
  cases step with
  | started config nodeInfo readable idle =>
    rcases getElem?_started found with hold | ⟨-, rfl⟩
    · exact Or.inl ⟨process, hold, rfl, running⟩
    · exact Or.inr ⟨readable, rfl⟩
  | stopped _ phase finished =>
    rcases getElem?_phase found with ⟨hold, -⟩ | ⟨old, hold, rfl, rfl⟩
    · exact Or.inl ⟨process, hold, rfl, running⟩
    · exact absurd (finished.symm.trans running) (by simp)
  | called hprocess asks served goes => exact Or.inl (changed hprocess asks.running found)
  | opened hprocess phase => exact Or.inl (changed hprocess (phase ▸ rfl) found)
  | written hprocess phase goes => exact Or.inl (changed hprocess (phase ▸ rfl) found)
  | other served => exact Or.inl ⟨process, found, rfl, running⟩

/-- While a file holds an identity, a process with this file only beats with it. -/
theorem saved_run (layout : Layout sha256 hosts.files hosts.processes)
    (saved : hosts.files path = .complete identity)
    (continues : (agentHosts sha256).run hosts later = some (final, more)) :
    Layout sha256 final.files final.processes ∧ final.files path = .complete identity ∧
      CallersOn path (Beats sha256 identity) more final := by
  refine Machine.invariant (I := fun more current =>
    Layout sha256 current.files current.processes ∧ current.files path = .complete identity ∧
      CallersOn path (Beats sha256 identity) more current)
    ⟨layout, saved, fun _ hmem => absurd hmem List.not_mem_nil⟩ ?_ continues
  rintro more current event next now ⟨layout, hfile, hbeats⟩ hstep
  have step := agentHosts_step hstep
  have agrees : ∀ {index : Nat} {process : Process}, current.processes[index]? = some process →
      process.path = path → process.phase.Agrees sha256 (.complete identity) := by
    intro index process found hpath
    rw [← hfile, ← hpath]
    exact layout.agrees found
  refine ⟨step.layout layout, ?_, hbeats.step step ?_⟩
  · rw [step.files, hfile]
    intro index process found hpath
    have hagrees := agrees found hpath
    constructor
    · intro response hphase
      rw [hphase] at hagrees
      cases hagrees
    · intro other hphase
      rw [hphase] at hagrees
      cases hagrees
  · intro index process call next found asks hpath
    have hagrees := agrees found hpath
    cases asks with
    | enroll phase bytes now system =>
      rw [phase] at hagrees
      cases hagrees
    | heartbeat phase now =>
      rw [phase] at hagrees
      obtain ⟨other, nodeInfo, hsame, hheartbeat⟩ := hagrees
      cases hsame
      exact ⟨nodeInfo, now, by rw [hheartbeat]⟩

/-- While a file holds a part of an identity, a process with this file ends as it starts. -/
theorem torn_run (layout : Layout sha256 hosts.files hosts.processes)
    (torn : hosts.files path = .cutOff) (idle : hosts.isRunning path = false)
    (continues : (agentHosts sha256).run hosts later = some (final, more)) :
    Layout sha256 final.files final.processes ∧ final.files path = .cutOff ∧
      (∀ process ∈ final.processes, process.path = path → process.phase.isOver = true) ∧
      CallersOn path (fun _ => False) more final := by
  refine Machine.invariant (I := fun more current =>
    Layout sha256 current.files current.processes ∧ current.files path = .cutOff ∧
      (∀ process ∈ current.processes, process.path = path → process.phase.isOver = true) ∧
      CallersOn path (fun _ => False) more current)
    ⟨layout, torn, ?_, fun _ hmem => absurd hmem List.not_mem_nil⟩ ?_ continues
  · intro process hmem hpath
    have hany := List.any_eq_false.mp idle process hmem
    simpa [hpath] using hany
  · rintro more current event next now ⟨layout, hfile, hover, hcalls⟩ hstep
    have step := agentHosts_step hstep
    have finished : ∀ {index : Nat} {process : Process}, current.processes[index]? = some process →
        process.path = path → process.phase.isOver = true :=
      fun found hpath => hover _ (List.mem_of_getElem? found) hpath
    refine ⟨step.layout layout, ?_, ?_, hcalls.step step ?_⟩
    · rw [step.files, hfile]
      intro index process found hpath
      have hfinished := finished found hpath
      constructor
      · intro response hphase
        rw [hphase] at hfinished
        cases hfinished
      · intro identity hphase
        rw [hphase] at hfinished
        cases hfinished
    · intro process hmem hpath
      obtain ⟨index, found⟩ := List.getElem?_of_mem hmem
      by_contra hrunning
      rcases step.running found (Bool.eq_false_iff.mpr hrunning) with
        ⟨old, hold, hsame, holdRuns⟩ | ⟨readable, hphase⟩
      · rw [finished hold (hsame.trans hpath)] at holdRuns
        cases holdRuns
      · rw [hpath, hfile] at hphase
        rw [hphase] at hrunning
        cases readable with
        | false => exact hrunning rfl
        | true => exact hrunning rfl
    · intro index process call next found asks hpath
      have hrunning := asks.running
      rw [finished found hpath] at hrunning
      cases hrunning

/-- A file that holds a part of an identity stays as it is, and no process with this file ever
    asks anything of the control plane, once the process that wrote it is gone. -/
theorem cut_off_for_good (h : HostsReach sha256 events hosts calls)
    (torn : hosts.files path = .cutOff) (idle : hosts.isRunning path = false)
    (continues : (agentHosts sha256).run hosts later = some (final, more)) :
    final.files path = .cutOff ∧
    ∀ call ∈ more, ∀ index, call.caller = some index → final.pathOf index ≠ some path := by
  obtain ⟨-, hfile, -, hcalls⟩ := torn_run h.sound.1 torn idle continues
  refine ⟨hfile, fun call hmem index hcaller hpath => ?_⟩
  obtain ⟨own, hown, hproperty⟩ := hcalls call hmem index hcaller
  exact hproperty (Option.some.inj (hown.symm.trans hpath))

end Kept

/-! One host for every node. -/

section Nodes

theorem Records.enrolledBy_of_grants (records : Records sha256 hosts calls) {call : HostCall}
    (hmem : call ∈ calls) {index : Nat} (hcaller : call.caller = some index)
    {nodeId secret fingerprint : String} {expiresAt : Nat}
    (grants : Grants call.event nodeId secret fingerprint expiresAt) :
    Control.enrolledBy call.event = some nodeId := by
  cases grants with
  | enrolled hcall hreply => rw [Control.enrolledBy, hreply]
  | rotated hcall hreply =>
    -- a process only enrolls and beats
    obtain ⟨front, back, hsplit⟩ := List.append_of_mem hmem
    rcases records.entitled hsplit hcaller with ⟨_, _, _, _, henroll⟩ |
      ⟨_, _, _, -, -, _, _, hbeat⟩
    · rw [hcall] at henroll
      cases henroll
    · rw [hcall] at hbeat
      cases hbeat

end Nodes

end Runs

/-! A host that enrolls and beats, and is started again. -/

section Samples

open Sunbolt.Control (sampleBytes sampleDigest sampleToken secs)

def hostEnvironment : String → Option String := fun name =>
  if name = "SUNBOLT_AGENT_ENROLLMENT_TOKEN" then some (Control.randomToken sampleToken)
  else if name = "HOME" then some "/root"
  else none

def hostPath : String := "/root/.config/sunbolt/identity.json"

def hostStart : HostEvent := .start hostEnvironment ⟨"linux", "x86_64", "0.1.0"⟩ true

/-- The host is about to save its identity. -/
def hostEnrolls : List HostEvent :=
  [.other (.createToken ⟨1, "admin@sunbolt.local", .admin⟩ (secs 900) sampleToken 0), hostStart,
    .enroll 0 .answered sampleBytes 5 (secs 1700000000), .openFile 0 true]

/-- The host saves its identity. -/
def hostSaves : List HostEvent := hostEnrolls ++ [.writeFile 0 (.whole true)]

def hostRestarts : List HostEvent :=
  [.heartbeat 0 .answered (secs 1000), .kill 0, hostStart, .heartbeat 1 .answered (secs 2000)]

def IdentityFile.nodeId : IdentityFile → Option String
  | .complete identity => some identity.nodeId
  | _ => none

def HostCall.beatAt (call : HostCall) : Option Nat :=
  match call.event.call with
  | .heartbeat _ now => some now
  | _ => none

def HostCall.accepted (call : HostCall) : Bool :=
  match call.event.reply with
  | .viewed (.ok _) => true
  | _ => false

theorem HostCall.call_of_beatAt {call : HostCall} {now : Nat} (h : call.beatAt = some now) :
    ∃ request, call.event.call = .heartbeat request now := by
  unfold HostCall.beatAt at h
  split at h
  · rename_i request now' hcall
    cases h
    exact ⟨request, hcall⟩
  · cases h

theorem HostCall.view_of_accepted {call : HostCall} (h : call.accepted = true) :
    ∃ view, call.event.reply = .viewed (.ok view) := by
  unfold HostCall.accepted at h
  split at h
  · rename_i view hreply
    exact ⟨view, hreply⟩
  · cases h

private theorem restarted_calls :
    ((agentHosts sampleDigest).run .initial (hostSaves ++ hostRestarts)).map (fun reached =>
      (reached.2.map (fun call => (call.caller, call.beatAt, call.accepted)),
        grantedSecrets (reached.2.map (·.event)))) =
      some ([(none, none, false), (some 0, none, false), (some 0, some (secs 1000), true),
        (some 1, some (secs 2000), true)], [Control.randomToken sampleBytes]) := by
  decide +kernel

private theorem saved_calls :
    ((agentHosts sampleDigest).run .initial hostSaves).map (fun reached =>
      ((reached.1.files hostPath).nodeId, reached.2.map (·.caller))) =
      some (some "node-1", [none, some 0]) := by
  decide +kernel

private theorem saved_host : ∃ hosts calls identity,
    HostsReach sampleDigest hostSaves hosts calls ∧ hosts.files hostPath = .complete identity ∧
    calls.map (·.caller) = [none, some 0] := by
  obtain ⟨⟨hosts, calls⟩, reached, hfacts⟩ := Option.map_eq_some_iff.mp saved_calls
  obtain ⟨hnode, hcallers⟩ := Prod.mk.inj hfacts
  cases hfile : hosts.files hostPath with
  | complete identity => exact ⟨hosts, calls, identity, reached, hfile, hcallers⟩
  | missing =>
    simp only [hfile] at hnode
    cases hnode
  | cutOff =>
    simp only [hfile] at hnode
    cases hnode

private theorem restarted_callers :
    ((agentHosts sampleDigest).run .initial (hostSaves ++ hostRestarts)).map (fun reached =>
      (reached.2.map (·.caller), reached.1.pathOf 1)) =
      some ([none, some 0, some 0, some 1], some hostPath) := by
  decide +kernel

private theorem cut_off_and_restarted :
    ((agentHosts sampleDigest).run .initial (hostEnrolls ++ [.kill 0])).map (fun reached =>
      (decide (reached.1.files hostPath = .cutOff), reached.1.isRunning hostPath)) =
      some (true, false) ∧
    (((agentHosts sampleDigest).run .initial (hostEnrolls ++ [.kill 0] ++ [hostStart])).isSome =
      true) := by
  decide +kernel

theorem cut_off_for_good_restarted : ∃ hosts calls final more,
    HostsReach sampleDigest (hostEnrolls ++ [.kill 0]) hosts calls ∧
    hosts.files hostPath = .cutOff ∧ hosts.isRunning hostPath = false ∧
    (agentHosts sampleDigest).run hosts [hostStart] = some (final, more) ∧
    final.files hostPath = .cutOff := by
  obtain ⟨htorn, hrestarted⟩ := cut_off_and_restarted
  obtain ⟨⟨hosts, calls⟩, reached, hfacts⟩ := Option.map_eq_some_iff.mp htorn
  obtain ⟨⟨final, all⟩, restarted⟩ := Option.isSome_iff_exists.mp hrestarted
  obtain ⟨middle, early, more, hearly, hmore, rfl⟩ := (Machine.run_append _).mp restarted
  obtain ⟨rfl, rfl⟩ := Prod.mk.inj (Option.some.inj (reached.symm.trans hearly))
  obtain ⟨hfile, hidle⟩ := Prod.mk.inj hfacts
  have hfile := of_decide_eq_true hfile
  exact ⟨hosts, calls, final, more, reached, hfile, hidle, hmore,
    (cut_off_for_good reached hfile hidle hmore).1⟩

end Samples

end Sunbolt.Agent
