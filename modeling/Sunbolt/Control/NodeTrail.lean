/- Module: Sunbolt/Control/NodeTrail
   scope: sunbolt-control/src/routes/node.rs, sunbolt-control/src/routes/agent.rs
   digest: The audit log tells of the registry's changes, each once and none that was not made. -/

import Sunbolt.Control.CredentialChain
import Sunbolt.Control.NodeCredentials
import Sunbolt.Control.NodeRoutes
import Sunbolt.Library.Tally

set_option autoImplicit false
set_option relaxedAutoImplicit false

namespace Sunbolt.Control.NodeRoutes

open Sunbolt.Library
open Sunbolt.Auth (Primitives User)
open NodeEnrollmentRegistry (nodeIdText)

/-- The kinds of audit events that tell what the registry has done. -/
def tellsOfNodes : Sunbolt.Audit.AuditEventKind → Bool
  | .nodeEnrolled | .nodeCredentialRotated | .nodeRevoked => true
  | _ => false

/-- What an audit event of the kind has to say about a call of the registry. -/
def change (kind : Sunbolt.Audit.AuditEventKind) (x : Interaction NodeAction NodeReply) :
    Option String :=
  match kind, x with
  | .nodeEnrolled, ⟨.enroll _, .ok response⟩ => some (enrolledMessage response.nodeId)
  | .nodeCredentialRotated, ⟨.rotateCredential nodeId, .ok rotation⟩ =>
    some (rotatedMessage nodeId rotation.credential.credentialFingerprint)
  | .nodeRevoked, ⟨.revokeNode nodeId, .ok _⟩ => some (revokedMessage nodeId)
  | _, _ => none

/-- What a call says in an audit event of the kind. -/
def told (kind : Sunbolt.Audit.AuditEventKind) : NodeAction → Option String
  | .audit input => if input.kind = kind then some input.message else none
  | _ => none

def changes (kind : Sunbolt.Audit.AuditEventKind) (past : NodePast) : List String :=
  past.filterMap (change kind)

def notes (kind : Sunbolt.Audit.AuditEventKind) (past : NodePast) : List String :=
  past.filterMap (fun x => told kind x.action)

/-- Whose request an audit event was recorded for. -/
def Attributed (origin : NodeJob) : NodeAction → Prop
  | .audit ⟨.nodeCredentialRotated, actorEmail, _⟩ =>
    ∃ user nodeId, origin = .rotateNodeCredential user nodeId ∧ actorEmail = some user.email
  | .audit ⟨.nodeRevoked, actorEmail, _⟩ =>
    ∃ user nodeId, origin = .revokeNode user nodeId ∧ actorEmail = some user.email
  | .audit ⟨.nodeEnrolled, actorEmail, _⟩ =>
    (∃ request, origin = .agentEnroll request) ∧ actorEmail = none
  | _ => True

/-- What a task has told is what it has changed, or lacks the last of it. -/
def trailAct (origin : NodeJob) (past : NodePast) (action : NodeAction) : Prop :=
  (∀ kind, tellsOfNodes kind = true →
    notes kind past ++ (told kind action).toList <+: changes kind past) ∧
  Attributed origin action

/-- Everything that was changed has been told. -/
def Settled (past : NodePast) : Prop :=
  ∀ kind, tellsOfNodes kind = true → notes kind past = changes kind past

def trailOrder : Discipline NodeAction NodeReply NodeJob :=
  ⟨trailAct, fun origin job past => job = origin ∧ past = [], fun _ past => Settled past⟩

/-- Everything that was changed has been told but the last thing. -/
def Owes (past : NodePast) (kind : Sunbolt.Audit.AuditEventKind) (message : String) : Prop :=
  ∀ other, tellsOfNodes other = true →
    notes other past ++ (if other = kind then [message] else []) = changes other past

/-- Calls that neither change the registry nor tell of it. -/
def Silent : NodeAction → Prop
  | .enroll _ | .rotateCredential _ | .revokeNode _ => False
  | .audit input => tellsOfNodes input.kind = false
  | _ => True

section Trails

variable {past : NodePast} {action : NodeAction} {origin : NodeJob}
  {kind : Sunbolt.Audit.AuditEventKind} {message : String}

theorem Silent.told (h : Silent action) (tells : tellsOfNodes kind = true) :
    told kind action = none := by
  cases action with
  | audit input =>
    have hne : input.kind ≠ kind := by
      intro heq
      rw [Silent, heq, tells] at h
      cases h
    exact if_neg hne
  | _ => rfl

theorem Silent.change (h : Silent action) (reply : NodeReply action) :
    change kind ⟨action, reply⟩ = none := by
  cases action with
  | enroll request => exact h.elim
  | rotateCredential nodeId => exact h.elim
  | revokeNode nodeId => exact h.elim
  | _ => cases kind <;> rfl

theorem Silent.attributed (h : Silent action) : Attributed origin action := by
  cases action with
  | audit input =>
    obtain ⟨kind, actorEmail, message⟩ := input
    cases kind <;> trivial
  | _ => trivial

theorem Settled.nil : Settled [] := fun _ _ => rfl

/-- Silent calls leave nothing to be told. -/
theorem Settled.append (h : Settled past) {extra : NodePast}
    (silent : ∀ x ∈ extra, Silent x.action) : Settled (past ++ extra) := by
  intro kind tells
  have hnotes : notes kind extra = [] := by
    rw [notes, List.filterMap_eq_nil_iff]
    intro x hx
    exact (silent x hx).told tells
  have hchanges : changes kind extra = [] := by
    rw [changes, List.filterMap_eq_nil_iff]
    intro x hx
    exact (silent x hx).change x.reply
  have hnotes' : notes kind (past ++ extra) = notes kind past ++ notes kind extra :=
    List.filterMap_append
  have hchanges' : changes kind (past ++ extra) = changes kind past ++ changes kind extra :=
    List.filterMap_append
  rw [hnotes', hchanges', hnotes, hchanges, List.append_nil, List.append_nil]
  exact h kind tells

theorem Settled.act (h : Settled past) (tacit : ∀ kind, tellsOfNodes kind = true →
    told kind action = none) (attributed : Attributed origin action) :
    trailAct origin past action := by
  refine ⟨fun kind tells => ?_, attributed⟩
  rw [tacit kind tells, Option.toList_none, List.append_nil, h kind tells]

/-- A call that was refused leaves nothing to be told. -/
theorem Settled.refused (h : Settled past) {reply : NodeReply action}
    (tacit : ∀ kind, told kind action = none) (unchanged : ∀ kind, change kind ⟨action, reply⟩ =
      none) : Settled (past ++ [⟨action, reply⟩]) := by
  intro kind tells
  rw [notes, changes, filterMap_append_one, filterMap_append_one, tacit, unchanged]
  exact congrArg (· ++ []) (h kind tells)

/-- A change is the one thing that is still to be told. -/
theorem Settled.owes (h : Settled past) {reply : NodeReply action}
    (tacit : ∀ other, told other action = none) (changed : ∀ other,
      change other ⟨action, reply⟩ = if other = kind then some message else none) :
    Owes (past ++ [⟨action, reply⟩]) kind message := by
  intro other tells
  have hnotes : notes other (past ++ [⟨action, reply⟩]) = notes other past := by
    rw [notes, filterMap_append_one, tacit]
    exact List.append_nil _
  have hchanges : changes other (past ++ [⟨action, reply⟩]) =
      changes other past ++ (if other = kind then [message] else []) := by
    rw [changes, filterMap_append_one, changed other]
    split_ifs <;> rfl
  rw [hnotes, hchanges, h other tells]

theorem Owes.act (h : Owes past kind message) {actorEmail : Option String}
    (attributed : Attributed origin (.audit ⟨kind, actorEmail, message⟩)) :
    trailAct origin past (.audit ⟨kind, actorEmail, message⟩) := by
  refine ⟨fun other tells => ?_, attributed⟩
  have htold : (told other (.audit ⟨kind, actorEmail, message⟩)).toList =
      if other = kind then [message] else [] := by
    rw [told]
    by_cases heq : other = kind
    · rw [if_pos heq.symm, if_pos heq, Option.toList_some]
    · rw [if_neg (Ne.symm heq), if_neg heq, Option.toList_none]
  rw [htold, h other tells]

theorem Owes.settled (h : Owes past kind message) (actorEmail : Option String) :
    Settled (past ++ [⟨.audit ⟨kind, actorEmail, message⟩, ()⟩]) := by
  intro other tells
  have hchanges : changes other (past ++ [⟨.audit ⟨kind, actorEmail, message⟩, ()⟩]) =
      changes other past := by
    rw [changes, filterMap_append_one]
    have hnone : change other ⟨.audit ⟨kind, actorEmail, message⟩, ()⟩ = none := by
      cases other <;> rfl
    rw [hnone]
    exact List.append_nil _
  rw [hchanges, ← h other tells, notes, filterMap_append_one, told]
  by_cases heq : other = kind
  · rw [if_pos heq.symm, if_pos heq]
    rfl
  · rw [if_neg (Ne.symm heq), if_neg heq]
    rfl

/-- A program that makes silent calls only ends as settled as it started. -/
theorem Settled.all {α : Type} {p : NodeProgram α} (h : Settled past)
    (silent : p.Each Silent (fun _ => True)) :
    p.All (trailAct origin) past (fun past _ => Settled past) := by
  apply silent.all
  · intro extra action hextra haction
    exact (h.append hextra).act (fun kind tells => haction.told tells) haction.attributed
  · intro extra value hextra _
    exact h.append hextra

end Trails

section Bodies

attribute [local simp] call respond record Program.perform Silent tellsOfNodes

variable (user : User) (nodeId : String)

private theorem silent_userHasNodePermission (permission : Sunbolt.Auth.Permission) :
    (userHasNodePermission user nodeId permission).Each Silent (fun _ => True) := by
  rw [userHasNodePermission, Program.each_ite]
  refine ⟨fun _ => trivial, fun _ => ?_⟩
  apply Program.Each.then (by simp)
  intro found
  cases found with
  | none => trivial
  | some workspace => cases workspace <;> simp

private theorem silent_viewable (nodes : List NodeView) :
    (viewable user nodes).Each Silent (fun _ => True) := by
  induction nodes with
  | nil => trivial
  | cons node nodes ih =>
    apply Program.Each.then (silent_userHasNodePermission user node.nodeId _)
    intro allowed
    apply Program.Each.then ih
    intro rest
    trivial

private theorem silent_createEnrollmentToken (request : EnrollmentTokenRequest) :
    (createEnrollmentToken user request).Each Silent (fun _ => True) := by
  rw [createEnrollmentToken, Program.each_ite]
  refine ⟨fun _ => by simp, fun _ => Program.Each.then (by simp) (fun allowed => ?_)⟩
  rw [Program.each_ite]
  refine ⟨fun _ => by simp, fun _ => Program.Each.then (by simp) (fun created => ?_)⟩
  cases created <;> simp

private theorem silent_listNodes : (listNodes user).Each Silent (fun _ => True) := by
  apply Program.Each.then (by simp)
  intro nodes
  exact Program.Each.then (silent_viewable user nodes) (fun shown => by simp)

private theorem silent_nodeDetails : (nodeDetails user nodeId).Each Silent (fun _ => True) := by
  apply Program.Each.then (by simp)
  intro found
  cases found with
  | none => simp
  | some view =>
    apply Program.Each.then (silent_userHasNodePermission user nodeId _)
    intro answer
    cases answer with
    | none => simp
    | some allowed => cases allowed <;> simp

private theorem silent_agentHeartbeat (request : AgentHeartbeatRequest) :
    (agentHeartbeat request).Each Silent (fun _ => True) := by
  apply Program.Each.then (by simp)
  intro result
  cases result with
  | ok view => simp
  | error error => cases error <;> simp [recordAgentAuthenticationFailed]

private theorem silent_agentTransport (transportId fingerprint proof version : String) :
    (agentTransport nodeId transportId fingerprint proof version).Each Silent
      (fun _ => True) := by
  apply Program.Each.then (by simp)
  intro result
  cases result <;> simp

variable {origin : NodeJob}

/-- A change that is told of at once, and the response after that. -/
private theorem trail_told {past : NodePast} {kind : Sunbolt.Audit.AuditEventKind}
    {message : String} {actorEmail : Option String} {response : NodeResponse}
    (owes : Owes past kind message)
    (attributed : Attributed origin (.audit ⟨kind, actorEmail, message⟩)) :
    (record kind actorEmail message >>= fun _ => respond response).All (trailAct origin) past
      (fun past _ => Settled past) := by
  rw [Program.all_bind]
  refine ⟨owes.act attributed, fun _ => ?_⟩
  exact (owes.settled actorEmail).all (by simp)

private theorem trail_agentEnroll (request : AgentEnrollmentRequest) :
    (agentEnroll request).All (trailAct (.agentEnroll request)) []
      (fun past _ => Settled past) := by
  rw [agentEnroll, Program.all_bind]
  refine ⟨Settled.nil.act (fun _ _ => rfl) trivial, fun result => ?_⟩
  rw [Program.all_done]
  cases result with
  | error error =>
    have hsettled : Settled ([] ++ [⟨.enroll request, .error error⟩]) := by
      apply Settled.nil.refused (fun _ => rfl)
      intro kind
      cases kind <;> rfl
    cases error <;> exact hsettled.all (by simp)
  | ok response =>
    have howes : Owes ([] ++ [⟨.enroll request, .ok response⟩]) .nodeEnrolled
        (enrolledMessage response.nodeId) := by
      apply Settled.nil.owes (fun _ => rfl)
      intro kind
      cases kind <;> rfl
    exact trail_told howes ⟨⟨request, rfl⟩, rfl⟩

private theorem trail_rotateNodeCredential :
    (rotateNodeCredential user nodeId).All (trailAct (.rotateNodeCredential user nodeId)) []
      (fun past _ => Settled past) := by
  rw [rotateNodeCredential, Program.all_bind]
  refine (Settled.nil.all (silent_userHasNodePermission user nodeId _)).mono ?_
  intro past answer settled
  cases answer with
  | none => exact settled.all (by simp)
  | some allowed =>
    cases allowed with
    | false => exact settled.all (by simp)
    | true =>
      dsimp only
      rw [Program.all_bind]
      refine ⟨settled.act (fun _ _ => rfl) trivial, fun result => ?_⟩
      rw [Program.all_done]
      cases result with
      | error error =>
        have hsettled : Settled (past ++ [⟨.rotateCredential nodeId, .error error⟩]) := by
          apply settled.refused (fun _ => rfl)
          intro kind
          cases kind <;> rfl
        cases error <;> exact hsettled.all (by simp)
      | ok rotation =>
        have howes : Owes (past ++ [⟨.rotateCredential nodeId, .ok rotation⟩])
            .nodeCredentialRotated
            (rotatedMessage nodeId rotation.credential.credentialFingerprint) := by
          apply settled.owes (fun _ => rfl)
          intro kind
          cases kind <;> rfl
        exact trail_told howes ⟨user, nodeId, rfl, rfl⟩

private theorem trail_revokeNode :
    (revokeNode user nodeId).All (trailAct (.revokeNode user nodeId)) []
      (fun past _ => Settled past) := by
  rw [revokeNode, Program.all_bind]
  refine (Settled.nil.all (silent_userHasNodePermission user nodeId _)).mono ?_
  intro past answer settled
  cases answer with
  | none => exact settled.all (by simp)
  | some allowed =>
    cases allowed with
    | false => exact settled.all (by simp)
    | true =>
      dsimp only
      rw [Program.all_bind]
      refine ⟨settled.act (fun _ _ => rfl) trivial, fun result => ?_⟩
      rw [Program.all_done]
      cases result with
      | error error =>
        have hsettled : Settled (past ++ [⟨.revokeNode nodeId, .error error⟩]) := by
          apply settled.refused (fun _ => rfl)
          intro kind
          cases kind <;> rfl
        cases error <;> exact hsettled.all (by simp)
      | ok view =>
        have howes : Owes (past ++ [⟨.revokeNode nodeId, .ok view⟩]) .nodeRevoked
            (revokedMessage nodeId) := by
          apply settled.owes (fun _ => rfl)
          intro kind
          cases kind <;> rfl
        exact trail_told howes ⟨user, nodeId, rfl, rfl⟩

end Bodies

section Runs

variable {primitives : Primitives} {sha256 : ByteArray → List UInt8}

theorem trailOrder_sound : trailOrder.Sound (nodeService primitives sha256) id where
  entered _ := ⟨rfl, rfl⟩
  spawned hout stage hstage := by
    obtain ⟨out, -, rfl⟩ := Option.map_eq_some_iff.mp hout
    cases hstage
  body {origin job past} head := by
    obtain ⟨rfl, rfl⟩ := head
    change (job.program >>= fun _ => pure none).All (trailAct job) [] _
    rw [Program.all_bind]
    change job.program.All (trailAct job) [] (fun past _ => Settled past)
    cases job with
    | createEnrollmentToken user request =>
      exact Settled.nil.all (silent_createEnrollmentToken user request)
    | listNodes user => exact Settled.nil.all (silent_listNodes user)
    | nodeDetails user nodeId => exact Settled.nil.all (silent_nodeDetails user nodeId)
    | rotateNodeCredential user nodeId => exact trail_rotateNodeCredential user nodeId
    | revokeNode user nodeId => exact trail_revokeNode user nodeId
    | agentEnroll request => exact trail_agentEnroll request
    | agentHeartbeat request => exact Settled.nil.all (silent_agentHeartbeat request)
    | agentTransport nodeId transportId fingerprint proof version =>
      exact Settled.nil.all (silent_agentTransport nodeId transportId fingerprint proof version)
    | rbac change =>
      exact Settled.nil.all (by simp [NodeJob.program, call, Program.perform, Silent])

variable {history : List NodeEvent} {pool : NodePool}

/-- What the calls of a run have changed, and what they have told. -/
def changesOf (kind : Sunbolt.Audit.AuditEventKind) (history : List NodeEvent) : List String :=
  history.filterMap (fun e => change kind e.interaction)

def notesOf (kind : Sunbolt.Audit.AuditEventKind) (history : List NodeEvent) : List String :=
  history.filterMap (fun e => told kind e.action)

variable {kind : Sunbolt.Audit.AuditEventKind}

/-- No run tells of a change more often than it was made. -/
theorem NodeReaches.told_le (h : NodeReaches primitives sha256 history pool)
    (tells : tellsOfNodes kind = true) (message : String) :
    (notesOf kind history).count message ≤ (changesOf kind history).count message := by
  rw [notesOf, changesOf, count_filterMap_eq_tally, count_filterMap_eq_tally]
  apply Service.Reaches.covered trailOrder_sound
    (fun _ action => if told kind action = some message then 1 else 0)
    (fun x => if change kind x = some message then 1 else 0) _ h
  intro origin past action hact
  have hcount := (hact.1 kind tells).sublist.count_le message
  rw [List.count_append, notes, changes, count_filterMap_eq_tally, count_filterMap_eq_tally]
    at hcount
  have hnow : (told kind action).toList.count message =
      if told kind action = some message then 1 else 0 := by
    cases told kind action with
    | none => rfl
    | some found => simp [List.count_singleton]
  rw [hnow] at hcount
  exact hcount

/-- When all requests have been answered, every change has been told. -/
theorem NodeReaches.le_told (h : NodeReaches primitives sha256 history pool)
    (tells : tellsOfNodes kind = true)
    (ended : ∀ task ∈ pool.tasks, ∃ origin, task = ⟨origin, .done none⟩) (message : String) :
    (changesOf kind history).count message ≤ (notesOf kind history).count message := by
  rw [notesOf, changesOf, count_filterMap_eq_tally, count_filterMap_eq_tally]
  apply tally_le_of_keys Event.task
  intro task
  rcases List.eq_nil_or_concat (history.filter (fun e => decide (e.task = task))) with
    hnone | ⟨early, e, hsome⟩
  · rw [hnone]
    exact le_rfl
  · have hmem : e ∈ history.filter (fun e => decide (e.task = task)) := by
      rw [hsome]
      simp
    obtain ⟨he, htask⟩ := List.mem_filter.mp hmem
    have htask : e.task = task := of_decide_eq_true htask
    obtain ⟨t, ht, -⟩ := (h.holds trailOrder_sound).known e he
    obtain ⟨origin, rfl⟩ := ended t (List.mem_of_getElem? ht)
    have hsettled : Settled (Service.own e.task history) := h.halted trailOrder_sound he ht
    have hcount := congrArg (List.count message) (hsettled kind tells)
    rw [notes, changes, count_filterMap_eq_tally, count_filterMap_eq_tally, htask, Service.own,
      tally_map, tally_map] at hcount
    exact hcount.ge

end Runs

/-! What the state has to do with it. -/

def messages (kind : Sunbolt.Audit.AuditEventKind)
    (audit : List Sunbolt.Audit.AuditEventInput) : List String :=
  (audit.filter (fun input => input.kind = kind)).map (·.message)

/-- The credentials that were not issued with the enrollment of their node. -/
def rotatedCredentials (state : NodeEnrollmentState) : List NodeCredentialRecord :=
  state.credentials.filter (fun credential => credential.rotatedFromFingerprint.isSome)

def credentialMessage (credential : NodeCredentialRecord) : String :=
  rotatedMessage (nodeIdText credential.nodeId) credential.credentialFingerprint

/-- The message about a credential that an operation has issued for another one. -/
def rotatedBy : EnrollmentCall → EnrollmentReply → Option String
  | .rotateCredential nodeId .., .rotated (.ok response) =>
    some (rotatedMessage nodeId response.credential.credentialFingerprint)
  | _, _ => none

def IsRevoked (state : NodeEnrollmentState) (nodeId : String) : Prop :=
  ∃ node, state.node nodeId = some node ∧ node.status = .revoked

/-- What is changed is what the registry holds. -/
structure Held (history : List NodeEvent) (state : NodeState) : Prop where
  linked : state.nodeEnrollment.inner.Linked state.nodeEnrollment.nextNodeId
  audit : ∀ kind, messages kind state.audit = notesOf kind history
  enrolled : changesOf .nodeEnrolled history =
    state.nodeEnrollment.inner.nodes.map (fun node => enrolledMessage node.nodeId)
  rotated : changesOf .nodeCredentialRotated history =
    (rotatedCredentials state.nodeEnrollment.inner).map credentialMessage
  revoked : ∀ message, message ∈ changesOf .nodeRevoked history ↔
    ∃ nodeId, IsRevoked state.nodeEnrollment.inner nodeId ∧ message = revokedMessage nodeId

section Registry

variable {sha256 : ByteArray → List UInt8} {registry after : NodeEnrollmentRegistry}
  {call : EnrollmentCall} {result : EnrollmentReply} {action : NodeAction}
  {reply : NodeReply action}

/-- A call changes what the operation of the registry that it is changes. -/
theorem change_of_asks (asks : action.Asks call)
    (replied : registryReply action reply = some result)
    (before after : NodeEnrollmentRegistry) :
    change .nodeEnrolled ⟨action, reply⟩ =
        (enrolledBy ⟨call, result, before, after⟩).map enrolledMessage ∧
      change .nodeCredentialRotated ⟨action, reply⟩ = rotatedBy call result ∧
      change .nodeRevoked ⟨action, reply⟩ =
        (revokedBy ⟨call, result, before, after⟩).map revokedMessage := by
  cases asks <;> cases reply <;> cases replied <;> exact ⟨rfl, rfl, rfl⟩

theorem change_of_silent (silent : registryReply action reply = none)
    (kind : Sunbolt.Audit.AuditEventKind) : change kind ⟨action, reply⟩ = none := by
  cases action with
  | enroll request => cases silent
  | rotateCredential nodeId => cases silent
  | revokeNode nodeId => cases silent
  | _ => cases kind <;> rfl

theorem rotatedBy_of_isError (error : result.isError = true) : rotatedBy call result = none := by
  cases result with
  | rotated result =>
    cases result with
    | error error => cases call <;> rfl
    | ok response => cases error
  | _ => cases call <;> rfl

/-- One more credential counts if it names the one before it. -/
theorem rotatedCredentials_append {state other : NodeEnrollmentState}
    {credential : NodeCredentialRecord}
    (h : other.credentials = state.credentials ++ [credential]) :
    rotatedCredentials other = rotatedCredentials state ++
      if credential.rotatedFromFingerprint.isSome then [credential] else [] := by
  rw [rotatedCredentials, h, List.filter_append, rotatedCredentials]
  congr 1
  split_ifs with hsome <;> simp [hsome]

/-- A node that has been issued a credential has a latest one. -/
theorem latestCredential_isSome {state : NodeEnrollmentState} {next : Nat}
    (linked : state.Linked next) {nodeId : String} {node : NodeRecord}
    (found : state.node nodeId = some node) :
    (state.latestCredentialForNode node.id).isSome = true := by
  obtain ⟨newest, hnewest⟩ :=
    linked.exists_newest (NodeEnrollmentState.id_mem_of_node found)
  rw [Option.isSome_iff_ne_none, NodeEnrollmentState.latestCredentialForNode_eq, Ne,
    lastMax_eq_none]
  intro hnone
  rw [hnone] at hnewest
  cases hnewest

/-- An operation adds a credential to those that were rotated to, if it was a rotation. -/
theorem rotatedCredentials_step (linked : registry.inner.Linked registry.nextNodeId)
    (serves : registry.serve sha256 call = (after, result)) :
    (rotatedCredentials after.inner).map credentialMessage =
      (rotatedCredentials registry.inner).map credentialMessage ++
        (rotatedBy call result).toList := by
  have step := registry.serve_step sha256 call
  rw [serves] at step
  have hkept : after.inner.credentials = registry.inner.credentials →
      rotatedBy call result = none → (rotatedCredentials after.inner).map credentialMessage =
        (rotatedCredentials registry.inner).map credentialMessage ++
          (rotatedBy call result).toList := by
    intro hcredentials hnone
    rw [rotatedCredentials, hcredentials, hnone]
    exact (List.append_nil _).symm
  cases step with
  | refused _ _ error => exact hkept rfl (rotatedBy_of_isError error)
  | created user ttl bytes now response token => exact hkept rfl rfl
  | enrolled request bytes now system token found unused live =>
    rw [@rotatedCredentials_append registry.inner (registry.inner.addNode sha256 _ _ _ _ request
      now system) _ rfl, List.map_append]
    rfl
  | connected _ nodeId node changed now view found allowed id text =>
    apply hkept (NodeEnrollmentState.credentials_changeNode _)
    cases call <;> rfl
  | revoked nodeId node now view found =>
    exact hkept (NodeEnrollmentState.credentials_changeNode _) rfl
  | rotated nodeId node bytes now system previous response found allowed secret fingerprint =>
    obtain ⟨issued, credential, hnode, -, -, hlink, hfingerprint, -, hserve⟩ :=
      rotate_served sha256 linked found allowed bytes now system
    rw [hserve] at serves
    obtain ⟨hafter, hreply⟩ := Prod.mk.inj serves
    cases hreply
    have hsome : credential.rotatedFromFingerprint.isSome = true := by
      rw [hlink, Option.isSome_map]
      exact latestCredential_isSome linked found
    rw [← hafter, @rotatedCredentials_append registry.inner
      (registry.inner.issueCredential credential) credential rfl, if_pos hsome, List.map_append,
      rotatedBy, hfingerprint, ← hnode]
    rfl

/-- Those nodes are revoked that were, and the one that the operation revoked. -/
theorem isRevoked_step {e : EnrollmentEvent} (step : PresenceStep e) (nodeId : String) :
    IsRevoked e.after.inner nodeId ↔
      IsRevoked e.before.inner nodeId ∨ revokedBy e = some nodeId := by
  cases step with
  | same enrolled contact revoked nodes heartbeats =>
    rw [revoked, IsRevoked, IsRevoked, NodeEnrollmentState.node, NodeEnrollmentState.node, nodes]
    simp
  | enrolled node id text status enrolled contact revoked nodes heartbeats =>
    have hfind : e.after.inner.node nodeId = (e.before.inner.node nodeId).or
        (if node.nodeId = nodeId then some node else none) := by
      rw [NodeEnrollmentState.node, nodes, Records.find_append, Records.find_cons]
      rfl
    rw [revoked, IsRevoked, IsRevoked, hfind]
    cases hold : e.before.inner.node nodeId with
    | some found => simp
    | none =>
      by_cases hnew : node.nodeId = nodeId
      · simp [hnew, status]
      · simp [hnew]
  | contact other node changed found allowed id text status enrolled contact revoked inner =>
    have hnode : e.after.inner.node nodeId =
        if nodeId = other then some changed else e.before.inner.node nodeId := by
      rw [inner]
      exact NodeEnrollmentState.node_changeNode changed found text nodeId
    rw [revoked, IsRevoked, IsRevoked, hnode]
    by_cases hsame : nodeId = other
    · simp [hsame, status, found, allowed]
    · simp [hsame]
  | revoked other node found enrolled contact revoked inner =>
    have hnode : e.after.inner.node nodeId = if nodeId = other then
        some { node with status := .revoked } else e.before.inner.node nodeId := by
      rw [inner]
      exact NodeEnrollmentState.node_changeNode { node with status := .revoked } found rfl nodeId
    rw [revoked, IsRevoked, IsRevoked, hnode]
    by_cases hsame : nodeId = other
    · simp [hsame]
    · simp [hsame, Ne.symm hsame]

end Registry

section Runs

variable {primitives : Primitives} {sha256 : ByteArray → List UInt8} {history : List NodeEvent}
  {pool : NodePool}

theorem messages_append (kind : Sunbolt.Audit.AuditEventKind)
    (audit : List Sunbolt.Audit.AuditEventInput) (action : NodeAction) :
    messages kind (audit ++ recorded action) =
      messages kind audit ++ (told kind action).toList := by
  rw [messages, List.filter_append, List.map_append]
  congr 1
  cases action with
  | audit input =>
    rw [recorded, told, List.filter_singleton]
    by_cases heq : input.kind = kind <;> simp [heq]
  | _ => rfl

theorem NodeReaches.held (h : NodeReaches primitives sha256 history pool) :
    Held history pool.shared := by
  apply (Service.Reaches.invariant (I := Held) trailOrder_sound _ _ h).2
  · constructor
    · constructor <;> simp [NodeState.new, NodeEnrollmentRegistry.default, NodeEnrollmentState.ids]
    · intro kind
      rfl
    · rfl
    · rfl
    · intro message
      simp [changesOf, NodeState.new, NodeEnrollmentRegistry.default, IsRevoked,
        NodeEnrollmentState.node, Records.find]
  · intro history state i origin action choice out held hact hout
    have frame := performNode_frame (nodeService_perform hout)
    have hchanges : ∀ kind, changesOf kind (history ++
        [⟨i, origin, action, out.reply, state, out.shared, out.spawned⟩]) =
          changesOf kind history ++ (change kind ⟨action, out.reply⟩).toList :=
      fun kind => filterMap_append_one _ _ _
    have haudit : ∀ kind, messages kind out.shared.audit = notesOf kind (history ++
        [⟨i, origin, action, out.reply, state, out.shared, out.spawned⟩]) := by
      intro kind
      rw [frame.audit, messages_append, held.audit, notesOf, notesOf, filterMap_append_one]
    cases frame.registry with
    | kept silent nextTokenId same =>
      have hnone := change_of_silent silent
      refine ⟨?_, haudit, ?_, ?_, ?_⟩
      · rw [same]
        exact held.linked
      · rw [hchanges, hnone, same]
        exact (List.append_nil _).trans held.enrolled
      · rw [hchanges, hnone, same]
        exact (List.append_nil _).trans held.rotated
      · rw [hchanges, hnone, same, Option.toList_none, List.append_nil]
        exact held.revoked
    | served call result asks replied serves =>
      obtain ⟨henrolled, hrotated, hrevoked⟩ :=
        change_of_asks asks replied state.nodeEnrollment out.shared.nodeEnrollment
      have hstep := presence_step sha256 state.nodeEnrollment call
      rw [Library.served, serves] at hstep
      have hnodes := hstep.nodeIds
      have hstatus := isRevoked_step hstep
      have hlinked := (state.nodeEnrollment.serve_step sha256 call).linked held.linked
      rw [serves] at hlinked
      refine ⟨hlinked, haudit, ?_, ?_, ?_⟩
      · rw [hchanges, henrolled, held.enrolled]
        have hmap := congrArg (List.map enrolledMessage) hnodes
        rw [List.map_map, List.map_append, List.map_map] at hmap
        refine Eq.trans ?_ hmap.symm
        cases enrolledBy ⟨call, result, state.nodeEnrollment, out.shared.nodeEnrollment⟩ <;> rfl
      · rw [hchanges, hrotated, held.rotated]
        exact (rotatedCredentials_step held.linked serves).symm
      · intro message
        rw [hchanges, hrevoked, List.mem_append, held.revoked]
        constructor
        · rintro (⟨nodeId, hnode, rfl⟩ | hnew)
          · exact ⟨nodeId, (hstatus nodeId).mpr (Or.inl hnode), rfl⟩
          · rw [Option.mem_toList, Option.map_eq_some_iff] at hnew
            obtain ⟨nodeId, hnode, rfl⟩ := hnew
            exact ⟨nodeId, (hstatus nodeId).mpr (Or.inr hnode), rfl⟩
        · rintro ⟨nodeId, hnode, rfl⟩
          rcases (hstatus nodeId).mp hnode with hold | hnew
          · exact Or.inl ⟨nodeId, hold, rfl⟩
          · rw [Option.mem_toList, Option.map_eq_some_iff]
            exact Or.inr ⟨nodeId, hnew, rfl⟩

/-- The messages of a kind are those that were told. -/
theorem NodeReaches.messages_count (h : NodeReaches primitives sha256 history pool)
    {kind : Sunbolt.Audit.AuditEventKind} (tells : tellsOfNodes kind = true) {all : List String}
    (changed : changesOf kind history = all) : (messages kind pool.shared.audit).Subperm all ∧
      ((∀ task ∈ pool.tasks, ∃ origin, task = ⟨origin, .done none⟩) →
        (messages kind pool.shared.audit).Perm all) := by
  rw [h.held.audit, ← changed]
  constructor
  · rw [List.subperm_ext_iff]
    intro message _
    exact h.told_le tells message
  · intro ended
    rw [List.perm_iff_count]
    intro message
    exact (h.told_le tells message).antisymm (h.le_told tells ended message)

theorem revokedMessage_injective : Function.Injective revokedMessage := by
  intro nodeId other heq
  have hlists := congrArg String.toList heq
  exact String.ext (by simpa [revokedMessage] using hlists)

end Runs

/-- The audit log tells nothing of the nodes that is not so. -/
structure TrailSound (history : List NodeEvent) (state : NodeState) : Prop where
  enrolled : (messages .nodeEnrolled state.audit).Subperm
    (state.nodeEnrollment.inner.nodes.map (fun node => enrolledMessage node.nodeId))
  rotated : (messages .nodeCredentialRotated state.audit).Subperm
    ((rotatedCredentials state.nodeEnrollment.inner).map credentialMessage)
  revoked : ∀ message ∈ messages .nodeRevoked state.audit,
    ∃ node ∈ state.nodeEnrollment.inner.nodes, node.status = .revoked ∧
      message = revokedMessage node.nodeId
  attributed : ∀ e ∈ history, Attributed e.origin e.action

/-- The audit log tells what the registry holds, each thing as often as it is so. -/
structure TrailComplete (state : NodeState) : Prop where
  enrolled : (messages .nodeEnrolled state.audit).Perm
    (state.nodeEnrollment.inner.nodes.map (fun node => enrolledMessage node.nodeId))
  rotated : (messages .nodeCredentialRotated state.audit).Perm
    ((rotatedCredentials state.nodeEnrollment.inner).map credentialMessage)
  revoked : ∀ node ∈ state.nodeEnrollment.inner.nodes,
    node.status = .revoked ↔ revokedMessage node.nodeId ∈ messages .nodeRevoked state.audit

/-- In every interleaving the audit log tells of enrolled nodes, rotated credentials and revoked
    nodes that there are, of each enrollment and rotation once at most, and for the user who asked;
    and when all requests have been answered it tells of all of them. -/
theorem audit_tells_registry {primitives : Primitives} {sha256 : ByteArray → List UInt8}
    {history : List NodeEvent} {pool : NodePool}
    (reached : NodeReaches primitives sha256 history pool) :
    TrailSound history pool.shared ∧
      ((∀ task ∈ pool.tasks, ∃ origin, task = ⟨origin, .done none⟩) →
        TrailComplete pool.shared) := by
  have held := reached.held
  have hmem : ∀ message, message ∈ changesOf .nodeRevoked history ↔
      ∃ node ∈ pool.shared.nodeEnrollment.inner.nodes, node.status = .revoked ∧
        message = revokedMessage node.nodeId := by
    intro message
    rw [held.revoked]
    constructor
    · rintro ⟨nodeId, ⟨node, hnode, hstatus⟩, rfl⟩
      have hname : node.nodeId = nodeId := Records.key_of_find hnode
      exact ⟨node, Records.mem_of_find hnode, hstatus, by rw [hname]⟩
    · rintro ⟨node, hnode, hstatus, rfl⟩
      exact ⟨node.nodeId, ⟨node, held.linked.node_of_mem hnode, hstatus⟩, rfl⟩
  have hrevoked := @NodeReaches.messages_count _ _ _ _ reached .nodeRevoked rfl _ rfl
  constructor
  · constructor
    · exact (reached.messages_count rfl held.enrolled).1
    · exact (reached.messages_count rfl held.rotated).1
    · intro message hmessage
      exact (hmem message).mp (hrevoked.1.subset hmessage)
    · intro e he
      obtain ⟨front, back, hsplit⟩ := List.append_of_mem he
      exact (Service.Reaches.act trailOrder_sound reached hsplit).2
  · intro ended
    constructor
    · exact (reached.messages_count rfl held.enrolled).2 ended
    · exact (reached.messages_count rfl held.rotated).2 ended
    · intro node hnode
      rw [(hrevoked.2 ended).mem_iff, hmem]
      constructor
      · intro hstatus
        exact ⟨node, hnode, hstatus, rfl⟩
      · rintro ⟨other, hother, hstatus, heq⟩
        have hfound := held.linked.node_of_mem hnode
        rw [revokedMessage_injective heq, held.linked.node_of_mem hother] at hfound
        rw [← Option.some.inj hfound]
        exact hstatus

/-- An administrator rotates the credential of a node and then revokes the node. -/
private def sampleRevocation : List (Label NodeJob NodeChoice) :=
  sampleEnrollment ++
    [.arrive (.rotateNodeCredential ⟨1, "admin@sunbolt.local", .admin⟩ "node-1"),
      .arrive (.revokeNode ⟨1, "admin@sunbolt.local", .admin⟩ "node-1"),
      .move 2 (.drawn sampleToken sampleInstant 0), .move 3 (.clock sampleInstant),
      .move 3 .none, .move 2 .none, .move 3 .none, .move 2 .none]

theorem audit_tells_registry_revoked :
    ∃ pool, NodeReaches sampleDigests sampleDigest
        (nodeCalls sampleDigests sampleDigest sampleRevocation) pool ∧
      messages .nodeRevoked pool.shared.audit = ["node node-1 revoked"] ∧
      TrailSound (nodeCalls sampleDigests sampleDigest sampleRevocation) pool.shared := by
  obtain ⟨pool, reached⟩ :=
    @reaches_nodeCalls sampleDigests sampleDigest sampleRevocation (by decide +kernel)
  have htold : notesOf .nodeRevoked (nodeCalls sampleDigests sampleDigest sampleRevocation) =
      ["node node-1 revoked"] := by decide +kernel
  exact ⟨pool, reached, (reached.held.audit _).trans htold, (audit_tells_registry reached).1⟩

end Sunbolt.Control.NodeRoutes
