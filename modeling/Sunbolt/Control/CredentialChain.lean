/- Module: Sunbolt/Control/CredentialChain
   scope: sunbolt-control/src/node.rs
   digest: Which credential a rotation names as the previous one, and when that makes a chain. -/

import Mathlib.Data.Prod.Lex
import Mathlib.Order.BooleanAlgebra.Basic
import Sunbolt.Control.EnrollmentTokens
import Sunbolt.Library.BackLinks
import Sunbolt.Library.Sha256

set_option autoImplicit false
set_option relaxedAutoImplicit false

namespace Sunbolt.Control

open Sunbolt.Library
open NodeEnrollmentRegistry (nodeIdText)

/-- The key of `max_by_key` in `latest_credential_for_node`. -/
def NodeCredentialRecord.age (credential : NodeCredentialRecord) : ℕ ×ₗ ℤ ×ₗ Bool :=
  toLex (credential.createdAt,
    toLex (credential.createdAtUnixSecs, credential.rotatedFromFingerprint.isSome))

/-- When an operation that issues credentials reads the monotonic clock. -/
def EnrollmentCall.issueTime : EnrollmentCall → Option Nat
  | .enroll _ _ now _ | .rotateCredential _ _ now _ => some now
  | _ => none

def issueTimes (history : List EnrollmentEvent) : List Nat :=
  history.filterMap (fun e => e.call.issueTime)

/-- The fingerprint of the credential that an operation issued to the node. -/
def credentialIssuedTo (nodeId : String) (e : EnrollmentEvent) : Option String :=
  match e.call, e.reply with
  | .enroll .., .enrolled (.ok response) =>
    if response.nodeId = nodeId then some response.credentialFingerprint else none
  | .rotateCredential asked .., .rotated (.ok response) =>
    if asked = nodeId then some response.credential.credentialFingerprint else none
  | _, _ => none

/-- The fingerprints of the node's credentials, in the order in which they were issued. -/
def issuedFingerprints (nodeId : String) (history : List EnrollmentEvent) : List String :=
  history.filterMap (credentialIssuedTo nodeId)

namespace NodeEnrollmentState

variable (state : NodeEnrollmentState)

def credentialsOf (id : Nat) : List NodeCredentialRecord :=
  state.credentials.filter (·.nodeId == id)

/-- The newest of the node's credentials shows the latest time of those of its instant. -/
def NewestShowsLatest (id : Nat) : Prop :=
  ∀ newest ∈ (state.credentialsOf id).getLast?, ∀ credential ∈ state.credentialsOf id,
    credential.createdAt = newest.createdAt →
      credential.createdAtUnixSecs ≤ newest.createdAtUnixSecs

/-- From the newest credential of the node the chain visits all of them, and no other way goes
    on from it when they have fingerprints of their own. -/
structure Chained (id : Nat) (newest : NodeCredentialRecord) : Prop where
  last : (state.credentialsOf id).getLast? = some newest
  visits : Visits (·.credentialFingerprint) (·.rotatedFromFingerprint) (state.credentialsOf id)
    newest (state.credentialsOf id).reverse
  only : ((state.credentialsOf id).map (·.credentialFingerprint)).Nodup →
    ∀ visited, Visits (·.credentialFingerprint) (·.rotatedFromFingerprint)
      (state.credentialsOf id) newest visited → visited = (state.credentialsOf id).reverse

end NodeEnrollmentState

/-- The rotation was served: it returns the previous fingerprint, and one record more is kept, of
    the node that was asked for, which names it as well. -/
structure NamesPrevious (e : EnrollmentEvent) (nodeId : String)
    (response : NodeCredentialRotationResponse) (previous : String) : Prop where
  returned : response.credential.previousCredentialFingerprint = some previous
  stored : ∃ node ∈ e.before.inner.nodes, ∃ issued : NodeCredentialRecord,
    node.nodeId = nodeId ∧ issued.nodeId = node.id ∧
      issued.credentialFingerprint = response.credential.credentialFingerprint ∧
      issued.rotatedFromFingerprint = some previous ∧
      e.after.inner.credentials = e.before.inner.credentials ++ [issued]

/-- The rotations of a run make chains: each one names the credential issued just before it to
    the same node, and each node's credentials are chained in the order of their issue. -/
structure RotationsChain (history : List EnrollmentEvent) (registry : NodeEnrollmentRegistry) :
    Prop where
  names : ∀ front e back nodeId bytes now system response, history = front ++ e :: back →
    e.call = .rotateCredential nodeId bytes now system → e.reply = .rotated (.ok response) →
    ∃ previous, (issuedFingerprints nodeId front).getLast? = some previous ∧
      NamesPrevious e nodeId response previous
  issued : ∀ node ∈ registry.inner.nodes,
    (registry.inner.credentialsOf node.id).map (·.credentialFingerprint) =
      issuedFingerprints node.nodeId history
  chained : ∀ node ∈ registry.inner.nodes, ∃ newest, registry.inner.Chained node.id newest

/-- Whenever a node that may rotate does, its newest credential shows the latest time of those
    that it was issued at one instant. -/
def ClocksAgree (history : List EnrollmentEvent) : Prop :=
  ∀ e ∈ history, ∀ nodeId bytes now system node,
    e.call = .rotateCredential nodeId bytes now system →
    e.before.inner.node nodeId = some node → node.status ≠ .revoked →
    e.before.inner.NewestShowsLatest node.id

/-- No credential is changed or dropped. -/
def RecordsKept (history : List EnrollmentEvent) : Prop :=
  ∀ e ∈ history, e.before.inner.credentials <+: e.after.inner.credentials

/-- What an operation does to the credentials: nothing, or it issues one that names the one
    that is the latest of the node's by then. -/
inductive CredentialStep (e : EnrollmentEvent) : Prop
  | kept (credentials : e.after.inner.credentials = e.before.inner.credentials)
    (issued : ∀ nodeId, credentialIssuedTo nodeId e = none)
  | issued (credential : NodeCredentialRecord)
    (credentials : e.after.inner.credentials = e.before.inner.credentials ++ [credential])
    (link : credential.rotatedFromFingerprint =
      (e.before.inner.latestCredentialForNode credential.nodeId).map (·.credentialFingerprint))
    (issued : ∀ nodeId, credentialIssuedTo nodeId e =
      if nodeIdText credential.nodeId = nodeId then some credential.credentialFingerprint
      else none)
    (time : e.call.issueTime = some credential.createdAt)
    (agreed : ClocksAgree [e] → e.before.inner.NewestShowsLatest credential.nodeId)

/-- The credentials as the operations issued them: in the order of the clock and of the replies,
    and all but the first one of a node by a rotation. -/
structure IssuedInOrder (history : List EnrollmentEvent) (registry : NodeEnrollmentRegistry) :
    Prop where
  times : (registry.inner.credentials.map (·.createdAt)).Sublist (issueTimes history)
  fingerprints : ∀ id, (registry.inner.credentialsOf id).map (·.credentialFingerprint) =
    issuedFingerprints (nodeIdText id) history
  rotated : ∀ id, ∀ credential ∈ (registry.inner.credentialsOf id).tail,
    credential.rotatedFromFingerprint.isSome = true

section Age

variable {credential other : NodeCredentialRecord}

theorem NodeCredentialRecord.notAfter_iff :
    credential.notAfter other = true ↔ credential.age ≤ other.age := by
  rw [notAfter, age, age, Prod.Lex.toLex_le_toLex, Prod.Lex.toLex_le_toLex]
  simp only [Bool.or_eq_true, Bool.and_eq_true, decide_eq_true_eq, beq_iff_eq,
    Bool.not_eq_true', Bool.le_iff_imp]
  cases credential.rotatedFromFingerprint.isSome <;> simp

theorem NodeEnrollmentState.latestCredentialForNode_eq (state : NodeEnrollmentState) (id : Nat) :
    state.latestCredentialForNode id =
      lastMax NodeCredentialRecord.age (state.credentialsOf id) := by
  rw [latestCredentialForNode, lastMax, credentialsOf]
  congr 1
  funext latest credential
  cases latest with
  | none => rfl
  | some other => simp only [NodeCredentialRecord.notAfter_iff]

end Age

section Step

variable {sha256 : ByteArray → List UInt8} {registry : NodeEnrollmentRegistry}
  {state : NodeEnrollmentState} {nodeId : String} {node : NodeRecord} {next : Nat}
  {call : EnrollmentCall} {reply : EnrollmentReply} {e : EnrollmentEvent}

theorem NodeEnrollmentState.Linked.text_of_mem (linked : state.Linked next)
    (hmem : node ∈ state.nodes) : node.nodeId = nodeIdText node.id := by
  have hnamed := linked.named
  rw [ids, List.map_map] at hnamed
  exact List.map_inj_left.mp hnamed node hmem

/-- A node that is not there has no credentials. -/
theorem NodeEnrollmentState.Linked.credentialsOf_fresh (linked : state.Linked next) :
    state.credentialsOf next = [] := by
  rw [credentialsOf, List.filter_eq_nil_iff]
  intro credential hmem howner
  have hid := linked.counted _ (linked.credentials credential hmem)
  rw [beq_iff_eq] at howner
  omega

/-- Every node was issued a credential. -/
theorem NodeEnrollmentState.Linked.exists_newest (linked : state.Linked next) {id : Nat}
    (mem : id ∈ state.ids) : ∃ newest, (state.credentialsOf id).getLast? = some newest := by
  obtain ⟨credential, hmem, howner⟩ := List.mem_map.mp (linked.owned id mem)
  have hfound : credential ∈ state.credentialsOf id :=
    List.mem_filter.mpr ⟨hmem, beq_iff_eq.mpr howner⟩
  exact ⟨_, List.getLast?_eq_some_getLast (List.ne_nil_of_mem hfound)⟩

/-- The credential that a rotation issues names the latest one, and so does the reply. -/
theorem NodeEnrollmentState.rotateCredential_found (sha256 : ByteArray → List UInt8)
    (found : state.node nodeId = some node) (allowed : node.status ≠ .revoked)
    (bytes : RandomBytes) (now : Nat) (system : Int) :
    ∃ response,
      state.rotateCredential sha256 nodeId bytes now system =
        (state.issueCredential (newCredential sha256 node.id nodeId bytes now system
          ((state.latestCredentialForNode node.id).map (·.credentialFingerprint))),
          .ok response) ∧
      response.credential.credentialFingerprint =
        credentialFingerprint sha256 (randomToken bytes) ∧
      response.credential.previousCredentialFingerprint =
        (state.latestCredentialForNode node.id).map (·.credentialFingerprint) := by
  rw [rotateCredential]
  rcases state.lookup_cases nodeId with
    ⟨-, hnode⟩ | ⟨index, other, hposition, hget, hnode⟩
  · rw [found] at hnode
    cases hnode
  · rw [found, Option.some.injEq] at hnode
    subst hnode
    simp only [hposition, hget, if_neg allowed]
    exact ⟨_, rfl, rfl, rfl⟩

theorem credentialIssuedTo_of_viewed {result : Except NodeConnectionError NodeView}
    (viewed : e.reply = .viewed result) (nodeId : String) : credentialIssuedTo nodeId e = none := by
  rw [credentialIssuedTo, viewed]
  split
  · contradiction
  · contradiction
  · rfl

theorem credentialIssuedTo_of_isError (error : e.reply.isError = true) (nodeId : String) :
    credentialIssuedTo nodeId e = none := by
  rw [credentialIssuedTo]
  split
  · rename_i hreply
    rw [hreply] at error
    cases error
  · rename_i hreply
    rw [hreply] at error
    cases error
  · rfl

variable (sha256) in
/-- What a rotation does when it is not refused. -/
theorem rotate_served (linked : registry.inner.Linked registry.nextNodeId)
    (found : registry.inner.node nodeId = some node) (allowed : node.status ≠ .revoked)
    (bytes : RandomBytes) (now : Nat) (system : Int) :
    ∃ response credential, nodeIdText credential.nodeId = nodeId ∧ credential.nodeId = node.id ∧
      credential.createdAt = now ∧
      credential.rotatedFromFingerprint =
        (registry.inner.latestCredentialForNode node.id).map (·.credentialFingerprint) ∧
      response.credential.credentialFingerprint = credential.credentialFingerprint ∧
      response.credential.previousCredentialFingerprint = credential.rotatedFromFingerprint ∧
      registry.serve sha256 (.rotateCredential nodeId bytes now system) =
        ({ registry with inner := registry.inner.issueCredential credential },
          .rotated (.ok response)) := by
  obtain ⟨response, heq, hfingerprint, hprevious⟩ :=
    NodeEnrollmentState.rotateCredential_found sha256 found allowed bytes now system
  refine ⟨response, NodeEnrollmentState.newCredential sha256 node.id nodeId bytes now system
    ((registry.inner.latestCredentialForNode node.id).map
      NodeCredentialRecord.credentialFingerprint),
    ?_, rfl, rfl, rfl, hfingerprint, hprevious, ?_⟩
  · rw [NodeEnrollmentState.newCredential,
      ← linked.text_of_mem (Records.mem_of_find found)]
    exact Records.key_of_find found
  · rw [NodeEnrollmentRegistry.serve, NodeEnrollmentRegistry.rotateCredential, heq]
    rfl

theorem credentialStep (linked : registry.inner.Linked registry.nextNodeId)
    (call : EnrollmentCall) :
    CredentialStep (served (NodeEnrollmentRegistry.serve sha256) registry call) := by
  have step := registry.serve_step sha256 call
  revert step
  generalize hresult : registry.serve sha256 call = result
  obtain ⟨after, reply⟩ := result
  intro step
  have hafter : (served (NodeEnrollmentRegistry.serve sha256) registry call).after = after :=
    congrArg Prod.fst hresult
  have hreply : (served (NodeEnrollmentRegistry.serve sha256) registry call).reply = reply :=
    congrArg Prod.snd hresult
  cases step with
  | refused call reply error =>
    refine .kept (by rw [hafter]; rfl) (credentialIssuedTo_of_isError (by rw [hreply]; exact error))
  | created user ttl bytes now response token =>
    exact .kept rfl fun _ => rfl
  | enrolled request bytes now system token found unused live =>
    refine .issued _ (by rw [hafter]; rfl) ?_ ?_ ?_ ?_
    · have hnone : registry.inner.latestCredentialForNode registry.nextNodeId = none := by
        rw [NodeEnrollmentState.latestCredentialForNode_eq, linked.credentialsOf_fresh]
        rfl
      exact (congrArg (Option.map _) hnone).symm
    · intro nodeId
      rw [credentialIssuedTo, hreply]
      rfl
    · rfl
    · intro _ newest hnewest
      rw [show (served _ registry _).before.inner.credentialsOf _ = [] from
        linked.credentialsOf_fresh] at hnewest
      cases hnewest
  | connected call nodeId node changed now view found allowed id text =>
    refine .kept (by rw [hafter]; exact NodeEnrollmentState.credentials_changeNode _) ?_
    exact credentialIssuedTo_of_viewed hreply
  | revoked nodeId node now view found =>
    refine .kept (by rw [hafter]; exact NodeEnrollmentState.credentials_changeNode _) ?_
    intro other
    rfl
  | rotated nodeId node bytes now system previous response found allowed secret fingerprint =>
    obtain ⟨response, credential, htext, howner, htime, hlink, hfingerprint, -, hserved⟩ :=
      rotate_served _ linked found allowed bytes now system
    rw [served, hserved]
    refine .issued credential rfl (howner ▸ hlink) ?_ (congrArg some htime.symm) ?_
    · intro other
      rw [htext, ← hfingerprint]
      rfl
    · intro agree
      rw [howner]
      exact agree _ (List.mem_singleton_self _) nodeId bytes now system node rfl found allowed

theorem EnrollmentStep.credentials_prefix {after : NodeEnrollmentRegistry}
    (step : EnrollmentStep sha256 registry call reply after) :
    registry.inner.credentials <+: after.inner.credentials := by
  cases step with
  | refused _ _ error => exact List.prefix_rfl
  | created user ttl bytes now response token => exact List.prefix_rfl
  | enrolled request bytes now system token found unused live => exact List.prefix_append _ _
  | connected _ nodeId node changed now view found allowed id text =>
    exact (NodeEnrollmentState.credentials_changeNode _).symm ▸ List.prefix_rfl
  | revoked nodeId node now view found =>
    exact (NodeEnrollmentState.credentials_changeNode _).symm ▸ List.prefix_rfl
  | rotated nodeId node bytes now system previous response found allowed secret fingerprint =>
    exact List.prefix_append _ _

theorem credentialsOf_kept {other : NodeEnrollmentState}
    (kept : state.credentials <+: other.credentials) (id : Nat) :
    state.credentialsOf id <+: other.credentialsOf id :=
  List.IsPrefix.filter _ kept

end Step

section Order

variable {registry after : NodeEnrollmentRegistry} {state : NodeEnrollmentState}
  {history : List EnrollmentEvent} {e : EnrollmentEvent} {id : Nat}
  {newest credential : NodeCredentialRecord} {front : List NodeCredentialRecord}

theorem credentialsOf_issue {other : NodeEnrollmentState}
    (credentials : other.credentials = state.credentials ++ [credential]) (id : Nat) :
    other.credentialsOf id =
      if credential.nodeId = id then state.credentialsOf id ++ [credential]
      else state.credentialsOf id := by
  rw [NodeEnrollmentState.credentialsOf, credentials, List.filter_append]
  split_ifs with howner
  · rw [List.filter_cons_of_pos (by simpa using howner)]
    rfl
  · rw [List.filter_cons_of_neg (by simpa using howner)]
    exact List.append_nil _

/-- In the order of the clock only one of the newest one's instant can be later than it. -/
theorem latest_eq_newest_iff
    (ordered : (state.credentials.map (·.createdAt)).Pairwise (· ≤ ·))
    (rotated : ∀ credential ∈ (state.credentialsOf id).tail,
      credential.rotatedFromFingerprint.isSome = true)
    (last : (state.credentialsOf id).getLast? = some newest) :
    state.latestCredentialForNode id = some newest ↔ state.NewestShowsLatest id := by
  obtain ⟨front, hfront⟩ := List.getLast?_eq_some_iff.mp last
  have hordered : (state.credentialsOf id).Pairwise (fun earlier later =>
      earlier.createdAt ≤ later.createdAt) :=
    (List.pairwise_map.mp ordered).filter _
  rw [hfront, List.pairwise_append] at hordered
  have hflag : ∀ other ∈ front, newest.rotatedFromFingerprint.isSome = true := by
    intro other hother
    obtain ⟨first, rest, rfl⟩ := List.exists_cons_of_ne_nil (List.ne_nil_of_mem hother)
    refine rotated newest ?_
    rw [hfront]
    exact List.mem_append_right _ (List.mem_singleton_self _)
  rw [NodeEnrollmentState.latestCredentialForNode_eq, hfront, lastMax_concat_iff,
    NodeEnrollmentState.NewestShowsLatest, last, hfront]
  constructor
  · intro h _ hnewest other hother hinstant
    rw [Option.mem_some] at hnewest
    subst hnewest
    rcases List.mem_append.mp hother with hother | hother
    · have hage := h other hother
      rw [NodeCredentialRecord.age, NodeCredentialRecord.age, hinstant,
        Prod.Lex.toLex_le_toLex] at hage
      rcases hage with hage | ⟨-, hage⟩
      · exact absurd hage (lt_irrefl _)
      · rcases Prod.Lex.toLex_le_toLex.mp hage with hage | ⟨hage, -⟩
        · exact hage.le
        · exact hage.le
    · rw [List.mem_singleton.mp hother]
  · intro h other hother
    have hinstant := hordered.2.2 other hother newest (List.mem_singleton_self _)
    rw [NodeCredentialRecord.age, NodeCredentialRecord.age, Prod.Lex.toLex_le_toLex]
    rcases hinstant.lt_or_eq with hlt | heq
    · exact .inl hlt
    · refine .inr ⟨heq, Prod.Lex.toLex_le_toLex.mpr ?_⟩
      have hsecs := h newest rfl other (List.mem_append_left _ hother) heq
      rcases hsecs.lt_or_eq with hlt | hsame
      · exact .inl hlt
      · refine .inr ⟨hsame, ?_⟩
        rw [hflag other hother]
        exact le_top

/-- The latest credential is the newest one when that shows the latest time. -/
theorem IssuedInOrder.latest (h : IssuedInOrder history registry)
    (clocked : (issueTimes history).Pairwise (· ≤ ·))
    (shows : registry.inner.NewestShowsLatest id) :
    registry.inner.latestCredentialForNode id = (registry.inner.credentialsOf id).getLast? := by
  cases hlast : (registry.inner.credentialsOf id).getLast? with
  | none =>
    rw [NodeEnrollmentState.latestCredentialForNode_eq, lastMax_eq_none]
    exact List.getLast?_eq_none_iff.mp hlast
  | some newest =>
    exact (latest_eq_newest_iff (clocked.sublist h.times) (h.rotated id) hlast).mpr shows

theorem issueTimes_concat (history : List EnrollmentEvent) (e : EnrollmentEvent) :
    issueTimes (history ++ [e]) = issueTimes history ++ e.call.issueTime.toList := by
  rw [issueTimes, List.filterMap_append, ← issueTimes]
  cases h : e.call.issueTime with
  | none => simp [h]
  | some time => simp [h]

theorem issuedFingerprints_concat (nodeId : String) (history : List EnrollmentEvent)
    (e : EnrollmentEvent) :
    issuedFingerprints nodeId (history ++ [e]) =
      issuedFingerprints nodeId history ++ (credentialIssuedTo nodeId e).toList := by
  rw [issuedFingerprints, List.filterMap_append, ← issuedFingerprints]
  cases h : credentialIssuedTo nodeId e with
  | none => simp [h]
  | some fingerprint => simp [h]

theorem IssuedInOrder.step (h : IssuedInOrder history e.before) (step : CredentialStep e) :
    IssuedInOrder (history ++ [e]) e.after := by
  cases step with
  | kept credentials issued =>
    have hsame : ∀ id, e.after.inner.credentialsOf id = e.before.inner.credentialsOf id := by
      intro id
      rw [NodeEnrollmentState.credentialsOf, credentials]
      rfl
    refine ⟨?_, fun id => ?_, fun id => ?_⟩
    · rw [credentials, issueTimes_concat]
      exact h.times.trans (List.sublist_append_left _ _)
    · rw [hsame, h.fingerprints, issuedFingerprints_concat, issued]
      exact (List.append_nil _).symm
    · rw [hsame]
      exact h.rotated id
  | issued credential credentials link issued time agreed =>
    refine ⟨?_, fun id => ?_, fun id => ?_⟩
    · rw [credentials, List.map_append, issueTimes_concat, time]
      exact h.times.append (List.Sublist.refl _)
    · rw [credentialsOf_issue credentials, issuedFingerprints_concat, issued, ← h.fingerprints]
      by_cases howner : credential.nodeId = id
      · rw [if_pos howner, if_pos (congrArg nodeIdText howner), List.map_append]
        rfl
      · rw [if_neg howner, if_neg (fun htext => howner (nodeIdText_injective htext))]
        exact (List.append_nil _).symm
    · rw [credentialsOf_issue credentials]
      split_ifs with howner
      · intro other hother
        cases hcredentials : e.before.inner.credentialsOf id with
        | nil =>
          rw [hcredentials] at hother
          cases hother
        | cons first rest =>
          rw [hcredentials, List.cons_append, List.tail_cons, List.mem_append,
            List.mem_singleton] at hother
          rcases hother with hother | rfl
          · have hrotated := h.rotated id other
            rw [hcredentials] at hrotated
            exact hrotated hother
          · rw [link, howner, Option.isSome_map, Option.isSome_iff_ne_none, ne_eq,
              NodeEnrollmentState.latestCredentialForNode_eq, lastMax_eq_none, hcredentials]
            exact List.cons_ne_nil _ _
      · exact h.rotated id

/-- The credentials of each node are chained by the fingerprints that they were rotated from. -/
def AllLinked (registry : NodeEnrollmentRegistry) : Prop :=
  ∀ id, BackLinked (·.credentialFingerprint) (·.rotatedFromFingerprint)
    (registry.inner.credentialsOf id)

theorem AllLinked.step (h : AllLinked e.before) (inOrder : IssuedInOrder history e.before)
    (clocked : (issueTimes history).Pairwise (· ≤ ·)) (agree : ClocksAgree [e])
    (step : CredentialStep e) : AllLinked e.after := by
  intro id
  cases step with
  | kept credentials issued =>
    rw [NodeEnrollmentState.credentialsOf, credentials]
    exact h id
  | issued credential credentials link issued time agreed =>
    rw [credentialsOf_issue credentials]
    split_ifs with howner
    · refine .concat (h id) ?_
      rw [link, inOrder.latest clocked (agreed agree), howner]
    · exact h id

end Order

section Runs

variable {sha256 : ByteArray → List UInt8} {registry final : NodeEnrollmentRegistry}
  {history front back : List EnrollmentEvent} {e : EnrollmentEvent}

theorem EnrollmentReaches.inOrder (reached : EnrollmentReaches sha256 history registry) :
    IssuedInOrder history registry := by
  refine Serves.invariant (I := IssuedInOrder) ?_ ?_ reached
  · exact ⟨List.nil_sublist _, fun _ => rfl, fun _ _ hmem => absurd hmem List.not_mem_nil⟩
  · intro history registry call hrun ih
    exact IssuedInOrder.step (e := served _ registry call) ih
      (credentialStep (EnrollmentReaches.linked hrun) call)

theorem EnrollmentReaches.allLinked (reached : EnrollmentReaches sha256 history registry)
    (clocked : (issueTimes history).Pairwise (· ≤ ·)) (agree : ClocksAgree history) :
    AllLinked registry := by
  refine Serves.invariant (I := fun history registry =>
    (issueTimes history).Pairwise (· ≤ ·) → ClocksAgree history → AllLinked registry) ?_ ?_
    reached clocked agree
  · exact fun _ _ _ => .nil
  · intro history registry call hrun ih hclocked hagree
    rw [issueTimes_concat] at hclocked
    have hearlier := hclocked.sublist (List.sublist_append_left _ _)
    have hfront : ClocksAgree history := fun e he => hagree e (List.mem_append_left _ he)
    have hlast : ClocksAgree [served (NodeEnrollmentRegistry.serve sha256) registry call] :=
      fun e he => hagree e (List.mem_append_right _ he)
    exact AllLinked.step (e := served _ registry call) (ih hearlier hfront)
      (EnrollmentReaches.inOrder hrun) hearlier hlast
      (credentialStep (EnrollmentReaches.linked hrun) call)

theorem credentials_prefix_run
    (run : Serves (NodeEnrollmentRegistry.serve sha256) registry history final) :
    registry.inner.credentials <+: final.inner.credentials := by
  refine run.invariant (I := fun _ later =>
    registry.inner.credentials <+: later.inner.credentials) List.prefix_rfl ?_
  intro _ later call _ ih
  exact ih.trans (EnrollmentStep.credentials_prefix (later.serve_step sha256 call))

theorem issueTimes_front (clocked : (issueTimes (front ++ back)).Pairwise (· ≤ ·)) :
    (issueTimes front).Pairwise (· ≤ ·) := by
  rw [issueTimes, List.filterMap_append] at clocked
  exact clocked.sublist (List.sublist_append_left _ _)

/-- A rotation that was served: the record it issued, and the credential issued just before. -/
structure Rotates (front : List EnrollmentEvent) (e : EnrollmentEvent) (nodeId : String)
    (node : NodeRecord) (response : NodeCredentialRotationResponse)
    (issued newest : NodeCredentialRecord) : Prop where
  owner : issued.nodeId = node.id
  fingerprint : response.credential.credentialFingerprint = issued.credentialFingerprint
  returned : response.credential.previousCredentialFingerprint = issued.rotatedFromFingerprint
  link : issued.rotatedFromFingerprint =
    (e.before.inner.latestCredentialForNode node.id).map (·.credentialFingerprint)
  credentials : e.after.inner.credentials = e.before.inner.credentials ++ [issued]
  last : (e.before.inner.credentialsOf node.id).getLast? = some newest
  before : (issuedFingerprints nodeId front).getLast? = some newest.credentialFingerprint

theorem EnrollmentReaches.rotates {nodeId : String} {bytes : RandomBytes} {now : Nat}
    {system : Int} {node : NodeRecord} (reached : EnrollmentReaches sha256 history registry)
    (split : history = front ++ e :: back)
    (call : e.call = .rotateCredential nodeId bytes now system)
    (found : e.before.inner.node nodeId = some node) (allowed : node.status ≠ .revoked) :
    ∃ response issued newest, e.reply = .rotated (.ok response) ∧
      Rotates front e nodeId node response issued newest := by
  obtain ⟨hfront, he, -⟩ := Serves.split reached split
  have linked : e.before.inner.Linked e.before.nextNodeId := EnrollmentReaches.linked hfront
  have inOrder : IssuedInOrder front e.before := EnrollmentReaches.inOrder hfront
  obtain ⟨response, issued, htext, howner, -, hlink, hfingerprint, hreturned, hserved⟩ :=
    rotate_served sha256 linked found allowed bytes now system
  rw [call, served, hserved] at he
  obtain ⟨newest, hlast⟩ := linked.exists_newest (NodeEnrollmentState.id_mem_of_node found)
  refine ⟨response, issued, newest, congrArg (·.reply) he, howner, hfingerprint, hreturned, hlink,
    congrArg (·.after.inner.credentials) he, hlast, ?_⟩
  rw [← htext, howner, ← inOrder.fingerprints, List.getLast?_map, hlast]
  rfl

/-- Only a node that is there and not revoked rotates. -/
theorem EnrollmentReaches.rotated {nodeId : String} {bytes : RandomBytes} {now : Nat}
    {system : Int} {response : NodeCredentialRotationResponse}
    (reached : EnrollmentReaches sha256 history registry)
    (mem : e ∈ history) (call : e.call = .rotateCredential nodeId bytes now system)
    (reply : e.reply = .rotated (.ok response)) :
    ∃ node, e.before.inner.node nodeId = some node ∧ node.status ≠ .revoked := by
  have he := Serves.of_mem reached mem
  rw [call] at he
  rcases e.before.inner.rotateCredential_cases sha256 nodeId bytes now system with
    ⟨error, heq, -⟩ | ⟨node, _, _, hnode, hallowed, -⟩
  · have hreply := congrArg (·.reply) he
    simp only [served, NodeEnrollmentRegistry.serve, NodeEnrollmentRegistry.rotateCredential,
      NodeEnrollmentRegistry.onInner, heq, reply] at hreply
    cases hreply
  · exact ⟨node, hnode, hallowed⟩

/-- Both the reply and the record name the credential issued just before to the node. -/
theorem EnrollmentReaches.names_previous (reached : EnrollmentReaches sha256 history registry)
    (clocked : (issueTimes history).Pairwise (· ≤ ·)) (agree : ClocksAgree history)
    {nodeId : String} {bytes : RandomBytes} {now : Nat} {system : Int}
    {response : NodeCredentialRotationResponse} (split : history = front ++ e :: back)
    (call : e.call = .rotateCredential nodeId bytes now system)
    (reply : e.reply = .rotated (.ok response)) :
    ∃ previous, (issuedFingerprints nodeId front).getLast? = some previous ∧
      NamesPrevious e nodeId response previous := by
  have hmem : e ∈ history := split ▸ List.mem_append_right _ (List.mem_cons_self ..)
  obtain ⟨node, hfound, hallowed⟩ := reached.rotated hmem call reply
  obtain ⟨response', issued, newest, hreply, rotates⟩ :=
    reached.rotates split call hfound hallowed
  rw [reply, EnrollmentReply.rotated.injEq, Except.ok.injEq] at hreply
  subst hreply
  have inOrder := EnrollmentReaches.inOrder (Serves.split reached split).1
  have hlatest := inOrder.latest (issueTimes_front (split ▸ clocked))
    (agree e hmem nodeId bytes now system node call hfound hallowed)
  have hlink := rotates.link
  rw [hlatest, rotates.last] at hlink
  exact ⟨newest.credentialFingerprint, rotates.before, rotates.returned.trans hlink, node,
    Records.mem_of_find hfound, issued, Records.key_of_find hfound, rotates.owner,
    rotates.fingerprint.symm, hlink, rotates.credentials⟩

theorem EnrollmentReaches.chained (reached : EnrollmentReaches sha256 history registry)
    (clocked : (issueTimes history).Pairwise (· ≤ ·)) (agree : ClocksAgree history)
    {node : NodeRecord} (mem : node ∈ registry.inner.nodes) :
    ∃ newest, registry.inner.Chained node.id newest := by
  obtain ⟨newest, hlast⟩ := reached.linked.exists_newest (List.mem_map_of_mem mem)
  have hvisits := (reached.allLinked clocked agree node.id).visits hlast
  exact ⟨newest, hlast, hvisits, fun distinct _ h => h.unique distinct hvisits⟩

/-- A rotation that names the credential before it found that one to be the latest. -/
theorem EnrollmentReaches.clocksAgree (reached : EnrollmentReaches sha256 history registry)
    (clocked : (issueTimes history).Pairwise (· ≤ ·))
    (distinct : ∀ id, ((registry.inner.credentialsOf id).map (·.credentialFingerprint)).Nodup)
    (chain : RotationsChain history registry) : ClocksAgree history := by
  intro e he nodeId bytes now system node hcall hfound hallowed
  obtain ⟨front, back, hsplit⟩ := List.append_of_mem he
  obtain ⟨hfront, -, hback⟩ := Serves.split reached hsplit
  have inOrder := EnrollmentReaches.inOrder hfront
  obtain ⟨response, issued, newest, hreply, rotates⟩ :=
    reached.rotates hsplit hcall hfound hallowed
  obtain ⟨previous, hprevious, hnames⟩ :=
    chain.names front e back nodeId bytes now system response hsplit hcall hreply
  rw [rotates.before, Option.some.injEq] at hprevious
  have hlink := hnames.returned.symm.trans (rotates.returned.trans rotates.link)
  obtain ⟨latest, hlatest, hsame⟩ := Option.map_eq_some_iff.mp hlink.symm
  have hkept : e.before.inner.credentials <+: registry.inner.credentials := by
    refine List.IsPrefix.trans ?_ (credentials_prefix_run hback)
    rw [rotates.credentials]
    exact List.prefix_append _ _
  have hdistinct := (distinct node.id).sublist
    ((credentialsOf_kept hkept node.id).map _).sublist
  have hmem : latest ∈ e.before.inner.credentialsOf node.id := by
    rw [NodeEnrollmentState.latestCredentialForNode_eq] at hlatest
    exact (lastMax_spec _ hlatest).1
  have hnewest : latest = newest := List.inj_on_of_nodup_map hdistinct hmem
    (List.mem_of_getLast? rotates.last) (hsame.trans hprevious.symm)
  rw [hnewest] at hlatest
  exact (latest_eq_newest_iff ((issueTimes_front (hsplit ▸ clocked)).sublist inOrder.times)
    (inOrder.rotated node.id) rotates.last).mp hlatest

/-- In every run no operation changes a credential. With an ordered monotonic clock the rotations
    make chains if every newest credential shows the latest time of its instant when its node
    rotates; and when no node has two credentials of one fingerprint, only then. -/
theorem rotations_chain (reached : EnrollmentReaches sha256 history registry)
    (clocked : (issueTimes history).Pairwise (· ≤ ·)) :
    RecordsKept history ∧
      (ClocksAgree history → RotationsChain history registry) ∧
      ((∀ id, ((registry.inner.credentialsOf id).map (·.credentialFingerprint)).Nodup) →
        RotationsChain history registry → ClocksAgree history) := by
  refine ⟨fun e he => ?_, fun agree => ⟨?_, ?_, ?_⟩, reached.clocksAgree clocked⟩
  · rw [Serves.of_mem reached he]
    exact EnrollmentStep.credentials_prefix (e.before.serve_step sha256 e.call)
  · intro front e back nodeId bytes now system response hsplit hcall hreply
    exact reached.names_previous clocked agree hsplit hcall hreply
  · intro node hnode
    rw [reached.inOrder.fingerprints, reached.linked.text_of_mem hnode]
  · exact fun node hnode => reached.chained clocked agree hnode

end Runs

/-! An enrollment and rotations at one instant. -/

private def chainDigest (data : ByteArray) : List UInt8 := Sha256.sha256 data.data.toList

private def rotation (byte : UInt8) (seconds : Nat) : EnrollmentCall :=
  .rotateCredential "node-1" (Vector.replicate 32 byte) 5 (secs seconds)

/-- The wall clock is set back a second before the first rotation. -/
private def setBack : List EnrollmentCall := sampleCalls ++ [rotation 2 1699999999]

private def realHistory (calls : List EnrollmentCall) : List EnrollmentEvent :=
  historyOf (NodeEnrollmentRegistry.serve chainDigest) .default calls

private def realEnd (calls : List EnrollmentCall) : NodeEnrollmentRegistry :=
  endOf (NodeEnrollmentRegistry.serve chainDigest) .default calls

/-- The only rotation finds one credential. -/
private theorem setBack_agrees : ClocksAgree (realHistory setBack) := by
  intro e he nodeId bytes now system node hcall _ _ newest hnewest credential hmem _
  rcases List.mem_cons.mp he with rfl | he
  · cases hcall
  rcases List.mem_cons.mp he with rfl | he
  · cases hcall
  rw [List.mem_singleton.mp he] at hnewest hmem
  have hone : (realEnd sampleCalls).inner.credentials.length = 1 := by decide +kernel
  obtain ⟨only, honly⟩ := List.length_eq_one_iff.mp hone
  have hsame : ∀ other ∈ (realEnd sampleCalls).inner.credentialsOf node.id, other = only := by
    intro other hother
    have hother := (List.mem_filter.mp hother).1
    rwa [honly, List.mem_singleton] at hother
  rw [hsame credential hmem, hsame newest (List.mem_of_getLast? hnewest)]

theorem rotations_chain_set_back :
    RotationsChain (realHistory setBack) (realEnd setBack) :=
  (rotations_chain (.ofCalls _ _ _) (by decide +kernel)).2.1 setBack_agrees

private def EnrollmentReply.previous : EnrollmentReply → Option String
  | .rotated (.ok response) => response.credential.previousCredentialFingerprint
  | _ => none

private theorem exists_response {reply : EnrollmentReply} (h : reply.previous.isSome = true) :
    ∃ response, reply = .rotated (.ok response) := by
  cases reply with
  | rotated result =>
    cases result with
    | ok response => exact ⟨response, rfl⟩
    | error error => cases h
  | _ => cases h

private def rotatedAgain : List EnrollmentCall := setBack ++ [rotation 3 1700000001]

/-- The second rotation names the credential of the enrollment. -/
theorem rotation_skips_a_credential :
    EnrollmentReaches chainDigest (realHistory rotatedAgain) (realEnd rotatedAgain) ∧
      (issueTimes (realHistory rotatedAgain)).Pairwise (· ≤ ·) ∧
      ¬RotationsChain (realHistory rotatedAgain) (realEnd rotatedAgain) := by
  refine ⟨.ofCalls _ _ _, by decide +kernel, fun chain => ?_⟩
  let last := served (NodeEnrollmentRegistry.serve chainDigest) (realEnd setBack)
    (rotation 3 1700000001)
  have hserved : last.reply.previous.isSome = true := by decide +kernel
  obtain ⟨response, hreply⟩ := exists_response hserved
  obtain ⟨previous, hlast, hnames⟩ :=
    chain.names (realHistory setBack) last [] "node-1" _ _ _ response rfl rfl hreply
  have hreturned : last.reply.previous = some previous := by
    rw [hreply]
    exact hnames.returned
  rw [← hlast] at hreturned
  have hdiffer : last.reply.previous ≠
      (issuedFingerprints "node-1" (realHistory setBack)).getLast? := by decide +kernel
  exact hdiffer hreturned

end Sunbolt.Control
