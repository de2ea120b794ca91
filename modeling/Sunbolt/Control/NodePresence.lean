/- Module: Sunbolt/Control/NodePresence
   scope: sunbolt-control/src/node.rs
   digest: A node is online exactly while it has made contact recently. -/

import Sunbolt.Control.EnrollmentTokens

set_option autoImplicit false
set_option relaxedAutoImplicit false

namespace Sunbolt.Control

open Sunbolt.Library
open NodeEnrollmentRegistry (nodeIdText)

def NodeEnrollmentState.listNodes (state : NodeEnrollmentState) (now : Nat) : List NodeView :=
  state.nodes.map (fun node => NodeEnrollmentState.nodeView node
    (state.latestHeartbeatAt node.id) now (state.credentialExpirationForNode node.id))

/-- The instant that a call reads. -/
def EnrollmentCall.now : EnrollmentCall → Nat
  | .createToken _ _ _ now => now
  | .enroll _ _ now _ => now
  | .heartbeat _ now => now
  | .authenticateTransport _ _ _ _ now => now
  | .rotateCredential _ _ now _ => now
  | .revokeNode _ now => now

/-! What the calls of a run have done. -/

def enrolledBy (e : EnrollmentEvent) : Option String :=
  match e.reply with
  | .enrolled (.ok response) => some response.nodeId
  | _ => none

/-- The node that has made contact successfully, and when. -/
def contactBy (e : EnrollmentEvent) : Option (String × Nat) :=
  match e.call, e.reply with
  | .heartbeat request now, .viewed (.ok _) => some (request.nodeId, now)
  | .authenticateTransport nodeId _ _ _ now, .viewed (.ok _) => some (nodeId, now)
  | _, _ => none

def revokedBy (e : EnrollmentEvent) : Option String :=
  match e.call, e.reply with
  | .revokeNode nodeId _, .viewed (.ok _) => some nodeId
  | _, _ => none

def enrolledNodes (history : List EnrollmentEvent) : List String := history.filterMap enrolledBy

def contacts (history : List EnrollmentEvent) : List (String × Nat) := history.filterMap contactBy

def revokedNodes (history : List EnrollmentEvent) : List String := history.filterMap revokedBy

/-- The clock of the calls does not go back. -/
def EnrollmentClock (history : List EnrollmentEvent) : Prop :=
  (history.map (·.call.now)).Pairwise (· ≤ ·)

/-- The presence of a node is recent contact, and every view of the node says the same. -/
structure PresenceExact (history : List EnrollmentEvent) (state : NodeEnrollmentState)
    (nodeId : String) (now : Nat) : Prop where
  online_iff : state.nodeIsOnline nodeId now = true ↔
    nodeId ∈ enrolledNodes history ∧ nodeId ∉ revokedNodes history ∧
      ∃ time, (nodeId, time) ∈ contacts history ∧ now - time < nodeOfflineAfter
  details : state.nodeIsOnline nodeId now = true ↔
    ∃ view, state.nodeDetails nodeId now = some view ∧ view.status = .online
  listed : ∀ view, view ∈ state.listNodes now ∧ view.nodeId = nodeId ↔
    state.nodeDetails nodeId now = some view

/-- What the nodes and heartbeats have to do with the calls. -/
structure Presence (history : List EnrollmentEvent) (state : NodeEnrollmentState) : Prop where
  known : ∀ nodeId, nodeId ∈ enrolledNodes history ↔ ∃ node, state.node nodeId = some node
  contacted : ∀ nodeId time, (nodeId, time) ∈ contacts history → nodeId ∈ enrolledNodes history
  shut : ∀ nodeId, nodeId ∈ revokedNodes history → nodeId ∈ enrolledNodes history
  revoked : ∀ nodeId node, state.node nodeId = some node →
    (node.status = .revoked ↔ nodeId ∈ revokedNodes history)
  online : ∀ nodeId node, state.node nodeId = some node → node.status ≠ .revoked →
    (node.status = .online ↔ ∃ time, (nodeId, time) ∈ contacts history)
  recorded : ∀ nodeId node, state.node nodeId = some node → ∀ time,
    (nodeId, time) ∈ contacts history ↔ ⟨node.id, .online, time⟩ ∈ state.heartbeats
  timed : ∀ heartbeat ∈ state.heartbeats, ∃ e ∈ history, e.call.now = heartbeat.receivedAt
  first : ∀ heartbeat ∈ state.heartbeats, heartbeat.status ≠ .online →
    heartbeat.status = .enrolled ∧ ∀ other ∈ state.heartbeats,
      other.nodeId = heartbeat.nodeId → heartbeat.receivedAt ≤ other.receivedAt

section Steps

/-- What a call does to the presence of the nodes. -/
inductive PresenceStep (e : EnrollmentEvent) : Prop
  | same (enrolled : enrolledBy e = none) (contact : contactBy e = none)
    (revoked : revokedBy e = none) (nodes : e.after.inner.nodes = e.before.inner.nodes)
    (heartbeats : e.after.inner.heartbeats = e.before.inner.heartbeats)
  | enrolled (node : NodeRecord) (id : node.id = e.before.nextNodeId)
    (text : node.nodeId = nodeIdText e.before.nextNodeId) (status : node.status = .enrolled)
    (enrolled : enrolledBy e = some node.nodeId) (contact : contactBy e = none)
    (revoked : revokedBy e = none) (nodes : e.after.inner.nodes = e.before.inner.nodes ++ [node])
    (heartbeats : e.after.inner.heartbeats =
      e.before.inner.heartbeats ++ [⟨node.id, .enrolled, e.call.now⟩])
  | contact (nodeId : String) (node after : NodeRecord)
    (found : e.before.inner.node nodeId = some node) (allowed : node.status ≠ .revoked)
    (id : after.id = node.id) (text : after.nodeId = node.nodeId) (status : after.status = .online)
    (enrolled : enrolledBy e = none) (contact : contactBy e = some (nodeId, e.call.now))
    (revoked : revokedBy e = none)
    (inner : e.after.inner = e.before.inner.connect nodeId after e.call.now)
  | revoked (nodeId : String) (node : NodeRecord) (found : e.before.inner.node nodeId = some node)
    (enrolled : enrolledBy e = none) (contact : contactBy e = none)
    (revoked : revokedBy e = some nodeId)
    (inner : e.after.inner =
      e.before.inner.changeNode nodeId (fun _ => { node with status := .revoked }))

theorem enroll_cases (sha256 : ByteArray → List UInt8) (registry : NodeEnrollmentRegistry)
    (request : AgentEnrollmentRequest) (bytes : RandomBytes) (now : Nat) (system : Int) :
    (∃ error, registry.enroll sha256 request bytes now system = (registry, .error error)) ∨
    ∃ tokens secret fingerprint response,
      registry.enroll sha256 request bytes now system =
        ({ registry with
            nextNodeId := registry.nextNodeId + 1
            tokensByHash := tokens
            inner := registry.inner.addNode sha256 registry.nextNodeId
              (nodeIdText registry.nextNodeId) secret fingerprint request now system },
          .ok response) ∧
      response.nodeId = nodeIdText registry.nextNodeId := by
  rw [NodeEnrollmentRegistry.enroll]
  cases registry.tokensByHash.lookup (tokenHash request.token) with
  | none => exact .inl ⟨_, rfl⟩
  | some token =>
    dsimp only
    split_ifs
    · exact .inl ⟨_, rfl⟩
    · exact .inl ⟨_, rfl⟩
    · exact .inr ⟨_, _, _, _, rfl, rfl⟩

theorem presence_step (sha256 : ByteArray → List UInt8) (registry : NodeEnrollmentRegistry)
    (call : EnrollmentCall) :
    PresenceStep (served (NodeEnrollmentRegistry.serve sha256) registry call) := by
  cases call with
  | createToken user ttl bytes now => exact .same rfl rfl rfl rfl rfl
  | enroll request bytes now system =>
    rw [served, NodeEnrollmentRegistry.serve]
    rcases enroll_cases sha256 registry request bytes now system with
      ⟨error, heq⟩ | ⟨tokens, secret, fingerprint, response, heq, hid⟩
    · rw [heq]
      exact .same rfl rfl rfl rfl rfl
    · rw [heq]
      exact .enrolled _ rfl rfl rfl (congrArg some hid) rfl rfl rfl rfl
  | heartbeat request now =>
    rw [served, NodeEnrollmentRegistry.serve, NodeEnrollmentRegistry.heartbeat,
      NodeEnrollmentState.heartbeat_eq]
    cases hchecked : registry.inner.checkCredential request.nodeId request.credentialFingerprint
        request.credentialProof now with
    | error error => exact .same rfl rfl rfl rfl rfl
    | ok node =>
      obtain ⟨hfound, hallowed⟩ := NodeEnrollmentRegistry.admitted hchecked
      exact .contact request.nodeId node (NodeEnrollmentState.beating node request) hfound hallowed
        rfl rfl rfl rfl rfl rfl rfl
  | authenticateTransport nodeId fingerprint proof version now =>
    rw [served, NodeEnrollmentRegistry.serve, NodeEnrollmentRegistry.authenticateTransport,
      NodeEnrollmentState.authenticateTransport_eq]
    cases hchecked : registry.inner.checkCredential nodeId fingerprint proof now with
    | error error => exact .same rfl rfl rfl rfl rfl
    | ok node =>
      obtain ⟨hfound, hallowed⟩ := NodeEnrollmentRegistry.admitted hchecked
      exact .contact nodeId node (NodeEnrollmentState.greeting node version) hfound hallowed
        rfl rfl rfl rfl rfl rfl rfl
  | rotateCredential nodeId bytes now system =>
    rw [served, NodeEnrollmentRegistry.serve, NodeEnrollmentRegistry.rotateCredential]
    rcases registry.inner.rotateCredential_cases sha256 nodeId bytes now system with
      ⟨error, heq, -⟩ | ⟨node, previous, response, -, -, heq, -⟩
    · rw [heq]
      exact .same rfl rfl rfl rfl rfl
    · rw [heq]
      exact .same rfl rfl rfl rfl rfl
  | revokeNode nodeId now =>
    rw [served, NodeEnrollmentRegistry.serve, NodeEnrollmentRegistry.revokeNode,
      NodeEnrollmentState.revokeNode_eq]
    cases hnode : registry.inner.node nodeId with
    | none => exact .same rfl rfl rfl rfl rfl
    | some node => exact .revoked nodeId node hnode rfl rfl rfl rfl

end Steps

/-! The invariant, one kind of step at a time. -/

section Invariant

variable {history : List EnrollmentEvent} {e : EnrollmentEvent}

theorem mem_enrolledNodes_append {nodeId : String} :
    nodeId ∈ enrolledNodes (history ++ [e]) ↔
      nodeId ∈ enrolledNodes history ∨ enrolledBy e = some nodeId := by
  rw [enrolledNodes, filterMap_append_one, List.mem_append, Option.mem_toList]
  rfl

theorem mem_contacts_append {contact : String × Nat} :
    contact ∈ contacts (history ++ [e]) ↔
      contact ∈ contacts history ∨ contactBy e = some contact := by
  rw [contacts, filterMap_append_one, List.mem_append, Option.mem_toList]
  rfl

theorem mem_revokedNodes_append {nodeId : String} :
    nodeId ∈ revokedNodes (history ++ [e]) ↔
      nodeId ∈ revokedNodes history ∨ revokedBy e = some nodeId := by
  rw [revokedNodes, filterMap_append_one, List.mem_append, Option.mem_toList]
  rfl

/-- A call adds the node that it enrolled, and changes the name of none. -/
theorem PresenceStep.nodeIds (step : PresenceStep e) : e.after.inner.nodes.map (·.nodeId) =
    e.before.inner.nodes.map (·.nodeId) ++ (enrolledBy e).toList := by
  cases step with
  | same enrolled contact revoked nodes heartbeats =>
    rw [enrolled, nodes]
    exact (List.append_nil _).symm
  | enrolled node id text status enrolled contact revoked nodes heartbeats =>
    rw [enrolled, nodes, List.map_append]
    rfl
  | contact nodeId node after found allowed id text status enrolled contact revoked inner =>
    rw [enrolled, inner]
    exact (NodeEnrollmentState.map_changeNode (·.nodeId) found text).trans
      (List.append_nil _).symm
  | revoked nodeId node found enrolled contact revoked inner =>
    have hnodes := @NodeEnrollmentState.map_changeNode e.before.inner nodeId String (·.nodeId) node
      { node with status := .revoked } found rfl
    rw [enrolled, inner]
    exact hnodes.trans (List.append_nil _).symm

/-- Every node is named after its number. -/
theorem NodeEnrollmentState.Linked.nodeId_eq {state : NodeEnrollmentState} {next : Nat}
    (h : state.Linked next) {nodeId : String} {node : NodeRecord}
    (found : state.node nodeId = some node) : nodeId = nodeIdText node.id := by
  have hnamed : state.nodes.map (·.nodeId) = state.nodes.map (fun node => nodeIdText node.id) := by
    rw [h.named, NodeEnrollmentState.ids, List.map_map]
    rfl
  rw [← Records.key_of_find found]
  exact List.map_inj_left.mp hnamed node (Records.mem_of_find found)

/-- Two nodes with one number are found under one id. -/
theorem NodeEnrollmentState.Linked.nodeId_unique {state : NodeEnrollmentState} {next : Nat}
    (h : state.Linked next) {nodeId other : String} {node node' : NodeRecord}
    (found : state.node nodeId = some node) (found' : state.node other = some node')
    (same : node.id = node'.id) : nodeId = other := by
  rw [h.nodeId_eq found, h.nodeId_eq found', same]

/-- A heartbeat that is recorded now has the time of the call. -/
private theorem Presence.timed_append (h : Presence history e.before.inner)
    {beats more : List NodeHeartbeatRecord} (split : beats = e.before.inner.heartbeats ++ more)
    (now : ∀ heartbeat ∈ more, heartbeat.receivedAt = e.call.now) :
    ∀ heartbeat ∈ beats, ∃ d ∈ history ++ [e], d.call.now = heartbeat.receivedAt := by
  intro heartbeat hmem
  rw [split] at hmem
  rcases List.mem_append.mp hmem with hold | hnew
  · obtain ⟨d, hd, htime⟩ := h.timed heartbeat hold
    exact ⟨d, List.mem_append_left _ hd, htime⟩
  · exact ⟨e, by simp, (now heartbeat hnew).symm⟩

/-- A call that adds no node, contact or revocation. -/
theorem Presence.same (h : Presence history e.before.inner) (enrolled : enrolledBy e = none)
    (contact : contactBy e = none) (revoked : revokedBy e = none)
    (nodes : e.after.inner.nodes = e.before.inner.nodes)
    (heartbeats : e.after.inner.heartbeats = e.before.inner.heartbeats) :
    Presence (history ++ [e]) e.after.inner := by
  have hnode : ∀ nodeId, e.after.inner.node nodeId = e.before.inner.node nodeId := by
    intro nodeId
    rw [NodeEnrollmentState.node, nodes]
    rfl
  have henrolled : ∀ nodeId, nodeId ∈ enrolledNodes (history ++ [e]) ↔
      nodeId ∈ enrolledNodes history := by simp [mem_enrolledNodes_append, enrolled]
  have hcontacts : ∀ contact, contact ∈ contacts (history ++ [e]) ↔ contact ∈ contacts history := by
    simp [mem_contacts_append, contact]
  have hrevoked : ∀ nodeId, nodeId ∈ revokedNodes (history ++ [e]) ↔
      nodeId ∈ revokedNodes history := by simp [mem_revokedNodes_append, revoked]
  refine ⟨?known, ?contacted, ?shut, ?revoked, ?online, ?recorded, ?timed, ?first⟩
  case known =>
    simpa only [henrolled, hnode] using h.known
  case contacted =>
    simpa only [henrolled, hcontacts] using h.contacted
  case shut =>
    simpa only [henrolled, hrevoked] using h.shut
  case revoked =>
    simpa only [hnode, hrevoked] using h.revoked
  case online =>
    simpa only [hnode, hcontacts] using h.online
  case recorded =>
    simpa only [hnode, hcontacts, heartbeats] using h.recorded
  case timed => exact h.timed_append (heartbeats.trans (List.append_nil _).symm) (by simp)
  case first =>
    simpa only [heartbeats] using h.first

/-- An enrollment adds a node that has never made contact. -/
theorem Presence.enrolled (h : Presence history e.before.inner)
    (linked : e.before.inner.Linked e.before.nextNodeId) {node : NodeRecord}
    (id : node.id = e.before.nextNodeId) (text : node.nodeId = nodeIdText e.before.nextNodeId)
    (status : node.status = .enrolled) (enrolled : enrolledBy e = some node.nodeId)
    (contact : contactBy e = none) (revoked : revokedBy e = none)
    (nodes : e.after.inner.nodes = e.before.inner.nodes ++ [node])
    (heartbeats : e.after.inner.heartbeats =
      e.before.inner.heartbeats ++ [⟨node.id, .enrolled, e.call.now⟩]) :
    Presence (history ++ [e]) e.after.inner := by
  have hfresh : ∀ other, e.before.inner.node node.nodeId ≠ some other := by
    intro other hother
    have hcounted := linked.counted _ (NodeEnrollmentState.id_mem_of_node hother)
    have hsame := nodeIdText_injective (text.symm.trans (linked.nodeId_eq hother))
    omega
  have hnode : ∀ nodeId, e.after.inner.node nodeId =
      if nodeId = node.nodeId then some node else e.before.inner.node nodeId := by
    intro nodeId
    rw [NodeEnrollmentState.node, nodes, Records.find_append, Records.find_cons]
    change (e.before.inner.node nodeId).or _ = _
    by_cases hsame : nodeId = node.nodeId
    · subst hsame
      rw [if_pos rfl, if_pos rfl, Option.eq_none_iff_forall_ne_some.mpr hfresh]
      rfl
    · rw [if_neg hsame, if_neg (Ne.symm hsame)]
      cases e.before.inner.node nodeId <;> rfl
  have hcontacts : ∀ contact, contact ∈ contacts (history ++ [e]) ↔ contact ∈ contacts history := by
    simp [mem_contacts_append, contact]
  have hrevoked : ∀ nodeId, nodeId ∈ revokedNodes (history ++ [e]) ↔
      nodeId ∈ revokedNodes history := by simp [mem_revokedNodes_append, revoked]
  have hnew : node.nodeId ∉ enrolledNodes history := by
    intro hmem
    obtain ⟨other, hother⟩ := (h.known _).mp hmem
    exact hfresh other hother
  have hunused : ∀ heartbeat ∈ e.before.inner.heartbeats, heartbeat.nodeId ≠ node.id := by
    intro heartbeat hmem
    have hcounted := linked.counted _ (linked.heartbeats heartbeat hmem)
    omega
  refine ⟨?known, ?contacted, ?shut, ?revoked, ?online, ?recorded, ?timed, ?first⟩
  case known =>
    intro nodeId
    rw [mem_enrolledNodes_append, enrolled, hnode, h.known]
    by_cases hsame : nodeId = node.nodeId
    · simp [hsame]
    · simp [hsame, Ne.symm hsame]
  case contacted =>
    intro nodeId time hmem
    rw [mem_enrolledNodes_append]
    exact Or.inl (h.contacted nodeId time ((hcontacts _).mp hmem))
  case shut =>
    intro nodeId hmem
    rw [mem_enrolledNodes_append]
    exact Or.inl (h.shut nodeId ((hrevoked _).mp hmem))
  case revoked =>
    intro nodeId found hfound
    rw [hnode] at hfound
    rw [hrevoked]
    split_ifs at hfound with hsame
    · cases hfound
      subst hsame
      have hnone : node.nodeId ∉ revokedNodes history :=
        fun hmem => hnew (h.shut node.nodeId hmem)
      simp [status, hnone]
    · exact h.revoked nodeId found hfound
  case online =>
    intro nodeId found hfound allowed
    rw [hnode] at hfound
    simp only [hcontacts]
    split_ifs at hfound with hsame
    · cases hfound
      subst hsame
      have hnone : ∀ time, (node.nodeId, time) ∉ contacts history :=
        fun time hmem => hnew (h.contacted _ time hmem)
      simp [status, hnone]
    · exact h.online nodeId found hfound allowed
  case recorded =>
    intro nodeId found hfound time
    rw [hnode] at hfound
    rw [hcontacts, heartbeats, List.mem_append, List.mem_singleton]
    split_ifs at hfound with hsame
    · cases hfound
      subst hsame
      have hnone : (node.nodeId, time) ∉ contacts history :=
        fun hmem => hnew (h.contacted _ time hmem)
      have hnobeat : (⟨node.id, .online, time⟩ : NodeHeartbeatRecord) ∉
          e.before.inner.heartbeats := fun hmem => hunused _ hmem rfl
      simp [hnone, hnobeat]
    · rw [h.recorded nodeId found hfound]
      simp
  case timed => exact h.timed_append heartbeats (by simp)
  case first =>
    intro heartbeat hmem hstatus
    rw [heartbeats] at hmem ⊢
    rcases List.mem_append.mp hmem with hmem | hmem
    · obtain ⟨henrolled, hfirst⟩ := h.first heartbeat hmem hstatus
      refine ⟨henrolled, fun other hother hsame => ?_⟩
      rcases List.mem_append.mp hother with hother | hother
      · exact hfirst other hother hsame
      · rw [List.mem_singleton.mp hother] at hsame
        exact absurd hsame.symm (hunused heartbeat hmem)
    · rw [List.mem_singleton.mp hmem]
      refine ⟨rfl, fun other hother hsame => ?_⟩
      rcases List.mem_append.mp hother with hother | hother
      · exact absurd hsame (hunused other hother)
      · rw [List.mem_singleton.mp hother]

/-- A contact brings its node online. -/
theorem Presence.contact (h : Presence history e.before.inner)
    (linked : e.before.inner.Linked e.before.nextNodeId) (clock : EnrollmentClock (history ++ [e]))
    {nodeId : String} {node after : NodeRecord} (found : e.before.inner.node nodeId = some node)
    (allowed : node.status ≠ .revoked) (id : after.id = node.id)
    (text : after.nodeId = node.nodeId) (status : after.status = .online)
    (enrolled : enrolledBy e = none) (contact : contactBy e = some (nodeId, e.call.now))
    (revoked : revokedBy e = none)
    (inner : e.after.inner = e.before.inner.connect nodeId after e.call.now) :
    Presence (history ++ [e]) e.after.inner := by
  have hnode : ∀ other, e.after.inner.node other =
      if other = nodeId then some after else e.before.inner.node other := by
    intro other
    rw [inner]
    exact NodeEnrollmentState.node_changeNode after found text other
  have hbeats : e.after.inner.heartbeats =
      e.before.inner.heartbeats ++ [⟨node.id, .online, e.call.now⟩] := by
    rw [inner, ← id]
    rfl
  have henrolled : ∀ nodeId, nodeId ∈ enrolledNodes (history ++ [e]) ↔
      nodeId ∈ enrolledNodes history := by simp [mem_enrolledNodes_append, enrolled]
  have hcontacts : ∀ other time, (other, time) ∈ contacts (history ++ [e]) ↔
      (other, time) ∈ contacts history ∨ other = nodeId ∧ time = e.call.now := by
    intro other time
    rw [mem_contacts_append, contact, Option.some.injEq, Prod.mk.injEq, eq_comm,
      eq_comm (b := time)]
  have hrevoked : ∀ nodeId, nodeId ∈ revokedNodes (history ++ [e]) ↔
      nodeId ∈ revokedNodes history := by simp [mem_revokedNodes_append, revoked]
  have hknown : nodeId ∈ enrolledNodes history := (h.known nodeId).mpr ⟨node, found⟩
  refine ⟨?known, ?contacted, ?shut, ?revoked, ?online, ?recorded, ?timed, ?first⟩
  case known =>
    intro other
    rw [henrolled, hnode, h.known]
    by_cases hsame : other = nodeId
    · simp [hsame, found]
    · simp [hsame]
  case contacted =>
    intro other time hmem
    rw [henrolled]
    rcases (hcontacts other time).mp hmem with hmem | ⟨rfl, -⟩
    · exact h.contacted other time hmem
    · exact hknown
  case shut =>
    simpa only [henrolled, hrevoked] using h.shut
  case revoked =>
    intro other found' hfound
    rw [hnode] at hfound
    rw [hrevoked]
    split_ifs at hfound with hsame
    · cases hfound
      subst hsame
      have hopen : other ∉ revokedNodes history :=
        fun hmem => allowed ((h.revoked other node found).mpr hmem)
      simp [status, hopen]
    · exact h.revoked other found' hfound
  case online =>
    intro other found' hfound hallowed
    rw [hnode] at hfound
    split_ifs at hfound with hsame
    · cases hfound
      exact ⟨fun _ => ⟨e.call.now, (hcontacts other _).mpr (Or.inr ⟨hsame, rfl⟩)⟩,
        fun _ => status⟩
    · rw [h.online other found' hfound hallowed]
      exact exists_congr (fun time => by simp [hcontacts, hsame])
  case recorded =>
    intro other found' hfound time
    rw [hnode] at hfound
    rw [hcontacts, hbeats, List.mem_append, List.mem_singleton]
    split_ifs at hfound with hsame
    · cases hfound
      subst hsame
      rw [h.recorded other node found, id]
      simp
    · have hother : found'.id ≠ node.id :=
        fun heq => hsame (linked.nodeId_unique hfound found heq)
      rw [h.recorded other found' hfound]
      simp [hsame, hother]
  case timed => exact h.timed_append hbeats (by simp)
  case first =>
    intro heartbeat hmem hstatus
    rw [hbeats] at hmem ⊢
    rcases List.mem_append.mp hmem with hmem | hmem
    · obtain ⟨hfirst, hearlier⟩ := h.first heartbeat hmem hstatus
      refine ⟨hfirst, fun other hother hsame => ?_⟩
      rcases List.mem_append.mp hother with hother | hother
      · exact hearlier other hother hsame
      · -- the heartbeat that is recorded now is not earlier than any before
        obtain ⟨d, hd, htime⟩ := h.timed heartbeat hmem
        rw [EnrollmentClock, List.map_append, List.pairwise_append] at clock
        rw [List.mem_singleton.mp hother, ← htime]
        exact clock.2.2 _ (List.mem_map_of_mem hd) _ List.mem_cons_self
    · rw [List.mem_singleton.mp hmem] at hstatus
      exact absurd rfl hstatus

/-- A revocation. -/
theorem Presence.revoke (h : Presence history e.before.inner) {nodeId : String}
    {node : NodeRecord} (found : e.before.inner.node nodeId = some node)
    (enrolled : enrolledBy e = none) (contact : contactBy e = none)
    (revoked : revokedBy e = some nodeId)
    (inner : e.after.inner =
      e.before.inner.changeNode nodeId (fun _ => { node with status := .revoked })) :
    Presence (history ++ [e]) e.after.inner := by
  have hnode : ∀ other, e.after.inner.node other =
      if other = nodeId then some { node with status := .revoked }
      else e.before.inner.node other := by
    intro other
    rw [inner]
    exact NodeEnrollmentState.node_changeNode { node with status := .revoked } found rfl other
  have hbeats : e.after.inner.heartbeats = e.before.inner.heartbeats := by
    rw [inner, NodeEnrollmentState.heartbeats_changeNode]
  have henrolled : ∀ nodeId, nodeId ∈ enrolledNodes (history ++ [e]) ↔
      nodeId ∈ enrolledNodes history := by simp [mem_enrolledNodes_append, enrolled]
  have hcontacts : ∀ contact, contact ∈ contacts (history ++ [e]) ↔ contact ∈ contacts history := by
    simp [mem_contacts_append, contact]
  have hrevoked : ∀ other, other ∈ revokedNodes (history ++ [e]) ↔
      other ∈ revokedNodes history ∨ nodeId = other := by
    simp [mem_revokedNodes_append, revoked]
  refine ⟨?known, ?contacted, ?shut, ?revoked, ?online, ?recorded, ?timed, ?first⟩
  case known =>
    intro other
    rw [henrolled, hnode, h.known]
    by_cases hsame : other = nodeId
    · simp [hsame, found]
    · simp [hsame]
  case contacted =>
    simpa only [henrolled, hcontacts] using h.contacted
  case shut =>
    intro other hmem
    rw [henrolled]
    rcases (hrevoked other).mp hmem with hmem | rfl
    · exact h.shut other hmem
    · exact (h.known nodeId).mpr ⟨node, found⟩
  case revoked =>
    intro other found' hfound
    rw [hnode] at hfound
    rw [hrevoked]
    split_ifs at hfound with hsame
    · cases hfound
      simp [hsame]
    · rw [h.revoked other found' hfound]
      simp [Ne.symm hsame]
  case online =>
    intro other found' hfound hallowed
    rw [hnode] at hfound
    simp only [hcontacts]
    split_ifs at hfound with hsame
    · cases hfound
      exact absurd rfl hallowed
    · exact h.online other found' hfound hallowed
  case recorded =>
    intro other found' hfound time
    rw [hnode] at hfound
    rw [hcontacts, hbeats]
    split_ifs at hfound with hsame
    · cases hfound
      subst hsame
      exact h.recorded other node found time
    · exact h.recorded other found' hfound time
  case timed => exact h.timed_append (hbeats.trans (List.append_nil _).symm) (by simp)
  case first =>
    simpa only [hbeats] using h.first

end Invariant

section Runs

variable {sha256 : ByteArray → List UInt8} {history : List EnrollmentEvent}
  {registry : NodeEnrollmentRegistry}

theorem EnrollmentReaches.presence (reached : EnrollmentReaches sha256 history registry)
    (clock : EnrollmentClock history) : Presence history registry.inner := by
  refine Serves.invariant (I := fun history registry =>
    EnrollmentClock history → Presence history registry.inner) ?_ ?_ reached clock
  · intro _
    constructor <;> simp [NodeEnrollmentRegistry.default, enrolledNodes, contacts, revokedNodes,
      NodeEnrollmentState.node, Records.find]
  · intro history registry call hrun ih hclock
    have hearlier : EnrollmentClock history := by
      rw [EnrollmentClock, List.map_append] at hclock
      exact (List.pairwise_append.mp hclock).1
    have hbefore := ih hearlier
    have linked := EnrollmentReaches.linked hrun
    cases presence_step sha256 registry call with
    | same enrolled contact revoked nodes heartbeats =>
      exact hbefore.same enrolled contact revoked nodes heartbeats
    | enrolled node id text status enrolled contact revoked nodes heartbeats =>
      exact hbefore.enrolled linked id text status enrolled contact revoked nodes heartbeats
    | contact nodeId node after found allowed id text status enrolled contact revoked inner =>
      exact hbefore.contact linked hclock found allowed id text status enrolled contact revoked
        inner
    | revoked nodeId node found enrolled contact revoked inner =>
      exact hbefore.revoke found enrolled contact revoked inner

/-- The nodes are those that were enrolled, in this order, and all different. -/
theorem EnrollmentReaches.enrolledNodes (reached : EnrollmentReaches sha256 history registry) :
    Control.enrolledNodes history = registry.inner.nodes.map (·.nodeId) ∧
      (Control.enrolledNodes history).Nodup := by
  have hnodes : Control.enrolledNodes history = registry.inner.nodes.map (·.nodeId) := by
    refine Serves.invariant (I := fun history registry =>
      Control.enrolledNodes history = registry.inner.nodes.map (·.nodeId)) rfl ?_ reached
    intro history registry call _ ih
    have hstep := (presence_step sha256 registry call).nodeIds
    rw [Control.enrolledNodes, filterMap_append_one]
    exact (congrArg (· ++ _) ih).trans hstep.symm
  refine ⟨hnodes, ?_⟩
  rw [hnodes, reached.linked.named]
  exact reached.linked.apart.map nodeIdText_injective

/-- The last heartbeat is one that counts, and none that counts is later. -/
theorem latestHeartbeatAt_eq_some {state : NodeEnrollmentState} {id last : Nat} :
    state.latestHeartbeatAt id = some last ↔
      (∃ heartbeat ∈ state.heartbeats, heartbeat.nodeId = id ∧ heartbeat.status ≠ .revoked ∧
        heartbeat.receivedAt = last) ∧
      ∀ heartbeat ∈ state.heartbeats, heartbeat.nodeId = id → heartbeat.status ≠ .revoked →
        heartbeat.receivedAt ≤ last := by
  rw [NodeEnrollmentState.latestHeartbeatAt, List.max?_eq_some_iff]
  simp only [List.mem_map, List.mem_filter, Bool.and_eq_true, beq_iff_eq, bne_iff_ne, and_assoc,
    forall_exists_index, and_imp]
  refine and_congr_right (fun _ => ⟨?_, ?_⟩)
  · intro h heartbeat hmem hid hstatus
    exact h _ heartbeat hmem hid hstatus rfl
  · rintro h _ heartbeat hmem hid hstatus rfl
    exact h heartbeat hmem hid hstatus

theorem nodeIsOnline_iff {state : NodeEnrollmentState} {nodeId : String} {now : Nat} :
    state.nodeIsOnline nodeId now = true ↔ ∃ node, state.node nodeId = some node ∧
      node.status = .online ∧ ∀ last, state.latestHeartbeatAt node.id = some last →
        now - last < nodeOfflineAfter := by
  have hdetails : state.nodeDetails nodeId now = (state.node nodeId).map (fun node =>
      NodeEnrollmentState.nodeView node (state.latestHeartbeatAt node.id) now
        (state.credentialExpirationForNode node.id)) := rfl
  rw [NodeEnrollmentState.nodeIsOnline, hdetails]
  cases state.node nodeId with
  | none => simp
  | some node =>
    simp only [Option.map_some, Option.any_some, NodeEnrollmentState.nodeView, beq_iff_eq,
      Option.some.injEq, exists_eq_left']
    split_ifs with hold
    · simp only [Bool.and_eq_true, beq_iff_eq, Option.any_eq_true, decide_eq_true_eq] at hold
      obtain ⟨hstatus, last, hlast, hle⟩ := hold
      refine ⟨fun h => (by cases h), fun h => ?_⟩
      have := h.2 last hlast
      omega
    · refine ⟨fun hstatus => ⟨hstatus, fun last hlast => ?_⟩, fun h => h.1⟩
      by_contra hge
      simp [hstatus, hlast, Nat.not_lt.mp hge] at hold

/-- In every run whose clock does not go back a node is shown online, by each of the functions
    that show it, exactly while it is enrolled, not revoked and its last successful contact is
    recent. -/
theorem presence_is_recent_contact (reached : EnrollmentReaches sha256 history registry)
    (clock : EnrollmentClock history) (nodeId : String) (now : Nat) :
    PresenceExact history registry.inner nodeId now where
  online_iff := by
    have h := reached.presence clock
    rw [nodeIsOnline_iff]
    constructor
    · rintro ⟨node, found, hstatus, hrecent⟩
      have allowed : node.status ≠ .revoked := by
        rw [hstatus]
        exact nofun
      obtain ⟨time, hcontact⟩ := (h.online nodeId node found allowed).mp hstatus
      have hbeat := (h.recorded nodeId node found time).mp hcontact
      refine ⟨(h.known nodeId).mpr ⟨node, found⟩,
        fun hmem => allowed ((h.revoked nodeId node found).mpr hmem), ?_⟩
      -- the last heartbeat is a contact, or the enrollment, and no contact is before that
      cases hlast : registry.inner.latestHeartbeatAt node.id with
      | none =>
        rw [NodeEnrollmentState.latestHeartbeatAt, List.max?_eq_none_iff, List.map_eq_nil_iff,
          List.filter_eq_nil_iff] at hlast
        exact absurd (by simp) (hlast _ hbeat)
      | some last =>
        obtain ⟨⟨heartbeat, hmem, hid, -, rfl⟩, hmax⟩ := latestHeartbeatAt_eq_some.mp hlast
        have hlt := hrecent _ hlast
        by_cases honline : heartbeat.status = .online
        · refine ⟨heartbeat.receivedAt, (h.recorded nodeId node found _).mpr ?_, hlt⟩
          rw [← hid, ← honline]
          exact hmem
        · have hfirst : heartbeat.receivedAt ≤ time :=
            (h.first heartbeat hmem honline).2 _ hbeat hid.symm
          exact ⟨time, hcontact, by omega⟩
    · rintro ⟨henrolled, hopen, time, hcontact, hrecent⟩
      obtain ⟨node, found⟩ := (h.known nodeId).mp henrolled
      have allowed : node.status ≠ .revoked :=
        fun hstatus => hopen ((h.revoked nodeId node found).mp hstatus)
      refine ⟨node, found, (h.online nodeId node found allowed).mpr ⟨time, hcontact⟩, ?_⟩
      intro last hlast
      have hbeat := (h.recorded nodeId node found time).mp hcontact
      have hle := (latestHeartbeatAt_eq_some.mp hlast).2 _ hbeat rfl nofun
      dsimp only at hle
      omega
  details := by
    rw [NodeEnrollmentState.nodeIsOnline, Option.any_eq_true]
    simp only [beq_iff_eq]
  listed view := by
    have linked := reached.linked
    have hapart : (registry.inner.nodes.map (·.nodeId)).Nodup := by
      rw [linked.named]
      exact linked.apart.map nodeIdText_injective
    have hdetails : registry.inner.nodeDetails nodeId now =
        (registry.inner.node nodeId).map (fun node => NodeEnrollmentState.nodeView node
          (registry.inner.latestHeartbeatAt node.id) now
          (registry.inner.credentialExpirationForNode node.id)) := rfl
    rw [hdetails, Option.map_eq_some_iff, NodeEnrollmentState.listNodes, List.mem_map]
    constructor
    · rintro ⟨⟨node, hmem, rfl⟩, hid⟩
      have hid : node.nodeId = nodeId := hid
      refine ⟨node, ?_, rfl⟩
      rw [← hid]
      exact Records.find_of_mem hapart hmem
    · rintro ⟨node, found, rfl⟩
      have hid : node.nodeId = nodeId := Records.key_of_find found
      exact ⟨⟨node, Records.mem_of_find found, rfl⟩, hid⟩

end Runs

/-- The enrolled node connects. -/
private def nodeConnects : EnrollmentCall :=
  .authenticateTransport "node-1" (credentialFingerprint sampleDigest (randomToken sampleBytes))
    (credentialProof sampleDigest "node-1" (randomToken sampleBytes)) "0.1.0" (secs 1000)

private theorem nodeConnects_calls :
    contacts (sampleHistory [nodeConnects]) = [("node-1", secs 1000)] ∧
    (sampleHistory [nodeConnects]).map (·.call.now) = [0, 5, secs 1000] := by
  decide +kernel

theorem presence_is_recent_contact_sample :
    contacts (sampleHistory [nodeConnects]) = [("node-1", secs 1000)] ∧
    PresenceExact (sampleHistory [nodeConnects]) (sampleEnd [nodeConnects]).inner "node-1"
      (secs 1090) := by
  obtain ⟨hcontacts, hnows⟩ := nodeConnects_calls
  refine ⟨hcontacts, presence_is_recent_contact (sample_reached [nodeConnects]) ?_ "node-1" _⟩
  rw [EnrollmentClock, hnows]
  decide

end Sunbolt.Control
