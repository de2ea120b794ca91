/- Module: Sunbolt/Control/EnrollmentTokens
   scope: sunbolt-control/src/node.rs, sunbolt-control/src/security.rs
   digest: What enrollment tokens admit, and how tokens, nodes and credentials hang together. -/

import Sunbolt.Control.NodeEnrollmentSteps

set_option autoImplicit false
set_option relaxedAutoImplicit false

namespace Sunbolt.Control

open Sunbolt.Library
open NodeEnrollmentRegistry (nodeIdText)

/-- The token that a call created. -/
def EnrollmentReply.token : EnrollmentReply → Option String
  | .created response => some response.token
  | _ => none

/-- The token with which a call enrolled a node. -/
def enrolledWith : EnrollmentCall → EnrollmentReply → Option String
  | .enroll request .., .enrolled (.ok _) => some request.token
  | _, _ => none

def createdTokens (history : List EnrollmentEvent) : List String :=
  history.filterMap (fun e => e.reply.token)

def enrolledTokens (history : List EnrollmentEvent) : List String :=
  history.filterMap (fun e => enrolledWith e.call e.reply)

/-- No two tokens that were created have the same hash. -/
def TokensApart (history : List EnrollmentEvent) : Prop :=
  ((createdTokens history).map tokenHash).Nodup

namespace NodeEnrollmentState

variable (state : NodeEnrollmentState)

def ids : List Nat := state.nodes.map (·.id)

/-- Nodes, credentials and heartbeats refer to one another, and the counter is ahead of the ids. -/
structure Linked (nextNodeId : Nat) : Prop where
  counted : ∀ id ∈ state.ids, id < nextNodeId
  named : state.nodes.map (·.nodeId) = state.ids.map nodeIdText
  apart : state.ids.Nodup
  credentials : ∀ credential ∈ state.credentials, credential.nodeId ∈ state.ids
  heartbeats : ∀ heartbeat ∈ state.heartbeats, heartbeat.nodeId ∈ state.ids
  owned : ∀ id ∈ state.ids, id ∈ state.credentials.map (·.nodeId)

variable {state} {next : Nat} {nodeId : String} {node after : NodeRecord}

theorem id_mem_of_node (found : state.node nodeId = some node) : node.id ∈ state.ids :=
  List.mem_map_of_mem (Records.mem_of_find found)

theorem ids_changeNode (found : state.node nodeId = some node) (id : after.id = node.id) :
    (state.changeNode nodeId (fun _ => after)).ids = state.ids :=
  map_changeNode (·.id) found id

namespace Linked

theorem changeNode (h : state.Linked next) (found : state.node nodeId = some node)
    (id : after.id = node.id) (text : after.nodeId = node.nodeId) :
    (state.changeNode nodeId (fun _ => after)).Linked next where
  counted other hother := by
    rw [ids_changeNode found id] at hother
    exact h.counted other hother
  named := by rw [map_changeNode (·.nodeId) found text, ids_changeNode found id, h.named]
  apart := by
    rw [ids_changeNode found id]
    exact h.apart
  credentials credential hmem := by
    rw [ids_changeNode found id]
    rw [credentials_changeNode] at hmem
    exact h.credentials credential hmem
  heartbeats heartbeat hmem := by
    rw [ids_changeNode found id]
    rw [heartbeats_changeNode] at hmem
    exact h.heartbeats heartbeat hmem
  owned other hother := by
    rw [ids_changeNode found id] at hother
    rw [credentials_changeNode]
    exact h.owned other hother

theorem connect (h : state.Linked next) (found : state.node nodeId = some node)
    (id : after.id = node.id) (text : after.nodeId = node.nodeId) (now : Nat) :
    (state.connect nodeId after now).Linked next := by
  have hchanged := h.changeNode found id text
  refine ⟨hchanged.counted, hchanged.named, hchanged.apart, hchanged.credentials, ?_,
    hchanged.owned⟩
  intro heartbeat hmem
  change heartbeat.nodeId ∈ (state.changeNode nodeId (fun _ => after)).ids
  rw [ids_changeNode found id]
  rcases List.mem_append.mp hmem with hmem | hmem
  · exact h.heartbeats heartbeat hmem
  · rw [List.mem_singleton] at hmem
    rw [hmem, id]
    exact id_mem_of_node found

theorem issueCredential (h : state.Linked next) {credential : NodeCredentialRecord}
    (known : credential.nodeId ∈ state.ids) : (state.issueCredential credential).Linked next := by
  refine ⟨h.counted, h.named, h.apart, ?_, h.heartbeats, ?_⟩
  · intro other hmem
    rcases List.mem_append.mp hmem with hmem | hmem
    · exact h.credentials other hmem
    · rw [List.mem_singleton] at hmem
      exact hmem ▸ known
  · intro id hid
    rw [NodeEnrollmentState.issueCredential, List.map_append]
    exact List.mem_append_left _ (h.owned id hid)

/-- A new node takes the id that the counter stands at. -/
theorem addNode (h : state.Linked next) (sha256 : ByteArray → List UInt8)
    (secret fingerprint : String) (request : AgentEnrollmentRequest) (now : Nat) (system : Int) :
    (state.addNode sha256 next (nodeIdText next) secret fingerprint request now system).Linked
      (next + 1) := by
  have hids : (state.addNode sha256 next (nodeIdText next) secret fingerprint request now
      system).ids = state.ids ++ [next] := List.map_append
  have hfresh : next ∉ state.ids := fun hmem => Nat.lt_irrefl _ (h.counted _ hmem)
  constructor
  · intro id hid
    rw [hids, List.mem_append, List.mem_singleton] at hid
    rcases hid with hid | hid
    · exact Nat.lt_succ_of_lt (h.counted id hid)
    · omega
  · rw [hids, List.map_append, ← h.named]
    exact List.map_append
  · rw [hids, List.nodup_append]
    refine ⟨h.apart, List.nodup_singleton _, ?_⟩
    intro id hid other hother
    rw [List.mem_singleton] at hother
    rintro rfl
    exact hfresh (hother ▸ hid)
  · intro credential hmem
    rw [hids]
    rcases List.mem_append.mp hmem with hmem | hmem
    · exact List.mem_append_left _ (h.credentials credential hmem)
    · rw [List.mem_singleton] at hmem
      rw [hmem]
      exact List.mem_append_right _ (List.mem_singleton_self _)
  · intro heartbeat hmem
    rw [hids]
    rcases List.mem_append.mp hmem with hmem | hmem
    · exact List.mem_append_left _ (h.heartbeats heartbeat hmem)
    · rw [List.mem_singleton] at hmem
      rw [hmem]
      exact List.mem_append_right _ (List.mem_singleton_self _)
  · intro id hid
    rw [hids, List.mem_append, List.mem_singleton] at hid
    rw [NodeEnrollmentState.addNode, List.map_append]
    rcases hid with hid | hid
    · exact List.mem_append_left _ (h.owned id hid)
    · exact List.mem_append_right _ (hid ▸ List.mem_singleton_self _)

end Linked

end NodeEnrollmentState

namespace NodeEnrollmentRegistry

variable (registry : NodeEnrollmentRegistry)

/-- The token record under the hash says that it enrolled the node. -/
def UsedBy (hash : UInt64) (id : Nat) : Prop :=
  ∃ record, registry.tokensByHash.lookup hash = some record ∧ record.usedByNodeId = some id

/-- Tokens and nodes refer to one another, and no token was enrolled with twice. -/
structure TokensLinked (history : List EnrollmentEvent) : Prop where
  issued : ∀ hash record, registry.tokensByHash.lookup hash = some record →
    hash ∈ (createdTokens history).map tokenHash
  spent : ∀ token ∈ enrolledTokens history, ∃ id, registry.UsedBy (tokenHash token) id
  once : (enrolledTokens history).Nodup
  counted : ∀ hash id, registry.UsedBy hash id → id < registry.nextNodeId
  used : ∀ id ∈ registry.inner.ids, ∃! hash, registry.UsedBy hash id

variable {registry}

/-- What a record says of its use after one more record is put down. -/
theorem usedBy_insert {tokens : Table UInt64 EnrollmentTokenRecord}
    {record : EnrollmentTokenRecord} {hash : UInt64}
    (unused : ∀ id, ¬registry.UsedBy hash id) (other : UInt64) (id : Nat)
    (htokens : tokens = registry.tokensByHash.insert hash record) :
    (∃ found, tokens.lookup other = some found ∧ found.usedByNodeId = some id) ↔
      registry.UsedBy other id ∨ other = hash ∧ record.usedByNodeId = some id := by
  rw [htokens]
  by_cases hother : other = hash
  · subst hother
    constructor
    · rintro ⟨found, hfound, hid⟩
      rw [AList.lookup_insert, Option.some.injEq] at hfound
      exact .inr ⟨rfl, hfound ▸ hid⟩
    · rintro (hused | ⟨-, hid⟩)
      · exact absurd hused (unused id)
      · exact ⟨record, AList.lookup_insert _, hid⟩
  · constructor
    · rintro ⟨found, hfound, hid⟩
      rw [AList.lookup_insert_ne hother] at hfound
      exact .inl ⟨found, hfound, hid⟩
    · rintro (⟨found, hfound, hid⟩ | ⟨heq, -⟩)
      · exact ⟨found, by rwa [AList.lookup_insert_ne hother], hid⟩
      · exact absurd heq hother

end NodeEnrollmentRegistry

section Digest

variable {sha256 : ByteArray → List UInt8} {registry after : NodeEnrollmentRegistry}
  {history : List EnrollmentEvent} {e : EnrollmentEvent} {call : EnrollmentCall}
  {reply : EnrollmentReply}

theorem createdTokens_concat (history : List EnrollmentEvent) (e : EnrollmentEvent) :
    createdTokens (history ++ [e]) = createdTokens history ++ e.reply.token.toList := by
  rw [createdTokens, List.filterMap_append]
  cases h : e.reply.token with
  | none => simp [createdTokens, h]
  | some token => simp [createdTokens, h]

theorem enrolledTokens_concat (history : List EnrollmentEvent) (e : EnrollmentEvent) :
    enrolledTokens (history ++ [e]) =
      enrolledTokens history ++ (enrolledWith e.call e.reply).toList := by
  rw [enrolledTokens, List.filterMap_append]
  cases h : enrolledWith e.call e.reply with
  | none => simp [enrolledTokens, h]
  | some token => simp [enrolledTokens, h]

theorem EnrollmentReply.token_of_isError (h : reply.isError = true) : reply.token = none := by
  cases reply with
  | created response => cases h
  | enrolled result => rfl
  | viewed result => rfl
  | rotated result => rfl

theorem enrolledWith_of_isError (h : reply.isError = true) : enrolledWith call reply = none := by
  cases reply with
  | enrolled result =>
    cases result with
    | error error => cases call <;> rfl
    | ok response => cases h
  | _ => cases call <;> rfl

theorem EnrollmentStep.linked (step : EnrollmentStep sha256 registry call reply after)
    (h : registry.inner.Linked registry.nextNodeId) : after.inner.Linked after.nextNodeId := by
  cases step with
  | refused _ _ error => exact h
  | created user ttl bytes now response token => exact h
  | enrolled request bytes now system token found unused live =>
    exact h.addNode sha256 _ _ request now system
  | connected _ nodeId node changed now view found allowed id text =>
    exact h.connect found id text now
  | revoked nodeId node now view found => exact h.changeNode found rfl rfl
  | rotated nodeId node bytes now system previous response found allowed secret fingerprint =>
    exact h.issueCredential (NodeEnrollmentState.id_mem_of_node found)

namespace NodeEnrollmentRegistry.TokensLinked

/-- A call that is not about tokens keeps what holds of them. -/
theorem of_same (h : registry.TokensLinked history) (created : e.reply.token = none)
    (enrolled : enrolledWith e.call e.reply = none)
    (tokens : after.tokensByHash = registry.tokensByHash)
    (counter : after.nextNodeId = registry.nextNodeId)
    (ids : after.inner.ids = registry.inner.ids) : after.TokensLinked (history ++ [e]) := by
  have hissued : createdTokens (history ++ [e]) = createdTokens history := by
    rw [createdTokens_concat, created, Option.toList_none, List.append_nil]
  have henrolled : enrolledTokens (history ++ [e]) = enrolledTokens history := by
    rw [enrolledTokens_concat, enrolled, Option.toList_none, List.append_nil]
  have hused : ∀ hash id, after.UsedBy hash id ↔ registry.UsedBy hash id := by
    intro hash id
    rw [UsedBy, UsedBy, tokens]
  constructor
  · rw [hissued, tokens]
    exact h.issued
  · intro token htoken
    rw [henrolled] at htoken
    obtain ⟨id, hid⟩ := h.spent token htoken
    exact ⟨id, (hused _ id).mpr hid⟩
  · rw [henrolled]
    exact h.once
  · intro hash id hid
    rw [counter]
    exact h.counted hash id ((hused hash id).mp hid)
  · intro id hid
    simp only [hused]
    exact h.used id (ids ▸ hid)

/-- A created token comes with a hash that no record has, so that it replaces none. -/
theorem created (h : registry.TokensLinked history) (apart : TokensApart (history ++ [e]))
    {token : String} (htoken : e.reply.token = some token)
    (enrolled : enrolledWith e.call e.reply = none) {record : EnrollmentTokenRecord}
    (unused : record.usedByNodeId = none)
    (tokens : after.tokensByHash = registry.tokensByHash.insert (tokenHash token) record)
    (counter : after.nextNodeId = registry.nextNodeId)
    (ids : after.inner.ids = registry.inner.ids) : after.TokensLinked (history ++ [e]) := by
  have hissued : (createdTokens (history ++ [e])).map tokenHash =
      (createdTokens history).map tokenHash ++ [tokenHash token] := by
    rw [createdTokens_concat, htoken, List.map_append]
    rfl
  have henrolled : enrolledTokens (history ++ [e]) = enrolledTokens history := by
    rw [enrolledTokens_concat, enrolled, Option.toList_none, List.append_nil]
  have hfresh : tokenHash token ∉ (createdTokens history).map tokenHash := by
    rw [TokensApart, hissued, List.nodup_append] at apart
    exact fun hmem => apart.2.2 _ hmem _ (List.mem_singleton_self _) rfl
  have hused : ∀ hash id, after.UsedBy hash id ↔ registry.UsedBy hash id := by
    intro hash id
    refine (usedBy_insert (fun id' hid' => ?_) hash id tokens).trans ?_
    · obtain ⟨found, hfound, -⟩ := hid'
      exact hfresh (h.issued _ found hfound)
    · rw [unused]
      simp
  constructor
  · intro hash found hfound
    rw [hissued, List.mem_append, List.mem_singleton]
    by_cases hhash : hash = tokenHash token
    · exact .inr hhash
    · rw [tokens, AList.lookup_insert_ne hhash] at hfound
      exact .inl (h.issued hash found hfound)
  · intro other hother
    rw [henrolled] at hother
    obtain ⟨id, hid⟩ := h.spent other hother
    exact ⟨id, (hused _ id).mpr hid⟩
  · rw [henrolled]
    exact h.once
  · intro hash id hid
    rw [counter]
    exact h.counted hash id ((hused hash id).mp hid)
  · intro id hid
    simp only [hused]
    exact h.used id (ids ▸ hid)

/-- An enrollment marks an unused record with the id of the new node. -/
theorem enrolled (h : registry.TokensLinked history) (linked : registry.inner.Linked
      registry.nextNodeId) {token : String} (htoken : enrolledWith e.call e.reply = some token)
    (created : e.reply.token = none) {record : EnrollmentTokenRecord}
    (found : registry.tokensByHash.lookup (tokenHash token) = some record)
    (unused : record.usedByNodeId = none)
    (tokens : after.tokensByHash = registry.tokensByHash.insert (tokenHash token)
      { record with usedByNodeId := some registry.nextNodeId })
    (counter : after.nextNodeId = registry.nextNodeId + 1)
    (ids : after.inner.ids = registry.inner.ids ++ [registry.nextNodeId]) :
    after.TokensLinked (history ++ [e]) := by
  have hissued : createdTokens (history ++ [e]) = createdTokens history := by
    rw [createdTokens_concat, created, Option.toList_none, List.append_nil]
  have henrolled : enrolledTokens (history ++ [e]) = enrolledTokens history ++ [token] := by
    rw [enrolledTokens_concat, htoken, Option.toList_some]
  have hunused : ∀ id, ¬registry.UsedBy (tokenHash token) id := by
    rintro id ⟨other, hother, hid⟩
    rw [found, Option.some.injEq] at hother
    rw [← hother, unused] at hid
    cases hid
  have hused : ∀ hash id, after.UsedBy hash id ↔
      registry.UsedBy hash id ∨ hash = tokenHash token ∧ id = registry.nextNodeId := by
    intro hash id
    refine (usedBy_insert hunused hash id tokens).trans ?_
    rw [Option.some.injEq, eq_comm (a := registry.nextNodeId)]
  constructor
  · intro hash other hother
    rw [hissued]
    by_cases hhash : hash = tokenHash token
    · exact hhash ▸ h.issued _ record found
    · rw [tokens, AList.lookup_insert_ne hhash] at hother
      exact h.issued hash other hother
  · intro other hother
    rw [henrolled, List.mem_append, List.mem_singleton] at hother
    rcases hother with hother | rfl
    · obtain ⟨id, hid⟩ := h.spent other hother
      exact ⟨id, (hused _ id).mpr (.inl hid)⟩
    · exact ⟨_, (hused _ _).mpr (.inr ⟨rfl, rfl⟩)⟩
  · rw [henrolled, List.nodup_append]
    refine ⟨h.once, List.nodup_singleton _, ?_⟩
    intro other hother last hlast
    rw [List.mem_singleton] at hlast
    rintro rfl
    obtain ⟨id, hid⟩ := h.spent other hother
    exact hunused id (hlast ▸ hid)
  · intro hash id hid
    rw [counter]
    rcases (hused hash id).mp hid with hid | ⟨-, rfl⟩
    · exact Nat.lt_succ_of_lt (h.counted hash id hid)
    · exact Nat.lt_succ_self _
  · intro id hid
    simp only [hused]
    rw [ids, List.mem_append, List.mem_singleton] at hid
    rcases hid with hid | rfl
    · -- An older node keeps its record: its id is not the one given out now.
      have hne : id ≠ registry.nextNodeId := Nat.ne_of_lt (linked.counted id hid)
      simpa [hne] using h.used id hid
    · have hnone : ∀ hash, ¬registry.UsedBy hash registry.nextNodeId :=
        fun hash hold => Nat.lt_irrefl _ (h.counted hash _ hold)
      exact ⟨tokenHash token, .inr ⟨rfl, rfl⟩,
        fun hash hhash => (hhash.resolve_left (hnone hash)).1⟩

end NodeEnrollmentRegistry.TokensLinked

theorem EnrollmentStep.tokensLinked (step : EnrollmentStep sha256 registry e.call e.reply after)
    (linked : registry.inner.Linked registry.nextNodeId) (h : registry.TokensLinked history)
    (apart : TokensApart (history ++ [e])) : after.TokensLinked (history ++ [e]) := by
  generalize hcall : e.call = call at step
  generalize hreply : e.reply = reply at step
  cases step with
  | refused _ _ error =>
    exact h.of_same (hreply ▸ EnrollmentReply.token_of_isError error)
      (hreply ▸ enrolledWith_of_isError error) rfl rfl rfl
  | created user ttl bytes now response token =>
    have htoken : e.reply.token = some (randomToken bytes) := by
      rw [hreply, EnrollmentReply.token, token]
    have henrolled : enrolledWith e.call e.reply = none := by
      rw [hcall, hreply]
      rfl
    exact h.created apart htoken henrolled rfl rfl rfl rfl
  | enrolled request bytes now system token found unused live =>
    have htoken : enrolledWith e.call e.reply = some request.token := by
      rw [hcall, hreply]
      rfl
    have hcreated : e.reply.token = none := by
      rw [hreply]
      rfl
    exact h.enrolled linked htoken hcreated found unused rfl rfl List.map_append
  | connected _ nodeId node changed now view found allowed id text =>
    refine h.of_same ?_ ?_ rfl rfl (NodeEnrollmentState.ids_changeNode found id)
    · rw [hreply]
      rfl
    · rw [hreply]
      cases e.call <;> rfl
  | revoked nodeId node now view found =>
    refine h.of_same ?_ ?_ rfl rfl (NodeEnrollmentState.ids_changeNode found rfl)
    · rw [hreply]
      rfl
    · rw [hcall, hreply]
      rfl
  | rotated nodeId node bytes now system previous response found allowed secret fingerprint =>
    refine h.of_same ?_ ?_ rfl rfl rfl
    · rw [hreply]
      rfl
    · rw [hcall, hreply]
      rfl

theorem TokensApart.front {history back : List EnrollmentEvent}
    (h : TokensApart (history ++ back)) : TokensApart history := by
  rw [TokensApart, createdTokens, List.filterMap_append, List.map_append] at h
  exact h.sublist (List.sublist_append_left _ _)

theorem EnrollmentReaches.linked (reached : EnrollmentReaches sha256 history registry) :
    registry.inner.Linked registry.nextNodeId := by
  refine Serves.invariant (I := fun _ registry => registry.inner.Linked registry.nextNodeId) ?_ ?_
    reached
  · constructor <;> simp [NodeEnrollmentRegistry.default, NodeEnrollmentState.ids]
  · intro history registry call _ ih
    exact (registry.serve_step sha256 call).linked ih

theorem EnrollmentReaches.tokensLinked (reached : EnrollmentReaches sha256 history registry)
    (apart : TokensApart history) : registry.TokensLinked history := by
  refine Serves.invariant (I := fun history registry =>
    TokensApart history → registry.TokensLinked history) ?_ ?_ reached apart
  · intro _
    constructor <;> simp [NodeEnrollmentRegistry.default, NodeEnrollmentState.ids, enrolledTokens,
      NodeEnrollmentRegistry.UsedBy]
  · intro history registry call hrun ih hapart
    exact EnrollmentStep.tokensLinked (registry.serve_step sha256 call)
      (EnrollmentReaches.linked hrun) (ih hapart.front) hapart

theorem enroll_error {request : AgentEnrollmentRequest} {bytes : RandomBytes} {now : Nat}
    {system : Int} {error : EnrollmentError}
    (h : (registry.enroll sha256 request bytes now system).2 = .error error) :
    (registry.enroll sha256 request bytes now system).1 = registry := by
  rw [NodeEnrollmentRegistry.enroll] at h ⊢
  split
  · rfl
  · rename_i token hlookup
    simp only [hlookup] at h
    split_ifs with hused hexpired
    · rfl
    · rfl
    · rw [if_neg hused, if_neg hexpired] at h
      cases h

/-- In every run a token enrolls at most one node, the nodes have ids of their own, each node is
    the one that exactly one token record names, credentials and heartbeats are of nodes that
    there are, every node has a credential, and a refused enrollment changes nothing. -/
theorem enrollment_sound (reached : EnrollmentReaches sha256 history registry)
    (apart : TokensApart history) :
    (enrolledTokens history).Nodup ∧
      (registry.inner.nodes.map (·.id)).Nodup ∧ (registry.inner.nodes.map (·.nodeId)).Nodup ∧
      (∀ node ∈ registry.inner.nodes, ∃! hash, registry.UsedBy hash node.id) ∧
      (∀ credential ∈ registry.inner.credentials,
        ∃ node ∈ registry.inner.nodes, node.id = credential.nodeId) ∧
      (∀ heartbeat ∈ registry.inner.heartbeats,
        ∃ node ∈ registry.inner.nodes, node.id = heartbeat.nodeId) ∧
      (∀ node ∈ registry.inner.nodes,
        ∃ credential ∈ registry.inner.credentials, credential.nodeId = node.id) ∧
      ∀ request bytes now system error,
        (registry.enroll sha256 request bytes now system).2 = .error error →
        (registry.enroll sha256 request bytes now system).1 = registry := by
  have linked := reached.linked
  have tokens := reached.tokensLinked apart
  have hids : ∀ node ∈ registry.inner.nodes, node.id ∈ registry.inner.ids :=
    fun node hnode => List.mem_map_of_mem hnode
  refine ⟨tokens.once, linked.apart, ?_, fun node hnode => tokens.used _ (hids node hnode), ?_, ?_,
    ?_, fun _ _ _ _ _ => enroll_error⟩
  · rw [linked.named]
    exact linked.apart.map nodeIdText_injective
  · intro credential hcredential
    exact List.mem_map.mp (linked.credentials credential hcredential)
  · intro heartbeat hheartbeat
    exact List.mem_map.mp (linked.heartbeats heartbeat hheartbeat)
  · intro node hnode
    exact List.mem_map.mp (linked.owned _ (hids node hnode))

end Digest

/-- A second token, and an enrollment with the first one again. -/
private def secondToken : List EnrollmentCall :=
  [.createToken ⟨1, "admin@sunbolt.local", .admin⟩ (secs 900) sampleBytes 6,
    .enroll sampleRequest sampleToken 7 (secs 1700000002)]

private theorem secondToken_apart : TokensApart (sampleHistory secondToken) := by
  have hnodup : ((createdTokens (sampleHistory secondToken)).map tokenHash).Nodup := by
    decide +kernel
  exact hnodup

theorem enrollment_sound_sample :
    enrolledTokens (sampleHistory secondToken) = [randomToken sampleToken] ∧
      ∀ node ∈ (sampleEnd secondToken).inner.nodes,
        ∃! hash, (sampleEnd secondToken).UsedBy hash node.id :=
  ⟨by decide +kernel,
    (enrollment_sound (sample_reached secondToken) secondToken_apart).2.2.2.1⟩

/-! Which strings enroll a node. -/

/-- The call returned the token, which is good until then. -/
def Issues (e : EnrollmentEvent) (token : String) (expiresAt : Nat) : Prop :=
  ∃ user ttl bytes now, e.call = .createToken user ttl bytes now ∧ e.reply.token = some token ∧
    expiresAt = now + ttl

/-- The string is a token that was created and since then has neither been used nor expired. -/
def Outstanding (history : List EnrollmentEvent) (token : String) (now : Nat) : Prop :=
  ∃ early c late expiresAt, history = early ++ c :: late ∧ Issues c token expiresAt ∧
    now < expiresAt ∧ token ∉ enrolledTokens late

/-- Every enrollment that succeeded was asked for with an outstanding token. -/
def ExactTokens (history : List EnrollmentEvent) : Prop :=
  ∀ front e back request bytes now system response, history = front ++ e :: back →
    e.call = .enroll request bytes now system → e.reply = .enrolled (.ok response) →
    Outstanding front request.token now

/-- The tokens are made of bytes of one set and presented as strings of another. -/
def Within (drawn : Set RandomBytes) (presented : Set String) : EnrollmentCall → Prop
  | .createToken _ _ bytes _ => bytes ∈ drawn
  | .enroll request .. => request.token ∈ presented
  | _ => True

/-- A record is that of the last token created under its hash, and marked when it was used. -/
def Backed (history : List EnrollmentEvent) (hash : UInt64) (record : EnrollmentTokenRecord) :
    Prop :=
  ∃ early c late token, history = early ++ c :: late ∧ Issues c token record.expiresAt ∧
    tokenHash token = hash ∧
    (record.usedByNodeId = none → ∀ used ∈ enrolledTokens late, tokenHash used ≠ hash)

section Digest

variable {sha256 : ByteArray → List UInt8} {registry after : NodeEnrollmentRegistry}
  {history : List EnrollmentEvent} {e : EnrollmentEvent} {hash : UInt64}
  {record : EnrollmentTokenRecord}

/-- An enrollment under another hash, or none, leaves the record as it was. -/
theorem Backed.concat (h : Backed history hash record)
    (other : ∀ token, enrolledWith e.call e.reply = some token → tokenHash token ≠ hash) :
    Backed (history ++ [e]) hash record := by
  obtain ⟨early, c, late, token, rfl, hissues, hhash, hunused⟩ := h
  refine ⟨early, c, late ++ [e], token, by simp, hissues, hhash, ?_⟩
  intro hnone used hused
  rw [enrolledTokens_concat, List.mem_append, Option.mem_toList] at hused
  rcases hused with hused | hused
  · exact hunused hnone used hused
  · exact other used hused

theorem EnrollmentStep.backed (step : EnrollmentStep sha256 registry e.call e.reply after)
    (h : ∀ hash record, registry.tokensByHash.lookup hash = some record →
      Backed history hash record) :
    ∀ hash record, after.tokensByHash.lookup hash = some record →
      Backed (history ++ [e]) hash record := by
  intro hash record hlookup
  generalize hcall : e.call = call at step
  generalize hreply : e.reply = reply at step
  cases step with
  | refused _ _ error =>
    refine (h hash record hlookup).concat (fun token htoken => ?_)
    rw [hreply, enrolledWith_of_isError error] at htoken
    cases htoken
  | created user ttl bytes now response token =>
    have htoken : e.reply.token = some (randomToken bytes) := by
      rw [hreply, EnrollmentReply.token, token]
    by_cases hhash : hash = tokenHash (randomToken bytes)
    · rw [hhash, AList.lookup_insert, Option.some.injEq] at hlookup
      subst hlookup
      exact ⟨history, e, [], randomToken bytes, rfl, ⟨user, ttl, bytes, now, hcall, htoken, rfl⟩,
        hhash.symm, fun _ used hused => absurd hused List.not_mem_nil⟩
    · rw [AList.lookup_insert_ne hhash] at hlookup
      refine (h hash record hlookup).concat (fun other hother => ?_)
      rw [hcall, hreply] at hother
      cases hother
  | enrolled request bytes now system token found unused live =>
    have henrolled : ∀ other, enrolledWith e.call e.reply = some other →
        other = request.token := by
      intro other hother
      rw [hcall, hreply] at hother
      exact (Option.some.inj hother).symm
    by_cases hhash : hash = tokenHash request.token
    · -- The record is marked, and what stands behind it is the same call as before.
      rw [hhash, AList.lookup_insert, Option.some.injEq] at hlookup
      obtain ⟨early, c, late, made, hhistory, hissues, hmade, -⟩ := h _ token found
      refine ⟨early, c, late ++ [e], made, by rw [hhistory]; simp, ?_, hhash ▸ hmade, ?_⟩
      · rw [← hlookup]
        exact hissues
      · intro hnone
        rw [← hlookup] at hnone
        cases hnone
    · rw [AList.lookup_insert_ne hhash] at hlookup
      refine (h hash record hlookup).concat (fun other hother => ?_)
      rw [henrolled other hother]
      exact Ne.symm hhash
  | connected _ nodeId node changed now view found allowed id text =>
    refine (h hash record hlookup).concat (fun token htoken => ?_)
    rw [hreply] at htoken
    cases hcase : e.call <;> rw [hcase] at htoken <;> cases htoken
  | revoked nodeId node now view found =>
    refine (h hash record hlookup).concat (fun token htoken => ?_)
    rw [hcall, hreply] at htoken
    cases htoken
  | rotated nodeId node bytes now system previous response found allowed secret fingerprint =>
    refine (h hash record hlookup).concat (fun token htoken => ?_)
    rw [hcall, hreply] at htoken
    cases htoken

theorem EnrollmentReaches.backed (reached : EnrollmentReaches sha256 history registry) :
    ∀ hash record, registry.tokensByHash.lookup hash = some record →
      Backed history hash record := by
  refine Serves.invariant (I := fun history registry => ∀ hash record,
    registry.tokensByHash.lookup hash = some record → Backed history hash record) ?_ ?_ reached
  · intro hash record hlookup
    rw [NodeEnrollmentRegistry.default, AList.lookup_empty] at hlookup
    cases hlookup
  · intro history registry call _ ih
    exact EnrollmentStep.backed (registry.serve_step sha256 call) ih

/-- A record that is unused and still good enrolls whoever presents a string of its hash. -/
theorem enroll_of_found {request : AgentEnrollmentRequest} {now : Nat}
    (found : registry.tokensByHash.lookup (tokenHash request.token) = some record)
    (unused : record.usedByNodeId = none) (live : now < record.expiresAt) (bytes : RandomBytes)
    (system : Int) :
    (registry.enroll sha256 request bytes now system).2 =
      .ok ⟨nodeIdText registry.nextNodeId, credentialFingerprint sha256 (randomToken bytes),
        randomToken bytes, credentialExpirationUnixSecs system⟩ := by
  rw [NodeEnrollmentRegistry.enroll]
  simp only [found, unused, Option.isSome_none, Bool.false_eq_true, if_false,
    if_neg (Nat.not_le_of_lt live)]
  rfl

variable (sha256)

/-- A token is created and a string presented at once. -/
def createAndPresent (bytes : RandomBytes) (token : String) : List EnrollmentCall :=
  [.createToken ⟨1, "admin@sunbolt.local", .admin⟩ (secs 900) bytes 0,
    .enroll ⟨token, "edge", "edge-1", "linux", "x86_64", "0.1.0"⟩ sampleBytes 5
      (secs 1700000000)]

/-- A string with the hash of the token enrolls, so it has to be the token. -/
theorem same_of_exact {bytes : RandomBytes} {token : String}
    (hash : tokenHash (randomToken bytes) = tokenHash token)
    (exact' : ExactTokens (historyOf (NodeEnrollmentRegistry.serve sha256) .default
      (createAndPresent bytes token))) : randomToken bytes = token := by
  let create : EnrollmentCall := .createToken ⟨1, "admin@sunbolt.local", .admin⟩ (secs 900) bytes 0
  let created := (NodeEnrollmentRegistry.serve sha256 .default create).1
  let request : AgentEnrollmentRequest := ⟨token, "edge", "edge-1", "linux", "x86_64", "0.1.0"⟩
  have hfound : created.tokensByHash.lookup (tokenHash request.token) =
      some ⟨1, 1, 0 + secs 900, none⟩ := by
    rw [← hash]
    exact AList.lookup_insert _
  have hok : (created.enroll sha256 request sampleBytes 5 (secs 1700000000)).2 = .ok _ :=
    enroll_of_found hfound rfl (by decide) sampleBytes _
  obtain ⟨early, c, late, expiresAt, hsplit, ⟨_, _, _, _, -, hissued, -⟩, -, -⟩ :=
    exact' [served _ .default create] _ [] _ _ _ _ _ rfl rfl (congrArg EnrollmentReply.enrolled hok)
  have hc : c ∈ [served (NodeEnrollmentRegistry.serve sha256) .default create] := by
    rw [hsplit]
    simp
  rw [List.mem_singleton] at hc
  rw [hc] at hissued
  exact Option.some.inj hissued

/-- Every enrollment of every run is with an outstanding token if and only if no string that is
    presented has the hash of another token that is created. -/
theorem exact_tokens_iff (drawn : Set RandomBytes) (presented : Set String) :
    (∀ history registry, EnrollmentReaches sha256 history registry →
      (∀ e ∈ history, Within drawn presented e.call) → ExactTokens history) ↔
    ∀ bytes ∈ drawn, ∀ token ∈ presented,
      tokenHash (randomToken bytes) = tokenHash token → randomToken bytes = token := by
  constructor
  · intro exact' bytes hbytes token htoken hhash
    refine same_of_exact sha256 hhash (exact' _ _ (.ofCalls _ _ (createAndPresent bytes token)) ?_)
    simp only [createAndPresent, historyOf, List.forall_mem_cons, List.not_mem_nil, false_implies,
      implies_true, and_true]
    exact ⟨hbytes, htoken⟩
  · intro apart history registry reached within front e back request bytes now system response
      hsplit hcall hreply
    obtain ⟨hfront, hserved, -⟩ := reached.split hsplit
    have step := e.before.serve_step sha256 e.call
    have hreply' : (e.before.serve sha256 e.call).2 = .enrolled (.ok response) := by
      rw [← hreply, hserved]
      rfl
    generalize (e.before.serve sha256 e.call).1 = left at step
    rw [hreply', hcall] at step
    cases step with
    | refused _ _ error => cases error
    | enrolled _ _ _ _ token found unused live =>
      obtain ⟨early, c, late, made, rfl, hissues, hhash, hunused⟩ :=
        EnrollmentReaches.backed hfront _ token found
      have hsame : made = request.token := by
        obtain ⟨user, ttl, bytes', now', hcreate, hmade, -⟩ := hissues
        have hc : c = served (NodeEnrollmentRegistry.serve sha256) c.before c.call :=
          hfront.of_mem (by simp)
        have hbytes : randomToken bytes' = made := by
          rw [hc, hcreate] at hmade
          exact Option.some.inj hmade
        have hdrawn := within c (by simp [hsplit])
        have hpresented := within e (by simp [hsplit])
        rw [hcreate] at hdrawn
        rw [hcall] at hpresented
        rw [← hbytes]
        exact apart bytes' hdrawn _ hpresented (by rw [hbytes, hhash])
      subst hsame
      exact ⟨early, c, late, token.expiresAt, rfl, hissues, live,
        fun hused => hunused unused _ hused rfl⟩

end Digest

/-! Two tokens that `random_token` can return and that have one hash. -/

private def firstBytes : RandomBytes :=
  #v[0, 0, 0, 0, 0, 0, 0, 0, 0, 0, 0, 0, 0, 0, 0, 0, 0, 0, 0, 0, 0, 0, 0, 0,
    0x0a, 0x04, 0xb4, 0x70, 0x7e, 0x81, 0x1b, 0x24]

private def otherBytes : RandomBytes :=
  #v[0, 0, 0, 0, 0, 0, 0, 0, 0, 0, 0, 0, 0, 0, 0, 0, 0, 0, 0, 0, 0, 0, 0, 0,
    0xba, 0xeb, 0xfc, 0xd3, 0xe7, 0x17, 0xfe, 0xd8]

private theorem tokens_collide : tokenHash (randomToken firstBytes) =
    tokenHash (randomToken otherBytes) ∧ randomToken firstBytes ≠ randomToken otherBytes := by
  decide +kernel

/-- A node is enrolled with a token that nobody created. -/
theorem other_token_enrolls :
    ∃ history registry, EnrollmentReaches sampleDigest history registry ∧
      createdTokens history = [randomToken firstBytes] ∧
      enrolledTokens history = [randomToken otherBytes] ∧
      randomToken otherBytes ≠ randomToken firstBytes ∧ ¬ExactTokens history := by
  refine ⟨_, _, .ofCalls _ _ (createAndPresent firstBytes (randomToken otherBytes)),
    by decide +kernel, by decide +kernel, Ne.symm tokens_collide.2, ?_⟩
  intro exact'
  exact tokens_collide.2 (same_of_exact sampleDigest tokens_collide.1 exact')

end Sunbolt.Control
