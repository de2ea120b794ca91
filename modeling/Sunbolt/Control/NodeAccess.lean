/- Module: Sunbolt/Control/NodeAccess
   scope: sunbolt-control/src/routes/node.rs, sunbolt-auth/src/lib.rs
   digest: What a request about nodes may do and show, while permissions change around it. -/

import Sunbolt.Control.NodeRoutes

set_option autoImplicit false
set_option relaxedAutoImplicit false

namespace Sunbolt.Control.NodeRoutes

open Sunbolt.Library
open Sunbolt.Auth (Primitives RbacCall RbacStore User addWorkspaceMember_cases
  grantRolePermission_cases mapNodeToWorkspace_cases)

/-! Permissions grow. -/

section Growth

variable {primitives : Primitives} {store : RbacStore} (call : RbacCall)

/-- A call adds to the members of a workspace, and to the permissions of a role. -/
theorem collections_grow :
    (∀ workspaceId, store.membersOf workspaceId ⊆
      (store.serve primitives call).1.membersOf workspaceId) ∧
    ∀ roleId, store.permissionsOf roleId ⊆
      (store.serve primitives call).1.permissionsOf roleId := by
  have hrefl : ∀ other : RbacStore,
      other.workspaceMembersByWorkspaceId = store.workspaceMembersByWorkspaceId →
      other.rolePermissionsByRoleId = store.rolePermissionsByRoleId →
      (∀ workspaceId, store.membersOf workspaceId ⊆ other.membersOf workspaceId) ∧
        ∀ roleId, store.permissionsOf roleId ⊆ other.permissionsOf roleId := by
    intro other hmembers hpermissions
    constructor
    · intro workspaceId
      rw [RbacStore.membersOf, RbacStore.membersOf, hmembers]
      exact List.Subset.refl _
    · intro roleId
      rw [RbacStore.permissionsOf, RbacStore.permissionsOf, hpermissions]
      exact List.Subset.refl _
  cases call with
  | createWorkspace name =>
    apply hrefl <;> simp only [RbacStore.serve, RbacStore.createWorkspace] <;> split_ifs <;> rfl
  | createRole name =>
    apply hrefl <;> simp only [RbacStore.serve, RbacStore.createRole] <;> split_ifs <;> rfl
  | upsertUser email password role => exact hrefl _ rfl rfl
  | mapNodeToWorkspace workspaceId nodeId =>
    rw [RbacStore.serve]
    rcases mapNodeToWorkspace_cases store workspaceId nodeId with ⟨error, heq⟩ | heq
    · rw [heq]
      exact hrefl _ rfl rfl
    · rw [heq]
      exact hrefl _ rfl rfl
  | grantRolePermission roleId permission =>
    rw [RbacStore.serve]
    rcases grantRolePermission_cases store roleId permission with ⟨error, heq⟩ | heq
    · rw [heq]
      exact hrefl _ rfl rfl
    · rw [heq]
      refine ⟨fun _ => List.Subset.refl _, fun other => ?_⟩
      rw [RbacStore.permissionsOf, RbacStore.permissionsOf, Table.lookup_push]
      split_ifs
      · exact List.subset_append_left _ _
      · exact List.Subset.refl _
  | addWorkspaceMember workspaceId userId roleId =>
    rw [RbacStore.serve]
    rcases addWorkspaceMember_cases store workspaceId userId roleId with ⟨error, heq⟩ | heq
    · rw [heq]
      exact hrefl _ rfl rfl
    · rw [heq]
      refine ⟨fun other => ?_, fun _ => List.Subset.refl _⟩
      rw [RbacStore.membersOf, RbacStore.membersOf, Table.lookup_push]
      split_ifs
      · exact List.subset_append_left _ _
      · exact List.Subset.refl _

/-- No call takes a permission in a workspace away. -/
theorem workspacePermission_kept {user : User} {workspaceId : Nat}
    {permission : Sunbolt.Auth.Permission}
    (h : store.userHasWorkspacePermission user workspaceId permission = true) :
    (store.serve primitives call).1.userHasWorkspacePermission user workspaceId permission =
      true := by
  have hgrow := @collections_grow primitives store call
  rw [RbacStore.userHasWorkspacePermission] at h ⊢
  split_ifs at h ⊢ with hadmin
  · rfl
  · rw [List.any_eq_true] at h ⊢
    obtain ⟨member, hmember, hany⟩ := h
    obtain ⟨hmem, huser⟩ := List.mem_filter.mp hmember
    refine ⟨member, List.mem_filter.mpr ⟨hgrow.1 workspaceId hmem, huser⟩, ?_⟩
    rw [List.any_eq_true] at hany ⊢
    obtain ⟨granted, hgranted, heq⟩ := hany
    exact ⟨granted, hgrow.2 member.roleId hgranted, heq⟩

/-- The workspace of a node is changed by a mapping of this node only. -/
theorem workspaceNode_kept {nodeId : String}
    (other : ∀ workspaceId, call ≠ .mapNodeToWorkspace workspaceId nodeId) :
    (store.serve primitives call).1.workspaceNodesByNodeId.lookup nodeId =
      store.workspaceNodesByNodeId.lookup nodeId := by
  cases call with
  | createWorkspace name =>
    simp only [RbacStore.serve, RbacStore.createWorkspace]
    split_ifs <;> rfl
  | createRole name =>
    simp only [RbacStore.serve, RbacStore.createRole]
    split_ifs <;> rfl
  | upsertUser email password role => rfl
  | grantRolePermission roleId permission =>
    rw [RbacStore.serve]
    rcases grantRolePermission_cases store roleId permission with ⟨error, heq⟩ | heq <;> rw [heq]
  | addWorkspaceMember workspaceId userId roleId =>
    rw [RbacStore.serve]
    rcases addWorkspaceMember_cases store workspaceId userId roleId with ⟨error, heq⟩ | heq <;>
      rw [heq]
  | mapNodeToWorkspace workspaceId mapped =>
    have hne : nodeId ≠ mapped := by
      rintro rfl
      exact other workspaceId rfl
    rw [RbacStore.serve]
    rcases mapNodeToWorkspace_cases store workspaceId mapped with ⟨error, heq⟩ | heq
    · rw [heq]
    · rw [heq]
      exact AList.lookup_insert_ne hne

end Growth

/-! The calls of a check. -/

/-- What the check of a permission has called, and what came of it. -/
inductive PermissionCalls (user : User) (nodeId : String) (permission : Sunbolt.Auth.Permission) :
    NodePast → Option Bool → Prop
  | admin (role : user.role = .admin) : PermissionCalls user nodeId permission [] (some true)
  | locked (role : user.role ≠ .admin) :
    PermissionCalls user nodeId permission [⟨.workspaceOfNode nodeId, none⟩] none
  | unmapped (role : user.role ≠ .admin) :
    PermissionCalls user nodeId permission [⟨.workspaceOfNode nodeId, some none⟩] (some false)
  | decided (role : user.role ≠ .admin) (workspaceId : Nat) (answer : Option Bool) :
    PermissionCalls user nodeId permission
      [⟨.workspaceOfNode nodeId, some (some workspaceId)⟩,
        ⟨.workspacePermission user workspaceId permission, answer⟩] answer

/-- Among these calls are those of a check with this answer. -/
def Asked (past : NodePast) (user : User) (nodeId : String) (permission : Sunbolt.Auth.Permission)
    (answer : Option Bool) : Prop :=
  ∃ early calls late, past = early ++ calls ++ late ∧
    PermissionCalls user nodeId permission calls answer

section Checks

variable {user : User} {nodeId : String} {permission : Sunbolt.Auth.Permission}
  {answer : Option Bool} {past : NodePast}

theorem Asked.append (h : Asked past user nodeId permission answer) (more : NodePast) :
    Asked (past ++ more) user nodeId permission answer := by
  obtain ⟨early, calls, late, rfl, hcalls⟩ := h
  exact ⟨early, calls, late ++ more, by simp, hcalls⟩

theorem Asked.prepend (h : Asked past user nodeId permission answer) (more : NodePast) :
    Asked (more ++ past) user nodeId permission answer := by
  obtain ⟨early, calls, late, rfl, hcalls⟩ := h
  exact ⟨more ++ early, calls, late, by simp, hcalls⟩

theorem PermissionCalls.asked {calls : NodePast}
    (h : PermissionCalls user nodeId permission calls answer) :
    Asked (past ++ calls) user nodeId permission answer :=
  ⟨past, calls, [], by simp, h⟩

variable {Act : NodePast → NodeAction → Prop}

/-- What a program may do after a check, it may do after each outcome of the check. -/
theorem all_userHasNodePermission {Post : NodePast → Option Bool → Prop}
    (lookup : ∀ past, Act past (.workspaceOfNode nodeId))
    (ask : ∀ past workspaceId, Act past (.workspacePermission user workspaceId permission))
    (post : ∀ calls answer, PermissionCalls user nodeId permission calls answer →
      Post (past ++ calls) answer) :
    (userHasNodePermission user nodeId permission).All Act past Post := by
  rw [userHasNodePermission, Program.all_ite]
  constructor
  · intro role
    have hpost := post [] (some true) (.admin role)
    rwa [List.append_nil] at hpost
  · intro role
    rw [Program.all_bind]
    refine ⟨lookup past, fun found => ?_⟩
    rw [Program.all_done]
    cases found with
    | none => exact post _ _ (.locked role)
    | some workspace =>
      cases workspace with
      | none => exact post _ _ (.unmapped role)
      | some workspaceId =>
        refine ⟨ask _ workspaceId, fun answer => ?_⟩
        rw [Program.all_done, List.append_assoc]
        exact post _ _ (.decided role workspaceId answer)

/-- The nodes that a list shows, out of those it has found. -/
structure Filtered (past : NodePast) (user : User) (nodes shown : List NodeView) : Prop where
  found : shown.Sublist nodes
  permitted : ∀ view ∈ shown, Asked past user view.nodeId .nodeView (some true)
  refused : ∀ view ∈ nodes, view ∉ shown →
    ∃ answer, answer ≠ some true ∧ Asked past user view.nodeId .nodeView answer

theorem all_viewable {Post : NodePast → List NodeView → Prop} (nodes : List NodeView)
    (lookup : ∀ past nodeId, Act past (.workspaceOfNode nodeId))
    (ask : ∀ past workspaceId, Act past (.workspacePermission user workspaceId .nodeView))
    (post : ∀ calls shown, Filtered calls user nodes shown → Post (past ++ calls) shown) :
    (viewable user nodes).All Act past Post := by
  induction nodes generalizing past Post with
  | nil =>
    have hpost := post [] [] ⟨List.Sublist.refl _, by simp, by simp⟩
    rwa [List.append_nil] at hpost
  | cons node nodes ih =>
    rw [viewable, Program.all_bind]
    apply all_userHasNodePermission (fun past => lookup past _) ask
    intro calls answer hcalls
    rw [Program.all_bind]
    apply ih
    intro later shown hshown
    rw [Program.all_pure, List.append_assoc]
    apply post
    have hnode : Asked (calls ++ later) user node.nodeId .nodeView answer := by
      have hasked : Asked ([] ++ calls) user node.nodeId .nodeView answer := hcalls.asked
      exact hasked.append later
    by_cases hallowed : answer.getD false = true
    · have hanswer : answer = some true := by
        cases answer with
        | none => cases hallowed
        | some allowed => exact congrArg some hallowed
      rw [if_pos hallowed]
      constructor
      · exact hshown.found.cons_cons node
      · intro view hview
        rcases List.mem_cons.mp hview with rfl | hview
        · rwa [hanswer] at hnode
        · exact (hshown.permitted view hview).prepend calls
      · intro view hview hhidden
        rw [List.mem_cons, not_or] at hhidden
        have hview : view ∈ nodes := (List.mem_cons.mp hview).resolve_left hhidden.1
        obtain ⟨found, hne, hasked⟩ := hshown.refused view hview hhidden.2
        exact ⟨found, hne, hasked.prepend calls⟩
    · have hanswer : answer ≠ some true := by
        rintro rfl
        exact hallowed rfl
      rw [if_neg hallowed]
      constructor
      · exact hshown.found.cons node
      · intro view hview
        exact (hshown.permitted view hview).prepend calls
      · intro view hview hhidden
        rcases List.mem_cons.mp hview with rfl | hview
        · exact ⟨answer, hanswer, hnode⟩
        · obtain ⟨found, hne, hasked⟩ := hshown.refused view hview hhidden
          exact ⟨found, hne, hasked.prepend calls⟩

end Checks

/-! The order of a task's calls. -/

/-- What a job has called before it changes something or answers. -/
def accessAct (origin : NodeJob) (past : NodePast) : NodeAction → Prop
  | .checkToken _ => past = []
  | .createToken user expiresInSecs =>
    past = [⟨.checkToken user.email, true⟩] ∧ user.role = .admin ∧
      ∃ request, origin = .createEnrollmentToken user request ∧
        expiresInSecs = request.expiresInSecs
  | .rotateCredential nodeId =>
    ∃ user, origin = .rotateNodeCredential user nodeId ∧
      Asked past user nodeId nodeCredentialRotate (some true)
  | .revokeNode nodeId =>
    ∃ user, origin = .revokeNode user nodeId ∧ Asked past user nodeId nodeRevoke (some true)
  | .respond (.token response) =>
    ∃ user request, origin = .createEnrollmentToken user request ∧
      ⟨.createToken user request.expiresInSecs, some response⟩ ∈ past
  | .respond (.nodes shown) =>
    ∃ user listed, origin = .listNodes user ∧ ⟨.listNodes, listed⟩ ∈ past ∧
      Filtered past user listed shown
  | .respond (.node view) =>
    (∃ user nodeId, origin = .nodeDetails user nodeId ∧
      ⟨.nodeDetails nodeId, some view⟩ ∈ past ∧ Asked past user nodeId .nodeView (some true)) ∨
    ∃ user nodeId, origin = .revokeNode user nodeId ∧ ⟨.revokeNode nodeId, .ok view⟩ ∈ past
  | .respond (.rotation rotation) =>
    ∃ user nodeId, origin = .rotateNodeCredential user nodeId ∧
      ⟨.rotateCredential nodeId, .ok rotation⟩ ∈ past
  | .respond (.enrolled response) =>
    ∃ request, origin = .agentEnroll request ∧ ⟨.enroll request, .ok response⟩ ∈ past
  | .respond (.heartbeat accepted view) =>
    ∃ request, origin = .agentHeartbeat request ∧ accepted = true ∧
      ⟨.heartbeat request, .ok view⟩ ∈ past
  | _ => True

def accessOrder : Discipline NodeAction NodeReply NodeJob :=
  ⟨accessAct, fun origin job past => job = origin ∧ past = [], fun _ _ => True⟩

section Bodies

variable (user : User) (nodeId : String)

theorem Filtered.prepend {past : NodePast} {user : User} {nodes shown : List NodeView}
    (h : Filtered past user nodes shown) (more : NodePast) :
    Filtered (more ++ past) user nodes shown where
  found := h.found
  permitted view hview := (h.permitted view hview).prepend more
  refused view hview hhidden := by
    obtain ⟨answer, hne, hasked⟩ := h.refused view hview hhidden
    exact ⟨answer, hne, hasked.prepend more⟩

private theorem access_createEnrollmentToken (request : EnrollmentTokenRequest) :
    (createEnrollmentToken user request).All (accessAct (.createEnrollmentToken user request)) []
      (fun _ _ => True) := by
  rw [createEnrollmentToken, Program.all_ite]
  refine ⟨fun _ => ⟨trivial, fun _ => trivial⟩, fun hallowed => ?_⟩
  have hadmin : user.role = .admin := by
    rw [userHasControlPlanePermission] at hallowed
    cases hrole : user.role with
    | admin => rfl
    | operator => simp [hrole, nodeRegister, terminalReattach, Sunbolt.Auth.Permission.terminalOpen]
        at hallowed
    | viewer => simp [hrole] at hallowed
  rw [Program.all_bind]
  refine ⟨rfl, fun checked => ?_⟩
  rw [Program.all_done, Program.all_ite]
  refine ⟨fun _ => ⟨trivial, fun _ => trivial⟩, fun hchecked => ?_⟩
  have hchecked : checked = true := by simpa using hchecked
  rw [Program.all_bind]
  refine ⟨⟨?_, hadmin, request, rfl, rfl⟩, fun created => ?_⟩
  · rw [hchecked]
    rfl
  · rw [Program.all_done]
    cases created with
    | none => trivial
    | some response =>
      refine ⟨⟨user, request, rfl, ?_⟩, fun _ => trivial⟩
      exact List.mem_append_right _ List.mem_cons_self

private theorem access_listNodes :
    (listNodes user).All (accessAct (.listNodes user)) [] (fun _ _ => True) := by
  rw [listNodes, Program.all_bind]
  refine ⟨trivial, fun listed => ?_⟩
  rw [Program.all_done, Program.all_bind]
  apply all_viewable listed (fun _ _ => trivial) (fun _ _ => trivial)
  intro calls shown hshown
  refine ⟨⟨user, listed, rfl, ?_, hshown.prepend _⟩, fun _ => trivial⟩
  exact List.mem_append_left _ (List.mem_append_right _ List.mem_cons_self)

private theorem access_nodeDetails :
    (nodeDetails user nodeId).All (accessAct (.nodeDetails user nodeId)) []
      (fun _ _ => True) := by
  rw [nodeDetails, Program.all_bind]
  refine ⟨trivial, fun found => ?_⟩
  rw [Program.all_done]
  cases found with
  | none => exact ⟨trivial, fun _ => trivial⟩
  | some view =>
    rw [Program.all_bind]
    apply all_userHasNodePermission (fun _ => trivial) (fun _ _ => trivial)
    intro calls answer hcalls
    cases answer with
    | none => exact ⟨trivial, fun _ => trivial⟩
    | some allowed =>
      cases allowed with
      | false => exact ⟨trivial, fun _ => trivial⟩
      | true =>
        refine ⟨Or.inl ⟨user, nodeId, rfl, ?_, hcalls.asked⟩, fun _ => trivial⟩
        exact List.mem_append_left _ (List.mem_append_right _ List.mem_cons_self)

private theorem access_rotateNodeCredential :
    (rotateNodeCredential user nodeId).All (accessAct (.rotateNodeCredential user nodeId)) []
      (fun _ _ => True) := by
  rw [rotateNodeCredential, Program.all_bind]
  apply all_userHasNodePermission (fun _ => trivial) (fun _ _ => trivial)
  intro calls answer hcalls
  cases answer with
  | none => exact ⟨trivial, fun _ => trivial⟩
  | some allowed =>
    cases allowed with
    | false => exact ⟨trivial, fun _ => trivial⟩
    | true =>
      dsimp only
      rw [Program.all_bind]
      refine ⟨⟨user, rfl, hcalls.asked⟩, fun result => ?_⟩
      rw [Program.all_done]
      cases result with
      | error error => cases error <;> exact ⟨trivial, fun _ => trivial⟩
      | ok rotation =>
        refine ⟨trivial, fun _ => ⟨⟨user, nodeId, rfl, ?_⟩, fun _ => trivial⟩⟩
        exact List.mem_append_left _ (List.mem_append_right _ List.mem_cons_self)

private theorem access_revokeNode :
    (revokeNode user nodeId).All (accessAct (.revokeNode user nodeId)) [] (fun _ _ => True) := by
  rw [revokeNode, Program.all_bind]
  apply all_userHasNodePermission (fun _ => trivial) (fun _ _ => trivial)
  intro calls answer hcalls
  cases answer with
  | none => exact ⟨trivial, fun _ => trivial⟩
  | some allowed =>
    cases allowed with
    | false => exact ⟨trivial, fun _ => trivial⟩
    | true =>
      dsimp only
      rw [Program.all_bind]
      refine ⟨⟨user, rfl, hcalls.asked⟩, fun result => ?_⟩
      rw [Program.all_done]
      cases result with
      | error error => cases error <;> exact ⟨trivial, fun _ => trivial⟩
      | ok view =>
        refine ⟨trivial, fun _ => ⟨Or.inr ⟨user, nodeId, rfl, ?_⟩, fun _ => trivial⟩⟩
        exact List.mem_append_left _ (List.mem_append_right _ List.mem_cons_self)

private theorem access_agentEnroll (request : AgentEnrollmentRequest) :
    (agentEnroll request).All (accessAct (.agentEnroll request)) [] (fun _ _ => True) := by
  rw [agentEnroll, Program.all_bind]
  refine ⟨trivial, fun result => ?_⟩
  rw [Program.all_done]
  cases result with
  | error error => cases error <;> exact ⟨trivial, fun _ => trivial⟩
  | ok response =>
    refine ⟨trivial, fun _ => ⟨⟨request, rfl, ?_⟩, fun _ => trivial⟩⟩
    exact List.mem_append_left _ (List.mem_append_right _ List.mem_cons_self)

private theorem access_agentHeartbeat (request : AgentHeartbeatRequest) :
    (agentHeartbeat request).All (accessAct (.agentHeartbeat request)) [] (fun _ _ => True) := by
  rw [agentHeartbeat, Program.all_bind]
  refine ⟨trivial, fun result => ?_⟩
  rw [Program.all_done]
  cases result with
  | error error =>
    cases error <;>
      exact ⟨trivial, fun _ => ⟨trivial, fun _ => ⟨trivial, fun _ => trivial⟩⟩⟩
  | ok view =>
    refine ⟨⟨request, rfl, rfl, ?_⟩, fun _ => trivial⟩
    exact List.mem_append_right _ List.mem_cons_self

private theorem access_agentTransport (transportId fingerprint proof version : String) :
    (agentTransport nodeId transportId fingerprint proof version).All
      (accessAct (.agentTransport nodeId transportId fingerprint proof version)) []
      (fun _ _ => True) := by
  rw [agentTransport, Program.all_bind]
  refine ⟨trivial, fun result => ?_⟩
  rw [Program.all_done]
  cases result with
  | error error => exact ⟨trivial, fun _ => ⟨trivial, fun _ => trivial⟩⟩
  | ok view => trivial

end Bodies

section Runs

variable {primitives : Primitives} {sha256 : ByteArray → List UInt8}

theorem accessOrder_sound : accessOrder.Sound (nodeService primitives sha256) id where
  entered _ := ⟨rfl, rfl⟩
  spawned hout stage hstage := by
    obtain ⟨out, -, rfl⟩ := Option.map_eq_some_iff.mp hout
    cases hstage
  body {origin job past} head := by
    obtain ⟨rfl, rfl⟩ := head
    change (job.program >>= fun _ => pure none).All (accessAct job) [] _
    rw [Program.all_bind]
    cases job with
    | createEnrollmentToken user request => exact access_createEnrollmentToken user request
    | listNodes user => exact access_listNodes user
    | nodeDetails user nodeId => exact access_nodeDetails user nodeId
    | rotateNodeCredential user nodeId => exact access_rotateNodeCredential user nodeId
    | revokeNode user nodeId => exact access_revokeNode user nodeId
    | agentEnroll request => exact access_agentEnroll request
    | agentHeartbeat request => exact access_agentHeartbeat request
    | agentTransport nodeId transportId fingerprint proof version =>
      exact access_agentTransport nodeId transportId fingerprint proof version
    | rbac change => exact ⟨trivial, fun _ => trivial⟩

end Runs

/-! What a check says about the state. -/

/-- The task looked the node's workspace up, in this workspace the user has the permission when the
    call is made, and so he has it for the node, unless the node was mapped anew in between. -/
def Entitled (front : List NodeEvent) (e : NodeEvent) (user : User) (nodeId : String)
    (permission : Sunbolt.Auth.Permission) : Prop :=
  user.role = .admin ∨
  ∃ early d late workspaceId, front = early ++ d :: late ∧ d.task = e.task ∧
    d.before.workspaceOf nodeId = some workspaceId ∧
    e.before.auth.userHasWorkspacePermission user workspaceId permission = true ∧
    ((∀ c ∈ d :: late, ∀ other, c.action ≠ .rbac (.mapNodeToWorkspace other nodeId)) →
      e.before.auth.userHasNodePermission user nodeId permission = true)

/-- At one of the calls that the task has made by then the user did not have the permission for
    the node, or a lock was found poisoned. -/
def Refused (front : List NodeEvent) (e : NodeEvent) (user : User) (nodeId : String)
    (permission : Sunbolt.Auth.Permission) : Prop :=
  ∃ d ∈ front, d.task = e.task ∧
    (d.before.auth.userHasNodePermission user nodeId permission = false ∨
      d.interaction = ⟨.workspaceOfNode nodeId, none⟩ ∨
      ∃ workspaceId, d.interaction = ⟨.workspacePermission user workspaceId permission, none⟩)

section States

variable {primitives : Primitives} {sha256 : ByteArray → List UInt8}
  {history front back : List NodeEvent} {pool : NodePool} {e : NodeEvent} {user : User}
  {nodeId : String} {permission : Sunbolt.Auth.Permission} {workspaceId : Nat}

theorem performNode_workspaceOfNode {state next : NodeState} {choice : NodeChoice}
    {found : Option Nat} (h : performNode primitives sha256 state (.workspaceOfNode nodeId) choice =
      some (some found, next)) : state.workspaceOf nodeId = found := by
  cases choice <;> cases h
  rfl

theorem performNode_workspacePermission {state next : NodeState} {choice : NodeChoice}
    {answer : Bool}
    (h : performNode primitives sha256 state (.workspacePermission user workspaceId permission)
      choice = some (some answer, next)) :
    state.auth.userHasWorkspacePermission user workspaceId permission = answer := by
  cases choice <;> cases h
  rfl

/-- A permission in a workspace is kept for as long as the run goes on. -/
theorem NodeReaches.workspacePermission (h : NodeReaches primitives sha256 history pool)
    (hsplit : history = front ++ e :: back)
    (held : e.before.auth.userHasWorkspacePermission user workspaceId permission = true) :
    pool.shared.auth.userHasWorkspacePermission user workspaceId permission = true := by
  apply Service.Reaches.preserved
    (P := fun state => state.auth.userHasWorkspacePermission user workspaceId permission = true)
    (Q := fun _ => True) _ h hsplit (fun _ _ => trivial) held
  intro i state action choice out hheld _ hout
  rcases (performNode_frame (nodeService_perform hout)).auth with hsame | ⟨change, -, hnext⟩
  · rwa [hsame]
  · rw [hnext]
    exact workspacePermission_kept change hheld

/-- A node stays in its workspace until it is mapped anew. -/
theorem NodeReaches.workspaceOf (h : NodeReaches primitives sha256 history pool)
    (hsplit : history = front ++ e :: back)
    (unmapped : ∀ c ∈ e :: back, ∀ other, c.action ≠ .rbac (.mapNodeToWorkspace other nodeId)) :
    pool.shared.workspaceOf nodeId = e.before.workspaceOf nodeId := by
  apply Service.Reaches.preserved
    (P := fun state => state.workspaceOf nodeId = e.before.workspaceOf nodeId)
    (Q := fun action => ∀ other, action ≠ .rbac (.mapNodeToWorkspace other nodeId)) _ h hsplit
    unmapped rfl
  intro i state action choice out hheld hcalm hout
  rcases (performNode_frame (nodeService_perform hout)).auth with hsame | ⟨change, haction, hnext⟩
  · rw [NodeState.workspaceOf, hsame]
    exact hheld
  · have hother : ∀ other, change ≠ .mapNodeToWorkspace other nodeId := by
      rintro other rfl
      exact hcalm other haction
    rw [NodeState.workspaceOf, hnext, workspaceNode_kept change hother]
    exact hheld

theorem hasNodePermission_of_admin (store : RbacStore) (role : user.role = .admin) :
    store.userHasNodePermission user nodeId permission = true := by
  rw [RbacStore.userHasNodePermission, if_pos role]

/-- In a given workspace the permission for the node is that in the workspace. -/
theorem hasNodePermission_of_workspace {state : NodeState}
    (found : state.workspaceOf nodeId = some workspaceId) :
    state.auth.userHasNodePermission user nodeId permission =
      state.auth.userHasWorkspacePermission user workspaceId permission := by
  rw [NodeState.workspaceOf] at found
  rw [RbacStore.userHasNodePermission, found]
  split_ifs with hadmin
  · rw [RbacStore.userHasWorkspacePermission, if_pos hadmin]
  · rfl

/-- Two calls of a task in a row stand somewhere in the run, one before the other. -/
theorem split_twice {task : Nat} {early late : NodePast}
    {first second : Interaction NodeAction NodeReply}
    (h : Service.own task front = early ++ [first, second] ++ late) :
    ∃ start d middle c rest, front = start ++ d :: middle ++ c :: rest ∧ d.task = task ∧
      c.task = task ∧ d.interaction = first ∧ c.interaction = second := by
  rw [List.append_assoc] at h
  obtain ⟨start, d, others, rfl, hdtask, hdcall, -, hown⟩ := Service.split_of_own h
  have hown : Service.own task others = [] ++ second :: late := hown
  obtain ⟨middle, c, rest, rfl, hctask, hccall, -⟩ := Service.split_of_own hown
  exact ⟨start, d, middle, c, rest, by simp, hdtask, hctask, hdcall, hccall⟩

/-- A check that was passed still counts when its task goes on. -/
theorem NodeReaches.entitled (h : NodeReaches primitives sha256 history pool)
    (hsplit : history = front ++ e :: back)
    (asked : Asked (Service.own e.task front) user nodeId permission (some true)) :
    Entitled front e user nodeId permission := by
  obtain ⟨early, calls, late, hown, hcalls⟩ := asked
  cases hcalls with
  | admin role => exact Or.inl role
  | decided role workspaceId =>
    obtain ⟨start, d, middle, c, rest, hfront, hdtask, -, hdcall, hccall⟩ := split_twice hown
    refine Or.inr ⟨start, d, middle ++ c :: rest, workspaceId, by simpa using hfront, hdtask, ?_⟩
    obtain ⟨before, -, hreached, hbefore, -⟩ := h.performed hsplit
    have hlookup : d.before.workspaceOf nodeId = some workspaceId := by
      obtain ⟨-, choice, -, -, hout⟩ := hreached.performed
        (show front = start ++ d :: (middle ++ c :: rest) by simpa using hfront)
      obtain ⟨task, origin, action, reply, found, left, spawned⟩ := d
      cases hdcall
      exact performNode_workspaceOfNode hout
    have hheld : e.before.auth.userHasWorkspacePermission user workspaceId permission = true := by
      obtain ⟨-, choice, -, -, hout⟩ := hreached.performed hfront
      have hthen : c.before.auth.userHasWorkspacePermission user workspaceId permission = true := by
        obtain ⟨task, origin, action, reply, found, left, spawned⟩ := c
        cases hccall
        exact performNode_workspacePermission hout
      rw [← hbefore]
      exact hreached.workspacePermission hfront hthen
    refine ⟨hlookup, hheld, fun unmapped => ?_⟩
    have hnow : e.before.workspaceOf nodeId = some workspaceId := by
      rw [← hbefore, ← hlookup]
      exact hreached.workspaceOf (by simpa using hfront) unmapped
    rwa [hasNodePermission_of_workspace hnow]

/-- A check that was not passed was made when the user did not have the permission. -/
theorem NodeReaches.refused (h : NodeReaches primitives sha256 history pool)
    (hsplit : history = front ++ e :: back) {answer : Option Bool} (negative : answer ≠ some true)
    (asked : Asked (Service.own e.task front) user nodeId permission answer) :
    Refused front e user nodeId permission := by
  obtain ⟨early, calls, late, hown, hcalls⟩ := asked
  obtain ⟨before, -, hreached, -, -⟩ := h.performed hsplit
  cases hcalls with
  | admin role => exact absurd rfl negative
  | locked role =>
    rw [List.append_assoc] at hown
    obtain ⟨start, d, others, rfl, htask, hcall, -⟩ := Service.split_of_own hown
    exact ⟨d, by simp, htask, Or.inr (Or.inl hcall)⟩
  | unmapped role =>
    rw [List.append_assoc] at hown
    obtain ⟨start, d, others, hfront, htask, hcall, -⟩ := Service.split_of_own hown
    refine ⟨d, by simp [hfront], htask, Or.inl ?_⟩
    obtain ⟨-, choice, -, -, hout⟩ := hreached.performed hfront
    have hnone : d.before.workspaceOf nodeId = none := by
      obtain ⟨task, origin, action, reply, found, left, spawned⟩ := d
      cases hcall
      exact performNode_workspaceOfNode hout
    rw [NodeState.workspaceOf] at hnone
    rw [RbacStore.userHasNodePermission, if_neg role, hnone]
  | decided role workspaceId =>
    obtain ⟨start, d, middle, c, rest, hfront, hdtask, hctask, hdcall, hccall⟩ :=
      split_twice hown
    cases answer with
    | none =>
      exact ⟨c, by simp [hfront], hctask, Or.inr (Or.inr ⟨workspaceId, hccall⟩)⟩
    | some allowed =>
      obtain rfl : allowed = false := by
        cases allowed with
        | false => rfl
        | true => exact absurd rfl negative
      refine ⟨d, by simp [hfront], hdtask, Or.inl ?_⟩
      -- had he been permitted when the workspace was looked up, he would have been later
      by_contra hpermitted
      obtain ⟨asking, choice, hasking, hshared, hout⟩ := hreached.performed hfront
      have hlookup : d.before.workspaceOf nodeId = some workspaceId := by
        obtain ⟨-, choice', -, -, hfound⟩ := hreached.performed
          (show front = start ++ d :: (middle ++ c :: rest) by simpa using hfront)
        obtain ⟨task, origin, action, reply, found, left, spawned⟩ := d
        cases hdcall
        exact performNode_workspaceOfNode hfound
      rw [Bool.not_eq_false, hasNodePermission_of_workspace hlookup] at hpermitted
      have hlater := hasking.workspacePermission
        (show start ++ d :: middle = start ++ d :: middle from rfl) hpermitted
      rw [hshared] at hlater
      have hthen :
          c.before.auth.userHasWorkspacePermission user workspaceId permission = false := by
        obtain ⟨task, origin, action, reply, found, left, spawned⟩ := c
        cases hccall
        exact performNode_workspacePermission hout
      rw [hlater] at hthen
      cases hthen

end States

/-- What a run does about nodes is done for users who may, and what they are shown is theirs. -/
structure RequestsAuthorized (history : List NodeEvent) : Prop where
  created : ∀ front e back user expiresInSecs, history = front ++ e :: back →
    e.action = .createToken user expiresInSecs → user.role = .admin ∧
      (∃ request, e.origin = .createEnrollmentToken user request) ∧
      ∃ d ∈ front, d.task = e.task ∧ d.interaction = ⟨.checkToken user.email, true⟩
  rotated : ∀ front e back nodeId, history = front ++ e :: back →
    e.action = .rotateCredential nodeId → ∃ user, e.origin = .rotateNodeCredential user nodeId ∧
      Entitled front e user nodeId nodeCredentialRotate
  revoked : ∀ front e back nodeId, history = front ++ e :: back →
    e.action = .revokeNode nodeId → ∃ user, e.origin = .revokeNode user nodeId ∧
      Entitled front e user nodeId nodeRevoke
  detailed : ∀ front e back user nodeId view, history = front ++ e :: back →
    e.origin = .nodeDetails user nodeId → e.action = .respond (.node view) →
    Entitled front e user nodeId .nodeView
  listed : ∀ front e back shown, history = front ++ e :: back →
    e.action = .respond (.nodes shown) → ∃ user listed, e.origin = .listNodes user ∧
      (∃ d ∈ front, d.task = e.task ∧ d.interaction = ⟨.listNodes, listed⟩) ∧
      shown.Sublist listed ∧ (∀ view ∈ shown, Entitled front e user view.nodeId .nodeView) ∧
      ∀ view ∈ listed, view ∉ shown → Refused front e user view.nodeId .nodeView

/-- In every interleaving of the requests with changes of who may do what: a token is created for
    an administrator whose request was let through; a credential is rotated and a node revoked, or
    shown, only if the user has the permission at that moment in the workspace that the node was
    in when the request looked; and a list leaves out no node that the user could view all along. -/
theorem requests_authorized {primitives : Primitives} {sha256 : ByteArray → List UInt8}
    {history : List NodeEvent} {pool : NodePool}
    (reached : NodeReaches primitives sha256 history pool) : RequestsAuthorized history := by
  have hact : ∀ {front back e}, history = front ++ e :: back →
      accessAct e.origin (Service.own e.task front) e.action :=
    fun hsplit => Service.Reaches.act accessOrder_sound reached hsplit
  constructor
  · intro front e back user expiresInSecs hsplit haction
    have hcall := hact hsplit
    rw [haction] at hcall
    obtain ⟨hpast, hadmin, request, horigin, -⟩ := hcall
    have hchecked : ⟨.checkToken user.email, true⟩ ∈ Service.own e.task front := by
      rw [hpast]
      exact List.mem_cons_self
    exact ⟨hadmin, ⟨request, horigin⟩, Service.mem_own.mp hchecked⟩
  · intro front e back nodeId hsplit haction
    have hcall := hact hsplit
    rw [haction] at hcall
    obtain ⟨user, horigin, hasked⟩ := hcall
    exact ⟨user, horigin, reached.entitled hsplit hasked⟩
  · intro front e back nodeId hsplit haction
    have hcall := hact hsplit
    rw [haction] at hcall
    obtain ⟨user, horigin, hasked⟩ := hcall
    exact ⟨user, horigin, reached.entitled hsplit hasked⟩
  · intro front e back user nodeId view hsplit horigin haction
    have hcall := hact hsplit
    rw [haction, horigin] at hcall
    rcases hcall with ⟨user, nodeId, heq, -, hasked⟩ | ⟨user, nodeId, heq, -⟩
    · cases heq
      exact reached.entitled hsplit hasked
    · cases heq
  · intro front e back shown hsplit haction
    have hcall := hact hsplit
    rw [haction] at hcall
    obtain ⟨user, listed, horigin, hlisted, hfiltered⟩ := hcall
    refine ⟨user, listed, horigin, Service.mem_own.mp hlisted, hfiltered.found, ?_, ?_⟩
    · intro view hview
      exact reached.entitled hsplit (hfiltered.permitted view hview)
    · intro view hview hhidden
      obtain ⟨answer, hnegative, hasked⟩ := hfiltered.refused view hview hhidden
      exact reached.refused hsplit hnegative hasked

/-- The nodes that a response shows. -/
private def shownNodes (e : NodeEvent) : Option (List String) :=
  match e.action with
  | .respond (.nodes nodes) => some (nodes.map (·.nodeId))
  | _ => none

/-- A node is mapped to the workspace of one of two viewers, who both list the nodes. -/
private def sampleListing : List (Label NodeJob NodeChoice) :=
  sampleEnrollment ++
    [.arrive (.rbac (.upsertUser "a" "p" .viewer)), .arrive (.rbac (.createWorkspace "w")),
      .arrive (.rbac (.createRole "r")), .arrive (.rbac (.grantRolePermission 1 .nodeView)),
      .arrive (.rbac (.addWorkspaceMember 1 1 1)), .arrive (.rbac (.mapNodeToWorkspace 1 "node-1")),
      .arrive (.listNodes ⟨1, "a", .viewer⟩), .arrive (.listNodes ⟨2, "b", .viewer⟩),
      .move 2 .none, .move 3 .none, .move 4 .none, .move 5 .none, .move 6 .none,
      .move 8 (.clock sampleInstant), .move 9 (.clock sampleInstant), .move 7 .none,
      .move 8 .none, .move 9 .none, .move 8 .none, .move 9 .none, .move 8 .none, .move 9 .none]

theorem requests_authorized_listing :
    (nodeCalls sampleDigests sampleDigest sampleListing).filterMap shownNodes =
      [["node-1"], []] ∧
    RequestsAuthorized (nodeCalls sampleDigests sampleDigest sampleListing) := by
  obtain ⟨pool, reached⟩ :=
    @reaches_nodeCalls sampleDigests sampleDigest sampleListing (by decide +kernel)
  exact ⟨by decide +kernel, requests_authorized reached⟩

end Sunbolt.Control.NodeRoutes
