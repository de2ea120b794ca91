/- Module: Sunbolt/Auth/Rbac
   scope: sunbolt-auth/src/rbac.rs, sunbolt-auth/src/lib.rs
   digest: Workspaces, roles, members and mapped nodes, and whom they let do what. -/

import Sunbolt.Auth.AuthStore
import Sunbolt.Library.Serving

set_option autoImplicit false
set_option relaxedAutoImplicit false

namespace Sunbolt.Auth

open Sunbolt.Library

structure Workspace where
  id : Nat
  name : String
  deriving DecidableEq, Repr

structure Role where
  id : Nat
  name : String
  deriving DecidableEq, Repr

structure WorkspaceMember where
  workspaceId : Nat
  userId : Nat
  roleId : Nat
  deriving DecidableEq, Repr

structure RolePermission where
  roleId : Nat
  permission : String
  deriving DecidableEq, Repr

structure WorkspaceNode where
  workspaceId : Nat
  nodeId : String
  deriving DecidableEq, Repr

/-- A permission is its identifier. -/
@[ext] structure Permission where
  asStr : String
  deriving DecidableEq, Repr

def Permission.terminalOpen : Permission := ⟨"terminal.open"⟩
def Permission.nodeView : Permission := ⟨"node.view"⟩

/-- The errors of the RBAC functions that are not about a poisoned lock. -/
inductive RbacError where
  | invalidRbacRecord
  | rbacRecordNotFound
  deriving DecidableEq, Repr

def workspace (id : Nat) (name : String) : Workspace := ⟨id, String.ofList (trim name.toList)⟩

def role (id : Nat) (name : String) : Role := ⟨id, String.ofList (trim name.toList)⟩

def workspaceMember (workspaceId userId roleId : Nat) : WorkspaceMember :=
  ⟨workspaceId, userId, roleId⟩

def rolePermission (roleId : Nat) (permission : String) : RolePermission := ⟨roleId, permission⟩

def workspaceNode (workspaceId : Nat) (nodeId : String) : WorkspaceNode := ⟨workspaceId, nodeId⟩

/-- The store with the collections of RBAC and the counters of their ids. -/
structure RbacStore extends AuthStore where
  rolePermissionsByRoleId : Table Nat (List RolePermission)
  rolesById : Table Nat Role
  workspaceMembersByWorkspaceId : Table Nat (List WorkspaceMember)
  workspaceNodesByNodeId : Table String WorkspaceNode
  workspacesById : Table Nat Workspace
  nextRoleId : Nat
  nextWorkspaceId : Nat

namespace RbacStore

def default : RbacStore := ⟨AuthStore.default, ∅, ∅, ∅, ∅, ∅, 1, 1⟩

variable (store : RbacStore)

def createWorkspace (name : String) : RbacStore × Except RbacError Workspace :=
  if trim name.toList = [] then (store, .error .invalidRbacRecord)
  else
    let created := workspace store.nextWorkspaceId name
    ({ store with
        workspacesById := AList.insert created.id created store.workspacesById
        nextWorkspaceId := store.nextWorkspaceId + 1 }, .ok created)

def createRole (name : String) : RbacStore × Except RbacError Role :=
  if trim name.toList = [] then (store, .error .invalidRbacRecord)
  else
    let created := role store.nextRoleId name
    ({ store with
        rolesById := AList.insert created.id created store.rolesById
        nextRoleId := store.nextRoleId + 1 }, .ok created)

def grantRolePermission (roleId : Nat) (permission : Permission) :
    RbacStore × Except RbacError RolePermission :=
  if (store.rolesById.lookup roleId).isNone then (store, .error .rbacRecordNotFound)
  else
    let granted := rolePermission roleId permission.asStr
    ({ store with
        rolePermissionsByRoleId := Table.push store.rolePermissionsByRoleId roleId granted },
      .ok granted)

def addWorkspaceMember (workspaceId userId roleId : Nat) :
    RbacStore × Except RbacError WorkspaceMember :=
  if (store.workspacesById.lookup workspaceId).isNone ||
      (store.usersById.lookup userId).isNone || (store.rolesById.lookup roleId).isNone then
    (store, .error .rbacRecordNotFound)
  else
    let member := workspaceMember workspaceId userId roleId
    ({ store with
        workspaceMembersByWorkspaceId :=
          Table.push store.workspaceMembersByWorkspaceId workspaceId member },
      .ok member)

def mapNodeToWorkspace (workspaceId : Nat) (nodeId : String) :
    RbacStore × Except RbacError WorkspaceNode :=
  if trim nodeId.toList = [] then (store, .error .invalidRbacRecord)
  else if (store.workspacesById.lookup workspaceId).isNone then
    (store, .error .rbacRecordNotFound)
  else
    let node := workspaceNode workspaceId nodeId
    ({ store with
        workspaceNodesByNodeId := AList.insert node.nodeId node store.workspaceNodesByNodeId },
      .ok node)

/-- `upsert_user`, which leaves the collections of RBAC as they are. -/
def upsertUser (primitives : Primitives) (email password : String) (role : UserRole) :
    RbacStore × Except AuthError User :=
  let (users, result) := store.toAuthStore.upsertUser primitives email password role
  ({ store with toAuthStore := users }, result)

def membersOf (workspaceId : Nat) : List WorkspaceMember :=
  (store.workspaceMembersByWorkspaceId.lookup workspaceId).getD []

def permissionsOf (roleId : Nat) : List RolePermission :=
  (store.rolePermissionsByRoleId.lookup roleId).getD []

def userHasWorkspacePermission (user : User) (workspaceId : Nat) (permission : Permission) :
    Bool :=
  if user.role = .admin then true
  else
    ((store.membersOf workspaceId).filter (fun member => member.userId = user.id)).any
      (fun member => (store.permissionsOf member.roleId).any
        (fun granted => granted.permission = permission.asStr))

def userHasNodePermission (user : User) (nodeId : String) (permission : Permission) : Bool :=
  if user.role = .admin then true
  else
    match (store.workspaceNodesByNodeId.lookup nodeId).map (·.workspaceId) with
    | none => false
    | some workspaceId => store.userHasWorkspacePermission user workspaceId permission

end RbacStore

/-! Runs of the calls that build the collections. -/

inductive RbacCall where
  | createWorkspace (name : String)
  | createRole (name : String)
  | grantRolePermission (roleId : Nat) (permission : Permission)
  | addWorkspaceMember (workspaceId userId roleId : Nat)
  | mapNodeToWorkspace (workspaceId : Nat) (nodeId : String)
  | upsertUser (email password : String) (role : UserRole)
  deriving DecidableEq

inductive RbacReply where
  | workspace (result : Except RbacError Workspace)
  | role (result : Except RbacError Role)
  | permission (result : Except RbacError RolePermission)
  | member (result : Except RbacError WorkspaceMember)
  | node (result : Except RbacError WorkspaceNode)
  | user (result : Except AuthError User)

def RbacReply.succeeded : RbacReply → Bool
  | .workspace result => result.isOk
  | .role result => result.isOk
  | .permission result => result.isOk
  | .member result => result.isOk
  | .node result => result.isOk
  | .user result => result.isOk

def RbacStore.serve (primitives : Primitives) (store : RbacStore) :
    RbacCall → RbacStore × RbacReply
  | .createWorkspace name =>
    ((store.createWorkspace name).1, .workspace (store.createWorkspace name).2)
  | .createRole name => ((store.createRole name).1, .role (store.createRole name).2)
  | .grantRolePermission roleId permission =>
    ((store.grantRolePermission roleId permission).1,
      .permission (store.grantRolePermission roleId permission).2)
  | .addWorkspaceMember workspaceId userId roleId =>
    ((store.addWorkspaceMember workspaceId userId roleId).1,
      .member (store.addWorkspaceMember workspaceId userId roleId).2)
  | .mapNodeToWorkspace workspaceId nodeId =>
    ((store.mapNodeToWorkspace workspaceId nodeId).1,
      .node (store.mapNodeToWorkspace workspaceId nodeId).2)
  | .upsertUser email password role =>
    ((store.upsertUser primitives email password role).1,
      .user (store.upsertUser primitives email password role).2)

abbrev RbacEvent := Served RbacStore RbacCall RbacReply

/-- One of the calls was this one, and succeeded. -/
def Succeeded (history : List RbacEvent) (call : RbacCall) : Prop :=
  ∃ e ∈ history, e.call = call ∧ e.reply.succeeded = true

/-- The workspace that a call maps the node to. -/
def mapping (nodeId : String) (e : RbacEvent) : Option Nat :=
  match e.call with
  | .mapNodeToWorkspace workspaceId mapped =>
    if mapped = nodeId ∧ e.reply.succeeded = true then some workspaceId else none
  | _ => none

/-- The workspace of the most recent successful mapping of the node. -/
def lastMapping (nodeId : String) (history : List RbacEvent) : Option Nat :=
  (history.filterMap (mapping nodeId)).getLast?

/-- What the decisions are after these calls, and that no failing call has changed one. -/
structure DecidesByHistory (history : List RbacEvent) (store : RbacStore) : Prop where
  decides : ∀ (user : User) (nodeId : String) (permission : Permission), user.role ≠ .admin →
    (store.userHasNodePermission user nodeId permission = true ↔ ∃ workspaceId roleId,
      lastMapping nodeId history = some workspaceId ∧
      Succeeded history (.addWorkspaceMember workspaceId user.id roleId) ∧
      Succeeded history (.grantRolePermission roleId permission))
  failures : ∀ e ∈ history, e.reply.succeeded = false →
    ∀ (user : User) (nodeId : String) (permission : Permission),
      e.after.userHasNodePermission user nodeId permission =
        e.before.userHasNodePermission user nodeId permission

/-- The collections hold what the successful calls have put there. -/
structure Collected (history : List RbacEvent) (store : RbacStore) : Prop where
  node : ∀ nodeId, (store.workspaceNodesByNodeId.lookup nodeId).map (·.workspaceId) =
    lastMapping nodeId history
  member : ∀ workspaceId userId roleId,
    (∃ member ∈ store.membersOf workspaceId, member.userId = userId ∧ member.roleId = roleId) ↔
      Succeeded history (.addWorkspaceMember workspaceId userId roleId)
  permission : ∀ roleId (permission : Permission),
    (∃ granted ∈ store.permissionsOf roleId, granted.permission = permission.asStr) ↔
      Succeeded history (.grantRolePermission roleId permission)

section Histories

variable {history : List RbacEvent} {e : RbacEvent}

theorem succeeded_append_one {call : RbacCall} :
    Succeeded (history ++ [e]) call ↔
      Succeeded history call ∨ e.call = call ∧ e.reply.succeeded = true := by
  simp [Succeeded, or_and_right, exists_or]

theorem lastMapping_append_one (nodeId : String) :
    lastMapping nodeId (history ++ [e]) = (mapping nodeId e).or (lastMapping nodeId history) := by
  rw [lastMapping, List.filterMap_append]
  cases hmapping : mapping nodeId e with
  | none => simp [hmapping, lastMapping]
  | some workspaceId => simp [hmapping]

end Histories

section Collecting

variable (store : RbacStore) (workspaceId userId roleId : Nat) (nodeId : String)
  (permission : Permission)

theorem grantRolePermission_cases :
    (∃ error, store.grantRolePermission roleId permission = (store, .error error)) ∨
    store.grantRolePermission roleId permission =
      ({ store with
          rolePermissionsByRoleId := Table.push store.rolePermissionsByRoleId roleId
            (rolePermission roleId permission.asStr) },
        .ok (rolePermission roleId permission.asStr)) := by
  rw [RbacStore.grantRolePermission]
  split_ifs
  · exact Or.inl ⟨_, rfl⟩
  · exact Or.inr rfl

theorem addWorkspaceMember_cases :
    (∃ error, store.addWorkspaceMember workspaceId userId roleId = (store, .error error)) ∨
    store.addWorkspaceMember workspaceId userId roleId =
      ({ store with
          workspaceMembersByWorkspaceId := Table.push store.workspaceMembersByWorkspaceId
            workspaceId (workspaceMember workspaceId userId roleId) },
        .ok (workspaceMember workspaceId userId roleId)) := by
  rw [RbacStore.addWorkspaceMember]
  split_ifs
  · exact Or.inl ⟨_, rfl⟩
  · exact Or.inr rfl

theorem mapNodeToWorkspace_cases :
    (∃ error, store.mapNodeToWorkspace workspaceId nodeId = (store, .error error)) ∨
    store.mapNodeToWorkspace workspaceId nodeId =
      ({ store with
          workspaceNodesByNodeId := AList.insert nodeId (workspaceNode workspaceId nodeId)
            store.workspaceNodesByNodeId },
        .ok (workspaceNode workspaceId nodeId)) := by
  rw [RbacStore.mapNodeToWorkspace]
  split_ifs
  · exact Or.inl ⟨_, rfl⟩
  · exact Or.inl ⟨_, rfl⟩
  · exact Or.inr rfl

end Collecting

section Steps

variable {primitives : Primitives} {history : List RbacEvent} {store : RbacStore}

/-- A call that fails leaves the whole store as it is. -/
theorem serve_of_failed {call : RbacCall}
    (failed : (store.serve primitives call).2.succeeded = false) :
    (store.serve primitives call).1 = store := by
  cases call with
  | createWorkspace name =>
    simp only [RbacStore.serve, RbacStore.createWorkspace] at failed ⊢
    split_ifs at failed ⊢
    · rfl
    · cases failed
  | createRole name =>
    simp only [RbacStore.serve, RbacStore.createRole] at failed ⊢
    split_ifs at failed ⊢
    · rfl
    · cases failed
  | grantRolePermission roleId permission =>
    rw [RbacStore.serve] at failed ⊢
    rcases grantRolePermission_cases store roleId permission with ⟨error, heq⟩ | heq
    · rw [heq]
    · rw [heq] at failed
      cases failed
  | addWorkspaceMember workspaceId userId roleId =>
    rw [RbacStore.serve] at failed ⊢
    rcases addWorkspaceMember_cases store workspaceId userId roleId with ⟨error, heq⟩ | heq
    · rw [heq]
    · rw [heq] at failed
      cases failed
  | mapNodeToWorkspace workspaceId nodeId =>
    rw [RbacStore.serve] at failed ⊢
    rcases mapNodeToWorkspace_cases store workspaceId nodeId with ⟨error, heq⟩ | heq
    · rw [heq]
    · rw [heq] at failed
      cases failed
  | upsertUser email password role =>
    simp only [RbacStore.serve, RbacStore.upsertUser] at failed ⊢
    rcases store.toAuthStore.upsertUser_cases primitives email password role with
      ⟨error, heq⟩ | ⟨userId, stored, -, -, heq⟩ | ⟨-, heq⟩
    · rw [heq]
    · rw [heq] at failed
      cases failed
    · rw [heq] at failed
      cases failed

/-- The three kinds of calls that put something into the collections. -/
def RbacCall.collects : RbacCall → Bool
  | .grantRolePermission .. | .addWorkspaceMember .. | .mapNodeToWorkspace .. => true
  | _ => false

theorem Collected.plain {e : RbacEvent} (h : Collected history store)
    (plain : e.call.collects = false ∨ e.reply.succeeded = false) {next : RbacStore}
    (nodes : next.workspaceNodesByNodeId = store.workspaceNodesByNodeId)
    (members : next.workspaceMembersByWorkspaceId = store.workspaceMembersByWorkspaceId)
    (permissions : next.rolePermissionsByRoleId = store.rolePermissionsByRoleId) :
    Collected (history ++ [e]) next := by
  have hcall : ∀ call, RbacCall.collects call = true →
      (Succeeded (history ++ [e]) call ↔ Succeeded history call) := by
    intro call hcollects
    rw [succeeded_append_one, or_iff_left]
    rintro ⟨rfl, hsucceeded⟩
    rcases plain with h | h
    · rw [hcollects] at h
      cases h
    · rw [hsucceeded] at h
      cases h
  have hmapping : ∀ nodeId, mapping nodeId e = none := by
    intro nodeId
    unfold mapping
    split
    · rename_i heq
      rw [heq] at plain
      rcases plain with h | h
      · cases h
      · rw [if_neg (by simp [h])]
    · rfl
  refine ⟨fun nodeId => ?_, fun workspaceId userId roleId => ?_, fun roleId permission => ?_⟩
  · rw [nodes, lastMapping_append_one, hmapping, h.node]
    rfl
  · rw [hcall _ rfl, ← h.member, RbacStore.membersOf, members]
    rfl
  · rw [hcall _ rfl, ← h.permission, RbacStore.permissionsOf, permissions]
    rfl

theorem Collected.failed {e : RbacEvent} (h : Collected history store)
    (failed : e.reply.succeeded = false) : Collected (history ++ [e]) store :=
  h.plain (Or.inr failed) rfl rfl rfl

/-- What one call does to the collections. -/
theorem Collected.step (h : Collected history store) (call : RbacCall) :
    Collected (history ++ [served (RbacStore.serve primitives) store call])
      (store.serve primitives call).1 := by
  cases call with
  | createWorkspace name =>
    refine h.plain (Or.inl rfl) ?_ ?_ ?_ <;>
      simp only [RbacStore.serve, RbacStore.createWorkspace] <;> split_ifs <;> rfl
  | createRole name =>
    refine h.plain (Or.inl rfl) ?_ ?_ ?_ <;>
      simp only [RbacStore.serve, RbacStore.createRole] <;> split_ifs <;> rfl
  | upsertUser email password role => exact h.plain (Or.inl rfl) rfl rfl rfl
  | grantRolePermission roleId permission =>
    rw [served, RbacStore.serve]
    rcases grantRolePermission_cases store roleId permission with ⟨error, heq⟩ | heq
    · rw [heq]
      exact h.failed rfl
    · rw [heq]
      refine ⟨fun nodeId => ?_, fun workspaceId userId named => ?_, fun named other => ?_⟩
      · rw [lastMapping_append_one]
        exact h.node nodeId
      · rw [succeeded_append_one, ← h.member]
        simp [RbacStore.membersOf]
      · rw [succeeded_append_one, ← h.permission, RbacStore.permissionsOf, Table.lookup_push]
        by_cases hsame : named = roleId
        · subst hsame
          simp [RbacStore.permissionsOf, rolePermission, or_and_right, exists_or,
            RbacReply.succeeded, Except.isOk, Except.toBool, Permission.ext_iff]
        · simp [RbacStore.permissionsOf, hsame, Ne.symm hsame]
  | addWorkspaceMember workspaceId userId roleId =>
    rw [served, RbacStore.serve]
    rcases addWorkspaceMember_cases store workspaceId userId roleId with ⟨error, heq⟩ | heq
    · rw [heq]
      exact h.failed rfl
    · rw [heq]
      refine ⟨fun nodeId => ?_, fun named user role => ?_, fun named permission => ?_⟩
      · rw [lastMapping_append_one]
        exact h.node nodeId
      · rw [succeeded_append_one, ← h.member, RbacStore.membersOf, Table.lookup_push]
        by_cases hsame : named = workspaceId
        · subst hsame
          simp [RbacStore.membersOf, workspaceMember, or_and_right, exists_or,
            RbacReply.succeeded, Except.isOk, Except.toBool]
        · simp [RbacStore.membersOf, hsame, Ne.symm hsame]
      · rw [succeeded_append_one, ← h.permission]
        simp [RbacStore.permissionsOf]
  | mapNodeToWorkspace workspaceId nodeId =>
    rw [served, RbacStore.serve]
    rcases mapNodeToWorkspace_cases store workspaceId nodeId with ⟨error, heq⟩ | heq
    · rw [heq]
      exact h.failed rfl
    · rw [heq]
      refine ⟨fun named => ?_, fun named user role => ?_, fun named permission => ?_⟩
      · rw [lastMapping_append_one, ← h.node, Table.lookup_insert]
        by_cases hsame : named = nodeId
        · simp [mapping, hsame, RbacReply.succeeded, Except.isOk, Except.toBool, workspaceNode]
        · simp [mapping, hsame, Ne.symm hsame]
      · rw [succeeded_append_one, ← h.member]
        simp [RbacStore.membersOf]
      · rw [succeeded_append_one, ← h.permission]
        simp [RbacStore.permissionsOf]

theorem collected (h : Serves (RbacStore.serve primitives) .default history store) :
    Collected history store := by
  induction h with
  | start =>
    refine ⟨fun _ => rfl, fun workspaceId userId roleId => ?_, fun roleId permission => ?_⟩
    · simp [Succeeded, RbacStore.membersOf, RbacStore.default]
    · simp [Succeeded, RbacStore.permissionsOf, RbacStore.default]
  | next earlier call ih => exact ih.step call

/-- What the collections hold decides for everyone who is not an administrator. -/
theorem Collected.decides (h : Collected history store) {user : User}
    (plain : user.role ≠ .admin) (nodeId : String) (permission : Permission) :
    store.userHasNodePermission user nodeId permission = true ↔ ∃ workspaceId roleId,
      lastMapping nodeId history = some workspaceId ∧
      Succeeded history (.addWorkspaceMember workspaceId user.id roleId) ∧
      Succeeded history (.grantRolePermission roleId permission) := by
  have hworkspace : ∀ workspaceId,
      store.userHasWorkspacePermission user workspaceId permission = true ↔ ∃ roleId,
        Succeeded history (.addWorkspaceMember workspaceId user.id roleId) ∧
        Succeeded history (.grantRolePermission roleId permission) := by
    intro workspaceId
    simp only [RbacStore.userHasWorkspacePermission, if_neg plain, List.any_eq_true,
      List.mem_filter, decide_eq_true_eq, h.permission, ← h.member]
    constructor
    · rintro ⟨member, ⟨hmember, huser⟩, hgranted⟩
      exact ⟨member.roleId, ⟨member, hmember, huser, rfl⟩, hgranted⟩
    · rintro ⟨roleId, ⟨member, hmember, huser, rfl⟩, hgranted⟩
      exact ⟨member, ⟨hmember, huser⟩, hgranted⟩
  rw [RbacStore.userHasNodePermission, if_neg plain, h.node]
  cases lastMapping nodeId history with
  | none => simp
  | some workspaceId => simp [hworkspace]

end Steps

/-- The permission on a node is decided by its last mapping, the memberships and the grants. -/
theorem decides_by_history {primitives : Primitives} {history : List RbacEvent}
    {store : RbacStore} (h : Serves (RbacStore.serve primitives) .default history store) :
    DecidesByHistory history store where
  decides user nodeId permission plain := (collected h).decides plain nodeId permission
  failures e he failed user nodeId permission := by
    have heq := h.of_mem he
    rw [heq] at failed ⊢
    exact congrArg (·.userHasNodePermission user nodeId permission) (serve_of_failed failed)

/-- The grant comes after the membership and the second mapping, and the last call fails. -/
private def sampleCalls : List RbacCall :=
  [.upsertUser "a" "p" .viewer, .createWorkspace "w", .createWorkspace "v", .createRole "r",
    .mapNodeToWorkspace 1 "n", .addWorkspaceMember 2 1 1, .mapNodeToWorkspace 2 "n",
    .grantRolePermission 1 .nodeView, .mapNodeToWorkspace 7 "n"]

private def samplePrimitives : Primitives := ⟨id, fun c => [c]⟩

theorem decides_by_history_sample :
    (endOf (RbacStore.serve samplePrimitives) .default sampleCalls).userHasNodePermission
      ⟨1, "a", .viewer⟩ "n" .nodeView = true ∧
    DecidesByHistory (historyOf (RbacStore.serve samplePrimitives) .default sampleCalls)
      (endOf (RbacStore.serve samplePrimitives) .default sampleCalls) :=
  ⟨by decide, decides_by_history (Serves.ofCalls _ _ _)⟩

end Sunbolt.Auth
