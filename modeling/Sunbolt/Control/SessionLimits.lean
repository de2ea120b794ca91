/- Module: Sunbolt/Control/SessionLimits
   scope: sunbolt-control/src/terminal/session_registry.rs
   digest: The limits on the number of sessions hold in every reachable registry. -/

import Sunbolt.Control.RegistryMachine

set_option autoImplicit false
set_option relaxedAutoImplicit false

namespace Sunbolt.Control

open Sunbolt.Library (Table)
open Sunbolt.Protocol (TerminalSessionId TerminalReconnectToken)
open Sunbolt.Terminal (TerminalSessionState)

namespace TerminalSessionRegistry

variable {registry : TerminalSessionRegistry} {p : TrackedTerminalSession → Bool}

@[simp] theorem sessions_closeBackend (registry : TerminalSessionRegistry)
    (backend : TerminalBackend) : (registry.closeBackend backend).sessions = registry.sessions := by
  cases backend <;> rfl

theorem count_modify_le (sessionId : TerminalSessionId)
    (f : TrackedTerminalSession → TrackedTerminalSession)
    (keeps : ∀ session, p (f session) = true → p session = true) :
    (registry.modify sessionId f).sessions.count p ≤ registry.sessions.count p :=
  Table.count_modify_le registry.sessions sessionId f (fun session _ => keeps session)

/-- A session that is marked and removed in one operation is out of every count, whatever the
    mark was. -/
theorem count_removeTracked_le (registry : TerminalSessionRegistry)
    (p : TrackedTerminalSession → Bool) (sessionId : TerminalSessionId)
    (f : TrackedTerminalSession → TrackedTerminalSession) :
    ((registry.modify sessionId f).removeTracked sessionId).1.sessions.count p ≤
      registry.sessions.count p := by
  rw [removeTracked]
  split
  · rename_i h
    rw [get_modify, if_pos rfl, Option.map_eq_none_iff] at h
    have hsame : Table.modify registry.sessions sessionId f = registry.sessions := by
      rw [get] at h
      rw [Table.modify, h]
    rw [modify, hsame]
  · rw [sessions_closeBackend]
    exact Table.count_erase_modify_le registry.sessions sessionId f p

theorem count_terminate_le (sessionId : TerminalSessionId) :
    (registry.terminate sessionId).1.sessions.count p ≤ registry.sessions.count p := by
  have hle := count_removeTracked_le registry p sessionId
    ({ · with state := .terminating })
  rw [terminate]
  split
  · rename_i h
    rwa [h] at hle
  · rename_i h
    rwa [h] at hle

theorem count_remove_le (sessionId : TerminalSessionId) :
    (registry.remove sessionId).sessions.count p ≤ registry.sessions.count p := by
  have hle : (registry.removeTracked sessionId).1.sessions.count p ≤
      registry.sessions.count p := by
    rw [removeTracked]
    split
    · exact le_rfl
    · rw [sessions_closeBackend]
      exact Table.count_erase_le registry.sessions sessionId p
  rw [remove]
  split
  · rename_i h
    rwa [h] at hle
  · rename_i h
    rwa [h] at hle

theorem count_removeEach_le (state : TerminalSessionState) (ids : List TerminalSessionId) :
    (removeEach state ids registry).1.sessions.count p ≤ registry.sessions.count p := by
  induction ids generalizing registry with
  | nil => exact le_rfl
  | cons sessionId ids ih =>
    have hle := count_removeTracked_le registry p sessionId
      ({ · with state := state })
    rw [removeEach]
    split
    · rename_i h
      rw [h] at hle
      exact Nat.le_trans ih hle
    · rename_i h
      rw [h] at hle
      exact Nat.le_trans ih hle

/-- No operation but an insert adds to a count of live sessions by user and node. -/
theorem count_serve_le {call : RegistryCall}
    (keeps : ∀ before after, Continues before after → p after = true → p before = true)
    (other : ∀ request now token, call ≠ .insert request now token) :
    (registry.serve call).1.sessions.count p ≤ registry.sessions.count p := by
  cases call with
  | insert request now token => exact absurd rfl (other request now token)
  | setState sessionId state =>
    exact count_modify_le sessionId _
      (fun session => keeps session _ (session.continues_moveTo state))
  | detach sessionId =>
    exact count_modify_le sessionId _
      (fun session => keeps session _ (session.continues_moveTo .detached))
  | reattach sessionId reconnectToken actorEmail now token =>
    rcases registry.reattach_cases sessionId reconnectToken actorEmail now token with
      h | ⟨tracked, hget, -, hstate, -, h⟩
    · rw [serve, h]
    · rw [serve, h]
      refine Table.count_modify_le registry.sessions sessionId _ ?_
      intro session hlookup hp
      have hsession : session = tracked := Option.some.inj (hlookup.symm.trans hget)
      refine keeps session _ ⟨?_, ?_, fun _ => ?_⟩ hp
      · rfl
      · rfl
      · rw [hsession, TrackedTerminalSession.isLive]
        cases hcase : tracked.state <;>
          simp_all [TerminalSessionState.isReattachable, TerminalSessionState.isTerminal]
  | touch sessionId now =>
    exact count_modify_le sessionId _ (fun session => keeps session _ ⟨rfl, rfl, id⟩)
  | setSize sessionId size =>
    exact count_modify_le sessionId _ (fun session => keeps session _ ⟨rfl, rfl, id⟩)
  | recordOutput sessionId data =>
    exact count_modify_le sessionId _ (fun session => keeps session _ ⟨rfl, rfl, id⟩)
  | rememberServerMessage message =>
    rw [serve, rememberServerMessage]
    split
    · exact le_rfl
    · exact count_modify_le _ _ (fun session => keeps session _ ⟨rfl, rfl, id⟩)
  | terminate sessionId => exact count_terminate_le sessionId
  | remove sessionId => exact count_remove_le sessionId
  | drainExpired maxDuration detachedIdleTimeout now => exact count_removeEach_le .expired _
  | closeSessionsForNode nodeId => exact count_removeEach_le .terminating _

/-- The sessions of a user, and of a node, that count against a limit. -/
def ofUser (actorEmail : String) (session : TrackedTerminalSession) : Bool :=
  session.actorEmail == actorEmail && session.isLive

def ofNode (nodeId : Option String) (session : TrackedTerminalSession) : Bool :=
  session.nodeId == nodeId && session.isLive

theorem count_tracked (registry : TerminalSessionRegistry) (p : TrackedTerminalSession → Bool) :
    (registry.sessions.entries.map (fun e => e.2)).countP p = registry.sessions.count p := by
  rw [List.countP_map]
  rfl

/-- An insert is accepted only where there is room for one more session in each count. -/
theorem room_of_insertBackend {request : TerminalSessionInsert} {now output : Nat}
    {token : TerminalReconnectToken}
    (h : (registry.insertBackend request now token).2 = .ok output) :
    registry.sessions.entries.length < request.config.maxSessions ∧
      registry.sessions.count (ofUser request.actorEmail) <
        request.config.maxSessionsPerUser ∧
      registry.sessions.count (ofNode request.nodeId) < request.config.maxSessionsPerNode := by
  simp only [insertBackend] at h
  split_ifs at h with htotal huser hnode
  rw [count_tracked] at huser hnode
  rw [List.length_map] at htotal
  exact ⟨not_le.mp htotal, not_le.mp huser, not_le.mp hnode⟩

theorem insert_refused (registry : TerminalSessionRegistry) {call : RegistryCall}
    {error : SessionLimitError} (h : (registry.serve call).2 = .inserted (.error error)) :
    (registry.serve call).1 = registry := by
  cases call with
  | insert request now token =>
    rw [serve] at h ⊢
    rcases registry.insertBackend_cases request now token with ⟨refusal, heq⟩ | heq
    · rw [heq]
    · rw [heq] at h
      cases h
  | _ => simp [serve] at h

end TerminalSessionRegistry

/-- The limits of a configuration; a session without a node counts in the group of these. -/
structure WithinLimits (config : TerminalSessionConfig) (registry : TerminalSessionRegistry) :
    Prop where
  total : registry.sessions.entries.length ≤ config.maxSessions
  perUser : ∀ actorEmail, registry.sessions.count (TerminalSessionRegistry.ofUser actorEmail) ≤
    config.maxSessionsPerUser
  perNode : ∀ nodeId, registry.sessions.count (TerminalSessionRegistry.ofNode nodeId) ≤
    config.maxSessionsPerNode

def RegistryCall.isUnder (config : TerminalSessionConfig) : RegistryCall → Bool
  | .insert request _ _ => request.config == config
  | _ => true

/-- Every insert of the run is made with this configuration. -/
def FixedConfig (config : TerminalSessionConfig) (history : List RegistryEvent) : Prop :=
  ∀ e ∈ history, e.call.isUnder config = true

section Limits

variable {config : TerminalSessionConfig} {registry : TerminalSessionRegistry}

theorem WithinLimits.insert (h : WithinLimits config registry) {request : TerminalSessionInsert}
    {now : Nat} {token : TerminalReconnectToken} (hconfig : request.config = config) :
    WithinLimits config (registry.insertBackend request now token).1 := by
  rcases registry.insertBackend_cases request now token with ⟨error, heq⟩ | heq
  · rw [heq]
    exact h
  · have hroom := TerminalSessionRegistry.room_of_insertBackend (congrArg Prod.snd heq)
    rw [hconfig] at hroom
    rw [heq]
    have hadd : ∀ p, Table.count (AList.insert request.sessionId
        (request.tracked registry.outputs.length now token) registry.sessions) p ≤
          registry.sessions.count p + if p (request.tracked registry.outputs.length now token)
            then 1 else 0 :=
      fun p => Table.count_insert_le registry.sessions request.sessionId _ p
    have most : ∀ p, Table.count (AList.insert request.sessionId
        (request.tracked registry.outputs.length now token) registry.sessions) p ≤
          registry.sessions.count p + 1 := by
      intro p
      refine Nat.le_trans (hadd p) (Nat.add_le_add_left ?_ _)
      split_ifs
      · exact le_rfl
      · exact Nat.zero_le 1
    constructor
    · have htotal := most (fun _ => true)
      rw [Table.count_true, Table.count_true] at htotal
      exact Nat.le_trans htotal hroom.1
    · intro actorEmail
      by_cases hactor : request.actorEmail = actorEmail
      · subst hactor
        exact Nat.le_trans (most _) hroom.2.1
      · have hother : TerminalSessionRegistry.ofUser actorEmail
            (request.tracked registry.outputs.length now token) = false := by
          simp [TerminalSessionRegistry.ofUser, TerminalSessionInsert.tracked, hactor]
        have huser := hadd (TerminalSessionRegistry.ofUser actorEmail)
        rw [hother] at huser
        exact Nat.le_trans huser (h.perUser actorEmail)
    · intro nodeId
      by_cases hid : request.nodeId = nodeId
      · subst hid
        exact Nat.le_trans (most _) hroom.2.2
      · have hother : TerminalSessionRegistry.ofNode nodeId
            (request.tracked registry.outputs.length now token) = false := by
          simp [TerminalSessionRegistry.ofNode, TerminalSessionInsert.tracked, hid]
        have hnode := hadd (TerminalSessionRegistry.ofNode nodeId)
        rw [hother] at hnode
        exact Nat.le_trans hnode (h.perNode nodeId)

theorem WithinLimits.serve (h : WithinLimits config registry) {call : RegistryCall}
    (fixed : call.isUnder config = true) : WithinLimits config (registry.serve call).1 := by
  by_cases hinsert : ∃ request now token, call = .insert request now token
  · obtain ⟨request, now, token, rfl⟩ := hinsert
    exact h.insert (beq_iff_eq.mp fixed)
  · have other : ∀ request now token, call ≠ .insert request now token :=
      fun request now token heq => hinsert ⟨request, now, token, heq⟩
    constructor
    · have hle : (registry.serve call).1.sessions.count (fun _ => true) ≤
          registry.sessions.count (fun _ => true) :=
        TerminalSessionRegistry.count_serve_le (fun _ _ _ _ => rfl) other
      rw [Table.count_true, Table.count_true] at hle
      exact Nat.le_trans hle h.total
    · intro actorEmail
      refine Nat.le_trans (TerminalSessionRegistry.count_serve_le ?_ other)
        (h.perUser actorEmail)
      intro before after continues hp
      simp only [TerminalSessionRegistry.ofUser, Bool.and_eq_true] at hp ⊢
      exact ⟨continues.actorEmail ▸ hp.1, continues.isLive hp.2⟩
    · intro nodeId
      refine Nat.le_trans (TerminalSessionRegistry.count_serve_le ?_ other) (h.perNode nodeId)
      intro before after continues hp
      simp only [TerminalSessionRegistry.ofNode, Bool.and_eq_true] at hp ⊢
      exact ⟨continues.nodeId ▸ hp.1, continues.isLive hp.2⟩

end Limits

/-- Every registry that operations under one configuration reach is within its limits, and an
    insert that is refused has changed nothing. -/
theorem limits_hold {config : TerminalSessionConfig} {history : List RegistryEvent}
    {registry : TerminalSessionRegistry} (h : RegistryReaches history registry)
    (fixed : FixedConfig config history) :
    WithinLimits config registry ∧
      ∀ e ∈ history, ∀ error, e.reply = .inserted (.error error) → e.after = e.before := by
  have kept := h.invariant
    (I := fun history registry => FixedConfig config history → WithinLimits config registry)
    (fun _ => ⟨Nat.zero_le _, fun _ => Nat.zero_le _, fun _ => Nat.zero_le _⟩)
    (fun history registry call ih fixed => by
      have early : FixedConfig config history :=
        fun e he => fixed e (List.mem_append_left _ he)
      exact (ih early).serve (fixed _ (List.mem_append_right _ (List.mem_cons_self ..))))
  refine ⟨kept fixed, ?_⟩
  intro e he error hreply
  rw [h.event he] at hreply ⊢
  exact e.before.insert_refused hreply

/-- One session per user: the second of a user is refused, also while the first is detached. -/
private def singleConfig : TerminalSessionConfig := ⟨3, 1, 2, 60, 3600⟩

private def singleRequest (sessionId : TerminalSessionId) (actorEmail : String) :
    TerminalSessionInsert :=
  ⟨sessionId, .remote 0, ⟨80, 24⟩, singleConfig, actorEmail, some "node-1", none⟩

private def singleCalls : List RegistryCall :=
  [.insert (singleRequest ⟨"s1"⟩ "alice") 0 ⟨"t1"⟩, .setState ⟨"s1"⟩ .active, .detach ⟨"s1"⟩,
    .insert (singleRequest ⟨"s2"⟩ "alice") 1 ⟨"t2"⟩,
    .insert (singleRequest ⟨"s3"⟩ "bob") 2 ⟨"t3"⟩]

theorem limits_hold_single : ∃ history registry, RegistryReaches history registry ∧
    registry.sessions.entries.length = 2 ∧ WithinLimits singleConfig registry ∧
    ∀ e ∈ history, ∀ error, e.reply = .inserted (.error error) → e.after = e.before := by
  obtain ⟨history, registry, hrun, hlength⟩ : ∃ history registry,
      registryMachine.run .empty singleCalls = some (registry, history) ∧
      registry.sessions.entries.length = 2 := ⟨_, _, rfl, rfl⟩
  have fixed : FixedConfig singleConfig history := by
    intro e he
    have hcall : e.call ∈ singleCalls := map_call_of_run hrun ▸ List.mem_map_of_mem he
    exact List.all_eq_true.mp (by decide : singleCalls.all (·.isUnder singleConfig) = true) _ hcall
  exact ⟨history, registry, ⟨singleCalls, hrun⟩, hlength, limits_hold ⟨singleCalls, hrun⟩ fixed⟩

end Sunbolt.Control
