/- Module: Sunbolt/Control/BulkRemoval
   scope: sunbolt-control/src/terminal/session_registry.rs
   digest: What the bulk removals take out of a registry, and that they touch nothing else. -/

import Sunbolt.Control.SessionRegistry

set_option autoImplicit false
set_option relaxedAutoImplicit false

namespace Sunbolt.Control

open Sunbolt.Library (Table)
open Sunbolt.Protocol (TerminalSessionId)
open Sunbolt.Terminal (TerminalSessionState LocalPtySession)

namespace TerminalSessionRegistry

/-- How the caller is told of a session that has been taken out. -/
def told (sessionId : TerminalSessionId) (session : TrackedTerminalSession) : RemovedSession :=
  ⟨sessionId, session.actorEmail, session.output, session.backend⟩

/-- Exactly the selected sessions are taken out and told of, each once, exactly their PTYs are
    closed, and all else is as it was. -/
structure RemovesExactly (registry : TerminalSessionRegistry)
    (selected : TrackedTerminalSession → Prop)
    (out : TerminalSessionRegistry × List RemovedSession) : Prop where
  taken : ∀ sessionId session, registry.get sessionId = some session → selected session →
    out.1.get sessionId = none
  kept : ∀ sessionId, (∀ session, registry.get sessionId = some session → ¬selected session) →
    out.1.get sessionId = registry.get sessionId
  told : ∀ removed, removed ∈ out.2 ↔ ∃ sessionId session,
    registry.get sessionId = some session ∧ selected session ∧ removed = told sessionId session
  once : (out.2.map (·.sessionId)).Nodup
  closed : ∀ pty, (∃ removed ∈ out.2, removed.backend = .local pty) →
    out.1.ptys[pty]? = registry.ptys[pty]?.map LocalPtySession.close
  running : ∀ pty, (∀ removed ∈ out.2, removed.backend ≠ .local pty) →
    out.1.ptys[pty]? = registry.ptys[pty]?
  outputs : out.1.outputs = registry.outputs

section Passes

variable (registry : TerminalSessionRegistry) (state : TerminalSessionState)
  {sessionId : TerminalSessionId} (ids : List TerminalSessionId)

/-- The second pass skips what is no longer there. -/
theorem removeEach_none (gone : registry.get sessionId = none) :
    removeEach state (sessionId :: ids) registry = removeEach state ids registry := by
  have hmodify : registry.modify sessionId ({ · with state := state }) = registry := by
    have hlookup : registry.sessions.lookup sessionId = none := gone
    rw [modify, Table.modify, hlookup]
  rw [removeEach, hmodify, removeTracked, gone]

/-- The second pass takes out a session that is there and closes its PTY. -/
theorem removeEach_some {session : TrackedTerminalSession}
    (found : registry.get sessionId = some session) : ∃ next : TerminalSessionRegistry,
    (∀ other, next.get other = if other = sessionId then none else registry.get other) ∧
    next.ptys = (registry.closeBackend session.backend).ptys ∧
    removeEach state (sessionId :: ids) registry =
      ((removeEach state ids next).1,
        told sessionId session :: (removeEach state ids next).2) := by
  have hfound : (registry.modify sessionId ({ · with state := state })).get sessionId =
      some { session with state := state } := by
    rw [get_modify, if_pos rfl, found]
    rfl
  refine ⟨((registry.modify sessionId ({ · with state := state })).removeTracked sessionId).1,
    fun other => ?_, ?_, ?_⟩
  · rw [get_removeTracked, get_modify]
    split_ifs <;> rfl
  · rw [removeTracked, hfound]
    cases session.backend <;> rfl
  · rw [removeEach, removeTracked, hfound]
    rfl

theorem close_close (pty : LocalPtySession) : pty.close.close = pty.close := by
  cases hclosed : pty.closed <;> simp [LocalPtySession.close, hclosed]

theorem ptys_closeBackend_local (pty named : Nat) :
    (registry.closeBackend (.local named)).ptys[pty]? =
      if named = pty then registry.ptys[pty]?.map LocalPtySession.close
      else registry.ptys[pty]? := by
  rw [closeBackend, closePty, List.getElem?_modify]
  split_ifs with hsame
  · rfl
  · exact Option.map_id'

variable {ids}

/-- Both passes together: what is told of is what was there. -/
theorem snd_removeEach (apart : ids.Nodup) : (removeEach state ids registry).2 =
    ids.filterMap (fun sessionId => (registry.get sessionId).map (told sessionId)) := by
  induction ids generalizing registry with
  | nil => rfl
  | cons sessionId ids ih =>
    obtain ⟨hnew, hrest⟩ := List.nodup_cons.mp apart
    cases hget : registry.get sessionId with
    | none =>
      rw [removeEach_none registry state ids hget, ih registry hrest, List.filterMap_cons, hget]
      rfl
    | some session =>
      obtain ⟨next, hnext, -, heq⟩ := removeEach_some registry state ids hget
      have hothers : ∀ other ∈ ids, (next.get other).map (told other) =
          (registry.get other).map (told other) := by
        intro other hother
        have hne : other ≠ sessionId := fun hsame => hnew (hsame ▸ hother)
        rw [hnext, if_neg hne]
      rw [heq, ih next hrest, List.filterMap_cons, hget, List.filterMap_congr hothers]
      rfl

/-- A PTY is closed once for all by whichever of the sessions that hold it goes first. -/
theorem ptys_removeEach_cases (pty : Nat) :
    ((∃ removed ∈ (removeEach state ids registry).2, removed.backend = .local pty) →
      (removeEach state ids registry).1.ptys[pty]? =
        registry.ptys[pty]?.map LocalPtySession.close) ∧
    ((∀ removed ∈ (removeEach state ids registry).2, removed.backend ≠ .local pty) →
      (removeEach state ids registry).1.ptys[pty]? = registry.ptys[pty]?) := by
  induction ids generalizing registry with
  | nil => simp [removeEach]
  | cons sessionId ids ih =>
    cases hget : registry.get sessionId with
    | none =>
      rw [removeEach_none registry state ids hget]
      exact ih registry
    | some session =>
      obtain ⟨next, -, hptys, heq⟩ := removeEach_some registry state ids hget
      obtain ⟨hclosed, hrunning⟩ := ih next
      rw [heq]
      by_cases hown : session.backend = .local pty
      · have hnow : next.ptys[pty]? = registry.ptys[pty]?.map LocalPtySession.close := by
          rw [hptys, hown, ptys_closeBackend_local, if_pos rfl]
        refine ⟨fun _ => ?_, fun hnone => absurd hown (hnone _ List.mem_cons_self)⟩
        by_cases hlater : ∃ removed ∈ (removeEach state ids next).2, removed.backend = .local pty
        · rw [hclosed hlater, hnow, Option.map_map]
          congr 1
          exact funext close_close
        · rw [hrunning (fun removed hmem heq => hlater ⟨removed, hmem, heq⟩), hnow]
      · have hnow : next.ptys[pty]? = registry.ptys[pty]? := by
          rw [hptys, ptys_closeBackend registry hown]
        constructor
        · rintro ⟨removed, hmem, hbackend⟩
          rcases List.mem_cons.mp hmem with rfl | hmem
          · exact absurd hbackend hown
          · rw [hclosed ⟨removed, hmem, hbackend⟩, hnow]
        · intro hnone
          rw [hrunning (fun removed hmem => hnone removed (List.mem_cons_of_mem _ hmem)), hnow]

end Passes

/-- The first pass selects each session once. -/
theorem nodup_selected (registry : TerminalSessionRegistry)
    (p : TrackedTerminalSession → Bool) :
    ((Table.select registry.sessions p).map Prod.fst).Nodup := by
  have hkeys : (registry.sessions.entries.map Sigma.fst).Nodup := registry.sessions.nodupKeys
  rw [Table.select, List.map_map]
  exact hkeys.sublist (List.filter_sublist.map _)

theorem removesExactly (registry : TerminalSessionRegistry) (state : TerminalSessionState)
    (p : TrackedTerminalSession → Bool) :
    RemovesExactly registry (fun session => p session = true)
      (removeEach state ((Table.select registry.sessions p).map Prod.fst) registry) := by
  have hmem : ∀ sessionId, sessionId ∈ (Table.select registry.sessions p).map Prod.fst ↔
      ∃ session, registry.get sessionId = some session ∧ p session = true := by
    intro sessionId
    rw [List.mem_map]
    constructor
    · rintro ⟨⟨named, session⟩, hselected, rfl⟩
      exact ⟨session, Table.mem_select.mp hselected⟩
    · rintro ⟨session, hsession⟩
      exact ⟨(sessionId, session), Table.mem_select.mpr hsession, rfl⟩
  have hsnd := snd_removeEach registry state (nodup_selected registry p)
  constructor
  · intro sessionId session found selected
    rw [get_removeEach, if_pos ((hmem sessionId).mpr ⟨session, found, selected⟩)]
  · intro sessionId others
    rw [get_removeEach, if_neg]
    intro hselected
    obtain ⟨session, found, selected⟩ := (hmem sessionId).mp hselected
    exact others session found selected
  · intro removed
    rw [hsnd, List.mem_filterMap]
    constructor
    · rintro ⟨sessionId, hselected, hremoved⟩
      obtain ⟨session, found, selected⟩ := (hmem sessionId).mp hselected
      rw [found, Option.map_some, Option.some.injEq] at hremoved
      exact ⟨sessionId, session, found, selected, hremoved.symm⟩
    · rintro ⟨sessionId, session, found, selected, rfl⟩
      refine ⟨sessionId, (hmem sessionId).mpr ⟨session, found, selected⟩, ?_⟩
      rw [found, Option.map_some]
  · rw [hsnd, List.map_filterMap]
    refine (nodup_selected registry p).filterMap (fun sessionId other named hnamed hother => ?_)
    obtain ⟨removed, hremoved, rfl⟩ := Option.map_eq_some_iff.mp hnamed
    obtain ⟨removed', hremoved', hsame⟩ := Option.map_eq_some_iff.mp hother
    obtain ⟨session, -, rfl⟩ := Option.map_eq_some_iff.mp hremoved
    obtain ⟨session', -, rfl⟩ := Option.map_eq_some_iff.mp hremoved'
    exact hsame.symm
  · exact fun pty => (ptys_removeEach_cases registry state pty).1
  · exact fun pty => (ptys_removeEach_cases registry state pty).2
  · exact outputs_removeEach ..

theorem RemovesExactly.congr {registry : TerminalSessionRegistry}
    {selected selected' : TrackedTerminalSession → Prop}
    {out : TerminalSessionRegistry × List RemovedSession} (h : RemovesExactly registry selected out)
    (same : ∀ session, selected session ↔ selected' session) :
    RemovesExactly registry selected' out := by
  obtain rfl : selected = selected' := funext (fun session => propext (same session))
  exact h

/-- A session that is not over and too old, or detached and idle for too long. -/
def HasExpired (maxDuration detachedIdleTimeout now : Nat) (session : TrackedTerminalSession) :
    Prop :=
  session.state.isTerminal = false ∧ (maxDuration ≤ now - session.createdAt ∨
    session.state = .detached ∧ detachedIdleTimeout ≤ now - session.lastActivity)

/-- A session of the node that is not over. -/
def RunsOnNode (nodeId : String) (session : TrackedTerminalSession) : Prop :=
  session.state.isTerminal = false ∧ session.nodeId = some nodeId

/-- Both bulk removals are exact on every registry, at every time and for every node. -/
theorem bulk_removal_exact (registry : TerminalSessionRegistry)
    (maxDuration detachedIdleTimeout now : Nat) (nodeId : String) :
    RemovesExactly registry (HasExpired maxDuration detachedIdleTimeout now)
      (registry.drainExpired maxDuration detachedIdleTimeout now) ∧
    RemovesExactly registry (RunsOnNode nodeId) (registry.closeSessionsForNode nodeId) := by
  constructor
  · refine (removesExactly registry .expired
      (isExpired maxDuration detachedIdleTimeout now)).congr (fun session => ?_)
    simp [isExpired, HasExpired, TrackedTerminalSession.isLive]
  · refine (removesExactly registry .terminating (isOnNode nodeId)).congr (fun session => ?_)
    simp [isOnNode, RunsOnNode, TrackedTerminalSession.isLive, and_comm]

end TerminalSessionRegistry

end Sunbolt.Control
