/- Module: Sunbolt/Control/CloseDeadlock
   scope: sunbolt-control/src/terminal/mod.rs, sunbolt-terminal/src/lib.rs
   digest: When closing a session can wait forever for a reader that waits for its shell. -/

import Sunbolt.Control.SessionLocks

set_option autoImplicit false
set_option relaxedAutoImplicit false

namespace Sunbolt.Control

open Sunbolt.Library
open Sunbolt.Protocol (TerminalSessionId)

abbrev LockPast := List (Interaction LockAction LockReply)

/-- The thread waits in `wait_exit` for a shell that still runs, and holds its child lock. -/
structure WaitsForShell (pool : LockPool) (thread pty : Nat) : Prop where
  waits : ∃ origin resume, pool.tasks[thread]? = some ⟨origin, .call (.wait pty) resume⟩
  holds : pool.shared.childHolder pty = some thread
  running : pool.shared.isRunning pty = true

/-- The thread waits in `close` for the child lock of the PTY, which another thread holds, and
    holds the registry lock. -/
structure WaitsInClose (pool : LockPool) (thread pty : Nat) : Prop where
  waits : ∃ origin resume, pool.tasks[thread]? = some ⟨origin, .call (.lockChild pty) resume⟩
  taken : ∃ holder, pool.shared.childHolder pty = some holder ∧ holder ≠ thread
  holds : pool.shared.registryLock = some thread

/-- Only the closer would end the shell that the reader waits for. -/
def Deadlocked (pool : LockPool) : Prop :=
  ∃ reader closer pty, WaitsForShell pool reader pty ∧ WaitsInClose pool closer pty

/-- If this step is the take of a child by a reader in `wait_exit`, the shell has ended. -/
def TakesEnded (e : LockEvent) : Prop :=
  ∀ pty named sessionId output, e.origin = .reader named sessionId output →
    e.interaction = ⟨.takeChild pty, true⟩ → e.before.isRunning pty = false

/-! Program order: a thread that waits for a shell is a reader that has taken its child. -/

def lockAct (origin : LockStage) (past : LockPast) : LockAction → Prop
  | .wait pty => (∃ named sessionId output, origin = .reader named sessionId output) ∧
      (⟨.takeChild pty, true⟩ : Interaction LockAction LockReply) ∈ past
  | _ => True

def lockOrder : Discipline LockAction LockReply LockStage where
  act := lockAct
  head origin stage _ := stage = origin
  halt _ _ := True

/-- The call does not wait for a shell. -/
def NoWait (action : LockAction) : Prop := ∀ pty, action ≠ .wait pty

section Order

attribute [local simp] lockStep Program.perform NoWait

variable {origin : LockStage} {past : LockPast}

private theorem all_of_noWait {α : Type} {p : Thread α} {Q : α → Prop}
    {Post : LockPast → α → Prop} (h : p.Each NoWait Q)
    (post : ∀ later value, Q value → Post later value) :
    p.All (lockAct origin) past Post := by
  refine h.all (fun extra action _ hquiet => ?_) (fun _ value _ hvalue => post _ value hvalue)
  cases action with
  | wait pty => exact absurd rfl (hquiet pty)
  | _ => trivial

private theorem each_closeSession (pty : Nat) :
    (closeSession pty).Each NoWait (fun _ => True) := by
  simp [closeSession]

private theorem each_tryWaitExit (pty : Nat) :
    (tryWaitExit pty).Each NoWait (fun _ => True) := by
  simp only [tryWaitExit, lockStep, Program.perform, Program.each_bind, Program.each_call,
    Program.each_done]
  refine ⟨by simp, fun _ => ⟨by simp, fun child => ?_⟩⟩
  rw [Program.each_ite]
  refine ⟨fun _ => by simp, fun _ => ?_⟩
  simp only [Program.each_bind, Program.each_call, Program.each_done]
  refine ⟨by simp, fun status => ?_⟩
  split <;> simp

private theorem each_removeLocked (sessionId : TerminalSessionId) :
    (removeLocked sessionId).Each NoWait (fun _ => True) := by
  simp only [removeLocked, lockStep, Program.perform, Program.each_bind, Program.each_call,
    Program.each_done]
  refine ⟨by simp, fun removed => ?_⟩
  cases removed with
  | none => trivial
  | some session =>
    dsimp only
    rw [Program.each_bind]
    cases session.backend with
    | «local» pty => exact (each_closeSession pty).mono (fun _ _ => trivial)
    | remote commands => trivial

private theorem each_dropRemoved (removed : Option TrackedTerminalSession) :
    (dropRemoved removed).Each NoWait (fun _ => True) := by
  cases removed <;> simp [dropRemoved]

private theorem each_terminateSession (sessionId : TerminalSessionId) :
    (terminateSession sessionId).Each NoWait (fun _ => True) := by
  simp only [terminateSession, lockStep, Program.perform, Program.each_bind, Program.each_call,
    Program.each_done]
  refine ⟨by simp, fun _ => ⟨by simp, fun _ => ?_⟩⟩
  refine (each_removeLocked sessionId).mono (fun removed _ => ?_)
  exact (each_dropRemoved removed).mono (fun _ _ => by simp)

private theorem each_removeSession (sessionId : TerminalSessionId) :
    (removeSession sessionId).Each NoWait (fun _ => True) := by
  simp only [removeSession, lockStep, Program.perform, Program.each_bind, Program.each_call,
    Program.each_done]
  refine ⟨by simp, fun _ => ?_⟩
  refine (each_removeLocked sessionId).mono (fun removed _ => ?_)
  exact (each_dropRemoved removed).mono (fun _ _ => by simp)

private theorem each_removeExpired (ids : List TerminalSessionId) :
    (removeExpired ids).Each NoWait (fun _ => True) := by
  induction ids with
  | nil => trivial
  | cons sessionId ids ih =>
    simp only [removeExpired, lockStep, Program.perform, Program.each_bind, Program.each_call,
      Program.each_done]
    refine ⟨by simp, fun _ => ?_⟩
    refine (each_removeLocked sessionId).mono (fun removed _ => ih.mono (fun rest _ => ?_))
    cases removed <;> trivial

private theorem each_drainExpiredSessions (maxDuration idleTimeout : Nat) :
    (drainExpiredSessions maxDuration idleTimeout).Each NoWait (fun _ => True) := by
  simp only [drainExpiredSessions, lockStep, Program.perform, Program.each_bind,
    Program.each_call, Program.each_done]
  refine ⟨by simp, fun _ => ⟨by simp, fun expired => ?_⟩⟩
  exact (each_removeExpired expired).mono (fun _ _ => by simp)

private theorem each_openLocalSession (request : TerminalSessionInsert) :
    (openLocalSession request).Each NoWait (fun next => next = none) := by
  simp only [openLocalSession, lockStep, Program.perform, Program.each_bind, Program.each_call,
    Program.each_done]
  refine ⟨by simp, fun pty => ⟨by simp, fun _ => ⟨by simp, fun inserted => ⟨by simp,
    fun _ => ?_⟩⟩⟩⟩
  cases inserted with
  | error error =>
    dsimp only
    rw [Program.each_bind]
    exact (each_closeSession pty).mono (fun _ _ => rfl)
  | ok output => simp

private theorem each_terminateFrame (pty : Nat) (sessionId : TerminalSessionId) :
    (terminateFrame pty sessionId).Each NoWait (fun next => next = none) := by
  simp only [terminateFrame, lockStep, Program.perform, Program.each_bind, Program.each_call,
    Program.each_done]
  refine ⟨by simp, fun _ => ⟨by simp, fun _ => ⟨by simp, fun _ => ?_⟩⟩⟩
  refine (each_closeSession pty).mono (fun _ _ => ?_)
  exact (each_removeSession sessionId).mono (fun _ _ => rfl)

private theorem each_sendExit (sessionId : TerminalSessionId) (output : Nat)
    (exit : Except Sunbolt.Terminal.TerminalError (Option Sunbolt.Terminal.TerminalExitStatus))
    {otherwise : Thread Unit} (other : otherwise.Each NoWait (fun _ => True)) :
    (sendExit sessionId output exit otherwise).Each NoWait (fun _ => True) := by
  unfold sendExit
  split
  · simp
  · exact other

section Reading

variable {pty output : Nat} {sessionId : TerminalSessionId}

private theorem all_waitExit {named : Nat} {Post : LockPast →
      Except Sunbolt.Terminal.TerminalError (Option Sunbolt.Terminal.TerminalExitStatus) → Prop}
    (post : ∀ later result, Post later result) :
    (waitExit named).All (lockAct (.reader pty sessionId output)) past Post := by
  rw [waitExit, Program.all_bind]
  refine ⟨trivial, fun _ => ?_⟩
  rw [Program.all_done, Program.all_bind]
  refine ⟨trivial, fun child => ?_⟩
  rw [Program.all_done, Program.all_ite]
  refine ⟨fun _ => ⟨trivial, fun _ => post _ _⟩, fun hchild => ?_⟩
  have taken : child = true := by simpa using hchild
  subst taken
  rw [Program.all_bind]
  refine ⟨⟨⟨pty, sessionId, output, rfl⟩, ?_⟩, fun status => ?_⟩
  · exact List.mem_append_right _ (List.mem_singleton_self _)
  · rw [Program.all_done]
    cases status with
    | error error => exact ⟨trivial, fun _ => post _ _⟩
    | ok exit => exact ⟨trivial, fun _ => ⟨trivial, fun _ => post _ _⟩⟩

private theorem all_finishReading :
    (finishReading pty sessionId output).All (lockAct (.reader pty sessionId output)) past
      (fun _ next => next = none) := by
  rw [finishReading, Program.all_bind]
  refine all_waitExit (fun later result => ?_)
  rw [Program.all_bind]
  refine all_of_noWait (each_sendExit sessionId output result (by simp)) (fun last _ _ => ?_)
  exact ⟨trivial, fun _ => rfl⟩

private theorem all_readLocked :
    (readLocked pty sessionId output).All (lockAct (.reader pty sessionId output)) past
      (fun _ next => ∀ stage ∈ next, stage = .reader pty sessionId output) := by
  have finish : ∀ past, (finishReading pty sessionId output).All
      (lockAct (.reader pty sessionId output)) past
      (fun _ next => ∀ stage ∈ next, stage = .reader pty sessionId output) :=
    fun past => all_finishReading.mono (fun _ next hnone => by simp [hnone])
  rw [readLocked, Program.all_bind]
  refine ⟨trivial, fun closed => ?_⟩
  rw [Program.all_done, Program.all_ite]
  refine ⟨fun _ => ?_, fun _ => ?_⟩
  · exact finish _
  · rw [Program.all_bind]
    refine ⟨trivial, fun read => ?_⟩
    rw [Program.all_done]
    split
    · exact finish _
    · exact finish _
    · rename_i bytes _ _
      refine all_of_noWait (Q := fun next => next = some (.reader pty sessionId output)) ?_
        (fun _ next hnext => by simp [hnext])
      simp only [recordOutputLocked, lockStep, Program.perform, Program.each_bind,
        Program.each_call, Program.each_done]
      refine ⟨by simp, fun _ => ⟨by simp, fun message => ⟨by simp, fun _ => ?_⟩⟩⟩
      cases message <;> simp [sendRecorded]
    · rename_i error _
      rw [Program.all_bind]
      refine all_of_noWait (each_tryWaitExit pty) (fun later exit _ => ?_)
      rw [Program.all_bind]
      exact all_of_noWait (each_sendExit sessionId output exit (by simp))
        (fun last _ _ => finish last)

end Reading

private theorem lock_body {stage : LockStage} :
    (lockBody stage).All (lockAct stage) past (lockOrder.post stage) := by
  have stops : ∀ later (next : Option LockStage), next = none →
      lockOrder.post stage later next := by
    rintro later next rfl
    trivial
  cases stage with
  | reader pty sessionId output =>
    refine all_readLocked.mono (fun later next hnext => ?_)
    cases next with
    | none => trivial
    | some stage => exact hnext stage rfl
  | openLocal request => exact all_of_noWait (each_openLocalSession request) stops
  | terminate sessionId =>
    rw [lockBody, Program.all_bind]
    exact all_of_noWait (each_terminateSession sessionId) (fun later _ _ => stops later none rfl)
  | remove sessionId =>
    rw [lockBody, Program.all_bind]
    exact all_of_noWait (each_removeSession sessionId) (fun later _ _ => stops later none rfl)
  | drainExpired maxDuration idleTimeout =>
    rw [lockBody, Program.all_bind]
    exact all_of_noWait (each_drainExpiredSessions maxDuration idleTimeout)
      (fun later _ _ => stops later none rfl)
  | detach sessionId =>
    refine all_of_noWait (Q := fun next => next = none) ?_ stops
    simp [lockBody, detachSession]
  | terminateFrame pty sessionId =>
    exact all_of_noWait (each_terminateFrame pty sessionId) stops
  | shellExit pty =>
    refine all_of_noWait (Q := fun next => next = none) ?_ stops
    simp [lockBody]

private theorem lockOrder_sound : lockOrder.Sound lockPlane lockEntry where
  entered _ := rfl
  spawned _ _ _ := rfl
  body {origin stage past} head := by
    obtain rfl : stage = origin := head
    exact lock_body

end Order

/-! What a step does to the shells: none starts again. -/

section Shells

variable {thread : Nat} {state next : LockedSessions} {action : LockAction} {choice : LockChoice}
  {reply : LockReply action}

/-- Every PTY has its child lock. -/
def Paired (state : LockedSessions) : Prop :=
  state.registry.ptys.length = state.children.length

/-- What a step leaves of the children: a running shell was running before or is a new one. -/
structure ChildrenStep (state next : LockedSessions) : Prop where
  paired : Paired state → Paired next
  running : ∀ {pty}, pty < state.children.length → next.isRunning pty = true →
    state.isRunning pty = true
  kept : state.children.length ≤ next.children.length

private theorem ChildrenStep.same (children : next.children = state.children)
    (ptys : next.registry.ptys.length = state.registry.ptys.length) :
    ChildrenStep state next where
  paired h := by rw [Paired, ptys, children]; exact h
  running _ h := by rwa [LockedSessions.isRunning, children] at h
  kept := by rw [children]

/-- A change of one child lock that starts no shell. -/
private theorem ChildrenStep.onChild (pty : Nat) {f : ChildLock → ChildLock}
    (stops : ∀ child, (f child).running = true → child.running = true) :
    ChildrenStep state (state.onChild pty f) where
  paired h := by
    rw [Paired] at h ⊢
    simpa [LockedSessions.onChild] using h
  running {other} _ h := by
    simp only [LockedSessions.isRunning, LockedSessions.onChild, List.getElem?_modify] at h ⊢
    cases hchild : state.children[other]? with
    | none => simp [hchild] at h
    | some child =>
      rw [hchild] at h
      by_cases hpty : pty = other
      · subst hpty
        simp only [if_true, Option.map_eq_map, Option.map_some, Option.getD_some] at h
        exact stops child h
      · simpa [hpty] using h
  kept := by simp [LockedSessions.onChild]

private theorem ptys_insertBackend (registry : TerminalSessionRegistry)
    (request : TerminalSessionInsert) (now : Nat)
    (token : Sunbolt.Protocol.TerminalReconnectToken) :
    (registry.insertBackend request now token).1.ptys = registry.ptys := by
  rcases registry.insertBackend_cases request now token with ⟨error, heq⟩ | heq
  · rw [heq]
  · rw [heq]

theorem performLock_children (h : performLock thread state action choice = some (reply, next)) :
    ChildrenStep state next := by
  unfold performLock at h
  split at h
  -- the two locks
  · split_ifs at h
    cases h
    exact .same rfl rfl
  · split_ifs at h
    cases h
    exact .same rfl rfl
  · split_ifs at h
    cases h
    exact .onChild _ (fun _ hrunning => hrunning)
  · split_ifs at h
    cases h
    exact .onChild _ (fun _ hrunning => hrunning)
  -- a new shell comes last
  · cases h
    refine ⟨fun hpaired => ?_, fun hlt hrunning => ?_, by simp⟩
    · rw [Paired] at hpaired ⊢
      simp [hpaired]
    · rwa [LockedSessions.isRunning, List.getElem?_append_left hlt] at hrunning
  · cases h
    exact .same rfl (congrArg List.length (ptys_insertBackend ..))
  · cases h
    exact .same rfl rfl
  · cases h
    exact .same rfl rfl
  · cases h
    exact .same rfl rfl
  · cases h
    exact .same rfl rfl
  · cases h
    exact .same rfl rfl
  · cases h
    exact .same rfl rfl
  · cases h
    exact .same rfl rfl
  · cases h
    exact .same rfl rfl
  · obtain ⟨session, -, heq⟩ := Option.map_eq_some_iff.mp h
    cases heq
    exact .same rfl rfl
  · cases h
    exact .same rfl (by simp [LockedSessions.onPty])
  · obtain ⟨session, -, heq⟩ := Option.map_eq_some_iff.mp h
    cases heq
    exact .same rfl (by simp [LockedSessions.onPty])
  · split_ifs at h
    obtain ⟨session, -, heq⟩ := Option.map_eq_some_iff.mp h
    cases heq
    exact .same rfl rfl
  · obtain ⟨session, -, heq⟩ := Option.map_eq_some_iff.mp h
    cases heq
    exact .same rfl rfl
  · obtain ⟨session, -, heq⟩ := Option.map_eq_some_iff.mp h
    cases heq
    exact .same rfl (by simp [LockedSessions.onPty])
  -- a kill may fail, and then the shell runs on
  · cases h
    refine .onChild _ (fun child hrunning => ?_)
    exact (Bool.and_eq_true_iff.mp hrunning).1
  · cases h
    exact .same rfl rfl
  · cases h
    exact .same rfl rfl
  · split_ifs at h
    cases h
    exact .same rfl rfl
  · cases h
    exact .same rfl rfl
  · cases h
    exact .onChild _ (fun _ hrunning => (nomatch hrunning))
  · cases h

/-- A child that is taken belongs to a PTY that has been spawned. -/
private theorem lt_of_takeChild {pty : Nat} {taken : Bool}
    (h : performLock thread state (.takeChild pty) choice = some (taken, next)) :
    pty < state.registry.ptys.length := by
  cases choice with
  | none =>
    obtain ⟨session, hsession, -⟩ := Option.map_eq_some_iff.mp h
    exact (List.getElem?_eq_some_iff.mp hsession).1
  | _ => cases h

end Shells

section Runs

variable {history : List LockEvent} {pool : LockPool}

/-- A shell that had ended when its child was taken has ended for good. -/
private def EndedStays (history : List LockEvent) (state : LockedSessions) : Prop :=
  Paired state ∧ ∀ e ∈ history, ∀ pty taken, e.interaction = ⟨.takeChild pty, taken⟩ →
    pty < state.children.length ∧ (e.before.isRunning pty = false → state.isRunning pty = false)

private theorem LockReaches.holds (h : LockReaches history pool) :
    lockOrder.Holds history pool ∧ EndedStays history pool.shared := by
  have boot : EndedStays [] .boot := ⟨rfl, fun e he => absurd he List.not_mem_nil⟩
  refine Service.Reaches.invariant lockOrder_sound (I := EndedStays) boot ?_ h
  · rintro history state thread origin action choice out ⟨paired, ended⟩ - hperform
    obtain ⟨⟨reply, next⟩, hnext, rfl⟩ := Option.map_eq_some_iff.mp hperform
    have step := performLock_children hnext
    have stays : ∀ {pty}, pty < state.children.length → state.isRunning pty = false →
        next.isRunning pty = false := by
      intro pty hlt hstopped
      rw [Bool.eq_false_iff] at hstopped ⊢
      exact fun hrunning => hstopped (step.running hlt hrunning)
    refine ⟨step.paired paired, fun e he pty taken htakes => ?_⟩
    rcases List.mem_append.mp he with hold | hnew
    · obtain ⟨hlt, hended⟩ := ended e hold pty taken htakes
      exact ⟨hlt.trans_le step.kept, fun hstopped => stays hlt (hended hstopped)⟩
    · obtain rfl := List.mem_singleton.mp hnew
      cases htakes
      have hlt : pty < state.children.length := paired ▸ lt_of_takeChild hnext
      exact ⟨hlt.trans_le step.kept, stays hlt⟩

/-- As long as every reader that takes its child finds the shell ended, no thread waits in close
    for a reader that waits for a running shell. -/
theorem never_deadlocked (h : LockReaches history pool)
    (ended : ∀ e ∈ history, TakesEnded e) : ¬Deadlocked pool := by
  rintro ⟨reader, closer, pty, waiting, -⟩
  obtain ⟨holds, -, stays⟩ := h.holds
  obtain ⟨origin, resume, htask⟩ := waiting.waits
  obtain ⟨⟨⟨named, sessionId, output, rfl⟩, hmem⟩, -⟩ := holds.task htask
  obtain ⟨e, he, hreader, htakes⟩ := Service.mem_own.mp hmem
  have horigin : e.origin = .reader named sessionId output := by
    obtain ⟨task, hfound, hsame⟩ := holds.known e he
    rw [hreader, htask] at hfound
    cases hfound
    exact hsame.symm
  have hstopped : pool.shared.isRunning pty = false :=
    (stays e he pty true htakes).2 (ended e he pty named sessionId output horigin htakes)
  rw [waiting.running] at hstopped
  cases hstopped

end Runs

/-! Runs of one session. -/

private def oneRequest : TerminalSessionInsert where
  sessionId := sessionIdOf 1
  backend := .local 0
  size := ⟨80, 24⟩
  config := ⟨16, 5, 10, 1800, 28800⟩
  actorEmail := "alice"
  nodeId := none
  transportStatus := none

/-- A session is opened, and its reader, thread 1, is about to read. -/
private def opening : List (Label LockArrival LockChoice) :=
  [.arrive (.openLocal oneRequest), .move 0 .none, .move 0 .none,
    .move 0 (.clockToken 0 ⟨"t0"⟩), .move 0 .none, .move 0 .none, .move 1 .none]

/-- The reader reads the end of the file and takes the child. -/
private def readerEnds : List (Label LockArrival LockChoice) :=
  [.move 1 (.read (.ok [])), .move 1 .none, .move 1 .none]

/-- Thread 2 terminates the session, up to the child lock. -/
private def closing (thread : Nat) : List (Label LockArrival LockChoice) :=
  [.arrive (.terminate (sessionIdOf 1)), .move thread .none, .move thread .none,
    .move thread .none, .move thread .none]

private def lockCalls (labels : List (Label LockArrival LockChoice)) : List LockEvent :=
  (((lockPlane.machine lockEntry).run ⟨.boot, []⟩ labels).map Prod.snd).getD []

/-- The shell ends before its reader takes the child. -/
private def shellEndsFirst : List (Label LockArrival LockChoice) :=
  opening ++ [.arrive (.shellExit 0), .move 2 .none] ++ readerEnds ++ closing 3

private theorem takesEnded_of_all {history : List LockEvent}
    (h : history.all (fun e => match e.origin, e.interaction with
      | .reader .., ⟨.takeChild pty, true⟩ => !e.before.isRunning pty
      | _, _ => true) = true) : ∀ e ∈ history, TakesEnded e := by
  intro e he pty named sessionId output horigin htakes
  have hchecked := List.all_eq_true.mp h e he
  rw [horigin, htakes] at hchecked
  simpa using hchecked

theorem never_deadlocked_shell_ended : ∃ pool,
    LockReaches (lockCalls shellEndsFirst) pool ∧ WaitsInClose pool 3 0 ∧ ¬Deadlocked pool := by
  obtain ⟨pool, h, waits⟩ : ∃ pool, LockReaches (lockCalls shellEndsFirst) pool ∧
      WaitsInClose pool 3 0 :=
    ⟨_, ⟨shellEndsFirst, rfl⟩, ⟨_, _, rfl⟩, ⟨1, rfl, by omega⟩, rfl⟩
  exact ⟨pool, h, waits, never_deadlocked h (takesEnded_of_all rfl)⟩

/-- The reader has seen the end of the file while the shell runs on; it waits for the shell with
    the child lock, and the thread that would kill the shell waits for that lock. -/
theorem close_waits_for_running_shell : ∃ history pool,
    LockReaches history pool ∧ Deadlocked pool :=
  ⟨_, _, ⟨opening ++ readerEnds ++ closing 2, rfl⟩,
    1, 2, 0, ⟨⟨_, _, rfl⟩, rfl, rfl⟩, ⟨_, _, rfl⟩, ⟨1, rfl, by omega⟩, rfl⟩

end Sunbolt.Control
