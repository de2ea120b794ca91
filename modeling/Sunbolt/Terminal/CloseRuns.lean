/- Module: Sunbolt/Terminal/CloseRuns
   scope: sunbolt-terminal/src/lib.rs
   digest: Closing a local PTY whose system calls can fail, and when its shell is gone. -/

import Sunbolt.Library.Serving
import Sunbolt.Terminal.Lifecycle

set_option autoImplicit false
set_option relaxedAutoImplicit false

namespace Sunbolt.Terminal

open Sunbolt.Library

namespace LocalPtySession

variable (session : LocalPtySession)

/-- `close`, for the answer of `kill`, if it is called: the flag is set and the child is taken
    first. -/
def closeKilling (kill : Except String Unit) : LocalPtySession × Except TerminalError Unit :=
  if session.closed then (session, .ok ())
  else if session.child then (⟨true, false⟩, kill.mapError .close)
  else (⟨true, false⟩, .ok ())

/-- `wait_exit` that returns, for the answer of `wait`, if it is called. -/
def waitReturned (wait : Except String (Option Int32)) :
    LocalPtySession × Except TerminalError (Option TerminalExitStatus) :=
  if session.child then
    match wait with
    | .ok code => (⟨true, false⟩, .ok (some ⟨code⟩))
    | .error text => (⟨session.closed, false⟩, .error (.wait text))
  else (session, .ok none)

theorem closeKilling_fst (kill : Except String Unit) :
    (session.closeKilling kill).1 = session.close := by
  rw [closeKilling, close]
  split_ifs <;> rfl

theorem waitExit_exited (code : Option Int32) :
    session.waitExit (.exited code) = some (session.waitReturned (.ok code)) := by
  rw [waitExit, waitReturned]
  split_ifs <;> rfl

theorem waitExit_unknown (text : String) :
    session.waitExit (.unknown text) = some (session.waitReturned (.error text)) := by
  rw [waitExit, waitReturned]
  split_ifs <;> rfl

end LocalPtySession

/-- The calls that may end the child, with what the system answers. Dropping the session is one
    more `close`. -/
inductive PtyCall where
  | close (kill : Except String Unit)
  | tryWaitExit (status : ChildStatus)
  | waitExit (wait : Except String (Option Int32))

inductive PtyReply where
  | closed (result : Except TerminalError Unit)
  | exit (result : Except TerminalError (Option TerminalExitStatus))

def servePty (session : LocalPtySession) : PtyCall → LocalPtySession × PtyReply
  | .close kill => (session.closeKilling kill).map id .closed
  | .tryWaitExit status => (session.tryWaitExit status).map id .exit
  | .waitExit wait => (session.waitReturned wait).map id .exit

abbrev PtyEvent := Served LocalPtySession PtyCall PtyReply

/-- The runs of a session that has been spawned. -/
abbrev PtyRun : List PtyEvent → LocalPtySession → Prop := Serves servePty .spawned

/-! What becomes of the child in a call. -/

/-- The call is a `close` that kills the child. -/
def Kills (e : PtyEvent) : Prop :=
  e.call = .close (.ok ()) ∧ e.before.closed = false ∧ e.before.child = true

/-- It is a `close` that calls `kill`, which fails. -/
def KillFails (e : PtyEvent) : Prop :=
  ∃ text, e.call = .close (.error text) ∧ e.before.closed = false ∧ e.before.child = true

/-- It is a `wait_exit` that calls `wait`, which fails. -/
def WaitFails (e : PtyEvent) : Prop :=
  ∃ text, e.call = .waitExit (.error text) ∧ e.before.child = true

def ObservesExit (e : PtyEvent) : Prop := ∃ status, e.reply = .exit (.ok (some status))

/-- A close that succeeds comes with a child that is gone, and one that fails can be repeated. -/
structure CloseSound (history : List PtyEvent) : Prop where
  gone : ∀ front e back, history = front ++ e :: back → e.reply = .closed (.ok ()) →
    ∃ d ∈ front ++ [e], Kills d ∨ ObservesExit d
  retry : ∀ e ∈ history, (∃ error, e.reply = .closed (.error error)) →
    ∃ later last, Serves servePty e.after later last ∧ ∃ d ∈ later, Kills d

section Runs

variable {history front back : List PtyEvent} {session last : LocalPtySession} {e : PtyEvent}

/-- As long as the child is held, a call leaves the session as it is, or takes the child. -/
theorem held_step (call : PtyCall) :
    ((servePty .spawned call).1 = .spawned ∧ ∀ kill, call ≠ .close kill) ∨
    (servePty .spawned call).1.child = false ∧
      (Kills (served servePty .spawned call) ∨ ObservesExit (served servePty .spawned call) ∨
        KillFails (served servePty .spawned call) ∨ WaitFails (served servePty .spawned call)) := by
  cases call with
  | close kill =>
    cases kill with
    | ok u => exact Or.inr ⟨rfl, Or.inl ⟨rfl, rfl, rfl⟩⟩
    | error text => exact Or.inr ⟨rfl, Or.inr (Or.inr (Or.inl ⟨text, rfl, rfl, rfl⟩))⟩
  | tryWaitExit status =>
    cases status with
    | running => exact Or.inl ⟨rfl, nofun⟩
    | exited code => exact Or.inr ⟨rfl, Or.inr (Or.inl ⟨⟨code⟩, rfl⟩)⟩
    | unknown text => exact Or.inl ⟨rfl, nofun⟩
  | waitExit wait =>
    cases wait with
    | ok code => exact Or.inr ⟨rfl, Or.inr (Or.inl ⟨⟨code⟩, rfl⟩)⟩
    | error text => exact Or.inr ⟨rfl, Or.inr (Or.inr (Or.inr ⟨text, rfl, rfl⟩))⟩

/-- Once the child has been taken, no call reaches it, and every `close` succeeds. -/
theorem taken_step (h : session.child = false) (call : PtyCall) :
    (servePty session call).1.child = false ∧ ¬Kills (served servePty session call) ∧
      ¬ObservesExit (served servePty session call) ∧
      ∀ kill, call = .close kill → (servePty session call).2 = .closed (.ok ()) := by
  obtain ⟨closed, child⟩ := session
  obtain rfl : child = false := h
  refine ⟨?_, fun hkills => Bool.noConfusion hkills.2.2, ?_, ?_⟩
  · cases call with
    | close kill => cases closed <;> rfl
    | tryWaitExit status => rfl
    | waitExit wait => rfl
  · rintro ⟨status, hreply⟩
    cases call with
    | close kill => cases closed <;> cases hreply
    | tryWaitExit status => cases hreply
    | waitExit wait => cases hreply
  · rintro kill rfl
    cases closed <;> rfl

/-- The child is held and the session is open, or one of the calls has taken the child. -/
theorem PtyRun.held_or_taken (h : PtyRun history session) : session = .spawned ∨
    session.child = false ∧
      ∃ e ∈ history, Kills e ∨ ObservesExit e ∨ KillFails e ∨ WaitFails e := by
  refine Serves.invariant (I := fun history session => session = .spawned ∨
    session.child = false ∧
      ∃ e ∈ history, Kills e ∨ ObservesExit e ∨ KillFails e ∨ WaitFails e) (Or.inl rfl) ?_ h
  rintro history session call - (rfl | ⟨htaken, e, he, hhow⟩)
  · rcases held_step call with ⟨hsame, -⟩ | ⟨hchild, hhow⟩
    · exact Or.inl hsame
    · exact Or.inr ⟨hchild, _, List.mem_append_right _ List.mem_cons_self, hhow⟩
  · exact Or.inr ⟨(taken_step htaken call).1, e, List.mem_append_left _ he, hhow⟩

/-- After the child has been taken, a run neither kills it nor observes its exit. -/
theorem taken_run (h : Serves servePty session history last) (taken : session.child = false) :
    last.child = false ∧ ∀ e ∈ history, ¬Kills e ∧ ¬ObservesExit e := by
  refine Serves.invariant (I := fun history last => last.child = false ∧
    ∀ e ∈ history, ¬Kills e ∧ ¬ObservesExit e)
    ⟨taken, fun _ he => absurd he List.not_mem_nil⟩ ?_ h
  rintro history session call - ⟨htaken, hnone⟩
  obtain ⟨hchild, hkills, hexit, -⟩ := taken_step htaken call
  refine ⟨hchild, fun e he => ?_⟩
  rcases List.mem_append.mp he with he | he
  · exact hnone e he
  · obtain rfl := List.mem_singleton.mp he
    exact ⟨hkills, hexit⟩

/-- Whatever ends the child, or fails to, takes it. -/
theorem child_after (served_e : e = served servePty e.before e.call)
    (hhow : Kills e ∨ ObservesExit e ∨ KillFails e ∨ WaitFails e) : e.after.child = false := by
  have hafter : e.after = (servePty e.before e.call).1 := congrArg Served.after served_e
  have hreply : e.reply = (servePty e.before e.call).2 := congrArg Served.reply served_e
  rcases hhow with ⟨hcall, hopen, hchild⟩ | ⟨status, hexit⟩ | ⟨text, hcall, hopen, hchild⟩ |
    ⟨text, hcall, hchild⟩
  · rw [hafter, hcall]
    simp [servePty, LocalPtySession.closeKilling, hopen, hchild]
  · by_cases hchild : e.before.child = false
    · rw [hafter]
      exact (taken_step hchild e.call).1
    · rw [hexit] at hreply
      rw [hafter]
      revert hreply
      cases e.call with
      | close kill => exact nofun
      | tryWaitExit observed =>
        cases observed <;> simp [servePty, LocalPtySession.tryWaitExit, hchild]
      | waitExit wait => cases wait <;> simp [servePty, LocalPtySession.waitReturned, hchild]
  · rw [hafter, hcall]
    simp [servePty, LocalPtySession.closeKilling, hopen, hchild]
  · rw [hafter, hcall]
    simp [servePty, LocalPtySession.waitReturned, hchild]

theorem close_of_closed (served_e : e = served servePty e.before e.call)
    {result : Except TerminalError Unit} (hreply : e.reply = .closed result) :
    ∃ kill, e.call = .close kill ∧ (e.before.closeKilling kill).2 = result := by
  have heq : e.reply = (servePty e.before e.call).2 := congrArg Served.reply served_e
  rw [hreply] at heq
  revert heq
  cases e.call with
  | close kill => exact fun heq => ⟨kill, rfl, (PtyReply.closed.inj heq).symm⟩
  | tryWaitExit status => exact nofun
  | waitExit wait => exact nofun

/-- A close is sound in a run exactly if no `kill` that it calls fails, and nobody closes the
    session any more once a `wait` has failed. -/
theorem close_sound_iff (h : PtyRun history session) :
    CloseSound history ↔ (∀ e ∈ history, ¬KillFails e) ∧
      ∀ front e back, history = front ++ e :: back → WaitFails e →
        ∀ d ∈ back, ∀ kill, d.call ≠ .close kill := by
  constructor
  · intro sound
    refine ⟨fun e he hfails => ?_, fun front e back hsplit hfails d hd kill hcall => ?_⟩
    · have htaken := child_after (h.of_mem he) (Or.inr (Or.inr (Or.inl hfails)))
      obtain ⟨text, hcall, hopen, hchild⟩ := hfails
      have hreply : e.reply = .closed (.error (.close text)) := by
        refine (congrArg Served.reply (h.of_mem he)).trans ?_
        simp [served, hcall, servePty, LocalPtySession.closeKilling, hopen, hchild,
          Except.mapError]
      obtain ⟨later, last, hlater, d, hd, hkills⟩ := sound.retry e he ⟨_, hreply⟩
      exact ((taken_run hlater htaken).2 d hd).1 hkills
    · obtain ⟨hfront, hserved, hback⟩ := h.split hsplit
      obtain ⟨middle, rest, rfl⟩ := List.append_of_mem hd
      obtain ⟨hmiddle, hclose, -⟩ := hback.split rfl
      have htaken := child_after hserved (Or.inr (Or.inr (Or.inr hfails)))
      have hlater := hmiddle.next d.call
      rw [← hclose] at hlater
      have hreply : d.reply = .closed (.ok ()) :=
        (congrArg Served.reply hclose).trans
          ((taken_step (taken_run hmiddle htaken).1 d.call).2.2.2 kill hcall)
      obtain ⟨c, hc, hgone⟩ := sound.gone (front ++ e :: middle) d rest
        (by rw [hsplit, List.append_assoc, List.cons_append]) hreply
      rw [List.append_assoc, List.mem_append, List.cons_append, List.mem_cons] at hc
      obtain ⟨text, hwait, hheld⟩ := hfails
      rcases hc with hc | rfl | hc
      · obtain ⟨earlier, between, rfl⟩ := List.append_of_mem hc
        obtain ⟨-, hserved, hbetween⟩ := hfront.split rfl
        have hchild := child_after hserved (hgone.imp_right Or.inl)
        exact Bool.noConfusion (hheld.symm.trans (taken_run hbetween hchild).1)
      · rcases hgone with ⟨hkill, -⟩ | ⟨status, hexit⟩
        · exact nomatch hkill.symm.trans hwait
        · have hreply := hexit.symm.trans (congrArg Served.reply hserved)
          simp [served, hwait, servePty, LocalPtySession.waitReturned, hheld] at hreply
      · have hnone := (taken_run hlater htaken).2 c hc
        exact hgone.elim hnone.1 hnone.2
  · rintro ⟨hkill, hwait⟩
    refine ⟨fun front e back hsplit hreply => ?_, fun e he hreply => ?_⟩
    · obtain ⟨hfront, hserved, -⟩ := h.split hsplit
      obtain ⟨kill, hcall, hresult⟩ := close_of_closed hserved hreply
      rcases PtyRun.held_or_taken hfront with hheld | ⟨-, d, hd, hhow⟩
      · rw [hheld] at hresult
        refine ⟨e, List.mem_append_right _ List.mem_cons_self, Or.inl ⟨?_, by rw [hheld]; rfl,
          by rw [hheld]; rfl⟩⟩
        cases kill with
        | ok u => exact hcall
        | error text => cases hresult
      · have hmem := List.mem_append_left [e] hd
        rcases hhow with hkills | hexit | hfails | hfails
        · exact ⟨d, hmem, Or.inl hkills⟩
        · exact ⟨d, hmem, Or.inr hexit⟩
        · exact absurd hfails (hkill d (by rw [hsplit]; exact List.mem_append_left _ hd))
        · obtain ⟨earlier, between, rfl⟩ := List.append_of_mem hd
          refine absurd hcall (hwait earlier d (between ++ e :: back) ?_ hfails e ?_ kill)
          · rw [hsplit, List.append_assoc, List.cons_append]
          · exact List.mem_append_right _ List.mem_cons_self
    · obtain ⟨error, hreply⟩ := hreply
      obtain ⟨kill, hcall, hresult⟩ := close_of_closed (h.of_mem he) hreply
      refine absurd ?_ (hkill e he)
      rw [LocalPtySession.closeKilling] at hresult
      split_ifs at hresult with hclosed hchild
      cases kill with
      | ok u => cases hresult
      | error text => exact ⟨text, hcall, by simpa using hclosed, hchild⟩

end Runs

/-- The shell is polled while it runs, and closed twice. -/
theorem close_sound_iff_polled : CloseSound (historyOf servePty .spawned
    [.tryWaitExit .running, .close (.ok ()), .close (.ok ())]) := by
  refine (close_sound_iff (Serves.ofCalls servePty .spawned _)).mpr ⟨?_, ?_⟩
  · rintro e he ⟨text, hcall, -⟩
    simp only [historyOf, List.mem_cons, List.not_mem_nil, or_false] at he
    rcases he with rfl | rfl | rfl <;> cases hcall
  · rintro front e back hsplit ⟨text, hcall, -⟩
    have he : e ∈ historyOf servePty .spawned
        [.tryWaitExit .running, .close (.ok ()), .close (.ok ())] := by
      rw [hsplit]
      exact List.mem_append_right _ List.mem_cons_self
    simp only [historyOf, List.mem_cons, List.not_mem_nil, or_false] at he
    rcases he with rfl | rfl | rfl <;> cases hcall

/-- After a kill that failed, and after a wait that failed, the next close succeeds, and nothing
    has killed the shell or seen it exit. -/
theorem close_forgets_child :
    ¬CloseSound (historyOf servePty .spawned [.close (.error "EPERM"), .close (.ok ())]) ∧
    ¬CloseSound (historyOf servePty .spawned [.waitExit (.error "EINTR"), .close (.ok ())]) := by
  constructor
  · intro sound
    obtain ⟨d, hd, hgone⟩ := sound.gone [_] _ [] rfl rfl
    simp only [List.cons_append, List.nil_append, List.mem_cons, List.not_mem_nil, or_false] at hd
    rcases hd with rfl | rfl
    · rcases hgone with ⟨hcall, -⟩ | ⟨status, hreply⟩
      · cases hcall
      · cases hreply
    · rcases hgone with ⟨-, hopen, -⟩ | ⟨status, hreply⟩
      · cases hopen
      · cases hreply
  · intro sound
    obtain ⟨d, hd, hgone⟩ := sound.gone [_] _ [] rfl rfl
    simp only [List.cons_append, List.nil_append, List.mem_cons, List.not_mem_nil, or_false] at hd
    rcases hd with rfl | rfl
    · rcases hgone with ⟨hcall, -⟩ | ⟨status, hreply⟩
      · cases hcall
      · cases hreply
    · rcases hgone with ⟨-, -, hheld⟩ | ⟨status, hreply⟩
      · cases hheld
      · cases hreply

end Sunbolt.Terminal
