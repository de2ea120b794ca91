/- Module: Sunbolt/Audit/Timestamps
   scope: sunbolt-audit/src/log.rs
   digest: Concurrent calls of `record`, and when the log's times are in order. -/

import Sunbolt.Audit.Chain
import Sunbolt.Library.Pool
import Mathlib.Algebra.Group.Nat.Defs

set_option autoImplicit false
set_option relaxedAutoImplicit false

namespace Sunbolt.Audit

open Sunbolt.Library

/-- `now_unix_secs`: whole seconds since the epoch, and zero before it. -/
def nowUnixSecs (system : Int) : UInt64 := UInt64.ofNat (system.toNat / 1000000000)

/-- What a call of `record` does in one step: it reads the clock, or it appends under the lock. -/
inductive RecordAction where
  | readClock
  | append (createdAt : UInt64) (input : AuditEventInput)

abbrev RecordReply : RecordAction → Type
  | .readClock => UInt64
  | .append _ _ => Unit

/-- The log, and the time in nanoseconds that the clock has last shown. -/
structure AuditShared where
  log : AuditLogState
  clock : Int

section Service

variable (sha256 : ByteArray → List UInt8)

/-- The clock does not go back, and a `Duration` counts its seconds in a `u64`. -/
def performRecord (shared : AuditShared) (action : RecordAction) (system : Int) :
    Option (Outcome AuditShared RecordAction RecordReply AuditEventInput action) :=
  match action with
  | .readClock =>
    if shared.clock ≤ system ∧ system.toNat / 1000000000 < 2 ^ 64 then
      some ⟨nowUnixSecs system, { shared with clock := system }, []⟩
    else none
  | .append createdAt input =>
    some ⟨(), { shared with log := shared.log.record sha256 createdAt input }, []⟩

/-- `AuditLog::record` -/
def record (input : AuditEventInput) : Program RecordAction RecordReply Unit := do
  let createdAt ← Program.perform (R := RecordReply) .readClock
  Program.perform (R := RecordReply) (.append createdAt input)

def auditService : Service AuditShared RecordAction RecordReply AuditEventInput Int where
  perform _ shared action system := performRecord sha256 shared action system
  body input := do
    record input
    return none

abbrev RecordEvent := Event AuditShared RecordAction RecordReply AuditEventInput

/-- The runs of any number of calls of `record`, with their steps in any order. -/
def AuditReaches (start : Int) (history : List RecordEvent)
    (pool : Pool AuditShared RecordAction RecordReply AuditEventInput) : Prop :=
  (auditService sha256).Reaches id ⟨.new, start⟩ history pool

end Service

/-- The times along the log. -/
def AuditLogState.times (log : AuditLogState) : List UInt64 :=
  log.events.map (·.createdAtUnixSecs)

/-- The second that this step has read from the clock. -/
def readAt (e : RecordEvent) : Option UInt64 :=
  match e.interaction with
  | ⟨.readClock, createdAt⟩ => some createdAt
  | _ => none

/-- The time with which this step has appended an event. -/
def appendedAt (e : RecordEvent) : Option UInt64 :=
  match e.action with
  | .append createdAt _ => some createdAt
  | .readClock => none

/-- Step `n` of the run is that of a call which reads this second from the clock. -/
def Reads (history : List RecordEvent) (n task : Nat) (createdAt : UInt64) : Prop :=
  ∃ e, history[n]? = some e ∧ e.task = task ∧ readAt e = some createdAt

/-- Step `n` of the run is that of a call which appends. -/
def Appends (history : List RecordEvent) (n task : Nat) : Prop :=
  ∃ e, history[n]? = some e ∧ e.task = task ∧ (appendedAt e).isSome = true

/-- A call is overtaken: after it has read the clock, another call reads a later second and
    appends first. -/
def Overtaken (history : List RecordEvent) : Prop :=
  ∃ (a b c d : Nat) (task other : Nat) (earlier later : UInt64), a < b ∧ b < c ∧ c < d ∧
    Reads history a task earlier ∧ Reads history b other later ∧ earlier < later ∧
    Appends history c other ∧ Appends history d task

/-! The order of the two steps of a call. -/

/-- A call reads the clock first, and appends with what it has read. -/
def recordAct (past : List (Interaction RecordAction RecordReply)) (action : RecordAction) :
    Prop :=
  match action with
  | .readClock => past = []
  | .append createdAt _ => past = [⟨.readClock, createdAt⟩]

def recordOrder : Discipline RecordAction RecordReply AuditEventInput :=
  ⟨fun _ => recordAct, fun _ _ past => past = [], fun _ _ => True⟩

theorem recordOrder_sound (sha256 : ByteArray → List UInt8) :
    recordOrder.Sound (auditService sha256) id where
  entered _ := rfl
  spawned {i shared action system out} hout stage hstage := by
    have hnone : out.spawned = [] := by
      change performRecord sha256 shared action system = some out at hout
      unfold performRecord at hout
      cases action with
      | readClock =>
        dsimp only at hout
        split_ifs at hout
        cases hout
        rfl
      | append createdAt input =>
        cases hout
        rfl
    rw [hnone] at hstage
    cases hstage
  body {origin input past} head := by
    obtain rfl : past = [] := head
    refine ⟨rfl, fun createdAt => ⟨rfl, fun _ => trivial⟩⟩

section Runs

variable {sha256 : ByteArray → List UInt8} {start : Int} {history : List RecordEvent}
  {pool : Pool AuditShared RecordAction RecordReply AuditEventInput}

/-- What holds of the states of a run: the log has what was appended, and the clock shows no
    less than what was read. -/
structure Timed (history : List RecordEvent) (shared : AuditShared) : Prop where
  appended : shared.log.times = history.filterMap appendedAt
  read : ∀ e ∈ history, ∀ createdAt, readAt e = some createdAt →
    createdAt.toNat ≤ shared.clock.toNat / 1000000000
  ordered : (history.filterMap readAt).Pairwise (· ≤ ·)

theorem toNat_nowUnixSecs {system : Int} (h : system.toNat / 1000000000 < 2 ^ 64) :
    (nowUnixSecs system).toNat = system.toNat / 1000000000 :=
  UInt64.toNat_ofNat_of_lt' h

theorem AuditReaches.timed (h : AuditReaches sha256 start history pool) :
    Timed history pool.shared := by
  refine (Service.Reaches.invariant (recordOrder_sound sha256) (I := Timed) ?_ ?_ h).2
  · exact ⟨rfl, fun e he => absurd he List.not_mem_nil, .nil⟩
  · intro history shared i origin action system out ih act hout
    change performRecord sha256 shared action system = some out at hout
    unfold performRecord at hout
    cases action with
    | readClock =>
      dsimp only at hout
      split_ifs at hout with henabled
      cases hout
      obtain ⟨hclock, hsecs⟩ := henabled
      have hread : (nowUnixSecs system).toNat = system.toNat / 1000000000 :=
        toNat_nowUnixSecs hsecs
      have hlater : shared.clock.toNat / 1000000000 ≤ system.toNat / 1000000000 := by omega
      constructor
      · rw [List.filterMap_append, ← ih.appended]
        exact (List.append_nil _).symm
      · intro e he createdAt hcreated
        rcases List.mem_append.mp he with he | he
        · exact (ih.read e he createdAt hcreated).trans hlater
        · rw [List.mem_singleton.mp he] at hcreated
          cases hcreated
          exact hread.le
      · rw [List.filterMap_append, List.pairwise_append]
        refine ⟨ih.ordered, List.pairwise_singleton _ _, ?_⟩
        intro earlier hearlier last hlast
        obtain ⟨e, he, hcreated⟩ := List.mem_filterMap.mp hearlier
        rw [List.mem_singleton.mp hlast, UInt64.le_iff_toNat_le]
        calc earlier.toNat
            ≤ shared.clock.toNat / 1000000000 := ih.read e he earlier hcreated
          _ ≤ system.toNat / 1000000000 := hlater
          _ = (nowUnixSecs system).toNat := hread.symm
    | append createdAt input =>
      cases hout
      constructor
      · rw [List.filterMap_append, ← ih.appended]
        exact List.map_append
      · intro e he createdAt hcreated
        rcases List.mem_append.mp he with he | he
        · exact ih.read e he createdAt hcreated
        · rw [List.mem_singleton.mp he] at hcreated
          cases hcreated
      · rw [List.filterMap_append]
        exact (List.append_nil _).symm ▸ ih.ordered

/-- Whoever appends has read its time before, and nothing else. -/
theorem AuditReaches.read_before (h : AuditReaches sha256 start history pool) {n : Nat}
    {e : RecordEvent} {createdAt : UInt64} (hget : history[n]? = some e)
    (happended : appendedAt e = some createdAt) :
    Service.own e.task (history.take n) = [⟨.readClock, createdAt⟩] := by
  obtain ⟨hn, rfl⟩ := List.getElem?_eq_some_iff.mp hget
  have hsplit : history = history.take n ++ history[n] :: history.drop (n + 1) := by
    rw [← List.drop_eq_getElem_cons hn, List.take_append_drop]
  have act := Service.Reaches.act (recordOrder_sound sha256) h hsplit
  change recordAct _ _ at act
  unfold appendedAt at happended
  split at happended
  · rename_i time input haction
    rw [haction] at act
    cases happended
    exact act
  · cases happended

theorem exists_read_before (h : AuditReaches sha256 start history pool) {n : Nat}
    {e : RecordEvent} {createdAt : UInt64} (hget : history[n]? = some e)
    (happended : appendedAt e = some createdAt) :
    ∃ m, m < n ∧ Reads history m e.task createdAt := by
  have hmem : (⟨.readClock, createdAt⟩ : Interaction RecordAction RecordReply) ∈
      Service.own e.task (history.take n) := by
    rw [h.read_before hget happended]
    exact List.mem_cons_self
  obtain ⟨d, hd, htask, hcall⟩ := Service.mem_own.mp hmem
  obtain ⟨m, hm⟩ := List.mem_iff_getElem?.mp hd
  rw [List.getElem?_take] at hm
  split_ifs at hm with hlt
  exact ⟨m, hlt, d, hm, htask, by rw [readAt, hcall]⟩

theorem appended_of_reads (h : AuditReaches sha256 start history pool) {m n task : Nat}
    {read : UInt64} (hlt : m < n) (hread : Reads history m task read)
    (happends : Appends history n task) :
    ∃ e, history[n]? = some e ∧ appendedAt e = some read := by
  obtain ⟨e, hget, rfl, hsome⟩ := happends
  obtain ⟨createdAt, happended⟩ := Option.isSome_iff_exists.mp hsome
  obtain ⟨d, hd, htask, hreadAt⟩ := hread
  refine ⟨e, hget, ?_⟩
  have hmem : d.interaction ∈ Service.own e.task (history.take n) := by
    have hfront : (history.take n)[m]? = some d := by
      rw [List.getElem?_take, if_pos hlt]
      exact hd
    exact Service.mem_own.mpr ⟨d, List.mem_of_getElem? hfront, htask, rfl⟩
  rw [h.read_before hget happended, List.mem_singleton] at hmem
  have hsame : some createdAt = some read := by
    rw [readAt, hmem] at hreadAt
    exact hreadAt
  rw [happended, hsame]

/-- The times along the log of a run are in order if and only if no call is overtaken. -/
theorem timestamps_ordered_iff (h : AuditReaches sha256 start history pool) :
    pool.shared.log.times.Pairwise (· ≤ ·) ↔ ¬Overtaken history := by
  have timed := h.timed
  rw [timed.appended, List.pairwise_filterMap, List.pairwise_iff_getElem]
  constructor
  · rintro sorted ⟨a, b, c, d, task, other, earlier, later, hab, hbc, hcd, hfirst, hsecond, hlt,
      hother, htask⟩
    obtain ⟨secondAppend, hc, hlater⟩ := appended_of_reads h hbc hsecond hother
    obtain ⟨firstAppend, hd, hearlier⟩ := appended_of_reads h (by omega) hfirst htask
    obtain ⟨hcl, rfl⟩ := List.getElem?_eq_some_iff.mp hc
    obtain ⟨hdl, rfl⟩ := List.getElem?_eq_some_iff.mp hd
    have hle : later ≤ earlier := sorted c d hcl hdl hcd later hlater earlier hearlier
    exact absurd hlt (UInt64.not_lt.mpr hle)
  · intro free c d hc hd hcd later hlater earlier hearlier
    by_contra hnot
    have hlt : earlier < later := UInt64.not_le.mp hnot
    obtain ⟨b, hbc, hsecond⟩ := exists_read_before h (List.getElem?_eq_getElem hc) hlater
    obtain ⟨a, had, hfirst⟩ := exists_read_before h (List.getElem?_eq_getElem hd) hearlier
    refine free ⟨a, b, c, d, _, _, earlier, later, ?_, hbc, hcd, hfirst, hsecond, hlt,
      ⟨_, List.getElem?_eq_getElem hc, rfl, by rw [hlater]; rfl⟩,
      ⟨_, List.getElem?_eq_getElem hd, rfl, by rw [hearlier]; rfl⟩⟩
    -- the clock does not go back, so the earlier second has been read first
    obtain ⟨second, hb, -, hsecondRead⟩ := hsecond
    obtain ⟨first, ha, -, hfirstRead⟩ := hfirst
    obtain ⟨hbl, rfl⟩ := List.getElem?_eq_some_iff.mp hb
    obtain ⟨hal, rfl⟩ := List.getElem?_eq_some_iff.mp ha
    have ordered := timed.ordered
    rw [List.pairwise_filterMap, List.pairwise_iff_getElem] at ordered
    rcases Nat.lt_trichotomy a b with hab | rfl | hba
    · exact hab
    · rw [hfirstRead, Option.some.injEq] at hsecondRead
      rw [hsecondRead] at hlt
      exact absurd hlt (UInt64.lt_irrefl later)
    · have hle : later ≤ earlier := ordered b a hbl hal hba later hsecondRead earlier hfirstRead
      exact absurd hle hnot

end Runs

section Samples

private def loginInput : AuditEventInput := ⟨.userLoginSuccess, some "admin@x", "ok"⟩

private def labelsFrom (steps : List (Label AuditEventInput Int)) :
    List (Label AuditEventInput Int) :=
  [.arrive loginInput, .arrive loginInput] ++ steps

/-- One call after the other. -/
private def inTurn : List (Label AuditEventInput Int) :=
  labelsFrom [.move 0 0, .move 0 0, .move 1 1000000000, .move 1 0]

/-- The second call reads the clock and appends between the two steps of the first one. -/
private def overtaking : List (Label AuditEventInput Int) :=
  labelsFrom [.move 0 0, .move 1 1000000000, .move 1 0, .move 0 0]

private def timesOf (labels : List (Label AuditEventInput Int)) : Option (List UInt64) :=
  (((auditService (fun _ => [])).machine id).run ⟨⟨.new, 0⟩, []⟩ labels).map
    (fun out => out.1.shared.log.times)

private theorem reaches_timesOf {labels : List (Label AuditEventInput Int)} {times : List UInt64}
    (h : timesOf labels = some times) :
    ∃ history pool, AuditReaches (fun _ => []) 0 history pool ∧ pool.shared.log.times = times := by
  obtain ⟨⟨pool, history⟩, hrun, htimes⟩ := Option.map_eq_some_iff.mp h
  exact ⟨history, pool, ⟨labels, hrun⟩, htimes⟩

private theorem timesOf_inTurn : timesOf inTurn = some [0, 1] := by decide +kernel

private theorem timesOf_overtaking : timesOf overtaking = some [1, 0] := by decide +kernel

theorem timestamps_ordered_in_turn : ∃ history pool, AuditReaches (fun _ => []) 0 history pool ∧
    pool.shared.log.times = [0, 1] ∧ ¬Overtaken history := by
  obtain ⟨history, pool, h, htimes⟩ := reaches_timesOf timesOf_inTurn
  refine ⟨history, pool, h, htimes, (timestamps_ordered_iff h).mp ?_⟩
  rw [htimes]
  decide

theorem timestamps_out_of_order : ∃ history pool, AuditReaches (fun _ => []) 0 history pool ∧
    pool.shared.log.times = [1, 0] ∧ ¬pool.shared.log.times.Pairwise (· ≤ ·) := by
  obtain ⟨history, pool, h, htimes⟩ := reaches_timesOf timesOf_overtaking
  refine ⟨history, pool, h, htimes, ?_⟩
  rw [htimes]
  decide

end Samples

end Sunbolt.Audit
