/- Module: Sunbolt/Library/Pool
   scope: general
   digest: Any number of programs interleaved over one shared state, call by call. -/

import Sunbolt.Library.Machine
import Sunbolt.Library.Program
import Mathlib.Data.List.Count
import Mathlib.Data.List.GetD

set_option autoImplicit false
set_option relaxedAutoImplicit false

namespace Sunbolt.Library

/-- What one call does: the reply, the new shared state and the stages it starts as new tasks. -/
structure Outcome (Sh : Type) (A : Type) (R : A → Type) (J : Type) (action : A) where
  reply : R action
  shared : Sh
  spawned : List J

/-- A shared state with its calls, and the program of each stage. A call is not enabled where
    `perform` is `none`; what the environment decides about it is the choice `C`. A program
    ends in the stage its task goes on with, if any. -/
structure Service (Sh : Type) (A : Type) (R : A → Type) (J : Type) (C : Type) where
  perform : Nat → Sh → (action : A) → C → Option (Outcome Sh A R J action)
  body : J → Program A R (Option J)

/-- One call of a run, between the shared states it found and left. -/
structure Event (Sh : Type) (A : Type) (R : A → Type) (J : Type) where
  task : Nat
  origin : J
  action : A
  reply : R action
  before : Sh
  after : Sh
  spawned : List J

namespace Event

variable {Sh A J : Type} {R : A → Type}

def interaction (e : Event Sh A R J) : Interaction A R := ⟨e.action, e.reply⟩

end Event

structure Task (A : Type) (R : A → Type) (J : Type) where
  origin : J
  program : Program A R (Option J)

structure Pool (Sh : Type) (A : Type) (R : A → Type) (J : Type) where
  shared : Sh
  tasks : List (Task A R J)

/-- A new task arrives at a stage, or a task makes its next call. -/
inductive Label (E C : Type) where
  | arrive (entry : E)
  | move (task : Nat) (choice : C)

namespace Service

variable {Sh A J C E : Type} {R : A → Type}

/-- A program that ended in a stage goes on with that stage's body. -/
def enter (S : Service Sh A R J C) : Program A R (Option J) → Program A R (Option J)
  | .done (some stage) => S.body stage
  | p => p

def start (S : Service Sh A R J C) (origin : J) : Task A R J := ⟨origin, S.body origin⟩

def moveTask (S : Service Sh A R J C) (pool : Pool Sh A R J) (i : Nat) (choice : C) :
    Option (Pool Sh A R J × List (Event Sh A R J)) :=
  match pool.tasks[i]? with
  | some ⟨origin, .call action resume⟩ =>
    match S.perform i pool.shared action choice with
    | some out =>
      some (⟨out.shared, pool.tasks.set i ⟨origin, S.enter (resume out.reply)⟩ ++
          out.spawned.map S.start⟩,
        [⟨i, origin, action, out.reply, pool.shared, out.shared, out.spawned⟩])
    | none => none
  | _ => none

/-- The machine of all interleavings; `entry` says where the environment may start tasks. -/
def machine (S : Service Sh A R J C) (entry : E → J) :
    Machine (Pool Sh A R J) (Label E C) (Event Sh A R J) where
  step pool
    | .arrive e => some (⟨pool.shared, pool.tasks ++ [S.start (entry e)]⟩, [])
    | .move i choice => S.moveTask pool i choice

/-- The calls of one task, in order. -/
def own (i : Nat) (history : List (Event Sh A R J)) : List (Interaction A R) :=
  (history.filter (fun e => e.task == i)).map Event.interaction

@[simp] theorem own_nil (i : Nat) : own i ([] : List (Event Sh A R J)) = [] := rfl

theorem own_append_same (history : List (Event Sh A R J)) (e : Event Sh A R J) :
    own e.task (history ++ [e]) = own e.task history ++ [e.interaction] := by
  simp [own]

theorem own_append_other {i : Nat} (history : List (Event Sh A R J)) {e : Event Sh A R J}
    (h : e.task ≠ i) : own i (history ++ [e]) = own i history := by
  simp [own, h]

theorem mem_own {i : Nat} {history : List (Event Sh A R J)} {x : Interaction A R} :
    x ∈ own i history ↔ ∃ e ∈ history, e.task = i ∧ e.interaction = x := by
  simp [own, and_assoc]

/-- Where a task stood is where the history stood. -/
theorem split_of_own {i : Nat} {history : List (Event Sh A R J)}
    {early late : List (Interaction A R)} {x : Interaction A R}
    (h : own i history = early ++ x :: late) :
    ∃ front e back, history = front ++ e :: back ∧ e.task = i ∧ e.interaction = x ∧
      own i front = early ∧ own i back = late := by
  rw [own, List.map_eq_append_iff] at h
  obtain ⟨first, rest, hfilter, hearly, hrest⟩ := h
  obtain ⟨e, others, rfl, rfl, hothers⟩ := List.map_eq_cons_iff.mp hrest
  obtain ⟨front, later, rfl, hfront, hlater⟩ := List.filter_eq_append_iff.mp hfilter
  obtain ⟨skipped, back, rfl, hskipped, htask, hback⟩ := List.filter_eq_cons_iff.mp hlater
  refine ⟨front ++ skipped, e, back, by simp, by simpa using htask, rfl, ?_, ?_⟩
  · rw [own, List.filter_append, hfront, List.filter_eq_nil_iff.mpr hskipped, List.append_nil,
      hearly]
  · rw [own, hback, hothers]

/-- A call that a task makes only where it has made none of its kind is its only one. -/
theorem eq_of_task {K : A → Prop} {history : List (Event Sh A R J)}
    {d e : Event Sh A R J} (hd : d ∈ history) (he : e ∈ history) (kind : K d.action)
    (kind' : K e.action) (same : d.task = e.task)
    (first : ∀ {front c back}, history = front ++ c :: back → c.task = e.task → K c.action →
      ∀ x ∈ own c.task front, ¬K x.action) : d = e := by
  obtain ⟨front, back, hsplit⟩ := List.append_of_mem he
  have hcases := hd
  rw [hsplit] at hcases
  rcases List.mem_append.mp hcases with hfront | hrest
  · have hmem : d.interaction ∈ own e.task front := mem_own.mpr ⟨d, hfront, same, rfl⟩
    exact absurd kind (first hsplit rfl kind' _ hmem)
  rcases List.mem_cons.mp hrest with rfl | hback
  · rfl
  · obtain ⟨between, later, rfl⟩ := List.append_of_mem hback
    have hsplit' : history = (front ++ e :: between) ++ d :: later := by simp [hsplit]
    have hmem : e.interaction ∈ own d.task (front ++ e :: between) :=
      mem_own.mpr ⟨e, by simp, same.symm, rfl⟩
    exact absurd kind' (first hsplit' same kind _ hmem)

/-- What one label does: a task arrives, or one enabled call is made. -/
theorem machine_step (S : Service Sh A R J C) (entry : E → J) {pool next : Pool Sh A R J}
    {l : Label E C} {now : List (Event Sh A R J)}
    (h : (S.machine entry).step pool l = some (next, now)) :
    (∃ e, l = .arrive e ∧ now = [] ∧
      next = ⟨pool.shared, pool.tasks ++ [S.start (entry e)]⟩) ∨
    (∃ i choice origin action resume out, l = .move i choice ∧
      pool.tasks[i]? = some ⟨origin, .call action resume⟩ ∧
      S.perform i pool.shared action choice = some out ∧
      now = [⟨i, origin, action, out.reply, pool.shared, out.shared, out.spawned⟩] ∧
      next = ⟨out.shared, pool.tasks.set i ⟨origin, S.enter (resume out.reply)⟩ ++
        out.spawned.map S.start⟩) := by
  cases l with
  | arrive e =>
    simp only [machine, Option.some.injEq, Prod.mk.injEq] at h
    exact Or.inl ⟨e, rfl, h.2.symm, h.1.symm⟩
  | move i choice =>
    simp only [machine, moveTask] at h
    split at h
    · rename_i origin action resume htask
      split at h
      · rename_i out hout
        simp only [Option.some.injEq, Prod.mk.injEq] at h
        exact Or.inr ⟨i, choice, origin, action, resume, out, rfl, htask, hout, h.2.symm,
          h.1.symm⟩
      · cases h
    · cases h

end Service

/-- Facts about program order: what holds of each call given its task's earlier calls, of each
    stage a task goes on with, and of a task that has ended. -/
structure Discipline (A : Type) (R : A → Type) (J : Type) where
  act : J → List (Interaction A R) → A → Prop
  head : J → J → List (Interaction A R) → Prop
  halt : J → List (Interaction A R) → Prop

namespace Discipline

variable {Sh A J C E : Type} {R : A → Type}

def post (D : Discipline A R J) (origin : J) (past : List (Interaction A R)) :
    Option J → Prop
  | none => D.halt origin past
  | some stage => D.head origin stage past

/-- The bodies keep the discipline, one body at a time. -/
structure Sound (D : Discipline A R J) (S : Service Sh A R J C) (entry : E → J) : Prop where
  entered : ∀ e, D.head (entry e) (entry e) []
  spawned : ∀ {i sh action choice out}, S.perform i sh action choice = some out →
    ∀ stage ∈ out.spawned, D.head stage stage []
  body : ∀ {origin stage past}, D.head origin stage past →
    (S.body stage).All (D.act origin) past (D.post origin)

/-- What a disciplined run has kept so far. -/
structure Holds (D : Discipline A R J) (history : List (Event Sh A R J))
    (pool : Pool Sh A R J) : Prop where
  task : ∀ {i : Nat} {t : Task A R J}, pool.tasks[i]? = some t →
    t.program.All (D.act t.origin) (Service.own i history) (D.post t.origin)
  known : ∀ e ∈ history, ∃ t, pool.tasks[e.task]? = some t ∧ t.origin = e.origin

variable {D : Discipline A R J} {S : Service Sh A R J C} {entry : E → J}

/-- Two disciplines kept at once. -/
def and (D D' : Discipline A R J) : Discipline A R J where
  act origin past action := D.act origin past action ∧ D'.act origin past action
  head origin stage past := D.head origin stage past ∧ D'.head origin stage past
  halt origin past := D.halt origin past ∧ D'.halt origin past

/-- A second discipline may use what the first one knows where a body starts. -/
theorem Sound.and {D' : Discipline A R J} (sound : D.Sound S entry)
    (entered : ∀ e, D'.head (entry e) (entry e) [])
    (spawned : ∀ {i sh action choice out}, S.perform i sh action choice = some out →
      ∀ stage ∈ out.spawned, D'.head stage stage [])
    (body : ∀ {origin stage past}, D.head origin stage past → D'.head origin stage past →
      (S.body stage).All (D'.act origin) past (D'.post origin)) :
    (D.and D').Sound S entry where
  entered e := ⟨sound.entered e, entered e⟩
  spawned hout stage hstage := ⟨sound.spawned hout stage hstage, spawned hout stage hstage⟩
  body {origin stage past} head := by
    refine ((sound.body head.1).and (body head.1 head.2)).mono (fun later next hnext => ?_)
    cases next with
    | none => exact hnext
    | some stage => exact hnext

private theorem all_enter (sound : D.Sound S entry) {origin : J}
    {p : Program A R (Option J)} {past : List (Interaction A R)}
    (h : p.All (D.act origin) past (D.post origin)) :
    (S.enter p).All (D.act origin) past (D.post origin) := by
  cases p with
  | done next =>
    cases next with
    | none => exact h
    | some stage => exact sound.body h
  | call action resume => exact h

private theorem own_eq_nil {history : List (Event Sh A R J)} {pool : Pool Sh A R J}
    (h : D.Holds history pool) {i : Nat} (hi : pool.tasks.length ≤ i) :
    Service.own i history = [] := by
  rw [List.eq_nil_iff_forall_not_mem]
  intro x hx
  obtain ⟨e, he, rfl, -⟩ := Service.mem_own.mp hx
  obtain ⟨t, ht, -⟩ := h.known e he
  rw [List.getElem?_eq_none hi] at ht
  cases ht

private theorem task_append (sound : D.Sound S entry) {history : List (Event Sh A R J)}
    {tasks : List (Task A R J)} {stages : List J}
    (old : ∀ {i : Nat} {t : Task A R J}, tasks[i]? = some t →
      t.program.All (D.act t.origin) (Service.own i history) (D.post t.origin))
    (fresh : ∀ i, tasks.length ≤ i → Service.own i history = [])
    (heads : ∀ stage ∈ stages, D.head stage stage [])
    {i : Nat} {t : Task A R J} (ht : (tasks ++ stages.map S.start)[i]? = some t) :
    t.program.All (D.act t.origin) (Service.own i history) (D.post t.origin) := by
  rcases Nat.lt_or_ge i tasks.length with hi | hi
  · rw [List.getElem?_append_left hi] at ht
    exact old ht
  · rw [List.getElem?_append_right hi, List.getElem?_map, Option.map_eq_some_iff] at ht
    obtain ⟨stage, hstage, rfl⟩ := ht
    rw [fresh i hi]
    exact sound.body (heads stage (List.mem_of_getElem? hstage))

private theorem known_append {history : List (Event Sh A R J)}
    {tasks tasks' : List (Task A R J)}
    (old : ∀ e ∈ history, ∃ t, tasks[e.task]? = some t ∧ t.origin = e.origin)
    (keep : ∀ {i : Nat} {t : Task A R J}, tasks[i]? = some t →
      ∃ t', tasks'[i]? = some t' ∧ t'.origin = t.origin) :
    ∀ e ∈ history, ∃ t, tasks'[e.task]? = some t ∧ t.origin = e.origin := by
  intro e he
  obtain ⟨t, ht, horigin⟩ := old e he
  obtain ⟨t', ht', horigin'⟩ := keep ht
  exact ⟨t', ht', horigin'.trans horigin⟩

private theorem holds_arrive (sound : D.Sound S entry) {history : List (Event Sh A R J)}
    {pool : Pool Sh A R J} (h : D.Holds history pool) (e : E) :
    D.Holds history ⟨pool.shared, pool.tasks ++ [S.start (entry e)]⟩ where
  task ht := by
    have heads : ∀ stage ∈ [entry e], D.head stage stage [] := by simpa using sound.entered e
    exact task_append sound h.task (fun _ => own_eq_nil h) heads ht
  known := known_append h.known (fun {i t} ht =>
    ⟨t, (List.getElem?_append_left (List.getElem?_eq_some_iff.mp ht).1).trans ht, rfl⟩)

private theorem holds_move (sound : D.Sound S entry) {history : List (Event Sh A R J)}
    {pool : Pool Sh A R J} (h : D.Holds history pool) {i : Nat} {choice : C} {origin : J}
    {action : A} {resume : R action → Program A R (Option J)} {out : Outcome Sh A R J action}
    (htask : pool.tasks[i]? = some ⟨origin, .call action resume⟩)
    (hout : S.perform i pool.shared action choice = some out) :
    D.Holds (history ++
        [⟨i, origin, action, out.reply, pool.shared, out.shared, out.spawned⟩])
      ⟨out.shared, pool.tasks.set i ⟨origin, S.enter (resume out.reply)⟩ ++
        out.spawned.map S.start⟩ := by
  have hi : i < pool.tasks.length := (List.getElem?_eq_some_iff.mp htask).1
  constructor
  · intro j t ht
    refine task_append sound ?_ ?_ (sound.spawned hout) ht
    · intro j t ht
      by_cases hj : i = j
      · subst hj
        rw [List.getElem?_set_self hi, Option.some.injEq] at ht
        subst ht
        rw [Service.own_append_same history ⟨i, origin, action, out.reply, _, _, _⟩]
        exact all_enter sound ((h.task htask).2 out.reply)
      · rw [List.getElem?_set_ne hj] at ht
        rw [Service.own_append_other history hj]
        exact h.task ht
    · intro j hj
      rw [List.length_set] at hj
      rw [Service.own_append_other history (show i ≠ j by omega)]
      exact own_eq_nil h hj
  · have keep : ∀ {j : Nat} {t : Task A R J}, pool.tasks[j]? = some t →
        ∃ t', (pool.tasks.set i ⟨origin, S.enter (resume out.reply)⟩ ++
          out.spawned.map S.start)[j]? = some t' ∧ t'.origin = t.origin := by
      intro j t ht
      have hj : j < pool.tasks.length := (List.getElem?_eq_some_iff.mp ht).1
      rw [List.getElem?_append_left (by simpa using hj)]
      by_cases hij : i = j
      · subst hij
        rw [htask, Option.some.injEq] at ht
        subst ht
        exact ⟨_, List.getElem?_set_self hi, rfl⟩
      · exact ⟨t, (List.getElem?_set_ne hij).trans ht, rfl⟩
    intro e he
    rcases List.mem_append.mp he with he | he
    · exact known_append h.known keep e he
    · rw [List.mem_singleton] at he
      subst he
      exact keep htask

end Discipline

namespace Service

variable {Sh A J C E : Type} {R : A → Type}

/-- Some interleaving from the shared state `sh`, with no task yet, makes exactly the calls of
    `history` and leaves `pool`. -/
def Reaches (S : Service Sh A R J C) (entry : E → J) (sh : Sh)
    (history : List (Event Sh A R J)) (pool : Pool Sh A R J) : Prop :=
  ∃ ls, (S.machine entry).run ⟨sh, []⟩ ls = some (pool, history)

variable {S : Service Sh A R J C} {entry : E → J} {sh : Sh}

/-- The invariant rule for shared states: a disciplined call preserves the invariant. -/
theorem Reaches.invariant {D : Discipline A R J} (sound : D.Sound S entry)
    {I : List (Event Sh A R J) → Sh → Prop} (initial : I [] sh)
    (preserved : ∀ {history sh i origin action choice} {out : Outcome Sh A R J action},
      I history sh → D.act origin (own i history) action →
      S.perform i sh action choice = some out →
      I (history ++ [⟨i, origin, action, out.reply, sh, out.shared, out.spawned⟩]) out.shared)
    {history : List (Event Sh A R J)} {pool : Pool Sh A R J}
    (h : S.Reaches entry sh history pool) : D.Holds history pool ∧ I history pool.shared := by
  obtain ⟨ls, hrun⟩ := h
  refine Machine.invariant (I := fun history pool => D.Holds history pool ∧
    I history pool.shared) ⟨⟨?_, ?_⟩, initial⟩ ?_ hrun
  · intro i t ht
    simp at ht
  · intro e he
    cases he
  · rintro history pool l next now ⟨holds, inv⟩ hstep
    rcases S.machine_step entry hstep with ⟨e, -, rfl, rfl⟩ |
      ⟨i, choice, origin, action, resume, out, -, htask, hout, rfl, rfl⟩
    · rw [List.append_nil]
      exact ⟨Discipline.holds_arrive sound holds e, inv⟩
    · exact ⟨Discipline.holds_move sound holds htask hout,
        preserved inv (holds.task htask).1 hout⟩

/-- The invariant rule where nothing is known about the order of the calls. -/
theorem Reaches.invariant_of_calls {I : List (Event Sh A R J) → Sh → Prop} (initial : I [] sh)
    (preserved : ∀ {history sh i origin action choice} {out : Outcome Sh A R J action},
      I history sh → S.perform i sh action choice = some out →
      I (history ++ [⟨i, origin, action, out.reply, sh, out.shared, out.spawned⟩]) out.shared)
    {history : List (Event Sh A R J)} {pool : Pool Sh A R J}
    (h : S.Reaches entry sh history pool) : I history pool.shared := by
  let D : Discipline A R J := ⟨fun _ _ _ => True, fun _ _ _ => True, fun _ _ => True⟩
  have sound : D.Sound S entry := by
    refine ⟨fun _ => trivial, fun _ _ _ => trivial, fun _ => ?_⟩
    refine Program.all_of_forall (fun _ _ => trivial) (fun _ next => ?_)
    cases next <;> trivial
  exact (h.invariant sound initial (fun inv _ hout => preserved inv hout)).2

/-- A run keeps a sound discipline. -/
theorem Reaches.holds {D : Discipline A R J} (sound : D.Sound S entry)
    {history : List (Event Sh A R J)} {pool : Pool Sh A R J}
    (h : S.Reaches entry sh history pool) : D.Holds history pool :=
  (h.invariant sound (I := fun _ _ => True) trivial (fun _ _ _ => trivial)).1

/-- A task has one origin. -/
theorem Reaches.origin {D : Discipline A R J} (sound : D.Sound S entry)
    {history : List (Event Sh A R J)} {pool : Pool Sh A R J}
    (h : S.Reaches entry sh history pool) {e other : Event Sh A R J} (he : e ∈ history)
    (hother : other ∈ history) (same : e.task = other.task) : e.origin = other.origin := by
  have holds := h.holds sound
  obtain ⟨t, ht, horigin⟩ := holds.known e he
  obtain ⟨t', ht', horigin'⟩ := holds.known other hother
  rw [same, ht'] at ht
  cases ht
  exact horigin.symm.trans horigin'

/-- What a sound discipline says of a task that has ended. -/
theorem Reaches.halted {D : Discipline A R J} (sound : D.Sound S entry)
    {history : List (Event Sh A R J)} {pool : Pool Sh A R J}
    (h : S.Reaches entry sh history pool) {e : Event Sh A R J} (he : e ∈ history) {origin : J}
    (ended : pool.tasks[e.task]? = some ⟨origin, .done none⟩) :
    D.halt e.origin (own e.task history) := by
  have holds := h.holds sound
  obtain ⟨t, ht, horigin⟩ := holds.known e he
  rw [ended] at ht
  cases ht
  exact horigin ▸ holds.task ended

/-- Where a call of a run stands: the calls before it are a run, it is an enabled call of the
    state they leave, and with it they are a run again. -/
theorem Reaches.call {history : List (Event Sh A R J)} {pool : Pool Sh A R J}
    (h : S.Reaches entry sh history pool) {front back : List (Event Sh A R J)}
    {e : Event Sh A R J} (hsplit : history = front ++ e :: back) :
    ∃ before after choice resume,
      S.Reaches entry sh front before ∧ before.shared = e.before ∧
      before.tasks[e.task]? = some ⟨e.origin, .call e.action resume⟩ ∧
      S.perform e.task e.before e.action choice = some ⟨e.reply, e.after, e.spawned⟩ ∧
      S.Reaches entry sh (front ++ [e]) after ∧ after.shared = e.after := by
  obtain ⟨ls, hrun⟩ := h
  induction ls using List.reverseRecOn generalizing history pool back with
  | nil =>
    simp only [Machine.run_nil, Option.some.injEq, Prod.mk.injEq] at hrun
    rw [hsplit] at hrun
    simp at hrun
  | append_singleton ls l ih =>
    obtain ⟨middle, early, late, hfront, hstep, rfl⟩ := (Machine.run_snoc _).mp hrun
    rcases S.machine_step entry hstep with ⟨e', -, rfl, rfl⟩ |
      ⟨i, choice, origin, action, resume, out, -, htask, hout, rfl, rfl⟩
    · rw [List.append_nil] at hsplit
      exact ih hsplit hfront
    · rcases List.eq_nil_or_concat back with rfl | ⟨back, last, rfl⟩
      · obtain ⟨rfl, hlast⟩ := List.append_inj' hsplit rfl
        rw [List.singleton_inj] at hlast
        subst hlast
        exact ⟨middle, _, choice, resume, ⟨ls, hfront⟩, rfl, htask, hout, ⟨ls ++ [l], hrun⟩, rfl⟩
      · rw [List.concat_eq_append, ← List.cons_append, ← List.append_assoc] at hsplit
        exact ih (List.append_inj' hsplit rfl).1 hfront

/-- What a sound discipline says of a call holds of every call of a run. -/
theorem Reaches.act {D : Discipline A R J} (sound : D.Sound S entry)
    {history : List (Event Sh A R J)} {pool : Pool Sh A R J} (h : S.Reaches entry sh history pool)
    {front back : List (Event Sh A R J)} {e : Event Sh A R J}
    (hsplit : history = front ++ e :: back) : D.act e.origin (own e.task front) e.action := by
  obtain ⟨before, after, choice, resume, hfront, -, htask, -⟩ := h.call hsplit
  exact ((hfront.holds sound).task htask).1

/-- The shared state is the one the last call left. -/
theorem Reaches.shared_eq {history : List (Event Sh A R J)} {pool : Pool Sh A R J}
    (h : S.Reaches entry sh history pool) :
    pool.shared = (history.getLast?.map (·.after)).getD sh := by
  obtain ⟨ls, hrun⟩ := h
  refine Machine.invariant (I := fun history pool =>
    pool.shared = (history.getLast?.map (·.after)).getD sh) rfl ?_ hrun
  rintro history pool l next now heq hstep
  rcases S.machine_step entry hstep with ⟨e, -, rfl, rfl⟩ |
    ⟨i, choice, origin, action, resume, out, -, -, -, rfl, rfl⟩
  · simpa using heq
  · simp

/-- What held where a call was made still holds, if that call and the later ones preserve it. -/
theorem Reaches.preserved {P : Sh → Prop} {Q : A → Prop}
    (step : ∀ {i sh action choice} {out : Outcome Sh A R J action}, P sh → Q action →
      S.perform i sh action choice = some out → P out.shared)
    {history : List (Event Sh A R J)} {pool : Pool Sh A R J} (h : S.Reaches entry sh history pool)
    {front back : List (Event Sh A R J)} {e : Event Sh A R J}
    (hsplit : history = front ++ e :: back) (quiet : ∀ d ∈ e :: back, Q d.action)
    (held : P e.before) : P pool.shared := by
  obtain ⟨ls, hrun⟩ := h
  refine Machine.invariant (I := fun history pool => ∀ front e back, history = front ++ e :: back →
    (∀ d ∈ e :: back, Q d.action) → P e.before → P pool.shared) ?_ ?_ hrun front e back hsplit
    quiet held
  · intro front e back hsplit
    exact absurd hsplit.symm (by simp)
  · rintro history pool l next now ih hstep front e back hsplit quiet held
    rcases S.machine_step entry hstep with ⟨e', -, rfl, rfl⟩ |
      ⟨i, choice, origin, action, resume, out, -, -, hout, rfl, rfl⟩
    · rw [List.append_nil] at hsplit
      exact ih front e back hsplit quiet held
    · rcases List.eq_nil_or_concat back with rfl | ⟨rest, last, rfl⟩
      · obtain ⟨-, hlast⟩ := List.append_inj' hsplit rfl
        rw [List.singleton_inj] at hlast
        subst hlast
        exact step held (quiet _ List.mem_cons_self) hout
      · rw [List.concat_eq_append, ← List.cons_append] at hsplit quiet
        rw [← List.append_assoc] at hsplit
        have hnow := quiet last (List.mem_append_right _ List.mem_cons_self)
        obtain ⟨hfront, hlast⟩ := List.append_inj' hsplit rfl
        rw [List.singleton_inj] at hlast
        subst hlast
        have hbefore : P pool.shared :=
          ih front e rest hfront (fun d hd => quiet d (List.mem_append_left _ hd)) held
        exact step hbefore hnow hout

/-- Tasks of a kind the environment does not start are exactly those that calls started. -/
theorem Reaches.count_origin {p : J → Bool} (hentry : ∀ e, p (entry e) = false)
    {history : List (Event Sh A R J)} {pool : Pool Sh A R J}
    (h : S.Reaches entry sh history pool) :
    pool.tasks.countP (fun t => p t.origin) = (history.flatMap (·.spawned)).countP p := by
  obtain ⟨ls, hrun⟩ := h
  refine Machine.invariant (I := fun history pool => pool.tasks.countP (fun t => p t.origin) =
    (history.flatMap (·.spawned)).countP p) rfl ?_ hrun
  rintro history pool l next now heq hstep
  have fresh : ∀ stages : List J,
      (stages.map S.start).countP (fun t => p t.origin) = stages.countP p :=
    fun stages => by rw [List.countP_map]; rfl
  rcases S.machine_step entry hstep with ⟨e, -, rfl, rfl⟩ |
    ⟨i, choice, origin, action, resume, out, -, htask, hout, rfl, rfl⟩
  · have hnew : p (S.start (entry e)).origin = false := hentry e
    simp [heq, hnew]
  · obtain ⟨hi, hget⟩ := List.getElem?_eq_some_iff.mp htask
    have hset : (pool.tasks.set i ⟨origin, S.enter (resume out.reply)⟩).countP
        (fun t => p t.origin) = pool.tasks.countP (fun t => p t.origin) := by
      rw [List.countP_set hi, hget]
      by_cases hp : p origin
      · have hpos : 0 < pool.tasks.countP (fun t => p t.origin) :=
          List.countP_pos_iff.mpr ⟨_, List.getElem_mem hi, by rw [hget]; exact hp⟩
        simp only [hp, if_true]
        omega
      · simp [hp]
    rw [List.countP_append, hset, fresh, heq, List.flatMap_append, List.countP_append]
    simp

end Service

end Sunbolt.Library
