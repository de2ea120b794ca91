/- Module: Sunbolt/Library/Alone
   scope: general
   digest: A program that runs from its first call to its end with no other task in between. -/

import Sunbolt.Library.Pool

set_option autoImplicit false
set_option relaxedAutoImplicit false

namespace Sunbolt.Library

namespace Service

variable {Sh A J C α β : Type} {R : A → Type}

/-- The program of task `i` runs alone from one shared state to another and ends in a value. -/
def Alone (S : Service Sh A R J C) (i : Nat) : Program A R α → Sh → Sh → α → Prop
  | .done value, sh, last, result => last = sh ∧ result = value
  | .call action resume, sh, last, result =>
    ∃ choice out, S.perform i sh action choice = some out ∧
      Alone S i (resume out.reply) out.shared last result

variable {S : Service Sh A R J C} {i : Nat} {sh last : Sh}

@[simp] theorem alone_pure {value result : α} :
    S.Alone i (pure value) sh last result ↔ last = sh ∧ result = value := Iff.rfl

@[simp] theorem alone_done {value result : α} :
    S.Alone i (.done value) sh last result ↔ last = sh ∧ result = value := Iff.rfl

/-- Two programs in a row: the second one starts where the first one ends. -/
@[simp] theorem alone_bind {p : Program A R α} {next : α → Program A R β} {result : β} :
    S.Alone i (p >>= next) sh last result ↔
      ∃ middle value, S.Alone i p sh middle value ∧ S.Alone i (next value) middle last result := by
  change S.Alone i (p.bind next) sh last result ↔ _
  induction p generalizing sh with
  | done value =>
    constructor
    · intro h
      exact ⟨sh, value, ⟨rfl, rfl⟩, h⟩
    · rintro ⟨middle, found, ⟨rfl, rfl⟩, h⟩
      exact h
  | call action resume ih =>
    constructor
    · rintro ⟨choice, out, hout, h⟩
      obtain ⟨middle, value, hfirst, hnext⟩ := (ih out.reply).mp h
      exact ⟨middle, value, ⟨choice, out, hout, hfirst⟩, hnext⟩
    · rintro ⟨middle, value, ⟨choice, out, hout, hfirst⟩, hnext⟩
      exact ⟨choice, out, hout, (ih out.reply).mpr ⟨middle, value, hfirst, hnext⟩⟩

/-- A program that ends in one way only, and the one after it. -/
theorem alone_then {p : Program A R α} {next : α → Program A R β} {only : α} {middle : Sh}
    {result : β} (h : ∀ left value, S.Alone i p sh left value ↔ value = only ∧ left = middle) :
    S.Alone i (p >>= next) sh last result ↔ S.Alone i (next only) middle last result := by
  rw [alone_bind]
  constructor
  · rintro ⟨left, value, hfirst, hnext⟩
    obtain ⟨rfl, rfl⟩ := (h left value).mp hfirst
    exact hnext
  · intro hnext
    exact ⟨middle, only, (h middle only).mpr ⟨rfl, rfl⟩, hnext⟩

theorem alone_perform {action : A} {result : R action} :
    S.Alone i (Program.perform action) sh last result ↔
      ∃ choice out, S.perform i sh action choice = some out ∧ last = out.shared ∧
        result = out.reply := Iff.rfl

/-! The same with the choices given. -/

/-- The program runs alone as before, and these are the choices that the environment makes. -/
def AloneWith (S : Service Sh A R J C) (i : Nat) :
    Program A R α → List C → Sh → Sh → α → Prop
  | .done value, choices, sh, last, result => choices = [] ∧ last = sh ∧ result = value
  | .call action resume, choices, sh, last, result =>
    ∃ choice rest out, choices = choice :: rest ∧ S.perform i sh action choice = some out ∧
      AloneWith S i (resume out.reply) rest out.shared last result

/-! As a run of the pool. -/

/-- The calls that a program makes with the given choices, up to one that starts a task. -/
def solo {E : Type} (S : Service Sh A R J E) (i : Nat) (origin : J) :
    Program A R (Option J) → Sh → List E →
      Option (Program A R (Option J) × Sh × List (Event Sh A R J))
  | p, sh, [] => some (p, sh, [])
  | .call action resume, sh, choice :: choices =>
    match S.perform i sh action choice with
    | some ⟨reply, shared, []⟩ =>
      (S.solo i origin (S.enter (resume reply)) shared choices).map (fun (p, last, events) =>
        (p, last, ⟨i, origin, action, reply, sh, shared, []⟩ :: events))
    | _ => none
  | .done _, _, _ :: _ => none

theorem solo_call {E : Type} {S : Service Sh A R J E} {origin : J} {action : A} {choice : E}
    {reply : R action} {shared : Sh} {resume : R action → Program A R (Option J)}
    {q : Program A R (Option J)} {choices : List E} {events : List (Event Sh A R J)}
    (hperform : S.perform i sh action choice = some ⟨reply, shared, []⟩)
    (rest : S.solo i origin (S.enter (resume reply)) shared choices = some (q, last, events)) :
    S.solo i origin (.call action resume) sh (choice :: choices) =
      some (q, last, ⟨i, origin, action, reply, sh, shared, []⟩ :: events) := by
  rw [solo, hperform]
  dsimp only
  rw [rest]
  rfl

/-- The newest task of a pool makes its calls while the other tasks wait. -/
theorem run_solo {E : Type} (entry : E → J) {origin : J} {tasks : List (Task A R J)}
    {p q : Program A R (Option J)} {choices : List C} {events : List (Event Sh A R J)}
    (h : S.solo tasks.length origin p sh choices = some (q, last, events)) :
    (S.machine entry).run ⟨sh, tasks ++ [⟨origin, p⟩]⟩ (choices.map (.move tasks.length)) =
      some (⟨last, tasks ++ [⟨origin, q⟩]⟩, events) := by
  induction choices generalizing p sh events with
  | nil =>
    cases h
    rfl
  | cons choice choices ih =>
    cases p with
    | done value => cases h
    | call action resume =>
      rw [solo] at h
      split at h
      · rename_i reply shared hperform
        obtain ⟨⟨q', last', later⟩, hlater, heq⟩ := Option.map_eq_some_iff.mp h
        cases heq
        rw [List.map_cons, Machine.run_cons]
        refine ⟨_, [⟨tasks.length, origin, action, reply, sh, shared, []⟩], later, ?_, ih hlater,
          rfl⟩
        simp [machine, moveTask, hperform]
      · cases h

end Service

end Sunbolt.Library
