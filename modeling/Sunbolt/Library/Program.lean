/- Module: Sunbolt/Library/Program
   scope: general
   digest: Programs as trees of calls, and facts about every call along every path of one. -/

import Mathlib.Data.List.Basic
import Mathlib.Tactic.SplitIfs

set_option autoImplicit false
set_option relaxedAutoImplicit false

namespace Sunbolt.Library

universe u

/-- A sequential program: it stops with a value or calls an action and goes on with the reply. -/
inductive Program (A : Type) (R : A → Type) (α : Type u) : Type (max u 0)
  | done (value : α)
  | call (action : A) (resume : R action → Program A R α)

/-- One action of a program together with the reply it got. -/
structure Interaction (A : Type) (R : A → Type) where
  action : A
  reply : R action

namespace Program

variable {A : Type} {R : A → Type} {α β : Type}

def bind (p : Program A R α) (next : α → Program A R β) : Program A R β :=
  match p with
  | .done value => next value
  | .call action resume => .call action (fun reply => (resume reply).bind next)

instance : Monad (Program A R) where
  pure := .done
  bind := bind

/-- A program of one action. -/
def perform (action : A) : Program A R (R action) := .call action .done

/-- Every call along every path satisfies `Act` at the interactions before it, and what the
    path ends in satisfies `Post` at all of them. -/
def All (Act : List (Interaction A R) → A → Prop) :
    Program A R α → List (Interaction A R) → (List (Interaction A R) → α → Prop) → Prop
  | .done value, past, Post => Post past value
  | .call action resume, past, Post =>
    Act past action ∧ ∀ reply, (resume reply).All Act (past ++ [⟨action, reply⟩]) Post

variable {Act : List (Interaction A R) → A → Prop} {past : List (Interaction A R)}

@[simp] theorem all_pure (value : α) (Post : List (Interaction A R) → α → Prop) :
    (pure value : Program A R α).All Act past Post ↔ Post past value := Iff.rfl

@[simp] theorem all_done (value : α) (Post : List (Interaction A R) → α → Prop) :
    (done value : Program A R α).All Act past Post ↔ Post past value := Iff.rfl

@[simp] theorem all_call (action : A) (resume : R action → Program A R α)
    (Post : List (Interaction A R) → α → Prop) :
    (call action resume).All Act past Post ↔
      Act past action ∧ ∀ reply, (resume reply).All Act (past ++ [⟨action, reply⟩]) Post :=
  Iff.rfl

@[simp] theorem all_bind (p : Program A R α) (next : α → Program A R β)
    (Post : List (Interaction A R) → β → Prop) :
    (p >>= next).All Act past Post ↔
      p.All Act past (fun past value => (next value).All Act past Post) := by
  change (p.bind next).All Act past Post ↔ _
  induction p generalizing past with
  | done value => exact Iff.rfl
  | call action resume ih =>
    simp only [bind, All, ih]

@[simp] theorem all_ite (c : Prop) [Decidable c] (p q : Program A R α)
    (Post : List (Interaction A R) → α → Prop) :
    (if c then p else q).All Act past Post ↔
      (c → p.All Act past Post) ∧ (¬c → q.All Act past Post) := by
  split_ifs with h <;> simp [h]

theorem All.mono {p : Program A R α} {Post Post' : List (Interaction A R) → α → Prop}
    (h : p.All Act past Post) (himp : ∀ past value, Post past value → Post' past value) :
    p.All Act past Post' := by
  induction p generalizing past with
  | done value => exact himp past value h
  | call action resume ih => exact ⟨h.1, fun reply => ih reply (h.2 reply)⟩

theorem All.imp {p : Program A R α} {Act' : List (Interaction A R) → A → Prop}
    {Post : List (Interaction A R) → α → Prop} (h : p.All Act past Post)
    (himp : ∀ past action, Act past action → Act' past action) : p.All Act' past Post := by
  induction p generalizing past with
  | done value => exact h
  | call action resume ih => exact ⟨himp past action h.1, fun reply => ih reply (h.2 reply)⟩

theorem all_of_forall {p : Program A R α} {Post : List (Interaction A R) → α → Prop}
    (act : ∀ past action, Act past action) (post : ∀ past value, Post past value) :
    p.All Act past Post := by
  induction p generalizing past with
  | done value => exact post past value
  | call action resume ih => exact ⟨act past action, fun reply => ih reply⟩

/-- Facts about the same calls hold together. -/
theorem All.and {p : Program A R α} {Act' : List (Interaction A R) → A → Prop}
    {Post Post' : List (Interaction A R) → α → Prop} (h : p.All Act past Post)
    (h' : p.All Act' past Post') :
    p.All (fun past action => Act past action ∧ Act' past action) past
      (fun past value => Post past value ∧ Post' past value) := by
  induction p generalizing past with
  | done value => exact ⟨h, h'⟩
  | call action resume ih => exact ⟨⟨h.1, h'.1⟩, fun reply => ih reply (h.2 reply) (h'.2 reply)⟩

/-- Every call along every path satisfies `P`, and so does every value with `Q`, whatever was
    called before. -/
def Each (P : A → Prop) (Q : α → Prop) : Program A R α → Prop
  | .done value => Q value
  | .call action resume => P action ∧ ∀ reply, (resume reply).Each P Q

variable {P : A → Prop}

@[simp] theorem each_pure (Q : α → Prop) (value : α) :
    (pure value : Program A R α).Each P Q ↔ Q value := Iff.rfl

@[simp] theorem each_done (Q : α → Prop) (value : α) :
    (done value : Program A R α).Each P Q ↔ Q value := Iff.rfl

@[simp] theorem each_call (Q : α → Prop) (action : A) (resume : R action → Program A R α) :
    (call action resume).Each P Q ↔ P action ∧ ∀ reply, (resume reply).Each P Q := Iff.rfl

@[simp] theorem each_bind (Q : β → Prop) (p : Program A R α) (next : α → Program A R β) :
    (p >>= next).Each P Q ↔ p.Each P (fun value => (next value).Each P Q) := by
  change (p.bind next).Each P Q ↔ _
  induction p with
  | done value => exact Iff.rfl
  | call action resume ih =>
    simp only [bind, Each, ih]

@[simp] theorem each_ite (Q : α → Prop) (c : Prop) [Decidable c] (p q : Program A R α) :
    (if c then p else q).Each P Q ↔ (c → p.Each P Q) ∧ (¬c → q.Each P Q) := by
  split_ifs with h <;> simp [h]

theorem Each.mono {p : Program A R α} {Q Q' : α → Prop} (h : p.Each P Q)
    (himp : ∀ value, Q value → Q' value) : p.Each P Q' := by
  induction p with
  | done value => exact himp value h
  | call action resume ih => exact ⟨h.1, fun reply => ih reply (h.2 reply)⟩

theorem Each.imp {P' : A → Prop} {p : Program A R α} {Q : α → Prop} (h : p.Each P Q)
    (himp : ∀ action, P action → P' action) : p.Each P' Q := by
  induction p with
  | done value => exact h
  | call action resume ih => exact ⟨himp action h.1, fun reply => ih reply (h.2 reply)⟩

/-- One program after another, when nothing is said about the value between them. -/
theorem Each.then {p : Program A R α} {next : α → Program A R β} {Q : β → Prop}
    (h : p.Each P (fun _ => True)) (rest : ∀ value, (next value).Each P Q) :
    (p >>= next).Each P Q := by
  rw [each_bind]
  exact h.mono (fun value _ => rest value)

/-- Calls that are fine whatever such calls came before need no bookkeeping in between. -/
theorem Each.all {p : Program A R α} {Q : α → Prop} {past : List (Interaction A R)}
    {Post : List (Interaction A R) → α → Prop} (h : p.Each P Q)
    (act : ∀ extra action, (∀ x ∈ extra, P x.action) → P action → Act (past ++ extra) action)
    (post : ∀ extra value, (∀ x ∈ extra, P x.action) → Q value → Post (past ++ extra) value) :
    p.All Act past Post := by
  induction p generalizing past with
  | done value => simpa using post [] value (by simp) h
  | call action resume ih =>
    have longer : ∀ {reply : R action} {extra : List (Interaction A R)},
        (∀ x ∈ extra, P x.action) → ∀ x ∈ ⟨action, reply⟩ :: extra, P x.action :=
      fun hextra => List.forall_mem_cons.mpr ⟨h.1, hextra⟩
    refine ⟨by simpa using act [] action (by simp) h.1, fun reply => ih reply (h.2 reply) ?_ ?_⟩
    · intro extra next hextra
      rw [List.append_assoc, List.singleton_append]
      exact act _ next (longer hextra)
    · intro extra value hextra
      rw [List.append_assoc, List.singleton_append]
      exact post _ value (longer hextra)

end Program

end Sunbolt.Library
