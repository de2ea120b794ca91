/- Module: Sunbolt/Library/Serving
   scope: general
   digest: Components that serve one call at a time, and the histories of their runs. -/

import Mathlib.Data.List.Induction

set_option autoImplicit false
set_option relaxedAutoImplicit false

namespace Sunbolt.Library

universe u v w

/-- A served call, between the states it found and left. -/
structure Served (S : Type u) (C : Type v) (R : Type w) where
  call : C
  reply : R
  before : S
  after : S

variable {S : Type u} {C : Type v} {R : Type w}

/-- Serving a call in a state. -/
def served (serve : S → C → S × R) (s : S) (c : C) : Served S C R :=
  ⟨c, (serve s c).2, s, (serve s c).1⟩

/-- The calls of a run from `start`, in the order in which they are served. -/
inductive Serves (serve : S → C → S × R) (start : S) : List (Served S C R) → S → Prop
  | start : Serves serve start [] start
  | next {history : List (Served S C R)} {s : S} (earlier : Serves serve start history s) (c : C) :
    Serves serve start (history ++ [served serve s c]) (serve s c).1

/-- What one more call adds to what is read off a history. -/
theorem filterMap_append_one {α : Type u} {β : Type v} (f : α → Option β) (l : List α) (a : α) :
    (l ++ [a]).filterMap f = l.filterMap f ++ (f a).toList := by
  rw [List.filterMap_append]
  cases h : f a <;> simp [h]

/-! The run that given calls make. -/

def historyOf (serve : S → C → S × R) (s : S) : List C → List (Served S C R)
  | [] => []
  | c :: cs => served serve s c :: historyOf serve (serve s c).1 cs

def endOf (serve : S → C → S × R) (s : S) : List C → S
  | [] => s
  | c :: cs => endOf serve (serve s c).1 cs

namespace Serves

variable {serve : S → C → S × R} {start middle s : S} {history front back : List (Served S C R)}

/-- The invariant rule: what the start satisfies and every call preserves, together with the
    calls so far, holds at the end of every run. -/
theorem invariant {I : List (Served S C R) → S → Prop} (initial : I [] start)
    (preserved : ∀ history s c, Serves serve start history s → I history s →
      I (history ++ [served serve s c]) (serve s c).1)
    (h : Serves serve start history s) : I history s := by
  induction h with
  | start => exact initial
  | next earlier c ih => exact preserved _ _ c earlier ih

theorem trans (h : Serves serve start front middle) (h' : Serves serve middle back s) :
    Serves serve start (front ++ back) s := by
  induction h' with
  | start => rwa [List.append_nil]
  | next earlier c ih =>
    rw [← List.append_assoc]
    exact ih.next c

theorem single (s : S) (c : C) : Serves serve s [served serve s c] (serve s c).1 :=
  Serves.start.next c

theorem ofCalls (serve : S → C → S × R) (s : S) (cs : List C) :
    Serves serve s (historyOf serve s cs) (endOf serve s cs) := by
  induction cs generalizing s with
  | nil => exact .start
  | cons c cs ih => exact (single s c).trans (ih (serve s c).1)

/-- A run is one up to any of its calls, that call, and one from there on. -/
theorem split {e : Served S C R} (h : Serves serve start history s)
    (hsplit : history = front ++ e :: back) :
    Serves serve start front e.before ∧ e = served serve e.before e.call ∧
      Serves serve e.after back s := by
  induction h generalizing back with
  | start => simp at hsplit
  | next earlier c ih =>
    rcases List.eq_nil_or_concat back with rfl | ⟨rest, last, rfl⟩
    · obtain ⟨rfl, heq⟩ := List.append_inj' hsplit rfl
      cases heq
      exact ⟨earlier, rfl, .start⟩
    · rw [List.concat_eq_append, ← List.cons_append, ← List.append_assoc] at hsplit
      obtain ⟨rfl, hlast⟩ := List.append_inj' hsplit rfl
      cases hlast
      obtain ⟨hfront, he, hrest⟩ := ih rfl
      exact ⟨hfront, he, by simpa only [List.concat_eq_append] using hrest.next c⟩

theorem of_mem {e : Served S C R} (h : Serves serve start history s) (he : e ∈ history) :
    e = served serve e.before e.call := by
  obtain ⟨front, back, hsplit⟩ := List.append_of_mem he
  exact (h.split hsplit).2.1

/-- A run is the one that its calls make. -/
theorem eq_historyOf (h : Serves serve start history s) :
    history = historyOf serve start (history.map (·.call)) ∧
      s = endOf serve start (history.map (·.call)) := by
  have historyOf_snoc : ∀ (cs : List C) (c : C) (s : S), historyOf serve s (cs ++ [c]) =
      historyOf serve s cs ++ [served serve (endOf serve s cs) c] := by
    intro cs
    induction cs with
    | nil => intro c s; rfl
    | cons d cs ih => intro c s; exact congrArg _ (ih c _)
  have endOf_snoc : ∀ (cs : List C) (c : C) (s : S), endOf serve s (cs ++ [c]) =
      (serve (endOf serve s cs) c).1 := by
    intro cs
    induction cs with
    | nil => intro c s; rfl
    | cons d cs ih => intro c s; exact ih c _
  induction h with
  | start => exact ⟨rfl, rfl⟩
  | next earlier c ih =>
    have hcalls : ∀ (front : List (Served S C R)) (s : S),
        (front ++ [served serve s c]).map (·.call) = front.map (·.call) ++ [c] := by
      intro front s
      rw [List.map_append]
      rfl
    rw [hcalls, historyOf_snoc, endOf_snoc, ← ih.1, ← ih.2]
    exact ⟨rfl, rfl⟩

end Serves

end Sunbolt.Library
