/- Module: Sunbolt/Library/Machine
   scope: general
   digest: Labelled machines, their finite runs and the invariant rule. -/

import Mathlib.Data.List.Induction

set_option autoImplicit false
set_option relaxedAutoImplicit false

namespace Sunbolt.Library

universe u v w

/-- A partial step function: the label names what moves, the outputs are what it shows. -/
structure Machine (S : Type u) (L : Type v) (O : Type w) where
  step : S → L → Option (S × List O)

variable {S : Type u} {L : Type v} {O : Type w}

namespace Machine

/-- A run is defined only when every label of it is enabled where it stands. -/
def run (M : Machine S L O) (s : S) : List L → Option (S × List O)
  | [] => some (s, [])
  | l :: ls =>
    match M.step s l with
    | none => none
    | some (t, os) =>
      match M.run t ls with
      | none => none
      | some (r, ps) => some (r, os ++ ps)

variable (M : Machine S L O)

@[simp] theorem run_nil (s : S) : M.run s [] = some (s, []) := rfl

theorem run_cons {s r : S} {l : L} {ls : List L} {os : List O} :
    M.run s (l :: ls) = some (r, os) ↔
      ∃ t now later, M.step s l = some (t, now) ∧ M.run t ls = some (r, later) ∧
        os = now ++ later := by
  rw [run]
  cases hstep : M.step s l with
  | none => simp
  | some out =>
    obtain ⟨t, now⟩ := out
    cases hrun : M.run t ls with
    | none => simp [hrun]
    | some rest =>
      obtain ⟨q, later⟩ := rest
      simp [hrun, eq_comm, and_assoc]

theorem run_append {s r : S} {front back : List L} {os : List O} :
    M.run s (front ++ back) = some (r, os) ↔
      ∃ t early late, M.run s front = some (t, early) ∧ M.run t back = some (r, late) ∧
        os = early ++ late := by
  induction front generalizing s os with
  | nil =>
    constructor
    · intro h
      exact ⟨s, [], os, rfl, h, rfl⟩
    · rintro ⟨t, early, late, h, hback, rfl⟩
      simp only [run_nil, Option.some.injEq, Prod.mk.injEq] at h
      obtain ⟨rfl, rfl⟩ := h
      exact hback
  | cons l ls ih =>
    rw [List.cons_append, run_cons]
    constructor
    · rintro ⟨t, now, later, hstep, hrun, rfl⟩
      obtain ⟨q, early, late, hfront, hback, rfl⟩ := ih.mp hrun
      exact ⟨q, now ++ early, late, (M.run_cons).mpr ⟨t, now, early, hstep, hfront, rfl⟩, hback,
        (List.append_assoc ..).symm⟩
    · rintro ⟨q, early, late, hfront, hback, rfl⟩
      obtain ⟨t, now, later, hstep, hrun, rfl⟩ := (M.run_cons).mp hfront
      exact ⟨t, now, later ++ late, hstep, ih.mpr ⟨q, later, late, hrun, hback, rfl⟩,
        List.append_assoc ..⟩

theorem run_singleton {s r : S} {l : L} {os : List O} :
    M.run s [l] = some (r, os) ↔ M.step s l = some (r, os) := by
  rw [run_cons]
  constructor
  · rintro ⟨t, now, later, hstep, hrun, rfl⟩
    simp only [run_nil, Option.some.injEq, Prod.mk.injEq] at hrun
    obtain ⟨rfl, rfl⟩ := hrun
    simpa using hstep
  · intro h
    exact ⟨r, os, [], h, rfl, (List.append_nil os).symm⟩

theorem run_snoc {s r : S} {ls : List L} {l : L} {os : List O} :
    M.run s (ls ++ [l]) = some (r, os) ↔
      ∃ t early late, M.run s ls = some (t, early) ∧ M.step t l = some (r, late) ∧
        os = early ++ late := by
  rw [run_append]
  simp only [run_singleton]

variable {M}

/-- The invariant rule for runs all of whose labels satisfy `P`: what the start satisfies and
    every such step preserves, together with the outputs so far, holds at the end. -/
theorem invariant_of {P : L → Prop} {I : List O → S → Prop} {start : S}
    (initial : I [] start)
    (preserved : ∀ os s l t now, P l → I os s → M.step s l = some (t, now) → I (os ++ now) t)
    {ls : List L} (allowed : ∀ l ∈ ls, P l) {s : S} {os : List O}
    (hrun : M.run start ls = some (s, os)) : I os s := by
  induction ls using List.reverseRecOn generalizing s os with
  | nil =>
    simp only [run_nil, Option.some.injEq, Prod.mk.injEq] at hrun
    obtain ⟨rfl, rfl⟩ := hrun
    exact initial
  | append_singleton ls l ih =>
    obtain ⟨t, early, late, hfront, hstep, rfl⟩ := (M.run_snoc).mp hrun
    exact preserved early t l s late (allowed l (by simp))
      (ih (fun other hother => allowed other (List.mem_append_left _ hother)) hfront) hstep

/-- The invariant rule for all runs. -/
theorem invariant {I : List O → S → Prop} {start : S}
    (initial : I [] start)
    (preserved : ∀ os s l t now, I os s → M.step s l = some (t, now) → I (os ++ now) t)
    {ls : List L} {s : S} {os : List O} (hrun : M.run start ls = some (s, os)) : I os s :=
  invariant_of (P := fun _ => True) initial (fun os s l t now _ => preserved os s l t now)
    (fun _ _ => trivial) hrun

end Machine

end Sunbolt.Library
