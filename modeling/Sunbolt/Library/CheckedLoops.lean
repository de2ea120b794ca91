/- Module: Sunbolt/Library/CheckedLoops
   scope: general
   digest: Loops whose turns can fault, their ends without fuel, and loops that must end. -/

import Mathlib.Logic.Relation

set_option autoImplicit false
set_option relaxedAutoImplicit false

namespace Sunbolt.Library

universe u v

/-- Why a checked computation has no result. -/
inductive Fault
  | outOfRange
  | notOnBoundary
  | overflow
  | endless
  deriving DecidableEq, Repr

abbrev Checked (α : Type u) := Except Fault α

section Bind

variable {α β : Type u} (f : α → Checked β)

@[simp] theorem ok_bind (a : α) : ((Except.ok a : Checked α) >>= f) = f a := rfl

@[simp] theorem error_bind (fault : Fault) :
    ((Except.error fault : Checked α) >>= f) = .error fault := rfl

theorem bind_eq_ok {x : Checked α} {f : α → Checked β} {b : β} :
    x >>= f = .ok b ↔ ∃ a, x = .ok a ∧ f a = .ok b := by
  cases x with
  | error fault => simp
  | ok a => simp

end Bind

/-- One turn of a loop goes on or ends it. -/
inductive Turn (σ : Type u) (ρ : Type v)
  | goOn (state : σ)
  | finish (result : ρ)

variable {σ : Type u} {ρ : Type v}

/-- A loop that is cut off after so many turns. -/
def runLoop (turn : σ → Checked (Turn σ ρ)) : Nat → σ → Checked ρ
  | 0, _ => .error .endless
  | fuel + 1, state =>
    match turn state with
    | .error fault => .error fault
    | .ok (.finish result) => .ok result
    | .ok (.goOn next) => runLoop turn fuel next

variable (turn : σ → Checked (Turn σ ρ))

/-- What the loop ends in, after however many turns. -/
inductive Ends : σ → Checked ρ → Prop
  | fault {state : σ} {fault : Fault} (h : turn state = .error fault) : Ends state (.error fault)
  | finish {state : σ} {result : ρ} (h : turn state = .ok (.finish result)) :
      Ends state (.ok result)
  | goOn {state next : σ} {result : Checked ρ} (h : turn state = .ok (.goOn next))
      (later : Ends next result) : Ends state result

/-- The states at the starts of the turns. -/
def Visited (start : σ) : σ → Prop :=
  Relation.ReflTransGen (fun state next => turn state = .ok (.goOn next)) start

/-- Every turn that goes on leaves less to do. -/
def Shrinks (left : σ → Nat) : Prop :=
  ∀ state next, turn state = .ok (.goOn next) → left next < left state

/-- Every turn that goes on starts in front of the bound and moves the cursor forward. -/
def Advances (bound : Nat) (cursor : σ → Nat) : Prop :=
  ∀ state next, turn state = .ok (.goOn next) →
    cursor state < bound ∧ cursor state < cursor next

variable {turn}

theorem Advances.shrinks {bound : Nat} {cursor : σ → Nat} (h : Advances turn bound cursor) :
    Shrinks turn (fun state => bound - cursor state) := by
  intro state next hturn
  obtain ⟨hbound, hcursor⟩ := h state next hturn
  exact Nat.sub_lt_sub_left hbound hcursor

/-- A loop that leaves less to do with every turn is never cut off. -/
theorem Ends.run {left : σ → Nat} {state : σ} {result : Checked ρ} (h : Ends turn state result)
    (shrinks : Shrinks turn left) {fuel : Nat} (enough : left state < fuel) :
    runLoop turn fuel state = result := by
  induction h generalizing fuel with
  | fault h =>
    obtain ⟨fuel, rfl⟩ := Nat.exists_eq_succ_of_ne_zero (Nat.ne_zero_of_lt enough)
    rw [runLoop, h]
  | finish h =>
    obtain ⟨fuel, rfl⟩ := Nat.exists_eq_succ_of_ne_zero (Nat.ne_zero_of_lt enough)
    rw [runLoop, h]
  | goOn h _ ih =>
    obtain ⟨fuel, rfl⟩ := Nat.exists_eq_succ_of_ne_zero (Nat.ne_zero_of_lt enough)
    rw [runLoop, h]
    exact ih (Nat.lt_of_lt_of_le (shrinks _ _ h) (Nat.le_of_lt_succ enough))

/-- What every turn keeps holds of the state that the last one ends the loop in. -/
theorem runLoop_post {I : σ → Prop} {Q : ρ → Prop} {fuel : Nat} {state : σ} {result : ρ}
    (h : runLoop turn fuel state = .ok result) (first : I state)
    (kept : ∀ state next, I state → turn state = .ok (.goOn next) → I next)
    (last : ∀ state result, I state → turn state = .ok (.finish result) → Q result) :
    Q result := by
  induction fuel generalizing state with
  | zero => cases h
  | succ fuel ih =>
    rw [runLoop] at h
    cases hturn : turn state with
    | error fault =>
      rw [hturn] at h
      cases h
    | ok out =>
      rw [hturn] at h
      cases out with
      | goOn next => exact ih h (kept state next first hturn)
      | finish other =>
        cases h
        exact last state _ first hturn

/-- Turns that only move the cursor by one. -/
theorem Ends.skip (place : Nat → σ) {start stop : Nat} {result : Checked ρ}
    (later : Ends turn (place stop) result) (hle : start ≤ stop)
    (h : ∀ index, start ≤ index → index < stop →
      turn (place index) = .ok (.goOn (place (index + 1)))) :
    Ends turn (place start) result := by
  induction hn : stop - start generalizing start with
  | zero =>
    obtain rfl : start = stop := Nat.le_antisymm hle (Nat.sub_eq_zero_iff_le.mp hn)
    exact later
  | succ n ih =>
    have hlt : start < stop := Nat.lt_of_sub_pos (hn ▸ Nat.succ_pos n)
    refine .goOn (h start (Nat.le_refl _) hlt) (ih hlt (fun index hstart hstop => ?_) ?_)
    · exact h index (Nat.le_of_succ_le hstart) hstop
    · rw [Nat.sub_succ, hn]
      rfl

/-- What every turn keeps holds at the start of each. -/
theorem Visited.invariant {I : σ → Prop} {start state : σ} (h : Visited turn start state)
    (first : I start) (kept : ∀ state next, I state → turn state = .ok (.goOn next) → I next) :
    I state := by
  induction h with
  | refl => exact first
  | tail _ hturn ih => exact kept _ _ ih hturn

end Sunbolt.Library
