/- Module: Sunbolt/Protocol/ReconnectBackoff
   scope: sunbolt-protocol/src/transport.rs
   digest: The delay before a reconnect attempt, in closed form. -/

import Sunbolt.Protocol.Transport
import Mathlib.Algebra.Group.Nat.Defs
import Mathlib.Order.MinMax

set_option autoImplicit false
set_option relaxedAutoImplicit false

namespace Sunbolt.Protocol

/-- `u64::saturating_mul`. -/
def saturatingMul (a b : Nat) : Nat := min (a * b) u64Max

namespace AgentTransportReconnectPolicy

variable (policy : AgentTransportReconnectPolicy)

/-- What every turn of the loop multiplies the delay with. -/
def factor : Nat := max policy.multiplier.toNat 1

/-- The loop, from the delay so far and the turns that are left. -/
def delayLoop (delay : Nat) : Nat → Nat
  | 0 => min delay policy.maxBackoffMs
  | turns + 1 =>
    let delay := saturatingMul delay policy.factor
    if delay ≥ policy.maxBackoffMs then policy.maxBackoffMs else delayLoop delay turns

def delayForAttempt (attempt : Nat) : Nat :=
  policy.delayLoop (max policy.initialBackoffMs 1) attempt

/-- The delay in unbounded integers. -/
def cappedExponential (attempt : Nat) : Nat :=
  min policy.maxBackoffMs
    (max policy.initialBackoffMs 1 * max policy.multiplier.toNat 1 ^ attempt)

variable {policy}

/-- A product at or above the cap stays there however often it is multiplied again, and one
    below the cap has not been saturated. -/
theorem delayLoop_eq (range : policy.maxBackoffMs ≤ u64Max) (delay turns : Nat) :
    policy.delayLoop delay turns = min policy.maxBackoffMs (delay * policy.factor ^ turns) := by
  induction turns generalizing delay with
  | zero => rw [delayLoop, pow_zero, mul_one, min_comm]
  | succ turns ih =>
    have hpos : 0 < policy.factor := Nat.lt_of_lt_of_le Nat.zero_lt_one (le_max_right _ _)
    have hassoc : delay * policy.factor ^ (turns + 1) =
        delay * policy.factor * policy.factor ^ turns := by
      rw [pow_succ', mul_assoc]
    rw [delayLoop, hassoc]
    split_ifs with hcap
    · have hproduct : policy.maxBackoffMs ≤ delay * policy.factor := le_trans hcap (min_le_left _ _)
      have hlater := Nat.le_mul_of_pos_right (delay * policy.factor)
        (Nat.pow_pos (n := turns) hpos)
      exact (min_eq_left (hproduct.trans hlater)).symm
    · have hexact : saturatingMul delay policy.factor = delay * policy.factor := by
        rw [saturatingMul] at hcap ⊢
        omega
      rw [ih, hexact]

variable (policy)

theorem cappedExponential_monotone : Monotone policy.cappedExponential := by
  intro attempt later hle
  have hpos : 0 < policy.factor := Nat.lt_of_lt_of_le Nat.zero_lt_one (le_max_right _ _)
  exact min_le_min le_rfl (Nat.mul_le_mul_left _ (Nat.pow_le_pow_right hpos hle))

/-- The delay is the capped exponential: within the cap, in the range of a `u64`, and not
    smaller for a later attempt. -/
theorem delayForAttempt_capped (range : policy.maxBackoffMs ≤ u64Max) :
    (∀ attempt, policy.delayForAttempt attempt = policy.cappedExponential attempt) ∧
      (∀ attempt, policy.delayForAttempt attempt ≤ policy.maxBackoffMs) ∧
      (∀ attempt, policy.delayForAttempt attempt ≤ u64Max) ∧
      Monotone policy.delayForAttempt := by
  have hclosed : policy.delayForAttempt = policy.cappedExponential :=
    funext fun attempt => delayLoop_eq range _ attempt
  have hcap : ∀ attempt, policy.cappedExponential attempt ≤ policy.maxBackoffMs :=
    fun _ => min_le_left _ _
  rw [hclosed]
  exact ⟨fun _ => rfl, hcap, fun attempt => (hcap attempt).trans range,
    policy.cappedExponential_monotone⟩

theorem delayForAttempt_capped_default :
    (∀ attempt, productionDefault.delayForAttempt attempt =
        productionDefault.cappedExponential attempt) ∧
      (∀ attempt, productionDefault.delayForAttempt attempt ≤ 30000) ∧
      (∀ attempt, productionDefault.delayForAttempt attempt ≤ u64Max) ∧
      Monotone productionDefault.delayForAttempt :=
  delayForAttempt_capped productionDefault (by decide)

example : [0, 1, 4, 5, 6].map productionDefault.delayForAttempt =
    [1000, 2000, 16000, 30000, 30000] := by
  decide

end AgentTransportReconnectPolicy

end Sunbolt.Protocol
