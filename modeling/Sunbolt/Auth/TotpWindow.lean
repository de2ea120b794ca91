/- Module: Sunbolt/Auth/TotpWindow
   scope: sunbolt-auth/src/totp.rs
   digest: Which codes a TOTP factor accepts at a time: those of the counters in its window. -/

import Sunbolt.Auth.TotpCodes
import Sunbolt.Library.Utf8Lossy

set_option autoImplicit false
set_option relaxedAutoImplicit false

namespace Sunbolt.Auth

open Sunbolt.Library

/-- The bytes of a text. -/
def codeBytes (text : String) : List UInt8 := Utf8Lossy.encode text.toList

def constantTimeEq (left right : List UInt8) : Bool :=
  if left.length ≠ right.length then false
  else (left.zip right).foldl (fun diff (l, r) => diff ||| (l ^^^ r)) 0 == 0

/-- `any` on a range of so many numbers, which stops at the first one that is right. -/
def anyInRange (p : Nat → Option Bool) (first : Nat) : Nat → Option Bool
  | 0 => some false
  | count + 1 => do if ← p first then some true else anyInRange p (first + 1) count

section Checked

variable (sha256 : List UInt8 → List UInt8)

/-- With its panics, as in `checkedCodeAt`; the counters saturate at both ends of a `u64`. -/
def TotpFactor.checkedVerifyCodeAt (factor : TotpFactor) (code : String)
    (unixTimeSecs : UInt64) : Option Bool := do
  let counter ← divU64 unixTimeSecs.toNat (max factor.config.periodSecs 1)
  let minCounter := counter - factor.config.skewSteps
  let maxCounter := min (counter + factor.config.skewSteps) (2 ^ 64 - 1)
  anyInRange (fun candidate =>
      (checkedHotpSha256 sha256 factor.secret.bytes candidate factor.config.digits).map
        (fun generated => constantTimeEq (codeBytes generated) (codeBytes code)))
    minCounter (maxCounter + 1 - minCounter)

end Checked

/-- The counter of a time. -/
def TotpConfig.counterAt (config : TotpConfig) (unixTimeSecs : UInt64) : Nat :=
  unixTimeSecs.toNat / max config.periodSecs 1

/-- How many steps two counters are apart. -/
def stepsApart (counter other : Nat) : Nat := ((counter : Int) - other).natAbs

/-! The comparison. -/

private theorem or_eq_zero (a b : UInt8) : a ||| b = 0 ↔ a = 0 ∧ b = 0 := by
  rw [← UInt8.toNat_inj, ← UInt8.toNat_inj, ← UInt8.toNat_inj, UInt8.toNat_or]
  exact Nat.or_eq_zero_iff

private theorem foldl_diff (pairs : List (UInt8 × UInt8)) (diff : UInt8) :
    pairs.foldl (fun diff (l, r) => diff ||| (l ^^^ r)) diff = 0 ↔
      diff = 0 ∧ ∀ pair ∈ pairs, pair.1 = pair.2 := by
  induction pairs generalizing diff with
  | nil => simp
  | cons pair pairs ih =>
    rw [List.foldl_cons, ih, or_eq_zero, UInt8.xor_eq_zero_iff, List.forall_mem_cons, and_assoc]

private theorem forall_zip_iff {left right : List UInt8} (h : left.length = right.length) :
    (∀ pair ∈ left.zip right, pair.1 = pair.2) ↔ left = right := by
  induction left generalizing right with
  | nil =>
    obtain rfl := List.length_eq_zero_iff.mp h.symm
    simp
  | cons l left ih =>
    cases right with
    | nil => cases h
    | cons r right =>
      rw [List.zip_cons_cons, List.forall_mem_cons, ih (Nat.succ.inj h), List.cons.injEq]

/-- Every byte counts, and so does the length. -/
theorem constantTimeEq_iff (left right : List UInt8) :
    constantTimeEq left right = true ↔ left = right := by
  rw [constantTimeEq]
  by_cases hlength : left.length = right.length
  · rw [if_neg (not_not.mpr hlength), beq_iff_eq, foldl_diff, ← forall_zip_iff hlength]
    exact and_iff_right rfl
  · rw [if_pos hlength]
    exact iff_of_false Bool.false_ne_true fun heq => hlength (congrArg List.length heq)

theorem constantTimeEq_codeBytes (generated code : String) :
    constantTimeEq (codeBytes generated) (codeBytes code) = decide (generated = code) := by
  rw [Bool.eq_iff_iff, constantTimeEq_iff, decide_eq_true_iff]
  constructor
  · intro heq
    have hdecoded := congrArg Utf8Lossy.decode heq
    rw [codeBytes, codeBytes, Utf8Lossy.decode_encode, Utf8Lossy.decode_encode] at hdecoded
    exact String.toList_inj.mp hdecoded
  · exact congrArg codeBytes

/-! The window. -/

private theorem anyInRange_eq {p : Nat → Option Bool} {q : Nat → Bool}
    (h : ∀ n, p n = some (q n)) (first count : Nat) :
    anyInRange p first count = some ((List.range' first count).any q) := by
  induction count generalizing first with
  | zero => rfl
  | succ count ih =>
    rw [anyInRange, h, List.range'_succ, List.any_cons, ih]
    cases hq : q first <;> rfl

section Digest

variable {sha256 : List UInt8 → List UInt8}

/-- Up to nine digits the verification does not panic, and is the one of the factor. -/
theorem TotpFactor.checkedVerifyCodeAt_eq (digest : ∀ bytes, (sha256 bytes).length = 32)
    (factor : TotpFactor) (few : factor.config.digits ≤ 9) (code : String)
    (unixTimeSecs : UInt64) :
    factor.checkedVerifyCodeAt sha256 code unixTimeSecs =
      some (factor.verifyCodeAt sha256 code unixTimeSecs.toNat) := by
  have hpos : max factor.config.periodSecs 1 ≠ 0 := by omega
  rw [checkedVerifyCodeAt, divU64, if_neg hpos, Option.bind_eq_bind, Option.bind_some]
  refine anyInRange_eq (fun candidate => ?_) _ _
  rw [checkedHotpSha256_eq digest, if_pos few, Option.map_some, constantTimeEq_codeBytes]

/-- The counters that are tried are those of a `u64` that are close enough. -/
theorem TotpFactor.mem_counters (factor : TotpFactor) (unixTimeSecs : UInt64) (k : Nat) :
    k ∈ factor.counters unixTimeSecs.toNat ↔
      k < 2 ^ 64 ∧ stepsApart k (factor.config.counterAt unixTimeSecs) ≤
        factor.config.skewSteps := by
  have hrange : factor.config.counterAt unixTimeSecs < 2 ^ 64 :=
    Nat.lt_of_le_of_lt (Nat.div_le_self ..) unixTimeSecs.toNat_lt
  rw [counters, List.mem_range'_1, stepsApart, ← TotpConfig.counterAt]
  generalize factor.config.counterAt unixTimeSecs = counter at hrange ⊢
  omega

/-- A code is accepted at a time exactly if it is the one of a counter within the skew, so that
    the code of a time this close to it is. -/
theorem verifyCodeAt_window (digest : ∀ bytes, (sha256 bytes).length = 32) (secret : TotpSecret)
    (config : TotpConfig) (few : config.digits ≤ 9) (unixTimeSecs : UInt64) :
    (∀ code, ∃ accepted,
      (TotpFactor.new secret config).checkedVerifyCodeAt sha256 code unixTimeSecs =
        some accepted ∧
      (accepted = true ↔ ∃ k : Nat, k < 2 ^ 64 ∧
        stepsApart k (config.counterAt unixTimeSecs) ≤ config.skewSteps ∧
        checkedHotpSha256 sha256 secret.bytes k config.digits = some code)) ∧
    ∀ other : UInt64,
      stepsApart (config.counterAt other) (config.counterAt unixTimeSecs) ≤ config.skewSteps →
      ∃ code, (TotpFactor.new secret config).checkedCodeAt sha256 other.toNat = some code ∧
        (TotpFactor.new secret config).checkedVerifyCodeAt sha256 code unixTimeSecs =
          some true := by
  have haccepted : ∀ code,
      (TotpFactor.new secret config).verifyCodeAt sha256 code unixTimeSecs.toNat = true ↔
        ∃ k : Nat, k < 2 ^ 64 ∧
          stepsApart k (config.counterAt unixTimeSecs) ≤ config.skewSteps ∧
          checkedHotpSha256 sha256 secret.bytes k config.digits = some code := by
    intro code
    rw [TotpFactor.verifyCodeAt, List.any_eq_true]
    refine exists_congr fun k => ?_
    rw [TotpFactor.mem_counters, checkedHotpSha256_eq digest, if_pos few, decide_eq_true_iff,
      Option.some_inj, and_assoc]
    rfl
  constructor
  · intro code
    exact ⟨_, TotpFactor.checkedVerifyCodeAt_eq digest _ few .., haccepted code⟩
  · intro other hclose
    have hrange : config.counterAt other < 2 ^ 64 :=
      Nat.lt_of_le_of_lt (Nat.div_le_self ..) other.toNat_lt
    refine ⟨_, (TotpFactor.checkedCodeAt_eq digest _ _).trans (if_pos few), ?_⟩
    rw [TotpFactor.checkedVerifyCodeAt_eq digest _ few]
    refine congrArg some ((haccepted _).mpr ⟨config.counterAt other, hrange, hclose, ?_⟩)
    exact (checkedHotpSha256_eq digest ..).trans (if_pos few)

end Digest

theorem verifyCodeAt_window_default : ∃ code,
    (TotpFactor.new ⟨[1]⟩ .default).checkedCodeAt Sha256.sha256 59 = some code ∧
      (TotpFactor.new ⟨[1]⟩ .default).checkedVerifyCodeAt Sha256.sha256 code 89 = some true :=
  (verifyCodeAt_window Sha256.length_sha256 ⟨[1]⟩ .default (by decide) 89).2 59 (by decide)

end Sunbolt.Auth
