/- Module: Sunbolt/Library/Instant
   scope: general
   digest: Points in time in signed 64-bit seconds and nanoseconds, and when adding overflows. -/

import Mathlib.Algebra.Group.Int.Defs
import Mathlib.Algebra.Group.Nat.Defs
import Mathlib.Data.Nat.Notation
import Mathlib.Tactic.SplitIfs

set_option autoImplicit false
set_option relaxedAutoImplicit false

namespace Sunbolt.Library

def nanosPerSec : Nat := 1000000000

theorem nanosPerSec_pos : 0 < nanosPerSec := by decide

structure Duration where
  secs : Nat
  nanos : Nat
  secs_lt : secs < 2 ^ 64
  nanos_lt : nanos < nanosPerSec

structure Instant where
  secs : Int
  nanos : Nat
  secs_range : -2 ^ 63 ≤ secs ∧ secs < 2 ^ 63
  nanos_lt : nanos < nanosPerSec

namespace Duration

def fromSecs (secs : UInt64) : Duration := ⟨secs.toNat, 0, secs.toNat_lt, nanosPerSec_pos⟩

def toNanos (d : Duration) : Nat := d.secs * nanosPerSec + d.nanos

@[simp] theorem fromSecs_secs (secs : UInt64) : (fromSecs secs).secs = secs.toNat := rfl

@[simp] theorem fromSecs_nanos (secs : UInt64) : (fromSecs secs).nanos = 0 := rfl

end Duration

namespace Instant

variable (i : Instant) (d : Duration)

/-- The nanoseconds since the first instant that there is. -/
def index : Nat := (i.secs + 2 ^ 63).toNat * nanosPerSec + i.nanos

/-- The seconds are added first, and the carry of the nanoseconds after that. -/
def checkedAdd : Option Instant :=
  if hsecs : i.secs + d.secs < 2 ^ 63 then
    if hcarry : nanosPerSec ≤ i.nanos + d.nanos then
      if hlast : i.secs + d.secs + 1 < 2 ^ 63 then
        some ⟨i.secs + d.secs + 1, i.nanos + d.nanos - nanosPerSec,
          ⟨by have := i.secs_range; omega, hlast⟩,
          by have := i.nanos_lt; have := d.nanos_lt; omega⟩
      else none
    else
      some ⟨i.secs + d.secs, i.nanos + d.nanos, ⟨by have := i.secs_range; omega, hsecs⟩,
        Nat.lt_of_not_le hcarry⟩
  else none

/-- A sum that exists is exact. -/
theorem index_checkedAdd {sum : Instant} (h : i.checkedAdd d = some sum) :
    sum.index = i.index + d.toNanos := by
  have hrange := i.secs_range
  rw [checkedAdd] at h
  split_ifs at h with hsecs hcarry hlast
  · cases h
    have hshift : (i.secs + d.secs + 1 + 2 ^ 63).toNat = (i.secs + 2 ^ 63).toNat + d.secs + 1 := by
      omega
    simp only [index, Duration.toNanos, hshift, Nat.add_mul]
    omega
  · cases h
    have hshift : (i.secs + d.secs + 2 ^ 63).toNat = (i.secs + 2 ^ 63).toNat + d.secs := by omega
    simp only [index, Duration.toNanos, hshift, Nat.add_mul]
    omega

/-- It exists exactly if it is not after the last instant. -/
theorem isSome_checkedAdd : (i.checkedAdd d).isSome = true ↔
    i.secs + d.secs + (if nanosPerSec ≤ i.nanos + d.nanos then 1 else 0) < 2 ^ 63 := by
  rw [checkedAdd]
  split_ifs with hsecs hcarry hlast hcarry
  · simpa using hlast
  · simpa using hlast
  · simpa using hsecs
  · simp
    omega
  · simpa using hsecs

/-- Whole seconds are added without a carry. -/
theorem isSome_checkedAdd_fromSecs (secs : UInt64) :
    (i.checkedAdd (.fromSecs secs)).isSome = true ↔ i.secs + secs.toNat < 2 ^ 63 := by
  have hnanos : ¬nanosPerSec ≤ i.nanos := Nat.not_le.mpr i.nanos_lt
  rw [isSome_checkedAdd]
  simp [hnanos]

end Instant

end Sunbolt.Library
