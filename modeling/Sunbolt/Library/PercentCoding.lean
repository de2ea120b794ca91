/- Module: Sunbolt/Library/PercentCoding
   scope: general
   digest: Percent-encoding of bytes, and splitting a text at the first delimiter. -/

import Sunbolt.Library.Utf8Lossy

set_option autoImplicit false
set_option relaxedAutoImplicit false

namespace Sunbolt.Library.PercentCoding

def hexDigits : List Char := "0123456789ABCDEF".toList

def hexDigit (n : Nat) : Char := hexDigits.getD n '0'

def hexValue (c : Char) : Option Nat :=
  if c ∈ hexDigits then some (hexDigits.idxOf c) else none

/-- A byte that is kept stands for itself; any other one is written in hexadecimal. -/
def encodeByte (keep : UInt8 → Bool) (b : UInt8) : List Char :=
  if keep b then [Char.ofNat b.toNat] else ['%', hexDigit (b.toNat / 16), hexDigit (b.toNat % 16)]

def encode (keep : UInt8 → Bool) (bytes : List UInt8) : List Char :=
  bytes.flatMap (encodeByte keep)

/-- Anything but ASCII and whole escapes is refused. -/
def decode : List Char → Option (List UInt8)
  | [] => some []
  | '%' :: high :: low :: rest => do
    let byte := UInt8.ofNat (16 * (← hexValue high) + (← hexValue low))
    return byte :: (← decode rest)
  | c :: rest =>
    if c = '%' ∨ 128 ≤ c.toNat then none
    else (decode rest).map (UInt8.ofNat c.toNat :: ·)

/-- What stands before the first delimiter and behind it. -/
def splitFirst (delimiter : Char) : List Char → Option (List Char × List Char)
  | [] => none
  | c :: rest =>
    if c = delimiter then some ([], rest)
    else (splitFirst delimiter rest).map (fun (front, back) => (c :: front, back))

theorem splitFirst_append {delimiter : Char} {front : List Char} (h : delimiter ∉ front)
    (back : List Char) :
    splitFirst delimiter (front ++ delimiter :: back) = some (front, back) := by
  induction front with
  | nil => exact if_pos rfl
  | cons c front ih =>
    rw [List.mem_cons, not_or] at h
    rw [List.cons_append, splitFirst, if_neg (Ne.symm h.1), ih h.2]
    rfl

theorem hexValue_hexDigit {n : Nat} (h : n < 16) : hexValue (hexDigit n) = some n := by
  have hall : ∀ n : Fin 16, hexValue (hexDigit n) = some n.val := by decide
  exact hall ⟨n, h⟩

theorem hexDigit_mem {n : Nat} (h : n < 16) : hexDigit n ∈ hexDigits := by
  have hall : ∀ n : Fin 16, hexDigit n ∈ hexDigits := by decide
  exact hall ⟨n, h⟩

private theorem decode_escape {n : Nat} (h : n < 256) (rest : List Char) :
    decode ('%' :: hexDigit (n / 16) :: hexDigit (n % 16) :: rest) =
      (decode rest).map (UInt8.ofNat n :: ·) := by
  rw [decode, hexValue_hexDigit (by omega), hexValue_hexDigit (by omega)]
  simp only [Option.bind_eq_bind, Option.bind_some, Nat.div_add_mod]
  cases decode rest <;> rfl

private theorem decode_plain {c : Char} (h : c ≠ '%') (hascii : c.toNat < 128)
    (rest : List Char) : decode (c :: rest) = (decode rest).map (UInt8.ofNat c.toNat :: ·) := by
  have hkept : ¬(c = '%' ∨ 128 ≤ c.toNat) := by
    rintro (heq | hle)
    · exact h heq
    · omega
  rw [decode]
  · rw [if_neg hkept]
  · rintro high low rest rfl
    exact absurd rfl h

section Encode

variable {keep : UInt8 → Bool}

/-- Where the kept bytes are ASCII other than the percent sign, decoding gives the bytes back. -/
theorem decode_encode (safe : ∀ b, keep b = true → b.toNat < 128 ∧ b.toNat ≠ 37)
    (bytes : List UInt8) : decode (encode keep bytes) = some bytes := by
  induction bytes with
  | nil => rfl
  | cons b bytes ih =>
    rw [encode, List.flatMap_cons, encodeByte, ← encode]
    split_ifs with hkeep
    · obtain ⟨hascii, hpercent⟩ := safe b hkeep
      have hvalue : (Char.ofNat b.toNat).toNat = b.toNat := Utf8Lossy.toNat_charOfByte
      have hne : Char.ofNat b.toNat ≠ '%' := by
        intro heq
        rw [heq] at hvalue
        exact hpercent hvalue.symm
      rw [List.singleton_append, decode_plain hne (by rwa [hvalue]), ih, hvalue,
        UInt8.ofNat_toNat]
      rfl
    · rw [List.cons_append, List.cons_append, List.cons_append, List.nil_append,
        decode_escape b.toNat_lt, ih, UInt8.ofNat_toNat]
      rfl

/-- Nothing is written but kept bytes, percent signs and hexadecimal digits. -/
theorem mem_encode {bytes : List UInt8} {c : Char} (h : c ∈ encode keep bytes) :
    (∃ b, keep b = true ∧ c = Char.ofNat b.toNat) ∨ c = '%' ∨ c ∈ hexDigits := by
  obtain ⟨b, -, hc⟩ := List.mem_flatMap.mp h
  have hlt := b.toNat_lt
  rw [encodeByte] at hc
  split_ifs at hc with hkeep
  · exact Or.inl ⟨b, hkeep, List.mem_singleton.mp hc⟩
  · rcases List.mem_cons.mp hc with rfl | hc
    · exact Or.inr (Or.inl rfl)
    · rcases List.mem_cons.mp hc with rfl | hc
      · exact Or.inr (Or.inr (hexDigit_mem (by omega)))
      · rw [List.mem_singleton.mp hc]
        exact Or.inr (Or.inr (hexDigit_mem (by omega)))

end Encode

end Sunbolt.Library.PercentCoding
