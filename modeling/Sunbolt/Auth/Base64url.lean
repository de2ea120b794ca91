/- Module: Sunbolt/Auth/Base64url
   scope: sunbolt-auth/src/passkeys.rs
   digest: The base64url text of a challenge is the one that groups its bits by six. -/

import Sunbolt.Auth.Passkeys
import Sunbolt.Library.BitGroups

set_option autoImplicit false
set_option relaxedAutoImplicit false

namespace Sunbolt.Auth

open Sunbolt.Library.BitGroups

/-! The loop over the index with its panics: `none` stands for an index out of range. -/

/-- One element of the alphabet, for the six bits from `shift` on. -/
def alphabetAt (chunk shift : UInt32) : Option Char :=
  base64urlAlphabet[(chunk >>> shift &&& 0x3f).toNat]?

/-- Whole groups of three bytes, and what is left after the last of them. -/
def base64urlLoop (bytes : List UInt8) (index : Nat) : Option (List Char) :=
  if index + 3 ≤ bytes.length then do
    let chunk := (← bytes[index]?).toUInt32 <<< 16 ||| (← bytes[index + 1]?).toUInt32 <<< 8 |||
      (← bytes[index + 2]?).toUInt32
    let group := [← alphabetAt chunk 18, ← alphabetAt chunk 12, ← alphabetAt chunk 6,
      ← alphabetAt chunk 0]
    return group ++ (← base64urlLoop bytes (index + 3))
  else
    match bytes.length - index with
    | 1 => do
      let chunk := (← bytes[index]?).toUInt32 <<< 16
      return [← alphabetAt chunk 18, ← alphabetAt chunk 12]
    | 2 => do
      let chunk := (← bytes[index]?).toUInt32 <<< 16 ||| (← bytes[index + 1]?).toUInt32 <<< 8
      return [← alphabetAt chunk 18, ← alphabetAt chunk 12, ← alphabetAt chunk 6]
    | _ => some []
  termination_by bytes.length - index

def checkedBase64urlEncode (bytes : List UInt8) : Option (List Char) := base64urlLoop bytes 0

/-- The alphabet, with one symbol for each six bits. -/
def base64url : Alphabet 6 := ⟨base64urlAlphabet, by decide, by decide⟩

/-! The loop writes what `base64urlEncode` does. -/

theorem alphabetAt_eq (chunk shift : UInt32) :
    alphabetAt chunk shift = some (base64urlDigit chunk.toNat (shift.toNat % 32)) := by
  have hindex : (chunk >>> shift &&& 0x3f).toNat =
      chunk.toNat >>> (shift.toNat % 32) &&& 0x3f := by
    rw [UInt32.toNat_and, UInt32.toNat_shiftRight]
    rfl
  have hlt : chunk.toNat >>> (shift.toNat % 32) &&& 0x3f < base64urlAlphabet.length :=
    Nat.lt_of_le_of_lt Nat.and_le_right (by decide)
  rw [alphabetAt, hindex, base64urlDigit, List.getD_eq_getElem?_getD,
    List.getElem?_eq_getElem hlt, Option.getD_some]

private theorem toNat_shiftLeft_byte (b : UInt8) {shift : UInt32} (h : shift.toNat ≤ 16) :
    (b.toUInt32 <<< shift).toNat = b.toNat <<< shift.toNat := by
  have hpow : 2 ^ shift.toNat ≤ 2 ^ 16 := Nat.pow_le_pow_right (by decide) h
  have hlt : b.toNat * 2 ^ shift.toNat < 2 ^ 32 :=
    Nat.lt_of_lt_of_le (Nat.mul_lt_mul_of_lt_of_le b.toNat_lt hpow (Nat.pow_pos (by decide)))
      (by decide)
  rw [UInt32.toNat_shiftLeft, UInt8.toNat_toUInt32, Nat.mod_eq_of_lt (a := shift.toNat) (by omega),
    Nat.shiftLeft_eq, Nat.mod_eq_of_lt hlt]

private theorem toNat_chunk (a b c : UInt8) :
    (a.toUInt32 <<< 16 ||| b.toUInt32 <<< 8 ||| c.toUInt32).toNat =
      a.toNat <<< 16 ||| b.toNat <<< 8 ||| c.toNat := by
  rw [UInt32.toNat_or, UInt32.toNat_or, toNat_shiftLeft_byte a (by decide),
    toNat_shiftLeft_byte b (by decide), UInt8.toNat_toUInt32]
  rfl

private theorem toNat_chunk_two (a b : UInt8) :
    (a.toUInt32 <<< 16 ||| b.toUInt32 <<< 8).toNat = a.toNat <<< 16 ||| b.toNat <<< 8 := by
  rw [UInt32.toNat_or, toNat_shiftLeft_byte a (by decide), toNat_shiftLeft_byte b (by decide)]
  rfl

private theorem getElem?_behind (front bytes : List UInt8) (i : Nat) :
    (front ++ bytes)[front.length + i]? = bytes[i]? := by
  rw [List.getElem?_append_right (Nat.le_add_right ..), Nat.add_sub_cancel_left]

/-- From an index on the loop encodes what is left of the bytes. -/
theorem base64urlLoop_eq (front bytes : List UInt8) :
    base64urlLoop (front ++ bytes) front.length = some (base64urlEncode bytes) := by
  have hleft : (front ++ bytes).length - front.length = bytes.length := by
    rw [List.length_append, Nat.add_sub_cancel_left]
  induction bytes using base64urlEncode.induct generalizing front with
  | case1 a b c rest ih =>
    have hsplit : front ++ a :: b :: c :: rest = (front ++ [a, b, c]) ++ rest := by simp
    have hindex : front.length + 3 = (front ++ [a, b, c]).length := by simp
    have hrest : base64urlLoop (front ++ a :: b :: c :: rest) (front.length + 3) =
        some (base64urlEncode rest) := by
      rw [hsplit, hindex]
      exact ih _ (by rw [List.length_append, Nat.add_sub_cancel_left])
    have ha : (front ++ a :: b :: c :: rest)[front.length]? = some a := getElem?_behind front _ 0
    rw [base64urlLoop, if_pos (by rw [List.length_append]; simp only [List.length_cons]; omega)]
    simp only [ha, getElem?_behind, hrest, alphabetAt_eq, toNat_chunk, List.getElem?_cons_succ,
      List.getElem?_cons_zero, Option.bind_eq_bind, Option.bind_some]
    rfl
  | case2 a b =>
    have ha : (front ++ [a, b])[front.length]? = some a := getElem?_behind front _ 0
    rw [base64urlLoop, if_neg (by simp), hleft]
    simp only [List.length_cons, List.length_nil, ha, getElem?_behind, alphabetAt_eq,
      toNat_chunk_two, List.getElem?_cons_succ, List.getElem?_cons_zero, Option.bind_eq_bind,
      Option.bind_some]
    rfl
  | case3 a =>
    have ha : (front ++ [a])[front.length]? = some a := getElem?_behind front _ 0
    rw [base64urlLoop, if_neg (by simp), hleft]
    simp only [List.length_cons, List.length_nil, ha, alphabetAt_eq, Option.bind_eq_bind,
      Option.bind_some, toNat_shiftLeft_byte a (show (16 : UInt32).toNat ≤ 16 by decide)]
    rfl
  | case4 =>
    rw [base64urlLoop, if_neg (by simp), hleft]
    rfl

theorem checkedBase64urlEncode_eq (bytes : List UInt8) :
    checkedBase64urlEncode bytes = some (base64urlEncode bytes) := base64urlLoop_eq [] bytes

/-! The groups of six bits. -/

theorem base64urlDigit_eq (chunk shift : Nat) :
    base64urlDigit chunk shift = base64url.symbol (ofBits (bitsOf (chunk >>> shift) 6)) := by
  have hmask : chunk >>> shift &&& 0x3f = chunk >>> shift % 2 ^ 6 :=
    Nat.and_two_pow_sub_one_eq_mod _ 6
  rw [base64urlDigit, hmask, ofBits_bitsOf]
  rfl

theorem base64urlDigit_shiftLeft (n shift zeros : Nat) :
    base64urlDigit (n <<< zeros) (zeros + shift) = base64urlDigit n shift := by
  rw [base64urlDigit, Nat.shiftRight_add, Nat.shiftLeft_shiftRight, base64urlDigit]

/-- The first six of the bits are the next digit. -/
private theorem next_digit (n width : Nat) (rest : List Bool) :
    (digits 6 (bitsOf n (6 + width) ++ rest)).map base64url.symbol =
      base64urlDigit n width :: (digits 6 (bitsOf n width ++ rest)).map base64url.symbol := by
  rw [bitsOf_add, List.append_assoc, digits_append (by decide) (length_bitsOf ..), List.map_cons,
    base64urlDigit_eq]

private theorem bitsOf_two (a b : UInt8) :
    bitsOf (a.toNat <<< 8 ||| b.toNat) 16 = bitsOf a.toNat 8 ++ bitsOf b.toNat 8 :=
  bitsOf_or a.toNat 8 b.toNat_lt

theorem base64urlEncode_eq (bytes : List UInt8) :
    base64urlEncode bytes = base64url.encode bytes := by
  induction bytes using base64urlEncode.induct with
  | case1 a b c rest ih =>
    have hchunk : a.toNat <<< 16 ||| b.toNat <<< 8 ||| c.toNat =
        (a.toNat <<< 8 ||| b.toNat) <<< 8 ||| c.toNat := by
      rw [Nat.shiftLeft_or_distrib, ← Nat.shiftLeft_add]
    have hbits : stream 8 ((a :: b :: c :: rest).map UInt8.toNat) =
        bitsOf (a.toNat <<< 16 ||| b.toNat <<< 8 ||| c.toNat) 24 ++
          stream 8 (rest.map UInt8.toNat) := by
      have hthree := bitsOf_or (a.toNat <<< 8 ||| b.toNat) 16 c.toNat_lt
      rw [bitsOf_two, ← hchunk] at hthree
      rw [hthree]
      simp only [stream, List.map_cons, List.flatMap_cons, List.append_assoc]
    rw [Alphabet.encode, hbits, next_digit _ 18, next_digit _ 12, next_digit _ 6, next_digit _ 0,
      base64urlEncode, ih]
    rfl
  | case2 a b =>
    have hchunk : a.toNat <<< 16 ||| b.toNat <<< 8 = (a.toNat <<< 8 ||| b.toNat) <<< 2 <<< 6 := by
      rw [← Nat.shiftLeft_add, Nat.shiftLeft_or_distrib, ← Nat.shiftLeft_add]
    have hbits : bitsOf ((a.toNat <<< 8 ||| b.toNat) <<< 2) 18 =
        stream 8 ([a, b].map UInt8.toNat) ++ List.replicate 2 false := by
      rw [bitsOf_shiftLeft _ 16 2, bitsOf_two]
      simp only [stream, List.map_cons, List.map_nil, List.flatMap_cons, List.flatMap_nil,
        List.append_nil]
    have hlength : (stream 8 ([a, b].map UInt8.toNat)).length = 16 := by
      simp [stream, length_bitsOf]
    have hdigits := next_digit ((a.toNat <<< 8 ||| b.toNat) <<< 2) 12 []
    rw [List.append_nil, next_digit _ 6 [], next_digit _ 0 [], hbits,
      digits_padding (by decide) (by decide) (by rw [hlength])] at hdigits
    rw [Alphabet.encode, hdigits, base64urlEncode, hchunk, base64urlDigit_shiftLeft _ 12 6,
      base64urlDigit_shiftLeft _ 6 6, base64urlDigit_shiftLeft _ 0 6]
    rfl
  | case3 a =>
    have hchunk : a.toNat <<< 16 = a.toNat <<< 4 <<< 12 := Nat.shiftLeft_add a.toNat 4 12
    have hbits : bitsOf (a.toNat <<< 4) 12 =
        stream 8 ([a].map UInt8.toNat) ++ List.replicate 4 false := by
      rw [bitsOf_shiftLeft _ 8 4]
      simp only [stream, List.map_cons, List.map_nil, List.flatMap_cons, List.flatMap_nil,
        List.append_nil]
    have hlength : (stream 8 ([a].map UInt8.toNat)).length = 8 := by
      simp [stream, length_bitsOf]
    have hdigits := next_digit (a.toNat <<< 4) 6 []
    rw [List.append_nil, next_digit _ 0 [], hbits,
      digits_padding (by decide) (by decide) (by rw [hlength])] at hdigits
    rw [Alphabet.encode, hdigits, base64urlEncode, hchunk, base64urlDigit_shiftLeft _ 6 12,
      base64urlDigit_shiftLeft _ 0 12]
    rfl
  | case4 => rfl

end Sunbolt.Auth
