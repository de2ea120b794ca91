/- Module: Sunbolt/Auth/Base32
   scope: sunbolt-auth/src/totp.rs
   digest: The base32 text of a secret is the one that groups its bits by five. -/

import Sunbolt.Library.BitGroups

set_option autoImplicit false
set_option relaxedAutoImplicit false

namespace Sunbolt.Auth

open Sunbolt.Library.BitGroups

def base32Alphabet : List Char := "ABCDEFGHIJKLMNOPQRSTUVWXYZ234567".toList

def base32Digit (index : UInt32) : Char := base32Alphabet.getD index.toNat 'A'

/-- The inner loop: what it writes, and the bits it leaves. Eight bits are added to fewer than
    five, so that their number is in the range of a `u8`. -/
def drainBits (buffer : UInt32) : Nat → List Char × Nat
  | bitsLeft + 5 =>
    let (written, left) := drainBits buffer bitsLeft
    (base32Digit (buffer >>> UInt32.ofNat bitsLeft &&& 0x1f) :: written, left)
  | bitsLeft => ([], bitsLeft)

/-- The loop over the bytes, and the last group. The buffer is never masked: what is shifted
    out of its 32 bits is lost. -/
def base32Loop (buffer : UInt32) (bitsLeft : Nat) : List UInt8 → List Char
  | [] =>
    if bitsLeft > 0 then [base32Digit (buffer <<< UInt32.ofNat (5 - bitsLeft) &&& 0x1f)] else []
  | byte :: rest =>
    let buffer := buffer <<< 8 ||| byte.toUInt32
    let (written, bitsLeft) := drainBits buffer (bitsLeft + 8)
    written ++ base32Loop buffer bitsLeft rest

def base32Encode (bytes : List UInt8) : List Char := base32Loop 0 0 bytes

/-- The alphabet, with one symbol for each five bits. -/
def base32 : Alphabet 5 := ⟨base32Alphabet, by decide, by decide⟩

/-! What the buffer holds. -/

theorem toNat_low (buffer : UInt32) : (buffer &&& 0x1f).toNat = buffer.toNat % 2 ^ 5 := by
  rw [UInt32.toNat_and]
  exact Nat.and_two_pow_sub_one_eq_mod _ 5

theorem base32Digit_low (buffer : UInt32) :
    base32Digit (buffer &&& 0x1f) = base32.symbol (ofBits (bitsOf buffer.toNat 5)) := by
  rw [base32Digit, toNat_low, ofBits_bitsOf]
  rfl

/-- A byte comes behind the bits that are still to be written. -/
theorem bitsOf_append_byte (buffer : UInt32) (byte : UInt8) {bitsLeft : Nat} (h : bitsLeft < 5) :
    bitsOf (buffer <<< 8 ||| byte.toUInt32).toNat (bitsLeft + 8) =
      bitsOf buffer.toNat bitsLeft ++ bitsOf byte.toNat 8 := by
  have hvalue : (buffer <<< 8 ||| byte.toUInt32).toNat =
      buffer.toNat <<< 8 % 2 ^ 32 ||| byte.toNat := by
    rw [UInt32.toNat_or, UInt32.toNat_shiftLeft, UInt8.toNat_toUInt32]
    rfl
  rw [hvalue, ← bitsOf_or buffer.toNat bitsLeft byte.toNat_lt]
  refine bitsOf_congr fun i hi => ?_
  rw [Nat.testBit_or, Nat.testBit_or, Nat.testBit_mod_two_pow, decide_eq_true (by omega),
    Bool.true_and]

/-! The loops. -/

private theorem drainBits_lt (buffer : UInt32) (bitsLeft : Nat) :
    (drainBits buffer bitsLeft).2 < 5 := by
  fun_induction drainBits buffer bitsLeft with
  | case1 bitsLeft written left hdrain ih =>
    rw [hdrain] at ih
    exact ih
  | case2 bitsLeft hshort =>
    by_contra hlong
    exact hshort (bitsLeft - 5) (by omega)

/-- What the inner loop writes are the first digits of the bits. -/
private theorem drainBits_digits (buffer : UInt32) {bitsLeft : Nat} (h : bitsLeft ≤ 32)
    (rest : List Bool) :
    (drainBits buffer bitsLeft).1 ++
        (digits 5 (bitsOf buffer.toNat (drainBits buffer bitsLeft).2 ++ rest)).map base32.symbol =
      (digits 5 (bitsOf buffer.toNat bitsLeft ++ rest)).map base32.symbol := by
  fun_induction drainBits buffer bitsLeft with
  | case1 bitsLeft written left hdrain ih =>
    rw [hdrain] at ih
    have hshift : (buffer >>> UInt32.ofNat bitsLeft).toNat = buffer.toNat >>> bitsLeft := by
      rw [UInt32.toNat_shiftRight, UInt32.toNat_ofNat', Nat.mod_eq_of_lt (by omega),
        Nat.mod_eq_of_lt (by omega)]
    have hsplit : bitsOf buffer.toNat (bitsLeft + 5) =
        bitsOf (buffer.toNat >>> bitsLeft) 5 ++ bitsOf buffer.toNat bitsLeft := by
      rw [Nat.add_comm, bitsOf_add]
    refine Eq.trans ?_ (congrArg (fun bits => (digits 5 (bits ++ rest)).map base32.symbol)
      hsplit.symm)
    dsimp only
    rw [List.append_assoc, digits_append (by decide) (length_bitsOf ..), List.map_cons,
      ← ih (by omega), base32Digit_low, hshift, List.cons_append]
  | case2 bitsLeft hshort => rfl

/-- The bits that are still to be written are the low bits of the buffer. -/
theorem base32Loop_eq (buffer : UInt32) {bitsLeft : Nat} (h : bitsLeft < 5)
    (bytes : List UInt8) :
    base32Loop buffer bitsLeft bytes =
      (digits 5 (bitsOf buffer.toNat bitsLeft ++ stream 8 (bytes.map UInt8.toNat))).map
        base32.symbol := by
  induction bytes generalizing buffer bitsLeft with
  | nil =>
    rw [base32Loop, List.map_nil, stream, List.flatMap_nil, List.append_nil]
    split_ifs with hpos
    · have hlast : (buffer <<< UInt32.ofNat (5 - bitsLeft)).toNat =
          buffer.toNat <<< (5 - bitsLeft) % 2 ^ 32 := by
        rw [UInt32.toNat_shiftLeft, UInt32.toNat_ofNat', Nat.mod_eq_of_lt (a := 5 - bitsLeft)
          (by omega), Nat.mod_eq_of_lt (a := 5 - bitsLeft) (by omega)]
      have hpadded : bitsOf (buffer.toNat <<< (5 - bitsLeft)) 5 =
          padded 5 (bitsOf buffer.toNat bitsLeft) := by
        have hshift := bitsOf_shiftLeft buffer.toNat bitsLeft (5 - bitsLeft)
        rw [Nat.add_sub_cancel' (Nat.le_of_lt h)] at hshift
        rw [hshift, padded, length_bitsOf]
      have hne : bitsOf buffer.toNat bitsLeft ≠ [] := by
        intro hnil
        have hlength := length_bitsOf buffer.toNat bitsLeft
        rw [hnil, List.length_nil] at hlength
        omega
      rw [digits_short hne (by rwa [length_bitsOf]), List.map_singleton, base32Digit_low, hlast,
        ← bitsOf_mod, Nat.mod_mod_of_dvd _ (by decide), bitsOf_mod, hpadded]
    · obtain rfl : bitsLeft = 0 := by omega
      rfl
  | cons byte rest ih =>
    rw [base32Loop]
    dsimp only
    rw [ih _ (drainBits_lt ..), drainBits_digits _ (by omega), bitsOf_append_byte _ _ h,
      List.map_cons, stream, stream, List.flatMap_cons, List.append_assoc]

theorem base32Encode_eq (bytes : List UInt8) : base32Encode bytes = base32.encode bytes :=
  base32Loop_eq 0 (by decide) bytes

/-- The text has a symbol for each five bits of the bytes, the last group padded by zeros, and
    gives the bytes back. -/
theorem base32Encode_groups_bits (bytes : List UInt8) :
    (base32Encode bytes).length = (8 * bytes.length + 4) / 5 ∧
      (∀ c ∈ base32Encode bytes, c ∈ base32Alphabet) ∧
      base32.decode (base32Encode bytes) = some bytes ∧
      base32Encode bytes =
        (digits 5 (stream 8 (bytes.map UInt8.toNat))).map (fun d => base32Alphabet.getD d 'A') := by
  rw [base32Encode_eq]
  exact ⟨base32.length_encode (by decide) bytes,
    fun c hc => base32.mem_symbols_of_mem_encode (by decide) hc,
    base32.decode_encode (by decide) (by decide) bytes, rfl⟩

example : base32Encode [102, 111, 111] = "MZXW6".toList := by decide

end Sunbolt.Auth
