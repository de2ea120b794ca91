/- Module: Sunbolt/Auth/TotpCodes
   scope: sunbolt-auth/src/totp.rs
   digest: One-time codes in the integers of the source, and for which digit counts they exist. -/

import Sunbolt.Auth.Factors
import Sunbolt.Library.Sha256

set_option autoImplicit false
set_option relaxedAutoImplicit false

namespace Sunbolt.Auth

open Sunbolt.Library

/-! The same computation with its panics: `none` stands for an overflow, a division by zero or an
    index out of range. -/

/-- `u32::pow`. -/
def powU32 (base exponent : Nat) : Option UInt32 :=
  if base ^ exponent < 2 ^ 32 then some (UInt32.ofNat (base ^ exponent)) else none

/-- `%` on `u32`. -/
def remU32 (a b : UInt32) : Option UInt32 := if b = 0 then none else some (a % b)

/-- `/` on `u64`. -/
def divU64 (a b : Nat) : Option Nat := if b = 0 then none else some (a / b)

/-- `-` on `usize`. -/
def subUsize (a b : Nat) : Option Nat := if b ≤ a then some (a - b) else none

/-- `block[..bytes.len()].copy_from_slice(bytes)`. -/
def copyFromSlice (block bytes : List UInt8) : Option (List UInt8) :=
  if bytes.length ≤ block.length then some (bytes ++ block.drop bytes.length) else none

/-- `format!("{:0width$}", n)`. -/
def zeroPadded (n width : Nat) : String :=
  String.ofList (List.replicate (width - (Nat.toDigits 10 n).length) '0' ++ Nat.toDigits 10 n)

/-- One of the two pads: every byte of the block is combined with `byte`. -/
def pad (byte : UInt8) (block : List UInt8) : Option (List UInt8) :=
  (List.range hmacBlockSize).mapM (fun index => (block[index]?).map (byte ^^^ ·))

/-- The four bytes that the last byte of the digest points to, less the sign bit. -/
def truncateHmac (hmac : List UInt8) : Option UInt32 := do
  let last ← hmac[← subUsize hmac.length 1]?
  let offset := (last &&& 0x0f).toNat
  let b0 ← hmac[offset]?
  let b1 ← hmac[offset + 1]?
  let b2 ← hmac[offset + 2]?
  let b3 ← hmac[offset + 3]?
  return (b0 &&& 0x7f).toUInt32 <<< 24 ||| b1.toUInt32 <<< 16 ||| b2.toUInt32 <<< 8 |||
    b3.toUInt32

def TotpFactor.new (secret : TotpSecret) (config : TotpConfig) : TotpFactor := ⟨secret, config⟩

section Checked

variable (sha256 : List UInt8 → List UInt8)

def checkedHmacSha256 (key message : List UInt8) : Option (List UInt8) := do
  let block := List.replicate hmacBlockSize 0
  let keyBlock ← copyFromSlice block (if key.length > hmacBlockSize then sha256 key else key)
  let outerPad ← pad 0x5c keyBlock
  let innerPad ← pad 0x36 keyBlock
  return sha256 (outerPad ++ sha256 (innerPad ++ message))

def checkedHotpSha256 (secret : List UInt8) (counter digits : Nat) : Option String := do
  let hmac ← checkedHmacSha256 sha256 secret (toBeBytes counter)
  let binary ← truncateHmac hmac
  let modulo ← powU32 10 digits
  let code ← remU32 binary modulo
  return zeroPadded code.toNat digits

def TotpFactor.checkedCodeAt (factor : TotpFactor) (unixTimeSecs : Nat) : Option String := do
  let counter ← divU64 unixTimeSecs (max factor.config.periodSecs 1)
  checkedHotpSha256 sha256 factor.secret.bytes counter factor.config.digits

/-- The code is computed without a panic, and has as many decimal digits as configured. -/
def TotpFactor.CodeWellFormed (factor : TotpFactor) (unixTimeSecs : Nat) : Prop :=
  ∃ code, factor.checkedCodeAt sha256 unixTimeSecs = some code ∧
    code.length = factor.config.digits ∧ ∀ c ∈ code.toList, c.isDigit = true

end Checked

/-- The number that the code is made of. -/
def truncated (hmac : List UInt8) : Nat :=
  let offset := byteAt hmac (hmac.length - 1) % 16
  byteAt hmac offset % 128 * 256 ^ 3 + byteAt hmac (offset + 1) * 256 ^ 2 +
    byteAt hmac (offset + 2) * 256 + byteAt hmac (offset + 3)

theorem hotpSha256_eq (sha256 : List UInt8 → List UInt8) (secret : List UInt8)
    (counter digits : Nat) :
    hotpSha256 sha256 secret counter digits =
      zeroPadded (truncated (hmacSha256 sha256 secret (toBeBytes counter)) % 10 ^ digits)
        digits := rfl

/-! The padding. -/

theorem zeroPadded_digits (n width : Nat) :
    ∀ c ∈ (zeroPadded n width).toList, c.isDigit = true := by
  intro c hc
  rw [zeroPadded, String.toList_ofList] at hc
  rcases List.mem_append.mp hc with hzero | hdigit
  · rw [(List.mem_replicate.mp hzero).2]
    decide
  · exact Nat.isDigit_of_mem_toDigits (by decide) (by decide) hdigit

/-- A number below a positive power of ten is padded to as many digits as the exponent says. -/
theorem length_zeroPadded {n width : Nat} (hpos : 0 < width) (hlt : n < 10 ^ width) :
    (zeroPadded n width).length = width := by
  have hle : (Nat.toDigits 10 n).length ≤ width :=
    (Nat.length_toDigits_le_iff (by decide) hpos).mpr hlt
  rw [zeroPadded, String.length_ofList, List.length_append, List.length_replicate]
  omega

/-- Without a width a code still has a digit. -/
theorem length_zeroPadded_pos (n width : Nat) : 0 < (zeroPadded n width).length := by
  have hpos : 0 < (Nat.toDigits 10 n).length := Nat.length_toDigits_pos
  rw [zeroPadded, String.length_ofList, List.length_append]
  omega

/-! The checks of the arithmetic. -/

/-- A power of ten fits in 32 bits up to nine digits. -/
theorem powU32_ten (digits : Nat) :
    powU32 10 digits = if digits ≤ 9 then some (UInt32.ofNat (10 ^ digits)) else none := by
  have hiff : 10 ^ digits < 2 ^ 32 ↔ digits ≤ 9 := by
    constructor
    · intro hlt
      by_contra hmany
      have hten : 10 ^ 10 ≤ 10 ^ digits := Nat.pow_le_pow_right (by decide) (by omega)
      omega
    · intro hfew
      exact Nat.lt_of_le_of_lt (Nat.pow_le_pow_right (by decide) hfew) (by decide)
  simp only [powU32, hiff]

private theorem mapM_eq_some {α β : Type} {f : α → Option β} {g : α → β} {l : List α}
    (h : ∀ a ∈ l, f a = some (g a)) : l.mapM f = some (l.map g) := by
  induction l with
  | nil => rfl
  | cons a rest ih =>
    rw [List.mapM_cons, h a (List.mem_cons_self ..),
      ih (fun b hb => h b (List.mem_cons_of_mem a hb))]
    rfl

theorem pad_eq {block : List UInt8} (hlength : block.length = hmacBlockSize) (byte : UInt8) :
    pad byte block = some (block.map (byte ^^^ ·)) := by
  have hindex : ∀ index ∈ List.range hmacBlockSize, (block[index]?).map (byte ^^^ ·) =
      some (byte ^^^ block.getD index 0) := by
    intro index hindex
    rw [← hlength, List.mem_range] at hindex
    rw [List.getD_eq_getElem?_getD, List.getElem?_eq_getElem hindex]
    rfl
  rw [pad, mapM_eq_some hindex, ← hlength]
  congr 1
  refine List.ext_getElem (by simp) (fun index hleft hright => ?_)
  rw [List.length_map] at hright
  rw [List.getElem_map, List.getElem_range, List.getElem_map,
    List.getD_eq_getElem?_getD, List.getElem?_eq_getElem hright, Option.getD_some]

/-! With a digest of 32 bytes nothing but the modulus can fail. -/

section Digest

variable {sha256 : List UInt8 → List UInt8}

theorem length_keyBlock (digest : ∀ bytes, (sha256 bytes).length = 32) (key : List UInt8) :
    (keyBlock sha256 key).length = hmacBlockSize := by
  have hle : (if key.length > hmacBlockSize then sha256 key else key).length ≤ hmacBlockSize := by
    split_ifs with hlong
    · rw [digest]
      decide
    · exact Nat.not_lt.mp hlong
  rw [keyBlock, List.length_append, List.length_replicate]
  omega

theorem checkedHmacSha256_eq (digest : ∀ bytes, (sha256 bytes).length = 32)
    (key message : List UInt8) :
    checkedHmacSha256 sha256 key message = some (hmacSha256 sha256 key message) := by
  have hblock : copyFromSlice (List.replicate hmacBlockSize 0)
      (if key.length > hmacBlockSize then sha256 key else key) = some (keyBlock sha256 key) := by
    have hlength := length_keyBlock digest key
    rw [keyBlock, List.length_append, List.length_replicate] at hlength
    rw [copyFromSlice, if_pos (by rw [List.length_replicate]; omega), List.drop_replicate]
    rfl
  have hlength := length_keyBlock digest key
  rw [checkedHmacSha256]
  simp only [hblock, pad_eq hlength, Option.bind_eq_bind, Option.bind_some]
  rfl

theorem length_hmacSha256 (digest : ∀ bytes, (sha256 bytes).length = 32)
    (key message : List UInt8) : (hmacSha256 sha256 key message).length = 32 := digest _

/-- Four bytes put one after another are a number in base 256. -/
theorem toNat_bytes (b0 b1 b2 b3 : UInt8) :
    ((b0 &&& 0x7f).toUInt32 <<< 24 ||| b1.toUInt32 <<< 16 ||| b2.toUInt32 <<< 8 |||
      b3.toUInt32).toNat =
    b0.toNat % 128 * 256 ^ 3 + b1.toNat * 256 ^ 2 + b2.toNat * 256 + b3.toNat := by
  have h0 : (b0 &&& 0x7f).toNat = b0.toNat % 128 := by
    rw [UInt8.toNat_and]
    exact Nat.and_two_pow_sub_one_eq_mod _ 7
  have hb0 : b0.toNat % 128 < 2 ^ 7 := Nat.mod_lt _ (by decide)
  have hb1 := b1.toNat_lt
  have hb2 := b2.toNat_lt
  have hb3 := b3.toNat_lt
  have hshift : ∀ (b : UInt32) (i : UInt32) (k : Nat), i.toNat % 32 = k →
      b.toNat * 2 ^ k < 2 ^ 32 → (b <<< i).toNat = b.toNat * 2 ^ k := by
    intro b i k hi hlt
    rw [UInt32.toNat_shiftLeft, hi, Nat.shiftLeft_eq, Nat.mod_eq_of_lt hlt]
  have hor : ∀ {a b k : Nat}, b < 2 ^ k → a * 2 ^ k ||| b = a * 2 ^ k + b := by
    intro a b k hlt
    rw [← Nat.shiftLeft_eq, ← Nat.shiftLeft_add_eq_or_of_lt hlt]
  rw [UInt32.toNat_or, UInt32.toNat_or, UInt32.toNat_or, hshift _ 24 24 rfl ?_,
    hshift _ 16 16 rfl ?_, hshift _ 8 8 rfl ?_]
  · simp only [UInt8.toNat_toUInt32, h0]
    calc
      _ = b0.toNat % 128 * 2 ^ 24 + b1.toNat * 2 ^ 16 ||| b2.toNat * 2 ^ 8 ||| b3.toNat := by
        rw [hor (by omega)]
      _ = (b0.toNat % 128 * 2 ^ 8 + b1.toNat) * 2 ^ 16 ||| b2.toNat * 2 ^ 8 ||| b3.toNat := by
        rw [Nat.add_mul, Nat.mul_assoc _ (2 ^ 8), ← Nat.pow_add]
      _ = ((b0.toNat % 128 * 2 ^ 8 + b1.toNat) * 2 ^ 8 + b2.toNat) * 2 ^ 8 ||| b3.toNat := by
        rw [hor (by omega), Nat.add_mul _ b2.toNat, Nat.mul_assoc _ (2 ^ 8), ← Nat.pow_add]
      _ = _ := by
        rw [hor (by omega)]
        omega
  all_goals simp only [UInt8.toNat_toUInt32, h0]; omega

/-- The offset is at most fifteen, so that all four bytes are in the digest. -/
theorem truncateHmac_eq {hmac : List UInt8} (hlength : hmac.length = 32) :
    ∃ binary, truncateHmac hmac = some binary ∧ binary.toNat = truncated hmac := by
  have hget : ∀ {i : Nat}, i < 32 → hmac[i]? = some (hmac.getD i 0) := by
    intro i hi
    rw [← hlength] at hi
    rw [List.getD_eq_getElem?_getD, List.getElem?_eq_getElem hi, Option.getD_some]
  have hoffset : (hmac.getD 31 0 &&& 0x0f).toNat = byteAt hmac 31 % 16 := by
    rw [UInt8.toNat_and]
    exact Nat.and_two_pow_sub_one_eq_mod _ 4
  have hlt : byteAt hmac 31 % 16 < 16 := Nat.mod_lt _ (by decide)
  rw [truncateHmac, truncated, hlength, subUsize, if_pos (by decide)]
  simp only [Option.bind_eq_bind, Option.bind_some, hget (show 32 - 1 < 32 by decide), hoffset]
  rw [hget (by omega), hget (by omega), hget (by omega), hget (by omega)]
  exact ⟨_, rfl, toNat_bytes ..⟩

/-- The checked code is the code of the factor up to nine digits, and a panic from ten on. -/
theorem checkedHotpSha256_eq (digest : ∀ bytes, (sha256 bytes).length = 32)
    (secret : List UInt8) (counter digits : Nat) :
    checkedHotpSha256 sha256 secret counter digits =
      if digits ≤ 9 then some (hotpSha256 sha256 secret counter digits) else none := by
  obtain ⟨binary, htruncate, hbinary⟩ :=
    truncateHmac_eq (length_hmacSha256 digest secret (toBeBytes counter))
  rw [checkedHotpSha256, checkedHmacSha256_eq digest]
  simp only [Option.bind_eq_bind, Option.bind_some, htruncate, powU32_ten]
  split_ifs with hfew
  · have hlt : 10 ^ digits < 2 ^ 32 :=
      Nat.lt_of_le_of_lt (Nat.pow_le_pow_right (by decide) hfew) (by decide)
    have hmodulo : (UInt32.ofNat (10 ^ digits)).toNat = 10 ^ digits :=
      UInt32.toNat_ofNat_of_lt' hlt
    have hpos : UInt32.ofNat (10 ^ digits) ≠ 0 := by
      intro hzero
      have hnone := congrArg UInt32.toNat hzero
      rw [hmodulo] at hnone
      exact absurd hnone (Nat.pos_iff_ne_zero.mp (Nat.pow_pos (by decide)))
    rw [Option.bind_some, remU32, if_neg hpos, Option.bind_some, UInt32.toNat_mod, hmodulo,
      hbinary, hotpSha256_eq]
    rfl
  · rfl

theorem TotpFactor.checkedCodeAt_eq (digest : ∀ bytes, (sha256 bytes).length = 32)
    (factor : TotpFactor) (unixTimeSecs : Nat) :
    factor.checkedCodeAt sha256 unixTimeSecs =
      if factor.config.digits ≤ 9 then some (factor.codeAt sha256 unixTimeSecs) else none := by
  have hpos : max factor.config.periodSecs 1 ≠ 0 := by omega
  rw [checkedCodeAt, divU64, if_neg hpos]
  exact checkedHotpSha256_eq digest ..

/-! The codes themselves. -/

theorem TotpFactor.isDigit_codeAt (factor : TotpFactor) (unixTimeSecs : Nat) :
    ∀ c ∈ (factor.codeAt sha256 unixTimeSecs).toList, c.isDigit = true := by
  rw [codeAt, hotpSha256_eq]
  exact zeroPadded_digits _ _

/-- A code has as many digits as configured, and one where none is configured. -/
theorem TotpFactor.length_codeAt (factor : TotpFactor) (unixTimeSecs : Nat) :
    (factor.codeAt sha256 unixTimeSecs).length = factor.config.digits ↔
      1 ≤ factor.config.digits := by
  rw [codeAt, hotpSha256_eq]
  constructor
  · intro hlength
    rw [← hlength]
    exact length_zeroPadded_pos ..
  · exact fun hpos => length_zeroPadded hpos (Nat.mod_lt _ (Nat.pow_pos (by decide)))

/-- The codes of a factor are well formed exactly if one to nine digits are configured. -/
theorem codeAt_wellFormed_iff (digest : ∀ bytes, (sha256 bytes).length = 32) (secret : TotpSecret)
    (config : TotpConfig) (unixTimeSecs : Nat) :
    (TotpFactor.new secret config).CodeWellFormed sha256 unixTimeSecs ↔
      1 ≤ config.digits ∧ config.digits ≤ 9 := by
  rw [TotpFactor.CodeWellFormed, TotpFactor.checkedCodeAt_eq digest]
  constructor
  · rintro ⟨code, hcode, hlength, -⟩
    split_ifs at hcode with hfew
    cases hcode
    exact ⟨(TotpFactor.length_codeAt ..).mp hlength, hfew⟩
  · rintro ⟨hpos, hfew⟩
    exact ⟨_, if_pos hfew, (TotpFactor.length_codeAt ..).mpr hpos,
      TotpFactor.isDigit_codeAt _ _⟩

end Digest

theorem codeAt_wellFormed_iff_default :
    (TotpFactor.new ⟨[]⟩ .default).CodeWellFormed Sha256.sha256 59 :=
  (codeAt_wellFormed_iff Sha256.length_sha256 ⟨[]⟩ .default 59).mpr ⟨by decide, by decide⟩

/-- Ten to the tenth does not fit in 32 bits. -/
theorem ten_digits_overflow : (∀ bytes, (Sha256.sha256 bytes).length = 32) ∧
    (TotpFactor.new ⟨[]⟩ { TotpConfig.default with digits := 10 }).checkedCodeAt
      Sha256.sha256 59 = none ∧
    ¬(TotpFactor.new ⟨[]⟩ { TotpConfig.default with digits := 10 }).CodeWellFormed
      Sha256.sha256 59 := by
  have hnone : (TotpFactor.new ⟨[]⟩ { TotpConfig.default with digits := 10 }).checkedCodeAt
      Sha256.sha256 59 = none := by
    decide +kernel
  refine ⟨Sha256.length_sha256, hnone, ?_⟩
  rintro ⟨code, hcode, -⟩
  rw [hnone] at hcode
  cases hcode

example : (TotpFactor.new ⟨"12345678901234567890123456789012".toUTF8.data.toList⟩
    { TotpConfig.default with digits := 8 }).checkedCodeAt Sha256.sha256 59 = some "46119246" := by
  decide +kernel

end Sunbolt.Auth
