/- Module: Sunbolt/Library/BitGroups
   scope: general
   digest: Byte strings read as bits, cut into groups of another width, and written with symbols. -/

import Mathlib.Algebra.Group.Nat.Defs
import Mathlib.Data.List.Basic
import Mathlib.Tactic.SplitIfs

set_option autoImplicit false
set_option relaxedAutoImplicit false

namespace Sunbolt.Library.BitGroups

/-- The lowest bits of a number, the highest of them first. -/
def bitsOf (n : Nat) : Nat → List Bool
  | 0 => []
  | width + 1 => n.testBit width :: bitsOf n width

def ofBits : List Bool → Nat
  | [] => 0
  | bit :: bits => bit.toNat * 2 ^ bits.length + ofBits bits

/-- The bits of numbers of one width, one number after the other. -/
def stream (width : Nat) (numbers : List Nat) : List Bool := numbers.flatMap (bitsOf · width)

section Cut

variable {α : Type}

/-- The groups of this size, and what is left over; `group` is what the current one has so far. -/
def cut (size : Nat) (group : List α) : List α → List (List α) × List α
  | [] => ([], group)
  | a :: rest =>
    if group.length + 1 = size then
      ((group ++ [a]) :: (cut size [] rest).1, (cut size [] rest).2)
    else cut size (group ++ [a]) rest

end Cut

/-- A group that is filled up with zeros. -/
def padded (size : Nat) (group : List Bool) : List Bool :=
  group ++ List.replicate (size - group.length) false

/-- The bits in groups of this width, the last one padded by zeros. -/
def digits (width : Nat) (bits : List Bool) : List Nat :=
  ((cut width [] bits).1 ++
    if (cut width [] bits).2 = [] then [] else [padded width (cut width [] bits).2]).map ofBits

/-- The bits in groups of this width, without the last one where it is not whole. -/
def wholeDigits (width : Nat) (bits : List Bool) : List Nat := (cut width [] bits).1.map ofBits

/-! Numbers and their bits. -/

theorem length_bitsOf (n width : Nat) : (bitsOf n width).length = width := by
  induction width with
  | zero => rfl
  | succ width ih => rw [bitsOf, List.length_cons, ih]

theorem bitsOf_congr {m n width : Nat} (h : ∀ i < width, m.testBit i = n.testBit i) :
    bitsOf m width = bitsOf n width := by
  induction width with
  | zero => rfl
  | succ width ih =>
    rw [bitsOf, bitsOf, h width (Nat.lt_succ_self _), ih fun i hi => h i (Nat.lt_succ_of_lt hi)]

theorem bitsOf_mod (n width : Nat) : bitsOf (n % 2 ^ width) width = bitsOf n width := by
  refine bitsOf_congr fun i hi => ?_
  rw [Nat.testBit_mod_two_pow, decide_eq_true hi, Bool.true_and]

/-- The bits above the lowest ones, and those. -/
theorem bitsOf_add (n high low : Nat) :
    bitsOf n (high + low) = bitsOf (n >>> low) high ++ bitsOf n low := by
  induction high with
  | zero => rw [Nat.zero_add, bitsOf, List.nil_append]
  | succ high ih =>
    rw [Nat.succ_add, bitsOf, bitsOf, ih, Nat.testBit_shiftRight, Nat.add_comm low high,
      List.cons_append]

theorem bitsOf_zero (width : Nat) : bitsOf 0 width = List.replicate width false := by
  induction width with
  | zero => rfl
  | succ width ih => rw [bitsOf, ih, Nat.zero_testBit, List.replicate_succ]

/-- A number shifted to the left has zeros on its right. -/
theorem bitsOf_shiftLeft (n high low : Nat) :
    bitsOf (n <<< low) (high + low) = bitsOf n high ++ List.replicate low false := by
  rw [bitsOf_add, Nat.shiftLeft_shiftRight, ← bitsOf_zero]
  congr 1
  refine bitsOf_congr fun i hi => ?_
  rw [Nat.testBit_shiftLeft, decide_eq_false (Nat.not_le.mpr hi), Bool.false_and,
    Nat.zero_testBit]

/-- Below a number shifted to the left there is room for another one. -/
theorem bitsOf_or (n high : Nat) {m low : Nat} (h : m < 2 ^ low) :
    bitsOf (n <<< low ||| m) (high + low) = bitsOf n high ++ bitsOf m low := by
  have habove : ∀ i, low ≤ i → m.testBit i = false := fun i hi =>
    Nat.testBit_lt_two_pow (Nat.lt_of_lt_of_le h (Nat.pow_le_pow_right (by decide) hi))
  rw [bitsOf_add]
  congr 1
  · refine bitsOf_congr fun i _ => ?_
    rw [Nat.testBit_shiftRight, Nat.testBit_or, habove _ (Nat.le_add_right ..), Bool.or_false,
      Nat.testBit_shiftLeft, decide_eq_true (Nat.le_add_right ..), Bool.true_and,
      Nat.add_sub_cancel_left]
  · refine bitsOf_congr fun i hi => ?_
    rw [Nat.testBit_or, Nat.testBit_shiftLeft, decide_eq_false (Nat.not_le.mpr hi),
      Bool.false_and, Bool.false_or]

theorem ofBits_lt (bits : List Bool) : ofBits bits < 2 ^ bits.length := by
  induction bits with
  | nil => decide
  | cons bit bits ih =>
    rw [ofBits, List.length_cons, Nat.pow_succ]
    cases bit
    · rw [Bool.toNat_false]
      omega
    · rw [Bool.toNat_true]
      omega

theorem ofBits_bitsOf (n width : Nat) : ofBits (bitsOf n width) = n % 2 ^ width := by
  induction width with
  | zero => rw [bitsOf, ofBits, Nat.pow_zero, Nat.mod_one]
  | succ width ih =>
    rw [bitsOf, ofBits, length_bitsOf, ih, Nat.mod_pow_succ, Nat.toNat_testBit, Nat.add_comm,
      Nat.mul_comm]

theorem bitsOf_ofBits (bits : List Bool) : bitsOf (ofBits bits) bits.length = bits := by
  induction bits with
  | nil => rfl
  | cons bit bits ih =>
    have hlt := ofBits_lt bits
    have htop : (ofBits (bit :: bits)).testBit bits.length = bit := by
      rw [ofBits, Nat.mul_comm, Nat.testBit_two_pow_mul_add _ hlt, if_neg (Nat.lt_irrefl _),
        Nat.sub_self]
      cases bit <;> rfl
    have hlow : ofBits (bit :: bits) % 2 ^ bits.length = ofBits bits := by
      rw [ofBits, Nat.mul_comm, Nat.mul_add_mod, Nat.mod_eq_of_lt hlt]
    rw [List.length_cons, bitsOf, htop, ← bitsOf_mod, hlow, ih]

/-! Groups. -/

section Cut

variable {α : Type} {size : Nat}

theorem cut_append {group part : List α} (hpart : part ≠ [])
    (hsize : group.length + part.length = size) (rest : List α) :
    cut size group (part ++ rest) =
      ((group ++ part) :: (cut size [] rest).1, (cut size [] rest).2) := by
  induction part generalizing group with
  | nil => exact absurd rfl hpart
  | cons a part ih =>
    rw [List.cons_append, cut]
    rw [List.length_cons] at hsize
    by_cases hlast : part = []
    · subst hlast
      rw [if_pos (by simpa using hsize), List.nil_append]
    · have hpos := List.length_pos_of_ne_nil hlast
      rw [if_neg (by omega), ih hlast (by rw [List.length_append, List.length_singleton]; omega),
        List.append_assoc, List.singleton_append]

theorem cut_short {group part : List α} (hsize : group.length + part.length < size) :
    cut size group part = ([], group ++ part) := by
  induction part generalizing group with
  | nil => rw [cut, List.append_nil]
  | cons a part ih =>
    rw [List.length_cons] at hsize
    rw [cut, if_neg (by omega), ih (by rw [List.length_append, List.length_singleton]; omega),
      List.append_assoc, List.singleton_append]

/-- Groups put one after another are cut into the same groups. -/
theorem cut_flatten (hpos : 0 < size) {groups : List (List α)}
    (hsize : ∀ group ∈ groups, group.length = size) {left : List α} (hleft : left.length < size) :
    cut size [] (groups.flatten ++ left) = (groups, left) := by
  induction groups with
  | nil => exact cut_short (by rwa [List.length_nil, Nat.zero_add])
  | cons group groups ih =>
    have hgroup := hsize group List.mem_cons_self
    have hne : group ≠ [] := by
      rintro rfl
      rw [← hgroup] at hpos
      exact Nat.lt_irrefl _ hpos
    rw [List.flatten_cons, List.append_assoc,
      cut_append hne (by rw [List.length_nil, Nat.zero_add, hgroup]),
      ih fun other hother => hsize other (List.mem_cons_of_mem _ hother), List.nil_append]

/-- Every list is whole groups and a shorter rest. -/
theorem exists_cut (hpos : 0 < size) (l : List α) :
    ∃ (groups : List (List α)) (left : List α), (∀ group ∈ groups, group.length = size) ∧
      left.length < size ∧ l = groups.flatten ++ left := by
  induction hn : l.length using Nat.strongRecOn generalizing l with
  | ind n ih =>
    by_cases hshort : l.length < size
    · exact ⟨[], l, fun _ hgroup => absurd hgroup List.not_mem_nil, hshort, rfl⟩
    · obtain ⟨groups, left, hgroups, hleft, hsplit⟩ :=
        ih (l.drop size).length (by rw [List.length_drop]; omega) (l.drop size) rfl
      refine ⟨l.take size :: groups, left, List.forall_mem_cons.mpr ⟨?_, hgroups⟩, hleft, ?_⟩
      · rw [List.length_take]
        omega
      · rw [List.flatten_cons, List.append_assoc, ← hsplit, List.take_append_drop]

end Cut

theorem length_padded {size : Nat} {group : List Bool} (h : group.length ≤ size) :
    (padded size group).length = size := by
  rw [padded, List.length_append, List.length_replicate]
  omega

/-! Digits. -/

section Digits

variable {width : Nat}

theorem digits_nil (width : Nat) : digits width [] = [] := rfl

theorem digits_append {part : List Bool} (hpos : 0 < width) (hpart : part.length = width)
    (rest : List Bool) : digits width (part ++ rest) = ofBits part :: digits width rest := by
  have hne : part ≠ [] := by
    rintro rfl
    rw [← hpart] at hpos
    exact Nat.lt_irrefl _ hpos
  have hcut : cut width [] (part ++ rest) = _ :=
    cut_append hne (by rw [List.length_nil, Nat.zero_add, hpart]) rest
  rw [digits, hcut, List.nil_append, List.cons_append, List.map_cons]
  rfl

theorem digits_short {part : List Bool} (hne : part ≠ []) (hpart : part.length < width) :
    digits width part = [ofBits (padded width part)] := by
  rw [digits, cut_short (by rwa [List.length_nil, Nat.zero_add])]
  rw [List.nil_append, List.nil_append, if_neg hne, List.map_singleton]

/-- Written out again, digits of these bits are the bits and the padding. -/
theorem exists_stream_digits (hpos : 0 < width) (bits : List Bool) : ∃ padding < width,
    stream width (digits width bits) = bits ++ List.replicate padding false := by
  obtain ⟨groups, left, hgroups, hleft, rfl⟩ := exists_cut hpos bits
  have hwritten : ∀ {groups : List (List Bool)}, (∀ group ∈ groups, group.length = width) →
      stream width (groups.map ofBits) = groups.flatten := by
    intro groups hgroups
    rw [stream, List.flatMap_map, ← List.flatMap_id]
    refine List.flatMap_congr fun group hgroup => ?_
    rw [← hgroups group hgroup, bitsOf_ofBits]
    rfl
  rw [digits, cut_flatten hpos hgroups hleft]
  dsimp only
  split_ifs with hnil
  · refine ⟨0, hpos, ?_⟩
    rw [List.append_nil, hwritten hgroups, hnil, List.replicate_zero, List.append_nil,
      List.append_nil]
  · have hshort := List.length_pos_of_ne_nil hnil
    refine ⟨width - left.length, by omega, ?_⟩
    rw [hwritten, List.flatten_append, List.flatten_singleton, padded, List.append_assoc]
    intro group hgroup
    rcases List.mem_append.mp hgroup with hgroup | hgroup
    · exact hgroups group hgroup
    · rw [List.mem_singleton.mp hgroup, length_padded (Nat.le_of_lt hleft)]

theorem length_digits (hpos : 0 < width) (bits : List Bool) :
    (digits width bits).length = (bits.length + (width - 1)) / width := by
  obtain ⟨groups, left, hgroups, hleft, rfl⟩ := exists_cut hpos bits
  have hflatten : groups.flatten.length = width * groups.length := by
    rw [List.length_flatten, List.map_congr_left hgroups, List.map_const',
      List.sum_replicate_nat, Nat.mul_comm]
  rw [digits, cut_flatten hpos hgroups hleft, List.length_map, List.length_append,
    List.length_append, hflatten, Nat.add_assoc, Nat.mul_add_div hpos]
  congr 1
  dsimp only
  split_ifs with hnil
  · rw [hnil, List.length_nil, List.length_nil, Nat.zero_add, Nat.div_eq_of_lt (by omega)]
  · have hshort := List.length_pos_of_ne_nil hnil
    rw [List.length_singleton]
    exact (Nat.div_eq_of_lt_le (by omega) (by omega)).symm

theorem digits_lt (hpos : 0 < width) (bits : List Bool) :
    ∀ digit ∈ digits width bits, digit < 2 ^ width := by
  obtain ⟨groups, left, hgroups, hleft, rfl⟩ := exists_cut hpos bits
  rw [digits, cut_flatten hpos hgroups hleft]
  intro digit hdigit
  obtain ⟨group, hgroup, rfl⟩ := List.mem_map.mp hdigit
  have hlength : group.length = width := by
    rcases List.mem_append.mp hgroup with hgroup | hgroup
    · exact hgroups group hgroup
    · split_ifs at hgroup
      · exact absurd hgroup List.not_mem_nil
      · rw [List.mem_singleton.mp hgroup, length_padded (Nat.le_of_lt hleft)]
  rw [← hlength]
  exact ofBits_lt group

/-- The whole numbers of a stream are those it was written from, whatever little follows. -/
theorem wholeDigits_stream (hpos : 0 < width) {numbers : List Nat}
    (hlt : ∀ n ∈ numbers, n < 2 ^ width) {left : List Bool} (hleft : left.length < width) :
    wholeDigits width (stream width numbers ++ left) = numbers := by
  have hgroups : ∀ group ∈ numbers.map (bitsOf · width), group.length = width := by
    intro group hgroup
    obtain ⟨n, -, rfl⟩ := List.mem_map.mp hgroup
    exact length_bitsOf n width
  have hback : ∀ n ∈ numbers, ofBits (bitsOf n width) = n := by
    intro n hn
    rw [ofBits_bitsOf, Nat.mod_eq_of_lt (hlt n hn)]
  rw [wholeDigits, stream, List.flatMap_def, cut_flatten hpos hgroups hleft, List.map_map]
  exact (List.map_congr_left hback).trans (List.map_id _)

/-- Zeros that fill up the last group do not change the digits. -/
theorem digits_padding (hpos : 0 < width) {bits : List Bool} {padding : Nat}
    (hpadding : padding < width) (hwhole : (bits.length + padding) % width = 0) :
    digits width (bits ++ List.replicate padding false) = digits width bits := by
  obtain ⟨groups, left, hgroups, hleft, rfl⟩ := exists_cut hpos bits
  induction groups with
  | nil =>
    rw [List.flatten_nil, List.nil_append] at hwhole ⊢
    by_cases hnil : left = []
    · rw [hnil, List.length_nil, Nat.zero_add, Nat.mod_eq_of_lt hpadding] at hwhole
      rw [hnil, hwhole]
      rfl
    · have hshort := List.length_pos_of_ne_nil hnil
      have hfull : left.length + padding = width := by
        obtain ⟨k, hk⟩ := Nat.dvd_of_mod_eq_zero hwhole
        obtain rfl : k = 1 := by
          rcases k with _ | _ | k
          · omega
          · rfl
          · rw [Nat.mul_succ, Nat.mul_succ] at hk
            omega
        omega
      have hlength : (left ++ List.replicate padding false).length = width := by
        rw [List.length_append, List.length_replicate, hfull]
      have hone := digits_append hpos hlength []
      rw [List.append_nil] at hone
      rw [hone, digits_short hnil hleft, padded, ← hfull, Nat.add_sub_cancel_left]
      rfl
  | cons group groups ih =>
    have hgroup := hgroups group List.mem_cons_self
    rw [List.flatten_cons, List.append_assoc group] at hwhole ⊢
    rw [List.length_append, hgroup, Nat.add_assoc, Nat.add_mod_left] at hwhole
    rw [List.append_assoc group, digits_append hpos hgroup, digits_append hpos hgroup,
      ih (fun other hother => hgroups other (List.mem_cons_of_mem _ hother)) hwhole]

end Digits

/-! Bytes written with the symbols of an alphabet, one for each group of bits. -/

/-- One symbol for each number of so many bits. -/
structure Alphabet (width : Nat) where
  symbols : List Char
  size : symbols.length = 2 ^ width
  nodup : symbols.Nodup

namespace Alphabet

variable {width : Nat} (alphabet : Alphabet width)

def symbol (digit : Nat) : Char := alphabet.symbols.getD digit 'A'

def value (c : Char) : Option Nat :=
  if c ∈ alphabet.symbols then some (alphabet.symbols.idxOf c) else none

def encode (bytes : List UInt8) : List Char :=
  (digits width (stream 8 (bytes.map UInt8.toNat))).map alphabet.symbol

/-- What is left over after the last whole byte is dropped. -/
def decode (text : List Char) : Option (List UInt8) :=
  (text.mapM alphabet.value).map (fun values =>
    (wholeDigits 8 (stream width values)).map UInt8.ofNat)

theorem symbol_mem {digit : Nat} (h : digit < 2 ^ width) :
    alphabet.symbol digit ∈ alphabet.symbols := by
  rw [← alphabet.size] at h
  rw [symbol, List.getD_eq_getElem?_getD, List.getElem?_eq_getElem h, Option.getD_some]
  exact List.getElem_mem h

theorem value_symbol {digit : Nat} (h : digit < 2 ^ width) :
    alphabet.value (alphabet.symbol digit) = some digit := by
  rw [value, if_pos (alphabet.symbol_mem h)]
  rw [← alphabet.size] at h
  rw [symbol, List.getD_eq_getElem?_getD, List.getElem?_eq_getElem h, Option.getD_some,
    alphabet.nodup.idxOf_getElem digit h]

theorem mapM_value {values : List Nat} (h : ∀ digit ∈ values, digit < 2 ^ width) :
    (values.map alphabet.symbol).mapM alphabet.value = some values := by
  induction values with
  | nil => rfl
  | cons digit values ih =>
    rw [List.map_cons, List.mapM_cons, alphabet.value_symbol (h digit List.mem_cons_self),
      ih fun other hother => h other (List.mem_cons_of_mem _ hother)]
    rfl

theorem decode_encode (hpos : 0 < width) (hle : width ≤ 8) (bytes : List UInt8) :
    alphabet.decode (alphabet.encode bytes) = some bytes := by
  obtain ⟨padding, hpadding, hstream⟩ :=
    exists_stream_digits hpos (stream 8 (bytes.map UInt8.toNat))
  have hbytes : ∀ n ∈ bytes.map UInt8.toNat, n < 2 ^ 8 := by
    intro n hn
    obtain ⟨b, -, rfl⟩ := List.mem_map.mp hn
    exact b.toNat_lt
  have hback : ∀ b ∈ bytes, UInt8.ofNat b.toNat = b := fun b _ => UInt8.ofNat_toNat
  rw [decode, encode, alphabet.mapM_value (digits_lt hpos _), Option.map_some, hstream,
    wholeDigits_stream (by decide) hbytes (by rw [List.length_replicate]; omega), List.map_map]
  exact congrArg some ((List.map_congr_left hback).trans (List.map_id _))

theorem length_encode (hpos : 0 < width) (bytes : List UInt8) :
    (alphabet.encode bytes).length = (8 * bytes.length + (width - 1)) / width := by
  have hbits : ∀ numbers : List Nat, (stream 8 numbers).length = 8 * numbers.length := by
    intro numbers
    induction numbers with
    | nil => rfl
    | cons n numbers ih =>
      rw [stream, List.flatMap_cons, List.length_append, length_bitsOf, ← stream, ih,
        List.length_cons]
      omega
  rw [encode, List.length_map, length_digits hpos, hbits, List.length_map]

theorem mem_symbols_of_mem_encode (hpos : 0 < width) {bytes : List UInt8} {c : Char}
    (h : c ∈ alphabet.encode bytes) : c ∈ alphabet.symbols := by
  obtain ⟨digit, hdigit, rfl⟩ := List.mem_map.mp h
  exact alphabet.symbol_mem (digits_lt hpos _ digit hdigit)

theorem encode_injective (hpos : 0 < width) (hle : width ≤ 8) :
    Function.Injective alphabet.encode := by
  intro bytes others heq
  have hdecode := congrArg alphabet.decode heq
  rw [alphabet.decode_encode hpos hle, alphabet.decode_encode hpos hle] at hdecode
  exact Option.some.inj hdecode

end Alphabet

end Sunbolt.Library.BitGroups
