/- Module: Sunbolt/Library/Utf8Text
   scope: general
   digest: Reading a text through byte positions: bytes, slices, and classes of ASCII characters. -/

import Sunbolt.Library.CheckedLoops
import Sunbolt.Library.Utf8Lossy
import Mathlib.Data.List.TakeWhile

set_option autoImplicit false
set_option relaxedAutoImplicit false

namespace Sunbolt.Library.Utf8Text

open Utf8Lossy

/-! What a program reads of a text it has the bytes of. -/

def byteAt (text : List UInt8) (index : Nat) : Checked UInt8 :=
  match text[index]? with
  | some byte => .ok byte
  | none => .error .outOfRange

/-- A slice does not start or end inside a character. -/
def isCharBoundary (text : List UInt8) (index : Nat) : Bool :=
  index = 0 || index = text.length || text[index]?.any (!isContinuation ·)

/-- Fails unless `start` and `stop` are in order, in the text and between characters. -/
def slice (text : List UInt8) (start stop : Nat) : Checked (List UInt8) :=
  if start ≤ stop ∧ stop ≤ text.length then
    if isCharBoundary text start && isCharBoundary text stop then
      .ok ((text.take stop).drop start)
    else .error .notOnBoundary
  else .error .outOfRange

/-- The character with the number of a byte. -/
def charOf (byte : UInt8) : Char := Char.ofNat byte.toNat

/-- Whether there is a byte of this kind at the index. -/
def holdsAt (p : Char → Bool) (text : List UInt8) (index : Nat) : Checked Bool :=
  if index < text.length then do
    let byte ← byteAt text index
    return p (charOf byte)
  else return false

def whileTurn (p : Char → Bool) (text : List UInt8) (index : Nat) : Checked (Turn Nat Nat) := do
  if ← holdsAt p text index then return .goOn (index + 1) else return .finish index

/-- The first index from this one on with a byte of another kind. -/
def skipWhile (p : Char → Bool) (text : List UInt8) (start : Nat) : Checked Nat :=
  runLoop (whileTurn p text) (text.length + 1) start

/-- The first byte of this kind. -/
def find (c : Char) (text : List UInt8) : Option Nat := text.findIdx? (charOf · = c)

/-- The two parts of a text around an index between characters. -/
def splitAt (text : List UInt8) (middle : Nat) : Checked (List UInt8 × List UInt8) := do
  let front ← slice text 0 middle
  let back ← slice text middle text.length
  return (front, back)

/-- The index behind this part of a text. -/
def position (front : List Char) : Nat := (encode front).length

/-- The characters outside ASCII are of one kind. -/
def Uniform (p : Char → Bool) : Prop :=
  ∀ c d : Char, 128 ≤ c.toNat → 128 ≤ d.toNat → p c = p d

theorem lt_of_byteAt {text : List UInt8} {index : Nat} {byte : UInt8}
    (h : byteAt text index = .ok byte) : index < text.length := by
  rw [byteAt] at h
  by_contra hge
  rw [List.getElem?_eq_none (Nat.le_of_not_lt hge)] at h
  cases h

/-! The bytes of one character. -/

theorem toNat_charOf (byte : UInt8) : (charOf byte).toNat = byte.toNat := toNat_charOfByte

theorem charOf_inj {byte other : UInt8} : charOf byte = charOf other ↔ byte = other := by
  constructor
  · intro h
    rw [← UInt8.toNat_inj, ← toNat_charOf, h, toNat_charOf]
  · rintro rfl
    rfl

theorem mem_ascii {c : Char} (h : c.toNat < 128) {byte : UInt8}
    (hmem : byte ∈ String.utf8EncodeChar c) : charOf byte = c := by
  rw [encodeChar_ascii h, List.mem_singleton] at hmem
  subst hmem
  rw [charOf, UInt8.toNat_ofNat', Nat.mod_eq_of_lt (by omega), Char.ofNat_toNat]

/-- Only the first byte of a character outside ASCII starts a sequence. -/
private theorem encodeChar_wide {c : Char} (h : 128 ≤ c.toNat) :
    ∃ lead tail, String.utf8EncodeChar c = lead :: tail ∧ 0xC0 ≤ lead.toNat ∧
      ∀ byte ∈ tail, 0x80 ≤ byte.toNat := by
  have hvalid : c.toNat < 0xD800 ∨ (0xDFFF < c.toNat ∧ c.toNat < 0x110000) := c.valid
  simp only [String.utf8EncodeChar]
  simp only [Char.toNat] at h hvalid
  generalize c.val.toNat = v at h hvalid ⊢
  have tail (n : Nat) : 0x80 ≤ (UInt8.ofNat (n % 0x40 + 0x80)).toNat := by
    rw [UInt8.toNat_ofNat', Nat.mod_eq_of_lt (by omega)]
    omega
  have lead (n : Nat) (hn : n < 256) (hge : 0xC0 ≤ n) : 0xC0 ≤ (UInt8.ofNat n).toNat := by
    rw [UInt8.toNat_ofNat', Nat.mod_eq_of_lt hn]
    exact hge
  split_ifs with h1 h2 h3
  · omega
  · exact ⟨_, _, rfl, lead _ (by omega) (by omega), List.forall_mem_singleton.mpr (tail _)⟩
  · exact ⟨_, _, rfl, lead _ (by omega) (by omega),
      List.forall_mem_cons.mpr ⟨tail _, List.forall_mem_singleton.mpr (tail _)⟩⟩
  · exact ⟨_, _, rfl, lead _ (by omega) (by omega), List.forall_mem_cons.mpr ⟨tail _,
      List.forall_mem_cons.mpr ⟨tail _, List.forall_mem_singleton.mpr (tail _)⟩⟩⟩

theorem mem_wide {c : Char} (h : 128 ≤ c.toNat) {byte : UInt8}
    (hmem : byte ∈ String.utf8EncodeChar c) : 128 ≤ (charOf byte).toNat := by
  obtain ⟨lead, tail, heq, hlead, htail⟩ := encodeChar_wide h
  rw [heq, List.mem_cons] at hmem
  rw [toNat_charOf]
  rcases hmem with rfl | hmem
  · omega
  · exact htail byte hmem

/-- Every byte of a character is of the kind of the character. -/
theorem Uniform.byte {p : Char → Bool} (uniform : Uniform p) {c : Char} {byte : UInt8}
    (hmem : byte ∈ String.utf8EncodeChar c) : p (charOf byte) = p c := by
  rcases Nat.lt_or_ge c.toNat 128 with h | h
  · rw [mem_ascii h hmem]
  · exact uniform _ _ (mem_wide h hmem) h

/-- A byte is an ASCII character only where the text has this character. -/
theorem byte_eq_iff {c d : Char} (hd : d.toNat < 128) {byte : UInt8}
    (hmem : byte ∈ String.utf8EncodeChar c) : charOf byte = d ↔ c = d := by
  rcases Nat.lt_or_ge c.toNat 128 with h | h
  · rw [mem_ascii h hmem]
  · have hwide := mem_wide h hmem
    constructor
    · rintro rfl
      omega
    · rintro rfl
      omega

private theorem startsClean_encodeChar (c : Char) (more : List UInt8) :
    StartsClean (String.utf8EncodeChar c ++ more) := by
  intro byte hbyte
  rw [isContinuation, Bool.and_eq_false_iff]
  rcases Nat.lt_or_ge c.toNat 128 with h | h
  · left
    rw [encodeChar_ascii h, List.singleton_append, List.head?_cons, Option.mem_some] at hbyte
    subst hbyte
    rw [UInt8.toNat_ofNat', Nat.mod_eq_of_lt (by omega), decide_eq_false_iff_not]
    omega
  · right
    obtain ⟨lead, tail, heq, hlead, -⟩ := encodeChar_wide h
    rw [heq, List.cons_append, List.head?_cons, Option.mem_some] at hbyte
    subst hbyte
    rw [decide_eq_false_iff_not]
    omega

/-! Positions. -/

theorem encode_append (front back : List Char) :
    encode (front ++ back) = encode front ++ encode back := List.flatMap_append

theorem encode_cons (c : Char) (back : List Char) :
    encode (c :: back) = String.utf8EncodeChar c ++ encode back := List.flatMap_cons

@[simp] theorem position_nil : position [] = 0 := rfl

theorem position_append (front back : List Char) :
    position (front ++ back) = position front + position back := by
  rw [position, encode_append, List.length_append]
  rfl

theorem position_ascii {c : Char} (h : c.toNat < 128) (front : List Char) :
    position (front ++ [c]) = position front + 1 := by
  rw [position_append, position, position, encode_cons, encodeChar_ascii h]
  rfl

theorem position_lt (front : List Char) (c : Char) : position front < position (front ++ [c]) := by
  have hpos : 0 < (String.utf8EncodeChar c).length := by
    rcases Nat.lt_or_ge c.toNat 128 with h | h
    · rw [encodeChar_ascii h]
      exact Nat.one_pos
    · obtain ⟨lead, tail, heq, -⟩ := encodeChar_wide h
      rw [heq]
      exact Nat.succ_pos _
  rw [position_append, position, position, encode_cons, List.length_append]
  omega

theorem position_le (front back : List Char) : position front ≤ position (front ++ back) := by
  rw [position_append]
  exact Nat.le_add_right _ _

theorem position_lt_append {back : List Char} (h : back ≠ []) (front : List Char) :
    position front < position (front ++ back) := by
  obtain ⟨c, back, rfl⟩ := List.exists_cons_of_ne_nil h
  have hle := position_le (front ++ [c]) back
  rw [List.append_assoc, List.singleton_append] at hle
  exact Nat.lt_of_lt_of_le (position_lt front c) hle

theorem length_encode (text : List Char) : (encode text).length = position text := rfl

/-- The indices from one character to the next are those of its bytes. -/
theorem byteAt_char (back : List Char) {front : List Char} {c : Char} {index : Nat}
    (hstart : position front ≤ index) (hstop : index < position (front ++ [c])) :
    ∃ byte ∈ String.utf8EncodeChar c, byteAt (encode (front ++ c :: back)) index = .ok byte := by
  have hlt : index - position front < (String.utf8EncodeChar c).length := by
    rw [position_append] at hstop
    have hlen : position [c] = (String.utf8EncodeChar c).length := by
      rw [position, encode_cons, List.length_append]
      rfl
    omega
  refine ⟨(String.utf8EncodeChar c)[index - position front], List.getElem_mem hlt, ?_⟩
  have hget : (encode (front ++ c :: back))[index]? =
      some (String.utf8EncodeChar c)[index - position front] := by
    rw [encode_append, encode_cons, List.getElem?_append_right hstart]
    change (String.utf8EncodeChar c ++ encode back)[index - position front]? = _
    rw [List.getElem?_append_left hlt, List.getElem?_eq_getElem hlt]
  rw [byteAt, hget]

theorem isCharBoundary_position (front back : List Char) :
    isCharBoundary (encode (front ++ back)) (position front) = true := by
  cases back with
  | nil =>
    rw [List.append_nil, isCharBoundary, length_encode]
    simp
  | cons c back =>
    have hget : (encode (front ++ c :: back))[position front]? = (encode (c :: back)).head? := by
      rw [encode_append, position, List.getElem?_append_right le_rfl, Nat.sub_self,
        List.head?_eq_getElem?]
    rw [isCharBoundary, hget, encode_cons]
    cases hhead : (String.utf8EncodeChar c ++ encode back).head? with
    | none =>
      have hpos := position_lt [] c
      rw [List.head?_eq_none_iff, List.append_eq_nil_iff] at hhead
      have hzero : position [c] = 0 := by
        rw [position, encode_cons, hhead.1]
        rfl
      rw [List.nil_append, hzero] at hpos
      cases hpos
    | some byte => simp [startsClean_encodeChar c (encode back) byte hhead]

/-- A slice from one character to another has the text between them. -/
theorem slice_position (front inner back : List Char) :
    slice (encode (front ++ inner ++ back)) (position front) (position (front ++ inner)) =
      .ok (encode inner) := by
  have hle : position front ≤ position (front ++ inner) := position_le front inner
  have hlen : position (front ++ inner) ≤ (encode (front ++ inner ++ back)).length :=
    position_le (front ++ inner) back
  have hstart := isCharBoundary_position front (inner ++ back)
  rw [← List.append_assoc] at hstart
  have hbytes : ((encode (front ++ inner ++ back)).take (position (front ++ inner))).drop
      (position front) = encode inner := by
    rw [encode_append (front ++ inner), position, position, List.take_left, encode_append,
      List.drop_left]
  rw [slice, if_pos ⟨hle, hlen⟩, hstart, isCharBoundary_position, Bool.and_self, if_pos rfl, hbytes]

theorem position_eq_zero {front : List Char} : position front = 0 ↔ front = [] := by
  constructor
  · intro h
    cases front with
    | nil => rfl
    | cons c front =>
      have hlt := position_lt [] c
      have hle := position_le [c] front
      rw [List.singleton_append, h] at hle
      rw [List.nil_append, position_nil] at hlt
      omega
  · rintro rfl
    rfl

/-- The bytes of an ASCII text are its characters. -/
theorem map_charOf_encode {text : List Char} (h : ∀ c ∈ text, c.toNat < 128) :
    (encode text).map charOf = text := by
  induction text with
  | nil => rfl
  | cons c text ih =>
    have hc := h c (List.mem_cons_self ..)
    have hmem : UInt8.ofNat c.toNat ∈ String.utf8EncodeChar c := by
      rw [encodeChar_ascii hc]
      exact List.mem_singleton_self _
    rw [encode_cons, List.map_append, ih (fun d hd => h d (List.mem_cons_of_mem _ hd)),
      encodeChar_ascii hc, List.map_singleton, mem_ascii hc hmem]
    rfl

theorem slice_front (front back : List Char) :
    slice (encode (front ++ back)) 0 (position front) = .ok (encode front) :=
  slice_position [] front back

theorem slice_back (front back : List Char) :
    slice (encode (front ++ back)) (position front) (encode (front ++ back)).length =
      .ok (encode back) := by
  have h := slice_position front back []
  rw [List.append_nil] at h
  exact h

theorem splitAt_position (front back : List Char) :
    splitAt (encode (front ++ back)) (position front) = .ok (encode front, encode back) := by
  rw [splitAt, slice_front, ok_bind, slice_back, ok_bind]
  rfl

theorem splitAt_length {text front back : List UInt8} {middle : Nat}
    (h : splitAt text middle = .ok (front, back)) : back.length = text.length - middle := by
  obtain ⟨first, -, h⟩ := bind_eq_ok.mp h
  obtain ⟨second, hslice, h⟩ := bind_eq_ok.mp h
  cases h
  rw [slice] at hslice
  split_ifs at hslice
  cases hslice
  rw [List.length_drop, List.take_length]

theorem mem_encode {text : List Char} {byte : UInt8} :
    byte ∈ encode text ↔ ∃ c ∈ text, byte ∈ String.utf8EncodeChar c := List.mem_flatMap

/-- The first byte of a kind is where the first character of the kind is. -/
theorem find_position {c : Char} (hc : c.toNat < 128) {front : List Char} (h : c ∉ front)
    (back : List Char) : find c (encode (front ++ c :: back)) = some (position front) := by
  have hfront : ∀ byte ∈ encode front, decide (charOf byte = c) = false := by
    intro byte hmem
    obtain ⟨d, hd, hbyte⟩ := mem_encode.mp hmem
    rw [decide_eq_false_iff_not, byte_eq_iff hc hbyte]
    rintro rfl
    exact h hd
  have hbyte : UInt8.ofNat c.toNat ∈ String.utf8EncodeChar c := by
    rw [encodeChar_ascii hc]
    exact List.mem_singleton_self _
  rw [find, encode_append, encode_cons, encodeChar_ascii hc, List.findIdx?_append,
    List.findIdx?_eq_none_iff.mpr hfront, Option.none_or, List.singleton_append,
    List.findIdx?_cons, mem_ascii hc hbyte]
  simp [position]

theorem find_none {c : Char} (hc : c.toNat < 128) {text : List Char} (h : c ∉ text) :
    find c (encode text) = none := by
  rw [find, List.findIdx?_eq_none_iff]
  intro byte hmem
  obtain ⟨d, hd, hbyte⟩ := mem_encode.mp hmem
  rw [decide_eq_false_iff_not, byte_eq_iff hc hbyte]
  rintro rfl
  exact h hd

theorem take_position (front back : List Char) :
    (encode (front ++ back)).take (position front) = encode front := by
  rw [encode_append, position, List.take_left]

/-- The last byte of a text is one of its last character. -/
theorem getLast?_encode (front : List Char) (c : Char) :
    ∃ byte ∈ String.utf8EncodeChar c, (encode (front ++ [c])).getLast? = some byte := by
  have hencode : encode [c] = String.utf8EncodeChar c := by
    rw [encode_cons]
    exact List.append_nil _
  have hne : String.utf8EncodeChar c ≠ [] := by
    intro hnil
    have hlt := position_lt [] c
    rw [List.nil_append, position, position, hencode, hnil] at hlt
    exact Nat.lt_irrefl _ hlt
  refine ⟨(String.utf8EncodeChar c).getLast hne, List.getLast_mem hne, ?_⟩
  rw [encode_append, hencode, List.getLast?_append_of_ne_nil _ hne,
    List.getLast?_eq_getLast_of_ne_nil]

/-! Classes of characters. -/

section Classes

variable {p q : Char → Bool}

theorem uniform_of_ascii (h : ∀ c, p c = true → c.toNat < 128) : Uniform p := by
  have outside : ∀ c : Char, 128 ≤ c.toNat → p c = false := by
    intro c hc
    by_contra hp
    exact absurd (h c (by simpa using hp)) (Nat.not_lt.mpr hc)
  intro c d hc hd
  rw [outside c hc, outside d hd]

theorem uniform_eq {d : Char} (hd : d.toNat < 128) : Uniform (fun c => c = d) :=
  uniform_of_ascii fun c h => (decide_eq_true_eq.mp h : c = d) ▸ hd

theorem Uniform.not (h : Uniform p) : Uniform (fun c => !p c) :=
  fun c d hc hd => congrArg (!·) (h c d hc hd)

end Classes

/-! Reading on. -/

section Reading

variable {p : Char → Bool} (uniform : Uniform p) (front : List Char)

theorem holdsAt_nil : holdsAt p (encode front) (position front) = .ok false :=
  if_neg (Nat.lt_irrefl _)

theorem lt_of_holdsAt {text : List UInt8} {index : Nat} (h : holdsAt p text index = .ok true) :
    index < text.length := by
  rw [holdsAt] at h
  split_ifs at h with hlt
  · exact hlt
  · cases h

theorem lt_length {front back : List Char} {c : Char} {index : Nat}
    (hstop : index < position (front ++ [c])) : index < (encode (front ++ c :: back)).length := by
  have hle := position_le (front ++ [c]) back
  rw [List.append_assoc, List.singleton_append] at hle
  exact Nat.lt_of_lt_of_le hstop hle

include uniform

theorem holdsAt_char {front back : List Char} {c : Char} {index : Nat}
    (hstart : position front ≤ index) (hstop : index < position (front ++ [c])) :
    holdsAt p (encode (front ++ c :: back)) index = .ok (p c) := by
  obtain ⟨byte, hmem, hbyte⟩ := byteAt_char back hstart hstop
  rw [holdsAt, if_pos (lt_length hstop), hbyte, ok_bind, uniform.byte hmem]
  rfl

theorem holdsAt_cons (c : Char) (back : List Char) :
    holdsAt p (encode (front ++ c :: back)) (position front) = .ok (p c) :=
  holdsAt_char uniform le_rfl (position_lt front c)

omit uniform in
theorem whileTurn_advances (p : Char → Bool) (text : List UInt8) :
    Advances (whileTurn p text) text.length id := by
  intro index next h
  obtain ⟨holds, hholds, h⟩ := bind_eq_ok.mp h
  cases holds with
  | false => cases h
  | true =>
    cases h
    exact ⟨lt_of_holdsAt hholds, Nat.lt_succ_self _⟩

omit uniform in
private theorem runWhile_le {text : List UInt8} {fuel start stop : Nat}
    (h : runLoop (whileTurn p text) fuel start = .ok stop) : start ≤ stop := by
  refine runLoop_post (I := fun index => start ≤ index) h le_rfl ?_ ?_
  · intro index next hle hturn
    exact hle.trans (whileTurn_advances p text index next hturn).2.le
  · intro index result hle hturn
    obtain ⟨holds, -, hturn⟩ := bind_eq_ok.mp hturn
    cases holds with
    | false =>
      cases hturn
      exact hle
    | true => cases hturn

omit uniform in
theorem skipWhile_le {text : List UInt8} {start stop : Nat}
    (h : skipWhile p text start = .ok stop) : start ≤ stop := runWhile_le h

omit uniform in
theorem lt_skipWhile {text : List UInt8} {start stop : Nat}
    (holds : holdsAt p text start = .ok true) (h : skipWhile p text start = .ok stop) :
    start < stop := by
  have hturn : whileTurn p text start = .ok (.goOn (start + 1)) := by
    rw [whileTurn, holds]
    rfl
  rw [skipWhile, runLoop, hturn] at h
  exact runWhile_le h

private theorem whileTurn_ends (back : List Char) :
    Ends (whileTurn p (encode (front ++ back))) (position front)
      (.ok (position (front ++ back.takeWhile p))) := by
  induction back generalizing front with
  | nil =>
    rw [List.append_nil, List.takeWhile_nil, List.append_nil]
    refine .finish ?_
    rw [whileTurn, holdsAt_nil]
    rfl
  | cons c back ih =>
    cases hc : p c with
    | false =>
      rw [List.takeWhile_cons_of_neg (by simp [hc]), List.append_nil]
      refine .finish ?_
      rw [whileTurn, holdsAt_cons uniform, hc]
      rfl
    | true =>
      have hnext := ih (front ++ [c])
      rw [List.append_assoc, List.append_assoc, List.singleton_append, List.singleton_append]
        at hnext
      rw [List.takeWhile_cons_of_pos hc]
      refine Ends.skip id hnext (position_lt front c).le fun index hstart hstop => ?_
      rw [id, whileTurn, holdsAt_char uniform hstart hstop, hc]
      rfl

theorem skipWhile_position (back : List Char) :
    skipWhile p (encode (front ++ back)) (position front) =
      .ok (position (front ++ back.takeWhile p)) :=
  (whileTurn_ends uniform front back).run (whileTurn_advances p _).shrinks
    (Nat.lt_succ_of_le (Nat.sub_le _ _))

end Reading

end Sunbolt.Library.Utf8Text
