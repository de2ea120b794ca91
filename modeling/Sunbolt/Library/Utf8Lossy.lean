/- Module: Sunbolt/Library/Utf8Lossy
   scope: general
   digest: Lossy UTF-8 decoding as a byte automaton, and when decoding commutes with splitting. -/

import Mathlib.Data.List.Basic
import Mathlib.Tactic.SplitIfs

set_option autoImplicit false
set_option relaxedAutoImplicit false

namespace Sunbolt.Library.Utf8Lossy

/-- U+FFFD, written once for each maximal ill-formed part of the input. -/
def replacement : Char := '\uFFFD'

/-- A byte of the form 10xxxxxx. -/
def isContinuation (b : UInt8) : Bool := 0x80 ≤ b.toNat && b.toNat ≤ 0xBF

/-- An unfinished multi-byte sequence: the range its next byte must lie in and how many
    bytes it needs after that one. The range never leaves the continuation bytes. -/
structure Pending where
  need : Nat
  low : Nat
  high : Nat
  value : Nat
  low_ge : 0x80 ≤ low
  high_le : high ≤ 0xBF

/-- The reaction to a byte outside any sequence, by the table of well-formed sequences. -/
def first (b : UInt8) : Option Pending × List Char :=
  let n := b.toNat
  if n ≤ 0x7F then (none, [Char.ofNat n])
  else if n < 0xC2 then (none, [replacement])
  else if n ≤ 0xDF then (some ⟨0, 0x80, 0xBF, n % 32, by decide, by decide⟩, [])
  else if n = 0xE0 then (some ⟨1, 0xA0, 0xBF, n % 16, by decide, by decide⟩, [])
  else if n = 0xED then (some ⟨1, 0x80, 0x9F, n % 16, by decide, by decide⟩, [])
  else if n ≤ 0xEF then (some ⟨1, 0x80, 0xBF, n % 16, by decide, by decide⟩, [])
  else if n = 0xF0 then (some ⟨2, 0x90, 0xBF, n % 8, by decide, by decide⟩, [])
  else if n ≤ 0xF3 then (some ⟨2, 0x80, 0xBF, n % 8, by decide, by decide⟩, [])
  else if n = 0xF4 then (some ⟨2, 0x80, 0x8F, n % 8, by decide, by decide⟩, [])
  else (none, [replacement])

/-- A byte the pending sequence accepts. -/
def Pending.accept (p : Pending) (b : UInt8) : Option Pending × List Char :=
  match p.need with
  | 0 => (none, [Char.ofNat (p.value * 64 + b.toNat % 64)])
  | k + 1 => (some ⟨k, 0x80, 0xBF, p.value * 64 + b.toNat % 64, by decide, by decide⟩, [])

/-- One byte. A byte the pending sequence does not accept ends that sequence and is then
    read as the first byte of another. -/
def feed : Option Pending → UInt8 → Option Pending × List Char
  | none, b => first b
  | some p, b =>
    if p.low ≤ b.toNat ∧ b.toNat ≤ p.high then p.accept b
    else ((first b).1, replacement :: (first b).2)

/-- What an input that stops inside a sequence still writes. -/
def flush : Option Pending → List Char
  | none => []
  | some _ => [replacement]

def decodeFrom (p : Option Pending) : List UInt8 → List Char
  | [] => flush p
  | b :: bs => (feed p b).2 ++ decodeFrom (feed p b).1 bs

/-- Lossy decoding of a whole byte string. -/
def decode (bs : List UInt8) : List Char := decodeFrom none bs

/-- The bytes of a text. -/
def encode (cs : List Char) : List UInt8 := cs.flatMap String.utf8EncodeChar

/-- The bytes that start a sequence. -/
def leads (bs : List UInt8) : Nat := bs.countP (fun b => !isContinuation b)

/-! Decoding an encoded text gives the text back. -/

private theorem toNat_byte {n : Nat} (h : n < 256) : (UInt8.ofNat n).toNat = n := by
  simp [UInt8.toNat_ofNat', Nat.mod_eq_of_lt h]

/-- The character with the number of a byte. -/
theorem toNat_charOfByte {b : UInt8} : (Char.ofNat b.toNat).toNat = b.toNat := by
  rw [Char.ofNat, dif_pos (Or.inl (Nat.lt_trans b.toNat_lt (by decide)))]
  rfl

/-- ASCII is encoded in one byte. -/
theorem encodeChar_ascii {c : Char} (h : c.toNat < 128) :
    String.utf8EncodeChar c = [UInt8.ofNat c.toNat] := by
  rw [String.utf8EncodeChar]
  exact if_pos (Nat.le_of_lt_succ h)

private theorem char_valid (c : Char) :
    c.toNat < 0xD800 ∨ (0xDFFF < c.toNat ∧ c.toNat < 0x110000) := c.valid

private theorem decodeFrom_first (b : UInt8) (bs : List UInt8) :
    decodeFrom none (b :: bs) = (first b).2 ++ decodeFrom (first b).1 bs := rfl

private theorem decodeFrom_last {low high value : Nat} (hlow : 0x80 ≤ low) (hhigh : high ≤ 0xBF)
    {b : UInt8} (hb : low ≤ b.toNat ∧ b.toNat ≤ high) (bs : List UInt8) :
    decodeFrom (some ⟨0, low, high, value, hlow, hhigh⟩) (b :: bs) =
      Char.ofNat (value * 64 + b.toNat % 64) :: decodeFrom none bs := by
  simp [decodeFrom, feed, Pending.accept, hb]

private theorem decodeFrom_middle {need low high value : Nat} (hlow : 0x80 ≤ low)
    (hhigh : high ≤ 0xBF) {b : UInt8} (hb : low ≤ b.toNat ∧ b.toNat ≤ high) (bs : List UInt8) :
    decodeFrom (some ⟨need + 1, low, high, value, hlow, hhigh⟩) (b :: bs) =
      decodeFrom (some ⟨need, 0x80, 0xBF, value * 64 + b.toNat % 64, by decide, by decide⟩) bs := by
  simp [decodeFrom, feed, Pending.accept, hb]

private theorem first_ascii {b : UInt8} (h : b.toNat ≤ 0x7F) :
    first b = (none, [Char.ofNat b.toNat]) := by
  simp [first, h]

private theorem first_two {b : UInt8} (h : 0xC2 ≤ b.toNat) (h' : b.toNat ≤ 0xDF) :
    first b = (some ⟨0, 0x80, 0xBF, b.toNat % 32, by decide, by decide⟩, []) := by
  simp only [first]
  rw [if_neg (by omega), if_neg (by omega), if_pos h']

/-- The second byte of a three-byte sequence excludes overlong forms and surrogates. -/
private theorem first_three {b : UInt8} (h : 0xE0 ≤ b.toNat) (h' : b.toNat ≤ 0xEF) :
    ∃ low high, ∃ (hlow : 0x80 ≤ low) (hhigh : high ≤ 0xBF),
      first b = (some ⟨1, low, high, b.toNat % 16, hlow, hhigh⟩, []) ∧
      (low = 0x80 ∨ (b.toNat = 0xE0 ∧ low = 0xA0)) ∧
      (high = 0xBF ∨ (b.toNat = 0xED ∧ high = 0x9F)) := by
  simp only [first]
  rw [if_neg (by omega), if_neg (by omega), if_neg (by omega)]
  split_ifs with h0 h1
  · exact ⟨0xA0, 0xBF, by decide, by decide, rfl, Or.inr ⟨h0, rfl⟩, Or.inl rfl⟩
  · exact ⟨0x80, 0x9F, by decide, by decide, rfl, Or.inl rfl, Or.inr ⟨h1, rfl⟩⟩
  · exact ⟨0x80, 0xBF, by decide, by decide, rfl, Or.inl rfl, Or.inl rfl⟩

/-- The second byte of a four-byte sequence excludes overlong forms and values past U+10FFFF. -/
private theorem first_four {b : UInt8} (h : 0xF0 ≤ b.toNat) (h' : b.toNat ≤ 0xF4) :
    ∃ low high, ∃ (hlow : 0x80 ≤ low) (hhigh : high ≤ 0xBF),
      first b = (some ⟨2, low, high, b.toNat % 8, hlow, hhigh⟩, []) ∧
      (low = 0x80 ∨ (b.toNat = 0xF0 ∧ low = 0x90)) ∧
      (high = 0xBF ∨ (b.toNat = 0xF4 ∧ high = 0x8F)) := by
  simp only [first]
  rw [if_neg (by omega), if_neg (by omega), if_neg (by omega), if_neg (by omega),
    if_neg (by omega), if_neg (by omega)]
  split_ifs with h0 h1 h2
  · exact ⟨0x90, 0xBF, by decide, by decide, rfl, Or.inr ⟨h0, rfl⟩, Or.inl rfl⟩
  · exact ⟨0x80, 0xBF, by decide, by decide, rfl, Or.inl rfl, Or.inl rfl⟩
  · exact ⟨0x80, 0x8F, by decide, by decide, rfl, Or.inl rfl, Or.inr ⟨h2, rfl⟩⟩
  · omega

theorem decodeFrom_encodeChar (c : Char) (bs : List UInt8) :
    decodeFrom none (String.utf8EncodeChar c ++ bs) = c :: decodeFrom none bs := by
  have hvalid := char_valid c
  have hchar : Char.ofNat c.toNat = c := Char.ofNat_toNat c
  simp only [String.utf8EncodeChar]
  simp only [Char.toNat] at hvalid hchar
  generalize c.val.toNat = v at hvalid hchar ⊢
  split_ifs with h1 h2 h3
  · rw [List.singleton_append, decodeFrom_first, first_ascii] <;>
      rw [toNat_byte (by omega)]
    · rw [hchar]
      rfl
    · exact h1
  · have lead : (UInt8.ofNat (v / 64 % 0x20 + 0xc0)).toNat = v / 64 + 0xc0 := by
      rw [toNat_byte (by omega)]
      omega
    have second : (UInt8.ofNat (v % 0x40 + 0x80)).toNat = v % 64 + 0x80 := toNat_byte (by omega)
    simp only [List.cons_append, List.nil_append]
    rw [decodeFrom_first, first_two (by omega) (by omega), List.nil_append,
      decodeFrom_last _ _ (by omega)]
    rw [lead, second, show (v / 64 + 0xc0) % 32 * 64 + (v % 64 + 0x80) % 64 = v by omega, hchar]
  · have lead : (UInt8.ofNat (v / 4096 % 0x10 + 0xe0)).toNat = v / 4096 + 0xe0 := by
      rw [toNat_byte (by omega)]
      omega
    have second : (UInt8.ofNat (v / 64 % 0x40 + 0x80)).toNat = v / 64 % 64 + 0x80 :=
      toNat_byte (by omega)
    have third : (UInt8.ofNat (v % 0x40 + 0x80)).toNat = v % 64 + 0x80 := toNat_byte (by omega)
    obtain ⟨low, high, hlow, hhigh, hfirst, low_cases, high_cases⟩ :=
      first_three (b := UInt8.ofNat (v / 4096 % 0x10 + 0xe0)) (by omega) (by omega)
    simp only [List.cons_append, List.nil_append]
    rw [decodeFrom_first, hfirst, List.nil_append, decodeFrom_middle _ _ (by omega),
      decodeFrom_last _ _ (by omega)]
    rw [lead, second, third,
      show ((v / 4096 + 0xe0) % 16 * 64 + (v / 64 % 64 + 0x80) % 64) * 64 +
        (v % 64 + 0x80) % 64 = v by omega, hchar]
  · have lead : (UInt8.ofNat (v / 262144 % 0x08 + 0xf0)).toNat = v / 262144 + 0xf0 := by
      rw [toNat_byte (by omega)]
      omega
    have second : (UInt8.ofNat (v / 4096 % 0x40 + 0x80)).toNat = v / 4096 % 64 + 0x80 :=
      toNat_byte (by omega)
    have third : (UInt8.ofNat (v / 64 % 0x40 + 0x80)).toNat = v / 64 % 64 + 0x80 :=
      toNat_byte (by omega)
    have fourth : (UInt8.ofNat (v % 0x40 + 0x80)).toNat = v % 64 + 0x80 := toNat_byte (by omega)
    obtain ⟨low, high, hlow, hhigh, hfirst, low_cases, high_cases⟩ :=
      first_four (b := UInt8.ofNat (v / 262144 % 0x08 + 0xf0)) (by omega) (by omega)
    simp only [List.cons_append, List.nil_append]
    rw [decodeFrom_first, hfirst, List.nil_append, decodeFrom_middle _ _ (by omega),
      decodeFrom_middle _ _ (by omega), decodeFrom_last _ _ (by omega)]
    rw [lead, second, third, fourth,
      show (((v / 262144 + 0xf0) % 8 * 64 + (v / 4096 % 64 + 0x80) % 64) * 64 +
        (v / 64 % 64 + 0x80) % 64) * 64 + (v % 64 + 0x80) % 64 = v by omega, hchar]

/-- Well-formed input decodes to the text it encodes. -/
theorem decode_encode (cs : List Char) : decode (encode cs) = cs := by
  induction cs with
  | nil => rfl
  | cons c cs ih =>
    change decodeFrom none (String.utf8EncodeChar c ++ encode cs) = c :: cs
    rw [decodeFrom_encodeChar]
    exact congrArg (c :: ·) ih

/-! A split in front of a byte that starts a sequence is invisible to the decoder. -/

private theorem feed_lead (p : Option Pending) {b : UInt8} (hb : isContinuation b = false) :
    (feed p b).2 = flush p ++ (first b).2 ∧ (feed p b).1 = (first b).1 := by
  cases p with
  | none => exact ⟨rfl, rfl⟩
  | some p =>
    have outside : ¬(p.low ≤ b.toNat ∧ b.toNat ≤ p.high) := by
      have hlow := p.low_ge
      have hhigh := p.high_le
      simp only [isContinuation, Bool.and_eq_false_iff, decide_eq_false_iff_not] at hb
      omega
    simp [feed, flush, outside]

private theorem decodeFrom_lead (p : Option Pending) {b : UInt8} (hb : isContinuation b = false)
    (bs : List UInt8) : decodeFrom p (b :: bs) = flush p ++ decode (b :: bs) := by
  obtain ⟨hout, hnext⟩ := feed_lead p hb
  simp only [decode, decodeFrom, hout, hnext, List.append_assoc]
  rfl

/-- The input does not start inside a sequence. -/
def StartsClean (bs : List UInt8) : Prop := ∀ b ∈ bs.head?, isContinuation b = false

instance (bs : List UInt8) : Decidable (StartsClean bs) :=
  inferInstanceAs (Decidable (∀ b ∈ bs.head?, isContinuation b = false))

private theorem decodeFrom_clean (p : Option Pending) {bs : List UInt8} (h : StartsClean bs) :
    decodeFrom p bs = flush p ++ decode bs := by
  cases bs with
  | nil => simp [decode, decodeFrom, flush]
  | cons b bs => exact decodeFrom_lead p (h b rfl) bs

theorem decode_append_clean (xs : List UInt8) {ys : List UInt8} (h : StartsClean ys) :
    decode (xs ++ ys) = decode xs ++ decode ys := by
  suffices hp : ∀ p, decodeFrom p (xs ++ ys) = decodeFrom p xs ++ decode ys from hp none
  induction xs with
  | nil => exact fun p => decodeFrom_clean p h
  | cons x xs ih =>
    intro p
    simp only [List.cons_append, decodeFrom, ih, List.append_assoc]

/-! Every sequence start is written as at least one character, and so is a stray byte. -/

@[simp] private theorem leads_nil : leads [] = 0 := rfl

private theorem leads_cons (b : UInt8) (bs : List UInt8) :
    leads (b :: bs) = leads bs + (if isContinuation b then 0 else 1) := by
  cases h : isContinuation b <;> simp [leads, h]

private def owed : Option Pending → Nat
  | none => 0
  | some _ => 1

@[simp] private theorem owed_none : owed none = 0 := rfl

@[simp] private theorem owed_some (p : Pending) : owed (some p) = 1 := rfl

private theorem one_le_first (b : UInt8) : 1 ≤ (first b).2.length + owed (first b).1 := by
  simp only [first]
  split_ifs <;> simp [owed]

private theorem owed_le_accept (p : Pending) (b : UInt8) :
    1 ≤ (p.accept b).2.length + owed (p.accept b).1 := by
  rw [Pending.accept]
  split <;> simp [owed]

private theorem owed_add_lead_le_feed (p : Option Pending) (b : UInt8) :
    owed p + (if isContinuation b then 0 else 1) ≤
      (feed p b).2.length + owed (feed p b).1 := by
  cases p with
  | none =>
    have h := one_le_first b
    simp only [feed, owed_none]
    split_ifs <;> omega
  | some p =>
    by_cases hin : p.low ≤ b.toNat ∧ b.toNat ≤ p.high
    · have hcont : isContinuation b = true := by
        have hlow := p.low_ge
        have hhigh := p.high_le
        simp only [isContinuation, Bool.and_eq_true, decide_eq_true_eq]
        omega
      have h := owed_le_accept p b
      simp only [feed, if_pos hin, hcont, owed_some, if_true]
      omega
    · have h := one_le_first b
      simp only [feed, if_neg hin, List.length_cons, owed_some]
      split_ifs <;> omega

private theorem leads_le_decodeFrom (p : Option Pending) (bs : List UInt8) :
    owed p + leads bs ≤ (decodeFrom p bs).length := by
  induction bs generalizing p with
  | nil => cases p <;> simp [owed, leads, decodeFrom, flush]
  | cons b bs ih =>
    have hfeed := owed_add_lead_le_feed p b
    have hrest := ih (feed p b).1
    rw [leads_cons, decodeFrom, List.length_append]
    omega

theorem leads_le_decode (bs : List UInt8) : leads bs ≤ (decode bs).length := by
  have h := leads_le_decodeFrom none bs
  rwa [owed_none, Nat.zero_add] at h

private theorem leads_lt_decode {bs : List UInt8} (h : ¬StartsClean bs) :
    leads bs < (decode bs).length := by
  cases bs with
  | nil => simp [StartsClean] at h
  | cons b bs =>
    have hcont : isContinuation b = true := by simpa [StartsClean] using h
    have hfirst : first b = (none, [replacement]) := by
      simp only [isContinuation, Bool.and_eq_true, decide_eq_true_eq] at hcont
      simp only [first]
      rw [if_neg (by omega), if_pos (by omega)]
    have hrest := leads_le_decode bs
    rw [leads_cons, hcont]
    simp only [decode, decodeFrom, feed, hfirst, List.length_append, List.length_singleton]
    simp only [decode] at hrest
    simp only [if_true]
    omega

private theorem leads_append (xs ys : List UInt8) : leads (xs ++ ys) = leads xs + leads ys :=
  List.countP_append

private theorem leads_encodeChar (c : Char) : leads (String.utf8EncodeChar c) = 1 := by
  have hvalid := char_valid c
  simp only [String.utf8EncodeChar]
  simp only [Char.toNat] at hvalid
  generalize c.val.toNat = v at hvalid ⊢
  have tail (n : Nat) : isContinuation (UInt8.ofNat (n % 0x40 + 0x80)) = true := by
    rw [isContinuation, toNat_byte (by omega)]
    simp only [Bool.and_eq_true, decide_eq_true_eq]
    omega
  have lead (n : Nat) (h : n < 256) (h' : n ≤ 0x7F ∨ 0xC0 ≤ n) :
      isContinuation (UInt8.ofNat n) = false := by
    rw [isContinuation, toNat_byte h]
    simp only [Bool.and_eq_false_iff, decide_eq_false_iff_not]
    omega
  split_ifs with h1 h2 h3
  · simp [leads_cons, lead v (by omega) (by omega)]
  · have hlead := lead (v / 64 % 0x20 + 0xc0) (by omega) (by omega)
    simp only [leads_cons, leads_nil, tail, hlead]
    rfl
  · have hlead := lead (v / 4096 % 0x10 + 0xe0) (by omega) (by omega)
    simp only [leads_cons, leads_nil, tail, hlead]
    rfl
  · have hlead := lead (v / 262144 % 0x08 + 0xf0) (by omega) (by omega)
    simp only [leads_cons, leads_nil, tail, hlead]
    rfl

theorem leads_encode (cs : List Char) : leads (encode cs) = cs.length := by
  induction cs with
  | nil => rfl
  | cons c cs ih =>
    change leads (String.utf8EncodeChar c ++ encode cs) = _
    rw [leads_append, leads_encodeChar, ih, List.length_cons, Nat.add_comm]

private theorem leads_flatten_le (chunks : List (List UInt8)) :
    leads chunks.flatten ≤ (chunks.flatMap decode).length := by
  induction chunks with
  | nil => simp [leads]
  | cons chunk chunks ih =>
    have h := leads_le_decode chunk
    rw [List.flatten_cons, leads_append, List.flatMap_cons, List.length_append]
    omega

private theorem leads_flatten_lt {chunks : List (List UInt8)} {chunk : List UInt8}
    (hmem : chunk ∈ chunks) (h : ¬StartsClean chunk) :
    leads chunks.flatten < (chunks.flatMap decode).length := by
  induction chunks with
  | nil => cases hmem
  | cons head chunks ih =>
    rw [List.flatten_cons, leads_append, List.flatMap_cons, List.length_append]
    rcases List.mem_cons.mp hmem with rfl | hmem
    · have hhead := leads_lt_decode h
      have hrest := leads_flatten_le chunks
      omega
    · have hhead := leads_le_decode head
      have hrest := ih hmem
      omega

private theorem startsClean_flatten {chunks : List (List UInt8)}
    (h : ∀ chunk ∈ chunks, StartsClean chunk) : StartsClean chunks.flatten := by
  induction chunks with
  | nil => simp [StartsClean]
  | cons chunk chunks ih =>
    cases chunk with
    | nil => exact ih (fun chunk hmem => h chunk (List.mem_cons_of_mem _ hmem))
    | cons b bs => exact h (b :: bs) List.mem_cons_self

theorem flatMap_decode_of_clean {chunks : List (List UInt8)}
    (h : ∀ chunk ∈ chunks, StartsClean chunk) :
    chunks.flatMap decode = decode chunks.flatten := by
  induction chunks with
  | nil => rfl
  | cons chunk chunks ih =>
    have hrest : ∀ chunk ∈ chunks, StartsClean chunk :=
      fun chunk hmem => h chunk (List.mem_cons_of_mem _ hmem)
    rw [List.flatMap_cons, ih hrest, List.flatten_cons,
      decode_append_clean chunk (startsClean_flatten hrest)]

/-- Decoding chunk by chunk gives the text of the whole exactly when no chunk starts
    inside a character. -/
theorem flatMap_decode_eq_iff {chunks : List (List UInt8)} {cs : List Char}
    (h : chunks.flatten = encode cs) :
    chunks.flatMap decode = cs ↔ ∀ chunk ∈ chunks, StartsClean chunk := by
  constructor
  · intro heq chunk hmem
    by_contra hdirty
    have hlt := leads_flatten_lt hmem hdirty
    rw [h, leads_encode, heq] at hlt
    exact Nat.lt_irrefl _ hlt
  · intro hclean
    rw [flatMap_decode_of_clean hclean, h, decode_encode]

end Sunbolt.Library.Utf8Lossy
