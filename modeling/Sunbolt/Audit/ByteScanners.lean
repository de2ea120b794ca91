/- Module: Sunbolt/Audit/ByteScanners
   scope: sunbolt-audit/src/redaction.rs
   digest: The scanners read a text byte by byte as the character model reads it. -/

import Sunbolt.Audit.ByteRedaction
import Sunbolt.Audit.KeyLoop

set_option autoImplicit false
set_option relaxedAutoImplicit false

namespace Sunbolt.Audit.ByteRedaction

open Sunbolt.Library Sunbolt.Library.Utf8Text
open Sunbolt.Library.Utf8Lossy (encode decode)

/-! The classes of bytes are classes of ASCII characters. -/

theorem ascii_of_alphanumeric {c : Char} (h : isAsciiAlphanumeric c = true) : c.toNat < 128 := by
  have range : ∀ {low high : Char}, low ≤ c ∧ c ≤ high → high.toNat < 128 → c.toNat < 128 :=
    fun hc hhigh => Nat.lt_of_le_of_lt hc.2 hhigh
  simp only [isAsciiAlphanumeric, Bool.or_eq_true, Bool.and_eq_true, decide_eq_true_eq] at h
  rcases h with (h | h) | h
  · exact range h (by decide)
  · exact range h (by decide)
  · exact range h (by decide)

theorem ascii_of_identifier {c : Char} (h : isIdentifierByte c = true) : c.toNat < 128 := by
  simp only [isIdentifierByte, Bool.or_eq_true, decide_eq_true_eq] at h
  rcases h with (h | rfl) | rfl
  · exact ascii_of_alphanumeric h
  · decide
  · decide

theorem ascii_of_space {c : Char} (h : isAsciiWhitespace c = true) : c.toNat < 128 := by
  simp only [isAsciiWhitespace, Bool.or_eq_true, decide_eq_true_eq] at h
  rcases h with (((rfl | rfl) | rfl) | rfl) | rfl
  · decide
  · decide
  · decide
  · decide
  · decide

theorem ascii_of_token {c : Char} (h : isTokenByte c = true) : c.toNat < 128 := by
  simp only [isTokenByte, Bool.or_eq_true, decide_eq_true_eq] at h
  rcases h with (((h | rfl) | rfl) | rfl) | rfl
  · exact ascii_of_alphanumeric h
  · decide
  · decide
  · decide
  · decide

theorem uniform_identifier : Uniform isIdentifierByte :=
  uniform_of_ascii fun _ => ascii_of_identifier

theorem uniform_space : Uniform isAsciiWhitespace := uniform_of_ascii fun _ => ascii_of_space

theorem uniform_token : Uniform isTokenByte := uniform_of_ascii fun _ => ascii_of_token

theorem ascii_of_delimiter {c : Char} (h : isDelimiter c = true) : c.toNat < 128 := by
  rw [isDelimiter, Bool.or_eq_true, decide_eq_true_eq, decide_eq_true_eq] at h
  rcases h with rfl | rfl
  · decide
  · decide

theorem uniform_delimiter : Uniform (fun c => c = ':' || c = '=') :=
  uniform_of_ascii fun _ => ascii_of_delimiter

theorem ascii_of_quote {q : Char} (hq : q = '"' ∨ q = '\'') : q.toNat < 128 ∧ q ≠ '\\' := by
  rcases hq with rfl | rfl
  · decide
  · decide

/-! Identifiers. -/

section Identifiers

variable (done : List Char)

/-- No identifier starts at a character that is none, or inside it. -/
private theorem startsIdentifier_other {c : Char} (hc : isIdentifierByte c = false)
    (rest : List Char) {index : Nat} (hstart : position done ≤ index)
    (hstop : index < position (done ++ [c])) :
    startsIdentifier (encode (done ++ c :: rest)) index = .ok false := by
  obtain ⟨byte, hmem, hbyte⟩ := byteAt_char rest hstart hstop
  rw [startsIdentifier, hbyte, ok_bind, uniform_identifier.byte hmem, hc]
  rfl

/-- One starts at a character of an identifier with none before it. -/
private theorem startsIdentifier_cons {c : Char} (hc : isIdentifierByte c = true)
    (rest : List Char) :
    startsIdentifier (encode (done ++ c :: rest)) (position done) =
      .ok (isBorder done.getLast?) := by
  obtain ⟨byte, hmem, hbyte⟩ := byteAt_char rest le_rfl (position_lt done c)
  rw [startsIdentifier, hbyte, ok_bind, uniform_identifier.byte hmem, hc, if_pos rfl]
  rcases List.eq_nil_or_concat' done with rfl | ⟨front, d, rfl⟩
  · rfl
  · have hlt := position_lt front d
    rw [if_neg (Nat.ne_zero_of_lt hlt), List.append_assoc, List.singleton_append]
    obtain ⟨previous, hmem, hbyte⟩ := byteAt_char (c :: rest)
      (Nat.le_sub_one_of_lt hlt) (Nat.sub_one_lt (Nat.ne_zero_of_lt hlt))
    rw [hbyte, ok_bind, uniform_identifier.byte hmem, List.getLast?_concat]
    rfl

theorem nextIdentifierTurn_advances (text : List UInt8) :
    Advances (nextIdentifierTurn text) text.length id := by
  intro index next h
  rw [nextIdentifierTurn] at h
  split_ifs at h with hlt
  · obtain ⟨starts, -, h⟩ := bind_eq_ok.mp h
    cases starts with
    | true =>
      obtain ⟨stop, -, h⟩ := bind_eq_ok.mp h
      obtain ⟨key, -, h⟩ := bind_eq_ok.mp h
      cases h
    | false =>
      cases h
      exact ⟨hlt, Nat.lt_succ_self _⟩
  · cases h

/-- The indices of an identifier, and its key. -/
def identifierAt (done : List Char) : List Char × List Char × List Char → Nat × Nat × List Char
  | (skipped, key, _) =>
    (position (done ++ skipped), position (done ++ skipped ++ key), normalizeKey key)

private theorem nextIdentifier_ends (rest : List Char) :
    Ends (nextIdentifierTurn (encode (done ++ rest))) (position done)
      (.ok ((Audit.nextIdentifier done.getLast? rest).map (identifierAt done))) := by
  induction rest generalizing done with
  | nil =>
    rw [List.append_nil]
    refine .finish ?_
    rw [nextIdentifierTurn, length_encode, if_neg (Nat.lt_irrefl _)]
    rfl
  | cons c rest ih =>
    have hnext := ih (done ++ [c])
    rw [List.append_assoc, List.singleton_append, List.getLast?_concat] at hnext
    have hshift : ((Audit.nextIdentifier (some c) rest).map
        (fun (skipped, key, rest) => (c :: skipped, key, rest))).map (identifierAt done) =
          (Audit.nextIdentifier (some c) rest).map (identifierAt (done ++ [c])) := by
      rw [Option.map_map]
      refine Option.map_congr fun found _ => ?_
      simp [identifierAt]
    cases hc : isIdentifierByte c with
    | false =>
      rw [Audit.nextIdentifier, hc, Bool.false_and, if_neg Bool.false_ne_true, hshift]
      refine Ends.skip id hnext (position_lt done c).le fun index hstart hstop => ?_
      rw [id, nextIdentifierTurn, if_pos (lt_length hstop),
        startsIdentifier_other done hc rest hstart hstop]
      rfl
    | true =>
      have hstart := startsIdentifier_cons done hc rest
      rw [Audit.nextIdentifier, hc, Bool.true_and]
      cases hborder : isBorder done.getLast? with
      | false =>
        rw [hborder] at hstart
        rw [isBorder] at hborder
        rw [hborder, if_neg Bool.false_ne_true, hshift]
        refine .goOn ?_ (position_ascii (ascii_of_identifier hc) done ▸ hnext)
        rw [nextIdentifierTurn, if_pos (lt_length (position_lt done c)), hstart]
        rfl
      | true =>
        rw [hborder] at hstart
        rw [isBorder] at hborder
        rw [hborder, if_pos rfl]
        refine .finish ?_
        have hkey : (c :: rest).takeWhile isIdentifierByte =
            c :: rest.takeWhile isIdentifierByte := List.takeWhile_cons_of_pos hc
        have hsplit : done ++ c :: rest = done ++ (c :: rest.takeWhile isIdentifierByte) ++
            rest.dropWhile isIdentifierByte := by
          rw [List.append_assoc, List.cons_append, List.takeWhile_append_dropWhile]
        have hascii : ∀ d ∈ c :: rest.takeWhile isIdentifierByte, d.toNat < 128 := by
          intro d hd
          rw [← hkey] at hd
          exact ascii_of_identifier (List.mem_takeWhile_imp hd)
        rw [nextIdentifierTurn, if_pos (lt_length (position_lt done c)), hstart, ok_bind,
          if_pos rfl, skipWhile_position uniform_identifier, ok_bind, hkey, hsplit, slice_position,
          ok_bind, map_charOf_encode hascii]
        simp [identifierAt, pure, Except.pure]

theorem nextIdentifier_position (rest : List Char) :
    nextIdentifier (encode (done ++ rest)) (position done) =
      .ok ((Audit.nextIdentifier done.getLast? rest).map (identifierAt done)) :=
  (nextIdentifier_ends done rest).run (nextIdentifierTurn_advances _).shrinks
    (Nat.lt_succ_of_le (Nat.sub_le _ _))

omit done in
/-- An identifier starts where the search does or later, in any bytes. -/
theorem nextIdentifier_lt {text : List UInt8} {startAt start stop : Nat} {key : List Char}
    (h : nextIdentifier text startAt = .ok (some (start, stop, key))) :
    startAt ≤ start ∧ start < stop := by
  refine runLoop_post (I := fun index => startAt ≤ index)
    (Q := fun found => ∀ identifier, found = some identifier →
      startAt ≤ identifier.1 ∧ identifier.1 < identifier.2.1) h le_rfl ?_ ?_ (start, stop, key) rfl
  · intro index next hle hturn
    exact hle.trans (nextIdentifierTurn_advances text index next hturn).2.le
  · rintro index result hle hturn identifier rfl
    rw [nextIdentifierTurn] at hturn
    split_ifs at hturn with hlt
    · obtain ⟨starts, hstarts, hturn⟩ := bind_eq_ok.mp hturn
      cases starts with
      | false => cases hturn
      | true =>
        obtain ⟨last, hlast, hturn⟩ := bind_eq_ok.mp hturn
        obtain ⟨bytes, -, hturn⟩ := bind_eq_ok.mp hturn
        cases hturn
        have holds : holdsAt isIdentifierByte text index = .ok true := by
          obtain ⟨byte, hbyte, hstarts⟩ := bind_eq_ok.mp hstarts
          rw [holdsAt, if_pos hlt, hbyte, ok_bind]
          split_ifs at hstarts with hidentifier
          · rw [hidentifier]
            rfl
          · rw [hidentifier]
            rfl
          · cases hstarts
        exact ⟨hle, lt_skipWhile holds hlast⟩
    · cases hturn

end Identifiers

/-! The delimiter. -/

section Delimiter

variable (done : List Char)

/-- The indices of the delimiter that this part of the text ends in. -/
def delimiterAt (done : List Char) : List Char × List Char → Nat × Nat
  | (delimiter, _) => (position (done ++ delimiter) - 1, position (done ++ delimiter))

theorem delimiterAt_concat (skipped rest : List Char) {c : Char} (hc : c.toNat < 128) :
    delimiterAt done (skipped ++ [c], rest) =
      (position (done ++ skipped), position (done ++ skipped) + 1) := by
  rw [delimiterAt, ← List.append_assoc, position_ascii hc, Nat.add_sub_cancel]

/-- The last look at the text, behind the blanks and the quote. -/
private theorem delimiter_look (skipped rest : List Char) :
    (do
      if ← holdsAt (fun c => c = ':' || c = '=') (encode (done ++ skipped ++ rest))
          (position (done ++ skipped)) then
        return some (position (done ++ skipped), position (done ++ skipped) + 1)
      else return none : Checked (Option (Nat × Nat))) =
      .ok ((match rest with
        | [] => none
        | c :: rest =>
          if c = ':' || c = '=' then some (skipped ++ [c], rest) else none).map
            (delimiterAt done)) := by
  cases rest with
  | nil =>
    rw [List.append_nil, holdsAt_nil]
    rfl
  | cons c rest =>
    rw [holdsAt_cons uniform_delimiter, ok_bind]
    by_cases hc : (c = ':' || c = '=') = true
    · have hascii := ascii_of_delimiter hc
      simp only [if_pos hc, Option.map_some, delimiterAt_concat done skipped rest hascii]
      rfl
    · simp only [if_neg hc]
      rfl

theorem nextKeyValueDelimiter_position (rest : List Char) :
    nextKeyValueDelimiter (encode (done ++ rest)) (position done) =
      .ok ((Audit.nextKeyValueDelimiter rest).map (delimiterAt done)) := by
  have hsplit : done ++ rest = done ++ rest.takeWhile isAsciiWhitespace ++
      rest.dropWhile isAsciiWhitespace := by
    rw [List.append_assoc, List.takeWhile_append_dropWhile]
  rw [nextKeyValueDelimiter, skipWhile_position uniform_space, ok_bind,
    Audit.nextKeyValueDelimiter, hsplit]
  generalize rest.takeWhile isAsciiWhitespace = spaces
  cases rest.dropWhile isAsciiWhitespace with
  | nil =>
    have hlook := delimiter_look done spaces []
    rw [List.append_nil] at hlook ⊢
    rw [holdsAt_nil, ok_bind]
    exact hlook
  | cons c after =>
    rw [holdsAt_cons (uniform_eq (by decide)), ok_bind]
    by_cases hc : c = '"'
    · subst hc
      have hone := position_ascii (c := '"') (by decide) (done ++ spaces)
      have hassoc : done ++ spaces ++ '"' :: after = done ++ spaces ++ ['"'] ++ after := by
        rw [List.append_assoc _ ['"'], List.singleton_append]
      have hcut : done ++ spaces ++ ['"'] ++ after =
          done ++ (spaces ++ '"' :: after.takeWhile isAsciiWhitespace) ++
            after.dropWhile isAsciiWhitespace := by
        simp only [List.append_assoc, List.cons_append, List.nil_append,
          List.takeWhile_append_dropWhile]
      have hpos : done ++ spaces ++ ['"'] ++ after.takeWhile isAsciiWhitespace =
          done ++ (spaces ++ '"' :: after.takeWhile isAsciiWhitespace) := by
        simp only [List.append_assoc, List.cons_append, List.nil_append]
      rw [if_pos (decide_eq_true rfl), ← hone, hassoc, skipWhile_position uniform_space, ok_bind,
        hcut, hpos]
      exact delimiter_look done _ _
    · rw [if_neg (by simpa using hc)]
      have hlook := delimiter_look done spaces (c :: after)
      simpa [hc] using hlook

omit done in
/-- A delimiter is one byte behind where the search starts, in any bytes. -/
theorem nextKeyValueDelimiter_lt {text : List UInt8} {startAt start stop : Nat}
    (h : nextKeyValueDelimiter text startAt = .ok (some (start, stop))) :
    startAt ≤ start ∧ stop = start + 1 := by
  obtain ⟨index, hindex, h⟩ := bind_eq_ok.mp h
  have hle := skipWhile_le hindex
  -- the last look, from wherever the blanks and the quote end
  have look : ∀ last, startAt ≤ last → (do
      if ← holdsAt (fun c => c = ':' || c = '=') text last then return some (last, last + 1)
      else return none : Checked (Option (Nat × Nat))) = .ok (some (start, stop)) →
        startAt ≤ start ∧ stop = start + 1 := by
    intro last hlast hlook
    obtain ⟨delimits, -, hlook⟩ := bind_eq_ok.mp hlook
    cases delimits with
    | false => cases hlook
    | true =>
      cases hlook
      exact ⟨hlast, rfl⟩
  obtain ⟨quoted, -, h⟩ := bind_eq_ok.mp h
  cases quoted with
  | true =>
    obtain ⟨last, hlast, h⟩ := bind_eq_ok.mp h
    exact look last (hle.trans (Nat.le_of_succ_le (skipWhile_le hlast))) h
  | false => exact look index hle h

end Delimiter

/-! Quoted values. -/

section Quoted

variable {quote : UInt8} (ascii : (charOf quote).toNat < 128) (done : List Char)

theorem quotedTurn_advances (quote : UInt8) (text : List UInt8) :
    Advances (quotedTurn quote text) text.length id := by
  intro index next h
  rw [quotedTurn] at h
  split_ifs at h with hlt
  · obtain ⟨byte, -, h⟩ := bind_eq_ok.mp h
    split_ifs at h
    · cases h
      exact ⟨hlt, Nat.lt_add_of_pos_right Nat.zero_lt_two⟩
    · cases h
    · cases h
      exact ⟨hlt, Nat.lt_succ_self _⟩
  · cases h

/-- A backslash takes one byte more, which may be the last one or the first of several. -/
private theorem quotedTurn_escape (rest : List Char) :
    quotedTurn quote (encode (done ++ '\\' :: rest)) (position done) =
      .ok (.goOn (position (done ++ ['\\']) + 1)) := by
  have hlt := position_lt done '\\'
  obtain ⟨byte, hmem, hbyte⟩ := byteAt_char rest le_rfl hlt
  have hslash : charOf byte = '\\' := mem_ascii (by decide) hmem
  rw [quotedTurn, if_pos (lt_length hlt), hbyte, ok_bind, hslash, if_pos rfl,
    position_ascii (by decide)]
  rfl

include ascii

private theorem quotedTurn_other {c : Char} (hslash : c ≠ '\\') (hquote : c ≠ charOf quote)
    (rest : List Char) {index : Nat} (hstart : position done ≤ index)
    (hstop : index < position (done ++ [c])) :
    quotedTurn quote (encode (done ++ c :: rest)) index = .ok (.goOn (index + 1)) := by
  obtain ⟨byte, hmem, hbyte⟩ := byteAt_char rest hstart hstop
  have hslash' : charOf byte ≠ '\\' := mt (byte_eq_iff (by decide) hmem).mp hslash
  have hquote' : byte ≠ quote := by
    rw [← charOf_inj.ne, Ne, byte_eq_iff ascii hmem]
    exact hquote
  rw [quotedTurn, if_pos (lt_length hstop), hbyte, ok_bind, if_neg hslash', if_neg hquote']
  rfl

private theorem quoted_ends (hne : charOf quote ≠ '\\') (rest : List Char) :
    Ends (quotedTurn quote (encode (done ++ rest))) (position done)
      (.ok (position (done ++ (quotedValue (charOf quote) rest).1))) := by
  have stops : ∀ (text : List Char) (index : Nat), position text ≤ index →
      Ends (quotedTurn quote (encode text)) index (.ok (position text)) := by
    intro text index hindex
    refine .finish ?_
    rw [quotedTurn, length_encode, if_neg (Nat.not_lt.mpr hindex)]
    rfl
  induction hn : rest.length using Nat.strong_induction_on generalizing done rest with
  | _ n ih =>
    cases rest with
    | nil =>
      rw [List.append_nil]
      simpa using stops done (position done) le_rfl
    | cons c rest =>
      rw [List.length_cons] at hn
      by_cases hslash : c = '\\'
      · subst hslash
        refine .goOn (quotedTurn_escape done rest) ?_
        cases rest with
        | nil => exact stops (done ++ ['\\']) _ (Nat.le_succ _)
        | cons d rest =>
          rw [List.length_cons] at hn
          have hnext := ih rest.length (by omega) (done ++ ['\\'] ++ [d]) rest rfl
          have hwhole : done ++ ['\\'] ++ [d] ++ rest = done ++ '\\' :: d :: rest := by simp
          have hvalue : done ++ ['\\'] ++ [d] ++ (quotedValue (charOf quote) rest).1 =
              done ++ (quotedValue (charOf quote) ('\\' :: d :: rest)).1 := by
            simp [readOn]
          rw [hwhole, hvalue] at hnext
          -- the bytes of a longer character that are left are read one by one
          have hle := Nat.succ_le_of_lt (position_lt (done ++ ['\\']) d)
          refine Ends.skip id hnext hle fun index hstart hstop => ?_
          have hwide : 128 ≤ d.toNat := by
            by_contra h
            have hlast := position_ascii (Nat.lt_of_not_le h) (done ++ ['\\'])
            change index < position (done ++ ['\\'] ++ [d]) at hstop
            omega
          have hother : ∀ e : Char, e.toNat < 128 → d ≠ e := by
            rintro e he rfl
            omega
          have hturn := quotedTurn_other ascii (done ++ ['\\']) (hother _ (by decide))
            (hother _ ascii) rest (Nat.le_of_succ_le hstart) hstop
          rw [List.append_assoc, List.singleton_append] at hturn
          exact hturn
      · by_cases hquote : c = charOf quote
        · subst hquote
          have hlt := position_lt done (charOf quote)
          obtain ⟨byte, hmem, hbyte⟩ := byteAt_char rest le_rfl hlt
          rw [quotedValue_quote hne, List.append_nil]
          refine .finish ?_
          rw [quotedTurn, if_pos (lt_length hlt), hbyte, ok_bind, mem_ascii ascii hmem,
            if_neg hne, if_pos (charOf_inj.mp (mem_ascii ascii hmem))]
          rfl
        · have hnext := ih rest.length (by omega) (done ++ [c]) rest rfl
          have hwhole : done ++ [c] ++ rest = done ++ c :: rest := by simp
          have hvalue : done ++ [c] ++ (quotedValue (charOf quote) rest).1 =
              done ++ (quotedValue (charOf quote) (c :: rest)).1 := by
            simp [quotedValue_other hslash hquote, readOn]
          rw [hwhole, hvalue] at hnext
          exact Ends.skip id hnext (position_lt done c).le
            fun index hstart hstop => quotedTurn_other ascii done hslash hquote rest hstart hstop

omit ascii in
/-- The bounds of a quoted value, from its opening quote. -/
theorem quotedValueBounds_position {q : Char} (hq : q = '"' ∨ q = '\'') (rest : List Char) :
    quotedValueBounds (encode (done ++ q :: rest)) (position done) =
      .ok (position (done ++ [q]), position (done ++ [q] ++ (quotedValue q rest).1)) := by
  obtain ⟨hascii, hslash⟩ := ascii_of_quote hq
  obtain ⟨byte, hmem, hbyte⟩ := byteAt_char rest le_rfl (position_lt done q)
  have hchar := mem_ascii hascii hmem
  have hquote : (charOf byte).toNat < 128 := hchar ▸ hascii
  have hends := quoted_ends hquote (done ++ [q]) (hchar ▸ hslash) rest
  rw [hchar, List.append_assoc, List.singleton_append] at hends
  have hrun := hends.run (quotedTurn_advances byte _).shrinks (Nat.lt_succ_of_le (Nat.sub_le _ _))
  rw [quotedValueBounds, hbyte, ok_bind, ← position_ascii hascii, hrun, ok_bind]
  rfl

omit ascii in
/-- The bounds of a quoted value are in order, in any bytes. -/
theorem quotedValueBounds_le {text : List UInt8} {quoteStart start stop : Nat}
    (h : quotedValueBounds text quoteStart = .ok (start, stop)) :
    start = quoteStart + 1 ∧ start ≤ stop := by
  obtain ⟨byte, hbyte, h⟩ := bind_eq_ok.mp h
  obtain ⟨result, hrun, h⟩ := bind_eq_ok.mp h
  cases h
  refine ⟨rfl, ?_⟩
  have hlength : quoteStart + 1 ≤ text.length := lt_of_byteAt hbyte
  refine runLoop_post (I := fun index => quoteStart + 1 ≤ index) hrun le_rfl ?_ ?_
  · intro index next hle hturn
    exact hle.trans (quotedTurn_advances byte text index next hturn).2.le
  · intro index result hle hturn
    rw [quotedTurn] at hturn
    split_ifs at hturn
    · obtain ⟨other, -, hturn⟩ := bind_eq_ok.mp hturn
      split_ifs at hturn
      · cases hturn
      · cases hturn
        exact hle
      · cases hturn
    · cases hturn
      exact hlength

end Quoted

end Sunbolt.Audit.ByteRedaction
