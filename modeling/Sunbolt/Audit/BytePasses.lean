/- Module: Sunbolt/Audit/BytePasses
   scope: sunbolt-audit/src/redaction.rs
   digest: The three passes over the bytes of a text write what the character model writes. -/

import Sunbolt.Audit.ByteValues
import Sunbolt.Audit.SecretScan

set_option autoImplicit false
set_option relaxedAutoImplicit false

namespace Sunbolt.Audit.ByteRedaction

open Sunbolt.Library Sunbolt.Library.Utf8Text
open Sunbolt.Library.Utf8Lossy (encode decode decode_encode encodeChar_ascii)

/-- A text around the first occurrence of a character. -/
theorem cut_at {c : Char} {text : List Char} (h : c ∈ text) :
    ∃ front back, text = front ++ c :: back ∧ c ∉ front ∧ text.takeWhile (· ≠ c) = front := by
  rcases span_cut (· ≠ c) text with hall | ⟨front, d, back, rfl, hfront, hd⟩
  · exact absurd rfl (decide_eq_true_eq.mp (hall c h))
  · obtain rfl : d = c := by simpa using hd
    refine ⟨front, back, rfl, fun hmem => ?_, (takeWhile_cut hfront hd back).1⟩
    exact absurd rfl (decide_eq_true_eq.mp (hfront d hmem))

/-! Header lines. -/

theorem isSensitiveHeaderName_encode (name : List Char) :
    isSensitiveHeaderName (encode name) = Audit.isSensitiveHeaderName name := by
  by_cases hascii : ∀ c ∈ name, c.toNat < 128
  · rw [isSensitiveHeaderName, map_charOf_encode hascii]
  · -- neither reading of the name is an identifier
    simp only [not_forall, Nat.not_lt] at hascii
    obtain ⟨c, hc, hwide⟩ := hascii
    have hchars : Audit.isSensitiveHeaderName name = false := by
      by_contra h
      obtain ⟨-, hall, -⟩ := key_of_headerName (by simpa using h)
      exact absurd (ascii_of_identifier (hall c hc)) (Nat.not_lt.mpr hwide)
    obtain ⟨byte, hmem, -⟩ := getLast?_encode [] c
    have hbyte : charOf byte ∈ (encode name).map charOf :=
      List.mem_map_of_mem (mem_encode.mpr ⟨c, hc, hmem⟩)
    rw [hchars]
    by_contra h
    obtain ⟨-, hall, -⟩ := key_of_headerName (by simpa [isSensitiveHeaderName] using h)
    exact absurd (ascii_of_identifier (hall _ hbyte)) (Nat.not_lt.mpr (mem_wide hwide hmem))

/-- Whether the value of a header line is hidden. -/
def hidesHeader (line : List Char) : Bool :=
  (line.dropWhile isWhitespace).contains ':' && Audit.isSensitiveHeaderName (headerName line)

private theorem redactHeaderLine_kept {line : List Char} (h : hidesHeader line = false) :
    redactHeaderLine line = line := by
  refine if_neg fun hline => ?_
  rw [hidesHeader, Bool.and_eq_false_iff] at h
  rcases h with h | h
  · rw [List.contains_iff_mem.mpr hline.1] at h
    cases h
  · exact Bool.false_ne_true (h.symm.trans hline.2)

private theorem redactedHeaderLine_encode (line : List Char) (newline : List UInt8) :
    redactedHeaderLine (encode line) newline =
      .ok (if hidesHeader line then some (encode (redactHeaderLine line) ++ newline)
        else none) := by
  have hsplit : line.takeWhile isWhitespace ++ line.dropWhile isWhitespace = line :=
    List.takeWhile_append_dropWhile
  have htrim : trimStart (encode line) = encode (line.dropWhile isWhitespace) := by
    rw [trimStart, decode_encode]
  have hlength : subtract (encode line).length (encode (line.dropWhile isWhitespace)).length =
      .ok (position (line.takeWhile isWhitespace)) := by
    have hsum := position_append (line.takeWhile isWhitespace) (line.dropWhile isWhitespace)
    rw [hsplit] at hsum
    rw [subtract, length_encode, length_encode, if_pos (hsum ▸ Nat.le_add_left _ _), hsum,
      Nat.add_sub_cancel]
  have hindent := slice_front (line.takeWhile isWhitespace) (line.dropWhile isWhitespace)
  rw [hsplit] at hindent
  rw [redactedHeaderLine, htrim, hlength, ok_bind, hidesHeader, redactHeaderLine]
  by_cases hcolon : ':' ∈ line.dropWhile isWhitespace
  · obtain ⟨front, back, hcut, hfront, htake⟩ := cut_at hcolon
    have hname : headerName line = front := htake
    rw [List.contains_iff_mem.mpr hcolon, Bool.true_and, hname, hcut,
      find_position (by decide) hfront]
    simp only [take_position, isSensitiveHeaderName_encode]
    cases hsensitive : Audit.isSensitiveHeaderName front with
    | false => rfl
    | true =>
      rw [if_pos rfl, hindent, ok_bind, ← hcut, htake, if_pos rfl, if_pos ⟨hcolon, hsensitive⟩]
      simp only [encode_append, List.append_assoc]
      rfl
  · rw [find_none (by decide) hcolon, List.contains_eq_mem, decide_eq_false hcolon]
    rfl

theorem appendRedactedHeaderLine_line {line : List Char} (h : '\n' ∉ line) (output : List UInt8)
    (changed : Bool) :
    appendRedactedHeaderLine output (encode line) changed =
      .ok (output ++ encode (redactHeaderLine line), changed || hidesHeader line) := by
  have hends : (encode line).getLast?.any (charOf · = '\n') = false := by
    rcases List.eq_nil_or_concat' line with rfl | ⟨front, c, rfl⟩
    · rfl
    · obtain ⟨byte, hmem, hlast⟩ := getLast?_encode front c
      rw [hlast, Option.any_some, decide_eq_false_iff_not, byte_eq_iff (by decide) hmem]
      rintro rfl
      exact h (List.mem_append_right _ (List.mem_singleton_self _))
  rw [appendRedactedHeaderLine, hends]
  simp only [Bool.false_eq_true, if_false, redactedHeaderLine_encode, ok_bind, List.append_nil]
  cases hhides : hidesHeader line with
  | false =>
    rw [redactHeaderLine_kept hhides, Bool.or_false]
    rfl
  | true =>
    rw [Bool.or_true]
    rfl

theorem appendRedactedHeaderLine_newline {line : List Char} (output : List UInt8)
    (changed : Bool) :
    appendRedactedHeaderLine output (encode (line ++ ['\n'])) changed =
      .ok (output ++ encode (redactHeaderLine line ++ ['\n']), changed || hidesHeader line) := by
  obtain ⟨byte, hmem, hlast⟩ := getLast?_encode line '\n'
  have hends : (encode (line ++ ['\n'])).getLast?.any (charOf · = '\n') = true := by
    rw [hlast, Option.any_some, decide_eq_true_eq, byte_eq_iff (by decide) hmem]
  have hdrop : (encode (line ++ ['\n'])).dropLast = encode line := by
    rw [encode_append]
    exact List.dropLast_concat
  rw [appendRedactedHeaderLine, hends]
  simp only [if_true, hdrop, redactedHeaderLine_encode, ok_bind]
  cases hhides : hidesHeader line with
  | false =>
    rw [redactHeaderLine_kept hhides, Bool.or_false]
    rfl
  | true =>
    rw [Bool.or_true, encode_append (redactHeaderLine line)]
    rfl

theorem headerTurn_shrinks : Shrinks headerTurn (fun state => state.remaining.length) := by
  intro state next h
  rw [headerTurn] at h
  split_ifs at h with hnil
  · cases h
  · cases hfind : find '\n' state.remaining with
    | none =>
      rw [hfind] at h
      obtain ⟨written, -, h⟩ := bind_eq_ok.mp h
      cases h
    | some lineEnd =>
      rw [hfind] at h
      obtain ⟨⟨line, rest⟩, hsplit, h⟩ := bind_eq_ok.mp h
      obtain ⟨written, -, h⟩ := bind_eq_ok.mp h
      cases h
      have hpos := List.length_pos_iff.mpr hnil
      have hlength := splitAt_length hsplit
      change rest.length < state.remaining.length
      omega

/-- The lines of a text one after the other. -/
private theorem redactSensitiveHeaders_line {line : List Char} (h : '\n' ∉ line)
    (rest : List Char) :
    Audit.redactSensitiveHeaders (line ++ '\n' :: rest) =
      redactHeaderLine line ++ ['\n'] ++ Audit.redactSensitiveHeaders rest := by
  rw [Audit.redactSensitiveHeaders, redactHeadersFrom_append, earlierLines_of_not_mem h,
    lastLine_of_not_mem h, redactHeadersFrom, if_pos rfl, List.append_assoc]
  rfl

theorem redactSensitiveHeaders_last {line : List Char} (h : '\n' ∉ line) :
    Audit.redactSensitiveHeaders line = redactHeaderLine line := by
  have happend := redactHeadersFrom_append [] line []
  rw [List.append_nil, earlierLines_of_not_mem h, lastLine_of_not_mem h] at happend
  exact happend

/-- The loop over the lines writes them all, and changes none without saying so. -/
private theorem headers_end (output : List UInt8) (changed : Bool) (rest : List Char) :
    ∃ final, Ends headerTurn ⟨output, encode rest, changed⟩ (.ok final) ∧
      final.output = output ++ encode (Audit.redactSensitiveHeaders rest) ∧
      (final.changed = false → changed = false ∧ Audit.redactSensitiveHeaders rest = rest) := by
  induction hn : rest.length using Nat.strong_induction_on generalizing output changed rest with
  | _ n ih =>
    by_cases hnil : rest = []
    · subst hnil
      refine ⟨⟨output, [], changed⟩, .finish rfl, ?_, fun h => ⟨h, rfl⟩⟩
      exact (List.append_nil output).symm
    · have hbytes : encode rest ≠ [] := by
        intro h
        exact hnil (position_eq_zero.mp (congrArg List.length h))
      by_cases hline : '\n' ∈ rest
      · obtain ⟨line, more, rfl, hfree, -⟩ := cut_at hline
        have hsplit := splitAt_position (line ++ ['\n']) more
        rw [List.append_assoc, List.singleton_append, position_ascii (by decide)] at hsplit
        have hlength : more.length < n := by
          rw [← hn]
          simp only [List.length_append, List.length_cons]
          omega
        obtain ⟨final, hends, houtput, hkept⟩ := ih more.length hlength
          (output ++ encode (redactHeaderLine line ++ ['\n'])) (changed || hidesHeader line) more
          rfl
        refine ⟨final, .goOn ?_ hends, ?_, fun hchanged => ?_⟩
        · rw [headerTurn, if_neg hbytes]
          simp only [find_position (by decide) hfree, hsplit, ok_bind,
            appendRedactedHeaderLine_newline]
          rfl
        · rw [houtput, redactSensitiveHeaders_line hfree,
            encode_append (redactHeaderLine line ++ _), List.append_assoc]
        · obtain ⟨hsame, hmore⟩ := hkept hchanged
          rw [Bool.or_eq_false_iff] at hsame
          refine ⟨hsame.1, ?_⟩
          rw [redactSensitiveHeaders_line hfree, hmore, redactHeaderLine_kept hsame.2,
            List.append_assoc, List.singleton_append]
      · refine ⟨⟨output ++ encode (redactHeaderLine rest), encode rest,
          changed || hidesHeader rest⟩, .finish ?_, ?_, fun hchanged => ?_⟩
        · rw [headerTurn, if_neg hbytes]
          simp only [find_none (by decide) hline, appendRedactedHeaderLine_line hline, ok_bind]
          rfl
        · rw [redactSensitiveHeaders_last hline]
        · rw [Bool.or_eq_false_iff] at hchanged
          refine ⟨hchanged.1, ?_⟩
          rw [redactSensitiveHeaders_last hline, redactHeaderLine_kept hchanged.2]

theorem redactSensitiveHeaders_encode (text : List Char) :
    redactSensitiveHeaders (encode text) = .ok (encode (Audit.redactSensitiveHeaders text)) := by
  obtain ⟨final, hends, houtput, hkept⟩ := headers_end [] false text
  rw [redactSensitiveHeaders, hends.run headerTurn_shrinks (Nat.lt_succ_self _), ok_bind]
  cases hchanged : final.changed with
  | false =>
    rw [(hkept hchanged).2]
    rfl
  | true =>
    rw [if_pos rfl, houtput, List.nil_append]
    rfl

/-! A pass that copies what it keeps. -/

/-- A pass that has copied one part of the text and read another one behind it. -/
def passAt (output : List UInt8) (copied middle : List Char) : PassState :=
  ⟨output, position copied, position (copied ++ middle)⟩

theorem finishPass_at {output : List UInt8} {copied : List Char} (h : copied = [] → output = [])
    (middle back : List Char) :
    finishPass (encode (copied ++ back)) (passAt output copied middle) =
      .ok (output ++ encode back) := by
  rw [finishPass, passAt]
  by_cases hnil : copied = []
  · subst hnil
    rw [h rfl]
    rfl
  · rw [if_neg (mt position_eq_zero.mp hnil), slice_back, ok_bind]
    rfl

/-! Values of sensitive keys. -/

theorem keyTurn_advances (overflowChecks : Bool) (text : List UInt8) :
    Advances (keyTurn overflowChecks text) text.length PassState.index := by
  intro state next h
  rw [keyTurn] at h
  split_ifs at h with hlt
  · refine ⟨hlt, ?_⟩
    obtain ⟨found, hfound, h⟩ := bind_eq_ok.mp h
    cases found with
    | none => cases h
    | some identifier =>
      obtain ⟨keyStart, keyEnd, key⟩ := identifier
      obtain ⟨hstart, hend⟩ := nextIdentifier_lt hfound
      obtain ⟨bounds, hbounds, h⟩ := bind_eq_ok.mp h
      cases bounds with
      | none =>
        cases h
        exact Nat.lt_of_le_of_lt hstart hend
      | some bounds =>
        obtain ⟨written, hwritten, h⟩ := bind_eq_ok.mp h
        cases h
        obtain ⟨plain, -, hwritten⟩ := bind_eq_ok.mp hwritten
        obtain ⟨delimiter, -, hwritten⟩ := bind_eq_ok.mp hwritten
        cases hwritten
        obtain ⟨hkey, hdelimiter, hvalue⟩ := keyedBounds_le hbounds
        change state.index < bounds.valueEnd
        omega
  · cases h

section Keys

variable (overflowChecks : Bool) (output : List UInt8) (copied middle : List Char)
  {rest skipped key after : List Char}

theorem keyTurn_none
    (hnext : Audit.nextIdentifier (copied ++ middle).getLast? rest = none) :
    keyTurn overflowChecks (encode (copied ++ middle ++ rest)) (passAt output copied middle) =
      .ok (.finish (passAt output copied middle)) := by
  have hread := nextIdentifier_position (copied ++ middle) rest
  rw [hnext] at hread
  rw [keyTurn]
  split_ifs
  · simp only [passAt, hread, ok_bind, Option.map_none]
    rfl
  · rfl

theorem keyTurn_found
    (hnext : Audit.nextIdentifier (copied ++ middle).getLast? rest = some (skipped, key, after)) :
    copied ++ middle ++ rest = copied ++ (middle ++ skipped ++ key) ++ after ∧
      position (copied ++ middle) < (encode (copied ++ middle ++ rest)).length ∧
      nextIdentifier (encode (copied ++ middle ++ rest)) (position (copied ++ middle)) =
        .ok (some (position (copied ++ middle ++ skipped),
          position (copied ++ (middle ++ skipped ++ key)), normalizeKey key)) := by
  have hfound := nextIdentifier_found hnext
  have hne : rest ≠ [] := by
    rintro rfl
    cases hnext
  have hassoc : copied ++ middle ++ skipped ++ key = copied ++ (middle ++ skipped ++ key) := by
    simp only [List.append_assoc]
  refine ⟨?_, position_lt_append hne _, ?_⟩
  · rw [hfound.split]
    simp only [List.append_assoc]
  · rw [nextIdentifier_position, hnext, Option.map_some, identifierAt, hassoc]

/-- The turn at an identifier that gives no value away. -/
theorem keyTurn_plain
    (hnext : Audit.nextIdentifier (copied ++ middle).getLast? rest = some (skipped, key, after))
    (hplain : secretValue key after = none) :
    keyTurn overflowChecks (encode (copied ++ middle ++ rest)) (passAt output copied middle) =
      .ok (.goOn (passAt output copied (middle ++ skipped ++ key))) := by
  obtain ⟨hwhole, hlt, hread⟩ := keyTurn_found copied middle hnext
  have hbounds := keyedBounds_none (copied ++ (middle ++ skipped ++ key)) overflowChecks hplain
  rw [← hwhole] at hbounds
  rw [keyTurn]
  simp only [passAt, if_pos hlt, hread, ok_bind, hbounds]
  rfl

private theorem redactValue_at (plain delimiter value back : List Char) :
    redactValue (encode (copied ++ plain ++ delimiter ++ (value ++ back)))
        (passAt output copied middle)
        ⟨position (copied ++ plain), position (copied ++ plain ++ delimiter),
          position (copied ++ plain ++ delimiter ++ value)⟩ =
      .ok (passAt (output ++ encode (plain ++ delimiter) ++ redaction)
        (copied ++ plain ++ delimiter ++ value) []) := by
  have hplain := slice_position copied plain (delimiter ++ (value ++ back))
  rw [← List.append_assoc] at hplain
  rw [redactValue]
  simp only [passAt]
  rw [hplain, ok_bind, slice_position, ok_bind, encode_append, List.append_assoc output,
    List.append_nil]
  rfl

/-- The turn at an identifier with a value that is replaced. -/
theorem keyTurn_secret {before value back : List Char}
    (hnext : Audit.nextIdentifier (copied ++ middle).getLast? rest = some (skipped, key, after))
    (hsecret : secretValue key after = some (before, value, back)) :
    keyTurn overflowChecks (encode (copied ++ middle ++ rest)) (passAt output copied middle) =
      counted overflowChecks (nesting before value)
        (.goOn (passAt (output ++ encode (middle ++ skipped ++ key ++ before) ++ redaction)
          (copied ++ (middle ++ skipped ++ key ++ before) ++ value) [])) := by
  obtain ⟨hwhole, hlt, hread⟩ := keyTurn_found copied middle hnext
  obtain ⟨front, last, rfl, hbounds⟩ :=
    keyedBounds_some (copied ++ (middle ++ skipped ++ key)) overflowChecks hsecret
  have hwritten := redactValue_at output copied middle (middle ++ skipped ++ key ++ front) last
    value back
  have htext : copied ++ (middle ++ skipped ++ key ++ front) ++ last ++ (value ++ back) =
      copied ++ middle ++ rest := by
    rw [hwhole, secretValue_append hsecret]
    simp only [List.append_assoc]
  rw [htext] at hwritten
  rw [← hwhole] at hbounds
  simp only [List.append_assoc] at hlt hread hbounds hwritten ⊢
  rw [keyTurn]
  simp only [passAt, if_pos hlt, hread, ok_bind, hbounds]
  refine counted_bind ?_ _ _
  simp only [passAt] at hwritten
  simp only [hwritten, ok_bind]
  rfl

end Keys

/-- The key pass of a text replaces a value whose brackets nest deeper than a `u32` counts. -/
def TooDeep (previous : Option Char) (text : List Char) : Prop :=
  ∃ front value back, Redacts previous text front value back ∧ 2 ^ 32 ≤ nesting front value

section TooDeep

variable {previous : Option Char} {text skipped key rest before value after : List Char}

private theorem redacts_front {front back : List Char}
    (h : Redacts previous text front value back) : front ≠ [] := by
  have key_ne : ∀ {skipped key rest : List Char} (more : List Char),
      Audit.nextIdentifier previous text = some (skipped, key, rest) →
        skipped ++ key ++ more ≠ [] := by
    intro skipped key rest more hnext hnil
    rw [List.append_eq_nil_iff, List.append_eq_nil_iff] at hnil
    exact (nextIdentifier_found hnext).nonempty hnil.1.2
  cases h with
  | here next => exact key_ne _ next
  | afterKey next => exact key_ne _ next
  | afterValue next =>
    rw [List.append_assoc, List.append_assoc]
    exact key_ne _ next

private theorem secretValue_front (h : secretValue key rest = some (before, value, after)) :
    before ≠ [] := by
  rw [secretValue] at h
  split_ifs at h
  obtain ⟨c, hc, -⟩ := (keyedValue_seams h).stops
  rintro rfl
  cases hc

theorem not_tooDeep (h : Audit.nextIdentifier previous text = none) : ¬TooDeep previous text := by
  rintro ⟨front, value, back, hredacts, -⟩
  exact not_redacts h hredacts

theorem tooDeep_plain (hnext : Audit.nextIdentifier previous text = some (skipped, key, rest))
    (hplain : secretValue key rest = none) :
    TooDeep previous text ↔ TooDeep key.getLast? rest := by
  constructor
  · rintro ⟨front, inner, back, hredacts, hdeep⟩
    obtain ⟨later, rfl, hlater⟩ := redacts_afterKey hnext hplain hredacts
    rw [nesting_of_ne_nil (redacts_front hlater)] at hdeep
    exact ⟨later, inner, back, hlater, hdeep⟩
  · rintro ⟨front, inner, back, hredacts, hdeep⟩
    rw [← nesting_of_ne_nil (redacts_front hredacts) (skipped ++ key)] at hdeep
    exact ⟨_, inner, back, .afterKey hnext hplain hredacts, hdeep⟩

theorem tooDeep_secret (hnext : Audit.nextIdentifier previous text = some (skipped, key, rest))
    (hsecret : secretValue key rest = some (before, value, after)) :
    TooDeep previous text ↔
      2 ^ 32 ≤ nesting before value ∨ TooDeep (before ++ value).getLast? after := by
  constructor
  · rintro ⟨front, inner, back, hredacts, hdeep⟩
    rcases redacts_afterValue hnext hsecret hredacts with ⟨rfl, rfl, -⟩ | ⟨later, rfl, hlater⟩
    · rw [nesting_of_ne_nil (secretValue_front hsecret)] at hdeep
      exact Or.inl hdeep
    · rw [nesting_of_ne_nil (redacts_front hlater)] at hdeep
      exact Or.inr ⟨later, inner, back, hlater, hdeep⟩
  · rintro (hdeep | ⟨front, inner, back, hredacts, hdeep⟩)
    · rw [← nesting_of_ne_nil (secretValue_front hsecret) (skipped ++ key)] at hdeep
      exact ⟨_, value, after, .here hnext hsecret, hdeep⟩
    · rw [← nesting_of_ne_nil (redacts_front hredacts) (skipped ++ key ++ before ++ value)]
        at hdeep
      exact ⟨_, inner, back, .afterValue hnext hsecret hredacts, hdeep⟩

end TooDeep

/-- The loop over the keys writes what the character model does, unless a depth overflows. -/
private theorem keys_end (overflowChecks : Bool) (output : List UInt8)
    (copied middle rest : List Char) (hcopied : copied = [] → output = []) :
    (overflowChecks = true ∧ TooDeep (copied ++ middle).getLast? rest →
      Ends (keyTurn overflowChecks (encode (copied ++ middle ++ rest)))
        (passAt output copied middle) (.error .overflow)) ∧
    (¬(overflowChecks = true ∧ TooDeep (copied ++ middle).getLast? rest) →
      ∃ final, Ends (keyTurn overflowChecks (encode (copied ++ middle ++ rest)))
        (passAt output copied middle) (.ok final) ∧
        finishPass (encode (copied ++ middle ++ rest)) final =
          .ok (output ++ encode middle ++ encode (scan (copied ++ middle).getLast? rest))) := by
  induction hn : rest.length using Nat.strong_induction_on
    generalizing output copied middle rest with
  | _ n ih =>
    cases hnext : Audit.nextIdentifier (copied ++ middle).getLast? rest with
    | none =>
      refine ⟨fun h => absurd h.2 (not_tooDeep hnext), fun _ => ?_⟩
      refine ⟨_, .finish (keyTurn_none overflowChecks output copied middle hnext), ?_⟩
      rw [scan_none hnext, List.append_assoc, finishPass_at hcopied, encode_append,
        List.append_assoc]
    | some found =>
      obtain ⟨skipped, key, after⟩ := found
      have hfound := nextIdentifier_found hnext
      have hshort : after.length < n := by
        have hkey := List.length_pos_iff.mpr hfound.nonempty
        rw [← hn, hfound.split]
        simp only [List.length_append]
        omega
      cases hvalue : secretValue key after with
      | none =>
        have hlast : (copied ++ (middle ++ skipped ++ key)).getLast? = key.getLast? := by
          rw [← List.append_assoc, List.getLast?_append_of_ne_nil _ hfound.nonempty]
        have hwhole : copied ++ (middle ++ skipped ++ key) ++ after = copied ++ middle ++ rest := by
          rw [hfound.split]
          simp only [List.append_assoc]
        obtain ⟨hdeep, hflat⟩ := ih after.length hshort output copied (middle ++ skipped ++ key)
          after hcopied rfl
        rw [hlast, hwhole] at hdeep hflat
        have hturn := keyTurn_plain overflowChecks output copied middle hnext hvalue
        rw [tooDeep_plain hnext hvalue]
        refine ⟨fun h => .goOn hturn (hdeep h), fun h => ?_⟩
        obtain ⟨final, hends, hfinish⟩ := hflat h
        refine ⟨final, .goOn hturn hends, ?_⟩
        rw [hfinish, scan_plain hnext hvalue]
        simp only [encode_append, List.append_assoc]
      | some bounds =>
        obtain ⟨before, value, back⟩ := bounds
        have hafter := secretValue_append hvalue
        have hlength : back.length < n := by
          rw [hafter] at hshort
          simp only [List.length_append] at hshort
          omega
        have hne : copied ++ (middle ++ skipped ++ key ++ before) ++ value ≠ [] := by
          have hkey := hfound.nonempty
          simp [hkey]
        have hlast : (copied ++ (middle ++ skipped ++ key ++ before) ++ value ++ []).getLast? =
            (before ++ value).getLast? := by
          have hbefore : before ++ value ≠ [] := by simp [secretValue_front hvalue]
          have hassoc : copied ++ (middle ++ skipped ++ key ++ before) ++ value ++ [] =
              copied ++ (middle ++ skipped ++ key) ++ (before ++ value) := by
            simp only [List.append_assoc, List.append_nil]
          rw [hassoc, List.getLast?_append_of_ne_nil _ hbefore]
        have hwhole : copied ++ (middle ++ skipped ++ key ++ before) ++ value ++ [] ++ back =
            copied ++ middle ++ rest := by
          rw [hfound.split, hafter]
          simp only [List.append_assoc, List.append_nil]
        obtain ⟨hdeep, hflat⟩ := ih back.length hlength
          (output ++ encode (middle ++ skipped ++ key ++ before) ++ redaction)
          (copied ++ (middle ++ skipped ++ key ++ before) ++ value) [] back
          (fun hnil => absurd hnil hne) rfl
        rw [hlast, hwhole] at hdeep hflat
        have hturn := keyTurn_secret overflowChecks output copied middle hnext hvalue
        rw [tooDeep_secret hnext hvalue]
        by_cases hover : overflowChecks = true ∧ 2 ^ 32 ≤ nesting before value
        · rw [counted, if_pos hover] at hturn
          exact ⟨fun _ => .fault hturn, fun h => absurd ⟨hover.1, Or.inl hover.2⟩ h⟩
        · rw [counted, if_neg hover] at hturn
          refine ⟨fun h => .goOn hturn (hdeep ⟨h.1, ?_⟩), fun h => ?_⟩
          · exact h.2.resolve_left fun hdeep => hover ⟨h.1, hdeep⟩
          · obtain ⟨final, hends, hfinish⟩ := hflat fun hlater => h ⟨hlater.1, Or.inr hlater.2⟩
            refine ⟨final, .goOn hturn hends, ?_⟩
            rw [hfinish, scan_secret hnext hvalue]
            simp only [encode_append, List.append_assoc]
            rfl

theorem redactSensitiveKeyValues_overflow {text : List Char} (h : TooDeep none text) :
    redactSensitiveKeyValues true (encode text) = .error .overflow := by
  have hends := (keys_end true [] [] [] text fun _ => rfl).1 ⟨rfl, h⟩
  have hrun := hends.run (keyTurn_advances true _).shrinks (Nat.lt_succ_of_le (Nat.sub_le _ _))
  rw [redactSensitiveKeyValues]
  exact congrArg (· >>= finishPass (encode text)) hrun

theorem redactSensitiveKeyValues_encode {overflowChecks : Bool} {text : List Char}
    (h : ¬(overflowChecks = true ∧ TooDeep none text)) :
    redactSensitiveKeyValues overflowChecks (encode text) =
      .ok (encode (Audit.redactSensitiveKeyValues text)) := by
  obtain ⟨final, hends, hfinish⟩ := (keys_end overflowChecks [] [] [] text fun _ => rfl).2 h
  have hrun := hends.run (keyTurn_advances overflowChecks _).shrinks
    (Nat.lt_succ_of_le (Nat.sub_le _ _))
  rw [redactSensitiveKeyValues]
  exact (congrArg (· >>= finishPass (encode text)) hrun).trans hfinish

/-! Secret-shaped tokens. -/

private theorem isRecoveryCode_map (candidate : List UInt8) :
    isRecoveryCode candidate = .ok (Audit.isRecoveryCode (candidate.map charOf)) := by
  rw [isRecoveryCode, Audit.isRecoveryCode, List.length_map]
  by_cases hlength : candidate.length = 22
  · obtain ⟨eighth, height⟩ : ∃ byte, candidate[8]? = some byte :=
      ⟨_, List.getElem?_eq_getElem (by omega)⟩
    obtain ⟨fifteenth, hfifteen⟩ : ∃ byte, candidate[15]? = some byte :=
      ⟨_, List.getElem?_eq_getElem (by omega)⟩
    have hhex : ∀ ok : Char × Nat → Bool, (candidate.map charOf).zipIdx.all ok =
        candidate.zipIdx.all (fun entry => ok (charOf entry.1, entry.2)) := by
      intro ok
      rw [List.zipIdx_map, List.all_map]
      rfl
    rw [if_pos hlength, byteAt, height, ok_bind, byteAt, hfifteen, hhex, List.getElem?_map,
      List.getElem?_map, height, hfifteen, decide_eq_true hlength]
    simp only [Option.map_some, Option.some.injEq, Bool.true_and, ok_bind]
    by_cases hdash : charOf eighth = '-'
    · rw [if_pos hdash, decide_eq_true hdash, Bool.true_and]
      rfl
    · rw [if_neg hdash, decide_eq_false hdash, Bool.false_and, Bool.false_and]
      rfl
  · rw [if_neg hlength, decide_eq_false hlength, Bool.false_and, Bool.false_and, Bool.false_and]
    rfl

/-- A candidate is sensitive when its characters are, in any bytes. -/
theorem isSensitiveToken_map (candidate : List UInt8) :
    isSensitiveToken candidate = .ok (Audit.isSensitiveToken (candidate.map charOf)) := by
  have hhex : Audit.isLongHexToken (candidate.map charOf) = isLongHexToken candidate := by
    rw [Audit.isLongHexToken, isLongHexToken, List.length_map, List.all_map]
    rfl
  have hcode := isRecoveryCode_map candidate
  rw [isSensitiveToken, Audit.isSensitiveToken, hhex, hcode]
  cases isLongHexToken candidate with
  | true => rfl
  | false => rfl

theorem tokenTurn_advances (text : List UInt8) :
    Advances (tokenTurn text) text.length PassState.index := by
  intro state next h
  rw [tokenTurn] at h
  split_ifs at h with hlt
  · refine ⟨hlt, ?_⟩
    obtain ⟨byte, hbyte, h⟩ := bind_eq_ok.mp h
    by_cases htoken : isTokenByte (charOf byte) = true
    · rw [if_pos htoken] at h
      obtain ⟨stop, hstop, h⟩ := bind_eq_ok.mp h
      obtain ⟨candidate, -, h⟩ := bind_eq_ok.mp h
      obtain ⟨sensitive, -, h⟩ := bind_eq_ok.mp h
      have holds : holdsAt isTokenByte text state.index = .ok true := by
        rw [holdsAt, if_pos hlt, hbyte, ok_bind, htoken]
        rfl
      have hindex := lt_skipWhile holds hstop
      cases sensitive with
      | true =>
        obtain ⟨plain, -, h⟩ := bind_eq_ok.mp h
        cases h
        exact hindex
      | false =>
        cases h
        exact hindex
    · rw [if_neg htoken] at h
      cases h
      exact Nat.lt_succ_self _
  · cases h

/-- The first run of token bytes is decided where it ends. -/
private theorem redactTokensFrom_next {run after : List Char}
    (hrun : ∀ c ∈ run, isTokenByte c = true) (hafter : ∀ c ∈ after.head?, isTokenByte c = false) :
    redactTokensFrom [] (run ++ after) = redactToken run ++ redactTokensFrom [] after := by
  have hempty : redactTokensFrom [] [] = [] := rfl
  cases after with
  | nil => rw [List.append_nil, redactTokensFrom_run hrun, hempty, List.append_nil, List.nil_append]
  | cons c after =>
    have hc := hafter c rfl
    have hcons := redactTokensFrom_append hc [] [] after
    rw [List.nil_append, hempty, List.nil_append] at hcons
    rw [redactTokensFrom_append hc, redactTokensFrom_run hrun, List.nil_append, hcons]

/-- The run that starts with a token byte, and what stands behind it. -/
private theorem first_run {c : Char} (rest : List Char) (hc : isTokenByte c = true) :
    ∃ run after, c :: rest = run ++ after ∧ run ≠ [] ∧ (∀ d ∈ run, isTokenByte d = true) ∧
      (∀ d ∈ after.head?, isTokenByte d = false) ∧
      (run ++ after).takeWhile isTokenByte = run := by
  have hsplit : (c :: rest).takeWhile isTokenByte ++ (c :: rest).dropWhile isTokenByte =
      c :: rest := List.takeWhile_append_dropWhile
  refine ⟨(c :: rest).takeWhile isTokenByte, (c :: rest).dropWhile isTokenByte, hsplit.symm, ?_,
    fun d => List.mem_takeWhile_imp, ?_, by rw [hsplit]⟩
  · rw [List.takeWhile_cons_of_pos hc]
    exact List.cons_ne_nil _ _
  · intro d hd
    have hhead := List.head?_dropWhile_not isTokenByte (c :: rest)
    rw [Option.mem_def.mp hd] at hhead
    simpa using hhead

section Tokens

variable (output : List UInt8) (copied middle : List Char) {rest : List Char}

/-- A byte that is no token byte is passed over, also inside a longer character. -/
private theorem tokenTurn_other {c : Char} (hc : isTokenByte c = false) {index : Nat}
    (hstart : position (copied ++ middle) ≤ index)
    (hstop : index < position (copied ++ middle ++ [c])) :
    tokenTurn (encode (copied ++ middle ++ c :: rest)) ⟨output, position copied, index⟩ =
      .ok (.goOn ⟨output, position copied, index + 1⟩) := by
  obtain ⟨byte, hmem, hbyte⟩ := byteAt_char rest hstart hstop
  have hplain : ¬isTokenByte (charOf byte) = true := by
    rw [uniform_token.byte hmem, hc]
    exact Bool.false_ne_true
  rw [tokenTurn, if_pos (lt_length hstop), hbyte, ok_bind, if_neg hplain]
  rfl

/-- The turn at the start of a run reads it to its end. -/
private theorem tokenTurn_run {run after : List Char} (hne : run ≠ [])
    (hrun : ∀ c ∈ run, isTokenByte c = true)
    (htake : (run ++ after).takeWhile isTokenByte = run) :
    tokenTurn (encode (copied ++ middle ++ (run ++ after))) (passAt output copied middle) =
      .ok (.goOn (if Audit.isSensitiveToken run then
        passAt (output ++ encode middle ++ redaction) (copied ++ middle ++ run) []
        else passAt output copied (middle ++ run))) := by
  have hlt : position (copied ++ middle) < (encode (copied ++ middle ++ (run ++ after))).length :=
    position_lt_append (by simp [hne]) _
  have hascii : ∀ c ∈ run, c.toNat < 128 := fun c hc => ascii_of_token (hrun c hc)
  have holds : ∃ byte, byteAt (encode (copied ++ middle ++ (run ++ after)))
      (position (copied ++ middle)) = .ok byte ∧ isTokenByte (charOf byte) = true := by
    obtain ⟨c, more, rfl⟩ := List.exists_cons_of_ne_nil hne
    obtain ⟨byte, hmem, hbyte⟩ := byteAt_char (more ++ after) le_rfl
      (position_lt (copied ++ middle) c)
    refine ⟨byte, hbyte, ?_⟩
    rw [uniform_token.byte hmem, hrun c (List.mem_cons_self ..)]
  obtain ⟨byte, hbyte, htoken⟩ := holds
  have hstop := skipWhile_position uniform_token (copied ++ middle) (run ++ after)
  have hcandidate := slice_position (copied ++ middle) run after
  have hplain := slice_position copied middle (run ++ after)
  rw [htake] at hstop
  rw [List.append_assoc _ run] at hcandidate
  rw [tokenTurn]
  simp only [passAt, if_pos hlt, hbyte, ok_bind, if_pos htoken, hstop, hcandidate,
    isSensitiveToken_map, map_charOf_encode hascii, hplain, List.append_nil]
  cases Audit.isSensitiveToken run with
  | true => rfl
  | false =>
    rw [if_neg Bool.false_ne_true, if_neg Bool.false_ne_true, List.append_assoc]
    rfl

private theorem tokens_end (rest : List Char) (hcopied : copied = [] → output = []) :
    ∃ final, Ends (tokenTurn (encode (copied ++ middle ++ rest))) (passAt output copied middle)
        (.ok final) ∧
      finishPass (encode (copied ++ middle ++ rest)) final =
        .ok (output ++ encode middle ++ encode (redactTokensFrom [] rest)) := by
  induction hn : rest.length using Nat.strong_induction_on
    generalizing output copied middle rest with
  | _ n ih =>
    cases rest with
    | nil =>
      refine ⟨passAt output copied middle, .finish ?_, ?_⟩
      · rw [List.append_nil, tokenTurn]
        exact if_neg (Nat.lt_irrefl _)
      · rw [List.append_nil, finishPass_at hcopied]
        exact congrArg Except.ok (List.append_nil _).symm
    | cons c rest =>
      rw [List.length_cons] at hn
      cases hc : isTokenByte c with
      | false =>
        obtain ⟨final, hends, hfinish⟩ :=
          ih rest.length (by omega) output copied (middle ++ [c]) rest hcopied rfl
        have hwhole : copied ++ (middle ++ [c]) ++ rest = copied ++ middle ++ c :: rest := by
          simp only [List.append_assoc, List.singleton_append]
        have hcons := redactTokensFrom_append hc [] [] rest
        rw [hwhole] at hends hfinish
        refine ⟨final, ?_, ?_⟩
        · rw [passAt, ← List.append_assoc] at hends
          exact Ends.skip (PassState.mk output (position copied)) hends (position_lt _ c).le
            fun index hstart hstop => tokenTurn_other output copied middle hc hstart hstop
        · rw [hfinish, ← List.nil_append (c :: rest), hcons, encode_append middle]
          simp only [List.append_assoc, ← encode_append]
          rfl
      | true =>
        obtain ⟨run, after, hsplit, hne, hrun, hafter, htake⟩ := first_run rest hc
        have hlength : after.length < n := by
          have hpos := List.length_pos_iff.mpr hne
          have hsum := congrArg List.length hsplit
          simp only [List.length_append, List.length_cons] at hsum
          omega
        have hturn := tokenTurn_run output copied middle hne hrun htake
        have hwhole : copied ++ middle ++ run ++ after = copied ++ middle ++ (run ++ after) :=
          List.append_assoc _ _ _
        rw [hsplit, redactTokensFrom_next hrun hafter, redactToken]
        cases hsensitive : Audit.isSensitiveToken run with
        | true =>
          obtain ⟨final, hends, hfinish⟩ := ih after.length hlength
            (output ++ encode middle ++ redaction) (copied ++ middle ++ run) [] after
            (fun hnil => absurd (List.append_eq_nil_iff.mp hnil).2 hne) rfl
          rw [List.append_nil, hwhole] at hends hfinish
          rw [hsensitive, if_pos rfl] at hturn
          refine ⟨final, .goOn hturn hends, ?_⟩
          rw [hfinish, if_pos rfl]
          simp only [encode_append, List.append_assoc]
          rfl
        | false =>
          obtain ⟨final, hends, hfinish⟩ :=
            ih after.length hlength output copied (middle ++ run) after hcopied rfl
          rw [← List.append_assoc, hwhole] at hends hfinish
          rw [hsensitive, if_neg Bool.false_ne_true] at hturn
          refine ⟨final, .goOn hturn hends, ?_⟩
          rw [hfinish, if_neg Bool.false_ne_true, encode_append middle, encode_append run]
          simp only [List.append_assoc]

end Tokens

theorem redactSensitiveTokens_encode (text : List Char) :
    redactSensitiveTokens (encode text) = .ok (encode (Audit.redactSensitiveTokens text)) := by
  obtain ⟨final, hends, hfinish⟩ := tokens_end [] [] [] text fun _ => rfl
  have hrun := hends.run (tokenTurn_advances _).shrinks (Nat.lt_succ_of_le (Nat.sub_le _ _))
  rw [redactSensitiveTokens]
  exact (congrArg (· >>= finishPass (encode text)) hrun).trans hfinish

end Sunbolt.Audit.ByteRedaction
