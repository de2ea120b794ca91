/- Module: Sunbolt/Audit/ByteValues
   scope: sunbolt-audit/src/redaction.rs
   digest: The bounds of a value byte by byte, and how deep its brackets may nest. -/

import Sunbolt.Audit.ByteScanners
import Mathlib.Algebra.Group.Nat.Defs

set_option autoImplicit false
set_option relaxedAutoImplicit false

namespace Sunbolt.Audit.ByteRedaction

open Sunbolt.Library Sunbolt.Library.Utf8Text
open Sunbolt.Library.Utf8Lossy (encode decode)

/-! The depth of brackets, counted without a bound. -/

/-- How deep the brackets of a value get, from this depth on and inside this quote. -/
def deepest (opening closing : Char) : Option Char → Nat → List Char → Nat
  | _, depth, [] => depth
  | some quote, depth, '\\' :: _ :: rest => deepest opening closing (some quote) depth rest
  | some quote, depth, c :: rest =>
    deepest opening closing (if c = quote then none else some quote) depth rest
  | none, depth, c :: rest =>
    if c = opening then deepest opening closing none (depth + 1) rest
    else if c = closing then
      if depth ≤ 1 then depth else max depth (deepest opening closing none (depth - 1) rest)
    else deepest opening closing (if c = '"' || c = '\'' then some c else none) depth rest

section Depth

variable {opening closing : Char}

theorem le_deepest (quote : Option Char) (depth : Nat) (text : List Char) :
    depth ≤ deepest opening closing quote depth text := by
  induction quote, depth, text using deepest.induct opening closing with
  | case1 quote depth => rw [deepest]
  | case2 depth quote c rest ih =>
    rw [deepest]
    exact ih
  | case3 depth quote c rest h ih =>
    rw [deepest]
    · exact ih
    · exact h
  | case4 depth rest ih =>
    rw [deepest, if_pos rfl]
    exact (Nat.le_succ _).trans ih
  | case5 depth rest hle hne =>
    rw [deepest, if_neg hne, if_pos rfl, if_pos hle]
  | case6 depth rest hle hne ih =>
    rw [deepest, if_neg hne, if_pos rfl, if_neg hle]
    exact Nat.le_max_left _ _
  | case7 depth c rest hopening hclosing ih =>
    rw [deepest, if_neg hopening, if_neg hclosing]
    exact ih

private theorem deepest_escape (quote c : Char) (depth : Nat) (rest : List Char) :
    deepest opening closing (some quote) depth ('\\' :: c :: rest) =
      deepest opening closing (some quote) depth rest := by
  rw [deepest]

private theorem deepest_other {quote c : Char} (hslash : c ≠ '\\') (hquote : c ≠ quote)
    (depth : Nat) (rest : List Char) :
    deepest opening closing (some quote) depth (c :: rest) =
      deepest opening closing (some quote) depth rest := by
  rw [deepest, if_neg hquote]
  exact fun _ _ heq _ => hslash heq

/-- Brackets inside quotes do not count. -/
theorem deepest_quoted (opening closing : Char) {quote : Char} (hne : quote ≠ '\\') (depth : Nat)
    (text : List Char) :
    deepest opening closing (some quote) depth (quotedValue quote text).1 = depth ∧
      ((quotedValue quote text).2 ≠ [] → ∀ more,
        deepest opening closing (some quote) depth ((quotedValue quote text).1 ++ quote :: more) =
          deepest opening closing none depth more) := by
  induction hn : text.length using Nat.strong_induction_on generalizing text with
  | _ n ih =>
    cases text with
    | nil => exact ⟨by rw [quotedValue_nil, deepest], fun h => absurd rfl h⟩
    | cons c text =>
      rw [List.length_cons] at hn
      by_cases hslash : c = '\\'
      · subst hslash
        cases text with
        | nil =>
          refine ⟨?_, fun h => absurd (by rw [quotedValue]) h⟩
          have hvalue : (quotedValue quote ['\\']).1 = ['\\'] := by rw [quotedValue]
          rw [hvalue, deepest, if_neg hne.symm, deepest]
          intro _ _ _ heq
          cases heq
        | cons d text =>
          rw [List.length_cons] at hn
          obtain ⟨hquoted, hclosed⟩ := ih text.length (by omega) text rfl
          rw [quotedValue_escape, readOn]
          refine ⟨(deepest_escape quote d depth _).trans hquoted, fun hrest more => ?_⟩
          exact (deepest_escape quote d depth _).trans (hclosed hrest more)
      · by_cases hquote : c = quote
        · subst hquote
          rw [quotedValue_quote hne]
          refine ⟨by rw [deepest], fun _ more => ?_⟩
          rw [List.nil_append, deepest, if_pos rfl]
          exact fun _ _ heq _ => hne heq
        · obtain ⟨hquoted, hclosed⟩ := ih text.length (by omega) text rfl
          rw [quotedValue_other hslash hquote, readOn]
          refine ⟨(deepest_other hslash hquote depth _).trans hquoted, fun hrest more => ?_⟩
          exact (deepest_other hslash hquote depth _).trans (hclosed hrest more)

end Depth

/-! Values in brackets. -/

/-- What a build makes of a result that takes the depth up to `deep`: with overflow checks, a
    depth that leaves a `u32` panics. -/
def counted {α : Type} (overflowChecks : Bool) (deep : Nat) (result : α) : Checked α :=
  if overflowChecks = true ∧ 2 ^ 32 ≤ deep then .error .overflow else .ok result

theorem counted_ok {α : Type} {overflowChecks : Bool} {deep : Nat} (h : deep < 2 ^ 32)
    (result : α) : counted overflowChecks deep result = .ok result :=
  if_neg fun hdeep => absurd hdeep.2 (Nat.not_le.mpr h)

theorem counted_congr {α : Type} {overflowChecks : Bool} {deep deep' : Nat}
    (h : overflowChecks = true → (2 ^ 32 ≤ deep ↔ 2 ^ 32 ≤ deep')) (result : α) :
    counted overflowChecks deep result = counted overflowChecks deep' result :=
  if_congr (and_congr_right h) rfl rfl

theorem counted_bind {α β : Type} {result : α} {f : α → Checked β} {out : β}
    (h : f result = .ok out) (overflowChecks : Bool) (deep : Nat) :
    (counted overflowChecks deep result >>= f) = counted overflowChecks deep out := by
  rw [counted, counted]
  split_ifs
  · rfl
  · exact h

section Balanced

variable {overflowChecks : Bool} {opening closing : Char}

private theorem toNat_outer (depth : UInt32) : (outer depth).toNat = depth.toNat - 1 := by
  rw [outer]
  split_ifs with h
  · rw [h]
    rfl
  · have hpos : 0 < depth.toNat := by
      rw [Nat.pos_iff_ne_zero]
      exact fun hzero => h (UInt32.toNat_inj.mp hzero)
    rw [UInt32.toNat_sub_of_le]
    · rfl
    · exact UInt32.le_iff_toNat_le.mpr hpos

/-- A depth that is not the last of a `u32` goes one up in every build, and without checks it
    always does. -/
private theorem increment_ok {depth : UInt32} (h : ¬(overflowChecks = true ∧ depth = 0xFFFFFFFF)) :
    increment overflowChecks depth = .ok (depth + 1) := by
  rw [increment, if_neg]
  rwa [Bool.and_eq_true, decide_eq_true_eq]

private theorem toNat_increment {depth : UInt32} (h : depth ≠ 0xFFFFFFFF) :
    (depth + 1).toNat = depth.toNat + 1 := by
  have hlt := depth.toNat_lt
  have hne : depth.toNat ≠ 0xFFFFFFFF := fun heq => h (UInt32.toNat_inj.mp heq)
  rw [UInt32.toNat_add]
  change (depth.toNat + 1) % 2 ^ 32 = _
  omega

/-- The turn at a byte of a character, by the character. -/
private theorem balancedTurn_char (overflowChecks : Bool) (hopening : opening.toNat < 128)
    (hclosing : closing.toNat < 128) {done : List Char} (rest : List Char) {c : Char} {index : Nat}
    (hstart : position done ≤ index) (hstop : index < position (done ++ [c])) (depth : UInt32) :
    balancedTurn overflowChecks opening closing (encode (done ++ c :: rest)) (index, depth) =
      if c = opening then do
        let depth ← increment overflowChecks depth
        return .goOn (index + 1, depth)
      else if c = closing then
        if outer depth = 0 then return .finish (index + 1)
        else return .goOn (index + 1, outer depth)
      else if c = '"' || c = '\'' then do
        let (_, stop) ← quotedValueBounds (encode (done ++ c :: rest)) index
        return .goOn (stop + 1, depth)
      else return .goOn (index + 1, depth) := by
  obtain ⟨byte, hmem, hbyte⟩ := byteAt_char rest hstart hstop
  have hquotes : (charOf byte = '"' || charOf byte = '\'') = (c = '"' || c = '\'') := by
    rw [decide_eq_decide.mpr (byte_eq_iff (by decide) hmem),
      decide_eq_decide.mpr (byte_eq_iff (by decide) hmem)]
  rw [balancedTurn, if_pos (lt_length hstop), hbyte, ok_bind]
  refine if_congr (byte_eq_iff hopening hmem) rfl
    (if_congr (byte_eq_iff hclosing hmem) rfl (if_congr ?_ rfl rfl))
  rw [hquotes]

private theorem deepest_opening (depth : Nat) (rest : List Char) :
    deepest opening closing none depth (opening :: rest) =
      deepest opening closing none (depth + 1) rest := by
  rw [deepest, if_pos rfl]

private theorem deepest_closing (hne : closing ≠ opening) (depth : Nat) (rest : List Char) :
    deepest opening closing none depth (closing :: rest) =
      if depth ≤ 1 then depth else max depth (deepest opening closing none (depth - 1) rest) := by
  rw [deepest, if_neg hne, if_pos rfl]

private theorem deepest_else {c : Char} (hopening : c ≠ opening) (hclosing : c ≠ closing)
    (depth : Nat) (rest : List Char) :
    deepest opening closing none depth (c :: rest) =
      deepest opening closing (if c = '"' || c = '\'' then some c else none) depth rest := by
  rw [deepest, if_neg hopening, if_neg hclosing]

private theorem balancedTurn_end (done : List Char) {index : Nat} (h : position done ≤ index)
    (depth : UInt32) :
    Ends (balancedTurn overflowChecks opening closing (encode done)) (index, depth)
      (.ok (position done)) := by
  refine .finish ?_
  rw [balancedTurn, length_encode, if_neg (Nat.not_lt.mpr h)]
  rfl

/-- From this depth inside brackets, the loop ends where the value does, unless the depth
    overflows. -/
private def ReadsBalanced (overflowChecks : Bool) (opening closing : Char)
    (done rest : List Char) (depth : UInt32) : Prop :=
  Ends (balancedTurn overflowChecks opening closing (encode (done ++ rest)))
    (position done, depth)
    (counted overflowChecks
      (deepest opening closing none depth.toNat (balanced opening closing depth rest).1)
      (position (done ++ (balanced opening closing depth rest).1)))

section Cases

variable (brackets : IsBrackets opening closing) (hopening : opening.toNat < 128)
  (hclosing : closing.toNat < 128) {done rest : List Char} {depth : UInt32}

include hopening hclosing

private theorem readsBalanced_opening
    (hnext : ReadsBalanced overflowChecks opening closing (done ++ [opening]) rest (depth + 1)) :
    ReadsBalanced overflowChecks opening closing done (opening :: rest) depth := by
  have hturn := balancedTurn_char overflowChecks hopening hclosing rest le_rfl
    (position_lt done opening) depth
  rw [if_pos rfl] at hturn
  rw [ReadsBalanced, balanced_cons, if_pos rfl, readOn, List.singleton_append, deepest_opening]
  by_cases hmax : overflowChecks = true ∧ depth = 0xFFFFFFFF
  · obtain ⟨rfl, rfl⟩ := hmax
    have hdeep : 2 ^ 32 ≤ deepest opening closing none ((0xFFFFFFFF : UInt32).toNat + 1)
        (balanced opening closing (0xFFFFFFFF + 1) rest).1 := le_deepest none _ _
    rw [counted, if_pos ⟨rfl, hdeep⟩]
    exact .fault hturn
  · rw [increment_ok hmax, ok_bind, ← position_ascii hopening] at hturn
    refine .goOn hturn ?_
    rw [ReadsBalanced, List.append_assoc, List.append_assoc, List.singleton_append] at hnext
    rw [counted_congr]
    · exact hnext
    · intro hchecks
      rw [toNat_increment fun heq => hmax ⟨hchecks, heq⟩]

private theorem readsBalanced_closing (hne : closing ≠ opening)
    (hnext : outer depth ≠ 0 →
      ReadsBalanced overflowChecks opening closing (done ++ [closing]) rest (outer depth)) :
    ReadsBalanced overflowChecks opening closing done (closing :: rest) depth := by
  have hturn := balancedTurn_char overflowChecks hopening hclosing rest le_rfl
    (position_lt done closing) depth
  rw [if_neg hne, if_pos rfl, ← position_ascii hclosing] at hturn
  have houter := toNat_outer depth
  rw [ReadsBalanced, balanced_cons, if_neg hne, if_pos rfl]
  by_cases hzero : outer depth = 0
  · have hone : depth.toNat ≤ 1 := by
      rw [hzero] at houter
      change 0 = depth.toNat - 1 at houter
      omega
    rw [if_pos hzero] at hturn
    rw [if_pos hzero, deepest_closing hne, if_pos hone, counted_ok (by omega)]
    exact .finish hturn
  · have hone : ¬depth.toNat ≤ 1 := by
      intro hle
      refine hzero (UInt32.toNat_inj.mp ?_)
      change (outer depth).toNat = 0
      omega
    rw [if_neg hzero] at hturn
    refine .goOn hturn ?_
    have hread := hnext hzero
    rw [ReadsBalanced, List.append_assoc, List.append_assoc, List.singleton_append, houter] at hread
    rw [if_neg hzero, readOn, List.singleton_append, deepest_closing hne, if_neg hone,
      counted_congr]
    · exact hread
    · intro _
      have hlt := depth.toNat_lt
      rw [Nat.max_def]
      split_ifs
      · exact Iff.rfl
      · omega

private theorem readsBalanced_quote {q : Char} (hq : q = '"' ∨ q = '\'')
    (hnext : ∀ rest', rest'.length < rest.length → ∀ done',
      ReadsBalanced overflowChecks opening closing done' rest' depth)
    (hopen : q ≠ opening) (hclose : q ≠ closing) :
    ReadsBalanced overflowChecks opening closing done (q :: rest) depth := by
  have hquotes : (q = '"' || q = '\'') = true := by simpa using hq
  obtain ⟨hascii, hslash⟩ := ascii_of_quote hq
  have hturn := balancedTurn_char overflowChecks hopening hclosing rest le_rfl
    (position_lt done q) depth
  rw [if_neg hopen, if_neg hclose, if_pos hquotes, quotedValueBounds_position done hq, ok_bind]
    at hturn
  refine .goOn hturn ?_
  obtain ⟨hquoted, hclosed⟩ := deepest_quoted opening closing hslash depth.toNat rest
  have hsplit := quotedValue_append q rest
  have hend := quotedValue_rest q rest
  rw [balanced_cons, if_neg hopen, if_neg hclose, if_pos hquotes, readOn, List.singleton_append,
    deepest_else hopen hclose, if_pos hquotes, insideQuote]
  cases hvalue : quotedValue q rest with
  | mk quoted after =>
    rw [hvalue] at hquoted hclosed hsplit hend
    cases after with
    | nil =>
      rw [List.append_nil] at hsplit
      subst hsplit
      simp only [hquoted]
      rw [counted_ok depth.toNat_lt]
      have hstop : position (done ++ [q] ++ quoted) = position (done ++ q :: quoted) := by simp
      rw [hstop]
      exact balancedTurn_end _ (Nat.le_succ _) depth
    | cons e more =>
      obtain rfl : e = q := hend e rfl
      have hlength : more.length < rest.length := by
        rw [← hsplit]
        simp only [List.length_append, List.length_cons]
        omega
      have hread := hnext more hlength (done ++ [e] ++ quoted ++ [e])
      have hwhole : done ++ [e] ++ quoted ++ [e] ++ more = done ++ e :: rest := by
        rw [← hsplit]
        simp
      have hback : done ++ [e] ++ quoted ++ [e] ++ (balanced opening closing depth more).1 =
          done ++ e :: (quoted ++ [e] ++ (balanced opening closing depth more).1) := by
        simp
      rw [ReadsBalanced, hwhole, hback, position_ascii hascii] at hread
      simp only [readOn]
      rw [List.append_assoc quoted, List.singleton_append, hclosed (List.cons_ne_nil _ _)]
      rw [List.append_assoc quoted, List.singleton_append] at hread
      exact hread

private theorem readsBalanced_other {c : Char} (hopen : c ≠ opening) (hclose : c ≠ closing)
    (hquotes : ¬(c = '"' || c = '\'') = true)
    (hnext : ReadsBalanced overflowChecks opening closing (done ++ [c]) rest depth) :
    ReadsBalanced overflowChecks opening closing done (c :: rest) depth := by
  rw [ReadsBalanced, List.append_assoc, List.append_assoc, List.singleton_append] at hnext
  rw [ReadsBalanced, balanced_cons, if_neg hopen, if_neg hclose, if_neg hquotes, readOn,
    List.singleton_append, deepest_else hopen hclose, if_neg hquotes]
  refine Ends.skip (fun index => (index, depth)) hnext (position_lt done c).le
    fun index hstart hstop => ?_
  rw [balancedTurn_char overflowChecks hopening hclosing rest hstart hstop, if_neg hopen,
    if_neg hclose, if_neg hquotes]
  rfl

include brackets in
private theorem readsBalanced (done rest : List Char) (depth : UInt32) :
    ReadsBalanced overflowChecks opening closing done rest depth := by
  induction hn : rest.length using Nat.strong_induction_on generalizing done rest depth with
  | _ n ih =>
    cases rest with
    | nil =>
      rw [ReadsBalanced, balanced_nil, deepest, counted_ok depth.toNat_lt, List.append_nil]
      exact balancedTurn_end done le_rfl depth
    | cons c rest =>
      rw [List.length_cons] at hn
      have hnext := fun done depth => ih rest.length (by omega) done rest depth rfl
      by_cases hopen : c = opening
      · subst hopen
        exact readsBalanced_opening hopening hclosing (hnext _ _)
      · by_cases hclose : c = closing
        · subst hclose
          exact readsBalanced_closing hopening hclosing brackets.ne fun _ => hnext _ _
        · by_cases hquotes : (c = '"' || c = '\'') = true
          · refine readsBalanced_quote hopening hclosing (by simpa using hquotes) ?_ hopen hclose
            exact fun rest' hlt done' => ih rest'.length (by omega) done' rest' depth rfl
          · exact readsBalanced_other hopening hclosing hopen hclose hquotes (hnext _ _)

end Cases

/-- What one turn does: it reads on, or it ends the value, at a bracket or with the text. -/
private theorem balancedTurn_inv {text : List UInt8} {index : Nat} {depth : UInt32}
    {out : Turn (Nat × UInt32) Nat}
    (h : balancedTurn overflowChecks opening closing text (index, depth) = .ok out) :
    (index < text.length ∧ ((∃ next deeper, out = .goOn (next, deeper) ∧ index < next) ∨
      out = .finish (index + 1))) ∨ (text.length ≤ index ∧ out = .finish text.length) := by
  rw [balancedTurn] at h
  by_cases hlt : index < text.length
  · refine Or.inl ⟨hlt, ?_⟩
    rw [if_pos hlt] at h
    obtain ⟨byte, -, h⟩ := bind_eq_ok.mp h
    by_cases hopen : charOf byte = opening
    · rw [if_pos hopen] at h
      obtain ⟨deeper, -, h⟩ := bind_eq_ok.mp h
      cases h
      exact Or.inl ⟨_, _, rfl, Nat.lt_succ_self _⟩
    · by_cases hclose : charOf byte = closing
      · rw [if_neg hopen, if_pos hclose] at h
        change (if outer depth = 0 then _ else _) = _ at h
        by_cases hzero : outer depth = 0
        · rw [if_pos hzero] at h
          cases h
          exact Or.inr rfl
        · rw [if_neg hzero] at h
          cases h
          exact Or.inl ⟨_, _, rfl, Nat.lt_succ_self _⟩
      · rw [if_neg hopen, if_neg hclose] at h
        split_ifs at h
        · obtain ⟨⟨start, stop⟩, hbounds, h⟩ := bind_eq_ok.mp h
          cases h
          obtain ⟨rfl, hle⟩ := quotedValueBounds_le hbounds
          exact Or.inl ⟨_, _, rfl, Nat.lt_succ_of_le (Nat.le_of_succ_le hle)⟩
        · cases h
          exact Or.inl ⟨_, _, rfl, Nat.lt_succ_self _⟩
  · rw [if_neg hlt] at h
    cases h
    exact Or.inr ⟨Nat.le_of_not_lt hlt, rfl⟩

theorem balancedTurn_advances (overflowChecks : Bool) (opening closing : Char)
    (text : List UInt8) :
    Advances (balancedTurn overflowChecks opening closing text) text.length Prod.fst := by
  rintro ⟨index, depth⟩ next h
  rcases balancedTurn_inv h with ⟨hlt, ⟨stop, deeper, heq, hnext⟩ | heq⟩ | ⟨-, heq⟩
  · cases heq
    exact ⟨hlt, hnext⟩
  · cases heq
  · cases heq

theorem balancedValueEnd_position (overflowChecks : Bool) {opening closing : Char}
    (brackets : IsBrackets opening closing) (hopening : opening.toNat < 128)
    (hclosing : closing.toNat < 128) (done rest : List Char) :
    balancedValueEnd overflowChecks (encode (done ++ rest)) (position done) opening closing =
      counted overflowChecks (deepest opening closing none 0 (balanced opening closing 0 rest).1)
        (position (done ++ (balanced opening closing 0 rest).1)) :=
  (readsBalanced brackets hopening hclosing done rest 0).run
    (balancedTurn_advances overflowChecks opening closing _).shrinks
    (Nat.lt_succ_of_le (Nat.sub_le _ _))

end Balanced

/-! Other values. -/

theorem uniform_unquoted : Uniform (fun c => !endsUnquoted c) := by
  refine Uniform.not (uniform_of_ascii fun c h => ?_)
  simp only [endsUnquoted, Bool.or_eq_true, decide_eq_true_eq] at h
  rcases h with (((rfl | rfl) | rfl) | rfl) | h
  · decide
  · decide
  · decide
  · decide
  · exact ascii_of_space h

theorem unquotedTurn_eq (text : List UInt8) :
    unquotedTurn text = whileTurn (fun c => !endsUnquoted c) text := by
  funext index
  rw [unquotedTurn, whileTurn, holdsAt, holdsAt, holdsAt]
  split_ifs with hlt
  · cases byteAt text index with
    | error fault => rfl
    | ok byte =>
      simp only [ok_bind, endsUnquoted, pure, Except.pure]
      cases h : (charOf byte = ',' || charOf byte = ';' || charOf byte = '\n' ||
        charOf byte = '\r') with
      | true => rfl
      | false =>
        cases hspace : isAsciiWhitespace (charOf byte) with
        | true => rfl
        | false => rfl
  · rfl

theorem unquotedValueEnd_eq (text : List UInt8) (startAt : Nat) :
    unquotedValueEnd text startAt = skipWhile (fun c => !endsUnquoted c) text startAt := by
  rw [unquotedValueEnd, unquotedTurn_eq, skipWhile]

/-- How deep the brackets of a value nest that stands behind this text. -/
def nesting (front value : List Char) : Nat :=
  if front.getLast?.any (fun c => c = '"' || c = '\'') then 0
  else match value with
    | '[' :: _ => deepest '[' ']' none 0 value
    | '{' :: _ => deepest '{' '}' none 0 value
    | _ => 0

section Bounds

variable (done : List Char)

/-- The indices of a value behind this text. -/
def boundsOf (done : List Char) : List Char × List Char × List Char → Nat × Nat
  | (before, value, _) => (position (done ++ before), position (done ++ before ++ value))

private theorem nesting_spaces {spaces : List Char}
    (hspaces : ∀ d ∈ spaces, isAsciiWhitespace d = true) (value : List Char) :
    nesting spaces value =
      match value with
      | '[' :: _ => deepest '[' ']' none 0 value
      | '{' :: _ => deepest '{' '}' none 0 value
      | _ => 0 := by
  refine if_neg ?_
  cases hlast : spaces.getLast? with
  | none => exact Bool.false_ne_true
  | some d =>
    have hd := hspaces d (List.mem_of_getLast? hlast)
    rw [Option.any_some, Bool.or_eq_true, decide_eq_true_eq, decide_eq_true_eq]
    rintro (rfl | rfl)
    · exact absurd hd (by decide)
    · exact absurd hd (by decide)

private theorem nesting_quoted {q : Char} (hq : (q = '"' || q = '\'') = true)
    (front value : List Char) : nesting (front ++ [q]) value = 0 := by
  refine if_pos ?_
  rw [List.getLast?_concat, Option.any_some]
  exact hq

private theorem nesting_square {spaces : List Char}
    (hspaces : ∀ d ∈ spaces, isAsciiWhitespace d = true) (rest : List Char) :
    nesting spaces (balanced '[' ']' 0 ('[' :: rest)).1 =
      deepest '[' ']' none 0 (balanced '[' ']' 0 ('[' :: rest)).1 := by
  rw [nesting_spaces hspaces, balanced_cons, if_pos rfl]
  rfl

private theorem nesting_curly {spaces : List Char}
    (hspaces : ∀ d ∈ spaces, isAsciiWhitespace d = true) (rest : List Char) :
    nesting spaces (balanced '{' '}' 0 ('{' :: rest)).1 =
      deepest '{' '}' none 0 (balanced '{' '}' 0 ('{' :: rest)).1 := by
  rw [nesting_spaces hspaces, balanced_cons, if_pos rfl]
  rfl

private theorem nesting_unquoted {spaces : List Char}
    (hspaces : ∀ d ∈ spaces, isAsciiWhitespace d = true) {c : Char} (hsquare : c ≠ '[')
    (hcurly : c ≠ '{') (rest : List Char) :
    nesting spaces ((c :: rest).takeWhile (!endsUnquoted ·)) = 0 := by
  rw [nesting_spaces hspaces]
  cases hc : endsUnquoted c with
  | true => rw [List.takeWhile_cons_of_neg (by simp [hc])]
  | false =>
    rw [List.takeWhile_cons_of_pos (by simp [hc])]
    split
    · rename_i heq
      exact absurd (List.cons.inj heq).1 hsquare
    · rename_i heq
      exact absurd (List.cons.inj heq).1 hcurly
    · rfl

theorem valueBounds_position (overflowChecks : Bool) (rest : List Char) :
    valueBounds overflowChecks (encode (done ++ rest)) (position done) =
      match Audit.valueBounds rest with
      | none => .ok none
      | some bounds =>
        counted overflowChecks (nesting bounds.1 bounds.2.1) (some (boundsOf done bounds)) := by
  rw [valueBounds, skipWhile_position uniform_space, ok_bind]
  rcases span_cut isAsciiWhitespace rest with hall | ⟨spaces, c, back, rfl, hspaces, hc⟩
  · rw [valueBounds_spaces hall, List.takeWhile_eq_self_iff.mpr hall, length_encode,
      if_pos le_rfl]
    rfl
  · obtain ⟨htake, -⟩ := takeWhile_cut hspaces hc back
    have hlt := position_lt (done ++ spaces) c
    obtain ⟨byte, hmem, hbyte⟩ := byteAt_char back le_rfl hlt
    have hquotes : (charOf byte = '"' || charOf byte = '\'') = (c = '"' || c = '\'') := by
      rw [decide_eq_decide.mpr (byte_eq_iff (by decide) hmem),
        decide_eq_decide.mpr (byte_eq_iff (by decide) hmem)]
    rw [htake, valueBounds_at hspaces hc, ← List.append_assoc,
      if_neg (Nat.not_le.mpr (lt_length hlt)), hbyte, ok_bind, hquotes]
    simp only [byte_eq_iff (d := '[') (by decide) hmem, byte_eq_iff (d := '{') (by decide) hmem]
    by_cases hquote : (c = '"' || c = '\'') = true
    · have hbounds : boundsAt spaces c back = (spaces ++ [c], quotedValue c back) := if_pos hquote
      rw [if_pos hquote, hbounds, quotedValueBounds_position _ (by simpa using hquote),
        nesting_quoted hquote, counted_ok (by decide), boundsOf]
      simp only [List.append_assoc]
      rfl
    · rw [if_neg hquote]
      by_cases hsquare : c = '['
      · subst hsquare
        have hbounds : boundsAt spaces '[' back = (spaces, balanced '[' ']' 0 ('[' :: back)) := rfl
        rw [if_pos rfl, hbounds, nesting_square hspaces,
          balancedValueEnd_position _ isBrackets_square (by decide) (by decide)]
        refine counted_bind ?_ _ _
        rfl
      · by_cases hcurly : c = '{'
        · subst hcurly
          have hbounds : boundsAt spaces '{' back = (spaces, balanced '{' '}' 0 ('{' :: back)) :=
            rfl
          rw [if_neg hsquare, if_pos rfl, hbounds, nesting_curly hspaces,
            balancedValueEnd_position _ isBrackets_curly (by decide) (by decide)]
          refine counted_bind ?_ _ _
          rfl
        · have hbounds : boundsAt spaces c back = (spaces, unquotedValue (c :: back)) := by
            rw [boundsAt, if_neg hquote, if_neg hsquare, if_neg hcurly]
          rw [if_neg hsquare, if_neg hcurly, hbounds, unquotedValue,
            nesting_unquoted hspaces hsquare hcurly, counted_ok (by decide), unquotedValueEnd_eq,
            skipWhile_position uniform_unquoted]
          rfl

/-- Only the last character before a value says whether it is quoted. -/
private theorem nesting_congr {front other : List Char}
    (h : front.getLast?.any (fun c => c = '"' || c = '\'') =
      other.getLast?.any (fun c => c = '"' || c = '\'')) (value : List Char) :
    nesting front value = nesting other value := by
  unfold nesting
  rw [h]

private theorem nesting_append {front : List Char}
    (hfront : front.getLast?.any (fun c => c = '"' || c = '\'') = false)
    (before value : List Char) :
    nesting (front ++ before) value = nesting before value := by
  refine nesting_congr ?_ value
  rw [List.getLast?_append]
  cases before.getLast? with
  | none =>
    rw [Option.none_or, hfront]
    rfl
  | some c => rfl

theorem nesting_of_ne_nil {before : List Char} (h : before ≠ []) (front value : List Char) :
    nesting (front ++ before) value = nesting before value := by
  refine nesting_congr ?_ value
  rw [List.getLast?_append_of_ne_nil _ h]

theorem keyedBounds_none (overflowChecks : Bool) {key rest : List Char}
    (h : secretValue key rest = none) :
    keyedBounds overflowChecks (encode (done ++ rest)) (position done) (normalizeKey key) =
      .ok none := by
  rw [secretValue] at h
  rw [keyedBounds]
  cases hkey : isSensitiveKey (normalizeKey key) with
  | false => rfl
  | true =>
    rw [hkey, if_pos rfl, keyedValue] at h
    rw [Bool.not_true, if_neg Bool.false_ne_true, nextKeyValueDelimiter_position]
    cases hdelimiter : Audit.nextKeyValueDelimiter rest with
    | none => rfl
    | some found =>
      obtain ⟨delimiter, more⟩ := found
      rw [hdelimiter, Option.bind_some, Option.map_eq_none_iff] at h
      have hbounds := valueBounds_position (done ++ delimiter) overflowChecks more
      rw [h, List.append_assoc, ← delimiter_append hdelimiter] at hbounds
      simp only [Option.map_some, ok_bind, delimiterAt, hbounds]
      rfl

theorem keyedBounds_some (overflowChecks : Bool) {key rest before value after : List Char}
    (h : secretValue key rest = some (before, value, after)) :
    ∃ front back, before = front ++ back ∧
      keyedBounds overflowChecks (encode (done ++ rest)) (position done) (normalizeKey key) =
        counted overflowChecks (nesting before value)
          (some ⟨position (done ++ front), position (done ++ before),
            position (done ++ before ++ value)⟩) := by
  rw [secretValue] at h
  split_ifs at h with hkey
  rw [keyedValue] at h
  obtain ⟨⟨delimiter, more⟩, hdelimiter, h⟩ := Option.bind_eq_some_iff.mp h
  obtain ⟨⟨blanks, inner, behind⟩, hvalue, heq⟩ := Option.map_eq_some_iff.mp h
  cases heq
  obtain ⟨front, c, rfl, hc⟩ := delimiter_last hdelimiter
  have hascii := ascii_of_delimiter hc
  have hplain : (front ++ [c]).getLast?.any (fun c => c = '"' || c = '\'') = false := by
    rw [isDelimiter, Bool.or_eq_true, decide_eq_true_eq, decide_eq_true_eq] at hc
    rw [List.getLast?_concat, Option.any_some]
    rcases hc with rfl | rfl
    · rfl
    · rfl
  refine ⟨front, [c] ++ blanks, by rw [List.append_assoc], ?_⟩
  have hbounds := valueBounds_position (done ++ (front ++ [c])) overflowChecks more
  rw [hvalue, List.append_assoc, ← delimiter_append hdelimiter] at hbounds
  rw [keyedBounds, hkey, Bool.not_true, if_neg Bool.false_ne_true,
    nextKeyValueDelimiter_position, hdelimiter, Option.map_some, ok_bind, nesting_append hplain,
    delimiterAt_concat done front more hascii]
  simp only [← position_ascii hascii, List.append_assoc done front]
  rw [hbounds]
  simp only [boundsOf, List.append_assoc]
  refine counted_bind ?_ _ _
  rfl

end Bounds

/-! The bounds of a value are in order, in any bytes. -/

section Order

variable {overflowChecks : Bool} {text : List UInt8}

private theorem balancedValueEnd_le {opening closing : Char} {startAt stop : Nat}
    (hlength : startAt ≤ text.length)
    (h : balancedValueEnd overflowChecks text startAt opening closing = .ok stop) :
    startAt ≤ stop := by
  refine runLoop_post (I := fun state => startAt ≤ state.1) h le_rfl ?_ ?_
  · intro state next hle hturn
    exact hle.trans
      (balancedTurn_advances overflowChecks opening closing text state next hturn).2.le
  · rintro ⟨index, depth⟩ result hle hturn
    rcases balancedTurn_inv hturn with ⟨-, ⟨next, deeper, heq, -⟩ | heq⟩ | ⟨-, heq⟩
    · cases heq
    · cases heq
      exact Nat.le_succ_of_le hle
    · cases heq
      exact hlength

private theorem valueBounds_le {startAt valueStart valueEnd : Nat}
    (h : valueBounds overflowChecks text startAt = .ok (some (valueStart, valueEnd))) :
    startAt ≤ valueStart ∧ valueStart ≤ valueEnd := by
  obtain ⟨index, hindex, h⟩ := bind_eq_ok.mp h
  have hle := skipWhile_le hindex
  split_ifs at h with hlength
  · cases h
  · obtain ⟨byte, -, h⟩ := bind_eq_ok.mp h
    have hindex : index ≤ text.length := Nat.le_of_not_le hlength
    split_ifs at h
    · obtain ⟨⟨start, stop⟩, hbounds, h⟩ := bind_eq_ok.mp h
      cases h
      obtain ⟨rfl, hstop⟩ := quotedValueBounds_le hbounds
      exact ⟨Nat.le_succ_of_le hle, hstop⟩
    · obtain ⟨stop, hstop, h⟩ := bind_eq_ok.mp h
      cases h
      exact ⟨hle, balancedValueEnd_le hindex hstop⟩
    · obtain ⟨stop, hstop, h⟩ := bind_eq_ok.mp h
      cases h
      exact ⟨hle, balancedValueEnd_le hindex hstop⟩
    · obtain ⟨stop, hstop, h⟩ := bind_eq_ok.mp h
      cases h
      rw [unquotedValueEnd_eq] at hstop
      exact ⟨hle, skipWhile_le hstop⟩

theorem keyedBounds_le {keyEnd : Nat} {key : List Char} {bounds : ValueBounds}
    (h : keyedBounds overflowChecks text keyEnd key = .ok (some bounds)) :
    keyEnd ≤ bounds.delimiterStart ∧ bounds.delimiterStart < bounds.valueStart ∧
      bounds.valueStart ≤ bounds.valueEnd := by
  rw [keyedBounds] at h
  split_ifs at h with hkey
  · cases h
  · obtain ⟨delimiter, hdelimiter, h⟩ := bind_eq_ok.mp h
    cases delimiter with
    | none => cases h
    | some found =>
      obtain ⟨delimiterStart, delimiterEnd⟩ := found
      obtain ⟨value, hvalue, h⟩ := bind_eq_ok.mp h
      cases value with
      | none => cases h
      | some found =>
        obtain ⟨valueStart, valueEnd⟩ := found
        cases h
        obtain ⟨hkeyEnd, rfl⟩ := nextKeyValueDelimiter_lt hdelimiter
        exact ⟨hkeyEnd, valueBounds_le hvalue⟩

end Order

end Sunbolt.Audit.ByteRedaction
