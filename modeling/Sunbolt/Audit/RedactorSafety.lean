/- Module: Sunbolt/Audit/RedactorSafety
   scope: sunbolt-audit/src/redaction.rs
   digest: The redactor reads inside its text, cuts it between characters and returns. -/

import Sunbolt.Audit.BytePasses

set_option autoImplicit false
set_option relaxedAutoImplicit false

namespace Sunbolt.Audit.ByteRedaction

open Sunbolt.Library Sunbolt.Library.Utf8Text
open Sunbolt.Library.Utf8Lossy (encode decode)

/-! The three passes together. -/

theorem redactSensitive_overflow {text : List Char}
    (h : TooDeep none (Audit.redactSensitiveHeaders text)) :
    redactSensitive true (encode text) = .error .overflow := by
  rw [redactSensitive, redactSensitiveHeaders_encode, ok_bind,
    redactSensitiveKeyValues_overflow h, error_bind]

/-- Byte by byte, the redactor writes the text that it writes character by character. -/
theorem redactSensitive_encode {overflowChecks : Bool} {text : String}
    (h : ¬(overflowChecks = true ∧ TooDeep none (Audit.redactSensitiveHeaders text.toList))) :
    redactSensitive overflowChecks (encode text.toList) =
      .ok (encode (Audit.redactSensitive text).toList) := by
  rw [redactSensitive, redactSensitiveHeaders_encode, ok_bind, redactSensitiveKeyValues_encode h,
    ok_bind, redactSensitiveTokens_encode, Audit.redactSensitive, String.toList_ofList]

/-! The indices of the key pass. -/

/-- What has been copied, the delimiter and the value stand one behind the other in the text, and
    none of the cuts goes through a character. -/
structure InOrder (text : List UInt8) (state : PassState) (bounds : ValueBounds) : Prop where
  copied : state.lastEnd ≤ bounds.delimiterStart
  delimiter : bounds.delimiterStart ≤ bounds.valueStart
  value : bounds.valueStart ≤ bounds.valueEnd
  inside : bounds.valueEnd ≤ text.length
  cuts : ∀ index ∈ [state.lastEnd, bounds.delimiterStart, bounds.valueStart, bounds.valueEnd],
    isCharBoundary text index = true

theorem inOrder_parts (output : List UInt8) (middle copied plain delimiter value back : List Char) :
    InOrder (encode (copied ++ plain ++ delimiter ++ value ++ back)) (passAt output copied middle)
      ⟨position (copied ++ plain), position (copied ++ plain ++ delimiter),
        position (copied ++ plain ++ delimiter ++ value)⟩ := by
  refine ⟨position_le _ _, position_le _ _, position_le _ _, position_le _ _, ?_⟩
  have cut : ∀ front rest, copied ++ plain ++ delimiter ++ value ++ back = front ++ rest →
      isCharBoundary (encode (copied ++ plain ++ delimiter ++ value ++ back)) (position front) =
        true := by
    intro front rest heq
    rw [heq]
    exact isCharBoundary_position front rest
  intro index hindex
  simp only [List.mem_cons, List.not_mem_nil, or_false] at hindex
  rcases hindex with rfl | rfl | rfl | rfl
  · exact cut copied (plain ++ delimiter ++ value ++ back) (by simp only [List.append_assoc])
  · exact cut (copied ++ plain) (delimiter ++ value ++ back) (by simp only [List.append_assoc])
  · exact cut (copied ++ plain ++ delimiter) (value ++ back) (by simp only [List.append_assoc])
  · exact cut (copied ++ plain ++ delimiter ++ value) back rfl

section Keys

variable {overflowChecks : Bool} {text : List Char}

/-- Every turn of the key pass starts between two characters, behind what has been copied. -/
theorem keyTurn_stands {state : PassState}
    (h : Visited (keyTurn overflowChecks (encode text)) ⟨[], 0, 0⟩ state) :
    ∃ output copied middle rest, text = copied ++ middle ++ rest ∧
      state = passAt output copied middle := by
  refine h.invariant (I := fun state => ∃ output copied middle rest,
    text = copied ++ middle ++ rest ∧ state = passAt output copied middle)
    ⟨[], [], [], text, rfl, rfl⟩ ?_
  rintro _ next ⟨output, copied, middle, rest, rfl, rfl⟩ hturn
  cases hnext : Audit.nextIdentifier (copied ++ middle).getLast? rest with
  | none =>
    rw [keyTurn_none overflowChecks output copied middle hnext] at hturn
    cases hturn
  | some found =>
    obtain ⟨skipped, key, after⟩ := found
    have hwhole := (keyTurn_found copied middle hnext).1
    cases hvalue : secretValue key after with
    | none =>
      rw [keyTurn_plain overflowChecks output copied middle hnext hvalue] at hturn
      cases hturn
      exact ⟨output, copied, middle ++ skipped ++ key, after, hwhole, rfl⟩
    | some bounds =>
      obtain ⟨before, value, back⟩ := bounds
      rw [keyTurn_secret overflowChecks output copied middle hnext hvalue, counted] at hturn
      split_ifs at hturn
      cases hturn
      refine ⟨_, _, [], back, ?_, rfl⟩
      rw [hwhole, secretValue_append hvalue]
      simp only [List.append_assoc, List.nil_append]

theorem keys_inOrder {state : PassState} {keyStart keyEnd : Nat} {key : List Char}
    {bounds : ValueBounds} (h : Visited (keyTurn overflowChecks (encode text)) ⟨[], 0, 0⟩ state)
    (hkey : nextIdentifier (encode text) state.index = .ok (some (keyStart, keyEnd, key)))
    (hbounds : keyedBounds overflowChecks (encode text) keyEnd key = .ok (some bounds)) :
    InOrder (encode text) state bounds := by
  obtain ⟨output, copied, middle, rest, rfl, rfl⟩ := keyTurn_stands h
  cases hnext : Audit.nextIdentifier (copied ++ middle).getLast? rest with
  | none =>
    rw [passAt, nextIdentifier_position, hnext] at hkey
    cases hkey
  | some found =>
    obtain ⟨skipped, word, after⟩ := found
    obtain ⟨hwhole, -, hread⟩ := keyTurn_found copied middle hnext
    rw [passAt, hread] at hkey
    cases hkey
    rw [hwhole] at hbounds ⊢
    cases hvalue : secretValue word after with
    | none =>
      rw [keyedBounds_none _ _ hvalue] at hbounds
      cases hbounds
    | some found =>
      obtain ⟨before, value, back⟩ := found
      obtain ⟨front, last, rfl, heq⟩ :=
        keyedBounds_some (copied ++ (middle ++ skipped ++ word)) overflowChecks hvalue
      rw [heq, counted] at hbounds
      split_ifs at hbounds
      cases hbounds
      rw [secretValue_append hvalue]
      have horder := inOrder_parts output middle copied (middle ++ skipped ++ word ++ front) last
        value back
      simp only [List.append_assoc] at horder ⊢
      exact horder

end Keys

/-! Every loop moves on. -/

/-- The loop over the lines leaves less to read with every turn, and every other one moves its
    index forward in the text. -/
structure LoopsAdvance (overflowChecks : Bool) (text : List UInt8) : Prop where
  lines : Shrinks headerTurn (fun state => state.remaining.length)
  classes : ∀ p, Advances (whileTurn p text) text.length id
  identifiers : Advances (nextIdentifierTurn text) text.length id
  quoted : ∀ quote, Advances (quotedTurn quote text) text.length id
  brackets : ∀ opening closing,
    Advances (balancedTurn overflowChecks opening closing text) text.length Prod.fst
  unquoted : Advances (unquotedTurn text) text.length id
  keys : Advances (keyTurn overflowChecks text) text.length PassState.index
  tokens : Advances (tokenTurn text) text.length PassState.index

theorem loopsAdvance (overflowChecks : Bool) (text : List UInt8) :
    LoopsAdvance overflowChecks text where
  lines := headerTurn_shrinks
  classes p := whileTurn_advances p text
  identifiers := nextIdentifierTurn_advances text
  quoted quote := quotedTurn_advances quote text
  brackets opening closing := balancedTurn_advances overflowChecks opening closing text
  unquoted := by
    rw [unquotedTurn_eq]
    exact whileTurn_advances _ text
  keys := keyTurn_advances overflowChecks text
  tokens := tokenTurn_advances text

/-! The redactor on a text. -/

/-- A call neither panics nor hangs: no index, slice, sum or loop of it faults, its key pass cuts
    the text in order, and all its loops move on. -/
structure Safe (overflowChecks : Bool) (text : List UInt8) : Prop where
  returns : ∃ output, redactSensitive overflowChecks text = .ok output
  ordered : ∀ withHeaders, redactSensitiveHeaders text = .ok withHeaders →
    ∀ state, Visited (keyTurn overflowChecks withHeaders) ⟨[], 0, 0⟩ state →
      ∀ keyStart keyEnd key bounds,
        nextIdentifier withHeaders state.index = .ok (some (keyStart, keyEnd, key)) →
        keyedBounds overflowChecks withHeaders keyEnd key = .ok (some bounds) →
          InOrder withHeaders state bounds
  advances : ∀ bytes, LoopsAdvance overflowChecks bytes

private theorem safe_of_flat {overflowChecks : Bool} {text : String}
    (h : ¬(overflowChecks = true ∧ TooDeep none (Audit.redactSensitiveHeaders text.toList))) :
    Safe overflowChecks (encode text.toList) where
  returns := ⟨_, redactSensitive_encode h⟩
  ordered := by
    intro withHeaders hheaders state hstate keyStart keyEnd key bounds hkey hbounds
    rw [redactSensitiveHeaders_encode] at hheaders
    cases hheaders
    exact keys_inOrder hstate hkey hbounds
  advances := loopsAdvance overflowChecks

private theorem not_safe_of_tooDeep {text : List Char}
    (h : TooDeep none (Audit.redactSensitiveHeaders text)) : ¬Safe true (encode text) := by
  intro hsafe
  obtain ⟨output, houtput⟩ := hsafe.returns
  rw [redactSensitive_overflow h] at houtput
  cases houtput

/-- The redactor is safe on every text in a build that wraps, and in a build that checks its sums
    on every text without a replaced value that nests 2^32 brackets. -/
theorem redactor_safe_iff (overflowChecks : Bool) (text : String) :
    Safe overflowChecks (encode text.toList) ↔
      overflowChecks = false ∨ ∀ front value back,
        Redacts none (Audit.redactSensitiveHeaders text.toList) front value back →
          nesting front value < 2 ^ 32 := by
  constructor
  · intro hsafe
    cases overflowChecks with
    | false => exact Or.inl rfl
    | true =>
      right
      intro front value back hredacts
      by_contra hdeep
      exact not_safe_of_tooDeep ⟨front, value, back, hredacts, Nat.le_of_not_lt hdeep⟩ hsafe
  · intro h
    refine safe_of_flat ?_
    rintro ⟨hchecks, front, value, back, hredacts, hdeep⟩
    rcases h with h | h
    · exact Bool.false_ne_true (h.symm.trans hchecks)
    · exact absurd (h front value back hredacts) (Nat.not_lt.mpr hdeep)

/-! A text whose brackets only open. -/

private theorem balanced_replicate (n : Nat) (depth : UInt32) :
    balanced '[' ']' depth (List.replicate n '[') = (List.replicate n '[', []) := by
  induction n generalizing depth with
  | zero => rfl
  | succ n ih =>
    rw [List.replicate_succ, balanced_cons, if_pos rfl, ih]
    rfl

private theorem deepest_replicate (n depth : Nat) :
    deepest '[' ']' none depth (List.replicate n '[') = depth + n := by
  induction n generalizing depth with
  | zero => rfl
  | succ n ih =>
    rw [List.replicate_succ, deepest, if_pos rfl, ih]
    omega

private theorem secretValue_brackets (n : Nat) :
    secretValue "token".toList ('=' :: List.replicate (n + 1) '[') =
      some (['='], List.replicate (n + 1) '[', []) := by
  have hkey : isSensitiveKey (normalizeKey "token".toList) = true := by decide
  have blanks : ∀ d ∈ ([] : List Char), isAsciiWhitespace d = true := fun d hd =>
    absurd hd List.not_mem_nil
  have hdelimiter : Audit.nextKeyValueDelimiter ('=' :: List.replicate (n + 1) '[') =
      some (['='], List.replicate (n + 1) '[') :=
    delimiter_at blanks (by decide) (by decide) _
  have hvalue : Audit.valueBounds (List.replicate (n + 1) '[') =
      some ([], List.replicate (n + 1) '[', []) := by
    have hbounds := valueBounds_at blanks (by decide : isAsciiWhitespace '[' = false)
      (List.replicate n '[')
    have hvalue : boundsAt [] '[' (List.replicate n '[') =
        ([], balanced '[' ']' 0 ('[' :: List.replicate n '[')) := rfl
    rw [hvalue, ← List.replicate_succ, balanced_replicate] at hbounds
    exact hbounds
  rw [secretValue, if_pos hkey, keyedValue, hdelimiter, Option.bind_some]
  simp only [hvalue]
  rfl

/-- Behind a sensitive key, that many brackets nest as deep. -/
private theorem not_safe_of_brackets {n : Nat} (h : 2 ^ 32 ≤ n) :
    ¬Safe true (encode ("token=".toList ++ List.replicate n '[')) := by
  obtain ⟨n, rfl⟩ := Nat.exists_eq_succ_of_ne_zero
    (Nat.ne_zero_of_lt (Nat.lt_of_lt_of_le (Nat.two_pow_pos 32) h))
  have htext : "token=".toList = [] ++ "token".toList ++ ['='] := by decide
  have hfree : ∀ c, c ∉ "token=".toList → c ≠ '[' →
      c ∉ "token=".toList ++ List.replicate n.succ '[' := by
    intro c hc hne hmem
    rcases List.mem_append.mp hmem with hmem | hmem
    · exact hc hmem
    · exact hne (List.eq_of_mem_replicate hmem)
  have hheaders : Audit.redactSensitiveHeaders ("token=".toList ++ List.replicate n.succ '[') =
      "token=".toList ++ List.replicate n.succ '[' := by
    rw [redactSensitiveHeaders_last (hfree '\n' (by decide) (by decide)),
      redactHeaderLine_of_not_mem (hfree ':' (by decide) (by decide))]
  have hnext : Audit.nextIdentifier none ("token=".toList ++ List.replicate n.succ '[') =
      some ([], "token".toList, '=' :: List.replicate n.succ '[') := by
    rw [htext, List.nil_append, List.append_assoc, List.singleton_append]
    exact nextIdentifier_key rfl (by decide) (List.all_eq_true.mp (by decide)) rfl
  refine not_safe_of_tooDeep ⟨"token=".toList, List.replicate n.succ '[', [], ?_, ?_⟩
  · have hredacts := Redacts.here hnext (secretValue_brackets n)
    rw [← htext] at hredacts
    rw [hheaders]
    exact hredacts
  · have hnesting : nesting "token=".toList (List.replicate n.succ '[') =
        deepest '[' ']' none 0 (List.replicate n.succ '[') := rfl
    rw [hnesting, deepest_replicate, Nat.zero_add]
    exact h

/-- Its depth goes past a `u32`, so a build that checks its sums panics. -/
theorem redactor_overflows :
    ¬Safe true (encode ("token=".toList ++ List.replicate (2 ^ 32) '[')) :=
  not_safe_of_brackets (Nat.le_refl _)

end Sunbolt.Audit.ByteRedaction
