/- Module: Sunbolt/Audit/KeyLoop
   scope: sunbolt-audit/src/redaction.rs
   digest: The loop over the identifiers of a text, without its fuel. -/

import Sunbolt.Audit.KeyValues

set_option autoImplicit false
set_option relaxedAutoImplicit false

namespace Sunbolt.Audit

/-- The bounds of the value that an identifier with this text behind it gives away. -/
def secretValue (key rest : List Char) : Option (List Char × List Char × List Char) :=
  if isSensitiveKey (normalizeKey key) then keyedValue rest else none

private theorem secretValue_eq (key rest : List Char) :
    (if isSensitiveKey (normalizeKey key) = true then keyedValue rest else none) =
      secretValue key rest := rfl

theorem secretValue_append {key text before value rest : List Char}
    (h : secretValue key text = some (before, value, rest)) : text = before ++ value ++ rest := by
  rw [secretValue] at h
  split_ifs at h
  exact keyedValue_append h

private theorem rest_shorter {previous : Option Char} {text skipped key rest : List Char}
    (h : nextIdentifier previous text = some (skipped, key, rest)) :
    rest.length < text.length := by
  obtain ⟨hsplit, hne, -, -, -⟩ := nextIdentifier_found h
  have hpos := List.length_pos_of_ne_nil hne
  rw [hsplit]
  simp only [List.length_append]
  omega

private theorem redactKeyValuesFrom_fuel :
    ∀ (n m : Nat) (previous : Option Char) (text : List Char), text.length ≤ n → text.length ≤ m →
      redactKeyValuesFrom n previous text = redactKeyValuesFrom m previous text
  | 0, 0, _, _, _, _ => rfl
  | 0, m + 1, previous, text, hn, _ => by
    obtain rfl := List.length_eq_zero_iff.mp (Nat.le_zero.mp hn)
    rfl
  | n + 1, 0, previous, text, _, hm => by
    obtain rfl := List.length_eq_zero_iff.mp (Nat.le_zero.mp hm)
    rfl
  | n + 1, m + 1, previous, text, hn, hm => by
    rw [redactKeyValuesFrom, redactKeyValuesFrom]
    cases hnext : nextIdentifier previous text with
    | none => rfl
    | some found =>
      obtain ⟨skipped, key, rest⟩ := found
      have hshort := rest_shorter hnext
      have ih : ∀ previous text, text.length ≤ rest.length →
          redactKeyValuesFrom n previous text = redactKeyValuesFrom m previous text :=
        fun previous text hle => redactKeyValuesFrom_fuel n m previous text (by omega) (by omega)
      simp only [secretValue_eq]
      cases hvalue : secretValue key rest with
      | none => simp only [ih _ rest le_rfl]
      | some bounds =>
        obtain ⟨before, value, after⟩ := bounds
        have hlength := congrArg List.length (secretValue_append hvalue)
        simp only [List.length_append] at hlength
        simp only [ih _ after (by omega)]

/-- The key/value pass from a point of the text. -/
def scan (previous : Option Char) (text : List Char) : List Char :=
  redactKeyValuesFrom text.length previous text

theorem redactSensitiveKeyValues_eq (text : List Char) :
    redactSensitiveKeyValues text = scan none text := rfl

private theorem scan_fuel {fuel : Nat} {text : List Char} (h : text.length ≤ fuel)
    (previous : Option Char) : redactKeyValuesFrom fuel previous text = scan previous text :=
  redactKeyValuesFrom_fuel fuel text.length previous text h le_rfl

theorem scan_none {previous : Option Char} {text : List Char}
    (h : nextIdentifier previous text = none) : scan previous text = text := by
  cases text with
  | nil => rfl
  | cons c text =>
    rw [scan, List.length_cons, redactKeyValuesFrom, h]

theorem scan_some {previous : Option Char} {text skipped key rest : List Char}
    (h : nextIdentifier previous text = some (skipped, key, rest)) :
    scan previous text = skipped ++ key ++
      match secretValue key rest with
      | none => scan key.getLast? rest
      | some (before, value, after) =>
        before ++ redaction ++ scan (before ++ value).getLast? after := by
  have hshort := rest_shorter h
  cases text with
  | nil => cases h
  | cons c text =>
    rw [List.length_cons] at hshort
    rw [scan, List.length_cons, redactKeyValuesFrom, h]
    simp only [secretValue_eq]
    cases hvalue : secretValue key rest with
    | none => simp only [scan_fuel (Nat.lt_succ_iff.mp hshort)]
    | some bounds =>
      obtain ⟨before, value, after⟩ := bounds
      have hlength := congrArg List.length (secretValue_append hvalue)
      simp only [List.length_append] at hlength
      simp only [scan_fuel (by omega : after.length ≤ text.length), List.append_assoc]

theorem scan_secret {previous : Option Char} {text skipped key rest before value after : List Char}
    (h : nextIdentifier previous text = some (skipped, key, rest))
    (hvalue : secretValue key rest = some (before, value, after)) :
    scan previous text =
      skipped ++ key ++ before ++ redaction ++ scan (before ++ value).getLast? after := by
  rw [scan_some h, hvalue]
  simp

theorem scan_plain {previous : Option Char} {text skipped key rest : List Char}
    (h : nextIdentifier previous text = some (skipped, key, rest))
    (hvalue : secretValue key rest = none) :
    scan previous text = skipped ++ key ++ scan key.getLast? rest := by
  rw [scan_some h, hvalue]

/-- A part of the text in which no identifier starts is kept. -/
theorem scan_append_none {previous : Option Char} {text : List Char}
    (h : nextIdentifier previous text = none) (more : List Char) :
    scan previous (text ++ more) = text ++ scan (endOf previous text) more := by
  have happend := nextIdentifier_append_none h more
  cases hmore : nextIdentifier (endOf previous text) more with
  | none =>
    rw [hmore] at happend
    rw [scan_none happend, scan_none hmore]
  | some found =>
    obtain ⟨skipped, key, rest⟩ := found
    rw [hmore] at happend
    rw [scan_some happend, scan_some hmore]
    simp

/-- None of the identifiers of the text is a sensitive key. -/
def NoSensitiveKey (previous : Option Char) (text : List Char) : Prop :=
  ∀ front key back, Found previous text front key back →
    isSensitiveKey (normalizeKey key) = false

/-- Such a text is kept when no identifier goes on behind it. -/
theorem scan_append_free {previous : Option Char} {text : List Char}
    (free : NoSensitiveKey previous text) (border : isBorder (endOf previous text) = true)
    (more : List Char) :
    scan previous (text ++ more) = text ++ scan (endOf previous text) more := by
  induction hn : text.length using Nat.strong_induction_on generalizing previous text with
  | _ n ih =>
    cases hnext : nextIdentifier previous text with
    | none => exact scan_append_none hnext more
    | some found =>
      obtain ⟨skipped, key, rest⟩ := found
      have hshort := rest_shorter hnext
      have hfound := nextIdentifier_found hnext
      have hend : ∀ after, endOf previous (skipped ++ key ++ after) = endOf key.getLast? after := by
        intro after
        rw [endOf_append, endOf_append, endOf_of_ne_nil hfound.nonempty]
      have hread : nextIdentifier previous (text ++ more) = some (skipped, key, rest ++ more) := by
        refine nextIdentifier_append_some hnext ?_
        cases rest with
        | cons d rest => exact hfound.after
        | nil =>
          -- the text would end in the identifier
          obtain ⟨c, hc⟩ := Option.ne_none_iff_exists'.mp
            (fun hnone => hfound.nonempty (List.getLast?_eq_none_iff.mp hnone))
          rw [hfound.split, hend, endOf_nil, hc, isBorder, Option.any_some,
            hfound.all c (List.mem_of_getLast? hc)] at border
          cases border
      have hplain : secretValue key (rest ++ more) = none := by
        rw [secretValue, free skipped key rest hfound]
        rfl
      have hfree : NoSensitiveKey key.getLast? rest := by
        intro front word back hword
        refine free (skipped ++ key ++ front) word back
          ⟨?_, hword.nonempty, hword.all, ?_, hword.after⟩
        · rw [hfound.split, hword.split]
          simp only [List.append_assoc]
        · rw [hend]
          exact hword.before
      have hborder : isBorder (endOf key.getLast? rest) = true := by
        rw [← hend, ← hfound.split]
        exact border
      rw [scan_plain hread hplain, ih rest.length (by omega) hfree hborder rfl, ← hend,
        ← hfound.split, ← List.append_assoc, ← hfound.split]

/-- What stands before the text matters only to an identifier that starts it. -/
theorem scan_previous {text : List Char} (h : isBorder text.head? = true)
    (previous other : Option Char) : scan previous text = scan other text := by
  have heq := nextIdentifier_previous h previous other
  cases hnext : nextIdentifier other text with
  | none => rw [scan_none (heq.trans hnext), scan_none hnext]
  | some found =>
    obtain ⟨skipped, key, rest⟩ := found
    rw [scan_some (heq.trans hnext), scan_some hnext]

/-- Whatever has been read, some closer and a blank bring the scan back to plain text. -/
theorem scan_closes (previous : Option Char) (text : List Char) :
    ∃ closer output, IsCloser closer ∧ ∀ more,
      scan previous (text ++ (closer ++ ' ' :: more)) = output ++ ' ' :: scan (some ' ') more := by
  induction hn : text.length using Nat.strong_induction_on generalizing previous text with
  | _ n ih =>
    -- plain text up to the blank
    have plain : ∀ previous front, nextIdentifier previous front = none → ∀ more,
        scan previous (front ++ ' ' :: more) = front ++ ' ' :: scan (some ' ') more := by
      intro previous front hfront more
      rw [scan_append_none hfront]
      have hblank : nextIdentifier (endOf previous front) [' '] = none := rfl
      exact congrArg (front ++ ·) (scan_append_none hblank more)
    have comma : IsCloser [','] := ⟨by simp, by simp⟩
    have border : ∀ closer more, IsCloser closer →
        isBorder (closer ++ ' ' :: more).head? = true := by
      rintro (_ | ⟨c, closer⟩) more isCloser
      · exact absurd rfl isCloser.1
      · have hc := not_identifier_of_closer isCloser c (List.mem_cons_self ..)
        simp [isBorder, hc]
    cases hnext : nextIdentifier previous text with
    | none =>
      have hcomma : nextIdentifier previous (text ++ [',']) = none := by
        rw [nextIdentifier_append_none hnext]
        rfl
      refine ⟨[','], text ++ [','], comma, fun more => ?_⟩
      rw [← plain previous _ hcomma more, List.append_assoc]
    | some found =>
      obtain ⟨skipped, key, rest⟩ := found
      have hshort := rest_shorter hnext
      have hread : ∀ closer more, IsCloser closer →
          nextIdentifier previous (text ++ (closer ++ ' ' :: more)) =
            some (skipped, key, rest ++ (closer ++ ' ' :: more)) := by
        intro closer more isCloser
        refine nextIdentifier_append_some hnext ?_
        cases rest with
        | nil => exact border closer more isCloser
        | cons d rest => exact (nextIdentifier_found hnext).after
      -- the identifier gives no value away
      have skips : (∀ more, secretValue key (rest ++ more) = none) → ∃ closer output,
          IsCloser closer ∧ ∀ more, scan previous (text ++ (closer ++ ' ' :: more)) =
            output ++ ' ' :: scan (some ' ') more := by
        intro hnone
        obtain ⟨closer, output, isCloser, h⟩ :=
          ih rest.length (by omega) key.getLast? rest rfl
        refine ⟨closer, skipped ++ key ++ output, isCloser, fun more => ?_⟩
        rw [scan_plain (hread closer more isCloser) (hnone _), h]
        simp only [List.append_assoc]
      by_cases hkey : isSensitiveKey (normalizeKey key) = true
      · have hsecret : ∀ text, secretValue key text = keyedValue text :=
          fun text => if_pos hkey
        cases keyedCut rest with
        | missing hnone => exact skips fun more => (hsecret _).trans (hnone more)
        | pending noIdentifier hnone =>
          have hfront : nextIdentifier key.getLast? (rest ++ [',']) = none := by
            refine nextIdentifier_none_of_border fun c hc => ?_
            rcases List.mem_append.mp hc with hc | hc
            · exact noIdentifier c hc
            · rw [List.mem_singleton.mp hc]
              decide
          refine ⟨[','], skipped ++ key ++ (rest ++ [',']), comma, fun more => ?_⟩
          have hvalue : secretValue key (rest ++ ([','] ++ ' ' :: more)) = none :=
            (hsecret _).trans (hnone (' ' :: more))
          rw [scan_plain (hread _ more comma) hvalue, ← List.append_assoc rest, plain _ _ hfront]
          simp only [List.append_assoc]
        | value cut =>
          cases cut with
          | done before value after split h =>
            have hlength := congrArg List.length split
            simp only [List.length_append] at hlength
            obtain ⟨closer, output, isCloser, hafter⟩ :=
              ih after.length (by omega) (before ++ value).getLast? after rfl
            refine ⟨closer, skipped ++ key ++ before ++ redaction ++ output, isCloser,
              fun more => ?_⟩
            rw [scan_secret (hread closer more isCloser) ((hsecret _).trans (h _)), hafter]
            simp only [List.append_assoc]
          | closes closer before value after isCloser noIdentifier h =>
            have hafter : nextIdentifier (before ++ value).getLast? after = none :=
              nextIdentifier_none_of_border noIdentifier
            refine ⟨closer, skipped ++ key ++ before ++ redaction ++ after, isCloser,
              fun more => ?_⟩
            rw [scan_secret (hread closer more isCloser) ((hsecret _).trans (h _)),
              plain _ _ hafter]
            simp only [List.append_assoc]
      · exact skips fun more => if_neg hkey

end Sunbolt.Audit
