/- Module: Sunbolt/Audit/MaskedKeys
   scope: sunbolt-audit/src/redaction.rs
   digest: Texts in which the values of sensitive keys are the marker, and that the key pass makes
     such a text and keeps it. -/

import Sunbolt.Audit.KeyRedaction
import Sunbolt.Audit.MaskedHeaders

set_option autoImplicit false
set_option relaxedAutoImplicit false

namespace Sunbolt.Audit

/-! Where the value of a key stands. -/

/-- What the scanner reads up to a delimiter, whatever follows. -/
structure IsLead (lead : List Char) : Prop where
  reads : ∀ more, nextKeyValueDelimiter (lead ++ more) = some (lead, more)
  plain : ∀ c ∈ lead, isIdentifierByte c = false ∧ c ≠ '['
  nonempty : lead ≠ []

theorem space_plain {c : Char} (h : isAsciiWhitespace c = true) :
    isIdentifierByte c = false ∧ c ≠ '[' := by
  refine ⟨not_identifier_of_space h, ?_⟩
  rintro rfl
  exact absurd h (by decide)

theorem isLead_of_delimiter {text lead rest : List Char}
    (h : nextKeyValueDelimiter text = some (lead, rest)) : IsLead lead := by
  have plain : ∀ c, isDelimiter c = true → isIdentifierByte c = false ∧ c ≠ '[' := by
    intro c hc
    refine ⟨(delimiter_plain hc).2.2.1, ?_⟩
    rintro rfl
    exact absurd hc (by decide)
  rcases span_cut isAsciiWhitespace text with hall | ⟨spaces, c, back, rfl, hspaces, hc⟩
  · have hdrop : text.dropWhile isAsciiWhitespace = [] := List.dropWhile_eq_nil_iff.mpr hall
    simp [nextKeyValueDelimiter, hdrop] at h
  · by_cases hquote : c = '"'
    · subst hquote
      rcases span_cut isAsciiWhitespace back with hall | ⟨more, d, back, rfl, hmore, hd⟩
      · obtain ⟨-, hdrop⟩ := takeWhile_cut hspaces hc back
        have hdrop' : back.dropWhile isAsciiWhitespace = [] := List.dropWhile_eq_nil_iff.mpr hall
        simp [nextKeyValueDelimiter, hdrop, hdrop'] at h
      · rw [delimiter_after_quote hspaces hmore hd] at h
        split_ifs at h with hdelimiter
        simp only [Option.some.injEq, Prod.mk.injEq] at h
        obtain ⟨rfl, rfl⟩ := h
        refine ⟨fun after => ?_, fun e he => ?_, by simp⟩
        · have hreads := delimiter_after_quote hspaces hmore hd after
          rw [if_pos hdelimiter] at hreads
          rw [← hreads]
          simp
        · simp only [List.mem_append, List.mem_cons, List.not_mem_nil, or_false] at he
          rcases he with (he | rfl | he) | rfl
          · exact space_plain (hspaces e he)
          · decide
          · exact space_plain (hmore e he)
          · exact plain e hdelimiter
    · rw [delimiter_at hspaces hc hquote] at h
      split_ifs at h with hdelimiter
      simp only [Option.some.injEq, Prod.mk.injEq] at h
      obtain ⟨rfl, rfl⟩ := h
      refine ⟨fun after => ?_, fun e he => ?_, by simp⟩
      · have hreads := delimiter_at hspaces hc hquote after
        rw [if_pos hdelimiter] at hreads
        rw [← hreads]
        simp
      · rcases List.mem_append.mp he with he | he
        · exact space_plain (hspaces e he)
        · rw [List.mem_singleton.mp he]
          exact plain c hdelimiter

section Lead

variable {lead spaces : List Char} {c : Char}

theorem keyedValue_lead (isLead : IsLead lead)
    (blank : ∀ d ∈ spaces, isAsciiWhitespace d = true) (visible : isAsciiWhitespace c = false)
    (tail : List Char) :
    keyedValue (lead ++ (spaces ++ c :: tail)) =
      some (lead ++ (boundsAt spaces c tail).1, (boundsAt spaces c tail).2) := by
  rw [keyedValue, isLead.reads, Option.bind_some]
  simp only [valueBounds_at blank visible, Option.map_some]

/-- A key has no value, or it stands behind a delimiter and blanks. -/
theorem keyedValue_cases (text : List Char) :
    keyedValue text = none ∨ ∃ lead spaces c tail, IsLead lead ∧
      (∀ d ∈ spaces, isAsciiWhitespace d = true) ∧ isAsciiWhitespace c = false ∧
      text = lead ++ (spaces ++ c :: tail) := by
  cases hdelimiter : nextKeyValueDelimiter text with
  | none =>
    left
    rw [keyedValue, hdelimiter]
    rfl
  | some found =>
    obtain ⟨lead, rest⟩ := found
    rcases span_cut isAsciiWhitespace rest with hall | ⟨spaces, c, back, rfl, hspaces, hc⟩
    · left
      rw [keyedValue, hdelimiter, Option.bind_some]
      simp only [valueBounds_spaces hall, Option.map_none]
    · exact .inr ⟨lead, spaces, c, back, isLead_of_delimiter hdelimiter, hspaces, hc,
        delimiter_append hdelimiter⟩

end Lead

/-- The value that starts with `c` is the marker, in brackets of its own or in quotes. -/
inductive MarkerAt (c : Char) (tail : List Char) : Prop
  | square (after : List Char) (isSquare : c = '[') (split : c :: tail = redaction ++ after)
  | quoted (after : List Char) (isQuote : (c = '"' || c = '\'') = true)
    (split : tail = redaction ++ after) (stops : ∀ d ∈ after.head?, d = c)

/-- What is neither a bracket nor a quote is read as part of the value. -/
theorem balanced_plain {opening closing : Char} {text : List Char}
    (plain : ∀ c ∈ text, c ≠ opening ∧ c ≠ closing ∧ c ≠ '"' ∧ c ≠ '\'') (depth : UInt32)
    (more : List Char) :
    balanced opening closing depth (text ++ more) =
      readOn text (balanced opening closing depth more) := by
  induction text with
  | nil => rfl
  | cons c text ih =>
    obtain ⟨hopen, hclose, hdouble, hsingle⟩ := plain c (List.mem_cons_self ..)
    rw [List.cons_append, balanced_cons, if_neg hopen, if_neg hclose,
      if_neg (by simp [hdouble, hsingle]), ih fun d hd => plain d (List.mem_cons_of_mem _ hd),
      readOn_readOn]
    rfl

theorem balanced_redaction (after : List Char) :
    balanced '[' ']' 0 (redaction ++ after) = (redaction, after) := by
  have hsplit : redaction ++ after = '[' :: ("REDACTED".toList ++ ']' :: after) := rfl
  have hall : ∀ c ∈ "REDACTED".toList, isIdentifierByte c = true := List.all_eq_true.mp (by decide)
  have hplain : ∀ c ∈ "REDACTED".toList, c ≠ '[' ∧ c ≠ ']' ∧ c ≠ '"' ∧ c ≠ '\'' := by
    intro c hc
    have hidentifier := hall c hc
    refine ⟨?_, ?_, ?_, ?_⟩ <;> rintro rfl <;> exact absurd hidentifier (by decide)
  rw [hsplit, balanced_cons, if_pos rfl, balanced_plain hplain, balanced_cons,
    if_neg (by decide), if_pos rfl, if_pos (by decide)]
  rfl

theorem quotedValue_redaction {quote : Char} (isQuote : (quote = '"' || quote = '\'') = true)
    {after : List Char} (stops : ∀ d ∈ after.head?, d = quote) :
    quotedValue quote (redaction ++ after) = (redaction, after) := by
  have hquote : quote = '"' ∨ quote = '\'' := by simpa using isQuote
  have hall : ∀ c ∈ redaction, (c ≠ '\\' && c ≠ '"' && c ≠ '\'') = true :=
    List.all_eq_true.mp (by decide)
  have hplain : ∀ c ∈ redaction, c ≠ '\\' ∧ c ≠ quote := by
    intro c hc
    have hboth := hall c hc
    simp only [Bool.and_eq_true, decide_eq_true_eq] at hboth
    rcases hquote with rfl | rfl
    · exact ⟨hboth.1.1, hboth.1.2⟩
    · exact ⟨hboth.1.1, hboth.2⟩
  have hslash : quote ≠ '\\' := by
    rcases hquote with rfl | rfl
    · decide
    · decide
  rw [quotedValue_plain hplain]
  cases after with
  | nil => rfl
  | cons d after =>
    rw [stops d rfl, quotedValue_quote hslash]
    rfl

section Marker

variable {c : Char} {tail after : List Char} (spaces : List Char)

theorem boundsAt_square (split : c :: tail = redaction ++ after) :
    boundsAt spaces c tail = (spaces, redaction, after) := by
  have hc : c = '[' := (List.cons.inj split).1
  rw [boundsAt, split, balanced_redaction, hc]
  rfl

theorem boundsAt_quoted (isQuote : (c = '"' || c = '\'') = true)
    (stops : ∀ d ∈ after.head?, d = c) :
    boundsAt spaces c (redaction ++ after) = (spaces ++ [c], redaction, after) := by
  rw [boundsAt, if_pos isQuote, quotedValue_redaction isQuote stops]

theorem boundsAt_marker_iff : (boundsAt spaces c tail).2.1 = redaction ↔ MarkerAt c tail := by
  constructor
  · intro h
    rw [boundsAt] at h
    split_ifs at h with hquote hsquare hcurly
    · have happend := quotedValue_append c tail
      rw [h] at happend
      exact .quoted _ hquote happend.symm (quotedValue_rest c tail)
    · have happend : (balanced '[' ']' 0 (c :: tail)).1 ++ (balanced '[' ']' 0 (c :: tail)).2 =
          c :: tail := balanced_append 0 (c :: tail)
      rw [h] at happend
      exact .square _ hsquare happend.symm
    · have happend : (balanced '{' '}' 0 (c :: tail)).1 ++ (balanced '{' '}' 0 (c :: tail)).2 =
          c :: tail := balanced_append 0 (c :: tail)
      rw [h] at happend
      have hhead : '[' = c := (List.cons.inj happend).1
      rw [hcurly] at hhead
      exact absurd hhead (by decide)
    · have happend : (unquotedValue (c :: tail)).1 ++ (unquotedValue (c :: tail)).2 = c :: tail :=
        List.takeWhile_append_dropWhile
      rw [h] at happend
      exact absurd (List.cons.inj happend).1.symm hsquare
  · rintro (⟨after, -, split⟩ | ⟨after, isQuote, rfl, stops⟩)
    · rw [boundsAt_square spaces split]
    · rw [boundsAt_quoted spaces isQuote stops]

/-- An identifier is not a marker. -/
theorem not_markerAt (h : isIdentifierByte c = true) : ¬MarkerAt c tail := by
  rintro (⟨after, rfl, -⟩ | ⟨after, isQuote, -, -⟩)
  · exact absurd h (by decide)
  · have hquote : c = '"' ∨ c = '\'' := by simpa using isQuote
    rcases hquote with rfl | rfl
    · exact absurd h (by decide)
    · exact absurd h (by decide)

end Marker

/-! Texts in which they are masked. -/

/-- What stands behind the key gives nothing away but the marker. -/
def SecretMasked (key rest : List Char) : Prop :=
  ∀ before value after, secretValue key rest = some (before, value, after) → value = redaction

/-- That holds of every identifier of the text. -/
def KeysMasked : Option Char → List Char → Prop
  | _, [] => True
  | previous, c :: text =>
    (isIdentifierByte c = true → isBorder previous = true →
      SecretMasked (c :: text.takeWhile isIdentifierByte) (text.dropWhile isIdentifierByte)) ∧
      KeysMasked (some c) text

theorem secretMasked_of_lead {key lead spaces tail : List Char} {c : Char} (isLead : IsLead lead)
    (blank : ∀ d ∈ spaces, isAsciiWhitespace d = true) (visible : isAsciiWhitespace c = false)
    (sensitive : isSensitiveKey (normalizeKey key) = true) :
    SecretMasked key (lead ++ (spaces ++ c :: tail)) ↔ MarkerAt c tail := by
  rw [← boundsAt_marker_iff spaces]
  have hvalue : secretValue key (lead ++ (spaces ++ c :: tail)) =
      some (lead ++ (boundsAt spaces c tail).1, (boundsAt spaces c tail).2) := by
    rw [secretValue, if_pos sensitive, keyedValue_lead isLead blank visible]
  constructor
  · exact fun h => h _ _ _ hvalue
  · intro h before value after hsome
    rw [hvalue, Option.some.injEq, Prod.mk.injEq] at hsome
    rw [← h, hsome.2]

theorem secretMasked_of_plain {key : List Char}
    (plain : isSensitiveKey (normalizeKey key) = false) (rest : List Char) :
    SecretMasked key rest := by
  intro before value after h
  rw [secretValue, plain, if_neg (by decide)] at h
  cases h

namespace KeysMasked

variable {previous : Option Char} {text : List Char}

theorem drop {front : List Char} (h : KeysMasked previous (front ++ text)) :
    KeysMasked (endOf previous front) text := by
  induction front generalizing previous with
  | nil => exact h
  | cons c front ih =>
    rw [endOf_cons]
    exact ih h.2

theorem of_plain {front : List Char} (plain : ∀ c ∈ front, isIdentifierByte c = false)
    (h : KeysMasked (endOf previous front) text) : KeysMasked previous (front ++ text) := by
  induction front generalizing previous with
  | nil => exact h
  | cons c front ih =>
    rw [endOf_cons] at h
    refine ⟨fun hc => ?_, ih (fun d hd => plain d (List.mem_cons_of_mem _ hd)) h⟩
    rw [plain c (List.mem_cons_self ..)] at hc
    cases hc

theorem of_within {front : List Char} (inside : isBorder previous = false)
    (all : ∀ c ∈ front, isIdentifierByte c = true)
    (h : KeysMasked (endOf previous front) text) : KeysMasked previous (front ++ text) := by
  induction front generalizing previous with
  | nil => exact h
  | cons c front ih =>
    rw [endOf_cons] at h
    refine ⟨fun _ hborder => ?_, ih ?_ (fun d hd => all d (List.mem_cons_of_mem _ hd)) h⟩
    · rw [inside] at hborder
      cases hborder
    · simp [isBorder, all c (List.mem_cons_self ..)]

/-- An identifier and what follows it. -/
theorem of_key {key : List Char} (ne : key ≠ []) (all : ∀ c ∈ key, isIdentifierByte c = true)
    (after : isBorder text.head? = true) (masked : SecretMasked key text)
    (h : KeysMasked key.getLast? text) : KeysMasked previous (key ++ text) := by
  obtain ⟨c, key, rfl⟩ := List.exists_cons_of_ne_nil ne
  have htail : ∀ d ∈ key, isIdentifierByte d = true :=
    fun d hd => all d (List.mem_cons_of_mem _ hd)
  rw [List.cons_append]
  refine ⟨fun _ _ => ?_, of_within ?_ htail ?_⟩
  · have hstop : text.takeWhile isIdentifierByte = [] ∧ text.dropWhile isIdentifierByte = text := by
      cases text with
      | nil => exact ⟨rfl, rfl⟩
      | cons d text =>
        have hd : isIdentifierByte d = false := by simpa [isBorder] using after
        simp [hd]
    rwa [List.takeWhile_append_of_pos htail, List.dropWhile_append_of_pos htail, hstop.1, hstop.2,
      List.append_nil]
  · simp [isBorder, all c (List.mem_cons_self ..)]
  · rwa [← endOf_cons none, endOf_of_ne_nil (List.cons_ne_nil _ _)]

/-- What stands before the text matters only to an identifier that starts it. -/
theorem of_border (h : KeysMasked previous text) {other : Option Char}
    (border : isBorder text.head? = true ∨ isBorder previous = true) : KeysMasked other text := by
  cases text with
  | nil => trivial
  | cons c text =>
    refine ⟨fun hc _ => ?_, h.2⟩
    rcases border with hborder | hborder
    · rw [List.head?_cons, isBorder, Option.any_some, hc] at hborder
      cases hborder
    · exact h.1 hc hborder

/-- The marker itself gives nothing away. -/
theorem of_marker (h : KeysMasked (some ']') text) : KeysMasked previous (redaction ++ text) := by
  have hsplit : redaction ++ text = ['['] ++ ("REDACTED".toList ++ ([']'] ++ text)) := rfl
  have hall : ∀ c ∈ "REDACTED".toList, isIdentifierByte c = true := List.all_eq_true.mp (by decide)
  rw [hsplit]
  refine of_plain (by simp; decide) (of_key (by decide) hall (by rfl)
    (secretMasked_of_plain (by decide) _) (of_plain (by simp; decide) h))

end KeysMasked

/-! The key pass, character by character. -/

section Scan

variable {previous : Option Char} {text key rest : List Char} {c : Char}

/-- Where no identifier starts a character is kept. -/
theorem scan_step (h : (isIdentifierByte c && isBorder previous) = false) (text : List Char) :
    scan previous (c :: text) = c :: scan (some c) text := by
  have hnext : nextIdentifier previous (c :: text) =
      (nextIdentifier (some c) text).map
        (fun found => (c :: found.1, found.2.1, found.2.2)) := by
    rw [nextIdentifier]
    exact if_neg (by rw [isBorder] at h; simp [h])
  cases hrest : nextIdentifier (some c) text with
  | none =>
    rw [hrest] at hnext
    rw [scan_none hnext, scan_none hrest]
  | some found =>
    obtain ⟨skipped, key, rest⟩ := found
    rw [hrest] at hnext
    rw [scan_some hnext, scan_some hrest]
    rfl

theorem scan_within {run : List Char} (inside : isBorder previous = false)
    (all : ∀ c ∈ run, isIdentifierByte c = true) (rest : List Char) :
    scan previous (run ++ rest) = run ++ scan (endOf previous run) rest := by
  induction run generalizing previous with
  | nil => rfl
  | cons c run ih =>
    rw [List.cons_append, scan_step (by rw [inside, Bool.and_false]), endOf_cons, List.cons_append,
      ih (by simp [isBorder, all c (List.mem_cons_self ..)])
        fun d hd => all d (List.mem_cons_of_mem _ hd)]

/-- An identifier that starts at a character, and what the scan does there. -/
theorem scan_start (hc : isIdentifierByte c = true) (border : isBorder previous = true)
    (text : List Char) :
    scan previous (c :: text) =
      match secretValue (c :: text.takeWhile isIdentifierByte)
          (text.dropWhile isIdentifierByte) with
      | none => c :: scan (some c) text
      | some (before, value, after) =>
        c :: text.takeWhile isIdentifierByte ++ before ++ redaction ++
          scan (before ++ value).getLast? after := by
  have hprevious : (!Option.any isIdentifierByte previous) = true := border
  have hnext : nextIdentifier previous (c :: text) = some ([], c ::
      text.takeWhile isIdentifierByte, text.dropWhile isIdentifierByte) := by
    rw [nextIdentifier, hc, Bool.true_and, if_pos hprevious]
  cases hvalue : secretValue (c :: text.takeWhile isIdentifierByte)
      (text.dropWhile isIdentifierByte) with
  | none =>
    have hinside : isBorder (some c) = false := by simp [isBorder, hc]
    have hrun : ∀ d ∈ text.takeWhile isIdentifierByte, isIdentifierByte d = true :=
      fun d hd => List.mem_takeWhile_imp hd
    have hwithin := scan_within hinside hrun (text.dropWhile isIdentifierByte)
    rw [List.takeWhile_append_dropWhile] at hwithin
    rw [scan_plain hnext hvalue, hwithin, ← endOf_cons none, endOf_of_ne_nil (List.cons_ne_nil _ _)]
    rfl
  | some bounds =>
    obtain ⟨before, value, after⟩ := bounds
    rw [scan_secret hnext hvalue]
    rfl

end Scan

/-- The key pass keeps a text in which the keys are masked. -/
theorem scan_masked {previous : Option Char} {text : List Char} (h : KeysMasked previous text) :
    scan previous text = text := by
  induction hn : text.length using Nat.strong_induction_on generalizing previous text with
  | _ n ih =>
    cases text with
    | nil => rfl
    | cons c text =>
      rw [List.length_cons] at hn
      have hrest := ih text.length (by omega) h.2 rfl
      cases hstart : isIdentifierByte c && isBorder previous with
      | false => rw [scan_step hstart, hrest]
      | true =>
        obtain ⟨hc, hborder⟩ := Bool.and_eq_true_iff.mp hstart
        rw [scan_start hc hborder]
        cases hvalue : secretValue (c :: text.takeWhile isIdentifierByte)
            (text.dropWhile isIdentifierByte) with
        | none => exact congrArg (c :: ·) hrest
        | some bounds =>
          obtain ⟨before, value, after⟩ := bounds
          have hmarker : value = redaction := h.1 hc hborder before value after hvalue
          subst hmarker
          have hsplit : text.takeWhile isIdentifierByte ++ (before ++ redaction ++ after) =
              text := by
            rw [← secretValue_append hvalue, List.takeWhile_append_dropWhile]
          have hlength := congrArg List.length hsplit
          simp only [List.length_append] at hlength
          have hwhole : c :: text =
              c :: text.takeWhile isIdentifierByte ++ before ++ redaction ++ after := by
            rw [← List.append_assoc, ← List.append_assoc] at hsplit
            rw [List.cons_append, List.cons_append, List.cons_append, hsplit]
          rw [hwhole] at h
          have hafter := h.drop
          have hend : endOf previous (c :: text.takeWhile isIdentifierByte ++ before ++ redaction) =
              (before ++ redaction).getLast? := by
            rw [endOf_append, endOf_of_ne_nil (by decide), List.getLast?_append_of_ne_nil _
              (by decide)]
          rw [hend] at hafter
          simp only [ih after.length (by omega) hafter rfl]
          exact hwhole.symm

end Sunbolt.Audit
