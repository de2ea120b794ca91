/- Module: Sunbolt/Audit/KeyValues
   scope: sunbolt-audit/src/redaction.rs
   digest: The key/value pass: its loop without the fuel, and how it comes back to plain text. -/

import Sunbolt.Audit.KeyScan

set_option autoImplicit false
set_option relaxedAutoImplicit false

namespace Sunbolt.Audit

section Span

variable {p : Char → Bool}

theorem span_cut (p : Char → Bool) (text : List Char) :
    (∀ c ∈ text, p c = true) ∨
      ∃ front c back, text = front ++ c :: back ∧ (∀ d ∈ front, p d = true) ∧ p c = false := by
  induction text with
  | nil => exact Or.inl (fun c hc => (nomatch hc))
  | cons c text ih =>
    by_cases hc : p c = true
    · rcases ih with hall | ⟨front, d, back, rfl, hfront, hd⟩
      · left
        intro d hd
        rcases List.mem_cons.mp hd with rfl | hd
        · exact hc
        · exact hall d hd
      · refine Or.inr ⟨c :: front, d, back, rfl, ?_, hd⟩
        intro e he
        rcases List.mem_cons.mp he with rfl | he
        · exact hc
        · exact hfront e he
    · exact Or.inr ⟨[], c, text, rfl, fun d hd => (nomatch hd), by simpa using hc⟩

theorem takeWhile_cut {front : List Char} {c : Char} (hfront : ∀ d ∈ front, p d = true)
    (hc : p c = false) (back : List Char) :
    (front ++ c :: back).takeWhile p = front ∧ (front ++ c :: back).dropWhile p = c :: back := by
  rw [List.takeWhile_append_of_pos hfront, List.dropWhile_append_of_pos hfront]
  simp [hc]

private theorem takeWhile_all {text : List Char} (h : ∀ c ∈ text, p c = true) :
    text.takeWhile p = text ∧ text.dropWhile p = [] :=
  ⟨List.takeWhile_eq_self_iff.mpr h, List.dropWhile_eq_nil_iff.mpr h⟩

end Span

/-! The delimiter. -/

def isDelimiter (c : Char) : Bool := c = ':' || c = '='

theorem delimiter_at {spaces : List Char} {c : Char}
    (hspaces : ∀ d ∈ spaces, isAsciiWhitespace d = true) (hc : isAsciiWhitespace c = false)
    (hquote : c ≠ '"') (rest : List Char) :
    nextKeyValueDelimiter (spaces ++ c :: rest) =
      if isDelimiter c then some (spaces ++ [c], rest) else none := by
  obtain ⟨htake, hdrop⟩ := takeWhile_cut hspaces hc rest
  simp [nextKeyValueDelimiter, isDelimiter, htake, hdrop, hquote]

theorem delimiter_after_quote {spaces more : List Char} {c : Char}
    (hspaces : ∀ d ∈ spaces, isAsciiWhitespace d = true)
    (hmore : ∀ d ∈ more, isAsciiWhitespace d = true) (hc : isAsciiWhitespace c = false)
    (rest : List Char) :
    nextKeyValueDelimiter (spaces ++ '"' :: (more ++ c :: rest)) =
      if isDelimiter c then some (spaces ++ '"' :: more ++ [c], rest) else none := by
  obtain ⟨htake, hdrop⟩ := takeWhile_cut hspaces (by decide : isAsciiWhitespace '"' = false)
    (more ++ c :: rest)
  obtain ⟨htake', hdrop'⟩ := takeWhile_cut hmore hc rest
  simp [nextKeyValueDelimiter, isDelimiter, htake, hdrop, htake', hdrop']

theorem delimiter_append {text delimiter rest : List Char}
    (h : nextKeyValueDelimiter text = some (delimiter, rest)) : text = delimiter ++ rest := by
  rcases span_cut isAsciiWhitespace text with hall | ⟨spaces, c, back, rfl, hspaces, hc⟩
  · obtain ⟨htake, hdrop⟩ := takeWhile_all hall
    simp [nextKeyValueDelimiter, hdrop] at h
  · by_cases hquote : c = '"'
    · subst hquote
      rcases span_cut isAsciiWhitespace back with hall | ⟨more, d, back, rfl, hmore, hd⟩
      · obtain ⟨htake, hdrop⟩ := takeWhile_cut hspaces hc back
        obtain ⟨htake', hdrop'⟩ := takeWhile_all hall
        simp [nextKeyValueDelimiter, htake, hdrop, hdrop'] at h
      · rw [delimiter_after_quote hspaces hmore hd] at h
        split_ifs at h
        simp only [Option.some.injEq, Prod.mk.injEq] at h
        obtain ⟨rfl, rfl⟩ := h
        simp
    · rw [delimiter_at hspaces hc hquote] at h
      split_ifs at h
      simp only [Option.some.injEq, Prod.mk.injEq] at h
      obtain ⟨rfl, rfl⟩ := h
      simp

/-- The delimiter is the last character of what is read up to it. -/
theorem delimiter_last {text delimiter rest : List Char}
    (h : nextKeyValueDelimiter text = some (delimiter, rest)) :
    ∃ front c, delimiter = front ++ [c] ∧ isDelimiter c = true := by
  rcases span_cut isAsciiWhitespace text with hall | ⟨spaces, c, back, rfl, hspaces, hc⟩
  · obtain ⟨htake, hdrop⟩ := takeWhile_all hall
    simp [nextKeyValueDelimiter, hdrop] at h
  · by_cases hquote : c = '"'
    · subst hquote
      rcases span_cut isAsciiWhitespace back with hall | ⟨more, d, back, rfl, hmore, hd⟩
      · obtain ⟨htake, hdrop⟩ := takeWhile_cut hspaces hc back
        obtain ⟨htake', hdrop'⟩ := takeWhile_all hall
        simp [nextKeyValueDelimiter, htake, hdrop, hdrop'] at h
      · rw [delimiter_after_quote hspaces hmore hd] at h
        split_ifs at h with hdelimiter
        simp only [Option.some.injEq, Prod.mk.injEq] at h
        exact ⟨_, d, h.1.symm, hdelimiter⟩
    · rw [delimiter_at hspaces hc hquote] at h
      split_ifs at h with hdelimiter
      simp only [Option.some.injEq, Prod.mk.injEq] at h
      exact ⟨_, c, h.1.symm, hdelimiter⟩

theorem not_identifier_of_space {c : Char} (h : isAsciiWhitespace c = true) :
    isIdentifierByte c = false := by
  simp only [isAsciiWhitespace, Bool.or_eq_true, decide_eq_true_eq] at h
  rcases h with (((rfl | rfl) | rfl) | rfl) | rfl <;> decide

/-- What a text after a sensitive key says about the delimiter, whatever follows: that it has
    one, that it has none, or only that a comma would end the search. -/
inductive DelimiterCut (text : List Char) : Prop
  | found (delimiter rest : List Char) (split : text = delimiter ++ rest)
      (h : ∀ more, nextKeyValueDelimiter (text ++ more) = some (delimiter, rest ++ more))
  | missing (h : ∀ more, nextKeyValueDelimiter (text ++ more) = none)
  | pending (plain : ∀ c ∈ text, isIdentifierByte c = false)
      (h : ∀ more, nextKeyValueDelimiter (text ++ ',' :: more) = none)

theorem delimiterCut (text : List Char) : DelimiterCut text := by
  have comma : isAsciiWhitespace ',' = false ∧ isDelimiter ',' = false := by decide
  rcases span_cut isAsciiWhitespace text with hall | ⟨spaces, c, back, rfl, hspaces, hc⟩
  · refine .pending (fun c hc => not_identifier_of_space (hall c hc)) fun more => ?_
    rw [delimiter_at hall comma.1 (by decide), comma.2]
    rfl
  · by_cases hquote : c = '"'
    · subst hquote
      rcases span_cut isAsciiWhitespace back with hall | ⟨more, d, back, rfl, hmore, hd⟩
      · refine .pending ?_ fun more => ?_
        · intro c hmem
          rcases List.mem_append.mp hmem with hmem | hmem
          · exact not_identifier_of_space (hspaces c hmem)
          · rcases List.mem_cons.mp hmem with rfl | hmem
            · decide
            · exact not_identifier_of_space (hall c hmem)
        · rw [List.append_assoc, List.cons_append, delimiter_after_quote hspaces hall comma.1,
            comma.2]
          rfl
      · by_cases hdelimiter : isDelimiter d = true
        · refine .found (spaces ++ '"' :: more ++ [d]) back (by simp) fun after => ?_
          rw [List.append_assoc, List.cons_append, List.append_assoc, List.cons_append,
            delimiter_after_quote hspaces hmore hd, if_pos hdelimiter]
        · refine .missing fun after => ?_
          rw [List.append_assoc, List.cons_append, List.append_assoc, List.cons_append,
            delimiter_after_quote hspaces hmore hd, if_neg hdelimiter]
    · by_cases hdelimiter : isDelimiter c = true
      · refine .found (spaces ++ [c]) back (by simp) fun after => ?_
        rw [List.append_assoc, List.cons_append, delimiter_at hspaces hc hquote, if_pos hdelimiter]
      · refine .missing fun after => ?_
        rw [List.append_assoc, List.cons_append, delimiter_at hspaces hc hquote, if_neg hdelimiter]

/-! The value. -/

/-- A value that is neither quoted nor in brackets. -/
def unquotedValue (text : List Char) : List Char × List Char :=
  (text.takeWhile (!endsUnquoted ·), text.dropWhile (!endsUnquoted ·))

/-- The bounds of a value that starts with `c`. -/
def boundsAt (spaces : List Char) (c : Char) (rest : List Char) :
    List Char × List Char × List Char :=
  if c = '"' || c = '\'' then (spaces ++ [c], quotedValue c rest)
  else if c = '[' then (spaces, balanced '[' ']' 0 (c :: rest))
  else if c = '{' then (spaces, balanced '{' '}' 0 (c :: rest))
  else (spaces, unquotedValue (c :: rest))

theorem valueBounds_at {spaces : List Char} {c : Char}
    (hspaces : ∀ d ∈ spaces, isAsciiWhitespace d = true) (hc : isAsciiWhitespace c = false)
    (rest : List Char) :
    valueBounds (spaces ++ c :: rest) = some (boundsAt spaces c rest) := by
  obtain ⟨htake, hdrop⟩ := takeWhile_cut hspaces hc rest
  rw [valueBounds, boundsAt]
  simp only [htake, hdrop]
  split_ifs
  · rfl
  · rfl
  · rfl
  · rfl

theorem valueBounds_spaces {text : List Char} (h : ∀ c ∈ text, isAsciiWhitespace c = true) :
    valueBounds text = none := by
  simp [valueBounds, (takeWhile_all h).2]

private theorem boundsAt_append (spaces : List Char) (c : Char) (rest : List Char) :
    (boundsAt spaces c rest).1 ++ (boundsAt spaces c rest).2.1 ++ (boundsAt spaces c rest).2.2 =
      spaces ++ c :: rest := by
  rw [boundsAt]
  split_ifs
  · simp [quotedValue_append c rest]
  · simp only [List.append_assoc, balanced_append]
  · simp only [List.append_assoc, balanced_append]
  · simp only [List.append_assoc, unquotedValue, List.takeWhile_append_dropWhile]

theorem valueBounds_append {text before value rest : List Char}
    (h : valueBounds text = some (before, value, rest)) : text = before ++ value ++ rest := by
  rcases span_cut isAsciiWhitespace text with hall | ⟨spaces, c, back, rfl, hspaces, hc⟩
  · rw [valueBounds_spaces hall] at h
    cases h
  · rw [valueBounds_at hspaces hc] at h
    have hbounds := boundsAt_append spaces c back
    rw [Option.some.inj h] at hbounds
    exact hbounds.symm

/-- The bounds of a value are its own: blanks or a quote before it, a character behind it or at
    its end that no token goes on over. -/
theorem boundsAt_seams {spaces : List Char} (hspaces : ∀ d ∈ spaces, isAsciiWhitespace d = true)
    (c : Char) (rest : List Char) :
    (∀ d ∈ (boundsAt spaces c rest).1.getLast?, isTokenByte d = false) ∧
      ((∀ d ∈ (boundsAt spaces c rest).2.2.head?, isTokenByte d = false) ∨
        ∃ d ∈ (boundsAt spaces c rest).2.1.getLast?, isTokenByte d = false) := by
  have blank : ∀ d ∈ spaces.getLast?, isTokenByte d = false := by
    intro d hd
    have hspace := hspaces d (List.mem_of_getLast? hd)
    simp only [isAsciiWhitespace, Bool.or_eq_true, decide_eq_true_eq] at hspace
    rcases hspace with (((rfl | rfl) | rfl) | rfl) | rfl <;> decide
  have bracket : ∀ {bounds : List Char × List Char} {closing : Char},
      isTokenByte closing = false → (bounds.2 = [] ∨ bounds.1.getLast? = some closing) →
      (∀ d ∈ bounds.2.head?, isTokenByte d = false) ∨
        ∃ d ∈ bounds.1.getLast?, isTokenByte d = false := by
    rintro bounds closing hclosing (hnil | hlast)
    · left
      intro d hd
      rw [hnil] at hd
      cases hd
    · exact Or.inr ⟨closing, hlast, hclosing⟩
  rw [boundsAt]
  split_ifs with hquote
  · have isQuote : c = '"' ∨ c = '\'' := by simpa using hquote
    have hc : isTokenByte c = false := by
      rcases isQuote with rfl | rfl <;> decide
    constructor
    · intro d hd
      rw [List.getLast?_concat] at hd
      obtain rfl : c = d := Option.some.inj hd
      exact hc
    · left
      intro d hd
      rw [quotedValue_rest c rest d hd]
      exact hc
  · exact ⟨blank, bracket (by decide) (balanced_ends 0 _)⟩
  · exact ⟨blank, bracket (by decide) (balanced_ends 0 _)⟩
  · refine ⟨blank, Or.inl fun d hd => ?_⟩
    have hends := List.head?_dropWhile_not (!endsUnquoted ·) (c :: rest)
    change d ∈ ((c :: rest).dropWhile (!endsUnquoted ·)).head? at hd
    rw [hd] at hends
    have hstop : endsUnquoted d = true := by simpa using hends
    simp only [endsUnquoted, isAsciiWhitespace, Bool.or_eq_true, decide_eq_true_eq] at hstop
    rcases hstop with (((rfl | rfl) | rfl) | rfl) | ((((rfl | rfl) | rfl) | rfl) | rfl) <;> decide

/-- What brings the scanner back to plain text: quotes, closing brackets, a comma. -/
def IsCloser (text : List Char) : Prop :=
  text ≠ [] ∧ ∀ c ∈ text, c = ',' ∨ c = '"' ∨ c = '\'' ∨ c = ']' ∨ c = '}'

/-- A comma ends a value that is not quoted and not in brackets. -/
theorem isCloser_comma : IsCloser [','] :=
  ⟨List.cons_ne_nil _ _, fun _ hc => Or.inl (List.mem_singleton.mp hc)⟩

theorem not_identifier_of_closer {text : List Char} (h : IsCloser text) :
    ∀ c ∈ text, isIdentifierByte c = false := by
  intro c hc
  rcases h.2 c hc with rfl | rfl | rfl | rfl | rfl <;> decide

/-- A value ends inside a text, or some closer behind the text ends it. -/
inductive ValueCut (bounds : List Char → Option (List Char × List Char × List Char))
    (text : List Char) : Prop
  | done (before value rest : List Char) (split : text = before ++ value ++ rest)
      (h : ∀ more, bounds (text ++ more) = some (before, value, rest ++ more))
  | closes (closer before value rest : List Char) (isCloser : IsCloser closer)
      (plain : ∀ c ∈ rest, isIdentifierByte c = false)
      (h : ∀ more, bounds (text ++ (closer ++ more)) = some (before, value, rest ++ more))

/-- The same for what is read of the value, as a function of the text behind. -/
private def ReadsCut (reads : List Char → List Char × List Char) : Prop :=
  (∃ value after, ∀ more, reads more = (value, after ++ more)) ∨
    ∃ closer value after, IsCloser closer ∧ (∀ c ∈ after, isIdentifierByte c = false) ∧
      ∀ more, reads (closer ++ more) = (value, after ++ more)

private theorem readsCut_quoted {quote : Char} (isQuote : quote = '"' ∨ quote = '\'')
    (text : List Char) : ReadsCut (fun more => quotedValue quote (text ++ more)) := by
  have hslash : quote ≠ '\\' := by
    rcases isQuote with rfl | rfl <;> decide
  have plain : ∀ c ∈ [quote], isIdentifierByte c = false := by
    intro c hc
    rw [List.mem_singleton.mp hc]
    rcases isQuote with rfl | rfl <;> decide
  have closer : ∀ closer, (∀ c ∈ closer, c = quote) → closer ≠ [] → IsCloser closer := by
    intro closer hall hne
    refine ⟨hne, fun c hc => ?_⟩
    rw [hall c hc]
    rcases isQuote with rfl | rfl <;> simp
  cases quotedCut hslash text with
  | closed value rest split h => exact Or.inl ⟨value, quote :: rest, h⟩
  | isOpen h =>
    refine Or.inr ⟨[quote], text, [quote], closer _ (by simp) (by simp), plain, fun more => ?_⟩
    change quotedValue quote (text ++ quote :: more) = _
    rw [h, quotedValue_quote hslash, readOn, List.append_nil]
    rfl
  | escaped h =>
    refine Or.inr ⟨[quote, quote], text ++ [quote], [quote], closer _ (by simp) (by simp), plain,
      fun more => ?_⟩
    change quotedValue quote (text ++ quote :: (quote :: more)) = _
    rw [h, quotedValue_quote hslash, readOn, List.append_nil]
    rfl

private theorem insideQuote_quote {opening closing quote : Char} (h : quote ≠ '\\')
    (depth : UInt32) (more : List Char) :
    insideQuote opening closing depth quote (quote :: more) =
      readOn [quote] (balanced opening closing depth more) := by
  unfold insideQuote
  rw [quotedValue_quote h]
  rfl

private theorem readsCut_balanced {opening closing : Char} (brackets : IsBrackets opening closing)
    (isCloser : closing = ']' ∨ closing = '}') (text : List Char) :
    ReadsCut (fun more => balanced opening closing 0 (text ++ more)) := by
  have closers : ∀ front n, 0 < n → (∀ c ∈ front, c = '"' ∨ c = '\'') →
      IsCloser (front ++ List.replicate n closing) := by
    intro front n hn hfront
    refine ⟨?_, fun c hc => ?_⟩
    · intro hnil
      have hlength := congrArg List.length hnil
      simp only [List.length_append, List.length_replicate, List.length_nil] at hlength
      omega
    · rcases List.mem_append.mp hc with hc | hc
      · rcases hfront c hc with rfl | rfl <;> simp
      · rw [List.eq_of_mem_replicate hc]
        rcases isCloser with rfl | rfl <;> simp
  have noChars : ∀ c ∈ ([] : List Char), isIdentifierByte c = false := fun c hc => (nomatch hc)
  have hcut : BalancedCut opening closing 0 text := balancedCut 0 text
  cases hcut with
  | closed value rest split h => exact Or.inl ⟨value, rest, h⟩
  | isOpen inner h =>
    obtain ⟨n, hn, hcloses⟩ := exists_closers brackets inner
    refine Or.inr ⟨List.replicate n closing, text ++ List.replicate n closing, [],
      closers [] n hn (fun c hc => (nomatch hc)), noChars, fun more => ?_⟩
    change balanced opening closing 0 (text ++ (List.replicate n closing ++ more)) = _
    rw [h, hcloses]
    rfl
  | quoted inner quote isQuote h =>
    obtain ⟨n, hn, hcloses⟩ := exists_closers brackets inner
    have hslash : quote ≠ '\\' := by
      rcases isQuote with rfl | rfl <;> decide
    refine Or.inr ⟨[quote] ++ List.replicate n closing,
      text ++ quote :: List.replicate n closing, [], closers [quote] n hn ?_, noChars,
      fun more => ?_⟩
    · intro c hc
      rwa [List.mem_singleton.mp hc]
    · change balanced opening closing 0 (text ++ quote :: (List.replicate n closing ++ more)) = _
      rw [h, insideQuote_quote hslash, hcloses]
      rfl
  | escaped inner quote isQuote h =>
    obtain ⟨n, hn, hcloses⟩ := exists_closers brackets inner
    have hslash : quote ≠ '\\' := by
      rcases isQuote with rfl | rfl <;> decide
    refine Or.inr ⟨[quote, quote] ++ List.replicate n closing,
      text ++ [quote] ++ quote :: List.replicate n closing, [],
      closers [quote, quote] n hn ?_, noChars, fun more => ?_⟩
    · intro c hc
      have hc' : c = quote := by simpa using hc
      rwa [hc']
    · change balanced opening closing 0
        (text ++ quote :: (quote :: (List.replicate n closing ++ more))) = _
      rw [h, insideQuote_quote hslash, hcloses]
      rfl

private theorem unquotedValue_cut {front : List Char} {c : Char}
    (hfront : ∀ d ∈ front, endsUnquoted d = false) (hc : endsUnquoted c = true)
    (back : List Char) : unquotedValue (front ++ c :: back) = (front, c :: back) := by
  have inside : ∀ d ∈ front, (!endsUnquoted d) = true := by
    intro d hd
    rw [hfront d hd]
    rfl
  have boundary : (!endsUnquoted c) = false := by rw [hc]; rfl
  rw [unquotedValue, (takeWhile_cut inside boundary back).1, (takeWhile_cut inside boundary back).2]

private theorem readsCut_unquoted (text : List Char) :
    ReadsCut (fun more => unquotedValue (text ++ more)) := by
  rcases span_cut (!endsUnquoted ·) text with hall | ⟨front, c, back, rfl, hfront, hc⟩
  · refine Or.inr ⟨[','], text, [','], isCloser_comma,
      not_identifier_of_closer isCloser_comma, fun more => ?_⟩
    exact unquotedValue_cut (fun d hd => by simpa using hall d hd) (by decide) more
  · refine Or.inl ⟨front, c :: back, fun more => ?_⟩
    simp only [List.append_assoc, List.cons_append]
    exact unquotedValue_cut (fun d hd => by simpa using hfront d hd) (by simpa using hc) _

theorem valueCut (text : List Char) : ValueCut valueBounds text := by
  rcases span_cut isAsciiWhitespace text with hall | ⟨spaces, c, rest, rfl, hspaces, hc⟩
  · refine .closes [','] text [] [','] isCloser_comma
      (not_identifier_of_closer isCloser_comma) fun more => ?_
    rw [List.singleton_append, valueBounds_at hall (by decide)]
    rfl
  · have cut : ∀ (before : List Char) {reads : List Char → List Char × List Char},
        (∀ more, boundsAt spaces c (rest ++ more) = (before, reads more)) → ReadsCut reads →
        ValueCut valueBounds (spaces ++ c :: rest) := by
      intro before reads hreads hcut
      have bounds : ∀ more, valueBounds (spaces ++ c :: rest ++ more) =
          some (before, reads more) := by
        intro more
        rw [List.append_assoc, List.cons_append, valueBounds_at hspaces hc, hreads]
      rcases hcut with ⟨value, after, h⟩ | ⟨closer, value, after, isCloser, plain, h⟩
      · refine .done before value after ?_ fun more => ?_
        · have hnil := valueBounds_append (bounds [])
          rw [h, List.append_nil, List.append_nil] at hnil
          exact hnil
        · rw [bounds, h]
      · refine .closes closer before value after isCloser plain fun more => ?_
        rw [bounds, h]
    by_cases hquote : (c = '"' || c = '\'') = true
    · refine cut (spaces ++ [c]) (fun more => ?_)
        (readsCut_quoted (by simpa using hquote) rest)
      rw [boundsAt, if_pos hquote]
    by_cases hsquare : c = '['
    · refine cut spaces (fun more => ?_)
        (readsCut_balanced isBrackets_square (Or.inl rfl) (c :: rest))
      rw [boundsAt, if_neg hquote, if_pos hsquare]
      rfl
    by_cases hcurly : c = '{'
    · refine cut spaces (fun more => ?_)
        (readsCut_balanced isBrackets_curly (Or.inr rfl) (c :: rest))
      rw [boundsAt, if_neg hquote, if_neg hsquare, if_pos hcurly]
      rfl
    · refine cut spaces (fun more => ?_) (readsCut_unquoted (c :: rest))
      rw [boundsAt, if_neg hquote, if_neg hsquare, if_neg hcurly]
      rfl

/-! The delimiter and the value. -/

theorem keyedValue_append {text before value rest : List Char}
    (h : keyedValue text = some (before, value, rest)) : text = before ++ value ++ rest := by
  obtain ⟨⟨delimiter, back⟩, hdelimiter, h⟩ := Option.bind_eq_some_iff.mp h
  obtain ⟨⟨spaces, value', rest'⟩, hvalue, heq⟩ := Option.map_eq_some_iff.mp h
  simp only [Prod.mk.injEq] at heq
  obtain ⟨rfl, rfl, rfl⟩ := heq
  rw [delimiter_append hdelimiter, valueBounds_append hvalue]
  simp

/-- What stands before a value ends in a colon or between tokens, and so does the value. -/
structure ValueSeams (before value rest : List Char) : Prop where
  stops : ∃ c, before.getLast? = some c ∧ (c = ':' ∨ isTokenByte c = false)
  resumes : (∀ c ∈ rest.head?, isTokenByte c = false) ∨
    ∃ c ∈ value.getLast?, isTokenByte c = false

theorem keyedValue_seams {text before value rest : List Char}
    (h : keyedValue text = some (before, value, rest)) : ValueSeams before value rest := by
  obtain ⟨⟨delimiter, back⟩, hdelimiter, h⟩ := Option.bind_eq_some_iff.mp h
  obtain ⟨⟨spaces, value', rest'⟩, hvalue, heq⟩ := Option.map_eq_some_iff.mp h
  simp only [Prod.mk.injEq] at heq
  obtain ⟨rfl, rfl, rfl⟩ := heq
  obtain ⟨front, c, rfl, hc⟩ := delimiter_last hdelimiter
  have hstop : c = ':' ∨ isTokenByte c = false := by
    simp only [isDelimiter, Bool.or_eq_true, decide_eq_true_eq] at hc
    rcases hc with rfl | rfl
    · exact Or.inl rfl
    · exact Or.inr (by decide)
  rcases span_cut isAsciiWhitespace back with hall | ⟨blank, d, tail, rfl, hblank, hd⟩
  · rw [valueBounds_spaces hall] at hvalue
    cases hvalue
  · rw [valueBounds_at hblank hd] at hvalue
    have hseams := boundsAt_seams hblank d tail
    rw [Option.some.inj hvalue] at hseams
    refine ⟨?_, hseams.2⟩
    cases hlast : spaces.getLast? with
    | none =>
      refine ⟨c, ?_, hstop⟩
      rw [List.getLast?_append, hlast, Option.none_or, List.getLast?_concat]
    | some e =>
      refine ⟨e, ?_, Or.inr (hseams.1 e hlast)⟩
      rw [List.getLast?_append, hlast, Option.some_or]


/-- What a text after a sensitive key says about its value. -/
inductive KeyedCut (text : List Char) : Prop
  | value (cut : ValueCut keyedValue text)
  | missing (h : ∀ more, keyedValue (text ++ more) = none)
  | pending (plain : ∀ c ∈ text, isIdentifierByte c = false)
      (h : ∀ more, keyedValue (text ++ ',' :: more) = none)

theorem keyedCut (text : List Char) : KeyedCut text := by
  cases delimiterCut text with
  | found delimiter rest split h =>
    have bounds : ∀ more, keyedValue (text ++ more) =
        (valueBounds (rest ++ more)).map (fun found =>
          (delimiter ++ found.1, found.2.1, found.2.2)) := by
      intro more
      rw [keyedValue, h]
      rfl
    refine .value ?_
    cases valueCut rest with
    | done before value after split' hdone =>
      refine .done (delimiter ++ before) value after ?_ fun more => ?_
      · rw [split, split']
        simp
      · rw [bounds, hdone]
        rfl
    | closes closer before value after isCloser plain hcloses =>
      refine .closes closer (delimiter ++ before) value after isCloser plain fun more => ?_
      rw [bounds, hcloses]
      rfl
  | missing h => exact .missing fun more => by rw [keyedValue, h]; rfl
  | pending plain h => exact .pending plain fun more => by rw [keyedValue, h]; rfl

end Sunbolt.Audit
