/- Module: Sunbolt/Audit/KeyRedaction
   scope: sunbolt-audit/src/redaction.rs
   digest: Two texts that differ in the value of one sensitive key are redacted to the same text. -/

import Mathlib.Data.Bool.AllAny
import Mathlib.Data.List.Infix
import Sunbolt.Audit.HeaderLines

set_option autoImplicit false
set_option relaxedAutoImplicit false

namespace Sunbolt.Audit

/-- A sensitive key behind a text that has no sensitive key itself. -/
structure KeyAfter (p k : List Char) : Prop where
  free : NoSensitiveKey none p
  border : isBorder p.getLast? = true
  identifier : ∀ c ∈ k, isIdentifierByte c = true
  sensitive : isSensitiveKey (normalizeKey k) = true

/-- Short texts are searched for sensitive keys part by part. -/
theorem noSensitiveKey_of_parts {previous : Option Char} {text : List Char}
    (h : ∀ part ∈ text.tails.flatMap List.inits, isSensitiveKey (normalizeKey part) = false) :
    NoSensitiveKey previous text := by
  intro front key back hfound
  refine h key (List.mem_flatMap.mpr ⟨key ++ back, ?_, ?_⟩)
  · rw [List.mem_tails, hfound.split, List.append_assoc]
    exact List.suffix_append _ _
  · rw [List.mem_inits]
    exact List.prefix_append _ _

/-! The value of the key. -/

theorem delimiter_plain {d : Char} (h : isDelimiter d = true) :
    isAsciiWhitespace d = false ∧ d ≠ '"' ∧ isIdentifierByte d = false ∧ d ≠ '\n' := by
  simp only [isDelimiter, Bool.or_eq_true, decide_eq_true_eq] at h
  rcases h with rfl | rfl
  · decide
  · decide

private theorem noBlank : ∀ c ∈ ([] : List Char), isAsciiWhitespace c = true :=
  fun _ hc => (nomatch hc)

theorem keyedValue_delimiter {d : Char} (h : isDelimiter d = true) (text : List Char) :
    keyedValue (d :: text) =
      (valueBounds text).map (fun (before, value, rest) => (d :: before, value, rest)) := by
  have hplain := delimiter_plain h
  have hat := delimiter_at noBlank hplain.1 hplain.2.1 text
  rw [List.nil_append, if_pos h] at hat
  rw [keyedValue, hat]
  rfl

theorem keyedValue_quoted {d : Char} (h : isDelimiter d = true) {v : List Char}
    (hv : ∀ c ∈ v, c ≠ '\\' ∧ c ≠ '"') (rest : List Char) :
    keyedValue (d :: ('"' :: (v ++ '"' :: rest))) = some ([d, '"'], v, '"' :: rest) := by
  have hquote : isAsciiWhitespace '"' = false := by decide
  have hat := valueBounds_at noBlank hquote (v ++ '"' :: rest)
  rw [List.nil_append] at hat
  rw [keyedValue_delimiter h, hat, boundsAt, if_pos (by decide), quotedValue_plain hv,
    quotedValue_quote (by decide), readOn, List.append_nil]
  rfl

/-- A value that needs no quotes: no blank, separator, quote or bracket is in it. -/
structure IsUnquoted (v : List Char) : Prop where
  nonempty : v ≠ []
  plain : ∀ c ∈ v, isAsciiWhitespace c = false ∧ c ∉ ",;\"'[]{}".toList

theorem IsUnquoted.takes_all {v : List Char} (hv : IsUnquoted v) {rest : List Char}
    (hrest : ∀ c ∈ rest.head?, endsUnquoted c = true) : unquotedValue (v ++ rest) = (v, rest) := by
  have hall : ∀ c ∈ v, (!endsUnquoted c) = true := by
    intro c hc
    obtain ⟨hspace, hplain⟩ := hv.plain c hc
    have hcomma : c ≠ ',' := by
      rintro rfl
      exact hplain (by decide)
    have hsemicolon : c ≠ ';' := by
      rintro rfl
      exact hplain (by decide)
    have hlines : c ≠ '\n' ∧ c ≠ '\r' := by
      constructor <;> rintro rfl <;> exact absurd hspace (by decide)
    simp [endsUnquoted, hspace, hcomma, hsemicolon, hlines.1, hlines.2]
  rw [unquotedValue, List.takeWhile_append_of_pos hall, List.dropWhile_append_of_pos hall]
  cases rest with
  | nil => simp
  | cons c rest =>
    have hc := hrest c rfl
    simp [hc]

theorem keyedValue_unquoted {d : Char} (h : isDelimiter d = true) {v : List Char}
    (hv : IsUnquoted v) {rest : List Char} (hrest : ∀ c ∈ rest.head?, endsUnquoted c = true) :
    keyedValue (d :: (v ++ rest)) = some ([d], v, rest) := by
  have hreads := hv.takes_all hrest
  cases v with
  | nil => exact absurd rfl hv.nonempty
  | cons c v =>
    obtain ⟨hspace, hplain⟩ := hv.plain c (List.mem_cons_self ..)
    have hstart : ∀ start ∈ ['"', '\'', '[', '{'], c ≠ start := by
      intro start hstart heq
      subst heq
      refine hplain ?_
      revert hstart
      simp only [List.mem_cons, List.not_mem_nil, or_false]
      rintro (rfl | rfl | rfl | rfl) <;> decide
    have hat := valueBounds_at noBlank hspace (v ++ rest)
    have hbounds : boundsAt [] c (v ++ rest) = ([], c :: v, rest) := by
      rw [boundsAt, if_neg, if_neg (hstart _ (by simp)), if_neg (hstart _ (by simp))]
      · rw [List.cons_append] at hreads
        rw [hreads]
      · have hdouble := hstart '"' (by simp)
        have hsingle := hstart '\'' (by simp)
        simp [hdouble, hsingle]
    rw [List.nil_append, hbounds] at hat
    rw [List.cons_append, keyedValue_delimiter h, hat]
    rfl

/-! The passes over the text around the key. -/

section AroundKey

variable {p k : List Char} {d : Char}

/-- The key pass keeps what stands before the value of the key and hides the value. -/
theorem KeyAfter.scan (h : KeyAfter p k) (hd : isDelimiter d = true)
    {text before value rest : List Char}
    (hvalue : keyedValue (d :: text) = some (before, value, rest))
    (border : isBorder rest.head? = true) :
    Audit.scan none (p ++ (k ++ d :: text)) =
      p ++ (k ++ (before ++ (redaction ++ Audit.scan none rest))) := by
  have hend : isBorder (endOf none p) = true := by
    rw [endOf, Option.or_none]
    exact h.border
  have hkey : k ≠ [] := by
    rintro rfl
    exact absurd h.sensitive (by decide)
  have hafter : isBorder (d :: text).head? = true := by
    simp [isBorder, (delimiter_plain hd).2.2.1]
  have hsecret : secretValue k (d :: text) = some (before, value, rest) := by
    rw [secretValue, if_pos h.sensitive]
    exact hvalue
  rw [scan_append_free h.free hend, scan_secret (nextIdentifier_key hend hkey h.identifier hafter)
    hsecret, scan_previous border _ none]
  simp only [List.nil_append, List.append_assoc]

/-- The header pass hides the rest of the line, whatever it is, or changes nothing before it. -/
theorem KeyAfter.headers (h : KeyAfter p k) (hd : isDelimiter d = true) (s : List Char) :
    (∃ hidden, ∀ V, '\n' ∉ V → redactSensitiveHeaders (p ++ (k ++ d :: V ++ s)) = hidden) ∨
      ∀ V, '\n' ∉ V → redactSensitiveHeaders (p ++ (k ++ d :: V ++ s)) =
        p ++ (k ++ d :: (V ++ (firstLine s ++ laterLines s))) := by
  have hnewline : ∀ c ∈ k, c ≠ '\n' := by
    rintro c hc rfl
    exact absurd (h.identifier _ hc) (by decide)
  have hword : ∀ V, '\n' ∉ V → '\n' ∉ k ++ d :: V := by
    intro V hV hmem
    rw [List.mem_append, List.mem_cons] at hmem
    rcases hmem with hmem | hmem | hmem
    · exact hnewline _ hmem rfl
    · exact (delimiter_plain hd).2.2.2 hmem.symm
    · exact hV hmem
  have split : ∀ V, '\n' ∉ V → redactSensitiveHeaders (p ++ (k ++ d :: V ++ s)) =
      earlierLines [] p ++ redactHeaderLine (lastLine [] p ++ k ++ d :: (V ++ firstLine s)) ++
        laterLines s := by
    intro V hV
    rw [redactSensitiveHeaders_split (hword V hV)]
    simp only [List.append_assoc, List.cons_append]
  have hd' : d = ':' ∨ d = '=' := by simpa [isDelimiter] using hd
  rcases redactHeaderLine_cut hd' (lastLine [] p ++ k) with ⟨hidden, hline⟩ | hline
  · left
    exact ⟨earlierLines [] p ++ hidden ++ laterLines s, fun V hV => by rw [split V hV, hline]⟩
  · right
    intro V hV
    have hlines : earlierLines [] p ++ lastLine [] p = p := lines_free h.free
    rw [split V hV, hline]
    calc earlierLines [] p ++ (lastLine [] p ++ k ++ d :: (V ++ firstLine s)) ++ laterLines s
        = (earlierLines [] p ++ lastLine [] p) ++
            (k ++ d :: (V ++ (firstLine s ++ laterLines s))) := by
          simp only [List.append_assoc, List.cons_append]
      _ = p ++ (k ++ d :: (V ++ (firstLine s ++ laterLines s))) := by rw [hlines]

/-- Values that the key pass tells apart nowhere are not told apart by the redactor. -/
theorem KeyAfter.hides (h : KeyAfter p k) (hd : isDelimiter d = true) {s V₁ V₂ : List Char}
    (h₁ : '\n' ∉ V₁) (h₂ : '\n' ∉ V₂)
    (same : ∀ rest : List Char, rest.head? = s.head? →
      Audit.scan none (p ++ (k ++ d :: (V₁ ++ rest))) =
        Audit.scan none (p ++ (k ++ d :: (V₂ ++ rest)))) :
    redactSensitiveKeyValues (redactSensitiveHeaders (p ++ (k ++ d :: V₁ ++ s))) =
      redactSensitiveKeyValues (redactSensitiveHeaders (p ++ (k ++ d :: V₂ ++ s))) := by
  rcases h.headers hd s with ⟨hidden, hline⟩ | hline
  · rw [hline V₁ h₁, hline V₂ h₂]
  · rw [hline V₁ h₁, hline V₂ h₂, redactSensitiveKeyValues_eq, redactSensitiveKeyValues_eq]
    exact same _ (head_lines s)

theorem KeyAfter.hides_quoted (h : KeyAfter p k) (hd : isDelimiter d = true) (s : List Char)
    {v₁ v₂ : List Char} (h₁ : ∀ c ∈ v₁, c ∉ "\"'\\\n".toList)
    (h₂ : ∀ c ∈ v₂, c ∉ "\"'\\\n".toList) :
    redactSensitiveKeyValues
        (redactSensitiveHeaders (p ++ (k ++ d :: ('"' :: (v₁ ++ ['"'])) ++ s))) =
      redactSensitiveKeyValues
        (redactSensitiveHeaders (p ++ (k ++ d :: ('"' :: (v₂ ++ ['"'])) ++ s))) := by
  have newline : ∀ v : List Char, (∀ c ∈ v, c ∉ "\"'\\\n".toList) → '\n' ∉ '"' :: (v ++ ['"']) := by
    intro v hv hmem
    simp only [List.mem_cons, List.mem_append, List.not_mem_nil, or_false] at hmem
    rcases hmem with hmem | hmem | hmem
    · exact absurd hmem (by decide)
    · exact hv _ hmem (by decide)
    · exact absurd hmem (by decide)
  have reads : ∀ v : List Char, (∀ c ∈ v, c ∉ "\"'\\\n".toList) → ∀ rest,
      Audit.scan none (p ++ (k ++ d :: ('"' :: (v ++ ['"']) ++ rest))) =
        p ++ (k ++ ([d, '"'] ++ (redaction ++ Audit.scan none ('"' :: rest)))) := by
    intro v hv rest
    have hplain : ∀ c ∈ v, c ≠ '\\' ∧ c ≠ '"' := by
      intro c hc
      constructor
      · rintro rfl
        exact hv _ hc (by decide)
      · rintro rfl
        exact hv _ hc (by decide)
    rw [show '"' :: (v ++ ['"']) ++ rest = '"' :: (v ++ '"' :: rest) by simp]
    exact h.scan hd (keyedValue_quoted hd hplain rest) (by rfl)
  refine h.hides hd (newline v₁ h₁) (newline v₂ h₂) fun rest _ => ?_
  rw [reads v₁ h₁, reads v₂ h₂]

theorem KeyAfter.hides_unquoted (h : KeyAfter p k) (hd : isDelimiter d = true) {s : List Char}
    (hs : ∀ c ∈ s.head?, isAsciiWhitespace c = true ∨ c = ',' ∨ c = ';')
    {v₁ v₂ : List Char} (h₁ : IsUnquoted v₁) (h₂ : IsUnquoted v₂) :
    redactSensitiveKeyValues (redactSensitiveHeaders (p ++ (k ++ d :: v₁ ++ s))) =
      redactSensitiveKeyValues (redactSensitiveHeaders (p ++ (k ++ d :: v₂ ++ s))) := by
  have newline : ∀ {v : List Char}, IsUnquoted v → '\n' ∉ v := by
    intro v hv hmem
    exact absurd (hv.plain _ hmem).1 (by decide)
  have border : ∀ rest : List Char, rest.head? = s.head? →
      (∀ c ∈ rest.head?, endsUnquoted c = true) ∧ isBorder rest.head? = true := by
    intro rest hrest
    rw [hrest]
    constructor
    · intro c hc
      rcases hs c hc with hspace | rfl | rfl
      · simp [endsUnquoted, hspace]
      · decide
      · decide
    · cases hhead : s.head? with
      | none => rfl
      | some c =>
        rcases hs c hhead with hspace | rfl | rfl
        · simp [isBorder, not_identifier_of_space hspace]
        · decide
        · decide
  refine h.hides hd (newline h₁) (newline h₂) fun rest hrest => ?_
  obtain ⟨hends, hborder⟩ := border rest hrest
  rw [h.scan hd (keyedValue_unquoted hd h₁ hends) hborder,
    h.scan hd (keyedValue_unquoted hd h₂ hends) hborder]

end AroundKey

/-- The redactor never shows the value of a sensitive key: two texts that differ in it alone are
    redacted to the same text. -/
theorem redactSensitive_hides_value (p k s : String) (d : Char)
    (hkey : KeyAfter p.toList k.toList) (hd : d = ':' ∨ d = '=') :
    (∀ v₁ v₂ : String, (∀ c ∈ v₁.toList, c ∉ "\"'\\\n".toList) →
      (∀ c ∈ v₂.toList, c ∉ "\"'\\\n".toList) →
      redactSensitive (p ++ k ++ String.singleton d ++ "\"" ++ v₁ ++ "\"" ++ s) =
        redactSensitive (p ++ k ++ String.singleton d ++ "\"" ++ v₂ ++ "\"" ++ s)) ∧
    ((∀ c ∈ s.toList.head?, isAsciiWhitespace c = true ∨ c = ',' ∨ c = ';') →
      ∀ v₁ v₂ : String, IsUnquoted v₁.toList → IsUnquoted v₂.toList →
        redactSensitive (p ++ k ++ String.singleton d ++ v₁ ++ s) =
          redactSensitive (p ++ k ++ String.singleton d ++ v₂ ++ s)) := by
  have hdelimiter : isDelimiter d = true := by simpa [isDelimiter] using hd
  constructor
  · intro v₁ v₂ h₁ h₂
    have quoted : ∀ v : String,
        (p ++ k ++ String.singleton d ++ "\"" ++ v ++ "\"" ++ s).toList =
          p.toList ++ (k.toList ++ d :: ('"' :: (v.toList ++ ['"'])) ++ s.toList) := by
      intro v
      simp
    rw [redactSensitive, redactSensitive, quoted v₁, quoted v₂,
      hkey.hides_quoted hdelimiter s.toList h₁ h₂]
  · intro hs v₁ v₂ h₁ h₂
    have unquoted : ∀ v : String,
        (p ++ k ++ String.singleton d ++ v ++ s).toList =
          p.toList ++ (k.toList ++ d :: v.toList ++ s.toList) := by
      intro v
      simp
    rw [redactSensitive, redactSensitive, unquoted v₁, unquoted v₂,
      hkey.hides_unquoted hdelimiter hs h₁ h₂]

/-- The reconnect token of a logged message. -/
theorem redactSensitive_hides_value_token :
    redactSensitive ("got " ++ "reconnect_token" ++ String.singleton '=' ++ "abc" ++ " ok") =
      redactSensitive ("got " ++ "reconnect_token" ++ String.singleton '=' ++ "xyz" ++ " ok") := by
  have hkey : KeyAfter "got ".toList "reconnect_token".toList :=
    ⟨noSensitiveKey_of_parts (by decide), by decide, List.all_eq_true.mp (by decide), by decide⟩
  have hend : ∀ c ∈ " ok".toList.head?, isAsciiWhitespace c = true ∨ c = ',' ∨ c = ';' := by
    intro c hc
    obtain rfl : ' ' = c := Option.some.inj hc
    exact Or.inl rfl
  have hplain : IsUnquoted "abc".toList ∧ IsUnquoted "xyz".toList :=
    ⟨⟨by decide, List.all_iff_forall_prop.mp (by decide)⟩,
      ⟨by decide, List.all_iff_forall_prop.mp (by decide)⟩⟩
  exact (redactSensitive_hides_value "got " "reconnect_token" " ok" '=' hkey (by decide)).2
    hend "abc" "xyz" hplain.1 hplain.2

end Sunbolt.Audit
