/- Module: Sunbolt/Audit/HeaderRedaction
   scope: sunbolt-audit/src/redaction.rs
   digest: The value of a sensitive header is hidden as a whole exactly when its line starts as a
     header line; inside of a line only the first word is. -/

import Sunbolt.Audit.HeaderLines
import Sunbolt.Audit.TokenRuns

set_option autoImplicit false
set_option relaxedAutoImplicit false

namespace Sunbolt.Audit

/-- The value of a header: something on one line. -/
structure IsHeaderValue (v : List Char) : Prop where
  visible : ∃ c ∈ v, isWhitespace c = false
  line : '\n' ∉ v ∧ '\r' ∉ v

/-- What stands on the line before the header is a blank, or the start of another sensitive
    header. -/
def StartsHeaderLine (line : List Char) : Prop :=
  (∀ c ∈ line, isWhitespace c = true) ∨
    (':' ∈ line ∧ isSensitiveHeaderName (headerName line) = true)

/-! Whether the line is a header line. -/

theorem lastLine_suffix (line text : List Char) : lastLine line text <:+ line ++ text := by
  induction text generalizing line with
  | nil =>
    have hline : lastLine line [] = line ++ [] := (List.append_nil line).symm
    exact hline ▸ List.suffix_refl _
  | cons c text ih =>
    rw [lastLine]
    split_ifs
    · exact (ih []).trans ⟨line ++ [c], by simp⟩
    · have h := ih (line ++ [c])
      rwa [List.append_assoc, List.singleton_append] at h

theorem border_lastLine {p : List Char} (h : isBorder p.getLast? = true) :
    isBorder (lastLine [] p).getLast? = true := by
  obtain ⟨front, hfront⟩ := lastLine_suffix [] p
  rw [List.nil_append] at hfront
  cases hlast : (lastLine [] p).getLast? with
  | none => rfl
  | some c =>
    rw [← hfront, List.getLast?_append, hlast, Option.some_or] at h
    exact h

theorem headerName_name {name : List Char} (h : isSensitiveHeaderName name = true) :
    name.dropWhile isWhitespace = name := by
  obtain ⟨hne, hall, -⟩ := key_of_headerName h
  cases name with
  | nil => rfl
  | cons c name =>
    have hc : isWhitespace c = false := by
      by_contra hspace
      have hnot := not_identifier_of_whitespace (by simpa using hspace)
      rw [hall c (List.mem_cons_self ..)] at hnot
      cases hnot
    rw [List.dropWhile_cons_of_neg (by simp [hc])]

/-- The header pass takes the line for a header line exactly when it starts as one. -/
theorem startsHeaderLine_iff {line h : List Char} (border : isBorder line.getLast? = true)
    (hh : isSensitiveHeaderName h = true) :
    isSensitiveHeaderName (headerName (line ++ h ++ [':'])) = true ↔ StartsHeaderLine line := by
  obtain ⟨hne, hall, -⟩ := key_of_headerName hh
  have hcolon : ':' ∉ h := fun hmem => absurd (hall ':' hmem) (by decide)
  by_cases hmem : ':' ∈ line
  · -- the first colon of the line stands before the header
    obtain ⟨front, back, rfl⟩ := List.append_of_mem hmem
    have hname : headerName (front ++ ':' :: back ++ h ++ [':']) =
        headerName (front ++ ':' :: back) := by
      rw [List.append_assoc, List.append_assoc, List.cons_append, headerName_colon,
        headerName_colon front back]
    rw [hname, StartsHeaderLine]
    constructor
    · exact fun hsensitive => Or.inr ⟨hmem, hsensitive⟩
    · rintro (hblank | ⟨-, hsensitive⟩)
      · exact absurd (hblank ':' hmem) (by decide)
      · exact hsensitive
  · have hfree : ':' ∉ line ++ h := by
      rw [List.mem_append]
      exact fun hor => hor.elim hmem hcolon
    rw [headerName_of_not_mem hfree]
    constructor
    · intro hsensitive
      left
      by_contra hvisible
      -- the name would go on from what stands before the header
      have hdrop : line.dropWhile isWhitespace ≠ [] := by
        intro hnil
        exact hvisible (List.dropWhile_eq_nil_iff.mp hnil)
      have hname : (line ++ h).dropWhile isWhitespace = line.dropWhile isWhitespace ++ h := by
        rw [List.dropWhile_append, if_neg]
        simpa using hdrop
      rw [hname] at hsensitive
      have hidentifier := (key_of_headerName hsensitive).2.1
      obtain ⟨front, hfront⟩ := List.dropWhile_suffix (l := line) isWhitespace
      obtain ⟨c, hlast⟩ := Option.ne_none_iff_exists'.mp
        (fun hnone => hdrop (List.getLast?_eq_none_iff.mp hnone))
      have hc := hidentifier c (List.mem_append_left _ (List.mem_of_getLast? hlast))
      rw [← hfront, List.getLast?_append, hlast, Option.some_or] at border
      simp [isBorder, hc] at border
    · rintro (hblank | ⟨hmem', -⟩)
      · have hnil : line.dropWhile isWhitespace = [] := List.dropWhile_eq_nil_iff.mpr hblank
        rw [List.dropWhile_append, if_pos (by simp [hnil]), headerName_name hh]
        exact hh
      · exact absurd hmem' hmem

/-! The passes over the text around the header. -/

section AroundHeader

variable {p h s : List Char}

theorem headers_around (hh : isSensitiveHeaderName h = true) (hs : ∀ c ∈ s.head?, c = '\n')
    {v : List Char} (hv : '\n' ∉ v) :
    redactSensitiveHeaders (p ++ (h ++ ':' :: ' ' :: v ++ s)) =
      earlierLines [] p ++ redactHeaderLine (lastLine [] p ++ h ++ ':' :: ' ' :: v) ++
        laterLines s := by
  have hword : '\n' ∉ h ++ ':' :: ' ' :: v := by
    intro hmem
    simp only [List.mem_append, List.mem_cons] at hmem
    rcases hmem with hmem | hmem | hmem | hmem
    · exact absurd ((key_of_headerName hh).2.1 _ hmem) (by decide)
    · exact absurd hmem (by decide)
    · exact absurd hmem (by decide)
    · exact hv hmem
  have hfirst : firstLine s = [] := by
    cases s with
    | nil => rfl
    | cons c s =>
      rw [hs c rfl, firstLine, List.takeWhile_cons_of_neg (by decide)]
  rw [redactSensitiveHeaders_split hword, hfirst, List.append_nil,
    List.append_assoc (lastLine [] p)]

/-- On a header line the value is hidden. -/
theorem hidden_on_header_line (hh : isSensitiveHeaderName h = true)
    (hs : ∀ c ∈ s.head?, c = '\n')
    (hline : isSensitiveHeaderName (headerName (lastLine [] p ++ h ++ [':'])) = true)
    {v₁ v₂ : List Char} (h₁ : '\n' ∉ v₁) (h₂ : '\n' ∉ v₂) :
    redactSensitiveHeaders (p ++ (h ++ ':' :: ' ' :: v₁ ++ s)) =
      redactSensitiveHeaders (p ++ (h ++ ':' :: ' ' :: v₂ ++ s)) := by
  rw [headers_around hh hs h₁, headers_around hh hs h₂, redactHeaderLine_colon, if_pos hline,
    redactHeaderLine_colon, if_pos hline]

/-- A digit behind a blank goes through the last two passes. -/
theorem digit_kept {digit : Char} (hdigit : digit = '1' ∨ digit = '2') {rest : List Char}
    (hrest : ∀ c ∈ rest.head?, c = '\n') (output : List Char) :
    ∃ after, redactSensitiveTokens (output ++ ' ' :: scan (some ' ') (digit :: rest)) =
      redactSensitiveTokens output ++ ' ' :: digit :: after ∧
        ∀ c ∈ after.head?, c = '\n' := by
  have hidentifier : isIdentifierByte digit = true ∧ isTokenByte digit = true ∧
      isSensitiveKey (normalizeKey [digit]) = false := by
    rcases hdigit with rfl | rfl
    · decide
    · decide
  have hborder : isBorder rest.head? = true := by
    cases hhead : rest.head? with
    | none => rfl
    | some c =>
      rw [hrest c hhead]
      decide
  have hkey : nextIdentifier (some ' ') ([digit] ++ rest) = some ([], [digit], rest) :=
    nextIdentifier_key (by decide) (by simp) (by simp [hidentifier.1]) hborder
  have hplain : secretValue [digit] rest = none := by
    rw [secretValue, hidentifier.2.2, if_neg (by decide)]
  have hscan : scan (some ' ') (digit :: rest) = digit :: scan none rest := by
    have h := scan_plain hkey hplain
    rw [scan_previous hborder _ none] at h
    exact h
  have hrun : ∀ c ∈ [digit], isTokenByte c = true := by simp [hidentifier.2.1]
  rw [hscan, redactSensitiveTokens, redactTokensFrom_append (by decide)]
  cases rest with
  | nil =>
    refine ⟨[], ?_, by simp⟩
    have hnil : scan none [] = [] := rfl
    rw [hnil, redactTokensFrom_run hrun, List.nil_append, redactToken_short (by simp)]
    rfl
  | cons c rest =>
    obtain rfl := hrest c rfl
    have hnewline : scan none ('\n' :: rest) = '\n' :: scan (some '\n') rest :=
      scan_append_none (rfl : nextIdentifier none ['\n'] = none) rest
    refine ⟨'\n' :: redactTokensFrom [] (scan (some '\n') rest), ?_, by simp⟩
    have hsplit := redactTokensFrom_append (c := '\n') (by decide) [] [digit]
      (scan (some '\n') rest)
    rw [redactTokensFrom_run hrun, List.nil_append, redactToken_short (by simp)] at hsplit
    rw [hnewline, ← List.singleton_append (x := digit), hsplit]
    rfl

/-- On any other line two values come out differently. -/
theorem shown_on_other_line (hh : isSensitiveHeaderName h = true) (hs : ∀ c ∈ s.head?, c = '\n')
    (hline : isSensitiveHeaderName (headerName (lastLine [] p ++ h ++ [':'])) = false) :
    ∃ v₁ v₂, IsHeaderValue v₁ ∧ IsHeaderValue v₂ ∧
      redactSensitiveTokens (redactSensitiveKeyValues
          (redactSensitiveHeaders (p ++ (h ++ ':' :: ' ' :: v₁ ++ s)))) ≠
        redactSensitiveTokens (redactSensitiveKeyValues
          (redactSensitiveHeaders (p ++ (h ++ ':' :: ' ' :: v₂ ++ s)))) := by
  -- `closer` ends every value that is open where the header's value starts
  obtain ⟨closer, output, hcloser, hscan⟩ :=
    scan_closes none (earlierLines [] p ++ (lastLine [] p ++ (h ++ [':', ' '])))
  have value : ∀ {digit : Char}, digit = '1' ∨ digit = '2' →
      IsHeaderValue (closer ++ [' ', digit]) := by
    intro digit hdigit
    have hbreak : ∀ c ∈ closer ++ [' ', digit], c ≠ '\n' ∧ c ≠ '\r' := by
      intro c hc
      rw [List.mem_append] at hc
      rcases hc with hc | hc
      · rcases hcloser.2 c hc with rfl | rfl | rfl | rfl | rfl <;> decide
      · simp only [List.mem_cons, List.not_mem_nil, or_false] at hc
        rcases hc with rfl | rfl
        · decide
        · rcases hdigit with rfl | rfl <;> decide
    refine ⟨⟨digit, by simp, ?_⟩, fun hmem => (hbreak _ hmem).1 rfl,
      fun hmem => (hbreak _ hmem).2 rfl⟩
    rcases hdigit with rfl | rfl <;> decide
  have shown : ∀ {digit : Char}, digit = '1' ∨ digit = '2' →
      ∃ after, redactSensitiveTokens (redactSensitiveKeyValues (redactSensitiveHeaders
        (p ++ (h ++ ':' :: ' ' :: (closer ++ [' ', digit]) ++ s)))) =
          redactSensitiveTokens output ++ ' ' :: digit :: after := by
    intro digit hdigit
    obtain ⟨after, hafter, -⟩ := digit_kept hdigit (head_laterLines s) output
    refine ⟨after, ?_⟩
    rw [headers_around hh hs (value hdigit).line.1, redactHeaderLine_colon,
      if_neg (by rw [hline]; decide), redactSensitiveKeyValues_eq, ← hafter, ← hscan]
    simp only [List.append_assoc, List.cons_append, List.nil_append]
  obtain ⟨after₁, hone⟩ := shown (Or.inl rfl)
  obtain ⟨after₂, htwo⟩ := shown (Or.inr rfl)
  refine ⟨_, _, value (Or.inl rfl), value (Or.inr rfl), ?_⟩
  rw [hone, htwo]
  intro heq
  have hcons := List.append_cancel_left heq
  rw [List.cons.injEq, List.cons.injEq] at hcons
  exact absurd hcons.2.1 (by decide)

end AroundHeader

/-- Two values of a sensitive header are never told apart exactly when only a blank or the start of
    a sensitive header stands before it on its line. -/
theorem redactSensitive_hides_header_iff (p h s : String)
    (hp : isBorder p.toList.getLast? = true) (hh : isSensitiveHeaderName h.toList = true)
    (hs : ∀ c ∈ s.toList.head?, c = '\n') :
    (∀ v₁ v₂ : String, IsHeaderValue v₁.toList → IsHeaderValue v₂.toList →
      redactSensitive (p ++ h ++ ": " ++ v₁ ++ s) =
        redactSensitive (p ++ h ++ ": " ++ v₂ ++ s)) ↔
      StartsHeaderLine (lastLine [] p.toList) := by
  have texts : ∀ v : String, (p ++ h ++ ": " ++ v ++ s).toList =
      p.toList ++ (h.toList ++ ':' :: ' ' :: v.toList ++ s.toList) := by
    intro v
    simp
  rw [← startsHeaderLine_iff (border_lastLine hp) hh]
  constructor
  · intro hsame
    by_contra hline
    obtain ⟨v₁, v₂, h₁, h₂, hne⟩ := shown_on_other_line (p := p.toList) hh hs (by simpa using hline)
    have heq := hsame (String.ofList v₁) (String.ofList v₂) (by simpa using h₁) (by simpa using h₂)
    refine hne ?_
    have hlists := congrArg String.toList heq
    simpa only [redactSensitive, texts, String.toList_ofList] using hlists
  · intro hline v₁ v₂ h₁ h₂
    rw [redactSensitive, redactSensitive, texts, texts,
      hidden_on_header_line hh hs hline h₁.line.1 h₂.line.1]

/-- A header on a line of its own. -/
theorem redactSensitive_hides_header_line :
    redactSensitive ("" ++ "Set-Cookie" ++ ": " ++ "a=1; Secure" ++ "\n") =
      redactSensitive ("" ++ "Set-Cookie" ++ ": " ++ "b=2; Lax" ++ "\n") :=
  (redactSensitive_hides_header_iff "" "Set-Cookie" "\n" (by decide) (by decide)
    (fun _ hc => (Option.some.inj hc).symm)).mpr (Or.inl (fun _ hc => (nomatch hc)))
    "a=1; Secure" "b=2; Lax" ⟨⟨'a', by decide, by decide⟩, by decide⟩
    ⟨⟨'b', by decide, by decide⟩, by decide⟩

/-- Inside of a line the words after the first one are shown. -/
theorem redactSensitive_shows_header :
    ¬ ∀ p h s v₁ v₂ : String, isBorder p.toList.getLast? = true →
      isSensitiveHeaderName h.toList = true → (∀ c ∈ s.toList.head?, c = '\n') →
      IsHeaderValue v₁.toList → IsHeaderValue v₂.toList →
      redactSensitive (p ++ h ++ ": " ++ v₁ ++ s) =
        redactSensitive (p ++ h ++ ": " ++ v₂ ++ s) := by
  intro hall
  have heq := hall "sent " "Authorization" "" "Bearer one" "Bearer two" (by decide) (by decide)
    (fun _ hc => (nomatch hc)) ⟨⟨'B', by decide, by decide⟩, by decide⟩
    ⟨⟨'B', by decide, by decide⟩, by decide⟩
  revert heq
  decide +kernel

end Sunbolt.Audit
