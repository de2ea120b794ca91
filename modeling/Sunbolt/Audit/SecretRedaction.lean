/- Module: Sunbolt/Audit/SecretRedaction
   scope: sunbolt-audit/src/redaction.rs
   digest: A generated secret survives the redactor exactly where it stands neither in a header, nor
     in a sensitive value, nor in a run of token bytes that is secret-shaped as a whole. -/

import Sunbolt.Audit.SecretScan

set_option autoImplicit false
set_option relaxedAutoImplicit false

namespace Sunbolt.Audit

open Sunbolt.Library

/-! The header pass. -/

/-- The text before this point ends on a header line, behind the header's colon. -/
def OnHeaderLine (front : List Char) : Prop :=
  ':' ∈ lastLine [] front ∧ isSensitiveHeaderName (headerName (lastLine [] front)) = true

/-- What the header pass leaves before a point of the text, and behind it. -/
def headersBefore (front : List Char) : List Char := earlierLines [] front ++ lastLine [] front

def headersBehind (back : List Char) : List Char := firstLine back ++ laterLines back

/-! A line and the lines behind it. -/

section Lines

variable {line : List Char}

private theorem lines_append (h : '\n' ∉ line) (start more : List Char) :
    lastLine start (line ++ more) = lastLine (start ++ line) more ∧
      earlierLines start (line ++ more) = earlierLines (start ++ line) more := by
  induction line generalizing start with
  | nil =>
    rw [List.append_nil]
    exact ⟨rfl, rfl⟩
  | cons c line ih =>
    rw [List.mem_cons, not_or] at h
    rw [List.cons_append, lastLine, earlierLines, if_neg (Ne.symm h.1), if_neg (Ne.symm h.1)]
    have hrest := ih h.2 (start ++ [c])
    rwa [List.append_assoc, List.singleton_append] at hrest

theorem lastLine_line (h : '\n' ∉ line) : lastLine [] line = line := lastLine_of_not_mem h

theorem headersBefore_line (h : '\n' ∉ line) : headersBefore line = line := by
  rw [headersBefore, earlierLines_of_not_mem h, lastLine_line h, List.nil_append]

theorem lastLine_newline (h : '\n' ∉ line) (front : List Char) :
    lastLine [] (line ++ '\n' :: front) = lastLine [] front := by
  rw [(lines_append h [] _).1, lastLine, if_pos rfl]

theorem headersBefore_newline (h : '\n' ∉ line) (front : List Char) :
    headersBefore (line ++ '\n' :: front) =
      redactHeaderLine line ++ '\n' :: headersBefore front := by
  rw [headersBefore, lastLine_newline h, (lines_append h [] _).2, earlierLines, if_pos rfl,
    List.nil_append, headersBefore, List.append_assoc, List.cons_append]

theorem headersBehind_line (h : '\n' ∉ line) {tail : List Char}
    (htail : ∀ c ∈ tail.head?, c = '\n') :
    headersBehind (line ++ tail) = line ++ headersBehind tail := by
  have hline : ∀ c ∈ line, (decide (c ≠ '\n')) = true := by
    intro c hc
    exact decide_eq_true fun heq => h (heq ▸ hc)
  have hfirst : firstLine tail = [] := by
    cases tail with
    | nil => rfl
    | cons c tail =>
      rw [firstLine, htail c rfl]
      rfl
  rw [headersBehind, headersBehind, hfirst, List.nil_append, firstLine, laterLines,
    List.takeWhile_append_of_pos hline, List.dropWhile_append_of_pos hline]
  rw [firstLine] at hfirst
  rw [hfirst, List.append_nil, laterLines]

private theorem rtakeWhile_lines (line text : List Char) :
    (earlierLines line text ++ lastLine line text).rtakeWhile isTokenByte =
      (line ++ text).rtakeWhile isTokenByte := by
  have newline : ∀ front : List Char, ∀ c ∈ (front ++ ['\n']).getLast?, isTokenByte c = false := by
    intro front c hc
    rw [List.getLast?_concat] at hc
    obtain rfl : '\n' = c := Option.some.inj hc
    decide
  induction text generalizing line with
  | nil => rw [earlierLines, lastLine, List.nil_append, List.append_nil]
  | cons c text ih =>
    rw [earlierLines, lastLine]
    split_ifs with hc
    · subst hc
      have hleft : redactHeaderLine line ++ '\n' :: earlierLines [] text ++ lastLine [] text =
          redactHeaderLine line ++ ['\n'] ++ (earlierLines [] text ++ lastLine [] text) := by
        simp only [List.append_assoc, List.cons_append, List.nil_append]
      have hright : line ++ '\n' :: text = line ++ ['\n'] ++ text := by
        simp only [List.append_assoc, List.singleton_append]
      rw [hleft, hright, rtakeWhile_append_stop (Or.inr (newline _)), ih [], List.nil_append,
        rtakeWhile_append_stop (Or.inr (newline _))]
    · rw [ih, List.append_assoc, List.singleton_append]

/-- The header pass does not change the run of token bytes that a word stands in. -/
theorem around_headers (before word behind : List Char) :
    around isTokenByte (headersBefore before) word (headersBehind behind) =
      around isTokenByte before word behind := by
  have hbehind : behind = firstLine behind ++ behind.dropWhile (· ≠ '\n') :=
    List.takeWhile_append_dropWhile.symm
  have hlater : ∀ c ∈ (laterLines behind).head?, isTokenByte c = false := by
    intro c hc
    rw [head_laterLines behind c hc]
    decide
  have hrest : ∀ c ∈ (behind.dropWhile (· ≠ '\n')).head?, isTokenByte c = false := by
    intro c hc
    have hends := List.head?_dropWhile_not (· ≠ '\n') behind
    rw [hc] at hends
    obtain rfl : c = '\n' := by simpa using hends
    decide
  have hfront := rtakeWhile_lines [] before
  rw [List.nil_append] at hfront
  rw [headersBehind, around_append_right (Or.inr hlater), around, headersBefore, hfront, around,
    hbehind, takeWhile_append_stop (Or.inr hrest), ← hbehind]

end Lines

theorem length_of_headerName {name : List Char} (h : isSensitiveHeaderName name = true) :
    name.length ≤ 13 := by
  have same : ∀ header : List Char, header.length ≤ 13 →
      eqIgnoreAsciiCase name header = true → name.length ≤ 13 := by
    intro header hheader heq
    have hmap : name.map toAsciiLowercase = header.map toAsciiLowercase := by
      simpa [eqIgnoreAsciiCase] using heq
    have hlength := congrArg List.length hmap
    rw [List.length_map, List.length_map] at hlength
    omega
  simp only [isSensitiveHeaderName, Bool.or_eq_true] at h
  rcases h with (h | h) | h
  · exact same _ (by decide) h
  · exact same _ (by decide) h
  · exact same _ (by decide) h

namespace SecretChars

variable {secret : List Char} (h : SecretChars secret)

include h

private theorem not_whitespace : ∀ c ∈ secret, isWhitespace c = false := by
  intro c hc
  by_contra hspace
  have hidentifier := not_identifier_of_whitespace (by simpa using hspace)
  rcases h.chars c hc with hex | rfl
  · rw [isIdentifierByte, isAsciiAlphanumeric_of_hex hex] at hidentifier
    cases hidentifier
  · cases hidentifier

private theorem length_le_dropWhile (front back : List Char) :
    secret.length ≤ ((front ++ secret ++ back).dropWhile isWhitespace).length := by
  induction front with
  | nil =>
    cases hsecret : secret with
    | nil => exact absurd hsecret h.ne_nil
    | cons c rest =>
      have hc : isWhitespace c = false := h.not_whitespace c (by rw [hsecret]; simp)
      rw [List.nil_append, List.cons_append, List.dropWhile_cons_of_neg (by simp [hc])]
      simp only [List.length_cons, List.length_append]
      omega
  | cons c front ih =>
    rw [List.cons_append, List.cons_append, List.dropWhile_cons]
    split_ifs
    · exact ih
    · simp only [List.length_cons, List.length_append]
      omega

/-- A hidden header line has no secret. -/
private theorem not_infix_hidden {name : List Char} (hname : isSensitiveHeaderName name = true)
    {indent : List Char} (hindent : ∀ c ∈ indent, isWhitespace c = true) :
    ¬secret <:+: indent ++ name ++ ": ".toList ++ redaction := by
  have hlong := h.long
  have short : ∀ text : List Char, text.length < 22 → ¬secret <:+: text := by
    intro text htext hinside
    have hle := hinside.length_le
    omega
  have hparts : indent ++ name ++ ": ".toList ++ redaction =
      indent ++ name ++ ':' :: (' ' :: redaction) := by
    rw [List.append_assoc (indent ++ name)]
    rfl
  rw [hparts, infix_separator h.ne_nil (h.not_mem (by decide) (by decide))]
  rintro (⟨front, back, hsplit⟩ | hmask)
  · have seam : ∀ c ∈ indent.getLast?, ∀ d ∈ name.head?, c ∈ secret → d ∉ secret := by
      intro c hc d _ hmem
      have hspace := hindent c (List.mem_of_getLast? hc)
      rw [h.not_whitespace c hmem] at hspace
      cases hspace
    rcases occurrence_of_seam hsplit.symm seam with ⟨more, hinside, -⟩ | ⟨more, hinside, -⟩
    · -- a secret is not blank
      obtain ⟨c, hc⟩ := List.exists_mem_of_ne_nil _ h.ne_nil
      have hspace := hindent c (by
        rw [hinside]
        exact List.mem_append_left _ (List.mem_append_right _ hc))
      rw [h.not_whitespace c hc] at hspace
      cases hspace
    · refine short name ?_ ⟨more, back, hinside.symm⟩
      have hle := length_of_headerName hname
      omega
  · exact short _ (by decide) hmask

/-- A line with a secret is kept unless it is a header line before the secret. -/
private theorem line_kept {front back : List Char}
    (hline : ¬(':' ∈ front ∧ isSensitiveHeaderName (headerName front) = true)) :
    redactHeaderLine (front ++ secret ++ back) = front ++ secret ++ back := by
  by_cases hcolon : ':' ∈ front
  · obtain ⟨before, after, rfl⟩ := List.append_of_mem hcolon
    rw [List.append_assoc, List.append_assoc, List.cons_append, redactHeaderLine_colon]
    refine if_neg fun hname => hline ⟨hcolon, ?_⟩
    rw [headerName_colon]
    exact hname
  by_cases hback : ':' ∈ back
  · obtain ⟨before, after, rfl, hbefore⟩ := List.eq_append_cons_of_mem hback
    have hfree : ':' ∉ front ++ secret ++ before := by
      simp only [List.mem_append, not_or]
      exact ⟨⟨hcolon, h.not_mem (by decide) (by decide)⟩, hbefore⟩
    rw [← List.append_assoc, redactHeaderLine_colon]
    refine if_neg fun hname => ?_
    -- the name would be as long as the secret
    rw [headerName_of_not_mem hfree] at hname
    have hshort := length_of_headerName hname
    have hlong := h.long
    have hle := h.length_le_dropWhile front before
    omega
  · refine redactHeaderLine_of_not_mem ?_
    simp only [List.mem_append, not_or]
    exact ⟨⟨hcolon, h.not_mem (by decide) (by decide)⟩, hback⟩

/-- A secret that is left of a line was in it, and not behind a header's colon. -/
private theorem line_shows {line front back : List Char}
    (hline : redactHeaderLine line = front ++ secret ++ back) :
    line = front ++ secret ++ back ∧
      ¬(':' ∈ front ∧ isSensitiveHeaderName (headerName front) = true) := by
  have blank : ∀ text : List Char, ∀ c ∈ text.takeWhile isWhitespace, isWhitespace c = true :=
    fun text c hc => List.mem_takeWhile_imp hc
  have hkept : line = front ++ secret ++ back := by
    rw [redactHeaderLine] at hline
    split_ifs at hline with hhidden
    · exact absurd ⟨front, back, hline.symm⟩ (h.not_infix_hidden hhidden.2 (blank line))
    · exact hline
  refine ⟨hkept, ?_⟩
  rintro ⟨hcolon, hname⟩
  obtain ⟨before, after, rfl⟩ := List.append_of_mem hcolon
  rw [headerName_colon] at hname
  rw [hkept, List.append_assoc, List.append_assoc, List.cons_append, redactHeaderLine_colon,
    if_pos hname] at hline
  refine h.not_infix_hidden hname (blank before) ⟨before ++ ':' :: after, back, ?_⟩
  rw [hline]
  simp only [List.append_assoc, List.cons_append]

private theorem newline_not_mem : '\n' ∉ secret := h.not_mem (by decide) (by decide)

/-- What the header pass shows of a secret it was given, at the same place. -/
theorem shown_by_headers {line text front back : List Char} (hline : '\n' ∉ line)
    (hshown : redactHeadersFrom line text = front ++ secret ++ back) :
    ∃ before behind, line ++ text = before ++ secret ++ behind ∧ ¬OnHeaderLine before ∧
      front = headersBefore before ∧ back = headersBehind behind := by
  -- a secret of the line that the text starts in
  have here : ∀ {line front back : List Char}, '\n' ∉ line →
      redactHeaderLine line = front ++ secret ++ back → ∀ tail, (∀ c ∈ tail.head?, c = '\n') →
      ∃ before behind, line ++ tail = before ++ secret ++ behind ∧ ¬OnHeaderLine before ∧
        front = headersBefore before ∧ back ++ headersBehind tail = headersBehind behind := by
    intro line front back hline hredacted tail htail
    obtain ⟨rfl, hname⟩ := h.line_shows hredacted
    simp only [List.mem_append, not_or] at hline
    obtain ⟨⟨hfront, -⟩, hback⟩ := hline
    refine ⟨front, back ++ tail, ?_, ?_, (headersBefore_line hfront).symm,
      (headersBehind_line hback htail).symm⟩
    · rw [List.append_assoc _ back]
    · rw [OnHeaderLine, lastLine_line hfront]
      exact hname
  induction text generalizing line front with
  | nil =>
    rw [redactHeadersFrom] at hshown
    obtain ⟨before, behind, hsplit, hheader, hbefore, hbehind⟩ := here hline hshown [] (by simp)
    refine ⟨before, behind, hsplit, hheader, hbefore, ?_⟩
    rw [← hbehind]
    exact (List.append_nil back).symm
  | cons c text ih =>
    rw [redactHeadersFrom] at hshown
    split_ifs at hshown with hc
    · subst hc
      rcases occurrence_of_separator h.ne_nil h.newline_not_mem hshown with
        ⟨more, hfirst, rfl⟩ | ⟨more, hrest, rfl⟩
      · have hnewline : ∀ c ∈ ('\n' :: text).head?, c = '\n' :=
          fun c hc => (Option.some.inj hc).symm
        exact here hline hfirst ('\n' :: text) hnewline
      · have hempty : '\n' ∉ ([] : List Char) := List.not_mem_nil
        obtain ⟨before, behind, hsplit, hheader, rfl, hbehind⟩ := ih hempty hrest
        rw [List.nil_append] at hsplit
        refine ⟨line ++ '\n' :: before, behind, ?_, ?_, ?_, hbehind⟩
        · rw [hsplit]
          simp only [List.append_assoc, List.cons_append]
        · rw [OnHeaderLine, lastLine_newline hline]
          exact hheader
        · rw [headersBefore_newline hline]
          simp only [List.append_assoc, List.singleton_append]
    · have hlonger : '\n' ∉ line ++ [c] := by
        simp only [List.mem_append, List.mem_singleton, not_or]
        exact ⟨hline, Ne.symm hc⟩
      obtain ⟨before, behind, hsplit, hrest⟩ := ih hlonger hshown
      rw [List.append_assoc, List.singleton_append] at hsplit
      exact ⟨before, behind, hsplit, hrest⟩

/-- A secret that is not on a header line is shown by the header pass at the same place. -/
theorem headers_show {before behind : List Char} (hheader : ¬OnHeaderLine before) :
    redactSensitiveHeaders (before ++ secret ++ behind) =
      headersBefore before ++ secret ++ headersBehind behind := by
  rw [List.append_assoc, redactSensitiveHeaders_split h.newline_not_mem, ← List.append_assoc,
    h.line_kept hheader, headersBefore, headersBehind]
  simp only [List.append_assoc]

end SecretChars

/-! The three passes. -/

/-- The key pass, on the text with its header lines masked, replaces a value that has this
    occurrence of a word in it. -/
def InSensitiveValue (text front back : List Char) : Prop :=
  ∃ before value after, Redacts none (redactSensitiveHeaders text) before value after ∧
    before <+: headersBefore front ∧ after <:+ headersBehind back

/-- One of the passes hides this occurrence of a word: it is in the value of a header or of a
    sensitive key, or its run of token bytes has the shape of a secret. -/
def Hides (text front word back : List Char) : Prop :=
  OnHeaderLine front ∨ InSensitiveValue text front back ∨
    isSensitiveToken (around isTokenByte front word back) = true

def HidesEvery (text word : String) : Prop :=
  ∀ front back, text.toList = front ++ word.toList ++ back →
    Hides text.toList front word.toList back

/-- A generated secret is not in the redacted text exactly when every occurrence of it is hidden
    by one of the passes. -/
theorem redactSensitive_hides_secret_iff (text secret : String) (h : IsSecret secret.toList) :
    ¬secret.toList <:+: (redactSensitive text).toList ↔ HidesEvery text secret := by
  have chars := h.secretChars
  have hnone : ∀ c ∈ ([] : List Char), isTokenByte c = true := fun c hc => (nomatch hc)
  have htokens := chars.infix_redactTokensFrom hnone
    (redactSensitiveKeyValues (redactSensitiveHeaders text.toList))
  have hkeys := chars.shows_scan none [] (redactSensitiveHeaders text.toList)
  rw [List.nil_append] at htokens hkeys
  rw [List.nil_append] at hkeys
  rw [redactSensitive, String.toList_ofList, redactSensitiveTokens, htokens,
    redactSensitiveKeyValues_eq, hkeys]
  constructor
  · intro hshows front back hsplit
    by_contra hhides
    rw [Hides, not_or, not_or] at hhides
    obtain ⟨hheader, hvalue, hrun⟩ := hhides
    refine hshows ⟨headersBefore front, headersBehind back, ?_, ?_, ?_⟩
    · rw [hsplit]
      exact chars.headers_show hheader
    · rw [around_headers]
      simpa using hrun
    · intro before value after hredacts hbefore hafter
      exact hvalue ⟨before, value, after, hredacts, hbefore, hafter⟩
  · rintro hhides ⟨front, back, hshown, hrun, hunredacted⟩
    have hempty : '\n' ∉ ([] : List Char) := List.not_mem_nil
    obtain ⟨before, behind, hsplit, hheader, rfl, rfl⟩ := chars.shown_by_headers hempty hshown
    rw [List.nil_append] at hsplit
    rw [around_headers] at hrun
    rcases hhides before behind hsplit with hline | ⟨first, value, last, hredacts, hfirst, hlast⟩ |
      hsensitive
    · exact hheader hline
    · exact hunredacted hredacts hfirst hlast
    · rw [hrun] at hsensitive
      cases hsensitive

/-- Enough digits for a session token. -/
private def digits : String := "0123456789abcdef0123456789abcdef0123456789abcdef0123456789abcdef"

private theorem isSecret_digits : IsSecret digits.toList :=
  Or.inl ⟨by decide +kernel, List.all_eq_true.mp (by decide +kernel)⟩

theorem redactSensitive_hides_digits : HidesEvery ("id=" ++ digits ++ " ok") digits :=
  (redactSensitive_hides_secret_iff _ _ isSecret_digits).mp (by decide +kernel)

/-- A colon before a token makes it part of a longer run, which is not secret-shaped. -/
theorem redactSensitive_shows_digits :
    ¬∀ text secret : String, IsSecret secret.toList →
      (∃ front back, text.toList = front ++ secret.toList ++ back ∧
        (∀ c ∈ front.getLast?, isAsciiAlphanumeric c = false) ∧
        ∀ c ∈ back.head?, isAsciiAlphanumeric c = false) →
      ¬secret.toList <:+: (redactSensitive text).toList := by
  intro hall
  have hcolon : ∀ c ∈ ['i', 'd', ':'].getLast?, isAsciiAlphanumeric c = false := by
    intro c hc
    obtain rfl : ':' = c := Option.some.inj hc
    decide
  refine hall ("id:" ++ digits) digits isSecret_digits
    ⟨['i', 'd', ':'], [], ?_, hcolon, fun c hc => (nomatch hc)⟩ ?_
  · decide +kernel
  · decide +kernel

end Sunbolt.Audit
