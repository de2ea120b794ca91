/- Module: Sunbolt/Audit/HeaderLines
   scope: sunbolt-audit/src/redaction.rs
   digest: The header pass, line by line, and what it makes of the line around a key. -/

import Sunbolt.Audit.KeyLoop

set_option autoImplicit false
set_option relaxedAutoImplicit false

namespace Sunbolt.Audit

/-! Lines. -/

/-- The line a text ends in, when it starts in `line`. -/
def lastLine (line : List Char) : List Char → List Char
  | [] => line
  | c :: rest => if c = '\n' then lastLine [] rest else lastLine (line ++ [c]) rest

/-- The lines before that one, as the header pass leaves them. -/
def earlierLines (line : List Char) : List Char → List Char
  | [] => []
  | c :: rest =>
    if c = '\n' then redactHeaderLine line ++ '\n' :: earlierLines [] rest
    else earlierLines (line ++ [c]) rest

def firstLine (text : List Char) : List Char := text.takeWhile (· ≠ '\n')

/-- The line break after the first line and what follows, as the header pass leaves it. -/
def laterLines (text : List Char) : List Char :=
  match text.dropWhile (· ≠ '\n') with
  | [] => []
  | _ :: rest => '\n' :: redactHeadersFrom [] rest

theorem redactHeadersFrom_append (line text more : List Char) :
    redactHeadersFrom line (text ++ more) =
      earlierLines line text ++ redactHeadersFrom (lastLine line text) more := by
  induction text generalizing line with
  | nil => rfl
  | cons c text ih =>
    rw [List.cons_append, redactHeadersFrom, earlierLines, lastLine]
    split_ifs
    · rw [ih, List.append_assoc, List.cons_append]
    · exact ih _

theorem lastLine_of_not_mem {line text : List Char} (h : '\n' ∉ text) :
    lastLine line text = line ++ text := by
  induction text generalizing line with
  | nil => rw [lastLine, List.append_nil]
  | cons c text ih =>
    rw [List.mem_cons, not_or] at h
    rw [lastLine, if_neg (Ne.symm h.1), ih h.2, List.append_assoc, List.singleton_append]

theorem earlierLines_of_not_mem {line text : List Char} (h : '\n' ∉ text) :
    earlierLines line text = [] := by
  induction text generalizing line with
  | nil => rfl
  | cons c text ih =>
    rw [List.mem_cons, not_or] at h
    rw [earlierLines, if_neg (Ne.symm h.1), ih h.2]

theorem redactHeadersFrom_eq (line text : List Char) :
    redactHeadersFrom line text =
      redactHeaderLine (line ++ firstLine text) ++ laterLines text := by
  induction text generalizing line with
  | nil => simp [redactHeadersFrom, firstLine, laterLines]
  | cons c text ih =>
    rw [redactHeadersFrom]
    by_cases hc : c = '\n'
    · subst hc
      simp [firstLine, laterLines]
    · simp [firstLine, laterLines, hc, ih]

theorem head_lines (text : List Char) : (firstLine text ++ laterLines text).head? = text.head? := by
  cases text with
  | nil => rfl
  | cons c text =>
    by_cases hc : c = '\n'
    · subst hc
      simp [firstLine, laterLines]
    · simp [firstLine, hc]

theorem head_laterLines (s : List Char) : ∀ c ∈ (laterLines s).head?, c = '\n' := by
  intro c hc
  rw [laterLines] at hc
  cases hdrop : s.dropWhile (· ≠ '\n') with
  | nil =>
    rw [hdrop] at hc
    cases hc
  | cons d rest =>
    rw [hdrop] at hc
    exact (Option.some.inj hc).symm

/-! One line. -/

def headerName (line : List Char) : List Char :=
  (line.dropWhile isWhitespace).takeWhile (· ≠ ':')

theorem colon_not_whitespace : isWhitespace ':' = false := by decide

/-- The name of a header and the blank before it end at the first colon of the line. -/
private theorem trim_colon (front back : List Char) :
    (front ++ ':' :: back).takeWhile isWhitespace = front.takeWhile isWhitespace ∧
      (front ++ ':' :: back).dropWhile isWhitespace =
        front.dropWhile isWhitespace ++ ':' :: back := by
  induction front with
  | nil => simp [colon_not_whitespace]
  | cons c front ih =>
    by_cases hc : isWhitespace c = true
    · simp [hc, ih.1, ih.2]
    · simp [hc]

private theorem takeWhile_colon (front back : List Char) :
    (front ++ ':' :: back).takeWhile (· ≠ ':') = (front ++ [':']).takeWhile (· ≠ ':') := by
  induction front with
  | nil => simp
  | cons c front ih =>
    by_cases hc : c = ':'
    · simp [hc]
    · simp only [List.cons_append, ne_eq, hc, not_false_eq_true, decide_true,
        List.takeWhile_cons_of_pos]
      simpa using ih

theorem headerName_colon (front back : List Char) :
    headerName (front ++ ':' :: back) = headerName (front ++ [':']) := by
  rw [headerName, (trim_colon front back).2, takeWhile_colon, headerName,
    (trim_colon front []).2]

/-- What the header pass makes of a line does not depend on what follows its first colon. -/
theorem redactHeaderLine_colon (front back : List Char) :
    redactHeaderLine (front ++ ':' :: back) =
      if isSensitiveHeaderName (headerName (front ++ [':'])) then
        front.takeWhile isWhitespace ++ headerName (front ++ [':']) ++ ": ".toList ++ redaction
      else front ++ ':' :: back := by
  have hmem : ':' ∈ (front ++ ':' :: back).dropWhile isWhitespace := by
    rw [(trim_colon front back).2]
    simp
  have hname : ((front ++ ':' :: back).dropWhile isWhitespace).takeWhile (· ≠ ':') =
      headerName (front ++ [':']) := headerName_colon front back
  simp only [redactHeaderLine, (trim_colon front back).1, hname, hmem, true_and]

theorem redactHeaderLine_of_not_mem {line : List Char} (h : ':' ∉ line) :
    redactHeaderLine line = line := by
  rw [redactHeaderLine]
  refine if_neg fun hcolon => h ?_
  exact (List.dropWhile_sublist _).subset hcolon.1

private theorem toNat_lower {c : Char} (h : 'A' ≤ c ∧ c ≤ 'Z') :
    97 ≤ (toAsciiLowercase c).toNat := by
  have hlow : 65 ≤ c.toNat := h.1
  have hhigh : c.toNat ≤ 90 := h.2
  have hvalid : (c.toNat + 32).isValidChar := Or.inl (by omega)
  rw [toAsciiLowercase, if_pos h, Char.ofNat, dif_pos hvalid]
  change 97 ≤ c.toNat + 32
  omega

/-- The key that a name is compared as, letter by letter. -/
private theorem normalizeKey_eq (name : List Char) :
    normalizeKey name = (name.map toAsciiLowercase).map (fun c => if c = '-' then '_' else c) := by
  rw [normalizeKey, List.map_map]
  refine List.map_congr_left fun c _ => ?_
  by_cases hc : c = '-'
  · rw [hc]
    rfl
  · have hlower : toAsciiLowercase c ≠ '-' := by
      by_cases hupper : 'A' ≤ c ∧ c ≤ 'Z'
      · intro heq
        have hle := toNat_lower hupper
        rw [heq] at hle
        exact absurd hle (by decide)
      · rwa [toAsciiLowercase, if_neg hupper]
    rw [if_neg hc, Function.comp_apply, if_neg hlower]

private theorem isIdentifierByte_of_lower {c : Char}
    (h : isIdentifierByte (toAsciiLowercase c) = true) : isIdentifierByte c = true := by
  by_cases hupper : 'A' ≤ c ∧ c ≤ 'Z'
  · simp [isIdentifierByte, isAsciiAlphanumeric, hupper.1, hupper.2]
  · rwa [toAsciiLowercase, if_neg hupper] at h

/-- The name of a sensitive header is a sensitive key. -/
theorem key_of_headerName {name : List Char} (h : isSensitiveHeaderName name = true) :
    name ≠ [] ∧ (∀ c ∈ name, isIdentifierByte c = true) ∧
      isSensitiveKey (normalizeKey name) = true := by
  have key : ∀ header : List Char, header ≠ [] →
      (∀ c ∈ header.map toAsciiLowercase, isIdentifierByte c = true) →
      isSensitiveKey (normalizeKey header) = true → eqIgnoreAsciiCase name header = true →
      name ≠ [] ∧ (∀ c ∈ name, isIdentifierByte c = true) ∧
        isSensitiveKey (normalizeKey name) = true := by
    intro header hne hall hkey heq
    have hmap : name.map toAsciiLowercase = header.map toAsciiLowercase := by
      simpa [eqIgnoreAsciiCase] using heq
    refine ⟨?_, ?_, ?_⟩
    · rintro rfl
      exact hne (List.map_eq_nil_iff.mp hmap.symm)
    · intro c hc
      refine isIdentifierByte_of_lower (hall _ ?_)
      rw [← hmap]
      exact List.mem_map_of_mem hc
    · rw [normalizeKey_eq, hmap, ← normalizeKey_eq]
      exact hkey
  simp only [isSensitiveHeaderName, Bool.or_eq_true] at h
  rcases h with (h | h) | h
  · exact key _ (by decide) (List.all_eq_true.mp (by decide)) (by decide) h
  · exact key _ (by decide) (List.all_eq_true.mp (by decide)) (by decide) h
  · exact key _ (by decide) (List.all_eq_true.mp (by decide)) (by decide) h

private theorem toNat_identifier {c : Char} (h : isIdentifierByte c = true) :
    45 ≤ c.toNat ∧ c.toNat ≤ 122 := by
  have range : ∀ {low high : Char}, low ≤ c ∧ c ≤ high → 45 ≤ low.toNat → high.toNat ≤ 122 →
      45 ≤ c.toNat ∧ c.toNat ≤ 122 :=
    fun hc hlow hhigh => ⟨Nat.le_trans hlow hc.1, Nat.le_trans hc.2 hhigh⟩
  simp only [isIdentifierByte, isAsciiAlphanumeric, Bool.or_eq_true, Bool.and_eq_true,
    decide_eq_true_eq] at h
  rcases h with (((h | h) | h) | rfl) | rfl
  · exact range h (by decide) (by decide)
  · exact range h (by decide) (by decide)
  · exact range h (by decide) (by decide)
  · decide
  · decide

theorem not_identifier_of_whitespace {c : Char} (h : isWhitespace c = true) :
    isIdentifierByte c = false := by
  by_contra hidentifier
  have hrange := toNat_identifier (by simpa using hidentifier)
  simp only [isWhitespace, Bool.or_eq_true, Bool.and_eq_true, decide_eq_true_eq] at h
  omega

/-- The name of a header line is an identifier of it. -/
theorem found_headerName {line : List Char} (hcolon : ':' ∈ line)
    (h : isSensitiveHeaderName (headerName line) = true) :
    ∃ back, Found none line (line.takeWhile isWhitespace) (headerName line) (':' :: back) := by
  obtain ⟨hne, hall, -⟩ := key_of_headerName h
  obtain ⟨front, back, rfl⟩ := List.append_of_mem hcolon
  have htrim := (trim_colon front back).2
  -- what stands behind the name starts with the colon
  obtain ⟨rest, hrest⟩ : ∃ rest,
      ((front ++ ':' :: back).dropWhile isWhitespace).dropWhile (· ≠ ':') = ':' :: rest := by
    cases hdrop : ((front ++ ':' :: back).dropWhile isWhitespace).dropWhile (· ≠ ':') with
    | nil =>
      have hmem : ':' ∈ (front ++ ':' :: back).dropWhile isWhitespace := by
        rw [htrim]
        simp
      have hgone := List.dropWhile_eq_nil_iff.mp hdrop ':' hmem
      simp at hgone
    | cons c rest =>
      have hhead := List.head?_dropWhile_not (· ≠ ':')
        ((front ++ ':' :: back).dropWhile isWhitespace)
      rw [hdrop] at hhead
      have hc : c = ':' := by simpa using hhead
      rw [hc]
      exact ⟨rest, rfl⟩
  refine ⟨rest, ?_, hne, hall, ?_, rfl⟩
  · rw [← hrest, headerName, List.append_assoc, List.takeWhile_append_dropWhile,
      List.takeWhile_append_dropWhile]
  · -- only whitespace stands before it
    cases hlast : ((front ++ ':' :: back).takeWhile isWhitespace).getLast? with
    | none => rw [endOf, hlast]; rfl
    | some c =>
      have hspace := List.mem_takeWhile_imp (List.mem_of_getLast? hlast)
      rw [endOf, hlast, Option.some_or, isBorder, Option.any_some,
        not_identifier_of_whitespace hspace]
      rfl

theorem redactHeaderLine_free {line more : List Char} (free : NoSensitiveKey none (line ++ more)) :
    redactHeaderLine line = line := by
  by_cases hcolon : ':' ∈ line
  · obtain ⟨front, back, rfl⟩ := List.append_of_mem hcolon
    rw [redactHeaderLine_colon]
    refine if_neg fun hname => ?_
    rw [← headerName_colon front back] at hname
    obtain ⟨rest, hfound⟩ := found_headerName hcolon hname
    have hsplit := congrArg (· ++ more) hfound.split
    have hkey := free _ _ (':' :: (rest ++ more))
      ⟨by simpa only [List.append_assoc, List.cons_append] using hsplit, hfound.nonempty,
        hfound.all, hfound.before, rfl⟩
    rw [(key_of_headerName hname).2.2] at hkey
    cases hkey
  · exact redactHeaderLine_of_not_mem hcolon

/-- A text without sensitive keys has no header line either. -/
theorem lines_free {line text : List Char} (free : NoSensitiveKey none (line ++ text)) :
    earlierLines line text ++ lastLine line text = line ++ text := by
  induction text generalizing line with
  | nil => rw [earlierLines, lastLine, List.nil_append, List.append_nil]
  | cons c text ih =>
    rw [earlierLines, lastLine]
    split_ifs with hc
    · subst hc
      have hrest : NoSensitiveKey none ([] ++ text) := by
        intro front key back hfound
        refine free (line ++ '\n' :: front) key back
          ⟨?_, hfound.nonempty, hfound.all, ?_, hfound.after⟩
        · rw [show text = front ++ key ++ back from hfound.split]
          simp only [List.append_assoc, List.cons_append]
        · rw [endOf_append, endOf_cons]
          cases front with
          | nil => rfl
          | cons d front =>
            rw [endOf_cons]
            have hbefore := hfound.before
            rwa [endOf_cons] at hbefore
      rw [redactHeaderLine_free free, List.append_assoc, List.cons_append, ih hrest,
        List.nil_append]
    · rw [ih, List.append_assoc, List.singleton_append]
      rw [List.append_assoc, List.singleton_append]
      exact free

/-! The line around a key. -/

theorem redactSensitiveHeaders_split {word : List Char} (h : '\n' ∉ word) (front rest : List Char) :
    redactSensitiveHeaders (front ++ (word ++ rest)) =
      earlierLines [] front ++
        redactHeaderLine (lastLine [] front ++ (word ++ firstLine rest)) ++ laterLines rest := by
  rw [redactSensitiveHeaders, redactHeadersFrom_append, redactHeadersFrom_append,
    earlierLines_of_not_mem h, lastLine_of_not_mem h, List.nil_append, redactHeadersFrom_eq,
    List.append_assoc, List.append_assoc]

theorem headerName_of_not_mem {front : List Char} (h : ':' ∉ front) :
    headerName (front ++ [':']) = front.dropWhile isWhitespace := by
  rw [headerName, (trim_colon front []).2]
  have hall : ∀ c ∈ front.dropWhile isWhitespace, (decide (c ≠ ':')) = true := by
    intro c hc
    have hmem : c ∈ front := (List.dropWhile_sublist _).subset hc
    exact decide_eq_true fun heq => h (heq ▸ hmem)
  rw [List.takeWhile_append_of_pos hall]
  simp

/-- A key and its delimiter decide what becomes of their line: it is hidden from the first colon
    on, or it is kept, whatever follows. -/
theorem redactHeaderLine_cut {delimiter : Char} (hd : delimiter = ':' ∨ delimiter = '=')
    (front : List Char) :
    (∃ hidden, ∀ back, redactHeaderLine (front ++ delimiter :: back) = hidden) ∨
      ∀ back, redactHeaderLine (front ++ delimiter :: back) = front ++ delimiter :: back := by
  have colon : ∀ before, (∃ hidden, ∀ back, redactHeaderLine (before ++ ':' :: back) = hidden) ∨
      ∀ back, redactHeaderLine (before ++ ':' :: back) = before ++ ':' :: back := by
    intro before
    by_cases hname : isSensitiveHeaderName (headerName (before ++ [':'])) = true
    · exact Or.inl ⟨_, fun back => by rw [redactHeaderLine_colon, if_pos hname]⟩
    · exact Or.inr fun back => by rw [redactHeaderLine_colon, if_neg hname]
  rcases hd with rfl | rfl
  · exact colon front
  by_cases hcolon : ':' ∈ front
  · obtain ⟨before, after, rfl⟩ := List.append_of_mem hcolon
    rcases colon before with ⟨hidden, h⟩ | h
    · refine Or.inl ⟨hidden, fun back => ?_⟩
      rw [List.append_assoc, List.cons_append]
      exact h _
    · refine Or.inr fun back => ?_
      rw [List.append_assoc, List.cons_append]
      exact h _
  · refine Or.inr fun back => ?_
    by_cases hback : ':' ∈ back
    · obtain ⟨before, after, rfl, hbefore⟩ := List.eq_append_cons_of_mem hback
      rw [← List.cons_append, ← List.append_assoc, redactHeaderLine_colon]
      refine if_neg fun hname => ?_
      -- the name would have the equals sign in it
      have hfree : ':' ∉ front ++ '=' :: before := by
        simp [hcolon, hbefore]
      rw [headerName_of_not_mem hfree] at hname
      have hequals : '=' ∈ (front ++ '=' :: before).dropWhile isWhitespace := by
        have hdrop : ∀ front : List Char,
            '=' ∈ (front ++ '=' :: before).dropWhile isWhitespace := by
          intro front
          induction front with
          | nil =>
            rw [List.nil_append, List.dropWhile_cons_of_neg (by decide)]
            exact List.mem_cons_self ..
          | cons c front ih =>
            rw [List.cons_append, List.dropWhile_cons]
            split_ifs
            · exact ih
            · simp
        exact hdrop front
      have hidentifier := (key_of_headerName hname).2.1 '=' hequals
      exact absurd hidentifier (by decide)
    · exact redactHeaderLine_of_not_mem (by simp [hcolon, hback])

end Sunbolt.Audit
