/- Module: Sunbolt/Audit/MaskedHeaders
   scope: sunbolt-audit/src/redaction.rs
   digest: Texts that the header pass has nothing more to hide in. -/

import Sunbolt.Audit.HeaderRedaction
import Sunbolt.Audit.Masks

set_option autoImplicit false
set_option relaxedAutoImplicit false

namespace Sunbolt.Audit

/-- A sensitive header at the start of a line has nothing but the marker behind it. -/
def LineMasked (text : List Char) : Prop :=
  ∀ indent name rest, text = indent ++ name ++ ':' :: rest →
    (∀ c ∈ indent, isWhitespace c = true ∧ c ≠ '\n') → isSensitiveHeaderName name = true →
    ∃ after, rest = ' ' :: redaction ++ after ∧ ∀ c ∈ after.head?, c = '\n'

/-- That holds of every line; `start` says whether the text is at the start of one. -/
def HeadersMasked : Bool → List Char → Prop
  | start, [] => start = true → LineMasked []
  | start, c :: text =>
    (start = true → LineMasked (c :: text)) ∧ HeadersMasked (c = '\n') text

/-- What the pass leaves of a sensitive header with nothing but the marker behind it. -/
def Pass.KeepsHeaders (pass : Pass) : Prop :=
  ∀ previous name rest masked, isBorder previous = true → isSensitiveHeaderName name = true →
    (∀ c ∈ rest.head?, c = '\n') →
    pass.Masks previous (name ++ ':' :: ' ' :: redaction ++ rest) masked →
    ∃ rest', masked = name ++ ':' :: ' ' :: redaction ++ rest' ∧ ∀ c ∈ rest'.head?, c = '\n'

section Headers

variable {pass : Pass} {previous : Option Char} {text masked : List Char} {start : Bool}

theorem border_endOf_indent {indent : List Char} (border : isBorder previous = true)
    (blank : ∀ c ∈ indent, isWhitespace c = true) : isBorder (endOf previous indent) = true := by
  cases hlast : indent.getLast? with
  | none =>
    rw [List.getLast?_eq_none_iff] at hlast
    rwa [hlast]
  | some c =>
    have hspace := not_identifier_of_whitespace (blank c (List.mem_of_getLast? hlast))
    simp [endOf, hlast, isBorder, hspace]

theorem whitespace_plain {c : Char} (h : isWhitespace c = true) :
    isIdentifierByte c = false ∧ c ≠ '[' := by
  refine ⟨not_identifier_of_whitespace h, ?_⟩
  rintro rfl
  exact absurd h (by decide)

theorem LineMasked.mask (keeps : pass.KeepsHeaders) (line : LineMasked text)
    (border : isBorder previous = true) (h : pass.Masks previous text masked) :
    LineMasked masked := by
  intro indent name rest hmasked hindent hname
  rw [hmasked, List.append_assoc] at h
  obtain ⟨text, rfl, hname'⟩ := h.of_append fun c hc => whitespace_plain (hindent c hc).1
  obtain ⟨hne, hall, -⟩ := key_of_headerName hname
  obtain ⟨rest', rfl⟩ := hname'.name_kept hne hall
  obtain ⟨after, rfl, hafter⟩ := line indent name rest' (List.append_assoc _ _ _).symm hindent
    hname
  obtain ⟨after', heq, hafter'⟩ := keeps _ name after _
    (border_endOf_indent border fun c hc => (hindent c hc).1) hname hafter
    (by simpa only [List.append_assoc, List.cons_append] using hname')
  refine ⟨after', ?_, hafter'⟩
  have hrest := List.append_cancel_left (heq.trans (List.append_assoc _ _ _))
  exact (List.cons.inj hrest).2

/-- No header starts in front of a marker with nothing but punctuation before it. -/
theorem LineMasked.of_marker {before : List Char}
    (plain : ∀ c ∈ before, isIdentifierByte c = false ∧ c ≠ '[') (rest : List Char) :
    LineMasked (before ++ redaction ++ rest) := by
  intro indent name back hsplit hindent hname
  obtain ⟨hne, hall, -⟩ := key_of_headerName hname
  exfalso
  obtain ⟨first, name, rfl⟩ := List.exists_cons_of_ne_nil hne
  have hfirst := hall first (List.mem_cons_self ..)
  have hbracket : isIdentifierByte '[' = false := by decide
  -- the first character of the name is the first of an identifier in the text
  have hplain : ∀ c ∈ before, (!isIdentifierByte c && c ≠ '[') = true := by
    intro c hc
    obtain ⟨hc, hne⟩ := plain c hc
    simp [hc, hne]
  have hblank : ∀ c ∈ indent, (!isIdentifierByte c && c ≠ '[') = true := by
    intro c hc
    obtain ⟨hc, hne⟩ := whitespace_plain (hindent c hc).1
    simp [hc, hne]
  have hdrop := congrArg (List.dropWhile (fun c => !isIdentifierByte c && c ≠ '[')) hsplit
  have hmarker : redaction = '[' :: "REDACTED]".toList := rfl
  rw [List.append_assoc, List.dropWhile_append_of_pos hplain, List.append_assoc,
    List.dropWhile_append_of_pos hblank, hmarker, List.cons_append, List.cons_append,
    List.dropWhile_cons_of_neg (by decide), List.dropWhile_cons_of_neg (by simp [hfirst]),
    List.cons.injEq] at hdrop
  rw [← hdrop.1] at hfirst
  exact absurd hfirst (by decide)

theorem HeadersMasked.weaken (h : HeadersMasked start text) : HeadersMasked false text := by
  cases text with
  | nil => exact fun hstart => nomatch hstart
  | cons c text => exact ⟨fun hstart => (nomatch hstart), h.2⟩

theorem HeadersMasked.drop {front : List Char} (h : HeadersMasked start (front ++ text)) :
    HeadersMasked false text := by
  induction front generalizing start with
  | nil => exact h.weaken
  | cons c front ih => exact ih h.2

theorem HeadersMasked.start_iff :
    HeadersMasked start text ↔ (start = true → LineMasked text) ∧ HeadersMasked false text := by
  cases text with
  | nil => exact ⟨fun h => ⟨h, fun hfalse => (nomatch hfalse)⟩, fun h => h.1⟩
  | cons c text =>
    exact ⟨fun h => ⟨h.1, fun hfalse => (nomatch hfalse), h.2⟩, fun h => ⟨h.1, h.2.2⟩⟩

theorem HeadersMasked.of_line {front : List Char} (line : '\n' ∉ front)
    (first : start = true → LineMasked (front ++ text)) (rest : HeadersMasked false text) :
    HeadersMasked start (front ++ text) := by
  induction front generalizing start with
  | nil => exact start_iff.mpr ⟨first, rest⟩
  | cons c front ih =>
    rw [List.mem_cons, not_or] at line
    refine ⟨first, ih line.2 fun hstart => ?_⟩
    exact absurd (of_decide_eq_true hstart).symm line.1

/-- The lines that start between a key and its marker are none of a header. -/
theorem HeadersMasked.of_marker {key before : List Char}
    (identifier : ∀ c ∈ key, isIdentifierByte c = true)
    (plain : ∀ c ∈ before, isIdentifierByte c = false ∧ c ≠ '[')
    (first : start = true → LineMasked (key ++ before ++ redaction ++ text))
    (rest : HeadersMasked false text) :
    HeadersMasked start (key ++ before ++ redaction ++ text) := by
  have hkey : '\n' ∉ key := fun hmem => absurd (identifier _ hmem) (by decide)
  have behind : ∀ start before, (∀ c ∈ before, isIdentifierByte c = false ∧ c ≠ '[') →
      HeadersMasked start (before ++ redaction ++ text) := by
    intro start before plain
    induction before generalizing start with
    | nil =>
      have hplain : ∀ c ∈ ([] : List Char), isIdentifierByte c = false ∧ c ≠ '[' :=
        fun c hc => (nomatch hc)
      exact HeadersMasked.of_line (by decide) (fun _ => LineMasked.of_marker hplain text) rest
    | cons c before ih =>
      exact ⟨fun _ => LineMasked.of_marker plain text,
        ih _ fun d hd => plain d (List.mem_cons_of_mem _ hd)⟩
  have hassoc : key ++ before ++ redaction ++ text = key ++ (before ++ redaction ++ text) := by
    simp only [List.append_assoc]
  rw [hassoc] at first ⊢
  exact HeadersMasked.of_line hkey first (behind false before plain)

/-- A pass that keeps masked headers makes no new ones. -/
theorem HeadersMasked.mask (keeps : pass.KeepsHeaders) (h : pass.Masks previous text masked)
    (border : start = true → isBorder previous = true) (headers : HeadersMasked start text) :
    HeadersMasked start masked := by
  induction h generalizing start with
  | nil => exact headers
  | @keep previous c text masked kept rest ih =>
    refine ⟨fun hstart => (headers.1 hstart).mask keeps (border hstart) (.keep kept rest),
      ih (fun hc => ?_) headers.2⟩
    rw [of_decide_eq_true hc]
    decide
  | mask hborder hides rest ih =>
    refine HeadersMasked.of_marker (pass.key hides) (pass.before hides) (fun hstart => ?_)
      (ih (fun hfalse => (nomatch hfalse)) headers.drop)
    exact (start_iff.mp headers).1 hstart |>.mask keeps (border hstart) (.mask hborder hides rest)

end Headers

/-! The header pass. -/

/-- The two ways to split a line at its first colon agree. -/
private theorem colon_split {front front' back back' : List Char} (h : ':' ∉ front)
    (h' : ':' ∉ front') (heq : front ++ ':' :: back = front' ++ ':' :: back') :
    front = front' ∧ back = back' := by
  have free : ∀ {l : List Char}, ':' ∉ l → ∀ c ∈ l, (decide (c ≠ ':')) = true :=
    fun hl c hc => decide_eq_true fun hcolon => hl (hcolon ▸ hc)
  have hboth := congrArg (fun l => (l.takeWhile (· ≠ ':'), l.dropWhile (· ≠ ':'))) heq
  simp only [takeWhile_cut (free h) (by decide : decide (':' ≠ ':') = false),
    takeWhile_cut (free h') (by decide : decide (':' ≠ ':') = false), Prod.mk.injEq,
    List.cons.injEq] at hboth
  exact ⟨hboth.1, hboth.2.2⟩

private theorem newline_split {front front' back back' : List Char} (h : '\n' ∉ front)
    (h' : '\n' ∉ front') (hback : ∀ c ∈ back.head?, c = '\n')
    (hback' : ∀ c ∈ back'.head?, c = '\n') (heq : front ++ back = front' ++ back') :
    front = front' ∧ back = back' := by
  have free : ∀ {l : List Char}, '\n' ∉ l → ∀ c ∈ l, (decide (c ≠ '\n')) = true :=
    fun hl c hc => decide_eq_true fun hbreak => hl (hbreak ▸ hc)
  have stops : ∀ {l : List Char}, (∀ c ∈ l.head?, c = '\n') →
      l.takeWhile (· ≠ '\n') = [] := by
    rintro (_ | ⟨c, l⟩) hl
    · rfl
    · rw [hl c rfl]
      rfl
  have htake := congrArg (List.takeWhile (· ≠ '\n')) heq
  rw [List.takeWhile_append_of_pos (free h), stops hback,
    List.takeWhile_append_of_pos (free h'), stops hback', List.append_nil,
    List.append_nil] at htake
  subst htake
  exact ⟨rfl, List.append_cancel_left heq⟩

private theorem hidden_value : ": ".toList ++ redaction = ':' :: ' ' :: redaction := rfl

section HeaderPass

variable {indent name rest : List Char}

private theorem colon_free (blank : ∀ c ∈ indent, isWhitespace c = true)
    (sensitive : isSensitiveHeaderName name = true) : ':' ∉ indent ++ name := by
  rw [List.mem_append]
  rintro (hmem | hmem)
  · exact absurd (blank _ hmem) (by decide)
  · exact absurd ((key_of_headerName sensitive).2.1 _ hmem) (by decide)

theorem headerName_indent (blank : ∀ c ∈ indent, isWhitespace c = true)
    (sensitive : isSensitiveHeaderName name = true) :
    headerName (indent ++ name ++ [':']) = name := by
  rw [headerName_of_not_mem (colon_free blank sensitive), List.dropWhile_append_of_pos blank,
    headerName_name sensitive]

theorem newline_redactHeaderLine {line : List Char} (one : '\n' ∉ line) :
    '\n' ∉ redactHeaderLine line := by
  rw [redactHeaderLine]
  split_ifs
  · simp only [List.mem_append, not_or]
    refine ⟨⟨⟨fun hmem => ?_, fun hmem => ?_⟩, by decide⟩, by decide⟩
    · exact one ((List.takeWhile_sublist _).subset hmem)
    · exact one ((List.dropWhile_sublist _).subset ((List.takeWhile_sublist _).subset hmem))
  · exact one

/-- What the header pass makes of a line has nothing more to hide. -/
theorem lineMasked_redactHeaderLine {line tail : List Char} (one : '\n' ∉ line)
    (stops : ∀ c ∈ tail.head?, c = '\n') : LineMasked (redactHeaderLine line ++ tail) := by
  intro indent name rest hsplit hindent hname
  have hblank : ∀ c ∈ indent, isWhitespace c = true := fun c hc => (hindent c hc).1
  have hfree := colon_free hblank hname
  -- the header lies on the line
  obtain ⟨rest', hline, rfl⟩ : ∃ rest', redactHeaderLine line = indent ++ name ++ ':' :: rest' ∧
      rest = rest' ++ tail := by
    rcases List.append_eq_append_iff.mp hsplit with ⟨mid, hmid, htail⟩ | ⟨mid, hline, hmid⟩
    · exfalso
      cases mid with
      | nil =>
        rw [List.nil_append] at htail
        exact absurd (stops ':' (by rw [htail]; rfl)) (by decide)
      | cons d mid =>
        have hd : d = '\n' := stops d (by rw [htail]; rfl)
        have hmem : '\n' ∈ indent ++ name := by
          rw [hmid, ← hd]
          exact List.mem_append_right _ (List.mem_cons_self ..)
        rcases List.mem_append.mp hmem with hmem | hmem
        · exact (hindent _ hmem).2 rfl
        · exact absurd ((key_of_headerName hname).2.1 _ hmem) (by decide)
    · cases mid with
      | nil =>
        rw [List.nil_append] at hmid
        exact absurd (stops ':' (by rw [← hmid]; rfl)) (by decide)
      | cons d mid =>
        rw [List.cons_append, List.cons.injEq] at hmid
        obtain ⟨rfl, rfl⟩ := hmid
        exact ⟨mid, hline, rfl⟩
  by_cases hcolon : ':' ∈ line
  · obtain ⟨front, back, rfl, hfront⟩ := List.eq_append_cons_of_mem hcolon
    rw [redactHeaderLine_colon] at hline
    split_ifs at hline with hsensitive
    · have hspaces : ∀ c ∈ front.takeWhile isWhitespace, isWhitespace c = true :=
        fun c hc => List.mem_takeWhile_imp hc
      have hlist : front.takeWhile isWhitespace ++ headerName (front ++ [':']) ++ ": ".toList ++
          redaction = front.takeWhile isWhitespace ++ headerName (front ++ [':']) ++
            ':' :: (' ' :: redaction) := by
        rw [List.append_assoc, hidden_value]
      rw [hlist] at hline
      obtain ⟨-, rfl⟩ := colon_split (colon_free hspaces hsensitive) hfree hline
      exact ⟨tail, rfl, stops⟩
    · obtain ⟨rfl, -⟩ := colon_split hfront hfree hline
      rw [headerName_indent hblank hname] at hsensitive
      exact absurd hname hsensitive
  · exfalso
    rw [redactHeaderLine_of_not_mem hcolon] at hline
    rw [hline] at hcolon
    exact hcolon (List.mem_append_right _ (List.mem_cons_self ..))

theorem headersMasked_redactHeaders {line : List Char} (one : '\n' ∉ line) (text : List Char) :
    HeadersMasked true (redactHeadersFrom line text) := by
  induction text generalizing line with
  | nil =>
    rw [redactHeadersFrom, ← List.append_nil (redactHeaderLine line)]
    exact HeadersMasked.of_line (newline_redactHeaderLine one)
      (fun _ => lineMasked_redactHeaderLine one fun c hc => by cases hc)
      (fun hfalse => by cases hfalse)
  | cons c text ih =>
    rw [redactHeadersFrom]
    split_ifs with hc
    · refine HeadersMasked.of_line (newline_redactHeaderLine one) (fun _ => ?_) ?_
      · exact lineMasked_redactHeaderLine one fun d hd => (Option.some.inj hd).symm
      · exact ⟨fun hfalse => (by cases hfalse), ih List.not_mem_nil⟩
    · refine ih ?_
      rw [List.mem_append, List.mem_singleton]
      exact fun hor => hor.elim one (fun h => hc h.symm)

theorem redactHeaderLine_masked {text : List Char} (line : LineMasked text) :
    redactHeaderLine (firstLine text) = firstLine text := by
  by_cases hcolon : ':' ∈ firstLine text
  · obtain ⟨front, back, hfirst, hfront⟩ := List.eq_append_cons_of_mem hcolon
    rw [hfirst, redactHeaderLine_colon]
    refine ite_eq_right_iff.mpr fun hsensitive => ?_
    have hname : headerName (front ++ [':']) = front.dropWhile isWhitespace :=
      headerName_of_not_mem hfront
    have hnewline : '\n' ∉ front ++ ':' :: back := by
      rw [← hfirst, firstLine]
      intro hmem
      exact absurd (List.mem_takeWhile_imp hmem) (by decide)
    have htext : text = front.takeWhile isWhitespace ++ front.dropWhile isWhitespace ++
        ':' :: (back ++ text.dropWhile (· ≠ '\n')) := by
      rw [List.takeWhile_append_dropWhile, ← List.cons_append, ← List.append_assoc, ← hfirst,
        firstLine, List.takeWhile_append_dropWhile]
    rw [hname] at hsensitive
    obtain ⟨after, hback, hafter⟩ := line _ _ _ htext (fun c hc => ⟨List.mem_takeWhile_imp hc,
      fun heq => hnewline (List.mem_append_left _
        (heq ▸ (List.takeWhile_sublist _).subset hc))⟩) hsensitive
    have hstops : ∀ c ∈ (text.dropWhile (· ≠ '\n')).head?, c = '\n' := by
      intro c hc
      have hhead := List.head?_dropWhile_not (· ≠ '\n') text
      rw [hc] at hhead
      simpa using hhead
    obtain ⟨rfl, -⟩ := newline_split (fun hmem => hnewline (List.mem_append_right _
      (List.mem_cons_of_mem _ hmem))) (by decide) hstops hafter hback
    rw [hname, List.takeWhile_append_dropWhile, List.append_assoc, hidden_value]
  · exact redactHeaderLine_of_not_mem hcolon

/-- The header pass keeps a text in which the headers are masked. -/
theorem redactSensitiveHeaders_masked {text : List Char} (h : HeadersMasked true text) :
    redactSensitiveHeaders text = text := by
  rw [redactSensitiveHeaders]
  induction hn : text.length using Nat.strong_induction_on generalizing text with
  | _ n ih =>
    rw [redactHeadersFrom_eq, List.nil_append,
      redactHeaderLine_masked ((HeadersMasked.start_iff.mp h).1 rfl)]
    have hsplit : firstLine text ++ text.dropWhile (· ≠ '\n') = text :=
      List.takeWhile_append_dropWhile
    cases hdrop : text.dropWhile (· ≠ '\n') with
    | nil =>
      rw [hdrop, List.append_nil] at hsplit
      rw [laterLines, hdrop, List.append_nil, hsplit]
    | cons c rest =>
      have hc : c = '\n' := by
        have hhead := List.head?_dropWhile_not (· ≠ '\n') text
        rw [hdrop] at hhead
        simpa using hhead
      subst hc
      rw [hdrop] at hsplit
      rw [← hsplit] at h
      have hshort := congrArg List.length hsplit
      simp only [List.length_append, List.length_cons] at hshort
      have hrest : HeadersMasked true rest := h.drop.2
      rw [laterLines, hdrop]
      simp only [ih rest.length (by omega) hrest rfl]
      exact hsplit

end HeaderPass

end Sunbolt.Audit
