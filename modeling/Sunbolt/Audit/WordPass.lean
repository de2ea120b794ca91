/- Module: Sunbolt/Audit/WordPass
   scope: sunbolt-audit/src/redaction.rs, sunbolt-audit/src/log.rs
   digest: The token pass masks words and leaves what the other passes masked, so that redacting a
     text twice is redacting it once. -/

import Sunbolt.Audit.Chain
import Sunbolt.Audit.SecretRedaction
import Sunbolt.Audit.ValuePass

set_option autoImplicit false
set_option relaxedAutoImplicit false

namespace Sunbolt.Audit

theorem secretChars_of_sensitive {run : List Char} (h : isSensitiveToken run = true) :
    SecretChars run := by
  rw [isSensitiveToken, Bool.or_eq_true] at h
  rcases h with h | h
  · rw [isLongHexToken, Bool.and_eq_true, decide_eq_true_eq] at h
    exact ⟨by omega, fun c hc => .inl (List.all_eq_true.mp h.2 c hc)⟩
  · simp only [isRecoveryCode, Bool.and_eq_true, decide_eq_true_eq] at h
    obtain ⟨⟨⟨hlength, hfirst⟩, hsecond⟩, hall⟩ := h
    refine ⟨by omega, fun c hc => ?_⟩
    obtain ⟨i, hi, rfl⟩ := List.getElem_of_mem hc
    have hdigit := List.all_eq_true.mp hall (run[i], i) (List.mk_mem_zipIdx_iff_getElem?.mpr
      (List.getElem?_eq_getElem hi))
    simp only [Bool.or_eq_true, decide_eq_true_eq] at hdigit
    rcases hdigit with (rfl | rfl) | hex
    · rw [List.getElem?_eq_getElem hi] at hfirst
      exact .inr (Option.some.inj hfirst)
    · rw [List.getElem?_eq_getElem hi] at hsecond
      exact .inr (Option.some.inj hsecond)
    · exact .inl hex

theorem SecretChars.identifier {run : List Char} (h : SecretChars run) :
    ∀ c ∈ run, isIdentifierByte c = true := by
  intro c hc
  rcases h.chars c hc with hex | rfl
  · rw [isIdentifierByte, isAsciiAlphanumeric_of_hex hex]
    rfl
  · decide

/-- The token pass: it masks words with the shape of a secret. -/
def wordPass : Pass where
  keeps _ _ := True
  masks key before value rest := key = [] ∧ before = [] ∧ isSensitiveToken value = true ∧
    isBorder rest.head? = true
  key h := by
    rw [h.1]
    exact fun c hc => (nomatch hc)
  before h := by
    rw [h.2.1]
    exact fun c hc => (nomatch hc)
  shape h := by
    have hchars := secretChars_of_sensitive h.2.2.1
    obtain ⟨c, tail, htail⟩ := List.exists_cons_of_ne_nil hchars.ne_nil
    exact .inr ⟨h.1, h.2.1, c, tail, htail,
      hchars.identifier c (htail ▸ List.mem_cons_self ..)⟩

section Words

variable {previous : Option Char} {text masked word rest after : List Char}

theorem keep_all (run : List Char) (h : wordPass.Masks (endOf previous run) text masked) :
    wordPass.Masks previous (run ++ text) (run ++ masked) := by
  induction run generalizing previous with
  | nil => exact h
  | cons c run ih =>
    rw [endOf_cons] at h
    exact .keep trivial (ih h)

/-- The first run of token bytes is decided on its own. -/
theorem redactSensitiveTokens_eq (text : List Char) :
    redactSensitiveTokens text = redactToken (text.takeWhile isTokenByte) ++
      match text.dropWhile isTokenByte with
      | [] => []
      | c :: rest => c :: redactSensitiveTokens rest := by
  have hrun : ∀ c ∈ text.takeWhile isTokenByte, isTokenByte c = true :=
    fun c hc => List.mem_takeWhile_imp hc
  have hsplit := List.takeWhile_append_dropWhile (p := isTokenByte) (l := text)
  rw [redactSensitiveTokens]
  cases hdrop : text.dropWhile isTokenByte with
  | nil =>
    rw [hdrop, List.append_nil] at hsplit
    rw [List.append_nil, ← List.nil_append (text.takeWhile isTokenByte),
      ← redactTokensFrom_run hrun, hsplit]
  | cons c rest =>
    have hc : isTokenByte c = false := by
      have hhead := List.head?_dropWhile_not isTokenByte text
      rw [hdrop] at hhead
      simpa using hhead
    rw [hdrop] at hsplit
    have happend := redactTokensFrom_append hc [] (text.takeWhile isTokenByte) rest
    rw [hsplit, redactTokensFrom_run hrun, List.nil_append] at happend
    exact happend

theorem masks_tokens (outside : previous.any isTokenByte = false) (text : List Char) :
    wordPass.Masks previous text (redactSensitiveTokens text) := by
  induction hn : text.length using Nat.strong_induction_on generalizing previous text with
  | _ n ih =>
    have hsplit := List.takeWhile_append_dropWhile (p := isTokenByte) (l := text)
    have hlength := congrArg List.length hsplit
    rw [List.length_append] at hlength
    -- what follows the first run
    have hbehind : ∀ previous, wordPass.Masks previous (text.dropWhile isTokenByte)
        (match text.dropWhile isTokenByte with
          | [] => []
          | c :: rest => c :: redactSensitiveTokens rest) ∧
        isBorder (text.dropWhile isTokenByte).head? = true := by
      intro previous
      cases hdrop : text.dropWhile isTokenByte with
      | nil => exact ⟨.nil, rfl⟩
      | cons c rest =>
        have hc : isTokenByte c = false := by
          have hhead := List.head?_dropWhile_not isTokenByte text
          rw [hdrop] at hhead
          simpa using hhead
        rw [hdrop, List.length_cons] at hlength
        refine ⟨.keep trivial (ih rest.length (by omega) (by simp [hc]) rest rfl), ?_⟩
        simp [isBorder, not_identifier_of_token hc]
    rw [redactSensitiveTokens_eq, redactToken]
    split_ifs with hsensitive
    · have hborder : isBorder previous = true := by
        cases previous with
        | none => rfl
        | some c => simp [isBorder, not_identifier_of_token (by simpa using outside)]
      have hmask : wordPass.masks [] [] (text.takeWhile isTokenByte)
          (text.dropWhile isTokenByte) := ⟨rfl, rfl, hsensitive, (hbehind none).2⟩
      have hmasks := Pass.Masks.mask hborder hmask (hbehind _).1
      simpa only [List.nil_append, hsplit] using hmasks
    · have hkept := keep_all (text.takeWhile isTokenByte) (hbehind (endOf previous _)).1
      rwa [hsplit] at hkept

/-- A second token pass finds nothing. -/
theorem redactSensitiveTokens_twice (text : List Char) :
    redactSensitiveTokens (redactSensitiveTokens text) = redactSensitiveTokens text := by
  induction hn : text.length using Nat.strong_induction_on generalizing text with
  | _ n ih =>
    have hrun : ∀ c ∈ text.takeWhile isTokenByte, isTokenByte c = true :=
      fun c hc => List.mem_takeWhile_imp hc
    have htoken : redactTokensFrom [] (redactToken (text.takeWhile isTokenByte)) =
        redactToken (text.takeWhile isTokenByte) := by
      rw [redactToken]
      split_ifs with hsensitive
      · decide
      · rw [redactTokensFrom_run hrun, List.nil_append, redactToken, if_neg hsensitive]
    rw [redactSensitiveTokens_eq text]
    cases hdrop : text.dropWhile isTokenByte with
    | nil =>
      simp only [List.append_nil]
      exact htoken
    | cons c rest =>
      have hc : isTokenByte c = false := by
        have hhead := List.head?_dropWhile_not isTokenByte text
        rw [hdrop] at hhead
        simpa using hhead
      have hlength := (List.dropWhile_sublist isTokenByte (l := text)).length_le
      rw [hdrop, List.length_cons] at hlength
      have hrest := ih rest.length (by omega) rest rfl
      rw [redactSensitiveTokens] at hrest ⊢
      rw [redactTokensFrom_append hc, htoken, hrest]

theorem takeWhile_word (all : ∀ c ∈ word, isIdentifierByte c = true)
    (border : isBorder rest.head? = true) :
    (word ++ rest).takeWhile isIdentifierByte = word ∧
      (word ++ rest).dropWhile isIdentifierByte = rest := by
  rw [List.takeWhile_append_of_pos all, List.dropWhile_append_of_pos all]
  cases rest with
  | nil => simp
  | cons c rest =>
    have hc : isIdentifierByte c = false := by simpa [isBorder] using border
    simp [hc]

/-- A word of another shape is kept. -/
theorem word_kept (h : wordPass.Masks previous (word ++ rest) masked) (ne : word ≠ [])
    (all : ∀ c ∈ word, isIdentifierByte c = true) (shape : isSensitiveToken word = false)
    (border : isBorder rest.head? = true) :
    ∃ rest', masked = word ++ rest' ∧ wordPass.Masks word.getLast? rest rest' := by
  obtain ⟨htake, hdrop⟩ := takeWhile_word all border
  generalize htext : word ++ rest = text at h
  cases h with
  | nil => exact absurd (List.append_eq_nil_iff.mp htext).1 ne
  | @keep _ c text masked kept h =>
    obtain ⟨first, word, rfl⟩ := List.exists_cons_of_ne_nil ne
    obtain ⟨rfl, rfl⟩ := List.cons.inj htext
    have hfirst := all first (List.mem_cons_self ..)
    obtain ⟨hsame, hrest⟩ := h.within (by simp [isBorder, hfirst])
    have hword := takeWhile_word (fun c hc => all c (List.mem_cons_of_mem _ hc)) border
    have happend : word.append rest = word ++ rest := rfl
    rw [happend, hword.1] at hsame
    rw [happend, hword.1, hword.2, ← endOf_cons none, endOf_of_ne_nil (List.cons_ne_nil _ _)]
      at hrest
    refine ⟨masked.dropWhile isIdentifierByte, ?_, hrest⟩
    rw [List.cons_append, ← hsame, List.takeWhile_append_dropWhile]
  | @mask _ key before value text masked hborder hides h =>
    obtain ⟨rfl, rfl, hsensitive, hstops⟩ := hides
    have hvalue := takeWhile_word (secretChars_of_sensitive hsensitive).identifier hstops
    rw [List.nil_append, List.nil_append] at htext
    rw [← htext, htake] at hvalue
    rw [← hvalue.1, shape] at hsensitive
    cases hsensitive

theorem marker_kept (h : wordPass.Masks previous (redaction ++ rest) masked) :
    ∃ rest', masked = redaction ++ rest' ∧ wordPass.Masks (some ']') rest rest' := by
  have hsplit : redaction ++ rest = ['['] ++ ("REDACTED".toList ++ ([']'] ++ rest)) := rfl
  have hplain : ∀ c ∈ ['['], isIdentifierByte c = false := List.forall_mem_singleton.mpr (by decide)
  have hplain' : ∀ c ∈ [']'], isIdentifierByte c = false :=
    List.forall_mem_singleton.mpr (by decide)
  have hall : ∀ c ∈ "REDACTED".toList, isIdentifierByte c = true := List.all_eq_true.mp (by decide)
  rw [hsplit] at h
  obtain ⟨front, rfl, hword⟩ := h.append hplain
  obtain ⟨middle, rfl, hclose⟩ := word_kept hword (by decide) hall (by decide) rfl
  obtain ⟨rest', rfl, hrest⟩ := hclose.append hplain'
  exact ⟨rest', rfl, hrest⟩

/-- A masked key stays masked. -/
theorem SecretMasked.words {key : List Char} (secret : SecretMasked key text)
    (h : wordPass.Masks previous text masked) : SecretMasked key masked := by
  cases hkey : isSensitiveKey (normalizeKey key) with
  | false => exact secretMasked_of_plain hkey masked
  | true =>
    rcases keyedValue_cases masked with hnone | ⟨lead, spaces, c, tail, isLead, blank, visible, rfl⟩
    · intro before value after hvalue
      rw [secretValue, if_pos hkey, hnone] at hvalue
      cases hvalue
    · rw [← List.append_assoc] at h
      obtain ⟨rest, rfl, hrest⟩ := h.of_append fun d hd => by
        rcases List.mem_append.mp hd with hd | hd
        · exact isLead.plain d hd
        · exact space_plain (blank d hd)
      obtain ⟨d, behind, rfl, hd⟩ := hrest.head_cases
      have hvisible : isAsciiWhitespace d = false := by
        rcases hd with rfl | hd
        · exact visible
        · exact visible_of_identifier hd
      rw [List.append_assoc] at secret
      have hmarker := (secretMasked_of_lead isLead blank hvisible hkey).mp secret
      have hplain : isIdentifierByte d = false := by
        by_contra hidentifier
        exact not_markerAt (by simpa using hidentifier) hmarker
      obtain rfl : d = c := hd.resolve_right (by simp [hplain])
      obtain ⟨tail', htail, hbehind⟩ :=
        Pass.Masks.append (show wordPass.Masks _ ([d] ++ _) _ from hrest)
          (List.forall_mem_singleton.mpr hplain)
      obtain rfl : tail = tail' := (List.cons.inj htail).2
      refine (secretMasked_of_lead isLead blank visible hkey).mpr ?_
      rcases hmarker with ⟨after, hsquare, hsplit⟩ | ⟨after, hquote, rfl, hstops⟩
      · rw [hsplit] at hrest
        obtain ⟨rest', hmasked, -⟩ := marker_kept hrest
        exact .square rest' hsquare hmasked
      · obtain ⟨rest', rfl, hafter⟩ := marker_kept hbehind
        have hborder : isBorder after.head? = true := by
          cases hhead : after.head? with
          | none => rfl
          | some e => rw [hstops e hhead, isBorder, Option.any_some, hplain]; rfl
        refine .quoted rest' hquote rfl ?_
        rw [hafter.head_border hborder]
        exact hstops

theorem KeysMasked.words (keys : KeysMasked previous text)
    (h : wordPass.Masks previous text masked) : KeysMasked previous masked := by
  induction h with
  | nil => trivial
  | @keep previous c text masked kept rest ih =>
    refine ⟨fun hc hborder => ?_, ih keys.2⟩
    obtain ⟨htake, hdrop⟩ := rest.within (by simp [isBorder, hc])
    rw [htake]
    exact (keys.1 hc hborder).words hdrop
  | mask border hides rest ih =>
    obtain ⟨rfl, rfl, hsensitive, hstops⟩ := hides
    have hne := (secretChars_of_sensitive hsensitive).ne_nil
    rw [List.nil_append, List.nil_append] at keys ih ⊢
    have hdrop := keys.drop
    rw [endOf_of_ne_nil hne] at hdrop
    refine .of_marker (KeysMasked.of_border (ih hdrop) (.inl ?_))
    rw [rest.head_border hstops, hstops]

theorem wordPass_keepsHeaders : wordPass.KeepsHeaders := by
  intro previous name rest masked border hname stops h
  obtain ⟨hne, hall, -⟩ := key_of_headerName hname
  have hshape : isSensitiveToken name = false := by
    by_contra hsensitive
    have hlong := (secretChars_of_sensitive (by simpa using hsensitive)).long
    have hshort := length_of_headerName hname
    omega
  have hcolon : ∀ c ∈ [':', ' '], isIdentifierByte c = false :=
    fun c hc => by simpa using List.all_eq_true.mp (by decide : [':', ' '].all
      (fun c => !isIdentifierByte c) = true) c hc
  have hsplit : name ++ ':' :: ' ' :: redaction ++ rest =
      name ++ ([':', ' '] ++ (redaction ++ rest)) := by simp
  rw [hsplit] at h
  obtain ⟨behind, rfl, hbehind⟩ := word_kept h hne hall hshape (by rfl)
  obtain ⟨marker, rfl, hmarker⟩ := hbehind.append hcolon
  obtain ⟨rest', rfl, hrest⟩ := marker_kept hmarker
  exact ⟨rest', by simp, stops_masked hrest stops⟩

end Words

/-! The three passes. -/

/-- Redacting a redacted text again changes nothing, so a message that is redacted before it is
    recorded is stored as it was given. -/
theorem redactSensitive_twice (text : String) :
    redactSensitive (redactSensitive text) = redactSensitive text ∧
      ∀ (sha256 : ByteArray → List UInt8) (state : AuditLogState) (createdAt : UInt64)
        (kind : AuditEventKind) (actorEmail : Option String),
        ((state.record sha256 createdAt
          ⟨kind, actorEmail, redactSensitive text⟩).events.getLast?).map (·.message) =
            some (redactSensitive text) := by
  have htwice : redactSensitive (redactSensitive text) = redactSensitive text := by
    have headers : HeadersMasked true (redactSensitiveHeaders text.toList) :=
      headersMasked_redactHeaders List.not_mem_nil _
    have values := masks_scan none (redactSensitiveHeaders text.toList)
    have words : wordPass.Masks none _ _ :=
      masks_tokens rfl (scan none (redactSensitiveHeaders text.toList))
    have hheaders := redactSensitiveHeaders_masked ((headers.mask valuePass_keepsHeaders values
      fun _ => rfl).mask wordPass_keepsHeaders words fun _ => rfl)
    have hkeys := scan_masked ((keysMasked_of_masks values).words words)
    have hredacted : redactSensitive text = String.ofList (redactSensitiveTokens
        (scan none (redactSensitiveHeaders text.toList))) := rfl
    rw [hredacted, redactSensitive, String.toList_ofList, hheaders, redactSensitiveKeyValues_eq,
      hkeys, redactSensitiveTokens_twice]
  refine ⟨htwice, fun sha256 state createdAt kind actorEmail => ?_⟩
  rw [AuditLogState.record, List.getLast?_concat]
  exact congrArg some htwice

end Sunbolt.Audit
