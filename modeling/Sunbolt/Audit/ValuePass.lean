/- Module: Sunbolt/Audit/ValuePass
   scope: sunbolt-audit/src/redaction.rs
   digest: The key pass masks values behind keys, and leaves every key and header masked. -/

import Sunbolt.Audit.MaskedKeys

set_option autoImplicit false
set_option relaxedAutoImplicit false

namespace Sunbolt.Audit

/-- A sensitive key, what it is split into, and where its value starts. -/
structure SecretAt (key text before value rest lead spaces : List Char) (c : Char)
    (tail : List Char) : Prop where
  sensitive : isSensitiveKey (normalizeKey key) = true
  isLead : IsLead lead
  blank : ∀ d ∈ spaces, isAsciiWhitespace d = true
  visible : isAsciiWhitespace c = false
  text : text = lead ++ (spaces ++ c :: tail)
  before : before = lead ++ (boundsAt spaces c tail).1
  bounds : (boundsAt spaces c tail).2 = (value, rest)

theorem secretAt {key text before value rest : List Char}
    (h : secretValue key text = some (before, value, rest)) :
    ∃ lead spaces c tail, SecretAt key text before value rest lead spaces c tail := by
  rw [secretValue] at h
  split_ifs at h with hsensitive
  rcases keyedValue_cases text with hnone | ⟨lead, spaces, c, tail, isLead, blank, visible, rfl⟩
  · rw [hnone] at h
    cases h
  · rw [keyedValue_lead isLead blank visible, Option.some.injEq, Prod.mk.injEq] at h
    exact ⟨lead, spaces, c, tail, hsensitive, isLead, blank, visible, rfl, h.1.symm, h.2⟩

theorem boundsAt_before (spaces : List Char) (c : Char) (tail : List Char) :
    (boundsAt spaces c tail).1 =
      if c = '"' || c = '\'' then spaces ++ [c] else spaces := by
  rw [boundsAt]
  split_ifs
  · rfl
  · rfl
  · rfl
  · rfl

namespace SecretAt

variable {key text before value rest lead spaces tail : List Char} {c : Char}

theorem plain (h : SecretAt key text before value rest lead spaces c tail) :
    ∀ d ∈ before, isIdentifierByte d = false ∧ d ≠ '[' := by
  intro d hd
  rw [h.before, boundsAt_before, List.mem_append] at hd
  rcases hd with hd | hd
  · exact h.isLead.plain d hd
  · split_ifs at hd with hquote
    · rcases List.mem_append.mp hd with hd | hd
      · exact space_plain (h.blank d hd)
      · rw [List.mem_singleton.mp hd]
        have isQuote : c = '"' ∨ c = '\'' := by simpa using hquote
        rcases isQuote with rfl | rfl
        · decide
        · decide
    · exact space_plain (h.blank d hd)

theorem before_ne_nil (h : SecretAt key text before value rest lead spaces c tail) :
    before ≠ [] := by
  rw [h.before]
  exact List.append_ne_nil_of_left_ne_nil h.isLead.nonempty _

/-- With the marker in the place of the value the key is masked, when a closing quote stays. -/
theorem masked (h : SecretAt key text before value rest lead spaces c tail) {after : List Char}
    (same : isBorder rest.head? = true → after.head? = rest.head?) :
    SecretMasked key (before ++ (redaction ++ after)) := by
  rw [h.before, boundsAt_before]
  split_ifs with hquote
  · have hbounds := h.bounds
    rw [boundsAt, if_pos hquote] at hbounds
    have hrest : ∀ d ∈ rest.head?, d = c := by
      have hstops := quotedValue_rest c tail
      rwa [show quotedValue c tail = (value, rest) from hbounds] at hstops
    have hborder : isBorder rest.head? = true := by
      have hc : isIdentifierByte c = false := by
        have isQuote : c = '"' ∨ c = '\'' := by simpa using hquote
        rcases isQuote with rfl | rfl
        · decide
        · decide
      cases hhead : rest.head? with
      | none => rfl
      | some d => rw [hrest d hhead, isBorder, Option.any_some, hc]; rfl
    have hmarker : MarkerAt c (redaction ++ after) :=
      .quoted after hquote rfl (by rw [same hborder]; exact hrest)
    have hmasked :=
      (secretMasked_of_lead h.isLead h.blank h.visible h.sensitive).mpr hmarker
    simpa only [List.append_assoc, List.singleton_append] using hmasked
  · have hmarker : MarkerAt '[' ("REDACTED]".toList ++ after) := .square after rfl rfl
    have hmasked := (secretMasked_of_lead h.isLead h.blank (c := '[') (by decide)
      h.sensitive).mpr hmarker
    rw [List.append_assoc]
    exact hmasked

end SecretAt

/-- The key pass: it keeps the start of an identifier with no value, and masks values. -/
def valuePass : Pass where
  keeps previous text := ∀ c rest, text = c :: rest → isIdentifierByte c = true →
    isBorder previous = true →
    secretValue (c :: rest.takeWhile isIdentifierByte) (rest.dropWhile isIdentifierByte) = none
  masks key before value rest := key ≠ [] ∧ (∀ c ∈ key, isIdentifierByte c = true) ∧
    secretValue key (before ++ value ++ rest) = some (before, value, rest)
  key h := h.2.1
  before h := by
    obtain ⟨lead, spaces, c, tail, hat⟩ := secretAt h.2.2
    exact hat.plain
  shape h := by
    obtain ⟨lead, spaces, c, tail, hat⟩ := secretAt h.2.2
    exact .inl ⟨h.1, hat.before_ne_nil⟩

theorem masks_scan (previous : Option Char) (text : List Char) :
    valuePass.Masks previous text (scan previous text) := by
  induction hn : text.length using Nat.strong_induction_on generalizing previous text with
  | _ n ih =>
    cases text with
    | nil => exact .nil
    | cons c text =>
      rw [List.length_cons] at hn
      have hrest := ih text.length (by omega) (some c) text rfl
      cases hstart : isIdentifierByte c && isBorder previous with
      | false =>
        rw [scan_step hstart]
        refine .keep (fun d rest heq hd hborder => ?_) hrest
        rw [← (List.cons.inj heq).1] at hd
        rw [hd, hborder] at hstart
        cases hstart
      | true =>
        obtain ⟨hc, hborder⟩ := Bool.and_eq_true_iff.mp hstart
        rw [scan_start hc hborder]
        cases hvalue : secretValue (c :: text.takeWhile isIdentifierByte)
            (text.dropWhile isIdentifierByte) with
        | none =>
          refine .keep (fun d rest heq _ _ => ?_) hrest
          obtain ⟨rfl, rfl⟩ := List.cons.inj heq
          exact hvalue
        | some bounds =>
          obtain ⟨before, value, after⟩ := bounds
          have hsplit := secretValue_append hvalue
          have hlength := congrArg List.length hsplit
          have hdrop := (List.dropWhile_sublist isIdentifierByte (l := text)).length_le
          simp only [List.length_append] at hlength
          have hwhole : c :: text =
              c :: text.takeWhile isIdentifierByte ++ before ++ value ++ after := by
            have htext := List.takeWhile_append_dropWhile (p := isIdentifierByte) (l := text)
            rw [hsplit] at htext
            simpa only [List.append_assoc, List.cons_append] using congrArg (c :: ·) htext.symm
          obtain ⟨lead, spaces, d, tail, hat⟩ := secretAt hvalue
          have hend : (c :: text.takeWhile isIdentifierByte ++ before ++ value).getLast? =
              (before ++ value).getLast? := by
            rw [List.append_assoc, List.getLast?_append_of_ne_nil _
              (List.append_ne_nil_of_left_ne_nil hat.before_ne_nil _)]
          have hmask :
              valuePass.masks (c :: text.takeWhile isIdentifierByte) before value after := by
            refine ⟨List.cons_ne_nil _ _, fun e he => ?_, hsplit ▸ hvalue⟩
            rcases List.mem_cons.mp he with rfl | he
            · exact hc
            · exact List.mem_takeWhile_imp he
          rw [hwhole]
          refine .mask hborder hmask ?_
          rw [hend]
          exact ih after.length (by omega) _ after rfl

theorem not_identifier_of_token {c : Char} (h : isTokenByte c = false) :
    isIdentifierByte c = false := by
  rw [isTokenByte, Bool.or_eq_false_iff, Bool.or_eq_false_iff] at h
  rw [isIdentifierByte, Bool.or_right_comm]
  exact h.1.1

theorem visible_of_identifier {c : Char} (h : isIdentifierByte c = true) :
    isAsciiWhitespace c = false := by
  by_contra hspace
  have hnot := not_identifier_of_space (by simpa using hspace)
  rw [h] at hnot
  cases hnot

/-- A key without a value in the text has none in the masked text. -/
theorem Pass.Masks.no_value {pass : Pass} {previous : Option Char} {text masked : List Char}
    (h : pass.Masks previous text masked) (none : keyedValue text = none) :
    keyedValue masked = Option.none := by
  rcases keyedValue_cases masked with hnone | ⟨lead, spaces, c, tail, isLead, blank, visible, rfl⟩
  · exact hnone
  · exfalso
    rw [← List.append_assoc] at h
    obtain ⟨rest, rfl, hrest⟩ := h.of_append fun d hd => by
      rcases List.mem_append.mp hd with hd | hd
      · exact isLead.plain d hd
      · exact space_plain (blank d hd)
    obtain ⟨d, tail', rfl, hd⟩ := hrest.head_cases
    have hvisible : isAsciiWhitespace d = false := by
      rcases hd with rfl | hd
      · exact visible
      · exact visible_of_identifier hd
    rw [List.append_assoc, keyedValue_lead isLead blank hvisible] at none
    cases none

/-- The key pass leaves every key masked. -/
theorem keysMasked_of_masks {previous : Option Char} {text masked : List Char}
    (h : valuePass.Masks previous text masked) : KeysMasked previous masked := by
  induction h with
  | nil => trivial
  | @keep previous c text masked kept rest ih =>
    refine ⟨fun hc hborder => ?_, ih⟩
    obtain ⟨htake, hdrop⟩ := rest.within (by simp [isBorder, hc])
    rw [htake]
    have hnone := kept c text rfl hc hborder
    intro before value after hvalue
    exfalso
    rw [secretValue] at hnone hvalue
    split_ifs at hnone hvalue
    rw [hdrop.no_value hnone] at hvalue
    cases hvalue
  | @mask previous key before value text masked border hides rest ih =>
    obtain ⟨hkey, hall, hvalue⟩ := hides
    obtain ⟨lead, spaces, c, tail, hat⟩ := secretAt hvalue
    have hmasked := hat.masked rest.head_border
    have hplain : ∀ d ∈ before, isIdentifierByte d = false := fun d hd => (hat.plain d hd).1
    have hfirst : isBorder (before ++ (redaction ++ masked)).head? = true := by
      obtain ⟨d, before, rfl⟩ := List.exists_cons_of_ne_nil hat.before_ne_nil
      simp [isBorder, hplain d (List.mem_cons_self ..)]
    have hseam : isBorder masked.head? = true ∨
        isBorder (key ++ before ++ value).getLast? = true := by
      have hkeyed : keyedValue (before ++ value ++ text) = some (before, value, text) := by
        rw [secretValue, if_pos hat.sensitive] at hvalue
        exact hvalue
      rcases (keyedValue_seams hkeyed).resumes with hresumes | ⟨d, hd, htoken⟩
      · left
        have hborder : isBorder text.head? = true := by
          cases hhead : text.head? with
          | none => rfl
          | some d => simp [isBorder, not_identifier_of_token (hresumes d hhead)]
        rw [rest.head_border hborder, hborder]
      · right
        rw [List.getLast?_append, Option.mem_def.mp hd, Option.some_or]
        simp [isBorder, not_identifier_of_token htoken]
    rw [List.append_assoc, List.append_assoc]
    exact .of_key hkey hall hfirst hmasked
      (.of_plain hplain (.of_marker (KeysMasked.of_border ih hseam)))

theorem secretValue_header {name : List Char} (h : isSensitiveHeaderName name = true)
    (rest : List Char) :
    secretValue name (':' :: ' ' :: redaction ++ rest) = some ([':', ' '], redaction, rest) := by
  have hcolon : nextKeyValueDelimiter [':'] = some ([':'], []) := rfl
  have isLead : IsLead [':'] := isLead_of_delimiter hcolon
  have hblank : ∀ d ∈ [' '], isAsciiWhitespace d = true := by simp; decide
  have hvalue := keyedValue_lead isLead hblank (c := '[') (by decide)
    ("REDACTED]".toList ++ rest)
  have hsplit : '[' :: ("REDACTED]".toList ++ rest) = redaction ++ rest := rfl
  rw [boundsAt_square [' '] hsplit] at hvalue
  rw [secretValue, if_pos (key_of_headerName h).2.2]
  exact hvalue

theorem stops_masked {pass : Pass} {previous : Option Char} {text masked : List Char}
    (h : pass.Masks previous text masked) (stops : ∀ c ∈ text.head?, c = '\n') :
    ∀ c ∈ masked.head?, c = '\n' := by
  have hborder : isBorder text.head? = true := by
    cases hhead : text.head? with
    | none => rfl
    | some c =>
      rw [stops c hhead]
      decide
  rw [h.head_border hborder]
  exact stops

/-- A header with the marker behind it is a key with the marker for its value. -/
theorem valuePass_keepsHeaders : valuePass.KeepsHeaders := by
  intro previous name rest masked border hname stops h
  obtain ⟨hne, hall, -⟩ := key_of_headerName hname
  have hvalue := secretValue_header hname rest
  have hcolon : isIdentifierByte ':' = false := by decide
  have hcut := takeWhile_cut hall hcolon (' ' :: redaction ++ rest)
  generalize htext : name ++ ':' :: ' ' :: redaction ++ rest = text at h
  rw [List.append_assoc, List.cons_append] at htext
  cases h with
  | nil => simp at htext
  | @keep _ c text masked kept h =>
    exfalso
    obtain ⟨first, name, rfl⟩ := List.exists_cons_of_ne_nil hne
    obtain ⟨rfl, rfl⟩ := List.cons.inj htext
    have hnone := kept first _ rfl (hall first (List.mem_cons_self ..)) border
    have hrest := takeWhile_cut (fun c hc => hall c (List.mem_cons_of_mem _ hc)) hcolon
      (' ' :: redaction ++ rest)
    have happend : name.append (':' :: (' ' :: redaction ++ rest)) =
        name ++ ':' :: (' ' :: redaction ++ rest) := rfl
    rw [happend, hrest.1, hrest.2] at hnone
    have hsome := hnone.symm.trans hvalue
    cases hsome
  | @mask _ key before value text masked border hides h =>
    obtain ⟨lead, spaces, c, tail, hat⟩ := secretAt hides.2.2
    obtain ⟨d, before, rfl⟩ := List.exists_cons_of_ne_nil hat.before_ne_nil
    have hd := (hat.plain d (List.mem_cons_self ..)).1
    have hwhole : name ++ ':' :: (' ' :: redaction ++ rest) =
        key ++ d :: (before ++ value ++ text) := by
      simpa only [List.append_assoc, List.cons_append] using htext
    have hcut' := takeWhile_cut hides.2.1 hd (before ++ value ++ text)
    rw [← hwhole, hcut.1, hcut.2] at hcut'
    obtain ⟨rfl, hbehind⟩ := hcut'
    have hsame : d :: before ++ value ++ text = ':' :: ' ' :: redaction ++ rest := hbehind.symm
    have hboth := hides.2.2.symm.trans ((congrArg (secretValue name) hsame).trans hvalue)
    simp only [Option.some.injEq, Prod.mk.injEq] at hboth
    obtain ⟨hbefore, -, rfl⟩ := hboth
    refine ⟨masked, ?_, stops_masked h stops⟩
    rw [hbefore]
    simp

end Sunbolt.Audit
