/- Module: Sunbolt/Audit/SecretScan
   scope: sunbolt-audit/src/redaction.rs
   digest: Which occurrences of a secret the key pass and the header pass leave in a text. -/

import Sunbolt.Audit.HeaderLines
import Sunbolt.Audit.TokenRuns

set_option autoImplicit false
set_option relaxedAutoImplicit false

namespace Sunbolt.Audit

open Sunbolt.Library

/-! The key pass. -/

/-- The loop over the keys of a text replaces this value, which stands between `front` and
    `back`. -/
inductive Redacts :
    Option Char → List Char → List Char → List Char → List Char → Prop
  | here {previous : Option Char} {text skipped key rest before value after : List Char}
      (next : nextIdentifier previous text = some (skipped, key, rest))
      (secret : secretValue key rest = some (before, value, after)) :
      Redacts previous text (skipped ++ key ++ before) value after
  | afterKey {previous : Option Char} {text skipped key rest front value back : List Char}
      (next : nextIdentifier previous text = some (skipped, key, rest))
      (plain : secretValue key rest = none)
      (later : Redacts key.getLast? rest front value back) :
      Redacts previous text (skipped ++ key ++ front) value back
  | afterValue {previous : Option Char}
      {text skipped key rest before first after front value back : List Char}
      (next : nextIdentifier previous text = some (skipped, key, rest))
      (secret : secretValue key rest = some (before, first, after))
      (later : Redacts (before ++ first).getLast? after front value back) :
      Redacts previous text (skipped ++ key ++ before ++ first ++ front) value back

section Inversion

variable {previous : Option Char} {text skipped key rest before first after front value back :
  List Char}

theorem not_redacts (h : nextIdentifier previous text = none) :
    ¬Redacts previous text front value back := by
  intro hredacts
  cases hredacts with
  | here next => rw [h] at next; cases next
  | afterKey next => rw [h] at next; cases next
  | afterValue next => rw [h] at next; cases next

theorem redacts_afterKey (h : nextIdentifier previous text = some (skipped, key, rest))
    (plain : secretValue key rest = none) (hredacts : Redacts previous text front value back) :
    ∃ later, front = skipped ++ key ++ later ∧ Redacts key.getLast? rest later value back := by
  cases hredacts with
  | here next secret =>
    rw [h] at next
    cases next
    rw [plain] at secret
    cases secret
  | afterKey next _ later =>
    rw [h] at next
    cases next
    exact ⟨_, rfl, later⟩
  | afterValue next secret _ =>
    rw [h] at next
    cases next
    rw [plain] at secret
    cases secret

theorem redacts_afterValue (h : nextIdentifier previous text = some (skipped, key, rest))
    (secret : secretValue key rest = some (before, first, after))
    (hredacts : Redacts previous text front value back) :
    (front = skipped ++ key ++ before ∧ value = first ∧ back = after) ∨
      ∃ later, front = skipped ++ key ++ before ++ first ++ later ∧
        Redacts (before ++ first).getLast? after later value back := by
  cases hredacts with
  | here next given =>
    rw [h] at next
    cases next
    rw [secret] at given
    cases given
    exact Or.inl ⟨rfl, rfl, rfl⟩
  | afterKey next plain _ =>
    rw [h] at next
    cases next
    rw [secret] at plain
    cases plain
  | afterValue next given later =>
    rw [h] at next
    cases next
    rw [secret] at given
    cases given
    exact Or.inr ⟨_, rfl, later⟩

end Inversion

/-- The loop replaces nothing around the word between `front` and `back`; `kept` is the text
    before the one it reads. -/
def Unredacted (previous : Option Char) (kept text front back : List Char) : Prop :=
  ∀ {before value after}, Redacts previous text before value after →
    kept ++ before <+: front → ¬after <:+ back

theorem not_sensitive_of_colon {run : List Char} (h : ':' ∈ run) :
    isSensitiveToken run = false := by
  have hhex : isLongHexToken run = false := by
    rw [isLongHexToken, Bool.and_eq_false_iff]
    right
    rw [List.all_eq_false]
    exact ⟨':', h, by decide⟩
  have hcode : isRecoveryCode run = false := by
    by_contra hcode
    simp only [isRecoveryCode, Bool.not_eq_false, Bool.and_eq_true, decide_eq_true_eq,
      List.all_eq_true, Bool.or_eq_true] at hcode
    obtain ⟨⟨⟨-, height⟩, hfifteen⟩, hall⟩ := hcode
    obtain ⟨index, hindex⟩ := List.mem_iff_getElem?.mp h
    have hmem : (':', index) ∈ run.zipIdx := List.mk_mem_zipIdx_iff_getElem?.mpr hindex
    rcases hall _ hmem with (heq | heq) | hex
    · change index = 8 at heq
      rw [heq, height] at hindex
      cases hindex
    · change index = 15 at heq
      rw [heq, hfifteen] at hindex
      cases hindex
    · change isAsciiHexdigit ':' = true at hex
      exact absurd hex (by decide)
  rw [isSensitiveToken, hhex, hcode]
  rfl

namespace SecretChars

variable {secret : List Char} (h : SecretChars secret)

include h

private theorem not_mem_of_stop {c : Char} (hc : c = ':' ∨ isTokenByte c = false) : c ∉ secret := by
  intro hmem
  rcases hc with rfl | hc
  · exact h.not_mem (by decide) (by decide) hmem
  · rw [h.tokens c hmem] at hc
    cases hc

/-- What follows a colon, or a character between tokens, does not change whether the run of a
    secret before it is secret-shaped. -/
private theorem around_stop {front back : List Char}
    (stops : ∃ c, (front ++ secret ++ back).getLast? = some c ∧ (c = ':' ∨ isTokenByte c = false))
    (more : List Char) :
    isSensitiveToken (around isTokenByte front secret (back ++ more)) =
      isSensitiveToken (around isTokenByte front secret back) := by
  obtain ⟨c, hlast, hc⟩ := stops
  have hmem : c ∈ back := by
    cases hback : back.getLast? with
    | none =>
      exfalso
      obtain rfl := List.getLast?_eq_none_iff.mp hback
      obtain ⟨d, hd⟩ := Option.ne_none_iff_exists'.mp
        (fun hnone => h.ne_nil (List.getLast?_eq_none_iff.mp hnone))
      rw [List.append_nil, List.getLast?_append, hd, Option.some_or] at hlast
      obtain rfl := Option.some.inj hlast
      exact h.not_mem_of_stop hc (List.mem_of_getLast? hd)
    | some d =>
      rw [List.getLast?_append, hback, Option.some_or] at hlast
      obtain rfl := Option.some.inj hlast
      exact List.mem_of_getLast? hback
  by_cases hstop : ∃ d ∈ back, isTokenByte d = false
  · rw [around_append_right (Or.inl hstop)]
  · have hall : ∀ d ∈ back, isTokenByte d = true := by
      intro d hd
      by_contra hd'
      exact hstop ⟨d, hd, by simpa using hd'⟩
    have hcolon : ':' ∈ back := by
      rcases hc with rfl | hc
      · exact hmem
      · rw [hall c hmem] at hc
        cases hc
    rw [not_sensitive_of_colon, not_sensitive_of_colon]
    · rw [around, List.takeWhile_eq_self_iff.mpr hall]
      exact List.mem_append_right _ hcolon
    · rw [around, List.takeWhile_append_of_pos hall]
      exact List.mem_append_right _ (List.mem_append_left _ hcolon)

/-- What stands before a value and the value do not change whether the run of a secret behind it
    is secret-shaped. -/
private theorem around_resume {value after front back : List Char}
    (resumes : (∀ c ∈ after.head?, isTokenByte c = false) ∨
      ∃ c ∈ value.getLast?, isTokenByte c = false)
    (hafter : after = front ++ secret ++ back) (kept : List Char) :
    around isTokenByte (kept ++ value ++ front) secret back =
      around isTokenByte front secret back := by
  refine around_append_left ?_
  rcases resumes with hhead | ⟨d, hd, hplain⟩
  · left
    cases front with
    | nil =>
      exfalso
      obtain ⟨d, hd⟩ := Option.ne_none_iff_exists'.mp
        (fun hnone => h.ne_nil (List.head?_eq_none_iff.mp hnone))
      have hplain : isTokenByte d = false := by
        refine hhead d ?_
        rw [hafter, List.nil_append, List.head?_append, hd]
        rfl
      rw [h.tokens d (List.mem_of_head? hd)] at hplain
      cases hplain
    | cons d front =>
      refine ⟨d, List.mem_cons_self .., hhead d ?_⟩
      rw [hafter]
      rfl
  · right
    intro e he
    rw [List.getLast?_append, hd, Option.some_or] at he
    obtain rfl : d = e := Option.some.inj he
    exact hplain

private theorem shows_masked (left right : List Char) :
    Shows isTokenByte isSensitiveToken secret (left ++ redaction ++ right) ↔
      Shows isTokenByte isSensitiveToken secret left ∨
        Shows isTokenByte isSensitiveToken secret right := by
  have hparts : redaction = '[' :: ("REDACTED".toList ++ [']']) := by decide
  have hmask : left ++ redaction ++ right = left ++ '[' :: ("REDACTED".toList ++ ']' :: right) := by
    rw [hparts, List.append_assoc, List.cons_append, List.append_assoc, List.singleton_append]
  have hinner : ¬Shows isTokenByte isSensitiveToken secret "REDACTED".toList := by
    refine not_shows_of_short ?_
    have hlong := h.long
    have height : "REDACTED".toList.length = 8 := by decide
    omega
  rw [hmask, shows_separator h.ne_nil h.tokens (by decide),
    shows_separator h.ne_nil h.tokens (by decide)]
  constructor
  · rintro (hleft | hinside | hright)
    · exact Or.inl hleft
    · exact absurd hinside hinner
    · exact Or.inr hright
  · rintro (hleft | hright)
    · exact Or.inl hleft
    · exact Or.inr (Or.inr hright)

/-- One turn of the loop that redacts a value: what shows a secret stands before the value or
    behind it. -/
private theorem shows_value {previous : Option Char}
    {kept text skipped key rest before value after : List Char}
    (hnext : nextIdentifier previous text = some (skipped, key, rest))
    (hvalue : secretValue key rest = some (before, value, after)) :
    (Shows isTokenByte isSensitiveToken secret (kept ++ (skipped ++ key ++ before)) ∨
      ∃ front back, [] ++ after = front ++ secret ++ back ∧
        isSensitiveToken (around isTokenByte front secret back) = false ∧
        Unredacted (before ++ value).getLast? [] after front back) ↔
      ∃ front back, kept ++ (skipped ++ key ++ before) ++ (value ++ after) =
          front ++ secret ++ back ∧
        isSensitiveToken (around isTokenByte front secret back) = false ∧
        Unredacted previous kept text front back := by
  have hlong := h.long
  have seams : ValueSeams before value after := by
    rw [secretValue] at hvalue
    split_ifs at hvalue
    exact keyedValue_seams hvalue
  obtain ⟨c, hc, hstop⟩ := seams.stops
  have hlast : (kept ++ (skipped ++ key ++ before)).getLast? = some c := by
    rw [← List.append_assoc, List.getLast?_append, hc, Option.some_or]
  constructor
  · rintro (⟨front, more, hleft, hshown⟩ | ⟨front, back, hright, hshown, hunredacted⟩)
    · refine ⟨front, more ++ (value ++ after), ?_, ?_, ?_⟩
      · rw [hleft, List.append_assoc _ more]
      · rw [h.around_stop ⟨c, hleft ▸ hlast, hstop⟩, hshown]
      · -- every value of this turn or a later one starts behind the secret
        intro first other back hredacts hfront _
        have hle := hfront.length_le
        have hlength := congrArg List.length hleft
        rcases redacts_afterValue hnext hvalue hredacts with ⟨rfl, -, -⟩ | ⟨later, rfl, -⟩
        · simp only [List.length_append] at hle hlength
          omega
        · simp only [List.length_append] at hle hlength
          omega
    · rw [List.nil_append] at hright
      refine ⟨kept ++ (skipped ++ key ++ before) ++ value ++ front, back, ?_, ?_, ?_⟩
      · rw [hright]
        simp only [List.append_assoc]
      · rw [h.around_resume seams.resumes hright, hshown]
      · intro first other last hredacts hfront hback
        rcases redacts_afterValue hnext hvalue hredacts with ⟨-, -, rfl⟩ | ⟨later, rfl, hlater⟩
        · have hle := hback.length_le
          rw [hright] at hle
          simp only [List.length_append] at hle
          omega
        · refine hunredacted hlater ?_ hback
          rw [List.nil_append]
          refine (List.prefix_append_right_inj (kept ++ (skipped ++ key ++ before) ++ value)).mp ?_
          simpa only [List.append_assoc] using hfront
  · rintro ⟨front, back, hsplit, hshown, hunredacted⟩
    have seam : ∀ d ∈ (kept ++ (skipped ++ key ++ before)).getLast?, ∀ e ∈ (value ++ after).head?,
        d ∈ secret → e ∉ secret := by
      intro d hd e _ hmem
      rw [hlast] at hd
      obtain rfl : c = d := Option.some.inj hd
      exact absurd hmem (h.not_mem_of_stop hstop)
    rcases occurrence_of_seam hsplit seam with ⟨more, hleft, rfl⟩ | ⟨more, hright, rfl⟩
    · left
      refine ⟨front, more, hleft, ?_⟩
      rw [h.around_stop ⟨c, hleft ▸ hlast, hstop⟩] at hshown
      exact hshown
    · right
      have inner : ∀ d ∈ value.getLast?, ∀ e ∈ after.head?, d ∈ secret → e ∉ secret := by
        intro d hd e he hmem hmem'
        rcases seams.resumes with hhead | ⟨f, hf, hplain⟩
        · exact h.not_mem_of_stop (Or.inr (hhead e he)) hmem'
        · obtain rfl : f = d := Option.some.inj (hf.symm.trans hd)
          exact h.not_mem_of_stop (Or.inr hplain) hmem
      rcases occurrence_of_seam hright inner with ⟨last, hinside, rfl⟩ | ⟨last, hbehind, rfl⟩
      · -- inside the value the secret would be redacted
        exfalso
        refine hunredacted (.here hnext hvalue) (List.prefix_append _ _) ?_
        exact List.suffix_append last after
      · refine ⟨last, back, hbehind, ?_, ?_⟩
        · have hassoc : kept ++ (skipped ++ key ++ before) ++ (value ++ last) =
              kept ++ (skipped ++ key ++ before) ++ value ++ last := by
            simp only [List.append_assoc]
          rw [hassoc, h.around_resume seams.resumes hbehind] at hshown
          exact hshown
        · intro first other final hredacts hfront
          refine hunredacted (.afterValue hnext hvalue hredacts) ?_
          rw [List.nil_append] at hfront
          obtain ⟨tail, rfl⟩ := hfront
          exact ⟨tail, by simp only [List.append_assoc]⟩

/-- The key pass leaves the occurrences of a secret that it redacts nothing around. -/
theorem shows_scan (previous : Option Char) (kept text : List Char) :
    Shows isTokenByte isSensitiveToken secret (kept ++ scan previous text) ↔
      ∃ front back, kept ++ text = front ++ secret ++ back ∧
        isSensitiveToken (around isTokenByte front secret back) = false ∧
        Unredacted previous kept text front back := by
  induction hn : text.length using Nat.strong_induction_on generalizing previous kept text with
  | _ n ih =>
    cases hnext : nextIdentifier previous text with
    | none =>
      rw [scan_none hnext]
      constructor
      · rintro ⟨front, back, hsplit, hshown⟩
        exact ⟨front, back, hsplit, hshown, fun hredacts => absurd hredacts (not_redacts hnext)⟩
      · rintro ⟨front, back, hsplit, hshown, -⟩
        exact ⟨front, back, hsplit, hshown⟩
    | some found =>
      obtain ⟨skipped, key, rest⟩ := found
      have hfound := nextIdentifier_found hnext
      have hrest : rest.length < text.length := by
        have hkey := List.length_pos_iff.mpr hfound.nonempty
        rw [hfound.split]
        simp only [List.length_append]
        omega
      cases hvalue : secretValue key rest with
      | none =>
        have hkept : kept ++ text = (kept ++ (skipped ++ key)) ++ rest := by
          rw [hfound.split, List.append_assoc kept]
        have hout : kept ++ scan previous text =
            (kept ++ (skipped ++ key)) ++ scan key.getLast? rest := by
          rw [scan_plain hnext hvalue, List.append_assoc kept]
        rw [hout, hkept, ih rest.length (hn ▸ hrest) key.getLast? _ rest rfl]
        -- the loop redacts what it redacts behind the key
        refine exists_congr fun front => exists_congr fun back => and_congr_right fun _ =>
          and_congr_right fun _ => ?_
        constructor
        · intro hunredacted before value after hredacts hfront
          obtain ⟨later, rfl, hlater⟩ := redacts_afterKey hnext hvalue hredacts
          refine hunredacted hlater ?_
          rwa [List.append_assoc]
        · intro hunredacted before value after hredacts hfront
          refine hunredacted (.afterKey hnext hvalue hredacts) ?_
          rwa [← List.append_assoc]
      | some bounds =>
        obtain ⟨before, value, after⟩ := bounds
        have hafter := secretValue_append hvalue
        have hlength : after.length < text.length := by
          rw [hafter] at hrest
          simp only [List.length_append] at hrest
          omega
        have htext : kept ++ text = kept ++ (skipped ++ key ++ before) ++ (value ++ after) := by
          rw [hfound.split, hafter]
          simp only [List.append_assoc]
        have hout : kept ++ scan previous text = kept ++ (skipped ++ key ++ before) ++ redaction ++
            scan (before ++ value).getLast? after := by
          rw [scan_secret hnext hvalue]
          simp only [List.append_assoc]
        have hscan := ih after.length (hn ▸ hlength) (before ++ value).getLast? [] after rfl
        rw [List.nil_append] at hscan
        rw [hout, h.shows_masked, htext, hscan]
        exact h.shows_value hnext hvalue

end SecretChars

end Sunbolt.Audit
