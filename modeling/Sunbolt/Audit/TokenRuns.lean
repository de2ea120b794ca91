/- Module: Sunbolt/Audit/TokenRuns
   scope: sunbolt-audit/src/redaction.rs
   digest: The token pass reads the runs of token bytes one by one, whatever stands around them. -/

import Sunbolt.Library.Occurrence
import Sunbolt.Audit.Redaction

set_option autoImplicit false
set_option relaxedAutoImplicit false

namespace Sunbolt.Audit

open Sunbolt.Library

/-- The runs before a character that is not a token byte are decided there. -/
theorem redactTokensFrom_append {c : Char} (hc : isTokenByte c = false)
    (candidate text more : List Char) :
    redactTokensFrom candidate (text ++ c :: more) =
      redactTokensFrom candidate text ++ c :: redactTokensFrom [] more := by
  induction text generalizing candidate with
  | nil => simp [redactTokensFrom, hc]
  | cons d text ih =>
    rw [List.cons_append, redactTokensFrom, redactTokensFrom]
    split_ifs
    · exact ih _
    · rw [ih, List.append_assoc, List.cons_append]

theorem redactTokensFrom_run {run : List Char} (h : ∀ c ∈ run, isTokenByte c = true)
    (candidate : List Char) : redactTokensFrom candidate run = redactToken (candidate ++ run) := by
  induction run generalizing candidate with
  | nil => rw [redactTokensFrom, List.append_nil]
  | cons c run ih =>
    rw [redactTokensFrom, if_pos (h c (List.mem_cons_self ..)),
      ih (fun d hd => h d (List.mem_cons_of_mem _ hd)), List.append_assoc, List.singleton_append]

theorem redactToken_short {run : List Char} (h : run.length < 22) : redactToken run = run := by
  have hhex : isLongHexToken run = false := by
    rw [isLongHexToken, Bool.and_eq_false_iff]
    left
    rw [decide_eq_false_iff_not]
    omega
  have hcode : isRecoveryCode run = false := by
    rw [isRecoveryCode, Bool.and_assoc, Bool.and_assoc, Bool.and_eq_false_iff]
    left
    rw [decide_eq_false_iff_not]
    omega
  rw [redactToken, isSensitiveToken, hhex, hcode]
  rfl

/-! Secrets. -/

/-- The shapes of secrets that are generated: hex digits, and recovery codes in three groups. -/
def IsSecret (secret : List Char) : Prop :=
  (32 ≤ secret.length ∧ ∀ c ∈ secret, isAsciiHexdigit c = true) ∨
    ∃ first second third : List Char, secret = first ++ '-' :: (second ++ '-' :: third) ∧
      first.length = 8 ∧ second.length = 6 ∧ third.length = 6 ∧
      ∀ c ∈ first ++ second ++ third, isAsciiHexdigit c = true

theorem isAsciiAlphanumeric_of_hex {c : Char} (h : isAsciiHexdigit c = true) :
    isAsciiAlphanumeric c = true := by
  simp only [isAsciiHexdigit, Bool.or_eq_true, Bool.and_eq_true, decide_eq_true_eq] at h
  simp only [isAsciiAlphanumeric, Bool.or_eq_true, Bool.and_eq_true, decide_eq_true_eq]
  rcases h with (⟨hlow, hhigh⟩ | ⟨hlow, hhigh⟩) | ⟨hlow, hhigh⟩
  · exact Or.inr ⟨hlow, hhigh⟩
  · exact Or.inl (Or.inl ⟨hlow, Char.le_trans hhigh (by decide)⟩)
  · exact Or.inl (Or.inr ⟨hlow, Char.le_trans hhigh (by decide)⟩)

theorem isTokenByte_of_hex {c : Char} (h : isAsciiHexdigit c = true) : isTokenByte c = true := by
  rw [isTokenByte, isAsciiAlphanumeric_of_hex h]
  rfl

/-- The characters of a secret. -/
structure SecretChars (secret : List Char) : Prop where
  long : 22 ≤ secret.length
  chars : ∀ c ∈ secret, isAsciiHexdigit c = true ∨ c = '-'

theorem IsSecret.secretChars {secret : List Char} (h : IsSecret secret) : SecretChars secret := by
  rcases h with ⟨hlength, hex⟩ | ⟨first, second, third, rfl, hfirst, hsecond, hthird, hex⟩
  · exact ⟨by omega, fun c hc => Or.inl (hex c hc)⟩
  · refine ⟨?_, ?_⟩
    · simp only [List.length_append, List.length_cons]
      omega
    · intro c hc
      simp only [List.mem_append, List.mem_cons] at hc hex
      rcases hc with hc | hc | hc | hc | hc
      · exact Or.inl (hex c (Or.inl (Or.inl hc)))
      · exact Or.inr hc
      · exact Or.inl (hex c (Or.inl (Or.inr hc)))
      · exact Or.inr hc
      · exact Or.inl (hex c (Or.inr hc))

namespace SecretChars

variable {secret : List Char} (h : SecretChars secret)

include h

theorem ne_nil : secret ≠ [] := by
  rintro rfl
  exact absurd h.long (by decide)

theorem tokens : ∀ c ∈ secret, isTokenByte c = true := by
  intro c hc
  rcases h.chars c hc with hex | rfl
  · exact isTokenByte_of_hex hex
  · decide

theorem not_mem {c : Char} (hex : isAsciiHexdigit c = false) (hdash : c ≠ '-') : c ∉ secret := by
  intro hmem
  rcases h.chars c hmem with hc | hc
  · rw [hex] at hc
    cases hc
  · exact hdash hc

theorem not_infix_redaction : ¬secret <:+: redaction := by
  intro hinside
  have hlength := hinside.length_le
  have hlong := h.long
  have hten : redaction.length = 10 := by decide
  omega

/-- The token pass leaves a secret exactly where the text shows it. -/
theorem infix_redactTokensFrom {candidate : List Char}
    (hcandidate : ∀ c ∈ candidate, isTokenByte c = true) (text : List Char) :
    secret <:+: redactTokensFrom candidate text ↔
      Shows isTokenByte isSensitiveToken secret (candidate ++ text) := by
  have run : ∀ run : List Char, (∀ c ∈ run, isTokenByte c = true) →
      (secret <:+: redactToken run ↔ Shows isTokenByte isSensitiveToken secret run) := by
    intro run hrun
    rw [shows_run hrun, redactToken]
    cases hsensitive : isSensitiveToken run with
    | true =>
      rw [if_pos rfl]
      constructor
      · exact fun hinside => absurd hinside h.not_infix_redaction
      · rintro ⟨-, hfalse⟩
        cases hfalse
    | false =>
      rw [if_neg (by decide)]
      exact ⟨fun hinside => ⟨hinside, rfl⟩, fun hboth => hboth.1⟩
  induction text generalizing candidate with
  | nil =>
    rw [redactTokensFrom, List.append_nil]
    exact run candidate hcandidate
  | cons c text ih =>
    have hnone : ∀ d ∈ ([] : List Char), isTokenByte d = true := fun d hd => (nomatch hd)
    rw [redactTokensFrom]
    by_cases hc : isTokenByte c = true
    · have hlonger : ∀ d ∈ candidate ++ [c], isTokenByte d = true := by
        intro d hd
        rcases List.mem_append.mp hd with hd | hd
        · exact hcandidate d hd
        · rwa [List.mem_singleton.mp hd]
      have hrest := ih hlonger
      rw [List.append_assoc, List.singleton_append] at hrest
      rw [if_pos hc]
      exact hrest
    · have hseparator : isTokenByte c = false := by simpa using hc
      have hout : c ∉ secret := by
        intro hmem
        rw [h.tokens c hmem] at hseparator
        cases hseparator
      have hrest := ih hnone
      rw [List.nil_append] at hrest
      rw [if_neg hc, infix_separator h.ne_nil hout,
        shows_separator h.ne_nil h.tokens hseparator]
      exact or_congr (run candidate hcandidate) hrest

end SecretChars

end Sunbolt.Audit
