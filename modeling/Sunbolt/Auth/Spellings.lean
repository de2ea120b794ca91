/- Module: Sunbolt/Auth/Spellings
   scope: sunbolt-auth/src/lib.rs, sunbolt-auth/src/recovery_codes.rs
   digest: Spellings of an email have one normal form, and salted hashes tell texts apart. -/

import Sunbolt.Auth.AuthStore
import Sunbolt.Audit.Canonical
import Mathlib.Data.List.DropRight

set_option autoImplicit false
set_option relaxedAutoImplicit false

namespace Sunbolt.Auth

open Sunbolt.Library
open Sunbolt.Audit (isWhitespace toAsciiLowercase hexDigits hexDigits_injective)

/-- No two of the messages have the same digest. -/
def NoCollision (sha256 : List UInt8 → List UInt8) (messages : List (List UInt8)) : Prop :=
  ∀ message ∈ messages, ∀ other ∈ messages, sha256 message = sha256 other → message = other

/-- What is hashed for a salted text. -/
def saltedBytes (salt : String) (text : List Char) : List UInt8 :=
  Utf8Lossy.encode (salt.toList ++ text)

/-- What is hashed for a password. -/
def passwordBytes (password : String) : List UInt8 :=
  saltedBytes "sunbolt-dev-v1:" password.toList

/-! Emails. -/

/-- An upper case letter and what becomes of it. -/
theorem toAsciiLowercase_cases (c : Char) : toAsciiLowercase c = c ∧ ¬('A' ≤ c ∧ c ≤ 'Z') ∨
    65 ≤ c.toNat ∧ c.toNat ≤ 90 ∧ (toAsciiLowercase c).toNat = c.toNat + 32 := by
  by_cases h : 'A' ≤ c ∧ c ≤ 'Z'
  · have hlow : 65 ≤ c.toNat := h.1
    have hhigh : c.toNat ≤ 90 := h.2
    have hvalid : (c.toNat + 32).isValidChar := Or.inl (by omega)
    refine Or.inr ⟨hlow, hhigh, ?_⟩
    rw [toAsciiLowercase, if_pos h, Char.ofNat, dif_pos hvalid]
    rfl
  · exact Or.inl ⟨if_neg h, h⟩

theorem toAsciiLowercase_idem (c : Char) :
    toAsciiLowercase (toAsciiLowercase c) = toAsciiLowercase c := by
  rcases toAsciiLowercase_cases c with ⟨h, -⟩ | ⟨hlow, hhigh, h⟩
  · rw [h, h]
  · rw [toAsciiLowercase, if_neg]
    rintro ⟨-, hle⟩
    have hle : (toAsciiLowercase c).toNat ≤ 90 := hle
    omega

theorem isWhitespace_toAsciiLowercase (c : Char) :
    isWhitespace (toAsciiLowercase c) = isWhitespace c := by
  rcases toAsciiLowercase_cases c with ⟨h, -⟩ | ⟨hlow, hhigh, h⟩
  · rw [h]
  · have hplain : ∀ d : Char, 65 ≤ d.toNat → d.toNat ≤ 122 → isWhitespace d = false := by
      intro d hfrom hto
      simp only [isWhitespace, Bool.or_eq_false_iff, Bool.and_eq_false_iff, decide_eq_false_iff_not]
      omega
    rw [hplain c hlow (by omega), hplain _ (by omega) (by omega)]

theorem trim_map_toAsciiLowercase (text : List Char) :
    trim (text.map toAsciiLowercase) = (trim text).map toAsciiLowercase := by
  have hspace : isWhitespace ∘ toAsciiLowercase = isWhitespace :=
    funext isWhitespace_toAsciiLowercase
  simp only [trim, List.dropWhile_map, ← List.map_reverse, hspace]

/-- Blanks around a text that neither starts nor ends with one are what is trimmed. -/
theorem trim_surrounded {front text back : List Char}
    (hfront : ∀ c ∈ front, isWhitespace c = true) (hback : ∀ c ∈ back, isWhitespace c = true)
    (hfirst : ∀ c, text.head? = some c → isWhitespace c = false)
    (hlast : ∀ c, text.getLast? = some c → isWhitespace c = false) :
    trim (front ++ text ++ back) = text := by
  rw [trim, List.append_assoc, List.dropWhile_append_of_pos hfront]
  cases text with
  | nil => rw [List.nil_append, List.dropWhile_eq_nil_iff.mpr hback]; rfl
  | cons c rest =>
    have hstart : (c :: rest ++ back).dropWhile isWhitespace = c :: rest ++ back := by
      simp [hfirst c rfl]
    have hend : (c :: rest).reverse.dropWhile isWhitespace = (c :: rest).reverse := by
      cases hreverse : (c :: rest).reverse with
      | nil => rfl
      | cons d others =>
        have hd : isWhitespace d = false := by
          refine hlast d ?_
          rw [← List.head?_reverse, hreverse]
          rfl
        simp [hd]
    rw [hstart, List.reverse_append, List.dropWhile_append_of_pos (by simpa using hback), hend,
      List.reverse_reverse]

theorem trim_eq_self {text : List Char} (h : ∀ c ∈ text, isWhitespace c = false) :
    trim text = text := by
  have hsurrounded : trim ([] ++ text ++ []) = text := trim_surrounded nofun nofun
    (fun c hc => h c (List.mem_of_mem_head? hc)) (fun c hc => h c (List.mem_of_getLast? hc))
  simpa using hsurrounded

/-- What is not a blank stays. -/
theorem mem_trim {c : Char} (hc : isWhitespace c = false) {text : List Char} :
    c ∈ trim text ↔ c ∈ text := by
  have hdrop : ∀ text : List Char, c ∈ text.dropWhile isWhitespace ↔ c ∈ text := by
    intro text
    have happend := congrArg (c ∈ ·) (List.takeWhile_append_dropWhile (p := isWhitespace)
      (l := text))
    simp only [List.mem_append, eq_iff_iff] at happend
    have htake : c ∉ text.takeWhile isWhitespace := by
      intro hmem
      rw [List.mem_takeWhile_imp hmem] at hc
      cases hc
    rw [← happend]
    exact (or_iff_right htake).symm
  rw [trim, List.mem_reverse, hdrop, List.mem_reverse, hdrop]

theorem isWhitespace_of_isDigit {c : Char} (h : c.isDigit = true) : isWhitespace c = false := by
  simp only [Char.isDigit, Bool.and_eq_true, decide_eq_true_eq] at h
  have hfrom : 48 ≤ c.toNat := h.1
  have hto : c.toNat ≤ 57 := h.2
  simp only [isWhitespace, Bool.or_eq_false_iff, Bool.and_eq_false_iff, decide_eq_false_iff_not]
  omega

theorem trim_idem (text : List Char) : trim (trim text) = trim text := by
  have htrim : ∀ text, trim text = (text.dropWhile isWhitespace).rdropWhile isWhitespace :=
    fun _ => rfl
  have hstart : (trim text).dropWhile isWhitespace = trim text := by
    rw [List.dropWhile_eq_self_iff]
    intro hlength
    -- the first character that is left is the first one after the blanks at the start
    have hinit : trim text <+: text.dropWhile isWhitespace := List.rdropWhile_prefix _ _
    have hhead := List.dropWhile_get_zero_not isWhitespace text (hlength.trans_le hinit.length_le)
    rw [hinit.getElem hlength]
    simpa using hhead
  rw [htrim (trim text), hstart, htrim text, List.rdropWhile_idempotent]

theorem normalizeEmail_idem (email : String) :
    normalizeEmail (normalizeEmail email) = normalizeEmail email := by
  have hlower : toAsciiLowercase ∘ toAsciiLowercase = toAsciiLowercase :=
    funext toAsciiLowercase_idem
  simp only [normalizeEmail, String.toList_ofList, trim_map_toAsciiLowercase, trim_idem,
    List.map_map, hlower]

/-! Salted hashes. -/

section Hashes

variable {primitives : Primitives} {messages : List (List UInt8)}

/-- Texts with the same salted hash are the same, where their messages do not collide. -/
theorem saltedHash_inj (free : NoCollision primitives.sha256 messages) {salt : String}
    {text other : List Char} (htext : saltedBytes salt text ∈ messages)
    (hother : saltedBytes salt other ∈ messages)
    (same : saltedHash primitives salt text = saltedHash primitives salt other) :
    text = other := by
  have hdigits : hexDigits (primitives.sha256 (saltedBytes salt text)) =
      hexDigits (primitives.sha256 (saltedBytes salt other)) := String.ofList_injective same
  have hbytes := free _ htext _ hother (hexDigits_injective hdigits)
  have hdecoded := congrArg Utf8Lossy.decode hbytes
  rw [saltedBytes, saltedBytes, Utf8Lossy.decode_encode, Utf8Lossy.decode_encode] at hdecoded
  exact List.append_cancel_left hdecoded

theorem passwordHash_inj (free : NoCollision primitives.sha256 messages) {password other : String}
    (hpassword : passwordBytes password ∈ messages) (hother : passwordBytes other ∈ messages)
    (same : passwordHash primitives password = passwordHash primitives other) :
    password = other :=
  String.toList_injective (saltedHash_inj free hpassword hother same)

end Hashes

end Sunbolt.Auth
