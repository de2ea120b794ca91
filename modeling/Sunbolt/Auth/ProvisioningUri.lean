/- Module: Sunbolt/Auth/ProvisioningUri
   scope: sunbolt-auth/src/totp.rs
   digest: The provisioning URI of a TOTP factor, and what an authenticator app reads from it. -/

import Sunbolt.Auth.Base32
import Sunbolt.Auth.Factors
import Sunbolt.Library.PercentCoding
import Sunbolt.Library.Utf8Lossy
import Mathlib.Data.Nat.Digits.Lemmas

set_option autoImplicit false
set_option relaxedAutoImplicit false

namespace Sunbolt.Auth

open Sunbolt.Library
open Sunbolt.Library.PercentCoding (splitFirst splitFirst_append)

/-- The bytes that `url_encode` leaves as they are. -/
def isUnreserved (byte : UInt8) : Bool :=
  let n := byte.toNat
  (65 ≤ n && n ≤ 90) || (97 ≤ n && n ≤ 122) || (48 ≤ n && n ≤ 57) || n = 45 || n = 95 || n = 46 ||
    n = 126

def urlEncode (value : String) : List Char :=
  PercentCoding.encode isUnreserved (Utf8Lossy.encode value.toList)

def provisioningUri (config : TotpConfig) (accountName : String) (secret : TotpSecret) : String :=
  let issuer := urlEncode config.issuer
  let accountName := urlEncode accountName
  String.ofList ("otpauth://totp/".toList ++ issuer ++ ":".toList ++ accountName ++
    "?secret=".toList ++ base32Encode secret.bytes ++ "&issuer=".toList ++ issuer ++
    "&algorithm=SHA256&digits=".toList ++ (toString config.digits).toList ++
    "&period=".toList ++ (toString (max config.periodSecs 1)).toList)

def TotpFactor.provisioningUri (factor : TotpFactor) (accountName : String) : String :=
  Auth.provisioningUri factor.config accountName factor.secret

/-! Reading a URI. -/

/-- What an otpauth URI says. -/
structure OtpauthUri where
  labelIssuer : String
  accountName : String
  secret : List UInt8
  issuer : String
  algorithm : String
  digits : Nat
  period : Nat
  deriving DecidableEq, Repr

/-- A percent-encoded text, which has to be well-formed UTF-8. -/
def percentDecode (text : List Char) : Option String := do
  let bytes ← PercentCoding.decode text
  let decoded := Utf8Lossy.decode bytes
  if Utf8Lossy.encode decoded = bytes then some (String.ofList decoded) else none

def readNumber (text : String) : Option Nat :=
  if text.toList ≠ [] ∧ text.toList.all Char.isDigit then
    some (Nat.ofDigitChars 10 text.toList 0)
  else none

def readParameter (parameter : List Char) : Option (String × String) := do
  let (key, value) ← splitFirst '=' parameter
  return (String.ofList key, ← percentDecode value)

def readFields (labelIssuer accountName : String) (parameters : List (String × String)) :
    Option OtpauthUri := do
  let secret ← parameters.lookup "secret"
  let issuer ← parameters.lookup "issuer"
  let algorithm ← parameters.lookup "algorithm"
  let digits ← parameters.lookup "digits"
  let period ← parameters.lookup "period"
  return ⟨labelIssuer, accountName, ← base32.decode secret.toList, issuer, algorithm,
    ← readNumber digits, ← readNumber period⟩

/-- The path is split at the first `:`, the query at every `&` and the first `=`. -/
def readOtpauth (uri : String) : Option OtpauthUri := do
  let start := "otpauth://totp/".toList
  let rest ← if start.isPrefixOf uri.toList then some (uri.toList.drop start.length) else none
  let (path, query) ← splitFirst '?' rest
  let (issuer, account) ← splitFirst ':' path
  let parameters ← (query.splitOn '&').mapM readParameter
  readFields (← percentDecode issuer) (← percentDecode account) parameters

/-! The fields. -/

theorem isUnreserved_ascii (b : UInt8) (h : isUnreserved b = true) :
    b.toNat < 128 ∧ b.toNat ≠ 37 := by
  simp only [isUnreserved, Bool.or_eq_true, Bool.and_eq_true, decide_eq_true_eq] at h
  omega

theorem percentDecode_urlEncode (value : String) :
    percentDecode (urlEncode value) = some value := by
  rw [percentDecode, urlEncode, PercentCoding.decode_encode isUnreserved_ascii]
  simp only [Option.bind_eq_bind, Option.bind_some, Utf8Lossy.decode_encode, if_true,
    String.ofList_toList]

/-- A character that stands for itself in a URI. -/
def isPlain (c : Char) : Bool := c.toNat < 128 && isUnreserved (UInt8.ofNat c.toNat)

theorem isPlain_urlEncode {value : String} {c : Char} (h : c ∈ urlEncode value) :
    isPlain c = true ∨ c = '%' := by
  rcases PercentCoding.mem_encode h with ⟨b, hkeep, rfl⟩ | rfl | hhex
  · left
    have hascii := (isUnreserved_ascii b hkeep).1
    rw [isPlain, Utf8Lossy.toNat_charOfByte, UInt8.ofNat_toNat, hkeep, decide_eq_true hascii]
    rfl
  · exact Or.inr rfl
  · have hall : PercentCoding.hexDigits.all isPlain = true := by decide
    exact Or.inl (List.all_eq_true.mp hall c hhex)

/-- No delimiter of the format is left in an encoded field. -/
theorem delimiter_not_mem_urlEncode {value : String} {delimiter : Char}
    (h : isPlain delimiter = false) (hpercent : delimiter ≠ '%') :
    delimiter ∉ urlEncode value := by
  intro hmem
  rcases isPlain_urlEncode hmem with hplain | heq
  · rw [h] at hplain
    cases hplain
  · exact hpercent heq

/-- Plain text is encoded as itself. -/
theorem urlEncode_plain {text : List Char} (h : ∀ c ∈ text, isPlain c = true) :
    urlEncode (String.ofList text) = text := by
  rw [urlEncode, String.toList_ofList]
  induction text with
  | nil => rfl
  | cons c rest ih =>
    obtain ⟨hc, hrest⟩ := List.forall_mem_cons.mp h
    rw [isPlain, Bool.and_eq_true, decide_eq_true_iff] at hc
    have hbyte : (UInt8.ofNat c.toNat).toNat = c.toNat := by
      rw [UInt8.toNat_ofNat', Nat.mod_eq_of_lt (by omega)]
    rw [Utf8Lossy.encode, List.flatMap_cons, Utf8Lossy.encodeChar_ascii hc.1, ← Utf8Lossy.encode,
      PercentCoding.encode, List.flatMap_append, ← PercentCoding.encode,
      ← PercentCoding.encode, ih hrest]
    rw [PercentCoding.encode, List.flatMap_singleton, PercentCoding.encodeByte, if_pos hc.2, hbyte,
      Char.ofNat_toNat]
    rfl

theorem percentDecode_plain {text : List Char} (h : ∀ c ∈ text, isPlain c = true) :
    percentDecode text = some (String.ofList text) := by
  have hdecoded := percentDecode_urlEncode (String.ofList text)
  rwa [urlEncode_plain h] at hdecoded

theorem isPlain_base32Encode (bytes : List UInt8) : ∀ c ∈ base32Encode bytes, isPlain c = true := by
  have hall : base32Alphabet.all isPlain = true := by decide
  intro c hc
  rw [base32Encode_eq] at hc
  exact List.all_eq_true.mp hall c (base32.mem_symbols_of_mem_encode (by decide) hc)

theorem toList_toString (n : Nat) : (toString n).toList = Nat.toDigits 10 n := by simp

theorem isDigit_toString (n : Nat) : ∀ c ∈ (toString n).toList, c.isDigit = true := by
  intro c hc
  rw [toList_toString] at hc
  exact Nat.isDigit_of_mem_toDigits (by decide) (by decide) hc

theorem isPlain_of_isDigit {c : Char} (h : c.isDigit = true) : isPlain c = true := by
  have hrange : 48 ≤ c.toNat ∧ c.toNat ≤ 57 := by
    simpa [Char.isDigit, UInt32.le_iff_toNat_le] using h
  have hbyte : (UInt8.ofNat c.toNat).toNat = c.toNat := by
    rw [UInt8.toNat_ofNat', Nat.mod_eq_of_lt (by omega)]
  simp only [isPlain, isUnreserved, hbyte, Bool.and_eq_true, Bool.or_eq_true, decide_eq_true_eq]
  omega

theorem readNumber_toString (n : Nat) : readNumber (toString n) = some n := by
  have hne : (toString n).toList ≠ [] := by
    rw [toList_toString]
    exact List.ne_nil_of_length_pos Nat.length_toDigits_pos
  rw [readNumber, if_pos ⟨hne, List.all_eq_true.mpr (isDigit_toString n)⟩, toList_toString,
    Nat.ofDigitChars_toDigits (by decide) (by decide)]

/-! The whole URI. -/

theorem readParameter_eq {key value : List Char} {text : String} (h : '=' ∉ key)
    (hvalue : percentDecode value = some text) :
    readParameter (key ++ '=' :: value) = some (String.ofList key, text) := by
  rw [readParameter, splitFirst_append h]
  simp only [Option.bind_eq_bind, Option.bind_some, hvalue]
  rfl

/-- The query, parameter by parameter. -/
private def parametersOf (config : TotpConfig) (secret : TotpSecret) : List (List Char) :=
  ["secret".toList ++ '=' :: base32Encode secret.bytes,
    "issuer".toList ++ '=' :: urlEncode config.issuer,
    "algorithm".toList ++ '=' :: "SHA256".toList,
    "digits".toList ++ '=' :: (toString config.digits).toList,
    "period".toList ++ '=' :: (toString (max config.periodSecs 1)).toList]

private theorem toList_provisioningUri (config : TotpConfig) (accountName : String)
    (secret : TotpSecret) :
    (provisioningUri config accountName secret).toList =
      "otpauth://totp/".toList ++ (urlEncode config.issuer ++ ':' :: urlEncode accountName ++
        '?' :: ['&'].intercalate (parametersOf config secret)) := by
  have hcolon : ":".toList = [':'] := rfl
  have hsecret : "?secret=".toList = '?' :: ("secret".toList ++ ['=']) := rfl
  have hissuer : "&issuer=".toList = '&' :: ("issuer".toList ++ ['=']) := rfl
  have hdigits : "&algorithm=SHA256&digits=".toList =
      '&' :: ("algorithm".toList ++ '=' :: ("SHA256".toList ++
        '&' :: ("digits".toList ++ ['=']))) := rfl
  have hperiod : "&period=".toList = '&' :: ("period".toList ++ ['=']) := rfl
  refine String.toList_ofList.trans ?_
  rw [parametersOf, hcolon, hsecret, hissuer, hdigits, hperiod]
  simp only [List.intercalate_cons_cons, List.intercalate_singleton, List.append_assoc,
    List.cons_append, List.nil_append]

private theorem plain_not_mem {text : List Char} (h : ∀ c ∈ text, isPlain c = true)
    {delimiter : Char} (hdelimiter : isPlain delimiter = false) : delimiter ∉ text := by
  intro hmem
  rw [h _ hmem] at hdelimiter
  cases hdelimiter

private theorem ampersand_not_mem (config : TotpConfig) (secret : TotpSecret) :
    ∀ parameter ∈ parametersOf config secret, '&' ∉ parameter := by
  have hpart : ∀ {key value : List Char}, '&' ∉ key → '&' ∉ value → '&' ∉ key ++ '=' :: value := by
    intro key value hkey hvalue
    rw [List.mem_append, List.mem_cons]
    rintro (hmem | heq | hmem)
    · exact hkey hmem
    · cases heq
    · exact hvalue hmem
  have hnumber : ∀ n : Nat, '&' ∉ (toString n).toList := fun n =>
    plain_not_mem (fun c hc => isPlain_of_isDigit (isDigit_toString n c hc)) (by decide)
  intro parameter hparameter
  simp only [parametersOf, List.mem_cons, List.not_mem_nil, or_false] at hparameter
  rcases hparameter with rfl | rfl | rfl | rfl | rfl
  · exact hpart (by decide) (plain_not_mem (isPlain_base32Encode _) (by decide))
  · exact hpart (by decide) (delimiter_not_mem_urlEncode (by decide) (by decide))
  · exact hpart (by decide) (by decide)
  · exact hpart (by decide) (hnumber _)
  · exact hpart (by decide) (hnumber _)

private theorem mapM_readParameter (config : TotpConfig) (secret : TotpSecret) :
    (parametersOf config secret).mapM readParameter =
      some [("secret", String.ofList (base32Encode secret.bytes)), ("issuer", config.issuer),
        ("algorithm", "SHA256"), ("digits", toString config.digits),
        ("period", toString (max config.periodSecs 1))] := by
  have hnumber : ∀ n : Nat, percentDecode (toString n).toList = some (toString n) := by
    intro n
    rw [percentDecode_plain fun c hc => isPlain_of_isDigit (isDigit_toString n c hc),
      String.ofList_toList]
  have halgorithm : percentDecode "SHA256".toList = some "SHA256" := by
    rw [percentDecode_plain (List.all_eq_true.mp (by decide)), String.ofList_toList]
  rw [parametersOf]
  simp only [List.mapM_cons, List.mapM_nil, readParameter_eq (by decide : '=' ∉ "secret".toList)
    (percentDecode_plain (isPlain_base32Encode secret.bytes)),
    readParameter_eq (by decide : '=' ∉ "issuer".toList) (percentDecode_urlEncode config.issuer),
    readParameter_eq (by decide : '=' ∉ "algorithm".toList) halgorithm,
    readParameter_eq (by decide : '=' ∉ "digits".toList) (hnumber config.digits),
    readParameter_eq (by decide : '=' ∉ "period".toList) (hnumber (max config.periodSecs 1)),
    String.ofList_toList]
  rfl

private theorem readFields_eq (config : TotpConfig) (accountName : String)
    (secret : TotpSecret) :
    readFields config.issuer accountName
        [("secret", String.ofList (base32Encode secret.bytes)), ("issuer", config.issuer),
          ("algorithm", "SHA256"), ("digits", toString config.digits),
          ("period", toString (max config.periodSecs 1))] =
      some ⟨config.issuer, accountName, secret.bytes, config.issuer, "SHA256", config.digits,
        max config.periodSecs 1⟩ := by
  have hdecoded : base32.decode (base32Encode secret.bytes) = some secret.bytes := by
    rw [base32Encode_eq]
    exact base32.decode_encode (by decide) (by decide) _
  simp only [readFields, List.lookup_cons, String.reduceBEq, beq_self_eq_true,
    Option.bind_eq_bind, Option.bind_some, String.toList_ofList, hdecoded, readNumber_toString]
  rfl

/-- An authenticator app reads from the URI what the factor was made of. -/
theorem readOtpauth_provisioningUri (config : TotpConfig) (accountName : String)
    (secret : TotpSecret) :
    readOtpauth (provisioningUri config accountName secret) =
      some ⟨config.issuer, accountName, secret.bytes, config.issuer, "SHA256", config.digits,
        max config.periodSecs 1⟩ := by
  have hpath : '?' ∉ urlEncode config.issuer ++ ':' :: urlEncode accountName := by
    rw [List.mem_append, List.mem_cons]
    rintro (hmem | heq | hmem)
    · exact delimiter_not_mem_urlEncode (by decide) (by decide) hmem
    · cases heq
    · exact delimiter_not_mem_urlEncode (by decide) (by decide) hmem
  have hlabel : ':' ∉ urlEncode config.issuer :=
    delimiter_not_mem_urlEncode (by decide) (by decide)
  have hquery : (['&'].intercalate (parametersOf config secret)).splitOn '&' =
      parametersOf config secret :=
    List.splitOn_intercalate '&' (ampersand_not_mem config secret) (List.cons_ne_nil _ _)
  have hstart : ("otpauth://totp/".toList).isPrefixOf
      (provisioningUri config accountName secret).toList = true := by
    rw [toList_provisioningUri, List.isPrefixOf_iff_prefix]
    exact List.prefix_append ..
  rw [readOtpauth, if_pos hstart, toList_provisioningUri, List.drop_left]
  simp only [Option.bind_eq_bind, Option.bind_some, splitFirst_append hpath,
    splitFirst_append hlabel, hquery, mapM_readParameter, percentDecode_urlEncode]
  exact readFields_eq ..

end Sunbolt.Auth
