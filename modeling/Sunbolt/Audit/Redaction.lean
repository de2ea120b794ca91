/- Module: Sunbolt/Audit/Redaction
   scope: sunbolt-audit/src/redaction.rs
   digest: The redactor: header lines, values of sensitive keys, secret-shaped tokens. -/

import Mathlib.Data.List.Basic
import Mathlib.Data.List.TakeWhile

set_option autoImplicit false
set_option relaxedAutoImplicit false

namespace Sunbolt.Audit

/-! The scanners of the source compare bytes with ASCII bytes only, and no byte of a longer
character is one, so they read the text here character by character. A position is what has
been read and what is left. -/

def redaction : List Char := "[REDACTED]".toList

def sensitiveKeys : List String :=
  ["authorization", "cookie", "set_cookie", "password", "secret", "token", "session_token",
    "reconnect_token", "enrollment_token", "sunbolt_agent_enrollment_token",
    "credential_secret", "credential_proof", "node_credential", "node_credentials",
    "recovery_code", "recovery_codes", "passkey_credential", "credential_id",
    "allowed_credential_ids", "public_key", "challenge", "challenge_id", "raw_id",
    "attestation_object", "client_data_json", "authenticator_data", "signature",
    "user_handle"]

/-! Header lines. -/

/-- `str::trim_start` trims the characters with the Unicode property White_Space. -/
def isWhitespace (c : Char) : Bool :=
  let n := c.toNat
  (9 ≤ n && n ≤ 13) || n = 32 || n = 0x85 || n = 0xa0 || n = 0x1680 ||
    (0x2000 ≤ n && n ≤ 0x200a) || n = 0x2028 || n = 0x2029 || n = 0x202f || n = 0x205f ||
    n = 0x3000

def toAsciiLowercase (c : Char) : Char :=
  if 'A' ≤ c ∧ c ≤ 'Z' then Char.ofNat (c.toNat + 32) else c

def eqIgnoreAsciiCase (left right : List Char) : Bool :=
  left.map toAsciiLowercase = right.map toAsciiLowercase

def isSensitiveHeaderName (name : List Char) : Bool :=
  eqIgnoreAsciiCase name "cookie".toList || eqIgnoreAsciiCase name "set-cookie".toList ||
    eqIgnoreAsciiCase name "authorization".toList

/-- One line without its newline. -/
def redactHeaderLine (line : List Char) : List Char :=
  let indent := line.takeWhile isWhitespace
  let trimmed := line.dropWhile isWhitespace
  let name := trimmed.takeWhile (· ≠ ':')
  if ':' ∈ trimmed ∧ isSensitiveHeaderName name then
    indent ++ name ++ ": ".toList ++ redaction
  else line

/-- The lines of the text one after the other; `line` is what the current one has so far. -/
def redactHeadersFrom (line : List Char) : List Char → List Char
  | [] => redactHeaderLine line
  | c :: rest =>
    if c = '\n' then redactHeaderLine line ++ '\n' :: redactHeadersFrom [] rest
    else redactHeadersFrom (line ++ [c]) rest

def redactSensitiveHeaders (text : List Char) : List Char := redactHeadersFrom [] text

/-! Values of sensitive keys. -/

def isAsciiAlphanumeric (c : Char) : Bool :=
  ('a' ≤ c && c ≤ 'z') || ('A' ≤ c && c ≤ 'Z') || ('0' ≤ c && c ≤ '9')

def isIdentifierByte (c : Char) : Bool := isAsciiAlphanumeric c || c = '_' || c = '-'

def isAsciiWhitespace (c : Char) : Bool :=
  c = ' ' || c = '\t' || c = '\n' || c = '\r' || c = Char.ofNat 12

def normalizeKey (key : List Char) : List Char :=
  key.map (fun c => if c = '-' then '_' else toAsciiLowercase c)

def isSensitiveKey (key : List Char) : Bool :=
  sensitiveKeys.any (fun sensitive =>
    key = sensitive.toList || ('_' :: sensitive.toList).isSuffixOf key)

/-- The next identifier, with what stands before it and after it; `previous` is the character
    before the text. -/
def nextIdentifier (previous : Option Char) :
    List Char → Option (List Char × List Char × List Char)
  | [] => none
  | c :: rest =>
    if isIdentifierByte c && !previous.any isIdentifierByte then
      some ([], c :: rest.takeWhile isIdentifierByte, rest.dropWhile isIdentifierByte)
    else
      (nextIdentifier (some c) rest).map (fun (skipped, key, rest) => (c :: skipped, key, rest))

/-- The delimiter after a key, with the whitespace and the quote before it, and what follows. -/
def nextKeyValueDelimiter (text : List Char) : Option (List Char × List Char) :=
  let spaces := text.takeWhile isAsciiWhitespace
  let text := text.dropWhile isAsciiWhitespace
  let (skipped, text) :=
    match text with
    | '"' :: rest =>
      (spaces ++ '"' :: rest.takeWhile isAsciiWhitespace, rest.dropWhile isAsciiWhitespace)
    | text => (spaces, text)
  match text with
  | [] => none
  | c :: rest => if c = ':' || c = '=' then some (skipped ++ [c], rest) else none

/-- From inside a quoted value to its closing quote. -/
def quotedValue (quote : Char) : List Char → List Char × List Char
  | [] => ([], [])
  | '\\' :: [] => (['\\'], [])
  | '\\' :: c :: rest =>
    let (value, rest) := quotedValue quote rest
    ('\\' :: c :: value, rest)
  | c :: rest =>
    if c = quote then ([], c :: rest)
    else
      let (value, rest) := quotedValue quote rest
      (c :: value, rest)

/-- The depth is a `u32` that wraps as in a release build. -/
def balancedValue (opening closing : Char) :
    Nat → UInt32 → List Char → List Char × List Char
  | 0, _, text => ([], text)
  | _ + 1, _, [] => ([], [])
  | fuel + 1, depth, c :: rest =>
    let continueWith (taken : List Char) (depth : UInt32) (rest : List Char) :=
      let (value, rest) := balancedValue opening closing fuel depth rest
      (taken ++ value, rest)
    if c = opening then continueWith [c] (depth + 1) rest
    else if c = closing then
      let depth := if depth = 0 then 0 else depth - 1
      if depth = 0 then ([c], rest) else continueWith [c] depth rest
    else if c = '"' || c = '\'' then
      match quotedValue c rest with
      | (quoted, []) => (c :: quoted, [])
      | (quoted, quote :: rest) => continueWith (c :: quoted ++ [quote]) depth rest
    else continueWith [c] depth rest

def endsUnquoted (c : Char) : Bool :=
  c = ',' || c = ';' || c = '\n' || c = '\r' || isAsciiWhitespace c

/-- What stands before the value, the value, and what follows it. -/
def valueBounds (text : List Char) : Option (List Char × List Char × List Char) :=
  let spaces := text.takeWhile isAsciiWhitespace
  match text.dropWhile isAsciiWhitespace with
  | [] => none
  | c :: rest =>
    if c = '"' || c = '\'' then
      let (value, rest) := quotedValue c rest
      some (spaces ++ [c], value, rest)
    else if c = '[' then
      let (value, rest) := balancedValue '[' ']' (rest.length + 1) 0 (c :: rest)
      some (spaces, value, rest)
    else if c = '{' then
      let (value, rest) := balancedValue '{' '}' (rest.length + 1) 0 (c :: rest)
      some (spaces, value, rest)
    else
      some (spaces, (c :: rest).takeWhile (!endsUnquoted ·),
        (c :: rest).dropWhile (!endsUnquoted ·))

/-- The delimiter and the bounds of the value after a sensitive key. -/
def keyedValue (text : List Char) : Option (List Char × List Char × List Char) :=
  (nextKeyValueDelimiter text).bind (fun (delimiter, rest) =>
    (valueBounds rest).map (fun (before, value, rest) => (delimiter ++ before, value, rest)))

/-- The loop over the identifiers; every turn reads at least one character, so a text is done
    after as many turns as it has characters. -/
def redactKeyValuesFrom : Nat → Option Char → List Char → List Char
  | 0, _, text => text
  | fuel + 1, previous, text =>
    match nextIdentifier previous text with
    | none => text
    | some (skipped, key, rest) =>
      match if isSensitiveKey (normalizeKey key) then keyedValue rest else none with
      | none => skipped ++ key ++ redactKeyValuesFrom fuel key.getLast? rest
      | some (before, value, rest) =>
        skipped ++ key ++ before ++ redaction ++
          redactKeyValuesFrom fuel (before ++ value).getLast? rest

def redactSensitiveKeyValues (text : List Char) : List Char :=
  redactKeyValuesFrom text.length none text

/-! Secret-shaped tokens. -/

def isTokenByte (c : Char) : Bool :=
  isAsciiAlphanumeric c || c = '-' || c = '_' || c = '.' || c = ':'

def isAsciiHexdigit (c : Char) : Bool :=
  ('0' ≤ c && c ≤ '9') || ('a' ≤ c && c ≤ 'f') || ('A' ≤ c && c ≤ 'F')

def isLongHexToken (candidate : List Char) : Bool :=
  32 ≤ candidate.length && candidate.all isAsciiHexdigit

def isRecoveryCode (candidate : List Char) : Bool :=
  candidate.length = 22 && candidate[8]? = some '-' && candidate[15]? = some '-' &&
    candidate.zipIdx.all (fun (c, index) => index = 8 || index = 15 || isAsciiHexdigit c)

def isSensitiveToken (candidate : List Char) : Bool :=
  isLongHexToken candidate || isRecoveryCode candidate

def redactToken (candidate : List Char) : List Char :=
  if isSensitiveToken candidate then redaction else candidate

/-- The candidates of the text one after the other; `candidate` is what the current one has so
    far, and nothing outside of one. -/
def redactTokensFrom (candidate : List Char) : List Char → List Char
  | [] => redactToken candidate
  | c :: rest =>
    if isTokenByte c then redactTokensFrom (candidate ++ [c]) rest
    else redactToken candidate ++ c :: redactTokensFrom [] rest

def redactSensitiveTokens (text : List Char) : List Char := redactTokensFrom [] text

/-- The three passes, one after the other. -/
def redactSensitive (text : String) : String :=
  String.ofList (redactSensitiveTokens (redactSensitiveKeyValues
    (redactSensitiveHeaders text.toList)))

end Sunbolt.Audit
