/- Module: Sunbolt/Audit/ByteRedaction
   scope: sunbolt-audit/src/redaction.rs
   digest: The redactor over the bytes of a text, with its indices, slices and additions checked. -/

import Sunbolt.Audit.Redaction
import Sunbolt.Library.Utf8Text

set_option autoImplicit false
set_option relaxedAutoImplicit false

namespace Sunbolt.Audit.ByteRedaction

open Sunbolt.Library Sunbolt.Library.Utf8Text
open Sunbolt.Library.Utf8Lossy (encode decode)

/-! A text has less than 2^63 bytes, so no sum of its indices leaves a `usize`. A byte is
compared with ASCII characters only, and is read as the character of its number. -/

def redaction : List UInt8 := encode Audit.redaction

/-! Header lines. -/

/-- A difference of two lengths. -/
def subtract (length other : Nat) : Checked Nat :=
  if other ≤ length then .ok (length - other) else .error .overflow

/-- `str::trim_start` -/
def trimStart (line : List UInt8) : List UInt8 := encode ((decode line).dropWhile isWhitespace)

def isSensitiveHeaderName (name : List UInt8) : Bool :=
  Audit.isSensitiveHeaderName (name.map charOf)

structure HeaderState where
  output : List UInt8
  remaining : List UInt8
  changed : Bool

/-- What a line with a sensitive header becomes. -/
def redactedHeaderLine (lineWithoutNewline newline : List UInt8) :
    Checked (Option (List UInt8)) := do
  let trimmedStart := trimStart lineWithoutNewline
  let prefixLen ← subtract lineWithoutNewline.length trimmedStart.length
  match find ':' trimmedStart with
  | none => return none
  | some colon =>
    let name := trimmedStart.take colon
    if isSensitiveHeaderName name then do
      let indent ← slice lineWithoutNewline 0 prefixLen
      return some (indent ++ name ++ encode ": ".toList ++ redaction ++ newline)
    else return none

def appendRedactedHeaderLine (output line : List UInt8) (changed : Bool) :
    Checked (List UInt8 × Bool) := do
  let endsWithNewline := line.getLast?.any (charOf · = '\n')
  let lineWithoutNewline := if endsWithNewline then line.dropLast else line
  let newline := if endsWithNewline then encode ['\n'] else []
  match ← redactedHeaderLine lineWithoutNewline newline with
  | some redacted => return (output ++ redacted, true)
  | none => return (output ++ line, changed)

def headerTurn (state : HeaderState) : Checked (Turn HeaderState HeaderState) :=
  if state.remaining = [] then return .finish state
  else match find '\n' state.remaining with
    | none => do
      let (output, changed) ←
        appendRedactedHeaderLine state.output state.remaining state.changed
      return .finish ⟨output, state.remaining, changed⟩
    | some lineEnd => do
      let (line, rest) ← splitAt state.remaining (lineEnd + 1)
      let (output, changed) ← appendRedactedHeaderLine state.output line state.changed
      return .goOn ⟨output, rest, changed⟩

def redactSensitiveHeaders (text : List UInt8) : Checked (List UInt8) := do
  let state ← runLoop headerTurn (text.length + 1) ⟨[], text, false⟩
  return if state.changed then state.output else text

/-! Values of sensitive keys. -/

/-- Whether an identifier starts here. -/
def startsIdentifier (text : List UInt8) (index : Nat) : Checked Bool := do
  let byte ← byteAt text index
  if isIdentifierByte (charOf byte) then
    if index = 0 then return true
    else do
      let previous ← byteAt text (index - 1)
      return !isIdentifierByte (charOf previous)
  else return false

def nextIdentifierTurn (text : List UInt8) (index : Nat) :
    Checked (Turn Nat (Option (Nat × Nat × List Char))) :=
  if index < text.length then do
    if ← startsIdentifier text index then do
      let stop ← skipWhile isIdentifierByte text index
      let key ← slice text index stop
      return .finish (some (index, stop, normalizeKey (key.map charOf)))
    else return .goOn (index + 1)
  else return .finish none

def nextIdentifier (text : List UInt8) (startAt : Nat) :
    Checked (Option (Nat × Nat × List Char)) :=
  runLoop (nextIdentifierTurn text) (text.length + 1) startAt

def nextKeyValueDelimiter (text : List UInt8) (startAt : Nat) : Checked (Option (Nat × Nat)) := do
  let index ← skipWhile isAsciiWhitespace text startAt
  let index ←
    if ← holdsAt (· = '"') text index then skipWhile isAsciiWhitespace text (index + 1)
    else pure index
  if ← holdsAt (fun c => c = ':' || c = '=') text index then return some (index, index + 1)
  else return none

def quotedTurn (quote : UInt8) (text : List UInt8) (index : Nat) : Checked (Turn Nat Nat) :=
  if index < text.length then do
    let byte ← byteAt text index
    if charOf byte = '\\' then return .goOn (index + 2)
    else if byte = quote then return .finish index
    else return .goOn (index + 1)
  else return .finish text.length

def quotedValueBounds (text : List UInt8) (quoteStart : Nat) : Checked (Nat × Nat) := do
  let quote ← byteAt text quoteStart
  let stop ← runLoop (quotedTurn quote text) (text.length + 1) (quoteStart + 1)
  return (quoteStart + 1, stop)

/-- `depth += 1` on a `u32`: a build with overflow checks panics where one without wraps. -/
def increment (overflowChecks : Bool) (depth : UInt32) : Checked UInt32 :=
  if overflowChecks && depth = 0xFFFFFFFF then .error .overflow else .ok (depth + 1)

def balancedTurn (overflowChecks : Bool) (opening closing : Char) (text : List UInt8) :
    Nat × UInt32 → Checked (Turn (Nat × UInt32) Nat)
  | (index, depth) =>
    if index < text.length then do
      let byte ← byteAt text index
      if charOf byte = opening then do
        let depth ← increment overflowChecks depth
        return .goOn (index + 1, depth)
      else if charOf byte = closing then
        let depth := if depth = 0 then 0 else depth - 1
        if depth = 0 then return .finish (index + 1) else return .goOn (index + 1, depth)
      else if charOf byte = '"' || charOf byte = '\'' then do
        let (_, stop) ← quotedValueBounds text index
        return .goOn (stop + 1, depth)
      else return .goOn (index + 1, depth)
    else return .finish text.length

def balancedValueEnd (overflowChecks : Bool) (text : List UInt8) (startAt : Nat)
    (opening closing : Char) : Checked Nat :=
  runLoop (balancedTurn overflowChecks opening closing text) (text.length + 1) (startAt, 0)

def unquotedTurn (text : List UInt8) (index : Nat) : Checked (Turn Nat Nat) := do
  if ← holdsAt (fun c => !(c = ',' || c = ';' || c = '\n' || c = '\r')) text index then
    if ← holdsAt isAsciiWhitespace text index then return .finish index
    else return .goOn (index + 1)
  else return .finish index

def unquotedValueEnd (text : List UInt8) (startAt : Nat) : Checked Nat :=
  runLoop (unquotedTurn text) (text.length + 1) startAt

def valueBounds (overflowChecks : Bool) (text : List UInt8) (startAt : Nat) :
    Checked (Option (Nat × Nat)) := do
  let index ← skipWhile isAsciiWhitespace text startAt
  if text.length ≤ index then return none
  else do
    let byte ← byteAt text index
    if charOf byte = '"' || charOf byte = '\'' then
      some <$> quotedValueBounds text index
    else if charOf byte = '[' then do
      let stop ← balancedValueEnd overflowChecks text index '[' ']'
      return some (index, stop)
    else if charOf byte = '{' then do
      let stop ← balancedValueEnd overflowChecks text index '{' '}'
      return some (index, stop)
    else do
      let stop ← unquotedValueEnd text index
      return some (index, stop)

/-- What a pass has written, and the indices it has copied up to and read up to. -/
structure PassState where
  output : List UInt8
  lastEnd : Nat
  index : Nat

/-- Where the delimiter after a key starts, and the bounds of the value behind it. -/
structure ValueBounds where
  delimiterStart : Nat
  valueStart : Nat
  valueEnd : Nat

/-- The delimiter and the value after a key, if the key is a sensitive one. -/
def keyedBounds (overflowChecks : Bool) (text : List UInt8) (keyEnd : Nat) (key : List Char) :
    Checked (Option ValueBounds) := do
  if !isSensitiveKey key then return none
  match ← nextKeyValueDelimiter text keyEnd with
  | none => return none
  | some (delimiterStart, delimiterEnd) =>
    match ← valueBounds overflowChecks text delimiterEnd with
    | none => return none
    | some (valueStart, valueEnd) => return some ⟨delimiterStart, valueStart, valueEnd⟩

/-- Copies up to a value and writes the mask for it. -/
def redactValue (text : List UInt8) (state : PassState) (bounds : ValueBounds) :
    Checked PassState := do
  let plain ← slice text state.lastEnd bounds.delimiterStart
  let delimiter ← slice text bounds.delimiterStart bounds.valueStart
  return ⟨state.output ++ plain ++ delimiter ++ redaction, bounds.valueEnd, bounds.valueEnd⟩

def keyTurn (overflowChecks : Bool) (text : List UInt8) (state : PassState) :
    Checked (Turn PassState PassState) :=
  if state.index < text.length then do
    match ← nextIdentifier text state.index with
    | none => return .finish state
    | some (_, keyEnd, key) =>
      match ← keyedBounds overflowChecks text keyEnd key with
      | none => return .goOn { state with index := keyEnd }
      | some bounds => do
        let state ← redactValue text state bounds
        return .goOn state
  else return .finish state

/-- The end of a pass. -/
def finishPass (text : List UInt8) (state : PassState) : Checked (List UInt8) :=
  if state.lastEnd = 0 then return text
  else do
    let rest ← slice text state.lastEnd text.length
    return state.output ++ rest

def redactSensitiveKeyValues (overflowChecks : Bool) (text : List UInt8) :
    Checked (List UInt8) := do
  let state ← runLoop (keyTurn overflowChecks text) (text.length + 1) ⟨[], 0, 0⟩
  finishPass text state

/-! Secret-shaped tokens. -/

def isLongHexToken (candidate : List UInt8) : Bool :=
  32 ≤ candidate.length && candidate.all (fun byte => isAsciiHexdigit (charOf byte))

def isRecoveryCode (candidate : List UInt8) : Checked Bool :=
  if candidate.length = 22 then do
    let eighth ← byteAt candidate 8
    if charOf eighth = '-' then do
      let fifteenth ← byteAt candidate 15
      return charOf fifteenth = '-' && candidate.zipIdx.all (fun (byte, index) =>
        index = 8 || index = 15 || isAsciiHexdigit (charOf byte))
    else return false
  else return false

def isSensitiveToken (candidate : List UInt8) : Checked Bool :=
  if isLongHexToken candidate then return true else isRecoveryCode candidate

def tokenTurn (text : List UInt8) (state : PassState) : Checked (Turn PassState PassState) :=
  if state.index < text.length then do
    let byte ← byteAt text state.index
    if isTokenByte (charOf byte) then do
      let stop ← skipWhile isTokenByte text state.index
      let candidate ← slice text state.index stop
      if ← isSensitiveToken candidate then do
        let plain ← slice text state.lastEnd state.index
        return .goOn ⟨state.output ++ plain ++ redaction, stop, stop⟩
      else return .goOn { state with index := stop }
    else return .goOn { state with index := state.index + 1 }
  else return .finish state

def redactSensitiveTokens (text : List UInt8) : Checked (List UInt8) := do
  let state ← runLoop (tokenTurn text) (text.length + 1) ⟨[], 0, 0⟩
  finishPass text state

/-- The three passes, one after the other. -/
def redactSensitive (overflowChecks : Bool) (text : List UInt8) : Checked (List UInt8) := do
  let withHeaders ← redactSensitiveHeaders text
  let withKeys ← redactSensitiveKeyValues overflowChecks withHeaders
  redactSensitiveTokens withKeys

end Sunbolt.Audit.ByteRedaction
