/- Module: Sunbolt/Control/HeaderValues
   scope: sunbolt-control/src/auth.rs, sunbolt-control/src/security.rs
   digest: HTTP headers as bytes, and the text that a handler reads from them. -/

import Mathlib.Data.List.Basic
import Sunbolt.Library.Utf8Lossy

set_option autoImplicit false
set_option relaxedAutoImplicit false

namespace Sunbolt.Control

open Sunbolt.Library

/-- The bytes of a header value, as a client has sent them. -/
abbrev HeaderValue := List UInt8

/-- A byte that `to_str` takes: a tab, or a printable character. -/
def isVisibleAscii (b : UInt8) : Bool := b = 9 || (32 ≤ b && b < 127)

/-- Each byte as the character of its number. -/
def byteText (value : HeaderValue) : List Char := value.map (fun b => Char.ofNat b.toNat)

/-- The bytes of a text. -/
def textBytes (text : String) : List UInt8 := Utf8Lossy.encode text.toList

/-- The characters of a literal. -/
theorem toList_literal {text : String} {chars : List Char} (h : text = String.ofList chars) :
    text.toList = chars := by
  rw [h, String.toList_ofList]

/-- A property of all characters of a fixed text, by evaluation. -/
theorem forall_of_all {p : Char → Prop} [DecidablePred p] {text : List Char}
    (h : text.all (fun c => decide (p c)) = true) : ∀ c ∈ text, p c :=
  fun c hc => of_decide_eq_true (List.all_eq_true.mp h c hc)

/-- `HeaderValue::to_str`. -/
def toStr (value : HeaderValue) : Option String :=
  if value.all isVisibleAscii then some (String.ofList (byteText value)) else none

/-- The headers of a message; the names are in lower case. -/
abbrev HeaderMap := List (String × HeaderValue)

namespace HeaderMap

variable (headers : HeaderMap) (name : String) (value : HeaderValue)

/-- Of several headers of the name, the first. -/
def get : Option HeaderValue := (headers.find? (fun header => header.1 = name)).map (·.2)

def containsKey : Bool := headers.any (fun header => header.1 = name)

/-- Replaces all headers of the name. -/
def insert : HeaderMap := headers.filter (fun header => header.1 ≠ name) ++ [(name, value)]

/-- Adds to the headers of the name. -/
def append : HeaderMap := headers ++ [(name, value)]

theorem get_insert (other : String) :
    (headers.insert name value).get other =
      if other = name then some value else headers.get other := by
  have hfind : ∀ headers : HeaderMap,
      (headers.filter (fun header => header.1 ≠ name)).find? (fun header => header.1 = other) =
        if other = name then none else headers.find? (fun header => header.1 = other) := by
    intro headers
    induction headers with
    | nil => simp
    | cons header rest ih => grind
  rw [get, insert, List.find?_append, hfind]
  by_cases hsame : other = name
  · simp [hsame]
  · simp [hsame, Ne.symm hsame, get]

theorem get_append (other : String) :
    (headers.append name value).get other =
      (headers.get other).or (if other = name then some value else none) := by
  rw [get, append, List.find?_append, get]
  by_cases hsame : other = name
  · cases headers.find? (fun header => header.1 = other) <;> simp [hsame]
  · cases headers.find? (fun header => header.1 = other) <;> simp [hsame, Ne.symm hsame]

end HeaderMap

section Text

variable {value : HeaderValue}

theorem toStr_eq_some {text : String} : toStr value = some text ↔
    value.all isVisibleAscii = true ∧ text = String.ofList (byteText value) := by
  rw [toStr]
  split_ifs with hvisible <;> simp [hvisible, eq_comm]

/-- The text of visible bytes is encoded as these bytes. -/
theorem encode_byteText (h : value.all isVisibleAscii = true) :
    Utf8Lossy.encode (byteText value) = value := by
  induction value with
  | nil => rfl
  | cons b rest ih =>
    rw [List.all_cons, Bool.and_eq_true] at h
    have hlow : b.toNat ≤ 127 := by
      simp only [isVisibleAscii, Bool.or_eq_true, Bool.and_eq_true, decide_eq_true_eq] at h
      rcases h.1 with rfl | ⟨-, hlt⟩
      · decide
      · exact Nat.le_of_lt hlt
    have hbyte : String.utf8EncodeChar (Char.ofNat b.toNat) = [b] := by
      have hnum : (Char.ofNat b.toNat).toNat = b.toNat := Utf8Lossy.toNat_charOfByte
      rw [Utf8Lossy.encodeChar_ascii (by omega), hnum, UInt8.ofNat_toNat]
    have hrest := ih h.2
    rw [Utf8Lossy.encode] at hrest ⊢
    rw [byteText, List.map_cons, List.flatMap_cons, hbyte]
    exact congrArg (b :: ·) hrest

/-- A character of a text that `to_str` could have returned. -/
def isVisible (c : Char) : Bool := c = '\t' || (32 ≤ c.toNat && c.toNat < 127)

/-- A visible text is encoded in visible bytes, and read from them again. -/
theorem byteText_textBytes {text : String} (h : text.toList.all isVisible = true) :
    (textBytes text).all isVisibleAscii = true ∧ byteText (textBytes text) = text.toList := by
  rw [textBytes]
  generalize text.toList = chars at h
  induction chars with
  | nil => exact ⟨rfl, rfl⟩
  | cons c rest ih =>
    rw [List.all_cons, Bool.and_eq_true] at h
    obtain ⟨hvisible, hrest⟩ := ih h.2
    have hlow : c.val.toNat < 127 ∧ (c.val.toNat = 9 ∨ 32 ≤ c.val.toNat) := by
      have hc := h.1
      simp only [isVisible, Bool.or_eq_true, Bool.and_eq_true, decide_eq_true_eq] at hc
      rcases hc with rfl | ⟨hfrom, hto⟩
      · decide
      · exact ⟨hto, Or.inr hfrom⟩
    have hchar : String.utf8EncodeChar c = [UInt8.ofNat c.val.toNat] :=
      Utf8Lossy.encodeChar_ascii (Nat.lt_trans hlow.1 (by decide))
    have hnum : (UInt8.ofNat c.val.toNat).toNat = c.val.toNat := by
      rw [UInt8.toNat_ofNat']
      omega
    have hencode : Utf8Lossy.encode (c :: rest) =
        UInt8.ofNat c.val.toNat :: Utf8Lossy.encode rest := by
      rw [Utf8Lossy.encode, List.flatMap_cons, hchar]
      rfl
    rw [hencode]
    refine ⟨?_, ?_⟩
    · rw [List.all_cons, hvisible, Bool.and_true, isVisibleAscii]
      simp only [Bool.or_eq_true, Bool.and_eq_true, decide_eq_true_eq, UInt8.le_iff_toNat_le,
        UInt8.lt_iff_toNat_lt, ← UInt8.toNat_inj, hnum]
      rcases hlow.2 with hnine | hfrom
      · exact Or.inl hnine
      · exact Or.inr ⟨hfrom, hlow.1⟩
    · rw [byteText, List.map_cons, hnum]
      exact congr_arg₂ _ (Char.ofNat_toNat c) hrest

theorem visible_of_toStr {text : String} (h : toStr value = some text) :
    text.toList.all isVisible = true := by
  obtain ⟨hvisible, rfl⟩ := toStr_eq_some.mp h
  rw [String.toList_ofList, byteText, List.all_map, List.all_eq_true]
  intro b hb
  have hbyte := List.all_eq_true.mp hvisible b hb
  simp only [isVisibleAscii, Bool.or_eq_true, Bool.and_eq_true, decide_eq_true_eq] at hbyte
  rw [Function.comp_apply, isVisible, Utf8Lossy.toNat_charOfByte]
  rcases hbyte with rfl | ⟨hfrom, hto⟩
  · rfl
  · rw [UInt8.le_iff_toNat_le] at hfrom
    rw [UInt8.lt_iff_toNat_lt] at hto
    simp only [Bool.or_eq_true, Bool.and_eq_true, decide_eq_true_eq]
    exact Or.inr ⟨hfrom, hto⟩

theorem mem_byteText {b : UInt8} : Char.ofNat b.toNat ∈ byteText value ↔ b ∈ value := by
  rw [byteText, List.mem_map]
  constructor
  · rintro ⟨other, hother, hsame⟩
    have hnum := congrArg Char.toNat hsame
    rw [Utf8Lossy.toNat_charOfByte, Utf8Lossy.toNat_charOfByte] at hnum
    exact UInt8.toNat_inj.mp hnum ▸ hother
  · exact fun h => ⟨b, h, rfl⟩

/-- Visible bytes are those of a text exactly if they read as it. -/
theorem toStr_eq_iff (h : value.all isVisibleAscii = true) (text : String) :
    toStr value = some text ↔ value = textBytes text := by
  rw [toStr_eq_some, textBytes]
  constructor
  · rintro ⟨-, rfl⟩
    rw [String.toList_ofList, encode_byteText h]
  · intro hbytes
    refine ⟨h, String.toList_injective ?_⟩
    rw [String.toList_ofList]
    have hsame : Utf8Lossy.encode text.toList = Utf8Lossy.encode (byteText value) := by
      rw [encode_byteText h, ← hbytes]
    rw [← Utf8Lossy.decode_encode text.toList, hsame, Utf8Lossy.decode_encode]

end Text

end Sunbolt.Control
