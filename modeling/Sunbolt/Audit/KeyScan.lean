/- Module: Sunbolt/Audit/KeyScan
   scope: sunbolt-audit/src/redaction.rs
   digest: How the key/value scanner reads a text that is cut in two. -/

import Sunbolt.Audit.Redaction
import Mathlib.Data.List.DropRight

set_option autoImplicit false
set_option relaxedAutoImplicit false

namespace Sunbolt.Audit

/-- The character before what follows `text`, when `previous` stands before `text`. -/
def endOf (previous : Option Char) (text : List Char) : Option Char := text.getLast?.or previous

@[simp] theorem endOf_nil (previous : Option Char) : endOf previous [] = previous := rfl

@[simp] theorem endOf_cons (previous : Option Char) (c : Char) (text : List Char) :
    endOf previous (c :: text) = endOf (some c) text := by
  cases text with
  | nil => rfl
  | cons d text =>
    rw [endOf, endOf, List.getLast?_cons_cons]
    cases h : (d :: text).getLast? with
    | none => simp at h
    | some e => rfl

@[simp] theorem endOf_append (previous : Option Char) (text more : List Char) :
    endOf previous (text ++ more) = endOf (endOf previous text) more := by
  induction text generalizing previous with
  | nil => rfl
  | cons c text ih => rw [List.cons_append, endOf_cons, endOf_cons, ih]

theorem endOf_of_ne_nil {text : List Char} (h : text ≠ []) (previous : Option Char) :
    endOf previous text = text.getLast? := by
  cases hlast : text.getLast? with
  | none => exact absurd (List.getLast?_eq_none_iff.mp hlast) h
  | some c => rw [endOf, hlast, Option.some_or]

/-- No identifier goes on at this point. -/
def isBorder (next : Option Char) : Bool := !next.any isIdentifierByte

/-! The next identifier. -/

/-- An identifier of a text: a maximal run of identifier bytes. -/
structure Found (previous : Option Char) (text skipped key rest : List Char) : Prop where
  split : text = skipped ++ key ++ rest
  nonempty : key ≠ []
  all : ∀ c ∈ key, isIdentifierByte c = true
  before : isBorder (endOf previous skipped) = true
  after : isBorder rest.head? = true

private theorem head_dropWhile (text : List Char) :
    isBorder (text.dropWhile isIdentifierByte).head? = true := by
  have h := List.head?_dropWhile_not isIdentifierByte text
  cases hhead : (text.dropWhile isIdentifierByte).head? with
  | none => rfl
  | some c =>
    rw [hhead] at h
    simpa [isBorder] using h

theorem nextIdentifier_found {previous : Option Char} {text skipped key rest : List Char}
    (h : nextIdentifier previous text = some (skipped, key, rest)) :
    Found previous text skipped key rest := by
  induction text generalizing previous skipped with
  | nil => cases h
  | cons c text ih =>
    rw [nextIdentifier] at h
    split_ifs at h with hstart
    · simp only [Option.some.injEq, Prod.mk.injEq] at h
      obtain ⟨rfl, rfl, rfl⟩ := h
      rw [Bool.and_eq_true] at hstart
      refine ⟨?_, by simp, ?_, hstart.2, head_dropWhile text⟩
      · rw [List.nil_append, List.cons_append, List.takeWhile_append_dropWhile]
      · intro d hd
        rcases List.mem_cons.mp hd with rfl | hd
        · exact hstart.1
        · exact List.mem_takeWhile_imp hd
    · obtain ⟨⟨skipped', key', rest'⟩, hnext, heq⟩ := Option.map_eq_some_iff.mp h
      simp only [Prod.mk.injEq] at heq
      obtain ⟨rfl, rfl, rfl⟩ := heq
      obtain ⟨hsplit, hne, hall, hbefore, hafter⟩ := ih hnext
      refine ⟨?_, hne, hall, ?_, hafter⟩
      · rw [hsplit]
        simp
      · rwa [endOf_cons]

private theorem takeWhile_append_of_border {text more : List Char}
    (h : isBorder (text.dropWhile isIdentifierByte ++ more).head? = true) :
    (text ++ more).takeWhile isIdentifierByte = text.takeWhile isIdentifierByte ∧
      (text ++ more).dropWhile isIdentifierByte = text.dropWhile isIdentifierByte ++ more := by
  induction text with
  | nil =>
    cases more with
    | nil => exact ⟨rfl, rfl⟩
    | cons d more =>
      have hd : isIdentifierByte d = false := by simpa [isBorder] using h
      simp [hd]
  | cons c text ih =>
    by_cases hc : isIdentifierByte c = true
    · rw [List.dropWhile_cons_of_pos hc] at h
      simp [hc, ih h]
    · simp [hc]

/-- A text that the identifier does not go on behind is read as it is without what follows. -/
theorem nextIdentifier_append_some {previous : Option Char} {text skipped key rest : List Char}
    (h : nextIdentifier previous text = some (skipped, key, rest)) {more : List Char}
    (border : isBorder (rest ++ more).head? = true) :
    nextIdentifier previous (text ++ more) = some (skipped, key, rest ++ more) := by
  induction text generalizing previous skipped with
  | nil => cases h
  | cons c text ih =>
    rw [List.cons_append]
    rw [nextIdentifier] at h ⊢
    split_ifs at h ⊢ with hstart
    · simp only [Option.some.injEq, Prod.mk.injEq] at h
      obtain ⟨rfl, rfl, rfl⟩ := h
      obtain ⟨htake, hdrop⟩ := takeWhile_append_of_border border
      rw [htake, hdrop]
    · obtain ⟨⟨skipped', key', rest'⟩, hnext, heq⟩ := Option.map_eq_some_iff.mp h
      simp only [Prod.mk.injEq] at heq
      obtain ⟨rfl, rfl, rfl⟩ := heq
      rw [ih hnext]
      rfl

theorem nextIdentifier_append_none {previous : Option Char} {text : List Char}
    (h : nextIdentifier previous text = none) (more : List Char) :
    nextIdentifier previous (text ++ more) =
      (nextIdentifier (endOf previous text) more).map
        (fun (skipped, key, rest) => (text ++ skipped, key, rest)) := by
  induction text generalizing previous with
  | nil =>
    rw [List.nil_append, endOf_nil]
    cases nextIdentifier previous more with
    | none => rfl
    | some found => rfl
  | cons c text ih =>
    rw [nextIdentifier] at h
    split_ifs at h with hstart
    rw [Option.map_eq_none_iff] at h
    rw [List.cons_append, nextIdentifier, if_neg hstart, ih h, endOf_cons, Option.map_map]
    rfl

theorem nextIdentifier_none_of_border {previous : Option Char} {text : List Char}
    (h : ∀ c ∈ text, isIdentifierByte c = false) : nextIdentifier previous text = none := by
  induction text generalizing previous with
  | nil => rfl
  | cons c text ih =>
    rw [nextIdentifier, h c (List.mem_cons_self ..), Bool.false_and, if_neg (by decide),
      ih (fun d hd => h d (List.mem_cons_of_mem _ hd))]
    rfl

/-- An identifier that starts the text is the next one. -/
theorem nextIdentifier_key {previous : Option Char} (border : isBorder previous = true)
    {key : List Char} (hkey : key ≠ []) (all : ∀ c ∈ key, isIdentifierByte c = true)
    {rest : List Char} (after : isBorder rest.head? = true) :
    nextIdentifier previous (key ++ rest) = some ([], key, rest) := by
  cases key with
  | nil => exact absurd rfl hkey
  | cons c key =>
    have hrest : rest.takeWhile isIdentifierByte = [] ∧
        rest.dropWhile isIdentifierByte = rest := by
      cases rest with
      | nil => exact ⟨rfl, rfl⟩
      | cons d rest =>
        have hd : isIdentifierByte d = false := by simpa [isBorder] using after
        simp [hd]
    have hc := all c (List.mem_cons_self ..)
    have htail : ∀ d ∈ key, isIdentifierByte d = true :=
      fun d hd => all d (List.mem_cons_of_mem _ hd)
    have hprevious : (!Option.any isIdentifierByte previous) = true := border
    rw [List.cons_append, nextIdentifier, hc, Bool.true_and, if_pos hprevious,
      List.takeWhile_append_of_pos htail, List.dropWhile_append_of_pos htail, hrest.1, hrest.2,
      List.append_nil]

/-- What stands before the text matters only to an identifier that starts it. -/
theorem nextIdentifier_previous {text : List Char} (h : isBorder text.head? = true)
    (previous other : Option Char) : nextIdentifier previous text = nextIdentifier other text := by
  cases text with
  | nil => rfl
  | cons c text =>
    have hc : isIdentifierByte c = false := by simpa [isBorder] using h
    simp [nextIdentifier, hc]

/-! Quoted values. -/

/-- Put what has been read before the value that is being read. -/
def readOn (text : List Char) (bounds : List Char × List Char) : List Char × List Char :=
  (text ++ bounds.1, bounds.2)

@[simp] theorem readOn_nil (bounds : List Char × List Char) : readOn [] bounds = bounds := rfl

@[simp] theorem readOn_readOn (text more : List Char) (bounds : List Char × List Char) :
    readOn text (readOn more bounds) = readOn (text ++ more) bounds := by
  rw [readOn, readOn, readOn, List.append_assoc]

@[simp] theorem quotedValue_nil (quote : Char) : quotedValue quote [] = ([], []) := by
  rw [quotedValue]

@[simp] theorem quotedValue_escape (quote c : Char) (text : List Char) :
    quotedValue quote ('\\' :: c :: text) = readOn ['\\', c] (quotedValue quote text) := by
  rw [quotedValue]
  rfl

theorem quotedValue_quote {quote : Char} (h : quote ≠ '\\') (text : List Char) :
    quotedValue quote (quote :: text) = ([], quote :: text) := by
  rw [quotedValue]
  · rw [if_pos rfl]
  · exact fun heq _ => h heq
  · exact fun _ _ heq _ => h heq

theorem quotedValue_other {quote c : Char} (hslash : c ≠ '\\') (hquote : c ≠ quote)
    (text : List Char) :
    quotedValue quote (c :: text) = readOn [c] (quotedValue quote text) := by
  rw [quotedValue]
  · rw [if_neg hquote]
    rfl
  · exact fun heq _ => hslash heq
  · exact fun _ _ heq _ => hslash heq

/-- A quoted value ends inside a text, or goes on behind it; a backslash at the end of the text
    takes the next character into the value. -/
inductive QuotedCut (quote : Char) (text : List Char) : Prop
  | closed (value rest : List Char) (split : text = value ++ quote :: rest)
      (h : ∀ more, quotedValue quote (text ++ more) = (value, quote :: rest ++ more))
  | isOpen (h : ∀ more, quotedValue quote (text ++ more) = readOn text (quotedValue quote more))
  | escaped (h : ∀ c more, quotedValue quote (text ++ c :: more) =
      readOn (text ++ [c]) (quotedValue quote more))

private theorem QuotedCut.cons {quote : Char} {text : List Char} (first : List Char)
    (reads : ∀ more, quotedValue quote (first ++ more) = readOn first (quotedValue quote more))
    (h : QuotedCut quote text) : QuotedCut quote (first ++ text) := by
  cases h with
  | closed value rest split h =>
    refine .closed (first ++ value) rest (by rw [split, List.append_assoc]) fun more => ?_
    rw [List.append_assoc, reads, h]
    rfl
  | isOpen h =>
    refine .isOpen fun more => ?_
    rw [List.append_assoc, reads, h, readOn_readOn]
  | escaped h =>
    refine .escaped fun c more => ?_
    rw [List.append_assoc, reads, h, readOn_readOn, List.append_assoc]

theorem quotedCut {quote : Char} (hquote : quote ≠ '\\') (text : List Char) :
    QuotedCut quote text := by
  induction hn : text.length using Nat.strong_induction_on generalizing text with
  | _ n ih =>
    cases text with
    | nil => exact .isOpen fun more => rfl
    | cons c text =>
      rw [List.length_cons] at hn
      by_cases hslash : c = '\\'
      · subst hslash
        cases text with
        | nil => exact .escaped fun c more => quotedValue_escape quote c more
        | cons d text =>
          rw [List.length_cons] at hn
          exact QuotedCut.cons ['\\', d]
            (fun more => quotedValue_escape quote d more) (ih text.length (by omega) text rfl)
      · by_cases hc : c = quote
        · subst hc
          exact .closed [] text rfl fun more => quotedValue_quote hquote (text ++ more)
        · exact QuotedCut.cons [c]
            (fun more => quotedValue_other hslash hc more) (ih text.length (by omega) text rfl)

/-- A text without the quote and without a backslash is read as part of the value. -/
theorem quotedValue_plain {quote : Char} {text : List Char}
    (h : ∀ c ∈ text, c ≠ '\\' ∧ c ≠ quote) (more : List Char) :
    quotedValue quote (text ++ more) = readOn text (quotedValue quote more) := by
  induction text with
  | nil => rfl
  | cons c text ih =>
    have hc := h c (List.mem_cons_self ..)
    rw [List.cons_append, quotedValue_other hc.1 hc.2,
      ih (fun d hd => h d (List.mem_cons_of_mem _ hd)), readOn_readOn]
    rfl

theorem quotedValue_append (quote : Char) (text : List Char) :
    (quotedValue quote text).1 ++ (quotedValue quote text).2 = text := by
  induction text using quotedValue.induct quote with
  | case1 => rw [quotedValue_nil]; rfl
  | case2 => rw [quotedValue]; rfl
  | case3 c rest value after heq ih =>
    rw [quotedValue_escape, readOn]
    simpa using ih
  | case4 rest h1 h2 =>
    rw [quotedValue, if_pos rfl]
    · rfl
    · exact h1
    · exact h2
  | case5 c rest h1 h2 hne value after heq ih =>
    rw [quotedValue, if_neg hne]
    · simpa using ih
    · exact h1
    · exact h2

/-- A quoted value ends at its closing quote or with the text. -/
theorem quotedValue_rest (quote : Char) (text : List Char) :
    ∀ c ∈ (quotedValue quote text).2.head?, c = quote := by
  induction text using quotedValue.induct quote with
  | case1 =>
    intro c hc
    cases hc
  | case2 =>
    intro c hc
    cases hc
  | case3 c rest value after heq ih =>
    rw [quotedValue_escape]
    exact ih
  | case4 rest h1 h2 =>
    rw [quotedValue, if_pos rfl]
    · exact fun c hc => (Option.some.inj hc).symm
    · exact h1
    · exact h2
  | case5 c rest h1 h2 hne value after heq ih =>
    rw [quotedValue, if_neg hne]
    · exact ih
    · exact h1
    · exact h2

/-! Values in brackets. -/

/-- The two pairs of brackets a value may stand in. -/
structure IsBrackets (opening closing : Char) : Prop where
  ne : closing ≠ opening
  opening : opening ≠ '"' ∧ opening ≠ '\''
  closing : closing ≠ '"' ∧ closing ≠ '\''

theorem isBrackets_square : IsBrackets '[' ']' := ⟨by decide, by decide, by decide⟩

theorem isBrackets_curly : IsBrackets '{' '}' := ⟨by decide, by decide, by decide⟩

/-- From inside brackets to the one that closes the outermost. -/
def balanced (opening closing : Char) (depth : UInt32) (text : List Char) :
    List Char × List Char :=
  balancedValue opening closing text.length depth text

private theorem quoted_shorter {quote after : Char} {text value rest : List Char}
    (h : quotedValue quote text = (value, after :: rest)) : rest.length < text.length := by
  have hsplit := quotedValue_append quote text
  rw [h] at hsplit
  rw [← hsplit]
  simp only [List.length_append, List.length_cons]
  omega

private theorem balancedValue_fuel (opening closing : Char) :
    ∀ (n m : Nat) (depth : UInt32) (text : List Char), text.length ≤ n → text.length ≤ m →
      balancedValue opening closing n depth text = balancedValue opening closing m depth text
  | 0, 0, _, _, _, _ => rfl
  | 0, m + 1, depth, text, hn, _ => by
    obtain rfl := List.length_eq_zero_iff.mp (Nat.le_zero.mp hn)
    rfl
  | n + 1, 0, depth, text, _, hm => by
    obtain rfl := List.length_eq_zero_iff.mp (Nat.le_zero.mp hm)
    rfl
  | n + 1, m + 1, depth, [], _, _ => rfl
  | n + 1, m + 1, depth, c :: rest, hn, hm => by
    rw [List.length_cons] at hn hm
    have ih : ∀ depth text, text.length ≤ rest.length →
        balancedValue opening closing n depth text = balancedValue opening closing m depth text :=
      fun depth text hle => balancedValue_fuel opening closing n m depth text (by omega) (by omega)
    rw [balancedValue, balancedValue]
    simp only [ih _ rest le_rfl]
    cases hquoted : quotedValue c rest with
    | mk quoted after =>
      cases after with
      | nil => rfl
      | cons q after =>
        have hshort := quoted_shorter hquoted
        simp only [ih _ after (by omega)]

theorem balancedValue_eq {opening closing : Char} {fuel : Nat} {text : List Char}
    (h : text.length ≤ fuel) (depth : UInt32) :
    balancedValue opening closing fuel depth text = balanced opening closing depth text :=
  balancedValue_fuel opening closing fuel text.length depth text h le_rfl

/-- From inside a quoted part of a value in brackets to the end of the value. -/
def insideQuote (opening closing : Char) (depth : UInt32) (quote : Char) (text : List Char) :
    List Char × List Char :=
  match quotedValue quote text with
  | (quoted, []) => (quoted, [])
  | (quoted, after :: rest) => readOn (quoted ++ [after]) (balanced opening closing depth rest)

/-- One level out; at depth zero the depth stays. -/
def outer (depth : UInt32) : UInt32 := if depth = 0 then 0 else depth - 1

section Balanced

variable {opening closing : Char} (depth : UInt32)

@[simp] theorem balanced_nil : balanced opening closing depth [] = ([], []) := rfl

theorem balanced_cons (c : Char) (rest : List Char) :
    balanced opening closing depth (c :: rest) =
      if c = opening then readOn [c] (balanced opening closing (depth + 1) rest)
      else if c = closing then
        if outer depth = 0 then ([c], rest)
        else readOn [c] (balanced opening closing (outer depth) rest)
      else if c = '"' || c = '\'' then readOn [c] (insideQuote opening closing depth c rest)
      else readOn [c] (balanced opening closing depth rest) := by
  rw [balanced, List.length_cons, balancedValue]
  simp only [balancedValue_eq le_rfl]
  refine if_congr Iff.rfl rfl (if_congr Iff.rfl rfl (if_congr Iff.rfl ?_ rfl))
  unfold insideQuote
  cases hquoted : quotedValue c rest with
  | mk quoted after =>
    cases after with
    | nil => rfl
    | cons q after =>
      have hshort := quoted_shorter hquoted
      simp only [balancedValue_eq (Nat.le_of_lt hshort)]
      rfl

/-- The text of a value in brackets is all read: it is the value and what is left. -/
theorem balanced_append (text : List Char) :
    (balanced opening closing depth text).1 ++ (balanced opening closing depth text).2 = text := by
  induction hn : text.length using Nat.strong_induction_on generalizing text depth with
  | _ n ih =>
    cases text with
    | nil => rfl
    | cons c rest =>
      rw [List.length_cons] at hn
      rw [balanced_cons]
      have hrest : ∀ depth, (readOn [c] (balanced opening closing depth rest)).1 ++
          (readOn [c] (balanced opening closing depth rest)).2 = c :: rest :=
        fun depth => congrArg (c :: ·) (ih rest.length (by omega) depth rest rfl)
      split_ifs
      · exact hrest _
      · rfl
      · exact hrest _
      · have hquote := quotedValue_append c rest
        unfold insideQuote
        cases hquoted : quotedValue c rest with
        | mk quoted after =>
          rw [hquoted] at hquote
          cases after with
          | nil => exact congrArg (c :: ·) hquote
          | cons q after =>
            have hshort := quoted_shorter hquoted
            have hafter := ih after.length (by omega) depth after rfl
            simpa [readOn, hafter] using hquote
      · exact hrest _

/-- A value in brackets ends with its closing bracket or with the text. -/
theorem balanced_ends (text : List Char) :
    (balanced opening closing depth text).2 = [] ∨
      (balanced opening closing depth text).1.getLast? = some closing := by
  induction hn : text.length using Nat.strong_induction_on generalizing text depth with
  | _ n ih =>
    cases text with
    | nil => exact Or.inl rfl
    | cons c rest =>
      rw [List.length_cons] at hn
      rw [balanced_cons]
      have longer : ∀ (front : List Char) (bounds : List Char × List Char),
          bounds.2 = [] ∨ bounds.1.getLast? = some closing →
          (readOn front bounds).2 = [] ∨ (readOn front bounds).1.getLast? = some closing := by
        rintro front bounds (hnil | hlast)
        · exact Or.inl hnil
        · right
          rw [readOn, List.getLast?_append, hlast]
          rfl
      have hrest : ∀ depth, (readOn [c] (balanced opening closing depth rest)).2 = [] ∨
          (readOn [c] (balanced opening closing depth rest)).1.getLast? = some closing :=
        fun depth => longer [c] _ (ih rest.length (by omega) depth rest rfl)
      split_ifs with hopen hclose
      · exact hrest _
      · subst hclose
        exact Or.inr rfl
      · exact hrest _
      · refine longer [c] _ ?_
        unfold insideQuote
        cases hquoted : quotedValue c rest with
        | mk quoted after =>
          cases after with
          | nil => exact Or.inl rfl
          | cons q after =>
            have hshort := quoted_shorter hquoted
            exact longer _ _ (ih after.length (by omega) depth after rfl)
      · exact hrest _

end Balanced

/-- A value in brackets ends inside a text, or goes on behind it: in the brackets, in a quoted
    part of them, or there behind a backslash. -/
inductive BalancedCut (opening closing : Char) (depth : UInt32) (text : List Char) : Prop
  | closed (value rest : List Char) (split : text = value ++ rest)
      (h : ∀ more, balanced opening closing depth (text ++ more) = (value, rest ++ more))
  | isOpen (inner : UInt32) (h : ∀ more, balanced opening closing depth (text ++ more) =
      readOn text (balanced opening closing inner more))
  | quoted (inner : UInt32) (quote : Char) (isQuote : quote = '"' ∨ quote = '\'')
      (h : ∀ more, balanced opening closing depth (text ++ more) =
        readOn text (insideQuote opening closing inner quote more))
  | escaped (inner : UInt32) (quote : Char) (isQuote : quote = '"' ∨ quote = '\'')
      (h : ∀ c more, balanced opening closing depth (text ++ c :: more) =
        readOn (text ++ [c]) (insideQuote opening closing inner quote more))

section Cut

variable {opening closing : Char}

private theorem BalancedCut.cons {depth : UInt32} {text : List Char} (first : List Char)
    (inner : UInt32)
    (reads : ∀ more, balanced opening closing depth (first ++ (text ++ more)) =
      readOn first (balanced opening closing inner (text ++ more)))
    (h : BalancedCut opening closing inner text) :
    BalancedCut opening closing depth (first ++ text) := by
  cases h with
  | closed value rest split h =>
    refine .closed (first ++ value) rest (by rw [split, List.append_assoc]) fun more => ?_
    rw [List.append_assoc, reads, h]
    rfl
  | isOpen deeper h =>
    refine .isOpen deeper fun more => ?_
    rw [List.append_assoc, reads, h, readOn_readOn]
  | quoted deeper quote isQuote h =>
    refine .quoted deeper quote isQuote fun more => ?_
    rw [List.append_assoc, reads, h, readOn_readOn]
  | escaped deeper quote isQuote h =>
    refine .escaped deeper quote isQuote fun c more => ?_
    rw [List.append_assoc, reads, h, readOn_readOn, List.append_assoc]

private theorem insideQuote_readOn {depth : UInt32} {quote : Char} {first text rest : List Char}
    (h : quotedValue quote text = readOn first (quotedValue quote rest)) :
    insideQuote opening closing depth quote text =
      readOn first (insideQuote opening closing depth quote rest) := by
  unfold insideQuote
  rw [h]
  cases hquoted : quotedValue quote rest with
  | mk quoted after =>
    cases after with
    | nil => rfl
    | cons q after => simp [readOn]

theorem balancedCut (depth : UInt32) (text : List Char) :
    BalancedCut opening closing depth text := by
  induction hn : text.length using Nat.strong_induction_on generalizing text depth with
  | _ n ih =>
    cases text with
    | nil => exact .isOpen depth fun more => rfl
    | cons c rest =>
      rw [List.length_cons] at hn
      by_cases hopen : c = opening
      · refine BalancedCut.cons [c] (depth + 1) (fun more => ?_)
          (ih rest.length (by omega) _ rest rfl)
        rw [List.singleton_append, balanced_cons, if_pos hopen]
      by_cases hclose : c = closing
      · by_cases hzero : outer depth = 0
        · refine .closed [c] rest rfl fun more => ?_
          rw [List.cons_append, balanced_cons, if_neg hopen, if_pos hclose, if_pos hzero]
        · refine BalancedCut.cons [c] (outer depth) (fun more => ?_)
            (ih rest.length (by omega) _ rest rfl)
          rw [List.singleton_append, balanced_cons, if_neg hopen, if_pos hclose, if_neg hzero]
      by_cases hquote : (c = '"' || c = '\'') = true
      · have reads : ∀ more, balanced opening closing depth (c :: more) =
            readOn [c] (insideQuote opening closing depth c more) := by
          intro more
          rw [balanced_cons, if_neg hopen, if_neg hclose, if_pos hquote]
        have isQuote : c = '"' ∨ c = '\'' := by simpa using hquote
        have hslash : c ≠ '\\' := by
          rcases isQuote with rfl | rfl <;> decide
        cases quotedCut hslash rest with
        | closed value after split h =>
          have hlength := congrArg List.length split
          simp only [List.length_append, List.length_cons] at hlength
          have hfirst : c :: rest = (c :: value ++ [c]) ++ after := by
            rw [split]
            simp
          rw [hfirst]
          refine BalancedCut.cons (c :: value ++ [c]) depth (fun more => ?_)
            (ih after.length (by omega) _ after rfl)
          rw [← List.append_assoc, ← hfirst, List.cons_append, reads]
          unfold insideQuote
          rw [h more]
          simp [readOn]
        | isOpen h =>
          refine .quoted depth c isQuote fun more => ?_
          rw [List.cons_append, reads, insideQuote_readOn (h more), readOn_readOn]
          rfl
        | escaped h =>
          refine .escaped depth c isQuote fun d more => ?_
          rw [List.cons_append, reads, insideQuote_readOn (h d more), readOn_readOn]
          rfl
      · refine BalancedCut.cons [c] depth (fun more => ?_)
          (ih rest.length (by omega) _ rest rfl)
        rw [List.singleton_append, balanced_cons, if_neg hopen, if_neg hclose, if_neg hquote]

/-- Enough closing brackets end the value, however deep it is nested. -/
theorem exists_closers (brackets : IsBrackets opening closing) (depth : UInt32) :
    ∃ n, 0 < n ∧ ∀ more, balanced opening closing depth (List.replicate n closing ++ more) =
      (List.replicate n closing, more) := by
  induction hn : depth.toNat using Nat.strong_induction_on generalizing depth with
  | _ n ih =>
    by_cases hzero : outer depth = 0
    · refine ⟨1, Nat.one_pos, fun more => ?_⟩
      rw [List.replicate_one, List.singleton_append, balanced_cons, if_neg brackets.ne, if_pos rfl,
        if_pos hzero]
    · have hdepth : depth ≠ 0 := by
        rintro rfl
        exact hzero rfl
      have hlower : (outer depth).toNat < n := by
        have hpos : 1 ≤ depth := by
          have hne : depth.toNat ≠ 0 := fun h => hdepth (UInt32.toNat_inj.mp h)
          rw [UInt32.le_iff_toNat_le]
          exact Nat.one_le_iff_ne_zero.mpr hne
        rw [outer, if_neg hdepth, ← hn]
        exact UInt32.lt_iff_toNat_lt.mp (UInt32.sub_lt (by decide) hpos)
      obtain ⟨m, hm, hcloses⟩ := ih _ hlower (outer depth) rfl
      refine ⟨m + 1, Nat.succ_pos m, fun more => ?_⟩
      rw [List.replicate_succ, List.cons_append, balanced_cons, if_neg brackets.ne, if_pos rfl,
        if_neg hzero, hcloses]
      rfl

end Cut

end Sunbolt.Audit
