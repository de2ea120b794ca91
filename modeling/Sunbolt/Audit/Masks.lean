/- Module: Sunbolt/Audit/Masks
   scope: sunbolt-audit/src/redaction.rs
   digest: What a pass that masks keyed values or words leaves of a text. -/

import Sunbolt.Audit.KeyValues

set_option autoImplicit false
set_option relaxedAutoImplicit false

namespace Sunbolt.Audit

/-- A pass that puts the marker in the place of values behind keys, or of whole words. What it
    keeps depends on the character before and the text from there on. -/
structure Pass where
  keeps : Option Char → List Char → Prop
  masks : List Char → List Char → List Char → List Char → Prop
  key : ∀ {key before value rest}, masks key before value rest →
    ∀ c ∈ key, isIdentifierByte c = true
  before : ∀ {key before value rest}, masks key before value rest →
    ∀ c ∈ before, isIdentifierByte c = false ∧ c ≠ '['
  shape : ∀ {key before value rest}, masks key before value rest →
    (key ≠ [] ∧ before ≠ []) ∨
      (key = [] ∧ before = [] ∧ ∃ c tail, value = c :: tail ∧ isIdentifierByte c = true)

/-- The text and what the pass makes of it, from a point on. -/
inductive Pass.Masks (pass : Pass) : Option Char → List Char → List Char → Prop
  | nil {previous : Option Char} : Masks pass previous [] []
  | keep {previous : Option Char} {c : Char} {text masked : List Char}
    (kept : pass.keeps previous (c :: text)) (rest : Masks pass (some c) text masked) :
    Masks pass previous (c :: text) (c :: masked)
  | mask {previous : Option Char} {key before value text masked : List Char}
    (border : isBorder previous = true) (hides : pass.masks key before value text)
    (rest : Masks pass (key ++ before ++ value).getLast? text masked) :
    Masks pass previous (key ++ before ++ value ++ text) (key ++ before ++ redaction ++ masked)

namespace Pass.Masks

variable {pass : Pass} {previous : Option Char} {text masked : List Char}

theorem eq_nil (h : pass.Masks previous [] masked) : masked = [] := by
  generalize htext : ([] : List Char) = text at h
  cases h with
  | nil => rfl
  | keep kept rest => cases htext
  | mask border hides rest =>
    rcases pass.shape hides with ⟨hkey, -⟩ | ⟨-, -, c, tail, rfl, -⟩
    · simp_all
    · simp at htext

/-- What is not part of an identifier is kept. -/
theorem append {front rest : List Char} (h : pass.Masks previous (front ++ rest) masked)
    (plain : ∀ c ∈ front, isIdentifierByte c = false) :
    ∃ rest', masked = front ++ rest' ∧ pass.Masks (endOf previous front) rest rest' := by
  induction front generalizing previous masked with
  | nil => exact ⟨masked, rfl, h⟩
  | cons c front ih =>
    generalize htext : c :: front ++ rest = text at h
    cases h with
    | nil => cases htext
    | keep kept h =>
      rw [List.cons_append, List.cons.injEq] at htext
      obtain ⟨rfl, rfl⟩ := htext
      obtain ⟨rest', rfl, h⟩ := ih h fun d hd => plain d (List.mem_cons_of_mem _ hd)
      exact ⟨rest', rfl, by rwa [endOf_cons]⟩
    | @mask _ key before value text masked border hides h =>
      -- a masked block starts with an identifier
      have hc := plain c (List.mem_cons_self ..)
      rcases pass.shape hides with ⟨hkey, -⟩ | ⟨rfl, rfl, d, tail, rfl, hd⟩
      · obtain ⟨d, key, rfl⟩ := List.exists_cons_of_ne_nil hkey
        rw [List.cons_append, List.cons_append, List.cons_append, List.cons_append,
          List.cons.injEq] at htext
        rw [htext.1, pass.key hides d (List.mem_cons_self ..)] at hc
        cases hc
      · rw [List.nil_append, List.nil_append, List.cons_append, List.cons_append,
          List.cons.injEq] at htext
        rw [htext.1, hd] at hc
        cases hc

/-- And what stands in the masked text was there, up to the first identifier or marker. -/
theorem of_append {front rest : List Char} (h : pass.Masks previous text (front ++ rest))
    (plain : ∀ c ∈ front, isIdentifierByte c = false ∧ c ≠ '[') :
    ∃ rest', text = front ++ rest' ∧ pass.Masks (endOf previous front) rest' rest := by
  induction front generalizing previous text with
  | nil => exact ⟨text, rfl, h⟩
  | cons c front ih =>
    generalize hmasked : c :: front ++ rest = masked at h
    cases h with
    | nil => cases hmasked
    | keep kept h =>
      rw [List.cons_append, List.cons.injEq] at hmasked
      obtain ⟨rfl, rfl⟩ := hmasked
      obtain ⟨rest', rfl, h⟩ := ih h fun d hd => plain d (List.mem_cons_of_mem _ hd)
      exact ⟨rest', rfl, by rwa [endOf_cons]⟩
    | @mask _ key before value text masked border hides h =>
      obtain ⟨hc, hbracket⟩ := plain c (List.mem_cons_self ..)
      rcases pass.shape hides with ⟨hkey, -⟩ | ⟨rfl, rfl, -⟩
      · obtain ⟨d, key, rfl⟩ := List.exists_cons_of_ne_nil hkey
        rw [List.cons_append, List.cons_append, List.cons_append, List.cons_append,
          List.cons.injEq] at hmasked
        rw [hmasked.1, pass.key hides d (List.mem_cons_self ..)] at hc
        cases hc
      · exact absurd (List.cons.inj hmasked).1 hbracket

/-- An identifier is kept from its second character on. -/
theorem within (h : pass.Masks previous text masked) (inside : isBorder previous = false) :
    masked.takeWhile isIdentifierByte = text.takeWhile isIdentifierByte ∧
      pass.Masks (endOf previous (text.takeWhile isIdentifierByte))
        (text.dropWhile isIdentifierByte) (masked.dropWhile isIdentifierByte) := by
  induction h with
  | nil => exact ⟨rfl, .nil⟩
  | @keep previous c text masked kept rest ih =>
    by_cases hc : isIdentifierByte c = true
    · obtain ⟨htake, hrest⟩ := ih (by simp [isBorder, hc])
      simp only [List.takeWhile_cons_of_pos hc, List.dropWhile_cons_of_pos hc, endOf_cons]
      exact ⟨congrArg (c :: ·) htake, hrest⟩
    · simp only [List.takeWhile_cons_of_neg hc, List.dropWhile_cons_of_neg hc]
      exact ⟨trivial, .keep kept rest⟩
  | mask border hides rest ih =>
    rw [border] at inside
    cases inside

/-- A border at the start of the text stays as it is. -/
theorem head_border (h : pass.Masks previous text masked) (border : isBorder text.head? = true) :
    masked.head? = text.head? := by
  cases text with
  | nil => rw [h.eq_nil]
  | cons c text =>
    have hc : isIdentifierByte c = false := by simpa [isBorder] using border
    obtain ⟨rest, rfl, -⟩ := append (show pass.Masks _ ([c] ++ _) _ from h) (by simpa using hc)
    rfl

/-- What the masked text starts with was there, or an identifier was. -/
theorem head_cases {c : Char} {rest : List Char} (h : pass.Masks previous text (c :: rest)) :
    ∃ d tail, text = d :: tail ∧ (d = c ∨ isIdentifierByte d = true) := by
  generalize hmasked : c :: rest = masked at h
  cases h with
  | nil => cases hmasked
  | keep kept h => exact ⟨_, _, rfl, .inl (List.cons.inj hmasked).1.symm⟩
  | @mask _ key before value text masked border hides h =>
    rcases pass.shape hides with ⟨hkey, -⟩ | ⟨rfl, rfl, d, tail, rfl, hd⟩
    · obtain ⟨d, key, rfl⟩ := List.exists_cons_of_ne_nil hkey
      exact ⟨d, _, rfl, .inr (pass.key hides d (List.mem_cons_self ..))⟩
    · exact ⟨d, _, rfl, .inr hd⟩

/-- A name before a colon is not part of a marker, and it was there. -/
theorem name_kept {name rest : List Char} (h : pass.Masks previous text (name ++ ':' :: rest))
    (ne : name ≠ []) (all : ∀ c ∈ name, isIdentifierByte c = true) :
    ∃ rest', text = name ++ ':' :: rest' := by
  obtain ⟨first, name, rfl⟩ := List.exists_cons_of_ne_nil ne
  have hfirst := all first (List.mem_cons_self ..)
  have htail : ∀ c ∈ name, isIdentifierByte c = true :=
    fun c hc => all c (List.mem_cons_of_mem _ hc)
  have hcolon : isIdentifierByte ':' = false := by decide
  generalize hmasked : first :: name ++ ':' :: rest = masked at h
  cases h with
  | nil => cases hmasked
  | @keep _ c text masked kept h =>
    rw [List.cons_append, List.cons.injEq] at hmasked
    obtain ⟨rfl, rfl⟩ := hmasked
    obtain ⟨htake, hdrop⟩ := h.within (by simp [isBorder, hfirst])
    obtain ⟨htake', hdrop'⟩ := takeWhile_cut htail hcolon rest
    rw [hdrop'] at hdrop
    obtain ⟨rest', hrest, -⟩ := of_append (show pass.Masks _ _ ([':'] ++ _) from hdrop)
      (List.forall_mem_singleton.mpr (by decide))
    refine ⟨rest', ?_⟩
    rw [List.cons_append, ← htake', htake]
    exact congrArg (first :: ·) (by
      rw [← List.singleton_append, ← hrest, List.takeWhile_append_dropWhile])
  | @mask _ key before value text masked border hides h =>
    rcases pass.shape hides with ⟨hkey, hbefore⟩ | ⟨rfl, rfl, -⟩
    · obtain ⟨d, before, rfl⟩ := List.exists_cons_of_ne_nil hbefore
      have hd := (pass.before hides d (List.mem_cons_self ..)).1
      have hsame : key ++ d :: (before ++ redaction ++ masked) =
          first :: name ++ ':' :: rest := by
        simpa only [List.append_assoc, List.cons_append] using hmasked.symm
      have hboth := congrArg (fun l => (l.takeWhile isIdentifierByte,
        l.dropWhile isIdentifierByte)) hsame
      simp only [takeWhile_cut (pass.key hides) hd, takeWhile_cut all hcolon, Prod.mk.injEq,
        List.cons.injEq] at hboth
      obtain ⟨rfl, rfl, -⟩ := hboth
      exact ⟨before ++ value ++ text, by simp only [List.append_assoc, List.cons_append]⟩
    · have hbracket : first = '[' := (List.cons.inj hmasked).1
      rw [hbracket] at hfirst
      exact absurd hfirst (by decide)

end Pass.Masks

end Sunbolt.Audit
