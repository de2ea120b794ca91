/- Module: Sunbolt/Library/PathPattern
   scope: general
   digest: Paths with parameters, what they match, and which of them can match one path. -/

import Mathlib.Data.List.Basic

set_option autoImplicit false
set_option relaxedAutoImplicit false

namespace Sunbolt.Library.PathPattern

def segments (path : List Char) : List (List Char) := path.splitOn '/'

/-- A segment in braces stands for any segment but the empty one. -/
def isParam (part : List Char) : Bool := part.head? = some '\x7b'

/-- The segments that the parameters of a pattern stand for, where the path matches it. -/
def matchSegments : List (List Char) → List (List Char) → Option (List String)
  | [], [] => some []
  | part :: pattern, segment :: path =>
    if isParam part then
      if segment = [] then none
      else (matchSegments pattern path).map (String.ofList segment :: ·)
    else if part = segment then matchSegments pattern path
    else none
  | _, _ => none

/-- The path that a pattern matches with these parameters. -/
def fillSegments : List (List Char) → List String → Option (List (List Char))
  | [], [] => some []
  | [], _ :: _ => none
  | part :: pattern, params =>
    if isParam part then
      match params with
      | [] => none
      | param :: rest =>
        if param = "" then none else (fillSegments pattern rest).map (param.toList :: ·)
    else (fillSegments pattern params).map (part :: ·)

/-- Some path may match both patterns. -/
def overlaps : List (List Char) → List (List Char) → Bool
  | [], [] => true
  | part :: pattern, other :: others =>
    (isParam part || isParam other || part = other) && overlaps pattern others
  | _, _ => false

section Matching

variable {pattern other path : List (List Char)} {params given : List String}

theorem fillSegments_of_match (h : matchSegments pattern path = some params) :
    fillSegments pattern params = some path := by
  induction pattern generalizing path params with
  | nil =>
    cases path with
    | nil =>
      cases h
      rfl
    | cons segment path => cases h
  | cons part pattern ih =>
    cases path with
    | nil => cases h
    | cons segment path =>
      unfold matchSegments at h
      split at h
      · rename_i hparam
        split at h
        · cases h
        · rename_i hsegment
          obtain ⟨rest, hrest, rfl⟩ := Option.map_eq_some_iff.mp h
          have named : String.ofList segment ≠ "" := by
            intro hempty
            have hlist := congrArg String.toList hempty
            rw [String.toList_ofList] at hlist
            exact hsegment hlist
          simp [fillSegments, hparam, named, ih hrest]
      · rename_i hparam
        split at h
        · rename_i hsame
          subst hsame
          simp [fillSegments, hparam, ih h]
        · cases h

theorem match_of_fillSegments (h : fillSegments pattern params = some path) :
    matchSegments pattern path = some params := by
  induction pattern generalizing path params with
  | nil =>
    cases params with
    | nil =>
      cases h
      rfl
    | cons param params => cases h
  | cons part pattern ih =>
    unfold fillSegments at h
    split at h
    · rename_i hparam
      cases params with
      | nil => cases h
      | cons param params =>
        rw [ite_eq_iff] at h
        rcases h with ⟨-, hnone⟩ | ⟨named, h⟩
        · cases hnone
        · obtain ⟨rest, hrest, rfl⟩ := Option.map_eq_some_iff.mp h
          have hsegment : param.toList ≠ [] := by
            intro hempty
            exact named (String.toList_inj.mp hempty)
          simp [matchSegments, hparam, hsegment, ih hrest]
    · rename_i hparam
      obtain ⟨rest, hrest, rfl⟩ := Option.map_eq_some_iff.mp h
      simp [matchSegments, hparam, ih hrest]

/-- Matching a path and filling the pattern in are inverse to one another. -/
theorem matchSegments_iff :
    matchSegments pattern path = some params ↔ fillSegments pattern params = some path :=
  ⟨fillSegments_of_match, match_of_fillSegments⟩

theorem overlaps_of_match (h : matchSegments pattern path = some params)
    (hother : matchSegments other path = some given) : overlaps pattern other = true := by
  induction pattern generalizing other path params given with
  | nil =>
    cases path with
    | cons segment path => cases h
    | nil =>
      cases other with
      | nil => rfl
      | cons part other => cases hother
  | cons part pattern ih =>
    cases path with
    | nil => cases h
    | cons segment path =>
      cases other with
      | nil => cases hother
      | cons otherPart other =>
        have rest : ∀ {part : List Char} {pattern : List (List Char)} {params : List String},
            matchSegments (part :: pattern) (segment :: path) = some params →
            (isParam part = true ∨ part = segment) ∧
              ∃ rest, matchSegments pattern path = some rest := by
          intro part pattern params h
          unfold matchSegments at h
          split at h
          · rename_i hparam
            split at h
            · cases h
            · obtain ⟨rest, hrest, -⟩ := Option.map_eq_some_iff.mp h
              exact ⟨Or.inl hparam, rest, hrest⟩
          · split at h
            · rename_i hsame
              exact ⟨Or.inr hsame, params, h⟩
            · cases h
        obtain ⟨hpart, _, hrest⟩ := rest h
        obtain ⟨hotherPart, _, hotherRest⟩ := rest hother
        rw [overlaps, ih hrest hotherRest, Bool.and_true]
        rcases hpart with hparam | rfl
        · simp [hparam]
        · rcases hotherPart with hparam | rfl
          · simp [hparam]
          · simp

end Matching

/-- The path written from its segments has these segments. -/
theorem segments_intercalate {parts : List (List Char)} (h : ∀ part ∈ parts, '/' ∉ part)
    (named : parts ≠ []) : segments (['/'].intercalate parts) = parts :=
  List.splitOn_intercalate '/' h named

section Search

variable {α β : Type} {candidates : List α} {f : α → Option β} {found : β}

/-- A search for a match finds the one that all of its matches agree on. -/
theorem findSome?_iff_of_agree (agree : ∀ a ∈ candidates, ∀ b ∈ candidates, ∀ x y,
    f a = some x → f b = some y → x = y) :
    candidates.findSome? f = some found ↔ ∃ a ∈ candidates, f a = some found := by
  constructor
  · intro h
    exact List.exists_of_findSome?_eq_some h
  · rintro ⟨a, hmem, hfound⟩
    cases hsearch : candidates.findSome? f with
    | none =>
      have hnone := List.findSome?_eq_none_iff.mp hsearch a hmem
      rw [hfound] at hnone
      cases hnone
    | some other =>
      obtain ⟨b, hb, hother⟩ := List.exists_of_findSome?_eq_some hsearch
      rw [agree b hb a hmem other found hother hfound]

end Search

end Sunbolt.Library.PathPattern
