/- Module: Sunbolt/Library/Occurrence
   scope: general
   digest: Occurrences of a word in a text, and the runs of letters they stand in. -/

import Mathlib.Data.List.DropRight

set_option autoImplicit false
set_option relaxedAutoImplicit false

namespace Sunbolt.Library

universe u

variable {α : Type u} {p : α → Bool}

/-- A word lies on one side of a seam that is not between two of its letters. -/
theorem occurrence_of_seam {word left right front back : List α}
    (h : left ++ right = front ++ word ++ back)
    (seam : ∀ c ∈ left.getLast?, ∀ d ∈ right.head?, c ∈ word → d ∉ word) :
    (∃ more, left = front ++ word ++ more ∧ back = more ++ right) ∨
      ∃ more, right = more ++ word ++ back ∧ front = left ++ more := by
  rw [List.append_assoc, List.append_eq_append_iff] at h
  rcases h with ⟨more, hfront, hright⟩ | ⟨start, hleft, hstart⟩
  · right
    exact ⟨more, by rw [hright, List.append_assoc], hfront⟩
  · rw [List.append_eq_append_iff] at hstart
    rcases hstart with ⟨more, hmore, hback⟩ | ⟨rest, hcut, hright⟩
    · left
      exact ⟨more, by rw [hleft, hmore, List.append_assoc], hback⟩
    · cases start with
      | nil =>
        right
        refine ⟨[], ?_, ?_⟩
        · rw [hright, hcut, List.nil_append, List.nil_append]
        · rw [hleft, List.append_nil, List.append_nil]
      | cons c start =>
        cases rest with
        | nil =>
          left
          refine ⟨[], ?_, hright.symm⟩
          rw [hleft, hcut, List.append_nil, List.append_nil]
        | cons d rest =>
          -- the seam would be inside the word
          exfalso
          obtain ⟨e, he⟩ : ∃ e, (c :: start).getLast? = some e :=
            ⟨_, List.getLast?_eq_some_getLast (List.cons_ne_nil _ _)⟩
          refine seam e ?_ d ?_ ?_ ?_
          · rw [hleft, List.getLast?_append, he]
            rfl
          · rw [hright]
            rfl
          · rw [hcut]
            exact List.mem_append_left _ (List.mem_of_getLast? he)
          · rw [hcut]
            exact List.mem_append_right _ (List.mem_cons_self ..)

/-- A word without the separator lies before it or behind it. -/
theorem occurrence_of_separator {word left right front back : List α} {c : α} (hword : word ≠ [])
    (hc : c ∉ word) (h : left ++ c :: right = front ++ word ++ back) :
    (∃ more, left = front ++ word ++ more ∧ back = more ++ c :: right) ∨
      ∃ more, right = more ++ word ++ back ∧ front = left ++ [c] ++ more := by
  have seam : ∀ d ∈ left.getLast?, ∀ e ∈ (c :: right).head?, d ∈ word → e ∉ word := by
    intro d _ e he _
    obtain rfl : c = e := Option.some.inj he
    exact hc
  rcases occurrence_of_seam h seam with hleft | ⟨more, hright, hfront⟩
  · exact Or.inl hleft
  · right
    cases more with
    | nil =>
      cases word with
      | nil => exact absurd rfl hword
      | cons d word =>
        obtain rfl : c = d := (List.cons.inj hright).1
        exact absurd (List.mem_cons_self ..) hc
    | cons d more =>
      rw [List.cons_append, List.cons_append] at hright
      obtain ⟨rfl, hrest⟩ := List.cons.inj hright
      exact ⟨more, hrest, by rw [hfront, List.append_assoc, List.singleton_append]⟩

/-! Runs. -/

theorem takeWhile_append_stop {back more : List α}
    (h : (∃ c ∈ back, p c = false) ∨ ∀ c ∈ more.head?, p c = false) :
    (back ++ more).takeWhile p = back.takeWhile p := by
  induction back with
  | nil =>
    rcases h with ⟨c, hc, -⟩ | h
    · cases hc
    · cases more with
      | nil => rfl
      | cons c more => simp [h c rfl]
  | cons c back ih =>
    by_cases hc : p c = true
    · rw [List.cons_append, List.takeWhile_cons_of_pos hc, List.takeWhile_cons_of_pos hc, ih]
      rcases h with ⟨d, hd, hpd⟩ | h
      · rcases List.mem_cons.mp hd with rfl | hd
        · rw [hc] at hpd
          cases hpd
        · exact Or.inl ⟨d, hd, hpd⟩
      · exact Or.inr h
    · rw [List.cons_append, List.takeWhile_cons_of_neg hc, List.takeWhile_cons_of_neg hc]

theorem rtakeWhile_append_stop {front before : List α}
    (h : (∃ c ∈ front, p c = false) ∨ ∀ c ∈ before.getLast?, p c = false) :
    (before ++ front).rtakeWhile p = front.rtakeWhile p := by
  rw [List.rtakeWhile, List.rtakeWhile, List.reverse_append, takeWhile_append_stop]
  rw [List.head?_reverse]
  rcases h with ⟨c, hc, hpc⟩ | h
  · exact Or.inl ⟨c, List.mem_reverse.mpr hc, hpc⟩
  · exact Or.inr h

/-- The run of letters that a word stands in. -/
def around (p : α → Bool) (front word back : List α) : List α :=
  front.rtakeWhile p ++ word ++ back.takeWhile p

theorem around_append_right {front word back more : List α}
    (h : (∃ c ∈ back, p c = false) ∨ ∀ c ∈ more.head?, p c = false) :
    around p front word (back ++ more) = around p front word back := by
  rw [around, takeWhile_append_stop h, around]

theorem around_append_left {before front word back : List α}
    (h : (∃ c ∈ front, p c = false) ∨ ∀ c ∈ before.getLast?, p c = false) :
    around p (before ++ front) word back = around p front word back := by
  rw [around, rtakeWhile_append_stop h, around]

/-- The text has the word in a run of letters that is not hidden. -/
def Shows (p : α → Bool) (hidden : List α → Bool) (word text : List α) : Prop :=
  ∃ front back, text = front ++ word ++ back ∧ hidden (around p front word back) = false

section Shows

variable {hidden : List α → Bool} {word : List α}

/-- A character that is not a letter parts a text. -/
theorem shows_separator (hword : word ≠ []) (letters : ∀ c ∈ word, p c = true) {c : α}
    (hc : p c = false) (left right : List α) :
    Shows p hidden word (left ++ c :: right) ↔
      Shows p hidden word left ∨ Shows p hidden word right := by
  have hout : c ∉ word := by
    intro hmem
    rw [letters c hmem] at hc
    cases hc
  have behind : ∀ d ∈ (c :: right).head?, p d = false := by
    intro d hd
    obtain rfl : c = d := Option.some.inj hd
    exact hc
  have before : ∀ d ∈ (left ++ [c]).getLast?, p d = false := by
    intro d hd
    rw [List.getLast?_concat] at hd
    obtain rfl : c = d := Option.some.inj hd
    exact hc
  constructor
  · rintro ⟨front, back, hsplit, hshown⟩
    rcases occurrence_of_separator hword hout hsplit with ⟨more, hleft, rfl⟩ | ⟨more, hright, rfl⟩
    · rw [around_append_right (Or.inr behind)] at hshown
      exact Or.inl ⟨front, more, hleft, hshown⟩
    · rw [around_append_left (Or.inr before)] at hshown
      exact Or.inr ⟨more, back, hright, hshown⟩
  · rintro (⟨front, back, rfl, hshown⟩ | ⟨front, back, rfl, hshown⟩)
    · refine ⟨front, back ++ c :: right, by simp only [List.append_assoc], ?_⟩
      rwa [around_append_right (Or.inr behind)]
    · refine ⟨left ++ [c] ++ front, back, by simp, ?_⟩
      rwa [around_append_left (Or.inr before)]

theorem not_shows_of_short {text : List α} (h : text.length < word.length) :
    ¬Shows p hidden word text := by
  rintro ⟨front, back, rfl, -⟩
  simp only [List.length_append] at h
  omega

/-- In one run of letters every occurrence stands in the whole run. -/
theorem shows_run {run : List α} (h : ∀ c ∈ run, p c = true) :
    Shows p hidden word run ↔ word <:+: run ∧ hidden run = false := by
  have whole : ∀ {front back}, run = front ++ word ++ back → around p front word back = run := by
    rintro front back rfl
    have hfront : front.rtakeWhile p = front := List.rtakeWhile_eq_self_iff.mpr fun c hc =>
      h c (List.mem_append_left _ (List.mem_append_left _ hc))
    have hback : back.takeWhile p = back := List.takeWhile_eq_self_iff.mpr fun c hc =>
      h c (List.mem_append_right _ hc)
    rw [around, hfront, hback]
  constructor
  · rintro ⟨front, back, hsplit, hshown⟩
    rw [whole hsplit] at hshown
    exact ⟨⟨front, back, hsplit.symm⟩, hshown⟩
  · rintro ⟨⟨front, back, hsplit⟩, hshown⟩
    refine ⟨front, back, hsplit.symm, ?_⟩
    rwa [whole hsplit.symm]

theorem infix_separator (hword : word ≠ []) {c : α} (hc : c ∉ word) (left right : List α) :
    word <:+: left ++ c :: right ↔ word <:+: left ∨ word <:+: right := by
  constructor
  · rintro ⟨front, back, hsplit⟩
    rcases occurrence_of_separator hword hc hsplit.symm with ⟨more, hleft, -⟩ | ⟨more, hright, -⟩
    · exact Or.inl ⟨front, more, hleft.symm⟩
    · exact Or.inr ⟨more, back, hright.symm⟩
  · rintro (h | h)
    · exact h.trans (List.prefix_append left (c :: right)).isInfix
    · exact h.trans ((List.suffix_cons c right).trans (List.suffix_append left _)).isInfix

end Shows

end Sunbolt.Library
