/- Module: Sunbolt/Library/Records
   scope: general
   digest: Lists of records of which the first one with a key is found and replaced. -/

import Mathlib.Data.List.Nodup
import Mathlib.Tactic.SplitIfs

set_option autoImplicit false
set_option relaxedAutoImplicit false

namespace Sunbolt.Library.Records

universe u v

variable {α : Type u} {κ : Type v} [DecidableEq κ] (key : α → κ)

/-- The first record with the key. -/
def find (records : List α) (k : κ) : Option α := records.find? (fun record => key record == k)

/-- Where the first record with the key is. -/
def position (records : List α) (k : κ) : Option Nat :=
  records.findIdx? (fun record => key record == k)

variable {key} {records : List α} {k : κ} {record : α}

theorem find_cons (first : α) : find key (first :: records) k =
    if key first = k then some first else find key records k := by
  rw [find, List.find?_cons]
  by_cases h : key first = k
  · simp [h]
  · have hne : (key first == k) = false := by simpa using h
    rw [hne, if_neg h, find]

theorem key_of_find (h : find key records k = some record) : key record = k := by
  have hkey := List.find?_some h
  simpa using hkey

theorem mem_of_find (h : find key records k = some record) : record ∈ records :=
  List.mem_of_find?_eq_some h

theorem exists_find (hmem : record ∈ records) (hkey : key record = k) :
    ∃ found, find key records k = some found := by
  have hsome : (find key records k).isSome := by
    rw [find, List.find?_isSome]
    exact ⟨record, hmem, by simpa using hkey⟩
  exact Option.isSome_iff_exists.mp hsome

/-- A record whose key no other one has is the one found. -/
theorem find_of_mem (apart : (records.map key).Nodup) (hmem : record ∈ records) :
    find key records (key record) = some record := by
  obtain ⟨found, hfound⟩ : ∃ found, find key records (key record) = some found :=
    exists_find hmem rfl
  rw [hfound, List.inj_on_of_nodup_map apart (mem_of_find hfound) hmem (key_of_find hfound)]

/-- The one element that satisfies `p` is the one found. -/
theorem find?_of_pairwise {p : α → Bool} {l : List α} {a : α}
    (apart : l.Pairwise (fun x y => ¬(p x = true ∧ p y = true))) (hmem : a ∈ l)
    (hp : p a = true) : l.find? p = some a := by
  induction l with
  | nil => cases hmem
  | cons first rest ih =>
    rw [List.pairwise_cons] at apart
    rw [List.find?_cons]
    rcases List.mem_cons.mp hmem with rfl | hrest
    · rw [hp]
    · have hfirst : p first = false :=
        Bool.eq_false_iff.mpr (fun h => apart.1 a hrest ⟨h, hp⟩)
      rw [hfirst]
      exact ih apart.2 hrest

/-- The position and the record are those of one first match, or there is none. -/
theorem position_cases (key : α → κ) (records : List α) (k : κ) :
    (position key records k = none ∧ find key records k = none) ∨
      ∃ index record, position key records k = some index ∧ records[index]? = some record ∧
        find key records k = some record := by
  induction records with
  | nil => exact .inl ⟨rfl, rfl⟩
  | cons first rest ih =>
    rw [find_cons, position, List.findIdx?_cons]
    by_cases h : key first = k
    · refine .inr ⟨0, first, ?_, rfl, ?_⟩
      · simp [h]
      · rw [if_pos h]
    · rw [if_neg h]
      rcases ih with ⟨hposition, hfind⟩ | ⟨index, record, hposition, hget, hfind⟩
      · rw [position] at hposition
        exact .inl ⟨by simp [h, hposition], hfind⟩
      · rw [position] at hposition
        exact .inr ⟨index + 1, record, by simp [h, hposition], by simpa using hget, hfind⟩

/-- Replacing the first record of a key changes what is found under that key only. -/
theorem find_modify {index : Nat} {j : κ} {f : α → α}
    (hposition : position key records k = some index) (hkey : ∀ x, key x = k → key (f x) = k) :
    find key (records.modify index f) j =
      if j = k then (find key records k).map f else find key records j := by
  induction records generalizing index with
  | nil => simp [position] at hposition
  | cons first rest ih =>
    rw [position, List.findIdx?_cons] at hposition
    by_cases h : key first = k
    · simp only [h, beq_self_eq_true, if_true, Option.some.injEq] at hposition
      subst hposition
      rw [List.modify_zero_cons, find_cons, find_cons, find_cons, hkey first h, h]
      by_cases hj : k = j
      · rw [if_pos hj, if_pos hj.symm, if_pos rfl]
        rfl
      · rw [if_neg hj, if_neg (Ne.symm hj), if_neg hj]
    · have hne : (key first == k) = false := by simpa using h
      simp only [hne, Bool.false_eq_true, if_false, Option.map_eq_some_iff] at hposition
      obtain ⟨before, hbefore, rfl⟩ := hposition
      rw [List.modify_succ_cons, find_cons, find_cons, find_cons, ih hbefore, if_neg h]
      by_cases hj : j = k
      · rw [if_pos hj, if_pos hj, if_neg (fun heq => h (heq.trans hj))]
      · rw [if_neg hj, if_neg hj]

theorem find_append (more : List α) :
    find key (records ++ more) k = (find key records k).or (find key more k) := by
  rw [find, List.find?_append]
  rfl

/-- A record that is not the one replaced is still listed. -/
theorem getElem?_modify_of_ne {index other : Nat} {f : α → α} (h : other ≠ index) :
    (records.modify index f)[other]? = records[other]? := by
  rw [List.getElem?_modify]
  simp [Ne.symm h]

/-- Replacing a record by one with the same value of `g` keeps the list of these values. -/
theorem map_modify {β : Type v} (g : α → β) {index : Nat} {f : α → α}
    (same : ∀ x, records[index]? = some x → g (f x) = g x) :
    (records.modify index f).map g = records.map g := by
  apply List.ext_getElem?
  intro i
  rw [List.getElem?_map, List.getElem?_map, List.getElem?_modify]
  by_cases h : index = i
  · subst h
    cases hget : records[index]? with
    | none => rfl
    | some x => simpa using same x hget
  · simp [h]

/-- Where the values of some elements are all different, an element is known by its value. -/
theorem eq_of_nodup_filterMap {β : Type v} {f : α → Option β} {l : List α}
    (h : (l.filterMap f).Nodup) {a b : α} {x : β} (ha : a ∈ l) (hb : b ∈ l) (hfa : f a = some x)
    (hfb : f b = some x) : a = b := by
  induction l with
  | nil => cases ha
  | cons c l ih =>
    have elsewhere : ∀ {d : α}, f c = some x → d ∈ l → f d ≠ some x := by
      intro d hc hd hfd
      rw [List.filterMap_cons_some hc] at h
      exact (List.nodup_cons.mp h).1 (List.mem_filterMap.mpr ⟨d, hd, hfd⟩)
    rcases List.mem_cons.mp ha with hac | ha'
    · rcases List.mem_cons.mp hb with hbc | hb'
      · rw [hac, hbc]
      · exact absurd hfb (elsewhere (hac ▸ hfa) hb')
    · rcases List.mem_cons.mp hb with hbc | hb'
      · exact absurd hfa (elsewhere (hbc ▸ hfb) ha')
      · refine ih ?_ ha' hb'
        exact h.sublist ((List.sublist_cons_self c l).filterMap f)

end Sunbolt.Library.Records
