/- Module: Sunbolt/Library/Tally
   scope: general
   digest: Weights added up over lists, tables and runs, and costs that each task has earned. -/

import Sunbolt.Library.Pool
import Sunbolt.Library.Table
import Mathlib.Algebra.BigOperators.Group.List.Basic

set_option autoImplicit false
set_option relaxedAutoImplicit false

namespace Sunbolt.Library

universe u v

/-! Lists. -/

section Lists

variable {α : Type u} {κ : Type v}

/-- What the elements of a list weigh together. -/
def tally (weight : α → Nat) (l : List α) : Nat := (l.map weight).sum

@[simp] theorem tally_nil (weight : α → Nat) : tally weight [] = 0 := rfl

@[simp] theorem tally_cons (weight : α → Nat) (a : α) (l : List α) :
    tally weight (a :: l) = weight a + tally weight l := by
  simp [tally]

@[simp] theorem tally_append (weight : α → Nat) (l more : List α) :
    tally weight (l ++ more) = tally weight l + tally weight more := by
  simp [tally]

theorem tally_map {β : Type v} (weight : β → Nat) (f : α → β) (l : List α) :
    tally weight (l.map f) = tally (fun a => weight (f a)) l := by
  rw [tally, List.map_map]
  rfl

theorem tally_congr {weight other : α → Nat} {l : List α}
    (same : ∀ a ∈ l, weight a = other a) : tally weight l = tally other l :=
  congrArg List.sum (List.map_congr_left same)

/-- How often a list is mapped to something is what these elements weigh. -/
theorem count_filterMap_eq_tally {β : Type v} [DecidableEq β] (f : α → Option β) (b : β)
    (l : List α) : (l.filterMap f).count b = tally (fun a => if f a = some b then 1 else 0) l := by
  induction l with
  | nil => rfl
  | cons a l ih =>
    rw [List.filterMap_cons, tally_cons, ← ih]
    cases hf : f a with
    | none => simp
    | some found =>
      by_cases heq : found = b
      · rw [heq, List.count_cons_self, if_pos rfl, Nat.add_comm]
      · have hne : ¬some found = some b := by simpa using heq
        rw [List.count_cons_of_ne heq, if_neg hne, Nat.zero_add]

/-- The elements that satisfy `p`, and the other ones. -/
theorem tally_filter (weight : α → Nat) (p : α → Bool) (l : List α) :
    tally weight l = tally weight (l.filter p) + tally weight (l.filter (fun a => !p a)) := by
  induction l with
  | nil => rfl
  | cons a l ih =>
    rw [tally_cons, ih, List.filter_cons, List.filter_cons]
    cases hp : p a with
    | true =>
      simp only [if_true, Bool.not_true, Bool.false_eq_true, if_false, tally_cons]
      omega
    | false =>
      simp only [if_true, Bool.not_false, Bool.false_eq_true, if_false, tally_cons]
      omega

/-- Costs that are covered for each key alone are covered for all keys together. -/
theorem tally_le_of_keys [DecidableEq κ] {cost gain : α → Nat} (key : α → κ) {l : List α}
    (covered : ∀ k, tally cost (l.filter (fun a => key a = k)) ≤
      tally gain (l.filter (fun a => key a = k))) : tally cost l ≤ tally gain l := by
  induction hlength : l.length using Nat.strong_induction_on generalizing l with
  | _ n ih =>
    cases l with
    | nil => exact le_rfl
    | cons a l =>
      rw [tally_filter cost (fun b => decide (key b = key a)),
        tally_filter gain (fun b => decide (key b = key a))]
      refine Nat.add_le_add (covered (key a)) ?_
      have hshorter : ((a :: l).filter (fun b => !decide (key b = key a))).length < n := by
        have hle := List.length_filter_le (fun b => !decide (key b = key a)) l
        simp only [List.length_cons] at hlength
        simp
        omega
      refine ih _ hshorter (fun k => ?_) rfl
      simp only [List.filter_filter]
      by_cases hk : k = key a
      · have hnone : ∀ b ∈ a :: l, ¬(decide (key b = k) && !decide (key b = key a)) = true := by
          intro b _ hb
          simp [hk] at hb
        rw [List.filter_eq_nil_iff.mpr hnone]
        exact le_rfl
      · have hall : (fun b => decide (key b = k) && !decide (key b = key a)) =
            fun b => decide (key b = k) := by
          funext b
          by_cases hb : key b = k
          · simp [hb, hk]
          · simp [hb]
        rw [hall]
        exact covered k

end Lists

/-! Tables. -/

namespace Table

variable {K : Type u} {V : Type v} [DecidableEq K]

/-- What the values of a table weigh together. -/
def total (t : Table K V) (weight : V → Nat) : Nat := tally (fun e => weight e.2) t.entries

/-- A value that is set replaces what its key had. -/
theorem total_insert (t : Table K V) (weight : V → Nat) (k : K) (v : V) :
    Table.total (AList.insert k v t) weight + ((t.lookup k).map weight).getD 0 =
      t.total weight + weight v := by
  have herase : tally (fun e => weight e.2) (List.kerase k t.entries) +
      ((t.lookup k).map weight).getD 0 = t.total weight := by
    cases hlookup : t.lookup k with
    | none =>
      have habsent : k ∉ t.entries.keys := AList.lookup_eq_none.mp hlookup
      rw [List.kerase_of_notMem_keys habsent]
      rfl
    | some found =>
      have hmem : (⟨k, found⟩ : Sigma (fun _ : K => V)) ∈ t.entries :=
        AList.mem_lookup_iff.mp hlookup
      obtain ⟨other, front, back, hfront, hentries, hrest⟩ :=
        List.exists_of_kerase (List.mem_keys_of_mem hmem)
      have hother : other = found := by
        have hlookup' : t.lookup k = some other := by
          refine AList.mem_lookup_iff.mpr ?_
          rw [hentries]
          simp
        rw [hlookup] at hlookup'
        exact (Option.some.inj hlookup').symm
      rw [hother] at hentries
      rw [hrest, total, hentries]
      simp only [tally_append, tally_cons, Option.map_some, Option.getD_some]
      omega
  rw [total, AList.entries_insert, tally_cons]
  dsimp only
  omega

end Table

/-! Runs. -/

namespace Service

variable {Sh A J C E : Type} {R : A → Type} {S : Service Sh A R J C} {entry : E → J} {sh : Sh}
  {D : Discipline A R J} {history : List (Event Sh A R J)} {pool : Pool Sh A R J}

/-- Where no task ever costs more than it has gained by then, neither does the run. -/
theorem Reaches.covered (sound : D.Sound S entry) (cost : J → A → Nat)
    (gain : Interaction A R → Nat)
    (earned : ∀ {origin past action}, D.act origin past action →
      tally (fun x => cost origin x.action) past + cost origin action ≤ tally gain past)
    (h : S.Reaches entry sh history pool) :
    tally (fun e => cost e.origin e.action) history ≤
      tally (fun e => gain e.interaction) history := by
  refine tally_le_of_keys Event.task (fun task => ?_)
  have hfront : ∀ front, front <+: history →
      tally (fun e => cost e.origin e.action) (front.filter (fun e => e.task = task)) ≤
        tally (fun e => gain e.interaction) (front.filter (fun e => e.task = task)) := by
    intro front
    induction front using List.reverseRecOn with
    | nil => exact fun _ => le_rfl
    | append_singleton front e ih =>
      rintro ⟨back, hback⟩
      have hsplit : history = front ++ e :: back := by simp [← hback]
      have hprevious := ih ⟨e :: back, hsplit.symm⟩
      rw [List.filter_append, tally_append, tally_append]
      by_cases htask : e.task = task
      · have hpaid := earned (h.act sound hsplit)
        have hcost : tally (fun x => cost e.origin x.action) (own e.task front) =
            tally (fun e => cost e.origin e.action)
              (front.filter (fun e => e.task = task)) := by
          rw [own, tally_map, htask]
          refine tally_congr (fun other hother => ?_)
          obtain ⟨hmem, hsame⟩ := List.mem_filter.mp hother
          have he : e ∈ history := by simp [hsplit]
          have hother : other ∈ history := by simp [hsplit, hmem]
          rw [h.origin sound he hother (htask.trans (of_decide_eq_true hsame).symm)]
          rfl
        have hgain : tally gain (own e.task front) =
            tally (fun e => gain e.interaction) (front.filter (fun e => e.task = task)) := by
          rw [own, tally_map, htask]
          rfl
        rw [hcost, hgain] at hpaid
        simp only [htask, decide_true, List.filter_cons_of_pos, List.filter_nil, tally_cons,
          tally_nil]
        omega
      · simp only [htask, decide_false, Bool.false_eq_true, not_false_eq_true,
          List.filter_cons_of_neg, List.filter_nil, tally_nil]
        exact hprevious
  exact hfront history List.prefix_rfl

end Service

end Sunbolt.Library
