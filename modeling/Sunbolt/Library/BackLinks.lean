/- Module: Sunbolt/Library/BackLinks
   scope: general
   digest: Records that name the one before them, and the latest one of a list. -/

import Mathlib.Data.List.Induction
import Mathlib.Data.List.Nodup
import Mathlib.Order.Lattice

set_option autoImplicit false
set_option relaxedAutoImplicit false

namespace Sunbolt.Library

universe u v w

variable {α : Type u} {ν : Type v} {κ : Type w}

section Latest

variable [LinearOrder κ] (key : α → κ)

/-- The greatest one, and the last of several. -/
def lastMax (records : List α) : Option α :=
  records.foldl (fun latest record =>
    match latest with
    | none => some record
    | some other => if key other ≤ key record then some record else some other) none

theorem lastMax_concat (front : List α) (record : α) :
    lastMax key (front ++ [record]) =
      match lastMax key front with
      | none => some record
      | some other => if key other ≤ key record then some record else some other := by
  rw [lastMax, List.foldl_append]
  rfl

theorem lastMax_eq_none {records : List α} : lastMax key records = none ↔ records = [] := by
  induction records using List.reverseRecOn with
  | nil => simp [lastMax]
  | append_singleton front record ih =>
    rw [lastMax_concat]
    split
    · simp
    · split_ifs <;> simp

theorem lastMax_spec {records : List α} {latest : α} (h : lastMax key records = some latest) :
    latest ∈ records ∧ ∀ record ∈ records, key record ≤ key latest := by
  induction records using List.reverseRecOn generalizing latest with
  | nil => cases h
  | append_singleton front record ih =>
    rw [lastMax_concat] at h
    cases hfront : lastMax key front with
    | none =>
      rw [hfront, Option.some.injEq] at h
      rw [lastMax_eq_none] at hfront
      subst h hfront
      simp
    | some other =>
      obtain ⟨hmem, hgreatest⟩ := ih hfront
      simp only [hfront] at h
      split_ifs at h with hle
      · rw [Option.some.injEq] at h
        subst h
        refine ⟨by simp, fun later hlater => ?_⟩
        rcases List.mem_append.mp hlater with hlater | hlater
        · exact (hgreatest later hlater).trans hle
        · rw [List.mem_singleton.mp hlater]
      · rw [Option.some.injEq] at h
        subst h
        refine ⟨List.mem_append_left _ hmem, fun later hlater => ?_⟩
        rcases List.mem_append.mp hlater with hlater | hlater
        · exact hgreatest later hlater
        · rw [List.mem_singleton.mp hlater]
          exact (lt_of_not_ge hle).le

/-- The last record is the latest one exactly when no other one is greater. -/
theorem lastMax_concat_iff {front : List α} {record : α} :
    lastMax key (front ++ [record]) = some record ↔
      ∀ other ∈ front, key other ≤ key record := by
  constructor
  · intro h other hother
    exact (lastMax_spec key h).2 other (List.mem_append_left _ hother)
  · intro h
    rw [lastMax_concat]
    cases hfront : lastMax key front with
    | none => rfl
    | some other => exact if_pos (h other (lastMax_spec key hfront).1)

end Latest

section Links

variable (name : α → ν) (link : α → Option ν)

/-- Each record names the one before it, and the first one names none. -/
inductive BackLinked : List α → Prop
  | nil : BackLinked []
  | concat {records : List α} {record : α} (earlier : BackLinked records)
    (link : link record = records.getLast?.map name) : BackLinked (records ++ [record])

/-- Following the names from a record on, until one names none. -/
inductive Visits (records : List α) : α → List α → Prop
  | last {record : α} (named : link record = none) : Visits records record [record]
  | next {record earlier : α} {visited : List α} (mem : earlier ∈ records)
    (named : link record = some (name earlier)) (rest : Visits records earlier visited) :
    Visits records record (record :: visited)

variable {name link} {records more visited visited' : List α} {record newest : α}

theorem Visits.mono (h : Visits name link records record visited) (subset : records ⊆ more) :
    Visits name link more record visited := by
  induction h with
  | last named => exact .last named
  | next mem named rest ih => exact .next (subset mem) named ih

/-- From the newest record on, all of them are visited, the newest one first. -/
theorem BackLinked.visits (h : BackLinked name link records)
    (last : records.getLast? = some newest) :
    Visits name link records newest records.reverse := by
  induction h generalizing newest with
  | nil => cases last
  | @concat front record earlier named ih =>
    rw [List.getLast?_concat, Option.some.injEq] at last
    subst last
    rw [List.reverse_concat]
    cases hlast : front.getLast? with
    | none =>
      rw [hlast] at named
      rw [List.getLast?_eq_none_iff] at hlast
      subst hlast
      exact .last named
    | some previous =>
      rw [hlast] at named
      have hmem : previous ∈ front ++ [record] :=
        List.mem_append_left _ (List.mem_of_getLast? hlast)
      exact .next hmem named ((ih hlast).mono (List.subset_append_left _ _))

/-- With distinct names there is one way to follow them. -/
theorem Visits.unique (distinct : (records.map name).Nodup)
    (h : Visits name link records record visited)
    (h' : Visits name link records record visited') : visited = visited' := by
  induction h generalizing visited' with
  | last named =>
    cases h' with
    | last named' => rfl
    | next mem named' rest =>
      rw [named] at named'
      cases named'
  | next mem named rest ih =>
    cases h' with
    | last named' =>
      rw [named] at named'
      cases named'
    | next mem' named' rest' =>
      rw [named, Option.some.injEq] at named'
      have hearlier := List.inj_on_of_nodup_map distinct mem mem' named'
      subst hearlier
      rw [ih rest']

end Links

end Sunbolt.Library
