/- Module: Sunbolt/Library/OrderedMap
   scope: general
   digest: Finite maps that keep the order in which their keys came. -/

import Mathlib.Data.List.Nodup
import Mathlib.Tactic.SplitIfs

set_option autoImplicit false
set_option relaxedAutoImplicit false

namespace Sunbolt.Library

universe u v

/-- A finite map in the order of its keys; a key that is set again keeps its place. -/
@[ext]
structure OrderedMap (K : Type u) (V : Type v) where
  entries : List (K × V)
  nodup : (entries.map Prod.fst).Nodup

namespace OrderedMap

variable {K : Type u} {V : Type v}

def empty : OrderedMap K V := ⟨[], List.nodup_nil⟩

def keys (m : OrderedMap K V) : List K := m.entries.map Prod.fst

def values (m : OrderedMap K V) : List V := m.entries.map Prod.snd

@[simp] theorem values_empty : (empty : OrderedMap K V).values = [] := rfl

variable [DecidableEq K]

private theorem lookup_cons_ite (j i : K) (w : V) (l : List (K × V)) :
    ((i, w) :: l).lookup j = if j = i then some w else l.lookup j := by
  rw [List.lookup_cons]
  split_ifs with hj
  · rw [hj, beq_self_eq_true]
  · rw [beq_eq_false_iff_ne.mpr hj]

/-- Replace the value of a key where it stands, or add the key at the end. -/
def setEntries (k : K) (v : V) : List (K × V) → List (K × V)
  | [] => [(k, v)]
  | (j, w) :: rest => if j = k then (k, v) :: rest else (j, w) :: setEntries k v rest

private theorem keys_setEntries (k : K) (v : V) (l : List (K × V)) :
    (setEntries k v l).map Prod.fst =
      if k ∈ l.map Prod.fst then l.map Prod.fst else l.map Prod.fst ++ [k] := by
  induction l with
  | nil => rfl
  | cons e rest ih =>
    obtain ⟨j, w⟩ := e
    by_cases hj : j = k
    · simp [setEntries, hj]
    · simp only [setEntries, if_neg hj, List.map_cons, ih, List.mem_cons, Ne.symm hj, false_or]
      split_ifs <;> rfl

def set (m : OrderedMap K V) (k : K) (v : V) : OrderedMap K V where
  entries := setEntries k v m.entries
  nodup := by
    rw [keys_setEntries]
    split_ifs with hmem
    · exact m.nodup
    · exact List.nodup_append.mpr ⟨m.nodup, List.nodup_singleton k, by
        rintro a ha b hb rfl
        exact hmem (List.mem_singleton.mp hb ▸ ha)⟩

def delete (m : OrderedMap K V) (k : K) : OrderedMap K V where
  entries := m.entries.filter (fun e => e.1 ≠ k)
  nodup := m.nodup.sublist (List.filter_sublist.map _)

def get (m : OrderedMap K V) (k : K) : Option V := m.entries.lookup k

@[simp] theorem get_empty (k : K) : (empty : OrderedMap K V).get k = none := rfl

theorem get_set (m : OrderedMap K V) (k j : K) (v : V) :
    (m.set k v).get j = if j = k then some v else m.get j := by
  have key : ∀ l : List (K × V), (setEntries k v l).lookup j =
      if j = k then some v else l.lookup j := by
    intro l
    induction l with
    | nil => exact lookup_cons_ite j k v []
    | cons e rest ih =>
      obtain ⟨i, w⟩ := e
      rw [setEntries, lookup_cons_ite]
      by_cases hi : i = k
      · subst hi
        rw [if_pos rfl, lookup_cons_ite]
        split_ifs <;> rfl
      · rw [if_neg hi, lookup_cons_ite, ih]
        by_cases hj : j = i
        · rw [if_pos hj, if_neg (hj ▸ hi), if_pos hj]
        · rw [if_neg hj, if_neg hj]
  exact key m.entries

theorem get_delete (m : OrderedMap K V) (k j : K) :
    (m.delete k).get j = if j = k then none else m.get j := by
  have key : ∀ l : List (K × V), (l.filter (fun e => e.1 ≠ k)).lookup j =
      if j = k then none else l.lookup j := by
    intro l
    induction l with
    | nil => simp
    | cons e rest ih =>
      obtain ⟨i, w⟩ := e
      rw [List.filter_cons, lookup_cons_ite]
      by_cases hi : i = k
      · subst hi
        rw [if_neg (by simp), ih]
        split_ifs <;> rfl
      · rw [if_pos (by simpa using hi), lookup_cons_ite, ih]
        by_cases hj : j = i
        · rw [if_pos hj, if_neg (hj ▸ hi), if_pos hj]
        · rw [if_neg hj, if_neg hj]
  exact key m.entries

theorem mem_entries_set {m : OrderedMap K V} {k : K} {v : V} {e : K × V}
    (h : e ∈ (m.set k v).entries) : e = (k, v) ∨ e ∈ m.entries := by
  have key : ∀ l : List (K × V), e ∈ setEntries k v l → e = (k, v) ∨ e ∈ l := by
    intro l
    induction l with
    | nil => exact fun h => Or.inl (List.mem_singleton.mp h)
    | cons d rest ih =>
      obtain ⟨j, w⟩ := d
      rw [setEntries]
      split_ifs with hj
      · intro h
        exact (List.mem_cons.mp h).imp_right (List.mem_cons_of_mem _)
      · intro h
        rcases List.mem_cons.mp h with rfl | h
        · exact Or.inr List.mem_cons_self
        · exact (ih h).imp_right (List.mem_cons_of_mem _)
  exact key m.entries h

theorem mem_entries_delete {m : OrderedMap K V} {k : K} {e : K × V}
    (h : e ∈ (m.delete k).entries) : e ∈ m.entries := List.mem_of_mem_filter h

theorem mem_entries_of_get {m : OrderedMap K V} {k : K} {v : V} (h : m.get k = some v) :
    (k, v) ∈ m.entries := by
  have key : ∀ l : List (K × V), l.lookup k = some v → (k, v) ∈ l := by
    intro l
    induction l with
    | nil => simp
    | cons e rest ih =>
      obtain ⟨j, w⟩ := e
      rw [lookup_cons_ite]
      split_ifs with hj
      · rintro heq
        cases heq
        exact hj ▸ List.mem_cons_self
      · exact fun h => List.mem_cons_of_mem _ (ih h)
  exact key m.entries h

theorem mem_values_set {m : OrderedMap K V} {k : K} {v w : V} (h : w ∈ (m.set k v).values) :
    w = v ∨ w ∈ m.values := by
  obtain ⟨e, he, rfl⟩ := List.mem_map.mp h
  rcases mem_entries_set he with rfl | hold
  · exact Or.inl rfl
  · exact Or.inr (List.mem_map_of_mem hold)

theorem mem_values_delete {m : OrderedMap K V} {k : K} {w : V} (h : w ∈ (m.delete k).values) :
    w ∈ m.values := by
  obtain ⟨e, he, rfl⟩ := List.mem_map.mp h
  exact List.mem_map_of_mem (mem_entries_delete he)

theorem mem_values_of_get {m : OrderedMap K V} {k : K} {v : V} (h : m.get k = some v) :
    v ∈ m.values := List.mem_map_of_mem (mem_entries_of_get h)

/-- A new key comes last. -/
theorem entries_set_of_notMem {m : OrderedMap K V} {k : K} (v : V) (h : k ∉ m.keys) :
    (m.set k v).entries = m.entries ++ [(k, v)] := by
  have key : ∀ l : List (K × V), k ∉ l.map Prod.fst → setEntries k v l = l ++ [(k, v)] := by
    intro l
    induction l with
    | nil => exact fun _ => rfl
    | cons e rest ih =>
      obtain ⟨j, w⟩ := e
      intro hmem
      rw [List.map_cons, List.mem_cons, not_or] at hmem
      rw [setEntries, if_neg (Ne.symm hmem.1), ih hmem.2, List.cons_append]
  exact key m.entries h

/-! Maps whose values know their keys. -/

variable (key : V → K)

/-- The map that a list of values gives, set one by one. -/
def ofValues (values : List V) : OrderedMap K V :=
  values.foldl (fun m v => m.set (key v) v) empty

/-- Every value is stored under its own key. -/
def Keyed (m : OrderedMap K V) : Prop := ∀ e ∈ m.entries, key e.2 = e.1

variable {key} {m : OrderedMap K V}

omit [DecidableEq K] in
theorem Keyed.empty : Keyed key (empty : OrderedMap K V) := fun e he => by cases he

theorem Keyed.set (h : m.Keyed key) {k : K} {v : V} (own : key v = k) :
    (m.set k v).Keyed key := by
  intro e he
  rcases mem_entries_set he with rfl | he
  · exact own
  · exact h e he

theorem Keyed.delete (h : m.Keyed key) (k : K) : (m.delete k).Keyed key :=
  fun e he => h e (mem_entries_delete he)

theorem Keyed.get (h : m.Keyed key) {k : K} {v : V} (found : m.get k = some v) : key v = k :=
  h _ (mem_entries_of_get found)

private theorem foldl_set_keyed (values : List V) (h : m.Keyed key) :
    (values.foldl (fun m v => m.set (key v) v) m).Keyed key := by
  induction values generalizing m with
  | nil => exact h
  | cons v values ih => exact ih (h.set rfl)

theorem keyed_ofValues (values : List V) : (ofValues key values).Keyed key :=
  foldl_set_keyed values .empty

theorem mem_values_ofValues {values : List V} {v : V} (h : v ∈ (ofValues key values).values) :
    v ∈ values := by
  have fold : ∀ (values : List V) (front : OrderedMap K V),
      v ∈ (values.foldl (fun m v => m.set (key v) v) front).values →
        v ∈ front.values ∨ v ∈ values := by
    intro values
    induction values with
    | nil => exact fun _ h => Or.inl h
    | cons w values ih =>
      intro front h
      rcases ih _ h with hfront | hlater
      · rcases mem_values_set hfront with rfl | hold
        · exact Or.inr List.mem_cons_self
        · exact Or.inl hold
      · exact Or.inr (List.mem_cons_of_mem _ hlater)
  exact (fold values empty h).resolve_left (fun hnone => absurd hnone List.not_mem_nil)

/-- A map is what its values give, in the same order. -/
theorem ofValues_values (h : m.Keyed key) : ofValues key m.values = m := by
  have fold : ∀ (l : List (K × V)) (front : OrderedMap K V), (∀ e ∈ l, key e.2 = e.1) →
      ((front.entries ++ l).map Prod.fst).Nodup →
      ((l.map Prod.snd).foldl (fun m v => m.set (key v) v) front).entries =
        front.entries ++ l := by
    intro l
    induction l with
    | nil => exact fun front _ _ => (List.append_nil _).symm
    | cons e rest ih =>
      obtain ⟨k, v⟩ := e
      intro front keyed distinct
      have hk : key v = k := keyed (k, v) List.mem_cons_self
      have fresh : key v ∉ front.keys := by
        rw [hk]
        rw [List.map_append, List.nodup_append] at distinct
        exact fun hmem => distinct.2.2 k hmem k (by simp) rfl
      have hset : (front.set (key v) v).entries = front.entries ++ [(k, v)] := by
        rw [entries_set_of_notMem v fresh, hk]
      rw [List.map_cons, List.foldl_cons, ih _ (fun e he => keyed e (List.mem_cons_of_mem _ he)),
        hset, List.append_assoc, List.singleton_append]
      rw [hset, List.append_assoc, List.singleton_append]
      exact distinct
  exact OrderedMap.ext (fold m.entries empty h m.nodup)

/-- The values of all keys but one. -/
theorem ofValues_filter_values (h : m.Keyed key) (k : K) :
    ofValues key (m.values.filter (fun v => key v ≠ k)) = m.delete k := by
  have hvalues : m.values.filter (fun v => key v ≠ k) = (m.delete k).values := by
    rw [values, List.filter_map]
    refine congrArg (List.map Prod.snd) (List.filter_congr (fun e he => ?_))
    simp only [Function.comp_apply, h e he]
  rw [hvalues, ofValues_values (h.delete k)]

end OrderedMap

end Sunbolt.Library
