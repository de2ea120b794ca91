/- Module: Sunbolt/Library/Table
   scope: general
   digest: Tables over association lists, bounded windows and broadcast logs. -/

import Mathlib.Algebra.GroupWithZero.Nat
import Mathlib.Data.List.AList

set_option autoImplicit false
set_option relaxedAutoImplicit false

namespace Sunbolt.Library

universe u v

/-- A finite map with non-dependent values. -/
abbrev Table (K : Type u) (V : Type v) := AList (fun _ : K => V)

namespace Table

variable {K : Type u} {V : Type v} [DecidableEq K]

/-- Change the value of a key that is there. -/
def modify (t : Table K V) (k : K) (f : V → V) : Table K V :=
  match t.lookup k with
  | none => t
  | some v => t.insert k (f v)

@[simp] theorem lookup_modify (t : Table K V) (k j : K) (f : V → V) :
    (t.modify k f).lookup j = if j = k then (t.lookup k).map f else t.lookup j := by
  rw [modify]
  cases h : t.lookup k with
  | none =>
    split_ifs with hj
    · rw [hj, h]
      rfl
    · rfl
  | some v =>
    split_ifs with hj
    · rw [hj, AList.lookup_insert]
      rfl
    · exact AList.lookup_insert_ne hj

theorem lookup_insert (t : Table K V) (k j : K) (v : V) :
    AList.lookup j (AList.insert k v t) = if j = k then some v else t.lookup j := by
  split_ifs with hj
  · rw [hj, AList.lookup_insert]
  · exact AList.lookup_insert_ne hj

theorem lookup_erase (t : Table K V) (k j : K) :
    AList.lookup j (AList.erase k t) = if j = k then none else t.lookup j := by
  split_ifs with hj
  · rw [hj, AList.lookup_erase]
  · exact AList.lookup_erase_ne hj

theorem erase_eq_self_iff {t : Table K V} {k : K} : AList.erase k t = t ↔ t.lookup k = none := by
  constructor
  · intro h
    rw [← h, AList.lookup_erase]
  · intro h
    exact AList.ext (List.kerase_of_notMem_keys (AList.lookup_eq_none.mp h))

/-- Add a value to the list of a key, which is empty where there is none. -/
def push (t : Table K (List V)) (k : K) (v : V) : Table K (List V) :=
  AList.insert k ((t.lookup k).getD [] ++ [v]) t

theorem lookup_push (t : Table K (List V)) (k j : K) (v : V) :
    ((t.push k v).lookup j).getD [] =
      if j = k then (t.lookup j).getD [] ++ [v] else (t.lookup j).getD [] := by
  rw [push, lookup_insert]
  split_ifs with h
  · rw [h, Option.getD_some]
  · rfl

theorem push_ne (t : Table K (List V)) (k : K) (v : V) : t.push k v ≠ t := by
  intro heq
  have hlist := congrArg (fun t => (AList.lookup k t).getD []) heq
  simp only [lookup_push, if_pos, List.append_right_eq_self] at hlist
  cases hlist

/-- The values that satisfy `p`, with their keys. -/
def select (t : Table K V) (p : V → Bool) : List (K × V) :=
  (t.entries.filter (fun e => p e.2)).map (fun e => (e.1, e.2))

theorem mem_select {t : Table K V} {p : V → Bool} {k : K} {v : V} :
    (k, v) ∈ t.select p ↔ t.lookup k = some v ∧ p v = true := by
  simp only [select, List.mem_map, List.mem_filter, Prod.mk.injEq]
  constructor
  · rintro ⟨⟨k', v'⟩, ⟨hmem, hp⟩, rfl, rfl⟩
    exact ⟨AList.mem_lookup_iff.mpr hmem, hp⟩
  · rintro ⟨hlookup, hp⟩
    exact ⟨⟨k, v⟩, ⟨AList.mem_lookup_iff.mp hlookup, hp⟩, rfl, rfl⟩

/-- Remove several keys. -/
def eraseAll (t : Table K V) : List K → Table K V
  | [] => t
  | k :: ks => eraseAll (AList.erase k t) ks

theorem lookup_eraseAll (t : Table K V) (ks : List K) (j : K) :
    (t.eraseAll ks).lookup j = if j ∈ ks then none else t.lookup j := by
  induction ks generalizing t with
  | nil => simp [eraseAll]
  | cons k ks ih =>
    rw [eraseAll, ih, lookup_erase]
    by_cases hj : j = k <;> simp [hj]

/-- Keep the values that satisfy `p`. -/
def retain (t : Table K V) (p : V → Bool) : Table K V :=
  t.eraseAll ((t.select (fun v => !p v)).map Prod.fst)

theorem lookup_retain (t : Table K V) (p : V → Bool) (k : K) :
    (t.retain p).lookup k = (t.lookup k).filter p := by
  have hmem : k ∈ (t.select (fun v => !p v)).map Prod.fst ↔
      ∃ v, t.lookup k = some v ∧ p v = false := by
    rw [List.mem_map]
    constructor
    · rintro ⟨⟨k, v⟩, hselected, rfl⟩
      obtain ⟨hlookup, hp⟩ := mem_select.mp hselected
      exact ⟨v, hlookup, by simpa using hp⟩
    · rintro ⟨v, hlookup, hp⟩
      exact ⟨(k, v), mem_select.mpr ⟨hlookup, by simp [hp]⟩, rfl⟩
  rw [retain, lookup_eraseAll]
  cases hlookup : t.lookup k with
  | none => simp
  | some v =>
    cases hp : p v with
    | true =>
      rw [if_neg, Option.filter_some_pos hp]
      rw [hmem]
      rintro ⟨w, hw, hfalse⟩
      rw [hlookup, Option.some.injEq] at hw
      rw [hw, hfalse] at hp
      cases hp
    | false =>
      rw [if_pos (hmem.mpr ⟨v, hlookup, hp⟩), Option.filter_some_neg (by simp [hp])]

/-- How many values of the table satisfy `p`. -/
def count (t : Table K V) (p : V → Bool) : Nat := t.entries.countP (fun e => p e.2)

omit [DecidableEq K] in
theorem count_true (t : Table K V) : t.count (fun _ => true) = t.entries.length :=
  List.countP_eq_length.mpr (fun _ _ => rfl)

theorem count_erase_le (t : Table K V) (k : K) (p : V → Bool) :
    Table.count (AList.erase k t) p ≤ t.count p :=
  (List.kerase_sublist k t.entries).countP_le

theorem count_insert_le (t : Table K V) (k : K) (v : V) (p : V → Bool) :
    Table.count (AList.insert k v t) p ≤ t.count p + if p v then 1 else 0 := by
  have hrest : Table.count (AList.erase k t) p ≤ t.count p := count_erase_le t k p
  rw [count, AList.entries_insert, List.countP_cons]
  exact Nat.add_le_add_right hrest _

/-- A table counts its other keys and the value of this one. -/
theorem count_lookup {t : Table K V} {k : K} {v : V} (h : t.lookup k = some v) (p : V → Bool) :
    t.count p = Table.count (AList.erase k t) p + if p v then 1 else 0 := by
  have hmem : (⟨k, v⟩ : Sigma (fun _ : K => V)) ∈ t.entries := AList.mem_lookup_iff.mp h
  obtain ⟨w, front, back, hfront, hentries, herase⟩ :=
    List.exists_of_kerase (List.mem_keys_of_mem hmem)
  have hw : w = v := by
    have hw : (⟨k, w⟩ : Sigma (fun _ : K => V)) ∈ t.entries := by
      rw [hentries]
      simp
    have hlookup : t.lookup k = some w := AList.mem_lookup_iff.mpr hw
    rw [h] at hlookup
    exact (Option.some.inj hlookup).symm
  subst hw
  rw [count, count]
  change _ = List.countP _ (List.kerase k t.entries) + _
  rw [herase, hentries, List.countP_append, List.countP_append, List.countP_cons,
    Nat.add_assoc]

theorem count_modify_le (t : Table K V) (k : K) (f : V → V) {p : V → Bool}
    (keeps : ∀ v, t.lookup k = some v → p (f v) = true → p v = true) :
    (t.modify k f).count p ≤ t.count p := by
  rw [modify]
  cases h : t.lookup k with
  | none => exact le_rfl
  | some v =>
    rw [count_lookup h]
    change Table.count (AList.insert k (f v) t) p ≤ _
    rw [count, AList.entries_insert, List.countP_cons]
    refine Nat.add_le_add_left ?_ _
    by_cases hp : p (f v) = true
    · rw [if_pos hp, if_pos (keeps v h hp)]
    · rw [if_neg hp]
      exact Nat.zero_le _

/-- A value that is changed and then removed does not count, whatever it became. -/
theorem count_erase_modify_le (t : Table K V) (k : K) (f : V → V) (p : V → Bool) :
    Table.count (AList.erase k (t.modify k f)) p ≤ t.count p := by
  rw [modify]
  cases h : t.lookup k with
  | none => exact count_erase_le t k p
  | some v =>
    have hentries : (AList.erase k (AList.insert k (f v) t)).entries =
        List.kerase k t.entries := by
      change List.kerase k (AList.insert k (f v) t).entries = _
      rw [AList.entries_insert]
      exact List.kerase_cons_eq rfl
    change List.countP _ (AList.erase k (AList.insert k (f v) t)).entries ≤ _
    rw [hentries]
    exact (List.kerase_sublist k t.entries).countP_le

end Table

/-- The last values pushed, at most `n` of them, oldest first. -/
structure Window (α : Type u) (n : Nat) where
  items : List α
  bounded : items.length ≤ n

namespace Window

variable {α : Type u} {n : Nat}

def empty : Window α n := ⟨[], Nat.zero_le n⟩

/-- Push a value; a full window drops its oldest one first. -/
def push [NeZero n] (w : Window α n) (a : α) : Window α n where
  items := (if w.items.length = n then w.items.tail else w.items) ++ [a]
  bounded := by
    have hn : 0 < n := Nat.pos_of_neZero n
    have hw := w.bounded
    split_ifs with h
    · rw [List.length_append, List.length_tail, List.length_singleton]
      omega
    · rw [List.length_append, List.length_singleton]
      omega

/-- Pushing keeps a suffix of everything pushed so far, and loses nothing while there is room. -/
theorem push_items [NeZero n] (w : Window α n) (a : α) :
    (w.push a).items = (w.items ++ [a]).drop (w.items.length + 1 - n) := by
  have hn : 0 < n := Nat.pos_of_neZero n
  have hw := w.bounded
  simp only [push]
  split_ifs with h
  · have hdrop : w.items.length + 1 - n = 1 := by omega
    rw [hdrop]
    cases hitems : w.items with
    | nil => simp [hitems] at h; omega
    | cons b bs => simp
  · have hdrop : w.items.length + 1 - n = 0 := by omega
    rw [hdrop, List.drop_zero]

/-- A window that holds the last values of a list goes on to hold them. -/
theorem push_of_drop [NeZero n] {w : Window α n} {l : List α}
    (h : w.items = l.drop (l.length - n)) (a : α) :
    (w.push a).items = (l ++ [a]).drop ((l ++ [a]).length - n) := by
  have hn : 0 < n := Nat.pos_of_neZero n
  have hshift : w.items ++ [a] = (l ++ [a]).drop (l.length - n) := by
    rw [h, List.drop_append_of_le_length (Nat.sub_le ..)]
  have hlength : w.items.length = l.length - (l.length - n) := by
    rw [h, List.length_drop]
  rw [push_items, hshift, List.drop_drop, List.length_append, List.length_singleton, hlength]
  congr 1
  omega

/-- The value pushed last is the newest one. -/
theorem push_newest [NeZero n] (w : Window α n) (a : α) :
    ∃ older, (w.push a).items = older ++ [a] := by
  rw [push]
  exact ⟨_, rfl⟩

/-- A value stays while there is room for it and all the newer ones. -/
theorem push_keeps [NeZero n] {w : Window α n} {a : α} {older newer : List α}
    (h : w.items = older ++ a :: newer) (room : newer.length + 1 < n) (b : α) :
    ∃ older, (w.push b).items = older ++ a :: (newer ++ [b]) := by
  have hlength : w.items.length = older.length + (newer.length + 1) := by
    rw [h, List.length_append, List.length_cons]
  refine ⟨older.drop (w.items.length + 1 - n), ?_⟩
  rw [push_items, h, List.append_assoc, List.drop_append_of_le_length]
  · rw [← h, List.cons_append]
  · rw [← h]
    omega

private theorem eq_replicate_of_shift {a : α} :
    ∀ {b : α} {l : List α}, l ++ [a] = b :: l → b :: l = List.replicate (l.length + 1) a
  | b, [], h => by
    obtain ⟨rfl, -⟩ := List.cons.inj h
    rfl
  | b, c :: l, h => by
    obtain ⟨rfl, hrest⟩ := List.cons.inj h
    have htail : c :: l = List.replicate (l.length + 1) a := eq_replicate_of_shift hrest
    have hhead : c = a := by
      rw [List.replicate_succ] at htail
      exact (List.cons.inj htail).1
    rw [List.length_cons, List.replicate_succ, ← htail, hhead]

/-- A push goes unnoticed only in a full window of just that value. -/
theorem push_eq_self_iff [NeZero n] (w : Window α n) (a : α) :
    w.push a = w ↔ w.items = List.replicate n a := by
  have hn : 0 < n := Nat.pos_of_neZero n
  obtain ⟨items, bounded⟩ := w
  simp only [push, Window.mk.injEq]
  by_cases hfull : items.length = n
  · rw [if_pos hfull]
    cases items with
    | nil =>
      rw [List.length_nil] at hfull
      omega
    | cons b l =>
      rw [List.length_cons] at hfull
      subst hfull
      constructor
      · exact fun h => eq_replicate_of_shift h
      · intro h
        have htail : l = List.replicate l.length a := by
          rw [List.replicate_succ] at h
          exact (List.cons.inj h).2
        rw [h, List.replicate_succ, List.tail_cons, ← List.replicate_succ']
        rfl
  · rw [if_neg hfull]
    constructor
    · intro h
      have hlength := congrArg List.length h
      simp at hlength
    · intro h
      rw [h, List.length_replicate] at hfull
      exact absurd rfl hfull

end Window

/-- A broadcast channel: everything sent on it, and how many senders are alive. -/
structure Broadcast (α : Type u) where
  log : List α
  senders : Nat

/-- What a receiver gets: a value, the news that it fell behind, or the end. -/
inductive Received (α : Type u) where
  | value (a : α)
  | lagged
  | closed

namespace Broadcast

variable {α : Type u}

def opened (senders : Nat) : Broadcast α := ⟨[], senders⟩

def send (b : Broadcast α) (a : α) : Broadcast α := { b with log := b.log ++ [a] }

def dropSender (b : Broadcast α) : Broadcast α := { b with senders := b.senders - 1 }

/-- A receiver at position `next` of a channel that keeps the last `capacity` values: what it
    gets and its next position, or nothing while it has to wait. -/
def recv (capacity : Nat) (b : Broadcast α) (next : Nat) : Option (Received α × Nat) :=
  if next + capacity < b.log.length then some (.lagged, b.log.length - capacity)
  else
    match b.log[next]? with
    | some a => some (.value a, next + 1)
    | none => if b.senders = 0 then some (.closed, next) else none

@[simp] theorem send_log (b : Broadcast α) (a : α) : (b.send a).log = b.log ++ [a] := rfl

@[simp] theorem dropSender_log (b : Broadcast α) : b.dropSender.log = b.log := rfl

theorem recv_value {capacity : Nat} {b : Broadcast α} {next after : Nat} {a : α}
    (h : b.recv capacity next = some (.value a, after)) :
    b.log[next]? = some a ∧ after = next + 1 := by
  simp only [recv] at h
  by_cases hlag : next + capacity < b.log.length
  · rw [if_pos hlag] at h
    cases h
  · rw [if_neg hlag] at h
    cases hvalue : b.log[next]? with
    | some c =>
      simp only [hvalue, Option.some.injEq, Prod.mk.injEq, Received.value.injEq] at h
      exact ⟨congrArg some h.1, h.2.symm⟩
    | none =>
      simp only [hvalue] at h
      split_ifs at h
      cases h

/-- A receiver that has neither got a value nor fallen behind stays where it was. -/
theorem recv_closed {capacity : Nat} {b : Broadcast α} {next after : Nat}
    (h : b.recv capacity next = some (.closed, after)) : after = next := by
  simp only [recv] at h
  by_cases hlag : next + capacity < b.log.length
  · rw [if_pos hlag] at h
    cases h
  · rw [if_neg hlag] at h
    cases hvalue : b.log[next]? with
    | some c =>
      simp only [hvalue] at h
      cases h
    | none =>
      simp only [hvalue] at h
      split_ifs at h
      cases h
      rfl

/-- A receiver that fell behind goes on from the oldest value that is still kept. -/
theorem recv_lagged {capacity : Nat} {b : Broadcast α} {next after : Nat}
    (h : b.recv capacity next = some (.lagged, after)) : next < after ∧ after ≤ b.log.length := by
  simp only [recv] at h
  by_cases hlag : next + capacity < b.log.length
  · rw [if_pos hlag] at h
    cases h
    omega
  · rw [if_neg hlag] at h
    cases hvalue : b.log[next]? with
    | some c =>
      simp only [hvalue] at h
      cases h
    | none =>
      simp only [hvalue] at h
      split_ifs at h
      cases h

end Broadcast

end Sunbolt.Library
