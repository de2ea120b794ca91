/- Module: Sunbolt/Library/SlidingWindow
   scope: general
   digest: A log that forgets from its front only, as an exact window over what it has admitted. -/

import Sunbolt.Library.Serving
import Mathlib.Data.List.Count
import Mathlib.Data.List.TakeWhile
import Mathlib.Order.Lattice

set_option autoImplicit false
set_option relaxedAutoImplicit false

namespace Sunbolt.Library

namespace SlidingWindow

universe u

variable {T : Type u}

/-- Forget at the front what is gone at `now`, and admit `now` while there is room. -/
def tryAdmit (gone : T → T → Bool) (limit : Nat) (log : List T) (now : T) : List T × Bool :=
  let kept := log.dropWhile (gone now)
  if limit ≤ kept.length then (kept, false) else (kept ++ [now], true)

/-- The runs of a log. -/
abbrev Attempts (T : Type u) := List (Served (List T) T Bool)

def admitted (attempts : Attempts T) : List T := (attempts.filter (·.reply)).map (·.call)

/-- The attempts are made one after the other. -/
def InOrder [LE T] (attempts : Attempts T) : Prop := (attempts.map (·.call)).Pairwise (· ≤ ·)

/-- What is gone stays gone, and so is whatever is older. -/
structure Expires [LE T] (gone : T → T → Bool) : Prop where
  older : ∀ {now t t'}, t ≤ t' → gone now t' = true → gone now t = true
  later : ∀ {now now' t}, now ≤ now' → gone now t = true → gone now' t = true

theorem admit_cases (gone : T → T → Bool) (limit : Nat) (log : List T) (now : T) :
    (limit ≤ (log.dropWhile (gone now)).length ∧
      tryAdmit gone limit log now = (log.dropWhile (gone now), false)) ∨
    ((log.dropWhile (gone now)).length < limit ∧
      tryAdmit gone limit log now = (log.dropWhile (gone now) ++ [now], true)) := by
  rcases Nat.lt_or_ge (log.dropWhile (gone now)).length limit with hroom | hfull
  · exact Or.inr ⟨hroom, if_neg (Nat.not_le.mpr hroom)⟩
  · exact Or.inl ⟨hfull, if_pos hfull⟩

@[simp] theorem admitted_append (front back : Attempts T) :
    admitted (front ++ back) = admitted front ++ admitted back := by
  simp [admitted]

theorem admitted_one (e : Served (List T) T Bool) :
    admitted [e] = if e.reply then [e.call] else [] := by
  cases h : e.reply <;> simp [admitted, h]

theorem mem_of_admitted {attempts : Attempts T} {t : T} (h : t ∈ admitted attempts) :
    ∃ e ∈ attempts, e.call = t := by
  obtain ⟨e, he, heq⟩ := List.mem_map.mp h
  exact ⟨e, (List.mem_filter.mp he).1, heq⟩

section Order

variable [LinearOrder T] {gone : T → T → Bool} {limit : Nat} {attempts front back : Attempts T}
  {log : List T} {e : Served (List T) T Bool}

theorem admitted_sorted (clock : InOrder attempts) :
    (admitted attempts).Pairwise (· ≤ ·) :=
  List.Pairwise.sublist (List.Sublist.map _ List.filter_sublist) clock

/-- On a sorted log forgetting at the front is forgetting. -/
theorem dropWhile_eq_filter (expires : Expires gone) (now : T) (sorted : log.Pairwise (· ≤ ·)) :
    log.dropWhile (gone now) = log.filter (fun t => !gone now t) := by
  induction log with
  | nil => rfl
  | cons t log ih =>
    have hlog : log.Pairwise (· ≤ ·) := List.Pairwise.of_cons sorted
    by_cases ht : gone now t = true
    · rw [List.dropWhile_cons_of_pos ht, List.filter_cons_of_neg (by simp [ht]), ih hlog]
    · have hkept : ∀ t' ∈ t :: log, (!gone now t') = true := by
        intro t' hmem
        rcases List.mem_cons.mp hmem with rfl | hmem
        · simp [ht]
        · have hle : t ≤ t' := List.rel_of_pairwise_cons sorted hmem
          have hnot : gone now t' ≠ true := fun h => ht (expires.older hle h)
          simp [hnot]
      rw [List.dropWhile_cons_of_neg ht, List.filter_eq_self.mpr hkept]

/-- The log is what has been admitted but for a front that is gone from now on. -/
theorem forgotten (expires : Expires gone) (h : Serves (tryAdmit gone limit) [] attempts log)
    (clock : InOrder attempts) : ∃ old, admitted attempts = old ++ log ∧
      ∀ t ∈ old, ∀ now, (∀ e ∈ attempts, e.call ≤ now) → gone now t = true := by
  induction h with
  | start => exact ⟨[], rfl, by simp⟩
  | @next attempts log earlier now ih =>
    rw [InOrder, List.map_append, List.pairwise_append] at clock
    obtain ⟨old, heq, hold⟩ := ih clock.1
    have hlast : ∀ {later}, (∀ e ∈ attempts ++ [served (tryAdmit gone limit) log now],
        e.call ≤ later) → now ≤ later :=
      fun hle => hle _ (List.mem_append_right _ List.mem_cons_self)
    have hgone : ∀ t ∈ old ++ log.takeWhile (gone now), ∀ later,
        (∀ e ∈ attempts ++ [served (tryAdmit gone limit) log now], e.call ≤ later) →
        gone later t = true := by
      intro t ht later hle
      rcases List.mem_append.mp ht with ht | ht
      · exact hold t ht later (fun e he => hle e (List.mem_append_left _ he))
      · exact expires.later (hlast hle) (List.mem_takeWhile_imp ht)
    have hsplit : log = log.takeWhile (gone now) ++ log.dropWhile (gone now) :=
      List.takeWhile_append_dropWhile.symm
    refine ⟨old ++ log.takeWhile (gone now), ?_, hgone⟩
    rw [admitted_append, admitted_one, served, heq]
    rcases admit_cases gone limit log now with ⟨-, hstep⟩ | ⟨-, hstep⟩
    · rw [hstep]
      change (old ++ log) ++ [] = (old ++ log.takeWhile (gone now)) ++ log.dropWhile (gone now)
      rw [List.append_nil, List.append_assoc, ← hsplit]
    · rw [hstep]
      change (old ++ log) ++ [now] =
        (old ++ log.takeWhile (gone now)) ++ (log.dropWhile (gone now) ++ [now])
      rw [← List.append_assoc, List.append_assoc old (log.takeWhile _), ← hsplit]

/-- What a call finds in the log, after forgetting, is what has been admitted and is not gone. -/
theorem kept_eq (expires : Expires gone) (h : Serves (tryAdmit gone limit) [] attempts log)
    (clock : InOrder attempts) {now : T} (hnow : ∀ e ∈ attempts, e.call ≤ now) :
    log.dropWhile (gone now) = (admitted attempts).filter (fun t => !gone now t) := by
  obtain ⟨old, heq, hold⟩ := forgotten expires h clock
  have hsorted : (old ++ log).Pairwise (· ≤ ·) := heq ▸ admitted_sorted clock
  have hnone : old.filter (fun t => !gone now t) = [] := by
    refine List.filter_eq_nil_iff.mpr (fun t ht => ?_)
    simp [hold t ht now hnow]
  rw [heq, List.filter_append, hnone, List.nil_append]
  exact dropWhile_eq_filter expires now (List.pairwise_append.mp hsorted).2.1

/-- A call is admitted exactly when fewer than the limit of those admitted are not gone. -/
theorem reply_iff (expires : Expires gone) (h : Serves (tryAdmit gone limit) [] attempts log)
    (clock : InOrder attempts) (hsplit : attempts = front ++ e :: back) :
    e.reply = true ↔ (admitted front).countP (fun t => !gone e.call t) < limit := by
  obtain ⟨hfront, he, -⟩ := h.split hsplit
  rw [hsplit, InOrder, List.map_append, List.pairwise_append] at clock
  have hnow : ∀ d ∈ front, d.call ≤ e.call := fun d hd =>
    clock.2.2 _ (List.mem_map_of_mem hd) _ (List.mem_map_of_mem List.mem_cons_self)
  rw [List.countP_eq_length_filter, ← kept_eq expires hfront clock.1 hnow, he]
  rcases admit_cases gone limit e.before e.call with ⟨hfull, hstep⟩ | ⟨hroom, hstep⟩
  · have hreply : (served (tryAdmit gone limit) e.before e.call).reply = false := by
      rw [served, hstep]
    rw [hreply]
    exact ⟨fun h => absurd h Bool.false_ne_true, fun hlt => absurd hlt (Nat.not_lt.mpr hfull)⟩
  · have hreply : (served (tryAdmit gone limit) e.before e.call).reply = true := by
      rw [served, hstep]
    exact ⟨fun _ => hroom, fun _ => hreply⟩

/-- No more than the limit are admitted where none is gone at a later one. -/
theorem countP_admitted_le (expires : Expires gone)
    (h : Serves (tryAdmit gone limit) [] attempts log) (clock : InOrder attempts) {p : T → Bool}
    (near : ∀ t now, p t = true → p now = true → t ≤ now → gone now t = false) :
    (admitted attempts).countP p ≤ limit := by
  induction h with
  | start => exact Nat.zero_le _
  | @next attempts log earlier now ih =>
    have hclock := clock
    rw [InOrder, List.map_append, List.pairwise_append] at clock
    have hcount := ih clock.1
    rw [admitted_append, List.countP_append, admitted_one]
    by_cases hnow : p now = true ∧ (served (tryAdmit gone limit) log now).reply = true
    · have hle : (admitted attempts).countP p ≤
          (admitted attempts).countP (fun t => !gone now t) := by
        apply List.countP_mono_left
        intro t ht hp
        obtain ⟨e, he, rfl⟩ := mem_of_admitted ht
        have horder : e.call ≤ now := clock.2.2 _ (List.mem_map_of_mem he) _ List.mem_cons_self
        simp [near e.call now hp hnow.1 horder]
      have hsplit : attempts ++ [served (tryAdmit gone limit) log now] =
          attempts ++ served (tryAdmit gone limit) log now :: [] := rfl
      have hroom := (reply_iff expires (earlier.next now) hclock hsplit).mp hnow.2
      have hcall : (served (tryAdmit gone limit) log now).call = now := rfl
      rw [hcall] at hroom
      have hone : (if (served (tryAdmit gone limit) log now).reply = true then
          [(served (tryAdmit gone limit) log now).call] else []).countP p ≤ 1 := by
        split <;> exact (List.countP_le_length).trans (by simp)
      omega
    · have hnone : (if (served (tryAdmit gone limit) log now).reply = true then
          [(served (tryAdmit gone limit) log now).call] else []).countP p = 0 := by
        split_ifs with hreply
        · have hp : ¬p now = true := fun hp => hnow ⟨hp, hreply⟩
          exact List.countP_eq_zero.mpr (by simpa [served] using hp)
        · rfl
      omega

end Order

/-- Two ways to forget that agree on what a run finds make the same run. -/
theorem Serves.congr {gone gone' : T → T → Bool} {limit : Nat} {attempts : Attempts T}
    {log : List T} (h : Serves (tryAdmit gone limit) [] attempts log)
    (agree : ∀ e ∈ attempts, e.before.dropWhile (gone e.call) =
      e.before.dropWhile (gone' e.call)) :
    Serves (tryAdmit gone' limit) [] attempts log := by
  induction h with
  | start => exact .start
  | @next attempts log earlier now ih =>
    have hrun := ih (fun e he => agree e (List.mem_append_left _ he))
    have hkept : log.dropWhile (gone now) = log.dropWhile (gone' now) :=
      agree _ (List.mem_append_right _ List.mem_cons_self)
    have hstep : tryAdmit gone limit log now = tryAdmit gone' limit log now := by
      rw [tryAdmit, tryAdmit, hkept]
    have hserved : served (tryAdmit gone limit) log now =
        served (tryAdmit gone' limit) log now := by
      rw [served, served, hstep]
    rw [hserved, hstep]
    exact hrun.next now

end SlidingWindow

end Sunbolt.Library
