/- Module: Sunbolt/Control/RateLimits
   scope: sunbolt-control/src/rate_limit.rs
   digest: The rate limiter is an exact sliding window for each of its keys. -/

import Sunbolt.Control.RateLimiter
import Sunbolt.Library.SlidingWindow

set_option autoImplicit false
set_option relaxedAutoImplicit false

namespace Sunbolt.Control

open Sunbolt.Library
open Sunbolt.Library.SlidingWindow

/-- A call of the limiter, or of a clone, which shares its buckets; the instant is read under
    the lock. -/
structure Attempt where
  key : String
  now : Nat

/-- The calls of a run of the limiter. -/
abbrev AttemptHistory := List (Served SlidingWindowRateLimiter Attempt Bool)

namespace SlidingWindowRateLimiter

def serve (limiter : SlidingWindowRateLimiter) (attempt : Attempt) :
    SlidingWindowRateLimiter × Bool :=
  limiter.checkAndRecord attempt.key attempt.now

def bucket (limiter : SlidingWindowRateLimiter) (key : String) : List Nat :=
  (limiter.inner.lookup key).getD []

/-- What the loop pops at `now`. -/
def pops (limiter : SlidingWindowRateLimiter) (now t : Nat) : Bool := t ≤ limiter.cutoff now

theorem pops_eq {limiter other : SlidingWindowRateLimiter} (h : limiter.window = other.window) :
    limiter.pops = other.pops := by
  funext now t
  rw [pops, pops, cutoff, cutoff, h]

/-- An attempt is one of the bucket of its key, and touches no other bucket. -/
theorem checkAndRecord_spec (limiter : SlidingWindowRateLimiter) (key : String) (now : Nat) :
    ∃ next reply, limiter.checkAndRecord key now = (next, reply) ∧
      next.window = limiter.window ∧ next.maxAttempts = limiter.maxAttempts ∧
      tryAdmit limiter.pops limiter.maxAttempts (limiter.bucket key) now =
        (next.bucket key, reply) ∧
      ∀ other, other ≠ key → next.bucket other = limiter.bucket other := by
  have hown : ∀ kept, SlidingWindowRateLimiter.bucket
      { limiter with inner := AList.insert key kept limiter.inner } key = kept := by
    intro kept
    rw [bucket, AList.lookup_insert]
    rfl
  have hother : ∀ kept other, other ≠ key → SlidingWindowRateLimiter.bucket
      { limiter with inner := AList.insert key kept limiter.inner } other =
        limiter.bucket other := by
    intro kept other hne
    rw [bucket, bucket, AList.lookup_insert_ne hne]
  rcases admit_cases limiter.pops limiter.maxAttempts (limiter.bucket key) now with
    ⟨hfull, hstep⟩ | ⟨hroom, hstep⟩
  · exact ⟨_, false, if_pos hfull, rfl, rfl, by rw [hstep, hown]; rfl, hother _⟩
  · exact ⟨_, true, if_neg (Nat.not_le.mpr hroom), rfl, rfl, by rw [hstep, hown]; rfl, hother _⟩

end SlidingWindowRateLimiter

open SlidingWindowRateLimiter

/-- The attempts of a key, as attempts of its bucket. -/
def attemptsOn (key : String) (history : AttemptHistory) : Attempts Nat :=
  (history.filter (fun e => e.call.key = key)).map
    (fun e => ⟨e.call.now, e.reply, e.before.bucket key, e.after.bucket key⟩)

/-- The instants of the allowed attempts of a key. -/
def allowedOn (key : String) (history : AttemptHistory) : List Nat :=
  (history.filter (fun e => e.call.key = key && e.reply)).map (·.call.now)

/-- No call reads an instant before one that an earlier call has read. -/
def ClockGoesOn (history : AttemptHistory) : Prop :=
  (history.map (·.call.now)).Pairwise (· ≤ ·)

/-- What has left a window of this length. -/
def hasLeft (window now t : Nat) : Bool := t + window ≤ now

/-- In this run the limiter is a sliding window. -/
structure ExactWindow (window maxAttempts : Nat) (history : AttemptHistory) : Prop where
  allowed_iff : ∀ front e back, history = front ++ e :: back →
    (e.reply = true ↔ (allowedOn e.call.key front).countP
      (fun t => e.call.now - window < t ∧ t ≤ e.call.now) < maxAttempts)
  bounded : ∀ key first, (allowedOn key history).countP
      (fun t => first ≤ t ∧ t < first + window) ≤ maxAttempts ∧
    (allowedOn key history).countP (fun t => first < t ∧ t ≤ first + window) ≤ maxAttempts
  independent : ∀ key, (history.filter (fun e => e.call.key = key)).map (·.reply) =
    (historyOf serve (.new window maxAttempts)
      ((history.filter (fun e => e.call.key = key)).map (·.call))).map (·.reply)

section Runs

variable {window maxAttempts : Nat} {history : AttemptHistory}
  {limiter : SlidingWindowRateLimiter}

theorem attemptsOn_append (key : String) (front back : AttemptHistory) :
    attemptsOn key (front ++ back) = attemptsOn key front ++ attemptsOn key back := by
  rw [attemptsOn, List.filter_append, List.map_append]
  rfl

theorem attemptsOn_one (key : String) (e : Served SlidingWindowRateLimiter Attempt Bool) :
    attemptsOn key [e] = if e.call.key = key then
      [⟨e.call.now, e.reply, e.before.bucket key, e.after.bucket key⟩] else [] := by
  by_cases h : e.call.key = key <;> simp [attemptsOn, h]

theorem admitted_attemptsOn (key : String) (history : AttemptHistory) :
    admitted (attemptsOn key history) = allowedOn key history := by
  rw [admitted, attemptsOn, allowedOn, List.filter_map, List.map_map, List.filter_filter]
  exact congrArg _ (List.filter_congr (fun e _ => Bool.and_comm ..))

/-- The attempts of a key are a run of its bucket, whatever the attempts of other keys. -/
theorem attemptsOn_serves (h : Serves serve (.new window maxAttempts) history limiter)
    (key : String) :
    Serves (tryAdmit (SlidingWindowRateLimiter.new window maxAttempts).pops maxAttempts) []
        (attemptsOn key history) (limiter.bucket key) ∧
      limiter.window = window ∧ limiter.maxAttempts = maxAttempts := by
  induction h with
  | start => exact ⟨.start, rfl, rfl⟩
  | @next history limiter earlier attempt ih =>
    obtain ⟨hrun, hwindow, hmax⟩ := ih
    obtain ⟨next, reply, hcheck, hwindow', hmax', hown, hother⟩ :=
      limiter.checkAndRecord_spec attempt.key attempt.now
    have hstep : limiter.serve attempt = (next, reply) := hcheck
    rw [attemptsOn_append, attemptsOn_one, served, hstep]
    refine ⟨?_, hwindow'.trans hwindow, hmax'.trans hmax⟩
    by_cases hkey : attempt.key = key
    · subst hkey
      rw [if_pos rfl]
      have hpops : limiter.pops = (SlidingWindowRateLimiter.new window maxAttempts).pops :=
        pops_eq hwindow
      rw [hmax, hpops] at hown
      have hnext := hrun.next attempt.now
      rw [served, hown] at hnext
      exact hnext
    · rw [if_neg hkey, List.append_nil, hother key (Ne.symm hkey)]
      exact hrun

theorem expires_hasLeft (window : Nat) : Expires (hasLeft window) where
  older hle h := by
    simp only [hasLeft, decide_eq_true_eq] at h ⊢
    omega
  later hle h := by
    simp only [hasLeft, decide_eq_true_eq] at h ⊢
    omega

/-- Where one window can be subtracted from the instant, the loop pops what has left it. -/
theorem pops_of_le {now : Nat} (h : window ≤ now) :
    (SlidingWindowRateLimiter.new window maxAttempts).pops now = hasLeft window now := by
  funext t
  have hcutoff : (SlidingWindowRateLimiter.new window maxAttempts).cutoff now = now - window :=
    if_pos h
  rw [pops, hasLeft, hcutoff, decide_eq_decide]
  omega

/-- The attempts of a key are those of a window, if the loop pops rightly whenever it finds
    something. -/
theorem attemptsOn_window (h : Serves serve (.new window maxAttempts) history limiter)
    (key : String) (subtracts : ∀ e ∈ history, e.call.key = key →
      window ≤ e.call.now ∨ e.before.bucket key = []) :
    Serves (tryAdmit (hasLeft window) maxAttempts) [] (attemptsOn key history)
      (limiter.bucket key) := by
  refine Serves.congr (attemptsOn_serves h key).1 (fun attempt hattempt => ?_)
  obtain ⟨e, he, rfl⟩ := List.mem_map.mp hattempt
  obtain ⟨he, hkey⟩ := List.mem_filter.mp he
  rcases subtracts e he (of_decide_eq_true hkey) with hle | hnil
  · rw [pops_of_le hle]
  · dsimp only
    rw [hnil]
    rfl

theorem attemptsOn_inOrder (clock : ClockGoesOn history) (key : String) :
    InOrder (attemptsOn key history) := by
  rw [InOrder, attemptsOn, List.map_map]
  exact List.Pairwise.sublist (List.Sublist.map _ List.filter_sublist) clock

/-- No more attempts of a key are allowed than the limit where none has left a window that
    ends at a later one. -/
theorem countP_allowedOn_le (h : Serves serve (.new window maxAttempts) history limiter)
    (clock : ClockGoesOn history) (key : String)
    (subtracts : ∀ e ∈ history, e.call.key = key →
      window ≤ e.call.now ∨ e.before.bucket key = []) {p : Nat → Bool}
    (near : ∀ t now, p t = true → p now = true → t ≤ now → now < t + window) :
    (allowedOn key history).countP p ≤ maxAttempts := by
  rw [← admitted_attemptsOn]
  refine countP_admitted_le (expires_hasLeft window) (attemptsOn_window h key subtracts)
    (attemptsOn_inOrder clock key) (fun t now ht hnow hle => ?_)
  have hlt : now < t + window := near t now ht hnow hle
  simpa [hasLeft] using hlt

theorem map_call_historyOf (limiter : SlidingWindowRateLimiter) (attempts : List Attempt) :
    (historyOf serve limiter attempts).map (·.call) = attempts := by
  induction attempts generalizing limiter with
  | nil => rfl
  | cons attempt attempts ih => exact congrArg (attempt :: ·) (ih _)

/-- What a key's attempts are answered depends on these attempts alone. -/
theorem replies_of_key (h : Serves serve (.new window maxAttempts) history limiter)
    (key : String) : (history.filter (fun e => e.call.key = key)).map (·.reply) =
      (historyOf serve (.new window maxAttempts)
        ((history.filter (fun e => e.call.key = key)).map (·.call))).map (·.reply) := by
  let calls := (history.filter (fun e => e.call.key = key)).map (·.call)
  let alone := historyOf serve (.new window maxAttempts) calls
  have hcalls : alone.map (·.call) = calls := map_call_historyOf _ _
  have hkey : ∀ e ∈ alone, decide (e.call.key = key) = true := by
    intro e he
    have hmem : e.call ∈ calls := hcalls ▸ List.mem_map_of_mem he
    obtain ⟨d, hd, hcall⟩ := List.mem_map.mp hmem
    rw [← hcall]
    exact (List.mem_filter.mp hd).2
  have hall : alone.filter (fun e => e.call.key = key) = alone := List.filter_eq_self.mpr hkey
  have hhere := (attemptsOn_serves h key).1.eq_historyOf.1
  have hthere := (attemptsOn_serves (Serves.ofCalls serve (.new window maxAttempts) calls)
    key).1.eq_historyOf.1
  have hnows : (attemptsOn key history).map (·.call) = (attemptsOn key alone).map (·.call) := by
    have hnow : ∀ history : AttemptHistory,
        (history.filter (fun e => e.call.key = key)).map (·.call.now) =
          (attemptsOn key history).map (·.call) := by
      intro history
      rw [attemptsOn, List.map_map]
      rfl
    rw [← hnow, ← hnow, hall]
    calc (history.filter (fun e => e.call.key = key)).map (·.call.now)
        = calls.map (·.now) := List.map_map.symm
      _ = (alone.map (·.call)).map (·.now) := by rw [hcalls]
      _ = alone.map (·.call.now) := List.map_map
  have hsame : attemptsOn key history = attemptsOn key alone := by
    rw [hhere, hnows]
    exact hthere.symm
  have hreply : (attemptsOn key history).map (·.reply) = (attemptsOn key alone).map (·.reply) :=
    congrArg _ hsame
  rw [attemptsOn, attemptsOn, List.map_map, List.map_map, hall] at hreply
  exact hreply

end Runs

/-- Where an instant is far enough from the first one for the window to be subtracted from it,
    the limiter is an exact sliding window. -/
theorem rate_limiter_is_exact_window {window maxAttempts : Nat} {history : AttemptHistory}
    {limiter : SlidingWindowRateLimiter}
    (h : Serves serve (.new window maxAttempts) history limiter) (clock : ClockGoesOn history)
    (subtracts : ∀ e ∈ history, window ≤ e.call.now) :
    ExactWindow window maxAttempts history where
  allowed_iff front e back hsplit := by
    have hle : window ≤ e.call.now := subtracts e (by rw [hsplit]; simp)
    have hattempts : attemptsOn e.call.key history = attemptsOn e.call.key front ++
        ⟨e.call.now, e.reply, e.before.bucket e.call.key, e.after.bucket e.call.key⟩ ::
          attemptsOn e.call.key back := by
      rw [hsplit, ← List.singleton_append, attemptsOn_append, attemptsOn_append, attemptsOn_one,
        if_pos rfl]
      rfl
    have hrun := attemptsOn_window h e.call.key (fun d hd _ => Or.inl (subtracts d hd))
    have hiff := reply_iff (expires_hasLeft window) hrun
      (attemptsOn_inOrder clock e.call.key) hattempts
    rw [hiff, admitted_attemptsOn]
    have hcount : (allowedOn e.call.key front).countP (fun t => !hasLeft window e.call.now t) =
        (allowedOn e.call.key front).countP
          (fun t => e.call.now - window < t ∧ t ≤ e.call.now) := by
      apply List.countP_congr
      intro t ht
      obtain ⟨d, hd, rfl⟩ := List.mem_map.mp ht
      have horder : d.call.now ≤ e.call.now := by
        rw [ClockGoesOn, hsplit, List.map_append, List.pairwise_append] at clock
        exact clock.2.2 _ (List.mem_map_of_mem (List.mem_filter.mp hd).1) _ List.mem_cons_self
      simp only [hasLeft, Bool.not_eq_true', decide_eq_false_iff_not, decide_eq_true_eq]
      omega
    rw [hcount]
  bounded key first := by
    have hall : ∀ e ∈ history, e.call.key = key →
        window ≤ e.call.now ∨ e.before.bucket key = [] := fun e he _ => Or.inl (subtracts e he)
    constructor
    · refine countP_allowedOn_le h clock key hall (fun t now ht hnow hle => ?_)
      simp only [decide_eq_true_eq] at ht hnow
      omega
    · refine countP_allowedOn_le h clock key hall (fun t now ht hnow hle => ?_)
      simp only [decide_eq_true_eq] at ht hnow
      omega
  independent key := replies_of_key h key

/-- Two attempts on one key fill its window, and a third one is allowed when the first of them
    is exactly one window old. -/
private def sampleAttempts : AttemptHistory :=
  historyOf serve (.new 60 2) [⟨"a", 100⟩, ⟨"b", 100⟩, ⟨"a", 130⟩, ⟨"a", 159⟩, ⟨"a", 160⟩]

theorem rate_limiter_is_exact_window_sample :
    sampleAttempts.map (·.reply) = [true, true, true, false, true] ∧
      ExactWindow 60 2 sampleAttempts := by
  refine ⟨by decide, rate_limiter_is_exact_window (Serves.ofCalls serve _ _) ?_ ?_⟩
  · rw [ClockGoesOn, show sampleAttempts.map (·.call.now) = [100, 100, 130, 159, 160] from rfl]
    decide
  · have hall : ∀ now ∈ sampleAttempts.map (·.call.now), 60 ≤ now := by decide
    exact fun e he => hall _ (List.mem_map_of_mem he)

end Sunbolt.Control
