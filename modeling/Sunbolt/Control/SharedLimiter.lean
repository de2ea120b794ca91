/- Module: Sunbolt/Control/SharedLimiter
   scope: sunbolt-control/src/rate_limit.rs, sunbolt-control/src/state.rs
   digest: A rate limiter among the other state that the tasks of a service share. -/

import Sunbolt.Control.RateLimits
import Sunbolt.Library.Pool

set_option autoImplicit false
set_option relaxedAutoImplicit false

namespace Sunbolt.Control

open Sunbolt.Library

section Limiters

variable {Sh A J C E : Type} {R : A → Type}

/-- The calls of a limiter in a run: of those interactions that are one, with their keys and
    replies, at the instant that the clock shows after the call. -/
def attemptsIn (limiter : Sh → SlidingWindowRateLimiter) (clock : Sh → Nat)
    (check : Interaction A R → Option (String × Bool)) (history : List (Event Sh A R J)) :
    AttemptHistory :=
  history.filterMap (fun e => (check e.interaction).map (fun c =>
    ⟨⟨c.1, clock e.after⟩, c.2, limiter e.before, limiter e.after⟩))

/-- A call of the service is one of the limiter, or leaves it as it is, and the clock goes on. -/
structure LimiterStep (limiter : Sh → SlidingWindowRateLimiter) (clock : Sh → Nat)
    (check : Interaction A R → Option (String × Bool)) (before after : Sh)
    (x : Interaction A R) : Prop where
  goesOn : clock before ≤ clock after
  checked : ∀ key allowed, check x = some (key, allowed) →
    (limiter before).checkAndRecord key (clock after) = (limiter after, allowed)
  other : check x = none → limiter after = limiter before

/-- Where the limiter finds attempts of the key, one window can be subtracted from the instant. -/
def WindowSubtracts (window : Nat) (limiter : Sh → SlidingWindowRateLimiter) (clock : Sh → Nat)
    (check : Interaction A R → Option (String × Bool)) (history : List (Event Sh A R J)) : Prop :=
  ∀ e ∈ history, ∀ key allowed, check e.interaction = some (key, allowed) →
    window ≤ clock e.after ∨ (limiter e.before).bucket key = []

variable {S : Service Sh A R J C} {entry : E → J} {sh : Sh} {history : List (Event Sh A R J)}
  {pool : Pool Sh A R J} {limiter : Sh → SlidingWindowRateLimiter} {clock : Sh → Nat}
  {check : Interaction A R → Option (String × Bool)} {window maxAttempts : Nat}

theorem windowSubtracts_of_late (late : history.all (fun e => (check e.interaction).isNone ||
      window ≤ clock e.after) = true) : WindowSubtracts window limiter clock check history := by
  intro e he key allowed hcheck
  have hlate := List.all_eq_true.mp late e he
  rw [hcheck, Option.isNone_some, Bool.false_or, decide_eq_true_eq] at hlate
  exact Or.inl hlate

theorem attemptsIn_append (limiter : Sh → SlidingWindowRateLimiter) (clock : Sh → Nat)
    (check : Interaction A R → Option (String × Bool)) (history : List (Event Sh A R J))
    (e : Event Sh A R J) : attemptsIn limiter clock check (history ++ [e]) =
      attemptsIn limiter clock check history ++ ((check e.interaction).map (fun c =>
        (⟨⟨c.1, clock e.after⟩, c.2, limiter e.before, limiter e.after⟩ :
          Served SlidingWindowRateLimiter Attempt Bool))).toList :=
  filterMap_append_one _ _ _

/-- The calls of the limiter are a run of it, at instants that go on. -/
theorem attemptsIn_serves (h : S.Reaches entry sh history pool)
    (initial : limiter sh = .new window maxAttempts)
    (step : ∀ {i sh action choice} {out : Outcome Sh A R J action},
      S.perform i sh action choice = some out →
      LimiterStep limiter clock check sh out.shared ⟨action, out.reply⟩) :
    Serves SlidingWindowRateLimiter.serve (.new window maxAttempts)
        (attemptsIn limiter clock check history) (limiter pool.shared) ∧
      ClockGoesOn (attemptsIn limiter clock check history) ∧
      ∀ c ∈ attemptsIn limiter clock check history, c.call.now ≤ clock pool.shared := by
  refine h.invariant_of_calls (I := fun history sh =>
    Serves SlidingWindowRateLimiter.serve (.new window maxAttempts)
        (attemptsIn limiter clock check history) (limiter sh) ∧
      ClockGoesOn (attemptsIn limiter clock check history) ∧
      ∀ c ∈ attemptsIn limiter clock check history, c.call.now ≤ clock sh) ?_ ?_
  · rw [initial]
    exact ⟨.start, .nil, fun c hc => absurd hc List.not_mem_nil⟩
  · intro history sh i origin action choice out inv hout
    obtain ⟨hrun, hclock, hlast⟩ := inv
    have hstep := step hout
    rw [attemptsIn_append]
    cases hcheck : check ⟨action, out.reply⟩ with
    | none =>
      have hnone : check (Event.interaction
          ⟨i, origin, action, out.reply, sh, out.shared, out.spawned⟩) = none := hcheck
      rw [hnone, Option.map_none, Option.toList_none, List.append_nil, hstep.other hcheck]
      exact ⟨hrun, hclock, fun c hc => (hlast c hc).trans hstep.goesOn⟩
    | some found =>
      obtain ⟨key, allowed⟩ := found
      have hsome : check (Event.interaction
          ⟨i, origin, action, out.reply, sh, out.shared, out.spawned⟩) = some (key, allowed) :=
        hcheck
      have hserved : served SlidingWindowRateLimiter.serve (limiter sh) ⟨key, clock out.shared⟩ =
          ⟨⟨key, clock out.shared⟩, allowed, limiter sh, limiter out.shared⟩ := by
        rw [served, SlidingWindowRateLimiter.serve, hstep.checked key allowed hcheck]
      have hnext := hrun.next ⟨key, clock out.shared⟩
      rw [hserved, SlidingWindowRateLimiter.serve, hstep.checked key allowed hcheck] at hnext
      rw [hsome, Option.map_some, Option.toList_some]
      refine ⟨hnext, ?_, ?_⟩
      · rw [ClockGoesOn, List.map_append, List.pairwise_append]
        refine ⟨hclock, List.pairwise_singleton _ _, ?_⟩
        intro now hnow last hlast'
        obtain ⟨c, hc, rfl⟩ := List.mem_map.mp hnow
        rw [List.mem_singleton.mp hlast']
        exact (hlast c hc).trans hstep.goesOn
      · intro c hc
        rcases List.mem_append.mp hc with hold | hnew
        · exact (hlast c hold).trans hstep.goesOn
        · rw [List.mem_singleton.mp hnew]

/-- The instants of the allowed calls on a key are those of the interactions. -/
theorem countP_allowedOn_attemptsIn (key : String) (p : Nat → Bool)
    (history : List (Event Sh A R J)) :
    (allowedOn key (attemptsIn limiter clock check history)).countP p =
      history.countP (fun e => check e.interaction = some (key, true) && p (clock e.after)) := by
  induction history with
  | nil => rfl
  | cons e history ih =>
    rw [List.countP_cons, ← ih]
    cases hcheck : check e.interaction with
    | none => simp [attemptsIn, hcheck]
    | some c =>
      obtain ⟨other, allowed⟩ := c
      by_cases hallowed : (other = key && allowed) = true
      · have hboth : other = key ∧ allowed = true := by simpa using hallowed
        obtain ⟨rfl, rfl⟩ := hboth
        simp [attemptsIn, allowedOn, hcheck, List.countP_cons]
      · have hne : ¬(other = key ∧ allowed = true) := by simpa using hallowed
        simp [attemptsIn, allowedOn, hcheck, hne]

/-- No more tasks have an allowed call on a key than the limit, at instants of which no two are a
    window apart. -/
theorem tasks_le (limiter : Sh → SlidingWindowRateLimiter) (clock : Sh → Nat)
    (check : Interaction A R → Option (String × Bool)) (h : S.Reaches entry sh history pool)
    (initial : limiter sh = .new window maxAttempts)
    (step : ∀ {i sh action choice} {out : Outcome Sh A R J action},
      S.perform i sh action choice = some out →
      LimiterStep limiter clock check sh out.shared ⟨action, out.reply⟩)
    (subtracts : WindowSubtracts window limiter clock check history)
    (key : String) {p : Nat → Bool}
    (near : ∀ t now, p t = true → p now = true → t ≤ now → now < t + window)
    {tasks : List Nat} (apart : tasks.Nodup)
    (allowed : ∀ task ∈ tasks, ∃ e ∈ history, e.task = task ∧
      check e.interaction = some (key, true) ∧ p (clock e.after) = true) :
    tasks.length ≤ maxAttempts := by
  obtain ⟨hrun, hclock, -⟩ := attemptsIn_serves h initial step
  let counted : Event Sh A R J → Bool := fun e =>
    check e.interaction = some (key, true) && p (clock e.after)
  have hsubset : tasks ⊆ (history.filter counted).map (·.task) := by
    intro task htask
    obtain ⟨e, he, hetask, hcheck, hp⟩ := allowed task htask
    refine List.mem_map.mpr ⟨e, List.mem_filter.mpr ⟨he, ?_⟩, hetask⟩
    simp [counted, hcheck, hp]
  have hbound : (allowedOn key (attemptsIn limiter clock check history)).countP p ≤
      maxAttempts := by
    refine countP_allowedOn_le hrun hclock key (fun c hc hkey => ?_) near
    obtain ⟨e, he, hfound⟩ := List.mem_filterMap.mp hc
    obtain ⟨⟨other, reply⟩, hcheck, rfl⟩ := Option.map_eq_some_iff.mp hfound
    obtain rfl : other = key := hkey
    exact subtracts e he other reply hcheck
  calc tasks.length
      ≤ ((history.filter counted).map (·.task)).length :=
        (List.subperm_of_subset apart hsubset).length_le
    _ = history.countP counted := by rw [List.length_map, List.countP_eq_length_filter]
    _ = (allowedOn key (attemptsIn limiter clock check history)).countP p :=
        (countP_allowedOn_attemptsIn key p history).symm
    _ ≤ maxAttempts := hbound

/-- A call is allowed exactly while fewer than the limit of the allowed ones on its key are in the
    window that ends with it. -/
theorem allowed_iff (limiter : Sh → SlidingWindowRateLimiter) (clock : Sh → Nat)
    (check : Interaction A R → Option (String × Bool)) (h : S.Reaches entry sh history pool)
    (initial : limiter sh = .new window maxAttempts)
    (step : ∀ {i sh action choice} {out : Outcome Sh A R J action},
      S.perform i sh action choice = some out →
      LimiterStep limiter clock check sh out.shared ⟨action, out.reply⟩)
    (subtracts : WindowSubtracts window limiter clock check history)
    {front back : List (Event Sh A R J)} {e : Event Sh A R J}
    (hsplit : history = front ++ e :: back) {key : String} {allowed : Bool}
    (hcheck : check e.interaction = some (key, allowed)) :
    allowed = true ↔ front.countP (fun d => check d.interaction = some (key, true) &&
      clock e.after < clock d.after + window) < maxAttempts := by
  obtain ⟨hrun, hclock, -⟩ := attemptsIn_serves h initial step
  have hattempts : attemptsOn key (attemptsIn limiter clock check history) =
      attemptsOn key (attemptsIn limiter clock check front) ++
        ⟨clock e.after, allowed, (limiter e.before).bucket key, (limiter e.after).bucket key⟩ ::
          attemptsOn key (attemptsIn limiter clock check back) := by
    have hone : attemptsIn limiter clock check (e :: back) =
        [⟨⟨key, clock e.after⟩, allowed, limiter e.before, limiter e.after⟩] ++
          attemptsIn limiter clock check back := by
      simp [attemptsIn, hcheck]
    have hall : attemptsIn limiter clock check (front ++ e :: back) =
        attemptsIn limiter clock check front ++ attemptsIn limiter clock check (e :: back) :=
      List.filterMap_append
    rw [hsplit, hall, hone, attemptsOn_append, attemptsOn_append, attemptsOn_one, if_pos rfl]
    rfl
  have hwindow := attemptsOn_window hrun key (fun c hc hkey => by
    obtain ⟨d, hd, hfound⟩ := List.mem_filterMap.mp hc
    obtain ⟨⟨other, reply⟩, hdcheck, rfl⟩ := Option.map_eq_some_iff.mp hfound
    obtain rfl : other = key := hkey
    exact subtracts d hd other reply hdcheck)
  have hiff := SlidingWindow.reply_iff (expires_hasLeft window) hwindow
    (attemptsOn_inOrder hclock key) hattempts
  rw [hiff, admitted_attemptsOn, countP_allowedOn_attemptsIn]
  have hnear : ∀ t, (!hasLeft window (clock e.after) t) = decide (clock e.after < t + window) := by
    intro t
    rw [hasLeft, ← decide_not, decide_eq_decide, Nat.not_le]
  simp only [hnear]

end Limiters

end Sunbolt.Control
