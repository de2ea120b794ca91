/- Module: Sunbolt/Control/RateLimiter
   scope: sunbolt-control/src/rate_limit.rs
   digest: The sliding-window rate limiter, keyed by a string. -/

import Sunbolt.Library.Table

set_option autoImplicit false
set_option relaxedAutoImplicit false

namespace Sunbolt.Control

open Sunbolt.Library

/-- Instants and the window are in nanoseconds; a key without a bucket has made no attempt. -/
structure SlidingWindowRateLimiter where
  inner : Table String (List Nat)
  window : Nat
  maxAttempts : Nat

namespace SlidingWindowRateLimiter

def new (window maxAttempts : Nat) : SlidingWindowRateLimiter := ⟨∅, window, maxAttempts⟩

variable (limiter : SlidingWindowRateLimiter)

/-- `checked_sub`, and the instant itself where an instant so early cannot be represented. -/
def cutoff (now : Nat) : Nat := if limiter.window ≤ now then now - limiter.window else now

/-- A refused attempt is not recorded, but what has left the window is forgotten. -/
def checkAndRecord (key : String) (now : Nat) : SlidingWindowRateLimiter × Bool :=
  let bucket := ((limiter.inner.lookup key).getD []).dropWhile (· ≤ limiter.cutoff now)
  if limiter.maxAttempts ≤ bucket.length then
    ({ limiter with inner := AList.insert key bucket limiter.inner }, false)
  else ({ limiter with inner := AList.insert key (bucket ++ [now]) limiter.inner }, true)

end SlidingWindowRateLimiter

end Sunbolt.Control
