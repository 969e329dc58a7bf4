/-
  Exponential backoff.

  A policy allows a number of attempts.  After the `k`-th failure the next attempt waits for the base
  delay doubled `k - 1` times — at most ten times — and never longer than the longest delay.

  THE CRUX: the doubling saturates at the largest duration, and the minimum with the longest delay is
  taken afterwards.  Because the longest delay is itself a duration, the saturation cannot be seen:
  in nanoseconds the delay is `min (base * 2^(min (k-1) 10)) longest`, exactly (`toNanos_delay`).
-/
import Muster.Duration

namespace Muster

/-- A policy for trying again. -/
structure Backoff where
  /-- How many failures end the trying. -/
  attempts : Nat
  /-- The delay after the first failure. -/
  base : Duration
  /-- The longest delay. -/
  longest : Duration
deriving DecidableEq, Repr

namespace Backoff

/-- Whether another attempt follows the `failures`-th failure. -/
def retries (p : Backoff) (failures : Nat) : Bool := failures < p.attempts

/-- How often the delay doubles before the attempt that follows the `failures`-th failure. -/
def doublings (failures : Nat) : Nat := min (failures - 1) 10

/-- **The delay after the `failures`-th failure.** -/
def delay (p : Backoff) (failures : Nat) : Duration :=
  (p.base.scale (Nat.pow 2 (doublings failures))).shorter p.longest

theorem toNanos_delay (p : Backoff) (failures : Nat) :
    (p.delay failures).toNanos =
      min (p.base.toNanos * Nat.pow 2 (doublings failures)) p.longest.toNanos := by
  rw [delay, Duration.toNanos_shorter, Duration.toNanos_scale]
  have := p.longest.toNanos_le_max
  omega

theorem delay_le_longest (p : Backoff) (failures : Nat) : p.delay failures ≤ p.longest := by
  rw [Duration.le_iff, toNanos_delay]
  exact Nat.min_le_right ..

end Backoff

end Muster
