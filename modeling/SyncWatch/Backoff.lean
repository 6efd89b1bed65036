import SyncWatch.Duration
import SyncWatch.Word

/-!
# Waiting longer after each failure

The delay before a new attempt starts at a shortest value, is multiplied after
every failure in a row and never exceeds a longest value.  A delivered message
sets the sequence back.
-/

namespace SyncWatch

/-- How delays grow from failure to failure. -/
structure BackoffPolicy where
  /-- The delay after the first failure. -/
  initial : Duration
  /-- No delay is longer. -/
  longest : Duration
  /-- The factor from one failure to the next. -/
  multiplier : Nat
  deriving DecidableEq, Repr

namespace BackoffPolicy

/-- The initial delay when nothing else is asked for, in milliseconds. -/
def defaultInitialMillis : Nat := 1000

/-- The longest delay when nothing else is asked for, in milliseconds. -/
def defaultLongestMillis : Nat := 15000

/-- The policy that doubles the delay between two bounds; the longest delay is
at least the initial one. -/
def ofMillis (initial longest : Nat) : BackoffPolicy where
  initial := Duration.ofMillis initial
  longest := Duration.ofMillis (max longest initial)
  multiplier := 2

/-- Whether multiplying a delay once more cannot matter. -/
def isSettled (policy : BackoffPolicy) (delay : Duration) : Bool :=
  policy.longest.nanos ≤ delay.nanos || delay.nanos == 0 || policy.multiplier ≤ 1

/-- Multiply a delay a number of times, or until it is settled. -/
def grow (policy : BackoffPolicy) : Nat → Duration → Duration
  | 0, delay => delay
  | count + 1, delay =>
    if policy.isSettled delay then delay
    else policy.grow count (delay.times policy.multiplier)

/-- The delay before the attempt that follows a number of earlier failures. -/
def delay (policy : BackoffPolicy) (failures : Nat) : Duration :=
  (policy.grow failures policy.initial).shorter policy.longest

end BackoffPolicy

/-- A sequence of delays. -/
structure Backoff where
  policy : BackoffPolicy
  /-- The failures since the last message, counted up to a largest number. -/
  failures : Nat := 0
  deriving DecidableEq, Repr

namespace Backoff

/-- The number at which failures are no longer counted. -/
def largestCount : Nat := Word.largest 32

/-- The delay after the next failure. -/
def current (backoff : Backoff) : Duration :=
  backoff.policy.delay backoff.failures

/-- The sequence after one more failure. -/
def next (backoff : Backoff) : Backoff :=
  { backoff with failures := min (backoff.failures + 1) largestCount }

/-- The sequence after a message. -/
def reset (backoff : Backoff) : Backoff :=
  { backoff with failures := 0 }

@[simp] theorem policy_next (backoff : Backoff) : backoff.next.policy = backoff.policy := rfl

@[simp] theorem policy_reset (backoff : Backoff) : backoff.reset.policy = backoff.policy := rfl

@[simp] theorem failures_reset (backoff : Backoff) : backoff.reset.failures = 0 := rfl

end Backoff
end SyncWatch
