import SyncWatch.Backoff
import Mathlib.Algebra.Group.Nat.Defs

/-!
# Delays that settle

A delay that still grows at least doubles with every failure, and no duration
is longer than the longest one.  So delays are settled long before failures are
no longer counted, and the largest count that is kept stands for every larger
one.  A delay that is multiplied step by step, up to the longest duration and
until it is settled, is the exact product up to the longest delay.
-/

namespace SyncWatch

namespace BackoffPolicy

/-- A number of failures after which no delay grows. -/
def settlingFailures : Nat := 94

/-- So many doublings lead beyond the longest duration. -/
theorem longestNanos_le : Duration.longestNanos ≤ 2 ^ settlingFailures := by
  decide

variable (policy : BackoffPolicy)

theorem grow_of_isSettled
    {delay : Duration}
    (settled : policy.isSettled delay = true)
    (count : Nat) :
    policy.grow count delay = delay := by
  cases count with
  | zero => rfl
  | succ count => rw [grow, if_pos settled]

/-- What is left to grow when a delay is not settled. -/
theorem not_isSettled_iff (delay : Duration) :
    policy.isSettled delay = false ↔
      delay.nanos < policy.longest.nanos ∧ 0 < delay.nanos ∧ 1 < policy.multiplier := by
  simp only [isSettled, Bool.or_eq_false_iff, decide_eq_false_iff_not, beq_eq_false_iff_ne]
  omega

/-- A delay that reaches the longest duration by doublings alone has stopped
growing after as many failures. -/
theorem grow_add
    (steps extra : Nat)
    {delay : Duration}
    (enough : Duration.longestNanos ≤ 2 ^ steps * delay.nanos) :
    policy.grow (steps + extra) delay = policy.grow steps delay := by
  induction steps generalizing delay with
  | zero =>
      have settled : policy.isSettled delay = true := by
        have bound := policy.longest.nanos_le
        simp only [isSettled, Bool.or_eq_true, decide_eq_true_eq]
        omega
      rw [grow_of_isSettled policy settled, grow_of_isSettled policy settled]
  | succ steps inductionHypothesis =>
      by_cases settled : policy.isSettled delay = true
      · rw [grow_of_isSettled policy settled, grow_of_isSettled policy settled]
      · rw [Nat.add_right_comm, grow, grow, if_neg settled, if_neg settled]
        apply inductionHypothesis
        rw [Bool.not_eq_true, not_isSettled_iff] at settled
        obtain ⟨-, -, multiplies⟩ := settled
        rw [Duration.nanos_times]
        have doubled : 2 ^ steps * (delay.nanos * 2) ≤
            2 ^ steps * (delay.nanos * policy.multiplier) :=
          Nat.mul_le_mul_left _ (Nat.mul_le_mul_left _ multiplies)
        have positive : 0 < 2 ^ steps := Nat.two_pow_pos steps
        have saturated : Duration.longestNanos ≤ 2 ^ steps * Duration.longestNanos :=
          Nat.le_mul_of_pos_left _ positive
        rcases Nat.le_total (delay.nanos * policy.multiplier) Duration.longestNanos with
          within | beyond
        · rw [Nat.min_eq_left within]
          rw [Nat.pow_succ] at enough
          calc
            Duration.longestNanos ≤ 2 ^ steps * 2 * delay.nanos := enough
            _ = 2 ^ steps * (delay.nanos * 2) := by rw [Nat.mul_assoc, Nat.mul_comm 2]
            _ ≤ 2 ^ steps * (delay.nanos * policy.multiplier) := doubled
        · rw [Nat.min_eq_right beyond]
          exact saturated

/-- No delay grows after the settling failures. -/
theorem grow_settlingFailures_add (extra : Nat) (delay : Duration) :
    policy.grow (settlingFailures + extra) delay = policy.grow settlingFailures delay := by
  rcases Nat.eq_zero_or_pos delay.nanos with zero | positive
  · have settled : policy.isSettled delay = true := by simp [isSettled, zero]
    rw [grow_of_isSettled policy settled, grow_of_isSettled policy settled]
  · apply policy.grow_add
    exact Nat.le_trans longestNanos_le (Nat.le_mul_of_pos_right _ positive)

theorem delay_of_le
    {failures : Nat}
    (settled : settlingFailures ≤ failures) :
    policy.delay failures = policy.delay settlingFailures := by
  obtain ⟨extra, rfl⟩ := Nat.exists_eq_add_of_le settled
  rw [delay, delay, grow_settlingFailures_add]

/-- Counting failures up to the largest count loses nothing about the delays. -/
theorem delay_min_largestCount (failures : Nat) :
    policy.delay (min failures Backoff.largestCount) = policy.delay failures := by
  have room : settlingFailures ≤ Backoff.largestCount := by decide
  rcases Nat.le_total failures Backoff.largestCount with counted | beyond
  · rw [Nat.min_eq_left counted]
  · rw [Nat.min_eq_right beyond, policy.delay_of_le room,
      policy.delay_of_le (Nat.le_trans room beyond)]

/-! ## The closed form -/

/-- Below a bound it cannot be seen that a factor was cut off above the bound. -/
theorem min_min_mul
    {bound cut factor : Nat}
    (above : bound ≤ cut)
    (positive : 0 < factor)
    (value : Nat) :
    min (min value cut * factor) bound = min (value * factor) bound := by
  rcases Nat.le_total value cut with within | beyond
  · rw [Nat.min_eq_left within]
  · have cutProduct : bound ≤ cut * factor :=
      Nat.le_trans above (Nat.le_mul_of_pos_right _ positive)
    have product : cut * factor ≤ value * factor := Nat.mul_le_mul_right _ beyond
    rw [Nat.min_eq_right beyond, Nat.min_eq_right cutProduct,
      Nat.min_eq_right (Nat.le_trans cutProduct product)]

variable {policy}

/-- Multiplying a settled delay once more does not matter. -/
theorem min_mul_of_isSettled
    {delay : Duration}
    (settled : policy.isSettled delay = true)
    (grows : 1 ≤ policy.multiplier)
    (count : Nat) :
    min (delay.nanos * policy.multiplier ^ count) policy.longest.nanos =
      min delay.nanos policy.longest.nanos := by
  simp only [isSettled, Bool.or_eq_true, decide_eq_true_eq, beq_iff_eq] at settled
  rcases settled with (long | zero) | single
  · have product : delay.nanos ≤ delay.nanos * policy.multiplier ^ count :=
      Nat.le_mul_of_pos_right _ (Nat.pow_pos grows)
    rw [Nat.min_eq_right (Nat.le_trans long product), Nat.min_eq_right long]
  · rw [zero, Nat.zero_mul]
  · rw [Nat.le_antisymm single grows, Nat.one_pow, Nat.mul_one]

/-- A delay grows to the exact product, as far as the longest delay lets it be
seen. -/
theorem min_grow
    (grows : 1 ≤ policy.multiplier)
    (count : Nat)
    (delay : Duration) :
    min (policy.grow count delay).nanos policy.longest.nanos =
      min (delay.nanos * policy.multiplier ^ count) policy.longest.nanos := by
  induction count generalizing delay with
  | zero => rw [grow, Nat.pow_zero, Nat.mul_one]
  | succ count inductionHypothesis =>
      rw [grow]
      split
      next settled => exact (min_mul_of_isSettled settled grows (count + 1)).symm
      next =>
        rw [inductionHypothesis, Duration.nanos_times,
          min_min_mul policy.longest.nanos_le (Nat.pow_pos grows), Nat.pow_succ',
          Nat.mul_assoc]

/-- A delay is the initial one, multiplied once for every failure, or the
longest one. -/
theorem nanos_delay
    (grows : 1 ≤ policy.multiplier)
    (failures : Nat) :
    (policy.delay failures).nanos =
      min (policy.initial.nanos * policy.multiplier ^ failures) policy.longest.nanos := by
  rw [delay, Duration.nanos_shorter, min_grow grows]

/-- More failures do not shorten the delay. -/
theorem nanos_delay_mono
    (grows : 1 ≤ policy.multiplier)
    {fewer more : Nat}
    (order : fewer ≤ more) :
    (policy.delay fewer).nanos ≤ (policy.delay more).nanos := by
  have product : policy.initial.nanos * policy.multiplier ^ fewer ≤
      policy.initial.nanos * policy.multiplier ^ more :=
    Nat.mul_le_mul_left _ (Nat.pow_le_pow_right grows order)
  rw [nanos_delay grows, nanos_delay grows]
  omega

end BackoffPolicy
end SyncWatch
