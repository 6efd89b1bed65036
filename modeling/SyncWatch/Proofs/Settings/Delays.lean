import SyncWatch.Proofs.Backoff
import SyncWatch.Proofs.Settings.Usable
import SyncWatch.Settings.Feeds
import Mathlib.Data.List.DropRight

/-!
# The delays that settings ask for

A sequence of delays counts the failures since it was set back, so its next
delay is the product for that count.  With settings that can be used all delays
lie between the two that are set, and they do not become shorter until the
sequence is set back.
-/

namespace SyncWatch

/-- What can be asked of a sequence of delays. -/
inductive BackoffCall where
  /-- The delay after one more failure. -/
  | next
  /-- A message came, and failures are forgotten. -/
  | reset
  deriving DecidableEq, Repr

/-- How many failures there were since the sequence was set back. -/
def failuresSinceReset (calls : List BackoffCall) : Nat :=
  (calls.rtakeWhile (· == .next)).length

theorem failuresSinceReset_concat_next (calls : List BackoffCall) :
    failuresSinceReset (calls ++ [.next]) = failuresSinceReset calls + 1 := by
  rw [failuresSinceReset, List.rtakeWhile_concat_pos _ _ _ rfl, List.length_append,
    List.length_singleton]
  rfl

theorem failuresSinceReset_concat_reset (calls : List BackoffCall) :
    failuresSinceReset (calls ++ [.reset]) = 0 := by
  rw [failuresSinceReset, List.rtakeWhile_concat_neg _ _ _ (by decide), List.length_nil]

/-- Until the sequence is set back failures only become more. -/
theorem failuresSinceReset_le_append
    {later : List BackoffCall}
    (kept : .reset ∉ later)
    (calls : List BackoffCall) :
    failuresSinceReset calls ≤ failuresSinceReset (calls ++ later) := by
  induction later generalizing calls with
  | nil => rw [List.append_nil]
  | cons call rest inductionHypothesis =>
      rw [List.mem_cons, not_or] at kept
      cases call with
      | next =>
          have more := inductionHypothesis kept.2 (calls ++ [.next])
          rw [failuresSinceReset_concat_next] at more
          rw [List.append_cons]
          omega
      | reset => exact absurd rfl kept.1

namespace Backoff

/-- The sequence after a call. -/
def call (backoff : Backoff) : BackoffCall → Backoff
  | .next => backoff.next
  | .reset => backoff.reset

/-- The sequence after some calls. -/
def run (backoff : Backoff) (calls : List BackoffCall) : Backoff :=
  calls.foldl call backoff

/-- A sequence that follows a policy has counted the failures of some calls. -/
structure Counts (backoff : Backoff) (policy : BackoffPolicy) (past : List BackoffCall) :
    Prop where
  policy : backoff.policy = policy
  failures : backoff.failures = min (failuresSinceReset past) largestCount

namespace Counts

variable {backoff : Backoff} {policy : BackoffPolicy} {past : List BackoffCall}

theorem call
    (counts : backoff.Counts policy past)
    (call : BackoffCall) :
    (backoff.call call).Counts policy (past ++ [call]) := by
  cases call with
  | next =>
      refine ⟨counts.policy, ?_⟩
      rw [failuresSinceReset_concat_next, Backoff.call, next, counts.failures]
      dsimp only
      omega
  | reset =>
      refine ⟨counts.policy, ?_⟩
      rw [failuresSinceReset_concat_reset]
      rfl

theorem run
    (counts : backoff.Counts policy past)
    (calls : List BackoffCall) :
    (backoff.run calls).Counts policy (past ++ calls) := by
  induction calls generalizing backoff past with
  | nil =>
      rw [List.append_nil]
      exact counts
  | cons call rest inductionHypothesis =>
      rw [List.append_cons]
      exact inductionHypothesis (counts.call call)

end Counts

/-- The next delay is the one of the policy after as many failures as were
counted. -/
theorem current_run (policy : BackoffPolicy) (calls : List BackoffCall) :
    (run { policy } calls).current =
      policy.delay (min (failuresSinceReset calls) largestCount) := by
  have counts : (run { policy } calls).Counts policy ([] ++ calls) :=
    Counts.run ⟨rfl, rfl⟩ calls
  rw [current, counts.policy, counts.failures, List.nil_append]

end Backoff

namespace Settings

/-- The policy of settings that can be used keeps the delays that are set, which
are numbers of 64 bits. -/
theorem nanos_backoff
    {settings : Settings}
    (usable : settings.check = .ok ())
    (bounded : Word.holds 64 settings.stream.longestRetryMillis = true) :
    settings.backoff.initial.nanos =
        settings.stream.initialRetryMillis * Duration.milliNanos ∧
      settings.backoff.longest.nanos =
        settings.stream.longestRetryMillis * Duration.milliNanos ∧
      settings.backoff.initial.nanos ≤ settings.backoff.longest.nanos := by
  obtain ⟨_, stream, _⟩ := (check_eq_ok_iff settings).mp usable
  obtain ⟨_, ordered, _⟩ := (StreamSettings.check_eq_ok_iff _).mp stream
  have small : settings.stream.longestRetryMillis < Word.size 64 := by
    simpa [Word.holds] using bounded
  have room : (Word.size 64 - 1) * Duration.milliNanos ≤ Duration.longestNanos := by decide
  have longestFits : settings.stream.longestRetryMillis * Duration.milliNanos ≤
      Duration.longestNanos :=
    Nat.le_trans (Nat.mul_le_mul_right _ (by omega)) room
  have products : settings.stream.initialRetryMillis * Duration.milliNanos ≤
      settings.stream.longestRetryMillis * Duration.milliNanos :=
    Nat.mul_le_mul_right _ ordered
  have initial : settings.backoff.initial.nanos =
      settings.stream.initialRetryMillis * Duration.milliNanos :=
    Nat.min_eq_left (Nat.le_trans products longestFits)
  have longest : settings.backoff.longest.nanos =
      settings.stream.longestRetryMillis * Duration.milliNanos := by
    rw [backoff, BackoffPolicy.ofMillis, Nat.max_eq_left ordered]
    exact Nat.min_eq_left longestFits
  refine ⟨initial, longest, ?_⟩
  rw [initial, longest]
  exact products

/-- A delay is the exact product for the number of failures, up to the longest
delay, also where the product is longer than any duration.  So after any calls
the next delay of a sequence is the product for the failures since it was set
back, as far as they are counted.  With settings that can be used it lies
between the two delays that are set, and it does not become shorter until the
sequence is set back. -/
theorem delays_are_products :
    (∀ policy : BackoffPolicy, 1 ≤ policy.multiplier →
      (∀ failures, (policy.delay failures).nanos =
        min (policy.initial.nanos * policy.multiplier ^ failures) policy.longest.nanos) ∧
      ∀ calls, (Backoff.run { policy } calls).current.nanos =
        min (policy.initial.nanos *
            policy.multiplier ^ min (failuresSinceReset calls) Backoff.largestCount)
          policy.longest.nanos) ∧
    (∀ initial longest, (BackoffPolicy.ofMillis initial longest).multiplier = 2) ∧
    ∀ settings : Settings, settings.check = .ok () →
      Word.holds 64 settings.stream.longestRetryMillis = true →
      ∀ calls,
        let delayAfter (calls : List BackoffCall) :=
          (Backoff.run { policy := settings.backoff } calls).current.nanos
        settings.stream.initialRetryMillis * Duration.milliNanos ≤ delayAfter calls ∧
          delayAfter calls ≤ settings.stream.longestRetryMillis * Duration.milliNanos ∧
          ∀ later, .reset ∉ later → delayAfter calls ≤ delayAfter (calls ++ later) := by
  refine ⟨?_, fun _ _ => rfl, ?_⟩
  · intro policy grows
    refine ⟨BackoffPolicy.nanos_delay grows, ?_⟩
    intro calls
    rw [Backoff.current_run, BackoffPolicy.nanos_delay grows]
  · intro settings usable bounded calls delayAfter
    obtain ⟨initial, longest, ordered⟩ := nanos_backoff usable bounded
    have grows : 1 ≤ settings.backoff.multiplier := Nat.le_succ 1
    have delay (calls : List BackoffCall) : delayAfter calls =
        (settings.backoff.delay (min (failuresSinceReset calls) Backoff.largestCount)).nanos :=
      congrArg Duration.nanos (Backoff.current_run _ calls)
    refine ⟨?_, ?_, ?_⟩
    · rw [← initial, delay, BackoffPolicy.nanos_delay grows]
      exact Nat.le_min.mpr ⟨Nat.le_mul_of_pos_right _ (Nat.pow_pos grows), ordered⟩
    · rw [← longest, delay, BackoffPolicy.nanos_delay grows]
      exact Nat.min_le_right _ _
    · intro later kept
      have more := failuresSinceReset_le_append kept calls
      rw [delay, delay]
      exact BackoffPolicy.nanos_delay_mono grows (by omega)

/-- Delays that grow tenfold reach the longest duration although the product is
longer.  With the standard settings the delay after a message and one more
failure is two seconds, and four failures later it is fifteen. -/
theorem delays_of_standard_settings :
    let tenfold : BackoffPolicy := ⟨Duration.ofSeconds 1, Duration.ofSeconds (2 ^ 65), 10⟩
    let standard : Settings := {}
    let delayAfter (calls : List BackoffCall) :=
      (Backoff.run { policy := standard.backoff } calls).current.nanos
    1 ≤ tenfold.multiplier ∧
      Duration.longestNanos < tenfold.initial.nanos * tenfold.multiplier ^ 20 ∧
      (tenfold.delay 20).nanos = Duration.longestNanos ∧
      standard.check = .ok () ∧
      Word.holds 64 standard.stream.longestRetryMillis = true ∧
      delayAfter [.next, .next, .reset, .next] = 2000 * Duration.milliNanos ∧
      BackoffCall.reset ∉ [BackoffCall.next, .next, .next] ∧
      delayAfter [.next, .next, .reset, .next] ≤
        delayAfter ([.next, .next, .reset, .next] ++ [.next, .next, .next]) ∧
      delayAfter ([.next, .next, .reset, .next] ++ [.next, .next, .next]) =
        15000 * Duration.milliNanos := by
  intro tenfold standard delayAfter
  obtain ⟨products, -, bounds⟩ := delays_are_products
  have grows : 1 ≤ tenfold.multiplier := by decide
  have usable : ({} : Settings).check = .ok () := rfl
  have bounded : Word.holds 64 standard.stream.longestRetryMillis = true := by decide
  have kept : BackoffCall.reset ∉ [BackoffCall.next, .next, .next] := by decide
  obtain ⟨-, -, longer⟩ := bounds standard usable bounded [.next, .next, .reset, .next]
  have doubles : 1 ≤ standard.backoff.multiplier := by decide
  have long : Duration.longestNanos < tenfold.initial.nanos * tenfold.multiplier ^ 20 := by
    decide
  refine ⟨grows, long, ?_, usable, bounded, ?_, kept, longer _ kept, ?_⟩
  · rw [(products tenfold grows).1]
    decide
  · exact ((products standard.backoff doubles).2 _).trans (by decide)
  · exact ((products standard.backoff doubles).2 _).trans (by decide)

end Settings
end SyncWatch
