import SyncWatch.Word

/-!
# Lengths of time

A duration counts whole nanoseconds and has a largest value, at which products
stop growing.  Instants count nanoseconds from an arbitrary origin.
-/

namespace SyncWatch

/-- A moment, in nanoseconds from an arbitrary origin. -/
abbrev Instant := Nat

namespace Duration

/-- The nanoseconds of one second. -/
def secondNanos : Nat := 1000000000

/-- The nanoseconds of one millisecond. -/
def milliNanos : Nat := 1000000

/-- The nanoseconds of the longest duration: 64 bits of seconds, and a fraction. -/
def longestNanos : Nat := Word.size 64 * secondNanos - 1

end Duration

/-- A length of time. -/
structure Duration where
  /-- The whole length in nanoseconds. -/
  nanos : Nat
  /-- No duration exceeds the longest one. -/
  nanos_le : nanos ≤ Duration.longestNanos
  deriving DecidableEq, Repr

namespace Duration

/-- The duration of a number of nanoseconds, or the longest one. -/
def ofNanos (nanos : Nat) : Duration :=
  ⟨min nanos longestNanos, Nat.min_le_right _ _⟩

/-- The duration of a number of milliseconds, or the longest one. -/
def ofMillis (millis : Nat) : Duration :=
  ofNanos (millis * milliNanos)

/-- The duration of a number of seconds, or the longest one. -/
def ofSeconds (seconds : Nat) : Duration :=
  ofNanos (seconds * secondNanos)

/-- The whole milliseconds of a duration. -/
def millis (duration : Duration) : Nat :=
  duration.nanos / milliNanos

/-- The whole seconds of a duration. -/
def seconds (duration : Duration) : Nat :=
  duration.nanos / secondNanos

/-- The seconds of a duration, rounded up after they were taken as a floating
point number. -/
def ceilingSeconds (duration : Duration) : Nat :=
  let fraction := Float.ofNat (duration.nanos % secondNanos) / Float.ofNat secondNanos
  (Float.ofNat duration.seconds + fraction).ceil.toUInt64.toNat

/-- A multiple of a duration, or the longest one. -/
def times (duration : Duration) (factor : Nat) : Duration :=
  ofNanos (duration.nanos * factor)

/-- The shorter of two durations. -/
def shorter (left right : Duration) : Duration :=
  if left.nanos ≤ right.nanos then left else right

@[simp] theorem nanos_ofNanos (nanos : Nat) :
    (ofNanos nanos).nanos = min nanos longestNanos := rfl

@[simp] theorem nanos_times (duration : Duration) (factor : Nat) :
    (duration.times factor).nanos = min (duration.nanos * factor) longestNanos := rfl

@[simp] theorem nanos_shorter (left right : Duration) :
    (left.shorter right).nanos = min left.nanos right.nanos := by
  unfold shorter
  split <;> omega

end Duration
end SyncWatch
