/-
This file measures spans of time. A duration is a whole number of nanoseconds, never negative. Caches
count in whole milliseconds and drop what is below; deadlines and presence keep every nanosecond.
-/

namespace Community

/-- A span of time in nanoseconds. -/
structure Duration where
  nanos : Nat
  deriving DecidableEq, Repr

namespace Duration

/-- Nanoseconds in a second. -/
def nanosPerSecond : Nat := 1000000000

/-- Nanoseconds in a millisecond. -/
def nanosPerMilli : Nat := 1000000

/-- No time at all. -/
def zero : Duration := ⟨0⟩

instance : Inhabited Duration := ⟨zero⟩

/-- Does the span last no time? -/
def isZero (duration : Duration) : Bool :=
  duration.nanos = 0

/-- A whole number of seconds. -/
def ofSeconds (seconds : Nat) : Duration :=
  ⟨seconds * nanosPerSecond⟩

/-- A whole number of milliseconds. -/
def ofMillis (millis : Nat) : Duration :=
  ⟨millis * nanosPerMilli⟩

/-- Seconds and nanoseconds together; more than a second of nanoseconds is carried. -/
def ofParts (seconds nanos : Nat) : Duration :=
  ⟨seconds * nanosPerSecond + nanos⟩

/-- The whole seconds of the span. -/
def seconds (duration : Duration) : Nat :=
  duration.nanos / nanosPerSecond

/-- The nanoseconds beyond the whole seconds. -/
def subsecondNanos (duration : Duration) : Nat :=
  duration.nanos % nanosPerSecond

/-- The whole milliseconds of the span. -/
def millis (duration : Duration) : Nat :=
  duration.nanos / nanosPerMilli

@[simp] theorem millis_ofMillis (count : Nat) : (ofMillis count).millis = count := by
  simp [millis, ofMillis, nanosPerMilli]

end Duration

end Community
