/-
This file measures time that never goes back. An instant is a count of nanoseconds since the start; it
orders deadlines and latencies and is not affected by a change of the wall clock. Instants end: a span
that would lead beyond the last one has no result. A timer wakes at the first whole millisecond that is not
before its instant.
-/

import Community.Time.Duration

namespace Community

/-- A point of monotonic time, in nanoseconds since the start. -/
structure Instant where
  nanos : Nat
  deriving DecidableEq, Repr

namespace Instant

instance : Inhabited Instant := ⟨⟨0⟩⟩

/-- The instant at a count of milliseconds. -/
def ofMillis (millis : Nat) : Instant :=
  ⟨millis * Duration.nanosPerMilli⟩

/-- The seconds that instants can count, which is what a signed number of 64 bits holds. -/
def secondsBound : Nat := Nat.pow 2 63

/-- The instant after a span of time, if there is one. -/
def after? (instant : Instant) (span : Duration) : Option Instant :=
  let sum := instant.nanos + span.nanos
  if sum < secondsBound * Duration.nanosPerSecond then some ⟨sum⟩ else none

/-- The earlier of two instants. -/
def earlier (first second : Instant) : Instant :=
  if first.nanos < second.nanos then first else second

/-- The millisecond at which a timer for the instant wakes. -/
def wakeMillis (instant : Instant) : Nat :=
  (instant.nanos + (Duration.nanosPerMilli - 1)) / Duration.nanosPerMilli

/-- The whole milliseconds from a count of milliseconds to the instant, negative when it is past. -/
def millisFrom (instant : Instant) (now : Nat) : Int :=
  ((instant.nanos : Int) - (now * Duration.nanosPerMilli : Nat)).tdiv Duration.nanosPerMilli

end Instant

end Community
