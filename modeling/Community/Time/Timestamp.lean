/-
This file measures points in time. A timestamp is a count of nanoseconds since 1970-01-01T00:00:00Z,
negative before it; leap seconds have none of their own. The last timestamp is the last nanosecond of the last year of the calendar; an expiry
that would lie beyond it is set to it.
-/

import Community.Time.Duration
import Community.Time.Calendar

namespace Community

/-- A point in time, in nanoseconds since the epoch. -/
structure Timestamp where
  nanos : Int
  deriving DecidableEq, Repr

namespace Timestamp

instance : Inhabited Timestamp := ⟨⟨0⟩⟩

instance : LE Timestamp := ⟨fun earlier later => earlier.nanos ≤ later.nanos⟩

instance : LT Timestamp := ⟨fun earlier later => earlier.nanos < later.nanos⟩

instance (earlier later : Timestamp) : Decidable (earlier ≤ later) :=
  inferInstanceAs (Decidable (earlier.nanos ≤ later.nanos))

instance (earlier later : Timestamp) : Decidable (earlier < later) :=
  inferInstanceAs (Decidable (earlier.nanos < later.nanos))

/-- Seconds in a day. -/
def secondsPerDay : Nat := 86400

/-- Nanoseconds in a day. -/
def nanosPerDay : Nat := secondsPerDay * Duration.nanosPerSecond

/-- The timestamp at a count of milliseconds since the epoch. -/
def ofMillis (millis : Int) : Timestamp :=
  ⟨millis * Duration.nanosPerMilli⟩

/-- The whole milliseconds since the epoch, counted downwards before it. -/
def millis (time : Timestamp) : Int :=
  time.nanos.fdiv Duration.nanosPerMilli

/-- The whole seconds since the epoch, counted downwards before it. -/
def seconds (time : Timestamp) : Int :=
  time.nanos.fdiv Duration.nanosPerSecond

/-- The day on which the timestamp lies. -/
def date (time : Timestamp) : Date :=
  Date.ofDays (time.nanos.fdiv nanosPerDay)

/-- The second of that day. -/
def secondOfDay (time : Timestamp) : Nat :=
  (time.seconds.fmod secondsPerDay).toNat

/-- The first timestamp. -/
def first : Timestamp :=
  ⟨Date.toDays ⟨Date.leastYear, 1, 1⟩ * nanosPerDay⟩

/-- The last timestamp. -/
def last : Timestamp :=
  ⟨(Date.toDays ⟨Date.greatestYear, 12, 31⟩ + 1) * nanosPerDay - 1⟩

/-- Is the timestamp one of the calendar? -/
def isValid (time : Timestamp) : Bool :=
  first ≤ time && time ≤ last

/-- The timestamp after a span of time, or the last one. -/
def addSaturating (time : Timestamp) (span : Duration) : Timestamp :=
  let sum : Timestamp := ⟨time.nanos + span.nanos⟩
  if sum ≤ last then sum else last

end Timestamp

end Community
