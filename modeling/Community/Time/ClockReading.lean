/-
This file measures time by what a clock shows. A clock shows a day, a second of the day and nanoseconds. Within a
leap second it shows the second before and counts its nanoseconds on beyond a whole second. So readings come in order,
but the time between two of them counts a leap second only if one of them was taken in it and the other is at a time
of day on the other side of it, whatever the days are. Outside of leap seconds what a clock shows is a timestamp, and
the time between two readings is what it should be.
-/

import Community.Time.Timestamp

namespace Community

/-- What a clock shows: a day since the epoch, a second of the day and nanoseconds in it. -/
structure ClockReading where
  day : Int
  second : Fin 86400
  /-- At least a whole second within a leap second. -/
  nanos : Fin 2000000000
  deriving DecidableEq, Repr

namespace ClockReading

/-- The whole seconds since the epoch, leap seconds aside. -/
def seconds (reading : ClockReading) : Int :=
  reading.day * Timestamp.secondsPerDay + reading.second

/-- A reading comes before another one in an earlier second or with fewer nanoseconds of the same. -/
instance : LE ClockReading := ⟨fun earlier later =>
  earlier.seconds < later.seconds ∨ earlier.seconds = later.seconds ∧ earlier.nanos ≤ later.nanos⟩

instance (earlier later : ClockReading) : Decidable (earlier ≤ later) :=
  inferInstanceAs (Decidable (_ ∨ _))

/-- Was the clock read within a leap second? -/
def isLeap (reading : ClockReading) : Bool :=
  Duration.nanosPerSecond ≤ (reading.nanos : Nat)

/-- The nanoseconds since the epoch at which the reading stands; within a leap second they are those of the second
after it. -/
def position (reading : ClockReading) : Int :=
  reading.seconds * Duration.nanosPerSecond + reading.nanos

/-- What the time between two readings owes to a leap second in which one of them was taken. -/
def leapBetween (later earlier : ClockReading) : Int :=
  if earlier.second < later.second ∧ earlier.isLeap then Duration.nanosPerSecond
  else if later.second < earlier.second ∧ later.isLeap then -Duration.nanosPerSecond
  else 0

/-- The nanoseconds from an earlier reading to this one; negative if the clock was set back between them. -/
def since (later earlier : ClockReading) : Int :=
  later.position - earlier.position + later.leapBetween earlier

/-- The reading as date and time of day, to the second. A leap second is the sixtieth of its minute. -/
def write (reading : ClockReading) : String :=
  let second : Nat := reading.second
  let leap : Nat := reading.nanos / Duration.nanosPerSecond
  (Date.ofDays reading.day).write ++ " " ++ Date.padded 2 (second / 3600) ++ ":" ++
    Date.padded 2 (second / 60 % 60) ++ ":" ++ Date.padded 2 (second % 60 + leap)

/-- From the middle of a leap second to midnight the clock goes back by half a second. A leap second is counted
from its beginning to a later time of day, and from one leap second to another. -/
example :
    (⟨1, 0, 0⟩ : ClockReading).since ⟨0, 86399, 1500000000⟩ = -500000000 ∧
      (⟨0, 10800, 0⟩ : ClockReading).since ⟨0, 10799, 1000000000⟩ = 1000000000 ∧
      (⟨0, 10859, 1000000000⟩ : ClockReading).since ⟨0, 10799, 1000000000⟩ = 61000000000 := by decide

end ClockReading

namespace Timestamp

theorem secondOfDay_lt (time : Timestamp) : time.secondOfDay < 86400 := by
  have below : time.seconds.fmod secondsPerDay < secondsPerDay := Int.fmod_lt_of_pos _ (by decide)
  unfold secondOfDay
  unfold secondsPerDay at *
  omega

/-- What a clock shows at a timestamp. -/
def reading (time : Timestamp) : ClockReading where
  day := time.nanos.fdiv nanosPerDay
  second := ⟨time.secondOfDay, time.secondOfDay_lt⟩
  nanos := ⟨(time.nanos.fmod Duration.nanosPerSecond).toNat, by
    have below : time.nanos.fmod Duration.nanosPerSecond < Duration.nanosPerSecond :=
      Int.fmod_lt_of_pos _ (by decide)
    unfold Duration.nanosPerSecond at *
    omega⟩

instance : Coe Timestamp ClockReading := ⟨reading⟩

end Timestamp

end Community
