/-
This file proves when a clock shows that time goes on. The readings of a clock may be in order and still show that
less time has passed since an earlier one, because the time between two readings does not count every leap second. A
clock is steady if that does not happen. It is if its readings are in order and none was taken within a leap second;
and if leap seconds only come at the ends of days, as they do in UTC, it is as long as the positions at which its
readings stand are in order.
-/

import Community.Proofs.Time.Order
import Community.Time.ClockReading

namespace Community

namespace ClockReading

variable {earlier later : ClockReading} {readings : List ClockReading}

/-- A later reading is not in an earlier second. -/
theorem seconds_le (ordered : earlier ≤ later) : earlier.seconds ≤ later.seconds := by
  rcases ordered with less | ⟨same, -⟩
  · exact Int.le_of_lt less
  · exact Int.le_of_eq same

/-! ### Steady clocks -/

/-- Of three readings one after the other, the last shows at least as much time since the first as the second. -/
def Steady (readings : List ClockReading) : Prop :=
  ∀ first second third, [first, second, third].Sublist readings → second.since first ≤ third.since first

/-- Was the reading taken outside of leap seconds, or in one that ends a day? -/
def EndsDay (reading : ClockReading) : Prop :=
  reading.isLeap → reading.second = Fin.last _

/-- Nothing comes after a leap second on its day. -/
theorem EndsDay.not_lt (ends : earlier.EndsDay) (leaps : earlier.isLeap) : ¬earlier.second < later.second := by
  rw [ends leaps]
  exact Nat.not_lt.2 (Nat.le_of_lt_succ later.second.isLt)

/-- Leap seconds at the ends of days add nothing to the time between two readings. -/
theorem since_eq (first : earlier.EndsDay) (second : later.EndsDay) :
    later.since earlier = later.position - earlier.position := by
  have none : later.leapBetween earlier = 0 := by
    unfold leapBetween
    rw [if_neg fun leaps => first.not_lt leaps.2 leaps.1, if_neg fun leaps => second.not_lt leaps.2 leaps.1]
  rw [since, none, Int.add_zero]

theorem steady_of_position (ends : ∀ reading ∈ readings, reading.EndsDay)
    (onward : readings.Pairwise fun earlier later => earlier.position ≤ later.position) : Steady readings := by
  intro first second third taken
  have inOrder := onward.sublist taken
  simp only [List.pairwise_cons, List.forall_mem_cons] at inOrder
  have ends (reading : ClockReading) (member : reading ∈ [first, second, third]) : reading.EndsDay :=
    ends reading (taken.subset member)
  rw [since_eq (ends first (by simp)) (ends second (by simp)), since_eq (ends first (by simp)) (ends third (by simp))]
  exact Int.sub_le_sub_right inOrder.2.1.1 _

/-- A later reading stands at a later position, unless the earlier one was taken in a leap second. -/
theorem position_le (ordered : earlier ≤ later) (calm : ¬earlier.isLeap) : earlier.position ≤ later.position := by
  have below : (earlier.nanos : Nat) < Duration.nanosPerSecond := Nat.lt_of_not_le fun leaps => calm (decide_eq_true leaps)
  have ordered : earlier.seconds < later.seconds ∨
    earlier.seconds = later.seconds ∧ (earlier.nanos : Nat) ≤ later.nanos := ordered
  unfold position
  unfold Duration.nanosPerSecond at *
  omega

/-- A clock that does not go back is steady if it is not read in leap seconds. -/
theorem steady_of_le (calm : ∀ reading ∈ readings, ¬reading.isLeap) (onward : readings.Pairwise (· ≤ ·)) :
    Steady readings :=
  steady_of_position (fun reading member leaps => absurd leaps (calm reading member))
    (onward.imp_of_mem fun first _ ordered => position_le ordered (calm _ first))

end ClockReading

/-! ### Clocks that show timestamps -/

namespace Timestamp

variable {time : Timestamp} {times : List Timestamp}

theorem seconds_reading : time.reading.seconds = time.seconds := by
  unfold ClockReading.seconds reading secondOfDay seconds
  simp only [nanosPerDay, secondsPerDay, Duration.nanosPerSecond]
  rw [Int.fdiv_eq_ediv_of_nonneg _ (by decide), Int.fdiv_eq_ediv_of_nonneg _ (by decide),
    Int.fmod_eq_emod_of_nonneg _ (by decide)]
  omega

theorem position_reading (time : Timestamp) : time.reading.position = time.nanos := by
  unfold ClockReading.position
  rw [seconds_reading]
  unfold seconds reading
  simp only [Duration.nanosPerSecond]
  rw [Int.fdiv_eq_ediv_of_nonneg _ (by decide), Int.fmod_eq_emod_of_nonneg _ (by decide)]
  omega

theorem nanos_reading_lt (time : Timestamp) : time.reading.nanos.val < Duration.nanosPerSecond := by
  have below : time.nanos.fmod Duration.nanosPerSecond < Duration.nanosPerSecond :=
    Int.fmod_lt_of_pos _ (by decide)
  show (time.nanos.fmod Duration.nanosPerSecond).toNat < Duration.nanosPerSecond
  unfold Duration.nanosPerSecond at *
  omega

/-- Timestamps are in order as the readings are that a clock shows at them. -/
theorem reading_le_reading {earlier later : Timestamp} : earlier.reading ≤ later.reading ↔ earlier ≤ later := by
  have first := earlier.position_reading
  have second := later.position_reading
  have firstNanos := earlier.nanos_reading_lt
  have secondNanos := later.nanos_reading_lt
  show _ < _ ∨ _ = _ ∧ (earlier.reading.nanos : Nat) ≤ later.reading.nanos ↔ earlier.nanos ≤ later.nanos
  unfold ClockReading.position at first second
  unfold Duration.nanosPerSecond at *
  omega

/-- A clock that shows timestamps and does not go back is steady. -/
theorem steady_readings (onward : times.Pairwise (· ≤ ·)) : ClockReading.Steady (times.map reading) := by
  refine ClockReading.steady_of_le ?_ (onward.map reading fun _ _ => reading_le_reading.2)
  rintro reading member leaps
  obtain ⟨time, -, rfl⟩ := List.mem_map.1 member
  exact absurd time.nanos_reading_lt (Nat.not_lt.2 (of_decide_eq_true leaps))

end Timestamp

end Community
