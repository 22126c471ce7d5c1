/-
This file repeats something at intervals. A recurrence comes due one period after it is started and one
period after each time it is taken up. One that is taken up on time keeps its rhythm: the next time is
counted from when it was due. One that is taken up late counts from the present, so that what was missed is
not made up for. A few milliseconds are not late.

A period without length recurs never, and neither does one whose first time lies beyond the last instant.
When a later time lies beyond the last instant the recurrence comes to rest.
-/

import Community.Time.Instant

namespace Community

/-- Something that recurs after each period. -/
structure Recurrence where
  period : Duration
  /-- When it is due; `none` when it has come to rest. -/
  due : Option Instant
  deriving DecidableEq, Repr

namespace Recurrence

/-- The delay that still counts as on time. -/
def tolerance : Duration := .ofMillis 5

/-- A recurrence that is first due one period from now. -/
def start? (now : Instant) (period : Duration) : Option Recurrence :=
  if period.isZero then none
  else (now.after? period).map fun first => ⟨period, some first⟩

/-- Is a time that was due by now more than the tolerance ago? -/
def isLate (due now : Instant) : Bool :=
  due.nanos + tolerance.nanos < now.nanos

/-- The recurrence after it has been taken up now. -/
def takeUp (recurrence : Recurrence) (now : Instant) : Recurrence :=
  { recurrence with
    due := recurrence.due.bind fun due =>
      (if isLate due now then now else due).after? recurrence.period }

end Recurrence

end Community
