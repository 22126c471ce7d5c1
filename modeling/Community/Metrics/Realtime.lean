/-
This file watches the present: who is online, how many requests a second brings, when the last error was and
how busy the process is.

Requests are counted in the second in which they arrive. The first request of a later second publishes the
finished count if that second follows at once, and zero if there was a gap, and begins a new count.
-/

import Community.Config
import Community.Table
import Community.Time.ClockReading

namespace Community.Metrics

/-- What is known about the present. -/
structure Realtime where
  config : MetricsConfig
  startedAt : ClockReading
  /-- The last activity of each user online. -/
  online : Table UInt64 ClockReading := ∅
  /-- The second, since the epoch, to which the running count belongs. -/
  countedSecond : Int := 0
  /-- The requests of that second so far. -/
  running : Nat := 0
  /-- The requests of the second before it. -/
  published : Nat := 0
  lastError : Option ClockReading := none

/-- How busy the process is. -/
structure SystemLoad where
  /-- The running tasks in percent of the configured baseline, at most 100. -/
  cpuPercent : Float

/-- All that is known about the present. -/
structure Snapshot where
  onlineUsers : Nat
  currentQps : Nat
  lastErrorTime : Option String
  system : SystemLoad
  uptimeSecs : Int

namespace Realtime

/-- Nothing has happened yet. -/
def create (config : MetricsConfig) (now : ClockReading) : Realtime :=
  { config, startedAt := now }

/-! ### Presence -/

/-- Marks a user as active now. User zero is nobody in particular and is not counted. -/
def recordActivity (realtime : Realtime) (now : ClockReading) (user : UInt64) : Realtime :=
  if user = 0 then realtime
  else { realtime with online := realtime.online.insert user now }

/-- The number of users online. -/
def onlineUsers (realtime : Realtime) : Nat :=
  realtime.online.size

/-- Does a user with that last activity stay online? One whose activity lies ahead, because the clock went
back, does. -/
def staysOnline (realtime : Realtime) (now lastSeen : ClockReading) : Bool :=
  now.since lastSeen ≤ realtime.config.onlineUserExpire.nanos

/-- Removes the users that have been idle for too long, and tells how many they were. -/
def sweepInactive (realtime : Realtime) (now : ClockReading) : Realtime × Nat :=
  let online := realtime.online.filter fun _ lastSeen => realtime.staysOnline now lastSeen
  ({ realtime with online }, realtime.online.size - online.size)

/-! ### Requests in a second -/

/-- Counts a request in the current second. -/
def recordRequest (realtime : Realtime) (now : ClockReading) : Realtime :=
  let second := now.seconds
  if realtime.countedSecond < second then
    { realtime with
      countedSecond := second
      running := 1
      published := if second = realtime.countedSecond + 1 then realtime.running else 0 }
  else
    { realtime with running := realtime.running + 1 }

/-- The requests of the last full second. -/
def currentQps (realtime : Realtime) (now : ClockReading) : Nat :=
  let second := now.seconds
  if second = realtime.countedSecond then realtime.published
  else if second = realtime.countedSecond + 1 then realtime.running
  else 0

/-! ### Errors and load -/

/-- Notes an error. -/
def recordError (realtime : Realtime) (now : ClockReading) : Realtime :=
  { realtime with lastError := some now }

/-- The time of the last error, to the second. -/
def lastErrorTime (realtime : Realtime) : Option String :=
  realtime.lastError.map ClockReading.write

/-- How busy the process is with a number of running tasks; idle when nobody can tell. -/
def systemLoad (realtime : Realtime) (running : Option Nat) : SystemLoad :=
  let baseline := (max realtime.config.cpuTaskBaseline 1).toFloat
  match running with
  | none => ⟨0.0⟩
  | some count =>
    let percent := count.toFloat / baseline * 100.0
    ⟨if percent < 100.0 then percent else 100.0⟩

/-- The whole seconds since the start. -/
def uptimeSecs (realtime : Realtime) (now : ClockReading) : Int :=
  (now.since realtime.startedAt).tdiv Duration.nanosPerSecond

/-- All that is known about the present. -/
def snapshot (realtime : Realtime) (now : ClockReading) (running : Option Nat) : Snapshot where
  onlineUsers := realtime.onlineUsers
  currentQps := realtime.currentQps now
  lastErrorTime := realtime.lastErrorTime
  system := realtime.systemLoad running
  uptimeSecs := realtime.uptimeSecs now

end Realtime

end Community.Metrics
