/-
This file follows a request from its beginning to its end and feeds the figures of the day and of the
present. A request that has begun is held by a guard; the guard is finished with the status of the response,
or dropped when there is none, and either way the request is no longer open.
-/

import Community.Metrics.Daily
import Community.Metrics.Realtime

namespace Community.Metrics

/-- The figures of the day and of the present. -/
structure Telemetry where
  daily : Daily
  realtime : Realtime

/-- An open request: its endpoint, and the millisecond of monotonic time at which it began. -/
structure Guard where
  endpoint : String
  startedMillis : Nat
  deriving DecidableEq, Repr

namespace Telemetry

/-- Opens a request. -/
def begin (telemetry : Telemetry) (now : Timestamp) (endpoint : String) (millis : Nat) :
    Telemetry × Guard :=
  ({ daily := telemetry.daily.increment now, realtime := telemetry.realtime.recordRequest now },
    ⟨endpoint, millis⟩)

/-- Gives a request up. -/
def drop (telemetry : Telemetry) : Telemetry :=
  { telemetry with daily := telemetry.daily.decrement }

/-- Is the status one of success? -/
def isSuccess (status : Nat) : Bool :=
  200 ≤ status && status < 300

/-- Is the status one of an error, of the client's or of the server's? -/
def isError (status : Nat) : Bool :=
  400 ≤ status

/-- Is the status one of an error of the server's? -/
def isServerError (status : Nat) : Bool :=
  500 ≤ status

/-- The milliseconds between two moments, in a word of 64 bits. -/
def latency (started millis : Nat) : Int64 :=
  Int64.ofInt (min (millis - started : Nat) Int64.maxValue.toInt)

/-- Closes a request with the status of its response: the request is counted, its user is active, and an
error of the server's is noted. -/
def finish (telemetry : Telemetry) (now : Timestamp) (guard : Guard) (status : Nat) (user : UInt64)
    (millis : Nat) : Telemetry :=
  let daily := telemetry.daily.recordRequest now guard.endpoint
    (latency guard.startedMillis millis) (isSuccess status) (isError status)
  let active := telemetry.realtime.recordActivity now user
  let realtime := if isServerError status then active.recordError now else active
  drop { daily, realtime }

end Telemetry

end Community.Metrics
