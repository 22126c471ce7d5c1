/-
This file counts what happens in a day: users, registrations, requests with their latency and endpoints, and
how many requests are open at once. The first event of a new UTC day, and the first look at the figures,
starts all counts afresh. Only the gauge of open requests goes on, because a request that began yesterday
still has to end; ending one never starts a day.
-/

import Community.Table
import Community.Time.Timestamp

namespace Community.Metrics

/-- The counts of one day. -/
structure Daily where
  date : Date
  activeUsers : Table UInt64 Unit := ∅
  endpointCalls : Table String Nat := ∅
  totalRequests : Nat := 0
  successRequests : Nat := 0
  errorRequests : Nat := 0
  /-- The sum of all latencies, in a word of 64 bits. -/
  totalLatencyMs : Int64 := 0
  newUsers : Nat := 0
  peakConcurrent : Nat := 0
  /-- The requests that are open now, over all days. -/
  currentConcurrent : Nat := 0

/-- The figures of a day and what is derived from them. -/
structure Today where
  date : Date
  activeUsers : Nat
  newUsers : Nat
  totalRequests : Nat
  successRequests : Nat
  errorRequests : Nat
  peakConcurrent : Nat
  currentConcurrent : Nat
  /-- The mean latency; zero without requests. -/
  avgLatencyMs : Float
  /-- The share of successful requests in percent; zero without requests. -/
  successRate : Float
  /-- The endpoint with the most calls. -/
  topEndpoint : Option String

namespace Daily

/-- No counts yet, on the day of a timestamp. -/
def create (now : Timestamp) : Daily :=
  { date := now.date }

/-- The counts on the day of a timestamp: as they are if it is their day, else fresh ones. -/
def rollOver (daily : Daily) (now : Timestamp) : Daily :=
  if daily.date = now.date then daily
  else { date := now.date, currentConcurrent := daily.currentConcurrent }

/-- Counts a user as active; a user counts once. -/
def recordLogin (daily : Daily) (now : Timestamp) (user : UInt64) : Daily :=
  let daily := daily.rollOver now
  { daily with activeUsers := daily.activeUsers.insert user () }

/-- Counts a registration. -/
def recordRegister (daily : Daily) (now : Timestamp) : Daily :=
  let daily := daily.rollOver now
  { daily with newUsers := daily.newUsers + 1 }

/-- Counts a finished request. -/
def recordRequest (daily : Daily) (now : Timestamp) (endpoint : String) (latencyMs : Int64)
    (success error : Bool) : Daily :=
  let daily := daily.rollOver now
  { daily with
    totalRequests := daily.totalRequests + 1
    totalLatencyMs := daily.totalLatencyMs + latencyMs
    successRequests := daily.successRequests + success.toNat
    errorRequests := daily.errorRequests + error.toNat
    endpointCalls :=
      daily.endpointCalls.insert endpoint ((daily.endpointCalls.get? endpoint).getD 0 + 1) }

/-- Opens a request, and raises the peak if there have never been so many open on this day. -/
def increment (daily : Daily) (now : Timestamp) : Daily :=
  let daily := daily.rollOver now
  let current := daily.currentConcurrent + 1
  { daily with currentConcurrent := current, peakConcurrent := max daily.peakConcurrent current }

/-- Closes a request; the gauge stays at zero when none is open. -/
def decrement (daily : Daily) : Daily :=
  { daily with currentConcurrent := daily.currentConcurrent - 1 }

/-- Of two endpoints with their calls the one that ranks higher: more calls, then the smaller name. -/
def higher (first second : String × Nat) : String × Nat :=
  if first.2 < second.2 ∨ first.2 = second.2 ∧ second.1 < first.1 then second else first

/-- The endpoint that ranks highest. -/
def topEndpoint (calls : Table String Nat) : Option String :=
  match calls.bindings with
  | [] => none
  | first :: rest => some (rest.foldl higher first).1

/-- A count divided by another one. -/
def ratio (part : Float) (count : Nat) : Float :=
  if count = 0 then 0.0 else part / count.toFloat

/-- The figures of the day of a timestamp. -/
def today (daily : Daily) (now : Timestamp) : Daily × Today :=
  let daily := daily.rollOver now
  (daily, {
    date := daily.date
    activeUsers := daily.activeUsers.size
    newUsers := daily.newUsers
    totalRequests := daily.totalRequests
    successRequests := daily.successRequests
    errorRequests := daily.errorRequests
    peakConcurrent := daily.peakConcurrent
    currentConcurrent := daily.currentConcurrent
    avgLatencyMs := ratio (Float.ofInt daily.totalLatencyMs.toInt) daily.totalRequests
    successRate := ratio (daily.successRequests.toFloat * 100.0) daily.totalRequests
    topEndpoint := topEndpoint daily.endpointCalls })

end Daily

end Community.Metrics
