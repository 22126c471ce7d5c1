/-
This file says what a history of events amounts to. A history lists events with the times at which they were
recorded, the earliest first. The figures of a day are sums over its events, whatever came before; only the
gauge of open requests is about the whole history. The day's peak is the greatest value to which the gauge
was raised on that day. How the service counts is not used here.
-/

import Mathlib.Algebra.BigOperators.Group.List.Basic
import Mathlib.Algebra.Ring.Int.Defs
import Mathlib.Data.Finset.Card
import Mathlib.Order.Bounds.Basic
import Community.Time.Timestamp

namespace Community.Metrics

/-! ### Events -/

/-- A finished request as it is reported. -/
structure Call where
  endpoint : String
  latencyMs : Int64
  success : Bool
  error : Bool
  deriving DecidableEq

/-- What can happen to the counts of a day. -/
inductive Event
  | login (user : UInt64)
  | register
  | request (call : Call)
  /-- A request begins. -/
  | opened
  /-- A request ends. -/
  | closed
  /-- Somebody asks for the figures. -/
  | looked
  deriving DecidableEq

/-- The user of a login. -/
def Event.user? : Event → Option UInt64
  | .login user => some user
  | _ => none

/-- The call of a finished request. -/
def Event.call? : Event → Option Call
  | .request call => some call
  | _ => none

/-- Events with the times at which they were recorded, the earliest first. -/
abbrev History := List (Timestamp × Event)

/-! ### Figures of some events -/

section Figures

variable (events : List Event)

/-- The users who logged in. -/
def users : Finset UInt64 :=
  (events.filterMap Event.user?).toFinset

/-- The number of registrations. -/
def registrations : Nat :=
  events.count .register

/-- The finished requests. -/
def calls : List Call :=
  events.filterMap Event.call?

/-- The number of requests. -/
def requests : Nat :=
  (calls events).length

/-- The number of requests that count as successful. -/
def successes : Nat :=
  (calls events).countP Call.success

/-- The number of requests that count as errors. -/
def errors : Nat :=
  (calls events).countP Call.error

/-- The sum of all latencies, as a whole number of any size. -/
def latency : Int :=
  ((calls events).map fun call => call.latencyMs.toInt).sum

/-- The number of requests of an endpoint. -/
def callsOf (endpoint : String) : Nat :=
  ((calls events).map Call.endpoint).count endpoint

end Figures

theorem successes_le_requests (events : List Event) : successes events ≤ requests events :=
  List.countP_le_length

/-! ### Figures of a history -/

/-- The events of a day. -/
def on (date : Date) (history : History) : List Event :=
  (history.filter fun entry => entry.1.date = date).map Prod.snd

/-- The requests that are open after an event; ending one when there is none changes nothing. -/
def Event.gauge (current : Nat) : Event → Nat
  | .opened => current + 1
  | .closed => current - 1
  | _ => current

/-- The requests that are open after a history. -/
def gauge (history : History) : Nat :=
  history.foldl (fun current entry => entry.2.gauge current) 0

/-- The values to which the gauge was raised on a day. -/
def reached (date : Date) (history : History) : Set Nat :=
  {value | ∃ before time after, history = before ++ (time, .opened) :: after ∧ time.date = date ∧
    value = gauge before + 1}

/-! ### The same event again and again -/

theorem on_replicate (count : Nat) (time : Timestamp) (event : Event) :
    on time.date (List.replicate count (time, event)) = List.replicate count event := by
  rw [on, List.filter_replicate, if_pos (decide_eq_true rfl), List.map_replicate]

theorem calls_replicate (count : Nat) (call : Call) :
    calls (List.replicate count (.request call)) = List.replicate count call :=
  List.filterMap_replicate_of_some rfl

theorem requests_replicate (count : Nat) (call : Call) :
    requests (List.replicate count (.request call)) = count := by
  rw [requests, calls_replicate, List.length_replicate]

theorem successes_replicate (count : Nat) {call : Call} (success : call.success) :
    successes (List.replicate count (.request call)) = count := by
  rw [successes, calls_replicate, List.countP_replicate, if_pos success]

/-! ### One more event -/

variable {date : Date} {history : History} {time : Timestamp} {events : List Event} {event : Event}

theorem mem_users_concat {user : UInt64} :
    user ∈ users (events ++ [event]) ↔ user ∈ users events ∨ event.user? = some user := by
  simp only [users, List.filterMap_append, List.mem_toFinset, List.mem_append, List.mem_filterMap,
    List.mem_singleton, exists_eq_left]

theorem registrations_concat :
    registrations (events ++ [event]) = registrations events + if event = .register then 1 else 0 := by
  simp [registrations, List.count_singleton]

theorem calls_concat : calls (events ++ [event]) = calls events ++ event.call?.toList := by
  rw [calls, List.filterMap_append]
  cases event <;> rfl

theorem on_concat_of_eq (today : time.date = date) :
    on date (history ++ [(time, event)]) = on date history ++ [event] := by
  simp [on, today]

theorem on_concat_of_ne (otherDay : time.date ≠ date) :
    on date (history ++ [(time, event)]) = on date history := by
  simp [on, otherDay]

theorem gauge_concat : gauge (history ++ [(time, event)]) = event.gauge (gauge history) := by
  simp [gauge]

theorem mem_reached_concat {value : Nat} :
    value ∈ reached date (history ++ [(time, event)]) ↔
      value ∈ reached date history ∨ event = .opened ∧ time.date = date ∧ value = gauge history + 1 := by
  constructor
  · rintro ⟨before, moment, after, split, today, rfl⟩
    rcases List.eq_nil_or_concat after with rfl | ⟨earlier, last, rfl⟩
    · obtain ⟨rfl, same⟩ := List.append_inj' split rfl
      obtain ⟨rfl, rfl⟩ := Prod.mk.inj (List.cons.inj same).1
      exact Or.inr ⟨rfl, today, rfl⟩
    · rw [List.concat_eq_append, ← List.cons_append, ← List.append_assoc] at split
      exact Or.inl ⟨before, moment, earlier, (List.append_inj' split rfl).1, today, rfl⟩
  · rintro (⟨before, moment, after, rfl, today, rfl⟩ | ⟨rfl, today, rfl⟩)
    · exact ⟨before, moment, after ++ [(time, event)], by simp, today, rfl⟩
    · exact ⟨history, time, [], rfl, today, rfl⟩

end Community.Metrics
