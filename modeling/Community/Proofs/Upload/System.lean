/-
This file lets calls on uploads run side by side. A system is the coordinator with its blob store, a clock and
the calls that have begun and are not over. It moves by events, each of which nothing can come between: the
clock is set, an upload is announced, a call begins, the store deals with the request of a call, or a call
takes up its answer and goes on. A run is a list of events, so every order in which calls can meet between
their requests is a run, and so is every way in which the store can fail them.
-/

import Mathlib.Logic.Function.Basic
import Community.Blob.Memory
import Community.Upload.Call

namespace Community.Upload

open Community.Blob

/-! ### Requests and what becomes of them -/

/-- What becomes of a request to the store. -/
inductive Fate where
  /-- It is carried out and answered. -/
  | answered
  /-- It is not carried out. -/
  | refused (error : ServiceError)
  /-- It is carried out, but a failure is all that the caller hears of it. -/
  | lost (error : ServiceError)
  deriving DecidableEq

/-- Deals with a request. -/
def Fate.meet (store : Memory) (request : Request) : Fate → Memory × Outcome request.Answer
  | answered => store.answer request
  | refused error => (store, .error error)
  | lost error => ((store.answer request).1, .error error)

/-- A call in progress: how it was made, where it stands, and the answer to its request once there is one. -/
structure Flight where
  call : Call
  pending : Pending
  answer : Option (Outcome pending.request.Answer) := none

/-! ### Systems and their events -/

/-- Uploads in operation. Calls are numbered in the order in which they begin. -/
structure System where
  coordinator : Coordinator
  store : Memory
  clock : Timestamp
  /-- How many calls have begun so far. -/
  begun : Nat := 0
  flights : Nat → Option Flight := fun _ => none

/-- What can happen next. -/
inductive Event where
  /-- The clock is set. -/
  | tick (now : Timestamp)
  | announce (user : UInt64) (announced : Announcement)
  | begin (call : Call)
  /-- A sweep begins that takes the abandoned sessions in a certain order. -/
  | sweep (order : List (String × SessionId))
  /-- The store deals with what a call waits for. -/
  | serve (number : Nat) (fate : Fate)
  /-- A call goes on with its answer. -/
  | resume (number : Nat)
  deriving DecidableEq

instance decidableEqExcept {ε α : Type} [DecidableEq ε] [DecidableEq α] : DecidableEq (Except ε α)
  | .ok a, .ok b => decidable_of_iff (a = b) ⟨congrArg _, Except.ok.inj⟩
  | .error a, .error b => decidable_of_iff (a = b) ⟨congrArg _, Except.error.inj⟩
  | .ok _, .error _ | .error _, .ok _ => isFalse nofun

/-- What a caller is told by an event. -/
inductive Notice where
  | announced (user : UInt64) (announced : Announcement) (outcome : Outcome Receipt)
  | returned (number : Nat) (call : Call) (outcome : Outcome Reply)
  deriving DecidableEq

/-- Is the event a part of the call with a number, or of none? -/
def Event.isOnlyOf (number : Nat) : Event → Bool
  | tick _ => true
  | serve other _ => other = number
  | resume other => other = number
  | announce .. => false
  | begin _ => false
  | sweep _ => false

namespace System

/-- A system in which nothing has happened yet; the store may hold blobs already. -/
def initial (config : UploadConfig) (store : Memory) (clock : Timestamp) : System where
  coordinator := { config }
  store
  clock

/-- Enters where a call stands after one of its parts. -/
def settle (system : System) (number : Nat) (call : Call) :
    Coordinator × Progress → System × Option Notice
  | (coordinator, .waiting pending) =>
    ({ system with
        coordinator
        flights := Function.update system.flights number (some { call, pending }) }, none)
  | (coordinator, .done outcome) =>
    ({ system with
        coordinator
        flights := Function.update system.flights number none },
      some (.returned number call outcome))

/-- Enters a call after the part before its first request. -/
def enter (system : System) (call : Call) (part : Coordinator × Progress) :
    System × Option Notice :=
  { system with begun := system.begun + 1 }.settle system.begun call part

/-- Carries out an event. An order that is not one of the abandoned sessions, an answer to a call that waits
for none and a call that has no answer yet are no events: nothing happens. -/
def step (system : System) : Event → System × Option Notice
  | .tick now => ({ system with clock := now }, none)
  | .announce user announced =>
    let (coordinator, outcome) := system.coordinator.announce user announced system.clock
    ({ system with coordinator }, some (.announced user announced outcome))
  | .begin call => system.enter call (system.coordinator.begin system.clock call)
  | .sweep order =>
    if order.Perm (system.coordinator.abandoned system.clock) then
      system.enter .sweep (Coordinator.nextSweep system.clock {} order system.coordinator)
    else (system, none)
  | .serve number fate =>
    match system.flights number with
    | some { call, pending, answer := none } =>
      let (store, answer) := fate.meet system.store pending.request
      ({ system with
          store
          flights :=
            Function.update system.flights number (some { call, pending, answer := some answer }) },
        none)
    | _ => (system, none)
  | .resume number =>
    match system.flights number with
    | some { call, pending, answer := some answer } =>
      system.settle number call (system.coordinator.resume system.clock pending answer)
    | _ => (system, none)

/-- The system after an event. -/
def next (system : System) (event : Event) : System :=
  (system.step event).1

/-- The system after some events. -/
def run (system : System) : List Event → System
  | [] => system
  | event :: rest => (system.next event).run rest

/-- What callers are told in the course of some events. -/
def notices (system : System) : List Event → List Notice
  | [] => []
  | event :: rest => (system.step event).2.toList ++ (system.next event).notices rest

/-- The rounds of a call: the store answers it and it goes on, so many times. -/
def rounds (number : Nat) : Nat → List Event
  | 0 => []
  | count + 1 => .serve number .answered :: .resume number :: rounds number count

/-- What comes of some events after a step: where they lead, and what callers are told from the step on. -/
def follow (moved : System × Option Notice) (events : List Event) : System × List Notice :=
  (moved.1.run events, moved.2.toList ++ moved.1.notices events)

/-- The store deals with what a call waits for, some time passes, and the call goes on. -/
def exchange (number : Nat) (fate : Fate) (now : Timestamp) : List Event :=
  [.serve number fate, .tick now, .resume number]

/-- Do all events of a run happen in accordance with a law? -/
def Obeys (law : System → Event → Prop) (system : System) : List Event → Prop
  | [] => True
  | event :: rest => law system event ∧ Obeys law (system.next event) rest

/-- A run that obeys a law leads to the system from one in which nothing has happened yet. -/
def Reachable (law : System → Event → Prop) (system : System) : Prop :=
  ∃ config store clock events, (initial config store clock).Obeys law events ∧
    (initial config store clock).run events = system

/-! ### Laws of a run -/

/-- Anything may happen; the clock may even go back. -/
def Lawless (_ : System) (_ : Event) : Prop :=
  True

/-- The clock does not go back. -/
def Forward (system : System) : Event → Prop
  | .tick now => system.clock ≤ now
  | _ => True

instance (system : System) (event : Event) : Decidable (system.Forward event) := by
  cases event <;> unfold Forward <;> infer_instance

/-- Is the call with a number a sweep in progress? -/
def isSweeping (system : System) (number : Nat) : Bool :=
  match system.flights number with
  | some { pending := .sweep .., .. } => true
  | _ => false

/-- While a sweep is in progress no other call begins or goes on. -/
def Undisturbed (system : System) (event : Event) : Prop :=
  ∀ number < system.begun, system.isSweeping number → event.isOnlyOf number

instance (system : System) (event : Event) : Decidable (system.Undisturbed event) :=
  inferInstanceAs (Decidable (∀ number < system.begun, _ → _))

instance decidableObeys (law : System → Event → Prop)
    [∀ system event, Decidable (law system event)] :
    (system : System) → (events : List Event) → Decidable (system.Obeys law events)
  | _, [] => inferInstanceAs (Decidable True)
  | system, event :: rest =>
    have := decidableObeys law (system.next event) rest
    inferInstanceAs (Decidable (_ ∧ _))

/-! ### Runs in sequence -/

variable {law : System → Event → Prop} {system : System}

theorem run_append (system : System) (earlier later : List Event) :
    system.run (earlier ++ later) = (system.run earlier).run later := by
  induction earlier generalizing system with
  | nil => rfl
  | cons event rest inductionHypothesis => exact inductionHypothesis (system.next event)

theorem notices_append (system : System) (earlier later : List Event) :
    system.notices (earlier ++ later) =
      system.notices earlier ++ (system.run earlier).notices later := by
  induction earlier generalizing system with
  | nil => rfl
  | cons event rest inductionHypothesis =>
    rw [List.cons_append, notices, notices, run, inductionHypothesis, List.append_assoc]

theorem obeys_append {earlier later : List Event} :
    system.Obeys law (earlier ++ later) ↔
      system.Obeys law earlier ∧ (system.run earlier).Obeys law later := by
  induction earlier generalizing system with
  | nil => exact ⟨fun obeys => ⟨trivial, obeys⟩, fun obeys => obeys.2⟩
  | cons event rest inductionHypothesis =>
    rw [List.cons_append, Obeys, Obeys, run, inductionHypothesis, and_assoc]

theorem obeys_lawless (system : System) (events : List Event) : system.Obeys Lawless events := by
  induction events generalizing system with
  | nil => trivial
  | cons event rest inductionHypothesis => exact ⟨trivial, inductionHypothesis (system.next event)⟩

/-- What each event keeps, a run keeps. -/
theorem Obeys.keeps {Invariant : System → Prop}
    (each : ∀ {system event}, Invariant system → law system event → Invariant (system.next event))
    {events : List Event} (holds : Invariant system) (obeys : system.Obeys law events) :
    Invariant (system.run events) := by
  induction events generalizing system with
  | nil => exact holds
  | cons event rest inductionHypothesis =>
    exact inductionHypothesis (each holds obeys.1) obeys.2

/-- What holds at first and is kept by each event holds of every system that can be reached. -/
theorem Reachable.holds {Invariant : System → Prop} (reachable : system.Reachable law)
    (first : ∀ config store clock, Invariant (initial config store clock))
    (each : ∀ {system event}, Invariant system → law system event → Invariant (system.next event)) :
    Invariant system := by
  obtain ⟨config, store, clock, events, obeys, rfl⟩ := reachable
  exact Obeys.keeps each (first config store clock) obeys

end System

end Community.Upload
