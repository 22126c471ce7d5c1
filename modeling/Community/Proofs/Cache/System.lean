/-
This file lets reads through the cache run side by side. A system is the cache service, its clock and the loads
that have begun and are not over. A read looks at its slot, and if nothing usable is there it begins a load; a
warm-up loads one slot after the other without looking. When a load ends its value is put into the slot, and
the caller of a read is given it. In between anything may happen: other reads, invalidations and upkeep. A run
is a list of such events, so every order in which they can meet is a run.
-/

import Mathlib.Logic.Function.Basic
import Community.Proofs.Cache.Entries

namespace Community.Cache

/-! ### Subjects and what can be invalidated -/

/-- The group and the key of a subject's slot. -/
def Subject.place : Subject → Group × String
  | .categories => (.global, Key.categories)
  | .tags => (.global, Key.tags)
  | .article id viewer => (.article, Key.articleDetail id viewer)
  | .user id _ => (.user, Key.user id)
  | .list key _ => (.list, key)

/-- How the content of a subject is written. -/
def Subject.codec : (subject : Subject) → Codec subject.Content
  | .categories => .categories
  | .tags => .tags
  | .article .. => .article
  | .user _ kind => .payload kind
  | .list _ kind => .payload kind

/-- What can be invalidated: one kind of content, one entity, or all that is cached. -/
inductive Target where
  | categories
  | tags
  | article (id : UInt64)
  | user (id : UInt64)
  | list (key : String)
  | everything
  deriving DecidableEq

/-- Is the subject among what is invalidated? -/
def Target.Covers : Target → Subject → Prop
  | .categories, subject => subject = .categories
  | .tags, subject => subject = .tags
  | .article id, subject => ∃ viewer, subject = .article id viewer
  | .user id, subject => ∃ kind, subject = .user id kind
  | .list key, subject => ∃ kind, subject = .list key kind
  | .everything, _ => True

/-- Drops what is invalidated. -/
def Service.invalidate (service : Service) : Target → Service
  | .categories => service.invalidateCategories
  | .tags => service.invalidateTags
  | .article id => (service.invalidateArticle id).1
  | .user id => service.invalidateUser id
  | .list key => service.invalidateList key
  | .everything => service.clearAll

/-! ### Systems and their events -/

/-- What a load is for: to answer a read, or to warm up a slot and then the others. -/
inductive Purpose where
  | read
  | warm (rest : List Subject)

/-- What is to be loaded afterwards. -/
def Purpose.rest : Purpose → List Subject
  | .read => []
  | .warm rest => rest

/-- A load in progress. -/
structure Load where
  subject : Subject
  purpose : Purpose

/-- A cache in operation. Loads are numbered in the order in which they begin. -/
structure System where
  service : Service
  clock : Nat
  /-- How many loads have begun so far. -/
  begun : Nat := 0
  loads : Nat → Option Load := fun _ => none

/-- What each load would yield that ends now. -/
abbrev Sources := (subject : Subject) → Outcome subject.Content

/-- Sources that yield an outcome for one subject and nothing for the others. -/
def Sources.only (subject : Subject) (outcome : Outcome subject.Content) : Sources :=
  fun other => if same : subject = other then same ▸ outcome else .error .serialization

/-- What can happen next. -/
inductive Event where
  /-- The clock is set. -/
  | tick (now : Nat)
  | read (subject : Subject)
  | warmUp
  /-- A load ends. -/
  | settle (number : Nat) (sources : Sources)
  | invalidate (target : Target)
  | prune
  | cleanup
  | setOnlineCount (count : Int64)
  | getOnlineCount

/-- What the caller of a read is given. -/
structure Returned where
  subject : Subject
  outcome : Outcome subject.Content

namespace System

/-- A system in which nothing has happened yet. -/
def initial (config : CacheConfig) (clock : Nat) : System where
  service := .create config
  clock

/-- Begins a load. -/
def start (system : System) (load : Load) : System :=
  { system with
    begun := system.begun + 1
    loads := Function.update system.loads system.begun (some load) }

/-- Ends a load, which leaves the service as given. -/
def finish (system : System) (number : Nat) (service : Service) : System :=
  { system with service, loads := Function.update system.loads number none }

/-- Begins the first of the loads that a warm-up has yet to make. -/
def warm (system : System) : List Subject → System
  | [] => system
  | subject :: rest => system.start ⟨subject, .warm rest⟩

/-- Carries out an event. The end of a load that is not in progress is none: nothing happens. -/
def step (system : System) : Event → System × Option Returned
  | .tick now => ({ system with clock := now }, none)
  | .read subject =>
    match system.service.look system.clock subject with
    | (service, some content) => ({ system with service }, some ⟨subject, .ok content⟩)
    | (service, none) => ({ system with service }.start ⟨subject, .read⟩, none)
  | .warmUp => (system.warm [.categories, .tags], none)
  | .settle number sources =>
    match system.loads number with
    | none => (system, none)
    | some load =>
      let (service, outcome) :=
        system.service.settle system.clock load.subject (sources load.subject)
      match load.purpose with
      | .read => (system.finish number service, some ⟨load.subject, outcome⟩)
      | .warm rest => ((system.finish number service).warm rest, none)
  | .invalidate target => ({ system with service := system.service.invalidate target }, none)
  | .prune => ({ system with service := (system.service.pruneIndex system.clock).1 }, none)
  | .cleanup => ({ system with service := (system.service.cleanup system.clock).1 }, none)
  | .setOnlineCount count =>
    ({ system with service := system.service.setOnlineCount system.clock count }, none)
  | .getOnlineCount =>
    ({ system with service := (system.service.getOnlineCount system.clock).1 }, none)

/-- The system after an event. -/
def next (system : System) (event : Event) : System :=
  (system.step event).1

/-- The system after some events. -/
def run (system : System) : List Event → System
  | [] => system
  | event :: rest => (system.next event).run rest

/-- The clock does not go back. -/
def Forward (system : System) : Event → Prop
  | .tick now => system.clock ≤ now
  | _ => True

/-- Does the clock never go back in the course of some events? -/
def RunsForward (system : System) : List Event → Prop
  | [] => True
  | event :: rest => system.Forward event ∧ RunsForward (system.next event) rest

variable {system : System} {event : Event}

theorem run_append (system : System) (earlier later : List Event) :
    system.run (earlier ++ later) = (system.run earlier).run later := by
  induction earlier generalizing system with
  | nil => rfl
  | cons event rest inductionHypothesis => exact inductionHypothesis (system.next event)

theorem runsForward_append {earlier later : List Event} :
    system.RunsForward (earlier ++ later) ↔
      system.RunsForward earlier ∧ (system.run earlier).RunsForward later := by
  induction earlier generalizing system with
  | nil => exact ⟨fun forward => ⟨trivial, forward⟩, fun forward => forward.2⟩
  | cons event rest inductionHypothesis =>
    rw [List.cons_append, RunsForward, RunsForward, run, inductionHypothesis, and_assoc]

/-! ### What an event does -/

@[simp] theorem service_warm (rest : List Subject) : (system.warm rest).service = system.service := by
  cases rest <;> rfl

@[simp] theorem clock_warm (rest : List Subject) : (system.warm rest).clock = system.clock := by
  cases rest <;> rfl

theorem next_warmUp (system : System) : system.next .warmUp = system.warm [.categories, .tags] := rfl

/-- After a read there is at most one more load in progress. -/
theorem next_read (system : System) (subject : Subject) :
    let looked := { system with service := (system.service.look system.clock subject).1 }
    system.next (.read subject) = looked ∨ system.next (.read subject) = looked.start ⟨subject, .read⟩ := by
  unfold next step
  dsimp only
  split
  · next found => exact Or.inl (by rw [found])
  · next missed => exact Or.inr (by rw [missed])

theorem service_read (subject : Subject) :
    (system.next (.read subject)).service = (system.service.look system.clock subject).1 := by
  rcases system.next_read subject with found | missed
  · rw [found]
  · rw [missed]
    rfl

theorem next_settle_none {number : Nat} {sources : Sources} (idle : system.loads number = none) :
    system.next (.settle number sources) = system := by
  unfold next step
  simp only [idle]

/-- When a load ends its slot is filled and the next load of a warm-up begins. -/
theorem next_settle {number : Nat} {sources : Sources} {load : Load}
    (flies : system.loads number = some load) :
    system.next (.settle number sources) =
      (system.finish number (system.service.settle system.clock load.subject
        (sources load.subject)).1).warm load.purpose.rest := by
  unfold next step
  simp only [flies]
  cases load.purpose <;> rfl

/-- The service after a load has ended, whatever it was for. -/
theorem service_settle {number : Nat} {sources : Sources} {load : Load}
    (flies : system.loads number = some load) :
    (system.next (.settle number sources)).service =
      (system.service.settle system.clock load.subject (sources load.subject)).1 := by
  rw [next_settle flies, service_warm]
  rfl

theorem clock_next (event : Event) :
    (system.next event).clock = match event with
      | .tick now => now
      | _ => system.clock := by
  cases event with
  | tick | invalidate | prune | cleanup | setOnlineCount | getOnlineCount => rfl
  | warmUp => exact clock_warm _
  | read subject =>
    rcases system.next_read subject with found | missed
    · rw [found]
    · rw [missed]
      rfl
  | settle number sources =>
    cases flies : system.loads number with
    | none => rw [next_settle_none flies]
    | some load =>
      rw [next_settle flies, clock_warm]
      rfl

theorem config_next (event : Event) : (system.next event).service.config = system.service.config := by
  cases event with
  | tick | prune | cleanup => rfl
  | read subject =>
    rw [service_read]
    exact (Service.frames_lookSlot ..).config
  | warmUp => rw [next_warmUp, service_warm]
  | settle number sources =>
    cases flies : system.loads number with
    | none => rw [next_settle_none flies]
    | some load => rw [service_settle flies, Service.config_settle]
  | invalidate target =>
    cases target with
    | categories | tags | user | list => rfl
    | article article => exact Service.config_invalidateArticle ..
    | everything => rfl
  | setOnlineCount => exact (Service.frames_fillSlot ..).config
  | getOnlineCount => exact (Service.frames_lookSlot ..).config

theorem config_run (events : List Event) : (system.run events).service.config = system.service.config := by
  induction events generalizing system with
  | nil => rfl
  | cons event rest inductionHypothesis => exact inductionHypothesis.trans (config_next event)

theorem clock_le_run {events : List Event} (forward : system.RunsForward events) :
    system.clock ≤ (system.run events).clock := by
  induction events generalizing system with
  | nil => exact Nat.le_refl _
  | cons event rest inductionHypothesis =>
    refine Nat.le_trans ?_ (inductionHypothesis forward.2)
    rw [clock_next]
    cases event with
    | tick now => exact forward.1
    | _ => exact Nat.le_refl _

end System

end Community.Cache
