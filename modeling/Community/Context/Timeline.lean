/-
This file moves time by hand. A timeline has a present, the tokens made so far, and cancellations that are
due later. Time goes forward by advancing it or by waiting for work under a context; whatever is due on the
way happens.

Work under a context goes on in polls. A poll looks at the context first: is it cancelled, and else, is its
deadline reached? Only if neither is the case the work is polled, and if something comes of it the wait is over.
What the work itself does in that poll is not looked at any more.
-/

import Community.Context

namespace Community

/-- A cancellation that is due at a millisecond. -/
structure Alarm where
  due : Nat
  token : TokenId
  deriving DecidableEq, Repr

/-- The present, in milliseconds since the start, with what is cancelled and what will be. -/
structure Timeline where
  now : Nat := 0
  forest : TokenForest := {}
  alarms : List Alarm := []

/-- What comes of a poll. -/
inductive Poll (α : Type) where
  | ready (value : α)
  | pending
  deriving DecidableEq, Repr

namespace RequestContext

variable {ω ρ α : Type}

/-- Polls work under a context, in a world that has a timeline. -/
def poll (context : RequestContext) (timeline : ω → Timeline) (work : ω → ω × Poll α) (world : ω) :
    ω × Poll (Except Interruption α) :=
  match context.interruption? (timeline world).forest (timeline world).now with
  | some cause => (world, .ready (.error cause))
  | none =>
    match work world with
    | (world, .ready value) => (world, .ready (.ok value))
    | (world, .pending) => (world, .pending)

/-- Polls work under a context in one round after the other, until something comes of it. Before each poll the world
goes on. -/
def await (context : RequestContext) (timeline : ω → Timeline) (goOn : ρ → ω → ω) (work : ρ → ω → ω × Poll α) :
    List ρ → ω → ω × Poll (Except Interruption α)
  | [], world => (world, .pending)
  | round :: rounds, world =>
    match context.poll timeline (work round) (goOn round world) with
    | (world, .ready result) => (world, .ready result)
    | (world, .pending) => await context timeline goOn work rounds world

end RequestContext

namespace Timeline

/-- The present as an instant. -/
def instant (timeline : Timeline) : Instant :=
  .ofMillis timeline.now

/-- Carries out the cancellations that are due. -/
def ring (timeline : Timeline) : Timeline :=
  let due := timeline.alarms.filter fun alarm => alarm.due ≤ timeline.now
  { timeline with
    forest := due.foldl (fun forest alarm => forest.cancel alarm.token) timeline.forest
    alarms := timeline.alarms.filter fun alarm => timeline.now < alarm.due }

/-- Goes on to a later moment. -/
def moveTo (timeline : Timeline) (time : Nat) : Timeline :=
  ring { timeline with now := max timeline.now time }

/-- Lets a number of milliseconds pass. -/
def advance (timeline : Timeline) (millis : Nat) : Timeline :=
  timeline.moveTo (timeline.now + millis)

/-- Cancels a token when a number of milliseconds has passed. -/
def cancelAfter (timeline : Timeline) (token : TokenId) (millis : Nat) : Timeline :=
  ring { timeline with alarms := timeline.alarms ++ [⟨timeline.now + millis, token⟩] }

/-- What comes, at a moment, of work that is done at a given time, if ever. -/
def doneBy (ready : Option Nat) (moment : Nat) : Poll Unit :=
  if ready.any (· ≤ moment) then .ready () else .pending

/-- Puts a moment in its place among moments in ascending order. -/
def insertMoment (moment : Nat) : List Nat → List Nat
  | [] => [moment]
  | first :: rest =>
    if moment ≤ first then moment :: first :: rest else first :: insertMoment moment rest

/-- The moments at which something can come of a wait for work that is done at a given time, if ever, in ascending
order. -/
def moments (timeline : Timeline) (context : RequestContext) (ready : Option Nat) : List Nat :=
  (timeline.now :: (context.deadlineMillis?.toList ++ ready.toList ++ timeline.alarms.map Alarm.due)).foldr
    insertMoment []

/-- Waits under a context for work that is done at a given time, if ever, with a poll at each of some moments. -/
def awaitAt (context : RequestContext) (ready : Option Nat) :
    List Nat → Timeline → Timeline × Poll (Except Interruption Unit) :=
  context.await id (fun moment timeline => timeline.moveTo moment)
    (fun _ timeline => (timeline, doneBy ready timeline.now))

/-- Waits under a context for work that is done at a given time, if ever. -/
def await (timeline : Timeline) (context : RequestContext) (ready : Option Nat) :
    Timeline × Poll (Except Interruption Unit) :=
  awaitAt context ready (timeline.moments context ready) timeline

/-- Waits under a context for a result that is there after some milliseconds, if ever, and tells what
interrupted the wait. -/
def run (timeline : Timeline) (context : RequestContext) (delay : Option Nat) :
    Timeline × Option Interruption :=
  match timeline.await context (delay.map (timeline.now + ·)) with
  | (timeline, .ready (.error cause)) => (timeline, some cause)
  | (timeline, _) => (timeline, none)

end Timeline

end Community
