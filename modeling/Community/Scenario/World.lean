/-
This file holds everything a scenario acts on: the services, what they depend on, the clocks, the rules, and
the work under way. Monotonic time runs on the timeline; the wall clock runs along with it but can be set. The
services read either the wall clock itself or a clock that is set to it before and after every step.
-/

import Community.Blob.Store
import Community.Cache.Service
import Community.Catalog.Repository
import Community.Metrics.Telemetry
import Community.Scenario.Strand
import Community.Upload.Reading

namespace Community.Scenario

/-- How many calls have reached the repository. -/
structure RepositoryCalls where
  categories : Nat := 0
  tags : Nat := 0
  articles : Nat := 0
  deriving DecidableEq, Repr

/-- The background tasks that a shutdown awaits, and the token that asks them to stop. -/
structure TaskSet where
  token : TokenId
  members : List StrandId := []

/-- What can be read off the figures at any moment without a new day beginning. -/
structure Gauges where
  openRequests : Nat
  onlineUsers : Nat
  qps : Nat
  lastErrorTime : Option String
  uptimeSecs : Int

/-- Everything a scenario acts on. -/
structure World where
  config : Config
  timeline : Timeline := {}
  /-- The wall clock, in milliseconds since the epoch, at the start of the timeline. -/
  wallAtStart : Int
  /-- Do the services read the wall clock itself? -/
  followsWall : Bool := false
  /-- The other clock that the services may read. -/
  manualClock : Int
  /-- Can tasks run in the background? -/
  hasRuntime : Bool := true
  repository : Repository := {}
  calls : RepositoryCalls := {}
  cache : Cache.Service
  telemetry : Metrics.Telemetry
  guards : Table String Metrics.Guard := ∅
  uploads : Upload.Coordinator
  blobs : Blob.Store
  rules : List Rule := []
  tasks : TaskSet
  strands : Table StrandId Strand := ∅
  nextStrand : StrandId := 1
  /-- The strands that are given up as soon as they wait. -/
  doomed : List StrandId := []
  /-- The results of the steps that rules have run during the current step, the last one first. -/
  nested : List Result := []
  /-- The uploads that steps have named so far. -/
  namedUploads : List String := []

namespace World

/-! ### Clocks -/

/-- The wall clock, in milliseconds since the epoch. -/
def wall (world : World) : Int :=
  world.wallAtStart + world.timeline.now

/-- Sets the wall clock. -/
def setWall (world : World) (millis : Int) : World :=
  { world with wallAtStart := millis - world.timeline.now }

/-- Sets the other clock to the wall clock. -/
def syncClock (world : World) : World :=
  { world with manualClock := world.wall }

/-- The time as the services read it. -/
def clock (world : World) : Timestamp :=
  .ofMillis (if world.followsWall then world.wall else world.manualClock)

/-- Can the wall clock not be read? It tells no time before the epoch, and none past the last date. -/
def wallFails (world : World) : Bool :=
  world.wall < 0 || !(Timestamp.ofMillis world.wall).isValid

/-- Can the services not read their clock? -/
def clockFails (world : World) : Bool :=
  world.followsWall && world.wallFails

/-- The time as the caches read it. -/
def cacheTime (world : World) : Nat :=
  Cache.timeOfClock world.wall

/-- The gauges as they stand, unless the clock fails. -/
def gauges? (world : World) : Option Gauges :=
  let realtime := world.telemetry.realtime
  if world.clockFails then none
  else
    some {
      openRequests := world.telemetry.daily.currentConcurrent
      onlineUsers := realtime.onlineUsers
      qps := realtime.currentQps world.clock
      lastErrorTime := realtime.lastErrorTime
      uptimeSecs := realtime.uptimeSecs world.clock }

/-! ### Rules -/

/-- The first rule that applies to a call, and the rules with it used once. -/
def takeRule? (target : Target) (path : String) : List Rule → Option (Rule × List Rule)
  | [] => none
  | rule :: rest =>
    if rule.applies target path then some (rule, rule.used :: rest)
    else (takeRule? target path rest).map fun (found, rest) => (found, rule :: rest)

/-- The rule that intervenes in a call, which is thereby used once. -/
def useRule (world : World) (target : Target) (path : String) : World × Option Rule :=
  match takeRule? target path world.rules with
  | some (rule, rules) => ({ world with rules }, some rule)
  | none => (world, none)

/-! ### Tasks -/

/-- Adds a strand of work. -/
def spawn (world : World) (strand : Strand) : World × StrandId :=
  ({ world with
      strands := world.strands.insert world.nextStrand strand
      nextStrand := world.nextStrand + 1 }, world.nextStrand)

/-- Begins a new set of tasks; those of the old one go on, and no shutdown asks them to stop. -/
def renewTasks (world : World) : World :=
  let (forest, token) := world.timeline.forest.root
  { world with timeline.forest := forest, tasks := { token } }

/-- Adds a strand of work to the tasks that a shutdown awaits. -/
def spawnTask (world : World) (strand : Strand) : World :=
  let (world, number) := world.spawn strand
  { world with tasks.members := world.tasks.members ++ [number] }

/-- Is a strand over? -/
def isOver (world : World) (strand : StrandId) : Bool :=
  !world.strands.contains strand

/-- Gives a strand up: it goes on to its next wait at most. A strand that waits already still counts as a
running task until its next turn. -/
def abort (world : World) (strand : StrandId) : World :=
  { world with doomed := strand :: world.doomed }

/-- Takes a strand out of the work under way. -/
def leave (world : World) (strand : StrandId) : World :=
  { world with
    strands := world.strands.erase strand
    doomed := world.doomed.filter (· ≠ strand) }

/-- The number of background tasks that are running, pending cancellations included. -/
def runningTasks (world : World) : Nat :=
  (world.strands.erase 0).size + world.timeline.alarms.length

end World

end Community.Scenario
