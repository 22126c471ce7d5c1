/-
This file runs a scenario. Work goes on in turns: an active strand is taken as far as its next wait. When no
strand is active, one whose wait is over is woken, the scenario's own step before the background tasks and
these in the order in which their waits began; when there is none, time goes on to the next moment at which
something can happen. Strands that want everything else to have settled are woken only after all others, and
together. Before a step begins everything settles.
-/

import Community.Scenario.Play

namespace Community.Scenario.World

/-! ### One turn of a strand -/

/-- Waits for the next time of upkeep. -/
def awaitUpkeep (world : World) (frames : List Frame) (kind : Upkeep) (token : TokenId)
    (recurrence : Recurrence) : World × Strand :=
  (world, .wait (.upkeep kind token recurrence :: frames) (.cancellation token recurrence.due))

/-- Does the upkeep of a kind, unless it was asked to stop. Upkeep that cannot read the clock is over for
good. -/
def maintain (world : World) (frames : List Frame) (kind : Upkeep) (token : TokenId)
    (recurrence : Recurrence) : World × Strand :=
  if world.timeline.forest.isCancelled token then world.reply frames .unit
  else
    let recurrence := recurrence.takeUp world.timeline.instant
    match kind with
    | .caches =>
      let (cache, _) := world.cache.cleanup world.cacheTime
      awaitUpkeep { world with cache } frames kind token recurrence
    | .presence =>
      if world.clockFails then world.outOfRange frames
      else
        let (realtime, _) := world.telemetry.realtime.sweepInactive world.clock
        awaitUpkeep { world with telemetry.realtime := realtime } frames kind token recurrence
    | .uploads =>
      if world.clockFails then world.outOfRange frames
      else followUpload (.upkeep kind token recurrence :: frames) (world.beginUpload .sweep)

/-- Goes on with a call on uploads. -/
def turnUpload (world : World) (frames : List Frame) (call : Upload.Pending)
    (stage : Stage call.request.Answer) : World × Strand :=
  match world.visitStore call.request stage with
  | (world, .answered answer) => followUpload frames (world.answerUpload call answer)
  | (world, .waiting stage wait) => (world, .wait (.upload call stage :: frames) wait)
  | (world, .playing stage rule) =>
    (world, .resume (.play rule.steps rule.quiet :: .upload call stage :: frames))

/-- Goes on with a load. -/
def turnLoad (world : World) (frames : List Frame) (context : RequestContext)
    (subject : Cache.Subject) (source : Source subject) (purpose : Purpose)
    (stage : Stage subject.Content) : World × Strand :=
  match world.visitSource context source stage with
  | (world, .answered outcome) => world.endLoad frames context subject purpose outcome
  | (world, .waiting stage wait) =>
    (world, .wait (.load context subject source purpose stage :: frames) wait)
  | (world, .playing stage rule) =>
    (world, .resume
      (.play rule.steps rule.quiet :: .load context subject source purpose stage :: frames))

/-- Goes on with the steps of a rule. -/
def turnPlay (world : World) (frames : List Frame) (quiet : Bool) : List Step → World × Strand
  | [] => (world, .resume frames)
  | step :: rest => world.beginStep (.play rest quiet :: frames) step

/-- Notes the result of a step that a rule has run. -/
def record (world : World) (quiet : Bool) (result : Result) : World :=
  if quiet then world else { world with nested := result :: world.nested }

/-- Gives the frame on top of a strand its signal. -/
def turn (world : World) (frames : List Frame) (signal : Signal) : World × Strand :=
  match frames, signal with
  | .conclude result :: frames, .go => (world, .finish frames result)
  | .play rest quiet :: frames, .go => world.turnPlay frames quiet rest
  | .play rest quiet :: frames, .ended result =>
    (world.syncClock.record quiet result).turnPlay frames quiet rest
  | .upload call stage :: frames, .go => world.turnUpload frames call stage
  | .load context subject source purpose stage :: frames, .go =>
    world.turnLoad frames context subject source purpose stage
  | .load context subject _ purpose _ :: frames, .interrupted cause =>
    world.endLoad frames context subject purpose (.error (cause.toError subject.operation))
  | .upkeep kind token recurrence :: frames, .go => world.maintain frames kind token recurrence
  | .upkeep kind token recurrence :: frames, .ended _ =>
    world.awaitUpkeep frames kind token recurrence
  | .settle :: frames, .go => (world, .wait frames .settled)
  | .linger millis :: frames, .go =>
    (world, .wait (.conclude (.ok .unit) :: frames) (.moment (world.timeline.now + millis)))
  | .shutdown started current rest grace :: frames, .go =>
    awaitTasks frames started grace rest (if world.isOver current then world else world.abort current)
  | frames, signal => (world, ⟨frames, .active signal⟩)

/-! ### Who is next -/

/-- Has what a strand waits for come? -/
def isReady (world : World) : Wait → Bool
  | .moment millis => millis ≤ world.timeline.now
  | .settled => false
  | .cancellation token instant =>
    world.timeline.forest.isCancelled token ||
      (instant.map Instant.wakeMillis).any (· ≤ world.timeline.now)
  | .strand strand millis => world.isOver strand || millis.any (· ≤ world.timeline.now)
  | .forever => false

/-- The strand as it goes on if it can: it gives up if its patience is at its end, and else it goes on if
what it waits for has come. -/
def wake? (world : World) (strand : Strand) : Option Strand :=
  match strand.activity with
  | .active _ => none
  | .waiting wait =>
    match interruptedFrames? world.timeline strand.frames with
    | some (frames, cause) => some ⟨frames, .active (.interrupted cause)⟩
    | none => if world.isReady wait then some (.resume strand.frames) else none

/-- Replaces a strand in its place. -/
def putStrand (world : World) (number : StrandId) (strand : Strand) : World :=
  { world with strands := world.strands.insert number strand }

/-- Puts a strand behind all others. -/
def queueStrand (world : World) (number : StrandId) (strand : Strand) : World :=
  { world with strands := (world.strands.erase number).insert number strand }

/-- The strands in the order in which they go on: the scenario's own step, then the background tasks, those
first that have waited longer. -/
def inTurn (world : World) : List (StrandId × Strand) :=
  let (own, others) := world.strands.bindings.partition fun (number, _) => number = 0
  own ++ others

/-- The next moment at which something can happen. -/
def nextMoment? (world : World) : Option Nat :=
  let moments := world.strands.values.flatMap Strand.times ++ world.timeline.alarms.map Alarm.due
  (moments.filter (world.timeline.now < ·)).min?

/-- Takes an active strand to its next wait or a part of the way. A background strand that is over
leaves. -/
def takeTurn (world : World) (number : StrandId) (strand : Strand) (signal : Signal) : World :=
  let (world, strand) := world.turn strand.frames signal
  match strand.activity with
  | .waiting _ => world.queueStrand number strand
  | .active _ =>
    if strand.result?.isSome ∧ number ≠ 0 then world.leave number else world.putStrand number strand

/-- Takes a turn with a strand that is active and has something left to do. -/
def runActive? (world : World) (number : StrandId) (strand : Strand) : Option World :=
  match strand.activity with
  | .active signal =>
    if number = 0 ∧ strand.result?.isSome then none
    else some (world.takeTurn number strand signal)
  | .waiting _ => none

/-- Lets a strand leave that is given up. -/
def dismiss? (world : World) (number : StrandId) : Option World :=
  if world.doomed.contains number then some (world.leave number) else none

/-- Does a strand want everything else to have settled? -/
def wantsCalm (strand : Strand) : Bool :=
  match strand.activity with
  | .waiting .settled => true
  | _ => false

/-- Takes it that everything has settled: all strands that want it, if there are any, wait no longer than
until now. -/
def calm? (world : World) : Option World :=
  if world.strands.values.any wantsCalm then
    let release (_ : StrandId) (strand : Strand) : Strand :=
      if wantsCalm strand then .wait strand.frames (.moment world.timeline.now) else strand
    some { world with strands := world.strands.mapValues release }
  else
    none

/-- Lets the next thing happen that can happen now. A strand that is active goes on before anything else;
those that want all else to have settled come last, and all of them then. -/
def nextNow? (world : World) : Option World :=
  let strands := world.inTurn
  strands.findSome? (fun (number, strand) => world.runActive? number strand)
    <|> strands.findSome? (fun (number, _) => world.dismiss? number)
    <|> strands.findSome? (fun (number, strand) => (world.wake? strand).map (world.putStrand number))
    <|> world.calm?

/-- Lets the next thing happen, at a later moment if nothing can happen now; `none` when nothing ever
will. -/
def next? (world : World) : Option World :=
  match world.nextNow? with
  | some world => some world
  | none =>
    world.nextMoment?.map fun moment =>
      { world with timeline := world.timeline.moveTo moment }

/-! ### Steps from beginning to end -/

/-- The most that happens within one step. -/
def turnsPerStep : Nat := Nat.pow 2 48

/-- Lets things happen until the scenario's own step is over. -/
def finishStep : Nat → World → World × Result
  | 0, world => (world, .error .outOfRange)
  | turns + 1, world =>
    match (world.strands.get? 0).bind Strand.result? with
    | some result => (world, result)
    | none =>
      match world.next? with
      | some world => finishStep turns world
      | none => (world, .error .outOfRange)

/-- Runs work of the scenario's own to its end. -/
def runStrand (world : World) (strand : Strand) : World × Result :=
  finishStep turnsPerStep (world.queueStrand 0 strand)

/-- Lets everything happen that can happen now. -/
def settleDown (world : World) : World :=
  (world.runStrand (.wait [.conclude (.ok .unit)] .settled)).1

/-- Runs a step when everything else has settled; the second part of the result holds what rules have run
meanwhile, in the order in which it ended. -/
def runStep (world : World) (step : Step) : World × Result × List Result :=
  let world := settleDown { world with nested := [] }
  let (world, strand) := world.beginStep [] step
  let (world, result) := world.runStrand strand
  (world.syncClock, result, world.nested.reverse)

/-! ### The beginning -/

/-- What a scenario begins with. -/
structure Setting where
  config : Config
  wall : Int
  followsWall : Bool
  hasRuntime : Bool
  repository : Repository
  backing : Blob.Backing
  rules : List Rule

/-- The world at the beginning of a scenario; there is none if its clock fails already. -/
def create? (setting : Setting) : Option World :=
  let start := Timestamp.ofMillis setting.wall
  let (forest, token) := TokenForest.root {}
  let world : World := {
    config := setting.config
    timeline := { forest }
    wallAtStart := setting.wall
    followsWall := setting.followsWall
    manualClock := setting.wall
    hasRuntime := setting.hasRuntime
    repository := setting.repository
    cache := .create setting.config.cache
    telemetry := { daily := .create start, realtime := .create setting.config.metrics start }
    uploads := { config := setting.config.upload }
    blobs := { backing := setting.backing, publicBaseUrl := setting.config.upload.publicBaseUrl }
    rules := setting.rules
    tasks := { token }
    strands := Table.empty.insert 0 Strand.idle }
  if world.clockFails then none else some world

/-- Warms up the cache before the first step, unless that is cancelled already. -/
def start (world : World) (cancelled : Bool) : World :=
  let (forest, token) := world.timeline.forest.root
  let forest := if cancelled then forest.cancel token else forest
  let (world, strand) := warmUpStrand { world with timeline.forest := forest } token
  ((world.runStrand strand).1).syncClock

end Community.Scenario.World
