/-
This file carries out the steps of a scenario. Most steps are over at once; the others leave frames behind
that say how they go on. A step that reads through the cache first looks at the slot, a step that calls the
upload coordinator first lets it look at its books. A step that comes to read a clock that fails breaks off.
-/

import Community.Scenario.Visit

namespace Community.Scenario.World

/-! ### Going on with frames -/

/-- Ends a step at once. -/
def reply (world : World) (frames : List Frame) (reply : Reply) : World × Strand :=
  (world, .finish frames (.ok reply))

/-- Ends a step with the outcome of a call. -/
def conclude {α : Type} (world : World) (frames : List Frame) (reply : α → Reply)
    (outcome : Outcome α) : World × Strand :=
  (world, .finish frames (Result.ofOutcome reply outcome))

/-- Ends a step when everything that can happen now has happened. -/
def settle (world : World) (frames : List Frame) (reply : Reply) : World × Strand :=
  (world, .wait (.conclude (.ok reply) :: frames) .settled)

/-- Ends a step that reaches out of the range of times. -/
def outOfRange (world : World) (frames : List Frame) : World × Strand :=
  (world, .finish frames (.error .outOfRange))

/-- Ends a step that needs tasks where none can run. -/
def noRuntime (world : World) (frames : List Frame) : World × Strand :=
  (world, .finish frames (.error .noRuntime))

/-- Goes on with a call on uploads; without any progress it broke off. -/
def followUpload (frames : List Frame) : World × Option Upload.Progress → World × Strand
  | (world, some (.waiting call)) => (world, .resume (.upload call .fresh :: frames))
  | (world, some (.done outcome)) => world.conclude frames .upload outcome
  | (world, none) => world.outOfRange frames

/-- Begins a call on uploads. -/
def beginUpload (world : World) (call : Upload.Call) : World × Option Upload.Progress :=
  if world.clockFails && world.uploads.beginReadsClock call then
    ({ world with uploads := world.uploads.breakBegin call }, none)
  else
    let (uploads, progress) := world.uploads.begin world.clock call
    ({ world with uploads }, some progress)

/-- Takes an answer of the blob store to the call that waits for it. -/
def answerUpload (world : World) (call : Upload.Pending) (answer : Outcome call.request.Answer) :
    World × Option Upload.Progress :=
  if world.clockFails && world.uploads.resumeReadsClock call answer then
    ({ world with uploads := world.uploads.breakResume call }, none)
  else
    let (uploads, progress) := world.uploads.resume world.clock call answer
    ({ world with uploads }, some progress)

/-! ### Loads -/

/-- Is there a deadline that nobody can wait for? -/
def isStranded (world : World) (context : RequestContext) : Bool :=
  !world.hasRuntime && context.deadline.isSome

/-- What to do with the next preload of a warm-up. -/
def nextPreload (world : World) (frames : List Frame) (context : RequestContext)
    (rest : List Preload) (warmed : Nat) : World × Strand :=
  match rest with
  | [] => world.reply frames (.number warmed)
  | preload :: rest =>
    match context.interruption? world.timeline.forest world.timeline.now with
    | some _ => (world, .finish frames (.ok (.number warmed)))
    | none =>
      if world.isStranded context then world.noRuntime frames
      else
        (world,
          .resume (.load context preload.subject preload.source (.warm rest warmed) .fresh :: frames))

/-- Goes on when a load is over. -/
def endLoad (world : World) (frames : List Frame) (context : RequestContext)
    (subject : Cache.Subject) (purpose : Purpose) (outcome : Outcome subject.Content) :
    World × Strand :=
  match purpose with
  | .read =>
    let (cache, outcome) := world.cache.settle world.cacheTime subject outcome
    conclude { world with cache } frames (.content subject) outcome
  | .warm rest warmed =>
    match outcome with
    | .error _ => world.nextPreload frames context rest warmed
    | .ok content =>
      let (cache, filled) := world.cache.fill world.cacheTime subject content
      nextPreload { world with cache } frames context rest (warmed + filled.toNat)

/-- Begins a load, unless patience is at its end already. -/
def beginLoad (world : World) (frames : List Frame) (context : RequestContext)
    (subject : Cache.Subject) (source : Source subject) : World × Strand :=
  match context.interruption? world.timeline.forest world.timeline.now with
  | some cause => world.endLoad frames context subject .read (.error (cause.toError subject.operation))
  | none =>
    if world.isStranded context then world.noRuntime frames
    else (world, .resume (.load context subject source .read .fresh :: frames))

/-- The context of a step's patience; none if its deadline is out of range. -/
def contextOf? (world : World) (patience : Patience) : Option (World × RequestContext) :=
  let made :=
    match patience.timeout with
    | none => some (RequestContext.fresh world.timeline.forest)
    | some timeout =>
      RequestContext.withTimeout? world.timeline.forest world.timeline.instant timeout
  made.map fun (forest, context) =>
    let timeline := { world.timeline with
      forest := if patience.cancelled then forest.cancel context.token else forest }
    let timeline :=
      match patience.cancelAfter with
      | some millis => timeline.cancelAfter context.token millis
      | none => timeline
    ({ world with timeline }, context)

/-- Warms up the cache under a context, within the configured time. -/
def beginWarmUp (world : World) (frames : List Frame) (context : RequestContext) : World × Strand :=
  match context.child? world.timeline.forest world.timeline.instant world.config.cache.warmupTimeout with
  | none => world.outOfRange frames
  | some (forest, child) =>
    nextPreload { world with timeline.forest := forest } frames child [.categories, .tags] 0

/-- Reads a subject through the cache under a context: looks at its slot, and begins a load if nothing is there. -/
def readUnder (world : World) (frames : List Frame) (context : RequestContext) {subject : Cache.Subject}
    (source : Source subject) : World × Strand :=
  match world.cache.look world.cacheTime subject with
  | (cache, some content) => reply { world with cache } frames (.content subject content)
  | (cache, none) => beginLoad { world with cache } frames context subject source

/-- Reads a subject through the cache. -/
def beginRead (world : World) (frames : List Frame) (subject : Cache.Subject)
    (source : Source subject) (patience : Patience) : World × Strand :=
  match world.contextOf? patience with
  | none => world.outOfRange frames
  | some (world, context) => world.readUnder frames context source

/-! ### Background tasks -/

/-- Upkeep of a kind at intervals, which begins with waiting for the first one; without a recurrence its task
is over at once. -/
def spawnUpkeep (world : World) (kind : Upkeep) (period : Duration) : World :=
  match Recurrence.start? world.timeline.instant period with
  | none => world.spawnTask (.finish [] (.error .outOfRange))
  | some recurrence =>
    world.spawnTask (.finish [.upkeep kind world.tasks.token recurrence] (.ok .unit))

/-- A warm-up that stops when a token is cancelled. -/
def warmUpStrand (world : World) (token : TokenId) : World × Strand :=
  let (forest, child) := world.timeline.forest.child token
  beginWarmUp { world with timeline.forest := forest } [] (.withToken child)

/-- Starts the warm-up and the upkeep of caches, presence and uploads as a new set of tasks. -/
def spawnBackground (world : World) : World :=
  let world := world.renewTasks
  let (world, warmUp) := world.warmUpStrand world.tasks.token
  world.spawnTask warmUp
    |>.spawnUpkeep .caches world.config.cache.cleanupInterval
    |>.spawnUpkeep .presence world.config.metrics.onlineUserCleanupInterval
    |>.spawnUpkeep .uploads world.config.upload.sweepInterval

/-- A task of a kind. -/
def taskStrand (world : World) : TaskKind → Strand
  | .stuck => .wait [.conclude (.ok .unit)] .forever
  | .broken => .finish [] (.error .outOfRange)
  | .lingering millis => .wait [.linger millis] (.cancellation world.tasks.token none)

/-- Awaits tasks in turn; a shutdown is over after the last of them. Without any grace a task that is not
over is given up on the spot. -/
def awaitTasks (frames : List Frame) (started : Nat) (grace : Duration) :
    List StrandId → World → World × Strand
  | [], world => world.reply frames (.number (world.timeline.now - started : Nat))
  | task :: rest, world =>
    let deadline := (world.timeline.instant.after? grace).map Instant.wakeMillis
    if world.isOver task then awaitTasks frames started grace rest world
    else if deadline.any (· ≤ world.timeline.now) then
      awaitTasks frames started grace rest (world.abort task)
    else
      (world, .wait (.shutdown started task rest grace :: frames) (.strand task deadline))

/-- Asks all background tasks to stop and awaits them; later tasks belong to a new set. -/
def beginShutdown (world : World) (frames : List Frame) (grace : Duration) : World × Strand :=
  let forest := world.timeline.forest.cancel world.tasks.token
  awaitTasks frames world.timeline.now grace world.tasks.members
    (renewTasks { world with timeline.forest := forest })

/-! ### Steps -/

/-- Carries out a change of the figures. -/
def feed (world : World) (frames : List Frame) (change : Metrics.Telemetry → Metrics.Telemetry) :
    World × Strand :=
  reply { world with telemetry := change world.telemetry } frames .unit

/-- Carries out a change of the caches. -/
def tend (world : World) (frames : List Frame) (change : Cache.Service → Cache.Service) :
    World × Strand :=
  reply { world with cache := change world.cache } frames .unit

/-- Carries out a change of the caches that tells how many entries it removed. -/
def reap (world : World) (frames : List Frame) : Cache.Service × Nat → World × Strand
  | (cache, removed) => reply { world with cache } frames (.number removed)

/-- The group whose keys are the caller's own. -/
def groupOf : OpenGroup → Cache.Group
  | .user => .user
  | .list => .list

/-- The cache of a group whose keys are the caller's own. -/
def openCache (world : World) : OpenGroup → Cache.Bounded ByteArray
  | .user => world.cache.users
  | .list => world.cache.lists

/-- The number of running tasks, if tasks can run at all. -/
def load? (world : World) (more : Nat) : Option Nat :=
  if world.hasRuntime then some (more + world.runningTasks) else none

/-- Moves the clock that the services may read, and the wall clock with it. -/
def moveClock (world : World) (frames : List Frame) (millis : Int) : World × Strand :=
  let target := world.manualClock + millis
  if (Timestamp.ofMillis target).isValid then
    reply { world.setWall target with manualClock := target } frames (.number target)
  else
    world.outOfRange frames

/-- Asks the blob store directly. -/
def askDirectly (world : World) (frames : List Frame) (request : Blob.Request) : World × Strand :=
  let (world, outcome) := world.ask request
  match request, outcome with
  | .put .., outcome => world.conclude frames (fun _ => .unit) outcome
  | .contains _, outcome => world.conclude frames .flag outcome
  | .fetch _, outcome => world.conclude frames (fun data => .bytes (some data)) outcome
  | .remove _, outcome => world.conclude frames (fun _ => .unit) outcome
  | .list _, outcome => world.conclude frames .paths outcome

/-- Does a step come to read the clock of the services? The calls on uploads tell that themselves. -/
def readsClock (world : World) : Step → Bool
  | .login _ | .register | .request .. | .openRequest | .today | .sweepOnline | .countRequest
  | .noteError | .snapshot _ | .beginRequest .. => true
  | .activity user => user ≠ 0
  | .finishRequest guard .. => world.guards.contains guard
  | .announce _ announced => world.uploads.announcementReadsClock announced
  | _ => false

/-- What a step leaves behind that cannot read the clock: a request that was to be finished is given up. -/
def breakOff (world : World) (frames : List Frame) : Step → World × Strand
  | .finishRequest guard .. =>
    outOfRange { world with telemetry := world.telemetry.drop, guards := world.guards.erase guard }
      frames
  | _ => world.outOfRange frames

/-- Carries out a step, or the part of it before its first wait. -/
def perform (world : World) (frames : List Frame) : Step → World × Strand
  | .advance millis =>
    (world, .wait (.settle :: .conclude (.ok .unit) :: frames) (.moment (world.timeline.now + millis)))
  | .setClock millis => reply (world.setWall millis) frames .unit
  | .moveClock millis => world.moveClock frames millis
  | .readClock =>
    if world.wallFails then world.outOfRange frames else world.reply frames (.number world.wall)
  | .setCategories categories =>
    reply { world with repository.categories := categories } frames .unit
  | .setTags tags => reply { world with repository.tags := tags } frames .unit
  | .putArticle article =>
    reply { world with repository := world.repository.putArticle article } frames .unit
  | .setLiked article user liked =>
    reply { world with repository := world.repository.setLiked article user liked } frames .unit
  | .allCategories => world.reply frames (.categories world.repository.allCategories)
  | .allTags => world.reply frames (.tags world.repository.allTags)
  | .article id viewer => world.conclude frames .article (world.repository.article id viewer)
  | .read subject source patience => world.beginRead frames subject source patience
  | .warmUp patience =>
    match world.contextOf? patience with
    | none => world.outOfRange frames
    | some (world, context) => world.beginWarmUp frames context
  | .invalidateCategories => world.tend frames (·.invalidateCategories)
  | .invalidateTags => world.tend frames (·.invalidateTags)
  | .invalidateArticle id => world.reap frames (world.cache.invalidateArticle id)
  | .invalidateUser id => world.tend frames (·.invalidateUser id)
  | .invalidateList key => world.tend frames (·.invalidateList key)
  | .pruneIndex => world.reap frames (world.cache.pruneIndex world.cacheTime)
  | .setOnlineCount count => world.tend frames (·.setOnlineCount world.cacheTime count)
  | .getOnlineCount =>
    let (cache, count) := world.cache.getOnlineCount world.cacheTime
    reply { world with cache } frames (.onlineCount count)
  | .setBytes group key bytes ttl =>
    let lifetime := ttl.getD (world.openCache group).config.ttl
    world.tend frames (·.putBytes world.cacheTime (groupOf group) key bytes lifetime)
  | .getBytes group key =>
    let (cache, bytes) := world.cache.getBytes world.cacheTime (groupOf group) key
    reply { world with cache } frames (.bytes bytes)
  | .peekBytes group key => world.reply frames (.bytes ((world.openCache group).peek world.cacheTime key))
  | .cleanup => world.reap frames (world.cache.cleanup world.cacheTime)
  | .clearAll => world.tend frames (·.clearAll)
  | .cacheStats =>
    world.reply frames (.cacheStats (world.cache.stats world.cacheTime) world.cache.indexedArticles)
  | .hitRates =>
    let rate (group : Cache.Group) := (world.cache.stats world.cacheTime group).hitRate
    world.reply frames (.rates [rate .global, rate .article, rate .user, rate .list])
  | .login user =>
    world.feed frames fun telemetry =>
      { telemetry with daily := telemetry.daily.recordLogin world.clock user }
  | .register =>
    world.feed frames fun telemetry =>
      { telemetry with daily := telemetry.daily.recordRegister world.clock }
  | .request endpoint latencyMs success error =>
    world.feed frames fun telemetry =>
      { telemetry with
        daily := telemetry.daily.recordRequest world.clock endpoint latencyMs success error }
  | .openRequest =>
    world.feed frames fun telemetry =>
      { telemetry with daily := telemetry.daily.increment world.clock }
  | .closeRequest =>
    world.feed frames fun telemetry => { telemetry with daily := telemetry.daily.decrement }
  | .today =>
    let (daily, figures) := world.telemetry.daily.today world.clock
    reply { world with telemetry.daily := daily } frames (.today figures)
  | .activity user =>
    world.feed frames fun telemetry =>
      { telemetry with realtime := telemetry.realtime.recordActivity world.clock user }
  | .sweepOnline =>
    let (realtime, removed) := world.telemetry.realtime.sweepInactive world.clock
    reply { world with telemetry.realtime := realtime } frames (.number removed)
  | .countRequest =>
    world.feed frames fun telemetry =>
      { telemetry with realtime := telemetry.realtime.recordRequest world.clock }
  | .noteError =>
    world.feed frames fun telemetry =>
      { telemetry with realtime := telemetry.realtime.recordError world.clock }
  | .system tasks =>
    world.reply frames (.system (world.telemetry.realtime.systemLoad (world.load? tasks)))
  | .snapshot tasks =>
    world.reply frames
      (.snapshot (world.telemetry.realtime.snapshot world.clock (world.load? tasks)))
  | .beginRequest guard endpoint =>
    let (telemetry, opened) := world.telemetry.begin world.clock endpoint world.timeline.now
    let telemetry := if world.guards.contains guard then telemetry.drop else telemetry
    reply { world with telemetry, guards := world.guards.insert guard opened } frames .unit
  | .finishRequest guard status user =>
    match world.guards.get? guard with
    | none => world.reply frames (.text "no guard")
    | some opened =>
      let telemetry := world.telemetry.finish world.clock opened status user world.timeline.now
      reply { world with telemetry, guards := world.guards.erase guard } frames .unit
  | .dropRequest guard =>
    if world.guards.contains guard then
      reply { world with telemetry := world.telemetry.drop, guards := world.guards.erase guard }
        frames (.flag true)
    else
      world.reply frames (.flag false)
  | .telemetry =>
    world.reply frames
      (.gauges world.telemetry.daily.currentConcurrent world.telemetry.realtime.onlineUsers)
  | .announce user announced =>
    let (uploads, outcome) := world.uploads.announce user announced world.clock
    conclude { world with uploads } frames .receipt outcome
  | .upload call => followUpload frames (world.beginUpload call)
  | .uploadReport uploadId => world.conclude frames .uploadReport (world.uploads.report uploadId)
  | .uploadCount => world.reply frames (.number world.uploads.size)
  | .blob request => world.askDirectly frames request
  | .publicUrl path => world.reply frames (.text (world.blobs.publicUrl path))
  | .spawnBackground =>
    if world.hasRuntime then
      let world := world.spawnBackground
      world.settle frames (.number world.tasks.members.length)
    else
      world.noRuntime frames
  | .pushTask kind =>
    if world.hasRuntime then
      let first := world.tasks.members.isEmpty
      let world := world.spawnTask (world.taskStrand kind)
      world.reply frames (.tasks first world.tasks.members.length)
    else
      world.noRuntime frames
  | .shutdown grace => world.beginShutdown frames grace
  | .addRule rule => reply { world with rules := world.rules ++ [rule] } frames .unit
  | .clearRules => reply { world with rules := [] } frames .unit

/-- Begins a step: the services' clock is set, and the upload that the step names is noted. -/
def beginStep (world : World) (frames : List Frame) (step : Step) : World × Strand :=
  let named := step.uploadId?.toList.filter fun uploadId => !world.namedUploads.contains uploadId
  let world := { world.syncClock with namedUploads := world.namedUploads ++ named }
  if world.clockFails && world.readsClock step then world.breakOff frames step
  else world.perform frames step

end Community.Scenario.World
