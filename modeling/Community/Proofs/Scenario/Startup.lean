/-
This file proves what the configuration does to the start of the service. Every timeout and interval that is read
from an environment is a positive number of seconds, but not every one can be added to the present: instants end,
and where a sum would lie beyond the last one, the warm-up or the task whose time it was to be breaks off. That is
the only way in which it can. Otherwise the failures of a warm-up are swallowed: whatever becomes of its loads, it
ends with the number of slots that it has filled. And upkeep is due one interval after it has been started, and its
task goes on as long as nobody asks it to stop and the clock can be read. Between the turns of a strand anything
may happen to the world.
-/

import Community.Config.Environment
import Community.Proofs.Context.Kinship
import Community.Proofs.Scenario.Frames
import Community.Proofs.Scenario.Sources

namespace Community

/-! ### Durations from the environment -/

/-- Is the duration a positive number of seconds that fits in 64 bits? -/
def Duration.IsPositiveSeconds (duration : Duration) : Prop :=
  ∃ seconds, 0 < seconds ∧ seconds < UInt64.size ∧ duration = .ofSeconds seconds

theorem Duration.IsPositiveSeconds.not_isZero {duration : Duration} (positive : duration.IsPositiveSeconds) :
    duration.isZero = false := by
  obtain ⟨seconds, nonzero, -, rfl⟩ := positive
  exact decide_eq_false (Nat.ne_of_gt (Nat.mul_pos nonzero (by decide : 0 < nanosPerSecond)))

/-- A variable holds a positive number of seconds, or the default applies. -/
theorem Environment.isPositiveSeconds_seconds (environment : Environment) (name : String) {default : Duration}
    (given : default.IsPositiveSeconds) : (environment.seconds name default).IsPositiveSeconds := by
  unfold seconds
  cases read : ((environment.text? name).bind readWord?).filter (0 < ·) with
  | none => exact given
  | some value =>
    obtain ⟨holds, positive⟩ := Option.filter_eq_some_iff.1 read
    obtain ⟨text, -, word⟩ := Option.bind_eq_some_iff.1 holds
    exact ⟨value, of_decide_eq_true positive, of_decide_eq_true (Option.filter_eq_some_iff.1 word).2, rfl⟩

/-- Can the span be added to the instant? -/
def Instant.Reaches (instant : Instant) (span : Duration) : Prop :=
  instant.nanos + span.nanos < secondsBound * Duration.nanosPerSecond

instance (instant : Instant) (span : Duration) : Decidable (instant.Reaches span) :=
  inferInstanceAs (Decidable (_ < _))

theorem Instant.after?_of_reaches {instant : Instant} {span : Duration} (reaches : instant.Reaches span) :
    instant.after? span = some ⟨instant.nanos + span.nanos⟩ := by
  unfold after?
  exact if_pos reaches

theorem Instant.after?_of_not_reaches {instant : Instant} {span : Duration} (beyond : ¬ instant.Reaches span) :
    instant.after? span = none := by
  unfold after?
  exact if_neg beyond

theorem Environment.isPositiveSeconds_warmupTimeout (environment : Environment) :
    (Config.ofEnvironment environment).cache.warmupTimeout.IsPositiveSeconds :=
  environment.isPositiveSeconds_seconds _ ⟨30, by decide, by decide, rfl⟩

namespace Scenario

/-- The interval at which upkeep of a kind is configured to be done. -/
def Upkeep.interval (config : Config) : Upkeep → Duration
  | caches => config.cache.cleanupInterval
  | presence => config.metrics.onlineUserCleanupInterval
  | uploads => config.upload.sweepInterval

theorem Upkeep.isPositiveSeconds_interval (environment : Environment) (kind : Upkeep) :
    (kind.interval (.ofEnvironment environment)).IsPositiveSeconds := by
  cases kind with
  | caches => exact environment.isPositiveSeconds_seconds _ ⟨60, by decide, by decide, rfl⟩
  | presence => exact environment.isPositiveSeconds_seconds _ ⟨60, by decide, by decide, rfl⟩
  | uploads => exact environment.isPositiveSeconds_seconds _ ⟨600, by decide, by decide, rfl⟩

/-! ### What can become of a strand -/

/-- What can become of a strand as long as more of it is left than the frames below. What happens to the world
between its turns is left open, but for what is asked of the worlds in which it takes them. -/
inductive Lives (admits : World → Prop) (frames : List Frame) (begun : Strand) : Strand → Prop
  | begun : Lives admits frames begun begun
  | turned {stack signal} (world : World) : Lives admits frames begun ⟨stack, .active signal⟩ →
    ¬ stack <:+ frames → admits world → Lives admits frames begun (world.turn stack signal).2
  | woken {stack wait strand} (world : World) : Lives admits frames begun ⟨stack, .waiting wait⟩ →
    world.wake? ⟨stack, .waiting wait⟩ = some strand → Lives admits frames begun strand
  | calmed {stack} (millis : Nat) : Lives admits frames begun ⟨stack, .waiting .settled⟩ →
    Lives admits frames begun (.wait stack (.moment millis))

/-! ### The warm-up -/

namespace World

variable {α : Type} {world : World}

theorem hasRuntime_reach {rule : Rule} {call : World → World × Outcome α}
    (same : (call world).1.hasRuntime = world.hasRuntime) :
    (world.reach rule call).1.hasRuntime = world.hasRuntime := by
  unfold reach
  cases rule.failure with
  | some error =>
    dsimp only
    split <;> rfl
  | none =>
    dsimp only
    split <;> exact same

theorem hasRuntime_approach {rule : Rule} {call : World → World × Outcome α}
    (same : (call world).1.hasRuntime = world.hasRuntime) :
    (world.approach rule call).1.hasRuntime = world.hasRuntime := by
  unfold approach
  split
  · rfl
  · exact hasRuntime_reach same

theorem hasRuntime_visitRepository (target : Target) (path : String) (ask : Repository → Outcome α)
    (stage : Stage α) :
    (world.visitRepository target path ask stage).1.hasRuntime = world.hasRuntime := by
  have counted : (world.count target).hasRuntime = world.hasRuntime := by cases target <;> rfl
  unfold visitRepository visit
  cases stage with
  | fresh =>
    dsimp only
    unfold useRule
    cases takeRule? target path (world.count target).rules with
    | none => exact counted
    | some taken =>
      dsimp only
      split
      · exact counted
      · exact (hasRuntime_approach rfl).trans counted
  | delayed rule => exact hasRuntime_approach rfl
  | reached rule => exact hasRuntime_reach rfl
  | holding outcome => rfl

/-- A load that asks its source does not change whether there is a runtime. -/
theorem hasRuntime_visitSource (context : RequestContext) {subject : Cache.Subject} (source : Source subject)
    (stage : Stage subject.Content) :
    (world.visitSource context source stage).1.hasRuntime = world.hasRuntime := by
  cases source with
  | categories | tags | article => exact hasRuntime_visitRepository ..
  | loader delay brought deeds =>
    have brings (outcome : Outcome subject.Content) :
        (world.bring context deeds outcome).1.hasRuntime = world.hasRuntime := by
      obtain ⟨timeline, same⟩ := world.bring_eq context deeds outcome
      rw [same]
    cases stage with
    | holding outcome => exact brings outcome
    | fresh | delayed | reached =>
      rcases delay with ⟨_ | millis⟩ | _
      · exact brings brought
      · rfl
      · rfl

end World

/-- Where a warm-up stands that fills so many slots at most. -/
inductive Warming (frames : List Frame) (most : Nat) : Strand → Prop
  | loading (above : List Frame) {context subject source rest warmed stage activity} :
    warmed + rest.length < most →
      Warming frames most ⟨above ++ .load context subject source (.warm rest warmed) stage :: frames, activity⟩
  | abandoned {rest cause} : rest <:+ frames → Warming frames most ⟨rest, .active (.interrupted cause)⟩
  | ended {warmed : Nat} : warmed ≤ most → Warming frames most (.finish frames (.ok (.number warmed)))

section WarmUp

variable {frames : List Frame} {most warmed : Nat} {rest : List Preload} {context : RequestContext}
  {world : World} {strand : Strand}

/-- A warm-up goes on with its next preload, or it is over. -/
theorem warming_nextPreload (runtime : world.hasRuntime = true) (bounded : warmed + rest.length ≤ most) :
    Warming frames most (world.nextPreload frames context rest warmed).2 := by
  unfold World.nextPreload
  split
  · exact .ended bounded
  · have enough : warmed ≤ most := Nat.le_trans (Nat.le_add_right _ _) bounded
    split
    · exact .ended enough
    · rw [World.isStranded, runtime]
      exact .loading [] bounded

/-- The failure of a preload is swallowed. -/
theorem warming_endLoad (runtime : world.hasRuntime = true) (bounded : warmed + rest.length < most)
    (subject : Cache.Subject) (outcome : Outcome subject.Content) :
    Warming frames most (world.endLoad frames context subject (.warm rest warmed) outcome).2 := by
  unfold World.endLoad
  cases outcome with
  | error failure => exact warming_nextPreload runtime (Nat.le_of_lt bounded)
  | ok content =>
    dsimp only
    generalize world.cache.fill world.cacheTime subject content = filled
    obtain ⟨cache, fills⟩ := filled
    have one := Bool.toNat_le fills
    have enough : warmed + fills.toNat + rest.length ≤ most := by omega
    exact warming_nextPreload runtime enough

theorem warming_load (runtime : world.hasRuntime = true) (bounded : warmed + rest.length < most)
    (subject : Cache.Subject) (source : Source subject) (stage : Stage subject.Content) (signal : Signal) :
    Warming frames most
      (world.turn (.load context subject source (.warm rest warmed) stage :: frames) signal).2 := by
  cases signal with
  | ended result => exact .loading [] bounded
  | interrupted cause => exact warming_endLoad runtime bounded subject _
  | go =>
    show Warming frames most (world.turnLoad frames context subject source (.warm rest warmed) stage).2
    have visited := world.hasRuntime_visitSource context source stage
    unfold World.turnLoad
    split
    · next met =>
      rw [met] at visited
      exact warming_endLoad (visited.trans runtime) bounded subject _
    · exact .loading [] bounded
    · next stage rule _ => exact .loading [.play rule.steps rule.quiet] bounded

/-- As long as the frame of a preload stays, the warm-up is loading. -/
theorem Warming.of_keeps {above : List Frame} {subject : Cache.Subject} {source : Source subject}
    {stage : Stage subject.Content} {result : World × Strand} (bounded : warmed + rest.length < most)
    (kept : Keeps (above ++ .load context subject source (.warm rest warmed) stage :: frames) result) :
    Warming frames most result.2 := by
  obtain ⟨after, stack, activity⟩ := result
  obtain ⟨upper, rfl⟩ := kept
  rw [← List.append_assoc]
  exact .loading _ bounded

theorem warming_turn {stack : List Frame} {signal : Signal}
    (warming : Warming frames most ⟨stack, .active signal⟩) (unfinished : ¬ stack <:+ frames)
    (runtime : world.hasRuntime = true) : Warming frames most (world.turn stack signal).2 := by
  generalize shape : Strand.mk stack (.active signal) = strand at warming
  cases warming with
  | @loading above context subject source rest warmed stage activity bounded =>
    cases shape
    cases above with
    | nil => exact warming_load runtime bounded subject source stage signal
    | cons frame above => exact .of_keeps bounded (world.keeps_turn frame _ signal)
  | abandoned lower =>
    cases shape
    exact absurd lower unfinished
  | ended =>
    cases shape
    exact absurd List.suffix_rfl unfinished

theorem warming_wake {stack : List Frame} {wait : Wait}
    (warming : Warming frames most ⟨stack, .waiting wait⟩)
    (woken : world.wake? ⟨stack, .waiting wait⟩ = some strand) : Warming frames most strand := by
  generalize shape : Strand.mk stack (.waiting wait) = waiting at warming
  cases warming with
  | @loading above context subject source rest warmed stage activity bounded =>
    cases shape
    rcases World.wake?_cases woken with ⟨found, cause, interrupted, rfl⟩ | ⟨-, rfl⟩
    · -- what gives up is below the load, or the load is still there
      rw [interruptedFrames?_append, interruptedFrames?_cons, Option.or_assoc] at interrupted
      rcases Option.or_eq_some_iff.1 interrupted with lower | ⟨-, upper⟩
      · exact .abandoned (suffix_of_interruptedFrames? lower)
      rcases Option.or_eq_some_iff.1 upper with own | ⟨-, higher⟩
      · obtain ⟨_, -, same⟩ := Option.map_eq_some_iff.1 own
        cases same
        exact .loading [] bounded
      · obtain ⟨inner, -, same⟩ := Option.map_eq_some_iff.1 higher
        cases same
        exact .loading _ bounded
    · exact .loading _ bounded
  | abandoned | ended => cases shape

/-- Whatever becomes of a warm-up, it stands where its failures are swallowed. -/
theorem warming_of_lives {begun : Strand} (first : Warming frames most begun)
    (lives : Lives (·.hasRuntime = true) frames begun strand) : Warming frames most strand := by
  induction lives with
  | begun => exact first
  | turned world lives unfinished runtime inductionHypothesis =>
    exact warming_turn inductionHypothesis unfinished runtime
  | woken world lives wakes inductionHypothesis => exact warming_wake inductionHypothesis wakes
  | @calmed stack millis lives inductionHypothesis =>
    generalize shape : Strand.mk stack (.waiting .settled) = waiting at inductionHypothesis
    cases inductionHypothesis with
    | loading above bounded =>
      cases shape
      exact .loading above bounded
    | abandoned | ended => cases shape

/-- A warm-up that is over has filled so many slots. -/
theorem Warming.of_finish {result : Result} (warming : Warming frames most (.finish frames result)) :
    ∃ filled : Nat, filled ≤ most ∧ result = .ok (.number filled) := by
  generalize shape : Strand.finish frames result = strand at warming
  cases warming with
  | loading above =>
    have length := congrArg (fun strand => strand.frames.length) shape
    simp only [Strand.finish, List.length_append, List.length_cons] at length
    omega
  | abandoned => cases shape
  | ended bounded =>
    cases shape
    exact ⟨_, bounded, rfl⟩

theorem beginWarmUp_of_not_reaches
    (beyond : ¬ world.timeline.instant.Reaches world.config.cache.warmupTimeout) :
    world.beginWarmUp frames context = world.outOfRange frames := by
  rw [World.beginWarmUp_def]
  beta_reduce
  rw [RequestContext.child?, Instant.after?_of_not_reaches beyond]
  rfl

/-- A warm-up that has a context begins with its first preload. -/
theorem beginWarmUp_of_child? {forest : TokenForest} {child : RequestContext}
    (made : context.child? world.timeline.forest world.timeline.instant world.config.cache.warmupTimeout =
      some (forest, child)) :
    world.beginWarmUp frames context =
      World.nextPreload { world with timeline.forest := forest } frames child [.categories, .tags] 0 := by
  rw [World.beginWarmUp_def]
  beta_reduce
  rw [made]

theorem exists_child?_of_reaches {forest : TokenForest} {instant : Instant} {timeout : Duration}
    (reaches : instant.Reaches timeout) :
    ∃ after child, context.child? forest instant timeout = some (after, child) := by
  unfold RequestContext.child?
  rw [Instant.after?_of_reaches reaches]
  exact ⟨_, _, rfl⟩

/-- Once its deadline is there, a warm-up has nothing left that could be out of range. -/
theorem nextPreload_ne_outOfRange (world : World) (frames : List Frame) (context : RequestContext)
    (rest : List Preload) (warmed : Nat) :
    (world.nextPreload frames context rest warmed).2 ≠ .finish frames (.error .outOfRange) := by
  unfold World.nextPreload
  intro same
  split at same
  · cases same
  · split at same
    · cases same
    · split at same <;> cases same

theorem beginWarmUp_outOfRange_iff :
    (world.beginWarmUp frames context).2 = .finish frames (.error .outOfRange) ↔
      ¬ world.timeline.instant.Reaches world.config.cache.warmupTimeout := by
  constructor
  · intro broken reaches
    obtain ⟨forest, child, made⟩ := exists_child?_of_reaches reaches
    rw [beginWarmUp_of_child? made] at broken
    exact nextPreload_ne_outOfRange _ _ _ _ _ broken
  · intro beyond
    exact congrArg Prod.snd (beginWarmUp_of_not_reaches beyond)

/-- Whatever becomes of a warm-up that has time, it ends with the number of slots that it has filled. -/
theorem filled_of_lives {result : Result} (runtime : world.hasRuntime = true)
    (reaches : world.timeline.instant.Reaches world.config.cache.warmupTimeout)
    (lives : Lives (·.hasRuntime = true) frames (world.beginWarmUp frames context).2 (.finish frames result)) :
    ∃ filled : Nat, filled ≤ 2 ∧ result = .ok (.number filled) := by
  obtain ⟨forest, child, made⟩ := exists_child?_of_reaches reaches
  rw [beginWarmUp_of_child? made] at lives
  have runs : ({ world with timeline.forest := forest } : World).hasRuntime = true := runtime
  have bounded : 0 + [Preload.categories, .tags].length ≤ 2 := Nat.le_refl 2
  exact (warming_of_lives (warming_nextPreload runs bounded) lives).of_finish

end WarmUp

/-! ### Upkeep -/

/-- Does upkeep of a kind stay at the bottom of the strand, until a token is cancelled? -/
def Tends (kind : Upkeep) (token : TokenId) (period : Duration) (strand : Strand) : Prop :=
  ∃ above recurrence, strand.frames = above ++ [.upkeep kind token recurrence] ∧ recurrence.period = period

section Upkeep

variable {kind : Upkeep} {token : TokenId} {period : Duration} {recurrence : Recurrence} {world : World}
  {strand : Strand}

theorem Tends.of_keeps {result : World × Strand} (same : recurrence.period = period)
    (kept : Keeps [.upkeep kind token recurrence] result) : Tends kind token period result.2 := by
  obtain ⟨above, frames⟩ := kept
  exact ⟨above, recurrence, frames.symm, same⟩

/-- Upkeep that is not asked to stop and can read the clock is done, and the next time is awaited. -/
theorem tends_maintain (same : recurrence.period = period)
    (runs : world.timeline.forest.isCancelled token = false) (readable : world.clockFails = false) :
    Tends kind token period (world.maintain [] kind token recurrence).2 := by
  unfold World.maintain
  rw [runs]
  cases kind with
  | caches => exact ⟨[], _, rfl, same⟩
  | presence =>
    rw [readable]
    exact ⟨[], _, rfl, same⟩
  | uploads =>
    have taken : (recurrence.takeUp world.timeline.instant).period = period := same
    rw [readable]
    exact .of_keeps taken (World.keeps_followUpload _ _)

theorem tends_turn {stack : List Frame} {signal : Signal} (tends : Tends kind token period ⟨stack, .active signal⟩)
    (runs : world.timeline.forest.isCancelled token = false) (readable : world.clockFails = false) :
    Tends kind token period (world.turn stack signal).2 := by
  obtain ⟨above, recurrence, rfl, same⟩ := tends
  cases above with
  | cons frame above =>
    obtain ⟨upper, frames⟩ := world.keeps_turn frame (above ++ [.upkeep kind token recurrence]) signal
    exact ⟨upper ++ above, recurrence, frames.symm.trans (List.append_assoc ..).symm, same⟩
  | nil =>
    cases signal with
    | go => exact tends_maintain same runs readable
    | ended result => exact ⟨[], recurrence, rfl, same⟩
    | interrupted cause => exact ⟨[], recurrence, rfl, same⟩

/-- Upkeep has no patience that could come to its end. -/
theorem tends_wake {stack : List Frame} {wait : Wait} (tends : Tends kind token period ⟨stack, .waiting wait⟩)
    (woken : world.wake? ⟨stack, .waiting wait⟩ = some strand) : Tends kind token period strand := by
  obtain ⟨above, recurrence, rfl, same⟩ := tends
  rcases World.wake?_cases woken with ⟨found, cause, interrupted, rfl⟩ | ⟨-, rfl⟩
  · rw [interruptedFrames?_append] at interrupted
    obtain ⟨inner, -, isFound⟩ := Option.map_eq_some_iff.1 interrupted
    cases isFound
    exact ⟨inner.1, recurrence, rfl, same⟩
  · exact ⟨above, recurrence, rfl, same⟩

/-- As long as nobody asks it to stop and the clock can be read, a task of upkeep goes on. -/
theorem tends_of_lives {begun : Strand} (first : Tends kind token period begun)
    (lives : Lives (fun world => world.timeline.forest.isCancelled token = false ∧ world.clockFails = false) []
      begun strand) : Tends kind token period strand := by
  induction lives with
  | begun => exact first
  | turned world lives unfinished admitted inductionHypothesis =>
    exact tends_turn inductionHypothesis admitted.1 admitted.2
  | woken world lives wakes inductionHypothesis => exact tends_wake inductionHypothesis wakes
  | calmed millis lives inductionHypothesis => exact inductionHypothesis

/-- What upkeep of a kind does in one turn. -/
def World.swept (world : World) : Upkeep → World
  | .caches => { world with cache := (world.cache.cleanup world.cacheTime).1 }
  | .presence =>
    { world with telemetry.realtime := (world.telemetry.realtime.sweepInactive world.clock).1 }
  | .uploads => { world with uploads := (world.uploads.begin world.clock .sweep).1 }

/-- Upkeep is done in its turn. -/
theorem turn_upkeep (runs : world.timeline.forest.isCancelled token = false)
    (readable : world.clockFails = false) :
    (world.turn [.upkeep kind token recurrence] .go).1 = world.swept kind := by
  show (world.maintain [] kind token recurrence).1 = _
  unfold World.maintain
  rw [runs]
  cases kind with
  | caches => rfl
  | presence =>
    rw [readable]
    rfl
  | uploads =>
    have begun : world.beginUpload .sweep =
        (world.swept .uploads, some (world.uploads.begin world.clock .sweep).2) := by
      unfold World.beginUpload
      rw [readable]
      rfl
    rw [readable, begun]
    cases (world.uploads.begin world.clock .sweep).2 <;> rfl

/-- Upkeep that waits is woken when it is due. -/
theorem wake?_upkeep (runs : world.timeline.forest.isCancelled token = false) :
    world.wake? (.wait [.upkeep kind token recurrence] (.cancellation token recurrence.due)) =
      if (recurrence.due.map Instant.wakeMillis).any (· ≤ world.timeline.now) then
        some (.resume [.upkeep kind token recurrence])
      else none := by
  show (if world.timeline.forest.isCancelled token || _ then _ else _) = _
  rw [runs, Bool.false_or]
  rfl

end Upkeep

/-! ### The start of the background tasks -/

/-- The task of upkeep of a kind as it begins, over at once if its first time is beyond the last instant. -/
def World.upkeepTask (world : World) (kind : Upkeep) : Strand :=
  match Recurrence.start? world.timeline.instant (kind.interval world.config) with
  | none => .finish [] (.error .outOfRange)
  | some recurrence => .finish [.upkeep kind world.tasks.token recurrence] (.ok .unit)

section Background

variable {world : World} {kind : Upkeep}

theorem upkeepTask_of_reaches (lasting : (kind.interval world.config).isZero = false)
    (reaches : world.timeline.instant.Reaches (kind.interval world.config)) :
    world.upkeepTask kind =
      .finish [.upkeep kind world.tasks.token ⟨kind.interval world.config,
        some ⟨world.timeline.instant.nanos + (kind.interval world.config).nanos⟩⟩] (.ok .unit) := by
  unfold World.upkeepTask Recurrence.start?
  rw [lasting, Instant.after?_of_reaches reaches]
  rfl

theorem upkeepTask_of_not_reaches
    (beyond : ¬ world.timeline.instant.Reaches (kind.interval world.config)) :
    world.upkeepTask kind = .finish [] (.error .outOfRange) := by
  unfold World.upkeepTask Recurrence.start?
  rw [Instant.after?_of_not_reaches beyond]
  cases (kind.interval world.config).isZero <;> rfl

theorem upkeepTask_outOfRange_iff (lasting : (kind.interval world.config).isZero = false) :
    world.upkeepTask kind = .finish [] (.error .outOfRange) ↔
      ¬ world.timeline.instant.Reaches (kind.interval world.config) := by
  constructor
  · intro broken reaches
    rw [upkeepTask_of_reaches lasting reaches] at broken
    cases broken
  · exact upkeepTask_of_not_reaches

/-- The background tasks are the warm-up and the upkeep of each kind. -/
structure World.Background (world after : World) : Prop where
  config : after.config = world.config
  present : after.timeline.now = world.timeline.now
  warmUp : ∃ (begun : World) (context : RequestContext), begun.config = world.config ∧
    begun.timeline.now = world.timeline.now ∧ begun.hasRuntime = world.hasRuntime ∧
    after.strands.get? world.nextStrand = some (begun.beginWarmUp [] context).2
  upkeep : ∀ kind, ∃ number ∈ after.tasks.members, after.strands.get? number = some (after.upkeepTask kind)

theorem spawnUpkeep_eq {period : Duration} (same : kind.interval world.config = period) :
    world.spawnUpkeep kind period = world.spawnTask (world.upkeepTask kind) := by
  subst same
  unfold World.spawnUpkeep World.upkeepTask
  cases Recurrence.start? world.timeline.instant (kind.interval world.config) <;> rfl

theorem nextPreload_fst (world : World) (frames : List Frame) (context : RequestContext)
    (rest : List Preload) (warmed : Nat) : (world.nextPreload frames context rest warmed).1 = world := by
  unfold World.nextPreload
  split
  · rfl
  · split
    · rfl
    · split <;> rfl

/-- The beginning of a warm-up makes a token at most. -/
theorem beginWarmUp_fst (world : World) (frames : List Frame) (context : RequestContext) :
    ∃ forest, (world.beginWarmUp frames context).1 = { world with timeline.forest := forest } := by
  by_cases reaches : world.timeline.instant.Reaches world.config.cache.warmupTimeout
  · obtain ⟨forest, child, made⟩ := exists_child?_of_reaches reaches
    exact ⟨forest, (congrArg Prod.fst (beginWarmUp_of_child? made)).trans (nextPreload_fst ..)⟩
  · exact ⟨world.timeline.forest, congrArg Prod.fst (beginWarmUp_of_not_reaches reaches)⟩

/-- A warm-up that has begun is spawned, and upkeep of each kind after it. -/
def World.spawnTasks (world : World) (warmUp : Strand) : World :=
  (((world.spawnTask warmUp).spawnUpkeep .caches world.config.cache.cleanupInterval).spawnUpkeep
    .presence world.config.metrics.onlineUserCleanupInterval).spawnUpkeep
      .uploads world.config.upload.sweepInterval

/-- The background tasks as they are defined, as an equation of functions like that of the warm-up. -/
theorem spawnBackground_def : World.spawnBackground = fun world =>
    let world := world.renewTasks
    let (world, warmUp) := world.warmUpStrand world.tasks.token
    world.spawnTask warmUp
      |>.spawnUpkeep .caches world.config.cache.cleanupInterval
      |>.spawnUpkeep .presence world.config.metrics.onlineUserCleanupInterval
      |>.spawnUpkeep .uploads world.config.upload.sweepInterval := rfl

theorem spawnBackground_eq {after : World} {strand : Strand}
    (begins : world.renewTasks.warmUpStrand world.renewTasks.tasks.token = (after, strand)) :
    world.spawnBackground = after.spawnTasks strand := by
  rw [spawnBackground_def]
  beta_reduce
  extract_lets renewed
  have begins : renewed.warmUpStrand renewed.tasks.token = (after, strand) := begins
  clear_value renewed
  rw [begins]
  rfl

/-- The warm-up of the background tasks is one under a token of its own. -/
theorem warmUpStrand_eq {token child : TokenId} {forest : TokenForest}
    (made : world.timeline.forest.child token = (forest, child)) :
    world.warmUpStrand token =
      World.beginWarmUp { world with timeline.forest := forest } [] (.withToken child) := by
  unfold World.warmUpStrand
  rw [made]

theorem spawnTasks_eq (world : World) (warmUp : Strand) :
    world.spawnTasks warmUp =
      (((world.spawnTask warmUp).spawnTask (world.upkeepTask .caches)).spawnTask
        (world.upkeepTask .presence)).spawnTask (world.upkeepTask .uploads) := by
  let caches := (world.spawnTask warmUp).spawnTask (world.upkeepTask .caches)
  have first := @spawnUpkeep_eq (world.spawnTask warmUp) .caches world.config.cache.cleanupInterval rfl
  have second := @spawnUpkeep_eq caches .presence world.config.metrics.onlineUserCleanupInterval rfl
  have third := @spawnUpkeep_eq (caches.spawnTask (world.upkeepTask .presence)) .uploads
    world.config.upload.sweepInterval rfl
  unfold World.spawnTasks
  rw [first]
  exact (congrArg (World.spawnUpkeep · .uploads _) second).trans third

/-- What has been spawned one after the other is found there. -/
theorem get?_spawnTasks (world : World) (one two three four : Strand) :
    let after := (((world.spawnTask one).spawnTask two).spawnTask three).spawnTask four
    let number := world.nextStrand
    (after.strands.get? number = some one ∧ after.strands.get? (number + 1) = some two ∧
      after.strands.get? (number + 2) = some three ∧ after.strands.get? (number + 3) = some four) ∧
    after.tasks.members = world.tasks.members ++ [number, number + 1, number + 2, number + 3] := by
  intro after number
  have strands : after.strands = (((world.strands.insert number one).insert (number + 1) two).insert
      (number + 2) three).insert (number + 3) four := rfl
  have members : after.tasks.members =
      (((world.tasks.members ++ [number]) ++ [number + 1]) ++ [number + 2]) ++ [number + 3] := rfl
  rw [strands, members]
  simp [Table.get?_insert]

theorem background_spawnTasks {begun after : World} {context : RequestContext} {strand : Strand}
    (begins : begun.beginWarmUp [] context = (after, strand)) (config : begun.config = world.config)
    (present : begun.timeline.now = world.timeline.now) (sameRuntime : begun.hasRuntime = world.hasRuntime)
    (number : begun.nextStrand = world.nextStrand) :
    world.Background (after.spawnTasks strand) := by
  obtain ⟨forest, prepared⟩ := beginWarmUp_fst begun [] context
  rw [begins] at prepared
  dsimp only at prepared
  rw [spawnTasks_eq]
  obtain ⟨⟨one, two, three, four⟩, members⟩ := get?_spawnTasks after strand (after.upkeepTask .caches)
    (after.upkeepTask .presence) (after.upkeepTask .uploads)
  subst prepared
  refine ⟨config, present, ⟨begun, context, config, present, sameRuntime, ?_⟩, fun kind => ?_⟩
  · rw [begins, ← number]
    exact one
  · have listed {index : Nat} (member : index ∈ [begun.nextStrand, begun.nextStrand + 1,
        begun.nextStrand + 2, begun.nextStrand + 3]) := members ▸ List.mem_append_right _ member
    cases kind with
    | caches => exact ⟨_, listed (by simp), two⟩
    | presence => exact ⟨_, listed (by simp), three⟩
    | uploads => exact ⟨_, listed (by simp), four⟩

theorem background_spawnBackground (world : World) : world.Background world.spawnBackground := by
  cases begins : world.renewTasks.warmUpStrand world.renewTasks.tasks.token with
  | mk after strand =>
    rw [spawnBackground_eq begins]
    cases made : world.renewTasks.timeline.forest.child world.renewTasks.tasks.token with
    | mk forest child =>
      rw [warmUpStrand_eq made] at begins
      exact background_spawnTasks begins rfl rfl rfl rfl

end Background

/-- Whatever environment the configuration is read from, its timeout and its intervals are positive numbers of
seconds. A warm-up breaks off at its beginning if and only if its deadline would be beyond the last instant; if it
is not, and there is a runtime, the warm-up ends with the number of slots that it has filled, whatever becomes of
its loads. Upkeep of a kind breaks off at its beginning if and only if its first time would be beyond the last
instant; if it is not, its task is first due then, and as long as nobody asks it to stop and the clock can be read,
it goes on, is taken up when it is due, and is done in its turn. The background tasks are a warm-up and the upkeep
of each kind. -/
theorem startup_unbroken {environment : Environment} {world : World}
    (configured : world.config = .ofEnvironment environment) :
    let now := world.timeline.instant
    let timeout := world.config.cache.warmupTimeout
    (timeout.IsPositiveSeconds ∧ ∀ kind : Upkeep, (kind.interval world.config).IsPositiveSeconds) ∧
    (∀ frames context,
      let begun := (world.beginWarmUp frames context).2
      (begun = .finish frames (.error .outOfRange) ↔ ¬ now.Reaches timeout) ∧
      (world.hasRuntime = true → now.Reaches timeout → ∀ result,
        Lives (·.hasRuntime = true) frames begun (.finish frames result) →
        ∃ filled : Nat, filled ≤ 2 ∧ result = .ok (.number filled))) ∧
    (∀ kind : Upkeep,
      let period := kind.interval world.config
      let token := world.tasks.token
      let begun := world.upkeepTask kind
      (begun = .finish [] (.error .outOfRange) ↔ ¬ now.Reaches period) ∧
      (now.Reaches period →
        begun = .finish [.upkeep kind token ⟨period, some ⟨now.nanos + period.nanos⟩⟩] (.ok .unit) ∧
        ∀ strand, Lives (fun world => world.timeline.forest.isCancelled token = false ∧
          world.clockFails = false) [] begun strand → Tends kind token period strand) ∧
      ∀ (later : World) recurrence, later.timeline.forest.isCancelled token = false →
        later.wake? (.wait [.upkeep kind token recurrence] (.cancellation token recurrence.due)) =
          (if (recurrence.due.map Instant.wakeMillis).any (· ≤ later.timeline.now) then
            some (.resume [.upkeep kind token recurrence])
          else none) ∧
        (later.clockFails = false →
          (later.turn [.upkeep kind token recurrence] .go).1 = later.swept kind)) ∧
    world.Background world.spawnBackground := by
  intro now timeout
  have positive (kind : Upkeep) : (kind.interval world.config).IsPositiveSeconds :=
    configured ▸ kind.isPositiveSeconds_interval environment
  have positiveTimeout : world.config.cache.warmupTimeout.IsPositiveSeconds :=
    configured ▸ environment.isPositiveSeconds_warmupTimeout
  refine ⟨⟨positiveTimeout, positive⟩, fun frames context => ?warmUp, fun kind => ?upkeep,
    background_spawnBackground world⟩
  case warmUp =>
    exact ⟨beginWarmUp_outOfRange_iff, fun runtime reaches _ => filled_of_lives runtime reaches⟩
  case upkeep =>
    have lasting := (positive kind).not_isZero
    refine ⟨upkeepTask_outOfRange_iff lasting, fun reaches => ⟨upkeepTask_of_reaches lasting reaches, ?_⟩,
      fun later recurrence runs => ⟨wake?_upkeep runs, turn_upkeep runs⟩⟩
    intro strand lives
    rw [upkeepTask_of_reaches lasting reaches] at lives
    exact tends_of_lives ⟨[], _, rfl, rfl⟩ lives

/-- Nothing is set in the environment, and the repository fails: the warm-up has filled no slot when it is over, and
the first sweep of uploads is due after ten minutes. -/
theorem startup_unbroken_of_failure :
    let failure : ServiceError := .repository "down"
    let world : World := {
      config := .ofEnvironment ∅
      timeline := { forest := (TokenForest.root {}).1 }
      wallAtStart := 0
      manualClock := 0
      cache := .create {}
      telemetry := { daily := .create (.ofMillis 0), realtime := .create {} (Timestamp.ofMillis 0) }
      uploads := { config := {} }
      blobs := { publicBaseUrl := "" }
      rules := [.mk .categories none 1 0 (some failure) [] false true,
        .mk .tags none 1 0 (some failure) [] false true]
      tasks := { token := 0 } }
    let begun := (world.beginWarmUp [] (.withToken 0)).2
    world.timeline.instant.Reaches world.config.cache.warmupTimeout ∧
    Lives (·.hasRuntime = true) [] begun (.finish [] (.ok (.number 0))) ∧
    begun ≠ .finish [] (.error .outOfRange) ∧
    (∃ filled : Nat, filled ≤ 2 ∧ (.ok (.number 0) : Result) = .ok (.number filled)) ∧
    world.timeline.instant.Reaches (Upkeep.uploads.interval world.config) ∧
    world.upkeepTask .uploads =
      .finish [.upkeep .uploads 0 ⟨.ofSeconds 600, some ⟨600000000000⟩⟩] (.ok .unit) := by
  intro failure world begun
  let child : RequestContext := ⟨some ⟨30000000000⟩, 1⟩
  obtain ⟨-, warmUp, upkeep, -⟩ := startup_unbroken (show world.config = .ofEnvironment ∅ from rfl)
  have reaches : world.timeline.instant.Reaches world.config.cache.warmupTimeout := by decide +kernel
  have made : (RequestContext.withToken 0).child? world.timeline.forest world.timeline.instant
      world.config.cache.warmupTimeout = some ((world.timeline.forest.child 0).1, child) := by
    have deadline : world.timeline.instant.nanos + world.config.cache.warmupTimeout.nanos = 30000000000 := by
      decide +kernel
    unfold RequestContext.child?
    rw [Instant.after?_of_reaches reaches, deadline]
    rfl
  have begins : begun = .resume [.load child .categories .categories (.warm [.tags] 0) .fresh] :=
    congrArg Prod.snd (beginWarmUp_of_child? made)
  have first : Lives (·.hasRuntime = true) [] begun
      (.resume [.load child .categories .categories (.warm [.tags] 0) .fresh]) := by
    rw [begins]
    exact .begun
  have second : Lives (·.hasRuntime = true) [] begun
      (.resume [.load child .tags .tags (.warm [] 0) .fresh]) := .turned world first (by simp) rfl
  have lives : Lives (·.hasRuntime = true) [] begun (.finish [] (.ok (.number 0))) :=
    .turned world second (by simp) rfl
  have inTime : world.timeline.instant.Reaches (Upkeep.uploads.interval world.config) := by decide +kernel
  have period : Upkeep.uploads.interval world.config = .ofSeconds 600 := by decide +kernel
  have due : world.timeline.instant.nanos + (Duration.ofSeconds 600).nanos = 600000000000 := by decide +kernel
  have task := ((upkeep .uploads).2.1 inTime).1
  rw [period, due] at task
  exact ⟨reaches, lives, fun broken => ((warmUp [] _).1.1 broken) reaches, (warmUp [] _).2 rfl reaches _ lives,
    inTime, task⟩

/-- With as many seconds as an environment can ask for, no warm-up and no sweep of uploads begins. -/
theorem startup_broken :
    let environment : Environment :=
      Table.insert (Table.insert ∅ "CACHE_WARMUP_TIMEOUT_SECS" "18446744073709551615".toUTF8)
        "UPLOAD_SWEEP_INTERVAL_SECS" "18446744073709551615".toUTF8
    let world : World := {
      config := .ofEnvironment environment
      wallAtStart := 0
      manualClock := 0
      cache := .create {}
      telemetry := { daily := .create (.ofMillis 0), realtime := .create {} (Timestamp.ofMillis 0) }
      uploads := { config := {} }
      blobs := { publicBaseUrl := "" }
      tasks := { token := 0 } }
    (world.beginWarmUp [] (.withToken 0)).2 = .finish [] (.error .outOfRange) ∧
      world.upkeepTask .uploads = .finish [] (.error .outOfRange) := by
  intro environment world
  have warmUp : ¬ world.timeline.instant.Reaches world.config.cache.warmupTimeout := by decide +kernel
  have sweep : ¬ world.timeline.instant.Reaches (Upkeep.uploads.interval world.config) := by decide +kernel
  exact ⟨beginWarmUp_outOfRange_iff.2 warmUp, upkeepTask_of_not_reaches sweep⟩

end Scenario

end Community
