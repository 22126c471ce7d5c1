/-
This file says how the stack of a strand changes. A turn takes the frame on top away or puts frames above those
below it; what lies below the top stays as it is. When a strand is woken its stack stays as it is, or all above the
outermost frame that has to give up is given up.
-/

import Mathlib.Tactic.DefEqTransformations
import Community.Scenario.Run

namespace Community.Scenario

/-- Are the frames still at the bottom of the strand? -/
def Keeps (frames : List Frame) (result : World × Strand) : Prop :=
  frames <:+ result.2.frames

namespace World

/-! ### Parts of steps -/

theorem keeps_followUpload (frames : List Frame) (progress : World × Option Upload.Progress) :
    Keeps frames (followUpload frames progress) := by
  unfold followUpload
  split
  · exact List.suffix_cons _ _
  · exact List.suffix_rfl
  · exact List.suffix_rfl

theorem keeps_nextPreload (world : World) (frames : List Frame) (context : RequestContext)
    (rest : List Preload) (warmed : Nat) : Keeps frames (world.nextPreload frames context rest warmed) := by
  unfold nextPreload
  split
  · exact List.suffix_rfl
  · split
    · exact List.suffix_rfl
    · split
      · exact List.suffix_rfl
      · exact List.suffix_cons _ _

theorem keeps_endLoad (world : World) (frames : List Frame) (context : RequestContext)
    (subject : Cache.Subject) (purpose : Purpose) (outcome : Outcome subject.Content) :
    Keeps frames (world.endLoad frames context subject purpose outcome) := by
  unfold endLoad
  split
  · exact List.suffix_rfl
  · split
    · exact keeps_nextPreload ..
    · exact keeps_nextPreload ..

theorem keeps_beginLoad (world : World) (frames : List Frame) (context : RequestContext)
    (subject : Cache.Subject) (source : Source subject) :
    Keeps frames (world.beginLoad frames context subject source) := by
  unfold beginLoad
  split
  · exact keeps_endLoad ..
  · split
    · exact List.suffix_rfl
    · exact List.suffix_cons _ _

theorem keeps_beginRead (world : World) (frames : List Frame) (subject : Cache.Subject)
    (source : Source subject) (patience : Patience) :
    Keeps frames (world.beginRead frames subject source patience) := by
  unfold beginRead
  split
  · exact List.suffix_rfl
  · unfold readUnder
    split
    · exact List.suffix_rfl
    · exact keeps_beginLoad ..

/-- The warm-up as it is defined. This is an equation of functions, because to compare their values it would be
computed how far the range of instants goes. -/
theorem beginWarmUp_def : beginWarmUp = fun world frames context =>
    match context.child? world.timeline.forest world.timeline.instant world.config.cache.warmupTimeout with
    | none => world.outOfRange frames
    | some (forest, child) =>
      nextPreload { world with timeline.forest := forest } frames child [.categories, .tags] 0 := rfl

theorem keeps_beginWarmUp (world : World) (frames : List Frame) (context : RequestContext) :
    Keeps frames (world.beginWarmUp frames context) := by
  rw [beginWarmUp_def]
  beta_reduce
  generalize context.child? _ _ _ = made
  cases made with
  | none => exact List.suffix_rfl
  | some made => exact keeps_nextPreload ..

theorem keeps_awaitTasks (frames : List Frame) (started : Nat) (grace : Duration) (tasks : List StrandId)
    (world : World) : Keeps frames (awaitTasks frames started grace tasks world) := by
  induction tasks generalizing world with
  | nil => exact List.suffix_rfl
  | cons task rest inductionHypothesis =>
    unfold awaitTasks
    dsimp only
    split
    · exact inductionHypothesis world
    · split
      · exact inductionHypothesis _
      · exact List.suffix_cons _ _

theorem keeps_reap (world : World) (frames : List Frame) (reaped : Cache.Service × Nat) :
    Keeps frames (world.reap frames reaped) := by
  cases reaped
  exact List.suffix_rfl

theorem keeps_askDirectly (world : World) (frames : List Frame) (request : Blob.Request) :
    Keeps frames (world.askDirectly frames request) := by
  unfold askDirectly
  dsimp only
  split <;> exact List.suffix_rfl

theorem keeps_perform (world : World) (frames : List Frame) (step : Step) :
    Keeps frames (world.perform frames step) := by
  cases step with
  | advance millis => exact List.suffix_append [_, _] frames
  | read subject source patience => exact keeps_beginRead ..
  | warmUp patience =>
    unfold perform
    dsimp only
    split
    · exact List.suffix_rfl
    · exact keeps_beginWarmUp ..
  | upload call => exact keeps_followUpload ..
  | blob request => exact keeps_askDirectly ..
  | shutdown grace => exact keeps_awaitTasks ..
  | invalidateArticle | pruneIndex | cleanup => exact keeps_reap ..
  | spawnBackground =>
    unfold perform
    dsimp only
    split
    · exact List.suffix_cons _ _
    · exact List.suffix_rfl
  | moveClock millis =>
    unfold perform moveClock
    dsimp only
    split <;> exact List.suffix_rfl
  | readClock | finishRequest | dropRequest | pushTask =>
    unfold perform
    dsimp only
    split <;> exact List.suffix_rfl
  | _ => exact List.suffix_rfl

theorem keeps_beginStep (world : World) (frames : List Frame) (step : Step) :
    Keeps frames (world.beginStep frames step) := by
  unfold beginStep
  dsimp only
  split
  · unfold breakOff
    split <;> exact List.suffix_rfl
  · exact keeps_perform ..

/-! ### Turns -/

theorem keeps_turnUpload (world : World) (frames : List Frame) (call : Upload.Pending)
    (stage : Stage call.request.Answer) : Keeps frames (world.turnUpload frames call stage) := by
  unfold turnUpload
  split
  · exact keeps_followUpload ..
  · exact List.suffix_cons _ _
  · exact List.suffix_append [_, _] frames

theorem keeps_turnLoad (world : World) (frames : List Frame) (context : RequestContext)
    (subject : Cache.Subject) (source : Source subject) (purpose : Purpose) (stage : Stage subject.Content) :
    Keeps frames (world.turnLoad frames context subject source purpose stage) := by
  unfold turnLoad
  split
  · exact keeps_endLoad ..
  · exact List.suffix_cons _ _
  · exact List.suffix_append [_, _] frames

theorem keeps_maintain (world : World) (frames : List Frame) (kind : Upkeep) (token : TokenId)
    (recurrence : Recurrence) : Keeps frames (world.maintain frames kind token recurrence) := by
  unfold maintain
  split
  · exact List.suffix_rfl
  · cases kind with
    | caches => exact List.suffix_cons _ _
    | presence =>
      dsimp only
      split
      · exact List.suffix_rfl
      · exact List.suffix_cons _ _
    | uploads =>
      dsimp only
      split
      · exact List.suffix_rfl
      · exact (List.suffix_cons _ _).trans (keeps_followUpload ..)

/-- When the steps of a rule are over the frame below goes on; else the steps that are left stay where they
are. -/
theorem turnPlay_cases (world : World) (frames : List Frame) (quiet : Bool) (steps : List Step) :
    (world.turnPlay frames quiet steps).2 = .resume frames ∨
      ∃ rest, Keeps (.play rest quiet :: frames) (world.turnPlay frames quiet steps) := by
  cases steps with
  | nil => exact Or.inl rfl
  | cons step rest => exact Or.inr ⟨rest, keeps_beginStep ..⟩

/-- A turn of the steps of a rule leads to the frame below, or these or later steps stay where they are. -/
theorem turn_play_cases (world : World) (frames : List Frame) (quiet : Bool) (steps : List Step)
    (signal : Signal) :
    (world.turn (.play steps quiet :: frames) signal).2 = .resume frames ∨
      ∃ rest, Keeps (.play rest quiet :: frames) (world.turn (.play steps quiet :: frames) signal) := by
  cases signal with
  | go => exact world.turnPlay_cases frames quiet steps
  | ended result => exact turnPlay_cases _ frames quiet steps
  | interrupted cause => exact Or.inr ⟨steps, List.suffix_rfl⟩

theorem keeps_turn (world : World) (frame : Frame) (frames : List Frame) (signal : Signal) :
    Keeps frames (world.turn (frame :: frames) signal) := by
  cases frame with
  | play steps quiet =>
    rcases world.turn_play_cases frames quiet steps signal with goesOn | ⟨rest, stays⟩
    · rw [Keeps, goesOn]
      exact List.suffix_rfl
    · exact (List.suffix_cons _ _).trans stays
  | conclude result => cases signal <;> first | exact List.suffix_rfl | exact List.suffix_cons _ _
  | upload call stage => cases signal <;> first | exact keeps_turnUpload .. | exact List.suffix_cons _ _
  | load context subject source purpose stage =>
    cases signal with
    | go => exact keeps_turnLoad ..
    | ended result => exact List.suffix_cons _ _
    | interrupted cause => exact keeps_endLoad ..
  | upkeep kind token recurrence =>
    cases signal <;> first | exact keeps_maintain .. | exact List.suffix_cons _ _
  | settle => cases signal <;> first | exact List.suffix_rfl | exact List.suffix_cons _ _
  | linger millis => cases signal <;> exact List.suffix_cons _ _
  | shutdown started current rest grace =>
    cases signal <;> first | exact keeps_awaitTasks .. | exact List.suffix_cons _ _

end World

/-! ### Waking up -/

/-- The outermost frame that has to give up is found first among those that lie lower. -/
theorem interruptedFrames?_cons (timeline : Timeline) (frame : Frame) (frames : List Frame) :
    interruptedFrames? timeline (frame :: frames) = (interruptedFrames? timeline frames).or
      ((frame.interruption? timeline).map fun cause => (frame :: frames, cause)) := by
  rw [interruptedFrames?]
  cases interruptedFrames? timeline frames <;> rfl

theorem interruptedFrames?_append (timeline : Timeline) (above frames : List Frame) :
    interruptedFrames? timeline (above ++ frames) = (interruptedFrames? timeline frames).or
      ((interruptedFrames? timeline above).map fun found => (found.1 ++ frames, found.2)) := by
  induction above with
  | nil => exact (Option.or_none).symm
  | cons frame above inductionHypothesis =>
    rw [List.cons_append, interruptedFrames?_cons, inductionHypothesis, interruptedFrames?_cons, Option.or_assoc,
      Option.map_or, Option.map_map]
    rfl

theorem suffix_of_interruptedFrames? {timeline : Timeline} {frames found : List Frame} {cause : Interruption}
    (interrupted : interruptedFrames? timeline frames = some (found, cause)) : found <:+ frames := by
  induction frames with
  | nil => cases interrupted
  | cons frame frames inductionHypothesis =>
    rw [interruptedFrames?_cons] at interrupted
    rcases Option.or_eq_some_iff.1 interrupted with inner | ⟨-, own⟩
    · exact (inductionHypothesis inner).trans (List.suffix_cons _ _)
    · obtain ⟨_, -, same⟩ := Option.map_eq_some_iff.1 own
      cases same
      exact List.suffix_rfl

/-- A strand that is woken gives up what has to be given up, or goes on as it is. -/
theorem World.wake?_cases {world : World} {frames : List Frame} {wait : Wait} {strand : Strand}
    (woken : world.wake? ⟨frames, .waiting wait⟩ = some strand) :
    (∃ found cause, interruptedFrames? world.timeline frames = some (found, cause) ∧
      strand = ⟨found, .active (.interrupted cause)⟩) ∨
    interruptedFrames? world.timeline frames = none ∧ strand = .resume frames := by
  unfold World.wake? at woken
  dsimp only at woken
  split at woken
  · next found cause interrupted =>
    cases woken
    exact Or.inl ⟨found, cause, interrupted, rfl⟩
  · next runs =>
    split at woken
    · cases woken
      exact Or.inr ⟨runs, rfl⟩
    · cases woken

end Community.Scenario
