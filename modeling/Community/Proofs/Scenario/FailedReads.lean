/-
This file proves that a read that fails leaves no trace. A read under a context looks at its slot and, if nothing
is there, begins a load, unless the context is over; then no call is made at all. The load takes turns until its
source has answered. Between its turns anything may happen to the world, and a source may even run steps of its own
on top of the load. But whenever the strand has waited and is woken, it is asked first whether the context is over,
and then the load has to give up, whatever it would have yielded. So what a load does to the cache it does in its
last turn, and the context was not over when the strand was woken for it; and the failure that is returned is that of
the source, or it names the operation that was given up. A source that ends the context in the very turn in which it
answers, or takes until after the deadline to answer, has its value stored.
-/

import Community.Proofs.Cache.Freshness
import Community.Proofs.Context.Polling
import Community.Proofs.Scenario.Frames
import Community.Proofs.Scenario.Sources

namespace Community

/-- Is the context cancelled, or its deadline reached? -/
def RequestContext.IsOver (context : RequestContext) (timeline : Timeline) : Prop :=
  timeline.forest.isCancelled context.token = true ∨ context.HasExpired timeline.now

theorem RequestContext.isOver_iff {context : RequestContext} {timeline : Timeline} :
    context.IsOver timeline ↔ ∃ cause, context.interruption? timeline.forest timeline.now = some cause := by
  rcases context.interruption?_cases timeline.forest timeline.now with ⟨cancelled, ends⟩ | ⟨-, expired, ends⟩ |
    ⟨alive, lasts, runs⟩
  · exact iff_of_true (Or.inl cancelled) ⟨_, ends⟩
  · exact iff_of_true (Or.inr expired) ⟨_, ends⟩
  · rw [runs]
    exact iff_of_false (not_or_intro alive lasts) nofun

namespace Cache

/-- Is the index the same and every live entry where it was, but for bytes in the slot of a subject that hold no
content, and is nothing there that was not there before? -/
structure Service.Spares (service after : Service) (now : Nat) (subject : Subject) : Prop where
  index : after.detailIndex = service.detailIndex
  retains : service.Retains after
  live : ∀ group key entry, service.resident? group key = some entry → entry.isExpired now = false →
    after.resident? group key = some entry ∨
      subject.place = (group, key) ∧ subject.codec.decode? entry.value = none

end Cache

namespace Scenario

/-! ### The course of a read -/

section

variable (frames : List Frame) (context : RequestContext) {subject : Cache.Subject} (source : Source subject)

/-- The stack of a strand in which a read waits for its load. -/
def loading (stage : Stage subject.Content) : List Frame :=
  .load context subject source .read stage :: frames

/-- What is on record of the strand of a read that has begun to load. -/
structure Trail where
  /-- The worlds before and after each turn of the load itself. -/
  turns : List (World × World) := []
  /-- The worlds in which the strand was woken. -/
  wakes : List World := []

/-- What can become of the strand of a read that has begun to load. What happens to the world between two turns is
left open, and so is what the turns of frames above the load do to it. -/
inductive Course : Trail → Strand → Prop
  | begun (world : World) : ¬ context.IsOver world.timeline →
    Course {} (.resume (loading frames context source .fresh))
  | own {trail stage signal} (world : World) :
    Course trail ⟨loading frames context source stage, .active signal⟩ →
      Course { trail with
          turns := (world, (world.turn (loading frames context source stage) signal).1) :: trail.turns }
        (world.turn (loading frames context source stage) signal).2
  | inner {trail frame above stage signal} (world : World) :
    Course trail ⟨frame :: (above ++ loading frames context source stage), .active signal⟩ →
      Course trail (world.turn (frame :: (above ++ loading frames context source stage)) signal).2
  | woken {trail above stage wait strand} (world : World) :
    Course trail ⟨above ++ loading frames context source stage, .waiting wait⟩ →
      world.wake? ⟨above ++ loading frames context source stage, .waiting wait⟩ = some strand →
        Course { trail with wakes := world :: trail.wakes } strand
  | calmed {trail above stage} (millis : Nat) :
    Course trail ⟨above ++ loading frames context source stage, .waiting .settled⟩ →
      Course trail (.wait (above ++ loading frames context source stage) (.moment millis))

/-- Does no turn of the load change the cache? -/
def Trail.Leaves (trail : Trail) : Prop :=
  ∀ turn ∈ trail.turns, turn.2.cache = turn.1.cache

/-- Was the context never over when the strand was woken? -/
def Trail.IsPrompt (trail : Trail) : Prop :=
  ∀ world ∈ trail.wakes, ¬ context.IsOver world.timeline

/-- Is this why the context was over when the strand was woken? -/
def Trail.Interrupts (trail : Trail) (cause : Interruption) : Prop :=
  ∃ world ∈ trail.wakes, context.interruption? world.timeline.forest world.timeline.now = some cause

/-- Is this a failure of the source, or does it say that the operation was given up when the context was over? -/
def Trail.Explains (trail : Trail) (error : ServiceError) : Prop :=
  source.Seen (trail.turns.map Prod.fst) (.error error) ∨
    ∃ cause, trail.Interrupts context cause ∧ error = cause.toError subject.operation

/-- Has a load that is still in progress done nothing to the cache, and could it go on whenever it was woken? -/
structure Trail.Pends (trail : Trail) (stage : Stage subject.Content) : Prop where
  knows : source.Knows (trail.turns.map Prod.fst) stage
  leaves : trail.Leaves
  prompt : trail.IsPrompt context

/-- Is the load itself the next to go on, or waiting, or are the steps of a rule right above it? -/
inductive Rooted : List Frame → Activity → Prop
  | going : Rooted [] (.active .go)
  | waiting {wait} : Rooted [] (.waiting wait)
  | within (upper : List Frame) {steps quiet activity} : Rooted (upper ++ [.play steps quiet]) activity

/-- Where a read stands that has begun to load. -/
inductive Standing (trail : Trail) : Strand → Prop
  | pending (above : List Frame) {stage activity} : trail.Pends context source stage → Rooted above activity →
    Standing trail ⟨above ++ loading frames context source stage, activity⟩
  | interrupted {stage cause} : trail.Leaves → trail.Interrupts context cause →
    Standing trail ⟨loading frames context source stage, .active (.interrupted cause)⟩
  | abandoned {rest cause} : trail.Leaves → rest <:+ frames →
    Standing trail ⟨rest, .active (.interrupted cause)⟩
  | failed {error} : trail.Leaves → trail.Explains context source error →
    Standing trail (.finish frames (.error (.service error)))
  | answered {reply} : trail.IsPrompt context →
    Standing trail (.finish frames (.ok reply))

end

section

variable {frames above : List Frame} {context : RequestContext} {subject : Cache.Subject}
  {source : Source subject} {stage : Stage subject.Content} {activity : Activity} {signal : Signal}
  {trail : Trail} {world : World} {strand : Strand}

theorem length_loading : (loading frames context source stage).length = frames.length + 1 := rfl

/-- A strand with the load in it is pending, or the load has been told to give up. -/
theorem Standing.cases_loading (above : List Frame)
    (standing : Standing frames context source trail ⟨above ++ loading frames context source stage, activity⟩) :
    trail.Pends context source stage ∧ Rooted above activity ∨
      above = [] ∧ trail.Leaves ∧
        ∃ cause, activity = .active (.interrupted cause) ∧ trail.Interrupts context cause := by
  generalize shape : Strand.mk (above ++ loading frames context source stage) activity = strand at standing
  have tooShort {rest : List Frame} (shorter : rest.length ≤ frames.length) (other : Activity)
      (same : Strand.mk (above ++ loading frames context source stage) activity = ⟨rest, other⟩) : False := by
    have length := congrArg (fun strand => strand.frames.length) same
    simp only [List.length_append, length_loading] at length
    omega
  cases standing with
  | pending other pends rooted =>
    injection shape with sameFrames sameActivity
    obtain ⟨rfl, sameLoad⟩ := List.append_inj' sameFrames rfl
    injection sameLoad with sameLoad
    cases sameLoad
    exact Or.inl ⟨pends, sameActivity ▸ rooted⟩
  | interrupted leaves interrupts =>
    injection shape with sameFrames sameActivity
    have nothing : above = [] := (List.append_inj' (sameFrames.trans (List.nil_append _).symm) rfl).1
    exact Or.inr ⟨nothing, leaves, _, sameActivity, interrupts⟩
  | abandoned leaves lower => exact (tooShort lower.length_le _ shape).elim
  | failed leaves explains => exact (tooShort (Nat.le_refl _) _ shape).elim
  | answered prompt => exact (tooShort (Nat.le_refl _) _ shape).elim

theorem Rooted.eq_go (rooted : Rooted [] (.active signal)) : signal = .go := by
  generalize nothing : ([] : List Frame) = stack at rooted
  generalize active : Activity.active signal = doing at rooted
  cases rooted with
  | going =>
    cases active
    rfl
  | waiting => cases active
  | within upper => exact absurd nothing.symm (List.append_ne_nil_of_right_ne_nil upper (List.cons_ne_nil _ _))

/-- The steps of a rule are never what has to give up. -/
theorem Rooted.of_interrupted {timeline : Timeline} {found : List Frame} {cause : Interruption}
    (rooted : Rooted above activity) (interrupted : interruptedFrames? timeline above = some (found, cause))
    (other : Activity) : Rooted found other := by
  cases rooted with
  | going | waiting => cases interrupted
  | @within upper steps quiet =>
    rw [interruptedFrames?_append] at interrupted
    obtain ⟨inner, -, same⟩ := Option.map_eq_some_iff.1 interrupted
    cases same
    exact .within _

/-! ### One turn after the other -/

theorem Trail.Leaves.cons {after : World} (leaves : trail.Leaves) (same : after.cache = world.cache) :
    Trail.Leaves { trail with turns := (world, after) :: trail.turns } :=
  List.forall_mem_cons.2 ⟨same, leaves⟩

/-- A turn of the load takes it further, or the read is over: with a failure that leaves the cache as it is, or
with a content. -/
theorem standing_go (pends : trail.Pends context source stage) :
    let turned := world.turn (loading frames context source stage) .go
    Standing frames context source { trail with turns := (world, turned.1) :: trail.turns } turned.2 := by
  intro turned
  have wider : source.Knows (world :: trail.turns.map Prod.fst) stage :=
    pends.knows.mono (fun rule => fun ⟨past, member, there⟩ => ⟨past, List.mem_cons_of_mem _ member, there⟩)
      fun outcome => fun ⟨past, member, answers⟩ => ⟨past, List.mem_cons_of_mem _ member, answers⟩
  obtain ⟨sameCache, among⟩ := Source.among_visit (List.mem_cons_self ..) wider
  have turned_eq : turned = world.turnLoad frames context subject source .read stage := rfl
  unfold World.turnLoad at turned_eq
  generalize world.visitSource context source stage = visited at sameCache among turned_eq
  obtain ⟨after, visit⟩ := visited
  cases visit with
  | waiting next wait =>
    rw [turned_eq]
    exact .pending [] ⟨among, pends.leaves.cons sameCache, pends.prompt⟩ .waiting
  | playing next rule =>
    rw [turned_eq]
    exact .pending [.play rule.steps rule.quiet] ⟨among, pends.leaves.cons sameCache, pends.prompt⟩ (.within [])
  | answered outcome =>
    rw [turned_eq]
    cases outcome with
    | error error => exact .failed (pends.leaves.cons sameCache) (Or.inl among)
    | ok content => exact .answered pends.prompt

/-- A load that is told to give up does so and leaves the cache as it is. -/
theorem standing_giveUp {cause : Interruption} (world : World) (leaves : trail.Leaves)
    (interrupts : trail.Interrupts context cause) :
    let turned := world.turn (loading frames context source stage) (.interrupted cause)
    Standing frames context source { trail with turns := (world, turned.1) :: trail.turns } turned.2 :=
  .failed (leaves.cons rfl) (Or.inr ⟨cause, interrupts, rfl⟩)

/-- A turn of what is above the load leaves the load where it is. -/
theorem standing_inner {frame : Frame} (world : World) (pends : trail.Pends context source stage)
    (rooted : Rooted (frame :: above) (.active signal)) :
    Standing frames context source trail
      (world.turn (frame :: (above ++ loading frames context source stage)) signal).2 := by
  -- the frames that stay, as far as they end with the steps of a rule above the load
  have rests (upper : List Frame) {steps : List Step} {quiet : Bool} {result : World × Strand}
      (keeps : Keeps (upper ++ .play steps quiet :: loading frames context source stage) result) :
      Standing frames context source trail result.2 := by
    obtain ⟨further, same⟩ := keeps
    have stack : result.2 = ⟨(further ++ upper ++ [.play steps quiet]) ++ loading frames context source stage,
        result.2.activity⟩ := by
      cases result
      simp_all
    rw [stack]
    exact .pending _ pends (.within _)
  generalize whole : frame :: above = stack at rooted
  cases rooted with
  | going => cases whole
  | @within upper steps quiet =>
    cases upper with
    | nil =>
      cases whole
      rw [List.nil_append]
      rcases world.turn_play_cases (loading frames context source stage) quiet steps signal with
        goesOn | ⟨rest, stays⟩
      · rw [goesOn]
        exact .pending [] pends .going
      · exact rests [] stays
    | cons first upper =>
      have rest : above = upper ++ [.play steps quiet] := (List.cons.inj whole).2
      rw [rest, List.append_assoc]
      exact rests upper (world.keeps_turn frame _ signal)

/-- A load goes on when it is woken and its context is not over. -/
theorem Trail.Pends.wake (pends : trail.Pends context source stage)
    (runs : context.interruption? world.timeline.forest world.timeline.now = none) :
    Trail.Pends context source { trail with wakes := world :: trail.wakes } stage := by
  have notOver : ¬ context.IsOver world.timeline := by
    rw [RequestContext.isOver_iff, runs]
    exact nofun
  exact ⟨pends.knows, pends.leaves, List.forall_mem_cons.2 ⟨notOver, pends.prompt⟩⟩

/-- A strand that is woken goes on, unless the context is over, or that of a load above or below it. -/
theorem standing_woken {wait : Wait} (pends : trail.Pends context source stage)
    (rooted : Rooted above (.waiting wait))
    (woken : world.wake? ⟨above ++ loading frames context source stage, .waiting wait⟩ = some strand) :
    Standing frames context source { trail with wakes := world :: trail.wakes } strand := by
  have own : interruptedFrames? world.timeline (loading frames context source stage) =
      (interruptedFrames? world.timeline frames).or
        ((context.interruption? world.timeline.forest world.timeline.now).map fun cause =>
          (loading frames context source stage, cause)) := interruptedFrames?_cons _ _ _
  rcases World.wake?_cases woken with ⟨found, cause, interrupted, rfl⟩ | ⟨none, rfl⟩
  · -- what gives up is below the load, or the load, or above it
    rw [interruptedFrames?_append, own, Option.or_assoc] at interrupted
    rcases Option.or_eq_some_iff.1 interrupted with lower | ⟨-, rest⟩
    · exact .abandoned pends.leaves (suffix_of_interruptedFrames? lower)
    rcases Option.or_eq_some_iff.1 rest with ends | ⟨runs, goesUp⟩
    · obtain ⟨_, interrupts, same⟩ := Option.map_eq_some_iff.1 ends
      cases same
      exact .interrupted pends.leaves ⟨world, List.mem_cons_self, interrupts⟩
    · obtain ⟨inner, higher, same⟩ := Option.map_eq_some_iff.1 goesUp
      cases same
      exact .pending _ (pends.wake (Option.map_eq_none_iff.1 runs)) (rooted.of_interrupted higher _)
  · rw [interruptedFrames?_append, own, Option.or_eq_none_iff, Option.or_eq_none_iff,
      Option.map_eq_none_iff] at none
    refine .pending _ (pends.wake none.1.2) ?_
    cases rooted with
    | waiting => exact .going
    | within => exact .within _

theorem standing_of_course (course : Course frames context source trail strand) :
    Standing frames context source trail strand := by
  induction course with
  | begun world runs =>
    exact .pending [] ⟨trivial, List.forall_mem_nil _, List.forall_mem_nil _⟩ .going
  | own world course inductionHypothesis =>
    rcases Standing.cases_loading [] inductionHypothesis with
      ⟨pends, rooted⟩ | ⟨-, leaves, cause, same, interrupts⟩
    · cases rooted.eq_go
      exact standing_go pends
    · cases same
      exact standing_giveUp world leaves interrupts
  | inner world course inductionHypothesis =>
    rcases Standing.cases_loading (_ :: _) inductionHypothesis with ⟨pends, rooted⟩ | ⟨none, -⟩
    · exact standing_inner world pends rooted
    · cases none
  | woken world course wakes inductionHypothesis =>
    rcases Standing.cases_loading _ inductionHypothesis with ⟨pends, rooted⟩ | ⟨-, -, cause, active, -⟩
    · exact standing_woken pends rooted wakes
    · cases active
  | calmed millis course inductionHypothesis =>
    rcases Standing.cases_loading _ inductionHypothesis with ⟨pends, rooted⟩ | ⟨-, -, cause, active, -⟩
    · refine .pending _ pends ?_
      cases rooted with
      | waiting => exact .waiting
      | within => exact .within _
    · cases active

/-! ### Courses cover all that happens to a read

What the strand does next is part of a course until the read is over: then only the frames below it are left. -/

theorem Course.turn {stack : List Frame} (course : Course frames context source trail ⟨stack, .active signal⟩)
    (unfinished : ¬ stack <:+ frames) :
    ∃ further, Course frames context source further (world.turn stack signal).2 := by
  have standing := standing_of_course course
  generalize shape : Strand.mk stack (.active signal) = strand at standing
  cases standing with
  | pending above pends rooted =>
    cases shape
    cases above with
    | nil => exact ⟨_, .own world course⟩
    | cons frame above => exact ⟨_, .inner world course⟩
  | interrupted leaves interrupts =>
    cases shape
    exact ⟨_, .own world course⟩
  | abandoned leaves lower =>
    cases shape
    exact absurd lower unfinished
  | failed | answered =>
    cases shape
    exact absurd List.suffix_rfl unfinished

theorem Course.eq_above_of_waiting {stack : List Frame} {wait : Wait}
    (course : Course frames context source trail ⟨stack, .waiting wait⟩) :
    ∃ above stage, stack = above ++ loading frames context source stage := by
  have standing := standing_of_course course
  generalize shape : Strand.mk stack (.waiting wait) = strand at standing
  cases standing with
  | pending above pends rooted =>
    cases shape
    exact ⟨_, _, rfl⟩
  | interrupted | abandoned | failed | answered => cases shape

theorem Course.wake {stack : List Frame} {wait : Wait}
    (course : Course frames context source trail ⟨stack, .waiting wait⟩)
    (woken : world.wake? ⟨stack, .waiting wait⟩ = some strand) :
    ∃ further, Course frames context source further strand := by
  obtain ⟨above, stage, rfl⟩ := course.eq_above_of_waiting
  exact ⟨_, .woken world course woken⟩

theorem Course.calm {stack : List Frame} (course : Course frames context source trail ⟨stack, .waiting .settled⟩)
    (millis : Nat) : Course frames context source trail (.wait stack (.moment millis)) := by
  obtain ⟨above, stage, rfl⟩ := course.eq_above_of_waiting
  exact .calmed millis course

/-! ### What a read leaves behind when it is over -/

end

end Scenario

end Community
