/-
This file describes work that is under way in a scenario. A strand of work is a stack of frames, the
innermost first, and what its innermost part is doing: it waits for something, or it is active with a signal
for the frame on top. The step of a scenario is a strand, and so is every background task.

Interruption works from outside in: when the patience of a load is at its end, all frames above the load are
given up, whatever they were waiting for.
-/

import Community.Context.Timeline
import Community.Scenario.Step
import Community.Time.Recurrence

namespace Community.Scenario

/-- The number of a strand; the scenario's own step is strand zero. -/
abbrev StrandId := Nat

/-- How far a call has come on its way through a rule. -/
inductive Stage (α : Type) where
  /-- The call has not been made. -/
  | fresh
  /-- The delay of a rule is running. -/
  | delayed (rule : Rule)
  /-- What a rule does before the call is over. -/
  | reached (rule : Rule)
  /-- The outcome is there but must not be seen yet. -/
  | holding (outcome : Outcome α)

/-- The slots that a warm-up fills. -/
inductive Preload where
  | categories
  | tags
  deriving DecidableEq, Repr

/-- The subject of a preload. -/
def Preload.subject : Preload → Cache.Subject
  | categories => .categories
  | tags => .tags

/-- The source of a preload. -/
def Preload.source : (preload : Preload) → Source preload.subject
  | categories => .categories
  | tags => .tags

/-- What a load is for: to answer a read, or to warm up the cache, with the preloads to come and the number
of slots filled so far. -/
inductive Purpose where
  | read
  | warm (rest : List Preload) (warmed : Nat)

/-- The periodic upkeep. -/
inductive Upkeep where
  | caches
  | presence
  | uploads
  deriving DecidableEq, Repr

/-- Work that goes on when what is above it is over. -/
inductive Frame where
  /-- Ends a step with a result. -/
  | conclude (result : Result)
  /-- Runs the steps of a rule. -/
  | play (rest : List Step) (quiet : Bool)
  /-- A call on uploads at a request to the blob store. -/
  | upload (call : Upload.Pending) (stage : Stage call.request.Answer)
  /-- A load under a context. -/
  | load (context : RequestContext) (subject : Cache.Subject) (source : Source subject)
      (purpose : Purpose) (stage : Stage subject.Content)
  /-- Upkeep at intervals, until its token is cancelled. -/
  | upkeep (kind : Upkeep) (token : TokenId) (recurrence : Recurrence)
  /-- Lets everything else happen that can happen now. -/
  | settle
  /-- Goes on for some milliseconds. -/
  | linger (millis : Nat)
  /-- Awaits tasks in turn, each for a time of grace. -/
  | shutdown (started : Nat) (current : StrandId) (rest : List StrandId) (grace : Duration)

/-- What a strand waits for. -/
inductive Wait where
  /-- A millisecond. -/
  | moment (millis : Nat)
  /-- That nothing else is left to happen now. -/
  | settled
  /-- The cancellation of a token, or an instant before it. -/
  | cancellation (token : TokenId) (instant : Option Instant)
  /-- The end of another strand, or a millisecond before it. -/
  | strand (strand : StrandId) (millis : Option Nat)
  | forever

/-- What the frame on top is told: to go on, that the step above it is over, or that its patience is at its
end. -/
inductive Signal where
  | go
  | ended (result : Result)
  | interrupted (cause : Interruption)

/-- What the innermost part of a strand is doing. -/
inductive Activity where
  | waiting (wait : Wait)
  | active (signal : Signal)

/-- Work under way. -/
structure Strand where
  frames : List Frame
  activity : Activity

namespace Strand

/-- A strand that has nothing to do. -/
def idle : Strand := ⟨[], .waiting .forever⟩

/-- The result of a strand that is over. -/
def result? (strand : Strand) : Option Result :=
  match strand.frames, strand.activity with
  | [], .active (.ended result) => some result
  | _, _ => none

/-- A strand that goes on with a frame. -/
def resume (frames : List Frame) : Strand := ⟨frames, .active .go⟩

/-- A strand whose innermost step is over. -/
def finish (frames : List Frame) (result : Result) : Strand := ⟨frames, .active (.ended result)⟩

/-- A strand that waits. -/
def wait (frames : List Frame) (wait : Wait) : Strand := ⟨frames, .waiting wait⟩

end Strand

/-! ### Waking up -/

/-- The millisecond at which a wait is over at the latest, if there is one. -/
def Wait.time? : Wait → Option Nat
  | moment millis => some millis
  | settled => none
  | cancellation _ instant => instant.map Instant.wakeMillis
  | strand _ millis => millis
  | forever => none

/-- The millisecond at which the patience of a frame is at its end. -/
def Frame.deadline? : Frame → Option Nat
  | load context .. => context.deadlineMillis?
  | _ => none

/-- Why a frame has to give up, if it has to. -/
def Frame.interruption? (timeline : Timeline) : Frame → Option Interruption
  | load context .. => context.interruption? timeline.forest timeline.now
  | _ => none

/-- The outermost frame that has to give up, with those below it, and why. -/
def interruptedFrames? (timeline : Timeline) : List Frame → Option (List Frame × Interruption)
  | [] => none
  | frame :: rest =>
    match interruptedFrames? timeline rest with
    | some found => some found
    | none => (frame.interruption? timeline).map fun cause => (frame :: rest, cause)

/-- The moments at which a waiting strand may have to wake up. -/
def Strand.times (strand : Strand) : List Nat :=
  match strand.activity with
  | .waiting wait => wait.time?.toList ++ strand.frames.filterMap Frame.deadline?
  | .active _ => []

end Community.Scenario
