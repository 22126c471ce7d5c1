/-
This file takes one call through the rule that intervenes in it, if any: the delay of the rule, its steps
before the call, the call itself or the failure in its place, its steps after. Calls on the articles and
calls on the blob store go the same way.
-/

import Community.Scenario.World

namespace Community.Scenario

/-- Where a call stands after a part of its way: its outcome is there, it waits, or a rule runs steps. -/
inductive Visit (α : Type) where
  | answered (outcome : Outcome α)
  | waiting (stage : Stage α) (wait : Wait)
  | playing (stage : Stage α) (rule : Rule)

namespace World

variable {α : Type}

/-- Makes the call, or fails as the rule says, and runs the steps that come after. -/
def reach (world : World) (rule : Rule) (call : World → World × Outcome α) : World × Visit α :=
  let (world, outcome) :=
    match rule.failure with
    | some error => (world, .error error)
    | none => call world
  if rule.after && !rule.steps.isEmpty then (world, .playing (.holding outcome) rule)
  else (world, .answered outcome)

/-- Runs the steps that come before the call. -/
def approach (world : World) (rule : Rule) (call : World → World × Outcome α) : World × Visit α :=
  if !rule.after && !rule.steps.isEmpty then (world, .playing (.reached rule) rule)
  else world.reach rule call

/-- Takes a call one part further. -/
def visit (world : World) (target : Target) (path : String) (call : World → World × Outcome α) :
    Stage α → World × Visit α
  | .fresh =>
    match world.useRule target path with
    | (world, none) =>
      let (world, outcome) := call world
      (world, .answered outcome)
    | (world, some rule) =>
      if 0 < rule.delay then
        (world, .waiting (.delayed rule) (.moment (world.timeline.now + rule.delay)))
      else
        world.approach rule call
  | .delayed rule => world.approach rule call
  | .reached rule => world.reach rule call
  | .holding outcome => (world, .answered outcome)

/-! ### Calls on the blob store -/

/-- The target of a request to the blob store. -/
def targetOf : Blob.Request → Target
  | .put .. => .put
  | .contains _ => .contains
  | .fetch _ => .fetch
  | .remove _ => .remove
  | .list _ => .list

/-- Asks the blob store. -/
def ask (world : World) (request : Blob.Request) : World × Outcome request.Answer :=
  let (blobs, outcome) := world.blobs.answer request
  ({ world with blobs }, outcome)

/-- Takes a request to the blob store one part further. -/
def visitStore (world : World) (request : Blob.Request) (stage : Stage request.Answer) :
    World × Visit request.Answer :=
  world.visit (targetOf request) request.path (fun world => world.ask request) stage

/-! ### Calls on the articles -/

/-- Counts a call that reaches the repository. -/
def count (world : World) : Target → World
  | .categories => { world with calls.categories := world.calls.categories + 1 }
  | .tags => { world with calls.tags := world.calls.tags + 1 }
  | .article => { world with calls.articles := world.calls.articles + 1 }
  | _ => world

/-- Takes a call on the repository one part further; it is counted when it is made. -/
def visitRepository (world : World) (target : Target) (path : String) (call : Repository → Outcome α)
    (stage : Stage α) : World × Visit α :=
  let counted :=
    match stage with
    | .fresh => world.count target
    | _ => world
  counted.visit target path (fun world => (world, call world.repository)) stage

/-- How a rule names the call for an article. -/
def articlePath (id viewer : UInt64) : String :=
  toString id ++ ":" ++ toString viewer

/-- Does what a loader does under a context. -/
def carryOut (world : World) (context : RequestContext) : Deed → World
  | .cancel => { world with timeline.forest := world.timeline.forest.cancel context.token }
  | .occupy millis => { world with timeline := world.timeline.advance millis }

/-- Does what a loader does, and has its outcome. -/
def bring (world : World) (context : RequestContext) (deeds : List Deed) (outcome : Outcome α) :
    World × Visit α :=
  (deeds.foldl (fun world deed => world.carryOut context deed) world, .answered outcome)

/-- Takes a load from its source one part further. -/
def visitSource (world : World) (context : RequestContext) {subject : Cache.Subject}
    (source : Source subject) (stage : Stage subject.Content) : World × Visit subject.Content :=
  match source, stage with
  | .categories, stage =>
    world.visitRepository .categories "" (fun repository => .ok repository.allCategories) stage
  | .tags, stage => world.visitRepository .tags "" (fun repository => .ok repository.allTags) stage
  | .article id viewer, stage =>
    world.visitRepository .article (articlePath id viewer)
      (fun repository => repository.article id viewer) stage
  | .loader _ _ deeds, .holding outcome => world.bring context deeds outcome
  | .loader (.after 0) outcome deeds, _ => world.bring context deeds outcome
  | .loader (.after millis) outcome _, _ =>
    (world, .waiting (.holding outcome) (.moment (world.timeline.now + millis)))
  | .loader .never outcome _, _ => (world, .waiting (.holding outcome) .forever)

end World

end Community.Scenario
