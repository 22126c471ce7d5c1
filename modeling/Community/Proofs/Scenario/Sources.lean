/-
This file says what the source of a load can answer: what the repository holds, what a loader brings, or the failure
that a rule of the world puts in its place. A load asks its source over several turns, in worlds that may differ.
All that it comes by meanwhile was seen in one of the worlds in which it took a turn.
-/

import Community.Scenario.Run

namespace Community.Scenario

/-- Can a rule of the world put this in place of a call's outcome? -/
def World.Replaces {α : Type} (world : World) (outcome : Outcome α) : Prop :=
  ∃ rule ∈ world.rules, ∃ error, rule.failure = some error ∧ outcome = .error error

/-- Is this what a source answers in a world: what a loader brings, or what the repository holds, or the failure
that a rule puts in its place? -/
def Source.Answers : {subject : Cache.Subject} → Source subject → World → Outcome subject.Content → Prop
  | _, .categories, world, outcome => outcome = .ok world.repository.allCategories ∨ world.Replaces outcome
  | _, .tags, world, outcome => outcome = .ok world.repository.allTags ∨ world.Replaces outcome
  | _, .article id viewer, world, outcome =>
    outcome = world.repository.article id viewer ∨ world.Replaces outcome
  | _, .loader _ brought _, _, outcome => outcome = brought

/-- Are the rule and the outcome that a call has come by among these? -/
def Stage.Among {α : Type} (rules : Rule → Prop) (outcomes : Outcome α → Prop) : Stage α → Prop
  | .fresh => True
  | .delayed rule => rules rule
  | .reached rule => rules rule
  | .holding outcome => outcomes outcome

/-- Are the rule and the outcome that a part of a call comes by among these? -/
def Visit.Among {α : Type} (rules : Rule → Prop) (outcomes : Outcome α → Prop) : Visit α → Prop
  | .answered outcome => outcomes outcome
  | .waiting stage _ => stage.Among rules outcomes
  | .playing stage _ => stage.Among rules outcomes

theorem Stage.Among.mono {α : Type} {rules more : Rule → Prop} {outcomes others : Outcome α → Prop}
    {stage : Stage α} (among : stage.Among rules outcomes) (wider : ∀ rule, rules rule → more rule)
    (further : ∀ outcome, outcomes outcome → others outcome) : stage.Among more others := by
  cases stage with
  | fresh => trivial
  | delayed rule => exact wider rule among
  | reached rule => exact wider rule among
  | holding outcome => exact further outcome among

namespace World

variable {α : Type} {world : World} {rules : Rule → Prop} {outcomes : Outcome α → Prop}

theorem mem_of_takeRule? {target : Target} {path : String} {known rest : List Rule} {rule : Rule}
    (taken : takeRule? target path known = some (rule, rest)) : rule ∈ known := by
  induction known generalizing rest with
  | nil => cases taken
  | cons first others inductionHypothesis =>
    unfold takeRule? at taken
    split at taken
    · cases taken
      exact List.mem_cons_self
    · obtain ⟨⟨found, left⟩, later, same⟩ := Option.map_eq_some_iff.1 taken
      cases same
      exact List.mem_cons_of_mem _ (inductionHypothesis later)

variable {call : World → World × Outcome α}

/-- A call that leaves the cache as it is, and whose outcome is known, is taken further: what it comes by is
known. -/
theorem among_reach {rule : Rule}
    (fails : ∀ rule error, rules rule → rule.failure = some error → outcomes (.error error))
    (same : (call world).1.cache = world.cache) (called : outcomes (call world).2) (known : rules rule) :
    (world.reach rule call).1.cache = world.cache ∧ (world.reach rule call).2.Among rules outcomes := by
  unfold reach
  cases failure : rule.failure with
  | some error =>
    dsimp only
    split <;> exact ⟨rfl, fails rule error known failure⟩
  | none =>
    dsimp only
    split <;> exact ⟨same, called⟩

theorem among_approach {rule : Rule}
    (fails : ∀ rule error, rules rule → rule.failure = some error → outcomes (.error error))
    (same : (call world).1.cache = world.cache) (called : outcomes (call world).2) (known : rules rule) :
    (world.approach rule call).1.cache = world.cache ∧
      (world.approach rule call).2.Among rules outcomes := by
  unfold approach
  split
  · exact ⟨rfl, known⟩
  · exact among_reach fails same called known

theorem among_visit {stage : Stage α} (target : Target) (path : String)
    (fails : ∀ rule error, rules rule → rule.failure = some error → outcomes (.error error))
    (same : ∀ world, (call world).1.cache = world.cache)
    (called : ∀ after : World, after.repository = world.repository → outcomes (call after).2)
    (there : ∀ rule ∈ world.rules, rules rule) (known : stage.Among rules outcomes) :
    (world.visit target path call stage).1.cache = world.cache ∧
      (world.visit target path call stage).2.Among rules outcomes := by
  cases stage with
  | holding outcome => exact ⟨rfl, known⟩
  | delayed rule => exact among_approach fails (same world) (called world rfl) known
  | reached rule => exact among_reach fails (same world) (called world rfl) known
  | fresh =>
    unfold visit useRule
    cases taken : takeRule? target path world.rules with
    | none => exact ⟨same world, called world rfl⟩
    | some taking =>
      obtain ⟨rule, rest⟩ := taking
      have listed := there rule (mem_of_takeRule? taken)
      dsimp only
      split
      · exact ⟨rfl, listed⟩
      · exact among_approach fails (same _) (called _ rfl) listed

/-- What a loader does changes nothing but the timeline. -/
theorem bring_eq (world : World) (context : RequestContext) (deeds : List Deed) (outcome : Outcome α) :
    ∃ timeline, world.bring context deeds outcome = ({ world with timeline }, .answered outcome) := by
  unfold bring
  induction deeds generalizing world with
  | nil => exact ⟨_, rfl⟩
  | cons deed deeds inductionHypothesis =>
    obtain ⟨timeline, same⟩ := inductionHypothesis (world.carryOut context deed)
    refine ⟨timeline, same.trans ?_⟩
    cases deed <;> rfl

theorem among_visitRepository {stage : Stage α} {ask : Repository → Outcome α} (target : Target) (path : String)
    (fails : ∀ rule error, rules rule → rule.failure = some error → outcomes (.error error))
    (asked : outcomes (ask world.repository)) (there : ∀ rule ∈ world.rules, rules rule)
    (known : stage.Among rules outcomes) :
    (world.visitRepository target path ask stage).1.cache = world.cache ∧
      (world.visitRepository target path ask stage).2.Among rules outcomes := by
  have count : (world.count target).cache = world.cache ∧ (world.count target).rules = world.rules ∧
      (world.count target).repository = world.repository := by
    cases target <;> exact ⟨rfl, rfl, rfl⟩
  have visited (counted : World) (sameCache : counted.cache = world.cache)
      (sameRules : counted.rules = world.rules) (sameRepository : counted.repository = world.repository) :
      (counted.visit target path (fun world => (world, ask world.repository)) stage).1.cache = world.cache ∧
        (counted.visit target path (fun world => (world, ask world.repository)) stage).2.Among
          rules outcomes := by
    rw [← sameCache]
    refine among_visit target path fails (fun _ => rfl) (fun after same => ?_) (sameRules ▸ there) known
    rwa [show after.repository = world.repository from same.trans sameRepository]
  unfold visitRepository
  cases stage with
  | fresh => exact visited _ count.1 count.2.1 count.2.2
  | delayed | reached | holding => exact visited world rfl rfl rfl

end World

namespace Source

variable {subject : Cache.Subject}

/-- Has the source been able to answer this in one of some worlds? -/
def Seen (source : Source subject) (worlds : List World) (outcome : Outcome subject.Content) : Prop :=
  ∃ world ∈ worlds, source.Answers world outcome

/-- Has the rule been there in one of some worlds? -/
def Listed (worlds : List World) (rule : Rule) : Prop :=
  ∃ world ∈ worlds, rule ∈ world.rules

/-- All that a load has come by was seen in one of the worlds. -/
abbrev Knows (source : Source subject) (worlds : List World) (stage : Stage subject.Content) : Prop :=
  stage.Among (Listed worlds) (source.Seen worlds)

/-- The failure of a rule is seen where rules replace what the source answers. -/
theorem seen_of_listed {source : Source subject} {worlds : List World}
    (replaces : ∀ world outcome, world.Replaces outcome → source.Answers world outcome) (rule : Rule)
    (error : ServiceError) (listed : Listed worlds rule) (fails : rule.failure = some error) :
    source.Seen worlds (.error error) := by
  obtain ⟨world, member, there⟩ := listed
  exact ⟨world, member, replaces world _ ⟨rule, there, error, fails, rfl⟩⟩

theorem among_visit {context : RequestContext} {source : Source subject} {worlds : List World} {world : World}
    {stage : Stage subject.Content} (here : world ∈ worlds) (known : source.Knows worlds stage) :
    (world.visitSource context source stage).1.cache = world.cache ∧
      (world.visitSource context source stage).2.Among (Listed worlds) (source.Seen worlds) := by
  have there : ∀ rule ∈ world.rules, Listed worlds rule := fun rule member => ⟨world, here, member⟩
  cases source with
  | categories | tags | article =>
    exact World.among_visitRepository _ _ (seen_of_listed fun _ _ => Or.inr) ⟨world, here, Or.inl rfl⟩ there
      known
  | loader delay brought deeds =>
    generalize whole : Source.loader delay brought deeds = source at known ⊢
    have brings : source.Seen worlds brought := whole ▸ ⟨world, here, rfl⟩
    have ends (outcome : Outcome subject.Content) (seen : source.Seen worlds outcome) :
        (world.bring context deeds outcome).1.cache = world.cache ∧
          (world.bring context deeds outcome).2.Among (Listed worlds) (source.Seen worlds) := by
      obtain ⟨timeline, same⟩ := world.bring_eq context deeds outcome
      rw [same]
      exact ⟨rfl, seen⟩
    subst whole
    cases stage with
    | holding outcome => exact ends outcome known
    | fresh | delayed | reached =>
      rcases delay with ⟨_ | millis⟩ | _
      · exact ends brought brings
      · exact ⟨rfl, brings⟩
      · exact ⟨rfl, brings⟩

end Source

end Community.Scenario
