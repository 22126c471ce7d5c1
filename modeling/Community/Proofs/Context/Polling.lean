/-
This file says what a poll of work under a context yields: a cancellation counts before the deadline, and the deadline
before what comes of the work. The context is looked at as it is when the poll begins. What the work does to it in a
poll of which something comes is never looked at.
-/

import Community.Context.Timeline

namespace Community

/-- A timer wakes at the first whole millisecond that is not before its instant. -/
theorem Instant.wakeMillis_le {instant : Instant} {millis : Nat} :
    instant.wakeMillis ≤ millis ↔ instant.nanos ≤ millis * Duration.nanosPerMilli := by
  unfold wakeMillis Duration.nanosPerMilli
  omega

/-- Is the deadline reached at a millisecond? -/
def RequestContext.HasExpired (context : RequestContext) (moment : Nat) : Prop :=
  ∃ deadline ∈ context.deadline, deadline.nanos ≤ moment * Duration.nanosPerMilli

/-- What a poll yields, depending on whether the context is cancelled and its deadline reached, and on what comes of
the work. -/
def Poll.Yields {α : Type} (outcome : Poll α) (cancelled expired : Prop) : Except Interruption α → Prop
  | .error .cancelled => cancelled
  | .error .timedOut => ¬ cancelled ∧ expired
  | .ok value => ¬ cancelled ∧ ¬ expired ∧ outcome = .ready value

namespace Poll.Yields

variable {α : Type} {outcome : Poll α} {cancelled expired called : Prop} {result other : Except Interruption α}

theorem congr (same : cancelled ↔ called) :
    outcome.Yields cancelled expired result ↔ outcome.Yields called expired result := by
  rw [propext same]

theorem unique (yields : outcome.Yields cancelled expired result) (also : outcome.Yields cancelled expired other) :
    result = other := by
  rcases result with (_ | _) | _ <;> rcases other with (_ | _) | _ <;> simp_all [Yields]

end Poll.Yields

namespace RequestContext

/-- Why a context is over, if it is. -/
theorem interruption?_cases (context : RequestContext) (forest : TokenForest) (now : Nat) :
    (forest.isCancelled context.token = true ∧ context.interruption? forest now = some .cancelled) ∨
    (forest.isCancelled context.token ≠ true ∧ context.HasExpired now ∧
      context.interruption? forest now = some .timedOut) ∨
    (forest.isCancelled context.token ≠ true ∧ ¬ context.HasExpired now ∧
      context.interruption? forest now = none) := by
  unfold interruption? HasExpired deadlineMillis?
  split
  · next cancelled => exact Or.inl ⟨cancelled, rfl⟩
  · next alive =>
    refine Or.inr ?_
    cases context.deadline with
    | none => simp [alive]
    | some deadline =>
      by_cases reached : deadline.wakeMillis ≤ now
      · exact Or.inl ⟨alive, ⟨deadline, rfl, Instant.wakeMillis_le.1 reached⟩, if_pos reached⟩
      · refine Or.inr ⟨alive, ?_, if_neg reached⟩
        rintro ⟨_, given, due⟩
        cases given
        exact reached (Instant.wakeMillis_le.2 due)

variable {ω α : Type}

/-- A poll yields what it yields of the context and of the work, and the work has been polled or not; or nothing comes
of it. -/
theorem poll_cases (context : RequestContext) (timeline : ω → Timeline) (work : ω → ω × Poll α) (world : ω) :
    let cancelled := (timeline world).forest.isCancelled context.token = true
    let expired := context.HasExpired (timeline world).now
    (∃ result after, context.poll timeline work world = (after, .ready result) ∧
      (work world).2.Yields cancelled expired result ∧ (after = world ∨ after = (work world).1)) ∨
    ¬ cancelled ∧ ¬ expired ∧ (work world).2 = .pending ∧
      context.poll timeline work world = ((work world).1, .pending) := by
  intro cancelled expired
  unfold poll
  rcases context.interruption?_cases (timeline world).forest (timeline world).now with ⟨isCancelled, ends⟩ |
    ⟨alive, isExpired, ends⟩ | ⟨alive, lasts, goesOn⟩
  · rw [ends]
    exact Or.inl ⟨_, _, rfl, isCancelled, Or.inl rfl⟩
  · rw [ends]
    exact Or.inl ⟨_, _, rfl, ⟨alive, isExpired⟩, Or.inl rfl⟩
  · rw [goesOn]
    rcases work world with ⟨after, value | _⟩
    · exact Or.inl ⟨_, _, rfl, ⟨alive, lasts, rfl⟩, Or.inr rfl⟩
    · exact Or.inr ⟨alive, lasts, rfl, rfl⟩

end RequestContext

end Community
