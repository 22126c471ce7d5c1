/-
This file proves what the present tells about the future. Which tokens are cancelled by a moment to come depends on the
cancellations so far and on the alarms that are due until then. Time that passes does not change it: it only carries
out what was due. So the end of a wait under a context can be told from the present: it is the first of cancellation,
deadline and result.
-/

import Mathlib.Order.MinMax
import Community.Proofs.Context.Polling
import Community.Proofs.Context.Token

namespace Community

namespace Timeline

/-- Is the token cancelled by a moment that is not past, as far as is known now? -/
def CancelsBy (timeline : Timeline) (token : TokenId) (time : Nat) : Prop :=
  timeline.forest.isCancelled token = true ∨
    ∃ alarm ∈ timeline.alarms, alarm.due ≤ time ∧ timeline.forest.Above alarm.token token

/-- What holds of every timeline that has come from nothing: no alarm is overdue, and none is for a token to come. -/
structure IsSound (timeline : Timeline) : Prop where
  grown : timeline.forest.IsGrown
  pending : ∀ alarm ∈ timeline.alarms, timeline.now < alarm.due
  known : ∀ alarm ∈ timeline.alarms, alarm.token < timeline.forest.tokens.size

variable {timeline : Timeline} {token target : TokenId} {time : Nat}

theorem IsSound.isCancelled_iff (sound : timeline.IsSound) :
    timeline.forest.isCancelled token = true ↔ timeline.CancelsBy token timeline.now := by
  refine ⟨Or.inl, ?_⟩
  rintro (cancelled | ⟨alarm, isAlarm, due, -⟩)
  · exact cancelled
  · exact absurd due (Nat.not_le_of_lt (sound.pending alarm isAlarm))

/-! ### Time that passes -/

/-- The tokens of the alarms that are due. -/
def dueTokens (timeline : Timeline) : List TokenId :=
  (timeline.alarms.filter fun alarm => alarm.due ≤ timeline.now).map Alarm.token

theorem forest_ring : timeline.ring.forest = timeline.dueTokens.foldl TokenForest.cancel timeline.forest :=
  List.foldl_map.symm

@[simp] theorem size_ring : timeline.ring.forest.tokens.size = timeline.forest.tokens.size := by
  rw [forest_ring, TokenForest.size_foldl_cancel]

theorem mem_alarms_ring {alarm : Alarm} :
    alarm ∈ timeline.ring.alarms ↔ alarm ∈ timeline.alarms ∧ timeline.now < alarm.due := by
  rw [ring, List.mem_filter, decide_eq_true_iff]

theorem mem_dueTokens : token ∈ timeline.dueTokens ↔
    ∃ alarm ∈ timeline.alarms, alarm.due ≤ timeline.now ∧ alarm.token = token := by
  simp [dueTokens, and_assoc]

theorem parent?_ring (grown : timeline.forest.IsGrown) :
    timeline.ring.forest.parent? token = timeline.forest.parent? token := by
  rw [forest_ring, TokenForest.parent?_foldl_cancel grown]

theorem above_ring (grown : timeline.forest.IsGrown) :
    timeline.ring.forest.Above target token ↔ timeline.forest.Above target token :=
  TokenForest.Above.congr fun _ => parent?_ring grown

/-- Carrying out what is due makes a timeline sound. -/
theorem isSound_ring (grown : timeline.forest.IsGrown)
    (known : ∀ alarm ∈ timeline.alarms, alarm.token < timeline.forest.tokens.size) : timeline.ring.IsSound where
  grown := forest_ring ▸ grown.foldl_cancel _
  pending _ isAlarm := (mem_alarms_ring.1 isAlarm).2
  known alarm isAlarm := by
    rw [size_ring]
    exact known alarm (mem_alarms_ring.1 isAlarm).1

/-- Carrying out what is due does not change what is cancelled by a later moment. -/
theorem cancelsBy_ring (grown : timeline.forest.IsGrown) (inside : token < timeline.forest.tokens.size)
    (later : timeline.now ≤ time) : timeline.ring.CancelsBy token time ↔ timeline.CancelsBy token time := by
  simp only [CancelsBy, above_ring grown]
  rw [forest_ring, TokenForest.isCancelled_foldl_cancel grown inside]
  constructor
  · rintro ((cancelled | ⟨target, isDue, above⟩) | ⟨alarm, isAlarm, due, above⟩)
    · exact Or.inl cancelled
    · obtain ⟨alarm, isAlarm, due, rfl⟩ := mem_dueTokens.1 isDue
      exact Or.inr ⟨alarm, isAlarm, Nat.le_trans due later, above⟩
    · exact Or.inr ⟨alarm, (mem_alarms_ring.1 isAlarm).1, due, above⟩
  · rintro (cancelled | ⟨alarm, isAlarm, due, above⟩)
    · exact Or.inl (Or.inl cancelled)
    · rcases Nat.lt_or_ge timeline.now alarm.due with pending | overdue
      · exact Or.inr ⟨alarm, mem_alarms_ring.2 ⟨isAlarm, pending⟩, due, above⟩
      · exact Or.inl (Or.inr ⟨alarm.token, mem_dueTokens.2 ⟨alarm, isAlarm, overdue, rfl⟩, above⟩)

theorem IsSound.moveTo (sound : timeline.IsSound) (time : Nat) : (timeline.moveTo time).IsSound :=
  isSound_ring sound.grown sound.known

@[simp] theorem size_moveTo (time : Nat) :
    (timeline.moveTo time).forest.tokens.size = timeline.forest.tokens.size :=
  size_ring

theorem parent?_moveTo (sound : timeline.IsSound) (time : Nat) :
    (timeline.moveTo time).forest.parent? token = timeline.forest.parent? token := by
  unfold moveTo
  exact parent?_ring sound.grown

theorem above_moveTo (sound : timeline.IsSound) :
    (timeline.moveTo time).forest.Above target token ↔ timeline.forest.Above target token :=
  TokenForest.Above.congr fun _ => parent?_moveTo sound time

theorem cancelsBy_moveTo (sound : timeline.IsSound) {moment : Nat} (inside : token < timeline.forest.tokens.size)
    (later : (timeline.moveTo moment).now ≤ time) :
    (timeline.moveTo moment).CancelsBy token time ↔ timeline.CancelsBy token time := by
  unfold moveTo
  exact cancelsBy_ring sound.grown inside later

/-! ### Tokens that are cancelled and tokens that are made -/

/-- Cancels a token at once. -/
def cancelNow (timeline : Timeline) (target : TokenId) : Timeline :=
  { timeline with forest := timeline.forest.cancel target }

theorem IsSound.cancelNow (sound : timeline.IsSound) : (timeline.cancelNow target).IsSound where
  grown := sound.grown.cancel target
  pending := sound.pending
  known alarm isAlarm := by
    rw [Timeline.cancelNow, TokenForest.size_cancel]
    exact sound.known alarm isAlarm

theorem cancelsBy_cancelNow (sound : timeline.IsSound) (inside : token < timeline.forest.tokens.size) :
    (timeline.cancelNow target).CancelsBy token time ↔
      timeline.CancelsBy token time ∨ timeline.forest.Above target token := by
  simp only [CancelsBy, cancelNow, TokenForest.isCancelled_cancel sound.grown inside,
    TokenForest.above_cancel sound.grown]
  exact or_right_comm

/-- A timeline with one alarm more. -/
def withAlarm (timeline : Timeline) (alarm : Alarm) : Timeline :=
  { timeline with alarms := timeline.alarms ++ [alarm] }

theorem cancelAfter_eq (millis : Nat) :
    timeline.cancelAfter target millis = (timeline.withAlarm ⟨timeline.now + millis, target⟩).ring := rfl

theorem IsSound.cancelAfter (sound : timeline.IsSound) (known : target < timeline.forest.tokens.size) (millis : Nat) :
    (timeline.cancelAfter target millis).IsSound := by
  refine isSound_ring sound.grown fun alarm isAlarm => ?_
  rcases List.mem_append.1 isAlarm with old | new
  · exact sound.known alarm old
  · rwa [List.mem_singleton.1 new]

theorem cancelsBy_cancelAfter (sound : timeline.IsSound) (inside : token < timeline.forest.tokens.size)
    (later : timeline.now ≤ time) (millis : Nat) :
    (timeline.cancelAfter target millis).CancelsBy token time ↔
      timeline.CancelsBy token time ∨ timeline.now + millis ≤ time ∧ timeline.forest.Above target token := by
  have rings : (timeline.withAlarm ⟨timeline.now + millis, target⟩).ring.CancelsBy token time ↔
      (timeline.withAlarm ⟨timeline.now + millis, target⟩).CancelsBy token time :=
    cancelsBy_ring sound.grown inside later
  rw [cancelAfter_eq, rings]
  simp only [CancelsBy, withAlarm, List.mem_append, List.mem_singleton, or_and_right, exists_or, exists_eq_left,
    or_assoc]

/-- A timeline with other tokens. -/
def withForest (timeline : Timeline) (forest : TokenForest) : Timeline :=
  { timeline with forest }

section Grows

variable {new : Token} {forest : TokenForest}

theorem IsSound.withForest (sound : timeline.IsSound) (grows : timeline.forest.Grows new forest)
    (grown : forest.IsGrown) : (timeline.withForest forest).IsSound where
  grown := grown
  pending := sound.pending
  known alarm isAlarm := grows.size_eq.symm ▸ Nat.lt_succ_of_lt (sound.known alarm isAlarm)

theorem cancelsBy_old (sound : timeline.IsSound) (grows : timeline.forest.Grows new forest)
    (old : token < timeline.forest.tokens.size) :
    (timeline.withForest forest).CancelsBy token time ↔ timeline.CancelsBy token time := by
  simp only [CancelsBy, Timeline.withForest, grows.isCancelled_old old, grows.above_old sound.grown old]

/-- Nothing is known to cancel a new token of its own. -/
theorem not_cancelsBy_root (sound : timeline.IsSound) :
    ¬ (timeline.withForest timeline.forest.root.1).CancelsBy timeline.forest.tokens.size time := by
  have grows := timeline.forest.grows_root
  rintro (cancelled | ⟨alarm, isAlarm, -, above⟩)
  · exact Bool.false_ne_true (grows.isCancelled_new.symm.trans cancelled)
  · have same := (TokenForest.above_of_orphan grows.parent?_new).1 above
    exact absurd (sound.known alarm isAlarm) (same ▸ Nat.lt_irrefl _)

/-- A token below another one is cancelled with it. -/
theorem cancelsBy_child (sound : timeline.IsSound) {parent : TokenId} (inside : parent < timeline.forest.tokens.size) :
    (timeline.withForest (timeline.forest.child parent).1).CancelsBy timeline.forest.tokens.size time ↔
      timeline.CancelsBy parent time := by
  have grows := timeline.forest.grows_child parent
  have above : ∀ alarm ∈ timeline.alarms,
      ((timeline.forest.child parent).1.Above alarm.token timeline.forest.tokens.size ↔
        timeline.forest.Above alarm.token parent) := by
    intro alarm isAlarm
    rw [TokenForest.above_of_parent grows.parent?_new, grows.above_old sound.grown inside]
    exact or_iff_right (Nat.ne_of_lt (sound.known alarm isAlarm))
  simp only [CancelsBy, Timeline.withForest, grows.isCancelled_new]
  exact or_congr_right (exists_congr fun alarm => and_congr_right fun isAlarm => and_congr_right fun _ =>
    above alarm isAlarm)

end Grows

/-! ### The end of a wait -/

/-- Does a time that may not come, come by a moment? -/
def ComesBy (time? : Option Nat) (moment : Nat) : Prop :=
  ∃ time ∈ time?, time ≤ moment

theorem doneBy_eq_ready_iff {ready : Option Nat} : doneBy ready time = .ready () ↔ ComesBy ready time := by
  unfold doneBy ComesBy
  cases ready <;> simp

theorem doneBy_eq_pending_iff {ready : Option Nat} : doneBy ready time = .pending ↔ ¬ ComesBy ready time := by
  rw [← doneBy_eq_ready_iff]
  cases doneBy ready time <;> simp

section Ending

variable {context : RequestContext} {ready : Option Nat}

/-- What a poll at a moment that is not past yields, as far as is known now. -/
def Yields (timeline : Timeline) (context : RequestContext) (ready : Option Nat) (time : Nat) :
    Except Interruption Unit → Prop :=
  (doneBy ready time).Yields (timeline.CancelsBy context.token time) (context.HasExpired time)

/-- Does anything come of a poll at a moment that is not past, as far as is known now? -/
def Stops (timeline : Timeline) (context : RequestContext) (ready : Option Nat) (time : Nat) : Prop :=
  timeline.CancelsBy context.token time ∨ context.HasExpired time ∨ ComesBy ready time

section

variable (sound : timeline.IsSound) (inside : context.token < timeline.forest.tokens.size)
include sound inside

/-- What comes of the poll at the first of some moments is what is known of it now; if nothing does, the wait goes on
from there. -/
theorem awaitAt_cons_cases (ready : Option Nat) (moment : Nat) (moments : List Nat) :
    (∃ result, awaitAt context ready (moment :: moments) timeline = (timeline.moveTo moment, .ready result) ∧
      timeline.Yields context ready (max timeline.now moment) result) ∨
    ¬ timeline.Stops context ready (max timeline.now moment) ∧
      awaitAt context ready (moment :: moments) timeline =
        awaitAt context ready moments (timeline.moveTo moment) := by
  have cancelled : (timeline.moveTo moment).forest.isCancelled context.token = true ↔
      timeline.CancelsBy context.token (max timeline.now moment) :=
    (sound.moveTo moment).isCancelled_iff.trans (cancelsBy_moveTo sound inside (Nat.le_refl _))
  unfold awaitAt
  rw [RequestContext.await]
  rcases context.poll_cases id (fun timeline => (timeline, doneBy ready timeline.now)) (timeline.moveTo moment) with
    ⟨result, after, polled, yields, same⟩ | ⟨alive, lasts, undone, polled⟩
  · obtain rfl : after = timeline.moveTo moment := same.elim id id
    rw [polled]
    exact Or.inl ⟨result, rfl, (Poll.Yields.congr cancelled).1 yields⟩
  · rw [polled]
    refine Or.inr ⟨?_, rfl⟩
    rintro (cancels | expired | done)
    · exact alive (cancelled.2 cancels)
    · exact lasts expired
    · exact doneBy_eq_pending_iff.1 undone done

end

/-- Is the token cancelled no later than the result is there, and no later than any moment of the wait at which the
deadline is reached? -/
def CancelsFirst (timeline : Timeline) (context : RequestContext) (ready : Option Nat) : Prop :=
  ∃ time, timeline.now ≤ time ∧ timeline.CancelsBy context.token time ∧ (∀ moment ∈ ready, time ≤ moment) ∧
    ∀ deadline ∈ context.deadline, ∀ moment, timeline.now ≤ moment →
      deadline.nanos ≤ moment * Duration.nanosPerMilli → time ≤ moment

/-- Is the deadline reached no later than the result is there? -/
def ExpiresFirst (context : RequestContext) (ready : Option Nat) : Prop :=
  ∃ deadline ∈ context.deadline, ∀ moment ∈ ready, deadline.nanos ≤ moment * Duration.nanosPerMilli

/-- When the result of a wait is there that begins now. -/
def ready? (timeline : Timeline) (delay : Option Nat) : Option Nat :=
  delay.map (timeline.now + ·)

section Run

variable (sound : timeline.IsSound) (inside : context.token < timeline.forest.tokens.size) (delay : Option Nat)
include sound inside

end Run

/-- A wait takes time and does nothing else. -/
theorem run_fst (sound : timeline.IsSound) (inside : context.token < timeline.forest.tokens.size)
    (delay : Option Nat) : ∃ times : List Nat, (timeline.run context delay).1 = times.foldl moveTo timeline := by
  have awaits (ready : Option Nat) (moments : List Nat) :
      ∃ times : List Nat, (awaitAt context ready moments timeline).1 = times.foldl moveTo timeline := by
    induction moments generalizing timeline with
    | nil => exact ⟨[], rfl⟩
    | cons moment moments inductionHypothesis =>
      rcases awaitAt_cons_cases sound inside ready moment moments with ⟨result, ends, -⟩ | ⟨-, goesOn⟩
      · rw [ends]
        exact ⟨[moment], rfl⟩
      · rw [goesOn]
        obtain ⟨times, same⟩ := inductionHypothesis (sound.moveTo moment) (by rwa [size_moveTo])
        exact ⟨moment :: times, same⟩
  obtain ⟨times, same⟩ := awaits (timeline.ready? delay) (timeline.moments context (timeline.ready? delay))
  refine ⟨times, Eq.trans ?_ same⟩
  unfold run
  rw [← ready?, ← await]
  rcases timeline.await context (timeline.ready? delay) with ⟨after, (_ | _) | _⟩ <;> rfl

end Ending

end Timeline

end Community
