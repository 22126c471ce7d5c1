/-
This file proves that contexts form families. Contexts are made, cancelled at once or later, and waited under, and time
passes, in any order. A context is cancelled when one has been cancelled that governs it, and for no other reason: not
with its children, nor with the other children of its parent. A child ends no later than its parent.

Work under a context is waited for in polls, and it can do in a poll of its own whatever can be done with contexts. The
wait ends with the first poll of which something comes: with a cancellation if the context is cancelled when that poll
begins, else with the deadline if it is reached by then, else with what comes of the work. For work that is there at a
time and does nothing that means: with a cancellation if it comes no later than the result and the first moment of the
wait at which the deadline is reached, else with the deadline if it is reached no later than the result, else with the
result.
-/

import Community.Proofs.Context.Kinship
import Community.Proofs.Context.Timeline

namespace Community

/-- A call that cancels a context at a millisecond, which may be to come. -/
structure Family.Call where
  number : Nat
  due : Nat
  deriving DecidableEq, Repr

/-- The contexts made on a timeline and the calls that cancel them, in the order in which they were made. -/
structure Family where
  timeline : Timeline := {}
  members : List Member := []
  calls : List Family.Call := []

namespace Family

/-- What can be done with contexts. -/
inductive Act where
  | make (making : Making)
  | cancel (number : Nat)
  | cancelAfter (number millis : Nat)
  | advance (millis : Nat)
  | wait (number : Nat) (delay : Option Nat)
  deriving DecidableEq, Repr

/-- The family with a context more. -/
def welcome (family : Family) (forest : TokenForest) (member : Member) : Family :=
  { family with timeline := family.timeline.withForest forest, members := family.members ++ [member] }

/-- Does it; what is asked of a context that does not exist has no effect. -/
def step (family : Family) : Act → Family
  | .make making =>
    match making.make? family.timeline.forest family.members with
    | some (forest, context) => family.welcome forest ⟨making, context⟩
    | none => family
  | .cancel number =>
    match family.members[number]? with
    | some member =>
      { family with
        timeline := family.timeline.cancelNow member.context.token
        calls := family.calls ++ [⟨number, family.timeline.now⟩] }
    | none => family
  | .cancelAfter number millis =>
    match family.members[number]? with
    | some member =>
      { family with
        timeline := family.timeline.cancelAfter member.context.token millis
        calls := family.calls ++ [⟨number, family.timeline.now + millis⟩] }
    | none => family
  | .advance millis => { family with timeline := family.timeline.advance millis }
  | .wait number delay =>
    match family.members[number]? with
    | some member => { family with timeline := (family.timeline.run member.context delay).1 }
    | none => family

/-- Does one thing after the other. -/
def perform (family : Family) (acts : List Act) : Family :=
  acts.foldl step family

/-- Does one thing after the other, with no context at first. -/
def run (acts : List Act) : Family :=
  perform {} acts

/-- One poll of work under a context: what others do before it, what the work does in it, and what comes of that. If
the context is over when the poll begins, the work does nothing. -/
structure Round (α : Type) where
  before : List Act
  work : List Act
  outcome : Poll α

/-- Waits for work under a context, with one poll in each round. -/
def await {α : Type} (family : Family) (context : RequestContext) (rounds : List (Round α)) :
    Family × Poll (Except Interruption α) :=
  context.await timeline (fun round family => family.perform round.before)
    (fun round family => (family.perform round.work, round.outcome)) rounds family

/-- Is a context cancelled by the given time that governs this one? -/
def CalledBy (family : Family) (number time : Nat) : Prop :=
  ∃ call ∈ family.calls, call.due ≤ time ∧ Governs family.members call.number number

/-- Is a context cancelled by the given time whose token is above this one? -/
def Reaches (family : Family) (token : TokenId) (time : Nat) : Prop :=
  ∃ call ∈ family.calls, call.due ≤ time ∧
    ∃ member, family.members[call.number]? = some member ∧ family.timeline.forest.Above member.context.token token

/-- What holds of every family that has come from nothing: its tokens are cancelled by the calls, and only by them. -/
structure IsSound (family : Family) : Prop where
  timeline : family.timeline.IsSound
  kin : Kin family.timeline.forest family.members
  present : ∀ call ∈ family.calls, call.number < family.members.length
  cancels : ∀ token < family.timeline.forest.tokens.size, ∀ time, family.timeline.now ≤ time →
    (family.timeline.CancelsBy token time ↔ family.Reaches token time)

variable {family : Family}

/-! ### Time that passes -/

theorem IsSound.moveTo (sound : family.IsSound) (time : Nat) :
    IsSound { family with timeline := family.timeline.moveTo time } where
  timeline := sound.timeline.moveTo time
  kin := sound.kin.congr (Nat.le_of_eq (Timeline.size_moveTo time).symm) fun _ _ =>
    Timeline.parent?_moveTo sound.timeline time
  present := sound.present
  cancels token inside moment later := by
    have before : token < family.timeline.forest.tokens.size := Timeline.size_moveTo time ▸ inside
    have begun : family.timeline.now ≤ moment := Nat.le_trans (Nat.le_max_left _ _) later
    simp only [Timeline.cancelsBy_moveTo sound.timeline before later, sound.cancels token before moment begun,
      Reaches, Timeline.above_moveTo sound.timeline]

theorem IsSound.moveAlong (sound : family.IsSound) (times : List Nat) :
    IsSound { family with timeline := times.foldl Timeline.moveTo family.timeline } := by
  induction times generalizing family with
  | nil => exact sound
  | cons time times inductionHypothesis => exact inductionHypothesis (sound.moveTo time)

/-! ### Calls -/

/-- A call keeps a family sound if it cancels, when it is due, what is below the token of its context. -/
theorem IsSound.call (sound : family.IsSound) {timeline : Timeline} {number due : Nat} {member : Member}
    (found : family.members[number]? = some member) (timelineSound : timeline.IsSound)
    (size : timeline.forest.tokens.size = family.timeline.forest.tokens.size)
    (parents : ∀ token, timeline.forest.parent? token = family.timeline.forest.parent? token)
    (onward : family.timeline.now ≤ timeline.now)
    (cancels : ∀ token < family.timeline.forest.tokens.size, ∀ time, family.timeline.now ≤ time →
      (timeline.CancelsBy token time ↔ family.timeline.CancelsBy token time ∨
        due ≤ time ∧ family.timeline.forest.Above member.context.token token)) :
    IsSound { family with timeline, calls := family.calls ++ [⟨number, due⟩] } where
  timeline := timelineSound
  kin := sound.kin.congr (Nat.le_of_eq size.symm) fun token _ => parents token
  present call isCall := by
    rcases List.mem_append.1 isCall with old | new
    · exact sound.present call old
    · cases List.mem_singleton.1 new
      exact (List.getElem?_eq_some_iff.1 found).1
  cancels token inside time later := by
    have begun := Nat.le_trans onward later
    rw [cancels token (size ▸ inside) time begun, sound.cancels token (size ▸ inside) time begun]
    simp [Reaches, TokenForest.Above.congr parents, or_and_right, exists_or, found]

/-! ### Contexts that are made -/

variable {forest : TokenForest} {new : Token} {member : Member} {token target : TokenId} {time : Nat}

/-- A token is reached as another one was before if it has the same tokens above it. -/
theorem IsSound.reaches_welcome (sound : family.IsSound)
    (above : ∀ older ∈ family.members, forest.Above older.context.token token ↔
      family.timeline.forest.Above older.context.token target) :
    (family.welcome forest member).Reaches token time ↔ family.Reaches target time := by
  refine exists_congr fun call => and_congr_right fun isCall => and_congr_right fun _ => ?_
  simp only [welcome, List.getElem?_append_left (sound.present call isCall)]
  exact exists_congr fun older => and_congr_right fun found => above older (List.mem_of_getElem? found)

theorem IsSound.not_reaches_root (sound : family.IsSound) :
    ¬ (family.welcome family.timeline.forest.root.1 member).Reaches family.timeline.forest.tokens.size time := by
  rintro ⟨call, isCall, -, older, found, above⟩
  rw [welcome, List.getElem?_append_left (sound.present call isCall)] at found
  have same := (TokenForest.above_of_orphan family.timeline.forest.grows_root.parent?_new).1 above
  exact absurd (sound.kin.mem_inside (List.mem_of_getElem? found)) (same ▸ Nat.lt_irrefl _)

theorem IsSound.reaches_child (sound : family.IsSound) (inside : target < family.timeline.forest.tokens.size) :
    (family.welcome (family.timeline.forest.child target).1 member).Reaches family.timeline.forest.tokens.size time ↔
      family.Reaches target time := by
  have grows := family.timeline.forest.grows_child target
  refine sound.reaches_welcome fun older isOlder => ?_
  rw [TokenForest.above_of_parent grows.parent?_new, grows.above_old sound.timeline.grown inside]
  exact or_iff_right (Nat.ne_of_lt (sound.kin.mem_inside isOlder))

theorem IsSound.present_concat (sound : family.IsSound) (member : Member) :
    ∀ call ∈ family.calls, call.number < (family.members ++ [member]).length := by
  intro call isCall
  rw [List.length_append]
  exact Nat.lt_of_lt_of_le (sound.present call isCall) (Nat.le_add_right _ _)

/-- A family with a new token stays sound if the calls that reach it are those that cancel it. -/
theorem IsSound.grow (sound : family.IsSound) (grows : family.timeline.forest.Grows new forest)
    (grown : forest.IsGrown) (kin : Kin forest (family.members ++ [member]))
    (newest : ∀ time, family.timeline.now ≤ time →
      ((family.timeline.withForest forest).CancelsBy family.timeline.forest.tokens.size time ↔
        (family.welcome forest member).Reaches family.timeline.forest.tokens.size time)) :
    (family.welcome forest member).IsSound where
  timeline := sound.timeline.withForest grows grown
  kin := kin
  present := sound.present_concat member
  cancels token inside time later := by
    rcases Nat.lt_succ_iff_lt_or_eq.1 (grows.size_eq ▸ inside) with old | rfl
    · have reaches : (family.welcome forest member).Reaches token time ↔ family.Reaches token time :=
        sound.reaches_welcome fun _ _ => grows.above_old sound.timeline.grown old
      rw [reaches, ← sound.cancels token old time later]
      exact Timeline.cancelsBy_old sound.timeline grows old
    · exact newest time later

theorem IsSound.make (sound : family.IsSound) {making : Making} {context : RequestContext}
    (made : making.make? family.timeline.forest family.members = some (forest, context)) :
    (family.welcome forest ⟨making, context⟩).IsSound := by
  have kin := sound.kin.make made
  cases makes_of_make? made with
  | own link token =>
    have grows := family.timeline.forest.grows_root
    have grown := grows.isGrown sound.timeline.grown fun _ never => nomatch never
    exact sound.grow grows grown kin fun _ _ =>
      iff_of_false (Timeline.not_cancelsBy_root sound.timeline) sound.not_reaches_root
  | shared link found same =>
    exact {
      timeline := sound.timeline
      kin
      present := sound.present_concat _
      cancels := fun token inside time later =>
        (sound.cancels token inside time later).trans (sound.reaches_welcome fun _ _ => Iff.rfl).symm }
  | @below _ other parent link found token =>
    have grows := family.timeline.forest.grows_child parent.context.token
    have inside := sound.kin.mem_inside (List.mem_of_getElem? found)
    have grown := grows.isGrown sound.timeline.grown fun token isParent => by
      cases isParent
      exact ⟨inside, id⟩
    refine sound.grow grows grown kin fun time later => ?_
    rw [Timeline.cancelsBy_child sound.timeline inside, sound.reaches_child inside]
    exact sound.cancels _ inside time later

/-! ### Families that come from nothing -/

theorem IsSound.step (sound : family.IsSound) (act : Act) : (family.step act).IsSound := by
  cases act with
  | make making =>
    simp only [Family.step]
    split
    · next made => exact sound.make made
    · exact sound
  | cancel number =>
    simp only [Family.step]
    split
    · next member found =>
      refine sound.call found sound.timeline.cancelNow TokenForest.size_cancel
        (fun _ => TokenForest.parent?_cancel sound.timeline.grown) (Nat.le_refl _) fun token inside time later => ?_
      rw [Timeline.cancelsBy_cancelNow sound.timeline inside, and_iff_right later]
    · exact sound
  | cancelAfter number millis =>
    simp only [Family.step]
    split
    · next member found =>
      have known := sound.kin.mem_inside (List.mem_of_getElem? found)
      exact sound.call found (sound.timeline.cancelAfter known millis) Timeline.size_ring
        (fun _ => Timeline.parent?_ring sound.timeline.grown) (Nat.le_refl _) fun token inside time later =>
          Timeline.cancelsBy_cancelAfter sound.timeline inside later millis
    · exact sound
  | advance millis => exact sound.moveTo _
  | wait number delay =>
    simp only [Family.step]
    split
    · next member found =>
      have inside := sound.kin.mem_inside (List.mem_of_getElem? found)
      obtain ⟨times, moved⟩ := Timeline.run_fst sound.timeline inside delay
      rw [moved]
      exact sound.moveAlong times
    · exact sound

theorem IsSound.perform (sound : family.IsSound) (acts : List Act) : (family.perform acts).IsSound := by
  induction acts generalizing family with
  | nil => exact sound
  | cons act acts inductionHypothesis => exact inductionHypothesis (sound.step act)

variable {number : Nat}

/-- A context is cancelled by a time if one that governs it is. -/
theorem IsSound.cancelsBy_iff (sound : family.IsSound) (found : family.members[number]? = some member)
    (later : family.timeline.now ≤ time) :
    family.timeline.CancelsBy member.context.token time ↔ family.CalledBy number time := by
  rw [sound.cancels _ (sound.kin number member found).inside time later]
  refine exists_congr fun call => and_congr_right fun isCall => and_congr_right fun _ => ?_
  constructor
  · rintro ⟨upper, isUpper, above⟩
    exact (above_iff_governs sound.kin isUpper found).1 above
  · intro governs
    have isUpper := List.getElem?_eq_getElem (sound.present call isCall)
    exact ⟨_, isUpper, (above_iff_governs sound.kin isUpper found).2 governs⟩

theorem CalledBy.mono {later : Nat} (called : family.CalledBy number time) (before : time ≤ later) :
    family.CalledBy number later := by
  obtain ⟨call, isCall, due, governs⟩ := called
  exact ⟨call, isCall, Nat.le_trans due before, governs⟩

/-- Is the context cancelled no later than the result of a wait is there, and no later than any moment of the wait at
which its deadline is reached? -/
def CancelsFirst (family : Family) (number : Nat) (context : RequestContext) (ready : Option Nat) : Prop :=
  ∃ time, family.CalledBy number time ∧ (∀ moment ∈ ready, time ≤ moment) ∧
    ∀ deadline ∈ context.deadline, ∀ moment, family.timeline.now ≤ moment →
      deadline.nanos ≤ moment * Duration.nanosPerMilli → time ≤ moment

section Await

variable {α : Type} {context : RequestContext}

/-- What a poll yields that begins now, with this coming of the work. -/
def Yields (family : Family) (number : Nat) (context : RequestContext) (outcome : Poll α) :
    Except Interruption α → Prop :=
  outcome.Yields (family.CalledBy number family.timeline.now) (context.HasExpired family.timeline.now)

/-- Does nothing come of the polls in these rounds, up to a family in which the wait goes on? -/
inductive Waits (number : Nat) (context : RequestContext) : Family → List (Round α) → Family → Prop
  | nil {start : Family} : Waits number context start [] start
  | cons {start last : Family} {round : Round α} {rounds : List (Round α)} :
    ¬ (start.perform round.before).CalledBy number (start.perform round.before).timeline.now →
      ¬ context.HasExpired (start.perform round.before).timeline.now → round.outcome = .pending →
        Waits number context ((start.perform round.before).perform round.work) rounds last →
          Waits number context start (round :: rounds) last

theorem IsSound.isCancelled_iff (sound : family.IsSound) (found : family.members[number]? = some member) :
    family.timeline.forest.isCancelled member.context.token = true ↔
      family.CalledBy number family.timeline.now :=
  sound.timeline.isCancelled_iff.trans (sound.cancelsBy_iff found (Nat.le_refl _))

end Await

/-- What is promised of a context: when it is cancelled, that its children and their like do not cancel it, what its
deadline is, how a wait under it ends for work of any kind, and how and when it ends for work that is there at a time
and does nothing. -/
structure Promises (family : Family) (number : Nat) (member : Member) : Prop where
  cancelled : family.timeline.forest.isCancelled member.context.token = true ↔
    family.CalledBy number family.timeline.now
  children : ∀ child parent, linkOf? family.members child = some (.below parent) →
    Governs family.members number parent → ¬ Governs family.members child number
  siblings : ∀ sibling parent other, linkOf? family.members number = some (.below parent) →
    linkOf? family.members sibling = some (.below other) → Governs family.members parent other → sibling ≠ number →
    ¬ Governs family.members sibling number
  deadline : member.context.deadline = member.making.deadline? (deadlineOf? family.members)
  awaits : ∀ {α : Type} (rounds : List (Round α)) (result : Except Interruption α),
    (family.await member.context rounds).2 = .ready result ↔
      ∃ early last late waiting, rounds = early ++ last :: late ∧
        Waits number member.context family early waiting ∧
        (waiting.perform last.before).Yields number member.context last.outcome result
  givesUp : ∀ delay, (family.timeline.run member.context delay).2 = some .cancelled ↔
    family.CancelsFirst number member.context (family.timeline.ready? delay)
  timesOut : ∀ delay, (family.timeline.run member.context delay).2 = some .timedOut ↔
    ¬ family.CancelsFirst number member.context (family.timeline.ready? delay) ∧
      Timeline.ExpiresFirst member.context (family.timeline.ready? delay)
  finishes : ∀ delay time, ((family.timeline.await member.context (family.timeline.ready? delay)).2 = .ready (.ok ()) ∧
      (family.timeline.await member.context (family.timeline.ready? delay)).1.now = time) ↔
    ¬ family.CancelsFirst number member.context (family.timeline.ready? delay) ∧
      ¬ Timeline.ExpiresFirst member.context (family.timeline.ready? delay) ∧ family.timeline.ready? delay = some time

end Family

end Community
