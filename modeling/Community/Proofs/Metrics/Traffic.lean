/-
This file proves that the gauge of open requests is the number of guards that are held. The counts know nothing of
guards: opening raises the gauge, finishing and dropping lower it, each in a method of its own, and the gauge would
rather stay at zero than fall below. What carries the proof is that a guard can be given back only once, so that
there is one to be lowered for whenever the gauge is lowered. A day that starts between the two ends of a request
takes the counts away and leaves the gauge.
-/

import Mathlib.Data.List.DropRight
import Mathlib.Data.List.Induction
import Community.Metrics.Telemetry
import Community.Proofs.Metrics.Daily

namespace Community.Metrics

/-! ### Requests that come and go -/

/-- The figures, with the guards that are held, each under the number of its request. -/
structure Traffic where
  telemetry : Telemetry
  guards : Table Nat Guard := ∅
  /-- The number of the next request. -/
  begun : Nat := 0

/-- What can happen while requests are counted through guards. Whatever else is recorded leaves the guards alone. -/
inductive Move
  | opened (endpoint : String) (millis : Nat)
  | finished (number status : Nat) (user : UInt64) (millis : Nat)
  | dropped (number : Nat)
  | login (user : UInt64)
  | registered
  /-- Somebody asks for the figures of the day. -/
  | looked
  | active (user : UInt64)
  | failed
  | swept
  deriving DecidableEq

namespace Move

def isOpening : Move → Bool
  | opened .. => true
  | _ => false

def isFinish : Move → Bool
  | finished .. => true
  | _ => false

/-- Is a guard given back? -/
def isClosing : Move → Bool
  | finished .. => true
  | dropped _ => true
  | _ => false

/-- Does the move start a day if a new one has come? -/
def startsDay : Move → Bool
  | opened .. => true
  | finished .. => true
  | login _ => true
  | registered => true
  | looked => true
  | _ => false

theorem startsDay_of_isFinish {move : Move} (finish : move.isFinish = true) : move.startsDay = true := by
  cases move with
  | finished => rfl
  | opened | dropped | login | registered | looked | active | failed | swept => cases finish

end Move

/-- Moves with the times at which they are made, the earliest first. -/
abbrev Course := List (Timestamp × Move)

namespace Traffic

/-- Nothing has been opened yet. -/
def create (config : MetricsConfig) (start : Timestamp) : Traffic where
  telemetry := { daily := .create start, realtime := .create config start }

/-- The traffic with other figures of the day. -/
def withDaily (traffic : Traffic) (daily : Daily) : Traffic :=
  { traffic with telemetry := { traffic.telemetry with daily } }

/-- The traffic with other figures of the present. -/
def withRealtime (traffic : Traffic) (realtime : Realtime) : Traffic :=
  { traffic with telemetry := { traffic.telemetry with realtime } }

/-- One move. There is none that gives back a guard which is not held. -/
def step? (traffic : Traffic) (now : Timestamp) : Move → Option Traffic
  | .opened endpoint millis =>
    let (telemetry, guard) := traffic.telemetry.begin now endpoint millis
    some { telemetry, guards := traffic.guards.insert traffic.begun guard, begun := traffic.begun + 1 }
  | .finished number status user millis =>
    (traffic.guards.get? number).map fun guard =>
      { traffic with
        telemetry := traffic.telemetry.finish now guard status user millis
        guards := traffic.guards.erase number }
  | .dropped number =>
    (traffic.guards.get? number).map fun _ =>
      { traffic with telemetry := traffic.telemetry.drop, guards := traffic.guards.erase number }
  | .login user => some (traffic.withDaily (traffic.telemetry.daily.recordLogin now user))
  | .registered => some (traffic.withDaily (traffic.telemetry.daily.recordRegister now))
  | .looked => some (traffic.withDaily (traffic.telemetry.daily.today now).1)
  | .active user => some (traffic.withRealtime (traffic.telemetry.realtime.recordActivity now user))
  | .failed => some (traffic.withRealtime (traffic.telemetry.realtime.recordError now))
  | .swept => some (traffic.withRealtime (traffic.telemetry.realtime.sweepInactive now).1)

/-- One move after the other. -/
def run? (traffic : Traffic) : Course → Option Traffic
  | [] => some traffic
  | (now, move) :: rest => (traffic.step? now move).bind fun next => next.run? rest

theorem run?_concat {traffic : Traffic} {course : Course} {time : Timestamp} {move : Move} :
    traffic.run? (course ++ [(time, move)]) =
      (traffic.run? course).bind fun last => last.step? time move := by
  induction course generalizing traffic with
  | nil => exact Option.bind_fun_some _
  | cons first rest inductionHypothesis =>
    simp only [List.cons_append, run?, Option.bind_assoc, inductionHypothesis]

end Traffic

/-! ### The moves of a day -/

/-- The end of a course in which no day was started but one. -/
def stretch (date : Date) (course : Course) : Course :=
  course.rtakeWhile fun step => !step.2.startsDay || step.1.date = date

/-- How many requests were finished. -/
def finishes (course : Course) : Nat :=
  course.countP fun step => step.2.isFinish

section Stretch

variable {date : Date} {course : Course} {time now : Timestamp} {move : Move}

theorem stretch_concat_of_stays (stays : move.startsDay = true → time.date = date) :
    stretch date (course ++ [(time, move)]) = stretch date course ++ [(time, move)] := by
  refine List.rtakeWhile_concat_pos _ _ _ ?_
  cases starts : move.startsDay with
  | false => rfl
  | true => exact decide_eq_true (stays starts)

theorem stretch_concat_of_ne (starts : move.startsDay = true) (differs : time.date ≠ date) :
    stretch date (course ++ [(time, move)]) = [] := by
  refine List.rtakeWhile_concat_neg _ _ _ ?_
  simp [starts, differs]

theorem finishes_concat : finishes (course ++ [(time, move)]) = finishes course + move.isFinish.toNat := by
  unfold finishes
  rw [List.countP_append, List.countP_singleton]
  cases move.isFinish <;> rfl

/-- If the clock does not go back, the requests that were finished since the day was started are those that were
finished on that day. -/
theorem finishes_stretch (onward : Onward course now) :
    finishes (stretch now.date course) =
      course.countP fun step => step.2.isFinish && step.1.date = now.date := by
  induction course using List.reverseRecOn with
  | nil => rfl
  | append_singleton course step inductionHypothesis =>
    obtain ⟨time, move⟩ := step
    obtain ⟨before, passes⟩ := onward.concat
    have earlier : Onward course now := onward.sublist (List.sublist_append_left _ _)
    rw [List.countP_append, List.countP_singleton]
    by_cases stays : move.startsDay = true → time.date = now.date
    · rw [stretch_concat_of_stays stays, finishes_concat, inductionHypothesis earlier]
      cases finish : move.isFinish with
      | false => rfl
      | true => simp [stays (Move.startsDay_of_isFinish finish)]
    · -- what was finished on that day would lie before a move that is made on another and not later
      obtain ⟨starts, differs⟩ := Classical.not_imp.1 stays
      have none : (course.countP fun step => step.2.isFinish && step.1.date = now.date) = 0 := by
        refine List.countP_eq_zero.2 fun other member finish => differs ?_
        obtain ⟨-, today⟩ := Bool.and_eq_true_iff.1 finish
        exact Timestamp.date_eq_of_between (before.le_now other member) passes (of_decide_eq_true today)
      rw [stretch_concat_of_ne starts differs, none]
      simp [finishes, differs]

end Stretch

/-! ### One more move -/

section Step

variable {traffic after : Traffic} {course : Course} {time now : Timestamp} {move : Move}

theorem Daily.currentConcurrent_rollOver {daily : Daily} :
    (daily.rollOver now).currentConcurrent = daily.currentConcurrent := by
  unfold Daily.rollOver
  split <;> rfl

/-- Closing a request starts no day. -/
theorem Daily.rollOver_decrement {daily : Daily} :
    daily.decrement.rollOver now = (daily.rollOver now).decrement := by
  unfold Daily.rollOver Daily.decrement
  dsimp only
  split <;> rfl

/-- A request is successful, or in error, or neither. -/
theorem Telemetry.success_add_error_le (status : Nat) :
    (Telemetry.isSuccess status).toNat + (Telemetry.isError status).toNat ≤ 1 := by
  unfold Telemetry.isSuccess Telemetry.isError
  by_cases error : 400 ≤ status
  · have notSuccess : ¬ status < 300 := by omega
    simp [error, notSuccess]
  · rw [decide_eq_false error]
    exact Bool.toNat_le _

namespace Traffic

/-- What a move does to the guards. -/
inductive Guarded (traffic : Traffic) (move : Move) (after : Traffic) : Prop
  | opens (guard : Guard) (opening : move.isOpening = true) (closing : move.isClosing = false)
      (guards : after.guards = traffic.guards.insert traffic.begun guard) (begun : after.begun = traffic.begun + 1)
      (gauge : after.telemetry.daily.currentConcurrent = traffic.telemetry.daily.currentConcurrent + 1)
  | closes (number : Nat) (guard : Guard) (found : traffic.guards.get? number = some guard)
      (opening : move.isOpening = false) (closing : move.isClosing = true)
      (guards : after.guards = traffic.guards.erase number) (begun : after.begun = traffic.begun)
      (gauge : after.telemetry.daily.currentConcurrent = traffic.telemetry.daily.currentConcurrent - 1)
  | leaves (opening : move.isOpening = false) (closing : move.isClosing = false)
      (guards : after.guards = traffic.guards) (begun : after.begun = traffic.begun)
      (gauge : after.telemetry.daily.currentConcurrent = traffic.telemetry.daily.currentConcurrent)

theorem guarded_of_step (next : traffic.step? time move = some after) : Guarded traffic move after := by
  have gauge : (traffic.telemetry.daily.rollOver time).currentConcurrent = _ :=
    Daily.currentConcurrent_rollOver
  cases move with
  | opened endpoint millis =>
    obtain rfl := Option.some.inj next
    exact .opens ⟨endpoint, millis⟩ rfl rfl rfl rfl (congrArg (· + 1) gauge)
  | finished number status user millis =>
    obtain ⟨guard, found, rfl⟩ := Option.map_eq_some_iff.1 next
    exact .closes number guard found rfl rfl rfl rfl (congrArg (· - 1) gauge)
  | dropped number =>
    obtain ⟨guard, found, rfl⟩ := Option.map_eq_some_iff.1 next
    exact .closes number guard found rfl rfl rfl rfl rfl
  | login | registered | looked =>
    obtain rfl := Option.some.inj next
    exact .leaves rfl rfl rfl rfl gauge
  | active | failed | swept =>
    obtain rfl := Option.some.inj next
    exact .leaves rfl rfl rfl rfl rfl

/-- What a move does to the counts of a day: it starts the day, and counts if it finishes a request, or it leaves
them alone. -/
structure Counted (daily : Daily) (time : Timestamp) (move : Move) (after : Daily) : Prop where
  date : move.startsDay = true → after.date = time.date
  total : move.startsDay = true →
    after.totalRequests = (daily.rollOver time).totalRequests + move.isFinish.toNat
  parts : move.startsDay = true →
    after.successRequests + after.errorRequests ≤
      (daily.rollOver time).successRequests + (daily.rollOver time).errorRequests + move.isFinish.toNat
  left : move.startsDay = false → ∀ now, ∃ currentConcurrent,
    after.rollOver now = { daily.rollOver now with currentConcurrent }

theorem counted_of_step (next : traffic.step? time move = some after) :
    Counted traffic.telemetry.daily time move after.telemetry.daily := by
  have date : (traffic.telemetry.daily.rollOver time).date = time.date := Daily.date_rollOver
  cases move with
  | opened | login | registered | looked =>
    obtain rfl := Option.some.inj next
    exact ⟨fun _ => date, fun _ => rfl, fun _ => Nat.le_refl _, nofun⟩
  | finished number status user millis =>
    obtain ⟨guard, -, rfl⟩ := Option.map_eq_some_iff.1 next
    refine ⟨fun _ => date, fun _ => rfl, fun _ => ?_, nofun⟩
    have atMost := Telemetry.success_add_error_le status
    show (traffic.telemetry.daily.rollOver time).successRequests + (Telemetry.isSuccess status).toNat +
        ((traffic.telemetry.daily.rollOver time).errorRequests + (Telemetry.isError status).toNat) ≤
      (traffic.telemetry.daily.rollOver time).successRequests +
        (traffic.telemetry.daily.rollOver time).errorRequests + 1
    omega
  | dropped number =>
    obtain ⟨guard, -, rfl⟩ := Option.map_eq_some_iff.1 next
    refine ⟨nofun, nofun, nofun, fun _ now => ?_⟩
    exact ⟨_, Daily.rollOver_decrement⟩
  | active | failed | swept =>
    obtain rfl := Option.some.inj next
    exact ⟨nofun, nofun, nofun, fun _ _ => ⟨_, rfl⟩⟩

end Traffic

end Step

/-! ### What is counted -/

/-- The gauge is the number of guards, every opening has been closed or has a guard, and the counts of a day are
those of the moves that were made since it was started. -/
structure Balanced (traffic : Traffic) (course : Course) : Prop where
  gauge : traffic.telemetry.daily.currentConcurrent = traffic.guards.size
  balance : traffic.guards.size + course.countP (fun step => step.2.isClosing) =
    course.countP fun step => step.2.isOpening
  fresh : ∀ number guard, traffic.guards.get? number = some guard → number < traffic.begun
  total : ∀ now, (traffic.telemetry.daily.rollOver now).totalRequests = finishes (stretch now.date course)
  parts : ∀ now, (traffic.telemetry.daily.rollOver now).successRequests +
    (traffic.telemetry.daily.rollOver now).errorRequests ≤
      (traffic.telemetry.daily.rollOver now).totalRequests

namespace Balanced

variable {traffic after : Traffic} {course : Course} {time now : Timestamp} {move : Move}

theorem create (config : MetricsConfig) (start : Timestamp) : Balanced (.create config start) [] where
  gauge := rfl
  balance := rfl
  fresh _ _ found := nomatch found
  total now := by
    show ((Daily.create start).rollOver now).totalRequests = 0
    unfold Daily.rollOver
    split <;> rfl
  parts now := by
    show ((Daily.create start).rollOver now).successRequests +
      ((Daily.create start).rollOver now).errorRequests ≤ ((Daily.create start).rollOver now).totalRequests
    unfold Daily.rollOver
    split <;> exact Nat.le_refl _

/-- The gauge is lowered for a guard, so it is not at zero. -/
theorem gauge_pos (balanced : Balanced traffic course) {number : Nat} {guard : Guard}
    (found : traffic.guards.get? number = some guard) :
    traffic.telemetry.daily.currentConcurrent - 1 + 1 = traffic.telemetry.daily.currentConcurrent := by
  have one := Table.size_erase found
  rw [balanced.gauge]
  omega

theorem guards_step (balanced : Balanced traffic course) (next : traffic.step? time move = some after) :
    after.telemetry.daily.currentConcurrent = after.guards.size ∧
      after.guards.size + (course ++ [(time, move)]).countP (fun step => step.2.isClosing) =
        (course ++ [(time, move)]).countP (fun step => step.2.isOpening) ∧
      ∀ number guard, after.guards.get? number = some guard → number < after.begun := by
  have gauge := balanced.gauge
  have balance := balanced.balance
  rw [List.countP_append, List.countP_append, List.countP_singleton, List.countP_singleton]
  cases Traffic.guarded_of_step next with
  | opens guard opening closing guards begun raised =>
    have new : traffic.guards.get? traffic.begun = none :=
      Option.eq_none_iff_forall_ne_some.2 fun old found => Nat.lt_irrefl _ (balanced.fresh _ old found)
    have size := Table.size_insert_of_fresh new guard
    rw [guards, begun, raised, size, opening, closing]
    refine ⟨congrArg (· + 1) gauge, by simp; omega, fun number other found => ?_⟩
    rw [Table.get?_insert] at found
    split at found
    · next same => exact same ▸ Nat.lt_succ_self _
    · exact Nat.lt_succ_of_lt (balanced.fresh number other found)
  | closes number guard found opening closing guards begun lowered =>
    have size := Table.size_erase found
    rw [guards, begun, lowered, opening, closing]
    refine ⟨by omega, by simp; omega, fun other held found => ?_⟩
    rw [Table.get?_erase] at found
    split at found
    · cases found
    · exact balanced.fresh other held found
  | leaves opening closing guards begun same =>
    rw [guards, begun, same, opening, closing]
    exact ⟨gauge, balance, balanced.fresh⟩

theorem counts_step (balanced : Balanced traffic course) (next : traffic.step? time move = some after)
    (now : Timestamp) :
    (after.telemetry.daily.rollOver now).totalRequests =
        finishes (stretch now.date (course ++ [(time, move)])) ∧
      (after.telemetry.daily.rollOver now).successRequests +
        (after.telemetry.daily.rollOver now).errorRequests ≤
          (after.telemetry.daily.rollOver now).totalRequests := by
  have counted := Traffic.counted_of_step next
  cases starts : move.startsDay with
  | false =>
    have notFinish : move.isFinish = false :=
      Bool.eq_false_iff.2 fun finish => by simp [Move.startsDay_of_isFinish finish] at starts
    obtain ⟨currentConcurrent, same⟩ := counted.left starts now
    rw [stretch_concat_of_stays (by simp [starts]), finishes_concat, notFinish, same]
    exact ⟨balanced.total now, balanced.parts now⟩
  | true =>
    have date := counted.date starts
    by_cases today : time.date = now.date
    · have here := balanced.total time
      have parts := balanced.parts time
      have more := counted.parts starts
      rw [Daily.rollOver_of_eq (date.trans today), counted.total starts,
        stretch_concat_of_stays fun _ => today, finishes_concat, here, today]
      rw [here] at parts
      exact ⟨rfl, by rw [← today]; omega⟩
    · -- seen from any other day the counts start afresh, and so does the stretch
      rw [stretch_concat_of_ne starts today, Daily.rollOver, if_neg (date ▸ today)]
      exact ⟨rfl, Nat.le_refl _⟩

theorem step (balanced : Balanced traffic course) (next : traffic.step? time move = some after) :
    Balanced after (course ++ [(time, move)]) := by
  obtain ⟨gauge, balance, fresh⟩ := balanced.guards_step next
  exact ⟨gauge, balance, fresh, fun now => (balanced.counts_step next now).1,
    fun now => (balanced.counts_step next now).2⟩

/-- Whatever the clock does, the figures are in balance after any course. -/
theorem run {config : MetricsConfig} {start : Timestamp}
    (runs : (Traffic.create config start).run? course = some traffic) : Balanced traffic course := by
  induction course using List.reverseRecOn generalizing traffic with
  | nil =>
    obtain rfl := Option.some.inj runs
    exact .create config start
  | append_singleton course step inductionHypothesis =>
    obtain ⟨time, move⟩ := step
    rw [Traffic.run?_concat] at runs
    obtain ⟨last, before, next⟩ := Option.bind_eq_some_iff.1 runs
    exact (inductionHypothesis before).step next

end Balanced

/-- However requests are opened, finished and dropped, and whatever the clock does, the gauge is the number of
guards that are held, on every day on which somebody looks; these are the requests that were opened and are not
closed. Giving back any of them lowers the gauge by one, so it is never kept from falling below zero. The requests
of the day are those that were finished since the day was started; if the clock has not gone back, they are those
that were finished on this day. Those that were dropped do not count. No request is counted both as successful and
as an error. -/
theorem gauge_counts_guards {config : MetricsConfig} {start : Timestamp} {course : Course} {traffic : Traffic}
    (runs : (Traffic.create config start).run? course = some traffic) (now : Timestamp) :
    let telemetry := traffic.telemetry
    let figures := (telemetry.daily.today now).2
    telemetry.daily.currentConcurrent = traffic.guards.size ∧
    figures.currentConcurrent = traffic.guards.size ∧
    traffic.guards.size + course.countP (fun step => step.2.isClosing) =
      course.countP (fun step => step.2.isOpening) ∧
    (∀ number guard, traffic.guards.get? number = some guard →
      telemetry.drop.daily.currentConcurrent + 1 = telemetry.daily.currentConcurrent ∧
      ∀ moment status user millis,
        (telemetry.finish moment guard status user millis).daily.currentConcurrent + 1 =
          telemetry.daily.currentConcurrent) ∧
    figures.totalRequests = finishes (stretch now.date course) ∧
    (Onward course now →
      figures.totalRequests = course.countP fun step => step.2.isFinish && step.1.date = now.date) ∧
    figures.successRequests + figures.errorRequests ≤ figures.totalRequests := by
  intro telemetry figures
  have balanced := Balanced.run runs
  have rolled (moment : Timestamp) : (telemetry.daily.rollOver moment).currentConcurrent = _ :=
    Daily.currentConcurrent_rollOver
  refine ⟨balanced.gauge, (rolled now).trans balanced.gauge, balanced.balance,
    fun number guard found => ⟨balanced.gauge_pos found, fun moment status user millis => ?_⟩,
    balanced.total now, fun onward => (balanced.total now).trans (finishes_stretch onward), balanced.parts now⟩
  show (telemetry.daily.rollOver moment).currentConcurrent - 1 + 1 = _
  rw [rolled]
  exact balanced.gauge_pos found

/-- Three requests are opened in the evening, and one of them is finished. At midnight one is dropped, which starts
no day, and another finished, which cannot be done twice. One that is opened meanwhile stays open. -/
theorem gauge_counts_guards_after_midnight :
    let evening : Timestamp := ⟨86399 * 1000000000⟩
    let midnight : Timestamp := ⟨86400 * 1000000000⟩
    let course : Course :=
      [(evening, .opened "/a" 0), (evening, .opened "/b" 1), (evening, .opened "/c" 2),
        (evening, .finished 0 200 7 5), (midnight, .dropped 1), (midnight, .opened "/d" 9),
        (midnight, .finished 2 404 0 12), (midnight, .looked)]
    ∃ traffic, (Traffic.create {} evening).run? course = some traffic ∧
      (traffic.step? midnight (.dropped 2)).isNone ∧
      traffic.telemetry.daily.currentConcurrent = 1 ∧ traffic.guards.size = 1 ∧
      (traffic.telemetry.daily.today midnight).2.totalRequests = 1 := by
  intro evening midnight course
  have runs : ((Traffic.create {} evening).run? course).isSome := by decide
  obtain ⟨traffic, runs⟩ := Option.isSome_iff_exists.1 runs
  have twice : (((Traffic.create {} evening).run? course).bind
      fun last => last.step? midnight (.dropped 2)).isNone := by decide
  rw [runs] at twice
  obtain ⟨gauge, -, balance, -, -, total, -⟩ := gauge_counts_guards runs midnight
  have one : traffic.guards.size = 1 := Nat.add_right_cancel (balance : _ + 3 = 1 + 3)
  exact ⟨traffic, runs, twice, gauge.trans one, one, (total (by decide)).trans (by decide)⟩

end Community.Metrics
