/-
This file proves that the view of the present shows what has happened and nothing of how it was kept. Requests are
counted in three registers whose meaning moves on with the requests: the second of the last one, its count so far,
and the count of the second before it. Read at any later time they still give the requests of the second before,
because nothing was requested since the second of the last request. Of the users a table keeps the last activity,
and sweeps thin it out. On a clock that shows no less time passed at a later reading, a user whom a sweep has removed
would be removed by every later one, so what a sweep leaves does not depend on the sweeps before it. A clock that is
read in a leap second may show less, although it does not go back.
-/

import Mathlib.Data.Finset.Card
import Mathlib.Data.List.Induction
import Community.Metrics.Realtime
import Community.Proofs.Time.Elapsed

namespace Community.Metrics

/-! ### What happens -/

/-- What can happen while the present is watched. -/
inductive Signal
  | request
  | active (user : UInt64)
  | swept
  | failed
  deriving DecidableEq

/-- Signals with the times at which they were noted, the earliest first. -/
abbrev Journal := List (ClockReading × Signal)

namespace Realtime

/-- The view after a signal at a time. -/
def next (realtime : Realtime) (now : ClockReading) : Signal → Realtime
  | .request => realtime.recordRequest now
  | .active user => realtime.recordActivity now user
  | .swept => (realtime.sweepInactive now).1
  | .failed => realtime.recordError now

/-- The view after a journal that was begun at a time. -/
def run (config : MetricsConfig) (start : ClockReading) (journal : Journal) : Realtime :=
  journal.foldl (fun realtime entry => realtime.next entry.1 entry.2) (create config start)

theorem run_concat {config : MetricsConfig} {start time : ClockReading} {journal : Journal} {signal : Signal} :
    run config start (journal ++ [(time, signal)]) = (run config start journal).next time signal := by
  rw [run, List.foldl_append]
  rfl

end Realtime

/-! ### Requests in a second -/

/-- The number of requests in a second. -/
def requestsIn (second : Int) (journal : Journal) : Nat :=
  journal.countP fun entry => entry.2 = .request ∧ entry.1.seconds = second

section Requests

variable {realtime : Realtime} {journal : Journal} {time now : ClockReading} {signal : Signal} {second : Int}

theorem requestsIn_concat_of_ne (other : signal ≠ .request ∨ time.seconds ≠ second) :
    requestsIn second (journal ++ [(time, signal)]) = requestsIn second journal := by
  rw [requestsIn, List.countP_append, List.countP_singleton, if_neg]
  · rfl
  · simpa [Classical.or_iff_not_imp_left] using other

theorem requestsIn_concat_self :
    requestsIn time.seconds (journal ++ [(time, .request)]) = requestsIn time.seconds journal + 1 := by
  simp [requestsIn]

theorem requestsIn_eq_zero (none : ∀ entry ∈ journal, entry.2 = .request → entry.1.seconds ≠ second) :
    requestsIn second journal = 0 :=
  List.countP_eq_zero.2 fun entry member found =>
    none entry member (of_decide_eq_true found).1 (of_decide_eq_true found).2

/-- What the registers mean. -/
structure Tallies (realtime : Realtime) (journal : Journal) : Prop where
  running : realtime.running = requestsIn realtime.countedSecond journal
  published : realtime.published = requestsIn (realtime.countedSecond - 1) journal
  latest : ∀ entry ∈ journal, entry.2 = .request → entry.1.seconds ≤ realtime.countedSecond
  /-- The second has come, unless there was no request yet. -/
  passed : realtime.countedSecond = 0 ∨ ∃ entry ∈ journal, realtime.countedSecond = entry.1.seconds

/-- The clock began at the epoch or later. -/
def SinceEpoch (journal : Journal) : Prop :=
  ∀ entry ∈ journal, 0 ≤ entry.1.seconds

instance : Decidable (SinceEpoch journal) :=
  inferInstanceAs (Decidable (∀ entry ∈ journal, _))

namespace Tallies

theorem create (config : MetricsConfig) (start : ClockReading) : Tallies (.create config start) [] where
  running := rfl
  published := rfl
  latest _ member := nomatch member
  passed := Or.inl rfl

/-- Before now there is no later second than that of the registers, apart from those before the epoch. -/
theorem countedSecond_le (tallies : Tallies realtime journal) (onward : Onward journal now)
    (since : 0 ≤ now.seconds) : realtime.countedSecond ≤ now.seconds := by
  rcases tallies.passed with none | ⟨entry, member, same⟩
  · exact none ▸ since
  · exact same ▸ ClockReading.seconds_le (onward.le_now entry member)

/-- No request is later than a second that neither the registers nor the newest request are later than. -/
theorem latest_concat (tallies : Tallies realtime journal) (onward : realtime.countedSecond ≤ second)
    (newest : signal = .request → time.seconds ≤ second) :
    ∀ entry ∈ journal ++ [(time, signal)], entry.2 = .request → entry.1.seconds ≤ second := by
  intro entry member request
  rcases List.mem_append.1 member with old | new
  · exact (tallies.latest entry old request).trans onward
  · obtain rfl := List.mem_singleton.1 new
    exact newest request

/-- The first request of a second takes the counts on to it. -/
theorem turn (tallies : Tallies realtime journal) (later : realtime.countedSecond < time.seconds) :
    Tallies (realtime.recordRequest time) (journal ++ [(time, .request)]) := by
  have quiet {second : Int} (after : realtime.countedSecond < second) : requestsIn second journal = 0 :=
    requestsIn_eq_zero fun entry member request same =>
      absurd (tallies.latest entry member request) (by omega)
  rw [Realtime.recordRequest, if_pos later]
  refine ⟨?_, ?_, tallies.latest_concat later.le fun _ => le_refl _, Or.inr ⟨(time, .request), by simp, rfl⟩⟩
  · rw [requestsIn_concat_self, quiet later]
  · show (if time.seconds = realtime.countedSecond + 1 then realtime.running else 0) =
      requestsIn (time.seconds - 1) _
    rw [requestsIn_concat_of_ne (Or.inr (by omega))]
    split
    · next atOnce => rw [atOnce, Int.add_sub_cancel, tallies.running]
    · next gap => exact (quiet (by omega)).symm

/-- Any other request of the second counts towards it. -/
theorem count (tallies : Tallies realtime journal) (same : realtime.countedSecond = time.seconds) :
    Tallies (realtime.recordRequest time) (journal ++ [(time, .request)]) := by
  rw [Realtime.recordRequest, if_neg same.not_lt]
  refine ⟨?_, ?_, tallies.latest_concat le_rfl fun _ => same.ge, Or.inr ⟨(time, .request), by simp, same⟩⟩
  · show realtime.running + 1 = requestsIn realtime.countedSecond _
    rw [same, requestsIn_concat_self, tallies.running, same]
  · show realtime.published = requestsIn (realtime.countedSecond - 1) _
    rw [requestsIn_concat_of_ne (Or.inr (by omega)), tallies.published]

/-- What else happens leaves the registers alone. -/
theorem leave {after : Realtime} (tallies : Tallies realtime journal) (other : signal ≠ .request)
    (countedSecond : after.countedSecond = realtime.countedSecond) (running : after.running = realtime.running)
    (published : after.published = realtime.published) : Tallies after (journal ++ [(time, signal)]) where
  running := by rw [requestsIn_concat_of_ne (Or.inl other), running, countedSecond, tallies.running]
  published := by rw [requestsIn_concat_of_ne (Or.inl other), published, countedSecond, tallies.published]
  latest := countedSecond ▸ tallies.latest_concat le_rfl fun request => absurd request other
  passed := by
    rw [countedSecond]
    exact tallies.passed.imp_right fun ⟨entry, member, same⟩ => ⟨entry, List.mem_append_left _ member, same⟩

theorem next (tallies : Tallies realtime journal) (onward : Onward journal time) (since : 0 ≤ time.seconds) :
    Tallies (realtime.next time signal) (journal ++ [(time, signal)]) := by
  cases signal with
  | request =>
    rcases (tallies.countedSecond_le onward since).lt_or_eq with later | same
    · exact tallies.turn later
    · exact tallies.count same
  | active user =>
    show Tallies (realtime.recordActivity time user) _
    unfold Realtime.recordActivity
    split <;> exact tallies.leave nofun rfl rfl rfl
  | swept | failed => exact tallies.leave nofun rfl rfl rfl

theorem run {config : MetricsConfig} {start : ClockReading} (onward : Onward journal now)
    (since : SinceEpoch journal) : Tallies (.run config start journal) journal := by
  induction journal using List.reverseRecOn generalizing now with
  | nil => exact create config start
  | append_singleton journal entry inductionHypothesis =>
    obtain ⟨time, signal⟩ := entry
    obtain ⟨before, -⟩ := onward.concat
    obtain ⟨sinceBefore, sinceNow⟩ := List.forall_mem_append.1 since
    rw [Realtime.run_concat]
    exact (inductionHypothesis before sinceBefore).next before (sinceNow _ List.mem_cons_self)

/-- What the registers show at a time. -/
theorem currentQps_eq (tallies : Tallies realtime journal) (onward : Onward journal now)
    (since : SinceEpoch journal) : realtime.currentQps now = requestsIn (now.seconds - 1) journal := by
  unfold Realtime.currentQps
  dsimp only
  split
  · next same => rw [tallies.published, same]
  · next differs =>
    split
    · next follows => rw [tallies.running, follows, Int.add_sub_cancel]
    · next gap =>
      refine (requestsIn_eq_zero fun entry member request same => ?_).symm
      -- there is an entry, so now is at or after the epoch and not before the second of the registers
      have passed := ClockReading.seconds_le (onward.le_now entry member)
      have reached := tallies.countedSecond_le onward (le_trans (since entry member) passed)
      have latest := tallies.latest entry member request
      omega

end Tallies

/-- However requests come, and whatever else happens between them, the figure that is shown at a time is the number
of requests in the second before, as long as the clock does not go back and has not been before the epoch. -/
theorem qps_counts_last_second {config : MetricsConfig} {start now : ClockReading} {journal : Journal}
    (onward : Onward journal now) (since : SinceEpoch journal) :
    (Realtime.run config start journal).currentQps now = requestsIn (now.seconds - 1) journal :=
  (Tallies.run onward since).currentQps_eq onward since

/-- Two requests in the first second after the epoch and one in the next; then nothing for a while, and two more, one
of them in a leap second after the other. A sweep and an error in between do not count. -/
theorem qps_counts_last_second_after_gap :
    let journal : Journal :=
      [(⟨0, 0, 0⟩, .request), (⟨0, 0, 999999999⟩, .request), (⟨0, 1, 0⟩, .swept), (⟨0, 1, 500000000⟩, .request),
        (⟨0, 4, 0⟩, .failed), (⟨0, 5, 0⟩, .request), (⟨0, 5, 1500000000⟩, .request)]
    let realtime := Realtime.run {} ⟨0, 0, 0⟩ journal
    Onward journal ⟨0, 5, 1999999999⟩ ∧ SinceEpoch journal ∧ realtime.currentQps ⟨0, 5, 1999999999⟩ = 0 ∧
      realtime.currentQps ⟨0, 6, 0⟩ = 2 ∧
      (Realtime.run {} ⟨0, 0, 0⟩ (journal.take 4)).currentQps ⟨0, 1, 999999999⟩ = 2 := by
  intro journal realtime
  have since : SinceEpoch journal := by decide
  have soon := @qps_counts_last_second {} ⟨0, 0, 0⟩ ⟨0, 5, 1999999999⟩ journal (by decide) since
  have later := @qps_counts_last_second {} ⟨0, 0, 0⟩ ⟨0, 6, 0⟩ journal (by decide) since
  have early := @qps_counts_last_second {} ⟨0, 0, 0⟩ ⟨0, 1, 999999999⟩ (journal.take 4) (by decide) (by decide)
  exact ⟨by decide, since, soon.trans (by decide), later.trans (by decide), early.trans (by decide)⟩

end Requests

/-! ### Presence -/

/-- The user who is active. -/
def Signal.user? : Signal → Option UInt64
  | .active user => some user
  | _ => none

/-- When a user was last active. -/
def lastActivity? (user : UInt64) (journal : Journal) : Option ClockReading :=
  (journal.filter fun entry => entry.2 = .active user).getLast?.map Prod.fst

/-- The users whose last activity is at most a span of time ago. User zero is nobody in particular. -/
def activeWithin (span : Duration) (now : ClockReading) (journal : Journal) : Set UInt64 :=
  {user | user ≠ 0 ∧ ∃ time ∈ lastActivity? user journal, now.since time ≤ span.nanos}

/-- The users who are active at some time, user zero apart. -/
def activeUsers (journal : Journal) : Finset UInt64 :=
  (journal.filterMap fun entry => entry.2.user?).toFinset.erase 0

/-- The users online. -/
def Realtime.present (realtime : Realtime) : Finset UInt64 :=
  realtime.online.keys.toFinset

section Presence

variable {realtime : Realtime} {config : MetricsConfig} {start time now : ClockReading} {journal : Journal}
  {signal : Signal} {user : UInt64}

theorem lastActivity?_concat_self : lastActivity? user (journal ++ [(time, .active user)]) = some time := by
  simp [lastActivity?]

/-- Somebody's last activity is among the signals. -/
theorem singleton_sublist_of_lastActivity? (active : lastActivity? user journal = some time) :
    [(time, .active user)].Sublist journal := by
  obtain ⟨⟨moment, signal⟩, last, rfl⟩ := Option.map_eq_some_iff.1 active
  obtain ⟨member, same⟩ := List.mem_filter.1 (List.mem_of_getLast? last)
  exact List.singleton_sublist.2 (of_decide_eq_true same ▸ member)

theorem lastActivity?_concat_of_ne (other : signal ≠ .active user) :
    lastActivity? user (journal ++ [(time, signal)]) = lastActivity? user journal := by
  simp [lastActivity?, other]

theorem mem_activeUsers_concat :
    user ∈ activeUsers (journal ++ [(time, signal)]) ↔
      user ∈ activeUsers journal ∨ user ≠ 0 ∧ signal = .active user := by
  have active : signal.user? = some user ↔ signal = .active user := by
    cases signal <;> simp [Signal.user?]
  simp only [activeUsers, List.filterMap_append, List.toFinset_append, Finset.mem_erase, Finset.mem_union,
    List.mem_toFinset, and_or_left, List.mem_filterMap (l := [_]), List.mem_singleton, exists_eq_left, active]

namespace Realtime

theorem mem_present : user ∈ realtime.present ↔ ∃ time, realtime.online.get? user = some time :=
  List.mem_toFinset.trans Table.mem_keys

theorem card_present : realtime.present.card = realtime.onlineUsers :=
  (List.toFinset_card_of_nodup realtime.online.distinct).trans (List.length_map _)

theorem get?_recordActivity :
    (realtime.recordActivity time user).online.get? =
      if user = 0 then realtime.online.get? else Function.update realtime.online.get? user (some time) := by
  unfold recordActivity
  split
  · rfl
  · funext other
    rw [Function.update_apply]
    exact (Table.get?_insert ..).trans (if_congr eq_comm rfl rfl)

theorem get?_sweepInactive :
    (realtime.sweepInactive now).1.online.get? user =
      (realtime.online.get? user).filter fun lastSeen => realtime.staysOnline now lastSeen :=
  Table.get?_filter ..

theorem staysOnline_iff :
    realtime.staysOnline now time ↔ now.since time ≤ realtime.config.onlineUserExpire.nanos :=
  decide_eq_true_iff

theorem online_recordRequest : (realtime.recordRequest now).online = realtime.online := by
  unfold recordRequest
  dsimp only
  split <;> rfl

theorem config_next : (realtime.next time signal).config = realtime.config := by
  cases signal with
  | request =>
    show (realtime.recordRequest time).config = _
    unfold recordRequest
    dsimp only
    split <;> rfl
  | active user =>
    show (realtime.recordActivity time user).config = _
    unfold recordActivity
    split <;> rfl
  | swept | failed => rfl

theorem config_run : (run config start journal).config = config := by
  induction journal using List.reverseRecOn with
  | nil => rfl
  | append_singleton journal entry inductionHypothesis => rw [run_concat, config_next, inductionHypothesis]

theorem mem_present_next (unswept : signal ≠ .swept) :
    user ∈ (realtime.next time signal).present ↔
      user ∈ realtime.present ∨ user ≠ 0 ∧ signal = .active user := by
  rw [mem_present, mem_present]
  cases signal with
  | request =>
    show (∃ moment, (realtime.recordRequest time).online.get? user = some moment) ↔ _
    simp [online_recordRequest]
  | active other =>
    show (∃ moment, (realtime.recordActivity time other).online.get? user = some moment) ↔ _
    rw [get?_recordActivity]
    by_cases nobody : other = 0
    · rw [if_pos nobody]
      refine (or_iff_left ?_).symm
      rintro ⟨somebody, same⟩
      exact somebody (Signal.active.inj same ▸ nobody)
    · rw [if_neg nobody, Function.update_apply]
      by_cases same : user = other
      · rw [if_pos same]
        exact iff_of_true ⟨time, rfl⟩ (Or.inr ⟨same ▸ nobody, congrArg _ same.symm⟩)
      · rw [if_neg same]
        exact (or_iff_left fun new => same (Signal.active.inj new.2).symm).symm
  | swept => exact absurd rfl unswept
  | failed =>
    show (∃ moment, realtime.online.get? user = some moment) ↔ _
    simp

/-- Without a sweep nobody goes, and those come who are active. -/
theorem present_run_append {between : Journal} (unswept : ∀ entry ∈ between, entry.2 ≠ .swept) :
    (run config start (journal ++ between)).present = (run config start journal).present ∪ activeUsers between := by
  induction between using List.reverseRecOn with
  | nil => exact (congrArg present (by rw [List.append_nil])).trans (Finset.union_empty _).symm
  | append_singleton between entry inductionHypothesis =>
    obtain ⟨time, signal⟩ := entry
    obtain ⟨before, last⟩ := List.forall_mem_append.1 unswept
    ext user
    rw [← List.append_assoc, run_concat, mem_present_next (last _ List.mem_cons_self), inductionHypothesis before,
      Finset.mem_union, Finset.mem_union, mem_activeUsers_concat, or_assoc]

end Realtime

/-- The table holds nothing but last activities, and lacks only those that a sweep after them has found too old. -/
structure Remembers (realtime : Realtime) (journal : Journal) : Prop where
  known : ∀ user moment, realtime.online.get? user = some moment →
    user ≠ 0 ∧ lastActivity? user journal = some moment
  forgotten : ∀ user moment, user ≠ 0 → lastActivity? user journal = some moment →
    realtime.online.get? user = some moment ∨
      ∃ sweep, [(moment, .active user), (sweep, .swept)].Sublist journal ∧
        realtime.config.onlineUserExpire.nanos < sweep.since moment

namespace Remembers

theorem create : Remembers (.create config start) [] where
  known _ _ found := nomatch found
  forgotten _ _ _ active := nomatch active

/-- What is older stays forgotten if nothing is heard of the user. -/
theorem forgotten_concat {after : Realtime} {moment : ClockReading} (remembers : Remembers realtime journal)
    (config : after.config = realtime.config) (same : after.online.get? user = realtime.online.get? user)
    (other : signal ≠ .active user) (somebody : user ≠ 0)
    (active : lastActivity? user (journal ++ [(time, signal)]) = some moment) :
    after.online.get? user = some moment ∨
      ∃ sweep, [(moment, .active user), (sweep, .swept)].Sublist (journal ++ [(time, signal)]) ∧
        after.config.onlineUserExpire.nanos < sweep.since moment := by
  rw [lastActivity?_concat_of_ne other] at active
  rw [config, same]
  exact (remembers.forgotten user moment somebody active).imp_right fun ⟨sweep, part, tooOld⟩ =>
    ⟨sweep, part.trans (List.sublist_append_left _ _), tooOld⟩

theorem quiet {after : Realtime} (remembers : Remembers realtime journal) (config : after.config = realtime.config)
    (online : after.online = realtime.online) (other : ∀ user, signal ≠ .active user) :
    Remembers after (journal ++ [(time, signal)]) where
  known user moment found := by
    obtain ⟨somebody, active⟩ := remembers.known user moment (online ▸ found)
    exact ⟨somebody, (lastActivity?_concat_of_ne (other user)).trans active⟩
  forgotten user _ somebody active :=
    remembers.forgotten_concat config (congrArg (Table.get? · user) online) (other user) somebody active

theorem active (remembers : Remembers realtime journal) (user : UInt64) :
    Remembers (realtime.recordActivity time user) (journal ++ [(time, .active user)]) where
  known other moment found := by
    rw [Realtime.get?_recordActivity] at found
    by_cases nobody : user = 0
    · rw [if_pos nobody] at found
      obtain ⟨somebody, active⟩ := remembers.known other moment found
      refine ⟨somebody, (lastActivity?_concat_of_ne fun same => ?_).trans active⟩
      exact somebody (Signal.active.inj same ▸ nobody)
    · rw [if_neg nobody, Function.update_apply] at found
      by_cases same : other = user
      · rw [if_pos same] at found
        exact ⟨same ▸ nobody, same ▸ lastActivity?_concat_self.trans found⟩
      · rw [if_neg same] at found
        obtain ⟨somebody, active⟩ := remembers.known other moment found
        exact ⟨somebody, (lastActivity?_concat_of_ne fun equal => same (Signal.active.inj equal).symm).trans active⟩
  forgotten other moment somebody active := by
    by_cases same : other = user
    · subst same
      rw [lastActivity?_concat_self] at active
      rw [Realtime.get?_recordActivity, if_neg somebody, Function.update_self]
      exact Or.inl active
    · refine remembers.forgotten_concat (@Realtime.config_next _ _ (.active user)) ?_
        (fun equal => same (Signal.active.inj equal).symm) somebody active
      rw [Realtime.get?_recordActivity]
      split
      · rfl
      · exact Function.update_of_ne same _ _

theorem swept (remembers : Remembers realtime journal) :
    Remembers (realtime.sweepInactive time).1 (journal ++ [(time, .swept)]) where
  known user moment found := by
    rw [Realtime.get?_sweepInactive, Option.filter_eq_some_iff] at found
    obtain ⟨somebody, active⟩ := remembers.known user moment found.1
    exact ⟨somebody, (lastActivity?_concat_of_ne Signal.noConfusion).trans active⟩
  forgotten user moment somebody active := by
    rw [lastActivity?_concat_of_ne Signal.noConfusion] at active
    by_cases stays : realtime.staysOnline time moment = true
    · refine (remembers.forgotten user moment somebody active).imp (fun found => ?_)
        fun ⟨sweep, part, tooOld⟩ => ⟨sweep, part.trans (List.sublist_append_left _ _), tooOld⟩
      rw [Realtime.get?_sweepInactive, Option.filter_eq_some_iff]
      exact ⟨found, stays⟩
    · exact Or.inr ⟨time, (singleton_sublist_of_lastActivity? active).append_right [(time, .swept)],
        not_le.1 fun atMost => stays (Realtime.staysOnline_iff.2 atMost)⟩

theorem next (remembers : Remembers realtime journal) :
    Remembers (realtime.next time signal) (journal ++ [(time, signal)]) := by
  cases signal with
  | active user => exact remembers.active user
  | swept => exact remembers.swept
  | request => exact remembers.quiet Realtime.config_next Realtime.online_recordRequest fun _ => Signal.noConfusion
  | failed => exact remembers.quiet rfl rfl fun _ => Signal.noConfusion

theorem run : Remembers (.run config start journal) journal := by
  induction journal using List.reverseRecOn with
  | nil => exact create
  | append_singleton journal entry inductionHypothesis =>
    rw [Realtime.run_concat]
    exact inductionHypothesis.next

/-- What a sweep leaves, whatever sweeps there were before: who was too old for an earlier one is too old now. -/
theorem present_sweepInactive (remembers : Remembers realtime journal)
    (steady : ClockReading.Steady (journal.map Prod.fst ++ [now])) :
    ((realtime.sweepInactive now).1.present : Set UInt64) =
      activeWithin realtime.config.onlineUserExpire now journal := by
  ext user
  simp only [Finset.mem_coe, Realtime.mem_present, Realtime.get?_sweepInactive, Option.filter_eq_some_iff,
    Realtime.staysOnline_iff, activeWithin, Set.mem_ofPred_eq]
  constructor
  · rintro ⟨moment, found, stays⟩
    obtain ⟨somebody, active⟩ := remembers.known user moment found
    exact ⟨somebody, moment, active, stays⟩
  · rintro ⟨somebody, moment, active, stays⟩
    refine ⟨moment, (remembers.forgotten user moment somebody active).resolve_right ?_, stays⟩
    rintro ⟨sweep, part, tooOld⟩
    have passed : sweep.since moment ≤ now.since moment :=
      steady moment sweep now ((part.map Prod.fst).append_right [now])
    exact absurd (tooOld.trans_le passed) (not_lt.2 stays)

end Remembers

namespace Realtime

/-- A sweep only removes users. -/
theorem present_sweepInactive_subset : (realtime.sweepInactive now).1.present ⊆ realtime.present := by
  intro user member
  obtain ⟨time, found⟩ := mem_present.1 member
  rw [get?_sweepInactive, Option.filter_eq_some_iff] at found
  exact mem_present.2 ⟨time, found.1⟩

/-- A sweep tells how many users it has removed. -/
theorem snd_sweepInactive :
    (realtime.sweepInactive now).2 = (realtime.present \ (realtime.sweepInactive now).1.present).card := by
  rw [Finset.card_sdiff_of_subset present_sweepInactive_subset, card_present, card_present]
  rfl

end Realtime

/-- Whatever has happened, and however often it was swept, a sweep leaves those users online, user zero apart, whose
last activity is no longer ago than the configured span, to the nanosecond and the last one included, as long as the
clock is steady. It only removes users, and tells how many they were. In a stretch without a sweep the users online
are those at its beginning and those who are active in it, user zero apart. The number of users online is that of
these users. -/
theorem presence_of_activity {config : MetricsConfig} {start now : ClockReading} {journal : Journal}
    (steady : ClockReading.Steady (journal.map Prod.fst ++ [now])) :
    let realtime := Realtime.run config start journal
    let swept := realtime.sweepInactive now
    (swept.1.present : Set UInt64) = activeWithin config.onlineUserExpire now journal ∧
      swept.1.present ⊆ realtime.present ∧ swept.2 = (realtime.present \ swept.1.present).card ∧
      (∀ before between, journal = before ++ between → (∀ entry ∈ between, entry.2 ≠ .swept) →
        realtime.present = (Realtime.run config start before).present ∪ activeUsers between) ∧
      realtime.onlineUsers = realtime.present.card := by
  intro realtime swept
  have remembers : Remembers realtime journal := Remembers.run
  have left := remembers.present_sweepInactive steady
  rw [Realtime.config_run] at left
  refine ⟨left, Realtime.present_sweepInactive_subset, Realtime.snd_sweepInactive, ?_,
    Realtime.card_present.symm⟩
  rintro before between rfl unswept
  exact Realtime.present_run_append unswept

/-- After exactly the five minutes that are configured a user is still there, and after one nanosecond more the next
sweep removes that user alone. User zero never comes. -/
theorem presence_of_activity_at_limit :
    let now : Timestamp := ⟨300000000001⟩
    let journal : Journal :=
      [((⟨0⟩ : Timestamp), .active 1), ((⟨0⟩ : Timestamp), .active 0), ((⟨240000000000⟩ : Timestamp), .active 2),
        ((⟨300000000000⟩ : Timestamp), .swept)]
    let realtime := Realtime.run {} (⟨0⟩ : Timestamp) journal
    let swept := realtime.sweepInactive now
    ClockReading.Steady (journal.map Prod.fst ++ [now.reading]) ∧ 1 ∈ realtime.present ∧ 0 ∉ realtime.present ∧
      1 ∉ swept.1.present ∧ 2 ∈ swept.1.present ∧ swept.2 = 1 := by
  intro now journal realtime swept
  have steady : ClockReading.Steady (journal.map Prod.fst ++ [now.reading]) :=
    @Timestamp.steady_readings [⟨0⟩, ⟨0⟩, ⟨240000000000⟩, ⟨300000000000⟩, now] (by decide)
  obtain ⟨left, -, removed, -⟩ := @presence_of_activity {} (⟨0⟩ : Timestamp) now journal steady
  refine ⟨steady, by decide, by decide, ?_, ?_, removed.trans (by decide)⟩
  · rw [← Finset.mem_coe, left]
    rintro ⟨-, moment, active, recent⟩
    have first : lastActivity? 1 journal = some (⟨0⟩ : Timestamp) := by decide
    obtain rfl := Option.some.inj (first.symm.trans active)
    exact absurd recent (by decide)
  · rw [← Finset.mem_coe, left]
    exact ⟨by decide, (⟨240000000000⟩ : Timestamp), by decide, by decide⟩

/-- It is not enough that the clock does not go back. A user active sixty seconds before midnight is found too old by a
sweep within the leap second that ends the day, and at midnight, when the clock shows sixty seconds since then, would
still be there but for that sweep. Nor does everybody come who is newly active: user zero does not. -/
theorem presence_of_activity_leap :
    let config : MetricsConfig := { onlineUserExpire := .ofSeconds 60 }
    let start : ClockReading := ⟨0, 86340, 0⟩
    let leap : ClockReading := ⟨0, 86399, 1500000000⟩
    let midnight : ClockReading := ⟨1, 0, 0⟩
    let unswept : Journal := [(start, .active 1), (start, .active 0)]
    let journal : Journal := unswept ++ [(leap, .swept)]
    let left := fun journal => ((Realtime.run config start journal).sweepInactive midnight).1.present
    Onward journal midnight ∧ left unswept = {1} ∧ left journal = ∅ ∧
      1 ∈ activeWithin config.onlineUserExpire midnight journal ∧
      (Realtime.run config start unswept).present = {1} := by
  intro config start leap midnight unswept journal left
  exact ⟨by decide, by decide, by decide, ⟨by decide, start, by decide, by decide⟩, by decide⟩

end Presence

end Community.Metrics
