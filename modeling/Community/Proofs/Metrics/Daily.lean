/-
This file proves that the figures of a day are those of its events. The counts start afresh when an event of a
new day is recorded and not when the day begins, so between the two they still belong to an earlier day; ending
a request never starts a day. What carries the proof is that the day of the counts is the day of the last event
that may start one. Since the clock does not go back, no other day has events of its own from then on, and
since days have different dates, a date that has passed does not come again.
-/

import Community.Metrics.Daily
import Community.Proofs.Cache.Recency
import Community.Proofs.Float.Quotient
import Community.Proofs.Metrics.History
import Community.Proofs.Text.Bytewise
import Community.Proofs.Time.Order

namespace Community.Metrics

/-! ### The endpoint with the most calls -/

namespace Daily

/-- Does the first endpoint rank at least as high as the second? -/
def Leads (first second : String × Nat) : Prop :=
  second.2 < first.2 ∨ first.2 = second.2 ∧ first.1 ≤ second.1

theorem Leads.refl (endpoint : String × Nat) : Leads endpoint endpoint :=
  Or.inr ⟨rfl, le_refl _⟩

theorem Leads.trans {first second third : String × Nat} (front : Leads first second)
    (back : Leads second third) : Leads first third := by
  rcases front with more | ⟨same, smaller⟩
  · exact Or.inl (back.elim (fun less => less.trans more) fun equal => equal.1 ▸ more)
  · rcases back with more | ⟨equal, less⟩
    · exact Or.inl (same ▸ more)
    · exact Or.inr ⟨same.trans equal, smaller.trans less⟩

theorem higher_cases (first second : String × Nat) :
    higher first second = first ∧ Leads first second ∨ higher first second = second ∧ Leads second first := by
  unfold higher Leads
  split
  case isTrue ranks =>
    exact Or.inr ⟨rfl, ranks.imp_right fun ⟨same, smaller⟩ => ⟨same.symm, smaller.le⟩⟩
  case isFalse fails =>
    rw [not_or, not_and, not_lt, not_lt] at fails
    obtain ⟨atMost, tie⟩ := fails
    exact Or.inl ⟨rfl, (Nat.lt_or_eq_of_le atMost).imp_right fun same => ⟨same.symm, tie same.symm⟩⟩

/-- Of some endpoints the one that is chosen is one of them and ranks highest. -/
theorem foldl_higher (first : String × Nat) (rest : List (String × Nat)) :
    rest.foldl higher first ∈ first :: rest ∧
      ∀ other ∈ first :: rest, Leads (rest.foldl higher first) other := by
  induction rest generalizing first with
  | nil => exact ⟨List.mem_cons_self, fun other member => List.mem_singleton.1 member ▸ Leads.refl _⟩
  | cons second rest inductionHypothesis =>
    obtain ⟨chosen, leads⟩ := inductionHypothesis (higher first second)
    rw [List.foldl_cons]
    have onTop := leads _ List.mem_cons_self
    rw [List.forall_mem_cons] at leads
    rw [List.forall_mem_cons, List.forall_mem_cons]
    rw [List.mem_cons] at chosen
    rcases higher_cases first second with ⟨same, front⟩ | ⟨same, front⟩
    · rw [same] at chosen onTop leads ⊢
      exact ⟨List.mem_cons.2 (chosen.imp_right (List.mem_cons_of_mem _)), onTop, onTop.trans front, leads.2⟩
    · rw [same] at chosen onTop leads ⊢
      exact ⟨List.mem_cons_of_mem _ (List.mem_cons.2 chosen), onTop.trans front, onTop, leads.2⟩

theorem topEndpoint_eq_none {calls : Table String Nat} :
    topEndpoint calls = none ↔ calls.bindings = [] := by
  unfold topEndpoint
  split <;> simp_all

theorem topEndpoint_eq_some {calls : Table String Nat} {name : String}
    (top : topEndpoint calls = some name) :
    ∃ count, calls.get? name = some count ∧
      ∀ other fewer, calls.get? other = some fewer → Leads (name, count) (other, fewer) := by
  unfold topEndpoint at top
  split at top
  case h_1 => cases top
  case h_2 first rest bindings =>
    obtain ⟨chosen, leads⟩ := foldl_higher first rest
    obtain rfl := Option.some.inj top
    refine ⟨_, Table.get?_eq_some_iff.2 (bindings ▸ chosen), fun other fewer found => ?_⟩
    exact leads _ (bindings ▸ Table.get?_eq_some_iff.1 found)

end Daily

/-! ### What an event does -/

namespace Daily

/-- What an event does to the counts of its day. -/
def count (daily : Daily) : Event → Daily
  | .login user => { daily with activeUsers := daily.activeUsers.insert user () }
  | .register => { daily with newUsers := daily.newUsers + 1 }
  | .request call =>
    { daily with
      totalRequests := daily.totalRequests + 1
      totalLatencyMs := daily.totalLatencyMs + call.latencyMs
      successRequests := daily.successRequests + call.success.toNat
      errorRequests := daily.errorRequests + call.error.toNat
      endpointCalls :=
        daily.endpointCalls.insert call.endpoint ((daily.endpointCalls.get? call.endpoint).getD 0 + 1) }
  | .opened =>
    { daily with
      currentConcurrent := daily.currentConcurrent + 1
      peakConcurrent := max daily.peakConcurrent (daily.currentConcurrent + 1) }
  | .closed => daily.decrement
  | .looked => daily

/-- The counts after an event at a time. -/
def next (daily : Daily) (now : Timestamp) : Event → Daily
  | .login user => daily.recordLogin now user
  | .register => daily.recordRegister now
  | .request call => daily.recordRequest now call.endpoint call.latencyMs call.success call.error
  | .opened => daily.increment now
  | .closed => daily.decrement
  | .looked => (daily.today now).1

/-- The counts after a history that began at a time. -/
def run (start : Timestamp) (history : History) : Daily :=
  history.foldl (fun daily entry => daily.next entry.1 entry.2) (create start)

variable {daily : Daily} {now : Timestamp} {event : Event}

/-- Every event may start a day, except that a request ends. -/
theorem next_eq (other : event ≠ .closed) : daily.next now event = (daily.rollOver now).count event := by
  cases event with
  | closed => exact absurd rfl other
  | login | register | request | opened | looked => rfl

theorem date_count : (daily.count event).date = daily.date := by
  cases event <;> rfl

theorem currentConcurrent_count :
    (daily.count event).currentConcurrent = event.gauge daily.currentConcurrent := by
  cases event <;> rfl

theorem contains_activeUsers_count {user : UInt64} :
    (daily.count event).activeUsers.contains user = true ↔
      daily.activeUsers.contains user = true ∨ event.user? = some user := by
  cases event with
  | login other =>
    show ((daily.activeUsers.insert other ()).get? user).isSome = true ↔ _
    rw [Table.get?_insert]
    by_cases same : other = user
    · simp [same, Event.user?]
    · simp [same, Event.user?, Table.contains]
  | register | request | opened | closed | looked =>
    exact (or_iff_left fun login => by cases login).symm

theorem newUsers_count :
    (daily.count event).newUsers = daily.newUsers + if event = .register then 1 else 0 := by
  cases event <;> rfl

theorem date_rollOver : (daily.rollOver now).date = now.date := by
  unfold rollOver
  split
  · assumption
  · rfl

theorem rollOver_of_eq (today : daily.date = now.date) : daily.rollOver now = daily :=
  if_pos today

theorem today_rollOver : (daily.rollOver now).today now = daily.today now := by
  unfold today
  rw [rollOver_of_eq date_rollOver]

end Daily

/-! ### Counts of the events of a day -/

/-- The counts of requests are those of some calls. -/
structure CountsCalls (daily : Daily) (calls : List Call) : Prop where
  totalRequests : daily.totalRequests = calls.length
  successRequests : daily.successRequests = calls.countP Call.success
  errorRequests : daily.errorRequests = calls.countP Call.error
  totalLatencyMs : daily.totalLatencyMs = Int64.ofInt (calls.map fun call => call.latencyMs.toInt).sum
  endpointCalls : ∀ endpoint, (daily.endpointCalls.get? endpoint).getD 0 =
    (calls.map Call.endpoint).count endpoint
  /-- Only endpoints with calls are kept. -/
  positive : ∀ endpoint, daily.endpointCalls.get? endpoint ≠ some 0

/-- The counts are those of some events. -/
structure Counts (daily : Daily) (events : List Event) : Prop where
  activeUsers : ∀ user, daily.activeUsers.contains user ↔ user ∈ users events
  newUsers : daily.newUsers = registrations events
  calls : CountsCalls daily (calls events)

section Counts

variable {daily : Daily} {events : List Event} {event : Event}

theorem CountsCalls.request {calls : List Call} (counts : CountsCalls daily calls) (call : Call) :
    CountsCalls (daily.count (.request call)) (calls ++ [call]) where
  totalRequests := by
    rw [List.length_append, ← counts.totalRequests]
    rfl
  successRequests := by
    rw [List.countP_append, ← counts.successRequests]
    cases good : call.success <;> simp [Daily.count, good]
  errorRequests := by
    rw [List.countP_append, ← counts.errorRequests]
    cases bad : call.error <;> simp [Daily.count, bad]
  totalLatencyMs := by
    rw [List.map_append, List.sum_append, Int64.ofInt_add, ← counts.totalLatencyMs]
    simp [Daily.count]
  endpointCalls endpoint := by
    rw [List.map_append, List.count_append, ← counts.endpointCalls endpoint]
    show ((daily.endpointCalls.insert call.endpoint _).get? endpoint).getD 0 = _
    rw [Table.get?_insert]
    by_cases same : call.endpoint = endpoint
    · simp [same]
    · simp [same]
  positive endpoint := by
    show (daily.endpointCalls.insert call.endpoint _).get? endpoint ≠ some 0
    rw [Table.get?_insert]
    split
    · exact fun same => Nat.succ_ne_zero _ (Option.some.inj same)
    · exact counts.positive endpoint

theorem CountsCalls.count {calls : List Call} (counts : CountsCalls daily calls) (event : Event) :
    CountsCalls (daily.count event) (calls ++ event.call?.toList) := by
  cases event with
  | request call => exact counts.request call
  | login | register | opened | closed | looked =>
    simp only [Event.call?, Option.toList_none, List.append_nil]
    exact { counts with }

namespace Counts

/-- Fresh counts are those of a day on which requests have ended and nothing else has happened. -/
theorem fresh {date : Date} {current : Nat} (quiet : ∀ event ∈ events, event = .closed) :
    Counts { date := date, currentConcurrent := current } events where
  activeUsers user := by
    refine iff_of_false nofun fun member => ?_
    obtain ⟨event, found, loggedIn⟩ := List.mem_filterMap.1 (List.mem_toFinset.1 member)
    rw [quiet event found] at loggedIn
    cases loggedIn
  newUsers := by
    have none : .register ∉ events := fun found => nomatch quiet .register found
    exact (List.count_eq_zero.2 none).symm
  calls := by
    have none : Metrics.calls events = [] := by
      refine List.filterMap_eq_nil_iff.2 fun event found => ?_
      rw [quiet event found]
      rfl
    rw [none]
    exact ⟨rfl, rfl, rfl, rfl, fun _ => rfl, fun _ found => nomatch found⟩

/-- The counts after an event are those of one more event. -/
theorem count (counts : Counts daily events) (event : Event) :
    Counts (daily.count event) (events ++ [event]) where
  activeUsers user := by
    rw [Daily.contains_activeUsers_count, mem_users_concat, counts.activeUsers user]
  newUsers := by rw [Daily.newUsers_count, registrations_concat, counts.newUsers]
  calls := by
    rw [calls_concat]
    exact counts.calls.count event

end Counts

end Counts

/-! ### Counts of a history -/

/-- The counts and the gauge are those of a history that has come to a time. The day of the counts is the day of
the last event that may start one. -/
structure Represents (daily : Daily) (history : History) (clock : Timestamp) : Prop where
  counts : Counts daily (on daily.date history)
  current : daily.currentConcurrent = gauge history
  peak : IsGreatest (insert 0 (reached daily.date history)) daily.peakConcurrent
  begun : ∃ since ≤ clock, since.date = daily.date ∧ ∀ entry ∈ history, entry.2 ≠ .closed → entry.1 ≤ since

namespace Represents

variable {daily : Daily} {history rest : History} {start clock now : Timestamp} {event : Event}

theorem create (start : Timestamp) : Represents (Daily.create start) [] start where
  counts := Counts.fresh nofun
  current := rfl
  peak := by
    refine ⟨Set.mem_insert _ _, fun value member => ?_⟩
    rcases member with rfl | ⟨before, time, after, split, -⟩
    · exact le_refl _
    · exact absurd split (List.append_ne_nil_of_right_ne_nil _ (List.cons_ne_nil _ _)).symm
  begun := ⟨start, start.le_refl, rfl, fun _ member => nomatch member⟩

/-- On a new day nothing has happened before, except that requests have ended. -/
theorem quiet (represents : Represents daily history clock) (later : clock ≤ now)
    (newDay : daily.date ≠ now.date) {entry : Timestamp × Event} (member : entry ∈ history)
    (today : entry.1.date = now.date) : entry.2 = .closed := by
  by_contra starts
  obtain ⟨since, passed, sameDay, latest⟩ := represents.begun
  have between := Timestamp.date_eq_of_between (latest entry member starts)
    (Timestamp.le_trans passed later) today
  exact newDay (sameDay.symm.trans between)

theorem rollOver (represents : Represents daily history clock) (later : clock ≤ now) :
    Represents (daily.rollOver now) history now := by
  obtain ⟨since, passed, sameDay, latest⟩ := represents.begun
  have atMost (entry) (member : entry ∈ history) (starts : entry.2 ≠ .closed) : entry.1 ≤ now :=
    Timestamp.le_trans (latest entry member starts) (Timestamp.le_trans passed later)
  by_cases today : daily.date = now.date
  · rw [Daily.rollOver_of_eq today]
    exact ⟨represents.counts, represents.current, represents.peak, now, now.le_refl, today.symm, atMost⟩
  · have quiet {entry : Timestamp × Event} (member : entry ∈ history) :
        entry.1.date = now.date → entry.2 = .closed := represents.quiet later today member
    unfold Daily.rollOver
    rw [if_neg today]
    refine ⟨Counts.fresh fun event member => ?_, represents.current, ⟨Set.mem_insert _ _, ?_⟩,
      now, now.le_refl, rfl, atMost⟩
    · obtain ⟨entry, found, rfl⟩ := List.mem_map.1 member
      obtain ⟨found, here⟩ := List.mem_filter.1 found
      exact quiet found (of_decide_eq_true here)
    · rintro value (rfl | ⟨before, time, after, rfl, here, -⟩)
      · exact le_refl _
      · exact nomatch quiet (List.mem_append_right _ List.mem_cons_self) here

/-- The greatest of the values that an event leaves behind. -/
theorem peak_count (represents : Represents daily history clock) (today : daily.date = now.date) :
    IsGreatest (insert 0 (reached daily.date (history ++ [(now, event)])))
      (daily.count event).peakConcurrent := by
  by_cases opened : event = .opened
  · have values : insert 0 (reached daily.date (history ++ [(now, event)])) =
        insert (gauge history + 1) (insert 0 (reached daily.date history)) := by
      ext value
      simp only [Set.mem_insert_iff, mem_reached_concat, opened, today, true_and]
      tauto
    rw [values, opened, ← represents.current]
    show IsGreatest _ (max daily.peakConcurrent (daily.currentConcurrent + 1))
    rw [max_comm]
    exact represents.peak.insert _
  · have values : reached daily.date (history ++ [(now, event)]) = reached daily.date history := by
      ext value
      simp only [mem_reached_concat, opened, false_and, or_false]
    have same : (daily.count event).peakConcurrent = daily.peakConcurrent := by
      cases event with
      | opened => exact absurd rfl opened
      | login | register | request | closed | looked => rfl
    rw [values, same]
    exact represents.peak

/-- An event on the day of the counts. -/
theorem count (represents : Represents daily history now) (today : daily.date = now.date) :
    Represents (daily.count event) (history ++ [(now, event)]) now where
  counts := by
    rw [Daily.date_count, on_concat_of_eq today.symm]
    exact represents.counts.count event
  current := by rw [Daily.currentConcurrent_count, represents.current, gauge_concat]
  peak := by
    rw [Daily.date_count]
    exact represents.peak_count today
  begun := by
    obtain ⟨since, passed, sameDay, latest⟩ := represents.begun
    refine ⟨now, now.le_refl, today.symm.trans Daily.date_count.symm, fun entry member starts => ?_⟩
    rcases List.mem_append.1 member with old | new
    · exact Timestamp.le_trans (latest entry old starts) passed
    · rw [List.mem_singleton.1 new]
      exact now.le_refl

/-- A request that ends after the day of the counts. -/
theorem decrement (represents : Represents daily history clock) (later : clock ≤ now)
    (otherDay : daily.date ≠ now.date) : Represents daily.decrement (history ++ [(now, .closed)]) now where
  counts := by
    show Counts daily.decrement (on daily.date (history ++ [(now, .closed)]))
    rw [on_concat_of_ne otherDay.symm]
    exact { represents.counts with calls := { represents.counts.calls with } }
  current := by
    rw [gauge_concat, ← represents.current]
    rfl
  peak := by
    have values : reached daily.date (history ++ [(now, .closed)]) = reached daily.date history := by
      ext value
      simp [mem_reached_concat]
    show IsGreatest (insert 0 (reached daily.date _)) daily.peakConcurrent
    rw [values]
    exact represents.peak
  begun := by
    obtain ⟨since, passed, sameDay, latest⟩ := represents.begun
    refine ⟨since, Timestamp.le_trans passed later, sameDay, fun entry member starts => ?_⟩
    rcases List.mem_append.1 member with old | new
    · exact latest entry old starts
    · exact absurd (congrArg Prod.snd (List.mem_singleton.1 new)) starts

theorem next (represents : Represents daily history clock) (later : clock ≤ now) (event : Event) :
    Represents (daily.next now event) (history ++ [(now, event)]) now := by
  by_cases closed : event = .closed
  · subst closed
    by_cases today : daily.date = now.date
    · have rolled := represents.rollOver later
      rw [Daily.rollOver_of_eq today] at rolled
      show Represents (daily.count .closed) _ now
      exact rolled.count today
    · exact represents.decrement later today
  · rw [Daily.next_eq closed]
    exact (represents.rollOver later).count Daily.date_rollOver

end Represents

/-- The clock does not go back from the start to now. -/
def Forward (start : Timestamp) (history : History) (now : Timestamp) : Prop :=
  (start :: (history.map Prod.fst ++ [now])).Pairwise (· ≤ ·)

theorem forward_replicate (start : Timestamp) (count : Nat) (event : Event) :
    Forward start (List.replicate count (start, event)) start := by
  have times : start :: ((List.replicate count (start, event)).map Prod.fst ++ [start]) =
      List.replicate (count + 1 + 1) start := by
    rw [List.map_replicate, ← List.replicate_succ']
    rfl
  unfold Forward
  rw [times, List.pairwise_replicate]
  exact Or.inr start.le_refl

theorem Represents.foldl {daily : Daily} {before rest : History} {clock now : Timestamp}
    (represents : Represents daily before clock) (forward : Forward clock rest now) :
    ∃ last ≤ now,
      Represents (rest.foldl (fun daily entry => daily.next entry.1 entry.2) daily) (before ++ rest) last := by
  induction rest generalizing daily before clock with
  | nil =>
    rw [List.append_nil]
    exact ⟨clock, List.rel_of_pairwise_cons forward (List.mem_singleton_self now), represents⟩
  | cons entry rest inductionHypothesis =>
    obtain ⟨time, event⟩ := entry
    obtain ⟨first, forward⟩ := List.pairwise_cons.1 forward
    have later : clock ≤ time := first time List.mem_cons_self
    rw [List.append_cons]
    exact inductionHypothesis (represents.next later event) forward

/-- The counts with which the figures are made. -/
theorem represents_rollOver_run {start now : Timestamp} {history : History}
    (forward : Forward start history now) :
    Represents ((Daily.run start history).rollOver now) history now := by
  obtain ⟨last, later, represents⟩ := (Represents.create start).foldl forward
  exact represents.rollOver later

/-! ### Figures -/

section Figures

variable {daily : Daily} {history : History} {events : List Event} {calls : List Call} {clock : Timestamp}

/-- As many users are kept as have logged in. -/
theorem Counts.size_activeUsers (counts : Counts daily events) :
    daily.activeUsers.size = (users events).card := by
  have same : users events = (daily.activeUsers.bindings.map Prod.fst).toFinset := by
    ext user
    rw [← counts.activeUsers user, List.mem_toFinset, Table.contains, Option.isSome_iff_exists]
    simp [Table.get?_eq_some_iff]
  rw [same, List.toFinset_card_of_nodup daily.activeUsers.distinct, List.length_map]
  rfl

namespace CountsCalls

/-- An endpoint that is kept is kept with its calls. -/
theorem get?_endpointCalls (counts : CountsCalls daily calls) (endpoint : String) :
    daily.endpointCalls.get? endpoint =
      if (calls.map Call.endpoint).count endpoint = 0 then none
      else some ((calls.map Call.endpoint).count endpoint) := by
  rw [← counts.endpointCalls endpoint]
  cases found : daily.endpointCalls.get? endpoint with
  | none => rfl
  | some count =>
    have nonzero : count ≠ 0 := fun zero => counts.positive endpoint (zero ▸ found)
    rw [Option.getD_some, if_neg nonzero]

/-- The kept endpoints are those of the calls, each once. -/
theorem keys_perm (counts : CountsCalls daily calls) :
    (daily.endpointCalls.bindings.map Prod.fst).Perm (calls.map Call.endpoint).dedup := by
  refine (List.perm_ext_iff_of_nodup daily.endpointCalls.distinct (List.nodup_dedup _)).2 fun endpoint => ?_
  have found := counts.get?_endpointCalls endpoint
  rw [List.mem_dedup]
  by_cases called : endpoint ∈ calls.map Call.endpoint
  · rw [if_neg (List.count_pos_iff.2 called).ne'] at found
    exact iff_of_true (List.mem_map.2 ⟨_, Table.get?_eq_some_iff.1 found, rfl⟩) called
  · rw [if_pos (List.count_eq_zero.2 called)] at found
    refine iff_of_false (fun kept => ?_) called
    obtain ⟨binding, member, rfl⟩ := List.mem_map.1 kept
    cases found.symm.trans (Table.get?_eq_some_iff.2 member)

/-- The calls of all endpoints together are all calls. -/
theorem sum_values (counts : CountsCalls daily calls) : daily.endpointCalls.values.sum = calls.length := by
  have values : daily.endpointCalls.values =
      (daily.endpointCalls.bindings.map Prod.fst).map fun endpoint =>
        (calls.map Call.endpoint).count endpoint := by
    rw [List.map_map]
    refine List.map_congr_left fun binding member => ?_
    have found := Table.get?_eq_some_iff.2 member
    rw [Function.comp_apply, ← counts.endpointCalls, found, Option.getD_some]
  rw [values, (counts.keys_perm.map _).sum_eq, List.sum_map_count_dedup_eq_length, List.length_map]

/-- The endpoint that is named has the most calls, and of those with as many its bytes come first. -/
theorem topEndpoint_eq_some (counts : CountsCalls daily calls) {name : String}
    (top : Daily.topEndpoint daily.endpointCalls = some name) :
    let callsOf (endpoint : String) := (calls.map Call.endpoint).count endpoint
    0 < callsOf name ∧ ∀ other, other ≠ name → callsOf other < callsOf name ∨
      callsOf other = callsOf name ∧ Text.bytes name < Text.bytes other := by
  intro callsOf
  obtain ⟨count, found, leads⟩ := Daily.topEndpoint_eq_some top
  have called : callsOf name = count := by
    show (calls.map Call.endpoint).count name = count
    rw [← counts.endpointCalls, found, Option.getD_some]
  have positive : 0 < callsOf name := Nat.pos_of_ne_zero fun zero => counts.positive name (by
    rw [found, ← called, zero])
  refine ⟨positive, fun other differs => ?_⟩
  by_cases uncalled : callsOf other = 0
  · exact Or.inl (uncalled ▸ positive)
  · have otherFound := counts.get?_endpointCalls other
    rw [if_neg uncalled] at otherFound
    rw [called, Text.bytes_lt_iff]
    exact (leads other _ otherFound).imp_right fun ⟨same, first⟩ =>
      ⟨same.symm, lt_of_le_of_ne first (Ne.symm differs)⟩

theorem topEndpoint_eq_none (counts : CountsCalls daily calls) :
    Daily.topEndpoint daily.endpointCalls = none ↔ calls.length = 0 := by
  have kept := counts.keys_perm.length_eq
  rw [Daily.topEndpoint_eq_none, ← List.length_eq_zero_iff, ← List.length_map Prod.fst, kept,
    List.length_eq_zero_iff, List.dedup_eq_nil, List.map_eq_nil_iff, List.length_eq_zero_iff]

end CountsCalls

/-- The figures are sums over some events, and what follows from these sums. -/
structure Sums (events : List Event) (figures : Today) : Prop where
  activeUsers : figures.activeUsers = (users events).card
  newUsers : figures.newUsers = registrations events
  totalRequests : figures.totalRequests = requests events
  successRequests : figures.successRequests = successes events
  errorRequests : figures.errorRequests = errors events
  /-- The mean of the latencies, whose sum is exact when a word of 64 bits has room for it, and is rounded then. -/
  avgLatencyMs : -2 ^ 63 ≤ latency events → latency events < 2 ^ 63 → figures.avgLatencyMs =
    if requests events = 0 then 0.0 else Float.ofInt (latency events) / (requests events).toFloat
  successRate : figures.successRate =
    if requests events = 0 then 0.0 else (successes events).toFloat * 100.0 / (requests events).toFloat
  /-- A share in percent. For more requests a hundred times their number may be rounded up. -/
  share : 100 * requests events ≤ 2 ^ 55 → 0 ≤ figures.successRate ∧ figures.successRate ≤ 100
  noEndpoint : figures.topEndpoint = none ↔ requests events = 0
  /-- The endpoint with the most calls; of those with as many, the one whose bytes come first. -/
  topEndpoint : ∀ name, figures.topEndpoint = some name → 0 < callsOf events name ∧
    ∀ other, other ≠ name → callsOf events other < callsOf events name ∨
      callsOf events other = callsOf events name ∧ Text.bytes name < Text.bytes other

theorem Counts.sums (counts : Counts daily events) {now : Timestamp} (today : daily.date = now.date) :
    Sums events (daily.today now).2 := by
  unfold Daily.today
  rw [Daily.rollOver_of_eq today]
  have total := counts.calls.totalRequests
  have good := counts.calls.successRequests
  exact {
    activeUsers := counts.size_activeUsers
    newUsers := counts.newUsers
    totalRequests := total
    successRequests := good
    errorRequests := counts.calls.errorRequests
    avgLatencyMs := fun least most => by
      have sum : daily.totalLatencyMs.toInt = latency events := by
        rw [counts.calls.totalLatencyMs]
        exact Int64.toInt_ofInt_of_le least most
      show Daily.ratio (Float.ofInt daily.totalLatencyMs.toInt) daily.totalRequests = _
      rw [sum, total]
      rfl
    successRate := by
      show Daily.ratio (daily.successRequests.toFloat * 100.0) daily.totalRequests = _
      rw [good, total]
      rfl
    share := fun small => by
      show 0 ≤ Daily.ratio (daily.successRequests.toFloat * 100.0) daily.totalRequests ∧
        Daily.ratio (daily.successRequests.toFloat * 100.0) daily.totalRequests ≤ 100
      have part : daily.successRequests ≤ daily.totalRequests := by
        rw [good, total]
        exact successes_le_requests events
      unfold Daily.ratio
      split
      · decide +kernel
      · next nonzero => exact Binary64.percent_mem (Nat.pos_of_ne_zero nonzero) part (total ▸ small)
    noEndpoint := counts.calls.topEndpoint_eq_none
    topEndpoint := fun name => counts.calls.topEndpoint_eq_some }

/-- The figures of a day are sums over its events, and what follows from them. -/
theorem sums_of_day {start now : Timestamp} {history : History} (forward : Forward start history now) :
    Sums (on now.date history) ((Daily.run start history).today now).2 := by
  have sums := (represents_rollOver_run forward).counts.sums Daily.date_rollOver
  rwa [Daily.today_rollOver, Daily.date_rollOver] at sums

/-- The figures of a day are those of its events. Whenever the clock has not gone back, the counts are the sums
over the events that were recorded on the day of the question, however many days without events lie between and
whichever event was the first to start the day; the calls of all endpoints together are all requests. The peak
is the greatest value to which the gauge was raised on that day, and the gauge goes through all days. -/
theorem figures_of_day {start now : Timestamp} {history : History} (forward : Forward start history now) :
    let counted := (Daily.run start history).today now
    counted.2.date = now.date ∧ Sums (on now.date history) counted.2 ∧
      counted.1.endpointCalls.values.sum = counted.2.totalRequests ∧
      counted.2.successRequests ≤ counted.2.totalRequests ∧
      counted.2.currentConcurrent = gauge history ∧
      IsGreatest (insert 0 (reached now.date history)) counted.2.peakConcurrent := by
  intro counted
  have represents := represents_rollOver_run forward
  have today : ((Daily.run start history).rollOver now).date = now.date := Daily.date_rollOver
  have sums := sums_of_day forward
  rw [← today] at sums ⊢
  refine ⟨rfl, sums, ?_, ?_, represents.current, represents.peak⟩
  · exact represents.counts.calls.sum_values.trans sums.totalRequests.symm
  · rw [sums.successRequests, sums.totalRequests]
    exact successes_le_requests _

/-- Two requests are open at midnight. The next day one of them ends, which starts no day; then a user logs in
twice, two endpoints are called once each, and another request begins. The peak of the day is two, because of
the request that was open before. -/
theorem figures_of_day_after_midnight :
    let evening : Timestamp := ⟨86399 * 1000000000⟩
    let midnight : Timestamp := ⟨86400 * 1000000000⟩
    let history : History :=
      [(evening, .opened), (evening, .opened), (evening, .request ⟨"/evening", 5, true, false⟩),
        (midnight, .closed), (midnight, .login 7), (midnight, .request ⟨"/b", 20, false, true⟩),
        (midnight, .login 7), (midnight, .request ⟨"/a", 10, true, false⟩), (midnight, .opened)]
    Forward evening history midnight ∧
      ((Daily.run evening history).today midnight).2.date = ⟨1970, 1, 2⟩ ∧
      ((Daily.run evening history).today midnight).2.activeUsers = 1 ∧
      ((Daily.run evening history).today midnight).2.totalRequests = 2 ∧
      ((Daily.run evening history).today midnight).2.topEndpoint = some "/a" ∧
      ((Daily.run evening history).today midnight).2.peakConcurrent = 2 := by
  intro evening midnight history
  have forward : Forward evening history midnight := by
    unfold Forward
    decide
  obtain ⟨date, sums, -⟩ := figures_of_day forward
  refine ⟨forward, ?_, ?_, ?_, ?_, ?_⟩
  · rw [date]
    decide
  · rw [sums.activeUsers]
    decide
  · rw [sums.totalRequests]
    decide
  · decide
  · decide

/-- The mean of three latencies, each of 3002399751580331 ms, is reported as half a millisecond less, because their
sum is rounded first. And of 360287970189643 requests, little more than 2 ^ 55 / 100, all of which were successful,
more than a hundred percent are reported as successful. -/
theorem figures_of_day_rounded :
    let start : Timestamp := ⟨0⟩
    let slow : History := List.replicate 3 (start, .request ⟨"/", 3002399751580331, true, false⟩)
    let many : History := List.replicate 360287970189643 (start, .request ⟨"/", 0, true, false⟩)
    (Forward start slow start ∧ latency (on start.date slow) = 3 * 3002399751580331 ∧
      requests (on start.date slow) = 3 ∧
      ((Daily.run start slow).today start).2.avgLatencyMs = 3002399751580330.5) ∧
    Forward start many start ∧ requests (on start.date many) = 360287970189643 ∧
      successes (on start.date many) = 360287970189643 ∧
      100 < ((Daily.run start many).today start).2.successRate := by
  intro start slow many
  have forwardSlow : Forward start slow start := forward_replicate ..
  have forwardMany : Forward start many start := forward_replicate ..
  have three : requests (on start.date slow) = 3 := by rw [on_replicate, requests_replicate]
  have total : requests (on start.date many) = 360287970189643 := by rw [on_replicate, requests_replicate]
  have good : successes (on start.date many) = 360287970189643 := by
    rw [on_replicate, successes_replicate _ rfl]
  have sumOfSlow : latency (on start.date slow) = 3 * 3002399751580331 := by
    rw [on_replicate]
    decide
  refine ⟨⟨forwardSlow, sumOfSlow, three, ?_⟩, forwardMany, total, good, ?_⟩
  · have average := (sums_of_day forwardSlow).avgLatencyMs
    rw [sumOfSlow, three] at average
    rw [average (by decide) (by decide)]
    decide +kernel
  · rw [(sums_of_day forwardMany).successRate, total, good]
    decide +kernel

end Figures

end Community.Metrics
