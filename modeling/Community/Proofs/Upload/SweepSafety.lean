/-
This file proves what a sweep can be relied on to spare. While a sweep removes the blobs of a session, the
session stays marked, so no announcement takes its place if it is tracked when the sweep takes it up. Then the
chunks that go are those of an abandoned session. But a sweep settles at its start which sessions it will take
up, and a session that waits for its turn is not marked yet: it may give way to a new one. The sweep still
takes up the old session, and removes the chunks of the new one with it, all of them if nothing disturbs it.
-/

import Mathlib.Data.List.Induction
import Community.Proofs.Upload.Blobs
import Community.Proofs.Upload.Orderly

namespace Community.Upload

/-- The session that a sweep has taken up, if it waits to learn which blobs there are. -/
def Flight.takenUp? : Flight → Option (String × SessionId)
  | ⟨_, .sweep _ uploadId place (.listing _) _ _, none⟩ => some (uploadId, place)
  | _ => none

namespace System

/-- Does the identifier lead to a session that is live or completed? -/
def Protects (system : System) (uploadId : String) : Prop :=
  ∃ place ∈ system.place? uploadId, ∃ session ∈ system.coordinator.session? place,
    session.isLive system.clock ∨ session.status = .completed

instance (system : System) (uploadId : String) : Decidable (system.Protects uploadId) :=
  inferInstanceAs (Decidable (∃ place ∈ system.place? uploadId,
    ∃ session ∈ system.coordinator.session? place, _ ∨ _))

/-- The sweep with a number has taken up a session and does not know yet which blobs there are. -/
def TakesUp (system : System) (number : Nat) (uploadId : String) (place : SessionId) : Prop :=
  (system.flights number).bind Flight.takenUp? = some (uploadId, place)

instance (system : System) (number : Nat) (uploadId : String) (place : SessionId) :
    Decidable (system.TakesUp number uploadId place) :=
  inferInstanceAs (Decidable (_ = _))

/-- A sweep began when certain sessions were tracked, and the first of them is the one that it has taken up
last. The identifier has led to that session since then if it did at that moment. -/
def SweptSince (start : System) (events : List Event) (number : Nat) (uploadId : String)
    (place : SessionId) (waiting : List (String × SessionId)) : Prop :=
  ∃ began taken, began <+: taken ∧ taken <+: events ∧ (start.run began).begun = number ∧
    (∀ binding ∈ (uploadId, place) :: waiting,
      (start.run began).place? binding.1 = some binding.2) ∧
    (start.run taken).TakesUp number uploadId place ∧
    ((start.run taken).place? uploadId = some place ↔
      (start.run events).place? uploadId = some place)

/-- Every sweep in progress has come by the session on which it works in this way. -/
def AllSwept (start : System) (events : List Event) : Prop :=
  ∀ number flight, (start.run events).flights number = some flight →
    ∀ uploadId place started waiting,
      flight.pending.duty? = some ⟨uploadId, place, some (started, waiting)⟩ →
        start.SweptSince events number uploadId place waiting

end System

/-! ### A session that is being cleaned up keeps its place -/

namespace System

variable {system : System} {event : Event} {number : Nat} {duty : Duty}

/-- As long as a call works on a session, an identifier keeps leading to it, or away from it. -/
theorem tracked_iff_next (order : system.InOrder) (takes : system.duty? number = some duty)
    (still : (system.next event).duty? number = some duty) (uploadId : String) :
    (system.next event).place? uploadId = some duty.session ↔
      system.place? uploadId = some duty.session := by
  obtain ⟨session, found, named, purging, abandoned⟩ := order.orderly.held number duty takes
  unfold place?
  have moves := system.move event
  generalize system.next event = after at moves still
  cases moves with
  | idles | ticks | serves => exact Iff.rfl
  | announces user announced =>
    dsimp only
    rcases system.coordinator.announce_cases user announced with same | ⟨equal, -, -, yields⟩
    · rw [same]
    · rw [equal, Coordinator.get?_tracked_track]
      split
      · next same =>
        change announced.uploadId = uploadId at same
        subst same
        have newer := Nat.ne_of_gt (Coordinator.lt_size_of_session? found)
        refine ⟨fun isNew => absurd (Option.some.inj isNew) newer, fun tracked => ?_⟩
        -- The mark would have kept the announcement from being accepted.
        have free := (yields _ _ (Coordinator.find_eq_ok.2 ⟨tracked, found⟩)).1
        rw [purging] at free
        cases free
      · exact Iff.rfl
  | begins opens part => exact part.tracked_iff fun _ none => by cases none
  | @resumes other flight books waits answered part =>
    by_cases same : number = other
    · subst same
      obtain ⟨call, pending, answer⟩ := flight
      have before : pending.duty? = some duty := (duty?_of_flies answered).symm.trans takes
      have later : waits.bind Pending.duty? = some duty := by
        rw [duty?_of_part rfl, Function.update_self] at still
        exact still
      cases part with
      | cancelContinues | sweepContinues => exact Iff.rfl
      | ends | records | mergeContinues | completes | readContinues => cases later
      | cancelEnds | sweepEnds => cases later
      | sweepTurns ended taken =>
        -- The queue is shorter afterwards, so this is another duty.
        cases before
        simp only [Option.bind_some, Pending.duty?, Option.some.injEq, Duty.mk.injEq,
          Prod.mk.injEq] at later
        have shorter := taken.suffix.length_le
        rw [later.2.2.2, List.length_cons] at shorter
        exact absurd shorter (Nat.not_succ_le_self _)
    · refine part.tracked_iff fun second alsoTakes sameSession => same ?_
      exact order.orderly.alone number other duty second takes
        ((duty?_of_flies answered).trans alsoTakes) sameSession.symm

/-! ### What a sweep takes up -/

variable {start : System} {events : List Event} {uploadId : String} {place : SessionId}
  {waiting : List (String × SessionId)}

theorem SweptSince.next (since : start.SweptSince events number uploadId place waiting)
    (same : (start.run (events ++ [event])).place? uploadId = some place ↔
      (start.run events).place? uploadId = some place) :
    start.SweptSince (events ++ [event]) number uploadId place waiting := by
  obtain ⟨began, taken, before, earlier, begins, candidates, takes, kept⟩ := since
  exact ⟨began, taken, before, earlier.trans (List.prefix_append _ _), begins, candidates, takes,
    kept.trans same.symm⟩

theorem takesUp_of_flies {call : Call} {started : Timestamp} {report : SweepReport}
    (flies : system.flights number =
      some ⟨call, .sweep started uploadId place (.listing uploadId) waiting report, none⟩) :
    system.TakesUp number uploadId place := by
  unfold TakesUp
  rw [flies]
  rfl

/-- A sweep that goes on with its session, whatever has happened, was on it before. -/
theorem AllSwept.goesOn (swept : start.AllSwept events) (order : (start.run events).InOrder)
    {before after : Flight} (flew : (start.run events).flights number = some before)
    (had : before.pending.duty? = some duty)
    (flies : (start.run (events ++ [event])).flights number = some after)
    (has : after.pending.duty? = some duty) {started : Timestamp}
    (round : duty.round = some (started, waiting)) :
    start.SweptSince (events ++ [event]) number duty.uploadId duty.session waiting := by
  have runs : start.run (events ++ [event]) = (start.run events).next event :=
    run_append start events [event]
  refine (swept number before flew duty.uploadId duty.session started waiting ?_).next ?_
  · rw [had, ← round]
  · have still := (duty?_of_flies flies).trans has
    rw [runs] at still ⊢
    exact tracked_iff_next order ((duty?_of_flies flew).trans had) still duty.uploadId

theorem AllSwept.next (swept : start.AllSwept events) (order : (start.run events).InOrder)
    (event : Event) : start.AllSwept (events ++ [event]) := by
  have runs : start.run (events ++ [event]) = (start.run events).next event :=
    run_append start events [event]
  -- What is shown of a call needs to know that it is in progress.
  suffices ∀ number flight, ((start.run events).next event).flights number = some flight →
      (start.run (events ++ [event])).flights number = some flight →
        ∀ uploadId place started waiting,
          flight.pending.duty? = some ⟨uploadId, place, some (started, waiting)⟩ →
            start.SweptSince (events ++ [event]) number uploadId place waiting from
    fun number flight flies => this number flight (runs ▸ flies) flies
  refine flights_next _ ?_ ?_ ?_ ?_
  · intro number flight flew _ flies uploadId place started waiting works
    exact swept.goesOn order flew works flies works rfl
  · intro call books pending opens part flies uploadId place started waiting works
    cases part with
    | storeBegins | mergeBegins | readBegins | cancelBegins => cases works
    | sweepBegins candidates taken =>
      cases works
      refine ⟨events, events ++ [event], List.prefix_append _ _, List.prefix_refl _, rfl,
        fun binding member => ?_, takesUp_of_flies flies, Iff.rfl⟩
      have abandoned := candidates.mem_iff.1 (taken.suffix.subset member)
      exact Table.get?_eq_some_iff.2 (List.mem_filter.1 abandoned).1
  · intro number fate call pending served flew flies uploadId place started waiting works
    exact swept.goesOn order flew works flies works rfl
  · intro number flight books pending flew part flies uploadId place started waiting works
    obtain ⟨call, held, answer⟩ := flight
    cases part with
    | mergeContinues | readContinues | cancelContinues => cases works
    | sweepContinues further => exact swept.goesOn order flew works flies works rfl
    | sweepTurns ended taken =>
      cases works
      obtain ⟨began, lastTaken, before, earlier, opens, candidates, -, -⟩ :=
        swept number _ flew _ _ _ _ rfl
      refine ⟨began, events ++ [event], (before.trans earlier).trans (List.prefix_append _ _),
        List.prefix_refl _, opens, fun binding member => ?_, takesUp_of_flies flies, Iff.rfl⟩
      exact candidates binding (List.mem_cons_of_mem _ (taken.suffix.subset member))

theorem allSwept_of_forward {config : UploadConfig} {store : Blob.Memory} {clock : Timestamp}
    (forward : (initial config store clock).Obeys Forward events) :
    (initial config store clock).AllSwept events := by
  induction events using List.reverseRecOn with
  | nil =>
    intro number flight flies
    cases flies
  | append_singleton events event inductionHypothesis =>
    have forwardBefore := (obeys_append.1 forward).1
    have order := (InOrder.initial config store clock).run forwardBefore
    exact (inductionHypothesis forwardBefore).next order event

/-- A sweep that works on a session is in the course of removing its blobs. -/
theorem duty_of_isSweeping {flight : Flight} (sweeping : system.isSweeping number)
    (flies : system.flights number = some flight) :
    ∃ uploadId place started waiting,
      flight.pending.duty? = some ⟨uploadId, place, some (started, waiting)⟩ ∧
        system.handle? number = some (uploadId, place) := by
  unfold isSweeping at sweeping
  obtain ⟨call, pending, answer⟩ := flight
  rw [flies] at sweeping
  cases pending with
  | store | merge | cancel | read => cases sweeping
  | sweep started uploadId place cleanup waiting report =>
    exact ⟨uploadId, place, started, waiting, rfl, by rw [handle?, flies]; rfl⟩

/-- A chunk that a sweep removes goes because of a session of its identifier. -/
theorem unprotected_of_gone {index : Nat} {fate : Fate} {current : SessionId}
    (order : (start.run events).InOrder) (tidy : (start.run events).Tidy)
    (swept : start.AllSwept events) (leads : (start.run events).place? uploadId = some current)
    (sweeping : (start.run events).isSweeping number)
    (there : (start.run events).chunk? uploadId index ≠ none)
    (gone : (start.run (events ++ [.serve number fate])).chunk? uploadId index = none) :
    ∃ place began taken, began <+: taken ∧ taken <+: events ∧
      (start.run events).handle? number = some (uploadId, place) ∧
      (start.run began).begun = number ∧ (start.run began).place? uploadId = some place ∧
      (start.run taken).TakesUp number uploadId place ∧
      ((start.run taken).place? uploadId = some place ↔ current = place) ∧
      ((start.run taken).place? uploadId = some place → ¬ (start.run events).Protects uploadId) := by
  rw [run_append] at gone
  rcases tidy.chunk?_next (tidy.tracked _ _ leads).1 index (.serve number fate) with
    same | ⟨_, _, served, ⟨data, -, written⟩ | ⟨⟨flight, duty, flies, takes, named⟩, -⟩⟩
  · exact absurd (same.symm.trans gone) there
  · cases written.symm.trans gone
  · cases served
    obtain ⟨identifier, place, started, waiting, works, holds⟩ := duty_of_isSweeping sweeping flies
    cases takes.symm.trans works
    cases named
    obtain ⟨began, taken, before, earlier, begins, candidates, takesUp, kept⟩ :=
      swept number flight flies _ _ _ _ works
    rw [leads, Option.some.injEq] at kept
    refine ⟨place, began, taken, before, earlier, holds, begins,
      candidates _ List.mem_cons_self, takesUp, kept, fun tracked => ?_⟩
    rintro ⟨other, leadsOther, session, found, protected_⟩
    cases leads.symm.trans leadsOther
    cases kept.1 tracked
    obtain ⟨same, foundSame, -, -, abandoned⟩ :=
      order.orderly.held number _ ((duty?_of_flies flies).trans works)
    cases found.symm.trans foundSame
    have dead := Session.isAbandoned_iff.1 abandoned
    exact protected_.elim dead.1 dead.2

/-! ### A sweep that nothing disturbs -/

/-- After some rounds in which nothing becomes of the books, the call with a number removes a chunk. -/
def Removes (system : System) (number : Nat) (uploadId : String) (index : Nat) : Prop :=
  ∃ count store flights, system.run (rounds number count) = { system with store, flights } ∧
    (system.run (rounds number count)).chunk? uploadId index ≠ none ∧
    ((system.run (rounds number count)).next (.serve number .answered)).chunk? uploadId index = none

variable {index : Nat} {call : Call} {pending : Pending} {store : Blob.Memory}

theorem Removes.of_round {answer : Outcome pending.request.Answer} {next : Pending}
    (waits : system.flights number = some ⟨call, pending, none⟩)
    (met : system.store.answer pending.request = (store, answer))
    (further : system.coordinator.resume system.clock pending answer =
      (system.coordinator, .waiting next))
    (later : ∀ flights, flights number = some ⟨call, next, none⟩ →
      { system with store, flights }.Removes number uploadId index) :
    system.Removes number uploadId index := by
  obtain ⟨flights, round⟩ := step_round waits met
  rw [further] at round
  have begins : (system.next (.serve number .answered)).next (.resume number) = { system with
      store
      flights := Function.update flights number (some ⟨call, next, none⟩) } :=
    congrArg Prod.fst round
  obtain ⟨count, finalStore, finalFlights, runs, there, gone⟩ := later _ (Function.update_self ..)
  have goesOn : system.run (rounds number (count + 1)) = _ :=
    congrArg (run · (rounds number count)) begins
  rw [← goesOn] at runs there gone
  exact ⟨count + 1, finalStore, finalFlights, runs, there, gone⟩

theorem get?_answer_remove (valid : isValidId uploadId) (store : Blob.Memory) :
    (store.answer (.remove (chunkPath uploadId index))).1.blobs.get? (chunkPath uploadId index) =
      none := by
  dsimp only [Blob.Memory.answer]
  rw [canonical_chunkPath valid]
  exact (Table.get?_erase ..).trans (if_pos rfl)

theorem chunkPath_mem_list {store : Blob.Memory}
    (there : store.blobs.get? (chunkPath uploadId index) ≠ none) :
    chunkPath uploadId index ∈ store.list (storagePath uploadId) := by
  obtain ⟨data, bound⟩ := Option.ne_none_iff_exists'.1 there
  exact List.mem_mergeSort.2
    (List.mem_filter.2 ⟨Table.mem_keys.2 ⟨data, bound⟩, isDirectlyUnder_chunkPath uploadId index⟩)

theorem Removes.of_gone (there : system.chunk? uploadId index ≠ none)
    (waits : system.flights number = some ⟨call, pending, none⟩)
    (gone : (system.store.answer pending.request).1.blobs.get? (chunkPath uploadId index) = none) :
    system.Removes number uploadId index := by
  refine ⟨0, system.store, system.flights, rfl, there, ?_⟩
  change (system.next (.serve number .answered)).chunk? uploadId index = none
  rw [next_serve waits]
  exact gone

theorem removes_of_mem {started : Timestamp} {path : String} {rest : List String} {removed : Nat}
    {failure : Option ServiceError} {report : SweepReport} (valid : isValidId uploadId)
    (there : system.chunk? uploadId index ≠ none)
    (member : chunkPath uploadId index ∈ path :: rest)
    (waits : system.flights number = some ⟨call,
      .sweep started uploadId place (.removing path rest removed failure) waiting report, none⟩) :
    system.Removes number uploadId index := by
  induction rest generalizing system path removed failure with
  | nil =>
    cases List.mem_singleton.1 member
    exact .of_gone there waits (get?_answer_remove valid system.store)
  | cons following others inductionHypothesis =>
    by_cases gone : (system.store.answer (.remove path)).1.blobs.get? (chunkPath uploadId index) = none
    · exact .of_gone there waits gone
    · have later : chunkPath uploadId index ∈ following :: others := by
        refine (List.mem_cons.1 member).resolve_left ?_
        rintro rfl
        exact gone (get?_answer_remove valid system.store)
      rcases met : system.store.answer (.remove path) with ⟨store, answer⟩
      rw [met] at gone
      cases answer with
      | ok done =>
        exact .of_round waits met rfl fun flights flies => inductionHypothesis gone later flies
      | error failure =>
        exact .of_round waits met rfl fun flights flies => inductionHypothesis gone later flies

theorem Tidy.listing_of_takesUp (tidy : system.Tidy)
    (takes : system.TakesUp number uploadId place) :
    ∃ call started waiting report, system.flights number =
      some ⟨call, .sweep started uploadId place (.listing uploadId) waiting report, none⟩ := by
  obtain ⟨flight, flies, taken⟩ := Option.bind_eq_some_iff.1 takes
  have stays := tidy.stays number flight flies
  unfold Flight.takenUp? at taken
  split at taken
  · cases taken
    obtain ⟨rfl, -⟩ := stays
    exact ⟨_, _, _, _, flies⟩
  · cases taken

/-- Once a sweep has taken up a session, every chunk of its identifier goes, whatever session that leads to. -/
theorem removes_of_takesUp (tidy : system.Tidy) (takes : system.TakesUp number uploadId place)
    (there : system.chunk? uploadId index ≠ none) : system.Removes number uploadId index := by
  obtain ⟨call, started, waiting, report, waits⟩ := tidy.listing_of_takesUp takes
  have valid := tidy.valid number _ waits uploadId List.mem_cons_self
  have member := chunkPath_mem_list there
  have lists : system.store.answer (.list (storagePath uploadId)) =
      (system.store, .ok (system.store.list (storagePath uploadId))) := by
    dsimp only [Blob.Memory.answer]
    rw [canonical_storagePath valid]
    rfl
  cases paths : system.store.list (storagePath uploadId) with
  | nil =>
    rw [paths] at member
    cases member
  | cons path rest =>
    rw [paths] at member lists
    exact .of_round waits lists rfl fun flights flies => removes_of_mem valid there member flies

/-- A sweep removes chunks of an identifier because of one session. The identifier led to that session when
the sweep began. If it still did when the sweep took up that session, it does now, and then it leads neither to
a live session nor to a completed one. And it takes no less: once the sweep has taken up a session, every chunk
of its identifier goes if nothing disturbs the sweep, and the session to which the identifier leads is then live
or completed if it was so before. -/
theorem swept_chunk_unprotected {config : UploadConfig} {store : Blob.Memory} {clock : Timestamp}
    (forward : (initial config store clock).Obeys Forward events) :
    let start := initial config store clock
    (∀ uploadId index number fate current, (start.run events).place? uploadId = some current →
      (start.run events).isSweeping number → (start.run events).chunk? uploadId index ≠ none →
      (start.run (events ++ [.serve number fate])).chunk? uploadId index = none →
      ∃ place began taken, began <+: taken ∧ taken <+: events ∧
        (start.run events).handle? number = some (uploadId, place) ∧
        (start.run began).begun = number ∧ (start.run began).place? uploadId = some place ∧
        (start.run taken).TakesUp number uploadId place ∧
        ((start.run taken).place? uploadId = some place ↔ current = place) ∧
        ((start.run taken).place? uploadId = some place → ¬ (start.run events).Protects uploadId)) ∧
    ∀ uploadId index number place, (start.run events).TakesUp number uploadId place →
      (start.run events).chunk? uploadId index ≠ none →
      ∃ count, let removing := (start.run events).run (rounds number count)
        removing.chunk? uploadId index ≠ none ∧
        (removing.next (.serve number .answered)).chunk? uploadId index = none ∧
        (removing.Protects uploadId ↔ (start.run events).Protects uploadId) := by
  intro start
  have order := (InOrder.initial config store clock).run forward
  have tidy := (Tidy.initial config store clock).run events
  have swept := allSwept_of_forward forward
  refine ⟨fun uploadId index number fate current leads sweeping there gone => ?_,
    fun uploadId index number place takes there => ?_⟩
  · exact unprotected_of_gone order tidy swept leads sweeping there gone
  · obtain ⟨count, finalStore, flights, runs, stays, gone⟩ := removes_of_takesUp tidy takes there
    refine ⟨count, stays, gone, ?_⟩
    rw [runs]
    exact Iff.rfl

/-- A session expires with a chunk and is swept, while another user announces and fills another upload. In a
second run two sessions expire, and the one that is swept last gives way to a new one before its turn. -/
theorem swept_chunk_unprotected_expired :
    let start := initial { sessionTtl := ⟨1000⟩ } {} ⟨0⟩
    let events : List Event :=
      [.announce 1 ⟨"a", "f", 1, 1⟩, .begin (.store "a" 0 "x".toUTF8), .serve 0 .answered, .resume 0,
        .tick ⟨1000⟩, .sweep [("a", 0)], .announce 2 ⟨"b", "f", 1, 1⟩,
        .begin (.store "b" 0 "y".toUTF8), .serve 2 .answered, .serve 1 .answered, .resume 1]
    let others : List Event :=
      [.announce 1 ⟨"a", "f", 1, 1⟩, .announce 1 ⟨"b", "f", 1, 1⟩, .tick ⟨1000⟩,
        .sweep [("a", 0), ("b", 1)], .announce 2 ⟨"b", "f", 1, 1⟩,
        .begin (.store "b" 0 "x".toUTF8), .serve 1 .answered, .resume 1, .serve 0 .answered,
        .resume 0]
    start.Obeys Forward events ∧ (start.run events).isSweeping 1 ∧
      (start.run events).place? "a" = some 0 ∧
      (start.run events).chunk? "a" 0 ≠ none ∧
      (start.run (events ++ [.serve 1 .answered])).chunk? "a" 0 = none ∧
      ¬ (start.run events).Protects "a" ∧
      ∃ count, let removing := (start.run others).run (rounds 0 count)
        removing.chunk? "b" 0 ≠ none ∧
        (removing.next (.serve 0 .answered)).chunk? "b" 0 = none ∧ removing.Protects "b" := by
  intro start events others
  have forward : start.Obeys Forward events := by decide +kernel
  have sweeping : (start.run events).isSweeping 1 := by decide +kernel
  have leads : (start.run events).place? "a" = some 0 := by decide +kernel
  have there : (start.run events).chunk? "a" 0 ≠ none := by decide +kernel
  have gone : (start.run (events ++ [.serve 1 .answered])).chunk? "a" 0 = none := by
    decide +kernel
  have holding : (start.run events).handle? 1 = some ("a", 0) := by decide +kernel
  obtain ⟨place, began, taken, -, -, holds, -, -, -, kept, unprotected⟩ :=
    (swept_chunk_unprotected forward).1 "a" 0 1 _ _ leads sweeping there gone
  cases holding.symm.trans holds
  have alsoForward : start.Obeys Forward others := by decide +kernel
  have takes : (start.run others).TakesUp 0 "b" 1 := by decide +kernel
  have alsoThere : (start.run others).chunk? "b" 0 ≠ none := by decide +kernel
  have protects : (start.run others).Protects "b" := by decide +kernel
  obtain ⟨count, stays, goes, same⟩ :=
    (swept_chunk_unprotected alsoForward).2 "b" 0 0 1 takes alsoThere
  exact ⟨forward, sweeping, leads, there, gone, unprotected (kept.2 rfl), count, stays, goes,
    same.2 protects⟩

/-- Two sessions expire and a sweep begins. While it is busy with the first, the second gives way to a new
session of another user, whose chunk the sweep then removes. -/
theorem swept_chunk_protected :
    let start := initial { sessionTtl := ⟨1000⟩ } {} ⟨0⟩
    let events : List Event :=
      [.announce 1 ⟨"a", "f", 1, 1⟩, .announce 1 ⟨"b", "f", 1, 1⟩, .tick ⟨1000⟩,
        .sweep [("a", 0), ("b", 1)], .announce 2 ⟨"b", "f", 1, 1⟩,
        .begin (.store "b" 0 "x".toUTF8), .serve 1 .answered, .resume 1, .serve 0 .answered,
        .resume 0, .serve 0 .answered, .resume 0]
    start.Obeys Forward events ∧ (start.run events).isSweeping 0 ∧
      (start.run events).Protects "b" ∧ (start.run events).chunk? "b" 0 = some "x".toUTF8 ∧
      (start.run (events ++ [.serve 0 .answered])).Protects "b" ∧
      (start.run (events ++ [.serve 0 .answered])).chunk? "b" 0 = none := by
  decide +kernel

end System

end Community.Upload
