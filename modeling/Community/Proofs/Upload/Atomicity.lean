/-
This file proves that what fails has changed nothing. An announcement that is refused and a report on an unknown
upload leave the books alone at once. A call that needs the store may take many parts; what carries the proof is
that it comes to a point from which on it cannot fail any more, and that up to this point it has only looked: it
is reached when the chunk of a pending session is written, when a session is cancelled, when a sweep begins. So
a call that does fail has not reached it, if the store does what it acknowledges and nothing else.
-/

import Community.Proofs.Upload.Part

namespace Community.Upload

open Community.Blob

/-! ### Before and after the point of no return -/

/-- A call in progress has only looked so far; if it has a chunk to write, the session is pending. -/
def Flight.Looks (books : Coordinator) : Flight → Prop
  | ⟨_, .store _ place _ _, answer⟩ =>
    answer ≠ some (.ok ()) ∧ ∃ session, books.session? place = some session ∧ session.status = .pending
  | ⟨_, .merge .., _⟩ => True
  | ⟨_, .read .., _⟩ => True
  | ⟨_, .cancel .., _⟩ => False
  | ⟨_, .sweep .., _⟩ => False

/-- A call in progress cannot fail any more: its chunk is written and the session is pending, or it has blobs to
remove. -/
def Flight.Commits (books : Coordinator) : Flight → Prop
  | ⟨_, .store _ place _ _, answer⟩ =>
    answer = some (.ok ()) ∧ ∃ session, books.session? place = some session ∧ session.status = .pending
  | ⟨_, .merge .., _⟩ => False
  | ⟨_, .read .., _⟩ => False
  | ⟨_, .cancel .., _⟩ => True
  | ⟨_, .sweep .., _⟩ => True

/-- A part of a call after which the call has succeeded or is bound to. -/
inductive Succeeds (call : Call) : Coordinator × Progress → Prop
  | commits {books : Coordinator} {pending : Pending} (commits : Flight.Commits books { call, pending }) :
      Succeeds call (books, .waiting pending)
  | returns (books : Coordinator) (reply : Reply) : Succeeds call (books, .done (.ok reply))

/-- A part of a call that starts from certain books: it looks, or it fails, and the books stay; or it succeeds. -/
inductive Fares (books : Coordinator) (call : Call) : Coordinator × Progress → Prop
  | looks {pending : Pending} (looks : Flight.Looks books { call, pending }) :
      Fares books call (books, .waiting pending)
  | fails (error : ServiceError) : Fares books call (books, .done (.error error))
  | succeeds {part : Coordinator × Progress} (succeeds : Succeeds call part) : Fares books call part

section Parts

variable {books : Coordinator} {now : Timestamp} {call : Call}

theorem succeeds_nextSweep (started : Timestamp) (report : SweepReport) (queue : List (String × SessionId)) :
    Succeeds call (Coordinator.nextSweep started report queue books) := by
  rcases @Coordinator.nextSweep_cases books started report queue with equal | ⟨_, _, _, -, equal⟩
  · exact equal ▸ .returns books _
  · exact equal ▸ .commits trivial

theorem fares_beginStore (uploadId : String) (index : Nat) (data : ByteArray) :
    Fares books call (books.beginStore now uploadId index data) := by
  unfold Coordinator.beginStore
  split
  · exact .fails _
  · next number session found =>
    split
    · exact .fails _
    · next accepts =>
      split
      · exact .fails _
      · exact .looks ⟨nofun, session, (Coordinator.find_eq_ok.1 found).2,
          (Session.isLive_iff.1 (Session.refusal?_eq_none.1 accepts).2).1⟩

theorem fares_beginMerge (uploadId : String) : Fares books call (books.beginMerge now uploadId) := by
  unfold Coordinator.beginMerge
  split
  · exact .fails _
  · split
    · exact .succeeds (.returns books _)
    · split
      · exact .fails _
      · exact .looks trivial

theorem fares_beginCancel (uploadId : String) (user : UInt64) :
    Fares books call (books.beginCancel now uploadId user) := by
  unfold Coordinator.beginCancel
  split
  · exact .fails _
  · split
    · exact .fails _
    · split
      · exact .fails _
      · exact .succeeds (.returns books _)
      · split
        · exact .fails _
        · exact .succeeds (.commits trivial)

theorem fares_beginRead (uploadId : String) : Fares books call (books.beginRead uploadId) := by
  unfold Coordinator.beginRead
  split
  · exact .fails _
  · split
    · split
      · exact .succeeds (.returns books _)
      · exact .looks trivial
    · exact .fails _

/-- The part of a call before its first request. -/
theorem fares_begin (now : Timestamp) (call : Call) : Fares books call (books.begin now call) := by
  cases call with
  | store uploadId index data => exact fares_beginStore uploadId index data
  | merge uploadId => exact fares_beginMerge uploadId
  | cancel uploadId user => exact fares_beginCancel uploadId user
  | read uploadId => exact fares_beginRead uploadId
  | sweep => exact .succeeds (succeeds_nextSweep ..)

theorem fares_finishMerge (uploadId : String) (number : SessionId) (missing : List Nat) :
    Fares books call (books.finishMerge now uploadId number missing) := by
  unfold Coordinator.finishMerge
  split
  · exact .fails _
  · split
    · exact .fails _
    · split
      · exact .succeeds (.returns books _)
      · split
        · exact .fails _
        · exact .succeeds (.returns _ _)

theorem fares_continueMerge (uploadId : String) (number : SessionId) (total index : Nat) (missing : List Nat)
    (found : Outcome Bool) :
    Fares books call (books.continueMerge now uploadId number total index missing found) := by
  rw [Coordinator.continueMerge_eq]
  dsimp only
  split
  · exact .looks trivial
  · exact fares_finishMerge ..

/-- The next part of a call that has only looked. -/
theorem fares_resume {pending : Pending} {answer : Outcome pending.request.Answer}
    (looks : Flight.Looks books ⟨call, pending, some answer⟩) :
    Fares books call (books.resume now pending answer) := by
  cases pending with
  | cancel | sweep => exact looks.elim
  | store uploadId place index data =>
    cases answer with
    | error error => exact .fails error
    | ok written => exact absurd rfl looks.1
  | merge uploadId place total index missing =>
    exact fares_continueMerge uploadId place total index missing answer
  | read uploadId total index assembled =>
    cases answer with
    | error error => exact .fails error
    | ok data =>
      show Fares books call (if _ then _ else _)
      split
      · exact .looks trivial
      · exact .succeeds (.returns books _)

/-- The next part of a call that cannot fail any more. -/
theorem succeeds_resume {pending : Pending} {answer : Outcome pending.request.Answer}
    (commits : Flight.Commits books ⟨call, pending, some answer⟩) :
    Succeeds call (books.resume now pending answer) := by
  cases pending with
  | merge | read => exact commits.elim
  | store uploadId place index data =>
    obtain ⟨written, session, found, isPending⟩ := commits
    cases written
    show Succeeds call (books.finishStore now uploadId place index (.ok ()))
    unfold Coordinator.finishStore
    dsimp only
    rw [found]
    dsimp only
    rw [if_pos isPending]
    exact .returns _ _
  | cancel uploadId place cleanup =>
    show Succeeds call (books.continueCancel uploadId place (cleanup.resume answer))
    cases cleanup.resume answer with
    | inl rest => exact .commits trivial
    | inr result => exact .returns _ _
  | sweep started uploadId place cleanup waiting report =>
    show Succeeds call (books.continueSweep started uploadId place waiting report (cleanup.resume answer))
    cases cleanup.resume answer with
    | inl rest => exact .commits trivial
    | inr result =>
      cases result with
      | ok removed => exact succeeds_nextSweep ..
      | error error => exact succeeds_nextSweep ..

end Parts

/-! ### A call that nothing disturbs -/

/-- Does the event carry out a request of which the call is told that it has failed? -/
def Event.isLost : Event → Bool
  | serve _ (.lost _) => true
  | _ => false

/-- What the store does for a call that has only looked leaves it as it is, or the call cannot fail any more. -/
theorem Flight.Looks.serve {books : Coordinator} {call : Call} {pending : Pending} {fate : Fate}
    (looks : Flight.Looks books ⟨call, pending, none⟩) (store : Memory) (honest : ∀ error, fate ≠ .lost error) :
    ((fate.meet store pending.request).1 = store ∧
        Flight.Looks books ⟨call, pending, some (fate.meet store pending.request).2⟩) ∨
      Flight.Commits books ⟨call, pending, some (fate.meet store pending.request).2⟩ := by
  cases fate with
  | lost error => exact absurd rfl (honest error)
  | refused error =>
    cases pending with
    | cancel | sweep => exact looks.elim
    | merge | read => exact Or.inl ⟨rfl, trivial⟩
    | store => exact Or.inl ⟨rfl, nofun, looks.2⟩
  | answered =>
    cases pending with
    | cancel | sweep => exact looks.elim
    | merge | read => exact Or.inl ⟨rfl, trivial⟩
    | store uploadId place index data =>
      dsimp only [Pending.request, Fate.meet, Memory.answer]
      cases canonical (chunkPath uploadId index) with
      | error error => exact Or.inl ⟨rfl, nofun, looks.2⟩
      | ok path => exact Or.inr ⟨rfl, looks.2⟩

/-- Whatever the store does, a call that cannot fail any more stays so. -/
theorem Flight.Commits.serve {books : Coordinator} {call : Call} {pending : Pending}
    (commits : Flight.Commits books ⟨call, pending, none⟩) (answer : Outcome pending.request.Answer) :
    Flight.Commits books ⟨call, pending, some answer⟩ := by
  cases pending with
  | merge | read => exact commits.elim
  | store => cases commits.1
  | cancel | sweep => trivial

namespace System

variable {system : System} {books : Coordinator} {store : Memory} {number other : Nat} {call made : Call}
  {event : Event} {error : ServiceError}

/-- Where a call stands that began with certain books and a certain store, if nothing disturbs it: it has only
looked, it cannot fail any more, or it is over. -/
inductive Stage (books : Coordinator) (store : Memory) (number : Nat) (system : System) : Prop
  | looks {flight : Flight} (flies : system.flights number = some flight) (sameBooks : system.coordinator = books)
      (sameStore : system.store = store) (looks : flight.Looks books)
  | commits {flight : Flight} (flies : system.flights number = some flight)
      (commits : flight.Commits system.coordinator)
  | ended (idle : system.flights number = none)

/-- The call is over, and the books and the store are certain ones. -/
structure Unspoilt (books : Coordinator) (store : Memory) (number : Nat) (system : System) : Prop where
  idle : system.flights number = none
  books : system.coordinator = books
  store : system.store = store

/-- An event brings the call to one of the stages, and if the call fails by it, nothing has changed. -/
structure Arrives (books : Coordinator) (store : Memory) (number : Nat) (moved : System × Option Notice) :
    Prop where
  stage : Stage books store number moved.1
  fails : ∀ other made error, moved.2 = some (.returned other made (.error error)) →
    Unspoilt books store number moved.1

theorem cases_of_alone (alone : event.isOnlyOf number) :
    (∃ now, event = .tick now) ∨ (∃ fate, event = .serve number fate) ∨ event = .resume number := by
  cases event with
  | announce | begin | sweep => cases alone
  | tick now => exact Or.inl ⟨now, rfl⟩
  | serve turn fate =>
    obtain rfl := of_decide_eq_true alone
    exact Or.inr (Or.inl ⟨fate, rfl⟩)
  | resume turn =>
    obtain rfl := of_decide_eq_true alone
    exact Or.inr (Or.inr rfl)

/-- When the call is over, nothing happens to the books and the store. -/
theorem step_of_idle (idle : system.flights number = none) (alone : event.isOnlyOf number) :
    ∃ clock, system.step event = ({ system with clock }, none) := by
  rcases cases_of_alone alone with ⟨now, rfl⟩ | ⟨fate, rfl⟩ | rfl
  · exact ⟨now, rfl⟩
  all_goals
    refine ⟨system.clock, ?_⟩
    unfold step
    simp only [idle]

theorem Unspoilt.run (unspoilt : Unspoilt books store number system) {rest : List Event}
    (alone : ∀ event ∈ rest, event.isOnlyOf number) : Unspoilt books store number (system.run rest) := by
  induction rest generalizing system with
  | nil => exact unspoilt
  | cons event rest inductionHypothesis =>
    obtain ⟨first, later⟩ := List.forall_mem_cons.1 alone
    obtain ⟨clock, same⟩ := step_of_idle unspoilt.idle first
    refine inductionHypothesis ?_ later
    rw [next, same]
    exact ⟨unspoilt.idle, unspoilt.books, unspoilt.store⟩

theorem Arrives.of_succeeds (system : System) (number : Nat) {part : Coordinator × Progress}
    (succeeds : Succeeds call part) : Arrives books store number (system.settle number call part) := by
  cases succeeds with
  | commits commits => exact ⟨.commits (Function.update_self ..) commits, nofun⟩
  | returns after reply => exact ⟨.ended (Function.update_self ..), nofun⟩

theorem Arrives.of_fares (system : System) (number : Nat) {part : Coordinator × Progress}
    (fares : Fares system.coordinator call part) :
    Arrives system.coordinator system.store number (system.settle number call part) := by
  cases fares with
  | looks looks => exact ⟨.looks (Function.update_self ..) rfl rfl looks, nofun⟩
  | fails error => exact ⟨.ended (Function.update_self ..), fun _ _ _ _ => ⟨Function.update_self .., rfl, rfl⟩⟩
  | succeeds succeeds => exact .of_succeeds system number succeeds

/-- A call that has only looked goes on. -/
theorem arrives_of_looks {flight : Flight} (flies : system.flights number = some flight)
    (looks : flight.Looks system.coordinator) (alone : event.isOnlyOf number) (honest : event.isLost = false) :
    Arrives system.coordinator system.store number (system.step event) := by
  have stage : Stage system.coordinator system.store number system := .looks flies rfl rfl looks
  obtain ⟨call, pending, answer⟩ := flight
  rcases cases_of_alone alone with ⟨now, rfl⟩ | ⟨fate, rfl⟩ | rfl
  · exact ⟨.looks flies rfl rfl looks, nofun⟩
  · cases answer with
    | some answer => exact step_serve_of_answered flies fate ▸ ⟨stage, nofun⟩
    | none =>
      have notLost : ∀ error, fate ≠ .lost error := by
        rintro error rfl
        cases honest
      rw [step_serve flies]
      refine ⟨?_, nofun⟩
      rcases looks.serve system.store notLost with ⟨same, looks⟩ | commits
      · exact .looks (Function.update_self ..) rfl same looks
      · exact .commits (Function.update_self ..) commits
  · cases answer with
    | none => exact step_resume_of_waiting flies ▸ ⟨stage, nofun⟩
    | some answer =>
      rw [step_resume flies]
      exact .of_fares system number (fares_resume looks)

/-- A call that cannot fail any more goes on, and does not fail. -/
theorem arrives_of_commits {flight : Flight} (flies : system.flights number = some flight)
    (commits : flight.Commits system.coordinator) (alone : event.isOnlyOf number) :
    Arrives books store number (system.step event) := by
  have stage : Stage books store number system := .commits flies commits
  obtain ⟨call, pending, answer⟩ := flight
  rcases cases_of_alone alone with ⟨now, rfl⟩ | ⟨fate, rfl⟩ | rfl
  · exact ⟨.commits flies commits, nofun⟩
  · cases answer with
    | some answer => exact step_serve_of_answered flies fate ▸ ⟨stage, nofun⟩
    | none =>
      rw [step_serve flies]
      exact ⟨.commits (Function.update_self ..) (commits.serve _), nofun⟩
  · cases answer with
    | none => exact step_resume_of_waiting flies ▸ ⟨stage, nofun⟩
    | some answer =>
      rw [step_resume flies]
      exact .of_succeeds system number (succeeds_resume commits)

theorem Stage.step (stage : Stage books store number system) (alone : event.isOnlyOf number)
    (honest : event.isLost = false) : Arrives books store number (system.step event) := by
  cases stage with
  | ended idle =>
    obtain ⟨clock, same⟩ := step_of_idle idle alone
    exact same ▸ ⟨.ended idle, nofun⟩
  | looks flies sameBooks sameStore looks =>
    subst sameBooks sameStore
    exact arrives_of_looks flies looks alone honest
  | commits flies commits => exact arrives_of_commits flies commits alone

/-- If the call fails in the course of some events, nothing has changed after them. -/
theorem Stage.run (stage : Stage books store number system) {rest : List Event}
    (alone : ∀ event ∈ rest, event.isOnlyOf number ∧ event.isLost = false)
    (told : .returned other made (.error error) ∈ system.notices rest) :
    Unspoilt books store number (system.run rest) := by
  induction rest generalizing system with
  | nil => cases told
  | cons event rest inductionHypothesis =>
    obtain ⟨⟨first, honest⟩, later⟩ := List.forall_mem_cons.1 alone
    have arrives := stage.step first honest
    rcases List.mem_append.1 told with here | after
    · exact (arrives.fails other made error (Option.mem_toList.1 here)).run fun event member =>
        (later event member).1
    · exact inductionHypothesis arrives.stage later after

/-! ### Failures -/

/-- Something is asked that fails, and nothing else happens until it is over: an identifier is announced, a report
is asked for, or a call is made, of which the store carries out what it acknowledges and nothing else. -/
inductive Fails (system : System) (error : ServiceError) : System → Prop
  | announcement {user : UInt64} {announced : Announcement}
      (told : (system.step (.announce user announced)).2 = some (.announced user announced (.error error))) :
      Fails system error (system.next (.announce user announced))
  | report {uploadId : String} (told : system.coordinator.report uploadId = .error error) :
      Fails system error system
  | call {call : Call} {rest : List Event}
      (alone : ∀ event ∈ rest, event.isOnlyOf system.begun ∧ event.isLost = false)
      (told : .returned system.begun call (.error error) ∈ system.notices (.begin call :: rest)) :
      Fails system error (system.run (.begin call :: rest))

/-- Whatever fails, for whatever reason, while other calls may be in progress: every session with all of its
entries, the identifiers that are tracked and the blobs are as they were before. -/
theorem failure_changes_nothing {after : System} (fails : system.Fails error after) :
    after.coordinator = system.coordinator ∧ after.store = system.store := by
  cases fails with
  | report told => exact ⟨rfl, rfl⟩
  | @announcement user announced told =>
    rcases system.coordinator.announce_cases user announced with same | ⟨equal, -⟩
    · exact ⟨same, rfl⟩
    · unfold step at told
      dsimp only at told
      rw [equal] at told
      cases told
  | @call call rest alone told =>
    have arrives := Arrives.of_fares { system with begun := system.begun + 1 } system.begun
      (fares_begin system.clock call)
    have unspoilt : Unspoilt system.coordinator system.store system.begun
        (system.run (.begin call :: rest)) := by
      rcases List.mem_append.1 told with first | later
      · exact (arrives.fails _ _ _ (Option.mem_toList.1 first)).run fun event member => (alone event member).1
      · exact arrives.stage.run alone later
    exact ⟨unspoilt.books, unspoilt.store⟩

/-- An upload has one of its two chunks. The store refuses the other one, a completion misses it, and another user
announces the identifier. -/
theorem failure_changes_nothing_of_incomplete :
    let events : List Event :=
      [.announce 1 ⟨"u", "f", 2, 2⟩, .begin (.store "u" 0 "a".toUTF8), .serve 0 .answered, .resume 0]
    let system := (initial {} {} ⟨0⟩).run events
    let storing : List Event := [.tick ⟨1⟩, .serve 1 (.refused (.storage "full")), .tick ⟨2⟩, .resume 1]
    let merging : List Event := [.serve 1 .answered, .resume 1, .serve 1 .answered, .resume 1]
    let stored := system.run (.begin (.store "u" 1 "b".toUTF8) :: storing)
    let merged := system.run (.begin (.merge "u") :: merging)
    let announced := system.next (.announce 2 ⟨"u", "g", 1, 1⟩)
    system.Fails (.storage "full") stored ∧ system.Fails (.incompleteUpload "u" [1]) merged ∧
      system.Fails (Refusal.notOwner "u") announced ∧
      [stored, merged, announced].map (·.coordinator) = List.replicate 3 system.coordinator ∧
      [stored, merged, announced].map (·.store) = List.replicate 3 system.store := by
  intro events system storing merging stored merged announced
  have storeFails : system.Fails (.storage "full") stored := .call (by decide +kernel) (by decide +kernel)
  have mergeFails : system.Fails (.incompleteUpload "u" [1]) merged := .call (by decide +kernel) (by decide +kernel)
  have announcementFails : system.Fails (Refusal.notOwner "u") announced := .announcement (by decide +kernel)
  refine ⟨storeFails, mergeFails, announcementFails, ?_, ?_⟩
  · simp only [List.map_cons, List.map_nil, (failure_changes_nothing storeFails).1,
      (failure_changes_nothing mergeFails).1, (failure_changes_nothing announcementFails).1]
    rfl
  · simp only [List.map_cons, List.map_nil, (failure_changes_nothing storeFails).2,
      (failure_changes_nothing mergeFails).2, (failure_changes_nothing announcementFails).2]
    rfl

end System

end Community.Upload
