/-
This file proves what a sweep comes to when nothing comes between its parts, while the store may refuse to list
directories and to remove blobs. Each abandoned session is worked off on its own: the removal of its blobs touches
nothing outside its directory, so what the later sessions find is what was there at first. What carries the proof
is therefore one equation for the removal of paths and one for a session; the induction over the sessions only
puts them together. The result names the abandoned sessions as a set, and this is why their order does not matter.
-/

import Community.Proofs.Upload.Completion
import Community.Proofs.Upload.Exclusion

namespace Community.Upload

open Community.Blob

/-! ### Stores that fail -/

/-- What a store fails to do: which directories it does not list and which blobs it does not remove, each with
the failure that the caller hears of. -/
structure Faults where
  listing : String → Option ServiceError := fun _ => none
  removal : String → Option ServiceError := fun _ => none

namespace Faults

/-- What becomes of a request. A removal that fails leaves its blob. -/
def fate (faults : Faults) : Request → Fate
  | .list directory => (faults.listing directory).elim .answered .refused
  | .remove path => (faults.removal path).elim .answered .refused
  | _ => .answered

/-- Can the blobs of an upload be listed and each of them be removed? -/
def clears (faults : Faults) (store : Memory) (uploadId : String) : Bool :=
  (faults.listing (storagePath uploadId)).isNone &&
    (store.list (storagePath uploadId)).all fun path => (faults.removal path).isNone

/-- Can the path be removed, and does it lie in the directory of one of the uploads that can be listed? -/
def frees (faults : Faults) (queue : List (String × SessionId)) (path : String) : Bool :=
  (faults.removal path).isNone && queue.any fun binding =>
    (faults.listing (storagePath binding.1)).isNone && Memory.isDirectlyUnder (storagePath binding.1) path

/-- What comes of the removal of paths when some have been removed before, or one could not. -/
def outcome (faults : Faults) (removed : Nat) (failure : Option ServiceError) (paths : List String) :
    Outcome Nat :=
  match failure.or (paths.findSome? faults.removal) with
  | some error => .error error
  | none => .ok (removed + paths.length)

/-- What comes of the removal of an upload's blobs. -/
def cleanup (faults : Faults) (store : Memory) (uploadId : String) : Outcome Nat :=
  match faults.listing (storagePath uploadId) with
  | some error => .error error
  | none => faults.outcome 0 none (store.list (storagePath uploadId))

/-- A report, with what a sweep of certain sessions adds to it. -/
def report (faults : Faults) (store : Memory) (sofar : SweepReport) (queue : List (String × SessionId)) :
    SweepReport where
  removedSessions := sofar.removedSessions + (queue.filter fun binding => faults.clears store binding.1).length
  removedBlobs := sofar.removedBlobs + ((queue.filter fun binding => faults.clears store binding.1).map
    fun binding => (store.list (storagePath binding.1)).length).sum
  failed := sofar.failed + (queue.filter fun binding => !faults.clears store binding.1).length

end Faults

namespace System

/-- A call asks the store for something, with the faults of the store and some time in between. -/
def asking (faults : Faults) (time : Request → Timestamp) (number : Nat) (request : Request) : List Event :=
  exchange number (faults.fate request) (time request)

/-- The removal of an upload's blobs from a store. -/
def clearing (store : Memory) (faults : Faults) (time : Request → Timestamp) (number : Nat)
    (uploadId : String) : List Event :=
  asking faults time number (.list (storagePath uploadId)) ++
    if (faults.listing (storagePath uploadId)).isNone then
      (store.list (storagePath uploadId)).flatMap fun path => asking faults time number (.remove path)
    else []

/-- A sweep from its beginning to its end, with the sessions that it takes up in some order. -/
def sweeping (system : System) (order : List (String × SessionId)) (faults : Faults)
    (time : Request → Timestamp) : List Event :=
  .sweep order :: order.flatMap fun binding =>
    clearing system.store faults time system.begun binding.1

end System

/-! ### The books without some sessions -/

namespace Coordinator

/-- The books in which some sessions are no longer tracked; they stay marked. -/
def withdraw (books : Coordinator) (gone : List (String × SessionId)) : Coordinator :=
  { books with
    sessions := books.sessions.mapIdx fun place session =>
      if place ∈ gone.map Prod.snd then { session with purging := true } else session
    tracked := books.tracked.filter fun uploadId place => (uploadId, place) ∉ gone }

/-- The sessions of a queue are different sessions that a sweep has to take up. -/
structure IsDue (books : Coordinator) (started : Timestamp) (queue : List (String × SessionId)) : Prop where
  valid : ∀ binding ∈ queue, isValidId binding.1
  found : ∀ binding ∈ queue, ∃ session, books.find binding.1 = .ok (binding.2, session) ∧
    session.isAbandoned started ∧ session.purging = false
  distinct : (queue.map Prod.fst).Nodup
  apart : (queue.map Prod.snd).Nodup

variable {books other : Coordinator} {started : Timestamp} {uploadId : String} {place : SessionId}
  {session : Session} {queue gone : List (String × SessionId)}

theorem eq_of_session? (sameConfig : books.config = other.config)
    (sameSessions : ∀ place, books.session? place = other.session? place)
    (sameTracked : books.tracked = other.tracked) : books = other := by
  cases books
  cases other
  cases sameConfig
  cases sameTracked
  cases (Array.ext_getElem? sameSessions : _ = _)
  rfl

theorem session?_withdraw : (books.withdraw gone).session? place =
    (books.session? place).map fun session =>
      if place ∈ gone.map Prod.snd then { session with purging := true } else session :=
  Array.getElem?_mapIdx

theorem withdraw_congr {others : List (String × SessionId)} (same : ∀ binding, binding ∈ gone ↔ binding ∈ others) :
    books.withdraw gone = books.withdraw others := by
  unfold withdraw
  simp only [List.mem_map, same]

theorem withdraw_nil : books.withdraw [] = books := by
  refine eq_of_session? rfl (fun place => ?_) (Table.ext (List.filter_eq_self.2 fun _ _ => by simp))
  rw [session?_withdraw]
  cases books.session? place <;> rfl

/-- Identifiers of sessions that are withdrawn lead nowhere, and the others lead where they did. -/
theorem find_withdraw (leads : ∀ binding ∈ gone, books.tracked.get? binding.1 = some binding.2)
    (apart : ∀ uploadId other place, books.tracked.get? uploadId = some place →
      books.tracked.get? other = some place → uploadId = other) :
    (books.withdraw gone).find uploadId =
      if uploadId ∈ gone.map Prod.fst then .error (Refusal.unknown uploadId) else books.find uploadId := by
  have kept : (books.withdraw gone).tracked.get? uploadId =
      (books.tracked.get? uploadId).filter fun place => (uploadId, place) ∉ gone :=
    Table.get?_filter ..
  unfold find
  rw [kept]
  cases tracked : books.tracked.get? uploadId with
  | none => exact (ite_self _).symm
  | some place =>
    by_cases goes : (uploadId, place) ∈ gone
    · rw [if_pos (List.mem_map.2 ⟨_, goes, rfl⟩), Option.filter_some_neg (by simpa using goes)]
    · have stays : uploadId ∉ gone.map Prod.fst := by
        intro member
        obtain ⟨⟨other, second⟩, among, rfl⟩ := List.mem_map.1 member
        exact goes (Option.some.inj (tracked.symm.trans (leads _ among)) ▸ among)
      have unmarked : place ∉ gone.map Prod.snd := by
        intro member
        obtain ⟨⟨other, second⟩, among, rfl⟩ := List.mem_map.1 member
        exact goes (apart _ _ _ tracked (leads _ among) ▸ among)
      rw [if_neg stays, Option.filter_some_pos (by simpa using goes)]
      dsimp only
      rw [session?_withdraw]
      cases books.session? place with
      | none => rfl
      | some session => simp only [Option.map_some, if_neg unmarked]

/-- A mark that is taken off again leaves no trace. -/
theorem endPurge_beginPurge (found : books.session? place = some session) (free : session.purging = false) :
    (books.beginPurge place).endPurge place = books := by
  refine eq_of_session? rfl (fun other => ?_) rfl
  unfold endPurge beginPurge
  rw [session?_modify, session?_modify]
  split
  · next same =>
    subst same
    rw [found, ← free]
    rfl
  · rfl

/-- A session that is marked and no longer tracked is the first of those that are withdrawn. -/
theorem withdraw_cons (leads : books.tracked.get? uploadId = some place) :
    ((books.beginPurge place).untrack uploadId place).withdraw gone =
      books.withdraw ((uploadId, place) :: gone) := by
  have untracks : (books.beginPurge place).untrack uploadId place =
      { books.beginPurge place with tracked := books.tracked.erase uploadId } := if_pos leads
  refine eq_of_session? (by rw [untracks]; rfl) (fun other => ?_) ?_
  · rw [session?_withdraw, session?_untrack, session?_withdraw, beginPurge, session?_modify]
    simp only [List.map_cons, List.mem_cons]
    by_cases here : place = other
    · subst here
      simp only [if_true, Option.map_map, true_or]
      refine congrArg (fun change => (books.session? place).map change) (funext fun session => ?_)
      dsimp only [Function.comp_apply]
      split <;> rfl
    · simp only [if_neg here, Ne.symm here, false_or]
  · rw [untracks]
    refine Table.ext ?_
    simp only [withdraw, Table.erase, Table.filter, List.filter_filter]
    refine List.filter_congr fun binding member => ?_
    -- only the session that was marked is tracked under its identifier
    have unique : binding.1 = uploadId → binding = (uploadId, place) := by
      intro same
      have tracked := Table.get?_eq_some_iff.2 member
      rw [same, leads] at tracked
      exact Prod.ext same (Option.some.inj tracked).symm
    by_cases same : binding.1 = uploadId
    · simp [unique same]
    · have differs : binding ≠ (uploadId, place) := fun equal => same (congrArg Prod.fst equal)
      simp [same, differs]

/-- What is left of a queue is still to be taken up when its first session has been worked off. -/
theorem IsDue.tail (due : books.IsDue started ((uploadId, place) :: queue)) (result : Outcome Nat) :
    ((books.beginPurge place).release uploadId place result).IsDue started queue where
  valid binding member := due.valid binding (List.mem_cons_of_mem _ member)
  found binding member := by
    obtain ⟨session, finds, abandoned, free⟩ := due.found binding (List.mem_cons_of_mem _ member)
    obtain ⟨leads, found⟩ := find_eq_ok.1 finds
    have otherId : uploadId ≠ binding.1 := fun same =>
      (List.nodup_cons.1 due.distinct).1 (List.mem_map.2 ⟨binding, member, same.symm⟩)
    have otherPlace : place ≠ binding.2 := fun same =>
      (List.nodup_cons.1 due.apart).1 (List.mem_map.2 ⟨binding, member, same.symm⟩)
    refine ⟨session, find_eq_ok.2 ⟨?_, ?_⟩, abandoned, free⟩
    · exact (get?_tracked_release otherId result).trans leads
    · exact (session?_release_of_ne otherPlace result).trans ((session?_modify_of_ne otherPlace).trans found)
  distinct := (List.nodup_cons.1 due.distinct).2
  apart := (List.nodup_cons.1 due.apart).2

theorem nextSweep_of_due (due : books.IsDue started ((uploadId, place) :: queue)) (report : SweepReport) :
    nextSweep started report ((uploadId, place) :: queue) books = (books.beginPurge place,
      .waiting (.sweep started uploadId place (.listing uploadId) queue report)) := by
  obtain ⟨session, finds, abandoned, free⟩ := due.found _ List.mem_cons_self
  rw [nextSweep, (find_eq_ok.1 finds).2]
  exact if_pos (by rw [abandoned, free]; rfl)

end Coordinator

/-! ### One session after the other -/

/-- What a sweep reports when the removal of one more session's blobs has ended. -/
def SweepReport.add (report : SweepReport) : Outcome Nat → SweepReport
  | .ok removed => { report with
      removedSessions := report.removedSessions + 1
      removedBlobs := report.removedBlobs + removed }
  | .error _ => { report with failed := report.failed + 1 }

theorem Coordinator.continueSweep_ended (books : Coordinator) (started : Timestamp) (uploadId : String)
    (place : SessionId) (waiting : List (String × SessionId)) (report : SweepReport) (result : Outcome Nat) :
    books.continueSweep started uploadId place waiting report (.inr result) =
      nextSweep started (report.add result) waiting (books.release uploadId place result) := by
  cases result <;> rfl

namespace Faults

variable {faults : Faults} {store : Memory} {uploadId : String}

theorem frees_congr {queue other : List (String × SessionId)} (perm : queue.Perm other) :
    faults.frees queue = faults.frees other := by
  funext path
  unfold frees
  rw [perm.any_eq]

/-- The directories are cleared one after the other. -/
theorem without_frees_cons (binding : String × SessionId) (queue : List (String × SessionId)) :
    (store.without (faults.frees [binding])).without (faults.frees queue) =
      store.without (faults.frees (binding :: queue)) := by
  refine (Memory.without_without ..).trans (Memory.without_congr fun path _ _ => ?_)
  cases removes : faults.removal path <;> simp [frees, removes]

/-- Clearing the directory of one upload does not show in the directory of another. -/
theorem list_without_of_ne {place : SessionId} {other : String} (differs : uploadId ≠ other) :
    (store.without (faults.frees [(uploadId, place)])).list (storagePath other) =
      store.list (storagePath other) := by
  refine Memory.list_without fun path under => ?_
  have outside : Memory.isDirectlyUnder (storagePath uploadId) path = false := by
    by_contra alsoUnder
    refine differs (storagePath_injective ?_)
    exact Memory.eq_of_isDirectlyUnder (Bool.not_eq_false _ ▸ alsoUnder) under
  simp [frees, outside]

/-- A path that is not removed does not count. -/
theorem without_refused {path : String} {error : ServiceError} (paths : List String)
    (refuses : faults.removal path = some error) :
    (store.without fun other => other ∈ paths ∧ (faults.removal other).isNone) =
      store.without fun other => other ∈ path :: paths ∧ (faults.removal other).isNone := by
  refine Memory.without_congr fun other _ _ => ?_
  by_cases same : other = path
  · simp [same, refuses]
  · simp [same]

/-- A path that is removed goes first. -/
theorem without_removed {path : String} (paths : List String) (removes : faults.removal path = none) :
    ((store.without fun other => other = path).without
        fun other => other ∈ paths ∧ (faults.removal other).isNone) =
      store.without fun other => other ∈ path :: paths ∧ (faults.removal other).isNone := by
  refine (Memory.without_without ..).trans (Memory.without_congr fun other _ _ => ?_)
  by_cases same : other = path
  · simp [same, removes]
  · simp [same]

/-- A store that refuses nothing is left with nothing in the directories that are cleared. -/
theorem list_without_of_mem {queue : List (String × SessionId)} (store : Memory) {binding : String × SessionId}
    (member : binding ∈ queue) :
    (store.without (Faults.frees {} queue)).list (storagePath binding.1) = [] := by
  rw [List.eq_nil_iff_forall_not_mem]
  intro path listed
  obtain ⟨under, data, there⟩ := Memory.mem_list.1 listed
  have frees : Faults.frees {} queue path = true := by
    simp only [frees, Option.isNone_none, Bool.true_and, List.any_eq_true]
    exact ⟨binding, member, under⟩
  rw [Memory.get?_without, if_pos frees] at there
  cases there

theorem outcome_cons (path : String) (paths : List String) (removed : Nat) (failure : Option ServiceError) :
    faults.outcome removed failure (path :: paths) =
      match faults.removal path with
      | none => faults.outcome (removed + 1) failure paths
      | some error => faults.outcome removed (some (failure.getD error)) paths := by
  unfold outcome
  rw [List.findSome?_cons, List.length_cons]
  cases faults.removal path with
  | none => simp only [Nat.add_assoc, Nat.add_comm 1]
  | some error => cases failure <;> rfl

theorem clears_congr {other : Memory}
    (same : other.list (storagePath uploadId) = store.list (storagePath uploadId)) :
    faults.clears other uploadId = faults.clears store uploadId := by
  unfold clears
  rw [same]

theorem cleanup_of_clears (clears : faults.clears store uploadId) :
    faults.cleanup store uploadId = .ok (store.list (storagePath uploadId)).length := by
  simp only [Faults.clears, Bool.and_eq_true, Option.isNone_iff_eq_none, List.all_eq_true] at clears
  unfold cleanup outcome
  simp only [clears.1, List.findSome?_eq_none_iff.2 clears.2, Option.or_none, Nat.zero_add]

theorem cleanup_of_not_clears (fails : faults.clears store uploadId = false) :
    ∃ error, faults.cleanup store uploadId = .error error := by
  unfold cleanup
  cases listing : faults.listing (storagePath uploadId) with
  | some error => exact ⟨error, rfl⟩
  | none =>
    dsimp only [outcome]
    cases first : (store.list (storagePath uploadId)).findSome? faults.removal with
    | some error => exact ⟨error, rfl⟩
    | none =>
      rw [List.findSome?_eq_none_iff] at first
      simp only [Faults.clears, listing, Option.isNone_none, Bool.true_and] at fails
      rw [List.all_eq_true.2 fun path member => Option.isNone_iff_eq_none.2 (first path member)] at fails
      cases fails

/-- Reports are made one session after the other. -/
theorem report_cons (sofar : SweepReport) (binding : String × SessionId) (queue : List (String × SessionId)) :
    faults.report store sofar (binding :: queue) =
      faults.report store (sofar.add (faults.cleanup store binding.1)) queue := by
  unfold report
  cases clears : faults.clears store binding.1 with
  | true =>
    rw [cleanup_of_clears clears]
    simp [SweepReport.add, clears, Nat.add_assoc, Nat.add_comm 1]
  | false =>
    obtain ⟨error, fails⟩ := cleanup_of_not_clears clears
    rw [fails]
    simp [SweepReport.add, clears, Nat.add_assoc, Nat.add_comm 1]

theorem report_congr {other : Memory} {sofar : SweepReport} {queue : List (String × SessionId)}
    (same : ∀ binding ∈ queue, other.list (storagePath binding.1) = store.list (storagePath binding.1)) :
    faults.report other sofar queue = faults.report store sofar queue := by
  have clears : ∀ binding ∈ queue, faults.clears other binding.1 = faults.clears store binding.1 :=
    fun binding member => clears_congr (same binding member)
  have fails : ∀ binding ∈ queue, (!faults.clears other binding.1) = !faults.clears store binding.1 :=
    fun binding member => congrArg _ (clears binding member)
  have lengths : ∀ binding ∈ queue.filter fun binding => faults.clears store binding.1,
      (other.list (storagePath binding.1)).length = (store.list (storagePath binding.1)).length :=
    fun binding member => congrArg _ (same binding (List.mem_filter.1 member).1)
  unfold report
  rw [List.filter_congr clears, List.filter_congr fails, List.map_congr_left lengths]

theorem report_perm {sofar : SweepReport} {queue other : List (String × SessionId)} (perm : queue.Perm other) :
    faults.report store sofar queue = faults.report store sofar other := by
  unfold report
  rw [(perm.filter _).length_eq, ((perm.filter _).map _).sum_eq, (perm.filter _).length_eq]

theorem fate_list (directory : String) : (faults.fate (.list directory)).meet store (.list directory) =
    match faults.listing directory with
    | none => store.answer (.list directory)
    | some error => (store, .error error) := by
  rw [fate]
  cases faults.listing directory <;> rfl

theorem fate_remove (path : String) : (faults.fate (.remove path)).meet store (.remove path) =
    match faults.removal path with
    | none => store.answer (.remove path)
    | some error => (store, .error error) := by
  rw [fate]
  cases faults.removal path <;> rfl

end Faults

/-- When a session has been worked off, it is the first of those that are withdrawn, or the books are as they
were. -/
theorem Coordinator.withdraw_release {books : Coordinator} {started : Timestamp} {uploadId : String}
    {place : SessionId} {queue : List (String × SessionId)} (due : books.IsDue started ((uploadId, place) :: queue))
    (faults : Faults) (store : Memory) :
    ((books.beginPurge place).release uploadId place (faults.cleanup store uploadId)).withdraw
        (queue.filter fun binding => faults.clears store binding.1) =
      books.withdraw (((uploadId, place) :: queue).filter fun binding => faults.clears store binding.1) := by
  obtain ⟨session, finds, -, free⟩ := due.found _ List.mem_cons_self
  obtain ⟨leads, found⟩ := find_eq_ok.1 finds
  cases clears : faults.clears store uploadId with
  | true =>
    rw [Faults.cleanup_of_clears clears, List.filter_cons, clears]
    exact withdraw_cons leads
  | false =>
    obtain ⟨error, fails⟩ := Faults.cleanup_of_not_clears clears
    rw [fails, List.filter_cons, clears, release, endPurge_beginPurge found free]
    rfl

namespace System

variable {system : System} {books : Coordinator} {faults : Faults} {time : Request → Timestamp} {number : Nat}
  {started : Timestamp} {uploadId : String} {place : SessionId} {waiting queue : List (String × SessionId)}
  {report : SweepReport}

/-- A sweep asks the store for something and goes on with the answer. -/
theorem follow_asking (cleanup : Cleanup) (rest : List Event) :
    follow (system.settle number .sweep (books, .waiting (.sweep started uploadId place cleanup waiting report)))
      (asking faults time number cleanup.request ++ rest) =
        let met := (faults.fate cleanup.request).meet system.store cleanup.request
        follow ({ system with store := met.1, clock := time cleanup.request }.settle number .sweep
          (books.continueSweep started uploadId place waiting report (cleanup.resume met.2))) rest := by
  let waits : Flight := ⟨.sweep, .sweep started uploadId place cleanup waiting report, none⟩
  refine (@follow_exchange { system with
      coordinator := books
      flights := Function.update system.flights number (some waits) }
    number .sweep (.sweep started uploadId place cleanup waiting report) (Function.update_self ..)
    (faults.fate cleanup.request) (time cleanup.request) rest).trans ?_
  exact congrArg (fun moved => follow moved rest) (settle_update { system with
    store := ((faults.fate cleanup.request).meet system.store cleanup.request).1
    clock := time cleanup.request } books number .sweep (some waits) _)

/-- A sweep removes what it can of the paths that it has been told of, and then the session is worked off. -/
theorem follow_removals (removed : Nat) (failure : Option ServiceError) {paths : List String}
    (accepted : ∀ path ∈ paths, canonical path = .ok path) (rest : List Event) :
    ∃ now, follow (system.settle number .sweep (books.continueSweep started uploadId place waiting report
        (Cleanup.proceed removed failure paths)))
      ((paths.flatMap fun path => asking faults time number (.remove path)) ++ rest) =
        follow ({ system with
            store := system.store.without fun path => path ∈ paths ∧ (faults.removal path).isNone
            clock := now }.settle number .sweep
          (books.continueSweep started uploadId place waiting report (.inr (faults.outcome removed failure paths))))
          rest := by
  induction paths generalizing system removed failure with
  | nil =>
    refine ⟨system.clock, ?_⟩
    rw [Memory.without_eq_self fun path _ _ => by simp]
    cases failure <;> rfl
  | cons path paths inductionHypothesis =>
    rw [List.flatMap_cons, List.append_assoc]
    have asks := @follow_asking system books faults time number started uploadId place waiting report
      (.removing path paths removed failure)
      ((paths.flatMap fun path => asking faults time number (.remove path)) ++ rest)
    dsimp only [Cleanup.request] at asks
    rw [Faults.fate_remove] at asks
    have later : ∀ path ∈ paths, canonical path = .ok path :=
      fun other member => accepted other (List.mem_cons_of_mem _ member)
    rw [Faults.outcome_cons]
    cases refuses : faults.removal path with
    | some error =>
      rw [refuses] at asks
      obtain ⟨now, goesOn⟩ := @inductionHypothesis { system with clock := time (.remove path) } removed
        (some (failure.getD error)) later
      dsimp only at goesOn
      rw [Faults.without_refused paths refuses] at goesOn
      exact ⟨now, asks.trans goesOn⟩
    | none =>
      rw [refuses, Memory.answer_remove (accepted path List.mem_cons_self)] at asks
      obtain ⟨now, goesOn⟩ := @inductionHypothesis { system with
        store := system.store.without fun other => other = path
        clock := time (.remove path) } (removed + 1) failure later
      dsimp only at goesOn
      rw [Faults.without_removed paths refuses] at goesOn
      exact ⟨now, asks.trans goesOn⟩

/-- A sweep lists the directory of a session and removes what it can of its blobs. -/
theorem follow_clearing (valid : isValidId uploadId) (holds : system.store.IsCanonical) (rest : List Event) :
    ∃ now, follow (system.settle number .sweep
        (books, .waiting (.sweep started uploadId place (.listing uploadId) waiting report)))
      (clearing system.store faults time number uploadId ++ rest) =
        follow ({ system with
            store := system.store.without (faults.frees [(uploadId, place)])
            clock := now }.settle number .sweep
          (books.continueSweep started uploadId place waiting report
            (.inr (faults.cleanup system.store uploadId)))) rest := by
  have asks := @follow_asking system books faults time number started uploadId place waiting report
    (.listing uploadId)
  dsimp only [Cleanup.request] at asks
  unfold clearing Faults.cleanup
  rw [List.append_assoc, asks, Faults.fate_list]
  cases refuses : faults.listing (storagePath uploadId) with
  | some error =>
    refine ⟨time (.list (storagePath uploadId)), ?_⟩
    rw [Memory.without_eq_self fun path _ _ => by simp [Faults.frees, refuses]]
    rfl
  | none =>
    have answers : system.store.answer (.list (storagePath uploadId)) =
        (system.store, .ok (system.store.list (storagePath uploadId))) := by
      dsimp only [Memory.answer]
      rw [canonical_storagePath valid]
      rfl
    obtain ⟨now, goesOn⟩ := @follow_removals
      { system with clock := time (.list (storagePath uploadId)) } books faults time number started uploadId place
      waiting report 0 none (system.store.list (storagePath uploadId))
      (fun path member => by
        obtain ⟨data, there⟩ := (Memory.mem_list.1 member).2
        exact holds path data there) rest
    have left : (system.store.without fun path =>
          path ∈ system.store.list (storagePath uploadId) ∧ (faults.removal path).isNone) =
        system.store.without (faults.frees [(uploadId, place)]) := by
      refine Memory.without_congr fun path data there => ?_
      have listed : path ∈ system.store.list (storagePath uploadId) ↔
          Memory.isDirectlyUnder (storagePath uploadId) path :=
        Memory.mem_list.trans (and_iff_left ⟨data, there⟩)
      cases removes : faults.removal path <;> simp [Faults.frees, refuses, listed, removes]
    dsimp only at goesOn ⊢
    rw [left] at goesOn
    rw [answers]
    exact ⟨now, goesOn⟩

/-- A sweep works off the sessions of its queue one after the other. -/
theorem follow_queue (due : books.IsDue started queue) (holds : system.store.IsCanonical) :
    ∃ now, follow (system.settle number .sweep (Coordinator.nextSweep started report queue books))
      (queue.flatMap fun binding => clearing system.store faults time number binding.1) =
        follow ({ system with store := system.store.without (faults.frees queue), clock := now }.settle
          number .sweep
          (books.withdraw (queue.filter fun binding => faults.clears system.store binding.1),
            .done (.ok (.swept (faults.report system.store report queue))))) [] := by
  induction queue generalizing system books report with
  | nil =>
    refine ⟨system.clock, ?_⟩
    rw [Memory.without_eq_self fun path _ _ => by simp [Faults.frees], List.filter_nil,
      Coordinator.withdraw_nil]
    rfl
  | cons binding rest inductionHypothesis =>
    obtain ⟨uploadId, place⟩ := binding
    rw [Coordinator.nextSweep_of_due due, List.flatMap_cons]
    obtain ⟨time₁, clears⟩ := @follow_clearing system (books.beginPurge place) faults time number started uploadId
      place rest report (due.valid _ List.mem_cons_self) holds
      (rest.flatMap fun binding => clearing system.store faults time number binding.1)
    rw [Coordinator.continueSweep_ended] at clears
    -- what has been removed so far does not show in the directories of the others
    have lists : ∀ binding ∈ rest,
        (system.store.without (faults.frees [(uploadId, place)])).list (storagePath binding.1) =
          system.store.list (storagePath binding.1) :=
      fun binding member => Faults.list_without_of_ne fun same =>
        (List.nodup_cons.1 due.distinct).1 (List.mem_map.2 ⟨binding, member, same.symm⟩)
    have sameClears : ∀ binding ∈ rest,
        faults.clears (system.store.without (faults.frees [(uploadId, place)])) binding.1 =
          faults.clears system.store binding.1 :=
      fun binding member => Faults.clears_congr (lists binding member)
    have sameEvents : (rest.flatMap fun binding => clearing system.store faults time number binding.1) =
        rest.flatMap fun binding =>
          clearing (system.store.without (faults.frees [(uploadId, place)])) faults time number binding.1 := by
      refine List.flatMap_congr fun binding member => ?_
      unfold clearing
      rw [lists binding member]
    obtain ⟨now, goesOn⟩ := @inductionHypothesis { system with
        store := system.store.without (faults.frees [(uploadId, place)])
        clock := time₁ }
      ((books.beginPurge place).release uploadId place (faults.cleanup system.store uploadId))
      (report.add (faults.cleanup system.store uploadId)) (due.tail _) (holds.without _)
    dsimp only at goesOn
    rw [← sameEvents, Faults.without_frees_cons, List.filter_congr sameClears, Faults.report_congr lists,
      Coordinator.withdraw_release due, ← Faults.report_cons report (uploadId, place)] at goesOn
    exact ⟨now, clears.trans goesOn⟩

/-! ### Canonical stores -/

theorem isCanonical_next (holds : system.store.IsCanonical) (event : Event) :
    (system.next event).store.IsCanonical := by
  have moves := system.move event
  generalize system.next event = after at moves
  cases moves with
  | idles | ticks | announces | begins | resumes => exact holds
  | @serves number fate call pending waits =>
    intro path data there
    rcases fate.get?_meet system.store pending.request path with
      same | ⟨written, _, -, leads, -⟩ | ⟨removed, -, leads, -⟩
    · exact holds path data (same.symm.trans there)
    · exact canonical_canonical leads
    · exact canonical_canonical leads

theorem isCanonical_run (holds : system.store.IsCanonical) (events : List Event) :
    (system.run events).store.IsCanonical := by
  induction events generalizing system with
  | nil => exact holds
  | cons event rest inductionHypothesis => exact inductionHypothesis (isCanonical_next holds event)

/-! ### The sessions that are due -/

/-- Does no call in progress remove blobs? -/
def IsCalm (system : System) : Prop :=
  ∀ number, ∀ flight ∈ system.flights number, flight.call.removes = false

namespace IsCalm

variable {now : Timestamp} {session : Session}

/-- Only the calls that have begun have to be looked at. -/
theorem of_begun (coherent : system.Coherent) (each : ∀ number < system.begun,
    ∀ flight ∈ system.flights number, flight.call.removes = false) : system.IsCalm :=
  fun number flight flies => each number (coherent.lt_begun flies) flight flies

theorem mem_abandoned (calm : system.IsCalm) (tended : system.Tended) :
    (uploadId, place) ∈ system.coordinator.abandoned now ↔
      ∃ session, system.coordinator.find uploadId = .ok (place, session) ∧ session.isAbandoned now := by
  unfold Coordinator.abandoned
  rw [List.mem_filter]
  constructor
  · rintro ⟨leads, due⟩
    dsimp only at due
    split at due
    · next session found =>
      simp only [Bool.and_eq_true] at due
      exact ⟨session, Coordinator.find_eq_ok.2 ⟨Table.get?_eq_some_iff.2 leads, found⟩, due.1⟩
    · cases due
  · rintro ⟨session, finds, abandoned⟩
    obtain ⟨leads, found⟩ := Coordinator.find_eq_ok.1 finds
    refine ⟨Table.get?_eq_some_iff.1 leads, ?_⟩
    dsimp only
    rw [found]
    dsimp only
    rw [abandoned, tended.free_of_idle calm finds]
    rfl

/-- When some of the abandoned sessions are withdrawn, their identifiers lead nowhere, and the others lead where
they did. -/
theorem find_withdraw (calm : system.IsCalm) (tended : system.Tended) {gone : List (String × SessionId)}
    (among : gone ⊆ system.coordinator.abandoned now) (uploadId : String) :
    (system.coordinator.withdraw gone).find uploadId =
      if uploadId ∈ gone.map Prod.fst then .error (Refusal.unknown uploadId)
      else system.coordinator.find uploadId := by
  refine Coordinator.find_withdraw (fun binding member => ?_) fun _ _ _ leads alsoLeads =>
    (tended.named.tracked _ _ leads).unique (tended.named.tracked _ _ alsoLeads)
  obtain ⟨session, finds, -⟩ := (calm.mem_abandoned tended).1 (among member)
  exact (Coordinator.find_eq_ok.1 finds).1

/-- When all abandoned sessions are withdrawn, no session that is still tracked is abandoned. -/
theorem not_isAbandoned_of_find_withdraw (calm : system.IsCalm) (tended : system.Tended)
    (found : (system.coordinator.withdraw (system.coordinator.abandoned now)).find uploadId =
      .ok (place, session)) :
    session.isAbandoned now = false := by
  rw [calm.find_withdraw tended (List.Subset.refl _)] at found
  split at found
  · cases found
  · next stays =>
    by_contra abandoned
    refine stays (List.mem_map.2 ⟨(uploadId, place), ?_, rfl⟩)
    exact (calm.mem_abandoned tended).2 ⟨session, found, Bool.not_eq_false _ ▸ abandoned⟩

theorem abandoned_eq_nil (calm : system.IsCalm) (tended : system.Tended)
    (spared : ∀ uploadId place session, system.coordinator.find uploadId = .ok (place, session) →
      session.isAbandoned now = false) : system.coordinator.abandoned now = [] := by
  rw [List.eq_nil_iff_forall_not_mem]
  rintro ⟨uploadId, place⟩ member
  obtain ⟨session, found, abandoned⟩ := (calm.mem_abandoned tended).1 member
  rw [spared uploadId place session found] at abandoned
  cases abandoned

/-- The abandoned sessions are different sessions that a sweep has to take up, in whatever order it does. -/
theorem isDue (calm : system.IsCalm) (tended : system.Tended) (tidy : system.Tidy)
    (order : queue.Perm (system.coordinator.abandoned now)) : system.coordinator.IsDue now queue where
  valid binding member := by
    obtain ⟨session, finds, -⟩ := (calm.mem_abandoned tended).1 (order.mem_iff.1 member)
    exact (tidy.tracked _ _ (Coordinator.find_eq_ok.1 finds).1).1
  found binding member := by
    obtain ⟨session, finds, abandoned⟩ := (calm.mem_abandoned tended).1 (order.mem_iff.1 member)
    exact ⟨session, finds, abandoned, tended.free_of_idle calm finds⟩
  distinct := by
    refine (order.map Prod.fst).nodup_iff.2 ?_
    exact system.coordinator.tracked.distinct.sublist (List.filter_sublist.map Prod.fst)
  apart := by
    have distinct : queue.Nodup := by
      refine order.nodup_iff.2 ?_
      exact (List.Nodup.of_map _ system.coordinator.tracked.distinct).sublist List.filter_sublist
    refine List.Nodup.map_on (fun one member two alsoMember same => ?_) distinct
    have leads {binding : String × SessionId} (member : binding ∈ queue) :
        system.coordinator.tracked.get? binding.1 = some binding.2 := by
      obtain ⟨session, finds, -⟩ := (calm.mem_abandoned tended).1 (order.mem_iff.1 member)
      exact (Coordinator.find_eq_ok.1 finds).1
    have names := tended.named.tracked _ _ (leads member)
    exact Prod.ext (names.unique (same ▸ tended.named.tracked _ _ (leads alsoMember))) same

end IsCalm

/-- A sweep that nothing disturbs works off the abandoned sessions, and it is over. The order in which it takes
them does not show. -/
theorem run_sweeping {order : List (String × SessionId)} (calm : system.IsCalm) (tended : system.Tended)
    (tidy : system.Tidy) (holds : system.store.IsCanonical)
    (ordered : order.Perm (system.coordinator.abandoned system.clock)) (faults : Faults)
    (time : Request → Timestamp) :
    let due := system.coordinator.abandoned system.clock
    ∃ now, system.run (system.sweeping order faults time) = { system with
        coordinator := system.coordinator.withdraw (due.filter fun binding => faults.clears system.store binding.1)
        store := system.store.without (faults.frees due)
        clock := now
        begun := system.begun + 1 } ∧
      system.notices (system.sweeping order faults time) =
        [.returned system.begun .sweep (.ok (.swept (faults.report system.store {} due)))] := by
  intro due
  have begins : system.step (.sweep order) = { system with begun := system.begun + 1 }.settle system.begun .sweep
      (Coordinator.nextSweep system.clock {} order system.coordinator) := if_pos ordered
  obtain ⟨now, goesOn⟩ := @follow_queue { system with begun := system.begun + 1 } system.coordinator faults time
    system.begun system.clock order {} (calm.isDue tended tidy ordered) holds
  have idle : Function.update system.flights system.begun none = system.flights :=
    Function.update_eq_self_iff.2 (tended.guarded.coherent.fresh _ (Nat.le_refl _)).symm
  rw [Coordinator.withdraw_congr fun binding => (ordered.filter _).mem_iff, Faults.frees_congr ordered,
    Faults.report_perm ordered] at goesOn
  refine ⟨now, ?_, ?_⟩
  · refine (congrArg (fun moved => (follow moved _).1) begins).trans ((congrArg Prod.fst goesOn).trans ?_)
    show ({ system with
        coordinator := _, store := _, clock := now, begun := _, flights := Function.update _ _ _ } : System) = _
    rw [idle]
  · exact (congrArg (fun moved => (follow moved _).2) begins).trans (congrArg Prod.snd goesOn)

/-- A sweep that finds no abandoned session reports nothing and does nothing. -/
theorem step_sweep_of_none (coherent : system.Coherent)
    (none : system.coordinator.abandoned system.clock = []) :
    system.step (.begin .sweep) = ({ system with begun := system.begun + 1 },
      some (.returned system.begun .sweep (.ok (.swept {})))) := by
  have begins : system.step (.begin .sweep) = system.enter .sweep
      (Coordinator.nextSweep system.clock {} (system.coordinator.abandoned system.clock) system.coordinator) := rfl
  have idle : Function.update system.flights system.begun Option.none = system.flights :=
    Function.update_eq_self_iff.2 (coherent.fresh _ (Nat.le_refl _)).symm
  rw [begins, none, Coordinator.nextSweep, enter, settle]
  dsimp only
  rw [idle]

/-- Let no call be removing blobs when a sweep begins, and let nothing come between its parts, while the store
refuses what it will. The sweep takes up the abandoned sessions. It reports how many of them could be cleared
completely, with the blobs of these, and how many could not. Those that could be cleared are no longer tracked;
every other identifier leads to the same session as before. The blobs that go are those directly under the
directory of an abandoned session, if it could be listed and they could be removed, and no others. None of this
depends on the order in which the sessions are taken. If the store refuses nothing, no abandoned session is
tracked afterwards, the directories of those that were are empty, and a second sweep at the same time reports
zeros and changes nothing. -/
theorem sweep_exact {config : UploadConfig} {store : Memory} {clock : Timestamp} {events : List Event}
    {order : List (String × SessionId)} (holds : store.IsCanonical)
    (calm : ((initial config store clock).run events).IsCalm)
    (ordered : order.Perm (((initial config store clock).run events).coordinator.abandoned
      ((initial config store clock).run events).clock))
    (faults : Faults) (time : Request → Timestamp) :
    let system := (initial config store clock).run events
    let due := system.coordinator.abandoned system.clock
    let cleared := due.filter fun binding => faults.clears system.store binding.1
    let failing := due.filter fun binding => !faults.clears system.store binding.1
    let after := system.run (system.sweeping order faults time)
    (∀ uploadId place, (uploadId, place) ∈ due ↔
      ∃ session, system.coordinator.find uploadId = .ok (place, session) ∧ session.isAbandoned system.clock) ∧
    system.notices (system.sweeping order faults time) = [.returned system.begun .sweep (.ok (.swept {
      removedSessions := cleared.length
      removedBlobs := (cleared.map fun binding => (system.store.list (storagePath binding.1)).length).sum
      failed := failing.length }))] ∧
    (∀ uploadId, after.coordinator.find uploadId =
      if uploadId ∈ cleared.map Prod.fst then .error (Refusal.unknown uploadId)
      else system.coordinator.find uploadId) ∧
    (∀ path, after.store.blobs.get? path =
      if faults.frees due path then none else system.store.blobs.get? path) ∧
    after.flights = system.flights ∧
    (∀ other, other.Perm due →
      (system.run (system.sweeping other faults time)).coordinator = after.coordinator ∧
      (system.run (system.sweeping other faults time)).store = after.store ∧
      system.notices (system.sweeping other faults time) = system.notices (system.sweeping order faults time)) ∧
    (faults = {} →
      (∀ uploadId place session, after.coordinator.find uploadId = .ok (place, session) →
        session.isAbandoned system.clock = false) ∧
      (∀ binding ∈ due, after.store.list (storagePath binding.1) = []) ∧
      let later := after.next (.tick system.clock)
      later.step (.begin .sweep) = ({ later with begun := later.begun + 1 },
        some (.returned later.begun .sweep (.ok (.swept {}))))) := by
  intro system due cleared failing after
  have tended : system.Tended := (Tended.initial config store clock).run events
  have tidy : system.Tidy := (Tidy.initial config store clock).run events
  have canonicalNow : system.store.IsCanonical := @isCanonical_run (initial config store clock) holds events
  have finds : ∀ uploadId, (system.coordinator.withdraw cleared).find uploadId =
      if uploadId ∈ cleared.map Prod.fst then .error (Refusal.unknown uploadId)
      else system.coordinator.find uploadId := fun uploadId =>
    calm.find_withdraw tended List.filter_sublist.subset uploadId
  obtain ⟨now, runs, tells⟩ := run_sweeping calm tended tidy canonicalNow ordered faults time
  have isAfter : after = _ := runs
  refine ⟨fun uploadId place => calm.mem_abandoned tended, ?_, ?_, ?_, ?_, ?_, ?_⟩
  · rw [tells, Faults.report]
    simp only [Nat.zero_add]
    rfl
  · rw [isAfter]
    exact finds
  · rw [isAfter]
    exact Memory.get?_without _ _
  · rw [isAfter]
  · intro other perm
    obtain ⟨second, runsToo, tellsToo⟩ := run_sweeping calm tended tidy canonicalNow perm faults time
    rw [isAfter, runsToo, tells, tellsToo]
    exact ⟨rfl, rfl, rfl⟩
  · rintro rfl
    have all : cleared = due := List.filter_eq_self.2 fun binding _ => by simp [Faults.clears]
    have spared : ∀ uploadId place session, after.coordinator.find uploadId = .ok (place, session) →
        session.isAbandoned system.clock = false := by
      intro uploadId place session found
      rw [isAfter] at found
      replace found : (system.coordinator.withdraw cleared).find uploadId = .ok (place, session) := found
      rw [all] at found
      exact calm.not_isAbandoned_of_find_withdraw tended found
    refine ⟨spared, fun binding member => ?_, ?_⟩
    · rw [isAfter]
      exact Faults.list_without_of_mem _ member
    · intro later
      have tendedLater : later.Tended := (tended.run (system.sweeping order {} time)).next _
      have calmLater : later.IsCalm := fun number flight flies => by
        refine calm number flight (?_ : system.flights number = some flight)
        have flew : after.flights number = some flight := flies
        rwa [isAfter] at flew
      exact step_sweep_of_none tendedLater.guarded.coherent (calmLater.abandoned_eq_nil tendedLater spared)

/-- Two sessions expire with a chunk each, and the store does not remove that of one of them. The other one is
cleared and counted. When nothing fails, both are cleared, and a second sweep finds nothing to do. -/
theorem sweep_exact_partial :
    let start := initial { sessionTtl := ⟨1000⟩ } {} ⟨0⟩
    let system := start.run [.announce 1 ⟨"a", "f", 1, 1⟩, .announce 1 ⟨"b", "f", 1, 1⟩,
      .begin (.store "a" 0 "x".toUTF8), .serve 0 .answered, .resume 0, .begin (.store "b" 0 "y".toUTF8),
      .serve 1 .answered, .resume 1, .tick ⟨1000⟩]
    let faults : Faults :=
      { removal := fun path => if path = chunkPath "b" 0 then some (.storage "down") else none }
    let failing := system.sweeping [("b", 1), ("a", 0)] faults fun _ => ⟨2000⟩
    let passing := system.sweeping [("b", 1), ("a", 0)] {} fun _ => ⟨2000⟩
    system.notices failing = [.returned 2 .sweep (.ok (.swept ⟨1, 1, 1⟩))] ∧
      (system.run failing).coordinator.find "a" = .error (Refusal.unknown "a") ∧
      (system.run failing).coordinator.find "b" = system.coordinator.find "b" ∧
      (system.run failing).store.blobs.get? (chunkPath "a" 0) = none ∧
      (system.run failing).store.blobs.get? (chunkPath "b" 0) = some "y".toUTF8 ∧
      system.notices passing = [.returned 2 .sweep (.ok (.swept ⟨2, 2, 0⟩))] ∧
      let later := (system.run passing).next (.tick ⟨1000⟩)
      later.step (.begin .sweep) =
        ({ later with begun := later.begun + 1 }, some (.returned later.begun .sweep (.ok (.swept {})))) := by
  intro start system faults failing passing
  have holds : ({} : Memory).IsCanonical := fun path data there => by cases there
  have calm : system.IsCalm := .of_begun ((Coherent.initial { sessionTtl := ⟨1000⟩ } {} ⟨0⟩).run _)
    (by decide +kernel)
  have ordered : [("b", 1), ("a", 0)].Perm (system.coordinator.abandoned system.clock) := by decide +kernel
  obtain ⟨-, tells, finds, keeps, -⟩ := sweep_exact holds calm ordered faults fun _ => ⟨2000⟩
  obtain ⟨-, tellsToo, -, -, -, -, clean⟩ := sweep_exact holds calm ordered {} fun _ => ⟨2000⟩
  obtain ⟨-, -, again⟩ := clean rfl
  refine ⟨tells.trans (by decide +kernel), (finds "a").trans (if_pos (by decide +kernel)),
    (finds "b").trans (if_neg (by decide +kernel)), (keeps _).trans (if_pos (by decide +kernel)),
    (keeps _).trans ((if_neg (by decide +kernel)).trans (by decide +kernel)), tellsToo.trans (by decide +kernel),
    again⟩

end System

end Community.Upload
