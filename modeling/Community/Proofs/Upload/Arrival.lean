/-
This file follows the chunks of one upload into the store. While the upload is in time and nobody
cancels it, chunks can be sent in any order and again and again, puts can fail, and anything can
happen aside from the upload. As long as no two calls store the same chunk at a time, the store holds
of each chunk what was stored last, unless a call has just written a newer one and is about to say so.
-/

import Community.Proofs.Upload.Acknowledgement
import Community.Proofs.Upload.Aside
import Community.Proofs.Upload.Origin

namespace Community.Upload

open Community.Blob

/-! ### What callers are told -/

/-- The chunk of an index of which a caller is told that it is stored. -/
def Notice.stored? (uploadId : String) (index : Nat) : Notice → Option ByteArray
  | .returned _ (.store other position data) (.ok .stored) =>
    if other = uploadId ∧ position = index then some data else none
  | _ => none

/-- The chunk of an index that was stored last, as far as callers were told. -/
def lastStored (uploadId : String) (index : Nat) (notices : List Notice) : Option ByteArray :=
  (notices.filterMap (·.stored? uploadId index)).getLast?

theorem lastStored_append (uploadId : String) (index : Nat) (earlier later : List Notice) :
    lastStored uploadId index (earlier ++ later) =
      (lastStored uploadId index later).or (lastStored uploadId index earlier) := by
  unfold lastStored
  rw [List.filterMap_append, List.getLast?_append]

theorem lastStored_append_toList (uploadId : String) (index : Nat) (told : List Notice)
    (notice : Option Notice) :
    lastStored uploadId index (told ++ notice.toList) =
      (notice.bind (·.stored? uploadId index)).or (lastStored uploadId index told) := by
  rw [lastStored_append]
  cases notice with
  | none => rfl
  | some notice =>
    unfold lastStored
    rw [Option.toList_some, List.filterMap_cons, Option.bind_some]
    cases notice.stored? uploadId index <;> rfl

theorem Notice.stored?_eq_some {notice : Notice} {uploadId : String} {index : Nat} {data : ByteArray}
    (stored : notice.stored? uploadId index = some data) :
    ∃ number, notice = .returned number (.store uploadId index data) (.ok .stored) := by
  unfold Notice.stored? at stored
  split at stored
  · next number other position content =>
    split at stored
    · next same =>
      obtain ⟨rfl, rfl⟩ := same
      cases stored
      exact ⟨number, rfl⟩
    · cases stored
  · cases stored

/-- A failure of which the caller hears means that nothing was carried out. -/
def Fate.isHonest : Fate → Bool
  | answered => true
  | refused _ => true
  | lost _ => false

/-- The chunk that a call is about to store. -/
def Pending.storing? : Pending → Option (String × Nat)
  | .store uploadId _ index _ => some (uploadId, index)
  | _ => none

namespace System

/-- A part of a call that stores a chunk of an upload. A call begins only if no other stores the same
chunk, and the store does not fail a call when it has done what was asked. -/
def Sends (uploadId : String) (system : System) : Event → Prop
  | .begin (.store other index _) =>
    other = uploadId ∧ ∀ number < system.begun, ∀ flight ∈ system.flights number,
      flight.pending.storing? ≠ some (uploadId, index)
  | .serve number fate => system.WorksOn number uploadId ∧ fate.isHonest
  | .resume number => system.WorksOn number uploadId
  | _ => False

instance (uploadId : String) (system : System) :
    (event : Event) → Decidable (system.Sends uploadId event)
  | .begin (.store _ _ _) => inferInstanceAs (Decidable (_ ∧ ∀ number < _, ∀ flight ∈ _, _))
  | .serve _ _ => inferInstanceAs (Decidable (_ ∧ _))
  | .resume _ => inferInstanceAs (Decidable (System.WorksOn _ _ _))
  | .begin (.merge _) | .begin (.cancel _ _) | .begin (.read _) | .begin .sweep => .isFalse id
  | .tick _ | .announce _ _ | .sweep _ => .isFalse id

/-- While an upload is in time, its chunks are sent and other things happen aside from it. -/
def Uploading (uploadId : String) (system : System) (event : Event) : Prop :=
  system.InTime uploadId ∧ (system.Aside uploadId event ∨ system.Sends uploadId event)

instance (uploadId : String) (system : System) (event : Event) :
    Decidable (system.Uploading uploadId event) :=
  inferInstanceAs (Decidable (_ ∧ (_ ∨ _)))

/-- The call with a number stores a chunk in a session, and has an answer or none. -/
def Stores (system : System) (number : Nat) (uploadId : String) (place : SessionId) (index : Nat)
    (data : ByteArray) (answer : Option (Outcome Unit)) : Prop :=
  system.flights number = some ⟨.store uploadId index data, .store uploadId place index data, answer⟩

/-- An identifier leads to a pending session of so many chunks, and nobody is cleaning up after it. -/
def Collects (system : System) (uploadId : String) (place : SessionId) (total : Nat) : Prop :=
  ∃ session, system.Hosts uploadId place session ∧ session.status = .pending ∧
    session.purging = false ∧ session.totalChunks = total

/-- The calls at work on an upload store chunks in its session, each another one. -/
structure Sending (system : System) (uploadId : String) (place : SessionId) : Prop where
  stores : ∀ number, system.WorksOn number uploadId →
    ∃ index data answer, system.Stores number uploadId place index data answer
  alone : ∀ {one two index data other answer second},
    system.Stores one uploadId place index data answer →
      system.Stores two uploadId place index other second → one = two

/-- The session of an upload is pending, and the store holds of each chunk what was stored last, as
far as callers were told; or a call has written a newer one and has only to say so. -/
structure Receives (system : System) (uploadId : String) (place : SessionId) (total : Nat)
    (told : List Notice) : Prop where
  collects : system.Collects uploadId place total
  sending : system.Sending uploadId place
  written : ∀ number index data, system.Stores number uploadId place index data (some (.ok ())) →
    system.chunk? uploadId index = some data
  kept : ∀ index data, lastStored uploadId index told = some data →
    system.chunk? uploadId index = some data ∨
      ∃ number newer, system.Stores number uploadId place index newer (some (.ok ()))

/-- What a part of a call that stores a chunk of an upload does, and what it tells. -/
inductive Delivers (system : System) (uploadId : String) (place : SessionId) :
    System × Option Notice → Prop
  /-- Nothing happens, or a call has begun and is over. -/
  | idles {begun : Nat} {notice : Option Notice}
      (silent : ∀ index, notice.bind (·.stored? uploadId index) = none) :
      Delivers system uploadId place ({ system with begun }, notice)
  | asks {index : Nat} {data : ByteArray}
      (alone : ∀ number other answer, ¬ system.Stores number uploadId place index other answer) :
      Delivers system uploadId place
        ({ system with
            begun := system.begun + 1
            flights := Function.update system.flights system.begun
              (some ⟨.store uploadId index data, .store uploadId place index data, none⟩) }, none)
  | writes {number index : Nat} {data : ByteArray}
      (waits : system.Stores number uploadId place index data none) :
      Delivers system uploadId place
        ({ system with
            store := ⟨system.store.blobs.insert (chunkPath uploadId index) data⟩
            flights := Function.update system.flights number
              (some ⟨.store uploadId index data, .store uploadId place index data, some (.ok ())⟩) },
          none)
  | misses {number index : Nat} {data : ByteArray} {error : ServiceError}
      (waits : system.Stores number uploadId place index data none) :
      Delivers system uploadId place
        ({ system with
            flights := Function.update system.flights number
              (some ⟨.store uploadId index data, .store uploadId place index data,
                some (.error error)⟩) }, none)
  | fails {number index : Nat} {data : ByteArray} {error : ServiceError}
      (answered : system.Stores number uploadId place index data (some (.error error))) :
      Delivers system uploadId place
        ({ system with flights := Function.update system.flights number none },
          some (.returned number (.store uploadId index data) (.error error)))
  | records {number index : Nat} {data : ByteArray}
      (answered : system.Stores number uploadId place index data (some (.ok ()))) :
      Delivers system uploadId place
        ({ system with
            coordinator := system.coordinator.modify place (·.record index system.clock)
            flights := Function.update system.flights number none },
          some (.returned number (.store uploadId index data) (.ok .stored)))

/-! ### What an event does -/

variable {system after : System} {event : Event} {uploadId : String} {place : SessionId}
  {session : Session} {total : Nat} {told later : List Notice} {number index : Nat} {data : ByteArray}

theorem Stores.worksOn {answer : Option (Outcome Unit)}
    (stores : system.Stores number uploadId place index data answer) : system.WorksOn number uploadId :=
  ⟨_, stores, List.mem_cons_self⟩

/-- A call that begins to store a chunk of an upload is refused, or it asks the store. -/
theorem Hosts.delivers_begin (hosts : system.Hosts uploadId place session)
    (alone : ∀ number < system.begun, ∀ flight ∈ system.flights number,
      flight.pending.storing? ≠ some (uploadId, index)) :
    system.Delivers uploadId place (system.step (.begin (.store uploadId index data))) := by
  have fresh := hosts.coherent.fresh system.begun (Nat.le_refl _)
  have refused (error : ServiceError) : system.Delivers uploadId place
      (system.enter (.store uploadId index data) (system.coordinator.fail error)) := by
    have lands : Function.update system.flights system.begun none = system.flights :=
      Function.update_eq_self_iff.2 fresh.symm
    unfold enter Coordinator.fail settle
    dsimp only
    rw [lands]
    exact .idles fun _ => rfl
  change system.Delivers uploadId place (system.enter (.store uploadId index data)
    (system.coordinator.beginStore system.clock uploadId index data))
  unfold Coordinator.beginStore
  rw [hosts.finds]
  dsimp only
  split
  · exact refused _
  · split
    · exact refused _
    · refine .asks fun number second answer stores => ?_
      exact alone number (hosts.coherent.lt_begun stores) _ stores rfl

/-- An answer to a call that stores a chunk comes from the store, which has written the chunk or refuses it. -/
theorem Hosts.delivers_serve (hosts : system.Hosts uploadId place session) {answer : Option (Outcome Unit)}
    (stores : system.Stores number uploadId place index data answer) {fate : Fate} (honest : fate.isHonest) :
    system.Delivers uploadId place (system.step (.serve number fate)) := by
  cases answer with
  | some answer =>
    rw [step_serve_of_answered stores]
    exact .idles fun _ => rfl
  | none =>
    rw [step_serve stores]
    cases fate with
    | lost error => cases honest
    | refused error => exact .misses stores
    | answered =>
      have puts : system.store.answer (.put (chunkPath uploadId index) data) =
          (⟨system.store.blobs.insert (chunkPath uploadId index) data⟩, .ok ()) := by
        dsimp only [Memory.answer]
        rw [canonical_chunkPath hosts.valid]
      dsimp only [Pending.request, Fate.meet]
      rw [puts]
      exact .writes stores

/-- A call that has its answer fails with it, or it records the chunk. -/
theorem Hosts.delivers_resume (hosts : system.Hosts uploadId place session) (pending : session.status = .pending)
    {answer : Option (Outcome Unit)} (stores : system.Stores number uploadId place index data answer) :
    system.Delivers uploadId place (system.step (.resume number)) := by
  cases answer with
  | none =>
    rw [step_resume_of_waiting stores]
    exact .idles fun _ => rfl
  | some answer =>
    rw [step_resume stores]
    dsimp only [Coordinator.resume]
    cases answer with
    | error failure => exact .fails stores
    | ok done =>
      obtain ⟨-, found⟩ := Coordinator.find_eq_ok.1 hosts.finds
      have finishes : system.coordinator.finishStore system.clock uploadId place index (.ok ()) =
          (system.coordinator.modify place (·.record index system.clock), .done (.ok .stored)) := by
        unfold Coordinator.finishStore
        simp only [found, if_pos pending]
      rw [finishes]
      exact .records stores

/-- An event that sends a chunk of an upload is a part of a call that stores it. -/
theorem Sending.delivers (sending : system.Sending uploadId place)
    (hosts : system.Hosts uploadId place session) (pending : session.status = .pending)
    (sends : system.Sends uploadId event) : system.Delivers uploadId place (system.step event) := by
  cases event with
  | tick | announce | sweep => cases sends
  | begin call =>
    cases call with
    | merge | cancel | read | sweep => cases sends
    | store other index data =>
      obtain ⟨rfl, alone⟩ := sends
      exact hosts.delivers_begin alone
  | serve number fate =>
    obtain ⟨works, honest⟩ := sends
    obtain ⟨index, data, answer, stores⟩ := sending.stores number works
    exact hosts.delivers_serve stores honest
  | resume number =>
    obtain ⟨index, data, answer, stores⟩ := sending.stores number sends
    exact hosts.delivers_resume pending stores

theorem Untouched.worksOn_iff (untouched : Untouched uploadId system after) :
    after.WorksOn number uploadId ↔ system.WorksOn number uploadId := by
  constructor
  · intro works
    obtain ⟨flight, flies, member⟩ := works
    exact ⟨flight, (untouched.flights number (Or.inr ⟨flight, flies, member⟩)).symm.trans flies, member⟩
  · intro works
    obtain ⟨flight, flies, member⟩ := works
    exact ⟨flight, (untouched.flights number (Or.inl ⟨flight, flies, member⟩)).trans flies, member⟩

theorem Untouched.stores_iff (untouched : Untouched uploadId system after)
    {answer : Option (Outcome Unit)} :
    after.Stores number uploadId place index data answer ↔
      system.Stores number uploadId place index data answer := by
  constructor
  · exact fun stores => (untouched.flights number (Or.inr stores.worksOn)).symm.trans stores
  · exact fun stores => (untouched.flights number (Or.inl stores.worksOn)).trans stores

section Changes

variable {flight : Option Flight} {answer : Option (Outcome Unit)}
  (changes : after.flights = Function.update system.flights number flight)
include changes

theorem stores_update_self :
    after.Stores number uploadId place index data answer ↔
      flight = some ⟨.store uploadId index data, .store uploadId place index data, answer⟩ := by
  unfold Stores
  rw [changes, Function.update_self]

theorem stores_update_of_ne {other : Nat} (differs : other ≠ number) :
    after.Stores other uploadId place index data answer ↔
      system.Stores other uploadId place index data answer := by
  unfold Stores
  rw [changes, Function.update_of_ne differs]

/-- The calls at work on an upload keep storing chunks, each another one, when one of them changes and
goes on alone with its chunk. -/
theorem Sending.update (sending : system.Sending uploadId place)
    (own : ∀ held ∈ flight, ∃ index data answer,
      held = ⟨.store uploadId index data, .store uploadId place index data, answer⟩ ∧
        ∀ other second before, system.Stores other uploadId place index second before → other = number) :
    after.Sending uploadId place where
  stores other works := by
    obtain ⟨held, flies, member⟩ := works
    by_cases same : other = number
    · subst same
      rw [changes, Function.update_self] at flies
      obtain ⟨index, data, answer, rfl, -⟩ := own held flies
      exact ⟨index, data, answer, (stores_update_self changes).2 flies⟩
    · rw [changes, Function.update_of_ne same] at flies
      obtain ⟨index, data, answer, stores⟩ := sending.stores other ⟨held, flies, member⟩
      exact ⟨index, data, answer, (stores_update_of_ne changes same).2 stores⟩
  alone {one two index data other answer second} stores storesSecond := by
    have lone {number' : Nat} {content contentSecond : ByteArray} {answer second : Option (Outcome Unit)}
        (stores : after.Stores number uploadId place index content answer)
        (storesSecond : after.Stores number' uploadId place index contentSecond second) :
        number' = number := by
      by_contra differs
      obtain ⟨position, data, answer, same, alone⟩ := own _ ((stores_update_self changes).1 stores)
      cases same
      exact differs (alone _ _ _ ((stores_update_of_ne changes differs).1 storesSecond))
    by_cases isOne : one = number
    · subst isOne
      exact (lone stores storesSecond).symm
    · by_cases isTwo : two = number
      · subst isTwo
        exact lone storesSecond stores
      · exact sending.alone ((stores_update_of_ne changes isOne).1 stores)
          ((stores_update_of_ne changes isTwo).1 storesSecond)

/-- The calls that have written a chunk are the same if the one that changes has not written one. -/
theorem stores_update_iff (was : ∀ index data, ¬ system.Stores number uploadId place index data answer)
    (becomes : ∀ index data, flight ≠
      some ⟨.store uploadId index data, .store uploadId place index data, answer⟩) (other : Nat) :
    after.Stores other uploadId place index data answer ↔
      system.Stores other uploadId place index data answer := by
  by_cases same : other = number
  · subst same
    exact ⟨fun stores => absurd ((stores_update_self changes).1 stores) (becomes index data),
      fun stores => absurd stores (was index data)⟩
  · exact stores_update_of_ne changes same

end Changes

/-- What an upload has received is kept when neither its chunks nor the calls that have written one
change, and no caller is told of a new one. -/
theorem Receives.of_same (receives : system.Receives uploadId place total told)
    (collects : after.Collects uploadId place total)
    (sending : after.Sending uploadId place)
    (chunks : ∀ index, after.chunk? uploadId index = system.chunk? uploadId index)
    (done : ∀ number index data, after.Stores number uploadId place index data (some (.ok ())) ↔
      system.Stores number uploadId place index data (some (.ok ())))
    (silent : ∀ index, lastStored uploadId index later = lastStored uploadId index told) :
    after.Receives uploadId place total later where
  collects := collects
  sending := sending
  written number index data stores :=
    (chunks index).trans (receives.written number index data ((done number index data).1 stores))
  kept index data last := by
    rw [chunks index]
    refine (receives.kept index data ((silent index).symm.trans last)).imp_right ?_
    rintro ⟨number, newer, stores⟩
    exact ⟨number, newer, (done number index newer).2 stores⟩

/-- When a call has written a chunk, the store holds it, and the call has only to say so. -/
theorem Receives.of_written (receives : system.Receives uploadId place total told)
    (collects : after.Collects uploadId place total)
    (waits : system.Stores number uploadId place index data none)
    (changes : after.flights = Function.update system.flights number
      (some ⟨.store uploadId index data, .store uploadId place index data, some (.ok ())⟩))
    (chunks : ∀ other, after.chunk? uploadId other =
      if index = other then some data else system.chunk? uploadId other) :
    after.Receives uploadId place total told where
  collects := collects
  sending := by
    refine receives.sending.update changes ?_
    rintro held ⟨⟩
    exact ⟨_, _, _, rfl, fun _ _ _ stores => receives.sending.alone stores waits⟩
  written other position content stores := by
    rw [chunks]
    by_cases same : other = number
    · subst same
      cases (stores_update_self changes).1 stores
      exact if_pos rfl
    · have before := (stores_update_of_ne changes same).1 stores
      rw [if_neg, receives.written other position content before]
      rintro rfl
      exact same (receives.sending.alone before waits)
  kept position content last := by
    rw [chunks]
    by_cases same : index = position
    · subst same
      exact Or.inr ⟨number, data, (stores_update_self changes).2 rfl⟩
    · rw [if_neg same]
      refine (receives.kept position content last).imp_right ?_
      rintro ⟨other, newer, stores⟩
      refine ⟨other, newer, (stores_update_of_ne changes ?_).2 stores⟩
      rintro rfl
      cases waits.symm.trans stores

/-- When a call says that it has stored its chunk, that is the chunk that the store holds. -/
theorem Receives.of_recorded (receives : system.Receives uploadId place total told)
    (collects : after.Collects uploadId place total)
    (answered : system.Stores number uploadId place index data (some (.ok ())))
    (changes : after.flights = Function.update system.flights number none)
    (chunks : ∀ other, after.chunk? uploadId other = system.chunk? uploadId other) :
    after.Receives uploadId place total
      (told ++ [.returned number (.store uploadId index data) (.ok .stored)]) where
  collects := collects
  sending := receives.sending.update changes fun _ none => by cases none
  written other position content stores := by
    have differs : other ≠ number := by
      rintro rfl
      cases (stores_update_self changes).1 stores
    rw [chunks]
    exact receives.written other position content ((stores_update_of_ne changes differs).1 stores)
  kept position content last := by
    replace last : ((Notice.returned number (.store uploadId index data) (.ok .stored)).stored?
        uploadId position).or (lastStored uploadId position told) = some content :=
      (lastStored_append_toList uploadId position told (some _)).symm.trans last
    rw [chunks]
    by_cases same : index = position
    · subst same
      rw [Notice.stored?, if_pos ⟨rfl, rfl⟩] at last
      cases last
      exact Or.inl (receives.written number index data answered)
    · rw [Notice.stored?, if_neg fun both => same both.2] at last
      refine (receives.kept position content last).imp_right ?_
      rintro ⟨other, newer, stores⟩
      refine ⟨other, newer, (stores_update_of_ne changes ?_).2 stores⟩
      rintro rfl
      cases answered.symm.trans stores
      exact same rfl

/-- Of what happens aside from an upload nobody is told that one of its chunks is stored. -/
theorem stored?_of_aside (coherent : system.Coherent) (aside : system.Aside uploadId event)
    (index : Nat) :
    (system.step event).2.bind (·.stored? uploadId index) = none := by
  refine Option.eq_none_iff_forall_ne_some.2 fun data stored => ?_
  obtain ⟨notice, told, isStored⟩ := Option.bind_eq_some_iff.1 stored
  obtain ⟨number, rfl⟩ := Notice.stored?_eq_some isStored
  exact coherent.not_returned_of_aside aside rfl _ told

theorem Receives.next_of_aside (receives : system.Receives uploadId place total told)
    (inTime : system.InTime uploadId) (aside : system.Aside uploadId event) :
    (system.next event).Receives uploadId place total (told ++ (system.step event).2.toList) := by
  obtain ⟨session, hosts, pending, free, sized⟩ := receives.collects
  have untouched := hosts.untouched inTime aside
  refine receives.of_same ⟨session, hosts.next (untouched.finds.trans hosts.finds), pending, free, sized⟩
    ⟨fun number works => ?_, fun stores storesSecond => ?_⟩
    untouched.chunks (fun number index data => untouched.stores_iff) fun index => ?_
  · obtain ⟨index, data, answer, stores⟩ :=
      receives.sending.stores number (untouched.worksOn_iff.1 works)
    exact ⟨index, data, answer, untouched.stores_iff.2 stores⟩
  · exact receives.sending.alone (untouched.stores_iff.1 stores) (untouched.stores_iff.1 storesSecond)
  · rw [lastStored_append_toList, stored?_of_aside hosts.coherent aside, Option.none_or]

theorem Receives.next_of_sends (receives : system.Receives uploadId place total told)
    (sends : system.Sends uploadId event) :
    (system.next event).Receives uploadId place total (told ++ (system.step event).2.toList) := by
  obtain ⟨session, hosts, pending, free, sized⟩ := receives.collects
  have delivered := receives.sending.delivers hosts pending sends
  have hostsNext {after : Session}
      (finds : (system.step event).1.coordinator.find uploadId = .ok (place, after)) :
      (system.step event).1.Hosts uploadId place after := hosts.next finds
  change (system.step event).1.Receives uploadId place total (told ++ (system.step event).2.toList)
  generalize system.step event = result at delivered hostsNext
  cases delivered with
  | idles silent =>
    refine receives.of_same ⟨session, hostsNext hosts.finds, pending, free, sized⟩
      ⟨receives.sending.stores, receives.sending.alone⟩ (fun _ => rfl) (fun _ _ _ => Iff.rfl)
      fun index => ?_
    rw [lastStored_append_toList, silent, Option.none_or]
  | asks alone =>
    have fresh {index : Nat} {data : ByteArray} {answer : Option (Outcome Unit)} :
        ¬ system.Stores system.begun uploadId place index data answer :=
      fun stores => Nat.lt_irrefl _ (hosts.coherent.lt_begun stores)
    refine receives.of_same ⟨session, hostsNext hosts.finds, pending, free, sized⟩
      (receives.sending.update rfl ?_) (fun _ => rfl) (fun other _ _ => ?_) fun index => ?_
    · rintro held ⟨⟩
      exact ⟨_, _, _, rfl, fun other second before stores => absurd stores (alone other second before)⟩
    · exact stores_update_iff rfl (fun _ _ => fresh) (fun _ _ same => by cases same) other
    · exact lastStored_append_toList ..
  | misses waits =>
    have unanswered {index : Nat} {data : ByteArray} {answer : Outcome Unit} :
        ¬ system.Stores _ uploadId place index data (some answer) :=
      fun stores => by cases waits.symm.trans stores
    refine receives.of_same ⟨session, hostsNext hosts.finds, pending, free, sized⟩
      (receives.sending.update rfl ?_) (fun _ => rfl) (fun other _ _ => ?_) fun index => ?_
    · rintro held ⟨⟩
      exact ⟨_, _, _, rfl, fun _ _ _ stores => receives.sending.alone stores waits⟩
    · exact stores_update_iff rfl (fun _ _ => unanswered) (fun _ _ same => by cases same) other
    · exact lastStored_append_toList ..
  | fails answered =>
    have failed {index : Nat} {data : ByteArray} :
        ¬ system.Stores _ uploadId place index data (some (.ok ())) :=
      fun stores => by cases answered.symm.trans stores
    refine receives.of_same ⟨session, hostsNext hosts.finds, pending, free, sized⟩
      (receives.sending.update rfl fun _ none => by cases none) (fun _ => rfl) (fun other _ _ => ?_)
      fun index => ?_
    · exact stores_update_iff rfl (fun _ _ => failed) (fun _ _ same => by cases same) other
    · exact lastStored_append_toList ..
  | writes waits =>
    refine cast (congrArg _ (List.append_nil told).symm)
      (receives.of_written ⟨session, hostsNext hosts.finds, pending, free, sized⟩ waits rfl
        fun other => ?_)
    unfold chunk?
    rw [Table.get?_insert]
    simp only [chunkPath_inj hosts.valid hosts.valid, true_and]
  | @records number index data answered =>
    obtain ⟨leads, found⟩ := Coordinator.find_eq_ok.1 hosts.finds
    have finds : (system.coordinator.modify place (·.record index system.clock)).find uploadId =
        .ok (place, session.record index system.clock) :=
      Coordinator.find_eq_ok.2 ⟨leads, Coordinator.session?_modify_self found⟩
    exact receives.of_recorded ⟨session.record index system.clock, hostsNext finds, pending, free, sized⟩
      answered rfl fun _ => rfl

/-- What an upload has received is kept track of by all that happens while its chunks are sent. -/
theorem Receives.run {events : List Event} (receives : system.Receives uploadId place total told)
    (uploading : system.Obeys (Uploading uploadId) events) :
    (system.run events).Receives uploadId place total (told ++ system.notices events) := by
  induction events generalizing system told with
  | nil =>
    rw [notices, List.append_nil]
    exact receives
  | cons event rest inductionHypothesis =>
    obtain ⟨⟨inTime, aside | sends⟩, others⟩ := uploading
    · have after := inductionHypothesis (receives.next_of_aside inTime aside) others
      rwa [List.append_assoc] at after
    · have after := inductionHypothesis (receives.next_of_sends sends) others
      rwa [List.append_assoc] at after

/-! ### An upload from its announcement on -/

/-- The identifier leads nowhere, and no call works on it. -/
structure Unused (system : System) (uploadId : String) : Prop where
  untracked : system.place? uploadId = none
  idle : ∀ number, ¬ system.WorksOn number uploadId

namespace Unused

theorem initial (config : UploadConfig) (store : Memory) (clock : Timestamp) (uploadId : String) :
    (System.initial config store clock).Unused uploadId where
  untracked := rfl
  idle number works := by
    obtain ⟨flight, flies, -⟩ := works
    cases flies

/-- An identifier stays unused as long as it is not announced. -/
theorem next (unused : system.Unused uploadId)
    (unannounced : ∀ user announced, event = .announce user announced → announced.uploadId ≠ uploadId) :
    (system.next event).Unused uploadId where
  untracked := by
    refine Option.eq_none_iff_forall_ne_some.2 fun place leads => ?_
    rcases tracked_next leads with before | ⟨user, announced, isAnnounce, named, -⟩
    · cases unused.untracked.symm.trans before
    · exact unannounced user announced isAnnounce named
  idle number works := by
    obtain ⟨flight, flies, member⟩ := works
    refine flights_next (fun _ flight => uploadId ∉ flight.pending.uploadIds)
      (fun number flight flies _ member => unused.idle number ⟨flight, flies, member⟩)
      (fun _ part member => ?_)
      (fun {number fate call pending} _ waits member => unused.idle number ⟨_, waits, member⟩)
      (fun flies part member => unused.idle _ ⟨_, flies, part.uploadIds_continues member⟩)
      number flight flies member
    obtain ⟨place, session, finds, -⟩ := part.uploadIds_begins member
    cases unused.untracked.symm.trans (Coordinator.find_eq_ok.1 finds).1

theorem run {events : List Event} (unused : system.Unused uploadId)
    (unannounced : ∀ user announced, .announce user announced ∈ events → announced.uploadId ≠ uploadId) :
    (system.run events).Unused uploadId := by
  induction events generalizing system with
  | nil => exact unused
  | cons event rest inductionHypothesis =>
    refine inductionHypothesis (unused.next ?_) fun user announced member =>
      unannounced user announced (List.mem_cons_of_mem _ member)
    rintro user announced rfl
    exact unannounced user announced List.mem_cons_self

end Unused

/-- An announcement of an identifier that leads nowhere makes a session if it is accepted. -/
theorem place?_of_accepted {user : UInt64} {announced : Announcement} {receipt : Receipt}
    (untracked : system.place? announced.uploadId = none)
    (accepted : (system.step (.announce user announced)).2 =
      some (.announced user announced (.ok receipt))) :
    (system.next (.announce user announced)).place? announced.uploadId =
      some system.coordinator.sessions.size := by
  have outcome : (system.coordinator.announce user announced system.clock).2 = .ok receipt := by
    injection accepted with told
    injection told
  have unknown : system.coordinator.find announced.uploadId =
      .error (Refusal.unknown announced.uploadId) := by
    unfold Coordinator.find
    rw [show system.coordinator.tracked.get? announced.uploadId = none from untracked]
  change (system.coordinator.announce user announced system.clock).1.tracked.get? announced.uploadId = _
  unfold Coordinator.announce at outcome ⊢
  split at outcome
  · cases outcome
  · next accepts =>
    rw [unknown]
    exact Coordinator.get?_tracked_track.trans (if_pos rfl)

/-- An upload that has just been announced for the first time has received nothing. -/
theorem receives_of_announced {user : UInt64} {announced : Announcement} {receipt : Receipt}
    (named : system.Named) (tidy : system.Tidy) (coherent : system.Coherent)
    (unused : system.Unused announced.uploadId)
    (accepted : (system.step (.announce user announced)).2 =
      some (.announced user announced (.ok receipt))) :
    (system.next (.announce user announced)).Receives announced.uploadId system.coordinator.sessions.size
      announced.totalChunks.toNat [] ∧ announced.totalChunks.toNat ≠ 0 := by
  have made := place?_of_accepted unused.untracked accepted
  obtain ⟨next, -, nonzero⟩ := next_of_made tidy made
  have idle (number : Nat) :
      ¬ (system.next (.announce user announced)).WorksOn number announced.uploadId := by
    rw [next]
    exact unused.idle number
  refine ⟨⟨⟨_, ⟨named.next _, tidy.next _, coherent.next _, Coordinator.find_eq_ok.2
    ⟨made, session?_of_made tidy made⟩⟩, rfl, rfl, rfl⟩, ⟨?_, ?_⟩, ?_, ?_⟩, nonzero⟩
  · exact fun number works => absurd works (idle number)
  · exact fun stores => absurd stores.worksOn (idle _)
  · exact fun number index data stores => absurd stores.worksOn (idle number)
  · exact fun index data last => by cases last

/-- When no call is at work on an upload any more, the store holds of each chunk what was stored last.
-/
theorem Receives.chunk?_of_idle (receives : system.Receives uploadId place total told)
    (idle : ∀ number < system.begun, ¬ system.WorksOn number uploadId)
    (last : lastStored uploadId index told = some data) : system.chunk? uploadId index = some data := by
  obtain ⟨session, hosts, -⟩ := receives.collects
  refine (receives.kept index data last).resolve_right ?_
  rintro ⟨number, newer, stores⟩
  exact idle number (hosts.coherent.lt_begun stores) stores.worksOn

end System

end Community.Upload
