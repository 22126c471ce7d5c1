/-
This file proves that an upload comes out as it went in. When every chunk of an upload has been stored
and no call is at work on it any more, a merge finds them all and completes the upload, and a read
returns them put together, in the order of their indices and each as it was stored last. Both go
through the chunks one after the other, and whatever happens aside from the upload in the meantime
does not disturb them.
-/

import Community.Proofs.Upload.Arrival

namespace Community.Upload

open Community.Blob

/-- Is the event a part of the call with a number, after its first? -/
def Event.isPartOf (number : Nat) : Event → Bool
  | serve other _ => other = number
  | resume other => other = number
  | tick _ => false
  | announce .. => false
  | begin _ => false
  | sweep _ => false

namespace System

/-- While an upload is in time, a call goes on and other things happen aside from it. -/
def Beside (uploadId : String) (number : Nat) (system : System) (event : Event) : Prop :=
  system.InTime uploadId ∧ (event.isPartOf number ∨ system.Aside uploadId event)

instance (uploadId : String) (number : Nat) (system : System) (event : Event) :
    Decidable (system.Beside uploadId number event) :=
  inferInstanceAs (Decidable (_ ∧ (_ ∨ _)))

/-- A call begins on an upload that is in time, and in the course of some events it is given so many
rounds. -/
def Performs (system : System) (uploadId : String) (call : Call) (count : Nat) (rest : List Event) :
    Prop :=
  system.InTime uploadId ∧ rest.filter (·.isPartOf system.begun) = rounds system.begun count ∧
    (system.next (.begin call)).Obeys (Beside uploadId system.begun) rest

instance (system : System) (uploadId : String) (call : Call) (count : Nat) (rest : List Event) :
    Decidable (system.Performs uploadId call count rest) :=
  inferInstanceAs (Decidable (_ ∧ _ ∧ _))

/-- An identifier leads to a session, and the store holds certain chunks for it. -/
structure Keeps (system : System) (uploadId : String) (place : SessionId) (session : Session)
    (chunks : List ByteArray) : Prop where
  hosts : system.Hosts uploadId place session
  stored : AllAllowed (fun index chunk => system.chunk? uploadId index = some chunk) chunks

end System

/-- How a call goes through the chunks of an upload: where it stands at each index, and what it is
answered there. -/
structure Scan (uploadId : String) (chunks : List ByteArray) where
  stand : Nat → Pending
  answer : (index : Nat) → Outcome (stand index).request.Answer
  about : ∀ index, uploadId ∈ (stand index).uploadIds
  answers : ∀ {system : System} {index : Nat} {chunk : ByteArray}, isValidId uploadId →
    chunks[index]? = some chunk → system.chunk? uploadId index = some chunk →
      system.store.answer (stand index).request = (system.store, answer index)
  further : ∀ (books : Coordinator) (now : Timestamp) (index : Nat), index + 1 < chunks.length →
    books.resume now (stand index) (answer index) = (books, .waiting (stand (index + 1)))

namespace Scan

/-- A merge asks for each chunk whether it is there. -/
def merge (uploadId : String) (place : SessionId) (chunks : List ByteArray) : Scan uploadId chunks where
  stand index := .merge uploadId place chunks.length index []
  answer _ := .ok true
  about _ := List.mem_cons_self
  answers valid _ there := System.answer_contains valid there
  further _ _ _ further := if_pos further

/-- A read fetches each chunk and puts it after those before. -/
def read (uploadId : String) (chunks : List ByteArray) : Scan uploadId chunks where
  stand index := .read uploadId chunks.length index (assemble (chunks.take index))
  answer index := .ok (chunks[index]?.getD .empty)
  about _ := List.mem_cons_self
  answers valid isChunk there := by
    rw [isChunk]
    exact System.answer_fetch valid there
  further books now index further := by
    have within := Nat.lt_of_succ_lt further
    refine (if_pos further).trans ?_
    rw [List.getElem?_eq_getElem within, Option.getD_some, ← assemble_append, List.take_append_getElem]

variable {uploadId : String} {chunks : List ByteArray}

/-- The call with a number goes through the chunks, and these are the events by which it has still to
do so. -/
inductive Stands (scan : Scan uploadId chunks) (system : System) (number : Nat) (call : Call) :
    List Event → Prop
  | waits {index left : Nat} (enough : index + (left + 1) = chunks.length)
      (flies : system.flights number = some ⟨call, scan.stand index, none⟩) :
      Stands scan system number call (System.rounds number (left + 1))
  | answered {index left : Nat} (enough : index + (left + 1) = chunks.length)
      (flies : system.flights number = some ⟨call, scan.stand index, some (scan.answer index)⟩) :
      Stands scan system number call (.resume number :: System.rounds number left)

/-- In the course of some events the call with a number comes to the last chunk and has its answer
there, and whatever follows its last part is aside from the upload. -/
def Finishes (scan : Scan uploadId chunks) (system : System) (place : SessionId) (session : Session)
    (number : Nat) (call : Call) (rest : List Event) : Prop :=
  ∃ earlier later last, rest = earlier ++ .resume number :: later ∧
    (system.run earlier).Keeps uploadId place session chunks ∧ (system.run earlier).InTime uploadId ∧
    last + 1 = chunks.length ∧
    (system.run earlier).flights number = some ⟨call, scan.stand last, some (scan.answer last)⟩ ∧
    ((system.run earlier).next (.resume number)).Obeys (System.Aside uploadId) later

theorem Finishes.cons {scan : Scan uploadId chunks} {system : System} {place : SessionId}
    {session : Session} {number : Nat} {call : Call} {event : Event} {rest : List Event}
    (finishes : scan.Finishes (system.next event) place session number call rest) :
    scan.Finishes system place session number call (event :: rest) := by
  obtain ⟨earlier, later, last, rfl, found⟩ := finishes
  exact ⟨event :: earlier, later, last, rfl, found⟩

end Scan

namespace System

variable {system : System} {event : Event} {events rest remaining : List Event} {uploadId : String}
  {place : SessionId} {session : Session} {chunks : List ByteArray} {number : Nat} {call : Call}

/-! ### Aside from an upload -/

theorem Keeps.next_of_aside (keeps : system.Keeps uploadId place session chunks)
    (inTime : system.InTime uploadId) (aside : system.Aside uploadId event) :
    (system.next event).Keeps uploadId place session chunks := by
  have untouched := keeps.hosts.untouched inTime aside
  refine ⟨keeps.hosts.next (untouched.finds.trans keeps.hosts.finds), fun index chunk isChunk => ?_⟩
  exact (untouched.chunks index).trans (keeps.stored index chunk isChunk)

/-- A completed upload stays as it is, whatever happens aside from it. -/
theorem Keeps.run_of_completed (keeps : system.Keeps uploadId place session chunks)
    (completed : session.status = .completed) (aside : system.Obeys (Aside uploadId) events) :
    (system.run events).Keeps uploadId place session chunks := by
  have each {system : System} {event : Event} (keeps : system.Keeps uploadId place session chunks)
      (aside : system.Aside uploadId event) :
      (system.next event).Keeps uploadId place session chunks := by
    refine keeps.next_of_aside (keeps.hosts.inTime_iff.2 ?_) aside
    unfold Session.isAbandoned
    rw [completed]
  exact Obeys.keeps each keeps aside

/-- When no part of a call is left, all that happens beside it happens aside from the upload. -/
theorem aside_of_beside (beside : system.Obeys (Beside uploadId number) rest)
    (ended : rest.filter (·.isPartOf number) = []) : system.Obeys (Aside uploadId) rest := by
  induction rest generalizing system with
  | nil => trivial
  | cons event others inductionHypothesis =>
    obtain ⟨⟨-, either⟩, besideOthers⟩ := beside
    by_cases isPart : event.isPartOf number
    · rw [List.filter_cons_of_pos isPart] at ended
      cases ended
    · rw [List.filter_cons_of_neg isPart] at ended
      exact ⟨either.resolve_left isPart, inductionHypothesis besideOthers ended⟩

/-! ### Going through the chunks -/

/-- A call that goes through the chunks comes to the last one and has its answer, whatever happens
beside it. -/
theorem Keeps.finishes (keeps : system.Keeps uploadId place session chunks)
    (scan : Scan uploadId chunks) (stands : scan.Stands system number call remaining)
    (own : rest.filter (·.isPartOf number) = remaining)
    (beside : system.Obeys (Beside uploadId number) rest) :
    scan.Finishes system place session number call rest := by
  induction rest generalizing system remaining with
  | nil =>
    cases own
    cases stands
  | cons event others inductionHypothesis =>
    obtain ⟨⟨inTime, either⟩, besideOthers⟩ := beside
    have goesOn {left : List Event} (keepsNext : (system.next event).Keeps uploadId place session chunks)
        (standsNext : scan.Stands (system.next event) number call left)
        (ownNext : others.filter (·.isPartOf number) = left) :
        scan.Finishes system place session number call (event :: others) :=
      .cons (inductionHypothesis keepsNext standsNext ownNext besideOthers)
    by_cases isPart : event.isPartOf number
    · rw [List.filter_cons_of_pos isPart] at own
      cases stands with
      | @waits index left enough flies =>
        obtain ⟨rfl, ownNext⟩ := List.cons.inj own
        have within : index < chunks.length := by omega
        have met := scan.answers keeps.hosts.valid (List.getElem?_eq_getElem within)
          (keeps.stored index _ (List.getElem?_eq_getElem within))
        have serves := next_serve flies .answered
        dsimp only [Fate.meet] at serves
        rw [met] at serves
        refine goesOn ⟨keeps.hosts.next ?_, fun position chunk isChunk => ?_⟩ (.answered enough ?_)
          ownNext
        · rw [serves]
          exact keeps.hosts.finds
        · rw [serves]
          exact keeps.stored position chunk isChunk
        · rw [serves]
          exact Function.update_self ..
      | @answered index left enough flies =>
        obtain ⟨rfl, ownNext⟩ := List.cons.inj own
        cases left with
        | zero =>
          have aside := aside_of_beside besideOthers ownNext
          exact ⟨[], others, index, rfl, keeps, inTime, enough, flies, aside⟩
        | succ left =>
          have resumes := next_resume flies
          rw [scan.further _ _ _ (by omega)] at resumes
          refine goesOn ⟨keeps.hosts.next ?_, fun position chunk isChunk => ?_⟩
            (.waits (by omega : index + 1 + (left + 1) = chunks.length) ?_) ownNext
          · rw [resumes]
            exact keeps.hosts.finds
          · rw [resumes]
            exact keeps.stored position chunk isChunk
          · rw [resumes]
            exact Function.update_self ..
    · rw [List.filter_cons_of_neg isPart] at own
      have aside := either.resolve_left isPart
      have untouched := keeps.hosts.untouched inTime aside
      have works {index : Nat} {answer : Option (Outcome (scan.stand index).request.Answer)}
          (flies : system.flights number = some ⟨call, scan.stand index, answer⟩) :
          (system.next event).flights number = some ⟨call, scan.stand index, answer⟩ :=
        (untouched.flights number (Or.inl ⟨_, flies, scan.about index⟩)).trans flies
      refine goesOn (keeps.next_of_aside inTime aside) ?_ own
      cases stands with
      | waits enough flies => exact .waits enough (works flies)
      | answered enough flies => exact .answered enough (works flies)

/-- So does a call that begins by asking for the first one and is given a round for each. -/
theorem Keeps.finishes_of_performs (keeps : system.Keeps uploadId place session chunks)
    (scan : Scan uploadId chunks) (nonempty : chunks ≠ [])
    (opens : system.coordinator.begin system.clock call = (system.coordinator, .waiting (scan.stand 0)))
    (performs : system.Performs uploadId call chunks.length rest) :
    scan.Finishes system place session system.begun call (.begin call :: rest) := by
  obtain ⟨-, own, beside⟩ := performs
  have begins : system.next (.begin call) = { system with
      begun := system.begun + 1
      flights := Function.update system.flights system.begun (some ⟨call, scan.stand 0, none⟩) } := by
    unfold next step
    dsimp only
    rw [opens]
    rfl
  obtain ⟨left, isSucc⟩ := Nat.exists_eq_succ_of_ne_zero (Nat.ne_of_gt (List.length_pos_iff.2 nonempty))
  have keepsNext : (system.next (.begin call)).Keeps uploadId place session chunks := by
    refine ⟨keeps.hosts.next ?_, fun index chunk isChunk => ?_⟩
    · rw [begins]
      exact keeps.hosts.finds
    · rw [begins]
      exact keeps.stored index chunk isChunk
  have stands : scan.Stands (system.next (.begin call)) system.begun call
      (rounds system.begun chunks.length) := by
    rw [isSucc]
    refine .waits ((Nat.zero_add _).trans isSucc.symm) ?_
    rw [begins]
    exact Function.update_self ..
  exact (keepsNext.finishes scan stands own beside).cons

/-- What a call returns by an event is told in every run that comes by it. -/
theorem mem_notices_of_step {earlier later : List Event} {notice : Notice}
    (told : ((system.run earlier).step event).2 = some notice) :
    notice ∈ system.notices (earlier ++ event :: later) := by
  rw [notices_append]
  refine List.mem_append_right _ (List.mem_append_left _ ?_)
  rw [told]
  exact List.mem_cons_self

/-- A merge of a pending upload completes it if the store holds all of its chunks. -/
theorem Keeps.merged (keeps : system.Keeps uploadId place session chunks) (nonempty : chunks ≠ [])
    (pending : session.status = .pending) (free : session.purging = false)
    (sized : session.totalChunks = chunks.length)
    (performs : system.Performs uploadId (.merge uploadId) chunks.length rest) :
    (∃ completed : Session, completed.status = .completed ∧ completed.totalChunks = chunks.length ∧
      (system.run (.begin (.merge uploadId) :: rest)).Keeps uploadId place completed chunks) ∧
    ∃ reference : Reference, reference.totalChunks = chunks.length ∧
      .returned system.begun (.merge uploadId) (.ok (.merged reference)) ∈
        system.notices (.begin (.merge uploadId) :: rest) := by
  have accepts {now : Timestamp} (timely : session.isAbandoned now = false) :
      session.refusal? now = none := by
    refine Session.refusal?_eq_none.2 ⟨free, Session.isLive_iff.2 ⟨pending, fun expired => ?_⟩⟩
    unfold Session.isAbandoned at timely
    rw [pending] at timely
    cases expired.symm.trans timely
  have opens : system.coordinator.begin system.clock (.merge uploadId) =
      (system.coordinator, .waiting ((Scan.merge uploadId place chunks).stand 0)) := by
    have accepted := accepts (keeps.hosts.inTime_iff.1 performs.1)
    refine (beginMerge_of_accepts keeps.hosts.finds accepted).trans ?_
    rw [sized]
    rfl
  obtain ⟨earlier, later, last, split, keepsLast, inTime, isLast, answered, aside⟩ :=
    keeps.finishes_of_performs (Scan.merge uploadId place chunks) nonempty opens performs
  obtain ⟨leads, found⟩ := Coordinator.find_eq_ok.1 keepsLast.hosts.finds
  have ends : (system.run earlier).coordinator.resume (system.run earlier).clock
      ((Scan.merge uploadId place chunks).stand last) ((Scan.merge uploadId place chunks).answer last) =
      ((system.run earlier).coordinator.modify place (·.complete (system.run earlier).clock),
        .done (.ok (.merged ((system.run earlier).coordinator.reference
          (session.complete (system.run earlier).clock))))) :=
    (if_neg (Nat.not_lt.2 (Nat.le_of_eq isLast.symm))).trans
      (finishMerge_of_accepts found (accepts (keepsLast.hosts.inTime_iff.1 inTime)))
  have completes := step_resume answered
  rw [ends] at completes
  constructor
  · refine ⟨session.complete (system.run earlier).clock, rfl, sized, ?_⟩
    rw [split, run_append]
    change (((system.run earlier).next (.resume system.begun)).run later).Keeps uploadId place _ chunks
    refine Keeps.run_of_completed ⟨keepsLast.hosts.next ?_, fun index chunk isChunk => ?_⟩ rfl aside
    · rw [next, completes]
      exact Coordinator.find_eq_ok.2 ⟨leads, Coordinator.session?_modify_self found⟩
    · rw [next, completes]
      exact keepsLast.stored index chunk isChunk
  · refine ⟨(system.run earlier).coordinator.reference
      (session.complete (system.run earlier).clock), sized, ?_⟩
    rw [split]
    exact mem_notices_of_step (congrArg Prod.snd completes)

/-- A read of a completed upload returns its chunks put together if the store holds all of them. -/
theorem Keeps.read (keeps : system.Keeps uploadId place session chunks) (nonempty : chunks ≠ [])
    (completed : session.status = .completed) (sized : session.totalChunks = chunks.length)
    (performs : system.Performs uploadId (.read uploadId) chunks.length rest) :
    .returned system.begun (.read uploadId) (.ok (.assembled (assemble chunks))) ∈
      system.notices (.begin (.read uploadId) :: rest) := by
  have opens : system.coordinator.begin system.clock (.read uploadId) =
      (system.coordinator, .waiting ((Scan.read uploadId chunks).stand 0)) := by
    dsimp only [Coordinator.begin]
    unfold Coordinator.beginRead
    rw [keeps.hosts.finds]
    dsimp only
    rw [if_pos completed, sized, if_neg (Nat.ne_of_gt (List.length_pos_iff.2 nonempty))]
    rfl
  obtain ⟨earlier, later, last, split, keepsLast, -, isLast, answered, -⟩ :=
    keeps.finishes_of_performs (Scan.read uploadId chunks) nonempty opens performs
  have ends : (system.run earlier).coordinator.resume (system.run earlier).clock
      ((Scan.read uploadId chunks).stand last) ((Scan.read uploadId chunks).answer last) =
      ((system.run earlier).coordinator, .done (.ok (.assembled (assemble chunks)))) := by
    refine (if_neg (Nat.not_lt.2 (Nat.le_of_eq isLast.symm))).trans ?_
    have within : last < chunks.length := Nat.lt_of_lt_of_eq (Nat.lt_succ_self last) isLast
    rw [List.getElem?_eq_getElem within, Option.getD_some, ← assemble_append, List.take_append_getElem,
      isLast, List.take_length]
  have returns := step_resume answered
  rw [ends] at returns
  rw [split]
  exact mem_notices_of_step (congrArg Prod.snd returns)

/-! ### From the announcement to the read -/

/-- An identifier is announced that has not been announced before, and then every chunk of the upload
is stored at least once, in any order, with failures and repetitions, while anything may happen aside
from the upload. If the upload is in time and nobody cancels it, a merge returns its number of chunks,
and a read returns the chunks put together, in the order of their indices and each as it was stored
last. -/
theorem uploaded_chunks_assembled (config : UploadConfig) (store : Memory) (clock : Timestamp)
    (earlier uploading merging between reading : List Event) (user : UInt64) (announced : Announcement)
    (receipt : Receipt) :
    let uploadId := announced.uploadId
    let total := announced.totalChunks.toNat
    let before := (initial config store clock).run earlier
    let opened := before.next (.announce user announced)
    let told := opened.notices uploading
    let full := opened.run uploading
    let merged := full.run (.begin (.merge uploadId) :: merging)
    let later := merged.run between
    (∀ other announcement, .announce other announcement ∈ earlier → announcement.uploadId ≠ uploadId) →
    (before.step (.announce user announced)).2 = some (.announced user announced (.ok receipt)) →
    opened.Obeys (Uploading uploadId) uploading →
    (∀ number < full.begun, ¬ full.WorksOn number uploadId) →
    (∀ index < total, (lastStored uploadId index told).isSome) →
    full.Performs uploadId (.merge uploadId) total merging →
    merged.Obeys (Aside uploadId) between →
    later.Performs uploadId (.read uploadId) total reading →
    ∃ reference chunks, reference.totalChunks = total ∧
      .returned full.begun (.merge uploadId) (.ok (.merged reference)) ∈
        full.notices (.begin (.merge uploadId) :: merging) ∧
      chunks.length = total ∧ (∀ index < total, chunks[index]? = lastStored uploadId index told) ∧
      .returned later.begun (.read uploadId) (.ok (.assembled (assemble chunks))) ∈
        later.notices (.begin (.read uploadId) :: reading) := by
  intro uploadId total before opened told full merged later
    unused accepted sends idle sent merges aside reads
  obtain ⟨receives, nonzero⟩ := receives_of_announced ((Named.initial config store clock).run earlier)
    ((Tidy.initial config store clock).run earlier) ((Coherent.initial config store clock).run earlier)
    ((Unused.initial config store clock uploadId).run unused) accepted
  have receivesAll : full.Receives uploadId _ total told := receives.run sends
  obtain ⟨session, hosts, pending, free, sized⟩ := receivesAll.collects
  obtain ⟨chunks, length, last⟩ :=
    exists_allAllowed fun index within => Option.isSome_iff_exists.1 (sent index within)
  have nonempty : chunks ≠ [] := by
    rintro rfl
    exact nonzero length.symm
  have keeps : full.Keeps uploadId _ session chunks :=
    ⟨hosts, fun index chunk isChunk => receivesAll.chunk?_of_idle idle (last index chunk isChunk)⟩
  rw [← length] at merges reads
  obtain ⟨⟨completed, isCompleted, sizedMerged, keepsMerged⟩, reference, sizedReference, toldMerged⟩ :=
    keeps.merged nonempty pending free (sized.trans length.symm) merges
  have keepsLater := keepsMerged.run_of_completed isCompleted aside
  have toldRead := keepsLater.read nonempty isCompleted sizedMerged reads
  refine ⟨reference, chunks, sizedReference.trans length, toldMerged, length, fun index within => ?_,
    toldRead⟩
  have isChunk := List.getElem?_eq_getElem (length ▸ within : index < chunks.length)
  exact isChunk.trans (last index _ isChunk).symm

/-- The last chunk is sent first and the first one after a failure, both are written side by side, and
the last one again. A sweep and an upload of another user, which is merged in the meantime, go on
aside from this, and the upload is read when it would have expired. -/
theorem uploaded_chunks_assembled_resent :
    let earlier : List Event := [.announce 7 ⟨"v", "g", 1, 1⟩, .begin (.store "v" 0 "z".toUTF8)]
    let uploading : List Event :=
      [.begin (.store "u" 1 "x".toUTF8), .serve 0 .answered, .serve 1 .answered, .resume 0, .resume 1,
        .begin (.store "u" 0 "a".toUTF8), .serve 2 (.refused (.storage "full")), .resume 2, .sweep [],
        .begin (.store "u" 0 "a".toUTF8), .begin (.store "u" 1 "b".toUTF8), .serve 5 .answered,
        .tick ⟨999⟩, .serve 4 .answered, .resume 4, .resume 5]
    let merging : List Event :=
      [.serve 6 .answered, .begin (.merge "v"), .resume 6, .serve 7 .answered, .serve 6 .answered,
        .resume 6]
    let between : List Event := [.tick ⟨1000⟩, .resume 7]
    let reading : List Event :=
      [.serve 8 .answered, .begin .sweep, .resume 8, .announce 3 ⟨"w", "h", 1, 1⟩, .serve 8 .answered,
        .resume 8]
    let before := (initial { sessionTtl := ⟨1000⟩ } {} ⟨0⟩).run earlier
    let opened := before.next (.announce 1 ⟨"u", "f", 2, 2⟩)
    let full := opened.run uploading
    let later := (full.run (.begin (.merge "u") :: merging)).run between
    ∃ reference : Reference, reference.totalChunks = 2 ∧
      .returned 6 (.merge "u") (.ok (.merged reference)) ∈
        full.notices (.begin (.merge "u") :: merging) ∧
      .returned 8 (.read "u") (.ok (.assembled "ab".toUTF8)) ∈
        later.notices (.begin (.read "u") :: reading) := by
  intro earlier uploading merging between reading before opened full later
  have unused : ∀ other announcement, .announce other announcement ∈ earlier →
      announcement.uploadId ≠ "u" := by
    intro other announcement member
    simp only [earlier, List.mem_cons, Event.announce.injEq, reduceCtorEq, List.not_mem_nil,
      or_false] at member
    obtain ⟨-, rfl⟩ := member
    decide
  have accepted : (before.step (.announce 1 ⟨"u", "f", 2, 2⟩)).2 =
      some (.announced 1 ⟨"u", "f", 2, 2⟩ (.ok ⟨"u", [], 2097152⟩)) := by decide +kernel
  have sends : opened.Obeys (Uploading "u") uploading := by decide +kernel
  have idle : ∀ number < full.begun, ¬ full.WorksOn number "u" := by decide +kernel
  have sent : ∀ index < 2, (lastStored "u" index (opened.notices uploading)).isSome := by decide +kernel
  have merges : full.Performs "u" (.merge "u") 2 merging := by decide +kernel
  have aside : (full.run (.begin (.merge "u") :: merging)).Obeys (Aside "u") between := by decide +kernel
  have reads : later.Performs "u" (.read "u") 2 reading := by decide +kernel
  obtain ⟨reference, chunks, sized, merged, length, last, read⟩ :=
    uploaded_chunks_assembled { sessionTtl := ⟨1000⟩ } {} ⟨0⟩ earlier uploading merging between reading 1
      ⟨"u", "f", 2, 2⟩ ⟨"u", [], 2097152⟩ unused accepted sends idle sent merges aside reads
  have two : chunks.length = 2 := length
  have first : lastStored "u" 0 (opened.notices uploading) = some "a".toUTF8 := by decide +kernel
  have second : lastStored "u" 1 (opened.notices uploading) = some "b".toUTF8 := by decide +kernel
  have isChunks : chunks = ["a".toUTF8, "b".toUTF8] := by
    refine List.ext_getElem? fun index => ?_
    rcases index with _ | _ | index
    · exact (last 0 (by decide)).trans first
    · exact (last 1 (by decide)).trans second
    · exact List.getElem?_eq_none (by omega)
  have bytes : assemble ["a".toUTF8, "b".toUTF8] = "ab".toUTF8 := by decide +kernel
  have six : full.begun = 6 := by decide +kernel
  have eight : later.begun = 8 := by decide +kernel
  rw [isChunks, bytes] at read
  exact ⟨reference, sized, six ▸ merged, eight ▸ read⟩

end System

end Community.Upload
