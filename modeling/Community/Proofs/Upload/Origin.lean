/-
This file proves where the bytes come from that a read returns. A new session finds the store as it is: what an
earlier session of the same identifier left behind stays there, and what was being written for it still
arrives. Completion looks for the chunks in the store and not in the books, so a chunk of an earlier session
can stand in for one that was never sent, and where all are left behind none needs to be sent. Each chunk that
is read was either sent after the session was made, or it was in the store at that moment or on its way there.
-/

import Mathlib.Data.List.Induction
import Community.Proofs.Upload.Orderly
import Community.Proofs.Upload.Reading

namespace Community.Upload

open Community.Blob

namespace System

/-- Where a chunk can come from when some events have happened to a system: it was sent to be stored by one of
them, or the store held it before, or it waited to be written before. -/
def Origin (before : System) (later : List Event) (uploadId : String) (index : Nat)
    (chunk : ByteArray) : Prop :=
  .begin (.store uploadId index chunk) ∈ later ∨ before.chunk? uploadId index = some chunk ∨
    ∃ number, before.Writes number uploadId index chunk

variable {system before : System} {event : Event} {earlier later : List Event} {uploadId : String}
  {index number : Nat} {chunk : ByteArray}

theorem Origin.mono (origin : before.Origin earlier uploadId index chunk)
    (among : .begin (.store uploadId index chunk) ∈ earlier →
      .begin (.store uploadId index chunk) ∈ later) :
    before.Origin later uploadId index chunk :=
  origin.imp_left among

/-- A call that waits for a chunk to be written has just begun or has waited before. -/
theorem writes_next (writes : (system.next event).Writes number uploadId index chunk) :
    event = .begin (.store uploadId index chunk) ∨ system.Writes number uploadId index chunk := by
  obtain ⟨call, place, flies⟩ := writes
  suffices ∀ number flight, (system.next event).flights number = some flight →
      ∀ call place, flight = ⟨call, .store uploadId place index chunk, none⟩ →
        event = .begin (.store uploadId index chunk) ∨ system.Writes number uploadId index chunk from
    this number _ flies call place rfl
  refine flights_next _ ?_ ?_ ?_ ?_
  · rintro number flight flew - call place rfl
    exact Or.inr ⟨call, place, flew⟩
  · rintro call books pending opens part same place equal
    cases equal
    cases part with
    | storeBegins found accepts inRange =>
      cases event <;> cases opens
      exact Or.inl rfl
  · rintro number fate call pending - - same place equal
    cases equal
  · rintro number ⟨call, held, answer⟩ books pending - part same place equal
    cases equal
    cases part

/-- Whatever happens, each chunk in the store and each chunk that waits to be written comes from somewhere. -/
theorem origin_of_run (tidy : before.Tidy) (valid : isValidId uploadId) (later : List Event) :
    (∀ index chunk, (before.run later).chunk? uploadId index = some chunk →
        before.Origin later uploadId index chunk) ∧
      ∀ number index chunk, (before.run later).Writes number uploadId index chunk →
        before.Origin later uploadId index chunk := by
  induction later using List.reverseRecOn with
  | nil =>
    exact ⟨fun index chunk there => Or.inr (Or.inl there),
      fun number index chunk writes => Or.inr (Or.inr ⟨number, writes⟩)⟩
  | append_singleton earlier event inductionHypothesis =>
    obtain ⟨stored, waiting⟩ := inductionHypothesis
    have runs : before.run (earlier ++ [event]) = (before.run earlier).next event :=
      run_append before earlier [event]
    rw [runs]
    refine ⟨fun index chunk there => ?_, fun number index chunk writes => ?_⟩
    · rcases (tidy.run earlier).chunk?_next valid index event with
        same | ⟨number, fate, -, ⟨data, writes, written⟩ | ⟨-, removed⟩⟩
      · exact (stored index chunk (same.symm.trans there)).mono (List.mem_append_left _)
      · cases written.symm.trans there
        exact (waiting number index chunk writes).mono (List.mem_append_left _)
      · cases removed.symm.trans there
    · rcases writes_next writes with rfl | writes
      · exact Or.inl (List.mem_append_right _ List.mem_cons_self)
      · exact (waiting number index chunk writes).mono (List.mem_append_left _)

/-- An announcement after which the identifier leads to a new session has been accepted. -/
theorem next_of_made (tidy : before.Tidy) {user : UInt64} {announced : Announcement}
    (made : (before.next (.announce user announced)).place? announced.uploadId =
      some before.coordinator.sessions.size) :
    before.next (.announce user announced) = { before with
        coordinator := before.coordinator.track
          (before.coordinator.freshSession user announced before.clock) } ∧
      isValidId announced.uploadId ∧ announced.totalChunks.toNat ≠ 0 := by
  have announces : before.next (.announce user announced) = { before with
      coordinator := (before.coordinator.announce user announced before.clock).1 } := rfl
  rw [announces] at made ⊢
  rcases before.coordinator.announce_cases user announced with same | ⟨equal, valid, nonzero, -⟩
  · have tracked : before.place? announced.uploadId = some before.coordinator.sessions.size :=
      (congrArg (·.tracked.get? announced.uploadId) same).symm.trans made
    exact absurd (tidy.tracked _ _ tracked).2 (Nat.lt_irrefl _)
  · rw [equal]
    exact ⟨rfl, valid, nonzero⟩

theorem session?_of_made (tidy : before.Tidy) {user : UInt64} {announced : Announcement}
    (made : (before.next (.announce user announced)).place? announced.uploadId =
      some before.coordinator.sessions.size) :
    (before.next (.announce user announced)).coordinator.session? before.coordinator.sessions.size =
      some (before.coordinator.freshSession user announced before.clock) := by
  rw [(next_of_made tidy made).1]
  exact Coordinator.session?_track.trans (if_pos rfl)

/-! ### Chunks that are left behind -/

theorem answer_contains (valid : isValidId uploadId)
    (there : system.chunk? uploadId index = some chunk) :
    system.store.answer (.contains (chunkPath uploadId index)) =
      (system.store, .ok true) := by
  unfold chunk? at there
  dsimp only [Memory.answer]
  rw [canonical_chunkPath valid]
  dsimp only [Except.map, Table.contains]
  rw [there]
  rfl

theorem beginMerge_of_accepts {books : Coordinator} {now : Timestamp} {place : SessionId}
    {session : Session} (finds : books.find uploadId = .ok (place, session))
    (accepts : session.refusal? now = none) :
    books.beginMerge now uploadId =
      (books, .waiting (.merge uploadId place session.totalChunks 0 [])) := by
  unfold Coordinator.beginMerge
  simp only [finds, if_neg (Session.not_completed_of_accepts accepts), accepts]

theorem step_round_merge {place : SessionId} {call : Call} {total : Nat} (valid : isValidId uploadId)
    (there : system.chunk? uploadId index = some chunk)
    (waits : system.flights number = some ⟨call, .merge uploadId place total index [], none⟩) :
    ∃ flights, (system.next (.serve number .answered)).step (.resume number) =
      { system with flights }.settle number call (system.coordinator.continueMerge system.clock
        uploadId place total index [] (.ok true)) :=
  step_round waits (answer_contains valid there)

theorem finishMerge_of_accepts {books : Coordinator} {now : Timestamp} {place : SessionId}
    {session : Session} (found : books.session? place = some session)
    (accepts : session.refusal? now = none) :
    books.finishMerge now uploadId place [] = (books.modify place (·.complete now),
      .done (.ok (.merged (books.reference (session.complete now))))) := by
  unfold Coordinator.finishMerge
  simp only [ne_eq, not_true_eq_false, if_false, found,
    if_neg (Session.not_completed_of_accepts accepts), accepts]

/-- A completion that nothing disturbs completes the upload if its chunks are there, whoever sent them. -/
theorem run_rounds_merge {place : SessionId} {session : Session} {call : Call} {total count : Nat}
    (valid : isValidId uploadId)
    (there : ∀ index < total, ∃ chunk, system.chunk? uploadId index = some chunk)
    (found : system.coordinator.session? place = some session)
    (accepts : session.refusal? system.clock = none)
    (enough : index + (count + 1) = total)
    (waits : system.flights number = some ⟨call, .merge uploadId place total index [], none⟩) :
    ∃ flights, system.run (rounds number (count + 1)) = { system with
        coordinator := system.coordinator.modify place (·.complete system.clock)
        flights } := by
  induction count generalizing system index with
  | zero =>
    obtain ⟨chunk, here⟩ := there index (by omega)
    obtain ⟨flights, round⟩ := step_round_merge valid here waits
    have last : ¬ index + 1 < total := by omega
    have ends : system.coordinator.continueMerge system.clock uploadId place total index []
        (.ok true) = system.coordinator.finishMerge system.clock uploadId place [] := if_neg last
    rw [ends, finishMerge_of_accepts found accepts] at round
    exact ⟨Function.update flights number none, congrArg Prod.fst round⟩
  | succ count inductionHypothesis =>
    obtain ⟨chunk, here⟩ := there index (by omega)
    obtain ⟨flights, round⟩ := step_round_merge valid here waits
    have further : index + 1 < total := by omega
    have goesOn : system.coordinator.continueMerge system.clock uploadId place total index []
        (.ok true) = (system.coordinator, .waiting (.merge uploadId place total (index + 1) [])) :=
      if_pos further
    rw [goesOn] at round
    obtain ⟨remaining, ends⟩ := @inductionHypothesis { system with
        flights := Function.update flights number
          (some ⟨call, .merge uploadId place total (index + 1) [], none⟩) }
      (index + 1) there found accepts (by omega) (Function.update_self ..)
    refine ⟨remaining, ?_⟩
    change ((system.next (.serve number .answered)).step (.resume number)).1.run
      (rounds number (count + 1)) = _
    rw [round]
    exact ends

theorem run_lone_merge {place : SessionId} {session : Session} (valid : isValidId uploadId)
    (there : ∀ index < session.totalChunks, ∃ chunk, system.chunk? uploadId index = some chunk)
    (finds : system.coordinator.find uploadId = .ok (place, session))
    (accepts : session.refusal? system.clock = none) (nonzero : session.totalChunks ≠ 0) :
    ∃ flights, system.run (.begin (.merge uploadId) :: rounds system.begun session.totalChunks) =
      { system with
        coordinator := system.coordinator.modify place (·.complete system.clock)
        begun := system.begun + 1
        flights } := by
  have found := (Coordinator.find_eq_ok.1 finds).2
  obtain ⟨count, isSucc⟩ := Nat.exists_eq_succ_of_ne_zero nonzero
  have begins : system.next (.begin (.merge uploadId)) =
      (system.enter (.merge uploadId) (system.coordinator.beginMerge system.clock uploadId)).1 := rfl
  rw [beginMerge_of_accepts finds accepts] at begins
  have steps : rounds system.begun session.totalChunks = rounds system.begun (count + 1) :=
    congrArg _ isSucc
  have enough : 0 + (count + 1) = session.totalChunks := (Nat.zero_add _).trans isSucc.symm
  rw [run, begins, steps]
  exact @run_rounds_merge (system.enter (.merge uploadId) _).1 uploadId 0 system.begun place session _ _
    count valid there found accepts enough (Function.update_self ..)

/-- A new session of which all chunks were left behind is completed without a chunk being sent for it, and it
reads as those chunks. -/
theorem readsAs_of_left_behind (tidy : before.Tidy) {user : UInt64} {announced : Announcement}
    {chunks : List ByteArray}
    (made : (before.next (.announce user announced)).place? announced.uploadId =
      some before.coordinator.sessions.size)
    (live : (before.coordinator.freshSession user announced before.clock).isLive before.clock)
    (enough : chunks.length = announced.totalChunks.toNat)
    (there : AllAllowed (fun index chunk => before.chunk? announced.uploadId index = some chunk)
      chunks) :
    ((before.next (.announce user announced)).run
      (.begin (.merge announced.uploadId) :: rounds before.begun chunks.length)).ReadsAs
        announced.uploadId (assemble chunks) := by
  obtain ⟨-, valid, nonzero⟩ := next_of_made tidy made
  have found := session?_of_made tidy made
  have accepts := Session.refusal?_eq_none.2 ⟨rfl, live⟩
  have thereAll : ∀ index < announced.totalChunks.toNat, ∃ chunk,
      before.chunk? announced.uploadId index = some chunk := fun index within =>
    ⟨_, there index _ (List.getElem?_eq_getElem (enough ▸ within))⟩
  obtain ⟨flights, merges⟩ := run_lone_merge valid thereAll
    (Coordinator.find_eq_ok.2 ⟨made, found⟩) accepts nonzero
  rw [enough]
  refine cast (congrArg (System.ReadsAs · _ _) merges.symm) ?_
  have foundAfter : ((before.next (.announce user announced)).coordinator.modify
      before.coordinator.sessions.size (·.complete before.clock)).session?
        before.coordinator.sessions.size = some _ := Coordinator.session?_modify_self found
  exact readsAs_assemble valid (Coordinator.find_eq_ok.2 ⟨made, foundAfter⟩) rfl enough there

/-! ### Chunks that are read -/

/-- A read that begins on a session returns chunks that come from somewhere since the session was made. -/
theorem origin_of_assembled {user : UInt64} {announced : Announcement} {rest : List Event}
    {bytes : ByteArray} (tidy : before.Tidy) (coherentBefore : before.Coherent)
    (made : (before.next (.announce user announced)).place? announced.uploadId =
      some before.coordinator.sessions.size)
    (leads : (before.run (.announce user announced :: earlier)).place? announced.uploadId =
      some before.coordinator.sessions.size)
    (told : (((before.run (.announce user announced :: earlier)).run
        (.begin (.read announced.uploadId) :: rest)).step event).2 =
      some (.returned (before.run (.announce user announced :: earlier)).begun
        (.read announced.uploadId) (.ok (.assembled bytes)))) :
    ∃ chunks, chunks.length = announced.totalChunks.toNat ∧ bytes = assemble chunks ∧
      AllAllowed (before.Origin (earlier ++ rest) announced.uploadId) chunks := by
  have coherent := coherentBefore.run (.announce user announced :: earlier)
  have valid := ((tidy.next _).tracked _ _ made).1
  obtain ⟨session, found, evolves⟩ := System.grows_run _ earlier _ _ (session?_of_made tidy made)
  have origin : ∀ moment, moment <+: .begin (.read announced.uploadId) :: rest → ∀ index chunk,
      ((before.run (.announce user announced :: earlier)).run moment).chunk? announced.uploadId index =
        some chunk → before.Origin (earlier ++ rest) announced.uploadId index chunk := by
    intro moment first index chunk there
    rw [← run_append] at there
    refine ((origin_of_run tidy valid _).1 index chunk there).mono fun member => ?_
    rcases List.mem_append.1 member with among | among
    · rcases List.mem_cons.1 among with isAnnounce | early
      · cases isAnnounce
      · exact List.mem_append_left _ early
    · rcases List.mem_cons.1 (first.subset among) with isRead | late
      · cases isRead
      · exact List.mem_append_right _ late
  have sized : ∀ place session, (before.run (.announce user announced :: earlier)).coordinator.find
      announced.uploadId = .ok (place, session) → session.totalChunks = announced.totalChunks.toNat := by
    intro place other finds
    obtain ⟨tracked, foundOther⟩ := Coordinator.find_eq_ok.1 finds
    cases leads.symm.trans tracked
    cases found.symm.trans foundOther
    exact evolves.totalChunks
  have gathering := gathering_of_read (tidy.run _) coherent sized rest origin
  exact gathering.returned (coherent.run _) rfl told

/-- A read that begins on a session returns as many chunks as were announced for it, put together. Each of them
was sent to be stored after the session was made, or the store held it at that moment, or it waited to be written
then. So if neither is the case for an index, only what was sent after that can be read there. And it takes no
less: if the store held all chunks at that moment, the session can be completed with none of them sent, and it
reads as those chunks. -/
theorem assembled_chunks_origin {user : UInt64} {announced : Announcement}
    (reachable : before.Reachable Lawless)
    (made : (before.next (.announce user announced)).place? announced.uploadId =
      some before.coordinator.sessions.size) :
    (∀ earlier rest event bytes,
      (before.run (.announce user announced :: earlier)).place? announced.uploadId =
        some before.coordinator.sessions.size →
      (((before.run (.announce user announced :: earlier)).run
          (.begin (.read announced.uploadId) :: rest)).step event).2 =
        some (.returned (before.run (.announce user announced :: earlier)).begun
          (.read announced.uploadId) (.ok (.assembled bytes))) →
      ∃ chunks, chunks.length = announced.totalChunks.toNat ∧ bytes = assemble chunks ∧
        AllAllowed (before.Origin (earlier ++ rest) announced.uploadId) chunks) ∧
    ∀ chunks, (before.coordinator.freshSession user announced before.clock).isLive before.clock →
      chunks.length = announced.totalChunks.toNat →
      AllAllowed (fun index chunk => before.chunk? announced.uploadId index = some chunk) chunks →
      ((before.next (.announce user announced)).run
        (.begin (.merge announced.uploadId) :: rounds before.begun chunks.length)).ReadsAs
          announced.uploadId (assemble chunks) := by
  have tidy := Tidy.of_reachable reachable
  have coherent := Coherent.of_reachable reachable
  refine ⟨fun earlier rest event bytes leads told => ?_, fun chunks live enough there => ?_⟩
  · exact origin_of_assembled tidy coherent made leads told
  · exact readsAs_of_left_behind tidy made live enough there

/-- A session expires with a chunk in the store. If its successor has both of its chunks sent, they are read. If
it is announced with one chunk and none is sent, the old one is read. -/
theorem assembled_chunks_origin_resent :
    let start := initial { sessionTtl := ⟨1000⟩ } {} ⟨0⟩
    let before := start.run
      [.announce 1 ⟨"u", "f", 1, 1⟩, .begin (.store "u" 0 "a".toUTF8), .serve 0 .answered, .resume 0,
        .tick ⟨1000⟩]
    let earlier : List Event :=
      [.begin (.store "u" 1 "c".toUTF8), .begin (.store "u" 0 "b".toUTF8), .serve 1 .answered,
        .resume 1, .serve 2 .answered, .resume 2, .begin (.merge "u"), .serve 3 .answered, .resume 3,
        .serve 3 .answered, .resume 3]
    let rest : List Event := [.serve 4 .answered, .resume 4, .serve 4 .answered]
    (∃ chunks, chunks.length = 2 ∧ "bc".toUTF8 = assemble chunks ∧
      AllAllowed (before.Origin (earlier ++ rest) "u") chunks) ∧
    ((before.next (.announce 2 ⟨"u", "f", 1, 1⟩)).run
      (.begin (.merge "u") :: rounds before.begun 1)).ReadsAs "u" (assemble ["a".toUTF8]) := by
  intro start before earlier rest
  have reachable : before.Reachable Lawless := ⟨_, _, _, _, obeys_lawless _ _, rfl⟩
  have made : (before.next (.announce 2 ⟨"u", "f", 2, 2⟩)).place? "u" =
      some before.coordinator.sessions.size := by decide +kernel
  have leads : (before.run (.announce 2 ⟨"u", "f", 2, 2⟩ :: earlier)).place? "u" =
      some before.coordinator.sessions.size := by decide +kernel
  have told : (((before.run (.announce 2 ⟨"u", "f", 2, 2⟩ :: earlier)).run
        (.begin (.read "u") :: rest)).step (.resume 4)).2 =
      some (.returned (before.run (.announce 2 ⟨"u", "f", 2, 2⟩ :: earlier)).begun (.read "u")
        (.ok (.assembled "bc".toUTF8))) := by decide +kernel
  have alsoMade : (before.next (.announce 2 ⟨"u", "f", 1, 1⟩)).place? "u" =
      some before.coordinator.sessions.size := by decide +kernel
  have live : (before.coordinator.freshSession 2 ⟨"u", "f", 1, 1⟩ before.clock).isLive
      before.clock := by decide +kernel
  have there : AllAllowed (fun index chunk => before.chunk? "u" index = some chunk)
      ["a".toUTF8] := by
    intro index chunk here
    cases index with
    | zero =>
      cases here
      decide +kernel
    | succ index => cases here
  have enough : ["a".toUTF8].length = (1 : UInt32).toNat := by decide
  exact ⟨(assembled_chunks_origin reachable made).1 earlier rest _ _ leads told,
    (assembled_chunks_origin reachable alsoMade).2 ["a".toUTF8] live enough there⟩

/-- A session expires with a chunk in the store. Its successor, which is another user's, is completed and read
without a chunk ever being sent for it, and what is read is the old chunk. -/
theorem assembled_chunks_left_behind :
    let start := initial { sessionTtl := ⟨1000⟩ } {} ⟨0⟩
    let first : List Event :=
      [.announce 1 ⟨"u", "f", 1, 1⟩, .begin (.store "u" 0 "a".toUTF8), .serve 0 .answered, .resume 0,
        .tick ⟨1000⟩]
    let before := start.run first
    let announcement : Event := .announce 2 ⟨"u", "f", 1, 1⟩
    let earlier : List Event := [.begin (.merge "u"), .serve 1 .answered, .resume 1]
    let rest : List Event := [.serve 2 .answered]
    start.Obeys Forward
        (first ++ announcement :: earlier ++ .begin (.read "u") :: rest ++ [.resume 2]) ∧
      (before.next announcement).place? "u" = some before.coordinator.sessions.size ∧
      (before.run (announcement :: earlier)).place? "u" = some before.coordinator.sessions.size ∧
      (((before.run (announcement :: earlier)).run (.begin (.read "u") :: rest)).step (.resume 2)).2 =
        some (.returned 2 (.read "u") (.ok (.assembled "a".toUTF8))) ∧
      .begin (.store "u" 0 "a".toUTF8) ∉ earlier ++ rest := by
  decide +kernel

end System

end Community.Upload
