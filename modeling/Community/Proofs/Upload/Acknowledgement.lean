/-
This file proves what a client may conclude when it is told that a chunk is stored. The chunk is recorded in
the session on which the call began, and that session is still pending. It need not be the one that the
identifier leads to any more: a session that expires while the chunk is being written can be swept or give
way to a new one, and the call notices neither. As long as the session has not expired it is the tracked one,
and the record is what a report and a receipt show.
-/

import Community.Proofs.Upload.Orderly

namespace Community.Upload

instance (index : Nat) (indices : IndexSet) : Decidable (index ∈ indices) :=
  inferInstanceAs (Decidable (index ∈ indices.toList))

namespace Coordinator

/-- Is the chunk of an index recorded in the session with a number? -/
def Records (books : Coordinator) (place : SessionId) (index : Nat) : Prop :=
  ∃ session ∈ books.session? place, index ∈ session.uploaded

/-- Does the report on an upload show the chunk of an index? -/
def Reports (books : Coordinator) (uploadId : String) (index : Nat) : Prop :=
  ∃ report, books.report uploadId = .ok report ∧ index ∈ report.uploadedChunks

/-- Has the session with a number reached its expiry? -/
def HasExpired (books : Coordinator) (now : Timestamp) (place : SessionId) : Prop :=
  ∃ session ∈ books.session? place, session.isExpired now

variable {books : Coordinator} {now : Timestamp} {uploadId : String} {place index : Nat}
  {data : ByteArray} {written : Outcome Unit}

/-- A report is about the session to which the identifier leads. -/
theorem reports_iff :
    books.Reports uploadId index ↔
      ∃ place ∈ books.tracked.get? uploadId, books.Records place index := by
  unfold Reports report
  constructor
  · rintro ⟨shown, shows, member⟩
    cases found : books.find uploadId with
    | error failure =>
      rw [found] at shows
      cases shows
    | ok entry =>
      rw [found] at shows
      cases shows
      obtain ⟨tracked, here⟩ := find_eq_ok.1 found
      exact ⟨entry.1, tracked, entry.2, here, member⟩
  · rintro ⟨place, tracked, session, found, member⟩
    refine ⟨session.report, ?_, member⟩
    rw [find_eq_ok.2 ⟨tracked, found⟩]
    rfl

instance (books : Coordinator) (uploadId : String) (index : Nat) :
    Decidable (books.Reports uploadId index) :=
  decidable_of_iff
    (∃ place ∈ books.tracked.get? uploadId, ∃ session ∈ books.session? place,
      index ∈ session.uploaded) reports_iff.symm

instance (books : Coordinator) (now : Timestamp) (place : SessionId) :
    Decidable (books.HasExpired now place) :=
  inferInstanceAs (Decidable (∃ session ∈ books.session? place, session.isExpired now))

/-- An announcement that resumes an upload is answered with the chunks that are reported. -/
theorem mem_receipt_iff_reports {user : UInt64} {announced : Announcement} {receipt : Receipt}
    (resumes : books.announce user announced now = (books, .ok receipt)) :
    index ∈ receipt.uploadedChunks ↔ books.Reports announced.uploadId index := by
  have tracks (session : Session) : books.track session ≠ books := by
    intro same
    have sizes := congrArg (fun books => books.sessions.size) same
    simp [track] at sizes
  unfold announce at resumes
  split at resumes
  · cases resumes
  · dsimp only at resumes
    split at resumes
    · exact absurd (congrArg Prod.fst resumes) (tracks _)
    · next number existing found =>
      split at resumes
      · cases resumes
      · split at resumes
        · cases resumes
        · split at resumes
          · cases resumes
            unfold Reports report
            rw [found]
            exact ⟨fun member => ⟨_, rfl, member⟩, fun ⟨_, shown, member⟩ => by
              cases shown
              exact member⟩
          · exact absurd (congrArg Prod.fst resumes) (tracks _)

theorem beginStore_ne_stored :
    (books.beginStore now uploadId index data).2 ≠ .done (.ok .stored) := by
  unfold beginStore
  split
  · nofun
  · split
    · nofun
    · split <;> nofun

/-- A chunk is acknowledged when it has been written and its session is pending, and then it is recorded. -/
theorem finishStore_stored
    (stored : (books.finishStore now uploadId place index written).2 = .done (.ok .stored)) :
    ∃ session, books.session? place = some session ∧ session.status = .pending ∧
      (books.finishStore now uploadId place index written).1 =
        books.modify place (·.record index now) := by
  unfold finishStore at stored ⊢
  split at stored
  · cases stored
  · split at stored
    · cases stored
    · next session found =>
      split at stored
      · next pending =>
        refine ⟨session, found, pending, ?_⟩
        simp only [if_pos pending]
      · cases stored

/-- An identifier reports what the session records that it leads to, and that is a certain one or another. -/
theorem reports_iff_of_records (recorded : books.Records place index) :
    books.Reports uploadId index ↔
      books.tracked.get? uploadId = some place ∨
        ∃ other, other ≠ place ∧ books.tracked.get? uploadId = some other ∧
          books.Records other index := by
  rw [reports_iff]
  constructor
  · rintro ⟨other, tracked, records⟩
    by_cases same : other = place
    · exact Or.inl (same ▸ tracked)
    · exact Or.inr ⟨other, same, tracked, records⟩
  · rintro (tracked | ⟨other, -, tracked, records⟩)
    · exact ⟨place, tracked, recorded⟩
    · exact ⟨other, tracked, records⟩

end Coordinator

namespace System

variable {event : Event} {number index : Nat} {uploadId : String} {data : ByteArray}

/-- A call that is told that its chunk is stored has recorded it in the session that it holds on to, and that
session is pending. -/
theorem records_of_acknowledged {system : System} (order : system.InOrder)
    (acknowledged : (system.step event).2 =
      some (.returned number (.store uploadId index data) (.ok .stored))) :
    ∃ place session, system.handle? number = some (uploadId, place) ∧
      (system.next event).coordinator.session? place = some session ∧
        session.uploadId = uploadId ∧ session.status = .pending ∧ index ∈ session.uploaded := by
  rcases step_returned acknowledged with
    ⟨-, -, ended⟩ | ⟨_, -, made⟩ | ⟨rfl, pending, answer, flies, ended⟩
  · exact absurd ended Coordinator.beginStore_ne_stored
  · cases made
  · have belongs := order.coherent.stands number _ flies
    cases pending with
    | merge | cancel | read | sweep => simp [Pending.BelongsTo] at belongs
    | store other place position content =>
      cases belongs
      obtain ⟨session, found, pending, recorded⟩ := Coordinator.finishStore_stored ended
      obtain ⟨same, here, named⟩ := order.holding number _ flies (uploadId, place) rfl
      rw [found] at here
      cases here
      refine ⟨place, session.record index system.clock, ?_, ?_, named, pending,
        IndexSet.mem_insert.2 (Or.inl rfl)⟩
      · rw [handle?, flies]
        rfl
      · rw [next_resume flies]
        exact (congrArg (Coordinator.session? · place) recorded).trans
          (Coordinator.session?_modify_self found)

/-- An acknowledged chunk is recorded in the session that its call holds on to, and that session is tracked
unless it has expired in the meantime. So a report and a receipt show the chunk if the session has not
expired; otherwise they do so exactly if the session is still tracked, or another that is tracked in its place
records the chunk too. -/
theorem acknowledged_chunk_recorded {before : System} (reachable : before.Reachable Forward)
    (forward : before.Forward event)
    (acknowledged : (before.step event).2 =
      some (.returned number (.store uploadId index data) (.ok .stored))) :
    let after := before.next event
    (∃ place, before.handle? number = some (uploadId, place) ∧
      after.coordinator.Records place index ∧
      (¬ after.coordinator.HasExpired after.clock place →
        after.coordinator.Reports uploadId index) ∧
      (after.coordinator.Reports uploadId index ↔
        after.place? uploadId = some place ∨
          ∃ other, other ≠ place ∧ after.place? uploadId = some other ∧
            after.coordinator.Records other index)) ∧
      ∀ user announced receipt, announced.uploadId = uploadId →
        after.coordinator.announce user announced after.clock = (after.coordinator, .ok receipt) →
          (index ∈ receipt.uploadedChunks ↔ after.coordinator.Reports uploadId index) := by
  have order := InOrder.of_reachable reachable
  have orderAfter := order.next forward
  obtain ⟨place, session, holds, found, named, pending, recorded⟩ :=
    records_of_acknowledged order acknowledged
  refine ⟨⟨place, holds, ⟨session, found, recorded⟩, fun unexpired => ?_,
    Coordinator.reports_iff_of_records ⟨session, found, recorded⟩⟩, ?_⟩
  · have tracked := orderAfter.orderly.live place session found
      (Session.isLive_iff.2 ⟨pending, fun expired => unexpired ⟨session, found, expired⟩⟩)
    exact Coordinator.reports_iff.2 ⟨place, named ▸ tracked, session, found, recorded⟩
  · rintro user announced receipt rfl resumes
    exact Coordinator.mem_receipt_iff_reports resumes

/-- Two chunks are stored side by side, with a sweep in between, until just before the expiry. -/
theorem acknowledged_chunk_recorded_in_time :
    let start := initial { sessionTtl := ⟨1000⟩ } {} ⟨0⟩
    let events : List Event :=
      [.announce 1 ⟨"u", "f", 2, 2⟩, .begin (.store "u" 0 "a".toUTF8),
        .begin (.store "u" 1 "b".toUTF8), .serve 1 .answered, .tick ⟨999⟩, .sweep [], .resume 1,
        .serve 0 .answered]
    start.Obeys Forward events ∧
      ((start.run events).step (.resume 0)).2 =
        some (.returned 0 (.store "u" 0 "a".toUTF8) (.ok .stored)) ∧
      ((start.run events).next (.resume 0)).coordinator.Reports "u" 0 := by
  intro start events
  have forward : start.Obeys Forward events := by decide +kernel
  have acknowledged : ((start.run events).step (.resume 0)).2 =
      some (.returned 0 (.store "u" 0 "a".toUTF8) (.ok .stored)) := by decide +kernel
  have holding : (start.run events).handle? 0 = some ("u", 0) := by decide +kernel
  have forwardLast : (start.run events).Forward (.resume 0) := trivial
  obtain ⟨⟨place, holds, -, unexpired, -⟩, -⟩ :=
    acknowledged_chunk_recorded ⟨_, _, _, events, forward, rfl⟩ forwardLast acknowledged
  cases holding.symm.trans holds
  exact ⟨forward, acknowledged, unexpired (by decide +kernel)⟩

/-- A session expires and gives way to a new one while a chunk is being written. -/
theorem acknowledged_chunk_unreported :
    let start := initial { sessionTtl := ⟨1000⟩ } {} ⟨0⟩
    let events : List Event :=
      [.announce 1 ⟨"u", "f", 1, 1⟩, .begin (.store "u" 0 "a".toUTF8), .tick ⟨1000⟩,
        .announce 1 ⟨"u", "f", 1, 1⟩, .serve 0 .answered]
    start.Obeys Forward events ∧
      ((start.run events).step (.resume 0)).2 =
        some (.returned 0 (.store "u" 0 "a".toUTF8) (.ok .stored)) ∧
      ¬ ((start.run events).next (.resume 0)).coordinator.Reports "u" 0 := by
  decide +kernel

end System

end Community.Upload
