/-
This file proves what a read returns. A read looks at the books only when it begins; after that it takes one
chunk after the other as it finds them in the store. So it returns as many chunks as the session was announced
with, put together, and each of them was in the store at a moment while the read went on. Whatever can be said
of all chunks that are in the store at such moments can be said of the chunks that the read returns. And a read
of a completed upload that nothing disturbs does return, if all of its chunks are there.
-/

import Mathlib.Data.List.Induction
import Community.Proofs.Upload.Blobs

namespace Community.Upload

open Community.Blob

/-- Chunks put together. -/
def assemble (chunks : List ByteArray) : ByteArray :=
  chunks.foldl (· ++ ·) .empty

/-- Is each of the chunks allowed at its index? -/
def AllAllowed (Allowed : Nat → ByteArray → Prop) (chunks : List ByteArray) : Prop :=
  ∀ index chunk, chunks[index]? = some chunk → Allowed index chunk

/-- A read of an upload is to return a number of chunks, and what it has of them is allowed. -/
def Flight.Gathers (uploadId : String) (total : Nat) (Allowed : Nat → ByteArray → Prop) :
    Flight → Prop
  | ⟨_, .read other bound index assembled, answer⟩ =>
    other = uploadId → bound = total ∧ index < total ∧
      (∃ chunks, chunks.length = index ∧ assembled = assemble chunks ∧ AllAllowed Allowed chunks) ∧
      ∀ data : ByteArray, answer = some (.ok data) → Allowed index data
  | _ => True

/-- Of the calls that count, the reads of an upload are to return a number of chunks, and all that they have
and find is allowed. -/
structure System.Gathering (system : System) (Counts : Nat → Prop) (uploadId : String) (total : Nat)
    (Allowed : Nat → ByteArray → Prop) : Prop where
  gathers : ∀ number flight, system.flights number = some flight → Counts number →
    flight.Gathers uploadId total Allowed
  allowed : ∀ index chunk, index < total → system.chunk? uploadId index = some chunk →
    Allowed index chunk
  begins : Counts system.begun → ∀ place session,
    system.coordinator.find uploadId = .ok (place, session) → session.status = .completed →
      session.totalChunks = total

variable {uploadId : String} {total : Nat} {Allowed : Nat → ByteArray → Prop}

/-! ### Chunks one after the other -/

theorem AllAllowed.append {chunks : List ByteArray} {data : ByteArray}
    (all : AllAllowed Allowed chunks) (last : Allowed chunks.length data) :
    AllAllowed Allowed (chunks ++ [data]) := by
  intro index chunk here
  rcases Nat.lt_trichotomy index chunks.length with before | isLast | beyond
  · rw [List.getElem?_append_left before] at here
    exact all index chunk here
  · subst isLast
    rw [List.getElem?_concat_length] at here
    cases here
    exact last
  · rw [List.getElem?_eq_none] at here
    · cases here
    · rw [List.length_append]
      exact beyond

/-- Where at most one chunk is allowed at an index, the chunks are determined by their number. -/
theorem AllAllowed.unique {chunks others : List ByteArray} (all : AllAllowed Allowed chunks)
    (alsoAll : AllAllowed Allowed others)
    (single : ∀ index one two, Allowed index one → Allowed index two → one = two)
    (sameLength : chunks.length = others.length) : chunks = others := by
  refine List.ext_getElem sameLength fun index bound alsoBound => ?_
  exact single index _ _ (all index _ (List.getElem?_eq_getElem bound))
    (alsoAll index _ (List.getElem?_eq_getElem alsoBound))

theorem exists_allAllowed (each : ∀ index < total, ∃ chunk, Allowed index chunk) :
    ∃ chunks, chunks.length = total ∧ AllAllowed Allowed chunks := by
  induction total with
  | zero => exact ⟨[], rfl, nofun⟩
  | succ total inductionHypothesis =>
    obtain ⟨chunks, rfl, all⟩ :=
      inductionHypothesis fun index before => each index (Nat.lt_succ_of_lt before)
    obtain ⟨last, allowed⟩ := each chunks.length (Nat.lt_succ_self _)
    exact ⟨chunks ++ [last], List.length_append, all.append allowed⟩

theorem AllAllowed.set {chunks : List ByteArray} {index : Nat} {data : ByteArray}
    (all : AllAllowed Allowed chunks) {Now : Nat → ByteArray → Prop} (here : Now index data)
    (elsewhere : ∀ other chunk, other ≠ index → Allowed other chunk → Now other chunk) :
    AllAllowed Now (chunks.set index data) := by
  intro other chunk there
  by_cases same : other = index
  · subst same
    rw [List.getElem?_set_self'] at there
    cases held : chunks[other]? with
    | none =>
      rw [held] at there
      cases there
    | some old =>
      rw [held] at there
      cases there
      exact here
  · rw [List.getElem?_set_ne (Ne.symm same)] at there
    exact elsewhere other chunk same (all other chunk there)

theorem assemble_append (chunks : List ByteArray) (data : ByteArray) :
    assemble (chunks ++ [data]) = assemble chunks ++ data := by
  unfold assemble
  rw [List.foldl_append]
  rfl

/-- Bytes put together are the bytes of the chunks one after the other. -/
theorem toList_assemble (chunks : List ByteArray) :
    (assemble chunks).data.toList = (chunks.map (·.data.toList)).flatten := by
  induction chunks using List.reverseRecOn with
  | nil => rfl
  | append_singleton chunks data inductionHypothesis =>
    rw [assemble_append, ByteArray.data_append, Array.toList_append, inductionHypothesis,
      List.map_append, List.flatten_append]
    simp

/-- If one of the chunks is exchanged for another, other bytes come out. -/
theorem eq_of_assemble_set {chunks : List ByteArray} {index : Nat} {one two : ByteArray}
    (within : index < chunks.length)
    (same : assemble (chunks.set index one) = assemble (chunks.set index two)) : one = two := by
  have bytes := congrArg (·.data.toList) same
  simp only [List.set_eq_take_append_cons_drop, if_pos within, toList_assemble, List.map_append,
    List.map_cons, List.flatten_append, List.flatten_cons] at bytes
  have equal := List.append_cancel_right (List.append_cancel_left bytes)
  exact ByteArray.ext (Array.toList_inj.1 equal)

/-- A chunk that is fetched is in the store. -/
theorem Fate.eq_of_fetch {fate : Fate} {store : Memory} {path : String} {data : ByteArray}
    (fetched : (fate.meet store (.fetch path)).2 = .ok data) :
    ∃ place, canonical path = .ok place ∧ store.blobs.get? place = some data := by
  cases fate with
  | refused error => cases fetched
  | lost error => cases fetched
  | answered =>
    dsimp only [Fate.meet, Memory.answer] at fetched
    cases leads : canonical path with
    | error failure =>
      rw [leads] at fetched
      cases fetched
    | ok place =>
      rw [leads] at fetched
      refine ⟨place, rfl, ?_⟩
      dsimp only [Except.bind] at fetched
      split at fetched
      · next found there =>
        cases fetched
        exact there
      · cases fetched

namespace Coordinator

variable {books : Coordinator} {index : Nat} {assembled bytes : ByteArray}

theorem beginRead_assembled (ended : (books.beginRead uploadId).2 = .done (.ok (.assembled bytes))) :
    ∃ place session, books.find uploadId = .ok (place, session) ∧ session.status = .completed ∧
      session.totalChunks = 0 ∧ bytes = .empty := by
  unfold beginRead at ended
  split at ended
  · cases ended
  · next place session found =>
    split at ended
    · next completed =>
      split at ended
      · next none =>
        cases ended
        exact ⟨place, session, found, completed, none, rfl⟩
      · cases ended
    · cases ended

theorem continueRead_assembled {chunk : Outcome ByteArray}
    (ended : (books.continueRead uploadId total index assembled chunk).2 =
      .done (.ok (.assembled bytes))) :
    ∃ data, chunk = .ok data ∧ total ≤ index + 1 ∧ bytes = assembled ++ data := by
  unfold continueRead at ended
  split at ended
  · cases ended
  · next data =>
    dsimp only at ended
    split at ended
    · cases ended
    · next last =>
      cases ended
      exact ⟨data, rfl, Nat.le_of_not_lt last, rfl⟩

end Coordinator

/-! ### Reads in the course of events -/

namespace System.Gathering

variable {system : System} {Counts : Nat → Prop}

/-- An event leaves the reads that count with allowed chunks. -/
theorem gathers_next (gathering : system.Gathering Counts uploadId total Allowed)
    (tidy : system.Tidy) (event : Event) :
    ∀ number flight, (system.next event).flights number = some flight → Counts number →
      flight.Gathers uploadId total Allowed := by
  refine flights_next (fun number flight => Counts number → flight.Gathers uploadId total Allowed)
    (fun number flight flies _ => gathering.gathers number flight flies)
    (fun _ part counts => ?_) (fun {number fate call pending} _ waits counts => ?_)
    (fun {number flight books pending} flies part counts => ?_)
  · cases part with
    | storeBegins | mergeBegins | cancelBegins | sweepBegins => trivial
    | readBegins found completed nonempty =>
      rintro rfl
      have enough := gathering.begins counts _ _ found completed
      exact ⟨enough, enough ▸ Nat.pos_of_ne_zero nonempty, ⟨[], rfl, rfl, nofun⟩, nofun⟩
  · have gathered := gathering.gathers number _ waits counts
    have valid := tidy.valid number _ waits
    cases pending with
    | store | merge | cancel | sweep => trivial
    | read other bound index assembled =>
      rintro rfl
      obtain ⟨enough, further, soFar, -⟩ := gathered rfl
      refine ⟨enough, further, soFar, fun data answered =>
        gathering.allowed index data further ?_⟩
      obtain ⟨place, leads, there⟩ := Fate.eq_of_fetch (Option.some.inj answered)
      rw [canonical_chunkPath (valid other List.mem_cons_self)] at leads
      cases leads
      exact there
  · obtain ⟨call, held, answer⟩ := flight
    cases part with
    | mergeContinues | cancelContinues | sweepContinues | sweepTurns => trivial
    | readContinues further =>
      rintro rfl
      obtain ⟨rfl, -, ⟨chunks, rfl, rfl, all⟩, found⟩ := gathering.gathers number _ flies counts rfl
      refine ⟨rfl, further, ⟨chunks ++ [_], ?_, ?_, all.append (found _ rfl)⟩, nofun⟩
      · rw [List.length_append]
        rfl
      · exact (assemble_append _ _).symm

/-- A read that counts returns so many chunks, put together, and all of them allowed. -/
theorem returned (gathering : system.Gathering Counts uploadId total Allowed)
    (coherent : system.Coherent) {event : Event} {number : Nat} {bytes : ByteArray}
    (counts : Counts number)
    (told : (system.step event).2 =
      some (.returned number (.read uploadId) (.ok (.assembled bytes)))) :
    ∃ chunks, chunks.length = total ∧ bytes = assemble chunks ∧ AllAllowed Allowed chunks := by
  rcases step_returned told with
    ⟨-, rfl, ended⟩ | ⟨_, -, made⟩ | ⟨rfl, pending, answer, flies, ended⟩
  · obtain ⟨place, session, found, completed, none, rfl⟩ := Coordinator.beginRead_assembled ended
    exact ⟨[], none.symm.trans (gathering.begins counts place session found completed), rfl, nofun⟩
  · cases made
  · have stands := coherent.stands number _ flies
    cases pending with
    | store | merge | cancel | sweep => simp [Pending.BelongsTo] at stands
    | read other bound index assembled =>
      cases stands
      obtain ⟨data, rfl, last, rfl⟩ := Coordinator.continueRead_assembled ended
      obtain ⟨rfl, further, ⟨chunks, rfl, rfl, all⟩, found⟩ :=
        gathering.gathers number _ flies counts rfl
      refine ⟨chunks ++ [data], ?_, (assemble_append chunks data).symm, all.append (found data rfl)⟩
      rw [List.length_append]
      exact Nat.le_antisymm further last

end System.Gathering

/-- While a read goes on, it gathers what the store holds at those moments. -/
theorem System.gathering_of_read {Allowed : Nat → ByteArray → Prop} {total : Nat} {began : System}
    (tidy : began.Tidy) (coherent : began.Coherent)
    (sized : ∀ place session, began.coordinator.find uploadId = .ok (place, session) →
      session.totalChunks = total)
    (rest : List Event)
    (allowed : ∀ moment, moment <+: .begin (.read uploadId) :: rest → ∀ index chunk,
      (began.run moment).chunk? uploadId index = some chunk → Allowed index chunk) :
    (began.run (.begin (.read uploadId) :: rest)).Gathering (· = began.begun) uploadId total
      Allowed := by
  induction rest using List.reverseRecOn with
  | nil =>
    have gathering : began.Gathering (· = began.begun) uploadId total Allowed := {
      gathers := fun number flight flies isRead =>
        absurd (coherent.lt_begun flies) (isRead ▸ Nat.lt_irrefl _)
      allowed := fun index chunk _ => allowed [] List.nil_prefix index chunk
      begins := fun _ place session found _ => sized place session found }
    exact {
      gathers := gathering.gathers_next tidy _
      allowed := fun index chunk _ => allowed _ (List.prefix_refl _) index chunk
      begins := fun isRead => absurd ((begun_begin began _).symm.trans isRead) (Nat.succ_ne_self _) }
  | append_singleton rest event inductionHypothesis =>
    have before := inductionHypothesis fun moment earlier =>
      allowed moment (earlier.trans ⟨[event], rfl⟩)
    have runs : began.run (.begin (.read uploadId) :: (rest ++ [event])) =
        (began.run (.begin (.read uploadId) :: rest)).next event :=
      run_append began (.begin (.read uploadId) :: rest) [event]
    have now := allowed _ (List.prefix_refl _)
    rw [runs] at now ⊢
    refine ⟨before.gathers_next (tidy.run _) event, fun index chunk _ => now index chunk,
      fun isRead => ?_⟩
    have later := Nat.le_trans (begun_le_run (began.next (.begin (.read uploadId))) rest)
      (begun_le_next _ event)
    rw [begun_begin] at later
    exact absurd later (isRead ▸ Nat.lt_irrefl _)

/-! ### A read that nothing disturbs -/

namespace System

/-- A read that begins now returns certain bytes if nothing disturbs it. -/
def ReadsAs (system : System) (uploadId : String) (bytes : ByteArray) : Prop :=
  ∃ count, .returned system.begun (.read uploadId) (.ok (.assembled bytes)) ∈
    system.notices (.begin (.read uploadId) :: rounds system.begun count)

variable {system : System} {number index : Nat} {data assembled : ByteArray} {call : Call}

theorem answer_fetch (valid : isValidId uploadId)
    (there : system.chunk? uploadId index = some data) :
    system.store.answer (.fetch (chunkPath uploadId index)) =
      (system.store, .ok data) := by
  unfold chunk? at there
  dsimp only [Memory.answer]
  rw [canonical_chunkPath valid]
  dsimp only [Except.bind]
  rw [there]

/-- A read that waits for the first of the chunks that are left returns them all, if they are there. -/
theorem returned_mem_rounds {chunks rest : List ByteArray} (valid : isValidId uploadId)
    (there : ∀ index chunk, rest[index]? = some chunk →
      system.chunk? uploadId (chunks.length + index) = some chunk)
    (enough : chunks.length + rest.length = total) (nonempty : rest ≠ [])
    (waits : system.flights number =
      some ⟨call, .read uploadId total chunks.length (assemble chunks), none⟩) :
    .returned number call (.ok (.assembled (assemble (chunks ++ rest)))) ∈
      system.notices (rounds number rest.length) := by
  induction rest generalizing system chunks with
  | nil => exact absurd rfl nonempty
  | cons data others inductionHypothesis =>
    have first : system.chunk? uploadId chunks.length = some data := there 0 data rfl
    obtain ⟨flights, round⟩ := step_round waits (answer_fetch valid first)
    refine List.mem_append_right _ ?_
    change _ ∈ ((system.next (.serve number .answered)).step (.resume number)).2.toList ++
      ((system.next (.serve number .answered)).step (.resume number)).1.notices
        (rounds number others.length)
    rw [round]
    dsimp only [Coordinator.resume, Coordinator.continueRead]
    rw [← assemble_append, List.append_cons chunks data others]
    cases others with
    | nil =>
      have last : ¬ chunks.length + 1 < total := Nat.not_lt.2 (Nat.le_of_eq enough.symm)
      rw [if_neg last, List.append_nil]
      exact List.mem_append_left _ List.mem_cons_self
    | cons next others =>
      have further : chunks.length + 1 < total := by
        rw [← enough, List.length_cons, List.length_cons]
        omega
      rw [if_pos further]
      refine List.mem_append_right _ (inductionHypothesis ?_ ?_ (List.cons_ne_nil _ _) ?_)
      · intro index chunk here
        rw [List.length_append, List.length_singleton, Nat.add_assoc, Nat.add_comm 1]
        exact there (index + 1) chunk here
      · rw [← enough, List.length_append, List.length_singleton, List.length_cons (a := data)]
        omega
      · rw [List.length_append, List.length_singleton]
        exact Function.update_self ..

/-- A completed upload of which all chunks are there reads as those chunks put together. -/
theorem readsAs_assemble {place : SessionId} {session : Session} {chunks : List ByteArray}
    (valid : isValidId uploadId) (finds : system.coordinator.find uploadId = .ok (place, session))
    (completed : session.status = .completed) (enough : chunks.length = session.totalChunks)
    (there : AllAllowed (fun index chunk => system.chunk? uploadId index = some chunk) chunks) :
    system.ReadsAs uploadId (assemble chunks) := by
  refine ⟨chunks.length, ?_⟩
  change _ ∈ (system.enter _ (system.coordinator.beginRead uploadId)).2.toList ++
    (system.enter _ (system.coordinator.beginRead uploadId)).1.notices _
  unfold Coordinator.beginRead
  rw [finds]
  dsimp only
  rw [if_pos completed]
  by_cases none : session.totalChunks = 0
  · rw [if_pos none]
    have nothing : chunks = [] := List.eq_nil_of_length_eq_zero (enough.trans none)
    subst nothing
    exact List.mem_append_left _ List.mem_cons_self
  · rw [if_neg none]
    have nonempty : chunks ≠ [] := by
      rintro rfl
      exact none enough.symm
    have allThere : ∀ index chunk, chunks[index]? = some chunk →
        system.chunk? uploadId (([] : List ByteArray).length + index) = some chunk := by
      intro index chunk here
      rw [List.length_nil, Nat.zero_add]
      exact there index chunk here
    have counted : ([] : List ByteArray).length + chunks.length = session.totalChunks :=
      (Nat.zero_add _).trans enough
    refine List.mem_append_right _ (returned_mem_rounds valid ?_ counted nonempty ?_)
    · exact allThere
    · exact Function.update_self ..

end System

end Community.Upload
