/-
This file says what the changes of the books do to each entry. A change of one session leaves the others as
they are, a new session gets the next number, and an identifier that is forgotten leaves the other identifiers
where they lead. It also says how a session stands to the clock: time turns a live session into an abandoned
one and never back.
-/

import Community.Proofs.Time.Order
import Community.Upload.Call

namespace Community

namespace Upload

/-! ### Sessions and the clock -/

namespace Session

variable {session : Session} {earlier later now : Timestamp}

theorem isExpired_mono (passes : earlier ≤ later) (expired : session.isExpired earlier) :
    session.isExpired later := by
  unfold isExpired at expired ⊢
  exact decide_eq_true (Timestamp.le_trans (of_decide_eq_true expired) passes)

theorem isAbandoned_mono (passes : earlier ≤ later) (abandoned : session.isAbandoned earlier) :
    session.isAbandoned later := by
  unfold isAbandoned at abandoned ⊢
  cases status : session.status with
  | pending =>
    rw [status] at abandoned
    exact isExpired_mono passes abandoned
  | completed =>
    rw [status] at abandoned
    exact abandoned
  | cancelled => rfl

theorem isLive_iff :
    session.isLive now ↔ session.status = .pending ∧ ¬ session.isExpired now := by
  simp [isLive]

theorem isLive_anti (passes : earlier ≤ later) (live : session.isLive later) :
    session.isLive earlier := by
  rw [isLive_iff] at live ⊢
  exact ⟨live.1, fun expired => live.2 (isExpired_mono passes expired)⟩

/-- A session is live, completed or abandoned, and only one of these. -/
theorem isAbandoned_iff :
    session.isAbandoned now ↔ ¬ session.isLive now ∧ session.status ≠ .completed := by
  unfold isAbandoned isLive
  cases session.status <;> simp

/-- Chunks and completion are accepted by a live session whose blobs are not being removed. -/
theorem refusal?_eq_none :
    session.refusal? now = none ↔ session.purging = false ∧ session.isLive now := by
  unfold refusal? isLive
  cases session.purging <;> cases session.status <;> simp

theorem not_completed_of_accepts (accepts : session.refusal? now = none) :
    session.status ≠ .completed := by
  rw [(isLive_iff.1 (refusal?_eq_none.1 accepts).2).1]
  nofun

end Session

/-! ### Changes of the books -/

namespace Coordinator

variable {coordinator : Coordinator} {uploadId other : String} {number index : SessionId}
  {session : Session} {change : Session → Session}

/-- Begins the removal of a session's blobs. -/
def beginPurge (coordinator : Coordinator) (number : SessionId) : Coordinator :=
  coordinator.modify number fun session => { session with purging := true }

/-- Ends a sweep's work on a session: with its blobs gone it is no longer tracked, else it may be taken up
again. -/
def release (coordinator : Coordinator) (uploadId : String) (number : SessionId) :
    Outcome Nat → Coordinator
  | .ok _ => coordinator.untrack uploadId number
  | .error _ => coordinator.endPurge number

theorem find_eq_ok :
    coordinator.find uploadId = .ok (number, session) ↔
      coordinator.tracked.get? uploadId = some number ∧
        coordinator.session? number = some session := by
  unfold find
  constructor
  · intro found
    split at found
    · cases found
    · next place tracked =>
      split at found
      · cases found
      · next entry here =>
        cases found
        exact ⟨tracked, here⟩
  · rintro ⟨tracked, here⟩
    simp only [tracked, here]

theorem session?_modify :
    (coordinator.modify number change).session? index =
      if number = index then (coordinator.session? index).map change
      else coordinator.session? index := by
  unfold session? modify
  exact Array.getElem?_modify

theorem session?_modify_self (found : coordinator.session? number = some session) :
    (coordinator.modify number change).session? number = some (change session) := by
  rw [session?_modify, if_pos rfl, found]
  rfl

theorem session?_modify_of_ne (other : number ≠ index) :
    (coordinator.modify number change).session? index = coordinator.session? index := by
  rw [session?_modify, if_neg other]

/-- Every session after a change was there before, and is the one that was changed or as it was. -/
theorem session?_modify_eq_some {after : Session}
    (found : (coordinator.modify number change).session? index = some after) :
    ∃ before, coordinator.session? index = some before ∧
      after = if number = index then change before else before := by
  rw [session?_modify] at found
  split at found
  · next same =>
    obtain ⟨before, was, becomes⟩ := Option.map_eq_some_iff.1 found
    exact ⟨before, was, by rw [if_pos same, becomes]⟩
  · next differs => exact ⟨after, found, (if_neg differs).symm⟩

theorem session?_track :
    (coordinator.track session).session? index =
      if index = coordinator.sessions.size then some session else coordinator.session? index :=
  Array.getElem?_push

theorem get?_tracked_track :
    (coordinator.track session).tracked.get? other =
      if session.uploadId = other then some coordinator.sessions.size
      else coordinator.tracked.get? other :=
  Table.get?_insert ..

theorem lt_size_of_session? (found : coordinator.session? number = some session) :
    number < coordinator.sessions.size :=
  (Array.getElem?_eq_some_iff.1 found).1

@[simp] theorem session?_untrack :
    (coordinator.untrack uploadId number).session? index = coordinator.session? index := by
  unfold untrack
  split <;> rfl

theorem get?_tracked_untrack :
    (coordinator.untrack uploadId number).tracked.get? other =
      if uploadId = other ∧ coordinator.tracked.get? other = some number then none
      else coordinator.tracked.get? other := by
  unfold untrack
  split
  · next tracked =>
    rw [Table.get?_erase]
    by_cases same : uploadId = other
    · subst same
      rw [if_pos rfl, if_pos ⟨rfl, tracked⟩]
    · rw [if_neg same, if_neg fun both => same both.1]
  · next elsewhere =>
    rw [if_neg]
    rintro ⟨rfl, tracked⟩
    exact elsewhere tracked

/-- A sweep that ends its work on a session leaves the other identifiers where they lead. -/
theorem get?_tracked_release (differs : uploadId ≠ other) (result : Outcome Nat) :
    (coordinator.release uploadId number result).tracked.get? other =
      coordinator.tracked.get? other := by
  cases result with
  | error failure => rfl
  | ok removed => exact get?_tracked_untrack.trans (if_neg fun both => differs both.1)

end Coordinator

end Upload

end Community
