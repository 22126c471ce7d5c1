/-
This file says which parts of a call on uploads read the clock, and what such a part leaves behind when the
clock cannot be read. The part breaks off at the reading: what it has done before stays done, and nothing of
it comes after. A part that does not come to a reading goes on as ever.
-/

import Community.Upload.Call

namespace Community.Upload.Coordinator

/-! ### Readings -/

/-- Is a session tracked under an identifier, one that passes a test? -/
def tracks (coordinator : Coordinator) (uploadId : String) (test : Session → Bool) : Bool :=
  match coordinator.find uploadId with
  | .ok (_, session) => test session
  | .error _ => false

/-- Is there a session with a number, one that passes a test? -/
def holds (coordinator : Coordinator) (number : SessionId) (test : Session → Bool) : Bool :=
  (coordinator.session? number).any test

/-- An announcement reads the clock unless it is refused for what it says. -/
def announcementReadsClock (coordinator : Coordinator) (announced : Announcement) : Bool :=
  (coordinator.announcementRefusal? announced).isNone

/-- Does the part of a call before its first request read the clock? -/
def beginReadsClock (coordinator : Coordinator) : Call → Bool
  | .store uploadId .. => coordinator.tracks uploadId fun _ => true
  | .merge uploadId => coordinator.tracks uploadId fun session => session.status ≠ .completed
  | .cancel uploadId user =>
    coordinator.tracks uploadId fun session =>
      session.userId = user && session.status = .pending && !session.purging
  | .read _ => false
  | .sweep => true

/-- Does the part of a call after an answer read the clock? -/
def resumeReadsClock (coordinator : Coordinator) :
    (call : Pending) → Outcome call.request.Answer → Bool
  | .store _ number _ _, .ok () => coordinator.holds number fun session => session.status = .pending
  | .merge _ number total index missing, .ok true =>
    total ≤ index + 1 && missing.isEmpty &&
      coordinator.holds number fun session => session.status ≠ .completed
  | _, _ => false

/-! ### What stays -/

/-- What the part of a call before its first request has done when it comes to the reading: a cancellation
stands already. -/
def breakBegin (coordinator : Coordinator) : Call → Coordinator
  | .cancel uploadId _ =>
    match coordinator.find uploadId with
    | .ok (number, _) =>
      coordinator.modify number fun session => { session with status := .cancelled }
    | .error _ => coordinator
  | _ => coordinator

/-- What the part of a call after an answer has done when it comes to the reading: a chunk is recorded
already. -/
def breakResume (coordinator : Coordinator) : Pending → Coordinator
  | .store _ number index _ =>
    coordinator.modify number fun session =>
      { session with uploaded := session.uploaded.insert index }
  | _ => coordinator

end Community.Upload.Coordinator
