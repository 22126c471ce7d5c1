/-
This file proves that uploads do not disturb each other. What happens aside from an upload is every
event that neither announces its identifier nor is a part of a call on it; all sweeps are aside from
it as long as its session is not abandoned. Such an event leaves the session as it is, the identifier
leading to it, the chunks in the store and the calls at work on the upload, and it returns none of
these calls.
-/

import Community.Proofs.Upload.Blobs
import Community.Proofs.Upload.Custody

namespace Community.Upload

namespace System

/-- Does the call with a number work on an upload, now or later? -/
def WorksOn (system : System) (number : Nat) (uploadId : String) : Prop :=
  ∃ flight ∈ system.flights number, uploadId ∈ flight.pending.uploadIds

instance (system : System) (number : Nat) (uploadId : String) :
    Decidable (system.WorksOn number uploadId) :=
  inferInstanceAs (Decidable (∃ flight ∈ _, _))

/-- An event happens aside from an upload. -/
def Aside (uploadId : String) (system : System) : Event → Prop
  | .tick _ => True
  | .announce _ announced => announced.uploadId ≠ uploadId
  | .begin call => call.uploadId? ≠ some uploadId
  | .sweep _ => True
  | .serve number _ => ¬ system.WorksOn number uploadId
  | .resume number => ¬ system.WorksOn number uploadId

instance (uploadId : String) (system : System) :
    (event : Event) → Decidable (system.Aside uploadId event)
  | .tick _ => .isTrue trivial
  | .announce _ _ => inferInstanceAs (Decidable (_ ≠ _))
  | .begin _ => inferInstanceAs (Decidable (_ ≠ _))
  | .sweep _ => .isTrue trivial
  | .serve _ _ => inferInstanceAs (Decidable (¬ _))
  | .resume _ => inferInstanceAs (Decidable (¬ _))

/-- The session of an upload is not abandoned: it is completed, or it is not cancelled and has not
expired. -/
def InTime (uploadId : String) (system : System) : Prop :=
  ∀ place ∈ system.place? uploadId, ∀ session ∈ system.coordinator.session? place,
    session.isAbandoned system.clock = false

instance (uploadId : String) (system : System) : Decidable (system.InTime uploadId) :=
  inferInstanceAs (Decidable (∀ place ∈ _, ∀ session ∈ _, _))

/-- In a system that keeps its order, an identifier leads to a session. -/
structure Hosts (system : System) (uploadId : String) (place : SessionId) (session : Session) :
    Prop where
  named : system.Named
  tidy : system.Tidy
  coherent : system.Coherent
  finds : system.coordinator.find uploadId = .ok (place, session)

/-- Nothing of an upload has changed: neither its session, nor its chunks, nor the calls at work on
it. -/
structure Untouched (uploadId : String) (before after : System) : Prop where
  finds : after.coordinator.find uploadId = before.coordinator.find uploadId
  chunks : ∀ index, after.chunk? uploadId index = before.chunk? uploadId index
  flights : ∀ number, before.WorksOn number uploadId ∨ after.WorksOn number uploadId →
    after.flights number = before.flights number

end System

/-! ### Sessions out of hand -/

theorem Pending.mem_uploadIds {pending : Pending} {binding : String × SessionId}
    (member : binding ∈ pending.bindings) : binding.1 ∈ pending.uploadIds := by
  cases pending with
  | read => cases member
  | store | merge | cancel =>
    cases List.mem_singleton.1 member
    exact List.mem_cons_self
  | sweep started uploadId place cleanup waiting report => exact List.mem_map_of_mem member

theorem Pending.duty_mem_bindings {pending : Pending} {duty : Duty}
    (works : pending.duty? = some duty) : (duty.uploadId, duty.session) ∈ pending.bindings := by
  cases pending with
  | store | merge | read => cases works
  | cancel | sweep =>
    cases works
    exact List.mem_cons_self

section Parts

variable {now : Timestamp} {books after : Coordinator} {call : Call} {flight : Option Flight}
  {waits : Option Pending} {place number : SessionId} {uploadId : String} {session : Session}

/-- A part of a call leaves a session alone that the call has not in hand, neither before nor
afterwards. -/
theorem Part.session?_of_not_mem (part : Part now books call flight after waits)
    (before : ∀ held ∈ flight, ∀ uploadId, (uploadId, place) ∉ held.pending.bindings)
    (later : ∀ pending ∈ waits, ∀ uploadId, (uploadId, place) ∉ pending.bindings) :
    after.session? place = books.session? place := by
  have spared {books : Coordinator} {uploadId : String} {number : SessionId}
      {waiting : List (String × SessionId)} {change : Session → Session}
      (missed : (uploadId, place) ∉ (uploadId, number) :: waiting) :
      (books.modify number change).session? place = books.session? place := by
    refine Coordinator.session?_modify_of_ne ?_
    rintro rfl
    exact missed List.mem_cons_self
  have released {uploadId : String} {number : SessionId} {waiting : List (String × SessionId)}
      (missed : (uploadId, place) ∉ (uploadId, number) :: waiting) (result : Outcome Nat) :
      (books.release uploadId number result).session? place = books.session? place := by
    refine Coordinator.session?_release_of_ne ?_ result
    rintro rfl
    exact missed List.mem_cons_self
  cases part with
  | ends | storeBegins | mergeBegins | mergeContinues => rfl
  | cancelContinues | readBegins | readContinues | sweepContinues => rfl
  | records found pending => exact spared (before _ rfl _)
  | completes last found accepts => exact spared (before _ rfl _)
  | cancelBegins found pending free => exact spared (later _ rfl _)
  | cancelEnds ended => exact spared (before _ rfl _)
  | sweepBegins candidates taken => exact spared (later _ rfl _)
  | sweepTurns ended taken => exact (spared (later _ rfl _)).trans (released (before _ rfl _) _)
  | sweepEnds ended => exact released (before _ rfl _) _

end Parts

/-! ### Events aside from an upload -/

namespace System.Hosts

variable {system : System} {event : Event} {uploadId : String} {place : SessionId} {session : Session}

theorem next (hosts : system.Hosts uploadId place session) {after : Session}
    (finds : (system.next event).coordinator.find uploadId = .ok (place, after)) :
    (system.next event).Hosts uploadId place after where
  named := hosts.named.next event
  tidy := hosts.tidy.next event
  coherent := hosts.coherent.next event
  finds := finds

theorem valid (hosts : system.Hosts uploadId place session) : isValidId uploadId :=
  (hosts.tidy.tracked uploadId place (Coordinator.find_eq_ok.1 hosts.finds).1).1

theorem inTime_iff (hosts : system.Hosts uploadId place session) :
    system.InTime uploadId ↔ session.isAbandoned system.clock = false := by
  obtain ⟨leads, found⟩ := Coordinator.find_eq_ok.1 hosts.finds
  constructor
  · exact fun inTime => inTime place leads session found
  · intro timely other alsoLeads held alsoFound
    cases leads.symm.trans alsoLeads
    cases found.symm.trans alsoFound
    exact timely

/-- What is under the number of the session belongs to the identifier. -/
theorem names (hosts : system.Hosts uploadId place session) {other : String}
    (names : system.coordinator.Names other place) : other = uploadId := by
  obtain ⟨leads, found⟩ := Coordinator.find_eq_ok.1 hosts.finds
  obtain ⟨one, foundOne, named⟩ := hosts.named.tracked uploadId place leads
  obtain ⟨two, foundTwo, named'⟩ := names
  cases foundOne.symm.trans foundTwo
  exact named'.symm.trans named

/-- A part of a call that works on other uploads leaves the session as it is, and the identifier
leading to it. -/
theorem find_of_part (hosts : system.Hosts uploadId place session) {call : Call} {flight : Option Flight}
    {books : Coordinator} {waits : Option Pending}
    (part : Part system.clock system.coordinator call flight books waits)
    (flies : ∀ held ∈ flight, ∃ number, system.flights number = some held)
    (before : ∀ held ∈ flight, uploadId ∉ held.pending.uploadIds)
    (later : ∀ pending ∈ waits, uploadId ∉ pending.uploadIds) :
    books.find uploadId = .ok (place, session) := by
  obtain ⟨leads, found⟩ := Coordinator.find_eq_ok.1 hosts.finds
  have notHeld : ∀ held ∈ flight, ∀ other, (other, place) ∉ held.pending.bindings := by
    intro held isFlight other member
    obtain ⟨number, same⟩ := flies held isFlight
    cases hosts.names (hosts.named.held number held same _ member)
    exact before held isFlight (Pending.mem_uploadIds member)
  have notTaken : ∀ pending ∈ waits, ∀ other, (other, place) ∉ pending.bindings := by
    rintro pending ⟨⟩ other member
    rcases part.bindings member with tracked | ⟨held, isFlight, among⟩
    · cases hosts.names (hosts.named.tracked other place tracked)
      exact later pending rfl (Pending.mem_uploadIds member)
    · exact notHeld held isFlight other among
  refine Coordinator.find_eq_ok.2 ⟨(part.tracked_iff fun duty works same => ?_).2 leads, ?_⟩
  · obtain ⟨held, isFlight, isDuty⟩ := Option.bind_eq_some_iff.1 works
    exact notHeld held isFlight duty.uploadId (same ▸ Pending.duty_mem_bindings isDuty)
  · exact (part.session?_of_not_mem notHeld notTaken).trans found

/-- A call that begins aside from an upload does not work on it, as long as its session is not
abandoned. -/
theorem not_mem_uploadIds (hosts : system.Hosts uploadId place session) (inTime : system.InTime uploadId)
    (aside : system.Aside uploadId event) {call : Call} {books : Coordinator} {pending : Pending}
    (opens : event.call? = some call)
    (part : Part system.clock system.coordinator call none books (some pending)) :
    uploadId ∉ pending.uploadIds := by
  intro member
  obtain ⟨other, held, finds, isAbout | abandoned⟩ := part.uploadIds_begins member
  · cases event with
    | tick | announce | serve | resume => cases opens
    | begin made =>
      cases opens
      exact aside isAbout
    | sweep order =>
      cases opens
      cases isAbout
  · cases hosts.finds.symm.trans finds
    rw [hosts.inTime_iff.1 inTime] at abandoned
    cases abandoned

/-- An event aside from an upload leaves the identifier leading to its session, and the session as it
is. -/
theorem find_of_aside (hosts : system.Hosts uploadId place session) (inTime : system.InTime uploadId)
    (aside : system.Aside uploadId event) :
    (system.next event).coordinator.find uploadId = .ok (place, session) := by
  have moves := system.move event
  generalize system.next event = after at moves
  cases moves with
  | idles | ticks | serves => exact hosts.finds
  | announces user announced =>
    rcases system.coordinator.announce_cases user announced with same | ⟨equal, -⟩
    · exact (congrArg (·.find uploadId) same).trans hosts.finds
    · obtain ⟨leads, found⟩ := Coordinator.find_eq_ok.1 hosts.finds
      refine (congrArg (·.1.find uploadId) equal).trans (Coordinator.find_eq_ok.2 ⟨?_, ?_⟩)
      · exact (Coordinator.get?_tracked_track.trans (if_neg aside)).trans leads
      · refine (Coordinator.session?_track.trans (if_neg ?_)).trans found
        exact Nat.ne_of_lt (Coordinator.lt_size_of_session? found)
  | begins opens part =>
    refine hosts.find_of_part part (fun _ none => by cases none) (fun _ none => by cases none) ?_
    rintro pending ⟨⟩
    exact hosts.not_mem_uploadIds inTime aside opens part
  | @resumes number flight books waits answered part =>
    have idle : uploadId ∉ flight.pending.uploadIds := fun member => aside ⟨flight, answered, member⟩
    refine hosts.find_of_part part ?_ ?_ ?_
    · rintro held ⟨⟩
      exact ⟨number, answered⟩
    · rintro held ⟨⟩
      exact idle
    · rintro pending ⟨⟩ member
      exact idle (part.uploadIds_continues member)

/-- An event aside from an upload leaves the calls alone that are at work on it, and adds none. -/
theorem flights_of_aside (hosts : system.Hosts uploadId place session) (inTime : system.InTime uploadId)
    (aside : system.Aside uploadId event) {number : Nat}
    (works : system.WorksOn number uploadId ∨ (system.next event).WorksOn number uploadId) :
    (system.next event).flights number = system.flights number := by
  have moves := system.move event
  generalize system.next event = after at moves works
  cases moves with
  | idles | ticks | announces => rfl
  | begins opens part =>
    by_cases same : number = system.begun
    · subst same
      obtain ⟨flight, flies, -⟩ | ⟨flight, flies, member⟩ := works
      · exact absurd (hosts.coherent.lt_begun flies) (Nat.lt_irrefl _)
      · dsimp only at flies
        rw [Function.update_self] at flies
        obtain ⟨pending, rfl, rfl⟩ := Option.map_eq_some_iff.1 flies
        exact absurd member (hosts.not_mem_uploadIds inTime aside opens part)
    · exact Function.update_of_ne same ..
  | serves waits =>
    refine Function.update_of_ne ?_ ..
    rintro rfl
    obtain before | ⟨flight, flies, member⟩ := works
    · exact aside before
    · cases (Function.update_self ..).symm.trans flies
      exact aside ⟨_, waits, member⟩
  | resumes answered part =>
    refine Function.update_of_ne ?_ ..
    rintro rfl
    obtain before | ⟨flight, flies, member⟩ := works
    · exact aside before
    · dsimp only at flies
      rw [Function.update_self] at flies
      obtain ⟨pending, rfl, rfl⟩ := Option.map_eq_some_iff.1 flies
      exact aside ⟨_, answered, part.uploadIds_continues member⟩

/-- An event aside from an upload leaves its chunks as they are. -/
theorem chunk?_of_aside (hosts : system.Hosts uploadId place session)
    (aside : system.Aside uploadId event) (index : Nat) :
    (system.next event).chunk? uploadId index = system.chunk? uploadId index := by
  rcases hosts.tidy.chunk?_next hosts.valid index event with
    same | ⟨number, fate, rfl, ⟨data, ⟨call, session, waits⟩, -⟩ |
      ⟨⟨flight, duty, flies, works, rfl⟩, -⟩⟩
  · exact same
  · exact absurd ⟨_, waits, List.mem_cons_self⟩ aside
  · exact absurd ⟨flight, flies, Pending.mem_uploadIds (Pending.duty_mem_bindings works)⟩ aside

/-- An event aside from an upload touches nothing of it, as long as its session is not abandoned. -/
theorem untouched (hosts : system.Hosts uploadId place session) (inTime : system.InTime uploadId)
    (aside : system.Aside uploadId event) : Untouched uploadId system (system.next event) where
  finds := (hosts.find_of_aside inTime aside).trans hosts.finds.symm
  chunks := hosts.chunk?_of_aside aside
  flights _ works := hosts.flights_of_aside inTime aside works

end System.Hosts

/-- No call on an upload returns by an event aside from it. -/
theorem System.Coherent.not_returned_of_aside {system : System} {event : Event} {uploadId : String}
    (coherent : system.Coherent) (aside : system.Aside uploadId event) {number : Nat} {call : Call}
    (isAbout : call.uploadId? = some uploadId) (outcome : Outcome Reply) :
    (system.step event).2 ≠ some (.returned number call outcome) := by
  intro told
  rcases step_returned told with ⟨rfl, -, -⟩ | ⟨_, -, rfl⟩ | ⟨rfl, pending, answer, flies, -⟩
  · exact aside isAbout
  · cases isAbout
  · refine aside ⟨_, flies, ?_⟩
    have stands := coherent.stands number _ flies
    cases pending with
    | store | merge | read =>
      cases stands
      cases isAbout
      exact List.mem_cons_self
    | cancel other place cleanup =>
      obtain ⟨user, rfl⟩ := stands
      cases isAbout
      exact List.mem_cons_self
    | sweep started other place cleanup waiting report =>
      cases stands
      cases isAbout

end Community.Upload
