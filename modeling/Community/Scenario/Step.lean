/-
This file lists what a scenario can do. A scenario drives all services by steps, one after the other, in
virtual time. Rules intervene in the calls that the services make on the articles and on the blob store: a
rule can delay a call, make it fail, and run steps of its own before or after it, which is how two calls are
made to overlap.
-/

import Community.Blob.Request
import Community.Cache.Service
import Community.Catalog.Repository
import Community.Context
import Community.Metrics.Telemetry
import Community.Upload.Call

namespace Community.Scenario

/-- The calls in which a rule can intervene. -/
inductive Target where
  | categories
  | tags
  | article
  | put
  | contains
  | fetch
  | remove
  | list
  deriving DecidableEq, Repr

/-- When a load from elsewhere is over. -/
inductive Delay where
  | after (millis : Nat)
  | never
  deriving DecidableEq, Repr

/-- What a loader can do on the way to its outcome. -/
inductive Deed where
  /-- Cancels the context under which it runs. -/
  | cancel
  /-- Goes on for some milliseconds without waiting. -/
  | occupy (millis : Nat)
  deriving DecidableEq, Repr

/-- Where the content of a subject is loaded from: the repository serves its own, a loader brings a given
outcome after a delay, and may do something when the delay is over. -/
inductive Source : Cache.Subject → Type where
  | categories : Source .categories
  | tags : Source .tags
  | article (id viewer : UInt64) : Source (.article id viewer)
  | loader {subject : Cache.Subject} (delay : Delay) (outcome : Outcome subject.Content)
      (deeds : List Deed := []) : Source subject

/-- The patience with which a step waits for a load. -/
structure Patience where
  timeout : Option Duration := none
  cancelled : Bool := false
  cancelAfter : Option Nat := none

/-- Tasks that can be put among the background tasks. -/
inductive TaskKind where
  /-- Never ends by itself. -/
  | stuck
  /-- Ends at once by breaking down. -/
  | broken
  /-- Waits to be asked to stop, and then some milliseconds more. -/
  | lingering (millis : Nat)
  deriving DecidableEq, Repr

/-- Cache groups whose keys are the caller's own. -/
inductive OpenGroup where
  | user
  | list
  deriving DecidableEq, Repr

mutual

/-- One step of a scenario. -/
inductive Step where
  /-- Lets time pass; everything that is due by then has happened when the step ends. -/
  | advance (millis : Nat)
  | setClock (millis : Int)
  | moveClock (millis : Int)
  | readClock
  | setCategories (categories : List Category)
  | setTags (tags : List Tag)
  | putArticle (article : Article)
  | setLiked (article user : UInt64) (liked : Bool)
  | allCategories
  | allTags
  | article (id viewer : UInt64)
  /-- Reads a subject through the cache. -/
  | read (subject : Cache.Subject) (source : Source subject) (patience : Patience)
  | warmUp (patience : Patience)
  | invalidateCategories
  | invalidateTags
  | invalidateArticle (id : UInt64)
  | invalidateUser (id : UInt64)
  | invalidateList (key : String)
  | pruneIndex
  | setOnlineCount (count : Int64)
  | getOnlineCount
  | setBytes (group : OpenGroup) (key : String) (bytes : ByteArray) (ttl : Option Duration)
  | getBytes (group : OpenGroup) (key : String)
  | peekBytes (group : OpenGroup) (key : String)
  | cleanup
  | clearAll
  | cacheStats
  | hitRates
  | login (user : UInt64)
  | register
  | request (endpoint : String) (latencyMs : Int64) (success error : Bool)
  | openRequest
  | closeRequest
  | today
  | activity (user : UInt64)
  | sweepOnline
  | countRequest
  | noteError
  /-- The load with so many more tasks running. -/
  | system (tasks : Nat)
  | snapshot (tasks : Nat)
  /-- Opens a request and keeps its guard under a name; the request whose guard had that name is given
  up. -/
  | beginRequest (guard endpoint : String)
  | finishRequest (guard : String) (status : Nat) (user : UInt64)
  | dropRequest (guard : String)
  | telemetry
  | announce (user : UInt64) (announced : Upload.Announcement)
  | upload (call : Upload.Call)
  | uploadReport (uploadId : String)
  | uploadCount
  /-- Asks the blob store directly; no rule intervenes. -/
  | blob (request : Blob.Request)
  | publicUrl (path : String)
  | spawnBackground
  | pushTask (kind : TaskKind)
  | shutdown (grace : Duration)
  | addRule (rule : Rule)
  | clearRules

/-- An intervention in calls: which ones, how often, and what happens to them. -/
inductive Rule where
  /-- The steps run before the call, or after it when `after` is set; `quiet` keeps their results out of the
  record. -/
  | mk (target : Target) (path : Option String) (times : Nat) (delay : Nat)
      (failure : Option ServiceError) (steps : List Step) (after quiet : Bool)

end

instance : Inhabited Step := ⟨.readClock⟩

instance : Inhabited Rule := ⟨.mk .put none 0 0 none [] false false⟩

namespace Rule

/-- The calls that the rule is about. -/
def target : Rule → Target
  | mk target .. => target

/-- The path that a call must have, if the rule names one. -/
def path : Rule → Option String
  | mk _ path .. => path

/-- How many more calls the rule applies to. -/
def times : Rule → Nat
  | mk _ _ times .. => times

/-- The milliseconds by which the rule delays a call. -/
def delay : Rule → Nat
  | mk _ _ _ delay .. => delay

/-- The failure with which the rule replaces a call. -/
def failure : Rule → Option ServiceError
  | mk _ _ _ _ failure .. => failure

/-- The steps that the rule runs. -/
def steps : Rule → List Step
  | mk _ _ _ _ _ steps .. => steps

/-- Do the steps run after the call? -/
def after : Rule → Bool
  | mk _ _ _ _ _ _ after _ => after

/-- Are the results of the steps kept out of the record? -/
def quiet : Rule → Bool
  | mk _ _ _ _ _ _ _ quiet => quiet

/-- The rule with one application less. -/
def used : Rule → Rule
  | mk target path times delay failure steps after quiet =>
    mk target path (times - 1) delay failure steps after quiet

/-- Does the rule intervene in a call? -/
def applies (rule : Rule) (target : Target) (path : String) : Bool :=
  rule.target = target && 0 < rule.times &&
    match rule.path with
    | some named => named = path
    | none => true

end Rule

/-- What a step returns when it succeeds. -/
inductive Reply where
  | unit
  | flag (value : Bool)
  | number (value : Int)
  | text (value : String)
  | bytes (data : Option ByteArray)
  | categories (categories : List Category)
  | tags (tags : List Tag)
  | article (article : Article)
  | content (subject : Cache.Subject) (content : subject.Content)
  | onlineCount (count : Option Int64)
  | cacheStats (stats : Cache.Group → Cache.Stats) (indexedArticles : Nat)
  | rates (rates : List Float)
  | today (figures : Metrics.Today)
  | system (load : Metrics.SystemLoad)
  | snapshot (snapshot : Metrics.Snapshot)
  | gauges (openRequests onlineUsers : Nat)
  | receipt (receipt : Upload.Receipt)
  | uploadReport (report : Upload.Report)
  | upload (reply : Upload.Reply)
  | paths (paths : List String)
  | tasks (first : Bool) (count : Nat)

/-- Why a step failed: a failure of a service, a time out of the range of a clock, or work that would wait or
run in the background where no task can run. -/
inductive Failure where
  | service (error : ServiceError)
  | outOfRange
  | noRuntime
  deriving DecidableEq, Repr

/-- The result of a step. -/
abbrev Result := Except Failure Reply

/-- The result of a step that is a call of a service. -/
def Result.ofOutcome {α : Type} (reply : α → Reply) : Outcome α → Result
  | .ok value => .ok (reply value)
  | .error error => .error (.service error)

/-- The upload that a step names. -/
def Step.uploadId? : Step → Option String
  | .announce _ announced => some announced.uploadId
  | .upload (.store uploadId ..) => some uploadId
  | .upload (.merge uploadId) => some uploadId
  | .upload (.cancel uploadId _) => some uploadId
  | .upload (.read uploadId) => some uploadId
  | .uploadReport uploadId => some uploadId
  | _ => none

end Community.Scenario
