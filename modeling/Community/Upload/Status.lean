/-
This file describes where an upload stands. It starts out pending and ends completed or cancelled; only
while it is pending may it change. Records name a status in lower case or keep its code, messages name it
with a capital.
-/

import Community.Json.Record

namespace Community.Upload

open Community.Json

/-- Where an upload stands. -/
inductive Status where
  | pending
  | completed
  | cancelled
  deriving DecidableEq, Repr

namespace Status

/-- The code under which a status is kept in records. -/
def code : Status → Nat
  | pending => 0
  | completed => 1
  | cancelled => 2

/-- The status with a code. -/
def ofCode? : Nat → Option Status
  | 0 => some pending
  | 1 => some completed
  | 2 => some cancelled
  | _ => none

theorem ofCode?_code (status : Status) : ofCode? status.code = some status := by
  cases status <;> rfl

/-- Is the upload at its end? -/
def isTerminal : Status → Bool
  | pending => false
  | completed => true
  | cancelled => true

/-- The name of a status in records. -/
def name : Status → String
  | pending => "pending"
  | completed => "completed"
  | cancelled => "cancelled"

/-- The name of a status in messages. -/
def title : Status → String
  | pending => "Pending"
  | completed => "Completed"
  | cancelled => "Cancelled"

/-- The status with a name. -/
def ofName? (text : String) : Option Status :=
  if text = pending.name then some pending
  else if text = completed.name then some completed
  else if text = cancelled.name then some cancelled
  else none

/-- Reads a status: its name, or an object whose one member has that name and is null. -/
def ofDocument? : Document → Option Status
  | .text raw => (Community.Json.stringOfRaw? raw).bind ofName?
  | .members [(raw, .null)] => (Community.Json.stringOfRaw? raw).bind ofName?
  | _ => none

end Status

end Community.Upload
