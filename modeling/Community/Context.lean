/-
This file carries a caller's patience into the calls made on its behalf: a deadline, if there is one, and a
token by which the caller can give up. A context made below another one ends no later than it and is
cancelled with it.

When several things happen at one instant, cancellation counts before the deadline and the deadline before
the result.
-/

import Community.Context.Token
import Community.Time.Instant
import Community.Error

namespace Community

/-- A caller's deadline and token. -/
structure RequestContext where
  deadline : Option Instant
  token : TokenId
  deriving DecidableEq, Repr

/-- Why an operation was given up before it finished. -/
inductive Interruption where
  | cancelled
  | timedOut
  deriving DecidableEq, Repr

/-- The failure of an operation that was given up. -/
def Interruption.toError (operation : String) : Interruption → ServiceError
  | cancelled => .cancelled operation
  | timedOut => .timeout operation

namespace RequestContext

/-- A context without deadline, on a token of its own. -/
def fresh (forest : TokenForest) : TokenForest × RequestContext :=
  let (forest, token) := forest.root
  (forest, ⟨none, token⟩)

/-- A context with a deadline, on a token of its own. -/
def withDeadline (forest : TokenForest) (deadline : Instant) : TokenForest × RequestContext :=
  let (forest, token) := forest.root
  (forest, ⟨some deadline, token⟩)

/-- A context that ends after a span of time; none if instants do not reach that far. -/
def withTimeout? (forest : TokenForest) (now : Instant) (timeout : Duration) :
    Option (TokenForest × RequestContext) :=
  (now.after? timeout).map (withDeadline forest)

/-- A context on a given token, without deadline. -/
def withToken (token : TokenId) : RequestContext :=
  ⟨none, token⟩

/-- A context below another one: it ends after a span of time, or when the other one does; none if
instants do not reach that far. -/
def child? (forest : TokenForest) (parent : RequestContext) (now : Instant) (timeout : Duration) :
    Option (TokenForest × RequestContext) :=
  (now.after? timeout).map fun candidate =>
    let deadline := (parent.deadline.map fun existing => existing.earlier candidate).getD candidate
    let (forest, token) := forest.child parent.token
    (forest, ⟨some deadline, token⟩)

/-- The millisecond at which the deadline makes itself felt. -/
def deadlineMillis? (context : RequestContext) : Option Nat :=
  context.deadline.map Instant.wakeMillis

/-- Why work under the context has to stop at a moment, if it does. -/
def interruption? (context : RequestContext) (forest : TokenForest) (now : Nat) :
    Option Interruption :=
  if forest.isCancelled context.token then some .cancelled
  else
    match context.deadlineMillis? with
    | some due => if due ≤ now then some .timedOut else none
    | none => none

end RequestContext

end Community
