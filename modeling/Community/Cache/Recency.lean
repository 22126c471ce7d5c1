/-
This file keeps keys in the order of their last use. Every touch stamps its key with the next number of a
sequence that never goes back, not even when all keys are forgotten; so the keys stand in ascending order of
their stamps, and the first of them is the one that was used least recently.
-/

import Community.Table

namespace Community.Cache

/-- Keys by their last use. The two tables are inverse to each other. -/
structure Recency where
  /-- The stamp of each key's last touch. -/
  lastAccess : Table String Nat := ∅
  /-- The keys by stamp; stamps are given out in ascending order, so the oldest comes first. -/
  byStamp : Table Nat String := ∅
  /-- The stamp of the next touch. -/
  nextStamp : Nat := 0

namespace Recency

/-- No keys, and no touch so far. -/
def empty : Recency := {}

/-- Makes a key the most recently used one. -/
def touch (recency : Recency) (key : String) : Recency :=
  let order :=
    match recency.lastAccess.get? key with
    | some stamp => recency.byStamp.erase stamp
    | none => recency.byStamp
  { lastAccess := recency.lastAccess.insert key recency.nextStamp
    byStamp := order.insert recency.nextStamp key
    nextStamp := recency.nextStamp + 1 }

/-- Forgets a key. -/
def remove (recency : Recency) (key : String) : Recency :=
  match recency.lastAccess.get? key with
  | some stamp =>
    { recency with
      lastAccess := recency.lastAccess.erase key
      byStamp := recency.byStamp.erase stamp }
  | none => recency

/-- The least recently used key. -/
def oldest? (recency : Recency) : Option String :=
  recency.byStamp.values.head?

/-- Forgets the least recently used key, and names it. -/
def evictOldest (recency : Recency) : Recency × Option String :=
  match recency.byStamp.bindings.head? with
  | some (stamp, key) =>
    ({ recency with
        lastAccess := recency.lastAccess.erase key
        byStamp := recency.byStamp.erase stamp }, some key)
  | none => (recency, none)

/-- The stamp of a key's last touch. -/
def stamp? (recency : Recency) (key : String) : Option Nat :=
  recency.lastAccess.get? key

/-- Is the key known? -/
def contains (recency : Recency) (key : String) : Bool :=
  recency.lastAccess.contains key

/-- The number of known keys. -/
def size (recency : Recency) : Nat :=
  recency.lastAccess.size

/-- Forgets every key; the sequence keeps counting. -/
def clear (recency : Recency) : Recency :=
  { recency with lastAccess := ∅, byStamp := ∅ }

end Recency

end Community.Cache
