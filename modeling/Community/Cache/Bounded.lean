/-
This file is the cache with bounds on the number of its entries and on their weight. Both bounds are
enforced when something is stored: entries go, the least recently used first, until both are met. What was
just stored never goes, so a value heavier than the bound stays alone until it is replaced, expires or is
pushed out by the next one.

A read of a live entry makes it the most recently used; looking at it without reading does not. An entry
that has expired still takes its place until a read, a cleanup or another entry removes it.

The weight of the entries is kept as a number of 64 bits. It starts anew from zero when it is full, and nothing
keeps it from being full: a value is taken to be as heavy as it says.
-/

import Community.Cache.Entry
import Community.Cache.Recency
import Community.Cache.Stats
import Community.Config

namespace Community.Cache

/-- The most entries of a cache that is configured with none. -/
def defaultCapacity : Nat := 10000

/-- The most bytes of a cache that is configured with none. -/
def defaultMaxMemory : Nat := 100 * bytesPerMebibyte

/-- The lifetime of entries in a cache that is configured with none. -/
def defaultLifetime : Duration := .ofSeconds 300

/-- The limits that apply: a limit of zero stands for the default one. -/
def effective (config : GroupConfig) : GroupConfig where
  capacity := if config.capacity = 0 then defaultCapacity else config.capacity
  maxMemory := if config.maxMemory = 0 then defaultMaxMemory else config.maxMemory
  ttl := if config.ttl.isZero then defaultLifetime else config.ttl

/-- A whole number as a number of 64 bits, which goes around at both ends. -/
def word (number : Int) : Nat :=
  (number % UInt64.size).toNat

/-- A cache that holds a bounded number and weight of entries. -/
structure Bounded (ν : Type) where
  config : GroupConfig
  entries : Table String (Entry ν) := ∅
  recency : Recency := {}
  /-- The total weight of the entries, in 64 bits. -/
  memory : Nat := 0
  hits : Nat := 0
  misses : Nat := 0
  evictions : Nat := 0

namespace Bounded

variable {ν : Type}

/-- The cache without entries, under the limits that apply. -/
def create (config : GroupConfig) : Bounded ν :=
  { config := effective config }

/-- Removes a key from every part of the cache. -/
def remove (cache : Bounded ν) (key : String) : Bounded ν :=
  match cache.entries.get? key with
  | some entry =>
    { cache with
      entries := cache.entries.erase key
      recency := cache.recency.remove key
      memory := word (cache.memory - entry.sizeBytes) }
  | none => cache

/-- Reads a value and makes it the most recently used. An expired entry is removed. -/
def get (cache : Bounded ν) (now : Nat) (key : String) : Bounded ν × Option ν :=
  match cache.entries.get? key with
  | none => ({ cache with misses := cache.misses + 1 }, none)
  | some entry =>
    if entry.isExpired now then
      ({ cache.remove key with misses := cache.misses + 1 }, none)
    else
      ({ cache with recency := cache.recency.touch key, hits := cache.hits + 1 }, some entry.value)

/-- The live value of a key; nothing in the cache changes. -/
def peek (cache : Bounded ν) (now : Nat) (key : String) : Option ν :=
  ((cache.entries.get? key).filter fun entry => !entry.isExpired now).map Entry.value

/-- Does the key hold a live entry? -/
def contains (cache : Bounded ν) (now : Nat) (key : String) : Bool :=
  (cache.peek now key).isSome

/-- Is one of the bounds exceeded? -/
def isOver (cache : Bounded ν) : Bool :=
  cache.config.capacity < cache.entries.size || cache.config.maxMemory < cache.memory

/-- Pushes out the least recently used entry. -/
def evict (cache : Bounded ν) : Bounded ν :=
  match cache.recency.evictOldest with
  | (recency, some victim) =>
    match cache.entries.get? victim with
    | some entry =>
      { cache with
        entries := cache.entries.erase victim
        recency
        memory := word (cache.memory - entry.sizeBytes)
        evictions := cache.evictions + 1 }
    | none => { cache with recency }
  | (_, none) => cache

/-- Pushes out entries, the least recently used first, until the bounds are met or the next one to go
would be the protected key. The count bounds how many go. -/
def shrink (kept : String) : Nat → Bounded ν → Bounded ν
  | 0, cache => cache
  | count + 1, cache =>
    if cache.isOver then
      match cache.recency.oldest? with
      | some oldest => if oldest = kept then cache else shrink kept count cache.evict
      | none => cache
    else
      cache

variable [Weighed ν]

/-- Stores a value for a lifetime as the most recently used entry, in place of what the key held, and
pushes out what no longer fits. -/
def setWithTtl (cache : Bounded ν) (now : Nat) (key : String) (value : ν) (ttl : Duration) :
    Bounded ν :=
  let replaced := ((cache.entries.get? key).map Entry.sizeBytes).getD 0
  let filled :=
    { cache with
      entries := cache.entries.insert key (.create value (weight value) now ttl)
      recency := cache.recency.touch key
      memory := word (cache.memory - replaced + weight value) }
  shrink key filled.recency.size filled

/-- Stores a value for the cache's own lifetime. -/
def set (cache : Bounded ν) (now : Nat) (key : String) (value : ν) : Bounded ν :=
  cache.setWithTtl now key value cache.config.ttl

omit [Weighed ν]

/-- Removes a key, and tells whether it held an entry, live or not. -/
def delete (cache : Bounded ν) (key : String) : Bounded ν × Bool :=
  (cache.remove key, cache.entries.contains key)

/-- Removes every entry; the counters stay. -/
def clear (cache : Bounded ν) : Bounded ν :=
  { cache with entries := ∅, recency := cache.recency.clear, memory := 0 }

/-- Removes the entries that have expired, and tells how many they were. -/
def cleanup (cache : Bounded ν) (now : Nat) : Bounded ν × Nat :=
  let expired := (cache.entries.filter fun _ entry => entry.isExpired now).keys
  (expired.foldl remove cache, expired.length)

/-- The number of resident entries, expired ones included. -/
def size (cache : Bounded ν) : Nat :=
  cache.entries.size

/-- Is nothing resident? -/
def isEmpty (cache : Bounded ν) : Bool :=
  cache.entries.isEmpty

/-- The counters and the occupancy. -/
def stats (cache : Bounded ν) : Stats where
  hits := cache.hits
  misses := cache.misses
  evictions := cache.evictions
  currentSize := cache.size
  currentMemory := cache.memory
  capacity := cache.config.capacity
  maxMemory := cache.config.maxMemory

end Bounded

end Community.Cache
