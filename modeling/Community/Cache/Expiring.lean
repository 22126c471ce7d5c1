/-
This file is the cache without bounds. Its entries go by expiry, by deletion or when the cache is cleared,
and in no other way. An entry that has expired is never served: a read removes it when it meets it, and a
cleanup removes all of them.
-/

import Community.Cache.Entry
import Community.Cache.Stats
import Community.Table

namespace Community.Cache

/-- A map whose entries expire. -/
structure Expiring (ν : Type) where
  entries : Table String (Entry ν) := ∅
  hits : Nat := 0
  misses : Nat := 0
  /-- The lifetime of what is stored without one of its own. -/
  defaultTtl : Duration

namespace Expiring

variable {ν : Type}

/-- The cache without entries. -/
def create (defaultTtl : Duration) : Expiring ν :=
  { defaultTtl }

/-- Stores a value for a lifetime, in place of what the key held. -/
def setWithTtl (cache : Expiring ν) (now : Nat) (key : String) (value : ν) (ttl : Duration) :
    Expiring ν :=
  { cache with entries := cache.entries.insert key (.create value 0 now ttl) }

/-- Stores a value for the cache's own lifetime. -/
def set (cache : Expiring ν) (now : Nat) (key : String) (value : ν) : Expiring ν :=
  cache.setWithTtl now key value cache.defaultTtl

/-- Reads a value. A key that is absent and one that has expired look alike, but the latter is
removed. -/
def get (cache : Expiring ν) (now : Nat) (key : String) : Expiring ν × Option ν :=
  match cache.entries.get? key with
  | none => ({ cache with misses := cache.misses + 1 }, none)
  | some entry =>
    if entry.isExpired now then
      ({ cache with entries := cache.entries.erase key, misses := cache.misses + 1 }, none)
    else
      ({ cache with hits := cache.hits + 1 }, some entry.value)

/-- Removes a key, and tells whether it held an entry, live or not. -/
def delete (cache : Expiring ν) (key : String) : Expiring ν × Bool :=
  ({ cache with entries := cache.entries.erase key }, cache.entries.contains key)

/-- Removes every entry; the counters stay. -/
def clear (cache : Expiring ν) : Expiring ν :=
  { cache with entries := ∅ }

/-- The number of entries that are not expired. -/
def size (cache : Expiring ν) (now : Nat) : Nat :=
  (cache.entries.filter fun _ entry => !entry.isExpired now).size

/-- Removes the entries that have expired, and tells how many they were. -/
def cleanup (cache : Expiring ν) (now : Nat) : Expiring ν × Nat :=
  let kept := cache.entries.filter fun _ entry => !entry.isExpired now
  ({ cache with entries := kept }, cache.entries.size - kept.size)

/-- The counters and the number of live entries. -/
def stats (cache : Expiring ν) (now : Nat) : Stats :=
  { hits := cache.hits, misses := cache.misses, currentSize := cache.size now }

end Expiring

end Community.Cache
