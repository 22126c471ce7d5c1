/-
This file holds what a cache keeps under a key: a value, its weight in bytes, and the time at which it
stops being served. Cache time is a whole number of milliseconds that fits in 64 bits. An entry is visible
strictly before its expiry and gone from that instant on; a lifetime of zero means that it never expires.
-/

import Community.Time.Duration

namespace Community.Cache

/-- Values with a weight, the bytes that they are taken to occupy. -/
class Weighed (ν : Type) where
  weight : ν → Nat

export Weighed (weight)

instance : Weighed String := ⟨String.utf8ByteSize⟩
instance : Weighed ByteArray := ⟨ByteArray.size⟩
instance : Weighed Bool := ⟨fun _ => 1⟩
instance : Weighed Int32 := ⟨fun _ => 4⟩
instance : Weighed UInt32 := ⟨fun _ => 4⟩
instance : Weighed Float32 := ⟨fun _ => 4⟩
instance : Weighed Int64 := ⟨fun _ => 8⟩
instance : Weighed UInt64 := ⟨fun _ => 8⟩
instance : Weighed Float := ⟨fun _ => 8⟩

/-- The end of cache time, the largest number of 64 bits. -/
def endOfTime : Nat := UInt64.size - 1

/-- The cache time at a reading of the wall clock in milliseconds since the epoch. Before the epoch cache
time stands still at zero. -/
def timeOfClock (millis : Int) : Nat :=
  millis.toNat

/-- The milliseconds of a lifetime, of which the low 64 bits count. -/
def lifetimeMillis (ttl : Duration) : Nat :=
  ttl.millis % UInt64.size

/-- The expiry of what is stored now for a lifetime. -/
def expiry (now : Nat) (ttl : Duration) : Option Nat :=
  if ttl.isZero then none else some (min (now + lifetimeMillis ttl) endOfTime)

/-- A value in a cache. -/
structure Entry (ν : Type) where
  value : ν
  sizeBytes : Nat
  createdAt : Nat
  /-- When the value stops being served; `none` for never. -/
  expiresAt : Option Nat
  deriving DecidableEq, Repr

namespace Entry

variable {ν : Type}

/-- An entry stored now. -/
def create (value : ν) (sizeBytes now : Nat) (ttl : Duration) : Entry ν :=
  ⟨value, sizeBytes, now, expiry now ttl⟩

/-- Has the entry expired? -/
def isExpired (entry : Entry ν) (now : Nat) : Bool :=
  match entry.expiresAt with
  | some expires => expires ≤ now
  | none => false

/-- The time that is left to an entry with an expiry. -/
def remaining (entry : Entry ν) (now : Nat) : Option Duration :=
  entry.expiresAt.map fun expires => .ofMillis (expires - now)

end Entry

end Community.Cache
