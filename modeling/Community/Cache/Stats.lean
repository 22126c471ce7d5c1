/-
This file reports how a cache performs: how many reads found a value, how many did not, how many entries
were pushed out by others, and how full the cache is.
-/

namespace Community.Cache

/-- A cache's performance and occupancy at one moment. -/
structure Stats where
  hits : Nat := 0
  misses : Nat := 0
  evictions : Nat := 0
  currentSize : Nat := 0
  currentMemory : Nat := 0
  /-- The most entries; zero for a cache without bounds. -/
  capacity : Nat := 0
  maxMemory : Nat := 0
  deriving DecidableEq, Repr

/-- The share of reads that found a value; zero before the first read. Counters have 64 bits, and so
does their sum. -/
def Stats.hitRate (stats : Stats) : Float :=
  let total := UInt64.ofNat (stats.hits + stats.misses)
  if total = 0 then 0.0 else (UInt64.ofNat stats.hits).toFloat / total.toFloat

end Community.Cache
