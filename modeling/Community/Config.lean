/-
This file holds every limit, lifetime and interval of the service, with the values that apply when
nothing else is configured. Nothing downstream fixes a size of its own.
-/

import Community.Time.Duration

namespace Community

/-- Bytes in a mebibyte. -/
def bytesPerMebibyte : Nat := 1048576

/-- The limits of one bounded cache group. -/
structure GroupConfig where
  /-- The most entries that stay resident. -/
  capacity : Nat
  /-- The most bytes of payload that stay resident. -/
  maxMemory : Nat
  /-- The lifetime of an entry that is stored without one of its own. -/
  ttl : Duration
  deriving DecidableEq, Repr

/-- A group given in entries, mebibytes and seconds. -/
def GroupConfig.of (capacity mebibytes seconds : Nat) : GroupConfig :=
  ⟨capacity, mebibytes * bytesPerMebibyte, .ofSeconds seconds⟩

/-- The caches: lifetimes of their slots, limits of their groups and the intervals of their upkeep. -/
structure CacheConfig where
  defaultTtl : Duration := .ofSeconds 300
  cleanupInterval : Duration := .ofSeconds 60
  article : GroupConfig := .of 500 50 300
  user : GroupConfig := .of 1000 10 600
  list : GroupConfig := .of 100 20 120
  categoriesTtl : Duration := .ofSeconds 3600
  tagsTtl : Duration := .ofSeconds 1800
  articleDetailTtl : Duration := .ofSeconds 300
  onlineCountTtl : Duration := .ofSeconds 10
  /-- The most time that the preload at the start may take. -/
  warmupTimeout : Duration := .ofSeconds 30
  deriving DecidableEq, Repr

/-- The usage figures. -/
structure MetricsConfig where
  onlineUserCleanupInterval : Duration := .ofSeconds 60
  /-- How long a user without activity still counts as online. -/
  onlineUserExpire : Duration := .ofSeconds 300
  /-- The number of running tasks that counts as a full load. -/
  cpuTaskBaseline : Nat := 200
  activeUsersInitial : Nat := 500
  endpointCallsInitial : Nat := 50
  onlineUsersInitial : Nat := 1000
  deriving DecidableEq, Repr

/-- The uploads and the place where their chunks are kept. A path is a string of bytes. -/
structure UploadConfig where
  /-- The size into which clients are told to cut their files. -/
  chunkSizeBytes : Nat := 2 * bytesPerMebibyte
  sessionTtl : Duration := .ofSeconds 86400
  sweepInterval : Duration := .ofSeconds 600
  storageRoot : ByteArray := "./data/blobs".toUTF8
  publicBaseUrl : String := "http://localhost:9000/resource-chunks"

/-- The configuration of the service, one section for each part of it. -/
structure Config where
  cache : CacheConfig := {}
  metrics : MetricsConfig := {}
  upload : UploadConfig := {}
  /-- The file from which articles are served, if there is one. -/
  catalogPath : Option ByteArray := none

end Community
