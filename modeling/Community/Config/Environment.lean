/-
This file reads the configuration from environment variables. A variable counts as unset when it is
missing, when its bytes are not text, or when it does not hold what the setting needs: a positive number of
64 bits in decimal digits, or a text that is not empty. An unset variable leaves the default.
-/

import Community.Config
import Community.Table
import Community.Text.Blank

namespace Community

open Community.Text

/-- The environment variables that are set, by name; their values are bytes. -/
abbrev Environment := Table String ByteArray

namespace Environment

/-- The text of a variable. -/
def text? (environment : Environment) (name : String) : Option String :=
  (environment.get? name).bind String.fromUTF8?

/-- The natural number that decimal digits stand for, if there is a digit and nothing else. -/
def natural? (text : List Char) : Option Nat :=
  if text ≠ [] ∧ text.all Char.isDigit then
    some (text.foldl (fun value c => 10 * value + (c.toNat - '0'.toNat)) 0)
  else
    none

/-- A number of 64 bits in decimal digits, with an optional plus before them and blanks around it. -/
def readWord? (text : String) : Option Nat :=
  let value? :=
    match trim text.toList with
    | '+' :: digits => natural? digits
    | digits => natural? digits
  value?.filter (· < UInt64.size)

/-- The positive number in a variable, or the default. -/
def positive (environment : Environment) (name : String) (default : Nat) : Nat :=
  (((environment.text? name).bind readWord?).filter (0 < ·)).getD default

/-- The positive number of seconds in a variable, or the default. -/
def seconds (environment : Environment) (name : String) (default : Duration) : Duration :=
  ((((environment.text? name).bind readWord?).filter (0 < ·)).map Duration.ofSeconds).getD default

/-- The positive number of mebibytes in a variable, or the default, in bytes. A size is a word of 64
bits, so the bytes of a count that is too large wrap around. -/
def mebibytes (environment : Environment) (name : String) (default : Nat) : Nat :=
  environment.positive name (default / bytesPerMebibyte) * bytesPerMebibyte % UInt64.size

/-- The text in a variable, unless it is empty. -/
def filled? (environment : Environment) (name : String) : Option String :=
  (environment.text? name).filter (· ≠ "")

/-- The limits of a cache group, from the variables that begin with its name. -/
def group (environment : Environment) (name : String) (default : GroupConfig) : GroupConfig where
  capacity := environment.positive (name ++ "_CAPACITY") default.capacity
  maxMemory := environment.mebibytes (name ++ "_MAX_MEMORY_MB") default.maxMemory
  ttl := environment.seconds (name ++ "_TTL_SECS") default.ttl

/-- The settings of the caches. -/
def cache (environment : Environment) : CacheConfig :=
  let default : CacheConfig := {}
  { defaultTtl := environment.seconds "CACHE_DEFAULT_TTL_SECS" default.defaultTtl
    cleanupInterval := environment.seconds "CACHE_CLEANUP_INTERVAL_SECS" default.cleanupInterval
    article := environment.group "CACHE_ARTICLE" default.article
    user := environment.group "CACHE_USER" default.user
    list := environment.group "CACHE_LIST" default.list
    categoriesTtl := environment.seconds "CACHE_CATEGORIES_TTL_SECS" default.categoriesTtl
    tagsTtl := environment.seconds "CACHE_TAGS_TTL_SECS" default.tagsTtl
    articleDetailTtl :=
      environment.seconds "CACHE_ARTICLE_DETAIL_TTL_SECS" default.articleDetailTtl
    onlineCountTtl := environment.seconds "CACHE_ONLINE_COUNT_TTL_SECS" default.onlineCountTtl
    warmupTimeout := environment.seconds "CACHE_WARMUP_TIMEOUT_SECS" default.warmupTimeout }

/-- The settings of the usage figures. -/
def metrics (environment : Environment) : MetricsConfig :=
  let default : MetricsConfig := {}
  { onlineUserCleanupInterval :=
      environment.seconds "METRICS_ONLINE_CLEANUP_INTERVAL_SECS" default.onlineUserCleanupInterval
    onlineUserExpire := environment.seconds "METRICS_ONLINE_EXPIRE_SECS" default.onlineUserExpire
    cpuTaskBaseline := environment.positive "METRICS_CPU_TASK_BASELINE" default.cpuTaskBaseline
    activeUsersInitial :=
      environment.positive "METRICS_ACTIVE_USERS_INITIAL" default.activeUsersInitial
    endpointCallsInitial :=
      environment.positive "METRICS_ENDPOINT_CALLS_INITIAL" default.endpointCallsInitial
    onlineUsersInitial :=
      environment.positive "METRICS_ONLINE_USERS_INITIAL" default.onlineUsersInitial }

/-- The settings of the uploads. -/
def upload (environment : Environment) : UploadConfig :=
  let default : UploadConfig := {}
  { chunkSizeBytes := environment.mebibytes "UPLOAD_CHUNK_SIZE_MB" default.chunkSizeBytes
    sessionTtl := environment.seconds "UPLOAD_SESSION_TTL_SECS" default.sessionTtl
    sweepInterval := environment.seconds "UPLOAD_SWEEP_INTERVAL_SECS" default.sweepInterval
    storageRoot :=
      ((environment.filled? "UPLOAD_STORAGE_ROOT").map String.toUTF8).getD default.storageRoot
    publicBaseUrl := (environment.filled? "UPLOAD_PUBLIC_BASE_URL").getD default.publicBaseUrl }

end Environment

/-- The configuration that environment variables describe. -/
def Config.ofEnvironment (environment : Environment) : Config where
  cache := environment.cache
  metrics := environment.metrics
  upload := environment.upload
  catalogPath := (environment.filled? "ARTICLE_CATALOG_PATH").map String.toUTF8

end Community
